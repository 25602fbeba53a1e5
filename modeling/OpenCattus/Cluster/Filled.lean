import OpenCattus.Cluster.LinkCodec

/-!
# The model that `fillData` builds

`Filling` collects the values that `fillData` settles for a fresh model, `Filling.Sound`
how the answerfile and the host determine them, and `Filling.cluster` is the model they
make. `fillData_fresh` says that this is all `fillData` does.
-/

namespace OpenCattus

open Foundations Foundations.Text Foundations.Inet

/-! ## Operating system, OFED -/

namespace Cluster

theorem fillNodeOS_eq_ok {host : Host} {system : AFSystem} {os : OS} :
    fillNodeOS host system = .ok os ↔
      ∃ platform major minor, OS.Denotes system.distro system.version platform major minor ∧
        os =
          { arch := .x86_64
            family := .Linux
            platform
            distro := system.distro
            kernel := system.kernel.or host.os.kernel
            majorVersion := major
            minorVersion := minor } :=
  OS.setVersion_eq_ok

/-- The OFED stack that a section selects. -/
def ofedOf (ofed : AFOFED) : Option OFED :=
  if ofed.enabled then
    (parseOFEDKind ofed.kind).bind fun kind => ofed.version.map fun version => { kind, version }
  else some { kind := .Inbox, version := "latest" }

theorem fillOFED_eq_ok {host : Host} {afOFED : AFOFED} {cluster r : Cluster} :
    fillOFED host afOFED cluster = .ok r ↔
      ∃ ofed, ofedOf afOFED = some ofed ∧ r = { cluster with ofed := some ofed } := by
  unfold fillOFED ofedOf
  cases afOFED.enabled with
  | false =>
    simp only [Bool.false_eq_true, if_false, Except.ok.injEq, Option.some.injEq, exists_eq_left']
    exact eq_comm
  | true =>
    cases parseOFEDKind afOFED.kind with
    | none => simp
    | some kind => cases afOFED.version <;> simp [valueOf, eq_comm]

theorem fillProvisioner_eq_ok {system : AFSystem} {nodeOS : OS} {cluster r : Cluster} :
    fillProvisioner system nodeOS cluster = .ok r ↔
      ∃ provisioner, selectedProvisioner system.provisioner = .ok provisioner ∧
        validateProvisionerSupport cluster.headnode.os nodeOS provisioner = .ok () ∧
          r = { cluster with updateSystem := true, provisioner, computeNodeOS := some nodeOS } := by
  unfold fillProvisioner
  simp only [except_bind_ok, Except.ok.injEq]
  exact ⟨fun ⟨p, hp, (), hv, h⟩ => ⟨p, hp, hv, h.symm⟩, fun ⟨p, hp, hv, h⟩ => ⟨p, hp, (), hv, h.symm⟩⟩

/-! ## Nodes -/

theorem fillNodes_eq_ok {nodeOS : OS} {network : Network} {cluster r : Cluster}
    {afNodes : List AFNode} (hnetwork : cluster.getNetwork .Management = .ok network)
    (hsize : cluster.nodes.length ≤ vectorMaxSize) :
    fillNodes nodeOS cluster afNodes = .ok r ↔
      ∃ nodes, afNodes.mapM (fillNode nodeOS network) = .ok nodes ∧
        cluster.nodes.length + nodes.length ≤ vectorMaxSize ∧
          r = { cluster with nodes := cluster.nodes ++ nodes } := by
  induction afNodes generalizing cluster with
  | nil => simpa [fillNodes, hsize] using eq_comm
  | cons afNode afNodes ih =>
    simp only [fillNodes, hnetwork, except_ok_bind, except_bind_ok, List.mapM_cons, addNode,
      pushBack_eq_ok, Except.ok.injEq, except_pure]
    constructor
    · rintro ⟨node, hnode, _, ⟨_, ⟨hlt, rfl⟩, rfl⟩, hrest⟩
      have hlen : (cluster.nodes ++ [node]).length ≤ vectorMaxSize := by simp; omega
      obtain ⟨nodes, hnodes, hmax, rfl⟩ := (ih (by exact hnetwork) hlen).mp hrest
      refine ⟨node :: nodes, ⟨node, hnode, nodes, hnodes, rfl⟩, ?_, by simp⟩
      simp at hmax ⊢
      omega
    · rintro ⟨_, ⟨node, hnode, nodes, hnodes, rfl⟩, hmax, rfl⟩
      simp at hmax
      have hlen : (cluster.nodes ++ [node]).length ≤ vectorMaxSize := by simp; omega
      refine ⟨node, hnode, _, ⟨_, ⟨by omega, rfl⟩, rfl⟩, ?_⟩
      exact (ih (by exact hnetwork) hlen).mpr ⟨nodes, hnodes, by simp; omega, by simp⟩

/-! ## Mail system and generic node -/

/-- The domain of the head node after `fillData`. -/
def filledFQDN (names : AFHostname) : String :=
  names.hostname ++ "." ++ afterFirst '.' (names.hostname ++ "." ++ names.domainName)

def mailSystemOf (names : AFHostname) (mail : AFPostfix) : Result (Option Postfix) :=
  if mail.enabled then do
    let m ← fillSMTP mail
      { profile := mail.profile
        hostname := some names.hostname
        domain := some (afterFirst '.' (filledFQDN names))
        destination := some mail.destination }
    .ok (some { m with certFile := some mail.certFile, keyFile := some mail.keyFile })
  else .ok none

theorem fillPostfix_eq_ok {names : AFHostname} {mail : AFPostfix} {cluster r : Cluster}
    (hmail : cluster.mailSystem = none) (hhostname : cluster.headnode.hostname = names.hostname)
    (hfqdn : cluster.headnode.fqdn = filledFQDN names) :
    fillPostfix mail cluster = .ok r ↔
      ∃ m, mailSystemOf names mail = .ok m ∧ r = { cluster with mailSystem := m } := by
  unfold fillPostfix mailSystemOf
  cases mail.enabled with
  | false =>
    simp only [Bool.false_eq_true, if_false, Except.ok.injEq, exists_eq_left', ← hmail]
    exact eq_comm
  | true =>
    simp only [if_true, getDomainName, hhostname, hfqdn, except_bind_ok_pure]
    exact ⟨fun ⟨m, hm, h⟩ => ⟨_, ⟨m, hm, rfl⟩, h⟩, fun ⟨_, ⟨m, hm, h₁⟩, h₂⟩ => ⟨m, hm, h₁ ▸ h₂⟩⟩

/-- The values of the generic node in the model. -/
structure NodeDefaults where
  nodePrefix : String
  padding : Nat
  startIP : Address
  rootPassword : String
  sockets : Nat
  coresPerSocket : Nat
  threadsPerCore : Nat
  cpusPerNode : Nat
  realMemory : Nat
  bmcUsername : String
  bmcPassword : String
  bmcSerialPort : Nat
  bmcSerialSpeed : Nat
  deriving DecidableEq, Repr

/-- A required number. -/
def numberOf (value : Option String) : Result Nat := do
  stoul (← valueOf value)

structure NodeDefaults.Of (generic : AFNode) (d : NodeDefaults) : Prop where
  nodePrefix : generic.nodePrefix = some d.nodePrefix
  padding : numberOf generic.padding = .ok d.padding
  startIP : generic.startIp = some d.startIP
  rootPassword : generic.rootPassword = some d.rootPassword
  sockets : numberOf generic.sockets = .ok d.sockets
  coresPerSocket : numberOf generic.coresPerSocket = .ok d.coresPerSocket
  threadsPerCore : numberOf generic.threadsPerCore = .ok d.threadsPerCore
  cpusPerNode : numberOf generic.cpusPerNode = .ok d.cpusPerNode
  realMemory : numberOf generic.realMemory = .ok d.realMemory
  bmcUsername : generic.bmcUsername.getD "" = d.bmcUsername
  bmcPassword : generic.bmcPassword.getD "" = d.bmcPassword
  bmcSerialPort : stoul (generic.bmcSerialport.getD "0") = .ok d.bmcSerialPort
  bmcSerialSpeed : stoul (generic.bmcSerialspeed.getD "0") = .ok d.bmcSerialSpeed

def setDefaults (d : NodeDefaults) (cluster : Cluster) : Cluster :=
  { cluster with
    nodePrefix := d.nodePrefix
    nodePadding := d.padding
    nodeStartIP := d.startIP
    nodeRootPassword := d.rootPassword
    nodeSockets := d.sockets
    nodeCoresPerSocket := d.coresPerSocket
    nodeThreadsPerCore := d.threadsPerCore
    nodeCPUsPerNode := d.cpusPerNode
    nodeRealMemory := d.realMemory
    nodeBMCUsername := d.bmcUsername
    nodeBMCPassword := d.bmcPassword
    nodeBMCSerialPort := d.bmcSerialPort
    nodeBMCSerialSpeed := d.bmcSerialSpeed }

theorem fillGenericNode_eq_ok {generic : AFNode} {cluster r : Cluster} :
    fillGenericNode generic cluster = .ok r ↔
      ∃ d : NodeDefaults, d.Of generic ∧ r = cluster.setDefaults d := by
  have hnumber : ∀ (value : Option String) (f : Nat → Result Cluster),
      (do let n ← stoul (← valueOf value); f n) = (do let n ← numberOf value; f n) := by
    intro value f
    cases value <;> rfl
  unfold fillGenericNode
  simp only [hnumber, except_bind_ok, valueOf_eq_ok, Except.ok.injEq]
  constructor
  · rintro ⟨_, h₁, _, h₂, _, h₃, _, h₄, _, h₅, _, h₆, _, h₇, _, h₈, _, h₉, _, h₁₀, _, h₁₁, rfl⟩
    exact ⟨⟨_, _, _, _, _, _, _, _, _, _, _, _, _⟩,
      ⟨h₁, h₂, h₃, h₄, h₅, h₆, h₇, h₈, h₉, rfl, rfl, h₁₀, h₁₁⟩, rfl⟩
  · rintro ⟨d, ⟨h₁, h₂, h₃, h₄, h₅, h₆, h₇, h₈, h₉, hu, hp, h₁₀, h₁₁⟩, rfl⟩
    exact ⟨_, h₁, _, h₂, _, h₃, _, h₄, _, h₅, _, h₆, _, h₇, _, h₈, _, h₉, _, h₁₀, _, h₁₁,
      by simp [setDefaults, hu, hp]⟩

/-- The queue system that the sections select. -/
def queueSystemOf (af : AnswerFile) : QueueSystem :=
  if af.pbs.enabled then .PBS af.pbs.executionPlace
  else .SLURM (if af.slurm.enabled then af.slurm.partitionName else "execution")

end Cluster

/-! ## The whole model -/

/-- The values that `fillData` settles. -/
structure Filling where
  management : Link
  external : Link
  service : Option Link
  application : Option Link
  nodeOS : OS
  ofed : OFED
  provisioner : Provisioner
  nodes : List Node
  mailSystem : Option Postfix
  defaults : Cluster.NodeDefaults

namespace Filling

/-- The link of a profile, if it is configured. -/
def link (f : Filling) : Network.Profile → Option Link
  | .Management => some f.management
  | .External => some f.external
  | .Service => f.service
  | .Application => f.application

/-- The order in which `fillData` adds the networks. -/
def profiles : List Network.Profile := [.Management, .External, .Service, .Application]

def networks (f : Filling) : List Network :=
  profiles.filterMap fun profile => (f.link profile).map (Link.network profile)

def connections (f : Filling) : List Connection :=
  profiles.filterMap fun profile => (f.link profile).map (Link.connection profile)

def cluster (host : Host) (af : AnswerFile) (f : Filling) : Cluster :=
  Cluster.setDefaults f.defaults
    { name := af.information.clusterName
      companyName := af.information.companyName
      adminMail := af.information.administratorEmail
      headnode :=
        { hostname := af.hostname.hostname
          fqdn := Cluster.filledFQDN af.hostname
          os := host.os
          connections := f.connections }
      computeNodeOS := some f.nodeOS
      provisioner := f.provisioner
      ofed := some f.ofed
      enabledRepositories := af.repositories
      enabledOpenHPCBundles := af.ohpc
      queueSystem := some (Cluster.queueSystemOf af)
      mailSystem := f.mailSystem
      nodes := f.nodes
      timezone := { timezone := af.time.timezone }
      locale := af.time.locale
      networks := f.networks
      updateSystem := true
      diskImage := ⟨af.system.diskImage, (DiskImage.isKnownImage af.system.diskImage).2⟩
      slurmMariaDBRootPassword := if af.slurm.enabled then af.slurm.mariadbRootPassword else ""
      slurmDBPassword := if af.slurm.enabled then af.slurm.slurmdbPassword else ""
      slurmStoragePassword := if af.slurm.enabled then af.slurm.storagePassword else "" }

/-- How the answerfile and the host determine the values. -/
structure Sound [Inet6] (host : Host) (af : AnswerFile) (f : Filling) : Prop where
  management : f.management.Settles host .Management af.management ∧ f.management.Valid host
  external : f.external.Settles host .External af.external ∧ f.external.Valid host
  service : Link.SettlesOptional host .Service af.service f.service
  application : Link.SettlesOptional host .Application af.application f.application
  diskImage : host.AcceptsImage af.system.diskImage
  nodeOS : Cluster.fillNodeOS host af.system = .ok f.nodeOS
  ofed : Cluster.ofedOf af.ofed = some f.ofed
  provisioner : Cluster.selectedProvisioner af.system.provisioner = .ok f.provisioner
  support : Cluster.validateProvisionerSupport host.os f.nodeOS f.provisioner = .ok ()
  nodes : af.nodes.nodes.mapM
    (Cluster.fillNode f.nodeOS (f.management.network .Management)) = .ok f.nodes
  size : f.nodes.length ≤ vectorMaxSize
  mailSystem : Cluster.mailSystemOf af.hostname af.postfixMail = .ok f.mailSystem
  defaults : ∃ generic, af.nodes.generic = some generic ∧ f.defaults.Of generic

end Filling

namespace Cluster

/-- The model between the settings and the networks. -/
def settled (host : Host) (af : AnswerFile) (ofed : OFED) : Cluster :=
  { name := af.information.clusterName
    companyName := af.information.companyName
    adminMail := af.information.administratorEmail
    headnode :=
      { hostname := af.hostname.hostname
        fqdn := filledFQDN af.hostname
        os := host.os }
    ofed := some ofed
    enabledRepositories := af.repositories
    enabledOpenHPCBundles := af.ohpc
    queueSystem := some (queueSystemOf af)
    timezone := { timezone := af.time.timezone }
    locale := af.time.locale
    diskImage := ⟨af.system.diskImage, (DiskImage.isKnownImage af.system.diskImage).2⟩ }

variable {host : Host} {af : AnswerFile} {m : Cluster}

theorem free_settled (ofed : OFED) (profile : Network.Profile) :
    (settled host af ofed).Free profile := by simp [Free, settled]

/-- The links in the order in which they are added. -/
def addLinks (cluster : Cluster) (management external : Link) (service application : Option Link) :
    Cluster :=
  (((cluster.addLink .Management management).addLink .External external).addLinkOptional .Service
    service).addLinkOptional .Application application

theorem addLinks_settled (ofed : OFED) (f : Filling) :
    (settled host af ofed).addLinks f.management f.external f.service f.application =
      { settled host af ofed with
        networks := f.networks
        headnode := { (settled host af ofed).headnode with connections := f.connections } } := by
  cases hs : f.service <;> cases ha : f.application <;>
    simp [addLinks, addLinkOptional, addLink, addNetwork, addConnection, settled, Filling.networks,
      Filling.connections, Filling.profiles, Filling.link, hs, ha]

theorem fillData_fresh [Inet6] :
    fillData host af (fresh host) = .ok m ↔ ∃ f : Filling, f.Sound host af ∧ m = f.cluster host af := by
  have hfree₁ : ∀ (ofed : OFED) (link : Link),
      ((settled host af ofed).addLink .Management link).Free .External := by
    intro ofed link
    simp [Free, settled, addLink, addNetwork, addConnection, Link.network]
  have hfree₂ : ∀ (ofed : OFED) (link₁ link₂ : Link),
      (((settled host af ofed).addLink .Management link₁).addLink .External link₂).Free .Service := by
    intro ofed link₁ link₂
    simp [Free, settled, addLink, addNetwork, addConnection, Link.network]
  have hfree₃ : ∀ (ofed : OFED) (link₁ link₂ : Link) (link₃ : Option Link),
      ((((settled host af ofed).addLink .Management link₁).addLink .External link₂).addLinkOptional
        .Service link₃).Free .Application := by
    intro ofed link₁ link₂ link₃
    cases link₃ <;>
      simp [Free, settled, addLinkOptional, addLink, addNetwork, addConnection, Link.network]
  have hslurm : ∀ f : Filling, fillSlurmPasswords af.slurm
      (setDefaults f.defaults
        { settled host af f.ofed with
          networks := f.networks
          headnode := { (settled host af f.ofed).headnode with connections := f.connections }
          updateSystem := true
          provisioner := f.provisioner
          computeNodeOS := some f.nodeOS
          nodes := f.nodes
          mailSystem := f.mailSystem }) = f.cluster host af := by
    intro f
    unfold fillSlurmPasswords
    cases h : af.slurm.enabled <;> simp [Filling.cluster, setDefaults, settled, h]
  have hmanagement : ∀ (c : Cluster) (f : Filling), c.networks = f.networks →
      c.getNetwork .Management = .ok (f.management.network .Management) := by
    intro c f hc
    simp [getNetwork, hc, Filling.networks, Filling.profiles, Filling.link, Link.network]
  unfold fillData
  simp only [except_bind_ok, setDiskImage_eq_ok, fillOFED_eq_ok, fillProvisioner_eq_ok,
    derefOf_eq_ok, fillGenericNode_eq_ok, Except.ok.injEq]
  constructor
  · rintro ⟨n₁, hn₁, n₂, hn₂, _, ⟨himage, rfl⟩, os, hos, _, ⟨ofed, hofed, rfl⟩, c₁, hc₁, c₂, hc₂,
      c₃, hc₃, c₄, hc₄, _, ⟨provisioner, hp, hsupport, rfl⟩, c₆, hc₆, c₇, hc₇, generic, hgeneric, _,
      ⟨d, hd, rfl⟩, rfl⟩
    obtain ⟨l₁, hs₁, hv₁, rfl, rfl⟩ :=
      (fillManagement_eq_ok (free_settled ofed .Management)).mp ⟨hn₁, hc₁⟩
    obtain ⟨l₂, hs₂, hv₂, rfl, rfl⟩ := (fillExternal_eq_ok (hfree₁ ofed l₁)).mp ⟨hn₂, hc₂⟩
    obtain ⟨l₃, hs₃, rfl⟩ := (fillService_eq_ok (hfree₂ ofed l₁ l₂)).mp hc₃
    obtain ⟨l₄, hs₄, hc₄⟩ := (fillApplication_eq_ok (hfree₃ ofed l₁ l₂ l₃)).mp hc₄
    obtain rfl := hc₄.trans
      (addLinks_settled ofed ⟨l₁, l₂, l₃, l₄, os, ofed, provisioner, [], none, d⟩)
    obtain ⟨nodes, hnodes, hsize, rfl⟩ := (fillNodes_eq_ok (hmanagement _ _ rfl) (Nat.zero_le _)).mp hc₆
    obtain ⟨mail, hmail, rfl⟩ := (fillPostfix_eq_ok rfl rfl rfl).mp hc₇
    refine ⟨⟨l₁, l₂, l₃, l₄, os, ofed, provisioner, nodes, mail, d⟩, ⟨⟨hs₁, hv₁⟩, ⟨hs₂, hv₂⟩, hs₃,
      hs₄, himage, hos, hofed, hp, hsupport, hnodes, by simpa [settled] using hsize, hmail,
      generic, hgeneric, hd⟩, ?_⟩
    exact hslurm ⟨l₁, l₂, l₃, l₄, os, ofed, provisioner, nodes, mail, d⟩
  · rintro ⟨f, h, rfl⟩
    have hfree : (settled host af f.ofed).Free .Management := free_settled f.ofed .Management
    obtain ⟨hn₁, hc₁⟩ := (fillManagement_eq_ok hfree).mpr
      ⟨f.management, h.management.1, h.management.2, rfl, rfl⟩
    obtain ⟨hn₂, hc₂⟩ := (fillExternal_eq_ok (hfree₁ f.ofed f.management)).mpr
      ⟨f.external, h.external.1, h.external.2, rfl, rfl⟩
    have hc₃ := (fillService_eq_ok (hfree₂ f.ofed f.management f.external)).mpr
      ⟨f.service, h.service, rfl⟩
    have hc₄ := (fillApplication_eq_ok (hfree₃ f.ofed f.management f.external f.service)).mpr
      ⟨f.application, h.application, (addLinks_settled f.ofed f).symm⟩
    obtain ⟨generic, hgeneric, hd⟩ := h.defaults
    refine ⟨_, hn₁, _, hn₂, _, ⟨h.diskImage, rfl⟩, f.nodeOS, h.nodeOS, _, ⟨f.ofed, h.ofed, rfl⟩, _,
      hc₁, _, hc₂, _, hc₃, _, hc₄, _, ⟨f.provisioner, h.provisioner, h.support, rfl⟩, _,
      (fillNodes_eq_ok (hmanagement _ _ rfl) (Nat.zero_le _)).mpr
        ⟨f.nodes, h.nodes, by simpa [settled] using h.size, rfl⟩, _,
      (fillPostfix_eq_ok rfl rfl rfl).mpr ⟨f.mailSystem, h.mailSystem, rfl⟩, generic, hgeneric, _,
      ⟨f.defaults, hd, rfl⟩, ?_⟩
    exact hslurm f

end Cluster

end OpenCattus
