import OpenCattus.Cluster.Reload

/-!
# Round trips through the model

An answerfile is loaded, fills a fresh model, and the model is written again. Three
results say how much of the answerfile survives, each as an equivalence with a condition
on the answerfile and the host:

* `inventoryRestored_iff`: the second model has the same nodes,
* `networksRestored_iff`: the file keeps the networks,
* `settingsRestored_iff`: the file keeps the settings.
-/

namespace OpenCattus

open Foundations Foundations.Text Foundations.Inet

variable [Inet6] {host : Host} {af : AnswerFile} {f : Filling} {m : Cluster}

/-! ## Acceptance in terms of the answerfile -/

/-- The gateway in use lies in the network in use, whether the section or the host
provides the address, the mask and the gateway. -/
def GatewayFits (host : Host) (profile : Network.Profile) (afNetwork : AFNetwork) : Prop :=
  ∀ interface ip mask, afNetwork.conInterface = some interface →
    Link.addressSource host profile afNetwork = .ok ip →
      Link.maskSource host profile afNetwork = .ok mask →
        gatewayInSubnet ip mask (Link.gatewaySource host profile afNetwork interface) = true

omit [Inet6] in
theorem gatewayInSubnet_default (ip mask : Address) : gatewayInSubnet ip mask default = true := by
  cases ip <;> cases mask <;> rfl

/-- Given address and mask, an accepted section has a gateway that fits. -/
theorem gatewayInSubnet_of_loadable {afNetwork : AFNetwork} {ip mask : Address}
    (hl : afNetwork.Loadable) (hip : afNetwork.conIpAddr = some ip)
    (hmask : afNetwork.subnetMask = some mask) :
    gatewayInSubnet ip mask (afNetwork.gateway.getD default) = true := by
  cases hg : afNetwork.gateway with
  | none => exact gatewayInSubnet_default ip mask
  | some gateway => exact hl.gateway ip hip mask hmask gateway hg

namespace Filling.Sound

/-- Only the external and the service network can lose their gateway. -/
theorem gateways_iff (h : f.Sound host af) (hloaded : af.Loaded) :
    (∀ profile link, f.link profile = some link →
        gatewayInSubnet link.ip link.mask link.gateway = true) ↔
      GatewayFits host .External af.external ∧ GatewayFits host .Service af.service := by
  have hfits : ∀ profile link, f.link profile = some link →
      (gatewayInSubnet link.ip link.mask link.gateway = true ↔
        GatewayFits host profile (af.networkField profile)) := by
    intro profile link hlink
    obtain ⟨hs, -⟩ := h.link hlink
    rw [hs.gateway]
    constructor
    · intro hg interface ip mask hi hip hmask
      obtain rfl : link.interface = interface := Option.some.inj (hs.interface.symm.trans hi)
      obtain rfl : link.ip = ip := Except.ok.inj (hs.ip.symm.trans hip)
      obtain rfl : link.mask = mask := Except.ok.inj (hs.mask.symm.trans hmask)
      exact hg
    · intro hg
      exact hg _ _ _ hs.interface hs.ip hs.mask
  constructor
  · intro hall
    refine ⟨(hfits .External _ rfl).mp (hall .External _ rfl), ?_⟩
    cases hlink : f.link .Service with
    | some link => exact (hfits .Service link hlink).mp (hall .Service link hlink)
    | none =>
      intro interface ip mask hi
      exact absurd ((h.link_eq_none hlink).symm.trans hi) (by simp)
  · rintro ⟨hexternal, hservice⟩ profile link hlink
    obtain ⟨hs, hv⟩ := h.link hlink
    cases profile with
    | External => exact (hfits .External link hlink).mpr hexternal
    | Service => exact (hfits .Service link hlink).mpr hservice
    | Management =>
      rw [hs.gateway]
      exact gatewayInSubnet_of_loadable hloaded.loadable.management
        (by simpa [Link.addressSource] using hs.ip) (by simpa [Link.maskSource] using hs.mask)
    | Application =>
      have hpresent : af.application.isPresent = true := by
        have hi : af.application.conInterface = some link.interface := hs.interface
        simp [AFNetwork.isPresent, networkEntries, KeyData.assigns, hi]
      have hmask : af.application.subnetMask.getD default = link.mask := Except.ok.inj hs.mask
      rw [hs.gateway]
      refine gatewayInSubnet_of_loadable (hloaded.loadable.application hpresent)
        (by simpa [Link.addressSource] using hs.ip) ?_
      cases hm : af.application.subnetMask with
      | some mask =>
        rw [hm, Option.getD_some] at hmask
        exact hm.trans (congrArg some hmask)
      | none =>
        rw [hm, Option.getD_none] at hmask
        have hsubnet := hv.subnet
        rw [← hmask] at hsubnet
        cases hip : link.ip <;> simp [hip, Network.subnet, default] at hsubnet

theorem version_ne_empty (h : f.Sound host af) : af.system.version ≠ "" := by
  obtain ⟨_, _, _, hdenotes, -⟩ := Cluster.fillNodeOS_eq_ok.mp h.nodeOS
  intro hempty
  have hdot := hdenotes.dot
  simp [hempty] at hdot

/-- Loading the dump of the filled model. -/
theorem load_iff (h : f.Sound host af) (hloaded : af.Loaded) {path : String} {dryRun : Bool}
    {r : AnswerFile} :
    loadOptions ⟨path, (f.cluster host af).dumpData⟩ dryRun = .ok r ↔
      (GatewayFits host .External af.external ∧ GatewayFits host .Service af.service) ∧
        (af.nodes.nodes = [] ∨ f.defaults.rootPassword ≠ "") ∧ r = f.reread host af := by
  have hnil : f.nodes = [] ↔ af.nodes.nodes = [] := by
    have hlength := (except_mapM_ok.mp h.nodes).length_eq
    rw [← List.length_eq_zero_iff, ← List.length_eq_zero_iff, hlength]
  rw [loadOptions_dumpData (fun node hnode => (h.complete hloaded hnode).2.1) h.size,
    h.loadable_cluster hloaded, h.gateways_iff hloaded, hnil, and_assoc]
  rfl

end Filling.Sound

/-! ## A host to evaluate on -/

/-- A machine with two interfaces and nothing to look up. -/
def sampleHost : Host where
  os :=
    { arch := .x86_64
      family := .Linux
      platform := .el9
      distro := .Rocky
      kernel := some "5.14.0"
      majorVersion := 9
      minorVersion := 5 }
  kernel_isSome := rfl
  nodename := "head.cluster.local"
  interfaces := ["lo", "eth0", "eth1"]
  interfaces_named := by decide
  fetchAddress _ := .ok default
  fetchSubnetMask _ := runtimeError "no netmask"
  fetchGateway _ := default
  fetchNameservers := .ok []
  domainname := .ok "(none)"
  fetchAddress_throws := by simp
  fetchSubnetMask_throws := by
    rintro _ e ⟨⟩
    rfl
  fetchNameservers_throws := by simp
  domainname_throws := by simp
  pathStatus _ := .found
  imageChecksum _ := .error ⟨.systemError, "Failed to open file"⟩
  imageChecksum_throws := by
    rintro _ e ⟨⟩
    exact .inl rfl
  dryRun := false
  answerfile := "answerfile.ini"

/-- The model that an answerfile fills on `sampleHost`. -/
def sampleModel (af : AnswerFile) : Cluster :=
  match @Cluster.fillData plainInet6 sampleHost af (Cluster.fresh sampleHost) with
  | .ok m => m
  | .error _ => Cluster.fresh sampleHost

/-! ## The inventory -/

/-- What the installation uses of a node. -/
structure InventoryEntry where
  hostname : String
  macAddress : String
  nodeStartIp : Option Address
  addresses : List (Network.Profile × Address)
  rootPassword : Option String
  sockets : Nat
  coresPerSocket : Nat
  threadsPerCore : Nat
  bmc : Option BMC
  deriving DecidableEq, Repr

def Node.inventoryEntry (node : Node) : InventoryEntry where
  hostname := node.hostname
  macAddress := node.macAddress
  nodeStartIp := node.nodeStartIp
  addresses := node.connections.map fun connection => (connection.profile, connection.address)
  rootPassword := node.nodeRootPassword
  sockets := node.cpu.sockets
  coresPerSocket := node.cpu.coresPerSocket
  threadsPerCore := node.cpu.threadsPerCore
  bmc := node.bmc

/-- The file that the model writes is accepted, and a second model filled from it has the
same nodes. -/
def InventoryRestored (host : Host) (path : String) (m : Cluster) : Prop :=
  ∃ again, loadOptions ⟨path, m.dumpData⟩ host.dryRun = .ok again ∧
    ∃ m', Cluster.fillData host again (Cluster.fresh host) = .ok m' ∧
      m'.nodes.map Node.inventoryEntry = m.nodes.map Node.inventoryEntry

/-- The root passwords are the generic one, the application network has a domain, and the
gateways fit what the host provides. -/
structure InventorySafe (host : Host) (af : AnswerFile) : Prop where
  rootPassword : ∀ node ∈ af.nodes.nodes,
    node.rootPassword = af.nodes.generic.bind (·.rootPassword)
  application : af.application.conInterface.isSome = true → af.application.domainName.isSome = true
  external : GatewayFits host .External af.external
  service : GatewayFits host .Service af.service

namespace Filling.Sound

/-- Whatever fills a model from the reread file has the same nodes, up to root passwords. -/
theorem inventory_again_iff (h : f.Sound host af) (hloaded : af.Loaded) {f' : Filling}
    (h' : f'.Sound host (f.reread host af)) :
    f'.nodes.map Node.inventoryEntry = f.nodes.map Node.inventoryEntry ↔
      ∀ node ∈ af.nodes.nodes, node.rootPassword = some f.defaults.rootPassword := by
  obtain ⟨vs, hvs, heq, hmap⟩ := h.mapM_fillNode_reread f'.nodeOS f'.management
  have hf' := h'.nodes
  rw [h.nodes_reread hloaded, hmap] at hf'
  rw [← Except.ok.inj hf', heq]
  clear hf' hmap heq
  generalize af.nodes.nodes = as at hvs
  induction hvs with
  | nil => simp
  | cons hv _ ih =>
    simp only [List.map_cons, List.cons.injEq, List.forall_mem_cons, hv.rootPassword, ih]
    refine and_congr_left fun _ => ⟨fun he => ?_, fun he => ?_⟩
    · exact (congrArg InventoryEntry.rootPassword he).symm
    · rw [← Option.some.inj he]
      rfl

/-- The reread file fills a model unless it has an application network without a domain. -/
theorem exists_again_iff (h : f.Sound host af) (hloaded : af.Loaded) :
    (∃ f' : Filling, f'.Sound host (f.reread host af)) ↔
      (af.application.conInterface.isSome = true → af.application.domainName.isSome = true) := by
  have hdomain : ∀ link, f.application = some link → link.domain = af.application.domainName :=
    fun link hlink => by
      have hsettles : link.Settles host .Application af.application :=
        (h.link (show f.link .Application = some link from hlink)).1
      exact (Except.ok.inj hsettles.domain).symm
  have hlink := h.link_isSome .Application
  constructor
  · rintro ⟨f', h'⟩ hsome
    obtain ⟨link, heq⟩ := Option.isSome_iff_exists.mp (hlink.trans hsome)
    have hfield := h.networkField_reread .Application
    rw [heq] at hfield
    obtain ⟨link', heq'⟩ : ∃ link', f'.application = some link' := by
      have hsome' := h'.link_isSome .Application
      rw [hfield] at hsome'
      exact Option.isSome_iff_exists.mp hsome'
    obtain ⟨hs', hv'⟩ := h'.link (show f'.link .Application = some link' from heq')
    rw [hfield] at hs'
    have hd' : link'.domain = some (link.domain.getD "") := (Except.ok.inj hs'.domain).symm
    have hne := Network.validateDomainName_ne_empty (hv'.domain _ hd')
    rw [← hdomain link heq]
    cases hdom : link.domain with
    | some domain => rfl
    | none => simp [hdom] at hne
  · intro hsafe
    refine h.exists_again hloaded ?_
    intro link heq
    rw [hdomain link heq]
    refine hsafe ?_
    rw [show f.link .Application = some link from heq] at hlink
    exact hlink.symm

end Filling.Sound

/-- The nodes survive when no root password differs from the generic one, which is all
that `dumpData` writes. -/
theorem inventoryRestored_iff {kf : KeyFile} (path : String)
    (hload : loadOptions kf host.dryRun = .ok af)
    (hfill : Cluster.fillData host af (Cluster.fresh host) = .ok m) :
    InventoryRestored host path m ↔ InventorySafe host af := by
  obtain ⟨f, h, rfl⟩ := Cluster.fillData_fresh.mp hfill
  have hloaded := loadOptions_loaded hload h.version_ne_empty
  obtain ⟨generic, hgeneric, hd⟩ := h.defaults
  have hroot : af.nodes.generic.bind (·.rootPassword) = some f.defaults.rootPassword := by
    rw [hgeneric]
    exact hd.rootPassword
  constructor
  · rintro ⟨again, hagain, m', hm', hsame⟩
    obtain ⟨⟨hexternal, hservice⟩, -, rfl⟩ := (h.load_iff hloaded).mp hagain
    obtain ⟨f', h', rfl⟩ := Cluster.fillData_fresh.mp hm'
    refine ⟨?_, (h.exists_again_iff hloaded).mp ⟨f', h'⟩, hexternal, hservice⟩
    rw [hroot]
    exact (h.inventory_again_iff hloaded h').mp hsame
  · rintro ⟨hpasswords, hdomain, hexternal, hservice⟩
    obtain ⟨f', h'⟩ := (h.exists_again_iff hloaded).mpr hdomain
    rw [hroot] at hpasswords
    refine ⟨f.reread host af, (h.load_iff hloaded).mpr ⟨⟨hexternal, hservice⟩, ?_, rfl⟩,
      f'.cluster host (f.reread host af), Cluster.fillData_fresh.mpr ⟨f', h', rfl⟩,
      (h.inventory_again_iff hloaded h').mpr hpasswords⟩
    -- A node that is there has the generic root password, and that is not empty.
    cases hns : af.nodes.nodes with
    | nil => exact .inl rfl
    | cons node nodes =>
      have hmem : node ∈ af.nodes.nodes := by rw [hns]; exact List.mem_cons_self ..
      have htext := (hloaded.resolved hmem).rootPassword
      rw [hpasswords node hmem, hasText_some] at htext
      exact .inr htext

omit [Inet6] in
theorem fillData_sampleAnswerFile :
    @Cluster.fillData plainInet6 sampleHost sampleAnswerFile (Cluster.fresh sampleHost) =
      .ok (sampleModel sampleAnswerFile) := by
  decide +kernel

omit [Inet6] in
theorem sample_inventoryRestored_iff :
    @loadOptions plainInet6 sampleKeyFile sampleHost.dryRun = .ok sampleAnswerFile ∧
      @Cluster.fillData plainInet6 sampleHost sampleAnswerFile (Cluster.fresh sampleHost) =
        .ok (sampleModel sampleAnswerFile) ∧
      (@InventoryRestored plainInet6 sampleHost "copy.ini" (sampleModel sampleAnswerFile) ↔
        InventorySafe sampleHost sampleAnswerFile) :=
  ⟨loadOptions_sampleKeyFile, fillData_sampleAnswerFile,
    @inventoryRestored_iff plainInet6 sampleHost _ _ _ "copy.ini" loadOptions_sampleKeyFile
      fillData_sampleAnswerFile⟩

/-- `sampleKeyFile` with a root password of its own for the node. -/
def overridingKeyFile : KeyFile :=
  { sampleKeyFile with
    data := sampleKeyFile.data.setString "node.1" "node_root_password" "other" }

def overridingAnswerFile : AnswerFile :=
  { sampleAnswerFile with
    nodes :=
      { sampleAnswerFile.nodes with
        nodes := sampleAnswerFile.nodes.nodes.map fun node =>
          { node with rootPassword := some "other" } } }

omit [Inet6] in
/-- The node's own root password is lost. -/
theorem overriding_rootPassword_not_restored :
    @loadOptions plainInet6 overridingKeyFile sampleHost.dryRun = .ok overridingAnswerFile ∧
      @Cluster.fillData plainInet6 sampleHost overridingAnswerFile (Cluster.fresh sampleHost) =
        .ok (sampleModel overridingAnswerFile) ∧
      ¬ @InventoryRestored plainInet6 sampleHost "copy.ini" (sampleModel overridingAnswerFile) := by
  refine ⟨by decide +kernel, by decide +kernel, ?_⟩
  rintro ⟨again, hload, m', hfill, hsame⟩
  have hboth : (do
      let again ← @loadOptions plainInet6 ⟨"copy.ini",
        @Cluster.dumpData plainInet6 (sampleModel overridingAnswerFile)⟩ sampleHost.dryRun
      let m' ← @Cluster.fillData plainInet6 sampleHost again (Cluster.fresh sampleHost)
      .ok (m'.nodes.map Node.inventoryEntry)) =
        .ok ((sampleModel overridingAnswerFile).nodes.map Node.inventoryEntry) := by
    rw [hload, except_ok_bind, hfill, except_ok_bind, hsame]
  revert hboth
  decide +kernel

/-! ## The networks -/

/-- The section of a profile in the file. -/
def networkSection : Network.Profile → String
  | .External => "network_external"
  | .Management => "network_management"
  | .Service => "network_service"
  | .Application => "network_application"

/-- Every value that the first section gives stands in the second one; a MAC address may
change its letter case. -/
structure AFNetwork.CarriedBy (given kept : AFNetwork) : Prop where
  interface : ∀ interface ∈ given.conInterface, kept.conInterface = some interface
  ip : ∀ ip ∈ given.conIpAddr, kept.conIpAddr = some ip
  mask : ∀ mask ∈ given.subnetMask, kept.subnetMask = some mask
  gateway : ∀ gateway ∈ given.gateway, kept.gateway = some gateway
  domain : ∀ domain ∈ given.domainName, kept.domainName = some domain
  nameservers : ∀ nameservers ∈ given.nameservers, kept.nameservers = some nameservers
  mac : ∀ mac ∈ given.conMacAddr, kept.conMacAddr.map lower = some (lower mac)

/-- The file that the model writes is accepted, has the sections of the answerfile's
networks and no other ones, and keeps every value that the answerfile gives. -/
def NetworksRestored (host : Host) (path : String) (af : AnswerFile) (m : Cluster) : Prop :=
  ∃ again, loadOptions ⟨path, m.dumpData⟩ host.dryRun = .ok again ∧
    ∀ profile,
      m.dumpData.hasGroup (networkSection profile) = (af.networkField profile).conInterface.isSome ∧
        (af.networkField profile).CarriedBy (again.networkField profile)

/-- The text is how the address it denotes is printed. -/
def IsPrinted (text : String) : Prop := (makeAddress text).map Address.toText = some text

/-- The gateways fit what the host provides, nodes come with a generic root password,
external and service domains are not given as the empty text, and nameservers are given
as they are printed. -/
structure NetworksSafe (host : Host) (af : AnswerFile) : Prop where
  external : GatewayFits host .External af.external
  service : GatewayFits host .Service af.service
  rootPassword : af.nodes.nodes = [] ∨ hasText (af.nodes.generic.bind (·.rootPassword)) = true
  externalDomain : af.external.domainName ≠ some ""
  serviceDomain : af.service.domainName ≠ some ""
  nameservers : ∀ profile, ∀ texts ∈ (af.networkField profile).nameservers,
    ∀ text ∈ texts, IsPrinted text

theorem map_toText_eq_iff {texts : List String} {addresses : List Address}
    (h : texts.mapM Network.parseAddress = .ok addresses) :
    addresses.map Address.toText = texts ↔ ∀ text ∈ texts, IsPrinted text := by
  have hparse : ∀ {text : String} {a : Address}, Network.parseAddress text = .ok a →
      makeAddress text = some a := by
    intro text a hok
    unfold Network.parseAddress at hok
    cases hmake : makeAddress text with
    | none => simp [hmake] at hok
    | some b => simpa [hmake] using hok
  have hall := except_mapM_ok.mp h
  clear h
  induction hall with
  | nil => simp
  | cons hok _ ih =>
    simp only [List.map_cons, List.cons.injEq, List.forall_mem_cons, ih, IsPrinted, hparse hok,
      Option.map_some, Option.some.injEq]

namespace Link

variable {profile : Network.Profile} {afNetwork : AFNetwork} {link : Link}

/-- A domain is kept, unless it is given as the empty text and then looked up. -/
theorem Settles.domain_iff (hs : link.Settles host profile afNetwork) (hv : link.Valid host) :
    (∀ domain ∈ afNetwork.domainName, some (link.domain.getD "") = some domain) ↔
      (profile = .External ∨ profile = .Service → afNetwork.domainName ≠ some "") := by
  have hfound : ∀ {given found : String}, domainOf host given = .ok found →
      some found = link.domain → (some (link.domain.getD "") = some given ↔ given ≠ "") := by
    intro given found hof hsome
    have hne := Network.validateDomainName_ne_empty (hv.domain found hsome.symm)
    rw [← hsome, Option.getD_some, Option.some.injEq]
    constructor
    · rintro rfl
      exact hne
    · intro hgiven
      rw [domainOf, if_pos hgiven] at hof
      exact (Except.ok.inj hof).symm
  have hdomain := hs.domain
  cases hgiven : afNetwork.domainName with
  | none => simp
  | some given =>
    simp only [Option.mem_def, Option.some.injEq, forall_eq', ne_eq]
    cases profile with
    | Management =>
      obtain ⟨_, hd, hsome⟩ : ∃ d, afNetwork.domainName = some d ∧ some d = link.domain := by
        simpa [domainSource] using hdomain
      obtain rfl := Option.some.inj (hgiven.symm.trans hd)
      simp [← hsome]
    | Application =>
      have hsome : afNetwork.domainName = link.domain := Except.ok.inj hdomain
      simp [← hsome, hgiven]
    | External =>
      obtain ⟨_, hd, found, hof, hsome⟩ : ∃ g, afNetwork.domainName = some g ∧
          ∃ d, domainOf host g = .ok d ∧ some d = link.domain := by
        simpa [domainSource, except_bind_ok] using hdomain
      obtain rfl := Option.some.inj (hgiven.symm.trans hd)
      simpa using hfound hof hsome
    | Service =>
      obtain ⟨found, hof, hsome⟩ : ∃ d, domainOf host (afNetwork.domainName.getD "") = .ok d ∧
          some d = link.domain := by
        simpa [domainSource] using hdomain
      rw [hgiven, Option.getD_some] at hof
      simpa using hfound hof hsome

theorem Settles.nameservers_iff (hs : link.Settles host profile afNetwork)
    (hgiven : afNetwork.nameservers ≠ some []) :
    (∀ texts ∈ afNetwork.nameservers, link.written.nameservers = some texts) ↔
      ∀ texts ∈ afNetwork.nameservers, ∀ text ∈ texts, IsPrinted text := by
  refine forall_congr' fun texts => forall_congr' fun htexts => ?_
  rw [Option.mem_def] at htexts
  have hparse : texts.mapM Network.parseAddress = .ok link.nameservers := by
    have hns := hs.nameservers
    cases profile <;> simpa [nameserversSource, nameserversOf, htexts] using hns
  have hne : link.nameservers ≠ [] := by
    intro hnil
    rw [hnil] at hparse
    cases except_mapM_ok.mp hparse
    exact hgiven htexts
  rw [← map_toText_eq_iff hparse]
  simp [written, hne]

/-- What the reloaded section keeps of the section that settled the link. -/
theorem Settles.carriedBy_iff (hs : link.Settles host profile afNetwork) (hv : link.Valid host)
    (hgiven : afNetwork.nameservers ≠ some []) :
    afNetwork.CarriedBy link.written.reloaded ↔
      (profile = .External ∨ profile = .Service → afNetwork.domainName ≠ some "") ∧
        ∀ texts ∈ afNetwork.nameservers, ∀ text ∈ texts, IsPrinted text := by
  rw [← hs.domain_iff hv, ← hs.nameservers_iff hgiven, written_reloaded]
  constructor
  · intro hc
    exact ⟨hc.domain, hc.nameservers⟩
  · rintro ⟨hdomain, hns⟩
    refine ⟨?_, ?_, ?_, ?_, hdomain, hns, ?_⟩
    · intro interface hi
      exact hs.interface.symm.trans hi
    · intro ip hip
      have hsource := hs.ip
      rw [Option.mem_def] at hip
      have heq : ip = link.ip := by
        cases profile <;> simpa [addressSource, Cluster.externalAddress, hip, valueOf] using hsource
      rw [heq]
      rfl
    · intro mask hm
      have hsource := hs.mask
      rw [Option.mem_def] at hm
      have heq : mask = link.mask := by
        cases profile <;> simpa [maskSource, maskOf, hm, valueOf] using hsource
      rw [heq]
      rfl
    · intro gateway hg
      rw [Option.mem_def] at hg
      simp [written, hs.gateway, gatewaySource, hg]
    · intro mac hmac
      obtain rfl := Option.some.inj (hs.mac.symm.trans hmac)
      simp

end Link

/-- The dump has the sections of the profiles that have a link. -/
theorem Filling.Sound.hasGroup_dumpData (h : f.Sound host af) (profile : Network.Profile) :
    (f.cluster host af).dumpData.hasGroup (networkSection profile) =
      (af.networkField profile).conInterface.isSome := by
  have hgroup : (f.cluster host af).dumpData.hasGroup (networkSection profile) =
      ((f.cluster host af).toAnswerFile.networkField profile).isPresent := by
    have hcarries : (f.cluster host af).dumpData.Carries (networkSection profile)
        (networkEntries ((f.cluster host af).toAnswerFile.networkField profile)) := by
      apply carries_dumpOptions_setting
      cases profile <;> simp [settingBlocks, networkSection, AnswerFile.networkField]
    exact hcarries.hasGroup_eq
  rw [hgroup, f.networkField_cluster, ← h.link_isSome]
  cases f.link profile with
  | none => rfl
  | some link => exact link.written_isPresent

/-- The file keeps the networks exactly under the conditions of `NetworksSafe`. -/
theorem networksRestored_iff {kf : KeyFile} (path : String)
    (hload : loadOptions kf host.dryRun = .ok af)
    (hfill : Cluster.fillData host af (Cluster.fresh host) = .ok m) :
    NetworksRestored host path af m ↔ NetworksSafe host af := by
  obtain ⟨f, h, rfl⟩ := Cluster.fillData_fresh.mp hfill
  have hloaded := loadOptions_loaded hload h.version_ne_empty
  obtain ⟨generic, hgeneric, hd⟩ := h.defaults
  have hroot : hasText (af.nodes.generic.bind (·.rootPassword)) = true ↔
      f.defaults.rootPassword ≠ "" := by
    rw [hgeneric, Option.bind_some, hd.rootPassword, hasText_some]
  have hcarried : ∀ profile,
      (af.networkField profile).CarriedBy ((f.reread host af).networkField profile) ↔
        (profile = .External ∨ profile = .Service → (af.networkField profile).domainName ≠ some "") ∧
          ∀ texts ∈ (af.networkField profile).nameservers, ∀ text ∈ texts, IsPrinted text := by
    intro profile
    have hgiven := Filling.Sound.nameservers_ne_nil hloaded profile
    rw [h.networkField_reread]
    cases hlink : f.link profile with
    | some link => exact (h.link hlink).1.carriedBy_iff (h.link hlink).2 hgiven
    | none =>
      -- A section that is not there gives nothing.
      have hempty : af.networkField profile = {} := by
        have hnone := h.link_eq_none hlink
        have hself : ∀ {network : AFNetwork}, network.LoadableOptional →
            network.reloadedOptional = network → network.conInterface = none → network = {} := by
          intro network hl hself hinterface
          unfold AFNetwork.reloadedOptional at hself
          split at hself
          · rename_i hpresent
            exact absurd (hl hpresent).interface (by simp [hinterface])
          · exact hself.symm
        cases profile with
        | Management => cases hlink
        | External => cases hlink
        | Service =>
          exact hself hloaded.loadable.service (congrArg AnswerFile.service hloaded.reloaded_eq) hnone
        | Application =>
          exact hself hloaded.loadable.application
            (congrArg AnswerFile.application hloaded.reloaded_eq) hnone
      rw [hempty]
      refine ⟨fun _ => ⟨by simp, by simp⟩, fun _ => ?_⟩
      constructor <;> simp
  constructor
  · rintro ⟨again, hagain, hall⟩
    obtain ⟨⟨hexternal, hservice⟩, hnodes, rfl⟩ := (h.load_iff hloaded).mp hagain
    have hkept := fun profile => (hcarried profile).mp (hall profile).2
    exact ⟨hexternal, hservice, hnodes.imp_right hroot.mpr, (hkept .External).1 (.inl rfl),
      (hkept .Service).1 (.inr rfl), fun profile => (hkept profile).2⟩
  · intro hsafe
    refine ⟨f.reread host af, (h.load_iff hloaded).mpr ⟨⟨hsafe.external, hsafe.service⟩,
      hsafe.rootPassword.imp_right hroot.mp, rfl⟩, ?_⟩
    intro profile
    refine ⟨h.hasGroup_dumpData profile, (hcarried profile).mpr ⟨?_, hsafe.nameservers profile⟩⟩
    rintro (rfl | rfl)
    · exact hsafe.externalDomain
    · exact hsafe.serviceDomain

omit [Inet6] in
theorem sample_networksRestored_iff :
    @loadOptions plainInet6 sampleKeyFile sampleHost.dryRun = .ok sampleAnswerFile ∧
      @Cluster.fillData plainInet6 sampleHost sampleAnswerFile (Cluster.fresh sampleHost) =
        .ok (sampleModel sampleAnswerFile) ∧
      (@NetworksRestored plainInet6 sampleHost "copy.ini" sampleAnswerFile
          (sampleModel sampleAnswerFile) ↔
        @NetworksSafe plainInet6 sampleHost sampleAnswerFile) :=
  ⟨loadOptions_sampleKeyFile, fillData_sampleAnswerFile,
    @networksRestored_iff plainInet6 sampleHost _ _ _ "copy.ini" loadOptions_sampleKeyFile
      fillData_sampleAnswerFile⟩

/-- `sampleKeyFile` without an address for the external network. -/
def probingKeyFile : KeyFile where
  path := "answerfile.ini"
  data :=
    { groups := sampleKeyFile.data.groups.map fun group =>
        if group.1 = "network_external" then
          (group.1, group.2.filter fun entry => entry.1 ≠ "ip_address")
        else group
      nodup := by decide +kernel }

def probingAnswerFile : AnswerFile :=
  { sampleAnswerFile with external := { sampleAnswerFile.external with conIpAddr := none } }

/-- The external interface has an address outside the network of the given gateway. -/
def probingHost : Host :=
  { sampleHost with
    fetchAddress := fun _ => .ok (.v4 (ofOctets 172 16 0 9))
    fetchAddress_throws := by simp }

def probingModel : Cluster :=
  match @Cluster.fillData plainInet6 probingHost probingAnswerFile (Cluster.fresh probingHost) with
  | .ok m => m
  | .error _ => Cluster.fresh probingHost

omit [Inet6] in
/-- The written file is refused: its gateway is not in the probed network. -/
theorem probed_address_not_restored :
    @loadOptions plainInet6 probingKeyFile probingHost.dryRun = .ok probingAnswerFile ∧
      @Cluster.fillData plainInet6 probingHost probingAnswerFile (Cluster.fresh probingHost) =
        .ok probingModel ∧
      ¬ @NetworksRestored plainInet6 probingHost "copy.ini" probingAnswerFile probingModel := by
  refine ⟨by decide +kernel, by decide +kernel, ?_⟩
  rintro ⟨again, hload, -⟩
  have hok : (@loadOptions plainInet6 ⟨"copy.ini", @Cluster.dumpData plainInet6 probingModel⟩
      probingHost.dryRun).isOk = true := by
    rw [hload]
    rfl
  revert hok
  decide +kernel

/-! ## The settings -/

/-- The version numbers that a system section denotes. -/
def AFSystem.versionNumbers (system : AFSystem) : Result Nat × Result Nat :=
  (OS.parseMajorVersion system.distro system.version,
    OS.parseMinorVersion system.distro system.version)

/-- The same generic values, numbers compared as numbers. -/
structure AFNode.SameGeneric (a b : AFNode) : Prop where
  nodePrefix : b.nodePrefix = a.nodePrefix
  padding : b.padding.bind parseDigits = a.padding.bind parseDigits
  startIp : b.startIp = a.startIp
  rootPassword : b.rootPassword = a.rootPassword
  sockets : b.sockets.bind parseDigits = a.sockets.bind parseDigits
  coresPerSocket : b.coresPerSocket.bind parseDigits = a.coresPerSocket.bind parseDigits
  threadsPerCore : b.threadsPerCore.bind parseDigits = a.threadsPerCore.bind parseDigits
  cpusPerNode : b.cpusPerNode.bind parseDigits = a.cpusPerNode.bind parseDigits
  realMemory : b.realMemory.bind parseDigits = a.realMemory.bind parseDigits
  bmcUsername : b.bmcUsername = a.bmcUsername
  bmcPassword : b.bmcPassword = a.bmcPassword
  bmcSerialport : b.bmcSerialport.bind parseDigits = a.bmcSerialport.bind parseDigits
  bmcSerialspeed : b.bmcSerialspeed.bind parseDigits = a.bmcSerialspeed.bind parseDigits

/-- The settings of the first answerfile stand in the second one. -/
structure SettingsRestored (a b : AnswerFile) : Prop where
  information : b.information = a.information
  time : b.time = a.time
  hostname : b.hostname = a.hostname
  distro : b.system.distro = a.system.distro
  version : b.system.versionNumbers = a.system.versionNumbers
  provisioner : b.system.provisioner = a.system.provisioner
  kernel : b.system.kernel = a.system.kernel
  repositories : b.repositories = a.repositories
  ohpc : b.ohpc = a.ohpc
  ofed : a.ofed.enabled = true → b.ofed = a.ofed
  slurm : a.slurm.enabled = true → b.slurm = a.slurm
  pbs : a.pbs.enabled = true → b.pbs = a.pbs
  postfixMail : b.postfixMail = a.postfixMail
  generic : ∃ ga gb, a.nodes.generic = some ga ∧ b.nodes.generic = some gb ∧ ga.SameGeneric gb

omit [Inet6] in
/-- The domain survives two passes through the FQDN only when the host name has no dot. -/
theorem afterFirst_filledFQDN {names : AFHostname} :
    afterFirst '.' (Cluster.filledFQDN names) = names.domainName ↔
      '.' ∉ names.hostname.toList := by
  have hdot : ".".toList = ['.'] := by decide
  unfold Cluster.filledFQDN
  by_cases hmem : '.' ∈ names.hostname.toList
  · -- Each pass keeps what follows the first dot of the host name in front.
    simp only [String.append_assoc, afterFirst_append_of_mem hmem, hmem, not_true, iff_false]
    intro heq
    have hlength := congrArg String.length heq
    simp only [String.length_append] at hlength
    have hone : ".".length = 1 := by decide
    omega
  · rw [afterFirst_append hdot hmem, afterFirst_append hdot hmem]
    simp [hmem]

namespace Filling.Sound

/-- The generic node is written with the same numbers. -/
theorem sameGeneric (h : f.Sound host af) (hloaded : af.Loaded) :
    ∃ ga gb, af.nodes.generic = some ga ∧ (f.reread host af).nodes.generic = some gb ∧
      ga.SameGeneric gb := by
  obtain ⟨generic, hgeneric, hl, -, -⟩ := hloaded.generic
  obtain ⟨generic', hgeneric', hd⟩ := h.defaults
  obtain rfl : generic = generic' := Option.some.inj (hgeneric.symm.trans hgeneric')
  have hnumber : ∀ {z : Bool} {value : Option String} {n : Nat},
      value.any (isUnsigned z) = true → Cluster.numberOf value = .ok n →
        (some (decimal n)).bind parseDigits = value.bind parseDigits := by
    intro z value n hany hn
    obtain ⟨text, rfl, hstoul⟩ := Cluster.numberOf_eq_ok.mp hn
    simp [(stoul_of_isUnsigned hany hstoul).1]
  have hdefault : ∀ {z : Bool} {value : Option String} {n : Nat},
      value.any (isUnsigned z) = true → stoul (value.getD "0") = .ok n →
        (some (decimal n)).bind parseDigits = value.bind parseDigits := by
    intro z value n hany hn
    cases value with
    | none => simp at hany
    | some text => simp [(stoul_of_isUnsigned hany hn).1]
  have htext : ∀ {value : Option String} {text : String}, value.isSome = true →
      value.getD "" = text → some text = value := by
    rintro (_ | value) text hsome rfl
    · cases hsome
    · rfl
  refine ⟨generic, (f.cluster host af).dumpGenericNode, hgeneric, by rw [h.nodes_reread hloaded], ?_⟩
  exact
    { nodePrefix := hd.nodePrefix.symm
      padding := hnumber hl.padding hd.padding
      startIp := hd.startIP.symm
      rootPassword := hd.rootPassword.symm
      sockets := hnumber hl.sockets hd.sockets
      coresPerSocket := hnumber hl.coresPerSocket hd.coresPerSocket
      threadsPerCore := hnumber hl.threadsPerCore hd.threadsPerCore
      cpusPerNode := hnumber hl.cpusPerNode hd.cpusPerNode
      realMemory := hnumber hl.realMemory hd.realMemory
      bmcUsername := htext hl.bmcUsername hd.bmcUsername
      bmcPassword := htext hl.bmcPassword hd.bmcPassword
      bmcSerialport := hdefault hl.bmcSerialport hd.bmcSerialPort
      bmcSerialspeed := hdefault hl.bmcSerialspeed hd.bmcSerialSpeed }

/-- The version text denotes the same numbers. -/
theorem versionNumbers_reread (h : f.Sound host af) :
    (f.reread host af).system.versionNumbers = af.system.versionNumbers := by
  obtain ⟨platform, major, minor, hdenotes, hos⟩ := Cluster.fillNodeOS_eq_ok.mp h.nodeOS
  have hdistro : f.nodeOS.distro = af.system.distro := by rw [hos]
  have hagain : OS.Denotes f.nodeOS.distro f.nodeOS.getVersion platform major minor := by
    rw [hos]
    exact OS.denotes_getVersion hdenotes.platform_eq (OS.parseMinorVersion_lt hdenotes.minor_eq)
  change (OS.parseMajorVersion f.nodeOS.distro f.nodeOS.getVersion,
    OS.parseMinorVersion f.nodeOS.distro f.nodeOS.getVersion) = _
  rw [AFSystem.versionNumbers, hagain.major_eq, hagain.minor_eq, hdenotes.major_eq,
    hdenotes.minor_eq]

/-- The lists of repositories and bundles, and the queue system that a section selects. -/
theorem selections_reread (_ : f.Sound host af) (hloaded : af.Loaded) :
    (f.reread host af).repositories = af.repositories ∧ (f.reread host af).ohpc = af.ohpc ∧
      (af.slurm.enabled = true → (f.reread host af).slurm = af.slurm) ∧
        (af.pbs.enabled = true → (f.reread host af).pbs = af.pbs) := by
  have hqueue : (f.cluster host af).queueSystem = some (Cluster.queueSystemOf af) := rfl
  have hrepositories : reloadedList af.repositories = af.repositories :=
    congrArg AnswerFile.repositories hloaded.reloaded_eq
  have hohpc : reloadedList af.ohpc = af.ohpc := congrArg AnswerFile.ohpc hloaded.reloaded_eq
  refine ⟨hrepositories, hohpc, ?_, ?_⟩
  · intro hslurm
    have hpbs : af.pbs.enabled = false := by simpa [hslurm] using hloaded.loadable.queue
    have hdump : (f.cluster host af).dumpSlurm = af.slurm := by
      unfold Cluster.dumpSlurm
      rw [hqueue]
      cases hs : af.slurm
      simp_all [Cluster.queueSystemOf, Filling.cluster, Cluster.setDefaults]
    change (f.cluster host af).dumpSlurm.reloaded = af.slurm
    rw [hdump, AFSlurm.reloaded, if_pos hslurm]
  · intro hpbs
    have hdump : (f.cluster host af).dumpPBS = af.pbs := by
      unfold Cluster.dumpPBS
      rw [hqueue]
      cases hp : af.pbs
      simp_all [Cluster.queueSystemOf]
    change (f.cluster host af).dumpPBS.reloaded = af.pbs
    rw [hdump, AFPBS.reloaded, if_pos hpbs]

theorem provisioner_reread (h : f.Sound host af) (hloaded : af.Loaded) :
    (f.reread host af).system.provisioner = af.system.provisioner := by
  have hself : lower af.system.provisioner = af.system.provisioner :=
    congrArg (fun r => r.system.provisioner) hloaded.reloaded_eq
  have hselected := h.provisioner
  change lower (if f.provisioner = .xCAT then "xcat" else "confluent") = _
  rw [Cluster.selectedProvisioner, hself] at hselected
  split at hselected
  · rename_i hxcat
    rw [← Except.ok.inj hselected, hxcat]
    decide +kernel
  · split at hselected
    · rename_i hconfluent
      rw [← Except.ok.inj hselected, hconfluent]
      decide +kernel
    · simp at hselected

end Filling.Sound

/-- The settings survive exactly when there is no time server, a kernel is named, and the
host name has no dot. -/
theorem settingsRestored_iff {kf : KeyFile} {path : String} {again : AnswerFile}
    (hload : loadOptions kf host.dryRun = .ok af)
    (hfill : Cluster.fillData host af (Cluster.fresh host) = .ok m)
    (hagain : loadOptions ⟨path, m.dumpData⟩ host.dryRun = .ok again) :
    SettingsRestored af again ↔
      af.time.timeserver = "" ∧ af.system.kernel.isSome = true ∧
        '.' ∉ af.hostname.hostname.toList := by
  obtain ⟨f, h, rfl⟩ := Cluster.fillData_fresh.mp hfill
  have hloaded := loadOptions_loaded hload h.version_ne_empty
  obtain ⟨-, -, rfl⟩ := (h.load_iff hloaded).mp hagain
  have htime : (f.reread host af).time = { af.time with timeserver := "" } := rfl
  have hnames : (f.reread host af).hostname =
      { af.hostname with domainName := afterFirst '.' (Cluster.filledFQDN af.hostname) } := rfl
  have hkernel : (f.reread host af).system.kernel = af.system.kernel.or host.os.kernel := by
    obtain ⟨_, _, _, -, hos⟩ := Cluster.fillNodeOS_eq_ok.mp h.nodeOS
    change f.nodeOS.kernel = _
    rw [hos]
  constructor
  · intro hr
    refine ⟨?_, ?_, ?_⟩
    · have heq := congrArg AFTime.timeserver hr.time
      rw [htime] at heq
      exact heq.symm
    · have heq := hr.kernel
      rw [hkernel] at heq
      cases hk : af.system.kernel with
      | some kernel => rfl
      | none =>
        rw [hk, Option.none_or] at heq
        have hsome := host.kernel_isSome
        rw [heq] at hsome
        cases hsome
    · have heq := congrArg AFHostname.domainName hr.hostname
      rw [hnames] at heq
      exact afterFirst_filledFQDN.mp heq
  · rintro ⟨hserver, hk, hdot⟩
    obtain ⟨hrepositories, hohpc, hslurm, hpbs⟩ := h.selections_reread hloaded
    have hdistro : (f.reread host af).system.distro = af.system.distro := by
      obtain ⟨_, _, _, -, hos⟩ := Cluster.fillNodeOS_eq_ok.mp h.nodeOS
      change f.nodeOS.distro = _
      rw [hos]
    exact
      { information := rfl
        time := by rw [htime, ← hserver]
        hostname := by rw [hnames, afterFirst_filledFQDN.mpr hdot]
        distro := hdistro
        version := h.versionNumbers_reread
        provisioner := h.provisioner_reread hloaded
        kernel := by
          obtain ⟨kernel, hsome⟩ := Option.isSome_iff_exists.mp hk
          rw [hkernel, hsome, Option.some_or]
        repositories := hrepositories
        ohpc := hohpc
        ofed := fun henabled => by
          change (f.cluster host af).dumpOFED.reloaded = _
          rw [(h.dumpOFED_cluster hloaded).2, if_pos henabled]
        slurm := hslurm
        pbs := hpbs
        postfixMail := by
          change (f.cluster host af).dumpPostfix.reloaded = _
          rw [h.dumpPostfix_cluster hloaded]
          exact congrArg AnswerFile.postfixMail hloaded.reloaded_eq
        generic := h.sameGeneric hloaded }

omit [Inet6] in
theorem loadOptions_sampleModel :
    ∃ again, @loadOptions plainInet6
      ⟨"copy.ini", @Cluster.dumpData plainInet6 (sampleModel sampleAnswerFile)⟩ sampleHost.dryRun =
        .ok again := by
  have hok : (@loadOptions plainInet6
      ⟨"copy.ini", @Cluster.dumpData plainInet6 (sampleModel sampleAnswerFile)⟩
        sampleHost.dryRun).isOk = true := by
    decide +kernel
  revert hok
  cases @loadOptions plainInet6
      ⟨"copy.ini", @Cluster.dumpData plainInet6 (sampleModel sampleAnswerFile)⟩
        sampleHost.dryRun with
  | ok again => exact fun _ => ⟨again, rfl⟩
  | error e => exact fun h => by cases h

omit [Inet6] in
theorem sample_settingsRestored_iff :
    ∃ again, @loadOptions plainInet6
        ⟨"copy.ini", @Cluster.dumpData plainInet6 (sampleModel sampleAnswerFile)⟩
        sampleHost.dryRun = .ok again ∧
      (SettingsRestored sampleAnswerFile again ↔
        sampleAnswerFile.time.timeserver = "" ∧ sampleAnswerFile.system.kernel.isSome = true ∧
          '.' ∉ sampleAnswerFile.hostname.hostname.toList) := by
  obtain ⟨again, hagain⟩ := loadOptions_sampleModel
  exact ⟨again, hagain, @settingsRestored_iff plainInet6 sampleHost _ _ _ _ _
    loadOptions_sampleKeyFile fillData_sampleAnswerFile hagain⟩

omit [Inet6] in
/-- The file names a kernel that the answerfile did not name. -/
theorem absent_kernel_not_restored :
    @loadOptions plainInet6 sampleKeyFile sampleHost.dryRun = .ok sampleAnswerFile ∧
      @Cluster.fillData plainInet6 sampleHost sampleAnswerFile (Cluster.fresh sampleHost) =
        .ok (sampleModel sampleAnswerFile) ∧
      ∃ again, @loadOptions plainInet6
          ⟨"copy.ini", @Cluster.dumpData plainInet6 (sampleModel sampleAnswerFile)⟩
          sampleHost.dryRun = .ok again ∧ ¬ SettingsRestored sampleAnswerFile again := by
  refine ⟨loadOptions_sampleKeyFile, fillData_sampleAnswerFile, ?_⟩
  obtain ⟨again, hagain⟩ := loadOptions_sampleModel
  refine ⟨again, hagain, fun hrestored => ?_⟩
  have hkernel : (@loadOptions plainInet6
      ⟨"copy.ini", @Cluster.dumpData plainInet6 (sampleModel sampleAnswerFile)⟩
        sampleHost.dryRun).map (·.system.kernel) = .ok none := by
    rw [hagain]
    exact congrArg Except.ok hrestored.kernel
  revert hkernel
  decide +kernel

end OpenCattus
