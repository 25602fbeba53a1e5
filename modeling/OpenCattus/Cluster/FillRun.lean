import OpenCattus.Cluster.RoundTrip

/-!
# A fill that fails

`fillData` writes to the model while it goes along, and nothing takes the writes back when a
later step throws. `fillRun` is `fillData` as a program over the model, with every write in
its place; the exceptions carry the step that has thrown. `result_fillRun` says that both
are the same function.

`failed_fill` says what a failure leaves: the writes of the steps before it.
-/

namespace OpenCattus

open Foundations Foundations.Text Foundations.Inet Program

/-- The steps of `fillData` that may throw, in order. -/
inductive FillStep where
  | networks
  | diskImage
  | nodeOS
  | ofed
  | management
  | external
  | service
  | application
  | provisioner
  | nodes
  | mail
  | generic
  deriving DecidableEq, Repr

namespace Cluster

/-! ## The program -/

/-- A step of `fillData`: it may throw and leave the model half changed. -/
abbrev Fill (α : Type) : Type := Program Cluster Exception α

/-- The external connection before its MAC address is set. -/
def externalEnd (host : Host) (afNetwork : AFNetwork) (cluster : Cluster) :
    Result (Connection × Address) := do
  let network ← cluster.getNetwork .External
  let connection := Connection.ofNetwork network
  let connection ← connection.setInterface host (← valueOf afNetwork.conInterface)
  let ip ← externalAddress host afNetwork
  let connection ← connection.setAddress ip
  .ok (connection, ip)

/-- The address of the network is set before the MAC address is checked. -/
def runExternalConnection (host : Host) (afNetwork : AFNetwork) : Fill Unit := do
  let cluster ← Program.read
  let (connection, ip) ← Program.ofExcept (externalEnd host afNetwork cluster)
  revise (·.setNetworkAddress .External ip)
  let connection ← Program.ofExcept (fillMAC afNetwork connection)
  update (·.addConnection connection)

/-- A service or application section: the network is added before the connection is made. -/
def runOptional (host : Host) (profile : Network.Profile) (afNetwork : AFNetwork)
    (make : String → Result Network) : Fill Unit :=
  match afNetwork.conInterface with
  | some interface => do
    let network ← Program.ofExcept (make interface)
    update (·.addNetwork network)
    revise (fillOptionalConnection host profile afNetwork interface)
  | none => pure ()

/-- One round of the loop over the nodes. -/
def appendNode (nodeOS : OS) (node : AFNode) (cluster : Cluster) : Result Cluster := do
  let network ← cluster.getNetwork .Management
  let newNode ← fillNode nodeOS network node
  cluster.addNode newNode

def runNodes (nodeOS : OS) : List AFNode → Fill Unit
  | [] => pure ()
  | node :: nodes => do
    revise (appendNode nodeOS node)
    runNodes nodeOS nodes

/-- A setter of the mail system that is there. -/
def modifyMail (f : Postfix → Postfix) (cluster : Cluster) : Cluster :=
  { cluster with mailSystem := cluster.mailSystem.map f }

def runSMTP (mail : AFPostfix) : Fill Unit :=
  match mail.profile with
  | .Local => pure ()
  | .Relay => do
    let smtp ← Program.ofExcept (valueOf mail.smtp)
    update (modifyMail fun m =>
      { m with smtpServer := some smtp.server, port := some (smtp.port % 2 ^ 16) })
  | .SASL => do
    let smtp ← Program.ofExcept (valueOf mail.smtp)
    update (modifyMail fun m =>
      { m with smtpServer := some smtp.server, port := some (smtp.port % 2 ^ 16) })
    let sasl ← Program.ofExcept (valueOf smtp.sasl)
    update (modifyMail fun m =>
      { m with username := some sasl.username, password := some sasl.password })

def runPostfix (mail : AFPostfix) : Fill Unit :=
  if mail.enabled then do
    update fun cluster =>
      { cluster with
        mailSystem := some
          { profile := mail.profile
            hostname := some cluster.headnode.hostname
            domain := some cluster.getDomainName
            destination := some mail.destination } }
    runSMTP mail
    update (modifyMail fun m => { m with certFile := some mail.certFile, keyFile := some mail.keyFile })
  else pure ()

/-- The fields are set one by one. -/
def runGenericNode (generic : AFNode) : Fill Unit := do
  let nodePrefix ← Program.ofExcept (valueOf generic.nodePrefix)
  update fun cluster => { cluster with nodePrefix }
  let nodePadding ← Program.ofExcept (numberOf generic.padding)
  update fun cluster => { cluster with nodePadding }
  let nodeStartIP ← Program.ofExcept (valueOf generic.startIp)
  update fun cluster => { cluster with nodeStartIP }
  let nodeRootPassword ← Program.ofExcept (valueOf generic.rootPassword)
  update fun cluster => { cluster with nodeRootPassword }
  let nodeSockets ← Program.ofExcept (numberOf generic.sockets)
  update fun cluster => { cluster with nodeSockets }
  let nodeCoresPerSocket ← Program.ofExcept (numberOf generic.coresPerSocket)
  update fun cluster => { cluster with nodeCoresPerSocket }
  let nodeThreadsPerCore ← Program.ofExcept (numberOf generic.threadsPerCore)
  update fun cluster => { cluster with nodeThreadsPerCore }
  let nodeCPUsPerNode ← Program.ofExcept (numberOf generic.cpusPerNode)
  update fun cluster => { cluster with nodeCPUsPerNode }
  let nodeRealMemory ← Program.ofExcept (numberOf generic.realMemory)
  update fun cluster => { cluster with nodeRealMemory }
  update fun cluster =>
    { cluster with
      nodeBMCUsername := generic.bmcUsername.getD ""
      nodeBMCPassword := generic.bmcPassword.getD "" }
  let nodeBMCSerialPort ← Program.ofExcept (stoul (generic.bmcSerialport.getD "0"))
  update fun cluster => { cluster with nodeBMCSerialPort }
  let nodeBMCSerialSpeed ← Program.ofExcept (stoul (generic.bmcSerialspeed.getD "0"))
  update fun cluster => { cluster with nodeBMCSerialSpeed }

/-- The provisioner is only set when it is supported. -/
def setSupportedProvisioner (system : AFSystem) (nodeOS : OS) (cluster : Cluster) :
    Result Cluster := do
  let provisioner ← selectedProvisioner system.provisioner
  validateProvisionerSupport cluster.headnode.os nodeOS provisioner
  .ok { cluster with provisioner, computeNodeOS := some nodeOS }

variable [Inet6]

/-- `Cluster::fillData` with its writes. -/
def fillRun (host : Host) (af : AnswerFile) : Program Cluster (FillStep × Exception) Unit := do
  let managementNetwork ← during .networks
    (Program.ofExcept (fillManagementNetwork host af.management))
  let externalNetwork ← during .networks (Program.ofExcept (fillExternalNetwork host af.external))
  during .diskImage (runDiskImage host af.system.diskImage)
  let nodeOS ← during .nodeOS (Program.ofExcept (fillNodeOS host af.system))
  update (fillInformation af)
  during .ofed (revise (fillOFED host af.ofed))
  update (fillRepositories af)
  update (fillQueueSystem af)
  update (·.addNetwork managementNetwork)
  during .management (revise (fillManagementConnection host af.management))
  update (·.addNetwork externalNetwork)
  during .external (runExternalConnection host af.external)
  during .service (runOptional host .Service af.service (fillServiceNetwork host af.service))
  during .application
    (runOptional host .Application af.application fun _ => fillApplicationNetwork af.application)
  update fun cluster => { cluster with updateSystem := true }
  during .provisioner (revise (setSupportedProvisioner af.system nodeOS))
  during .nodes (runNodes nodeOS af.nodes.nodes)
  during .mail (runPostfix af.postfixMail)
  let generic ← during .generic (Program.ofExcept (derefOf af.nodes.generic))
  during .generic (runGenericNode generic)
  update (fillSlurmPasswords af.slurm)

/-! ## The program computes `fillData` -/

omit [Inet6] in
theorem result_runExternalConnection (host : Host) (afNetwork : AFNetwork) (cluster : Cluster) :
    result (runExternalConnection host afNetwork) cluster =
      fillExternalConnection host afNetwork cluster := by
  simp only [runExternalConnection, result_read_bind, result_ofExcept_bind, result_revise_bind,
    result_update, externalEnd, fillExternalConnection, bind_assoc, except_ok_bind]

theorem result_runService (host : Host) (afNetwork : AFNetwork) (cluster : Cluster) :
    result (runOptional host .Service afNetwork (fillServiceNetwork host afNetwork)) cluster =
      fillService host afNetwork cluster := by
  unfold runOptional fillService
  cases afNetwork.conInterface with
  | none => rfl
  | some interface =>
    simp only [result_ofExcept_bind, result_update_bind, result_revise]

theorem result_runApplication (host : Host) (afNetwork : AFNetwork) (cluster : Cluster) :
    result (runOptional host .Application afNetwork fun _ => fillApplicationNetwork afNetwork)
        cluster = fillApplication host afNetwork cluster := by
  unfold runOptional fillApplication
  cases afNetwork.conInterface with
  | none => rfl
  | some interface =>
    simp only [result_ofExcept_bind, result_update_bind, result_revise]

omit [Inet6] in
theorem result_runNodes (nodeOS : OS) (nodes : List AFNode) (cluster : Cluster) :
    result (runNodes nodeOS nodes) cluster = fillNodes nodeOS cluster nodes := by
  induction nodes generalizing cluster with
  | nil => rfl
  | cons node nodes ih =>
    simp only [runNodes, result_revise_bind, appendNode, fillNodes, bind_assoc, ih]

omit [Inet6] in
theorem result_runPostfix (mail : AFPostfix) (cluster : Cluster) :
    result (runPostfix mail) cluster = fillPostfix mail cluster := by
  unfold runPostfix fillPostfix
  cases mail.enabled with
  | false => rfl
  | true =>
    simp only [if_true, result_bind, result_update, except_ok_bind, runSMTP, fillSMTP]
    cases mail.profile with
    | Local => rfl
    | Relay => cases mail.smtp <;> rfl
    | SASL =>
      cases mail.smtp with
      | none => rfl
      | some smtp =>
        obtain ⟨server, port, sasl⟩ := smtp
        cases sasl <;> rfl

omit [Inet6] in
theorem result_runGenericNode (generic : AFNode) (cluster : Cluster) :
    result (runGenericNode generic) cluster = fillGenericNode generic cluster := by
  simp only [runGenericNode, result_ofExcept_bind, result_update_bind, result_update, numberOf,
    fillGenericNode, bind_assoc]

omit [Inet6] in
theorem setSupportedProvisioner_updated (system : AFSystem) (nodeOS : OS) (cluster : Cluster) :
    setSupportedProvisioner system nodeOS { cluster with updateSystem := true } =
      fillProvisioner system nodeOS cluster := rfl

/-- The writes add nothing to what `fillData` computes. -/
theorem result_fillRun (host : Host) (af : AnswerFile) (cluster : Cluster) :
    result (unlabelled (fillRun host af)) cluster = fillData host af cluster := by
  simp only [fillRun, unlabelled_bind, unlabelled_during, unlabelled_update, result_ofExcept_bind,
    result_bind, result_revise, result_update, except_ok_bind, result_runExternalConnection,
    result_runService, result_runApplication, result_runNodes, result_runPostfix,
    result_runGenericNode, setSupportedProvisioner_updated]
  rfl

/-! ## What the steps write -/

section Frame

omit [Inet6]

/-- The distribution that the name of the image tells; nothing reads it. -/
def clearImageDistro (cluster : Cluster) : Cluster := { cluster with diskImage.distro := none }

theorem eq_of_clearImageDistro {cluster cluster' : Cluster}
    (h : clearImageDistro cluster' = clearImageDistro cluster) :
    cluster' = { cluster with diskImage.distro := cluster'.diskImage.distro } :=
  congrArg (fun c : Cluster => { c with diskImage.distro := cluster'.diskImage.distro }) h

def clearDiskImage (cluster : Cluster) : Cluster :=
  { cluster with diskImage := {}, pendingDiskImageDownloadURL := none }

/-- The time servers are not written. -/
def clearInformation (cluster : Cluster) : Cluster :=
  { cluster with
    name := ""
    companyName := ""
    adminMail := ""
    timezone := { cluster.timezone with timezone := "" }
    locale := ""
    headnode := { cluster.headnode with hostname := "", fqdn := "" } }

def clearServices (cluster : Cluster) : Cluster :=
  { cluster with
    ofed := none
    enabledRepositories := none
    enabledOpenHPCBundles := none
    queueSystem := none }

def clearNetworks (cluster : Cluster) : Cluster :=
  { cluster with
    networks := []
    headnode := { cluster.headnode with connections := [] } }

def clearUpdate (cluster : Cluster) : Cluster := { cluster with updateSystem := false }

def clearNodes (cluster : Cluster) : Cluster :=
  { cluster with provisioner := .xCAT, computeNodeOS := none, nodes := [] }

def clearMail (cluster : Cluster) : Cluster := { cluster with mailSystem := none }

def clearDefaults (cluster : Cluster) : Cluster :=
  { cluster with
    nodePrefix := ""
    nodePadding := 0
    nodeStartIP := default
    nodeRootPassword := ""
    nodeSockets := 0
    nodeCoresPerSocket := 0
    nodeThreadsPerCore := 0
    nodeCPUsPerNode := 0
    nodeRealMemory := 0
    nodeBMCUsername := ""
    nodeBMCPassword := ""
    nodeBMCSerialPort := 0
    nodeBMCSerialSpeed := 0 }

/-- The model without what is written before the application section is done. -/
def clearLinks (cluster : Cluster) : Cluster :=
  clearNetworks (clearServices (clearInformation (clearDiskImage cluster)))

/-- The model without the fields that are written before the step throws. -/
def unwritten : FillStep → Cluster → Cluster
  | .networks, cluster => cluster
  | .diskImage, cluster => clearImageDistro cluster
  | .nodeOS, cluster => clearDiskImage cluster
  | .ofed, cluster => clearInformation (clearDiskImage cluster)
  | .management, cluster | .external, cluster | .service, cluster | .application, cluster =>
    clearLinks cluster
  | .provisioner, cluster => clearUpdate (clearLinks cluster)
  | .nodes, cluster => clearNodes (clearUpdate (clearLinks cluster))
  | .mail, cluster => clearMail (clearNodes (clearUpdate (clearLinks cluster)))
  | .generic, cluster => clearDefaults (clearMail (clearNodes (clearUpdate (clearLinks cluster))))

/-- A network without its address, which a later section may compute again. -/
def unaddressed (network : Network) : Network := { network with address := default }

/-- What a fill that throws in `step` leaves of the model `before` it. -/
structure Leaves (af : AnswerFile) (before : Cluster) (step : FillStep) (after : Cluster) :
    Prop where
  unwritten_eq : unwritten step after = unwritten step before
  networks : before.networks.map unaddressed <+: after.networks.map unaddressed
  connections : before.headnode.connections <+: after.headnode.connections
  /-- Every node that was added is complete. -/
  nodes : ∃ added, after.nodes = before.nodes ++ added ∧ ∀ node ∈ added,
    ∃ afNode ∈ af.nodes.nodes, ∃ nodeOS network, fillNode nodeOS network afNode = .ok node

namespace Leaves

variable {af : AnswerFile} {before after : Cluster} {step : FillStep}

theorem refl (af : AnswerFile) (before : Cluster) (step : FillStep) :
    Leaves af before step before :=
  ⟨rfl, List.prefix_rfl, List.prefix_rfl, [], by simp, by simp⟩

/-- A later step has more written before it. -/
theorem later {step' : FillStep} (h : Leaves af before step after) (clear : Cluster → Cluster)
    (hclear : ∀ c, unwritten step' c = clear (unwritten step c)) : Leaves af before step' after := by
  refine ⟨?_, h.networks, h.connections, h.nodes⟩
  rw [hclear, hclear, h.unwritten_eq]

/-- A write that adds no network, connection or node. -/
theorem written {after' : Cluster} (h : Leaves af before step after)
    (hw : unwritten step after' = unwritten step after)
    (hlists : (after'.networks.map unaddressed, after'.headnode.connections, after'.nodes) =
      (after.networks.map unaddressed, after.headnode.connections, after.nodes)) :
    Leaves af before step after' := by
  simp only [Prod.mk.injEq] at hlists
  obtain ⟨hn, hc, hnodes⟩ := hlists
  exact ⟨hw.trans h.unwritten_eq, hn ▸ h.networks, hc ▸ h.connections, hnodes ▸ h.nodes⟩

theorem addNetwork (h : Leaves af before step after) (hstep : unwritten step = clearLinks)
    (network : Network) : Leaves af before step (after.addNetwork network) := by
  refine ⟨?_, h.networks.trans ?_, h.connections, h.nodes⟩
  · rw [← h.unwritten_eq, hstep]
    rfl
  · simp [Cluster.addNetwork]

theorem addConnection (h : Leaves af before step after) (hstep : unwritten step = clearLinks)
    (connection : Connection) : Leaves af before step (after.addConnection connection) := by
  refine ⟨?_, h.networks, h.connections.trans ?_, h.nodes⟩
  · rw [← h.unwritten_eq, hstep]
    rfl
  · simp [Cluster.addConnection]

theorem setNetworkAddress {profile : Network.Profile} {ip : Address} {after' : Cluster}
    (h : Leaves af before step after) (hstep : unwritten step = clearLinks)
    (hset : after.setNetworkAddress profile ip = .ok after') : Leaves af before step after' := by
  simp only [Cluster.setNetworkAddress, except_bind_ok] at hset
  obtain ⟨first, hfirst, address, hcalc, changed, hchanged, hset⟩ := hset
  obtain ⟨-, rfl⟩ := Network.calculateAddress_eq_ok.mp ⟨address, hcalc, hchanged⟩
  obtain rfl := Except.ok.inj hset
  refine h.written ?_ ?_
  · rw [hstep]
    rfl
  · exact congrArg (·, after.headnode.connections, after.nodes)
      (map_updateFirst unaddressed (getNetwork_eq_ok.mp hfirst) rfl)

end Leaves

/-! ## What a failure leaves -/

variable {af : AnswerFile} {before : Cluster}

/-- An image that cannot be verified leaves its distribution, and nothing else. -/
theorem ensures_runDiskImage (host : Host) (path : String) :
    Ensures (runDiskImage host path) (· = before) (Leaves af before .nodeOS)
      fun _ => Leaves af before .diskImage := by
  rintro cluster rfl
  have hstart := Leaves.refl af cluster .diskImage
  rcases runDiskImage_cases host path cluster with ⟨-, e, -, hrun⟩ | ⟨-, hrun⟩ | ⟨-, -, e, -, hrun⟩
  · rw [hrun]
    exact hstart
  · rw [hrun]
    exact (hstart.later clearDiskImage fun _ => rfl).written rfl rfl
  · rw [hrun]
    exact hstart.written rfl rfl

theorem preserves_runExternalConnection (host : Host) (afNetwork : AFNetwork) :
    Preserves (runExternalConnection host afNetwork) (Leaves af before .external) := by
  refine preserves_bind preserves_read fun cluster => preserves_bind (preserves_ofExcept _) ?_
  rintro ⟨connection, ip⟩
  exact preserves_bind (preserves_revise fun s s' hs h => hs.setNetworkAddress rfl h) fun _ =>
    preserves_bind (preserves_ofExcept _) fun connection =>
      preserves_update fun s hs => hs.addConnection rfl connection

theorem preserves_runOptional {step : FillStep} (hstep : unwritten step = clearLinks) (host : Host)
    (profile : Network.Profile) (afNetwork : AFNetwork) (make : String → Result Network) :
    Preserves (runOptional host profile afNetwork make) (Leaves af before step) := by
  unfold runOptional
  split
  · refine preserves_bind (preserves_ofExcept _) fun network =>
      preserves_bind (preserves_update fun s hs => hs.addNetwork hstep network) fun _ =>
        preserves_revise fun s s' hs h => ?_
    simp only [fillOptionalConnection, except_bind_ok] at h
    obtain ⟨_, -, _, -, _, -, _, -, connection, -, c, hc, h⟩ := h
    obtain rfl := Except.ok.inj h
    exact (hs.setNetworkAddress hstep hc).addConnection hstep connection
  · exact preserves_pure ()

theorem leaves_fillManagementConnection {host : Host} {afNetwork : AFNetwork}
    {cluster cluster' : Cluster} (hs : Leaves af before .management cluster)
    (h : fillManagementConnection host afNetwork cluster = .ok cluster') :
    Leaves af before .management cluster' := by
  simp only [fillManagementConnection, except_bind_ok] at h
  obtain ⟨_, -, _, -, _, -, _, -, _, -, connection, -, h⟩ := h
  obtain rfl := Except.ok.inj h
  exact hs.addConnection rfl connection

theorem preserves_runNodes (nodeOS : OS) {nodes : List AFNode}
    (hnodes : ∀ node ∈ nodes, node ∈ af.nodes.nodes) :
    Preserves (runNodes nodeOS nodes) (Leaves af before .nodes) := by
  induction nodes with
  | nil => exact preserves_pure ()
  | cons node nodes ih =>
    refine preserves_bind (preserves_revise fun s s' hs h => ?_) fun _ =>
      ih fun n hn => hnodes n (List.mem_cons_of_mem _ hn)
    simp only [appendNode, addNode, except_bind_ok, pushBack_eq_ok] at h
    obtain ⟨network, -, newNode, hnew, _, ⟨-, rfl⟩, h⟩ := h
    obtain rfl := Except.ok.inj h
    obtain ⟨added, hadded, hcomplete⟩ := hs.nodes
    refine ⟨hs.unwritten_eq, hs.networks, hs.connections, added ++ [newNode], by simp [hadded], ?_⟩
    intro n hn
    rcases List.mem_append.mp hn with hn | hn
    · exact hcomplete n hn
    · obtain rfl := List.mem_singleton.mp hn
      exact ⟨node, hnodes node (List.mem_cons_self ..), nodeOS, network, hnew⟩

theorem preserves_runPostfix (mail : AFPostfix) :
    Preserves (runPostfix mail) (Leaves af before .mail) := by
  have hwrite : ∀ f, Preserves (update (modifyMail f) : Fill Unit) (Leaves af before .mail) :=
    fun f => preserves_update fun s hs => hs.written rfl rfl
  unfold runPostfix
  split
  · refine preserves_bind (preserves_update fun s hs => hs.written rfl rfl) fun _ =>
      preserves_bind ?_ fun _ => hwrite _
    unfold runSMTP
    split
    · exact preserves_pure ()
    · exact preserves_bind (preserves_ofExcept _) fun _ => hwrite _
    · exact preserves_bind (preserves_ofExcept _) fun _ => preserves_bind (hwrite _) fun _ =>
        preserves_bind (preserves_ofExcept _) fun _ => hwrite _
  · exact preserves_pure ()

/-- One assignment of `runGenericNode`, and the rest of it. -/
theorem preserves_assign {α : Type} {x : Result α} {f : α → Cluster → Cluster}
    {rest : α → Unit → Fill Unit} (hf : ∀ a s, Leaves af before .generic s →
      Leaves af before .generic (f a s))
    (hrest : ∀ a, Preserves (rest a ()) (Leaves af before .generic)) :
    Preserves (Program.ofExcept x >>= fun a => update (f a) >>= rest a)
      (Leaves af before .generic) :=
  preserves_bind (preserves_ofExcept _) fun a =>
    preserves_bind (preserves_update (hf a)) fun _ => hrest a

theorem preserves_runGenericNode (generic : AFNode) :
    Preserves (runGenericNode generic) (Leaves af before .generic) := by
  iterate 9 refine preserves_assign (fun _ s hs => hs.written rfl rfl) fun _ => ?_
  refine preserves_bind (preserves_update fun s hs => hs.written rfl rfl) fun _ => ?_
  refine preserves_assign (fun _ s hs => hs.written rfl rfl) fun _ => ?_
  exact preserves_bind (preserves_ofExcept _) fun _ =>
    preserves_update fun s hs => hs.written rfl rfl

end Frame

omit [Inet6] in
/-- A step that starts from what an earlier one leaves and keeps what it leaves itself. -/
theorem ensures_step {af : AnswerFile} {before : Cluster} {earlier step : FillStep} {α : Type}
    {x : Fill α} (clear : Cluster → Cluster)
    (hclear : ∀ c, unwritten step c = clear (unwritten earlier c))
    (hx : Preserves x (Leaves af before step)) :
    Ensures (during step x) (Leaves af before earlier) (Leaves af before step)
      fun p => Leaves af before p.1 := fun s hs =>
  ensures_during (hx.ensures fun _ _ h => h) s (hs.later clear hclear)

theorem ensures_fillRun (host : Host) (af : AnswerFile) (before : Cluster) :
    Ensures (fillRun host af) (· = before) (fun _ => True) fun p => Leaves af before p.1 := by
  have hstart : ∀ (step : FillStep) s, s = before → Leaves af before step s := by
    rintro step _ rfl
    exact Leaves.refl af _ step
  refine ensures_bind (ensures_during (ensures_ofExcept fun _ => hstart .networks)) fun n₁ => ?_
  refine ensures_bind (ensures_during (ensures_ofExcept fun _ => hstart .networks)) fun n₂ => ?_
  refine ensures_bind (Q := Leaves af before .nodeOS)
    (ensures_during (ensures_runDiskImage host _)) fun _ => ?_
  refine ensures_bind (ensures_step id (fun _ => rfl) (preserves_ofExcept _)) fun nodeOS => ?_
  refine ensures_bind (Q := Leaves af before .ofed) (ensures_update fun s hs =>
    (hs.later clearInformation fun _ => rfl).written rfl rfl) fun _ => ?_
  refine ensures_bind (Q := Leaves af before .management)
    (ensures_during (ensures_revise ?_ fun _ _ hs => hs)) fun _ => ?_
  · intro s s' hs hset
    obtain ⟨ofed, -, rfl⟩ := fillOFED_eq_ok.mp hset
    exact (hs.later (fun c => clearNetworks (clearServices c)) fun _ => rfl).written rfl rfl
  refine ensures_bind (Q := Leaves af before .management)
    (ensures_update fun s hs => hs.written rfl rfl) fun _ => ?_
  refine ensures_bind (Q := Leaves af before .management)
    (ensures_update fun s hs => hs.written rfl rfl) fun _ => ?_
  refine ensures_bind (Q := Leaves af before .management)
    (ensures_update fun s hs => hs.addNetwork rfl n₁) fun _ => ?_
  refine ensures_bind (ensures_step id (fun _ => rfl)
    (preserves_revise fun _ _ => leaves_fillManagementConnection)) fun _ => ?_
  refine ensures_bind (Q := Leaves af before .management)
    (ensures_update fun s hs => hs.addNetwork rfl n₂) fun _ => ?_
  refine ensures_bind (ensures_step id (fun _ => rfl)
    (preserves_runExternalConnection host _)) fun _ => ?_
  refine ensures_bind (Q := Leaves af before .service) (ensures_step id (fun _ => rfl)
    (preserves_runOptional (by rfl) host _ _ _)) fun _ => ?_
  refine ensures_bind (Q := Leaves af before .application) (ensures_step id (fun _ => rfl)
    (preserves_runOptional (by rfl) host _ _ _)) fun _ => ?_
  refine ensures_bind (Q := Leaves af before .provisioner) (ensures_update fun s hs =>
    (hs.later clearUpdate fun _ => rfl).written rfl rfl) fun _ => ?_
  refine ensures_bind (Q := Leaves af before .nodes)
    (ensures_during (ensures_revise ?_ fun _ _ hs => hs)) fun _ => ?_
  · intro s s' hs hset
    simp only [setSupportedProvisioner, except_bind_ok] at hset
    obtain ⟨_, -, _, -, hset⟩ := hset
    obtain rfl := Except.ok.inj hset
    exact (hs.later clearNodes fun _ => rfl).written rfl rfl
  refine ensures_bind (ensures_step id (fun _ => rfl)
    (preserves_runNodes nodeOS fun _ h => h)) fun _ => ?_
  refine ensures_bind (ensures_step clearMail (fun _ => rfl) (preserves_runPostfix _)) fun _ => ?_
  refine ensures_bind (ensures_step clearDefaults (fun _ => rfl) (preserves_ofExcept _))
    fun generic => ?_
  exact ensures_bind (ensures_step id (fun _ => rfl) (preserves_runGenericNode generic)) fun _ =>
    ensures_update fun _ _ => trivial

end Cluster

/-- A fill that fails has changed nothing while it makes the first networks. At the check of the
disk image it has changed the distribution of the image at most. After that the steps before the
failure stay written, and nothing else is. -/
theorem failed_fill [Inet6] {host : Host} {af : AnswerFile} {before : Cluster} {e : Exception}
    (h : Cluster.fillData host af before = .error e) :
    ∃ step after, Raises (Cluster.fillRun host af) before (step, e) after ∧
      Cluster.Leaves af before step after ∧
        (step = .networks → after = before) ∧
          (step = .diskImage → ∃ distro, after = { before with diskImage.distro := distro }) := by
  rw [← Cluster.result_fillRun] at h
  rcases hrun : Cluster.fillRun host af before with ⟨⟨step, e'⟩ | ⟨⟩, after⟩
  · obtain rfl : e' = e := by simpa [result, unlabelled, hrun, Except.mapError] using h
    have hleaves := (Cluster.ensures_fillRun host af before).raises rfl hrun
    refine ⟨step, after, hrun, hleaves, ?_, ?_⟩
    · rintro rfl
      exact hleaves.unwritten_eq
    · rintro rfl
      exact ⟨_, Cluster.eq_of_clearImageDistro hleaves.unwritten_eq⟩
  · simp [result, unlabelled, hrun, Except.mapError] at h

/-- `sampleKeyFile` with an external interface that the head node does not have. -/
def misnamedKeyFile : KeyFile where
  path := "answerfile.ini"
  data :=
    { groups := sampleKeyFile.data.groups.map fun group =>
        (group.1, if group.1 = "network_external" then
          ("interface", "eth9") :: group.2.tail else group.2)
      nodup := by decide }

def misnamedAnswerFile : AnswerFile :=
  { sampleAnswerFile with external := { sampleAnswerFile.external with conInterface := some "eth9" } }

/-- How the fill of `misnamedAnswerFile` ends. -/
def misnamedFill : Except Exception Cluster :=
  @Cluster.fillData plainInet6 sampleHost misnamedAnswerFile (Cluster.fresh sampleHost)

theorem misnamedFill_leaves :
    misnamedFill = runtimeError "Cannot find network interface eth9" ∧
      ∃ step after, Raises (@Cluster.fillRun plainInet6 sampleHost misnamedAnswerFile)
        (Cluster.fresh sampleHost)
        (step, ⟨.runtimeError, "Cannot find network interface eth9"⟩) after ∧
      Cluster.Leaves misnamedAnswerFile (Cluster.fresh sampleHost) step after ∧
        (step = .networks → after = Cluster.fresh sampleHost) ∧
          (step = .diskImage → ∃ distro, after =
            { Cluster.fresh sampleHost with diskImage.distro := distro }) := by
  have hfail : misnamedFill =
      runtimeError "Cannot find network interface eth9" := by
    decide
  exact ⟨hfail, @failed_fill plainInet6 _ _ _ _ hfail⟩

/-- The loader accepts the file; when the interface is found missing, both networks and the
connection to the management network are in the model already. -/
theorem misnamedFill_changes :
    @loadOptions plainInet6 misnamedKeyFile false = .ok misnamedAnswerFile ∧
      ¬ ∀ step e after, Raises (@Cluster.fillRun plainInet6 sampleHost misnamedAnswerFile)
          (Cluster.fresh sampleHost) (step, e) after →
        after.networks = (Cluster.fresh sampleHost).networks ∧
          after.headnode.connections = (Cluster.fresh sampleHost).headnode.connections := by
  refine ⟨by decide, ?_⟩
  intro h
  have hraised : (@Cluster.fillRun plainInet6 sampleHost misnamedAnswerFile
      (Cluster.fresh sampleHost)).1 =
        .error (.external, ⟨.runtimeError, "Cannot find network interface eth9"⟩) := by
    decide
  have hnetworks : (@Cluster.fillRun plainInet6 sampleHost misnamedAnswerFile
      (Cluster.fresh sampleHost)).2.networks.length = 2 := by
    decide
  rcases hrun : @Cluster.fillRun plainInet6 sampleHost misnamedAnswerFile
    (Cluster.fresh sampleHost) with ⟨outcome, after⟩
  rw [hrun] at hraised hnetworks
  obtain rfl := hraised
  have hkept : after.networks = [] := (h _ _ after hrun).1
  simp [hkept] at hnetworks

end OpenCattus
