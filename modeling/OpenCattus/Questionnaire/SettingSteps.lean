import OpenCattus.Foundations.Replay
import OpenCattus.Questionnaire.Steps

/-!
# Which step changes which setting

For each step of the questionnaire what it leaves alone, whether it completes, is left by Back or
stops: the model without the fields that it sets.

`leaves_steps` is the list of them, and `SetBy` says of a part of the model that it is set in one
step alone.
-/

namespace OpenCattus

open Foundations Foundations.Text Foundations.Inet Program Dialog

/-- The queue system with the parameters that its step sets. -/
def Cluster.queueWithParameters (model : Cluster) : Option (QueueSystem × List String) :=
  match model.queueSystem with
  | none => none
  | some (.SLURM defaultQueue) =>
    some (.SLURM defaultQueue,
      [model.slurmMariaDBRootPassword, model.slurmDBPassword, model.slurmStoragePassword])
  | some (.PBS executionPlace) => some (.PBS executionPlace, [])

inductive Setting where
  | timeservers | names | ofed | queue | mailSystem
  deriving DecidableEq, Repr

namespace Setting

def Value : Setting → Type
  | .timeservers => List String
  | .names => String × String
  | .ofed => Option OFED
  | .queue => Option (QueueSystem × List String)
  | .mailSystem => Option Postfix

/-- The value of a setting; the names are those that the mail system takes over. -/
def of : (x : Setting) → Cluster → x.Value
  | .timeservers, model => model.timezone.timeservers
  | .names, model => (model.headnode.hostname, model.getDomainName)
  | .ofed, model => model.ofed
  | .queue, model => model.queueWithParameters
  | .mailSystem, model => model.mailSystem

/-- The step that asks for the setting. -/
def step : Setting → String
  | .timeservers => "time"
  | .names => "hostname"
  | .ofed => "networking"
  | .queue => "queue"
  | .mailSystem => "mail"

end Setting

/-! ## Steps for names, time and systems -/

variable {γ : Type} {f : Cluster → γ} {probes : Probes}

theorem leaves_enumMenu (α : Type) [Enumeration α] : Leaves (enumMenu α) f :=
  leaves_bind (leaves_listMenu _) fun _ => leaves_lift _

theorem leaves_presenterGeneralSettings :
    Leaves presenterGeneralSettings fun model : Cluster =>
      { model with name := "", companyName := "", adminMail := "" } := by
  refine leaves_bind (leaves_accept _) fun _ => ?_
  refine leaves_bind (leaves_setModel fun _ => rfl) fun _ => ?_
  exact leaves_bind (leaves_enumMenu _) fun _ => leaves_pure _

theorem leaves_presenterTime :
    Leaves (presenterTime probes) fun model : Cluster => { model with timezone := {} } := by
  have hlocation : ∀ levels node selectedTimezone,
      Leaves (selectLocation levels node selectedTimezone) fun model : Cluster =>
        { model with timezone := {} } := by
    intro levels
    induction levels with
    | zero => exact fun _ _ => leaves_pure _
    | succ levels ih =>
      intro node selectedTimezone
      unfold selectLocation
      split
      · exact leaves_pure _
      · refine leaves_bind (leaves_listMenu _) fun _ => ?_
        exact leaves_bind (leaves_lift _) fun _ => ih _ _
  unfold presenterTime
  split
  · exact leaves_raise _
  · refine leaves_bind (leaves_listMenu _) fun _ => ?_
    dsimp only
    split
    · exact leaves_raise _
    · refine leaves_bind (hlocation _ _ _) fun _ => ?_
      refine leaves_bind (leaves_setModel fun _ => rfl) fun _ => ?_
      exact leaves_bind (leaves_accept _) fun _ => leaves_setModel fun _ => rfl

theorem leaves_presenterLocale :
    Leaves (presenterLocale probes) fun model : Cluster => { model with locale := "" } := by
  have hset : ∀ selectedLocale, Leaves (setModel fun model =>
      { model with locale := selectedLocale } : Presenter Unit)
        fun model : Cluster => { model with locale := "" } :=
    fun _ => leaves_setModel fun _ => rfl
  unfold presenterLocale
  split
  · exact leaves_raise _
  · split
    · exact leaves_bind (leaves_listMenu _) fun _ => hset _
    · refine leaves_bind (leaves_listMenu _) fun _ => ?_
      split
      · exact leaves_bind (leaves_listMenu _) fun _ => hset _
      · refine leaves_bind (leaves_lift _) fun _ => ?_
        split
        · exact hset _
        · refine leaves_bind (leaves_listMenu _) fun _ => ?_
          exact leaves_bind (leaves_lift _) fun _ => hset _

/-- The names are kept, whether they are accepted or not. -/
theorem snd_hostIdRound (values : Vector String 2) (model : Cluster) :
    (hostIdRound values model).2 =
      (model.setHostname (getElem values 0 Nat.two_pos)).setDomainName
        (getElem values 1 Nat.one_lt_two) := by
  unfold hostIdRound
  dsimp only
  split
  · rfl
  · split <;> rfl

theorem leaves_presenterHostId :
    Leaves presenterHostId fun model : Cluster =>
      { model with headnode := { model.headnode with hostname := "", fqdn := "" } } := by
  refine leaves_ask fun values model => ?_
  rw [snd_hostIdRound]
  rfl

/-- The model without the system of the nodes and its image. -/
def Cluster.withoutSystem (model : Cluster) : Cluster :=
  { model with computeNodeOS := none, diskImage := {}, pendingDiskImageDownloadURL := none }

theorem withoutSystem_setPendingDiskImageDownload {host : Host} {model r : Cluster}
    {path url : String} (h : model.setPendingDiskImageDownload host path url = .ok r) :
    r.withoutSystem = model.withoutSystem := by
  obtain ⟨next, hnext, h⟩ := except_bind_ok.mp h
  obtain ⟨-, -, rfl⟩ := Cluster.setDiskImagePath_eq_ok.mp hnext
  obtain rfl := Except.ok.inj h
  rfl

theorem withoutSystem_setDiskImage {host : Host} {model r : Cluster} {path : String}
    (h : model.setDiskImage host path = .ok r) : r.withoutSystem = model.withoutSystem := by
  obtain ⟨-, -, rfl⟩ := Cluster.setDiskImage_eq_ok.mp h
  rfl

theorem leaves_selectDistro : Leaves selectDistro f :=
  leaves_bind (leaves_listMenu _) fun _ => leaves_lift _

theorem leaves_setComputeNodeOS (distro : OS.Distro) (version : VersionCombo) :
    Leaves (do
      let os ← lift (makeOperatingSystem distro version)
      setModel fun model => { model with computeNodeOS := some os } : Presenter Unit)
        Cluster.withoutSystem :=
  leaves_bind (leaves_lift _) fun _ => leaves_setModel fun _ => rfl

theorem leaves_planDownload (host : Host) (distro : OS.Distro) :
    Leaves (planDownload host distro) Cluster.withoutSystem := by
  refine leaves_bind ?_ fun _ => leaves_pure _
  unfold downloadSelectedDistro
  split
  · exact leaves_pure _
  · refine leaves_bind (blind_askFor _ _).leaves fun version => ?_
    refine leaves_bind (leaves_lift _) fun url => ?_
    have hplanned : ∀ model r, Cluster.setPendingDiskImageDownload host model
        (plannedIsoPath url) url = .ok r → r.withoutSystem = model.withoutSystem :=
      fun _ _ h => withoutSystem_setPendingDiskImageDownload h
    -- Only the shape of the program is compared, not what the steps of it unfold to.
    with_reducible refine leaves_replaceModel hplanned ?_
    refine leaves_bind (leaves_lift _) fun _ => ?_
    exact leaves_bind (leaves_setModel fun _ => rfl) fun _ => leaves_pure _

theorem leaves_useImages (images : String × OS.Distro × Option (List String)) :
    Leaves (useImages probes images) Cluster.withoutSystem := by
  obtain ⟨isoRoot, distro, isos⟩ := images
  rcases isos with _ | _ | ⟨iso, isos⟩
  · exact leaves_pure _
  · refine leaves_bind (leaves_accept _) fun wanted => ?_
    cases wanted with
    | false => exact leaves_pure _
    | true => exact leaves_planDownload probes.host distro
  · refine leaves_bind (leaves_bind (leaves_listMenu _) fun _ => ?_) fun _ => leaves_pure _
    with_reducible refine leaves_replaceModel (fun _ _ h => withoutSystem_setDiskImage h) ?_
    refine leaves_bind (leaves_lift _) fun _ => ?_
    refine leaves_bind (blind_askFor _ _).leaves fun version => ?_
    exact leaves_setComputeNodeOS distro version

theorem leaves_presenterNodesOperationalSystem :
    Leaves (presenterNodesOperationalSystem probes) Cluster.withoutSystem := by
  refine leaves_bind (leaves_accept _) fun wanted => ?_
  cases wanted with
  | true => exact leaves_retry (leaves_bind leaves_selectDistro (leaves_planDownload probes.host))
  | false =>
    refine leaves_retry (leaves_bind ?_ leaves_useImages)
    refine leaves_bind (leaves_ask fun _ _ => rfl) fun _ => ?_
    exact leaves_bind leaves_selectDistro fun _ => leaves_pure _

/-! ## Steps for software and services -/

theorem leaves_presenterProvisioner :
    Leaves presenterProvisioner fun model : Cluster => { model with provisioner := .xCAT } := by
  have hset : ∀ provisioner, Leaves (setModel fun model =>
      { model with provisioner } : Presenter Unit)
        fun model : Cluster => { model with provisioner := .xCAT } :=
    fun _ => leaves_setModel fun _ => rfl
  refine leaves_bind leaves_getModel fun _ => ?_
  split
  · exact hset _
  · refine leaves_bind (leaves_listMenu _) fun _ => ?_
    exact leaves_bind (leaves_lift _) fun _ => hset _

theorem leaves_presenterOpenHPC :
    Leaves presenterOpenHPC fun model : Cluster =>
      { model with enabledOpenHPCBundles := none } := by
  refine leaves_bind leaves_getModel fun _ => leaves_bind (leaves_accept _) fun _ => ?_
  exact leaves_setModel fun _ => rfl

theorem leaves_presenterRepository :
    Leaves (presenterRepository probes) fun model : Cluster =>
      { model with enabledRepositories := none } := by
  refine leaves_bind leaves_getModel fun _ => leaves_bind (leaves_lift _) fun _ => ?_
  dsimp only
  split
  · exact leaves_setModel fun _ => rfl
  · exact leaves_bind (leaves_accept _) fun _ => leaves_setModel fun _ => rfl

/-- The model without the queue system and its passwords. -/
def Cluster.withoutQueue (model : Cluster) : Cluster :=
  { model with
    queueSystem := none
    slurmMariaDBRootPassword := ""
    slurmDBPassword := ""
    slurmStoragePassword := "" }

theorem leaves_presenterQueueSystem : Leaves presenterQueueSystem Cluster.withoutQueue := by
  refine leaves_bind (leaves_enumMenu _) fun kind => ?_
  refine leaves_bind (leaves_setModel fun _ => by cases kind <;> rfl) fun _ => ?_
  cases kind with
  | None => exact leaves_pure _
  | SLURM => exact leaves_bind (leaves_accept _) fun _ => leaves_setModel fun _ => rfl
  | PBS => exact leaves_bind (leaves_enumMenu _) fun _ => leaves_setModel fun _ => rfl

theorem leaves_updateMail (g : Postfix → Postfix) :
    Leaves (updateMail g) fun model : Cluster => { model with mailSystem := none } :=
  leaves_setModel fun _ => rfl

theorem leaves_presenterMailSystem :
    Leaves presenterMailSystem fun model : Cluster => { model with mailSystem := none } := by
  refine leaves_bind (leaves_accept _) fun wanted => ?_
  cases wanted with
  | false => exact leaves_pure _
  | true =>
    refine leaves_bind ?_ fun profile => ?_
    · refine leaves_bind (leaves_enumMenu _) fun _ => ?_
      refine leaves_bind (leaves_setModel fun _ => rfl) fun _ => ?_
      refine leaves_bind ?_ fun _ => leaves_pure _
      refine leaves_bind (leaves_accept _) fun _ => leaves_bind (leaves_updateMail _) fun _ => ?_
      refine leaves_bind (leaves_accept _) fun override => ?_
      cases override with
      | false => exact leaves_pure _
      | true => exact leaves_bind (leaves_accept _) fun _ => leaves_updateMail _
    · cases profile with
      | Local => exact leaves_pure _
      | Relay =>
        refine leaves_bind (leaves_accept _) fun _ => leaves_bind (leaves_updateMail _) fun _ => ?_
        exact leaves_bind (leaves_lift _) fun _ => leaves_updateMail _
      | SASL =>
        refine leaves_bind (leaves_accept _) fun _ => leaves_bind (leaves_updateMail _) fun _ => ?_
        exact leaves_bind (leaves_lift _) fun _ => leaves_updateMail _

/-! ## The networking step -/

section

variable [Inet6] {host : Host} {nc : NetworkCreator}

/-- The model without its networks and the connections of the head node. -/
def Cluster.withoutNetworks (model : Cluster) : Cluster :=
  { model with networks := [], headnode := { model.headnode with connections := [] } }

theorem blind_presenterNetwork (profile : Network.Profile) (kind : Network.Kind) :
    Blind (presenterNetwork host nc profile kind) := by
  unfold presenterNetwork
  dsimp only
  split
  · exact blind_lift _
  · split
    · exact blind_raise _
    · refine blind_bind (blind_bind (blind_listMenu _) fun _ => blind_askFor _ _) fun _ => ?_
      exact blind_bind (blind_lift _) fun _ => blind_pure _

/-- The sub-dialogs only collect: they neither read the model nor change it. -/
theorem blind_logged (profile : Network.Profile) (kind : Network.Kind) :
    Blind (logged nc (presenterNetwork host nc profile kind)) := by
  refine blind_rescue (blind_presenterNetwork profile kind) fun stop y hstop => ?_
  cases stop with
  | thrown e =>
    dsimp only at hstop
    split at hstop
    · cases hstop
    · obtain rfl := Option.some.inj hstop
      exact blind_pure _
  | _ => cases hstop

theorem withoutNetworks_saveNetworks {nets : List NetworkCreatorData} {model r : Cluster}
    (h : NetworkCreator.saveNetworks host nets model = .ok r) :
    r.withoutNetworks = model.withoutNetworks := by
  induction nets generalizing model with
  | nil => rw [Except.ok.inj h]
  | cons net nets ih =>
    obtain ⟨next, hnext, hrest⟩ := except_bind_ok.mp h
    obtain ⟨network, connection, -, rfl⟩ := NetworkCreator.saveNetwork_eq_ok hnext
    rw [ih hrest]
    rfl

theorem leaves_presenterInfiniband :
    Leaves (presenterInfiniband host nc) fun model : Cluster => { model with ofed := none } := by
  unfold presenterInfiniband
  split
  · exact leaves_pure _
  · refine leaves_bind (leaves_accept _) fun yes => ?_
    cases yes with
    | false => exact leaves_pure _
    | true =>
      refine leaves_bind (leaves_listMenu _) fun _ => leaves_bind (leaves_lift _) fun kind => ?_
      refine leaves_bind ?_ fun version => leaves_bind (leaves_setModel fun _ => rfl) fun _ =>
        (blind_logged _ _).leaves
      unfold selectedVersion
      split
      · exact leaves_pure _
      · exact leaves_bind (leaves_accept _) fun _ => leaves_pure _

/-- The sub-dialogs before the one for InfiniBand. -/
def ethernetNetworks (host : Host) : Presenter NetworkCreator := do
  let nc := NetworkCreator.empty
  let nc ← logged nc (presenterNetwork host nc .External .Ethernet)
  let nc ← logged nc (presenterNetwork host nc .Management .Ethernet)
  let wanted ← yesNoQuestion
  if wanted then logged nc (presenterNetwork host nc .Service .Ethernet) else pure nc

theorem blind_ethernetNetworks : Blind (ethernetNetworks host) := by
  refine blind_bind (blind_logged _ _) fun nc => blind_bind (blind_logged _ _) fun nc => ?_
  refine blind_bind (blind_accept _) fun wanted => ?_
  cases wanted with
  | false => exact blind_pure _
  | true => exact blind_logged _ _

theorem returns_collectNetworks {nc : NetworkCreator} {s s' : Session Cluster} :
    Returns (collectNetworks host) s nc s' ↔
      Returns (ethernetNetworks host >>= presenterInfiniband host) s nc s' := by
  simp only [collectNetworks, ethernetNetworks, returns_bind]
  constructor
  · rintro ⟨nc₁, s₁, h₁, nc₂, s₂, h₂, wanted, s₃, h₃, nc₃, s₄, h₄, h⟩
    exact ⟨nc₃, s₄, ⟨nc₁, s₁, h₁, nc₂, s₂, h₂, wanted, s₃, h₃, h₄⟩, h⟩
  · rintro ⟨nc₃, s₄, ⟨nc₁, s₁, h₁, nc₂, s₂, h₂, wanted, s₃, h₃, h₄⟩, h⟩
    exact ⟨nc₁, s₁, h₁, nc₂, s₂, h₂, wanted, s₃, h₃, nc₃, s₄, h₄, h⟩

theorem leaves_collectNetworks :
    Leaves (collectNetworks host) fun model : Cluster => { model with ofed := none } := by
  refine leaves_bind (blind_logged _ _).leaves fun _ => ?_
  refine leaves_bind (blind_logged _ _).leaves fun _ => ?_
  refine leaves_bind (leaves_accept _) fun wanted => ?_
  refine leaves_bind ?_ fun _ => leaves_presenterInfiniband
  cases wanted with
  | false => exact leaves_pure _
  | true => exact (blind_logged _ _).leaves

/-- What is collected is saved behind the last prompt. -/
theorem leaves_save (host : Host) (nc : NetworkCreator) :
    Leaves (do
      let model ← getModel
      let model ← lift (nc.saveNetworksToModel host model)
      setModel fun _ => model : Presenter Unit) Cluster.withoutNetworks := by
  intro s
  refine leavesAt_bind leaves_getModel fun model s₁ hget => ?_
  obtain ⟨rfl, rfl⟩ := returns_getModel.mp hget
  refine leavesAt_bind (leaves_lift _) fun r s₂ hlift => ?_
  obtain ⟨hr, rfl⟩ := returns_lift.mp hlift
  exact withoutNetworks_saveNetworks hr

theorem leaves_networkingStep :
    Leaves (networkingStep host) fun model : Cluster =>
      { model with ofed := none }.withoutNetworks := by
  refine leaves_bind (leaves_collectNetworks.of fun _ => rfl) fun nc => ?_
  exact (leaves_save host nc).of (k := fun model => { model with ofed := none }) fun _ => rfl

/-! ## The nodes step -/

/-- The model without the nodes and what is typed for all of them. -/
def Cluster.withoutInventory (model : Cluster) : Cluster :=
  { model with
    nodes := []
    nodeQuantity := 0
    nodePrefix := ""
    nodePadding := 0
    nodeStartIP := default
    nodeRootPassword := ""
    nodeSockets := 0
    nodeCoresPerSocket := 0
    nodeThreadsPerCore := 0
    nodeCPUsPerNode := 0
    nodeRealMemory := 0
    nodeBMCUsername := ""
    nodeBMCPassword := ""
    nodeBMCSerialPort := 0
    nodeBMCSerialSpeed := 0 }

theorem withoutInventory_addTypedNode {template : NodeTemplate} {index : Nat}
    {fields : Vector String 2} {model r : Cluster}
    (h : addTypedNode template index fields model = .ok (some r)) :
    r.withoutInventory = model.withoutInventory := by
  unfold addTypedNode at h
  simp only [except_bind_ok] at h
  obtain ⟨nodeAddress, -, bmc, -, h⟩ := h
  cases bmc with
  | none => cases h
  | some bmc =>
    simp only [except_bind_ok, Cluster.addNode, pushBack_eq_ok] at h
    obtain ⟨_, -, connection, -, _, ⟨_, ⟨-, rfl⟩, hadded⟩, h⟩ := h
    obtain rfl := Except.ok.inj hadded
    obtain rfl := Option.some.inj (Except.ok.inj h)
    rfl

theorem leaves_enterNode (template : NodeTemplate) (index : Nat) :
    Leaves (enterNode template index) Cluster.withoutInventory := by
  refine leaves_bind (leaves_lift _) fun _ => leaves_ask fun fields model => ?_
  unfold nodeRound
  split
  · rename_i hadded
    exact withoutInventory_addTypedNode hadded
  · rfl
  · rfl

theorem leaves_presenterNodes : Leaves presenterNodes Cluster.withoutInventory := by
  refine leaves_bind ?_ fun _ => leaves_bind (leaves_lift _) fun _ => ?_
  · refine leaves_bind (blind_askFor _ _).leaves fun _ => ?_
    refine leaves_bind (leaves_setModel fun _ => rfl) fun _ => ?_
    refine leaves_bind (blind_askFor _ _).leaves fun _ => ?_
    refine leaves_bind (leaves_setModel fun _ => rfl) fun _ => ?_
    refine leaves_bind (blind_askFor _ _).leaves fun _ => ?_
    exact leaves_bind (leaves_setModel fun _ => rfl) fun _ => leaves_pure _
  · refine leaves_bind leaves_getModel fun _ => ?_
    split
    · exact leaves_raise _
    · exact leaves_each (leaves_enterNode _) _

/-! ## What one step sets -/

/-- The model without what a step sets. -/
def Cluster.without : String → Cluster → Cluster
  | "general", model => { model with name := "", companyName := "", adminMail := "" }
  | "time", model => { model with timezone := {} }
  | "locale", model => { model with locale := "" }
  | "hostname", model => { model with headnode := { model.headnode with hostname := "", fqdn := "" } }
  | "networking", model => { model with ofed := none }.withoutNetworks
  | "os", model => model.withoutSystem
  | "provisioner", model => { model with provisioner := .xCAT }
  | "ohpc", model => { model with enabledOpenHPCBundles := none }
  | "repositories", model => { model with enabledRepositories := none }
  | "nodes", model => model.withoutInventory
  | "queue", model => model.withoutQueue
  | "mail", model => { model with mailSystem := none }
  | _, model => model

/-- A step only changes what it sets. -/
theorem leaves_steps {name : String} {body : Presenter Unit} (h : (name, body) ∈ steps probes) :
    Leaves body (Cluster.without name) := by
  simp only [steps, List.mem_cons, Prod.mk.injEq, List.not_mem_nil, or_false] at h
  rcases h with ⟨rfl, rfl⟩ | ⟨rfl, rfl⟩ | ⟨rfl, rfl⟩ | ⟨rfl, rfl⟩ | ⟨rfl, rfl⟩ | ⟨rfl, rfl⟩ |
    ⟨rfl, rfl⟩ | ⟨rfl, rfl⟩ | ⟨rfl, rfl⟩ | ⟨rfl, rfl⟩ | ⟨rfl, rfl⟩ | ⟨rfl, rfl⟩ | ⟨rfl, rfl⟩
  · exact leaves_presenterGeneralSettings
  · exact leaves_presenterTime
  · exact leaves_presenterLocale
  · exact leaves_presenterHostId
  · exact leaves_networkingStep
  · exact leaves_presenterNodesOperationalSystem
  · exact leaves_presenterProvisioner
  · exact leaves_presenterOpenHPC
  · exact leaves_presenterRepository
  · exact leaves_presenterNodes
  · exact leaves_presenterQueueSystem
  · exact leaves_presenterMailSystem
  · exact leaves_bind leaves_getModel fun _ => leaves_bind (leaves_lift _) fun _ => leaves_accept _

/-- No other step sets `f` of the model. -/
structure SetBy (step : String) (f : Cluster → γ) : Prop where
  step_mem : step ∈ stepNames
  without : ∀ name ∈ stepNames, name ≠ step → ∀ model, f model = f (model.without name)

theorem SetBy.leaves {step name : String} {body : Presenter Unit} (hset : SetBy step f)
    (h : (name, body) ∈ steps probes) (hname : name ≠ step) : Leaves body f := by
  refine (leaves_steps h).of (hset.without name ?_ hname)
  rw [← map_fst_steps probes]
  exact List.mem_map_of_mem (f := Prod.fst) h

omit [Inet6]

theorem SetBy.of_withoutSystem {step : String} (hset : SetBy step f) (hstep : step ≠ "os")
    {model other : Cluster} (h : model.withoutSystem = other.withoutSystem) : f model = f other := by
  have hos := hset.without "os" (by decide) (Ne.symm hstep)
  rw [hos model, hos other]
  exact congrArg f h

theorem setBy_setting (x : Setting) : SetBy x.step x.of where
  step_mem := by cases x <;> decide
  without := by
    intro name hname hne model
    simp only [stepNames, List.mem_cons, List.not_mem_nil, or_false] at hname
    rcases hname with rfl | rfl | rfl | rfl | rfl | rfl | rfl | rfl | rfl | rfl | rfl | rfl | rfl
    all_goals cases x <;> first | rfl | exact absurd rfl hne

/-- The networks, and the connections of the head node to them. -/
def Cluster.networkSetup (model : Cluster) : List Network × List Connection :=
  (model.networks, model.headnode.connections)

theorem setBy_networkSetup : SetBy "networking" Cluster.networkSetup where
  step_mem := by decide
  without := by
    intro name hname hne model
    simp only [stepNames, List.mem_cons, List.not_mem_nil, or_false] at hname
    rcases hname with rfl | rfl | rfl | rfl | rfl | rfl | rfl | rfl | rfl | rfl | rfl | rfl | rfl
    all_goals first | rfl | exact absurd rfl hne

/-- The nodes, and what is typed for all of them. -/
def Cluster.nodeSetup (model : Cluster) : List Node × AFNode := (model.nodes, model.dumpGenericNode)

theorem setBy_nodeSetup : SetBy "nodes" Cluster.nodeSetup where
  step_mem := by decide
  without := by
    intro name hname hne model
    simp only [stepNames, List.mem_cons, List.not_mem_nil, or_false] at hname
    rcases hname with rfl | rfl | rfl | rfl | rfl | rfl | rfl | rfl | rfl | rfl | rfl | rfl | rfl
    all_goals first | rfl | exact absurd rfl hne

end

end OpenCattus
