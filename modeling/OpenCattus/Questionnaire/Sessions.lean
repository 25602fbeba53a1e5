import Mathlib.Logic.Relation
import OpenCattus.Questionnaire.LatestAnswers
import OpenCattus.Questionnaire.WrittenNetworks
import OpenCattus.Questionnaire.WrittenNodes
import OpenCattus.Session.SavedInventory

/-!
# Sessions of the questionnaire

`runApplication` as a machine. A session begins with a fresh model, with the draft or with a filled
answerfile; every pass of the loop saves a draft, and so does Abort; a session may also just end.
The networks and the nodes of a step are those of its latest completion, in this session or in an
earlier one, as long as no completion began with others (`noGhosts_iff`).
-/

namespace OpenCattus

open Foundations Foundations.Text Foundations.Inet Program Dialog

/-! ## What a completion enters -/

/-- The pass has completed the step. -/
def Completes (name : String) (v : QuestionnairePass) : Prop :=
  v.value.stepIndex = stepNames.idxOf name ∧ v.next.stepIndex = v.value.stepIndex + 1

instance (name : String) : DecidablePred (Completes name) := fun _ =>
  inferInstanceAs (Decidable (_ ∧ _))

/-- The latest completion of a step. -/
def latestCompletion (name : String) (vs : List QuestionnairePass) : Option QuestionnairePass :=
  (vs.filter (Completes name)).getLast?

variable [Inet6]

/-- The nodes that are typed, as they are to be found in the model. -/
def TypedInventory.records (inventory : TypedInventory) : List NodeRecord :=
  List.zipWith
    (fun index entry =>
      { hostname := buildNodeName inventory.naming.nodePrefix (index + 1) inventory.naming.padding
        macAddress := lower entry.1
        address := match inventory.naming.startIP with
          | .v4 start => some (.v4 (start + BitVec.ofNat 32 index))
          | .v6 .. => none
        sockets := inventory.topology.sockets
        coresPerSocket := inventory.topology.coresPerSocket
        threadsPerCore := inventory.topology.threadsPerCore
        bmcAddress := entry.2.map Address.toText })
    (List.range inventory.entries.length) inventory.entries

section

omit [Inet6]

variable {name : String} {v : QuestionnairePass} {vs : List QuestionnairePass}

theorem latestCompletion_append (h : Completes name v) :
    latestCompletion name (vs ++ [v]) = some v := by
  simp [latestCompletion, h]

theorem latestCompletion_append_of_not (h : ¬ Completes name v) :
    latestCompletion name (vs ++ [v]) = latestCompletion name vs := by
  simp [latestCompletion, h]

end

/-- The nodes that a pass through the nodes step has entered. -/
def enteredRecords (v : QuestionnairePass) : List NodeRecord :=
  ((typedInventory (answersOf v)).map TypedInventory.records).getD []

/-- The profiles that a pass through the networking step has entered. -/
def enteredProfiles (host : Host) (v : QuestionnairePass) : List Network.Profile :=
  match (collectNetworks host (replayed v)).1 with
  | .ok nc => nc.networks.map (·.profile)
  | .error _ => []

/-- A completion of networking or nodes begins where none are there yet. -/
structure BeginsEmpty (v : QuestionnairePass) : Prop where
  networking : Completes "networking" v → v.before.model.networkSetup = ([], [])
  nodes : Completes "nodes" v → v.before.model.nodes = []

/-! ## The machine -/

/-- How `runApplication` fills the model before the questionnaire. -/
inductive SessionStart where
  | fresh
  | draft
  | answerfile (file : AnswerFile)

/-- A questionnaire that runs. `completedSteps` is what the last save has written. -/
structure RunningSession where
  progress : Progress
  session : Session Cluster
  completedSteps : List String

/-- The draft on the disk, the questionnaire that runs, and the passes of all sessions. -/
structure Installation where
  draft : Option KeyData := none
  running : Option RunningSession := none
  passes : List QuestionnairePass := []

/-- The start of `runApplication`. Only a draft that is incomplete is resumed. -/
def openSession (host : Host) (draft : Option KeyData) (script : List Answer) :
    SessionStart → Result (Option RunningSession)
  | .fresh => .ok (some ⟨Progress.start ∅, ⟨Cluster.fresh host, script⟩, []⟩)
  | .draft => do
    if isDraftAnswerfile draft then
      let model ← Cluster.applyDraftToModel host draft (Cluster.fresh host)
      .ok (some ⟨Progress.resume draft, ⟨model, script⟩, (loadDraftState draft).completedSteps⟩)
    else .ok none
  | .answerfile file => do
    let model ← Cluster.fillData host file (Cluster.fresh host)
    .ok (some ⟨Progress.start ∅, ⟨model, script⟩, []⟩)

inductive InstallationStep (probes : Probes) : Installation → Installation → Prop
  | opens {d : Installation} {script : List Answer} {start : SessionStart} {r : RunningSession}
      (hclosed : d.running = none)
      (hopen : openSession probes.host d.draft script start = .ok (some r)) :
      InstallationStep probes d { d with running := some r }
  /-- A pass that goes on saves a draft. -/
  | passes {d : Installation} {r : RunningSession} {q : Progress} {s : Session Cluster}
      (hrunning : d.running = some r)
      (hpass : Returns (pass probes r.progress) r.session (some q) s) :
      InstallationStep probes d
        { draft := some (s.model.draftData q.completedHistory false)
          running := some ⟨q, s, q.completedHistory⟩
          passes := d.passes ++ [⟨r.progress, r.session, q, s⟩] }
  /-- Abort saves what the step has set so far. -/
  | aborts {d : Installation} {r : RunningSession} {s : Session Cluster}
      (hrunning : d.running = some r)
      (habort : Raises (pass probes r.progress) r.session .abort s) :
      InstallationStep probes d
        { d with draft := some (s.model.draftData r.completedSteps false), running := none }
  | abortsDownload {d : Installation} {r : RunningSession} {s s' : Session Cluster}
      (hrunning : d.running = some r)
      (hlast : Returns (pass probes r.progress) r.session none s)
      (habort : Raises (downloadPendingDiskImage probes) s .abort s') :
      InstallationStep probes d
        { d with draft := some (s'.model.draftData r.completedSteps false), running := none }
  | completes {d : Installation} {r : RunningSession} {s s' : Session Cluster}
      (hrunning : d.running = some r)
      (hlast : Returns (pass probes r.progress) r.session none s)
      (hdownload : Returns (downloadPendingDiskImage probes) s () s') :
      InstallationStep probes d
        { d with draft := some (s'.model.draftData r.completedSteps true), running := none }
  /-- An exception, or a process that is killed, saves nothing. -/
  | stops {d : Installation} : InstallationStep probes d { d with running := none }

/-- A run of the program, again and again. -/
abbrev Installs (probes : Probes) : Installation → Installation → Prop :=
  Relation.ReflTransGen (InstallationStep probes)

/-- While a step counts as completed, the model has what its latest completion has entered, and
nothing else of the kind. -/
structure NoGhosts (host : Host) (d : Installation) : Prop where
  networking : ∀ r ∈ d.running, "networking" ∈ r.completedSteps →
    ∃ v, latestCompletion "networking" d.passes = some v ∧
      r.session.model.Configured (enteredProfiles host v)
  nodes : ∀ r ∈ d.running, "nodes" ∈ r.completedSteps →
    ∃ v, latestCompletion "nodes" d.passes = some v ∧
      r.session.model.nodes.map Node.record = enteredRecords v ∧
        r.session.model.nodes.length = r.session.model.nodeQuantity

/-! ## A completion -/

section

variable {host : Host} {v : QuestionnairePass} {model : Cluster} {profiles : List Network.Profile}

theorem record_builtNode {template : NodeTemplate} {model : Cluster} {index : Nat}
    {address : Address} {entry : String × Option Address} :
    (builtNode template model index address entry).record =
      { hostname := buildNodeName model.nodePrefix (index + 1) model.nodePadding
        macAddress := lower entry.1
        address := some address
        sockets := template.cpu.sockets
        coresPerSocket := template.cpu.coresPerSocket
        threadsPerCore := template.cpu.threadsPerCore
        bmcAddress := entry.2.map Address.toText } := by
  rw [Node.record, builtNode, Node.setMACAddress, Option.map_map]
  rfl

theorem TypedInventory.Checked.writable {inventory : TypedInventory} (hchecked : inventory.Checked)
    {template : NodeTemplate} (hsockets : template.cpu.sockets = inventory.topology.sockets)
    (hcores : template.cpu.coresPerSocket = inventory.topology.coresPerSocket)
    (hthreads : template.cpu.threadsPerCore = inventory.topology.threadsPerCore) {index : Nat}
    {address : Address} {entry : String × Option Address} (hentry : entry ∈ inventory.entries) :
    (builtNode template model index address entry).Writable := by
  refine ⟨?_, hchecked.macAddress_ne_empty hentry, lower_lower _, rfl, ?_, ?_, ?_, ?_⟩
  · rw [builtNode, Node.setMACAddress, buildNodeName]
    simp
  · exact hsockets.trans_lt hchecked.sockets
  · exact hcores.trans_lt hchecked.coresPerSocket
  · exact hthreads.trans_lt hchecked.threadsPerCore
  · intro bmc hbmc
    obtain ⟨address, -, rfl⟩ := Option.map_eq_some_iff.mp hbmc
    exact address.toText_ne_empty

/-- A completion adds the nodes that it enters. -/
theorem entered_nodes (h : Returns presenterNodes (replayed v) () ⟨v.after.model, []⟩) :
    ∃ added, v.after.model.nodes = v.before.model.nodes ++ added ∧
      added.map Node.record = enteredRecords v ∧ added.length = v.after.model.nodeQuantity ∧
        added ≠ [] ∧ (∀ node ∈ added, node.Writable) ∧
          ∃ network, v.before.model.getNetwork .Management = .ok network := by
  obtain ⟨inventory, start, cpu, network, htyped, hentered⟩ := entered_of_returns h
  have hchecked := checked_of_typedInventory htyped
  obtain ⟨-, -, -, hcpu⟩ := CPU.ofTopology_eq_ok hentered.topology
  refine ⟨_, hentered.nodes, ?_, ?_, ?_, ?_, network, hentered.management⟩
  · rw [enteredRecords, show typedInventory (answersOf v) = some inventory from htyped,
      Option.map_some, Option.getD_some, TypedInventory.records, hentered.startIP, builtNodes,
      List.map_zipWith]
    congr 1
    funext index entry
    rw [record_builtNode, hcpu]
    rfl
  · rw [show v.after.model = _ from hentered.model]
    simp [builtNodes, Cluster.addBuilt, Cluster.setInventory]
  · obtain ⟨entry, hentry⟩ := List.exists_mem_of_ne_nil _ hchecked.entries
    rw [← List.length_pos_iff]
    simpa [builtNodes] using List.length_pos_of_mem hentry
  · intro node hnode
    rw [builtNodes, ← List.map_uncurry_zip_eq_zipWith] at hnode
    obtain ⟨⟨index, entry⟩, hmem, rfl⟩ := List.mem_map.mp hnode
    exact hchecked.writable (congrArg CPU.sockets hcpu) (congrArg CPU.coresPerSocket hcpu)
      (congrArg CPU.threadsPerCore hcpu) (List.of_mem_zip hmem).2

/-- A completion adds the networks that it enters. -/
theorem entered_networks (h : Returns (networkingStep host) (replayed v) () ⟨v.after.model, []⟩) :
    ∃ added : List (Network × Connection),
      v.after.model.networks = v.before.model.networks ++ added.map Prod.fst ∧
        v.after.model.headnode.connections =
            v.before.model.headnode.connections ++ added.map Prod.snd ∧
          (added.map Prod.fst).map Network.profile = enteredProfiles host v ∧
            (added.map Prod.snd).map Connection.profile = enteredProfiles host v ∧
              (enteredProfiles host v).Nodup ∧
                ∀ pair ∈ added, ∃ interface, pair.2.interface = some interface ∧
                  interface ≠ "" := by
  obtain ⟨nc, s₁, hcollect, added, hadded, hnetworks, hconnections⟩ := collected_of_returns h
  have hprofiles : enteredProfiles host v = nc.networks.map (·.profile) := by
    rw [enteredProfiles, show collectNetworks host (replayed v) = (.ok nc, s₁) from hcollect]
  rw [hprofiles]
  refine ⟨added, hnetworks, hconnections, ?_, ?_, nc.nodup, ?_⟩
  · rw [List.map_map]
    exact (map_eq_of_forall₂ hadded fun _ _ hs => hs.profile.symm).symm
  · rw [List.map_map]
    exact (map_eq_of_forall₂ hadded fun _ _ hs => hs.connected.symm).symm
  · intro pair hpair
    obtain ⟨net, hnet, hstored⟩ := exists_of_forall₂ hadded hpair
    exact ⟨_, hstored.interface, interface_ne_empty_of_collectNetworks hcollect net hnet⟩

omit [Inet6] in
theorem configured_of_map_eq (hnetworks : model.networks.map Network.profile = profiles)
    (hconnections : model.headnode.connections.map Connection.profile = profiles)
    (hnodup : profiles.Nodup) : model.Configured profiles := by
  constructor
  · intro profile
    rw [hnetworks, hnodup.count]
  · intro profile
    rw [hconnections, hnodup.count]

omit [Inet6] in
/-- Nothing comes before what makes up the whole count. -/
theorem eq_nil_of_count_append {l : List Network.Profile} (hnodup : profiles.Nodup)
    (h : ∀ profile, (l ++ profiles).count profile = if profile ∈ profiles then 1 else 0) :
    l = [] := by
  rw [List.eq_nil_iff_forall_not_mem]
  intro profile hmem
  have hcount := h profile
  rw [List.count_append, hnodup.count] at hcount
  have hpos := List.count_pos_iff.mpr hmem
  omega

end

/-! ## The invariant -/

/-- The networks of the latest completion, in a model that can be saved. -/
structure NetworksKept (host : Host) (vs : List QuestionnairePass) (model : Cluster) : Prop where
  latest : ∃ v, latestCompletion "networking" vs = some v ∧
    model.Configured (enteredProfiles host v)
  named : model.InterfacesNamed

/-- The nodes of the latest completion, in a model that can be saved. -/
structure NodesKept (vs : List QuestionnairePass) (model : Cluster) : Prop where
  latest : ∃ v, latestCompletion "nodes" vs = some v ∧
    model.nodes.map Node.record = enteredRecords v
  quantity : model.nodes.length = model.nodeQuantity
  nonempty : model.nodes ≠ []
  writable : ∀ node ∈ model.nodes, node.Writable
  management : ∃ network, model.getNetwork .Management = .ok network

/-- What the first `k` steps have entered is in the model. -/
structure StepsKept (host : Host) (vs : List QuestionnairePass) (k : Nat) (model : Cluster) : Prop where
  networking : stepNames.idxOf "networking" < k → NetworksKept host vs model
  nodes : stepNames.idxOf "nodes" < k → NodesKept vs model

/-- The nodes, and how many there are to be. -/
def Cluster.nodeList (model : Cluster) : List Node × Nat := (model.nodes, model.nodeQuantity)

omit [Inet6] in
theorem setBy_nodeList : SetBy "nodes" Cluster.nodeList where
  step_mem := by decide
  without := by
    intro name hname hne model
    simp only [stepNames, List.mem_cons, List.not_mem_nil, or_false] at hname
    rcases hname with rfl | rfl | rfl | rfl | rfl | rfl | rfl | rfl | rfl | rfl | rfl | rfl | rfl
    all_goals first | rfl | exact absurd rfl hne

section

variable {host : Host} {probes : Probes} {vs : List QuestionnairePass} {k : Nat}
  {model other : Cluster} {p q : Progress} {s s' : Session Cluster}

omit [Inet6] in
theorem Cluster.getNetwork_of_networkSetup (h : other.networkSetup = model.networkSetup)
    (profile : Network.Profile) : other.getNetwork profile = model.getNetwork profile := by
  rw [Cluster.getNetwork, Cluster.getNetwork, (Prod.mk.inj h).1]

theorem NetworksKept.of_networkSetup (h : NetworksKept host vs model)
    (heq : other.networkSetup = model.networkSetup) : NetworksKept host vs other := by
  obtain ⟨⟨v, hlatest, ⟨hnetworks, hconnections⟩⟩, hnamed⟩ := h
  obtain ⟨hsame, hheld⟩ := Prod.mk.inj heq
  refine ⟨⟨v, hlatest, ⟨?_, ?_⟩⟩, ?_⟩
  · rwa [hsame]
  · rwa [hheld]
  · unfold Cluster.InterfacesNamed
    rwa [hheld]

theorem NodesKept.of_eq (h : NodesKept vs model) (hnodes : other.nodeList = model.nodeList)
    (hnetworks : other.networkSetup = model.networkSetup) : NodesKept vs other := by
  obtain ⟨hlatest, hquantity, hnonempty, hwritable, hmanagement⟩ := h
  obtain ⟨hsame, hnumber⟩ := Prod.mk.inj hnodes
  refine ⟨?_, ?_, ?_, ?_, ?_⟩
  · rwa [hsame]
  · rwa [hsame, hnumber]
  · rwa [hsame]
  · rwa [hsame]
  · rwa [Cluster.getNetwork_of_networkSetup hnetworks]

/-- What stays in the steps that come after stays entered. -/
theorem StepsKept.of_setBy (h : StepsKept host vs k model)
    (hstays : ∀ {γ : Type} {name : String} {f : Cluster → γ}, SetBy name f → name ≠ "os" →
      stepNames.idxOf name < k → f other = f model) : StepsKept host vs k other := by
  constructor
  · exact fun hk => (h.networking hk).of_networkSetup (hstays setBy_networkSetup (by decide) hk)
  · exact fun hk => (h.nodes hk).of_eq (hstays setBy_nodeList (by decide) hk)
      (hstays setBy_networkSetup (by decide) (Nat.lt_trans (by decide) hk))

/-! ### A pass -/

variable {v : QuestionnairePass}

theorem networksKept_of_completes
    (h : Returns (pass probes v.value) v.before (some v.next) v.after)
    (hdone : Completes "networking" v) (hempty : v.before.model.networkSetup = ([], [])) :
    NetworksKept probes.host (vs ++ [v]) v.after.model := by
  have hreturns : Returns (networkingStep probes.host) (replayed v) () ⟨v.after.model, []⟩ :=
    replayed_of_returns (reads_networkingStep _) (completes_pass h hdone.2 (by rw [hdone.1]; rfl))
  obtain ⟨added, hnetworks, hconnections, hprofiles, hconnected, hnodup, hnamed⟩ :=
    entered_networks hreturns
  obtain ⟨hnone, hunconnected⟩ := Prod.mk.inj hempty
  rw [hnone, List.nil_append] at hnetworks
  rw [hunconnected, List.nil_append] at hconnections
  refine ⟨⟨v, latestCompletion_append hdone, configured_of_map_eq ?_ ?_ hnodup⟩, ?_⟩
  · rw [hnetworks, hprofiles]
  · rw [hconnections, hconnected]
  · intro connection hconnection
    rw [hconnections] at hconnection
    obtain ⟨pair, hpair, rfl⟩ := List.mem_map.mp hconnection
    exact hnamed pair hpair

theorem nodesKept_of_completes
    (h : Returns (pass probes v.value) v.before (some v.next) v.after)
    (hdone : Completes "nodes" v) (hempty : v.before.model.nodes = []) :
    NodesKept (vs ++ [v]) v.after.model := by
  have hreturns : Returns presenterNodes (replayed v) () ⟨v.after.model, []⟩ :=
    replayed_of_returns reads_presenterNodes (completes_pass h hdone.2 (by rw [hdone.1]; rfl))
  obtain ⟨added, hnodes, hrecords, hquantity, hnonempty, hwritable, hmanagement⟩ :=
    entered_nodes hreturns
  rw [hempty, List.nil_append] at hnodes
  have hnetworks : v.after.model.networkSetup = v.before.model.networkSetup :=
    setBy_networkSetup.of_pass h (by rw [hdone.1]; decide)
  refine ⟨⟨v, latestCompletion_append hdone, ?_⟩, ?_, ?_, ?_, ?_⟩
  · rwa [hnodes]
  · rwa [hnodes]
  · rwa [hnodes]
  · rwa [hnodes]
  · rwa [Cluster.getNetwork_of_networkSetup hnetworks]

/-- A pass that goes on keeps what is entered, and adds what it enters. -/
theorem StepsKept.of_pass (h : StepsKept probes.host vs v.value.stepIndex v.before.model)
    (hpass : Returns (pass probes v.value) v.before (some v.next) v.after)
    (hempty : BeginsEmpty v) :
    StepsKept probes.host (vs ++ [v]) v.next.stepIndex v.after.model := by
  have hmoves := moves_pass hpass
  -- A step that lies behind and is not completed by this pass is not the one that it runs.
  have hbehind : ∀ {name : String}, ¬ Completes name v → stepNames.idxOf name < v.next.stepIndex →
      stepNames.idxOf name < v.value.stepIndex := by
    intro name hnot hlt
    rcases hmoves with hup | hdown
    · have hother : v.value.stepIndex ≠ stepNames.idxOf name := fun hat => hnot ⟨hat, hup⟩
      omega
    · omega
  have hstays : ∀ {γ : Type} {name : String} {f : Cluster → γ}, SetBy name f → name ≠ "os" →
      stepNames.idxOf name < v.value.stepIndex → f v.after.model = f v.before.model :=
    fun hset _ hlt => hset.of_pass hpass (Nat.ne_of_gt hlt)
  constructor
  · intro hlt
    by_cases hdone : Completes "networking" v
    · exact networksKept_of_completes hpass hdone (hempty.networking hdone)
    · obtain ⟨⟨w, hlatest, hconfigured⟩, hnamed⟩ :=
        (h.of_setBy hstays).networking (hbehind hdone hlt)
      exact ⟨⟨w, by rwa [latestCompletion_append_of_not hdone], hconfigured⟩, hnamed⟩
  · intro hlt
    by_cases hdone : Completes "nodes" v
    · exact nodesKept_of_completes hpass hdone (hempty.nodes hdone)
    · obtain ⟨⟨w, hlatest, hrecords⟩, hquantity, hnonempty, hwritable, hmanagement⟩ :=
        (h.of_setBy hstays).nodes (hbehind hdone hlt)
      exact ⟨⟨w, by rwa [latestCompletion_append_of_not hdone], hrecords⟩, hquantity, hnonempty,
        hwritable, hmanagement⟩

/-! ### A draft that is resumed -/

omit [Inet6] in
theorem exists_getNetwork_iff {profile : Network.Profile} :
    (∃ network, model.getNetwork profile = .ok network) ↔
      profile ∈ model.networks.map Network.profile := by
  simp only [Cluster.getNetwork_eq_ok, ← Option.isSome_iff_exists, List.find?_isSome,
    decide_eq_true_eq, List.mem_map]

/-- What is entered survives in the draft. -/
theorem StepsKept.resumed (h : StepsKept host vs k model) {steps : List String}
    (hresume : Cluster.applyDraftToModel host (some (model.draftData steps false))
      (Cluster.fresh host) = .ok other) : StepsKept host vs k other := by
  have hnetworking : stepNames.idxOf "networking" < k → NetworksKept host vs other := by
    intro hk
    obtain ⟨⟨v, hlatest, hconfigured⟩, hnamed⟩ := h.networking hk
    obtain ⟨hresumed, hstill⟩ := hconfigured.resumed hnamed hresume
    exact ⟨⟨v, hlatest, hresumed⟩, hstill⟩
  refine ⟨hnetworking, fun hk => ?_⟩
  obtain ⟨⟨v, hlatest, hrecords⟩, hquantity, hnonempty, hwritable, hmanagement⟩ := h.nodes hk
  have hbelow : stepNames.idxOf "networking" < k := Nat.lt_trans (by decide) hk
  obtain ⟨⟨w, hw, hconfigured⟩, -⟩ := h.networking hbelow
  obtain ⟨⟨w', hw', hresumed⟩, -⟩ := hnetworking hbelow
  obtain rfl := Option.some.inj (hw.symm.trans hw')
  have hstill : ∃ network, other.getNetwork .Management = .ok network := by
    rw [exists_getNetwork_iff, ← List.count_pos_iff, hresumed.networks, ← hconfigured.networks,
      List.count_pos_iff, ← exists_getNetwork_iff]
    exact hmanagement
  obtain ⟨network, hnetwork⟩ := hstill
  obtain ⟨hsame, hall, hcounted⟩ := Cluster.records_resumed hwritable hresume hnetwork
  have hfilled : other.nodes ≠ [] := by
    intro hnil
    rw [hnil, List.map_nil, eq_comm, List.map_eq_nil_iff] at hsame
    exact hnonempty hsame
  exact ⟨⟨v, hlatest, hsame.trans hrecords⟩, (hcounted hfilled).symm, hfilled, hall, network,
    hnetwork⟩

end

/-! ## Reachable installations -/

section

variable {probes : Probes} {draft : Option KeyData} {d d' : Installation} {v : QuestionnairePass}

/-- What the draft and the questionnaire that runs have, if every completion so far began where
there was nothing. -/
structure Installation.Sound (host : Host) (d : Installation) : Prop where
  draft : ∀ kd, d.draft = some kd → isDraftAnswerfile d.draft = true →
    ∃ k model, k ≤ stepNames.length ∧ kd = model.draftData (stepNames.take k) false ∧
      ((∀ v ∈ d.passes, BeginsEmpty v) → StepsKept host d.passes k model)
  running : ∀ r, d.running = some r → r.progress.IsPrefix ∧
    r.completedSteps = r.progress.completedHistory ∧
      ((∀ v ∈ d.passes, BeginsEmpty v) →
        StepsKept host d.passes r.progress.stepIndex r.session.model)

theorem stepsKept_zero {host : Host} {vs : List QuestionnairePass} {model : Cluster} :
    StepsKept host vs 0 model :=
  ⟨fun hlt => absurd hlt (Nat.not_lt_zero _), fun hlt => absurd hlt (Nat.not_lt_zero _)⟩

theorem sound_saved {host : Host} {model : Cluster} {p : Progress} (hhistory : p.IsPrefix)
    (hkept : (∀ v ∈ d.passes, BeginsEmpty v) → StepsKept host d.passes p.stepIndex model) :
    Installation.Sound host
      { d with draft := some (model.draftData p.completedHistory false), running := none } where
  draft := by
    rintro kd ⟨⟩ -
    exact ⟨p.stepIndex, model, hhistory.index_le, by rw [hhistory.history_eq], hkept⟩
  running r hr := by cases hr

omit [Inet6] in
theorem start_empty : Progress.start ∅ = ⟨0, []⟩ := by decide

/-- A session begins with a new model, or goes on with what the draft has kept. -/
theorem Installation.Sound.opened {script : List Answer} {start : SessionStart} {r : RunningSession}
    (h : d.Sound probes.host)
    (hopen : openSession probes.host d.draft script start = .ok (some r)) :
    r.progress.IsPrefix ∧ r.completedSteps = r.progress.completedHistory ∧
      ((∀ v ∈ d.passes, BeginsEmpty v) →
        StepsKept probes.host d.passes r.progress.stepIndex r.session.model) := by
  cases start with
  | fresh =>
    simp only [openSession] at hopen
    obtain rfl := Option.some.inj (Except.ok.inj hopen)
    rw [start_empty]
    exact ⟨⟨rfl, Nat.zero_le _⟩, rfl, fun _ => stepsKept_zero⟩
  | answerfile file =>
    simp only [openSession] at hopen
    obtain ⟨model, -, hopen⟩ := except_bind_ok.mp hopen
    obtain rfl := Option.some.inj (Except.ok.inj hopen)
    rw [start_empty]
    exact ⟨⟨rfl, Nat.zero_le _⟩, rfl, fun _ => stepsKept_zero⟩
  | draft =>
    simp only [openSession] at hopen
    split at hopen
    · rename_i hdraft
      obtain ⟨other, hresume, hopen⟩ := except_bind_ok.mp hopen
      obtain rfl := Option.some.inj (Except.ok.inj hopen)
      cases hkd : d.draft with
      | none =>
        rw [hkd] at hdraft
        cases hdraft
      | some kd =>
        obtain ⟨k, model, hk, rfl, hkept⟩ := h.draft kd hkd hdraft
        rw [hkd] at hresume
        rw [Progress.resume_draftData model hk, completedSteps_draftData model hk]
        exact ⟨⟨rfl, hk⟩, rfl, fun hall => (hkept hall).resumed hresume⟩
    · cases hopen

theorem eq_of_returns_pass_none {p : Progress} {s s' : Session Cluster}
    (h : Returns (pass probes p) s none s') : s' = s := by
  unfold pass at h
  split at h
  · exact (returns_pure.mp h).2.symm
  · obtain ⟨outcome, s₁, -, h⟩ := returns_bind.mp h
    split at h
    · cases h
    · cases h

theorem Installation.Sound.step (h : d.Sound probes.host) (hstep : InstallationStep probes d d') :
    d'.Sound probes.host := by
  cases hstep with
  | opens hclosed hopen =>
    refine ⟨h.draft, fun r' hr' => ?_⟩
    obtain rfl := Option.some.inj hr'
    exact h.opened hopen
  | passes hrunning hpass =>
    rename_i r q s
    obtain ⟨hhistory, -, hkept⟩ := h.running r hrunning
    have hnext : q.IsPrefix := by
      obtain ⟨-, -, _, _, -, -, hadvance⟩ := returns_pass hpass
      exact Progress.isPrefix_advance hhistory hadvance
    have hnow : (∀ v ∈ d.passes ++ [⟨r.progress, r.session, q, s⟩], BeginsEmpty v) →
        StepsKept probes.host (d.passes ++ [⟨r.progress, r.session, q, s⟩]) q.stepIndex s.model := by
      intro hall
      obtain ⟨hearlier, hthis⟩ := List.forall_mem_append.mp hall
      exact (hkept hearlier).of_pass hpass (hthis _ (List.mem_singleton_self _))
    refine ⟨(sound_saved (d := ⟨none, none, d.passes ++ [_]⟩) hnext hnow).draft, fun r' hr' => ?_⟩
    obtain rfl := Option.some.inj hr'
    exact ⟨hnext, rfl, hnow⟩
  | aborts hrunning habort =>
    rename_i r s
    obtain ⟨hhistory, hsteps, hkept⟩ := h.running r hrunning
    rw [hsteps]
    refine sound_saved hhistory fun hall => (hkept hall).of_setBy fun hset _ hlt => ?_
    exact hset.of_raises habort (Nat.ne_of_gt hlt)
  | abortsDownload hrunning hlast habort =>
    rename_i r s s'
    obtain rfl := eq_of_returns_pass_none hlast
    obtain ⟨hhistory, hsteps, hkept⟩ := h.running r hrunning
    rw [hsteps]
    refine sound_saved hhistory fun hall => (hkept hall).of_setBy fun hset hother _ => ?_
    exact hset.of_withoutSystem hother
      ((leaves_downloadPendingDiskImage probes).raises habort)
  | completes hrunning hlast hdownload =>
    rename_i r s s'
    constructor
    · intro kd hkd hdraft
      rw [isDraftAnswerfile_draftData] at hdraft
      cases hdraft
    · intro r' hr'
      cases hr'
  | stops => exact ⟨h.draft, fun r hr => by cases hr⟩

theorem sound_of_installs (hdraft : isDraftAnswerfile draft = false)
    (h : Installs probes ⟨draft, none, []⟩ d) : d.Sound probes.host := by
  induction h with
  | refl =>
    constructor
    · intro kd hkd htrue
      rw [hdraft] at htrue
      cases htrue
    · intro r hr
      cases hr
  | tail _ hstep ih => exact ih.step hstep

omit [Inet6] in
theorem mem_take_stepNames {name : String} {k : Nat} (hname : name ∈ stepNames) :
    name ∈ stepNames.take k ↔ stepNames.idxOf name < k :=
  List.mem_take_iff_idxOf_lt hname

theorem Installation.Sound.noGhosts (h : d.Sound probes.host) (hall : ∀ v ∈ d.passes, BeginsEmpty v) :
    NoGhosts probes.host d := by
  have hbehind : ∀ {r : RunningSession} {name : String}, d.running = some r → name ∈ stepNames →
      name ∈ r.completedSteps → stepNames.idxOf name < r.progress.stepIndex := by
    intro r name hr hname hmem
    obtain ⟨hhistory, hsteps, -⟩ := h.running r hr
    rw [hsteps, hhistory.history_eq] at hmem
    exact (mem_take_stepNames hname).mp hmem
  constructor
  · intro r hr hmem
    exact (((h.running r hr).2.2 hall).networking (hbehind hr (by decide) hmem)).latest
  · intro r hr hmem
    have hkept := ((h.running r hr).2.2 hall).nodes (hbehind hr (by decide) hmem)
    obtain ⟨v, hlatest, hrecords⟩ := hkept.latest
    exact ⟨v, hlatest, hrecords, hkept.quantity⟩

/-- A completion without ghosts began where there was nothing. -/
theorem NoGhosts.beginsEmpty (h : NoGhosts probes.host d')
    (hsound : d'.Sound probes.host) (hlast : d'.passes = d.passes ++ [v])
    (hrunning : d'.running = some ⟨v.next, v.after, v.next.completedHistory⟩)
    (hpass : Returns (pass probes v.value) v.before (some v.next) v.after) : BeginsEmpty v := by
  have hcompleted : ∀ {name : String}, name ∈ stepNames → Completes name v →
      name ∈ v.next.completedHistory := by
    intro name hname hdone
    rw [(hsound.running _ hrunning).1.history_eq, mem_take_stepNames hname, hdone.2, hdone.1]
    exact Nat.lt_succ_self _
  constructor
  · intro hdone
    have hreturns : Returns (networkingStep probes.host) (replayed v) () ⟨v.after.model, []⟩ :=
      replayed_of_returns (reads_networkingStep _)
        (completes_pass hpass hdone.2 (by rw [hdone.1]; rfl))
    obtain ⟨added, hnetworks, hconnections, hprofiles, hconnected, hnodup, -⟩ :=
      entered_networks hreturns
    obtain ⟨w, hw, hconfigured⟩ := h.networking _ hrunning (hcompleted (by decide) hdone)
    rw [hlast, latestCompletion_append hdone] at hw
    obtain rfl := Option.some.inj hw
    have hcount := hconfigured.networks
    have hcounted := hconfigured.connections
    rw [hnetworks, List.map_append, hprofiles] at hcount
    rw [hconnections, List.map_append, hconnected] at hcounted
    exact Prod.ext (List.map_eq_nil_iff.mp (eq_nil_of_count_append hnodup hcount))
      (List.map_eq_nil_iff.mp (eq_nil_of_count_append hnodup hcounted))
  · intro hdone
    have hreturns : Returns presenterNodes (replayed v) () ⟨v.after.model, []⟩ :=
      replayed_of_returns reads_presenterNodes
        (completes_pass hpass hdone.2 (by rw [hdone.1]; rfl))
    obtain ⟨added, hnodes, hrecords, -⟩ := entered_nodes hreturns
    obtain ⟨w, hw, hsame, -⟩ := h.nodes _ hrunning (hcompleted (by decide) hdone)
    rw [hlast, latestCompletion_append hdone] at hw
    obtain rfl := Option.some.inj hw
    rw [hnodes, List.map_append, hrecords] at hsame
    exact List.map_eq_nil_iff.mp (List.append_left_eq_self.mp hsame)

theorem isPrefix_passes (h : Installs probes d d') : d.passes <+: d'.passes := by
  induction h with
  | refl => exact List.prefix_rfl
  | tail _ hstep ih =>
    refine ih.trans ?_
    cases hstep with
    | passes => exact List.prefix_append _ _
    | _ => exact List.prefix_rfl

/-- The installation behind a pass of the run. -/
theorem exists_behind_pass (h : Installs probes ⟨draft, none, []⟩ d) (hv : v ∈ d.passes) :
    ∃ d₁ d₂ : Installation, Installs probes ⟨draft, none, []⟩ d₂ ∧ Installs probes d₂ d ∧
      d₂.passes = d₁.passes ++ [v] ∧
        d₂.running = some ⟨v.next, v.after, v.next.completedHistory⟩ ∧
          Returns (pass probes v.value) v.before (some v.next) v.after := by
  induction h with
  | refl => cases hv
  | tail hrun hstep ih =>
    rename_i d' d
    by_cases hold : v ∈ d'.passes
    · obtain ⟨d₁, d₂, hfirst, hrest, hbehind⟩ := ih hold
      exact ⟨d₁, d₂, hfirst, hrest.tail hstep, hbehind⟩
    · cases hstep with
      | passes hrunning hpass =>
        rcases List.mem_append.mp hv with hin | hin
        · exact absurd hin hold
        · obtain rfl := List.mem_singleton.mp hin
          exact ⟨d', _, hrun.tail (.passes hrunning hpass), .refl, rfl, rfl, hpass⟩
      | _ => exact absurd hv hold

/-- Over all sessions of an installation there are no ghosts exactly when every completion of the
networking and of the nodes step began with none. -/
theorem noGhosts_iff (hdraft : isDraftAnswerfile draft = false)
    (h : Installs probes ⟨draft, none, []⟩ d) :
    (∀ d', Installs probes ⟨draft, none, []⟩ d' → Installs probes d' d →
      NoGhosts probes.host d') ↔ ∀ v ∈ d.passes, BeginsEmpty v := by
  constructor
  · intro hnone v hv
    obtain ⟨d₁, d₂, hfirst, hrest, hlast, hrunning, hpass⟩ := exists_behind_pass h hv
    exact (hnone d₂ hfirst hrest).beginsEmpty (sound_of_installs hdraft hfirst) hlast hrunning hpass
  · intro hall d' hfirst hrest
    refine (sound_of_installs hdraft hfirst).noGhosts fun v hv => ?_
    exact hall v ((isPrefix_passes hrest).subset hv)

/-- In a run whose completions of the networking and of the nodes step all begin with none, no
state has ghosts. -/
theorem inventory_exact (hdraft : isDraftAnswerfile draft = false)
    (h : Installs probes ⟨draft, none, []⟩ d) (hbegins : ∀ v ∈ d.passes, BeginsEmpty v) :
    NoGhosts probes.host d :=
  (sound_of_installs hdraft h).noGhosts hbegins

/-! ## Runs -/

theorem installs_of_walk {vs ws : List QuestionnairePass} {x z : Progress × Session Cluster}
    {steps : List String} (h : Walk (pass probes) x vs z) :
    ∃ draft' steps', Installs probes ⟨draft, some ⟨x.1, x.2, steps⟩, ws⟩
      ⟨draft', some ⟨z.1, z.2, steps'⟩, ws ++ vs⟩ := by
  induction vs generalizing draft x steps ws with
  | nil =>
    obtain rfl : x = z := h
    exact ⟨draft, steps, by rw [List.append_nil]⟩
  | cons v vs ih =>
    obtain ⟨rfl, hround, hrest⟩ := h
    have hstep : InstallationStep probes ⟨draft, some ⟨v.value, v.before, steps⟩, ws⟩ _ :=
      .passes rfl hround
    obtain ⟨draft', steps', hlater⟩ := ih hrest
    rw [List.append_assoc] at hlater
    exact ⟨draft', steps', .head hstep hlater⟩

/-- The passes of a questionnaire with a new model are a run of their own. -/
theorem exists_installs_passes {fuel : Nat} {script : List Answer} :
    ∃ d, Installs probes ⟨none, none, []⟩ d ∧
      d.passes = Program.passes (pass probes) fuel (Progress.start ∅)
        ⟨Cluster.fresh probes.host, script⟩ := by
  obtain ⟨z, hwalk⟩ := @exists_walk_passes _ _ _ (pass probes) fuel (Progress.start ∅)
    ⟨Cluster.fresh probes.host, script⟩
  obtain ⟨draft', steps', hrun⟩ := @installs_of_walk _ probes none _ [] _ _ [] hwalk
  have hopen : openSession probes.host none script .fresh = .ok (some _) := rfl
  exact ⟨_, .head (.opens rfl hopen) hrun, rfl⟩

end

section

omit [Inet6]

/-- Every step once, the nodes among them. -/
theorem inventory_exact_straightSession :
    ∃ d r, @Installs plainInet6 onlineProbes ⟨none, none, []⟩ d ∧ d.running = some r ∧
      r.completedSteps = stepNames ∧ r.session.model.nodes.length = 1 ∧
        @NoGhosts plainInet6 onlineProbes.host d := by
  obtain ⟨d, hrun, hpasses⟩ := @exists_installs_passes plainInet6 onlineProbes
    (passesLeft (Progress.start ∅) straightSession + 1) straightSession.script
  replace hpasses : d.passes = sessionPasses straightSession := hpasses
  have hlast : ∃ v ∈ sessionPasses straightSession, v.next.completedHistory = stepNames ∧
      v.after.model.nodes.length = 1 := by
    decide +kernel
  have hbegins : ∀ v ∈ sessionPasses straightSession,
      (Completes "networking" v → v.before.model.networkSetup = ([], [])) ∧
        (Completes "nodes" v → v.before.model.nodes = []) := by
    decide +kernel
  obtain ⟨v, hv, hsteps, hnodes⟩ := hlast
  obtain ⟨d₁, d₂, hfirst, hrest, -, hrunning, -⟩ :=
    @exists_behind_pass plainInet6 _ _ _ _ hrun (hpasses ▸ hv)
  refine ⟨d₂, _, hfirst, hrunning, hsteps, hnodes, @inventory_exact plainInet6 _ _ _ rfl hfirst ?_⟩
  intro w hw
  have hin := (@isPrefix_passes plainInet6 _ _ _ hrest).subset hw
  rw [hpasses] at hin
  exact ⟨(hbegins w hin).1, (hbegins w hin).2⟩

/-! ## Networking twice -/

/-- The two networks, Back in the next step, and the two networks again. -/
def networkingTwice : List Answer :=
  let networks : List Answer :=
    [.item "eth0", .fields ["10.0.0.2", "255.0.0.0", "10.0.0.1", "a.b", "10.0.0.1"],
      .item "eth1", .fields ["11.0.0.2", "255.0.0.0", "11.0.0.1", "a.b", "10.0.0.1"],
      .confirm false]
  [.fields ["head", "c", "a@b.c"], .item "Text", .item "America", .item "Sao_Paulo",
      .items ["ntp.a"], .item "English (en)", .fields ["head", "cluster.com"]] ++
    networks ++ [.back] ++ networks

def passesTwice : List QuestionnairePass :=
  Program.passes (@pass plainInet6 sampleProbes) 7 (Progress.start ∅)
    ⟨Cluster.fresh sampleHost, networkingTwice⟩

/-- The second completion begins with the networks of the first one. -/
theorem networking_in_passesTwice :
    ∃ v ∈ passesTwice, Completes "networking" v ∧ v.before.model.networkSetup ≠ ([], []) ∧
      "networking" ∈ v.next.completedHistory ∧
        v.after.model.networks.map Network.profile =
          [.External, .Management, .External, .Management] := by
  decide

theorem noGhosts_networkingTwice :
    ∃ d, @Installs plainInet6 sampleProbes ⟨none, none, []⟩ d ∧ d.passes = passesTwice ∧
      ∃ d', @Installs plainInet6 sampleProbes ⟨none, none, []⟩ d' ∧
        ¬ @NoGhosts plainInet6 sampleProbes.host d' := by
  obtain ⟨d, hrun, hpasses⟩ :=
    @exists_installs_passes plainInet6 sampleProbes 7 networkingTwice
  replace hpasses : d.passes = passesTwice := hpasses
  obtain ⟨v, hv, hdone, hne, -⟩ := networking_in_passesTwice
  refine ⟨d, hrun, hpasses, ?_⟩
  by_contra hnone
  push Not at hnone
  have hall := (@noGhosts_iff plainInet6 _ _ _ rfl hrun).mp fun d' hrun' _ => hnone d' hrun'
  exact hne ((hall v (hpasses ▸ hv)).networking hdone)

/-- Both networks are there twice. -/
theorem ghosts_networkingTwice :
    ∃ d r, @Installs plainInet6 sampleProbes ⟨none, none, []⟩ d ∧ d.running = some r ∧
      "networking" ∈ r.completedSteps ∧
        r.session.model.networks.map Network.profile =
            [.External, .Management, .External, .Management] ∧
          ¬ @NoGhosts plainInet6 sampleProbes.host d := by
  obtain ⟨d, hrun, hpasses⟩ :=
    @exists_installs_passes plainInet6 sampleProbes 7 networkingTwice
  replace hpasses : d.passes = passesTwice := hpasses
  obtain ⟨v, hv, hdone, hne, hcompleted, hprofiles⟩ := networking_in_passesTwice
  obtain ⟨d₁, d₂, hfirst, -, hlast, hrunning, hpass⟩ :=
    @exists_behind_pass plainInet6 _ _ _ _ hrun (hpasses ▸ hv)
  refine ⟨d₂, _, hfirst, hrunning, hcompleted, hprofiles, fun hnone => hne ?_⟩
  have hbegins := @NoGhosts.beginsEmpty plainInet6 _ _ _ _ hnone
    (@sound_of_installs plainInet6 _ _ _ rfl hfirst) hlast hrunning hpass
  exact hbegins.networking hdone

end

end OpenCattus
