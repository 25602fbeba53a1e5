import OpenCattus.Cluster.Filled
import OpenCattus.Cluster.Reload
import OpenCattus.Session.Resume

/-!
# The nodes of a draft

Nothing before the node sections of a draft touches the nodes or the generic numbers, and
nothing after them does (`drafted_inventory`). Every section that has the required values adds
the node that `draftNode` builds for it, and no other node is added (`applyNodes_eq_ok`).
-/

namespace OpenCattus

open Foundations Foundations.Text Foundations.Inet

namespace Cluster

/-- The nodes, and the generic numbers of a topology. -/
structure Inventory where
  nodes : List Node
  sockets : Nat
  coresPerSocket : Nat
  threadsPerCore : Nat
  cpusPerNode : Nat
  deriving DecidableEq, Repr

def inventory (model : Cluster) : Inventory where
  nodes := model.nodes
  sockets := model.nodeSockets
  coresPerSocket := model.nodeCoresPerSocket
  threadsPerCore := model.nodeThreadsPerCore
  cpusPerNode := model.nodeCPUsPerNode

/-! ## The sections around the nodes -/

section Around

variable {host : Host} {kd : KeyData} {model r : Cluster}

theorem applyDiskImage_eq_ok (h : applyDiskImage host kd model = .ok r) :
    ∃ image url, r = { model with diskImage := image, pendingDiskImageDownloadURL := url } := by
  unfold applyDiskImage at h
  split at h
  · obtain rfl := Except.ok.inj h
    exact ⟨_, _, rfl⟩
  · split at h
    · simp only [setPendingDiskImageDownload, except_bind_ok] at h
      obtain ⟨_, hset, h⟩ := h
      obtain ⟨-, -, rfl⟩ := setDiskImagePath_eq_ok.mp hset
      obtain rfl := Except.ok.inj h
      exact ⟨_, _, rfl⟩
    · obtain rfl := Except.ok.inj h
      rcases runDiskImage_cases host _ model with ⟨-, e, -, hrun⟩ | ⟨-, hrun⟩ |
        ⟨-, -, e, -, hrun⟩ <;> rw [hrun] <;> exact ⟨_, _, rfl⟩

/-- The section of the system sets the image, the operating system and the provisioner. -/
theorem applySystem_eq_ok (h : applySystem host kd model = .ok r) :
    ∃ image url os provisioner, r =
      { model with
        diskImage := image
        pendingDiskImageDownloadURL := url
        computeNodeOS := os
        provisioner := provisioner } := by
  unfold applySystem at h
  simp only [except_bind_ok] at h
  obtain ⟨m₁, h₁, m₂, h₂, h⟩ := h
  obtain ⟨image, url, rfl⟩ := applyDiskImage_eq_ok h₁
  obtain ⟨os, rfl⟩ : ∃ os, m₂ =
      { model with
        diskImage := image
        pendingDiskImageDownloadURL := url
        computeNodeOS := os } := by
    unfold applyComputeNodeOS at h₂
    split at h₂
    · simp only [except_bind_ok] at h₂
      obtain ⟨_, -, h₂⟩ := h₂
      exact ⟨_, (Except.ok.inj h₂).symm⟩
    · exact ⟨_, (Except.ok.inj h₂).symm⟩
  obtain rfl := Except.ok.inj h
  unfold applyProvisioner
  split <;> exact ⟨_, _, _, _, rfl⟩

variable {networkSection interface : String} {profile : Network.Profile} {kind : Network.Kind}
  {ip mask : Address}

theorem draftConnection_eq_ok {connection : Connection}
    (h : draftConnection host kd networkSection profile kind interface ip = .ok connection) :
    connection.profile = profile ∧ connection.interface = some interface := by
  simp only [draftConnection, except_bind_ok, Connection.setInterface_eq_ok,
    Connection.setAddress_eq_ok] at h
  obtain ⟨_, ⟨-, rfl⟩, _, ⟨-, rfl⟩, h⟩ := h
  cases hmac : optionalString kd networkSection "mac_address" with
  | none =>
    rw [hmac] at h
    obtain rfl := Except.ok.inj h
    exact ⟨rfl, rfl⟩
  | some mac =>
    rw [hmac, applyOptional_some, Connection.setMAC_eq_ok] at h
    obtain ⟨-, rfl⟩ := h
    exact ⟨rfl, rfl⟩

variable [Inet6]

theorem profile_draftNetwork {network : Network}
    (h : draftNetwork kd networkSection profile kind ip mask = .ok network) :
    network.profile = profile := by
  unfold draftNetwork at h
  obtain ⟨n₁, hmask, h⟩ := except_bind_ok.mp h
  obtain ⟨-, rfl⟩ := Network.setSubnetMask_eq_ok.mp hmask
  obtain ⟨address, hcalc, h⟩ := except_bind_ok.mp h
  obtain ⟨n₂, hset, h⟩ := except_bind_ok.mp h
  obtain ⟨-, rfl⟩ := Network.calculateAddress_eq_ok.mp ⟨address, hcalc, hset⟩
  obtain ⟨n₃, hdomain, h⟩ := except_bind_ok.mp h
  have hgateway : ∀ (gateway : Option Address) (n : Network),
      (gateway.elim n n.setGateway).profile = n.profile := by
    intro gateway n
    cases gateway <;> rfl
  have hnamed : n₃.profile = profile := by
    cases hname : optionalString kd networkSection "domain_name" with
    | none =>
      rw [hname] at hdomain
      obtain rfl := Except.ok.inj hdomain
      exact hgateway _ _
    | some name =>
      rw [hname, applyOptional_some, Network.setDomainName_eq_ok] at hdomain
      obtain ⟨-, rfl⟩ := hdomain
      exact hgateway _ _
  cases hservers : optionalString kd networkSection "nameservers" with
  | none =>
    rw [hservers] at h
    obtain rfl := Except.ok.inj h
    exact hnamed
  | some servers =>
    rw [hservers, Option.map_some, applyOptional_some] at h
    obtain ⟨_, -, h⟩ := except_bind_ok.mp h
    obtain rfl := Except.ok.inj h
    exact hnamed

/-- What a section has to say. -/
def SaysNetwork (kd : KeyData) (networkSection : String) : Prop :=
  kd.hasGroup networkSection = true ∧
    (optionalString kd networkSection "interface").isSome = true ∧
      ((optionalString kd networkSection "ip_address").bind makeAddress).isSome = true ∧
        ((optionalString kd networkSection "subnet_mask").bind makeAddress).isSome = true

/-- A section adds its network with the connection to it, or it says too little, or the network is
there already. -/
theorem applyNetwork_eq_ok (h : applyNetwork host kd networkSection profile kind model = .ok r) :
    (SaysNetwork kd networkSection ∧ model.modelHasNetwork profile = false ∧
      ∃ network connection interface, network.profile = profile ∧ connection.profile = profile ∧
        optionalString kd networkSection "interface" = some interface ∧
          connection.interface = some interface ∧
            r = (model.addNetwork network).addConnection connection) ∨
      r = model ∧ (SaysNetwork kd networkSection → model.modelHasNetwork profile = true) := by
  unfold applyNetwork at h
  split at h
  · rename_i hskip
    refine .inr ⟨(Except.ok.inj h).symm, fun hsaid => ?_⟩
    simpa [hsaid.1] using hskip
  · rename_i hopen
    obtain ⟨hgroup, hnew⟩ : kd.hasGroup networkSection = true ∧
        model.modelHasNetwork profile = false := by simpa using hopen
    split at h
    · rename_i interface ip mask hinterface hip hmask
      obtain ⟨connection, hconnection, h⟩ := except_bind_ok.mp h
      obtain ⟨network, hnetwork, h⟩ := except_bind_ok.mp h
      obtain ⟨hprofile, hnamed⟩ := draftConnection_eq_ok hconnection
      exact .inl ⟨⟨hgroup, by rw [hinterface]; rfl, by rw [hip]; rfl, by rw [hmask]; rfl⟩, hnew,
        network, connection, interface, profile_draftNetwork hnetwork, hprofile, hinterface, hnamed,
        (Except.ok.inj h).symm⟩
    · rename_i hnone
      refine .inr ⟨(Except.ok.inj h).symm, ?_⟩
      rintro ⟨-, hinterface, hip, hmask⟩
      obtain ⟨interface, hinterface⟩ := Option.isSome_iff_exists.mp hinterface
      obtain ⟨ip, hip⟩ := Option.isSome_iff_exists.mp hip
      obtain ⟨mask, hmask⟩ := Option.isSome_iff_exists.mp hmask
      exact absurd hmask (hnone interface ip mask hinterface hip)

theorem inventory_applyNetwork (h : applyNetwork host kd networkSection profile kind model = .ok r) :
    r.inventory = model.inventory := by
  rcases applyNetwork_eq_ok h with ⟨-, -, _, _, _, -, -, -, -, rfl⟩ | ⟨rfl, -⟩
  · rfl
  · rfl

theorem inventory_applyNetworks (h : applyNetworks host kd model = .ok r) :
    r.inventory = model.inventory := by
  unfold applyNetworks at h
  simp only [except_bind_ok] at h
  obtain ⟨m₁, h₁, m₂, h₂, m₃, h₃, h₄⟩ := h
  rw [inventory_applyNetwork h₄, inventory_applyNetwork h₃, inventory_applyNetwork h₂,
    inventory_applyNetwork h₁]

end Around

/-! ## The node sections -/

variable [Inet6] {host : Host} {kd : KeyData} {model r : Cluster}

/-- The section has the required values, and `node` is what is built for it. -/
def Drafts (kd : KeyData) (model : Cluster) (nodeSection : String) (node : Node) : Prop :=
  ∃ v, draftNodeValues kd nodeSection model = some v ∧ draftNode kd nodeSection model v = .ok node

omit [Inet6] in
theorem cpu_draftNode {nodeSection : String} {v : DraftNodeValues} {node : Node}
    (h : draftNode kd nodeSection model v = .ok node) :
    CPU.ofTopology v.sockets v.coresPerSocket v.threadsPerCore = .ok node.cpu := by
  simp only [draftNode, except_bind_ok] at h
  obtain ⟨cpu, hcpu, _, -, _, -, h⟩ := h
  obtain rfl := Except.ok.inj h
  exact hcpu

/-- The nodes are those of the sections that are not skipped. -/
structure NodesOf (kd : KeyData) (model : Cluster) (sections : List String) (nodes : List Node) :
    Prop where
  drafted : ∀ node ∈ nodes, ∃ nodeSection ∈ sections, Drafts kd model nodeSection node
  complete : ∀ nodeSection ∈ sections, ∀ v, draftNodeValues kd nodeSection model = some v →
    ∃ node ∈ nodes, draftNode kd nodeSection model v = .ok node

/-- The loop builds a node for every section that is not skipped, in their order. -/
theorem applyNodeSections_eq_ok {sections : List String} {loaded count : Nat}
    (h : applyNodeSections kd model loaded sections = .ok (r, count)) :
    ∃ nodes, List.Forall₂ (Drafts kd model)
        (sections.filter fun nodeSection => (draftNodeValues kd nodeSection model).isSome) nodes ∧
      r = { model with nodes := model.nodes ++ nodes } ∧ count = loaded + nodes.length := by
  induction sections generalizing model loaded with
  | nil =>
    obtain ⟨rfl, rfl⟩ := Prod.mk.inj (Except.ok.inj h)
    exact ⟨[], .nil, by simp, rfl⟩
  | cons group groups ih =>
    simp only [applyNodeSections, except_bind_ok] at h
    obtain ⟨next, hnext, h⟩ := h
    unfold applySingleNode at hnext
    split at hnext
    · rename_i v hv
      simp only [except_bind_ok, addNode, pushBack_eq_ok] at hnext
      obtain ⟨node, hnode, added, ⟨_, ⟨-, rfl⟩, hadded⟩, hnext⟩ := hnext
      obtain rfl := Except.ok.inj hadded
      obtain rfl := Except.ok.inj hnext
      obtain ⟨nodes, hdrafted, rfl, rfl⟩ := ih h
      refine ⟨node :: nodes, ?_, by simp, ?_⟩
      · rw [List.filter_cons_of_pos (by rw [hv]; rfl)]
        exact .cons ⟨v, hv, hnode⟩ hdrafted
      · rw [List.length_cons]
        omega
    · rename_i hv
      obtain rfl := Except.ok.inj hnext
      obtain ⟨nodes, hdrafted, rfl, rfl⟩ := ih h
      refine ⟨nodes, ?_, rfl, rfl⟩
      rwa [List.filter_cons_of_neg (by rw [hv]; simp)]

theorem nodesOf_of_forall₂ {sections : List String} {nodes : List Node}
    (h : List.Forall₂ (Drafts kd model)
      (sections.filter fun nodeSection => (draftNodeValues kd nodeSection model).isSome) nodes) :
    NodesOf kd model sections nodes := by
  constructor
  · intro node hnode
    obtain ⟨nodeSection, hsection, hdrafts⟩ := exists_of_forall₂ h hnode
    exact ⟨nodeSection, List.mem_of_mem_filter hsection, hdrafts⟩
  · intro nodeSection hsection v hv
    have hmem : nodeSection ∈ sections.filter fun nodeSection =>
        (draftNodeValues kd nodeSection model).isSome :=
      List.mem_filter.mpr ⟨hsection, by rw [hv]; rfl⟩
    obtain ⟨node, hnode, w, hw, hdrafted⟩ := exists_of_forall₂ h.flip hmem
    obtain rfl := Option.some.inj (hv.symm.trans hw)
    exact ⟨node, hnode, hdrafted⟩

/-! ## The whole draft -/

/-- The model before the node sections are read. -/
def draftBeforeNodes (host : Host) (kd : KeyData) : Result Cluster := do
  let model ← applyNetworks host kd (applyHostname kd (applyTime kd (applyInformation kd (fresh host))))
  let model ← applySystem host kd model
  .ok (applyOFED kd (applyOHPC kd (applyRepositories kd model)))

theorem inventory_draftBeforeNodes (h : draftBeforeNodes host kd = .ok model) :
    model.inventory = ⟨[], 0, 0, 0, 0⟩ := by
  have hnames : (applyHostname kd (applyTime kd (applyInformation kd (fresh host)))).inventory =
      ⟨[], 0, 0, 0, 0⟩ := by
    unfold applyHostname
    cases optionalString kd "hostname" "hostname" <;>
      cases optionalString kd "hostname" "domain_name" <;> rfl
  unfold draftBeforeNodes at h
  simp only [except_bind_ok] at h
  obtain ⟨m₁, h₁, m₂, h₂, h⟩ := h
  obtain rfl := Except.ok.inj h
  obtain ⟨_, _, _, _, rfl⟩ := applySystem_eq_ok h₂
  rw [← hnames, ← inventory_applyNetworks h₁]
  unfold applyOFED
  split <;> rfl

/-- What a draft leaves of the nodes and the networks. -/
structure DraftedFrom (host : Host) (kd : KeyData) (before : Cluster) (nodes : List Node)
    (r : Cluster) : Prop where
  before_eq : draftBeforeNodes host kd = .ok before
  sections : List.Forall₂ (Drafts kd (applyGenericNode kd before))
    ((kd.prefixed "node.").filter fun nodeSection =>
      (draftNodeValues kd nodeSection (applyGenericNode kd before)).isSome) nodes
  inventory : r.inventory = { (applyGenericNode kd before).inventory with nodes }
  networks : r.networks = before.networks
  connections : r.headnode.connections = before.headnode.connections
  quantity : nodes ≠ [] → r.nodeQuantity = nodes.length

omit [Inet6] in
/-- The sections behind the nodes set the queue system and the mail system. -/
theorem applyServices_eq (kd : KeyData) (model : Cluster) :
    ∃ queueSystem mariaDBRootPassword dbPassword storagePassword mailSystem,
      applyPostfix kd (applyQueueSystem kd model) =
        { model with
          queueSystem := queueSystem
          slurmMariaDBRootPassword := mariaDBRootPassword
          slurmDBPassword := dbPassword
          slurmStoragePassword := storagePassword
          mailSystem := mailSystem } := by
  have hmail : ∀ model : Cluster, ∃ mailSystem, applyPostfix kd model = { model with mailSystem } := by
    intro model
    unfold applyPostfix
    split <;> exact ⟨_, rfl⟩
  obtain ⟨mailSystem, hmail⟩ := hmail (applyQueueSystem kd model)
  rw [hmail]
  unfold applyQueueSystem
  split
  · exact ⟨_, _, _, _, mailSystem, rfl⟩
  · split <;> exact ⟨_, _, _, _, mailSystem, rfl⟩

theorem applyDraftToModel_eq_ok (h : applyDraftToModel host (some kd) (fresh host) = .ok r) :
    ∃ before nodes, DraftedFrom host kd before nodes r := by
  unfold applyDraftToModel at h
  simp only [except_bind_ok] at h
  obtain ⟨m₁, h₁, m₂, h₂, m₃, h₃, h⟩ := h
  have hbefore : draftBeforeNodes host kd =
      .ok (applyOFED kd (applyOHPC kd (applyRepositories kd m₂))) := by
    unfold draftBeforeNodes
    rw [h₁]
    exact except_bind_ok.mpr ⟨m₁, rfl, except_bind_ok.mpr ⟨m₂, h₂, rfl⟩⟩
  have hkept := congrArg Inventory.nodes (inventory_draftBeforeNodes hbefore)
  generalize applyOFED kd (applyOHPC kd (applyRepositories kd m₂)) = before at h₃ hbefore hkept
  have hgeneric : (applyGenericNode kd before).nodes = [] ∧
      (applyGenericNode kd before).networks = before.networks ∧
        (applyGenericNode kd before).headnode = before.headnode := by
    unfold applyGenericNode
    split
    · exact ⟨hkept, rfl, rfl⟩
    · exact ⟨hkept, rfl, rfl⟩
  obtain ⟨hnone, hnetworks, hheadnode⟩ := hgeneric
  unfold applyNodes at h₃
  simp only [except_bind_ok] at h₃
  obtain ⟨⟨m₄, count⟩, h₄, h₃⟩ := h₃
  obtain ⟨nodes, hnodes, rfl, rfl⟩ := applyNodeSections_eq_ok h₄
  obtain ⟨_, _, _, _, _, hservices⟩ := applyServices_eq kd m₃
  rw [hservices] at h
  obtain rfl := Except.ok.inj h
  refine ⟨before, nodes, ?_⟩
  rw [Nat.zero_add] at h₃
  obtain rfl := Except.ok.inj h₃
  by_cases hnil : nodes = []
  · subst hnil
    exact ⟨hbefore, hnodes, by simp [inventory, hnone], hnetworks, congrArg _ hheadnode,
      fun hne => absurd rfl hne⟩
  · rw [if_pos (List.length_pos_of_ne_nil hnil)]
    exact ⟨hbefore, hnodes, by simp [inventory, hnone], hnetworks, congrArg _ hheadnode,
      fun _ => rfl⟩

theorem applyDraftToModel_inventory (h : applyDraftToModel host (some kd) (fresh host) = .ok r) :
    ∃ before nodes, draftBeforeNodes host kd = .ok before ∧
      NodesOf kd (applyGenericNode kd before) (kd.prefixed "node.") nodes ∧
      r.inventory = { (applyGenericNode kd before).inventory with nodes } := by
  obtain ⟨before, nodes, hdrafted⟩ := applyDraftToModel_eq_ok h
  exact ⟨before, nodes, hdrafted.before_eq, nodesOf_of_forall₂ hdrafted.sections,
    hdrafted.inventory⟩

end Cluster

end OpenCattus
