import OpenCattus.Questionnaire.Network
import OpenCattus.Session.Resume

/-!
# The nodes step

The forms for the names, the topology and the number of the nodes, and one form for each node.
The CPU is built after the last of the three forms, where nothing is asked again.

`returns_presenterNodes` lists what a step that returns leaves: every node that it adds has the
CPU of the topology that was typed.
-/

namespace OpenCattus

open Foundations Foundations.Text Foundations.Inet Program Dialog

/-! ## What is typed -/

def buildNodeName (nodePrefix : String) (index padding : Nat) : String :=
  nodePrefix ++ padZero padding index

/-- The naming form. -/
structure NodeNaming where
  nodePrefix : String
  padding : Nat
  startIP : Address
  bmcStartIP : Option Address
  rootPassword : String
  deriving DecidableEq, Repr

/-- The topology form. -/
structure NodeTopology where
  sockets : Nat
  coresPerSocket : Nat
  threadsPerCore : Nat
  realMemory : Nat
  bmcUsername : String
  bmcPassword : String
  serialPort : Nat
  serialSpeed : Nat
  deriving DecidableEq, Repr

def startsWithLetter (text : String) : Bool :=
  match text.toList with
  | c :: _ => c.isAlpha
  | [] => false

def parseTopology (fields : Vector String 8) : Option NodeTopology := do
  let sockets ← parseSize fields[0]
  let coresPerSocket ← parseSize fields[1]
  let threadsPerCore ← parseSize fields[2]
  let realMemory ← parseSize fields[3]
  let serialPort ← parseSize fields[6]
  let serialSpeed ← parseSize fields[7]
  some
    { sockets, coresPerSocket, threadsPerCore, realMemory, serialPort, serialSpeed
      bmcUsername := fields[4], bmcPassword := fields[5] }

def parseQuantity (fields : Vector String 1) : Option Nat := do
  let quantity ← parseSize (getElem fields 0 Nat.one_pos)
  if 0 < quantity then some quantity else none

/-- The address that follows the base by `offset`; only version 4 can be counted up. -/
def offsetIPv4Address (baseAddress : Address) (offset : Nat) : Result Address :=
  match baseAddress with
  | .v4 bits => .ok (.v4 (bits + BitVec.ofNat 32 offset))
  | .v6 .. => .error ⟨.badAddressCast, "bad address cast"⟩

namespace Cluster

def setNaming (model : Cluster) (naming : NodeNaming) : Cluster :=
  { model with
    nodePrefix := naming.nodePrefix
    nodePadding := naming.padding
    nodeStartIP := naming.startIP
    nodeRootPassword := naming.rootPassword }

/-- The number of CPUs is a product of machine words. -/
def setTopology (model : Cluster) (topology : NodeTopology) : Cluster :=
  { model with
    nodeSockets := topology.sockets
    nodeCoresPerSocket := topology.coresPerSocket
    nodeThreadsPerCore := topology.threadsPerCore
    nodeRealMemory := topology.realMemory
    nodeBMCUsername := topology.bmcUsername
    nodeBMCPassword := topology.bmcPassword
    nodeBMCSerialPort := topology.serialPort
    nodeBMCSerialSpeed := topology.serialSpeed
    nodeCPUsPerNode :=
      topology.sockets * topology.coresPerSocket * topology.threadsPerCore % sizeLimit }

end Cluster

section

variable [Inet6]

def parseNaming (fields : Vector String 6) : Option NodeNaming := do
  guard (startsWithLetter fields[0])
  let padding ← parseSize fields[1]
  guard (padding ≤ 3)
  let startIP ← makeAddress fields[2]
  let bmcStartIP ← if fields[3] = "" then some none else (makeAddress fields[3]).map some
  guard (bmcStartIP ≠ some startIP)
  guard (fields[4] = fields[5])
  some { nodePrefix := fields[0], padding, startIP, bmcStartIP, rootPassword := fields[4] }

/-! ## The form of a node -/

/-- The BMC of a node, or `none` when its address is the one of the node. -/
def typedBMC (model : Cluster) (nodeAddress : Address) (text : String) :
    Result (Option (Option BMC)) :=
  if text = "" then .ok (some none)
  else do
    let address ← Network.parseAddress text
    if address = nodeAddress then .ok none
    else
      .ok (some (some
        { address := address.toText
          username := model.nodeBMCUsername
          password := model.nodeBMCPassword
          serialPort := model.nodeBMCSerialPort
          serialSpeed := model.nodeBMCSerialSpeed }))

/-- What every node of the step has. -/
structure NodeTemplate where
  os : OS
  cpu : CPU
  network : Network
  bmcStartIP : Option Address

/-- The body of the `try` block. `none` when the form is shown again after a message. -/
def addTypedNode (template : NodeTemplate) (index : Nat) (fields : Vector String 2)
    (model : Cluster) : Result (Option Cluster) := do
  let nodeAddress ← offsetIPv4Address model.nodeStartIP index
  match ← typedBMC model nodeAddress (getElem fields 1 Nat.one_lt_two) with
  | none => .ok none
  | some bmc => do
    let macAddress := getElem fields 0 Nat.two_pos
    let connection ← (Connection.ofNetwork template.network).setMAC macAddress
    let connection ← connection.setAddress nodeAddress
    let newNode : Node :=
      { hostname := buildNodeName model.nodePrefix (index + 1) model.nodePadding
        os := template.os
        cpu := template.cpu
        connections := [connection]
        bmc
        nodePrefix := some model.nodePrefix
        padding := some model.nodePadding
        nodeStartIp := some nodeAddress
        nodeRootPassword := some model.nodeRootPassword }
    let model ← model.addNode (newNode.setMACAddress macAddress)
    .ok (some model)

/-- The address that the form suggests is computed before the `try` block. -/
def suggestedBMC (template : NodeTemplate) (index : Nat) : Result (Option Address) :=
  match template.bmcStartIP with
  | some bmcStartIP => (offsetIPv4Address bmcStartIP index).map some
  | none => .ok none

/-- One round of the form of a node; an exception shows a message. -/
def nodeRound (template : NodeTemplate) (index : Nat) (fields : Vector String 2)
    (model : Cluster) : Except Exception (Option Unit) × Cluster :=
  match addTypedNode template index fields model with
  | .ok (some model) => (.ok (some ()), model)
  | .ok none => (.ok none, model)
  | .error _ => (.ok none, model)

def enterNode (template : NodeTemplate) (index : Nat) : Presenter Unit := do
  let _ ← lift (suggestedBMC template index)
  ask 2 (nodeRound template index)

/-! ## The presenter -/

/-- The three forms. -/
def nodeForms : Presenter (NodeNaming × NodeTopology) := do
  let naming ← askFor 6 parseNaming
  setModel (·.setNaming naming)
  let topology ← askFor 8 parseTopology
  setModel (·.setTopology topology)
  let quantity ← askFor 1 parseQuantity
  setModel fun model => { model with nodeQuantity := quantity }
  pure (naming, topology)

def presenterNodes : Presenter Unit := do
  let (naming, topology) ← nodeForms
  let cpu ← lift (CPU.ofTopology topology.sockets topology.coresPerSocket topology.threadsPerCore)
  let model ← getModel
  match model.getNetwork .Management with
  | .error _ => fatalMessage
  | .ok network =>
    each (enterNode { os := model.getComputeNodeOS, cpu, network, bmcStartIP := naming.bmcStartIP })
      (List.range model.nodeQuantity)

/-! ## What the step leaves -/

/-- The nodes and the numbers, with `nodes` after those that were there. -/
structure Adds (cpu : CPU) (before after : Cluster) : Prop where
  nodes : ∃ added, after.nodes = before.nodes ++ added ∧ ∀ node ∈ added, node.cpu = cpu
  sockets : after.nodeSockets = before.nodeSockets
  coresPerSocket : after.nodeCoresPerSocket = before.nodeCoresPerSocket
  threadsPerCore : after.nodeThreadsPerCore = before.nodeThreadsPerCore
  cpusPerNode : after.nodeCPUsPerNode = before.nodeCPUsPerNode

namespace Adds

variable {cpu : CPU} {a b c : Cluster}

omit [Inet6]

theorem refl (cpu : CPU) (model : Cluster) : Adds cpu model model :=
  ⟨⟨[], by simp, by simp⟩, rfl, rfl, rfl, rfl⟩

theorem trans (h₁ : Adds cpu a b) (h₂ : Adds cpu b c) : Adds cpu a c := by
  obtain ⟨added₁, hnodes₁, hcpu₁⟩ := h₁.nodes
  obtain ⟨added₂, hnodes₂, hcpu₂⟩ := h₂.nodes
  refine ⟨⟨added₁ ++ added₂, ?_, ?_⟩, h₂.sockets.trans h₁.sockets,
    h₂.coresPerSocket.trans h₁.coresPerSocket, h₂.threadsPerCore.trans h₁.threadsPerCore,
    h₂.cpusPerNode.trans h₁.cpusPerNode⟩
  · rw [hnodes₂, hnodes₁, List.append_assoc]
  · intro node hnode
    rcases List.mem_append.mp hnode with hnode | hnode
    · exact hcpu₁ node hnode
    · exact hcpu₂ node hnode

end Adds

variable {template : NodeTemplate} {index : Nat} {s s' : Session Cluster}

theorem adds_addTypedNode {fields : Vector String 2} {model r : Cluster}
    (h : addTypedNode template index fields model = .ok (some r)) : Adds template.cpu model r := by
  unfold addTypedNode at h
  simp only [except_bind_ok] at h
  obtain ⟨nodeAddress, -, bmc, -, h⟩ := h
  cases bmc with
  | none => cases h
  | some bmc =>
    simp only [except_bind_ok, Cluster.addNode, pushBack_eq_ok] at h
    obtain ⟨_, -, connection, -, _, ⟨_, ⟨-, rfl⟩, hadded⟩, h⟩ := h
    obtain rfl := Except.ok.inj hadded
    obtain rfl := Option.some.inj (Except.ok.inj h)
    refine ⟨⟨_, rfl, ?_⟩, rfl, rfl, rfl, rfl⟩
    intro node hnode
    obtain rfl := List.mem_singleton.mp hnode
    rfl

/-- A round after which the form is shown again leaves the model as it is. -/
theorem nodeRound_refused {fields : Vector String 2} {model : Cluster}
    (h : (nodeRound template index fields model).1 = .ok none) :
    (nodeRound template index fields model).2 = model := by
  unfold nodeRound at h ⊢
  split
  · rename_i hadded
    rw [hadded] at h
    cases h
  · rfl
  · rfl

/-- One node is added, after any number of rounds that change nothing. -/
theorem adds_enterNode (h : Returns (enterNode template index) s () s') :
    Adds template.cpu s.model s'.model := by
  obtain ⟨suggested, s₁, hsuggested, hask⟩ := returns_bind.mp h
  obtain ⟨-, rfl⟩ := returns_lift.mp hsuggested
  obtain ⟨fields, model, rfl, hround⟩ := returns_ask (P := (· = s.model)) rfl
    (fun _ _ hmodel hnone => (nodeRound_refused hnone).trans hmodel) hask
  unfold nodeRound at hround
  split at hround
  · rename_i hadded
    obtain ⟨-, rfl⟩ := Prod.mk.inj hround
    exact adds_addTypedNode hadded
  · cases hround
  · cases hround

omit [Inet6] in
theorem returns_nodeForms [Inet6] {naming : NodeNaming} {topology : NodeTopology}
    (h : Returns nodeForms s (naming, topology) s') :
    ∃ quantity, s'.model =
      { (s.model.setNaming naming).setTopology topology with nodeQuantity := quantity } := by
  obtain ⟨naming', s₁, hnaming, h⟩ := returns_bind.mp h
  obtain ⟨_, s₂, hset₁, h⟩ := returns_bind.mp h
  obtain ⟨topology', s₃, htopology, h⟩ := returns_bind.mp h
  obtain ⟨_, s₄, hset₂, h⟩ := returns_bind.mp h
  obtain ⟨quantity, s₅, hquantity, h⟩ := returns_bind.mp h
  obtain ⟨_, s₆, hset₃, h⟩ := returns_bind.mp h
  obtain ⟨hpair, rfl⟩ := returns_pure.mp h
  obtain ⟨rfl, rfl⟩ := Prod.mk.inj hpair
  refine ⟨quantity, ?_⟩
  rw [returns_setModel.mp hset₃, (returns_askFor hquantity).1, returns_setModel.mp hset₂,
    (returns_askFor htopology).1, returns_setModel.mp hset₁, (returns_askFor hnaming).1]

/-- The parts of a nodes step that returns. -/
theorem returns_presenterNodes (h : Returns presenterNodes s () s') :
    ∃ naming topology s₁ cpu, Returns nodeForms s (naming, topology) s₁ ∧
      CPU.ofTopology topology.sockets topology.coresPerSocket topology.threadsPerCore = .ok cpu ∧
      Adds cpu s₁.model s'.model := by
  obtain ⟨⟨naming, topology⟩, s₁, hforms, h⟩ := returns_bind.mp h
  obtain ⟨cpu, s₂, hlift, h⟩ := returns_bind.mp h
  obtain ⟨hcpu, rfl⟩ := returns_lift.mp hlift
  obtain ⟨model, s₃, hget, h⟩ := returns_bind.mp h
  obtain ⟨rfl, rfl⟩ := returns_getModel.mp hget
  refine ⟨naming, topology, s₃, cpu, hforms, hcpu, ?_⟩
  split at h
  · exact absurd h returns_raise
  · refine returns_each (P := fun s => Adds cpu s₃.model s.model) ?_ (Adds.refl _ _) h
    intro index _ s₄ s₅ hadds hnode
    exact hadds.trans (adds_enterNode hnode)

end

end OpenCattus
