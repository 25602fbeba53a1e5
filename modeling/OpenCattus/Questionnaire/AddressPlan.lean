import OpenCattus.Questionnaire.Nodes
import OpenCattus.Questionnaire.Suggestions
import OpenCattus.Subnet

/-!
# The addresses of the nodes step

The nodes get the addresses that follow the one in the naming form. A form of a node is refused
when its BMC has the address of this node; nothing else is compared.

`addressPlan_iff` says for which answers the addresses are those of hosts in the management
network, and are not taken.
-/

namespace OpenCattus

open Foundations Foundations.Text Foundations.Inet Program Dialog

section

variable [Inet6]

/-! ## What is typed -/

/-- The address of the BMC, where it is none or another one than the address of the node. -/
def bmcEntry (nodeAddress : Address) (text : String) : Option (Option Address) :=
  if text = "" then some none
  else (makeAddress text).bind fun address =>
    if address = nodeAddress then none else some (some address)

/-- The MAC address and the BMC of a form that is taken for the node with the address. -/
def nodeEntry (nodeAddress : Address) (fields : Vector String 2) :
    Option (String × Option Address) :=
  let macAddress := getElem fields 0 Nat.two_pos
  match Connection.validateMAC macAddress with
  | .error _ => none
  | .ok () =>
    (bmcEntry nodeAddress (getElem fields 1 Nat.one_lt_two)).map fun bmc => (macAddress, bmc)

/-- The forms that are taken for the nodes, in order. -/
def typedNodes (start : BitVec 32) :
    List Nat → List Answer → Option (List (String × Option Address))
  | [], _ => some []
  | index :: indices, script => do
    let (entry, rest) ← typed 2 (nodeEntry (.v4 (start + BitVec.ofNat 32 index))) script
    let entries ← typedNodes start indices rest
    some (entry :: entries)

/-- What is typed in the step: the first address, and the entries of the nodes. -/
structure TypedPlan where
  start : BitVec 32
  entries : List (String × Option Address)
  deriving DecidableEq

def typedPlan (script : List Answer) : Option TypedPlan := do
  let (naming, rest) ← typed 6 parseNaming script
  let (_, rest) ← typed 8 parseTopology rest
  let (quantity, rest) ← typed 1 parseQuantity rest
  match naming.startIP with
  | .v6 .. => none
  | .v4 start => do
    let entries ← typedNodes start (List.range quantity) rest
    some { start, entries }

/-- All that is typed in the step. -/
structure TypedInventory where
  naming : NodeNaming
  topology : NodeTopology
  entries : List (String × Option Address)

def typedInventory (script : List Answer) : Option TypedInventory := do
  let (naming, rest) ← typed 6 parseNaming script
  let (topology, rest) ← typed 8 parseTopology rest
  let (quantity, rest) ← typed 1 parseQuantity rest
  match naming.startIP with
  | .v6 .. => none
  | .v4 start => do
    let entries ← typedNodes start (List.range quantity) rest
    some { naming, topology, entries }

/-! ## The nodes that are built -/

variable {template : NodeTemplate} {index : Nat}

def builtBMC (model : Cluster) (address : Address) : BMC where
  address := address.toText
  username := model.nodeBMCUsername
  password := model.nodeBMCPassword
  serialPort := model.nodeBMCSerialPort
  serialSpeed := model.nodeBMCSerialSpeed

def builtNode (template : NodeTemplate) (model : Cluster) (index : Nat) (nodeAddress : Address)
    (entry : String × Option Address) : Node :=
  Node.setMACAddress
    { hostname := buildNodeName model.nodePrefix (index + 1) model.nodePadding
      os := template.os
      cpu := template.cpu
      connections :=
        [{ Connection.ofNetwork template.network with
            mac := some (lower entry.1), address := nodeAddress }]
      bmc := entry.2.map (builtBMC model)
      nodePrefix := some model.nodePrefix
      padding := some model.nodePadding
      nodeStartIp := some nodeAddress
      nodeRootPassword := some model.nodeRootPassword } entry.1

def Cluster.addBuilt (model : Cluster) (nodes : List Node) : Cluster :=
  { model with nodes := model.nodes ++ nodes }

omit [Inet6] in
theorem addBuilt_addBuilt (model : Cluster) (nodes others : List Node) :
    (model.addBuilt nodes).addBuilt others = model.addBuilt (nodes ++ others) := by
  rw [Cluster.addBuilt, Cluster.addBuilt, Cluster.addBuilt, List.append_assoc]

theorem typedBMC_eq_ok {model : Cluster} {nodeAddress : Address} {text : String}
    {bmc : Option BMC} :
    typedBMC model nodeAddress text = .ok (some bmc) ↔
      ∃ address, bmcEntry nodeAddress text = some address ∧ bmc = address.map (builtBMC model) := by
  unfold typedBMC bmcEntry
  by_cases hempty : text = ""
  · rw [if_pos hempty, if_pos hempty]
    simp [eq_comm]
  · rw [if_neg hempty, if_neg hempty, Network.parseAddress]
    cases makeAddress text with
    | none => simp [bind, Except.bind]
    | some address =>
      change (if address = nodeAddress then _ else _) = _ ↔ _
      rw [Option.bind_some]
      split
      · simp
      · simp [eq_comm, builtBMC]

theorem nodeEntry_eq_some {nodeAddress : Address} {fields : Vector String 2}
    {entry : String × Option Address} :
    nodeEntry nodeAddress fields = some entry ↔
      Connection.validateMAC (getElem fields 0 Nat.two_pos) = .ok () ∧
        ∃ bmc, bmcEntry nodeAddress (getElem fields 1 Nat.one_lt_two) = some bmc ∧
          entry = (getElem fields 0 Nat.two_pos, bmc) := by
  unfold nodeEntry
  dsimp only
  cases Connection.validateMAC (getElem fields 0 Nat.two_pos) with
  | error message => simp
  | ok u => simp [eq_comm]

theorem addTypedNode_eq_ok {fields : Vector String 2} {model r : Cluster} :
    addTypedNode template index fields model = .ok (some r) ↔
      ∃ nodeAddress, offsetIPv4Address model.nodeStartIP index = .ok nodeAddress ∧
        nodeAddress ≠ .v4 0 ∧ model.nodes.length < vectorMaxSize ∧
        ∃ entry, nodeEntry nodeAddress fields = some entry ∧
          r = model.addBuilt [builtNode template model index nodeAddress entry] := by
  unfold addTypedNode
  simp only [except_bind_ok]
  constructor
  · rintro ⟨nodeAddress, haddress, typedBmc, hbmc, h⟩
    cases typedBmc with
    | none => cases h
    | some bmc =>
      obtain ⟨address, hentry, rfl⟩ := typedBMC_eq_ok.mp hbmc
      simp only [except_bind_ok, Connection.setMAC_eq_ok, Connection.setAddress_eq_ok,
        Cluster.addNode, pushBack_eq_ok] at h
      obtain ⟨_, ⟨hmac, rfl⟩, _, ⟨hne, rfl⟩, _, ⟨_, ⟨hsize, rfl⟩, hadded⟩, h⟩ := h
      obtain rfl := Except.ok.inj hadded
      obtain rfl := Option.some.inj (Except.ok.inj h)
      refine ⟨nodeAddress, haddress, hne, hsize, (fields[0], address), ?_, rfl⟩
      exact nodeEntry_eq_some.mpr ⟨hmac, address, hentry, rfl⟩
  · rintro ⟨nodeAddress, haddress, hne, hsize, entry, hentry, rfl⟩
    obtain ⟨hmac, bmc, hbmc, rfl⟩ := nodeEntry_eq_some.mp hentry
    refine ⟨nodeAddress, haddress, some (bmc.map (builtBMC model)),
      typedBMC_eq_ok.mpr ⟨bmc, hbmc, rfl⟩, ?_⟩
    simp only [except_bind_ok, Connection.setMAC_eq_ok, Connection.setAddress_eq_ok,
      Cluster.addNode, pushBack_eq_ok]
    exact ⟨_, ⟨hmac, rfl⟩, _, ⟨hne, rfl⟩, _, ⟨_, ⟨hsize, rfl⟩, rfl⟩, rfl⟩

/-! ## One node -/

variable {s s' : Session Cluster}

/-- The form of a node, with the model that is left when it is taken. -/
def takenNode (template : NodeTemplate) (index : Nat) (model : Cluster)
    (fields : Vector String 2) : Option (Unit × Cluster) :=
  match addTypedNode template index fields model with
  | .ok (some r) => some ((), r)
  | _ => none

theorem takenNode_eq_some {fields : Vector String 2} {model r : Cluster} :
    takenNode template index model fields = some ((), r) ↔
      addTypedNode template index fields model = .ok (some r) := by
  unfold takenNode
  split
  · rename_i r' h
    rw [h]
    simp
  · rename_i h
    simp only [reduceCtorEq, false_iff]
    exact h r

theorem nodeRound_eq_taken {fields : Vector String 2} {model : Cluster} {u : Unit} {r : Cluster} :
    nodeRound template index fields model = (.ok (some u), r) ↔
      takenNode template index model fields = some (u, r) := by
  rw [takenNode_eq_some, nodeRound]
  cases addTypedNode template index fields model with
  | error e => simp
  | ok taken =>
    cases taken with
    | none => simp
    | some r' => simp

/-- Where a node can be added at all, only its entry decides about a form. -/
theorem takenNode_eq {model : Cluster} {nodeAddress : Address}
    (haddress : offsetIPv4Address model.nodeStartIP index = .ok nodeAddress)
    (hne : nodeAddress ≠ .v4 0) (hsize : model.nodes.length < vectorMaxSize) :
    takenNode template index model = fun fields =>
      (nodeEntry nodeAddress fields).map fun entry =>
        ((), model.addBuilt [builtNode template model index nodeAddress entry]) := by
  funext fields
  cases hentry : nodeEntry nodeAddress fields with
  | some entry =>
    exact takenNode_eq_some.mpr
      (addTypedNode_eq_ok.mpr ⟨nodeAddress, haddress, hne, hsize, entry, hentry, rfl⟩)
  | none =>
    rw [Option.map_none, ← Option.not_isSome_iff_eq_none, Option.isSome_iff_exists]
    rintro ⟨⟨_, r⟩, hr⟩
    obtain ⟨other, hother, -, -, entry, hsome, -⟩ :=
      addTypedNode_eq_ok.mp (takenNode_eq_some.mp hr)
    rw [haddress] at hother
    rw [← Except.ok.inj hother, hentry] at hsome
    cases hsome

/-- What the last form decides does not depend on the forms that are refused. -/
theorem returns_enterNode (h : Returns (enterNode template index) s () s') :
    ∃ nodeAddress, offsetIPv4Address s.model.nodeStartIP index = .ok nodeAddress ∧
      nodeAddress ≠ .v4 0 ∧
      ∃ entry, typed 2 (nodeEntry nodeAddress) s.script = some (entry, s'.script) ∧
        s'.model = s.model.addBuilt [builtNode template s.model index nodeAddress entry] := by
  obtain ⟨suggested, s₁, hsuggested, hask⟩ := returns_bind.mp h
  obtain ⟨-, rfl⟩ := returns_lift.mp hsuggested
  have htyped := typed_of_returns_ask (fun _ _ _ _ => nodeRound_eq_taken)
    (fun _ _ => nodeRound_refused) hask
  obtain ⟨fields, hfields⟩ := exists_of_typed htyped
  obtain ⟨nodeAddress, haddress, hne, hsize, -⟩ :=
    addTypedNode_eq_ok.mp (takenNode_eq_some.mp hfields)
  refine ⟨nodeAddress, haddress, hne, ?_⟩
  rw [takenNode_eq haddress hne hsize, typed_map] at htyped
  obtain ⟨⟨entry, rest⟩, hentry, heq⟩ := Option.map_eq_some_iff.mp htyped
  obtain ⟨hpair, rfl⟩ := Prod.mk.inj heq
  exact ⟨entry, hentry, (Prod.mk.inj hpair).2.symm⟩

/-! ## All nodes -/

/-- The nodes of the loop, one for each index and entry. -/
def builtNodes (template : NodeTemplate) (model : Cluster) (start : BitVec 32)
    (indices : List Nat) (entries : List (String × Option Address)) : List Node :=
  List.zipWith (fun index entry =>
    builtNode template model index (.v4 (start + BitVec.ofNat 32 index)) entry) indices entries

theorem returns_enterNodes {start : BitVec 32} {indices : List Nat}
    (hstart : s.model.nodeStartIP = .v4 start)
    (h : Returns (each (enterNode template) indices) s () s') :
    (∀ index ∈ indices, start + BitVec.ofNat 32 index ≠ 0#32) ∧
    ∃ entries, typedNodes start indices s.script = some entries ∧
      s'.model = s.model.addBuilt (builtNodes template s.model start indices entries) := by
  induction indices generalizing s with
  | nil =>
    obtain ⟨-, rfl⟩ := returns_pure.mp h
    refine ⟨List.forall_mem_nil _, [], rfl, ?_⟩
    simp [Cluster.addBuilt, builtNodes]
  | cons index indices ih =>
    obtain ⟨_, s₁, hnode, hrest⟩ := returns_bind.mp h
    obtain ⟨nodeAddress, haddress, hne, entry, hentry, hmodel⟩ := returns_enterNode hnode
    rw [hstart] at haddress
    obtain rfl := Except.ok.inj haddress
    have hstart₁ : s₁.model.nodeStartIP = .v4 start := by
      rw [hmodel]
      exact hstart
    obtain ⟨hzero, entries, hentries, hlast⟩ := ih hstart₁ hrest
    refine ⟨List.forall_mem_cons.mpr ⟨fun h => hne (congrArg Address.v4 h), hzero⟩,
      entry :: entries, ?_, ?_⟩
    · rw [typedNodes, hentry]
      change (typedNodes start indices s₁.script).bind _ = _
      rw [hentries]
      rfl
    · rw [hlast, hmodel, addBuilt_addBuilt]
      rfl

/-! ## The step -/

/-- What the forms leave, and the answers behind them. -/
theorem typed_of_returns_nodeForms {naming : NodeNaming} {topology : NodeTopology}
    (h : Returns nodeForms s (naming, topology) s') :
    ∃ rest rest', typed 6 parseNaming s.script = some (naming, rest) ∧
      typed 8 parseTopology rest = some (topology, rest') ∧
      typed 1 parseQuantity rest' = some (s'.model.nodeQuantity, s'.script) ∧
      s'.model.nodeStartIP = naming.startIP := by
  obtain ⟨naming', s₁, hnaming, h⟩ := returns_bind.mp h
  obtain ⟨_, s₂, hset₁, h⟩ := returns_bind.mp h
  obtain ⟨topology', s₃, htopology, h⟩ := returns_bind.mp h
  obtain ⟨_, s₄, hset₂, h⟩ := returns_bind.mp h
  obtain ⟨quantity, s₅, hquantity, h⟩ := returns_bind.mp h
  obtain ⟨_, s₆, hset₃, h⟩ := returns_bind.mp h
  obtain ⟨hpair, rfl⟩ := returns_pure.mp h
  obtain ⟨rfl, rfl⟩ := Prod.mk.inj hpair
  have hscript₂ := congrArg Session.script (returns_setModel.mp hset₁)
  have hscript₄ := congrArg Session.script (returns_setModel.mp hset₂)
  have htyped₁ := typed_of_returns_askFor hnaming
  have htyped₂ := typed_of_returns_askFor htopology
  have htyped₃ := typed_of_returns_askFor hquantity
  rw [hscript₂] at htyped₂
  rw [hscript₄] at htyped₃
  refine ⟨s₁.script, s₃.script, htyped₁, htyped₂, ?_, ?_⟩
  · rw [returns_setModel.mp hset₃]
    exact htyped₃
  · rw [returns_setModel.mp hset₃, (returns_askFor hquantity).1, returns_setModel.mp hset₂,
      (returns_askFor htopology).1, returns_setModel.mp hset₁]
    rfl

theorem length_typedNodes {start : BitVec 32} {indices : List Nat} {script : List Answer}
    {entries : List (String × Option Address)}
    (h : typedNodes start indices script = some entries) : entries.length = indices.length := by
  induction indices generalizing script entries with
  | nil =>
    obtain rfl := Option.some.inj h
    rfl
  | cons index indices ih =>
    rw [typedNodes] at h
    obtain ⟨⟨entry, rest⟩, -, h⟩ := Option.bind_eq_some_iff.mp h
    obtain ⟨others, hothers, h⟩ := Option.bind_eq_some_iff.mp h
    obtain rfl := Option.some.inj h
    rw [List.length_cons, List.length_cons, ih hothers]

/-- The model with what the three forms set. -/
def Cluster.setInventory (model : Cluster) (inventory : TypedInventory) : Cluster :=
  { (model.setNaming inventory.naming).setTopology inventory.topology with
    nodeQuantity := inventory.entries.length }

/-- A step that returns sets what is typed and adds the nodes that are built from it. No address
is zero. -/
structure Entered (inventory : TypedInventory) (start : BitVec 32) (cpu : CPU) (network : Network)
    (before after : Cluster) : Prop where
  startIP : inventory.naming.startIP = .v4 start
  topology : CPU.ofTopology inventory.topology.sockets inventory.topology.coresPerSocket
    inventory.topology.threadsPerCore = .ok cpu
  management : before.getNetwork .Management = .ok network
  nonzero : ∀ index < inventory.entries.length, start + BitVec.ofNat 32 index ≠ 0#32
  model : after = (before.setInventory inventory).addBuilt
    (builtNodes
      { os := before.getComputeNodeOS, cpu, network, bmcStartIP := inventory.naming.bmcStartIP }
      (before.setInventory inventory) start (List.range inventory.entries.length)
      inventory.entries)

namespace Entered

variable {inventory : TypedInventory} {start : BitVec 32} {cpu : CPU} {network : Network}
  {before after : Cluster} (h : Entered inventory start cpu network before after)

include h

theorem nodes : after.nodes = before.nodes ++ builtNodes
    { os := before.getComputeNodeOS, cpu, network, bmcStartIP := inventory.naming.bmcStartIP }
    (before.setInventory inventory) start (List.range inventory.entries.length)
    inventory.entries := by
  rw [h.model]
  rfl

theorem keeps : after.headnode = before.headnode ∧ after.networks = before.networks := by
  simp only [h.model, Cluster.addBuilt, Cluster.setInventory, Cluster.setTopology,
    Cluster.setNaming, and_self]

end Entered

theorem entered_of_returns (h : Returns presenterNodes s () s') :
    ∃ inventory start cpu network, typedInventory s.script = some inventory ∧
      Entered inventory start cpu network s.model s'.model := by
  obtain ⟨⟨naming, topology⟩, s₁, hforms, h⟩ := returns_bind.mp h
  obtain ⟨cpu, s₂, hlift, h⟩ := returns_bind.mp h
  obtain ⟨hcpu, rfl⟩ := returns_lift.mp hlift
  obtain ⟨model, s₃, hget, h⟩ := returns_bind.mp h
  obtain ⟨rfl, rfl⟩ := returns_getModel.mp hget
  obtain ⟨rest, rest', hnaming, htopology, hquantity, hstart⟩ := typed_of_returns_nodeForms hforms
  obtain ⟨quantity, hmodel⟩ := returns_nodeForms hforms
  have hpositive : 0 < s₃.model.nodeQuantity := by
    obtain ⟨values, hvalues⟩ := exists_of_typed hquantity
    obtain ⟨parsed, -, hparsed⟩ := Option.bind_eq_some_iff.mp hvalues
    split at hparsed
    · rename_i hpos
      rwa [← Option.some.inj hparsed]
    · cases hparsed
  split at h
  · exact absurd h returns_raise
  · rename_i network hnetwork
    cases haddress : naming.startIP with
    | v6 bits scope =>
      rw [← Nat.succ_pred_eq_of_pos hpositive, List.range_succ_eq_map] at h
      obtain ⟨_, s₄, hfirst, -⟩ := returns_bind.mp h
      obtain ⟨nodeAddress, hoffset, -⟩ := returns_enterNode hfirst
      rw [hstart, haddress] at hoffset
      cases hoffset
    | v4 start =>
      rw [haddress] at hstart
      obtain ⟨hzero, entries, hentries, hlast⟩ := returns_enterNodes hstart h
      have hlength : entries.length = s₃.model.nodeQuantity := by
        rw [length_typedNodes hentries, List.length_range]
      have hset : s₃.model = s.model.setInventory { naming, topology, entries } := by
        rw [hmodel] at hlength ⊢
        rw [Cluster.setInventory, hlength]
      have hos : s₃.model.getComputeNodeOS = s.model.getComputeNodeOS := by
        rw [hset]
        rfl
      refine ⟨{ naming, topology, entries }, start, cpu, network, ?_, haddress, hcpu, ?_, ?_, ?_⟩
      · rw [typedInventory, hnaming]
        change (typed 8 parseTopology rest).bind _ = _
        rw [htopology]
        change (typed 1 parseQuantity rest').bind _ = _
        rw [hquantity, Option.bind_some, haddress]
        change (typedNodes start (List.range s₃.model.nodeQuantity) s₃.script).bind _ = _
        rw [hentries]
        rfl
      · rw [hset] at hnetwork
        exact hnetwork
      · intro index hindex
        exact hzero index (List.mem_range.mpr (hlength ▸ hindex))
      · dsimp only
        rw [hlast, hlength, ← hset, hos]

/-- What the forms have checked. -/
structure TypedInventory.Checked (inventory : TypedInventory) : Prop where
  nodePrefix : startsWithLetter inventory.naming.nodePrefix = true
  padding : inventory.naming.padding ≤ 3
  sockets : inventory.topology.sockets < sizeLimit
  coresPerSocket : inventory.topology.coresPerSocket < sizeLimit
  threadsPerCore : inventory.topology.threadsPerCore < sizeLimit
  realMemory : inventory.topology.realMemory < sizeLimit
  serialPort : inventory.topology.serialPort < sizeLimit
  serialSpeed : inventory.topology.serialSpeed < sizeLimit
  entries : inventory.entries ≠ []
  macAddresses : ∀ entry ∈ inventory.entries, Connection.validateMAC entry.1 = .ok ()

theorem macAddresses_typedNodes {start : BitVec 32} {indices : List Nat} {script : List Answer}
    {entries : List (String × Option Address)}
    (h : typedNodes start indices script = some entries) :
    ∀ entry ∈ entries, Connection.validateMAC entry.1 = .ok () := by
  induction indices generalizing script entries with
  | nil =>
    obtain rfl := Option.some.inj h
    exact List.forall_mem_nil _
  | cons index indices ih =>
    rw [typedNodes] at h
    obtain ⟨⟨entry, rest⟩, hentry, h⟩ := Option.bind_eq_some_iff.mp h
    obtain ⟨others, hothers, h⟩ := Option.bind_eq_some_iff.mp h
    obtain rfl := Option.some.inj h
    obtain ⟨fields, hfields⟩ := exists_of_typed hentry
    obtain ⟨hmac, bmc, -, rfl⟩ := nodeEntry_eq_some.mp hfields
    exact List.forall_mem_cons.mpr ⟨hmac, ih hothers⟩

theorem of_parseNaming {fields : Vector String 6} {naming : NodeNaming}
    (h : parseNaming fields = some naming) :
    startsWithLetter naming.nodePrefix = true ∧ naming.padding ≤ 3 := by
  unfold parseNaming at h
  simp only [bind, Option.bind_eq_some_iff, Option.guard_eq_some'] at h
  obtain ⟨-, hletter, padding, -, -, hpadding, startIP, -, h⟩ := h
  split at h
  · simp only [Option.bind_eq_some_iff, Option.guard_eq_some'] at h
    obtain ⟨bmcStartIP, -, -, -, -, -, h⟩ := h
    obtain rfl := Option.some.inj h
    exact ⟨hletter, hpadding⟩
  · simp only [Option.bind_eq_some_iff, Option.guard_eq_some'] at h
    obtain ⟨bmcStartIP, -, -, -, -, -, h⟩ := h
    obtain rfl := Option.some.inj h
    exact ⟨hletter, hpadding⟩

theorem checked_of_typedInventory {script : List Answer} {inventory : TypedInventory}
    (h : typedInventory script = some inventory) : inventory.Checked := by
  obtain ⟨⟨naming, rest⟩, hnaming, h⟩ := Option.bind_eq_some_iff.mp h
  obtain ⟨⟨topology, rest'⟩, htopology, h⟩ := Option.bind_eq_some_iff.mp h
  obtain ⟨⟨quantity, rest''⟩, hquantity, h⟩ := Option.bind_eq_some_iff.mp h
  dsimp only at h
  split at h
  · cases h
  · obtain ⟨entries, hentries, h⟩ := Option.bind_eq_some_iff.mp h
    obtain rfl := Option.some.inj h
    obtain ⟨nameFields, hname⟩ := exists_of_typed hnaming
    obtain ⟨topologyFields, hnumbers⟩ := exists_of_typed htopology
    obtain ⟨quantityField, hcount⟩ := exists_of_typed hquantity
    have hquantity : 0 < quantity := by
      obtain ⟨parsed, -, hparsed⟩ := Option.bind_eq_some_iff.mp hcount
      split at hparsed
      · rename_i hpos
        rwa [← Option.some.inj hparsed]
      · cases hparsed
    have hlength := length_typedNodes hentries
    rw [List.length_range] at hlength
    obtain ⟨hletter, hpadding⟩ := of_parseNaming hname
    unfold parseTopology at hnumbers
    simp only [bind, Option.bind_eq_some_iff] at hnumbers
    obtain ⟨sockets, hsockets, cores, hcores, threads, hthreads, memory, hmemory, port, hport, speed,
      hspeed, hnumbers⟩ := hnumbers
    obtain rfl := Option.some.inj hnumbers
    refine ⟨hletter, hpadding, lexicalCast_lt hsockets, lexicalCast_lt hcores,
      lexicalCast_lt hthreads, lexicalCast_lt hmemory, lexicalCast_lt hport, lexicalCast_lt hspeed,
      ?_, macAddresses_typedNodes hentries⟩
    rintro rfl
    exact absurd hlength (Nat.ne_of_lt hquantity)

/-- The plan is a part of what is typed. -/
theorem typedPlan_of_inventory {script : List Answer} {inventory : TypedInventory}
    {start : BitVec 32} (h : typedInventory script = some inventory)
    (hstart : inventory.naming.startIP = .v4 start) :
    typedPlan script = some { start, entries := inventory.entries } := by
  obtain ⟨⟨naming, rest⟩, hnaming, h⟩ := Option.bind_eq_some_iff.mp h
  obtain ⟨⟨topology, rest'⟩, htopology, h⟩ := Option.bind_eq_some_iff.mp h
  obtain ⟨⟨quantity, rest''⟩, hquantity, h⟩ := Option.bind_eq_some_iff.mp h
  rw [typedPlan, hnaming]
  change (typed 8 parseTopology rest).bind _ = _
  rw [htopology]
  change (typed 1 parseQuantity rest').bind _ = _
  rw [hquantity, Option.bind_some]
  dsimp only at h ⊢
  split at h
  · cases h
  · rename_i start' haddress
    obtain ⟨entries, hentries, h⟩ := Option.bind_eq_some_iff.mp h
    obtain rfl := Option.some.inj h
    obtain rfl := Address.v4.inj (haddress.symm.trans hstart)
    change (typedNodes start' (List.range quantity) rest'').bind _ = _
    rw [hentries]
    rfl

/-- The nodes that a step adds are built from what is typed, and no address is zero. -/
theorem typedPlan_of_returns (h : Returns presenterNodes s () s') :
    ∃ template plan model, typedPlan s.script = some plan ∧
      (∀ index < plan.entries.length, plan.start + BitVec.ofNat 32 index ≠ 0#32) ∧
      s'.model.headnode = s.model.headnode ∧ s'.model.networks = s.model.networks ∧
      s'.model.nodes = s.model.nodes ++
        builtNodes template model plan.start (List.range plan.entries.length) plan.entries := by
  obtain ⟨inventory, start, cpu, network, hinventory, hentered⟩ := entered_of_returns h
  obtain ⟨hheadnode, hnetworks⟩ := hentered.keeps
  exact ⟨_, _, _, typedPlan_of_inventory hinventory hentered.startIP, hentered.nonzero, hheadnode,
    hnetworks, hentered.nodes⟩

/-! ## The plan -/

def Node.addresses (node : Node) : List Address := node.connections.map (·.address)

def Node.bmcAddresses (node : Node) : List String := (node.bmc.map (·.address)).toList

/-- An address of the subnet that is neither its first nor its last one. -/
def Network.HasHost (network : Network) (address : Address) : Prop :=
  ∃ base mask host, network.address = .v4 base ∧ network.subnetMask = .v4 mask ∧
    address = .v4 host ∧ host &&& mask = base &&& mask ∧
    host ≠ base &&& mask ∧ host ≠ base ||| ~~~mask

namespace Cluster

def nodeAddresses (model : Cluster) : List Address := model.nodes.flatMap Node.addresses

def bmcAddresses (model : Cluster) : List String := model.nodes.flatMap Node.bmcAddresses

/-- A host of the management network that is not taken by the head node or the gateway. -/
def FreeHost (model : Cluster) (address : Address) : Prop :=
  ∃ network, model.getNetwork .Management = .ok network ∧ network.HasHost address ∧
    address ≠ network.gateway ∧
    ∀ connection, model.headnode.getConnection .Management = some connection →
      address ≠ connection.address

end Cluster

/-- The nodes that are added count from the first address up; every node is on a free host, and no
BMC has the address of a node. -/
structure AddressPlan (start : BitVec 32) (before after : Cluster) : Prop where
  numbered : ∃ added, after.nodes = before.nodes ++ added ∧
    ∀ (i : Nat) (hi : i < added.length), ∃ bits, added[i].addresses = [.v4 bits] ∧
      bits.toNat = start.toNat + i
  hosts : ∀ address ∈ after.nodeAddresses, after.FreeHost address
  separate : ∀ address ∈ after.nodeAddresses, address.toText ∉ after.bmcAddresses

namespace TypedPlan

/-- The addresses that are counted, one for each entry. -/
def addresses (plan : TypedPlan) : List Address :=
  (List.range plan.entries.length).map fun index => .v4 (plan.start + BitVec.ofNat 32 index)

def bmcAddresses (plan : TypedPlan) : List String :=
  plan.entries.flatMap fun entry => (entry.2.map Address.toText).toList

/-- The counted addresses and those of the nodes before are free hosts, and no BMC has one. -/
structure Free (plan : TypedPlan) (before : Cluster) : Prop where
  hosts : ∀ address ∈ before.nodeAddresses ++ plan.addresses, before.FreeHost address
  separate : ∀ address ∈ before.nodeAddresses ++ plan.addresses,
    address.toText ∉ before.bmcAddresses ++ plan.bmcAddresses

end TypedPlan

omit [Inet6] in
/-- Without a zero in between, the addresses are counted without an overflow. -/
theorem toNat_start_add {start : BitVec 32} {count : Nat}
    (h : ∀ index < count, start + BitVec.ofNat 32 index ≠ 0#32) {index : Nat} (hi : index < count) :
    (start + BitVec.ofNat 32 index).toNat = start.toNat + index := by
  apply toNat_add_offset
  by_contra hover
  have hlt := start.isLt
  have hzero := h (2 ^ 32 - start.toNat) (by omega)
  apply hzero
  apply BitVec.eq_of_toNat_eq
  rw [BitVec.toNat_add, BitVec.toNat_ofNat, Nat.add_mod_mod, Nat.add_sub_cancel' (by omega)]
  rfl

omit [Inet6] in
/-- The boundaries of the plan in a subnet that begins at its first address. -/
theorem hasHost_iff {network : Network} {base host : BitVec 32} {n : Nat}
    (haddress : network.address = .v4 base) (hmask : network.subnetMask = .v4 (prefixMask n))
    (hbase : base &&& prefixMask n = base) :
    network.HasHost (.v4 host) ↔
      base.toNat < host.toNat ∧ host.toNat + 1 < base.toNat + blockSize n := by
  have hlast := toNat_or_not_prefixMask hbase
  have hpos := blockSize_pos n
  unfold Network.HasHost
  constructor
  · rintro ⟨base', mask, host', hbase', hmask', hhost, hsame, hfirst, hbroadcast⟩
    rw [haddress] at hbase'
    rw [hmask] at hmask'
    cases hbase'
    cases hmask'
    cases hhost
    rw [hbase] at hsame hfirst
    have hblock := (and_prefixMask_eq_iff hbase).mp hsame
    have hgt : host.toNat ≠ base.toNat := fun h => hfirst (BitVec.eq_of_toNat_eq h)
    have hne : host.toNat ≠ base.toNat + (blockSize n - 1) := by
      rw [← hlast]
      exact fun h => hbroadcast (BitVec.eq_of_toNat_eq h)
    omega
  · rintro ⟨hgt, hlt⟩
    refine ⟨base, prefixMask n, host, haddress, hmask, rfl, ?_, ?_, ?_⟩
    · rw [hbase]
      exact (and_prefixMask_eq_iff hbase).mpr (by omega)
    · rw [hbase]
      rintro rfl
      omega
    · rintro rfl
      omega

/-! ## What the added nodes have -/

section

variable {γ : Type} {template : NodeTemplate} {model : Cluster} {start : BitVec 32}
  {indices : List Nat} {entries : List (String × Option Address)} {f : Node → γ}

/-- What a node has from its index. -/
theorem map_builtNodes_of_index {g : Nat → γ}
    (hf : ∀ index entry,
      f (builtNode template model index (.v4 (start + BitVec.ofNat 32 index)) entry) = g index)
    (h : entries.length = indices.length) :
    (builtNodes template model start indices entries).map f = indices.map g := by
  induction indices generalizing entries with
  | nil => rfl
  | cons index indices ih =>
    cases entries with
    | nil => cases h
    | cons entry entries => exact congrArg₂ List.cons (hf index entry) (ih (Nat.succ.inj h))

/-- What a node has from its entry. -/
theorem map_builtNodes_of_entry {g : String × Option Address → γ}
    (hf : ∀ index entry,
      f (builtNode template model index (.v4 (start + BitVec.ofNat 32 index)) entry) = g entry)
    (h : entries.length = indices.length) :
    (builtNodes template model start indices entries).map f = entries.map g := by
  induction indices generalizing entries with
  | nil =>
    obtain rfl := List.eq_nil_of_length_eq_zero h
    rfl
  | cons index indices ih =>
    cases entries with
    | nil => cases h
    | cons entry entries => exact congrArg₂ List.cons (hf index entry) (ih (Nat.succ.inj h))

variable (template model start)

theorem addresses_builtNodes (h : entries.length = indices.length) :
    (builtNodes template model start indices entries).map Node.addresses =
      indices.map fun index => [.v4 (start + BitVec.ofNat 32 index)] :=
  map_builtNodes_of_index (fun _ _ => rfl) h

theorem bmcAddresses_builtNodes (h : entries.length = indices.length) :
    (builtNodes template model start indices entries).map Node.bmcAddresses =
      entries.map fun entry => (entry.2.map Address.toText).toList := by
  refine map_builtNodes_of_entry (fun index entry => ?_) h
  obtain ⟨mac, bmc⟩ := entry
  cases bmc with
  | none => rfl
  | some address => rfl

end

/-- A step that returns numbers the nodes as it should. The addresses are free exactly when those
that are counted and typed are. -/
theorem addressPlan_iff {s s' : Session Cluster} (h : Returns presenterNodes s () s') :
    ∃ plan, typedPlan s.script = some plan ∧
      (AddressPlan plan.start s.model s'.model ↔ plan.Free s.model) := by
  obtain ⟨template, plan, model, hplan, hzero, hheadnode, hnetworks, hnodes⟩ :=
    typedPlan_of_returns h
  have hlength : plan.entries.length = (List.range plan.entries.length).length :=
    List.length_range.symm
  have hadded := addresses_builtNodes template model plan.start hlength
  have hbmc := bmcAddresses_builtNodes template model plan.start hlength
  have haddresses : s'.model.nodeAddresses = s.model.nodeAddresses ++ plan.addresses := by
    rw [Cluster.nodeAddresses, hnodes, List.flatMap_append, List.flatMap_def (l := builtNodes ..),
      hadded, ← List.flatMap_def, ← List.map_eq_flatMap]
    rfl
  have hbmcs : s'.model.bmcAddresses = s.model.bmcAddresses ++ plan.bmcAddresses := by
    rw [Cluster.bmcAddresses, hnodes, List.flatMap_append, List.flatMap_def (l := builtNodes ..),
      hbmc, ← List.flatMap_def]
    rfl
  have hfree : ∀ address, s'.model.FreeHost address ↔ s.model.FreeHost address := by
    intro address
    unfold Cluster.FreeHost Cluster.getNetwork
    rw [hheadnode, hnetworks]
  refine ⟨plan, hplan, ?_, ?_⟩
  · rintro ⟨-, hhosts, hseparate⟩
    rw [haddresses] at hhosts hseparate
    rw [hbmcs] at hseparate
    exact ⟨fun address ha => (hfree address).mp (hhosts address ha), hseparate⟩
  · rintro ⟨hhosts, hseparate⟩
    rw [← haddresses] at hhosts hseparate
    rw [← hbmcs] at hseparate
    refine ⟨⟨_, hnodes, fun i hi => ?_⟩, fun address ha => (hfree address).mpr (hhosts address ha),
      hseparate⟩
    have hcount := congrArg List.length hadded
    rw [List.length_map, List.length_map, List.length_range] at hcount
    have hat := List.getElem_of_eq hadded (i := i) (by rwa [List.length_map])
    rw [List.getElem_map, List.getElem_map, List.getElem_range] at hat
    exact ⟨_, hat, toNat_start_add hzero (hcount ▸ hi)⟩

end

/-- The answers of a step with two nodes. -/
def twoNodes (startIP firstBMC : String) : Session Cluster where
  model := managementModel
  script :=
    [.fields ["n", "2", startIP, "192.168.31.1", "labroot", "labroot"],
      .fields ["1", "8", "2", "32768", "admin", "secret", "1", "115200"],
      .fields ["2"],
      .fields ["52:54:00:00:20:11", firstBMC],
      .fields ["52:54:00:00:20:12", ""]]

/-- The model behind the step. -/
def modelOfTwoNodes (startIP firstBMC : String) : Cluster :=
  (@presenterNodes plainInet6 (twoNodes startIP firstBMC)).2.model

theorem freeHost_managementModel {host : BitVec 32} (hgt : 0xc0a81e00#32 < host)
    (hlt : host < 0xc0a81efe#32) : managementModel.FreeHost (.v4 host) := by
  refine ⟨_, rfl, ?_, ?_, ?_⟩
  · refine (@hasHost_iff _ 0xc0a81e00#32 _ 24 rfl rfl (by decide)).mpr ?_
    have hsize : blockSize 24 = 256 := rfl
    rw [hsize]
    bv_omega
  · intro hgateway
    cases hgateway
    exact absurd hgt (by decide)
  · intro connection hconnection haddress
    obtain rfl := Option.some.inj hconnection
    cases haddress
    exact absurd hlt (by decide)

theorem addressPlan_twoNodes :
    ∃ plan, @typedPlan plainInet6 (twoNodes "192.168.30.101" "192.168.31.1").script = some plan ∧
      @AddressPlan plainInet6 plan.start managementModel
        (modelOfTwoNodes "192.168.30.101" "192.168.31.1") := by
  obtain ⟨plan, hplan, hiff⟩ := @addressPlan_iff plainInet6
    (twoNodes "192.168.30.101" "192.168.31.1") _ (returns_of_fst (by decide +kernel))
  refine ⟨plan, hplan, hiff.mpr ?_⟩
  have htyped : @typedPlan plainInet6 (twoNodes "192.168.30.101" "192.168.31.1").script = some
      { start := 0xc0a81e65#32
        entries :=
          [("52:54:00:00:20:11", some (.v4 0xc0a81f01#32)), ("52:54:00:00:20:12", none)] } := by
    decide +kernel
  obtain rfl := Option.some.inj (hplan.symm.trans htyped)
  refine @TypedPlan.Free.mk plainInet6 _ _ ?_ (by decide +kernel)
  have hbefore : managementModel.nodeAddresses = [] := rfl
  intro address haddress
  change address ∈ managementModel.nodeAddresses ++ _ at haddress
  rw [hbefore, List.nil_append] at haddress
  obtain ⟨index, hindex, rfl⟩ := List.mem_map.mp haddress
  have hlt : index < 2 := List.mem_range.mp hindex
  apply freeHost_managementModel
  · bv_omega
  · bv_omega

/-- The range runs into the head node, which is the BMC of the first node, too. -/
theorem range_runs_into_headnode :
    (∃ s', Returns (@presenterNodes plainInet6) (twoNodes "192.168.30.253" "192.168.30.254") () s' ∧
      s'.model = modelOfTwoNodes "192.168.30.253" "192.168.30.254") ∧
    ¬ @AddressPlan plainInet6 0xc0a81efd#32 managementModel
      (modelOfTwoNodes "192.168.30.253" "192.168.30.254") := by
  refine ⟨⟨_, returns_of_fst (by decide +kernel), rfl⟩, ?_⟩
  intro plan
  exact @AddressPlan.separate plainInet6 _ _ _ plan (.v4 0xc0a81efe#32) (by decide +kernel)
    (by decide +kernel)

end OpenCattus
