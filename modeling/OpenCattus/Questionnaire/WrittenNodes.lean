import Mathlib.Data.List.Perm.Basic
import OpenCattus.Cluster.Topology
import OpenCattus.Questionnaire.AddressPlan

/-!
# The nodes of a finished questionnaire

What the nodes step leaves is written to the sections of the generic node and of the numbered
ones. The forms check the numbers of the topology and the texts of the addresses, but neither that
the memory and the speed of the serial line are not zero, nor the root password and the
credentials of the BMCs, nor that an address is only used once.

`Entered.loadable_iff` says that nothing else is missing for the answerfile to accept them.
-/

namespace OpenCattus

open Foundations Foundations.Text Foundations.Inet Program Dialog

section

variable [Inet6]

/-! ## One node -/

section

variable {node : Node} {generic : AFNode}

/-- The credentials of a BMC are its own, or those of the generic node. -/
def BorrowsNothing (generic : AFNode) (node : Node) : Prop :=
  ∀ bmc ∈ node.bmc, bmc.address ≠ "" ∧ generic.bmcUsername = some bmc.username ∧
    generic.bmcPassword = some bmc.password

omit [Inet6] in
theorem complete_of_resolved (hstart : isSpecified node.nodeStartIp = true)
    (hown : BorrowsNothing generic node)
    (h : ResolvedNode (reloadedNode generic (Cluster.dumpNode node))) : node.Complete := by
  refine ⟨hstart, fun bmc hbmc => ?_⟩
  obtain ⟨haddress, huser, hpassword⟩ := hown bmc hbmc
  have hhas : hasText (some bmc.address) = true := hasText_some.mpr haddress
  have hsame : ∀ {own : String} {g : Option String}, g = some own →
      inheritText (some own) g = some own := by
    rintro own g rfl
    unfold inheritText
    split <;> rfl
  have hbmcs := h.bmc
  unfold reloadedNode resolveNode AFNode.raw resolveBMC at hbmcs
  simp only [Cluster.dumpNode, Option.mem_def.mp hbmc, Option.map_some, Option.getD_some, hhas,
    Bool.true_or, if_true, hsame huser, hsame hpassword, hasText_inheritText_of_own hhas,
    hasText_some, forall_const] at hbmcs
  exact ⟨haddress, hbmcs.1, hbmcs.2.1⟩

omit [Inet6] in
/-- A written node whose numbers are in range is accepted when it is complete, and the generic
node has a root password. -/
theorem resolved_dumpNode_iff (hstart : isSpecified node.nodeStartIp = true)
    (hown : BorrowsNothing generic node) (hgeneric : hasText generic.bmcAddress = false) :
    ResolvedNode (reloadedNode generic (Cluster.dumpNode node)) ↔
      node.Complete ∧ ResolvedNode (node.reread generic.rootPassword) := by
  constructor
  · intro h
    have hcomplete := complete_of_resolved hstart hown h
    rw [reloadedNode_dumpNode hcomplete hgeneric] at h
    exact ⟨hcomplete, h⟩
  · rintro ⟨hcomplete, h⟩
    rwa [reloadedNode_dumpNode hcomplete hgeneric]

end

/-! ## The inventory of complete nodes -/

/-- Nodes that are written with a host name and a MAC address are distinct when these are, and the
addresses of the nodes and of the BMCs. -/
theorem distinct_reread_iff {nodes : List Node} {rootPassword : Option String}
    (hnamed : ∀ node ∈ nodes, node.hostname ≠ "") (hmac : ∀ node ∈ nodes, node.macAddress ≠ "")
    (hstart : ∀ node ∈ nodes, isSpecified node.nodeStartIp = true)
    (hbmc : ∀ node ∈ nodes, ∀ bmc ∈ node.bmc, bmc.address ≠ "") :
    DistinctInventory (nodes.map (Node.reread rootPassword)) ↔
      (nodes.map Node.hostname).Nodup ∧ (nodes.map fun node => lower node.macAddress).Nodup ∧
        (nodes.flatMap (fun node => (node.nodeStartIp.map Address.toText).toList) ++
          nodes.flatMap Node.bmcAddresses).Nodup := by
  have htext : ∀ {text : String}, text ≠ "" → remembered (some text) = [text] := by
    intro text hne
    rw [remembered, if_neg hne]
  have hosts : (nodes.map (Node.reread rootPassword)).flatMap
      (fun node => remembered node.hostname) = nodes.map Node.hostname := by
    rw [List.flatMap_map, List.map_eq_flatMap]
    exact List.flatMap_congr fun node hnode => htext (hnamed node hnode)
  have macs : (nodes.map (Node.reread rootPassword)).flatMap
      (fun node => remembered (node.macAddress.map lower)) =
        nodes.map fun node => lower node.macAddress := by
    rw [List.flatMap_map, List.map_eq_flatMap]
    exact List.flatMap_congr fun node hnode => htext (lower_eq_empty.not.mpr (hmac node hnode))
  have addresses : (nodes.map (Node.reread rootPassword)).flatMap occupiedAddresses =
      nodes.flatMap fun node =>
        (node.nodeStartIp.map Address.toText).toList ++ node.bmcAddresses := by
    rw [List.flatMap_map]
    refine List.flatMap_congr fun node hnode => ?_
    obtain ⟨ip, hip, hspecified⟩ : ∃ ip, node.nodeStartIp = some ip ∧ ip.isUnspecified = false := by
      simpa [isSpecified, Option.any_eq_true] using hstart node hnode
    unfold occupiedAddresses nodeAddressText Node.bmcAddresses
    congr 1
    · simp [Node.reread, hip, Option.filter_some, hspecified, htext ip.toText_ne_empty]
    · cases hb : node.bmc with
      | none => simp [Node.reread, hb]
      | some bmc => simp [Node.reread, hb, htext (hbmc node hnode bmc hb)]
  have hperm := List.flatMap_append_perm nodes
    (fun node => (node.nodeStartIp.map Address.toText).toList) Node.bmcAddresses
  constructor
  · rintro ⟨h₁, h₂, h₃⟩
    rw [hosts] at h₁
    rw [macs] at h₂
    rw [addresses] at h₃
    exact ⟨h₁, h₂, hperm.nodup_iff.mpr h₃⟩
  · rintro ⟨h₁, h₂, h₃⟩
    refine ⟨hosts ▸ h₁, macs ▸ h₂, ?_⟩
    rw [addresses]
    exact hperm.nodup_iff.mp h₃

/-! ## The nodes of a step -/

/-- What the answerfile asks of the nodes that are typed. -/
structure TypedInventory.Accepted (inventory : TypedInventory) (start : BitVec 32) : Prop where
  rootPassword : inventory.naming.rootPassword ≠ ""
  realMemory : inventory.topology.realMemory ≠ 0
  serialSpeed : inventory.topology.serialSpeed ≠ 0
  credentials : ∀ entry ∈ inventory.entries, entry.2.isSome = true →
    inventory.topology.bmcUsername ≠ "" ∧ inventory.topology.bmcPassword ≠ ""
  macAddresses : (inventory.entries.map fun entry => lower entry.1).Nodup
  addresses : (TypedPlan.addresses ⟨start, inventory.entries⟩ ++
    inventory.entries.filterMap Prod.snd).Nodup

omit [Inet6] in
/-- The numbers of the generic node are in range, and only the padding and the port may be zero. -/
theorem loadableGeneric_dumpGenericNode {model : Cluster} :
    model.dumpGenericNode.LoadableGeneric ↔
      (model.nodeSockets < sizeLimit ∧ model.nodeSockets ≠ 0) ∧
        (model.nodeCoresPerSocket < sizeLimit ∧ model.nodeCoresPerSocket ≠ 0) ∧
          (model.nodeThreadsPerCore < sizeLimit ∧ model.nodeThreadsPerCore ≠ 0) ∧
            (model.nodeCPUsPerNode < sizeLimit ∧ model.nodeCPUsPerNode ≠ 0) ∧
              (model.nodeRealMemory < sizeLimit ∧ model.nodeRealMemory ≠ 0) ∧
                (model.nodeBMCSerialSpeed < sizeLimit ∧ model.nodeBMCSerialSpeed ≠ 0) ∧
                  model.nodePadding < sizeLimit ∧ model.nodeBMCSerialPort < sizeLimit := by
  have hpositive : ∀ {n : Nat}, (some (decimal n)).any (isUnsigned false) = true ↔
      n < sizeLimit ∧ n ≠ 0 := by
    intro n
    simp [isUnsigned_decimal]
  have hany : ∀ {n : Nat}, (some (decimal n)).any (isUnsigned true) = true ↔ n < sizeLimit := by
    intro n
    simp [isUnsigned_decimal]
  constructor
  · intro h
    exact ⟨hpositive.mp h.sockets, hpositive.mp h.coresPerSocket, hpositive.mp h.threadsPerCore,
      hpositive.mp h.cpusPerNode, hpositive.mp h.realMemory, hpositive.mp h.bmcSerialspeed,
      hany.mp h.padding, hany.mp h.bmcSerialport⟩
  · rintro ⟨hsockets, hcores, hthreads, hcpus, hmemory, hspeed, hpadding, hport⟩
    exact ⟨rfl, hany.mpr hpadding, rfl, rfl, hpositive.mpr hsockets, hpositive.mpr hcores,
      hpositive.mpr hcpus, hpositive.mpr hthreads, hpositive.mpr hmemory, rfl, rfl,
      hany.mpr hport, hpositive.mpr hspeed⟩

omit [Inet6] in
theorem buildNodeName_inj {nodePrefix : String} {i j padding : Nat} :
    buildNodeName nodePrefix i padding = buildNodeName nodePrefix j padding ↔ i = j := by
  unfold buildNodeName
  rw [String.append_right_inj, padZero_inj]

omit [Inet6] in
theorem TypedInventory.Checked.macAddress_ne_empty {inventory : TypedInventory}
    (h : inventory.Checked) {entry : String × Option Address} (hentry : entry ∈ inventory.entries) :
    lower entry.1 ≠ "" := by
  rw [ne_eq, lower_eq_empty]
  intro hempty
  have hvalid := h.macAddresses entry hentry
  rw [hempty] at hvalid
  revert hvalid
  decide

namespace Entered

variable {inventory : TypedInventory} {start : BitVec 32} {cpu : CPU} {network : Network}
  {before after : Cluster} (h : Entered inventory start cpu network before after)

include h

theorem dumpGenericNode :
    after.dumpGenericNode = (before.setInventory inventory).dumpGenericNode := by
  rw [h.model]
  rfl

theorem loadableGeneric_iff (hchecked : inventory.Checked) :
    after.dumpGenericNode.LoadableGeneric ↔
      inventory.topology.realMemory ≠ 0 ∧ inventory.topology.serialSpeed ≠ 0 := by
  obtain ⟨hsockets, hcores, hthreads, hcpu⟩ := CPU.ofTopology_eq_ok h.topology
  have htotal := (Cluster.totals_ofTopology h.topology).2
  rw [hcpu] at htotal
  have hpadding : inventory.naming.padding < sizeLimit :=
    Nat.lt_of_le_of_lt hchecked.padding (by decide)
  have hcpus : inventory.topology.sockets * inventory.topology.coresPerSocket *
      inventory.topology.threadsPerCore % sizeLimit < sizeLimit := Nat.mod_lt _ (by decide)
  have hpositive : inventory.topology.sockets * inventory.topology.coresPerSocket *
      inventory.topology.threadsPerCore % sizeLimit ≠ 0 := by
    rw [Nat.mul_comm, Nat.mul_comm inventory.topology.sockets, ← Nat.mul_assoc]
    exact htotal
  rw [h.dumpGenericNode, loadableGeneric_dumpGenericNode]
  constructor
  · rintro ⟨-, -, -, -, hmemory, hspeed, -, -⟩
    exact ⟨hmemory.2, hspeed.2⟩
  · rintro ⟨hmemory, hspeed⟩
    exact ⟨⟨hchecked.sockets, Nat.ne_of_gt hsockets⟩,
      ⟨hchecked.coresPerSocket, Nat.ne_of_gt hcores⟩,
      ⟨hchecked.threadsPerCore, Nat.ne_of_gt hthreads⟩, ⟨hcpus, hpositive⟩,
      ⟨hchecked.realMemory, hmemory⟩, ⟨hchecked.serialSpeed, hspeed⟩, hpadding,
      hchecked.serialPort⟩

/-- Where a node of the step comes from. -/
theorem exists_of_mem (hnone : before.nodes = []) {node : Node} (hnode : node ∈ after.nodes) :
    ∃ index < inventory.entries.length, ∃ entry ∈ inventory.entries,
      node.hostname = buildNodeName inventory.naming.nodePrefix (index + 1)
        inventory.naming.padding ∧
      node.nodeStartIp = some (.v4 (start + BitVec.ofNat 32 index)) ∧
      node.macAddress = lower entry.1 ∧ node.cpu = cpu ∧
      node.bmc = entry.2.map (builtBMC (before.setInventory inventory)) := by
  rw [h.nodes, hnone, List.nil_append, builtNodes, ← List.map_uncurry_zip_eq_zipWith] at hnode
  obtain ⟨⟨index, entry⟩, hmem, rfl⟩ := List.mem_map.mp hnode
  obtain ⟨hindex, hentry⟩ := List.of_mem_zip hmem
  exact ⟨index, List.mem_range.mp hindex, entry, hentry, rfl, rfl, rfl, rfl, rfl⟩

theorem hostname_ne_empty (hnone : before.nodes = []) {node : Node} (hnode : node ∈ after.nodes) :
    node.hostname ≠ "" := by
  obtain ⟨index, -, entry, -, hhostname, -⟩ := h.exists_of_mem hnone hnode
  rw [hhostname, buildNodeName]
  simp

theorem specified_startIp (hnone : before.nodes = []) {node : Node} (hnode : node ∈ after.nodes) :
    isSpecified node.nodeStartIp = true := by
  obtain ⟨index, hindex, entry, -, -, hstart, -⟩ := h.exists_of_mem hnone hnode
  rw [hstart]
  simpa [isSpecified, Address.isUnspecified] using h.nonzero index hindex

theorem borrowsNothing (hnone : before.nodes = []) {node : Node} (hnode : node ∈ after.nodes) :
    BorrowsNothing after.dumpGenericNode.reloadedGeneric node := by
  obtain ⟨index, -, entry, -, -, -, -, -, hbmc⟩ := h.exists_of_mem hnone hnode
  intro bmc hmem
  rw [hbmc] at hmem
  obtain ⟨address, -, rfl⟩ := Option.map_eq_some_iff.mp hmem
  rw [h.dumpGenericNode]
  exact ⟨address.toText_ne_empty, rfl, rfl⟩

section

variable {γ : Type} {f : Node → γ}

theorem map_nodes_of_entry (hnone : before.nodes = []) {g : String × Option Address → γ}
    (hf : ∀ index entry, f (builtNode
      { os := before.getComputeNodeOS, cpu, network, bmcStartIP := inventory.naming.bmcStartIP }
      (before.setInventory inventory) index (.v4 (start + BitVec.ofNat 32 index)) entry) =
        g entry) :
    after.nodes.map f = inventory.entries.map g := by
  rw [h.nodes, hnone, List.nil_append]
  exact map_builtNodes_of_entry hf List.length_range.symm

theorem map_nodes_of_index (hnone : before.nodes = []) {g : Nat → γ}
    (hf : ∀ index entry, f (builtNode
      { os := before.getComputeNodeOS, cpu, network, bmcStartIP := inventory.naming.bmcStartIP }
      (before.setInventory inventory) index (.v4 (start + BitVec.ofNat 32 index)) entry) =
        g index) :
    after.nodes.map f = (List.range inventory.entries.length).map g := by
  rw [h.nodes, hnone, List.nil_append]
  exact map_builtNodes_of_index hf List.length_range.symm

end

/-- Every entry has a node. -/
theorem exists_node (hnone : before.nodes = []) {entry : String × Option Address}
    (hentry : entry ∈ inventory.entries) :
    ∃ node ∈ after.nodes, node.bmc = entry.2.map (builtBMC (before.setInventory inventory)) := by
  have hmap : after.nodes.map Node.bmc = inventory.entries.map fun entry =>
      entry.2.map (builtBMC (before.setInventory inventory)) :=
    h.map_nodes_of_entry hnone fun _ _ => rfl
  rw [← List.mem_map, hmap]
  exact List.mem_map_of_mem hentry

theorem hostnames_nodup (hnone : before.nodes = []) : (after.nodes.map Node.hostname).Nodup := by
  have hmap : after.nodes.map Node.hostname = (List.range inventory.entries.length).map fun index =>
      buildNodeName inventory.naming.nodePrefix (index + 1) inventory.naming.padding :=
    h.map_nodes_of_index hnone fun _ _ => rfl
  rw [hmap]
  exact List.nodup_range.map fun i j hij => Nat.succ.inj (buildNodeName_inj.mp hij)

/-- The texts of the addresses that are compared, nodes first. -/
theorem addresses_eq (hnone : before.nodes = []) :
    after.nodes.flatMap (fun node => (node.nodeStartIp.map Address.toText).toList) ++
        after.nodes.flatMap Node.bmcAddresses =
      (TypedPlan.addresses ⟨start, inventory.entries⟩ ++ inventory.entries.filterMap Prod.snd).map
        Address.toText := by
  have hstarts : after.nodes.map (fun node => (node.nodeStartIp.map Address.toText).toList) =
      (List.range inventory.entries.length).map fun index =>
        [Address.toText (.v4 (start + BitVec.ofNat 32 index))] :=
    h.map_nodes_of_index hnone fun _ _ => rfl
  have hbmcs : after.nodes.map Node.bmcAddresses = inventory.entries.map fun entry =>
      (entry.2.map Address.toText).toList := by
    refine h.map_nodes_of_entry hnone fun index entry => ?_
    obtain ⟨mac, bmc⟩ := entry
    cases bmc with
    | none => rfl
    | some address => rfl
  rw [List.map_append, List.flatMap_def, hstarts, List.flatMap_def, hbmcs, ← List.flatMap_def,
    ← List.flatMap_def, ← List.map_eq_flatMap, List.map_filterMap, List.filterMap_eq_flatMap_toList]
  congr 1
  rw [TypedPlan.addresses, List.map_map]
  rfl

/-- The inventory is distinct when the MAC addresses and all addresses that are typed or counted
are. -/
theorem distinct_iff (hchecked : inventory.Checked) (hnone : before.nodes = [])
    {rootPassword : Option String} :
    DistinctInventory (after.nodes.map (Node.reread rootPassword)) ↔
      (inventory.entries.map fun entry => lower entry.1).Nodup ∧
        (TypedPlan.addresses ⟨start, inventory.entries⟩ ++
          inventory.entries.filterMap Prod.snd).Nodup := by
  have hmacs : after.nodes.map (fun node => lower node.macAddress) =
      inventory.entries.map fun entry => lower entry.1 :=
    h.map_nodes_of_entry hnone fun _ entry => lower_lower entry.1
  have htexts : Function.Injective Address.toText := fun _ _ => Address.toText_inj.mp
  rw [distinct_reread_iff, hmacs, h.addresses_eq hnone, List.nodup_map_iff htexts]
  · exact and_iff_right (h.hostnames_nodup hnone)
  · exact fun node hnode => h.hostname_ne_empty hnone hnode
  · intro node hnode
    obtain ⟨index, -, entry, hentry, -, -, hmac, -⟩ := h.exists_of_mem hnone hnode
    rw [hmac]
    exact hchecked.macAddress_ne_empty hentry
  · exact fun node hnode => h.specified_startIp hnone hnode
  · exact fun node hnode bmc hbmc => (h.borrowsNothing hnone hnode bmc hbmc).1

/-- A node of the step is accepted when the root password and the credentials of its BMC are
given, and the speed of its serial line is not zero. -/
theorem resolved_iff (hchecked : inventory.Checked) (hnone : before.nodes = [])
    {node : Node} (hnode : node ∈ after.nodes) :
    ResolvedNode (reloadedNode after.dumpGenericNode.reloadedGeneric (Cluster.dumpNode node)) ↔
      node.Complete ∧ inventory.naming.rootPassword ≠ "" ∧
        (node.bmc.isSome = true → inventory.topology.serialSpeed ≠ 0) := by
  have hstart := h.specified_startIp hnone hnode
  rw [resolved_dumpNode_iff hstart (h.borrowsNothing hnone hnode) rfl]
  refine and_congr_right fun hcomplete => ?_
  rw [resolvedNode_reread hcomplete]
  obtain ⟨index, -, entry, -, -, -, -, hcpu, hbmc⟩ := h.exists_of_mem hnone hnode
  obtain ⟨hsockets, hcores, hthreads, rfl⟩ := CPU.ofTopology_eq_ok h.topology
  have hpassword : after.dumpGenericNode.reloadedGeneric.rootPassword =
      some inventory.naming.rootPassword := by
    rw [h.dumpGenericNode]
    rfl
  rw [hpassword, hasText_some, hcpu]
  refine and_congr_right fun _ => ?_
  constructor
  · rintro ⟨-, -, -, hall⟩ hsome
    obtain ⟨bmc, hmem⟩ := Option.isSome_iff_exists.mp hsome
    have hspeed := (hall bmc hmem).2
    rw [hbmc] at hmem
    obtain ⟨address, -, rfl⟩ := Option.map_eq_some_iff.mp hmem
    rw [isUnsigned_decimal] at hspeed
    exact hspeed.2.resolve_left (by simp)
  · intro hspeed
    refine ⟨isUnsigned_decimal.mpr ⟨hchecked.sockets, .inr (Nat.ne_of_gt hsockets)⟩,
      isUnsigned_decimal.mpr ⟨hchecked.coresPerSocket, .inr (Nat.ne_of_gt hcores)⟩,
      isUnsigned_decimal.mpr ⟨hchecked.threadsPerCore, .inr (Nat.ne_of_gt hthreads)⟩,
      fun bmc hmem => ?_⟩
    have hnonzero := hspeed (Option.isSome_of_mem hmem)
    rw [hbmc] at hmem
    obtain ⟨address, -, rfl⟩ := Option.map_eq_some_iff.mp hmem
    exact ⟨isUnsigned_decimal.mpr ⟨hchecked.serialPort, .inl rfl⟩,
      isUnsigned_decimal.mpr ⟨hchecked.serialSpeed, .inr hnonzero⟩⟩

theorem complete_iff (hnone : before.nodes = []) :
    (∀ node ∈ after.nodes, node.Complete) ↔ ∀ entry ∈ inventory.entries, entry.2.isSome = true →
      inventory.topology.bmcUsername ≠ "" ∧ inventory.topology.bmcPassword ≠ "" := by
  constructor
  · intro hall entry hentry hsome
    obtain ⟨node, hnode, hbmc⟩ := h.exists_node hnone hentry
    obtain ⟨address, haddress⟩ := Option.isSome_iff_exists.mp hsome
    rw [haddress] at hbmc
    exact ((hall node hnode).bmc _ hbmc).2
  · intro hall node hnode
    refine ⟨h.specified_startIp hnone hnode, fun bmc hmem => ?_⟩
    refine ⟨(h.borrowsNothing hnone hnode bmc hmem).1, ?_⟩
    obtain ⟨index, -, entry, hentry, -, -, -, -, hbmc⟩ := h.exists_of_mem hnone hnode
    rw [hbmc] at hmem
    obtain ⟨address, haddress, rfl⟩ := Option.map_eq_some_iff.mp hmem
    exact hall entry hentry (Option.isSome_of_mem haddress)

theorem length_nodes (hnone : before.nodes = []) :
    after.nodes.length = inventory.entries.length := by
  have hmap : after.nodes.map (fun _ => ()) = inventory.entries.map fun _ => () :=
    h.map_nodes_of_entry hnone fun _ _ => rfl
  simpa using congrArg List.length hmap

/-- No address is zero, so that there are fewer nodes than addresses. -/
theorem length_le (hnone : before.nodes = []) : after.nodes.length ≤ vectorMaxSize := by
  rw [h.length_nodes hnone]
  by_contra hlong
  rw [Nat.not_le] at hlong
  have hlt : 2 ^ 32 - start.toNat < inventory.entries.length :=
    Nat.lt_of_le_of_lt (Nat.sub_le _ _) (Nat.lt_trans (by decide) hlong)
  have hadd := toNat_start_add h.nonzero hlt
  have hbound := (start + BitVec.ofNat 32 (2 ^ 32 - start.toNat)).isLt
  have hstart := start.isLt
  omega

/-- What the forms accept is accepted by the answerfile exactly when it is more than that. -/
theorem loadable_iff (hchecked : inventory.Checked) (hnone : before.nodes = []) :
    AFNodes.Loadable ⟨some after.dumpGenericNode, after.nodes.map Cluster.dumpNode⟩ ↔
      inventory.Accepted start := by
  have hreread : (∀ node ∈ after.nodes, node.Complete) →
      (after.nodes.map Cluster.dumpNode).map (reloadedNode after.dumpGenericNode.reloadedGeneric) =
        after.nodes.map (Node.reread after.dumpGenericNode.reloadedGeneric.rootPassword) := by
    intro hcomplete
    rw [List.map_map]
    exact List.map_congr_left fun node hnode => reloadedNode_dumpNode (hcomplete node hnode) rfl
  constructor
  · intro hl
    obtain ⟨generic, hsome, hgeneric⟩ := hl.generic
    obtain rfl := Option.some.inj hsome
    obtain ⟨hmemory, hspeed⟩ := (h.loadableGeneric_iff hchecked).mp hgeneric
    have hresolved : ∀ node ∈ after.nodes, node.Complete ∧ inventory.naming.rootPassword ≠ "" ∧
        (node.bmc.isSome = true → inventory.topology.serialSpeed ≠ 0) := fun node hnode =>
      (h.resolved_iff hchecked hnone hnode).mp
        (hl.resolved _ rfl _ (List.mem_map_of_mem hnode))
    have hcomplete : ∀ node ∈ after.nodes, node.Complete := fun node hnode =>
      (hresolved node hnode).1
    obtain ⟨entry, hentry⟩ := List.exists_mem_of_ne_nil _ hchecked.entries
    obtain ⟨node, hnode, -⟩ := h.exists_node hnone hentry
    have hdistinct := hl.distinct _ rfl
    rw [hreread hcomplete, h.distinct_iff hchecked hnone] at hdistinct
    exact ⟨(hresolved node hnode).2.1, hmemory, hspeed, (h.complete_iff hnone).mp hcomplete,
      hdistinct.1, hdistinct.2⟩
  · intro haccepted
    have hcomplete := (h.complete_iff hnone).mpr haccepted.credentials
    refine ⟨⟨_, rfl, (h.loadableGeneric_iff hchecked).mpr
      ⟨haccepted.realMemory, haccepted.serialSpeed⟩⟩, ?_, ?_, ?_⟩
    · rw [List.length_map]
      exact h.length_le hnone
    · rintro generic ⟨⟩ node hmem
      obtain ⟨node, hnode, rfl⟩ := List.mem_map.mp hmem
      exact (h.resolved_iff hchecked hnone hnode).mpr
        ⟨hcomplete node hnode, haccepted.rootPassword, fun _ => haccepted.serialSpeed⟩
    · rintro generic ⟨⟩
      rw [hreread hcomplete, h.distinct_iff hchecked hnone]
      exact ⟨haccepted.macAddresses, haccepted.addresses⟩

end Entered

end

end OpenCattus
