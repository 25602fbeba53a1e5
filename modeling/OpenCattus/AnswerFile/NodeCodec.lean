import OpenCattus.AnswerFile.Codec

/-!
# The codec of the node sections

The generic node, one numbered node, and the loop over all of them.

`loadNodes_carries` describes the nodes that a dump reloads to, and `loadNodes_stable`
says that loaded nodes are canonical: inheritance is resolved, so resolving it again
changes nothing.
-/

namespace OpenCattus

open Foundations Foundations.Text Foundations.Inet KeyData

variable [Inet6]

/-! ## The generic node -/

/-- Every key of the generic section is present and the numbers are valid. -/
structure AFNode.LoadableGeneric (generic : AFNode) : Prop where
  nodePrefix : generic.nodePrefix.isSome = true
  padding : generic.padding.any (isUnsigned true) = true
  startIp : generic.startIp.isSome = true
  rootPassword : generic.rootPassword.isSome = true
  sockets : generic.sockets.any (isUnsigned false) = true
  coresPerSocket : generic.coresPerSocket.any (isUnsigned false) = true
  cpusPerNode : generic.cpusPerNode.any (isUnsigned false) = true
  threadsPerCore : generic.threadsPerCore.any (isUnsigned false) = true
  realMemory : generic.realMemory.any (isUnsigned false) = true
  bmcUsername : generic.bmcUsername.isSome = true
  bmcPassword : generic.bmcPassword.isSome = true
  bmcSerialport : generic.bmcSerialport.any (isUnsigned true) = true
  bmcSerialspeed : generic.bmcSerialspeed.any (isUnsigned false) = true

/-- The file has no host name, MAC address or BMC address for the generic node. -/
def AFNode.reloadedGeneric (generic : AFNode) : AFNode :=
  { generic with hostname := none, macAddress := none, bmcAddress := none }

omit [Inet6] in
theorem validateGenericNodeScalars_eq_ok {node : AFNode} {u : Unit} :
    validateGenericNodeScalars node = .ok u ↔
      node.padding.all (isUnsigned true) = true ∧ node.sockets.all (isUnsigned false) = true ∧
        node.coresPerSocket.all (isUnsigned false) = true ∧
          node.cpusPerNode.all (isUnsigned false) = true ∧
            node.threadsPerCore.all (isUnsigned false) = true ∧
              node.realMemory.all (isUnsigned false) = true ∧
                node.bmcSerialport.all (isUnsigned true) = true ∧
                  node.bmcSerialspeed.all (isUnsigned false) = true := by
  unfold validateGenericNodeScalars
  simp only [except_bind_ok, validateUnsignedAnswerfileField_eq_ok, exists_and_left, exists_const]

theorem loadNodeIp_toText {kf : KeyFile} {sectionName : String} {ip : Option Address} {r : Address}
    (h : kf.data.lookup sectionName "node_ip" = ip.map Address.toText) :
    loadNodeIp kf sectionName = .ok r ↔ ip = some r := by
  unfold loadNodeIp KeyFile.getString
  rw [h]
  cases ip with
  | none => simp
  | some a => simp [convertStringToAddress_eq_ok]

theorem loadGenericNode_carries {kf : KeyFile} {generic r : AFNode}
    (h : kf.data.Carries "node" (genericNodeEntries generic)) :
    loadNode kf "node" = .ok r ↔ generic.LoadableGeneric ∧ r = generic.reloadedGeneric := by
  have hkeys : kf.data.lookup "node" "prefix" = generic.nodePrefix ∧
      kf.data.lookup "node" "padding" = generic.padding ∧
      kf.data.lookup "node" "node_root_password" = generic.rootPassword ∧
      kf.data.lookup "node" "sockets" = generic.sockets ∧
      kf.data.lookup "node" "cores_per_socket" = generic.coresPerSocket ∧
      kf.data.lookup "node" "cpus_per_node" = generic.cpusPerNode ∧
      kf.data.lookup "node" "threads_per_core" = generic.threadsPerCore ∧
      kf.data.lookup "node" "real_memory" = generic.realMemory ∧
      kf.data.lookup "node" "bmc_username" = generic.bmcUsername ∧
      kf.data.lookup "node" "bmc_password" = generic.bmcPassword ∧
      kf.data.lookup "node" "bmc_serialport" = generic.bmcSerialport ∧
      kf.data.lookup "node" "bmc_serialspeed" = generic.bmcSerialspeed ∧
      kf.data.lookup "node" "node_ip" = generic.startIp.map Address.toText := by
    simp [h.lookup_eq, genericNodeEntries, assigned]
  obtain ⟨h₁, h₂, h₃, h₄, h₅, h₆, h₇, h₈, h₉, h₁₀, h₁₁, h₁₂, hip⟩ := hkeys
  unfold loadNode loadGenericNode
  simp only [if_true, except_bind_ok, KeyFile.getString_eq_ok, h₁, h₂, h₃, h₄, h₅, h₆, h₇, h₈, h₉,
    h₁₀, h₁₁, h₁₂, loadNodeIp_toText hip, validateGenericNodeScalars_eq_ok, Option.all_some,
    Except.ok.injEq]
  clear h h₁ h₂ h₃ h₄ h₅ h₆ h₇ h₈ h₉ h₁₀ h₁₁ h₁₂ hip
  obtain ⟨pre, padding, ip, hostname, root, mac, sockets, cores, threads, cpus, memory, bmc, user,
    pass, port, speed⟩ := generic
  constructor
  · rintro ⟨_, rfl, _, rfl, _, rfl, _, rfl, _, rfl, _, rfl, _, rfl, _, rfl, _, rfl, _, rfl, _, rfl,
      _, rfl, _, rfl, _, ⟨g₁, g₂, g₃, g₄, g₅, g₆, g₇, g₈⟩, rfl⟩
    exact ⟨⟨rfl, g₁, rfl, rfl, g₂, g₃, g₄, g₅, g₆, rfl, rfl, g₇, g₈⟩, rfl⟩
  · rintro ⟨hl, rfl⟩
    obtain ⟨g₁, g₂, g₃, g₄, g₅, g₆, g₇, g₈, g₉, g₁₀, g₁₁, g₁₂, g₁₃⟩ := hl
    simp only [Option.isSome_iff_exists, Option.any_eq_true] at g₁ g₂ g₃ g₄ g₅ g₆ g₇ g₈ g₉ g₁₀ g₁₁ g₁₂ g₁₃
    obtain ⟨_, rfl⟩ := g₁
    obtain ⟨_, rfl, e₂⟩ := g₂
    obtain ⟨_, rfl⟩ := g₃
    obtain ⟨_, rfl⟩ := g₄
    obtain ⟨_, rfl, e₅⟩ := g₅
    obtain ⟨_, rfl, e₆⟩ := g₆
    obtain ⟨_, rfl, e₇⟩ := g₇
    obtain ⟨_, rfl, e₈⟩ := g₈
    obtain ⟨_, rfl, e₉⟩ := g₉
    obtain ⟨_, rfl⟩ := g₁₀
    obtain ⟨_, rfl⟩ := g₁₁
    obtain ⟨_, rfl, e₁₂⟩ := g₁₂
    obtain ⟨_, rfl, e₁₃⟩ := g₁₃
    exact ⟨_, rfl, _, rfl, _, rfl, _, rfl, _, rfl, _, rfl, _, rfl, _, rfl, _, rfl, _, rfl, _, rfl,
      _, rfl, _, rfl, (), ⟨e₂, e₅, e₆, e₇, e₈, e₉, e₁₂, e₁₃⟩, rfl⟩

theorem loadGenericNode_stable {kf : KeyFile} {r : AFNode} (h : loadNode kf "node" = .ok r) :
    r.LoadableGeneric ∧ r.reloadedGeneric = r := by
  unfold loadNode loadGenericNode at h
  simp only [if_true, except_bind_ok, validateGenericNodeScalars_eq_ok, Option.all_some,
    Except.ok.injEq] at h
  obtain ⟨_, -, _, -, _, -, _, -, _, -, _, -, _, -, _, -, _, -, _, -, _, -, _, -, _, -, _,
    ⟨g₁, g₂, g₃, g₄, g₅, g₆, g₇, g₈⟩, rfl⟩ := h
  exact ⟨⟨rfl, g₁, rfl, rfl, g₂, g₃, g₄, g₅, g₆, rfl, rfl, g₇, g₈⟩, rfl⟩

/-! ## A numbered node -/

/-- The record that `loadNode` reads back for a dumped node, before inheritance. -/
def AFNode.raw (node : AFNode) : AFNode :=
  { startIp := some (node.startIp.getD default)
    hostname := some (node.hostname.getD "")
    rootPassword := some (node.rootPassword.getD "")
    macAddress := node.macAddress
    sockets := some (node.sockets.getD "")
    coresPerSocket := some (node.coresPerSocket.getD "")
    threadsPerCore := some (node.threadsPerCore.getD "")
    bmcAddress := some (node.bmcAddress.getD "")
    bmcUsername := some (node.bmcUsername.getD "")
    bmcPassword := some (node.bmcPassword.getD "")
    bmcSerialport := some (node.bmcSerialport.getD "")
    bmcSerialspeed := some (node.bmcSerialspeed.getD "") }

def reloadedNode (generic node : AFNode) : AFNode := resolveNode generic node.raw

/-- The node has a section of its own under its own host name. -/
structure AFNode.Named (node : AFNode) : Prop where
  hostname : hasText node.hostname = true
  macAddress : node.macAddress.isSome = true

theorem AFNode.Named.assigns {node : AFNode} (h : node.Named) :
    assigns (nodeEntries node) = true := by
  simp [KeyData.assigns, nodeEntries, h.macAddress]

omit [Inet6] in
theorem nodeSection_ne_node (counter : Nat) : nodeSection counter ≠ "node" := by
  intro h
  have hstarts := startsWith_nodeSection counter
  rw [h] at hstarts
  revert hstarts
  decide

omit [Inet6] in
theorem afterFirst_nodeSection (counter : Nat) :
    afterFirst '.' (nodeSection counter) = decimal counter := by
  have hnode : "node.".toList = ['n', 'o', 'd', 'e', '.'] := by decide
  have hlist : (nodeSection counter).toList =
      'n' :: 'o' :: 'd' :: 'e' :: '.' :: (decimal counter).toList := by
    rw [nodeSection, String.toList_append, hnode]
    rfl
  simp [afterFirst, hlist, List.dropWhile]

omit [Inet6] in
theorem nodeCounter_nodeSection {counter : Nat} (h : counter < sizeLimit) :
    nodeCounter (nodeSection counter) = some counter := by
  rw [nodeCounter, afterFirst_nodeSection]
  exact lexicalCast_decimal h

theorem loadOptionalNodeIp_toText {kf : KeyFile} {sectionName : String} {ip : Option Address}
    (hgroup : kf.hasGroup sectionName = true)
    (h : kf.data.lookup sectionName "node_ip" = ip.map Address.toText) :
    loadOptionalNodeIp kf sectionName = .ok (ip.getD default) := by
  unfold loadOptionalNodeIp KeyFile.getStringOpt
  rw [if_pos hgroup, h]
  cases ip with
  | none => rfl
  | some a => exact (loadNodeIp_toText h).mpr rfl

theorem loadNode_carries {kf : KeyFile} {counter : Nat} {node : AFNode} (hnamed : node.Named)
    (h : kf.data.Carries (nodeSection counter) (nodeEntries node)) :
    loadNode kf (nodeSection counter) = .ok node.raw := by
  have hgroup : kf.hasGroup (nodeSection counter) = true := h.hasGroup_eq.trans hnamed.assigns
  have hip : kf.data.lookup (nodeSection counter) "node_ip" = node.startIp.map Address.toText := by
    simp [h.lookup_eq, nodeEntries, assigned]
  obtain ⟨mac, hmac⟩ := Option.isSome_iff_exists.mp hnamed.macAddress
  unfold loadNode
  rw [if_neg (nodeSection_ne_node counter), loadOptionalNodeIp_toText hgroup hip]
  simp [KeyFile.getString, KeyFile.getStringOr, hgroup, h.lookup_eq, nodeEntries, assigned, hmac,
    AFNode.raw]

omit [Inet6] in
theorem nodeHostname_of_hasText {generic : AFNode} {counter : Nat} {hostname : Option String}
    (h : hasText hostname = true) : nodeHostname generic counter hostname = .ok hostname := by
  cases hostname with
  | none => simp at h
  | some value => simp_all [nodeHostname]

/-- A section from which a dumped node is read back. -/
theorem loadNumberedNode_of_raw {kf : KeyFile} {sectionName : String} {generic node r : AFNode}
    (hnamed : node.Named) (h : loadNode kf sectionName = .ok node.raw) :
    loadNumberedNode kf generic sectionName = .ok r ↔
      r = reloadedNode generic node ∧ ResolvedNode r := by
  have hhostname : hasText node.raw.hostname = true := by
    obtain ⟨hostname, hmac⟩ := hnamed
    cases hname : node.hostname with
    | none => simp [hname] at hostname
    | some value => simpa [AFNode.raw, hname] using hostname
  unfold loadNumberedNode
  rw [h]
  simp only [except_ok_bind, nodeHostname_of_hasText hhostname, rethrowInvalidArgument_eq_ok,
    validateNode_eq_ok, reloadedNode]

theorem loadNumberedNode_carries {kf : KeyFile} {counter : Nat} {generic node r : AFNode}
    (hnamed : node.Named) (h : kf.data.Carries (nodeSection counter) (nodeEntries node)) :
    loadNumberedNode kf generic (nodeSection counter) = .ok r ↔
      r = reloadedNode generic node ∧ ResolvedNode r :=
  loadNumberedNode_of_raw hnamed (loadNode_carries hnamed h)

/-! ## All numbered nodes -/

theorem loadNumberedNodes_carries {kf : KeyFile} {generic : AFNode} {nodes acc rs : List AFNode}
    {counter : Nat} (hnamed : ∀ node ∈ nodes, node.Named)
    (hcarries : ∀ i node, nodes[i]? = some node →
      kf.data.Carries (nodeSection (counter + i)) (nodeEntries node))
    (hacc : acc.length ≤ vectorMaxSize) :
    loadNumberedNodes kf generic ((List.range' counter nodes.length).map nodeSection) acc = .ok rs ↔
      acc.length + nodes.length ≤ vectorMaxSize ∧
        (∀ node ∈ nodes, ResolvedNode (reloadedNode generic node)) ∧
          rs = acc ++ nodes.map (reloadedNode generic) := by
  induction nodes generalizing acc counter with
  | nil => simp [loadNumberedNodes, hacc, eq_comm]
  | cons node nodes ih =>
    have hfirst : ∀ r, loadNumberedNode kf generic (nodeSection counter) = .ok r ↔
        r = reloadedNode generic node ∧ ResolvedNode r := fun _ =>
      loadNumberedNode_carries (hnamed node (List.mem_cons_self ..)) (hcarries 0 node rfl)
    have hrest : ∀ i n, nodes[i]? = some n →
        kf.data.Carries (nodeSection (counter + 1 + i)) (nodeEntries n) := by
      intro i n hi
      rw [show counter + 1 + i = counter + (i + 1) by omega]
      exact hcarries (i + 1) n (by simpa using hi)
    simp only [List.length_cons, List.range'_succ, List.map_cons, loadNumberedNodes, except_bind_ok,
      pushBack_eq_ok]
    constructor
    · rintro ⟨r, hr, _, ⟨hlt, rfl⟩, htail⟩
      obtain ⟨rfl, hresolved⟩ := (hfirst _).mp hr
      have hlen : (acc ++ [reloadedNode generic node]).length ≤ vectorMaxSize := by simp; omega
      obtain ⟨hmax, hall, rfl⟩ :=
        (ih (fun n hn => hnamed n (List.mem_cons_of_mem _ hn)) hrest hlen).mp htail
      refine ⟨by simp at hmax; omega, ?_, by simp⟩
      intro n hn
      rcases List.mem_cons.mp hn with rfl | hn
      · exact hresolved
      · exact hall n hn
    · rintro ⟨hmax, hall, rfl⟩
      have hlen : (acc ++ [reloadedNode generic node]).length ≤ vectorMaxSize := by simp; omega
      refine ⟨_, (hfirst _).mpr ⟨rfl, hall node (List.mem_cons_self ..)⟩, _, ⟨by omega, rfl⟩, ?_⟩
      refine (ih (fun n hn => hnamed n (List.mem_cons_of_mem _ hn)) hrest hlen).mpr
        ⟨by simp; omega, fun n hn => hall n (List.mem_cons_of_mem _ hn), by simp⟩

/-! ## The section list and the whole inventory -/

/-- What a dump needs so that its nodes are accepted again. -/
structure AFNodes.Loadable (nodes : AFNodes) : Prop where
  generic : ∃ generic, nodes.generic = some generic ∧ generic.LoadableGeneric
  size : nodes.nodes.length ≤ vectorMaxSize
  resolved : ∀ generic ∈ nodes.generic, ∀ node ∈ nodes.nodes,
    ResolvedNode (reloadedNode generic.reloadedGeneric node)
  distinct : ∀ generic ∈ nodes.generic,
    DistinctInventory (nodes.nodes.map (reloadedNode generic.reloadedGeneric))

def AFNodes.reloaded (nodes : AFNodes) : AFNodes :=
  { generic := nodes.generic.map AFNode.reloadedGeneric
    nodes := nodes.nodes.map fun node =>
      reloadedNode ((nodes.generic.map AFNode.reloadedGeneric).getD {}) node }

/-- The sections of the nodes as the dump writes them. -/
structure NodesCarries (kd : KeyData) (nodes : AFNodes) : Prop where
  generic : kd.Carries "node" (nodes.generic.elim [] genericNodeEntries)
  node : ∀ i node, nodes.nodes[i]? = some node →
    kd.Carries (nodeSection (1 + i)) (nodeEntries node)
  sections : kd.prefixed "node." = (List.range' 1 nodes.nodes.length).map nodeSection

omit [Inet6] in
theorem filter_isNodeNumber {n : Nat} (hn : n < sizeLimit) :
    ((List.range' 1 n).map nodeSection).filter isNodeNumber =
      (List.range' 1 n).map nodeSection := by
  rw [List.filter_eq_self]
  intro sectionName hs
  obtain ⟨counter, hcounter, rfl⟩ := List.mem_map.mp hs
  have hrange := List.mem_range'_1.mp hcounter
  simp [isNodeNumber, nodeCounter_nodeSection (show counter < sizeLimit by omega)]
  omega

theorem loadNodes_carries {kf : KeyFile} {nodes r : AFNodes} (h : NodesCarries kf.data nodes)
    (hnamed : ∀ node ∈ nodes.nodes, node.Named) (hsize : nodes.nodes.length < sizeLimit) :
    loadNodes kf = .ok r ↔ nodes.Loadable ∧ r = nodes.reloaded := by
  unfold loadNodes KeyFile.listAllPrefixedEntries
  rw [h.sections, filter_isNodeNumber hsize]
  cases hgeneric : nodes.generic with
  | none =>
    have hmissing : loadNode kf "node" =
        .error ⟨.runtimeError, kf.noSuchEntry "node" "prefix"⟩ := by
      have hlookup : kf.data.lookup "node" "prefix" = none := by
        rw [h.generic.lookup_eq, hgeneric]
        rfl
      simp [loadNode, loadGenericNode, KeyFile.getString, hlookup, runtimeError]
    have hfail : ¬ nodes.Loadable := fun hl => by simpa [hgeneric] using hl.generic
    simp [hmissing, hfail]
  | some generic =>
    have hcarries : kf.data.Carries "node" (genericNodeEntries generic) := by
      simpa [hgeneric] using h.generic
    have hnil : ([] : List AFNode).length ≤ vectorMaxSize := Nat.zero_le _
    simp only [except_bind_ok, loadGenericNode_carries hcarries,
      loadNumberedNodes_carries hnamed h.node hnil, List.length_nil, Nat.zero_add,
      List.nil_append, validateNodeInventoryTopology_eq_ok]
    constructor
    · rintro ⟨_, ⟨hg, rfl⟩, _, ⟨hmax, hresolved, rfl⟩, _, hdistinct, heq⟩
      obtain rfl := Except.ok.inj heq
      refine ⟨⟨⟨generic, hgeneric, hg⟩, hmax, ?_, ?_⟩, by simp [AFNodes.reloaded, hgeneric]⟩
      · simpa [hgeneric] using hresolved
      · simpa [hgeneric] using hdistinct
    · rintro ⟨hl, rfl⟩
      obtain ⟨g, hg, hgl⟩ := hl.generic
      obtain rfl : generic = g := by simpa [hgeneric] using hg
      exact ⟨_, ⟨hgl, rfl⟩, _, ⟨hl.size, hl.resolved generic hgeneric, rfl⟩, (),
        hl.distinct generic hgeneric, by simp [AFNodes.reloaded, hgeneric]⟩

/-! ## Loaded nodes are canonical -/

/-- A node as the loader leaves it: the fields that it does not read are unset, and a BMC
field is either unset or has text. -/
structure AFNode.Canonical (node : AFNode) : Prop where
  named : node.Named
  nodePrefix : node.nodePrefix = none
  padding : node.padding = none
  cpusPerNode : node.cpusPerNode = none
  realMemory : node.realMemory = none
  bmcAddress : clearIfEmpty node.bmcAddress = node.bmcAddress
  bmcUsername : clearIfEmpty node.bmcUsername = node.bmcUsername
  bmcPassword : clearIfEmpty node.bmcPassword = node.bmcPassword
  bmcSerialport : clearIfEmpty node.bmcSerialport = node.bmcSerialport
  bmcSerialspeed : clearIfEmpty node.bmcSerialspeed = node.bmcSerialspeed

omit [Inet6] in
theorem clearIfEmpty_some_getD {value : Option String} (h : clearIfEmpty value = value) :
    clearIfEmpty (some (value.getD "")) = value := by
  cases value with
  | none => simp [clearIfEmpty, Option.filter]
  | some value => exact h

omit [Inet6] in
theorem inheritText_some_getD {value generic : Option String} (h : hasText value = true) :
    inheritText (some (value.getD "")) generic = value := by
  cases value with
  | none => simp at h
  | some value => exact hasText_inheritText_of_own h

omit [Inet6] in
theorem AFNode.Canonical.unset_eq {node : AFNode} (h : node.Canonical) :
    { node with nodePrefix := none, padding := none, cpusPerNode := none, realMemory := none } =
      node := by
  obtain ⟨-, hpre, hpadding, hcpus, hmemory, -⟩ := h
  cases node
  simp_all

omit [Inet6] in
/-- Resolving a canonical node again changes nothing. -/
theorem AFNode.Canonical.reloadedNode_eq {generic node : AFNode} (h : node.Canonical)
    (hresolved : ResolvedNode node) (hgeneric : hasText generic.bmcAddress = false) :
    reloadedNode generic node = node := by
  have hip : inheritAddress (some (node.startIp.getD default)) generic.startIp = node.startIp := by
    have hs := hresolved.startIp
    cases hip : node.startIp with
    | none => simp [hip, isSpecified] at hs
    | some a =>
      rw [hip] at hs
      simp [inheritAddress, hs]
  have hhost : some (node.hostname.getD "") = node.hostname := by
    have hn := h.named.hostname
    cases hhost : node.hostname with
    | none => simp [hhost] at hn
    | some value => rfl
  unfold reloadedNode resolveNode AFNode.raw
  simp only [hip, hhost, inheritText_some_getD hresolved.rootPassword,
    inheritText_some_getD hresolved.sockets, inheritText_some_getD hresolved.coresPerSocket,
    inheritText_some_getD hresolved.threadsPerCore]
  unfold resolveBMC
  have hbmcText : hasText (some (node.bmcAddress.getD "")) = hasText node.bmcAddress := by
    cases node.bmcAddress <;> simp [hasText]
  cases hbmc : hasText node.bmcAddress with
  | true =>
    obtain ⟨hu, hp, ho, hs⟩ := hresolved.bmc hbmc
    simp only [hbmcText, hbmc, Bool.true_or, if_true, inheritText_some_getD hbmc,
      inheritText_some_getD hu, inheritText_some_getD hp, inheritText_some_getD ho,
      inheritText_some_getD hs]
    exact h.unset_eq
  | false =>
    simp only [hbmcText, hbmc, hgeneric, Bool.or_self, Bool.false_eq_true, if_false,
      clearIfEmpty_some_getD h.bmcAddress, clearIfEmpty_some_getD h.bmcUsername,
      clearIfEmpty_some_getD h.bmcPassword, clearIfEmpty_some_getD h.bmcSerialport,
      clearIfEmpty_some_getD h.bmcSerialspeed]
    exact h.unset_eq

omit [Inet6] in
theorem clearIfEmpty_clearIfEmpty (value : Option String) :
    clearIfEmpty (clearIfEmpty value) = clearIfEmpty value := by
  cases value with
  | none => rfl
  | some value => by_cases h : value = "" <;> simp [clearIfEmpty, Option.filter, h]

omit [Inet6] in
theorem clearIfEmpty_of_hasText {value : Option String} (h : hasText value = true) :
    clearIfEmpty value = value := by
  cases value with
  | none => rfl
  | some value => simp_all [clearIfEmpty, Option.filter]

omit [Inet6] in
theorem hasText_nodeHostname {generic : AFNode} {counter : Nat} {hostname r : Option String}
    (h : nodeHostname generic counter hostname = .ok r) : hasText r = true := by
  unfold nodeHostname at h
  split at h
  · rename_i hne
    obtain rfl := Except.ok.inj h
    cases hostname <;> simp_all
  · split at h
    · simp at h
    · rename_i hprefix
      split at h
      · simp at h
      · rw [except_bind_ok] at h
        obtain ⟨width, -, h⟩ := h
        obtain rfl := Except.ok.inj h
        simp

/-- What `loadNode` returns for a numbered section. -/
theorem loadNode_fields {kf : KeyFile} {sectionName : String} {r : AFNode}
    (hsection : sectionName ≠ "node") (h : loadNode kf sectionName = .ok r) :
    r.macAddress.isSome = true ∧ r.nodePrefix = none ∧ r.padding = none ∧ r.cpusPerNode = none ∧
      r.realMemory = none := by
  unfold loadNode at h
  rw [if_neg hsection] at h
  simp only [except_bind_ok] at h
  obtain ⟨_, -, _, -, _, -, _, -, _, -, _, -, _, -, _, -, _, -, _, -, _, -, _, -, h⟩ := h
  obtain rfl := Except.ok.inj h
  simp

omit [Inet6] in
/-- After inheritance a BMC field is unset or has text. -/
theorem clearIfEmpty_resolveNode {generic node : AFNode}
    (h : ResolvedNode (resolveNode generic node)) :
    let r := resolveNode generic node
    clearIfEmpty r.bmcAddress = r.bmcAddress ∧ clearIfEmpty r.bmcUsername = r.bmcUsername ∧
      clearIfEmpty r.bmcPassword = r.bmcPassword ∧
      clearIfEmpty r.bmcSerialport = r.bmcSerialport ∧
      clearIfEmpty r.bmcSerialspeed = r.bmcSerialspeed := by
  cases hbmc : hasText (resolveNode generic node).bmcAddress with
  | true =>
    obtain ⟨hu, hp, ho, hs⟩ := h.bmc hbmc
    exact ⟨clearIfEmpty_of_hasText hbmc, clearIfEmpty_of_hasText hu, clearIfEmpty_of_hasText hp,
      clearIfEmpty_of_hasText ho, clearIfEmpty_of_hasText hs⟩
  | false =>
    unfold resolveNode resolveBMC at hbmc ⊢
    split
    · -- An inherited or own address has text, so this case does not arise.
      rename_i hpresent
      rw [if_pos hpresent] at hbmc
      simp only [inheritText] at hbmc
      split at hbmc <;> simp_all
    · simp only [clearIfEmpty_clearIfEmpty, and_self]

theorem loadNumberedNode_canonical {kf : KeyFile} {sectionName : String} {generic r : AFNode}
    (hsection : sectionName ≠ "node") (h : loadNumberedNode kf generic sectionName = .ok r) :
    ResolvedNode r ∧ r.Canonical := by
  unfold loadNumberedNode at h
  simp only [except_bind_ok, rethrowInvalidArgument_eq_ok, validateNode_eq_ok] at h
  obtain ⟨node, hload, hostname, hhostname, rfl, hresolved⟩ := h
  obtain ⟨hmac, hpre, hpadding, hcpus, hmemory⟩ := loadNode_fields hsection hload
  obtain ⟨ha, hu, hp, ho, hs⟩ := clearIfEmpty_resolveNode hresolved
  exact
    ⟨hresolved,
      { named := ⟨by simpa [resolveNode] using hasText_nodeHostname hhostname,
          by simpa [resolveNode] using hmac⟩
        nodePrefix := by simpa [resolveNode] using hpre
        padding := by simpa [resolveNode] using hpadding
        cpusPerNode := by simpa [resolveNode] using hcpus
        realMemory := by simpa [resolveNode] using hmemory
        bmcAddress := ha
        bmcUsername := hu
        bmcPassword := hp
        bmcSerialport := ho
        bmcSerialspeed := hs }⟩

theorem loadNumberedNodes_canonical {kf : KeyFile} {generic : AFNode} {sections : List String}
    {acc rs : List AFNode} (hsections : ∀ name ∈ sections, name ≠ "node")
    (hacc : acc.length ≤ vectorMaxSize) (hcanonical : ∀ node ∈ acc, ResolvedNode node ∧ node.Canonical)
    (h : loadNumberedNodes kf generic sections acc = .ok rs) :
    rs.length ≤ vectorMaxSize ∧ ∀ node ∈ rs, ResolvedNode node ∧ node.Canonical := by
  induction sections generalizing acc with
  | nil =>
    obtain rfl := Except.ok.inj h
    exact ⟨hacc, hcanonical⟩
  | cons name rest ih =>
    simp only [loadNumberedNodes, except_bind_ok, pushBack_eq_ok] at h
    obtain ⟨node, hnode, _, ⟨hlt, rfl⟩, hrest⟩ := h
    have hname := hsections name (List.mem_cons_self ..)
    refine ih (fun n hn => hsections n (List.mem_cons_of_mem _ hn)) (by simp; omega) ?_ hrest
    intro n hn
    rcases List.mem_append.mp hn with hn | hn
    · exact hcanonical n hn
    · rw [List.mem_singleton.mp hn]
      exact loadNumberedNode_canonical hname hnode

theorem loadNodes_stable {kf : KeyFile} {r : AFNodes} (h : loadNodes kf = .ok r) :
    r.Loadable ∧ r.reloaded = r ∧ ∀ node ∈ r.nodes, node.Named := by
  unfold loadNodes at h
  simp only [except_bind_ok, validateNodeInventoryTopology_eq_ok] at h
  obtain ⟨generic, hgeneric, nodes, hnodes, _, hdistinct, h⟩ := h
  obtain rfl := Except.ok.inj h
  obtain ⟨hgl, hgr⟩ := loadGenericNode_stable hgeneric
  have hsections : ∀ name ∈ (kf.listAllPrefixedEntries "node.").filter isNodeNumber,
      name ≠ "node" := by
    rintro _ hname rfl
    have hstarts := (List.mem_filter.mp (List.mem_of_mem_filter hname)).2
    revert hstarts
    decide
  obtain ⟨hsize, hcanonical⟩ :=
    loadNumberedNodes_canonical hsections (Nat.zero_le _) (by simp) hnodes
  have hbmc : hasText generic.bmcAddress = false := by
    rw [← hgr]
    rfl
  have heq : ∀ node ∈ nodes, reloadedNode generic node = node := fun node hnode =>
    (hcanonical node hnode).2.reloadedNode_eq (hcanonical node hnode).1 hbmc
  have hmap : nodes.map (reloadedNode generic) = nodes := by
    rw [List.map_congr_left heq, List.map_id']
  refine ⟨⟨⟨generic, rfl, hgl⟩, hsize, ?_, ?_⟩, ?_, fun n hn => (hcanonical n hn).2.named⟩
  · rintro _ ⟨⟩ node hnode
    rw [hgr, heq node hnode]
    exact (hcanonical node hnode).1
  · rintro _ ⟨⟩
    rw [hgr, hmap]
    exact hdistinct
  · simp [AFNodes.reloaded, hgr, hmap]

/-- What is known of nodes that were loaded. -/
structure AFNodes.Loaded (nodes : AFNodes) : Prop where
  loadable : nodes.Loadable
  reloaded_eq : nodes.reloaded = nodes
  named : ∀ node ∈ nodes.nodes, node.Named

theorem loadNodes_loaded {kf : KeyFile} {r : AFNodes} (h : loadNodes kf = .ok r) : r.Loaded := by
  obtain ⟨hloadable, hreloaded, hnamed⟩ := loadNodes_stable h
  exact ⟨hloadable, hreloaded, hnamed⟩

namespace AFNodes.Loaded

variable {nodes : AFNodes}

/-- The generic node, and the numbered nodes as inheritance from it leaves them. -/
theorem generic (h : nodes.Loaded) : ∃ generic, nodes.generic = some generic ∧
    generic.LoadableGeneric ∧ generic.reloadedGeneric = generic ∧
      nodes.nodes.map (reloadedNode generic) = nodes.nodes := by
  obtain ⟨generic, hgeneric, hloadable⟩ := h.loadable.generic
  have hself : generic.reloadedGeneric = generic := by
    have heq := congrArg AFNodes.generic h.reloaded_eq
    rw [hgeneric] at heq
    simpa [AFNodes.reloaded, hgeneric] using heq
  refine ⟨generic, hgeneric, hloadable, hself, ?_⟩
  have heq := congrArg AFNodes.nodes h.reloaded_eq
  simpa [AFNodes.reloaded, hgeneric, hself] using heq

theorem resolved (h : nodes.Loaded) {node : AFNode} (hnode : node ∈ nodes.nodes) :
    ResolvedNode node := by
  obtain ⟨generic, hgeneric, -, hself, hmap⟩ := h.generic
  rw [← hmap] at hnode
  obtain ⟨n, hn, rfl⟩ := List.mem_map.mp hnode
  have hres := h.loadable.resolved generic hgeneric n hn
  rwa [hself] at hres

theorem distinct (h : nodes.Loaded) : DistinctInventory nodes.nodes := by
  obtain ⟨generic, hgeneric, -, hself, hmap⟩ := h.generic
  have hd := h.loadable.distinct generic hgeneric
  rwa [hself, hmap] at hd

theorem nodup_hostnames (h : nodes.Loaded) : (nodes.nodes.map (·.hostname.getD "")).Nodup := by
  have hnames : (nodes.nodes.flatMap fun node => remembered node.hostname) =
      nodes.nodes.map (·.hostname.getD "") := by
    rw [List.map_eq_flatMap]
    apply List.flatMap_congr
    intro node hnode
    have htext := (h.named node hnode).hostname
    cases hname : node.hostname with
    | none => simp [hname, hasText] at htext
    | some name =>
      have hne : name ≠ "" := by simpa [hname, hasText] using htext
      simp [remembered, hne]
  rw [← hnames]
  exact h.distinct.hostnames

end AFNodes.Loaded

end OpenCattus
