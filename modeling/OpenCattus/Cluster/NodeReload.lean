import OpenCattus.Cluster.Filled

/-!
# Filling, writing and reloading one node

`fillNode_eq_ok` says which node of the model an answerfile node becomes.
`reloadedNode_dumpNode` says what the dumped node is loaded as: everything comes back but
the root password, which the generic node then supplies. `fillNode_reread` fills that
again.
-/

namespace OpenCattus

open Foundations Foundations.Text Foundations.Inet

/-! ## Numbers -/

theorem stoul_lt {s : String} {n : Nat} (h : stoul s = .ok n) : n < sizeLimit := by
  unfold stoul at h
  split at h
  · simp at h
  · rename_i negative k _
    split at h
    · cases h
    · obtain rfl := Except.ok.inj h
      split
      · exact Nat.mod_lt _ (by decide)
      · omega

theorem stoul_decimal {n : Nat} (h : n < sizeLimit) : stoul (decimal n) = .ok n :=
  stoul_of_parseDigits (parseDigits_decimal n) h

/-- An unsigned field is read by `std::stoul` as its value. -/
theorem stoul_of_isUnsigned {allowZero : Bool} {text : String} {n : Nat}
    (h : isUnsigned allowZero text = true) (hn : stoul text = .ok n) :
    parseDigits text = some n ∧ isUnsigned allowZero (decimal n) = true := by
  unfold isUnsigned at h
  cases hparse : parseDigits text with
  | none => simp [hparse] at h
  | some k =>
    simp only [hparse, Bool.and_eq_true, decide_eq_true_eq, Bool.or_eq_true, bne_iff_ne] at h
    obtain rfl : k = n := Except.ok.inj ((stoul_of_parseDigits hparse h.1).symm.trans hn)
    exact ⟨rfl, isUnsigned_decimal.mpr h⟩

namespace Cluster

theorem convertOrError_eq_ok {nodename value fieldName : String} {n : Nat} :
    convertOrError nodename value fieldName = .ok n ↔ stoul value = .ok n := by
  unfold convertOrError
  cases stoul value with
  | ok k => rfl
  | error e =>
    simp only [reduceCtorEq, iff_false]
    split <;> simp

theorem numberOf_eq_ok {value : Option String} {n : Nat} :
    numberOf value = .ok n ↔ ∃ text, value = some text ∧ stoul text = .ok n := by
  simp [numberOf, except_bind_ok]

/-- A required unsigned number as the model keeps it. -/
theorem numberOf_of_isUnsigned {allowZero : Bool} {value : Option String} {n : Nat}
    (h : value.any (isUnsigned allowZero) = true) (hn : numberOf value = .ok n) :
    isUnsigned allowZero (decimal n) = true := by
  obtain ⟨text, rfl, hstoul⟩ := numberOf_eq_ok.mp hn
  exact (stoul_of_isUnsigned h hstoul).2

theorem requireBMCField_eq_ok {nodename fieldName text : String} {value : Option String} :
    requireBMCField nodename value fieldName = .ok text ↔ value = some text ∧ text ≠ "" := by
  unfold requireBMCField
  cases value with
  | none => simp [requireBMCField.missing]
  | some value =>
    by_cases hempty : value = ""
    · subst hempty
      simp only [if_true, requireBMCField.missing, invalidArgument_ne_ok, false_iff, not_and,
        Option.some.injEq]
      exact fun h => not_not.mpr h.symm
    · simp only [hempty, if_false, Except.ok.injEq, Option.some.injEq]
      exact ⟨fun h => ⟨h, h ▸ hempty⟩, fun h => h.1⟩

/-! ## One node -/

/-- The BMC that the fields of a node describe. -/
def IsBMC (node : AFNode) : Option BMC → Prop
  | none => hasText node.bmcAddress = false
  | some bmc =>
    (node.bmcAddress = some bmc.address ∧ bmc.address ≠ "") ∧
      (node.bmcUsername = some bmc.username ∧ bmc.username ≠ "") ∧
        (node.bmcPassword = some bmc.password ∧ bmc.password ≠ "") ∧
          (∃ text, (node.bmcSerialport = some text ∧ text ≠ "") ∧ stoul text = .ok bmc.serialPort) ∧
            ∃ text, (node.bmcSerialspeed = some text ∧ text ≠ "") ∧ stoul text = .ok bmc.serialSpeed

theorem fillBMC_eq_ok {nodename : String} {node : AFNode} {bmc : Option BMC} :
    fillBMC nodename node = .ok bmc ↔ IsBMC node bmc := by
  unfold fillBMC
  cases htext : hasText node.bmcAddress with
  | false =>
    simp only [Bool.false_eq_true, if_false, Except.ok.injEq]
    cases bmc with
    | none => simp [IsBMC, htext]
    | some b =>
      simp only [reduceCtorEq, false_iff]
      rintro ⟨⟨haddress, hne⟩, -⟩
      simp [haddress, hasText, hne] at htext
  | true =>
    simp only [if_true, except_bind_ok, requireBMCField_eq_ok, convertOrError_eq_ok,
      Except.ok.injEq]
    cases bmc with
    | none => simp [IsBMC, htext]
    | some b =>
      constructor
      · rintro ⟨_, ha, _, hu, _, hp, _, hport, _, hport', _, hspeed, _, hspeed', heq⟩
        obtain rfl := Option.some.inj heq
        exact ⟨ha, hu, hp, ⟨_, hport, hport'⟩, _, hspeed, hspeed'⟩
      · rintro ⟨ha, hu, hp, ⟨_, hport, hport'⟩, _, hspeed, hspeed'⟩
        exact ⟨_, ha, _, hu, _, hp, _, hport, _, hport', _, hspeed, _, hspeed', rfl⟩

/-- The values that one round of the loop settles. -/
structure NodeValues where
  hostname : String
  startIp : Address
  macAddress : String
  rootPassword : String
  sockets : Nat
  coresPerSocket : Nat
  threadsPerCore : Nat
  bmc : Option BMC
  deriving DecidableEq, Repr

/-- The node of the model, with its connection to the management network. -/
def NodeValues.node (v : NodeValues) (os : OS) : Node where
  hostname := v.hostname
  os
  cpu :=
    { sockets := v.sockets, coresPerSocket := v.coresPerSocket, threadsPerCore := v.threadsPerCore }
  connections :=
    [{ profile := .Management, mac := some v.macAddress, address := v.startIp }]
  bmc := v.bmc
  nodeStartIp := some v.startIp
  macAddress := v.macAddress
  nodeRootPassword := some v.rootPassword

structure NodeValues.Of (node : AFNode) (v : NodeValues) : Prop where
  hostname : node.hostname = some v.hostname
  startIp : node.startIp = some v.startIp ∧ v.startIp ≠ .v4 0
  macAddress : ∃ mac, node.macAddress = some mac ∧ Connection.validateMAC mac = .ok () ∧
    v.macAddress = lower mac
  rootPassword : node.rootPassword = some v.rootPassword
  sockets : numberOf node.sockets = .ok v.sockets
  coresPerSocket : numberOf node.coresPerSocket = .ok v.coresPerSocket
  threadsPerCore : numberOf node.threadsPerCore = .ok v.threadsPerCore
  bmc : IsBMC node v.bmc

theorem checkMAC_eq_ok {nodename mac : String} {macAddress : Option String} :
    checkMAC nodename macAddress = .ok mac ↔
      ∃ given, macAddress = some given ∧ Connection.validateMAC given = .ok () ∧
        mac = lower given := by
  cases macAddress with
  | none => simp [checkMAC]
  | some given =>
    simp only [checkMAC, Option.some.injEq, exists_eq_left']
    cases Connection.validateMAC given with
    | ok u => simpa using eq_comm
    | error message => simp

theorem fillNode_eq_ok {nodeOS : OS} {link : Link} {node : AFNode} {r : Node} :
    fillNode nodeOS (link.network .Management) node = .ok r ↔
      ∃ v : NodeValues, v.Of node ∧ r = v.node nodeOS := by
  unfold fillNode
  simp only [except_bind_ok, valueOf_eq_ok, checkMAC_eq_ok, convertOrError_eq_ok, fillBMC_eq_ok,
    Connection.setMAC_eq_ok, Connection.setAddress_eq_ok, Except.ok.injEq]
  constructor
  · rintro ⟨hostname, hhost, ip, hip, _, ⟨mac, hmac, hvalid, rfl⟩, root, hroot, st, hst, sockets,
      hsockets, ct, hct, cores, hcores, tt, htt, threads, hthreads, bmc, hbmc, _, ⟨-, rfl⟩, _,
      ⟨hne, rfl⟩, rfl⟩
    refine ⟨⟨hostname, ip, lower mac, root, sockets, cores, threads, bmc⟩, ⟨hhost, ⟨hip, hne⟩,
      ⟨mac, hmac, hvalid, rfl⟩, hroot, numberOf_eq_ok.mpr ⟨st, hst, hsockets⟩,
      numberOf_eq_ok.mpr ⟨ct, hct, hcores⟩, numberOf_eq_ok.mpr ⟨tt, htt, hthreads⟩, hbmc⟩, ?_⟩
    simp [NodeValues.node, Connection.ofNetwork, Link.network]
  · rintro ⟨v, ⟨hhost, ⟨hip, hne⟩, ⟨mac, hmac, hvalid, hlower⟩, hroot, hsockets, hcores, hthreads,
      hbmc⟩, rfl⟩
    obtain ⟨st, hst, hsockets⟩ := numberOf_eq_ok.mp hsockets
    obtain ⟨ct, hct, hcores⟩ := numberOf_eq_ok.mp hcores
    obtain ⟨tt, htt, hthreads⟩ := numberOf_eq_ok.mp hthreads
    refine ⟨_, hhost, _, hip, _, ⟨mac, hmac, hvalid, rfl⟩, _, hroot, _, hst, _, hsockets, _, hct, _,
      hcores, _, htt, _, hthreads, _, hbmc, _,
      ⟨by rw [Connection.validateMAC_lower]; exact hvalid, rfl⟩, _, ⟨hne, rfl⟩, ?_⟩
    simp [NodeValues.node, Connection.ofNetwork, Link.network, hlower]

end Cluster

/-! ## A written node -/

/-- The node that its dump is loaded as, when the generic node has the root password. -/
def Node.reread (rootPassword : Option String) (node : Node) : AFNode where
  startIp := node.nodeStartIp
  hostname := some node.hostname
  rootPassword
  macAddress := some node.macAddress
  sockets := some (decimal node.cpu.sockets)
  coresPerSocket := some (decimal node.cpu.coresPerSocket)
  threadsPerCore := some (decimal node.cpu.threadsPerCore)
  bmcAddress := node.bmc.map (·.address)
  bmcUsername := node.bmc.map (·.username)
  bmcPassword := node.bmc.map (·.password)
  bmcSerialport := node.bmc.map fun bmc => decimal bmc.serialPort
  bmcSerialspeed := node.bmc.map fun bmc => decimal bmc.serialSpeed

/-- No field of the written node is left to inheritance but the root password. -/
structure Node.Complete (node : Node) : Prop where
  startIp : isSpecified node.nodeStartIp = true
  bmc : ∀ bmc ∈ node.bmc, bmc.address ≠ "" ∧ bmc.username ≠ "" ∧ bmc.password ≠ ""

theorem reloadedNode_dumpNode {node : Node} {generic : AFNode} (h : node.Complete)
    (hgeneric : hasText generic.bmcAddress = false) :
    reloadedNode generic (Cluster.dumpNode node) = node.reread generic.rootPassword := by
  obtain ⟨ip, hip, hspecified⟩ : ∃ ip, node.nodeStartIp = some ip ∧ ip.isUnspecified = false := by
    simpa [isSpecified, Option.any_eq_true] using h.startIp
  have haddress : inheritAddress (some ip) generic.startIp = some ip := by
    simp [inheritAddress, isSpecified, hspecified]
  have hnumber : ∀ (n : Nat) (g : Option String), inheritText (some (decimal n)) g = some (decimal n) :=
    fun n g => hasText_inheritText_of_own (by simp)
  have htext : ∀ {text : String} (g : Option String), text ≠ "" →
      inheritText (some text) g = some text :=
    fun g hne => hasText_inheritText_of_own (by simpa using hne)
  have hroot : inheritText (some "") generic.rootPassword = generic.rootPassword := by
    simp [inheritText, hasText]
  unfold reloadedNode resolveNode AFNode.raw
  simp only [Cluster.dumpNode, hip, Option.getD_some, Option.getD_none, haddress, hroot, hnumber,
    Node.reread]
  unfold resolveBMC
  cases hbmc : node.bmc with
  | none =>
    have hempty : hasText (some "") = false := rfl
    have hclear : clearIfEmpty (some "") = none := by decide
    simp [hempty, hgeneric, hclear]
  | some bmc =>
    obtain ⟨ha, hu, hp⟩ := h.bmc bmc hbmc
    have hhas : hasText (some bmc.address) = true := by simpa using ha
    simp [hhas, htext _ ha, htext _ hu, htext _ hp, hnumber]

/-- When the reread node is accepted. -/
theorem resolvedNode_reread {node : Node} {rootPassword : Option String} (h : node.Complete) :
    ResolvedNode (node.reread rootPassword) ↔
      hasText rootPassword = true ∧ isUnsigned false (decimal node.cpu.sockets) = true ∧
        isUnsigned false (decimal node.cpu.coresPerSocket) = true ∧
          isUnsigned false (decimal node.cpu.threadsPerCore) = true ∧
            ∀ bmc ∈ node.bmc, isUnsigned true (decimal bmc.serialPort) = true ∧
              isUnsigned false (decimal bmc.serialSpeed) = true := by
  constructor
  · intro hr
    refine ⟨hr.rootPassword, hr.socketsUnsigned, hr.coresUnsigned, hr.threadsUnsigned, ?_⟩
    intro bmc hbmc
    have hport := hr.serialportUnsigned
    have hspeed := hr.serialspeedUnsigned
    rw [Option.mem_def] at hbmc
    simp only [Node.reread, hbmc, Option.map_some, Option.all_some] at hport hspeed
    exact ⟨hport, hspeed⟩
  · rintro ⟨hroot, hsockets, hcores, hthreads, hbmc⟩
    refine ⟨h.startIp, hroot, by simp [Node.reread], by simp [Node.reread], by simp [Node.reread],
      ?_, hsockets, hcores, hthreads, ?_, ?_⟩
    · intro htext
      cases hb : node.bmc with
      | none => simp [Node.reread, hb] at htext
      | some bmc =>
        obtain ⟨-, hu, hp⟩ := h.bmc bmc hb
        simp [Node.reread, hb, hu, hp]
    · cases hb : node.bmc with
      | none => simp [Node.reread, hb]
      | some bmc => simpa [Node.reread, hb] using (hbmc bmc hb).1
    · cases hb : node.bmc with
      | none => simp [Node.reread, hb]
      | some bmc => simpa [Node.reread, hb] using (hbmc bmc hb).2

namespace Cluster

variable {node : AFNode} {v : NodeValues} {os : OS}

theorem NodeValues.complete (h : v.Of node) (hresolved : ResolvedNode node) :
    (v.node os).Complete := by
  refine ⟨?_, ?_⟩
  · rw [← show node.startIp = (v.node os).nodeStartIp from h.startIp.1]
    exact hresolved.startIp
  · intro bmc hbmc
    have hb : v.bmc = some bmc := hbmc
    have his := h.bmc
    rw [hb] at his
    exact ⟨his.1.2, his.2.1.2, his.2.2.1.2⟩

/-- A node that was filled from an accepted one is accepted again with a root password. -/
theorem NodeValues.resolvedNode_reread (h : v.Of node) (hresolved : ResolvedNode node)
    {rootPassword : Option String} :
    ResolvedNode ((v.node os).reread rootPassword) ↔ hasText rootPassword = true := by
  have hany : ∀ {value : Option String}, hasText value = true → value.all (isUnsigned false) = true →
      value.any (isUnsigned false) = true := by
    intro value htext hall
    cases value with
    | none => simp at htext
    | some text => exact hall
  rw [OpenCattus.resolvedNode_reread (v.complete h hresolved), and_iff_left]
  refine ⟨numberOf_of_isUnsigned (hany hresolved.sockets hresolved.socketsUnsigned) h.sockets,
    numberOf_of_isUnsigned (hany hresolved.coresPerSocket hresolved.coresUnsigned) h.coresPerSocket,
    numberOf_of_isUnsigned (hany hresolved.threadsPerCore hresolved.threadsUnsigned)
      h.threadsPerCore, ?_⟩
  intro bmc hbmc
  have his := h.bmc
  rw [show v.bmc = some bmc from hbmc] at his
  obtain ⟨-, -, -, ⟨port, ⟨hport, -⟩, hport'⟩, speed, ⟨hspeed, -⟩, hspeed'⟩ := his
  have h₁ := hresolved.serialportUnsigned
  have h₂ := hresolved.serialspeedUnsigned
  rw [hport] at h₁
  rw [hspeed] at h₂
  exact ⟨(stoul_of_isUnsigned h₁ hport').2, (stoul_of_isUnsigned h₂ hspeed').2⟩

/-- The reread node gives the same values again, with the root password it was given. -/
theorem NodeValues.of_reread (h : v.Of node) (rootPassword : String) :
    NodeValues.Of ((v.node os).reread (some rootPassword)) { v with rootPassword } := by
  have hnumber : ∀ {value : Option String} {n : Nat}, numberOf value = .ok n →
      numberOf (some (decimal n)) = .ok n := by
    intro value n hn
    obtain ⟨text, -, hstoul⟩ := numberOf_eq_ok.mp hn
    exact numberOf_eq_ok.mpr ⟨_, rfl, stoul_decimal (stoul_lt hstoul)⟩
  obtain ⟨mac, -, hvalid, hlower⟩ := h.macAddress
  refine ⟨rfl, ⟨rfl, h.startIp.2⟩, ⟨v.macAddress, rfl, ?_, ?_⟩, rfl, hnumber h.sockets,
    hnumber h.coresPerSocket, hnumber h.threadsPerCore, ?_⟩
  · rw [hlower, Connection.validateMAC_lower]
    exact hvalid
  · rw [hlower, lower_lower]
  · have his := h.bmc
    cases hb : v.bmc with
    | none => simp [IsBMC, Node.reread, NodeValues.node, hb]
    | some bmc =>
      rw [hb] at his
      obtain ⟨⟨-, ha⟩, ⟨-, hu⟩, ⟨-, hp⟩, ⟨_, -, hport⟩, _, -, hspeed⟩ := his
      simp [IsBMC, Node.reread, NodeValues.node, hb, ha, hu, hp, stoul_decimal (stoul_lt hport),
        stoul_decimal (stoul_lt hspeed)]

end Cluster

end OpenCattus
