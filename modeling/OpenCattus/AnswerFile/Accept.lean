import OpenCattus.AnswerFile.Load

/-!
# What the load routines accept

One lemma for every reader and validator: when it succeeds, and with which value. The
conditions are stated on records, not on the key file.

`validateNodeInventoryTopology_eq_ok` is the result of the inventory loop: host names,
MAC addresses and all node and BMC addresses together are pairwise distinct.
`validateNode_eq_ok` gives the node that inheritance produces and what it must satisfy.
-/

namespace OpenCattus

open Foundations Foundations.Text Foundations.Inet

/-! ## Readers -/

namespace KeyFile

variable {kf : KeyFile} {group key : String}

theorem getString_eq_ok {value : String} :
    kf.getString group key = .ok value ↔ kf.data.lookup group key = some value := by
  unfold getString
  cases kf.data.lookup group key <;> simp

theorem getStringOr_eq_ok {defaultValue value : String} :
    kf.getStringOr group key defaultValue = .ok value ↔
      kf.hasGroup group = true ∧ (kf.data.lookup group key).getD defaultValue = value := by
  unfold getStringOr
  split <;> simp [*]

theorem getStringOpt_eq_ok {value : Option String} :
    kf.getStringOpt group key = .ok value ↔
      kf.hasGroup group = true ∧ kf.data.lookup group key = value := by
  unfold getStringOpt
  split <;> simp [*]

end KeyFile

theorem validateOptional_eq_ok {α : Type} {value : Option α} {check : α → Result Unit} {u : Unit} :
    validateOptional value check = .ok u ↔ ∀ a ∈ value, check a = .ok () := by
  cases value <;> simp [validateOptional]

/-! ## Scalars -/

/-- A decimal number within `std::size_t`; zero only where it is allowed. -/
def isUnsigned (allowZero : Bool) (value : String) : Bool :=
  match parseDigits value with
  | some n => decide (n < sizeLimit) && (allowZero || n != 0)
  | none => false

theorem parseUnsignedAnswerfileField_eq_ok {sectionName field value : String} {allowZero : Bool}
    {n : Nat} :
    parseUnsignedAnswerfileField sectionName field value allowZero = .ok n ↔
      parseDigits value = some n ∧ isUnsigned allowZero value = true := by
  unfold parseUnsignedAnswerfileField isUnsigned
  by_cases hempty : value = ""
  · simp [hempty, parseDigits]
  · simp only [hempty, if_false]
    cases parseDigits value with
    | none => simp
    | some parsed =>
      by_cases hrange : sizeLimit ≤ parsed
      · simp [hrange, Nat.not_lt.mpr hrange]
      · by_cases hzero : parsed = 0
        · subst hzero
          cases allowZero <;> simp [sizeLimit]
        · simp [hrange, Nat.lt_of_not_le hrange, hzero]

theorem validateUnsignedAnswerfileField_eq_ok {sectionName field : String}
    {value : Option String} {allowZero : Bool} {u : Unit} :
    validateUnsignedAnswerfileField sectionName field value allowZero = .ok u ↔
      value.all (isUnsigned allowZero) = true := by
  unfold validateUnsignedAnswerfileField
  rw [validateOptional_eq_ok]
  cases value with
  | none => simp
  | some value =>
    simp only [Option.mem_def, Option.some.injEq, forall_eq', Option.all_some, except_bind_ok,
      parseUnsignedAnswerfileField_eq_ok, and_true]
    refine ⟨fun ⟨_, _, h⟩ => h, fun h => ?_⟩
    have hsome : (parseDigits value).isSome = true := by
      unfold isUnsigned at h
      cases hp : parseDigits value <;> simp_all
    exact ⟨_, (Option.some_get hsome).symm, h⟩

theorem isUnsigned_decimal {allowZero : Bool} {n : Nat} :
    isUnsigned allowZero (decimal n) = true ↔ n < sizeLimit ∧ (allowZero = true ∨ n ≠ 0) := by
  simp [isUnsigned]

theorem parsePortAnswerfileField_eq_ok {sectionName field value : String} {port : Nat} :
    parsePortAnswerfileField sectionName field value = .ok port ↔
      parseDigits value = some port ∧ 0 < port ∧ port ≤ 65535 := by
  unfold parsePortAnswerfileField
  simp only [except_bind_ok, parseUnsignedAnswerfileField_eq_ok]
  constructor
  · rintro ⟨n, ⟨hparse, hunsigned⟩, h⟩
    split at h
    · simp at h
    · obtain rfl : n = port := by simpa using h
      refine ⟨hparse, ?_, by omega⟩
      simp only [isUnsigned, hparse] at hunsigned
      simp at hunsigned
      omega
  · rintro ⟨hparse, hpos, hle⟩
    refine ⟨port, ⟨hparse, ?_⟩, by simp [show ¬ 65535 < port by omega]⟩
    have hlt : port < sizeLimit := lt_of_le_of_lt hle (by decide)
    simp [isUnsigned, hparse, hlt, Nat.pos_iff_ne_zero.mp hpos]

/-! ## Addresses -/

theorem convertStringToAddress_eq_ok [Inet6] {addr : String} {a : Address} :
    convertStringToAddress addr = .ok a ↔ makeAddress addr = some a := by
  unfold convertStringToAddress
  cases makeAddress addr <;> simp

theorem validateSubnetMask_eq_ok [Inet6] {networkSection : String} {mask : Address} {u : Unit} :
    validateSubnetMask networkSection mask = .ok u ↔
      mask.isV4 = true ∧ Network.isMask mask = true := by
  unfold validateSubnetMask
  cases mask.isV4 <;> cases Network.isMask mask <;> simp

/-- The gateway is unspecified, or version 4 and in the network of the address. -/
def gatewayInSubnet : Address → Address → Address → Bool
  | .v4 ip, .v4 mask, .v4 gateway => gateway == 0 || ip &&& mask == gateway &&& mask
  | _, _, gateway => gateway.isUnspecified

theorem validateGatewayInSubnet_eq_ok [Inet6] {networkSection : String}
    {ip mask gateway : Address} {u : Unit} :
    validateGatewayInSubnet networkSection ip mask gateway = .ok u ↔
      gatewayInSubnet ip mask gateway = true := by
  unfold validateGatewayInSubnet
  by_cases hunspecified : gateway.isUnspecified = true
  · simp only [hunspecified, if_true, true_iff]
    unfold gatewayInSubnet
    split
    · rename_i bits
      exact Bool.or_eq_true_iff.mpr (.inl hunspecified)
    · exact hunspecified
  · simp only [hunspecified]
    cases ip <;> cases mask <;> cases gateway <;>
      simp_all [ipv4NetworkAddress, gatewayInSubnet, Address.isUnspecified]

/-! ## The node inventory -/

/-- The values that a round remembers. -/
def remembered : Option String → List String
  | some value => if value = "" then [] else [value]
  | none => []

@[simp] theorem remembered_none : remembered none = [] := rfl

theorem rememberOptional_eq_ok {seen seen' : SeenValues} {fieldName owner : String}
    {value : Option String} (h : rememberOptional seen fieldName value owner = .ok seen') :
    seen'.map Prod.fst = seen.map Prod.fst ++ remembered value := by
  cases value with
  | none => simp_all [rememberOptional]
  | some value =>
    simp only [rememberOptional, rememberUniqueNodeValue] at h
    by_cases hempty : value = ""
    · simp_all [remembered]
    · cases hget : Assoc.get value seen with
      | none =>
        rw [if_neg hempty, hget] at h
        obtain rfl := Except.ok.inj h
        simp [remembered, hempty]
      | some other => simp [hempty, hget] at h

/-- A value is remembered when the values seen stay distinct. -/
theorem exists_rememberOptional {seen : SeenValues} (fieldName owner : String)
    {value : Option String} (hseen : (seen.map Prod.fst).Nodup) :
    (∃ seen', rememberOptional seen fieldName value owner = .ok seen') ↔
      (seen.map Prod.fst ++ remembered value).Nodup := by
  cases value with
  | none => simpa [rememberOptional] using hseen
  | some value =>
    simp only [rememberOptional, rememberUniqueNodeValue]
    by_cases hempty : value = ""
    · simpa [remembered, hempty] using hseen
    · have hmem := (Assoc.isSome_get_iff : (Assoc.get value seen).isSome = true ↔ _)
      have hremembered : remembered (some value) = [value] := by simp [remembered, hempty]
      have hnodup : (seen.map Prod.fst ++ [value]).Nodup ↔ value ∉ seen.map Prod.fst := by
        rw [List.nodup_append]
        simp only [hseen, List.nodup_cons, List.not_mem_nil, not_false_iff, List.nodup_nil,
          true_and, List.mem_singleton, forall_eq]
        exact ⟨fun h hv => h value hv rfl, fun h a ha hav => h (hav ▸ ha)⟩
      rw [hremembered, hnodup, ← hmem]
      cases hget : Assoc.get value seen <;> simp [hempty]

section Inventory

variable [Inet6]

/-- The addresses that a node occupies: its own and that of its BMC. -/
def occupiedAddresses (node : AFNode) : List String :=
  remembered (nodeAddressText node) ++ remembered node.bmcAddress

/-- Nothing in the inventory is used twice. The node addresses and the BMC addresses
share one space. -/
structure DistinctInventory (nodes : List AFNode) : Prop where
  hostnames : (nodes.flatMap fun node => remembered node.hostname).Nodup
  macAddresses : (nodes.flatMap fun node => remembered (node.macAddress.map lower)).Nodup
  addresses : (nodes.flatMap occupiedAddresses).Nodup

/-- The keys of the maps after some rounds: what carries the induction over the nodes.
The maps for node and BMC addresses alone add nothing to the map for both. -/
structure Inventory.Keys (seen : Inventory) (hostnames macs addresses : List String) : Prop where
  hostnames_eq : seen.hostnames.map Prod.fst = hostnames
  macs_eq : seen.macAddresses.map Prod.fst = macs
  all_eq : seen.allAddresses.map Prod.fst = addresses
  nodeAddresses_sublist : (seen.nodeAddresses.map Prod.fst).Sublist addresses
  bmcAddresses_sublist : (seen.bmcAddresses.map Prod.fst).Sublist addresses

variable {seen seen' : Inventory} {hostnames macs addresses : List String} {nodeNumber : Nat}
  {node : AFNode}

theorem Inventory.addNode_keys (hkeys : seen.Keys hostnames macs addresses)
    (h : seen.addNode nodeNumber node = .ok seen') :
    seen'.Keys (hostnames ++ remembered node.hostname)
      (macs ++ remembered (node.macAddress.map lower)) (addresses ++ occupiedAddresses node) := by
  unfold Inventory.addNode at h
  simp only [except_bind_ok] at h
  obtain ⟨hosts', hhosts, macs', hmacs, nodes', hnodes, all₁, hall₁, bmcs', hbmcs, all₂, hall₂, h⟩ := h
  obtain rfl := Except.ok.inj h
  have hall : all₂.map Prod.fst = addresses ++ occupiedAddresses node := by
    rw [rememberOptional_eq_ok hall₂, rememberOptional_eq_ok hall₁, hkeys.all_eq, occupiedAddresses,
      List.append_assoc]
  refine ⟨?_, ?_, hall, ?_, ?_⟩
  · rw [rememberOptional_eq_ok hhosts, hkeys.hostnames_eq]
  · rw [rememberOptional_eq_ok hmacs, hkeys.macs_eq]
  · rw [rememberOptional_eq_ok hnodes]
    exact hkeys.nodeAddresses_sublist.append (List.sublist_append_left ..)
  · rw [rememberOptional_eq_ok hbmcs]
    exact hkeys.bmcAddresses_sublist.append (List.sublist_append_right ..)

theorem Inventory.exists_addNode (hkeys : seen.Keys hostnames macs addresses)
    (hhosts : hostnames.Nodup) (hmacs : macs.Nodup) (haddresses : addresses.Nodup) :
    (∃ seen', seen.addNode nodeNumber node = .ok seen') ↔
      (hostnames ++ remembered node.hostname).Nodup ∧
        (macs ++ remembered (node.macAddress.map lower)).Nodup ∧
          (addresses ++ occupiedAddresses node).Nodup := by
  obtain ⟨h₁, h₂, h₃, h₄, h₅⟩ := hkeys
  constructor
  · rintro ⟨seen', h⟩
    unfold Inventory.addNode at h
    simp only [except_bind_ok] at h
    obtain ⟨hosts', hh, macs', hm, nodes', -, all₁, ha₁, bmcs', -, all₂, ha₂, -⟩ := h
    have hall₁ := rememberOptional_eq_ok ha₁
    have hnodup₁ := (exists_rememberOptional _ _ (h₃ ▸ haddresses)).mp ⟨all₁, ha₁⟩
    have hnodup₂ := (exists_rememberOptional _ _ (hall₁ ▸ hnodup₁)).mp ⟨all₂, ha₂⟩
    rw [hall₁, h₃, List.append_assoc] at hnodup₂
    exact ⟨h₁ ▸ (exists_rememberOptional _ _ (h₁ ▸ hhosts)).mp ⟨hosts', hh⟩,
      h₂ ▸ (exists_rememberOptional _ _ (h₂ ▸ hmacs)).mp ⟨macs', hm⟩, hnodup₂⟩
  · rintro ⟨hh, hm, ha⟩
    have ha₁ : (addresses ++ remembered (nodeAddressText node)).Nodup :=
      ha.sublist ((List.sublist_append_left ..).append_left _)
    have ha₂ : (addresses ++ remembered node.bmcAddress).Nodup :=
      ha.sublist ((List.sublist_append_right ..).append_left _)
    unfold Inventory.addNode
    simp only [except_bind_ok]
    obtain ⟨hosts', hhosts'⟩ := (exists_rememberOptional "hostname" _ (h₁ ▸ hhosts)).mpr (h₁ ▸ hh)
    obtain ⟨macs', hmacs'⟩ := (exists_rememberOptional "mac_address" _ (h₂ ▸ hmacs)).mpr (h₂ ▸ hm)
    obtain ⟨nodes', hnodes'⟩ :=
      (exists_rememberOptional "node_ip" _ (haddresses.sublist h₄)).mpr
        (ha₁.sublist (h₄.append_right _))
    obtain ⟨all₁, hall₁⟩ :=
      (exists_rememberOptional "node/BMC address" _ (h₃ ▸ haddresses)).mpr (h₃ ▸ ha₁)
    obtain ⟨bmcs', hbmcs'⟩ :=
      (exists_rememberOptional "bmc_address" _ (haddresses.sublist h₅)).mpr
        (ha₂.sublist (h₅.append_right _))
    have hkeys₁ : all₁.map Prod.fst = addresses ++ remembered (nodeAddressText node) := by
      rw [rememberOptional_eq_ok hall₁, h₃]
    obtain ⟨all₂, hall₂⟩ :=
      (exists_rememberOptional "node/BMC address" _ (hkeys₁ ▸ ha₁)).mpr
        (by rw [hkeys₁, List.append_assoc]; exact ha)
    exact ⟨_, _, hhosts', _, hmacs', _, hnodes', _, hall₁, _, hbmcs', _, hall₂, rfl⟩

theorem Inventory.addNodes_eq_ok {nodes : List AFNode} {u : Unit}
    (hkeys : seen.Keys hostnames macs addresses)
    (hhosts : hostnames.Nodup) (hmacs : macs.Nodup) (haddresses : addresses.Nodup) :
    seen.addNodes nodeNumber nodes = .ok u ↔
      (hostnames ++ nodes.flatMap fun node => remembered node.hostname).Nodup ∧
        (macs ++ nodes.flatMap fun node => remembered (node.macAddress.map lower)).Nodup ∧
          (addresses ++ nodes.flatMap occupiedAddresses).Nodup := by
  induction nodes generalizing seen hostnames macs addresses nodeNumber with
  | nil => simp [addNodes, hhosts, hmacs, haddresses]
  | cons node nodes ih =>
    simp only [addNodes, except_bind_ok, List.flatMap_cons, ← List.append_assoc]
    constructor
    · rintro ⟨seen', hstep, hrest⟩
      obtain ⟨hh, hm, ha⟩ := (exists_addNode hkeys hhosts hmacs haddresses).mp ⟨seen', hstep⟩
      exact (ih (addNode_keys hkeys hstep) hh hm ha).mp hrest
    · rintro ⟨hh, hm, ha⟩
      have hh₁ := (List.nodup_append.mp hh).1
      have hm₁ := (List.nodup_append.mp hm).1
      have ha₁ := (List.nodup_append.mp ha).1
      obtain ⟨seen', hstep⟩ : ∃ seen', seen.addNode (nodeNumber + 1) node = .ok seen' :=
        (exists_addNode hkeys hhosts hmacs haddresses).mpr ⟨hh₁, hm₁, ha₁⟩
      exact ⟨seen', hstep, (ih (addNode_keys hkeys hstep) hh₁ hm₁ ha₁).mpr ⟨hh, hm, ha⟩⟩

theorem validateNodeInventoryTopology_eq_ok {nodes : List AFNode} {u : Unit} :
    validateNodeInventoryTopology nodes = .ok u ↔ DistinctInventory nodes := by
  have hkeys : Inventory.Keys {} [] [] [] := ⟨rfl, rfl, rfl, List.Sublist.refl _, List.Sublist.refl _⟩
  rw [validateNodeInventoryTopology, Inventory.addNodes_eq_ok hkeys List.nodup_nil List.nodup_nil
    List.nodup_nil]
  exact ⟨fun ⟨h₁, h₂, h₃⟩ => ⟨h₁, h₂, h₃⟩, fun ⟨h₁, h₂, h₃⟩ => ⟨h₁, h₂, h₃⟩⟩

end Inventory

/-! ## Inheritance from the generic node -/

/-- A node's own value when it has text, else the generic one. -/
def inheritText (own generic : Option String) : Option String :=
  if hasText own then own else generic

def isSpecified (a : Option Address) : Bool := a.any (!·.isUnspecified)

def inheritAddress (own generic : Option Address) : Option Address :=
  if isSpecified own then own else generic

@[simp] theorem hasText_none : hasText none = false := rfl

@[simp] theorem hasText_some {value : String} : hasText (some value) = true ↔ value ≠ "" := by
  simp [hasText]

theorem hasText_eq_false {value : Option String} : hasText value = false ↔ value.getD "" = "" := by
  cases value <;> simp [hasText]

theorem validateAttributeBy_eq_ok {α : Type} {usable : α → Bool}
    {sectionName attributeName : String} {own generic r : Option α} :
    validateAttributeBy usable sectionName attributeName own generic = .ok r ↔
      r = (if own.any usable then own else generic) ∧ r.any usable = true := by
  unfold validateAttributeBy
  cases hown : own.any usable with
  | true =>
    simp only [if_true, Except.ok.injEq]
    exact ⟨fun h => ⟨h.symm, h ▸ hown⟩, fun h => h.1.symm⟩
  | false =>
    cases hgeneric : generic.any usable with
    | true =>
      simp only [Bool.false_eq_true, if_false, if_true, Except.ok.injEq]
      exact ⟨fun h => ⟨h.symm, h ▸ hgeneric⟩, fun h => h.1.symm⟩
    | false =>
      simp only [Bool.false_eq_true, if_false, invalidArgument_ne_ok, false_iff]
      rintro ⟨rfl, h⟩
      exact absurd (hgeneric.symm.trans h) (by simp)

theorem validateAttribute_eq_ok {sectionName attributeName : String}
    {own generic r : Option String} :
    validateAttribute sectionName attributeName own generic = .ok r ↔
      r = inheritText own generic ∧ hasText r = true :=
  validateAttributeBy_eq_ok

theorem validateAddressAttribute_eq_ok {sectionName attributeName : String}
    {own generic r : Option Address} :
    validateAddressAttribute sectionName attributeName own generic = .ok r ↔
      r = inheritAddress own generic ∧ isSpecified r = true :=
  validateAttributeBy_eq_ok

/-- The BMC fields after inheritance. -/
def resolveBMC (generic node : AFNode) : AFNode :=
  if hasText node.bmcAddress || hasText generic.bmcAddress then
    { node with
      bmcAddress := inheritText node.bmcAddress generic.bmcAddress
      bmcUsername := inheritText node.bmcUsername generic.bmcUsername
      bmcPassword := inheritText node.bmcPassword generic.bmcPassword
      bmcSerialport := inheritText node.bmcSerialport generic.bmcSerialport
      bmcSerialspeed := inheritText node.bmcSerialspeed generic.bmcSerialspeed }
  else
    { node with
      bmcAddress := clearIfEmpty node.bmcAddress
      bmcUsername := clearIfEmpty node.bmcUsername
      bmcPassword := clearIfEmpty node.bmcPassword
      bmcSerialport := clearIfEmpty node.bmcSerialport
      bmcSerialspeed := clearIfEmpty node.bmcSerialspeed }

@[simp] theorem resolveBMC_startIp (generic node : AFNode) :
    (resolveBMC generic node).startIp = node.startIp := by
  unfold resolveBMC
  split <;> rfl

@[simp] theorem resolveBMC_hostname (generic node : AFNode) :
    (resolveBMC generic node).hostname = node.hostname := by
  unfold resolveBMC
  split <;> rfl

@[simp] theorem resolveBMC_rootPassword (generic node : AFNode) :
    (resolveBMC generic node).rootPassword = node.rootPassword := by
  unfold resolveBMC
  split <;> rfl

@[simp] theorem resolveBMC_macAddress (generic node : AFNode) :
    (resolveBMC generic node).macAddress = node.macAddress := by
  unfold resolveBMC
  split <;> rfl

@[simp] theorem resolveBMC_sockets (generic node : AFNode) :
    (resolveBMC generic node).sockets = node.sockets := by
  unfold resolveBMC
  split <;> rfl

@[simp] theorem resolveBMC_coresPerSocket (generic node : AFNode) :
    (resolveBMC generic node).coresPerSocket = node.coresPerSocket := by
  unfold resolveBMC
  split <;> rfl

@[simp] theorem resolveBMC_threadsPerCore (generic node : AFNode) :
    (resolveBMC generic node).threadsPerCore = node.threadsPerCore := by
  unfold resolveBMC
  split <;> rfl

@[simp] theorem resolveBMC_nodePrefix (generic node : AFNode) :
    (resolveBMC generic node).nodePrefix = node.nodePrefix := by
  unfold resolveBMC
  split <;> rfl

@[simp] theorem resolveBMC_padding (generic node : AFNode) :
    (resolveBMC generic node).padding = node.padding := by
  unfold resolveBMC
  split <;> rfl

@[simp] theorem resolveBMC_cpusPerNode (generic node : AFNode) :
    (resolveBMC generic node).cpusPerNode = node.cpusPerNode := by
  unfold resolveBMC
  split <;> rfl

@[simp] theorem resolveBMC_realMemory (generic node : AFNode) :
    (resolveBMC generic node).realMemory = node.realMemory := by
  unfold resolveBMC
  split <;> rfl

/-- The node that inheritance produces. -/
def resolveNode (generic node : AFNode) : AFNode :=
  resolveBMC generic
    { node with
      startIp := inheritAddress node.startIp generic.startIp
      rootPassword := inheritText node.rootPassword generic.rootPassword
      sockets := inheritText node.sockets generic.sockets
      coresPerSocket := inheritText node.coresPerSocket generic.coresPerSocket
      threadsPerCore := inheritText node.threadsPerCore generic.threadsPerCore }

/-- What a node must have after inheritance. -/
structure ResolvedNode (node : AFNode) : Prop where
  startIp : isSpecified node.startIp = true
  rootPassword : hasText node.rootPassword = true
  sockets : hasText node.sockets = true
  coresPerSocket : hasText node.coresPerSocket = true
  threadsPerCore : hasText node.threadsPerCore = true
  bmc : hasText node.bmcAddress = true →
    hasText node.bmcUsername = true ∧ hasText node.bmcPassword = true ∧
      hasText node.bmcSerialport = true ∧ hasText node.bmcSerialspeed = true
  socketsUnsigned : node.sockets.all (isUnsigned false) = true
  coresUnsigned : node.coresPerSocket.all (isUnsigned false) = true
  threadsUnsigned : node.threadsPerCore.all (isUnsigned false) = true
  serialportUnsigned : node.bmcSerialport.all (isUnsigned true) = true
  serialspeedUnsigned : node.bmcSerialspeed.all (isUnsigned false) = true

theorem hasText_inheritText_of_own {own generic : Option String} (h : hasText own = true) :
    inheritText own generic = own := by
  simp [inheritText, h]

theorem validateNodeBMC_eq_ok {generic node r : AFNode} :
    validateNodeBMC generic node = .ok r ↔
      r = resolveBMC generic node ∧
        (hasText r.bmcAddress = true →
          hasText r.bmcUsername = true ∧ hasText r.bmcPassword = true ∧
            hasText r.bmcSerialport = true ∧ hasText r.bmcSerialspeed = true) := by
  unfold validateNodeBMC resolveBMC
  by_cases hbmc : (hasText node.bmcAddress || hasText generic.bmcAddress) = true
  · have haddress : hasText (inheritText node.bmcAddress generic.bmcAddress) = true := by
      unfold inheritText
      split
      · assumption
      · simpa [*] using hbmc
    simp only [hbmc, if_true, except_bind_ok, validateAttribute_eq_ok]
    constructor
    · rintro ⟨_, ⟨rfl, -⟩, _, ⟨rfl, hu⟩, _, ⟨rfl, hp⟩, _, ⟨rfl, ho⟩, _, ⟨rfl, hs⟩, h⟩
      obtain rfl := Except.ok.inj h
      exact ⟨rfl, fun _ => ⟨hu, hp, ho, hs⟩⟩
    · rintro ⟨rfl, h⟩
      obtain ⟨hu, hp, ho, hs⟩ := h haddress
      exact ⟨_, ⟨rfl, haddress⟩, _, ⟨rfl, hu⟩, _, ⟨rfl, hp⟩, _, ⟨rfl, ho⟩, _, ⟨rfl, hs⟩, rfl⟩
  · have hnone : hasText (clearIfEmpty node.bmcAddress) = false := by
      cases h : node.bmcAddress with
      | none => rfl
      | some value =>
        have hempty : value = "" := by
          by_contra hne
          exact hbmc (by simp [h, hasText, hne])
        simp [clearIfEmpty, hempty, Option.filter, hasText]
    simp only [hbmc, Bool.false_eq_true, if_false, Except.ok.injEq]
    constructor
    · rintro rfl
      exact ⟨rfl, fun h => by simp [hnone] at h⟩
    · rintro ⟨rfl, -⟩
      rfl

theorem validateResolvedNodeScalars_eq_ok {sectionName : String} {node : AFNode} {u : Unit} :
    validateResolvedNodeScalars sectionName node = .ok u ↔
      node.sockets.all (isUnsigned false) = true ∧
        node.coresPerSocket.all (isUnsigned false) = true ∧
          node.threadsPerCore.all (isUnsigned false) = true ∧
            node.bmcSerialport.all (isUnsigned true) = true ∧
              node.bmcSerialspeed.all (isUnsigned false) = true := by
  unfold validateResolvedNodeScalars
  simp only [except_bind_ok, validateUnsignedAnswerfileField_eq_ok, exists_and_left, exists_const]

theorem validateNode_eq_ok {generic node r : AFNode} {sectionName : String} :
    validateNode generic node sectionName = .ok r ↔
      r = resolveNode generic node ∧ ResolvedNode r := by
  unfold validateNode
  simp only [except_bind_ok, validateAttribute_eq_ok, validateAddressAttribute_eq_ok,
    validateNodeBMC_eq_ok, validateResolvedNodeScalars_eq_ok]
  constructor
  · rintro ⟨_, ⟨rfl, hip⟩, _, ⟨rfl, hroot⟩, _, ⟨rfl, hsockets⟩, _, ⟨rfl, hcores⟩, _,
      ⟨rfl, hthreads⟩, _, ⟨rfl, hbmc⟩, _, ⟨h₁, h₂, h₃, h₄, h₅⟩, h⟩
    obtain rfl := Except.ok.inj h
    exact ⟨rfl, by simpa using hip, by simpa using hroot, by simpa using hsockets,
      by simpa using hcores, by simpa using hthreads, hbmc, h₁, h₂, h₃, h₄, h₅⟩
  · rintro ⟨rfl, hip, hroot, hsockets, hcores, hthreads, hbmc, h₁, h₂, h₃, h₄, h₅⟩
    exact ⟨_, ⟨rfl, by simpa [resolveNode] using hip⟩, _,
      ⟨rfl, by simpa [resolveNode] using hroot⟩, _, ⟨rfl, by simpa [resolveNode] using hsockets⟩, _,
      ⟨rfl, by simpa [resolveNode] using hcores⟩, _, ⟨rfl, by simpa [resolveNode] using hthreads⟩,
      _, ⟨rfl, hbmc⟩, (), ⟨h₁, h₂, h₃, h₄, h₅⟩, rfl⟩

end OpenCattus
