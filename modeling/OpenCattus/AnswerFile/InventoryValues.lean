import OpenCattus.AnswerFile.Accept
import OpenCattus.Network

/-!
# The inventory check against the values

`validateNodeInventoryTopology` compares texts: host names, MAC addresses in lower case, and
the text of every address. One hardware address has several spellings, and so has one IP
address.

`inventory_check_exact_iff` compares the check with the comparison of values over every pair
of nodes, and says for which inventories the two agree.
-/

namespace OpenCattus

open Foundations Foundations.Text Foundations.Inet

/-! ## Values -/

/-- The hardware address that a text denotes, in any spelling that `validateMAC` accepts. -/
def macNumber (text : String) : Option (BitVec 48) :=
  if Connection.validateMAC text = .ok () then
    some (BitVec.ofNat 48 ((text.toList.filter Connection.isHexDigit).foldl
      (fun n c => 16 * n + hexDigitValue c) 0))
  else none

theorem hexDigitValue_toLower (c : Char) : hexDigitValue c.toLower = hexDigitValue c := by
  have hlower := toNat_toLower c
  have hdigit : c.toLower.isDigit = c.isDigit := by
    rw [Bool.eq_iff_iff, isDigit_iff, isDigit_iff]
    split at hlower <;> omega
  unfold hexDigitValue
  rw [hdigit, toLower_toLower]
  split
  · rename_i h
    rw [isDigit_iff] at h
    rw [if_neg (by omega)] at hlower
    rw [hlower]
  · rfl

/-- The letter case of a hardware address does not matter. -/
theorem macNumber_lower (text : String) : macNumber (lower text) = macNumber text := by
  have hfold : ∀ (cs : List Char) (n : Nat),
      ((cs.map Char.toLower).filter Connection.isHexDigit).foldl
        (fun n c => 16 * n + hexDigitValue c) n =
      (cs.filter Connection.isHexDigit).foldl (fun n c => 16 * n + hexDigitValue c) n := by
    intro cs
    induction cs with
    | nil => simp
    | cons c cs ih =>
      intro n
      rw [List.map_cons, List.filter_cons, List.filter_cons, Connection.isHexDigit_toLower]
      split
      · rw [List.foldl_cons, List.foldl_cons, hexDigitValue_toLower, ih]
      · exact ih n
  unfold macNumber
  rw [Connection.validateMAC_lower, toList_lower, hfold]

namespace AFNode

def hostnameText (node : AFNode) : Option String := node.hostname.filter (· ≠ "")

def macText (node : AFNode) : Option String := (node.macAddress.map lower).filter (· ≠ "")

def macValue (node : AFNode) : Option (BitVec 48) := node.macAddress.bind macNumber

/-- The address of a node, when it is specified. -/
def nodeAddress (node : AFNode) : Option Address := node.startIp.filter (!·.isUnspecified)

def bmcText (node : AFNode) : Option String := node.bmcAddress.filter (· ≠ "")

variable [Inet6]

def bmcValue (node : AFNode) : Option Address := node.bmcText.bind makeAddress

end AFNode

/-- Both are there, and they are equal. -/
def Shared {α : Type} (x y : Option α) : Prop := ∃ v, x = some v ∧ y = some v

/-! ## Clashes -/

/-- Two nodes at different places are related, or a node address meets a BMC address. -/
def Clash (same meets : AFNode → AFNode → Prop) (nodes : List AFNode) : Prop :=
  (¬ nodes.Pairwise fun a b => ¬ same a b) ∨ ∃ a ∈ nodes, ∃ b ∈ nodes, meets a b

theorem not_pairwise_not_or {α : Type} {r s : α → α → Prop} {l : List α} :
    (¬ l.Pairwise fun a b => ¬ (r a b ∨ s a b)) ↔
      (¬ l.Pairwise fun a b => ¬ r a b) ∨ ¬ l.Pairwise fun a b => ¬ s a b := by
  rw [← not_and_or, ← List.pairwise_and_iff]
  simp only [not_or]

theorem not_clash_iff {same meets : AFNode → AFNode → Prop} {nodes : List AFNode} :
    ¬ Clash same meets nodes ↔
      (nodes.Pairwise fun a b => ¬ same a b) ∧ ∀ a ∈ nodes, ∀ b ∈ nodes, ¬ meets a b := by
  unfold Clash
  rw [not_or, not_not]
  simp only [not_exists, not_and]

/-- A clash of two kinds. -/
theorem clash_or {r s m n : AFNode → AFNode → Prop} {nodes : List AFNode} :
    Clash (fun a b => r a b ∨ s a b) (fun a b => m a b ∨ n a b) nodes ↔
      Clash r m nodes ∨ Clash s n nodes := by
  unfold Clash
  rw [not_pairwise_not_or, or_or_or_comm]
  simp only [and_or_left, exists_or]

/-- A relation between any two elements, read from the pairs at different places. -/
theorem forall_mem_forall_mem_iff {α : Type} {r : α → α → Prop} {l : List α} :
    (∀ a ∈ l, ∀ b ∈ l, r a b) ↔ (∀ a ∈ l, r a a) ∧ l.Pairwise fun a b => r a b ∧ r b a := by
  constructor
  · intro h
    refine ⟨fun a ha => h a ha a ha, ?_⟩
    rw [List.pairwise_iff_forall_sublist]
    intro a b hab
    have ha : a ∈ l := hab.subset (by simp)
    have hb : b ∈ l := hab.subset (by simp)
    exact ⟨h a ha b hb, h b hb a ha⟩
  · rintro ⟨hself, hpairs⟩
    obtain ⟨hforth, hback⟩ := List.pairwise_and_iff.mp hpairs
    intro a ha b hb
    exact List.Pairwise.forall_of_forall_of_flip hself hforth hback ha hb

/-! ## The check on texts -/

theorem remembered_eq (value : Option String) :
    remembered value = (value.filter (· ≠ "")).toList := by
  cases value with
  | none => rfl
  | some value => by_cases h : value = "" <;> simp [remembered, Option.filter_some, h]

section Options

variable {α β : Type} {f g : β → Option α} {l : List β}

theorem disjoint_toList_iff {x y : Option α} : List.Disjoint x.toList y.toList ↔ ¬ Shared x y := by
  unfold Shared
  cases x <;> cases y <;> simp [eq_comm]

theorem nodup_toList (x : Option α) : x.toList.Nodup := by
  cases x <;> simp

theorem nodup_flatMap_toList :
    (l.flatMap fun b => (f b).toList).Nodup ↔ l.Pairwise fun a b => ¬ Shared (f a) (f b) := by
  rw [List.nodup_flatMap, and_iff_right fun b _ => nodup_toList (f b)]
  exact List.Pairwise.iff fun _ _ => disjoint_toList_iff

theorem nodup_flatMap_append :
    (l.flatMap fun b => (f b).toList ++ (g b).toList).Nodup ↔
      (l.Pairwise fun a b => ¬ Shared (f a) (f b)) ∧ (l.Pairwise fun a b => ¬ Shared (g a) (g b)) ∧
        ∀ a ∈ l, ∀ b ∈ l, ¬ Shared (f a) (g b) := by
  have hself : ∀ b, ((f b).toList ++ (g b).toList).Nodup ↔ ¬ Shared (f b) (g b) := by
    intro b
    rw [List.nodup_append', disjoint_toList_iff]
    simp only [nodup_toList, true_and]
  have hflip : ∀ a b, ¬ Shared (g a) (f b) ↔ ¬ Shared (f b) (g a) := by
    intro a b
    simp only [Shared, and_comm]
  have hpairs : ∀ a b, List.Disjoint ((f a).toList ++ (g a).toList) ((f b).toList ++ (g b).toList) ↔
      ¬ Shared (f a) (f b) ∧ ¬ Shared (g a) (g b) ∧ ¬ Shared (f a) (g b) ∧ ¬ Shared (f b) (g a) := by
    intro a b
    simp only [List.disjoint_append_left, List.disjoint_append_right, disjoint_toList_iff, hflip]
    tauto
  rw [List.nodup_flatMap, forall_mem_forall_mem_iff]
  simp only [hself]
  rw [List.Pairwise.iff (S := fun a b => ¬ Shared (f a) (f b) ∧ ¬ Shared (g a) (g b) ∧
    ¬ Shared (f a) (g b) ∧ ¬ Shared (f b) (g a)) (fun {a b} => hpairs a b)]
  simp only [List.pairwise_and_iff]
  tauto

end Options

section

variable [Inet6]

/-- Two nodes repeat a text that the check compares. -/
def SameText (a b : AFNode) : Prop :=
  Shared a.hostnameText b.hostnameText ∨ Shared a.macText b.macText ∨
    Shared a.nodeAddress b.nodeAddress ∨ Shared a.bmcText b.bmcText

def MeetsText (a b : AFNode) : Prop := Shared (a.nodeAddress.map Address.toText) b.bmcText

theorem shared_map_toText {x y : Option Address} :
    Shared (x.map Address.toText) (y.map Address.toText) ↔ Shared x y := by
  unfold Shared
  cases x <;> cases y <;> simp [Address.toText_inj]

theorem distinctInventory_iff {nodes : List AFNode} :
    DistinctInventory nodes ↔ ¬ Clash SameText MeetsText nodes := by
  have haddresses : occupiedAddresses = fun node : AFNode =>
      (node.nodeAddress.map Address.toText).toList ++ node.bmcText.toList := by
    funext node
    have hne : (nodeAddressText node).filter (· ≠ "") = nodeAddressText node := by
      unfold nodeAddressText
      cases node.startIp.filter (!·.isUnspecified) with
      | none => rfl
      | some a => simp [Option.filter_some, a.toText_ne_empty]
    rw [occupiedAddresses, remembered_eq, remembered_eq, hne]
    rfl
  rw [not_clash_iff]
  simp only [SameText, not_or, List.pairwise_and_iff, and_assoc]
  constructor
  · rintro ⟨hhosts, hmacs, hall⟩
    simp only [remembered_eq, haddresses] at hhosts hmacs hall
    rw [nodup_flatMap_toList] at hhosts hmacs
    rw [nodup_flatMap_append] at hall
    simp only [shared_map_toText] at hall
    exact ⟨hhosts, hmacs, hall⟩
  · rintro ⟨hhosts, hmacs, hall⟩
    refine ⟨?_, ?_, ?_⟩
    · simp only [remembered_eq]
      exact nodup_flatMap_toList.mpr hhosts
    · simp only [remembered_eq]
      exact nodup_flatMap_toList.mpr hmacs
    · simp only [haddresses]
      rw [nodup_flatMap_append]
      simp only [shared_map_toText]
      exact hall

/-! ## Texts and values -/

/-- What the check is for: every value of the inventory belongs to one node. -/
structure DistinctValues (nodes : List AFNode) : Prop where
  hostnames : nodes.Pairwise fun a b => ¬ Shared a.hostnameText b.hostnameText
  macAddresses : nodes.Pairwise fun a b => ¬ Shared a.macValue b.macValue
  nodeAddresses : nodes.Pairwise fun a b => ¬ Shared a.nodeAddress b.nodeAddress
  bmcAddresses : nodes.Pairwise fun a b => ¬ Shared a.bmcValue b.bmcValue
  allAddresses : ∀ a ∈ nodes, ∀ b ∈ nodes, ¬ Shared a.nodeAddress b.bmcValue

def SameValue (a b : AFNode) : Prop :=
  Shared a.hostnameText b.hostnameText ∨ Shared a.macValue b.macValue ∨
    Shared a.nodeAddress b.nodeAddress ∨ Shared a.bmcValue b.bmcValue

def MeetsValue (a b : AFNode) : Prop := Shared a.nodeAddress b.bmcValue

theorem distinctValues_iff {nodes : List AFNode} :
    DistinctValues nodes ↔ ¬ Clash SameValue MeetsValue nodes := by
  rw [not_clash_iff]
  simp only [SameValue, not_or, List.pairwise_and_iff, and_assoc]
  exact ⟨fun ⟨h₁, h₂, h₃, h₄, h₅⟩ => ⟨h₁, h₂, h₃, h₄, h₅⟩,
    fun ⟨h₁, h₂, h₃, h₄, h₅⟩ => ⟨h₁, h₂, h₃, h₄, h₅⟩⟩

/-- Two nodes have a value in common and write it the same way. -/
def Written (a b : AFNode) : Prop :=
  Shared a.hostnameText b.hostnameText ∨ (Shared a.macText b.macText ∧ a.macValue ≠ none) ∨
    Shared a.nodeAddress b.nodeAddress ∨ (Shared a.bmcText b.bmcText ∧ a.bmcValue ≠ none)

/-- Two nodes have an address in common and write it in two ways. -/
def Respelled (a b : AFNode) : Prop :=
  (Shared a.macValue b.macValue ∧ a.macText ≠ b.macText) ∨
    (Shared a.bmcValue b.bmcValue ∧ a.bmcText ≠ b.bmcText)

/-- The BMC address is not written as the node address is printed. -/
def MeetsRespelled (a b : AFNode) : Prop := MeetsValue a b ∧ ¬ MeetsText a b

/-- Two nodes repeat a text that is no address. -/
def Valueless (a b : AFNode) : Prop :=
  (Shared a.macText b.macText ∧ a.macValue = none) ∨
    (Shared a.bmcText b.bmcText ∧ a.bmcValue = none)

/-- A value is written twice in the same way; or neither an address is written twice in two ways
nor a text that is no address repeated; or there are both. -/
def SpellingHarmless (nodes : List AFNode) : Prop :=
  Clash Written MeetsText nodes ∨
    (Clash Respelled MeetsRespelled nodes ↔ Clash Valueless (fun _ _ => False) nodes)

omit [Inet6] in
theorem macValue_eq (node : AFNode) : node.macValue = node.macText.bind macNumber := by
  unfold AFNode.macValue AFNode.macText
  cases node.macAddress with
  | none => rfl
  | some text =>
    by_cases h : text = ""
    · subst h
      decide
    · simp [Option.filter_some, h, macNumber_lower]

omit [Inet6] in
/-- Values that are read from texts: equal texts with a value, or one value in two texts. -/
theorem shared_bind_iff {α : Type} {f : String → Option α} {x y : Option String} :
    Shared (x.bind f) (y.bind f) ↔
      (Shared x y ∧ x.bind f ≠ none) ∨ (Shared (x.bind f) (y.bind f) ∧ x ≠ y) := by
  constructor
  · intro h
    by_cases hxy : x = y
    · obtain ⟨v, hx, -⟩ := h
      obtain ⟨text, htext, -⟩ := Option.bind_eq_some_iff.mp hx
      exact .inl ⟨⟨text, htext, hxy ▸ htext⟩, by simp [hx]⟩
    · exact .inr ⟨h, hxy⟩
  · rintro (⟨⟨text, rfl, rfl⟩, hsome⟩ | ⟨h, -⟩)
    · obtain ⟨v, hv⟩ := Option.ne_none_iff_exists'.mp hsome
      exact ⟨v, hv, hv⟩
    · exact h

theorem meetsValue_of_meetsText {a b : AFNode} (h : MeetsText a b) : MeetsValue a b := by
  obtain ⟨text, ha, hb⟩ := h
  obtain ⟨ip, hip, rfl⟩ := Option.map_eq_some_iff.mp ha
  exact ⟨ip, hip, by simp [AFNode.bmcValue, hb]⟩

theorem clash_text_iff {nodes : List AFNode} :
    Clash SameText MeetsText nodes ↔
      Clash Written MeetsText nodes ∨ Clash Valueless (fun _ _ => False) nodes := by
  have hsame : SameText = fun a b => Written a b ∨ Valueless a b := by
    funext a b
    unfold SameText Written Valueless
    apply propext
    tauto
  have hmeets : MeetsText = fun a b => MeetsText a b ∨ False := by
    funext a b
    exact propext (or_iff_left id).symm
  rw [hsame, ← clash_or, ← hmeets]

theorem clash_value_iff {nodes : List AFNode} :
    Clash SameValue MeetsValue nodes ↔
      Clash Written MeetsText nodes ∨ Clash Respelled MeetsRespelled nodes := by
  have hsame : SameValue = fun a b => Written a b ∨ Respelled a b := by
    funext a b
    have hmac : Shared a.macValue b.macValue ↔
        (Shared a.macText b.macText ∧ a.macValue ≠ none) ∨
          (Shared a.macValue b.macValue ∧ a.macText ≠ b.macText) := by
      rw [macValue_eq, macValue_eq]
      exact shared_bind_iff
    have hbmc : Shared a.bmcValue b.bmcValue ↔
        (Shared a.bmcText b.bmcText ∧ a.bmcValue ≠ none) ∨
          (Shared a.bmcValue b.bmcValue ∧ a.bmcText ≠ b.bmcText) := shared_bind_iff
    apply propext
    constructor
    · rintro (h | h | h | h)
      · exact .inl (.inl h)
      · rcases hmac.mp h with h | h
        · exact .inl (.inr (.inl h))
        · exact .inr (.inl h)
      · exact .inl (.inr (.inr (.inl h)))
      · rcases hbmc.mp h with h | h
        · exact .inl (.inr (.inr (.inr h)))
        · exact .inr (.inr h)
    · rintro ((h | h | h | h) | h | h)
      · exact .inl h
      · exact .inr (.inl (hmac.mpr (.inl h)))
      · exact .inr (.inr (.inl h))
      · exact .inr (.inr (.inr (hbmc.mpr (.inl h))))
      · exact .inr (.inl h.1)
      · exact .inr (.inr (.inr h.1))
  have hmeets : MeetsValue = fun a b => MeetsText a b ∨ MeetsRespelled a b := by
    funext a b
    have hvalue : MeetsText a b → MeetsValue a b := meetsValue_of_meetsText
    unfold MeetsRespelled
    apply propext
    tauto
  rw [hsame, ← clash_or, ← hmeets]

theorem inventory_check_exact_iff (nodes : List AFNode) :
    (validateNodeInventoryTopology nodes = .ok () ↔ DistinctValues nodes) ↔
      SpellingHarmless nodes := by
  rw [validateNodeInventoryTopology_eq_ok, distinctInventory_iff, distinctValues_iff,
    clash_text_iff, clash_value_iff]
  unfold SpellingHarmless
  by_cases hwritten : Clash Written MeetsText nodes
  · simp [hwritten]
  · simp only [hwritten, false_or]
    exact not_iff_not.trans iff_comm

omit [Inet6] in
/-- One hardware address, with colons at the first node and with hyphens at the second. -/
theorem respelled_mac_accepted :
    let nodes : List AFNode :=
      [{ hostname := some "n01", macAddress := some "52:54:00:00:20:11" },
        { hostname := some "n02", macAddress := some "52-54-00-00-20-11" }]
    @validateNodeInventoryTopology plainInet6 nodes = .ok () ∧ ¬ @DistinctValues plainInet6 nodes := by
  refine ⟨by decide, ?_⟩
  intro h
  have hpair := @DistinctValues.macAddresses plainInet6 _ h
  rw [List.pairwise_pair] at hpair
  apply hpair
  exact ⟨_, rfl, by decide⟩

end

end OpenCattus
