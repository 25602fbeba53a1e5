import OpenCattus.AnswerFile.Redump

/-!
# The numbered node sections

Which groups `loadNodes` takes for nodes, what a node inherits, and the names it makes up from
the number of a section.

`generatedName_inj` says that made-up names differ when the numbers do, and
`nodeSections_resolve_iff` for which key files the sections are read as they are written.
-/

namespace OpenCattus

open Foundations Foundations.Text Foundations.Inet

/-! ## The sections -/

/-- The part of a group name that numbers the node. -/
def sectionNumber (sectionName : String) : String := afterFirst '.' sectionName

/-- A group `node.<k>` for a positive decimal number. -/
def isDecimalSection (sectionName : String) : Bool :=
  (parseDigits (sectionNumber sectionName)).any (0 < ·)

def decimalSections (kf : KeyFile) : List String :=
  (kf.listAllPrefixedEntries "node.").filter isDecimalSection

/-- A sign before a number that is not zero. -/
def IsSigned (number : String) : Prop :=
  ∃ digits n, (number.toList = '+' :: digits ∨ number.toList = '-' :: digits) ∧
    parseDigits (String.ofList digits) = some n ∧ 0 < n ∧ n < sizeLimit

/-- A number that no `std::size_t` holds. -/
def IsHuge (number : String) : Prop := ∃ n, parseDigits number = some n ∧ sizeLimit ≤ n

/-- No node section has a sign in its number, and none is out of range. -/
def PlainSections (kf : KeyFile) : Prop :=
  ∀ sectionName ∈ kf.listAllPrefixedEntries "node.",
    ¬ IsSigned (sectionNumber sectionName) ∧ ¬ IsHuge (sectionNumber sectionName)

theorem not_isSigned_of_parseDigits {number : String} {n : Nat} (h : parseDigits number = some n) :
    ¬ IsSigned number := by
  rintro ⟨digits, _, hsign | hsign, -⟩
  · exact absurd (isDigit_of_parseDigits h (hsign ▸ List.mem_cons_self ..)) (by decide)
  · exact absurd (isDigit_of_parseDigits h (hsign ▸ List.mem_cons_self ..)) (by decide)

theorem inRange_any {digits : List Char} {f : Nat → Nat} :
    (lexicalCast.inRange 64 digits f).any (0 < ·) = true ↔
      ∃ n, parseDigits (String.ofList digits) = some n ∧ n < sizeLimit ∧ 0 < f n := by
  unfold lexicalCast.inRange
  cases hdigits : parseDigits (String.ofList digits) with
  | none => simp
  | some n =>
    change (if n < sizeLimit then some (f n) else none).any _ = true ↔ _
    split <;> simp_all

/-- The numbers that `boost::lexical_cast` reads as positive: decimal ones in range, and any
with a sign, since a negative one wraps around. -/
theorem isNodeNumber_iff {sectionName : String} :
    isNodeNumber sectionName = true ↔
      (∃ n, parseDigits (sectionNumber sectionName) = some n ∧ 0 < n ∧ n < sizeLimit) ∨
        IsSigned (sectionNumber sectionName) := by
  unfold isNodeNumber nodeCounter
  change (lexicalCast 64 (sectionNumber sectionName)).any _ = true ↔ _
  generalize sectionNumber sectionName = number
  cases hdigits : parseDigits number with
  | some n =>
    have hsigned := not_isSigned_of_parseDigits hdigits
    rw [lexicalCast_of_parseDigits hdigits]
    change (if n < sizeLimit then some n else none).any _ = true ↔ _
    split <;> simp_all
  | none =>
    unfold lexicalCast
    split
    · rename_i digits heq
      rw [inRange_any]
      constructor
      · rintro ⟨n, hn, hlt, hpos⟩
        have hzero : n ≠ 0 := by
          rintro rfl
          simp at hpos
        exact .inr ⟨digits, n, .inr heq, hn, Nat.pos_of_ne_zero hzero, hlt⟩
      · rintro (⟨n, h, -⟩ | ⟨ds, n, hsign, hn, hpos, hlt⟩)
        · cases h
        · obtain rfl : ds = digits := by simpa [heq, eq_comm] using hsign
          refine ⟨n, hn, hlt, ?_⟩
          rw [Nat.mod_eq_of_lt (Nat.sub_lt (by decide) hpos)]
          exact Nat.sub_pos_of_lt hlt
    · rename_i digits heq
      rw [inRange_any]
      constructor
      · rintro ⟨n, hn, hlt, hpos⟩
        exact .inr ⟨digits, n, .inl heq, hn, hpos, hlt⟩
      · rintro (⟨n, h, -⟩ | ⟨ds, n, hsign, hn, hpos, hlt⟩)
        · cases h
        · obtain rfl : ds = digits := by simpa [heq, eq_comm] using hsign
          exact ⟨n, hn, hlt, hpos⟩
    · rename_i hminus hplus
      rw [inRange_any, String.ofList_toList, hdigits]
      constructor
      · rintro ⟨n, h, -⟩
        cases h
      · rintro (⟨n, h, -⟩ | ⟨ds, n, hsign | hsign, -⟩)
        · cases h
        · exact absurd hsign (hplus ds)
        · exact absurd hsign (hminus ds)

theorem isDecimalSection_iff {sectionName : String} :
    isDecimalSection sectionName = true ↔
      ∃ n, parseDigits (sectionNumber sectionName) = some n ∧ 0 < n := by
  simp [isDecimalSection, Option.any_eq_true]

/-- The loop and the decimal numbers differ on signs and on numbers out of range. -/
theorem isNodeNumber_eq_iff (sectionName : String) :
    isNodeNumber sectionName = isDecimalSection sectionName ↔
      ¬ IsSigned (sectionNumber sectionName) ∧ ¬ IsHuge (sectionNumber sectionName) := by
  rw [Bool.eq_iff_iff, isNodeNumber_iff, isDecimalSection_iff]
  constructor
  · intro h
    refine ⟨fun hsigned => ?_, fun ⟨n, hn, hhuge⟩ => ?_⟩
    · obtain ⟨n, hn, -⟩ := h.mp (.inr hsigned)
      exact not_isSigned_of_parseDigits hn hsigned
    · have hpos : 0 < n := Nat.lt_of_lt_of_le (by decide) hhuge
      rcases h.mpr ⟨n, hn, hpos⟩ with ⟨m, hm, -, hlt⟩ | hsigned
      · obtain rfl : n = m := Option.some.inj (hn.symm.trans hm)
        omega
      · exact not_isSigned_of_parseDigits hn hsigned
  · rintro ⟨hsigned, hhuge⟩
    constructor
    · rintro (⟨n, hn, hpos, -⟩ | h)
      · exact ⟨n, hn, hpos⟩
      · exact absurd h hsigned
    · rintro ⟨n, hn, hpos⟩
      have hlt : n < sizeLimit := Nat.lt_of_not_le fun hle => hhuge ⟨n, hn, hle⟩
      exact .inl ⟨n, hn, hpos, hlt⟩

/-- The loop goes through the decimal sections when the section names are plain. -/
theorem nodeSections_eq_iff (kf : KeyFile) :
    nodeSections kf = decimalSections kf ↔ PlainSections kf := by
  unfold nodeSections decimalSections PlainSections
  constructor
  · intro h sectionName hname
    apply (isNodeNumber_eq_iff sectionName).mp
    have hmem : sectionName ∈ (kf.listAllPrefixedEntries "node.").filter isNodeNumber ↔
        sectionName ∈ (kf.listAllPrefixedEntries "node.").filter isDecimalSection := by
      rw [h]
    rw [List.mem_filter, List.mem_filter, and_iff_right hname, and_iff_right hname] at hmem
    exact Bool.eq_iff_iff.mpr hmem
  · intro h
    apply List.filter_congr
    intro sectionName hname
    exact (isNodeNumber_eq_iff sectionName).mpr (h sectionName hname)

/-- The number `k` of a group `node.<k>`. -/
def sectionNumeral (sectionName : String) : Nat := (parseDigits (sectionNumber sectionName)).getD 0

theorem nodeCounter_of_plain {kf : KeyFile} (hplain : PlainSections kf) {sectionName : String}
    (hname : sectionName ∈ nodeSections kf) :
    (nodeCounter sectionName).getD 0 = sectionNumeral sectionName := by
  obtain ⟨hprefixed, hnumber⟩ := List.mem_filter.mp hname
  rcases isNodeNumber_iff.mp hnumber with ⟨n, hn, -, hlt⟩ | hsigned
  · change (lexicalCast 64 (sectionNumber sectionName)).getD 0 = _
    rw [lexicalCast_of_parseDigits hn, if_pos (show n < 2 ^ 64 from hlt), sectionNumeral, hn]
  · exact absurd hsigned (hplain sectionName hprefixed).1

/-! ## Made-up names -/

/-- The name for a node without a host name: the prefix, then the number padded with zeros. -/
def generatedName (generic : AFNode) (counter : Nat) : String :=
  generic.nodePrefix.getD "" ++
    padZero ((parseDigits (generic.padding.getD "")).getD 0) counter

theorem generatedName_inj {generic : AFNode} {i j : Nat} :
    generatedName generic i = generatedName generic j ↔ i = j := by
  unfold generatedName
  rw [String.append_right_inj, padZero_inj]

/-- A padding within the range of `int`. -/
def PaddingFits (generic : AFNode) : Prop :=
  ∃ width, parseDigits (generic.padding.getD "") = some width ∧ width < 2 ^ 31

/-- What may come of a node without a host name: the name, or an invalid argument that names
the section. -/
inductive NameMade (generic : AFNode) (counter : Nat) : Result (Option String) → Prop
  | made : NameMade generic counter (.ok (some (generatedName generic counter)))
  | refused (reason : String) : NameMade generic counter
      (invalidArgument ("Section node." ++ decimal counter ++ reason))

/-- `std::stoi` gives the padding up, with an exception of its own, from 2^31 on. -/
theorem nodeHostname_of_width {generic : AFNode} {counter width : Nat} {hostname : Option String}
    (hwidth : parseDigits (generic.padding.getD "") = some width)
    (hname : hasText hostname = false) :
    nodeHostname generic counter hostname =
      if generic.nodePrefix.getD "" = "" then
        invalidArgument ("Section node." ++ decimal counter ++
          " must have a 'hostname' key or you must inform a generic 'prefix' value")
      else if width < 2 ^ 31 then .ok (some (generatedName generic counter))
      else .error ⟨.outOfRange, "stoi"⟩ := by
  have hpadding : generic.padding.getD "" ≠ "" := by
    intro hempty
    simp [hempty, parseDigits] at hwidth
  unfold nodeHostname generatedName
  rw [if_neg (not_not.mpr (hasText_eq_false.mp hname)), if_neg hpadding,
    stoi_of_parseDigits hwidth, hwidth]
  split
  · rfl
  · split <;> rfl

theorem exists_width {generic : AFNode}
    (hpadding : generic.padding.any (isUnsigned true) = true) :
    ∃ width, parseDigits (generic.padding.getD "") = some width := by
  cases hsome : generic.padding with
  | none => simp [hsome] at hpadding
  | some padding =>
    rw [hsome, Option.any_some] at hpadding
    unfold isUnsigned at hpadding
    split at hpadding
    · exact ⟨_, ‹_›⟩
    · cases hpadding

theorem nameMade_iff {generic : AFNode} {counter : Nat} {hostname : Option String}
    (hpadding : generic.padding.any (isUnsigned true) = true)
    (hname : hasText hostname = false) :
    NameMade generic counter (nodeHostname generic counter hostname) ↔
      (generic.nodePrefix.getD "" ≠ "" → PaddingFits generic) := by
  obtain ⟨width, hwidth⟩ := exists_width hpadding
  have hfits : PaddingFits generic ↔ width < 2 ^ 31 := by
    simp [PaddingFits, hwidth]
  rw [nodeHostname_of_width hwidth hname, hfits]
  by_cases hprefix : generic.nodePrefix.getD "" = ""
  · rw [if_pos hprefix]
    exact ⟨fun _ h => absurd hprefix h, fun _ => .refused _⟩
  · rw [if_neg hprefix]
    by_cases hlt : width < 2 ^ 31
    · rw [if_pos hlt]
      exact ⟨fun _ _ => hlt, fun _ => .made⟩
    · rw [if_neg hlt]
      constructor
      · intro h
        cases h
      · intro h
        exact absurd (h hprefix) hlt

theorem nodeHostname_eq_ok {generic : AFNode} {counter : Nat} {hostname r : Option String}
    (hpadding : generic.padding.any (isUnsigned true) = true)
    (h : nodeHostname generic counter hostname = .ok r) :
    r = if hasText hostname then hostname else some (generatedName generic counter) := by
  cases hname : hasText hostname with
  | true =>
    rw [nodeHostname_of_hasText hname] at h
    exact (Except.ok.inj h).symm
  | false =>
    obtain ⟨width, hwidth⟩ := exists_width hpadding
    rw [nodeHostname_of_width hwidth hname] at h
    split at h
    · cases h
    · split at h
      · exact (Except.ok.inj h).symm
      · cases h

section

variable [Inet6]

/-! ## What a node inherits -/

/-- The address that a section gives. -/
def ownAddress (kf : KeyFile) (sectionName : String) : Option Address :=
  (kf.data.lookup sectionName "node_ip").bind makeAddress

/-- The node of a section: its own values where it has any, else those of the generic node. -/
structure FromSection (kf : KeyFile) (generic : AFNode) (sectionName : String) (node : AFNode) :
    Prop where
  macAddress : node.macAddress = kf.data.lookup sectionName "mac_address"
  startIp : node.startIp = inheritAddress (ownAddress kf sectionName) generic.startIp
  rootPassword : node.rootPassword =
    inheritText (kf.data.lookup sectionName "node_root_password") generic.rootPassword
  sockets : node.sockets = inheritText (kf.data.lookup sectionName "sockets") generic.sockets
  coresPerSocket : node.coresPerSocket =
    inheritText (kf.data.lookup sectionName "cores_per_socket") generic.coresPerSocket
  threadsPerCore : node.threadsPerCore =
    inheritText (kf.data.lookup sectionName "threads_per_core") generic.threadsPerCore
  bmc : hasText node.bmcAddress = true →
    node.bmcAddress =
        inheritText (kf.data.lookup sectionName "bmc_address") generic.bmcAddress ∧
      node.bmcUsername =
          inheritText (kf.data.lookup sectionName "bmc_username") generic.bmcUsername ∧
        node.bmcPassword =
            inheritText (kf.data.lookup sectionName "bmc_password") generic.bmcPassword ∧
          node.bmcSerialport =
              inheritText (kf.data.lookup sectionName "bmc_serialport") generic.bmcSerialport ∧
            node.bmcSerialspeed =
              inheritText (kf.data.lookup sectionName "bmc_serialspeed") generic.bmcSerialspeed
  hostname : node.hostname =
    if hasText (kf.data.lookup sectionName "hostname") then kf.data.lookup sectionName "hostname"
    else some (generatedName generic (sectionNumeral sectionName))

omit [Inet6] in
theorem hasText_getD {value : Option String} : hasText (some (value.getD "")) = hasText value := by
  cases value <;> simp [hasText]

omit [Inet6] in
theorem inheritText_getD {value generic : Option String} :
    inheritText (some (value.getD "")) generic = inheritText value generic := by
  unfold inheritText
  rw [hasText_getD]
  cases value <;> simp

omit [Inet6] in
theorem inheritAddress_getD {own generic : Option Address} :
    inheritAddress (some (own.getD default)) generic = inheritAddress own generic := by
  cases own with
  | some a => rfl
  | none =>
    have hdefault : isSpecified (some (default : Address)) = false := by decide
    simp [inheritAddress, hdefault, show isSpecified none = false from rfl]

theorem loadOptionalNodeIp_eq_ok {kf : KeyFile} {sectionName : String} {r : Address}
    (h : loadOptionalNodeIp kf sectionName = .ok r) :
    r = (ownAddress kf sectionName).getD default := by
  unfold loadOptionalNodeIp loadNodeIp at h
  rw [except_bind_ok] at h
  obtain ⟨text, htext, h⟩ := h
  obtain ⟨-, hlookup⟩ := KeyFile.getStringOpt_eq_ok.mp htext
  unfold ownAddress
  rw [hlookup]
  cases text with
  | none => exact (Except.ok.inj h).symm
  | some text =>
    simp only [except_bind_ok, KeyFile.getString_eq_ok, rethrowInvalidArgument_eq_ok, hlookup] at h
    obtain ⟨_, heq, h⟩ := h
    obtain rfl := Option.some.inj heq
    unfold convertStringToAddress at h
    rw [Option.bind_some]
    split at h
    · rename_i a ha
      rw [ha]
      exact (Except.ok.inj h).symm
    · simp at h

/-- A numbered section has its keys, the empty text for a key that is missing. -/
theorem loadNode_eq_ok {kf : KeyFile} {sectionName : String} {r : AFNode}
    (hsection : sectionName ≠ "node") (h : loadNode kf sectionName = .ok r) :
    r =
      { startIp := some ((ownAddress kf sectionName).getD default)
        hostname := some ((kf.data.lookup sectionName "hostname").getD "")
        rootPassword := some ((kf.data.lookup sectionName "node_root_password").getD "")
        macAddress := kf.data.lookup sectionName "mac_address"
        sockets := some ((kf.data.lookup sectionName "sockets").getD "")
        coresPerSocket := some ((kf.data.lookup sectionName "cores_per_socket").getD "")
        threadsPerCore := some ((kf.data.lookup sectionName "threads_per_core").getD "")
        bmcAddress := some ((kf.data.lookup sectionName "bmc_address").getD "")
        bmcUsername := some ((kf.data.lookup sectionName "bmc_username").getD "")
        bmcPassword := some ((kf.data.lookup sectionName "bmc_password").getD "")
        bmcSerialport := some ((kf.data.lookup sectionName "bmc_serialport").getD "")
        bmcSerialspeed := some ((kf.data.lookup sectionName "bmc_serialspeed").getD "") } := by
  unfold loadNode at h
  rw [if_neg hsection] at h
  simp only [except_bind_ok, KeyFile.getString_eq_ok, KeyFile.getStringOr_eq_ok] at h
  obtain ⟨mac, hmac, ip, hip, _, ⟨-, rfl⟩, _, ⟨-, rfl⟩, _, ⟨-, rfl⟩, _, ⟨-, rfl⟩, _, ⟨-, rfl⟩, _,
    ⟨-, rfl⟩, _, ⟨-, rfl⟩, _, ⟨-, rfl⟩, _, ⟨-, rfl⟩, _, ⟨-, rfl⟩, h⟩ := h
  obtain rfl := loadOptionalNodeIp_eq_ok hip
  rw [hmac]
  exact (Except.ok.inj h).symm

omit [Inet6] in
/-- A node with a BMC address after inheritance inherits the other BMC values too. -/
theorem resolveBMC_of_hasText {generic node : AFNode}
    (h : hasText (resolveBMC generic node).bmcAddress = true) :
    resolveBMC generic node =
      { node with
        bmcAddress := inheritText node.bmcAddress generic.bmcAddress
        bmcUsername := inheritText node.bmcUsername generic.bmcUsername
        bmcPassword := inheritText node.bmcPassword generic.bmcPassword
        bmcSerialport := inheritText node.bmcSerialport generic.bmcSerialport
        bmcSerialspeed := inheritText node.bmcSerialspeed generic.bmcSerialspeed } := by
  unfold resolveBMC at h ⊢
  split at h
  · rw [if_pos ‹_›]
  · rename_i hnone
    have hown : hasText (clearIfEmpty node.bmcAddress) = hasText node.bmcAddress := by
      cases node.bmcAddress with
      | none => rfl
      | some value =>
        by_cases hvalue : value = "" <;> simp [clearIfEmpty, Option.filter, hasText, hvalue]
    simp only [hown] at h
    exact absurd (by rw [h, Bool.true_or]) hnone

/-- One round of the loop makes the node of its section. -/
theorem fromSection_of_loadNumberedNode {kf : KeyFile} (hplain : PlainSections kf)
    {generic node : AFNode} {sectionName : String} (hname : sectionName ∈ nodeSections kf)
    (hpadding : generic.padding.any (isUnsigned true) = true)
    (h : loadNumberedNode kf generic sectionName = .ok node) :
    FromSection kf generic sectionName node := by
  unfold loadNumberedNode at h
  simp only [except_bind_ok, rethrowInvalidArgument_eq_ok, validateNode_eq_ok] at h
  obtain ⟨own, hown, hostname, hhostname, rfl, -⟩ := h
  obtain rfl := loadNode_eq_ok (ne_node_of_mem hname) hown
  have hhost := nodeHostname_eq_ok hpadding hhostname
  rw [nodeCounter_of_plain hplain hname] at hhost
  refine ⟨?_, ?_, ?_, ?_, ?_, ?_, ?_, ?_⟩
  · simp [resolveNode]
  · simp [resolveNode, inheritAddress_getD]
  · simp [resolveNode, inheritText_getD]
  · simp [resolveNode, inheritText_getD]
  · simp [resolveNode, inheritText_getD]
  · simp [resolveNode, inheritText_getD]
  · intro hbmc
    unfold resolveNode at hbmc ⊢
    rw [resolveBMC_of_hasText hbmc]
    simp [inheritText_getD]
  · rw [hasText_getD] at hhost
    unfold resolveNode
    rw [resolveBMC_hostname, hhost]
    cases kf.data.lookup sectionName "hostname" <;> rfl

/-! ## All sections -/

/-- A node that gets a made-up name. -/
def IsUnnamed (kf : KeyFile) (sectionName : String) : Prop :=
  hasText (kf.data.lookup sectionName "hostname") = false

/-- The node sections are read as they are written. -/
structure NodesRead (kf : KeyFile) : Prop where
  /-- The loop goes through the groups `node.<k>`, in file order. -/
  sections : nodeSections kf = decimalSections kf
  /-- Each node is the one of its section. -/
  resolved : ∀ r generic, loadNodes kf = .ok r → r.generic = some generic →
    List.Forall₂ (FromSection kf generic) (decimalSections kf) r.nodes
  /-- Nodes with made-up names and different numbers have different names. -/
  distinct : ∀ r, loadNodes kf = .ok r →
    ∀ a b, a ∈ (decimalSections kf).zip r.nodes → b ∈ (decimalSections kf).zip r.nodes →
      IsUnnamed kf a.1 → IsUnnamed kf b.1 → sectionNumeral a.1 ≠ sectionNumeral b.1 →
        a.2.hostname ≠ b.2.hostname
  /-- With an accepted generic section, each name is made or refused by an invalid argument
  that names the section. -/
  made : ∀ generic, loadNode kf "node" = .ok generic →
    ∀ sectionName ∈ nodeSections kf, ∀ own, loadNode kf sectionName = .ok own →
      hasText own.hostname = false →
        NameMade generic (sectionNumeral sectionName)
          (nodeHostname generic ((nodeCounter sectionName).getD 0) own.hostname)

/-- Where a name is made up from a prefix, the padding is within the range of `int`. -/
def NamesFit (kf : KeyFile) : Prop :=
  ∀ generic, loadNode kf "node" = .ok generic →
    ∀ sectionName ∈ nodeSections kf, ∀ own, loadNode kf sectionName = .ok own →
      hasText own.hostname = false → generic.nodePrefix.getD "" ≠ "" → PaddingFits generic

theorem resolved_of_plain {kf : KeyFile} (hplain : PlainSections kf) {r : AFNodes}
    {generic : AFNode} (h : loadNodes kf = .ok r) (hgeneric : r.generic = some generic) :
    List.Forall₂ (FromSection kf generic) (decimalSections kf) r.nodes := by
  obtain ⟨generic', hload, hsome, -, hnodes, -⟩ := loadNodes_eq_ok.mp h
  obtain rfl : generic = generic' := Option.some.inj (hgeneric.symm.trans hsome)
  have hpadding := (loadGenericNode_stable hload).1.padding
  rw [← (nodeSections_eq_iff kf).mpr hplain]
  obtain ⟨hlength, hzip⟩ := List.forall₂_iff_zip.mp hnodes
  refine List.forall₂_iff_zip.mpr ⟨hlength, fun {sectionName node} hmem => ?_⟩
  exact fromSection_of_loadNumberedNode hplain (List.of_mem_zip hmem).1 hpadding (hzip hmem)

theorem nodeSections_resolve_iff (kf : KeyFile) :
    NodesRead kf ↔ PlainSections kf ∧ NamesFit kf := by
  constructor
  · intro h
    have hplain := (nodeSections_eq_iff kf).mp h.sections
    refine ⟨hplain, fun generic hgeneric sectionName hname own hown hunnamed => ?_⟩
    have hmade := h.made generic hgeneric sectionName hname own hown hunnamed
    rw [nodeCounter_of_plain hplain hname] at hmade
    exact (nameMade_iff (loadGenericNode_stable hgeneric).1.padding hunnamed).mp hmade
  · rintro ⟨hplain, hfit⟩
    refine ⟨(nodeSections_eq_iff kf).mpr hplain, fun r generic => resolved_of_plain hplain, ?_, ?_⟩
    · intro r hr a b ha hb hunnamedA hunnamedB hnumeral
      obtain ⟨generic, -, hgeneric, -⟩ := loadNodes_eq_ok.mp hr
      have hnodes := resolved_of_plain hplain hr hgeneric
      have hname : ∀ c ∈ (decimalSections kf).zip r.nodes, IsUnnamed kf c.1 →
          c.2.hostname = some (generatedName generic (sectionNumeral c.1)) := by
        intro c hc hunnamed
        have hfrom := (List.forall₂_iff_zip.mp hnodes).2 hc
        rw [hfrom.hostname, if_neg (by simp [show _ = false from hunnamed])]
      rw [hname a ha hunnamedA, hname b hb hunnamedB]
      intro hsame
      exact hnumeral (generatedName_inj.mp (Option.some.inj hsame))
    · intro generic hgeneric sectionName hname own hown hunnamed
      rw [nodeCounter_of_plain hplain hname]
      exact (nameMade_iff (loadGenericNode_stable hgeneric).1.padding hunnamed).mpr
        (hfit generic hgeneric sectionName hname own hown hunnamed)

/-- A padding that the check of the generic section accepts and `std::stoi` does not. -/
def widePaddingKeyFile : KeyFile where
  path := "answerfile.ini"
  data :=
    { groups :=
        [("node",
            [("prefix", "n"), ("padding", "4294967296"), ("node_ip", "192.168.30.1"),
              ("node_root_password", "secret"), ("sockets", "1"), ("cores_per_socket", "1"),
              ("threads_per_core", "1"), ("cpus_per_node", "1"), ("real_memory", "4096"),
              ("bmc_username", "admin"), ("bmc_password", "admin"), ("bmc_serialport", "0"),
              ("bmc_serialspeed", "9600")]),
          ("node.1", [("mac_address", "52:54:00:00:20:11"), ("node_ip", "192.168.30.1")])]
      nodup := by decide }

def widePaddingNode : AFNode where
  nodePrefix := some "n"
  padding := some "4294967296"
  startIp := some (.v4 0xc0a81e01)
  rootPassword := some "secret"
  sockets := some "1"
  coresPerSocket := some "1"
  threadsPerCore := some "1"
  cpusPerNode := some "1"
  realMemory := some "4096"
  bmcUsername := some "admin"
  bmcPassword := some "admin"
  bmcSerialport := some "0"
  bmcSerialspeed := some "9600"

omit [Inet6] in
/-- The failure of `std::stoi` leaves `loadNodes`. -/
theorem wide_padding_not_read :
    @loadNodes plainInet6 widePaddingKeyFile = .error ⟨.outOfRange, "stoi"⟩ ∧
      ¬ @NodesRead plainInet6 widePaddingKeyFile := by
  refine ⟨by decide, fun h => ?_⟩
  have hgeneric : @loadNode plainInet6 widePaddingKeyFile "node" = .ok widePaddingNode := by
    decide
  have hname : "node.1" ∈ nodeSections widePaddingKeyFile := by
    decide
  have hnode : @loadNode plainInet6 widePaddingKeyFile "node.1" = .ok
      { startIp := some (.v4 0xc0a81e01), hostname := some "", rootPassword := some "",
        macAddress := some "52:54:00:00:20:11", sockets := some "", coresPerSocket := some "",
        threadsPerCore := some "", bmcAddress := some "", bmcUsername := some "",
        bmcPassword := some "", bmcSerialport := some "", bmcSerialspeed := some "" } := by
    decide
  have hmade := @NodesRead.made plainInet6 _ h widePaddingNode hgeneric "node.1" hname _ hnode rfl
  have hfails : nodeHostname widePaddingNode ((nodeCounter "node.1").getD 0) (some "") =
      .error ⟨.outOfRange, "stoi"⟩ := by
    decide
  rw [hfails] at hmade
  cases hmade

end

end OpenCattus
