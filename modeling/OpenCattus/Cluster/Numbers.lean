import OpenCattus.Cluster.NodeReload

/-!
# Numbers of the answerfile

A number is read twice: when the answerfile is checked, by `std::from_chars` after a test of the
single characters, and when the cluster is filled, by `std::stoul`. `parseUnsignedScan` is the check
with the call of `std::from_chars`; `parseUnsignedScan_eq` says that the check of the loader is the
same one.

`numeric_fields_match` says which texts the checks accept and that the second reading gives the
same number.
-/

namespace OpenCattus

open Foundations Foundations.Text

/-! ## `std::from_chars` -/

/-- `std::errc`, as far as `std::from_chars` sets it. -/
inductive ConversionError where
  | none | invalidArgument | resultOutOfRange
  deriving DecidableEq, Repr

structure FromCharsResult where
  /-- What was not read. -/
  ptr : List Char
  ec : ConversionError
  /-- The number, which an error leaves as it was. -/
  value : Nat
  deriving DecidableEq, Repr

/-- `std::from_chars` to `std::size_t`, with the value that the number had before. Neither blanks
nor a sign are read. -/
def fromChars (cs : List Char) (value : Nat) : FromCharsResult :=
  let digits := cs.takeWhile Char.isDigit
  let rest := cs.dropWhile Char.isDigit
  if digits = [] then ⟨cs, .invalidArgument, value⟩
  else if sizeLimit ≤ Nat.ofDigitChars 10 digits 0 then ⟨rest, .resultOutOfRange, value⟩
  else ⟨rest, .none, Nat.ofDigitChars 10 digits 0⟩

theorem fromChars_of_digits {cs : List Char} (hne : cs ≠ []) (h : ∀ c ∈ cs, c.isDigit = true)
    (value : Nat) :
    fromChars cs value =
      if sizeLimit ≤ Nat.ofDigitChars 10 cs 0 then ⟨[], .resultOutOfRange, value⟩
      else ⟨[], .none, Nat.ofDigitChars 10 cs 0⟩ := by
  have htake : cs.takeWhile Char.isDigit = cs := List.takeWhile_eq_self_iff.mpr h
  have hdrop : cs.dropWhile Char.isDigit = [] := List.dropWhile_eq_nil_iff.mpr h
  rw [fromChars, htake, hdrop, if_neg hne]

/-! ## The check with the scan -/

/-- `parseUnsignedAnswerfileField` with its call of `std::from_chars`. -/
def parseUnsignedScan (sectionName field value : String) (allowZero : Bool) : Result Nat :=
  let expectedType := if allowZero then "an unsigned integer" else "a positive integer"
  let fail (reason : String) : Result Nat :=
    invalidArgument ("Section '" ++ sectionName ++ "' field '" ++ field ++
      "' validation failed - " ++ reason ++ " (expected " ++ expectedType ++ ", value is '" ++
      value ++ "')")
  if value = "" then fail "empty value"
  else if !value.toList.all Char.isDigit then fail "not a number"
  else
    let result := fromChars value.toList 0
    if result.ec = .resultOutOfRange then fail "value is out of range"
    else if result.ec ≠ .none ∨ result.ptr ≠ [] then fail "not a number"
    else if !allowZero && result.value == 0 then fail "zero is not valid"
    else .ok result.value

/-- `parsePortAnswerfileField` over the check with the scan. -/
def parsePortScan (sectionName field value : String) : Result Nat := do
  let port ← parseUnsignedScan sectionName field value false
  if port > 65535 then
    invalidArgument ("Section '" ++ sectionName ++ "' field '" ++ field ++
      "' validation failed - port is out of range (expected 1-65535, value is '" ++ value ++ "')")
  else .ok port

/-- The second test for something that is no number never fails. -/
theorem parseUnsignedScan_eq : parseUnsignedScan = parseUnsignedAnswerfileField := by
  funext sectionName field value allowZero
  unfold parseUnsignedScan parseUnsignedAnswerfileField
  by_cases hempty : value = ""
  · simp only [hempty, if_true]
  · rcases hdigits : value.toList.all Char.isDigit with _ | _
    · simp [hempty, hdigits, parseDigits]
    · have hscan := fromChars_of_digits (by simpa using hempty) (List.all_eq_true.mp hdigits) 0
      have hparse : parseDigits value = some (Nat.ofDigitChars 10 value.toList 0) := by
        rw [parseDigits, if_pos ⟨hempty, hdigits⟩]
      rw [hscan, hparse]
      by_cases hrange : sizeLimit ≤ Nat.ofDigitChars 10 value.toList 0
      · simp [hempty, hrange]
      · simp [hempty, hrange]

theorem parsePortScan_eq : parsePortScan = parsePortAnswerfileField := by
  funext sectionName field value
  rw [parsePortScan, parseUnsignedScan_eq, parsePortAnswerfileField]

/-! ## Numerals -/

/-- A text of decimal digits, and its value. -/
structure IsNumeral (value : String) (n : Nat) : Prop where
  nonempty : value ≠ ""
  digits : ∀ c ∈ value.toList, c.isDigit = true
  value : Nat.ofDigitChars 10 value.toList 0 = n

theorem parseDigits_eq_some {value : String} {n : Nat} :
    parseDigits value = some n ↔ IsNumeral value n := by
  unfold parseDigits
  constructor
  · intro h
    split at h
    · rename_i hvalue
      exact ⟨hvalue.1, List.all_eq_true.mp hvalue.2, Option.some.inj h⟩
    · cases h
  · rintro ⟨hne, hdigits, hn⟩
    rw [if_pos ⟨hne, List.all_eq_true.mpr hdigits⟩, hn]

/-- Both readings of a number: the check of a field and the conversion in `Cluster::fillData`. -/
theorem numeric_fields_match (sectionName field value : String) :
    (∀ allowZero n, parseUnsignedScan sectionName field value allowZero = .ok n ↔
      IsNumeral value n ∧ n < sizeLimit ∧ (allowZero = true ∨ n ≠ 0)) ∧
    (∀ allowZero n, parseUnsignedScan sectionName field value allowZero = .ok n →
      stoul value = .ok n ∧ Cluster.numberOf (some value) = .ok n ∧
        ∀ nodename fieldName, Cluster.convertOrError nodename value fieldName = .ok n) ∧
    ∀ port, parsePortScan sectionName field value = .ok port ↔
      IsNumeral value port ∧ 1 ≤ port ∧ port ≤ 65535 := by
  have hunsigned : ∀ allowZero n, parseUnsignedScan sectionName field value allowZero = .ok n ↔
      IsNumeral value n ∧ n < sizeLimit ∧ (allowZero = true ∨ n ≠ 0) := by
    intro allowZero n
    rw [parseUnsignedScan_eq, parseUnsignedAnswerfileField_eq_ok, parseDigits_eq_some]
    refine and_congr_right fun hnumeral => ?_
    rw [isUnsigned, parseDigits_eq_some.mpr hnumeral]
    simp
  refine ⟨hunsigned, ?_, ?_⟩
  · intro allowZero n h
    obtain ⟨hnumeral, hlt, -⟩ := (hunsigned allowZero n).mp h
    have hstoul := stoul_of_parseDigits (parseDigits_eq_some.mpr hnumeral) hlt
    exact ⟨hstoul, Cluster.numberOf_eq_ok.mpr ⟨value, rfl, hstoul⟩,
      fun _ _ => Cluster.convertOrError_eq_ok.mpr hstoul⟩
  · intro port
    rw [parsePortScan_eq, parsePortAnswerfileField_eq_ok, parseDigits_eq_some, Nat.succ_le_iff]

end OpenCattus
