import OpenCattus.Foundations.Program
import OpenCattus.Foundations.Inet
import OpenCattus.Foundations.KeyFile

/-!
# Exceptions, enumerations and conversions

What every part of the installer uses: the exceptions it throws and tells apart when it
catches them, the names of enumerators, the conversions between text and numbers of the
standard library, and vectors of bounded size.
-/

namespace OpenCattus

open Foundations Foundations.Text Foundations.Inet

/-! ## Exceptions -/

/-- The classes that `throw` and `catch` clauses distinguish. -/
inductive ExceptionKind where
  | invalidArgument
  | runtimeError
  | outOfRange
  | logicError
  | lengthError
  | badLexicalCast
  | badAddressCast
  | systemError
  | keyFileError
  | optionalAccess
  | answerfileValidation
  | badAlloc
  | stdString
  /-- The program has no defined behaviour from here on. -/
  | undefinedBehaviour
  | viewBackRequested
  | viewAbortRequested
  deriving DecidableEq, Repr

structure Exception where
  kind : ExceptionKind
  what : String
  deriving DecidableEq, Repr

abbrev Result (α : Type) : Type := Except Exception α

variable {α β : Type}

def invalidArgument (what : String) : Result α := .error ⟨.invalidArgument, what⟩

def runtimeError (what : String) : Result α := .error ⟨.runtimeError, what⟩

def undefinedBehaviour (what : String) : Result α := .error ⟨.undefinedBehaviour, what⟩

@[simp] theorem invalidArgument_ne_ok {what : String} {a : α} : invalidArgument what ≠ .ok a := by
  simp [invalidArgument]

@[simp] theorem runtimeError_ne_ok {what : String} {a : α} : runtimeError what ≠ .ok a := by
  simp [runtimeError]

@[simp] theorem undefinedBehaviour_ne_ok {what : String} {a : α} :
    undefinedBehaviour what ≠ .ok a := by
  simp [undefinedBehaviour]

@[simp] theorem invalidArgument_bind {what : String} {f : α → Result β} :
    (invalidArgument what >>= f) = invalidArgument what := rfl

@[simp] theorem runtimeError_bind {what : String} {f : α → Result β} :
    (runtimeError what >>= f) = runtimeError what := rfl

/-- `catch (const std::invalid_argument& e)`, rethrown under another message. -/
def rethrowInvalidArgument (x : Result α) (message : String → String) : Result α :=
  match x with
  | .ok a => .ok a
  | .error e => if e.kind = .invalidArgument then invalidArgument (message e.what) else .error e

@[simp] theorem rethrowInvalidArgument_eq_ok {x : Result α} {message : String → String} {a : α} :
    rethrowInvalidArgument x message = .ok a ↔ x = .ok a := by
  cases x with
  | ok b => rfl
  | error e =>
    simp only [rethrowInvalidArgument]
    split <;> simp

/-- `utils::optional::unwrap`. -/
def unwrap (value : Option α) (message : String) : Result α :=
  match value with
  | some a => .ok a
  | none => runtimeError message

@[simp] theorem unwrap_eq_ok {value : Option α} {message : String} {a : α} :
    unwrap value message = .ok a ↔ value = some a := by
  cases value <;> simp [unwrap]

/-- `std::optional::value`. -/
def valueOf (value : Option α) : Result α :=
  match value with
  | some a => .ok a
  | none => .error ⟨.optionalAccess, "bad optional access"⟩

@[simp] theorem valueOf_eq_ok {value : Option α} {a : α} : valueOf value = .ok a ↔ value = some a := by
  cases value <;> simp [valueOf]

/-- `operator->` on an optional: no check is made. -/
def derefOf (value : Option α) : Result α :=
  match value with
  | some a => .ok a
  | none => undefinedBehaviour "access to an empty optional"

@[simp] theorem derefOf_eq_ok {value : Option α} {a : α} : derefOf value = .ok a ↔ value = some a := by
  cases value <;> simp [derefOf]

/-! ## Enumerations -/

/-- The enumerators of a type with their names, as reflection lists them. Names are
distinct even when the letter case is ignored. -/
class Enumeration (α : Type) where
  values : List α
  name : α → String
  mem_values : ∀ a, a ∈ values
  name_inj : ∀ a b, lower (name a) = lower (name b) → a = b

namespace Enumeration

variable [Enumeration α]

/-- `enums::toString`. -/
def toText (a : α) : String := name a

/-- `enums::ofStringOpt` with `Case::Insensitive`. -/
def ofStringOpt (s : String) : Option α := values.find? fun a => lower (name a) = lower s

/-- `enums::ofStringOpt` with `Case::Sensitive`. -/
def ofStringExact (s : String) : Option α := values.find? fun a => name a = s

theorem ofStringOpt_eq_some {s : String} {a : α} :
    ofStringOpt s = some a ↔ lower (name a) = lower s := by
  constructor
  · intro h
    simpa using List.find?_some h
  · intro h
    unfold ofStringOpt
    cases hf : values.find? (fun b : α => lower (name b) = lower s) with
    | none =>
      have hnone := List.find?_eq_none.mp hf a (mem_values a)
      simp [h] at hnone
    | some b =>
      have hb : lower (name b) = lower s := by simpa using List.find?_some hf
      rw [name_inj b a (hb.trans h.symm)]

@[simp] theorem ofStringOpt_toText (a : α) : ofStringOpt (toText a) = some a :=
  ofStringOpt_eq_some.mpr rfl

end Enumeration

/-! ## Numbers -/

/-- One past the largest `std::size_t`. -/
def sizeLimit : Nat := 2 ^ 64

/-- `boost::lexical_cast` to an unsigned type of `width` bits: an optional sign, then
digits; a minus sign wraps around. -/
def lexicalCast (width : Nat) (s : String) : Option Nat :=
  match s.toList with
  | '-' :: ds => inRange ds fun n => (2 ^ width - n) % 2 ^ width
  | '+' :: ds => inRange ds id
  | ds => inRange ds id
where
  inRange (ds : List Char) (f : Nat → Nat) : Option Nat :=
    match parseDigits (String.ofList ds) with
    | some n => if n < 2 ^ width then some (f n) else none
    | none => none

/-- A plain numeral is converted when it is in range. -/
theorem lexicalCast_of_parseDigits {width : Nat} {s : String} {n : Nat}
    (h : parseDigits s = some n) :
    lexicalCast width s = if n < 2 ^ width then some n else none := by
  unfold lexicalCast
  split
  · rename_i heq
    exact absurd (isDigit_of_parseDigits h (by rw [heq]; exact List.mem_cons_self ..)) (by decide)
  · rename_i heq
    exact absurd (isDigit_of_parseDigits h (by rw [heq]; exact List.mem_cons_self ..)) (by decide)
  · rw [lexicalCast.inRange, String.ofList_toList, h]
    rfl

theorem lexicalCast_decimal {width n : Nat} (hn : n < 2 ^ width) :
    lexicalCast width (decimal n) = some n := by
  rw [lexicalCast_of_parseDigits (parseDigits_decimal n), if_pos hn]

theorem lexicalCast_lt {width n : Nat} {s : String} (h : lexicalCast width s = some n) :
    n < 2 ^ width := by
  have hrange : ∀ (ds : List Char) (f : Nat → Nat), (∀ m < 2 ^ width, f m < 2 ^ width) →
      lexicalCast.inRange width ds f = some n → n < 2 ^ width := by
    intro ds f hf h
    unfold lexicalCast.inRange at h
    split at h
    · split at h
      · rename_i m _ hm
        rw [← Option.some.inj h]
        exact hf m hm
      · cases h
    · cases h
  unfold lexicalCast at h
  split at h
  · exact hrange _ _ (fun m _ => Nat.mod_lt _ (Nat.two_pow_pos width)) h
  · exact hrange _ _ (fun m hm => hm) h
  · exact hrange _ _ (fun m hm => hm) h

def isSpace (c : Char) : Bool :=
  c == ' ' || c == '\t' || c == '\n' || c == '\x0b' || c == '\x0c' || c == '\r'

theorem isSpace_of_isDigit {c : Char} (h : c.isDigit = true) : isSpace c = false := by
  rcases hb : isSpace c with _ | _
  · rfl
  · simp only [isSpace, Bool.or_eq_true, beq_iff_eq] at hb
    rcases hb with ((((rfl | rfl) | rfl) | rfl) | rfl) | rfl <;> exact absurd h (by decide)

/-- The common part of the `strtol` family: blanks, an optional sign, and the longest
run of digits. `none` when there is no digit. -/
def scanNumber (s : String) : Option (Bool × Nat) :=
  let cs := s.toList.dropWhile isSpace
  match cs with
  | '-' :: ds => (digits ds).map (true, ·)
  | '+' :: ds => (digits ds).map (false, ·)
  | ds => (digits ds).map (false, ·)
where
  digits (ds : List Char) : Option Nat := parseDigits (String.ofList (ds.takeWhile Char.isDigit))

/-- `std::stoul`. -/
def stoul (s : String) : Result Nat :=
  match scanNumber s with
  | none => invalidArgument "stoul"
  | some (negative, n) =>
    if sizeLimit ≤ n then .error ⟨.outOfRange, "stoul"⟩
    else .ok (if negative then (sizeLimit - n) % sizeLimit else n)

/-- A plain numeral is scanned as it is. -/
theorem scanNumber_of_parseDigits {s : String} {n : Nat} (h : parseDigits s = some n) :
    scanNumber s = some (false, n) := by
  have hdigit : ∀ c ∈ s.toList, c.isDigit = true := fun _ => isDigit_of_parseDigits h
  have hspace : s.toList.dropWhile isSpace = s.toList := by
    cases hc : s.toList with
    | nil => rfl
    | cons c cs =>
      have hnot := isSpace_of_isDigit (hdigit c (by simp [hc]))
      rw [List.dropWhile_cons, if_neg (by simp [hnot])]
  have htake : s.toList.takeWhile Char.isDigit = s.toList := List.takeWhile_eq_self_iff.mpr hdigit
  unfold scanNumber
  simp only [hspace]
  split
  · rename_i heq
    exact absurd (hdigit '-' (by simp [heq])) (by decide)
  · rename_i heq
    exact absurd (hdigit '+' (by simp [heq])) (by decide)
  · simp [scanNumber.digits, htake, h]

/-- A plain numeral is read as its value. -/
theorem stoul_of_parseDigits {s : String} {n : Nat} (h : parseDigits s = some n)
    (hn : n < sizeLimit) : stoul s = .ok n := by
  simp [stoul, scanNumber_of_parseDigits h, Nat.not_le.mpr hn]

/-- `std::stoi`. -/
def stoi (s : String) : Result Int :=
  match scanNumber s with
  | none => invalidArgument "stoi"
  | some (negative, n) =>
    let value : Int := if negative then -n else n
    if value < -2 ^ 31 ∨ 2 ^ 31 ≤ value then .error ⟨.outOfRange, "stoi"⟩ else .ok value

theorem stoi_of_parseDigits {s : String} {n : Nat} (h : parseDigits s = some n) :
    stoi s = if n < 2 ^ 31 then .ok (n : Int) else .error ⟨.outOfRange, "stoi"⟩ := by
  simp only [stoi, scanNumber_of_parseDigits h, Bool.false_eq_true, if_false]
  by_cases hn : n < 2 ^ 31
  · rw [if_neg (by omega), if_pos hn]
  · rw [if_pos (by omega), if_neg hn]

/-! ## Vectors -/

/-- No vector holds more elements than a pointer difference can count. -/
def vectorMaxSize : Nat := 2 ^ 63 - 1

/-- `std::vector::push_back`. -/
def pushBack (xs : List α) (x : α) : Result (List α) :=
  if xs.length < vectorMaxSize then .ok (xs ++ [x])
  else .error ⟨.lengthError, "vector::_M_realloc_insert"⟩

theorem pushBack_eq_ok {xs ys : List α} {x : α} :
    pushBack xs x = .ok ys ↔ xs.length < vectorMaxSize ∧ xs ++ [x] = ys := by
  unfold pushBack
  split <;> simp [*]

end OpenCattus
