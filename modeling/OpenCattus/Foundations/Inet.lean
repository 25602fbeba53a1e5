import Mathlib.Data.BitVec
import OpenCattus.Foundations.Text

/-!
# Internet addresses

Version 4 addresses with their dotted-quad text, version 6 addresses over a codec that
the operating system provides (`Inet6`), and the parser that tries version 6 first.

`makeAddress_toText` is the round trip of the text form.
-/

namespace Foundations.Inet

open Foundations.Text

/-! ## Version 4 -/

/-- The octet with index `i`, counted from the least significant one. -/
def octet (bits : BitVec 32) (i : Nat) : Nat := bits.toNat / 256 ^ i % 256

def ofOctets (a b c d : Nat) : BitVec 32 :=
  BitVec.ofNat 32 (a * 256 ^ 3 + b * 256 ^ 2 + c * 256 + d)

/-- The dotted quad of a version 4 address. -/
def v4ToText (bits : BitVec 32) : String :=
  decimal (octet bits 3) ++ "." ++ decimal (octet bits 2) ++ "." ++ decimal (octet bits 1) ++
    "." ++ decimal (octet bits 0)

/-- A decimal octet: at most 255 and without superfluous zeros. -/
def parseOctet (cs : List Char) : Option Nat :=
  match parseDigits (String.ofList cs) with
  | some n => if n ≤ 255 ∧ (decimal n).toList = cs then some n else none
  | none => none

def isDot (c : Char) : Bool := c == '.'

/-- Strict dotted-quad notation: four decimal octets. -/
def parseV4 (s : String) : Option (BitVec 32) :=
  match (splitEach isDot s.toList).map parseOctet with
  | [some a, some b, some c, some d] => some (ofOctets a b c d)
  | _ => none

theorem octet_lt (bits : BitVec 32) (i : Nat) : octet bits i ≤ 255 := by
  have h := Nat.mod_lt (bits.toNat / 256 ^ i) (show 0 < 256 by omega)
  unfold octet
  omega

theorem ofOctets_octet (bits : BitVec 32) :
    ofOctets (octet bits 3) (octet bits 2) (octet bits 1) (octet bits 0) = bits := by
  have hlt := bits.isLt
  have hsum : octet bits 3 * 256 ^ 3 + octet bits 2 * 256 ^ 2 + octet bits 1 * 256 +
      octet bits 0 = bits.toNat := by
    unfold octet
    omega
  rw [ofOctets, hsum, BitVec.ofNat_toNat, BitVec.setWidth_eq]

theorem parseOctet_decimal {n : Nat} (hn : n ≤ 255) : parseOctet (decimal n).toList = some n := by
  simp [parseOctet, hn]

theorem isDot_of_mem_decimal {n : Nat} {c : Char} (hc : c ∈ (decimal n).toList) :
    isDot c = false := by
  have hdigit := isDigit_of_mem_decimal hc
  rcases hd : isDot c with _ | _
  · rfl
  · rw [show c = '.' by simpa [isDot] using hd] at hdigit
    exact absurd hdigit (by decide)

theorem splitEach_v4ToText (bits : BitVec 32) :
    splitEach isDot (v4ToText bits).toList =
      [(decimal (octet bits 3)).toList, (decimal (octet bits 2)).toList,
        (decimal (octet bits 1)).toList, (decimal (octet bits 0)).toList] := by
  have hclean : ∀ n : Nat, ∀ c ∈ (decimal n).toList, isDot c = false :=
    fun _ _ hc => isDot_of_mem_decimal hc
  have hdot : ".".toList = ['.'] := by decide
  simp only [v4ToText, String.toList_append, hdot, List.append_assoc, List.cons_append,
    List.nil_append]
  rw [splitEach_append_cons (hclean _) (by decide), splitEach_append_cons (hclean _) (by decide),
    splitEach_append_cons (hclean _) (by decide), splitEach_of_clean (hclean _)]

@[simp] theorem parseV4_v4ToText (bits : BitVec 32) : parseV4 (v4ToText bits) = some bits := by
  rw [parseV4, splitEach_v4ToText]
  simp only [List.map_cons, List.map_nil, parseOctet_decimal (octet_lt _ _), ofOctets_octet]

theorem v4ToText_clean {bits : BitVec 32} {c : Char} (hc : c ∈ (v4ToText bits).toList) :
    c = '.' ∨ c.isDigit = true := by
  have hdot : ".".toList = ['.'] := by decide
  simp only [v4ToText, String.toList_append, hdot, List.mem_append, List.mem_singleton] at hc
  rcases hc with (((((h | h) | h) | h) | h) | h) | h
  all_goals first
    | exact .inl h
    | exact .inr (isDigit_of_mem_decimal h)

/-! ## Version 6 -/

/-- The text codec for version 6 addresses and their scope: text form, parser, and what
is relied upon. Every accepted text has a colon, and no text form has a comma or a blank. -/
class Inet6 where
  ntop : BitVec 128 → BitVec 32 → String
  pton : String → Option (BitVec 128 × BitVec 32)
  pton_ntop : ∀ bits scope, pton (ntop bits scope) = some (bits, scope)
  colon_mem_of_pton : ∀ {s p}, pton s = some p → ':' ∈ s.toList
  ntop_clean : ∀ {bits scope c}, c ∈ (ntop bits scope).toList → c ≠ ',' ∧ c ≠ ' '

/-! ### A codec to evaluate with -/

def isColon (c : Char) : Bool := c == ':'

def plainNtop (bits : BitVec 128) (scope : BitVec 32) : String :=
  decimal bits.toNat ++ ":" ++ decimal scope.toNat

def plainPton (s : String) : Option (BitVec 128 × BitVec 32) :=
  match (splitEach isColon s.toList).map fun t => parseDigits (String.ofList t) with
  | [some bits, some scope] => some (BitVec.ofNat 128 bits, BitVec.ofNat 32 scope)
  | _ => none

theorem isColon_of_mem_decimal {n : Nat} {c : Char} (hc : c ∈ (decimal n).toList) :
    isColon c = false := by
  have hdigit := isDigit_of_mem_decimal hc
  rcases hd : isColon c with _ | _
  · rfl
  · rw [show c = ':' by simpa [isColon] using hd] at hdigit
    exact absurd hdigit (by decide)

theorem plainPton_plainNtop (bits : BitVec 128) (scope : BitVec 32) :
    plainPton (plainNtop bits scope) = some (bits, scope) := by
  have hcolon : ":".toList = [':'] := by decide
  simp only [plainPton, plainNtop, String.toList_append, hcolon, List.append_assoc,
    List.cons_append, List.nil_append]
  rw [splitEach_append_cons (fun _ hc => isColon_of_mem_decimal hc) (by decide),
    splitEach_of_clean fun _ hc => isColon_of_mem_decimal hc]
  simp

theorem colon_mem_of_plainPton {s : String} {p : BitVec 128 × BitVec 32}
    (h : plainPton s = some p) : ':' ∈ s.toList := by
  by_contra hs
  have hclean : ∀ c ∈ s.toList, isColon c = false := by
    intro c hc
    rcases hd : isColon c with _ | _
    · rfl
    · rw [show c = ':' by simpa [isColon] using hd] at hc
      exact absurd hc hs
  rw [plainPton, splitEach_of_clean hclean] at h
  simp at h

theorem plainNtop_clean {bits : BitVec 128} {scope : BitVec 32} {c : Char}
    (hc : c ∈ (plainNtop bits scope).toList) : c ≠ ',' ∧ c ≠ ' ' := by
  have hcolon : ":".toList = [':'] := by decide
  simp only [plainNtop, String.toList_append, hcolon, List.mem_append, List.mem_singleton] at hc
  have hdigit : c = ':' ∨ c.isDigit = true := by
    rcases hc with (hc | hc) | hc
    · exact .inr (isDigit_of_mem_decimal hc)
    · exact .inl hc
    · exact .inr (isDigit_of_mem_decimal hc)
  rcases hdigit with rfl | h
  · decide
  · constructor <;> rintro rfl <;> revert h <;> decide

/-- A codec with plain numerals, for evaluating on text that has no version 6 address:
text without a colon is refused, as by every codec. -/
@[reducible] def plainInet6 : Inet6 where
  ntop := plainNtop
  pton := plainPton
  pton_ntop := plainPton_plainNtop
  colon_mem_of_pton := colon_mem_of_plainPton
  ntop_clean := plainNtop_clean

/-! ## Addresses of either version -/

inductive Address where
  | v4 (bits : BitVec 32)
  | v6 (bits : BitVec 128) (scope : BitVec 32)
  deriving DecidableEq, Repr

namespace Address

variable [Inet6]

/-- The default address is the unspecified one of version 4. -/
instance : Inhabited Address := ⟨.v4 0⟩

/-- All bits zero; the scope does not count. -/
def isUnspecified : Address → Bool
  | .v4 bits => bits == 0
  | .v6 bits _ => bits == 0

def isV4 : Address → Bool
  | .v4 _ => true
  | .v6 _ _ => false

def toText : Address → String
  | .v4 bits => v4ToText bits
  | .v6 bits scope => Inet6.ntop bits scope

end Address

variable [Inet6]

/-- Version 6 is tried first. -/
def makeAddress (s : String) : Option Address :=
  match Inet6.pton s with
  | some (bits, scope) => some (.v6 bits scope)
  | none => (parseV4 s).map .v4

theorem pton_eq_none {s : String} (h : ':' ∉ s.toList) : Inet6.pton s = none := by
  cases hp : Inet6.pton s with
  | none => rfl
  | some p => exact absurd (Inet6.colon_mem_of_pton hp) h

theorem pton_v4ToText (bits : BitVec 32) : Inet6.pton (v4ToText bits) = none := by
  apply pton_eq_none
  intro h
  rcases v4ToText_clean h with h | h <;> revert h <;> decide

@[simp] theorem makeAddress_toText (a : Address) : makeAddress a.toText = some a := by
  cases a with
  | v4 bits => simp [makeAddress, Address.toText, pton_v4ToText]
  | v6 bits scope => simp [makeAddress, Address.toText, Inet6.pton_ntop]

theorem Address.toText_inj {a b : Address} : a.toText = b.toText ↔ a = b := by
  refine ⟨fun h => ?_, fun h => h ▸ rfl⟩
  simpa using congrArg makeAddress h

theorem Address.toText_ne_empty (a : Address) : a.toText ≠ "" := by
  intro h
  have hmake := makeAddress_toText a
  rw [h, makeAddress, pton_eq_none (by decide)] at hmake
  simp [parseV4, splitEach, parseOctet, parseDigits] at hmake

/-- The text form of an address is a single piece of a list of addresses. -/
theorem Address.toText_clean {a : Address} {c : Char} (hc : c ∈ a.toText.toList) :
    c ≠ ',' ∧ c ≠ ' ' := by
  cases a with
  | v4 bits =>
    rcases v4ToText_clean hc with rfl | h
    · decide
    · constructor <;> rintro rfl <;> revert h <;> decide
  | v6 bits scope => exact Inet6.ntop_clean hc

end Foundations.Inet
