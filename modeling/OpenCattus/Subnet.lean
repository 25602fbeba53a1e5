import OpenCattus.Foundations.Subnet
import OpenCattus.Network

/-!
# Masks of networks

The table of masks holds the masks of the prefix lengths from 0 to 32 (`isMask_iff`), so that what
a mask of the table makes of an address is known from its prefix length.
-/

namespace OpenCattus

open Foundations Foundations.Text Foundations.Inet

/-- `address::to_v4`. -/
def toV4 : Address → Result (BitVec 32)
  | .v4 bits => .ok bits
  | .v6 .. => .error ⟨.badAddressCast, "bad address cast"⟩

namespace Network

variable [Inet6]

omit [Inet6] in
/-- Every text of the table is the one of the mask with its prefix length. -/
theorem cidr_text {text : String} {n : Nat} (h : Assoc.get text cidr = some n) :
    n ≤ 32 ∧ text = v4ToText (prefixMask n) := by
  have htable : cidr.all (fun entry =>
      entry.2 ≤ 32 && entry.1 = v4ToText (prefixMask entry.2)) = true := by
    decide
  have hentry := List.all_eq_true.mp htable _ (Assoc.mem_of_get h)
  simpa only [Bool.and_eq_true, decide_eq_true_eq] using hentry

theorem cidr_get {mask : Address} {n : Nat} (h : Assoc.get mask.toText cidr = some n) :
    n ≤ 32 ∧ mask = .v4 (prefixMask n) := by
  obtain ⟨hle, htext⟩ := cidr_text h
  exact ⟨hle, Address.toText_inj.mp htext⟩

theorem makeAddress_cidr {text : String} {n : Nat} (h : Assoc.get text cidr = some n) :
    makeAddress text = some (.v4 (prefixMask n)) := by
  rw [(cidr_text h).2]
  exact makeAddress_toText (.v4 (prefixMask n))

theorem cidr_prefixMask {n : Nat} (h : n ≤ 32) :
    Assoc.get (Address.v4 (prefixMask n)).toText cidr = some n := by
  have htable : (List.range 33).all (fun k =>
      Assoc.get (v4ToText (prefixMask k)) cidr = some k) = true := by
    decide
  exact of_decide_eq_true (List.all_eq_true.mp htable n (List.mem_range.mpr (by omega)))

theorem isMask_iff {mask : Address} :
    isMask mask = true ↔ ∃ n ≤ 32, mask = .v4 (prefixMask n) := by
  unfold isMask
  rw [Option.isSome_iff_exists]
  constructor
  · rintro ⟨n, hget⟩
    exact ⟨n, cidr_get hget⟩
  · rintro ⟨n, hn, rfl⟩
    exact ⟨n, cidr_prefixMask hn⟩

end Network

end OpenCattus
