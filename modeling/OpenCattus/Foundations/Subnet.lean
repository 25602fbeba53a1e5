import OpenCattus.Foundations.Inet

/-!
# Subnets

The masks of version 4 networks and the addresses that a mask puts together. An address is taken
for its number; the block of a prefix of length `n` has `2 ^ (32 - n)` numbers.

`and_prefixMask_eq_iff` says which addresses a subnet has, `toNat_add_offset` that counting up
inside of one does not wrap.
-/

namespace Foundations.Inet

/-- The mask whose first `n` bits are set. -/
def prefixMask (n : Nat) : BitVec 32 := BitVec.allOnes 32 <<< (32 - n)

/-- The number of addresses of a subnet. -/
def blockSize (n : Nat) : Nat := 2 ^ (32 - n)

variable {n m : Nat} {x y base : BitVec 32}

theorem blockSize_pos (n : Nat) : 0 < blockSize n := Nat.two_pow_pos _

theorem blockSize_dvd (n : Nat) : blockSize n ∣ 2 ^ 32 := Nat.pow_dvd_pow 2 (by omega)

theorem blockSize_le (n : Nat) : blockSize n ≤ 2 ^ 32 := Nat.le_of_dvd (by decide) (blockSize_dvd n)

theorem and_prefixMask (x : BitVec 32) (n : Nat) :
    x &&& prefixMask n = (x >>> (32 - n)) <<< (32 - n) := by
  ext i hi
  simp only [prefixMask, BitVec.getElem_and, BitVec.getElem_shiftLeft, BitVec.getElem_allOnes]
  by_cases hlow : i < 32 - n
  · simp [hlow]
  · have hsum : 32 - n + (i - (32 - n)) = i := by omega
    simp [hlow, hsum, BitVec.getLsbD_eq_getElem hi]

/-- `y` is `x` with all but its first `n` bits cleared. -/
def KeepsTop (n : Nat) (x y : BitVec 32) : Prop :=
  ∀ i, y.getLsbD i = (decide (32 - n ≤ i) && x.getLsbD i)

theorem keepsTop_and_prefixMask (x : BitVec 32) (n : Nat) : KeepsTop n x (x &&& prefixMask n) := by
  intro i
  rw [BitVec.getLsbD_and, prefixMask, BitVec.getLsbD_shiftLeft, BitVec.getLsbD_allOnes]
  by_cases hi : i < 32
  · by_cases hlow : i < 32 - n
    · simp [hlow, Nat.not_le.mpr hlow]
    · have hbelow : i - (32 - n) < 32 := by omega
      simp [hi, hlow, hbelow, Nat.not_lt.mp hlow]
  · simp [BitVec.getLsbD_of_ge x i (Nat.not_lt.mp hi)]

/-- A mask clears what is beyond the block of an address. -/
theorem toNat_and_prefixMask (x : BitVec 32) (n : Nat) :
    (x &&& prefixMask n).toNat = x.toNat / blockSize n * blockSize n := by
  have hle : x.toNat / blockSize n * blockSize n ≤ x.toNat := Nat.div_mul_le_self ..
  have hlt := x.isLt
  rw [and_prefixMask, BitVec.toNat_shiftLeft, BitVec.toNat_ushiftRight, Nat.shiftLeft_eq,
    Nat.shiftRight_eq_div_pow]
  exact Nat.mod_eq_of_lt (by unfold blockSize at hle; omega)

theorem and_prefixMask_eq_self_iff : base &&& prefixMask n = base ↔ blockSize n ∣ base.toNat := by
  rw [← BitVec.toNat_inj, toNat_and_prefixMask, Nat.dvd_iff_div_mul_eq]

/-- The first address of a block and the addresses of the block. -/
theorem and_prefixMask_eq_iff (h : base &&& prefixMask n = base) :
    x &&& prefixMask n = base ↔
      base.toNat ≤ x.toNat ∧ x.toNat < base.toNat + blockSize n := by
  obtain ⟨q, hq⟩ := and_prefixMask_eq_self_iff.mp h
  have hpos := blockSize_pos n
  rw [← BitVec.toNat_inj, toNat_and_prefixMask, hq, Nat.mul_comm (blockSize n) q]
  constructor
  · intro heq
    have hmod := Nat.mod_lt x.toNat hpos
    have hsum := Nat.div_add_mod' x.toNat (blockSize n)
    omega
  · rintro ⟨hle, hlt⟩
    have hdiv : x.toNat / blockSize n = q := by
      rw [Nat.div_eq_iff hpos]
      omega
    rw [hdiv]

theorem toNat_prefixMask (n : Nat) : (prefixMask n).toNat = 2 ^ 32 - blockSize n := by
  obtain ⟨q, hq⟩ := blockSize_dvd n
  have hpos := blockSize_pos n
  have hand := toNat_and_prefixMask (BitVec.allOnes 32) n
  rw [BitVec.allOnes_and, BitVec.toNat_allOnes] at hand
  rw [hand, hq]
  have hdiv : (blockSize n * q - 1) / blockSize n = q - 1 := by
    obtain ⟨r, rfl⟩ : ∃ r, q = r + 1 := ⟨q - 1, by
      have : q ≠ 0 := by
        rintro rfl
        simp at hq
      omega⟩
    rw [Nat.mul_add, Nat.mul_one, Nat.add_sub_assoc hpos, Nat.mul_add_div hpos,
      Nat.div_eq_of_lt (by omega)]
    rfl
  rw [hdiv, Nat.sub_mul, Nat.mul_comm q, Nat.one_mul]

theorem toNat_not_prefixMask (n : Nat) : (~~~prefixMask n).toNat = blockSize n - 1 := by
  have hle := blockSize_le n
  have hpos := blockSize_pos n
  rw [BitVec.toNat_not, toNat_prefixMask]
  omega

/-- The first address and all offsets stay below the end of the address space. -/
theorem add_blockSize_le (h : base &&& prefixMask n = base) :
    base.toNat + blockSize n ≤ 2 ^ 32 := by
  obtain ⟨q, hq⟩ := and_prefixMask_eq_self_iff.mp h
  obtain ⟨p, hp⟩ := blockSize_dvd n
  have hlt := base.isLt
  rw [hq, hp] at hlt
  have hqp : q < p := Nat.lt_of_mul_lt_mul_left hlt
  rw [hq, hp, ← Nat.mul_succ]
  exact Nat.mul_le_mul_left _ hqp

/-- The last address of a block. -/
theorem toNat_or_not_prefixMask (h : base &&& prefixMask n = base) :
    (base ||| ~~~prefixMask n).toNat = base.toNat + (blockSize n - 1) := by
  have hdisjoint : base &&& ~~~prefixMask n = 0#32 := by
    rw [← h, BitVec.and_assoc, BitVec.and_not_self]
    exact BitVec.and_zero
  have hbound := add_blockSize_le h
  have hpos := blockSize_pos n
  rw [← BitVec.add_eq_or_of_and_eq_zero _ _ hdisjoint, BitVec.toNat_add, toNat_not_prefixMask]
  exact Nat.mod_eq_of_lt (by omega)

theorem toNat_add_offset {k : Nat} (h : base.toNat + k < 2 ^ 32) :
    (base + BitVec.ofNat 32 k).toNat = base.toNat + k := by
  rw [BitVec.toNat_add, BitVec.toNat_ofNat, Nat.add_mod_mod, Nat.mod_eq_of_lt h]

/-! ## Two subnets -/

theorem prefixMask_and (n m : Nat) : prefixMask n &&& prefixMask m = prefixMask (min n m) := by
  have hmin : 32 - min n m = max (32 - n) (32 - m) := by omega
  ext i hi
  simp only [prefixMask, hmin, BitVec.getElem_and, BitVec.getElem_shiftLeft,
    BitVec.getElem_allOnes, Bool.and_true]
  by_cases hn : i < 32 - n <;> by_cases hm : i < 32 - m <;> simp [hn, hm]

/-- What is equal under a mask is equal under a shorter one. -/
theorem and_prefixMask_of_le (h : x &&& prefixMask m = y &&& prefixMask m) (hnm : n ≤ m) :
    x &&& prefixMask n = y &&& prefixMask n := by
  have hmask : prefixMask m &&& prefixMask n = prefixMask n := by
    rw [prefixMask_and, Nat.min_eq_right hnm]
  rw [← hmask, ← BitVec.and_assoc, ← BitVec.and_assoc, h]

/-- Two subnets have an address in common if and only if their addresses agree under the shorter
mask: one of them is inside of the other. -/
theorem exists_common_iff :
    (∃ z, z &&& prefixMask n = x &&& prefixMask n ∧ z &&& prefixMask m = y &&& prefixMask m) ↔
      x &&& prefixMask (min n m) = y &&& prefixMask (min n m) := by
  constructor
  · rintro ⟨z, hx, hy⟩
    have hzx := and_prefixMask_of_le hx (Nat.min_le_left n m)
    have hzy := and_prefixMask_of_le hy (Nat.min_le_right n m)
    exact hzx.symm.trans hzy
  · intro h
    rcases Nat.le_total n m with hle | hle
    · rw [Nat.min_eq_left hle] at h
      exact ⟨y, h.symm, rfl⟩
    · rw [Nat.min_eq_right hle] at h
      exact ⟨x, rfl, h⟩

end Foundations.Inet
