import OpenCattus.Subnet

/-!
# The DHCP discovery pool

xCAT gives addresses near the top of the management subnet to the nodes that it discovers. The
bounds are computed with words of 32 bits.

`dynamicRange_iff` says that the pool is inside of the subnet for every network but the one with
the last address only.
-/

namespace OpenCattus

open Foundations Foundations.Text Foundations.Inet

/-- The first and the last address; `none` where the code throws. -/
def dynamicRange (subnetAddress subnetMask : BitVec 32) : Option (BitVec 32 × BitVec 32) :=
  let broadcastAddress := subnetAddress ||| ~~~subnetMask
  let firstUsableAddress := subnetAddress + 1#32
  let lastUsableAddress := broadcastAddress - 1#32
  if lastUsableAddress < firstUsableAddress then none
  else
    let preferredRangeEnd :=
      if firstUsableAddress + 2#32 < lastUsableAddress then lastUsableAddress - 2#32
      else lastUsableAddress
    let preferredRangeSize := 100#32
    let availableAddresses := preferredRangeEnd - firstUsableAddress + 1#32
    let rangeSize :=
      if availableAddresses < preferredRangeSize then availableAddresses else preferredRangeSize
    let rangeStart := preferredRangeEnd - rangeSize + 1#32
    some (rangeStart, preferredRangeEnd)

def defaultDHCPDynamicRangeFor (network : Network) : Result String := do
  let subnetAddress ← toV4 network.address
  let subnetMask ← toV4 network.subnetMask
  match dynamicRange subnetAddress subnetMask with
  | none => invalidArgument "Management network is too small for an xCAT DHCP dynamic range"
  | some (rangeStart, rangeEnd) => .ok (v4ToText rangeStart ++ "-" ++ v4ToText rangeEnd)

/-! ## The pool of a subnet -/

/-- A pool in the subnet that begins at `network` and ends at `broadcast`. -/
structure Pool (network broadcast first last : Nat) : Prop where
  first_gt : network < first
  first_le : first ≤ last
  last_lt : last < broadcast
  /-- Up to its end the subnet has `last - network` usable addresses. -/
  size : last + 1 - first = min 100 (last - network)
  /-- With four usable addresses, the two highest ones stay free. -/
  spared : network + 4 < broadcast → last + 2 < broadcast

/-- The range is refused for the prefixes of length 31 and 32, and a pool otherwise. -/
structure PoolSound (network : Network) (base : BitVec 32) (length : Nat) : Prop where
  refused : (∃ e, defaultDHCPDynamicRangeFor network = .error e) ↔ length = 31 ∨ length = 32
  pool : ∀ text, defaultDHCPDynamicRangeFor network = .ok text →
    ∃ first last : BitVec 32, text = v4ToText first ++ "-" ++ v4ToText last ∧
      Pool base.toNat (base.toNat + (blockSize length - 1)) first.toNat last.toNat

variable {base : BitVec 32} {n : Nat}

theorem dynamicRange_small (h : base &&& prefixMask n = base) (hne : base ≠ 0#32)
    (hlast : base ≠ 0xffffffff#32) (hn : n = 31 ∨ n = 32) :
    dynamicRange base (prefixMask n) = none := by
  have hbroadcast := toNat_or_not_prefixMask h
  have hbound := add_blockSize_le h
  have hsize : blockSize n = 2 ∨ blockSize n = 1 := by
    rcases hn with rfl | rfl
    · exact .inl rfl
    · exact .inr rfl
  unfold dynamicRange
  dsimp only
  apply if_pos
  generalize base ||| ~~~prefixMask n = broadcast at hbroadcast ⊢
  bv_omega

/-- The end of the pool and how many addresses the pool has. -/
theorem dynamicRange_large (h : base &&& prefixMask n = base) (hsize : 4 ≤ blockSize n) :
    ∃ first last, dynamicRange base (prefixMask n) = some (first, last) ∧
      Pool base.toNat (base.toNat + (blockSize n - 1)) first.toNat last.toNat := by
  have hbroadcast := toNat_or_not_prefixMask h
  have hbound := add_blockSize_le h
  unfold dynamicRange
  dsimp only
  generalize base ||| ~~~prefixMask n = broadcast at hbroadcast ⊢
  rw [if_neg (by bv_omega)]
  refine ⟨_, _, rfl, ?_⟩
  have hend : (if base + 1#32 + 2#32 < broadcast - 1#32 then broadcast - 1#32 - 2#32
      else broadcast - 1#32).toNat =
      base.toNat + if 6 ≤ blockSize n then blockSize n - 4 else blockSize n - 2 := by
    split <;> split <;> bv_omega
  generalize (if base + 1#32 + 2#32 < broadcast - 1#32 then broadcast - 1#32 - 2#32
    else broadcast - 1#32) = rangeEnd at hend ⊢
  have havailable : (rangeEnd - (base + 1#32) + 1#32).toNat = rangeEnd.toNat - base.toNat := by
    clear h
    split at hend <;> bv_omega
  have hstart : (rangeEnd - (if rangeEnd - (base + 1#32) + 1#32 < 100#32 then
      rangeEnd - (base + 1#32) + 1#32 else 100#32) + 1#32).toNat =
      rangeEnd.toNat + 1 - min 100 (rangeEnd.toNat - base.toNat) := by
    clear h
    rw [← havailable]
    split at hend <;> split <;> bv_omega
  constructor
  all_goals
    clear h
    split at hend <;> omega

theorem defaultDHCPDynamicRangeFor_eq {network : Network} (haddress : network.address = .v4 base)
    (hmask : network.subnetMask = .v4 (prefixMask n)) :
    defaultDHCPDynamicRangeFor network =
      match dynamicRange base (prefixMask n) with
      | none => invalidArgument "Management network is too small for an xCAT DHCP dynamic range"
      | some (rangeStart, rangeEnd) => .ok (v4ToText rangeStart ++ "-" ++ v4ToText rangeEnd) := by
  rw [defaultDHCPDynamicRangeFor, haddress, hmask]
  rfl

theorem four_le_blockSize (h : n ≤ 30) : 4 ≤ blockSize n :=
  Nat.pow_le_pow_right (n := 2) (by decide) (show 2 ≤ 32 - n by omega)

variable [Inet6]

/-- The range is sound for every network but the one with the last address only, where the
number after the address is zero. -/
theorem poolSound_iff {network : Network} {length : Nat}
    (hmask : Assoc.get network.subnetMask.toText Network.cidr = some length)
    (haddress : network.address = .v4 base) (hne : base ≠ 0#32)
    (hself : Network.subnet network.address network.subnetMask = network.address) :
    PoolSound network base length ↔ base ≠ 0xffffffff#32 := by
  obtain ⟨hlength, hprefix⟩ := Network.cidr_get hmask
  have hbase : base &&& prefixMask length = base := by
    rw [haddress, hprefix] at hself
    exact Address.v4.inj hself
  have heq := defaultDHCPDynamicRangeFor_eq haddress hprefix
  constructor
  · rintro hsound rfl
    have hblock : blockSize length ≤ 1 := by
      have hbound := add_blockSize_le hbase
      simp only [BitVec.toNat_ofNat] at hbound
      omega
    have hlast : length = 32 := by
      by_contra hne
      have htwo : 2 ≤ blockSize length := Nat.le_self_pow (by omega) 2
      omega
    obtain ⟨e, he⟩ := hsound.refused.mpr (.inr hlast)
    have hsome : (dynamicRange 0xffffffff#32 (prefixMask 32)).isSome = true := by decide
    rw [heq, hlast] at he
    split at he
    · rename_i hnone
      rw [hnone] at hsome
      cases hsome
    · cases he
  · intro hlast
    by_cases hsmall : length = 31 ∨ length = 32
    · rw [dynamicRange_small hbase hne hlast hsmall] at heq
      refine ⟨iff_of_true ⟨_, heq⟩ hsmall, ?_⟩
      intro text htext
      rw [heq] at htext
      exact absurd htext invalidArgument_ne_ok
    · obtain ⟨first, last, hrange, hpool⟩ :=
        dynamicRange_large hbase (four_le_blockSize (by omega))
      rw [hrange] at heq
      refine ⟨iff_of_false ?_ hsmall, ?_⟩
      · rintro ⟨e, he⟩
        rw [heq] at he
        cases he
      · intro text htext
        rw [heq] at htext
        exact ⟨first, last, (Except.ok.inj htext).symm, hpool⟩

omit [Inet6]

def managementNetwork (address subnetMask : BitVec 32) : Network where
  profile := .Management
  kind := .Ethernet
  address := .v4 address
  subnetMask := .v4 subnetMask

example : defaultDHCPDynamicRangeFor (managementNetwork 0xc0a80100#32 0xffffff00#32) =
    .ok "192.168.1.153-192.168.1.252" := by decide

theorem poolSound_managementNetwork :
    PoolSound (managementNetwork 0xc0a80100#32 0xffffff00#32) 0xc0a80100#32 24 :=
  (@poolSound_iff 0xc0a80100#32 plainInet6 _ _ (by decide) rfl (by decide) rfl).mpr
    (by decide)

/-- The network with the last address only is well formed, and its range is not refused. -/
theorem last_address_not_refused :
    let network := managementNetwork 0xffffffff#32 0xffffffff#32
    Assoc.get (@Address.toText plainInet6 network.subnetMask) Network.cidr = some 32 ∧
      Network.subnet network.address network.subnetMask = network.address ∧
      ¬ PoolSound network 0xffffffff#32 32 := by
  refine ⟨by decide, rfl, fun h => ?_⟩
  obtain ⟨e, he⟩ := h.refused.mpr (.inr rfl)
  have hrange : defaultDHCPDynamicRangeFor (managementNetwork 0xffffffff#32 0xffffffff#32) =
      .ok "255.255.255.153-255.255.255.252" := by
    decide
  rw [hrange] at he
  cases he

end OpenCattus
