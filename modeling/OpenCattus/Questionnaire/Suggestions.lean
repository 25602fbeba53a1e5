import OpenCattus.Cluster.Types
import OpenCattus.Subnet

/-!
# Suggested addresses

The addresses that the nodes form offers for the first node and the first BMC. They are searched
in the subnet of a network, some offsets before the others.

`suggestAddress_spec` says when there is a suggestion, and which one.
-/

namespace OpenCattus

open Foundations Foundations.Text Foundations.Inet

/-- `tryOffset`. -/
def tryOffset (base hostSpace : BitVec 32) (blocked : List (BitVec 32)) (offset : BitVec 32) :
    Option Address :=
  if offset = 0#32 ∨ hostSpace ≤ offset then none
  else
    let candidate := base + offset
    if candidate ∈ blocked then none else some (.v4 candidate)

/-- The address of the head node, and the gateway when there is one. -/
def blockedAddresses (headnode : BitVec 32) : Address → List (BitVec 32)
  | .v4 gateway => if gateway = 0#32 then [headnode] else [headnode, gateway]
  | .v6 .. => [headnode]

/-- The preferred offsets, and then all of them from 1 on. -/
def searchOffsets (base hostSpace : BitVec 32) (blocked preferredOffsets : List (BitVec 32)) :
    Option Address :=
  match preferredOffsets.findSome? (tryOffset base hostSpace blocked) with
  | some candidate => some candidate
  | none =>
    (List.range' 1 (hostSpace.toNat - 1)).findSome? fun offset =>
      tryOffset base hostSpace blocked (BitVec.ofNat 32 offset)

/-- A network or a connection that is missing throws, and the exception is dropped. -/
def suggestAddressForProfile (model : Cluster) (profile : Network.Profile)
    (preferredOffsets : List (BitVec 32)) : Option Address :=
  match model.getNetwork profile, model.headnode.getConnection profile with
  | .ok network, some connection =>
    match network.address, network.subnetMask, connection.address with
    | .v4 base, .v4 mask, .v4 headnode =>
      let hostSpace := ~~~mask
      if hostSpace < 2#32 then none
      else searchOffsets base hostSpace (blockedAddresses headnode network.gateway) preferredOffsets
    | _, _, _ => none
  | _, _ => none

def suggestedNodeStartIP (model : Cluster) : Option Address :=
  suggestAddressForProfile model .Management [101, 1, 11, 2]

def suggestedBMCStartIP (model : Cluster) : Option Address :=
  suggestAddressForProfile model .Service [101, 11, 2, 201]

/-! ## Free addresses -/

/-- A host address of the subnet that is not taken. -/
structure FreeHost (base : BitVec 32) (length : Nat) (taken : List Address) (host : BitVec 32) :
    Prop where
  gt : base.toNat < host.toNat
  lt : host.toNat < base.toNat + (blockSize length - 1)
  free : Address.v4 host ∉ taken

/-- An offset inside of the subnet that leads to one. -/
def FreeOffset (base : BitVec 32) (length : Nat) (taken : List Address) (offset : BitVec 32) :
    Prop :=
  offset.toNat < blockSize length ∧ FreeHost base length taken (base + offset)

/-- The host of the first preferred offset that is free or, without one, the first free host. -/
def Chosen (base : BitVec 32) (length : Nat) (taken : List Address)
    (preferredOffsets : List (BitVec 32)) (host : BitVec 32) : Prop :=
  (∃ before offset after, preferredOffsets = before ++ offset :: after ∧
      FreeOffset base length taken offset ∧ host = base + offset ∧
      ∀ earlier ∈ before, ¬ FreeOffset base length taken earlier) ∨
    (∀ offset ∈ preferredOffsets, ¬ FreeOffset base length taken offset) ∧
      ∀ other, FreeHost base length taken other → host.toNat ≤ other.toNat

variable {base headnode : BitVec 32} {n : Nat} {gateway : Address}

theorem toNat_add_of_lt {offset : BitVec 32} (h : base &&& prefixMask n = base)
    (hoffset : offset.toNat < blockSize n) : (base + offset).toNat = base.toNat + offset.toNat := by
  have hbound := add_blockSize_le h
  rw [BitVec.toNat_add]
  exact Nat.mod_eq_of_lt (by omega)

theorem mem_blockedAddresses {host : BitVec 32} (hne : host ≠ 0#32) :
    host ∈ blockedAddresses headnode gateway ↔ Address.v4 host ∈ [.v4 headnode, gateway] := by
  unfold blockedAddresses
  split
  · split
    · rename_i hzero
      simp [hzero, hne]
    · simp
  · simp

theorem tryOffset_eq_some {offset : BitVec 32} {a : Address} (h : base &&& prefixMask n = base) :
    tryOffset base (~~~prefixMask n) (blockedAddresses headnode gateway) offset = some a ↔
      FreeOffset base n [.v4 headnode, gateway] offset ∧ a = .v4 (base + offset) := by
  have hpos := blockSize_pos n
  have hspace := toNat_not_prefixMask n
  unfold tryOffset
  split
  · rename_i hout
    refine iff_of_false (by simp) ?_
    rintro ⟨⟨hlt, hfree⟩, -⟩
    have hsum := toNat_add_of_lt h hlt
    have hgt := hfree.gt
    have hhigh := hfree.lt
    rcases hout with rfl | hle
    · simp at hgt
    · rw [BitVec.le_def] at hle
      omega
  · rename_i hin
    rw [not_or, BitVec.not_le, BitVec.lt_def, hspace] at hin
    have hsum : (base + offset).toNat = base.toNat + offset.toNat :=
      toNat_add_of_lt h (by omega)
    have hzero : offset.toNat ≠ 0 := fun h0 => hin.1 (BitVec.eq_of_toNat_eq h0)
    have hne : base + offset ≠ 0#32 := by
      intro h0
      rw [h0] at hsum
      simp only [BitVec.toNat_ofNat] at hsum
      omega
    dsimp only
    split
    · rename_i htaken
      refine iff_of_false (by simp) ?_
      rintro ⟨⟨-, hfree⟩, -⟩
      exact hfree.free ((mem_blockedAddresses hne).mp htaken)
    · rename_i hfree
      rw [Option.some_inj, eq_comm (b := a)]
      refine ⟨fun heq => ⟨⟨by omega, by omega, by omega, ?_⟩, heq⟩, And.right⟩
      exact fun htaken => hfree ((mem_blockedAddresses hne).mpr htaken)

theorem tryOffset_eq_none {offset : BitVec 32} (h : base &&& prefixMask n = base) :
    tryOffset base (~~~prefixMask n) (blockedAddresses headnode gateway) offset = none ↔
      ¬ FreeOffset base n [.v4 headnode, gateway] offset := by
  rw [Option.eq_none_iff_forall_ne_some]
  constructor
  · intro hnone hfree
    exact hnone _ ((tryOffset_eq_some h).mpr ⟨hfree, rfl⟩)
  · intro hnone a hsome
    exact hnone ((tryOffset_eq_some h).mp hsome).1

/-- The offset of a free host. -/
theorem freeOffset_of_freeHost {taken : List Address} {host : BitVec 32}
    (h : base &&& prefixMask n = base) (hfree : FreeHost base n taken host) :
    ∃ k, 0 < k ∧ k < blockSize n - 1 ∧ host.toNat = base.toNat + k ∧
      host = base + BitVec.ofNat 32 k ∧ FreeOffset base n taken (BitVec.ofNat 32 k) := by
  have hbound := add_blockSize_le h
  have hgt := hfree.gt
  have hlt := hfree.lt
  have hhost : host = base + BitVec.ofNat 32 (host.toNat - base.toNat) := by
    apply BitVec.eq_of_toNat_eq
    rw [toNat_add_offset (by omega)]
    omega
  refine ⟨host.toNat - base.toNat, by omega, by omega, by omega, hhost, ?_, ?_⟩
  · rw [BitVec.toNat_ofNat, Nat.mod_eq_of_lt] <;> omega
  · rwa [← hhost]

/-! ## The search -/

/-- What the loop over all offsets finds is the lowest free host. -/
theorem least_of_loop {a : Address} (h : base &&& prefixMask n = base)
    (hloop : ((List.range' 1 ((~~~prefixMask n).toNat - 1)).findSome? fun offset =>
      tryOffset base (~~~prefixMask n) (blockedAddresses headnode gateway)
        (BitVec.ofNat 32 offset)) = some a) :
    ∃ host, a = .v4 host ∧ FreeHost base n [.v4 headnode, gateway] host ∧
      ∀ other, FreeHost base n [.v4 headnode, gateway] other → host.toNat ≤ other.toNat := by
  obtain ⟨before, k, after, hrange, hk, hbefore⟩ := List.findSome?_eq_some_iff.mp hloop
  obtain ⟨⟨hklt, hfree⟩, rfl⟩ := (tryOffset_eq_some h).mp hk
  have hsize := toNat_not_prefixMask n
  have hbound := add_blockSize_le h
  have hmem : k ∈ List.range' 1 ((~~~prefixMask n).toNat - 1) := by
    rw [hrange]
    exact List.mem_append_right _ List.mem_cons_self
  rw [List.mem_range'_1, hsize] at hmem
  refine ⟨_, rfl, hfree, fun other hother => ?_⟩
  obtain ⟨j, hjpos, hjlt, hjhost, -, hjfree⟩ := freeOffset_of_freeHost h hother
  rw [toNat_add_offset (by omega), hjhost]
  by_contra hless
  -- An earlier offset stands before `k` in the range, and was tried without success.
  have hj : j ∈ before ++ k :: after := by
    rw [← hrange, List.mem_range'_1, hsize]
    omega
  have hsorted : (before ++ k :: after).Pairwise (· < ·) := hrange ▸ List.pairwise_lt_range' 1
  have hbeforej : j ∈ before := by
    rcases List.mem_append.mp hj with hj | hj
    · exact hj
    · rcases List.mem_cons.mp hj with rfl | hafter
      · omega
      · have hlater := (List.pairwise_cons.mp (List.pairwise_append.mp hsorted).2.1).1 j hafter
        omega
  exact (tryOffset_eq_none h).mp (hbefore j hbeforej) hjfree

theorem loop_eq_none (h : base &&& prefixMask n = base)
    (hloop : ((List.range' 1 ((~~~prefixMask n).toNat - 1)).findSome? fun offset =>
      tryOffset base (~~~prefixMask n) (blockedAddresses headnode gateway)
        (BitVec.ofNat 32 offset)) = none) (host : BitVec 32) :
    ¬ FreeHost base n [.v4 headnode, gateway] host := by
  intro hfree
  obtain ⟨k, hpos, hlt, -, -, hoffset⟩ := freeOffset_of_freeHost h hfree
  have hnone := List.findSome?_eq_none_iff.mp hloop k
  rw [List.mem_range'_1, toNat_not_prefixMask] at hnone
  exact (tryOffset_eq_none h).mp (hnone (by omega)) hoffset

/-- The search returns the chosen host, and nothing only if there is no free host. -/
theorem searchOffsets_spec (h : base &&& prefixMask n = base)
    (preferredOffsets : List (BitVec 32)) :
    match searchOffsets base (~~~prefixMask n) (blockedAddresses headnode gateway)
      preferredOffsets with
    | some a => ∃ host, a = .v4 host ∧ FreeHost base n [.v4 headnode, gateway] host ∧
        Chosen base n [.v4 headnode, gateway] preferredOffsets host
    | none => ∀ host, ¬ FreeHost base n [.v4 headnode, gateway] host := by
  unfold searchOffsets
  cases hpreferred : preferredOffsets.findSome?
      (tryOffset base (~~~prefixMask n) (blockedAddresses headnode gateway)) with
  | some a =>
    obtain ⟨before, offset, after, hlist, hoffset, hbefore⟩ :=
      List.findSome?_eq_some_iff.mp hpreferred
    obtain ⟨hfree, rfl⟩ := (tryOffset_eq_some h).mp hoffset
    refine ⟨_, rfl, hfree.2, .inl ⟨before, offset, after, hlist, hfree, rfl, ?_⟩⟩
    exact fun earlier hearlier => (tryOffset_eq_none h).mp (hbefore earlier hearlier)
  | none =>
    have hnone : ∀ offset ∈ preferredOffsets,
        ¬ FreeOffset base n [.v4 headnode, gateway] offset := fun offset hoffset =>
      (tryOffset_eq_none h).mp (List.findSome?_eq_none_iff.mp hpreferred offset hoffset)
    cases hloop : ((List.range' 1 ((~~~prefixMask n).toNat - 1)).findSome? fun offset =>
        tryOffset base (~~~prefixMask n) (blockedAddresses headnode gateway)
          (BitVec.ofNat 32 offset)) with
    | some a =>
      obtain ⟨host, rfl, hfree, hleast⟩ := least_of_loop h hloop
      exact ⟨host, rfl, hfree, .inr ⟨hnone, hleast⟩⟩
    | none =>
      exact loop_eq_none h hloop

/-! ## The suggestion -/

section

variable [Inet6] {model : Cluster} {profile : Network.Profile} {network : Network}
  {connection : Connection}

/-- There is a suggestion if and only if the subnet has a host address that is neither the head
node's nor the gateway's; it is such an address, and the chosen one. -/
theorem suggestAddress_spec (hnetwork : model.getNetwork profile = .ok network)
    (hconnection : model.headnode.getConnection profile = some connection)
    (hmask : Assoc.get network.subnetMask.toText Network.cidr = some n)
    (haddress : network.address = .v4 base)
    (hself : Network.subnet network.address network.subnetMask = network.address)
    (hheadnode : connection.address = .v4 headnode) (preferredOffsets : List (BitVec 32)) :
    ((∃ a, suggestAddressForProfile model profile preferredOffsets = some a) ↔
        ∃ host, FreeHost base n [connection.address, network.gateway] host) ∧
      ∀ a, suggestAddressForProfile model profile preferredOffsets = some a →
        ∃ host, a = .v4 host ∧ FreeHost base n [connection.address, network.gateway] host ∧
          Chosen base n [connection.address, network.gateway] preferredOffsets host := by
  obtain ⟨-, hprefix⟩ := Network.cidr_get hmask
  have hbase : base &&& prefixMask n = base := by
    rw [haddress, hprefix] at hself
    exact Address.v4.inj hself
  have hspace := toNat_not_prefixMask n
  have heq : suggestAddressForProfile model profile preferredOffsets =
      if ~~~prefixMask n < 2#32 then none
      else searchOffsets base (~~~prefixMask n) (blockedAddresses headnode network.gateway)
        preferredOffsets := by
    simp only [suggestAddressForProfile, hnetwork, hconnection, haddress, hprefix, hheadnode]
  rw [heq, hheadnode]
  by_cases hsmall : ~~~prefixMask n < 2#32
  · rw [if_pos hsmall]
    rw [BitVec.lt_def, hspace] at hsmall
    refine ⟨iff_of_false (by simp) ?_, by simp⟩
    rintro ⟨host, hfree⟩
    have hgt := hfree.gt
    have hlt := hfree.lt
    simp only [BitVec.toNat_ofNat] at hsmall
    omega
  · rw [if_neg hsmall]
    have hspec := @searchOffsets_spec base headnode n network.gateway hbase preferredOffsets
    cases hsearch : searchOffsets base (~~~prefixMask n) (blockedAddresses headnode network.gateway)
        preferredOffsets with
    | some a =>
      rw [hsearch] at hspec
      obtain ⟨host, rfl, hfree, hchosen⟩ := hspec
      refine ⟨iff_of_true ⟨_, rfl⟩ ⟨host, hfree⟩, ?_⟩
      intro a ha
      obtain rfl := Option.some.inj ha
      exact ⟨host, rfl, hfree, hchosen⟩
    | none =>
      rw [hsearch] at hspec
      exact ⟨iff_of_false (by simp) (not_exists.mpr hspec), by simp⟩

end

/-- A management network without a gateway, and the head node on its last address. -/
def managementModel : Cluster where
  headnode :=
    { hostname := "headnode"
      fqdn := "headnode.cluster.example.com"
      os := OS.ofPlatform .Rocky .el9 5 .x86_64
      connections := [{ profile := .Management, address := .v4 0xc0a81efe#32 }] }
  networks :=
    [{ profile := .Management
       kind := .Ethernet
       address := .v4 0xc0a81e00#32
       subnetMask := .v4 0xffffff00#32 }]

example : suggestedNodeStartIP managementModel = some (.v4 0xc0a81e65#32) ∧
    suggestedBMCStartIP managementModel = none := by decide

theorem suggestAddress_managementModel :
    ∃ host, suggestAddressForProfile managementModel .Management [300, 254, 7] = some (.v4 host) ∧
      FreeHost 0xc0a81e00#32 24 [.v4 0xc0a81efe#32, .v4 0#32] host ∧
      Chosen 0xc0a81e00#32 24 [.v4 0xc0a81efe#32, .v4 0#32] [300, 254, 7] host := by
  have hsuggested : suggestAddressForProfile managementModel .Management [300, 254, 7] =
      some (.v4 0xc0a81e07#32) := by
    decide
  obtain ⟨host, heq, hfree⟩ := (@suggestAddress_spec 0xc0a81e00#32 0xc0a81efe#32 24 plainInet6
    managementModel .Management _ _ rfl rfl (by decide) rfl rfl rfl [300, 254, 7]).2 _
    hsuggested
  exact ⟨host, hsuggested.trans (congrArg some heq), hfree⟩

end OpenCattus
