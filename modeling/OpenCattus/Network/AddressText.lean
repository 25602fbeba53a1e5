import OpenCattus.Network.RouteTable
import OpenCattus.Questionnaire.Network
import OpenCattus.Roles.NetworkSetup
import OpenCattus.Subnet

/-!
# The address of a network

Three places of the source compute the address of a network. Two of them mask the number of an
address; `Network::calculateAddress` takes the texts of the address and of the mask, lets
`inet_aton` read them as words in network byte order, and writes what the words have in common with
`inet_ntoa`.

`calculateAddressText_eq` says that the texts make no difference, `network_addresses_agree` that
the three places agree for every mask of the table.
-/

namespace OpenCattus

open Foundations Foundations.Text Foundations.Inet

/-! ## Words in network byte order -/

/-- `htonl` on a machine with the least significant byte first. -/
def htonl (host : BitVec 32) : BitVec 32 := ntohl host

def isOctalDigit (c : Char) : Bool := '0' ≤ c && c ≤ '7'

/-- A number of `inet_aton`, in the notation of C: `0x` stands before hexadecimal digits and `0`
before octal ones. -/
def inetNumber : List Char → Option Nat
  | '0' :: c :: cs =>
    if c = 'x' ∨ c = 'X' then
      if cs ≠ [] ∧ cs.all Connection.isHexDigit then some (hexNumber cs) else none
    else if (c :: cs).all isOctalDigit then some (Nat.ofDigitChars 8 (c :: cs) 0)
    else none
  | cs => parseDigits (String.ofList cs)

/-- One to four numbers; the last one takes the octets that the others leave. -/
def inetParts : List (Option Nat) → Option Nat
  | [some a] => if a < 256 ^ 4 then some a else none
  | [some a, some b] => if a ≤ 255 ∧ b < 256 ^ 3 then some (a * 256 ^ 3 + b) else none
  | [some a, some b, some c] =>
    if a ≤ 255 ∧ b ≤ 255 ∧ c < 256 ^ 2 then some (a * 256 ^ 3 + b * 256 ^ 2 + c) else none
  | [some a, some b, some c, some d] =>
    if a ≤ 255 ∧ b ≤ 255 ∧ c ≤ 255 ∧ d ≤ 255 then
      some (a * 256 ^ 3 + b * 256 ^ 2 + c * 256 + d)
    else none
  | _ => none

/-- `inet_aton`; what stands behind a blank is not looked at. -/
def inetAton (text : String) : Option (BitVec 32) :=
  let numbers := (splitEach isDot (text.toList.takeWhile fun c => !isSpace c)).map inetNumber
  (inetParts numbers).map fun number => htonl (BitVec.ofNat 32 number)

/-- `inet_ntoa`: the bytes of the word in the order of the memory. -/
def inetNtoa (word : BitVec 32) : String :=
  decimal (octet word 0) ++ "." ++ decimal (octet word 1) ++ "." ++ decimal (octet word 2) ++
    "." ++ decimal (octet word 3)

/-- `Network::calculateAddress` with the texts that it goes through. A text that `inet_aton`
refuses leaves the word at zero. -/
def Network.calculateAddressText [Inet6] (network : Network) (connectionAddress : Address) :
    Result Address :=
  if network.subnetMask.isUnspecified then
    runtimeError "Network must have a specified subnet mask to calculate the address"
  else
    let ipAddr := (inetAton connectionAddress.toText).getD 0
    let subnetAddr := (inetAton network.subnetMask.toText).getD 0
    Network.parseAddress (inetNtoa (ipAddr &&& subnetAddr))

/-! ## The order of the octets -/

theorem toNat_extractOctet (x : BitVec 32) (i : Nat) :
    (x.extractLsb' (8 * i) 8).toNat = octet x i := by
  rw [BitVec.extractLsb'_toNat, Nat.shiftRight_eq_div_pow, octet, Nat.pow_mul]

theorem toNat_append_octet {n : Nat} (x : BitVec n) (y : BitVec 8) :
    (x ++ y).toNat = x.toNat * 256 + y.toNat := by
  rw [BitVec.toNat_append, ← Nat.shiftLeft_add_eq_or_of_lt y.isLt, Nat.shiftLeft_eq]

theorem ntohl_eq_append (x : BitVec 32) :
    ntohl x =
      x.extractLsb' 0 8 ++ x.extractLsb' 8 8 ++ x.extractLsb' 16 8 ++ x.extractLsb' 24 8 := by
  have h₀ := toNat_extractOctet x 0
  have h₁ := toNat_extractOctet x 1
  have h₂ := toNat_extractOctet x 2
  have h₃ := toNat_extractOctet x 3
  have hle := octet_lt x
  have hbound :
      octet x 0 * 256 ^ 3 + octet x 1 * 256 ^ 2 + octet x 2 * 256 + octet x 3 < 2 ^ 32 := by
    have := hle 0
    have := hle 1
    have := hle 2
    have := hle 3
    omega
  apply BitVec.eq_of_toNat_eq
  rw [ntohl, ofOctets, BitVec.toNat_ofNat, Nat.mod_eq_of_lt hbound, toNat_append_octet,
    toNat_append_octet, toNat_append_octet, h₀, h₁, h₂, h₃]
  omega

/-- Masking does not depend on the order of the octets. -/
theorem ntohl_and (x y : BitVec 32) : ntohl (x &&& y) = ntohl x &&& ntohl y := by
  simp only [ntohl_eq_append, BitVec.extractLsb'_and, ← BitVec.and_append]

theorem ntohl_ntohl (x : BitVec 32) : ntohl (ntohl x) = x := by
  have hlt : ∀ i, octet x i < 256 := fun i => Nat.lt_succ_of_le (octet_lt x i)
  conv_lhs => rw [ntohl.eq_def x]
  rw [ntohl_ofOctets (hlt 0) (hlt 1) (hlt 2) (hlt 3), ofOctets_octet]

theorem inetNtoa_eq (word : BitVec 32) : inetNtoa word = v4ToText (ntohl word) := by
  have hword := ntohl_ntohl word
  have hlt : ∀ i, octet word i < 256 := fun i => Nat.lt_succ_of_le (octet_lt word i)
  obtain ⟨h₀, h₁, h₂, h₃⟩ := octet_ofOctets (hlt 0) (hlt 1) (hlt 2) (hlt 3)
  rw [inetNtoa, v4ToText, ntohl, h₀, h₁, h₂, h₃]

/-! ## The texts of addresses -/

theorem inetNumber_decimal {n : Nat} (h : n ≤ 255) : inetNumber (decimal n).toList = some n := by
  have hall : (List.range 256).all (fun k => inetNumber (decimal k).toList = some k) = true := by
    decide +kernel
  exact of_decide_eq_true (List.all_eq_true.mp hall n (List.mem_range.mpr (by omega)))

theorem isSpace_of_mem_v4ToText {bits : BitVec 32} {c : Char} (hc : c ∈ (v4ToText bits).toList) :
    isSpace c = false := by
  rcases v4ToText_clean hc with rfl | hdigit
  · decide
  · exact isSpace_of_isDigit hdigit

theorem takeWhile_not_isSpace {cs : List Char} (h : ∀ c ∈ cs, isSpace c = false) :
    cs.takeWhile (fun c => !isSpace c) = cs := by
  rw [List.takeWhile_eq_self_iff]
  intro c hc
  rw [h c hc, Bool.not_false]

theorem inetAton_v4ToText (bits : BitVec 32) : inetAton (v4ToText bits) = some (htonl bits) := by
  have hle := octet_lt bits
  rw [inetAton, takeWhile_not_isSpace fun c hc => isSpace_of_mem_v4ToText hc, splitEach_v4ToText]
  simp only [List.map_cons, List.map_nil, inetNumber_decimal (hle _), inetParts, hle, and_self,
    if_true, Option.map_some]
  rw [← ofOctets, ofOctets_octet]

theorem colon_not_mem_of_inetNumber {cs : List Char} {n : Nat} (h : inetNumber cs = some n) :
    ':' ∉ cs := by
  intro hmem
  unfold inetNumber at h
  split at h
  · rename_i c cs
    split at h
    · split at h
      · rename_i hx hhex
        have hcs : ':' ∈ cs := by
          rcases hx with rfl | rfl <;> simpa using hmem
        exact absurd (List.all_eq_true.mp hhex.2 _ hcs) (by decide)
      · cases h
    · split at h
      · rename_i hoctal
        have hcs : ':' ∈ c :: cs := by simpa using hmem
        exact absurd (List.all_eq_true.mp hoctal _ hcs) (by decide)
      · cases h
  · exact absurd (isDigit_of_parseDigits h (by rwa [String.toList_ofList])) (by decide)

theorem inetParts_of_mem {numbers : List (Option Nat)} (h : none ∈ numbers) :
    inetParts numbers = none := by
  unfold inetParts
  split <;> simp_all

/-- A text with a colon, such as the one of a version 6 address, is refused. -/
theorem inetAton_of_colon {text : String} (hcolon : ':' ∈ text.toList)
    (hspace : ∀ c ∈ text.toList, isSpace c = false) : inetAton text = none := by
  obtain ⟨t, ht, hmem⟩ := @exists_mem_splitEach isDot _ _ hcolon (by decide)
  have hnone : inetNumber t = none := by
    cases hn : inetNumber t with
    | none => rfl
    | some n => exact absurd hmem (colon_not_mem_of_inetNumber hn)
  rw [inetAton, takeWhile_not_isSpace hspace,
    inetParts_of_mem (List.mem_map.mpr ⟨t, ht, hnone⟩), Option.map_none]

/-! ## `Network::calculateAddress` through the texts -/

section

variable [Inet6]

theorem parseAddress_v4ToText (bits : BitVec 32) :
    Network.parseAddress (v4ToText bits) = .ok (.v4 bits) := by
  have hmake := makeAddress_toText (.v4 bits)
  rw [Address.toText] at hmake
  rw [Network.parseAddress, hmake]

/-- Reading the texts as words, masking the words and writing the result is masking the address. -/
theorem parseAddress_inetNtoa (x y : BitVec 32) :
    Network.parseAddress (inetNtoa (htonl x &&& htonl y)) = .ok (.v4 (x &&& y)) := by
  rw [inetNtoa_eq, htonl, htonl, ntohl_and, ntohl_ntohl, ntohl_ntohl, parseAddress_v4ToText]

/-- The texts of the addresses make no difference. -/
theorem Network.calculateAddressText_eq (network : Network) (ip : Address)
    (hspace : ∀ bits scope, ∀ c ∈ (Inet6.ntop bits scope).toList, isSpace c = false) :
    network.calculateAddressText ip = network.calculateAddress ip := by
  have hv4 : ∀ bits, (inetAton (Address.v4 bits).toText).getD 0 = htonl bits := by
    intro bits
    rw [Address.toText, inetAton_v4ToText, Option.getD_some]
  have hv6 : ∀ bits scope, (inetAton (Address.v6 bits scope).toText).getD 0 = htonl 0 := by
    intro bits scope
    have hcolon := Inet6.colon_mem_of_pton (Inet6.pton_ntop bits scope)
    have hzero : htonl 0 = 0 := by decide
    rw [Address.toText, inetAton_of_colon hcolon (hspace bits scope), Option.getD_none, hzero]
  unfold calculateAddressText calculateAddress
  split
  · rfl
  · cases ip <;> cases network.subnetMask <;> simp only [hv4, hv6, parseAddress_inetNtoa] <;> simp

/-! ## The three computations -/

/-- Every computation of the address of a network takes `ip` to `result`. -/
structure ComputedAddress (mask : Address) (ip result : BitVec 32) : Prop where
  answerfile : ipv4NetworkAddress (.v4 ip) mask = .ok result
  questionnaire : calculateNetworkAddress (.v4 ip) mask = some (.v4 result)
  network : ∀ network : Network, network.subnetMask = mask →
    network.calculateAddressText (.v4 ip) = .ok (.v4 result)

theorem computedAddress_prefixMask {n : Nat} (hne : prefixMask n ≠ 0) (ip : BitVec 32) :
    ComputedAddress (.v4 (prefixMask n)) ip (ip &&& prefixMask n) where
  answerfile := rfl
  questionnaire := rfl
  network := by
    intro network hnetwork
    have hspecified : (Address.v4 (prefixMask n)).isUnspecified = false := by
      rw [Address.isUnspecified, beq_eq_false_iff_ne]
      exact hne
    unfold Network.calculateAddressText
    rw [hnetwork, hspecified, if_neg (by decide), Address.toText, Address.toText]
    rw [inetAton_v4ToText, inetAton_v4ToText, Option.getD_some, Option.getD_some,
      parseAddress_inetNtoa]

/-- The three places agree for every mask of the table but the empty one: they clear all bits that
the prefix length of the mask does not count, and doing so again changes nothing. -/
theorem network_addresses_agree {mask : Address} (hmask : Network.isMask mask = true)
    (hne : mask ≠ .v4 0) :
    ∃ n, NetworkRole.subnetMaskToCIDR mask = .ok n ∧ ∀ ip : BitVec 32, ∃ result,
      KeepsTop n ip result ∧ ComputedAddress mask ip result ∧
        ComputedAddress mask result result := by
  obtain ⟨n, hn, rfl⟩ := Network.isMask_iff.mp hmask
  have hprefix : prefixMask n ≠ 0 := by
    intro hzero
    exact hne (congrArg Address.v4 hzero)
  refine ⟨n, ?_, fun ip => ⟨ip &&& prefixMask n, keepsTop_and_prefixMask ip n,
    computedAddress_prefixMask hprefix ip, ?_⟩⟩
  · rw [NetworkRole.subnetMaskToCIDR, Network.cidr_prefixMask hn]
  · have hagain := computedAddress_prefixMask hprefix (ip &&& prefixMask n)
    rwa [BitVec.and_assoc, BitVec.and_self] at hagain

end

/-- A mask of 26 bits. -/
theorem network_addresses_agree_masked :
    ∃ n, @NetworkRole.subnetMaskToCIDR plainInet6 (.v4 (ofOctets 255 255 255 192)) = .ok n ∧
      ∀ ip : BitVec 32, ∃ result, KeepsTop n ip result ∧
        @ComputedAddress plainInet6 (.v4 (ofOctets 255 255 255 192)) ip result ∧
          @ComputedAddress plainInet6 (.v4 (ofOctets 255 255 255 192)) result result :=
  @network_addresses_agree plainInet6 _ (by decide) (by decide)

end OpenCattus
