import Mathlib.Data.Set.BooleanAlgebra
import Mathlib.Data.Set.Disjoint
import Mathlib.Order.CompletePartialOrder
import OpenCattus.AnswerFile.Codec
import OpenCattus.Questionnaire.Network
import OpenCattus.Subnet

/-!
# The checks of the network form

A service network must not share the subnet of the management network, and a gateway must be in
the subnet of its network. The first check compares two network addresses, each with its own mask
(`serviceSeparate_iff`); the second one is made again when the answerfile is loaded
(`gatewayChecks_agree_iff`).
-/

namespace OpenCattus

open Foundations Foundations.Text Foundations.Inet

section

variable [Inet6] {n p q : Nat} {details : NetworkDetails} {sharedDefaults : NetworkCreatorData}

/-! ## The service network -/

/-- The addresses with the same network address; an address is in its own subnet. -/
def subnetAddresses (address subnetMask : Address) : Set Address :=
  {x | x = address ∨ ∃ network, calculateNetworkAddress x subnetMask = some network ∧
    calculateNetworkAddress address subnetMask = some network}

/-- A network that is valid has no address in common with the other one, and a network that is
refused for a shared address or subnet has. -/
def ServiceSeparate (sharedDefaults : NetworkCreatorData) (details : NetworkDetails) : Prop :=
  ∀ service serviceMask shared sharedMask,
    makeAddress details.address = some service →
    makeAddress details.subnetMask = some serviceMask →
    makeAddress sharedDefaults.address = some shared →
    makeAddress sharedDefaults.subnetMask = some sharedMask →
      (validateSharedServiceNetwork sharedDefaults details = .valid →
        Disjoint (subnetAddresses service serviceMask) (subnetAddresses shared sharedMask)) ∧
      (validateSharedServiceNetwork sharedDefaults details = .sharedIP ∨
          validateSharedServiceNetwork sharedDefaults details = .sharedSubnet →
        ¬ Disjoint (subnetAddresses service serviceMask) (subnetAddresses shared sharedMask))

/-- The addresses differ under the shorter mask, or the check sees what they share. -/
def SeparateOrSeen (sharedDefaults : NetworkCreatorData) (details : NetworkDetails) (p q : Nat) :
    Prop :=
  ∀ service shared, makeAddress details.address = some (.v4 service) →
    makeAddress sharedDefaults.address = some (.v4 shared) →
      service &&& prefixMask (min p q) ≠ shared &&& prefixMask (min p q) ∨
        service &&& prefixMask p = shared &&& prefixMask q ∨ service = shared

omit [Inet6] in
theorem mem_subnetAddresses {address mask : BitVec 32} {x : Address} :
    x ∈ subnetAddresses (.v4 address) (.v4 mask) ↔
      ∃ bits, x = .v4 bits ∧ bits &&& mask = address &&& mask := by
  change (x = .v4 address ∨ ∃ network, _ ∧ _) ↔ _
  constructor
  · rintro (rfl | ⟨network, hx, haddress⟩)
    · exact ⟨address, rfl, rfl⟩
    · cases x with
      | v4 bits =>
        rw [← haddress] at hx
        exact ⟨bits, rfl, Address.v4.inj (Option.some.inj hx)⟩
      | v6 bits scope => cases hx
  · rintro ⟨bits, rfl, hbits⟩
    exact .inr ⟨.v4 (bits &&& mask), rfl, by rw [hbits]; rfl⟩

omit [Inet6] in
theorem disjoint_subnets_iff {service shared : BitVec 32} :
    Disjoint (subnetAddresses (.v4 service) (.v4 (prefixMask p)))
        (subnetAddresses (.v4 shared) (.v4 (prefixMask q))) ↔
      service &&& prefixMask (min p q) ≠ shared &&& prefixMask (min p q) := by
  rw [ne_eq, ← exists_common_iff, Set.disjoint_left]
  constructor
  · rintro h ⟨z, hservice, hshared⟩
    exact h (mem_subnetAddresses.mpr ⟨z, rfl, hservice⟩) (mem_subnetAddresses.mpr ⟨z, rfl, hshared⟩)
  · intro h x hservice hshared
    obtain ⟨z, rfl, hz⟩ := mem_subnetAddresses.mp hservice
    obtain ⟨w, hw, hshared⟩ := mem_subnetAddresses.mp hshared
    obtain rfl := Address.v4.inj hw
    exact h ⟨z, hz, hshared⟩

/-- The check of two version 4 addresses. -/
theorem validateSharedServiceNetwork_eq {service shared : BitVec 32}
    (hservice : makeAddress details.address = some (.v4 service))
    (hserviceMask : makeAddress details.subnetMask = some (.v4 (prefixMask p)))
    (hshared : makeAddress sharedDefaults.address = some (.v4 shared))
    (hsharedMask : makeAddress sharedDefaults.subnetMask = some (.v4 (prefixMask q))) :
    validateSharedServiceNetwork sharedDefaults details =
      if service = shared then .sharedIP
      else if service &&& prefixMask p = shared &&& prefixMask q then .sharedSubnet
      else .valid := by
  simp only [validateSharedServiceNetwork, hservice, hserviceMask, hshared, hsharedMask,
    calculateNetworkAddress, Address.v4.injEq]

/-- Another version is refused, unless the addresses are the same. -/
theorem validateSharedServiceNetwork_v6 {service serviceMask shared sharedMask : Address}
    (hservice : makeAddress details.address = some service)
    (hserviceMask : makeAddress details.subnetMask = some serviceMask)
    (hshared : makeAddress sharedDefaults.address = some shared)
    (hsharedMask : makeAddress sharedDefaults.subnetMask = some sharedMask)
    (hv6 : ¬ (service.isV4 = true ∧ shared.isV4 = true)) :
    validateSharedServiceNetwork sharedDefaults details =
      if service = shared then .sharedIP else .invalid := by
  simp only [validateSharedServiceNetwork, hservice, hserviceMask, hshared, hsharedMask]
  split
  · rfl
  · split
    · rename_i hleft hright
      cases service <;> cases shared <;> cases serviceMask <;> cases sharedMask <;>
        simp_all [calculateNetworkAddress, Address.isV4]
    · rfl

/-- With masks of the table, a service network that is found valid is separate from the
management network, and one that is found to share something is not, if and only if the addresses
differ under the shorter mask, or the network addresses or the addresses are equal. -/
theorem serviceSeparate_iff (hmask : Assoc.get details.subnetMask Network.cidr = some p)
    (hsharedMask : Assoc.get sharedDefaults.subnetMask Network.cidr = some q) :
    ServiceSeparate sharedDefaults details ↔ SeparateOrSeen sharedDefaults details p q := by
  have hp := Network.makeAddress_cidr hmask
  have hq := Network.makeAddress_cidr hsharedMask
  constructor
  · intro h service shared hservice hshared
    have hcheck := validateSharedServiceNetwork_eq hservice hp hshared hq
    by_contra hnot
    rw [not_or, not_or, not_not] at hnot
    obtain ⟨hsame, hnetwork, hne⟩ := hnot
    rw [if_neg hne, if_neg hnetwork] at hcheck
    exact disjoint_subnets_iff.mp ((h _ _ _ _ hservice hp hshared hq).1 hcheck) hsame
  · intro h service serviceMask shared sharedMask hservice hserviceMask hshared hsharedMask
    obtain rfl := Option.some.inj (hp.symm.trans hserviceMask)
    obtain rfl := Option.some.inj (hq.symm.trans hsharedMask)
    by_cases hv4 : service.isV4 = true ∧ shared.isV4 = true
    · obtain ⟨x, rfl⟩ : ∃ x, service = .v4 x := by
        cases service with
        | v4 x => exact ⟨x, rfl⟩
        | v6 bits scope => exact absurd hv4.1 (by simp [Address.isV4])
      obtain ⟨y, rfl⟩ : ∃ y, shared = .v4 y := by
        cases shared with
        | v4 y => exact ⟨y, rfl⟩
        | v6 bits scope => exact absurd hv4.2 (by simp [Address.isV4])
      have hcheck := validateSharedServiceNetwork_eq hservice hp hshared hq
      rw [disjoint_subnets_iff, hcheck]
      by_cases haddress : x = y
      · rw [if_pos haddress]
        exact ⟨by simp, fun _ hdiffer => hdiffer (by rw [haddress])⟩
      · by_cases hnetwork : x &&& prefixMask p = y &&& prefixMask q
        · rw [if_neg haddress, if_pos hnetwork]
          refine ⟨by simp, fun _ hdiffer => hdiffer (exists_common_iff.mp ?_)⟩
          -- The network address that both have in common.
          refine ⟨x &&& prefixMask p, by rw [BitVec.and_assoc, BitVec.and_self], ?_⟩
          rw [hnetwork, BitVec.and_assoc, BitVec.and_self]
        · rw [if_neg haddress, if_neg hnetwork]
          refine ⟨fun _ => ?_, by simp⟩
          rcases h x y hservice hshared with hdiffer | hseen | hseen
          · exact hdiffer
          · exact absurd hseen hnetwork
          · exact absurd hseen haddress
    · have hcheck := validateSharedServiceNetwork_v6 hservice hp hshared hq hv4
      by_cases hsame : service = shared
      · rw [if_pos hsame] at hcheck
        refine ⟨by rw [hcheck]; simp, fun _ hdisjoint => ?_⟩
        exact Set.disjoint_left.mp hdisjoint (.inl rfl) (.inl hsame)
      · rw [if_neg hsame] at hcheck
        exact ⟨by rw [hcheck]; simp, by rw [hcheck]; simp⟩

/-! ## The gateway -/

variable {kf : KeyFile} {networkSection : String}

/-- The questionnaire and the answerfile agree on the gateway of a network. -/
def GatewayChecksAgree (kf : KeyFile) (networkSection : String) (details : NetworkDetails) : Prop :=
  validateGatewaySubnet details = .valid ↔ ∃ network, loadNetwork kf networkSection = .ok network

/-- A section with an interface, an address, a mask of the table and a gateway. -/
structure GatewaySection (kf : KeyFile) (networkSection : String) (details : NetworkDetails)
    (n : Nat) : Prop where
  interface : ∃ interface, kf.data.lookup networkSection "interface" = some interface
  address : kf.data.lookup networkSection "ip_address" = some details.address
  subnetMask : kf.data.lookup networkSection "subnet_mask" = some details.subnetMask
  gateway : kf.data.lookup networkSection "gateway" = some details.gateway
  mask : Assoc.get details.subnetMask Network.cidr = some n
  ne_empty : details.gateway ≠ ""

/-- An unspecified gateway where something is of version 6. -/
def UnspecifiedBesideV6 (details : NetworkDetails) : Prop :=
  ∃ address gateway, makeAddress details.address = some address ∧
    makeAddress details.gateway = some gateway ∧ gateway.isUnspecified = true ∧
      (address.isV4 = false ∨ gateway.isV4 = false)

omit [Inet6] in
theorem hasGroup_of_lookup {key value : String}
    (h : kf.data.lookup networkSection key = some value) : kf.hasGroup networkSection = true := by
  by_contra hgroup
  rw [Bool.not_eq_true] at hgroup
  rw [KeyData.lookup_eq_none hgroup] at h
  cases h

theorem convertNetworkAddressAndValidate_of_lookup {fieldName value : String} {a : Option Address}
    (h : kf.data.lookup networkSection fieldName = some value) :
    convertNetworkAddressAndValidate kf networkSection fieldName = .ok a ↔
      ∃ address, makeAddress value = some address ∧ a = some address := by
  unfold convertNetworkAddressAndValidate KeyFile.getStringOpt
  rw [if_pos (hasGroup_of_lookup h), h]
  simp only [except_ok_bind, except_bind_ok, rethrowInvalidArgument_eq_ok,
    convertStringToAddress_eq_ok, Except.ok.injEq, eq_comm (b := a)]

/-- The section is accepted when both addresses are and the gateway is in the subnet. -/
theorem loadNetwork_of_gatewaySection (h : GatewaySection kf networkSection details n) :
    (∃ network, loadNetwork kf networkSection = .ok network) ↔
      ∃ address gateway, makeAddress details.address = some address ∧
        makeAddress details.gateway = some gateway ∧
          gatewayInSubnet address (.v4 (prefixMask n)) gateway = true := by
  have hgroup := hasGroup_of_lookup h.address
  have hmask := Network.makeAddress_cidr h.mask
  have hvalid : validateSubnetMask networkSection (.v4 (prefixMask n)) = .ok () :=
    validateSubnetMask_eq_ok.mpr
      ⟨rfl, Network.isMask_iff.mpr ⟨n, (Network.cidr_text h.mask).1, rfl⟩⟩
  unfold loadNetwork
  simp only [except_bind_ok, KeyFile.getString_eq_ok, KeyFile.getStringOr_eq_ok,
    KeyFile.getStringOpt_eq_ok, convertNetworkAddressAndValidate_of_lookup h.address,
    convertNetworkAddressAndValidate_of_lookup h.subnetMask,
    convertNetworkAddressAndValidate_of_lookup h.gateway, validateOptional_eq_ok,
    validateNetworkGateway_eq_ok, hgroup, hmask, true_and]
  constructor
  · rintro ⟨network, -, -, ip, ⟨address, haddress, rfl⟩, -, -, mask, ⟨m, hm, rfl⟩, -, -, -, -, gw,
      ⟨gateway, hgateway, rfl⟩, -, hinside, -⟩
    obtain rfl := Option.some.inj hm
    exact ⟨address, gateway, haddress, hgateway, hinside _ rfl _ rfl _ rfl⟩
  · rintro ⟨address, gateway, haddress, hgateway, hinside⟩
    obtain ⟨interface, hinterface⟩ := h.interface
    refine ⟨_, interface, hinterface, some address, ⟨address, haddress, rfl⟩, _, rfl,
      some (.v4 (prefixMask n)), ⟨_, rfl, rfl⟩, (), ?_, _, rfl, some gateway,
      ⟨gateway, hgateway, rfl⟩, (), ?_, _, rfl, rfl⟩
    · rintro mask hmem
      obtain rfl := Option.some.inj hmem
      exact hvalid
    · rintro a ha mask hmem g hg
      obtain rfl := Option.some.inj ha
      obtain rfl := Option.some.inj hmem
      obtain rfl := Option.some.inj hg
      exact hinside

theorem validateGatewaySubnet_eq (hmask : makeAddress details.subnetMask = some (.v4 (prefixMask n)))
    (hne : details.gateway ≠ "") :
    validateGatewaySubnet details = .valid ↔
      ∃ address gateway, makeAddress details.address = some (.v4 address) ∧
        makeAddress details.gateway = some (.v4 gateway) ∧
          (gateway = 0#32 ∨ address &&& prefixMask n = gateway &&& prefixMask n) := by
  unfold validateGatewaySubnet
  rw [if_neg hne, hmask]
  cases haddress : makeAddress details.address with
  | none => simp
  | some address =>
    cases hgateway : makeAddress details.gateway with
    | none => simp
    | some gateway =>
      cases address <;> cases gateway <;>
        simp [Address.isV4, Address.isUnspecified, calculateNetworkAddress, or_iff_not_imp_left]

/-- Both checks accept the same gateways, unless the gateway is unspecified and it or the address
is of version 6: the answerfile passes over an unspecified gateway before it looks at versions. -/
theorem gatewayChecks_agree_iff (h : GatewaySection kf networkSection details n) :
    GatewayChecksAgree kf networkSection details ↔ ¬ UnspecifiedBesideV6 details := by
  unfold GatewayChecksAgree
  rw [validateGatewaySubnet_eq (Network.makeAddress_cidr h.mask) h.ne_empty,
    loadNetwork_of_gatewaySection h]
  constructor
  · rintro hagree ⟨address, gateway, haddress, hgateway, hunspecified, hv6⟩
    have haccept : gatewayInSubnet address (.v4 (prefixMask n)) gateway = true := by
      cases address <;> cases gateway <;> simp_all [gatewayInSubnet, Address.isUnspecified]
    obtain ⟨x, y, hx, hy, -⟩ := hagree.mpr ⟨address, gateway, haddress, hgateway, haccept⟩
    rw [haddress, Option.some_inj] at hx
    rw [hgateway, Option.some_inj] at hy
    rw [hx, hy] at hv6
    simp [Address.isV4] at hv6
  · intro hnot
    constructor
    · rintro ⟨x, y, hx, hy, hinside⟩
      refine ⟨.v4 x, .v4 y, hx, hy, ?_⟩
      simpa [gatewayInSubnet] using hinside
    · rintro ⟨address, gateway, haddress, hgateway, hinside⟩
      have hv4 : gateway.isUnspecified = true → address.isV4 = true ∧ gateway.isV4 = true := by
        intro hunspecified
        by_contra hv6
        rw [not_and_or, Bool.not_eq_true, Bool.not_eq_true] at hv6
        exact hnot ⟨address, gateway, haddress, hgateway, hunspecified, hv6⟩
      cases address <;> cases gateway
      case v4.v4 x y => exact ⟨x, y, haddress, hgateway, by simpa [gatewayInSubnet] using hinside⟩
      all_goals exact absurd (hv4 hinside) (by simp [Address.isV4])

end

/-! ## Subnets of different sizes -/

def sharedEntry (address subnetMask : String) : NetworkCreatorData where
  profile := .Management
  kind := .Ethernet
  interface := "eth0"
  address
  subnetMask
  gateway := ""
  name := "cluster.example.com"
  domains := []

def serviceDetails (address subnetMask : String) : NetworkDetails where
  interface := "eth0"
  address
  subnetMask
  gateway := ""
  domainName := "cluster.example.com"
  nameservers := ""

theorem serviceSeparate_other_subnet :
    @ServiceSeparate plainInet6 (sharedEntry "10.0.0.1" "255.255.0.0")
        (serviceDetails "10.1.0.1" "255.255.255.0") ↔
      @SeparateOrSeen plainInet6 (sharedEntry "10.0.0.1" "255.255.0.0")
        (serviceDetails "10.1.0.1" "255.255.255.0") 24 16 :=
  @serviceSeparate_iff plainInet6 24 16 _ _ (by decide) (by decide)

/-- A service network inside of the management network is found to be separate. -/
theorem nested_service_network_valid :
    ¬ @ServiceSeparate plainInet6 (sharedEntry "10.0.0.1" "255.255.0.0")
      (serviceDetails "10.0.1.1" "255.255.255.0") := by
  intro h
  have hdisjoint := (h (.v4 0x0a000101#32) (.v4 (prefixMask 24)) (.v4 0x0a000001#32)
    (.v4 (prefixMask 16)) (by decide) (by decide) (by decide)
    (by decide)).1 (by decide)
  exact disjoint_subnets_iff.mp hdisjoint (by decide)

/-! ## An unspecified gateway of version 6 -/

def unspecifiedNtop (bits : BitVec 128) (scope : BitVec 32) : String :=
  if bits = 0 ∧ scope = 0 then "::" else plainNtop bits scope

def unspecifiedPton (s : String) : Option (BitVec 128 × BitVec 32) :=
  if s = "::" then some (0, 0) else plainPton s

theorem unspecifiedPton_ntop (bits : BitVec 128) (scope : BitVec 32) :
    unspecifiedPton (unspecifiedNtop bits scope) = some (bits, scope) := by
  unfold unspecifiedNtop
  split
  · rename_i hzero
    rw [hzero.1, hzero.2]
    rfl
  · unfold unspecifiedPton
    rw [if_neg, plainPton_plainNtop]
    intro hsame
    have hread := plainPton_plainNtop bits scope
    rw [hsame] at hread
    revert hread
    simp [plainPton, splitEach, isColon]

/-- Numerals as before, and the short text of the unspecified address. -/
@[reducible] def unspecifiedInet6 : Inet6 where
  ntop := unspecifiedNtop
  pton := unspecifiedPton
  pton_ntop := unspecifiedPton_ntop
  colon_mem_of_pton := by
    intro s r h
    unfold unspecifiedPton at h
    split at h
    · rename_i hs
      rw [hs]
      decide
    · exact colon_mem_of_plainPton h
  ntop_clean := by
    intro bits scope c hc
    unfold unspecifiedNtop at hc
    split at hc
    · have hcolon : "::".toList = [':', ':'] := by decide
      rw [hcolon] at hc
      simp only [List.mem_cons, List.not_mem_nil, or_false, or_self] at hc
      rw [hc]
      decide
    · exact plainNtop_clean hc

def gatewayDetails (gateway : String) : NetworkDetails where
  interface := "eth0"
  address := "10.0.0.2"
  subnetMask := "255.0.0.0"
  gateway
  domainName := "cluster.example.com"
  nameservers := ""

def gatewayKeyFile (gateway : String) : KeyFile where
  path := "answerfile.ini"
  data :=
    { groups :=
        [("network_external",
          [("interface", "eth0"), ("ip_address", "10.0.0.2"), ("subnet_mask", "255.0.0.0"),
            ("gateway", gateway)])]
      nodup := by simp }

theorem gatewaySection_gatewayKeyFile {gateway : String} (h : gateway ≠ "") :
    GatewaySection (gatewayKeyFile gateway) "network_external" (gatewayDetails gateway) 8 := by
  have hmask : Assoc.get "255.0.0.0" Network.cidr = some 8 := by decide
  exact ⟨⟨"eth0", rfl⟩, rfl, rfl, rfl, hmask, h⟩

theorem gatewayChecks_agree_inside :
    @GatewayChecksAgree unspecifiedInet6 (gatewayKeyFile "10.0.0.1") "network_external"
        (gatewayDetails "10.0.0.1") ↔
      ¬ @UnspecifiedBesideV6 unspecifiedInet6 (gatewayDetails "10.0.0.1") :=
  @gatewayChecks_agree_iff unspecifiedInet6 8 _ _ _ (gatewaySection_gatewayKeyFile (by decide))

/-- The answerfile accepts the gateway, the questionnaire does not. -/
theorem unspecified_v6_gateway_accepted :
    ¬ @GatewayChecksAgree unspecifiedInet6 (gatewayKeyFile "::") "network_external"
      (gatewayDetails "::") := by
  intro h
  have hload := (@loadNetwork_of_gatewaySection unspecifiedInet6 8 _ _ _
    (gatewaySection_gatewayKeyFile (show "::" ≠ "" by decide))).mpr
      ⟨.v4 0x0a000002#32, .v6 0 0, by decide, by decide, rfl⟩
  have hvalid := h.mpr hload
  revert hvalid
  decide

end OpenCattus
