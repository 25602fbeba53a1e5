import OpenCattus.Cluster.Link

/-!
# Writing a link and settling it again

`Link.written` is the section that `dumpData` writes for a link. `Link.settles_again`
says that the reloaded section settles the same values, and `Link.valid_again` that the
setters accept them again exactly when the link has a domain.
-/

namespace OpenCattus

open Foundations Foundations.Text Foundations.Inet

variable [Inet6]

/-! ## Lists of addresses -/

theorem mapM_parseAddress_toText (addresses : List Address) :
    (addresses.map Address.toText).mapM Network.parseAddress = .ok addresses := by
  induction addresses with
  | nil => rfl
  | cons a addresses ih =>
    rw [List.map_cons, List.mapM_cons, ih]
    simp [Network.parseAddress]

omit [Inet6] in
/-- Joining and splitting texts without separators gives them back. -/
theorem respell_of_clean {values : List String} (hvalues : values ≠ [])
    (hclean : ∀ value ∈ values, ∀ c ∈ value.toList, isListSeparator c = false)
    (hne : ∀ value ∈ values, value ≠ "") : respell values = values := by
  refine split_intercalate isListSeparator_of_mem (by decide)
    (isTokens_of_forall (by simpa using hvalues) ?_)
  intro t ht
  obtain ⟨value, hvalue, rfl⟩ := List.mem_map.mp ht
  exact ⟨by simpa using hne value hvalue, hclean value hvalue⟩

theorem respell_map_toText {addresses : List Address} (h : addresses ≠ []) :
    respell (addresses.map Address.toText) = addresses.map Address.toText := by
  apply respell_of_clean
  · simpa using h
  · intro value hvalue c hc
    obtain ⟨a, -, rfl⟩ := List.mem_map.mp hvalue
    obtain ⟨hcomma, hblank⟩ := Address.toText_clean hc
    simp [isListSeparator, hcomma, hblank]
  · intro value hvalue
    obtain ⟨a, -, rfl⟩ := List.mem_map.mp hvalue
    exact a.toText_ne_empty

namespace Link

/-! ## The written section -/

/-- The section that `dumpData` writes. -/
def written (link : Link) : AFNetwork where
  subnetMask := some link.mask
  gateway := some link.gateway
  domainName := some (link.domain.getD "")
  nameservers :=
    if link.nameservers = [] then none else some (link.nameservers.map Address.toText)
  conInterface := some link.interface
  conIpAddr := some link.ip
  conMacAddr := if link.mac = "" then none else some (lower link.mac)

theorem dumpNetworkField_eq_written {headnode : Headnode} {profile : Network.Profile} {link : Link}
    (h : headnode.getConnection profile = some (link.connection profile)) :
    dumpNetworkField headnode {} (link.network profile) = link.written := by
  by_cases hns : link.nameservers = []
  · simp [dumpNetworkField, network, h, connection, written, hns]
  · simp [dumpNetworkField, network, h, connection, written, hns]

theorem written_loadable {host : Host} {link : Link} (hv : link.Valid host) :
    link.written.Loadable ↔ gatewayInSubnet link.ip link.mask link.gateway = true := by
  constructor
  · intro hl
    exact hl.gateway link.ip rfl link.mask rfl link.gateway rfl
  · intro hg
    refine ⟨rfl, ?_, ?_⟩
    · rintro _ ⟨⟩
      exact ⟨Network.isMask_isV4 hv.mask, hv.mask⟩
    · rintro _ ⟨⟩ _ ⟨⟩ _ ⟨⟩
      exact hg

theorem written_isPresent (link : Link) : link.written.isPresent = true := by
  simp [AFNetwork.isPresent, networkEntries, KeyData.assigns, written]

theorem written_reloaded (link : Link) :
    link.written.reloaded = { link.written with conMacAddr := some (lower link.mac) } := by
  have hmac : (if link.mac = "" then none else some (lower link.mac)).getD "" = lower link.mac := by
    by_cases h : link.mac = ""
    · simp [h, lower]
    · simp [h]
  by_cases hns : link.nameservers = []
  · simp [AFNetwork.reloaded, written, hmac, hns]
  · simp [AFNetwork.reloaded, written, hmac, hns, respell_map_toText hns]

/-! ## The link that the reloaded section settles -/

/-- The values that come back: the MAC address in lower case, and always a domain. -/
def again (link : Link) : Link :=
  { link with mac := lower link.mac, domain := some (link.domain.getD "") }

theorem valid_again {host : Host} {link : Link} (hv : link.Valid host) :
    link.again.Valid host ↔ link.domain.isSome = true := by
  constructor
  · intro h
    cases hdomain : link.domain with
    | some domain => rfl
    | none =>
      have hempty := h.domain (link.domain.getD "") rfl
      simp [hdomain, Network.validateDomainName] at hempty
  · intro hsome
    obtain ⟨domain, hdomain⟩ := Option.isSome_iff_exists.mp hsome
    refine ⟨hv.interface, ?_, hv.mask, hv.subnet, ?_⟩
    · intro hmac
      have hne : link.mac ≠ "" := fun h => hmac (by simp [again, h, lower])
      simpa [again, Connection.validateMAC_lower] using hv.mac hne
    · intro d hd
      simp only [again, hdomain, Option.getD_some, Option.mem_def, Option.some.injEq] at hd
      exact hd ▸ hv.domain domain hdomain

/-- Only the application network can go without a domain. -/
theorem Settles.domain_isSome {host : Host} {profile : Network.Profile} {afNetwork : AFNetwork}
    {link : Link} (hs : link.Settles host profile afNetwork) (hprofile : profile ≠ .Application) :
    link.domain.isSome = true := by
  have hdomain := hs.domain
  cases profile with
  | Application => exact absurd rfl hprofile
  | Management =>
    obtain ⟨_, -, h⟩ : ∃ d, afNetwork.domainName = some d ∧ some d = link.domain := by
      simpa [domainSource] using hdomain
    exact h ▸ rfl
  | External =>
    obtain ⟨_, -, _, -, h⟩ : ∃ g, afNetwork.domainName = some g ∧
        ∃ d, domainOf host g = .ok d ∧ some d = link.domain := by
      simpa [domainSource, except_bind_ok] using hdomain
    exact h ▸ rfl
  | Service =>
    obtain ⟨_, -, h⟩ : ∃ d, domainOf host (afNetwork.domainName.getD "") = .ok d ∧
        some d = link.domain := by
      simpa [domainSource] using hdomain
    exact h ▸ rfl

/-- An empty list of nameservers was not given by the section. -/
theorem Settles.nameservers_nil {host : Host} {profile : Network.Profile} {afNetwork : AFNetwork}
    {link : Link} (hs : link.Settles host profile afNetwork)
    (hgiven : afNetwork.nameservers ≠ some []) (hnil : link.nameservers = [])
    (hprofile : profile ≠ .Application) : host.fetchNameservers = .ok [] := by
  have hns : nameserversOf host afNetwork.nameservers = .ok [] := by
    have h := hs.nameservers
    rw [hnil] at h
    cases profile <;> first | exact h | exact absurd rfl hprofile
  cases hgiven' : afNetwork.nameservers with
  | none => simpa [nameserversOf, hgiven'] using hns
  | some texts =>
    cases texts with
    | nil => exact absurd hgiven' hgiven
    | cons text texts =>
      rw [hgiven', nameserversOf, List.mapM_cons, except_bind_ok] at hns
      obtain ⟨_, -, h⟩ := hns
      rw [except_bind_ok] at h
      obtain ⟨_, -, h⟩ := h
      cases h

/-- The reloaded section settles the same link again. -/
theorem settles_again {host : Host} {profile : Network.Profile} {afNetwork : AFNetwork} {link : Link}
    (hs : link.Settles host profile afNetwork) (hv : link.Valid host)
    (hgiven : afNetwork.nameservers ≠ some []) :
    link.again.Settles host profile link.written.reloaded := by
  rw [written_reloaded]
  refine ⟨rfl, ?_, rfl, ?_, ?_, ?_, ?_⟩
  · cases profile <;> rfl
  · cases profile <;> rfl
  · cases profile <;> rfl
  · -- A domain that was set is not empty, so it is not looked up again.
    cases profile with
    | Management => rfl
    | Application => rfl
    | External =>
      obtain ⟨domain, hdomain⟩ := Option.isSome_iff_exists.mp (hs.domain_isSome (by decide))
      have hne := Network.validateDomainName_ne_empty (hv.domain domain hdomain)
      simp [domainSource, written, hdomain, derefOf, domainOf, hne, again]
    | Service =>
      obtain ⟨domain, hdomain⟩ := Option.isSome_iff_exists.mp (hs.domain_isSome (by decide))
      have hne := Network.validateDomainName_ne_empty (hv.domain domain hdomain)
      simp [domainSource, written, hdomain, domainOf, hne, again]
  · by_cases hnil : link.nameservers = []
    · have hfetch := hs.nameservers_nil hgiven hnil
      cases profile <;> simp_all [nameserversSource, nameserversOf, written, again]
    · have hmap := mapM_parseAddress_toText link.nameservers
      cases profile <;> simp only [nameserversSource, nameserversOf, written, again, hnil, if_false,
        Option.getD_some, hmap]

end Link

end OpenCattus
