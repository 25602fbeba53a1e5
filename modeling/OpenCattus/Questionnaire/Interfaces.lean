import OpenCattus.Questionnaire.Network

/-!
# Interfaces of the networks

Every network of the questionnaire is added with an interface that may be used for it
(`follows_collectNetworks`). Then an interface belongs to one network, or to the management and
the service network (`interface_assignment`).
-/

namespace OpenCattus

open Foundations Foundations.Text Foundations.Inet Program Dialog

namespace NetworkCreator

def findByInterface (nc : NetworkCreator) (interface : String) : Option NetworkCreatorData :=
  nc.networks.find? (·.interface = interface)

/-- What becomes of a creator while networks are added, each with an interface that may be used.
The other operations leave it as it is. -/
inductive Follows (nc : NetworkCreator) : NetworkCreator → Prop
  | refl : Follows nc nc
  | add {nc' : NetworkCreator} {data : NetworkCreatorData} (h : Follows nc nc')
      (hcan : nc'.canUseInterface data.interface data.profile = true) :
      Follows nc (nc'.addNetworkInformation data).2

/-- Two networks with the same interface are the management and the service network. -/
def ShareOnlyPair (a b : NetworkCreatorData) : Prop :=
  a.interface = b.interface →
    a.profile = .Management ∧ b.profile = .Service ∨ a.profile = .Service ∧ b.profile = .Management

variable {nc nc' : NetworkCreator} {data : NetworkCreatorData}

theorem canShareInterface_iff {existing requested : Network.Profile} :
    canShareInterface existing requested = true ↔
      existing = .Management ∧ requested = .Service ∨
        existing = .Service ∧ requested = .Management := by
  cases existing <;> cases requested <;> decide

theorem canUseInterface_iff {interface : String} {requested : Network.Profile} :
    nc.canUseInterface interface requested = true ↔
      ∀ network ∈ nc.networks, network.interface = interface →
        network.profile = .Management ∧ requested = .Service ∨
          network.profile = .Service ∧ requested = .Management := by
  simp only [canUseInterface, List.all_eq_true, Bool.or_eq_true, decide_eq_true_eq,
    canShareInterface_iff, ← imp_iff_not_or, ne_eq]

/-- Either nothing happens, or the network comes last. -/
theorem networks_addNetworkInformation (nc : NetworkCreator) (data : NetworkCreatorData) :
    (nc.addNetworkInformation data).2 = nc ∨
      (nc.addNetworkInformation data).2.networks = nc.networks ++ [data] := by
  unfold addNetworkInformation
  split
  · exact .inl rfl
  · exact .inr rfl

/-- What was taken stays as it is. -/
theorem prefix_of_follows (h : Follows nc nc') : nc.networks <+: nc'.networks := by
  induction h with
  | refl => exact List.prefix_refl _
  | @add nc' data _ _ ih =>
    rcases networks_addNetworkInformation nc' data with hsame | hadded
    · rwa [hsame]
    · rw [hadded]
      exact ih.trans (List.prefix_append _ _)

theorem pairwise_of_follows (hnc : nc.networks.Pairwise ShareOnlyPair) (h : Follows nc nc') :
    nc'.networks.Pairwise ShareOnlyPair := by
  induction h with
  | refl => exact hnc
  | @add nc' data _ hcan ih =>
    rcases networks_addNetworkInformation nc' data with hsame | hadded
    · rwa [hsame]
    · rw [hadded, List.pairwise_append]
      refine ⟨ih, List.pairwise_singleton _ _, ?_⟩
      intro network hnetwork other hother hinterface
      obtain rfl := List.mem_singleton.mp hother
      exact canUseInterface_iff.mp hcan network hnetwork hinterface

/-- Of three networks with one interface, two would have the same profile. -/
theorem length_sharing_le {networks : List NetworkCreatorData}
    (h : networks.Pairwise ShareOnlyPair) (interface : String) :
    (networks.filter (·.interface = interface)).length ≤ 2 := by
  have hshared := h.filter (·.interface = interface)
  have hall : ∀ network ∈ networks.filter (·.interface = interface),
      network.interface = interface := fun network hnetwork => by
    simpa using (List.mem_filter.mp hnetwork).2
  revert hshared hall
  generalize networks.filter (·.interface = interface) = shared
  intro hshared hall
  match shared, hshared, hall with
  | [], _, _ => simp
  | [_], _, _ => simp
  | [_, _], _, _ => simp
  | a :: b :: c :: rest, hshared, hall =>
    obtain ⟨ha, hb, -⟩ := by simpa only [List.pairwise_cons] using hshared
    have hia := hall a (by simp)
    have hib := hall b (by simp)
    have hic := hall c (by simp)
    have hab := ha b (by simp) (hia.trans hib.symm)
    have hac := ha c (by simp) (hia.trans hic.symm)
    have hbc := hb c (by simp) (hib.trans hic.symm)
    -- The profile of `a` decides the other two.
    rcases hab with ⟨hpa, hpb⟩ | ⟨hpa, hpb⟩
    · rcases hac with ⟨-, hpc⟩ | ⟨hpa', -⟩
      · rcases hbc with ⟨hpb', -⟩ | ⟨-, hpc'⟩
        · simp [hpb] at hpb'
        · simp [hpc] at hpc'
      · simp [hpa] at hpa'
    · rcases hac with ⟨hpa', -⟩ | ⟨-, hpc⟩
      · simp [hpa] at hpa'
      · rcases hbc with ⟨-, hpc'⟩ | ⟨hpb', -⟩
        · simp [hpc] at hpc'
        · simp [hpb] at hpb'

theorem findByInterface_eq_some {interface : String} {entry : NetworkCreatorData}
    (h : nc.findByInterface interface = some entry) :
    entry ∈ nc.networks ∧ entry.interface = interface :=
  ⟨List.mem_of_find?_eq_some h, by simpa using List.find?_some h⟩

theorem findByProfile_of_mem (h : data ∈ nc.networks) :
    nc.findByProfile data.profile = some data := by
  have honly := filter_of_nodup_map NetworkCreatorData.profile nc.nodup h
  rw [findByProfile, ← List.head?_filter, honly]
  rfl

/-- An interface that the service network may use is free, or the management network has it. -/
theorem findByInterface_of_canUse {interface : String}
    (h : nc.canUseInterface interface .Service = true) :
    nc.findByInterface interface = none ∨
      ∃ entry, nc.findByInterface interface = some entry ∧ entry.profile = .Management ∧
        nc.findByProfile .Management = some entry := by
  cases hfound : nc.findByInterface interface with
  | none => exact .inl rfl
  | some entry =>
    obtain ⟨hmem, hinterface⟩ := findByInterface_eq_some hfound
    have hprofile : entry.profile = .Management := by
      rcases canUseInterface_iff.mp h entry hmem hinterface with ⟨hp, -⟩ | ⟨-, hp⟩
      · exact hp
      · cases hp
    exact .inr ⟨entry, rfl, hprofile, hprofile ▸ findByProfile_of_mem hmem⟩

end NetworkCreator

/-! ## What the form offers -/

section

variable [Inet6]

def fetchOptionalAddress (host : Host) (interface : String) : String :=
  match host.fetchAddress interface with
  | .ok address => if address.isUnspecified then "" else address.toText
  | .error _ => ""

def fetchOptionalSubnetMask (host : Host) (interface : String) : String :=
  match host.fetchSubnetMask interface with
  | .ok subnetMask => subnetMask.toText
  | .error _ => ""

def fetchOptionalGateway (host : Host) (interface : String) : String :=
  if (host.fetchGateway interface).isUnspecified then "" else (host.fetchGateway interface).toText

def fetchOptionalDomainName (host : Host) : String :=
  match Network.fetchDomainName host with
  | .ok domainName => domainName
  | .error _ => ""

def fetchOptionalNameservers (host : Host) : List Address :=
  match host.fetchNameservers with
  | .ok nameservers => nameservers
  | .error _ => []

def formatNameservers (nameservers : List Address) : String :=
  ", ".intercalate (nameservers.map Address.toText)

/-- The nameservers of the entry with the interface, of the machine, or of another network. -/
def defaultNameservers (host : Host) (nc : NetworkCreator) (interface : String) : List Address :=
  match nc.findByInterface interface with
  | some sharedDefaults =>
    if sharedDefaults.domains ≠ [] then sharedDefaults.domains else otherNameservers
  | none => otherNameservers
where
  otherNameservers : List Address :=
    if fetchOptionalNameservers host ≠ [] then fetchOptionalNameservers host
    else
      match nc.findByProfile .Management, nc.findByProfile .External with
      | some managementDefaults, _ => managementDefaults.domains
      | none, some externalDefaults => externalDefaults.domains
      | none, none => []

def defaultGateway (host : Host) (nc : NetworkCreator) (profile : Network.Profile)
    (interface : String) : String :=
  match nc.findByInterface interface with
  | some sharedDefaults =>
    if profile = .Service then ""
    else if sharedDefaults.gateway ≠ "" then sharedDefaults.gateway
    else fetchOptionalGateway host interface
  | none => fetchOptionalGateway host interface

def defaultDomainName (host : Host) (model : Cluster) (nc : NetworkCreator) (interface : String) :
    String :=
  match nc.findByInterface interface with
  | some sharedDefaults => if sharedDefaults.name ≠ "" then sharedDefaults.name else otherName
  | none => otherName
where
  otherName : String :=
    if model.getDomainName ≠ "" then model.getDomainName else fetchOptionalDomainName host

/-- The values that the form of `createNetwork` shows first. -/
def defaultDetails (host : Host) (model : Cluster) (nc : NetworkCreator)
    (profile : Network.Profile) (interface : String) : NetworkDetails where
  interface
  address := fetchOptionalAddress host interface
  subnetMask := fetchOptionalSubnetMask host interface
  gateway := defaultGateway host nc profile interface
  domainName := defaultDomainName host model nc interface
  nameservers := formatNameservers (defaultNameservers host nc interface)

/-- The form of a service network shows what was entered for the management network. -/
structure Reuses (defaults : NetworkDetails) (shared : NetworkCreatorData) : Prop where
  gateway : defaults.gateway = ""
  domainName : shared.name ≠ "" → defaults.domainName = shared.name
  nameservers : shared.domains ≠ [] → defaults.nameservers = formatNameservers shared.domains

variable {host : Host} {model : Cluster} {nc nc' : NetworkCreator} {interface : String}

theorem reuses_of_shared {shared : NetworkCreatorData}
    (h : nc.findByInterface interface = some shared) :
    Reuses (defaultDetails host model nc .Service interface) shared := by
  constructor
  · simp [defaultDetails, defaultGateway, h]
  · intro hname
    simp [defaultDetails, defaultDomainName, h, hname]
  · intro hdomains
    simp [defaultDetails, defaultNameservers, h, hdomains]

/-! ## The questionnaire -/

variable {profile : Network.Profile} {kind : Network.Kind} {s s' : Session Cluster}

open NetworkCreator in
/-- The interface comes from a menu of those that may be used. -/
theorem follows_collectNetworks (h : Returns (collectNetworks host) s nc' s') : Follows {} nc' := by
  refine KeptByAdding.collectNetworks (P := Follows {}) ?_ h .refl
  intro nc profile kind s details s' nameservers hnc hprompts
  have hmem := (returns_networkPrompts hprompts).1
  rw [retrievePossibleInterfaces, List.mem_insertionSort, List.mem_filter, Bool.and_eq_true] at hmem
  exact .add hnc hmem.2.2

/-- How the networks share their interfaces, and what a service network is offered. -/
structure Assigned (nc : NetworkCreator) : Prop where
  profiles : (nc.networks.map (·.profile)).Nodup
  sharing : nc.networks.Pairwise NetworkCreator.ShareOnlyPair
  two : ∀ interface, (nc.networks.filter (·.interface = interface)).length ≤ 2
  reuse : ∀ host model interface, nc.canUseInterface interface .Service = true →
    nc.findByInterface interface = none ∨
      ∃ entry, nc.findByInterface interface = some entry ∧ entry.profile = .Management ∧
        nc.findByProfile .Management = some entry ∧
          Reuses (defaultDetails host model nc .Service interface) entry

/-- The networks that were added with usable interfaces have them to themselves, but for the
management and the service network; later additions leave them as they are. -/
theorem interface_assignment (h : NetworkCreator.Follows {} nc) :
    Assigned nc ∧ ∀ nc', NetworkCreator.Follows nc nc' → nc.networks <+: nc'.networks := by
  have hsharing := NetworkCreator.pairwise_of_follows List.Pairwise.nil h
  refine ⟨⟨nc.nodup, hsharing, NetworkCreator.length_sharing_le hsharing, ?_⟩,
    fun nc' => NetworkCreator.prefix_of_follows⟩
  intro host model interface hcan
  rcases NetworkCreator.findByInterface_of_canUse hcan with hnone | ⟨entry, hfound, hentry⟩
  · exact .inl hnone
  · exact .inr ⟨entry, hfound, hentry.1, hentry.2, reuses_of_shared hfound⟩

omit [Inet6]

def entryOn (interface : String) (profile : Network.Profile) : NetworkCreatorData where
  profile
  kind := .Ethernet
  interface
  address := "10.0.0.1"
  subnetMask := "255.0.0.0"
  gateway := ""
  name := "cluster.example.com"
  domains := []

/-- The management and the service network on one interface, the external one on another. -/
def threeEntries : NetworkCreator :=
  ((NetworkCreator.empty.addNetworkInformation (entryOn "eth0" .External)).2
    |>.addNetworkInformation (entryOn "eth1" .Management)).2
    |>.addNetworkInformation (entryOn "eth1" .Service) |>.2

theorem threeEntries_assigned :
    @Assigned plainInet6 threeEntries ∧
      ∀ nc', NetworkCreator.Follows threeEntries nc' → threeEntries.networks <+: nc'.networks :=
  @interface_assignment plainInet6 _
    (.add (.add (.add .refl (by decide)) (by decide)) (by decide))

end

end OpenCattus
