import OpenCattus.Foundations.Dialog
import OpenCattus.Cluster.RoundTrip
import OpenCattus.Session.NetworkCreator

/-!
# The networking step

The sub-dialogs of the networking step and the saving of what they collect. A sub-dialog that
throws is logged and left out.

`networking_complete_iff` says when a step that completes has every network that was asked for,
with the values that were typed last.
-/

namespace OpenCattus

open Foundations Foundations.Text Foundations.Inet Program Dialog

abbrev Presenter (α : Type) : Type := Dialog Cluster Exception α

/-! ## Interfaces -/

namespace NetworkCreator

def isInfinibandInterface (interface : String) : Bool := "ib".toList.isPrefixOf interface.toList

def interfaceMatchesType (interface : String) : Network.Kind → Bool
  | .Ethernet => !isInfinibandInterface interface
  | .Infiniband => isInfinibandInterface interface

def findByProfile (nc : NetworkCreator) (profile : Network.Profile) : Option NetworkCreatorData :=
  nc.networks.find? (·.profile = profile)

def getSelectedInterfaces (nc : NetworkCreator) : Nat := nc.networks.length

end NetworkCreator

/-- `Connection::fetchInterfaces`; the names are those of a set. -/
def Connection.fetchInterfaces (host : Host) : List String :=
  (host.interfaces.filter (· ≠ "lo")).dedup

def retrievePossibleInterfaces (host : Host) (nc : NetworkCreator) (profile : Network.Profile)
    (kind : Network.Kind) : List String :=
  ((Connection.fetchInterfaces host).filter fun interface =>
    NetworkCreator.interfaceMatchesType interface kind && nc.canUseInterface interface profile)
      |>.insertionSort (· ≤ ·)

/-! ## What is typed -/

/-- The fields of the form. -/
structure NetworkDetails where
  interface : String
  address : String
  subnetMask : String
  gateway : String
  domainName : String
  nameservers : String
  deriving DecidableEq, Repr

def NetworkDetails.ofFields (interface : String) (fields : Vector String 5) : NetworkDetails where
  interface
  address := fields[0]
  subnetMask := fields[1]
  gateway := fields[2]
  domainName := fields[3]
  nameservers := fields[4]

def NetworkDetails.toData (details : NetworkDetails) (profile : Network.Profile)
    (kind : Network.Kind) (domains : List Address) : NetworkCreatorData where
  profile
  kind
  interface := details.interface
  address := details.address
  subnetMask := details.subnetMask
  gateway := details.gateway
  name := details.domainName
  domains

section

variable [Inet6]

def isNameserverSeparator (c : Char) : Bool := c == ',' || c == ' '

def parseNameservers (raw : String) : Result (List Address) :=
  (((splitEach isNameserverSeparator raw.toList).filter (· ≠ [])).map String.ofList).mapM
    Network.parseAddress

def calculateNetworkAddress (connectionAddress subnetMask : Address) : Option Address :=
  match connectionAddress, subnetMask with
  | .v4 ip, .v4 mask => some (.v4 (ip &&& mask))
  | _, _ => none

inductive SharedServiceNetworkStatus where
  | valid | sharedIP | sharedSubnet | invalid
  deriving DecidableEq, Repr

inductive GatewayNetworkStatus where
  | valid | outsideSubnet | invalid
  deriving DecidableEq, Repr

def validateGatewaySubnet (details : NetworkDetails) : GatewayNetworkStatus :=
  if details.gateway = "" then .valid
  else
    match makeAddress details.address, makeAddress details.subnetMask, makeAddress details.gateway with
    | some networkAddress, some subnetMask, some gateway =>
      if !networkAddress.isV4 || !subnetMask.isV4 || !gateway.isV4 then .invalid
      else if gateway.isUnspecified then .valid
      else if calculateNetworkAddress networkAddress subnetMask ≠
          calculateNetworkAddress gateway subnetMask then .outsideSubnet
      else .valid
    | _, _, _ => .invalid

def validateSharedServiceNetwork (sharedDefaults : NetworkCreatorData) (details : NetworkDetails) :
    SharedServiceNetworkStatus :=
  match makeAddress details.address, makeAddress details.subnetMask,
      makeAddress sharedDefaults.address, makeAddress sharedDefaults.subnetMask with
  | some serviceAddress, some serviceSubnetMask, some sharedAddress, some sharedSubnetMask =>
    if serviceAddress = sharedAddress then .sharedIP
    else
      match calculateNetworkAddress serviceAddress serviceSubnetMask,
          calculateNetworkAddress sharedAddress sharedSubnetMask with
      | some service, some shared => if service = shared then .sharedSubnet else .valid
      | _, _ => .invalid
  | _, _, _, _ => .invalid

/-- The checks after which the form is not shown again. -/
def acceptsDetails (nc : NetworkCreator) (profile : Network.Profile) (details : NetworkDetails) :
    Bool :=
  validateGatewaySubnet details = .valid &&
    (match profile, nc.findByProfile .Management with
    | .Service, some managementDefaults =>
      validateSharedServiceNetwork managementDefaults details = .valid
    | _, _ => true)

/-! ## The presenters -/

def kindName : Network.Kind → String
  | .Ethernet => "Ethernet"
  | .Infiniband => "Infiniband"

/-- The prompts of `createNetwork`. -/
def networkPrompts (host : Host) (nc : NetworkCreator) (profile : Network.Profile)
    (kind : Network.Kind) : Presenter NetworkDetails := do
  let interface ← listMenu (retrievePossibleInterfaces host nc profile kind)
  askFor 5 fun fields =>
    let details := NetworkDetails.ofFields interface fields
    if acceptsDetails nc profile details then some details else none

/-- `PresenterNetwork`. The nameservers are parsed after the last prompt. -/
def presenterNetwork (host : Host) (nc : NetworkCreator) (profile : Network.Profile)
    (kind : Network.Kind) : Presenter NetworkCreator := do
  let interfaces := retrievePossibleInterfaces host nc profile kind
  if interfaces = [] then
    lift (runtimeError ("No usable " ++ Cluster.getNetwork.profileName profile ++ " (" ++
      kindName kind ++ ") network interfaces remain available"))
  else if interfaces.length + nc.getSelectedInterfaces < 2 then fatalMessage
  else do
    let details ← networkPrompts host nc profile kind
    let domains ← lift (parseNameservers details.nameservers)
    pure (nc.addNetworkInformation (details.toData profile kind domains)).2

/-- The `catch` clauses around a sub-dialog: the networks are those from before it. -/
def logged (nc : NetworkCreator) (x : Presenter NetworkCreator) : Presenter NetworkCreator :=
  rescue x fun
    | .thrown e => if e.kind = .stdString then none else some (pure nc)
    | _ => none

def usableInfinibandInterfaces (host : Host) : List String :=
  (Connection.fetchInterfaces host).filter fun interface =>
    NetworkCreator.isInfinibandInterface interface && (host.fetchAddress interface).toOption.isSome &&
      (host.fetchSubnetMask interface).toOption.isSome

/-- `ofedKindChoices`. -/
def ofedKindChoices : List String := ["Inbox", "DOCA", "Oracle"]

def selectedVersion (kind : OFED.Kind) : Presenter String :=
  if kind = .Inbox then pure "latest"
  else do
    let version ← fieldMenu 1
    pure version[0]

def presenterInfiniband (host : Host) (nc : NetworkCreator) : Presenter NetworkCreator := do
  if usableInfinibandInterfaces host = [] then pure nc
  else if ← yesNoQuestion then do
    let selectedKind ← listMenu ofedKindChoices
    let kind ← lift (unwrap (Enumeration.ofStringOpt selectedKind : Option OFED.Kind)
      ("Invalid enum conversion, expecting one of Inbox,Doca,Oracle, found " ++ selectedKind))
    let version ← selectedVersion kind
    setModel fun model => { model with ofed := some { kind, version } }
    logged nc (presenterNetwork host nc .Application .Infiniband)
  else pure nc

/-- The sub-dialogs of the networking step. -/
def collectNetworks (host : Host) : Presenter NetworkCreator := do
  let nc := NetworkCreator.empty
  let nc ← logged nc (presenterNetwork host nc .External .Ethernet)
  let nc ← logged nc (presenterNetwork host nc .Management .Ethernet)
  let wanted ← yesNoQuestion
  let nc ← (if wanted then logged nc (presenterNetwork host nc .Service .Ethernet) else pure nc)
  presenterInfiniband host nc

def networkingStep (host : Host) : Presenter Unit := do
  let nc ← collectNetworks host
  let model ← getModel
  let model ← lift (nc.saveNetworksToModel host model)
  setModel fun _ => model

/-! ## What completeness asks for -/

/-- The network and the connection that hold what was typed. -/
structure Carried (model : Cluster) (profile : Network.Profile) (details : NetworkDetails)
    (network : Network) (connection : Connection) : Prop where
  network_mem : network ∈ model.networks
  connection_mem : connection ∈ model.headnode.connections
  network_profile : network.profile = profile
  connection_profile : connection.profile = profile
  interface : connection.interface = some details.interface
  address : makeAddress details.address = some connection.address
  subnetMask : makeAddress details.subnetMask = some network.subnetMask
  gateway : if details.gateway = "" then network.gateway = default
    else makeAddress details.gateway = some network.gateway
  domainName : network.domainName = details.domainName
  nameservers : parseNameservers details.nameservers = .ok network.nameservers

variable {host : Host}

/-- The sub-dialogs that a networking step begins, with the networks entered so far. -/
inductive Begins (host : Host) (s : Session Cluster) :
    Network.Profile → NetworkCreator → Session Cluster → Prop
  | external : Begins host s .External {} s
  | management {nc : NetworkCreator} {s₁ : Session Cluster}
      (external : Returns (logged {} (presenterNetwork host {} .External .Ethernet)) s nc s₁) :
      Begins host s .Management nc s₁
  | service {nc₁ nc₂ : NetworkCreator} {s₁ s₂ s₃ : Session Cluster}
      (external : Returns (logged {} (presenterNetwork host {} .External .Ethernet)) s nc₁ s₁)
      (management : Returns (logged nc₁ (presenterNetwork host nc₁ .Management .Ethernet)) s₁ nc₂ s₂)
      (asked : Returns (yesNoQuestion : Presenter Bool) s₂ true s₃) :
      Begins host s .Service nc₂ s₃

/-- The network is there, with what was typed in the last round of the form. -/
def Present (host : Host) (model : Cluster) (profile : Network.Profile) (nc : NetworkCreator)
    (s : Session Cluster) : Prop :=
  ∃ details s₁, Returns (networkPrompts host nc profile .Ethernet) s details s₁ ∧
    ∃ network connection, Carried model profile details network connection

/-- An interface can be chosen, and the nameservers that are typed last are addresses. -/
def Readable (host : Host) (profile : Network.Profile) (nc : NetworkCreator)
    (s : Session Cluster) : Prop :=
  retrievePossibleInterfaces host nc profile .Ethernet ≠ [] ∧
    ∀ details s₁, Returns (networkPrompts host nc profile .Ethernet) s details s₁ →
      ∃ nameservers, parseNameservers details.nameservers = .ok nameservers

/-! ## Sub-dialogs -/

variable {nc nc' : NetworkCreator} {profile : Network.Profile} {kind : Network.Kind}
  {s s' : Session Cluster}

omit [Inet6] in
theorem returns_logged {x : Presenter NetworkCreator} (h : Returns (logged nc x) s nc' s') :
    Returns x s nc' s' ∨ nc' = nc ∧ ∃ e, Raises x s (.thrown e) s' := by
  rcases returns_rescue.mp h with hreturns | ⟨stop, s₁, y, hraises, hhandler, hy⟩
  · exact .inl hreturns
  · refine .inr ?_
    cases stop with
    | thrown e =>
      dsimp only at hhandler
      split at hhandler
      · cases hhandler
      · obtain rfl := Option.some.inj hhandler
        obtain ⟨rfl, rfl⟩ := returns_pure.mp hy
        exact ⟨rfl, e, hraises⟩
    | _ => cases hhandler

theorem quiet_networkPrompts (s : Session Cluster) :
    Quiet (networkPrompts host nc profile kind) s :=
  quiet_bind.mpr ⟨quiet_listMenu _ _, fun _ _ _ => quiet_askFor _ _⟩

/-- A sub-dialog that returns has added what was typed last. -/
theorem returns_presenterNetwork (h : Returns (presenterNetwork host nc profile kind) s nc' s') :
    ∃ details nameservers, Returns (networkPrompts host nc profile kind) s details s' ∧
      parseNameservers details.nameservers = .ok nameservers ∧
      nc' = (nc.addNetworkInformation (details.toData profile kind nameservers)).2 := by
  unfold presenterNetwork at h
  dsimp only at h
  split at h
  · simp [returns_lift] at h
  · split at h
    · exact absurd h returns_raise
    · obtain ⟨details, s₁, hprompts, h⟩ := returns_bind.mp h
      obtain ⟨nameservers, s₂, hnameservers, h⟩ := returns_bind.mp h
      obtain ⟨hparse, rfl⟩ := returns_lift.mp hnameservers
      obtain ⟨rfl, rfl⟩ := returns_pure.mp h
      exact ⟨details, nameservers, hprompts, hparse, rfl⟩

/-- What a sub-dialog throws, it throws before the prompts or after them. -/
theorem raises_presenterNetwork {e : Exception}
    (h : Raises (presenterNetwork host nc profile kind) s (.thrown e) s') :
    retrievePossibleInterfaces host nc profile kind = [] ∨
      ∃ details, Returns (networkPrompts host nc profile kind) s details s' ∧
        parseNameservers details.nameservers = .error e := by
  unfold presenterNetwork at h
  dsimp only at h
  split at h
  · exact .inl ‹_›
  · refine .inr ?_
    split at h
    · cases h
    · rcases raises_bind.mp h with hprompts | ⟨details, s₁, hprompts, h⟩
      · exact absurd hprompts (quiet_networkPrompts s e s')
      · rcases raises_bind.mp h with hparse | ⟨nameservers, s₂, hparse, h⟩
        · obtain ⟨herror, rfl⟩ := raises_lift.mp hparse
          exact ⟨details, hprompts, herror⟩
        · cases h

/-- The networks of `nc'` are those of `nc`, or have the profile. -/
def Grows (profile : Network.Profile) (nc nc' : NetworkCreator) : Prop :=
  nc.networks ⊆ nc'.networks ∧ ∀ data ∈ nc'.networks, data ∈ nc.networks ∨ data.profile = profile

omit [Inet6] in
theorem mem_addNetworkInformation {data other : NetworkCreatorData}
    (h : other ∈ (nc.addNetworkInformation data).2.networks) :
    other ∈ nc.networks ∨ other = data := by
  unfold NetworkCreator.addNetworkInformation at h
  split at h
  · exact .inl h
  · exact (List.mem_append.mp h).imp_right List.mem_singleton.mp

omit [Inet6] in
theorem grows_addNetworkInformation (data : NetworkCreatorData) :
    Grows data.profile nc (nc.addNetworkInformation data).2 := by
  refine ⟨?_, fun other hother => (mem_addNetworkInformation hother).imp_right (congrArg _)⟩
  unfold NetworkCreator.addNetworkInformation
  split
  · exact List.Subset.refl _
  · exact List.subset_append_left _ _

theorem grows_logged (h : Returns (logged nc (presenterNetwork host nc profile kind)) s nc' s') :
    Grows profile nc nc' := by
  rcases returns_logged h with hreturns | ⟨rfl, -⟩
  · obtain ⟨details, nameservers, -, -, rfl⟩ := returns_presenterNetwork hreturns
    exact grows_addNetworkInformation (details.toData profile kind nameservers)
  · exact ⟨List.Subset.refl _, fun _ h => .inl h⟩

/-- The networks are left as they are, or one for InfiniBand is asked for. -/
theorem returns_presenterInfiniband (h : Returns (presenterInfiniband host nc) s nc' s') :
    nc' = nc ∨
      ∃ s₁, Returns (logged nc (presenterNetwork host nc .Application .Infiniband)) s₁ nc' s' := by
  unfold presenterInfiniband at h
  split at h
  · exact .inl (returns_pure.mp h).1.symm
  · obtain ⟨yes, s₁, -, h⟩ := returns_bind.mp h
    cases yes with
    | false => exact .inl (returns_pure.mp h).1.symm
    | true =>
      obtain ⟨selected, s₂, -, h⟩ := returns_bind.mp h
      obtain ⟨kind, s₃, -, h⟩ := returns_bind.mp h
      obtain ⟨version, s₄, -, h⟩ := returns_bind.mp h
      obtain ⟨u, s₅, -, h⟩ := returns_bind.mp h
      exact .inr ⟨s₅, h⟩

theorem grows_presenterInfiniband (h : Returns (presenterInfiniband host nc) s nc' s') :
    Grows .Application nc nc' := by
  rcases returns_presenterInfiniband h with rfl | ⟨s₁, hlogged⟩
  · exact ⟨List.Subset.refl _, fun _ h => .inl h⟩
  · exact grows_logged hlogged

/-- What is typed can be added without losing `P`. -/
def KeptByAdding (host : Host) (P : NetworkCreator → Prop) : Prop :=
  ∀ nc profile kind s details s' nameservers, P nc →
    Returns (networkPrompts host nc profile kind) s details s' →
      P (nc.addNetworkInformation (details.toData profile kind nameservers)).2

namespace KeptByAdding

variable {P : NetworkCreator → Prop} (hkept : KeptByAdding host P)

include hkept

theorem logged (h : Returns (logged nc (presenterNetwork host nc profile kind)) s nc' s')
    (hnc : P nc) : P nc' := by
  rcases returns_logged h with hreturns | ⟨rfl, -⟩
  · obtain ⟨details, nameservers, hprompts, -, rfl⟩ := returns_presenterNetwork hreturns
    exact hkept _ _ _ _ _ _ _ hnc hprompts
  · exact hnc

/-- All sub-dialogs of a step keep it. -/
theorem collectNetworks (h : Returns (collectNetworks host) s nc s') (hempty : P {}) : P nc := by
  obtain ⟨nc₁, s₁, hexternal, h⟩ := returns_bind.mp h
  obtain ⟨nc₂, s₂, hmanagement, h⟩ := returns_bind.mp h
  obtain ⟨wanted, s₃, -, h⟩ := returns_bind.mp h
  obtain ⟨nc₃, s₄, hservice, hinfiniband⟩ := returns_bind.mp h
  have htwo : P nc₂ := hkept.logged hmanagement (hkept.logged hexternal hempty)
  have hthree : P nc₃ := by
    cases wanted with
    | true => exact hkept.logged hservice htwo
    | false =>
      obtain ⟨rfl, -⟩ := returns_pure.mp hservice
      exact htwo
  rcases returns_presenterInfiniband hinfiniband with rfl | ⟨s₅, hlogged⟩
  · exact hthree
  · exact hkept.logged hlogged hthree

end KeptByAdding

/-- The interface of a form comes from the menu, and the form has passed its checks. -/
theorem returns_networkPrompts {details : NetworkDetails}
    (h : Returns (networkPrompts host nc profile kind) s details s') :
    details.interface ∈ retrievePossibleInterfaces host nc profile kind ∧
      acceptsDetails nc profile details = true := by
  obtain ⟨interface, s₁, hmenu, h⟩ := returns_bind.mp h
  obtain ⟨-, fields, hcheck⟩ := returns_askFor h
  dsimp only at hcheck
  split at hcheck
  · rename_i haccepts
    obtain rfl := Option.some.inj hcheck
    exact ⟨(returns_listMenu.mp hmenu).2, haccepts⟩
  · cases hcheck

/-- A readable sub-dialog for a new profile adds what was typed. -/
theorem entered (h : Returns (logged nc (presenterNetwork host nc profile .Ethernet)) s nc' s')
    (hnew : ∀ data ∈ nc.networks, data.profile ≠ profile) (hreadable : Readable host profile nc s) :
    ∃ details nameservers, Returns (networkPrompts host nc profile .Ethernet) s details s' ∧
      parseNameservers details.nameservers = .ok nameservers ∧
      details.toData profile .Ethernet nameservers ∈ nc'.networks := by
  rcases returns_logged h with hreturns | ⟨-, e, hraises⟩
  · obtain ⟨details, nameservers, hprompts, hparse, rfl⟩ := returns_presenterNetwork hreturns
    refine ⟨details, nameservers, hprompts, hparse, ?_⟩
    have hfresh : nc.checkIfProfileExists profile = false := by
      rw [NetworkCreator.checkIfProfileExists, List.any_eq_false]
      intro data hdata
      simpa using hnew data hdata
    unfold NetworkCreator.addNetworkInformation
    rw [dif_neg (by simpa [NetworkDetails.toData] using hfresh)]
    exact List.mem_append_right _ (List.mem_singleton.mpr rfl)
  · rcases raises_presenterNetwork hraises with hempty | ⟨details, hprompts, hparse⟩
    · exact absurd hempty hreadable.1
    · obtain ⟨nameservers, hok⟩ := hreadable.2 details s' hprompts
      rw [hparse] at hok
      cases hok

/-! ## The step -/

/-- What is in the list when it is saved is in the model. -/
theorem carried_of_saved {model r : Cluster} {details : NetworkDetails} {nameservers : List Address}
    (h : nc.saveNetworksToModel host model = .ok r)
    (hdata : details.toData profile kind nameservers ∈ nc.networks)
    (hparse : parseNameservers details.nameservers = .ok nameservers) :
    ∃ network connection, Carried r profile details network connection := by
  obtain ⟨added, hadded, hnetworks, hconnections⟩ := NetworkCreator.saveNetworks_stored h
  obtain ⟨⟨network, connection⟩, hmem, hstored⟩ := exists_of_forall₂ hadded.flip hdata
  refine ⟨network, connection, ?_⟩
  exact
    { network_mem := by
        rw [hnetworks]
        exact List.mem_append_right _ (List.mem_map_of_mem (f := Prod.fst) hmem)
      connection_mem := by
        rw [hconnections]
        exact List.mem_append_right _ (List.mem_map_of_mem (f := Prod.snd) hmem)
      network_profile := hstored.profile
      connection_profile := hstored.connected
      interface := hstored.interface
      address := hstored.address
      subnetMask := hstored.subnetMask
      gateway := hstored.gateway
      domainName := hstored.domainName
      nameservers := hparse.trans (congrArg Except.ok hstored.nameservers.symm) }

theorem readable_of_present {model : Cluster} (h : Present host model profile nc s) :
    Readable host profile nc s := by
  obtain ⟨details, s₁, hprompts, network, connection, hcarried⟩ := h
  constructor
  · obtain ⟨interface, s₂, hmenu, -⟩ := returns_bind.mp hprompts
    exact List.ne_nil_of_mem (returns_listMenu.mp hmenu).2
  · intro other s₂ hother
    obtain ⟨rfl, -⟩ := Returns.unique hprompts hother
    exact ⟨network.nameservers, hcarried.nameservers⟩

/-- The parts of a step that completes. -/
theorem returns_networkingStep (h : Returns (networkingStep host) s () s') :
    ∃ (nc₁ nc₂ nc₃ nc₄ : NetworkCreator) (s₁ s₂ s₃ s₄ : Session Cluster) (wanted : Bool),
      Returns (logged {} (presenterNetwork host {} .External .Ethernet)) s nc₁ s₁ ∧
      Returns (logged nc₁ (presenterNetwork host nc₁ .Management .Ethernet)) s₁ nc₂ s₂ ∧
      Returns (yesNoQuestion : Presenter Bool) s₂ wanted s₃ ∧
      Returns (if wanted then logged nc₂ (presenterNetwork host nc₂ .Service .Ethernet)
        else pure nc₂) s₃ nc₃ s₄ ∧
      nc₃.networks ⊆ nc₄.networks ∧
      ∃ model, nc₄.saveNetworksToModel host model = .ok s'.model := by
  obtain ⟨nc₄, s₅, hcollect, h⟩ := returns_bind.mp h
  obtain ⟨nc₁, s₁, hexternal, hcollect⟩ := returns_bind.mp hcollect
  obtain ⟨nc₂, s₂, hmanagement, hcollect⟩ := returns_bind.mp hcollect
  obtain ⟨wanted, s₃, hwanted, hcollect⟩ := returns_bind.mp hcollect
  obtain ⟨nc₃, s₄, hservice, hinfiniband⟩ := returns_bind.mp hcollect
  obtain ⟨model, s₆, -, h⟩ := returns_bind.mp h
  obtain ⟨saved, s₇, hsaved, h⟩ := returns_bind.mp h
  obtain ⟨hsave, -⟩ := returns_lift.mp hsaved
  obtain rfl := returns_setModel.mp h
  exact ⟨nc₁, nc₂, nc₃, nc₄, s₁, s₂, s₃, s₄, wanted, hexternal, hmanagement, hwanted, hservice,
    (grows_presenterInfiniband hinfiniband).1, model, hsave⟩

/-- Where a sub-dialog of a step that completes ends, and what of it is saved. -/
theorem subdialog_of_begins (h : Returns (networkingStep host) s () s') {sp : Session Cluster}
    (hbegins : Begins host s profile nc sp) :
    ∃ (nc' saved : NetworkCreator) (sp' : Session Cluster) (model : Cluster),
      Returns (logged nc (presenterNetwork host nc profile .Ethernet)) sp nc' sp' ∧
      (∀ data ∈ nc.networks, data.profile ≠ profile) ∧
      nc'.networks ⊆ saved.networks ∧ saved.saveNetworksToModel host model = .ok s'.model := by
  obtain ⟨nc₁, nc₂, nc₃, nc₄, s₁, s₂, s₃, s₄, wanted, hexternal, hmanagement, hwanted, hservice,
    hinfiniband, model, hsave⟩ := returns_networkingStep h
  obtain ⟨-, hfrom₁⟩ := grows_logged hexternal
  obtain ⟨hkeep₂, hfrom₂⟩ := grows_logged hmanagement
  have hfirst : ∀ data ∈ nc₁.networks, data.profile = .External := by
    intro data hdata
    rcases hfrom₁ data hdata with hnone | hprofile
    · cases hnone
    · exact hprofile
  have hkeep₃ : nc₂.networks ⊆ nc₃.networks := by
    cases wanted with
    | true => exact (grows_logged hservice).1
    | false =>
      obtain ⟨rfl, -⟩ := returns_pure.mp hservice
      exact List.Subset.refl _
  have hkeep₄ : nc₂.networks ⊆ nc₄.networks := List.Subset.trans hkeep₃ hinfiniband
  cases hbegins with
  | external =>
    exact ⟨nc₁, nc₄, s₁, model, hexternal, by simp, List.Subset.trans hkeep₂ hkeep₄, hsave⟩
  | management hexternal' =>
    obtain ⟨rfl, rfl⟩ := Returns.unique hexternal hexternal'
    refine ⟨nc₂, nc₄, s₂, model, hmanagement, ?_, hkeep₄, hsave⟩
    intro data hdata
    simp [hfirst data hdata]
  | service hexternal' hmanagement' hasked =>
    obtain ⟨rfl, rfl⟩ := Returns.unique hexternal hexternal'
    obtain ⟨rfl, rfl⟩ := Returns.unique hmanagement hmanagement'
    obtain ⟨rfl, rfl⟩ := Returns.unique hwanted hasked
    refine ⟨nc₃, nc₄, s₄, model, hservice, ?_, hinfiniband, hsave⟩
    intro data hdata
    rcases hfrom₂ data hdata with hold | hprofile
    · simp [hfirst data hold]
    · simp [hprofile]

theorem present_of_readable (h : Returns (networkingStep host) s () s') {sp : Session Cluster}
    (hbegins : Begins host s profile nc sp) (hreadable : Readable host profile nc sp) :
    Present host s'.model profile nc sp := by
  obtain ⟨nc', saved, sp', model, hsub, hnew, hkeep, hsave⟩ := subdialog_of_begins h hbegins
  obtain ⟨details, nameservers, hprompts, hparse, hmem⟩ := entered hsub hnew hreadable
  exact ⟨details, _, hprompts, carried_of_saved hsave (hkeep hmem) hparse⟩

/-- A step that completes has the networks that were asked for, each with what was typed last, if
and only if an interface could be chosen for each and the nameservers typed last are addresses. -/
theorem networking_complete_iff (h : Returns (networkingStep host) s () s') :
    (∀ profile nc sp, Begins host s profile nc sp → Present host s'.model profile nc sp) ↔
      ∀ profile nc sp, Begins host s profile nc sp → Readable host profile nc sp := by
  constructor
  · intro hpresent profile nc sp hbegins
    exact readable_of_present (hpresent profile nc sp hbegins)
  · intro hreadable profile nc sp hbegins
    exact present_of_readable h hbegins (hreadable profile nc sp hbegins)

/-! ## A name where an address is expected -/

omit [Inet6]

/-- Two networks are entered, the first one with `nameservers`. -/
def typedNetworks (nameservers : String) : Session Cluster where
  model := Cluster.fresh sampleHost
  script :=
    [.item "eth0", .fields ["10.0.0.2", "255.0.0.0", "10.0.0.1", "a.b", nameservers],
      .item "eth1", .fields ["11.0.0.2", "255.0.0.0", "11.0.0.1", "a.b", "10.0.0.1"],
      .confirm false]

/-- The step completes, and the only network is the one for management. -/
theorem external_network_dropped :
    ∃ s', Returns (@networkingStep plainInet6 sampleHost) (typedNetworks "dns.b") () s' ∧
      s'.model.networks.map (·.profile) = [.Management] :=
  ⟨_, returns_of_fst (by decide), by decide⟩

theorem networking_complete_iff_typed :
    ∃ s', Returns (@networkingStep plainInet6 sampleHost) (typedNetworks "10.0.0.1") () s' ∧
      ((∀ profile nc sp, @Begins plainInet6 sampleHost (typedNetworks "10.0.0.1") profile nc sp →
          @Present plainInet6 sampleHost s'.model profile nc sp) ↔
        ∀ profile nc sp, @Begins plainInet6 sampleHost (typedNetworks "10.0.0.1") profile nc sp →
          @Readable plainInet6 sampleHost profile nc sp) := by
  have h := returns_of_fst (x := @networkingStep plainInet6 sampleHost)
    (s := typedNetworks "10.0.0.1") (a := ()) (by decide)
  exact ⟨_, h, @networking_complete_iff plainInet6 _ _ _ h⟩

end

end OpenCattus
