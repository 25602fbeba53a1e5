import OpenCattus.Questionnaire.HostNames
import OpenCattus.Questionnaire.Nodes

/-!
# What escapes from the names, the networks and the nodes

The steps of the questionnaire that throw for what is typed. The form for the host names lets the
texts of the validator through, a network is saved after its form was left, and the CPU of the
nodes is built after the last of their forms.

`quiet_presenterHostId`, `quiet_networkingStep` and `quiet_presenterNodes` say for which answers
the steps throw nothing.
-/

namespace OpenCattus

open Foundations Foundations.Text Foundations.Inet Program Dialog

/-! ## Host names -/

/-- The first host name that is typed is not one of those that are thrown. -/
def HostnameFits (s : Session Cluster) : Prop :=
  ∀ hostname domainName rest, s.script = .fields [hostname, domainName] :: rest →
    ∃ validation, Server.validateHostname hostname = .ok validation

theorem quiet_presenterHostId {s : Session Cluster} (h : HostnameFits s) :
    Quiet presenterHostId s := by
  obtain ⟨model, script⟩ := s
  refine quiet_ask fun values m hentered => ?_
  replace hentered : Entered hostIdRound model script values m := hentered
  cases hentered with
  | later _ hround _ => exact absurd (congrArg Prod.fst hround) hostIdRound_ne_none
  | here hfields =>
    obtain ⟨hostname, domainName, rfl, rfl⟩ := fieldsOf_two hfields
    obtain ⟨validation, hvalidation⟩ := h hostname domainName _ rfl
    unfold hostIdRound
    dsimp only
    split
    · rename_i e herror
      cases hvalidation.symm.trans herror
    · split
      · exact ⟨_, rfl⟩
      · exact ⟨_, rfl⟩

section

variable [Inet6] {host : Host} {nc nc' : NetworkCreator} {profile : Network.Profile}
  {kind : Network.Kind} {s s' : Session Cluster}

/-! ## Sub-dialogs -/

theorem kind_parseNameservers {raw : String} {e : Exception} (h : parseNameservers raw = .error e) :
    e.kind = .systemError := by
  unfold parseNameservers at h
  generalize ((splitEach isNameserverSeparator raw.toList).filter (· ≠ [])).map String.ofList =
    texts at h
  induction texts with
  | nil => cases h
  | cons text texts ih =>
    rw [List.mapM_cons] at h
    cases hparse : Network.parseAddress text with
    | error e' =>
      rw [hparse] at h
      obtain rfl := Except.error.inj h
      unfold Network.parseAddress at hparse
      split at hparse
      · cases hparse
      · rw [← Except.error.inj hparse]
    | ok address =>
      rw [hparse] at h
      cases hrest : texts.mapM Network.parseAddress with
      | ok addresses =>
        rw [hrest] at h
        cases h
      | error e' =>
        rw [hrest] at h
        obtain rfl := Except.error.inj h
        exact ih hrest

/-- A sub-dialog throws no text. -/
theorem kind_presenterNetwork {e : Exception} {s s' : Session Cluster}
    (h : Raises (presenterNetwork host nc profile kind) s (.thrown e) s') :
    e.kind ≠ .stdString := by
  unfold presenterNetwork at h
  dsimp only at h
  split at h
  · obtain ⟨hthrown, -⟩ := raises_lift.mp h
    rw [← Except.error.inj hthrown]
    simp
  · split at h
    · cases h
    · rcases raises_bind.mp h with hprompts | ⟨details, s₁, -, h⟩
      · exact absurd hprompts (quiet_networkPrompts s e s')
      · rcases raises_bind.mp h with hparse | ⟨nameservers, s₂, -, h⟩
        · obtain ⟨herror, -⟩ := raises_lift.mp hparse
          rw [kind_parseNameservers herror]
          simp
        · cases h

/-- Whatever a sub-dialog throws is caught. -/
theorem quiet_logged (s : Session Cluster) :
    Quiet (logged nc (presenterNetwork host nc profile kind)) s := by
  intro e s' h
  rcases raises_rescue h with ⟨hraises, hhandler⟩ | ⟨stop, s₁, y, -, hhandler, hy⟩
  · simp [kind_presenterNetwork hraises] at hhandler
  · cases stop with
    | thrown e₁ =>
      dsimp only at hhandler
      split at hhandler
      · cases hhandler
      · obtain rfl := Option.some.inj hhandler
        cases hy
    | _ => cases hhandler

/-! ## Networks that can be saved -/

/-- The texts of a network from which its addresses and its domain name can be made. -/
structure Savable (data : NetworkCreatorData) : Prop where
  address : ∃ ip mask, makeAddress data.address = some ip ∧
    makeAddress data.subnetMask = some mask ∧ Network.isMask mask = true ∧
      Network.subnet ip mask ≠ .v4 0
  gateway : data.gateway = "" ∨ ∃ gateway, makeAddress data.gateway = some gateway
  domainName : Network.validateDomainName data.name = .ok ()

theorem exists_saveNetwork {net : NetworkCreatorData} (model : Cluster) (h : Savable net)
    (hinterface : Connection.Usable host net.interface) :
    ∃ r, NetworkCreator.saveNetwork host net model = .ok r := by
  obtain ⟨ip, mask, hip, hmask, hisMask, hsubnet⟩ := h.address
  have hne : ip ≠ .v4 0 := Network.ne_zero_of_subnet hsubnet
  obtain ⟨address, hcalculate, hset⟩ := (@Network.calculateAddress_eq_ok
    { profile := net.profile, kind := net.kind, subnetMask := mask } _ _).mpr ⟨hsubnet, rfl⟩
  have hgateway : ∀ network : Network, ∃ r, NetworkCreator.gatewayOr net.gateway network = .ok r := by
    intro network
    unfold NetworkCreator.gatewayOr
    split
    · rename_i hgiven
      obtain ⟨gateway, hgateway⟩ := h.gateway.resolve_left hgiven
      exact ⟨_, except_bind_ok_pure.mpr ⟨gateway, NetworkCreator.addressOr_eq_ok.mpr hgateway, rfl⟩⟩
    · exact ⟨network, rfl⟩
  obtain ⟨withGateway, hwithGateway⟩ := hgateway
    { profile := net.profile, kind := net.kind, subnetMask := mask, address := Network.subnet ip mask }
  unfold NetworkCreator.saveNetwork
  simp only [except_bind_ok]
  exact ⟨_, ip, NetworkCreator.addressOr_eq_ok.mpr hip, _, Connection.setAddress_eq_ok.mpr ⟨hne, rfl⟩,
    _, Connection.setInterface_eq_ok.mpr ⟨hinterface, rfl⟩, mask,
    NetworkCreator.addressOr_eq_ok.mpr hmask, _, Network.setSubnetMask_eq_ok.mpr ⟨hisMask, rfl⟩,
    address, hcalculate, _, hset, withGateway, hwithGateway, _,
    Network.setDomainName_eq_ok.mpr ⟨h.domainName, rfl⟩, rfl⟩

theorem exists_saveNetworks {nets : List NetworkCreatorData} (model : Cluster)
    (h : ∀ net ∈ nets, Savable net ∧ Connection.Usable host net.interface) :
    ∃ r, NetworkCreator.saveNetworks host nets model = .ok r := by
  induction nets generalizing model with
  | nil => exact ⟨model, rfl⟩
  | cons net nets ih =>
    obtain ⟨hsavable, husable⟩ := h net List.mem_cons_self
    obtain ⟨next, hnext⟩ := exists_saveNetwork model hsavable husable
    obtain ⟨r, hr⟩ := ih next fun other hother => h other (List.mem_cons_of_mem _ hother)
    exact ⟨r, except_bind_ok.mpr ⟨next, hnext, hr⟩⟩

omit [Inet6] in
theorem usable_of_mem {nc : NetworkCreator} {interface : String}
    (h : interface ∈ retrievePossibleInterfaces host nc profile kind) :
    Connection.Usable host interface := by
  have hmem := (List.mem_filter.mp ((List.perm_insertionSort _ _).subset h)).1
  rw [Connection.fetchInterfaces, List.mem_dedup, List.mem_filter] at hmem
  exact ⟨by simpa using hmem.2, hmem.1⟩

theorem usable_collectNetworks (h : Returns (collectNetworks host) s nc s') :
    ∀ data ∈ nc.networks, Connection.Usable host data.interface := by
  refine KeptByAdding.collectNetworks
    (P := fun nc => ∀ data ∈ nc.networks, Connection.Usable host data.interface) ?_ h
    (List.forall_mem_nil _)
  intro nc profile kind s details s' nameservers hnc hprompts data hdata
  rcases mem_addNetworkInformation hdata with hold | rfl
  · exact hnc data hold
  · exact usable_of_mem (returns_networkPrompts hprompts).1

omit [Inet6] in
theorem quiet_selectedVersion (kind : OFED.Kind) (s : Session Cluster) :
    Quiet (selectedVersion kind) s := by
  unfold selectedVersion
  split
  · exact quiet_pure _ s
  · exact quiet_bind.mpr ⟨quiet_accept _ _, fun _ _ _ => quiet_pure _ _⟩

omit [Inet6] in
/-- Every entry of the menu is a kind. -/
theorem exists_ofedKind {name : String} (h : name ∈ ofedKindChoices) (message : String) :
    ∃ kind, unwrap (Enumeration.ofStringOpt name : Option OFED.Kind) message = .ok kind := by
  have hkinds : ∀ choice ∈ ofedKindChoices,
      (Enumeration.ofStringOpt choice : Option OFED.Kind).isSome = true := by decide
  obtain ⟨kind, hkind⟩ := Option.isSome_iff_exists.mp (hkinds name h)
  exact ⟨kind, by rw [hkind]; rfl⟩

theorem quiet_presenterInfiniband (s : Session Cluster) :
    Quiet (presenterInfiniband host nc) s := by
  unfold presenterInfiniband
  split
  · exact quiet_pure _ s
  · refine quiet_bind.mpr ⟨quiet_accept _ _, fun yes s₁ _ => ?_⟩
    cases yes with
    | false => exact quiet_pure _ s₁
    | true =>
      refine quiet_bind.mpr ⟨quiet_listMenu _ _, fun selected s₂ hmenu => ?_⟩
      have hkind := exists_ofedKind (returns_listMenu.mp hmenu).2
      refine quiet_bind.mpr ⟨quiet_lift.mpr (hkind _), fun kind s₃ _ => ?_⟩
      refine quiet_bind.mpr ⟨quiet_selectedVersion kind s₃, fun _ _ _ => ?_⟩
      exact quiet_bind.mpr ⟨quiet_setModel _ _, fun _ _ _ => quiet_logged _⟩

theorem quiet_collectNetworks (s : Session Cluster) : Quiet (collectNetworks host) s := by
  refine quiet_bind.mpr ⟨quiet_logged _, fun _ _ _ => ?_⟩
  refine quiet_bind.mpr ⟨quiet_logged _, fun _ _ _ => ?_⟩
  refine quiet_bind.mpr ⟨quiet_accept _ _, fun wanted s₃ _ => ?_⟩
  refine quiet_bind.mpr ⟨?_, fun _ _ _ => quiet_presenterInfiniband _⟩
  cases wanted with
  | true => exact quiet_logged s₃
  | false => exact quiet_pure _ s₃

/-- The networks that are collected can be saved: a form without a gateway takes every text. -/
def NetworkingFits (host : Host) (s : Session Cluster) : Prop :=
  ∀ nc s', Returns (collectNetworks host) s nc s' → ∀ data ∈ nc.networks, Savable data

theorem quiet_networkingStep (h : NetworkingFits host s) : Quiet (networkingStep host) s := by
  refine quiet_bind.mpr ⟨quiet_collectNetworks s, fun nc s₁ hcollect => ?_⟩
  refine quiet_bind.mpr ⟨quiet_getModel _, fun model s₂ _ => ?_⟩
  refine quiet_bind.mpr ⟨quiet_lift.mpr ?_, fun _ _ _ => quiet_setModel _ _⟩
  refine exists_saveNetworks model fun data hdata => ?_
  exact ⟨h nc s₁ hcollect data hdata, usable_collectNetworks hcollect data hdata⟩

/-! ## Nodes -/

/-- What is typed for the nodes has a CPU, and an address of their BMCs can be counted up. -/
structure NodesFit (s : Session Cluster) : Prop where
  cpu : ∀ naming topology s', Returns nodeForms s (naming, topology) s' →
    ∃ cpu, CPU.ofTopology topology.sockets topology.coresPerSocket topology.threadsPerCore = .ok cpu
  bmc : ∀ naming topology s', Returns nodeForms s (naming, topology) s' →
    (∃ network, s'.model.getNetwork .Management = .ok network) →
      ∀ bmcStartIP, naming.bmcStartIP = some bmcStartIP → bmcStartIP.isV4 = true

omit [Inet6] in
theorem exists_suggestedBMC {template : NodeTemplate} (index : Nat)
    (h : ∀ bmcStartIP, template.bmcStartIP = some bmcStartIP → bmcStartIP.isV4 = true) :
    ∃ suggested, suggestedBMC template index = .ok suggested := by
  unfold suggestedBMC
  cases hstart : template.bmcStartIP with
  | none => exact ⟨none, rfl⟩
  | some bmcStartIP =>
    cases bmcStartIP with
    | v4 bits => exact ⟨_, rfl⟩
    | v6 bits scope => cases h _ hstart

/-- A round of the form of a node throws nothing. -/
theorem exists_nodeRound (template : NodeTemplate) (index : Nat) (fields : Vector String 2)
    (model : Cluster) : ∃ r, (nodeRound template index fields model).1 = .ok r := by
  unfold nodeRound
  split
  · exact ⟨_, rfl⟩
  · exact ⟨_, rfl⟩
  · exact ⟨_, rfl⟩

theorem quiet_nodeForms (s : Session Cluster) : Quiet nodeForms s := by
  refine quiet_bind.mpr ⟨quiet_askFor _ _, fun _ _ _ => ?_⟩
  refine quiet_bind.mpr ⟨quiet_setModel _ _, fun _ _ _ => ?_⟩
  refine quiet_bind.mpr ⟨quiet_askFor _ _, fun _ _ _ => ?_⟩
  refine quiet_bind.mpr ⟨quiet_setModel _ _, fun _ _ _ => ?_⟩
  refine quiet_bind.mpr ⟨quiet_askFor _ _, fun _ _ _ => ?_⟩
  exact quiet_bind.mpr ⟨quiet_setModel _ _, fun _ _ _ => quiet_pure _ _⟩

theorem quiet_presenterNodes (h : NodesFit s) : Quiet presenterNodes s := by
  refine quiet_bind.mpr ⟨quiet_nodeForms s, ?_⟩
  rintro ⟨naming, topology⟩ s₁ hforms
  refine quiet_bind.mpr ⟨quiet_lift.mpr (h.cpu naming topology s₁ hforms), fun cpu s₂ hcpu => ?_⟩
  obtain ⟨-, rfl⟩ := returns_lift.mp hcpu
  refine quiet_bind.mpr ⟨quiet_getModel _, fun model s₃ hmodel => ?_⟩
  obtain ⟨rfl, rfl⟩ := returns_getModel.mp hmodel
  split
  · exact quiet_fatalMessage _
  · rename_i network hnetwork
    have hbmc := h.bmc naming topology _ hforms ⟨network, hnetwork⟩
    refine quiet_each (fun index _ s₄ => ?_) _
    refine quiet_bind.mpr ⟨quiet_lift.mpr (exists_suggestedBMC index hbmc), fun _ _ _ => ?_⟩
    exact quiet_ask fun values model _ => exists_nodeRound _ index values model

end

end OpenCattus
