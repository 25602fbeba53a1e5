import OpenCattus.Questionnaire.NetworkChecks
import OpenCattus.Questionnaire.SettingSteps

/-!
# The networks of a finished questionnaire

What the networking step saves is written to the sections of the answerfile. The gateway was
checked in the form, and the mask when it was saved, so that a section that is written is also
accepted (`SavedIn.loadable_iff`).

`savedIn_of_returns` says when the external network, which the answerfile asks for, is among them.
-/

namespace OpenCattus

open Foundations Foundations.Text Foundations.Inet Program Dialog

section

variable [Inet6] {host : Host} {nc nc' : NetworkCreator} {profile : Network.Profile}
  {kind : Network.Kind} {s s' : Session Cluster}

/-! ## One network -/

/-- The check of the gateway that a form has passed. -/
def GatewayChecked (data : NetworkCreatorData) : Prop :=
  ∃ details : NetworkDetails, details.toData data.profile data.kind data.domains = data ∧
    validateGatewaySubnet details = .valid

theorem gatewayChecked_of_collectNetworks (h : Returns (collectNetworks host) s nc s') :
    ∀ data ∈ nc.networks, GatewayChecked data := by
  have hkept : KeptByAdding host fun nc => ∀ data ∈ nc.networks, GatewayChecked data := by
    intro nc profile kind s details s' nameservers hnc hprompts data hdata
    rcases mem_addNetworkInformation hdata with hold | rfl
    · exact hnc data hold
    · obtain ⟨-, haccepts⟩ := returns_networkPrompts hprompts
      unfold acceptsDetails at haccepts
      rw [Bool.and_eq_true, decide_eq_true_eq] at haccepts
      exact ⟨details, rfl, haccepts.1⟩
  exact hkept.collectNetworks h (List.forall_mem_nil _)

/-- An interface has a name, since the machine has none without. -/
theorem interface_ne_empty_of_collectNetworks (h : Returns (collectNetworks host) s nc s') :
    ∀ data ∈ nc.networks, data.interface ≠ "" := by
  have hkept : KeptByAdding host fun nc => ∀ data ∈ nc.networks, data.interface ≠ "" := by
    intro nc profile kind s details s' nameservers hnc hprompts data hdata
    rcases mem_addNetworkInformation hdata with hold | rfl
    · exact hnc data hold
    · obtain ⟨hmem, -⟩ := returns_networkPrompts hprompts
      rw [retrievePossibleInterfaces, List.mem_insertionSort] at hmem
      rintro hempty
      have hinterface : details.interface = "" := hempty
      have hfetched := List.mem_of_mem_filter hmem
      rw [hinterface, Connection.fetchInterfaces, List.mem_dedup] at hfetched
      exact host.interfaces_named (List.mem_of_mem_filter hfetched)
  exact hkept.collectNetworks h (List.forall_mem_nil _)

/-- The field of a network that was saved, with the connection to it. -/
theorem loadable_of_stored {net : NetworkCreatorData} {network : Network} {connection : Connection}
    {headnode : Headnode} (hstored : NetworkCreator.Stored host net network connection)
    (hchecked : GatewayChecked net)
    (hconnection : headnode.getConnection network.profile = some connection) :
    (dumpNetworkField headnode {} network).Loadable := by
  obtain ⟨n, hn, hmask⟩ := Network.isMask_iff.mp hstored.mask
  unfold dumpNetworkField
  simp only [hconnection]
  constructor
  · rw [hstored.interface]
    rfl
  · intro mask hmem
    rw [← Option.some.inj hmem]
    exact ⟨by rw [hmask]; rfl, hstored.mask⟩
  · intro ip hip mask hmem gateway hgateway
    obtain rfl := Option.some.inj hip
    obtain rfl := Option.some.inj hmem
    obtain rfl := Option.some.inj hgateway
    obtain ⟨details, hdetails, hvalid⟩ := hchecked
    have haddress : makeAddress details.address = some connection.address := by
      rw [← hstored.address, ← hdetails]
      rfl
    have hmaskText : makeAddress details.subnetMask = some (.v4 (prefixMask n)) := by
      rw [← hmask, ← hstored.subnetMask, ← hdetails]
      rfl
    have hgatewayText : details.gateway = net.gateway := by
      rw [← hdetails]
      rfl
    have hstoredGateway := hstored.gateway
    rw [hmask]
    by_cases hempty : net.gateway = ""
    · rw [if_pos hempty] at hstoredGateway
      rw [hstoredGateway]
      cases connection.address <;> rfl
    · rw [if_neg hempty, ← hgatewayText] at hstoredGateway
      rw [← hgatewayText] at hempty
      obtain ⟨address, gateway, ha, hg, hinside⟩ :=
        (validateGatewaySubnet_eq hmaskText hempty).mp hvalid
      rw [Option.some.inj (haddress.symm.trans ha), Option.some.inj (hstoredGateway.symm.trans hg)]
      simpa [gatewayInSubnet] using hinside

/-! ## All networks -/

/-- What is saved in a model without networks. -/
structure SavedIn (host : Host) (nets : List NetworkCreatorData) (model : Cluster) : Prop where
  nodup : (nets.map (·.profile)).Nodup
  checked : ∀ net ∈ nets, GatewayChecked net
  stored : ∃ added : List (Network × Connection),
    List.Forall₂ (fun net pair => NetworkCreator.Stored host net pair.1 pair.2) nets added ∧
      model.networks = added.map Prod.fst ∧ model.headnode.connections = added.map Prod.snd

namespace SavedIn

variable {nets : List NetworkCreatorData} {model : Cluster}

theorem of_networkSetup (h : SavedIn host nets model) {other : Cluster}
    (heq : other.networkSetup = model.networkSetup) : SavedIn host nets other := by
  obtain ⟨hnetworks, hconnections⟩ := Prod.mk.inj heq
  obtain ⟨added, hadded, hallNetworks, hallConnections⟩ := h.stored
  exact ⟨h.nodup, h.checked, added, hadded, hnetworks.trans hallNetworks,
    hconnections.trans hallConnections⟩

theorem exists_of_getNetwork (h : SavedIn host nets model) {network : Network}
    (hnetwork : model.getNetwork profile = .ok network) : ∃ net ∈ nets, net.profile = profile := by
  obtain ⟨added, hadded, hnetworks, -⟩ := h.stored
  have hfound := Cluster.getNetwork_eq_ok.mp hnetwork
  have hmem := List.mem_of_find?_eq_some hfound
  have hprofile : network.profile = profile := by simpa using List.find?_some hfound
  rw [hnetworks] at hmem
  obtain ⟨pair, hpair, rfl⟩ := List.mem_map.mp hmem
  obtain ⟨net, hnet, hstored⟩ := exists_of_forall₂ hadded hpair
  exact ⟨net, hnet, hstored.profile.symm.trans hprofile⟩

/-- The profiles, in the order in which they were entered. -/
theorem profiles_eq (h : SavedIn host nets model) :
    model.networks.map Network.profile = nets.map (·.profile) ∧
      model.headnode.connections.map Connection.profile = nets.map (·.profile) := by
  obtain ⟨added, hadded, hnetworks, hconnections⟩ := h.stored
  rw [hnetworks, hconnections, List.map_map, List.map_map]
  exact ⟨(map_eq_of_forall₂ hadded fun _ _ hs => hs.profile.symm).symm,
    (map_eq_of_forall₂ hadded fun _ _ hs => hs.connected.symm).symm⟩

/-- Every profile that was entered has a field that is accepted. -/
theorem networkField_of_mem (h : SavedIn host nets model) {net : NetworkCreatorData}
    (hnet : net ∈ nets) : (model.toAnswerFile.networkField net.profile).Loadable := by
  obtain ⟨added, hadded, hnetworks, hconnections⟩ := h.stored
  obtain ⟨⟨network, connection⟩, hmem, hstored⟩ := exists_of_forall₂ hadded.flip hnet
  obtain ⟨hprofiles, hconnected⟩ := h.profiles_eq
  have hfield : model.networks.filter (·.profile = net.profile) = [network] := by
    rw [← hstored.profile]
    exact filter_of_nodup_map Network.profile (hprofiles ▸ h.nodup)
      (hnetworks ▸ List.mem_map_of_mem hmem)
  have hconnection : model.headnode.getConnection network.profile = some connection := by
    rw [Headnode.getConnection, ← List.head?_filter, hstored.profile, ← hstored.connected,
      filter_of_nodup_map Connection.profile (hconnected ▸ h.nodup)
        (hconnections ▸ List.mem_map_of_mem hmem)]
    rfl
  rw [networkField_toAnswerFile hfield]
  exact loadable_of_stored hstored (h.checked net hnet) hconnection

theorem networkField_of_notMem (h : SavedIn host nets model)
    (hnone : ∀ net ∈ nets, net.profile ≠ profile) :
    model.toAnswerFile.networkField profile = {} := by
  obtain ⟨added, hadded, hnetworks, -⟩ := h.stored
  have hempty : model.networks.filter (·.profile = profile) = [] := by
    rw [hnetworks, List.filter_eq_nil_iff]
    intro network hnetwork
    obtain ⟨pair, hpair, rfl⟩ := List.mem_map.mp hnetwork
    obtain ⟨net, hnet, hstored⟩ := exists_of_forall₂ hadded hpair
    rw [hstored.profile]
    simpa using hnone net hnet
  exact networkField_toAnswerFile hempty

/-- A section that is asked for is there exactly when its network was entered; a section that may
be left out is accepted in either case. -/
theorem loadable_iff (h : SavedIn host nets model) (profile : Network.Profile) :
    (model.toAnswerFile.networkField profile).Loadable ↔
      ∃ net ∈ nets, net.profile = profile := by
  constructor
  · intro hloadable
    by_contra hnone
    rw [h.networkField_of_notMem fun net hnet hprofile => hnone ⟨net, hnet, hprofile⟩] at hloadable
    cases hloadable.interface
  · rintro ⟨net, hnet, rfl⟩
    exact h.networkField_of_mem hnet

theorem loadableOptional (h : SavedIn host nets model) (profile : Network.Profile) :
    (model.toAnswerFile.networkField profile).LoadableOptional := by
  intro hpresent
  refine (h.loadable_iff profile).mpr ?_
  by_contra hnone
  rw [h.networkField_of_notMem fun net hnet hprofile => hnone ⟨net, hnet, hprofile⟩] at hpresent
  cases hpresent

end SavedIn

/-! ## The step -/

/-- The network is entered exactly when its form can be read. -/
theorem external_entered_iff (h : Returns (collectNetworks host) s nc s') :
    (∃ net ∈ nc.networks, net.profile = .External) ↔ Readable host .External {} s := by
  obtain ⟨nc₁, s₁, hexternal, h⟩ := returns_bind.mp h
  obtain ⟨nc₂, s₂, hmanagement, h⟩ := returns_bind.mp h
  obtain ⟨wanted, s₃, -, h⟩ := returns_bind.mp h
  obtain ⟨nc₃, s₄, hservice, hinfiniband⟩ := returns_bind.mp h
  obtain ⟨hkeep₂, hfrom₂⟩ := grows_logged hmanagement
  obtain ⟨hkeep₄, hfrom₄⟩ := grows_presenterInfiniband hinfiniband
  have hthird : Grows .Service nc₂ nc₃ := by
    cases wanted with
    | true => exact grows_logged hservice
    | false =>
      obtain ⟨rfl, -⟩ := returns_pure.mp hservice
      exact ⟨List.Subset.refl _, fun _ hnet => .inl hnet⟩
  constructor
  · rintro ⟨net, hnet, hprofile⟩
    have hfirst : net ∈ nc₁.networks := by
      have hnet₃ := (hfrom₄ net hnet).resolve_right (by simp [hprofile])
      have hnet₂ := (hthird.2 net hnet₃).resolve_right (by simp [hprofile])
      exact (hfrom₂ net hnet₂).resolve_right (by simp [hprofile])
    rcases returns_logged hexternal with hreturns | ⟨rfl, -⟩
    · obtain ⟨details, nameservers, hprompts, hparse, -⟩ := returns_presenterNetwork hreturns
      refine ⟨List.ne_nil_of_mem ((returns_networkPrompts hprompts).1), ?_⟩
      intro other s₅ hother
      obtain ⟨rfl, -⟩ := Returns.unique hprompts hother
      exact ⟨nameservers, hparse⟩
    · cases hfirst
  · intro hreadable
    obtain ⟨details, nameservers, -, -, hmem⟩ := entered hexternal (List.forall_mem_nil _) hreadable
    exact ⟨_, hkeep₄ (hthird.1 (hkeep₂ hmem)), rfl⟩

/-- The step adds what it collects to the networks that are there. -/
theorem collected_of_returns (h : Returns (networkingStep host) s () s') :
    ∃ nc s₁, Returns (collectNetworks host) s nc s₁ ∧
      ∃ added : List (Network × Connection),
        List.Forall₂ (fun net pair => NetworkCreator.Stored host net pair.1 pair.2) nc.networks
          added ∧
          s'.model.networks = s.model.networks ++ added.map Prod.fst ∧
            s'.model.headnode.connections = s.model.headnode.connections ++ added.map Prod.snd := by
  obtain ⟨nc, s₁, hcollect, h⟩ := returns_bind.mp h
  obtain ⟨model, s₂, hget, h⟩ := returns_bind.mp h
  obtain ⟨rfl, rfl⟩ := returns_getModel.mp hget
  obtain ⟨saved, s₃, hlift, h⟩ := returns_bind.mp h
  obtain ⟨hsave, rfl⟩ := returns_lift.mp hlift
  obtain rfl := returns_setModel.mp h
  have hleaves : Leaves (collectNetworks host) Cluster.networkSetup :=
    leaves_collectNetworks.of (k := Cluster.networkSetup) fun _ => rfl
  obtain ⟨hnetworks, hconnections⟩ := Prod.mk.inj (hleaves.returns hcollect)
  obtain ⟨added, hadded, hallNetworks, hallConnections⟩ := NetworkCreator.saveNetworks_stored hsave
  rw [hnetworks] at hallNetworks
  rw [hconnections] at hallConnections
  exact ⟨nc, _, hcollect, added, hadded, hallNetworks, hallConnections⟩

/-- A step that begins without networks saves what is collected. -/
theorem savedIn_of_returns (h : Returns (networkingStep host) s () s')
    (hempty : s.model.networkSetup = ([], [])) :
    ∃ nc : NetworkCreator, SavedIn host nc.networks s'.model ∧
      ((∃ net ∈ nc.networks, net.profile = .External) ↔ Readable host .External {} s) := by
  obtain ⟨hnetworks, hconnections⟩ := Prod.mk.inj hempty
  obtain ⟨nc, s₁, hcollect, added, hadded, hallNetworks, hallConnections⟩ := collected_of_returns h
  rw [hnetworks, List.nil_append] at hallNetworks
  rw [hconnections, List.nil_append] at hallConnections
  exact ⟨nc, ⟨nc.nodup, gatewayChecked_of_collectNetworks hcollect, added, hadded, hallNetworks,
    hallConnections⟩, external_entered_iff hcollect⟩

end

end OpenCattus
