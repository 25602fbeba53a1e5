import OpenCattus.Session.Draft
import OpenCattus.Session.DraftNodes
import OpenCattus.Session.Resumed

/-!
# Networks and nodes of a saved model

A draft is a dump with a group of its own. Where the model has one network and one connection for
each of some profiles, so has the model that resumes the draft (`Configured.resumed`), and its
nodes are the same ones in the same order (`records_resumed`).
-/

namespace OpenCattus

open Foundations Foundations.Text Foundations.Inet KeyData

/-! ## What is counted -/

/-- One network and one connection of the head node for each of the profiles, and none for another
profile. -/
structure Cluster.Configured (profiles : List Network.Profile) (model : Cluster) : Prop where
  networks : ∀ profile, (model.networks.map Network.profile).count profile =
    if profile ∈ profiles then 1 else 0
  connections : ∀ profile, (model.headnode.connections.map Connection.profile).count profile =
    if profile ∈ profiles then 1 else 0

/-- The connections that can be written: their interface has a name. -/
def Cluster.InterfacesNamed (model : Cluster) : Prop :=
  ∀ connection ∈ model.headnode.connections, ∃ interface, connection.interface = some interface ∧
    interface ≠ ""

/-- What tells one node from another. -/
structure NodeRecord where
  hostname : String
  macAddress : String
  address : Option Address
  sockets : Nat
  coresPerSocket : Nat
  threadsPerCore : Nat
  bmcAddress : Option String
  deriving DecidableEq, Repr

def Node.record (node : Node) : NodeRecord where
  hostname := node.hostname
  macAddress := node.macAddress
  address := node.nodeStartIp
  sockets := node.cpu.sockets
  coresPerSocket := node.cpu.coresPerSocket
  threadsPerCore := node.cpu.threadsPerCore
  bmcAddress := node.bmc.map BMC.address

/-- A node whose section can be read again. -/
structure Node.Writable (node : Node) : Prop where
  hostname : node.hostname ≠ ""
  macAddress : node.macAddress ≠ ""
  lower_macAddress : lower node.macAddress = node.macAddress
  address : node.nodeStartIp.isSome = true
  sockets : node.cpu.sockets < sizeLimit
  coresPerSocket : node.cpu.coresPerSocket < sizeLimit
  threadsPerCore : node.cpu.threadsPerCore < sizeLimit
  bmc : ∀ bmc ∈ node.bmc, bmc.address ≠ ""

variable [Inet6] {host : Host} {kd : KeyData} {model r : Cluster} {profiles : List Network.Profile}
  {profile : Network.Profile} {steps : List String} {complete : Bool}

/-! ## The groups of a draft -/

theorem carries_draftData {group : String} {entries : List (String × Option String)}
    (h : model.dumpData.Carries group entries) (hne : metadataGroup ≠ group) :
    (model.draftData steps complete).Carries group entries := by
  constructor
  · intro key
    rw [Cluster.draftData, lookup_setAll, if_neg hne, h.lookup_eq]
  · rw [Cluster.draftData, hasGroup_setAll, decide_eq_false hne, Bool.false_and, Bool.false_or,
      h.hasGroup_eq]

theorem prefixed_draftData :
    (model.draftData steps complete).prefixed "node." = model.dumpData.prefixed "node." := by
  have hother : startsWith metadataGroup "node." = false := by decide
  rw [Cluster.draftData, KeyData.prefixed, KeyData.prefixed, getGroups_setAll]
  split
  · rw [List.filter_append, List.filter_cons_of_neg (by rw [hother]; exact Bool.false_ne_true),
      List.filter_nil, List.append_nil]
  · rfl

theorem dumpCarries_dumpData (model : Cluster) : DumpCarries model.dumpData model.toAnswerFile := by
  refine dumpCarries_dumpOptions fun node hnode => ?_
  obtain ⟨node, -, rfl⟩ := List.mem_map.mp hnode
  simp [Cluster.dumpNode, nodeEntries, assigns]

theorem networkField_draftData (profile : Network.Profile) :
    (model.draftData steps complete).Carries profile.draftSection
      (networkEntries (model.toAnswerFile.networkField profile)) := by
  have hdump := dumpCarries_dumpData model
  cases profile with
  | External => exact carries_draftData hdump.external (by decide)
  | Management => exact carries_draftData hdump.management (by decide)
  | Service => exact carries_draftData hdump.service (by decide)
  | Application => exact carries_draftData hdump.application (by decide)

/-! ## Networks -/

/-- The section says all that a network needs. -/
def saysNetwork (kd : KeyData) (networkSection : String) : Bool :=
  kd.hasGroup networkSection &&
    (optionalString kd networkSection "interface").isSome &&
      ((optionalString kd networkSection "ip_address").bind makeAddress).isSome &&
        ((optionalString kd networkSection "subnet_mask").bind makeAddress).isSome

theorem saysNetwork_iff {networkSection : String} :
    saysNetwork kd networkSection = true ↔ Cluster.SaysNetwork kd networkSection := by
  unfold saysNetwork Cluster.SaysNetwork
  simp only [Bool.and_eq_true, and_assoc]

namespace Cluster

/-- The profiles of the networks and of the connections. -/
def profilesOf (model : Cluster) : List Network.Profile × List Network.Profile :=
  (model.networks.map Network.profile, model.headnode.connections.map Connection.profile)

omit [Inet6] in
theorem optionalString_ne_empty {group key value : String}
    (h : optionalString kd group key = some value) : value ≠ "" := by
  unfold optionalString at h
  split at h
  · simpa using (Option.filter_eq_some_iff.mp h).2
  · cases h

/-- The profiles whose sections say enough. -/
def draftProfiles (kd : KeyData) (profiles : List Network.Profile) : List Network.Profile :=
  profiles.filter fun profile => saysNetwork kd profile.draftSection

theorem applyNetwork_profiles {kind : Network.Kind} {before : List Network.Profile}
    (hbefore : model.profilesOf = (draftProfiles kd before, draftProfiles kd before))
    (hnew : profile ∉ before) (hnamed : model.InterfacesNamed)
    (h : applyNetwork host kd profile.draftSection profile kind model = .ok r) :
    r.InterfacesNamed ∧
      r.profilesOf = (draftProfiles kd (before ++ [profile]),
        draftProfiles kd (before ++ [profile])) := by
  obtain ⟨hnetworks, hconnections⟩ := Prod.mk.inj hbefore
  have hfree : model.modelHasNetwork profile = false := by
    rw [modelHasNetwork, List.any_eq_false]
    intro network hnetwork
    have hmem : network.profile ∈ draftProfiles kd before :=
      hnetworks ▸ List.mem_map_of_mem hnetwork
    have hother : network.profile ≠ profile := by
      rintro rfl
      exact hnew (List.mem_of_mem_filter hmem)
    simpa using hother
  have hsection : draftProfiles kd (before ++ [profile]) =
      draftProfiles kd before ++
        if saysNetwork kd profile.draftSection = true then [profile] else [] := by
    rw [draftProfiles, List.filter_append, List.filter_singleton, Bool.cond_eq_ite]
    rfl
  rw [hsection]
  rcases applyNetwork_eq_ok h with ⟨hsaid, -, network, connection, interface, hnetwork, hconnection,
    hinterface, hof, rfl⟩ | ⟨rfl, hsilence⟩
  · rw [if_pos (saysNetwork_iff.mpr hsaid)]
    constructor
    · intro other hother
      rcases List.mem_append.mp hother with hother | hother
      · exact hnamed other hother
      · rw [List.mem_singleton.mp hother]
        exact ⟨interface, hof, optionalString_ne_empty hinterface⟩
    · rw [profilesOf, addConnection, addNetwork, List.map_append, List.map_append, hnetworks,
        hconnections, List.map_singleton, List.map_singleton, hnetwork, hconnection]
  · have hsilent : ¬ saysNetwork kd profile.draftSection = true := by
      rw [saysNetwork_iff]
      intro hsaid
      rw [hsilence hsaid] at hfree
      cases hfree
    rw [if_neg hsilent, List.append_nil]
    exact ⟨hnamed, hbefore⟩

/-- The networks of a draft are those of the sections that say enough. -/
theorem applyNetworks_profiles (hnone : model.profilesOf = ([], []))
    (h : applyNetworks host kd model = .ok r) :
    r.InterfacesNamed ∧ r.profilesOf =
      (draftProfiles kd Resumption.profiles, draftProfiles kd Resumption.profiles) := by
  have hnamed : model.InterfacesNamed := by
    intro connection hconnection
    rw [List.map_eq_nil_iff.mp (Prod.mk.inj hnone).2] at hconnection
    cases hconnection
  have happly : applyNetworks host kd model = (do
      let model ← applyNetwork host kd (Network.Profile.draftSection .External) .External .Ethernet
        model
      let model ← applyNetwork host kd (Network.Profile.draftSection .Management) .Management
        .Ethernet model
      let model ← applyNetwork host kd (Network.Profile.draftSection .Service) .Service .Ethernet
        model
      applyNetwork host kd (Network.Profile.draftSection .Application) .Application .Infiniband
        model) := rfl
  rw [happly] at h
  simp only [except_bind_ok] at h
  obtain ⟨m₁, h₁, m₂, h₂, m₃, h₃, h₄⟩ := h
  obtain ⟨hn₁, hp₁⟩ := applyNetwork_profiles hnone List.not_mem_nil hnamed h₁
  obtain ⟨hn₂, hp₂⟩ := applyNetwork_profiles hp₁ (by decide) hn₁ h₂
  obtain ⟨hn₃, hp₃⟩ := applyNetwork_profiles hp₂ (by decide) hn₂ h₃
  exact applyNetwork_profiles hp₃ (by decide) hn₃ h₄

/-! ## A network that was written -/

theorem saysNetwork_of_carries {networkSection interface : String} {field : AFNetwork}
    {ip mask : Address} (h : kd.Carries networkSection (networkEntries field))
    (hinterface : field.conInterface = some interface) (hne : interface ≠ "")
    (hip : field.conIpAddr = some ip) (hmask : field.subnetMask = some mask) :
    saysNetwork kd networkSection = true := by
  refine saysNetwork_iff.mpr ⟨?_, ?_, ?_, ?_⟩
  · rw [h.hasGroup_eq]
    simp [networkEntries, assigns, hinterface]
  · rw [optionalString_carries h]
    simp [networkEntries, assigned, hinterface, unlessEmpty_of_ne hne]
  · rw [optionalString_carries h]
    simp [networkEntries, assigned, hip]
  · rw [optionalString_carries h]
    simp [networkEntries, assigned, hmask]

/-- The sections of a draft that say enough are those of the networks that the model has. -/
theorem saysNetwork_draftData (hconfigured : model.Configured profiles)
    (hnamed : model.InterfacesNamed) :
    saysNetwork (model.draftData steps complete) profile.draftSection = true ↔
      profile ∈ profiles := by
  have hcarries : (model.draftData steps complete).Carries profile.draftSection _ :=
    networkField_draftData profile
  have hcount := hconfigured.networks profile
  rw [List.count, List.countP_map, List.countP_eq_length_filter] at hcount
  by_cases hmem : profile ∈ profiles
  · rw [if_pos hmem, List.length_eq_one_iff] at hcount
    obtain ⟨network, hnetwork⟩ := hcount
    have hone : model.networks.filter (·.profile = profile) = [network] := hnetwork
    have hprofile : network.profile = profile := by
      have hin : network ∈ model.networks.filter (·.profile = profile) := by simp [hone]
      simpa using (List.mem_filter.mp hin).2
    obtain ⟨connection, hconnection⟩ :
        ∃ connection, model.headnode.getConnection network.profile = some connection := by
      have hcounted := hconfigured.connections profile
      rw [if_pos hmem] at hcounted
      obtain ⟨connection, hconnection, hof⟩ :=
        List.mem_map.mp (List.count_pos_iff.mp (by rw [hcounted]; exact Nat.one_pos))
      rw [Headnode.getConnection, ← Option.isSome_iff_exists, List.find?_isSome]
      exact ⟨connection, hconnection, by simpa [hprofile] using hof⟩
    obtain ⟨interface, hinterface, hne⟩ :=
      hnamed connection (List.mem_of_find?_eq_some hconnection)
    have hfield : model.toAnswerFile.networkField profile =
        dumpNetworkField model.headnode {} network := networkField_toAnswerFile hone
    rw [hfield] at hcarries
    have hconInterface : (dumpNetworkField model.headnode {} network).conInterface =
        some interface := by
      simp [dumpNetworkField, hconnection, hinterface]
    have hconIpAddr : (dumpNetworkField model.headnode {} network).conIpAddr =
        some connection.address := by
      simp [dumpNetworkField, hconnection]
    have hmask : (dumpNetworkField model.headnode {} network).subnetMask =
        some network.subnetMask := by
      simp [dumpNetworkField, hconnection]
    exact iff_of_true (saysNetwork_of_carries hcarries hconInterface hne hconIpAddr hmask) hmem
  · rw [if_neg hmem, List.length_eq_zero_iff] at hcount
    have hfield : model.toAnswerFile.networkField profile = {} := networkField_toAnswerFile hcount
    rw [hfield] at hcarries
    have hgroup := hcarries.hasGroup_eq
    refine iff_of_false ?_ hmem
    rw [saysNetwork, hgroup]
    exact Bool.false_ne_true

theorem profilesOf_draftBeforeNodes (h : draftBeforeNodes host kd = .ok r) :
    r.InterfacesNamed ∧ r.profilesOf =
      (draftProfiles kd Resumption.profiles, draftProfiles kd Resumption.profiles) := by
  have hnames : (applyHostname kd (applyTime kd (applyInformation kd (fresh host)))).profilesOf =
      ([], []) := by
    unfold applyHostname
    cases optionalString kd "hostname" "hostname" <;>
      cases optionalString kd "hostname" "domain_name" <;> rfl
  unfold draftBeforeNodes at h
  simp only [except_bind_ok] at h
  obtain ⟨m₁, h₁, m₂, h₂, h⟩ := h
  obtain rfl := Except.ok.inj h
  obtain ⟨_, _, _, _, rfl⟩ := applySystem_eq_ok h₂
  have hnetworks := applyNetworks_profiles hnames h₁
  unfold applyOFED
  split <;> exact hnetworks

/-- The model that resumes a draft has the networks of the model that was saved. -/
theorem Configured.resumed (hconfigured : model.Configured profiles)
    (hnamed : model.InterfacesNamed)
    (h : applyDraftToModel host (some (model.draftData steps complete)) (fresh host) = .ok r) :
    r.Configured profiles ∧ r.InterfacesNamed := by
  obtain ⟨before, nodes, hdrafted⟩ := applyDraftToModel_eq_ok h
  obtain ⟨hbefore, hprofiles⟩ := profilesOf_draftBeforeNodes hdrafted.before_eq
  obtain ⟨hnetworks, hconnections⟩ := Prod.mk.inj hprofiles
  have hcount : ∀ profile,
      (draftProfiles (model.draftData steps complete) Resumption.profiles).count profile =
        if profile ∈ profiles then 1 else 0 := by
    intro profile
    have hall : profile ∈ Resumption.profiles := by cases profile <;> decide
    have hnodup : (draftProfiles (model.draftData steps complete) Resumption.profiles).Nodup := by
      have hprofiles : Resumption.profiles.Nodup := by decide
      exact hprofiles.filter _
    have hmem : profile ∈ draftProfiles (model.draftData steps complete) Resumption.profiles ↔
        profile ∈ profiles := by
      rw [draftProfiles, List.mem_filter, and_iff_right hall,
        saysNetwork_draftData hconfigured hnamed]
    rw [hnodup.count]
    exact if_congr hmem rfl rfl
  refine ⟨⟨?_, ?_⟩, ?_⟩
  · rw [hdrafted.networks, hnetworks]
    exact hcount
  · rw [hdrafted.connections, hconnections]
    exact hcount
  · intro connection hconnection
    rw [hdrafted.connections] at hconnection
    exact hbefore connection hconnection

/-! ## Nodes -/

section

variable {nodeSection : String} {node drafted : Node}

omit [Inet6] in
theorem nodeSize_carries {key : String} {entries : List (String × Option String)} {n generic : Nat}
    (h : kd.Carries nodeSection entries) (hvalue : assigned entries key = some (decimal n))
    (hlt : n < sizeLimit) : nodeSize kd nodeSection key generic = some n := by
  rw [nodeSize, optionalString_carries h, hvalue, clearIfEmpty_some, unlessEmpty_decimal,
    Option.getD_some, parseSize_decimal hlt]

/-- The values of a section that was written for the node. -/
theorem draftNodeValues_carries (h : kd.Carries nodeSection (nodeEntries (dumpNode node)))
    (hnode : node.Writable) {ip : Address} (hip : node.nodeStartIp = some ip) {network : Network}
    (hnetwork : model.getNetwork .Management = .ok network) :
    draftNodeValues kd nodeSection model =
      some
        { hostname := node.hostname
          mac := node.macAddress
          ip
          network
          sockets := node.cpu.sockets
          coresPerSocket := node.cpu.coresPerSocket
          threadsPerCore := node.cpu.threadsPerCore } := by
  have hhostname : optionalString kd nodeSection "hostname" = some node.hostname := by
    rw [optionalString_carries h]
    simp [nodeEntries, dumpNode, assigned, unlessEmpty_of_ne hnode.hostname]
  have hmac : optionalString kd nodeSection "mac_address" = some node.macAddress := by
    rw [optionalString_carries h]
    simp [nodeEntries, dumpNode, assigned, unlessEmpty_of_ne hnode.macAddress]
  have haddress : optionalString kd nodeSection "node_ip" = some ip.toText := by
    rw [optionalString_carries h]
    simp [nodeEntries, dumpNode, assigned, hip]
  have hsockets : nodeSize kd nodeSection "sockets" model.nodeSockets = some node.cpu.sockets :=
    nodeSize_carries h (by simp [nodeEntries, dumpNode, assigned]) hnode.sockets
  have hcores : nodeSize kd nodeSection "cores_per_socket" model.nodeCoresPerSocket =
      some node.cpu.coresPerSocket :=
    nodeSize_carries h (by simp [nodeEntries, dumpNode, assigned]) hnode.coresPerSocket
  have hthreads : nodeSize kd nodeSection "threads_per_core" model.nodeThreadsPerCore =
      some node.cpu.threadsPerCore :=
    nodeSize_carries h (by simp [nodeEntries, dumpNode, assigned]) hnode.threadsPerCore
  unfold draftNodeValues
  rw [hhostname, hmac, haddress, hnetwork, hsockets, hcores, hthreads]
  simp only [Except.toOption, Option.bind_eq_bind, Option.bind_some, makeAddress_toText]

/-- What is read from the section is the node. -/
theorem record_of_drafts (h : kd.Carries nodeSection (nodeEntries (dumpNode node)))
    (hnode : node.Writable) {network : Network}
    (hnetwork : model.getNetwork .Management = .ok network)
    (hdrafts : Drafts kd model nodeSection drafted) :
    drafted.record = node.record ∧ drafted.Writable := by
  obtain ⟨ip, hip⟩ := Option.isSome_iff_exists.mp hnode.address
  obtain ⟨v, hv, hdrafted⟩ := hdrafts
  rw [draftNodeValues_carries h hnode hip hnetwork] at hv
  obtain rfl := Option.some.inj hv
  have hbmc : (draftBMC kd nodeSection model).map BMC.address = node.bmc.map BMC.address := by
    have haddress : optionalString kd nodeSection "bmc_address" = node.bmc.map BMC.address := by
      rw [optionalString_carries h]
      cases hown : node.bmc with
      | none => simp [nodeEntries, dumpNode, assigned, hown]
      | some bmc =>
        simp [nodeEntries, dumpNode, assigned, hown, unlessEmpty_of_ne (hnode.bmc bmc hown)]
    rw [draftBMC, haddress, Option.map_map]
    cases node.bmc with
    | none => rfl
    | some bmc => rfl
  unfold draftNode at hdrafted
  obtain ⟨cpu, hcpu, hdrafted⟩ := except_bind_ok.mp hdrafted
  obtain ⟨_, -, hdrafted⟩ := except_bind_ok.mp hdrafted
  obtain ⟨_, -, hdrafted⟩ := except_bind_ok.mp hdrafted
  obtain rfl := Except.ok.inj hdrafted
  obtain ⟨-, -, -, rfl⟩ := CPU.ofTopology_eq_ok hcpu
  have hlower := hnode.lower_macAddress
  constructor
  · simp [Node.record, Node.setMACAddress, hlower, hip, hbmc]
  · refine ⟨hnode.hostname, ?_, ?_, rfl, hnode.sockets, hnode.coresPerSocket, hnode.threadsPerCore,
      ?_⟩
    · exact fun hempty => hnode.macAddress (hlower.symm.trans hempty)
    · exact lower_lower _
    · intro bmc hmem
      have hsome : node.bmc.map BMC.address = some bmc.address := by
        rw [← hbmc]
        exact congrArg (Option.map BMC.address) hmem
      obtain ⟨own, hown, heq⟩ := Option.map_eq_some_iff.mp hsome
      rw [← heq]
      exact hnode.bmc own hown

end

omit [Inet6] in
theorem forall₂_of_range' {α β : Type} {R : Nat → β → Prop} {S : α → β → Prop} {as : List α}
    {bs : List β} {start : Nat} (h : List.Forall₂ R (List.range' start as.length) bs)
    (hread : ∀ {i a b}, as[i]? = some a → R (start + i) b → S a b) : List.Forall₂ S as bs := by
  induction as generalizing start bs with
  | nil =>
    cases h
    exact .nil
  | cons a as ih =>
    rw [List.length_cons, List.range'_succ] at h
    obtain ⟨b, bs, hfirst, hrest, rfl⟩ := List.forall₂_cons_left_iff.mp h
    refine .cons (hread (i := 0) rfl hfirst) (ih hrest fun {i} _ _ hi hb => ?_)
    refine hread (i := i + 1) ?_ ?_
    · rwa [List.getElem?_cons_succ]
    · rwa [Nat.add_assoc, Nat.add_comm 1] at hb

/-- The sections of the nodes, one after the other. -/
theorem carries_nodeSection {i : Nat} {node : Node} (h : model.nodes[i]? = some node) :
    (model.draftData steps complete).Carries (nodeSection (1 + i)) (nodeEntries (dumpNode node)) := by
  refine carries_draftData ((dumpCarries_dumpData model).nodes.node i _ ?_) ?_
  · change (model.nodes.map dumpNode)[i]? = _
    rw [List.getElem?_map, h]
    rfl
  · intro hmetadata
    have hstarts := startsWith_nodeSection (1 + i)
    rw [← hmetadata] at hstarts
    exact absurd hstarts (by decide)

theorem networks_applyGenericNode (kd : KeyData) (model : Cluster) :
    (applyGenericNode kd model).networks = model.networks := by
  unfold applyGenericNode
  split <;> rfl

/-- The model that resumes a draft has the nodes of the model that was saved. -/
theorem records_resumed (hnodes : ∀ node ∈ model.nodes, node.Writable)
    (h : applyDraftToModel host (some (model.draftData steps complete)) (fresh host) = .ok r)
    {network : Network} (hnetwork : r.getNetwork .Management = .ok network) :
    r.nodes.map Node.record = model.nodes.map Node.record ∧ (∀ node ∈ r.nodes, node.Writable) ∧
      (r.nodes ≠ [] → r.nodeQuantity = r.nodes.length) := by
  obtain ⟨before, nodes, hdrafted⟩ := applyDraftToModel_eq_ok h
  generalize hkd : model.draftData steps complete = kd at hdrafted
  have hmanagement : (applyGenericNode kd before).getNetwork .Management = .ok network := by
    rw [← hnetwork, getNetwork, getNetwork, networks_applyGenericNode, hdrafted.networks]
  have hread : ∀ {i node drafted}, model.nodes[i]? = some node →
      Drafts kd (applyGenericNode kd before) (nodeSection (1 + i)) drafted →
        drafted.record = node.record ∧ drafted.Writable := by
    intro i node drafted hi hdrafts
    exact record_of_drafts (hkd ▸ carries_nodeSection hi) (hnodes node (List.mem_of_getElem? hi))
      hmanagement hdrafts
  have hsections : kd.prefixed "node." = (List.range' 1 model.nodes.length).map nodeSection := by
    rw [← hkd, prefixed_draftData, (dumpCarries_dumpData model).nodes.sections]
    change (List.range' 1 (model.nodes.map dumpNode).length).map nodeSection = _
    rw [List.length_map]
  have hkept : (kd.prefixed "node.").filter (fun nodeSection =>
      (draftNodeValues kd nodeSection (applyGenericNode kd before)).isSome) =
        (List.range' 1 model.nodes.length).map nodeSection := by
    rw [hsections, List.filter_eq_self]
    intro name hname
    obtain ⟨counter, hcounter, rfl⟩ := List.mem_map.mp hname
    obtain ⟨i, hi, rfl⟩ := List.mem_range'.mp hcounter
    rw [Nat.one_mul]
    have hget := List.getElem?_eq_getElem hi
    have hnode := hnodes _ (List.mem_of_getElem? hget)
    obtain ⟨ip, hip⟩ := Option.isSome_iff_exists.mp hnode.address
    rw [draftNodeValues_carries (hkd ▸ carries_nodeSection hget) hnode hip hmanagement]
    rfl
  have hall := hdrafted.sections
  rw [hkept, List.forall₂_map_left_iff] at hall
  have hpairs := forall₂_of_range' hall fun hi hdrafts => hread hi hdrafts
  have hmodel : r.nodes = nodes := congrArg Inventory.nodes hdrafted.inventory
  rw [hmodel]
  refine ⟨(map_eq_of_forall₂ hpairs fun node drafted hpair => hpair.1.symm).symm, ?_,
    hdrafted.quantity⟩
  intro drafted hmem
  obtain ⟨node, -, -, hwritable⟩ := exists_of_forall₂ hpairs hmem
  exact hwritable

end Cluster

end OpenCattus
