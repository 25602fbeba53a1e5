import OpenCattus.Cluster.RoundTrip

/-!
# Which optionals `fillData` reads

`fillData` reads some optionals of the answerfile without a test. `EmptyRead` says that a
computation stops at such a read, and `emptyRead_bind` follows it through a program.

`AnswerFile.Accepted` is what the loader guarantees. `reads_present_iff` says when these
guarantees are enough.
-/

namespace OpenCattus

open Foundations Foundations.Text Foundations.Inet Program

variable {α β : Type}

/-! ## Reading an empty optional -/

/-- The computation stops where `value` or `operator->` finds no value. -/
def EmptyRead (x : Result α) : Prop :=
  ∃ e, x = .error e ∧ (e.kind = .optionalAccess ∨ e.kind = .undefinedBehaviour)

@[simp] theorem not_emptyRead_ok {a : α} : ¬ EmptyRead (.ok a : Result α) := by
  rintro ⟨e, h, -⟩
  cases h

@[simp] theorem emptyRead_error {e : Exception} : EmptyRead (.error e : Result α) ↔
    e.kind = .optionalAccess ∨ e.kind = .undefinedBehaviour := by
  simp [EmptyRead]

@[simp] theorem not_emptyRead_runtimeError {what : String} :
    ¬ EmptyRead (runtimeError what : Result α) := by
  simp [runtimeError]

@[simp] theorem not_emptyRead_invalidArgument {what : String} :
    ¬ EmptyRead (invalidArgument what : Result α) := by
  simp [invalidArgument]

@[simp] theorem not_emptyRead_answerfileValidation {what : String} :
    ¬ EmptyRead (answerfileValidation what : Result α) := by
  simp [answerfileValidation]

@[simp] theorem emptyRead_valueOf {value : Option α} : EmptyRead (valueOf value) ↔ value = none := by
  cases value <;> simp [valueOf]

@[simp] theorem emptyRead_derefOf {value : Option α} : EmptyRead (derefOf value) ↔ value = none := by
  cases value <;> simp [derefOf, undefinedBehaviour]

theorem emptyRead_bind {x : Result α} {f : α → Result β} :
    EmptyRead (x >>= f) ↔ EmptyRead x ∨ ∃ a, x = .ok a ∧ EmptyRead (f a) := by
  cases x with
  | error e => simp [bind, Except.bind]
  | ok a => simp

theorem not_emptyRead_mapM {f : α → Result β} {as : List α} (hf : ∀ a ∈ as, ¬ EmptyRead (f a)) :
    ¬ EmptyRead (as.mapM f) := by
  induction as with
  | nil => simp [except_pure]
  | cons a as ih =>
    have hrest := ih fun b hb => hf b (List.mem_cons_of_mem _ hb)
    simp [List.mapM_cons, emptyRead_bind, hf a (List.mem_cons_self ..), hrest, except_pure]

theorem not_emptyRead_of_throws {x : Result α} (h : ∀ e, x = .error e → e.kind = .runtimeError) :
    ¬ EmptyRead x := by
  rintro ⟨e, he, hkind⟩
  rw [h e he] at hkind
  simp at hkind

/-! ## Conversions and setters -/

@[simp] theorem not_emptyRead_stoul {text : String} : ¬ EmptyRead (stoul text) := by
  unfold stoul
  split
  · simp
  · split <;> simp

@[simp] theorem not_emptyRead_pushBack {xs : List α} {x : α} : ¬ EmptyRead (pushBack xs x) := by
  unfold pushBack
  split <;> simp

namespace Network

variable {network : Network}

@[simp] theorem not_emptyRead_setDomainName {domainName : String} :
    ¬ EmptyRead (network.setDomainName domainName) := by
  have hvalidate : ¬ EmptyRead (validateDomainName domainName) := by
    unfold validateDomainName
    repeat' split
    all_goals simp
  simp [setDomainName, emptyRead_bind, hvalidate]

@[simp] theorem not_emptyRead_setSubnetMask [Inet6] {mask : Address} :
    ¬ EmptyRead (network.setSubnetMask mask) := by
  unfold setSubnetMask
  split <;> simp

@[simp] theorem not_emptyRead_calculateAddress {ip : Address} :
    ¬ EmptyRead (network.calculateAddress ip) := by
  unfold calculateAddress
  split
  · simp
  · split <;> simp

@[simp] theorem not_emptyRead_setAddress {ip : Address} : ¬ EmptyRead (network.setAddress ip) := by
  unfold setAddress
  split <;> simp

@[simp] theorem not_emptyRead_setNameserversText [Inet6] {texts : List String} :
    ¬ EmptyRead (network.setNameserversText texts) := by
  have hparse : ¬ EmptyRead (texts.mapM parseAddress) := by
    apply not_emptyRead_mapM
    intro text _
    unfold parseAddress
    split <;> simp
  simp [setNameserversText, emptyRead_bind, hparse]

end Network

namespace Connection

variable {connection : Connection}

@[simp] theorem not_emptyRead_setInterface {host : Host} {interface : String} :
    ¬ EmptyRead (connection.setInterface host interface) := by
  unfold setInterface
  split
  · simp
  · split <;> simp

@[simp] theorem not_emptyRead_setMAC {mac : String} : ¬ EmptyRead (connection.setMAC mac) := by
  unfold setMAC
  split <;> simp

@[simp] theorem not_emptyRead_setAddress {ip : Address} :
    ¬ EmptyRead (connection.setAddress ip) := by
  unfold setAddress
  split <;> simp

end Connection

/-! ## The parts of the four network blocks -/

section Parts

variable [Inet6] {host : Host} {afNetwork : AFNetwork} {network : Network}

@[simp] theorem not_emptyRead_fillNameservers {nameservers : Option (List String)} :
    ¬ EmptyRead (fillNameservers host nameservers network) := by
  cases nameservers with
  | some nameservers => exact Network.not_emptyRead_setNameserversText
  | none =>
    simp [fillNameservers, emptyRead_bind, not_emptyRead_of_throws host.fetchNameservers_throws]

theorem not_emptyRead_fillSubnetMask (h : afNetwork.conInterface.isSome = true) :
    ¬ EmptyRead (fillSubnetMask host afNetwork network) := by
  obtain ⟨interface, hi⟩ := Option.isSome_iff_exists.mp h
  have hfetch := not_emptyRead_of_throws (host.fetchSubnetMask_throws interface)
  unfold fillSubnetMask
  cases afNetwork.subnetMask <;> simp [emptyRead_bind, hi, valueOf, hfetch]

omit [Inet6] in
@[simp] theorem not_emptyRead_fillDomainName {domainName : String} :
    ¬ EmptyRead (fillDomainName host domainName network) := by
  have hfetch := not_emptyRead_of_throws host.domainname_throws
  unfold fillDomainName Network.fetchDomainName
  split <;> simp [emptyRead_bind, hfetch]

omit [Inet6] in
theorem not_emptyRead_fillMAC {connection : Connection} (h : afNetwork.conMacAddr.isSome = true) :
    ¬ EmptyRead (fillMAC afNetwork connection) := by
  obtain ⟨mac, hmac⟩ := Option.isSome_iff_exists.mp h
  unfold fillMAC
  by_cases hempty : mac = "" <;> simp [hmac, derefOf, hempty]

omit [Inet6] in
theorem not_emptyRead_externalAddress (h : afNetwork.conInterface.isSome = true) :
    ¬ EmptyRead (Cluster.externalAddress host afNetwork) := by
  obtain ⟨interface, hi⟩ := Option.isSome_iff_exists.mp h
  have hfetch := not_emptyRead_of_throws (host.fetchAddress_throws interface)
  unfold Cluster.externalAddress
  cases afNetwork.conIpAddr <;> simp [hi, valueOf, hfetch]

end Parts

namespace Cluster

variable {cluster : Cluster} {profile : Network.Profile}

@[simp] theorem not_emptyRead_getNetwork : ¬ EmptyRead (cluster.getNetwork profile) := by
  unfold getNetwork
  split <;> simp

@[simp] theorem not_emptyRead_setNetworkAddress {ip : Address} :
    ¬ EmptyRead (cluster.setNetworkAddress profile ip) := by
  simp [setNetworkAddress, emptyRead_bind]

end Cluster

/-- The mask of the first network with the profile. -/
def Cluster.firstMask (cluster : Cluster) (profile : Network.Profile) : Option Address :=
  Assoc.get profile (cluster.networks.map fun network => (network.profile, network.subnetMask))

/-! ## What a section needs before its address is read -/

section Ready

variable [Inet6] (host : Host)

/-- The mask of the section is known; one that the host reports is accepted. -/
def MaskReady (profile : Network.Profile) (afNetwork : AFNetwork) : Prop :=
  ∃ mask, Link.maskSource host profile afNetwork = .ok mask ∧
    (afNetwork.subnetMask = none → profile ≠ .Application → Network.isMask mask = true)

/-- The settings of the network are known and accepted on this host. -/
structure NetworkReady (profile : Network.Profile) (afNetwork : AFNetwork) : Prop where
  mask : MaskReady host profile afNetwork
  domain : ∃ domain, Link.domainSource host profile afNetwork = .ok domain ∧
    ∀ name ∈ domain, Network.validateDomainName name = .ok ()
  nameservers : ∃ nameservers, Link.nameserversSource host profile afNetwork = .ok nameservers

/-- The interface and the MAC address are accepted on this host. -/
structure ConnectionReady (afNetwork : AFNetwork) : Prop where
  interface : ∃ interface, afNetwork.conInterface = some interface ∧
    Connection.Usable host interface
  mac : ∀ mac ∈ afNetwork.conMacAddr, mac ≠ "" → Connection.validateMAC mac = .ok ()

/-- The address of the section lies in a network. The management network computes it with the
mask of the section, the others with that of the first network of their profile. -/
def Addressed (cluster : Cluster) (profile : Network.Profile) (afNetwork : AFNetwork) : Prop :=
  ∃ ip mask, Link.addressSource host profile afNetwork = .ok ip ∧
    Link.maskSource host profile afNetwork = .ok mask ∧
      Network.subnet ip
        (if profile = .Management then mask else (cluster.firstMask profile).getD mask) ≠ .v4 0

/-- The section is filled on this host. -/
structure Linked (cluster : Cluster) (profile : Network.Profile) (afNetwork : AFNetwork) : Prop where
  network : NetworkReady host profile afNetwork
  connection : ConnectionReady host afNetwork
  addressed : Addressed host cluster profile afNetwork

end Ready

/-! ## When a part succeeds -/

namespace Cluster

variable {host : Host} {afNetwork : AFNetwork} {cluster : Cluster} {profile : Network.Profile}
  {network : Network}

theorem firstMask_eq :
    cluster.firstMask profile =
      (cluster.networks.find? (·.profile = profile)).map (·.subnetMask) := Assoc.get_map ..

theorem firstMask_addNetwork_of_ne (h : network.profile ≠ profile) :
    (cluster.addNetwork network).firstMask profile = cluster.firstMask profile := by
  simp [firstMask_eq, addNetwork, List.find?_append, h]

/-- After a network was added there is one, but it need not be the one that was added. -/
theorem getNetwork_addNetwork_first (h : network.profile = profile) :
    ∃ first, (cluster.addNetwork network).getNetwork profile = .ok first ∧
      first.subnetMask = (cluster.firstMask profile).getD network.subnetMask := by
  cases hfind : cluster.networks.find? (·.profile = profile) with
  | none =>
    refine ⟨network, getNetwork_eq_ok.mpr ?_, by simp [firstMask_eq, hfind]⟩
    simp [addNetwork, List.find?_append, hfind, h]
  | some first =>
    refine ⟨first, getNetwork_eq_ok.mpr ?_, by simp [firstMask_eq, hfind]⟩
    simp [addNetwork, List.find?_append, hfind]

theorem setNetworkAddress_succeeds {ip : Address} (h : cluster.getNetwork profile = .ok network) :
    (∃ r, cluster.setNetworkAddress profile ip = .ok r) ↔
      Network.subnet ip network.subnetMask ≠ .v4 0 := by
  simp only [setNetworkAddress, h, except_ok_bind, except_bind_ok]
  constructor
  · rintro ⟨_, address, hcalc, changed, hset, -⟩
    exact (Network.calculateAddress_eq_ok.mp ⟨address, hcalc, hset⟩).1
  · intro hne
    obtain ⟨address, hcalc, hset⟩ := Network.calculateAddress_eq_ok.mpr ⟨hne, rfl⟩
    exact ⟨_, address, hcalc, _, hset, rfl⟩

theorem firstMask_setNetworkAddress {ip : Address} {r : Cluster}
    (h : cluster.setNetworkAddress profile ip = .ok r) (p : Network.Profile) :
    r.firstMask p = cluster.firstMask p := by
  simp only [setNetworkAddress, except_bind_ok] at h
  obtain ⟨first, hfirst, address, hcalc, changed, hset, h⟩ := h
  obtain ⟨-, rfl⟩ := Network.calculateAddress_eq_ok.mp ⟨address, hcalc, hset⟩
  obtain rfl := Except.ok.inj h
  exact congrArg (Assoc.get p) (map_updateFirst _ (getNetwork_eq_ok.mp hfirst) rfl)

/-! ### Management -/

section Blocks

variable [Inet6]

theorem fillManagementNetwork_reads
    (hmask : ∀ mask ∈ afNetwork.subnetMask, Network.isMask mask = true) :
    EmptyRead (fillManagementNetwork host afNetwork) ↔
      afNetwork.subnetMask = none ∨ afNetwork.domainName = none ∨
        NetworkReady host .Management afNetwork ∧ afNetwork.conIpAddr = none := by
  unfold fillManagementNetwork
  cases hm : afNetwork.subnetMask with
  | none => simp [valueOf]
  | some mask =>
    cases hd : afNetwork.domainName with
    | none => simp [emptyRead_bind, valueOf, Network.setSubnetMask_eq_ok, hmask mask hm]
    | some domain =>
      have hready : NetworkReady host .Management afNetwork ↔
          Network.validateDomainName domain = .ok () ∧
            ∃ nameservers, nameserversOf host afNetwork.nameservers = .ok nameservers := by
        constructor
        · rintro ⟨-, ⟨_, hsource, hvalid⟩, hns⟩
          obtain rfl : some domain = _ := by simpa [Link.domainSource, hd, valueOf] using hsource
          exact ⟨hvalid domain rfl, hns⟩
        · rintro ⟨hvalid, hns⟩
          exact ⟨⟨mask, by simp [Link.maskSource, hm, valueOf], by simp [hm]⟩,
            ⟨some domain, by simp [Link.domainSource, hd, valueOf], by simpa using hvalid⟩, hns⟩
      rw [hready]
      simp [emptyRead_bind, valueOf_eq_ok, Network.setSubnetMask_eq_ok, hmask mask hm,
        Network.setDomainName_eq_ok, fillNameservers_eq_ok]
      exact and_assoc.symm

theorem fillManagementNetwork_succeeds
    (hmask : ∀ mask ∈ afNetwork.subnetMask, Network.isMask mask = true) :
    (∃ network, fillManagementNetwork host afNetwork = .ok network) ↔
      NetworkReady host .Management afNetwork ∧ Addressed host cluster .Management afNetwork := by
  unfold fillManagementNetwork
  simp only [except_bind_ok, valueOf_eq_ok, Network.setSubnetMask_eq_ok, setGatewayOpt_eq,
    Network.setDomainName_eq_ok, fillNameservers_eq_ok, Except.ok.injEq]
  constructor
  · rintro ⟨network, mask, hm, _, ⟨-, rfl⟩, _, rfl, domain, hd, _, ⟨hvalid, rfl⟩, _,
      ⟨nameservers, hns, rfl⟩, ip, hip, address, hcalc, hset⟩
    obtain ⟨hsubnet, -⟩ := Network.calculateAddress_eq_ok.mp ⟨address, hcalc, hset⟩
    refine ⟨⟨⟨mask, by simp [Link.maskSource, hm, valueOf], by simp [hm]⟩,
      ⟨some domain, by simp [Link.domainSource, hd, valueOf], by simpa using hvalid⟩,
      ⟨nameservers, hns⟩⟩, ip, mask, by simp [Link.addressSource, hip, valueOf],
      by simp [Link.maskSource, hm, valueOf], ?_⟩
    rw [if_pos rfl]
    exact hsubnet
  · rintro ⟨⟨-, ⟨domain, hd, hvalid⟩, nameservers, hns⟩, ip, mask, hip, hm, hsubnet⟩
    obtain ⟨name, hname, rfl⟩ : ∃ name, afNetwork.domainName = some name ∧ some name = domain := by
      simpa [Link.domainSource] using hd
    have hm' : afNetwork.subnetMask = some mask := by simpa [Link.maskSource] using hm
    have hip' : afNetwork.conIpAddr = some ip := by simpa [Link.addressSource] using hip
    let made : Network :=
      { profile := .Management
        kind := .Ethernet
        subnetMask := mask
        gateway := afNetwork.gateway.getD default
        domainName := name
        nameservers := [] ++ nameservers }
    have hsubnet : Network.subnet ip made.subnetMask ≠ .v4 0 := by simpa using hsubnet
    obtain ⟨address, hcalc, hset⟩ := Network.calculateAddress_eq_ok.mpr ⟨hsubnet, rfl⟩
    exact ⟨_, mask, hm', _, ⟨hmask mask hm', rfl⟩, _, rfl, name, hname, _,
      ⟨hvalid name rfl, rfl⟩, _, ⟨nameservers, hns, rfl⟩, ip, hip', address, hcalc, hset⟩

omit [Inet6] in
theorem not_emptyRead_fillManagementConnection (hi : afNetwork.conInterface.isSome = true)
    (hip : afNetwork.conIpAddr.isSome = true) (hmac : afNetwork.conMacAddr.isSome = true) :
    ¬ EmptyRead (fillManagementConnection host afNetwork cluster) := by
  obtain ⟨interface, hi⟩ := Option.isSome_iff_exists.mp hi
  obtain ⟨ip, hip⟩ := Option.isSome_iff_exists.mp hip
  simp [fillManagementConnection, emptyRead_bind, hi, hip, not_emptyRead_fillMAC hmac]

omit [Inet6] in
theorem connectionReady_iff {mac : String} (hmac : afNetwork.conMacAddr = some mac) :
    ConnectionReady host afNetwork ↔
      (∃ interface, afNetwork.conInterface = some interface ∧ Connection.Usable host interface) ∧
        (mac ≠ "" → Connection.validateMAC mac = .ok ()) := by
  constructor
  · rintro ⟨hi, hm⟩
    exact ⟨hi, hm mac hmac⟩
  · rintro ⟨hi, hm⟩
    refine ⟨hi, ?_⟩
    intro mac' hmac'
    obtain rfl : mac = mac' := Option.some.inj (hmac.symm.trans hmac')
    exact hm

omit [Inet6] in
theorem fillManagementConnection_succeeds {ip : Address} {mac : String}
    (hprofile : network.profile = .Management) (hip : afNetwork.conIpAddr = some ip)
    (hne : ip ≠ .v4 0) (hmac : afNetwork.conMacAddr = some mac) :
    (∃ r, fillManagementConnection host afNetwork (cluster.addNetwork network) = .ok r) ↔
      ConnectionReady host afNetwork := by
  obtain ⟨first, hfirst, -⟩ := @getNetwork_addNetwork_first cluster _ network hprofile
  simp only [fillManagementConnection, hfirst, except_ok_bind, except_bind_ok, valueOf_eq_ok,
    Connection.setInterface_eq_ok, Connection.setAddress_eq_ok, fillMAC_eq_ok, hip, hmac,
    connectionReady_iff hmac]
  constructor
  · rintro ⟨_, interface, hi, _, ⟨hu, -⟩, _, -, _, -, _, ⟨_, hm, hv, -⟩, -⟩
    obtain rfl := Option.some.inj hm
    exact ⟨⟨interface, hi, hu⟩, hv⟩
  · rintro ⟨⟨interface, hi, hu⟩, hv⟩
    exact ⟨_, interface, hi, _, ⟨hu, rfl⟩, ip, rfl, _, ⟨hne, rfl⟩, _, ⟨mac, rfl, hv, rfl⟩, rfl⟩

omit [Inet6] in
theorem firstMask_fillManagementConnection {r : Cluster}
    (h : fillManagementConnection host afNetwork cluster = .ok r) (p : Network.Profile) :
    r.firstMask p = cluster.firstMask p := by
  simp only [fillManagementConnection, except_bind_ok] at h
  obtain ⟨_, -, _, -, _, -, _, -, _, -, _, -, h⟩ := h
  obtain rfl := Except.ok.inj h
  rfl

/-! ### External -/

theorem maskReady_iff (hprofile : profile = .External ∨ profile = .Service)
    (hmask : ∀ mask ∈ afNetwork.subnetMask, Network.isMask mask = true) :
    MaskReady host profile afNetwork ↔
      ∃ mask, maskOf host afNetwork = .ok mask ∧ Network.isMask mask = true := by
  have hsource : Link.maskSource host profile afNetwork = maskOf host afNetwork := by
    rcases hprofile with rfl | rfl <;> rfl
  have hne : profile ≠ .Application := by
    rcases hprofile with rfl | rfl <;> simp
  unfold MaskReady
  rw [hsource]
  refine exists_congr fun mask => and_congr_right fun hm => ⟨?_, fun h _ _ => h⟩
  intro h
  cases hsubnet : afNetwork.subnetMask with
  | none => exact h hsubnet hne
  | some given =>
    obtain rfl : given = mask := by simpa [maskOf, hsubnet] using hm
    exact hmask given hsubnet

theorem fillExternalNetwork_reads (hi : afNetwork.conInterface.isSome = true)
    (hmask : ∀ mask ∈ afNetwork.subnetMask, Network.isMask mask = true) :
    EmptyRead (fillExternalNetwork host afNetwork) ↔
      MaskReady host .External afNetwork ∧ afNetwork.domainName = none := by
  rw [maskReady_iff (.inl rfl) hmask]
  simp only [fillExternalNetwork, emptyRead_bind, not_emptyRead_fillSubnetMask hi,
    fillSubnetMask_eq_ok, setGatewayOpt_eq, not_emptyRead_ok, not_emptyRead_fillDomainName,
    not_emptyRead_fillNameservers, emptyRead_derefOf, Except.ok.injEq, and_false, exists_false,
    or_false, false_or]
  constructor
  · rintro ⟨_, ⟨mask, hm, hv, -⟩, _, -, hd⟩
    exact ⟨⟨mask, hm, hv⟩, hd⟩
  · rintro ⟨⟨mask, hm, hv⟩, hd⟩
    exact ⟨_, ⟨mask, hm, hv, rfl⟩, _, rfl, hd⟩

theorem fillExternalNetwork_succeeds
    (hmask : ∀ mask ∈ afNetwork.subnetMask, Network.isMask mask = true) :
    (∃ network, fillExternalNetwork host afNetwork = .ok network) ↔
      NetworkReady host .External afNetwork := by
  simp only [fillExternalNetwork, except_bind_ok, fillSubnetMask_eq_ok, setGatewayOpt_eq,
    Except.ok.injEq, derefOf_eq_ok, fillDomainName_eq_ok, fillNameservers_eq_ok]
  constructor
  · rintro ⟨_, _, ⟨mask, hm, hv, -⟩, _, -, given, hgiven, _, ⟨domain, hd, hvalid, -⟩, nameservers,
      hns, -⟩
    exact ⟨(maskReady_iff (.inl rfl) hmask).mpr ⟨mask, hm, hv⟩,
      ⟨some domain, by simp [Link.domainSource, hgiven, derefOf, hd], by simpa using hvalid⟩,
      nameservers, hns⟩
  · rintro ⟨hm, ⟨domain, hd, hvalid⟩, nameservers, hns⟩
    obtain ⟨mask, hm, hv⟩ := (maskReady_iff (.inl rfl) hmask).mp hm
    obtain ⟨given, hgiven, name, hname, rfl⟩ : ∃ given, afNetwork.domainName = some given ∧
        ∃ name, domainOf host given = .ok name ∧ some name = domain := by
      simpa [Link.domainSource, except_bind_ok] using hd
    exact ⟨_, _, ⟨mask, hm, hv, rfl⟩, _, rfl, given, hgiven, _,
      ⟨name, hname, hvalid name rfl, rfl⟩, nameservers, hns, rfl⟩

theorem fillExternalNetwork_fields (h : fillExternalNetwork host afNetwork = .ok network) :
    network.profile = .External ∧
      Link.maskSource host .External afNetwork = .ok network.subnetMask := by
  simp only [fillExternalNetwork, except_bind_ok, fillSubnetMask_eq_ok, setGatewayOpt_eq,
    Except.ok.injEq, fillDomainName_eq_ok, fillNameservers_eq_ok] at h
  obtain ⟨_, ⟨mask, hm, -, rfl⟩, _, rfl, _, -, _, ⟨_, -, -, rfl⟩, _, -, rfl⟩ := h
  exact ⟨rfl, hm⟩

omit [Inet6] in
theorem not_emptyRead_fillExternalConnection (hi : afNetwork.conInterface.isSome = true)
    (hmac : afNetwork.conMacAddr.isSome = true) :
    ¬ EmptyRead (fillExternalConnection host afNetwork cluster) := by
  have haddress := @not_emptyRead_externalAddress host _ hi
  obtain ⟨interface, hi⟩ := Option.isSome_iff_exists.mp hi
  simp [fillExternalConnection, emptyRead_bind, hi, haddress, not_emptyRead_fillMAC hmac]

omit [Inet6] in
theorem fillExternalConnection_succeeds {mac : String} (hprofile : network.profile = .External)
    (hmask : Link.maskSource host .External afNetwork = .ok network.subnetMask)
    (hmac : afNetwork.conMacAddr = some mac) :
    (∃ r, fillExternalConnection host afNetwork (cluster.addNetwork network) = .ok r) ↔
      ConnectionReady host afNetwork ∧ Addressed host cluster .External afNetwork := by
  obtain ⟨first, hfirst, hfirstMask⟩ := @getNetwork_addNetwork_first cluster _ network hprofile
  have haddressed : Addressed host cluster .External afNetwork ↔
      ∃ ip, externalAddress host afNetwork = .ok ip ∧
        Network.subnet ip first.subnetMask ≠ .v4 0 := by
    unfold Addressed
    simp only [hmask, Except.ok.injEq, exists_and_left, exists_eq_left', hfirstMask, reduceCtorEq,
      if_false]
    exact Iff.rfl
  rw [haddressed, connectionReady_iff hmac]
  simp only [fillExternalConnection, hfirst, except_ok_bind, except_bind_ok, valueOf_eq_ok,
    Connection.setInterface_eq_ok, Connection.setAddress_eq_ok, fillMAC_eq_ok, hmac]
  constructor
  · rintro ⟨_, interface, hi, _, ⟨hu, -⟩, ip, hip, _, -, c, hc, _, ⟨_, hm, hv, -⟩, -⟩
    obtain rfl := Option.some.inj hm
    exact ⟨⟨⟨interface, hi, hu⟩, hv⟩, ip, hip, (setNetworkAddress_succeeds hfirst).mp ⟨c, hc⟩⟩
  · rintro ⟨⟨⟨interface, hi, hu⟩, hv⟩, ip, hip, hsubnet⟩
    obtain ⟨c, hc⟩ := (setNetworkAddress_succeeds hfirst).mpr hsubnet
    exact ⟨_, interface, hi, _, ⟨hu, rfl⟩, ip, hip, _, ⟨Network.ne_zero_of_subnet hsubnet, rfl⟩, c, hc,
      _, ⟨mac, rfl, hv, rfl⟩, rfl⟩

omit [Inet6] in
theorem firstMask_fillExternalConnection {r : Cluster}
    (h : fillExternalConnection host afNetwork cluster = .ok r) (p : Network.Profile) :
    r.firstMask p = cluster.firstMask p := by
  simp only [fillExternalConnection, except_bind_ok] at h
  obtain ⟨_, -, _, -, _, -, _, -, _, -, c, hc, _, -, h⟩ := h
  obtain rfl := Except.ok.inj h
  exact firstMask_setNetworkAddress hc p

/-! ### Service and application -/

omit [Inet6] in
theorem fillOptionalConnection_reads {interface mac : String} (hprofile : network.profile = profile)
    (hmac : afNetwork.conMacAddr = some mac) (hi : afNetwork.conInterface = some interface) :
    EmptyRead (fillOptionalConnection host profile afNetwork interface
        (cluster.addNetwork network)) ↔
      ConnectionReady host afNetwork ∧ afNetwork.conIpAddr = none := by
  obtain ⟨first, hfirst, -⟩ := @getNetwork_addNetwork_first cluster _ network hprofile
  have hread : ∀ connection, ¬ EmptyRead (fillMAC afNetwork connection) := fun _ =>
    not_emptyRead_fillMAC (by simp [hmac])
  rw [connectionReady_iff hmac]
  simp only [fillOptionalConnection, hfirst, except_ok_bind, emptyRead_bind, hread,
    Connection.not_emptyRead_setInterface, Connection.not_emptyRead_setAddress,
    not_emptyRead_setNetworkAddress, not_emptyRead_ok, fillMAC_eq_ok, hmac,
    Connection.setInterface_eq_ok, emptyRead_valueOf, and_false, exists_false, or_false, false_or]
  constructor
  · rintro ⟨_, ⟨_, hm, hv, -⟩, _, ⟨hu, -⟩, hip⟩
    obtain rfl := Option.some.inj hm
    exact ⟨⟨⟨interface, hi, hu⟩, hv⟩, hip⟩
  · rintro ⟨⟨⟨interface', hi', hu⟩, hv⟩, hip⟩
    obtain rfl : interface = interface' := Option.some.inj (hi.symm.trans hi')
    exact ⟨_, ⟨mac, rfl, hv, rfl⟩, _, ⟨hu, rfl⟩, hip⟩

omit [Inet6] in
theorem fillOptionalConnection_succeeds {interface mac : String}
    (hprofile : network.profile = profile)
    (hoptional : profile = .Service ∨ profile = .Application)
    (hmask : Link.maskSource host profile afNetwork = .ok network.subnetMask)
    (hmac : afNetwork.conMacAddr = some mac) (hi : afNetwork.conInterface = some interface) :
    (∃ r, fillOptionalConnection host profile afNetwork interface
        (cluster.addNetwork network) = .ok r) ↔
      ConnectionReady host afNetwork ∧ Addressed host cluster profile afNetwork := by
  obtain ⟨first, hfirst, hfirstMask⟩ := @getNetwork_addNetwork_first cluster _ network hprofile
  have haddressed : Addressed host cluster profile afNetwork ↔
      ∃ ip, afNetwork.conIpAddr = some ip ∧ Network.subnet ip first.subnetMask ≠ .v4 0 := by
    unfold Addressed
    simp only [hmask, Except.ok.injEq, exists_and_left, exists_eq_left', hfirstMask]
    rcases hoptional with rfl | rfl <;> simp [Link.addressSource]
  rw [haddressed, connectionReady_iff hmac]
  simp only [fillOptionalConnection, hfirst, except_ok_bind, except_bind_ok, valueOf_eq_ok,
    Connection.setInterface_eq_ok, Connection.setAddress_eq_ok, fillMAC_eq_ok, hmac]
  constructor
  · rintro ⟨_, _, ⟨_, hm, hv, -⟩, _, ⟨hu, -⟩, ip, hip, _, -, c, hc, -⟩
    obtain rfl := Option.some.inj hm
    exact ⟨⟨⟨interface, hi, hu⟩, hv⟩, ip, hip, (setNetworkAddress_succeeds hfirst).mp ⟨c, hc⟩⟩
  · rintro ⟨⟨⟨interface', hi', hu⟩, hv⟩, ip, hip, hsubnet⟩
    obtain rfl : interface = interface' := Option.some.inj (hi.symm.trans hi')
    obtain ⟨c, hc⟩ := (setNetworkAddress_succeeds hfirst).mpr hsubnet
    exact ⟨_, _, ⟨mac, rfl, hv, rfl⟩, _, ⟨hu, rfl⟩, ip, hip, _,
      ⟨Network.ne_zero_of_subnet hsubnet, rfl⟩, c, hc, rfl⟩

theorem fillServiceNetwork_succeeds {interface : String}
    (hmask : ∀ mask ∈ afNetwork.subnetMask, Network.isMask mask = true) :
    (∃ network, fillServiceNetwork host afNetwork interface = .ok network) ↔
      NetworkReady host .Service afNetwork := by
  simp only [fillServiceNetwork, except_bind_ok, fillSubnetMask_eq_ok, fillDomainName_eq_ok,
    fillNameservers_eq_ok]
  constructor
  · rintro ⟨_, _, ⟨mask, hm, hv, -⟩, _, ⟨domain, hd, hvalid, -⟩, nameservers, hns, -⟩
    exact ⟨(maskReady_iff (.inr rfl) hmask).mpr ⟨mask, hm, hv⟩,
      ⟨some domain, by simp [Link.domainSource, hd], by simpa using hvalid⟩, nameservers, hns⟩
  · rintro ⟨hm, ⟨domain, hd, hvalid⟩, nameservers, hns⟩
    obtain ⟨mask, hm, hv⟩ := (maskReady_iff (.inr rfl) hmask).mp hm
    obtain ⟨name, hname, rfl⟩ : ∃ name, domainOf host (afNetwork.domainName.getD "") = .ok name ∧
        some name = domain := by
      simpa [Link.domainSource] using hd
    exact ⟨_, _, ⟨mask, hm, hv, rfl⟩, _, ⟨name, hname, hvalid name rfl, rfl⟩, nameservers, hns, rfl⟩

theorem fillServiceNetwork_fields {interface : String}
    (h : fillServiceNetwork host afNetwork interface = .ok network) :
    network.profile = .Service ∧
      Link.maskSource host .Service afNetwork = .ok network.subnetMask := by
  simp only [fillServiceNetwork, except_bind_ok, fillSubnetMask_eq_ok, fillDomainName_eq_ok,
    fillNameservers_eq_ok] at h
  obtain ⟨_, ⟨mask, hm, -, rfl⟩, _, ⟨_, -, -, rfl⟩, _, -, rfl⟩ := h
  exact ⟨rfl, hm⟩

theorem fillApplicationNetwork_succeeds
    (hmask : ∀ mask ∈ afNetwork.subnetMask, Network.isMask mask = true) :
    (∃ network, fillApplicationNetwork afNetwork = .ok network) ↔
      NetworkReady host .Application afNetwork := by
  simp only [fillApplicationNetwork_eq_ok]
  constructor
  · rintro ⟨_, -, hd, nameservers, hns, -⟩
    exact ⟨⟨_, rfl, fun _ h => absurd rfl h⟩, ⟨_, rfl, hd⟩, nameservers, hns⟩
  · rintro ⟨-, ⟨domain, hd, hvalid⟩, nameservers, hns⟩
    obtain rfl : afNetwork.domainName = domain := Except.ok.inj hd
    exact ⟨_, hmask, hvalid, nameservers, hns, rfl⟩

theorem not_emptyRead_fillServiceNetwork {interface : String}
    (hi : afNetwork.conInterface.isSome = true) :
    ¬ EmptyRead (fillServiceNetwork host afNetwork interface) := by
  simp [fillServiceNetwork, emptyRead_bind, not_emptyRead_fillSubnetMask hi]

theorem not_emptyRead_fillApplicationNetwork : ¬ EmptyRead (fillApplicationNetwork afNetwork) := by
  have hoptional : ∀ {γ : Type} (value : Option γ) (setter : Network → γ → Result Network) n,
      (∀ n a, ¬ EmptyRead (setter n a)) → ¬ EmptyRead (applyOptional value setter n) := by
    intro γ value setter n hsetter
    cases value with
    | none => simp
    | some a => exact hsetter n a
  simp [fillApplicationNetwork, emptyRead_bind, hoptional]

theorem fillApplicationNetwork_fields (h : fillApplicationNetwork afNetwork = .ok network) :
    network.profile = .Application ∧
      Link.maskSource host .Application afNetwork = .ok network.subnetMask := by
  obtain ⟨-, -, _, -, rfl⟩ := fillApplicationNetwork_eq_ok.mp h
  exact ⟨rfl, rfl⟩

omit [Inet6] in
/-- A section that was left out is not connected. -/
theorem not_connectionReady (h : afNetwork.conInterface = none) :
    ¬ ConnectionReady host afNetwork := by
  rintro ⟨⟨_, hi, -⟩, -⟩
  rw [h] at hi
  cases hi

/-- The two optional blocks: the network is made, added and connected. -/
theorem optionalBlock {make : Result Network} {interface mac : String}
    (hoptional : profile = .Service ∨ profile = .Application) (hquiet : ¬ EmptyRead make)
    (hfields : ∀ network, make = .ok network → network.profile = profile ∧
      Link.maskSource host profile afNetwork = .ok network.subnetMask)
    (hready : (∃ network, make = .ok network) ↔ NetworkReady host profile afNetwork)
    (hmac : afNetwork.conMacAddr = some mac) (hi : afNetwork.conInterface = some interface) :
    let block := do
      let network ← make
      fillOptionalConnection host profile afNetwork interface (cluster.addNetwork network)
    (EmptyRead block ↔ NetworkReady host profile afNetwork ∧ ConnectionReady host afNetwork ∧
        afNetwork.conIpAddr = none) ∧
      ((∃ r, block = .ok r) ↔ Linked host cluster profile afNetwork) := by
  constructor
  · simp only [emptyRead_bind, hquiet, false_or, ← hready]
    constructor
    · rintro ⟨network, hmake, hread⟩
      rw [fillOptionalConnection_reads (hfields network hmake).1 hmac hi] at hread
      exact ⟨⟨network, hmake⟩, hread⟩
    · rintro ⟨⟨network, hmake⟩, hread⟩
      rw [← @fillOptionalConnection_reads _ _ cluster _ _ _ _ (hfields network hmake).1 hmac hi] at hread
      exact ⟨network, hmake, hread⟩
  · simp only [except_bind_ok]
    constructor
    · rintro ⟨r, network, hmake, hr⟩
      obtain ⟨hprofile, hmask⟩ := hfields network hmake
      obtain ⟨hconnection, haddressed⟩ :=
        (fillOptionalConnection_succeeds hprofile hoptional hmask hmac hi).mp ⟨r, hr⟩
      exact ⟨hready.mp ⟨network, hmake⟩, hconnection, haddressed⟩
    · rintro ⟨hnetwork, hconnection, haddressed⟩
      obtain ⟨network, hmake⟩ := hready.mpr hnetwork
      obtain ⟨hprofile, hmask⟩ := hfields network hmake
      obtain ⟨r, hr⟩ :=
        (fillOptionalConnection_succeeds hprofile hoptional hmask hmac hi).mpr
          ⟨hconnection, haddressed⟩
      exact ⟨r, network, hmake, hr⟩

theorem fillService_cases (hmac : afNetwork.conInterface.isSome = true →
      afNetwork.conMacAddr.isSome = true)
    (hmask : ∀ mask ∈ afNetwork.subnetMask, Network.isMask mask = true) :
    (EmptyRead (fillService host afNetwork cluster) ↔
        NetworkReady host .Service afNetwork ∧ ConnectionReady host afNetwork ∧
          afNetwork.conIpAddr = none) ∧
      ((∃ r, fillService host afNetwork cluster = .ok r) ↔
        afNetwork.conInterface = none ∨ Linked host cluster .Service afNetwork) := by
  unfold fillService
  cases hi : afNetwork.conInterface with
  | none => simp [not_connectionReady hi]
  | some interface =>
    obtain ⟨mac, hmac⟩ := Option.isSome_iff_exists.mp (hmac (by simp [hi]))
    simpa using optionalBlock (.inl rfl) (not_emptyRead_fillServiceNetwork (by simp [hi]))
      (fun _ => fillServiceNetwork_fields) (fillServiceNetwork_succeeds hmask) hmac hi

theorem fillApplication_reads (hmac : afNetwork.conInterface.isSome = true →
      afNetwork.conMacAddr.isSome = true)
    (hmask : ∀ mask ∈ afNetwork.subnetMask, Network.isMask mask = true) :
    EmptyRead (fillApplication host afNetwork cluster) ↔
      NetworkReady host .Application afNetwork ∧ ConnectionReady host afNetwork ∧
        afNetwork.conIpAddr = none := by
  unfold fillApplication
  cases hi : afNetwork.conInterface with
  | none => simp [not_connectionReady hi]
  | some interface =>
    obtain ⟨mac, hmac⟩ := Option.isSome_iff_exists.mp (hmac (by simp [hi]))
    exact (optionalBlock (.inr rfl) not_emptyRead_fillApplicationNetwork
      (fun _ => fillApplicationNetwork_fields) (fillApplicationNetwork_succeeds hmask) hmac hi).1

end Blocks

/-! ## Settings, nodes and services -/

theorem not_emptyRead_hasVerifiedChecksum {path : String} :
    ¬ EmptyRead (host.hasVerifiedChecksum path) := by
  have hchecksum : ¬ EmptyRead (host.imageChecksum path) := by
    cases hrun : host.imageChecksum path with
    | ok checksum => simp
    | error e =>
      rcases host.imageChecksum_throws path e hrun with hkind | hkind <;> simp [hkind]
  unfold Host.hasVerifiedChecksum
  split
  · simp
  · split
    · simp
    · simp [emptyRead_bind, hchecksum]

theorem not_emptyRead_setDiskImage {path : String} :
    ¬ EmptyRead (cluster.setDiskImage host path) := by
  have hverify : ¬ EmptyRead (host.hasVerifiedChecksum path) := not_emptyRead_hasVerifiedChecksum
  unfold setDiskImage result
  rcases runDiskImage_cases host path cluster with ⟨-, e, hkind, hrun⟩ | ⟨-, hrun⟩ |
    ⟨-, -, e, herror, hrun⟩
  · simp [hrun, hkind]
  · simp [hrun]
  · rw [herror] at hverify
    simpa [hrun] using hverify

theorem not_emptyRead_fillNodeOS {system : AFSystem} : ¬ EmptyRead (fillNodeOS host system) := by
  have hunsigned : ∀ text, ¬ EmptyRead (OS.unsignedOf text) := by
    intro text
    simp [OS.unsignedOf, emptyRead_bind]
  have hmajor : ∀ distro version, ¬ EmptyRead (OS.parseMajorVersion distro version) := by
    intro distro version
    unfold OS.parseMajorVersion
    split <;> simp [emptyRead_bind, hunsigned]
  have hminor : ∀ distro version, ¬ EmptyRead (OS.parseMinorVersion distro version) := by
    intro distro version
    unfold OS.parseMinorVersion
    dsimp only
    split
    · split <;> simp [hunsigned]
    · exact hunsigned _
  have hset : ∀ (os : OS) major, ¬ EmptyRead (os.setMajorVersion major) := by
    intro os major
    unfold OS.setMajorVersion
    split <;> simp
  unfold fillNodeOS OS.setVersion
  dsimp only
  split <;> simp [emptyRead_bind, hmajor, hminor, hset]

theorem not_emptyRead_fillProvisioner {system : AFSystem} {nodeOS : OS} :
    ¬ EmptyRead (fillProvisioner system nodeOS cluster) := by
  have hselect : ∀ text, ¬ EmptyRead (selectedProvisioner text) := by
    intro text
    unfold selectedProvisioner
    split
    · simp
    · split <;> simp
  have hsupport : ∀ headnodeOS provisioner,
      ¬ EmptyRead (validateProvisionerSupport headnodeOS nodeOS provisioner) := by
    intro headnodeOS provisioner
    unfold validateProvisionerSupport
    repeat' split
    all_goals simp
  simp [fillProvisioner, emptyRead_bind, hselect, hsupport]

theorem not_emptyRead_convertOrError {nodename value fieldName : String} :
    ¬ EmptyRead (convertOrError nodename value fieldName) := by
  unfold convertOrError
  split
  · simp
  · rename_i e he
    split
    · simp
    · rintro ⟨_, ⟨⟩, hkind⟩
      exact not_emptyRead_stoul ⟨e, he, hkind⟩

theorem not_emptyRead_fillBMC {nodename : String} {node : AFNode} :
    ¬ EmptyRead (fillBMC nodename node) := by
  have hfield : ∀ value fieldName, ¬ EmptyRead (requireBMCField nodename value fieldName) := by
    intro value fieldName
    unfold requireBMCField requireBMCField.missing
    split
    · split <;> simp
    · simp
  unfold fillBMC
  split <;> simp [emptyRead_bind, hfield, not_emptyRead_convertOrError]

theorem not_emptyRead_fillNode {nodeOS : OS} {node : AFNode} (hnamed : node.Named)
    (hresolved : ResolvedNode node) : ¬ EmptyRead (fillNode nodeOS network node) := by
  have hsome : ∀ {value : Option String}, hasText value = true → ∃ text, value = some text := by
    intro value hvalue
    cases value with
    | none => simp at hvalue
    | some text => exact ⟨text, rfl⟩
  obtain ⟨hostname, hhostname⟩ := hsome hnamed.hostname
  obtain ⟨password, hpassword⟩ := hsome hresolved.rootPassword
  obtain ⟨sockets, hsockets⟩ := hsome hresolved.sockets
  obtain ⟨cores, hcores⟩ := hsome hresolved.coresPerSocket
  obtain ⟨threads, hthreads⟩ := hsome hresolved.threadsPerCore
  obtain ⟨ip, hip⟩ : ∃ ip, node.startIp = some ip := by
    have hspecified := hresolved.startIp
    cases hstart : node.startIp with
    | none => simp [hstart, isSpecified] at hspecified
    | some ip => exact ⟨ip, rfl⟩
  have hmac : ∀ nodename, ¬ EmptyRead (checkMAC nodename node.macAddress) := by
    intro nodename
    unfold checkMAC
    split
    · simp
    · split <;> simp
  simp [fillNode, emptyRead_bind, hhostname, hip, hmac, hpassword, hsockets, hcores, hthreads,
    not_emptyRead_convertOrError, not_emptyRead_fillBMC]

theorem not_emptyRead_fillNodes {nodeOS : OS} {nodes : List AFNode}
    (hnodes : ∀ node ∈ nodes, node.Named ∧ ResolvedNode node) :
    ¬ EmptyRead (fillNodes nodeOS cluster nodes) := by
  induction nodes generalizing cluster with
  | nil => simp [fillNodes]
  | cons node nodes ih =>
    obtain ⟨hnamed, hresolved⟩ := hnodes node (List.mem_cons_self ..)
    have hrest : ∀ c, ¬ EmptyRead (fillNodes nodeOS c nodes) := fun c =>
      ih fun n hn => hnodes n (List.mem_cons_of_mem _ hn)
    simp [fillNodes, emptyRead_bind, addNode, not_emptyRead_fillNode hnamed hresolved, hrest]

theorem not_emptyRead_fillPostfix {mail : AFPostfix} (h : mail.Loadable) :
    ¬ EmptyRead (fillPostfix mail cluster) := by
  unfold fillPostfix
  cases henabled : mail.enabled with
  | false => simp
  | true =>
    have hload := h henabled
    have hsmtp : ∀ m, ¬ EmptyRead (fillSMTP mail m) := by
      intro m
      unfold fillSMTP
      cases hprofile : mail.profile with
      | Local => simp
      | Relay =>
        obtain ⟨smtp, hsmtp, -⟩ : ∃ smtp, mail.smtp = some smtp ∧ isPort smtp.port := by
          simpa [hprofile] using hload
        simp [emptyRead_bind, hsmtp]
      | SASL =>
        obtain ⟨smtp, hsmtp, -, hsasl⟩ : ∃ smtp, mail.smtp = some smtp ∧ isPort smtp.port ∧
            smtp.sasl.isSome = true := by
          simpa [hprofile] using hload
        obtain ⟨sasl, hsasl⟩ := Option.isSome_iff_exists.mp hsasl
        simp [emptyRead_bind, hsmtp, hsasl]
    simp [emptyRead_bind, hsmtp]

theorem not_emptyRead_fillGenericNode {generic : AFNode} (h : generic.LoadableGeneric) :
    ¬ EmptyRead (fillGenericNode generic cluster) := by
  have hany : ∀ {value : Option String} {p : String → Bool}, value.any p = true →
      ∃ text, value = some text := by
    intro value p hvalue
    cases value with
    | none => simp at hvalue
    | some text => exact ⟨text, rfl⟩
  obtain ⟨nodePrefix, h₁⟩ := Option.isSome_iff_exists.mp h.nodePrefix
  obtain ⟨padding, h₂⟩ := hany h.padding
  obtain ⟨ip, h₃⟩ := Option.isSome_iff_exists.mp h.startIp
  obtain ⟨password, h₄⟩ := Option.isSome_iff_exists.mp h.rootPassword
  obtain ⟨sockets, h₅⟩ := hany h.sockets
  obtain ⟨cores, h₆⟩ := hany h.coresPerSocket
  obtain ⟨threads, h₇⟩ := hany h.threadsPerCore
  obtain ⟨cpus, h₈⟩ := hany h.cpusPerNode
  obtain ⟨memory, h₉⟩ := hany h.realMemory
  simp [fillGenericNode, emptyRead_bind, h₁, h₂, h₃, h₄, h₅, h₆, h₇, h₈, h₉]

end Cluster

/-! ## What the loader guarantees -/

section Accepted

variable [Inet6] {afNetwork : AFNetwork}

omit [Inet6] in
theorem conMacAddr_of_reloaded (h : afNetwork.reloaded = afNetwork) :
    afNetwork.conMacAddr.isSome = true := by
  rw [← h]
  rfl

/-- What is known of an optional section: a given interface comes with a MAC text. -/
theorem optional_section (h : afNetwork.LoadableOptional ∧ afNetwork.reloadedOptional = afNetwork) :
    (afNetwork.conInterface.isSome = true → afNetwork.conMacAddr.isSome = true) ∧
      ∀ mask ∈ afNetwork.subnetMask, Network.isMask mask = true := by
  obtain ⟨hload, hself⟩ := h
  unfold AFNetwork.reloadedOptional at hself
  split at hself
  · rename_i hpresent
    exact ⟨fun _ => conMacAddr_of_reloaded hself, fun mask hm => ((hload hpresent).mask mask hm).2⟩
  · rw [← hself]
    simp

omit [Inet6] in
theorem parseOFEDKind_isSome {kind : String} (h : (normalizeOFEDKind kind).isSome = true) :
    (Cluster.parseOFEDKind kind).isSome = true := by
  unfold normalizeOFEDKind at h
  unfold Cluster.parseOFEDKind
  dsimp only at h
  split at h
  · rename_i hmellanox
    rw [if_pos hmellanox]
    rfl
  · rename_i hmellanox
    rw [if_neg hmellanox]
    split at h
    · rename_i hsome
      simpa [Enumeration.ofStringOpt, lower_lower] using hsome
    · simp at h

omit [Inet6] in
/-- An accepted OFED section is always taken over. -/
theorem fillOFED_succeeds {host : Host} {ofed : AFOFED} {cluster : Cluster}
    (h : ofed.Loadable ∧ ofed.reloaded = ofed) :
    ∃ selected, Cluster.fillOFED host ofed cluster =
      .ok { cluster with ofed := some selected } := by
  obtain ⟨hload, hself⟩ := h
  unfold Cluster.fillOFED
  cases henabled : ofed.enabled with
  | false => exact ⟨_, rfl⟩
  | true =>
    have hkind : ofed.kind ≠ "" := by
      intro hempty
      rw [← hself] at henabled
      simp [AFOFED.reloaded, hempty] at henabled
    obtain ⟨hnormal, hversion⟩ := hload henabled hkind
    obtain ⟨kind, hparse⟩ := Option.isSome_iff_exists.mp (parseOFEDKind_isSome hnormal)
    obtain ⟨version, hversion⟩ := Option.isSome_iff_exists.mp hversion
    exact ⟨⟨kind, version⟩, by simp [hparse, hversion, valueOf]⟩

end Accepted

/-! ## The reads of `fillData` -/

section Reads

variable [Inet6] (host : Host) (cluster : Cluster) (af : AnswerFile)

/-- `fillData` gets as far as the service section. -/
structure ReachesService : Prop where
  management : Linked host cluster .Management af.management
  external : Linked host cluster .External af.external
  diskImage : host.AcceptsImage af.system.diskImage
  version : ∃ platform major minor,
    OS.Denotes af.system.distro af.system.version platform major minor

/-- Every optional is there by the time `fillData` reads it. An address or a domain that is
missing matters only where no earlier step has failed. -/
structure ReadsPresent : Prop where
  managementMask : af.management.subnetMask.isSome = true
  managementDomain : af.management.domainName.isSome = true
  managementAddress : NetworkReady host .Management af.management →
    af.management.conIpAddr.isSome = true
  externalDomain : NetworkReady host .Management af.management →
    Addressed host cluster .Management af.management → MaskReady host .External af.external →
      af.external.domainName.isSome = true
  serviceAddress : ReachesService host cluster af → NetworkReady host .Service af.service →
    ConnectionReady host af.service → af.service.conIpAddr.isSome = true
  applicationAddress : ReachesService host cluster af →
    (af.service.conInterface = none ∨ Linked host cluster .Service af.service) →
      NetworkReady host .Application af.application → ConnectionReady host af.application →
        af.application.conIpAddr.isSome = true

end Reads

namespace Cluster

variable [Inet6] {host : Host} {cluster : Cluster} {af : AnswerFile}

/-- The settings that `fillData` makes before it adds a network. -/
def fillSettings (host : Host) (af : AnswerFile) (cluster : Cluster) : Result (OS × Cluster) := do
  let cluster ← cluster.setDiskImage host af.system.diskImage
  let nodeOS ← fillNodeOS host af.system
  let cluster ← fillOFED host af.ofed (fillInformation af cluster)
  .ok (nodeOS, fillQueueSystem af (fillRepositories af cluster))

/-- `fillData` up to the service section. -/
def fillUntilService (host : Host) (af : AnswerFile) (cluster : Cluster) :
    Result (OS × Cluster) := do
  let managementNetwork ← fillManagementNetwork host af.management
  let externalNetwork ← fillExternalNetwork host af.external
  let (nodeOS, cluster) ← fillSettings host af cluster
  let cluster ← fillManagementConnection host af.management (cluster.addNetwork managementNetwork)
  let cluster ← fillExternalConnection host af.external (cluster.addNetwork externalNetwork)
  .ok (nodeOS, cluster)

/-- `fillData` after the application section. -/
def fillAfterNetworks (af : AnswerFile) (nodeOS : OS) (cluster : Cluster) : Result Cluster := do
  let cluster ← fillProvisioner af.system nodeOS cluster
  let cluster ← fillNodes nodeOS cluster af.nodes.nodes
  let cluster ← fillPostfix af.postfixMail cluster
  let generic ← derefOf af.nodes.generic
  let cluster ← fillGenericNode generic cluster
  .ok (fillSlurmPasswords af.slurm cluster)

theorem fillData_eq :
    fillData host af cluster = (do
      let (nodeOS, cluster) ← fillUntilService host af cluster
      let cluster ← fillService host af.service cluster
      let cluster ← fillApplication host af.application cluster
      fillAfterNetworks af nodeOS cluster) := by
  simp only [fillData, fillUntilService, fillSettings, bind_assoc, except_ok_bind]
  rfl

theorem not_emptyRead_fillAfterNetworks {nodeOS : OS} (h : af.Accepted) :
    ¬ EmptyRead (fillAfterNetworks af nodeOS cluster) := by
  obtain ⟨generic, hgeneric, hloadable, -, -⟩ := h.nodes.generic
  have hnodes : ∀ c, ¬ EmptyRead (fillNodes nodeOS c af.nodes.nodes) := fun c =>
    not_emptyRead_fillNodes fun node hnode => ⟨h.nodes.named node hnode, h.nodes.resolved hnode⟩
  simp [fillAfterNetworks, emptyRead_bind, not_emptyRead_fillProvisioner, hnodes,
    not_emptyRead_fillPostfix h.postfixMail, hgeneric, derefOf,
    not_emptyRead_fillGenericNode hloadable]

omit [Inet6] in
theorem addressed_congr {c c' : Cluster} {profile : Network.Profile} {afNetwork : AFNetwork}
    (h : profile ≠ .Management → c.firstMask profile = c'.firstMask profile) :
    Addressed host c profile afNetwork ↔ Addressed host c' profile afNetwork := by
  unfold Addressed
  by_cases hprofile : profile = .Management
  · simp [hprofile]
  · simp only [hprofile, if_false, h hprofile]

theorem fillManagementNetwork_fields {afNetwork : AFNetwork} {network : Network}
    (h : fillManagementNetwork host afNetwork = .ok network) :
    network.profile = .Management ∧ ∃ ip, afNetwork.conIpAddr = some ip ∧ ip ≠ .v4 0 := by
  simp only [fillManagementNetwork, except_bind_ok, valueOf_eq_ok, Network.setSubnetMask_eq_ok,
    setGatewayOpt_eq, Except.ok.injEq, Network.setDomainName_eq_ok, fillNameservers_eq_ok] at h
  obtain ⟨_, -, _, ⟨-, rfl⟩, _, rfl, _, -, _, ⟨-, rfl⟩, _, ⟨_, -, rfl⟩, ip, hip, address, hcalc,
    hset⟩ := h
  obtain ⟨hsubnet, rfl⟩ := Network.calculateAddress_eq_ok.mp ⟨address, hcalc, hset⟩
  exact ⟨rfl, ip, hip, Network.ne_zero_of_subnet hsubnet⟩

omit [Inet6] in
theorem not_emptyRead_fillSettings (h : af.ofed.Loadable ∧ af.ofed.reloaded = af.ofed) :
    ¬ EmptyRead (fillSettings host af cluster) := by
  have hofed : ∀ c, ¬ EmptyRead (fillOFED host af.ofed c) := by
    intro c
    obtain ⟨selected, hselected⟩ := @fillOFED_succeeds host af.ofed c h
    simp [hselected]
  simp [fillSettings, emptyRead_bind, not_emptyRead_setDiskImage, not_emptyRead_fillNodeOS, hofed]

omit [Inet6] in
theorem fillSettings_succeeds (h : af.ofed.Loadable ∧ af.ofed.reloaded = af.ofed) :
    (∃ os c, fillSettings host af cluster = .ok (os, c)) ↔
      host.AcceptsImage af.system.diskImage ∧ ∃ platform major minor,
        OS.Denotes af.system.distro af.system.version platform major minor := by
  simp only [fillSettings, except_bind_ok, setDiskImage_eq_ok, fillNodeOS_eq_ok, Except.ok.injEq,
    Prod.mk.injEq]
  constructor
  · rintro ⟨_, _, _, ⟨himage, -⟩, _, ⟨platform, major, minor, hversion, -⟩, -⟩
    exact ⟨himage, platform, major, minor, hversion⟩
  · rintro ⟨himage, platform, major, minor, hversion⟩
    obtain ⟨selected, hselected⟩ := @fillOFED_succeeds host af.ofed (fillInformation af
      { cluster with
        diskImage := ⟨af.system.diskImage, (DiskImage.isKnownImage af.system.diskImage).2⟩
        pendingDiskImageDownloadURL := none }) h
    exact ⟨_, _, _, ⟨himage, rfl⟩, _, ⟨platform, major, minor, hversion, rfl⟩, _, hselected, rfl, rfl⟩

omit [Inet6] in
theorem networks_fillSettings {os : OS} {c : Cluster}
    (h : fillSettings host af cluster = .ok (os, c)) : c.networks = cluster.networks := by
  simp only [fillSettings, except_bind_ok, setDiskImage_eq_ok, fillOFED_eq_ok, Except.ok.injEq,
    Prod.mk.injEq] at h
  obtain ⟨_, ⟨-, rfl⟩, _, -, _, ⟨_, -, rfl⟩, -, rfl⟩ := h
  rfl

theorem fillUntilService_reads (h : af.Accepted) :
    EmptyRead (fillUntilService host af cluster) ↔
      EmptyRead (fillManagementNetwork host af.management) ∨
        (∃ network, fillManagementNetwork host af.management = .ok network) ∧
          EmptyRead (fillExternalNetwork host af.external) := by
  have hexternal : ∀ c, ¬ EmptyRead (fillExternalConnection host af.external c) := fun c =>
    not_emptyRead_fillExternalConnection h.external.1.interface (conMacAddr_of_reloaded h.external.2)
  simp only [fillUntilService, emptyRead_bind, not_emptyRead_fillSettings h.ofed, hexternal,
    not_emptyRead_ok, and_false, exists_false, or_false, false_or]
  refine or_congr_right ⟨?_, ?_⟩
  · rintro ⟨network, hnetwork, hread | ⟨_, -, _, -, hread⟩⟩
    · exact ⟨⟨network, hnetwork⟩, hread⟩
    · -- The address of the management section was read already.
      obtain ⟨-, ip, hip, -⟩ := fillManagementNetwork_fields hnetwork
      exact absurd hread (not_emptyRead_fillManagementConnection h.management.1.interface
        (by simp [hip]) (conMacAddr_of_reloaded h.management.2))
  · rintro ⟨⟨network, hnetwork⟩, hread⟩
    exact ⟨network, hnetwork, .inl hread⟩

omit [Inet6] in
/-- The management block leaves the masks of the other profiles alone. -/
theorem firstMask_management {c c' : Cluster} {network : Network} {afNetwork : AFNetwork}
    (hprofile : network.profile = .Management)
    (h : fillManagementConnection host afNetwork (c.addNetwork network) = .ok c')
    {p : Network.Profile} (hp : p ≠ .Management) : c'.firstMask p = c.firstMask p := by
  rw [firstMask_fillManagementConnection h p]
  exact firstMask_addNetwork_of_ne (by rw [hprofile]; exact hp.symm)

theorem firstMask_fillUntilService {os : OS} {c : Cluster}
    (h : fillUntilService host af cluster = .ok (os, c)) :
    c.firstMask .Service = cluster.firstMask .Service := by
  simp only [fillUntilService, except_bind_ok, Except.ok.injEq, Prod.mk.injEq] at h
  obtain ⟨n₁, hn₁, n₂, hn₂, ⟨os', c₁⟩, hc₁, c₂, hc₂, c₃, hc₃, -, rfl⟩ := h
  have hsettings : c₁.firstMask .Service = cluster.firstMask .Service := by
    simp [firstMask, networks_fillSettings hc₁]
  rw [firstMask_fillExternalConnection hc₃,
    firstMask_addNetwork_of_ne (by simp [(fillExternalNetwork_fields hn₂).1]),
    firstMask_management (fillManagementNetwork_fields hn₁).1 hc₂ (by simp), hsettings]

theorem fillUntilService_succeeds (h : af.Accepted) :
    (∃ os c, fillUntilService host af cluster = .ok (os, c)) ↔ ReachesService host cluster af := by
  have hmask : ∀ mask ∈ af.management.subnetMask, Network.isMask mask = true := fun mask hm =>
    (h.management.1.mask mask hm).2
  have hmask' : ∀ mask ∈ af.external.subnetMask, Network.isMask mask = true := fun mask hm =>
    (h.external.1.mask mask hm).2
  obtain ⟨mac, hmac⟩ := Option.isSome_iff_exists.mp (conMacAddr_of_reloaded h.management.2)
  obtain ⟨mac', hmac'⟩ := Option.isSome_iff_exists.mp (conMacAddr_of_reloaded h.external.2)
  -- Whatever the settings, the external mask that counts is the one of the model at the start.
  have hfirst : ∀ {os c₁ n₁ c₂}, fillSettings host af cluster = .ok (os, c₁) →
      fillManagementNetwork host af.management = .ok n₁ →
      fillManagementConnection host af.management (c₁.addNetwork n₁) = .ok c₂ →
      (Addressed host c₂ .External af.external ↔ Addressed host cluster .External af.external) := by
    intro os c₁ n₁ c₂ hc₁ hn₁ hc₂
    apply addressed_congr
    intro hp
    rw [firstMask_management (fillManagementNetwork_fields hn₁).1 hc₂ hp]
    simp [firstMask, networks_fillSettings hc₁]
  simp only [fillUntilService, except_bind_ok, Except.ok.injEq, Prod.mk.injEq]
  constructor
  · rintro ⟨_, _, n₁, hn₁, n₂, hn₂, ⟨os, c₁⟩, hc₁, c₂, hc₂, c₃, hc₃, -, -⟩
    obtain ⟨hprofile, ip, hip, hne⟩ := fillManagementNetwork_fields hn₁
    obtain ⟨hprofile', hsource⟩ := fillExternalNetwork_fields hn₂
    obtain ⟨himage, hversion⟩ := (fillSettings_succeeds h.ofed).mp ⟨os, c₁, hc₁⟩
    obtain ⟨hready, haddressed⟩ := (fillManagementNetwork_succeeds hmask).mp ⟨n₁, hn₁⟩
    obtain ⟨hconnection, hexternal⟩ :=
      (fillExternalConnection_succeeds hprofile' hsource hmac').mp ⟨c₃, hc₃⟩
    exact
      { management := ⟨hready,
          (fillManagementConnection_succeeds hprofile hip hne hmac).mp ⟨c₂, hc₂⟩, haddressed⟩
        external := ⟨(fillExternalNetwork_succeeds hmask').mp ⟨n₂, hn₂⟩, hconnection,
          (hfirst hc₁ hn₁ hc₂).mp hexternal⟩
        diskImage := himage
        version := hversion }
  · rintro ⟨hmanagement, hexternal, himage, hversion⟩
    obtain ⟨n₁, hn₁⟩ := (fillManagementNetwork_succeeds hmask).mpr
      ⟨hmanagement.network, hmanagement.addressed⟩
    obtain ⟨n₂, hn₂⟩ := (fillExternalNetwork_succeeds hmask').mpr hexternal.network
    obtain ⟨os, c₁, hc₁⟩ := (fillSettings_succeeds h.ofed).mpr ⟨himage, hversion⟩
    obtain ⟨hprofile, ip, hip, hne⟩ := fillManagementNetwork_fields hn₁
    obtain ⟨hprofile', hsource⟩ := fillExternalNetwork_fields hn₂
    obtain ⟨c₂, hc₂⟩ := (fillManagementConnection_succeeds hprofile hip hne hmac).mpr
      hmanagement.connection
    obtain ⟨c₃, hc₃⟩ := (fillExternalConnection_succeeds hprofile' hsource hmac').mpr
      ⟨hexternal.connection, (hfirst hc₁ hn₁ hc₂).mpr hexternal.addressed⟩
    exact ⟨os, c₃, n₁, hn₁, n₂, hn₂, ⟨os, c₁⟩, hc₁, c₂, hc₂, c₃, hc₃, rfl, rfl⟩

/-- The six places where an accepted answerfile may lack what `fillData` reads. -/
theorem emptyRead_fillData (h : af.Accepted) :
    EmptyRead (fillData host af cluster) ↔
      EmptyRead (fillManagementNetwork host af.management) ∨
        (∃ network, fillManagementNetwork host af.management = .ok network) ∧
          EmptyRead (fillExternalNetwork host af.external) ∨
        ReachesService host cluster af ∧
          (NetworkReady host .Service af.service ∧ ConnectionReady host af.service ∧
              af.service.conIpAddr = none ∨
            (af.service.conInterface = none ∨ Linked host cluster .Service af.service) ∧
              NetworkReady host .Application af.application ∧
                ConnectionReady host af.application ∧ af.application.conIpAddr = none) := by
  obtain ⟨hmac, hmask⟩ := optional_section h.service
  obtain ⟨hmac', hmask'⟩ := optional_section h.application
  have hlinked : ∀ {os c}, fillUntilService host af cluster = .ok (os, c) →
      (Linked host c .Service af.service ↔ Linked host cluster .Service af.service) := by
    intro os c hc
    have haddressed := @addressed_congr host c cluster .Service af.service fun _ =>
      firstMask_fillUntilService hc
    exact ⟨fun ⟨h₁, h₂, h₃⟩ => ⟨h₁, h₂, haddressed.mp h₃⟩,
      fun ⟨h₁, h₂, h₃⟩ => ⟨h₁, h₂, haddressed.mpr h₃⟩⟩
  rw [fillData_eq, emptyRead_bind, fillUntilService_reads h, or_assoc,
    ← fillUntilService_succeeds h]
  refine or_congr_right (or_congr_right ⟨?_, ?_⟩)
  · rintro ⟨⟨os, c⟩, hc, hread⟩
    simp only [emptyRead_bind, not_emptyRead_fillAfterNetworks h, and_false, exists_false,
      or_false, (fillService_cases hmac hmask).1, fillApplication_reads hmac' hmask'] at hread
    refine ⟨⟨os, c, hc⟩, hread.imp_right ?_⟩
    rintro ⟨c', hc', hread⟩
    exact ⟨((fillService_cases hmac hmask).2.mp ⟨c', hc'⟩).imp_right (hlinked hc).mp, hread⟩
  · rintro ⟨⟨os, c, hc⟩, hread⟩
    refine ⟨⟨os, c⟩, hc, ?_⟩
    simp only [emptyRead_bind, not_emptyRead_fillAfterNetworks h, and_false, exists_false,
      or_false, (fillService_cases hmac hmask).1, fillApplication_reads hmac' hmask']
    refine hread.imp_right ?_
    rintro ⟨hservice, hread⟩
    obtain ⟨c', hc'⟩ := (fillService_cases hmac hmask).2.mpr (hservice.imp_right (hlinked hc).mpr)
    exact ⟨c', hc', hread⟩

end Cluster

/-- For every file that the loader accepts, every host and every model: `fillData` succeeds or
stops with an error of its own exactly when what it reads is present. -/
theorem reads_present_iff [Inet6] {kf : KeyFile} {af : AnswerFile} {dryRun : Bool}
    (h : loadOptions kf dryRun = .ok af) (host : Host) (cluster : Cluster) :
    (∀ e, Cluster.fillData host af cluster = .error e →
        e.kind ≠ .optionalAccess ∧ e.kind ≠ .undefinedBehaviour) ↔
      ReadsPresent host cluster af := by
  have haccepted := loadOptions_accepted h
  have hmask : ∀ mask ∈ af.management.subnetMask, Network.isMask mask = true := fun mask hm =>
    (haccepted.management.1.mask mask hm).2
  have hmask' : ∀ mask ∈ af.external.subnetMask, Network.isMask mask = true := fun mask hm =>
    (haccepted.external.1.mask mask hm).2
  have hread : (∀ e, Cluster.fillData host af cluster = .error e →
      e.kind ≠ .optionalAccess ∧ e.kind ≠ .undefinedBehaviour) ↔
        ¬ EmptyRead (Cluster.fillData host af cluster) := by
    simp [EmptyRead, not_or]
  have hsome : ∀ {α : Type} {value : Option α}, value.isSome = true ↔ ¬ value = none := by
    intro α value
    cases value <;> simp
  rw [hread, Cluster.emptyRead_fillData haccepted, Cluster.fillManagementNetwork_reads hmask,
    Cluster.fillExternalNetwork_reads haccepted.external.1.interface hmask',
    @Cluster.fillManagementNetwork_succeeds _ _ cluster _ hmask]
  constructor
  · intro hnone
    simp only [not_or, not_and] at hnone
    obtain ⟨⟨h₁, h₂, h₃⟩, h₄, h₅⟩ := hnone
    exact
      { managementMask := hsome.mpr h₁
        managementDomain := hsome.mpr h₂
        managementAddress := fun hr => hsome.mpr (h₃ hr)
        externalDomain := fun hr ha hm => hsome.mpr (h₄ ⟨hr, ha⟩ hm)
        serviceAddress := fun hs hn hc => hsome.mpr ((h₅ hs).1 hn hc)
        applicationAddress := fun hs hl hn hc => hsome.mpr ((h₅ hs).2 hl hn hc) }
  · rintro ⟨h₁, h₂, h₃, h₄, h₅, h₆⟩
    simp only [not_or, not_and, ← hsome]
    exact ⟨⟨h₁, h₂, h₃⟩, fun ⟨hr, ha⟩ hm => h₄ hr ha hm, fun hs => ⟨h₅ hs, h₆ hs⟩⟩

theorem sampleKeyFile_reads_present :
    @loadOptions plainInet6 sampleKeyFile false = .ok sampleAnswerFile ∧
      ∀ e, @Cluster.fillData plainInet6 sampleHost sampleAnswerFile (Cluster.fresh sampleHost) =
          .error e → e.kind ≠ .optionalAccess ∧ e.kind ≠ .undefinedBehaviour := by
  refine ⟨loadOptions_sampleKeyFile,
    (@reads_present_iff plainInet6 _ _ _ loadOptions_sampleKeyFile _ _).mpr ?_⟩
  -- The optional sections are left out.
  exact @ReadsPresent.mk plainInet6 _ _ _ rfl rfl (fun _ => rfl) (fun _ _ _ => rfl)
    (fun _ _ hc => absurd hc (Cluster.not_connectionReady rfl))
    (fun _ _ _ hc => absurd hc (Cluster.not_connectionReady rfl))

/-- `sampleKeyFile` without the domain name of the management network. -/
def unnamedKeyFile : KeyFile where
  path := "answerfile.ini"
  data :=
    { groups := sampleKeyFile.data.groups.map fun group =>
        (group.1, if group.1 = "network_management" then
          group.2.filter (·.1 ≠ "domain_name") else group.2)
      nodup := by decide }

def unnamedAnswerFile : AnswerFile :=
  { sampleAnswerFile with management := { sampleAnswerFile.management with domainName := none } }

/-- The loader accepts the file, and `fillData` throws `std::bad_optional_access`. -/
theorem unnamedKeyFile_reads_empty :
    @loadOptions plainInet6 unnamedKeyFile false = .ok unnamedAnswerFile ∧
      ¬ ∀ e, @Cluster.fillData plainInet6 sampleHost unnamedAnswerFile (Cluster.fresh sampleHost) =
          .error e → e.kind ≠ .optionalAccess ∧ e.kind ≠ .undefinedBehaviour := by
  refine ⟨by decide, ?_⟩
  intro h
  have hfail : @Cluster.fillData plainInet6 sampleHost unnamedAnswerFile (Cluster.fresh sampleHost) =
      .error ⟨.optionalAccess, "bad optional access"⟩ := by
    decide
  exact (h _ hfail).1 rfl

end OpenCattus
