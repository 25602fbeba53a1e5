import OpenCattus.Cluster.Fill

/-!
# Links: a network and the head node's connection to it

The four network blocks of `fillData` differ in which values a section must give and
which are taken from the host. `Link` is what a block settles in the end, `Settles` says
from where, and `Valid` is what the setters check of it.

`fillManagement_eq_ok`, `fillExternal_eq_ok`, `fillService_eq_ok` and
`fillApplication_eq_ok` reduce each block to these two.
-/

namespace OpenCattus

open Foundations Foundations.Text Foundations.Inet

/-- The values of one network and of the connection to it. The domain is `none` when it
was never set, the MAC address empty. -/
structure Link where
  interface : String
  ip : Address
  mac : String
  mask : Address
  gateway : Address
  domain : Option String
  nameservers : List Address
  deriving DecidableEq, Repr

namespace Link

def network (profile : Network.Profile) (link : Link) : Network where
  profile
  kind := .Ethernet
  address := Network.subnet link.ip link.mask
  subnetMask := link.mask
  gateway := link.gateway
  domainName := link.domain.getD ""
  nameservers := link.nameservers

def connection (profile : Network.Profile) (link : Link) : Connection where
  profile
  interface := some link.interface
  mac := if link.mac = "" then none else some (lower link.mac)
  address := link.ip

/-- What the setters accept. -/
structure Valid [Inet6] (host : Host) (link : Link) : Prop where
  interface : Connection.Usable host link.interface
  mac : link.mac ≠ "" → Connection.validateMAC link.mac = .ok ()
  mask : Network.isMask link.mask = true
  subnet : Network.subnet link.ip link.mask ≠ .v4 0
  domain : ∀ domain ∈ link.domain, Network.validateDomainName domain = .ok ()

end Link

/-! ## Where the values come from -/

section Sources

variable [Inet6]

def nameserversOf (host : Host) (nameservers : Option (List String)) : Result (List Address) :=
  match nameservers with
  | some nameservers => nameservers.mapM Network.parseAddress
  | none => host.fetchNameservers

def maskOf (host : Host) (afNetwork : AFNetwork) : Result Address :=
  match afNetwork.subnetMask with
  | some mask => .ok mask
  | none => do
    let interface ← valueOf afNetwork.conInterface
    host.fetchSubnetMask interface

def domainOf (host : Host) (domainName : String) : Result String :=
  if domainName ≠ "" then .ok domainName else Network.fetchDomainName host

namespace Link

def addressSource (host : Host) : Network.Profile → AFNetwork → Result Address
  | .External, afNetwork => Cluster.externalAddress host afNetwork
  | _, afNetwork => valueOf afNetwork.conIpAddr

def maskSource (host : Host) : Network.Profile → AFNetwork → Result Address
  | .Management, afNetwork => valueOf afNetwork.subnetMask
  | .Application, afNetwork => .ok (afNetwork.subnetMask.getD default)
  | _, afNetwork => maskOf host afNetwork

def gatewaySource (host : Host) (profile : Network.Profile) (afNetwork : AFNetwork)
    (interface : String) : Address :=
  afNetwork.gateway.getD (if profile = .Service then host.fetchGateway interface else default)

def domainSource (host : Host) : Network.Profile → AFNetwork → Result (Option String)
  | .Management, afNetwork => (valueOf afNetwork.domainName).map some
  | .External, afNetwork => do
    let domainName ← derefOf afNetwork.domainName
    (domainOf host domainName).map some
  | .Service, afNetwork => (domainOf host (afNetwork.domainName.getD "")).map some
  | .Application, afNetwork => .ok afNetwork.domainName

def nameserversSource (host : Host) : Network.Profile → AFNetwork → Result (List Address)
  | .Application, afNetwork => (afNetwork.nameservers.getD []).mapM Network.parseAddress
  | _, afNetwork => nameserversOf host afNetwork.nameservers

/-- The section and the host settle the link. -/
structure Settles (host : Host) (profile : Network.Profile) (afNetwork : AFNetwork)
    (link : Link) : Prop where
  interface : afNetwork.conInterface = some link.interface
  ip : addressSource host profile afNetwork = .ok link.ip
  mac : afNetwork.conMacAddr = some link.mac
  mask : maskSource host profile afNetwork = .ok link.mask
  gateway : link.gateway = gatewaySource host profile afNetwork link.interface
  domain : domainSource host profile afNetwork = .ok link.domain
  nameservers : nameserversSource host profile afNetwork = .ok link.nameservers

/-- The same for a section that may be left out. -/
def SettlesOptional (host : Host) (profile : Network.Profile) (afNetwork : AFNetwork) :
    Option Link → Prop
  | some link => link.Settles host profile afNetwork ∧ link.Valid host
  | none => afNetwork.conInterface = none

end Link

end Sources

/-! ## Networks of a model -/

namespace Cluster

/-- No network with the profile is there yet. -/
def Free (cluster : Cluster) (profile : Network.Profile) : Prop :=
  ∀ network ∈ cluster.networks, network.profile ≠ profile

def addLink (cluster : Cluster) (profile : Network.Profile) (link : Link) : Cluster :=
  (cluster.addNetwork (link.network profile)).addConnection (link.connection profile)

def addLinkOptional (cluster : Cluster) (profile : Network.Profile) : Option Link → Cluster
  | some link => cluster.addLink profile link
  | none => cluster

variable {cluster : Cluster} {profile : Network.Profile} {network : Network}

theorem getNetwork_eq_ok :
    cluster.getNetwork profile = .ok network ↔
      cluster.networks.find? (·.profile = profile) = some network := by
  unfold getNetwork
  cases cluster.networks.find? (·.profile = profile) <;> simp

theorem getNetwork_addNetwork (hfree : cluster.Free profile) (hprofile : network.profile = profile) :
    (cluster.addNetwork network).getNetwork profile = .ok network := by
  have hnone : cluster.networks.find? (·.profile = profile) = none :=
    List.find?_eq_none.mpr fun n hn => by simpa using hfree n hn
  simp [getNetwork, addNetwork, List.find?_append, hnone, hprofile]

theorem updateFirst_append {networks : List Network} {n n' : Network}
    (hfree : ∀ m ∈ networks, m.profile ≠ profile) (hprofile : n.profile = profile) :
    updateFirst profile n' (networks ++ [n]) = networks ++ [n'] := by
  induction networks with
  | nil => simp [updateFirst, hprofile]
  | cons m networks ih =>
    have hm := hfree m (List.mem_cons_self ..)
    simp [updateFirst, hm, ih fun k hk => hfree k (List.mem_cons_of_mem _ hk)]

/-- What the new network has in common with the first one stays in place. -/
theorem map_updateFirst {γ : Type} (f : Network → γ) {networks : List Network}
    {first changed : Network} (hfirst : networks.find? (·.profile = profile) = some first)
    (hchanged : f changed = f first) :
    (updateFirst profile changed networks).map f = networks.map f := by
  induction networks with
  | nil => rfl
  | cons n networks ih =>
    unfold updateFirst
    by_cases hn : n.profile = profile
    · obtain rfl : n = first := by simpa [List.find?_cons, hn] using hfirst
      rw [if_pos hn, List.map_cons, List.map_cons, hchanged]
    · have hrest : networks.find? (·.profile = profile) = some first := by
        simpa [List.find?_cons, hn] using hfirst
      rw [if_neg hn, List.map_cons, List.map_cons, ih hrest]

theorem setNetworkAddress_addNetwork {ip : Address} {r : Cluster} (hfree : cluster.Free profile)
    (hprofile : network.profile = profile) :
    (cluster.addNetwork network).setNetworkAddress profile ip = .ok r ↔
      Network.subnet ip network.subnetMask ≠ .v4 0 ∧
        r = cluster.addNetwork
          { network with address := Network.subnet ip network.subnetMask } := by
  have hset : ∀ n', (cluster.addNetwork network).setNetwork profile n' = cluster.addNetwork n' := by
    intro n'
    simp [setNetwork, addNetwork, updateFirst_append hfree hprofile]
  unfold setNetworkAddress
  simp only [getNetwork_addNetwork hfree hprofile, except_ok_bind, except_bind_ok, hset]
  constructor
  · rintro ⟨address, hcalc, n', hn', heq⟩
    obtain ⟨hne, rfl⟩ := Network.calculateAddress_eq_ok.mp ⟨address, hcalc, hn'⟩
    exact ⟨hne, (Except.ok.inj heq).symm⟩
  · rintro ⟨hne, rfl⟩
    obtain ⟨address, hcalc, hn'⟩ := Network.calculateAddress_eq_ok.mpr ⟨hne, rfl⟩
    exact ⟨address, hcalc, _, hn', rfl⟩

end Cluster

/-! ## The parts of a block -/

section Parts

variable [Inet6] {host : Host} {afNetwork : AFNetwork} {network r : Network}

omit [Inet6] in
@[simp] theorem setGatewayOpt_eq (gateway : Option Address) :
    setGatewayOpt gateway network = .ok { network with gateway := gateway.getD network.gateway } := by
  cases gateway <;> rfl

theorem fillNameservers_eq_ok {nameservers : Option (List String)} :
    fillNameservers host nameservers network = .ok r ↔
      ∃ addresses, nameserversOf host nameservers = .ok addresses ∧
        r = { network with nameservers := network.nameservers ++ addresses } := by
  cases nameservers with
  | none => exact except_bind_ok_pure
  | some nameservers => exact except_bind_ok_pure

theorem fillSubnetMask_eq_ok :
    fillSubnetMask host afNetwork network = .ok r ↔
      ∃ mask, maskOf host afNetwork = .ok mask ∧ Network.isMask mask = true ∧
        r = { network with subnetMask := mask } := by
  unfold fillSubnetMask maskOf
  cases afNetwork.subnetMask with
  | some mask => simp [Network.setSubnetMask_eq_ok]
  | none =>
    simp only [except_bind_ok, Network.setSubnetMask_eq_ok]
    exact ⟨fun ⟨i, hi, mask, hm, h⟩ => ⟨mask, ⟨i, hi, hm⟩, h⟩,
      fun ⟨mask, ⟨i, hi, hm⟩, h⟩ => ⟨i, hi, mask, hm, h⟩⟩

omit [Inet6] in
theorem fillDomainName_eq_ok {domainName : String} :
    fillDomainName host domainName network = .ok r ↔
      ∃ domain, domainOf host domainName = .ok domain ∧
        Network.validateDomainName domain = .ok () ∧ r = { network with domainName := domain } := by
  unfold fillDomainName domainOf
  split <;> simp [except_bind_ok, Network.setDomainName_eq_ok]

omit [Inet6] in
theorem fillMAC_eq_ok {connection c : Connection} :
    fillMAC afNetwork connection = .ok c ↔
      ∃ mac, afNetwork.conMacAddr = some mac ∧
        (mac ≠ "" → Connection.validateMAC mac = .ok ()) ∧
          c = { connection with mac := if mac = "" then connection.mac else some (lower mac) } := by
  unfold fillMAC
  simp only [except_bind_ok, derefOf_eq_ok]
  refine exists_congr fun mac => and_congr_right fun _ => ?_
  by_cases hmac : mac = ""
  · simp only [hmac, ne_eq, not_true, if_false, if_true, false_implies, true_and, Except.ok.injEq]
    exact eq_comm
  · simp [hmac, Connection.setMAC_eq_ok]

end Parts

/-! ## The blocks -/

namespace Cluster

variable [Inet6] {host : Host} {afNetwork : AFNetwork} {cluster r : Cluster} {network : Network}

theorem fillManagement_eq_ok (hfree : cluster.Free .Management) :
    fillManagementNetwork host afNetwork = .ok network ∧
        fillManagementConnection host afNetwork (cluster.addNetwork network) = .ok r ↔
      ∃ link : Link, link.Settles host .Management afNetwork ∧ link.Valid host ∧
        network = link.network .Management ∧ r = cluster.addLink .Management link := by
  unfold fillManagementNetwork fillManagementConnection
  simp only [except_bind_ok, valueOf_eq_ok, Network.setSubnetMask_eq_ok, setGatewayOpt_eq,
    Network.setDomainName_eq_ok, fillNameservers_eq_ok, Connection.setInterface_eq_ok,
    Connection.setAddress_eq_ok, fillMAC_eq_ok, Except.ok.injEq]
  constructor
  · rintro ⟨⟨mask, hmask, _, ⟨hm, rfl⟩, _, rfl, domain, hdomain, _, ⟨hd, rfl⟩, _,
      ⟨nameservers, hns, rfl⟩, ip, hip, address, hcalc, hset⟩, n, hn, interface, hi, _, ⟨hu, rfl⟩,
      ip', hip', _, ⟨-, rfl⟩, _, ⟨mac, hmac, hv, rfl⟩, rfl⟩
    obtain ⟨hsubnet, rfl⟩ := Network.calculateAddress_eq_ok.mp ⟨address, hcalc, hset⟩
    rw [getNetwork_addNetwork hfree rfl] at hn
    obtain rfl := Except.ok.inj hn
    obtain rfl : ip = ip' := Option.some.inj (hip.symm.trans hip')
    refine ⟨⟨interface, ip, mac, mask, afNetwork.gateway.getD default, some domain, nameservers⟩,
      ⟨hi, by simpa [Link.addressSource] using hip, hmac, by simpa [Link.maskSource] using hmask,
        by simp [Link.gatewaySource], by simpa [Link.domainSource] using hdomain, hns⟩,
      ⟨hu, hv, hm, hsubnet, by simpa using hd⟩, by simp [Link.network], ?_⟩
    simp [addLink, Link.network, Link.connection, Connection.ofNetwork]
  · rintro ⟨link, hs, hv, rfl, rfl⟩
    have hip : afNetwork.conIpAddr = some link.ip := by simpa [Link.addressSource] using hs.ip
    have hmask : afNetwork.subnetMask = some link.mask := by simpa [Link.maskSource] using hs.mask
    obtain ⟨domain, hdomain, hsome⟩ : ∃ domain, afNetwork.domainName = some domain ∧
        some domain = link.domain := by
      simpa [Link.domainSource] using hs.domain
    have hnetwork : { link.network .Management with address := default }.subnetMask = link.mask := rfl
    obtain ⟨address, hcalc, hset⟩ :=
      Network.calculateAddress_eq_ok.mpr ⟨hnetwork ▸ hv.subnet, rfl⟩
    refine ⟨⟨link.mask, hmask, _, ⟨hv.mask, rfl⟩, _, rfl, domain, hdomain, _,
      ⟨hv.domain domain hsome.symm, rfl⟩, _, ⟨link.nameservers, hs.nameservers, rfl⟩, link.ip, hip,
      address, ?_, ?_⟩, _, getNetwork_addNetwork hfree rfl, link.interface, hs.interface, _,
      ⟨hv.interface, rfl⟩, link.ip, hip, _, ⟨Network.ne_zero_of_subnet hv.subnet, rfl⟩, _,
      ⟨link.mac, hs.mac, hv.mac, rfl⟩, rfl⟩
    · exact hcalc
    · simpa [Network.setAddress, Link.network, hs.gateway, Link.gatewaySource, ← hsome] using hset

theorem fillExternal_eq_ok (hfree : cluster.Free .External) :
    fillExternalNetwork host afNetwork = .ok network ∧
        fillExternalConnection host afNetwork (cluster.addNetwork network) = .ok r ↔
      ∃ link : Link, link.Settles host .External afNetwork ∧ link.Valid host ∧
        network = { link.network .External with address := default } ∧
          r = cluster.addLink .External link := by
  unfold fillExternalNetwork fillExternalConnection
  simp only [except_bind_ok, valueOf_eq_ok, derefOf_eq_ok, setGatewayOpt_eq, fillSubnetMask_eq_ok,
    fillDomainName_eq_ok, fillNameservers_eq_ok, Connection.setInterface_eq_ok,
    Connection.setAddress_eq_ok, fillMAC_eq_ok, Except.ok.injEq]
  constructor
  · rintro ⟨⟨_, ⟨mask, hmask, hm, rfl⟩, _, rfl, given, hgiven, _, ⟨domain, hdomain, hd, rfl⟩,
      nameservers, hns, rfl⟩, n, hn, interface, hi, _, ⟨hu, rfl⟩, ip, hip, _, ⟨-, rfl⟩, c, hc, _,
      ⟨mac, hmac, hv, rfl⟩, rfl⟩
    rw [getNetwork_addNetwork hfree rfl] at hn
    obtain rfl := Except.ok.inj hn
    obtain ⟨hsubnet, rfl⟩ := (setNetworkAddress_addNetwork hfree rfl).mp hc
    refine ⟨⟨interface, ip, mac, mask, afNetwork.gateway.getD default, some domain, nameservers⟩,
      ⟨hi, hip, hmac, hmask, by simp [Link.gatewaySource],
        by simp [Link.domainSource, hgiven, derefOf, hdomain], hns⟩,
      ⟨hu, hv, hm, hsubnet, by simpa using hd⟩, by simp [Link.network], ?_⟩
    simp [addLink, Link.network, Link.connection, Connection.ofNetwork]
  · rintro ⟨link, hs, hv, rfl, rfl⟩
    obtain ⟨given, hgiven, domain, hdomain, hsome⟩ : ∃ given, afNetwork.domainName = some given ∧
        ∃ domain, domainOf host given = .ok domain ∧ some domain = link.domain := by
      simpa [Link.domainSource, except_bind_ok] using hs.domain
    refine ⟨⟨_, ⟨link.mask, hs.mask, hv.mask, rfl⟩, _, rfl, given, hgiven, _,
      ⟨domain, hdomain, hv.domain domain hsome.symm, rfl⟩, link.nameservers, hs.nameservers, ?_⟩, _,
      getNetwork_addNetwork hfree rfl, link.interface, hs.interface, _, ⟨hv.interface, rfl⟩, link.ip,
      hs.ip, _, ⟨Network.ne_zero_of_subnet hv.subnet, rfl⟩, _,
      (setNetworkAddress_addNetwork hfree rfl).mpr ⟨hv.subnet, rfl⟩, _,
      ⟨link.mac, hs.mac, hv.mac, rfl⟩, rfl⟩
    simp [Link.network, hs.gateway, Link.gatewaySource, ← hsome]

omit [Inet6] in
/-- The part of the two optional blocks that follows the network's own settings. -/
theorem fillOptionalConnection_eq_ok {profile : Network.Profile} {interface : String}
    (hfree : cluster.Free profile) (hprofile : network.profile = profile)
    (hkind : network.kind = .Ethernet) :
    fillOptionalConnection host profile afNetwork interface (cluster.addNetwork network) = .ok r ↔
      ∃ mac ip, afNetwork.conMacAddr = some mac ∧
        (mac ≠ "" → Connection.validateMAC mac = .ok ()) ∧ Connection.Usable host interface ∧
          afNetwork.conIpAddr = some ip ∧ Network.subnet ip network.subnetMask ≠ .v4 0 ∧
            r = (cluster.addNetwork
              { network with address := Network.subnet ip network.subnetMask }).addConnection
              { profile
                interface := some interface
                mac := if mac = "" then none else some (lower mac)
                address := ip } := by
  unfold fillOptionalConnection
  simp only [except_bind_ok, valueOf_eq_ok, Connection.setInterface_eq_ok,
    Connection.setAddress_eq_ok, fillMAC_eq_ok, Except.ok.injEq,
    getNetwork_addNetwork hfree hprofile, setNetworkAddress_addNetwork hfree hprofile,
    exists_eq_left']
  constructor
  · rintro ⟨_, ⟨mac, hmac, hv, rfl⟩, _, ⟨hu, rfl⟩, ip, hip, _, ⟨-, rfl⟩, _, ⟨hsubnet, rfl⟩, rfl⟩
    exact ⟨mac, ip, hmac, hv, hu, hip, hsubnet, by simp [Connection.ofNetwork, hprofile, hkind]⟩
  · rintro ⟨mac, ip, hmac, hv, hu, hip, hsubnet, rfl⟩
    exact ⟨_, ⟨mac, hmac, hv, rfl⟩, _, ⟨hu, rfl⟩, ip, hip, _,
      ⟨Network.ne_zero_of_subnet hsubnet, rfl⟩, _, ⟨hsubnet, rfl⟩,
      by simp [Connection.ofNetwork, hprofile, hkind]⟩

theorem fillService_eq_ok (hfree : cluster.Free .Service) :
    fillService host afNetwork cluster = .ok r ↔
      ∃ link, Link.SettlesOptional host .Service afNetwork link ∧
        r = cluster.addLinkOptional .Service link := by
  unfold fillService
  cases hi : afNetwork.conInterface with
  | none =>
    simp only [Except.ok.injEq]
    constructor
    · rintro rfl
      exact ⟨none, hi, rfl⟩
    · rintro ⟨link, hl, rfl⟩
      cases link with
      | none => rfl
      | some link => exact absurd (hl.1.interface.symm.trans hi) (by simp)
  | some interface =>
    simp only [fillServiceNetwork, except_bind_ok, fillSubnetMask_eq_ok, fillDomainName_eq_ok,
      fillNameservers_eq_ok]
    constructor
    · rintro ⟨_, ⟨_, ⟨mask, hmask, hm, rfl⟩, _, ⟨domain, hdomain, hd, rfl⟩, nameservers, hns, rfl⟩,
        hconn⟩
      obtain ⟨mac, ip, hmac, hv, hu, hip, hsubnet, rfl⟩ :=
        (fillOptionalConnection_eq_ok hfree rfl rfl).mp hconn
      refine ⟨some ⟨interface, ip, mac, mask,
        afNetwork.gateway.getD (host.fetchGateway interface), some domain, nameservers⟩,
        ⟨⟨hi, by simpa [Link.addressSource] using hip, hmac, hmask, by simp [Link.gatewaySource],
          by simp [Link.domainSource, hdomain], hns⟩, ⟨hu, hv, hm, hsubnet, by simpa using hd⟩⟩, ?_⟩
      simp [addLinkOptional, addLink, Link.network, Link.connection, Network.setGateway]
    · rintro ⟨link, hl, rfl⟩
      cases link with
      | none => exact absurd (hi.symm.trans hl) (by simp)
      | some link =>
        obtain ⟨hs, hv⟩ := hl
        obtain rfl : interface = link.interface := Option.some.inj (hi.symm.trans hs.interface)
        obtain ⟨domain, hdomain, hsome⟩ : ∃ domain,
            domainOf host (afNetwork.domainName.getD "") = .ok domain ∧
              some domain = link.domain := by
          simpa [Link.domainSource] using hs.domain
        refine ⟨_, ⟨_, ⟨link.mask, hs.mask, hv.mask, rfl⟩, _,
          ⟨domain, hdomain, hv.domain domain hsome.symm, rfl⟩, link.nameservers, hs.nameservers, rfl⟩,
          (fillOptionalConnection_eq_ok hfree rfl rfl).mpr ⟨link.mac, link.ip, hs.mac, hv.mac,
            hv.interface, by simpa [Link.addressSource] using hs.ip, hv.subnet, ?_⟩⟩
        simp [addLinkOptional, addLink, Link.network, Link.connection, Network.setGateway,
          hs.gateway, Link.gatewaySource, ← hsome]

theorem fillApplicationNetwork_eq_ok :
    fillApplicationNetwork afNetwork = .ok network ↔
      (∀ mask ∈ afNetwork.subnetMask, Network.isMask mask = true) ∧
        (∀ domain ∈ afNetwork.domainName, Network.validateDomainName domain = .ok ()) ∧
          ∃ nameservers, (afNetwork.nameservers.getD []).mapM Network.parseAddress = .ok nameservers ∧
            network =
              { profile := .Application
                kind := .Ethernet
                subnetMask := afNetwork.subnetMask.getD default
                gateway := afNetwork.gateway.getD default
                domainName := afNetwork.domainName.getD ""
                nameservers } := by
  have hmask : ∀ n r : Network, applyOptional afNetwork.subnetMask Network.setSubnetMask n = .ok r ↔
      (∀ mask ∈ afNetwork.subnetMask, Network.isMask mask = true) ∧
        r = { n with subnetMask := afNetwork.subnetMask.getD n.subnetMask } := by
    intro n r
    cases afNetwork.subnetMask with
    | none => simpa using eq_comm
    | some mask => simpa using Network.setSubnetMask_eq_ok
  have hdomain : ∀ n r : Network, applyOptional afNetwork.domainName Network.setDomainName n = .ok r ↔
      (∀ domain ∈ afNetwork.domainName, Network.validateDomainName domain = .ok ()) ∧
        r = { n with domainName := afNetwork.domainName.getD n.domainName } := by
    intro n r
    cases afNetwork.domainName with
    | none => simpa using eq_comm
    | some domain => simpa using Network.setDomainName_eq_ok
  have hns : ∀ n r : Network,
      applyOptional afNetwork.nameservers Network.setNameserversText n = .ok r ↔
        ∃ nameservers, (afNetwork.nameservers.getD []).mapM Network.parseAddress = .ok nameservers ∧
          r = { n with nameservers := n.nameservers ++ nameservers } := by
    intro n r
    cases afNetwork.nameservers with
    | none => simpa using eq_comm
    | some texts => exact except_bind_ok_pure
  unfold fillApplicationNetwork
  simp only [except_bind_ok, setGatewayOpt_eq, hmask, hdomain, hns, Except.ok.injEq]
  constructor
  · rintro ⟨_, ⟨hm, rfl⟩, _, rfl, _, ⟨hd, rfl⟩, nameservers, h, rfl⟩
    exact ⟨hm, hd, nameservers, h, rfl⟩
  · rintro ⟨hm, hd, nameservers, h, rfl⟩
    exact ⟨_, ⟨hm, rfl⟩, _, rfl, _, ⟨hd, rfl⟩, nameservers, h, rfl⟩

theorem fillApplication_eq_ok (hfree : cluster.Free .Application) :
    fillApplication host afNetwork cluster = .ok r ↔
      ∃ link, Link.SettlesOptional host .Application afNetwork link ∧
        r = cluster.addLinkOptional .Application link := by
  unfold fillApplication
  cases hi : afNetwork.conInterface with
  | none =>
    simp only [Except.ok.injEq]
    constructor
    · rintro rfl
      exact ⟨none, hi, rfl⟩
    · rintro ⟨link, hl, rfl⟩
      cases link with
      | none => rfl
      | some link => exact absurd (hl.1.interface.symm.trans hi) (by simp)
  | some interface =>
    simp only [except_bind_ok, fillApplicationNetwork_eq_ok]
    constructor
    · rintro ⟨_, ⟨hmask, hdomain, nameservers, hns, rfl⟩, hconn⟩
      obtain ⟨mac, ip, hmac, hv, hu, hip, hsubnet, rfl⟩ :=
        (fillOptionalConnection_eq_ok hfree rfl rfl).mp hconn
      -- Without a mask the network has none to compute its address from.
      obtain ⟨mask, hsome⟩ : ∃ mask, afNetwork.subnetMask = some mask := by
        cases hm : afNetwork.subnetMask with
        | some mask => exact ⟨mask, rfl⟩
        | none => cases ip <;> simp [hm, Network.subnet, default] at hsubnet
      refine ⟨some ⟨interface, ip, mac, afNetwork.subnetMask.getD default,
        afNetwork.gateway.getD default, afNetwork.domainName, nameservers⟩,
        ⟨⟨hi, by simpa [Link.addressSource] using hip, hmac, rfl, by simp [Link.gatewaySource], rfl,
          hns⟩, ⟨hu, hv, by simpa [hsome] using hmask mask hsome, hsubnet, hdomain⟩⟩, ?_⟩
      simp [addLinkOptional, addLink, Link.network, Link.connection]
    · rintro ⟨link, hl, rfl⟩
      cases link with
      | none => exact absurd (hi.symm.trans hl) (by simp)
      | some link =>
        obtain ⟨hs, hv⟩ := hl
        obtain rfl : interface = link.interface := Option.some.inj (hi.symm.trans hs.interface)
        have hmask : afNetwork.subnetMask.getD default = link.mask := Except.ok.inj hs.mask
        have hdomain : afNetwork.domainName = link.domain := Except.ok.inj hs.domain
        refine ⟨_, ⟨?_, ?_, link.nameservers, hs.nameservers, rfl⟩,
          (fillOptionalConnection_eq_ok hfree rfl rfl).mpr ⟨link.mac, link.ip, hs.mac, hv.mac,
            hv.interface, by simpa [Link.addressSource] using hs.ip, by simpa [hmask] using hv.subnet,
            ?_⟩⟩
        · intro mask hm
          have hisMask := hv.mask
          rwa [← hmask, hm] at hisMask
        · rw [hdomain]
          exact hv.domain
        · simp [addLinkOptional, addLink, Link.network, Link.connection, hmask, hdomain, hs.gateway,
            Link.gatewaySource]

end Cluster

end OpenCattus
