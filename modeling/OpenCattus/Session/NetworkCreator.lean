import OpenCattus.Cluster.Types

/-!
# Networks collected by the questionnaire

`NetworkCreator` gathers the answers for one network after the other and writes them to the
model at the end of the networking step. Only Management and Service may share an
interface, and a profile is entered once.

`saveNetworks_eq_ok` lists the connections and networks that a save adds, with what
the setters have checked of them.
-/

namespace OpenCattus

open Foundations Foundations.Text Foundations.Inet

/-- The answers for one network. -/
structure NetworkCreatorData where
  profile : Network.Profile
  kind : Network.Kind
  interface : String
  address : String
  subnetMask : String
  gateway : String
  name : String
  domains : List Address
  deriving DecidableEq, Repr

/-- The networks in the order in which they were entered, at most one for a profile. -/
structure NetworkCreator where
  networks : List NetworkCreatorData := []
  nodup : (networks.map (·.profile)).Nodup := by simp

namespace NetworkCreator

def empty : NetworkCreator := {}

def checkIfProfileExists (nc : NetworkCreator) (profile : Network.Profile) : Bool :=
  nc.networks.any (·.profile = profile)

/-- Whether the data were taken, and the networks then. -/
def addNetworkInformation (nc : NetworkCreator) (data : NetworkCreatorData) :
    Bool × NetworkCreator :=
  if h : nc.checkIfProfileExists data.profile then (false, nc)
  else
    (true,
      { networks := nc.networks ++ [data]
        nodup := by
          rw [List.map_append, List.nodup_append]
          refine ⟨nc.nodup, by simp, ?_⟩
          intro a ha b hb hab
          obtain ⟨network, hnetwork, rfl⟩ := List.mem_map.mp ha
          have hb' : b = data.profile := by simpa using hb
          apply h
          rw [checkIfProfileExists, List.any_eq_true]
          exact ⟨network, hnetwork, by simpa [hb'] using hab⟩ })

/-- `canShareInterface`. -/
def canShareInterface (existing requested : Network.Profile) : Bool :=
  (existing = .Management && requested = .Service) ||
    (existing = .Service && requested = .Management)

def canUseInterface (nc : NetworkCreator) (interface : String) (requested : Network.Profile) :
    Bool :=
  nc.networks.all fun network =>
    network.interface ≠ interface || canShareInterface network.profile requested

variable [Inet6]

/-- A setter that takes text: what `make_address` throws is replaced. -/
def addressOr (text message : String) : Result Address :=
  match makeAddress text with
  | some a => .ok a
  | none => runtimeError message

/-- A gateway that was left empty is not set. -/
def gatewayOr (text : String) (network : Network) : Result Network :=
  if text ≠ "" then do
    let gateway ← addressOr text "Invalid gateway"
    .ok (network.setGateway gateway)
  else .ok network

/-- The body of the loop of `saveNetworksToModel`. -/
def saveNetwork (host : Host) (net : NetworkCreatorData) (model : Cluster) : Result Cluster := do
  let network : Network := { profile := net.profile, kind := net.kind }
  let connection := Connection.ofNetwork network
  let connection ← connection.setAddress (← addressOr net.address "Invalid IP address")
  let connection ← connection.setInterface host net.interface
  let network ← network.setSubnetMask (← addressOr net.subnetMask "Invalid subnet mask")
  let address ← network.calculateAddress connection.address
  let network ← network.setAddress address
  let network ← gatewayOr net.gateway network
  let network ← network.setDomainName net.name
  let network := network.setNameservers net.domains
  .ok ((model.addNetwork network).addConnection connection)

def saveNetworks (host : Host) : List NetworkCreatorData → Cluster → Result Cluster
  | [], model => .ok model
  | net :: nets, model => do
    let model ← saveNetwork host net model
    saveNetworks host nets model

def saveNetworksToModel (host : Host) (nc : NetworkCreator) (model : Cluster) : Result Cluster :=
  saveNetworks host nc.networks model

/-- What a save adds for one network. -/
structure Saved (host : Host) (net : NetworkCreatorData) (network : Network)
    (connection : Connection) : Prop where
  profile : network.profile = net.profile
  connected : connection.profile = net.profile
  interface : connection.interface = some net.interface
  mask : Network.isMask network.subnetMask = true

/-- The same, with what the texts of the form become. -/
structure Stored (host : Host) (net : NetworkCreatorData) (network : Network)
    (connection : Connection) : Prop extends Saved host net network connection where
  address : makeAddress net.address = some connection.address
  subnetMask : makeAddress net.subnetMask = some network.subnetMask
  gateway : if net.gateway = "" then network.gateway = default
    else makeAddress net.gateway = some network.gateway
  domainName : network.domainName = net.name
  nameservers : network.nameservers = net.domains

theorem addressOr_eq_ok {text message : String} {ip : Address} :
    addressOr text message = .ok ip ↔ makeAddress text = some ip := by
  unfold addressOr
  cases makeAddress text <;> simp

theorem saveNetwork_eq_ok {host : Host} {net : NetworkCreatorData} {model r : Cluster}
    (h : saveNetwork host net model = .ok r) :
    ∃ network connection, Stored host net network connection ∧
      r = (model.addNetwork network).addConnection connection := by
  unfold saveNetwork at h
  simp only [except_bind_ok] at h
  obtain ⟨ip, hip, c₁, hc₁, c₂, hc₂, mask, hmaskText, n₁, hn₁, address, hcalc, n₂, hn₂, n₃, hn₃, n₄,
    hn₄, hr⟩ := h
  obtain ⟨-, rfl⟩ := Connection.setAddress_eq_ok.mp hc₁
  obtain ⟨-, rfl⟩ := Connection.setInterface_eq_ok.mp hc₂
  obtain ⟨hmask, rfl⟩ := Network.setSubnetMask_eq_ok.mp hn₁
  obtain ⟨-, rfl⟩ := Network.calculateAddress_eq_ok.mp ⟨address, hcalc, hn₂⟩
  obtain ⟨-, rfl⟩ := Network.setDomainName_eq_ok.mp hn₄
  have hip' := addressOr_eq_ok.mp hip
  have hmask' := addressOr_eq_ok.mp hmaskText
  refine ⟨_, _, ?_, (Except.ok.inj hr).symm⟩
  unfold gatewayOr at hn₃
  split at hn₃
  · rename_i hne
    obtain ⟨gateway, hgateway, rfl⟩ := except_bind_ok_pure.mp hn₃
    refine ⟨⟨rfl, rfl, rfl, hmask⟩, hip', hmask', ?_, rfl, rfl⟩
    rw [if_neg hne]
    exact addressOr_eq_ok.mp hgateway
  · rename_i hempty
    obtain rfl := Except.ok.inj hn₃
    refine ⟨⟨rfl, rfl, rfl, hmask⟩, hip', hmask', ?_, rfl, rfl⟩
    rw [if_pos (not_not.mp hempty)]
    rfl

theorem saveNetworks_stored {host : Host} {nets : List NetworkCreatorData} {model r : Cluster}
    (h : saveNetworks host nets model = .ok r) :
    ∃ added : List (Network × Connection),
      List.Forall₂ (fun net pair => Stored host net pair.1 pair.2) nets added ∧
        r.networks = model.networks ++ added.map Prod.fst ∧
        r.headnode.connections = model.headnode.connections ++ added.map Prod.snd := by
  induction nets generalizing model with
  | nil =>
    cases h
    exact ⟨[], .nil, by simp⟩
  | cons net nets ih =>
    obtain ⟨next, hnext, hrest⟩ := except_bind_ok.mp h
    obtain ⟨network, connection, hsaved, rfl⟩ := saveNetwork_eq_ok hnext
    obtain ⟨added, hadded, hnetworks, hconnections⟩ := ih hrest
    refine ⟨(network, connection) :: added, .cons hsaved hadded, ?_, ?_⟩
    · rw [hnetworks]
      simp [Cluster.addNetwork, Cluster.addConnection]
    · rw [hconnections]
      simp [Cluster.addNetwork, Cluster.addConnection]

theorem saveNetworks_eq_ok {host : Host} {nets : List NetworkCreatorData} {model r : Cluster}
    (h : saveNetworks host nets model = .ok r) :
    ∃ added : List (Network × Connection),
      List.Forall₂ (fun net pair => Saved host net pair.1 pair.2) nets added ∧
        r.networks = model.networks ++ added.map Prod.fst ∧
        r.headnode.connections = model.headnode.connections ++ added.map Prod.snd := by
  obtain ⟨added, hadded, hlists⟩ := saveNetworks_stored h
  exact ⟨added, hadded.imp fun _ _ hstored => hstored.toSaved, hlists⟩

end NetworkCreator

end OpenCattus
