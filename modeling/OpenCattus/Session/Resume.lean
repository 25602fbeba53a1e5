import OpenCattus.Cluster.Fill
import OpenCattus.Session.Draft

/-!
# Resuming a draft

`applyDraftToModel`: the second reader of the answerfile format, which the questionnaire
uses to continue from a draft. It reads the key file directly, takes an empty value for an
absent one and skips what it cannot parse.
-/

namespace OpenCattus

open Foundations Foundations.Text Foundations.Inet

/-! ## Parsers -/

/-- `parseSize`. -/
def parseSize (raw : String) : Option Nat := lexicalCast 64 raw

/-- `parsePort`. -/
def parsePort (raw : String) : Option Nat := lexicalCast 16 raw

/-- `parseDistro`. -/
def parseDistro (raw : String) : Option OS.Distro :=
  Enumeration.ofStringOpt (if lower raw = "alma" then "almalinux" else lower raw)

/-! ## Time servers -/

def isComma (c : Char) : Bool := c == ','

/-- `Timezone::setTimeservers` for text: every piece between commas, without its spaces, is
appended. -/
def Timezone.setTimeserversText (timezone : Timezone) (timeservers : String) : Timezone :=
  { timezone with
    timeservers := timezone.timeservers ++
      (splitEach isComma timeservers.toList).map fun piece => String.ofList (piece.filter (· ≠ ' ')) }

namespace Cluster

/-! ## Identity, time and names -/

def applyInformation (kd : KeyData) (model : Cluster) : Cluster :=
  { model with
    name := (optionalString kd "information" "cluster_name").getD model.name
    companyName := (optionalString kd "information" "company_name").getD model.companyName
    adminMail := (optionalString kd "information" "administrator_email").getD model.adminMail }

def applyTime (kd : KeyData) (model : Cluster) : Cluster :=
  let timezone :=
    { model.timezone with
      timezone := (optionalString kd "time" "timezone").getD model.timezone.timezone }
  { model with
    timezone := (optionalString kd "time" "timeserver").elim timezone timezone.setTimeserversText
    locale := (optionalString kd "time" "locale").getD model.locale }

def applyHostname (kd : KeyData) (model : Cluster) : Cluster :=
  let model := (optionalString kd "hostname" "hostname").elim model model.setHostname
  (optionalString kd "hostname" "domain_name").elim model model.setDomainName

/-! ## Networks -/

/-- `modelHasNetwork`. -/
def modelHasNetwork (model : Cluster) (profile : Network.Profile) : Bool :=
  model.networks.any (·.profile = profile)

section Networks

variable [Inet6]

/-- The network of a section whose address and mask could be parsed. -/
def draftNetwork (kd : KeyData) (networkSection : String) (profile : Network.Profile)
    (kind : Network.Kind) (ip mask : Address) : Result Network := do
  let network : Network := { profile, kind }
  let network ← network.setSubnetMask mask
  let address ← network.calculateAddress ip
  let network ← network.setAddress address
  let network :=
    ((optionalString kd networkSection "gateway").bind makeAddress).elim network network.setGateway
  let network ← applyOptional (optionalString kd networkSection "domain_name")
    Network.setDomainName network
  applyOptional ((optionalString kd networkSection "nameservers").map splitValues)
    Network.setNameserversText network

/-- The connection of the section, set before the network. -/
def draftConnection (host : Host) (kd : KeyData) (networkSection : String)
    (profile : Network.Profile) (kind : Network.Kind) (interface : String) (ip : Address) :
    Result Connection := do
  let connection := Connection.ofNetwork { profile, kind }
  let connection ← connection.setInterface host interface
  let connection ← connection.setAddress ip
  applyOptional (optionalString kd networkSection "mac_address") Connection.setMAC connection

/-- `applyNetwork`: a section that is incomplete, or that the model has already, is skipped. -/
def applyNetwork (host : Host) (kd : KeyData) (networkSection : String)
    (profile : Network.Profile) (kind : Network.Kind) (model : Cluster) : Result Cluster :=
  if !kd.hasGroup networkSection || model.modelHasNetwork profile then .ok model
  else
    match optionalString kd networkSection "interface",
      (optionalString kd networkSection "ip_address").bind makeAddress,
      (optionalString kd networkSection "subnet_mask").bind makeAddress with
    | some interface, some ip, some mask => do
      let connection ← draftConnection host kd networkSection profile kind interface ip
      let network ← draftNetwork kd networkSection profile kind ip mask
      .ok ((model.addNetwork network).addConnection connection)
    | _, _, _ => .ok model

def applyNetworks (host : Host) (kd : KeyData) (model : Cluster) : Result Cluster := do
  let model ← applyNetwork host kd "network_external" .External .Ethernet model
  let model ← applyNetwork host kd "network_management" .Management .Ethernet model
  let model ← applyNetwork host kd "network_service" .Service .Ethernet model
  applyNetwork host kd "network_application" .Application .Infiniband model

end Networks

/-! ## System -/

/-- A pending download is taken over; any other image has to be accepted, or it is skipped. -/
def applyDiskImage (host : Host) (kd : KeyData) (model : Cluster) : Result Cluster :=
  match optionalString kd "system" "disk_image" with
  | none => .ok model
  | some diskImage =>
    match optionalString kd metadataGroup "pending_disk_image_download_url" with
    | some pendingURL => model.setPendingDiskImageDownload host diskImage pendingURL
    -- What it throws is logged; its writes stay.
    | none => .ok (Cluster.runDiskImage host diskImage model).2

/-- The operating system starts as that of the running system. -/
def applyComputeNodeOS (host : Host) (kd : KeyData) (model : Cluster) : Result Cluster :=
  match (optionalString kd "system" "distro").bind parseDistro,
    optionalString kd "system" "version" with
  | some distro, some version => do
    let nodeOS : OS :=
      { host.os with
        arch := .x86_64
        family := .Linux
        distro
        kernel := (optionalString kd "system" "kernel").or host.os.kernel }
    let nodeOS ← nodeOS.setVersion version
    .ok { model with computeNodeOS := some nodeOS }
  | _, _ => .ok model

def applyProvisioner (kd : KeyData) (model : Cluster) : Cluster :=
  match (optionalString kd "system" "provisioner").map lower with
  | some "xcat" => { model with provisioner := .xCAT }
  | some "confluent" => { model with provisioner := .Confluent }
  | _ => model

def applySystem (host : Host) (kd : KeyData) (model : Cluster) : Result Cluster := do
  let model ← applyDiskImage host kd model
  let model ← applyComputeNodeOS host kd model
  .ok (applyProvisioner kd model)

/-! ## Software selections -/

def applyRepositories (kd : KeyData) (model : Cluster) : Cluster :=
  { model with
    enabledRepositories :=
      ((optionalString kd "repositories" "enabled").map splitValues).or model.enabledRepositories }

def applyOHPC (kd : KeyData) (model : Cluster) : Cluster :=
  { model with
    enabledOpenHPCBundles :=
      ((optionalString kd "ohpc" "enabled").map splitValues).or model.enabledOpenHPCBundles }

def applyOFED (kd : KeyData) (model : Cluster) : Cluster :=
  match (optionalString kd "ofed" "kind").bind Enumeration.ofStringOpt with
  | some kind =>
    { model with ofed := some { kind, version := (optionalString kd "ofed" "version").getD "latest" } }
  | none => model

/-! ## Nodes -/

section Nodes

variable [Inet6]

/-- A number of the generic section; what is no number is skipped. -/
def genericSize (kd : KeyData) (key : String) (current : Nat) : Nat :=
  ((optionalString kd "node" key).bind parseSize).getD current

def applyGenericNode (kd : KeyData) (model : Cluster) : Cluster :=
  if kd.hasGroup "node" then
    let sockets := genericSize kd "sockets" model.nodeSockets
    let coresPerSocket := genericSize kd "cores_per_socket" model.nodeCoresPerSocket
    let threadsPerCore := genericSize kd "threads_per_core" model.nodeThreadsPerCore
    { model with
      nodePrefix := (optionalString kd "node" "prefix").getD model.nodePrefix
      nodePadding := genericSize kd "padding" model.nodePadding
      nodeStartIP := ((optionalString kd "node" "node_ip").bind makeAddress).getD model.nodeStartIP
      nodeRootPassword := (optionalString kd "node" "node_root_password").getD model.nodeRootPassword
      nodeSockets := sockets
      nodeCoresPerSocket := coresPerSocket
      nodeThreadsPerCore := threadsPerCore
      nodeRealMemory := genericSize kd "real_memory" model.nodeRealMemory
      nodeBMCUsername := (optionalString kd "node" "bmc_username").getD model.nodeBMCUsername
      nodeBMCPassword := (optionalString kd "node" "bmc_password").getD model.nodeBMCPassword
      nodeBMCSerialPort := genericSize kd "bmc_serialport" model.nodeBMCSerialPort
      nodeBMCSerialSpeed := genericSize kd "bmc_serialspeed" model.nodeBMCSerialSpeed
      nodeCPUsPerNode := sockets * coresPerSocket * threadsPerCore % sizeLimit }
  else model

/-- A number of a node, or the generic one. -/
def nodeSize (kd : KeyData) (nodeSection key : String) (generic : Nat) : Option Nat :=
  parseSize ((optionalString kd nodeSection key).getD (decimal generic))

def draftBMC (kd : KeyData) (nodeSection : String) (model : Cluster) : Option BMC :=
  (optionalString kd nodeSection "bmc_address").map fun address =>
    { address
      username := (optionalString kd nodeSection "bmc_username").getD model.nodeBMCUsername
      password := (optionalString kd nodeSection "bmc_password").getD model.nodeBMCPassword
      serialPort :=
        (nodeSize kd nodeSection "bmc_serialport" model.nodeBMCSerialPort).getD
          model.nodeBMCSerialPort
      serialSpeed :=
        (nodeSize kd nodeSection "bmc_serialspeed" model.nodeBMCSerialSpeed).getD
          model.nodeBMCSerialSpeed }

/-- A text of a node, or the generic one when that is not empty. -/
def nodeText (kd : KeyData) (nodeSection key generic : String) : Option String :=
  (optionalString kd nodeSection key).or (if generic = "" then none else some generic)

/-- A padding of a node, or the generic one when that is not zero. -/
def nodePaddingOf (kd : KeyData) (nodeSection : String) (generic : Nat) : Option Nat :=
  match optionalString kd nodeSection "padding" with
  | some padding => parseSize padding
  | none => if generic = 0 then none else some generic

/-- What a node section has to provide. -/
structure DraftNodeValues where
  hostname : String
  mac : String
  ip : Address
  network : Network
  sockets : Nat
  coresPerSocket : Nat
  threadsPerCore : Nat

/-- The required values, in the order in which they are looked for. -/
def draftNodeValues (kd : KeyData) (nodeSection : String) (model : Cluster) :
    Option DraftNodeValues := do
  let hostname ← optionalString kd nodeSection "hostname"
  let nodeIP ← optionalString kd nodeSection "node_ip"
  let mac ← optionalString kd nodeSection "mac_address"
  let network ← (model.getNetwork .Management).toOption
  let ip ← makeAddress nodeIP
  let sockets ← nodeSize kd nodeSection "sockets" model.nodeSockets
  let coresPerSocket ← nodeSize kd nodeSection "cores_per_socket" model.nodeCoresPerSocket
  let threadsPerCore ← nodeSize kd nodeSection "threads_per_core" model.nodeThreadsPerCore
  some { hostname, mac, ip, network, sockets, coresPerSocket, threadsPerCore }

/-- The node of a section whose required values are there. -/
def draftNode (kd : KeyData) (nodeSection : String) (model : Cluster) (v : DraftNodeValues) :
    Result Node := do
  let cpu ← CPU.ofTopology v.sockets v.coresPerSocket v.threadsPerCore
  let connection := Connection.ofNetwork v.network
  let connection ← connection.setMAC v.mac
  let connection ← connection.setAddress v.ip
  let node : Node :=
    { hostname := v.hostname
      os := model.getComputeNodeOS
      cpu
      connections := [connection]
      bmc := draftBMC kd nodeSection model
      nodePrefix := nodeText kd nodeSection "prefix" model.nodePrefix
      padding := nodePaddingOf kd nodeSection model.nodePadding
      nodeStartIp := some v.ip
      nodeRootPassword := nodeText kd nodeSection "node_root_password" model.nodeRootPassword }
  .ok (node.setMACAddress v.mac)

/-- `applySingleNode`; `none` when the section is skipped. -/
def applySingleNode (kd : KeyData) (nodeSection : String) (model : Cluster) :
    Result (Option Cluster) :=
  match draftNodeValues kd nodeSection model with
  | some v => do
    let node ← draftNode kd nodeSection model v
    let model ← model.addNode node
    .ok (some model)
  | none => .ok none

/-- The loop over the node sections, with the number of nodes that were loaded. -/
def applyNodeSections (kd : KeyData) (model : Cluster) (loaded : Nat) :
    List String → Result (Cluster × Nat)
  | [] => .ok (model, loaded)
  | group :: groups => do
    match ← applySingleNode kd group model with
    | some model => applyNodeSections kd model (loaded + 1) groups
    | none => applyNodeSections kd model loaded groups

def applyNodes (kd : KeyData) (model : Cluster) : Result Cluster := do
  let (model, loaded) ←
    applyNodeSections kd (applyGenericNode kd model) 0 (kd.prefixed "node.")
  .ok (if 0 < loaded then { model with nodeQuantity := loaded } else model)

end Nodes

/-! ## Services -/

/-- PBS is looked for first. -/
def applyQueueSystem (kd : KeyData) (model : Cluster) : Cluster :=
  if kd.hasGroup "pbs" then
    { model with
      queueSystem := some (.PBS
        ((Enumeration.ofStringOpt
          ((optionalString kd "pbs" "execution_place").getD "Shared")).getD .Shared)) }
  else if kd.hasGroup "slurm" then
    { model with
      queueSystem := some (.SLURM ((optionalString kd "slurm" "partition_name").getD "execution"))
      slurmMariaDBRootPassword := (optionalString kd "slurm" "mariadb_root_password").getD ""
      slurmDBPassword := (optionalString kd "slurm" "slurmdb_password").getD ""
      slurmStoragePassword := (optionalString kd "slurm" "storage_password").getD "" }
  else model

/-- The relay of the mail system; the credentials only for SASL. -/
def draftRelay (kd : KeyData) (mail : Postfix) : Postfix :=
  match mail.profile with
  | .Local => mail
  | .Relay =>
    { mail with
      smtpServer := optionalString kd "postfix.relay" "server"
      port := (optionalString kd "postfix.relay" "port").bind parsePort }
  | .SASL =>
    { mail with
      smtpServer := optionalString kd "postfix.sasl" "server"
      port := (optionalString kd "postfix.sasl" "port").bind parsePort
      username := optionalString kd "postfix.sasl" "username"
      password := optionalString kd "postfix.sasl" "password" }

def applyPostfix (kd : KeyData) (model : Cluster) : Cluster :=
  match (optionalString kd "postfix" "profile").bind Enumeration.ofStringOpt with
  | some profile =>
    let mail : Postfix :=
      { profile
        hostname := some model.headnode.hostname
        domain := some model.getDomainName
        destination := (optionalString kd "postfix" "destination").map splitValues
        certFile := optionalString kd "postfix" "smtpd_tls_cert_file"
        keyFile := optionalString kd "postfix" "smtpd_tls_key_file" }
    { model with mailSystem := some (draftRelay kd mail) }
  | none => model

/-! ## The whole draft -/

variable [Inet6]

/-- `applyDraftToModel`, on the content of the file or its absence. -/
def applyDraftToModel (host : Host) (file : Option KeyData) (model : Cluster) : Result Cluster :=
  match file with
  | none => .ok model
  | some kd => do
    let model := applyHostname kd (applyTime kd (applyInformation kd model))
    let model ← applyNetworks host kd model
    let model ← applySystem host kd model
    let model := applyOFED kd (applyOHPC kd (applyRepositories kd model))
    let model ← applyNodes kd model
    .ok (applyPostfix kd (applyQueueSystem kd model))

end Cluster

end OpenCattus
