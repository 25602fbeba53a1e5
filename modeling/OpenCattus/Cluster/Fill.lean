import OpenCattus.Cluster.Dump

/-!
# Filling the cluster from an answerfile

`Cluster::fillData`, in the order of the source. Every part is a function of its own that
passes the model on; a failure leaves no model behind, as the program then ends.
-/

namespace OpenCattus

open Foundations Foundations.Text Foundations.Inet

/-- `AnswerfileValidationException`. -/
def answerfileValidation {α : Type} (what : String) : Result α :=
  .error ⟨.answerfileValidation, what⟩

@[simp] theorem answerfileValidation_ne_ok {α : Type} {what : String} {a : α} :
    answerfileValidation what ≠ .ok a := by
  simp [answerfileValidation]

/-- A setter that is only called with a value. -/
def applyOptional {α β : Type} (value : Option α) (setter : β → α → Result β) (b : β) : Result β :=
  match value with
  | some a => setter b a
  | none => .ok b

@[simp] theorem applyOptional_none {α β : Type} (setter : β → α → Result β) (b : β) :
    applyOptional none setter b = .ok b := rfl

@[simp] theorem applyOptional_some {α β : Type} (setter : β → α → Result β) (a : α) (b : β) :
    applyOptional (some a) setter b = setter b a := rfl

/-! ## The parts of a network -/

section Parts

variable [Inet6]

def setGatewayOpt (gateway : Option Address) (network : Network) : Result Network :=
  applyOptional gateway (fun network gateway => .ok (network.setGateway gateway)) network

/-- The nameservers of the section, or those of the host. -/
def fillNameservers (host : Host) (nameservers : Option (List String)) (network : Network) :
    Result Network :=
  match nameservers with
  | some nameservers => network.setNameserversText nameservers
  | none => do
    let nameservers ← host.fetchNameservers
    .ok (network.setNameservers nameservers)

/-- The mask of the section, or that of the interface. -/
def fillSubnetMask (host : Host) (afNetwork : AFNetwork) (network : Network) : Result Network :=
  match afNetwork.subnetMask with
  | some mask => network.setSubnetMask mask
  | none => do
    let interface ← valueOf afNetwork.conInterface
    let mask ← host.fetchSubnetMask interface
    network.setSubnetMask mask

end Parts

/-- An empty name falls back on that of the host. -/
def fillDomainName (host : Host) (domainName : String) (network : Network) : Result Network :=
  if domainName ≠ "" then network.setDomainName domainName
  else do
    let domainName ← Network.fetchDomainName host
    network.setDomainName domainName

/-- `if (!con_mac_addr->empty())`. -/
def fillMAC (afNetwork : AFNetwork) (connection : Connection) : Result Connection := do
  let mac ← derefOf afNetwork.conMacAddr
  if mac ≠ "" then connection.setMAC mac else .ok connection

namespace Cluster

/-- Compute and set the address of the first network with the profile. -/
def setNetworkAddress (cluster : Cluster) (profile : Network.Profile) (ip : Address) :
    Result Cluster := do
  let network ← cluster.getNetwork profile
  let address ← network.calculateAddress ip
  let network ← network.setAddress address
  .ok (cluster.setNetwork profile network)

/-! ## Management and external network -/

section Networks

variable [Inet6]

def fillManagementNetwork (host : Host) (afNetwork : AFNetwork) : Result Network := do
  let network : Network := { profile := .Management, kind := .Ethernet }
  let network ← network.setSubnetMask (← valueOf afNetwork.subnetMask)
  let network ← setGatewayOpt afNetwork.gateway network
  let network ← network.setDomainName (← valueOf afNetwork.domainName)
  let network ← fillNameservers host afNetwork.nameservers network
  let address ← network.calculateAddress (← valueOf afNetwork.conIpAddr)
  network.setAddress address

def fillExternalNetwork (host : Host) (afNetwork : AFNetwork) : Result Network := do
  let network : Network := { profile := .External, kind := .Ethernet }
  let network ← fillSubnetMask host afNetwork network
  let network ← setGatewayOpt afNetwork.gateway network
  let network ← fillDomainName host (← derefOf afNetwork.domainName) network
  fillNameservers host afNetwork.nameservers network

end Networks

def fillManagementConnection (host : Host) (afNetwork : AFNetwork) (cluster : Cluster) :
    Result Cluster := do
  let network ← cluster.getNetwork .Management
  let connection := Connection.ofNetwork network
  let connection ← connection.setInterface host (← valueOf afNetwork.conInterface)
  let connection ← connection.setAddress (← valueOf afNetwork.conIpAddr)
  let connection ← fillMAC afNetwork connection
  .ok (cluster.addConnection connection)

/-- The address of the section, or that of the interface. -/
def externalAddress (host : Host) (afNetwork : AFNetwork) : Result Address :=
  match afNetwork.conIpAddr with
  | some ip => .ok ip
  | none => do
    let interface ← valueOf afNetwork.conInterface
    host.fetchAddress interface

def fillExternalConnection (host : Host) (afNetwork : AFNetwork) (cluster : Cluster) :
    Result Cluster := do
  let network ← cluster.getNetwork .External
  let connection := Connection.ofNetwork network
  let connection ← connection.setInterface host (← valueOf afNetwork.conInterface)
  let ip ← externalAddress host afNetwork
  let connection ← connection.setAddress ip
  let cluster ← cluster.setNetworkAddress .External ip
  let connection ← fillMAC afNetwork connection
  .ok (cluster.addConnection connection)

/-! ## Service and application network -/

section Optional

variable [Inet6]

def fillServiceNetwork (host : Host) (afNetwork : AFNetwork) (interface : String) :
    Result Network := do
  let network : Network := { profile := .Service, kind := .Ethernet }
  let network ← fillSubnetMask host afNetwork network
  let network := network.setGateway (afNetwork.gateway.getD (host.fetchGateway interface))
  let network ← fillDomainName host (afNetwork.domainName.getD "") network
  fillNameservers host afNetwork.nameservers network

/-- The application network has no fall-back values. -/
def fillApplicationNetwork (afNetwork : AFNetwork) : Result Network := do
  let network : Network := { profile := .Application, kind := .Ethernet }
  let network ← applyOptional afNetwork.subnetMask Network.setSubnetMask network
  let network ← setGatewayOpt afNetwork.gateway network
  let network ← applyOptional afNetwork.domainName Network.setDomainName network
  applyOptional afNetwork.nameservers Network.setNameserversText network

end Optional

/-- The connection to a service or application network that was just added. -/
def fillOptionalConnection (host : Host) (profile : Network.Profile) (afNetwork : AFNetwork)
    (interface : String) (cluster : Cluster) : Result Cluster := do
  let network ← cluster.getNetwork profile
  let connection := Connection.ofNetwork network
  let connection ← fillMAC afNetwork connection
  let connection ← connection.setInterface host interface
  let ip ← valueOf afNetwork.conIpAddr
  let connection ← connection.setAddress ip
  let cluster ← cluster.setNetworkAddress profile ip
  .ok (cluster.addConnection connection)

section Optional

variable [Inet6]

def fillService (host : Host) (afNetwork : AFNetwork) (cluster : Cluster) : Result Cluster :=
  match afNetwork.conInterface with
  | some interface => do
    let network ← fillServiceNetwork host afNetwork interface
    fillOptionalConnection host .Service afNetwork interface (cluster.addNetwork network)
  | none => .ok cluster

def fillApplication (host : Host) (afNetwork : AFNetwork) (cluster : Cluster) : Result Cluster :=
  match afNetwork.conInterface with
  | some interface => do
    let network ← fillApplicationNetwork afNetwork
    fillOptionalConnection host .Application afNetwork interface (cluster.addNetwork network)
  | none => .ok cluster

end Optional

/-! ## Settings -/

/-- The operating system of the compute nodes. It starts as that of the running system,
whose kernel stays when the file names none. -/
def fillNodeOS (host : Host) (system : AFSystem) : Result OS :=
  let nodeOS : OS :=
    { host.os with
      arch := .x86_64
      family := .Linux
      distro := system.distro
      kernel := system.kernel.or host.os.kernel }
  nodeOS.setVersion system.version

/-- Identity, time zone, locale and names. The time server is not taken over. -/
def fillInformation (af : AnswerFile) (cluster : Cluster) : Cluster :=
  let cluster :=
    { cluster with
      name := af.information.clusterName
      companyName := af.information.companyName
      adminMail := af.information.administratorEmail
      timezone := { cluster.timezone with timezone := af.time.timezone }
      locale := af.time.locale }
  let cluster := cluster.setHostname af.hostname.hostname
  let cluster := cluster.setDomainName af.hostname.domainName
  cluster.setFQDN (cluster.headnode.hostname ++ "." ++ cluster.getDomainName)

/-- `parseOFEDKind`. -/
def parseOFEDKind (rawKind : String) : Option OFED.Kind :=
  if lower rawKind = "mellanox" then some .Doca else Enumeration.ofStringOpt rawKind

/-- `supportedOFEDKinds`. -/
def supportedOFEDKinds : List String :=
  (Enumeration.values : List OFED.Kind).map Enumeration.toText ++
    ["mellanox (legacy alias for doca)"]

/-- The arguments of the message stand in the order of the source. -/
def fillOFED (host : Host) (ofed : AFOFED) (cluster : Cluster) : Result Cluster :=
  if ofed.enabled then
    match parseOFEDKind ofed.kind with
    | none =>
      runtimeError ("Invalid OFED kind, expected one of " ++ host.answerfile ++ ", found " ++
        joinList supportedOFEDKinds ++ ". Edit the anwerfile " ++ ofed.kind ++
        " [ofed] section and try again.")
    | some kind => do
      let version ← valueOf ofed.version
      .ok { cluster with ofed := some { kind, version } }
  else .ok { cluster with ofed := some { kind := .Inbox, version := "latest" } }

def fillRepositories (af : AnswerFile) (cluster : Cluster) : Cluster :=
  { cluster with enabledRepositories := af.repositories, enabledOpenHPCBundles := af.ohpc }

/-- SLURM is the default. -/
def fillQueueSystem (af : AnswerFile) (cluster : Cluster) : Cluster :=
  { cluster with
    queueSystem := some
      (if af.pbs.enabled then .PBS af.pbs.executionPlace
        else .SLURM (if af.slurm.enabled then af.slurm.partitionName else "execution")) }

/-- `validateProvisionerSupport`. -/
def validateProvisionerSupport (headnodeOS nodeOS : OS) (provisioner : Provisioner) : Result Unit :=
  if provisioner = .xCAT ∧ headnodeOS.getPackageType = .DEB then
    if headnodeOS.platform ≠ .ubuntu2404 then
      runtimeError "xCAT on DEB head nodes is only implemented for Ubuntu 24.04"
    else if nodeOS.platform ≠ .ubuntu2404 then
      runtimeError ("xCAT on Ubuntu 24.04 head nodes is only implemented for Ubuntu 24.04 " ++
        "compute images")
    else .ok ()
  else .ok ()

def selectedProvisioner (provisioner : String) : Result Provisioner :=
  if lower provisioner = "xcat" then .ok .xCAT
  else if lower provisioner = "confluent" then .ok .Confluent
  else runtimeError ("Invalid provisioner " ++ lower provisioner)

def fillProvisioner (system : AFSystem) (nodeOS : OS) (cluster : Cluster) : Result Cluster := do
  let provisioner ← selectedProvisioner system.provisioner
  validateProvisionerSupport cluster.headnode.os nodeOS provisioner
  .ok { cluster with updateSystem := true, provisioner, computeNodeOS := some nodeOS }

/-! ## Nodes -/

/-- `convertOrError`. -/
def convertOrError (nodename value fieldName : String) : Result Nat :=
  match stoul value with
  | .ok n => .ok n
  | .error e =>
    if e.kind = .invalidArgument then
      answerfileValidation ("Conversion error on node " ++ nodename ++ ": field " ++ fieldName ++
        " is not a number (value is " ++ value ++ ")")
    else .error e

/-- `requireBMCField`. -/
def requireBMCField (nodename : String) (value : Option String) (fieldName : String) :
    Result String :=
  match value with
  | some text =>
    if text = "" then missing else .ok text
  | none => missing
where
  missing : Result String :=
    invalidArgument ("Node " ++ nodename ++ " has a BMC address but is missing " ++ fieldName)

def fillBMC (nodename : String) (node : AFNode) : Result (Option BMC) :=
  if hasText node.bmcAddress then do
    let address ← requireBMCField nodename node.bmcAddress "bmc_address"
    let username ← requireBMCField nodename node.bmcUsername "bmc_username"
    let password ← requireBMCField nodename node.bmcPassword "bmc_password"
    let serialPort ← convertOrError nodename
      (← requireBMCField nodename node.bmcSerialport "bmc_serialport") "bmc_serialport"
    let serialSpeed ← convertOrError nodename
      (← requireBMCField nodename node.bmcSerialspeed "bmc_serialspeed") "bmc_serialspeed"
    .ok (some { address, username, password, serialPort, serialSpeed })
  else .ok none

def checkMAC (nodename : String) (macAddress : Option String) : Result String :=
  match macAddress with
  | none => answerfileValidation ("Missing MAC address on node " ++ nodename)
  | some macAddress =>
    match Connection.validateMAC macAddress with
    | .error message =>
      answerfileValidation ("Error decoding MAC address (read " ++ macAddress ++ ") of node " ++
        nodename ++ ": " ++ message)
    | .ok () => .ok (lower macAddress)

/-- One round of the loop over the nodes. Only three of the numbers of the CPU are set. -/
def fillNode (nodeOS : OS) (network : Network) (node : AFNode) : Result Node := do
  let connection := Connection.ofNetwork network
  let nodename ← valueOf node.hostname
  let startIp ← valueOf node.startIp
  let macAddress ← checkMAC nodename node.macAddress
  let rootPassword ← valueOf node.rootPassword
  let sockets ← convertOrError nodename (← valueOf node.sockets) "sockets"
  let coresPerSocket ← convertOrError nodename (← valueOf node.coresPerSocket) "cores_per_socket"
  let threadsPerCore ← convertOrError nodename (← valueOf node.threadsPerCore) "threads_per_core"
  let bmc ← fillBMC nodename node
  let connection ← connection.setMAC macAddress
  let connection ← connection.setAddress startIp
  .ok
    { hostname := nodename
      os := nodeOS
      cpu := { sockets, coresPerSocket, threadsPerCore }
      connections := [connection]
      bmc
      nodeStartIp := some startIp
      macAddress
      nodeRootPassword := some rootPassword }

def fillNodes (nodeOS : OS) (cluster : Cluster) : List AFNode → Result Cluster
  | [] => .ok cluster
  | node :: nodes => do
    let network ← cluster.getNetwork .Management
    let newNode ← fillNode nodeOS network node
    let cluster ← cluster.addNode newNode
    fillNodes nodeOS cluster nodes

/-! ## Mail system and generic node -/

/-- The port is kept in sixteen bits. -/
def fillSMTP (mail : AFPostfix) (m : Postfix) : Result Postfix :=
  match mail.profile with
  | .Local => .ok m
  | .Relay => do
    let smtp ← valueOf mail.smtp
    .ok { m with smtpServer := some smtp.server, port := some (smtp.port % 2 ^ 16) }
  | .SASL => do
    let smtp ← valueOf mail.smtp
    let sasl ← valueOf smtp.sasl
    .ok
      { m with
        smtpServer := some smtp.server
        port := some (smtp.port % 2 ^ 16)
        username := some sasl.username
        password := some sasl.password }

def fillPostfix (mail : AFPostfix) (cluster : Cluster) : Result Cluster :=
  if mail.enabled then do
    let m : Postfix :=
      { profile := mail.profile
        hostname := some cluster.headnode.hostname
        domain := some cluster.getDomainName
        destination := some mail.destination }
    let m ← fillSMTP mail m
    .ok { cluster with
      mailSystem := some { m with certFile := some mail.certFile, keyFile := some mail.keyFile } }
  else .ok cluster

def fillGenericNode (generic : AFNode) (cluster : Cluster) : Result Cluster := do
  let nodePrefix ← valueOf generic.nodePrefix
  let nodePadding ← stoul (← valueOf generic.padding)
  let nodeStartIP ← valueOf generic.startIp
  let nodeRootPassword ← valueOf generic.rootPassword
  let nodeSockets ← stoul (← valueOf generic.sockets)
  let nodeCoresPerSocket ← stoul (← valueOf generic.coresPerSocket)
  let nodeThreadsPerCore ← stoul (← valueOf generic.threadsPerCore)
  let nodeCPUsPerNode ← stoul (← valueOf generic.cpusPerNode)
  let nodeRealMemory ← stoul (← valueOf generic.realMemory)
  let nodeBMCSerialPort ← stoul (generic.bmcSerialport.getD "0")
  let nodeBMCSerialSpeed ← stoul (generic.bmcSerialspeed.getD "0")
  .ok
    { cluster with
      nodePrefix, nodePadding, nodeStartIP, nodeRootPassword, nodeSockets, nodeCoresPerSocket
      nodeThreadsPerCore, nodeCPUsPerNode, nodeRealMemory
      nodeBMCUsername := generic.bmcUsername.getD ""
      nodeBMCPassword := generic.bmcPassword.getD ""
      nodeBMCSerialPort, nodeBMCSerialSpeed }

def fillSlurmPasswords (slurm : AFSlurm) (cluster : Cluster) : Cluster :=
  if slurm.enabled then
    { cluster with
      slurmMariaDBRootPassword := slurm.mariadbRootPassword
      slurmDBPassword := slurm.slurmdbPassword
      slurmStoragePassword := slurm.storagePassword }
  else cluster

/-! ## The whole model -/

variable [Inet6]

/-- `Cluster::fillData`. -/
def fillData (host : Host) (af : AnswerFile) (cluster : Cluster) : Result Cluster := do
  let managementNetwork ← fillManagementNetwork host af.management
  let externalNetwork ← fillExternalNetwork host af.external
  let cluster ← cluster.setDiskImage host af.system.diskImage
  let nodeOS ← fillNodeOS host af.system
  let cluster := fillInformation af cluster
  let cluster ← fillOFED host af.ofed cluster
  let cluster := fillRepositories af cluster
  let cluster := fillQueueSystem af cluster
  let cluster := cluster.addNetwork managementNetwork
  let cluster ← fillManagementConnection host af.management cluster
  let cluster := cluster.addNetwork externalNetwork
  let cluster ← fillExternalConnection host af.external cluster
  let cluster ← fillService host af.service cluster
  let cluster ← fillApplication host af.application cluster
  let cluster ← fillProvisioner af.system nodeOS cluster
  let cluster ← fillNodes nodeOS cluster af.nodes.nodes
  let cluster ← fillPostfix af.postfixMail cluster
  let generic ← derefOf af.nodes.generic
  let cluster ← fillGenericNode generic cluster
  .ok (fillSlurmPasswords af.slurm cluster)

end Cluster

end OpenCattus
