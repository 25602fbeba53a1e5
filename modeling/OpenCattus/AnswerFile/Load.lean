import OpenCattus.AnswerFile.Types

/-!
# Loading an answerfile

The load routines of `AnswerFile`, section by section in the order of `loadOptions`,
with the validators they run. The model follows the source: which keys are required,
which default to the empty text, which stay absent, and the text of every error.

`validateNodeInventoryTopology_eq_ok` states what the node inventory check accepts.
-/

namespace OpenCattus

open Foundations Foundations.Text Foundations.Inet

/-! ## Validators -/

/-- `ipv4NetworkAddress`. -/
def ipv4NetworkAddress (ip subnetMask : Address) : Result (BitVec 32) :=
  match ip, subnetMask with
  | .v4 ip, .v4 mask => .ok (ip &&& mask)
  | _, _ => invalidArgument "only IPv4 network sections are supported"

section Address

variable [Inet6]

def validateSubnetMask (networkSection : String) (subnetMask : Address) : Result Unit :=
  if !subnetMask.isV4 || !Network.isMask subnetMask then
    invalidArgument ("Network section '" ++ networkSection ++
      "' field 'subnet_mask' validation failed - invalid subnet mask '" ++
      subnetMask.toText ++ "'")
  else .ok ()

def validateGatewayInSubnet (networkSection : String) (hostAddress subnetMask gateway : Address) :
    Result Unit :=
  if gateway.isUnspecified then .ok ()
  else do
    let networkAddress ← ipv4NetworkAddress hostAddress subnetMask
    let gatewayNetwork ← ipv4NetworkAddress gateway subnetMask
    if networkAddress ≠ gatewayNetwork then
      invalidArgument ("Network section '" ++ networkSection ++
        "' field 'gateway' validation failed - gateway " ++ gateway.toText ++ " is outside " ++
        v4ToText networkAddress ++ "/" ++
        decimal ((Assoc.get subnetMask.toText Network.cidr).getD 0))
    else .ok ()

end Address

/-- A check that an absent value passes. -/
def validateOptional {α : Type} (value : Option α) (check : α → Result Unit) : Result Unit :=
  match value with
  | some a => check a
  | none => .ok ()

/-- `parseUnsignedAnswerfileField`: digits only, within `std::size_t`. -/
def parseUnsignedAnswerfileField (sectionName field value : String) (allowZero : Bool) :
    Result Nat :=
  let expectedType := if allowZero then "an unsigned integer" else "a positive integer"
  let fail (reason : String) : Result Nat :=
    invalidArgument ("Section '" ++ sectionName ++ "' field '" ++ field ++
      "' validation failed - " ++ reason ++ " (expected " ++ expectedType ++ ", value is '" ++
      value ++ "')")
  if value = "" then fail "empty value"
  else
    match parseDigits value with
    | none => fail "not a number"
    | some parsed =>
      if sizeLimit ≤ parsed then fail "value is out of range"
      else if !allowZero && parsed == 0 then fail "zero is not valid"
      else .ok parsed

def validateUnsignedAnswerfileField (sectionName field : String) (value : Option String)
    (allowZero : Bool) : Result Unit :=
  validateOptional value fun value => do
    let _ ← parseUnsignedAnswerfileField sectionName field value allowZero
    .ok ()

def parsePortAnswerfileField (sectionName field value : String) : Result Nat := do
  let port ← parseUnsignedAnswerfileField sectionName field value false
  if port > 65535 then
    invalidArgument ("Section '" ++ sectionName ++ "' field '" ++ field ++
      "' validation failed - port is out of range (expected 1-65535, value is '" ++ value ++ "')")
  else .ok port

def normalizeOFEDKind (rawKind : String) : Option String :=
  let normalized := lower rawKind
  if normalized = "mellanox" then some "doca"
  else if (Enumeration.ofStringOpt normalized : Option OFED.Kind).isSome then some normalized
  else none

def validateSingleQueueSystem (slurmEnabled pbsEnabled : Bool) : Result Unit :=
  if slurmEnabled && pbsEnabled then
    invalidArgument ("Queue system validation failed - answerfile cannot contain both [slurm] " ++
      "and [pbs] sections")
  else .ok ()

def validateGenericNodeScalars (node : AFNode) : Result Unit := do
  validateUnsignedAnswerfileField "node" "padding" node.padding true
  validateUnsignedAnswerfileField "node" "sockets" node.sockets false
  validateUnsignedAnswerfileField "node" "cores_per_socket" node.coresPerSocket false
  validateUnsignedAnswerfileField "node" "cpus_per_node" node.cpusPerNode false
  validateUnsignedAnswerfileField "node" "threads_per_core" node.threadsPerCore false
  validateUnsignedAnswerfileField "node" "real_memory" node.realMemory false
  validateUnsignedAnswerfileField "node" "bmc_serialport" node.bmcSerialport true
  validateUnsignedAnswerfileField "node" "bmc_serialspeed" node.bmcSerialspeed false

def validateResolvedNodeScalars (sectionName : String) (node : AFNode) : Result Unit := do
  validateUnsignedAnswerfileField sectionName "sockets" node.sockets false
  validateUnsignedAnswerfileField sectionName "cores_per_socket" node.coresPerSocket false
  validateUnsignedAnswerfileField sectionName "threads_per_core" node.threadsPerCore false
  validateUnsignedAnswerfileField sectionName "bmc_serialport" node.bmcSerialport true
  validateUnsignedAnswerfileField sectionName "bmc_serialspeed" node.bmcSerialspeed false

/-! ## Uniqueness in the node inventory -/

/-- The values seen so far, each with the node that uses it. -/
abbrev SeenValues := List (String × String)

def rememberUniqueNodeValue (seen : SeenValues) (fieldName value owner : String) :
    Result SeenValues :=
  if value = "" then .ok seen
  else
    match Assoc.get value seen with
    | some other =>
      invalidArgument ("Duplicate " ++ fieldName ++ " '" ++ value ++ "' used by " ++ other ++
        " and " ++ owner)
    | none => .ok (seen ++ [(value, owner)])

/-- A value that is absent is not remembered. -/
def rememberOptional (seen : SeenValues) (fieldName : String) (value : Option String)
    (owner : String) : Result SeenValues :=
  match value with
  | some value => rememberUniqueNodeValue seen fieldName value owner
  | none => .ok seen

/-- The maps that `validateNodeInventoryTopology` fills. -/
structure Inventory where
  hostnames : SeenValues := []
  macAddresses : SeenValues := []
  nodeAddresses : SeenValues := []
  bmcAddresses : SeenValues := []
  allAddresses : SeenValues := []

section Inventory

variable [Inet6]

/-- The address text under which a node is remembered; the unspecified address is not. -/
def nodeAddressText (node : AFNode) : Option String :=
  (node.startIp.filter (!·.isUnspecified)).map Address.toText

/-- One round of the loop, for the node with the number `nodeNumber`. -/
def Inventory.addNode (seen : Inventory) (nodeNumber : Nat) (node : AFNode) :
    Result Inventory := do
  let owner := "node '" ++ node.hostname.getD ("#" ++ decimal nodeNumber) ++ "'"
  let hostnames ← rememberOptional seen.hostnames "hostname" node.hostname owner
  let macAddresses ←
    rememberOptional seen.macAddresses "mac_address" (node.macAddress.map lower) owner
  let nodeAddresses ← rememberOptional seen.nodeAddresses "node_ip" (nodeAddressText node) owner
  let allAddresses ← rememberOptional seen.allAddresses "node/BMC address" (nodeAddressText node)
    (owner ++ " node_ip")
  let bmcAddresses ← rememberOptional seen.bmcAddresses "bmc_address" node.bmcAddress owner
  let allAddresses ← rememberOptional allAddresses "node/BMC address" node.bmcAddress
    (owner ++ " bmc_address")
  .ok { hostnames, macAddresses, nodeAddresses, bmcAddresses, allAddresses }

def Inventory.addNodes (seen : Inventory) (nodeNumber : Nat) : List AFNode → Result Unit
  | [] => .ok ()
  | node :: nodes => do
    let seen ← seen.addNode (nodeNumber + 1) node
    seen.addNodes (nodeNumber + 1) nodes

def validateNodeInventoryTopology (nodes : List AFNode) : Result Unit :=
  Inventory.addNodes {} 0 nodes

end Inventory

/-! ## Networks -/

/-- `boost::is_any_of(", ")`. -/
def isListSeparator (c : Char) : Bool := c == ',' || c == ' '

section Networks

variable [Inet6]

/-- `AnswerFile::convertStringToAddress`. -/
def convertStringToAddress (addr : String) : Result Address :=
  match makeAddress addr with
  | some a => .ok a
  | none => invalidArgument "Invalid address"

/-- `AnswerFile::convertNetworkAddressAndValidate`: an absent key leaves the field unset. -/
def convertNetworkAddressAndValidate (kf : KeyFile) (sectionName fieldName : String) :
    Result (Option Address) := do
  match ← kf.getStringOpt sectionName fieldName with
  | none => .ok none
  | some value =>
    let a ← rethrowInvalidArgument (convertStringToAddress value) fun what =>
      "Network section '" ++ sectionName ++ "' field '" ++ fieldName ++
        "' validation failed - " ++ what
    .ok (some a)

/-- The gateway is only checked against a known address and mask. -/
def validateNetworkGateway (networkSection : String) :
    Option Address → Option Address → Option Address → Result Unit
  | some ip, some mask, some gateway => validateGatewayInSubnet networkSection ip mask gateway
  | _, _, _ => .ok ()

def loadNetwork (kf : KeyFile) (networkSection : String) : Result AFNetwork := do
  let conInterface ← kf.getString networkSection "interface"
  let conIpAddr ← convertNetworkAddressAndValidate kf networkSection "ip_address"
  let conMacAddr ← kf.getStringOr networkSection "mac_address" ""
  let subnetMask ← convertNetworkAddressAndValidate kf networkSection "subnet_mask"
  validateOptional subnetMask (validateSubnetMask networkSection)
  let domainName ← kf.getStringOpt networkSection "domain_name"
  let gateway ← convertNetworkAddressAndValidate kf networkSection "gateway"
  validateNetworkGateway networkSection conIpAddr subnetMask gateway
  let nameservers ← kf.getStringOpt networkSection "nameservers"
  .ok
    { subnetMask
      gateway
      domainName
      nameservers := nameservers.map (split isListSeparator)
      conInterface := some conInterface
      conIpAddr
      conMacAddr := some conMacAddr }

def loadExternalNetwork (kf : KeyFile) : Result AFNetwork := loadNetwork kf "network_external"

def loadManagementNetwork (kf : KeyFile) : Result AFNetwork := loadNetwork kf "network_management"

/-- A network whose section may be left out. -/
def loadOptionalNetwork (kf : KeyFile) (networkSection : String) : Result AFNetwork :=
  if kf.hasGroup networkSection then loadNetwork kf networkSection else .ok {}

def loadServiceNetwork (kf : KeyFile) : Result AFNetwork := loadOptionalNetwork kf "network_service"

def loadApplicationNetwork (kf : KeyFile) : Result AFNetwork :=
  loadOptionalNetwork kf "network_application"

end Networks

/-! ## Settings -/

def loadInformation (kf : KeyFile) : Result AFInformation := do
  let clusterName ← kf.getString "information" "cluster_name"
  let companyName ← kf.getString "information" "company_name"
  let administratorEmail ← kf.getString "information" "administrator_email"
  .ok { clusterName, companyName, administratorEmail }

def loadTimeSettings (kf : KeyFile) : Result AFTime := do
  let timezone ← kf.getString "time" "timezone"
  let timeserver ← kf.getString "time" "timeserver"
  let locale ← kf.getString "time" "locale"
  .ok { timezone, timeserver, locale }

def loadHostnameSettings (kf : KeyFile) : Result AFHostname := do
  let hostname ← kf.getString "hostname" "hostname"
  let domainName ← kf.getString "hostname" "domain_name"
  .ok { hostname, domainName }

/-- A dry run accepts an unknown distribution and reads no further; the remaining fields
keep the values the record was created with. -/
def loadSystemSettings (kf : KeyFile) (dryRun : Bool) : Result AFSystem := do
  let diskImage ← kf.getString "system" "disk_image"
  let rawDistro ← kf.getString "system" "distro"
  let afDistro := if lower rawDistro = "alma" then "almalinux" else lower rawDistro
  match (Enumeration.ofStringOpt afDistro : Option OS.Distro) with
  | none =>
    if dryRun then .ok { diskImage }
    else runtimeError ("Unsupported distro: " ++ afDistro)
  | some distro =>
    let version ← kf.getString "system" "version"
    let kernel ← kf.getStringOpt "system" "kernel"
    let rawProvisioner ← unwrap (← kf.getStringOpt "system" "provisioner")
      ("[system].provisioner missing in the answerfile " ++ kf.path ++
        ", expecting one of: confluent, xcat")
    let provisioner := lower rawProvisioner
    if provisioner ≠ "confluent" ∧ provisioner ≠ "xcat" then
      invalidArgument ("Section 'system' field 'provisioner' validation failed - unsupported " ++
        "provisioner '" ++ provisioner ++ "' (expected confluent or xcat)")
    else .ok { diskImage, distro, version, kernel, provisioner }

/-- The lists under `[repositories]` and `[ohpc]`: no section, an empty list, or tokens. -/
def loadEnabledList (kf : KeyFile) (sectionName : String) : Result (Option (List String)) :=
  if kf.hasGroup sectionName then do
    match ← kf.getStringOpt sectionName "enabled" with
    | none => .ok (some [])
    | some enabled =>
      if enabled = "" then .ok (some []) else .ok (some (split isListSeparator enabled))
  else .ok none

def loadRepositories (kf : KeyFile) : Result (Option (List String)) :=
  loadEnabledList kf "repositories"

def loadOHPC (kf : KeyFile) : Result (Option (List String)) := loadEnabledList kf "ohpc"

/-! ## Nodes -/

/-- `AnswerFile::validateAttribute`: a value that is not usable falls back on the generic
one, which then has to be usable. -/
def validateAttributeBy {α : Type} (usable : α → Bool) (sectionName attributeName : String)
    (objectAttr genericAttr : Option α) : Result (Option α) :=
  if objectAttr.any usable then .ok objectAttr
  else if genericAttr.any usable then .ok genericAttr
  else
    invalidArgument (sectionName ++ " must have a \"" ++ attributeName ++
      "\" key or you must inform a generic \"" ++ attributeName ++ "\" value")

/-- Text is usable when it is not empty. -/
def validateAttribute : String → String → Option String → Option String → Result (Option String) :=
  validateAttributeBy (· ≠ "")

/-- An address is usable when it is not the unspecified one. -/
def validateAddressAttribute :
    String → String → Option Address → Option Address → Result (Option Address) :=
  validateAttributeBy (!·.isUnspecified)

def hasText (value : Option String) : Bool := value.any (· ≠ "")

/-- `clearIfEmpty`. -/
def clearIfEmpty (value : Option String) : Option String := value.filter (· ≠ "")

/-- The BMC fields: with a BMC address all of them are needed, without one empty fields
are cleared. -/
def validateNodeBMC (generic node : AFNode) : Result AFNode :=
  if hasText node.bmcAddress || hasText generic.bmcAddress then do
    let bmcAddress ← validateAttribute "node" "bmc_address" node.bmcAddress generic.bmcAddress
    let bmcUsername ← validateAttribute "node" "bmc_username" node.bmcUsername generic.bmcUsername
    let bmcPassword ← validateAttribute "node" "bmc_password" node.bmcPassword generic.bmcPassword
    let bmcSerialport ←
      validateAttribute "node" "bmc_serialport" node.bmcSerialport generic.bmcSerialport
    let bmcSerialspeed ←
      validateAttribute "node" "bmc_serialspeed" node.bmcSerialspeed generic.bmcSerialspeed
    .ok { node with bmcAddress, bmcUsername, bmcPassword, bmcSerialport, bmcSerialspeed }
  else
    .ok
      { node with
        bmcAddress := clearIfEmpty node.bmcAddress
        bmcUsername := clearIfEmpty node.bmcUsername
        bmcPassword := clearIfEmpty node.bmcPassword
        bmcSerialport := clearIfEmpty node.bmcSerialport
        bmcSerialspeed := clearIfEmpty node.bmcSerialspeed }

/-- `AnswerFile::validateNode`: inherit what is missing from the generic node. -/
def validateNode (generic node : AFNode) (sectionName : String) : Result AFNode := do
  let startIp ← validateAddressAttribute "node" "node_ip" node.startIp generic.startIp
  let rootPassword ←
    validateAttribute "node" "node_root_password" node.rootPassword generic.rootPassword
  let sockets ← validateAttribute "node" "sockets" node.sockets generic.sockets
  let coresPerSocket ←
    validateAttribute "node" "cores_per_socket" node.coresPerSocket generic.coresPerSocket
  let threadsPerCore ←
    validateAttribute "node" "threads_per_core" node.threadsPerCore generic.threadsPerCore
  let node ← validateNodeBMC generic
    { node with startIp, rootPassword, sockets, coresPerSocket, threadsPerCore }
  validateResolvedNodeScalars sectionName node
  .ok node

/-- `node_counter`: the number after the first dot. -/
def nodeCounter (sectionName : String) : Option Nat := lexicalCast 64 (afterFirst '.' sectionName)

/-- `is_node_number`. -/
def isNodeNumber (sectionName : String) : Bool := (nodeCounter sectionName).any (0 < ·)

/-- The host name of a node: its own, or the generic prefix with the padded number. -/
def nodeHostname (generic : AFNode) (counter : Nat) (hostname : Option String) :
    Result (Option String) :=
  if hostname.getD "" ≠ "" then .ok hostname
  else if generic.nodePrefix.getD "" = "" then
    invalidArgument ("Section node." ++ decimal counter ++
      " must have a 'hostname' key or you must inform a generic 'prefix' value")
  else if generic.padding.getD "" = "" then
    invalidArgument ("Section node." ++ decimal counter ++
      " must have a 'hostname' key or you must inform a generic 'padding' value")
  else do
    let width ← stoi (generic.padding.getD "")
    .ok (some (generic.nodePrefix.getD "" ++ padZero width.toNat counter))

section Nodes

variable [Inet6]

def loadNodeIp (kf : KeyFile) (sectionName : String) : Result Address := do
  let text ← kf.getString sectionName "node_ip"
  rethrowInvalidArgument (convertStringToAddress text) fun what =>
    "Section '" ++ sectionName ++ "' field 'node_ip' validation failed - " ++ what

/-- Without the key the address is the unspecified one. -/
def loadOptionalNodeIp (kf : KeyFile) (sectionName : String) : Result Address := do
  match ← kf.getStringOpt sectionName "node_ip" with
  | some _ => loadNodeIp kf sectionName
  | none => .ok default

/-- `AnswerFile::loadNode` for the generic section `[node]`: every key is required. -/
def loadGenericNode (kf : KeyFile) (sectionName : String) : Result AFNode := do
  let nodePrefix ← kf.getString sectionName "prefix"
  let padding ← kf.getString sectionName "padding"
  let rootPassword ← kf.getString sectionName "node_root_password"
  let sockets ← kf.getString sectionName "sockets"
  let coresPerSocket ← kf.getString sectionName "cores_per_socket"
  let cpusPerNode ← kf.getString sectionName "cpus_per_node"
  let threadsPerCore ← kf.getString sectionName "threads_per_core"
  let realMemory ← kf.getString sectionName "real_memory"
  let bmcUsername ← kf.getString sectionName "bmc_username"
  let bmcPassword ← kf.getString sectionName "bmc_password"
  let bmcSerialport ← kf.getString sectionName "bmc_serialport"
  let bmcSerialspeed ← kf.getString sectionName "bmc_serialspeed"
  let startIp ← loadNodeIp kf sectionName
  let node : AFNode :=
    { nodePrefix := some nodePrefix
      padding := some padding
      startIp := some startIp
      rootPassword := some rootPassword
      sockets := some sockets
      coresPerSocket := some coresPerSocket
      threadsPerCore := some threadsPerCore
      cpusPerNode := some cpusPerNode
      realMemory := some realMemory
      bmcUsername := some bmcUsername
      bmcPassword := some bmcPassword
      bmcSerialport := some bmcSerialport
      bmcSerialspeed := some bmcSerialspeed }
  validateGenericNodeScalars node
  .ok node

/-- `AnswerFile::loadNode`. A numbered section needs a MAC address; its other keys
default to the empty text. -/
def loadNode (kf : KeyFile) (sectionName : String) : Result AFNode :=
  if sectionName = "node" then loadGenericNode kf sectionName
  else do
    let macAddress ← kf.getString sectionName "mac_address"
    let startIp ← loadOptionalNodeIp kf sectionName
    let hostname ← kf.getStringOr sectionName "hostname" ""
    let rootPassword ← kf.getStringOr sectionName "node_root_password" ""
    let sockets ← kf.getStringOr sectionName "sockets" ""
    let coresPerSocket ← kf.getStringOr sectionName "cores_per_socket" ""
    let threadsPerCore ← kf.getStringOr sectionName "threads_per_core" ""
    let bmcAddress ← kf.getStringOr sectionName "bmc_address" ""
    let bmcUsername ← kf.getStringOr sectionName "bmc_username" ""
    let bmcPassword ← kf.getStringOr sectionName "bmc_password" ""
    let bmcSerialport ← kf.getStringOr sectionName "bmc_serialport" ""
    let bmcSerialspeed ← kf.getStringOr sectionName "bmc_serialspeed" ""
    .ok
      { startIp := some startIp
        hostname := some hostname
        rootPassword := some rootPassword
        macAddress := some macAddress
        sockets := some sockets
        coresPerSocket := some coresPerSocket
        threadsPerCore := some threadsPerCore
        bmcAddress := some bmcAddress
        bmcUsername := some bmcUsername
        bmcPassword := some bmcPassword
        bmcSerialport := some bmcSerialport
        bmcSerialspeed := some bmcSerialspeed }

/-- One round of the loop of `AnswerFile::loadNodes`. -/
def loadNumberedNode (kf : KeyFile) (generic : AFNode) (sectionName : String) : Result AFNode := do
  let counter := (nodeCounter sectionName).getD 0
  let newNode ← loadNode kf sectionName
  let hostname ← nodeHostname generic counter newNode.hostname
  rethrowInvalidArgument (validateNode generic { newNode with hostname } sectionName) fun what =>
    "Section node." ++ decimal counter ++ " validation failed - " ++ what

def loadNumberedNodes (kf : KeyFile) (generic : AFNode) :
    List String → List AFNode → Result (List AFNode)
  | [], nodes => .ok nodes
  | sectionName :: rest, nodes => do
    let newNode ← loadNumberedNode kf generic sectionName
    let nodes ← pushBack nodes newNode
    loadNumberedNodes kf generic rest nodes

/-- `AnswerFile::loadNodes`: sections in file order; names that are not numbers, or the
number zero, are skipped. -/
def loadNodes (kf : KeyFile) : Result AFNodes := do
  let generic ← loadNode kf "node"
  let nodelist := (kf.listAllPrefixedEntries "node.").filter isNodeNumber
  let nodes ← loadNumberedNodes kf generic nodelist []
  validateNodeInventoryTopology nodes
  .ok { generic := some generic, nodes }

end Nodes

/-! ## Services -/

def loadPostfix (kf : KeyFile) : Result AFPostfix :=
  if kf.hasGroup "postfix" then do
    let destination ← kf.getStringOpt "postfix" "destination"
    let destination :=
      if destination.getD "" = "" then [] else split isListSeparator (destination.getD "")
    let profileValue ← kf.getString "postfix" "profile"
    match (Enumeration.ofStringOpt profileValue : Option Postfix.Profile) with
    | none =>
      invalidArgument ("Section 'postfix' field 'profile' validation failed - unsupported " ++
        "profile '" ++ profileValue ++ "' (expected Local, Relay, or SASL)")
    | some profile =>
      let smtp ← loadSMTP profile
      let certFile ← kf.getStringOpt "postfix" "smtpd_tls_cert_file"
      let keyFile ← kf.getStringOpt "postfix" "smtpd_tls_key_file"
      .ok
        { enabled := true
          destination
          profile
          smtp
          certFile := certFile.getD ""
          keyFile := keyFile.getD "" }
  else .ok {}
where
  loadSMTP : Postfix.Profile → Result (Option AFPostfix.SMTP)
    | .Local => .ok none
    | .Relay => do
      let server ← kf.getString "postfix.relay" "server"
      let portText ← kf.getString "postfix.relay" "port"
      let port ← parsePortAnswerfileField "postfix.relay" "port" portText
      .ok (some { server, port })
    | .SASL => do
      let server ← kf.getString "postfix.sasl" "server"
      let portText ← kf.getString "postfix.sasl" "port"
      let port ← parsePortAnswerfileField "postfix.sasl" "port" portText
      let username ← kf.getString "postfix.sasl" "username"
      let password ← kf.getString "postfix.sasl" "password"
      .ok (some { server, port, sasl := some { username, password } })

/-- A section with an empty `kind` leaves OFED disabled. -/
def loadOFED (kf : KeyFile) : Result AFOFED :=
  if kf.hasGroup "ofed" then do
    let kind ← kf.getString "ofed" "kind"
    if kind = "" then .ok {}
    else
      match normalizeOFEDKind kind with
      | none =>
        invalidArgument ("Section 'ofed' field 'kind' validation failed - unsupported OFED kind '" ++
          kind ++ "' (expected inbox, doca, oracle, or mellanox)")
      | some normalizedKind =>
        let afVersion ← kf.getString "ofed" "version"
        .ok
          { kind := normalizedKind
            version := some (if afVersion = "" then "latest" else afVersion)
            enabled := true }
  else .ok {}

def loadSlurm (kf : KeyFile) : Result AFSlurm :=
  if kf.hasGroup "slurm" then do
    let mariadbRootPassword ← required "mariadb_root_password"
    let slurmdbPassword ← required "slurmdb_password"
    let storagePassword ← required "storage_password"
    let partitionName ← required "partition_name"
    .ok { enabled := true, mariadbRootPassword, slurmdbPassword, storagePassword, partitionName }
  else .ok {}
where
  required (key : String) : Result String := do
    unwrap (← kf.getStringOpt "slurm" key) (key ++ " missing in the answerfile " ++ kf.path)

def loadPBS (kf : KeyFile) : Result AFPBS :=
  if kf.hasGroup "pbs" then do
    let executionPlace ← kf.getStringOpt "pbs" "execution_place"
    let executionPlace := executionPlace.getD "Shared"
    match (Enumeration.ofStringOpt executionPlace : Option PBS.ExecutionPlace) with
    | none =>
      invalidArgument ("Section 'pbs' field 'execution_place' validation failed - unsupported " ++
        "execution place '" ++ executionPlace ++ "' (expected Shared or Scatter)")
    | some executionPlace => .ok { enabled := true, executionPlace }
  else .ok {}

/-! ## The whole file -/

variable [Inet6]

def loadOptions (kf : KeyFile) (dryRun : Bool) : Result AnswerFile := do
  let external ← loadExternalNetwork kf
  let management ← loadManagementNetwork kf
  let service ← loadServiceNetwork kf
  let application ← loadApplicationNetwork kf
  let information ← loadInformation kf
  let time ← loadTimeSettings kf
  let hostname ← loadHostnameSettings kf
  let system ← loadSystemSettings kf dryRun
  let repositories ← loadRepositories kf
  let ohpc ← loadOHPC kf
  let nodes ← loadNodes kf
  let postfixMail ← loadPostfix kf
  let ofed ← loadOFED kf
  let slurm ← loadSlurm kf
  let pbs ← loadPBS kf
  validateSingleQueueSystem slurm.enabled pbs.enabled
  .ok
    { external, management, service, application, information, time, hostname, system
      repositories, ohpc, nodes, postfixMail, ofed, slurm, pbs }

end OpenCattus
