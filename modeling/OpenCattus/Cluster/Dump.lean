import OpenCattus.AnswerFile.RoundTrip
import OpenCattus.Cluster.Types

/-!
# Writing the cluster as an answerfile

`Cluster::dumpData`: the model is copied into an answerfile record, section by section,
and that record is dumped into an empty key file.

`networkField_dumpNetworks` describes the loop over the networks: a later network with
the same profile overwrites the fields of an earlier one.
-/

namespace OpenCattus

open Foundations Foundations.Text Foundations.Inet

/-! ## Networks -/

/-- `getNetworkField`. -/
def AnswerFile.networkField (af : AnswerFile) : Network.Profile → AFNetwork
  | .Management => af.management
  | .Service => af.service
  | .External => af.external
  | .Application => af.application

def AnswerFile.setNetworkField (af : AnswerFile) (profile : Network.Profile) (field : AFNetwork) :
    AnswerFile :=
  match profile with
  | .Management => { af with management := field }
  | .Service => { af with service := field }
  | .External => { af with external := field }
  | .Application => { af with application := field }

section Inet

variable [Inet6]

/-- One round of the loop over the networks, on the field of the network's profile. -/
def dumpNetworkField (headnode : Headnode) (field : AFNetwork) (network : Network) : AFNetwork :=
  let field :=
    { field with
      subnetMask := some network.subnetMask
      gateway := some network.gateway
      domainName := some network.domainName
      nameservers :=
        if network.nameservers = [] then field.nameservers
        else some (network.nameservers.map Address.toText) }
  match headnode.getConnection network.profile with
  | some connection =>
    { field with
      conInterface := connection.interface.or field.conInterface
      conMacAddr := connection.mac.or field.conMacAddr
      conIpAddr := some connection.address }
  | none => { field with conIpAddr := some network.address }

def dumpNetworks (headnode : Headnode) (af : AnswerFile) : List Network → AnswerFile
  | [] => af
  | network :: networks =>
    dumpNetworks headnode
      (af.setNetworkField network.profile
        (dumpNetworkField headnode (af.networkField network.profile) network))
      networks

end Inet

/-! ## Settings -/

namespace Cluster

def dumpSystem (cluster : Cluster) : AFSystem where
  diskImage := cluster.diskImage.path
  distro := cluster.getComputeNodeOS.distro
  version := cluster.getComputeNodeOS.getVersion
  kernel := cluster.getComputeNodeOS.kernel
  provisioner := if cluster.provisioner = .xCAT then "xcat" else "confluent"

def dumpOFED (cluster : Cluster) : AFOFED :=
  match cluster.ofed with
  | some ofed =>
    { enabled := true, kind := lower (Enumeration.toText ofed.kind), version := some ofed.version }
  | none => {}

def dumpSlurm (cluster : Cluster) : AFSlurm :=
  match cluster.queueSystem with
  | some (.SLURM defaultQueue) =>
    { enabled := true
      mariadbRootPassword := cluster.slurmMariaDBRootPassword
      slurmdbPassword := cluster.slurmDBPassword
      storagePassword := cluster.slurmStoragePassword
      partitionName := defaultQueue }
  | _ => {}

def dumpPBS (cluster : Cluster) : AFPBS :=
  match cluster.queueSystem with
  | some (.PBS executionPlace) => { enabled := true, executionPlace }
  | _ => {}

/-- Server and port are only written together; credentials only for SASL. -/
def dumpSMTP (mail : Postfix) : Option AFPostfix.SMTP :=
  match mail.smtpServer, mail.port with
  | some server, some port =>
    some
      { server
        port
        sasl :=
          if mail.profile = .SASL then
            some { username := mail.username.getD "", password := mail.password.getD "" }
          else none }
  | _, _ => none

def dumpPostfix (cluster : Cluster) : AFPostfix :=
  match cluster.mailSystem with
  | some mail =>
    { enabled := true
      destination := mail.destination.getD []
      profile := mail.profile
      smtp := dumpSMTP mail
      certFile := mail.certFile.getD ""
      keyFile := mail.keyFile.getD "" }
  | none => {}

def dumpInformation (cluster : Cluster) : AFInformation where
  clusterName := cluster.name
  companyName := cluster.companyName
  administratorEmail := cluster.adminMail

/-- Only the first time server is written. -/
def dumpTime (cluster : Cluster) : AFTime where
  timezone := cluster.timezone.timezone
  timeserver := cluster.timezone.timeservers.headD ""
  locale := cluster.locale

def dumpHostname (cluster : Cluster) : AFHostname where
  hostname := cluster.headnode.hostname
  domainName := cluster.getDomainName

/-! ## Nodes -/

def dumpGenericNode (cluster : Cluster) : AFNode where
  nodePrefix := some cluster.nodePrefix
  padding := some (decimal cluster.nodePadding)
  startIp := some cluster.nodeStartIP
  rootPassword := some cluster.nodeRootPassword
  sockets := some (decimal cluster.nodeSockets)
  coresPerSocket := some (decimal cluster.nodeCoresPerSocket)
  cpusPerNode := some (decimal cluster.nodeCPUsPerNode)
  threadsPerCore := some (decimal cluster.nodeThreadsPerCore)
  realMemory := some (decimal cluster.nodeRealMemory)
  bmcUsername := some cluster.nodeBMCUsername
  bmcPassword := some cluster.nodeBMCPassword
  bmcSerialport := some (decimal cluster.nodeBMCSerialPort)
  bmcSerialspeed := some (decimal cluster.nodeBMCSerialSpeed)

/-- A node of the inventory. Its root password is not copied. -/
def dumpNode (node : Node) : AFNode where
  hostname := some node.hostname
  macAddress := some node.macAddress
  startIp := node.nodeStartIp
  nodePrefix := node.nodePrefix
  padding := node.padding.map decimal
  coresPerSocket := some (decimal node.cpu.coresPerSocket)
  threadsPerCore := some (decimal node.cpu.threadsPerCore)
  sockets := some (decimal node.cpu.sockets)
  bmcAddress := node.bmc.map (·.address)
  bmcUsername := node.bmc.map (·.username)
  bmcPassword := node.bmc.map (·.password)
  bmcSerialport := node.bmc.map fun bmc => decimal bmc.serialPort
  bmcSerialspeed := node.bmc.map fun bmc => decimal bmc.serialSpeed

variable [Inet6]

/-- The record that `Cluster::dumpData` fills. -/
def toAnswerFile (cluster : Cluster) : AnswerFile :=
  { dumpNetworks cluster.headnode {} cluster.networks with
    system := cluster.dumpSystem
    ofed := cluster.dumpOFED
    repositories := cluster.enabledRepositories
    ohpc := cluster.enabledOpenHPCBundles
    slurm := cluster.dumpSlurm
    pbs := cluster.dumpPBS
    postfixMail := cluster.dumpPostfix
    information := cluster.dumpInformation
    time := cluster.dumpTime
    hostname := cluster.dumpHostname
    nodes := { generic := some cluster.dumpGenericNode, nodes := cluster.nodes.map dumpNode } }

/-- The content of the file that `Cluster::dumpData` writes. -/
def dumpData (cluster : Cluster) : KeyData := dumpOptions cluster.toAnswerFile KeyData.empty

end Cluster

/-! ## The networks of the record -/

@[simp] theorem AnswerFile.networkField_setNetworkField (af : AnswerFile)
    (p q : Network.Profile) (field : AFNetwork) :
    (af.setNetworkField p field).networkField q = if p = q then field else af.networkField q := by
  cases p <;> cases q <;> rfl

variable [Inet6]

theorem networkField_dumpNetworks (headnode : Headnode) (af : AnswerFile) (networks : List Network)
    (profile : Network.Profile) :
    (dumpNetworks headnode af networks).networkField profile =
      (networks.filter (·.profile = profile)).foldl (dumpNetworkField headnode)
        (af.networkField profile) := by
  induction networks generalizing af with
  | nil => rfl
  | cons network networks ih =>
    rw [dumpNetworks, ih, AnswerFile.networkField_setNetworkField]
    by_cases h : network.profile = profile
    · subst h
      simp
    · simp [h]

/-- The only network with its profile gives the whole field. -/
theorem networkField_toAnswerFile {cluster : Cluster} {profile : Network.Profile}
    {networks : List Network} (h : cluster.networks.filter (·.profile = profile) = networks) :
    cluster.toAnswerFile.networkField profile =
      networks.foldl (dumpNetworkField cluster.headnode) {} := by
  have hfield : cluster.toAnswerFile.networkField profile =
      (dumpNetworks cluster.headnode {} cluster.networks).networkField profile := by
    cases profile <;> rfl
  have hempty : ({} : AnswerFile).networkField profile = {} := by cases profile <;> rfl
  rw [hfield, networkField_dumpNetworks, h, hempty]

/-- Loading what was dumped, in terms of the copied record. -/
theorem loadOptions_dumpData {cluster : Cluster} {path : String} {dryRun : Bool} {r : AnswerFile}
    (hnamed : ∀ node ∈ cluster.nodes, node.hostname ≠ "")
    (hsize : cluster.nodes.length ≤ vectorMaxSize) :
    loadOptions ⟨path, cluster.dumpData⟩ dryRun = .ok r ↔
      cluster.toAnswerFile.Loadable ∧ r = cluster.toAnswerFile.reloaded := by
  apply loadOptions_dumpOptions
  · intro node hnode
    obtain ⟨n, hn, rfl⟩ := List.mem_map.mp hnode
    exact ⟨by simpa [Cluster.dumpNode] using hnamed n hn, rfl⟩
  · have hlength : cluster.toAnswerFile.nodes.nodes.length = cluster.nodes.length := by
      simp [Cluster.toAnswerFile]
    rw [hlength]
    exact lt_of_le_of_lt hsize vectorMaxSize_lt_sizeLimit

end OpenCattus
