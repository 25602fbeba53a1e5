import OpenCattus.AnswerFile.Types
import OpenCattus.DiskImage
import OpenCattus.Foundations.Program

/-!
# The cluster model

The records that the questionnaire and the answerfile fill: the head node, the compute
nodes, the queue and mail systems, and `Cluster` itself with its setters.
-/

namespace OpenCattus

open Foundations Foundations.Text Foundations.Inet Program

/-! ## Compute nodes -/

structure CPU where
  sockets : Nat := 0
  cores : Nat := 0
  threads : Nat := 0
  coresPerSocket : Nat := 0
  threadsPerCore : Nat := 0
  deriving DecidableEq, Repr

namespace CPU

/-- `CPU::checkTopology`, on machine words. -/
def checkTopology (cpu : CPU) : Result Unit :=
  if cpu.sockets = 0 ∨ cpu.cores = 0 ∨ cpu.threads = 0 ∨ cpu.coresPerSocket = 0 ∨
      cpu.threadsPerCore = 0 then
    runtimeError "Invalid number of processors"
  else if cpu.threads ≠ cpu.cores * cpu.threadsPerCore % sizeLimit then
    runtimeError "Total number of threads is not valid"
  else if cpu.cores ≠ cpu.sockets * cpu.coresPerSocket % sizeLimit then
    runtimeError "Total number of cores is not valid"
  else .ok ()

/-- The constructor with three numbers. The totals are computed modulo the word size. -/
def ofTopology (sockets coresPerSocket threadsPerCore : Nat) : Result CPU := do
  let cpu : CPU :=
    { sockets
      cores := coresPerSocket * sockets % sizeLimit
      threads := threadsPerCore * coresPerSocket * sockets % sizeLimit
      coresPerSocket
      threadsPerCore }
  cpu.checkTopology
  .ok cpu

theorem ofTopology_eq_ok {sockets coresPerSocket threadsPerCore : Nat} {cpu : CPU}
    (h : ofTopology sockets coresPerSocket threadsPerCore = .ok cpu) :
    0 < sockets ∧ 0 < coresPerSocket ∧ 0 < threadsPerCore ∧
      cpu = ⟨sockets, coresPerSocket * sockets % sizeLimit,
        threadsPerCore * coresPerSocket * sockets % sizeLimit, coresPerSocket, threadsPerCore⟩ := by
  unfold ofTopology at h
  simp only [except_bind_ok, Except.ok.injEq] at h
  obtain ⟨_, hcheck, rfl⟩ := h
  unfold checkTopology at hcheck
  split at hcheck
  · simp at hcheck
  · rename_i hzero
    simp only [not_or] at hzero
    obtain ⟨hsockets, -, -, hcores, hthreads⟩ := hzero
    exact ⟨Nat.pos_of_ne_zero hsockets, Nat.pos_of_ne_zero hcores, Nat.pos_of_ne_zero hthreads, rfl⟩

end CPU

structure BMC where
  address : String
  username : String
  password : String
  serialPort : Nat
  serialSpeed : Nat
  deriving DecidableEq, Repr

structure Node where
  hostname : String
  os : OS
  cpu : CPU := {}
  connections : List Connection := []
  bmc : Option BMC := none
  nodePrefix : Option String := none
  padding : Option Nat := none
  nodeStartIp : Option Address := none
  macAddress : String := ""
  nodeRootPassword : Option String := none
  deriving DecidableEq, Repr

/-- `Node::setMACAddress` keeps the address in lower case. -/
def Node.setMACAddress (node : Node) (macAddress : String) : Node :=
  { node with macAddress := lower macAddress }

/-! ## The head node -/

structure Headnode where
  hostname : String
  fqdn : String
  os : OS
  connections : List Connection := []
  deriving DecidableEq, Repr

def isFqdnDot (c : Char) : Bool := c == '.'

/-- `Headnode::discoverNames`. -/
def Headnode.discover (host : Host) : Headnode :=
  let hostparts := (splitEach isFqdnDot host.nodename.toList).map String.ofList
  let hostname := if host.nodename = "" then "localhost" else hostparts.headD ""
  let domain := (hostparts[1]?).getD ""
  { hostname
    fqdn := if domain ≠ "" ∧ domain ≠ "(none)" then host.nodename else hostname ++ ".localdomain"
    os := host.os }

/-- `Server::getConnection`: the first connection to a network with the profile. -/
def Headnode.getConnection (headnode : Headnode) (profile : Network.Profile) :
    Option Connection :=
  headnode.connections.find? (·.profile = profile)

/-! ## Services -/

structure OFED where
  kind : OFED.Kind
  version : String
  deriving DecidableEq, Repr

/-- `QueueSystem`: SLURM with its partition, or PBS with its execution place. -/
inductive QueueSystem where
  | SLURM (defaultQueue : String)
  | PBS (executionPlace : PBS.ExecutionPlace)
  deriving DecidableEq, Repr

structure Postfix where
  profile : Postfix.Profile
  hostname : Option String := none
  domain : Option String := none
  smtpServer : Option String := none
  destination : Option (List String) := none
  port : Option Nat := none
  username : Option String := none
  password : Option String := none
  certFile : Option String := none
  keyFile : Option String := none
  deriving DecidableEq, Repr

inductive Provisioner where
  | xCAT | Confluent
  deriving DecidableEq, Repr

structure Timezone where
  timezone : String := ""
  timeservers : List String := []
  deriving DecidableEq, Repr

/-! ## The cluster -/

structure Cluster where
  name : String := ""
  companyName : String := ""
  adminMail : String := ""
  headnode : Headnode
  computeNodeOS : Option OS := none
  provisioner : Provisioner := .xCAT
  ofed : Option OFED := none
  enabledRepositories : Option (List String) := none
  enabledOpenHPCBundles : Option (List String) := none
  queueSystem : Option QueueSystem := none
  mailSystem : Option Postfix := none
  nodes : List Node := []
  timezone : Timezone := {}
  locale : String := ""
  networks : List Network := []
  updateSystem : Bool := false
  diskImage : DiskImage := {}
  pendingDiskImageDownloadURL : Option String := none
  nodeQuantity : Nat := 0
  nodePrefix : String := ""
  nodePadding : Nat := 0
  nodeStartIP : Address := default
  nodeRootPassword : String := ""
  nodeSockets : Nat := 0
  nodeCoresPerSocket : Nat := 0
  nodeThreadsPerCore : Nat := 0
  nodeCPUsPerNode : Nat := 0
  nodeRealMemory : Nat := 0
  nodeBMCUsername : String := ""
  nodeBMCPassword : String := ""
  nodeBMCSerialPort : Nat := 0
  nodeBMCSerialSpeed : Nat := 0
  slurmMariaDBRootPassword : String := ""
  slurmDBPassword : String := ""
  slurmStoragePassword : String := ""
  deriving DecidableEq, Repr

namespace Cluster

/-- The cluster that the program starts with. -/
def fresh (host : Host) : Cluster where
  headnode := Headnode.discover host

def getComputeNodeOS (cluster : Cluster) : OS := cluster.computeNodeOS.getD cluster.headnode.os

/-- `Cluster::getDomainName`: what follows the first dot of the FQDN. -/
def getDomainName (cluster : Cluster) : String := afterFirst '.' cluster.headnode.fqdn

def setFQDN (cluster : Cluster) (fqdn : String) : Cluster :=
  { cluster with headnode := { cluster.headnode with fqdn } }

/-- `Cluster::setDomainName` rebuilds the FQDN. -/
def setDomainName (cluster : Cluster) (domainName : String) : Cluster :=
  cluster.setFQDN (cluster.headnode.hostname ++ "." ++ domainName)

def setHostname (cluster : Cluster) (hostname : String) : Cluster :=
  { cluster with headnode := { cluster.headnode with hostname } }

/-- `Cluster::getNetwork`: the first network with the profile. -/
def getNetwork (cluster : Cluster) (profile : Network.Profile) : Result Network :=
  match cluster.networks.find? (·.profile = profile) with
  | some network => .ok network
  | none =>
    runtimeError ("Cannot get any network with the profile " ++ profileName profile)
where
  profileName : Network.Profile → String
    | .External => "External"
    | .Management => "Management"
    | .Service => "Service"
    | .Application => "Application"

/-- Replace the first network with the profile, as a setter on the reference that
`getNetwork` returns does. -/
def updateFirst (profile : Network.Profile) (network : Network) : List Network → List Network
  | [] => []
  | n :: ns => if n.profile = profile then network :: ns else n :: updateFirst profile network ns

def setNetwork (cluster : Cluster) (profile : Network.Profile) (network : Network) : Cluster :=
  { cluster with networks := updateFirst profile network cluster.networks }

def addNetwork (cluster : Cluster) (network : Network) : Cluster :=
  { cluster with networks := cluster.networks ++ [network] }

def addConnection (cluster : Cluster) (connection : Connection) : Cluster :=
  { cluster with
    headnode := { cluster.headnode with connections := cluster.headnode.connections ++ [connection] } }

def addNode (cluster : Cluster) (node : Node) : Result Cluster := do
  let nodes ← pushBack cluster.nodes node
  .ok { cluster with nodes }

/-! ### The disk image -/

/-- `DiskImage::setPath`. Whether the checksum of a known image is the right one is only logged. -/
def runDiskImagePath (host : Host) (path : String) : Program Cluster Exception Unit :=
  if extension path ≠ ".iso" then raise ⟨.runtimeError, "Disk Image must have ISO extension"⟩
  else do
    update fun cluster =>
      { cluster with diskImage.distro := (DiskImage.isKnownImage path).2 }
    let _ ← ofExcept
      (if (DiskImage.isKnownImage path).1 then host.hasVerifiedChecksum path else .ok true)
    update fun cluster => { cluster with diskImage.path := path }

def clearPendingDiskImageDownload (cluster : Cluster) : Cluster :=
  { cluster with pendingDiskImageDownloadURL := none }

/-- `Cluster::setDiskImage` with its writes. -/
def runDiskImage (host : Host) (path : String) : Program Cluster Exception Unit :=
  let accept : Program Cluster Exception Unit := do
    runDiskImagePath host path
    update clearPendingDiskImageDownload
  match host.pathStatus path with
  | .found => accept
  | status =>
    if host.dryRun then accept
    else
      match status with
      | .permissionDenied => accept
      | .failed message =>
        raise ⟨.runtimeError, "Unable to inspect disk image path " ++ path ++ ": " ++ message⟩
      | _ => raise ⟨.runtimeError, "Disk image path " ++ path ++ " doesn't exist"⟩

def setDiskImagePath (host : Host) (cluster : Cluster) (path : String) : Result Cluster :=
  result (runDiskImagePath host path) cluster

def setDiskImage (host : Host) (cluster : Cluster) (path : String) : Result Cluster :=
  result (runDiskImage host path) cluster

def setPendingDiskImageDownload (host : Host) (cluster : Cluster) (path downloadURL : String) :
    Result Cluster := do
  let cluster ← cluster.setDiskImagePath host path
  .ok { cluster with pendingDiskImageDownloadURL := some downloadURL }

section DiskImage

variable {host : Host} {cluster r : Cluster} {path : String}

/-- A path is refused for its extension, or its image cannot be verified, or it is set. -/
theorem runDiskImagePath_cases (host : Host) (path : String) (cluster : Cluster) :
    (extension path ≠ ".iso" ∧ ∃ e, e.kind = .runtimeError ∧
      runDiskImagePath host path cluster = (.error e, cluster)) ∨
    (extension path = ".iso" ∧ host.VerifiesImage path ∧ runDiskImagePath host path cluster =
      (.ok (), { cluster with diskImage := ⟨path, (DiskImage.isKnownImage path).2⟩ })) ∨
    (extension path = ".iso" ∧ ¬ host.VerifiesImage path ∧ ∃ e,
      host.hasVerifiedChecksum path = .error e ∧ runDiskImagePath host path cluster =
        (.error e, { cluster with diskImage.distro := (DiskImage.isKnownImage path).2 })) := by
  unfold runDiskImagePath Host.VerifiesImage
  by_cases hext : extension path = ".iso"
  · rw [if_neg (not_not.mpr hext), run_update_bind]
    by_cases hknown : (DiskImage.isKnownImage path).1 = true
    · rw [if_pos hknown]
      cases hverified : host.hasVerifiedChecksum path with
      | ok verified => exact .inr (.inl ⟨hext, fun _ => ⟨verified, rfl⟩, rfl⟩)
      | error e => exact .inr (.inr ⟨hext, by simp [hknown], e, rfl, rfl⟩)
    · rw [if_neg hknown]
      exact .inr (.inl ⟨hext, fun h => absurd h hknown, rfl⟩)
  · rw [if_pos hext]
    exact .inl ⟨hext, _, rfl, rfl⟩

theorem setDiskImagePath_eq_ok :
    cluster.setDiskImagePath host path = .ok r ↔
      extension path = ".iso" ∧ host.VerifiesImage path ∧
        r = { cluster with diskImage := ⟨path, (DiskImage.isKnownImage path).2⟩ } := by
  unfold setDiskImagePath result
  rcases runDiskImagePath_cases host path cluster with ⟨hext, e, -, hrun⟩ | ⟨hext, hverifies, hrun⟩ |
    ⟨hext, hverifies, e, -, hrun⟩
  · simp [hrun, hext]
  · simp [hrun, hext, hverifies, eq_comm]
  · simp [hrun, hverifies]

/-- A path is refused, or its image cannot be verified, or it is set. -/
theorem runDiskImage_cases (host : Host) (path : String) (cluster : Cluster) :
    (¬ host.ReachesImage path ∧ ∃ e, e.kind = .runtimeError ∧
      runDiskImage host path cluster = (.error e, cluster)) ∨
    (host.AcceptsImage path ∧ runDiskImage host path cluster =
      (.ok (), { cluster with
        diskImage := ⟨path, (DiskImage.isKnownImage path).2⟩
        pendingDiskImageDownloadURL := none })) ∨
    (host.ReachesImage path ∧ ¬ host.VerifiesImage path ∧ ∃ e,
      host.hasVerifiedChecksum path = .error e ∧ runDiskImage host path cluster =
        (.error e, { cluster with diskImage.distro := (DiskImage.isKnownImage path).2 })) := by
  unfold Host.AcceptsImage Host.ReachesImage
  by_cases hfound : host.pathStatus path = .found ∨ host.dryRun = true ∨
      host.pathStatus path = .permissionDenied
  · have haccept : runDiskImage host path cluster = (do
        runDiskImagePath host path
        update clearPendingDiskImageDownload : Program Cluster Exception Unit) cluster := by
      unfold runDiskImage
      cases hstatus : host.pathStatus path <;> cases hdry : host.dryRun <;>
        simp_all
    rw [haccept]
    rcases runDiskImagePath_cases host path cluster with ⟨hext, e, hkind, hrun⟩ |
      ⟨hext, hverifies, hrun⟩ | ⟨hext, hverifies, e, herror, hrun⟩
    · exact .inl ⟨fun h => hext h.1, e, hkind, run_bind_of_raises hrun⟩
    · exact .inr (.inl ⟨⟨⟨hext, hfound⟩, hverifies⟩, run_bind_of_returns hrun⟩)
    · exact .inr (.inr ⟨⟨hext, hfound⟩, hverifies, e, herror, run_bind_of_raises hrun⟩)
  · refine .inl ⟨fun h => hfound h.2, ?_⟩
    unfold runDiskImage
    cases hstatus : host.pathStatus path with
    | found => exact absurd (.inl hstatus) hfound
    | permissionDenied => exact absurd (.inr (.inr hstatus)) hfound
    | missing =>
      have hdry : ¬ host.dryRun = true := fun hdry => hfound (.inr (.inl hdry))
      dsimp only
      rw [if_neg hdry]
      exact ⟨_, rfl, rfl⟩
    | failed message =>
      have hdry : ¬ host.dryRun = true := fun hdry => hfound (.inr (.inl hdry))
      dsimp only
      rw [if_neg hdry]
      exact ⟨_, rfl, rfl⟩

theorem setDiskImage_eq_ok :
    cluster.setDiskImage host path = .ok r ↔
      host.AcceptsImage path ∧ r = { cluster with
        diskImage := ⟨path, (DiskImage.isKnownImage path).2⟩
        pendingDiskImageDownloadURL := none } := by
  unfold setDiskImage result
  rcases runDiskImage_cases host path cluster with ⟨hreaches, e, -, hrun⟩ | ⟨haccepts, hrun⟩ |
    ⟨hreaches, hverifies, e, -, hrun⟩
  · simp [hrun, Host.AcceptsImage, hreaches]
  · simp [hrun, haccepts, eq_comm]
  · simp [hrun, Host.AcceptsImage, hverifies]

end DiskImage

end Cluster

end OpenCattus
