import OpenCattus.Cluster.RoundTrip
import Mathlib.Data.List.Perm.Subperm

/-!
# The SLURM role

The role writes one `NodeName` line for every node of the answerfile and one partition over
`prefix[01-NN]`, where `NN` is the number of nodes. The line takes the topology of the
generic node.

`run_eq` is the configuration of a loaded answerfile, and `partition_covers_iff` says for
which answerfiles it agrees with the nodes.
-/

namespace OpenCattus

open Foundations Foundations.Text Foundations.Inet

namespace SlurmRole

/-! ## The configuration -/

/-- The arguments of `buildNodeDeclaration`. -/
structure NodeDeclaration where
  nodeName : String
  nodeAddress : String
  cpusPerNode : String
  sockets : String
  realMemory : String
  coresPerSocket : String
  threadsPerCore : String
  deriving DecidableEq, Repr

def buildNodeDeclaration (d : NodeDeclaration) : String :=
  "NodeName=" ++ d.nodeName ++ " NodeAddr=" ++ d.nodeAddress ++ " NodeHostName=" ++ d.nodeName ++
    " CPUs=" ++ d.cpusPerNode ++ " Sockets=" ++ d.sockets ++ " RealMemory=" ++ d.realMemory ++
    " CoresPerSocket=" ++ d.coresPerSocket ++ " ThreadsPerCore=" ++ d.threadsPerCore ++
    " State=UNKNOWN"

/-- The partition: its name and the numbers after the prefix, from one on. -/
structure Partition where
  partitionName : String
  nodePrefix : String
  lastNodeNum : Nat
  deriving DecidableEq, Repr

namespace Partition

/-- The `Nodes` expression. -/
def nodesExpression (p : Partition) : String :=
  p.nodePrefix ++ "[01-" ++ padZero 2 p.lastNodeNum ++ "]"

def line (p : Partition) : String :=
  "PartitionName=" ++ p.partitionName ++ " Nodes=" ++ p.nodesExpression ++
    " Default=YES MaxTime=INFINITE State=UP"

/-- The host names that the expression denotes: SLURM pads the numbers of a bracketed range
to the width of its lower bound. -/
def hosts (p : Partition) : List String :=
  (List.range' 1 p.lastNodeNum).map fun i => p.nodePrefix ++ padZero 2 i

end Partition

/-- What the role appends to `slurm.conf`. -/
structure SlurmConf where
  accountingStorageHost : String
  nodeDeclarations : List NodeDeclaration
  partition : Partition
  deriving DecidableEq, Repr

def SlurmConf.text (conf : SlurmConf) : String :=
  "# START AUTO-GENERATED NODE CONFIG\n" ++
    "AccountingStorageType=accounting_storage/slurmdbd\n" ++
    "AccountingStorageHost=" ++ conf.accountingStorageHost ++ "\n" ++
    "AccountingStoragePort=6819\n" ++
    "JobAcctGatherType=jobacct_gather/cgroup\n" ++
    String.intercalate "\n" (conf.nodeDeclarations.map buildNodeDeclaration) ++ "\n" ++
    conf.partition.line ++ "\n" ++
    "# END AUTO-GENERATED NODE CONFIG\n"

/-! ## The role -/

/-- `AFNodes::nodesNames`; `index` counts the nodes before. -/
def nodesNames : List AFNode → Nat → Result (List String)
  | [], _ => .ok []
  | node :: nodes, index => do
    let name ← unwrap node.hostname ("hostname missing for node " ++ decimal (index + 1))
    let names ← nodesNames nodes (index + 1)
    .ok (name :: names)

def abortif (cond : Bool) (message : String) : Result Unit :=
  if cond then runtimeError message else .ok ()

section

variable [Inet6]

/-- The loop over the nodes; every line is `common` with the name and the address. -/
def nodeDeclarations (common : NodeDeclaration) : List AFNode → Nat → Result (List NodeDeclaration)
  | [], _ => .ok []
  | node :: nodes, index => do
    let nodeName ← unwrap node.hostname ("hostname missing for node " ++ decimal (index + 1))
    let nodeAddress ← unwrap node.startIp ("node_ip missing for node " ++ nodeName)
    let rest ← nodeDeclarations common nodes (index + 1)
    .ok ({ common with nodeName, nodeAddress := nodeAddress.toText } :: rest)

def run (path : String) (af : AnswerFile) : Result SlurmConf := do
  let nodesNames ← nodesNames af.nodes.nodes 0
  abortif (nodesNames.length < 1)
    ("At last one node need to be defined in the answerfile " ++ path)
  let nodesConfig ← unwrap af.nodes.generic
    ("[node] section not loaded or missing from the answerfile " ++ path)
  let nodesPrefix ← unwrap nodesConfig.nodePrefix (missing "prefix")
  let cpusPerNode ← unwrap nodesConfig.cpusPerNode (missing "cpus_per_node")
  let realMemory ← unwrap nodesConfig.realMemory (missing "real_memory")
  let coresPerSocket ← unwrap nodesConfig.coresPerSocket (missing "cores_per_socket")
  let threadsPerCore ← unwrap nodesConfig.threadsPerCore (missing "threads_per_core")
  let sockets ← unwrap nodesConfig.sockets (missing "sockets")
  let declarations ← nodeDeclarations
    { nodeName := "", nodeAddress := "", cpusPerNode, sockets, realMemory, coresPerSocket
      threadsPerCore } af.nodes.nodes 0
  .ok
    { accountingStorageHost := af.hostname.hostname
      nodeDeclarations := declarations
      partition :=
        { partitionName := af.slurm.partitionName
          nodePrefix := nodesPrefix
          lastNodeNum := nodesNames.length } }
where
  missing (key : String) : String :=
    key ++ " missing in [node] section in the answerfile " ++ path

end

/-! ## What the configuration should say -/

/-- The value of a numeric field. -/
def count (value : Option String) : Option Nat := value.bind parseDigits

/-- A line declares the node with its own topology, and all of its threads as CPUs. -/
structure Declares (node : AFNode) (d : NodeDeclaration) : Prop where
  name : node.hostname = some d.nodeName
  sockets : count (some d.sockets) = count node.sockets
  coresPerSocket : count (some d.coresPerSocket) = count node.coresPerSocket
  threadsPerCore : count (some d.threadsPerCore) = count node.threadsPerCore
  cpus : ∃ sockets cores threads, count node.sockets = some sockets ∧
    count node.coresPerSocket = some cores ∧ count node.threadsPerCore = some threads ∧
      count (some d.cpusPerNode) = some (sockets * cores * threads)

structure SelfConsistent (af : AnswerFile) (defaultQueue : String) (conf : SlurmConf) : Prop where
  partition : ∀ host, host ∈ conf.partition.hosts ↔
    ∃ d ∈ conf.nodeDeclarations, d.nodeName = host
  declared : List.Forall₂ Declares af.nodes.nodes conf.nodeDeclarations
  queue : conf.partition.partitionName = defaultQueue

/-- The nodes are called by the prefix and two digits, without gaps, and have the topology of
the generic node, whose CPUs are its threads. -/
structure Uniform (af : AnswerFile) (generic : AFNode) : Prop where
  named : ∀ node ∈ af.nodes.nodes, ∃ i, 1 ≤ i ∧ i ≤ af.nodes.nodes.length ∧
    node.hostname = some (generic.nodePrefix.getD "" ++ padZero 2 i)
  sockets : ∀ node ∈ af.nodes.nodes, count node.sockets = count generic.sockets
  coresPerSocket : ∀ node ∈ af.nodes.nodes, count node.coresPerSocket = count generic.coresPerSocket
  threadsPerCore : ∀ node ∈ af.nodes.nodes, count node.threadsPerCore = count generic.threadsPerCore
  cpus : ∃ sockets cores threads, count generic.sockets = some sockets ∧
    count generic.coresPerSocket = some cores ∧ count generic.threadsPerCore = some threads ∧
      count generic.cpusPerNode = some (sockets * cores * threads)

/-! ## The configuration of a loaded answerfile -/

section

variable [Inet6]

/-- The line of a node. -/
def declarationOf (generic node : AFNode) : NodeDeclaration where
  nodeName := node.hostname.getD ""
  nodeAddress := (node.startIp.getD default).toText
  cpusPerNode := generic.cpusPerNode.getD ""
  sockets := generic.sockets.getD ""
  realMemory := generic.realMemory.getD ""
  coresPerSocket := generic.coresPerSocket.getD ""
  threadsPerCore := generic.threadsPerCore.getD ""

def confOf (af : AnswerFile) (generic : AFNode) : SlurmConf where
  accountingStorageHost := af.hostname.hostname
  nodeDeclarations := af.nodes.nodes.map (declarationOf generic)
  partition :=
    { partitionName := af.slurm.partitionName
      nodePrefix := generic.nodePrefix.getD ""
      lastNodeNum := af.nodes.nodes.length }

omit [Inet6] in
theorem nodesNames_eq {nodes : List AFNode} (h : ∀ node ∈ nodes, node.hostname.isSome = true)
    (index : Nat) : nodesNames nodes index = .ok (nodes.map (·.hostname.getD "")) := by
  induction nodes generalizing index with
  | nil => rfl
  | cons node nodes ih =>
    obtain ⟨name, hname⟩ := Option.isSome_iff_exists.mp (h node List.mem_cons_self)
    rw [nodesNames, ih fun n hn => h n (.tail _ hn)]
    simp [hname, unwrap]

theorem nodeDeclarations_eq {common : NodeDeclaration} {nodes : List AFNode}
    (hnames : ∀ node ∈ nodes, node.hostname.isSome = true)
    (haddresses : ∀ node ∈ nodes, node.startIp.isSome = true) (index : Nat) :
    nodeDeclarations common nodes index =
      .ok (nodes.map fun node =>
        { common with
          nodeName := node.hostname.getD ""
          nodeAddress := (node.startIp.getD default).toText }) := by
  induction nodes generalizing index with
  | nil => rfl
  | cons node nodes ih =>
    obtain ⟨name, hname⟩ := Option.isSome_iff_exists.mp (hnames node List.mem_cons_self)
    obtain ⟨address, haddress⟩ := Option.isSome_iff_exists.mp (haddresses node List.mem_cons_self)
    rw [nodeDeclarations, ih (fun n hn => hnames n (.tail _ hn)) fun n hn => haddresses n (.tail _ hn)]
    simp [hname, haddress, unwrap]

omit [Inet6] in
theorem isSome_of_hasText {value : Option String} (h : hasText value = true) :
    value.isSome = true := by
  cases value with
  | none => simp [hasText] at h
  | some text => rfl

theorem hostname_isSome {nodes : AFNodes} (h : nodes.Loaded) :
    ∀ node ∈ nodes.nodes, node.hostname.isSome = true :=
  fun node hnode => isSome_of_hasText (h.named node hnode).hostname

theorem startIp_isSome {nodes : AFNodes} (h : nodes.Loaded) :
    ∀ node ∈ nodes.nodes, node.startIp.isSome = true := by
  intro node hnode
  have hip := (h.resolved hnode).startIp
  cases hstart : node.startIp with
  | none => simp [hstart, isSpecified] at hip
  | some ip => rfl

theorem run_eq {af : AnswerFile} {generic : AFNode} (h : af.nodes.Loaded)
    (hgeneric : af.nodes.generic = some generic) (hne : af.nodes.nodes ≠ []) (path : String) :
    run path af = .ok (confOf af generic) := by
  obtain ⟨found, hfound, hloadable, -, -⟩ := h.generic
  obtain rfl : generic = found := Option.some.inj (hgeneric.symm.trans hfound)
  obtain ⟨nodePrefix, hprefix⟩ := Option.isSome_iff_exists.mp hloadable.nodePrefix
  obtain ⟨cpus, hcpus, -⟩ := (Option.any_eq_true _ _).mp hloadable.cpusPerNode
  obtain ⟨memory, hmemory, -⟩ := (Option.any_eq_true _ _).mp hloadable.realMemory
  obtain ⟨cores, hcores, -⟩ := (Option.any_eq_true _ _).mp hloadable.coresPerSocket
  obtain ⟨threads, hthreads, -⟩ := (Option.any_eq_true _ _).mp hloadable.threadsPerCore
  obtain ⟨sockets, hsockets, -⟩ := (Option.any_eq_true _ _).mp hloadable.sockets
  have hlength : ¬ (af.nodes.nodes.map (·.hostname.getD "")).length < 1 := by
    have hpos := List.length_pos_iff.mpr hne
    rw [List.length_map]
    omega
  unfold run
  rw [nodesNames_eq (hostname_isSome h),
    except_ok_bind, abortif, if_neg (by simpa using hlength), except_ok_bind, hgeneric]
  simp only [unwrap, except_ok_bind, hprefix, hcpus, hmemory, hcores, hthreads, hsockets,
    nodeDeclarations_eq (hostname_isSome h) (startIp_isSome h), List.length_map]
  simp [confOf, declarationOf, hprefix, hcpus, hmemory, hcores, hthreads, hsockets]

end

/-! ## The partition -/

/-- As many different names as the range has numbers are all of them. -/
theorem hosts_iff_named (name nodePrefix : String) {names : List String} (hnodup : names.Nodup) :
    (∀ host, host ∈ Partition.hosts ⟨name, nodePrefix, names.length⟩ ↔ host ∈ names) ↔
      ∀ host ∈ names, ∃ i, 1 ≤ i ∧ i ≤ names.length ∧ host = nodePrefix ++ padZero 2 i := by
  have hmem : ∀ host, host ∈ Partition.hosts ⟨name, nodePrefix, names.length⟩ ↔
      ∃ i, 1 ≤ i ∧ i ≤ names.length ∧ host = nodePrefix ++ padZero 2 i := by
    intro host
    simp only [Partition.hosts, List.mem_map, List.mem_range'_1]
    constructor
    · rintro ⟨i, ⟨hlow, hhigh⟩, rfl⟩
      exact ⟨i, hlow, by omega, rfl⟩
    · rintro ⟨i, hlow, hhigh, rfl⟩
      exact ⟨i, ⟨hlow, by omega⟩, rfl⟩
  constructor
  · intro h host hhost
    exact (hmem host).mp ((h host).mpr hhost)
  · intro h
    have hsubset : names ⊆ Partition.hosts ⟨name, nodePrefix, names.length⟩ :=
      fun host hhost => (hmem host).mpr (h host hhost)
    have hlength : (Partition.hosts ⟨name, nodePrefix, names.length⟩).length ≤ names.length := by
      simp [Partition.hosts]
    have hperm := (List.subperm_of_subset hnodup hsubset).perm_of_length_le hlength
    exact fun host => hperm.mem_iff.symm

/-! ## The topology -/

/-- One node is enough to fix the CPUs of the generic node. -/
theorem declares_iff [Inet6] {af : AnswerFile} {generic : AFNode} (h : af.nodes.Loaded)
    (hgeneric : generic.LoadableGeneric) (hne : af.nodes.nodes ≠ []) :
    List.Forall₂ Declares af.nodes.nodes (af.nodes.nodes.map (declarationOf generic)) ↔
      (∀ node ∈ af.nodes.nodes, count node.sockets = count generic.sockets ∧
        count node.coresPerSocket = count generic.coresPerSocket ∧
          count node.threadsPerCore = count generic.threadsPerCore) ∧
        ∃ sockets cores threads, count generic.sockets = some sockets ∧
          count generic.coresPerSocket = some cores ∧ count generic.threadsPerCore = some threads ∧
            count generic.cpusPerNode = some (sockets * cores * threads) := by
  have hsome : ∀ {value : Option String}, value.any (isUnsigned false) = true →
      some (value.getD "") = value := by
    intro value hvalue
    obtain ⟨text, htext, -⟩ := (Option.any_eq_true _ _).mp hvalue
    rw [htext]
    rfl
  have hs : some (generic.sockets.getD "") = generic.sockets := hsome hgeneric.sockets
  have hc : some (generic.coresPerSocket.getD "") = generic.coresPerSocket :=
    hsome hgeneric.coresPerSocket
  have ht : some (generic.threadsPerCore.getD "") = generic.threadsPerCore :=
    hsome hgeneric.threadsPerCore
  have hcpus : some (generic.cpusPerNode.getD "") = generic.cpusPerNode :=
    hsome hgeneric.cpusPerNode
  rw [List.forall₂_map_right_iff, List.forall₂_same]
  constructor
  · intro hall
    have hsame : ∀ node ∈ af.nodes.nodes, count node.sockets = count generic.sockets ∧
        count node.coresPerSocket = count generic.coresPerSocket ∧
          count node.threadsPerCore = count generic.threadsPerCore := by
      intro node hnode
      obtain ⟨-, h₁, h₂, h₃, -⟩ := hall node hnode
      rw [declarationOf, hs] at h₁
      rw [declarationOf, hc] at h₂
      rw [declarationOf, ht] at h₃
      exact ⟨h₁.symm, h₂.symm, h₃.symm⟩
    refine ⟨hsame, ?_⟩
    obtain ⟨node, hnode⟩ := List.exists_mem_of_ne_nil _ hne
    obtain ⟨h₁, h₂, h₃⟩ := hsame node hnode
    obtain ⟨sockets, cores, threads, g₁, g₂, g₃, g₄⟩ := (hall node hnode).cpus
    rw [declarationOf, hcpus] at g₄
    exact ⟨sockets, cores, threads, h₁ ▸ g₁, h₂ ▸ g₂, h₃ ▸ g₃, g₄⟩
  · rintro ⟨hsame, sockets, cores, threads, g₁, g₂, g₃, g₄⟩ node hnode
    obtain ⟨h₁, h₂, h₃⟩ := hsame node hnode
    obtain ⟨name, hname⟩ := Option.isSome_iff_exists.mp (hostname_isSome h node hnode)
    exact
      { name := by rw [declarationOf, hname]; rfl
        sockets := by rw [declarationOf, hs, h₁]
        coresPerSocket := by rw [declarationOf, hc, h₂]
        threadsPerCore := by rw [declarationOf, ht, h₃]
        cpus := ⟨sockets, cores, threads, h₁.trans g₁, h₂.trans g₂, h₃.trans g₃,
          by rw [declarationOf, hcpus, g₄]⟩ }

/-- The partition has the declared hosts when the names are dense. -/
theorem hosts_confOf_iff [Inet6] {af : AnswerFile} (generic : AFNode) (h : af.nodes.Loaded) :
    (∀ host, host ∈ (confOf af generic).partition.hosts ↔
      ∃ d ∈ (confOf af generic).nodeDeclarations, d.nodeName = host) ↔
        ∀ node ∈ af.nodes.nodes, ∃ i, 1 ≤ i ∧ i ≤ af.nodes.nodes.length ∧
          node.hostname = some (generic.nodePrefix.getD "" ++ padZero 2 i) := by
  have hnames := hosts_iff_named af.slurm.partitionName (generic.nodePrefix.getD "") h.nodup_hostnames
  rw [List.length_map] at hnames
  simp only [List.mem_map] at hnames
  have hdeclared : ∀ host, (∃ d ∈ (confOf af generic).nodeDeclarations, d.nodeName = host) ↔
      ∃ node ∈ af.nodes.nodes, node.hostname.getD "" = host := by
    intro host
    simp [confOf, declarationOf]
  simp only [hdeclared]
  refine hnames.trans ⟨?_, ?_⟩
  · intro hall node hnode
    obtain ⟨i, hlow, hhigh, hname⟩ := hall _ ⟨node, hnode, rfl⟩
    obtain ⟨text, htext⟩ := Option.isSome_iff_exists.mp (hostname_isSome h node hnode)
    rw [htext] at hname
    exact ⟨i, hlow, hhigh, htext.trans (congrArg some hname)⟩
  · rintro hall _ ⟨node, hnode, rfl⟩
    obtain ⟨i, hlow, hhigh, hname⟩ := hall node hnode
    exact ⟨i, hlow, hhigh, by rw [hname]; rfl⟩

theorem selfConsistent_iff [Inet6] {af : AnswerFile} {generic : AFNode} {queue : String}
    (h : af.nodes.Loaded) (hgeneric : generic.LoadableGeneric) (hne : af.nodes.nodes ≠ []) :
    SelfConsistent af queue (confOf af generic) ↔
      Uniform af generic ∧ af.slurm.partitionName = queue := by
  have hnodes := hosts_confOf_iff generic h
  constructor
  · rintro ⟨hpartition, hdeclared, hqueue⟩
    obtain ⟨hsame, hcpus⟩ := (declares_iff h hgeneric hne).mp hdeclared
    exact ⟨⟨hnodes.mp hpartition, fun node hnode => (hsame node hnode).1,
      fun node hnode => (hsame node hnode).2.1, fun node hnode => (hsame node hnode).2.2, hcpus⟩,
      hqueue⟩
  · rintro ⟨⟨hnamed, h₁, h₂, h₃, hcpus⟩, hqueue⟩
    exact ⟨hnodes.mpr hnamed, (declares_iff h hgeneric hne).mpr
      ⟨fun node hnode => ⟨h₁ node hnode, h₂ node hnode, h₃ node hnode⟩, hcpus⟩, hqueue⟩

/-- The nodes and the partition name of a loaded file. -/
theorem loaded_parts [Inet6] {kf : KeyFile} {dryRun : Bool} {af : AnswerFile}
    (h : loadOptions kf dryRun = .ok af) :
    af.nodes.Loaded ∧ (af.slurm.enabled = false → af.slurm.partitionName = "") := by
  unfold loadOptions at h
  simp only [except_bind_ok] at h
  obtain ⟨_, -, _, -, _, -, _, -, _, -, _, -, _, -, _, -, _, -, _, -, nodes, hnodes, _, -, _, -,
    slurm, hslurm, _, -, _, -, h⟩ := h
  obtain rfl := Except.ok.inj h
  refine ⟨loadNodes_loaded hnodes, ?_⟩
  unfold loadSlurm at hslurm
  split at hslurm
  · simp only [except_bind_ok] at hslurm
    obtain ⟨_, -, _, -, _, -, _, -, hslurm⟩ := hslurm
    obtain rfl := Except.ok.inj hslurm
    intro hdisabled
    cases hdisabled
  · obtain rfl := Except.ok.inj hslurm
    exact fun _ => rfl

/-- `sampleKeyFile` with SLURM and with its node under another number. -/
def slurmGroups (nodeSection : String) : List (String × List (String × String)) :=
  sampleKeyFile.data.groups.dropLast ++
    [("slurm", [("mariadb_root_password", "a"), ("slurmdb_password", "b"),
      ("storage_password", "c"), ("partition_name", "batch")]),
    (nodeSection, [("mac_address", "aa:bb:cc:dd:ee:01"), ("node_ip", "192.168.1.11")])]

def denseKeyFile : KeyFile where
  path := "answerfile.ini"
  data := { groups := slurmGroups "node.1", nodup := by decide }

/-- The first node is commented out. -/
def sparseKeyFile : KeyFile where
  path := "answerfile.ini"
  data := { groups := slurmGroups "node.2", nodup := by decide }

/-- What the two files are loaded as. -/
def slurmAnswerFile (hostname : String) : AnswerFile :=
  { sampleAnswerFile with
    nodes :=
      { sampleAnswerFile.nodes with
        nodes := sampleAnswerFile.nodes.nodes.map fun node => { node with hostname := some hostname } }
    slurm :=
      { enabled := true
        mariadbRootPassword := "a"
        slurmdbPassword := "b"
        storagePassword := "c"
        partitionName := "batch" } }

theorem loadOptions_denseKeyFile :
    @loadOptions plainInet6 denseKeyFile false = .ok (slurmAnswerFile "n01") := by
  decide

end SlurmRole

end OpenCattus
