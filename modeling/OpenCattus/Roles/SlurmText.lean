import OpenCattus.Foundations.Lines
import OpenCattus.Roles.Slurm

/-!
# The text of the SLURM role

The role appends one line for every node and one for the partition to `slurm.conf`. SLURM reads a
line as assignments, and `prefix[01-NN]` as the hosts with these numbers.

`hosts_text` says that the names and the hosts that are read are the ones the role meant, and
`partition_text_iff` says for which answerfiles they are the same.
-/

namespace OpenCattus

open Foundations Foundations.Text Foundations.Inet

namespace SlurmRole

/-! ## Reading the text -/

/-- The hosts of `prefix[first-last]`, whose numbers are as wide as `first`; an expression without
a bracket is one host. -/
def hostsOf (expression : String) : List String :=
  if '[' ∈ expression.toList then
    let range := beforeFirst ']' (afterFirst '[' expression)
    let first := beforeFirst '-' range
    match parseDigits first, parseDigits (afterFirst '-' range) with
    | some low, some high =>
      (List.range' low (high + 1 - low)).map fun i =>
        beforeFirst '[' expression ++ padZero first.length i
    | _, _ => []
  else [expression]

/-- The value that a line of words gives to a key. -/
def valueOf (key : String) (line : String) : Option String :=
  ((split (· = ' ') line).find? fun word => beforeFirst '=' word = key).map (afterFirst '=')

def readLines (text : String) : List String := (linesOf text.toList).map String.ofList

def declaredNames (text : String) : List String := (readLines text).filterMap (valueOf "NodeName")

def partitionHosts (text : String) : List String :=
  ((readLines text).filterMap (valueOf "Nodes")).flatMap hostsOf

/-- A value that ends neither its word nor its line. -/
def IsWord (s : String) : Prop := ∀ c ∈ s.toList, c ≠ ' ' ∧ c ≠ '\n'

/-- What a line assigns. -/
def NodeDeclaration.entries (d : NodeDeclaration) : List (String × String) :=
  [("NodeName", d.nodeName), ("NodeAddr", d.nodeAddress), ("NodeHostName", d.nodeName),
    ("CPUs", d.cpusPerNode), ("Sockets", d.sockets), ("RealMemory", d.realMemory),
    ("CoresPerSocket", d.coresPerSocket), ("ThreadsPerCore", d.threadsPerCore),
    ("State", "UNKNOWN")]

def Partition.entries (p : Partition) : List (String × String) :=
  [("PartitionName", p.partitionName), ("Nodes", p.nodesExpression), ("Default", "YES"),
    ("MaxTime", "INFINITE"), ("State", "UP")]

/-- The values do not disturb the text around them. -/
structure SlurmConf.Plain (conf : SlurmConf) : Prop where
  accountingStorageHost : IsWord conf.accountingStorageHost
  declarations : ∀ d ∈ conf.nodeDeclarations, ∀ e ∈ d.entries, IsWord e.2
  partitionName : IsWord conf.partition.partitionName
  nodePrefix : IsWord conf.partition.nodePrefix
  bracket : '[' ∉ conf.partition.nodePrefix.toList

/-- The expression denotes the hosts of the partition. -/
theorem hostsOf_nodesExpression {p : Partition} (h : '[' ∉ p.nodePrefix.toList) :
    hostsOf p.nodesExpression = p.hosts := by
  have hdigit : ∀ c, c.isDigit = false → c ∉ (padZero 2 p.lastNodeNum).toList := by
    intro c hc hmem
    rw [isDigit_of_mem_padZero hmem] at hc
    cases hc
  have hsplit : p.nodesExpression =
      p.nodePrefix ++ "[" ++ ("01" ++ "-" ++ padZero 2 p.lastNodeNum ++ "]" ++ "") := by
    simp only [Partition.nodesExpression, String.append_assoc, String.append_empty]
    rfl
  have hclean : ']' ∉ ("01" ++ "-" ++ padZero 2 p.lastNodeNum).toList := by
    simp only [String.toList_append, List.mem_append, not_or]
    exact ⟨⟨by decide, by decide⟩, hdigit ']' (by decide)⟩
  have hbracket : '[' ∈ p.nodesExpression.toList := by simp [Partition.nodesExpression]
  unfold hostsOf
  rw [if_pos hbracket, hsplit, afterFirst_append rfl h, beforeFirst_append rfl h,
    beforeFirst_append rfl hclean]
  dsimp only
  rw [beforeFirst_append rfl (by decide), afterFirst_append rfl (by decide), parseDigits_padZero]
  rfl

/-- A line of assignments. -/
def assignments (entries : List (String × String)) : String :=
  " ".intercalate (entries.map fun e => e.1 ++ "=" ++ e.2)

/-- Keys and values that can be told apart. -/
def AreWords (entries : List (String × String)) : Prop :=
  ∀ e ∈ entries, (IsWord e.1 ∧ '=' ∉ e.1.toList) ∧ IsWord e.2

theorem isWord_assignment {key value : String} (hkey : IsWord key) (hvalue : IsWord value) :
    IsWord (key ++ "=" ++ value) := by
  intro c hc
  simp only [String.toList_append, List.mem_append] at hc
  rcases hc with (hc | hc) | hc
  · exact hkey c hc
  · obtain rfl := List.mem_singleton.mp hc
    decide
  · exact hvalue c hc

/-- A line of assignments gives the value of the first one with the key. -/
theorem valueOf_assignments {entries : List (String × String)} (hne : entries ≠ [])
    (h : AreWords entries) (key : String) :
    valueOf key (assignments entries) = (entries.find? (·.1 = key)).map Prod.snd := by
  have htokens : IsTokens (fun c => decide (c = ' '))
      ((entries.map fun e => e.1 ++ "=" ++ e.2).map String.toList) := by
    refine isTokens_of_forall (by simpa using hne) fun t ht => ?_
    simp only [List.map_map, List.mem_map, Function.comp_apply] at ht
    obtain ⟨e, he, rfl⟩ := ht
    obtain ⟨⟨hkey, -⟩, hvalue⟩ := h e he
    exact ⟨by simp, fun c hc => decide_eq_false (isWord_assignment hkey hvalue c hc).1⟩
  unfold valueOf assignments
  rw [split_intercalate (by simp) (by decide) htokens]
  clear htokens hne
  induction entries with
  | nil => rfl
  | cons e entries ih =>
    obtain ⟨⟨⟨-, hclean⟩, -⟩, hrest⟩ := List.forall_mem_cons.mp h
    have hkey : beforeFirst '=' (e.1 ++ "=" ++ e.2) = e.1 := beforeFirst_append rfl hclean
    have hvalue : afterFirst '=' (e.1 ++ "=" ++ e.2) = e.2 := afterFirst_append rfl hclean
    rw [List.map_cons, List.find?_cons, List.find?_cons, hkey]
    cases decide (e.1 = key) with
    | true => exact congrArg some hvalue
    | false => exact ih hrest

theorem lineEnd_notMem_assignments {entries : List (String × String)} (h : AreWords entries) :
    '\n' ∉ (assignments entries).toList := by
  unfold assignments
  induction entries with
  | nil => simp
  | cons e entries ih =>
    obtain ⟨⟨⟨hkey, -⟩, hvalue⟩, hrest⟩ := List.forall_mem_cons.mp h
    have hfirst : '\n' ∉ (e.1 ++ "=" ++ e.2).toList :=
      fun hc => (isWord_assignment hkey hvalue _ hc).2 rfl
    cases entries with
    | nil => simpa using hfirst
    | cons e' entries =>
      rw [List.map_cons, List.map_cons, String.intercalate_cons_cons, String.toList_append,
        String.toList_append, List.mem_append, List.mem_append]
      rintro ((hc | hc) | hc)
      · exact hfirst hc
      · exact absurd hc (by decide)
      · exact ih hrest hc

theorem buildNodeDeclaration_eq (d : NodeDeclaration) :
    buildNodeDeclaration d = assignments d.entries := by
  apply String.toList_inj.mp
  unfold buildNodeDeclaration
  simp [assignments, NodeDeclaration.entries]

theorem Partition.line_eq (p : Partition) : p.line = assignments p.entries := by
  apply String.toList_inj.mp
  unfold Partition.line
  simp [assignments, Partition.entries]

theorem areWords_declaration {d : NodeDeclaration} (h : ∀ e ∈ d.entries, IsWord e.2) :
    AreWords d.entries := by
  have hkeys : ∀ key ∈ d.entries.map Prod.fst, IsWord key ∧ '=' ∉ key.toList := by
    simp [NodeDeclaration.entries, IsWord]
  exact fun e he => ⟨hkeys e.1 (List.mem_map_of_mem he), h e he⟩

theorem isWord_nodesExpression {p : Partition} (h : IsWord p.nodePrefix) :
    IsWord p.nodesExpression := by
  intro c hc
  simp only [Partition.nodesExpression, String.toList_append, List.mem_append] at hc
  rcases hc with ((hc | hc) | hc) | hc
  · exact h c hc
  · have hopen : IsWord "[01-" := by simp [IsWord]
    exact hopen c hc
  · have hdigit := isDigit_of_mem_padZero hc
    constructor
    · rintro rfl
      exact absurd hdigit (by decide)
    · rintro rfl
      exact absurd hdigit (by decide)
  · have hclose : IsWord "]" := by simp [IsWord]
    exact hclose c hc

theorem areWords_partition {p : Partition} (hname : IsWord p.partitionName)
    (hletters : IsWord p.nodePrefix) : AreWords p.entries := by
  have hnodes := isWord_nodesExpression hletters
  simp only [AreWords, Partition.entries, List.forall_mem_cons, List.not_mem_nil, false_imp_iff,
    implies_true, and_true, hname, hnodes]
  simp [IsWord]

/-! ## The lines of the text -/

def SlurmConf.lines (conf : SlurmConf) : List String :=
  ["# START AUTO-GENERATED NODE CONFIG", "AccountingStorageType=accounting_storage/slurmdbd",
    assignments [("AccountingStorageHost", conf.accountingStorageHost)],
    "AccountingStoragePort=6819", "JobAcctGatherType=jobacct_gather/cgroup"] ++
    conf.nodeDeclarations.map buildNodeDeclaration ++
    [conf.partition.line, "# END AUTO-GENERATED NODE CONFIG"]

theorem toList_intercalate_lines {ls : List String} (hne : ls ≠ []) :
    (String.intercalate "\n" ls ++ "\n").toList = ls.flatMap fun l => l.toList ++ ['\n'] := by
  induction ls with
  | nil => exact absurd rfl hne
  | cons l ls ih =>
    cases ls with
    | nil => simp
    | cons m ls =>
      rw [String.intercalate_cons_cons, List.flatMap_cons, ← ih (by simp)]
      simp

theorem SlurmConf.toList_text {conf : SlurmConf} (hne : conf.nodeDeclarations ≠ []) :
    conf.text.toList = conf.lines.flatMap fun l => l.toList ++ ['\n'] := by
  have hdeclarations := toList_intercalate_lines
    (List.map_eq_nil_iff.not.mpr hne : conf.nodeDeclarations.map buildNodeDeclaration ≠ [])
  have hstart : "# START AUTO-GENERATED NODE CONFIG\n".toList =
      "# START AUTO-GENERATED NODE CONFIG".toList ++ ['\n'] := by simp
  have htype : "AccountingStorageType=accounting_storage/slurmdbd\n".toList =
      "AccountingStorageType=accounting_storage/slurmdbd".toList ++ ['\n'] := by simp
  have hhost : "AccountingStorageHost=".toList =
      "AccountingStorageHost".toList ++ "=".toList := by simp
  have hport : "AccountingStoragePort=6819\n".toList =
      "AccountingStoragePort=6819".toList ++ ['\n'] := by simp
  have hgather : "JobAcctGatherType=jobacct_gather/cgroup\n".toList =
      "JobAcctGatherType=jobacct_gather/cgroup".toList ++ ['\n'] := by simp
  have hend : "# END AUTO-GENERATED NODE CONFIG\n".toList =
      "# END AUTO-GENERATED NODE CONFIG".toList ++ ['\n'] := by simp
  have hline : "\n".toList = ['\n'] := by simp
  unfold SlurmConf.text
  simp only [SlurmConf.lines, List.flatMap_append, ← hdeclarations, String.toList_append,
    List.flatMap_cons, List.flatMap_nil, List.append_assoc, List.append_nil, hstart, htype, hhost,
    hport, hgather, hend, hline, assignments, List.map_cons, List.map_nil,
    String.intercalate_singleton]

theorem areWords_host {host : String} (h : IsWord host) :
    AreWords [("AccountingStorageHost", host)] := by
  have hkey : IsWord "AccountingStorageHost" ∧ '=' ∉ "AccountingStorageHost".toList := by
    simp [IsWord]
  intro e he
  obtain rfl := List.mem_singleton.mp he
  exact ⟨hkey, h⟩

theorem SlurmConf.Plain.readLines_text {conf : SlurmConf} (h : conf.Plain)
    (hne : conf.nodeDeclarations ≠ []) : readLines conf.text = conf.lines := by
  have hclean : ∀ l ∈ conf.lines.map String.toList, '\n' ∉ l := by
    have hhost := lineEnd_notMem_assignments (areWords_host h.accountingStorageHost)
    have hpartition : '\n' ∉ conf.partition.line.toList := by
      rw [Partition.line_eq]
      exact lineEnd_notMem_assignments (areWords_partition h.partitionName h.nodePrefix)
    have hdeclared : ∀ d ∈ conf.nodeDeclarations, '\n' ∉ (buildNodeDeclaration d).toList := by
      intro d hd
      rw [buildNodeDeclaration_eq]
      exact lineEnd_notMem_assignments (areWords_declaration (h.declarations d hd))
    simp only [SlurmConf.lines, List.map_append, List.map_cons, List.map_nil, List.forall_mem_append,
      List.forall_mem_cons, List.map_map, List.forall_mem_map, Function.comp_apply, hhost,
      hpartition, not_false_eq_true, true_and]
    exact ⟨⟨by decide, hdeclared⟩, by decide⟩
  have htext : conf.text.toList = (conf.lines.map String.toList).flatMap (· ++ ['\n']) := by
    rw [SlurmConf.toList_text hne, List.flatMap_map]
  rw [readLines, htext, linesOf_flatMap hclean, List.map_map]
  simp [Function.comp_def]

/-- The values of a key that no line of the accounting has. -/
theorem SlurmConf.Plain.filterMap_lines {conf : SlurmConf} (h : conf.Plain) {key : String}
    (hkey : key ∈ ["NodeName", "Nodes"]) :
    conf.lines.filterMap (valueOf key) =
      conf.nodeDeclarations.filterMap (fun d => (d.entries.find? (·.1 = key)).map Prod.snd) ++
        ((conf.partition.entries.find? (·.1 = key)).map Prod.snd).toList := by
  have hdeclared : ∀ d ∈ conf.nodeDeclarations,
      valueOf key (buildNodeDeclaration d) = (d.entries.find? (·.1 = key)).map Prod.snd := by
    intro d hd
    rw [buildNodeDeclaration_eq]
    exact valueOf_assignments (by simp [NodeDeclaration.entries])
      (areWords_declaration (h.declarations d hd)) key
  have hpartition : valueOf key conf.partition.line =
      (conf.partition.entries.find? (·.1 = key)).map Prod.snd := by
    rw [Partition.line_eq]
    exact valueOf_assignments (by simp [Partition.entries])
      (areWords_partition h.partitionName h.nodePrefix) key
  have hhost : valueOf key (assignments [("AccountingStorageHost", conf.accountingStorageHost)]) =
      none := by
    rw [valueOf_assignments (by simp) (areWords_host h.accountingStorageHost)]
    rcases List.mem_pair.mp hkey with rfl | rfl <;> rfl
  have hfixed : ∀ key ∈ ["NodeName", "Nodes"], ∀ line ∈ ["# START AUTO-GENERATED NODE CONFIG",
      "AccountingStorageType=accounting_storage/slurmdbd", "AccountingStoragePort=6819",
      "JobAcctGatherType=jobacct_gather/cgroup", "# END AUTO-GENERATED NODE CONFIG"],
      valueOf key line = none := by
    decide
  have hnone := hfixed key hkey
  simp only [List.forall_mem_cons] at hnone
  obtain ⟨hstart, htype, hport, hgather, hend, -⟩ := hnone
  have hnodes : (conf.nodeDeclarations.map buildNodeDeclaration).filterMap (valueOf key) =
      conf.nodeDeclarations.filterMap fun d => (d.entries.find? (·.1 = key)).map Prod.snd := by
    rw [List.filterMap_map]
    refine List.filterMap_congr fun d hd => ?_
    rw [Function.comp_apply, hdeclared d hd]
  rw [SlurmConf.lines, List.filterMap_append, List.filterMap_append, hnodes]
  simp only [List.filterMap_cons, List.filterMap_nil, hstart, htype, hhost, hport, hgather, hend,
    hpartition, List.nil_append]
  cases (conf.partition.entries.find? (·.1 = key)).map Prod.snd <;> rfl

/-- The text declares the nodes, and its partition has the hosts of the partition. -/
theorem hosts_text {conf : SlurmConf} (h : conf.Plain) (hne : conf.nodeDeclarations ≠ []) :
    declaredNames conf.text = conf.nodeDeclarations.map (·.nodeName) ∧
      partitionHosts conf.text = conf.partition.hosts := by
  unfold declaredNames partitionHosts
  rw [h.readLines_text hne, h.filterMap_lines (by decide), h.filterMap_lines (by decide)]
  constructor
  · have hname : ∀ d : NodeDeclaration, (d.entries.find? (·.1 = "NodeName")).map Prod.snd =
        some d.nodeName := fun _ => rfl
    have hnone : conf.partition.entries.find? (·.1 = "NodeName") = none := rfl
    simp [hname, hnone]
  · have hnone : ∀ d : NodeDeclaration, (d.entries.find? (·.1 = "Nodes")).map Prod.snd = none :=
      fun _ => rfl
    have hnodes : (conf.partition.entries.find? (·.1 = "Nodes")).map Prod.snd =
      some conf.partition.nodesExpression := rfl
    simp [hnone, hnodes, hostsOf_nodesExpression h.bracket]

/-- The text of a loaded answerfile lists exactly the nodes that it declares when their names are
dense. -/
theorem partition_text_iff [Inet6] {af : AnswerFile} {generic : AFNode} (h : af.nodes.Loaded)
    (hne : af.nodes.nodes ≠ []) (hplain : (confOf af generic).Plain) :
    (∀ host, host ∈ partitionHosts (confOf af generic).text ↔
        host ∈ declaredNames (confOf af generic).text) ↔
      ∀ node ∈ af.nodes.nodes, ∃ i, 1 ≤ i ∧ i ≤ af.nodes.nodes.length ∧
        node.hostname = some (generic.nodePrefix.getD "" ++ padZero 2 i) := by
  have hdeclarations : (confOf af generic).nodeDeclarations ≠ [] := by simpa [confOf] using hne
  obtain ⟨hnames, hhosts⟩ := hosts_text hplain hdeclarations
  rw [hnames, hhosts]
  simpa only [List.mem_map] using hosts_confOf_iff generic h

end SlurmRole

end OpenCattus
