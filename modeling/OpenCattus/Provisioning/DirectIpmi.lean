import OpenCattus.Cluster.Types
import OpenCattus.Foundations.Quoting

/-!
# The direct IPMI fallback

The commands that are run on the BMCs themselves when a command of xCAT fails: `shellSingleQuote`
and the lines of the script. A string of bytes is a text that has a character for each byte.

`shell_quoting_exact` says which texts can be quoted, and how the quoted texts and the commands
with them are read.
-/

namespace OpenCattus

open Foundations Foundations.Shell

namespace XCAT

/-! ## The script -/

def appendQuoted (quoted : String) (chr : Char) : Result String :=
  if chr = '\'' then .ok (quoted ++ "'\"'\"'")
  else if chr = '\n' ∨ chr = '\r' then
    invalidArgument "Shell-quoted strings cannot contain newlines"
  else .ok (quoted.push chr)

def shellSingleQuote (value : String) : Result String := do
  let quoted ← value.toList.foldlM appendQuoted "'"
  .ok (quoted ++ "'")

def buildIpmitoolCommand (address username password subcommand : String) : Result String := do
  let address ← shellSingleQuote address
  let username ← shellSingleQuote username
  let password ← shellSingleQuote password
  .ok ("ipmitool -I lanplus -H " ++ address ++ " -U " ++ username ++ " -P " ++ password ++ " " ++
    subcommand)

def fallbackMessage (description hostname : String) : String :=
  "Trying direct IPMI fallback for " ++ description ++ " on " ++ hostname

/-- The body of the loop; the flag is `hasBMC`. -/
def appendDirectIpmi (description subcommand : String) (state : String × Bool) (node : Node) :
    Result (String × Bool) :=
  match node.bmc with
  | none => .ok state
  | some bmc => do
    let message ← shellSingleQuote (fallbackMessage description node.hostname)
    let command ← buildIpmitoolCommand bmc.address bmc.username bmc.password subcommand
    .ok (state.1 ++ ("echo " ++ message ++ "\n") ++ (command ++ " || rc=$?\n"), true)

/-- The script that is run; nothing is run, and 1 is returned, without a BMC. -/
def runDirectIpmiCommand (nodes : List Node) (description subcommand : String) :
    Result (Option String) := do
  let (script, hasBMC) ← nodes.foldlM (appendDirectIpmi description subcommand) ("rc=0\n", false)
  .ok (if hasBMC then some (script ++ "exit $rc\n") else none)

end XCAT

/-! ## What the lines say -/

section

variable [FileNamePatterns]

/-- A text without an end of line. -/
def Quotable (text : String) : Prop := '\n' ∉ text.toList ∧ '\r' ∉ text.toList

instance (text : String) : Decidable (Quotable text) :=
  inferInstanceAs (Decidable ('\n' ∉ text.toList ∧ '\r' ∉ text.toList))

def ipmitoolArguments (address username password : String) : List String :=
  ["ipmitool", "-I", "lanplus", "-H", address, "-U", username, "-P", password]

/-- The nodes that get lines, with their BMCs. -/
def bmcNodes (nodes : List Node) : List (Node × BMC) :=
  nodes.filterMap fun node => node.bmc.map fun bmc => (node, bmc)

def QuotableNode (description : String) (node : Node × BMC) : Prop :=
  Quotable (XCAT.fallbackMessage description node.1.hostname) ∧
    Quotable node.2.address ∧ Quotable node.2.username ∧ Quotable node.2.password

/-- The two lines of a node, as they are read in a script. -/
structure FallbackLines (description subcommand : String) (node : Node × BMC)
    (lines : String × String) : Prop where
  message : ∀ rest, firstCommand (lines.1.toList ++ '\n' :: rest) =
    some (["echo", XCAT.fallbackMessage description node.1.hostname], '\n' :: rest)
  command : ∀ words, wordsOf subcommand = some words → ∀ rest,
    firstCommand (lines.2.toList ++ '\n' :: rest) =
      some (ipmitoolArguments node.2.address node.2.username node.2.password ++ words,
        "|| rc=$?\n".toList ++ rest)

def joinLines (lines : List (String × String)) : String :=
  String.join (lines.map fun l => l.1 ++ "\n" ++ l.2 ++ "\n")

/-! ## The quoted text -/

omit [FileNamePatterns] in
/-- The loop stops at the first end of a line. -/
theorem foldlM_appendQuoted (quoted : String) (cs : List Char) :
    cs.foldlM XCAT.appendQuoted quoted =
      if '\n' ∉ cs ∧ '\r' ∉ cs then .ok (quoted ++ String.ofList (cs.flatMap quotedChar))
      else invalidArgument "Shell-quoted strings cannot contain newlines" := by
  induction cs generalizing quoted with
  | nil => simp [pure, Except.pure]
  | cons c cs ih =>
    rw [List.foldlM_cons]
    by_cases hend : c = '\n' ∨ c = '\r'
    · have hstep : XCAT.appendQuoted quoted c =
          invalidArgument "Shell-quoted strings cannot contain newlines" := by
        rw [XCAT.appendQuoted, if_neg, if_pos hend]
        rintro rfl
        revert hend
        decide
      have hmem : ¬ ('\n' ∉ c :: cs ∧ '\r' ∉ c :: cs) := by
        rcases hend with rfl | rfl
        · exact fun h => h.1 (List.mem_cons_self ..)
        · exact fun h => h.2 (List.mem_cons_self ..)
      rw [hstep, if_neg hmem]
      rfl
    · have hstep : XCAT.appendQuoted quoted c = .ok (quoted ++ String.ofList (quotedChar c)) := by
        rw [XCAT.appendQuoted, quotedChar]
        by_cases hquote : c = '\''
        · rw [if_pos hquote, if_pos hquote]
        · rw [if_neg hquote, if_neg hquote, if_neg hend, String.push_eq_append,
            String.singleton_eq_ofList]
      have hmem : ('\n' ∉ c :: cs ∧ '\r' ∉ c :: cs) ↔ ('\n' ∉ cs ∧ '\r' ∉ cs) := by
        obtain ⟨hn, hr⟩ := not_or.mp hend
        simp [Ne.symm hn, Ne.symm hr]
      rw [hstep]
      change cs.foldlM XCAT.appendQuoted (quoted ++ String.ofList (quotedChar c)) = _
      rw [ih, if_congr hmem rfl rfl, List.flatMap_cons, String.ofList_append, String.append_assoc]

omit [FileNamePatterns] in
theorem shellSingleQuote_eq (value : String) : XCAT.shellSingleQuote value =
    if Quotable value then .ok (String.ofList (singleQuoted value.toList))
    else invalidArgument "Shell-quoted strings cannot contain newlines" := by
  have hquoted : "'" ++ String.ofList (value.toList.flatMap quotedChar) ++ "'" =
      String.ofList (singleQuoted value.toList) := by
    apply String.toList_inj.mp
    simp [singleQuoted]
  rw [XCAT.shellSingleQuote, foldlM_appendQuoted]
  by_cases h : Quotable value
  · rw [if_pos h, ← hquoted, if_pos (show '\n' ∉ value.toList ∧ '\r' ∉ value.toList from h)]
    rfl
  · rw [if_neg h, if_neg (show ¬ ('\n' ∉ value.toList ∧ '\r' ∉ value.toList) from h)]
    rfl

omit [FileNamePatterns] in
theorem shellSingleQuote_eq_ok {value quoted : String} :
    XCAT.shellSingleQuote value = .ok quoted ↔
      Quotable value ∧ quoted = String.ofList (singleQuoted value.toList) := by
  rw [shellSingleQuote_eq]
  split
  · rename_i h
    simp [h, eq_comm]
  · rename_i h
    simp [h]

theorem readsAs_of_shellSingleQuote {value quoted : String}
    (h : XCAT.shellSingleQuote value = .ok quoted) : ReadsAs quoted.toList value := by
  obtain ⟨-, rfl⟩ := shellSingleQuote_eq_ok.mp h
  have hread := readsAs_singleQuoted value.toList
  rwa [String.ofList_toList, ← String.toList_ofList (l := singleQuoted value.toList)] at hread

/-! ## The commands -/

/-- The fixed words and the quoted texts, each with what it is read as. -/
def ipmitoolItems (address username password : String) : List (List Char × String) :=
  [("ipmitool".toList, "ipmitool"), ("-I".toList, "-I"), ("lanplus".toList, "lanplus"),
    ("-H".toList, "-H"), (singleQuoted address.toList, address),
    ("-U".toList, "-U"), (singleQuoted username.toList, username),
    ("-P".toList, "-P"), (singleQuoted password.toList, password)]

theorem readsAs_quoted (value : String) : ReadsAs (singleQuoted value.toList) value := by
  have h := readsAs_singleQuoted value.toList
  rwa [String.ofList_toList] at h

theorem readsAs_ipmitoolItems (address username password : String) :
    ∀ item ∈ ipmitoolItems address username password, ReadsAs item.1 item.2 := by
  have hfixed : ∀ w ∈ ["ipmitool", "-I", "lanplus", "-H", "-U", "-P"], ReadsAs w.toList w := by
    intro w hw
    apply readsAs_of_literal
    apply literalWord_of_plain
    revert w
    decide
  simp only [ipmitoolItems, List.forall_mem_cons]
  refine ⟨hfixed _ (by decide), hfixed _ (by decide), hfixed _ (by decide), hfixed _ (by decide),
    readsAs_quoted address, hfixed _ (by decide), readsAs_quoted username, hfixed _ (by decide),
    readsAs_quoted password, nofun⟩

omit [FileNamePatterns] in
theorem buildIpmitoolCommand_eq_ok {address username password subcommand command : String} :
    XCAT.buildIpmitoolCommand address username password subcommand = .ok command ↔
      (Quotable address ∧ Quotable username ∧ Quotable password) ∧
        command.toList = (ipmitoolItems address username password).flatMap
          (fun item => item.1 ++ [' ']) ++ subcommand.toList := by
  have htext : ∀ address username password : List Char,
      ("ipmitool -I lanplus -H " ++ String.ofList address ++ " -U " ++ String.ofList username ++
        " -P " ++ String.ofList password ++ " " ++ subcommand).toList =
      [("ipmitool".toList, "ipmitool"), ("-I".toList, "-I"), ("lanplus".toList, "lanplus"),
        ("-H".toList, "-H"), (address, ""), ("-U".toList, "-U"), (username, ""),
        ("-P".toList, "-P"), (password, "")].flatMap (fun item => item.1 ++ [' ']) ++
          subcommand.toList := by
    intro address username password
    simp
  unfold XCAT.buildIpmitoolCommand
  simp only [except_bind_ok, shellSingleQuote_eq_ok]
  constructor
  · rintro ⟨_, ⟨haddress, rfl⟩, _, ⟨husername, rfl⟩, _, ⟨hpassword, rfl⟩, heq⟩
    refine ⟨⟨haddress, husername, hpassword⟩, ?_⟩
    rw [← Except.ok.inj heq, htext]
    rfl
  · rintro ⟨⟨haddress, husername, hpassword⟩, hcommand⟩
    refine ⟨_, ⟨haddress, rfl⟩, _, ⟨husername, rfl⟩, _, ⟨hpassword, rfl⟩, ?_⟩
    apply congrArg Except.ok
    apply String.toList_inj.mp
    rw [htext, hcommand]
    rfl

/-- The command is `ipmitool` with its options and the words of the subcommand. -/
theorem wordsOf_buildIpmitoolCommand {address username password subcommand command : String}
    (h : XCAT.buildIpmitoolCommand address username password subcommand = .ok command) :
    wordsOf command =
      (wordsOf subcommand).map (ipmitoolArguments address username password ++ ·) :=
  wordsOf_spaced (readsAs_ipmitoolItems address username password)
    (buildIpmitoolCommand_eq_ok.mp h).2

/-! ## The script -/

theorem fallbackLines_of {description subcommand message command : String} {node : Node × BMC}
    (hmessage : XCAT.shellSingleQuote (XCAT.fallbackMessage description node.1.hostname) =
      .ok message)
    (hcommand : XCAT.buildIpmitoolCommand node.2.address node.2.username node.2.password
      subcommand = .ok command) :
    FallbackLines description subcommand node ("echo " ++ message, command ++ " || rc=$?") := by
  constructor
  · intro rest
    have hecho : ReadsAs "echo".toList "echo" :=
      readsAs_of_literal (literalWord_of_plain (by decide))
    have hread := (readsAs_of_shellSingleQuote hmessage).stop
      (({} : Reader).addWords ["echo"]) '\n' rest ⟨rfl, rfl⟩ rfl
    have harguments : ({} : Reader).arguments (("echo " ++ message).toList ++ '\n' :: rest) =
        some (["echo", XCAT.fallbackMessage description node.1.hostname], '\n' :: rest) := by
      rw [← hecho.blank {} ' ' _ ⟨rfl, rfl⟩ (by decide)] at hread
      rw [String.toList_append, List.append_assoc]
      exact hread
    rw [firstCommand, harguments]
    exact Option.filter_some_pos rfl
  · intro words hwords rest
    have htext : (command ++ " || rc=$?").toList ++ '\n' :: rest =
        command.toList ++ ' ' :: '|' :: ("| rc=$?\n".toList ++ rest) := by
      simp
    rw [htext, (buildIpmitoolCommand_eq_ok.mp hcommand).2, List.append_assoc]
    exact @firstCommand_spaced _ _ (readsAs_ipmitoolItems _ _ _) "ipmitool" rfl (by decide) _
      _ hwords _

omit [FileNamePatterns] in
theorem appendDirectIpmi_eq_ok {description subcommand : String} {state state' : String × Bool}
    {node : Node} {bmc : BMC} (hbmc : node.bmc = some bmc) :
    XCAT.appendDirectIpmi description subcommand state node = .ok state' ↔
      ∃ message command,
        XCAT.shellSingleQuote (XCAT.fallbackMessage description node.hostname) = .ok message ∧
        XCAT.buildIpmitoolCommand bmc.address bmc.username bmc.password subcommand = .ok command ∧
        state' = (state.1 ++ ("echo " ++ message ++ "\n") ++ (command ++ " || rc=$?\n"), true) := by
  unfold XCAT.appendDirectIpmi
  rw [hbmc]
  simp only [except_bind_ok, Except.ok.injEq]
  constructor
  · rintro ⟨message, hmessage, command, hcommand, rfl⟩
    exact ⟨message, command, hmessage, hcommand, rfl⟩
  · rintro ⟨message, command, hmessage, hcommand, rfl⟩
    exact ⟨message, hmessage, command, hcommand, rfl⟩

omit [FileNamePatterns] in
theorem joinLines_cons (l : String × String) (lines : List (String × String)) :
    joinLines (l :: lines) = l.1 ++ "\n" ++ l.2 ++ "\n" ++ joinLines lines := by
  rw [joinLines, List.map_cons, String.join_cons, joinLines]

/-- Every node with a BMC adds its two lines. -/
theorem foldlM_appendDirectIpmi {description subcommand : String} {nodes : List Node}
    {state out : String × Bool}
    (h : nodes.foldlM (XCAT.appendDirectIpmi description subcommand) state = .ok out) :
    ∃ lines, List.Forall₂ (FallbackLines description subcommand) (bmcNodes nodes) lines ∧
      out = (state.1 ++ joinLines lines, state.2 || !lines.isEmpty) := by
  induction nodes generalizing state with
  | nil =>
    refine ⟨[], .nil, ?_⟩
    cases h
    simp [joinLines]
  | cons node nodes ih =>
    rw [List.foldlM_cons] at h
    obtain ⟨state', hstep, hrest⟩ := except_bind_ok.mp h
    obtain ⟨lines, hlines, hout⟩ := ih hrest
    cases hbmc : node.bmc with
    | none =>
      have hsame : state' = state := by
        rw [XCAT.appendDirectIpmi, hbmc] at hstep
        exact (Except.ok.inj hstep).symm
      have hnodes : bmcNodes (node :: nodes) = bmcNodes nodes :=
        List.filterMap_cons_none (by rw [hbmc]; rfl)
      rw [hsame] at hout
      exact ⟨lines, hnodes ▸ hlines, hout⟩
    | some bmc =>
      obtain ⟨message, command, hmessage, hcommand, hstate⟩ :=
        (appendDirectIpmi_eq_ok hbmc).mp hstep
      have hnodes : bmcNodes (node :: nodes) = (node, bmc) :: bmcNodes nodes :=
        List.filterMap_cons_some (by rw [hbmc]; rfl)
      refine ⟨("echo " ++ message, command ++ " || rc=$?") :: lines, ?_, ?_⟩
      · rw [hnodes]
        exact .cons (fallbackLines_of hmessage hcommand) hlines
      · rw [hout, hstate, joinLines_cons, List.isEmpty_cons, Bool.not_false, Bool.true_or,
          Bool.or_true]
        have hline : " || rc=$?\n" = " || rc=$?" ++ "\n" := rfl
        simp only [String.append_assoc, hline]

omit [FileNamePatterns] in
/-- The script is written when everything in it can be quoted. -/
theorem exists_foldlM_appendDirectIpmi {description subcommand : String} {nodes : List Node}
    {state : String × Bool} :
    (∃ out, nodes.foldlM (XCAT.appendDirectIpmi description subcommand) state = .ok out) ↔
      ∀ node ∈ bmcNodes nodes, QuotableNode description node := by
  induction nodes generalizing state with
  | nil =>
    refine iff_of_true ⟨state, rfl⟩ ?_
    rw [bmcNodes, List.filterMap_nil]
    exact List.forall_mem_nil _
  | cons node nodes ih =>
    have hcons : (∃ out,
        (node :: nodes).foldlM (XCAT.appendDirectIpmi description subcommand) state = .ok out) ↔
        (∃ state', XCAT.appendDirectIpmi description subcommand state node = .ok state') ∧
          ∀ node ∈ bmcNodes nodes, QuotableNode description node := by
      rw [List.foldlM_cons]
      constructor
      · rintro ⟨out, h⟩
        obtain ⟨state', hstep, hrest⟩ := except_bind_ok.mp h
        exact ⟨⟨state', hstep⟩, ih.mp ⟨out, hrest⟩⟩
      · rintro ⟨⟨state', hstep⟩, hnodes⟩
        obtain ⟨out, hrest⟩ := ih.mpr hnodes
        exact ⟨out, except_bind_ok.mpr ⟨state', hstep, hrest⟩⟩
    rw [hcons]
    cases hbmc : node.bmc with
    | none =>
      have hnodes : bmcNodes (node :: nodes) = bmcNodes nodes :=
        List.filterMap_cons_none (by rw [hbmc]; rfl)
      have hstep : ∃ state',
          XCAT.appendDirectIpmi description subcommand state node = .ok state' :=
        ⟨state, by rw [XCAT.appendDirectIpmi, hbmc]⟩
      rw [hnodes, and_iff_right hstep]
    | some bmc =>
      have hnodes : bmcNodes (node :: nodes) = (node, bmc) :: bmcNodes nodes :=
        List.filterMap_cons_some (by rw [hbmc]; rfl)
      have hstep :
          (∃ state', XCAT.appendDirectIpmi description subcommand state node = .ok state') ↔
            QuotableNode description (node, bmc) := by
        simp only [appendDirectIpmi_eq_ok hbmc, shellSingleQuote_eq_ok]
        constructor
        · rintro ⟨_, message, command, ⟨hmessage, -⟩, hcommand, -⟩
          exact ⟨hmessage, (buildIpmitoolCommand_eq_ok.mp hcommand).1⟩
        · rintro ⟨hmessage, hbmcs⟩
          exact ⟨_, _, _, ⟨hmessage, rfl⟩,
            buildIpmitoolCommand_eq_ok.mpr ⟨hbmcs, String.toList_ofList⟩, rfl⟩
      rw [hnodes, List.forall_mem_cons, hstep]

/-! ## The quoting is exact -/

/-- Only the texts with an end of line cannot be quoted; a quoted text is read as itself wherever
a word can begin, and the commands and the lines of the script are read as the command that they
are written for. -/
theorem shell_quoting_exact :
    (∀ value, XCAT.shellSingleQuote value =
      invalidArgument "Shell-quoted strings cannot contain newlines" ↔ ¬ Quotable value) ∧
    (∀ value, Quotable value →
      ∃ quoted, XCAT.shellSingleQuote value = .ok quoted ∧ ReadsAs quoted.toList value) ∧
    (∀ address username password subcommand,
      Quotable address → Quotable username → Quotable password →
      ∃ command,
        XCAT.buildIpmitoolCommand address username password subcommand = .ok command ∧
        wordsOf command =
          (wordsOf subcommand).map (ipmitoolArguments address username password ++ ·)) ∧
    ∀ nodes description subcommand,
      (∀ node ∈ bmcNodes nodes, QuotableNode description node) →
      ∃ lines,
        List.Forall₂ (FallbackLines description subcommand) (bmcNodes nodes) lines ∧
        XCAT.runDirectIpmiCommand nodes description subcommand =
          .ok (if lines = [] then none
            else some ("rc=0\n" ++ joinLines lines ++ "exit $rc\n")) := by
  refine ⟨?_, ?_, ?_, ?_⟩
  · intro value
    rw [shellSingleQuote_eq]
    split
    · rename_i h
      exact ⟨nofun, absurd h⟩
    · rename_i h
      exact iff_of_true rfl h
  · intro value h
    have hquoted := shellSingleQuote_eq_ok.mpr ⟨h, rfl⟩
    exact ⟨_, hquoted, readsAs_of_shellSingleQuote hquoted⟩
  · intro address username password subcommand haddress husername hpassword
    have hcommand : XCAT.buildIpmitoolCommand address username password subcommand = .ok _ :=
      buildIpmitoolCommand_eq_ok.mpr ⟨⟨haddress, husername, hpassword⟩, String.toList_ofList⟩
    exact ⟨_, hcommand, wordsOf_buildIpmitoolCommand hcommand⟩
  · intro nodes description subcommand hnodes
    obtain ⟨out, hout⟩ :=
      (@exists_foldlM_appendDirectIpmi description subcommand nodes ("rc=0\n", false)).mpr hnodes
    obtain ⟨lines, hlines, rfl⟩ := foldlM_appendDirectIpmi hout
    refine ⟨lines, hlines, ?_⟩
    rw [XCAT.runDirectIpmiCommand, hout]
    cases lines with
    | nil => rfl
    | cons l lines => rfl

end

/-- A password with both kinds of quotes. -/
def fallbackBMC : BMC where
  address := "192.0.2.10"
  username := "admin"
  password := "pa'ss \"$x\" #"
  serialPort := 0
  serialSpeed := 9600

def fallbackNode : Node where
  hostname := "n01"
  os := OS.ofPlatform .Rocky .el9 5 .x86_64
  bmc := some fallbackBMC

theorem shell_quoting_fallbackNode :
    ∃ message command, @firstCommand plainPatterns (command.toList ++ "\nexit $rc\n".toList) = some
      (["ipmitool", "-I", "lanplus", "-H", "192.0.2.10", "-U", "admin", "-P", "pa'ss \"$x\" #",
        "chassis", "power", "reset"], "|| rc=$?\nexit $rc\n".toList) ∧
      XCAT.runDirectIpmiCommand [fallbackNode, { fallbackNode with bmc := none }] "node reset"
          "chassis power reset" =
        .ok (some ("rc=0\n" ++ (message ++ "\n" ++ command ++ "\n") ++ "exit $rc\n")) := by
  have hnodes : bmcNodes [fallbackNode, { fallbackNode with bmc := none }] =
      [(fallbackNode, fallbackBMC)] := rfl
  obtain ⟨lines, hlines, hrun⟩ := (@shell_quoting_exact plainPatterns).2.2.2
    [fallbackNode, { fallbackNode with bmc := none }] "node reset" "chassis power reset" (by
      rw [hnodes, List.forall_mem_singleton]
      exact ⟨by decide, by decide, by decide, by decide⟩)
  rw [hnodes] at hlines
  obtain _ | @⟨_, l, _, _, hl, hrest⟩ := hlines
  cases hrest
  refine ⟨l.1, l.2, ?_, ?_⟩
  · exact @FallbackLines.command plainPatterns _ _ _ _ hl ["chassis", "power", "reset"] (by decide)
      "exit $rc\n".toList
  · rw [hrun, if_neg (List.cons_ne_nil _ _), joinLines_cons]
    simp [joinLines]

end OpenCattus
