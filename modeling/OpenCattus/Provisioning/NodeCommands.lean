import OpenCattus.Foundations.Shell
import OpenCattus.Roles.NetworkSetup

/-!
# The commands that register a node

The script by which confluent's tools learn of a node, and the `mkdef` command by which xCAT
does. Values are pasted into the text of either as they are.

* `buildNodeDefinitionScript_eq`, `addNodeCommand_eq`: the texts are those of the intended
  commands, word by word.
* `nodeCommands_literal_iff`: when a registered node reaches the tools as it was entered.
* `exists_registration`: the nodes that `fillData` accepts are registered so.
-/

namespace OpenCattus

open Foundations Foundations.Text Foundations.Inet Foundations.Shell

/-! ## The splitting of a command line -/

/-- Every word with a blank behind it. -/
def spaced : List String → String
  | [] => ""
  | w :: ws => w ++ " " ++ spaced ws

/-- The arguments that Boost.Process makes of a command line: it splits at the spaces that are
not between double quotes. -/
class ProcessArguments where
  split : String → List String
  /-- A line of words is split into these when every word is by itself. -/
  split_spaced : ∀ {words}, split (spaced words) = words ↔ ∀ w ∈ words, split (w ++ " ") = [w]
  /-- A word without spaces and double quotes is an argument. -/
  split_word : ∀ {w}, w ≠ "" → (∀ c ∈ w.toList, c ≠ ' ' ∧ c ≠ '"') → split (w ++ " ") = [w]

/-! ### A splitting to evaluate with -/

def isGap (c : Char) : Bool := c == ' '

def splitSpaces (line : String) : List String :=
  ((splitEach isGap line.toList).map String.ofList).filter (· ≠ "")

theorem clean_of_mem_splitSpaces {line w : String} (h : w ∈ splitSpaces line) :
    w ≠ "" ∧ ∀ c ∈ w.toList, isGap c = false := by
  simp only [splitSpaces, List.mem_filter, List.mem_map, decide_eq_true_eq] at h
  obtain ⟨⟨t, ht, rfl⟩, hne⟩ := h
  refine ⟨hne, ?_⟩
  rw [String.toList_ofList]
  exact clean_of_mem_splitEach ht

theorem splitSpaces_append {w rest : String} (hne : w ≠ "") (h : ∀ c ∈ w.toList, isGap c = false) :
    splitSpaces (w ++ " " ++ rest) = w :: splitSpaces rest := by
  have hlist : (w ++ " " ++ rest).toList = w.toList ++ ' ' :: rest.toList := by
    rw [String.toList_append, String.toList_append, List.append_assoc]
    rfl
  rw [splitSpaces, hlist, splitEach_append_cons h (by decide)]
  simp [splitSpaces, hne]

theorem splitSpaces_word {w : String} (hne : w ≠ "") (h : ∀ c ∈ w.toList, isGap c = false) :
    splitSpaces (w ++ " ") = [w] := by
  have hword := @splitSpaces_append w "" hne h
  rwa [String.append_empty] at hword

theorem splitSpaces_spaced {words : List String} :
    splitSpaces (spaced words) = words ↔ ∀ w ∈ words, splitSpaces (w ++ " ") = [w] := by
  constructor
  · intro h w hw
    rw [← h] at hw
    obtain ⟨hne, hclean⟩ := clean_of_mem_splitSpaces hw
    exact splitSpaces_word hne hclean
  · intro h
    induction words with
    | nil => rfl
    | cons w ws ih =>
      obtain ⟨hw, hws⟩ := List.forall_mem_cons.mp h
      have hmem : w ∈ splitSpaces (w ++ " ") := by simp [hw]
      obtain ⟨hne, hclean⟩ := clean_of_mem_splitSpaces hmem
      rw [spaced, splitSpaces_append hne hclean, ih hws]

/-- A splitting for command lines without double quotes. -/
@[reducible] def plainArguments : ProcessArguments where
  split := splitSpaces
  split_spaced := splitSpaces_spaced
  split_word := fun hne h => splitSpaces_word hne fun c hc => by simpa [isGap] using (h c hc).1

/-! ## The source -/

/-- `Server::getConnection`. -/
def Node.getConnection (node : Node) (profile : Network.Profile) : Result Connection :=
  match node.connections.find? (·.profile = profile) with
  | some connection => .ok connection
  | none =>
    runtimeError ("Cannot get any connection with profile " ++
      Cluster.getNetwork.profileName profile)

/-- The name of the distribution in `osdeploy`. -/
def OS.osdeployName (os : OS) : String :=
  match os.distro with
  | .Rocky => "rocky-"
  | .AlmaLinux => "alma-"
  | .RHEL => "rhel-"
  | .OL => "ol-"
  | .Ubuntu => "ubuntu"

def buildConfluentImageName (os : OS) : String :=
  os.osdeployName ++ os.getVersion ++ "-" ++ os.arch.toText

section

variable [Inet6]

/-- The network is the one that the management connection points to. -/
def buildNodeDefinitionScript (node : Node) (network : Network) (image : String) :
    Result String := do
  let rootpwd ←
    match node.nodeRootPassword with
    | some rootpwd => .ok rootpwd
    | none => runtimeError ("No root password configured for node " ++ node.hostname)
  let connection ← node.getConnection .Management
  let nodeCIDR ← NetworkRole.subnetMaskToCIDR network.subnetMask
  let script :=
    "\n" ++ "nodedefine " ++ node.hostname ++ "\n" ++
      "nodeattrib " ++ node.hostname ++ " net.ipv4_address=" ++ connection.address.toText ++ "/" ++
        decimal nodeCIDR ++ "\n" ++
      "nodeattrib " ++ node.hostname ++ " crypted.rootpassword=" ++ rootpwd ++
        " crypted.grubpassword=" ++ rootpwd ++ "\n"
  let script :=
    match node.bmc with
    | some bmc =>
      script ++ "nodeattrib " ++ node.hostname ++ " bmcuser=" ++ bmc.username ++ " bmcpass=" ++
        bmc.password ++ "\n"
    | none => script
  let script :=
    match connection.mac with
    | some mac => script ++ "nodeattrib " ++ node.hostname ++ " net.hwaddr=" ++ mac ++ "\n"
    | none => script
  .ok (script ++ "nodedeploy -p " ++ node.hostname ++ " -n " ++ image ++ "-diskless\n" ++
    "confluent2hosts -a everything\n")

/-- The command line that `XCAT::addNode` runs. -/
def addNodeCommand (node : Node) : Result String := do
  let connection ← node.getConnection .Management
  let mac ← valueOf connection.mac
  let command :=
    "mkdef -f -t node " ++ node.hostname ++ " arch=" ++ node.os.arch.toText ++ " ip=" ++
      connection.address.toText ++ " mac=" ++ mac ++ " groups=compute,all netboot=xnba "
  let command :=
    match node.bmc with
    | some bmc =>
      command ++ "bmc=" ++ bmc.address ++ " bmcusername=" ++ bmc.username ++ " bmcpassword=" ++
        bmc.password ++ " mgt=ipmi cons=ipmi serialport=" ++ decimal bmc.serialPort ++
        " serialspeed=" ++ decimal bmc.serialSpeed ++ " "
    | none => command
  .ok
    (match node.getConnection .Application with
    | .ok connection =>
      command ++ "nicips.ib0=" ++ connection.address.toText ++
        " nictypes.ib0=\"InfiniBand\" nicnetworks.ib0=ib0 "
    -- The exception is caught.
    | .error _ => command)

end

/-! ## Plain texts -/

theorem plain_of_isDigit {s : String} (h : ∀ c ∈ s.toList, c.isDigit = true) :
    isPlainText s = true := by
  refine List.all_eq_true.mpr fun c hc => ?_
  simp [isPlain, Char.isAlphanum, h c hc]

theorem plain_decimal (n : Nat) : isPlainText (decimal n) = true :=
  plain_of_isDigit fun _ => isDigit_of_mem_decimal

theorem plain_getVersion (os : OS) : isPlainText os.getVersion = true := by
  have hdot : isPlainText "." = true := by decide
  have hmonth : isPlainText (padZero 2 (os.majorVersion % 100)) = true :=
    plain_of_isDigit fun _ => isDigit_of_mem_padZero
  unfold OS.getVersion
  dsimp only
  split
  · have hbase := isPlainText_append
      (isPlainText_append (plain_decimal (os.majorVersion / 100)) hdot) hmonth
    split
    · exact isPlainText_append (isPlainText_append hbase hdot) (plain_decimal _)
    · exact hbase
  · exact isPlainText_append (isPlainText_append (plain_decimal _) hdot) (plain_decimal _)

theorem plain_arch (arch : OS.Arch) : isPlainText arch.toText = true := by
  cases arch <;> decide

theorem plain_imageName (os : OS) : isPlainText (buildConfluentImageName os) = true := by
  have hname : isPlainText os.osdeployName = true := by
    unfold OS.osdeployName
    cases os.distro <;> decide
  have hdash : isPlainText "-" = true := by decide
  exact isPlainText_append (isPlainText_append (isPlainText_append hname (plain_getVersion os)) hdash)
    (plain_arch os.arch)

theorem isPlain_of_isHexDigit {c : Char} (h : Connection.isHexDigit c = true) :
    isPlain c = true := by
  have halpha : c.isAlphanum = true := by
    rw [Connection.isHexDigit_iff] at h
    change ((decide (c.val ≥ 'A'.val ∧ c.val ≤ 'Z'.val) ||
      (decide (c.val ≥ 'a'.val) && decide (c.val ≤ 'z'.val))) ||
        (decide (c.val ≥ '0'.val) && decide (c.val ≤ '9'.val))) = true
    simp only [Bool.or_eq_true, Bool.and_eq_true, decide_eq_true_eq, ge_iff_le,
      UInt32.le_iff_toNat_le]
    change ((65 ≤ c.toNat ∧ c.toNat ≤ 90) ∨ 97 ≤ c.toNat ∧ c.toNat ≤ 122) ∨ 48 ≤ c.toNat ∧ c.toNat ≤ 57
    omega
  simp [isPlain, halpha]

theorem plain_of_isColonMac {cs : List Char} (h : Connection.isColonMac cs = true) :
    ∀ c ∈ cs, isPlain c = true := by
  fun_induction Connection.isColonMac cs with
  | case1 a b =>
    simp only [Bool.and_eq_true] at h
    simp [isPlain_of_isHexDigit h.1, isPlain_of_isHexDigit h.2]
  | case2 a b sep rest ih =>
    simp only [Bool.and_eq_true, Bool.or_eq_true, beq_iff_eq] at h
    obtain ⟨⟨⟨ha, hb⟩, hsep⟩, hrest⟩ := h
    have hmark : isPlain sep = true := by
      rcases hsep with rfl | rfl <;> decide
    simpa [isPlain_of_isHexDigit ha, isPlain_of_isHexDigit hb, hmark] using ih hrest
  | case3 => cases h

theorem plain_of_isCiscoMac {cs : List Char} (h : Connection.isCiscoMac cs = true) :
    ∀ c ∈ cs, isPlain c = true := by
  fun_induction Connection.isCiscoMac cs with
  | case1 a b c d =>
    exact fun e he => isPlain_of_isHexDigit (List.all_eq_true.mp h e he)
  | case2 a b c d sep rest ih =>
    simp only [Bool.and_eq_true, beq_iff_eq] at h
    obtain ⟨⟨hgroup, rfl⟩, hrest⟩ := h
    intro e he
    rcases List.mem_append.mp (show e ∈ [a, b, c, d] ++ '.' :: rest from he) with he | he
    · exact isPlain_of_isHexDigit (List.all_eq_true.mp hgroup e he)
    · rcases List.mem_cons.mp he with rfl | he
      · decide
      · exact ih hrest e he
  | case3 => cases h

theorem plain_mac {mac : String} (h : Connection.validateMAC mac = .ok ()) :
    isPlainText mac = true := by
  refine List.all_eq_true.mpr ?_
  unfold Connection.validateMAC at h
  split at h
  · cases h
  · split at h
    · rename_i hform
      exact hform.elim (fun h => plain_of_isColonMac h.2) fun h => plain_of_isCiscoMac h.2
    · cases h

/-! ## What the texts mean -/

section

variable [Inet6]

/-- A node that is to be registered, with what its registration reads. -/
structure Registration where
  node : Node
  network : Network
  connection : Connection
  rootPassword : String
  mac : String
  nodeCIDR : Nat
  node_rootPassword : node.nodeRootPassword = some rootPassword
  node_connections : node.connections = [connection]
  connection_profile : connection.profile = .Management
  connection_mac : connection.mac = some mac
  mac_valid : Connection.validateMAC mac = .ok ()
  network_mask : NetworkRole.subnetMaskToCIDR network.subnetMask = .ok nodeCIDR

namespace Registration

def nodeIp (r : Registration) : String := r.connection.address.toText

/-- The commands that the script of a node spells out. -/
def commands (r : Registration) (image : String) : List (List String) :=
  let name := r.node.hostname
  [["nodedefine", name],
    ["nodeattrib", name, "net.ipv4_address" ++ "=" ++ (r.nodeIp ++ "/" ++ decimal r.nodeCIDR)],
    ["nodeattrib", name, "crypted.rootpassword" ++ "=" ++ r.rootPassword,
      "crypted.grubpassword" ++ "=" ++ r.rootPassword]] ++
    (match r.node.bmc with
    | some bmc =>
      [["nodeattrib", name, "bmcuser" ++ "=" ++ bmc.username, "bmcpass" ++ "=" ++ bmc.password]]
    | none => []) ++
    [["nodeattrib", name, "net.hwaddr" ++ "=" ++ r.mac],
      ["nodedeploy", "-p", name, "-n", image ++ "-diskless"],
      ["confluent2hosts", "-a", "everything"]]

/-- The arguments of `mkdef`. -/
def arguments (r : Registration) : List String :=
  ["mkdef", "-f", "-t", "node", r.node.hostname, "arch=" ++ r.node.os.arch.toText,
    "ip=" ++ r.nodeIp, "mac=" ++ r.mac, "groups=compute,all", "netboot=xnba"] ++
    match r.node.bmc with
    | some bmc =>
      ["bmc=" ++ bmc.address, "bmcusername=" ++ bmc.username, "bmcpassword=" ++ bmc.password,
        "mgt=ipmi", "cons=ipmi", "serialport=" ++ decimal bmc.serialPort,
        "serialspeed=" ++ decimal bmc.serialSpeed]
    | none => []

theorem getConnection_management (r : Registration) :
    r.node.getConnection .Management = .ok r.connection := by
  rw [Node.getConnection, r.node_connections]
  simp [r.connection_profile]

theorem getConnection_application (r : Registration) :
    ∃ e, r.node.getConnection .Application = .error e := by
  rw [Node.getConnection, r.node_connections]
  simp [r.connection_profile, runtimeError]

set_option maxRecDepth 2000 in
theorem buildNodeDefinitionScript_eq (r : Registration) (image : String) :
    buildNodeDefinitionScript r.node r.network image = .ok ("\n" ++ render (r.commands image)) := by
  unfold buildNodeDefinitionScript
  rw [r.node_rootPassword, r.getConnection_management, r.network_mask]
  simp only [except_ok_bind, r.connection_mac]
  unfold commands
  cases r.node.bmc with
  | none =>
    refine congrArg Except.ok (String.toList_inj.mp ?_)
    simp only [render, renderCommand, nodeIp, String.toList_append, List.append_assoc,
      List.cons_append, List.nil_append]
    rfl
  | some bmc =>
    refine congrArg Except.ok (String.toList_inj.mp ?_)
    simp only [render, renderCommand, nodeIp, String.toList_append, List.append_assoc,
      List.cons_append, List.nil_append]
    rfl

theorem addNodeCommand_eq (r : Registration) : addNodeCommand r.node = .ok (spaced r.arguments) := by
  obtain ⟨e, he⟩ := r.getConnection_application
  unfold addNodeCommand
  rw [r.getConnection_management]
  simp only [except_ok_bind, r.connection_mac, he, valueOf]
  unfold arguments
  cases r.node.bmc with
  | none =>
    refine congrArg Except.ok (String.toList_inj.mp ?_)
    simp only [spaced, nodeIp, String.toList_append, List.append_assoc, List.cons_append,
      List.nil_append]
    rfl
  | some bmc =>
    refine congrArg Except.ok (String.toList_inj.mp ?_)
    simp only [spaced, nodeIp, String.toList_append, List.append_assoc, List.cons_append,
      List.nil_append]
    rfl

/-! ## When the values stand for themselves -/

/-- What the script asks of the values of a node. -/
structure LiteralScript [FileNamePatterns] (r : Registration) : Prop where
  hostname : LiteralWord r.node.hostname
  address : LiteralValue "net.ipv4_address" (r.nodeIp ++ "/" ++ decimal r.nodeCIDR)
  rootPassword : ∀ key ∈ ["crypted.rootpassword", "crypted.grubpassword"],
    LiteralValue key r.rootPassword
  bmc : ∀ bmc ∈ r.node.bmc,
    LiteralValue "bmcuser" bmc.username ∧ LiteralValue "bmcpass" bmc.password

/-- The word is one argument, as it is written. -/
def IsArgument [ProcessArguments] (w : String) : Prop := ProcessArguments.split (w ++ " ") = [w]

/-- What `mkdef` asks of them. -/
structure LiteralArguments [ProcessArguments] (r : Registration) : Prop where
  hostname : IsArgument r.node.hostname
  address : IsArgument ("ip=" ++ r.nodeIp)
  bmc : ∀ bmc ∈ r.node.bmc, IsArgument ("bmc=" ++ bmc.address) ∧
    IsArgument ("bmcusername=" ++ bmc.username) ∧ IsArgument ("bmcpassword=" ++ bmc.password)

theorem literalScript_of_commands [FileNamePatterns] {r : Registration} {image : String}
    (h : ∀ words ∈ r.commands image, LiteralCommand words) : r.LiteralScript where
  hostname := (h ["nodedefine", r.node.hostname] (by simp [commands])).words _ (by simp)
  address := by
    have hcommand : ["nodeattrib", r.node.hostname,
        "net.ipv4_address" ++ "=" ++ (r.nodeIp ++ "/" ++ decimal r.nodeCIDR)] ∈ r.commands image := by
      simp [commands]
    exact (literalWord_attribute_iff (by decide)).mp ((h _ hcommand).words _ (by simp))
  rootPassword := by
    have hcommand : ["nodeattrib", r.node.hostname, "crypted.rootpassword" ++ "=" ++ r.rootPassword,
        "crypted.grubpassword" ++ "=" ++ r.rootPassword] ∈ r.commands image := by
      simp [commands]
    have hwords := (h _ hcommand).words
    simp only [List.forall_mem_cons, List.not_mem_nil, false_imp_iff, implies_true, and_true]
    exact ⟨(literalWord_attribute_iff (by decide)).mp (hwords _ (by simp)),
      (literalWord_attribute_iff (by decide)).mp (hwords _ (by simp))⟩
  bmc := by
    intro bmc hbmc
    have hcommand : ["nodeattrib", r.node.hostname, "bmcuser" ++ "=" ++ bmc.username,
        "bmcpass" ++ "=" ++ bmc.password] ∈ r.commands image := by
      simp [commands, Option.mem_def.mp hbmc]
    have hwords := (h _ hcommand).words
    exact ⟨(literalWord_attribute_iff (by decide)).mp (hwords _ (by simp)),
      (literalWord_attribute_iff (by decide)).mp (hwords _ (by simp))⟩

theorem commands_of_literalScript [FileNamePatterns] {r : Registration} (h : r.LiteralScript)
    (os : OS) : ∀ words ∈ r.commands (buildConfluentImageName os), LiteralCommand words := by
  have himage : LiteralWord (buildConfluentImageName os ++ "-diskless") :=
    literalWord_of_plain ⟨by simp, isPlainText_append (plain_imageName os) (by decide)⟩
  have hattribute : ∀ key value, PlainWord key → LiteralValue key value →
      LiteralWord (key ++ "=" ++ value) :=
    fun key value hkey hvalue => (literalWord_attribute_iff hkey).mpr hvalue
  have hmac : LiteralValue "net.hwaddr" r.mac :=
    literalValue_of_plain (by decide) (plain_mac r.mac_valid)
  have hplain : ∀ w ∈ ["-p", "-n", "-a", "everything"], LiteralWord w := by
    intro w hw
    have hall : ∀ w ∈ ["-p", "-n", "-a", "everything"], PlainWord w := by decide
    exact literalWord_of_plain (hall w hw)
  simp only [List.forall_mem_cons] at hplain
  obtain ⟨hp, hn, ha, heverything, -⟩ := hplain
  simp only [commands, List.forall_mem_append, List.forall_mem_cons]
  refine ⟨⟨⟨?_, ?_, ?_, by simp⟩, ?_⟩, ?_, ?_, ?_, by simp⟩
  · refine literalCommand_of (by decide) (by decide) ?_
    simpa using h.hostname
  · refine literalCommand_of (by decide) (by decide) ?_
    simp only [List.forall_mem_cons]
    exact ⟨h.hostname, hattribute _ _ (by decide) h.address, by simp⟩
  · refine literalCommand_of (by decide) (by decide) ?_
    simp only [List.forall_mem_cons]
    exact ⟨h.hostname, hattribute _ _ (by decide) (h.rootPassword _ (by simp)),
      hattribute _ _ (by decide) (h.rootPassword _ (by simp)), by simp⟩
  · cases hbmc : r.node.bmc with
    | none => simp
    | some bmc =>
      obtain ⟨huser, hpass⟩ := h.bmc bmc hbmc
      simp only [List.forall_mem_cons]
      refine ⟨literalCommand_of (by decide) (by decide) ?_, by simp⟩
      simp only [List.forall_mem_cons]
      exact ⟨h.hostname, hattribute _ _ (by decide) huser, hattribute _ _ (by decide) hpass, by simp⟩
  · refine literalCommand_of (by decide) (by decide) ?_
    simp only [List.forall_mem_cons]
    exact ⟨h.hostname, hattribute _ _ (by decide) hmac, by simp⟩
  · refine literalCommand_of (by decide) (by decide) ?_
    simp only [List.forall_mem_cons]
    exact ⟨hp, h.hostname, hn, himage, by simp⟩
  · refine literalCommand_of (by decide) (by decide) ?_
    simp only [List.forall_mem_cons]
    exact ⟨ha, heverything, by simp⟩

/-- A setting that `mkdef` takes as it is. -/
def isSettingChar (c : Char) : Bool := isPlain c || c == '='

omit [Inet6] in
theorem isArgument_of_plain [ProcessArguments] {w : String} (hne : w ≠ "")
    (h : w.toList.all isSettingChar = true) : IsArgument w := by
  refine ProcessArguments.split_word hne fun c hc => ?_
  have hchar := List.all_eq_true.mp h c hc
  constructor <;> rintro rfl <;> exact absurd hchar (by decide)

omit [Inet6] in
/-- A setting with a plain value. -/
theorem isArgument_setting [ProcessArguments] {key value : String} (hkey : key ≠ "")
    (hequals : key.toList.all isSettingChar = true) (h : isPlainText value = true) :
    IsArgument (key ++ value) := by
  refine isArgument_of_plain (by simp [hkey]) ?_
  rw [String.toList_append, List.all_append, Bool.and_eq_true]
  refine ⟨hequals, List.all_eq_true.mpr fun c hc => ?_⟩
  simp [isSettingChar, isPlain_of_mem h hc]

theorem arguments_literal_iff [ProcessArguments] (r : Registration) :
    (∀ w ∈ r.arguments, IsArgument w) ↔ r.LiteralArguments := by
  have hfixed : ∀ w ∈ ["mkdef", "-f", "-t", "node", "groups=compute,all", "netboot=xnba", "mgt=ipmi",
      "cons=ipmi"], IsArgument w := by
    intro w hw
    have hall : ∀ w ∈ ["mkdef", "-f", "-t", "node", "groups=compute,all", "netboot=xnba", "mgt=ipmi",
        "cons=ipmi"], w ≠ "" ∧ w.toList.all isSettingChar = true := by
      decide
    exact isArgument_of_plain (hall w hw).1 (hall w hw).2
  have harch : IsArgument ("arch=" ++ r.node.os.arch.toText) :=
    isArgument_setting (by decide) (by decide) (plain_arch _)
  have hmac : IsArgument ("mac=" ++ r.mac) :=
    isArgument_setting (by decide) (by decide) (plain_mac r.mac_valid)
  have hport : ∀ n, IsArgument ("serialport=" ++ decimal n) := fun n =>
    isArgument_setting (by decide) (by decide) (plain_decimal n)
  have hspeed : ∀ n, IsArgument ("serialspeed=" ++ decimal n) := fun n =>
    isArgument_setting (by decide) (by decide) (plain_decimal n)
  simp only [List.forall_mem_cons] at hfixed
  obtain ⟨hmkdef, hf, ht, hnode, hgroups, hnetboot, hmgt, hcons, -⟩ := hfixed
  cases hbmc : r.node.bmc with
  | none =>
    simp only [arguments, hbmc, List.append_nil, List.forall_mem_cons]
    constructor
    · rintro ⟨-, -, -, -, hname, -, haddress, -⟩
      exact ⟨hname, haddress, by simp [hbmc]⟩
    · intro h
      exact ⟨hmkdef, hf, ht, hnode, h.hostname, harch, h.address, hmac, hgroups, hnetboot, by simp⟩
  | some bmc =>
    simp only [arguments, hbmc, List.forall_mem_append, List.forall_mem_cons]
    constructor
    · rintro ⟨⟨-, -, -, -, hname, -, haddress, -⟩, hbmcAddress, huser, hpass, -⟩
      refine ⟨hname, haddress, fun other hother => ?_⟩
      obtain rfl := Option.some.inj (hbmc.symm.trans hother)
      exact ⟨hbmcAddress, huser, hpass⟩
    · intro h
      obtain ⟨hbmcAddress, huser, hpass⟩ := h.bmc bmc hbmc
      exact ⟨⟨hmkdef, hf, ht, hnode, h.hostname, harch, h.address, hmac, hgroups, hnetboot, by simp⟩,
        hbmcAddress, huser, hpass, hmgt, hcons, hport _, hspeed _, by simp⟩

/-! ## Registering a node -/

/-- The commands of a provisioner reach the tools as they are meant: the shell takes the script of
confluent for the commands that it spells out, and `mkdef` of xCAT gets its arguments. -/
def Reaches [FileNamePatterns] [ProcessArguments] (r : Registration) (nodeOS : OS) : Provisioner → Prop
  | .Confluent => ∃ script,
      buildNodeDefinitionScript r.node r.network (buildConfluentImageName nodeOS) = .ok script ∧
        read script = some (r.commands (buildConfluentImageName nodeOS))
  | .xCAT => ∃ command,
      addNodeCommand r.node = .ok command ∧ ProcessArguments.split command = r.arguments

/-- What a provisioner asks of the values of a node. -/
def Literal [FileNamePatterns] [ProcessArguments] (r : Registration) : Provisioner → Prop
  | .Confluent => r.LiteralScript
  | .xCAT => r.LiteralArguments

theorem reaches_confluent_iff [FileNamePatterns] [ProcessArguments] (r : Registration) (nodeOS : OS) :
    r.Reaches nodeOS .Confluent ↔ r.LiteralScript := by
  have hne : ∀ words ∈ r.commands (buildConfluentImageName nodeOS), words ≠ [] := by
    unfold commands
    cases r.node.bmc <;> simp
  have hread : read ("\n" ++ render (r.commands (buildConfluentImageName nodeOS))) =
      some (r.commands (buildConfluentImageName nodeOS)) ↔ r.LiteralScript := by
    rw [read_lineEnd, read_render_iff hne]
    exact ⟨literalScript_of_commands, fun h => commands_of_literalScript h nodeOS⟩
  rw [Reaches, buildNodeDefinitionScript_eq, ← hread]
  constructor
  · rintro ⟨script, hscript, hcommands⟩
    rwa [← Except.ok.inj hscript] at hcommands
  · intro h
    exact ⟨_, rfl, h⟩

theorem reaches_xCAT_iff [FileNamePatterns] [ProcessArguments] (r : Registration) (nodeOS : OS) :
    r.Reaches nodeOS .xCAT ↔ r.LiteralArguments := by
  have hsplit : ProcessArguments.split (spaced r.arguments) = r.arguments ↔ r.LiteralArguments := by
    rw [ProcessArguments.split_spaced]
    exact arguments_literal_iff r
  rw [Reaches, addNodeCommand_eq, ← hsplit]
  constructor
  · rintro ⟨command, hcommand, h⟩
    rwa [← Except.ok.inj hcommand] at h
  · intro h
    exact ⟨_, rfl, h⟩

/-- The attributes of a node reach the tools, and nothing else is run, exactly when its values
stand for themselves. -/
theorem nodeCommands_literal_iff [FileNamePatterns] [ProcessArguments] (r : Registration)
    (nodeOS : OS) (provisioner : Provisioner) : r.Reaches nodeOS provisioner ↔ r.Literal provisioner := by
  cases provisioner with
  | Confluent => exact r.reaches_confluent_iff nodeOS
  | xCAT => exact r.reaches_xCAT_iff nodeOS

/-! ## What is registered -/

/-- Every node of a filled cluster can be registered, over the management network. -/
theorem exists_registration {host : Host} {af : AnswerFile} {m : Cluster}
    (h : Cluster.fillData host af (Cluster.fresh host) = .ok m) :
    ∀ node ∈ m.nodes, ∃ r : Registration, r.node = node ∧ m.getNetwork .Management = .ok r.network := by
  obtain ⟨f, hsound, rfl⟩ := Cluster.fillData_fresh.mp h
  intro node hnode
  obtain ⟨afNode, -, hfilled⟩ := exists_of_forall₂ (except_mapM_ok.mp hsound.nodes) hnode
  obtain ⟨v, hv, rfl⟩ := Cluster.fillNode_eq_ok.mp hfilled
  obtain ⟨given, -, hvalid, hlower⟩ := hv.macAddress
  obtain ⟨nodeCIDR, hcidr⟩ := NetworkRole.subnetMaskToCIDR_of_isMask hsound.management.2.mask
  have hmac : Connection.validateMAC v.macAddress = .ok () := by
    rw [hlower, Connection.validateMAC_lower, hvalid]
  refine ⟨⟨v.node f.nodeOS, f.management.network .Management, _, v.rootPassword, v.macAddress, nodeCIDR,
    rfl, rfl, rfl, rfl, hmac, hcidr⟩, rfl, ?_⟩
  simp [Cluster.getNetwork, Filling.cluster, Cluster.setDefaults, Filling.networks, Filling.profiles,
    Filling.link, Link.network]

end Registration

end

/-! ## Two passwords -/

/-- A node of an answerfile with the two passwords. -/
def passwordNode (rootPassword bmcPassword : String) : AFNode where
  startIp := some (.v4 0x0A000001#32)
  hostname := some "n01"
  rootPassword := some rootPassword
  macAddress := some "52:54:00:00:20:11"
  sockets := some "1"
  coresPerSocket := some "2"
  threadsPerCore := some "1"
  bmcAddress := some "10.0.1.1"
  bmcUsername := some "admin"
  bmcPassword := some bmcPassword
  bmcSerialport := some "0"
  bmcSerialspeed := some "9600"

def rocky9 : OS := OS.ofPlatform .Rocky .el9 5 .x86_64

def nodeNetwork : Network where
  profile := .Management
  kind := .Ethernet
  subnetMask := .v4 0xFFFFFF00#32

def nodeConnection : Connection where
  profile := .Management
  mac := some "52:54:00:00:20:11"
  address := .v4 0x0A000001#32

def registeredNode (rootPassword bmcPassword : String) : Node where
  hostname := "n01"
  os := rocky9
  cpu := { sockets := 1, coresPerSocket := 2, threadsPerCore := 1 }
  connections := [nodeConnection]
  bmc := some
    { address := "10.0.1.1", username := "admin", password := bmcPassword, serialPort := 0
      serialSpeed := 9600 }
  nodeStartIp := some (.v4 0x0A000001#32)
  macAddress := "52:54:00:00:20:11"
  nodeRootPassword := some rootPassword

def passwordRegistration (rootPassword bmcPassword : String) : @Registration plainInet6 :=
  @Registration.mk plainInet6 (registeredNode rootPassword bmcPassword) nodeNetwork nodeConnection
    rootPassword "52:54:00:00:20:11" 24 rfl rfl rfl rfl (by decide) (by decide)

/-- A semicolon in the root password ends the `nodeattrib` command, and a space in the password of
the BMC an argument of `mkdef`. -/
theorem passwords_do_not_reach :
    Cluster.fillNode rocky9 nodeNetwork (passwordNode "a;reboot" "pa ss") =
        .ok (registeredNode "a;reboot" "pa ss") ∧
      ∀ provisioner, ¬ @Registration.Reaches plainInet6 plainPatterns plainArguments
        (passwordRegistration "a;reboot" "pa ss") rocky9 provisioner := by
  refine ⟨by decide, ?_⟩
  intro provisioner
  cases provisioner with
  | xCAT =>
    rw [@Registration.reaches_xCAT_iff plainInet6 plainPatterns plainArguments]
    intro h
    have hpassword : splitSpaces ("bmcpassword=" ++ "pa ss" ++ " ") = ["bmcpassword=" ++ "pa ss"] :=
      (@Registration.LiteralArguments.bmc plainInet6 plainArguments _ h _ rfl).2.2
    exact absurd hpassword (by decide)
  | Confluent =>
    rw [@Registration.reaches_confluent_iff plainInet6 plainPatterns plainArguments]
    intro h
    have hpassword := @Registration.LiteralScript.rootPassword plainInet6 plainPatterns _ h
      "crypted.rootpassword" (by simp)
    exact absurd (@LiteralValue.chars plainPatterns _ _ hpassword) (by decide)

/-- What the line with the root password runs. -/
example : @read plainPatterns "nodeattrib n01 crypted.rootpassword=a;reboot\n" =
    some [["nodeattrib", "n01", "crypted.rootpassword=a"], ["reboot"]] := by
  decide

end OpenCattus
