import OpenCattus.OperatingSystem
import OpenCattus.Foundations.Additions
import OpenCattus.Foundations.Quoting

/-!
# Scripts that add lines to files

The commands of a `ScriptBuilder`, as far as they change the files that `addLineToFile` edits: a
file is the list of its lines, and `echo` appends one line.

`completeIdempotent_iff` says when a script leaves all its lines, and changes nothing when it is
run again.
-/

namespace OpenCattus

open Foundations

inductive ScriptCommand where
  /-- A command that leaves the edited files and the variables alone, or a comment. -/
  | command (text : String)
  /-- `NAME="value"` -/
  | assign (name value : String)
  /-- `NAME=$(hostname -s)` -/
  | assignHostname (name : String)
  /-- `grep -q "key" "path" || echo "line" >> "path"` -/
  | lineToFile (path key line : String)
  deriving DecidableEq, Repr

namespace ScriptBuilder

/-! ## The builder -/

def addNewLine : ScriptCommand := .command ""

def enableService (service : String) : ScriptCommand :=
  .command ("systemctl enable --now " ++ service)

def addPackage (os : OS) (pkg : String) : ScriptCommand :=
  match os.getPackageType with
  | .RPM => .command ("dnf install -y " ++ pkg)
  | .DEB => .command ("DEBIAN_FRONTEND=noninteractive apt install -y " ++ pkg)

end ScriptBuilder

/-! ## Running a script -/

/-- The values of the variables, and the lines of the files. -/
structure ScriptState where
  values : String → String
  files : String → List String

abbrev LineAddition : Type := Addition String String String

/-- What `grep` and `echo` get. -/
def expandedAddition (values : String → String) (path key line : String) : LineAddition :=
  { path := Shell.expand values path
    key := Shell.expand values key
    line := Shell.expand values line }

def ScriptCommand.run (hostname : String) (s : ScriptState) : ScriptCommand → ScriptState
  | .command _ => s
  | .assign name value =>
    { s with values := Function.update s.values name (Shell.expand s.values value) }
  | .assignHostname name => { s with values := Function.update s.values name hostname }
  | .lineToFile path key line =>
    { s with files := Additions.add grep s.files (expandedAddition s.values path key line) }

/-- A script starts without variables. -/
def runScript (hostname : String) (script : List ScriptCommand) (files : String → List String) :
    String → List String :=
  (script.foldl (ScriptCommand.run hostname) { values := fun _ => "", files }).files

/-- The lines that the script means to add, as they are expanded on the way. -/
def additionsOf (hostname : String) : (String → String) → List ScriptCommand → List LineAddition
  | _, [] => []
  | values, .command _ :: script => additionsOf hostname values script
  | values, .assign name value :: script =>
    additionsOf hostname (Function.update values name (Shell.expand values value)) script
  | values, .assignHostname name :: script =>
    additionsOf hostname (Function.update values name hostname) script
  | values, .lineToFile path key line :: script =>
    expandedAddition values path key line :: additionsOf hostname values script

def scriptAdditions (hostname : String) (script : List ScriptCommand) : List LineAddition :=
  additionsOf hostname (fun _ => "") script

/-- All lines are in their files after a run, and a second run changes no file. -/
structure CompleteIdempotent (hostname : String) (script : List ScriptCommand)
    (files : String → List String) : Prop where
  complete : ∀ a ∈ scriptAdditions hostname script,
    a.line ∈ runScript hostname script files a.path
  idempotent : runScript hostname script (runScript hostname script files) =
    runScript hostname script files

/-- A script does what its additions do. -/
theorem foldl_run_files (hostname : String) (script : List ScriptCommand) (s : ScriptState) :
    (script.foldl (ScriptCommand.run hostname) s).files =
      Additions.addAll grep s.files (additionsOf hostname s.values script) := by
  induction script generalizing s with
  | nil => rfl
  | cons c script ih =>
    rw [List.foldl_cons, ih]
    cases c with
    | command text => rfl
    | assign name value => rfl
    | assignHostname name => rfl
    | lineToFile path key line => rfl

theorem runScript_eq (hostname : String) (script : List ScriptCommand)
    (files : String → List String) :
    runScript hostname script files =
      Additions.addAll grep files (scriptAdditions hostname script) :=
  foldl_run_files hostname script _

theorem completeIdempotent_iff {hostname : String} {script : List ScriptCommand}
    (h : Additions.Independent grep (scriptAdditions hostname script))
    (files : String → List String) :
    CompleteIdempotent hostname script files ↔
      ∀ a ∈ scriptAdditions hostname script, Additions.Settled grep a (files a.path) := by
  rw [← Additions.complete_and_stable_iff h]
  constructor
  · rintro ⟨hcomplete, hidempotent⟩
    simp only [runScript_eq] at hcomplete hidempotent
    exact ⟨hcomplete, hidempotent⟩
  · rintro ⟨hcomplete, hidempotent⟩
    refine ⟨?_, ?_⟩
    · simp only [runScript_eq]
      exact hcomplete
    · simp only [runScript_eq]
      exact hidempotent

end OpenCattus
