import OpenCattus.Foundations.WholeFile
import OpenCattus.Cluster.Dump

/-!
# Drafts of the questionnaire

`writeDraft` dumps the model and then rewrites the file with a `[tui]` group that marks it
as a draft; `loadDraftState` and `isDraftAnswerfile` read the mark, and the start of the
program decides on it.

`isDraftAnswerfile_draftData` and `isDraftAnswerfile_dumpData` describe the two contents
that a save leaves. `every_file_a_draft_iff` says for a whole sequence of saves with
crashes when the file never passes for a complete answerfile.
-/

namespace OpenCattus

open Foundations Foundations.Text Foundations.Inet Foundations.WholeFile

/-! ## Reading the mark -/

/-- `optionalString`: an empty value counts as absent. -/
def optionalString (kd : KeyData) (group key : String) : Option String :=
  if kd.hasGroup group then (kd.lookup group key).filter (· ≠ "") else none

/-- `splitValues`. -/
def splitValues (raw : String) : List String := (split isListSeparator raw).filter (· ≠ "")

/-- `parseBool`. -/
def parseBool (raw : String) : Bool :=
  let normalized := lower raw
  normalized = "1" ∨ normalized = "true" ∨ normalized = "yes"

structure DraftState where
  draft : Bool := false
  completedSteps : List String := []
  lastCompletedStep : Option String := none
  deriving DecidableEq, Repr

def metadataGroup : String := "tui"

/-- `loadDraftState`, on the content of the file or its absence. -/
def loadDraftState (file : Option KeyData) : DraftState :=
  match file with
  | none => {}
  | some kd =>
    if kd.hasGroup metadataGroup then
      { draft := (optionalString kd metadataGroup "draft").any parseBool
        completedSteps := (optionalString kd metadataGroup "completed_steps").elim [] splitValues
        lastCompletedStep := optionalString kd metadataGroup "last_completed_step" }
    else {}

def isDraftAnswerfile (file : Option KeyData) : Bool := (loadDraftState file).draft

/-- What `runApplication` does with the answerfile that the command line names. -/
inductive AnswerfileStart where
  /-- The file is an incomplete draft and there is no questionnaire to resume it in. -/
  | refused
  | resumedDraft
  | loadedAnswerfile
  deriving DecidableEq, Repr

def startWithAnswerfile (enableTUI : Bool) (file : Option KeyData) : AnswerfileStart :=
  if isDraftAnswerfile file then
    if enableTUI then .resumedDraft else .refused
  else .loadedAnswerfile

/-! ## Writing a draft -/

/-- The entries of the `[tui]` group, in the order in which they are set. -/
def metadataEntries (pendingDownload : Option String) (completedSteps : List String)
    (complete : Bool) : List (String × Option String) :=
  [("format_version", some "1"),
    ("draft", some (if complete then "false" else "true")),
    ("completed_steps", some (joinList completedSteps)),
    ("pending_disk_image_download_url", pendingDownload),
    ("last_completed_step", completedSteps.getLast?)]

variable [Inet6]

/-- The content that `writeDraft` leaves in the file. -/
def Cluster.draftData (model : Cluster) (completedSteps : List String) (complete : Bool) :
    KeyData :=
  model.dumpData.setAll metadataGroup
    (metadataEntries model.pendingDiskImageDownloadURL completedSteps complete)

/-- The whole-file writes of `writeDraft`: the dump, and the dump with the group. -/
def writeDraft (model : Cluster) (completedSteps : List String) (complete : Bool) : List KeyData :=
  [model.dumpData, model.draftData completedSteps complete]

/-! ## What the two contents say -/

theorem metadataGroup_not_mem_dumpBlocks (af : AnswerFile) :
    metadataGroup ∉ (dumpBlocks af).map Prod.fst := by
  intro h
  simp only [dumpBlocks, List.map_append, List.mem_append] at h
  rcases h with (h | h) | h
  · revert h
    simp only [settingBlocks, List.map_cons, List.map_nil]
    decide
  · rw [map_fst_nodeBlocks] at h
    obtain ⟨n, -, hn⟩ := List.mem_map.mp h
    have hstarts := startsWith_nodeSection n
    rw [hn] at hstarts
    exact absurd hstarts (by decide)
  · revert h
    simp only [serviceBlocks, List.map_cons, List.map_nil]
    decide

/-- A dump has no `[tui]` group. -/
theorem carries_metadata_dumpData (model : Cluster) :
    model.dumpData.Carries metadataGroup [] := by
  rw [Cluster.dumpData, dumpOptions_eq_setBlocks]
  exact KeyData.carries_setBlocks_empty_of_not_mem (metadataGroup_not_mem_dumpBlocks _)

theorem carries_metadata_draftData (model : Cluster) (completedSteps : List String)
    (complete : Bool) :
    (model.draftData completedSteps complete).Carries metadataGroup
      (metadataEntries model.pendingDiskImageDownloadURL completedSteps complete) := by
  have hdump := carries_metadata_dumpData model
  constructor
  · intro k
    rw [Cluster.draftData, KeyData.lookup_setAll, if_pos rfl, hdump.lookup_eq]
    exact Option.or_none ..
  · rw [Cluster.draftData, KeyData.hasGroup_setAll, hdump.hasGroup_eq]
    simp [KeyData.assigns]

theorem isDraftAnswerfile_dumpData (model : Cluster) :
    isDraftAnswerfile (some model.dumpData) = false := by
  have hgroup : model.dumpData.hasGroup metadataGroup = false :=
    (carries_metadata_dumpData model).hasGroup_eq
  simp [isDraftAnswerfile, loadDraftState, hgroup]

theorem optionalString_draftData (model : Cluster) (completedSteps : List String)
    (complete : Bool) (key : String) :
    optionalString (model.draftData completedSteps complete) metadataGroup key =
      (KeyData.assigned
        (metadataEntries model.pendingDiskImageDownloadURL completedSteps complete) key).filter
          (· ≠ "") := by
  have hdraft := carries_metadata_draftData model completedSteps complete
  have hgroup : (model.draftData completedSteps complete).hasGroup metadataGroup = true := by
    rw [hdraft.hasGroup_eq]
    rfl
  rw [optionalString, if_pos hgroup, hdraft.lookup_eq]

theorem isDraftAnswerfile_draftData (model : Cluster) (completedSteps : List String)
    (complete : Bool) :
    isDraftAnswerfile (some (model.draftData completedSteps complete)) = !complete := by
  have hgroup : (model.draftData completedSteps complete).hasGroup metadataGroup = true := by
    rw [(carries_metadata_draftData model completedSteps complete).hasGroup_eq]
    rfl
  have hvalue : KeyData.assigned
      (metadataEntries model.pendingDiskImageDownloadURL completedSteps complete) "draft" =
        some (if complete then "false" else "true") := by
    simp [metadataEntries, KeyData.assigned]
  simp only [isDraftAnswerfile, loadDraftState, hgroup, if_true, optionalString_draftData, hvalue]
  cases complete <;> decide

/-! ## Saves that may be cut off -/

/-- A call of `writeDraft` with `complete = false`, and how many of its writes are made. -/
structure SaveCall where
  model : Cluster
  completedSteps : List String
  performed : Nat

def SaveCall.save (call : SaveCall) : Save KeyData where
  writes := writeDraft call.model call.completedSteps false
  performed := call.performed

/-- The file after a sequence of calls. -/
def fileAfter (calls : List SaveCall) (start : Option KeyData) : Option KeyData :=
  run (calls.map SaveCall.save) start

/-- The file is missing, or it is a draft and an unattended start refuses it. -/
def NeverComplete (file : Option KeyData) : Prop :=
  file.isSome = true →
    isDraftAnswerfile file = true ∧ startWithAnswerfile false file = .refused

omit [Inet6] in
theorem neverComplete_none : NeverComplete none := by
  intro h
  cases h

omit [Inet6] in
theorem neverComplete_iff {file : Option KeyData} :
    NeverComplete file ↔ Safe (fun kd => isDraftAnswerfile (some kd) = true) file := by
  unfold NeverComplete Safe startWithAnswerfile
  cases file with
  | none => simp
  | some kd =>
    constructor
    · intro h content hcontent
      rw [← hcontent]
      exact (h rfl).1
    · intro h _
      have hdraft := h kd rfl
      simp [hdraft]

/-- What is left by a call cut off between its two writes is no draft. -/
theorem safe_left_iff (call : SaveCall) :
    Safe (fun kd => isDraftAnswerfile (some kd) = true) call.save.left ↔ call.performed ≠ 1 := by
  have hdump := isDraftAnswerfile_dumpData call.model
  have hdraft := isDraftAnswerfile_draftData call.model call.completedSteps false
  obtain ⟨model, steps, performed⟩ := call
  match performed with
  | 0 => simp [Safe, Save.left, SaveCall.save]
  | 1 => simp [Safe, Save.left, SaveCall.save, writeDraft, hdump]
  | n + 2 => simp [Safe, Save.left, SaveCall.save, writeDraft, hdraft]

theorem every_file_a_draft_iff {start : Option KeyData} (hstart : NeverComplete start)
    (calls : List SaveCall) :
    (∀ n, NeverComplete (fileAfter (calls.take n) start)) ↔
      ∀ call ∈ calls, call.performed ≠ 1 := by
  have hsaves : (∀ save ∈ calls.map SaveCall.save,
      Safe (fun kd => isDraftAnswerfile (some kd) = true) save.left) ↔
        ∀ call ∈ calls, call.performed ≠ 1 := by
    simp only [List.forall_mem_map, safe_left_iff]
  rw [← hsaves, ← forall_run_take_iff (neverComplete_iff.mp hstart)]
  simp only [neverComplete_iff, fileAfter, List.map_take]

/-- A model as the program starts with it. -/
def blankCluster : Cluster where
  headnode :=
    { hostname := "head"
      fqdn := "head.cluster.local"
      os := .ofPlatform .Rocky .el9 6 .x86_64 }

omit [Inet6] in
/-- A save that is made in full, onto a path that is absent. -/
theorem full_save_a_draft_iff :
    NeverComplete none ∧
      ((∀ n, NeverComplete (@fileAfter plainInet6
          ([⟨blankCluster, ["general"], 2⟩].take n) none)) ↔
        ∀ call ∈ [(⟨blankCluster, ["general"], 2⟩ : SaveCall)], call.performed ≠ 1) :=
  ⟨neverComplete_none,
    @every_file_a_draft_iff plainInet6 none neverComplete_none [⟨blankCluster, ["general"], 2⟩]⟩

omit [Inet6] in
/-- The first save of a session, cut off between its two writes. -/
theorem cut_save_not_a_draft :
    NeverComplete none ∧
      ¬ NeverComplete (@fileAfter plainInet6 [⟨blankCluster, ["general"], 1⟩] none) := by
  refine ⟨neverComplete_none, ?_⟩
  intro h
  have hdraft := (h (by decide)).1
  revert hdraft
  decide

end OpenCattus
