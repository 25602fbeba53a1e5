import OpenCattus.Cluster.LinkCodec
import OpenCattus.Session.Draft

/-!
# The step loop of the questionnaire

`PresenterInstall` runs its steps in a fixed order, goes back one step when the operator
asks for it, and reports the names of the completed steps after every move. The report is
what a draft keeps and what the next session starts from.

`advance_eq` describes one pass of the loop from a state whose history is a prefix of the
step names, and `isPrefix_runSteps` carries this through every sequence of passes.
`completedSteps_draftData` reads a report back from the draft, and
`start_take` restarts from it.
-/

namespace OpenCattus

open Foundations Foundations.Text Foundations.Inet

/-! ## The loop -/

/-- The names in `steps`, in their order. -/
def stepNames : List String :=
  ["general", "time", "locale", "hostname", "networking", "os", "provisioner", "ohpc",
    "repositories", "nodes", "queue", "mail", "preflight"]

/-- `std::vector::resize` on a vector of names: cut it, or fill it up with empty names. -/
def resize (size : Nat) (names : List String) : List String :=
  names.take size ++ List.replicate (size - names.length) ""

/-- The variables of the loop. -/
structure Progress where
  stepIndex : Nat
  completedHistory : List String
  deriving DecidableEq, Repr

/-- How the body of a step ends, when it neither stops the questionnaire nor fails. -/
inductive StepOutcome where
  | completed
  | backRequested
  deriving DecidableEq, Repr

/-- The first loop: collect the leading steps that are already completed. -/
def Progress.start (completedSteps : Finset String) : Progress :=
  let completedHistory := stepNames.takeWhile (· ∈ completedSteps)
  { stepIndex := completedHistory.length, completedHistory }

namespace Progress

/-- The history after the step `name` at `stepIndex`. -/
def recordCompletion (p : Progress) (name : String) : List String :=
  if p.completedHistory.length = p.stepIndex then
    p.completedHistory ++ [name]
  else if p.completedHistory.length < p.stepIndex then
    resize p.stepIndex p.completedHistory ++ [name]
  else
    (resize (p.stepIndex + 1) p.completedHistory).dropLast ++ [name]

/-- One pass of the second loop: the list given to `onStepComplete`, and the variables
after it. There is no pass after the last step, and Back at the first step ends the
questionnaire. -/
def advance (p : Progress) (outcome : StepOutcome) : Option (List String × Progress) :=
  match stepNames[p.stepIndex]?, outcome with
  | none, _ => none
  | some name, .completed =>
    let completedHistory := p.recordCompletion name
    some (completedHistory, ⟨p.stepIndex + 1, completedHistory⟩)
  | some _, .backRequested =>
    if p.stepIndex = 0 then none
    else
      let completedHistory := resize (p.stepIndex - 1) p.completedHistory
      some (completedHistory, ⟨p.stepIndex - 1, completedHistory⟩)

/-- A sequence of passes. -/
def runSteps (p : Progress) : List StepOutcome → Option Progress
  | [] => some p
  | outcome :: outcomes =>
    match p.advance outcome with
    | none => none
    | some (_, q) => q.runSteps outcomes

/-! ## The invariant -/

/-- The history is the names of the steps before the one that runs next. -/
structure IsPrefix (p : Progress) : Prop where
  history_eq : p.completedHistory = stepNames.take p.stepIndex
  index_le : p.stepIndex ≤ stepNames.length

theorem IsPrefix.length_eq {p : Progress} (hp : p.IsPrefix) :
    p.completedHistory.length = p.stepIndex := by
  rw [hp.history_eq, List.length_take]
  exact Nat.min_eq_left hp.index_le

theorem isPrefix_start (completedSteps : Finset String) : (start completedSteps).IsPrefix := by
  have hprefix : stepNames.takeWhile (· ∈ completedSteps) <+: stepNames :=
    List.takeWhile_prefix _
  exact ⟨List.prefix_iff_eq_take.mp hprefix, hprefix.length_le⟩

/-- What a pass does: it moves one step on or one step back, and the list it reports is the
history it leaves. -/
theorem advance_eq {p q : Progress} {outcome : StepOutcome} {list : List String}
    (hp : p.IsPrefix) (h : p.advance outcome = some (list, q)) :
    q.completedHistory = list ∧ list = stepNames.take q.stepIndex ∧
      q.stepIndex ≤ stepNames.length ∧
      (outcome = .completed → q.stepIndex = p.stepIndex + 1) ∧
      (outcome = .backRequested → q.stepIndex + 1 = p.stepIndex) := by
  unfold advance at h
  cases hname : stepNames[p.stepIndex]? with
  | none => simp [hname] at h
  | some name =>
    obtain ⟨hlt, hget⟩ := List.getElem?_eq_some_iff.mp hname
    cases outcome with
    | completed =>
      -- The history has exactly `stepIndex` names, so only the first branch is taken.
      have hrecord : p.recordCompletion name = stepNames.take (p.stepIndex + 1) := by
        rw [recordCompletion, if_pos hp.length_eq, hp.history_eq, ← hget, List.take_append_getElem]
      simp only [hname, Option.some.injEq, Prod.mk.injEq] at h
      obtain ⟨rfl, rfl⟩ := h
      refine ⟨rfl, hrecord, hlt, fun _ => rfl, ?_⟩
      intro hback
      cases hback
    | backRequested =>
      simp only [hname] at h
      split at h
      · cases h
      · rename_i hne
        simp only [Option.some.injEq, Prod.mk.injEq] at h
        obtain ⟨rfl, rfl⟩ := h
        have hcut : resize (p.stepIndex - 1) p.completedHistory =
            stepNames.take (p.stepIndex - 1) := by
          have hfull : p.stepIndex - 1 - p.completedHistory.length = 0 := by
            rw [hp.length_eq]
            omega
          rw [resize, hfull, List.replicate_zero, List.append_nil, hp.history_eq, List.take_take]
          congr 1
          omega
        refine ⟨rfl, hcut, ?_, ?_, ?_⟩
        · have := hp.index_le
          simp only
          omega
        · intro hcompleted
          cases hcompleted
        · intro _
          simp only
          omega

theorem isPrefix_advance {p q : Progress} {outcome : StepOutcome} {list : List String}
    (hp : p.IsPrefix) (h : p.advance outcome = some (list, q)) : q.IsPrefix := by
  obtain ⟨hlist, hprefix, hle, -⟩ := advance_eq hp h
  exact ⟨hlist.trans hprefix, hle⟩

theorem isPrefix_runSteps {p q : Progress} {outcomes : List StepOutcome} (hp : p.IsPrefix)
    (h : p.runSteps outcomes = some q) : q.IsPrefix := by
  induction outcomes generalizing p with
  | nil =>
    cases h
    exact hp
  | cons outcome outcomes ih =>
    unfold runSteps at h
    cases hadvance : p.advance outcome with
    | none => simp [hadvance] at h
    | some pass =>
      simp only [hadvance] at h
      exact ih (isPrefix_advance hp hadvance) h

end Progress

/-! ## Starting again from a report -/

theorem stepNames_nodup : stepNames.Nodup := by decide

theorem takeWhile_mem_take {names : List String} (hnodup : names.Nodup) (k : Nat) :
    names.takeWhile (· ∈ names.take k) = names.take k := by
  have hall : ∀ name ∈ names.take k, decide (name ∈ names.take k) = true := by
    intro name hname
    exact decide_eq_true hname
  have hrest : (names.drop k).takeWhile (· ∈ names.take k) = [] := by
    cases hdrop : names.drop k with
    | nil => rfl
    | cons name rest =>
      have hmem : name ∈ names.drop k := by
        rw [hdrop]
        exact List.mem_cons_self ..
      have hnot : name ∉ names.take k := fun h =>
        List.disjoint_take_drop hnodup (Nat.le_refl k) h hmem
      rw [List.takeWhile_cons_of_neg]
      simpa using hnot
  calc names.takeWhile (· ∈ names.take k)
      = (names.take k ++ names.drop k).takeWhile (· ∈ names.take k) := by
        rw [List.take_append_drop]
    _ = names.take k ++ (names.drop k).takeWhile (· ∈ names.take k) :=
        List.takeWhile_append_of_pos hall
    _ = names.take k := by rw [hrest, List.append_nil]

/-- The element after the leading run fails the test. -/
theorem getElem?_length_takeWhile {α : Type} {test : α → Bool} {l : List α} {x : α}
    (h : l[(l.takeWhile test).length]? = some x) : test x = false := by
  induction l with
  | nil => simp at h
  | cons y l ih =>
    by_cases hy : test y = true
    · rw [List.takeWhile_cons_of_pos hy, List.length_cons, List.getElem?_cons_succ] at h
      exact ih h
    · rw [List.takeWhile_cons_of_neg hy, List.length_nil, List.getElem?_cons_zero] at h
      cases h
      simpa using hy

theorem Progress.start_take {k : Nat} (hk : k ≤ stepNames.length) :
    Progress.start (stepNames.take k).toFinset = ⟨k, stepNames.take k⟩ := by
  unfold Progress.start
  simp only [List.mem_toFinset, takeWhile_mem_take stepNames_nodup, List.length_take,
    Nat.min_eq_left hk]

/-- `completedStepSet`. -/
def completedStepSet (state : DraftState) : Finset String := state.completedSteps.toFinset

/-- The step names survive the joined text of the draft. -/
theorem splitValues_joinList_take :
    ∀ k ≤ stepNames.length, splitValues (joinList (stepNames.take k)) = stepNames.take k := by
  intro k _
  have hclean : ∀ name ∈ stepNames,
      name ≠ "" ∧ ∀ c ∈ name.toList, isListSeparator c = false := by
    have hall : stepNames.all (fun name => name ≠ "" && name.toList.all fun c =>
        !isListSeparator c) = true := by
      decide
    intro name hname
    simpa using List.all_eq_true.mp hall name hname
  by_cases hnil : stepNames.take k = []
  · rw [hnil]
    decide
  · have hsplit : split isListSeparator (joinList (stepNames.take k)) = stepNames.take k :=
      respell_of_clean hnil (fun name hname => (hclean name (List.mem_of_mem_take hname)).2)
        (fun name hname => (hclean name (List.mem_of_mem_take hname)).1)
    rw [splitValues, hsplit, List.filter_eq_self]
    exact fun name hname => decide_eq_true (hclean name (List.mem_of_mem_take hname)).1

/-- An absent list of names reads like an empty one. -/
theorem elim_filter_splitValues (raw : String) :
    ((some raw).filter (· ≠ "")).elim [] splitValues = splitValues raw := by
  by_cases h : raw = ""
  · subst h
    decide
  · rw [Option.filter_some, if_pos (by simpa using h), Option.elim_some]

section

variable [Inet6]

theorem completedSteps_draftData (model : Cluster) {k : Nat} (hk : k ≤ stepNames.length)
    (complete : Bool) :
    (loadDraftState (some (model.draftData (stepNames.take k) complete))).completedSteps =
      stepNames.take k := by
  have hgroup : (model.draftData (stepNames.take k) complete).hasGroup metadataGroup = true := by
    rw [(carries_metadata_draftData model (stepNames.take k) complete).hasGroup_eq]
    rfl
  have hvalue : KeyData.assigned
      (metadataEntries model.pendingDiskImageDownloadURL (stepNames.take k) complete)
        "completed_steps" = some (joinList (stepNames.take k)) := by
    simp [metadataEntries, KeyData.assigned]
  simp only [loadDraftState, hgroup, if_true, optionalString_draftData, hvalue]
  rw [elim_filter_splitValues]
  exact splitValues_joinList_take k hk

/-- The session that resumes a draft. -/
def Progress.resume (file : Option KeyData) : Progress :=
  Progress.start (completedStepSet (loadDraftState file))

theorem Progress.resume_draftData (model : Cluster) {k : Nat} (hk : k ≤ stepNames.length)
    (complete : Bool) :
    Progress.resume (some (model.draftData (stepNames.take k) complete)) =
      ⟨k, stepNames.take k⟩ := by
  unfold Progress.resume completedStepSet
  rw [completedSteps_draftData model hk complete, Progress.start_take hk]

/-- Along every run from every set of completed steps the history is the list of the steps
before the next one, every report is the history it leaves, and a session that resumes a
draft with this report goes on where this one would have. -/
theorem isPrefix_step_history (completedSteps : Finset String) (outcomes : List StepOutcome)
    {p : Progress} (h : (Progress.start completedSteps).runSteps outcomes = some p) :
    p.IsPrefix ∧
      (∀ outcome list q, p.advance outcome = some (list, q) →
        list = stepNames.take q.stepIndex ∧ q.completedHistory = list ∧
          Progress.start list.toFinset = q ∧
          ∀ (model : Cluster) (complete : Bool),
            Progress.resume (some (model.draftData list complete)) = q) ∧
      (∀ name ∈ stepNames.take (Progress.start completedSteps).stepIndex,
        name ∈ completedSteps) ∧
      ∀ name, stepNames[(Progress.start completedSteps).stepIndex]? = some name →
        name ∉ completedSteps := by
  have hp : p.IsPrefix := Progress.isPrefix_runSteps (Progress.isPrefix_start _) h
  refine ⟨hp, ?_, ?_, ?_⟩
  · intro outcome list q hadvance
    obtain ⟨hheld, hlist, hle, -⟩ := Progress.advance_eq hp hadvance
    have hq : q = ⟨q.stepIndex, stepNames.take q.stepIndex⟩ := by
      rw [← hlist, ← hheld]
    refine ⟨hlist, hheld, ?_, ?_⟩
    · rw [hlist, Progress.start_take hle, ← hq]
    · intro model complete
      rw [hlist, Progress.resume_draftData model hle complete, ← hq]
  · intro name hname
    rw [← (Progress.isPrefix_start completedSteps).history_eq] at hname
    simpa using List.mem_takeWhile_imp hname
  · intro name hname
    simpa using getElem?_length_takeWhile hname

end

/-- Two steps completed, one of them left again, with a set that is no prefix. -/
theorem isPrefix_two_steps_and_back :
    (Progress.start {"general", "locale"}).runSteps [.completed, .completed, .backRequested] =
        some ⟨2, ["general", "time"]⟩ ∧
      (⟨2, ["general", "time"]⟩ : Progress).IsPrefix := by
  have hrun : (Progress.start {"general", "locale"}).runSteps
      [.completed, .completed, .backRequested] = some ⟨2, ["general", "time"]⟩ := by
    decide +kernel
  exact ⟨hrun, (@isPrefix_step_history plainInet6 {"general", "locale"}
    [.completed, .completed, .backRequested] ⟨2, ["general", "time"]⟩ hrun).1⟩

end OpenCattus
