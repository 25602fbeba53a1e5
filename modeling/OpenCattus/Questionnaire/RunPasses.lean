import OpenCattus.Foundations.Passes
import OpenCattus.Questionnaire.Run
import OpenCattus.Questionnaire.SettingSteps

/-!
# The passes of a run

A run of the questionnaire as the list of its passes, Back included. What one step sets comes from
the latest pass through this step (`of_latest`), with the answers that this pass takes.
-/

namespace OpenCattus

open Foundations Foundations.Text Foundations.Inet Program Dialog

abbrev QuestionnairePass : Type := Program.Pass Progress (Session Cluster)

/-- The answers that a pass takes. -/
def answersOf (v : QuestionnairePass) : List Answer :=
  v.before.script.take (v.before.script.length - v.after.script.length)

/-- The pass again, with no answers but its own. -/
def replayed (v : QuestionnairePass) : Session Cluster := { v.before with script := answersOf v }

/-- The latest of the passes through a step. -/
def latestPass (name : String) (vs : List QuestionnairePass) : Option QuestionnairePass :=
  lastAt Progress.stepIndex (stepNames.idxOf name) vs

def latestAnswers (name : String) (vs : List QuestionnairePass) : Option (List Answer) :=
  (latestPass name vs).map answersOf

section

variable [Inet6]

/-- The passes of a run. -/
def questionnairePasses (probes : Probes) (completedSteps : Finset String) (s : Session Cluster) :
    List QuestionnairePass :=
  let p := Progress.start completedSteps
  passes (pass probes) (passesLeft p s + 1) p s

/-! ## One pass -/

variable {probes : Probes} {p q : Progress} {s s' z : Session Cluster}
  {vs : List QuestionnairePass} {v : QuestionnairePass} {name : String} {body : Presenter Unit}
  {γ : Type} {f : Cluster → γ}

theorem eq_idxOf_of_getElem {i : Nat} (h : (steps probes)[i]? = some (name, body)) :
    i = stepNames.idxOf name := by
  have hname : stepNames[i]? = some name := by
    rw [← map_fst_steps probes, List.getElem?_map, h]
    rfl
  obtain ⟨hlt, rfl⟩ := List.getElem?_eq_some_iff.mp hname
  exact (stepNames_nodup.idxOf_getElem i hlt).symm

theorem moves_pass (h : Returns (pass probes p) s (some q) s') :
    q.stepIndex = p.stepIndex + 1 ∨ q.stepIndex + 1 = p.stepIndex := by
  obtain ⟨name, body, outcome, list, -, -, hadvance⟩ := returns_pass h
  obtain ⟨-, ⟨-, hup⟩ | ⟨-, hdown⟩⟩ := stepIndex_advance hadvance
  · exact .inl hup
  · exact .inr hdown

/-- A pass that goes up has completed its step. -/
theorem completes_pass (h : Returns (pass probes p) s (some q) s')
    (hup : q.stepIndex = p.stepIndex + 1)
    (hbody : (steps probes)[p.stepIndex]? = some (name, body)) : Returns body s () s' := by
  obtain ⟨name', body', outcome, list, hstep, houtcome, hadvance⟩ := returns_pass h
  obtain ⟨rfl, rfl⟩ := Prod.mk.inj (Option.some.inj (hstep.symm.trans hbody))
  obtain ⟨-, ⟨rfl, -⟩ | ⟨-, hdown⟩⟩ := stepIndex_advance hadvance
  · rcases returns_stepOutcome houtcome with ⟨-, hreturns⟩ | ⟨hne, -⟩
    · exact hreturns
    · cases hne
  · omega

/-- A pass through another step leaves what the step sets. -/
theorem SetBy.of_pass (hset : SetBy name f) (h : Returns (pass probes p) s (some q) s')
    (hother : p.stepIndex ≠ stepNames.idxOf name) : f s'.model = f s.model := by
  obtain ⟨other, body, outcome, list, hstep, houtcome, -⟩ := returns_pass h
  have hname : other ≠ name := by
    rintro rfl
    exact hother (eq_idxOf_of_getElem hstep)
  have hleaves := hset.leaves (List.mem_of_getElem? hstep) hname
  rcases returns_stepOutcome houtcome with ⟨-, hreturns⟩ | ⟨-, hraises⟩
  · exact hleaves.returns hreturns
  · exact hleaves.raises hraises

/-- Neither does one that stops in another step. -/
theorem SetBy.of_raises {stop : Stop Exception} (hset : SetBy name f)
    (h : Raises (pass probes p) s stop s') (hother : p.stepIndex ≠ stepNames.idxOf name) :
    f s'.model = f s.model := by
  unfold pass at h
  split at h
  · cases h
  · rename_i other body hstep
    have hname : other ≠ name := by
      rintro rfl
      exact hother (eq_idxOf_of_getElem hstep)
    have hleaves := hset.leaves (List.mem_of_getElem? hstep) hname
    rcases raises_bind.mp h with houtcome | ⟨outcome, s₁, houtcome, h⟩
    · exact hleaves.raises (raises_stepOutcome houtcome).2
    · have hmodel : f s₁.model = f s.model := by
        rcases returns_stepOutcome houtcome with ⟨-, hreturns⟩ | ⟨-, hraises⟩
        · exact hleaves.returns hreturns
        · exact hleaves.raises hraises
      split at h
      · cases h
      · cases h
        exact hmodel

omit [Inet6] in
theorem replayed_of_returns (hreads : Reads body) (h : Returns body v.before () v.after) :
    Returns body (replayed v) () ⟨v.after.model, []⟩ := by
  obtain ⟨taken, hscript, hmore⟩ := hreads.taken h
  have hanswers : answersOf v = taken := by
    rw [answersOf, hscript, List.length_append, Nat.add_sub_cancel, List.take_left']
    rfl
  have hreturns := hmore []
  rw [List.append_nil, ← hanswers] at hreturns
  exact hreturns

/-! ## A whole run -/

/-- A run from `s` to `z`, through these passes and past the last step. -/
def RunsThrough (probes : Probes) (s : Session Cluster) (vs : List QuestionnairePass)
    (z : Session Cluster) : Prop :=
  ∃ p q, Walk (pass probes) (p, s) vs (q, z) ∧ stepNames.length ≤ q.stepIndex

theorem SetBy.of_walk (hset : SetBy name f) (hwalk : Walk (pass probes) (p, s) vs (q, z))
    (hother : ∀ v ∈ vs, v.value.stepIndex ≠ stepNames.idxOf name) : f z.model = f s.model :=
  hwalk.keeps (f := fun s => f s.model) fun v hv =>
    hset.of_pass (hwalk.returns hv) (hother v hv)

namespace RunsThrough

variable (h : RunsThrough probes s vs z)

include h

theorem lastPass (hname : name ∈ stepNames) (hlatest : latestPass name vs = some v) :
    ∃ p q, LastPass (pass probes) Progress.stepIndex (stepNames.idxOf name) (p, s) vs v (q, z) := by
  obtain ⟨p, q, hwalk, hq⟩ := h
  exact ⟨p, q, hwalk.last (Nat.lt_of_lt_of_le (List.idxOf_lt_length_iff.mpr hname) hq)
    (fun _ hv => moves_pass (hwalk.returns hv)) hlatest⟩

theorem of_none (hset : SetBy name f) (hlatest : latestPass name vs = none) :
    f z.model = f s.model := by
  obtain ⟨p, q, hwalk, -⟩ := h
  exact hset.of_walk hwalk (lastAt_eq_none.mp hlatest)

/-- Where a setting comes from: the latest pass through its step has completed it, and it stays as
that pass left it. -/
theorem of_latest (hset : SetBy name f) (hlatest : latestPass name vs = some v)
    (hbody : (steps probes)[stepNames.idxOf name]? = some (name, body)) :
    Returns body (replayed v) () ⟨v.after.model, []⟩ ∧ f z.model = f v.after.model := by
  obtain ⟨p, q, hlast⟩ := h.lastPass hset.step_mem hlatest
  have hindex : v.value.stepIndex = stepNames.idxOf name := hlast.at_level
  obtain ⟨ws, -, hlater, habove⟩ := hlast.later
  refine ⟨?_, hset.of_walk hlater fun w hw => Nat.ne_of_gt (habove w hw)⟩
  have hcompleted : Returns body v.before () v.after := by
    refine completes_pass hlast.round ?_ (hindex ▸ hbody)
    rw [hlast.goes_up, hindex]
  exact replayed_of_returns (reads_of_getElem hbody) hcompleted

/-- In a straight run the pass begins with what the run began with. -/
theorem of_straight (hset : SetBy name f)
    (hup : ∀ v ∈ vs, v.next.stepIndex = v.value.stepIndex + 1)
    (hlatest : latestPass name vs = some v) : f v.before.model = f s.model := by
  obtain ⟨p, q, hlast⟩ := h.lastPass hset.step_mem hlatest
  obtain ⟨ws, hsub, hearlier⟩ := hlast.earlier
  have hbelow := (hearlier.below_of_up Progress.stepIndex fun w hw => hup w (hsub hw)).2
  refine hset.of_walk hearlier fun w hw => Nat.ne_of_lt ?_
  rw [← hlast.at_level]
  exact hbelow w hw

/-- What a step sets stays in the latest pass through a later step, and behind it. -/
theorem at_later {later : String} (hset : SetBy name f) (hmem : later ∈ stepNames)
    (hlt : stepNames.idxOf name < stepNames.idxOf later) (hlatest : latestPass later vs = some v) :
    f z.model = f v.before.model := by
  obtain ⟨p, q, hlast⟩ := h.lastPass hmem hlatest
  have hindex := hlast.at_level
  obtain ⟨ws, -, hbehind, habove⟩ := hlast.later
  have hfinal : f z.model = f v.after.model :=
    hset.of_walk hbehind fun w hw => Nat.ne_of_gt (Nat.lt_trans hlt (habove w hw))
  refine hfinal.trans (hset.of_pass hlast.round ?_)
  rw [hindex]
  exact Nat.ne_of_gt hlt

end RunsThrough

section

variable {completedSteps : Finset String}

omit [Inet6] in
/-- The download only changes what is known of the image. -/
theorem leaves_downloadPendingDiskImage (probes : Probes) :
    Leaves (downloadPendingDiskImage probes) Cluster.withoutSystem := by
  refine leaves_bind leaves_getModel fun _ => ?_
  split
  · exact leaves_pure _
  · split
    · exact leaves_setModel fun _ => rfl
    · exact leaves_raise _

theorem walk_presenterInstall (h : Returns (presenterInstall probes completedSteps) s () s') :
    ∃ q z, Walk (pass probes) (Progress.start completedSteps, s)
        (questionnairePasses probes completedSteps s) (q, z) ∧ stepNames.length ≤ q.stepIndex ∧
      s'.model.withoutSystem = z.model.withoutSystem := by
  obtain ⟨q, z, hpasses, hdownload⟩ := returns_bind.mp h
  obtain ⟨s₁, hwalk, hlast⟩ := walk_passes hpasses
  have hend : s₁ = z ∧ stepNames.length ≤ q.stepIndex := by
    unfold pass at hlast
    split at hlast
    · rename_i hnone
      refine ⟨(returns_pure.mp hlast).2, ?_⟩
      rw [← map_fst_steps probes, List.length_map]
      exact List.getElem?_eq_none_iff.mp hnone
    · obtain ⟨outcome, s₂, -, hlast⟩ := returns_bind.mp hlast
      split at hlast
      · cases hlast
      · cases hlast
  obtain ⟨rfl, hq⟩ := hend
  refine ⟨q, s₁, hwalk, hq, ?_⟩
  exact (leaves_downloadPendingDiskImage probes).returns hdownload

theorem runsThrough_presenterInstall (h : Returns (presenterInstall probes completedSteps) s () s') :
    ∃ z, RunsThrough probes s (questionnairePasses probes completedSteps s) z ∧
      s'.model.withoutSystem = z.model.withoutSystem := by
  obtain ⟨q, z, hwalk, hq, hsystem⟩ := walk_presenterInstall h
  exact ⟨z, ⟨_, q, hwalk, hq⟩, hsystem⟩

/-- A run goes through every step behind the one that it begins with. -/
theorem exists_latestPass (h : Returns (presenterInstall probes completedSteps) s () s')
    (hname : name ∈ stepNames)
    (hstart : (Progress.start completedSteps).stepIndex < stepNames.idxOf name) :
    ∃ v, latestPass name (questionnairePasses probes completedSteps s) = some v := by
  obtain ⟨q, z, hwalk, hq, -⟩ := walk_presenterInstall h
  have hlt := List.idxOf_lt_length_iff.mpr hname
  rw [← Option.ne_none_iff_exists']
  intro hnone
  have hpassed := lastAt_eq_none.mp hnone
  have hbelow := hwalk.stays_below (fun v hv => ?_) hpassed hstart ?_
  · dsimp only at hbelow
    omega
  · rcases moves_pass (hwalk.returns hv) with hup | hdown <;> omega
  · dsimp only
    omega

end

end

end OpenCattus
