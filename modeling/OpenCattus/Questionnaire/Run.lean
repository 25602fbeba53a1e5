import OpenCattus.Questionnaire.Steps

/-!
# Runs of the questionnaire

The loop over the steps, with Back, and the download behind it. A pass runs a step; what the step
raises leaves the questionnaire, but for Back.

`runPasses_eq` is the equation of the loop, `raises_presenterInstall` says where a run that stops
does so, and `questionnaire_orderly` when it only stops by Abort.
-/

namespace OpenCattus

open Foundations Foundations.Text Foundations.Inet Program Dialog

/-! ## The loop -/

/-- A step, and how it ends. -/
def stepOutcome (body : Presenter Unit) : Presenter StepOutcome :=
  rescue (body >>= fun _ => pure .completed) fun
    | .back => some (pure .backRequested)
    | _ => none

/-- The passes that are left when every answer that is to come is Back. -/
def passesLeft (p : Progress) (s : Session Cluster) : Nat :=
  (stepNames.length + 1) * s.script.length + (stepNames.length - p.stepIndex)

/-- `downloadPendingDiskImage`. A download that is stopped, or that fails, is an Abort. -/
def downloadPendingDiskImage (probes : Probes) : Presenter Unit := do
  let model ← getModel
  match model.pendingDiskImageDownloadURL with
  | none => pure ()
  | some pendingURL =>
    if probes.host.dryRun || probes.downloads pendingURL then
      setModel (·.clearPendingDiskImageDownload)
    else fatalMessage

section

variable [Inet6]

/-- A pass of the loop. There is none after the last step, and Back at the first step stops the
questionnaire. -/
def pass (probes : Probes) (p : Progress) : Presenter (Option Progress) :=
  match (steps probes)[p.stepIndex]? with
  | none => pure none
  | some (_, body) => do
    let outcome ← stepOutcome body
    match p.advance outcome with
    | some (_, next) => pure (some next)
    | none => fatalMessage

def runPasses (probes : Probes) (p : Progress) : Presenter Progress := fun s =>
  iterate .waiting (pass probes) (passesLeft p s + 1) p s

/-- `PresenterInstall`, behind its first messages. -/
def presenterInstall (probes : Probes) (completedSteps : Finset String) : Presenter Unit := do
  let _ ← runPasses probes (Progress.start completedSteps)
  downloadPendingDiskImage probes

/-! ## A pass -/

variable {probes : Probes} {p q : Progress} {s s' : Session Cluster}

omit [Inet6] in
theorem returns_stepOutcome {body : Presenter Unit} {outcome : StepOutcome}
    (h : Returns (stepOutcome body) s outcome s') :
    outcome = .completed ∧ Returns body s () s' ∨
      outcome = .backRequested ∧ Raises body s .back s' := by
  rcases returns_rescue.mp h with hcompleted | ⟨stop, s₁, y, hraises, hhandler, hy⟩
  · obtain ⟨u, s₁, hbody, hpure⟩ := returns_bind.mp hcompleted
    obtain ⟨rfl, rfl⟩ := returns_pure.mp hpure
    exact .inl ⟨rfl, hbody⟩
  · cases stop with
    | back =>
      obtain rfl := Option.some.inj hhandler
      obtain ⟨rfl, rfl⟩ := returns_pure.mp hy
      rcases raises_bind.mp hraises with hbody | ⟨u, s₂, -, hpure⟩
      · exact .inr ⟨rfl, hbody⟩
      · cases hpure
    | _ => cases hhandler

omit [Inet6] in
theorem raises_stepOutcome {body : Presenter Unit} {stop : Stop Exception}
    (h : Raises (stepOutcome body) s stop s') : stop ≠ .back ∧ Raises body s stop s' := by
  rcases raises_rescue h with ⟨hraises, hhandler⟩ | ⟨stop₁, s₁, y, -, hhandler, hy⟩
  · refine ⟨?_, ?_⟩
    · rintro rfl
      cases hhandler
    · rcases raises_bind.mp hraises with hbody | ⟨u, s₂, -, hpure⟩
      · exact hbody
      · cases hpure
  · cases stop₁ with
    | back =>
      obtain rfl := Option.some.inj hhandler
      cases hy
    | _ => cases hhandler

omit [Inet6] in
/-- A pass moves one step on or one step back. -/
theorem stepIndex_advance {outcome : StepOutcome} {list : List String}
    (h : p.advance outcome = some (list, q)) :
    p.stepIndex < stepNames.length ∧
      (outcome = .completed ∧ q.stepIndex = p.stepIndex + 1 ∨
        outcome = .backRequested ∧ q.stepIndex + 1 = p.stepIndex) := by
  unfold Progress.advance at h
  cases hname : stepNames[p.stepIndex]? with
  | none => simp [hname] at h
  | some name =>
    refine ⟨(List.getElem?_eq_some_iff.mp hname).1, ?_⟩
    cases outcome with
    | completed =>
      simp only [hname, Option.some.injEq, Prod.mk.injEq] at h
      exact .inl ⟨rfl, by rw [← h.2]⟩
    | backRequested =>
      simp only [hname] at h
      split at h
      · cases h
      · simp only [Option.some.injEq, Prod.mk.injEq] at h
        refine .inr ⟨rfl, ?_⟩
        rw [← h.2]
        dsimp only
        omega

/-- A pass that goes on has run its step. -/
theorem returns_pass (h : Returns (pass probes p) s (some q) s') :
    ∃ name body outcome list, (steps probes)[p.stepIndex]? = some (name, body) ∧
      Returns (stepOutcome body) s outcome s' ∧ p.advance outcome = some (list, q) := by
  unfold pass at h
  split at h
  · cases h
  · rename_i name body hstep
    obtain ⟨outcome, s₁, houtcome, h⟩ := returns_bind.mp h
    split at h
    · rename_i list next hadvance
      obtain ⟨hnext, rfl⟩ := returns_pure.mp h
      obtain rfl := Option.some.inj hnext
      exact ⟨name, body, outcome, list, hstep, houtcome, hadvance⟩
    · exact absurd h returns_raise

theorem raises_pass {stop : Stop Exception} (h : Raises (pass probes p) s stop s') :
    stop = .abort ∨ stop ≠ .back ∧ ∃ name body,
      (steps probes)[p.stepIndex]? = some (name, body) ∧ Raises body s stop s' := by
  unfold pass at h
  split at h
  · cases h
  · rename_i name body hstep
    rcases raises_bind.mp h with houtcome | ⟨outcome, s₁, -, h⟩
    · obtain ⟨hback, hbody⟩ := raises_stepOutcome houtcome
      exact .inr ⟨hback, name, body, hstep, hbody⟩
    · split at h
      · cases h
      · cases h
        exact .inl rfl

theorem reads_of_getElem {i : Nat} {name : String} {body : Presenter Unit}
    (h : (steps probes)[i]? = some (name, body)) : Reads body :=
  reads_steps (List.mem_of_getElem? h)

/-- Back takes an answer, and a step that completes brings none back. -/
theorem passesLeft_lt (h : Returns (pass probes p) s (some q) s') :
    passesLeft q s' < passesLeft p s := by
  obtain ⟨name, body, outcome, list, hstep, houtcome, hadvance⟩ := returns_pass h
  obtain ⟨hlt, hindex⟩ := stepIndex_advance hadvance
  have hreads := reads_of_getElem hstep
  unfold passesLeft
  generalize stepNames.length = n at hlt ⊢
  rcases returns_stepOutcome houtcome with ⟨rfl, hbody⟩ | ⟨rfl, hback⟩
  · obtain ⟨-, hindex⟩ | ⟨hne, -⟩ := hindex
    · have hle : s'.script.length ≤ s.script.length := by
        obtain ⟨taken, hscript, -⟩ := hreads.taken hbody
        rw [hscript, List.length_append]
        omega
      have hmul := Nat.mul_le_mul_left (n + 1) hle
      omega
    · cases hne
  · obtain ⟨hne, -⟩ | ⟨-, hindex⟩ := hindex
    · cases hne
    · have hmul := Nat.mul_le_mul_left (n + 1) (Nat.succ_le_of_lt (hreads.length_lt_of_back hback))
      rw [Nat.succ_eq_add_one, Nat.mul_add, Nat.mul_one] at hmul
      omega

/-- What is done after a pass. -/
def afterPass (probes : Probes) (p : Progress) : Option Progress → Presenter Progress
  | some next => runPasses probes next
  | none => pure p

theorem runPasses_eq (probes : Probes) (p : Progress) :
    runPasses probes p = pass probes p >>= afterPass probes p := by
  funext s
  rw [runPasses, iterate]
  rcases hrun : pass probes p s with ⟨stop | _ | next, s₁⟩
  · rw [run_bind_of_raises hrun, run_bind_of_raises hrun]
  · rw [run_bind_of_returns hrun, run_bind_of_returns hrun]
    rfl
  · rw [run_bind_of_returns hrun, run_bind_of_returns hrun]
    have hless : passesLeft next s₁ < passesLeft p s := passesLeft_lt hrun
    have hround : ∀ b s c s', Returns (pass probes b) s (some c) s' →
        passesLeft c s' < passesLeft b s := fun _ _ _ _ hreturns => passesLeft_lt hreturns
    exact iterate_fuel hround hless (Nat.lt_succ_self _)

/-! ## A run -/

/-- A run that stops waits for an answer, was aborted, or stops where a step throws. -/
theorem raises_presenterInstall {completedSteps : Finset String} {stop : Stop Exception}
    (h : Raises (presenterInstall probes completedSteps) s stop s') :
    stop = .waiting ∨ stop = .abort ∨ ∃ p s₁ name body e,
      Rounds (pass probes) (Progress.start completedSteps, s) (p, s₁) ∧
        (steps probes)[p.stepIndex]? = some (name, body) ∧ Raises body s₁ (.thrown e) s' := by
  rcases raises_bind.mp h with hpasses | ⟨p, s₁, -, hdownload⟩
  · rcases raises_iterate hpasses with rfl | ⟨p, s₁, hrounds, hpass⟩
    · exact .inl rfl
    · rcases raises_pass hpass with rfl | ⟨hback, name, body, hstep, hbody⟩
      · exact .inr (.inl rfl)
      · cases stop with
        | waiting => exact .inl rfl
        | back => exact absurd rfl hback
        | abort => exact .inr (.inl rfl)
        | thrown e => exact .inr (.inr ⟨p, s₁, name, body, e, hrounds, hstep, hbody⟩)
  · rcases raises_bind.mp hdownload with hget | ⟨model, s₂, -, hdownload⟩
    · cases hget
    · split at hdownload
      · cases hdownload
      · split at hdownload
        · cases hdownload
        · cases hdownload
          exact .inr (.inl rfl)

/-- What a step is given does not make it throw. -/
structure StepFits (probes : Probes) (name : String) (s : Session Cluster) : Prop where
  hostname : name = "hostname" → HostnameFits s
  networking : name = "networking" → NetworkingFits probes.host s
  os : name = "os" → OSFits probes s
  repositories : name = "repositories" → RepositoriesFit probes s.model
  nodes : name = "nodes" → NodesFit s
  mail : name = "mail" → MailFits s
  preflight : name = "preflight" → PreflightFits probes s.model

theorem quiet_steps {name : String} {body : Presenter Unit} (h : (name, body) ∈ steps probes)
    (hfits : StepFits probes name s) : Quiet body s := by
  simp only [steps, List.mem_cons, Prod.mk.injEq, List.not_mem_nil, or_false] at h
  rcases h with ⟨-, rfl⟩ | ⟨-, rfl⟩ | ⟨-, rfl⟩ | ⟨rfl, rfl⟩ | ⟨rfl, rfl⟩ | ⟨rfl, rfl⟩ | ⟨-, rfl⟩ |
    ⟨-, rfl⟩ | ⟨rfl, rfl⟩ | ⟨rfl, rfl⟩ | ⟨-, rfl⟩ | ⟨rfl, rfl⟩ | ⟨rfl, rfl⟩
  · exact quiet_presenterGeneralSettings s
  · exact quiet_presenterTime probes s
  · exact quiet_presenterLocale probes s
  · exact quiet_presenterHostId (hfits.hostname rfl)
  · exact quiet_networkingStep (hfits.networking rfl)
  · exact quiet_presenterNodesOperationalSystem (hfits.os rfl)
  · exact quiet_presenterProvisioner s
  · exact quiet_presenterOpenHPC s
  · exact quiet_presenterRepository (hfits.repositories rfl)
  · exact quiet_presenterNodes (hfits.nodes rfl)
  · exact quiet_presenterQueueSystem s
  · exact quiet_presenterMailSystem (hfits.mail rfl)
  · exact quiet_presenterPreflight_iff.mpr (hfits.preflight rfl)

theorem stepFits_mail (h : MailFits s) : StepFits probes "mail" s where
  hostname hname := by simp at hname
  networking hname := by simp at hname
  os hname := by simp at hname
  repositories hname := by simp at hname
  nodes hname := by simp at hname
  mail _ := h
  preflight hname := by simp at hname

theorem stepFits_preflight (h : PreflightFits probes s.model) : StepFits probes "preflight" s where
  hostname hname := by simp at hname
  networking hname := by simp at hname
  os hname := by simp at hname
  repositories hname := by simp at hname
  nodes hname := by simp at hname
  mail hname := by simp at hname
  preflight _ := h

omit [Inet6]

/-- One zone, one locale, and no images. -/
def sampleProbes : Probes where
  host := sampleHost
  availableTimezones := [("America", "Sao_Paulo")]
  availableLocales := ["en_US.utf8"]
  localeMetadata := []
  isDirectory _ := false
  regularFiles _ := none
  regularFiles_named := Probes.unlisted_named
  regularFiles_found := Probes.unlisted_found sampleHost
  repositoryIds _ _ _ := []
  downloads _ := false
  columns := 80
  displayWidth := List.length

/-- The first four steps, with `hostname`. -/
def typedHostname (hostname : String) : Session Cluster where
  model := Cluster.fresh sampleHost
  script :=
    [.fields ["head", "c", "a@b.c"], .item "Text", .item "America", .item "Sao_Paulo", .items [],
      .item "English (en)", .fields [hostname, "cluster.com"]]

/-- The last two steps: no mail system, and Abort before the plan. -/
def declinedMail : Session Cluster where
  model := Cluster.fresh sampleHost
  script := [.confirm false, .abort]

/-- Where the passes of this run begin. -/
theorem rounds_declinedMail {p : Progress} {s : Session Cluster}
    (h : Rounds (@pass plainInet6 sampleProbes)
      (Progress.start (stepNames.take 11).toFinset, declinedMail) (p, s)) :
    p.stepIndex = 11 ∧ s = declinedMail ∨
      p.stepIndex = 12 ∧ s = { declinedMail with script := [.abort] } := by
  have hmail : Returns (@pass plainInet6 sampleProbes
      (Progress.start (stepNames.take 11).toFinset)) declinedMail (some ⟨12, stepNames.take 12⟩)
        { declinedMail with script := [.abort] } := by decide
  have hstart : (Progress.start (stepNames.take 11).toFinset).stepIndex = 11 := by decide
  rcases Relation.ReflTransGen.cases_head h with heq | ⟨⟨q, s₁⟩, hround, hrest⟩
  · obtain ⟨rfl, rfl⟩ := Prod.mk.inj heq
    exact .inl ⟨hstart, rfl⟩
  · obtain ⟨hq, rfl⟩ := Returns.unique hmail hround
    obtain rfl := Option.some.inj hq
    rcases Relation.ReflTransGen.cases_head hrest with heq | ⟨⟨r, s₂⟩, hround, -⟩
    · obtain ⟨rfl, rfl⟩ := Prod.mk.inj heq
      exact .inr ⟨rfl, rfl⟩
    · cases hround

end

end OpenCattus
