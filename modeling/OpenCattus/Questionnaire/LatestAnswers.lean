import OpenCattus.Questionnaire.RunPasses
import OpenCattus.Questionnaire.SameAnswers

/-!
# The latest answers

A run of the questionnaire with Back, beside a straight run that gives only the latest answers of
each step. The time step adds its servers to those that are there, and the networking and the mail
step leave an earlier choice when the operator declines.

`latest_answers_iff` says when the two runs leave the same settings.
-/

namespace OpenCattus

open Foundations Foundations.Text Foundations.Inet Program Dialog

/-- The settings that the steps for time, networking, queue and mail leave. -/
structure SameSettings (model other : Cluster) : Prop where
  timeservers : model.timezone.timeservers = other.timezone.timeservers
  ofed : model.ofed = other.ofed
  queue : model.queueWithParameters = other.queueWithParameters
  mailSystem : model.mailSystem = other.mailSystem

section

variable [Inet6]

/-- No earlier choice comes through: the latest pass of each step replaces it, or begins with what
the run began with. -/
structure Clears (host : Host) (model : Cluster) (vs : List QuestionnairePass) : Prop where
  time : ∀ v, latestPass "time" vs = some v →
    v.before.model.timezone.timeservers = model.timezone.timeservers
  networking : ∀ v, latestPass "networking" vs = some v →
    AcceptsInfiniband host (replayed v) ∨ v.before.model.ofed = model.ofed
  mail : ∀ v, latestPass "mail" vs = some v →
    AcceptsMail (replayed v) ∨ v.before.model.mailSystem = model.mailSystem

/-! ## Two runs -/

section

variable {probes : Probes} {s s' z t t' z' : Session Cluster} {x : Setting} {name : String}
  {vs vs' : List QuestionnairePass} {v : QuestionnairePass} {body : Presenter Unit}

/-- In the latest pass through the mail step, and behind it, the names stay. -/
theorem names_at_mail (h : RunsThrough probes s vs z) (hlatest : latestPass "mail" vs = some v) :
    Setting.names.of z.model = Setting.names.of v.before.model :=
  h.at_later (setBy_setting .names) (by decide) (by decide) hlatest

omit [Inet6] in
/-- Two runs with the same latest answers to a step have both gone through it, or neither has. -/
theorem latest_both (h : latestAnswers name vs = latestAnswers name vs') :
    (latestPass name vs = none ∧ latestPass name vs' = none) ∨
      ∃ v w, latestPass name vs = some v ∧ latestPass name vs' = some w ∧
        answersOf v = answersOf w := by
  unfold latestAnswers at h
  cases hv : latestPass name vs with
  | none =>
    cases hw : latestPass name vs' with
    | none => exact .inl ⟨rfl, rfl⟩
    | some w => simp [hv, hw] at h
  | some v =>
    cases hw : latestPass name vs' with
    | none => simp [hv, hw] at h
    | some w => exact .inr ⟨v, w, rfl, rfl, by simpa [hv, hw] using h⟩

/-- A run, and a straight run from the same model that gives its latest answers. -/
structure Compared (probes : Probes) (s : Session Cluster) (vs : List QuestionnairePass)
    (z t : Session Cluster) (vs' : List QuestionnairePass) (z' : Session Cluster) : Prop where
  run : RunsThrough probes s vs z
  straight : RunsThrough probes t vs' z'
  up : ∀ v ∈ vs', v.next.stepIndex = v.value.stepIndex + 1
  model : t.model = s.model
  answers : ∀ x : Setting, latestAnswers x.step vs = latestAnswers x.step vs'

namespace Compared

variable (h : Compared probes s vs z t vs' z')

include h

theorem of_none (hnone : latestPass x.step vs = none) (hnone' : latestPass x.step vs' = none) :
    x.of z.model = x.of z'.model := by
  rw [h.run.of_none (setBy_setting x) hnone, h.straight.of_none (setBy_setting x) hnone', h.model]

/-- A setting that every completion of its step replaces. -/
theorem of_replaced (hbody : (steps probes)[stepNames.idxOf x.step]? = some (x.step, body))
    (hcouples : Couples body (fun _ _ => True) fun m m' => x.of m = x.of m') :
    x.of z.model = x.of z'.model := by
  rcases latest_both (h.answers x) with ⟨hnone, hnone'⟩ | ⟨v, w, hv, hw, hanswers⟩
  · exact h.of_none hnone hnone'
  · obtain ⟨hreturns, hfinal⟩ := h.run.of_latest (setBy_setting x) hv hbody
    obtain ⟨hreturns', hfinal'⟩ := h.straight.of_latest (setBy_setting x) hw hbody
    rw [hfinal, hfinal']
    exact (hcouples _ _ _ _ _ _ hanswers trivial hreturns hreturns').2.2

theorem names_eq : Setting.names.of z.model = Setting.names.of z'.model :=
  h.of_replaced rfl couples_presenterHostId

theorem queue_eq : z.model.queueWithParameters = z'.model.queueWithParameters :=
  h.of_replaced (x := .queue) rfl couples_presenterQueueSystem

theorem timeservers_iff :
    z.model.timezone.timeservers = z'.model.timezone.timeservers ↔
      ∀ v, latestPass "time" vs = some v →
        v.before.model.timezone.timeservers = s.model.timezone.timeservers := by
  rcases latest_both (h.answers .timeservers) with ⟨hnone, hnone'⟩ | ⟨v, w, hv, hw, hanswers⟩
  · refine iff_of_true (h.of_none (x := .timeservers) hnone hnone') fun v hv => ?_
    cases hnone.symm.trans hv
  · obtain ⟨hreturns, hfinal⟩ := h.run.of_latest (setBy_setting .timeservers) hv rfl
    obtain ⟨hreturns', hfinal'⟩ := h.straight.of_latest (setBy_setting .timeservers) hw rfl
    have hbefore : w.before.model.timezone.timeservers = t.model.timezone.timeservers :=
      h.straight.of_straight (setBy_setting .timeservers) h.up hw
    obtain ⟨-, -, added, hadded, hadded'⟩ := couples_presenterTime
      v.before.model.timezone.timeservers w.before.model.timezone.timeservers (replayed v)
        (replayed w) _ _ _ _ hanswers ⟨rfl, rfl⟩ hreturns hreturns'
    have hrun : z.model.timezone.timeservers = v.before.model.timezone.timeservers ++ added :=
      hfinal.trans hadded
    have hstraight : z'.model.timezone.timeservers = s.model.timezone.timeservers ++ added := by
      rw [← h.model, ← hbefore]
      exact hfinal'.trans hadded'
    rw [hrun, hstraight, List.append_left_inj]
    constructor
    · intro heq u hu
      obtain rfl := Option.some.inj (hv.symm.trans hu)
      exact heq
    · intro hall
      exact hall v hv

theorem ofed_iff :
    z.model.ofed = z'.model.ofed ↔ ∀ v, latestPass "networking" vs = some v →
      AcceptsInfiniband probes.host (replayed v) ∨ v.before.model.ofed = s.model.ofed := by
  rcases latest_both (h.answers .ofed) with ⟨hnone, hnone'⟩ | ⟨v, w, hv, hw, hanswers⟩
  · refine iff_of_true (h.of_none (x := .ofed) hnone hnone') fun v hv => ?_
    cases hnone.symm.trans hv
  · have hscript : (replayed v).script = (replayed w).script := hanswers
    obtain ⟨hreturns, hfinal⟩ := h.run.of_latest (setBy_setting .ofed) hv rfl
    obtain ⟨hreturns', hfinal'⟩ := h.straight.of_latest (setBy_setting .ofed) hw rfl
    have hbefore : w.before.model.ofed = t.model.ofed := h.straight.of_straight (setBy_setting .ofed) h.up hw
    by_cases haccepts : AcceptsInfiniband probes.host (replayed v)
    · refine iff_of_true ?_ fun u hu => ?_
      · have hset := ofed_accepted hreturns hreturns' hscript haccepts
        exact hfinal.trans (hset.trans hfinal'.symm)
      · obtain rfl := Option.some.inj (hv.symm.trans hu)
        exact .inl haccepts
    · have hdeclines : ¬ AcceptsInfiniband probes.host (replayed w) := fun hw =>
        haccepts (hw.congr hscript.symm)
      have hkept := ofed_declined hreturns haccepts
      have hkept' := ofed_declined hreturns' hdeclines
      have hrun : z.model.ofed = v.before.model.ofed := hfinal.trans hkept
      have hstraight : z'.model.ofed = s.model.ofed := by
        rw [← h.model, ← hbefore]
        exact hfinal'.trans hkept'
      rw [hrun, hstraight]
      constructor
      · intro heq u hu
        obtain rfl := Option.some.inj (hv.symm.trans hu)
        exact .inr heq
      · intro hall
        exact (hall v hv).resolve_left haccepts

theorem mailSystem_iff :
    z.model.mailSystem = z'.model.mailSystem ↔ ∀ v, latestPass "mail" vs = some v →
      AcceptsMail (replayed v) ∨ v.before.model.mailSystem = s.model.mailSystem := by
  rcases latest_both (h.answers .mailSystem) with ⟨hnone, hnone'⟩ | ⟨v, w, hv, hw, hanswers⟩
  · refine iff_of_true (h.of_none (x := .mailSystem) hnone hnone') fun v hv => ?_
    cases hnone.symm.trans hv
  · obtain ⟨hreturns, hfinal⟩ := h.run.of_latest (setBy_setting .mailSystem) hv rfl
    obtain ⟨hreturns', hfinal'⟩ := h.straight.of_latest (setBy_setting .mailSystem) hw rfl
    have hbefore : w.before.model.mailSystem = t.model.mailSystem := h.straight.of_straight (setBy_setting .mailSystem) h.up hw
    have hnames : Setting.names.of v.before.model = Setting.names.of w.before.model := by
      rw [← names_at_mail h.run hv, ← names_at_mail h.straight hw]
      exact h.names_eq
    have hsame : AcceptsMail (replayed w) ↔ AcceptsMail (replayed v) := by
      unfold AcceptsMail replayed
      rw [hanswers]
    rcases returns_presenterMailSystem hreturns with ⟨haccepts, hmail⟩ | ⟨hdeclines, hmail⟩
    · rcases returns_presenterMailSystem hreturns' with ⟨-, hmail'⟩ | ⟨hdeclines', -⟩
      · refine iff_of_true ?_ fun u hu => ?_
        · have hscript : (replayed v).script.tail = (replayed w).script.tail :=
            congrArg List.tail hanswers
          rw [show z.model.mailSystem = _ from hfinal, show z'.model.mailSystem = _ from hfinal']
          exact (couples_acceptedMail { replayed v with script := (replayed v).script.tail }
            { replayed w with script := (replayed w).script.tail } _ _ _ _ hscript hnames hmail
              hmail').2.2
        · obtain rfl := Option.some.inj (hv.symm.trans hu)
          exact .inl haccepts
      · exact absurd (hsame.mpr haccepts) hdeclines'
    · rcases returns_presenterMailSystem hreturns' with ⟨haccepts', -⟩ | ⟨-, hmail'⟩
      · exact absurd (hsame.mp haccepts') hdeclines
      · have hrun : z.model.mailSystem = v.before.model.mailSystem :=
          hfinal.trans (congrArg Cluster.mailSystem hmail)
        have hstraight : z'.model.mailSystem = s.model.mailSystem := by
          rw [← h.model, ← hbefore]
          exact hfinal'.trans (congrArg Cluster.mailSystem hmail')
        rw [hrun, hstraight]
        constructor
        · intro heq u hu
          obtain rfl := Option.some.inj (hv.symm.trans hu)
          exact .inr heq
        · intro hall
          exact (hall v hv).resolve_left hdeclines

end Compared

/-- A run and a straight run from the same model that gives its latest answers leave the same
settings exactly when every earlier choice is replaced. -/
theorem latest_answers_iff {completedSteps completedSteps' : Finset String}
    (hrun : Returns (presenterInstall probes completedSteps) s () s')
    (hstraight : Returns (presenterInstall probes completedSteps') t () t')
    (hup : ∀ v ∈ questionnairePasses probes completedSteps' t,
      v.next.stepIndex = v.value.stepIndex + 1)
    (hmodel : t.model = s.model)
    (hanswers : ∀ x : Setting,
      latestAnswers x.step (questionnairePasses probes completedSteps s) =
        latestAnswers x.step (questionnairePasses probes completedSteps' t)) :
    SameSettings s'.model t'.model ↔
      Clears probes.host s.model (questionnairePasses probes completedSteps s) := by
  obtain ⟨z, hthrough, hfinal⟩ := runsThrough_presenterInstall hrun
  obtain ⟨z', hthrough', hfinal'⟩ := runsThrough_presenterInstall hstraight
  have h : Compared probes s (questionnairePasses probes completedSteps s) z t
      (questionnairePasses probes completedSteps' t) z' :=
    ⟨hthrough, hthrough', hup, hmodel, hanswers⟩
  have hsame : ∀ x : Setting, x.of s'.model = x.of t'.model ↔ x.of z.model = x.of z'.model := by
    intro x
    have hstep : x.step ≠ "os" := by cases x <;> decide
    rw [(setBy_setting x).of_withoutSystem hstep hfinal,
      (setBy_setting x).of_withoutSystem hstep hfinal']
  constructor
  · intro hsettings
    exact ⟨h.timeservers_iff.mp ((hsame .timeservers).mp hsettings.timeservers),
      h.ofed_iff.mp ((hsame .ofed).mp hsettings.ofed),
      h.mailSystem_iff.mp ((hsame .mailSystem).mp hsettings.mailSystem)⟩
  · intro hclears
    exact ⟨(hsame .timeservers).mpr (h.timeservers_iff.mpr hclears.time),
      (hsame .ofed).mpr (h.ofed_iff.mpr hclears.networking),
      (hsame .queue).mpr h.queue_eq,
      (hsame .mailSystem).mpr (h.mailSystem_iff.mpr hclears.mail)⟩

end

/-! ## A time step that is completed twice -/

omit [Inet6]

/-- A machine that can download images. -/
def onlineProbes : Probes := { sampleProbes with downloads := fun _ => true }

/-- Every step once, with `again` between the time step and the one for the locale. -/
def answeredSession (again : List Answer) : Session Cluster where
  model := Cluster.fresh sampleHost
  script :=
    [.fields ["head", "c", "a@b.c"], .item "Text", .item "America", .item "Sao_Paulo",
      .items ["ntp.a"]] ++ again ++
    [.item "English (en)", .fields ["head", "cluster.com"],
      .item "eth0", .fields ["10.0.0.2", "255.0.0.0", "10.0.0.1", "a.b", "10.0.0.1"],
      .item "eth1", .fields ["11.0.0.2", "255.0.0.0", "11.0.0.1", "a.b", "10.0.0.1"],
      .confirm false, .confirm true, .item "Rocky Linux", .fields ["9.4", "x86_64"],
      .item "xcat", .items [], .fields ["n", "2", "11.0.0.10", "", "pw", "pw"],
      .fields ["1", "1", "1", "1024", "u", "p", "0", "9600"], .fields ["1"],
      .fields ["00:00:00:00:00:01", ""], .item "None", .confirm false, .confirm true]

def straightSession : Session Cluster := answeredSession []

/-- Back at the locale, and the same answers to the time step again. -/
def againSession : Session Cluster :=
  answeredSession [.back, .item "America", .item "Sao_Paulo", .items ["ntp.a"]]

/-- The passes of these runs. -/
def sessionPasses (s : Session Cluster) : List QuestionnairePass :=
  @questionnairePasses plainInet6 onlineProbes ∅ s

theorem returns_againSession :
    ∃ s', Returns (@presenterInstall plainInet6 onlineProbes ∅) againSession () s' ∧
      s'.model.timezone.timeservers = ["ntp.a", "ntp.a"] := by
  have hrun : (@presenterInstall plainInet6 onlineProbes ∅ againSession).1 = .ok () ∧
      (@presenterInstall plainInet6 onlineProbes ∅ againSession).2.model.timezone.timeservers =
        ["ntp.a", "ntp.a"] := by
    decide +kernel
  exact ⟨_, returns_of_fst hrun.1, hrun.2⟩

theorem returns_straightSession :
    ∃ t', Returns (@presenterInstall plainInet6 onlineProbes ∅) straightSession () t' ∧
      t'.model.timezone.timeservers = ["ntp.a"] := by
  have hrun : (@presenterInstall plainInet6 onlineProbes ∅ straightSession).1 = .ok () ∧
      (@presenterInstall plainInet6 onlineProbes ∅ straightSession).2.model.timezone.timeservers =
        ["ntp.a"] := by
    decide +kernel
  exact ⟨_, returns_of_fst hrun.1, hrun.2⟩

theorem straightSession_up :
    ∀ v ∈ sessionPasses straightSession, v.next.stepIndex = v.value.stepIndex + 1 := by
  decide +kernel

theorem latestAnswers_againSession (x : Setting) :
    latestAnswers x.step (sessionPasses againSession) =
      latestAnswers x.step (sessionPasses straightSession) := by
  have hall : ∀ x ∈ [Setting.timeservers, .names, .ofed, .queue, .mailSystem],
      latestAnswers x.step (sessionPasses againSession) =
        latestAnswers x.step (sessionPasses straightSession) := by decide +kernel
  exact hall x (by cases x <;> decide)

theorem latest_answers_iff_again :
    ∃ s' t', Returns (@presenterInstall plainInet6 onlineProbes ∅) againSession () s' ∧
      Returns (@presenterInstall plainInet6 onlineProbes ∅) straightSession () t' ∧
      (SameSettings s'.model t'.model ↔
        @Clears plainInet6 onlineProbes.host (Cluster.fresh sampleHost)
          (sessionPasses againSession)) := by
  obtain ⟨s', hrun, -⟩ := returns_againSession
  obtain ⟨t', hstraight, -⟩ := returns_straightSession
  exact ⟨s', t', hrun, hstraight, @latest_answers_iff plainInet6 _ _ _ _ _ _ _ hrun hstraight
    straightSession_up rfl latestAnswers_againSession⟩

/-- The straight run leaves the server once, and the run with Back twice. -/
theorem timeserver_twice :
    ¬ ∀ s s' t t' : Session Cluster,
      Returns (@presenterInstall plainInet6 onlineProbes ∅) s () s' →
      Returns (@presenterInstall plainInet6 onlineProbes ∅) t () t' →
      (∀ v ∈ sessionPasses t, v.next.stepIndex = v.value.stepIndex + 1) →
      t.model = s.model →
      (∀ x : Setting,
        latestAnswers x.step (sessionPasses s) = latestAnswers x.step (sessionPasses t)) →
      SameSettings s'.model t'.model := by
  intro h
  obtain ⟨s', hrun, hagain⟩ := returns_againSession
  obtain ⟨t', hstraight, honce⟩ := returns_straightSession
  have hsame := (h _ _ _ _ hrun hstraight straightSession_up rfl
    latestAnswers_againSession).timeservers
  rw [hagain, honce] at hsame
  simp at hsame

end

end OpenCattus
