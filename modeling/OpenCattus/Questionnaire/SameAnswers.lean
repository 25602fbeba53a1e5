import OpenCattus.Questionnaire.SettingSteps

/-!
# The same answers to one step

Two executions of a step on the same answers. The time step adds the same servers in both, the
names and the queue system are set anew, and the networking and the mail step set OFED and the mail
system anew when the operator accepts them. A step that is declined leaves what is there
(`ofed_declined`, `returns_presenterMailSystem`).
-/

namespace OpenCattus

open Foundations Foundations.Text Foundations.Inet Program Dialog

/-! ## One step on the same answers -/

variable {probes : Probes}

theorem blind_enumMenu (α : Type) [Enumeration α] : Blind (enumMenu α) :=
  blind_bind (blind_listMenu _) fun _ => blind_lift _

theorem blind_selectLocation (levels : Nat) (node : TimezoneNode) (selectedTimezone : String) :
    Blind (selectLocation levels node selectedTimezone) := by
  induction levels generalizing node selectedTimezone with
  | zero => exact blind_pure _
  | succ levels ih =>
    unfold selectLocation
    split
    · exact blind_pure _
    · refine blind_bind (blind_listMenu _) fun _ => ?_
      exact blind_bind (blind_lift _) fun child => ih child _

/-- The time step adds the same servers, whatever is there. -/
theorem couples_presenterTime (u v : List String) :
    Couples (presenterTime probes)
      (fun m m' => m.timezone.timeservers = u ∧ m'.timezone.timeservers = v)
      (fun m m' => ∃ added, m.timezone.timeservers = u ++ added ∧
        m'.timezone.timeservers = v ++ added) := by
  have hzone : ∀ selectedTimezone, Couples (setModel fun model =>
      { model with timezone := { model.timezone with timezone := selectedTimezone } } :
        Presenter Unit) (fun m m' => m.timezone.timeservers = u ∧ m'.timezone.timeservers = v)
      (fun m m' => m.timezone.timeservers = u ∧ m'.timezone.timeservers = v) :=
    fun _ => couples_setModel fun _ _ h => h
  unfold presenterTime
  split
  · exact couples_raise _
  · refine couples_bind (blind_listMenu _).couples fun area => ?_
    dsimp only
    split
    · exact couples_raise _
    · refine couples_bind (blind_selectLocation _ _ _).couples fun selectedTimezone => ?_
      refine couples_bind (hzone selectedTimezone) fun _ => ?_
      refine couples_bind (blind_accept _).couples fun timeservers => ?_
      refine couples_setModel ?_
      rintro m m' ⟨rfl, rfl⟩
      exact ⟨timeservers, rfl, rfl⟩

/-- The names that are typed settle whether they are accepted. -/
theorem fst_hostIdRound (values : Vector String 2) (model : Cluster) :
    (hostIdRound values model).1 =
      let hostname := getElem values 0 Nat.two_pos
      let domainName := getElem values 1 Nat.one_lt_two
      match Server.validateHostname hostname with
      | .error e => .error e
      | .ok validation =>
        .ok (if validation.isOk && (Server.validateFQDN (hostname ++ "." ++ domainName)).isOk
          then some () else none) := by
  unfold hostIdRound
  dsimp only
  split
  · rename_i e herror
    rw [show Server.validateHostname values[0] = .error e from herror]
  · rename_i validation hok
    rw [show Server.validateHostname values[0] = .ok validation from hok]
    dsimp only
    split
    · rename_i hvalid
      rw [if_pos (by exact hvalid)]
    · rename_i hinvalid
      rw [if_neg (by exact hinvalid)]

theorem couples_presenterHostId {R : Cluster → Cluster → Prop} :
    Couples presenterHostId R fun m m' => Setting.names.of m = Setting.names.of m' := by
  refine couples_ask (fun values m m' => ?_) fun values m m' => ?_
  · rw [fst_hostIdRound, fst_hostIdRound]
  · rw [snd_hostIdRound, snd_hostIdRound]
    rfl

/-- Every queue system is set with all its parameters. -/
theorem couples_presenterQueueSystem {R : Cluster → Cluster → Prop} :
    Couples presenterQueueSystem R
      fun m m' => m.queueWithParameters = m'.queueWithParameters := by
  refine couples_bind (blind_enumMenu _).couples fun kind => ?_
  have hkind : Couples (setModel (·.setQueueSystem kind) : Presenter Unit) R
      fun m m' => m.queueSystem = m'.queueSystem :=
    couples_setModel fun _ _ _ => by cases kind <;> rfl
  cases kind with
  | None => exact couples_bind (couples_setModel fun _ _ _ => rfl) fun _ => (blind_pure _).couples
  | SLURM =>
    refine couples_bind hkind fun _ => couples_bind (blind_accept _).couples fun _ => ?_
    exact couples_setModel fun _ _ _ => rfl
  | PBS =>
    refine couples_bind hkind fun _ => couples_bind (blind_enumMenu _).couples fun _ => ?_
    exact couples_setModel fun _ _ _ => rfl

/-! ### InfiniBand -/

section

variable [Inet6] {host : Host} {nc nc' : NetworkCreator} {s s' t t' : Session Cluster}

/-- InfiniBand is offered, and the operator accepts it. -/
def AcceptsInfiniband (host : Host) (s : Session Cluster) : Prop :=
  usableInfinibandInterfaces host ≠ [] ∧ ∃ nc s₁ s₂, Returns (ethernetNetworks host) s nc s₁ ∧
    Returns (yesNoQuestion : Presenter Bool) s₁ true s₂

/-- The prompts behind the answer Yes. -/
def acceptedInfiniband (host : Host) (nc : NetworkCreator) : Presenter NetworkCreator := do
  let selectedKind ← listMenu ofedKindChoices
  let kind ← lift (unwrap (Enumeration.ofStringOpt selectedKind : Option OFED.Kind)
    ("Invalid enum conversion, expecting one of Inbox,Doca,Oracle, found " ++ selectedKind))
  let version ← selectedVersion kind
  setModel fun model => { model with ofed := some { kind, version } }
  logged nc (presenterNetwork host nc .Application .Infiniband)

theorem couples_acceptedInfiniband {R : Cluster → Cluster → Prop} :
    Couples (acceptedInfiniband host nc) R fun m m' => m.ofed = m'.ofed := by
  refine couples_bind (blind_listMenu _).couples fun _ => ?_
  refine couples_bind (blind_lift _).couples fun kind => ?_
  refine couples_bind (S := R) ?_ fun version => ?_
  · unfold selectedVersion
    split
    · exact (blind_pure _).couples
    · exact couples_bind (blind_accept _).couples fun _ => (blind_pure _).couples
  · exact couples_bind (couples_setModel fun _ _ _ => rfl) fun _ => (blind_logged _ _).couples

/-- A networking step that completes, around the question for InfiniBand. -/
theorem infiniband_of_networkingStep (h : Returns (networkingStep host) s () s') :
    ∃ nc s₁ nc' s₂, Returns (ethernetNetworks host) s nc s₁ ∧
      Returns (presenterInfiniband host nc) s₁ nc' s₂ ∧ s'.model.ofed = s₂.model.ofed := by
  obtain ⟨nc', s₂, hcollect, hsave⟩ := returns_bind.mp h
  obtain ⟨nc, s₁, hethernet, hinfiniband⟩ := returns_bind.mp (returns_collectNetworks.mp hcollect)
  refine ⟨nc, s₁, nc', s₂, hethernet, hinfiniband, ?_⟩
  have hkept : Leaves _ Cluster.ofed := (leaves_save host nc').of (k := Cluster.ofed) fun _ => rfl
  exact hkept.returns hsave

/-- No stack is set, and an earlier one is left. -/
theorem ofed_declined (h : Returns (networkingStep host) s () s')
    (hdeclined : ¬ AcceptsInfiniband host s) : s'.model.ofed = s.model.ofed := by
  obtain ⟨nc, s₁, nc', s₂, hethernet, hinfiniband, hofed⟩ := infiniband_of_networkingStep h
  have hfirst : s₁.model.ofed = s.model.ofed :=
    (blind_ethernetNetworks.leaves (f := Cluster.ofed)).returns hethernet
  have hsecond : s₂ = s₁ ∨
      ∃ s₃, Returns (yesNoQuestion : Presenter Bool) s₁ false s₃ ∧ s₂ = s₃ := by
    unfold presenterInfiniband at hinfiniband
    split at hinfiniband
    · exact .inl (returns_pure.mp hinfiniband).2.symm
    · rename_i husable
      obtain ⟨yes, s₃, hyes, hrest⟩ := returns_bind.mp hinfiniband
      cases yes with
      | true => exact absurd ⟨husable, nc, s₁, s₃, hethernet, hyes⟩ hdeclined
      | false => exact .inr ⟨s₃, hyes, (returns_pure.mp hrest).2.symm⟩
  rcases hsecond with rfl | ⟨s₃, hno, rfl⟩
  · exact hofed.trans hfirst
  · rw [hofed, ← hfirst, returns_yesNoQuestion.mp hno]

theorem returns_accepted (h : Returns (networkingStep host) s () s')
    (haccepts : AcceptsInfiniband host s) :
    ∃ nc s₁ s₂ nc' s₃, Returns (ethernetNetworks host) s nc s₁ ∧
      Returns (yesNoQuestion : Presenter Bool) s₁ true s₂ ∧
      Returns (acceptedInfiniband host nc) s₂ nc' s₃ ∧ s'.model.ofed = s₃.model.ofed := by
  obtain ⟨nc, s₁, nc', s₂, hethernet, hinfiniband, hofed⟩ := infiniband_of_networkingStep h
  obtain ⟨husable, nc₁, t₁, t₂, hethernet₁, hyes₁⟩ := haccepts
  obtain ⟨rfl, rfl⟩ := Returns.unique hethernet hethernet₁
  unfold presenterInfiniband at hinfiniband
  rw [if_neg husable] at hinfiniband
  obtain ⟨yes, s₃, hyes, hrest⟩ := returns_bind.mp hinfiniband
  obtain ⟨rfl, rfl⟩ := Returns.unique hyes hyes₁
  exact ⟨nc, s₁, s₃, nc', s₂, hethernet, hyes, hrest, hofed⟩

theorem AcceptsInfiniband.congr (h : AcceptsInfiniband host s) (hscript : s.script = t.script) :
    AcceptsInfiniband host t := by
  obtain ⟨husable, nc, s₁, s₂, hethernet, hyes⟩ := h
  have hethernet' := blind_ethernetNetworks.returns hethernet t.model
  have hyes' := (blind_accept _).returns hyes t.model
  rw [hscript] at hethernet'
  exact ⟨husable, nc, _, _, hethernet', hyes'⟩

/-- The stack is set by the answers alone. -/
theorem ofed_accepted (hs : Returns (networkingStep host) s () s')
    (ht : Returns (networkingStep host) t () t') (hscript : s.script = t.script)
    (haccepts : AcceptsInfiniband host s) : s'.model.ofed = t'.model.ofed := by
  obtain ⟨nc, s₁, s₂, _, s₃, hethernet, hyes, hrest, hofed⟩ := returns_accepted hs haccepts
  obtain ⟨nc', t₁, t₂, _, t₃, hethernet', hyes', hrest', hofed'⟩ :=
    returns_accepted ht (haccepts.congr hscript)
  obtain ⟨rfl, hscript₁, -⟩ := blind_ethernetNetworks.couples (R := fun _ _ => True) s t _ _ _ _
    hscript trivial hethernet hethernet'
  obtain ⟨-, hscript₂, -⟩ := (blind_accept _).couples (R := fun _ _ => True) s₁ t₁ _ _ _ _
    hscript₁ trivial hyes hyes'
  obtain ⟨-, -, hsame⟩ := couples_acceptedInfiniband (R := fun _ _ => True) s₂ t₂ _ _ _ _
    hscript₂ trivial hrest hrest'
  rw [hofed, hofed', hsame]

end

/-! ### The mail system -/

section

variable {s s' t t' : Session Cluster}

theorem couples_updateMail (f : Postfix → Postfix) :
    Couples (updateMail f) (fun m m' => m.mailSystem = m'.mailSystem)
      fun m m' => m.mailSystem = m'.mailSystem :=
  couples_setModel fun _ _ h => congrArg (Option.map f) h

/-- The prompts behind the answer Yes. -/
def acceptedMail : Presenter Unit := promptProfile >>= promptProfileFields

/-- A new mail system is set, with the names of the head node. -/
theorem couples_acceptedMail :
    Couples acceptedMail (fun m m' => Setting.names.of m = Setting.names.of m')
      fun m m' => m.mailSystem = m'.mailSystem := by
  refine couples_bind (S := fun m m' => m.mailSystem = m'.mailSystem) ?_ fun profile => ?_
  · refine couples_bind (blind_enumMenu _).couples fun profile => ?_
    have hprofile : Couples (setModel (·.setMailSystem profile) : Presenter Unit)
        (fun m m' => Setting.names.of m = Setting.names.of m')
        fun m m' => m.mailSystem = m'.mailSystem := by
      refine couples_setModel fun m m' h => ?_
      obtain ⟨hhostname, hdomain⟩ := Prod.mk.inj h
      unfold Cluster.setMailSystem
      rw [hhostname, hdomain]
    refine couples_bind hprofile fun _ => couples_bind ?_ fun _ => (blind_pure _).couples
    refine couples_bind (blind_accept _).couples fun _ => ?_
    refine couples_bind (couples_updateMail _) fun _ => ?_
    refine couples_bind (blind_accept _).couples fun override => ?_
    cases override with
    | false => exact (blind_pure _).couples
    | true => exact couples_bind (blind_accept _).couples fun _ => couples_updateMail _
  · cases profile with
    | Local => exact (blind_pure _).couples
    | Relay =>
      refine couples_bind (blind_accept _).couples fun _ => ?_
      refine couples_bind (couples_updateMail _) fun _ => ?_
      exact couples_bind (blind_lift _).couples fun _ => couples_updateMail _
    | SASL =>
      refine couples_bind (blind_accept _).couples fun _ => ?_
      refine couples_bind (couples_updateMail _) fun _ => ?_
      exact couples_bind (blind_lift _).couples fun _ => couples_updateMail _

/-- The first answer of the mail step. -/
def AcceptsMail (s : Session Cluster) : Prop := s.script.head? = some (.confirm true)

theorem returns_presenterMailSystem (h : Returns presenterMailSystem s () s') :
    (AcceptsMail s ∧ Returns acceptedMail { s with script := s.script.tail } () s') ∨
      ¬ AcceptsMail s ∧ s'.model = s.model := by
  obtain ⟨wanted, s₁, hwanted, h⟩ := returns_bind.mp h
  obtain rfl := returns_yesNoQuestion.mp hwanted
  cases wanted with
  | true => exact .inl ⟨rfl, h⟩
  | false =>
    refine .inr ⟨by simp [AcceptsMail], ?_⟩
    rw [← (returns_pure.mp h).2]

end

end OpenCattus
