import OpenCattus.Questionnaire.LatestAnswers
import OpenCattus.Questionnaire.WrittenNetworks
import OpenCattus.Questionnaire.WrittenNodes

/-!
# Finished questionnaires

When all steps are completed, the model is written as an answerfile, which is loaded in place of
it. The forms and the load routines check the same data with rules of their own.

`installable_iff` says for which answers of a straight run the file is accepted.
-/

namespace OpenCattus

open Foundations Foundations.Text Foundations.Inet Program Dialog

/-! ## The mail system -/

/-- The port that is typed behind the profile is not zero. -/
def PortNonzero : Postfix.Profile → Session Cluster → Prop
  | .Local, _ => True
  | .Relay, s => ∀ fields s', Returns (fieldMenu 2 : Presenter (Vector String 2)) s fields s' →
      portOf (fields.get 1) ≠ .ok 0
  | .SASL, s => ∀ fields s', Returns (fieldMenu 4 : Presenter (Vector String 4)) s fields s' →
      portOf (fields.get 1) ≠ .ok 0

/-- A mail system that is wanted has a port, if its profile asks for one. -/
def PortGiven (s : Session Cluster) : Prop :=
  ∀ s₁ profile s₂, Returns (yesNoQuestion : Presenter Bool) s true s₁ →
    Returns promptProfile s₁ profile s₂ → PortNonzero profile s₂

section

variable {s s' : Session Cluster} {profile : Postfix.Profile} {text : String} {port : Nat}

theorem isPort_iff (h : portOf text = .ok port) : isPort port ↔ portOf text ≠ .ok 0 := by
  have hlt : port < 2 ^ 16 := by
    unfold portOf at h
    split at h
    · rename_i hcast
      rw [← Except.ok.inj h]
      exact lexicalCast_lt hcast
    · cases h
  rw [h, ne_eq, Except.ok.injEq, isPort]
  omega

/-- The mail system has the profile that was selected. -/
theorem mailSystem_of_promptProfile (h : Returns promptProfile s profile s') :
    ∃ mail, s'.model.mailSystem = some mail ∧ mail.profile = profile := by
  obtain ⟨selected, s₁, -, h⟩ := returns_bind.mp h
  obtain ⟨_, s₂, hset, h⟩ := returns_bind.mp h
  obtain ⟨_, s₃, hcommon, h⟩ := returns_bind.mp h
  obtain ⟨rfl, rfl⟩ := returns_pure.mp h
  have hkeeps : ∀ f : Postfix → Postfix, (∀ mail, (f mail).profile = mail.profile) →
      Leaves (updateMail f) fun model : Cluster => model.mailSystem.map Postfix.profile := by
    intro f hf
    refine leaves_setModel fun model => ?_
    cases hmail : model.mailSystem with
    | none => rfl
    | some mail => simp [hf]
  have hleaves : Leaves promptCommonFields fun model : Cluster =>
      model.mailSystem.map Postfix.profile := by
    refine leaves_bind (leaves_accept _) fun _ => leaves_bind (hkeeps _ fun _ => ?_) fun _ => ?_
    · split <;> rfl
    · refine leaves_bind (leaves_accept _) fun override => ?_
      cases override with
      | false => exact leaves_pure _
      | true => exact leaves_bind (leaves_accept _) fun _ => hkeeps _ fun _ => rfl
  have hprofile := hleaves.returns hcommon
  rw [returns_setModel.mp hset] at hprofile
  obtain ⟨mail, hmail, heq⟩ := Option.map_eq_some_iff.mp hprofile
  exact ⟨mail, hmail, heq⟩

/-- A relay is written with its server and its port. -/
theorem loadable_dumpPostfix {model : Cluster} {mail : Postfix} {server : String}
    (hmail : model.mailSystem = some mail) (hserver : mail.smtpServer = some server)
    (hport : mail.port = some port) :
    model.dumpPostfix.Loadable ↔ mail.profile = .Local ∨ isPort port := by
  unfold Cluster.dumpPostfix Cluster.dumpSMTP AFPostfix.Loadable
  cases hprofile : mail.profile <;> simp [hmail, hserver, hport, hprofile]

theorem loadable_dumpPostfix_local {model : Cluster} {mail : Postfix}
    (hmail : model.mailSystem = some mail) (hlocal : mail.profile = .Local) :
    model.dumpPostfix.Loadable := by
  simp [Cluster.dumpPostfix, AFPostfix.Loadable, hmail, hlocal]

theorem returns_promptRelayFields (h : Returns promptRelayFields s () s') :
    ∃ (fields : Vector String 2) (s₁ : Session Cluster) (port : Nat),
      Returns (fieldMenu 2 : Presenter (Vector String 2)) s fields s₁ ∧
      portOf (fields.get 1) = .ok port ∧
      s'.model.mailSystem = s.model.mailSystem.map fun mail =>
        { mail with smtpServer := some (fields.get 0), port := some port } := by
  obtain ⟨fields, s₁, hfields, h⟩ := returns_bind.mp h
  obtain ⟨_, s₂, hserver, h⟩ := returns_bind.mp h
  obtain ⟨port, s₃, hlift, h⟩ := returns_bind.mp h
  obtain ⟨hport, rfl⟩ := returns_lift.mp hlift
  refine ⟨fields, s₁, port, hfields, hport, ?_⟩
  have hmodel : s₁.model = s.model := (leaves_accept (f := id) _).returns hfields
  rw [returns_setModel.mp h, returns_setModel.mp hserver, hmodel]
  exact Option.map_map ..

theorem returns_promptSaslFields (h : Returns promptSaslFields s () s') :
    ∃ (fields : Vector String 4) (s₁ : Session Cluster) (port : Nat),
      Returns (fieldMenu 4 : Presenter (Vector String 4)) s fields s₁ ∧
      portOf (fields.get 1) = .ok port ∧
      s'.model.mailSystem = s.model.mailSystem.map fun mail =>
        { mail with
          smtpServer := some (fields.get 0)
          port := some port
          username := some (fields.get 2)
          password := some (fields.get 3) } := by
  obtain ⟨fields, s₁, hfields, h⟩ := returns_bind.mp h
  obtain ⟨_, s₂, hserver, h⟩ := returns_bind.mp h
  obtain ⟨port, s₃, hlift, h⟩ := returns_bind.mp h
  obtain ⟨hport, rfl⟩ := returns_lift.mp hlift
  refine ⟨fields, s₁, port, hfields, hport, ?_⟩
  have hmodel : s₁.model = s.model := (leaves_accept (f := id) _).returns hfields
  rw [returns_setModel.mp h, returns_setModel.mp hserver, hmodel]
  exact Option.map_map ..

/-- What the fields of the profile leave is accepted when the port is not zero. -/
theorem loadable_promptProfileFields {mail : Postfix}
    (h : Returns (promptProfileFields mail.profile) s () s')
    (hmail : s.model.mailSystem = some mail) :
    s'.model.dumpPostfix.Loadable ↔ PortNonzero mail.profile s := by
  cases hprofile : mail.profile with
  | Local =>
    rw [hprofile] at h
    obtain ⟨-, rfl⟩ := returns_pure.mp h
    exact iff_of_true (loadable_dumpPostfix_local hmail hprofile) trivial
  | Relay =>
    rw [hprofile] at h
    obtain ⟨fields, s₁, port, hfields, hport, hlast⟩ := returns_promptRelayFields h
    rw [hmail, Option.map_some] at hlast
    rw [loadable_dumpPostfix hlast rfl rfl, isPort_iff hport, or_iff_right (by simp [hprofile])]
    constructor
    · intro hne others s₂ hothers
      obtain ⟨rfl, -⟩ := Returns.unique hfields hothers
      exact hne
    · exact fun hall => hall fields s₁ hfields
  | SASL =>
    rw [hprofile] at h
    obtain ⟨fields, s₁, port, hfields, hport, hlast⟩ := returns_promptSaslFields h
    rw [hmail, Option.map_some] at hlast
    rw [loadable_dumpPostfix hlast rfl rfl, isPort_iff hport, or_iff_right (by simp [hprofile])]
    constructor
    · intro hne others s₂ hothers
      obtain ⟨rfl, -⟩ := Returns.unique hfields hothers
      exact hne
    · exact fun hall => hall fields s₁ hfields

/-- The mail system that a step adds is accepted exactly when its port is not zero. -/
theorem loadable_mail_iff (h : Returns presenterMailSystem s () s')
    (hnone : s.model.mailSystem = none) : s'.model.dumpPostfix.Loadable ↔ PortGiven s := by
  obtain ⟨wanted, s₁, hwanted, h⟩ := returns_bind.mp h
  cases wanted with
  | false =>
    obtain ⟨-, rfl⟩ := returns_pure.mp h
    have hmail : s₁.model.mailSystem = none :=
      ((leaves_accept (f := Cluster.mailSystem) _).returns hwanted).trans hnone
    refine iff_of_true (by simp [Cluster.dumpPostfix, hmail, AFPostfix.Loadable]) ?_
    intro s₂ profile s₃ hyes
    cases (Returns.unique hwanted hyes).1
  | true =>
    obtain ⟨profile, s₂, hprofile, h⟩ := returns_bind.mp h
    obtain ⟨mail, hmail, rfl⟩ := mailSystem_of_promptProfile hprofile
    rw [loadable_promptProfileFields h hmail]
    constructor
    · intro hport s₃ profile s₄ hyes hother
      obtain ⟨-, rfl⟩ := Returns.unique hwanted hyes
      obtain ⟨rfl, rfl⟩ := Returns.unique hprofile hother
      exact hport
    · exact fun hall => hall s₁ mail.profile s₂ hwanted hprofile

end

/-! ## The record -/

section

variable [Inet6]

/-- The sections that can be refused. The others are accepted whatever the model has in them. -/
theorem loadable_toAnswerFile_iff {model : Cluster} :
    model.toAnswerFile.Loadable ↔
      (model.toAnswerFile.networkField .External).Loadable ∧
        (model.toAnswerFile.networkField .Management).Loadable ∧
          (model.toAnswerFile.networkField .Service).LoadableOptional ∧
            (model.toAnswerFile.networkField .Application).LoadableOptional ∧
              AFNodes.Loadable ⟨some model.dumpGenericNode, model.nodes.map Cluster.dumpNode⟩ ∧
                model.dumpPostfix.Loadable := by
  constructor
  · intro h
    exact ⟨h.external, h.management, h.service, h.application, h.nodes, h.postfixMail⟩
  · rintro ⟨hexternal, hmanagement, hservice, happlication, hnodes, hmail⟩
    refine ⟨hexternal, hmanagement, hservice, happlication, ?_, hnodes, hmail, ?_, ?_⟩
    · have hprovisioner : model.toAnswerFile.system.provisioner =
          if model.provisioner = .xCAT then "xcat" else "confluent" := rfl
      unfold AFSystem.Loadable
      rw [hprovisioner]
      split
      · exact .inr (by decide)
      · exact .inl (by decide)
    · change model.dumpOFED.Loadable
      unfold Cluster.dumpOFED
      cases model.ofed with
      | none => simp [AFOFED.Loadable]
      | some ofed =>
        intro _ _
        refine ⟨?_, rfl⟩
        dsimp only
        cases ofed.kind <;> decide +kernel
    · change (model.dumpSlurm.enabled && model.dumpPBS.enabled) = false
      unfold Cluster.dumpSlurm Cluster.dumpPBS
      cases model.queueSystem with
      | none => rfl
      | some queue => cases queue <;> rfl

/-! ## A straight run -/

/-- A model in which nothing of what is written has been entered, such as a fresh one. -/
structure Cluster.Blank (model : Cluster) : Prop where
  networkSetup : model.networkSetup = ([], [])
  nodes : model.nodes = []
  mailSystem : model.mailSystem = none

omit [Inet6] in
theorem blank_fresh (host : Host) : (Cluster.fresh host).Blank := ⟨rfl, rfl, rfl⟩

/-- What the answers have to be, beyond what the forms ask. -/
structure Installable (host : Host) (vs : List QuestionnairePass) : Prop where
  external : ∀ v, latestPass "networking" vs = some v → Readable host .External {} (replayed v)
  nodes : ∀ v inventory start, latestPass "nodes" vs = some v →
    typedInventory (answersOf v) = some inventory → inventory.naming.startIP = .v4 start →
      inventory.Accepted start
  mail : ∀ v, latestPass "mail" vs = some v → PortGiven (replayed v)

variable {probes : Probes} {completedSteps : Finset String} {s s' : Session Cluster}

/-- The answerfile of a run that completes all steps without going back is accepted exactly when
the external network can be read, the memory, the serial speed and the mail port are not zero, the
root password and the credentials of the BMCs are not empty, and no address is used twice. -/
theorem installable_iff {path : String} {dryRun : Bool}
    (hall : (Progress.start completedSteps).stepIndex = 0) (hblank : s.model.Blank)
    (h : Returns (presenterInstall probes completedSteps) s () s')
    (hup : ∀ v ∈ questionnairePasses probes completedSteps s,
      v.next.stepIndex = v.value.stepIndex + 1) :
    (∃ r, loadOptions ⟨path, s'.model.dumpData⟩ dryRun = .ok r) ↔
      Installable probes.host (questionnairePasses probes completedSteps s) := by
  obtain ⟨z, hrun, hsystem⟩ := runsThrough_presenterInstall h
  have hpassed : ∀ name ∈ stepNames, 0 < stepNames.idxOf name →
      ∃ v, latestPass name (questionnairePasses probes completedSteps s) = some v :=
    fun name hname hpos => exists_latestPass h hname (hall ▸ hpos)
  obtain ⟨v₁, hv₁⟩ := hpassed "networking" (by decide) (by decide)
  obtain ⟨v₂, hv₂⟩ := hpassed "nodes" (by decide) (by decide)
  obtain ⟨v₃, hv₃⟩ := hpassed "mail" (by decide) (by decide)
  -- The networks.
  obtain ⟨hnetworking, hnetworks⟩ := hrun.of_latest setBy_networkSetup hv₁ rfl
  obtain ⟨nc, hsaved, hexternal⟩ := savedIn_of_returns hnetworking
    ((hrun.of_straight setBy_networkSetup hup hv₁).trans hblank.networkSetup)
  have hwritten : SavedIn probes.host nc.networks s'.model :=
    hsaved.of_networkSetup
      ((setBy_networkSetup.of_withoutSystem (by decide) hsystem).trans hnetworks)
  -- The nodes.
  obtain ⟨hnodes, hinventory⟩ := hrun.of_latest setBy_nodeSetup hv₂ rfl
  obtain ⟨inventory, start, cpu, network, htyped, hentered⟩ := entered_of_returns hnodes
  have hchecked := checked_of_typedInventory htyped
  have hnone : v₂.before.model.nodes = [] :=
    (congrArg Prod.fst (hrun.of_straight setBy_nodeSetup hup hv₂)).trans hblank.nodes
  obtain ⟨hadded, hgeneric⟩ := Prod.mk.inj
    ((setBy_nodeSetup.of_withoutSystem (by decide) hsystem).trans hinventory)
  have haccepted : AFNodes.Loadable
      ⟨some s'.model.dumpGenericNode, s'.model.nodes.map Cluster.dumpNode⟩ ↔
        inventory.Accepted start := by
    rw [hadded, hgeneric]
    exact hentered.loadable_iff hchecked hnone
  have hmanagement : ∃ net ∈ nc.networks, net.profile = .Management := by
    have hbefore := hrun.at_later setBy_networkSetup (by decide) (by decide) hv₂
    exact (hsaved.of_networkSetup (hbefore.symm.trans hnetworks)).exists_of_getNetwork
      hentered.management
  -- The mail system.
  obtain ⟨hmail, hmailEnd⟩ := hrun.of_latest (setBy_setting .mailSystem) hv₃ rfl
  have hport := loadable_mail_iff hmail
    ((hrun.of_straight (setBy_setting .mailSystem) hup hv₃).trans hblank.mailSystem)
  have hpostfix : s'.model.dumpPostfix = v₃.after.model.dumpPostfix := by
    have hsame : s'.model.mailSystem = v₃.after.model.mailSystem :=
      ((setBy_setting .mailSystem).of_withoutSystem (by decide) hsystem).trans hmailEnd
    unfold Cluster.dumpPostfix
    rw [hsame]
  have hload : (∃ r, loadOptions ⟨path, s'.model.dumpData⟩ dryRun = .ok r) ↔
      s'.model.toAnswerFile.Loadable := by
    have hnamed : ∀ node ∈ s'.model.nodes, node.hostname ≠ "" := by
      rw [hadded]
      exact fun node hnode => hentered.hostname_ne_empty hnone hnode
    have hsize : s'.model.nodes.length ≤ vectorMaxSize := by
      rw [hadded]
      exact hentered.length_le hnone
    simp only [loadOptions_dumpData hnamed hsize, exists_and_left, exists_eq, and_true]
  rw [hload, loadable_toAnswerFile_iff, haccepted, hpostfix, hport,
    and_iff_right (hwritten.loadableOptional .Service),
    and_iff_right (hwritten.loadableOptional .Application), hwritten.loadable_iff .Management,
    and_iff_right hmanagement, hwritten.loadable_iff .External, hexternal]
  constructor
  · rintro ⟨hreadable, hinstalled, hgiven⟩
    refine ⟨?_, ?_, ?_⟩
    · intro v hv
      obtain rfl := Option.some.inj (hv₁.symm.trans hv)
      exact hreadable
    · intro v other first hv hother hfirst
      obtain rfl := Option.some.inj (hv₂.symm.trans hv)
      obtain rfl := Option.some.inj (htyped.symm.trans hother)
      obtain rfl := Address.v4.inj (hentered.startIP.symm.trans hfirst)
      exact hinstalled
    · intro v hv
      obtain rfl := Option.some.inj (hv₃.symm.trans hv)
      exact hgiven
  · intro hinstallable
    exact ⟨hinstallable.external v₁ hv₁,
      hinstallable.nodes v₂ inventory start hv₂ htyped hentered.startIP, hinstallable.mail v₃ hv₃⟩

end

/-! ## Nodes without memory -/

/-- Every step once, with `realMemory` for the nodes. -/
def finishedSession (realMemory : String) : Session Cluster where
  model := Cluster.fresh sampleHost
  script :=
    [.fields ["head", "c", "a@b.c"], .item "Text", .item "America", .item "Sao_Paulo",
      .items ["ntp.a"], .item "English (en)", .fields ["head", "cluster.com"],
      .item "eth0", .fields ["10.0.0.2", "255.0.0.0", "10.0.0.1", "a.b", "10.0.0.1"],
      .item "eth1", .fields ["11.0.0.2", "255.0.0.0", "11.0.0.1", "a.b", "10.0.0.1"],
      .confirm false, .confirm true, .item "Rocky Linux", .fields ["9.4", "x86_64"],
      .item "xcat", .items [], .fields ["n", "2", "11.0.0.10", "", "pw", "pw"],
      .fields ["1", "1", "1", realMemory, "u", "p", "0", "9600"], .fields ["2"],
      .fields ["00:00:00:00:00:01", "11.0.0.20"], .fields ["00:00:00:00:00:02", ""],
      .item "None", .confirm true, .item "Relay", .fields [""], .confirm false,
      .fields ["smtp.b.c", "25"], .confirm true]

/-- What the run of a session is written as. -/
def finishedFile (s : Session Cluster) : KeyFile :=
  ⟨"answerfile.ini",
    @Cluster.dumpData plainInet6 (@presenterInstall plainInet6 onlineProbes ∅ s).2.model⟩

theorem returns_finishedSession {realMemory : String} (h : realMemory = "1024" ∨ realMemory = "0") :
    (∃ s', Returns (@presenterInstall plainInet6 onlineProbes ∅) (finishedSession realMemory) ()
        s' ∧
      finishedFile (finishedSession realMemory) =
        ⟨"answerfile.ini", @Cluster.dumpData plainInet6 s'.model⟩) ∧
      ∀ v ∈ sessionPasses (finishedSession realMemory),
        v.next.stepIndex = v.value.stepIndex + 1 := by
  rcases h with rfl | rfl
  · exact ⟨⟨_, returns_of_fst (by decide +kernel), rfl⟩, by decide +kernel⟩
  · exact ⟨⟨_, returns_of_fst (by decide +kernel), rfl⟩, by decide +kernel⟩

/-- With memory the file is accepted. -/
theorem installable_iff_finished :
    ∃ s', Returns (@presenterInstall plainInet6 onlineProbes ∅) (finishedSession "1024") () s' ∧
      (∃ r, @loadOptions plainInet6 ⟨"answerfile.ini", @Cluster.dumpData plainInet6 s'.model⟩
        false = .ok r) ∧
      @Installable plainInet6 onlineProbes.host (sessionPasses (finishedSession "1024")) := by
  obtain ⟨⟨s', hrun, hfile⟩, hup⟩ := returns_finishedSession (.inl rfl)
  have haccepted : (@loadOptions plainInet6 (finishedFile (finishedSession "1024"))
      false).toOption.isSome = true := by decide +kernel
  have hload : ∃ r, @loadOptions plainInet6
      ⟨"answerfile.ini", @Cluster.dumpData plainInet6 s'.model⟩ false = .ok r := by
    rw [hfile] at haccepted
    cases hresult : @loadOptions plainInet6
        ⟨"answerfile.ini", @Cluster.dumpData plainInet6 s'.model⟩ false with
    | ok r => exact ⟨r, rfl⟩
    | error e =>
      rw [hresult] at haccepted
      cases haccepted
  exact ⟨s', hrun, hload,
    (@installable_iff plainInet6 _ _ _ _ _ _ (by decide) (blank_fresh _) hrun hup).mp hload⟩

/-- A form with no memory is taken, and the file that is written is refused. -/
theorem finished_without_memory :
    ¬ ∀ s s' : Session Cluster, s.model = Cluster.fresh onlineProbes.host →
      Returns (@presenterInstall plainInet6 onlineProbes ∅) s () s' →
      (∀ v ∈ sessionPasses s, v.next.stepIndex = v.value.stepIndex + 1) →
      ∃ r, @loadOptions plainInet6 ⟨"answerfile.ini", @Cluster.dumpData plainInet6 s'.model⟩
        false = .ok r := by
  intro h
  obtain ⟨⟨s', hrun, hfile⟩, hup⟩ := returns_finishedSession (.inr rfl)
  obtain ⟨r, hr⟩ := h _ s' rfl hrun hup
  have hrefused : (@loadOptions plainInet6 (finishedFile (finishedSession "0"))
      false).toOption.isSome = false := by decide +kernel
  rw [hfile, hr] at hrefused
  cases hrefused

end OpenCattus
