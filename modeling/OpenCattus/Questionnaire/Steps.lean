import OpenCattus.Foundations.Transcript
import OpenCattus.Questionnaire.Escapes
import OpenCattus.Questionnaire.Preflight
import OpenCattus.Questionnaire.Software
import OpenCattus.Session.Install

namespace OpenCattus

open Foundations Foundations.Text Foundations.Inet Program Dialog

/-! ## The steps -/

section

variable [Inet6]

/-- `steps`: the names and the bodies. -/
def steps (probes : Probes) : List (String × Presenter Unit) :=
  [("general", presenterGeneralSettings), ("time", presenterTime probes),
    ("locale", presenterLocale probes), ("hostname", presenterHostId),
    ("networking", networkingStep probes.host), ("os", presenterNodesOperationalSystem probes),
    ("provisioner", presenterProvisioner), ("ohpc", presenterOpenHPC),
    ("repositories", presenterRepository probes), ("nodes", presenterNodes),
    ("queue", presenterQueueSystem), ("mail", presenterMailSystem),
    ("preflight", presenterPreflight probes)]

theorem map_fst_steps (probes : Probes) : (steps probes).map Prod.fst = stepNames := rfl

/-! ## The steps read their answers -/

omit [Inet6]

theorem reads_enumMenu (α : Type) [Enumeration α] : Reads (enumMenu α) :=
  reads_bind (reads_listMenu _) fun _ => reads_lift _

theorem reads_presenterGeneralSettings : Reads presenterGeneralSettings := by
  refine reads_bind (reads_accept _) fun _ => ?_
  refine reads_bind (reads_setModel _) fun _ => ?_
  exact reads_bind (reads_enumMenu _) fun _ => reads_pure _

theorem reads_selectLocation (levels : Nat) (node : TimezoneNode) (selectedTimezone : String) :
    Reads (selectLocation levels node selectedTimezone) := by
  induction levels generalizing node selectedTimezone with
  | zero => exact reads_pure _
  | succ levels ih =>
    unfold selectLocation
    split
    · exact reads_pure _
    · refine reads_bind (reads_listMenu _) fun _ => ?_
      exact reads_bind (reads_lift _) fun child => ih child _

theorem reads_presenterTime (probes : Probes) : Reads (presenterTime probes) := by
  unfold presenterTime
  split
  · exact reads_fatalMessage
  · refine reads_bind (reads_listMenu _) fun _ => ?_
    dsimp only
    split
    · exact reads_fatalMessage
    · refine reads_bind (reads_selectLocation _ _ _) fun _ => ?_
      refine reads_bind (reads_setModel _) fun _ => ?_
      exact reads_bind (reads_accept _) fun _ => reads_setModel _

theorem reads_presenterLocale (probes : Probes) : Reads (presenterLocale probes) := by
  have hmenu : ∀ choices, Reads (listMenu choices >>= fun selectedLocale =>
      setModel fun model => { model with locale := selectedLocale } : Presenter Unit) :=
    fun _ => reads_bind (reads_listMenu _) fun _ => reads_setModel _
  unfold presenterLocale
  split
  · exact reads_fatalMessage
  · split
    · exact hmenu _
    · refine reads_bind (reads_listMenu _) fun _ => ?_
      split
      · exact hmenu _
      · refine reads_bind (reads_lift _) fun _ => ?_
        split
        · exact reads_setModel _
        · refine reads_bind (reads_listMenu _) fun _ => ?_
          exact reads_bind (reads_lift _) fun _ => reads_setModel _

theorem reads_selectDistro : Reads selectDistro :=
  reads_bind (reads_listMenu _) fun _ => reads_lift _

theorem reads_downloadSelectedDistro (host : Host) (distro : OS.Distro) :
    Reads (downloadSelectedDistro host distro) := by
  unfold downloadSelectedDistro
  split
  · exact reads_pure _
  · refine reads_bind (reads_ask _) fun _ => ?_
    refine reads_bind (reads_lift _) fun _ => ?_
    refine reads_bind reads_getModel fun _ => ?_
    refine reads_bind (reads_lift _) fun _ => ?_
    refine reads_bind (reads_setModel _) fun _ => ?_
    refine reads_bind (reads_lift _) fun _ => ?_
    exact reads_bind (reads_setModel _) fun _ => reads_pure _

theorem reads_useImage (probes : Probes) (isoRoot : String) (distro : OS.Distro)
    (isos : List String) : Reads (useImage probes isoRoot distro isos) := by
  refine reads_bind (reads_listMenu _) fun _ => ?_
  refine reads_bind reads_getModel fun _ => ?_
  refine reads_bind (reads_lift _) fun _ => ?_
  refine reads_bind (reads_setModel _) fun _ => ?_
  refine reads_bind (reads_lift _) fun _ => ?_
  refine reads_bind (reads_ask _) fun _ => ?_
  exact reads_bind (reads_lift _) fun _ => reads_setModel _

theorem reads_promptImages (probes : Probes) : Reads (promptImages probes) :=
  reads_bind (reads_ask _) fun _ => reads_bind reads_selectDistro fun _ => reads_pure _

theorem asks_promptImages (probes : Probes) : Asks (promptImages probes) :=
  asks_bind (asks_ask _) fun _ => reads_bind reads_selectDistro fun _ => reads_pure _

theorem reads_planDownload (host : Host) (distro : OS.Distro) : Reads (planDownload host distro) :=
  reads_bind (reads_downloadSelectedDistro host distro) fun _ => reads_pure _

theorem reads_useImages (probes : Probes) (images : String × OS.Distro × Option (List String)) :
    Reads (useImages probes images) := by
  obtain ⟨isoRoot, distro, isos⟩ := images
  rcases isos with _ | _ | ⟨iso, isos⟩
  · exact reads_pure _
  · refine reads_bind (reads_accept _) fun wanted => ?_
    cases wanted with
    | false => exact reads_pure _
    | true => exact reads_planDownload probes.host distro
  · exact reads_bind (reads_useImage _ _ _ _) fun _ => reads_pure _

theorem reads_presenterNodesOperationalSystem (probes : Probes) :
    Reads (presenterNodesOperationalSystem probes) := by
  refine reads_bind (reads_accept _) fun wanted => ?_
  cases wanted with
  | true =>
    have hplan := reads_planDownload probes.host
    refine reads_retry (reads_bind reads_selectDistro hplan) ?_
    exact asks_bind (asks_bind (asks_listMenu _) fun _ => reads_lift _) hplan
  | false =>
    refine reads_retry (reads_bind (reads_promptImages probes) (reads_useImages probes)) ?_
    exact asks_bind (asks_promptImages probes) (reads_useImages probes)

theorem reads_presenterProvisioner : Reads presenterProvisioner := by
  refine reads_bind reads_getModel fun _ => ?_
  split
  · exact reads_setModel _
  · refine reads_bind (reads_listMenu _) fun _ => ?_
    exact reads_bind (reads_lift _) fun _ => reads_setModel _

theorem reads_presenterOpenHPC : Reads presenterOpenHPC :=
  reads_bind reads_getModel fun _ => reads_bind (reads_accept _) fun _ => reads_setModel _

theorem reads_presenterRepository (probes : Probes) : Reads (presenterRepository probes) := by
  refine reads_bind reads_getModel fun _ => reads_bind (reads_lift _) fun _ => ?_
  dsimp only
  split
  · exact reads_setModel _
  · exact reads_bind (reads_accept _) fun _ => reads_setModel _

theorem reads_presenterQueueSystem : Reads presenterQueueSystem := by
  refine reads_bind (reads_enumMenu _) fun kind => reads_bind (reads_setModel _) fun _ => ?_
  cases kind with
  | None => exact reads_pure _
  | SLURM => exact reads_bind (reads_accept _) fun _ => reads_setModel _
  | PBS => exact reads_bind (reads_enumMenu _) fun _ => reads_setModel _

theorem reads_promptProfile : Reads promptProfile := by
  refine reads_bind (reads_enumMenu _) fun _ => reads_bind (reads_setModel _) fun _ => ?_
  refine reads_bind ?_ fun _ => reads_pure _
  refine reads_bind (reads_accept _) fun _ => reads_bind (reads_setModel _) fun _ => ?_
  refine reads_bind (reads_accept _) fun override => ?_
  cases override with
  | false => exact reads_pure _
  | true => exact reads_bind (reads_accept _) fun _ => reads_setModel _

theorem reads_promptProfileFields (profile : Postfix.Profile) :
    Reads (promptProfileFields profile) := by
  have hport : ∀ (text : String) (f : Nat → Postfix → Postfix),
      Reads (lift (portOf text) >>= fun port => updateMail (f port)) :=
    fun _ _ => reads_bind (reads_lift _) fun _ => reads_setModel _
  cases profile with
  | Local => exact reads_pure _
  | Relay => exact reads_bind (reads_accept _) fun _ => reads_bind (reads_setModel _) fun _ => hport _ _
  | SASL => exact reads_bind (reads_accept _) fun _ => reads_bind (reads_setModel _) fun _ => hport _ _

theorem reads_presenterMailSystem : Reads presenterMailSystem := by
  refine reads_bind (reads_accept _) fun wanted => ?_
  cases wanted with
  | false => exact reads_pure _
  | true => exact reads_bind reads_promptProfile reads_promptProfileFields

variable [Inet6] {host : Host} {nc : NetworkCreator} {profile : Network.Profile}
  {kind : Network.Kind}

theorem reads_networkPrompts : Reads (networkPrompts host nc profile kind) :=
  reads_bind (reads_listMenu _) fun _ => reads_ask _

theorem reads_presenterNetwork : Reads (presenterNetwork host nc profile kind) := by
  unfold presenterNetwork
  dsimp only
  split
  · exact reads_lift _
  · split
    · exact reads_fatalMessage
    · refine reads_bind reads_networkPrompts fun _ => ?_
      exact reads_bind (reads_lift _) fun _ => reads_pure _

theorem reads_logged : Reads (logged nc (presenterNetwork host nc profile kind)) := by
  refine reads_rescue reads_presenterNetwork rfl fun stop y hstop => ?_
  cases stop with
  | thrown e =>
    dsimp only at hstop
    split at hstop
    · cases hstop
    · obtain rfl := Option.some.inj hstop
      exact reads_pure _
  | _ => cases hstop

theorem reads_presenterInfiniband : Reads (presenterInfiniband host nc) := by
  unfold presenterInfiniband
  split
  · exact reads_pure _
  · refine reads_bind (reads_accept _) fun yes => ?_
    cases yes with
    | false => exact reads_pure _
    | true =>
      refine reads_bind (reads_listMenu _) fun _ => reads_bind (reads_lift _) fun kind => ?_
      refine reads_bind ?_ fun _ => reads_bind (reads_setModel _) fun _ => reads_logged
      unfold selectedVersion
      split
      · exact reads_pure _
      · exact reads_bind (reads_accept _) fun _ => reads_pure _

theorem reads_networkingStep (host : Host) : Reads (networkingStep host) := by
  refine reads_bind ?_ fun _ => reads_bind reads_getModel fun _ => ?_
  · refine reads_bind reads_logged fun _ => reads_bind reads_logged fun _ => ?_
    refine reads_bind (reads_accept _) fun wanted => ?_
    refine reads_bind ?_ fun _ => reads_presenterInfiniband
    cases wanted with
    | true => exact reads_logged
    | false => exact reads_pure _
  · exact reads_bind (reads_lift _) fun _ => reads_setModel _

theorem reads_presenterNodes : Reads presenterNodes := by
  refine reads_bind ?_ fun r => ?_
  · refine reads_bind (reads_ask _) fun _ => reads_bind (reads_setModel _) fun _ => ?_
    refine reads_bind (reads_ask _) fun _ => reads_bind (reads_setModel _) fun _ => ?_
    exact reads_bind (reads_ask _) fun _ => reads_bind (reads_setModel _) fun _ => reads_pure _
  · refine reads_bind (reads_lift _) fun _ => reads_bind reads_getModel fun _ => ?_
    split
    · exact reads_fatalMessage
    · exact reads_each (fun _ => reads_bind (reads_lift _) fun _ => reads_ask _) _

theorem reads_presenterPreflight (probes : Probes) : Reads (presenterPreflight probes) :=
  reads_bind reads_getModel fun _ => reads_bind (reads_lift _) fun _ => reads_accept _

theorem reads_steps {probes : Probes} {name : String} {body : Presenter Unit}
    (h : (name, body) ∈ steps probes) : Reads body := by
  simp only [steps, List.mem_cons, Prod.mk.injEq, List.not_mem_nil, or_false] at h
  rcases h with ⟨-, rfl⟩ | ⟨-, rfl⟩ | ⟨-, rfl⟩ | ⟨-, rfl⟩ | ⟨-, rfl⟩ | ⟨-, rfl⟩ | ⟨-, rfl⟩ |
    ⟨-, rfl⟩ | ⟨-, rfl⟩ | ⟨-, rfl⟩ | ⟨-, rfl⟩ | ⟨-, rfl⟩ | ⟨-, rfl⟩
  · exact reads_presenterGeneralSettings
  · exact reads_presenterTime probes
  · exact reads_presenterLocale probes
  · exact reads_ask _
  · exact reads_networkingStep _
  · exact reads_presenterNodesOperationalSystem probes
  · exact reads_presenterProvisioner
  · exact reads_presenterOpenHPC
  · exact reads_presenterRepository probes
  · exact reads_presenterNodes
  · exact reads_presenterQueueSystem
  · exact reads_presenterMailSystem
  · exact reads_presenterPreflight probes

end

end OpenCattus
