import OpenCattus.Questionnaire.DiskImage
import OpenCattus.Repositories.DocaStream
import OpenCattus.Repositories.Expansion

/-!
# Provisioner, software and services

The steps behind the operating system, but for the one of the nodes: the provisioner, the OpenHPC
bundles, the optional repositories, the queue system and the mail system.

The steps throw for a version of OFED without a repository (`quiet_presenterRepository`) and for
a port that is no number of 16 bits (`quiet_presenterMailSystem`); the others never do.
-/

namespace OpenCattus

open Foundations Foundations.Text Foundations.Inet Program Dialog

/-! ## Provisioner -/

/-- `supportedProvisionersFor`, of the head node and the compute nodes. Every platform has both
provisioners, but xCAT on Ubuntu only installs Ubuntu. -/
def supportedProvisionersFor (headnodeOS computeNodeOS : OS) : List Provisioner :=
  if headnodeOS.platform = .ubuntu2404 ∧ computeNodeOS.platform ≠ .ubuntu2404 then [.Confluent]
  else [.xCAT, .Confluent]

def toProvisionerName : Provisioner → String
  | .xCAT => "xcat"
  | .Confluent => "confluent"

/-- `PresenterProvisioner`. A single provisioner is only announced. -/
def presenterProvisioner : Presenter Unit := do
  let model ← getModel
  match supportedProvisionersFor model.headnode.os model.getComputeNodeOS with
  | [provisioner] => setModel fun model => { model with provisioner }
  | supported => do
    let selectedName ← listMenu (supported.map toProvisionerName)
    let provisioner ← lift (atKey selectedName (supported.map fun p => (toProvisionerName p, p)))
    setModel fun model => { model with provisioner }

theorem quiet_presenterProvisioner (s : Session Cluster) : Quiet presenterProvisioner s := by
  refine quiet_bind.mpr ⟨quiet_getModel s, fun model s₁ _ => ?_⟩
  split
  · exact quiet_setModel _ _
  · refine quiet_bind.mpr ⟨quiet_listMenu _ _, fun name s₂ hmenu => ?_⟩
    refine quiet_bind.mpr ⟨quiet_lift.mpr (exists_atKey ?_), fun _ _ _ => quiet_setModel _ _⟩
    rw [List.map_map]
    exact (returns_listMenu.mp hmenu).2

/-! ## OpenHPC -/

/-- The ids of `selectableBundlesFor`. -/
def selectableBundlesFor (os : OS) : List String :=
  ["serial-libs", "parallel-libs"] ++
    (if os.platform = .el9 ∨ os.platform = .el10 then ["intel-oneapi"] else [])

/-- `PresenterOpenHPC`. The saved selection is only shown. -/
def presenterOpenHPC : Presenter Unit := do
  let model ← getModel
  let enabledBundles ← checkboxSelectionMenu (selectableBundlesFor model.getComputeNodeOS)
  setModel fun model => { model with enabledOpenHPCBundles := some enabledBundles }

theorem quiet_presenterOpenHPC (s : Session Cluster) : Quiet presenterOpenHPC s := by
  refine quiet_bind.mpr ⟨quiet_getModel s, fun _ _ _ => ?_⟩
  exact quiet_bind.mpr ⟨quiet_accept _ _, fun _ _ _ => quiet_setModel _ _⟩

/-! ## Repositories -/

/-- The ids of `RepoManager::defaultRepositoriesFor`. -/
def RepoManager.defaultRepositoriesFor (probes : Probes) (osinfo : OS) (ofedVersion : String) :
    Result (List String) :=
  if osinfo.distro = .Ubuntu then
    .ok ["ubuntu-main", "ubuntu-updates", "ubuntu-security", "OpenHPC"]
  else do
    let resolvedOfedVersion := if ofedVersion = "" then "latest" else ofedVersion
    let ofedRepoTarget ← RepoManager.defaultDOCARepoTargetFor osinfo resolvedOfedVersion
    .ok (probes.repositoryIds osinfo resolvedOfedVersion ofedRepoTarget)

def selectableRepositoryIds : List String :=
  ["cuda", "beegfs", "elrepo", "grafana", "influxdata", "oneAPI", "nvhpc", "rpmfusion", "zfs",
    "zabbix"]

/-- The version of OFED that the repositories are for. -/
def Cluster.ofedVersion (model : Cluster) : String :=
  match model.ofed with
  | some ofed => ofed.version
  | none => "latest"

def presenterRepository (probes : Probes) : Presenter Unit := do
  let model ← getModel
  let allSelections ← lift
    (RepoManager.defaultRepositoriesFor probes model.getComputeNodeOS model.ofedVersion)
  let optionalRepos := selectableRepositoryIds.filter (· ∈ allSelections)
  if optionalRepos = [] then setModel fun model => { model with enabledRepositories := none }
  else do
    let toEnable ← checkboxSelectionMenu optionalRepos
    let expandedSelection := expandSelectedRepositoryIds toEnable
    setModel fun model =>
      { model with
        enabledRepositories := if expandedSelection = [] then none else some expandedSelection }

/-- The system of the nodes has repositories for the version of OFED. -/
def RepositoriesFit (probes : Probes) (model : Cluster) : Prop :=
  ∃ ids, RepoManager.defaultRepositoriesFor probes model.getComputeNodeOS model.ofedVersion = .ok ids

theorem quiet_presenterRepository {probes : Probes} {s : Session Cluster}
    (h : RepositoriesFit probes s.model) : Quiet (presenterRepository probes) s := by
  refine quiet_bind.mpr ⟨quiet_getModel s, fun model s₁ hmodel => ?_⟩
  obtain ⟨rfl, rfl⟩ := returns_getModel.mp hmodel
  refine quiet_bind.mpr ⟨quiet_lift.mpr h, fun _ _ _ => ?_⟩
  dsimp only
  split
  · exact quiet_setModel _ _
  · exact quiet_bind.mpr ⟨quiet_accept _ _, fun _ _ _ => quiet_setModel _ _⟩

/-! ## Queue system -/

namespace QueueSystem

inductive Kind where
  | None | SLURM | PBS
  deriving DecidableEq, Repr

instance : Enumeration Kind where
  values := [.None, .SLURM, .PBS]
  name
    | .None => "None"
    | .SLURM => "SLURM"
    | .PBS => "PBS"
  mem_values a := by cases a <;> decide
  name_inj a b := by cases a <;> cases b <;> decide +kernel

end QueueSystem

/-- `Cluster::setQueueSystem`. -/
def Cluster.setQueueSystem (model : Cluster) : QueueSystem.Kind → Cluster
  | .None => { model with queueSystem := none }
  | .SLURM => { model with queueSystem := some (.SLURM "") }
  | .PBS => { model with queueSystem := some (.PBS .Shared) }

def presenterQueueSystem : Presenter Unit := do
  let kind ← enumMenu QueueSystem.Kind
  setModel (·.setQueueSystem kind)
  match kind with
  | .None => pure ()
  | .SLURM => do
    let fieldsSLURM ← fieldMenu 3
    setModel fun model =>
      { model with
        queueSystem := some (.SLURM (fieldsSLURM.getD 0 ""))
        slurmMariaDBRootPassword := fieldsSLURM.getD 1 ""
        slurmDBPassword := fieldsSLURM.getD 2 ""
        slurmStoragePassword := fieldsSLURM.getD 2 "" }
  | .PBS => do
    let execution ← enumMenu PBS.ExecutionPlace
    setModel fun model => { model with queueSystem := some (.PBS execution) }

theorem quiet_presenterQueueSystem (s : Session Cluster) : Quiet presenterQueueSystem s := by
  refine quiet_bind.mpr ⟨quiet_enumMenu _, fun kind s₁ _ => ?_⟩
  refine quiet_bind.mpr ⟨quiet_setModel _ _, fun _ s₂ _ => ?_⟩
  cases kind with
  | None => exact quiet_pure _ _
  | SLURM => exact quiet_bind.mpr ⟨quiet_accept _ _, fun _ _ _ => quiet_setModel _ _⟩
  | PBS => exact quiet_bind.mpr ⟨quiet_enumMenu _, fun _ _ _ => quiet_setModel _ _⟩

/-! ## Mail system -/

def parseCommaSeparatedValues (raw : String) : List String :=
  (split isNameserverSeparator raw).filter (· ≠ "")

/-- `boost::lexical_cast<uint16_t>`. -/
def portOf (text : String) : Result Nat :=
  match lexicalCast 16 text with
  | some port => .ok port
  | none =>
    .error ⟨.badLexicalCast, "bad lexical cast: source type value could not be interpreted as target"⟩

/-- A setter of the mail system. -/
def updateMail (f : Postfix → Postfix) : Presenter Unit :=
  setModel fun model => { model with mailSystem := model.mailSystem.map f }

/-- `setMailSystem`, with the names of the head node. -/
def Cluster.setMailSystem (model : Cluster) (profile : Postfix.Profile) : Cluster :=
  { model with
    mailSystem := some
      { profile, hostname := some model.headnode.hostname, domain := some model.getDomainName } }

/-- The destinations and the certificate. -/
def promptCommonFields : Presenter Unit := do
  let commonFields ← fieldMenu 1
  let destinations := parseCommaSeparatedValues (getElem commonFields 0 Nat.one_pos)
  updateMail fun mail =>
    if destinations = [] then mail else { mail with destination := some destinations }
  if ← yesNoQuestion then do
    let tlsFields ← fieldMenu 2
    updateMail fun mail =>
      { mail with
        certFile := some (getElem tlsFields 0 Nat.two_pos)
        keyFile := some (getElem tlsFields 1 Nat.one_lt_two) }
  else pure ()

def promptRelayFields : Presenter Unit := do
  let relayFields ← fieldMenu 2
  updateMail fun mail => { mail with smtpServer := some (getElem relayFields 0 Nat.two_pos) }
  let port ← lift (portOf (getElem relayFields 1 Nat.one_lt_two))
  updateMail fun mail => { mail with port := some port }

def promptSaslFields : Presenter Unit := do
  let saslFields ← fieldMenu 4
  updateMail fun mail => { mail with smtpServer := some saslFields[0] }
  let port ← lift (portOf saslFields[1])
  updateMail fun mail =>
    { mail with port := some port, username := some saslFields[2], password := some saslFields[3] }

def promptProfileFields : Postfix.Profile → Presenter Unit
  | .Local => pure ()
  | .Relay => promptRelayFields
  | .SASL => promptSaslFields

/-- The profile and the prompts that all profiles share. -/
def promptProfile : Presenter Postfix.Profile := do
  let profile ← enumMenu Postfix.Profile
  setModel (·.setMailSystem profile)
  promptCommonFields
  pure profile

def presenterMailSystem : Presenter Unit := do
  if ← yesNoQuestion then do
    let profile ← promptProfile
    promptProfileFields profile
  else pure ()

/-- The port that is typed for the profile is a number of 16 bits. -/
structure MailFits (s : Session Cluster) : Prop where
  relay : ∀ s₁ s₂ fields s₃, Returns (yesNoQuestion : Presenter Bool) s true s₁ →
    Returns promptProfile s₁ .Relay s₂ →
      Returns (fieldMenu 2 : Presenter (Vector String 2)) s₂ fields s₃ →
        ∃ port, portOf (getElem fields 1 Nat.one_lt_two) = .ok port
  sasl : ∀ s₁ s₂ fields s₃, Returns (yesNoQuestion : Presenter Bool) s true s₁ →
    Returns promptProfile s₁ .SASL s₂ →
      Returns (fieldMenu 4 : Presenter (Vector String 4)) s₂ fields s₃ →
        ∃ port, portOf fields[1] = .ok port

theorem quiet_promptCommonFields (s : Session Cluster) : Quiet promptCommonFields s := by
  refine quiet_bind.mpr ⟨quiet_accept _ _, fun _ _ _ => ?_⟩
  refine quiet_bind.mpr ⟨quiet_setModel _ _, fun _ _ _ => ?_⟩
  refine quiet_bind.mpr ⟨quiet_accept _ _, fun override s₃ _ => ?_⟩
  cases override with
  | false => exact quiet_pure _ s₃
  | true => exact quiet_bind.mpr ⟨quiet_accept _ _, fun _ _ _ => quiet_setModel _ _⟩

theorem quiet_promptProfile (s : Session Cluster) : Quiet promptProfile s := by
  refine quiet_bind.mpr ⟨quiet_enumMenu _, fun _ _ _ => ?_⟩
  refine quiet_bind.mpr ⟨quiet_setModel _ _, fun _ _ _ => ?_⟩
  exact quiet_bind.mpr ⟨quiet_promptCommonFields _, fun _ _ _ => quiet_pure _ _⟩

theorem quiet_presenterMailSystem {s : Session Cluster} (h : MailFits s) :
    Quiet presenterMailSystem s := by
  refine quiet_bind.mpr ⟨quiet_accept _ _, fun wanted s₁ hwanted => ?_⟩
  cases wanted with
  | false => exact quiet_pure _ s₁
  | true =>
    refine quiet_bind.mpr ⟨quiet_promptProfile s₁, fun profile s₂ hprofile => ?_⟩
    cases profile with
    | Local => exact quiet_pure _ s₂
    | Relay =>
      refine quiet_bind.mpr ⟨quiet_accept _ _, fun fields s₃ hfields => ?_⟩
      have hport := h.relay s₁ s₂ fields s₃ hwanted hprofile hfields
      refine quiet_bind.mpr ⟨quiet_setModel _ _, fun _ _ _ => ?_⟩
      exact quiet_bind.mpr ⟨quiet_lift.mpr hport, fun _ _ _ => quiet_setModel _ _⟩
    | SASL =>
      refine quiet_bind.mpr ⟨quiet_accept _ _, fun fields s₃ hfields => ?_⟩
      have hport := h.sasl s₁ s₂ fields s₃ hwanted hprofile hfields
      refine quiet_bind.mpr ⟨quiet_setModel _ _, fun _ _ _ => ?_⟩
      exact quiet_bind.mpr ⟨quiet_lift.mpr hport, fun _ _ _ => quiet_setModel _ _⟩

end OpenCattus
