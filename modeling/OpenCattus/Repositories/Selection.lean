import OpenCattus.Questionnaire.Software
import OpenCattus.Repositories.Configuration

/-!
# The default repositories

Which repositories the installer manages for an operating system, and which of them it switches
on: those that every cluster needs, those that were selected with what they depend on, and the
one of the Intel bundle.

`mem_expandSelectedRepositoryIds` describes the selected ones, and
`defaultRepositorySelections_eq_ok` the list as a whole. `defaultRepositoriesFor_of_selections`
says that the questionnaire offers its ids.
-/

namespace OpenCattus

open Foundations Foundations.Text

/-! ## Names -/

namespace RepoNames

def resolveCodeReadyBuilderName (osinfo : OS) : Result String :=
  match osinfo.distro, osinfo.platform with
  | .AlmaLinux, .el8 => .ok "AlmaLinuxPowerTools"
  | .AlmaLinux, .el9 | .AlmaLinux, .el10 => .ok "AlmaLinuxCRB"
  | .Rocky, .el8 => .ok "powertools"
  | .Rocky, .el9 | .Rocky, .el10 => .ok "crb"
  | .AlmaLinux, .ubuntu2404 | .Rocky, .ubuntu2404 => runtimeError "Unsupported platform"
  | .RHEL, _ =>
    .ok ("codeready-builder-for-rhel-" ++ decimal osinfo.majorVersion ++ "-" ++
      osinfo.arch.toText ++ "-rpms")
  | .OL, _ => .ok ("ol" ++ decimal osinfo.majorVersion ++ "_codeready_builder")
  | .Ubuntu, _ => runtimeError "Unsupported distro"

/-- The repositories of the distribution. -/
def resolveDistroNames (osinfo : OS) : Result (List String) :=
  match osinfo.distro with
  | .AlmaLinux => do
    let builder ← resolveCodeReadyBuilderName osinfo
    pure ["AlmaLinuxAppStream", "AlmaLinuxBaseOS", builder]
  | .Rocky => do
    let builder ← resolveCodeReadyBuilderName osinfo
    pure ["appstream", "baseos", builder]
  | .RHEL =>
    let rhel := "rhel-" ++ decimal osinfo.majorVersion
    .ok [rhel ++ "-appstream", rhel ++ "-baseos", rhel ++ "-codeready-builder"]
  | .OL =>
    .ok ["OLAppStream", "OLBaseOS", "ol" ++ decimal osinfo.majorVersion ++ "_codeready_builder"]
  | .Ubuntu => runtimeError "Unsupported distro"

def resolveReposNames (osinfo : OS) : Result (List String) := do
  let output ← resolveDistroNames osinfo
  pure (output ++ ["epel", "OpenHPC", "OpenHPC-Updates"])

end RepoNames

/-! ## Selections -/

namespace RepoManager

structure RepositorySelection where
  id : String
  name : String
  enabled : Bool
  deriving DecidableEq, Repr

/-- The list for Ubuntu, which has no configurations. -/
def ubuntuRepositories : List RepositorySelection :=
  [⟨"ubuntu-main", "Ubuntu 24.04 main, restricted, universe, multiverse", true⟩,
    ⟨"ubuntu-updates", "Ubuntu 24.04 updates", true⟩,
    ⟨"ubuntu-security", "Ubuntu 24.04 security", true⟩,
    ⟨"OpenHPC", "VersatusHPC OpenHPC 4.x for Ubuntu 24.04", true⟩]

/-- What the cluster asks for. -/
structure Requested where
  enabledRepositories : Option (List String) := none
  enabledOpenHPCBundles : Option (List String) := none

/-- The ids to enable, beginning with the names that are needed in any case. -/
def idsToEnable (requested : Requested) (names : List String) : List String :=
  names ++ (requested.enabledRepositories.map expandSelectedRepositoryIds).getD [] ++
    if "intel-oneapi" ∈ requested.enabledOpenHPCBundles.getD [] then ["oneAPI"] else []

def selectionOf (enabled : List String) (config : RepoConfig) : RepositorySelection :=
  ⟨config.repoId.id, config.repoId.name, decide (config.repoId.id ∈ enabled)⟩

abbrev Selections : Type := Std.ExtTreeMap String RepositorySelection

/-- `std::map::insert_or_assign` of the configurations one after the other. -/
def assignSelections (enabled : List String) (selections : Selections) (configs : List RepoConfig) :
    Selections :=
  configs.foldl (fun selections config =>
    selections.insert config.repoId.id (selectionOf enabled config)) selections

def appendSelections (enabled : List String) (selections : Selections) (confFile : RepoConfFile) :
    Selections :=
  confFile.files.toList.foldl (fun selections file =>
    assignSelections enabled selections file.2) selections

/-- `RepoManager::defaultRepositoriesFor`, with the names and the switches. -/
def defaultRepositorySelections (interpolateVars : RepoConfigParser.Interpolation)
    (opts : RepoOptions) (basePath : RepoConfigParser.BasePath) (osinfo : OS) (ofedVersion : String)
    (requested : Requested) : Result (List RepositorySelection) :=
  if osinfo.distro = .Ubuntu then .ok ubuntuRepositories
  else do
    let vars ← buildRepoConfigVars opts osinfo ofedVersion
    let conffiles ← RepoConfigParser.load (interpolateVars vars) basePath osinfo false
    let names ← RepoNames.resolveReposNames osinfo
    let enabled := idsToEnable requested names
    let selections := appendSelections enabled ∅ conffiles.distroRepos
    let selections := appendSelections enabled selections conffiles.nonDistroRepos
    pure (selections.toList.map Prod.snd)

/-! ## What is enabled -/

theorem mem_expandSelectedRepositoryIds {ids : List String} {id : String} :
    id ∈ expandSelectedRepositoryIds ids ↔
      Reaches (dependenciesOf repositoryDependencies) ids id := by
  obtain ⟨-, hclosure, -⟩ := isExpansion_expandRepositoryIds repositoryDependencies ids
  constructor
  · exact hclosure.reached id
  · rintro ⟨root, hroot, hpath⟩
    induction hpath with
    | refl => exact hclosure.subset hroot
    | tail _ hstep ih => exact hclosure.closed _ ih hstep

/-- A repository that is asked for, one that it needs, or the one of the Intel bundle. -/
def AskedFor (requested : Requested) (id : String) : Prop :=
  (∃ ids, requested.enabledRepositories = some ids ∧
      Reaches (dependenciesOf repositoryDependencies) ids id) ∨
    id = "oneAPI" ∧ ∃ bundles, requested.enabledOpenHPCBundles = some bundles ∧
      "intel-oneapi" ∈ bundles

theorem mem_idsToEnable {requested : Requested} {names : List String} {id : String} :
    id ∈ idsToEnable requested names ↔ id ∈ names ∨ AskedFor requested id := by
  unfold idsToEnable AskedFor
  rw [List.mem_append, List.mem_append, or_assoc]
  refine or_congr_right (or_congr ?_ ?_)
  · cases requested.enabledRepositories with
    | none => simp
    | some ids => simp [mem_expandSelectedRepositoryIds]
  · cases requested.enabledOpenHPCBundles with
    | none => simp
    | some bundles =>
      by_cases h : "intel-oneapi" ∈ bundles <;> simp [h]

/-! ## The list -/

/-- All the configurations, those of the distribution first. -/
def allConfigs (conffiles : RepoConfFiles) : List RepoConfig :=
  conffiles.distroRepos.files.toList.flatMap Prod.snd ++
    conffiles.nonDistroRepos.files.toList.flatMap Prod.snd

/-- The configuration that counts for an id. -/
def lastConfigFor (configs : List RepoConfig) (id : String) : Option RepoConfig :=
  configs.reverse.find? (·.repoId.id = id)

theorem appendSelections_eq (enabled : List String) (selections : Selections)
    (confFile : RepoConfFile) :
    appendSelections enabled selections confFile =
      assignSelections enabled selections (confFile.files.toList.flatMap Prod.snd) := by
  unfold appendSelections assignSelections
  rw [List.foldl_flatMap]

theorem getElem?_assignSelections (enabled : List String) (configs : List RepoConfig)
    (id : String) :
    (assignSelections enabled ∅ configs)[id]? =
      (lastConfigFor configs id).map (selectionOf enabled) := by
  induction configs using List.reverseRecOn with
  | nil => simp [assignSelections, lastConfigFor]
  | append_singleton configs config ih =>
    have hlast : assignSelections enabled ∅ (configs ++ [config]) =
        (assignSelections enabled ∅ configs).insert config.repoId.id
          (selectionOf enabled config) := by
      simp [assignSelections]
    rw [hlast, Std.ExtTreeMap.getElem?_insert, ih, lastConfigFor, lastConfigFor,
      List.reverse_append, List.reverse_singleton, List.singleton_append, List.find?_cons]
    by_cases h : config.repoId.id = id <;> simp [h]

/-- The list of a table. -/
def listed (enabled : List String) (configs : List RepoConfig) : List RepositorySelection :=
  (assignSelections enabled ∅ configs).toList.map Prod.snd

theorem mem_listed {enabled : List String} {configs : List RepoConfig} {s : RepositorySelection} :
    s ∈ listed enabled configs ↔
      ∃ config, lastConfigFor configs s.id = some config ∧ s = selectionOf enabled config := by
  unfold listed
  constructor
  · intro hs
    obtain ⟨⟨id, s⟩, hmem, rfl⟩ := List.mem_map.mp hs
    rw [Std.ExtTreeMap.mem_toList_iff_getElem?_eq_some, getElem?_assignSelections] at hmem
    obtain ⟨config, hconfig, rfl⟩ := Option.map_eq_some_iff.mp hmem
    obtain rfl : config.repoId.id = id := by simpa using List.find?_some hconfig
    exact ⟨config, hconfig, rfl⟩
  · rintro ⟨config, hconfig, hs⟩
    refine List.mem_map.mpr ⟨(s.id, s), ?_, rfl⟩
    rw [Std.ExtTreeMap.mem_toList_iff_getElem?_eq_some, getElem?_assignSelections, hconfig, hs]
    rfl

theorem sorted_listed (enabled : List String) (configs : List RepoConfig) :
    ((listed enabled configs).map (·.id)).Pairwise (· < ·) := by
  have hids : (listed enabled configs).map (·.id) = (assignSelections enabled ∅ configs).keys := by
    rw [listed, ← Std.ExtTreeMap.map_fst_toList_eq_keys, List.map_map]
    refine List.map_congr_left fun e he => ?_
    obtain ⟨id, s⟩ := e
    rw [Std.ExtTreeMap.mem_toList_iff_getElem?_eq_some, getElem?_assignSelections] at he
    obtain ⟨config, hconfig, rfl⟩ := Option.map_eq_some_iff.mp he
    have hid : config.repoId.id = id := by simpa using List.find?_some hconfig
    exact hid
  rw [hids]
  have hordered := Std.ExtTreeMap.ordered_keys (t := assignSelections enabled ∅ configs)
  exact hordered.imp fun h => compareOfLessAndEq_eq_lt.mp h

/-- A list that is sorted by its ids is determined by its elements. -/
theorem eq_of_sorted {selections selections' : List RepositorySelection}
    (h : (selections.map (·.id)).Pairwise (· < ·))
    (h' : (selections'.map (·.id)).Pairwise (· < ·))
    (hmem : ∀ s, s ∈ selections ↔ s ∈ selections') : selections = selections' := by
  rw [List.pairwise_map] at h h'
  have hnodup : ∀ {l : List RepositorySelection},
      l.Pairwise (fun a b => a.id < b.id) → l.Nodup := by
    intro l hl
    refine hl.imp ?_
    rintro a b hlt rfl
    exact String.lt_irrefl _ hlt
  have hperm : selections.Perm selections' :=
    (List.perm_ext_iff_of_nodup (hnodup h) (hnodup h')).mpr hmem
  refine List.Perm.eq_of_pairwise (fun a b _ _ hab hba => ?_) h h' hperm
  exact absurd hba (String.lt_asymm hab)

section List

variable {interpolateVars : RepoConfigParser.Interpolation} {opts : RepoOptions}
  {basePath : RepoConfigParser.BasePath} {osinfo : OS} {ofedVersion : String}
  {requested : Requested}

theorem defaultRepositorySelections_eq_listed (hdistro : osinfo.distro ≠ .Ubuntu)
    {selections : List RepositorySelection} :
    defaultRepositorySelections interpolateVars opts basePath osinfo ofedVersion requested =
        .ok selections ↔
      ∃ vars conffiles names, buildRepoConfigVars opts osinfo ofedVersion = .ok vars ∧
        RepoConfigParser.load (interpolateVars vars) basePath osinfo false = .ok conffiles ∧
        RepoNames.resolveReposNames osinfo = .ok names ∧
        selections = listed (idsToEnable requested names) (allConfigs conffiles) := by
  have hlist : ∀ (enabled : List String) (conffiles : RepoConfFiles),
      (appendSelections enabled (appendSelections enabled ∅ conffiles.distroRepos)
          conffiles.nonDistroRepos).toList.map Prod.snd =
        listed enabled (allConfigs conffiles) := by
    intro enabled conffiles
    rw [appendSelections_eq, appendSelections_eq, listed, allConfigs, assignSelections,
      assignSelections, assignSelections, List.foldl_append]
  unfold defaultRepositorySelections
  rw [if_neg hdistro]
  simp only [except_bind_ok, except_pure, Except.ok.injEq, hlist]
  refine exists_congr fun vars => ?_
  constructor
  · rintro ⟨hvars, conffiles, hload, names, hnames, rfl⟩
    exact ⟨conffiles, names, hvars, hload, hnames, rfl⟩
  · rintro ⟨conffiles, names, hvars, hload, hnames, rfl⟩
    exact ⟨hvars, conffiles, hload, names, hnames, rfl⟩

/-- The step of the questionnaire works with the ids of the list. -/
theorem defaultRepositoriesFor_of_selections {selections : List RepositorySelection}
    (h : defaultRepositorySelections interpolateVars opts basePath osinfo ofedVersion requested =
      .ok selections) {probes : Probes}
    (hprobes : ∀ resolved target,
      probes.repositoryIds osinfo resolved target = selections.map (·.id)) :
    defaultRepositoriesFor probes osinfo ofedVersion = .ok (selections.map (·.id)) := by
  by_cases hdistro : osinfo.distro = .Ubuntu
  · rw [defaultRepositorySelections, if_pos hdistro] at h
    obtain rfl := Except.ok.inj h
    rw [defaultRepositoriesFor, if_pos hdistro]
    rfl
  · obtain ⟨vars, -, -, hvars, -⟩ := (defaultRepositorySelections_eq_listed hdistro).mp h
    obtain ⟨target, htarget, -⟩ := except_bind_ok.mp hvars
    rw [defaultRepositoriesFor, if_neg hdistro]
    refine except_bind_ok.mpr ⟨target, htarget, ?_⟩
    rw [hprobes]

theorem mem_listed_idsToEnable {names : List String} {configs : List RepoConfig}
    {s : RepositorySelection} :
    s ∈ listed (idsToEnable requested names) configs ↔
      ∃ config, lastConfigFor configs s.id = some config ∧ s.name = config.repoId.name ∧
        (s.enabled = true ↔ s.id ∈ names ∨ AskedFor requested s.id) := by
  rw [mem_listed]
  refine exists_congr fun config => and_congr_right fun hconfig => ?_
  have hid : config.repoId.id = s.id := by simpa using List.find?_some hconfig
  obtain ⟨id, name, enabled⟩ := s
  dsimp only at hid ⊢
  rw [← mem_idsToEnable, ← hid]
  simp only [selectionOf, RepositorySelection.mk.injEq, true_and]
  refine and_congr_right fun _ => ?_
  rw [Bool.eq_iff_iff, decide_eq_true_iff]

/-- For every system but Ubuntu the list is sorted by the ids; it has every id that is configured,
with the name of the last configuration, and switches on those that every cluster needs and
those that are asked for. -/
theorem defaultRepositorySelections_eq_ok (interpolateVars : RepoConfigParser.Interpolation)
    (opts : RepoOptions) (basePath : RepoConfigParser.BasePath) (osinfo : OS) (ofedVersion : String)
    (requested : Requested) (hdistro : osinfo.distro ≠ .Ubuntu)
    (selections : List RepositorySelection) :
    defaultRepositorySelections interpolateVars opts basePath osinfo ofedVersion requested =
        .ok selections ↔
      ∃ vars conffiles names, buildRepoConfigVars opts osinfo ofedVersion = .ok vars ∧
        RepoConfigParser.load (interpolateVars vars) basePath osinfo false = .ok conffiles ∧
        RepoNames.resolveReposNames osinfo = .ok names ∧
        (selections.map (·.id)).Pairwise (· < ·) ∧
        ∀ s, s ∈ selections ↔
          ∃ config, lastConfigFor (allConfigs conffiles) s.id = some config ∧
            s.name = config.repoId.name ∧
            (s.enabled = true ↔ s.id ∈ names ∨ AskedFor requested s.id) := by
  rw [defaultRepositorySelections_eq_listed hdistro]
  refine exists_congr fun vars => exists_congr fun conffiles => exists_congr fun names =>
    and_congr_right fun _ => and_congr_right fun _ => and_congr_right fun _ => ?_
  constructor
  · rintro rfl
    exact ⟨sorted_listed _ _, fun _ => mem_listed_idsToEnable⟩
  · rintro ⟨hsorted, hall⟩
    refine eq_of_sorted hsorted (sorted_listed _ _) fun s => ?_
    rw [hall, mem_listed_idsToEnable]

/-- A group of `repos.conf`. -/
def grafanaConf : KeyData where
  groups := [("grafana", [("name", "grafana"), ("filename", "grafana.repo"),
    ("mirror.repo", "grafana/"), ("upstream.repo", "https://rpm.grafana.com/"),
    ("upstream.gpgkey", "https://rpm.grafana.com/gpg.key")])]
  nodup := by simp

/-- A group of `rocky-upstream.conf`. -/
def rockyConf : KeyData where
  groups := [("baseos", [("name", "Rocky Linux 9 - BaseOS"), ("filename", "rocky.repo"),
    ("upstream.repo", "https://dl.rockylinux.org/pub/rocky/9/BaseOS/x86_64/os/")])]
  nodup := by simp

/-- Rocky Linux, with Grafana beside it. -/
def rockyBasePath : RepoConfigParser.BasePath where
  path := "/opt/opencattus/conf/repos/"
  content := fun name =>
    if name = "repos.conf" then some grafanaConf
    else if name = "rocky-upstream.conf" then some rockyConf
    else none

def rockySelections : List RepositorySelection :=
  [⟨"baseos", "Rocky Linux 9 - BaseOS", true⟩, ⟨"grafana", "grafana", true⟩]

/-- Grafana is switched on because BeeGFS needs it. -/
theorem defaultRepositorySelections_rocky : ∃ (conffiles : RepoConfFiles) (names : List String),
    RepoConfigParser.load .ok rockyBasePath (.ofPlatform .Rocky .el9 6 .x86_64) false =
        .ok conffiles ∧
      ∀ s, s ∈ rockySelections ↔
        ∃ config, lastConfigFor (allConfigs conffiles) s.id = some config ∧
          s.name = config.repoId.name ∧
          (s.enabled = true ↔ s.id ∈ names ∨
            AskedFor { enabledRepositories := some ["beegfs"] } s.id) := by
  obtain ⟨vars, conffiles, names, -, hload, -, -, hall⟩ :=
    (defaultRepositorySelections_eq_ok (fun _ => .ok)
      ⟨false, "https://mirror.example.com", "latest-stable", "latest", "latest-lts"⟩ rockyBasePath
      (.ofPlatform .Rocky .el9 6 .x86_64) "latest" { enabledRepositories := some ["beegfs"] }
      (by decide) rockySelections).mp (by decide)
  exact ⟨conffiles, names, hload, hall⟩

end List

end RepoManager

end OpenCattus
