import OpenCattus.Functions.Files
import OpenCattus.Repositories.Generation
import OpenCattus.Repositories.Selection

/-!
# Initializing the repositories

What `initializeDefaultRepositories` does from the configurations to the disk: the files that
were there are moved away by the first run, the configured ones are generated, all are loaded, and
the default repositories are switched off and on.

`returns_loadBaseDir_iff` and `returns_switching_iff` say when the last two steps return.
`initializeRepositories_iff` follows a whole run; it ends with exactly those repositories switched
on that were to be.
-/

namespace OpenCattus

open Foundations Foundations.Text Foundations.Program RPMRepositoryParser

namespace RPMRepoManager

open RepoWorld

/-! ## Loading the base directory -/

/-- A file that the manager loads. -/
def IsRepoFile (w : RepoWorld) (p : RepoPath) : Prop :=
  p.directory = basedir ∧ endsWith p.filename ".repo" = true ∧ (w.content p).isSome = true

/-- A file enters the manager if it can be read. -/
def entered (w : RepoWorld) (p : RepoPath) : RepoWorld :=
  if endsWith p.filename ".repo" then
    match parse (w.keyFile p) with
    | .ok repos => w.addFile ⟨p, repos⟩
    | .error _ => w
  else w

/-- The file can be read. -/
def FileReads (w : RepoWorld) (p : RepoPath) : Prop := ∃ out, parse (w.keyFile p) = .ok out

theorem disk_entered (w : RepoWorld) (p : RepoPath) : (entered w p).disk = w.disk := by
  unfold entered
  split
  · split <;> rfl
  · rfl

theorem keyFile_of_disk {w w' : RepoWorld} (h : w'.disk = w.disk) (p : RepoPath) :
    w'.keyFile p = w.keyFile p := by
  apply keyFile_eq_of_content
  rw [RepoWorld.content, RepoWorld.content, h]

/-- Only a file that is there has groups. -/
theorem isSome_content_of_hasGroup {w : RepoWorld} {p : RepoPath} {id : String}
    (h : (w.keyFile p).data.hasGroup id = true) : (w.content p).isSome = true := by
  by_contra hnone
  rw [Option.not_isSome_iff_eq_none] at hnone
  rw [RepoWorld.keyFile, hnone] at h
  cases h

theorem returns_installEntry_iff {w w' : RepoWorld} {p : RepoPath} (hp : p.directory = basedir) :
    Returns (installEntry false p) w () w' ↔
      (endsWith p.filename ".repo" = true → FileReads w p) ∧ w' = entered w p := by
  obtain ⟨directory, filename⟩ := p
  dsimp only at hp
  subst hp
  unfold installEntry entered
  by_cases hname : endsWith filename ".repo" = true
  · have hload : Returns (install false ⟨basedir, filename⟩) w () w' ↔
        ∃ repos, parse (w.keyFile ⟨basedir, filename⟩) = .ok repos ∧
          w.addFile ⟨⟨basedir, filename⟩, repos⟩ = w' := by
      have hcopy : copySource false ⟨basedir, filename⟩ ⟨basedir, filename⟩ = pure () :=
        if_neg (by simp)
      unfold install loadFile
      dsimp only
      rw [hcopy]
      simp [returns_bind]
    rw [if_pos hname, if_pos hname, hload, FileReads, forall_prop_of_true hname]
    cases hparse : parse (w.keyFile ⟨basedir, filename⟩) with
    | error e => simp
    | ok repos =>
      constructor
      · rintro ⟨_, ⟨⟩, rfl⟩
        exact ⟨⟨repos, rfl⟩, rfl⟩
      · rintro ⟨-, rfl⟩
        exact ⟨repos, rfl, rfl⟩
  · rw [if_neg hname, if_neg hname, returns_pure, forall_prop_of_false hname]
    constructor
    · rintro ⟨-, rfl⟩
      exact ⟨trivial, rfl⟩
    · rintro ⟨-, rfl⟩
      exact ⟨rfl, rfl⟩

theorem returns_installAll_iff {w w' : RepoWorld} {paths : List RepoPath}
    (hpaths : ∀ p ∈ paths, p.directory = basedir) :
    Returns (installAll false paths) w () w' ↔
      (∀ p ∈ paths, endsWith p.filename ".repo" = true → FileReads w p) ∧
        w' = paths.foldl entered w := by
  induction paths generalizing w with
  | nil =>
    unfold installAll
    rw [returns_pure, List.foldl_nil]
    constructor
    · rintro ⟨-, rfl⟩
      exact ⟨by simp, rfl⟩
    · rintro ⟨-, rfl⟩
      exact ⟨rfl, rfl⟩
  | cons p paths ih =>
    obtain ⟨hp, hrest⟩ := List.forall_mem_cons.mp hpaths
    unfold installAll
    simp only [returns_bind, returns_installEntry_iff hp, ih hrest, List.forall_mem_cons,
      List.foldl_cons]
    have hsame : ∀ q, FileReads (entered w p) q ↔ FileReads w q := by
      intro q
      rw [FileReads, FileReads, keyFile_of_disk (disk_entered w p)]
    constructor
    · rintro ⟨⟨⟩, s, ⟨hread, rfl⟩, hall, rfl⟩
      exact ⟨⟨hread, fun q hq hname => (hsame q).mp (hall q hq hname)⟩, rfl⟩
    · rintro ⟨⟨hread, hall⟩, rfl⟩
      exact ⟨(), _, ⟨hread, rfl⟩, fun q hq hname => (hsame q).mpr (hall q hq hname), rfl⟩

/-- The ids that the manager knows after it has entered files. -/
theorem isSome_filesIdx_foldl {w : RepoWorld} {paths : List RepoPath}
    (hread : ∀ p ∈ paths, endsWith p.filename ".repo" = true → FileReads w p) (id : String) :
    (Assoc.get id (paths.foldl entered w).filesIdx).isSome = true ↔
      (Assoc.get id w.filesIdx).isSome = true ∨
        ∃ p ∈ paths, endsWith p.filename ".repo" = true ∧
          (w.keyFile p).data.hasGroup id = true := by
  induction paths generalizing w with
  | nil => simp
  | cons p paths ih =>
    obtain ⟨hp, hrest⟩ := List.forall_mem_cons.mp hread
    have hsame : ∀ q, (entered w p).keyFile q = w.keyFile q := keyFile_of_disk (disk_entered w p)
    have hhead : (Assoc.get id (entered w p).filesIdx).isSome = true ↔
        (Assoc.get id w.filesIdx).isSome = true ∨
          endsWith p.filename ".repo" = true ∧ (w.keyFile p).data.hasGroup id = true := by
      unfold entered
      by_cases hname : endsWith p.filename ".repo" = true
      · obtain ⟨repos, hrepos⟩ := hp hname
        have hids : repos.ids = (w.keyFile p).data.getGroups := (parse_eq_ok.mp hrepos).1
        simp only [hname, if_true, hrepos, addFile, get_foldl_emplace, Option.isSome_or,
          Bool.or_eq_true, true_and, hids, KeyData.hasGroup_iff_mem]
        refine or_congr_right ?_
        by_cases hid : id ∈ (w.keyFile p).data.getGroups <;> simp [hid]
      · simp [hname]
    rw [List.foldl_cons, ih (w := entered w p), hhead, List.exists_mem_cons_iff, or_assoc]
    · simp only [hsame]
    · intro q hq hname
      rw [FileReads, hsame]
      exact hrest q hq hname

/-- The objects that the manager holds after it has entered files. -/
theorem files_foldl_entered {w : RepoWorld} {paths : List RepoPath} :
    ∀ f ∈ (paths.foldl entered w).files, f ∈ w.files ∨
      f.path ∈ paths ∧ endsWith f.path.filename ".repo" = true ∧
        f.repos.ids = (w.keyFile f.path).data.getGroups := by
  induction paths generalizing w with
  | nil => exact fun f hf => .inl hf
  | cons p paths ih =>
    intro f hf
    have hsame : ∀ q, (entered w p).keyFile q = w.keyFile q := keyFile_of_disk (disk_entered w p)
    rcases ih f hf with hf | ⟨hpath, hname, hids⟩
    · unfold entered at hf
      split at hf
      · rename_i hname
        split at hf
        · rename_i repos hrepos
          rcases List.mem_append.mp hf with hf | hf
          · exact .inl hf
          · obtain rfl := List.mem_singleton.mp hf
            exact .inr ⟨List.mem_cons_self, hname, (parse_eq_ok.mp hrepos).1⟩
        · exact .inl hf
      · exact .inl hf
    · rw [hsame] at hids
      exact .inr ⟨List.mem_cons_of_mem _ hpath, hname, hids⟩

theorem mem_listing {w : RepoWorld} {p : RepoPath} :
    p ∈ w.listing basedir ↔ (w.content p).isSome = true ∧ p.directory = basedir := by
  rw [listing, List.mem_filter, decide_eq_true_iff, RepoWorld.content, Assoc.isSome_get_iff]

theorem mem_arrange_listing {w : RepoWorld} (order : Order RepoPath) {p : RepoPath} :
    p ∈ order.arrange (w.listing basedir) ∧ endsWith p.filename ".repo" = true ↔
      IsRepoFile w p := by
  rw [(order.perm _).mem_iff, mem_listing, IsRepoFile]
  constructor
  · rintro ⟨⟨hcontent, hdirectory⟩, hname⟩
    exact ⟨hdirectory, hname, hcontent⟩
  · rintro ⟨hdirectory, hname, hcontent⟩
    exact ⟨⟨hcontent, hdirectory⟩, hname⟩

/-- The state after all files of the base directory have been loaded. -/
def loaded (order : Order RepoPath) (w : RepoWorld) : RepoWorld :=
  (order.arrange (w.listing basedir)).foldl entered w

theorem disk_loaded (order : Order RepoPath) (w : RepoWorld) : (loaded order w).disk = w.disk := by
  unfold loaded
  induction order.arrange (w.listing basedir) generalizing w with
  | nil => rfl
  | cons p paths ih => rw [List.foldl_cons, ih, disk_entered]

theorem returns_loadBaseDir_iff {w w' : RepoWorld} {order : Order RepoPath} {u : Unit} :
    Returns (loadDir false basedir order) w u w' ↔
      (∀ p, IsRepoFile w p → FileReads w p) ∧ w' = loaded order w := by
  have hload : Returns (loadDir false basedir order) w u w' ↔
      Returns (installAll false (order.arrange (w.listing basedir))) w () w' := Iff.rfl
  rw [hload, returns_installAll_iff fun p hp => (mem_listing.mp ((order.perm _).mem_iff.mp hp)).2]
  refine and_congr_left fun _ => ?_
  simp only [← mem_arrange_listing order, and_imp]

/-- A manager that has loaded nothing knows the ids of the files in the base directory. -/
theorem isSome_filesIdx_loaded {w : RepoWorld} (hempty : w.filesIdx = []) {order : Order RepoPath}
    (hread : ∀ p, IsRepoFile w p → FileReads w p) (id : String) :
    (Assoc.get id (loaded order w).filesIdx).isSome = true ↔
      ∃ p, IsRepoFile w p ∧ (w.keyFile p).data.hasGroup id = true := by
  rw [loaded, isSome_filesIdx_foldl fun p hp hname =>
    hread p ((mem_arrange_listing order).mp ⟨hp, hname⟩), hempty]
  simp only [Assoc.get, Option.isSome_none, Bool.false_eq_true, false_or]
  refine exists_congr fun p => ?_
  rw [← and_assoc, mem_arrange_listing]

/-- Every id has its home in a file of the base directory. -/
theorem home_loaded {w : RepoWorld} (hempty : w.files = []) {order : Order RepoPath} {id : String}
    {p : RepoPath} (h : (loaded order w).home id = some p) :
    IsRepoFile w p ∧ (w.keyFile p).data.hasGroup id = true := by
  obtain ⟨f, hfind, rfl⟩ := Option.map_eq_some_iff.mp h
  have hmem := List.mem_of_find?_eq_some hfind
  have hid : id ∈ f.repos.ids := by simpa using List.find?_some hfind
  rcases files_foldl_entered f hmem with hold | ⟨hpath, hname, hids⟩
  · rw [hempty] at hold
    cases hold
  · rw [hids] at hid
    exact ⟨(mem_arrange_listing order).mp ⟨hpath, hname⟩, KeyData.hasGroup_iff_mem.mpr hid⟩

theorem coherent_loaded {w : RepoWorld} (hw : w.Coherent) (order : Order RepoPath)
    (hread : ∀ p, IsRepoFile w p → FileReads w p) : (loaded order w).Coherent := by
  have hreturns : Returns (loadDir false basedir order) w () (loaded order w) :=
    returns_loadBaseDir_iff.mpr ⟨hread, rfl⟩
  have hextends : Extends w (loadDir false basedir order w).2 :=
    preserves_loadDir basedir order w (.refl hw)
  rw [hreturns] at hextends
  exact hextends.coherent

end RPMRepoManager

/-! ## Switching the default repositories -/

namespace RepoManager

open RepoWorld RPMRepoManager

variable {repositories : List (String × Bool)} {listing : Order RepoPath} {order order' : Order Nat}

theorem enabled_subset_managed {id : String} (h : id ∈ enabledRepoIds repositories) :
    id ∈ managedRepoIds repositories := by
  obtain ⟨repository, hmem, rfl⟩ := List.mem_map.mp h
  exact List.mem_map_of_mem (List.mem_of_mem_filter hmem)

/-- The files are loaded and switched when all of them can be read and each default repository is
in one of them. -/
theorem returns_switching_iff {w : RepoWorld} (hw : w.Coherent) (hempty : w.filesIdx = []) :
    (∃ w', Returns (initializeDefaultRepositories repositories listing order order') w () w') ↔
      (∀ p, IsRepoFile w p → FileReads w p) ∧
        ∀ id ∈ managedRepoIds repositories,
          ∃ p, IsRepoFile w p ∧ (w.keyFile p).data.hasGroup id = true := by
  unfold initializeDefaultRepositories
  simp only [returns_bind, returns_loadBaseDir_iff]
  constructor
  · rintro ⟨w', ⟨⟩, w₁, ⟨hread, rfl⟩, ⟨⟩, w₂, hmanaged, -⟩
    refine ⟨hread, fun id hid => ?_⟩
    rw [Returns, switchUnlessEmpty_eq] at hmanaged
    have hknown : ((loaded listing w).locate id).isSome = true :=
      known_of_enableAll hmanaged id hid
    rw [(coherent_loaded hw listing hread).locate_eq] at hknown
    exact (isSome_filesIdx_loaded hempty hread id).mp hknown
  · rintro ⟨hread, hids⟩
    have hw₁ := coherent_loaded hw listing hread
    have hknown : ∀ id ∈ managedRepoIds repositories,
        (Assoc.get id (loaded listing w).filesIdx).isSome = true :=
      fun id hid => (isSome_filesIdx_loaded hempty hread id).mpr (hids id hid)
    obtain ⟨w₂, hmanaged, hswitched⟩ : ∃ w₂,
        enableAll (managedRepoIds repositories) false order (loaded listing w) = (.ok (), w₂) ∧
          Switched (loaded listing w) w₂ (managedRepoIds repositories) false :=
      enableAll_spec hw₁ order hknown
    have hknown₂ : ∀ id ∈ enabledRepoIds repositories,
        (Assoc.get id w₂.filesIdx).isSome = true := by
      intro id hid
      rw [hswitched.index]
      exact hknown id (enabled_subset_managed hid)
    obtain ⟨w₃, henabled, -⟩ : ∃ w₃,
        enableAll (enabledRepoIds repositories) true order' w₂ = (.ok (), w₃) ∧
          Switched w₂ w₃ (enabledRepoIds repositories) true :=
      enableAll_spec hswitched.coherent order' hknown₂
    refine ⟨w₃, (), _, ⟨hread, rfl⟩, (), w₂, ?_, ?_⟩
    · rw [Returns, switchUnlessEmpty_eq]
      exact hmanaged
    · rw [Returns, switchUnlessEmpty_eq]
      exact henabled

/-- What the switches leave of a repository that only one file defines. -/
theorem onDisk_switching {w w' : RepoWorld} (hw : w.Coherent) (hempty : w.files = [])
    (h : Returns (initializeDefaultRepositories repositories listing order order') w () w')
    {p : RepoPath} {id : String} (hcontent : (w.content p).isSome = true)
    (hunique : ∀ q, IsRepoFile w q → (w.keyFile q).data.hasGroup id = true → q = p) :
    w'.onDisk p id = (w.onDisk p id).map fun repo =>
      repo.withEnabled ((if id ∈ managedRepoIds repositories
        then some (decide (id ∈ enabledRepoIds repositories)) else none).getD repo.enabled) := by
  obtain ⟨hcalls, hrun⟩ := runCalls_of_initialize hw h
  obtain ⟨-, -, hdisk, -⟩ := onDisk_runCalls false hw hcalls
  have hfirst : firstOnDisk false w (defaultCalls repositories listing order order') p id =
      w.onDisk p id := by
    rw [firstOnDisk, firstContent_of_isSome false _ hcontent]
    rfl
  rw [hrun] at hdisk
  rw [hdisk, hfirst, lastSwitch_defaultCalls]
  by_cases hmanaged : id ∈ managedRepoIds repositories
  · have hhome : w'.home id = some p := by
      unfold initializeDefaultRepositories at h
      simp only [returns_bind, returns_loadBaseDir_iff] at h
      obtain ⟨⟨⟩, w₁, ⟨hread, rfl⟩, -⟩ := h
      have hload : Returns (loadDir false basedir listing) w () (loaded listing w) :=
        returns_loadBaseDir_iff.mpr ⟨hread, rfl⟩
      have hstep : (RepoCall.loadDir basedir listing).step false w = loaded listing w :=
        congrArg Prod.snd hload
      unfold defaultCalls AllOnKnownIds at hcalls
      unfold defaultCalls runCalls at hrun
      rw [hstep] at hcalls hrun
      obtain ⟨-, hrest⟩ := hcalls
      have hw₁ := coherent_loaded hw listing hread
      obtain ⟨-, hkept, -⟩ := onDisk_runCalls false hw₁ hrest
      have hknown : (Assoc.get id (loaded listing w).filesIdx).isSome = true :=
        hrest.1 id false (if_pos hmanaged)
      have hsome : (loaded listing w).home id ≠ none := by
        rw [Ne, hw₁.home_eq_none]
        intro hnone
        rw [hnone] at hknown
        cases hknown
      obtain ⟨q, hq⟩ := Option.ne_none_iff_exists'.mp hsome
      obtain ⟨hrepo, hgroup⟩ := home_loaded hempty hq
      obtain rfl := hunique q hrepo hgroup
      have hlast := hkept id q hq
      rwa [hrun] at hlast
    rw [if_pos hhome]
  · simp [hmanaged]

/-- The switches neither add nor remove a group. -/
theorem getGroups_switching {w w' : RepoWorld} (hw : w.Coherent)
    (h : Returns (initializeDefaultRepositories repositories listing order order') w () w')
    (p : RepoPath) : (w'.keyFile p).data.getGroups = (w.keyFile p).data.getGroups := by
  unfold initializeDefaultRepositories at h
  simp only [returns_bind, returns_loadBaseDir_iff] at h
  obtain ⟨⟨⟩, w₁, ⟨hread, rfl⟩, ⟨⟩, w₂, hmanaged, henabled⟩ := h
  rw [Returns, switchUnlessEmpty_eq] at hmanaged henabled
  obtain ⟨hswitched, hgroups⟩ := switched_of_enableAll (coherent_loaded hw listing hread) hmanaged
  obtain ⟨-, hgroups'⟩ := switched_of_enableAll hswitched.coherent henabled
  rw [hgroups', hgroups, keyFile_of_disk (disk_loaded listing w)]

/-! ## The whole initialization -/

/-- What the installer works with: the library that formats texts, the mirrors with the options
and their checkers, the directory with the configurations, the answer of the vault, the branch
for Debian packages, which writes no `.repo` file, and the exit code with which a shell command
ends in this run. -/
structure Site where
  interpolateVars : RepoConfigParser.Interpolation
  mirrors : Mirrors
  basePath : RepoConfigParser.BasePath
  shouldUseVault : Bool
  initializeDebianHeadnodeRepositories : Action
  exitCode : String → Int

/-- What `Cluster` says about its repositories. -/
structure ClusterRepositories where
  headnodeOS : OS
  computeNodeOS : OS
  ofedVersion : Option String
  requested : Requested

def selectRepositoryBootstrapOS (headnodeOS computeOS : OS) : OS :=
  if headnodeOS.getPackageType ≠ computeOS.getPackageType then headnodeOS else computeOS

def ClusterRepositories.osinfo (cluster : ClusterRepositories) : OS :=
  selectRepositoryBootstrapOS cluster.headnodeOS cluster.computeNodeOS

def ClusterRepositories.resolvedOfed (cluster : ClusterRepositories) : String :=
  cluster.ofedVersion.getD "latest"

def backupPath : String := "/opt/opencattus/backup/etc/yum.repos.d/"

/-- `backupFilesByExtension` for the repository files, when the backup is not there. The removal
ignores the letter case of the extension, the copy does not. -/
def backedUp (w : RepoWorld) : RepoWorld :=
  let moved := w.disk.filter fun e =>
    e.1.directory = basedir && extensionOf e.1.filename = ".repo"
  let kept := w.disk.filter fun e =>
    !(e.1.directory = basedir && lower (extensionOf e.1.filename) = ".repo")
  { w with disk := kept ++ moved.map fun e => (⟨backupPath, e.1.filename⟩, e.2) }

def backupRepositoryFiles (backupExists : Bool) : Action :=
  if backupExists then pure () else update backedUp

/-- `RPMRepositoryGenerator::generate`. -/
def generateRepositoryFiles (site : Site) (cluster : ClusterRepositories) (vars : RepoConfigVars)
    (backupExists : Bool) : Action := do
  backupRepositoryFiles backupExists
  let conffiles ← Program.ofExcept (RepoConfigParser.load (site.interpolateVars vars) site.basePath
    cluster.computeNodeOS site.shouldUseVault)
  let _ ← RepoGenerator.generate site.mirrors conffiles basedir
  pure ()

/-- The ids of the default repositories with their switches. -/
def switches (repositories : List RepositorySelection) : List (String × Bool) :=
  repositories.map fun repository => (repository.id, repository.enabled)

/-- `runner::shell::cmd`, for a command that leaves the repository files alone. -/
def Site.cmd (site : Site) (command : String) : Action :=
  let exitCode := site.exitCode command
  if exitCode ≠ 0 then
    Program.raise ⟨.runtimeError, s!"Command {command} failed with exit code {exitCode}"⟩
  else pure ()

/-- The option goes to `/etc/dnf/dnf.conf`. -/
def keepcacheCommand : String :=
  "grep -q '^keepcache=' /etc/dnf/dnf.conf || dnf config-manager --save --setopt=keepcache=True"

/-- `initializeDefaultRepositories` from its beginning. -/
def initializeRepositories (site : Site) (dryRun : Bool) (cluster : ClusterRepositories)
    (backupExists : Bool) (listing : Order RepoPath) (order order' : Order Nat) : Action :=
  if dryRun then pure ()
  else do
    let vars ← Program.ofExcept
      (buildRepoConfigVars site.mirrors.opts cluster.osinfo cluster.resolvedOfed)
    let repositories ← Program.ofExcept
      (defaultRepositorySelections site.interpolateVars site.mirrors.opts site.basePath
        cluster.osinfo cluster.resolvedOfed cluster.requested)
    match cluster.osinfo.getPackageType with
    | .RPM => do
      generateRepositoryFiles site cluster vars backupExists
      initializeDefaultRepositories (switches repositories) listing order order'
      site.cmd keepcacheCommand
    | .DEB => site.initializeDebianHeadnodeRepositories

/-! ## After the files are generated -/

section Generated

open RepoGenerator RepoConfAdapter

variable {mirrors : Mirrors} {conffiles : RepoConfFiles} {w : RepoWorld}

/-- The configuration of an id in a file. -/
def Configured (conffiles : RepoConfFiles) (filename id : String) (config : RepoConfig) : Prop :=
  filename ∈ conffiles.filesnames ∧ configFor (conffiles.configs filename) id = some config

/-- The file at `p` defines the id, by its configurations or by what it held before. -/
def DefinedAt (conffiles : RepoConfFiles) (w : RepoWorld) (p : RepoPath) (id : String) : Prop :=
  (∃ filename config, Configured conffiles filename id config ∧ generatedPath filename = p) ∨
    IsRepoFile w p ∧ (w.keyFile p).data.hasGroup id = true

/-- Configurations and a directory that go together: the generated files are loaded, the old ones
can be written over, the others can be read, and no other file defines an id that is configured. -/
structure Fit (mirrors : Mirrors) (conffiles : RepoConfFiles) (w : RepoWorld) : Prop where
  separate : conffiles.Separate
  suffix : ∀ filename ∈ conffiles.filesnames, endsWith filename ".repo" = true
  overwritable : ∀ filename ∈ conffiles.filesnames,
    Overwritable mirrors (conffiles.configs filename) (w.keyFile (generatedPath filename)).data
  readable : ∀ p, IsRepoFile w p → (∀ filename ∈ conffiles.filesnames, generatedPath filename ≠ p) →
    FileReads w p
  unique : ∀ filename id config, Configured conffiles filename id config →
    ∀ p, DefinedAt conffiles w p id → p = generatedPath filename

/-- A path is that of a generated file, or the file is as it was. -/
theorem generated_cases (mirrors : Mirrors) (h : conffiles.Separate) (w : RepoWorld)
    (p : RepoPath) :
    (∃ filename ∈ conffiles.filesnames, generatedPath filename = p) ∨
      (∀ filename ∈ conffiles.filesnames, generatedPath filename ≠ p) ∧
        (generated mirrors conffiles w).content p = w.content p := by
  obtain ⟨-, -, -, -, hother⟩ := generate_spec mirrors h w
  by_cases hp : ∃ filename ∈ conffiles.filesnames, generatedPath filename = p
  · exact .inl hp
  · have hall : ∀ filename ∈ conffiles.filesnames, generatedPath filename ≠ p :=
      fun filename hfilename hpath => hp ⟨filename, hfilename, hpath⟩
    exact .inr ⟨hall, hother p hall⟩

theorem Fit.isRepoFile_generated (h : Fit mirrors conffiles w) {filename : String}
    (hfilename : filename ∈ conffiles.filesnames) :
    IsRepoFile (generated mirrors conffiles w) (generatedPath filename) := by
  obtain ⟨-, -, -, hcontent, -⟩ := generate_spec mirrors h.separate w
  exact ⟨rfl, h.suffix filename hfilename, by rw [hcontent filename hfilename]; rfl⟩

/-- What the files define once they are generated. -/
theorem Fit.definedAt_iff (h : Fit mirrors conffiles w) (p : RepoPath) (id : String) :
    IsRepoFile (generated mirrors conffiles w) p ∧
        ((generated mirrors conffiles w).keyFile p).data.hasGroup id = true ↔
      DefinedAt conffiles w p id := by
  rcases generated_cases mirrors h.separate w p with
    ⟨filename, hfilename, rfl⟩ | ⟨hall, hcontent⟩
  · have hold : (w.keyFile (generatedPath filename)).data.hasGroup id = true →
        IsRepoFile w (generatedPath filename) :=
      fun hgroup => ⟨rfl, h.suffix filename hfilename, isSome_content_of_hasGroup hgroup⟩
    rw [and_iff_right (h.isRepoFile_generated hfilename), keyFile_generated h.separate w hfilename,
      hasGroup_unparse, mem_ids_repositories, DefinedAt]
    refine or_congr ?_ (iff_and_self.mpr hold)
    constructor
    · rintro ⟨⟨config, hconfig⟩, -⟩
      exact ⟨filename, config, ⟨hfilename, hconfig⟩, rfl⟩
    · rintro ⟨filename', config, ⟨-, hconfig⟩, hpath⟩
      obtain rfl := generatedPath_inj hpath
      exact ⟨⟨config, hconfig⟩, ((h.overwritable _ hfilename).named id config hconfig).1⟩
  · have hfile : IsRepoFile (generated mirrors conffiles w) p ↔ IsRepoFile w p := by
      rw [IsRepoFile, IsRepoFile, hcontent]
    rw [hfile, keyFile_eq_of_content hcontent, DefinedAt, or_iff_right]
    rintro ⟨filename, config, hconfigured, hpath⟩
    exact hall filename hconfigured.1 hpath

theorem Fit.readable_generated (h : Fit mirrors conffiles w)
    (hw : ∀ p data, w.content p = some data → Loadable data) {p : RepoPath}
    (hp : IsRepoFile (generated mirrors conffiles w) p) :
    FileReads (generated mirrors conffiles w) p := by
  rcases generated_cases mirrors h.separate w p with
    ⟨filename, hfilename, rfl⟩ | ⟨hall, hcontent⟩
  · have hholds := (holdsAssembled_generated_iff h.separate
      fun filename _ => loadable_keyFile hw _).mpr h.overwritable
    exact (hholds filename hfilename).1
  · rw [IsRepoFile, hcontent] at hp
    have hread := h.readable p hp hall
    rwa [FileReads, keyFile_eq_of_content hcontent]

/-- The groups of a generated file are fit for the next load. -/
theorem Fit.loadable_generated (h : Fit mirrors conffiles w)
    (hw : ∀ p data, w.content p = some data → Loadable data) :
    ∀ p data, (generated mirrors conffiles w).content p = some data → Loadable data := by
  intro p data hdata g hg
  rcases generated_cases mirrors h.separate w p with
    ⟨filename, hfilename, rfl⟩ | ⟨-, hcontent⟩
  · have hfile :
        ((generated mirrors conffiles w).keyFile (generatedPath filename)).data = data := by
      rw [RepoWorld.keyFile, hdata, Option.getD_some]
    have hgroup : (unparse (repositories mirrors (conffiles.configs filename))
        (w.keyFile (generatedPath filename)).data).hasGroup g = true := by
      rw [keyFile_generated h.separate w hfilename] at hfile
      dsimp only at hfile
      rw [hfile]
      exact KeyData.hasGroup_iff_mem.mpr hg
    rcases hasGroup_unparse.mp hgroup with ⟨-, hname⟩ | hold
    · exact hname
    · exact loadable_keyFile hw _ g (KeyData.hasGroup_iff_mem.mp hold)
  · rw [hcontent] at hdata
    exact hw p data hdata g hg

theorem Fit.coherent_generated (h : Fit mirrors conffiles w)
    (hw : ∀ p data, w.content p = some data → Loadable data) (hfiles : w.files = [])
    (hindex : w.filesIdx = []) : (generated mirrors conffiles w).Coherent := by
  obtain ⟨-, hfiles', hindex', -, -⟩ := generate_spec mirrors h.separate w
  refine ⟨?_, ?_, ?_, h.loadable_generated hw⟩
  · intro id
    rw [hfiles', hindex', hfiles, hindex]
    rfl
  · intro f hf
    rw [hfiles', hfiles] at hf
    cases hf
  · intro id n f hid
    rw [hindex', hindex] at hid
    cases hid

/-- Configurations that go with an empty directory. -/
structure WellConfigured (conffiles : RepoConfFiles) : Prop where
  separate : conffiles.Separate
  suffix : ∀ filename ∈ conffiles.filesnames, endsWith filename ".repo" = true
  named : ∀ filename id config, Configured conffiles filename id config →
    isGroupName id = true ∧ config.repoId.name ≠ ""
  unique : ∀ filename filename' id config config', Configured conffiles filename id config →
    Configured conffiles filename' id config' → filename' = filename

theorem fit_of_empty (h : WellConfigured conffiles) (hw : ∀ p, ¬ IsRepoFile w p) :
    Fit mirrors conffiles w := by
  refine ⟨h.separate, h.suffix, ?_, fun p hp => absurd hp (hw p), ?_⟩
  · intro filename hfilename
    have hempty : (w.keyFile (generatedPath filename)).data = KeyData.empty := by
      have hnone : w.content (generatedPath filename) = none := by
        by_contra hsome
        exact hw (generatedPath filename)
          ⟨rfl, h.suffix filename hfilename, Option.isSome_iff_ne_none.mpr hsome⟩
      rw [RepoWorld.keyFile, hnone, Option.getD_none]
    rw [hempty, overwritable_iff (leftBy_empty _)]
    intro id config hconfig
    obtain ⟨hname, htitle⟩ := h.named filename id config ⟨hfilename, hconfig⟩
    exact ⟨hname, htitle, by simp⟩
  · rintro filename id config hconfigured p (⟨filename', config', hconfigured', rfl⟩ | ⟨hp, -⟩)
    · rw [h.unique filename filename' id config config' hconfigured hconfigured']
    · exact absurd hp (hw p)

theorem mem_flatMap_files {half : RepoConfFile} {config : RepoConfig} :
    config ∈ half.files.toList.flatMap Prod.snd ↔ ∃ filename, config ∈ half.configs filename := by
  rw [List.mem_flatMap]
  constructor
  · rintro ⟨⟨filename, configs⟩, hfile, hconfig⟩
    refine ⟨filename, ?_⟩
    rwa [RepoConfFile.configs, Std.ExtTreeMap.mem_toList_iff_getElem?_eq_some.mp hfile,
      Option.getD_some]
  · rintro ⟨filename, hconfig⟩
    rw [RepoConfFile.configs] at hconfig
    cases hget : half.files[filename]? with
    | none =>
      rw [hget] at hconfig
      cases hconfig
    | some configs =>
      rw [hget] at hconfig
      exact ⟨(filename, configs), Std.ExtTreeMap.mem_toList_iff_getElem?_eq_some.mpr hget, hconfig⟩

theorem mem_allConfigs {config : RepoConfig} :
    config ∈ allConfigs conffiles ↔ ∃ filename, config ∈ conffiles.configs filename := by
  rw [allConfigs, List.mem_append, mem_flatMap_files, mem_flatMap_files, ← exists_or]
  exact exists_congr fun filename => List.mem_append.symm

/-- The defaults of the generated configurations are defined. -/
theorem exists_definedAt {config : RepoConfig} (h : config ∈ allConfigs conffiles) (w : RepoWorld) :
    ∃ p, DefinedAt conffiles w p config.repoId.id := by
  obtain ⟨filename, hconfig⟩ := mem_allConfigs.mp h
  have hfilename : filename ∈ conffiles.filesnames := by
    by_contra hmissing
    rw [RepoConfFiles.filesnames, List.mem_append, not_or] at hmissing
    rw [RepoConfFiles.configs, RepoConfFiles.configs_eq_nil hmissing.1,
      RepoConfFiles.configs_eq_nil hmissing.2] at hconfig
    cases hconfig
  obtain ⟨first, hfirst⟩ : ∃ first,
      configFor (conffiles.configs filename) config.repoId.id = some first := by
    rw [← Option.isSome_iff_exists, configFor, List.find?_isSome]
    exact ⟨config, hconfig, by simp⟩
  exact ⟨_, .inl ⟨filename, first, ⟨hfilename, hfirst⟩, rfl⟩⟩

end Generated

/-! ## The first run -/

/-- A file name that ends with `.repo` has this extension, unless it is nothing else. -/
theorem extensionOf_of_endsWith {filename : String} (h : endsWith filename ".repo" = true)
    (hne : filename ≠ ".repo") : extensionOf filename = ".repo" := by
  obtain ⟨stem, hstem⟩ : ".repo".toList <:+ filename.toList := by
    simpa [endsWith] using h
  have hreverse : filename.toList.reverse = 'o' :: 'p' :: 'e' :: 'r' :: '.' :: stem.reverse := by
    rw [← hstem, List.reverse_append]
    rfl
  have htake : filename.toList.reverse.takeWhile (· ≠ '.') = ['o', 'p', 'e', 'r'] := by
    rw [hreverse]
    simp
  have hstemNe : stem ≠ [] := by
    rintro rfl
    exact hne (String.toList_inj.mp hstem.symm)
  have hlength : filename.length = stem.length + 5 := by
    rw [← String.length_toList, ← hstem, List.length_append]
    rfl
  have hpositive := List.length_pos_iff.mpr hstemNe
  have hdots : filename ≠ ".." := by
    rintro rfl
    exact absurd hlength (by rw [show "..".length = 2 from rfl]; omega)
  unfold extensionOf
  rw [htake]
  dsimp only
  rw [if_pos ⟨by rw [hlength]; simp; omega, hdots⟩]
  rfl

/-- The first run finds an empty directory. -/
theorem not_isRepoFile_backedUp {w : RepoWorld} (hdot : w.content ⟨basedir, ".repo"⟩ = none)
    (p : RepoPath) : ¬ IsRepoFile (backedUp w) p := by
  rintro ⟨hdirectory, hname, hcontent⟩
  obtain ⟨directory, filename⟩ := p
  dsimp only at hdirectory hname
  subst hdirectory
  rw [RepoWorld.content, Assoc.isSome_get_iff, backedUp, List.map_append,
    List.mem_append] at hcontent
  rcases hcontent with hkept | hmoved
  · obtain ⟨e, he, hpath⟩ := List.mem_map.mp hkept
    obtain ⟨hmem, hkeeps⟩ := List.mem_filter.mp he
    by_cases hdotted : filename = ".repo"
    · have hsome : (w.content ⟨basedir, ".repo"⟩).isSome = true := by
        rw [RepoWorld.content, Assoc.isSome_get_iff, ← hdotted, ← hpath]
        exact List.mem_map_of_mem hmem
      rw [hdot] at hsome
      cases hsome
    · have hlower : lower ".repo" = ".repo" := by decide
      rw [hpath, extensionOf_of_endsWith hname hdotted, hlower] at hkeeps
      simp at hkeeps
  · obtain ⟨e, he, hpath⟩ := List.mem_map.mp hmoved
    obtain ⟨_, -, rfl⟩ := List.mem_map.mp he
    have hsame : backupPath = basedir := congrArg RepoPath.directory hpath
    exact absurd hsame (by decide)

/-! ## A whole run -/

/-- The directory that the generation finds. -/
def found (backupExists : Bool) (disk : List (RepoPath × KeyData)) : RepoWorld :=
  if backupExists then unloaded disk else backedUp (unloaded disk)

theorem found_empty (backupExists : Bool) (disk : List (RepoPath × KeyData)) :
    (found backupExists disk).files = [] ∧ (found backupExists disk).filesIdx = [] := by
  unfold found
  split <;> exact ⟨rfl, rfl⟩

/-- Moving files changes none. -/
theorem loadable_found (backupExists : Bool) {disk : List (RepoPath × KeyData)}
    (hdisk : ∀ e ∈ disk, Loadable e.2) :
    ∀ p data, (found backupExists disk).content p = some data → Loadable data := by
  intro p data hdata
  have hmem := Assoc.mem_of_get hdata
  unfold found at hmem
  split at hmem
  · exact hdisk _ hmem
  · rcases List.mem_append.mp hmem with hkept | hmoved
    · exact hdisk _ (List.mem_of_mem_filter hkept)
    · obtain ⟨e, he, heq⟩ := List.mem_map.mp hmoved
      obtain rfl : e.2 = data := congrArg Prod.snd heq
      exact hdisk e (List.mem_of_mem_filter he)

/-- A run whose files can be read, up to the last step. -/
structure Prepared (site : Site) (cluster : ClusterRepositories) (vars : RepoConfigVars)
    (selected conffiles : RepoConfFiles) (names : List String) : Prop where
  packages : cluster.osinfo.getPackageType = .RPM
  builds : buildRepoConfigVars site.mirrors.opts cluster.osinfo cluster.resolvedOfed = .ok vars
  selects : RepoConfigParser.load (site.interpolateVars vars) site.basePath cluster.osinfo false =
    .ok selected
  resolves : RepoNames.resolveReposNames cluster.osinfo = .ok names
  generates : RepoConfigParser.load (site.interpolateVars vars) site.basePath
    cluster.computeNodeOS site.shouldUseVault = .ok conffiles

section Run

variable {site : Site} {cluster : ClusterRepositories} {vars : RepoConfigVars}
  {selected conffiles : RepoConfFiles} {names : List String} {backupExists : Bool}
  {disk : List (RepoPath × KeyData)} {listing : Order RepoPath} {order order' : Order Nat}

/-- The default repositories of a prepared run. -/
def defaults (cluster : ClusterRepositories) (selected : RepoConfFiles) (names : List String) :
    List RepositorySelection :=
  listed (idsToEnable cluster.requested names) (allConfigs selected)

theorem Site.returns_cmd_iff {command : String} {w w' : RepoWorld} :
    Returns (site.cmd command) w () w' ↔ site.exitCode command = 0 ∧ w' = w := by
  unfold Site.cmd
  dsimp only
  by_cases hcode : site.exitCode command = 0
  · rw [if_neg (not_not.mpr hcode), returns_pure, and_iff_right hcode, and_iff_right rfl]
    exact eq_comm
  · rw [if_pos hcode]
    exact iff_of_false returns_raise fun h => hcode h.1

/-- A prepared run switches the repositories of the generated files and sets the option. -/
theorem returns_initializeRepositories_iff (h : Prepared site cluster vars selected conffiles names)
    (hseparate : conffiles.Separate) {w' : RepoWorld} :
    Returns (initializeRepositories site false cluster backupExists listing order order')
        (unloaded disk) () w' ↔
      Returns (initializeDefaultRepositories (switches (defaults cluster selected names)) listing
          order order') (RepoGenerator.generated site.mirrors conffiles (found backupExists disk))
          () w' ∧
        site.exitCode keepcacheCommand = 0 := by
  have hdistro : cluster.osinfo.distro ≠ .Ubuntu := by
    intro hubuntu
    have hpackages := h.packages
    rw [OS.getPackageType, hubuntu] at hpackages
    cases hpackages
  have hdefaults : defaultRepositorySelections site.interpolateVars site.mirrors.opts site.basePath
      cluster.osinfo cluster.resolvedOfed cluster.requested =
        .ok (defaults cluster selected names) :=
    (defaultRepositorySelections_eq_listed hdistro).mpr
      ⟨vars, selected, names, h.builds, h.selects, h.resolves, rfl⟩
  have hgenerate : generateRepositoryFiles site cluster vars backupExists (unloaded disk) =
      (.ok (), RepoGenerator.generated site.mirrors conffiles (found backupExists disk)) := by
    obtain ⟨hrun, -⟩ := RepoGenerator.generate_spec site.mirrors hseparate
      (found backupExists disk)
    have hbackup : backupRepositoryFiles backupExists (unloaded disk) =
        (.ok (), found backupExists disk) := by
      unfold backupRepositoryFiles found
      cases backupExists <;> rfl
    unfold generateRepositoryFiles
    have hload : (Program.ofExcept (.ok conffiles) : Program RepoWorld Exception RepoConfFiles)
        (found backupExists disk) = (.ok conffiles, found backupExists disk) := rfl
    rw [run_bind_of_returns hbackup, h.generates, run_bind_of_returns hload]
    exact run_bind_of_returns hrun
  have hrun : initializeRepositories site false cluster backupExists listing order order'
        (unloaded disk) =
      (do
        initializeDefaultRepositories (switches (defaults cluster selected names)) listing order
          order'
        site.cmd keepcacheCommand : Action)
        (RepoGenerator.generated site.mirrors conffiles (found backupExists disk)) := by
    unfold initializeRepositories
    rw [if_neg (by decide), h.builds, hdefaults, h.packages]
    exact run_bind_of_returns hgenerate
  unfold Returns
  rw [hrun, ← Returns, returns_bind]
  simp only [Site.returns_cmd_iff]
  constructor
  · rintro ⟨⟨⟩, w, hswitching, hcode, rfl⟩
    exact ⟨hswitching, hcode⟩
  · rintro ⟨hswitching, hcode⟩
    exact ⟨(), w', hswitching, hcode, rfl⟩

theorem mem_managedRepoIds_switches {repositories : List RepositorySelection} {id : String} :
    id ∈ managedRepoIds (switches repositories) ↔ ∃ s ∈ repositories, s.id = id := by
  simp [managedRepoIds, switches]

theorem mem_enabledRepoIds_switches {repositories : List RepositorySelection} {id : String} :
    id ∈ enabledRepoIds (switches repositories) ↔
      ∃ s ∈ repositories, s.id = id ∧ s.enabled = true := by
  simp [enabledRepoIds, switches, and_comm]

theorem exists_mem_defaults {id : String} :
    (∃ s ∈ defaults cluster selected names, s.id = id) ↔
      ∃ config ∈ allConfigs selected, config.repoId.id = id := by
  constructor
  · rintro ⟨s, hs, rfl⟩
    obtain ⟨config, hconfig, -⟩ := mem_listed.mp hs
    have hmem := List.mem_of_find?_eq_some hconfig
    exact ⟨config, List.mem_reverse.mp hmem, by simpa using List.find?_some hconfig⟩
  · rintro ⟨config, hmem, rfl⟩
    obtain ⟨last, hlast⟩ : ∃ last,
        lastConfigFor (allConfigs selected) config.repoId.id = some last := by
      rw [← Option.isSome_iff_exists, lastConfigFor, List.find?_isSome]
      exact ⟨config, List.mem_reverse.mpr hmem, by simp⟩
    have hid : last.repoId.id = config.repoId.id := by simpa using List.find?_some hlast
    refine ⟨_, mem_listed.mpr ⟨last, ?_, rfl⟩, hid⟩
    rw [selectionOf, hid]
    exact hlast

/-- What a run that returns leaves of a configured repository. -/
theorem onDisk_initializeRepositories (h : Prepared site cluster vars selected conffiles names)
    (hdisk : ∀ e ∈ disk, Loadable e.2)
    (hfit : Fit site.mirrors conffiles (found backupExists disk)) {w' : RepoWorld}
    (hreturns : Returns
      (initializeRepositories site false cluster backupExists listing order order')
      (unloaded disk) () w')
    {filename id : String} {config : RepoConfig}
    (hconfigured : Configured conffiles filename id config) :
    ∃ enabled,
      w'.onDisk (RepoGenerator.generatedPath filename) id =
        some { RepoConfAdapter.fromConfig site.mirrors config with
          source := (RepoGenerator.generatedPath filename).text, enabled } ∧
      (enabled = true ↔ (∃ default ∈ allConfigs selected, default.repoId.id = id) ∧
        (id ∈ names ∨ AskedFor cluster.requested id)) := by
  obtain ⟨hfiles, hindex⟩ := found_empty backupExists disk
  have hw := loadable_found backupExists hdisk
  have hcoherent := hfit.coherent_generated hw hfiles hindex
  obtain ⟨-, hfiles', -, hcontent, -⟩ :=
    RepoGenerator.generate_spec site.mirrors hfit.separate (found backupExists disk)
  have hholds := (RepoGenerator.holdsAssembled_generated_iff hfit.separate
    fun filename _ => RepoGenerator.loadable_keyFile hw _).mpr hfit.overwritable
  have hthere :
      ((RepoGenerator.generated site.mirrors conffiles (found backupExists disk)).content
        (RepoGenerator.generatedPath filename)).isSome = true := by
    rw [hcontent filename hconfigured.1]
    rfl
  have hswitch := onDisk_switching hcoherent (hfiles'.trans hfiles)
    ((returns_initializeRepositories_iff h hfit.separate).mp hreturns).1
    hthere fun q hq hgroup => hfit.unique filename id config hconfigured q
      ((hfit.definedAt_iff q id).mp ⟨hq, hgroup⟩)
  rw [(hholds filename hconfigured.1).2 id config hconfigured.2, Option.map_some] at hswitch
  refine ⟨_, hswitch, ?_⟩
  have hoff : (RepoConfAdapter.fromConfig site.mirrors config).enabled = false := rfl
  have hdefaults : (∃ s ∈ defaults cluster selected names, s.id = id) ↔
      ∃ default ∈ allConfigs selected, default.repoId.id = id := exists_mem_defaults
  rw [← hdefaults]
  by_cases hmanaged : id ∈ managedRepoIds (switches (defaults cluster selected names))
  · rw [if_pos hmanaged, Option.getD_some, decide_eq_true_iff, mem_enabledRepoIds_switches,
      and_iff_right (mem_managedRepoIds_switches.mp hmanaged)]
    constructor
    · rintro ⟨s, hs, rfl, henabled⟩
      obtain ⟨-, -, -, hiff⟩ := mem_listed_idsToEnable.mp hs
      exact hiff.mp henabled
    · intro hasked
      obtain ⟨s, hs, rfl⟩ := mem_managedRepoIds_switches.mp hmanaged
      obtain ⟨-, -, -, hiff⟩ := mem_listed_idsToEnable.mp hs
      exact ⟨s, hs, rfl, hiff.mpr hasked⟩
  · rw [if_neg hmanaged, Option.getD_none, hoff]
    refine iff_of_false (by decide) fun hdefault => hmanaged ?_
    exact mem_managedRepoIds_switches.mpr hdefault.1

/-- The groups that a file has when a run returns are those it had once the files were
generated. -/
theorem getGroups_initializeRepositories (h : Prepared site cluster vars selected conffiles names)
    (hdisk : ∀ e ∈ disk, Loadable e.2)
    (hfit : Fit site.mirrors conffiles (found backupExists disk)) {w' : RepoWorld}
    (hreturns : Returns
      (initializeRepositories site false cluster backupExists listing order order')
      (unloaded disk) () w') (p : RepoPath) :
    (w'.keyFile p).data.getGroups =
      ((RepoGenerator.generated site.mirrors conffiles
        (found backupExists disk)).keyFile p).data.getGroups := by
  obtain ⟨hfiles, hindex⟩ := found_empty backupExists disk
  have hcoherent := hfit.coherent_generated (loadable_found backupExists hdisk) hfiles hindex
  exact getGroups_switching hcoherent
    ((returns_initializeRepositories_iff h hfit.separate).mp hreturns).1 p

/-- A run returns when every default repository is configured, or defined by a file that was left
in the directory, and the last command succeeds. -/
theorem exists_returns_initializeRepositories_iff (listing : Order RepoPath)
    (order order' : Order Nat) (h : Prepared site cluster vars selected conffiles names)
    (hdisk : ∀ e ∈ disk, Loadable e.2)
    (hfit : Fit site.mirrors conffiles (found backupExists disk)) :
    (∃ w', Returns (initializeRepositories site false cluster backupExists listing order order')
        (unloaded disk) () w') ↔
      (∀ config ∈ allConfigs selected,
        ∃ p, DefinedAt conffiles (found backupExists disk) p config.repoId.id) ∧
      site.exitCode keepcacheCommand = 0 := by
  obtain ⟨hfiles, hindex⟩ := found_empty backupExists disk
  have hw := loadable_found backupExists hdisk
  have hcoherent := hfit.coherent_generated hw hfiles hindex
  obtain ⟨-, -, hindex', -, -⟩ :=
    RepoGenerator.generate_spec site.mirrors hfit.separate (found backupExists disk)
  simp only [returns_initializeRepositories_iff h hfit.separate, exists_and_right]
  refine and_congr_left fun _ => ?_
  rw [returns_switching_iff hcoherent (hindex'.trans hindex),
    and_iff_right fun p hp => hfit.readable_generated hw hp]
  simp only [hfit.definedAt_iff, mem_managedRepoIds_switches, exists_mem_defaults]
  constructor
  · exact fun hall config hconfig => hall _ ⟨config, hconfig, rfl⟩
  · rintro hall id ⟨config, hconfig, rfl⟩
    exact hall config hconfig

/-- A run returns when every default repository is configured, or defined by a file that was left
in the directory, and the last command succeeds. It ends with each configured repository as it was assembled, and switched on
exactly when it is a default repository that every cluster needs or that was asked for. -/
theorem initializeRepositories_iff (listing : Order RepoPath) (order order' : Order Nat)
    (h : Prepared site cluster vars selected conffiles names) (hdisk : ∀ e ∈ disk, Loadable e.2)
    (hfit : Fit site.mirrors conffiles (found backupExists disk)) :
    ((∃ w', Returns (initializeRepositories site false cluster backupExists listing order order')
        (unloaded disk) () w') ↔
      (∀ config ∈ allConfigs selected,
        ∃ p, DefinedAt conffiles (found backupExists disk) p config.repoId.id) ∧
      site.exitCode keepcacheCommand = 0) ∧
    ∀ w', Returns (initializeRepositories site false cluster backupExists listing order order')
        (unloaded disk) () w' →
      ∀ filename id config, Configured conffiles filename id config →
        ∃ enabled,
          w'.onDisk (RepoGenerator.generatedPath filename) id =
            some { RepoConfAdapter.fromConfig site.mirrors config with
              source := (RepoGenerator.generatedPath filename).text, enabled } ∧
          (enabled = true ↔ (∃ default ∈ allConfigs selected, default.repoId.id = id) ∧
            (id ∈ names ∨ AskedFor cluster.requested id)) :=
  ⟨exists_returns_initializeRepositories_iff listing order order' h hdisk hfit,
    fun _ hreturns _ _ _ hconfigured =>
      onDisk_initializeRepositories h hdisk hfit hreturns hconfigured⟩

end Run

/-! ## A run on a new system -/

/-- The texts have no placeholders. -/
def rockySite : Site where
  interpolateVars := fun _ text => .ok text
  mirrors := RepoGenerator.reachable false
  basePath := rockyBasePath
  shouldUseVault := false
  initializeDebianHeadnodeRepositories := pure ()
  exitCode := fun _ => 0

/-- BeeGFS needs Grafana. -/
def rockyCluster : ClusterRepositories where
  headnodeOS := .ofPlatform .Rocky .el9 6 .x86_64
  computeNodeOS := .ofPlatform .Rocky .el9 6 .x86_64
  ofedVersion := none
  requested := { enabledRepositories := some ["beegfs"] }

/-- What the system brought. -/
def rockyDisk : List (RepoPath × KeyData) := [(⟨basedir, "rocky.repo"⟩, epelPair)]

theorem loadable_rockyDisk : ∀ e ∈ rockyDisk, Loadable e.2 := by
  intro e he
  obtain rfl := List.mem_singleton.mp he
  intro g hg
  rcases List.mem_pair.mp hg with rfl | rfl
  · decide
  · decide

def rockyConfig : RepoConfig where
  repoId := ⟨"baseos", "Rocky Linux 9 - BaseOS", "rocky.repo"⟩
  mirror := ⟨"", none⟩
  upstream := ⟨"https://dl.rockylinux.org/pub/rocky/9/BaseOS/x86_64/os/", none⟩

theorem exists_of_toOption_map {α β : Type} {x : Result α} {f : α → β} {b : β}
    (h : x.toOption.map f = some b) : ∃ a, x = .ok a ∧ f a = b := by
  cases x with
  | ok a => exact ⟨a, rfl, Option.some.inj h⟩
  | error e => cases h

/-- What the two files are read as. -/
theorem load_rockySite (vars : RepoConfigVars) : ∃ conffiles,
    RepoConfigParser.load (rockySite.interpolateVars vars) rockySite.basePath rockyCluster.osinfo
        false = .ok conffiles ∧
      conffiles.filesnames = ["rocky.repo", "grafana.repo"] ∧
      conffiles.configs "rocky.repo" = [rockyConfig] ∧
      conffiles.configs "grafana.repo" = [RepoGenerator.grafana] := by
  have hload : (RepoConfigParser.load .ok rockySite.basePath rockyCluster.osinfo false).toOption.map
      (fun conffiles => (conffiles.filesnames, conffiles.configs "rocky.repo",
        conffiles.configs "grafana.repo")) =
      some (["rocky.repo", "grafana.repo"], [rockyConfig], [RepoGenerator.grafana]) := by
    decide
  obtain ⟨conffiles, hconffiles, hread⟩ := exists_of_toOption_map hload
  simp only [Prod.mk.injEq] at hread
  exact ⟨conffiles, hconffiles, hread⟩

theorem configured_rocky {conffiles : RepoConfFiles}
    (hnames : conffiles.filesnames = ["rocky.repo", "grafana.repo"])
    (hrocky : conffiles.configs "rocky.repo" = [rockyConfig])
    (hgrafana : conffiles.configs "grafana.repo" = [RepoGenerator.grafana])
    {filename id : String} {config : RepoConfig} (h : Configured conffiles filename id config) :
    (filename = "rocky.repo" ∧ id = "baseos" ∧ config = rockyConfig) ∨
      filename = "grafana.repo" ∧ id = "grafana" ∧ config = RepoGenerator.grafana := by
  obtain ⟨hfilename, hconfig⟩ := h
  rw [hnames] at hfilename
  rcases List.mem_pair.mp hfilename with rfl | rfl
  · rw [hrocky] at hconfig
    obtain rfl := List.mem_singleton.mp (List.mem_of_find?_eq_some hconfig)
    obtain rfl := RepoConfAdapter.id_of_configFor hconfig
    exact .inl ⟨rfl, rfl, rfl⟩
  · rw [hgrafana] at hconfig
    obtain rfl := List.mem_singleton.mp (List.mem_of_find?_eq_some hconfig)
    obtain rfl := RepoConfAdapter.id_of_configFor hconfig
    exact .inr ⟨rfl, rfl, rfl⟩

theorem wellConfigured_rocky {conffiles : RepoConfFiles}
    (hnames : conffiles.filesnames = ["rocky.repo", "grafana.repo"])
    (hrocky : conffiles.configs "rocky.repo" = [rockyConfig])
    (hgrafana : conffiles.configs "grafana.repo" = [RepoGenerator.grafana]) :
    WellConfigured conffiles := by
  have hcases : ∀ filename id config, Configured conffiles filename id config →
      (filename = "rocky.repo" ∧ id = "baseos" ∧ config = rockyConfig) ∨
        filename = "grafana.repo" ∧ id = "grafana" ∧ config = RepoGenerator.grafana :=
    fun _ _ _ => configured_rocky hnames hrocky hgrafana
  refine ⟨⟨by rw [hnames]; decide, ?_⟩, by rw [hnames]; decide, ?_, ?_⟩
  · have hnodup :
        (conffiles.distroRepos.filesnames ++ conffiles.nonDistroRepos.filesnames).Nodup := by
      have hall : conffiles.filesnames.Nodup := by
        rw [hnames]
        decide
      exact hall
    exact fun filename hdistro hnonDistro => List.disjoint_of_nodup_append hnodup hdistro hnonDistro
  · intro filename id config hconfigured
    rcases hcases filename id config hconfigured with ⟨-, rfl, rfl⟩ | ⟨-, rfl, rfl⟩
    · exact ⟨by decide, by decide⟩
    · exact ⟨by decide, by decide⟩
  · intro filename filename' id config config' hconfigured hconfigured'
    rcases hcases _ _ _ hconfigured with ⟨rfl, rfl, rfl⟩ | ⟨rfl, rfl, rfl⟩ <;>
      rcases hcases _ _ _ hconfigured' with ⟨rfl, hid, -⟩ | ⟨rfl, hid, -⟩
    · rfl
    · exact absurd hid (by decide)
    · exact absurd hid (by decide)
    · rfl

/-- The first run on a Rocky Linux that came with a file of its own: Grafana is switched on,
because BeeGFS was asked for. -/
theorem initializeRepositories_rocky : ∃ w', Returns
    (initializeRepositories rockySite false rockyCluster false (asListed _) (asListed _)
      (asListed _)) (unloaded rockyDisk) () w' ∧
      ((w'.onDisk (RepoGenerator.generatedPath "grafana.repo") "grafana").map (·.enabled)) =
        some true := by
  obtain ⟨vars, hvars⟩ : ∃ vars, buildRepoConfigVars rockySite.mirrors.opts rockyCluster.osinfo
      rockyCluster.resolvedOfed = .ok vars := ⟨_, rfl⟩
  obtain ⟨conffiles, hload, hnames, hrocky, hgrafana⟩ := load_rockySite vars
  have hprepared : Prepared rockySite rockyCluster vars conffiles conffiles
      ["appstream", "baseos", "crb", "epel", "OpenHPC", "OpenHPC-Updates"] :=
    ⟨by decide, hvars, hload, by decide, hload⟩
  have hdot : (unloaded rockyDisk).content ⟨basedir, ".repo"⟩ = none := by decide
  have hfit : Fit rockySite.mirrors conffiles (found false rockyDisk) :=
    fit_of_empty (wellConfigured_rocky hnames hrocky hgrafana) (not_isRepoFile_backedUp hdot)
  obtain ⟨hreturns, hleft⟩ := initializeRepositories_iff (asListed _) (asListed _) (asListed _)
    hprepared loadable_rockyDisk hfit
  obtain ⟨w', hw'⟩ := hreturns.mpr ⟨fun config hconfig => exists_definedAt hconfig _, rfl⟩
  have hgrafanaOnly : Configured conffiles "grafana.repo" "grafana" RepoGenerator.grafana := by
    refine ⟨by rw [hnames]; decide, ?_⟩
    rw [hgrafana]
    decide
  obtain ⟨enabled, hrepo, henabled⟩ := hleft w' hw' _ _ _ hgrafanaOnly
  refine ⟨w', hw', ?_⟩
  rw [hrepo, Option.map_some]
  refine congrArg some (henabled.mpr ⟨?_, .inr (.inl ⟨["beegfs"], rfl, "beegfs", by simp, ?_⟩)⟩)
  · exact ⟨RepoGenerator.grafana, mem_allConfigs.mpr ⟨"grafana.repo", by simp [hgrafana]⟩, rfl⟩
  · exact .single (by decide)

end RepoManager

end OpenCattus
