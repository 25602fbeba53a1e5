import OpenCattus.Repositories.Configuration
import OpenCattus.Repositories.Switching
import Mathlib.Data.List.DropRight

/-!
# Generating the repository files

`RepoGenerator` turns the configurations into `.repo` files. Each repository is taken from the
mirror or from upstream, and its file is saved over the one that an earlier run has left.

`generate_iff` says when every generated file reads as the configurations are assembled.
`generations_hold_iff` follows any number of runs between which the mirrors and the keys come and
go: a key that was found once stays in the file.
-/

namespace OpenCattus

open Foundations Foundations.Text Foundations.Program RPMRepositoryParser

/-! ## Mirror and upstream -/

/-- `utils::string::rstrip`. -/
def rstrip (s trailing : String) : String :=
  String.ofList (s.toList.rdropWhile (· ∈ trailing.toList))

/-- The answers of the file system and of the network. -/
structure MirrorExistenceChecker where
  pathExists : String → Bool
  urlExists : String → Bool

/-- The options and the two checkers that a repository is assembled with. -/
structure Mirrors where
  opts : RepoOptions
  mirror : MirrorExistenceChecker
  upstream : MirrorExistenceChecker

namespace MirrorRepo

variable (opts : RepoOptions) (paths : RepoPaths)

def baseurl : String := rstrip (opts.mirrorBaseUrl ++ "/" ++ paths.repo) "/"

def gpgkey : Option String := paths.gpgkey.map (opts.mirrorBaseUrl ++ "/" ++ ·)

def isLocalUrl (url : String) : Bool := startsWith url "file://"

def localPath (url : String) : String := String.ofList (url.toList.drop "file://".length)

def mirrorExists (checker : MirrorExistenceChecker) : Bool :=
  if paths.repo = "" then false
  else if isLocalUrl opts.mirrorBaseUrl then checker.pathExists (localPath (baseurl opts paths))
  else checker.urlExists (baseurl opts paths ++ "/repodata/repomd.xml")

end MirrorRepo

namespace UpstreamRepo

variable (paths : RepoPaths)

def baseurl : String := rstrip paths.repo "/"

/-- A key that cannot be reached is left out. -/
def gpgkey (checker : MirrorExistenceChecker) : Option String :=
  paths.gpgkey.filter checker.urlExists

end UpstreamRepo

namespace RepoChooser

inductive Choice where
  | UPSTREAM | MIRROR
  deriving DecidableEq, Repr

def choose (mirrors : Mirrors) (mirror : RepoPaths) (forceUpstream : Bool) : Choice :=
  if forceUpstream then .UPSTREAM
  else if !mirrors.opts.enableMirrors then .UPSTREAM
  else if !MirrorRepo.mirrorExists mirrors.opts mirror mirrors.mirror then .UPSTREAM
  else .MIRROR

end RepoChooser

namespace RepoAssembler

def assemble (mirrors : Mirrors) (repoid : RepoId) (mirror upstream : RepoPaths)
    (enabled forceUpstream : Bool) : RPMRepository :=
  let gpgkey :=
    match RepoChooser.choose mirrors mirror forceUpstream with
    | .UPSTREAM => UpstreamRepo.gpgkey upstream mirrors.upstream
    | .MIRROR => MirrorRepo.gpgkey mirrors.opts mirror
  { id := repoid.id
    group := repoid.id
    group_eq := rfl
    name := repoid.name
    source := repoid.filename
    enabled
    baseurl :=
      match RepoChooser.choose mirrors mirror forceUpstream with
      | .UPSTREAM => some (UpstreamRepo.baseurl upstream)
      | .MIRROR => some (MirrorRepo.baseurl mirrors.opts mirror)
    gpgkey
    gpgcheck := gpgkey.isSome }

end RepoAssembler

/-! ## Files -/

namespace RepoPath

/-- A path is split behind its last slash. -/
def ofText (text : String) : RepoPath where
  directory := String.ofList (text.toList.rdropWhile (· ≠ '/'))
  filename := String.ofList (text.toList.rtakeWhile (· ≠ '/'))

/-- `std::filesystem::path::operator/`, for a directory that ends with a slash. -/
def join (directory filename : String) : RepoPath :=
  ofText (if startsWith filename "/" then filename else directory ++ filename)

end RepoPath

/-- `RPMRepositoryFile::save`. -/
def RepoWorld.save (w : RepoWorld) (f : RPMRepositoryFile) : RepoWorld :=
  w.write f.path (unparse f.repos (w.keyFile f.path).data)

namespace RepoConfAdapter

def fromConfig (mirrors : Mirrors) (config : RepoConfig) : RPMRepository :=
  RepoAssembler.assemble mirrors config.repoId config.mirror config.upstream false false

/-- The repositories of a file. Of two configurations with one id the first is taken. -/
def repositories (mirrors : Mirrors) (configs : List RepoConfig) : RepoMap :=
  configs.foldl (fun repos config => repos.emplace (fromConfig mirrors config)) .empty

def fromConfigs (mirrors : Mirrors) (filename : String) (configs : List RepoConfig)
    (basedir : String) : RPMRepositoryFile :=
  ⟨RepoPath.join basedir filename, repositories mirrors configs⟩

def fromConfFile (mirrors : Mirrors) (conffile : RepoConfFile) (repoList : List String)
    (basedir : String) : List RPMRepositoryFile :=
  (conffile.files.toList.filter (·.1 ∈ repoList)).map fun file =>
    fromConfigs mirrors file.1 file.2 basedir

end RepoConfAdapter

namespace RepoGenerator

open RepoConfAdapter

/-- The objects that `generate` saves. -/
def repofiles (mirrors : Mirrors) (conffiles : RepoConfFiles) (path : String) :
    List RPMRepositoryFile :=
  let reposToGenerate := conffiles.distroRepos.filesnames ++ conffiles.nonDistroRepos.filesnames
  fromConfFile mirrors conffiles.distroRepos reposToGenerate path ++
    fromConfFile mirrors conffiles.nonDistroRepos reposToGenerate path

/-- `generate`. The number of the files is returned. -/
def generate (mirrors : Mirrors) (conffiles : RepoConfFiles) (path : String) :
    Program RepoWorld Exception Nat := do
  update fun w => (repofiles mirrors conffiles path).foldl RepoWorld.save w
  pure (repofiles mirrors conffiles path).length

end RepoGenerator

/-! ## Paths -/

theorem RepoPath.ofText_append {directory filename : String}
    (hdirectory : directory.toList.getLast? = some '/') (hfilename : '/' ∉ filename.toList) :
    RepoPath.ofText (directory ++ filename) = ⟨directory, filename⟩ := by
  obtain ⟨init, hinit⟩ := List.getLast?_eq_some_iff.mp hdirectory
  have hplain : ∀ c ∈ filename.toList, decide (c ≠ '/') = true := by
    intro c hc
    rw [decide_eq_true_eq]
    rintro rfl
    exact hfilename hc
  have hdrop : (directory ++ filename).toList.rdropWhile (· ≠ '/') = directory.toList := by
    rw [String.toList_append, hinit, List.rdropWhile, List.reverse_append,
      List.dropWhile_append_of_pos (by simpa using hplain)]
    simp
  have htake : (directory ++ filename).toList.rtakeWhile (· ≠ '/') = filename.toList := by
    rw [String.toList_append, hinit, List.rtakeWhile, List.reverse_append,
      List.takeWhile_append_of_pos (by simpa using hplain)]
    simp
  rw [RepoPath.ofText, hdrop, htake, String.ofList_toList, String.ofList_toList]

/-- A plain file name stays a name in the directory. -/
theorem RepoPath.join_basedir {filename : String} (h : '/' ∉ filename.toList) :
    RepoPath.join RPMRepoManager.basedir filename = ⟨RPMRepoManager.basedir, filename⟩ := by
  have hrelative : startsWith filename "/" = false := by
    by_contra hstarts
    have hslash : "/".toList <+: filename.toList := by
      simpa [startsWith] using hstarts
    exact h (hslash.subset (by decide))
  rw [RepoPath.join, hrelative, if_neg (by decide)]
  exact ofText_append (by decide) h

/-! ## What a file is generated from -/

theorem RepoMap.find_emplace (m : RepoMap) (repo : RPMRepository) (id : String) :
    (m.emplace repo).find id = (m.find id).or (if repo.id = id then some repo else none) := by
  unfold RepoMap.emplace
  split
  · rename_i hmem
    by_cases hid : repo.id = id
    · obtain ⟨old, hold⟩ := Option.isSome_iff_exists.mp (RepoMap.find_isSome.mpr (hid ▸ hmem))
      rw [hold, Option.some_or]
    · rw [if_neg hid, Option.or_none]
  · unfold RepoMap.find
    rw [List.find?_append]
    by_cases hid : repo.id = id <;> simp [hid]

namespace RepoConfAdapter

variable {mirrors : Mirrors} {configs : List RepoConfig} {id : String}

/-- The configuration that counts for an id. -/
def configFor (configs : List RepoConfig) (id : String) : Option RepoConfig :=
  configs.find? (·.repoId.id = id)

theorem find_repositories :
    (repositories mirrors configs).find id = (configFor configs id).map (fromConfig mirrors) := by
  have hloop : ∀ (configs : List RepoConfig) (acc : RepoMap),
      (configs.foldl (fun repos config => repos.emplace (fromConfig mirrors config)) acc).find id =
        (acc.find id).or ((configFor configs id).map (fromConfig mirrors)) := by
    intro configs
    induction configs with
    | nil => simp [configFor]
    | cons config configs ih =>
      intro acc
      rw [List.foldl_cons, ih, RepoMap.find_emplace, Option.or_assoc]
      congr 1
      have hid : (fromConfig mirrors config).id = config.repoId.id := rfl
      rw [hid, configFor, configFor, List.find?_cons]
      by_cases h : config.repoId.id = id <;> simp [h]
  exact (hloop configs .empty).trans (Option.none_or ..)

theorem mem_repositories {repo : RPMRepository} :
    repo ∈ (repositories mirrors configs).repos ↔
      ∃ config, configFor configs repo.id = some config ∧ fromConfig mirrors config = repo := by
  rw [← Option.map_eq_some_iff, ← find_repositories, RepoMap.find_eq_some, and_iff_left rfl]

theorem mem_ids_repositories :
    id ∈ (repositories mirrors configs).ids ↔ ∃ config, configFor configs id = some config := by
  rw [← RepoMap.find_isSome, find_repositories, Option.isSome_map, Option.isSome_iff_exists]

theorem id_of_configFor {config : RepoConfig} (h : configFor configs id = some config) :
    config.repoId.id = id := by
  simpa using List.find?_some h

end RepoConfAdapter

/-! ## Saving the files -/

namespace RepoWorld

theorem content_save (w : RepoWorld) (f : RPMRepositoryFile) (p : RepoPath) :
    (w.save f).content p =
      if f.path = p then some (unparse f.repos (w.keyFile f.path).data) else w.content p :=
  content_write ..

theorem foldl_save (files : List RPMRepositoryFile) (w : RepoWorld) :
    (files.foldl save w).files = w.files ∧ (files.foldl save w).filesIdx = w.filesIdx ∧
      ∀ p, p ∉ files.map (·.path) → (files.foldl save w).content p = w.content p := by
  induction files generalizing w with
  | nil => exact ⟨rfl, rfl, fun _ _ => rfl⟩
  | cons f files ih =>
    obtain ⟨hfiles, hindex, hcontent⟩ := ih (w.save f)
    refine ⟨hfiles, hindex, ?_⟩
    intro p hp
    rw [List.map_cons, List.mem_cons, not_or] at hp
    rw [List.foldl_cons, hcontent p hp.2, content_save, if_neg (Ne.symm hp.1)]

/-- Objects of different files are saved each over what its own file held. -/
theorem content_foldl_save {files : List RPMRepositoryFile} (hnodup : (files.map (·.path)).Nodup)
    (w : RepoWorld) {f : RPMRepositoryFile} (hf : f ∈ files) :
    (files.foldl save w).content f.path = some (unparse f.repos (w.keyFile f.path).data) := by
  induction files generalizing w with
  | nil => cases hf
  | cons g files ih =>
    obtain ⟨hg, hnodup⟩ := List.nodup_cons.mp hnodup
    rw [List.foldl_cons]
    rcases List.mem_cons.mp hf with rfl | hf
    · rw [(foldl_save files _).2.2 _ hg, content_save, if_pos rfl]
    · have hne : g.path ≠ f.path := by
        intro hpath
        dsimp only at hg
        rw [hpath] at hg
        exact hg (List.mem_map_of_mem hf)
      have hkey : (w.save g).keyFile f.path = w.keyFile f.path := by
        apply keyFile_eq_of_content
        rw [content_save, if_neg hne]
      rw [ih hnodup _ hf, hkey]

end RepoWorld

namespace RepoConfFiles

def filesnames (conffiles : RepoConfFiles) : List String :=
  conffiles.distroRepos.filesnames ++ conffiles.nonDistroRepos.filesnames

/-- The configurations for a file, those of the distribution first. -/
def configs (conffiles : RepoConfFiles) (filename : String) : List RepoConfig :=
  conffiles.distroRepos.configs filename ++ conffiles.nonDistroRepos.configs filename

/-- Plain file names, and none that both halves use. -/
structure Separate (conffiles : RepoConfFiles) : Prop where
  plain : ∀ filename ∈ conffiles.filesnames, '/' ∉ filename.toList
  disjoint : ∀ filename ∈ conffiles.distroRepos.filesnames,
    filename ∉ conffiles.nonDistroRepos.filesnames

theorem configs_eq_nil {conffile : RepoConfFile} {filename : String}
    (h : filename ∉ conffile.filesnames) : conffile.configs filename = [] := by
  have hnone : conffile.files[filename]? = none := by
    rw [Option.eq_none_iff_forall_ne_some]
    exact fun configs hconfigs => h (RepoConfFile.mem_filesnames.mpr ⟨configs, hconfigs⟩)
  rw [RepoConfFile.configs, hnone, Option.getD_none]

theorem Separate.nodup {conffiles : RepoConfFiles} (h : conffiles.Separate) :
    conffiles.filesnames.Nodup :=
  List.nodup_append.mpr ⟨Std.ExtTreeMap.nodup_keys, Std.ExtTreeMap.nodup_keys,
    fun a ha _ hb hab => h.disjoint a ha (hab ▸ hb)⟩

end RepoConfFiles

namespace RepoGenerator

open RepoConfAdapter RPMRepoManager

variable {mirrors : Mirrors} {conffiles : RepoConfFiles}

/-- Where a file is generated. -/
def generatedPath (filename : String) : RepoPath := ⟨basedir, filename⟩

theorem generatedPath_inj {a b : String} (h : generatedPath a = generatedPath b) : a = b :=
  congrArg RepoPath.filename h

/-- The object for a file name. -/
def repofile (mirrors : Mirrors) (conffiles : RepoConfFiles) (filename : String) :
    RPMRepositoryFile :=
  ⟨generatedPath filename, repositories mirrors (conffiles.configs filename)⟩

theorem fromConfFile_eq {conffile : RepoConfFile} {names : List String}
    (hnames : ∀ filename ∈ conffile.filesnames, filename ∈ names) (path : String) :
    fromConfFile mirrors conffile names path =
      conffile.filesnames.map fun filename =>
        fromConfigs mirrors filename (conffile.configs filename) path := by
  have hkeys : conffile.filesnames = conffile.files.toList.map Prod.fst :=
    Std.ExtTreeMap.map_fst_toList_eq_keys.symm
  have hall : conffile.files.toList.filter (·.1 ∈ names) = conffile.files.toList := by
    refine List.filter_eq_self.mpr fun file hfile => decide_eq_true ?_
    exact hnames _ (hkeys ▸ List.mem_map_of_mem hfile)
  rw [fromConfFile, hall, hkeys, List.map_map]
  refine List.map_congr_left fun file hfile => ?_
  have hconfigs : conffile.configs file.1 = file.2 := by
    rw [RepoConfFile.configs, Std.ExtTreeMap.mem_toList_iff_getElem?_eq_some.mp hfile,
      Option.getD_some]
  rw [Function.comp_apply, hconfigs]

theorem repofiles_eq (h : conffiles.Separate) :
    repofiles mirrors conffiles basedir =
      conffiles.filesnames.map (repofile mirrors conffiles) := by
  have hdistro : ∀ filename ∈ conffiles.distroRepos.filesnames,
      conffiles.configs filename = conffiles.distroRepos.configs filename := by
    intro filename hfilename
    rw [RepoConfFiles.configs, RepoConfFiles.configs_eq_nil (h.disjoint filename hfilename),
      List.append_nil]
  have hnonDistro : ∀ filename ∈ conffiles.nonDistroRepos.filesnames,
      conffiles.configs filename = conffiles.nonDistroRepos.configs filename := by
    intro filename hfilename
    rw [RepoConfFiles.configs,
      RepoConfFiles.configs_eq_nil fun hother => h.disjoint filename hother hfilename,
      List.nil_append]
  rw [repofiles, fromConfFile_eq fun _ => List.mem_append_left _,
    fromConfFile_eq fun _ => List.mem_append_right _, RepoConfFiles.filesnames, List.map_append]
  refine congrArg₂ (· ++ ·) ?_ ?_
  · refine List.map_congr_left fun filename hfilename => ?_
    rw [fromConfigs, RepoPath.join_basedir (h.plain _ (List.mem_append_left _ hfilename)), repofile,
      hdistro filename hfilename]
    rfl
  · refine List.map_congr_left fun filename hfilename => ?_
    rw [fromConfigs, RepoPath.join_basedir (h.plain _ (List.mem_append_right _ hfilename)),
      repofile, hnonDistro filename hfilename]
    rfl

/-- The state after `generate`. -/
def generated (mirrors : Mirrors) (conffiles : RepoConfFiles) (w : RepoWorld) : RepoWorld :=
  (generate mirrors conffiles basedir w).2

/-- What one run does. -/
theorem generate_spec (mirrors : Mirrors) (h : conffiles.Separate) (w : RepoWorld) :
    generate mirrors conffiles basedir w =
        (.ok conffiles.filesnames.length, generated mirrors conffiles w) ∧
      (generated mirrors conffiles w).files = w.files ∧
      (generated mirrors conffiles w).filesIdx = w.filesIdx ∧
      (∀ filename ∈ conffiles.filesnames,
        (generated mirrors conffiles w).content (generatedPath filename) =
          some (unparse (repositories mirrors (conffiles.configs filename))
            (w.keyFile (generatedPath filename)).data)) ∧
      ∀ p, (∀ filename ∈ conffiles.filesnames, generatedPath filename ≠ p) →
        (generated mirrors conffiles w).content p = w.content p := by
  have hrun : generate mirrors conffiles basedir w =
      (.ok conffiles.filesnames.length,
        (conffiles.filesnames.map (repofile mirrors conffiles)).foldl RepoWorld.save w) := by
    unfold generate
    rw [repofiles_eq h]
    simp only [List.length_map]
    rfl
  have hpaths : (conffiles.filesnames.map (repofile mirrors conffiles)).map (·.path) =
      conffiles.filesnames.map generatedPath := by
    rw [List.map_map]
    rfl
  obtain ⟨hfiles, hindex, hother⟩ :=
    RepoWorld.foldl_save (conffiles.filesnames.map (repofile mirrors conffiles)) w
  rw [generated, hrun]
  refine ⟨rfl, hfiles, hindex, ?_, ?_⟩
  · intro filename hfilename
    refine RepoWorld.content_foldl_save (f := repofile mirrors conffiles filename) ?_ w
      (List.mem_map_of_mem hfilename)
    rw [hpaths]
    exact h.nodup.map fun _ _ => generatedPath_inj
  · intro p hp
    refine hother p ?_
    rw [hpaths]
    rintro hmem
    obtain ⟨filename, hfilename, hpath⟩ := List.mem_map.mp hmem
    exact hp filename hfilename hpath

/-! ## One run -/

theorem keyFile_generated (h : conffiles.Separate) (w : RepoWorld) {filename : String}
    (hfilename : filename ∈ conffiles.filesnames) :
    (generated mirrors conffiles w).keyFile (generatedPath filename) =
      ⟨(generatedPath filename).text, unparse (repositories mirrors (conffiles.configs filename))
        (w.keyFile (generatedPath filename)).data⟩ := by
  obtain ⟨-, -, -, hcontent, -⟩ := generate_spec mirrors h w
  rw [RepoWorld.keyFile, hcontent filename hfilename, Option.getD_some]

/-- Every generated file can be read, and under each id of its configurations it holds the
repository that the first of them is assembled to. -/
def HoldsAssembled (mirrors : Mirrors) (conffiles : RepoConfFiles) (w : RepoWorld) : Prop :=
  ∀ filename ∈ conffiles.filesnames,
    (∃ out, parse (w.keyFile (generatedPath filename)) = .ok out) ∧
      ∀ id config, configFor (conffiles.configs filename) id = some config →
        w.onDisk (generatedPath filename) id =
          some { fromConfig mirrors config with source := (generatedPath filename).text }

/-- The old content of a file, and the configurations that are written over it: these are fit for
groups with names; where no key is assembled, and for every meta link, the old group has none; and
the groups that are not written can be read. -/
structure Overwritable (mirrors : Mirrors) (configs : List RepoConfig) (data : KeyData) : Prop where
  named : ∀ id config, configFor configs id = some config →
    isGroupName id = true ∧ config.repoId.name ≠ ""
  gpgkey : ∀ id config, configFor configs id = some config →
    (fromConfig mirrors config).gpgkey = none → data.lookup id "gpgkey" = none
  metalink : ∀ id config, configFor configs id = some config → data.lookup id "metalink" = none
  others : ∀ g ∈ data.getGroups, configFor configs g = none → ReadableGroup data g

theorem baseurl_fromConfig (config : RepoConfig) : (fromConfig mirrors config).baseurl ≠ none := by
  unfold fromConfig RepoAssembler.assemble
  dsimp only
  split <;> simp

theorem savesExactly_iff {configs : List RepoConfig} {data : KeyData} :
    SavesExactly (repositories mirrors configs) data ↔ Overwritable mirrors configs data := by
  have hnotMem : ∀ g, g ∉ (repositories mirrors configs).ids ↔ configFor configs g = none := by
    intro g
    rw [mem_ids_repositories, Option.eq_none_iff_forall_ne_some, not_exists]
  constructor
  · rintro ⟨hsaved, hothers⟩
    have hmem : ∀ id config, configFor configs id = some config →
        isGroupName id = true ∧ config.repoId.name ≠ "" ∧
          Overwrites data (fromConfig mirrors config) := by
      intro id config hconfig
      obtain rfl := id_of_configFor hconfig
      exact hsaved (fromConfig mirrors config) (mem_repositories.mpr ⟨config, hconfig, rfl⟩)
    constructor
    · intro id config hconfig
      obtain ⟨hname, htitle, -⟩ := hmem id config hconfig
      exact ⟨hname, htitle⟩
    · intro id config hconfig hnone
      obtain ⟨-, -, hkey, -⟩ := hmem id config hconfig
      obtain rfl := id_of_configFor hconfig
      exact hkey hnone
    · intro id config hconfig
      obtain ⟨-, -, -, hlink, -⟩ := hmem id config hconfig
      obtain rfl := id_of_configFor hconfig
      exact hlink rfl
    · intro g hg hnone
      exact hothers g hg ((hnotMem g).mpr hnone)
  · rintro ⟨hnamed, hkey, hlink, hothers⟩
    constructor
    · intro repo hrepo
      obtain ⟨config, hconfig, rfl⟩ := mem_repositories.mp hrepo
      obtain ⟨hname, htitle⟩ := hnamed _ config hconfig
      exact ⟨hname, htitle, hkey _ config hconfig, fun _ => hlink _ config hconfig,
        fun hnone => absurd hnone (baseurl_fromConfig config)⟩
    · intro g hg hid
      exact hothers g hg ((hnotMem g).mp hid)

/-- One file of a run. -/
theorem holds_unparse_iff {configs : List RepoConfig} {data : KeyData} (hdata : Loadable data)
    (path : String) :
    (∃ out, parse ⟨path, unparse (repositories mirrors configs) data⟩ = .ok out ∧
        ∀ id config, configFor configs id = some config →
          out.find id = some { fromConfig mirrors config with source := path }) ↔
      Overwritable mirrors configs data := by
  rw [← savesExactly_iff, ← unparse_parse_iff (repositories mirrors configs) path hdata,
    RestoresSaved, and_iff_left fun g hg => otherGroups_unparse hg]
  refine exists_congr fun out => and_congr_right fun _ => ?_
  constructor
  · intro h repo hrepo
    obtain ⟨config, hconfig, rfl⟩ := mem_repositories.mp hrepo
    exact h _ config hconfig
  · intro h id config hconfig
    obtain rfl := id_of_configFor hconfig
    exact h _ (mem_repositories.mpr ⟨config, hconfig, rfl⟩)

theorem loadable_keyFile {w : RepoWorld} (hw : ∀ p data, w.content p = some data → Loadable data)
    (p : RepoPath) : Loadable (w.keyFile p).data := by
  unfold RepoWorld.keyFile
  cases hp : w.content p with
  | none =>
    intro g hg
    cases hg
  | some data => exact hw p data hp

theorem holdsAssembled_generated_iff (h : conffiles.Separate) {w : RepoWorld}
    (hw : ∀ filename ∈ conffiles.filesnames, Loadable (w.keyFile (generatedPath filename)).data) :
    HoldsAssembled mirrors conffiles (generated mirrors conffiles w) ↔
      ∀ filename ∈ conffiles.filesnames,
        Overwritable mirrors (conffiles.configs filename)
          (w.keyFile (generatedPath filename)).data := by
  obtain ⟨-, -, -, hcontent, -⟩ := generate_spec mirrors h w
  refine forall₂_congr fun filename hfilename => ?_
  rw [← holds_unparse_iff (hw filename hfilename) (generatedPath filename).text,
    keyFile_generated h w hfilename]
  constructor
  · rintro ⟨⟨out, hout⟩, hdisk⟩
    refine ⟨out, hout, fun id config hconfig => ?_⟩
    rw [← RepoWorld.onDisk_eq_find (hcontent filename hfilename) hout]
    exact hdisk id config hconfig
  · rintro ⟨out, hout, hfind⟩
    refine ⟨⟨out, hout⟩, fun id config hconfig => ?_⟩
    rw [RepoWorld.onDisk_eq_find (hcontent filename hfilename) hout]
    exact hfind id config hconfig

/-- One run returns the number of the files and leaves every other file, and the manager, as they
were. The generated files read as the configurations are assembled exactly when what they held
before can be overwritten. -/
theorem generate_iff (mirrors : Mirrors) {conffiles : RepoConfFiles} (h : conffiles.Separate)
    {w : RepoWorld} (hw : ∀ p data, w.content p = some data → Loadable data) :
    ∃ w', generate mirrors conffiles basedir w = (.ok conffiles.filesnames.length, w') ∧
      w'.files = w.files ∧ w'.filesIdx = w.filesIdx ∧
      (∀ p, (∀ filename ∈ conffiles.filesnames, generatedPath filename ≠ p) →
        w'.content p = w.content p) ∧
      (HoldsAssembled mirrors conffiles w' ↔
        ∀ filename ∈ conffiles.filesnames,
          Overwritable mirrors (conffiles.configs filename)
            (w.keyFile (generatedPath filename)).data) := by
  obtain ⟨hrun, hfiles, hindex, -, hother⟩ := generate_spec mirrors h w
  exact ⟨_, hrun, hfiles, hindex, hother,
    holdsAssembled_generated_iff h fun filename _ => loadable_keyFile hw _⟩

/-! ## Many runs -/

/-- The state after one run for each of the mirrors. -/
def generations (conffiles : RepoConfFiles) (w : RepoWorld) (runs : List Mirrors) : RepoWorld :=
  runs.foldl (fun w mirrors => generated mirrors conffiles w) w

/-- What runs leave in a file that was not there before them. -/
structure LeftBy (runs : List Mirrors) (configs : List RepoConfig) (data : KeyData) : Prop where
  groups : ∀ g ∈ data.getGroups, isGroupName g = true ∧ ∃ config, configFor configs g = some config
  gpgkey : ∀ id config, configFor configs id = some config → isGroupName id = true →
    (data.lookup id "gpgkey" = none ↔ ∀ mirrors ∈ runs, (fromConfig mirrors config).gpgkey = none)
  metalink : ∀ id, data.lookup id "metalink" = none

theorem leftBy_empty (configs : List RepoConfig) : LeftBy [] configs KeyData.empty := by
  constructor
  · intro g hg
    cases hg
  · intro id config _ _
    simp
  · exact fun _ => rfl

/-- The step of a run: a key that is found is written, and none is taken away. -/
theorem LeftBy.unparse {runs : List Mirrors} {configs : List RepoConfig} {data : KeyData}
    (h : LeftBy runs configs data) (mirrors : Mirrors) :
    LeftBy (runs ++ [mirrors]) configs (unparse (repositories mirrors configs) data) := by
  have hentries : ∀ config,
      KeyData.assigned (repoEntries (fromConfig mirrors config)) "gpgkey" =
          (fromConfig mirrors config).gpgkey ∧
        KeyData.assigned (repoEntries (fromConfig mirrors config)) "metalink" = none := by
    intro config
    have hlink : (fromConfig mirrors config).metalink = none := rfl
    simp [repoEntries, KeyData.assigned, hlink]
  have hlookup : ∀ config, configFor configs config.repoId.id = some config →
      isGroupName config.repoId.id = true → ∀ key,
        (RPMRepositoryParser.unparse (repositories mirrors configs) data).lookup config.repoId.id
            key =
          (KeyData.assigned (repoEntries (fromConfig mirrors config)) key).or
            (data.lookup config.repoId.id key) := by
    intro config hconfig hname
    exact lookup_unparse_of_mem (mem_repositories.mpr ⟨config, hconfig, rfl⟩) hname
  constructor
  · intro g hg
    rcases hasGroup_unparse.mp (KeyData.hasGroup_iff_mem.mpr hg) with ⟨hid, hname⟩ | hold
    · exact ⟨hname, mem_ids_repositories.mp hid⟩
    · exact h.groups g (KeyData.hasGroup_iff_mem.mp hold)
  · intro id config hconfig hname
    obtain rfl := id_of_configFor hconfig
    rw [hlookup config hconfig hname, (hentries config).1, Option.or_eq_none_iff,
      h.gpgkey _ config hconfig hname, List.forall_mem_append, List.forall_mem_singleton,
      and_comm]
  · intro id
    by_cases hid : id ∈ (repositories mirrors configs).ids
    · by_cases hname : isGroupName id = true
      · obtain ⟨config, hconfig⟩ := mem_ids_repositories.mp hid
        obtain rfl := id_of_configFor hconfig
        rw [hlookup config hconfig hname, (hentries config).2, Option.none_or, h.metalink]
      · -- A group with such a name is not written, and there was none.
        have hmissing :
            (RPMRepositoryParser.unparse (repositories mirrors configs) data).hasGroup id ≠
              true := by
          rw [Ne, hasGroup_unparse]
          rintro (⟨-, hname'⟩ | hold)
          · exact hname hname'
          · exact hname (h.groups id (KeyData.hasGroup_iff_mem.mp hold)).1
        exact KeyData.lookup_eq_none (by simpa using hmissing) "metalink"
    · rw [lookup_unparse_of_not_mem hid, h.metalink]

theorem leftBy_generations (h : conffiles.Separate) {w : RepoWorld}
    (hfresh : ∀ filename ∈ conffiles.filesnames, w.content (generatedPath filename) = none)
    (runs : List Mirrors) :
    ∀ filename ∈ conffiles.filesnames,
      LeftBy runs (conffiles.configs filename)
        ((generations conffiles w runs).keyFile (generatedPath filename)).data := by
  induction runs using List.reverseRecOn with
  | nil =>
    intro filename hfilename
    have hempty : (w.keyFile (generatedPath filename)).data = KeyData.empty := by
      rw [RepoWorld.keyFile, hfresh filename hfilename, Option.getD_none]
    rw [generations, List.foldl_nil, hempty]
    exact leftBy_empty _
  | append_singleton runs mirrors ih =>
    intro filename hfilename
    rw [generations, List.foldl_append, List.foldl_cons, List.foldl_nil]
    rw [keyFile_generated h _ hfilename]
    exact (ih filename hfilename).unparse mirrors

theorem overwritable_iff {runs : List Mirrors} {configs : List RepoConfig} {data : KeyData}
    (h : LeftBy runs configs data) :
    Overwritable mirrors configs data ↔
      ∀ id config, configFor configs id = some config →
        isGroupName id = true ∧ config.repoId.name ≠ "" ∧
          ((fromConfig mirrors config).gpgkey = none →
            ∀ earlier ∈ runs, (fromConfig earlier config).gpgkey = none) := by
  constructor
  · intro ho id config hconfig
    obtain ⟨hname, htitle⟩ := ho.named id config hconfig
    refine ⟨hname, htitle, fun hnone => ?_⟩
    exact (h.gpgkey id config hconfig hname).mp (ho.gpgkey id config hconfig hnone)
  · intro hall
    constructor
    · intro id config hconfig
      obtain ⟨hname, htitle, -⟩ := hall id config hconfig
      exact ⟨hname, htitle⟩
    · intro id config hconfig hnone
      obtain ⟨hname, -, hearlier⟩ := hall id config hconfig
      exact (h.gpgkey id config hconfig hname).mpr (hearlier hnone)
    · exact fun id _ _ => h.metalink id
    · intro g hg hnone
      obtain ⟨-, config, hconfig⟩ := h.groups g hg
      rw [hnone] at hconfig
      cases hconfig

/-- After any number of runs over files that were not there before, the files read as the last run
has assembled them exactly when the configurations are fit for groups with names, and no
repository has lost a key that an earlier run had found. -/
theorem generations_hold_iff {conffiles : RepoConfFiles} (h : conffiles.Separate) {w : RepoWorld}
    (hfresh : ∀ filename ∈ conffiles.filesnames, w.content (generatedPath filename) = none)
    (earlier : List Mirrors) (last : Mirrors) :
    HoldsAssembled last conffiles (generations conffiles w (earlier ++ [last])) ↔
      ∀ filename ∈ conffiles.filesnames, ∀ id config,
        configFor (conffiles.configs filename) id = some config →
          isGroupName id = true ∧ config.repoId.name ≠ "" ∧
            ((fromConfig last config).gpgkey = none →
              ∀ mirrors ∈ earlier, (fromConfig mirrors config).gpgkey = none) := by
  have hleft := leftBy_generations h hfresh earlier
  have hrun : generations conffiles w (earlier ++ [last]) =
      generated last conffiles (generations conffiles w earlier) := by
    rw [generations, List.foldl_append]
    rfl
  rw [hrun, holdsAssembled_generated_iff h fun filename hfilename g hg =>
    ((hleft filename hfilename).groups g hg).1]
  exact forall₂_congr fun filename hfilename => overwritable_iff (hleft filename hfilename)

/-- Grafana has a key upstream, and none on the mirror. -/
def grafana : RepoConfig where
  repoId := ⟨"grafana", "grafana", "grafana.repo"⟩
  mirror := ⟨"grafana/", none⟩
  upstream := ⟨"https://rpm.grafana.com/", some "https://rpm.grafana.com/gpg.key"⟩

def grafanaOnly : RepoConfFiles := ⟨.empty, RepoConfFile.empty.insert "grafana.repo" grafana⟩

/-- Everything can be reached. -/
def reachable (enableMirrors : Bool) : Mirrors where
  opts := ⟨enableMirrors, "https://mirror.example.com", "latest-stable", "latest", "latest-lts"⟩
  mirror := ⟨fun _ => true, fun _ => true⟩
  upstream := ⟨fun _ => true, fun _ => true⟩

theorem separate_grafanaOnly : grafanaOnly.Separate := ⟨by decide, by decide⟩

/-- What an earlier run left for the mirror, next to the repository of a user. -/
def grafanaDisk : List (RepoPath × KeyData) :=
  [(generatedPath "grafana.repo",
    { groups := [
        ("grafana", [("name", "grafana"), ("enabled", "true"), ("gpgcheck", "false"),
          ("baseurl", "https://mirror.example.com/grafana/")]),
        ("grafana-beta", [("name", "Grafana Beta"),
          ("baseurl", "https://rpm-beta.grafana.com/")])]
      nodup := by decide })]

theorem loadable_grafanaDisk :
    ∀ p data, (unloaded grafanaDisk).content p = some data → Loadable data := by
  intro p data hdata g hg
  obtain h := List.mem_singleton.mp (Assoc.mem_of_get hdata)
  obtain rfl : _ = data := (congrArg Prod.snd h).symm
  rcases List.mem_pair.mp hg with rfl | rfl
  · decide
  · decide

/-- A run over the file of an earlier one holds what it assembles. -/
theorem generate_grafana :
    ∃ w', generate (reachable false) grafanaOnly basedir (unloaded grafanaDisk) = (.ok 1, w') ∧
      HoldsAssembled (reachable false) grafanaOnly w' := by
  obtain ⟨w', hrun, -, -, -, hholds⟩ :=
    generate_iff (reachable false) separate_grafanaOnly loadable_grafanaDisk
  refine ⟨w', hrun, hholds.mpr fun filename hfilename => ?_⟩
  have hnames : grafanaOnly.filesnames = ["grafana.repo"] := by decide
  have hconfigs : grafanaOnly.configs "grafana.repo" = [grafana] := by decide
  obtain rfl := List.mem_singleton.mp (hnames ▸ hfilename)
  rw [hconfigs]
  have hgrafana : ∀ id config, configFor [grafana] id = some config →
      id = "grafana" ∧ config = grafana := by
    intro id config hconfig
    obtain rfl := List.mem_singleton.mp (List.mem_of_find?_eq_some hconfig)
    exact ⟨(id_of_configFor hconfig).symm, rfl⟩
  constructor
  · intro id config hconfig
    obtain ⟨rfl, rfl⟩ := hgrafana id config hconfig
    decide
  · intro id config hconfig hnone
    obtain ⟨rfl, rfl⟩ := hgrafana id config hconfig
    exact absurd hnone (by decide)
  · intro id config hconfig
    obtain ⟨rfl, rfl⟩ := hgrafana id config hconfig
    decide
  · intro g hg hnone
    rcases List.mem_pair.mp hg with rfl | rfl
    · exact absurd hnone (by decide)
    · refine ⟨⟨"Grafana Beta", rfl, by decide⟩, ?_⟩
      -- The switches of the user's repository are left to their defaults.
      intro key hkey raw hraw
      rcases List.mem_pair.mp hkey with rfl | rfl
      · cases hraw
      · cases hraw

/-- The key that was found upstream stays when the mirror is used, which has none. -/
theorem generations_hold_grafana :
    ¬ HoldsAssembled (reachable true) grafanaOnly
      (generations grafanaOnly (unloaded []) [reachable false, reachable true]) := by
  intro h
  have hall := (generations_hold_iff separate_grafanaOnly (w := unloaded []) (fun _ _ => rfl)
    [reachable false] (reachable true)).mp h
  obtain ⟨-, -, hkeys⟩ := hall "grafana.repo" (by decide) "grafana" grafana
    (by decide)
  exact absurd (hkeys (by decide) _ List.mem_cons_self) (by decide)

end RepoGenerator

end OpenCattus
