import OpenCattus.Repositories.RepositoryFile
import OpenCattus.OperatingSystem

/-!
# The repository manager

`RPMRepoManager` reads `.repo` files into memory and keeps an index from repository ids to
the file objects. Switching a repository changes the object that the index names and saves
this object over its file.

`Coherent` is the invariant of the manager and its disk. `coherent_install` and
`coherent_loadDir` keep it; `enableAll_spec` says what switching a list of repositories
does to the disk.
-/

namespace OpenCattus

open Foundations Foundations.Text Foundations.Program RPMRepositoryParser

/-! ## The disk and the manager -/

structure RepoPath where
  directory : String
  filename : String
  deriving DecidableEq, Repr

def RepoPath.text (p : RepoPath) : String := p.directory ++ p.filename

/-- `RPMRepositoryFile`: a file of `basedir` as it was read, with the switches since. -/
structure RPMRepositoryFile where
  path : RepoPath
  repos : RepoMap
  deriving DecidableEq

/-- The files on the disk, the file objects in the order of their creation, and
`m_filesIdx`, which maps an id to the number of an object. -/
@[ext]
structure RepoWorld where
  disk : List (RepoPath × KeyData)
  files : List RPMRepositoryFile := []
  filesIdx : List (String × Nat) := []
  deriving DecidableEq

/-- The order in which a container of the library lists its elements. -/
structure Order (α : Type) where
  arrange : List α → List α
  perm : ∀ l, (arrange l).Perm l

namespace RPMRepoManager

def basedir : String := "/etc/yum.repos.d/"

end RPMRepoManager

/-- `RPMRepository::enabled(bool)`. -/
def RPMRepository.withEnabled (repo : RPMRepository) (value : Bool) : RPMRepository :=
  { repo with enabled := value }

/-- Override the switches of the repositories for which `switch` has a value. -/
def RepoMap.override (switch : String → Option Bool) (m : RepoMap) : RepoMap where
  repos := m.repos.map fun repo => repo.withEnabled ((switch repo.id).getD repo.enabled)
  nodup := by simpa [Function.comp_def, RPMRepository.withEnabled] using m.nodup

def RPMRepositoryFile.override (switch : String → Option Bool) (f : RPMRepositoryFile) :
    RPMRepositoryFile :=
  { f with repos := f.repos.override switch }

/-- `repo(id)->enabled(value)` of a file object. -/
def RPMRepositoryFile.setEnabled (id : String) (value : Bool) (f : RPMRepositoryFile) :
    RPMRepositoryFile :=
  f.override fun i => if i = id then some value else none

namespace RepoWorld

def content (w : RepoWorld) (p : RepoPath) : Option KeyData := Assoc.get p w.disk

def write (w : RepoWorld) (p : RepoPath) (data : KeyData) : RepoWorld :=
  { w with disk := Assoc.set p data w.disk }

/-- `KeyFile(path)`: empty when there is no such file. -/
def keyFile (w : RepoWorld) (p : RepoPath) : KeyFile := ⟨p.text, (w.content p).getD .empty⟩

/-- `std::filesystem::directory_iterator`, up to its order. -/
def listing (w : RepoWorld) (directory : String) : List RepoPath :=
  (w.disk.map Prod.fst).filter (·.directory = directory)

/-- A new file object; the ids that the index does not know yet get to name it. -/
def addFile (w : RepoWorld) (f : RPMRepositoryFile) : RepoWorld :=
  { w with
    files := w.files ++ [f]
    filesIdx := f.repos.ids.foldl (fun idx id => Assoc.emplace id w.files.length idx) w.filesIdx }

/-- `m_filesIdx.at(id)` and then `repo(id)` of the object; `none` when one of them throws. -/
def locate (w : RepoWorld) (id : String) : Option Nat :=
  (Assoc.get id w.filesIdx).filter fun n => (w.files[n]?).any fun f => (f.repos.find id).isSome

def switchFile (w : RepoWorld) (n : Nat) (id : String) (value : Bool) : RepoWorld :=
  { w with files := w.files.modify n (RPMRepositoryFile.setEnabled id value) }

/-- `RPMRepositoryFile::save` of the object with the number `n`. -/
def saveFile (w : RepoWorld) (n : Nat) : RepoWorld :=
  match w.files[n]? with
  | none => w
  | some f => w.write f.path (unparse f.repos (w.keyFile f.path).data)

end RepoWorld

/-! ## The operations -/

namespace RPMRepoManager

abbrev Action : Type := Program RepoWorld Exception Unit

/-- `functions::copyFile`. A file that is there already is not replaced. -/
def copyFile (dryRun : Bool) (source destination : RepoPath) : Action :=
  if dryRun then pure ()
  else do
    let w ← read
    match w.content source, w.content destination with
    | none, _ => raise ⟨.systemError, "filesystem error: cannot copy: No such file or directory"⟩
    | some _, some _ => pure ()
    | some data, none => update (·.write destination data)

/-- A source that lies outside `basedir` is copied there. -/
def copySource (dryRun : Bool) (source dest : RepoPath) : Action :=
  if source ≠ dest then copyFile dryRun source dest else pure ()

/-- `RPMRepositoryFile(dest)`, entered in the index. -/
def loadFile (dryRun : Bool) (dest : RepoPath) : Action :=
  if dryRun then pure ()
  else do
    let w ← read
    let repos ← Program.ofExcept (parse (w.keyFile dest))
    update (·.addFile ⟨dest, repos⟩)

/-- `install` of one file. -/
def install (dryRun : Bool) (source : RepoPath) : Action := do
  let dest : RepoPath := ⟨basedir, source.filename⟩
  copySource dryRun source dest
  loadFile dryRun dest

/-- An entry that a directory iterator lists. -/
def installEntry (dryRun : Bool) (p : RepoPath) : Action :=
  if endsWith p.filename ".repo" then install dryRun p else pure ()

/-- `install` of a directory. -/
def installAll (dryRun : Bool) : List RepoPath → Action
  | [] => pure ()
  | p :: ps => do
    installEntry dryRun p
    installAll dryRun ps

def loadDir (dryRun : Bool) (directory : String) (order : Order RepoPath) : Action :=
  if dryRun then pure ()
  else do
    let w ← read
    installAll dryRun (order.arrange (w.listing directory))

/-- `enable` of one repository. -/
def enable (id : String) (value : Bool) : Action := do
  let w ← read
  match w.locate id with
  | none => raise ⟨.outOfRange, "map::at"⟩
  | some n => do
    update (·.switchFile n id value)
    update (·.saveFile n)

def unknownRepository (id : String) : Exception :=
  ⟨.runtimeError, "Trying to enable unknown repository " ++ id ++
    ", failed because the repository was not found."⟩

/-- The first loop of `enable` for a list: switch, and collect the objects to save. -/
def switchAll (value : Bool) : List String → List Nat → Program RepoWorld Exception (List Nat)
  | [], toSave => pure toSave
  | id :: ids, toSave => do
    let w ← read
    match w.locate id with
    | none => raise (unknownRepository id)
    | some n => do
      update (·.switchFile n id value)
      switchAll value ids (if n ∈ toSave then toSave else toSave ++ [n])

/-- `enable` of a list of repositories. The set of objects is saved in any order. -/
def enableAll (ids : List String) (value : Bool) (order : Order Nat) : Action := do
  let toSave ← switchAll value ids []
  update fun w => (order.arrange toSave).foldl RepoWorld.saveFile w

end RPMRepoManager

namespace RepoManager

open RPMRepoManager

/-- The handler of both `disable` functions. Only the log tells of the error. -/
def logOutOfRange (e : Exception) : Option Action :=
  if e.kind = .outOfRange then some (pure ()) else none

/-- The branch on the package type of the head node. -/
def forRPM (packageType : OS.PackageType) (action : Action) : Action :=
  match packageType with
  | .RPM => action
  | .DEB => raise ⟨.logicError, "Not implemented"⟩

/-- `disable` of one repository. -/
def disable (dryRun : Bool) (packageType : OS.PackageType) (repoid : String) : Action :=
  if dryRun then pure ()
  else rescue (forRPM packageType (enable repoid false)) logOutOfRange

/-- `disable` of a list of repositories. -/
def disableAll (dryRun : Bool) (packageType : OS.PackageType) (repos : List String)
    (order : Order Nat) : Action :=
  if dryRun then pure ()
  else rescue (forRPM packageType (enableAll repos false order)) logOutOfRange

/-- A switch that is left out for an empty list. -/
def switchUnlessEmpty (ids : List String) (value : Bool) (order : Order Nat) : Action :=
  if ids.isEmpty then pure () else enableAll ids value order

def managedRepoIds (repositories : List (String × Bool)) : List String :=
  repositories.map Prod.fst

def enabledRepoIds (repositories : List (String × Bool)) : List String :=
  (repositories.filter Prod.snd).map Prod.fst

/-- The RPM branch of `initializeDefaultRepositories` from the generated files to the last switch:
the ids of the default repositories come with their switch. -/
def initializeDefaultRepositories (repositories : List (String × Bool)) (listing : Order RepoPath)
    (order order' : Order Nat) : Action := do
  loadDir false basedir listing
  switchUnlessEmpty (managedRepoIds repositories) false order
  switchUnlessEmpty (enabledRepoIds repositories) true order'

end RepoManager

/-! ## Lemmas on maps and on the disk -/

namespace RepoMap

@[simp] theorem ids_override (switch : String → Option Bool) (m : RepoMap) :
    (m.override switch).ids = m.ids := by
  simp [ids, override, Function.comp_def, RPMRepository.withEnabled]

theorem find_override (switch : String → Option Bool) (m : RepoMap) (id : String) :
    (m.override switch).find id =
      (m.find id).map fun repo => repo.withEnabled ((switch id).getD repo.enabled) := by
  have hsearch : (m.override switch).find id =
      (m.find id).map fun repo => repo.withEnabled ((switch repo.id).getD repo.enabled) :=
    List.find?_map ..
  rw [hsearch]
  cases hfind : m.find id with
  | none => rfl
  | some repo =>
    obtain ⟨-, hid⟩ := find_eq_some.mp hfind
    rw [Option.map_some, Option.map_some, hid]

theorem override_override (s t : String → Option Bool) (m : RepoMap) :
    (m.override t).override s = m.override fun id => (s id).or (t id) := by
  apply RepoMap.ext
  simp only [override, List.map_map]
  refine List.map_congr_left ?_
  intro repo _
  cases hs : s repo.id <;> simp [hs, RPMRepository.withEnabled]

theorem override_none (m : RepoMap) : m.override (fun _ => none) = m := by
  apply RepoMap.ext
  simp [override, RPMRepository.withEnabled]

theorem override_congr {s t : String → Option Bool} {m : RepoMap}
    (h : ∀ id ∈ m.ids, s id = t id) : m.override s = m.override t := by
  apply RepoMap.ext
  refine List.map_congr_left ?_
  intro repo hrepo
  rw [h repo.id (List.mem_map_of_mem hrepo)]

end RepoMap

namespace RPMRepositoryFile

@[simp] theorem path_override (switch : String → Option Bool) (f : RPMRepositoryFile) :
    (f.override switch).path = f.path := rfl

@[simp] theorem repos_override (switch : String → Option Bool) (f : RPMRepositoryFile) :
    (f.override switch).repos = f.repos.override switch := rfl

theorem override_none (f : RPMRepositoryFile) : f.override (fun _ => none) = f := by
  simp [override, RepoMap.override_none]

theorem override_override (s t : String → Option Bool) (f : RPMRepositoryFile) :
    (f.override t).override s = f.override fun id => (s id).or (t id) := by
  simp [override, RepoMap.override_override]

end RPMRepositoryFile

namespace RepoWorld

theorem content_write (w : RepoWorld) (p p' : RepoPath) (data : KeyData) :
    (w.write p data).content p' = if p = p' then some data else w.content p' :=
  Assoc.get_set ..

@[simp] theorem files_write (w : RepoWorld) (p : RepoPath) (data : KeyData) :
    (w.write p data).files = w.files := rfl

@[simp] theorem filesIdx_write (w : RepoWorld) (p : RepoPath) (data : KeyData) :
    (w.write p data).filesIdx = w.filesIdx := rfl

@[simp] theorem content_addFile (w : RepoWorld) (f : RPMRepositoryFile) (p : RepoPath) :
    (w.addFile f).content p = w.content p := rfl

@[simp] theorem content_switchFile (w : RepoWorld) (n : Nat) (id : String) (value : Bool)
    (p : RepoPath) : (w.switchFile n id value).content p = w.content p := rfl

@[simp] theorem filesIdx_switchFile (w : RepoWorld) (n : Nat) (id : String) (value : Bool) :
    (w.switchFile n id value).filesIdx = w.filesIdx := rfl

theorem get_foldl_emplace (ids : List String) (n : Nat) (idx : List (String × Nat)) (id : String) :
    Assoc.get id (ids.foldl (fun idx id => Assoc.emplace id n idx) idx) =
      (Assoc.get id idx).or (if id ∈ ids then some n else none) := by
  induction ids generalizing idx with
  | nil => simp
  | cons a ids ih =>
    rw [List.foldl_cons, ih, Assoc.get_emplace, Option.or_assoc]
    congr 1
    by_cases ha : a = id
    · simp [ha]
    · by_cases hid : id ∈ ids <;> simp [ha, hid, Ne.symm ha]

/-! ## The invariant -/

/-- The path of the file that was loaded first among those that define `id`. -/
def home (w : RepoWorld) (id : String) : Option RepoPath :=
  (w.files.find? (id ∈ ·.repos.ids)).map (·.path)

/-- What the index and the objects say about the disk: the index names the object loaded
first, an object has the groups of its file, and an object that the index names holds what
its file says. -/
structure Coherent (w : RepoWorld) : Prop where
  index : ∀ id, Assoc.get id w.filesIdx = w.files.findIdx? (id ∈ ·.repos.ids)
  groups : ∀ f ∈ w.files, f.repos.ids = [] ∨ f.repos.ids = (w.keyFile f.path).data.getGroups
  synced : ∀ id n f, Assoc.get id w.filesIdx = some n → w.files[n]? = some f →
    ∃ data, w.content f.path = some data ∧ parse ⟨f.path.text, data⟩ = .ok f.repos
  loadable : ∀ p data, w.content p = some data → Loadable data

/-- The object that the index names under an id. -/
theorem Coherent.indexed {w : RepoWorld} (hw : w.Coherent) {id : String} {n : Nat}
    (h : Assoc.get id w.filesIdx = some n) :
    ∃ f, w.files[n]? = some f ∧ id ∈ f.repos.ids ∧ w.home id = some f.path ∧
      ∀ m f', m < n → w.files[m]? = some f' → id ∉ f'.repos.ids := by
  have hfind := hw.index id ▸ h
  obtain ⟨hlt, hmem, hbefore⟩ := List.findIdx?_eq_some_iff_getElem.mp hfind
  refine ⟨w.files[n], List.getElem?_eq_getElem hlt, by simpa using hmem, ?_, ?_⟩
  · rw [home, List.find?_eq_bind_findIdx?_getElem?, hfind]
    simp [List.getElem?_eq_getElem hlt]
  · intro m f' hm hf'
    obtain ⟨hlt', rfl⟩ := List.getElem?_eq_some_iff.mp hf'
    simpa using hbefore m hm

theorem Coherent.locate_eq {w : RepoWorld} (hw : w.Coherent) (id : String) :
    w.locate id = Assoc.get id w.filesIdx := by
  unfold locate
  cases h : Assoc.get id w.filesIdx with
  | none => rfl
  | some n =>
    obtain ⟨f, hf, hmem, -⟩ := hw.indexed h
    have hsome : (f.repos.find id).isSome = true := RepoMap.find_isSome.mpr hmem
    simp [hf, hsome]

theorem Coherent.home_eq_none {w : RepoWorld} (hw : w.Coherent) {id : String} :
    w.home id = none ↔ Assoc.get id w.filesIdx = none := by
  rw [hw.index, home, Option.map_eq_none_iff, List.find?_eq_none, List.findIdx?_eq_none_iff]
  simp

/-- Two objects of one file are not both named by the index. -/
theorem Coherent.path_inj {w : RepoWorld} (hw : w.Coherent) {id id' : String} {n n' : Nat}
    {f f' : RPMRepositoryFile} (hn : Assoc.get id w.filesIdx = some n)
    (hn' : Assoc.get id' w.filesIdx = some n') (hf : w.files[n]? = some f)
    (hf' : w.files[n']? = some f') (hpath : f.path = f'.path) : n = n' := by
  have hsame : ∀ {i n g}, Assoc.get i w.filesIdx = some n → w.files[n]? = some g →
      g.repos.ids = (w.keyFile g.path).data.getGroups := by
    intro i n g hi hg
    obtain ⟨g', hg', hmem, -⟩ := hw.indexed hi
    obtain rfl := Option.some.inj (hg.symm.trans hg')
    rcases hw.groups g (List.mem_of_getElem? hg) with hempty | hgroups
    · rw [hempty] at hmem
      cases hmem
    · exact hgroups
  have hids : f.repos.ids = f'.repos.ids := by rw [hsame hn hf, hsame hn' hf', hpath]
  obtain ⟨g, hg, hmem, -, hbefore⟩ := hw.indexed hn
  obtain ⟨g', hg', hmem', -, hbefore'⟩ := hw.indexed hn'
  obtain rfl := Option.some.inj (hf.symm.trans hg)
  obtain rfl := Option.some.inj (hf'.symm.trans hg')
  rcases Nat.lt_trichotomy n n' with hlt | heq | hlt
  · exact absurd (hids ▸ hmem') (hbefore' n f hlt hf)
  · exact heq
  · exact absurd (hids ▸ hmem) (hbefore n' f' hlt hf')

/-! ## Loading files -/

/-- Loading adds files and objects and changes none that are there. -/
structure Extends (w w' : RepoWorld) : Prop where
  coherent : w'.Coherent
  content : ∀ p data, w.content p = some data → w'.content p = some data
  home : ∀ id p, w.home id = some p → w'.home id = some p

theorem Extends.refl {w : RepoWorld} (hw : w.Coherent) : Extends w w :=
  ⟨hw, fun _ _ h => h, fun _ _ h => h⟩

theorem Extends.trans {w₁ w₂ w₃ : RepoWorld} (h : Extends w₁ w₂) (h' : Extends w₂ w₃) :
    Extends w₁ w₃ :=
  ⟨h'.coherent, fun p data hp => h'.content p data (h.content p data hp),
    fun id p hp => h'.home id p (h.home id p hp)⟩

theorem keyFile_eq_of_content {w w' : RepoWorld} {p : RepoPath} (h : w'.content p = w.content p) :
    w'.keyFile p = w.keyFile p := by
  unfold keyFile
  rw [h]

/-- A file that was not there is copied to the disk. -/
theorem extends_write {w : RepoWorld} (hw : w.Coherent) {p : RepoPath} {data : KeyData}
    (habsent : w.content p = none) (hdata : Loadable data) : Extends w (w.write p data) := by
  have hother : ∀ {p'}, p ≠ p' → (w.write p data).content p' = w.content p' := by
    intro p' hne
    rw [content_write, if_neg hne]
  have hkept : ∀ p' old, w.content p' = some old → (w.write p data).content p' = some old := by
    intro p' old hold
    have hne : p ≠ p' := by
      rintro rfl
      rw [habsent] at hold
      cases hold
    rw [hother hne, hold]
  refine ⟨⟨hw.index, ?_, ?_, ?_⟩, hkept, fun _ _ h => h⟩
  · intro f hf
    by_cases hpath : p = f.path
    · left
      have hempty : (w.keyFile f.path).data.getGroups = [] := by
        rw [keyFile, ← hpath, habsent]
        rfl
      rcases hw.groups f hf with hids | hids
      · exact hids
      · rw [hids, hempty]
    · rw [keyFile_eq_of_content (hother hpath)]
      exact hw.groups f hf
  · intro id n f hid hf
    obtain ⟨old, hold, hparse⟩ := hw.synced id n f hid hf
    exact ⟨old, hkept f.path old hold, hparse⟩
  · intro p' data' hp'
    by_cases hpath : p = p'
    · rw [content_write, if_pos hpath] at hp'
      cases hp'
      exact hdata
    · rw [hother hpath] at hp'
      exact hw.loadable p' data' hp'

/-- A file of the disk is read into a new object. -/
theorem extends_addFile {w : RepoWorld} (hw : w.Coherent) {p : RepoPath} {repos : RepoMap}
    (hparse : parse (w.keyFile p) = .ok repos) : Extends w (w.addFile ⟨p, repos⟩) := by
  have hids : repos.ids = (w.keyFile p).data.getGroups := (parse_eq_ok.mp hparse).1
  have hindex : ∀ id, Assoc.get id (w.addFile ⟨p, repos⟩).filesIdx =
      (Assoc.get id w.filesIdx).or (if id ∈ repos.ids then some w.files.length else none) :=
    fun id => get_foldl_emplace ..
  refine ⟨⟨?_, ?_, ?_, hw.loadable⟩, fun _ _ h => h, ?_⟩
  · intro id
    have hfiles : (w.addFile ⟨p, repos⟩).files = w.files ++ [⟨p, repos⟩] := rfl
    rw [hindex, hw.index, hfiles, List.findIdx?_append]
    congr 1
    by_cases hid : id ∈ repos.ids <;> simp [List.findIdx?_cons, hid]
  · intro f hf
    rcases List.mem_append.mp hf with hf | hf
    · exact hw.groups f hf
    · obtain rfl := List.mem_singleton.mp hf
      exact .inr hids
  · intro id n f hid hf
    rw [hindex] at hid
    cases hold : Assoc.get id w.filesIdx with
    | some m =>
      rw [hold, Option.some_or] at hid
      cases hid
      obtain ⟨g, hg, -⟩ := hw.indexed hold
      have hlt := (List.getElem?_eq_some_iff.mp hg).1
      have hf' : w.files[n]? = some f := by
        rwa [addFile, List.getElem?_append_left hlt] at hf
      exact hw.synced id n f hold hf'
    | none =>
      rw [hold, Option.none_or] at hid
      split at hid
      · rename_i hmem
        cases hid
        have hf' : f = ⟨p, repos⟩ := by simpa [addFile, eq_comm] using hf
        subst hf'
        -- The file defines an id, so it is there.
        cases hcontent : w.content p with
        | none =>
          rw [hids, keyFile, hcontent] at hmem
          cases hmem
        | some data =>
          refine ⟨data, hcontent, ?_⟩
          rwa [keyFile, hcontent] at hparse
      · cases hid
  · intro id q hq
    have hfiles : (w.addFile ⟨p, repos⟩).files = w.files ++ [⟨p, repos⟩] := rfl
    unfold home at hq ⊢
    rw [hfiles, List.find?_append]
    cases hfind : w.files.find? (id ∈ ·.repos.ids) with
    | none =>
      rw [hfind] at hq
      cases hq
    | some f =>
      rw [hfind] at hq
      exact hq

end RepoWorld

namespace RPMRepoManager

open RepoWorld

variable {w₀ : RepoWorld} {dryRun : Bool}

theorem preserves_copyFile (source destination : RepoPath) :
    Preserves (copyFile dryRun source destination) (Extends w₀) := by
  unfold copyFile
  split
  · exact preserves_pure _
  · refine preserves_read_bind ?_
    intro w hw
    cases hsource : w.content source with
    | none => exact hw
    | some data =>
      cases hdestination : w.content destination with
      | some old => exact hw
      | none =>
        exact hw.trans (extends_write hw.coherent hdestination
          (hw.coherent.loadable source data hsource))

theorem preserves_install (source : RepoPath) : Preserves (install dryRun source) (Extends w₀) := by
  refine preserves_bind ?_ fun _ => ?_
  · unfold copySource
    split
    · exact preserves_copyFile _ _
    · exact preserves_pure _
  · unfold loadFile
    split
    · exact preserves_pure _
    · refine preserves_read_bind ?_
      intro w hw
      cases hparse : parse (w.keyFile ⟨basedir, source.filename⟩) with
      | error e => exact hw
      | ok repos => exact hw.trans (extends_addFile hw.coherent hparse)

theorem preserves_installAll (paths : List RepoPath) :
    Preserves (installAll dryRun paths) (Extends w₀) := by
  induction paths with
  | nil => exact preserves_pure _
  | cons p paths ih =>
    refine preserves_bind ?_ fun _ => ih
    unfold installEntry
    split
    · exact preserves_install p
    · exact preserves_pure _

theorem preserves_loadDir (directory : String) (order : Order RepoPath) :
    Preserves (loadDir dryRun directory order) (Extends w₀) := by
  unfold loadDir
  split
  · exact preserves_pure _
  · exact preserves_bind preserves_read fun _ => preserves_installAll _

end RPMRepoManager

/-! ## Switching in memory -/

/-- A file that was read and whose repositories were switched in memory is saved so that it
reads as the memory does. -/
theorem parse_unparse_override {path : String} {data : KeyData} {m : RepoMap}
    (hparse : parse ⟨path, data⟩ = .ok m) (hdata : Loadable data) (switch : String → Option Bool) :
    parse ⟨path, unparse (m.override switch) data⟩ = .ok (m.override switch) ∧
      (unparse (m.override switch) data).getGroups = data.getGroups := by
  obtain ⟨hids, hparsed⟩ := parse_eq_ok.mp hparse
  have hgroups : (unparse (m.override switch) data).getGroups = data.getGroups := by
    apply getGroups_unparse
    intro id hid
    rw [RepoMap.ids_override, hids] at hid
    exact KeyData.hasGroup_iff_mem.mpr hid
  refine ⟨parse_eq_ok.mpr ⟨?_, ?_⟩, hgroups⟩
  · rw [RepoMap.ids_override, hids, hgroups]
  · intro repo hrepo
    obtain ⟨old, hold, rfl⟩ := List.mem_map.mp hrepo
    obtain ⟨-, hsource, -, hne, hmetalink, hbaseurl, hgpgkey, -⟩ :=
      parseGroup_eq_ok.mp (hparsed old hold)
    have hname : isGroupName old.id = true := by
      refine hdata _ ?_
      rw [← hids]
      exact List.mem_map_of_mem hold
    have hoverwrites : Overwrites data (old.withEnabled ((switch old.id).getD old.enabled)) :=
      ⟨fun h => hgpgkey ▸ h, fun h => hmetalink ▸ h, fun h => hbaseurl ▸ h⟩
    have hself : { old.withEnabled ((switch old.id).getD old.enabled) with source := path } =
        old.withEnabled ((switch old.id).getD old.enabled) := by
      rw [← show old.source = path from hsource]
      rfl
    rw [← hself]
    exact (parseGroup_unparse_iff hrepo hname).mpr ⟨hne, hoverwrites⟩

namespace RepoWorld

/-- The switches that a call for `ids` makes in the object with the number `n`. -/
def pending (w : RepoWorld) (ids : List String) (value : Bool) (n : Nat) (id : String) :
    Option Bool :=
  if id ∈ ids ∧ w.locate id = some n then some value else none

/-- The memory after the ids have been switched one after the other. -/
def switchMany (w : RepoWorld) (value : Bool) : List String → RepoWorld
  | [] => w
  | id :: ids =>
    match w.locate id with
    | none => w.switchMany value ids
    | some n => (w.switchFile n id value).switchMany value ids

theorem getElem?_switchFile (w : RepoWorld) (n : Nat) (id : String) (value : Bool) (m : Nat) :
    (w.switchFile n id value).files[m]? =
      (w.files[m]?).map
        (RPMRepositoryFile.override fun i => if i = id ∧ n = m then some value else none) := by
  unfold switchFile
  rw [List.getElem?_modify]
  cases w.files[m]? with
  | none => rfl
  | some f =>
    by_cases h : n = m
    · simp [h, RPMRepositoryFile.setEnabled]
    · simp [h, RPMRepositoryFile.override_none]

theorem locate_switchFile (w : RepoWorld) (n : Nat) (id : String) (value : Bool) (i : String) :
    (w.switchFile n id value).locate i = w.locate i := by
  unfold locate
  rw [filesIdx_switchFile]
  cases Assoc.get i w.filesIdx with
  | none => rfl
  | some m =>
    simp only [Option.filter_some, getElem?_switchFile]
    cases w.files[m]? with
    | none => rfl
    | some f => simp [RepoMap.find_override]

theorem switchMany_spec (w : RepoWorld) (value : Bool) (ids : List String) :
    (∀ m : Nat, (w.switchMany value ids).files[m]? =
        (w.files[m]?).map (RPMRepositoryFile.override (w.pending ids value m))) ∧
      (w.switchMany value ids).filesIdx = w.filesIdx ∧
      (w.switchMany value ids).disk = w.disk := by
  induction ids generalizing w with
  | nil =>
    have hnone : ∀ m, w.pending [] value m = fun _ => none := by
      intro m
      funext id
      simp [pending]
    simp only [switchMany, hnone, and_self, and_true]
    intro m
    cases w.files[m]? with
    | none => rfl
    | some f => simp [RPMRepositoryFile.override_none]
  | cons id ids ih =>
    unfold switchMany
    cases hlocate : w.locate id with
    | none =>
      obtain ⟨hfiles, hidx, hdisk⟩ := ih w
      refine ⟨?_, hidx, hdisk⟩
      intro m
      have hpending : w.pending (id :: ids) value m = w.pending ids value m := by
        funext i
        unfold pending
        by_cases hi : i = id
        · simp [hi, hlocate]
        · simp [hi]
      rw [hpending]
      exact hfiles m
    | some n =>
      obtain ⟨hfiles, hidx, hdisk⟩ := ih (w.switchFile n id value)
      refine ⟨?_, hidx, hdisk⟩
      intro m
      have hpending : w.pending (id :: ids) value m = fun i =>
          ((w.switchFile n id value).pending ids value m i).or
            (if i = id ∧ n = m then some value else none) := by
        funext i
        unfold pending
        simp only [locate_switchFile, List.mem_cons]
        by_cases hi : i = id
        · subst hi
          by_cases hm : n = m <;> by_cases hids : i ∈ ids <;> simp [hlocate, hm, hids]
        · simp [hi]
      rw [hfiles m, getElem?_switchFile, Option.map_map, hpending]
      congr 1
      funext f
      exact RPMRepositoryFile.override_override ..

/-! ## Saving -/

@[simp] theorem files_saveFile (w : RepoWorld) (n : Nat) : (w.saveFile n).files = w.files := by
  unfold saveFile
  split <;> rfl

@[simp] theorem filesIdx_saveFile (w : RepoWorld) (n : Nat) :
    (w.saveFile n).filesIdx = w.filesIdx := by
  unfold saveFile
  split <;> rfl

theorem files_foldl_saveFile (ns : List Nat) (w : RepoWorld) :
    (ns.foldl saveFile w).files = w.files ∧ (ns.foldl saveFile w).filesIdx = w.filesIdx := by
  induction ns generalizing w with
  | nil => exact ⟨rfl, rfl⟩
  | cons n ns ih =>
    rw [List.foldl_cons, (ih _).1, (ih _).2]
    exact ⟨files_saveFile w n, filesIdx_saveFile w n⟩

theorem content_saveFile {w : RepoWorld} {n : Nat} {f : RPMRepositoryFile}
    (hf : w.files[n]? = some f) (p : RepoPath) :
    (w.saveFile n).content p =
      if f.path = p then some (unparse f.repos (w.keyFile f.path).data) else w.content p := by
  unfold saveFile
  rw [hf]
  exact content_write ..

/-- Saving objects of different files: each file gets its object, in whatever order. -/
theorem saveFiles_spec {w : RepoWorld} {ns : List Nat} (hnodup : ns.Nodup)
    (hfiles : ∀ n ∈ ns, ∃ f, w.files[n]? = some f)
    (hpaths : ∀ n ∈ ns, ∀ n' ∈ ns, ∀ f f', w.files[n]? = some f → w.files[n']? = some f' →
      f.path = f'.path → n = n') :
    (∀ n ∈ ns, ∀ f, w.files[n]? = some f →
        (ns.foldl saveFile w).content f.path =
          some (unparse f.repos (w.keyFile f.path).data)) ∧
      ∀ p, (∀ n ∈ ns, ∀ f, w.files[n]? = some f → f.path ≠ p) →
        (ns.foldl saveFile w).content p = w.content p := by
  induction ns generalizing w with
  | nil => simp
  | cons n ns ih =>
    obtain ⟨hn, hnodup⟩ := List.nodup_cons.mp hnodup
    obtain ⟨f, hf⟩ := hfiles n (List.mem_cons_self ..)
    have hsaved := content_saveFile hf
    -- The later objects lie elsewhere, so the file of this one stays as it was saved.
    have hlater : ∀ m ∈ ns, ∀ g, w.files[m]? = some g → g.path ≠ f.path := by
      intro m hm g hg hpath
      have heq := hpaths m (List.mem_cons_of_mem _ hm) n (List.mem_cons_self ..) g f hg hf hpath
      exact hn (heq ▸ hm)
    obtain ⟨ihcontent, ihother⟩ := ih (w := w.saveFile n) hnodup
      (by
        intro m hm
        rw [files_saveFile]
        exact hfiles m (List.mem_cons_of_mem _ hm))
      (by
        intro m hm m' hm'
        rw [files_saveFile]
        exact hpaths m (List.mem_cons_of_mem _ hm) m' (List.mem_cons_of_mem _ hm'))
    rw [files_saveFile] at ihcontent ihother
    rw [List.foldl_cons]
    refine ⟨?_, ?_⟩
    · intro m hm g hg
      rcases List.mem_cons.mp hm with rfl | hm
      · obtain rfl := Option.some.inj (hf.symm.trans hg)
        rw [ihother f.path hlater, hsaved, if_pos rfl]
      · have hne : f.path ≠ g.path := Ne.symm (hlater m hm g hg)
        have hkey : (w.saveFile n).keyFile g.path = w.keyFile g.path := by
          apply keyFile_eq_of_content
          rw [hsaved, if_neg hne]
        rw [ihcontent m hm g hg, hkey]
    · intro p hp
      obtain ⟨hfp, hrest⟩ := List.forall_mem_cons.mp hp
      rw [ihother p hrest, hsaved, if_neg (hfp f hf)]

end RepoWorld

/-! ## Switching a list of repositories -/

namespace RPMRepoManager

open RepoWorld

/-- The objects that the first loop collects. -/
def collect (w : RepoWorld) : List String → List Nat → List Nat
  | [], toSave => toSave
  | id :: ids, toSave =>
    match w.locate id with
    | none => collect w ids toSave
    | some n => collect w ids (if n ∈ toSave then toSave else toSave ++ [n])

theorem collect_congr {w w' : RepoWorld} (h : ∀ id, w'.locate id = w.locate id)
    (ids : List String) (toSave : List Nat) : collect w' ids toSave = collect w ids toSave := by
  induction ids generalizing toSave with
  | nil => rfl
  | cons id ids ih =>
    unfold collect
    rw [h id]
    split <;> exact ih _

theorem mem_collect {w : RepoWorld} {ids : List String} {toSave : List Nat} {n : Nat} :
    n ∈ collect w ids toSave ↔ n ∈ toSave ∨ ∃ id ∈ ids, w.locate id = some n := by
  induction ids generalizing toSave with
  | nil => simp [collect]
  | cons id ids ih =>
    unfold collect
    cases hlocate : w.locate id with
    | none => simp [ih, hlocate]
    | some m =>
      simp only [ih]
      have hinsert : n ∈ (if m ∈ toSave then toSave else toSave ++ [m]) ↔ n ∈ toSave ∨ n = m := by
        split
        · rename_i hm
          constructor
          · exact .inl
          · rintro (h | rfl)
            · exact h
            · exact hm
        · simp
      rw [hinsert]
      simp only [List.exists_mem_cons_iff, hlocate, Option.some.injEq, or_assoc, eq_comm]

theorem nodup_collect {w : RepoWorld} {ids : List String} {toSave : List Nat}
    (h : toSave.Nodup) : (collect w ids toSave).Nodup := by
  induction ids generalizing toSave with
  | nil => exact h
  | cons id ids ih =>
    unfold collect
    split
    · exact ih h
    · apply ih
      split
      · exact h
      · rename_i hn
        refine List.nodup_append.mpr ⟨h, by simp, ?_⟩
        intro a ha b hb hab
        obtain rfl := List.mem_singleton.mp hb
        exact hn (hab ▸ ha)

/-- The first loop when it knows every id. -/
theorem switchAll_of_known {w : RepoWorld} {value : Bool} {ids : List String}
    (hknown : ∀ id ∈ ids, (w.locate id).isSome = true) (toSave : List Nat) :
    switchAll value ids toSave w = (.ok (collect w ids toSave), w.switchMany value ids) := by
  induction ids generalizing w toSave with
  | nil => rfl
  | cons id ids ih =>
    obtain ⟨hid, hids⟩ := List.forall_mem_cons.mp hknown
    obtain ⟨n, hn⟩ := Option.isSome_iff_exists.mp hid
    have hlocate := locate_switchFile w n id value
    have hrest := ih (w := w.switchFile n id value)
      (by
        intro i hi
        rw [hlocate]
        exact hids i hi)
      (if n ∈ toSave then toSave else toSave ++ [n])
    rw [collect_congr hlocate] at hrest
    unfold switchAll collect switchMany
    rw [run_read_bind, hn]
    exact hrest

/-- The first loop when it meets an id that it does not know. -/
theorem switchAll_of_unknown {w : RepoWorld} {value : Bool} {before after : List String}
    {id : String} (hknown : ∀ i ∈ before, (w.locate i).isSome = true) (hid : w.locate id = none)
    (toSave : List Nat) :
    switchAll value (before ++ id :: after) toSave w =
      (.error (unknownRepository id), w.switchMany value before) := by
  induction before generalizing w toSave with
  | nil =>
    rw [List.nil_append]
    unfold switchAll
    rw [run_read_bind, hid]
    rfl
  | cons i before ih =>
    obtain ⟨hi, hrest⟩ := List.forall_mem_cons.mp hknown
    obtain ⟨n, hn⟩ := Option.isSome_iff_exists.mp hi
    have hlocate := locate_switchFile w n i value
    have htail := ih (w := w.switchFile n i value)
      (by
        intro j hj
        rw [hlocate]
        exact hrest j hj)
      ((hlocate id).trans hid) (if n ∈ toSave then toSave else toSave ++ [n])
    rw [List.cons_append]
    unfold switchAll switchMany
    rw [run_read_bind, hn]
    exact htail

end RPMRepoManager

end OpenCattus
