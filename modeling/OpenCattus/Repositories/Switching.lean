import OpenCattus.Repositories.Manager

/-!
# Switching repositories on the disk

What sequences of `install`, `loadDir` and `enable` calls leave on the disk.

`enableAll_spec` is the effect of one call: of the loaded files only the one that was loaded
first for an id is switched. `onDisk_runCalls` follows whole sequences of calls;
`switches_reach_disk_iff` and `enableAll_all_or_nothing_iff` decide from it when every file
gets the last value, and when a failed call changes nothing.
-/

namespace OpenCattus

open Foundations Foundations.Text Foundations.Program RPMRepositoryParser

namespace RepoWorld

/-! ## What the disk says -/

/-- The repository that the file at `p` defines under `id`. -/
def onDisk (w : RepoWorld) (p : RepoPath) (id : String) : Option RPMRepository :=
  (w.content p).bind fun data => (parseGroup ⟨p.text, data⟩ id).toOption

/-- The raw value of a key. -/
def keyOnDisk (w : RepoWorld) (p : RepoPath) (group key : String) : Option String :=
  (w.content p).bind fun data => data.lookup group key

theorem onDisk_eq_find {w : RepoWorld} {p : RepoPath} {data : KeyData} {m : RepoMap}
    (hcontent : w.content p = some data) (hparse : parse ⟨p.text, data⟩ = .ok m) (id : String) :
    w.onDisk p id = m.find id := by
  unfold onDisk
  rw [hcontent, Option.bind_some]
  cases hgroup : parseGroup ⟨p.text, data⟩ id with
  | ok repo => exact ((find_of_parse hparse).mpr hgroup).symm
  | error e =>
    cases hfind : m.find id with
    | none => rfl
    | some repo =>
      have hok := (find_of_parse hparse).mp hfind
      rw [hgroup] at hok
      cases hok

/-- The index names an object under the ids for which its file was loaded first. -/
theorem Coherent.home_eq_iff {w : RepoWorld} (hw : w.Coherent) {i : String} {n : Nat}
    {f : RPMRepositoryFile} (hi : Assoc.get i w.filesIdx = some n) (hf : w.files[n]? = some f)
    (id : String) : w.home id = some f.path ↔ Assoc.get id w.filesIdx = some n := by
  constructor
  · intro hhome
    cases hid : Assoc.get id w.filesIdx with
    | none =>
      rw [hw.home_eq_none.mpr hid] at hhome
      cases hhome
    | some m =>
      obtain ⟨g, hg, -, hg', -⟩ := hw.indexed hid
      have hpath : g.path = f.path := Option.some.inj (hg'.symm.trans hhome)
      rw [hw.path_inj hid hi hg hf hpath]
  · intro hid
    obtain ⟨g, hg, -, hg', -⟩ := hw.indexed hid
    obtain rfl := Option.some.inj (hf.symm.trans hg)
    exact hg'

theorem findIdx?_congr {α : Type} {test : α → Bool} {l l' : List α}
    (h : ∀ n : Nat, (l[n]?).map test = (l'[n]?).map test) : l.findIdx? test = l'.findIdx? test := by
  have hmap : l.map test = l'.map test := by
    apply List.ext_getElem?
    intro n
    rw [List.getElem?_map, List.getElem?_map, h n]
  have hid : ∀ k : List α, k.findIdx? test = (k.map test).findIdx? id := by
    intro k
    rw [List.findIdx?_map]
    rfl
  rw [hid l, hid l', hmap]

end RepoWorld

namespace RPMRepoManager

open RepoWorld

/-- The value that a switch of `ids` gives to an id of the file at `p`. -/
def switchedAt (w : RepoWorld) (ids : List String) (value : Bool) (p : RepoPath) (id : String) :
    Option Bool :=
  if id ∈ ids ∧ w.home id = some p then some value else none

/-- What switching a list of known repositories does. -/
structure Switched (w w' : RepoWorld) (ids : List String) (value : Bool) : Prop where
  coherent : w'.Coherent
  index : w'.filesIdx = w.filesIdx
  home : ∀ id, w'.home id = w.home id
  onDisk : ∀ p id, w'.onDisk p id = (w.onDisk p id).map fun repo =>
    repo.withEnabled ((switchedAt w ids value p id).getD repo.enabled)
  keyOnDisk : ∀ p group key, key ∉ repoKeys → w'.keyOnDisk p group key = w.keyOnDisk p group key
  exists_iff : ∀ p, (w'.content p).isSome = (w.content p).isSome

/-- The objects that are saved after `ids` have been switched. -/
structure SaveList (w : RepoWorld) (ids : List String) (ns : List Nat) : Prop where
  nodup : ns.Nodup
  mem_iff : ∀ n, n ∈ ns ↔ ∃ id ∈ ids, Assoc.get id w.filesIdx = some n

/-- A path after the saves: it belongs to a saved object, or it was not touched. -/
theorem content_saves {w : RepoWorld} (hw : w.Coherent) {ids : List String} {value : Bool}
    {ns : List Nat} (hns : SaveList w ids ns) (p : RepoPath) :
    (∃ i n f data, i ∈ ids ∧ Assoc.get i w.filesIdx = some n ∧ w.files[n]? = some f ∧
        f.path = p ∧ w.content p = some data ∧ parse ⟨p.text, data⟩ = .ok f.repos ∧
        (ns.foldl saveFile (w.switchMany value ids)).content p =
          some (unparse (f.repos.override (w.pending ids value n)) data)) ∨
      (∀ i ∈ ids, ∀ n f, Assoc.get i w.filesIdx = some n → w.files[n]? = some f → f.path ≠ p) ∧
        (ns.foldl saveFile (w.switchMany value ids)).content p = w.content p := by
  obtain ⟨hfiles, hidx, hdisk⟩ := switchMany_spec w value ids
  have hcontent : ∀ q, (w.switchMany value ids).content q = w.content q := by
    intro q
    unfold RepoWorld.content
    rw [hdisk]
  have hindexed : ∀ n ∈ ns, ∃ i f, i ∈ ids ∧ Assoc.get i w.filesIdx = some n ∧
      w.files[n]? = some f ∧
      (w.switchMany value ids).files[n]? = some (f.override (w.pending ids value n)) := by
    intro n hn
    obtain ⟨i, hi, hget⟩ := (hns.mem_iff n).mp hn
    obtain ⟨f, hf, -⟩ := hw.indexed hget
    exact ⟨i, f, hi, hget, hf, by rw [hfiles, hf]; rfl⟩
  obtain ⟨hsaved, hother⟩ := saveFiles_spec hns.nodup
    (by
      intro n hn
      obtain ⟨-, f, -, -, -, hf⟩ := hindexed n hn
      exact ⟨_, hf⟩)
    (by
      intro n hn n' hn' g g' hg hg' hpath
      obtain ⟨i, f, -, hi, hf, hof⟩ := hindexed n hn
      obtain ⟨i', f', -, hi', hf', hof'⟩ := hindexed n' hn'
      obtain rfl := Option.some.inj (hg.symm.trans hof)
      obtain rfl := Option.some.inj (hg'.symm.trans hof')
      exact hw.path_inj hi hi' hf hf' hpath)
  by_cases hp : ∃ i ∈ ids, ∃ n f, Assoc.get i w.filesIdx = some n ∧ w.files[n]? = some f ∧ f.path = p
  · left
    obtain ⟨i, hi, n, f, hget, hf, rfl⟩ := hp
    obtain ⟨data, hdata, hparse⟩ := hw.synced i n f hget hf
    have hof : (w.switchMany value ids).files[n]? = some (f.override (w.pending ids value n)) := by
      rw [hfiles, hf]
      rfl
    have hkey : ((w.switchMany value ids).keyFile f.path).data = data := by
      rw [keyFile_eq_of_content (hcontent f.path), keyFile, hdata]
      rfl
    refine ⟨i, n, f, data, hi, hget, hf, rfl, hdata, hparse, ?_⟩
    have hafter := hsaved n ((hns.mem_iff n).mpr ⟨i, hi, hget⟩) _ hof
    rwa [RPMRepositoryFile.path_override, RPMRepositoryFile.repos_override, hkey] at hafter
  · right
    have hnone : ∀ i ∈ ids, ∀ n f, Assoc.get i w.filesIdx = some n → w.files[n]? = some f →
        f.path ≠ p := fun i hi n f hget hf hpath => hp ⟨i, hi, n, f, hget, hf, hpath⟩
    refine ⟨hnone, ?_⟩
    rw [hother p, hcontent p]
    intro n hn g hg
    obtain ⟨i, f, hi, hget, hf, hof⟩ := hindexed n hn
    obtain rfl := Option.some.inj (hg.symm.trans hof)
    exact hnone i hi n f hget hf

/-- The groups of a file do not change, so every object keeps the groups of its file. -/
theorem getGroups_saves {w : RepoWorld} (hw : w.Coherent) {ids : List String} {value : Bool}
    {ns : List Nat} (hns : SaveList w ids ns) (p : RepoPath) :
    ((ns.foldl saveFile (w.switchMany value ids)).keyFile p).data.getGroups =
      (w.keyFile p).data.getGroups := by
  rcases content_saves hw hns p with
    ⟨_, _, f, data, -, -, -, -, hdata, hparse, hafter⟩ | ⟨-, hafter⟩
  · unfold keyFile
    rw [hafter, hdata]
    exact (parse_unparse_override hparse (hw.loadable p data hdata) _).2
  · rw [keyFile_eq_of_content hafter]

theorem coherent_saves {w : RepoWorld} (hw : w.Coherent) {ids : List String} {value : Bool}
    {ns : List Nat} (hns : SaveList w ids ns) :
    (ns.foldl saveFile (w.switchMany value ids)).Coherent := by
  obtain ⟨hswitched, hidx, -⟩ := switchMany_spec w value ids
  obtain ⟨hfiles, hindex⟩ := files_foldl_saveFile ns (w.switchMany value ids)
  have hget : ∀ id, Assoc.get id (ns.foldl saveFile (w.switchMany value ids)).filesIdx =
      Assoc.get id w.filesIdx := by
    intro id
    rw [hindex, hidx]
  constructor
  · intro id
    rw [hget, hw.index, hfiles]
    apply findIdx?_congr
    intro n
    rw [hswitched, Option.map_map]
    congr 1
    funext f
    simp
  · intro g hg
    rw [hfiles] at hg
    obtain ⟨n, hn⟩ := List.mem_iff_getElem?.mp hg
    rw [hswitched] at hn
    obtain ⟨f, hf, rfl⟩ := Option.map_eq_some_iff.mp hn
    rw [RPMRepositoryFile.repos_override, RPMRepositoryFile.path_override, RepoMap.ids_override,
      getGroups_saves hw hns]
    exact hw.groups f (List.mem_of_getElem? hf)
  · intro id n g hid hg
    rw [hget] at hid
    rw [hfiles, hswitched] at hg
    obtain ⟨f, hf, rfl⟩ := Option.map_eq_some_iff.mp hg
    rcases content_saves hw hns f.path with
      ⟨i, n', f', data, hi, hi', hf', hpath, hdata, hparse, hafter⟩ | ⟨huntouched, hafter⟩
    · -- The saved object of this path is the one that the index names here.
      obtain rfl := hw.path_inj hi' hid hf' hf hpath
      obtain rfl := Option.some.inj (hf.symm.trans hf')
      exact ⟨_, hafter, (parse_unparse_override hparse (hw.loadable _ data hdata) _).1⟩
    · obtain ⟨data, hdata, hparse⟩ := hw.synced id n f hid hf
      refine ⟨data, hafter.trans hdata, ?_⟩
      have hnone : f.repos.override (w.pending ids value n) = f.repos := by
        rw [← RepoMap.override_none f.repos, RepoMap.override_override]
        apply RepoMap.override_congr
        intro i _
        unfold pending
        rw [if_neg]
        · rfl
        · rintro ⟨hi, hlocate⟩
          rw [hw.locate_eq] at hlocate
          exact huntouched i hi n f hlocate hf rfl
      rw [RPMRepositoryFile.repos_override, hnone]
      exact hparse
  · intro p data hdata g hg
    have hkey : data.getGroups =
        ((ns.foldl saveFile (w.switchMany value ids)).keyFile p).data.getGroups := by
      rw [keyFile, hdata]
      rfl
    rw [hkey, getGroups_saves hw hns, keyFile] at hg
    cases hold : w.content p with
    | none =>
      rw [hold] at hg
      cases hg
    | some old =>
      rw [hold] at hg
      exact hw.loadable p old hold g hg

theorem switched_saves {w : RepoWorld} (hw : w.Coherent) {ids : List String} {value : Bool}
    {ns : List Nat} (hns : SaveList w ids ns) :
    Switched w (ns.foldl saveFile (w.switchMany value ids)) ids value := by
  obtain ⟨hswitched, hidx, -⟩ := switchMany_spec w value ids
  obtain ⟨hfiles, hindex⟩ := files_foldl_saveFile ns (w.switchMany value ids)
  refine ⟨coherent_saves hw hns, hindex.trans hidx, ?_, ?_, ?_, ?_⟩
  · intro id
    unfold RepoWorld.home
    rw [hfiles, List.find?_eq_bind_findIdx?_getElem?, List.find?_eq_bind_findIdx?_getElem?]
    have hsame : (w.switchMany value ids).files.findIdx? (id ∈ ·.repos.ids) =
        w.files.findIdx? (id ∈ ·.repos.ids) := by
      apply findIdx?_congr
      intro n
      rw [hswitched, Option.map_map]
      congr 1
      funext f
      simp
    rw [hsame]
    cases w.files.findIdx? (id ∈ ·.repos.ids) with
    | none => rfl
    | some n =>
      simp only [Option.bind_some, hswitched, Option.map_map]
      rfl
  · intro p id
    rcases content_saves hw hns p with
      ⟨i, n, f, data, hi, hi', hf, rfl, hdata, hparse, hafter⟩ | ⟨huntouched, hafter⟩
    · have hparse' := (parse_unparse_override hparse (hw.loadable _ data hdata)
        (w.pending ids value n)).1
      rw [onDisk_eq_find hafter hparse', onDisk_eq_find hdata hparse, RepoMap.find_override]
      have hsame : w.pending ids value n id = switchedAt w ids value f.path id := by
        unfold pending switchedAt
        rw [hw.locate_eq]
        simp only [hw.home_eq_iff hi' hf id]
      rw [hsame]
    · have hnone : switchedAt w ids value p id = none := by
        unfold switchedAt
        rw [if_neg]
        rintro ⟨hid, hhome⟩
        cases hget : Assoc.get id w.filesIdx with
        | none =>
          rw [hw.home_eq_none.mpr hget] at hhome
          cases hhome
        | some n =>
          obtain ⟨f, hf, -, hf', -⟩ := hw.indexed hget
          exact huntouched id hid n f hget hf (Option.some.inj (hf'.symm.trans hhome))
      unfold RepoWorld.onDisk
      rw [hafter, hnone]
      simp [RPMRepository.withEnabled]
  · intro p group key hkey
    unfold RepoWorld.keyOnDisk
    rcases content_saves hw hns p with
      ⟨_, _, f, data, -, -, -, -, hdata, -, hafter⟩ | ⟨-, hafter⟩
    · rw [hafter, hdata]
      exact lookup_unparse_of_key hkey group
    · rw [hafter]
  · intro p
    rcases content_saves hw hns p with
      ⟨_, _, f, data, -, -, -, -, hdata, -, hafter⟩ | ⟨-, hafter⟩
    · rw [hafter, hdata]
      rfl
    · rw [hafter]

/-- Known repositories are all switched, then their objects are saved. -/
theorem enableAll_saves {w : RepoWorld} (hw : w.Coherent) {ids : List String} {value : Bool}
    (order : Order Nat) (hknown : ∀ id ∈ ids, (Assoc.get id w.filesIdx).isSome = true) :
    ∃ ns, SaveList w ids ns ∧
      enableAll ids value order w = (.ok (), ns.foldl saveFile (w.switchMany value ids)) := by
  have hlocate := hw.locate_eq
  have hloop : switchAll value ids [] w = (.ok (collect w ids []), w.switchMany value ids) := by
    refine switchAll_of_known ?_ []
    intro id hid
    rw [hlocate]
    exact hknown id hid
  have hns : SaveList w ids (order.arrange (collect w ids [])) := by
    constructor
    · exact (order.perm _).nodup_iff.mpr (nodup_collect List.nodup_nil)
    · intro n
      rw [(order.perm _).mem_iff, mem_collect]
      simp [hlocate]
  refine ⟨_, hns, ?_⟩
  unfold enableAll
  rw [run_bind_of_returns hloop]
  rfl

theorem enableAll_spec {w : RepoWorld} (hw : w.Coherent) {ids : List String} {value : Bool}
    (order : Order Nat) (hknown : ∀ id ∈ ids, (Assoc.get id w.filesIdx).isSome = true) :
    ∃ w', enableAll ids value order w = (.ok (), w') ∧ Switched w w' ids value := by
  obtain ⟨ns, hns, hrun⟩ := enableAll_saves hw order hknown
  exact ⟨_, hrun, switched_saves hw hns⟩

/-- Switching one repository is switching a list of one. -/
theorem enable_spec {w : RepoWorld} (hw : w.Coherent) {id : String} {value : Bool}
    (hknown : (Assoc.get id w.filesIdx).isSome = true) :
    ∃ w', enable id value w = (.ok (), w') ∧ Switched w w' [id] value := by
  obtain ⟨n, hn⟩ := Option.isSome_iff_exists.mp hknown
  have hlocate : w.locate id = some n := by rw [hw.locate_eq, hn]
  have hns : SaveList w [id] [n] := by
    constructor
    · simp
    · intro m
      simp [hn, eq_comm]
  refine ⟨_, ?_, switched_saves hw hns⟩
  unfold enable
  rw [run_read_bind, hlocate]
  unfold switchMany
  rw [hlocate]
  rfl

/-! ## Sequences of calls -/

inductive RepoCall where
  | install (source : RepoPath)
  | loadDir (directory : String) (order : Order RepoPath)
  | enable (id : String) (value : Bool)
  | enableAll (ids : List String) (value : Bool) (order : Order Nat)

namespace RepoCall

def perform (dryRun : Bool) : RepoCall → Action
  | install source => RPMRepoManager.install dryRun source
  | loadDir directory order => RPMRepoManager.loadDir dryRun directory order
  | enable id value => RPMRepoManager.enable id value
  | enableAll ids value order => RPMRepoManager.enableAll ids value order

/-- The state after a call, whether it returns or throws. -/
def step (dryRun : Bool) (w : RepoWorld) (call : RepoCall) : RepoWorld := (call.perform dryRun w).2

/-- The value that a call gives to an id. -/
def switch : RepoCall → String → Option Bool
  | install _, _ => none
  | loadDir _ _, _ => none
  | enable id value, i => if i = id then some value else none
  | enableAll ids value _, i => if i ∈ ids then some value else none

/-- The call names only ids that the manager knows. -/
def OnKnownIds (w : RepoWorld) (call : RepoCall) : Prop :=
  ∀ id value, call.switch id = some value → (Assoc.get id w.filesIdx).isSome = true

end RepoCall

def runCalls (dryRun : Bool) (w : RepoWorld) : List RepoCall → RepoWorld
  | [] => w
  | call :: calls => runCalls dryRun (call.step dryRun w) calls

def AllOnKnownIds (dryRun : Bool) (w : RepoWorld) : List RepoCall → Prop
  | [] => True
  | call :: calls => call.OnKnownIds w ∧ AllOnKnownIds dryRun (call.step dryRun w) calls

/-- The last value given to an id. -/
def lastSwitch : List RepoCall → String → Option Bool
  | [], _ => none
  | call :: calls, id => (lastSwitch calls id).or (call.switch id)

/-- The content with which a path first appears on the disk. -/
def firstContent (dryRun : Bool) (w : RepoWorld) : List RepoCall → RepoPath → Option KeyData
  | [], p => w.content p
  | call :: calls, p => (w.content p).or (firstContent dryRun (call.step dryRun w) calls p)

def firstOnDisk (dryRun : Bool) (w : RepoWorld) (calls : List RepoCall) (p : RepoPath)
    (id : String) : Option RPMRepository :=
  (firstContent dryRun w calls p).bind fun data => (parseGroup ⟨p.text, data⟩ id).toOption

def firstKeyOnDisk (dryRun : Bool) (w : RepoWorld) (calls : List RepoCall) (p : RepoPath)
    (group key : String) : Option String :=
  (firstContent dryRun w calls p).bind fun data => data.lookup group key

/-- What every call does to the files that are on the disk before it. -/
structure Moves (w w' : RepoWorld) (switch : String → Option Bool) : Prop where
  coherent : w'.Coherent
  home : ∀ id p, w.home id = some p → w'.home id = some p
  known : ∀ id, w.home id = none → switch id = none
  exists_of : ∀ p, (w.content p).isSome = true → (w'.content p).isSome = true
  onDisk : ∀ p, (w.content p).isSome = true → ∀ id,
    w'.onDisk p id = (w.onDisk p id).map fun repo =>
      repo.withEnabled ((if w.home id = some p then switch id else none).getD repo.enabled)
  keyOnDisk : ∀ p, (w.content p).isSome = true → ∀ group key, key ∉ repoKeys →
    w'.keyOnDisk p group key = w.keyOnDisk p group key

theorem moves_of_extends {w w' : RepoWorld} (h : Extends w w') {switch : String → Option Bool}
    (hnone : ∀ id, switch id = none) : Moves w w' switch := by
  have hsame : ∀ p, (w.content p).isSome = true → w'.content p = w.content p := by
    intro p hp
    obtain ⟨data, hdata⟩ := Option.isSome_iff_exists.mp hp
    rw [hdata, h.content p data hdata]
  refine ⟨h.coherent, h.home, fun id _ => hnone id, ?_, ?_, ?_⟩
  · intro p hp
    rw [hsame p hp]
    exact hp
  · intro p hp id
    unfold RepoWorld.onDisk
    rw [hsame p hp, hnone]
    simp [RPMRepository.withEnabled]
  · intro p hp group key _
    unfold RepoWorld.keyOnDisk
    rw [hsame p hp]

theorem moves_of_switched {w w' : RepoWorld} (hw : w.Coherent) {ids : List String} {value : Bool}
    (hknown : ∀ id ∈ ids, (Assoc.get id w.filesIdx).isSome = true) (h : Switched w w' ids value) :
    Moves w w' fun id => if id ∈ ids then some value else none := by
  refine ⟨h.coherent, ?_, ?_, ?_, ?_, fun p _ => h.keyOnDisk p⟩
  · intro id p hp
    rw [h.home, hp]
  · intro id hid
    rw [if_neg]
    intro hmem
    have hget := hknown id hmem
    rw [hw.home_eq_none.mp hid] at hget
    cases hget
  · intro p hp
    rw [h.exists_iff]
    exact hp
  · intro p _ id
    rw [h.onDisk]
    congr 1
    funext repo
    unfold switchedAt
    by_cases hid : id ∈ ids <;> simp [hid]

theorem moves_step {w : RepoWorld} (hw : w.Coherent) (dryRun : Bool) {call : RepoCall}
    (hknown : call.OnKnownIds w) : Moves w (call.step dryRun w) call.switch := by
  cases call with
  | install source =>
    exact moves_of_extends (preserves_install source w (.refl hw)) fun _ => rfl
  | loadDir directory order =>
    exact moves_of_extends (preserves_loadDir directory order w (.refl hw)) fun _ => rfl
  | enable id value =>
    have hid : (Assoc.get id w.filesIdx).isSome = true := hknown id value (if_pos rfl)
    obtain ⟨w', hrun, hswitched⟩ : ∃ w', RPMRepoManager.enable id value w = (.ok (), w') ∧
      Switched w w' [id] value := enable_spec hw hid
    have hstep : (RepoCall.enable id value).step dryRun w = w' := congrArg Prod.snd hrun
    have hswitch : (RepoCall.enable id value).switch =
        fun i => if i ∈ [id] then some value else none := by
      funext i
      simp [RepoCall.switch]
    rw [hstep, hswitch]
    exact moves_of_switched hw (by simpa using hid) hswitched
  | enableAll ids value order =>
    have hids : ∀ id ∈ ids, (Assoc.get id w.filesIdx).isSome = true :=
      fun id hid => hknown id value (if_pos hid)
    obtain ⟨w', hrun, hswitched⟩ : ∃ w', RPMRepoManager.enableAll ids value order w =
      (.ok (), w') ∧ Switched w w' ids value := enableAll_spec hw order hids
    have hstep : (RepoCall.enableAll ids value order).step dryRun w = w' := congrArg Prod.snd hrun
    rw [hstep]
    exact moves_of_switched hw hids hswitched

theorem withEnabled_withEnabled (repo : RPMRepository) (later earlier : Option Bool) :
    (repo.withEnabled (earlier.getD repo.enabled)).withEnabled
        (later.getD (repo.withEnabled (earlier.getD repo.enabled)).enabled) =
      repo.withEnabled ((later.or earlier).getD repo.enabled) := by
  cases later <;> rfl

theorem isSome_content_of_home {w : RepoWorld} (hw : w.Coherent) {id : String} {p : RepoPath}
    (h : w.home id = some p) : (w.content p).isSome = true := by
  cases hid : Assoc.get id w.filesIdx with
  | none =>
    rw [hw.home_eq_none.mpr hid] at h
    cases h
  | some n =>
    obtain ⟨f, hf, -, hf', -⟩ := hw.indexed hid
    obtain ⟨data, hdata, -⟩ := hw.synced id n f hid hf
    rw [← Option.some.inj (hf'.symm.trans h), hdata]
    rfl

theorem firstContent_of_isSome (dryRun : Bool) {w : RepoWorld} (calls : List RepoCall)
    {p : RepoPath} (h : (w.content p).isSome = true) :
    firstContent dryRun w calls p = w.content p := by
  cases calls with
  | nil => rfl
  | cons call calls =>
    obtain ⟨data, hdata⟩ := Option.isSome_iff_exists.mp h
    rw [firstContent, hdata, Option.some_or]

/-- The home of an id stays, and every file keeps what it first said, but for the switches
of the ids that have their home there. -/
theorem onDisk_runCalls (dryRun : Bool) {w : RepoWorld} (hw : w.Coherent) {calls : List RepoCall}
    (hknown : AllOnKnownIds dryRun w calls) :
    (runCalls dryRun w calls).Coherent ∧
      (∀ id p, w.home id = some p → (runCalls dryRun w calls).home id = some p) ∧
      (∀ p id, (runCalls dryRun w calls).onDisk p id =
        (firstOnDisk dryRun w calls p id).map fun repo =>
          repo.withEnabled ((if (runCalls dryRun w calls).home id = some p
            then lastSwitch calls id else none).getD repo.enabled)) ∧
      ∀ p group key, key ∉ repoKeys →
        (runCalls dryRun w calls).keyOnDisk p group key =
          firstKeyOnDisk dryRun w calls p group key := by
  induction calls generalizing w with
  | nil =>
    refine ⟨hw, fun _ _ h => h, ?_, fun _ _ _ _ => rfl⟩
    intro p id
    have hnone : (if (runCalls dryRun w []).home id = some p then lastSwitch [] id else none) =
        none := by
      rw [lastSwitch, ite_self]
    rw [hnone]
    exact Option.map_id_apply.symm
  | cons call calls ih =>
    obtain ⟨hcall, hcalls⟩ := hknown
    have hmoves := moves_step hw dryRun hcall
    obtain ⟨hcoherent, hhome, hdisk, hkeys⟩ := ih hmoves.coherent hcalls
    have hrun : runCalls dryRun w (call :: calls) = runCalls dryRun (call.step dryRun w) calls := rfl
    rw [hrun]
    generalize runCalls dryRun (call.step dryRun w) calls = w' at hcoherent hhome hdisk hkeys
    have hhome' : ∀ id p, w.home id = some p → w'.home id = some p :=
      fun id p h => hhome id p (hmoves.home id p h)
    refine ⟨hcoherent, hhome', ?_, ?_⟩
    · intro p id
      rw [hdisk]
      cases hp : w.content p with
      | some data =>
        have hsome : (w.content p).isSome = true := by rw [hp]; rfl
        have hfirst : firstOnDisk dryRun w (call :: calls) p id = w.onDisk p id := by
          unfold firstOnDisk
          rw [firstContent_of_isSome dryRun _ hsome]
          rfl
        have hnext : firstOnDisk dryRun (call.step dryRun w) calls p id =
            (call.step dryRun w).onDisk p id := by
          unfold firstOnDisk
          rw [firstContent_of_isSome dryRun _ (hmoves.exists_of p hsome)]
          rfl
        rw [hfirst, hnext, hmoves.onDisk p hsome, Option.map_map]
        congr 1
        funext repo
        simp only [Function.comp_apply, withEnabled_withEnabled, lastSwitch]
        congr 2
        cases hid : w.home id with
        | none => simp [hmoves.known id hid]
        | some q =>
          rw [hhome' id q hid]
          by_cases hq : q = p <;> simp [hq]
      | none =>
        have hfirst : firstOnDisk dryRun w (call :: calls) p id =
            firstOnDisk dryRun (call.step dryRun w) calls p id := by
          unfold firstOnDisk
          rw [firstContent, hp, Option.none_or]
        rw [hfirst]
        congr 1
        funext repo
        rw [lastSwitch]
        cases hid : w.home id with
        | none => simp [hmoves.known id hid]
        | some q =>
          -- The home of a known id is on the disk, so it is not this path.
          have hne : q ≠ p := by
            rintro rfl
            have hsome := isSome_content_of_home hw hid
            rw [hp] at hsome
            cases hsome
          simp [hhome' id q hid, hne]
    · intro p group key hkey
      rw [hkeys p group key hkey]
      cases hp : w.content p with
      | some data =>
        have hsome : (w.content p).isSome = true := by rw [hp]; rfl
        have hold := hmoves.keyOnDisk p hsome group key hkey
        unfold firstKeyOnDisk
        rw [firstContent_of_isSome dryRun _ hsome,
          firstContent_of_isSome dryRun _ (hmoves.exists_of p hsome)]
        exact hold
      | none =>
        unfold firstKeyOnDisk
        rw [firstContent, hp, Option.none_or]

/-! ## The last value given -/

/-- At the end every id that was switched has the last value in every loaded file that
defines it, every other id keeps its switch, and no other key changes. -/
structure SwitchesReachDisk (dryRun : Bool) (w : RepoWorld) (calls : List RepoCall) : Prop where
  switched : ∀ f ∈ (runCalls dryRun w calls).files, ∀ id value, lastSwitch calls id = some value →
    ∀ repo, (runCalls dryRun w calls).onDisk f.path id = some repo → repo.enabled = value
  kept : ∀ p id, lastSwitch calls id = none →
    ((runCalls dryRun w calls).onDisk p id).map (·.enabled) =
      (firstOnDisk dryRun w calls p id).map (·.enabled)
  others : ∀ p id, ((runCalls dryRun w calls).onDisk p id).map (·.withEnabled false) =
    (firstOnDisk dryRun w calls p id).map (·.withEnabled false)
  keys : ∀ p group key, key ∉ repoKeys →
    (runCalls dryRun w calls).keyOnDisk p group key = firstKeyOnDisk dryRun w calls p group key

/-- Of the loaded files that define a switched id, those that were not the first to be
loaded give it the last value already. -/
def LaterFilesAgree (dryRun : Bool) (w : RepoWorld) (calls : List RepoCall) : Prop :=
  ∀ f ∈ (runCalls dryRun w calls).files, ∀ id value, lastSwitch calls id = some value →
    (runCalls dryRun w calls).home id ≠ some f.path →
    ∀ repo, firstOnDisk dryRun w calls f.path id = some repo → repo.enabled = value

theorem switched_iff (dryRun : Bool) {w : RepoWorld} (hw : w.Coherent) {calls : List RepoCall}
    (hknown : AllOnKnownIds dryRun w calls) :
    (∀ f ∈ (runCalls dryRun w calls).files, ∀ id value, lastSwitch calls id = some value →
      ∀ repo, (runCalls dryRun w calls).onDisk f.path id = some repo → repo.enabled = value) ↔
      LaterFilesAgree dryRun w calls := by
  obtain ⟨-, -, hdisk, -⟩ := onDisk_runCalls dryRun hw hknown
  unfold LaterFilesAgree
  refine forall₂_congr fun f _ => forall₃_congr fun id value hlast => ?_
  rw [hdisk, hlast]
  cases hfirst : firstOnDisk dryRun w calls f.path id with
  | none => simp
  | some repo =>
    by_cases hhome : (runCalls dryRun w calls).home id = some f.path
    · simp [hhome, RPMRepository.withEnabled]
    · simp [hhome, RPMRepository.withEnabled]

theorem switchesReachDisk_iff (dryRun : Bool) {w : RepoWorld} (hw : w.Coherent)
    {calls : List RepoCall} (hknown : AllOnKnownIds dryRun w calls) :
    SwitchesReachDisk dryRun w calls ↔ LaterFilesAgree dryRun w calls := by
  rw [← switched_iff dryRun hw hknown]
  constructor
  · exact fun h => h.switched
  · intro h
    obtain ⟨-, -, hdisk, hkeys⟩ := onDisk_runCalls dryRun hw hknown
    refine ⟨h, ?_, ?_, hkeys⟩
    · intro p id hlast
      rw [hdisk, hlast, Option.map_map, ite_self]
      rfl
    · intro p id
      rw [hdisk, Option.map_map]
      rfl

/-- A disk before the manager has loaded anything. -/
def unloaded (disk : List (RepoPath × KeyData)) : RepoWorld := { disk }

theorem coherent_unloaded {disk : List (RepoPath × KeyData)}
    (hdisk : ∀ p data, (unloaded disk).content p = some data → Loadable data) :
    (unloaded disk).Coherent := by
  refine ⟨fun _ => rfl, ?_, ?_, hdisk⟩
  · intro f hf
    cases hf
  · intro id n f hid
    cases hid

/-! ## Unknown ids -/

/-- A list with an unknown id has a first one. -/
theorem exists_first_unknown {w : RepoWorld} {ids : List String}
    (h : ¬ ∀ id ∈ ids, (w.locate id).isSome = true) :
    ∃ before id after, ids = before ++ id :: after ∧
      (∀ i ∈ before, (w.locate i).isSome = true) ∧ w.locate id = none := by
  induction ids with
  | nil => simp at h
  | cons i ids ih =>
    cases hi : w.locate i with
    | none => exact ⟨[], i, ids, rfl, by simp, hi⟩
    | some n =>
      have hrest : ¬ ∀ id ∈ ids, (w.locate id).isSome = true := by
        intro hall
        refine h (List.forall_mem_cons.mpr ⟨?_, hall⟩)
        rw [hi]
        rfl
      obtain ⟨before, id, after, rfl, hbefore, hid⟩ := ih hrest
      refine ⟨i :: before, id, after, rfl, List.forall_mem_cons.mpr ⟨?_, hbefore⟩, hid⟩
      rw [hi]
      rfl

theorem enableAll_of_unknown {w : RepoWorld} {before after : List String} {id : String}
    (hknown : ∀ i ∈ before, (w.locate i).isSome = true) (hid : w.locate id = none)
    (value : Bool) (order : Order Nat) :
    enableAll (before ++ id :: after) value order w =
      (.error (unknownRepository id), w.switchMany value before) := by
  unfold enableAll
  exact run_bind_of_raises (switchAll_of_unknown hknown hid [])

theorem known_of_enableAll {w w' : RepoWorld} {ids : List String} {value : Bool}
    {order : Order Nat} (h : enableAll ids value order w = (.ok (), w')) :
    ∀ id ∈ ids, (w.locate id).isSome = true := by
  by_contra hunknown
  obtain ⟨before, id, after, rfl, hbefore, hid⟩ := exists_first_unknown hunknown
  rw [enableAll_of_unknown hbefore hid] at h
  cases h

/-- A call that returns has switched its ids, and no file has gained or lost a group. -/
theorem switched_of_enableAll {w w' : RepoWorld} (hw : w.Coherent) {ids : List String}
    {value : Bool} {order : Order Nat} (h : enableAll ids value order w = (.ok (), w')) :
    Switched w w' ids value ∧
      ∀ p, (w'.keyFile p).data.getGroups = (w.keyFile p).data.getGroups := by
  have hknown : ∀ id ∈ ids, (Assoc.get id w.filesIdx).isSome = true := by
    intro id hid
    rw [← hw.locate_eq]
    exact known_of_enableAll h id hid
  obtain ⟨ns, hns, hrun⟩ := enableAll_saves hw order hknown
  obtain rfl : w' = _ := congrArg Prod.snd (h.symm.trans hrun)
  exact ⟨switched_saves hw hns, getGroups_saves hw hns⟩

end RPMRepoManager

/-! ## The default repositories -/

namespace RepoManager

open RepoWorld RPMRepoManager

/-- The calls that `initializeDefaultRepositories` makes. -/
def defaultCalls (repositories : List (String × Bool)) (listing : Order RepoPath)
    (order order' : Order Nat) : List RepoCall :=
  [.loadDir basedir listing, .enableAll (managedRepoIds repositories) false order,
    .enableAll (enabledRepoIds repositories) true order']

theorem switchUnlessEmpty_eq (ids : List String) (value : Bool) (order : Order Nat)
    (w : RepoWorld) : switchUnlessEmpty ids value order w = enableAll ids value order w := by
  unfold switchUnlessEmpty
  cases ids with
  | cons id ids => rfl
  | nil =>
    have hnil : order.arrange [] = [] := List.perm_nil.mp (order.perm [])
    change _ = ((.ok (), (order.arrange []).foldl saveFile w) : Except Exception Unit × RepoWorld)
    rw [hnil]
    rfl

theorem lastSwitch_defaultCalls {repositories : List (String × Bool)} {listing : Order RepoPath}
    {order order' : Order Nat} {id : String} :
    lastSwitch (defaultCalls repositories listing order order') id =
      if id ∈ managedRepoIds repositories then some (decide (id ∈ enabledRepoIds repositories))
      else none := by
  have hsubset : id ∈ enabledRepoIds repositories → id ∈ managedRepoIds repositories := by
    intro h
    obtain ⟨repository, hmem, rfl⟩ := List.mem_map.mp h
    exact List.mem_map_of_mem (List.mem_of_mem_filter hmem)
  simp only [defaultCalls, lastSwitch, RepoCall.switch, Option.none_or, Option.or_none]
  by_cases henabled : id ∈ enabledRepoIds repositories
  · simp [henabled, hsubset henabled]
  · simp [henabled]

/-- An initialization that returns has made its calls on known ids. -/
theorem runCalls_of_initialize {w w' : RepoWorld} (hw : w.Coherent)
    {repositories : List (String × Bool)} {listing : Order RepoPath} {order order' : Order Nat}
    (h : initializeDefaultRepositories repositories listing order order' w = (.ok (), w')) :
    AllOnKnownIds false w (defaultCalls repositories listing order order') ∧
      runCalls false w (defaultCalls repositories listing order order') = w' := by
  obtain ⟨_, w₁, hload, h⟩ := returns_bind.mp h
  obtain ⟨_, w₂, hmanaged, henabled⟩ := returns_bind.mp h
  have hstep₁ : (RepoCall.loadDir basedir listing).step false w = w₁ := congrArg Prod.snd hload
  have hw₁ : w₁.Coherent := by
    rw [← hstep₁]
    exact (preserves_loadDir basedir listing w (.refl hw)).coherent
  have hmanaged' : enableAll (managedRepoIds repositories) false order w₁ = (.ok (), w₂) := by
    rw [← switchUnlessEmpty_eq]
    exact hmanaged
  have henabled' : enableAll (enabledRepoIds repositories) true order' w₂ = (.ok (), w') := by
    rw [← switchUnlessEmpty_eq]
    exact henabled
  have hknown : ∀ {ids value} {o : Order Nat} {v v' : RepoWorld}, v.Coherent →
      enableAll ids value o v = (.ok (), v') → (RepoCall.enableAll ids value o).OnKnownIds v := by
    intro ids value o v v' hv hrun id b hid
    rw [← hv.locate_eq]
    refine known_of_enableAll hrun id ?_
    by_contra hnot
    simp [RepoCall.switch, hnot] at hid
  have hknown₁ := hknown hw₁ hmanaged'
  have hstep₂ : (RepoCall.enableAll (managedRepoIds repositories) false order).step false w₁ = w₂ :=
    congrArg Prod.snd hmanaged'
  have hw₂ : w₂.Coherent := by
    rw [← hstep₂]
    exact (moves_step hw₁ false hknown₁).coherent
  have hstep₃ : (RepoCall.enableAll (enabledRepoIds repositories) true order').step false w₂ = w' :=
    congrArg Prod.snd henabled'
  unfold defaultCalls AllOnKnownIds AllOnKnownIds AllOnKnownIds runCalls runCalls runCalls
  rw [hstep₁, hstep₂, hstep₃]
  refine ⟨⟨?_, hknown₁, hknown hw₂ henabled', trivial⟩, rfl⟩
  intro id value hid
  cases hid

end RepoManager

namespace RPMRepoManager

open RepoWorld RepoManager

/-- For every disk and every sequence of calls on known ids, and for the initialization of
the default repositories, which switches them all off and then the enabled ones on. -/
theorem switches_reach_disk_iff (dryRun : Bool) {disk : List (RepoPath × KeyData)}
    (hdisk : ∀ p data, (unloaded disk).content p = some data → Loadable data)
    {calls : List RepoCall} (hknown : AllOnKnownIds dryRun (unloaded disk) calls) :
    (SwitchesReachDisk dryRun (unloaded disk) calls ↔
        LaterFilesAgree dryRun (unloaded disk) calls) ∧
      ∀ repositories listing order order' w',
        initializeDefaultRepositories repositories listing order order' (unloaded disk) =
          (.ok (), w') →
        ((∀ id ∈ managedRepoIds repositories, ∀ f ∈ w'.files, ∀ repo,
            w'.onDisk f.path id = some repo →
              (repo.enabled = true ↔ id ∈ enabledRepoIds repositories)) ↔
          LaterFilesAgree false (unloaded disk)
            (defaultCalls repositories listing order order')) := by
  have hw := coherent_unloaded hdisk
  refine ⟨switchesReachDisk_iff dryRun hw hknown, ?_⟩
  intro repositories listing order order' w' h
  obtain ⟨hcalls, rfl⟩ := runCalls_of_initialize hw h
  rw [← switched_iff false hw hcalls]
  simp only [lastSwitch_defaultCalls]
  constructor
  · intro hall f hf id value hlast repo hrepo
    split at hlast
    · rename_i hmanaged
      cases hlast
      have hiff := hall id hmanaged f hf repo hrepo
      rw [Bool.eq_iff_iff, hiff, decide_eq_true_eq]
    · cases hlast
  · intro hall id hmanaged f hf repo hrepo
    have henabled := hall f hf id _ (if_pos hmanaged) repo hrepo
    rw [henabled, decide_eq_true_eq]

/-- A library that keeps the order of insertion. -/
def asListed (α : Type) : Order α := ⟨id, fun _ => .refl _⟩

/-- A file with the one group `[epel]`. -/
def epelFile (baseurl : String) : KeyData where
  groups := [("epel", [("name", "EPEL"), ("enabled", "1"), ("baseurl", baseurl)])]
  nodup := by simp

theorem loadable_epelFile (baseurl : String) : Loadable (epelFile baseurl) := by
  intro g hg
  obtain rfl : g = "epel" := by simpa [epelFile, KeyData.getGroups] using hg
  decide

/-- The id `epel` is defined by the file of the distribution and by a mirror's. -/
def twoFiles : List (RepoPath × KeyData) :=
  [(⟨basedir, "epel.repo"⟩, epelFile "https://dl.fedoraproject.org/pub/epel/9"),
    (⟨basedir, "mirror.repo"⟩, epelFile "https://mirror.example.com/epel/9")]

def disableEpel : List RepoCall :=
  [.loadDir basedir (asListed _), .enable "epel" false]

theorem loadable_twoFiles :
    ∀ p data, (unloaded twoFiles).content p = some data → Loadable data := by
  intro p data h
  simp only [unloaded, RepoWorld.content, twoFiles, Assoc.get] at h
  split at h
  · cases h
    exact loadable_epelFile _
  · split at h
    · cases h
      exact loadable_epelFile _
    · cases h

theorem known_disableEpel : AllOnKnownIds false (unloaded twoFiles) disableEpel := by
  refine ⟨?_, ?_, trivial⟩
  · intro id value h
    cases h
  · intro id value h
    obtain rfl : id = "epel" := by
      by_contra hne
      simp [RepoCall.switch, hne] at h
    decide

/-- Two files with one id, loaded and switched. -/
theorem two_files_reach_disk_iff :
    AllOnKnownIds false (unloaded twoFiles) disableEpel ∧
      (SwitchesReachDisk false (unloaded twoFiles) disableEpel ↔
        LaterFilesAgree false (unloaded twoFiles) disableEpel) :=
  ⟨known_disableEpel, (switches_reach_disk_iff false loadable_twoFiles known_disableEpel).1⟩

/-- The file that was loaded second keeps the repository switched on. -/
theorem second_file_not_switched :
    AllOnKnownIds false (unloaded twoFiles) disableEpel ∧
      ¬ SwitchesReachDisk false (unloaded twoFiles) disableEpel := by
  refine ⟨known_disableEpel, ?_⟩
  intro h
  have hfile : (runCalls false (unloaded twoFiles) disableEpel).files.any
      (fun f => f.path = ⟨basedir, "mirror.repo"⟩ ∧
        (((runCalls false (unloaded twoFiles) disableEpel).onDisk f.path "epel").map
          (·.enabled)) = some true) = true := by
    decide
  obtain ⟨f, hf, hon⟩ := List.any_eq_true.mp hfile
  obtain ⟨-, henabled⟩ := of_decide_eq_true hon
  obtain ⟨repo, hrepo, htrue⟩ := Option.map_eq_some_iff.mp henabled
  have hfalse := h.switched f hf "epel" false (by decide) repo hrepo
  rw [htrue] at hfalse
  cases hfalse

/-! ## A failed call -/

/-- The switch that the manager holds for an id. -/
def enabledInMemory (w : RepoWorld) (id : String) : Option Bool :=
  ((w.locate id).bind (w.files[·]?)).bind fun f => (f.repos.find id).map (·.enabled)

/-- A switch of the list that fails leaves the manager and the disk as they were, and no
later call tells the difference. -/
def FailureChangesNothing (w : RepoWorld) (ids : List String) (value : Bool) (order : Order Nat) :
    Prop :=
  ∀ e w', enableAll ids value order w = (.error e, w') →
    w' = w ∧ ∀ dryRun calls, runCalls dryRun w' calls = runCalls dryRun w calls

/-- `disable` of the list lets no exception escape, as `disable` of one repository does. -/
def DisableReports (w : RepoWorld) (ids : List String) (order : Order Nat) : Prop :=
  (∀ e w', disableAll false .RPM ids order w ≠ (.error e, w')) ∧
    ∀ id e w', disable false .RPM id w ≠ (.error e, w')

/-- What it means that the manager knows an id. -/
theorem locate_eq_some {w : RepoWorld} {id : String} {n : Nat} (h : w.locate id = some n) :
    ∃ f repo, w.files[n]? = some f ∧ f.repos.find id = some repo := by
  unfold RepoWorld.locate at h
  obtain ⟨-, hfound⟩ := Option.filter_eq_some_iff.mp h
  obtain ⟨f, hf, hsome⟩ := (Option.any_eq_true ..).mp hfound
  obtain ⟨repo, hrepo⟩ := Option.isSome_iff_exists.mp hsome
  exact ⟨f, repo, hf, hrepo⟩

/-- Switching in memory changes nothing when the ids have the value already. -/
theorem switchMany_eq_self_iff {w : RepoWorld} {value : Bool} {ids : List String}
    (hknown : ∀ i ∈ ids, (w.locate i).isSome = true) :
    w.switchMany value ids = w ↔ ∀ i ∈ ids, enabledInMemory w i = some value := by
  obtain ⟨hfiles, hidx, hdisk⟩ := switchMany_spec w value ids
  constructor
  · intro hsame i hi
    obtain ⟨n, hn⟩ := Option.isSome_iff_exists.mp (hknown i hi)
    obtain ⟨f, repo, hf, hrepo⟩ := locate_eq_some hn
    have hself : f.override (w.pending ids value n) = f := by
      have hafter := hfiles n
      rw [hsame, hf] at hafter
      exact (Option.some.inj hafter).symm
    have hfind : (f.repos.override (w.pending ids value n)).find i = f.repos.find i := by
      rw [← RPMRepositoryFile.repos_override, hself]
    have hpending : w.pending ids value n i = some value := if_pos ⟨hi, hn⟩
    rw [RepoMap.find_override, hpending, hrepo, Option.map_some] at hfind
    have henabled : repo.enabled = value := by
      rw [← Option.some.inj hfind]
      rfl
    simp [enabledInMemory, hn, hf, hrepo, henabled]
  · intro hvalue
    refine RepoWorld.ext hdisk ?_ hidx
    apply List.ext_getElem?
    intro m
    rw [hfiles]
    cases hf : w.files[m]? with
    | none => rfl
    | some f =>
      have hsame : f.repos.override (w.pending ids value m) = f.repos := by
        apply RepoMap.ext
        refine (List.map_congr_left ?_).trans (List.map_id _)
        intro repo hrepo
        have hfind : f.repos.find repo.id = some repo := RepoMap.find_eq_some.mpr ⟨hrepo, rfl⟩
        unfold RepoWorld.pending
        split
        · rename_i hid
          have hold := hvalue repo.id hid.1
          simp only [enabledInMemory, hid.2, Option.bind_some, hf, hfind, Option.map_some,
            Option.some.injEq] at hold
          rw [← hold]
          rfl
        · rfl
      simp [RPMRepositoryFile.override, hsame]

theorem failureChangesNothing_iff (w : RepoWorld) (ids : List String) (value : Bool)
    (order : Order Nat) :
    FailureChangesNothing w ids value order ↔
      ∀ before id after, ids = before ++ id :: after →
        (∀ i ∈ before, (w.locate i).isSome = true) → w.locate id = none →
        ∀ i ∈ before, enabledInMemory w i = some value := by
  constructor
  · rintro h before id after rfl hbefore hid
    obtain ⟨hsame, -⟩ := h _ _ (enableAll_of_unknown hbefore hid value order)
    exact (switchMany_eq_self_iff hbefore).mp hsame
  · intro h e w' hrun
    have hunknown : ¬ ∀ id ∈ ids, (w.locate id).isSome = true := by
      intro hall
      unfold enableAll at hrun
      rw [run_bind_of_returns (switchAll_of_known hall [])] at hrun
      cases hrun
    obtain ⟨before, id, after, rfl, hbefore, hid⟩ := exists_first_unknown hunknown
    rw [enableAll_of_unknown hbefore hid] at hrun
    cases hrun
    have hsame := (switchMany_eq_self_iff hbefore).mpr (h before id after rfl hbefore hid)
    exact ⟨hsame, fun dryRun calls => by rw [hsame]⟩

theorem disableReports_iff (w : RepoWorld) (ids : List String) (order : Order Nat) :
    DisableReports w ids order ↔ ∀ id ∈ ids, (w.locate id).isSome = true := by
  have hlist : disableAll false .RPM ids order =
      rescue (enableAll ids false order) logOutOfRange := rfl
  have hsingle : ∀ id, disable false .RPM id = rescue (enable id false) logOutOfRange :=
    fun _ => rfl
  unfold DisableReports
  constructor
  · rintro ⟨h, -⟩
    by_contra hunknown
    obtain ⟨before, id, after, rfl, hbefore, hid⟩ := exists_first_unknown hunknown
    refine h (unknownRepository id) (w.switchMany false before) ?_
    -- The list version throws a `runtime_error`, which the handler does not catch.
    rw [hlist, run_rescue_of_raises (enableAll_of_unknown hbefore hid false order)]
    rfl
  · intro hall
    constructor
    · intro e w'
      have hrun : enableAll ids false order w = (.ok (), _) :=
        run_bind_of_returns (switchAll_of_known hall [])
      rw [hlist, run_rescue_of_returns hrun]
      simp
    · intro id e w'
      rw [hsingle]
      cases hid : w.locate id with
      | none =>
        have hrun : enable id false w = (.error ⟨.outOfRange, "map::at"⟩, w) := by
          unfold enable
          rw [run_read_bind, hid]
          rfl
        rw [run_rescue_of_raises hrun]
        intro hescaped
        cases hescaped
      | some n =>
        have hrun : enable id false w = (.ok (), (w.switchFile n id false).saveFile n) := by
          unfold enable
          rw [run_read_bind, hid]
          rfl
        rw [run_rescue_of_returns hrun]
        simp

theorem enableAll_all_or_nothing_iff (w : RepoWorld) (ids : List String) (value : Bool)
    (order : Order Nat) :
    (FailureChangesNothing w ids value order ↔
        ∀ before id after, ids = before ++ id :: after →
          (∀ i ∈ before, (w.locate i).isSome = true) → w.locate id = none →
          ∀ i ∈ before, enabledInMemory w i = some value) ∧
      (DisableReports w ids order ↔ ∀ id ∈ ids, (w.locate id).isSome = true) :=
  ⟨failureChangesNothing_iff w ids value order, disableReports_iff w ids order⟩

/-- A file with two repositories, both switched on. -/
def epelPair : KeyData where
  groups := [("epel", [("name", "EPEL"), ("enabled", "1")]),
    ("epel-testing", [("name", "EPEL Testing"), ("enabled", "1")])]
  nodup := by simp

/-- The manager after it has loaded this file. -/
def loadedPair : RepoWorld :=
  runCalls false (unloaded [(⟨basedir, "epel.repo"⟩, epelPair)]) [.loadDir basedir (asListed _)]

/-- A list with an unknown id fails and leaves the id before it switched off in memory; the
next call for the other repository of the file writes this switch, which it does not do
without the failed call. And `disable` of the list throws. -/
theorem failed_switch_is_written_later :
    ¬ FailureChangesNothing loadedPair ["epel", "ghost"] false (asListed _) ∧
      ¬ DisableReports loadedPair ["epel", "ghost"] (asListed _) ∧
      ((runCalls false (enableAll ["epel", "ghost"] false (asListed _) loadedPair).2
          [.enable "epel-testing" true]).onDisk ⟨basedir, "epel.repo"⟩ "epel").map (·.enabled) =
        some false ∧
      ((runCalls false loadedPair
          [.enable "epel-testing" true]).onDisk ⟨basedir, "epel.repo"⟩ "epel").map (·.enabled) =
        some true := by
  have hfails : (enableAll ["epel", "ghost"] false (asListed _) loadedPair).1 =
      .error (unknownRepository "ghost") := by
    decide
  refine ⟨?_, ?_, by decide, by decide⟩
  · intro h
    obtain ⟨hsame, -⟩ := h _ _ (Prod.ext hfails rfl)
    revert hsame
    decide
  · rintro ⟨h, -⟩
    refine h (unknownRepository "ghost")
      (disableAll false .RPM ["epel", "ghost"] (asListed _) loadedPair).2 (Prod.ext ?_ rfl)
    decide

end RPMRepoManager

end OpenCattus
