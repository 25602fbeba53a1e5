import Mathlib.Data.List.Basic
import Mathlib.Data.List.Infix
import Mathlib.Data.List.Nodup
import OpenCattus.Foundations.Program

/-!
# A file system of regular files and directories

Paths are the names from the root. Every entry of a `FileSystem` has a directory above it, and a
path has one entry at most; both are fields of the structure.

Each operation is described by what `lookup` finds afterwards (`lookup_put`, `lookup_removeAll`,
`lookup_clear`, `lookup_makeDirectories`).
-/

namespace Foundations

abbrev Path := List String

inductive Entry where
  | file (content : String)
  | directory
  deriving DecidableEq, Repr

/-- Why an operation fails, in the words of `std::errc`. -/
inductive Errc where
  | noSuchFileOrDirectory
  | notADirectory
  | isADirectory
  | fileExists
  | directoryNotEmpty
  deriving DecidableEq, Repr

structure FileSystem where
  entries : List (Path × Entry)
  nodup : (entries.map Prod.fst).Nodup
  parents : ∀ e ∈ entries,
    e.1 ≠ [] ∧ (e.1.dropLast = [] ∨ (e.1.dropLast, Entry.directory) ∈ entries)
  deriving DecidableEq

namespace FileSystem

theorem lookup_eq_some_of_nodup {entries : List (Path × Entry)}
    (h : (entries.map Prod.fst).Nodup) {p : Path} {e : Entry} :
    entries.lookup p = some e ↔ (p, e) ∈ entries := by
  induction entries with
  | nil => simp
  | cons head rest ih =>
    obtain ⟨q, entry⟩ := head
    rw [List.map_cons, List.nodup_cons] at h
    rw [List.lookup_cons, List.mem_cons]
    by_cases hq : p = q
    · obtain rfl := hq
      have hrest : (p, e) ∉ rest := fun hmem => h.1 (List.mem_map.mpr ⟨_, hmem, rfl⟩)
      simp [hrest, eq_comm]
    · have hbeq : (p == q) = false := beq_false_of_ne hq
      simp [hbeq, hq, ih h.2]

/-! ## Looking up -/

/-- What stands at a path; the root is always there. -/
def lookup (fs : FileSystem) (p : Path) : Option Entry :=
  if p = [] then some .directory else fs.entries.lookup p

@[simp] theorem lookup_nil (fs : FileSystem) : fs.lookup [] = some .directory := rfl

theorem lookup_eq_some {fs : FileSystem} {p : Path} {e : Entry} (hp : p ≠ []) :
    fs.lookup p = some e ↔ (p, e) ∈ fs.entries := by
  rw [lookup, if_neg hp]
  exact lookup_eq_some_of_nodup fs.nodup

theorem lookup_of_mem {fs : FileSystem} {p : Path} {e : Entry} (h : (p, e) ∈ fs.entries) :
    fs.lookup p = some e :=
  (lookup_eq_some (fs.parents _ h).1).mpr h

/-- Above an entry there is a directory. -/
theorem lookup_parent {fs : FileSystem} {p : Path} {name : String} {e : Entry}
    (h : fs.lookup (p ++ [name]) = some e) : fs.lookup p = some .directory := by
  have hmem := (lookup_eq_some (by simp)).mp h
  have hparent := (fs.parents _ hmem).2
  rw [List.dropLast_concat] at hparent
  rcases hparent with rfl | hparent
  · rfl
  · exact lookup_of_mem hparent

def isFile (fs : FileSystem) (p : Path) : Bool :=
  match fs.lookup p with
  | some (.file _) => true
  | _ => false

/-- The names in a directory. -/
def children (fs : FileSystem) (p : Path) : List String :=
  (fs.entries.map Prod.fst).filterMap fun q => if q.dropLast = p then q.getLast? else none

theorem eq_concat {p q : Path} {name : String}
    (h : (if q.dropLast = p then q.getLast? else none) = some name) : q = p ++ [name] := by
  split at h
  · rename_i hq
    obtain ⟨front, rfl⟩ := List.getLast?_eq_some_iff.mp h
    rw [List.dropLast_concat] at hq
    rw [hq]
  · cases h

theorem mem_children {fs : FileSystem} {p : Path} {name : String} :
    name ∈ fs.children p ↔ ∃ e, fs.lookup (p ++ [name]) = some e := by
  unfold children
  rw [List.mem_filterMap]
  constructor
  · rintro ⟨q, hmem, hname⟩
    obtain rfl := eq_concat hname
    obtain ⟨⟨_, e⟩, hentry, rfl⟩ := List.mem_map.mp hmem
    exact ⟨e, lookup_of_mem hentry⟩
  · rintro ⟨e, h⟩
    have hmem := (lookup_eq_some (by simp)).mp h
    exact ⟨p ++ [name], List.mem_map_of_mem hmem, by simp⟩

/-- What has an entry under it is a directory. -/
theorem directory_of_append {fs : FileSystem} {p r : Path} {e : Entry} (hr : r ≠ [])
    (h : fs.lookup (p ++ r) = some e) : fs.lookup p = some .directory := by
  induction r using List.reverseRecOn generalizing e with
  | nil => exact absurd rfl hr
  | append_singleton r name ih =>
    rw [← List.append_assoc] at h
    have hparent := lookup_parent h
    by_cases hnil : r = []
    · rwa [hnil, List.append_nil] at hparent
    · exact ih hnil hparent

/-! ## Changing entries -/

/-- A new entry, in place of the old one; a directory cannot become a file. -/
def put (fs : FileSystem) (p : Path) (e : Entry)
    (h : p ≠ [] ∧ fs.lookup p.dropLast = some .directory ∧
      (fs.lookup p = some .directory → e = .directory)) : FileSystem where
  entries := fs.entries.filter (·.1 ≠ p) ++ [(p, e)]
  nodup := by
    rw [List.map_append, List.nodup_append]
    refine ⟨(List.filter_sublist.map _).nodup fs.nodup, by simp, ?_⟩
    intro q hq r hr
    obtain ⟨entry, hentry, rfl⟩ := List.mem_map.mp hq
    obtain rfl : r = p := by simpa using hr
    simpa using (List.mem_filter.mp hentry).2
  parents := by
    obtain ⟨hp, hparent, hkeep⟩ := h
    have habove : ∀ q, (q = [] ∨ (q, Entry.directory) ∈ fs.entries) →
        q = [] ∨ (q, Entry.directory) ∈ fs.entries.filter (·.1 ≠ p) ++ [(p, e)] := by
      rintro q (hq | hq)
      · exact .inl hq
      · right
        by_cases hqp : q = p
        · obtain rfl := hqp
          obtain rfl := hkeep (lookup_of_mem hq)
          simp
        · exact List.mem_append_left _ (List.mem_filter.mpr ⟨hq, by simpa using hqp⟩)
    intro entry hentry
    rcases List.mem_append.mp hentry with hentry | hentry
    · obtain ⟨hne, habove'⟩ := fs.parents entry (List.mem_of_mem_filter hentry)
      exact ⟨hne, habove _ habove'⟩
    · obtain rfl := List.mem_singleton.mp hentry
      refine ⟨hp, habove _ ?_⟩
      by_cases hroot : p.dropLast = []
      · exact .inl hroot
      · exact .inr ((lookup_eq_some hroot).mp hparent)

theorem lookup_put {fs : FileSystem} {p : Path} {e : Entry}
    (h : p ≠ [] ∧ fs.lookup p.dropLast = some .directory ∧
      (fs.lookup p = some .directory → e = .directory)) (q : Path) :
    (fs.put p e h).lookup q = if q = p then some e else fs.lookup q := by
  by_cases hq : q = []
  · obtain rfl := hq
    simp [Ne.symm h.1]
  · apply Option.ext
    intro entry
    rw [lookup_eq_some hq]
    split
    · rename_i heq
      simp [put, heq, eq_comm]
    · rename_i hne
      rw [lookup_eq_some hq]
      simp [put, hne]

/-- Everything at a path and under it goes. -/
def removeAll (fs : FileSystem) (p : Path) : FileSystem where
  entries := fs.entries.filter fun e => ¬ p <+: e.1
  nodup := (List.filter_sublist.map _).nodup fs.nodup
  parents := by
    intro e he
    obtain ⟨hmem, houtside⟩ := List.mem_filter.mp he
    obtain ⟨hne, hparent⟩ := fs.parents e hmem
    refine ⟨hne, hparent.imp_right fun h => List.mem_filter.mpr ⟨h, ?_⟩⟩
    have habove : ¬ p <+: e.1 := by simpa using houtside
    have hdrop : ¬ p <+: e.1.dropLast := fun hp => habove (hp.trans (List.dropLast_prefix _))
    simpa using hdrop

theorem lookup_removeAll (fs : FileSystem) (p q : Path) :
    (fs.removeAll p).lookup q = if p <+: q ∧ q ≠ [] then none else fs.lookup q := by
  by_cases hq : q = []
  · obtain rfl := hq
    simp
  · apply Option.ext
    intro entry
    rw [lookup_eq_some hq]
    by_cases hp : p <+: q
    · simp [removeAll, hp, hq]
    · rw [if_neg (by simp [hp]), lookup_eq_some hq]
      simp [removeAll, hp]

/-- Everything under a path goes. -/
def clear (fs : FileSystem) (p : Path) : FileSystem where
  entries := fs.entries.filter fun e => ¬ (p <+: e.1 ∧ e.1 ≠ p)
  nodup := (List.filter_sublist.map _).nodup fs.nodup
  parents := by
    intro e he
    obtain ⟨hmem, houtside⟩ := List.mem_filter.mp he
    obtain ⟨hne, hparent⟩ := fs.parents e hmem
    refine ⟨hne, hparent.imp_right fun h => List.mem_filter.mpr ⟨h, ?_⟩⟩
    have houtside : p <+: e.1 → e.1 = p := by simpa [imp_iff_not_or] using houtside
    have hdrop : p <+: e.1.dropLast → e.1.dropLast = p := by
      intro hp
      obtain rfl := houtside (hp.trans (List.dropLast_prefix _))
      have hlength := hp.length_le
      rw [List.length_dropLast] at hlength
      exact absurd (List.length_pos_iff.mpr hne) (by omega)
    simpa [imp_iff_not_or] using hdrop

theorem lookup_clear (fs : FileSystem) (p q : Path) :
    (fs.clear p).lookup q = if p <+: q ∧ q ≠ p then none else fs.lookup q := by
  by_cases hq : q = []
  · obtain rfl := hq
    rw [if_neg fun h => h.2 (List.prefix_nil.mp h.1).symm]
    rfl
  · apply Option.ext
    intro entry
    rw [lookup_eq_some hq]
    by_cases hp : p <+: q ∧ q ≠ p
    · simp [clear, hp]
    · rw [if_neg hp, lookup_eq_some hq]
      have hkept : ¬ p <+: q ∨ q = p := by simpa [imp_iff_not_or] using hp
      simp [clear, hkept]

theorem removeAll_eq_self {fs : FileSystem} {p : Path}
    (h : ∀ q, p <+: q → q ≠ [] → fs.lookup q = none) : fs.removeAll p = fs := by
  have hkeep : fs.entries.filter (fun e => ¬ p <+: e.1) = fs.entries := by
    apply List.filter_eq_self.mpr
    intro e he
    have houtside : ¬ p <+: e.1 := by
      intro hp
      have hnone := h e.1 hp (fs.parents e he).1
      rw [lookup_of_mem (p := e.1) (e := e.2) he] at hnone
      cases hnone
    simpa using houtside
  obtain ⟨entries, _, _⟩ := fs
  unfold removeAll
  congr

/-- A file goes alone. -/
theorem lookup_removeAll_file {fs : FileSystem} {p : Path} {content : String}
    (h : fs.lookup p = some (.file content)) (q : Path) :
    (fs.removeAll p).lookup q = if q = p then none else fs.lookup q := by
  have hp : p ≠ [] := by
    rintro rfl
    cases h
  rw [lookup_removeAll]
  by_cases hq : q = p
  · simp [hq, hp]
  · rw [if_neg hq]
    split
    · rename_i hunder
      obtain ⟨r, rfl⟩ := hunder.1
      have hr : r ≠ [] := by
        rintro rfl
        simp at hq
      cases hfound : fs.lookup (p ++ r) with
      | none => rfl
      | some e =>
        rw [directory_of_append hr hfound] at h
        cases h
    · rfl

/-- A directory where its parent is one and nothing stands in its place. -/
def addDirectory (fs : FileSystem) (p : Path) : FileSystem :=
  if h : p ≠ [] ∧ fs.lookup p.dropLast = some .directory ∧ fs.lookup p = none then
    fs.put p .directory ⟨h.1, h.2.1, fun _ => rfl⟩
  else fs

/-- The directories on the way down from `base`. -/
def addDirectories (fs : FileSystem) (base : Path) : Path → FileSystem
  | [] => fs
  | name :: rest => addDirectories (fs.addDirectory (base ++ [name])) (base ++ [name]) rest

/-- `create_directory`. -/
def makeDirectory (fs : FileSystem) (p : Path) : Except Errc FileSystem :=
  if fs.lookup p.dropLast = some .directory then .ok (fs.addDirectory p)
  else .error .noSuchFileOrDirectory

theorem lookup_addDirectory {fs : FileSystem} {p : Path} {name : String}
    (hparent : fs.lookup p = some .directory)
    (hfile : ∀ content, fs.lookup (p ++ [name]) ≠ some (.file content)) (q : Path) :
    (fs.addDirectory (p ++ [name])).lookup q =
      if q = p ++ [name] then some .directory else fs.lookup q := by
  unfold addDirectory
  split
  · exact lookup_put _ q
  · rename_i hold
    split
    · rename_i hq
      rw [hq]
      cases hfound : fs.lookup (p ++ [name]) with
      | none => exact absurd ⟨by simp, by simpa using hparent, hfound⟩ hold
      | some e =>
        cases e with
        | file content => exact absurd hfound (hfile content)
        | directory => rfl
    · rfl

theorem lookup_addDirectories {fs : FileSystem} {base rest : Path}
    (hbase : fs.lookup base = some .directory)
    (hfile : ∀ r, r <+: rest → ∀ content, fs.lookup (base ++ r) ≠ some (.file content)) (q : Path) :
    (fs.addDirectories base rest).lookup q =
      if base <+: q ∧ q <+: base ++ rest then some .directory else fs.lookup q := by
  induction rest generalizing fs base with
  | nil =>
    unfold addDirectories
    split
    · rename_i h
      rw [List.append_nil] at h
      rw [← hbase, h.2.eq_of_length_le h.1.length_le]
    · rfl
  | cons name rest ih =>
    have hname : ∀ content, fs.lookup (base ++ [name]) ≠ some (.file content) :=
      hfile [name] (by simp)
    have hstep := lookup_addDirectory hbase hname
    have hsplit : base ++ name :: rest = (base ++ [name]) ++ rest := by simp
    unfold addDirectories
    rw [ih (by rw [hstep, if_pos rfl]), hstep, hsplit]
    · by_cases hdown : base ++ [name] <+: q ∧ q <+: base ++ [name] ++ rest
      · rw [if_pos hdown, if_pos ⟨(List.prefix_append ..).trans hdown.1, hdown.2⟩]
      · have hne : q ≠ base ++ [name] := by
          rintro rfl
          exact hdown ⟨List.prefix_rfl, List.prefix_append ..⟩
        rw [if_neg hdown, if_neg hne]
        split
        · rename_i h
          obtain ⟨⟨r, rfl⟩, hq⟩ := h
          cases r with
          | nil => rw [List.append_nil, hbase]
          | cons first r =>
            rw [List.append_assoc, List.prefix_append_right_inj, List.singleton_append,
              List.cons_prefix_cons] at hq
            obtain ⟨rfl, hr⟩ := hq
            refine absurd ⟨⟨r, by simp⟩, ?_⟩ hdown
            rw [List.append_assoc, List.prefix_append_right_inj, List.singleton_append,
              List.cons_prefix_cons]
            exact ⟨rfl, hr⟩
        · rfl
    · intro r hr content
      rw [hstep]
      split
      · simp
      · rw [List.append_assoc]
        exact hfile (name :: r) (by simpa using hr) content

/-! ## Operations -/

/-- `create_directories`: nothing is created under a file. -/
def makeDirectories (fs : FileSystem) (p : Path) : Except Errc FileSystem :=
  if p.inits.any fs.isFile then .error .notADirectory else .ok (fs.addDirectories [] p)

theorem lookup_makeDirectories {fs fs' : FileSystem} {p : Path}
    (h : fs.makeDirectories p = .ok fs') (q : Path) :
    fs'.lookup q = if q <+: p then some .directory else fs.lookup q := by
  unfold makeDirectories at h
  split at h
  · cases h
  · rename_i hfile
    obtain rfl := Except.ok.inj h
    rw [lookup_addDirectories rfl]
    · simp
    · intro r hr content hfound
      rw [List.nil_append] at hfound
      apply hfile
      rw [List.any_eq_true]
      exact ⟨r, by simpa using hr, by simp [isFile, hfound]⟩

/-- The error for a file that cannot be opened. -/
def openError (fs : FileSystem) (p : Path) : Errc :=
  if fs.lookup p = some .directory then .isADirectory
  else if fs.lookup p.dropLast = none then .noSuchFileOrDirectory
  else .notADirectory

/-- The whole content of a file, which is created when it is missing. -/
def writeFile (fs : FileSystem) (p : Path) (content : String) : Except Errc FileSystem :=
  if h : p ≠ [] ∧ fs.lookup p.dropLast = some .directory ∧ fs.lookup p ≠ some .directory then
    .ok (fs.put p (.file content) ⟨h.1, h.2.1, fun hdirectory => absurd hdirectory h.2.2⟩)
  else .error (fs.openError p)

theorem lookup_writeFile {fs fs' : FileSystem} {p : Path} {content : String}
    (h : fs.writeFile p content = .ok fs') (q : Path) :
    fs'.lookup q = if q = p then some (.file content) else fs.lookup q := by
  unfold writeFile at h
  split at h
  · obtain rfl := Except.ok.inj h
    exact lookup_put _ q
  · cases h

/-- A file can be written in a directory, unless it is one. -/
theorem exists_writeFile {fs : FileSystem} {path : Path} {name : String}
    (hdirectory : fs.lookup path = some .directory)
    (hfile : fs.lookup (path ++ [name]) ≠ some .directory) (content : String) :
    ∃ fs', fs.writeFile (path ++ [name]) content = .ok fs' ∧ ∀ q,
      fs'.lookup q = if q = path ++ [name] then some (.file content) else fs.lookup q := by
  have hwritten : ∃ fs', fs.writeFile (path ++ [name]) content = .ok fs' := by
    unfold writeFile
    rw [dif_pos ⟨by simp, by simpa using hdirectory, hfile⟩]
    exact ⟨_, rfl⟩
  obtain ⟨fs', hwritten⟩ := hwritten
  exact ⟨fs', hwritten, lookup_writeFile hwritten⟩

/-- A stream in append mode creates a missing file, and leaves the content of another. -/
def openAppend (fs : FileSystem) (p : Path) : Except Errc FileSystem :=
  if fs.isFile p then .ok fs else fs.writeFile p ""

/-- What a stream reads; nothing from a path that is no file. -/
def readFile (fs : FileSystem) (p : Path) : String :=
  match fs.lookup p with
  | some (.file content) => content
  | _ => ""

/-- `remove`: a directory has to be empty. -/
def remove (fs : FileSystem) (p : Path) : Except Errc FileSystem :=
  if fs.children p = [] then .ok (fs.removeAll p) else .error .directoryNotEmpty

/-- `copy_file`: nothing may stand at the destination. -/
def copyRegular (fs : FileSystem) (source destination : Path) : Except Errc FileSystem :=
  match fs.lookup source with
  | some (.file content) =>
    if fs.lookup destination = none then fs.writeFile destination content else .error .fileExists
  | some .directory => .error .isADirectory
  | none => .error .noSuchFileOrDirectory

/-- A file that is copied to a directory keeps its name. -/
def copyTarget (fs : FileSystem) (source destination : Path) : Path :=
  if fs.lookup destination = some .directory then destination ++ source.getLast?.toList
  else destination

/-- `copy` with no options: of a directory the files, not the directories in it. -/
def copy (source destination : Path) : Program FileSystem Errc Unit := do
  let fs ← Program.read
  match fs.lookup source with
  | none => Program.raise .noSuchFileOrDirectory
  | some (.file _) =>
    Program.revise fun fs => fs.copyRegular source (fs.copyTarget source destination)
  | some .directory =>
    if source = destination then Program.raise .fileExists
    else if fs.isFile destination then Program.raise .isADirectory
    else do
      if fs.lookup destination = none then
        Program.revise fun fs => fs.makeDirectory destination
      fs.children source |> Program.each fun name =>
        if fs.isFile (source ++ [name]) then
          Program.revise fun fs => fs.copyRegular (source ++ [name])
            (fs.copyTarget (source ++ [name]) (destination ++ [name]))
        else pure ()

end FileSystem

end Foundations
