import OpenCattus.Functions.Files

/-!
# Backing up files by extension

What `backupFilesByExtension` leaves in the source and in the backup directory.

`run_copyFiles` and `run_removeFiles` are the results of the two loops, and `backup_keeps_iff`
says when no file is lost: the copy compares extensions exactly and does nothing in a dry run,
while the removal ignores the letter case and the option.
-/

namespace OpenCattus

open Foundations Foundations.Text Program

variable {opts : FileOptions} {source destination : Path} {extension : String}

/-! ## The loops -/

/-- One round of the removal. -/
def removeRound (path : Path) (extension name : String) : FileProgram Unit := do
  let fs ← read
  if fs.isFile (path ++ [name]) then
    if lower (extensionOf name) = lower extension then attempt (·.remove (path ++ [name]))

/-- One round of the copy. -/
def copyRound (opts : FileOptions) (source destination : Path) (extension name : String) :
    FileProgram Unit := do
  let fs ← read
  if fs.isFile (source ++ [name]) ∧ extensionOf name = extension then
    copyFile opts (source ++ [name]) (destination ++ [name])

theorem run_directoryIterator {fs : FileSystem} {path : Path} {α : Type}
    (h : fs.lookup path = some .directory) (f : List String → FileProgram α) :
    (directoryIterator path >>= f) fs = f (fs.children path) fs := by
  apply run_bind_of_returns
  simp only [directoryIterator, run_read_bind, h]
  rfl

/-- Nothing happens where there is no directory. -/
theorem run_directoryIterator_error {fs : FileSystem} {path : Path} {α : Type}
    (h : fs.lookup path ≠ some .directory) (f : List String → FileProgram α) :
    ∃ e, (directoryIterator path >>= f) fs = (.error e, fs) := by
  cases hfound : fs.lookup path with
  | none =>
    refine ⟨.filesystemError .noSuchFileOrDirectory, run_bind_of_raises ?_⟩
    simp only [directoryIterator, run_read_bind, hfound]
    rfl
  | some e =>
    cases e with
    | directory => exact absurd hfound h
    | file content =>
      refine ⟨.filesystemError .notADirectory, run_bind_of_raises ?_⟩
      simp only [directoryIterator, run_read_bind, hfound]
      rfl

theorem isFile_iff {fs : FileSystem} {p : Path} :
    fs.isFile p = true ↔ ∃ content, fs.lookup p = some (.file content) := by
  unfold FileSystem.isFile
  split <;> simp_all

/-- A file whose extension matches, whatever its letter case, goes. -/
theorem run_removeRound (fs : FileSystem) (path : Path) (extension name : String) :
    (removeRound path extension name fs).1 = .ok () ∧
      ∀ q, (removeRound path extension name fs).2.lookup q =
        if q = path ++ [name] ∧ fs.isFile q ∧ lower (extensionOf name) = lower extension then none
        else fs.lookup q := by
  unfold removeRound
  rw [run_read_bind]
  split
  · rename_i hfile
    split
    · rename_i hmatch
      obtain ⟨content, hcontent⟩ := isFile_iff.mp hfile
      have hchildren : fs.children (path ++ [name]) = [] := by
        apply List.eq_nil_iff_forall_not_mem.mpr
        intro child hchild
        obtain ⟨e, he⟩ := FileSystem.mem_children.mp hchild
        rw [FileSystem.lookup_parent he] at hcontent
        cases hcontent
      have hrun : attempt (·.remove (path ++ [name])) fs =
          (.ok (), fs.removeAll (path ++ [name])) := by
        simp [attempt, revise, FileSystem.remove, hchildren, Except.mapError]
      rw [hrun]
      refine ⟨rfl, fun q => ?_⟩
      rw [FileSystem.lookup_removeAll_file hcontent]
      by_cases hq : q = path ++ [name]
      · rw [if_pos hq, if_pos ⟨hq, hq ▸ hfile, hmatch⟩]
      · rw [if_neg hq, if_neg (fun h => hq h.1)]
    · rename_i hmatch
      exact ⟨rfl, fun q => by simp [hmatch, pure]⟩
  · rename_i hfile
    refine ⟨rfl, fun q => ?_⟩
    rw [if_neg]
    · rfl
    · rintro ⟨rfl, h, -⟩
      exact hfile h

/-- What is at a path when the files with the extension among `names` are gone. -/
def afterRemoval (path : Path) (extension : String) (names : List String) (fs : FileSystem)
    (q : Path) : Option Entry :=
  if (∃ name ∈ names, q = path ++ [name] ∧ lower (extensionOf name) = lower extension) ∧
    fs.isFile q then none
  else fs.lookup q

theorem isFile_congr {fs fs' : FileSystem} {p : Path} (h : fs'.lookup p = fs.lookup p) :
    fs'.isFile p = fs.isFile p := by
  rw [FileSystem.isFile, FileSystem.isFile, h]

theorem afterRemoval_removeRound (fs : FileSystem) (path : Path) (extension name : String)
    (names : List String) (q : Path) :
    afterRemoval path extension names (removeRound path extension name fs).2 q =
      afterRemoval path extension (name :: names) fs q := by
  have hround := (run_removeRound fs path extension name).2 q
  unfold afterRemoval
  by_cases hgone : q = path ++ [name] ∧ fs.isFile q ∧ lower (extensionOf name) = lower extension
  · rw [if_pos hgone] at hround
    have hnone : (removeRound path extension name fs).2.isFile q = false := by
      rw [FileSystem.isFile, hround]
    rw [if_neg (by simp [hnone]), if_pos ⟨⟨name, by simp, hgone.1, hgone.2.2⟩, hgone.2.1⟩, hround]
  · rw [if_neg hgone] at hround
    rw [isFile_congr hround, hround]
    have hnames : (∃ n ∈ name :: names, q = path ++ [n] ∧ lower (extensionOf n) = lower extension) ∧
          fs.isFile q = true ↔
        (∃ n ∈ names, q = path ++ [n] ∧ lower (extensionOf n) = lower extension) ∧
          fs.isFile q = true := by
      refine and_congr_left fun hfile => ?_
      rw [List.exists_mem_cons_iff, or_iff_right fun h => hgone ⟨h.1, hfile, h.2⟩]
    rw [if_congr hnames rfl rfl]

theorem run_removeFiles (path : Path) (extension : String) (names : List String)
    (fs : FileSystem) :
    (each (removeRound path extension) names fs).1 = .ok () ∧
      ∀ q, (each (removeRound path extension) names fs).2.lookup q =
        afterRemoval path extension names fs q := by
  have hloop := run_each (removeRound path extension)
    (P := fun rest s => ∀ q, afterRemoval path extension rest s q =
      afterRemoval path extension names fs q)
    (fun name rest s h => ⟨(run_removeRound s path extension name).1, fun q =>
      (afterRemoval_removeRound s path extension name rest q).trans (h q)⟩)
    names (fun _ => rfl)
  refine ⟨hloop.1, fun q => ?_⟩
  rw [← hloop.2 q]
  simp [afterRemoval]

/-- What is at a path when the files with the extension among `names` are copied to where nothing
is. -/
def afterCopy (source destination : Path) (extension : String) (names : List String)
    (fs : FileSystem) (q : Path) : Option Entry :=
  if (∃ name ∈ names, q = destination ++ [name] ∧ extensionOf name = extension ∧
      fs.isFile (source ++ [name])) ∧ fs.lookup q = none then
    fs.lookup (source ++ q.getLast?.toList)
  else fs.lookup q

/-- A place for copies: another directory than the source, with no directories in it. -/
structure TakesCopies (source destination : Path) (fs : FileSystem) : Prop where
  ne : source ≠ destination
  directory : fs.lookup destination = some .directory
  flat : ∀ name, fs.lookup (destination ++ [name]) ≠ some .directory

/-- A file is copied to where nothing is, and a file that is there is left. -/
theorem run_copyFile {fs : FileSystem} (hopts : opts.dryRun = false)
    (h : TakesCopies source destination fs) {name content : String}
    (hcontent : fs.lookup (source ++ [name]) = some (.file content)) :
    (copyFile opts (source ++ [name]) (destination ++ [name]) fs).1 = .ok () ∧
      ∀ q, (copyFile opts (source ++ [name]) (destination ++ [name]) fs).2.lookup q =
        if q = destination ++ [name] ∧ fs.lookup q = none then some (.file content)
        else fs.lookup q := by
  have htarget : fs.copyTarget (source ++ [name]) (destination ++ [name]) =
      destination ++ [name] := by
    rw [FileSystem.copyTarget, if_neg (h.flat name)]
  have hcopy : FileSystem.copy (source ++ [name]) (destination ++ [name]) fs =
      revise (fun fs => fs.copyRegular (source ++ [name])
        (fs.copyTarget (source ++ [name]) (destination ++ [name]))) fs := by
    unfold FileSystem.copy
    rw [run_read_bind, hcontent]
  unfold copyFile
  rw [hopts, if_neg Bool.false_ne_true, run_mapResult, hcopy]
  by_cases hfree : fs.lookup (destination ++ [name]) = none
  · obtain ⟨fs', hwrite, -⟩ := FileSystem.exists_writeFile h.directory (h.flat name) content
    have hnew : fs.copyRegular (source ++ [name])
        (fs.copyTarget (source ++ [name]) (destination ++ [name])) = .ok fs' := by
      rw [htarget, FileSystem.copyRegular, hcontent]
      exact (if_pos hfree).trans hwrite
    rw [run_revise_ok hnew]
    refine ⟨rfl, fun q => ?_⟩
    rw [FileSystem.lookup_writeFile hwrite]
    by_cases hq : q = destination ++ [name]
    · rw [if_pos hq, if_pos ⟨hq, hq ▸ hfree⟩]
    · rw [if_neg hq, if_neg fun hboth => hq hboth.1]
  · rw [run_revise_error (e := .fileExists) (by
      rw [htarget, FileSystem.copyRegular, hcontent]
      exact if_neg hfree)]
    refine ⟨rfl, fun q => ?_⟩
    rw [if_neg]
    rintro ⟨rfl, hnone⟩
    exact hfree hnone

theorem run_copyRound {fs : FileSystem} (hopts : opts.dryRun = false)
    (h : TakesCopies source destination fs) (extension name : String) :
    (copyRound opts source destination extension name fs).1 = .ok () ∧
      ∀ q, (copyRound opts source destination extension name fs).2.lookup q =
        afterCopy source destination extension [name] fs q := by
  unfold copyRound afterCopy
  rw [run_read_bind]
  by_cases hmatch : fs.isFile (source ++ [name]) ∧ extensionOf name = extension
  · rw [if_pos hmatch]
    obtain ⟨content, hcontent⟩ := isFile_iff.mp hmatch.1
    obtain ⟨hok, hlookup⟩ := run_copyFile hopts h hcontent
    refine ⟨hok, fun q => ?_⟩
    rw [hlookup]
    by_cases hq : q = destination ++ [name]
    · obtain rfl := hq
      have hlast : (destination ++ [name]).getLast?.toList = [name] := by simp
      have hexists : ∃ n ∈ [name], destination ++ [name] = destination ++ [n] ∧
          extensionOf n = extension ∧ fs.isFile (source ++ [n]) = true :=
        ⟨name, List.mem_singleton.mpr rfl, rfl, hmatch.2, hmatch.1⟩
      rw [hlast, hcontent]
      exact if_congr ⟨fun h => ⟨hexists, h.2⟩, fun h => ⟨rfl, h.2⟩⟩ rfl rfl
    · rw [if_neg fun hboth => hq hboth.1, if_neg]
      rintro ⟨⟨_, hn, hqn, -⟩, -⟩
      obtain rfl := List.mem_singleton.mp hn
      exact hq hqn
  · rw [if_neg hmatch]
    refine ⟨rfl, fun q => ?_⟩
    rw [if_neg]
    · rfl
    · rintro ⟨⟨_, hn, -, hext, hfile⟩, -⟩
      obtain rfl := List.mem_singleton.mp hn
      exact hmatch ⟨hfile, hext⟩

/-- A copy leaves a place for copies, and the source as it is. -/
theorem TakesCopies.afterRound {fs fs' : FileSystem} (h : TakesCopies source destination fs)
    {names : List String} (hlookup : ∀ q, fs'.lookup q =
      afterCopy source destination extension names fs q) :
    TakesCopies source destination fs' ∧
      ∀ name, fs'.lookup (source ++ [name]) = fs.lookup (source ++ [name]) := by
  have hsource : ∀ name, fs'.lookup (source ++ [name]) = fs.lookup (source ++ [name]) := by
    intro name
    rw [hlookup, afterCopy, if_neg]
    rintro ⟨⟨n, -, heq, -⟩, -⟩
    exact h.ne (List.append_inj_left' heq rfl)
  refine ⟨⟨h.ne, ?_, ?_⟩, hsource⟩
  · rw [hlookup, afterCopy, if_neg (by simp [h.directory])]
    exact h.directory
  · intro name
    rw [hlookup, afterCopy]
    split
    · rename_i hcopied
      obtain ⟨⟨n, -, heq, -, hfile⟩, -⟩ := hcopied
      obtain ⟨content, hcontent⟩ := isFile_iff.mp hfile
      obtain rfl : name = n := by simpa using heq
      have hlast : (destination ++ [name]).getLast?.toList = [name] := by simp
      rw [hlast, hcontent]
      simp
    · exact h.flat name

theorem afterCopy_copyRound {fs fs' : FileSystem} (h : TakesCopies source destination fs)
    {name : String}
    (hround : ∀ q, fs'.lookup q = afterCopy source destination extension [name] fs q)
    (names : List String) (q : Path) :
    afterCopy source destination extension names fs' q =
      afterCopy source destination extension (name :: names) fs q := by
  have hsource := (h.afterRound hround).2
  have hq := hround q
  unfold afterCopy at hq ⊢
  by_cases hcopied : (∃ n ∈ [name], q = destination ++ [n] ∧ extensionOf n = extension ∧
      fs.isFile (source ++ [n])) ∧ fs.lookup q = none
  · rw [if_pos hcopied] at hq
    obtain ⟨⟨n, hn, rfl, hext, hfile⟩, hnone⟩ := hcopied
    obtain rfl := List.mem_singleton.mp hn
    obtain ⟨content, hcontent⟩ := isFile_iff.mp hfile
    have hlast : (destination ++ [n]).getLast?.toList = [n] := by simp
    rw [hlast] at hq
    rw [if_neg (by rw [hq, hcontent]; simp), hlast, hq,
      if_pos ⟨⟨n, by simp, rfl, hext, hfile⟩, hnone⟩]
  · rw [if_neg hcopied] at hq
    rw [hq]
    by_cases hnone : fs.lookup q = none
    · have hnames : (∃ n ∈ names, q = destination ++ [n] ∧ extensionOf n = extension ∧
            fs'.isFile (source ++ [n])) ↔
          ∃ n ∈ name :: names, q = destination ++ [n] ∧ extensionOf n = extension ∧
            fs.isFile (source ++ [n]) := by
        have hhead : ¬ (q = destination ++ [name] ∧ extensionOf name = extension ∧
            fs.isFile (source ++ [name])) :=
          fun hhead => hcopied ⟨⟨name, List.mem_singleton.mpr rfl, hhead⟩, hnone⟩
        rw [List.exists_mem_cons_iff, or_iff_right hhead]
        exact exists_congr fun n => and_congr_right fun _ => by rw [isFile_congr (hsource n)]
      by_cases hlater : ∃ n ∈ name :: names, q = destination ++ [n] ∧ extensionOf n = extension ∧
          fs.isFile (source ++ [n])
      · rw [if_pos ⟨hnames.mpr hlater, hnone⟩, if_pos ⟨hlater, hnone⟩]
        obtain ⟨n, -, rfl, -⟩ := hlater
        simpa using hsource n
      · rw [if_neg fun hboth => hlater (hnames.mp hboth.1), if_neg fun hboth => hlater hboth.1]
    · rw [if_neg fun hboth => hnone hboth.2, if_neg fun hboth => hnone hboth.2]

theorem run_copyFiles {fs : FileSystem} (hopts : opts.dryRun = false)
    (h : TakesCopies source destination fs) (extension : String) (names : List String) :
    (each (copyRound opts source destination extension) names fs).1 = .ok () ∧
      ∀ q, (each (copyRound opts source destination extension) names fs).2.lookup q =
        afterCopy source destination extension names fs q := by
  have hloop := run_each (copyRound opts source destination extension)
    (P := fun rest s => TakesCopies source destination s ∧
      ∀ q, afterCopy source destination extension rest s q =
        afterCopy source destination extension names fs q)
    (fun name rest s hs => by
      obtain ⟨hok, hround⟩ := run_copyRound hopts hs.1 extension name
      exact ⟨hok, (hs.1.afterRound hround).1, fun q =>
        (afterCopy_copyRound hs.1 hround rest q).trans (hs.2 q)⟩)
    names ⟨h, fun _ => rfl⟩
  refine ⟨hloop.1, fun q => ?_⟩
  rw [← hloop.2.2 q]
  simp [afterCopy]

/-! ## The backup -/

/-- Every regular file of the source directory is in the source or in the backup directory, and
one that is gone from the source is in the backup directory. -/
structure Kept (source backup : Path) (old new : FileSystem) : Prop where
  kept : ∀ name content, old.lookup (source ++ [name]) = some (.file content) →
    new.lookup (source ++ [name]) = some (.file content) ∨
      new.lookup (backup ++ [name]) = some (.file content)
  moved : ∀ name content, old.lookup (source ++ [name]) = some (.file content) →
    new.lookup (source ++ [name]) ≠ some (.file content) →
      new.lookup (backup ++ [name]) = some (.file content)

theorem kept_iff {source backup : Path} {old new : FileSystem} :
    Kept source backup old new ↔
      ∀ name content, old.lookup (source ++ [name]) = some (.file content) →
        new.lookup (source ++ [name]) = some (.file content) ∨
          new.lookup (backup ++ [name]) = some (.file content) := by
  refine ⟨Kept.kept, fun h => ⟨h, fun name content hfile hgone => ?_⟩⟩
  exact (h name content hfile).resolve_left hgone

/-- `create_directories` succeeds where nothing is: no file is on the way. -/
def Creatable (fs : FileSystem) (p : Path) : Prop :=
  ∀ q, q <+: p → q ≠ p → fs.isFile q = false

/-- The extensions that the removal takes for the given one. -/
def SameExtension (extension name : String) : Prop := lower (extensionOf name) = lower extension

instance (extension name : String) : Decidable (SameExtension extension name) :=
  inferInstanceAs (Decidable (_ = _))

theorem removeFilesWithExtension_eq (path : Path) (extension : String) :
    removeFilesWithExtension path extension =
      directoryIterator path >>= each (removeRound path extension) := rfl

theorem copyFilesWithExtension_eq (opts : FileOptions) (source destination : Path)
    (extension : String) :
    copyFilesWithExtension opts source destination extension =
      directoryIterator source >>= each (copyRound opts source destination extension) := rfl

theorem lookup_child_of_none {fs : FileSystem} {p : Path} (h : fs.lookup p ≠ some .directory)
    (name : String) : fs.lookup (p ++ [name]) = none := by
  cases hfound : fs.lookup (p ++ [name]) with
  | none => rfl
  | some e => exact absurd (FileSystem.lookup_parent hfound) h

theorem removeFiles_lookup (fs : FileSystem) (path : Path) (extension : String) (q : Path) :
    (removeFilesWithExtension path extension fs).2.lookup q =
      afterRemoval path extension (fs.children path) fs q := by
  rw [removeFilesWithExtension_eq]
  by_cases hdirectory : fs.lookup path = some .directory
  · rw [run_directoryIterator hdirectory]
    exact (run_removeFiles ..).2 q
  · obtain ⟨e, he⟩ := run_directoryIterator_error hdirectory (each (removeRound path extension))
    have hchildren : fs.children path = [] := by
      apply List.eq_nil_iff_forall_not_mem.mpr
      intro name hname
      obtain ⟨entry, hentry⟩ := FileSystem.mem_children.mp hname
      exact hdirectory (FileSystem.lookup_parent hentry)
    rw [he, hchildren]
    simp [afterRemoval]

theorem removeFiles_file_iff {fs : FileSystem} {path : Path} {extension name content : String} :
    (removeFilesWithExtension path extension fs).2.lookup (path ++ [name]) = some (.file content) ↔
      fs.lookup (path ++ [name]) = some (.file content) ∧ ¬ SameExtension extension name := by
  rw [removeFiles_lookup, afterRemoval]
  by_cases hfile : fs.lookup (path ++ [name]) = some (.file content)
  · have hcond : ((∃ n ∈ fs.children path, path ++ [name] = path ++ [n] ∧
        lower (extensionOf n) = lower extension) ∧ fs.isFile (path ++ [name]) = true) ↔
          SameExtension extension name := by
      constructor
      · rintro ⟨⟨n, -, heq, hsame⟩, -⟩
        obtain rfl : name = n := by simpa using heq
        exact hsame
      · intro hsame
        exact ⟨⟨name, FileSystem.mem_children.mpr ⟨_, hfile⟩, rfl, hsame⟩,
          isFile_iff.mpr ⟨content, hfile⟩⟩
    rw [if_congr hcond rfl rfl, hfile]
    split <;> simp_all
  · constructor
    · intro h
      split at h
      · cases h
      · exact absurd h hfile
    · rintro ⟨h, -⟩
      exact absurd h hfile

theorem removeFiles_lookup_of_ne {fs : FileSystem} {path other : Path} (hne : path ≠ other)
    (extension name : String) :
    (removeFilesWithExtension path extension fs).2.lookup (other ++ [name]) =
      fs.lookup (other ++ [name]) := by
  rw [removeFiles_lookup, afterRemoval, if_neg]
  rintro ⟨⟨n, -, heq, -⟩, -⟩
  exact hne (List.append_inj_left' heq rfl).symm

/-- In a dry run the copy does nothing. -/
theorem copyFiles_dryRun (hopts : opts.dryRun = true) {fs : FileSystem}
    (hdirectory : fs.lookup source = some .directory) :
    copyFilesWithExtension opts source destination extension fs = (.ok (), fs) := by
  have hround : ∀ name s, copyRound opts source destination extension name s = (.ok (), s) := by
    intro name s
    unfold copyRound copyFile
    rw [run_read_bind, hopts, if_pos rfl]
    split <;> rfl
  have hloop := run_each (copyRound opts source destination extension)
    (P := fun _ s => s = fs) (fun name _ s hs => by rw [hround, hs]; exact ⟨rfl, rfl⟩)
    (fs.children source) rfl
  rw [copyFilesWithExtension_eq, run_directoryIterator hdirectory]
  exact Prod.ext hloop.1 hloop.2

theorem moveFiles_of_not_directory {fs : FileSystem}
    (hdirectory : fs.lookup source ≠ some .directory) :
    (moveFilesWithExtension opts source destination extension fs).2 = fs := by
  obtain ⟨e, he⟩ := run_directoryIterator_error hdirectory
    (each (copyRound opts source destination extension))
  unfold moveFilesWithExtension
  rw [run_bind_of_raises (copyFilesWithExtension_eq .. ▸ he)]

theorem moveFiles_of_empty {fs : FileSystem} (hdirectory : fs.lookup source = some .directory)
    (hempty : ∀ name, fs.lookup (source ++ [name]) = none) :
    (moveFilesWithExtension opts source destination extension fs).2 = fs := by
  have hchildren : fs.children source = [] := by
    apply List.eq_nil_iff_forall_not_mem.mpr
    intro name hname
    obtain ⟨e, he⟩ := FileSystem.mem_children.mp hname
    rw [hempty] at he
    cases he
  have hcopy : copyFilesWithExtension opts source destination extension fs = (.ok (), fs) := by
    rw [copyFilesWithExtension_eq, run_directoryIterator hdirectory, hchildren]
    rfl
  unfold moveFilesWithExtension
  rw [run_bind_of_returns hcopy, removeFilesWithExtension_eq, run_directoryIterator hdirectory,
    hchildren]
  rfl

/-- In a dry run a move is a removal. -/
theorem moveFiles_dryRun (hopts : opts.dryRun = true) (fs : FileSystem) :
    (moveFilesWithExtension opts source destination extension fs).2 =
      (removeFilesWithExtension source extension fs).2 := by
  by_cases hdirectory : fs.lookup source = some .directory
  · unfold moveFilesWithExtension
    rw [run_bind_of_returns (copyFiles_dryRun hopts hdirectory)]
  · obtain ⟨e, he⟩ := run_directoryIterator_error hdirectory (each (removeRound source extension))
    rw [moveFiles_of_not_directory hdirectory, removeFilesWithExtension_eq, he]

/-- Moving the files of a directory to an empty one. -/
theorem moveFiles_iff {fs : FileSystem} (hopts : opts.dryRun = false)
    (hsource : fs.lookup source = some .directory) (h : TakesCopies source destination fs)
    (hfree : ∀ name, fs.lookup (destination ++ [name]) = none) {name content : String} :
    let new := (moveFilesWithExtension opts source destination extension fs).2
    (new.lookup (source ++ [name]) = some (.file content) ↔
        fs.lookup (source ++ [name]) = some (.file content) ∧ ¬ SameExtension extension name) ∧
      (new.lookup (destination ++ [name]) = some (.file content) ↔
        fs.lookup (source ++ [name]) = some (.file content) ∧ extensionOf name = extension) := by
  obtain ⟨hok, hcopied⟩ := run_copyFiles hopts h extension (fs.children source)
  have hcopy : copyFilesWithExtension opts source destination extension fs =
      (.ok (), (each (copyRound opts source destination extension) (fs.children source) fs).2) := by
    rw [copyFilesWithExtension_eq, run_directoryIterator hsource]
    exact Prod.ext hok rfl
  unfold moveFilesWithExtension
  rw [run_bind_of_returns hcopy]
  refine ⟨?_, ?_⟩
  · rw [removeFiles_file_iff, (h.afterRound hcopied).2]
  · rw [removeFiles_lookup_of_ne h.ne, hcopied, afterCopy]
    have hlast : (destination ++ [name]).getLast?.toList = [name] := by simp
    rw [hlast, hfree]
    constructor
    · intro hfound
      split at hfound
      · rename_i hcond
        obtain ⟨⟨n, -, heq, hext, -⟩, -⟩ := hcond
        obtain rfl : name = n := by simpa using heq
        exact ⟨hfound, hext⟩
      · cases hfound
    · rintro ⟨hfile, hext⟩
      rw [if_pos ⟨⟨name, FileSystem.mem_children.mpr ⟨_, hfile⟩, rfl, hext,
        isFile_iff.mpr ⟨content, hfile⟩⟩, rfl⟩, hfile]

theorem creatable_iff {fs : FileSystem} {p : Path} (hmissing : fs.lookup p = none) :
    Creatable fs p ↔ ∃ fs', fs.makeDirectories p = .ok fs' := by
  have hself : fs.isFile p = false := by
    rw [FileSystem.isFile, hmissing]
  have hany : p.inits.any fs.isFile = true ↔ ¬ Creatable fs p := by
    rw [List.any_eq_true, Creatable]
    push Not
    constructor
    · rintro ⟨q, hq, hfile⟩
      refine ⟨q, by simpa using hq, ?_, by simp [hfile]⟩
      rintro rfl
      rw [hself] at hfile
      cases hfile
    · rintro ⟨q, hq, -, hfile⟩
      exact ⟨q, by simpa using hq, by simpa using hfile⟩
  unfold FileSystem.makeDirectories
  split
  · rename_i hfile
    simp [hany.mp hfile]
  · rename_i hfile
    simp [not_not.mp (fun h => hfile (hany.mpr h))]

/-- Where the files of the source are after the backup directory was made and they were moved. -/
theorem createAndMove_iff {fs : FileSystem} (hmissing : fs.lookup destination = none)
    {name content : String} :
    let new := ((do
      createDirectory opts destination
      moveFilesWithExtension opts source destination extension : FileProgram Unit) fs).2
    (new.lookup (source ++ [name]) = some (.file content) ↔
        fs.lookup (source ++ [name]) = some (.file content) ∧
          ¬ ((opts.dryRun = true ∨ Creatable fs destination) ∧ SameExtension extension name)) ∧
      (new.lookup (destination ++ [name]) = some (.file content) ↔
        fs.lookup (source ++ [name]) = some (.file content) ∧ opts.dryRun = false ∧
          Creatable fs destination ∧ extensionOf name = extension) := by
  have hfree : ∀ n, fs.lookup (destination ++ [n]) = none :=
    lookup_child_of_none (by simp [hmissing])
  cases hopts : opts.dryRun with
  | true =>
    have hcreate : createDirectory opts destination fs = (.ok (), fs) := by
      unfold createDirectory
      rw [if_pos hopts]
      rfl
    rw [run_bind_of_returns hcreate, moveFiles_dryRun hopts]
    refine ⟨?_, ?_⟩
    · rw [removeFiles_file_iff]
      simp
    · rw [removeFiles_lookup, afterRemoval, hfree]
      simp
  | false =>
    have hcreate : createDirectory opts destination = attempt (·.makeDirectories destination) := by
      unfold createDirectory
      rw [hopts]
      rfl
    by_cases hcreatable : Creatable fs destination
    · obtain ⟨fs', hmake⟩ := (creatable_iff hmissing).mp hcreatable
      have hrun : createDirectory opts destination fs = (.ok (), fs') := by
        rw [hcreate]
        exact run_attempt_ok hmake
      have hlookup := FileSystem.lookup_makeDirectories hmake
      have hfree' : ∀ n, fs'.lookup (destination ++ [n]) = none := by
        intro n
        rw [hlookup, if_neg, hfree]
        intro hprefix
        have hlength := hprefix.length_le
        rw [List.length_append, List.length_singleton] at hlength
        omega
      have hfile : fs'.lookup (source ++ [name]) = some (.file content) ↔
          fs.lookup (source ++ [name]) = some (.file content) := by
        rw [hlookup]
        split
        · rename_i hprefix
          refine ⟨(fun h => by cases h), fun h => ?_⟩
          have hne : source ++ [name] ≠ destination := by
            rintro rfl
            rw [hmissing] at h
            cases h
          have hnot := hcreatable _ hprefix hne
          rw [FileSystem.isFile, h] at hnot
          cases hnot
        · exact Iff.rfl
      rw [run_bind_of_returns hrun, ← hfile]
      by_cases hsource : fs'.lookup source = some .directory
      · by_cases hne : source = destination
        · obtain rfl := hne
          rw [moveFiles_of_empty hsource hfree']
          simp [hfree']
        · have hplace : TakesCopies source destination fs' :=
            ⟨hne, by rw [hlookup, if_pos List.prefix_rfl], fun n => by rw [hfree' n]; simp⟩
          simpa [hcreatable] using @moveFiles_iff _ _ _ extension _ hopts hsource hplace hfree' name content
      · rw [moveFiles_of_not_directory hsource]
        simp [lookup_child_of_none hsource, hfree']
    · have hfails : ∃ e, createDirectory opts destination fs = (.error e, fs) := by
        cases hmake : fs.makeDirectories destination with
        | ok fs' => exact absurd ((creatable_iff hmissing).mpr ⟨fs', hmake⟩) hcreatable
        | error e =>
          refine ⟨.filesystemError e, ?_⟩
          rw [hcreate]
          exact run_attempt_error hmake
      obtain ⟨e, he⟩ := hfails
      rw [run_bind_of_raises he]
      simp [hcreatable, hfree]

/-- What the two loops need so that no file of the source is lost. -/
structure BackupSafe (opts : FileOptions) (backup source : Path) (extension : String)
    (fs : FileSystem) : Prop where
  /-- A forced backup removes no file of the source. -/
  spared : opts.shouldForce "backups" = true →
    ∀ name, fs.isFile (source ++ [name]) = true → ¬ backup <+: source ++ [name]
  /-- Where files are moved, this is no dry run, and the letter case of the extensions matches. -/
  copied : opts.shouldForce "backups" = true ∨ fs.lookup backup = none →
    ∀ name, fs.isFile (source ++ [name]) = true → SameExtension extension name →
      opts.dryRun = false ∧ (Creatable fs backup → extensionOf name = extension)

/-- The file system after a forced removal. -/
def cleared (opts : FileOptions) (backup : Path) (fs : FileSystem) : FileSystem :=
  if opts.shouldForce "backups" then fs.removeAll backup else fs

theorem run_backup (opts : FileOptions) (backup source : Path) (extension : String)
    (fs : FileSystem) :
    backupFilesByExtension opts backup source extension fs =
      if (cleared opts backup fs).lookup backup = none then
        (do
          createDirectory opts backup
          moveFilesWithExtension opts source backup extension : FileProgram Unit)
            (cleared opts backup fs)
      else (.ok (), cleared opts backup fs) := by
  unfold backupFilesByExtension cleared
  split
  · rw [run_update_bind]
    simp only [run_read_bind]
    split <;> rfl
  · simp only [run_read_bind]
    split <;> rfl

theorem creatable_removeAll {fs : FileSystem} {backup : Path} :
    Creatable (fs.removeAll backup) backup ↔ Creatable fs backup := by
  unfold Creatable
  refine forall₃_congr fun q hq hne => ?_
  have hlookup : (fs.removeAll backup).lookup q = fs.lookup q := by
    rw [FileSystem.lookup_removeAll, if_neg]
    rintro ⟨hback, -⟩
    exact hne (hq.eq_of_length_le hback.length_le)
  rw [isFile_congr hlookup]

theorem lookup_cleared {fs : FileSystem} {backup : Path} {q : Path} {content : String} :
    (cleared opts backup fs).lookup q = some (.file content) ↔
      fs.lookup q = some (.file content) ∧
        (opts.shouldForce "backups" = true → ¬ backup <+: q) := by
  unfold cleared
  split
  · rename_i hforce
    rw [FileSystem.lookup_removeAll]
    by_cases hq : q = []
    · obtain rfl := hq
      simp
    · by_cases hprefix : backup <+: q <;> simp [hq, hprefix, hforce]
  · rename_i hforce
    simp [hforce]

/-- The backup path stands unless it is missing or its removal is forced. -/
theorem lookup_cleared_backup {fs : FileSystem} {backup : Path} :
    (cleared opts backup fs).lookup backup = none ↔
      (opts.shouldForce "backups" = true ∧ backup ≠ []) ∨ fs.lookup backup = none := by
  unfold cleared
  split
  · rename_i hforce
    rw [FileSystem.lookup_removeAll]
    by_cases hroot : backup = [] <;> simp [hroot, hforce]
  · rename_i hforce
    simp [hforce]

theorem backup_keeps_iff (opts : FileOptions) (backup source : Path) (extension : String)
    (fs : FileSystem) :
    Kept source backup fs (backupFilesByExtension opts backup source extension fs).2 ↔
      BackupSafe opts backup source extension fs := by
  rw [kept_iff, run_backup]
  by_cases hmissing : (cleared opts backup fs).lookup backup = none
  · rw [if_pos hmissing]
    have hcreatable : Creatable (cleared opts backup fs) backup ↔ Creatable fs backup := by
      unfold cleared
      split
      · exact creatable_removeAll
      · exact Iff.rfl
    simp only [createAndMove_iff hmissing, lookup_cleared, hcreatable]
    constructor
    · intro h
      refine ⟨fun hforce name hfile => ?_, fun _ name hfile hsame => ?_⟩
      · obtain ⟨content, hcontent⟩ := isFile_iff.mp hfile
        rcases h name content hcontent with h | h
        · exact h.1.2 hforce
        · exact h.1.2 hforce
      · obtain ⟨content, hcontent⟩ := isFile_iff.mp hfile
        rcases h name content hcontent with h | h
        · have hnot : ¬ (opts.dryRun = true ∨ Creatable fs backup) := fun hor => h.2 ⟨hor, hsame⟩
          exact ⟨by simpa using fun hdry => hnot (.inl hdry), fun hc => absurd (.inr hc) hnot⟩
        · exact ⟨h.2.1, fun _ => h.2.2.2⟩
    · intro h name content hcontent
      have hfile := isFile_iff.mpr ⟨content, hcontent⟩
      have hspared := fun hforce => h.spared hforce name hfile
      by_cases hsame : SameExtension extension name
      · obtain ⟨hdry, hext⟩ :=
          h.copied ((lookup_cleared_backup.mp hmissing).imp_left And.left) name hfile hsame
        by_cases hc : Creatable fs backup
        · exact .inr ⟨⟨hcontent, hspared⟩, hdry, hc, hext hc⟩
        · exact .inl ⟨⟨hcontent, hspared⟩, by simp [hdry, hc]⟩
      · exact .inl ⟨⟨hcontent, hspared⟩, fun hboth => hsame hboth.2⟩
  · rw [if_neg hmissing]
    simp only [lookup_cleared]
    rw [lookup_cleared_backup, not_or, not_and_or, not_not] at hmissing
    obtain ⟨hroot, hstands⟩ := hmissing
    by_cases hforce : opts.shouldForce "backups" = true
    · -- Forcing a backup at the root removes everything.
      obtain rfl := hroot.resolve_left (not_not.mpr hforce)
      have hnone : ∀ q : Path, ¬ (opts.shouldForce "backups" = true → ¬ [] <+: q) :=
        fun q h => h hforce (List.nil_prefix)
      constructor
      · intro h
        have hfiles : ∀ name, fs.isFile (source ++ [name]) ≠ true := by
          intro name hfile
          obtain ⟨content, hcontent⟩ := isFile_iff.mp hfile
          rcases h name content hcontent with h | h
          · exact hnone _ h.2
          · exact hnone _ h.2
        exact ⟨fun _ name hfile => absurd hfile (hfiles name),
          fun _ name hfile => absurd hfile (hfiles name)⟩
      · intro h name content hcontent
        exact absurd (fun hforce => h.spared hforce name (isFile_iff.mpr ⟨content, hcontent⟩))
          (hnone _)
    · constructor
      · intro _
        exact ⟨fun h => absurd h hforce, fun h => absurd h (not_or.mpr ⟨hforce, hstands⟩)⟩
      · intro _ name content hcontent
        exact .inl ⟨hcontent, fun h => absurd h hforce⟩

/-- A directory with one repository file, whose extension is written in capitals. -/
def capitalsFileSystem : FileSystem where
  entries := [(["etc"], .directory), (["etc", "yum.repos.d"], .directory),
    (["etc", "yum.repos.d", "LOCAL.REPO"], .file "[local]")]
  nodup := by decide
  parents := by decide

/-- The file is removed without a copy. -/
theorem capitals_are_lost :
    ¬ Kept ["etc", "yum.repos.d"] ["opt", "backup"] capitalsFileSystem
      (backupFilesByExtension ⟨false, []⟩ ["opt", "backup"] ["etc", "yum.repos.d"] ".repo"
        capitalsFileSystem).2 := by
  intro h
  have hkept := h.kept "LOCAL.REPO" "[local]" (by decide)
  revert hkept
  decide

end OpenCattus
