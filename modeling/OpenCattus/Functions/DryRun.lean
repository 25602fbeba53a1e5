import OpenCattus.Functions.Backup

/-!
# The file helpers in a dry run

A call of a shared helper as data, and the runs of such calls with the dry-run option.

`leaves_iff` says for each helper when a call leaves the file system alone, and
`dryRun_leaves_iff` that a run does so exactly when all of its calls do.
-/

namespace OpenCattus

open Foundations Foundations.Text Program

/-- A call of a shared file helper. -/
inductive FileCall where
  | touchFile (path : Path)
  | createDirectory (path : Path)
  | removeFile (filename : Path)
  | backupFile (filename : Path) (timestamp : String)
  | changeValueInConfigurationFile (filename : Path) (key value : String)
  | addStringToFile (filename : Path) (string : String)
  | copyFile (source destination : Path)
  | installFile (path : Path) (data : String)
  | moveFilesWithExtension (source destination : Path) (extension : String)
  | backupFilesByExtension (backupPath sourcePath : Path) (extension : String)
  deriving DecidableEq, Repr

section

variable (Tree : Type) [IniParser Tree] (opts : FileOptions) (installPath : Path)

def FileCall.program : FileCall → FileProgram Unit
  | .touchFile path => OpenCattus.touchFile opts path
  | .createDirectory path => OpenCattus.createDirectory opts path
  | .removeFile filename => OpenCattus.removeFile opts filename
  | .backupFile filename timestamp => OpenCattus.backupFile opts installPath timestamp filename
  | .changeValueInConfigurationFile filename key value =>
    @OpenCattus.changeValueInConfigurationFile Tree _ opts filename key value
  | .addStringToFile filename string => OpenCattus.addStringToFile opts filename string
  | .copyFile source destination => OpenCattus.copyFile opts source destination
  | .installFile path data => OpenCattus.installFile opts path data
  | .moveFilesWithExtension source destination extension =>
    OpenCattus.moveFilesWithExtension opts source destination extension
  | .backupFilesByExtension backupPath sourcePath extension =>
    OpenCattus.backupFilesByExtension opts backupPath sourcePath extension

/-- The file system after some calls; a call that throws leaves what it has done so far. -/
def runFileCalls (calls : List FileCall) (fs : FileSystem) : FileSystem :=
  calls.foldl (fun fs call => (call.program Tree opts installPath fs).2) fs

end

/-- The same files and directories, with the same contents. -/
def Unchanged (old new : FileSystem) : Prop := ∀ p, new.lookup p = old.lookup p

/-- The calls that leave a file system alone in a dry run. -/
def DrySafe (opts : FileOptions) (fs : FileSystem) : FileCall → Prop
  | .addStringToFile filename string =>
    fs.lookup filename = none → fs.lookup filename.dropLast = some .directory → string = ""
  | .moveFilesWithExtension source _ extension =>
    ∀ name, fs.isFile (source ++ [name]) = true → ¬ SameExtension extension name
  | .backupFilesByExtension backupPath sourcePath extension =>
    (opts.shouldForce "backups" = true →
        ∀ q, backupPath <+: q → q ≠ [] → fs.lookup q = none) ∧
      (fs.lookup backupPath = none →
        ∀ name, fs.isFile (sourcePath ++ [name]) = true → ¬ SameExtension extension name)
  | _ => True

variable {opts : FileOptions} {fs : FileSystem}

/-! ## Each helper -/

theorem removeFiles_unchanged_iff {path : Path} {extension : String} :
    Unchanged fs (removeFilesWithExtension path extension fs).2 ↔
      ∀ name, fs.isFile (path ++ [name]) = true → ¬ SameExtension extension name := by
  constructor
  · intro h name hfile
    obtain ⟨content, hcontent⟩ := isFile_iff.mp hfile
    exact (removeFiles_file_iff.mp ((h _).trans hcontent)).2
  · intro h q
    rw [removeFiles_lookup, afterRemoval, if_neg]
    rintro ⟨⟨name, -, rfl, hsame⟩, hfile⟩
    exact h name hfile hsame

theorem eq_empty_of_contained {filename : Path} {string : String}
    (h : (findText string.toList (fs.readFile filename).toList).isSome = true)
    (hmissing : fs.lookup filename = none) : string = "" := by
  rw [FileSystem.readFile, hmissing, isSome_findText_iff] at h
  simpa using h

/-- The stream is opened whatever the option says, and opening it creates the file. -/
theorem addStringToFile_unchanged_iff (hopts : opts.dryRun = true) {filename : Path}
    {string : String} :
    Unchanged fs (addStringToFile opts filename string fs).2 ↔
      DrySafe opts fs (.addStringToFile filename string) := by
  have hunchanged : Unchanged fs fs := fun _ => rfl
  unfold addStringToFile
  rw [run_read_bind]
  by_cases hcontained : (findText string.toList (fs.readFile filename).toList).isSome = true
  · rw [if_pos hcontained]
    refine iff_of_true hunchanged ?_
    intro hmissing _
    exact eq_empty_of_contained hcontained hmissing
  · rw [if_neg hcontained, run_update_bind, if_pos hopts]
    change Unchanged fs ((fs.openAppend filename).toOption.getD fs) ↔ _
    have hstring : string ≠ "" := by
      rintro rfl
      exact hcontained (isSome_findText_iff.mpr (by simp))
    unfold FileSystem.openAppend
    cases hfound : fs.lookup filename with
    | some e =>
      have hsame : ((if fs.isFile filename = true then .ok fs
          else fs.writeFile filename "").toOption.getD fs) = fs := by
        cases e with
        | file content => rw [if_pos (isFile_iff.mpr ⟨content, hfound⟩)]; rfl
        | directory =>
          rw [FileSystem.isFile, hfound, FileSystem.writeFile, dif_neg (by simp [hfound])]
          rfl
      rw [hsame]
      refine iff_of_true hunchanged ?_
      intro hmissing
      rw [hfound] at hmissing
      cases hmissing
    | none =>
      have hnotFile : ¬ fs.isFile filename = true := by
        rw [FileSystem.isFile, hfound]
        exact Bool.false_ne_true
      rw [if_neg hnotFile]
      by_cases hparent : fs.lookup filename.dropLast = some .directory
      · refine iff_of_false ?_ (fun h => hstring (h hfound hparent))
        intro h
        have hne : filename ≠ [] := by
          rintro rfl
          cases hfound
        obtain ⟨fs', hwrite⟩ : ∃ fs', fs.writeFile filename "" = .ok fs' := by
          unfold FileSystem.writeFile
          rw [dif_pos ⟨hne, hparent, by simp [hfound]⟩]
          exact ⟨_, rfl⟩
        have hcreated := h filename
        rw [hwrite, hfound] at hcreated
        change fs'.lookup filename = none at hcreated
        rw [FileSystem.lookup_writeFile hwrite, if_pos rfl] at hcreated
        cases hcreated
      · have hfails : ∃ e, fs.writeFile filename "" = .error e := by
          unfold FileSystem.writeFile
          rw [dif_neg fun hopen => hparent hopen.2.1]
          exact ⟨_, rfl⟩
        obtain ⟨e, he⟩ := hfails
        rw [he]
        exact iff_of_true hunchanged fun _ h => absurd h hparent

/-- What is found after a dry run was there before. -/
theorem lookup_removeFiles_some {path q : Path} {extension : String} {e : Entry}
    (h : (removeFilesWithExtension path extension fs).2.lookup q = some e) :
    fs.lookup q = some e := by
  rw [removeFiles_lookup, afterRemoval] at h
  split at h
  · cases h
  · exact h

theorem run_backup_dryRun (hopts : opts.dryRun = true) (backup source : Path)
    (extension : String) (fs : FileSystem) :
    (backupFilesByExtension opts backup source extension fs).2 =
      if (cleared opts backup fs).lookup backup = none then
        (removeFilesWithExtension source extension (cleared opts backup fs)).2
      else cleared opts backup fs := by
  have hcreate : ∀ s, createDirectory opts backup s = (.ok (), s) := by
    intro s
    unfold createDirectory
    rw [if_pos hopts]
    rfl
  rw [run_backup]
  split
  · rw [run_bind_of_returns (hcreate _), moveFiles_dryRun hopts]
  · rfl

theorem backup_unchanged_iff (hopts : opts.dryRun = true) {backup source : Path}
    {extension : String} :
    Unchanged fs (backupFilesByExtension opts backup source extension fs).2 ↔
      DrySafe opts fs (.backupFilesByExtension backup source extension) := by
  have hcleared : (opts.shouldForce "backups" = true →
      ∀ q, backup <+: q → q ≠ [] → fs.lookup q = none) → cleared opts backup fs = fs := by
    intro h
    unfold cleared
    split
    · rename_i hforce
      exact FileSystem.removeAll_eq_self (h hforce)
    · rfl
  rw [run_backup_dryRun hopts]
  constructor
  · intro h
    have hkept : ∀ q e, fs.lookup q = some e → (cleared opts backup fs).lookup q = some e := by
      intro q e he
      have hq := (h q).trans he
      split at hq
      · exact lookup_removeFiles_some hq
      · exact hq
    have hforce : opts.shouldForce "backups" = true →
        ∀ q, backup <+: q → q ≠ [] → fs.lookup q = none := by
      intro hforce q hunder hq
      cases hfound : fs.lookup q with
      | none => rfl
      | some e =>
        have hgone := hkept q e hfound
        rw [cleared, if_pos hforce, FileSystem.lookup_removeAll, if_pos ⟨hunder, hq⟩] at hgone
        cases hgone
    rw [hcleared hforce] at h
    refine ⟨hforce, fun hmissing => ?_⟩
    rw [if_pos hmissing] at h
    exact removeFiles_unchanged_iff.mp h
  · rintro ⟨hforce, hmatching⟩
    rw [hcleared hforce]
    split
    · rename_i hmissing
      exact removeFiles_unchanged_iff.mpr (hmatching hmissing)
    · exact fun _ => rfl

section

variable {Tree : Type} [IniParser Tree] {installPath : Path}

theorem leaves_iff (hopts : opts.dryRun = true) (call : FileCall) :
    Unchanged fs (call.program Tree opts installPath fs).2 ↔ DrySafe opts fs call := by
  have hnothing : ∀ program : FileProgram Unit, program fs = (.ok (), fs) →
      (Unchanged fs (program fs).2 ↔ True) := by
    intro program hprogram
    rw [hprogram]
    exact iff_true_intro fun _ => rfl
  cases call with
  | touchFile path =>
    exact hnothing _ (by unfold FileCall.program touchFile; rw [hopts]; rfl)
  | createDirectory path =>
    exact hnothing _ (by unfold FileCall.program OpenCattus.createDirectory; rw [hopts]; rfl)
  | removeFile filename =>
    exact hnothing _ (by unfold FileCall.program OpenCattus.removeFile; rw [hopts]; rfl)
  | backupFile filename timestamp =>
    exact hnothing _ (by unfold FileCall.program OpenCattus.backupFile; rw [hopts]; rfl)
  | changeValueInConfigurationFile filename key value =>
    exact hnothing _ (by unfold FileCall.program OpenCattus.changeValueInConfigurationFile; rw [hopts]; rfl)
  | addStringToFile filename string => exact addStringToFile_unchanged_iff hopts
  | copyFile source destination =>
    exact hnothing _ (by unfold FileCall.program OpenCattus.copyFile; rw [hopts]; rfl)
  | installFile path data =>
    exact hnothing _ (by unfold FileCall.program OpenCattus.installFile; rw [hopts]; rfl)
  | moveFilesWithExtension source destination extension =>
    change Unchanged fs (moveFilesWithExtension opts source destination extension fs).2 ↔ _
    rw [moveFiles_dryRun hopts]
    exact removeFiles_unchanged_iff
  | backupFilesByExtension backupPath sourcePath extension => exact backup_unchanged_iff hopts

omit [IniParser Tree] in
/-- The condition looks at files and directories only. -/
theorem drySafe_congr {new : FileSystem} (h : Unchanged fs new) (call : FileCall) :
    DrySafe opts new call ↔ DrySafe opts fs call := by
  have hfile : ∀ p, new.isFile p = fs.isFile p := fun p => isFile_congr (h p)
  cases call <;> simp only [DrySafe, h _, hfile]

/-- A call with an effect shows at the latest after itself. -/
theorem dryRun_leaves_iff (hopts : opts.dryRun = true) (calls : List FileCall) (fs : FileSystem) :
    (∀ n, Unchanged fs (runFileCalls Tree opts installPath (calls.take n) fs)) ↔
      ∀ call ∈ calls, DrySafe opts fs call := by
  have hrun : ∀ now, Unchanged fs now →
      ((∀ n, Unchanged fs (runFileCalls Tree opts installPath (calls.take n) now)) ↔
        ∀ call ∈ calls, DrySafe opts fs call) := by
    induction calls with
    | nil =>
      intro now hnow
      simpa [runFileCalls] using hnow
    | cons call calls ih =>
      intro now hnow
      have hstep : Unchanged fs (call.program Tree opts installPath now).2 ↔
          DrySafe opts fs call := by
        rw [← drySafe_congr hnow, ← @leaves_iff _ _ Tree _ installPath hopts]
        exact forall_congr' fun p => by rw [hnow p]
      rw [List.forall_mem_cons, ← hstep]
      constructor
      · intro h
        have hcall := h 1
        exact ⟨hcall, (ih _ hcall).mp fun n => h (n + 1)⟩
      · rintro ⟨hcall, hrest⟩ n
        cases n with
        | zero => exact hnow
        | succ n => exact (ih _ hcall).mpr hrest n
  exact hrun fs fun _ => rfl

end

/-- A parser of files with nothing in them. -/
@[reducible] def emptyIni : IniParser (List (String × String)) where
  empty := []
  readIni text := if text = "" then some [] else none
  put tree key value := tree ++ [(key, value)]
  writeIni tree := (String.join (tree.map fun entry => entry.1 ++ "=" ++ entry.2 ++ "\n"), none)

/-- A directory of configuration files with one file in it. -/
def networkManagerFileSystem : FileSystem where
  entries := [(["conf.d"], .directory), (["conf.d", "00-local.conf"], .file "[main]\n")]
  nodup := by decide
  parents := by decide

theorem dryRun_leaves_existing :
    FileOptions.dryRun ⟨true, []⟩ = true ∧
      ∀ n, Unchanged networkManagerFileSystem
        (@runFileCalls _ emptyIni ⟨true, []⟩ ["opt"]
          ([.removeFile ["conf.d", "00-local.conf"],
            .addStringToFile ["conf.d", "00-local.conf"] "dns=none\n"].take n)
          networkManagerFileSystem) := by
  refine ⟨rfl, (@dryRun_leaves_iff ⟨true, []⟩ _ emptyIni ["opt"] rfl _ _).mpr ?_⟩
  rw [List.forall_mem_cons, List.forall_mem_singleton]
  exact ⟨trivial, fun hmissing => absurd hmissing (by decide)⟩

/-- The file of the string is created, and it is empty. -/
theorem dryRun_creates_file :
    ¬ ∀ n, Unchanged networkManagerFileSystem
      (@runFileCalls _ emptyIni ⟨true, []⟩ ["opt"]
        ([.addStringToFile ["conf.d", "90-dns-none.conf"] "[main]\ndns=none\n"].take n)
        networkManagerFileSystem) := by
  intro h
  have hmissing := h 1 ["conf.d", "90-dns-none.conf"]
  revert hmissing
  decide

end OpenCattus
