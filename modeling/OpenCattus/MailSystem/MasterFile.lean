import OpenCattus.Cluster.Types
import OpenCattus.Foundations.Streams
import OpenCattus.Functions.Lines

/-!
# The services of Postfix

`changeMasterFile` reads the lines of `master.cf`, comments the one of the service `local`, and
writes them back, without the line ends between them.

`changeMasterFile_keeps_iff` says that a file is kept if and only if it has no line end.
-/

namespace OpenCattus

open Foundations Foundations.Text Program InputStream

/-! ## The edit -/

/-- `boost::is_any_of("\t ")`. -/
def isBlank (c : Char) : Bool := c == '\t' || c == ' '

def maybeDisableLocalOnMasterFile (line : String) : String :=
  let linedata := split isBlank line
  if linedata.head? = some "local" then "#" ++ line else line

/-- An empty line has the character `'\0'` in front. -/
def editMasterLine (profile : Postfix.Profile) (line : String) : String :=
  if line.toList.head?.getD '\x00' ≠ '#' ∧ profile ≠ .Local then maybeDisableLocalOnMasterFile line
  else line

/-- A file that is missing is created, and a failure to write is not looked at. -/
def changeMasterFile (profile : Postfix.Profile) (masterFile : Path) : FileProgram Unit := do
  let fs ← read
  let iread := (fs.readFile masterFile).toList
  let lines :=
    if fs.isFile masterFile then
      (readWhileGood '\n' (iread.length + 1) ⟨iread, false, false⟩).map fun line =>
        editMasterLine profile (String.ofList line)
    else []
  update fun fs => (fs.writeFile masterFile (String.join lines)).toOption.getD fs

/-! ## What the edit is for -/

/-- A line that is no comment and goes on with no other one, and whose first word is `local`. -/
def IsLocalService (line : List Char) : Prop := line.takeWhile (!isBlank ·) = "local".toList

instance (line : List Char) : Decidable (IsLocalService line) :=
  inferInstanceAs (Decidable (_ = _))

def disableLocal (profile : Postfix.Profile) (line : List Char) : List Char :=
  if profile ≠ .Local ∧ IsLocalService line then '#' :: line else line

/-- The pieces between the line ends are the old ones, but for the service `local`, and a second
run leaves the file as it is. -/
structure MasterFileKept (profile : Postfix.Profile) (masterFile : Path) (fs : FileSystem) :
    Prop where
  lines : splitEach (· == '\n') ((changeMasterFile profile masterFile fs).2.readFile masterFile).toList =
    (splitEach (· == '\n') (fs.readFile masterFile).toList).map (disableLocal profile)
  again : (changeMasterFile profile masterFile (changeMasterFile profile masterFile fs).2).2.readFile
    masterFile = (changeMasterFile profile masterFile fs).2.readFile masterFile

/-! ## One line -/

/-- The first piece of a split goes up to the first separator. -/
theorem head?_splitRuns (sep : Char → Bool) (cs : List Char) :
    (splitRuns sep cs).head? = some (cs.takeWhile (!sep ·)) := by
  fun_induction splitRuns sep cs with
  | case1 => rfl
  | case2 c cs hc hnext ih =>
    rw [ih, List.takeWhile_cons_of_neg (by simp [hc])]
    cases cs with
    | nil => rfl
    | cons d cs => rw [List.takeWhile_cons_of_neg (by simpa using hnext)]
  | case3 c cs hc hnext ih => rw [List.takeWhile_cons_of_neg (by simp [hc]), List.head?_cons]
  | case4 c cs hc ih =>
    rw [List.takeWhile_cons_of_pos (by simpa using hc)]
    obtain ⟨t, ts, hts⟩ := List.exists_cons_of_ne_nil (@splitRuns_ne_nil sep cs)
    rw [hts, List.head?_cons, Option.some_inj] at ih
    rw [hts, consHead, List.head?_cons, ih]

theorem maybeDisable_ofList (line : List Char) :
    maybeDisableLocalOnMasterFile (String.ofList line) =
      String.ofList (if IsLocalService line then '#' :: line else line) := by
  have hword : (split isBlank (String.ofList line)).head? = some "local" ↔ IsLocalService line := by
    rw [split, String.toList_ofList, List.head?_map, head?_splitRuns, Option.map_some,
      Option.some_inj, ← String.toList_inj, String.toList_ofList]
    rfl
  unfold maybeDisableLocalOnMasterFile
  dsimp only
  by_cases hlocal : IsLocalService line
  · rw [if_pos (hword.mpr hlocal), if_pos hlocal, ← String.toList_inj]
    simp
  · rw [if_neg (fun h => hlocal (hword.mp h)), if_neg hlocal]

/-- A comment is not the service. -/
theorem not_isLocalService_of_comment {line : List Char} (h : line.head? = some '#') :
    ¬ IsLocalService line := by
  obtain ⟨rest, rfl⟩ := List.head?_eq_some_iff.mp h
  unfold IsLocalService
  rw [List.takeWhile_cons_of_pos (by decide)]
  intro heq
  have hhead := congrArg List.head? heq
  rw [List.head?_cons] at hhead
  exact absurd hhead (by decide)

/-- The edit of a line is the one that it is meant to be. -/
theorem editMasterLine_ofList (profile : Postfix.Profile) (line : List Char) :
    editMasterLine profile (String.ofList line) = String.ofList (disableLocal profile line) := by
  unfold editMasterLine disableLocal
  rw [String.toList_ofList]
  by_cases hcomment : line.head? = some '#'
  · have hnot := not_isLocalService_of_comment hcomment
    rw [if_neg (by simp [hcomment]), if_neg (fun h => hnot h.2)]
  · have hfirst : line.head?.getD '\x00' ≠ '#' := by
      cases line with
      | nil => decide
      | cons c cs => simpa using hcomment
    by_cases hprofile : profile = .Local
    · rw [if_neg (fun h => h.2 hprofile), if_neg (fun h => h.1 hprofile)]
    · rw [if_pos ⟨hfirst, hprofile⟩, maybeDisable_ofList]
      simp [hprofile]

theorem disableLocal_idem (profile : Postfix.Profile) (line : List Char) :
    disableLocal profile (disableLocal profile line) = disableLocal profile line := by
  unfold disableLocal
  by_cases h : profile ≠ .Local ∧ IsLocalService line
  · rw [if_pos h, if_neg]
    exact fun hagain => not_isLocalService_of_comment rfl hagain.2
  · rw [if_neg h, if_neg h]

theorem lineEnd_notMem_disableLocal {profile : Postfix.Profile} {line : List Char}
    (h : '\n' ∉ line) : '\n' ∉ disableLocal profile line := by
  unfold disableLocal
  split
  · rw [List.mem_cons, not_or]
    exact ⟨by decide, h⟩
  · exact h

/-! ## The file -/

variable {profile : Postfix.Profile} {masterFile : Path} {fs : FileSystem} {content : String}

/-- The edited lines, one behind the other. -/
def masterText (profile : Postfix.Profile) (content : String) : String :=
  String.ofList ((splitEach (· == '\n') content.toList).map (disableLocal profile)).flatten

theorem join_map_ofList (parts : List (List Char)) :
    String.join (parts.map String.ofList) = String.ofList parts.flatten := by
  induction parts with
  | nil => rfl
  | cons part parts ih =>
    rw [List.map_cons, String.join_cons, ih, List.flatten_cons, String.ofList_append]

theorem writable_of_file (h : fs.lookup masterFile = some (.file content)) (text : String) :
    ∃ fs', fs.writeFile masterFile text = .ok fs' := by
  have hne : masterFile ≠ [] := by
    rintro rfl
    cases h
  obtain ⟨parent, name, rfl⟩ := List.eq_nil_or_concat masterFile |>.resolve_left hne
  rw [List.concat_eq_append] at h ⊢
  obtain ⟨fs', hwritten, -⟩ :=
    FileSystem.exists_writeFile (FileSystem.lookup_parent h) (by rw [h]; simp) text
  exact ⟨fs', hwritten⟩

theorem lookup_changeMasterFile (h : fs.lookup masterFile = some (.file content)) :
    (changeMasterFile profile masterFile fs).2.lookup masterFile =
      some (.file (masterText profile content)) := by
  have hread : fs.readFile masterFile = content := by simp [FileSystem.readFile, h]
  have hfile : fs.isFile masterFile = true := by simp [FileSystem.isFile, h]
  have htext : String.join ((readWhileGood '\n' (content.toList.length + 1)
      ⟨content.toList, false, false⟩).map fun line => editMasterLine profile (String.ofList line)) =
        masterText profile content := by
    rw [readWhileGood_eq (Nat.lt_succ_self _), masterText, ← join_map_ofList, List.map_map]
    refine congrArg String.join (List.map_congr_left fun line _ => ?_)
    exact editMasterLine_ofList profile line
  obtain ⟨fs', hwritten⟩ := writable_of_file h (masterText profile content)
  unfold changeMasterFile
  rw [run_read_bind, hread, hfile, if_pos rfl, htext]
  have hrun : (update fun fs => (fs.writeFile masterFile (masterText profile content)).toOption.getD fs :
      FileProgram Unit) fs = (.ok (), fs') := by
    simp [update, hwritten, Except.toOption]
  rw [hrun, FileSystem.lookup_writeFile hwritten, if_pos rfl]

theorem readFile_of_lookup (h : fs.lookup masterFile = some (.file content)) :
    fs.readFile masterFile = content := by simp [FileSystem.readFile, h]

/-- Nothing that is written ends a line. -/
theorem lineEnd_notMem_masterText (profile : Postfix.Profile) (content : String) :
    '\n' ∉ (masterText profile content).toList := by
  rw [masterText, String.toList_ofList, List.mem_flatten]
  rintro ⟨part, hpart, hmem⟩
  obtain ⟨line, hline, rfl⟩ := List.mem_map.mp hpart
  have hclean := clean_of_mem_splitEach hline
  refine lineEnd_notMem_disableLocal ?_ hmem
  intro hline
  exact absurd (hclean _ hline) (by decide)

theorem masterText_of_clean (h : '\n' ∉ content.toList) :
    (masterText profile content).toList = disableLocal profile content.toList := by
  rw [masterText, String.toList_ofList, splitEach_last h]
  simp

/-- The file is kept if and only if it has no line end. -/
theorem changeMasterFile_keeps_iff (h : fs.lookup masterFile = some (.file content)) :
    MasterFileKept profile masterFile fs ↔ '\n' ∉ content.toList := by
  have honce := @lookup_changeMasterFile profile _ _ _ h
  have htwice := @lookup_changeMasterFile profile _ _ _ honce
  have hread := readFile_of_lookup honce
  constructor
  · rintro ⟨hlines, -⟩ hmem
    -- One piece stands for two.
    rw [hread, readFile_of_lookup h, splitEach_last (lineEnd_notMem_masterText _ _)] at hlines
    rcases exists_part '\n' content.toList with hclean | ⟨part, rest, hpart, hcontent⟩
    · exact hclean hmem
    · have hlength := congrArg List.length hlines
      rw [hcontent, splitEach_part hpart, List.length_map, List.length_cons] at hlength
      have hrest := List.length_eq_zero_iff.mp (Nat.succ.inj hlength).symm
      exact splitEach_ne_nil rest hrest
  · intro hclean
    have hedited : '\n' ∉ (masterText profile content).toList := lineEnd_notMem_masterText _ _
    refine ⟨?_, ?_⟩
    · rw [hread, readFile_of_lookup h, splitEach_last hclean, splitEach_last hedited,
        masterText_of_clean hclean]
      rfl
    · rw [readFile_of_lookup htwice, hread, ← String.toList_inj, masterText_of_clean hedited,
        masterText_of_clean hclean, disableLocal_idem]

/-- A file system with the services of Postfix. -/
def masterFileSystem (content : String) : FileSystem where
  entries := [(["postfix"], .directory), (["postfix", "master.cf"], .file content)]
  nodup := by simp
  parents := by simp

/-- A single line, without an end. -/
theorem changeMasterFile_keeps_one_line :
    MasterFileKept .SASL ["postfix", "master.cf"] (masterFileSystem "local unix - n n - - local") :=
  (changeMasterFile_keeps_iff rfl).mpr (by decide)

/-- Two services become one line. -/
theorem master_lines_are_joined :
    ¬ MasterFileKept .Relay ["postfix", "master.cf"]
        (masterFileSystem "smtp inet n - n - - smtpd\nlocal unix - n n - - local\n") := by
  intro h
  have hlines := congrArg List.length h.lines
  revert hlines
  decide

end OpenCattus
