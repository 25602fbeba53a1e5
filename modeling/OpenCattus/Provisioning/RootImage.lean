import OpenCattus.Basic
import OpenCattus.Foundations.Paths

/-!
# Cleaning the root image

`cleanStatelessRootImage` removes the directory of a stale root image. It looks at the normal form
of the path, and removes what the path itself leads to.

`cleans_below_iff` says when everything that it removes is below the directory of all images: the
normal form must not be the text that it is asked to begin with, unless the path leads there in a way
that does not outlive the removal, or ends in a dot.
-/

namespace OpenCattus

open Foundations Foundations.Text Foundations.Paths Program

/-! ## Removing a directory -/

/-- A place below a directory. -/
def Below (directory place : Path) : Prop := directory <+: place ∧ place ≠ directory

instance (directory place : Path) : Decidable (Below directory place) :=
  inferInstanceAs (Decidable (_ ∧ _))

/-- What the machine does for `std::filesystem::remove_all`. An error may leave a part of what is in
the directory, or the empty directory. -/
structure RemoveAll where
  clear : FileSystem → Path → Option String × FileSystem
  clear_within : ∀ fs directory place,
    (clear fs directory).2.lookup place = fs.lookup place ∨
      Below directory place ∧ (clear fs directory).2.lookup place = none
  clear_eq : ∀ fs directory, (clear fs directory).1 = none →
    (clear fs directory).2 = fs.clear directory
  removeError : FileSystem → Path → Option String

/-- A directory is not removed by a path that ends in a dot or in two. -/
def dotsError (path : String) : Option String :=
  match ((components path).filter (· ≠ "")).getLast? with
  | some "." => some "Invalid argument"
  | some ".." => some "Directory not empty"
  | _ => none

/-- `std::filesystem::remove_all` of a path that leads to this directory. What is in the directory
goes first; then the path is followed again, and the directory goes that it leads to now. -/
def RemoveAll.run (removeAll : RemoveAll) (fs : FileSystem) (workingDirectory : Path)
    (path : String) (directory : Path) : Option String × FileSystem :=
  match removeAll.clear fs directory with
  | (some message, remaining) => (some message, remaining)
  | (none, remaining) =>
    match resolve remaining workingDirectory path with
    | none => (none, remaining)
    | some place =>
      match (dotsError path).or (removeAll.removeError remaining place) with
      | some message => (some message, remaining)
      | none => (none, remaining.removeAll place)

/-! ## The root image -/

def installNetbootPrefix : String := "/install/netboot/"

def cleanStatelessRootImage (removeAll : RemoveAll) (workingDirectory : Path) (dryRun : Bool)
    (chroot : String) : Program FileSystem Exception Unit :=
  let normalized := lexicallyNormal chroot
  if chroot = "" then raise ⟨.logicError, "Refusing to clean an empty xCAT root image path"⟩
  else if startsWith normalized installNetbootPrefix = false then
    raise ⟨.logicError, "Refusing to clean unexpected xCAT root image path " ++ normalized⟩
  else if dryRun then pure ()
  else do
    let fs ← read
    match resolve fs workingDirectory chroot with
    | none => pure ()
    | some directory =>
      let (error, remaining) := removeAll.run fs workingDirectory chroot directory
      update fun _ => remaining
      match error with
      | none => pure ()
      | some message =>
        raise ⟨.runtimeError, "Unable to remove stale xCAT root image directory " ++ normalized ++
          ": " ++ message⟩

/-! ## What is removed -/

/-- The directory of all images. -/
def installNetboot : Path := ["install", "netboot"]

/-- Whatever the removal leaves, only what is below the directory of all images is gone. -/
def CleansBelow (fs : FileSystem) (workingDirectory : Path) (dryRun : Bool) (chroot : String) :
    Prop :=
  ∀ (removeAll : RemoveAll) (place : Path), (fs.lookup place).isSome = true →
    (cleanStatelessRootImage removeAll workingDirectory dryRun chroot fs).2.lookup place = none →
      Below installNetboot place

/-- The removal that meets no error. -/
def wholeRemoval : RemoveAll where
  clear fs directory := (none, fs.clear directory)
  clear_within fs directory place := by
    rw [FileSystem.lookup_clear]
    split
    · rename_i hbelow
      exact .inr ⟨hbelow, rfl⟩
    · exact .inl rfl
  clear_eq _ _ _ := rfl
  removeError _ _ := none

/-- The way of an absolute path leads through a place below the directory. -/
def GoesBelow (path : String) (directory : Path) : Prop :=
  ∃ front, front <+: components path ∧ Below directory (front.foldl follow [])

theorem directoryText_installNetboot : directoryText installNetboot = installNetbootPrefix := by
  decide

section Run

variable {fs : FileSystem} {workingDirectory : Path} {dryRun : Bool} {chroot : String}

/-- The guard lets a path through that leads to a directory. -/
structure Removes (fs : FileSystem) (workingDirectory : Path) (dryRun : Bool) (chroot : String)
    (directory : Path) : Prop where
  guard : startsWith (lexicallyNormal chroot) installNetbootPrefix = true
  real : dryRun = false
  found : resolve fs workingDirectory chroot = some directory

theorem state_of_removes {directory : Path} (removeAll : RemoveAll)
    (h : Removes fs workingDirectory dryRun chroot directory) :
    (cleanStatelessRootImage removeAll workingDirectory dryRun chroot fs).2 =
      (removeAll.run fs workingDirectory chroot directory).2 := by
  obtain ⟨hguard, rfl, hfound⟩ := h
  have hne : chroot ≠ "" := by
    rintro rfl
    exact absurd hguard (by decide)
  unfold cleanStatelessRootImage
  dsimp only
  rw [if_neg hne, if_neg (by rw [hguard]; decide), if_neg (by decide), run_read_bind, hfound]
  dsimp only
  rw [run_update_bind]
  cases (removeAll.run fs workingDirectory chroot directory).1 <;> rfl

theorem state_of_not_removes (removeAll : RemoveAll)
    (h : ∀ directory, ¬ Removes fs workingDirectory dryRun chroot directory) :
    (cleanStatelessRootImage removeAll workingDirectory dryRun chroot fs).2 = fs := by
  unfold cleanStatelessRootImage
  dsimp only
  split
  · rfl
  · split
    · rfl
    · rename_i hguard
      split
      · rfl
      · rename_i hreal
        rw [run_read_bind]
        cases hfound : resolve fs workingDirectory chroot with
        | none => rfl
        | some directory =>
          exact absurd ⟨by simpa using hguard, by simpa using hreal, hfound⟩ (h directory)

/-- The directory that is removed is below the one of all images, or is that one. -/
theorem Removes.directory {directory : Path}
    (h : Removes fs workingDirectory dryRun chroot directory) :
    (fs.lookup directory).isSome = true ∧ installNetboot <+: directory ∧
      (directory = installNetboot ↔ lexicallyNormal chroot = installNetbootPrefix) := by
  have hguard := h.guard
  rw [← directoryText_installNetboot] at hguard ⊢
  have hclean : CleanNames installNetboot := by
    unfold CleanNames
    decide
  obtain ⟨habsolute, hunder, hends⟩ := startsWith_lexicallyNormal (by decide) hclean hguard
  obtain ⟨rfl, hthere⟩ := resolve_eq_location habsolute h.found
  exact ⟨hthere, hunder, hends⟩

theorem Removes.isAbsolute {directory : Path}
    (h : Removes fs workingDirectory dryRun chroot directory) : isAbsolute chroot = true := by
  have hguard := h.guard
  rw [← directoryText_installNetboot] at hguard
  have hclean : CleanNames installNetboot := by
    unfold CleanNames
    decide
  exact (startsWith_lexicallyNormal (by decide) hclean hguard).1

theorem resolve_of_isAbsolute (fs : FileSystem) (h : isAbsolute chroot = true) :
    resolve fs workingDirectory chroot = (components chroot).foldlM (step fs) [] := by
  have hne : chroot ≠ "" := by
    rintro rfl
    exact absurd h (by decide)
  rw [resolve, if_neg hne, if_pos h]

/-- When the directory is empty, a path through what was in it leads to nothing. -/
theorem resolve_clear {directory : Path} (habsolute : isAbsolute chroot = true) :
    (GoesBelow chroot directory → resolve (fs.clear directory) workingDirectory chroot = none) ∧
      (¬ GoesBelow chroot directory → resolve (fs.clear directory) workingDirectory chroot =
        resolve fs workingDirectory chroot) := by
  rw [resolve_of_isAbsolute _ habsolute, resolve_of_isAbsolute _ habsolute]
  constructor
  · rintro ⟨front, hfront, hbelow⟩
    refine foldlM_step_eq_none rfl hfront ?_
    exact (FileSystem.lookup_clear _ _ _).trans (if_pos hbelow)
  · intro hdirect
    refine foldlM_step_congr fun front hfront => ?_
    refine (FileSystem.lookup_clear _ _ _).trans (if_neg fun hbelow => ?_)
    exact hdirect ⟨front, hfront, hbelow⟩

theorem lookup_clear_within (directory place : Path) :
    (fs.clear directory).lookup place = fs.lookup place ∨ Below directory place := by
  rw [FileSystem.lookup_clear]
  split
  · rename_i hbelow
    exact .inr hbelow
  · exact .inl rfl

/-- Only what is below the directory goes, or the directory goes as well and its path names it. -/
theorem run_within (removeAll : RemoveAll) {directory : Path} (habsolute : isAbsolute chroot = true)
    (hfound : resolve fs workingDirectory chroot = some directory) (place : Path) :
    (removeAll.run fs workingDirectory chroot directory).2.lookup place = fs.lookup place ∨
      directory <+: place ∧
        (place = directory → dotsError chroot = none ∧ ¬ GoesBelow chroot directory) := by
  have hbelow : Below directory place → directory <+: place ∧
      (place = directory → dotsError chroot = none ∧ ¬ GoesBelow chroot directory) :=
    fun h => ⟨h.1, fun heq => absurd heq h.2⟩
  unfold RemoveAll.run
  split
  · rename_i message remaining hclear
    have hwithin := removeAll.clear_within fs directory place
    rw [hclear] at hwithin
    exact hwithin.imp_right fun h => hbelow h.1
  · rename_i remaining hclear
    have hcleared := removeAll.clear_eq fs directory (by rw [hclear])
    rw [hclear] at hcleared
    dsimp only at hcleared
    subst hcleared
    split
    · exact (lookup_clear_within directory place).imp_right hbelow
    · rename_i place' hagain
      have hdirect : ¬ GoesBelow chroot directory := fun h => by
        rw [(resolve_clear habsolute).1 h] at hagain
        cases hagain
      rw [(resolve_clear habsolute).2 hdirect, hfound] at hagain
      obtain rfl := Option.some.inj hagain
      split
      · exact (lookup_clear_within directory place).imp_right hbelow
      · rename_i herror
        dsimp only
        rw [FileSystem.lookup_removeAll]
        split
        · rename_i hunder
          exact .inr ⟨hunder.1, fun _ => ⟨(Option.or_eq_none_iff.mp herror).1, hdirect⟩⟩
        · exact (lookup_clear_within directory place).imp_right hbelow

/-- A directory that its path names goes when nothing fails. -/
theorem run_wholeRemoval {directory : Path} (habsolute : isAbsolute chroot = true)
    (hfound : resolve fs workingDirectory chroot = some directory) (hne : directory ≠ [])
    (hdots : dotsError chroot = none) (hdirect : ¬ GoesBelow chroot directory) :
    (wholeRemoval.run fs workingDirectory chroot directory).2.lookup directory = none := by
  have hrun : wholeRemoval.run fs workingDirectory chroot directory =
      (none, (fs.clear directory).removeAll directory) := by
    unfold RemoveAll.run wholeRemoval
    dsimp only
    rw [(resolve_clear habsolute).2 hdirect, hfound, hdots]
    rfl
  rw [hrun]
  exact (FileSystem.lookup_removeAll _ _ _).trans (if_pos ⟨List.prefix_rfl, hne⟩)

/-- Only what is below the directory of all images is removed if and only if nothing is, or the
normal form of the path goes on behind the text of that directory, or the path leads to the
directory by way of what is in it or by a dot. -/
theorem cleans_below_iff (fs : FileSystem) (workingDirectory : Path) (dryRun : Bool)
    (chroot : String) :
    CleansBelow fs workingDirectory dryRun chroot ↔
      (dryRun = true ∨ resolve fs workingDirectory chroot = none ∨
        lexicallyNormal chroot ≠ installNetbootPrefix ∨ (dotsError chroot).isSome = true ∨
        GoesBelow chroot installNetboot) := by
  constructor
  · intro hbelow
    by_contra hfails
    simp only [not_or, not_not] at hfails
    obtain ⟨hreal, hfound, hnormal, hdots, hdirect⟩ := hfails
    obtain ⟨directory, hdirectory⟩ := Option.ne_none_iff_exists'.mp hfound
    have hremoves : Removes fs workingDirectory dryRun chroot directory :=
      ⟨by rw [hnormal]; decide, by simpa using hreal, hdirectory⟩
    obtain ⟨hthere, -, hends⟩ := hremoves.directory
    obtain rfl := hends.mpr hnormal
    refine (hbelow wholeRemoval installNetboot hthere ?_).2 rfl
    rw [state_of_removes _ hremoves]
    exact run_wholeRemoval hremoves.isAbsolute hdirectory (by decide) (by simpa using hdots) hdirect
  · intro hcondition removeAll place hthere hgone
    by_cases hremoves : ∃ directory, Removes fs workingDirectory dryRun chroot directory
    · obtain ⟨directory, hremoves⟩ := hremoves
      rw [state_of_removes _ hremoves] at hgone
      obtain ⟨-, hunder, hends⟩ := hremoves.directory
      rcases run_within removeAll hremoves.isAbsolute hremoves.found place with hkept | ⟨hplace, hself⟩
      · rw [hkept] at hgone
        rw [hgone] at hthere
        cases hthere
      · refine ⟨hunder.trans hplace, ?_⟩
        rintro rfl
        obtain rfl := hplace.eq_of_length_le hunder.length_le
        obtain ⟨hdots, hdirect⟩ := hself rfl
        rcases hcondition with hdry | hnone | hnormal | hdots' | hbelow
        · exact absurd (hdry.symm.trans hremoves.real) (by decide)
        · exact absurd (hnone.symm.trans hremoves.found) (by simp)
        · exact hnormal (hends.mp rfl)
        · rw [hdots] at hdots'
          cases hdots'
        · exact hdirect hbelow
    · rw [state_of_not_removes _ (fun directory h => hremoves ⟨directory, h⟩)] at hgone
      rw [hgone] at hthere
      cases hthere

end Run

/-- A machine with one image. -/
def oneImage : FileSystem where
  entries := [(["install"], .directory), (["install", "netboot"], .directory),
    (["install", "netboot", "rocky9.6"], .directory)]
  nodup := by decide
  parents := by decide

/-- With the path of the directory of all images, and a separator behind it, all images go. -/
theorem all_images_removed : ¬ CleansBelow oneImage [] false "/install/netboot/" := by
  intro h
  have hbelow := h wholeRemoval installNetboot (by decide) (by decide)
  exact absurd hbelow (by decide)

end OpenCattus
