import OpenCattus.OperatingSystem.Versions

/-!
# The text of a version

`getVersion` writes the version of an operating system, `setVersion` stores the one that it reads.

`Built` are the objects that the program has; their platform is always the one of their release
(`Built.released`). `version_text_round_trip` says that the text of an object gives the object back,
and that it tells all versions of a distribution apart.
-/

namespace OpenCattus

open Foundations Foundations.Text

namespace OS

/-! ## The objects of the program -/

/-- Objects come from one of the constructors and are changed by the setters. The constructor that
probes the machine sets the version last, whatever it has set before; `setPlatform` is called
nowhere else. -/
inductive Built : OS → Prop where
  | ofPlatform (distro : Distro) (platform : Platform) {minorVersion : Nat}
    (h : minorVersion < 2 ^ 32) (arch : Arch) (family : Family) :
    Built { ofPlatform distro platform minorVersion arch with family }
  | probed {os r : OS} {version : String} (h : os.setVersion version = .ok r) : Built r
  | setVersion {os : OS} (h : Built os) (version : String) : Built (os.afterCall version)
  | setDistro {os : OS} (h : Built os) (distro : Distro) : Built { os with distro }
  | setArch {os : OS} (h : Built os) (arch : Arch) : Built { os with arch }
  | setFamily {os : OS} (h : Built os) (family : Family) : Built { os with family }
  | setKernel {os : OS} (h : Built os) (kernel : Option String) : Built { os with kernel }

/-- The platform is the one of the release, and the minor version has 32 bits. -/
structure Released (os : OS) : Prop where
  release : platformOf os.majorVersion = some os.platform
  minor : os.minorVersion < 2 ^ 32

theorem Denotes.released {os : OS} {distro : Distro} {version : String} {platform : Platform}
    {majorVersion minorVersion : Nat} (h : Denotes distro version platform majorVersion minorVersion) :
    Released { os with platform, majorVersion, minorVersion } :=
  ⟨h.platform_eq, parseMinorVersion_lt h.minor_eq⟩

/-- A call keeps platform and release together, also when it is rejected. -/
theorem Released.afterCall {os : OS} (h : os.Released) (version : String) :
    (os.afterCall version).Released := by
  unfold OS.afterCall
  cases hread : releaseRead os.distro version with
  | none =>
    obtain ⟨e, hcall⟩ := setVersionOn_of_none hread
    rw [hcall]
    exact h
  | some major =>
    obtain ⟨platform, hplatform, hcall⟩ := setVersionOn_of_some hread
    rw [hcall]
    cases hminor : parseMinorVersion os.distro version with
    | ok minorVersion => exact ⟨hplatform, parseMinorVersion_lt hminor⟩
    | error e => exact ⟨hplatform, h.minor⟩

theorem Built.released {os : OS} (h : Built os) : os.Released := by
  induction h with
  | ofPlatform distro platform h arch family => exact ⟨platformOf_eq_some.mpr rfl, h⟩
  | probed h =>
    obtain ⟨platform, major, minor, hdenotes, rfl⟩ := setVersion_eq_ok.mp h
    exact hdenotes.released
  | setVersion _ version ih => exact ih.afterCall version
  | setDistro _ distro ih => exact ⟨ih.release, ih.minor⟩
  | setArch _ arch ih => exact ⟨ih.release, ih.minor⟩
  | setFamily _ family ih => exact ⟨ih.release, ih.minor⟩
  | setKernel _ kernel ih => exact ⟨ih.release, ih.minor⟩

/-! ## Reading the text -/

/-- The number of a point release, behind year and month. -/
def pointOf (rest : String) : Option Nat :=
  if '.' ∈ rest.toList then parseDigits (afterFirst '.' rest) else some 0

/-- The numbers in a version text, of any size. -/
def numbersOf (distro : Distro) (version : String) : Option (Nat × Nat) :=
  let rest := afterFirst '.' version
  if distro = .Ubuntu then do
    let year ← parseDigits (beforeFirst '.' version)
    let month ← parseDigits (beforeFirst '.' rest)
    let point ← pointOf rest
    some (year * 100 + month, point)
  else do
    let major ← parseDigits (beforeFirst '.' version)
    let minor ← parseDigits rest
    some (major, minor)

/-- Year, month and point release of Ubuntu. -/
theorem numbersOf_ubuntu {year month : Nat} {rest : String} {point : Nat}
    (hmonth : parseDigits (beforeFirst '.' rest) = some month) (hpoint : pointOf rest = some point) :
    numbersOf .Ubuntu (decimal year ++ "." ++ rest) = some (year * 100 + month, point) := by
  rw [numbersOf, if_pos rfl, beforeFirst_append rfl (dot_notMem_decimal _),
    afterFirst_append rfl (dot_notMem_decimal _), parseDigits_decimal, hmonth, hpoint]
  rfl

/-- The text gives the numbers back, whatever they are. -/
theorem numbersOf_getVersion (os : OS) :
    numbersOf os.distro os.getVersion = some (os.majorVersion, os.minorVersion) := by
  unfold getVersion
  split
  · rename_i hubuntu
    have hyear : os.majorVersion / 100 * 100 + os.majorVersion % 100 = os.majorVersion :=
      Nat.div_add_mod' _ _
    have hmonth := parseDigits_padZero 2 (os.majorVersion % 100)
    have hclean := dot_notMem_padZero 2 (os.majorVersion % 100)
    dsimp only
    rw [hubuntu]
    split
    · have htext : ∀ year month minor : String,
          year ++ "." ++ month ++ "." ++ minor = year ++ "." ++ (month ++ "." ++ minor) := by
        simp only [String.append_assoc, implies_true]
      have hpoint : pointOf (padZero 2 (os.majorVersion % 100) ++ "." ++ decimal os.minorVersion) =
          some os.minorVersion := by
        rw [pointOf, if_pos (by simp), afterFirst_append rfl hclean, parseDigits_decimal]
      rw [htext, numbersOf_ubuntu (by rw [beforeFirst_append rfl hclean, hmonth]) hpoint, hyear]
    · rename_i hzero
      have hpoint : pointOf (padZero 2 (os.majorVersion % 100)) = some 0 := if_neg hclean
      rw [numbersOf_ubuntu (by rw [beforeFirst_of_not_mem hclean, hmonth]) hpoint, hyear,
        Nat.eq_zero_of_not_pos hzero]
  · rename_i hother
    rw [numbersOf, if_neg hother, beforeFirst_append rfl (dot_notMem_decimal _),
      afterFirst_append rfl (dot_notMem_decimal _), parseDigits_decimal, parseDigits_decimal]
    rfl

/-- The text of a released object is read as the object's own version. -/
theorem setVersionOn_getVersion {os : OS} (h : os.Released) :
    setVersionOn os.getVersion os = (.ok (), os) := by
  have hdenotes := denotes_getVersion h.release h.minor
  have hread : releaseRead os.distro os.getVersion = some os.majorVersion := by
    rw [releaseRead, if_pos hdenotes.dot, hdenotes.major_eq]
    simp [Except.toOption, h.release]
  obtain ⟨platform, hplatform, hcall⟩ := setVersionOn_of_some hread
  obtain rfl := Option.some.inj (h.release.symm.trans hplatform)
  rw [hcall, hdenotes.minor_eq]

/-- The text of an object gives the object back, and the texts of a distribution are different for
different versions. -/
theorem version_text_round_trip :
    (∀ os, Built os → setVersionOn os.getVersion os = (.ok (), os)) ∧
      ∀ os other : OS, os.distro = other.distro → os.getVersion = other.getVersion →
        os.majorVersion = other.majorVersion ∧ os.minorVersion = other.minorVersion := by
  refine ⟨fun os h => setVersionOn_getVersion h.released, fun os other hdistro htext => ?_⟩
  have hnumbers := numbersOf_getVersion os
  rw [hdistro, htext, numbersOf_getVersion other] at hnumbers
  obtain ⟨hmajor, hminor⟩ := Prod.mk.inj (Option.some.inj hnumbers)
  exact ⟨hmajor.symm, hminor.symm⟩

def rocky96 : OS := ofPlatform .Rocky .el9 6 .x86_64

/-- The text of Rocky Linux 9.6 gives it back, and the system for another processor has the same
text and the same version. -/
theorem version_text_round_trip_rocky96 :
    setVersionOn rocky96.getVersion rocky96 = (.ok (), rocky96) ∧
      rocky96.majorVersion = ({ rocky96 with arch := .ppc64le } : OS).majorVersion ∧
      rocky96.minorVersion = ({ rocky96 with arch := .ppc64le } : OS).minorVersion := by
  obtain ⟨hback, hsame⟩ := version_text_round_trip
  have hbuilt : Built rocky96 := .ofPlatform .Rocky .el9 (by decide) .x86_64 .Linux
  exact ⟨hback rocky96 hbuilt, hsame rocky96 { rocky96 with arch := .ppc64le } rfl rfl⟩

end OS

end OpenCattus
