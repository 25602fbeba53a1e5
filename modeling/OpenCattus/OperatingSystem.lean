import OpenCattus.Enumerations

/-!
# Operating systems

The `OS` record of the head node and of the compute nodes, and its version text.

`denotes_getVersion` says that the text of a version denotes the version it was
written from, for Ubuntu's year and month numbering as well as for plain numbering.
-/

namespace OpenCattus

open Foundations Foundations.Text

namespace OS

inductive Arch where
  | x86_64 | ppc64le
  deriving DecidableEq, Repr

def Arch.toText : Arch → String
  | .x86_64 => "x86_64"
  | .ppc64le => "ppc64le"

inductive Family where
  | Linux | Darwin
  deriving DecidableEq, Repr

inductive Platform where
  | el8 | el9 | el10 | ubuntu2404
  deriving DecidableEq, Repr

inductive PackageType where
  | RPM | DEB
  deriving DecidableEq, Repr

end OS

structure OS where
  arch : OS.Arch
  family : OS.Family
  platform : OS.Platform
  distro : OS.Distro
  kernel : Option String
  majorVersion : Nat
  minorVersion : Nat
  deriving DecidableEq, Repr

namespace OS

/-- The major version that belongs to a platform. -/
def Platform.majorVersion : Platform → Nat
  | .el8 => 8
  | .el9 => 9
  | .el10 => 10
  | .ubuntu2404 => 2404

/-- The constructor that does not probe the running system. -/
def ofPlatform (distro : Distro) (platform : Platform) (minorVersion : Nat) (arch : Arch) : OS where
  arch
  family := .Linux
  platform
  distro
  kernel := none
  majorVersion := platform.majorVersion
  minorVersion

def getPackageType (os : OS) : PackageType :=
  match os.distro with
  | .RHEL | .OL | .Rocky | .AlmaLinux => .RPM
  | .Ubuntu => .DEB

def setMajorVersion (os : OS) (majorVersion : Nat) : Result OS :=
  match majorVersion with
  | 8 => .ok { os with platform := .el8, majorVersion }
  | 9 => .ok { os with platform := .el9, majorVersion }
  | 10 => .ok { os with platform := .el10, majorVersion }
  | 2404 => .ok { os with platform := .ubuntu2404, majorVersion }
  | _ => runtimeError ("Unsupported release: " ++ decimal majorVersion ++ " is not supported.")

/-- Ubuntu writes year and month, and the minor version only when it is not zero. -/
def getVersion (os : OS) : String :=
  if os.distro = .Ubuntu then
    let base := decimal (os.majorVersion / 100) ++ "." ++ padZero 2 (os.majorVersion % 100)
    if 0 < os.minorVersion then base ++ "." ++ decimal os.minorVersion else base
  else decimal os.majorVersion ++ "." ++ decimal os.minorVersion

/-- `static_cast<unsigned>(std::stoul(text))`. -/
def unsignedOf (text : String) : Result Nat := do
  let n ← stoul text
  .ok (n % 2 ^ 32)

/-- The major version in a version text: for Ubuntu the year and the month. -/
def parseMajorVersion (distro : Distro) (version : String) : Result Nat :=
  if distro = .Ubuntu then do
    let year ← unsignedOf (beforeFirst '.' version)
    let month ← unsignedOf (beforeFirst '.' (afterFirst '.' version))
    .ok ((year * 100 + month) % 2 ^ 32)
  else unsignedOf (beforeFirst '.' version)

def parseMinorVersion (distro : Distro) (version : String) : Result Nat :=
  let rest := afterFirst '.' version
  if distro = .Ubuntu then
    if '.' ∈ rest.toList then unsignedOf (afterFirst '.' rest) else .ok 0
  else unsignedOf rest

def setVersion (os : OS) (version : String) : Result OS :=
  if '.' ∈ version.toList then do
    let major ← parseMajorVersion os.distro version
    let os ← os.setMajorVersion major
    let minorVersion ← parseMinorVersion os.distro version
    .ok { os with minorVersion }
  else
    runtimeError ("Unexpected value for system.version (in answerfile.ini). Expected M.N format, " ++
      "e.g., 9.5. Value found instead: " ++ version)

/-! ## Versions and their text -/

/-- The platform of a major version. -/
def platformOf : Nat → Option Platform
  | 8 => some .el8
  | 9 => some .el9
  | 10 => some .el10
  | 2404 => some .ubuntu2404
  | _ => none

theorem setMajorVersion_eq_ok {os r : OS} {major : Nat} :
    os.setMajorVersion major = .ok r ↔
      ∃ platform, platformOf major = some platform ∧
        r = { os with platform, majorVersion := major } := by
  unfold setMajorVersion platformOf
  split
  case h_5 => simp
  all_goals simp [eq_comm]

/-- The numbers that a version text denotes, when it is supported. -/
structure Denotes (distro : Distro) (version : String) (platform : Platform)
    (major minor : Nat) : Prop where
  dot : '.' ∈ version.toList
  major_eq : parseMajorVersion distro version = .ok major
  platform_eq : platformOf major = some platform
  minor_eq : parseMinorVersion distro version = .ok minor

theorem setVersion_eq_ok {os r : OS} {version : String} :
    os.setVersion version = .ok r ↔
      ∃ platform major minor, Denotes os.distro version platform major minor ∧
        r = { os with platform, majorVersion := major, minorVersion := minor } := by
  unfold setVersion
  split
  · rename_i hdot
    simp only [except_bind_ok, setMajorVersion_eq_ok, Except.ok.injEq]
    constructor
    · rintro ⟨major, hmajor, _, ⟨platform, hplatform, rfl⟩, minor, hminor, rfl⟩
      exact ⟨platform, major, minor, ⟨hdot, hmajor, hplatform, hminor⟩, rfl⟩
    · rintro ⟨platform, major, minor, h, rfl⟩
      exact ⟨major, h.major_eq, _, ⟨platform, h.platform_eq, rfl⟩, minor, h.minor_eq, rfl⟩
  · rename_i hdot
    simp only [runtimeError_ne_ok, false_iff]
    rintro ⟨_, _, _, h, -⟩
    exact hdot h.dot

theorem unsignedOf_of_parseDigits {text : String} {n : Nat} (h : parseDigits text = some n)
    (hn : n < 2 ^ 32) : unsignedOf text = .ok n := by
  have hsize : n < sizeLimit := lt_trans hn (by decide)
  rw [unsignedOf, stoul_of_parseDigits h hsize, except_ok_bind, Nat.mod_eq_of_lt hn]

theorem unsignedOf_lt {text : String} {n : Nat} (h : unsignedOf text = .ok n) : n < 2 ^ 32 := by
  unfold unsignedOf at h
  rw [except_bind_ok] at h
  obtain ⟨m, -, h⟩ := h
  rw [← Except.ok.inj h]
  exact Nat.mod_lt _ (by decide)

theorem parseMinorVersion_lt {distro : Distro} {version : String} {n : Nat}
    (h : parseMinorVersion distro version = .ok n) : n < 2 ^ 32 := by
  unfold parseMinorVersion at h
  dsimp only at h
  split at h
  · split at h
    · exact unsignedOf_lt h
    · rw [← Except.ok.inj h]
      decide
  · exact unsignedOf_lt h

theorem dot_notMem_of_isDigit {s : String} (h : ∀ c ∈ s.toList, c.isDigit = true) :
    '.' ∉ s.toList := fun hdot => absurd (h '.' hdot) (by decide)

theorem dot_notMem_decimal (n : Nat) : '.' ∉ (decimal n).toList :=
  dot_notMem_of_isDigit fun _ => isDigit_of_mem_decimal

theorem dot_notMem_padZero (width n : Nat) : '.' ∉ (padZero width n).toList :=
  dot_notMem_of_isDigit fun _ => isDigit_of_mem_padZero

theorem platformOf_lt {major : Nat} {platform : Platform} (h : platformOf major = some platform) :
    major < 2 ^ 32 := by
  unfold platformOf at h
  split at h
  all_goals first
    | decide
    | cases h

/-- The text of a supported version denotes that version. -/
theorem denotes_getVersion {os : OS} {platform : Platform}
    (hplatform : platformOf os.majorVersion = some platform) (hminor : os.minorVersion < 2 ^ 32) :
    Denotes os.distro os.getVersion platform os.majorVersion os.minorVersion := by
  have hmajor := platformOf_lt hplatform
  have hdot : ".".toList = ['.'] := by decide
  by_cases hubuntu : os.distro = .Ubuntu
  · have hyear : unsignedOf (decimal (os.majorVersion / 100)) = .ok (os.majorVersion / 100) :=
      unsignedOf_of_parseDigits (parseDigits_decimal _) (by omega)
    have hmonth : unsignedOf (padZero 2 (os.majorVersion % 100)) = .ok (os.majorVersion % 100) :=
      unsignedOf_of_parseDigits (parseDigits_padZero ..) (by omega)
    have hsum : (os.majorVersion / 100 * 100 + os.majorVersion % 100) % 4294967296 =
        os.majorVersion := by
      omega
    by_cases hpos : 0 < os.minorVersion
    · have hversion : os.getVersion = decimal (os.majorVersion / 100) ++ "." ++
          (padZero 2 (os.majorVersion % 100) ++ "." ++ decimal os.minorVersion) := by
        simp only [getVersion, hubuntu, if_true, hpos, String.append_assoc]
      refine ⟨by simp [hversion, hdot], ?_, hplatform, ?_⟩
      · simp [parseMajorVersion, hubuntu, hversion, beforeFirst_append hdot (dot_notMem_decimal _),
          afterFirst_append hdot (dot_notMem_decimal _), beforeFirst_append hdot (dot_notMem_padZero _ _),
          hyear, hmonth, hsum]
      · have hminor' : unsignedOf (decimal os.minorVersion) = .ok os.minorVersion :=
          unsignedOf_of_parseDigits (parseDigits_decimal _) hminor
        simp [parseMinorVersion, hubuntu, hversion, afterFirst_append hdot (dot_notMem_decimal _),
          afterFirst_append hdot (dot_notMem_padZero _ _), hminor']
    · have hversion : os.getVersion = decimal (os.majorVersion / 100) ++ "." ++
          padZero 2 (os.majorVersion % 100) := by
        simp only [getVersion, hubuntu, if_true, hpos, if_false]
      refine ⟨by simp [hversion, hdot], ?_, hplatform, ?_⟩
      · simp [parseMajorVersion, hubuntu, hversion, beforeFirst_append hdot (dot_notMem_decimal _),
          afterFirst_append hdot (dot_notMem_decimal _), beforeFirst_of_not_mem (dot_notMem_padZero _ _),
          hyear, hmonth, hsum]
      · have hzero : os.minorVersion = 0 := by omega
        simp [parseMinorVersion, hubuntu, hversion, afterFirst_append hdot (dot_notMem_decimal _),
          dot_notMem_padZero, hzero]
  · have hversion : os.getVersion = decimal os.majorVersion ++ "." ++
        decimal os.minorVersion := by
      simp only [getVersion, hubuntu, if_false]
    have hmajor' : unsignedOf (decimal os.majorVersion) = .ok os.majorVersion :=
      unsignedOf_of_parseDigits (parseDigits_decimal _) hmajor
    have hminor' : unsignedOf (decimal os.minorVersion) = .ok os.minorVersion :=
      unsignedOf_of_parseDigits (parseDigits_decimal _) hminor
    refine ⟨by simp [hversion, hdot], ?_, hplatform, ?_⟩
    · simp [parseMajorVersion, hubuntu, hversion, beforeFirst_append hdot (dot_notMem_decimal _), hmajor']
    · simp [parseMinorVersion, hubuntu, hversion, afterFirst_append hdot (dot_notMem_decimal _), hminor']

end OS

end OpenCattus
