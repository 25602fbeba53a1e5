import OpenCattus.OperatingSystem
import Mathlib.Data.Prod.Lex

/-!
# DOCA streams

The version of a DOCA stream is decided on twice: `OFED` chooses how the driver is
installed, and the repository manager chooses the repository target. Both units have a copy of
the parser, and compare with opposite polarity.

`docaStreams_agree` says that the copies coincide on every text and what they decide for the
long-term streams.
-/

namespace OpenCattus

open Foundations Foundations.Text

/-! ## The driver -/

namespace OFED

inductive DocaInstallMode where
  | LegacyKernelSupport | RepoDkms
  deriving DecidableEq, Repr

def normalizeOFEDVersion (version : String) : String := lower version

def isDocaLtsStream (version : String) : Bool :=
  (findText "lts".toList (normalizeOFEDVersion version).toList).isSome

def parseDocaLtsVersion (version : String) : Option (Int × Int) :=
  let normalized := normalizeOFEDVersion version
  if (findText "lts".toList normalized.toList).isSome then
    let prefixText := "latest-"
    let suffixText := "-lts"
    match findText prefixText.toList normalized.toList,
      rfindText suffixText.toList normalized.toList with
    | some prefixPos, some suffixPos =>
      if suffixPos ≤ prefixPos + prefixText.length then none
      else
        let versionToken := String.ofList
          ((normalized.toList.drop (prefixPos + prefixText.length)).take
            (suffixPos - (prefixPos + prefixText.length)))
        if '.' ∈ versionToken.toList then
          match stoi (beforeFirst '.' versionToken), stoi (afterFirst '.' versionToken) with
          | .ok major, .ok minor => some (major, minor)
          | _, _ => none
        else none
    | _, _ => none
  else none

def usesDocaLegacyKernelSupport (version : String) : Bool :=
  if !isDocaLtsStream version then false
  else
    match parseDocaLtsVersion version with
    | some parsed => toLex parsed < toLex ((3 : Int), (2 : Int))
    | none => true

/-- The platforms are those of Enterprise Linux; any other is unreachable. -/
def selectDocaInstallMode (version : String) (osinfo : OS) (requestedKernel : Option String)
    (runningKernel : String) : Result DocaInstallMode :=
  match osinfo.platform with
  | .el8 | .el9 | .el10 =>
    if requestedKernel.any (· ≠ runningKernel) then .ok .LegacyKernelSupport
    else if usesDocaLegacyKernelSupport version then .ok .LegacyKernelSupport
    else .ok .RepoDkms
  | .ubuntu2404 => undefinedBehaviour "unreachable"

end OFED

/-! ## The repository -/

namespace RepoManager

def parseDocaLtsVersion (ofedVersion : String) : Option (Int × Int) :=
  let normalized := lower ofedVersion
  if (findText "lts".toList normalized.toList).isSome then
    let prefixText := "latest-"
    let suffixText := "-lts"
    match findText prefixText.toList normalized.toList,
      rfindText suffixText.toList normalized.toList with
    | some prefixPos, some suffixPos =>
      if suffixPos ≤ prefixPos + prefixText.length then none
      else
        let versionToken := String.ofList
          ((normalized.toList.drop (prefixPos + prefixText.length)).take
            (suffixPos - (prefixPos + prefixText.length)))
        if '.' ∈ versionToken.toList then
          match stoi (beforeFirst '.' versionToken), stoi (afterFirst '.' versionToken) with
          | .ok major, .ok minor => some (major, minor)
          | _, _ => none
        else none
    | _, _ => none
  else none

def usesDocaMajorVersionRepo (ofedVersion : String) : Bool :=
  let normalized := lower ofedVersion
  if !(findText "lts".toList normalized.toList).isSome then true
  else
    match parseDocaLtsVersion ofedVersion with
    | some parsed => toLex parsed ≥ toLex ((3 : Int), (2 : Int))
    | none => false

def defaultDOCARepoTargetFor (osinfo : OS) (ofedVersion : String) : Result String :=
  if osinfo.distro = .Ubuntu then .ok ""
  else if usesDocaMajorVersionRepo ofedVersion then
    match osinfo.platform with
    | .el8 => .ok "8"
    | .el9 => .ok "9"
    | .el10 => .ok "10"
    | .ubuntu2404 =>
      runtimeError ("Unsupported DOCA repository baseline for EL" ++ decimal osinfo.majorVersion)
  else
    match osinfo.platform with
    | .el8 => .ok "8.10"
    | .el9 => .ok "9.6"
    | .el10 =>
      runtimeError ("Legacy DOCA LTS repo target is not defined for EL10; choose a " ++
        "major-version DOCA stream such as latest or latest-3.2-LTS")
    | .ubuntu2404 =>
      runtimeError ("Unsupported DOCA repository baseline for EL" ++ decimal osinfo.majorVersion)

end RepoManager

/-! ## The two decisions -/

namespace DocaStream

/-- What the repository manager answers for a legacy stream: a target for EL8 and EL9, and for EL10
that there is none. -/
def IsLegacyTarget (platform : OS.Platform) (target : Result String) : Prop :=
  match platform with
  | .el8 => target = .ok "8.10"
  | .el9 => target = .ok "9.6"
  | .el10 =>
    target = runtimeError ("Legacy DOCA LTS repo target is not defined for EL10; choose a " ++
      "major-version DOCA stream such as latest or latest-3.2-LTS")
  | .ubuntu2404 => False

theorem parseDocaLtsVersion_eq (version : String) :
    OFED.parseDocaLtsVersion version = RepoManager.parseDocaLtsVersion version := by
  unfold OFED.parseDocaLtsVersion RepoManager.parseDocaLtsVersion OFED.normalizeOFEDVersion
  rfl

theorem usesDocaLegacyKernelSupport_eq (version : String) :
    OFED.usesDocaLegacyKernelSupport version = !RepoManager.usesDocaMajorVersionRepo version := by
  unfold OFED.usesDocaLegacyKernelSupport RepoManager.usesDocaMajorVersionRepo
    OFED.isDocaLtsStream OFED.normalizeOFEDVersion
  rw [parseDocaLtsVersion_eq]
  dsimp only
  cases (findText "lts".toList (lower version).toList).isSome with
  | false => rfl
  | true =>
    cases RepoManager.parseDocaLtsVersion version with
    | none => rfl
    | some parsed =>
      simp only [Bool.not_true, Bool.false_eq_true, if_false, ge_iff_le, ← not_lt, decide_not,
        Bool.not_not]

/-- Without another kernel the driver and the repository follow the stream. -/
theorem selectDocaInstallMode_iff {osinfo : OS} {requestedKernel : Option String}
    {runningKernel : String} (hdistro : osinfo.distro ≠ .Ubuntu)
    (hplatform : osinfo.platform ≠ .ubuntu2404)
    (hkernel : ∀ kernel ∈ requestedKernel, kernel = runningKernel) (version : String) :
    OFED.selectDocaInstallMode version osinfo requestedKernel runningKernel =
        .ok .LegacyKernelSupport ↔
      IsLegacyTarget osinfo.platform (RepoManager.defaultDOCARepoTargetFor osinfo version) := by
  have hsame : requestedKernel.any (· ≠ runningKernel) = false := by
    cases requestedKernel with
    | none => rfl
    | some kernel => simp [hkernel kernel rfl]
  unfold OFED.selectDocaInstallMode RepoManager.defaultDOCARepoTargetFor
  rw [usesDocaLegacyKernelSupport_eq, hsame, if_neg hdistro]
  cases RepoManager.usesDocaMajorVersionRepo version <;> cases hp : osinfo.platform <;>
    simp_all [IsLegacyTarget, runtimeError]

/-- The text of a long-term stream, up to its letter case. -/
def ltsText (major minor : Nat) : String := "latest-" ++ decimal major ++ "." ++ decimal minor ++ "-lts"

theorem parseDocaLtsVersion_ltsText {version : String} {major minor : Nat}
    (h : lower version = ltsText major minor) (hmajor : major < 2 ^ 31) (hminor : minor < 2 ^ 31) :
    OFED.parseDocaLtsVersion version = some ((major : Int), (minor : Int)) := by
  have htext : (ltsText major minor).toList =
      "latest-".toList ++ ((decimal major ++ "." ++ decimal minor).toList ++ "-lts".toList) := by
    simp [ltsText]
  have hlts : (findText "lts".toList (ltsText major minor).toList).isSome = true := by
    rw [isSome_findText_iff, htext, ← List.append_assoc]
    exact (List.suffix_append ['-'] "lts".toList).isInfix.trans (List.suffix_append ..).isInfix
  have hfind : findText "latest-".toList (ltsText major minor).toList = some 0 := by
    rw [htext]
    exact findText_append _ _ (by decide)
  have hrfind : rfindText "-lts".toList (ltsText major minor).toList =
      some (7 + (decimal major ++ "." ++ decimal minor).length) := by
    rw [htext, ← List.append_assoc, rfindText_append _ _ (by decide), List.length_append]
    rfl
  have hlength : 0 < (decimal major ++ "." ++ decimal minor).length := by
    rw [String.length_append, String.length_append, show ".".length = 1 by decide]
    omega
  have htoken : String.ofList (((ltsText major minor).toList.drop (0 + 7)).take
      (7 + (decimal major ++ "." ++ decimal minor).length - (0 + 7))) =
        decimal major ++ "." ++ decimal minor := by
    have hdrop : (ltsText major minor).toList.drop (0 + 7) =
        (decimal major ++ "." ++ decimal minor).toList ++ "-lts".toList := by
      rw [htext]
      exact List.drop_left' rfl
    rw [hdrop, Nat.zero_add, Nat.add_sub_cancel_left]
    have htake : ((decimal major ++ "." ++ decimal minor).toList ++ "-lts".toList).take
        (decimal major ++ "." ++ decimal minor).length =
          (decimal major ++ "." ++ decimal minor).toList :=
      List.take_left' String.length_toList
    rw [htake, String.ofList_toList]
  have hdotText : ".".toList = ['.'] := by decide
  have hdot : '.' ∈ (decimal major ++ "." ++ decimal minor).toList := by simp [hdotText]
  have hlatest : "latest-".length = 7 := by decide
  unfold OFED.parseDocaLtsVersion OFED.normalizeOFEDVersion
  simp only [h, hlts, if_true, hfind, hrfind, hlatest]
  rw [if_neg (by omega), htoken, if_pos hdot, beforeFirst_append hdotText (OS.dot_notMem_decimal _),
    afterFirst_append hdotText (OS.dot_notMem_decimal _),
    stoi_of_parseDigits (parseDigits_decimal _), stoi_of_parseDigits (parseDigits_decimal _),
    if_pos hmajor, if_pos hminor]

/-- A long-term stream is a legacy one when its version is below 3.2. -/
theorem usesDocaLegacyKernelSupport_ltsText {version : String} {major minor : Nat}
    (h : lower version = ltsText major minor) (hmajor : major < 2 ^ 31) (hminor : minor < 2 ^ 31) :
    OFED.usesDocaLegacyKernelSupport version = true ↔ major < 3 ∨ (major = 3 ∧ minor < 2) := by
  have hlts : OFED.isDocaLtsStream version = true := by
    rw [OFED.isDocaLtsStream, OFED.normalizeOFEDVersion, h, isSome_findText_iff]
    refine ⟨"latest-".toList ++ (decimal major ++ "." ++ decimal minor).toList ++ ['-'], [], ?_⟩
    simp [ltsText]
  unfold OFED.usesDocaLegacyKernelSupport
  rw [hlts, parseDocaLtsVersion_ltsText h hmajor hminor]
  simp only [Bool.not_true, Bool.false_eq_true, if_false, decide_eq_true_iff, Prod.Lex.toLex_lt_toLex]
  omega

/-- The copies agree on every text; without another kernel than the running one the driver
follows the stream that the repository follows; and for the long-term streams the limit is 3.2. -/
theorem docaStreams_agree :
    (∀ version, OFED.usesDocaLegacyKernelSupport version =
      !RepoManager.usesDocaMajorVersionRepo version) ∧
    (∀ (version : String) (osinfo : OS) (requestedKernel : Option String) (runningKernel : String),
      osinfo.distro ≠ .Ubuntu → osinfo.platform ≠ .ubuntu2404 →
      (∀ kernel ∈ requestedKernel, kernel = runningKernel) →
      (OFED.selectDocaInstallMode version osinfo requestedKernel runningKernel =
          .ok .LegacyKernelSupport ↔
        IsLegacyTarget osinfo.platform
          (RepoManager.defaultDOCARepoTargetFor osinfo version))) ∧
    (∀ (version : String) (major minor : Nat), major < 2 ^ 31 → minor < 2 ^ 31 →
      lower version = lower ("latest-" ++ decimal major ++ "." ++ decimal minor ++ "-LTS") →
      (OFED.usesDocaLegacyKernelSupport version = true ↔ major < 3 ∨ (major = 3 ∧ minor < 2))) ∧
    ∀ version, ¬ "lts".toList <:+: (lower version).toList →
      OFED.usesDocaLegacyKernelSupport version = false := by
  refine ⟨usesDocaLegacyKernelSupport_eq, ?_, ?_, ?_⟩
  · intro version osinfo requestedKernel runningKernel hdistro hplatform hkernel
    exact selectDocaInstallMode_iff hdistro hplatform hkernel version
  · intro version major minor hmajor hminor h
    apply usesDocaLegacyKernelSupport_ltsText ?_ hmajor hminor
    have hlatest : lower "latest-" = "latest-" := by decide
    have hdot : lower "." = "." := by decide
    have hlts : lower "-LTS" = "-lts" := by decide
    rw [h, ltsText, lower_append, lower_append, lower_append, lower_append, lower_decimal,
      lower_decimal, hlatest, hdot, hlts]
  · intro version h
    have hlts : OFED.isDocaLtsStream version = false := by
      rw [OFED.isDocaLtsStream, OFED.normalizeOFEDVersion, Bool.eq_false_iff]
      exact fun hsome => h (isSome_findText_iff.mp hsome)
    simp [OFED.usesDocaLegacyKernelSupport, hlts]

/-- A legacy stream on the kernel that runs, and a stream in capitals. -/
theorem docaStreams_agree_legacy :
    (OFED.selectDocaInstallMode "latest-2.9-LTS" (.ofPlatform .Rocky .el9 6 .x86_64) none
          "5.14.0-570.12.1.el9_6.x86_64" = .ok .LegacyKernelSupport ↔
        IsLegacyTarget .el9 (RepoManager.defaultDOCARepoTargetFor
          (.ofPlatform .Rocky .el9 6 .x86_64) "latest-2.9-LTS")) ∧
      (OFED.usesDocaLegacyKernelSupport "LATEST-3.2-LTS" = true ↔ 3 < 3 ∨ (3 = 3 ∧ 2 < 2)) ∧
      OFED.usesDocaLegacyKernelSupport "latest" = false := by
  obtain ⟨-, hmode, hlts, hlatest⟩ := docaStreams_agree
  refine ⟨?_, ?_, ?_⟩
  · exact hmode _ _ _ _ (by decide) (by decide) (by simp)
  · exact hlts _ 3 2 (by decide) (by decide) (by decide)
  · exact hlatest _ (by decide)

/-- Another kernel is asked for: the driver is built for it, the repository stays that of the
current stream. -/
theorem pinned_kernel_keeps_target :
    OFED.selectDocaInstallMode "latest-3.2-LTS" (.ofPlatform .Rocky .el9 6 .x86_64)
        (some "5.14.0-503.11.1.el9_5.x86_64") "5.14.0-570.12.1.el9_6.x86_64" =
          .ok .LegacyKernelSupport ∧
      ¬ IsLegacyTarget .el9 (RepoManager.defaultDOCARepoTargetFor
        (.ofPlatform .Rocky .el9 6 .x86_64) "latest-3.2-LTS") := by
  have htarget : RepoManager.defaultDOCARepoTargetFor (.ofPlatform .Rocky .el9 6 .x86_64)
      "latest-3.2-LTS" = .ok "9" := by decide
  refine ⟨by decide, ?_⟩
  rw [htarget]
  simp [IsLegacyTarget]

end DocaStream

end OpenCattus
