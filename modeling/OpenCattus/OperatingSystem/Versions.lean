import OpenCattus.OperatingSystem

/-!
# Sequences of version changes

`OS::setVersion` works on the object: it stores the major version and the platform before it
reads the minor version, so a call that throws may have changed both. `setVersionOn` is the
call with the state that it leaves.

`goodCall_iff` says for one call when it keeps platform, release and distribution in step,
changes nothing when it throws and takes the text for what it says.
`versionCalls_sound_iff` carries this through every sequence of calls.
-/

namespace OpenCattus

open Foundations Foundations.Text

namespace OS

/-! ## The call on the object -/

/-- `OS::setVersion`, with the object that it leaves. -/
def setVersionOn (version : String) : Program OS Exception Unit := do
  let os ← Program.read
  if '.' ∈ version.toList then
    let major ← Program.ofExcept (parseMajorVersion os.distro version)
    Program.revise fun os => os.setMajorVersion major
    let minorVersion ← Program.ofExcept (parseMinorVersion os.distro version)
    Program.update fun os => { os with minorVersion }
  else
    Program.ofExcept (runtimeError ("Unexpected value for system.version (in answerfile.ini). " ++
      "Expected M.N format, e.g., 9.5. Value found instead: " ++ version))

/-- A call that returns is the pure function. -/
theorem result_setVersionOn (os : OS) (version : String) :
    Program.result (setVersionOn version) os = os.setVersion version := by
  unfold setVersionOn setVersion
  rw [Program.result_read_bind]
  split
  · simp only [Program.result_ofExcept_bind, Program.result_revise_bind, Program.result_update]
    cases hmajor : parseMajorVersion os.distro version with
    | error e => rfl
    | ok major =>
      cases hset : os.setMajorVersion major with
      | error e => simp [hset]
      | ok r =>
        obtain ⟨platform, -, rfl⟩ := setMajorVersion_eq_ok.mp hset
        simp [hset]
  · rfl

/-- The object after a call, whether it was accepted or rejected. -/
def afterCall (os : OS) (version : String) : OS := (setVersionOn version os).2

/-! ## What a call is asked to do -/

/-- Platform, release number and distribution belong together. -/
structure Consistent (os : OS) : Prop where
  release : os.majorVersion = os.platform.majorVersion
  family : os.distro = .Ubuntu ↔ os.platform = .ubuntu2404

def isDot (c : Char) : Bool := c == '.'

/-- The pieces of a text between its dots. -/
def pieces (version : String) : List String :=
  (splitEach isDot version.toList).map String.ofList

/-- A number of exactly two digits. -/
def twoDigits (s : String) : Option Nat := if s.length = 2 then parseDigits s else none

/-- The numbers in a text that is exactly M.N, or for Ubuntu YY.MM or YY.MM.P. -/
def writtenVersion (distro : Distro) (version : String) : Option (Nat × Nat) :=
  match pieces version with
  | [m, n] =>
    if distro = .Ubuntu then do
      let year ← twoDigits m
      let month ← twoDigits n
      some (year * 100 + month, 0)
    else do
      let major ← parseDigits m
      let minor ← parseDigits n
      some (major, minor)
  | [y, m, p] =>
    if distro = .Ubuntu then do
      let year ← twoDigits y
      let month ← twoDigits m
      let point ← parseDigits p
      some (year * 100 + month, point)
    else none
  | _ => none

/-- One call, in the three respects: the object stays consistent, a rejected call leaves the
version alone, and an accepted text is exactly written and gives the stored numbers. -/
structure GoodCall (os : OS) (version : String) : Prop where
  consistent : (os.afterCall version).Consistent
  rejected : ∀ e, (setVersionOn version os).1 = .error e →
    (os.afterCall version).majorVersion = os.majorVersion ∧
      (os.afterCall version).minorVersion = os.minorVersion ∧
      (os.afterCall version).platform = os.platform
  accepted : (setVersionOn version os).1 = .ok () →
    writtenVersion os.distro version =
      some ((os.afterCall version).majorVersion, (os.afterCall version).minorVersion)

/-! ## When it does -/

/-- The releases of a distribution. -/
def Distro.releases : Distro → List Nat
  | .Ubuntu => [2404]
  | _ => [8, 9, 10]

/-- The release number that is read, when it is a supported one. -/
def releaseRead (distro : Distro) (version : String) : Option Nat :=
  if '.' ∈ version.toList then
    ((parseMajorVersion distro version).toOption).filter fun major => (platformOf major).isSome
  else none

/-- The text is exactly written, with a release of the distribution and a minor version of
32 bits. -/
def WellWritten (distro : Distro) (version : String) : Prop :=
  ∃ major minor, writtenVersion distro version = some (major, minor) ∧
    major ∈ distro.releases ∧ minor < 2 ^ 32

/-- The text is well written, or no supported release is read from it, or the release that is
read is the present one and no minor version can be read. -/
def Harmless (os : OS) (version : String) : Prop :=
  ∀ major, releaseRead os.distro version = some major →
    WellWritten os.distro version ∨
      (major = os.majorVersion ∧ (parseMinorVersion os.distro version).isOk = false)

/-! ### One call -/

/-- Nothing is read, nothing is changed. -/
theorem setVersionOn_of_none {os : OS} {version : String}
    (h : releaseRead os.distro version = none) : ∃ e, setVersionOn version os = (.error e, os) := by
  unfold releaseRead at h
  unfold setVersionOn
  rw [Program.run_read_bind]
  split at h
  · rename_i hdot
    rw [if_pos hdot]
    cases hmajor : parseMajorVersion os.distro version with
    | error e => exact ⟨e, rfl⟩
    | ok major =>
      have hnone : platformOf major = none := by
        simpa [hmajor, Except.toOption, Option.filter_eq_none_iff] using h
      cases hset : os.setMajorVersion major with
      | error e => exact ⟨e, by simp [bind, Program.ofExcept, Program.revise, hset]⟩
      | ok r =>
        obtain ⟨platform, hsome, -⟩ := setMajorVersion_eq_ok.mp hset
        rw [hnone] at hsome
        cases hsome
  · rename_i hdot
    rw [if_neg hdot]
    exact ⟨_, rfl⟩

/-- The release is stored before the minor version is read. -/
theorem setVersionOn_of_some {os : OS} {version : String} {major : Nat}
    (h : releaseRead os.distro version = some major) :
    ∃ platform, platformOf major = some platform ∧
      setVersionOn version os =
        match parseMinorVersion os.distro version with
        | .ok minorVersion => (.ok (), { os with platform, majorVersion := major, minorVersion })
        | .error e => (.error e, { os with platform, majorVersion := major }) := by
  unfold releaseRead at h
  split at h
  · rename_i hdot
    obtain ⟨hmajor, hsome⟩ := Option.filter_eq_some_iff.mp h
    have hread : parseMajorVersion os.distro version = .ok major := by
      cases hm : parseMajorVersion os.distro version with
      | error e => simp [hm, Except.toOption] at hmajor
      | ok n =>
        rw [hm] at hmajor
        rw [Option.some.inj hmajor]
    obtain ⟨platform, hplatform⟩ := Option.isSome_iff_exists.mp hsome
    refine ⟨platform, hplatform, ?_⟩
    have hset : os.setMajorVersion major = .ok { os with platform, majorVersion := major } :=
      setMajorVersion_eq_ok.mpr ⟨platform, hplatform, rfl⟩
    unfold setVersionOn
    rw [Program.run_read_bind, if_pos hdot, hread]
    cases hminor : parseMinorVersion os.distro version <;>
      simp [bind, Program.ofExcept, Program.revise, Program.update, hset]
  · cases h

/-- A supported release and the platform that goes with it. -/
theorem platformOf_eq_some {major : Nat} {platform : Platform} :
    platformOf major = some platform ↔ major = platform.majorVersion := by
  constructor
  · intro h
    unfold platformOf at h
    split at h
    case h_5 => cases h
    all_goals
      cases h
      rfl
  · rintro rfl
    cases platform <;> rfl

theorem platform_majorVersion_inj {p q : Platform} (h : p.majorVersion = q.majorVersion) : p = q := by
  cases p <;> cases q <;> first | rfl | cases h

/-- The releases of a distribution are those on platforms of its family. -/
theorem mem_releases_iff {distro : Distro} {platform : Platform} :
    platform.majorVersion ∈ distro.releases ↔ (distro = .Ubuntu ↔ platform = .ubuntu2404) := by
  cases distro <;> cases platform <;> decide

/-! ### What a well written text is read as -/

theorem isDot_iff {c : Char} : isDot c = true ↔ c = '.' := by simp [isDot]

theorem dot_notMem_of_clean {t : List Char} (h : ∀ c ∈ t, isDot c = false) :
    '.' ∉ (String.ofList t).toList := by
  intro hdot
  rw [String.toList_ofList] at hdot
  exact absurd (h '.' hdot) (by decide)

theorem pieces_eq_singleton {version p : String} (h : pieces version = [p]) :
    version = p ∧ '.' ∉ p.toList := by
  unfold pieces at h
  obtain ⟨t, hs, rfl⟩ := List.map_eq_singleton_iff.mp h
  obtain ⟨ht, ⟨-, hcs⟩ | ⟨c, rest, -, -, hnil⟩⟩ := splitEach_eq_cons hs
  · refine ⟨?_, dot_notMem_of_clean ht⟩
    rw [← hcs, String.ofList_toList]
  · exact absurd hnil.symm (splitEach_ne_nil _)

theorem pieces_eq_cons {version p q : String} {ps : List String}
    (h : pieces version = p :: q :: ps) :
    ∃ rest, version = p ++ "." ++ rest ∧ '.' ∉ p.toList ∧ pieces rest = q :: ps := by
  unfold pieces at h
  obtain ⟨t, ts, hs, rfl, hts⟩ := List.map_eq_cons_iff.mp h
  obtain ⟨ht, ⟨rfl, -⟩ | ⟨c, rest, hc, hcs, rfl⟩⟩ := splitEach_eq_cons hs
  · cases hts
  · obtain rfl := isDot_iff.mp hc
    refine ⟨String.ofList rest, ?_, dot_notMem_of_clean ht, ?_⟩
    · apply String.toList_inj.mp
      simp [hcs, show ".".toList = ['.'] by decide]
    · rw [pieces, String.toList_ofList, hts]

theorem twoDigits_eq_some {s : String} {n : Nat} (h : twoDigits s = some n) :
    parseDigits s = some n := by
  unfold twoDigits at h
  split at h
  · exact h
  · cases h

/-- The code reads a well written text as it is written. -/
theorem wellWritten_read {distro : Distro} {version : String} {major minor : Nat}
    (hw : writtenVersion distro version = some (major, minor)) (hmajor : major ∈ distro.releases)
    (hminor : minor < 2 ^ 32) :
    releaseRead distro version = some major ∧ parseMinorVersion distro version = .ok minor := by
  have hdotText : ".".toList = ['.'] := by decide
  have hsmall : major ≤ 2404 := by
    cases distro <;> simp [Distro.releases] at hmajor <;> omega
  have hsupported : (platformOf major).isSome = true := by
    cases distro <;> simp [Distro.releases] at hmajor <;> rcases hmajor with rfl | rfl | rfl <;> rfl
  have hrelease : ∀ v : String, '.' ∈ v.toList → parseMajorVersion distro v = .ok major →
      releaseRead distro v = some major := by
    intro v hdot hread
    rw [releaseRead, if_pos hdot, hread]
    exact Option.filter_eq_some_iff.mpr ⟨rfl, hsupported⟩
  unfold writtenVersion at hw
  split at hw
  · rename_i m n hpieces
    obtain ⟨rest, rfl, hm, hrest⟩ := pieces_eq_cons hpieces
    obtain ⟨rfl, hn⟩ := pieces_eq_singleton hrest
    have hdot : '.' ∈ (m ++ "." ++ rest).toList := by simp [hdotText]
    split at hw
    · rename_i hubuntu
      simp only [Option.bind_eq_bind, Option.bind_eq_some_iff, Option.some.injEq, Prod.mk.injEq]
        at hw
      obtain ⟨year, hyear, month, hmonth, hsum, rfl⟩ := hw
      have hyear' := unsignedOf_of_parseDigits (twoDigits_eq_some hyear) (by omega)
      have hmonth' := unsignedOf_of_parseDigits (twoDigits_eq_some hmonth) (by omega)
      refine ⟨hrelease _ hdot ?_, ?_⟩
      · simp only [parseMajorVersion, hubuntu, if_true, beforeFirst_append hdotText hm,
          afterFirst_append hdotText hm, beforeFirst_of_not_mem hn, hyear', hmonth', except_ok_bind,
          hsum]
        rw [Nat.mod_eq_of_lt (by omega)]
      · simp [parseMinorVersion, hubuntu, afterFirst_append hdotText hm, hn]
    · rename_i hubuntu
      simp only [Option.bind_eq_bind, Option.bind_eq_some_iff, Option.some.injEq, Prod.mk.injEq]
        at hw
      obtain ⟨a, ha, b, hb, rfl, rfl⟩ := hw
      refine ⟨hrelease _ hdot ?_, ?_⟩
      · simp only [parseMajorVersion, hubuntu, if_false, beforeFirst_append hdotText hm]
        exact unsignedOf_of_parseDigits ha (by omega)
      · simp only [parseMinorVersion, hubuntu, if_false, afterFirst_append hdotText hm]
        exact unsignedOf_of_parseDigits hb hminor
  · rename_i y m p hpieces
    split at hw
    · rename_i hubuntu
      obtain ⟨rest, rfl, hy, hrest⟩ := pieces_eq_cons hpieces
      obtain ⟨tail, rfl, hm, htail⟩ := pieces_eq_cons hrest
      obtain ⟨rfl, -⟩ := pieces_eq_singleton htail
      have hdot : '.' ∈ (y ++ "." ++ (m ++ "." ++ tail)).toList := by simp [hdotText]
      have hdot' : '.' ∈ (m ++ "." ++ tail).toList := by simp [hdotText]
      simp only [Option.bind_eq_bind, Option.bind_eq_some_iff, Option.some.injEq, Prod.mk.injEq]
        at hw
      obtain ⟨year, hyear, month, hmonth, point, hpoint, hsum, rfl⟩ := hw
      have hyear' := unsignedOf_of_parseDigits (twoDigits_eq_some hyear) (by omega)
      have hmonth' := unsignedOf_of_parseDigits (twoDigits_eq_some hmonth) (by omega)
      refine ⟨hrelease _ hdot ?_, ?_⟩
      · simp only [parseMajorVersion, hubuntu, if_true, beforeFirst_append hdotText hy,
          afterFirst_append hdotText hy, beforeFirst_append hdotText hm, hyear', hmonth',
          except_ok_bind, hsum]
        rw [Nat.mod_eq_of_lt (by omega)]
      · simp only [parseMinorVersion, hubuntu, if_true, afterFirst_append hdotText hy,
          if_pos hdot', afterFirst_append hdotText hm]
        exact unsignedOf_of_parseDigits hpoint hminor
    · cases hw
  · cases hw

/-! ### The exact condition -/

/-- What a call does, in the terms of the condition. -/
theorem goodCall_iff {os : OS} {version : String} (h : os.Consistent) :
    os.GoodCall version ↔ os.Harmless version := by
  cases hread : releaseRead os.distro version with
  | none =>
    obtain ⟨e, he⟩ := setVersionOn_of_none hread
    have hafter : os.afterCall version = os := by rw [afterCall, he]
    constructor
    · intro _ major hmajor
      rw [hread] at hmajor
      cases hmajor
    · intro _
      refine ⟨by rwa [hafter], ?_, ?_⟩
      · intro _ _
        simp [hafter]
      · intro hok
        rw [he] at hok
        cases hok
  | some major =>
    obtain ⟨platform, hplatform, hcall⟩ := setVersionOn_of_some hread
    obtain rfl := platformOf_eq_some.mp hplatform
    cases hminor : parseMinorVersion os.distro version with
    | error e =>
      rw [hminor] at hcall
      have hafter : os.afterCall version =
          { os with platform, majorVersion := platform.majorVersion } := by rw [afterCall, hcall]
      constructor
      · intro hgood major hmajor
        obtain rfl : platform.majorVersion = major := Option.some.inj (hread.symm.trans hmajor)
        have hkept := (hgood.rejected e (by rw [hcall])).1
        rw [hafter] at hkept
        exact .inr ⟨hkept, by rw [hminor]; rfl⟩
      · intro hharmless
        have hkept : platform.majorVersion = os.majorVersion := by
          rcases hharmless _ hread with ⟨major, minor, hw, hrelease, hlt⟩ | ⟨hkept, -⟩
          · have hread' := (wellWritten_read hw hrelease hlt).2
            rw [hminor] at hread'
            cases hread'
          · exact hkept
        obtain rfl : platform = os.platform :=
          platform_majorVersion_inj (hkept.trans h.release)
        have hsame : os.afterCall version = os := by rw [hafter, hkept]
        refine ⟨by rwa [hsame], ?_, ?_⟩
        · intro _ _
          simp [hsame]
        · intro hok
          rw [hcall] at hok
          cases hok
    | ok minor =>
      rw [hminor] at hcall
      have hafter : os.afterCall version =
          { os with platform, majorVersion := platform.majorVersion, minorVersion := minor } := by
        rw [afterCall, hcall]
      constructor
      · intro hgood major hmajor
        obtain rfl : platform.majorVersion = major := Option.some.inj (hread.symm.trans hmajor)
        have hfamily := hgood.consistent.family
        have hwritten := hgood.accepted (by rw [hcall])
        rw [hafter] at hfamily hwritten
        exact .inl ⟨_, _, hwritten, mem_releases_iff.mpr hfamily, parseMinorVersion_lt hminor⟩
      · intro hharmless
        rcases hharmless _ hread with ⟨major, minor', hw, hrelease, hlt⟩ | ⟨-, hfail⟩
        · obtain ⟨hread', hminor'⟩ := wellWritten_read hw hrelease hlt
          obtain rfl : platform.majorVersion = major := Option.some.inj (hread.symm.trans hread')
          obtain rfl : minor = minor' := Except.ok.inj (hminor.symm.trans hminor')
          refine ⟨?_, ?_, ?_⟩
          · rw [hafter]
            exact ⟨rfl, mem_releases_iff.mp hrelease⟩
          · intro e he
            rw [hcall] at he
            cases he
          · intro _
            rw [hafter]
            exact hw
        · rw [hminor] at hfail
          cases hfail

/-! ## Sequences of calls -/

/-- `P` holds of every call of the sequence, in the state that the calls before it leave. -/
def EveryCall (P : OS → String → Prop) : OS → List String → Prop
  | _, [] => True
  | os, version :: versions => P os version ∧ EveryCall P (os.afterCall version) versions

theorem everyCall_iff {os : OS} (h : os.Consistent) (versions : List String) :
    EveryCall GoodCall os versions ↔ EveryCall Harmless os versions := by
  induction versions generalizing os with
  | nil => exact Iff.rfl
  | cons version versions ih =>
    unfold EveryCall
    rw [goodCall_iff h]
    apply and_congr_right
    intro hharmless
    exact ih ((goodCall_iff h).mpr hharmless).consistent

theorem consistent_ofPlatform {distro : Distro} {platform : Platform}
    (hfamily : distro = .Ubuntu ↔ platform = .ubuntu2404) (minorVersion : Nat) (arch : Arch)
    (family : Family) : Consistent { ofPlatform distro platform minorVersion arch with family } :=
  ⟨rfl, hfamily⟩

theorem versionCalls_sound_iff {distro : Distro} {platform : Platform}
    (hfamily : distro = .Ubuntu ↔ platform = .ubuntu2404) (minorVersion : Nat) (arch : Arch)
    (family : Family) (versions : List String) :
    Consistent { ofPlatform distro platform minorVersion arch with family } ∧
      (EveryCall GoodCall { ofPlatform distro platform minorVersion arch with family } versions ↔
        EveryCall Harmless { ofPlatform distro platform minorVersion arch with family } versions) :=
  ⟨consistent_ofPlatform hfamily minorVersion arch family,
    everyCall_iff (consistent_ofPlatform hfamily minorVersion arch family) versions⟩

/-- A point release after a text without a dot. -/
theorem versionCalls_rocky_sound :
    EveryCall GoodCall { ofPlatform .Rocky .el8 6 .x86_64 with family := .Linux } ["9", "9.5"] := by
  apply (versionCalls_sound_iff (by decide) 6 .x86_64 .Linux ["9", "9.5"]).2.mpr
  refine ⟨?_, ?_, trivial⟩
  · intro major hmajor
    have hnone : releaseRead .Rocky "9" = none := by decide
    cases hnone.symm.trans hmajor
  · intro major _
    exact .inl ⟨9, 5, by decide, by decide, by decide⟩

/-- A minor version that is no number: the call is rejected and the platform has moved. -/
theorem rejected_call_moves_platform :
    ¬ EveryCall GoodCall { ofPlatform .Rocky .el8 6 .x86_64 with family := .Linux } ["9.x"] := by
  intro h
  have hkept := (h.1.rejected ⟨.invalidArgument, "stoul"⟩ (by decide)).1
  revert hkept
  decide

end OS

end OpenCattus
