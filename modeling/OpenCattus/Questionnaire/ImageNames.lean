import OpenCattus.Questionnaire.DiskImage

/-!
# Names of images and versions

The step writes the name of an image of a version, reads the numbers back from such a name, and
makes an operating system of a version that is typed.

The names are always read back (`inferVersionComboFromIso_exampleIsoName`). What is made has the
typed version and a platform of its distribution unless the major version is one of Enterprise
Linux and the distribution is Ubuntu or the minor version is negative (`versions_agree_iff`).
-/

namespace OpenCattus

open Foundations Foundations.Text Foundations.Inet Program Dialog

def exampleIsoName (distro : OS.Distro) (version : VersionCombo) : String :=
  let (majorVersion, minorVersion, arch) := version
  let architecture := if distro = .Ubuntu then "amd64" else arch.toText
  let major := toString majorVersion
  let minor := toString minorVersion
  match distro with
  | .RHEL => "rhel-" ++ major ++ "." ++ minor ++ "-" ++ architecture ++ "-dvd.iso"
  | .OL => "OracleLinux-R" ++ major ++ "-U" ++ minor ++ "-" ++ architecture ++ "-dvd.iso"
  | .Rocky => "Rocky-" ++ major ++ "." ++ minor ++ "-" ++ architecture ++ "-dvd.iso"
  | .AlmaLinux => "AlmaLinux-" ++ major ++ "." ++ minor ++ "-" ++ architecture ++ "-dvd.iso"
  | .Ubuntu => "ubuntu-" ++ major ++ ".04.4-live-server-" ++ architecture ++ ".iso"

/-! ## Numbers in a text -/

section Numbers

variable {lead sep : List Char}

theorem matchNumbers_of_not_digit {c : Char} (h : c.isDigit = false) (cs : List Char) :
    matchNumbers [] sep (c :: cs) = none := by
  simp [matchNumbers, h]

theorem matchNumbers_of_ne {c l : Char} (h : l ≠ c) (cs : List Char) :
    matchNumbers (l :: lead) sep (c :: cs) = none := by
  simp [matchNumbers, h]

/-- Nothing matches in front of the place. -/
theorem searchNumbers_skip {before : List Char} (rest : List Char)
    (h : ∀ c ∈ before, ∀ cs, matchNumbers lead sep (c :: cs) = none) :
    searchNumbers lead sep (before ++ rest) = searchNumbers lead sep rest := by
  induction before with
  | nil => rfl
  | cons c before ih =>
    obtain ⟨hc, hbefore⟩ := List.forall_mem_cons.mp h
    rw [List.cons_append, searchNumbers, hc, Option.none_or, ih hbefore]

theorem searchNumbers_of_match {cs : List Char} {numbers : List Char × List Char}
    (h : matchNumbers lead sep cs = some numbers) : searchNumbers lead sep cs = some numbers := by
  cases cs with
  | nil => exact h
  | cons c cs => rw [searchNumbers, h, Option.some_or]

/-- Digits before something else. -/
theorem span_digits {digits rest : List Char} (hdigits : ∀ c ∈ digits, c.isDigit = true)
    (hrest : ∀ c ∈ rest.head?, c.isDigit = false) :
    (digits ++ rest).takeWhile Char.isDigit = digits ∧
      (digits ++ rest).dropWhile Char.isDigit = rest := by
  rw [List.takeWhile_append_of_pos hdigits, List.dropWhile_append_of_pos hdigits]
  cases rest with
  | nil => simp
  | cons c rest => simp [hrest c rfl]

/-- Two numbers are found where they are written. -/
theorem matchNumbers_written {major minor rest : List Char}
    (hmajor : ∀ c ∈ major, c.isDigit = true) (hmajor_ne : major ≠ [])
    (hminor : ∀ c ∈ minor, c.isDigit = true) (hminor_ne : minor ≠ [])
    (hsep : ∃ c cs, sep = c :: cs ∧ c.isDigit = false)
    (hrest : ∀ c ∈ rest.head?, c.isDigit = false) :
    matchNumbers lead sep (lead ++ (major ++ (sep ++ (minor ++ rest)))) = some (major, minor) := by
  have hhead : ∀ c ∈ (sep ++ (minor ++ rest)).head?, c.isDigit = false := by
    obtain ⟨c, cs, rfl, hc⟩ := hsep
    simpa using hc
  obtain ⟨hfirst, hbehind⟩ := span_digits hmajor hhead
  obtain ⟨hsecond, -⟩ := span_digits hminor hrest
  unfold matchNumbers
  rw [if_pos (by simp), List.drop_left]
  dsimp only
  rw [hfirst, hbehind, List.drop_left, hsecond, if_pos ⟨hmajor_ne, by simp, hminor_ne⟩]

end Numbers

/-! ## Written names -/

/-- A name, as the pattern of its distribution takes it apart. -/
def isoName (stem : String) (pattern : List Char × List Char) (major minor : Nat) (arch : OS.Arch) :
    String :=
  stem ++ String.ofList pattern.1 ++ decimal major ++ String.ofList pattern.2 ++ decimal minor ++
    ("-" ++ arch.toText ++ "-dvd.iso")

/-- What a name begins with. -/
def isoStem : OS.Distro → String
  | .RHEL => "rhel-"
  | .OL => "OracleLinux-"
  | .Rocky => "Rocky-"
  | .AlmaLinux => "AlmaLinux-"
  | .Ubuntu => ""

theorem exampleIsoName_eq {distro : OS.Distro} (h : distro ≠ .Ubuntu) (major minor : Nat)
    (arch : OS.Arch) :
    exampleIsoName distro (major, minor, arch) =
      isoName (isoStem distro) (versionPattern distro) major minor arch := by
  have hint : ∀ n : Nat, toString (n : Int) = decimal n := fun _ => rfl
  have hlead : "OracleLinux-R" = "OracleLinux-" ++ "R" := by decide
  unfold exampleIsoName isoName
  dsimp only
  rw [hint, hint, if_neg h]
  cases distro with
  | Ubuntu => exact absurd rfl h
  | OL =>
    dsimp only [isoStem, versionPattern]
    rw [String.ofList_toList, String.ofList_toList, hlead]
    simp only [String.append_assoc]
  | _ =>
    dsimp only [isoStem, versionPattern]
    rw [String.ofList_toList, String.ofList_nil, String.append_empty]
    simp only [String.append_assoc]

theorem toList_isoName (stem : String) (pattern : List Char × List Char) (major minor : Nat)
    (arch : OS.Arch) :
    (isoName stem pattern major minor arch).toList = stem.toList ++ (pattern.1 ++
      ((decimal major).toList ++ (pattern.2 ++ ((decimal minor).toList ++
        ('-' :: (arch.toText.toList ++ "-dvd.iso".toList)))))) := by
  simp [isoName]

/-! ### The numbers of a name -/

theorem searchNumbers_isoName {distro : OS.Distro} (h : distro ≠ .Ubuntu) (major minor : Nat)
    (arch : OS.Arch) :
    searchNumbers (versionPattern distro).1 (versionPattern distro).2
        (isoName (isoStem distro) (versionPattern distro) major minor arch).toList =
      some ((decimal major).toList, (decimal minor).toList) := by
  have hne : ∀ n, (decimal n).toList ≠ [] := by simp
  have hletters : (isoStem distro).toList.all (!·.isDigit) = true := by cases distro <;> rfl
  have hskip : ∀ c ∈ (isoStem distro).toList, ∀ cs,
      matchNumbers (versionPattern distro).1 (versionPattern distro).2 (c :: cs) = none := by
    cases distro with
    | Ubuntu => exact absurd rfl h
    | OL =>
      have hletter : 'R' ∉ (isoStem .OL).toList := by decide
      intro c hc cs
      apply matchNumbers_of_ne
      rintro rfl
      exact hletter hc
    | _ =>
      intro c hc cs
      exact matchNumbers_of_not_digit (by simpa using List.all_eq_true.mp hletters c hc) cs
  have hsep : ∃ c cs, (versionPattern distro).2 = c :: cs ∧ c.isDigit = false := by
    cases distro
    case OL => exact ⟨'-', ['U'], rfl, rfl⟩
    all_goals exact ⟨'.', [], rfl, rfl⟩
  rw [toList_isoName, searchNumbers_skip _ hskip]
  refine searchNumbers_of_match (matchNumbers_written (fun _ => isDigit_of_mem_decimal) (hne _)
    (fun _ => isDigit_of_mem_decimal) (hne _) hsep ?_)
  intro c hc
  obtain rfl := Option.mem_some_iff.mp hc
  rfl

/-! ### The architecture of a name -/

theorem containsText_iff {pattern text : String} :
    containsText pattern text = true ↔ pattern.toList <:+: text.toList := isSome_findText_iff

/-- A text is not found when it is not found among the characters that are no digits. -/
theorem containsText_eq_false {pattern text : String}
    (h : ¬ pattern.toList.filter (!·.isDigit) <:+: text.toList.filter (!·.isDigit)) :
    containsText pattern text = false := by
  rw [Bool.eq_false_iff, ne_eq, containsText_iff]
  exact fun hfound => h (List.IsInfix.filter _ hfound)

theorem filter_decimal (n : Nat) : (decimal n).toList.filter (!·.isDigit) = [] := by
  rw [List.filter_eq_nil_iff]
  intro c hc
  rw [isDigit_of_mem_decimal hc]
  decide

/-- The numbers in a name do not make it the name of another architecture. -/
theorem letters_isoName (stem : String) (pattern : List Char × List Char) (major minor : Nat)
    (arch : OS.Arch) :
    (lower (isoName stem pattern major minor arch)).toList.filter (!·.isDigit) =
      (lower (stem ++ String.ofList pattern.1 ++ String.ofList pattern.2 ++
        ("-" ++ arch.toText ++ "-dvd.iso"))).toList.filter (!·.isDigit) := by
  have hdigits : ∀ n, (decimal n).toList.map Char.toLower = (decimal n).toList := by
    intro n
    rw [← toList_lower, lower_decimal]
  simp only [isoName, toList_lower, String.toList_append, List.map_append, List.filter_append,
    hdigits, filter_decimal, List.append_assoc, List.nil_append]

theorem parseArchitecture_isoName {distro : OS.Distro} (h : distro ≠ .Ubuntu) (major minor : Nat)
    (arch : OS.Arch) :
    parseArchitecture (isoName (isoStem distro) (versionPattern distro) major minor arch) =
      some arch := by
  have hfound : containsText (lower arch.toText)
      (lower (isoName (isoStem distro) (versionPattern distro) major minor arch)) = true := by
    rw [containsText_iff, isoName]
    simp only [lower_append, String.toList_append]
    exact (((List.suffix_append _ _).isInfix).trans (List.prefix_append _ _).isInfix).trans
      (List.suffix_append _ _).isInfix
  unfold parseArchitecture
  dsimp only
  cases arch with
  | x86_64 => rw [if_pos (by rw [Bool.or_eq_true]; exact .inl hfound)]
  | ppc64le =>
    have hnot : ∀ pattern ∈ ["x86_64", "amd64"], containsText pattern
        (lower (isoName (isoStem distro) (versionPattern distro) major minor .ppc64le)) = false := by
      intro pattern hpattern
      apply containsText_eq_false
      rw [letters_isoName]
      revert pattern
      cases distro with
      | Ubuntu => exact absurd rfl h
      | _ => decide
    rw [hnot _ (by simp), hnot _ (by simp), if_neg (by decide)]
    exact if_pos hfound

/-! ### Reading a name back -/

/-- The versions whose names are read back. -/
def Named (distro : OS.Distro) (version : VersionCombo) : Prop :=
  if distro = .Ubuntu then version = (24, 4, .x86_64)
  else 0 ≤ version.1 ∧ version.1 < 2 ^ 31 ∧ 0 ≤ version.2.1 ∧ version.2.1 < 2 ^ 31

theorem stoi_decimal {n : Nat} (h : n < 2 ^ 31) :
    stoi (String.ofList (decimal n).toList) = .ok (n : Int) := by
  rw [String.ofList_toList, stoi_of_parseDigits (parseDigits_decimal n), if_pos h]

theorem inferVersionComboFromIso_exampleIsoName {distro : OS.Distro} {version : VersionCombo}
    (h : Named distro version) :
    inferVersionComboFromIso distro (exampleIsoName distro version) = .ok (some version) := by
  unfold Named at h
  split at h
  · rename_i hubuntu
    rw [hubuntu, h]
    decide
  · rename_i hubuntu
    obtain ⟨major, minor, arch⟩ := version
    obtain ⟨hmajor, hmajor_lt, hminor, hminor_lt⟩ := h
    obtain ⟨major, rfl⟩ := Int.eq_ofNat_of_zero_le hmajor
    obtain ⟨minor, rfl⟩ := Int.eq_ofNat_of_zero_le hminor
    dsimp only at hmajor_lt hminor_lt
    rw [exampleIsoName_eq hubuntu, inferVersionComboFromIso, parseArchitecture_isoName hubuntu]
    dsimp only
    rw [searchNumbers_isoName hubuntu]
    dsimp only
    rw [stoi_decimal (by omega), stoi_decimal (by omega)]
    rfl

theorem afterLastSlash_join {directory file : String} (h : '/' ∉ file.toList) :
    afterLastSlash (directory ++ "/" ++ file) = file := by
  have hpath : (directory ++ "/" ++ file).toList = directory.toList ++ '/' :: file.toList := by simp
  rw [afterLastSlash, hpath, takeWhile_reverse_append h, List.reverse_reverse, String.ofList_toList]

theorem slash_notMem_isoName {distro : OS.Distro} (major minor : Nat) (arch : OS.Arch) :
    '/' ∉ (isoName (isoStem distro) (versionPattern distro) major minor arch).toList := by
  have hnumber : ∀ n, '/' ∉ (decimal n).toList :=
    fun n h => absurd (isDigit_of_mem_decimal h) (by decide)
  have hstem : '/' ∉ (isoStem distro).toList ∧ '/' ∉ (versionPattern distro).1 ∧
      '/' ∉ (versionPattern distro).2 := by
    cases distro <;> decide
  have hend : '/' ∉ '-' :: (arch.toText.toList ++ "-dvd.iso".toList) := by cases arch <;> decide
  rw [toList_isoName]
  simp only [List.mem_append, not_or]
  exact ⟨hstem.1, hstem.2.1, hnumber major, hstem.2.2, hnumber minor, hend⟩

/-- The file behind a URL has the name of the example. -/
theorem afterLastSlash_getDownloadURL {distro : OS.Distro} {version : VersionCombo}
    (hnamed : Named distro version) {url : String} (h : getDownloadURL distro version = .ok url) :
    afterLastSlash url = exampleIsoName distro version := by
  unfold Named at hnamed
  split at hnamed
  · rename_i hubuntu
    subst hubuntu hnamed
    obtain rfl := Except.ok.inj h
    decide
  · rename_i hubuntu
    obtain ⟨major, minor, arch⟩ := version
    obtain ⟨hmajor, -, hminor, -⟩ := hnamed
    obtain ⟨major, rfl⟩ := Int.eq_ofNat_of_zero_le hmajor
    obtain ⟨minor, rfl⟩ := Int.eq_ofNat_of_zero_le hminor
    have hint : ∀ n : Nat, toString (n : Int) = decimal n := fun _ => rfl
    obtain ⟨directory, hurl⟩ : ∃ directory, url =
        directory ++ "/" ++ exampleIsoName distro ((major : Int), (minor : Int), arch) := by
      unfold getDownloadURL at h
      dsimp only at h
      rw [hint, hint, if_neg hubuntu] at h
      unfold exampleIsoName
      dsimp only
      rw [hint, hint, if_neg hubuntu]
      cases distro with
      | Ubuntu => exact absurd rfl hubuntu
      | RHEL => cases h
      | OL =>
        obtain rfl := Except.ok.inj h
        have hslash : "/OracleLinux-R" = "/" ++ "OracleLinux-R" := by decide
        refine ⟨"https://yum.oracle.com/ISOS/OracleLinux/OL" ++ decimal major ++ "/u" ++
          decimal minor ++ "/" ++ arch.toText, ?_⟩
        rw [hslash]
        simp only [String.append_assoc]
      | Rocky =>
        obtain rfl := Except.ok.inj h
        have hslash : "/Rocky-" = "/" ++ "Rocky-" := by decide
        refine ⟨"https://download.rockylinux.org/pub/rocky/" ++ decimal major ++ "/isos/" ++
          arch.toText, ?_⟩
        rw [hslash]
        simp only [String.append_assoc]
      | AlmaLinux =>
        obtain rfl := Except.ok.inj h
        have hslash : "/AlmaLinux-" = "/" ++ "AlmaLinux-" := by decide
        refine ⟨"https://repo.almalinux.org/almalinux/" ++ decimal major ++ "." ++
          decimal minor ++ "/isos/" ++ arch.toText, ?_⟩
        rw [hslash]
        simp only [String.append_assoc]
    rw [hurl, exampleIsoName_eq hubuntu]
    exact afterLastSlash_join (slash_notMem_isoName major minor arch)

/-! ## What is made of a version -/

/-- The versions that the step can take from its form. -/
def Prompted (version : VersionCombo) : Prop := ∃ s s', Returns promptVersion s version s'

theorem stoi_bounds {text : String} {n : Int} (h : stoi text = .ok n) :
    -2 ^ 31 ≤ n ∧ n < 2 ^ 31 := by
  unfold stoi at h
  split at h
  · cases h
  · rename_i negative m _
    dsimp only at h
    generalize (if negative = true then -(m : Int) else m) = value at h
    split at h
    · cases h
    · rename_i hbounds
      obtain rfl := Except.ok.inj h
      omega

theorem parseVersionString_bounds {raw : String} {major minor : Int}
    (h : parseVersionString raw = some (major, minor)) : -2 ^ 31 ≤ minor ∧ minor < 2 ^ 31 := by
  unfold parseVersionString at h
  split at h
  · split at h
    · rename_i hminor
      obtain ⟨-, rfl⟩ := Prod.mk.inj (Option.some.inj h)
      exact stoi_bounds hminor
    · cases h
  · cases h

/-- The minor version that is typed is an `int`. -/
theorem Prompted.bounds {version : VersionCombo} (h : Prompted version) :
    -2 ^ 31 ≤ version.2.1 ∧ version.2.1 < 2 ^ 31 := by
  obtain ⟨s, s', hrun⟩ := h
  obtain ⟨-, fields, hfields⟩ := returns_askFor hrun
  unfold parseVersionForm at hfields
  obtain ⟨⟨major, minor⟩, hversion, harch⟩ := Option.bind_eq_some_iff.mp hfields
  obtain ⟨arch, -, hsome⟩ := Option.bind_eq_some_iff.mp harch
  obtain rfl := Option.some.inj hsome
  exact parseVersionString_bounds hversion

theorem prompted_of_form {fields : Vector String 2} {version : VersionCombo}
    (h : parseVersionForm fields = some version) : Prompted version := by
  have hfields : fieldsOf 2 (.fields fields.toList) = some fields := by
    simp [fieldsOf, Vector.ext_iff]
  refine ⟨⟨Cluster.fresh sampleHost, [.fields fields.toList]⟩, ⟨Cluster.fresh sampleHost, []⟩, ?_⟩
  change ask.go 2 (fun values model => (.ok (parseVersionForm values), model)) _ _ = _
  simp only [ask.go, hfields, h]

/-- The platforms of Enterprise Linux. -/
def elPlatform : Int → Option OS.Platform
  | 8 => some .el8
  | 9 => some .el9
  | 10 => some .el10
  | _ => none

theorem makeOperatingSystem_eq_ok {distro : OS.Distro} {major minor : Int} {arch : OS.Arch}
    {os : OS} :
    makeOperatingSystem distro (major, minor, arch) = .ok os ↔
      (∃ platform, elPlatform major = some platform ∧
        os = OS.ofPlatform distro platform (unsignedOfInt minor) arch) ∨
      (distro = .Ubuntu ∧ major = 24 ∧ minor = 4 ∧ os = OS.ofPlatform distro .ubuntu2404 0 arch) := by
  unfold makeOperatingSystem elPlatform
  dsimp only
  split
  case h_4 =>
    split
    · rename_i hubuntu
      simp [hubuntu, eq_comm]
    · rename_i hother
      simp only [runtimeError_ne_ok, reduceCtorEq, false_and, exists_false, false_or, true_and,
        false_iff]
      rintro ⟨hdistro, hminor, -⟩
      exact hother ⟨hdistro, hminor⟩
  case h_5 hmajor =>
    simp only [runtimeError_ne_ok, reduceCtorEq, false_and, exists_false, false_or, false_iff]
    rintro ⟨-, rfl, -⟩
    exact hmajor rfl
  all_goals simp [eq_comm]

theorem elPlatform_eq_some {major : Int} {platform : OS.Platform}
    (h : elPlatform major = some platform) :
    major = (platform.majorVersion : Int) ∧ platform ≠ .ubuntu2404 := by
  unfold elPlatform at h
  split at h
  case h_4 => cases h
  all_goals
    obtain rfl := Option.some.inj h
    decide

theorem parseVersionString_decimal (major minor : Nat) :
    parseVersionString (decimal major ++ "." ++ decimal minor) =
      if major < 2 ^ 31 ∧ minor < 2 ^ 31 then some ((major : Int), (minor : Int)) else none := by
  have hdot : '.' ∈ (decimal major ++ "." ++ decimal minor).toList := by simp
  have hmajor : '.' ∉ (decimal major).toList := OS.dot_notMem_decimal major
  rw [parseVersionString, if_pos hdot, beforeFirst_append rfl hmajor, afterFirst_append rfl hmajor,
    stoi_of_parseDigits (parseDigits_decimal major), stoi_of_parseDigits (parseDigits_decimal minor)]
  by_cases hmajor_lt : major < 2 ^ 31
  · by_cases hminor_lt : minor < 2 ^ 31
    · rw [if_pos hmajor_lt, if_pos hminor_lt, if_pos ⟨hmajor_lt, hminor_lt⟩]
    · have hlarge : ¬ (major < 2 ^ 31 ∧ minor < 2 ^ 31) := fun h => hminor_lt h.2
      rw [if_pos hmajor_lt, if_neg hminor_lt, if_neg hlarge]
  · have hlarge : ¬ (major < 2 ^ 31 ∧ minor < 2 ^ 31) := fun h => hmajor_lt h.1
    rw [if_neg hmajor_lt, if_neg hlarge]

/-- The version text of a system of Enterprise Linux gives the minor version as it was typed,
unless it was negative. -/
theorem parseVersionString_getVersion_iff {distro : OS.Distro} {platform : OS.Platform}
    {minor : Int} (hdistro : distro ≠ .Ubuntu) (hminor : -2 ^ 31 ≤ minor ∧ minor < 2 ^ 31)
    (arch : OS.Arch) :
    parseVersionString (OS.ofPlatform distro platform (unsignedOfInt minor) arch).getVersion =
      some ((platform.majorVersion : Int), minor) ↔ 0 ≤ minor := by
  have htext : (OS.ofPlatform distro platform (unsignedOfInt minor) arch).getVersion =
      decimal platform.majorVersion ++ "." ++ decimal (unsignedOfInt minor) := if_neg hdistro
  have hmajor : platform.majorVersion < 2 ^ 31 := by cases platform <;> decide
  rw [htext, parseVersionString_decimal]
  unfold unsignedOfInt
  by_cases hneg : 0 ≤ minor
  · rw [if_pos ⟨hmajor, by omega⟩]
    have hvalue : (((minor % 2 ^ 32).toNat : Nat) : Int) = minor := by omega
    rw [hvalue]
    exact ⟨fun _ => hneg, fun _ => rfl⟩
  · rw [if_neg (by omega)]
    exact ⟨fun h => (Option.some_ne_none _ h.symm).elim, fun h => absurd h hneg⟩

/-! ## Names and versions -/

/-- What is asked of the names and of the system of a version. -/
structure VersionsAgree (distro : OS.Distro) (version : VersionCombo) : Prop where
  example_name : Named distro version →
    inferVersionComboFromIso distro (exampleIsoName distro version) = .ok (some version)
  file_name : Named distro version → ∀ url, getDownloadURL distro version = .ok url →
    inferVersionComboFromIso distro (afterLastSlash url) = .ok (some version)
  /-- The platform is one of the distribution, and the text has the numbers of the version. -/
  made : Prompted version → ∀ os, makeOperatingSystem distro version = .ok os →
    (distro = .Ubuntu ↔ os.platform = .ubuntu2404) ∧
      parseVersionString os.getVersion = some (version.1, version.2.1)

/-- They agree if and only if no system of Enterprise Linux is made for Ubuntu or with a negative
minor version. -/
theorem versions_agree_iff (distro : OS.Distro) (version : VersionCombo) :
    VersionsAgree distro version ↔ (Prompted version → version.1 = 8 ∨ version.1 = 9 ∨
      version.1 = 10 → distro ≠ .Ubuntu ∧ 0 ≤ version.2.1) := by
  obtain ⟨major, minor, arch⟩ := version
  constructor
  · intro hagree hprompted hmajor
    obtain ⟨platform, hplatform⟩ : ∃ platform, elPlatform major = some platform := by
      rcases hmajor with rfl | rfl | rfl <;> exact ⟨_, rfl⟩
    obtain ⟨hnumber, hel⟩ := elPlatform_eq_some hplatform
    obtain ⟨hfamily, htext⟩ := hagree.made hprompted _
      (makeOperatingSystem_eq_ok.mpr (.inl ⟨platform, hplatform, rfl⟩))
    have hdistro : distro ≠ .Ubuntu := fun h => hel (hfamily.mp h)
    refine ⟨hdistro, ?_⟩
    dsimp only at htext
    rw [hnumber] at htext
    exact (parseVersionString_getVersion_iff hdistro hprompted.bounds arch).mp htext
  · intro hfits
    refine ⟨inferVersionComboFromIso_exampleIsoName, fun hnamed url hurl => ?_,
      fun hprompted os hos => ?_⟩
    · rw [afterLastSlash_getDownloadURL hnamed hurl]
      exact inferVersionComboFromIso_exampleIsoName hnamed
    · rcases makeOperatingSystem_eq_ok.mp hos with ⟨platform, hplatform, rfl⟩ |
        ⟨rfl, rfl, rfl, rfl⟩
      · obtain ⟨hnumber, hel⟩ := elPlatform_eq_some hplatform
        have hmajor : major = 8 ∨ major = 9 ∨ major = 10 := by
          cases platform with
          | ubuntu2404 => exact absurd rfl hel
          | el8 => exact .inl hnumber
          | el9 => exact .inr (.inl hnumber)
          | el10 => exact .inr (.inr hnumber)
        obtain ⟨hdistro, hminor⟩ := hfits hprompted hmajor
        refine ⟨⟨fun h => absurd h hdistro, fun h => absurd h hel⟩, ?_⟩
        dsimp only
        rw [hnumber]
        exact (parseVersionString_getVersion_iff hdistro hprompted.bounds arch).mpr hminor
      · exact ⟨⟨fun _ => rfl, fun _ => rfl⟩, by cases arch <;> decide⟩

/-- A system of Enterprise Linux that calls itself Ubuntu. -/
theorem ubuntu_version_nine : ¬ VersionsAgree .Ubuntu (9, 5, .x86_64) := by
  intro h
  have hform : parseVersionForm #v["9.5", "x86_64"] = some (9, 5, .x86_64) := by decide
  exact absurd ((h.made (prompted_of_form hform) _ rfl).1.mp rfl) (by decide)

end OpenCattus
