import OpenCattus.Questionnaire.Settings

/-!
# The operating system of the nodes

The step that chooses an image: one in a directory, or one that is downloaded when the
questionnaire ends. The version is typed, with the numbers in the name of the image as a
suggestion.

`quiet_presenterNodesOperationalSystem` says which names of images and which versions make the
step throw.
-/

namespace OpenCattus

open Foundations Foundations.Text Foundations.Inet Program Dialog

/-! ## Versions and names -/

/-- The major and the minor version, and the architecture. -/
abbrev VersionCombo : Type := Int × Int × OS.Arch

def containsText (pattern text : String) : Bool := (findText pattern.toList text.toList).isSome

def parseVersionString (raw : String) : Option (Int × Int) :=
  if '.' ∈ raw.toList then
    match stoi (beforeFirst '.' raw), stoi (afterFirst '.' raw) with
    | .ok major, .ok minor => some (major, minor)
    | _, _ => none
  else none

def parseArchitecture (raw : String) : Option OS.Arch :=
  let normalized := lower raw
  if containsText "x86_64" normalized || containsText "amd64" normalized then some .x86_64
  else if containsText "ppc64le" normalized then some .ppc64le
  else none

/-- `static_cast<unsigned>`. -/
def unsignedOfInt (n : Int) : Nat := (n % 2 ^ 32).toNat

def makeOperatingSystem (distro : OS.Distro) (version : VersionCombo) : Result OS :=
  let (majorVersion, minorVersion, arch) := version
  let unsupported : Result OS := runtimeError
    ("Unsupported OS version " ++ toString majorVersion ++ "." ++ toString minorVersion)
  match majorVersion with
  | 8 => .ok (OS.ofPlatform distro .el8 (unsignedOfInt minorVersion) arch)
  | 9 => .ok (OS.ofPlatform distro .el9 (unsignedOfInt minorVersion) arch)
  | 10 => .ok (OS.ofPlatform distro .el10 (unsignedOfInt minorVersion) arch)
  | 24 =>
    if distro = .Ubuntu ∧ minorVersion = 4 then .ok (OS.ofPlatform distro .ubuntu2404 0 arch)
    else unsupported
  | _ => unsupported

/-- The digits on both sides of `sep`, when `cs` begins with `lead` and them. -/
def matchNumbers (lead sep cs : List Char) : Option (List Char × List Char) :=
  if lead.isPrefixOf cs then
    let numbers := cs.drop lead.length
    let rest := numbers.dropWhile Char.isDigit
    let second := (rest.drop sep.length).takeWhile Char.isDigit
    if numbers.takeWhile Char.isDigit ≠ [] ∧ sep.isPrefixOf rest ∧ second ≠ [] then
      some (numbers.takeWhile Char.isDigit, second)
    else none
  else none

/-- `std::regex_search`: the first place that matches. -/
def searchNumbers (lead sep : List Char) : List Char → Option (List Char × List Char)
  | [] => matchNumbers lead sep []
  | c :: cs => (matchNumbers lead sep (c :: cs)).or (searchNumbers lead sep cs)

/-- The two groups of the pattern of a distribution. -/
def versionPattern : OS.Distro → List Char × List Char
  | .OL => ("R".toList, "-U".toList)
  | .Ubuntu => ("ubuntu-".toList, ".".toList)
  | _ => ([], ".".toList)

/-- The numbers in the name of an image. A number that is too large is thrown. -/
def inferVersionComboFromIso (distro : OS.Distro) (isoName : String) :
    Result (Option VersionCombo) :=
  match parseArchitecture isoName with
  | none => .ok none
  | some arch =>
    let (lead, sep) := versionPattern distro
    match searchNumbers lead sep isoName.toList with
    | none => .ok none
    | some (major, minor) => do
      let majorVersion ← stoi (String.ofList major)
      let minorVersion ← stoi (String.ofList minor)
      .ok (some (majorVersion, minorVersion, arch))

def isoSearchToken : OS.Distro → String
  | .RHEL => "rhel"
  | .OL => "OracleLinux"
  | .Rocky => "Rocky"
  | .AlmaLinux => "AlmaLinux"
  | .Ubuntu => "ubuntu-"

def isoMatchesDistro (distro : OS.Distro) (isoName : String) : Bool :=
  containsText (isoSearchToken distro) isoName

def findMatchingIsos (probes : Probes) (isoRoot : String) (distro : OS.Distro) :
    Option (List String) :=
  (probes.regularFiles isoRoot).map fun files =>
    files.filter fun file => Cluster.extension file = ".iso" && isoMatchesDistro distro file

def getDownloadURL (distro : OS.Distro) (version : VersionCombo) : Result String :=
  let (majorVersion, minorVersion, architecture) := version
  let arch := if distro = .Ubuntu then "amd64" else architecture.toText
  let major := toString majorVersion
  let minor := toString minorVersion
  match distro with
  | .RHEL => runtimeError "We does not support RHEL ISO download yet!"
  | .OL =>
    .ok ("https://yum.oracle.com/ISOS/OracleLinux/OL" ++ major ++ "/u" ++ minor ++ "/" ++ arch ++
      "/OracleLinux-R" ++ major ++ "-U" ++ minor ++ "-" ++ arch ++ "-dvd.iso")
  | .Rocky =>
    .ok ("https://download.rockylinux.org/pub/rocky/" ++ major ++ "/isos/" ++ arch ++ "/Rocky-" ++
      major ++ "." ++ minor ++ "-" ++ arch ++ "-dvd.iso")
  | .AlmaLinux =>
    .ok ("https://repo.almalinux.org/almalinux/" ++ major ++ "." ++ minor ++ "/isos/" ++ arch ++
      "/AlmaLinux-" ++ major ++ "." ++ minor ++ "-" ++ arch ++ "-dvd.iso")
  | .Ubuntu =>
    if majorVersion ≠ 24 ∨ minorVersion ≠ 4 then
      runtimeError "Only Ubuntu 24.04 ISO download is supported"
    else .ok ("https://releases.ubuntu.com/24.04/ubuntu-24.04.4-live-server-" ++ arch ++ ".iso")

/-! ## The presenter -/

/-- The names of the menu, with their distributions. -/
def distros : List (String × OS.Distro) :=
  [("Red Hat Enterprise Linux", .RHEL), ("AlmaLinux", .AlmaLinux), ("Rocky Linux", .Rocky),
    ("Oracle Linux", .OL), ("Ubuntu", .Ubuntu)]

def selectDistro : Presenter OS.Distro := do
  let selectedDistroName ← listMenu (distros.map Prod.fst)
  lift (atKey selectedDistroName distros)

def parseVersionForm (fields : Vector String 2) : Option VersionCombo := do
  let (major, minor) ← parseVersionString (getElem fields 0 Nat.two_pos)
  let arch ← parseArchitecture (getElem fields 1 Nat.one_lt_two)
  some (major, minor, arch)

/-- The suggestion is only shown. -/
def promptVersion : Presenter VersionCombo := askFor 2 parseVersionForm

/-- The part of a text behind its last slash. -/
def afterLastSlash (path : String) : String :=
  String.ofList (path.toList.reverse.takeWhile (· ≠ '/')).reverse

/-- Where the image behind an address is downloaded to. -/
def plannedIsoPath (distroDownloadURL : String) : String :=
  "/root/" ++ afterLastSlash distroDownloadURL

/-- Plan a download, and whether one is planned. -/
def downloadSelectedDistro (host : Host) (distro : OS.Distro) : Presenter Bool := do
  if distro = .RHEL then pure false
  else do
    let version ← promptVersion
    let distroDownloadURL ← lift (getDownloadURL distro version)
    let model ← getModel
    let model ← lift (model.setPendingDiskImageDownload host (plannedIsoPath distroDownloadURL)
      distroDownloadURL)
    setModel fun _ => model
    let os ← lift (makeOperatingSystem distro version)
    setModel fun model => { model with computeNodeOS := some os }
    pure true

/-- A round of the form for the directory. One that is no directory is looked at again, to say why,
and `std::filesystem::exists` throws when it cannot be looked at. -/
def directoryRound (probes : Probes) (isoRoot : String) : Result (Option String) :=
  if probes.isDirectory isoRoot then .ok (some isoRoot)
  else
    match probes.host.pathStatus isoRoot with
    | .found | .missing => .ok none
    | .permissionDenied =>
      .error ⟨.systemError, "filesystem error: status: Permission denied [" ++ isoRoot ++ "]"⟩
    | .failed message =>
      .error ⟨.systemError, "filesystem error: status: " ++ message ++ " [" ++ isoRoot ++ "]"⟩

def promptDirectory (probes : Probes) : Presenter String :=
  ask 1 fun fields model => (directoryRound probes (getElem fields 0 Nat.one_pos), model)

/-- A directory that can be opened, and a distribution with its images there. -/
def promptImages (probes : Probes) : Presenter (String × OS.Distro × Option (List String)) := do
  let isoRoot ← promptDirectory probes
  let distro ← selectDistro
  pure (isoRoot, distro, findMatchingIsos probes isoRoot distro)

/-- The version that is typed becomes the one of the nodes. -/
def useVersion (distro : OS.Distro) : Presenter Unit := do
  let version ← promptVersion
  let os ← lift (makeOperatingSystem distro version)
  setModel fun model => { model with computeNodeOS := some os }

def useImage (probes : Probes) (isoRoot : String) (distro : OS.Distro) (isos : List String) :
    Presenter Unit := do
  let selectedIso ← listMenu isos
  let model ← getModel
  let model ← lift (model.setDiskImage probes.host (isoRoot ++ "/" ++ selectedIso))
  setModel fun _ => model
  let _ ← lift (inferVersionComboFromIso distro selectedIso)
  useVersion distro

/-- The loops end when a download is planned. -/
def planDownload (host : Host) (distro : OS.Distro) : Presenter (Option Unit) := do
  let planned ← downloadSelectedDistro host distro
  pure (if planned then some () else none)

/-- What is done with the images of a directory; without one a download is offered. -/
def useImages (probes : Probes) : String × OS.Distro × Option (List String) →
    Presenter (Option Unit)
  | (_, _, none) => pure none
  | (_, distro, some []) => do
    if ← yesNoQuestion then planDownload probes.host distro else pure none
  | (isoRoot, distro, some isos) => do
    useImage probes isoRoot distro isos
    pure (some ())

/-- One round of the loop over directories. -/
def selectImage (probes : Probes) : Presenter (Option Unit) := do
  let images ← promptImages probes
  useImages probes images

/-- One round of the loop over the distributions that are offered for a download. -/
def selectDownload (host : Host) : Presenter (Option Unit) := do
  let distro ← selectDistro
  planDownload host distro

def presenterNodesOperationalSystem (probes : Probes) : Presenter Unit := do
  if ← yesNoQuestion then retry (selectDownload probes.host) else retry (selectImage probes)

/-! ## Names of images -/

theorem takeWhile_reverse_append {directory file : List Char} (h : '/' ∉ file) :
    (directory ++ '/' :: file).reverse.takeWhile (· ≠ '/') = file.reverse := by
  have hfile : ∀ c ∈ file.reverse, decide (c ≠ '/') = true := by
    intro c hc
    have hne : c ≠ '/' := by
      rintro rfl
      exact h (List.mem_reverse.mp hc)
    simpa using hne
  rw [List.reverse_append, List.reverse_cons, List.append_assoc,
    List.takeWhile_append_of_pos hfile]
  simp

theorem not_mem_afterLastSlash (path : String) : '/' ∉ (afterLastSlash path).toList := by
  intro h
  rw [afterLastSlash, String.toList_ofList, List.mem_reverse] at h
  exact absurd (List.mem_takeWhile_imp h) (by decide)

/-- The extension is the one of the file name. -/
theorem extension_join {directory file : String} (h : '/' ∉ file.toList) :
    Cluster.extension (directory ++ "/" ++ file) = Cluster.extension file := by
  have hpath : (directory ++ "/" ++ file).toList = directory.toList ++ '/' :: file.toList := by
    simp
  have hfile : file.toList.reverse.takeWhile (· ≠ '/') = file.toList.reverse := by
    refine List.takeWhile_eq_self_iff.mpr fun c hc => ?_
    have hne : c ≠ '/' := by
      rintro rfl
      exact h (List.mem_reverse.mp hc)
    simpa using hne
  unfold Cluster.extension
  rw [hpath, takeWhile_reverse_append h, hfile]

theorem extension_afterLastSlash (path : String) :
    Cluster.extension (afterLastSlash path) = Cluster.extension path := by
  have hclean : ∀ c ∈ path.toList.reverse.takeWhile (· ≠ '/'), decide (c ≠ '/') = true :=
    fun c hc => by simpa using List.mem_takeWhile_imp hc
  unfold Cluster.extension afterLastSlash
  rw [String.toList_ofList, List.reverse_reverse, List.takeWhile_eq_self_iff.mpr hclean]

/-- A name that goes on before `.iso` has that extension. -/
theorem extension_iso {stem : String} {c : Char} (hc : c ≠ '/') :
    Cluster.extension (stem ++ String.singleton c ++ ".iso") = ".iso" := by
  have hname : (stem ++ String.singleton c ++ ".iso").toList.reverse.takeWhile (· ≠ '/') =
      'o' :: 's' :: 'i' :: '.' :: c :: stem.toList.reverse.takeWhile (· ≠ '/') := by
    simp [hc]
  have hdots : (stem ++ String.singleton c ++ ".iso").toList.reverse.takeWhile (· ≠ '/') ≠
      ['.', '.'] := by
    rw [hname]
    simp
  unfold Cluster.extension
  rw [if_neg, hname]
  · simp
  · rintro (h | h)
    · exact hdots (List.reverse_eq_iff.mp h)
    · rw [hname] at h
      simp at h

theorem extension_getDownloadURL {distro : OS.Distro} {version : VersionCombo} {url : String}
    (h : getDownloadURL distro version = .ok url) : Cluster.extension url = ".iso" := by
  have hdvd : ∀ stem : String, Cluster.extension (stem ++ "-dvd.iso") = ".iso" := by
    intro stem
    have htext : stem ++ "-dvd.iso" = stem ++ "-dv" ++ String.singleton 'd' ++ ".iso" := by
      rw [String.append_assoc, String.append_assoc]
      rfl
    rw [htext]
    exact extension_iso (by decide)
  unfold getDownloadURL at h
  dsimp only at h
  split at h
  · cases h
  · rw [← Except.ok.inj h]
    exact hdvd _
  · rw [← Except.ok.inj h]
    exact hdvd _
  · rw [← Except.ok.inj h]
    exact hdvd _
  · split at h
    · cases h
    · rw [← Except.ok.inj h, if_pos rfl]
      decide

/-! ## What the step throws -/

theorem quiet_selectDistro (s : Session Cluster) : Quiet selectDistro s := by
  refine quiet_bind.mpr ⟨quiet_listMenu _ _, fun name s' hmenu => ?_⟩
  exact quiet_lift.mpr (exists_atKey (returns_listMenu.mp hmenu).2)

/-- The version that is typed is one that is supported. -/
def VersionFits (distro : OS.Distro) (script : List Answer) : Prop :=
  ∀ version rest, typed 2 parseVersionForm script = some (version, rest) →
    ∃ os, makeOperatingSystem distro version = .ok os

/-- The version that is typed for a download is one that is supported and can be downloaded, and no
image is waited for that has a known checksum and is not there. -/
structure DownloadFits (host : Host) (distro : OS.Distro) (script : List Answer) : Prop where
  version : VersionFits distro script
  url : ∀ version rest, typed 2 parseVersionForm script = some (version, rest) →
    ∃ url, getDownloadURL distro version = .ok url ∧ host.VerifiesImage (plannedIsoPath url)

theorem quiet_downloadSelectedDistro {host : Host} {distro : OS.Distro} {s : Session Cluster}
    (h : distro ≠ .RHEL → DownloadFits host distro s.script) :
    Quiet (downloadSelectedDistro host distro) s := by
  unfold downloadSelectedDistro
  split
  · exact quiet_pure _ s
  · rename_i hdistro
    refine quiet_bind.mpr ⟨quiet_askFor _ _, fun version s₁ hversion => ?_⟩
    have htyped := typed_of_returns_askFor hversion
    obtain ⟨url, hurl, hverifies⟩ := (h hdistro).url version _ htyped
    refine quiet_bind.mpr ⟨quiet_lift.mpr ⟨url, hurl⟩, fun url' s₂ hlift => ?_⟩
    obtain rfl := Except.ok.inj (hurl.symm.trans (returns_lift.mp hlift).1)
    have hextension : Cluster.extension (plannedIsoPath url) = ".iso" := by
      have hjoin : plannedIsoPath url = "/root" ++ "/" ++ afterLastSlash url := rfl
      rw [hjoin, extension_join (not_mem_afterLastSlash url), extension_afterLastSlash,
        extension_getDownloadURL hurl]
    refine quiet_bind.mpr ⟨quiet_getModel _, fun model s₃ _ => ?_⟩
    refine quiet_bind.mpr ⟨quiet_lift.mpr ?_, fun _ _ _ => ?_⟩
    · exact ⟨_, except_bind_ok.mpr
        ⟨_, Cluster.setDiskImagePath_eq_ok.mpr ⟨hextension, hverifies, rfl⟩, rfl⟩⟩
    · refine quiet_bind.mpr ⟨quiet_setModel _ _, fun _ _ _ => ?_⟩
      refine quiet_bind.mpr ⟨quiet_lift.mpr ((h hdistro).version version _ htyped), fun _ _ _ => ?_⟩
      exact quiet_bind.mpr ⟨quiet_setModel _ _, fun _ _ _ => quiet_pure _ _⟩

theorem quiet_planDownload {host : Host} {distro : OS.Distro} {s : Session Cluster}
    (h : distro ≠ .RHEL → DownloadFits host distro s.script) : Quiet (planDownload host distro) s :=
  quiet_bind.mpr ⟨quiet_downloadSelectedDistro h, fun _ _ _ => quiet_pure _ _⟩

/-- Every directory that is typed can be looked at. -/
def DirectoryFits (probes : Probes) (s : Session Cluster) : Prop :=
  ∀ fields model, Entered
    (fun fields model => (directoryRound probes (getElem fields 0 Nat.one_pos), model))
    s.model s.script fields model →
      probes.isDirectory (getElem fields 0 Nat.one_pos) = true ∨
        probes.host.pathStatus (getElem fields 0 Nat.one_pos) = .found ∨
          probes.host.pathStatus (getElem fields 0 Nat.one_pos) = .missing

theorem quiet_promptDirectory {probes : Probes} {s : Session Cluster} (h : DirectoryFits probes s) :
    Quiet (promptDirectory probes) s := by
  refine quiet_ask fun fields model hentered => ?_
  unfold directoryRound
  dsimp only
  split
  · exact ⟨_, rfl⟩
  · rename_i hdirectory
    rcases h fields model hentered with h | h | h
    · exact absurd h hdirectory
    · rw [h]
      exact ⟨_, rfl⟩
    · rw [h]
      exact ⟨_, rfl⟩

/-- What one round is given does not make it throw. -/
structure ImageFits (probes : Probes) (s : Session Cluster) : Prop where
  directory : DirectoryFits probes s
  download : ∀ isoRoot distro s₁ s₂, Returns (promptImages probes) s (isoRoot, distro, some []) s₁ →
    Returns (yesNoQuestion : Presenter Bool) s₁ true s₂ → distro ≠ .RHEL →
      DownloadFits probes.host distro s₂.script
  image : ∀ isoRoot distro isos s₁ selectedIso s₂,
    Returns (promptImages probes) s (isoRoot, distro, some isos) s₁ →
      Returns (listMenu isos : Presenter String) s₁ selectedIso s₂ →
        probes.host.VerifiesImage (isoRoot ++ "/" ++ selectedIso) ∧
          (∃ combo, inferVersionComboFromIso distro selectedIso = .ok combo) ∧
            VersionFits distro s₂.script

theorem quiet_promptImages {probes : Probes} {s : Session Cluster} (h : DirectoryFits probes s) :
    Quiet (promptImages probes) s := by
  refine quiet_bind.mpr ⟨quiet_promptDirectory h, fun _ _ _ => ?_⟩
  exact quiet_bind.mpr ⟨quiet_selectDistro _, fun _ _ _ => quiet_pure _ _⟩

theorem returns_promptImages {probes : Probes} {isoRoot : String} {distro : OS.Distro}
    {isos : Option (List String)} {s s' : Session Cluster}
    (h : Returns (promptImages probes) s (isoRoot, distro, isos) s') :
    isos = findMatchingIsos probes isoRoot distro := by
  obtain ⟨isoRoot', s₁, -, h⟩ := returns_bind.mp h
  obtain ⟨distro', s₂, -, h⟩ := returns_bind.mp h
  cases h
  rfl

theorem quiet_useVersion {distro : OS.Distro} {s : Session Cluster}
    (h : VersionFits distro s.script) : Quiet (useVersion distro) s := by
  refine quiet_bind.mpr ⟨quiet_askFor _ _, fun version s₁ hversion => ?_⟩
  refine quiet_bind.mpr ⟨quiet_lift.mpr ?_, fun _ _ _ => quiet_setModel _ _⟩
  exact h version _ (typed_of_returns_askFor hversion)

/-- The images of a directory can be set, those with a known checksum if it can be taken. -/
theorem exists_setDiskImage {probes : Probes} {isoRoot : String} {distro : OS.Distro}
    {isos : List String} {selectedIso : String} (model : Cluster)
    (h : findMatchingIsos probes isoRoot distro = some isos) (hmem : selectedIso ∈ isos)
    (hverifies : probes.host.VerifiesImage (isoRoot ++ "/" ++ selectedIso)) :
    ∃ r, model.setDiskImage probes.host (isoRoot ++ "/" ++ selectedIso) = .ok r := by
  obtain ⟨files, hfiles, rfl⟩ := Option.map_eq_some_iff.mp h
  obtain ⟨hfile, hiso⟩ := List.mem_filter.mp hmem
  have hextension : Cluster.extension (isoRoot ++ "/" ++ selectedIso) = ".iso" := by
    rw [extension_join (probes.regularFiles_named isoRoot files hfiles selectedIso hfile)]
    simpa using (Bool.and_eq_true_iff.mp hiso).1
  have hfound := probes.regularFiles_found isoRoot files hfiles selectedIso hfile
  exact ⟨_, Cluster.setDiskImage_eq_ok.mpr ⟨⟨⟨hextension, .inl hfound⟩, hverifies⟩, rfl⟩⟩

theorem quiet_selectImage {probes : Probes} {s : Session Cluster} (h : ImageFits probes s) :
    Quiet (selectImage probes) s := by
  refine quiet_bind.mpr ⟨quiet_promptImages h.directory, ?_⟩
  rintro ⟨isoRoot, distro, isos⟩ s₁ himages
  cases isos with
  | none => exact quiet_pure _ s₁
  | some isos =>
    cases isos with
    | nil =>
      refine quiet_bind.mpr ⟨quiet_accept _ _, fun wanted s₂ hwanted => ?_⟩
      cases wanted with
      | false => exact quiet_pure _ s₂
      | true =>
        exact quiet_planDownload (h.download isoRoot distro s₁ s₂ himages hwanted)
    | cons iso isos =>
      refine quiet_bind.mpr ⟨?_, fun _ _ _ => quiet_pure _ _⟩
      refine quiet_bind.mpr ⟨quiet_listMenu _ _, fun selectedIso s₂ hselected => ?_⟩
      obtain ⟨hverifies, hinfer, hversion⟩ :=
        h.image isoRoot distro _ s₁ selectedIso s₂ himages hselected
      have hset := exists_setDiskImage s₂.model (returns_promptImages himages).symm
        (returns_listMenu.mp hselected).2 hverifies
      refine quiet_bind.mpr ⟨quiet_getModel _, fun model s₃ hmodel => ?_⟩
      obtain ⟨rfl, rfl⟩ := returns_getModel.mp hmodel
      refine quiet_bind.mpr ⟨quiet_lift.mpr hset, fun _ s₄ hlift => ?_⟩
      obtain ⟨-, rfl⟩ := returns_lift.mp hlift
      refine quiet_bind.mpr ⟨quiet_setModel _ _, fun _ s₅ hupdate => ?_⟩
      obtain rfl := returns_setModel.mp hupdate
      refine quiet_bind.mpr ⟨quiet_lift.mpr hinfer, fun _ s₆ hlift => ?_⟩
      obtain ⟨-, rfl⟩ := returns_lift.mp hlift
      exact quiet_useVersion hversion

/-- What the step is given does not make it throw: no version that is unknown, no image whose name
has a number that is too large or whose known checksum cannot be compared, and no directory that
cannot be looked at. -/
structure OSFits (probes : Probes) (s : Session Cluster) : Prop where
  download : ∀ s₁ s₂ distro s₃, Returns (yesNoQuestion : Presenter Bool) s true s₁ →
    Repeats (selectDownload probes.host) s₁ s₂ → Returns selectDistro s₂ distro s₃ →
      distro ≠ .RHEL → DownloadFits probes.host distro s₃.script
  image : ∀ s₁ s₂, Returns (yesNoQuestion : Presenter Bool) s false s₁ →
    Repeats (selectImage probes) s₁ s₂ → ImageFits probes s₂

theorem quiet_presenterNodesOperationalSystem {probes : Probes} {s : Session Cluster}
    (h : OSFits probes s) : Quiet (presenterNodesOperationalSystem probes) s := by
  refine quiet_bind.mpr ⟨quiet_accept _ _, fun wanted s₁ hwanted => ?_⟩
  cases wanted with
  | true =>
    refine quiet_retry fun s₂ hround => ?_
    refine quiet_bind.mpr ⟨quiet_selectDistro _, fun distro s₃ hdistro => ?_⟩
    exact quiet_planDownload (h.download s₁ s₂ distro s₃ hwanted hround hdistro)
  | false => exact quiet_retry fun s₂ hround => quiet_selectImage (h.image s₁ s₂ hwanted hround)

end OpenCattus
