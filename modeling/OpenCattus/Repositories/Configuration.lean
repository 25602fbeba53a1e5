import OpenCattus.Repositories.DocaStream
import OpenCattus.AnswerFile.Types

/-!
# Repository configurations

The repositories that the installer knows are described in key files of its own, with
placeholders for versions and architectures. `RepoConfigParser` reads one group for each
repository and sorts the configurations by the `.repo` file that they belong to.

`parseGroup_eq_ok` says what a group must hold and what it is read as, and
`parse_configurations_iff` what becomes of a whole file.
-/

namespace OpenCattus

open Foundations Foundations.Text

/-! ## Configurations -/

structure RepoPaths where
  repo : String
  gpgkey : Option String := none
  deriving DecidableEq, Repr

structure RepoId where
  id : String
  name : String
  filename : String
  deriving DecidableEq, Repr

structure RepoConfig where
  repoId : RepoId
  mirror : RepoPaths
  upstream : RepoPaths
  deriving DecidableEq, Repr

/-- The values of the placeholders. -/
structure RepoConfigVars where
  arch : String
  beegfsVersion : String
  ohpcVersion : String
  osversion : String
  releasever : String
  xcatVersion : String
  zabbixVersion : String
  ofedVersion : String
  ofedRepoTarget : String
  cudaGPGKey : String
  rhelBaseMirrorGPGKey : String
  rhelCodeReadyMirrorRepo : String
  rhelCodeReadyMirrorGPGKey : String
  deriving DecidableEq, Repr

/-- The options of the command line that repositories depend on. -/
structure RepoOptions where
  enableMirrors : Bool
  mirrorBaseUrl : String
  beegfsVersion : String
  xcatVersion : String
  zabbixVersion : String
  deriving DecidableEq, Repr

/-- The configurations by file name, those of a file in the order of their insertion. -/
@[ext]
structure RepoConfFile where
  files : Std.ExtTreeMap String (List RepoConfig)

namespace RepoConfFile

def empty : RepoConfFile := ⟨∅⟩

def insert (file : RepoConfFile) (filename : String) (value : RepoConfig) : RepoConfFile :=
  ⟨file.files.alter filename fun configs => some (configs.getD [] ++ [value])⟩

/-- The configurations of a file; there are none for another name. -/
def configs (file : RepoConfFile) (filename : String) : List RepoConfig :=
  (file.files[filename]?).getD []

def filesnames (file : RepoConfFile) : List String := file.files.keys

theorem mem_filesnames {file : RepoConfFile} {filename : String} :
    filename ∈ file.filesnames ↔ ∃ configs, file.files[filename]? = some configs := by
  rw [filesnames, Std.ExtTreeMap.mem_keys, Std.ExtTreeMap.mem_iff_isSome_getElem?,
    Option.isSome_iff_exists]

theorem getElem?_insert (file : RepoConfFile) (filename : String) (value : RepoConfig)
    (filename' : String) :
    (file.insert filename value).files[filename']? =
      if filename = filename' then some (file.configs filename ++ [value])
      else file.files[filename']? := by
  rw [insert, Std.ExtTreeMap.getElem?_alter]
  by_cases h : filename = filename' <;> simp [h, configs]

end RepoConfFile

structure RepoConfFiles where
  distroRepos : RepoConfFile
  nonDistroRepos : RepoConfFile

/-! ## Values of the placeholders -/

namespace RepoManager

def defaultOpenHPCVersionFor (osinfo : OS) : String :=
  match osinfo.platform with
  | .el8 => "2"
  | .el9 => "3"
  | .el10 => "4"
  | .ubuntu2404 => "versatushpc-4"

def defaultZabbixVersionFor (requestedVersion : String) : String :=
  if requestedVersion = "" ∨ requestedVersion = "latest-lts" ∨ requestedVersion = "lts" then "7.0"
  else requestedVersion

def defaultCUDAGPGKeyFor (osinfo : OS) : String :=
  match osinfo.platform with
  | .el8 | .el9 => "D42D0685.pub"
  | .el10 => "CDF6BA43.pub"
  | .ubuntu2404 => ""

def defaultRHELCodeReadyMirrorRepoFor (osinfo : OS) : Result String :=
  if osinfo.distro = .Ubuntu then .ok ""
  else
    match osinfo.platform with
    | .el8 | .el9 =>
      .ok ("rhel/codeready-builder-for-rhel-" ++ decimal osinfo.majorVersion ++ "-" ++
        osinfo.arch.toText ++ "-rpms/")
    | .el10 =>
      .ok ("rocky/linux/" ++ decimal osinfo.majorVersion ++ "/CRB/" ++ osinfo.arch.toText ++ "/os/")
    | .ubuntu2404 =>
      runtimeError ("Unsupported RHEL CodeReady mirror baseline for EL" ++
        decimal osinfo.majorVersion)

/-- The two signing keys of the mirror for RHEL; `what` is in the message of the error. -/
def defaultRHELMirrorGPGKeyFor (what : String) (osinfo : OS) : Result String :=
  if osinfo.distro = .Ubuntu then .ok ""
  else
    match osinfo.platform with
    | .el8 | .el9 => .ok "rhel/RPM-GPG-KEY-redhat-release"
    | .el10 => .ok ""
    | .ubuntu2404 =>
      runtimeError ("Unsupported RHEL " ++ what ++ " mirror signing baseline for EL" ++
        decimal osinfo.majorVersion)

def defaultRHELBaseMirrorGPGKeyFor : OS → Result String := defaultRHELMirrorGPGKeyFor "BaseOS"

def defaultRHELCodeReadyMirrorGPGKeyFor : OS → Result String :=
  defaultRHELMirrorGPGKeyFor "CodeReady"

def buildRepoConfigVars (opts : RepoOptions) (osinfo : OS) (ofedVersion : String) :
    Result RepoConfigVars := do
  let resolvedOfedVersion := if ofedVersion = "" then "latest" else ofedVersion
  let ofedRepoTarget ← defaultDOCARepoTargetFor osinfo resolvedOfedVersion
  let rhelBaseMirrorGPGKey ← defaultRHELBaseMirrorGPGKeyFor osinfo
  let rhelCodeReadyMirrorRepo ← defaultRHELCodeReadyMirrorRepoFor osinfo
  let rhelCodeReadyMirrorGPGKey ← defaultRHELCodeReadyMirrorGPGKeyFor osinfo
  pure
    { arch := osinfo.arch.toText
      beegfsVersion := opts.beegfsVersion
      ohpcVersion := defaultOpenHPCVersionFor osinfo
      osversion := osinfo.getVersion
      releasever := decimal osinfo.majorVersion
      xcatVersion := opts.xcatVersion
      zabbixVersion := defaultZabbixVersionFor opts.zabbixVersion
      ofedVersion := resolvedOfedVersion
      ofedRepoTarget
      cudaGPGKey := defaultCUDAGPGKeyFor osinfo
      rhelBaseMirrorGPGKey
      rhelCodeReadyMirrorRepo
      rhelCodeReadyMirrorGPGKey }

end RepoManager

/-! ## Reading -/

namespace RepoConfigParser

/-- `fmt::format` of a text with the variables; the error is the text of a `format_error`. -/
abbrev Interpolation : Type := RepoConfigVars → String → Except String String

variable (interpolateVars : String → Except String String)

/-- The interpolation of a text; a `format_error` is reported with `message`. -/
def interpolated (message : String → String) (text : String) : Result String :=
  (interpolateVars text).mapError fun what => ⟨.runtimeError, message what⟩

/-- A key that must not be empty. -/
def requiredString (file : KeyFile) (repoGroup key : String) : Result String := do
  let value ← file.getString repoGroup key
  if value = "" then
    runtimeError ("Could not load " ++ key ++ " from repo '" ++ repoGroup ++ "'")
  else pure value

def failedToFormat (what repoGroup error : String) : String :=
  "Failed to format " ++ what ++ " for repo '" ++ repoGroup ++ "': " ++ error

/-- The key of a repository, which may be missing or become empty. -/
def optionalGpgkey (file : KeyFile) (repoGroup key : String) : Result (Option String) := do
  match ← file.getStringOpt repoGroup key with
  | none => pure none
  | some gpgkey => do
    let value ← interpolated interpolateVars (failedToFormat key repoGroup) gpgkey
    pure (if value = "" then none else some value)

def mirrorRepo (file : KeyFile) (repoGroup : String) : Result String := do
  match ← file.getStringOpt repoGroup "mirror.repo" with
  | none => pure ""
  | some repo =>
    interpolated interpolateVars
      (fun _ => "Could not interpolate mirror.repo from repo '" ++ repoGroup ++ "'") repo

/-- The body of the loop of `parse`. -/
def parseGroup (file : KeyFile) (repoGroup : String) : Result RepoConfig := do
  let id ← interpolated interpolateVars (failedToFormat "repository id" repoGroup) repoGroup
  let rawName ← requiredString file repoGroup "name"
  let name ← interpolated interpolateVars (failedToFormat "name" repoGroup) rawName
  let filename ← requiredString file repoGroup "filename"
  let repo ← mirrorRepo interpolateVars file repoGroup
  let gpgkey ← optionalGpgkey interpolateVars file repoGroup "mirror.gpgkey"
  let rawUpstream ← requiredString file repoGroup "upstream.repo"
  let upstreamRepo ←
    interpolated interpolateVars (failedToFormat "upstream.repo" repoGroup) rawUpstream
  let upstreamGpgkey ← optionalGpgkey interpolateVars file repoGroup "upstream.gpgkey"
  pure
    { repoId := ⟨id, name, filename⟩
      mirror := ⟨repo, gpgkey⟩
      upstream := ⟨upstreamRepo, upstreamGpgkey⟩ }

def insertConfig (output : RepoConfFile) (repo : RepoConfig) : RepoConfFile :=
  output.insert repo.repoId.filename repo

/-- The loop of `parse`, over the groups that are left. -/
def parseGroups (file : KeyFile) (groups : List String) (output : RepoConfFile) :
    Result RepoConfFile :=
  groups.foldlM (fun output repoGroup => do
    pure (insertConfig output (← parseGroup interpolateVars file repoGroup))) output

/-- `parse` of the file at `path`, which has the content `content`. -/
def parse (path : String) (content : Option KeyData) (output : RepoConfFile) :
    Result RepoConfFile :=
  match content with
  | none => runtimeError ("Repository configuration file is missing: " ++ path)
  | some data => parseGroups interpolateVars ⟨path, data⟩ data.getGroups output

/-- A directory with configurations. A file that was missing and could be written from the
embedded copy is there. -/
structure BasePath where
  path : String
  content : String → Option KeyData

/-- The file of the distribution; there is none for Ubuntu. -/
def distroReposName (osinfo : OS) (shouldUseVault : Bool) : Result String :=
  match osinfo.distro with
  | .RHEL => .ok "rhel.conf"
  | .OL => .ok "oracle.conf"
  | .AlmaLinux => .ok "alma.conf"
  | .Rocky => .ok (if shouldUseVault then "rocky-vault.conf" else "rocky-upstream.conf")
  | .Ubuntu => undefinedBehaviour "unreachable"

def load (basePath : BasePath) (osinfo : OS) (shouldUseVault : Bool) : Result RepoConfFiles := do
  let distroRepos ← distroReposName osinfo shouldUseVault
  let read (name : String) : Result RepoConfFile :=
    parse interpolateVars (basePath.path ++ name) (basePath.content name) .empty
  let nonDistroRepos ← read "repos.conf"
  let distroRepos ← read distroRepos
  pure { distroRepos, nonDistroRepos }

/-! ## What a group is read as -/

variable {interpolateVars} {file : KeyFile} {g : String}

theorem interpolated_eq_ok {message : String → String} {text value : String} :
    interpolated interpolateVars message text = .ok value ↔ interpolateVars text = .ok value := by
  unfold interpolated
  cases interpolateVars text <;> simp [Except.mapError]

theorem requiredString_eq_ok {key value : String} :
    requiredString file g key = .ok value ↔ file.data.lookup g key = some value ∧ value ≠ "" := by
  unfold requiredString KeyFile.getString
  cases file.data.lookup g key with
  | none => simp
  | some raw =>
    by_cases hempty : raw = ""
    · simp only [except_ok_bind, if_pos hempty, runtimeError_ne_ok, Option.some.injEq, false_iff]
      rintro ⟨rfl, hne⟩
      exact hne hempty
    · simp only [except_ok_bind, if_neg hempty, except_pure, Except.ok.injEq, Option.some.injEq]
      constructor
      · rintro rfl
        exact ⟨rfl, hempty⟩
      · exact And.left

theorem getStringOpt_of_hasGroup (hg : file.data.hasGroup g = true) (key : String) :
    file.getStringOpt g key = .ok (file.data.lookup g key) := by
  unfold KeyFile.getStringOpt KeyFile.hasGroup
  rw [if_pos hg]

/-- What an optional key is read as. -/
def GpgkeyOf (interpolateVars : String → Except String String) (raw gpgkey : Option String) :
    Prop :=
  match raw with
  | none => gpgkey = none
  | some text => ∃ value, interpolateVars text = .ok value ∧
      gpgkey = if value = "" then none else some value

theorem optionalGpgkey_eq_ok (hg : file.data.hasGroup g = true) {key : String}
    {gpgkey : Option String} :
    optionalGpgkey interpolateVars file g key = .ok gpgkey ↔
      GpgkeyOf interpolateVars (file.data.lookup g key) gpgkey := by
  unfold optionalGpgkey GpgkeyOf
  rw [getStringOpt_of_hasGroup hg, except_ok_bind]
  cases file.data.lookup g key with
  | none => simp [eq_comm]
  | some text =>
    dsimp only
    simp only [except_pure]
    rw [except_bind_ok_pure]
    simp only [interpolated_eq_ok]

theorem mirrorRepo_eq_ok (hg : file.data.hasGroup g = true) {repo : String} :
    mirrorRepo interpolateVars file g = .ok repo ↔
      (file.data.lookup g "mirror.repo").elim (.ok "") interpolateVars = .ok repo := by
  unfold mirrorRepo
  rw [getStringOpt_of_hasGroup hg, except_ok_bind]
  cases file.data.lookup g "mirror.repo" with
  | none => simp
  | some text => exact interpolated_eq_ok

/-- The group `g` describes the repository `config`. -/
structure Describes (interpolateVars : String → Except String String) (data : KeyData) (g : String)
    (config : RepoConfig) : Prop where
  id : interpolateVars g = .ok config.repoId.id
  name : ∃ raw, data.lookup g "name" = some raw ∧ raw ≠ "" ∧
    interpolateVars raw = .ok config.repoId.name
  filename : data.lookup g "filename" = some config.repoId.filename ∧ config.repoId.filename ≠ ""
  mirrorRepo : (data.lookup g "mirror.repo").elim (.ok "") interpolateVars = .ok config.mirror.repo
  mirrorGpgkey : GpgkeyOf interpolateVars (data.lookup g "mirror.gpgkey") config.mirror.gpgkey
  upstreamRepo : ∃ raw, data.lookup g "upstream.repo" = some raw ∧ raw ≠ "" ∧
    interpolateVars raw = .ok config.upstream.repo
  upstreamGpgkey : GpgkeyOf interpolateVars (data.lookup g "upstream.gpgkey") config.upstream.gpgkey

theorem parseGroup_eq_ok (hg : file.data.hasGroup g = true) {config : RepoConfig} :
    parseGroup interpolateVars file g = .ok config ↔
      Describes interpolateVars file.data g config := by
  unfold parseGroup
  simp only [except_bind_ok, interpolated_eq_ok, requiredString_eq_ok, optionalGpgkey_eq_ok hg,
    mirrorRepo_eq_ok hg, except_pure, Except.ok.injEq]
  constructor
  · rintro ⟨id, hid, rawName, ⟨hrawName, hnameNe⟩, name, hname, filename, hfilename, repo, hrepo,
      gpgkey, hgpgkey, rawUpstream, ⟨hrawUpstream, hupstreamNe⟩, upstreamRepo, hupstream,
      upstreamGpgkey, hupstreamGpgkey, rfl⟩
    exact ⟨hid, ⟨rawName, hrawName, hnameNe, hname⟩, hfilename, hrepo, hgpgkey,
      ⟨rawUpstream, hrawUpstream, hupstreamNe, hupstream⟩, hupstreamGpgkey⟩
  · rintro ⟨hid, ⟨rawName, hrawName, hnameNe, hname⟩, hfilename, hrepo, hgpgkey,
      ⟨rawUpstream, hrawUpstream, hupstreamNe, hupstream⟩, hupstreamGpgkey⟩
    exact ⟨_, hid, rawName, ⟨hrawName, hnameNe⟩, _, hname, _, hfilename, _, hrepo, _, hgpgkey,
      rawUpstream, ⟨hrawUpstream, hupstreamNe⟩, _, hupstream, _, hupstreamGpgkey, rfl⟩

/-! ## What a file is read as -/

/-- The configurations of a list, entered one after the other. -/
def insertConfigs (output : RepoConfFile) (configs : List RepoConfig) : RepoConfFile :=
  configs.foldl insertConfig output

/-- The configurations for a file, in their order. -/
def configsFor (configs : List RepoConfig) (filename : String) : List RepoConfig :=
  configs.filter (·.repoId.filename = filename)

theorem getElem?_insertConfigs (output : RepoConfFile) (configs : List RepoConfig)
    (filename : String) :
    (insertConfigs output configs).files[filename]? =
      if configsFor configs filename = [] then output.files[filename]?
      else some (output.configs filename ++ configsFor configs filename) := by
  unfold insertConfigs
  induction configs generalizing output with
  | nil => rfl
  | cons config configs ih =>
    have hhead := output.getElem?_insert config.repoId.filename config filename
    rw [List.foldl_cons, ih, RepoConfFile.configs, insertConfig, hhead]
    by_cases hname : config.repoId.filename = filename
    · have hcons : configsFor (config :: configs) filename =
          config :: configsFor configs filename :=
        List.filter_cons_of_pos (by simpa using hname)
      rw [hcons, hname]
      by_cases hrest : configsFor configs filename = [] <;> simp [hrest]
    · have hcons : configsFor (config :: configs) filename = configsFor configs filename :=
        List.filter_cons_of_neg (by simpa using hname)
      rw [hcons, if_neg hname]
      rfl

theorem parseGroups_eq_ok {groups : List String} {output out : RepoConfFile} :
    parseGroups interpolateVars file groups output = .ok out ↔
      ∃ configs, List.Forall₂ (fun g config => parseGroup interpolateVars file g = .ok config)
        groups configs ∧ out = insertConfigs output configs := by
  unfold parseGroups insertConfigs
  induction groups generalizing output with
  | nil =>
    rw [List.foldlM_nil, except_pure]
    constructor
    · intro h
      exact ⟨[], .nil, (Except.ok.inj h).symm⟩
    · rintro ⟨_, ⟨⟩, rfl⟩
      rfl
  | cons g groups ih =>
    rw [List.foldlM_cons, except_bind_ok]
    constructor
    · rintro ⟨next, hnext, hloop⟩
      obtain ⟨config, hconfig, rfl⟩ := except_bind_ok_pure.mp hnext
      obtain ⟨configs, hconfigs, rfl⟩ := ih.mp hloop
      exact ⟨config :: configs, .cons hconfig hconfigs, rfl⟩
    · rintro ⟨_, _ | ⟨hconfig, hconfigs⟩, rfl⟩
      exact ⟨_, except_bind_ok_pure.mpr ⟨_, hconfig, rfl⟩, ih.mpr ⟨_, hconfigs, rfl⟩⟩

/-- The loop stops at the first group that describes no repository. -/
theorem parseGroups_eq_error {groups : List String} {output : RepoConfFile} {e : Exception} :
    parseGroups interpolateVars file groups output = .error e ↔
      ∃ before g after, groups = before ++ g :: after ∧
        (∀ b ∈ before, ∃ config, parseGroup interpolateVars file b = .ok config) ∧
        parseGroup interpolateVars file g = .error e := by
  unfold parseGroups
  induction groups generalizing output with
  | nil => simp
  | cons g groups ih =>
    rw [List.foldlM_cons]
    cases hg : parseGroup interpolateVars file g with
    | error e' =>
      rw [except_error_bind, except_error_bind, Except.error.injEq]
      constructor
      · rintro rfl
        exact ⟨[], g, groups, rfl, by simp, hg⟩
      · rintro ⟨before, h, after, hsplit, hbefore, hh⟩
        cases before with
        | nil =>
          obtain ⟨rfl, rfl⟩ := List.cons.inj hsplit
          rw [hg] at hh
          exact Except.error.inj hh
        | cons b before =>
          obtain ⟨rfl, -⟩ := List.cons.inj hsplit
          obtain ⟨config, hconfig⟩ := hbefore g List.mem_cons_self
          rw [hg] at hconfig
          cases hconfig
    | ok config =>
      rw [except_ok_bind]
      refine ih.trans ?_
      constructor
      · rintro ⟨before, h, after, rfl, hbefore, hh⟩
        exact ⟨g :: before, h, after, rfl, List.forall_mem_cons.mpr ⟨⟨config, hg⟩, hbefore⟩, hh⟩
      · rintro ⟨before, h, after, hsplit, hbefore, hh⟩
        cases before with
        | nil =>
          obtain ⟨rfl, -⟩ := List.cons.inj hsplit
          rw [hg] at hh
          cases hh
        | cons b before =>
          obtain ⟨rfl, rfl⟩ := List.cons.inj hsplit
          exact ⟨before, h, after, rfl, (List.forall_mem_cons.mp hbefore).2, hh⟩

/-! ## Errors -/

theorem except_bind_error {ε α β : Type} {x : Except ε α} {f : α → Except ε β} {e : ε} :
    (x >>= f) = .error e ↔ x = .error e ∨ ∃ a, x = .ok a ∧ f a = .error e := by
  cases x <;> simp [bind, Except.bind]

/-- A runtime error whose text has `g` in it. -/
def Names (g : String) (e : Exception) : Prop :=
  e.kind = .runtimeError ∧ g.toList <:+: e.what.toList

theorem names_of_append (pre post : String) {g what : String} (h : what = pre ++ g ++ post) :
    Names g ⟨.runtimeError, what⟩ := by
  refine ⟨rfl, pre.toList, post.toList, ?_⟩
  rw [h, String.toList_append, String.toList_append]

theorem names_of_interpolated {message : String → String} {text : String} {e : Exception}
    (hmessage : ∀ what, Names g ⟨.runtimeError, message what⟩)
    (h : interpolated interpolateVars message text = .error e) : Names g e := by
  unfold interpolated at h
  cases htext : interpolateVars text with
  | ok value =>
    rw [htext] at h
    cases h
  | error what =>
    rw [htext] at h
    cases h
    exact hmessage what

theorem names_failedToFormat (what error : String) :
    Names g ⟨.runtimeError, failedToFormat what g error⟩ :=
  names_of_append ("Failed to format " ++ what ++ " for repo '") ("': " ++ error) <| by
    unfold failedToFormat
    rw [String.append_assoc, String.append_assoc]

theorem names_of_requiredString {key : String} {e : Exception}
    (h : requiredString file g key = .error e) : Names g e := by
  unfold requiredString KeyFile.getString at h
  cases hvalue : file.data.lookup g key with
  | none =>
    rw [hvalue] at h
    cases h
    refine names_of_append ("Keyfile Error, " ++ file.path ++ ": no such entry [") ("]." ++ key) ?_
    unfold KeyFile.noSuchEntry
    rw [String.append_assoc, String.append_assoc]
  | some value =>
    rw [hvalue, except_ok_bind] at h
    split at h
    · cases h
      exact names_of_append ("Could not load " ++ key ++ " from repo '") "'" rfl
    · cases h

theorem names_of_optionalGpgkey (hg : file.data.hasGroup g = true) {key : String} {e : Exception}
    (h : optionalGpgkey interpolateVars file g key = .error e) : Names g e := by
  unfold optionalGpgkey at h
  rw [getStringOpt_of_hasGroup hg, except_ok_bind] at h
  cases hvalue : file.data.lookup g key with
  | none =>
    rw [hvalue] at h
    cases h
  | some text =>
    rw [hvalue] at h
    dsimp only at h
    cases hinterpolated : interpolated interpolateVars (failedToFormat key g) text with
    | ok value =>
      rw [hinterpolated] at h
      cases h
    | error e' =>
      rw [hinterpolated] at h
      cases h
      exact names_of_interpolated (names_failedToFormat key) hinterpolated

theorem names_of_mirrorRepo (hg : file.data.hasGroup g = true) {e : Exception}
    (h : mirrorRepo interpolateVars file g = .error e) : Names g e := by
  unfold mirrorRepo at h
  rw [getStringOpt_of_hasGroup hg, except_ok_bind] at h
  cases hvalue : file.data.lookup g "mirror.repo" with
  | none =>
    rw [hvalue] at h
    cases h
  | some text =>
    rw [hvalue] at h
    exact names_of_interpolated
      (fun _ => names_of_append "Could not interpolate mirror.repo from repo '" "'" rfl) h

theorem names_of_parseGroup (hg : file.data.hasGroup g = true) {e : Exception}
    (h : parseGroup interpolateVars file g = .error e) : Names g e := by
  unfold parseGroup at h
  simp only [except_bind_error, except_pure, reduceCtorEq, and_false, exists_false, or_false] at h
  rcases h with h | ⟨_, -, h | ⟨_, -, h | ⟨_, -, h | ⟨_, -, h | ⟨_, -, h | ⟨_, -, h | ⟨_, -, h |
    ⟨_, -, h⟩⟩⟩⟩⟩⟩⟩⟩
  · exact names_of_interpolated (names_failedToFormat _) h
  · exact names_of_requiredString h
  · exact names_of_interpolated (names_failedToFormat _) h
  · exact names_of_requiredString h
  · exact names_of_mirrorRepo hg h
  · exact names_of_optionalGpgkey hg h
  · exact names_of_requiredString h
  · exact names_of_interpolated (names_failedToFormat _) h
  · exact names_of_optionalGpgkey hg h

/-- A file is read when each of its groups describes a repository. The configurations are then
entered behind those that were there, each under its own file name and in the order of the
groups; otherwise the error names the first group that describes none. -/
theorem parse_configurations_iff (interpolateVars : String → Except String String) (path : String)
    (data : KeyData) (output : RepoConfFile) :
    ((∃ out, parse interpolateVars path (some data) output = .ok out) ↔
        ∀ g ∈ data.getGroups, ∃ config, Describes interpolateVars data g config) ∧
      (∀ out, parse interpolateVars path (some data) output = .ok out →
        ∃ configs, List.Forall₂ (Describes interpolateVars data) data.getGroups configs ∧
          ∀ filename, out.files[filename]? =
            if configsFor configs filename = [] then output.files[filename]?
            else some (output.configs filename ++ configsFor configs filename)) ∧
      ∀ e, parse interpolateVars path (some data) output = .error e →
        ∃ before g after, data.getGroups = before ++ g :: after ∧
          (∀ b ∈ before, ∃ config, Describes interpolateVars data b config) ∧
          (¬ ∃ config, Describes interpolateVars data g config) ∧ Names g e := by
  have hgroup : ∀ g ∈ data.getGroups, ∀ config,
      parseGroup interpolateVars ⟨path, data⟩ g = .ok config ↔
        Describes interpolateVars data g config := by
    intro g hg config
    exact parseGroup_eq_ok (KeyData.hasGroup_iff_mem.mpr hg)
  have hforall : ∀ configs,
      List.Forall₂ (fun g config => parseGroup interpolateVars ⟨path, data⟩ g = .ok config)
          data.getGroups configs ↔
        List.Forall₂ (Describes interpolateVars data) data.getGroups configs := by
    intro configs
    rw [List.forall₂_iff_zip, List.forall₂_iff_zip]
    refine and_congr_right fun _ => ⟨fun h g config hmem => ?_, fun h g config hmem => ?_⟩
    · exact (hgroup g (List.of_mem_zip hmem).1 config).mp (h hmem)
    · exact (hgroup g (List.of_mem_zip hmem).1 config).mpr (h hmem)
  refine ⟨⟨?_, ?_⟩, ?_, ?_⟩
  · rintro ⟨out, hout⟩ g hg
    obtain ⟨configs, hconfigs, -⟩ := parseGroups_eq_ok.mp hout
    obtain ⟨n, hn, rfl⟩ := List.getElem_of_mem hg
    have hlength := hconfigs.length_eq ▸ hn
    exact ⟨_, (hgroup _ hg _).mp (hconfigs.get hn hlength)⟩
  · intro h
    cases hout : parse interpolateVars path (some data) output with
    | ok out => exact ⟨out, rfl⟩
    | error e =>
      obtain ⟨before, g, after, hsplit, -, herror⟩ := parseGroups_eq_error.mp hout
      have hg : g ∈ data.getGroups := by simp [hsplit]
      obtain ⟨config, hconfig⟩ := h g hg
      rw [(hgroup g hg config).mpr hconfig] at herror
      cases herror
  · intro out hout
    obtain ⟨configs, hconfigs, rfl⟩ := parseGroups_eq_ok.mp hout
    exact ⟨configs, (hforall configs).mp hconfigs, getElem?_insertConfigs output configs⟩
  · intro e he
    obtain ⟨before, g, after, hsplit, hbefore, herror⟩ := parseGroups_eq_error.mp he
    have hg : g ∈ data.getGroups := by simp [hsplit]
    refine ⟨before, g, after, hsplit, ?_, ?_, ?_⟩
    · intro b hb
      obtain ⟨config, hconfig⟩ := hbefore b hb
      exact ⟨config, (hgroup b (by simp [hsplit, hb]) config).mp hconfig⟩
    · rintro ⟨config, hconfig⟩
      rw [(hgroup g hg config).mpr hconfig] at herror
      cases herror
    · exact names_of_parseGroup (KeyData.hasGroup_iff_mem.mpr hg) herror

end RepoConfigParser

end OpenCattus
