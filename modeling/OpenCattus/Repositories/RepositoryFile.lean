import OpenCattus.AnswerFile.Types

/-!
# RPM repository files

A `.repo` file is a key file with one group for each repository. `RPMRepositoryParser`
reads all its groups; `unparse` merges the repositories of a map into what the file holds.

`parse_eq_ok` takes a successful reading apart. `lookup_unparse_of_mem` and
`lookup_unparse_of_not_mem` say what saving leaves under every key, and
`unparse_parse_iff` when reading the file back gives the saved repositories.
-/

namespace OpenCattus

open Foundations Foundations.Text

/-! ## Repositories -/

/-- `RPMRepository`. Both places that make one take the group for the id. -/
structure RPMRepository where
  id : String
  enabled : Bool := true
  name : String
  baseurl : Option String := none
  metalink : Option String := none
  gpgkey : Option String := none
  gpgcheck : Bool := true
  source : String
  group : String
  group_eq : group = id
  deriving DecidableEq

/-- A `std::map` from ids to repositories: no two have the same id. -/
@[ext]
structure RepoMap where
  repos : List RPMRepository
  nodup : (repos.map (·.id)).Nodup
  deriving DecidableEq

namespace RepoMap

def empty : RepoMap := ⟨[], by simp⟩

def ids (m : RepoMap) : List String := m.repos.map (·.id)

def find (m : RepoMap) (id : String) : Option RPMRepository := m.repos.find? (·.id = id)

/-- `std::map::emplace`: an id that is there already keeps its value. -/
def emplace (m : RepoMap) (repo : RPMRepository) : RepoMap :=
  if h : repo.id ∈ m.ids then m
  else
    { repos := m.repos ++ [repo]
      nodup := by
        rw [List.map_append, List.nodup_append]
        refine ⟨m.nodup, by simp, ?_⟩
        intro a ha b hb hab
        have hid : b = repo.id := by simpa using hb
        exact h (hid ▸ hab ▸ ha) }

theorem find_eq_some {m : RepoMap} {id : String} {repo : RPMRepository} :
    m.find id = some repo ↔ repo ∈ m.repos ∧ repo.id = id := by
  constructor
  · intro h
    exact ⟨List.mem_of_find?_eq_some h, by simpa using List.find?_some h⟩
  · rintro ⟨hmem, rfl⟩
    obtain ⟨found, hfound⟩ : ∃ found, m.find repo.id = some found := by
      rw [← Option.isSome_iff_exists, find, List.find?_isSome]
      exact ⟨repo, hmem, by simp⟩
    have hid : found.id = repo.id := by simpa using List.find?_some hfound
    have hsame : found = repo :=
      List.inj_on_of_nodup_map m.nodup (List.mem_of_find?_eq_some hfound) hmem hid
    rw [hfound, hsame]

theorem find_isSome {m : RepoMap} {id : String} : (m.find id).isSome = true ↔ id ∈ m.ids := by
  simp [find, ids, List.find?_isSome]

end RepoMap

/-! ## Reading -/

/-- `boost::algorithm::trim`. -/
def trim (s : String) : String :=
  String.ofList ((s.toList.dropWhile isSpace).reverse.dropWhile isSpace).reverse

/-- The spellings that `parseRepoBoolean` knows. -/
def repoBoolean (raw : String) : Option Bool :=
  let normalized := lower (trim raw)
  if normalized = "1" ∨ normalized = "true" ∨ normalized = "yes" then some true
  else if normalized = "0" ∨ normalized = "false" ∨ normalized = "no" then some false
  else none

def parseRepoBoolean (file : KeyFile) (group key : String) (defaultValue : Bool) :
    Result Bool := do
  match ← file.getStringOpt group key with
  | none => pure defaultValue
  | some raw =>
    match repoBoolean raw with
    | some value => pure value
    | none =>
      runtimeError ("Keyfile Error, invalid boolean [" ++ group ++ "]." ++ key ++ "=" ++
        lower (trim raw))

namespace RPMRepositoryParser

/-- The body of the loop of `parse`. -/
def parseGroup (file : KeyFile) (repogroup : String) : Result RPMRepository := do
  let name ← file.getString repogroup "name"
  if name = "" then
    runtimeError ("Could not load repo name from repo '" ++ repogroup ++ "'")
  else do
    let metalink ← file.getStringOpt repogroup "metalink"
    let baseurl ← file.getStringOpt repogroup "baseurl"
    let gpgkey ← file.getStringOpt repogroup "gpgkey"
    let enabled ← parseRepoBoolean file repogroup "enabled" true
    let gpgcheck ← parseRepoBoolean file repogroup "gpgcheck" gpgkey.isSome
    pure
      { id := repogroup, group := repogroup, group_eq := rfl, source := file.path
        name, metalink, baseurl, enabled, gpgcheck, gpgkey }

def parse (file : KeyFile) : Result RepoMap :=
  file.data.getGroups.foldlM
    (fun output repogroup => do pure (output.emplace (← parseGroup file repogroup))) RepoMap.empty

/-! ## Writing -/

/-- `g_key_file_is_group_name`: GLib ignores a write to a group with any other name. -/
def isGroupName (name : String) : Bool :=
  name ≠ "" && name.toList.all fun c =>
    c ≠ '[' && c ≠ ']' && 32 ≤ c.toNat && c.toNat ≠ 127

/-- `Glib::KeyFile::set_boolean`. -/
def booleanText (value : Bool) : String := if value then "true" else "false"

/-- The keys of a repository, in the order in which they are set. -/
def repoEntries (repo : RPMRepository) : List (String × Option String) :=
  [("name", some repo.name), ("enabled", some (booleanText repo.enabled)),
    ("gpgcheck", some (booleanText repo.gpgcheck)), ("gpgkey", repo.gpgkey),
    ("metalink", repo.metalink), ("baseurl", repo.baseurl)]

def setRepo (data : KeyData) (repo : RPMRepository) : KeyData :=
  if isGroupName repo.group then data.setAll repo.group (repoEntries repo) else data

/-- The content that `unparse` saves over a file with the content `data`. -/
def unparse (repos : RepoMap) (data : KeyData) : KeyData := repos.repos.foldl setRepo data

/-! ## What a reading returns -/

theorem parseRepoBoolean_eq_ok {file : KeyFile} {g key : String} {d b : Bool}
    (hg : file.data.hasGroup g = true) :
    parseRepoBoolean file g key d = .ok b ↔
      (file.data.lookup g key).elim (some d) repoBoolean = some b := by
  unfold parseRepoBoolean KeyFile.getStringOpt KeyFile.hasGroup
  rw [if_pos hg, except_ok_bind]
  cases file.data.lookup g key with
  | none => simp
  | some raw =>
    simp only [Option.elim_some]
    cases repoBoolean raw <;> simp

theorem parseGroup_eq_ok {file : KeyFile} {g : String} {repo : RPMRepository} :
    parseGroup file g = .ok repo ↔
      repo.id = g ∧ repo.source = file.path ∧
        file.data.lookup g "name" = some repo.name ∧ repo.name ≠ "" ∧
        repo.metalink = file.data.lookup g "metalink" ∧
        repo.baseurl = file.data.lookup g "baseurl" ∧
        repo.gpgkey = file.data.lookup g "gpgkey" ∧
        (file.data.lookup g "enabled").elim (some true) repoBoolean = some repo.enabled ∧
        (file.data.lookup g "gpgcheck").elim (some repo.gpgkey.isSome) repoBoolean =
          some repo.gpgcheck := by
  unfold parseGroup KeyFile.getString
  cases hname : file.data.lookup g "name" with
  | none => simp
  | some name =>
    have hg : file.data.hasGroup g = true := by
      by_contra hmissing
      rw [KeyData.lookup_eq_none (by simpa using hmissing)] at hname
      cases hname
    have hopt : ∀ key, file.getStringOpt g key = .ok (file.data.lookup g key) := by
      intro key
      unfold KeyFile.getStringOpt KeyFile.hasGroup
      rw [if_pos hg]
    by_cases hempty : name = ""
    · simp only [except_ok_bind, if_pos hempty, runtimeError_ne_ok, false_iff]
      rintro ⟨-, -, hrepo, hne, -⟩
      exact hne (by rw [← Option.some.inj hrepo, hempty])
    · simp only [except_ok_bind, if_neg hempty, hopt, except_bind_ok, except_pure,
        Except.ok.injEq, parseRepoBoolean_eq_ok hg]
      constructor
      · rintro ⟨enabled, henabled, gpgcheck, hgpgcheck, rfl⟩
        exact ⟨rfl, rfl, rfl, hempty, rfl, rfl, rfl, henabled, hgpgcheck⟩
      · obtain ⟨id, enabled, name', baseurl, metalink, gpgkey, gpgcheck, source, group, hgroup⟩ :=
          repo
        dsimp only
        rintro ⟨hid, rfl, hrepo, -, rfl, rfl, rfl, henabled, hgpgcheck⟩
        subst hid hgroup
        obtain rfl := Option.some.inj hrepo
        exact ⟨enabled, henabled, gpgcheck, hgpgcheck, rfl⟩

theorem id_of_parseGroup {file : KeyFile} {g : String} {repo : RPMRepository}
    (h : parseGroup file g = .ok repo) : repo.id = g := (parseGroup_eq_ok.mp h).1

theorem hasGroup_of_parseGroup {file : KeyFile} {g : String} {repo : RPMRepository}
    (h : parseGroup file g = .ok repo) : file.data.hasGroup g = true := by
  by_contra hmissing
  obtain ⟨-, -, hname, -⟩ := parseGroup_eq_ok.mp h
  rw [KeyData.lookup_eq_none (by simpa using hmissing)] at hname
  cases hname

theorem parse_loop {file : KeyFile} {groups : List String} {acc out : RepoMap}
    (hnodup : (acc.ids ++ groups).Nodup) :
    groups.foldlM
        (fun output repogroup => do pure (output.emplace (← parseGroup file repogroup))) acc =
      .ok out ↔
      ∃ repos : List RPMRepository, out.repos = acc.repos ++ repos ∧ repos.map (·.id) = groups ∧
        ∀ repo ∈ repos, parseGroup file repo.id = .ok repo := by
  induction groups generalizing acc with
  | nil =>
    rw [List.foldlM_nil, except_pure]
    constructor
    · intro h
      cases h
      exact ⟨[], by simp⟩
    · rintro ⟨repos, hout, hids, -⟩
      rw [List.map_eq_nil_iff.mp hids, List.append_nil] at hout
      rw [RepoMap.ext hout]
  | cons g groups ih =>
    -- The id of the parsed group is new, so `emplace` appends it.
    have hnew : ∀ repo, repo.id = g →
        (acc.emplace repo).repos = acc.repos ++ [repo] ∧
          ((acc.emplace repo).ids ++ groups).Nodup := by
      intro repo hid
      have hnot : repo.id ∉ acc.ids := by
        rw [hid]
        intro hmem
        exact List.disjoint_of_nodup_append hnodup hmem (List.mem_cons_self ..)
      have hrepos : (acc.emplace repo).repos = acc.repos ++ [repo] := by
        rw [RepoMap.emplace, dif_neg hnot]
      refine ⟨hrepos, ?_⟩
      have hids : (acc.emplace repo).ids = acc.ids ++ [g] := by
        rw [RepoMap.ids, hrepos, List.map_append, List.map_singleton, hid]
        rfl
      rw [hids, List.append_assoc]
      exact hnodup
    rw [List.foldlM_cons, except_bind_ok]
    constructor
    · rintro ⟨next, hnext, hloop⟩
      obtain ⟨repo, hrepo, rfl⟩ := except_bind_ok_pure.mp hnext
      have hid := id_of_parseGroup hrepo
      obtain ⟨happend, hnodup'⟩ := hnew repo hid
      obtain ⟨repos, hout, hids, hparsed⟩ := (ih hnodup').mp hloop
      refine ⟨repo :: repos, ?_, by rw [List.map_cons, hid, hids], ?_⟩
      · rw [hout, happend, List.append_assoc]
        rfl
      · exact List.forall_mem_cons.mpr ⟨by rw [hid]; exact hrepo, hparsed⟩
    · rintro ⟨repos, hout, hids, hparsed⟩
      obtain ⟨repo, repos, rfl, hid, hids⟩ := List.map_eq_cons_iff.mp hids
      obtain ⟨hrepo, hparsed⟩ := List.forall_mem_cons.mp hparsed
      obtain ⟨happend, hnodup'⟩ := hnew repo hid
      rw [hid] at hrepo
      refine ⟨acc.emplace repo, except_bind_ok_pure.mpr ⟨repo, hrepo, rfl⟩, ?_⟩
      refine (ih hnodup').mpr ⟨repos, ?_, hids, hparsed⟩
      rw [hout, happend, List.append_assoc]
      rfl

/-- A file is read into one repository for each group. -/
theorem parse_eq_ok {file : KeyFile} {out : RepoMap} :
    parse file = .ok out ↔
      out.ids = file.data.getGroups ∧
        ∀ repo ∈ out.repos, parseGroup file repo.id = .ok repo := by
  unfold parse
  rw [parse_loop (by simpa [RepoMap.ids, RepoMap.empty, KeyData.getGroups] using file.data.nodup)]
  constructor
  · rintro ⟨repos, hout, hids, hparsed⟩
    have hrepos : out.repos = repos := hout
    rw [RepoMap.ids, hrepos]
    exact ⟨hids, hparsed⟩
  · rintro ⟨hids, hparsed⟩
    exact ⟨out.repos, rfl, hids, hparsed⟩

theorem find_of_parse {file : KeyFile} {out : RepoMap} (h : parse file = .ok out) {g : String}
    {repo : RPMRepository} : out.find g = some repo ↔ parseGroup file g = .ok repo := by
  obtain ⟨hids, hparsed⟩ := parse_eq_ok.mp h
  rw [RepoMap.find_eq_some]
  constructor
  · rintro ⟨hmem, rfl⟩
    exact hparsed repo hmem
  · intro hrepo
    have hmem : g ∈ out.ids := by
      rw [hids]
      exact KeyData.hasGroup_iff_mem.mp (hasGroup_of_parseGroup hrepo)
    obtain ⟨found, hfound, rfl⟩ := List.mem_map.mp hmem
    have hsame := (hparsed found hfound).symm.trans hrepo
    cases hsame
    exact ⟨hfound, rfl⟩

theorem exists_parse_iff {file : KeyFile} :
    (∃ out, parse file = .ok out) ↔
      ∀ g ∈ file.data.getGroups, ∃ repo, parseGroup file g = .ok repo := by
  constructor
  · rintro ⟨out, hout⟩ g hg
    obtain ⟨hids, hparsed⟩ := parse_eq_ok.mp hout
    rw [← hids] at hg
    obtain ⟨repo, hrepo, rfl⟩ := List.mem_map.mp hg
    exact ⟨repo, hparsed repo hrepo⟩
  · intro h
    have hall : ∀ groups : List String, (∀ g ∈ groups, ∃ repo, parseGroup file g = .ok repo) →
        ∃ repos : List RPMRepository, repos.map (·.id) = groups ∧
          ∀ repo ∈ repos, parseGroup file repo.id = .ok repo := by
      intro groups
      induction groups with
      | nil => exact fun _ => ⟨[], by simp⟩
      | cons g groups ih =>
        intro hgroups
        obtain ⟨hg, hrest⟩ := List.forall_mem_cons.mp hgroups
        obtain ⟨repo, hrepo⟩ := hg
        obtain ⟨repos, hids, hparsed⟩ := ih hrest
        have hid := id_of_parseGroup hrepo
        refine ⟨repo :: repos, by rw [List.map_cons, hid, hids], ?_⟩
        exact List.forall_mem_cons.mpr ⟨by rw [hid]; exact hrepo, hparsed⟩
    obtain ⟨repos, hids, hparsed⟩ := hall _ h
    have hnodup : (repos.map (·.id)).Nodup := by
      rw [hids]
      exact file.data.nodup
    exact ⟨⟨repos, hnodup⟩, parse_eq_ok.mpr ⟨hids, hparsed⟩⟩

/-! ## What a save leaves -/

/-- The block of assignments for a repository. -/
def repoBlock (repo : RPMRepository) : KeyData.Block :=
  (repo.id, if isGroupName repo.id then repoEntries repo else [])

theorem unparse_eq_setBlocks (repos : RepoMap) (data : KeyData) :
    unparse repos data = data.setBlocks (repos.repos.map repoBlock) := by
  unfold unparse
  generalize repos.repos = list
  induction list generalizing data with
  | nil => rfl
  | cons repo list ih =>
    rw [List.foldl_cons, List.map_cons, KeyData.setBlocks, ih]
    congr 1
    unfold setRepo repoBlock
    rw [repo.group_eq]
    by_cases h : isGroupName repo.id = true <;> simp [h, KeyData.setAll]

theorem map_fst_repoBlock (repos : RepoMap) :
    (repos.repos.map repoBlock).map Prod.fst = repos.ids := by
  rw [List.map_map]
  rfl

theorem lookup_unparse_of_mem {repos : RepoMap} {data : KeyData} {repo : RPMRepository}
    (hrepo : repo ∈ repos.repos) (hname : isGroupName repo.id = true) (key : String) :
    (unparse repos data).lookup repo.id key =
      (KeyData.assigned (repoEntries repo) key).or (data.lookup repo.id key) := by
  have hnodup : ((repos.repos.map repoBlock).map Prod.fst).Nodup := by
    rw [map_fst_repoBlock]
    exact repos.nodup
  have hentries : (repoBlock repo).2 = repoEntries repo := if_pos hname
  rw [unparse_eq_setBlocks, ← hentries]
  exact KeyData.lookup_setBlocks_of_mem hnodup (List.mem_map_of_mem hrepo) key

theorem lookup_unparse_of_not_mem {repos : RepoMap} {data : KeyData} {g : String}
    (hg : g ∉ repos.ids) (key : String) :
    (unparse repos data).lookup g key = data.lookup g key := by
  rw [unparse_eq_setBlocks]
  apply KeyData.lookup_setBlocks_of_not_mem
  rwa [map_fst_repoBlock]

theorem hasGroup_unparse {repos : RepoMap} {data : KeyData} {g : String} :
    (unparse repos data).hasGroup g = true ↔
      (g ∈ repos.ids ∧ isGroupName g = true) ∨ data.hasGroup g = true := by
  rw [unparse_eq_setBlocks, KeyData.hasGroup_setBlocks]
  have hblocks : (∃ b ∈ repos.repos.map repoBlock, b.1 = g ∧ KeyData.assigns b.2 = true) ↔
      g ∈ repos.ids ∧ isGroupName g = true := by
    constructor
    · rintro ⟨b, hb, rfl, hassigns⟩
      obtain ⟨repo, hrepo, rfl⟩ := List.mem_map.mp hb
      refine ⟨List.mem_map_of_mem hrepo, ?_⟩
      by_contra hname
      have hnone : (repoBlock repo).2 = [] := if_neg hname
      rw [hnone] at hassigns
      cases hassigns
    · rintro ⟨hg, hname⟩
      obtain ⟨repo, hrepo, rfl⟩ := List.mem_map.mp hg
      refine ⟨repoBlock repo, List.mem_map_of_mem hrepo, rfl, ?_⟩
      simp [repoBlock, hname, KeyData.assigns, repoEntries]
  rw [hblocks]

/-- The keys that a save writes. -/
def repoKeys : List String := ["name", "enabled", "gpgcheck", "gpgkey", "metalink", "baseurl"]

theorem lookup_unparse_of_key {repos : RepoMap} {data : KeyData} {key : String}
    (hkey : key ∉ repoKeys) (g : String) :
    (unparse repos data).lookup g key = data.lookup g key := by
  by_cases hg : g ∈ repos.ids
  · obtain ⟨repo, hrepo, rfl⟩ := List.mem_map.mp hg
    have hnodup : ((repos.repos.map repoBlock).map Prod.fst).Nodup := by
      rw [map_fst_repoBlock]
      exact repos.nodup
    have hblock : (unparse repos data).lookup repo.id key =
        (KeyData.assigned (repoBlock repo).2 key).or (data.lookup repo.id key) := by
      rw [unparse_eq_setBlocks]
      exact KeyData.lookup_setBlocks_of_mem hnodup (List.mem_map_of_mem hrepo) key
    have hnone : KeyData.assigned (repoBlock repo).2 key = none := by
      simp only [repoKeys, List.mem_cons, List.not_mem_nil, or_false, not_or] at hkey
      obtain ⟨h₁, h₂, h₃, h₄, h₅, h₆⟩ := hkey
      unfold repoBlock
      split <;> simp [repoEntries, KeyData.assigned, Ne.symm h₁, Ne.symm h₂, Ne.symm h₃,
        Ne.symm h₄, Ne.symm h₅, Ne.symm h₆]
    rw [hblock, hnone, Option.none_or]
  · exact lookup_unparse_of_not_mem hg key

theorem getGroups_unparse {repos : RepoMap} {data : KeyData}
    (h : ∀ id ∈ repos.ids, data.hasGroup id = true) :
    (unparse repos data).getGroups = data.getGroups := by
  unfold unparse RepoMap.ids at *
  generalize repos.repos = list at h
  induction list generalizing data with
  | nil => rfl
  | cons repo list ih =>
    have hrepo : data.hasGroup repo.id = true := h repo.id (by simp)
    have hset : (setRepo data repo).getGroups = data.getGroups := by
      unfold setRepo
      rw [repo.group_eq]
      split
      · rw [KeyData.getGroups_setAll, hrepo]
        simp
      · rfl
    rw [List.foldl_cons, ih, hset]
    intro id hid
    rw [KeyData.hasGroup_iff_mem, hset, ← KeyData.hasGroup_iff_mem]
    exact h id (by simp [hid])

/-- An optional key that is not written keeps its old value. -/
theorem eq_or_self_iff {value old : Option String} :
    value = value.or old ↔ (value = none → old = none) := by
  cases value with
  | none => simp [eq_comm]
  | some v => simp

theorem repoBoolean_booleanText (b : Bool) : repoBoolean (booleanText b) = some b := by
  cases b <;> decide

/-- What the old content of a group and a saved repository must agree on. -/
def Overwrites (data : KeyData) (repo : RPMRepository) : Prop :=
  (repo.gpgkey = none → data.lookup repo.id "gpgkey" = none) ∧
    (repo.metalink = none → data.lookup repo.id "metalink" = none) ∧
    (repo.baseurl = none → data.lookup repo.id "baseurl" = none)

theorem parseGroup_unparse_iff {repos : RepoMap} {data : KeyData} {path : String}
    {repo : RPMRepository} (hrepo : repo ∈ repos.repos) (hname : isGroupName repo.id = true) :
    parseGroup ⟨path, unparse repos data⟩ repo.id = .ok { repo with source := path } ↔
      repo.name ≠ "" ∧ Overwrites data repo := by
  have hlookup : ∀ key, (unparse repos data).lookup repo.id key =
      (KeyData.assigned (repoEntries repo) key).or (data.lookup repo.id key) :=
    lookup_unparse_of_mem hrepo hname
  have hkeys :
      KeyData.assigned (repoEntries repo) "name" = some repo.name ∧
        KeyData.assigned (repoEntries repo) "enabled" = some (booleanText repo.enabled) ∧
        KeyData.assigned (repoEntries repo) "gpgcheck" = some (booleanText repo.gpgcheck) ∧
        KeyData.assigned (repoEntries repo) "gpgkey" = repo.gpgkey ∧
        KeyData.assigned (repoEntries repo) "metalink" = repo.metalink ∧
        KeyData.assigned (repoEntries repo) "baseurl" = repo.baseurl := by
    simp [repoEntries, KeyData.assigned]
  obtain ⟨hn, he, hc, hk, hm, hb⟩ := hkeys
  rw [parseGroup_eq_ok]
  simp only [hlookup, hn, he, hc, hk, hm, hb, Option.some_or, Option.elim_some,
    repoBoolean_booleanText, eq_or_self_iff, Overwrites, true_and, and_true, ne_eq]
  constructor
  · rintro ⟨hne, hmetalink, hbaseurl, hgpgkey⟩
    exact ⟨hne, hgpgkey, hmetalink, hbaseurl⟩
  · rintro ⟨hne, hgpgkey, hmetalink, hbaseurl⟩
    exact ⟨hne, hmetalink, hbaseurl, hgpgkey⟩

/-- A group that `parse` accepts. -/
def ReadableGroup (data : KeyData) (g : String) : Prop :=
  (∃ name, data.lookup g "name" = some name ∧ name ≠ "") ∧
    ∀ key ∈ ["enabled", "gpgcheck"], ∀ raw, data.lookup g key = some raw →
      (repoBoolean raw).isSome = true

theorem exists_elim_repoBoolean {value : Option String} {d : Bool} :
    (∃ b, value.elim (some d) repoBoolean = some b) ↔
      ∀ raw, value = some raw → (repoBoolean raw).isSome = true := by
  cases value with
  | none => simp
  | some raw => simp [Option.isSome_iff_exists]

theorem exists_parseGroup_iff {path : String} {data : KeyData} {g : String} :
    (∃ repo, parseGroup ⟨path, data⟩ g = .ok repo) ↔ ReadableGroup data g := by
  have hflags : ∀ (key : String) (d : Bool),
      (∃ b, (data.lookup g key).elim (some d) repoBoolean = some b) ↔
        ∀ raw, data.lookup g key = some raw → (repoBoolean raw).isSome = true :=
    fun _ _ => exists_elim_repoBoolean
  unfold ReadableGroup
  simp only [List.forall_mem_cons, and_true, List.not_mem_nil,
    false_imp_iff, implies_true]
  constructor
  · rintro ⟨repo, hrepo⟩
    obtain ⟨-, -, hname, hne, -, -, -, henabled, hgpgcheck⟩ := parseGroup_eq_ok.mp hrepo
    exact ⟨⟨repo.name, hname, hne⟩, (hflags _ _).mp ⟨_, henabled⟩, (hflags _ _).mp ⟨_, hgpgcheck⟩⟩
  · rintro ⟨⟨name, hname, hne⟩, henabled, hgpgcheck⟩
    obtain ⟨enabled, henabled⟩ := (hflags _ true).mpr henabled
    obtain ⟨gpgcheck, hgpgcheck⟩ := (hflags _ (data.lookup g "gpgkey").isSome).mpr hgpgcheck
    exact ⟨⟨g, enabled, name, data.lookup g "baseurl", data.lookup g "metalink",
      data.lookup g "gpgkey", gpgcheck, path, g, rfl⟩,
      parseGroup_eq_ok.mpr ⟨rfl, rfl, hname, hne, rfl, rfl, rfl, henabled, hgpgcheck⟩⟩

theorem readableGroup_unparse {repos : RepoMap} {data : KeyData} {g : String}
    (hg : g ∉ repos.ids) : ReadableGroup (unparse repos data) g ↔ ReadableGroup data g := by
  unfold ReadableGroup
  simp only [lookup_unparse_of_not_mem hg]

/-! ## Saving and reading back -/

/-- A content that GLib can have loaded: it refuses a file with any other group name. -/
def Loadable (data : KeyData) : Prop := ∀ g ∈ data.getGroups, isGroupName g = true

/-- Saving `repos` over `data` and reading the file at `path` again gives every saved
repository back, and the other groups of the file are as they were. -/
def RestoresSaved (repos : RepoMap) (path : String) (data : KeyData) : Prop :=
  (∃ out, parse ⟨path, unparse repos data⟩ = .ok out ∧
      ∀ repo ∈ repos.repos, out.find repo.id = some { repo with source := path }) ∧
    ∀ g ∉ repos.ids, (unparse repos data).hasGroup g = data.hasGroup g ∧
      ∀ key, (unparse repos data).lookup g key = data.lookup g key

/-- Every id names a group and every repository has a name; where a repository leaves out
`gpgkey`, `metalink` or `baseurl` the old group has none; and the groups that are not
saved can be read. -/
def SavesExactly (repos : RepoMap) (data : KeyData) : Prop :=
  (∀ repo ∈ repos.repos, isGroupName repo.id = true ∧ repo.name ≠ "" ∧ Overwrites data repo) ∧
    ∀ g ∈ data.getGroups, g ∉ repos.ids → ReadableGroup data g

theorem otherGroups_unparse {repos : RepoMap} {data : KeyData} {g : String} (hg : g ∉ repos.ids) :
    (unparse repos data).hasGroup g = data.hasGroup g ∧
      ∀ key, (unparse repos data).lookup g key = data.lookup g key := by
  refine ⟨?_, lookup_unparse_of_not_mem hg⟩
  rw [Bool.eq_iff_iff, hasGroup_unparse]
  simp [hg]

/-- A save that meets the condition is read back exactly. -/
theorem parse_unparse {repos : RepoMap} {path : String} {data : KeyData}
    (h : SavesExactly repos data) :
    ∃ out, parse ⟨path, unparse repos data⟩ = .ok out ∧
      ∀ repo ∈ repos.repos, out.find repo.id = some { repo with source := path } := by
  obtain ⟨hsaved, hothers⟩ := h
  have hgroup : ∀ repo ∈ repos.repos,
      parseGroup ⟨path, unparse repos data⟩ repo.id = .ok { repo with source := path } := by
    intro repo hrepo
    obtain ⟨hname, htitle⟩ := hsaved repo hrepo
    exact (parseGroup_unparse_iff hrepo hname).mpr htitle
  have hall : ∀ g ∈ (unparse repos data).getGroups,
      ∃ repo, parseGroup ⟨path, unparse repos data⟩ g = .ok repo := by
    intro g hg
    by_cases hid : g ∈ repos.ids
    · obtain ⟨repo, hrepo, rfl⟩ := List.mem_map.mp hid
      exact ⟨_, hgroup repo hrepo⟩
    · have hold : data.hasGroup g = true := by
        rw [← (otherGroups_unparse hid).1]
        exact KeyData.hasGroup_iff_mem.mpr hg
      rw [exists_parseGroup_iff, readableGroup_unparse hid]
      exact hothers g (KeyData.hasGroup_iff_mem.mp hold) hid
  have hparse : ∃ out, parse ⟨path, unparse repos data⟩ = .ok out := exists_parse_iff.mpr hall
  obtain ⟨out, hout⟩ := hparse
  refine ⟨out, hout, ?_⟩
  intro repo hrepo
  exact (find_of_parse hout).mpr (hgroup repo hrepo)

theorem unparse_parse_iff (repos : RepoMap) (path : String) {data : KeyData}
    (hdata : Loadable data) : RestoresSaved repos path data ↔ SavesExactly repos data := by
  constructor
  · rintro ⟨⟨out, hout, hfind⟩, -⟩
    constructor
    · intro repo hrepo
      have hparsed := (find_of_parse hout).mp (hfind repo hrepo)
      -- A group with another name is not written, and the old file has none either.
      have hname : isGroupName repo.id = true := by
        rcases hasGroup_unparse.mp (hasGroup_of_parseGroup hparsed) with ⟨-, hname⟩ | hold
        · exact hname
        · exact hdata _ (KeyData.hasGroup_iff_mem.mp hold)
      exact ⟨hname, (parseGroup_unparse_iff hrepo hname).mp hparsed⟩
    · intro g hg hid
      have hnew : g ∈ (unparse repos data).getGroups := by
        rw [← KeyData.hasGroup_iff_mem, (otherGroups_unparse hid).1]
        exact KeyData.hasGroup_iff_mem.mpr hg
      have hreadable := exists_parseGroup_iff.mp (exists_parse_iff.mp ⟨out, hout⟩ g hnew)
      exact (readableGroup_unparse hid).mp hreadable
  · intro h
    exact ⟨parse_unparse h, fun g hg => otherGroups_unparse hg⟩

/-- A repository as it is assembled for an upstream without a key. -/
def upstreamRepo : RPMRepository where
  id := "beegfs"
  group := "beegfs"
  group_eq := rfl
  name := "BeeGFS"
  baseurl := some "https://www.beegfs.io/release/dists/rhel9"
  gpgcheck := false
  source := "beegfs.repo"

def upstreamMap : RepoMap := ⟨[upstreamRepo], by simp⟩

/-- The same repository as an earlier run left it for a mirror with a key. -/
def mirroredFile : KeyData where
  groups := [("beegfs", [("name", "BeeGFS"), ("enabled", "false"), ("gpgcheck", "true"),
    ("gpgkey", "https://mirror.example.com/beegfs/key.gpg"),
    ("baseurl", "https://mirror.example.com/beegfs/rhel9")])]
  nodup := by simp

theorem loadable_mirroredFile : Loadable mirroredFile := by
  intro g hg
  simp only [mirroredFile, KeyData.getGroups, List.map_cons, List.map_nil,
    List.mem_singleton] at hg
  subst hg
  decide

/-- The repository as it is assembled for the mirror, with the key at another address. -/
def mirroredMap : RepoMap :=
  ⟨[{ upstreamRepo with
      gpgcheck := true
      gpgkey := some "https://mirror.example.com/keys/beegfs.gpg"
      baseurl := some "https://mirror.example.com/beegfs/rhel9" }], by simp⟩

/-- A repository that has a key replaces the old one. -/
theorem new_gpgkey_restored :
    RestoresSaved mirroredMap "/etc/yum.repos.d/beegfs.repo" mirroredFile := by
  refine (unparse_parse_iff mirroredMap "/etc/yum.repos.d/beegfs.repo"
    loadable_mirroredFile).mpr ⟨?_, ?_⟩
  · intro repo hrepo
    obtain rfl := List.mem_singleton.mp hrepo
    exact ⟨by decide, by decide, by simp, by decide, by simp⟩
  · intro g hg hid
    simp only [mirroredFile, KeyData.getGroups, List.map_cons, List.map_nil,
      List.mem_singleton] at hg
    subst hg
    exact absurd (by decide) hid

/-- The key of the mirror survives the save of a repository that has none. -/
theorem stale_gpgkey_not_restored :
    Loadable mirroredFile ∧
      ¬ RestoresSaved upstreamMap "/etc/yum.repos.d/beegfs.repo" mirroredFile := by
  refine ⟨loadable_mirroredFile, ?_⟩
  rintro ⟨⟨out, hout, hfind⟩, -⟩
  have hparsed := (find_of_parse hout).mp (hfind upstreamRepo (by simp [upstreamMap]))
  obtain ⟨-, -, -, -, -, -, hgpgkey, -⟩ := parseGroup_eq_ok.mp hparsed
  revert hgpgkey
  decide

end RPMRepositoryParser

end OpenCattus
