import OpenCattus.Repositories.Initialization

/-!
# The repositories of an image

`getxCATOSImageRepos` lists the addresses from which the packages of a compute image come. It
reads three `.repo` files of the head node again: one of the distribution, EPEL and OpenHPC. The
address of a mirror that does not answer is replaced by that of the upstream.

`mem_getxCATOSImageRepos_iff` says what the list has after the repositories of a new system were
initialized. A distribution whose file is not the one that is read contributes nothing.
-/

namespace OpenCattus

open Foundations Foundations.Text Foundations.Program RPMRepositoryParser RPMRepoManager
open RepoManager

/-! ## Reading a file again -/

namespace RPMRepoManager

/-- The path is `/etc/yum.repos.d//` with the file name, which names the same file. -/
def repoFile (w : RepoWorld) (repoFileName : String) : Result (List RPMRepository) :=
  match parse ⟨basedir ++ "/" ++ repoFileName, (w.keyFile ⟨basedir, repoFileName⟩).data⟩ with
  | .ok repos => .ok (repos.repos.mergeSort fun a b => a.id ≤ b.id)
  | .error e =>
    if e.kind = .outOfRange then runtimeError ("No such repository file " ++ repoFileName)
    else .error e

end RPMRepoManager

namespace RepoManager

def repoFile (headnodeOS : OS) (w : RepoWorld) (repo : String) : Result (List RPMRepository) :=
  match headnodeOS.getPackageType with
  | .RPM => RPMRepoManager.repoFile w repo
  | .DEB => .error ⟨.logicError, "Not implemented"⟩

end RepoManager

/-! ## The addresses -/

namespace XCAT

def ubuntu2404OpenHpcOtherpkgdirEntry : String :=
  "[trusted=yes] https://repos.versatushpc.com.br/openhpc/versatushpc-4/Ubuntu_24.04/ ./"

def buildRockyXcatRepoUpstreamUrl (osinfo : OS) (repoId : String) : Option String :=
  if osinfo.distro ≠ .Rocky then none
  else
    let root := "https://dl.rockylinux.org/pub/rocky/" ++ decimal osinfo.majorVersion
    let arch := osinfo.arch.toText
    if repoId = "appstream" then some (root ++ "/AppStream/" ++ arch ++ "/os/")
    else if repoId = "baseos" then some (root ++ "/BaseOS/" ++ arch ++ "/os/")
    else if repoId = "powertools" then some (root ++ "/PowerTools/" ++ arch ++ "/os/")
    else if repoId = "crb" then some (root ++ "/CRB/" ++ arch ++ "/os/")
    else none

/-- What stands between `/openhpc/` and the next slash. -/
def extractOpenHpcVersionFromMirrorUrl (currentUri : String) : Option String :=
  let marker := "/openhpc/".toList
  match findText marker currentUri.toList with
  | none => none
  | some begin =>
    let rest := currentUri.toList.drop (begin + marker.length)
    (findText ['/'] rest).map fun versionEnd => String.ofList (rest.take versionEnd)

def buildXcatRepoUpstreamUrl (repoId currentUri : String) (osinfo : OS) : Option String :=
  match buildRockyXcatRepoUpstreamUrl osinfo repoId with
  | some rockyUpstream => some rockyUpstream
  | none =>
    let arch := osinfo.arch.toText
    if repoId = "epel" then
      some ("https://download.fedoraproject.org/pub/epel/" ++ decimal osinfo.majorVersion ++
        "/Everything/" ++ arch ++ "/")
    else if repoId ≠ "OpenHPC" ∧ repoId ≠ "OpenHPC-Updates" then none
    else
      (extractOpenHpcVersionFromMirrorUrl currentUri).map fun ohpcVersion =>
        if repoId = "OpenHPC" then
          "https://repos.openhpc.community/OpenHPC/" ++ ohpcVersion ++ "/EL_" ++
            decimal osinfo.majorVersion ++ "/"
        else
          "https://repos.openhpc.community/OpenHPC/" ++ ohpcVersion ++ "/updates/EL_" ++
            decimal osinfo.majorVersion ++ "/"

/-- The address that takes the place of `uri`: a mirror that does not answer is replaced. -/
def reachableUrl (opts : RepoOptions) (httpStatus : String → String) (repoId uri : String)
    (osinfo : OS) : String :=
  let mirrorBaseUrl := rstrip opts.mirrorBaseUrl "/"
  if opts.enableMirrors = false ∨ mirrorBaseUrl = "" ∨ startsWith uri mirrorBaseUrl = false then uri
  else if startsWith (httpStatus (rstrip uri "/" ++ "/repodata/repomd.xml")) "2" then uri
  else (buildXcatRepoUpstreamUrl repoId uri osinfo).getD uri

def resolveXcatOsImageRepoUrl (opts : RepoOptions) (httpStatus : String → String)
    (repo : RPMRepository) (osinfo : OS) : Result String := do
  let uri ← unwrap repo.baseurl ("Expecting value for repository URI " ++ repo.id ++
    ", found None, check " ++ repo.source)
  pure (reachableUrl opts httpStatus repo.id uri osinfo)

/-! ## The list -/

/-- The file of the distribution. -/
def distroRepoFile (osinfo : OS) (shouldUseVault : Bool) : Result String :=
  match osinfo.distro with
  | .RHEL => .ok "rhel.repo"
  | .OL => .ok "oracle.repo"
  | .Rocky => .ok (if shouldUseVault then "rocky-vault.repo" else "rocky.repo")
  | .AlmaLinux => .ok "almalinux.repo"
  | .Ubuntu => undefinedBehaviour "unreachable"

section List

variable (opts : RepoOptions) (httpStatus : String → String) (shouldUseVault : Bool)
  (cluster : ClusterRepositories) (w : RepoWorld)

def addReposFromFile (filename : String) : Result (List String) := do
  let repos ← RepoManager.repoFile cluster.headnodeOS w filename
  (repos.filter (·.enabled)).mapM fun repo =>
    resolveXcatOsImageRepoUrl opts httpStatus repo cluster.computeNodeOS

def getxCATOSImageRepos : Result (List String) :=
  match cluster.computeNodeOS.getPackageType with
  | .DEB => .ok [ubuntu2404OpenHpcOtherpkgdirEntry]
  | .RPM => do
    let distro ← distroRepoFile cluster.computeNodeOS shouldUseVault
    let fromDistro ← addReposFromFile opts httpStatus cluster w distro
    let fromEpel ← addReposFromFile opts httpStatus cluster w "epel.repo"
    let fromOpenHPC ← addReposFromFile opts httpStatus cluster w "OpenHPC.repo"
    pure (fromDistro ++ fromEpel ++ fromOpenHPC)

end List

/-! ## What one file contributes -/

theorem resolveXcatOsImageRepoUrl_eq_ok {opts : RepoOptions} {httpStatus : String → String}
    {repo : RPMRepository} {osinfo : OS} {url : String} :
    resolveXcatOsImageRepoUrl opts httpStatus repo osinfo = .ok url ↔
      ∃ uri, repo.baseurl = some uri ∧ reachableUrl opts httpStatus repo.id uri osinfo = url := by
  unfold resolveXcatOsImageRepoUrl
  simp [except_bind_ok]

/-- The address depends on the id and the base address. -/
theorem resolveXcatOsImageRepoUrl_congr {opts : RepoOptions} {httpStatus : String → String}
    {repo repo' : RPMRepository} {osinfo : OS} {url : String} (hid : repo.id = repo'.id)
    (hbaseurl : repo.baseurl = repo'.baseurl) :
    resolveXcatOsImageRepoUrl opts httpStatus repo osinfo = .ok url ↔
      resolveXcatOsImageRepoUrl opts httpStatus repo' osinfo = .ok url := by
  rw [resolveXcatOsImageRepoUrl_eq_ok, resolveXcatOsImageRepoUrl_eq_ok, hid, hbaseurl]

theorem onDisk_eq_some_iff {w : RepoWorld} {p : RepoPath} {id : String} {repo : RPMRepository} :
    w.onDisk p id = some repo ↔ parseGroup (w.keyFile p) id = .ok repo := by
  unfold RepoWorld.onDisk RepoWorld.keyFile
  cases w.content p with
  | none =>
    refine iff_of_false (by simp) fun hparse => ?_
    cases hasGroup_of_parseGroup hparse
  | some data =>
    rw [Option.bind_some, Option.getD_some]
    cases parseGroup ⟨p.text, data⟩ id <;> simp [Except.toOption]

/-- Under another path a group is read as the same repository, but for its source. -/
theorem parseGroup_of_path {path path' : String} {data : KeyData} {id : String}
    {repo : RPMRepository} (h : parseGroup ⟨path, data⟩ id = .ok repo) :
    parseGroup ⟨path', data⟩ id = .ok { repo with source := path' } := by
  obtain ⟨hid, -, hrest⟩ := parseGroup_eq_ok.mp h
  exact parseGroup_eq_ok.mpr ⟨hid, rfl, hrest⟩

section File

variable (opts : RepoOptions) (httpStatus : String → String) {cluster : ClusterRepositories}
  {w : RepoWorld} {filename : String}

/-- A file all of whose groups are repositories with addresses contributes the addresses of
those that are switched on. -/
theorem mem_addReposFromFile (hhead : cluster.headnodeOS.getPackageType = .RPM)
    (hall : ∀ id, (w.keyFile ⟨basedir, filename⟩).data.hasGroup id = true →
      ∃ repo, w.onDisk ⟨basedir, filename⟩ id = some repo ∧ repo.baseurl ≠ none) :
    ∃ urls, addReposFromFile opts httpStatus cluster w filename = .ok urls ∧
      ∀ url, url ∈ urls ↔ ∃ id repo, w.onDisk ⟨basedir, filename⟩ id = some repo ∧
        repo.enabled = true ∧
        resolveXcatOsImageRepoUrl opts httpStatus repo cluster.computeNodeOS = .ok url := by
  have hread : ∀ {id repo}, w.onDisk ⟨basedir, filename⟩ id = some repo →
      parseGroup ⟨basedir ++ "/" ++ filename, (w.keyFile ⟨basedir, filename⟩).data⟩ id =
        .ok { repo with source := basedir ++ "/" ++ filename } :=
    fun h => parseGroup_of_path (onDisk_eq_some_iff.mp h)
  obtain ⟨out, hout⟩ : ∃ out,
      parse ⟨basedir ++ "/" ++ filename, (w.keyFile ⟨basedir, filename⟩).data⟩ = .ok out := by
    refine exists_parse_iff.mpr fun id hid => ?_
    obtain ⟨repo, hrepo, -⟩ := hall id (KeyData.hasGroup_iff_mem.mpr hid)
    exact ⟨_, hread hrepo⟩
  have hmem : ∀ repo, repo ∈ out.repos ↔ ∃ id found, w.onDisk ⟨basedir, filename⟩ id = some found ∧
      found.baseurl ≠ none ∧ repo = { found with source := basedir ++ "/" ++ filename } := by
    intro repo
    constructor
    · intro hrepo
      have hparse := (find_of_parse hout).mp (RepoMap.find_eq_some.mpr ⟨hrepo, rfl⟩)
      have hgroup := hasGroup_of_parseGroup hparse
      obtain ⟨found, hfound, hbaseurl⟩ := hall repo.id hgroup
      exact ⟨repo.id, found, hfound, hbaseurl, Except.ok.inj (hparse.symm.trans (hread hfound))⟩
    · rintro ⟨id, found, hfound, -, rfl⟩
      exact (RepoMap.find_eq_some.mp ((find_of_parse hout).mpr (hread hfound))).1
  have hurls : ∀ repos : List RPMRepository, (∀ repo ∈ repos, repo.baseurl ≠ none) →
      repos.mapM (fun repo => resolveXcatOsImageRepoUrl opts httpStatus repo
        cluster.computeNodeOS) =
        .ok (repos.map fun repo =>
          reachableUrl opts httpStatus repo.id (repo.baseurl.getD "") cluster.computeNodeOS) := by
    intro repos hrepos
    rw [except_mapM_ok, List.forall₂_map_right_iff, List.forall₂_same]
    intro repo hrepo
    obtain ⟨uri, huri⟩ := Option.ne_none_iff_exists'.mp (hrepos repo hrepo)
    exact resolveXcatOsImageRepoUrl_eq_ok.mpr ⟨uri, huri, by rw [huri, Option.getD_some]⟩
  unfold addReposFromFile RepoManager.repoFile RPMRepoManager.repoFile
  rw [hhead, hout]
  dsimp only
  rw [except_ok_bind, hurls]
  · refine ⟨_, rfl, fun url => ?_⟩
    simp only [List.mem_map, List.mem_filter, List.mem_mergeSort, hmem]
    constructor
    · rintro ⟨repo, ⟨⟨id, found, hfound, hbaseurl, rfl⟩, henabled⟩, rfl⟩
      obtain ⟨uri, huri⟩ := Option.ne_none_iff_exists'.mp hbaseurl
      refine ⟨id, found, hfound, henabled, resolveXcatOsImageRepoUrl_eq_ok.mpr ⟨uri, huri, ?_⟩⟩
      rw [huri, Option.getD_some]
    · rintro ⟨id, found, hfound, henabled, hurl⟩
      obtain ⟨uri, huri, rfl⟩ := resolveXcatOsImageRepoUrl_eq_ok.mp hurl
      refine ⟨_, ⟨⟨id, found, hfound, by simp [huri], rfl⟩, henabled⟩, ?_⟩
      rw [huri, Option.getD_some]
  · intro repo hrepo
    simp only [List.mem_filter, List.mem_mergeSort, hmem] at hrepo
    obtain ⟨⟨id, found, -, hbaseurl, rfl⟩, -⟩ := hrepo
    exact hbaseurl

end File

/-! ## The list of a new system -/

/-- The files that are read for an image. -/
def ReadForImage (osinfo : OS) (shouldUseVault : Bool) (filename : String) : Prop :=
  distroRepoFile osinfo shouldUseVault = .ok filename ∨ filename = "epel.repo" ∨
    filename = "OpenHPC.repo"

theorem distroRepoFile_of_rpm {osinfo : OS} (h : osinfo.getPackageType = .RPM)
    (shouldUseVault : Bool) : ∃ filename, distroRepoFile osinfo shouldUseVault = .ok filename ∧
      endsWith filename ".repo" = true := by
  unfold OS.getPackageType at h
  unfold distroRepoFile
  cases hdistro : osinfo.distro with
  | Ubuntu =>
    rw [hdistro] at h
    cases h
  | Rocky => cases shouldUseVault <;> exact ⟨_, rfl, by decide⟩
  | _ => exact ⟨_, rfl, by decide⟩

section Initialized

variable {site : RepoManager.Site} {cluster : ClusterRepositories} {vars : RepoConfigVars}
  {selected conffiles : RepoConfFiles} {names : List String} {disk : List (RepoPath × KeyData)}
  {listing : Order RepoPath} {order order' : Order Nat} {w' : RepoWorld}

/-- A first run that returns leaves the configured groups in the base directory, and no others. -/
theorem hasGroup_initialized (h : Prepared site cluster vars selected conffiles names)
    (hdisk : ∀ e ∈ disk, Loadable e.2) (hconf : WellConfigured conffiles)
    (hdot : (unloaded disk).content ⟨basedir, ".repo"⟩ = none)
    (hreturns : Returns (initializeRepositories site false cluster false listing order order')
      (unloaded disk) () w') {filename id : String} (hname : endsWith filename ".repo" = true) :
    (w'.keyFile (RepoGenerator.generatedPath filename)).data.hasGroup id = true ↔
      ∃ config, Configured conffiles filename id config := by
  have hempty : ∀ p, ¬ IsRepoFile (found false disk) p := not_isRepoFile_backedUp hdot
  have hfit : Fit site.mirrors conffiles (found false disk) := fit_of_empty hconf hempty
  have hdefined := hfit.definedAt_iff (RepoGenerator.generatedPath filename) id
  rw [KeyData.hasGroup_iff_mem, getGroups_initializeRepositories h hdisk hfit hreturns,
    ← KeyData.hasGroup_iff_mem]
  constructor
  · intro hgroup
    rcases hdefined.mp ⟨⟨rfl, hname, isSome_content_of_hasGroup hgroup⟩, hgroup⟩ with
      ⟨filename', config, hconfigured, hpath⟩ | ⟨hold, -⟩
    · obtain rfl := RepoGenerator.generatedPath_inj hpath
      exact ⟨config, hconfigured⟩
    · exact absurd hold (hempty _)
  · rintro ⟨config, hconfigured⟩
    exact (hdefined.mpr (.inl ⟨filename, config, hconfigured, rfl⟩)).2

/-- After a first run a file contributes the addresses of those of its configured repositories that
are switched on. -/
theorem mem_addReposFromFile_initialized (httpStatus : String → String)
    (h : Prepared site cluster vars selected conffiles names)
    (hdisk : ∀ e ∈ disk, Loadable e.2) (hconf : WellConfigured conffiles)
    (hdot : (unloaded disk).content ⟨basedir, ".repo"⟩ = none)
    (hreturns : Returns (initializeRepositories site false cluster false listing order order')
      (unloaded disk) () w') (hhead : cluster.headnodeOS.getPackageType = .RPM)
    (filename : String) (hname : endsWith filename ".repo" = true) :
    ∃ urls, addReposFromFile site.mirrors.opts httpStatus cluster w' filename = .ok urls ∧
      ∀ url, url ∈ urls ↔ ∃ id config, Configured conffiles filename id config ∧
        (∃ default ∈ allConfigs selected, default.repoId.id = id) ∧
        (id ∈ names ∨ AskedFor cluster.requested id) ∧
        resolveXcatOsImageRepoUrl site.mirrors.opts httpStatus
          (RepoConfAdapter.fromConfig site.mirrors config) cluster.computeNodeOS = .ok url := by
  have hfit : Fit site.mirrors conffiles (found false disk) :=
    fit_of_empty hconf (not_isRepoFile_backedUp hdot)
  have hondisk : ∀ {filename id config}, Configured conffiles filename id config → ∃ enabled,
      w'.onDisk (RepoGenerator.generatedPath filename) id =
        some { RepoConfAdapter.fromConfig site.mirrors config with
          source := (RepoGenerator.generatedPath filename).text, enabled } ∧
      (enabled = true ↔ (∃ default ∈ allConfigs selected, default.repoId.id = id) ∧
        (id ∈ names ∨ AskedFor cluster.requested id)) :=
    onDisk_initializeRepositories h hdisk hfit hreturns
  have hgroups : ∀ {id}, (w'.keyFile (RepoGenerator.generatedPath filename)).data.hasGroup id =
      true ↔ ∃ config, Configured conffiles filename id config :=
    hasGroup_initialized h hdisk hconf hdot hreturns hname
  have hall : ∀ id, (w'.keyFile ⟨basedir, filename⟩).data.hasGroup id = true →
      ∃ repo, w'.onDisk ⟨basedir, filename⟩ id = some repo ∧ repo.baseurl ≠ none := by
    intro id hid
    obtain ⟨config, hconfigured⟩ := hgroups.mp hid
    obtain ⟨enabled, hrepo, -⟩ := hondisk hconfigured
    exact ⟨_, hrepo, RepoGenerator.baseurl_fromConfig config⟩
  obtain ⟨urls, hurls, hmem⟩ := mem_addReposFromFile site.mirrors.opts httpStatus hhead hall
  refine ⟨urls, hurls, fun url => (hmem url).trans ?_⟩
  constructor
  · rintro ⟨id, repo, hrepo, henabled, hurl⟩
    obtain ⟨config, hconfigured⟩ := hgroups.mp
      (hasGroup_of_parseGroup (onDisk_eq_some_iff.mp hrepo))
    obtain ⟨enabled, hrepo', hiff⟩ := hondisk hconfigured
    obtain rfl := Option.some.inj (hrepo.symm.trans hrepo')
    obtain ⟨hdefault, hasked⟩ := hiff.mp henabled
    refine ⟨id, config, hconfigured, hdefault, hasked, Iff.mp ?_ hurl⟩
    exact resolveXcatOsImageRepoUrl_congr rfl rfl
  · rintro ⟨id, config, hconfigured, hdefault, hasked, hurl⟩
    obtain ⟨enabled, hrepo, hiff⟩ := hondisk hconfigured
    refine ⟨id, _, hrepo, hiff.mpr ⟨hdefault, hasked⟩, Iff.mp ?_ hurl⟩
    exact resolveXcatOsImageRepoUrl_congr rfl rfl

/-- Of the configured repositories those are listed that are in one of the three files and switched
on: default repositories that every cluster needs or that were asked for. -/
theorem mem_getxCATOSImageRepos_iff (httpStatus : String → String)
    (h : Prepared site cluster vars selected conffiles names)
    (hdisk : ∀ e ∈ disk, Loadable e.2) (hconf : WellConfigured conffiles)
    (hdot : (unloaded disk).content ⟨basedir, ".repo"⟩ = none)
    (hreturns : Returns (initializeRepositories site false cluster false listing order order')
      (unloaded disk) () w') (hrpm : cluster.computeNodeOS.getPackageType = .RPM) :
    ∃ urls, getxCATOSImageRepos site.mirrors.opts httpStatus site.shouldUseVault cluster w' =
        .ok urls ∧
      ∀ url, url ∈ urls ↔ ∃ filename id config,
        ReadForImage cluster.computeNodeOS site.shouldUseVault filename ∧
          Configured conffiles filename id config ∧
          (∃ default ∈ allConfigs selected, default.repoId.id = id) ∧
          (id ∈ names ∨ AskedFor cluster.requested id) ∧
          resolveXcatOsImageRepoUrl site.mirrors.opts httpStatus
            (RepoConfAdapter.fromConfig site.mirrors config) cluster.computeNodeOS = .ok url := by
  have hhead : cluster.headnodeOS.getPackageType = .RPM := by
    have hpackages := h.packages
    unfold ClusterRepositories.osinfo selectRepositoryBootstrapOS at hpackages
    split at hpackages
    · exact hpackages
    · rename_i hsame
      rw [hrpm, not_not] at hsame
      exact hsame
  have hfile := mem_addReposFromFile_initialized httpStatus h hdisk hconf hdot hreturns hhead
  obtain ⟨distro, hdistro, hname⟩ := distroRepoFile_of_rpm hrpm site.shouldUseVault
  obtain ⟨fromDistro, hfromDistro, hmemDistro⟩ := hfile distro hname
  obtain ⟨fromEpel, hfromEpel, hmemEpel⟩ := hfile "epel.repo" (by decide)
  obtain ⟨fromOpenHPC, hfromOpenHPC, hmemOpenHPC⟩ := hfile "OpenHPC.repo" (by decide)
  refine ⟨fromDistro ++ fromEpel ++ fromOpenHPC, ?_, fun url => ?_⟩
  · unfold getxCATOSImageRepos
    rw [hrpm, hdistro]
    dsimp only
    rw [except_ok_bind, hfromDistro, except_ok_bind, hfromEpel, except_ok_bind, hfromOpenHPC]
    rfl
  · rw [List.mem_append, List.mem_append, hmemDistro, hmemEpel, hmemOpenHPC]
    constructor
    · rintro ((⟨id, config, hlisted⟩ | ⟨id, config, hlisted⟩) | ⟨id, config, hlisted⟩)
      · exact ⟨_, id, config, .inl hdistro, hlisted⟩
      · exact ⟨_, id, config, .inr (.inl rfl), hlisted⟩
      · exact ⟨_, id, config, .inr (.inr rfl), hlisted⟩
    · rintro ⟨filename, id, config, hread | rfl | rfl, hlisted⟩
      · obtain rfl := Except.ok.inj (hdistro.symm.trans hread)
        exact .inl (.inl ⟨id, config, hlisted⟩)
      · exact .inl (.inr ⟨id, config, hlisted⟩)
      · exact .inr ⟨id, config, hlisted⟩

end Initialized

/-! ## The archive of Rocky Linux -/

/-- The configurations of the archive write `rocky.repo` too. -/
def rockyOrVaultBasePath : RepoConfigParser.BasePath where
  path := rockyBasePath.path
  content := fun name =>
    rockyBasePath.content (if name = "rocky-vault.conf" then "rocky-upstream.conf" else name)

def rockyOrVault (shouldUseVault : Bool) : RepoManager.Site :=
  { rockySite with basePath := rockyOrVaultBasePath, shouldUseVault }

/-- The addresses that an image gets after the first run. -/
def ListedAfterRun (shouldUseVault : Bool) (urls : List String) : Prop :=
  ∃ w', Returns (initializeRepositories (rockyOrVault shouldUseVault) false rockyCluster false
      (asListed _) (asListed _) (asListed _)) (unloaded rockyDisk) () w' ∧
    getxCATOSImageRepos rockySite.mirrors.opts (fun _ => "200") shouldUseVault rockyCluster w' =
      .ok urls

def rockyNames : List String := ["appstream", "baseos", "crb", "epel", "OpenHPC", "OpenHPC-Updates"]

theorem load_rockyOrVault (shouldUseVault : Bool) : ∃ conffiles,
    RepoConfigParser.load .ok rockyOrVaultBasePath rockyCluster.osinfo shouldUseVault =
        .ok conffiles ∧
      allConfigs conffiles = [rockyConfig, RepoGenerator.grafana] ∧
      conffiles.filesnames = ["rocky.repo", "grafana.repo"] ∧
      conffiles.configs "rocky.repo" = [rockyConfig] ∧
      conffiles.configs "grafana.repo" = [RepoGenerator.grafana] := by
  have hload : (RepoConfigParser.load .ok rockyOrVaultBasePath rockyCluster.osinfo
      shouldUseVault).toOption.map (fun conffiles => (allConfigs conffiles, conffiles.filesnames,
        conffiles.configs "rocky.repo", conffiles.configs "grafana.repo")) =
      some ([rockyConfig, RepoGenerator.grafana], ["rocky.repo", "grafana.repo"], [rockyConfig],
        [RepoGenerator.grafana]) := by
    cases shouldUseVault <;> decide
  obtain ⟨conffiles, hconffiles, hread⟩ := exists_of_toOption_map hload
  simp only [Prod.mk.injEq] at hread
  exact ⟨conffiles, hconffiles, hread⟩

/-- The first run, with what it was prepared from. -/
theorem returns_rockyOrVault (shouldUseVault : Bool) : ∃ vars selected conffiles w',
    Prepared (rockyOrVault shouldUseVault) rockyCluster vars selected conffiles rockyNames ∧
      allConfigs selected = [rockyConfig, RepoGenerator.grafana] ∧
      WellConfigured conffiles ∧
      (∀ {filename id config}, Configured conffiles filename id config ↔
        (filename = "rocky.repo" ∧ id = "baseos" ∧ config = rockyConfig) ∨
          filename = "grafana.repo" ∧ id = "grafana" ∧ config = RepoGenerator.grafana) ∧
      Returns (initializeRepositories (rockyOrVault shouldUseVault) false rockyCluster false
        (asListed _) (asListed _) (asListed _)) (unloaded rockyDisk) () w' := by
  obtain ⟨vars, hvars⟩ : ∃ vars, buildRepoConfigVars (rockyOrVault shouldUseVault).mirrors.opts
      rockyCluster.osinfo rockyCluster.resolvedOfed = .ok vars := ⟨_, rfl⟩
  obtain ⟨selected, hselected, hall, -⟩ := load_rockyOrVault false
  obtain ⟨conffiles, hconffiles, hall', hnames, hrocky, hgrafana⟩ :=
    load_rockyOrVault shouldUseVault
  have hprepared : Prepared (rockyOrVault shouldUseVault) rockyCluster vars selected conffiles
      rockyNames := ⟨by decide, hvars, hselected, by decide, hconffiles⟩
  have hconf := wellConfigured_rocky hnames hrocky hgrafana
  have hfit : Fit rockySite.mirrors conffiles (found false rockyDisk) :=
    fit_of_empty hconf (not_isRepoFile_backedUp (by decide))
  obtain ⟨w', hw'⟩ := (exists_returns_initializeRepositories_iff (asListed _) (asListed _)
    (asListed _) hprepared loadable_rockyDisk hfit).mpr
      ⟨fun config hconfig => exists_definedAt (by rwa [hall', ← hall]) _, rfl⟩
  refine ⟨vars, selected, conffiles, w', hprepared, hall, hconf, ?_, hw'⟩
  intro filename id config
  refine ⟨configured_rocky hnames hrocky hgrafana, ?_⟩
  rintro (⟨rfl, rfl, rfl⟩ | ⟨rfl, rfl, rfl⟩)
  · exact ⟨by rw [hnames]; decide, by rw [hrocky]; decide⟩
  · exact ⟨by rw [hnames]; decide, by rw [hgrafana]; decide⟩

/-- The image of a Rocky Linux has its base repository; of a release that is in the archive it has
none, because `rocky-vault.repo` is read. -/
theorem getxCATOSImageRepos_rocky :
    (∃ urls, ListedAfterRun false urls ∧
      "https://dl.rockylinux.org/pub/rocky/9/BaseOS/x86_64/os" ∈ urls) ∧
    ListedAfterRun true [] := by
  have hdot : (unloaded rockyDisk).content ⟨basedir, ".repo"⟩ = none := by decide
  constructor
  · obtain ⟨vars, selected, conffiles, w', hprepared, hall, hconf, hconfigured, hreturns⟩ :=
      returns_rockyOrVault false
    obtain ⟨urls, hurls, hmem⟩ := mem_getxCATOSImageRepos_iff (fun _ => "200") hprepared
      loadable_rockyDisk hconf hdot hreturns (by decide)
    refine ⟨urls, ⟨w', hreturns, hurls⟩, (hmem _).mpr ?_⟩
    refine ⟨"rocky.repo", "baseos", rockyConfig, .inl rfl, hconfigured.mpr (.inl ⟨rfl, rfl, rfl⟩),
      ?_, .inl (by decide), by decide⟩
    exact ⟨rockyConfig, by rw [hall]; simp, rfl⟩
  · obtain ⟨vars, selected, conffiles, w', hprepared, -, hconf, hconfigured, hreturns⟩ :=
      returns_rockyOrVault true
    obtain ⟨urls, hurls, hmem⟩ := mem_getxCATOSImageRepos_iff (fun _ => "200") hprepared
      loadable_rockyDisk hconf hdot hreturns (by decide)
    have hempty : urls = [] := by
      refine List.eq_nil_iff_forall_not_mem.mpr fun url hurl => ?_
      obtain ⟨filename, id, config, hread, hwritten, -⟩ := (hmem url).mp hurl
      have hnames : filename = "rocky-vault.repo" ∨ filename = "epel.repo" ∨
          filename = "OpenHPC.repo" := hread.imp_left fun h => (Except.ok.inj h).symm
      rcases hconfigured.mp hwritten with ⟨rfl, -⟩ | ⟨rfl, -⟩ <;> revert hnames <;> decide
    rw [hempty] at hurls
    exact ⟨w', hreturns, hurls⟩

end XCAT

end OpenCattus
