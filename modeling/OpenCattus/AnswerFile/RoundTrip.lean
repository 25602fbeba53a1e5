import OpenCattus.AnswerFile.NodeCodec

/-!
# The answerfile round trip

`loadOptions_dumpOptions` assembles the codecs of the sections: loading a dump succeeds
exactly when the record is `Loadable`, and then gives `reloaded`. `loadOptions_stable`
says that a loaded record is `Loadable` and reloads to itself. The round trip
`loadOptions_dumpOptions_of_loadOptions` follows.
-/

namespace OpenCattus

open Foundations Foundations.Text Foundations.Inet KeyData

variable [Inet6]

/-- The dump of the record is accepted by `loadOptions`. -/
structure AnswerFile.Loadable (af : AnswerFile) : Prop where
  external : af.external.Loadable
  management : af.management.Loadable
  service : af.service.LoadableOptional
  application : af.application.LoadableOptional
  system : af.system.Loadable
  nodes : af.nodes.Loadable
  postfixMail : af.postfixMail.Loadable
  ofed : af.ofed.Loadable
  queue : (af.slurm.enabled && af.pbs.enabled) = false

/-- The record that the dump is loaded as. -/
def AnswerFile.reloaded (af : AnswerFile) : AnswerFile where
  external := af.external.reloaded
  management := af.management.reloaded
  service := af.service.reloadedOptional
  application := af.application.reloadedOptional
  information := af.information
  time := af.time
  hostname := af.hostname
  system := af.system.reloaded
  repositories := reloadedList af.repositories
  ohpc := reloadedList af.ohpc
  nodes := af.nodes.reloaded
  postfixMail := af.postfixMail.reloaded
  ofed := af.ofed.reloaded
  slurm := af.slurm.reloaded
  pbs := af.pbs.reloaded

omit [Inet6] in
theorem validateSingleQueueSystem_eq_ok {slurmEnabled pbsEnabled : Bool} {u : Unit} :
    validateSingleQueueSystem slurmEnabled pbsEnabled = .ok u ↔
      (slurmEnabled && pbsEnabled) = false := by
  unfold validateSingleQueueSystem
  cases slurmEnabled && pbsEnabled <;> simp

omit [Inet6] in
theorem AFSlurm.reloaded_enabled (slurm : AFSlurm) : slurm.reloaded.enabled = slurm.enabled := by
  unfold AFSlurm.reloaded
  cases h : slurm.enabled <;> simp [h]

omit [Inet6] in
theorem AFPBS.reloaded_enabled (pbs : AFPBS) : pbs.reloaded.enabled = pbs.enabled := by
  unfold AFPBS.reloaded
  cases h : pbs.enabled <;> simp [h]

/-- The sections of a file that holds the dump of a record. -/
structure DumpCarries (kd : KeyData) (af : AnswerFile) : Prop where
  external : kd.Carries "network_external" (networkEntries af.external)
  management : kd.Carries "network_management" (networkEntries af.management)
  service : kd.Carries "network_service" (networkEntries af.service)
  application : kd.Carries "network_application" (networkEntries af.application)
  information : kd.Carries "information" (informationEntries af.information)
  time : kd.Carries "time" (timeEntries af.time)
  hostname : kd.Carries "hostname" (hostnameEntries af.hostname)
  system : kd.Carries "system" (systemEntries af.system)
  repositories : kd.Carries "repositories" (enabledEntries af.repositories)
  ohpc : kd.Carries "ohpc" (enabledEntries af.ohpc)
  slurm : kd.Carries "slurm" (slurmEntries af.slurm)
  pbs : kd.Carries "pbs" (pbsEntries af.pbs)
  nodes : NodesCarries kd af.nodes
  ofed : kd.Carries "ofed" (ofedEntries af.ofed)
  postfixMail : PostfixCarries kd af.postfixMail

theorem dumpCarries_dumpOptions {af : AnswerFile}
    (hassigns : ∀ node ∈ af.nodes.nodes, KeyData.assigns (nodeEntries node) = true) :
    DumpCarries (dumpOptions af KeyData.empty) af := by
  have hset : ∀ {g entries}, (g, entries) ∈ settingBlocks af →
      (dumpOptions af KeyData.empty).Carries g entries := carries_dumpOptions_setting af
  have hserv : ∀ {g entries}, (g, entries) ∈ serviceBlocks af →
      (dumpOptions af KeyData.empty).Carries g entries := carries_dumpOptions_service af
  unfold settingBlocks at hset
  unfold serviceBlocks at hserv
  exact
    { external := hset (by simp)
      management := hset (by simp)
      service := hset (by simp)
      application := hset (by simp)
      information := hset (by simp)
      time := hset (by simp)
      hostname := hset (by simp)
      system := hset (by simp)
      repositories := hset (by simp)
      ohpc := hset (by simp)
      slurm := hset (by simp)
      pbs := hset (by simp)
      nodes :=
        { generic := hset (by simp)
          node := fun _ _ h => carries_dumpOptions_node af h
          sections := prefixed_dumpOptions hassigns }
      ofed := hserv (by simp)
      postfixMail := ⟨hserv (by simp), hserv (by simp), hserv (by simp)⟩ }

/-- Loading a file that holds a dump, in terms of the dumped record. -/
theorem loadOptions_carries {kf : KeyFile} {af r : AnswerFile} {dryRun : Bool}
    (h : DumpCarries kf.data af) (hnamed : ∀ node ∈ af.nodes.nodes, node.Named)
    (hsize : af.nodes.nodes.length < sizeLimit) :
    loadOptions kf dryRun = .ok r ↔ af.Loadable ∧ r = af.reloaded := by
  unfold loadOptions loadExternalNetwork loadManagementNetwork loadServiceNetwork
    loadApplicationNetwork loadRepositories loadOHPC
  simp only [except_bind_ok, except_ok_bind, loadInformation_carries h.information,
    loadTimeSettings_carries h.time, loadHostnameSettings_carries h.hostname,
    loadEnabledList_carries h.repositories, loadEnabledList_carries h.ohpc,
    loadSlurm_carries h.slurm, loadPBS_carries h.pbs, loadNetwork_carries h.external,
    loadNetwork_carries h.management, loadOptionalNetwork_carries h.service,
    loadOptionalNetwork_carries h.application, loadSystemSettings_carries h.system,
    loadNodes_carries h.nodes hnamed hsize, loadPostfix_carries h.postfixMail,
    loadOFED_carries h.ofed, validateSingleQueueSystem_eq_ok, AFSlurm.reloaded_enabled,
    AFPBS.reloaded_enabled]
  constructor
  · rintro ⟨_, ⟨h₁, rfl⟩, _, ⟨h₂, rfl⟩, _, ⟨h₃, rfl⟩, _, ⟨h₄, rfl⟩, _, ⟨h₅, rfl⟩, _, ⟨h₆, rfl⟩, _,
      ⟨h₇, rfl⟩, _, ⟨h₈, rfl⟩, _, h₉, heq⟩
    obtain rfl := Except.ok.inj heq
    exact ⟨⟨h₁, h₂, h₃, h₄, h₅, h₆, h₇, h₈, h₉⟩, rfl⟩
  · rintro ⟨⟨h₁, h₂, h₃, h₄, h₅, h₆, h₇, h₈, h₉⟩, rfl⟩
    exact ⟨_, ⟨h₁, rfl⟩, _, ⟨h₂, rfl⟩, _, ⟨h₃, rfl⟩, _, ⟨h₄, rfl⟩, _, ⟨h₅, rfl⟩, _, ⟨h₆, rfl⟩, _,
      ⟨h₇, rfl⟩, _, ⟨h₈, rfl⟩, (), h₉, rfl⟩

theorem loadOptions_dumpOptions {path : String} {af r : AnswerFile} {dryRun : Bool}
    (hnamed : ∀ node ∈ af.nodes.nodes, node.Named) (hsize : af.nodes.nodes.length < sizeLimit) :
    loadOptions ⟨path, dumpOptions af KeyData.empty⟩ dryRun = .ok r ↔
      af.Loadable ∧ r = af.reloaded :=
  loadOptions_carries (dumpCarries_dumpOptions fun node hnode => (hnamed node hnode).assigns) hnamed
    hsize

/-! ## Loaded records -/

/-- A loaded record is accepted again and reloads to itself. -/
theorem loadOptions_stable {kf : KeyFile} {af : AnswerFile} (h : loadOptions kf false = .ok af) :
    af.Loadable ∧ af.reloaded = af ∧ (∀ node ∈ af.nodes.nodes, node.Named) := by
  unfold loadOptions loadExternalNetwork loadManagementNetwork loadServiceNetwork
    loadApplicationNetwork loadRepositories loadOHPC at h
  simp only [except_bind_ok, validateSingleQueueSystem_eq_ok] at h
  obtain ⟨external, h₁, management, h₂, service, h₃, application, h₄, information, -, time, -,
    hostname, -, system, h₅, repositories, h₆, ohpc, h₇, nodes, h₈, mail, h₉, ofed, h₁₀, slurm, h₁₁,
    pbs, h₁₂, _, hqueue, h⟩ := h
  obtain rfl := Except.ok.inj h
  obtain ⟨l₁, r₁⟩ := loadNetwork_stable h₁
  obtain ⟨l₂, r₂⟩ := loadNetwork_stable h₂
  obtain ⟨l₃, r₃⟩ := loadOptionalNetwork_stable h₃
  obtain ⟨l₄, r₄⟩ := loadOptionalNetwork_stable h₄
  obtain ⟨l₅, r₅⟩ := loadSystemSettings_stable h₅
  obtain ⟨l₈, r₈, hnamed⟩ := loadNodes_stable h₈
  obtain ⟨l₉, r₉⟩ := loadPostfix_stable h₉
  obtain ⟨l₁₀, r₁₀⟩ := loadOFED_stable h₁₀
  refine ⟨⟨l₁, l₂, l₃, l₄, l₅, l₈, l₉, l₁₀, hqueue⟩, ?_, hnamed⟩
  simp only [AnswerFile.reloaded, r₁, r₂, r₃, r₄, r₅, loadEnabledList_stable h₆,
    loadEnabledList_stable h₇, r₈, r₉, r₁₀, loadSlurm_stable h₁₁, loadPBS_stable h₁₂]

/-- What is known of a record that was loaded. -/
structure AnswerFile.Loaded (af : AnswerFile) : Prop where
  loadable : af.Loadable
  reloaded_eq : af.reloaded = af
  named : ∀ node ∈ af.nodes.nodes, node.Named

omit [Inet6] in
/-- A dry run only differs when the distribution is unknown, and then there is no version. -/
theorem loadSystemSettings_dryRun {kf : KeyFile} {r : AFSystem} {dryRun : Bool}
    (h : loadSystemSettings kf dryRun = .ok r) (hversion : r.version ≠ "") :
    loadSystemSettings kf false = .ok r := by
  unfold loadSystemSettings at h ⊢
  rw [except_bind_ok] at h ⊢
  obtain ⟨diskImage, hdisk, h⟩ := h
  rw [except_bind_ok] at h
  obtain ⟨rawDistro, hdistro, h⟩ := h
  refine ⟨diskImage, hdisk, except_bind_ok.mpr ⟨rawDistro, hdistro, ?_⟩⟩
  dsimp only at h ⊢
  split at h
  · split at h
    · obtain rfl := Except.ok.inj h
      exact absurd rfl hversion
    · simp at h
  · exact h

theorem loadOptions_loaded {kf : KeyFile} {af : AnswerFile} {dryRun : Bool}
    (h : loadOptions kf dryRun = .ok af) (hversion : af.system.version ≠ "") : af.Loaded := by
  have hfalse : loadOptions kf false = .ok af := by
    unfold loadOptions at h ⊢
    simp only [except_bind_ok] at h ⊢
    obtain ⟨external, h₁, management, h₂, service, h₃, application, h₄, information, h₅, time, h₆,
      hostname, h₇, system, h₈, h⟩ := h
    refine ⟨external, h₁, management, h₂, service, h₃, application, h₄, information, h₅, time, h₆,
      hostname, h₇, system, loadSystemSettings_dryRun h₈ ?_, h⟩
    obtain ⟨_, -, _, -, _, -, _, -, _, -, _, -, _, -, _, -, h⟩ := h
    obtain rfl := Except.ok.inj h
    exact hversion
  obtain ⟨hloadable, hreloaded, hnamed⟩ := loadOptions_stable hfalse
  exact ⟨hloadable, hreloaded, hnamed⟩

namespace AnswerFile.Loaded

variable {af : AnswerFile}

theorem nodes (h : af.Loaded) : af.nodes.Loaded :=
  ⟨h.loadable.nodes, congrArg AnswerFile.nodes h.reloaded_eq, h.named⟩

theorem generic (h : af.Loaded) : ∃ generic, af.nodes.generic = some generic ∧
    generic.LoadableGeneric ∧ generic.reloadedGeneric = generic ∧
      af.nodes.nodes.map (reloadedNode generic) = af.nodes.nodes := h.nodes.generic

theorem resolved (h : af.Loaded) {node : AFNode} (hnode : node ∈ af.nodes.nodes) :
    ResolvedNode node := h.nodes.resolved hnode

theorem distinct (h : af.Loaded) : DistinctInventory af.nodes.nodes := h.nodes.distinct

end AnswerFile.Loaded

/-- The sections of a record that was loaded, in a dry run or not. -/
structure AnswerFile.Accepted (af : AnswerFile) : Prop where
  management : af.management.Loadable ∧ af.management.reloaded = af.management
  external : af.external.Loadable ∧ af.external.reloaded = af.external
  service : af.service.LoadableOptional ∧ af.service.reloadedOptional = af.service
  application : af.application.LoadableOptional ∧ af.application.reloadedOptional = af.application
  nodes : af.nodes.Loaded
  postfixMail : af.postfixMail.Loadable
  ofed : af.ofed.Loadable ∧ af.ofed.reloaded = af.ofed

theorem loadOptions_accepted {kf : KeyFile} {af : AnswerFile} {dryRun : Bool}
    (h : loadOptions kf dryRun = .ok af) : af.Accepted := by
  unfold loadOptions loadExternalNetwork loadManagementNetwork loadServiceNetwork
    loadApplicationNetwork at h
  simp only [except_bind_ok] at h
  obtain ⟨external, h₁, management, h₂, service, h₃, application, h₄, _, -, _, -, _, -, _, -, _, -,
    _, -, nodes, h₅, mail, h₆, ofed, h₇, _, -, _, -, _, -, h⟩ := h
  obtain rfl := Except.ok.inj h
  exact ⟨loadNetwork_stable h₂, loadNetwork_stable h₁, loadOptionalNetwork_stable h₃,
    loadOptionalNetwork_stable h₄, loadNodes_loaded h₅, (loadPostfix_stable h₆).1,
    loadOFED_stable h₇⟩

omit [Inet6] in
/-- A reloaded section never lists no nameservers. -/
theorem nameservers_ne_nil {network : AFNetwork} (h : network.reloaded = network) :
    network.nameservers ≠ some [] := by
  intro hnil
  have heq := congrArg AFNetwork.nameservers h
  simp [AFNetwork.reloaded, hnil] at heq

omit [Inet6] in
theorem vectorMaxSize_lt_sizeLimit : vectorMaxSize < sizeLimit := by decide

/-- Dumping a loaded record into an empty key file and loading that gives it back. -/
theorem loadOptions_dumpOptions_of_loadOptions {kf : KeyFile} {af : AnswerFile} (path : String)
    (h : loadOptions kf false = .ok af) :
    loadOptions ⟨path, dumpOptions af KeyData.empty⟩ false = .ok af := by
  obtain ⟨hloadable, hreloaded, hnamed⟩ := loadOptions_stable h
  have hsize : af.nodes.nodes.length < sizeLimit :=
    lt_of_le_of_lt hloadable.nodes.size vectorMaxSize_lt_sizeLimit
  exact (loadOptions_dumpOptions hnamed hsize).mpr ⟨hloadable, hreloaded.symm⟩

/-! ## An accepted file -/

/-- A small answerfile: the first node inherits everything but its address. -/
def sampleKeyFile : KeyFile where
  path := "answerfile.ini"
  data :=
    { groups :=
        [("information", [("cluster_name", "demo"), ("company_name", "acme"),
            ("administrator_email", "root@acme.org")]),
          ("time", [("timezone", "UTC"), ("timeserver", ""), ("locale", "C")]),
          ("hostname", [("hostname", "head"), ("domain_name", "cluster.local")]),
          ("network_external", [("interface", "eth0"), ("ip_address", "10.0.0.2"),
            ("subnet_mask", "255.255.255.0"), ("domain_name", "acme.org"),
            ("gateway", "10.0.0.1"), ("nameservers", "10.0.0.1,10.0.0.3")]),
          ("network_management", [("interface", "eth1"), ("ip_address", "192.168.1.1"),
            ("subnet_mask", "255.255.255.0"), ("domain_name", "cluster.local")]),
          ("system", [("disk_image", "/image.iso"), ("distro", "rocky"), ("version", "9.5"),
            ("provisioner", "xCAT")]),
          ("node", [("prefix", "n"), ("padding", "2"), ("node_ip", "192.168.1.10"),
            ("node_root_password", "secret"), ("sockets", "1"), ("cores_per_socket", "2"),
            ("threads_per_core", "1"), ("cpus_per_node", "2"), ("real_memory", "4096"),
            ("bmc_username", "admin"), ("bmc_password", "admin"), ("bmc_serialport", "0"),
            ("bmc_serialspeed", "9600")]),
          ("node.1", [("mac_address", "aa:bb:cc:dd:ee:01"), ("node_ip", "192.168.1.11")])]
      nodup := by decide }

/-- What `sampleKeyFile` is loaded as. -/
def sampleAnswerFile : AnswerFile where
  external :=
    { conInterface := some "eth0"
      conIpAddr := some (.v4 (ofOctets 10 0 0 2))
      conMacAddr := some ""
      subnetMask := some (.v4 (ofOctets 255 255 255 0))
      domainName := some "acme.org"
      gateway := some (.v4 (ofOctets 10 0 0 1))
      nameservers := some ["10.0.0.1", "10.0.0.3"] }
  management :=
    { conInterface := some "eth1"
      conIpAddr := some (.v4 (ofOctets 192 168 1 1))
      conMacAddr := some ""
      subnetMask := some (.v4 (ofOctets 255 255 255 0))
      domainName := some "cluster.local" }
  information :=
    { clusterName := "demo", companyName := "acme", administratorEmail := "root@acme.org" }
  time := { timezone := "UTC", timeserver := "", locale := "C" }
  hostname := { hostname := "head", domainName := "cluster.local" }
  system := { diskImage := "/image.iso", distro := .Rocky, version := "9.5", provisioner := "xcat" }
  nodes :=
    { generic := some
        { nodePrefix := some "n"
          padding := some "2"
          startIp := some (.v4 (ofOctets 192 168 1 10))
          rootPassword := some "secret"
          sockets := some "1"
          coresPerSocket := some "2"
          threadsPerCore := some "1"
          cpusPerNode := some "2"
          realMemory := some "4096"
          bmcUsername := some "admin"
          bmcPassword := some "admin"
          bmcSerialport := some "0"
          bmcSerialspeed := some "9600" }
      nodes :=
        [{ startIp := some (.v4 (ofOctets 192 168 1 11))
           hostname := some "n01"
           rootPassword := some "secret"
           macAddress := some "aa:bb:cc:dd:ee:01"
           sockets := some "1"
           coresPerSocket := some "2"
           threadsPerCore := some "1" }] }

omit [Inet6] in
theorem loadOptions_sampleKeyFile :
    @loadOptions plainInet6 sampleKeyFile false = .ok sampleAnswerFile := by
  decide

omit [Inet6] in
theorem sampleKeyFile_round_trip :
    @loadOptions plainInet6 sampleKeyFile false = .ok sampleAnswerFile ∧
      @loadOptions plainInet6
        ⟨"copy.ini", @dumpOptions plainInet6 sampleAnswerFile KeyData.empty⟩ false =
        .ok sampleAnswerFile :=
  ⟨loadOptions_sampleKeyFile,
    @loadOptions_dumpOptions_of_loadOptions plainInet6 _ _ "copy.ini" loadOptions_sampleKeyFile⟩

end OpenCattus
