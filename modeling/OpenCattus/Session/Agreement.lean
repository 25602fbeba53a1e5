import OpenCattus.AnswerFile.Redump
import OpenCattus.Session.DraftNodes
import OpenCattus.Session.Readers

/-!
# When the two readers agree

`readersAgree_iff`: for which written files `fillData` and `applyDraftToModel` build the same
model. `counted_applyDraftToModel` is what excludes nodes: only the draft reader computes
the totals of a CPU.
-/

namespace OpenCattus

open Foundations Foundations.Text Foundations.Inet

/-! ## Nodes -/

/-- What the readers have to agree on for a node. -/
structure NodeReading where
  hostname : String
  macAddress : String
  nodeStartIp : Option Address
  connections : List (Network.Profile × Option String × Address)
  cpu : CPU
  bmc : Option BMC
  rootPassword : Option String
  deriving DecidableEq, Repr

def Node.reading (node : Node) : NodeReading where
  hostname := node.hostname
  macAddress := node.macAddress
  nodeStartIp := node.nodeStartIp
  connections := node.connections.map fun connection =>
    (connection.profile, connection.mac, connection.address)
  cpu := node.cpu
  bmc := node.bmc
  rootPassword := node.nodeRootPassword

namespace Cluster

theorem totals_ofTopology {sockets coresPerSocket threadsPerCore : Nat} {cpu : CPU}
    (h : CPU.ofTopology sockets coresPerSocket threadsPerCore = .ok cpu) :
    cpu.cores ≠ 0 ∧ cpu.threads ≠ 0 := by
  unfold CPU.ofTopology at h
  simp only [except_bind_ok, Except.ok.injEq] at h
  obtain ⟨_, hcheck, rfl⟩ := h
  constructor
  · intro hzero
    rw [CPU.checkTopology, if_pos (.inr (.inl hzero))] at hcheck
    simp at hcheck
  · intro hzero
    rw [CPU.checkTopology, if_pos (.inr (.inr (.inl hzero)))] at hcheck
    simp at hcheck

/-- Every node has the total of its cores. -/
def Counted (model : Cluster) : Prop := ∀ node ∈ model.nodes, node.cpu.cores ≠ 0

variable [Inet6] {host : Host} {kd : KeyData} {r : Cluster}

/-- The draft reader counts the cores of every node that it adds. -/
theorem counted_applyDraftToModel
    (h : applyDraftToModel host (some kd) (fresh host) = .ok r) : r.Counted := by
  obtain ⟨before, nodes, -, hnodes, hkept⟩ := applyDraftToModel_inventory h
  have heq : r.nodes = nodes := congrArg Inventory.nodes hkept
  intro node hnode
  obtain ⟨_, -, v, -, hdrafted⟩ := hnodes.drafted node (heq ▸ hnode)
  exact (totals_ofTopology (cpu_draftNode hdrafted)).1

end Cluster

/-! ## Agreement -/

/-- The models agree; networks and connections are compared without their order. -/
structure ReadersAgree (m m' : Cluster) : Prop where
  networks : m.networks.Perm m'.networks
  connections : m.headnode.connections.Perm m'.headnode.connections
  computeNodeOS : m.computeNodeOS = m'.computeNodeOS
  provisioner : m.provisioner = m'.provisioner
  ofed : m.ofed = m'.ofed
  repositories : m.enabledRepositories = m'.enabledRepositories
  openHPCBundles : m.enabledOpenHPCBundles = m'.enabledOpenHPCBundles
  queueSystem : m.queueSystem = m'.queueSystem
  mailSystem : m.mailSystem = m'.mailSystem
  timeservers : m.timezone.timeservers = m'.timezone.timeservers
  defaults : m.nodeDefaults = m'.nodeDefaults
  nodes : m.nodes.map Node.reading = m'.nodes.map Node.reading

/-- The model has nothing that the readers take differently: no node, no application network, no
time server, no empty text where one reader has a default, and nothing left to look up. -/
structure ReadAlike [Inet6] (host : Host) (model : Cluster) : Prop where
  nodes : model.nodes = []
  networks : ∀ profile, model.toAnswerFile.networkField profile ≠ {} →
    Link.SaysAll host profile (model.toAnswerFile.networkField profile)
  kernel : model.getComputeNodeOS.kernel = some "" → host.os.kernel = some ""
  ofed : model.ofed.isSome = true
  repositories : ∀ values ∈ model.enabledRepositories, "" ∉ respell values
  openHPCBundles : ∀ values ∈ model.enabledOpenHPCBundles, "" ∉ respell values
  queueSystem : ∃ queue, model.queueSystem = some queue ∧ queue ≠ .SLURM ""
  mailSystem : ∀ mail ∈ model.mailSystem, MailAlike host model.dumpHostname mail
  timeservers : model.timezone.timeservers.headD "" = ""
  cpus : model.CPUsMatch

section Agreement

variable [Inet6] {host : Host} {model : Cluster} {f : Filling}

namespace Filling.Sound

theorem networks_perm_iff (h : f.Sound host model.toAnswerFile.reloaded)
    (hl : model.toAnswerFile.Loadable) :
    f.networks.Perm (f.resumption host model.toAnswerFile).networks ↔
      ∀ profile, model.toAnswerFile.networkField profile ≠ {} →
        Link.SaysAll host profile (model.toAnswerFile.networkField profile) := by
  have hperm : Filling.profiles.Perm Resumption.profiles := by decide
  have hall : ∀ profile, profile ∈ Filling.profiles := by
    intro profile
    cases profile <;> decide
  unfold Filling.networks Resumption.networks
  rw [perm_filterMap_iff Network.profile hperm (by decide) hall]
  · refine forall_congr' fun profile => ?_
    cases hlink : f.link profile with
    | none => simp [Filling.resumption, hlink, h.unwritten hl hlink]
    | some link =>
      obtain ⟨hcomplete, hs, hv⟩ := h.written hl hlink
      have hne := hcomplete.ne_empty
      simpa [Filling.resumption, hlink, hne] using hs.network_eq_iff hv hcomplete
  · intro profile network hnetwork
    obtain ⟨link, -, rfl⟩ := Option.map_eq_some_iff.mp hnetwork
    rfl
  · intro profile network hnetwork
    obtain ⟨link, -, rfl⟩ := Option.map_eq_some_iff.mp hnetwork
    rfl

theorem connections_perm (h : f.Sound host model.toAnswerFile.reloaded)
    (hl : model.toAnswerFile.Loadable)
    (hfield : ∀ profile, model.toAnswerFile.networkField profile ≠ {} →
      Link.SaysAll host profile (model.toAnswerFile.networkField profile)) :
    f.connections.Perm (f.resumption host model.toAnswerFile).connections := by
  have hperm : Filling.profiles.Perm Resumption.profiles := by decide
  have hsame : (fun profile => (f.link profile).map (Link.connection profile)) =
      fun profile => ((f.resumption host model.toAnswerFile).link profile).map
        (Link.draftConnection profile) := by
    funext profile
    cases hlink : f.link profile with
    | none => simp [Filling.resumption, hlink]
    | some link =>
      obtain ⟨hcomplete, -, -⟩ := h.written hl hlink
      have hne := hcomplete.ne_empty
      simp [Filling.resumption, hlink, ← Link.connection_eq (hfield profile hne).ethernet]
  unfold Filling.connections Resumption.connections
  rw [hsame]
  exact hperm.filterMap _

/-- Without nodes, the readers agree section by section. -/
theorem agree_iff_alike (h : f.Sound host model.toAnswerFile.reloaded)
    (hl : model.toAnswerFile.Loadable) (hnodes : model.nodes = []) :
    ReadersAgree (f.cluster host model.toAnswerFile.reloaded)
        ((f.resumption host model.toAnswerFile).cluster host model.toAnswerFile) ↔
      ReadAlike host model := by
  have hnone : f.nodes = [] := by
    have hmap := h.nodes
    have hempty : model.toAnswerFile.reloaded.nodes.nodes = [] := by
      simp [AnswerFile.reloaded, AFNodes.reloaded, Cluster.toAnswerFile, hnodes]
    rw [hempty] at hmap
    exact (Except.ok.inj hmap).symm
  have hkernel : some f.nodeOS =
      some { f.nodeOS with
        kernel := (clearIfEmpty model.getComputeNodeOS.kernel).or host.os.kernel } ↔
        (model.getComputeNodeOS.kernel = some "" → host.os.kernel = some "") := by
    obtain ⟨platform, major, minor, -, hos⟩ := Cluster.fillNodeOS_eq_ok.mp h.nodeOS
    rw [← computeNodeOS_eq_iff, hos, Option.some.injEq, OS.mk.injEq]
    simp [AnswerFile.reloaded, AFSystem.reloaded, Cluster.toAnswerFile, Cluster.dumpSystem]
  have hgeneric : model.dumpGenericNode.LoadableGeneric := by
    obtain ⟨generic, hg, hlg⟩ := hl.nodes.generic
    exact Option.some.inj hg ▸ hlg
  have hdefaults : (f.cluster host model.toAnswerFile.reloaded).nodeDefaults = model.nodeDefaults := by
    obtain ⟨generic, hg, hd⟩ := h.defaults
    obtain rfl := Option.some.inj hg
    exact defaults_eq hgeneric hd
  have hdraft : ((f.resumption host model.toAnswerFile).cluster host
      model.toAnswerFile).nodeDefaults = _ := draftDefaults_dumpGenericNode hgeneric
  have hofed : some f.ofed = Cluster.draftOFED model.dumpOFED ↔ model.ofed.isSome = true :=
    ofed_eq_iff h.ofed
  have hrepositories := @selection_eq_iff model.enabledRepositories
  have hbundles := @selection_eq_iff model.enabledOpenHPCBundles
  have hqueue := @queueSystem_eq_iff model
  have htime := @timeservers_eq_iff (model.timezone.timeservers.headD "")
  have hprovisioner := @provisioner_eq model f.provisioner h.provisioner
  have hmail := @mailSystem_eq_iff host model model.dumpHostname f.mailSystem hl.postfixMail
    h.mailSystem
  constructor
  · intro ha
    have hcpus := ha.defaults
    rw [hdefaults, hdraft] at hcpus
    exact
      { nodes := hnodes
        networks := (h.networks_perm_iff hl).mp ha.networks
        kernel := hkernel.mp ha.computeNodeOS
        ofed := hofed.mp ha.ofed
        repositories := hrepositories.mp ha.repositories
        openHPCBundles := hbundles.mp ha.openHPCBundles
        queueSystem := hqueue.mp ha.queueSystem
        mailSystem := hmail.mp ha.mailSystem
        timeservers := htime.mp ha.timeservers
        cpus := congrArg Cluster.NodeDefaults.cpusPerNode hcpus }
  · intro ha
    have hcpus : (f.cluster host model.toAnswerFile.reloaded).nodeDefaults =
        ((f.resumption host model.toAnswerFile).cluster host model.toAnswerFile).nodeDefaults := by
      rw [hdefaults, hdraft, ← ha.cpus]
      rfl
    exact
      { networks := (h.networks_perm_iff hl).mpr ha.networks
        connections := h.connections_perm hl ha.networks
        computeNodeOS := hkernel.mpr ha.kernel
        provisioner := hprovisioner
        ofed := hofed.mpr ha.ofed
        repositories := hrepositories.mpr ha.repositories
        openHPCBundles := hbundles.mpr ha.openHPCBundles
        queueSystem := hqueue.mpr ha.queueSystem
        mailSystem := hmail.mpr ha.mailSystem
        timeservers := htime.mpr ha.timeservers
        defaults := hcpus
        nodes := congrArg (List.map Node.reading) hnone }

/-- A file with nodes fills a model whose nodes have no total of cores. -/
theorem cores_eq_zero {af : AnswerFile} (h : f.Sound host af) {node : Node} (hnode : node ∈ f.nodes) :
    node.cpu.cores = 0 := by
  obtain ⟨vs, -, hvs⟩ := h.exists_values
  rw [hvs] at hnode
  obtain ⟨v, -, rfl⟩ := List.mem_map.mp hnode
  rfl

end Filling.Sound

/-- A file that was written with nodes is loaded with nodes. -/
theorem nodes_ne_nil_of_load {path : String} {dryRun : Bool} {af : AnswerFile}
    (hload : loadOptions ⟨path, model.dumpData⟩ dryRun = .ok af) (hnodes : model.nodes ≠ []) :
    af.nodes.nodes ≠ [] := by
  obtain ⟨nodes, hn, rfl⟩ : ∃ nodes, loadNodes ⟨path, model.dumpData⟩ = .ok nodes ∧
      af.nodes = nodes := by
    unfold loadOptions at hload
    simp only [except_bind_ok] at hload
    obtain ⟨_, -, _, -, _, -, _, -, _, -, _, -, _, -, _, -, _, -, _, -, nodes, hn, _, -, _, -, _, -, _,
      -, _, -, h⟩ := hload
    exact ⟨nodes, hn, by rw [← Except.ok.inj h]⟩
  obtain ⟨generic, -, -, -, hsections, -⟩ := loadNodes_eq_ok.mp hn
  have hmem : nodeSection 1 ∈ nodeSections ⟨path, model.dumpData⟩ := by
    rw [mem_nodeSections (by decide) (by decide)]
    obtain ⟨node, rest, hcons⟩ := List.exists_cons_of_ne_nil hnodes
    have hfirst : model.toAnswerFile.nodes.nodes[0]? = some (Cluster.dumpNode node) := by
      simp [Cluster.toAnswerFile, hcons]
    exact (carries_dumpOptions_node model.toAnswerFile hfirst).hasGroup_eq
  intro hnil
  rw [hnil] at hsections
  rw [List.forall₂_nil_right_iff.mp hsections] at hmem
  cases hmem

end Agreement

/-- For a file that the model has written and that fills a model, the draft reader builds the
same one exactly when the model is `ReadAlike`. -/
theorem readersAgree_iff [Inet6] {host : Host} {model m : Cluster} {path : String}
    {af : AnswerFile} (hload : loadOptions ⟨path, model.dumpData⟩ host.dryRun = .ok af)
    (hfill : Cluster.fillData host af (Cluster.fresh host) = .ok m) :
    (∃ m', Cluster.applyDraftToModel host (some model.dumpData) (Cluster.fresh host) = .ok m' ∧
        ReadersAgree m m') ↔
      ReadAlike host model := by
  obtain ⟨f, h, rfl⟩ := Cluster.fillData_fresh.mp hfill
  by_cases hnodes : model.nodes = []
  · obtain ⟨hl, rfl⟩ := (loadOptions_dumpData (by simp [hnodes]) (by simp [hnodes])).mp hload
    have hcarries : DumpCarries model.dumpData model.toAnswerFile :=
      dumpCarries_dumpOptions (by simp [Cluster.toAnswerFile, hnodes])
    rw [← h.agree_iff_alike hl hnodes,
      Cluster.applyDraftToModel_carries hcarries (h.resumption hl hnodes)]
    simp
  · refine iff_of_false ?_ fun ha => hnodes ha.nodes
    rintro ⟨m', hdraft, ha⟩
    have hlength := (except_mapM_ok.mp h.nodes).length_eq
    have hne : f.nodes ≠ [] := by
      intro hnil
      rw [hnil] at hlength
      exact nodes_ne_nil_of_load hload hnodes (List.length_eq_zero_iff.mp hlength)
    obtain ⟨node, hnode⟩ := List.exists_mem_of_ne_nil _ hne
    -- The first reader leaves the total of the cores at zero, the second computes it.
    have hread : node.reading ∈ m'.nodes.map Node.reading := by
      rw [← ha.nodes]
      exact List.mem_map_of_mem hnode
    obtain ⟨node', hnode', heq⟩ := List.mem_map.mp hread
    have hcpu : node'.cpu = node.cpu := congrArg NodeReading.cpu heq
    exact Cluster.counted_applyDraftToModel hdraft node' hnode'
      (hcpu ▸ h.cores_eq_zero hnode)

/-! ## Two models -/

/-- A model with the two networks of `sampleHost` and no nodes. -/
def emptyModel : Cluster where
  name := "demo"
  companyName := "acme"
  adminMail := "root@acme.org"
  headnode :=
    { hostname := "head"
      fqdn := "head.cluster.local"
      os := sampleHost.os
      connections :=
        [{ profile := .Management
           interface := some "eth1"
           address := .v4 (ofOctets 192 168 1 1) },
          { profile := .External, interface := some "eth0", address := .v4 (ofOctets 10 0 0 2) }] }
  computeNodeOS := some sampleHost.os
  ofed := some { kind := .Inbox, version := "latest" }
  queueSystem := some (.SLURM "execution")
  timezone := { timezone := "UTC" }
  locale := "C"
  networks :=
    [{ profile := .Management
       kind := .Ethernet
       address := .v4 (ofOctets 192 168 1 0)
       subnetMask := .v4 (ofOctets 255 255 255 0)
       domainName := "cluster.local" },
      { profile := .External
        kind := .Ethernet
        address := .v4 (ofOctets 10 0 0 0)
        subnetMask := .v4 (ofOctets 255 255 255 0)
        domainName := "acme.org" }]
  diskImage := { path := "/image.iso" }
  nodePrefix := "n"
  nodePadding := 2
  nodeStartIP := .v4 (ofOctets 192 168 1 10)
  nodeRootPassword := "secret"
  nodeSockets := 1
  nodeCoresPerSocket := 2
  nodeThreadsPerCore := 1
  nodeCPUsPerNode := 2
  nodeRealMemory := 4096
  nodeBMCSerialSpeed := 9600

/-- What the file of a model is loaded as. -/
def writtenAnswerFile (model : Cluster) : AnswerFile :=
  @AnswerFile.reloaded plainInet6 (@Cluster.toAnswerFile plainInet6 model)

theorem readAlike_emptyModel : @ReadAlike plainInet6 sampleHost emptyModel := by
  refine @ReadAlike.mk plainInet6 _ _ rfl ?_ (by decide) rfl (by simp [emptyModel])
    (by simp [emptyModel]) ⟨_, rfl, by decide⟩ (by simp [emptyModel]) rfl rfl
  intro profile hpresent
  refine ⟨?_, ?_, fun _ => rfl⟩
  · rintro rfl
    exact hpresent rfl
  · cases profile <;> decide

theorem emptyModel_readersAgree :
    @loadOptions plainInet6 ⟨"copy.ini", @Cluster.dumpData plainInet6 emptyModel⟩ sampleHost.dryRun =
        .ok (writtenAnswerFile emptyModel) ∧
      @Cluster.fillData plainInet6 sampleHost (writtenAnswerFile emptyModel)
          (Cluster.fresh sampleHost) = .ok (sampleModel (writtenAnswerFile emptyModel)) ∧
      ∃ m', @Cluster.applyDraftToModel plainInet6 sampleHost
          (some (@Cluster.dumpData plainInet6 emptyModel)) (Cluster.fresh sampleHost) = .ok m' ∧
        ReadersAgree (sampleModel (writtenAnswerFile emptyModel)) m' := by
  have hload : @loadOptions plainInet6 ⟨"copy.ini", @Cluster.dumpData plainInet6 emptyModel⟩
      sampleHost.dryRun = .ok (writtenAnswerFile emptyModel) := by
    decide
  have hfill : @Cluster.fillData plainInet6 sampleHost (writtenAnswerFile emptyModel)
      (Cluster.fresh sampleHost) = .ok (sampleModel (writtenAnswerFile emptyModel)) := by
    decide
  exact ⟨hload, hfill, (@readersAgree_iff plainInet6 _ _ _ _ _ hload hfill).mpr readAlike_emptyModel⟩

/-- The same model with a node. -/
def oneNodeModel : Cluster :=
  { emptyModel with
    nodes :=
      [{ hostname := "n01"
         os := sampleHost.os
         cpu := { sockets := 1, cores := 2, threads := 2, coresPerSocket := 2, threadsPerCore := 1 }
         connections :=
           [{ profile := .Management
              mac := some "aa:bb:cc:dd:ee:01"
              address := .v4 (ofOctets 192 168 1 11) }]
         nodeStartIp := some (.v4 (ofOctets 192 168 1 11))
         macAddress := "aa:bb:cc:dd:ee:01"
         nodeRootPassword := some "secret" }] }

/-- The node has two cores for one reader and none for the other. -/
theorem oneNodeModel_readers_differ :
    @loadOptions plainInet6 ⟨"copy.ini", @Cluster.dumpData plainInet6 oneNodeModel⟩
        sampleHost.dryRun = .ok (writtenAnswerFile oneNodeModel) ∧
      @Cluster.fillData plainInet6 sampleHost (writtenAnswerFile oneNodeModel)
          (Cluster.fresh sampleHost) = .ok (sampleModel (writtenAnswerFile oneNodeModel)) ∧
      ¬ ∃ m', @Cluster.applyDraftToModel plainInet6 sampleHost
          (some (@Cluster.dumpData plainInet6 oneNodeModel)) (Cluster.fresh sampleHost) = .ok m' ∧
        ReadersAgree (sampleModel (writtenAnswerFile oneNodeModel)) m' := by
  refine ⟨by decide, by decide, ?_⟩
  rintro ⟨m', hdraft, hagree⟩
  have hcores : (@Cluster.applyDraftToModel plainInet6 sampleHost
      (some (@Cluster.dumpData plainInet6 oneNodeModel)) (Cluster.fresh sampleHost)).map
        (fun m => m.nodes.map fun node => node.cpu.cores) = .ok [2] := by
    decide
  have hnone : (sampleModel (writtenAnswerFile oneNodeModel)).nodes.map
      (fun node => node.cpu.cores) = [0] := by
    decide
  rw [hdraft] at hcores
  have htwo : m'.nodes.map (fun node => node.cpu.cores) = [2] := Except.ok.inj hcores
  have hsame := congrArg (List.map fun reading => reading.cpu.cores) hagree.nodes
  rw [List.map_map, List.map_map] at hsame
  exact absurd (hnone.symm.trans (hsame.trans htwo)) (by decide)

end OpenCattus
