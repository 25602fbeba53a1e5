import OpenCattus.Questionnaire.Nodes
import OpenCattus.Session.Agreement

/-!
# The topology of a CPU

The checked constructor of `CPU` multiplies machine words, and `fillData` does not use it. So a
CPU is a real topology only when the product of the three numbers is a word
(`real_ofTopology_iff`), and never in a node that was read from an answerfile.

`realTopologies_iff` puts the three ways in which nodes are made together.
-/

namespace OpenCattus

open Foundations Foundations.Text Foundations.Inet Program Dialog

/-! ## One CPU -/

namespace CPU

/-- The totals are those of the three numbers, and none is zero. -/
structure Real (cpu : CPU) : Prop where
  sockets : 0 < cpu.sockets
  coresPerSocket : 0 < cpu.coresPerSocket
  threadsPerCore : 0 < cpu.threadsPerCore
  cores : cpu.cores = cpu.sockets * cpu.coresPerSocket
  threads : cpu.threads = cpu.cores * cpu.threadsPerCore

variable {cpu : CPU} {sockets coresPerSocket threadsPerCore : Nat}

theorem mod_sizeLimit_iff {n : Nat} : n % sizeLimit = n ↔ n < sizeLimit :=
  Nat.mod_eq_iff_lt (by decide)

/-- What passes the constructor is real when nothing was cut off. -/
theorem real_ofTopology_iff (h : ofTopology sockets coresPerSocket threadsPerCore = .ok cpu) :
    cpu.Real ↔ sockets * coresPerSocket * threadsPerCore < sizeLimit := by
  obtain ⟨hsockets, hcoresPerSocket, hthreadsPerCore, rfl⟩ := ofTopology_eq_ok h
  have hproduct : threadsPerCore * coresPerSocket * sockets =
      sockets * coresPerSocket * threadsPerCore := by
    rw [mul_comm, mul_comm threadsPerCore, mul_assoc]
  constructor
  · intro hreal
    have hcores : coresPerSocket * sockets % sizeLimit = sockets * coresPerSocket := hreal.cores
    have hthreads : threadsPerCore * coresPerSocket * sockets % sizeLimit =
        coresPerSocket * sockets % sizeLimit * threadsPerCore := hreal.threads
    rw [hcores, hproduct] at hthreads
    exact mod_sizeLimit_iff.mp hthreads
  · intro hlt
    have hcores : sockets * coresPerSocket < sizeLimit :=
      lt_of_le_of_lt (Nat.le_mul_of_pos_right _ hthreadsPerCore) hlt
    refine ⟨hsockets, hcoresPerSocket, hthreadsPerCore, ?_, ?_⟩
    · rw [mul_comm coresPerSocket]
      exact mod_sizeLimit_iff.mpr hcores
    · show threadsPerCore * coresPerSocket * sockets % sizeLimit =
        coresPerSocket * sockets % sizeLimit * threadsPerCore
      rw [hproduct, mul_comm coresPerSocket, mod_sizeLimit_iff.mpr hcores, mod_sizeLimit_iff.mpr hlt]

end CPU

/-! ## The whole model -/

/-- Every node has a real CPU, and the generic number of CPUs is the product. -/
structure Cluster.RealTopologies (model : Cluster) : Prop where
  nodes : ∀ node ∈ model.nodes, node.cpu.Real
  generic : model.nodeCPUsPerNode =
    model.nodeSockets * model.nodeCoresPerSocket * model.nodeThreadsPerCore

/-- How a model with nodes comes about. -/
inductive Construction where
  | filled (af : AnswerFile)
  | drafted (kd : KeyData)
  | entered (s : Session Cluster)

variable [Inet6]

namespace Construction

def Produces (host : Host) : Construction → Cluster → Prop
  | filled af, model =>
    (∃ kf, loadOptions kf host.dryRun = .ok af) ∧
      Cluster.fillData host af (Cluster.fresh host) = .ok model
  | drafted kd, model => Cluster.applyDraftToModel host (some kd) (Cluster.fresh host) = .ok model
  | entered s, model => ∃ s', Returns presenterNodes s () s' ∧ s'.model = model

/-- An answerfile has no nodes, and its number of CPUs is the product. Elsewhere the product of
every topology is a word. -/
def Fits (host : Host) : Construction → Prop
  | filled af =>
    af.nodes.nodes = [] ∧ ∀ generic d, af.nodes.generic = some generic →
      Cluster.NodeDefaults.Of generic d →
        d.cpusPerNode = d.sockets * d.coresPerSocket * d.threadsPerCore
  | drafted kd =>
    ∀ before, Cluster.draftBeforeNodes host kd = .ok before →
      let model := Cluster.applyGenericNode kd before
      model.nodeSockets * model.nodeCoresPerSocket * model.nodeThreadsPerCore < sizeLimit ∧
        ∀ nodeSection ∈ kd.prefixed "node.", ∀ v,
          Cluster.draftNodeValues kd nodeSection model = some v →
            v.sockets * v.coresPerSocket * v.threadsPerCore < sizeLimit
  | entered s =>
    (∀ node ∈ s.model.nodes, node.cpu.Real) ∧
      ∀ naming topology s', Returns nodeForms s (naming, topology) s' →
        topology.sockets * topology.coresPerSocket * topology.threadsPerCore < sizeLimit

end Construction

variable {host : Host} {model : Cluster}

/-! ### From an answerfile -/

theorem realTopologies_filled_iff {af : AnswerFile}
    (h : Cluster.fillData host af (Cluster.fresh host) = .ok model) :
    model.RealTopologies ↔ (Construction.filled af).Fits host := by
  obtain ⟨f, hf, rfl⟩ := Cluster.fillData_fresh.mp h
  obtain ⟨generic, hgeneric, hof⟩ := hf.defaults
  have hlength : f.nodes = [] ↔ af.nodes.nodes = [] := by
    have hall := except_mapM_ok.mp hf.nodes
    constructor
    · intro hnil
      rw [hnil] at hall
      exact List.forall₂_nil_right_iff.mp hall
    · intro hnil
      rw [hnil] at hall
      exact List.forall₂_nil_left_iff.mp hall
  constructor
  · rintro ⟨hnodes, hproduct⟩
    refine ⟨hlength.mp ?_, ?_⟩
    · refine List.eq_nil_iff_forall_not_mem.mpr ?_
      intro node hnode
      have hreal := hnodes node hnode
      have hpos := Nat.mul_pos hreal.sockets hreal.coresPerSocket
      have hzero := hf.cores_eq_zero hnode
      have hcores := hreal.cores
      omega
    · intro other d hother hd
      obtain rfl := Option.some.inj (hgeneric.symm.trans hother)
      have hcpus := Except.ok.inj (hof.cpusPerNode.symm.trans hd.cpusPerNode)
      have hsockets := Except.ok.inj (hof.sockets.symm.trans hd.sockets)
      have hcores := Except.ok.inj (hof.coresPerSocket.symm.trans hd.coresPerSocket)
      have hthreads := Except.ok.inj (hof.threadsPerCore.symm.trans hd.threadsPerCore)
      rw [← hcpus, ← hsockets, ← hcores, ← hthreads]
      exact hproduct
  · rintro ⟨hnil, hproduct⟩
    refine ⟨?_, hproduct generic f.defaults hgeneric hof⟩
    intro node hnode
    have hnodes : node ∈ f.nodes := hnode
    rw [hlength.mpr hnil] at hnodes
    cases hnodes

/-! ### From a draft -/

theorem cpusPerNode_applyGenericNode {kd : KeyData} {before : Cluster}
    (h : Cluster.draftBeforeNodes host kd = .ok before) :
    (Cluster.applyGenericNode kd before).nodeCPUsPerNode =
      (Cluster.applyGenericNode kd before).nodeSockets *
        (Cluster.applyGenericNode kd before).nodeCoresPerSocket *
        (Cluster.applyGenericNode kd before).nodeThreadsPerCore % sizeLimit := by
  have hkept := Cluster.inventory_draftBeforeNodes h
  unfold Cluster.applyGenericNode
  split
  · rfl
  · have hcpus : before.nodeCPUsPerNode = 0 := congrArg Cluster.Inventory.cpusPerNode hkept
    have hsockets : before.nodeSockets = 0 := congrArg Cluster.Inventory.sockets hkept
    rw [hcpus, hsockets, Nat.zero_mul, Nat.zero_mul, Nat.zero_mod]

theorem realTopologies_drafted_iff {kd : KeyData}
    (h : Cluster.applyDraftToModel host (some kd) (Cluster.fresh host) = .ok model) :
    model.RealTopologies ↔ (Construction.drafted kd).Fits host := by
  obtain ⟨before, nodes, hbefore, hnodes, hkept⟩ := Cluster.applyDraftToModel_inventory h
  have hmodel : model.nodes = nodes := congrArg Cluster.Inventory.nodes hkept
  have hcpus : model.nodeCPUsPerNode = _ := congrArg Cluster.Inventory.cpusPerNode hkept
  have hsockets : model.nodeSockets = _ := congrArg Cluster.Inventory.sockets hkept
  have hcores : model.nodeCoresPerSocket = _ := congrArg Cluster.Inventory.coresPerSocket hkept
  have hthreads : model.nodeThreadsPerCore = _ := congrArg Cluster.Inventory.threadsPerCore hkept
  have hproduct := CPU.mod_sizeLimit_iff (n := model.nodeSockets * model.nodeCoresPerSocket *
    model.nodeThreadsPerCore)
  have hcount : model.nodeCPUsPerNode = model.nodeSockets * model.nodeCoresPerSocket *
      model.nodeThreadsPerCore % sizeLimit := by
    rw [hcpus, hsockets, hcores, hthreads]
    exact cpusPerNode_applyGenericNode hbefore
  rw [← hcount] at hproduct
  constructor
  · rintro ⟨hreal, hgeneric⟩ other hother
    obtain rfl := Except.ok.inj (hbefore.symm.trans hother)
    refine ⟨?_, ?_⟩
    · have hlt := hproduct.mp hgeneric
      rw [hsockets, hcores, hthreads] at hlt
      exact hlt
    · intro nodeSection hsection v hv
      obtain ⟨node, hnode, hdrafted⟩ := hnodes.complete nodeSection hsection v hv
      exact (CPU.real_ofTopology_iff (Cluster.cpu_draftNode hdrafted)).mp
        (hreal node (hmodel ▸ hnode))
  · intro hfits
    obtain ⟨hgeneric, hsections⟩ := hfits before hbefore
    refine ⟨?_, hproduct.mpr ?_⟩
    · intro node hnode
      obtain ⟨nodeSection, hsection, v, hv, hdrafted⟩ := hnodes.drafted node (hmodel ▸ hnode)
      exact (CPU.real_ofTopology_iff (Cluster.cpu_draftNode hdrafted)).mpr
        (hsections nodeSection hsection v hv)
    · rw [hsockets, hcores, hthreads]
      exact hgeneric

/-! ### From the questionnaire -/

theorem realTopologies_entered_iff {s s' : Session Cluster} (h : Returns presenterNodes s () s') :
    s'.model.RealTopologies ↔ (Construction.entered s).Fits host := by
  obtain ⟨naming, topology, s₁, cpu, hforms, hcpu, hadds⟩ := returns_presenterNodes h
  obtain ⟨added, hnodes, hadded⟩ := hadds.nodes
  obtain ⟨quantity, hmodel⟩ := returns_nodeForms hforms
  have hbefore : s₁.model.nodes = s.model.nodes := by
    rw [hmodel]
    rfl
  have hproduct : s'.model.nodeSockets * s'.model.nodeCoresPerSocket * s'.model.nodeThreadsPerCore =
      topology.sockets * topology.coresPerSocket * topology.threadsPerCore := by
    rw [hadds.sockets, hadds.coresPerSocket, hadds.threadsPerCore, hmodel]
    rfl
  have hcount : s'.model.nodeCPUsPerNode =
      topology.sockets * topology.coresPerSocket * topology.threadsPerCore % sizeLimit := by
    rw [hadds.cpusPerNode, hmodel]
    rfl
  rw [hbefore] at hnodes
  constructor
  · rintro ⟨hreal, hgeneric⟩
    refine ⟨?_, ?_⟩
    · intro node hnode
      refine hreal node ?_
      rw [hnodes]
      exact List.mem_append_left _ hnode
    · intro naming' topology' s₂ hforms'
      obtain ⟨hpair, -⟩ := Returns.unique hforms hforms'
      obtain ⟨rfl, rfl⟩ := Prod.mk.inj hpair
      rw [hproduct, hcount] at hgeneric
      exact CPU.mod_sizeLimit_iff.mp hgeneric
  · rintro ⟨hold, hfits⟩
    have hlt := hfits naming topology s₁ hforms
    refine ⟨?_, ?_⟩
    · intro node hnode
      rw [hnodes] at hnode
      rcases List.mem_append.mp hnode with hnode | hnode
      · exact hold node hnode
      · rw [hadded node hnode]
        exact (CPU.real_ofTopology_iff hcpu).mpr hlt
    · rw [hproduct, hcount]
      exact CPU.mod_sizeLimit_iff.mpr hlt

/-- A model that was made in one of the three ways has real topologies if and only if its input
fits. -/
theorem realTopologies_iff {construction : Construction} (h : construction.Produces host model) :
    model.RealTopologies ↔ construction.Fits host := by
  cases construction with
  | filled af => exact realTopologies_filled_iff h.2
  | drafted kd => exact realTopologies_drafted_iff h
  | entered s =>
    obtain ⟨s', hreturns, rfl⟩ := h
    exact realTopologies_entered_iff hreturns

omit [Inet6]

theorem sampleAnswerFile_produces :
    @Construction.Produces plainInet6 sampleHost (.filled sampleAnswerFile)
      (sampleModel sampleAnswerFile) :=
  ⟨⟨sampleKeyFile, loadOptions_sampleKeyFile⟩, fillData_sampleAnswerFile⟩

theorem sampleModel_realTopologies_iff :
    (sampleModel sampleAnswerFile).RealTopologies ↔
      @Construction.Fits plainInet6 sampleHost (.filled sampleAnswerFile) :=
  @realTopologies_iff plainInet6 _ _ _ sampleAnswerFile_produces

/-- The node of an answerfile has no cores. -/
theorem sampleModel_topology_not_real :
    @Construction.Produces plainInet6 sampleHost (.filled sampleAnswerFile)
        (sampleModel sampleAnswerFile) ∧
      ¬ (sampleModel sampleAnswerFile).RealTopologies := by
  refine ⟨sampleAnswerFile_produces, ?_⟩
  rintro ⟨hreal, -⟩
  have hcounts : (sampleModel sampleAnswerFile).nodes.map (fun node => node.cpu.cores) = [0] := by
    decide
  obtain ⟨node, hnodes, hcores⟩ := List.map_eq_singleton_iff.mp hcounts
  have hcpu := hreal node (by rw [hnodes]; exact List.mem_singleton_self node)
  have hpos := Nat.mul_pos hcpu.sockets hcpu.coresPerSocket
  rw [← hcpu.cores, hcores] at hpos
  exact absurd hpos (by decide)

end OpenCattus
