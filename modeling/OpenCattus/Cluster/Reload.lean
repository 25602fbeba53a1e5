import OpenCattus.Cluster.NodeReload

/-!
# Loading what a filled model writes

For a model that `fillData` built from a loaded answerfile: when its dump is accepted
(`loadable_cluster`), which record it is loaded as, and when that record fills a model
again (`sound_again`).
-/

namespace OpenCattus

open Foundations Foundations.Text Foundations.Inet

variable [Inet6] {host : Host} {af : AnswerFile} {f : Filling}

/-! ## The networks -/

namespace Filling

omit [Inet6] in
theorem filter_networks (f : Filling) (profile : Network.Profile) :
    f.networks.filter (·.profile = profile) =
      ((f.link profile).map (Link.network profile)).toList := by
  cases profile <;> cases hs : f.service <;> cases ha : f.application <;>
    simp [networks, profiles, link, hs, ha, Link.network]

omit [Inet6] in
theorem getConnection_cluster (f : Filling) (profile : Network.Profile) :
    (f.cluster host af).headnode.getConnection profile =
      (f.link profile).map (Link.connection profile) := by
  cases profile <;> cases hs : f.service <;> cases ha : f.application <;>
    simp [Headnode.getConnection, cluster, Cluster.setDefaults, connections, profiles, link, hs, ha,
      Link.connection]

theorem networkField_cluster (f : Filling) (profile : Network.Profile) :
    (f.cluster host af).toAnswerFile.networkField profile =
      ((f.link profile).map Link.written).getD {} := by
  rw [networkField_toAnswerFile (f.filter_networks profile)]
  cases hlink : f.link profile with
  | none => rfl
  | some link =>
    have hconnection : (f.cluster host af).headnode.getConnection profile = _ :=
      f.getConnection_cluster profile
    rw [hlink] at hconnection
    exact Link.dumpNetworkField_eq_written hconnection

/-- The section of a profile gives or leaves out what settles its link. -/
theorem Sound.link (h : f.Sound host af) {profile : Network.Profile} {link : Link}
    (hlink : f.link profile = some link) :
    link.Settles host profile (af.networkField profile) ∧ link.Valid host := by
  cases profile with
  | Management =>
    obtain rfl := Option.some.inj hlink
    exact h.management
  | External =>
    obtain rfl := Option.some.inj hlink
    exact h.external
  | Service =>
    have hs := h.service
    rw [show f.service = some link from hlink] at hs
    exact hs
  | Application =>
    have hs := h.application
    rw [show f.application = some link from hlink] at hs
    exact hs

theorem Sound.link_eq_none (h : f.Sound host af) {profile : Network.Profile}
    (hlink : f.link profile = none) : (af.networkField profile).conInterface = none := by
  cases profile with
  | Management => cases hlink
  | External => cases hlink
  | Service =>
    have hs := h.service
    rw [show f.service = none from hlink] at hs
    exact hs
  | Application =>
    have hs := h.application
    rw [show f.application = none from hlink] at hs
    exact hs

/-- A profile has a link exactly when its section names an interface. -/
theorem Sound.link_isSome (h : f.Sound host af) (profile : Network.Profile) :
    (f.link profile).isSome = (af.networkField profile).conInterface.isSome := by
  cases hlink : f.link profile with
  | none => rw [h.link_eq_none hlink]; rfl
  | some link => rw [(h.link hlink).1.interface]; rfl

/-! ## The nodes -/

/-- The values of the nodes, in order. -/
theorem Sound.exists_values (h : f.Sound host af) :
    ∃ vs : List Cluster.NodeValues, List.Forall₂ (fun a v => Cluster.NodeValues.Of a v)
        af.nodes.nodes vs ∧ f.nodes = vs.map (·.node f.nodeOS) := by
  have hnodes := except_mapM_ok.mp h.nodes
  generalize af.nodes.nodes = as at hnodes
  generalize f.nodes = ns at hnodes
  induction hnodes with
  | nil => exact ⟨[], .nil, rfl⟩
  | cons hnode _ ih =>
    obtain ⟨vs, hvs, rfl⟩ := ih
    obtain ⟨v, hv, rfl⟩ := Cluster.fillNode_eq_ok.mp hnode
    exact ⟨v :: vs, .cons hv hvs, rfl⟩

end Filling

omit [Inet6] in
/-- Lists whose elements correspond have the same images. -/
theorem flatMap_eq_of_forall₂ {α β γ : Type} {R : α → β → Prop} {as : List α} {bs : List β}
    {g : α → List γ} {k : β → List γ} (h : List.Forall₂ R as bs)
    (heq : ∀ a b, R a b → g a = k b) : as.flatMap g = bs.flatMap k := by
  induction h with
  | nil => rfl
  | cons hab _ ih => rw [List.flatMap_cons, List.flatMap_cons, heq _ _ hab, ih]

omit [Inet6] in
theorem map_eq_of_forall₂ {α β γ : Type} {R : α → β → Prop} {as : List α} {bs : List β}
    {g : α → γ} {k : β → γ} (h : List.Forall₂ R as bs) (heq : ∀ a b, R a b → g a = k b) :
    as.map g = bs.map k := by
  rw [List.map_eq_flatMap, List.map_eq_flatMap]
  exact flatMap_eq_of_forall₂ h fun a b hab => by rw [heq a b hab]

omit [Inet6] in
/-- The only element with its key. -/
theorem filter_of_nodup_map {α κ : Type} [DecidableEq κ] (key : α → κ) {l : List α} {a : α}
    (hnodup : (l.map key).Nodup) (ha : a ∈ l) : l.filter (key · = key a) = [a] := by
  induction l with
  | nil => cases ha
  | cons b l ih =>
    rw [List.map_cons, List.nodup_cons] at hnodup
    rcases List.mem_cons.mp ha with rfl | hmem
    · have hrest : l.filter (key · = key a) = [] := by
        rw [List.filter_eq_nil_iff]
        intro c hc hkey
        exact hnodup.1 (List.mem_map.mpr ⟨c, hc, of_decide_eq_true hkey⟩)
      rw [List.filter_cons_of_pos (by simp), hrest]
    · have hne : key b ≠ key a := fun heq => hnodup.1 (heq ▸ List.mem_map_of_mem hmem)
      rw [List.filter_cons_of_neg (by simpa using hne)]
      exact ih hnodup.2 hmem

omit [Inet6] in
theorem exists_of_forall₂ {α β : Type} {R : α → β → Prop} {as : List α} {bs : List β} {b : β}
    (h : List.Forall₂ R as bs) (hb : b ∈ bs) : ∃ a ∈ as, R a b := by
  induction h with
  | nil => cases hb
  | @cons a c as cs hac _ ih =>
    rcases List.mem_cons.mp hb with rfl | hb
    · exact ⟨a, List.mem_cons_self .., hac⟩
    · obtain ⟨d, hd, hdb⟩ := ih hb
      exact ⟨d, List.mem_cons_of_mem _ hd, hdb⟩

/-- Rereading keeps what the inventory check looks at. -/
theorem distinctInventory_reread {as : List AFNode} {vs : List Cluster.NodeValues} {os : OS}
    {rootPassword : Option String} (h : List.Forall₂ (fun a v => Cluster.NodeValues.Of a v) as vs)
    (hdistinct : DistinctInventory as) :
    DistinctInventory ((vs.map (·.node os)).map (·.reread rootPassword)) := by
  obtain ⟨hhosts, hmacs, haddresses⟩ := hdistinct
  refine ⟨?_, ?_, ?_⟩
  · rw [flatMap_eq_of_forall₂ h (k := fun v => remembered (some v.hostname))
      fun a v hv => by rw [hv.hostname]] at hhosts
    simpa [List.flatMap_map, Node.reread, Cluster.NodeValues.node] using hhosts
  · rw [flatMap_eq_of_forall₂ h (k := fun v => remembered (some (lower v.macAddress)))
      fun a v hv => by
        obtain ⟨mac, hmac, -, hlower⟩ := hv.macAddress
        rw [hmac, hlower, lower_lower]
        rfl] at hmacs
    simpa [List.flatMap_map, Node.reread, Cluster.NodeValues.node] using hmacs
  · have hbmc : ∀ a v, Cluster.NodeValues.Of a v →
        remembered a.bmcAddress = remembered (v.bmc.map (·.address)) := by
      intro a v hv
      have his := hv.bmc
      cases hb : v.bmc with
      | none =>
        rw [hb] at his
        cases ha : a.bmcAddress with
        | none => rfl
        | some text =>
          have htext : text = "" := by simpa [Cluster.IsBMC, ha, hasText] using his
          simp [remembered, htext]
      | some bmc =>
        rw [hb] at his
        rw [his.1.1]
        rfl
    rw [flatMap_eq_of_forall₂ h (k := fun v =>
        remembered (nodeAddressText { startIp := some v.startIp }) ++
          remembered (v.bmc.map (·.address))) fun a v hv => by
        rw [occupiedAddresses, hbmc a v hv, nodeAddressText, hv.startIp.1]
        rfl] at haddresses
    simpa [List.flatMap_map, Function.comp_def, Node.reread, Cluster.NodeValues.node,
      occupiedAddresses, nodeAddressText] using haddresses

/-! ## Services -/

omit [Inet6] in
/-- The mail system is written as it was read. -/
theorem dumpPostfix_mailSystemOf {names : AFHostname} {mail : AFPostfix} {cluster : Cluster}
    (hself : mail.reloaded = mail) (hloadable : mail.Loadable)
    (h : Cluster.mailSystemOf names mail = .ok cluster.mailSystem) : cluster.dumpPostfix = mail := by
  obtain ⟨enabled, destination, profile, smtp, certFile, keyFile⟩ := mail
  have hport : ∀ {port : Nat}, isPort port → port % 65536 = port := by
    intro port hp
    have hle : port ≤ 65535 := hp.2
    exact Nat.mod_eq_of_lt (by omega)
  have hsmtp := congrArg AFPostfix.smtp hself
  cases enabled with
  | false =>
    have hnone : cluster.mailSystem = none := (Except.ok.inj h).symm
    rw [← hself]
    simp [Cluster.dumpPostfix, hnone, AFPostfix.reloaded]
  | true =>
    obtain ⟨m, hm, hmail⟩ := except_bind_ok_pure.mp h
    cases profile with
    | Local =>
      obtain rfl : none = smtp := hsmtp
      obtain rfl := Except.ok.inj hm
      simp [Cluster.dumpPostfix, hmail, Cluster.dumpSMTP]
    | Relay =>
      obtain ⟨⟨server, port, sasl⟩, rfl, hp⟩ := hloadable rfl
      obtain rfl : none = sasl := by simpa [AFPostfix.reloaded] using hsmtp
      obtain rfl := Except.ok.inj hm
      simp [Cluster.dumpPostfix, hmail, Cluster.dumpSMTP, hport hp]
    | SASL =>
      obtain ⟨⟨server, port, sasl⟩, rfl, hp, hsome⟩ := hloadable rfl
      obtain ⟨sasl, rfl⟩ := Option.isSome_iff_exists.mp hsome
      obtain rfl := Except.ok.inj hm
      simp [Cluster.dumpPostfix, hmail, Cluster.dumpSMTP, hport hp]

omit [Inet6] in
theorem normalizeOFEDKind_lower_toText (kind : OFED.Kind) :
    normalizeOFEDKind (lower (Enumeration.toText kind)) = some (lower (Enumeration.toText kind)) := by
  cases kind <;> decide

omit [Inet6] in
/-- A normalised kind is the lower case name of the kind it is parsed as. -/
theorem lower_toText_of_parseOFEDKind {text : String} {kind : OFED.Kind}
    (hnormal : normalizeOFEDKind text = some text) (h : Cluster.parseOFEDKind text = some kind) :
    lower (Enumeration.toText kind) = text := by
  unfold normalizeOFEDKind at hnormal
  dsimp only at hnormal
  split at hnormal
  · rename_i hmellanox
    obtain rfl := Option.some.inj hnormal
    exact absurd hmellanox (by decide)
  · rename_i hmellanox
    split at hnormal
    · have hlower : lower text = text := Option.some.inj hnormal
      unfold Cluster.parseOFEDKind at h
      rw [if_neg hmellanox] at h
      exact (Enumeration.ofStringOpt_eq_some.mp h).trans hlower
    · cases hnormal

namespace Filling.Sound

theorem dumpPostfix_cluster (h : f.Sound host af) (hloaded : af.Loaded) :
    (f.cluster host af).dumpPostfix = af.postfixMail :=
  dumpPostfix_mailSystemOf (congrArg AnswerFile.postfixMail hloaded.reloaded_eq)
    hloaded.loadable.postfixMail h.mailSystem

/-- OFED comes back as it was read, or as the inbox stack when it was not enabled. -/
theorem dumpOFED_cluster (h : f.Sound host af) (hloaded : af.Loaded) :
    (f.cluster host af).dumpOFED.Loadable ∧
      (f.cluster host af).dumpOFED.reloaded =
        if af.ofed.enabled then af.ofed
        else { kind := "inbox", version := some "latest", enabled := true } := by
  have hdump : (f.cluster host af).dumpOFED =
      { enabled := true, kind := lower (Enumeration.toText f.ofed.kind)
        version := some f.ofed.version } := rfl
  have hnormal := normalizeOFEDKind_lower_toText f.ofed.kind
  have hne : lower (Enumeration.toText f.ofed.kind) ≠ "" := (normalizeOFEDKind_normal hnormal).2
  rw [hdump]
  refine ⟨fun _ _ => ⟨by simp [hnormal], rfl⟩, ?_⟩
  have hofed := h.ofed
  unfold Cluster.ofedOf at hofed
  cases henabled : af.ofed.enabled with
  | false =>
    simp only [henabled, Bool.false_eq_true, if_false, Option.some.injEq] at hofed
    rw [← hofed]
    have hinbox : lower (Enumeration.toText OFED.Kind.Inbox) = "inbox" := by decide
    have hkind : normalizeOFEDKind "inbox" = some "inbox" := by decide
    simp [AFOFED.reloaded, hinbox, hkind]
  | true =>
    simp only [henabled, if_true, Option.bind_eq_some_iff, Option.map_eq_some_iff] at hofed
    obtain ⟨kind, hkind, version, hversion, hof⟩ := hofed
    have hself : af.ofed.reloaded = af.ofed := congrArg AnswerFile.ofed hloaded.reloaded_eq
    have hl := hloaded.loadable.ofed
    -- An enabled section that was loaded has a kind.
    have hkindne : af.ofed.kind ≠ "" := by
      intro hempty
      rw [AFOFED.reloaded, henabled, hempty] at hself
      have : af.ofed.enabled = false := by rw [← hself]; rfl
      simp [henabled] at this
    obtain ⟨normal, hn⟩ := Option.isSome_iff_exists.mp (hl henabled hkindne).1
    have hreload : af.ofed.reloaded =
        { kind := normal
          version := some (if version = "" then "latest" else version)
          enabled := true } := by
      simp [AFOFED.reloaded, henabled, hkindne, hn, hversion]
    rw [hself] at hreload
    have hnk : normal = af.ofed.kind := by rw [hreload]
    have hver : version ≠ "" := by
      intro hempty
      have : some version = some "latest" := by rw [← hversion, hreload]; simp [hempty]
      simp [hempty] at this
    have htext : lower (Enumeration.toText kind) = af.ofed.kind :=
      lower_toText_of_parseOFEDKind (by rw [hn, hnk]) hkind
    have hsame : ({ enabled := true, kind := lower (Enumeration.toText f.ofed.kind)
                    version := some f.ofed.version } : AFOFED) = af.ofed := by
      rw [← hof, htext, hreload, hnk]
      simp [hver]
    rw [hsame, hself]
    rfl

/-! ## Acceptance -/

theorem loadableGeneric_cluster (h : f.Sound host af) (hloaded : af.Loaded) :
    (f.cluster host af).dumpGenericNode.LoadableGeneric := by
  obtain ⟨generic, hgeneric, hl, -, -⟩ := hloaded.generic
  obtain ⟨generic', hgeneric', hd⟩ := h.defaults
  obtain rfl : generic = generic' := Option.some.inj (hgeneric.symm.trans hgeneric')
  have hdefault : ∀ {z : Bool} {value : Option String} {n : Nat},
      value.any (isUnsigned z) = true → stoul (value.getD "0") = .ok n →
        isUnsigned z (decimal n) = true := by
    intro z value n hany hn
    cases value with
    | none => simp at hany
    | some text => exact (stoul_of_isUnsigned hany hn).2
  exact
    { nodePrefix := rfl
      padding := Cluster.numberOf_of_isUnsigned hl.padding hd.padding
      startIp := rfl
      rootPassword := rfl
      sockets := Cluster.numberOf_of_isUnsigned hl.sockets hd.sockets
      coresPerSocket := Cluster.numberOf_of_isUnsigned hl.coresPerSocket hd.coresPerSocket
      cpusPerNode := Cluster.numberOf_of_isUnsigned hl.cpusPerNode hd.cpusPerNode
      threadsPerCore := Cluster.numberOf_of_isUnsigned hl.threadsPerCore hd.threadsPerCore
      realMemory := Cluster.numberOf_of_isUnsigned hl.realMemory hd.realMemory
      bmcUsername := rfl
      bmcPassword := rfl
      bmcSerialport := hdefault hl.bmcSerialport hd.bmcSerialPort
      bmcSerialspeed := hdefault hl.bmcSerialspeed hd.bmcSerialSpeed }

/-- Every written node is complete. -/
theorem complete (h : f.Sound host af) (hloaded : af.Loaded) {node : Node} (hnode : node ∈ f.nodes) :
    node.Complete ∧ node.hostname ≠ "" ∧ ∀ rootPassword : Option String,
      ResolvedNode (node.reread rootPassword) ↔ hasText rootPassword = true := by
  obtain ⟨vs, hvs, hnodes⟩ := h.exists_values
  rw [hnodes] at hnode
  obtain ⟨v, hv, rfl⟩ := List.mem_map.mp hnode
  obtain ⟨a, ha, hof⟩ := exists_of_forall₂ hvs hv
  have hresolved := hloaded.resolved ha
  refine ⟨v.complete hof hresolved, ?_, fun _ => v.resolvedNode_reread hof hresolved⟩
  have hname := (hloaded.named a ha).hostname
  rw [hof.hostname, hasText_some] at hname
  exact hname

/-- The nodes that the dump is loaded as. -/
theorem map_reloadedNode (h : f.Sound host af) (hloaded : af.Loaded) :
    (f.nodes.map Cluster.dumpNode).map
        (reloadedNode (f.cluster host af).dumpGenericNode.reloadedGeneric) =
      f.nodes.map (·.reread (some f.defaults.rootPassword)) := by
  rw [List.map_map]
  exact List.map_congr_left fun node hnode =>
    reloadedNode_dumpNode (h.complete hloaded hnode).1 rfl

theorem loadable_nodes (h : f.Sound host af) (hloaded : af.Loaded) :
    (f.cluster host af).toAnswerFile.nodes.Loadable ↔
      f.nodes = [] ∨ f.defaults.rootPassword ≠ "" := by
  have hnodes : (f.cluster host af).toAnswerFile.nodes =
      { generic := some (f.cluster host af).dumpGenericNode
        nodes := f.nodes.map Cluster.dumpNode } := rfl
  have hroot : (f.cluster host af).dumpGenericNode.reloadedGeneric.rootPassword =
      some f.defaults.rootPassword := rfl
  have hresolved : ∀ node ∈ f.nodes,
      (ResolvedNode (reloadedNode (f.cluster host af).dumpGenericNode.reloadedGeneric
        (Cluster.dumpNode node)) ↔ f.defaults.rootPassword ≠ "") := by
    intro node hnode
    obtain ⟨hcomplete, -, hiff⟩ := h.complete hloaded hnode
    rw [reloadedNode_dumpNode hcomplete rfl, hroot, hiff, hasText_some]
  rw [hnodes]
  constructor
  · intro hl
    cases hns : f.nodes with
    | nil => exact .inl rfl
    | cons node nodes =>
      have hmem : node ∈ f.nodes := by rw [hns]; exact List.mem_cons_self ..
      exact .inr ((hresolved node hmem).mp
        (hl.resolved _ rfl _ (List.mem_map_of_mem hmem)))
  · intro hok
    refine ⟨⟨_, rfl, h.loadableGeneric_cluster hloaded⟩, by simpa using h.size, ?_, ?_⟩
    · rintro _ ⟨⟩ _ hnode
      obtain ⟨node, hmem, rfl⟩ := List.mem_map.mp hnode
      rcases hok with hnil | hne
      · rw [hnil] at hmem
        cases hmem
      · exact (hresolved node hmem).mpr hne
    · rintro _ ⟨⟩
      rw [h.map_reloadedNode hloaded]
      obtain ⟨vs, hvs, heq⟩ := h.exists_values
      rw [heq]
      exact distinctInventory_reread hvs hloaded.distinct

theorem loadable_cluster (h : f.Sound host af) (hloaded : af.Loaded) :
    (f.cluster host af).toAnswerFile.Loadable ↔
      (∀ profile link, f.link profile = some link →
        gatewayInSubnet link.ip link.mask link.gateway = true) ∧
        (f.nodes = [] ∨ f.defaults.rootPassword ≠ "") := by
  have hfield : ∀ profile link, f.link profile = some link →
      (f.cluster host af).toAnswerFile.networkField profile = link.written := by
    intro profile link hlink
    rw [f.networkField_cluster, hlink]
    rfl
  have hoptional : ∀ profile, (f.link profile = none →
      (f.cluster host af).toAnswerFile.networkField profile = {}) := by
    intro profile hlink
    rw [f.networkField_cluster, hlink]
    rfl
  constructor
  · intro hl
    refine ⟨?_, (h.loadable_nodes hloaded).mp hl.nodes⟩
    intro profile link hlink
    obtain ⟨-, hv⟩ := h.link hlink
    have hnet : ((f.cluster host af).toAnswerFile.networkField profile).Loadable := by
      have hpresent : ((f.cluster host af).toAnswerFile.networkField profile).isPresent = true := by
        rw [hfield profile link hlink]
        exact link.written_isPresent
      cases profile with
      | External => exact hl.external
      | Management => exact hl.management
      | Service => exact hl.service hpresent
      | Application => exact hl.application hpresent
    rw [hfield profile link hlink] at hnet
    exact (Link.written_loadable hv).mp hnet
  · rintro ⟨hgateway, hnodes⟩
    have hnet : ∀ profile link, f.link profile = some link →
        ((f.cluster host af).toAnswerFile.networkField profile).Loadable := by
      intro profile link hlink
      rw [hfield profile link hlink]
      exact (Link.written_loadable (h.link hlink).2).mpr (hgateway profile link hlink)
    have hopt : ∀ profile,
        ((f.cluster host af).toAnswerFile.networkField profile).LoadableOptional := by
      intro profile hpresent
      cases hlink : f.link profile with
      | some link => exact hnet profile link hlink
      | none =>
        rw [hoptional profile hlink] at hpresent
        cases hpresent
    refine ⟨hnet .External _ rfl, hnet .Management _ rfl, hopt .Service, hopt .Application, ?_,
      (h.loadable_nodes hloaded).mpr hnodes, ?_, (h.dumpOFED_cluster hloaded).1, ?_⟩
    · have hsystem : (f.cluster host af).toAnswerFile.system.provisioner =
          if f.provisioner = .xCAT then "xcat" else "confluent" := rfl
      rw [AFSystem.Loadable, hsystem]
      cases f.provisioner <;> decide
    · change (f.cluster host af).dumpPostfix.Loadable
      rw [h.dumpPostfix_cluster hloaded]
      exact hloaded.loadable.postfixMail
    · change ((f.cluster host af).dumpSlurm.enabled && (f.cluster host af).dumpPBS.enabled) = false
      have hqueue : (f.cluster host af).queueSystem = some (Cluster.queueSystemOf af) := rfl
      unfold Cluster.dumpSlurm Cluster.dumpPBS
      rw [hqueue]
      cases Cluster.queueSystemOf af <;> rfl

end Filling.Sound

/-! ## Filling again -/

/-- The record that the dump of the filled model is loaded as. -/
def Filling.reread (host : Host) (af : AnswerFile) (f : Filling) : AnswerFile :=
  (f.cluster host af).toAnswerFile.reloaded

omit [Inet6] in
/-- The version text of the filled system denotes the version it came from. -/
theorem fillNodeOS_again {system again : AFSystem} {os : OS}
    (h : Cluster.fillNodeOS host system = .ok os) (hdistro : again.distro = os.distro)
    (hversion : again.version = os.getVersion) (hkernel : again.kernel = os.kernel) :
    Cluster.fillNodeOS host again = .ok os := by
  obtain ⟨platform, major, minor, hdenotes, rfl⟩ := Cluster.fillNodeOS_eq_ok.mp h
  refine Cluster.fillNodeOS_eq_ok.mpr ⟨platform, major, minor, ?_, ?_⟩
  · rw [hdistro, hversion]
    apply OS.denotes_getVersion
    · exact hdenotes.platform_eq
    · exact OS.parseMinorVersion_lt hdenotes.minor_eq
  · rw [hdistro, hkernel]
    cases system.kernel <;> cases host.os.kernel <;> rfl

omit [Inet6] in
/-- Whether a mail system can be filled does not depend on the names. -/
theorem exists_mailSystemOf {names names' : AFHostname} {mail : AFPostfix} {m : Option Postfix}
    (h : Cluster.mailSystemOf names mail = .ok m) :
    ∃ m', Cluster.mailSystemOf names' mail = .ok m' := by
  unfold Cluster.mailSystemOf at h ⊢
  split at h
  · rename_i henabled
    obtain ⟨p, hp, -⟩ := except_bind_ok_pure.mp h
    simp only [henabled, if_true]
    unfold Cluster.fillSMTP at hp ⊢
    cases hprofile : mail.profile with
    | Local => exact ⟨_, rfl⟩
    | Relay =>
      simp only [hprofile] at hp
      obtain ⟨smtp, hsmtp, -⟩ := except_bind_ok.mp hp
      exact ⟨_, by rw [hsmtp]; rfl⟩
    | SASL =>
      simp only [hprofile] at hp
      obtain ⟨smtp, hsmtp, hp⟩ := except_bind_ok.mp hp
      obtain ⟨sasl, hsasl, -⟩ := except_bind_ok.mp hp
      exact ⟨_, by simp only [hsmtp, except_ok_bind, hsasl]; rfl⟩
  · rename_i henabled
    exact ⟨none, by rw [if_neg henabled]⟩

namespace Filling.Sound

theorem networkField_reread (_ : f.Sound host af) (profile : Network.Profile) :
    (f.reread host af).networkField profile =
      ((f.link profile).map fun link => link.written.reloaded).getD {} := by
  have hfield : (f.cluster host af).toAnswerFile.networkField profile = _ :=
    f.networkField_cluster profile
  have hreload : ∀ field : AFNetwork, field = ((f.link profile).map Link.written).getD {} →
      field.reloadedOptional = ((f.link profile).map fun link => link.written.reloaded).getD {} := by
    rintro _ rfl
    cases f.link profile with
    | none => rfl
    | some link => simp [AFNetwork.reloadedOptional, link.written_isPresent]
  cases profile with
  | Service => exact hreload _ hfield
  | Application => exact hreload _ hfield
  | External => exact congrArg AFNetwork.reloaded hfield
  | Management => exact congrArg AFNetwork.reloaded hfield

theorem nodes_reread (h : f.Sound host af) (hloaded : af.Loaded) :
    (f.reread host af).nodes =
      { generic := some (f.cluster host af).dumpGenericNode
        nodes := f.nodes.map (·.reread (some f.defaults.rootPassword)) } := by
  have hnodes := h.map_reloadedNode hloaded
  change AFNodes.reloaded ⟨some _, f.nodes.map Cluster.dumpNode⟩ = _
  simp only [AFNodes.reloaded, Option.map_some, Option.getD_some, hnodes]
  rfl

/-- The generic node is read back as the numbers it was filled with. -/
theorem defaults_again (h : f.Sound host af) :
    f.defaults.Of (f.cluster host af).dumpGenericNode := by
  obtain ⟨generic, -, hd⟩ := h.defaults
  have hnumber : ∀ {value : Option String} {n : Nat}, Cluster.numberOf value = .ok n →
      Cluster.numberOf (some (decimal n)) = .ok n := by
    intro value n hn
    obtain ⟨text, -, hstoul⟩ := Cluster.numberOf_eq_ok.mp hn
    exact Cluster.numberOf_eq_ok.mpr ⟨_, rfl, stoul_decimal (stoul_lt hstoul)⟩
  exact
    { nodePrefix := rfl
      padding := hnumber hd.padding
      startIP := rfl
      rootPassword := rfl
      sockets := hnumber hd.sockets
      coresPerSocket := hnumber hd.coresPerSocket
      threadsPerCore := hnumber hd.threadsPerCore
      cpusPerNode := hnumber hd.cpusPerNode
      realMemory := hnumber hd.realMemory
      bmcUsername := rfl
      bmcPassword := rfl
      bmcSerialPort := stoul_decimal (stoul_lt hd.bmcSerialPort)
      bmcSerialSpeed := stoul_decimal (stoul_lt hd.bmcSerialSpeed) }

/-- Filling the reread nodes gives the nodes again, with the generic root password. -/
theorem mapM_fillNode_reread (h : f.Sound host af) (os : OS) (link : Link) :
    ∃ vs : List Cluster.NodeValues, List.Forall₂ (fun a v => Cluster.NodeValues.Of a v)
        af.nodes.nodes vs ∧ f.nodes = vs.map (·.node f.nodeOS) ∧
      (f.nodes.map (·.reread (some f.defaults.rootPassword))).mapM
          (Cluster.fillNode os (link.network .Management)) =
        .ok (vs.map fun v => { v with rootPassword := f.defaults.rootPassword }.node os) := by
  obtain ⟨vs, hvs, hnodes⟩ := h.exists_values
  refine ⟨vs, hvs, hnodes, ?_⟩
  rw [hnodes, List.map_map, except_mapM_ok]
  clear hnodes
  generalize af.nodes.nodes = as at hvs
  induction hvs with
  | nil => exact .nil
  | cons hv _ ih =>
    exact .cons (Cluster.fillNode_eq_ok.mpr ⟨_, Cluster.NodeValues.of_reread hv _, rfl⟩) ih

theorem nameservers_ne_nil (hloaded : af.Loaded) (profile : Network.Profile) :
    (af.networkField profile).nameservers ≠ some [] := by
  have hoptional : ∀ {network : AFNetwork}, network.reloadedOptional = network →
      network.nameservers ≠ some [] := by
    intro network hself
    unfold AFNetwork.reloadedOptional at hself
    split at hself
    · exact OpenCattus.nameservers_ne_nil hself
    · rw [← hself]
      simp
  cases profile with
  | External => exact OpenCattus.nameservers_ne_nil (congrArg AnswerFile.external hloaded.reloaded_eq)
  | Management =>
    exact OpenCattus.nameservers_ne_nil (congrArg AnswerFile.management hloaded.reloaded_eq)
  | Service => exact hoptional (congrArg AnswerFile.service hloaded.reloaded_eq)
  | Application => exact hoptional (congrArg AnswerFile.application hloaded.reloaded_eq)

/-- A link that has a domain is settled again by its reread section. -/
theorem settlesOptional_again (h : f.Sound host af) (hloaded : af.Loaded)
    {profile : Network.Profile} (hdomain : ∀ link ∈ f.link profile, link.domain.isSome = true) :
    Link.SettlesOptional host profile ((f.reread host af).networkField profile)
      ((f.link profile).map Link.again) := by
  rw [h.networkField_reread]
  cases hlink : f.link profile with
  | none => rfl
  | some link =>
    obtain ⟨hs, hv⟩ := h.link hlink
    exact ⟨Link.settles_again hs hv (nameservers_ne_nil hloaded profile),
      (Link.valid_again hv).mpr (hdomain link hlink)⟩

/-- The reread record fills a model when the application network has a domain. -/
theorem exists_again (h : f.Sound host af) (hloaded : af.Loaded)
    (hdomain : ∀ link ∈ f.application, link.domain.isSome = true) :
    ∃ f' : Filling, f'.Sound host (f.reread host af) := by
  have hsome : ∀ profile, ∀ link ∈ f.link profile, link.domain.isSome = true := by
    intro profile link hlink
    by_cases happ : profile = .Application
    · subst happ
      exact hdomain link hlink
    · exact (h.link hlink).1.domain_isSome happ
  have hsettles := fun profile => h.settlesOptional_again hloaded (hsome profile)
  obtain ⟨vs, -, hvs, hmap⟩ := h.mapM_fillNode_reread f.nodeOS f.management.again
  have hmail : (f.reread host af).postfixMail = af.postfixMail := by
    have hdump := h.dumpPostfix_cluster hloaded
    change (f.cluster host af).dumpPostfix.reloaded = _
    rw [hdump]
    exact congrArg AnswerFile.postfixMail hloaded.reloaded_eq
  obtain ⟨m, hm⟩ : ∃ m, Cluster.mailSystemOf (f.reread host af).hostname af.postfixMail = .ok m :=
    exists_mailSystemOf h.mailSystem
  have hnodes := h.nodes_reread hloaded
  refine ⟨⟨f.management.again, f.external.again, f.service.map Link.again,
    f.application.map Link.again, f.nodeOS, f.ofed, f.provisioner,
    vs.map fun v => { v with rootPassword := f.defaults.rootPassword }.node f.nodeOS, m, f.defaults⟩,
    hsettles .Management, hsettles .External, hsettles .Service, hsettles .Application, h.diskImage,
    fillNodeOS_again h.nodeOS rfl rfl rfl, ?_, ?_, h.support, ?_, ?_, ?_, ?_⟩
  · have hofed := h.ofed
    change Cluster.ofedOf (f.cluster host af).dumpOFED.reloaded = some f.ofed
    rw [(h.dumpOFED_cluster hloaded).2]
    cases henabled : af.ofed.enabled with
    | true => exact hofed
    | false =>
      simp only [Cluster.ofedOf, henabled, Bool.false_eq_true, if_false, Option.some.injEq] at hofed
      have hinbox : Cluster.parseOFEDKind "inbox" = some .Inbox := by decide
      rw [← hofed]
      simp [Cluster.ofedOf, hinbox]
  · change Cluster.selectedProvisioner (lower (if f.provisioner = .xCAT then "xcat" else "confluent")) =
      .ok f.provisioner
    cases f.provisioner <;> decide
  · rw [hnodes]
    exact hmap
  · have hsize := h.size
    rw [hvs] at hsize
    simpa using hsize
  · rw [hmail]
    exact hm
  · exact ⟨_, by rw [hnodes], h.defaults_again⟩

end Filling.Sound

end OpenCattus
