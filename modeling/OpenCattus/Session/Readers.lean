import OpenCattus.Cluster.RoundTrip
import OpenCattus.Session.Resumed

/-!
# The two readers of a written file, section by section

A file that `dumpData` wrote can be loaded as an answerfile, which `fillData` turns into a
model, or it can be resumed by `applyDraftToModel`. The first reader is described by
`Filling` and the second by `Resumption`. This module compares them for each section, and
`Filling.Sound.resumption` says that the second reader accepts what the first one does.
-/

namespace OpenCattus

open Foundations Foundations.Text Foundations.Inet

/-! ## Lists that the readers split -/

theorem split_empty : split isListSeparator "" = [""] := by decide

/-- The first reader keeps empty pieces and the second drops them. -/
theorem splitValues_joinList_eq_iff {values : List String} :
    splitValues (joinList values) = respell values ↔ "" ∉ respell values := by
  unfold splitValues respell
  rw [List.filter_eq_self]
  constructor
  · intro h hmem
    simpa using h "" hmem
  · intro h value hvalue
    simpa using fun hempty : value = "" => h (hempty ▸ hvalue)

theorem empty_mem_respell {values : List String} (h : joinList values = "") :
    "" ∈ respell values := by
  rw [respell, h, split_empty]
  exact List.mem_singleton_self ""

/-- A list that is written, as both readers take it. -/
theorem some_eq_splitValues_iff {values : List String} :
    some (if joinList values = "" then [] else respell values) =
        (clearIfEmpty (some (joinList values))).map splitValues ↔
      "" ∉ respell values := by
  by_cases hjoin : joinList values = ""
  · simp [hjoin, unlessEmpty, empty_mem_respell hjoin]
  · rw [if_neg hjoin, clearIfEmpty_some, unlessEmpty_of_ne hjoin, Option.map_some,
      Option.some.injEq, eq_comm, splitValues_joinList_eq_iff]

theorem selection_eq_iff {enabled : Option (List String)} :
    reloadedList enabled = Cluster.draftSelection enabled ↔
      ∀ values ∈ enabled, "" ∉ respell values := by
  unfold reloadedList Cluster.draftSelection
  cases enabled with
  | none => simp
  | some values => simpa using some_eq_splitValues_iff

theorem some_eq_unlessEmpty_iff {text : String} : some text = unlessEmpty text ↔ text ≠ "" := by
  unfold unlessEmpty
  split <;> simp [*]

/-! ## Lists with one entry for a key -/

section Keyed

variable {κ α : Type} [DecidableEq κ] (key : α → κ) {g h : κ → Option α}

/-- The entries of one key. -/
theorem filter_filterMap_key {keys : List κ} (hnodup : keys.Nodup) {k : κ} (hk : k ∈ keys)
    (hg : ∀ k a, g k = some a → key a = k) :
    (keys.filterMap g).filter (key · = k) = (g k).toList := by
  have hother : ∀ {q : κ} {rest : List κ}, q ∉ rest →
      (rest.filterMap g).filter (key · = q) = [] := by
    intro q rest hq
    rw [List.filter_eq_nil_iff]
    intro a ha
    obtain ⟨q', hq', hga⟩ := List.mem_filterMap.mp ha
    simpa using fun heq : key a = q => hq (heq ▸ hg q' a hga ▸ hq')
  induction keys with
  | nil => cases hk
  | cons q rest ih =>
    obtain ⟨hq, hrest⟩ := List.nodup_cons.mp hnodup
    rw [filterMap_cons_toList, List.filter_append]
    by_cases heq : q = k
    · subst heq
      rw [hother hq, List.append_nil, List.filter_eq_self]
      intro a ha
      simpa using hg q a (by simpa using ha)
    · have hnone : (g q).toList.filter (key · = k) = [] := by
        rw [List.filter_eq_nil_iff]
        intro a ha
        simpa using fun hka : key a = k => heq ((hg q a (by simpa using ha)).symm.trans hka)
      rw [hnone, List.nil_append]
      exact ih hrest ((List.mem_cons.mp hk).resolve_left fun hkq => heq hkq.symm)

/-- Two lists with at most one entry for each key have the same entries exactly when they have
the same entry for each key. -/
theorem perm_filterMap_iff {keys keys' : List κ} (hperm : keys.Perm keys') (hnodup : keys.Nodup)
    (hall : ∀ k, k ∈ keys) (hg : ∀ k a, g k = some a → key a = k)
    (hh : ∀ k a, h k = some a → key a = k) :
    (keys.filterMap g).Perm (keys'.filterMap h) ↔ ∀ k, g k = h k := by
  constructor
  · intro hlists k
    have hfilter := hlists.filter (key · = k)
    rw [filter_filterMap_key key hnodup (hall k) hg,
      filter_filterMap_key key (hperm.nodup_iff.mp hnodup) (hperm.mem_iff.mp (hall k)) hh] at hfilter
    cases hgk : g k <;> cases hhk : h k <;> simp_all
  · intro hsame
    rw [funext hsame]
    exact hperm.filterMap h

end Keyed

/-! ## The sections of the networks -/

/-- The section has every value but interface, MAC address and nameservers. -/
structure AFNetwork.Complete (field : AFNetwork) : Prop where
  ip : field.conIpAddr.isSome = true
  mask : field.subnetMask.isSome = true
  gateway : field.gateway.isSome = true
  domain : field.domainName.isSome = true

theorem AFNetwork.Complete.ne_empty {field : AFNetwork} (h : field.Complete) : field ≠ {} := by
  rintro rfl
  cases h.mask

section Sections

variable [Inet6]

theorem complete_dumpNetworkField (headnode : Headnode) (field : AFNetwork) (network : Network) :
    (dumpNetworkField headnode field network).Complete := by
  unfold dumpNetworkField
  cases headnode.getConnection network.profile with
  | some connection => exact ⟨rfl, rfl, rfl, rfl⟩
  | none => exact ⟨rfl, rfl, rfl, rfl⟩

/-- A profile without a network is not written, any other one completely. -/
theorem networkField_complete (model : Cluster) (profile : Network.Profile) :
    model.toAnswerFile.networkField profile = {} ∨
      (model.toAnswerFile.networkField profile).Complete := by
  rw [networkField_toAnswerFile rfl]
  rcases List.eq_nil_or_concat' (model.networks.filter (·.profile = profile)) with
    hnil | ⟨networks, network, hconcat⟩
  · rw [hnil]
    exact .inl rfl
  · rw [hconcat, List.foldl_append]
    exact .inr (complete_dumpNetworkField _ _ _)

/-- How the section of a profile is loaded. -/
inductive LoadedSection (field loaded : AFNetwork) : Prop where
  | absent (hfield : field = {}) (hloaded : loaded = {})
  | present (hcomplete : field.Complete) (hinterface : field.conInterface.isSome = true)
      (hloaded : loaded = field.reloaded)

theorem loadedSection (model : Cluster) (h : model.toAnswerFile.Loadable)
    (profile : Network.Profile) :
    LoadedSection (model.toAnswerFile.networkField profile)
      (model.toAnswerFile.reloaded.networkField profile) := by
  have hrequired : ∀ {field : AFNetwork}, field.Loadable → field = {} ∨ field.Complete →
      LoadedSection field field.reloaded := by
    intro field hl hfield
    rcases hfield with rfl | hcomplete
    · exact absurd hl.interface (by simp)
    · exact .present hcomplete hl.interface rfl
  have hoptional : ∀ {field : AFNetwork}, field.LoadableOptional → field = {} ∨ field.Complete →
      LoadedSection field field.reloadedOptional := by
    intro field hl hfield
    rcases hfield with rfl | hcomplete
    · exact .absent rfl rfl
    · have hpresent : field.isPresent = true := by
        simp [AFNetwork.isPresent, networkEntries, KeyData.assigns, hcomplete.mask]
      refine .present hcomplete (hl hpresent).interface ?_
      rw [AFNetwork.reloadedOptional, if_pos hpresent]
  have hfield := networkField_complete model profile
  cases profile with
  | External => exact hrequired h.external hfield
  | Management => exact hrequired h.management hfield
  | Service => exact hoptional h.service hfield
  | Application => exact hoptional h.application hfield

/-! ## Links -/

namespace Link

/-- What the draft reader takes of the section that settled a link: an empty domain name and
missing nameservers are not looked up. -/
def draftLink (field : AFNetwork) (link : Link) : Link :=
  { link with
    domain := clearIfEmpty field.domainName
    nameservers := if field.nameservers.getD [] = [] then [] else link.nameservers }

variable {host : Host} {profile : Network.Profile} {field : AFNetwork} {link : Link}

omit [Inet6] in
theorem parseAddress_empty [Inet6] {a : Address} : Network.parseAddress "" ≠ .ok a := by
  have hv4 : parseV4 "" = none := by decide
  have hpton : Inet6.pton "" = none := pton_eq_none (by simp)
  simp [Network.parseAddress, makeAddress, hpton, hv4]

theorem draftNameservers_of_parse {values : List String} {nameservers : List Address}
    (hne : values ≠ []) (hgiven : field.nameservers = some values)
    (hparse : (respell values).mapM Network.parseAddress = .ok nameservers) :
    draftNameservers field = .ok nameservers := by
  have hnot : "" ∉ respell values := by
    intro hmem
    obtain ⟨a, -, ha⟩ := exists_of_forall₂ (except_mapM_ok.mp hparse).flip hmem
    exact parseAddress_empty ha
  have hjoin : joinList values ≠ "" := fun hempty => hnot (empty_mem_respell hempty)
  simp [draftNameservers, hgiven, unlessNil, hne, unlessEmpty_of_ne hjoin,
    splitValues_joinList_eq_iff.mpr hnot, hparse]

/-- A given value is settled as it is, whatever the profile. -/
theorem Settles.given (hs : link.Settles host profile field.reloaded) (h : field.Complete) :
    field.conIpAddr = some link.ip ∧ field.subnetMask = some link.mask ∧
      field.gateway = some link.gateway := by
  obtain ⟨ip, hip⟩ := Option.isSome_iff_exists.mp h.ip
  obtain ⟨mask, hmask⟩ := Option.isSome_iff_exists.mp h.mask
  obtain ⟨gateway, hgateway⟩ := Option.isSome_iff_exists.mp h.gateway
  have h₁ := hs.ip
  have h₂ := hs.mask
  have h₃ := hs.gateway
  simp only [gatewaySource, AFNetwork.reloaded, hgateway, Option.getD_some] at h₃
  refine ⟨?_, ?_, by rw [h₃, hgateway]⟩
  · cases profile <;> simpa [addressSource, Cluster.externalAddress, AFNetwork.reloaded, hip] using h₁
  · cases profile <;> simpa [maskSource, maskOf, AFNetwork.reloaded, hmask] using h₂

/-- A name that is not empty is never looked up. -/
theorem Settles.domain_given (hs : link.Settles host profile field.reloaded) {domain : String}
    (hgiven : field.domainName = some domain) (hne : domain ≠ "") : link.domain = some domain := by
  have h := hs.domain
  cases profile <;>
    simpa [domainSource, domainOf, AFNetwork.reloaded, hgiven, hne, derefOf, valueOf, Except.map,
      eq_comm] using h

theorem Settles.requested (hs : link.Settles host profile field.reloaded) (h : field.Complete) :
    (draftLink field link).Requested field := by
  obtain ⟨hip, hmask, hgateway⟩ := hs.given h
  refine ⟨hs.interface, hip, Option.some.inj hs.mac, hmask, by rw [hgateway]; rfl, rfl, ?_⟩
  rcases hgiven : field.nameservers with _ | values
  · simp [draftNameservers, draftLink, hgiven]
  · by_cases hne : values = []
    · simp [draftNameservers, draftLink, hgiven, hne, unlessNil]
    · have hparse : (respell values).mapM Network.parseAddress = .ok link.nameservers := by
        have hns := hs.nameservers
        cases profile <;>
          simpa [nameserversSource, nameserversOf, AFNetwork.reloaded, hgiven, hne] using hns
      rw [draftNameservers_of_parse hne hgiven hparse]
      simp [draftLink, hgiven, hne]

theorem Valid.draftLink (hv : link.Valid host) (hs : link.Settles host profile field.reloaded) :
    (draftLink field link).Valid host := by
  refine ⟨hv.interface, hv.mac, hv.mask, hv.subnet, ?_⟩
  intro domain hdomain
  have hfilter : field.domainName = some domain ∧ domain ≠ "" := by
    simpa [Link.draftLink, clearIfEmpty] using hdomain
  exact hv.domain domain (hs.domain_given hfilter.1 hfilter.2)

/-- The section leaves nothing to look up, and its profile has one kind of network. -/
structure SaysAll (host : Host) (profile : Network.Profile) (field : AFNetwork) : Prop where
  ethernet : profile ≠ .Application
  domain : profile = .External ∨ profile = .Service → field.domainName ≠ some ""
  nameservers : field.nameservers.getD [] = [] → host.fetchNameservers = .ok []

theorem Settles.domain_eq_iff (hs : link.Settles host profile field.reloaded)
    (hv : link.Valid host) (h : field.Complete) :
    link.domain.getD "" = (clearIfEmpty field.domainName).getD "" ↔
      (profile = .External ∨ profile = .Service → field.domainName ≠ some "") := by
  obtain ⟨given, hgiven⟩ := Option.isSome_iff_exists.mp h.domain
  have hiff := hs.domain_iff hv
  rw [Cluster.getD_clearIfEmpty, hgiven, Option.getD_some]
  simpa [AFNetwork.reloaded, hgiven] using hiff

theorem Settles.nameservers_eq_iff (hs : link.Settles host profile field.reloaded)
    (hprofile : profile ≠ .Application) :
    link.nameservers = (draftLink field link).nameservers ↔
      (field.nameservers.getD [] = [] → host.fetchNameservers = .ok []) := by
  unfold draftLink
  by_cases hnone : field.nameservers.getD [] = []
  · have hfetch : host.fetchNameservers = .ok link.nameservers := by
      have hgiven : field.reloaded.nameservers = none := by
        cases hns : field.nameservers with
        | none => simp [AFNetwork.reloaded, hns]
        | some values =>
          obtain rfl : values = [] := by simpa [hns] using hnone
          simp [AFNetwork.reloaded, hns]
      have hns := hs.nameservers
      cases profile <;> simp_all [nameserversSource, nameserversOf]
    simp [hnone, hfetch]
  · simp [hnone]

/-- Both readers make the same network of a section that says everything. -/
theorem Settles.network_eq_iff (hs : link.Settles host profile field.reloaded)
    (hv : link.Valid host) (h : field.Complete) :
    link.network profile = (draftLink field link).draftNetwork profile ↔
      SaysAll host profile field := by
  have hdomain := hs.domain_eq_iff hv h
  constructor
  · intro heq
    have hprofile : profile ≠ .Application := by
      rintro rfl
      have hkind : Network.Kind.Ethernet = .Infiniband := congrArg Network.kind heq
      cases hkind
    exact ⟨hprofile, hdomain.mp (congrArg Network.domainName heq),
      (hs.nameservers_eq_iff hprofile).mp (congrArg Network.nameservers heq)⟩
  · intro hall
    have hkind : profile.kind = .Ethernet := by
      cases profile with
      | Application => exact absurd rfl hall.ethernet
      | _ => rfl
    unfold Link.draftNetwork Link.network
    rw [hkind, ← (hs.nameservers_eq_iff hall.ethernet).mpr hall.nameservers,
      hdomain.mpr hall.domain]
    rfl

omit [Inet6] in
theorem connection_eq (hprofile : profile ≠ .Application) :
    link.connection profile = (draftLink field link).draftConnection profile := by
  cases profile with
  | Application => exact absurd rfl hprofile
  | _ => rfl

end Link

end Sections

/-! ## What the readers make of the other sections -/

section Sections

variable {host : Host} {model : Cluster}

theorem computeNodeOS_eq_iff {kernel : Option String} :
    kernel.or host.os.kernel = (clearIfEmpty kernel).or host.os.kernel ↔
      (kernel = some "" → host.os.kernel = some "") := by
  cases kernel with
  | none => simp
  | some kernel =>
    by_cases hempty : kernel = ""
    · simp [hempty, unlessEmpty, eq_comm]
    · simp [hempty, unlessEmpty]

/-- The first reader always installs a stack, the second one only if it is written. -/
theorem ofed_eq_iff {ofed : OFED} (h : Cluster.ofedOf model.dumpOFED.reloaded = some ofed) :
    some ofed = Cluster.draftOFED model.dumpOFED ↔ model.ofed.isSome = true := by
  cases hmodel : model.ofed with
  | none => simp [Cluster.dumpOFED, hmodel, Cluster.draftOFED]
  | some written =>
    obtain ⟨kind, version⟩ := written
    have hnormal := normalizeOFEDKind_lower_toText kind
    have hne : lower (Enumeration.toText kind) ≠ "" := (normalizeOFEDKind_normal hnormal).2
    have hparse : Cluster.parseOFEDKind (lower (Enumeration.toText kind)) = some kind := by
      cases kind <;> decide
    have hdraft : (Enumeration.ofStringOpt (lower (Enumeration.toText kind)) : Option OFED.Kind) =
        some kind := by
      cases kind <;> decide
    have hdump : model.dumpOFED =
        { enabled := true, kind := lower (Enumeration.toText kind), version := some version } := by
      simp [Cluster.dumpOFED, hmodel]
    rw [hdump] at h ⊢
    have hfilled : ofed = { kind, version := if version = "" then "latest" else version } := by
      simpa [AFOFED.reloaded, hne, hnormal, Cluster.ofedOf, hparse, eq_comm] using h
    rw [hfilled]
    by_cases hversion : version = "" <;>
      simp [Cluster.draftOFED, unlessEmpty, hne, hdraft, hversion]

theorem queueSystem_eq_iff [Inet6] :
    some (Cluster.queueSystemOf model.toAnswerFile.reloaded) =
        Cluster.draftQueueSystem model.toAnswerFile ↔
      ∃ queue, model.queueSystem = some queue ∧ queue ≠ .SLURM "" := by
  have hslurm : model.toAnswerFile.slurm = model.dumpSlurm := rfl
  have hpbs : model.toAnswerFile.pbs = model.dumpPBS := rfl
  have hslurm' : model.toAnswerFile.reloaded.slurm = model.dumpSlurm.reloaded := rfl
  have hpbs' : model.toAnswerFile.reloaded.pbs = model.dumpPBS.reloaded := rfl
  unfold Cluster.queueSystemOf Cluster.draftQueueSystem
  rw [hslurm, hpbs, hslurm', hpbs']
  unfold Cluster.dumpSlurm Cluster.dumpPBS
  cases hqueue : model.queueSystem with
  | none => simp [AFSlurm.reloaded, AFPBS.reloaded]
  | some queue =>
    cases queue with
    | PBS place => simp [AFPBS.reloaded]
    | SLURM partition =>
      by_cases hempty : partition = ""
      · simp [AFSlurm.reloaded, AFPBS.reloaded, hempty, unlessEmpty]
      · simp [AFSlurm.reloaded, AFPBS.reloaded, hempty, unlessEmpty]

theorem timeservers_eq_iff {timeserver : String} :
    [] = Resumption.timeservers timeserver ↔ timeserver = "" := by
  unfold Resumption.timeservers
  by_cases hempty : timeserver = ""
  · simp [hempty, unlessEmpty]
  · have hsplit := @splitEach_ne_nil isComma timeserver.toList
    simp [unlessEmpty_of_ne hempty, hempty, hsplit, eq_comm (a := [])]

theorem provisioner_eq {provisioner : Provisioner}
    (h : Cluster.selectedProvisioner (lower model.dumpSystem.provisioner) = .ok provisioner) :
    provisioner = Cluster.draftProvisioner model.dumpSystem.provisioner := by
  unfold Cluster.dumpSystem at h ⊢
  generalize model.provisioner = written at h ⊢
  dsimp only at h ⊢
  revert h
  cases written <;> cases provisioner <;> decide

/-! ## The mail system -/

/-- The machine's own names do not show, and the host name is not taken for a domain. -/
structure NamesAlike (host : Host) (names : AFHostname) : Prop where
  hostname : names.hostname = "" → (Headnode.discover host).hostname = ""
  domain : names.domainName ≠ "" → '.' ∉ names.hostname.toList
  machine : names.domainName = "" →
    afterFirst '.' (Headnode.discover host).fqdn = afterFirst '.' (Cluster.filledFQDN names)

theorem names_eq_iff {names : AFHostname} :
    (names.hostname = Resumption.hostname host names ∧
        afterFirst '.' (Cluster.filledFQDN names) =
          afterFirst '.' (Resumption.fqdn host names)) ↔ NamesAlike host names := by
  have hname : names.hostname = Resumption.hostname host names ↔
      (names.hostname = "" → (Headnode.discover host).hostname = "") := by
    unfold Resumption.hostname
    by_cases hempty : names.hostname = ""
    · simp [hempty, unlessEmpty]
    · simp [hempty, unlessEmpty]
  have hdomain : names.hostname = Resumption.hostname host names →
      (afterFirst '.' (Cluster.filledFQDN names) = afterFirst '.' (Resumption.fqdn host names) ↔
        (names.domainName ≠ "" → '.' ∉ names.hostname.toList) ∧
          (names.domainName = "" → afterFirst '.' (Headnode.discover host).fqdn =
            afterFirst '.' (Cluster.filledFQDN names))) := by
    intro hsame
    unfold Resumption.fqdn
    rw [← hsame]
    by_cases hempty : names.domainName = ""
    · simpa [hempty, unlessEmpty] using eq_comm
    · have hgiven : afterFirst '.' (Cluster.filledFQDN names) =
          afterFirst '.' (names.hostname ++ "." ++ names.domainName) ↔
            '.' ∉ names.hostname.toList := by
        have hdot : ".".toList = ['.'] := by decide
        unfold Cluster.filledFQDN
        by_cases hmem : '.' ∈ names.hostname.toList
        · simp only [String.append_assoc, afterFirst_append_of_mem hmem, hmem, not_true, iff_false]
          intro heq
          have hlength := congrArg String.length heq
          have hone : ".".length = 1 := by decide
          simp only [String.length_append] at hlength
          omega
        · simp [afterFirst_append hdot hmem, hmem]
      simpa [hempty, unlessEmpty] using hgiven
  constructor
  · rintro ⟨h₁, h₂⟩
    exact ⟨hname.mp h₁, ((hdomain h₁).mp h₂).1, ((hdomain h₁).mp h₂).2⟩
  · rintro ⟨h₁, h₂, h₃⟩
    exact ⟨hname.mpr h₁, (hdomain (hname.mpr h₁)).mpr ⟨h₂, h₃⟩⟩

/-- No text of the mail system is empty. -/
@[mk_iff]
structure MailAlike (host : Host) (names : AFHostname) (mail : Postfix) : Prop where
  names : NamesAlike host names
  destination : "" ∉ respell (mail.destination.getD [])
  certFile : mail.certFile.getD "" ≠ ""
  keyFile : mail.keyFile.getD "" ≠ ""
  server : mail.profile ≠ .Local → mail.smtpServer ≠ some ""
  credentials : mail.profile = .SASL → mail.username.getD "" ≠ "" ∧ mail.password.getD "" ≠ ""

theorem destination_eq_iff {destination : List String} :
    some (if joinList destination = "" then [] else respell destination) =
        (clearIfEmpty (unlessNil destination)).map splitValues ↔
      "" ∉ respell destination := by
  rw [← some_eq_splitValues_iff]
  by_cases hnil : destination = []
  · have hjoin : joinList [] = "" := by decide
    simp [hnil, unlessNil, hjoin, unlessEmpty]
  · simp [unlessNil, hnil]

theorem mailSystem_eq_iff {names : AFHostname} {filled : Option Postfix}
    (hload : model.dumpPostfix.Loadable)
    (h : Cluster.mailSystemOf names model.dumpPostfix.reloaded = .ok filled) :
    filled = Cluster.draftMailSystem (Resumption.hostname host names)
        (afterFirst '.' (Resumption.fqdn host names)) model.dumpPostfix ↔
      ∀ mail ∈ model.mailSystem, MailAlike host names mail := by
  cases hmodel : model.mailSystem with
  | none =>
    have hdump : model.dumpPostfix = {} := by simp [Cluster.dumpPostfix, hmodel]
    rw [hdump] at h ⊢
    obtain rfl := Except.ok.inj h
    simp [Cluster.draftMailSystem]
  | some mail =>
    have hdump : model.dumpPostfix =
        { enabled := true
          destination := mail.destination.getD []
          profile := mail.profile
          smtp := Cluster.dumpSMTP mail
          certFile := mail.certFile.getD ""
          keyFile := mail.keyFile.getD "" } := by
      simp [Cluster.dumpPostfix, hmodel]
    rw [hdump] at h hload ⊢
    clear hdump hmodel
    simp only [Option.mem_def, Option.some.injEq, forall_eq']
    obtain ⟨profile, hostname, domain, server, destination, port, username, password, certFile,
      keyFile⟩ := mail
    have hport : ∀ {port : Nat}, isPort port → parsePort (decimal port) = some (port % 65536) := by
      intro port hp
      have hle : port ≤ 65535 := hp.2
      rw [Nat.mod_eq_of_lt (by omega)]
      exact lexicalCast_decimal (by omega)
    rw [mailAlike_iff, ← names_eq_iff]
    cases profile with
    | Local =>
      simp only [Cluster.mailSystemOf, AFPostfix.reloaded, if_true, Cluster.fillSMTP,
        except_ok_bind, Except.ok.injEq] at h
      rw [← h]
      simp only [Cluster.draftMailSystem, if_true, Cluster.draftSMTP, Option.some.injEq,
        Postfix.mk.injEq, destination_eq_iff, some_eq_unlessEmpty_iff]
      simp [and_assoc]
    | Relay =>
      obtain ⟨⟨server', port', sasl⟩, hsmtp, hp⟩ := hload rfl
      cases server <;> cases port <;> simp [Cluster.dumpSMTP] at hsmtp
      obtain ⟨rfl, rfl, -⟩ := hsmtp
      simp only [Cluster.mailSystemOf, AFPostfix.reloaded, if_true, Cluster.fillSMTP,
        Cluster.dumpSMTP, Option.map_some, valueOf, except_ok_bind, Except.ok.injEq] at h
      rw [← h]
      simp only [Cluster.draftMailSystem, if_true, Cluster.draftSMTP, Option.some.injEq,
        Postfix.mk.injEq, destination_eq_iff, some_eq_unlessEmpty_iff, Cluster.dumpSMTP,
        Option.bind_some, hport hp]
      simp [and_assoc]
      tauto
    | SASL =>
      obtain ⟨⟨server', port', sasl⟩, hsmtp, hp, -⟩ := hload rfl
      cases server <;> cases port <;> simp [Cluster.dumpSMTP] at hsmtp
      obtain ⟨rfl, rfl, -⟩ := hsmtp
      simp only [Cluster.mailSystemOf, AFPostfix.reloaded, if_true, Cluster.fillSMTP,
        Cluster.dumpSMTP, valueOf, except_ok_bind, Except.ok.injEq] at h
      rw [← h]
      simp only [Cluster.draftMailSystem, if_true, Cluster.draftSMTP, Option.some.injEq,
        Postfix.mk.injEq, destination_eq_iff, some_eq_unlessEmpty_iff, Cluster.dumpSMTP,
        Option.bind_some, hport hp]
      simp [and_assoc]
      tauto

/-! ## The generic node -/

/-- The generic values of a model. -/
def Cluster.nodeDefaults (model : Cluster) : Cluster.NodeDefaults where
  nodePrefix := model.nodePrefix
  padding := model.nodePadding
  startIP := model.nodeStartIP
  rootPassword := model.nodeRootPassword
  sockets := model.nodeSockets
  coresPerSocket := model.nodeCoresPerSocket
  threadsPerCore := model.nodeThreadsPerCore
  cpusPerNode := model.nodeCPUsPerNode
  realMemory := model.nodeRealMemory
  bmcUsername := model.nodeBMCUsername
  bmcPassword := model.nodeBMCPassword
  bmcSerialPort := model.nodeBMCSerialPort
  bmcSerialSpeed := model.nodeBMCSerialSpeed

/-- The number of CPUs is the one that the topology gives. -/
def Cluster.CPUsMatch (model : Cluster) : Prop :=
  model.nodeCPUsPerNode =
    model.nodeSockets * model.nodeCoresPerSocket * model.nodeThreadsPerCore % sizeLimit

/-- The first reader takes the values as they were written. -/
theorem defaults_eq {d : Cluster.NodeDefaults} (hload : model.dumpGenericNode.LoadableGeneric)
    (h : d.Of model.dumpGenericNode.reloadedGeneric) : d = model.nodeDefaults := by
  have hnumber : ∀ {z : Bool} {n k : Nat}, isUnsigned z (decimal n) = true →
      stoul (decimal n) = .ok k → k = n := by
    intro z n k hunsigned hk
    rw [stoul_decimal (isUnsigned_decimal.mp hunsigned).1] at hk
    exact (Except.ok.inj hk).symm
  have hrequired : ∀ {z : Bool} {n k : Nat}, isUnsigned z (decimal n) = true →
      Cluster.numberOf (some (decimal n)) = .ok k → k = n := fun hunsigned hk =>
    hnumber hunsigned hk
  obtain ⟨h₁, h₂, h₃, h₄, h₅, h₆, h₇, h₈, h₉, h₁₀, h₁₁, h₁₂, h₁₃⟩ := h
  obtain ⟨_, _, _, _, _, _, _, _, _, _, _, _, _⟩ := d
  simp only [Cluster.nodeDefaults, Cluster.NodeDefaults.mk.injEq]
  exact ⟨(Option.some.inj h₁).symm, hrequired hload.padding h₂, (Option.some.inj h₃).symm,
    (Option.some.inj h₄).symm, hrequired hload.sockets h₅, hrequired hload.coresPerSocket h₆,
    hrequired hload.threadsPerCore h₇, hrequired hload.cpusPerNode h₈,
    hrequired hload.realMemory h₉, h₁₀.symm, h₁₁.symm, hnumber hload.bmcSerialport h₁₂,
    hnumber hload.bmcSerialspeed h₁₃⟩

/-- The second reader computes the number of CPUs. -/
theorem draftDefaults_dumpGenericNode (hload : model.dumpGenericNode.LoadableGeneric) :
    Cluster.draftDefaults model.dumpGenericNode =
      { model.nodeDefaults with
        cpusPerNode :=
          model.nodeSockets * model.nodeCoresPerSocket * model.nodeThreadsPerCore % sizeLimit } := by
  have hnumber : ∀ {z : Bool} {n : Nat}, isUnsigned z (decimal n) = true →
      Cluster.draftNumber (some (decimal n)) = n := by
    intro z n hunsigned
    simp [Cluster.draftNumber, parseSize_decimal (isUnsigned_decimal.mp hunsigned).1]
  have hs := hnumber hload.sockets
  have hc := hnumber hload.coresPerSocket
  have ht := hnumber hload.threadsPerCore
  simp only [Cluster.draftDefaults, Cluster.nodeDefaults, Cluster.dumpGenericNode, hs, hc, ht,
    hnumber hload.padding, hnumber hload.realMemory, hnumber hload.bmcSerialport,
    hnumber hload.bmcSerialspeed, Option.getD_some]

end Sections

/-! ## The resumed model -/

/-- What the draft reader settles where `fillData` settles `f`. -/
def Filling.resumption (host : Host) (W : AnswerFile) (f : Filling) : Resumption where
  link profile := (f.link profile).map (Link.draftLink (W.networkField profile))
  diskImage := ⟨W.system.diskImage, (DiskImage.isKnownImage W.system.diskImage).2⟩
  pendingURL := none
  computeNodeOS := { f.nodeOS with kernel := (clearIfEmpty W.system.kernel).or host.os.kernel }
  nodes := []

namespace Filling.Sound

variable [Inet6] {host : Host} {model : Cluster} {f : Filling}

/-- A link comes from a complete section. -/
theorem written (h : f.Sound host model.toAnswerFile.reloaded) (hl : model.toAnswerFile.Loadable)
    {profile : Network.Profile} {link : Link} (hlink : f.link profile = some link) :
    (model.toAnswerFile.networkField profile).Complete ∧
      link.Settles host profile (model.toAnswerFile.networkField profile).reloaded ∧
        link.Valid host := by
  obtain ⟨hs, hv⟩ := h.link hlink
  cases loadedSection model hl profile with
  | absent hfield hloaded =>
    have hinterface := hs.interface
    rw [hloaded] at hinterface
    cases hinterface
  | present hcomplete hinterface hloaded => exact ⟨hcomplete, hloaded ▸ hs, hv⟩

theorem unwritten (h : f.Sound host model.toAnswerFile.reloaded)
    (hl : model.toAnswerFile.Loadable) {profile : Network.Profile}
    (hlink : f.link profile = none) : model.toAnswerFile.networkField profile = {} := by
  have hnone := h.link_eq_none hlink
  cases loadedSection model hl profile with
  | absent hfield hloaded => exact hfield
  | present hcomplete hinterface hloaded =>
    rw [hloaded] at hnone
    have hsome : (model.toAnswerFile.networkField profile).conInterface = none := hnone
    simp [hsome] at hinterface

theorem resumption (h : f.Sound host model.toAnswerFile.reloaded)
    (hl : model.toAnswerFile.Loadable) (hnodes : model.nodes = []) :
    (f.resumption host model.toAnswerFile).Sound host model.dumpData model.toAnswerFile := by
  have hnone : model.toAnswerFile.nodes.nodes = [] := by simp [Cluster.toAnswerFile, hnodes]
  have hcarries : DumpCarries model.dumpData model.toAnswerFile :=
    dumpCarries_dumpOptions (by simp [hnone])
  refine ⟨?_, ?_, ?_, ?_, ⟨rfl, ?_⟩, ?_, Nat.zero_le _⟩
  · intro profile
    cases hlink : f.link profile with
    | none =>
      simp only [Filling.resumption, hlink, Option.map_none, Resumption.SettlesLink,
        h.unwritten hl hlink]
      rfl
    | some link =>
      obtain ⟨hcomplete, hs, hv⟩ := h.written hl hlink
      simp only [Filling.resumption, hlink, Option.map_some, Resumption.SettlesLink]
      exact ⟨hs.requested hcomplete, hv.draftLink hs⟩
  · have hpending : optionalString model.dumpData metadataGroup
        "pending_disk_image_download_url" = none := by
      rw [optionalString_carries (carries_metadata_dumpData model)]
      rfl
    rw [hpending]
    exact ⟨rfl, .inl ⟨h.diskImage, rfl⟩⟩
  · obtain ⟨platform, major, minor, hdenotes, hos⟩ := Cluster.fillNodeOS_eq_ok.mp h.nodeOS
    refine OS.setVersion_eq_ok.mpr ⟨platform, major, minor, hdenotes, ?_⟩
    simp only [Filling.resumption, hos]
    rfl
  · have hwritten : ∀ provisioner : Provisioner,
        lower (if provisioner = .xCAT then "xcat" else "confluent") = "xcat" ∨
          lower (if provisioner = .xCAT then "xcat" else "confluent") = "confluent" := by
      intro provisioner
      cases provisioner <;> decide
    exact hwritten model.provisioner
  · rw [hcarries.nodes.generic.hasGroup_eq]
    rfl
  · have hprefixed : model.dumpData.prefixed "node." = [] := by
      rw [Cluster.dumpData, prefixed_dumpOptions (by simp [hnone]), hnone]
      rfl
    rw [hprefixed]
    exact .nil

end Filling.Sound

end OpenCattus
