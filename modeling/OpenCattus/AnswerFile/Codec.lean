import OpenCattus.AnswerFile.Accept
import OpenCattus.AnswerFile.Dump

/-!
# The answerfile codec

Loading what was dumped, section by section, in terms of the dumped record alone.
`Loadable` says when the dumped section is accepted, `reloaded` which record results.

`loadOptions_dumpOptions` states this for the whole file, and `loadOptions_stable` that
a record that was itself loaded is `Loadable` and reloads to itself. Together they make
the round trip.
-/

namespace OpenCattus

open Foundations Foundations.Text Foundations.Inet KeyData

/-! ## Lists -/

/-- The names of a list after joining and splitting them. -/
def respell (values : List String) : List String := split isListSeparator (joinList values)

theorem map_split_unlessNil (values : List String) :
    (unlessNil values).map (split isListSeparator) =
      if values = [] then none else some (respell values) := by
  unfold unlessNil respell
  split <;> rfl

/-- The glue of `joinList` only has separators. -/
theorem isListSeparator_of_mem : ∀ c ∈ ", ".toList, isListSeparator c = true := by
  simp [isListSeparator]

/-- Splitting again what a split produced changes nothing. -/
theorem respell_split (s : String) :
    respell (split isListSeparator s) = split isListSeparator s := by
  exact split_intercalate isListSeparator_of_mem (by decide) (isTokens_split s)

/-! ## Networks -/

section Network

variable [Inet6]

/-- A network section that `loadNetwork` accepts. -/
structure AFNetwork.Loadable (network : AFNetwork) : Prop where
  interface : network.conInterface.isSome = true
  mask : ∀ mask ∈ network.subnetMask, mask.isV4 = true ∧ Network.isMask mask = true
  gateway : ∀ ip ∈ network.conIpAddr, ∀ mask ∈ network.subnetMask, ∀ gateway ∈ network.gateway,
    gatewayInSubnet ip mask gateway = true

def AFNetwork.reloaded (network : AFNetwork) : AFNetwork :=
  { network with
    conMacAddr := some (network.conMacAddr.getD "")
    nameservers := network.nameservers.bind fun values =>
      if values = [] then none else some (respell values) }

theorem validateNetworkGateway_eq_ok {networkSection : String}
    {ip mask gateway : Option Address} {u : Unit} :
    validateNetworkGateway networkSection ip mask gateway = .ok u ↔
      ∀ a ∈ ip, ∀ m ∈ mask, ∀ g ∈ gateway, gatewayInSubnet a m g = true := by
  cases ip with
  | none => simp [validateNetworkGateway]
  | some a =>
    cases mask with
    | none => simp [validateNetworkGateway]
    | some m =>
      cases gateway with
      | none => simp [validateNetworkGateway]
      | some g => simpa [validateNetworkGateway] using validateGatewayInSubnet_eq_ok

/-- An address that was written as text is read back. -/
theorem convertNetworkAddressAndValidate_toText {kf : KeyFile} {sectionName fieldName : String}
    {a r : Option Address} (hgroup : kf.hasGroup sectionName = true)
    (hlookup : kf.data.lookup sectionName fieldName = a.map Address.toText) :
    convertNetworkAddressAndValidate kf sectionName fieldName = .ok r ↔ a = r := by
  unfold convertNetworkAddressAndValidate KeyFile.getStringOpt
  rw [if_pos hgroup, hlookup]
  cases a with
  | none => simp
  | some a =>
    simp only [Option.map_some, except_ok_bind, except_bind_ok, rethrowInvalidArgument_eq_ok,
      convertStringToAddress_eq_ok, makeAddress_toText, Option.some.injEq, exists_eq_left',
      Except.ok.injEq]

theorem lookup_networkEntries {kd : KeyData} {networkSection : String} {network : AFNetwork}
    (h : kd.Carries networkSection (networkEntries network)) :
    kd.lookup networkSection "interface" = network.conInterface ∧
      kd.lookup networkSection "ip_address" = network.conIpAddr.map Address.toText ∧
      kd.lookup networkSection "mac_address" = network.conMacAddr ∧
      kd.lookup networkSection "subnet_mask" = network.subnetMask.map Address.toText ∧
      kd.lookup networkSection "domain_name" = network.domainName ∧
      kd.lookup networkSection "gateway" = network.gateway.map Address.toText ∧
      kd.lookup networkSection "nameservers" = network.nameservers.bind unlessNil := by
  simp [h.lookup_eq, networkEntries, assigned]

theorem loadNetwork_carries {kf : KeyFile} {networkSection : String} {network r : AFNetwork}
    (h : kf.data.Carries networkSection (networkEntries network)) :
    loadNetwork kf networkSection = .ok r ↔ network.Loadable ∧ r = network.reloaded := by
  obtain ⟨hinterface, hip, hmac, hmask, hdomain, hgateway, hnameservers⟩ := lookup_networkEntries h
  cases hsome : network.conInterface with
  | none =>
    have hfail : ¬ network.Loadable := fun hl => by simpa [hsome] using hl.interface
    simp [loadNetwork, KeyFile.getString, hinterface, hsome, hfail]
  | some interface =>
    have hgroup : kf.hasGroup networkSection = true := by
      rw [KeyFile.hasGroup, h.hasGroup_eq]
      simp [networkEntries, assigns, hsome]
    unfold loadNetwork
    simp only [except_bind_ok, KeyFile.getString_eq_ok, KeyFile.getStringOr_eq_ok,
      KeyFile.getStringOpt_eq_ok, validateOptional_eq_ok, validateSubnetMask_eq_ok,
      validateNetworkGateway_eq_ok, convertNetworkAddressAndValidate_toText hgroup hip,
      convertNetworkAddressAndValidate_toText hgroup hmask,
      convertNetworkAddressAndValidate_toText hgroup hgateway, hgroup, true_and, exists_eq_left',
      hinterface, hmac, hdomain, hnameservers, hsome, Option.some.injEq, exists_const,
      Except.ok.injEq, Option.map_bind, Function.comp_def, map_split_unlessNil]
    constructor
    · rintro ⟨hmask, hgateway, rfl⟩
      exact ⟨⟨by simp [hsome], hmask, hgateway⟩, by simp [AFNetwork.reloaded, hsome]⟩
    · rintro ⟨hl, rfl⟩
      exact ⟨hl.mask, hl.gateway, by simp [AFNetwork.reloaded, hsome]⟩

/-- What `loadNetwork` returns is accepted again and reloads to itself. -/
theorem loadNetwork_stable {kf : KeyFile} {networkSection : String} {r : AFNetwork}
    (h : loadNetwork kf networkSection = .ok r) : r.Loadable ∧ r.reloaded = r := by
  unfold loadNetwork at h
  simp only [except_bind_ok, validateOptional_eq_ok, validateSubnetMask_eq_ok,
    validateNetworkGateway_eq_ok, Except.ok.injEq] at h
  obtain ⟨interface, -, ip, -, mac, -, mask, -, _, hmask, domain, -, gateway, -, _, hgateway,
    nameservers, -, rfl⟩ := h
  refine ⟨⟨rfl, hmask, hgateway⟩, ?_⟩
  cases nameservers with
  | none => rfl
  | some text => simp [AFNetwork.reloaded, split_ne_nil, respell_split]

/-! ### A network whose section may be left out -/

/-- The section would be written. -/
def AFNetwork.isPresent (network : AFNetwork) : Bool := assigns (networkEntries network)

def AFNetwork.LoadableOptional (network : AFNetwork) : Prop :=
  network.isPresent = true → network.Loadable

def AFNetwork.reloadedOptional (network : AFNetwork) : AFNetwork :=
  if network.isPresent then network.reloaded else {}

theorem loadOptionalNetwork_carries {kf : KeyFile} {networkSection : String}
    {network r : AFNetwork} (h : kf.data.Carries networkSection (networkEntries network)) :
    loadOptionalNetwork kf networkSection = .ok r ↔
      network.LoadableOptional ∧ r = network.reloadedOptional := by
  have hgroup : kf.hasGroup networkSection = network.isPresent := h.hasGroup_eq
  unfold loadOptionalNetwork AFNetwork.LoadableOptional AFNetwork.reloadedOptional
  rw [hgroup]
  cases network.isPresent with
  | false => simp [eq_comm]
  | true => simpa using loadNetwork_carries h

theorem loadOptionalNetwork_stable {kf : KeyFile} {networkSection : String} {r : AFNetwork}
    (h : loadOptionalNetwork kf networkSection = .ok r) :
    r.LoadableOptional ∧ r.reloadedOptional = r := by
  unfold loadOptionalNetwork at h
  split at h
  · obtain ⟨hl, hr⟩ := loadNetwork_stable h
    have hpresent : r.isPresent = true := by
      simp [AFNetwork.isPresent, networkEntries, assigns, hl.interface]
    exact ⟨fun _ => hl, by simp [AFNetwork.reloadedOptional, hpresent, hr]⟩
  · obtain rfl := Except.ok.inj h
    exact ⟨fun hp => by simp [AFNetwork.isPresent, networkEntries, assigns] at hp, rfl⟩

end Network

/-! ## Settings -/

theorem loadInformation_carries {kf : KeyFile} {information : AFInformation}
    (h : kf.data.Carries "information" (informationEntries information)) :
    loadInformation kf = .ok information := by
  simp [loadInformation, KeyFile.getString, h.lookup_eq, informationEntries, assigned]

theorem loadTimeSettings_carries {kf : KeyFile} {time : AFTime}
    (h : kf.data.Carries "time" (timeEntries time)) : loadTimeSettings kf = .ok time := by
  simp [loadTimeSettings, KeyFile.getString, h.lookup_eq, timeEntries, assigned]

theorem loadHostnameSettings_carries {kf : KeyFile} {hostname : AFHostname}
    (h : kf.data.Carries "hostname" (hostnameEntries hostname)) :
    loadHostnameSettings kf = .ok hostname := by
  simp [loadHostnameSettings, KeyFile.getString, h.lookup_eq, hostnameEntries, assigned]

/-- `confluent` or `xcat`, in any letter case. -/
def AFSystem.Loadable (system : AFSystem) : Prop :=
  lower system.provisioner = "confluent" ∨ lower system.provisioner = "xcat"

def AFSystem.reloaded (system : AFSystem) : AFSystem :=
  { system with provisioner := lower system.provisioner }

/-- The name of a distribution is no alias and is recognised in lower case. -/
theorem ofStringOpt_lower_distro (distro : OS.Distro) :
    (Enumeration.ofStringOpt
      (if lower (Enumeration.toText distro) = "alma" then "almalinux"
        else lower (Enumeration.toText distro)) : Option OS.Distro) = some distro := by
  cases distro <;> decide

theorem loadSystemSettings_carries {kf : KeyFile} {system r : AFSystem} {dryRun : Bool}
    (h : kf.data.Carries "system" (systemEntries system)) :
    loadSystemSettings kf dryRun = .ok r ↔ system.Loadable ∧ r = system.reloaded := by
  have hgroup : kf.hasGroup "system" = true := by
    rw [KeyFile.hasGroup, h.hasGroup_eq]
    rfl
  have hlookup : kf.data.lookup "system" "disk_image" = some system.diskImage ∧
      kf.data.lookup "system" "distro" = some (Enumeration.toText system.distro) ∧
      kf.data.lookup "system" "version" = some system.version ∧
      kf.data.lookup "system" "kernel" = system.kernel ∧
      kf.data.lookup "system" "provisioner" = some system.provisioner := by
    simp [h.lookup_eq, systemEntries, assigned]
  obtain ⟨hdisk, hdistro, hversion, hkernel, hprovisioner⟩ := hlookup
  unfold loadSystemSettings AFSystem.Loadable AFSystem.reloaded
  simp only [KeyFile.getString, KeyFile.getStringOpt, hgroup, hdisk, hdistro, hversion, hkernel,
    hprovisioner, except_ok_bind, ofStringOpt_lower_distro, if_true, unwrap]
  by_cases hp : lower system.provisioner ≠ "confluent" ∧ lower system.provisioner ≠ "xcat"
  · simp [hp]
  · have hp' : lower system.provisioner = "confluent" ∨ lower system.provisioner = "xcat" := by
      rwa [not_and_or, not_not, not_not] at hp
    simp only [hp, if_false, hp', Except.ok.injEq, true_and]
    exact eq_comm

theorem loadSystemSettings_stable {kf : KeyFile} {r : AFSystem}
    (h : loadSystemSettings kf false = .ok r) : r.Loadable ∧ r.reloaded = r := by
  unfold loadSystemSettings at h
  simp only [except_bind_ok] at h
  obtain ⟨_, -, _, -, h⟩ := h
  split at h
  · simp at h
  · simp only [except_bind_ok] at h
    obtain ⟨_, -, _, -, _, -, _, -, h⟩ := h
    split at h
    · simp at h
    · rename_i hp
      obtain rfl := Except.ok.inj h
      rw [not_and_or, not_not, not_not] at hp
      exact ⟨by simpa [AFSystem.Loadable] using hp, by simp [AFSystem.reloaded]⟩

/-- An absent section stays absent; a list whose joined text is empty becomes empty. -/
def reloadedList (enabled : Option (List String)) : Option (List String) :=
  enabled.map fun values => if joinList values = "" then [] else respell values

theorem loadEnabledList_carries {kf : KeyFile} {sectionName : String}
    {enabled : Option (List String)} (h : kf.data.Carries sectionName (enabledEntries enabled)) :
    loadEnabledList kf sectionName = .ok (reloadedList enabled) := by
  have hgroup : kf.hasGroup sectionName = enabled.isSome := by
    rw [KeyFile.hasGroup, h.hasGroup_eq]
    simp [enabledEntries, assigns]
  have hlookup : kf.data.lookup sectionName "enabled" = enabled.map joinList := by
    simp [h.lookup_eq, enabledEntries, assigned]
  unfold loadEnabledList
  cases enabled with
  | none => simp [hgroup, reloadedList]
  | some values =>
    simp only [hgroup, Option.isSome_some, if_true, KeyFile.getStringOpt, hlookup, Option.map_some,
      except_ok_bind, reloadedList]
    split <;> rfl

theorem joinList_split_ne_empty {s : String} (hs : s ≠ "") :
    joinList (split isListSeparator s) ≠ "" := by
  intro hjoin
  have hsplit := respell_split s
  rw [respell, hjoin] at hsplit
  have hone : splitRuns isListSeparator s.toList = [[]] := by
    have hmap := congrArg (List.map String.toList) hsplit
    simpa [split, splitRuns, Function.comp_def] using hmap.symm
  have hnil : ∀ cs : List Char, splitRuns isListSeparator cs = [[]] → cs = [] := by
    intro cs
    fun_induction splitRuns isListSeparator cs with
    | case1 => simp
    | case2 c cs hc hnext ih =>
      intro h
      simp [ih h] at hnext
    | case3 c cs hc hnext ih =>
      intro h
      exact absurd (List.cons.inj h).2 (splitRuns_ne_nil cs)
    | case4 c cs hc ih =>
      intro h
      cases hcs : splitRuns isListSeparator cs <;> simp [hcs, consHead] at h
  exact hs (by simpa using hnil _ hone)

theorem loadEnabledList_stable {kf : KeyFile} {sectionName : String} {r : Option (List String)}
    (h : loadEnabledList kf sectionName = .ok r) : reloadedList r = r := by
  unfold loadEnabledList at h
  split at h
  · rw [except_bind_ok] at h
    obtain ⟨enabled, -, h⟩ := h
    cases enabled with
    | none =>
      obtain rfl := Except.ok.inj h
      rfl
    | some text =>
      dsimp only at h
      split at h
      · obtain rfl := Except.ok.inj h
        rfl
      · rename_i htext
        obtain rfl := Except.ok.inj h
        simp [reloadedList, joinList_split_ne_empty htext, respell_split]
  · obtain rfl := Except.ok.inj h
    rfl

/-! ## Services -/

/-- A port that the answerfile accepts. -/
def isPort (port : Nat) : Prop := 0 < port ∧ port ≤ 65535

/-- The relay profiles need a server with a valid port, and SASL its credentials. -/
def AFPostfix.Loadable (mail : AFPostfix) : Prop :=
  mail.enabled = true →
    match mail.profile with
    | .Local => True
    | .Relay => ∃ smtp, mail.smtp = some smtp ∧ isPort smtp.port
    | .SASL => ∃ smtp, mail.smtp = some smtp ∧ isPort smtp.port ∧ smtp.sasl.isSome = true

/-- Only the parts that the profile uses are kept. -/
def AFPostfix.reloaded (mail : AFPostfix) : AFPostfix :=
  if mail.enabled then
    { mail with
      destination := if joinList mail.destination = "" then [] else respell mail.destination
      smtp :=
        match mail.profile with
        | .Local => none
        | .Relay => mail.smtp.map fun smtp => { smtp with sasl := none }
        | .SASL => mail.smtp }
  else {}

theorem getD_unlessEmpty (value : String) : (unlessEmpty value).getD "" = value := by
  unfold unlessEmpty
  split <;> simp [*]

theorem getD_unlessNil (values : List String) : (unlessNil values).getD "" = joinList values := by
  unfold unlessNil
  split
  · subst_vars
    rfl
  · rfl

/-- The three sections that a mail configuration is written to. -/
structure PostfixCarries (kd : KeyData) (mail : AFPostfix) : Prop where
  main : kd.Carries "postfix" (postfixEntries mail)
  relay : kd.Carries "postfix.relay" (postfixRelayEntries mail)
  sasl : kd.Carries "postfix.sasl" (postfixSaslEntries mail)

theorem loadSMTP_carries {kf : KeyFile} {mail : AFPostfix} {r : Option AFPostfix.SMTP}
    (h : PostfixCarries kf.data mail) (henabled : mail.enabled = true) :
    loadPostfix.loadSMTP kf mail.profile = .ok r ↔ mail.Loadable ∧ r = mail.reloaded.smtp := by
  have hrelay := h.relay.lookup_eq
  have hsasl := h.sasl.lookup_eq
  unfold AFPostfix.Loadable AFPostfix.reloaded
  simp only [henabled, if_true, forall_const]
  cases hprofile : mail.profile with
  | Local => simp [loadPostfix.loadSMTP, eq_comm]
  | Relay =>
    cases hsmtp : mail.smtp with
    | none =>
      simp [loadPostfix.loadSMTP, KeyFile.getString, hrelay, postfixRelayEntries, henabled,
        hprofile, hsmtp, assigned]
    | some smtp =>
      simp only [loadPostfix.loadSMTP, except_bind_ok, KeyFile.getString_eq_ok, hrelay,
        postfixRelayEntries, henabled, hprofile, hsmtp, assigned, parsePortAnswerfileField_eq_ok]
      simp [isPort, eq_comm]
  | SASL =>
    cases hsmtp : mail.smtp with
    | none =>
      simp [loadPostfix.loadSMTP, KeyFile.getString, hsasl, postfixSaslEntries, henabled,
        hprofile, hsmtp, assigned]
    | some smtp =>
      obtain ⟨server, port, sasl⟩ := smtp
      simp only [loadPostfix.loadSMTP, except_bind_ok, KeyFile.getString_eq_ok, hsasl,
        postfixSaslEntries, henabled, hprofile, hsmtp, assigned, parsePortAnswerfileField_eq_ok]
      cases sasl with
      | none => simp
      | some sasl =>
        simp only [String.reduceEq, if_false, if_true, Option.or_none, Option.none_or,
          Option.map_some, Option.some.injEq, parseDigits_decimal, exists_eq_left', and_assoc,
          Except.ok.injEq, Option.isSome_some, and_true]
        constructor
        · rintro ⟨hpos, hle, hr⟩
          exact ⟨⟨hpos, hle⟩, hr.symm⟩
        · rintro ⟨⟨hpos, hle⟩, hr⟩
          exact ⟨hpos, hle, hr.symm⟩

theorem loadPostfix_carries {kf : KeyFile} {mail r : AFPostfix} (h : PostfixCarries kf.data mail) :
    loadPostfix kf = .ok r ↔ mail.Loadable ∧ r = mail.reloaded := by
  have hlookup := h.main.lookup_eq
  have hgroup : kf.hasGroup "postfix" = mail.enabled := by
    rw [KeyFile.hasGroup, h.main.hasGroup_eq]
    cases he : mail.enabled <;> simp [postfixEntries, assigns, he]
  cases henabled : mail.enabled with
  | false =>
    simp only [loadPostfix, hgroup, henabled, AFPostfix.Loadable, AFPostfix.reloaded,
      Bool.false_eq_true, if_false, false_implies, true_and, Except.ok.injEq]
    exact eq_comm
  | true =>
    have hkeys : kf.data.lookup "postfix" "destination" = unlessNil mail.destination ∧
        kf.data.lookup "postfix" "profile" = some (Enumeration.toText mail.profile) ∧
        kf.data.lookup "postfix" "smtpd_tls_cert_file" = unlessEmpty mail.certFile ∧
        kf.data.lookup "postfix" "smtpd_tls_key_file" = unlessEmpty mail.keyFile := by
      simp [hlookup, postfixEntries, henabled, assigned]
    obtain ⟨hdestination, hprofile, hcert, hkey⟩ := hkeys
    unfold loadPostfix
    simp only [hgroup, henabled, if_true, KeyFile.getStringOpt, KeyFile.getString, hdestination,
      hprofile, hcert, hkey, except_ok_bind, Enumeration.ofStringOpt_toText, getD_unlessNil,
      getD_unlessEmpty, except_bind_ok, loadSMTP_carries h henabled]
    constructor
    · rintro ⟨smtp, ⟨hl, rfl⟩, heq⟩
      obtain rfl := Except.ok.inj heq
      exact ⟨hl, by simp [AFPostfix.reloaded, henabled, respell]⟩
    · rintro ⟨hl, rfl⟩
      exact ⟨_, ⟨hl, rfl⟩, by simp [AFPostfix.reloaded, henabled, respell]⟩

theorem loadPostfix_stable {kf : KeyFile} {r : AFPostfix} (h : loadPostfix kf = .ok r) :
    r.Loadable ∧ r.reloaded = r := by
  unfold loadPostfix at h
  split at h
  · simp only [except_bind_ok] at h
    obtain ⟨destination, -, _, -, h⟩ := h
    split at h
    · simp at h
    · rename_i profile _
      simp only [except_bind_ok] at h
      obtain ⟨smtp, hsmtp, _, -, _, -, h⟩ := h
      obtain rfl := Except.ok.inj h
      have hdestination : ∀ text : String,
          (if joinList (if text = "" then [] else split isListSeparator text) = "" then []
            else respell (if text = "" then [] else split isListSeparator text)) =
            if text = "" then [] else split isListSeparator text := by
        intro text
        by_cases htext : text = ""
        · simp [htext, joinList]
        · simp [htext, joinList_split_ne_empty htext, respell_split]
      cases profile with
      | Local =>
        obtain rfl : none = smtp := by simpa [loadPostfix.loadSMTP] using hsmtp
        exact ⟨by simp [AFPostfix.Loadable], by simp [AFPostfix.reloaded, hdestination]⟩
      | Relay =>
        simp only [loadPostfix.loadSMTP, except_bind_ok, parsePortAnswerfileField_eq_ok,
          Except.ok.injEq] at hsmtp
        obtain ⟨_, -, _, -, port, ⟨-, hport⟩, rfl⟩ := hsmtp
        exact ⟨by simpa [AFPostfix.Loadable, isPort] using hport,
          by simp [AFPostfix.reloaded, hdestination]⟩
      | SASL =>
        simp only [loadPostfix.loadSMTP, except_bind_ok, parsePortAnswerfileField_eq_ok,
          Except.ok.injEq] at hsmtp
        obtain ⟨_, -, _, -, port, ⟨-, hport⟩, _, -, _, -, rfl⟩ := hsmtp
        exact ⟨by simpa [AFPostfix.Loadable, isPort] using hport,
          by simp [AFPostfix.reloaded, hdestination]⟩
  · obtain rfl := Except.ok.inj h
    exact ⟨by simp [AFPostfix.Loadable], rfl⟩

/-- An enabled section with a kind needs a recognised kind and a version. -/
def AFOFED.Loadable (ofed : AFOFED) : Prop :=
  ofed.enabled = true → ofed.kind ≠ "" →
    (normalizeOFEDKind ofed.kind).isSome = true ∧ ofed.version.isSome = true

def AFOFED.reloaded (ofed : AFOFED) : AFOFED :=
  if ofed.enabled && ofed.kind ≠ "" then
    { kind := (normalizeOFEDKind ofed.kind).getD ""
      version := some (if ofed.version.getD "" = "" then "latest" else ofed.version.getD "")
      enabled := true }
  else {}

theorem loadOFED_carries {kf : KeyFile} {ofed r : AFOFED}
    (h : kf.data.Carries "ofed" (ofedEntries ofed)) :
    loadOFED kf = .ok r ↔ ofed.Loadable ∧ r = ofed.reloaded := by
  have hgroup : kf.hasGroup "ofed" = ofed.enabled := by
    rw [KeyFile.hasGroup, h.hasGroup_eq]
    cases he : ofed.enabled <;> simp [ofedEntries, assigns, he]
  unfold loadOFED AFOFED.Loadable AFOFED.reloaded
  cases henabled : ofed.enabled with
  | false =>
    simp only [hgroup, henabled, Bool.false_eq_true, if_false, false_implies, true_and,
      Bool.false_and, Except.ok.injEq]
    exact eq_comm
  | true =>
    have hkeys : kf.data.lookup "ofed" "kind" = some ofed.kind ∧
        kf.data.lookup "ofed" "version" = ofed.version := by
      simp [h.lookup_eq, ofedEntries, henabled, assigned]
    simp only [hgroup, henabled, if_true, KeyFile.getString, hkeys.1, hkeys.2, except_ok_bind,
      Bool.true_and, forall_const]
    by_cases hkind : ofed.kind = ""
    · simp only [hkind, if_true, ne_eq, not_true, false_implies, true_and, Except.ok.injEq,
        decide_false, Bool.false_eq_true, if_false]
      exact eq_comm
    · cases hnormal : normalizeOFEDKind ofed.kind with
      | none => simp [hkind]
      | some kind =>
        cases hversion : ofed.version with
        | none => simp [hkind]
        | some version =>
          simp [hkind]
          exact eq_comm

/-- A normalised kind is recognised and stays as it is. -/
theorem normalizeOFEDKind_normal {rawKind kind : String}
    (h : normalizeOFEDKind rawKind = some kind) :
    normalizeOFEDKind kind = some kind ∧ kind ≠ "" := by
  have hdoca : normalizeOFEDKind "doca" = some "doca" := by decide
  unfold normalizeOFEDKind at h
  dsimp only at h
  split at h
  · obtain rfl := Option.some.inj h
    exact ⟨hdoca, by decide⟩
  · rename_i hmellanox
    split at h
    · rename_i hsome
      obtain rfl := Option.some.inj h
      refine ⟨by simp [normalizeOFEDKind, hmellanox, hsome], ?_⟩
      intro hempty
      rw [hempty] at hsome
      revert hsome
      decide
    · cases h

theorem loadOFED_stable {kf : KeyFile} {r : AFOFED} (h : loadOFED kf = .ok r) :
    r.Loadable ∧ r.reloaded = r := by
  have hdefault : AFOFED.Loadable {} ∧ AFOFED.reloaded {} = {} :=
    ⟨by simp [AFOFED.Loadable], rfl⟩
  unfold loadOFED at h
  split at h
  · rw [except_bind_ok] at h
    obtain ⟨rawKind, -, h⟩ := h
    split at h
    · obtain rfl := Except.ok.inj h
      exact hdefault
    · split at h
      · simp at h
      · rename_i kind hkind
        rw [except_bind_ok] at h
        obtain ⟨version, -, h⟩ := h
        obtain rfl := Except.ok.inj h
        obtain ⟨hnormal, hne⟩ := normalizeOFEDKind_normal hkind
        refine ⟨by simp [AFOFED.Loadable, hnormal], ?_⟩
        by_cases hversion : version = "" <;> simp [AFOFED.reloaded, hne, hnormal, hversion]
  · obtain rfl := Except.ok.inj h
    exact hdefault

/-- A section that is not enabled leaves nothing behind. -/
def AFSlurm.reloaded (slurm : AFSlurm) : AFSlurm := if slurm.enabled then slurm else {}

theorem loadSlurm_carries {kf : KeyFile} {slurm : AFSlurm}
    (h : kf.data.Carries "slurm" (slurmEntries slurm)) :
    loadSlurm kf = .ok slurm.reloaded := by
  have hgroup : kf.hasGroup "slurm" = slurm.enabled := by
    rw [KeyFile.hasGroup, h.hasGroup_eq]
    cases he : slurm.enabled <;> simp [slurmEntries, assigns, he]
  unfold loadSlurm AFSlurm.reloaded
  cases henabled : slurm.enabled with
  | false => simp [hgroup, henabled]
  | true =>
    simp [hgroup, henabled, loadSlurm.required, KeyFile.getStringOpt, h.lookup_eq, slurmEntries,
      assigned, unwrap]
    rw [← henabled]

theorem loadSlurm_stable {kf : KeyFile} {r : AFSlurm} (h : loadSlurm kf = .ok r) :
    r.reloaded = r := by
  unfold loadSlurm at h
  split at h
  · simp only [except_bind_ok] at h
    obtain ⟨_, -, _, -, _, -, _, -, h⟩ := h
    obtain rfl := Except.ok.inj h
    rfl
  · obtain rfl := Except.ok.inj h
    rfl

def AFPBS.reloaded (pbs : AFPBS) : AFPBS := if pbs.enabled then pbs else {}

theorem loadPBS_carries {kf : KeyFile} {pbs : AFPBS}
    (h : kf.data.Carries "pbs" (pbsEntries pbs)) : loadPBS kf = .ok pbs.reloaded := by
  have hgroup : kf.hasGroup "pbs" = pbs.enabled := by
    rw [KeyFile.hasGroup, h.hasGroup_eq]
    cases he : pbs.enabled <;> simp [pbsEntries, assigns, he]
  unfold loadPBS AFPBS.reloaded
  cases henabled : pbs.enabled with
  | false => simp [hgroup, henabled]
  | true =>
    simp only [hgroup, henabled, if_true, KeyFile.getStringOpt, h.lookup_eq, pbsEntries, assigned,
      except_ok_bind, Option.none_or, Option.getD_some,
      Enumeration.ofStringOpt_toText]
    rw [← henabled]

theorem loadPBS_stable {kf : KeyFile} {r : AFPBS} (h : loadPBS kf = .ok r) : r.reloaded = r := by
  unfold loadPBS at h
  split at h
  · rw [except_bind_ok] at h
    obtain ⟨_, -, h⟩ := h
    dsimp only at h
    split at h
    · simp at h
    · obtain rfl := Except.ok.inj h
      rfl
  · obtain rfl := Except.ok.inj h
    rfl

end OpenCattus
