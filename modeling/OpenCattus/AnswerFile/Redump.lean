import OpenCattus.AnswerFile.RoundTrip

/-!
# Dumping over the file that was loaded

`dumpFile` writes the fields into the key file that the object still holds, so what it does
not write stays as it was. The numbered nodes are written to `node.1`, `node.2`, ... whatever
their sections were called.

For every section but the numbered nodes, loading after the dump gives the same fields
(`loadNetwork_overlays`, ...). `redump_restores_iff` adds the nodes.
-/

namespace OpenCattus

open Foundations Foundations.Text Foundations.Inet KeyData

variable {kf kf' : KeyFile}

/-! ## Settings -/

theorem loadInformation_overlays {r : AFInformation}
    (ho : kf'.data.Overlays kf.data "information" (informationEntries r)) :
    loadInformation kf' = .ok r := by
  simp [loadInformation, KeyFile.getString, ho.lookup_eq, informationEntries, assigned]

theorem loadTimeSettings_overlays {r : AFTime}
    (ho : kf'.data.Overlays kf.data "time" (timeEntries r)) : loadTimeSettings kf' = .ok r := by
  simp [loadTimeSettings, KeyFile.getString, ho.lookup_eq, timeEntries, assigned]

theorem loadHostnameSettings_overlays {r : AFHostname}
    (ho : kf'.data.Overlays kf.data "hostname" (hostnameEntries r)) :
    loadHostnameSettings kf' = .ok r := by
  simp [loadHostnameSettings, KeyFile.getString, ho.lookup_eq, hostnameEntries, assigned]

/-- The distribution that the file names. -/
def distroOf (kf : KeyFile) : Option OS.Distro :=
  (kf.data.lookup "system" "distro").bind fun rawDistro =>
    Enumeration.ofStringOpt (if lower rawDistro = "alma" then "almalinux" else lower rawDistro)

theorem loadSystemSettings_overlays {r : AFSystem} {dryRun : Bool}
    (h : loadSystemSettings kf dryRun = .ok r)
    (ho : kf'.data.Overlays kf.data "system" (systemEntries r)) :
    loadSystemSettings kf' dryRun = .ok r ↔ (distroOf kf).isSome = true := by
  have hgroup : kf'.hasGroup "system" = true := by
    rw [KeyFile.hasGroup, ho.hasGroup_eq]
    simp [systemEntries, assigns]
  have hdisk : kf'.data.lookup "system" "disk_image" = some r.diskImage := by
    simp [ho.lookup_eq, systemEntries, assigned]
  have hdistro : kf'.data.lookup "system" "distro" = some (Enumeration.toText r.distro) := by
    simp [ho.lookup_eq, systemEntries, assigned]
  have hversion : kf'.data.lookup "system" "version" = some r.version := by
    simp [ho.lookup_eq, systemEntries, assigned]
  have hkernel : kf'.data.lookup "system" "kernel" = r.kernel.or (kf.data.lookup "system" "kernel") := by
    simp [ho.lookup_eq, systemEntries, assigned]
  have hprovisioner : kf'.data.lookup "system" "provisioner" = some r.provisioner := by
    simp [ho.lookup_eq, systemEntries, assigned]
  have hload : loadSystemSettings kf' dryRun = .ok r ↔
      (lower r.provisioner = "confluent" ∨ lower r.provisioner = "xcat") ∧
        r.kernel.or (kf.data.lookup "system" "kernel") = r.kernel ∧
          lower r.provisioner = r.provisioner := by
    unfold loadSystemSettings
    simp only [KeyFile.getString, KeyFile.getStringOpt, hgroup, hdisk, hdistro, hversion, hkernel,
      hprovisioner, except_ok_bind, ofStringOpt_lower_distro, if_true, unwrap]
    split
    · rename_i hp
      simp [hp]
    · rename_i hp
      rw [not_and_or, not_not, not_not] at hp
      simp only [Except.ok.injEq, hp, true_and]
      constructor
      · intro heq
        exact ⟨congrArg AFSystem.kernel heq, congrArg AFSystem.provisioner heq⟩
      · rintro ⟨hk, hpr⟩
        rw [hk, hpr]
  rw [hload]
  unfold loadSystemSettings at h
  simp only [except_bind_ok, KeyFile.getString_eq_ok] at h
  obtain ⟨diskImage, -, rawDistro, hraw, h⟩ := h
  split at h
  · rename_i hunknown
    have hnone : distroOf kf = none := by simp [distroOf, hraw, hunknown]
    split at h
    · obtain rfl := Except.ok.inj h
      simp only [hnone, Option.isSome_none, Bool.false_eq_true, iff_false, not_and]
      intro hp
      exact absurd hp (by decide)
    · simp at h
  · rename_i distro hknown
    have hsome : distroOf kf = some distro := by simp [distroOf, hraw, hknown]
    simp only [except_bind_ok, KeyFile.getString_eq_ok, KeyFile.getStringOpt_eq_ok] at h
    obtain ⟨version, -, kernel, ⟨-, hk⟩, _, -, rawProvisioner, -, h⟩ := h
    split at h
    · simp at h
    · rename_i hp
      rw [not_and_or, not_not, not_not] at hp
      obtain rfl := Except.ok.inj h
      simp only [hsome, Option.isSome_some, iff_true, lower_lower, hp, true_and, and_true]
      rw [hk, Option.or_self]

theorem loadEnabledList_overlays {sectionName : String} {r : Option (List String)}
    (h : loadEnabledList kf sectionName = .ok r)
    (ho : kf'.data.Overlays kf.data sectionName (enabledEntries r)) :
    loadEnabledList kf' sectionName = .ok r := by
  have hstable := loadEnabledList_stable h
  have hold : kf.hasGroup sectionName = r.isSome := by
    unfold loadEnabledList at h
    split at h
    · rename_i hgroup
      rw [hgroup]
      obtain ⟨enabled, -, h⟩ := except_bind_ok.mp h
      cases enabled with
      | none =>
        obtain rfl := Except.ok.inj h
        rfl
      | some text =>
        dsimp only at h
        split at h <;> obtain rfl := Except.ok.inj h <;> rfl
    · rename_i hgroup
      obtain rfl := Except.ok.inj h
      simpa using hgroup
  have hgroup : kf'.hasGroup sectionName = r.isSome := by
    rw [KeyFile.hasGroup, ho.hasGroup_eq, ← KeyFile.hasGroup, hold]
    cases r <;> rfl
  unfold loadEnabledList
  rw [hgroup]
  cases r with
  | none => rfl
  | some values =>
    have hlookup : kf'.data.lookup sectionName "enabled" = some (joinList values) := by
      simp [ho.lookup_eq, enabledEntries, assigned]
    have hvalues : (if joinList values = "" then [] else respell values) = values := by
      simpa [reloadedList] using hstable
    simp only [Option.isSome_some, if_true, KeyFile.getStringOpt, hgroup, hlookup, except_ok_bind]
    split
    · rename_i hempty
      rw [if_pos hempty] at hvalues
      rw [hvalues]
    · rename_i hempty
      rw [if_neg hempty, respell] at hvalues
      rw [hvalues]

theorem loadSlurm_overlays {r : AFSlurm} (h : loadSlurm kf = .ok r)
    (ho : kf'.data.Overlays kf.data "slurm" (slurmEntries r)) : loadSlurm kf' = .ok r := by
  unfold loadSlurm at h
  split at h
  · simp only [except_bind_ok] at h
    obtain ⟨root, -, slurmdb, -, storage, -, partition, -, h⟩ := h
    obtain rfl := Except.ok.inj h
    have hgroup : kf'.hasGroup "slurm" = true := by
      rw [KeyFile.hasGroup, ho.hasGroup_eq]
      simp [slurmEntries, assigns]
    simp [loadSlurm, hgroup, loadSlurm.required, KeyFile.getStringOpt, ho.lookup_eq, slurmEntries,
      assigned, unwrap]
  · rename_i hmissing
    obtain rfl := Except.ok.inj h
    have hgroup : kf'.hasGroup "slurm" = false := by
      rw [KeyFile.hasGroup, ho.hasGroup_eq]
      simpa [slurmEntries, assigns, KeyFile.hasGroup] using hmissing
    simp [loadSlurm, hgroup]

theorem loadPBS_overlays {r : AFPBS} (h : loadPBS kf = .ok r)
    (ho : kf'.data.Overlays kf.data "pbs" (pbsEntries r)) : loadPBS kf' = .ok r := by
  unfold loadPBS at h
  split at h
  · obtain ⟨place, -, h⟩ := except_bind_ok.mp h
    dsimp only at h
    split at h
    · simp at h
    · obtain rfl := Except.ok.inj h
      have hgroup : kf'.hasGroup "pbs" = true := by
        rw [KeyFile.hasGroup, ho.hasGroup_eq]
        simp [pbsEntries, assigns]
      simp [loadPBS, hgroup, KeyFile.getStringOpt, ho.lookup_eq, pbsEntries, assigned,
        Enumeration.ofStringOpt_toText]
  · rename_i hmissing
    obtain rfl := Except.ok.inj h
    have hgroup : kf'.hasGroup "pbs" = false := by
      rw [KeyFile.hasGroup, ho.hasGroup_eq]
      simpa [pbsEntries, assigns, KeyFile.hasGroup] using hmissing
    simp [loadPBS, hgroup]

theorem loadOFED_overlays {r : AFOFED} (h : loadOFED kf = .ok r)
    (ho : kf'.data.Overlays kf.data "ofed" (ofedEntries r)) : loadOFED kf' = .ok r := by
  unfold loadOFED at h
  split at h
  · rename_i hold
    rw [KeyFile.hasGroup] at hold
    have hgroup : kf'.hasGroup "ofed" = true := by
      rw [KeyFile.hasGroup, ho.hasGroup_eq, hold, Bool.or_true]
    simp only [except_bind_ok, KeyFile.getString_eq_ok] at h
    obtain ⟨rawKind, hraw, h⟩ := h
    split at h
    · -- An empty kind leaves OFED disabled, and the dump leaves the section alone.
      rename_i hempty
      obtain rfl := Except.ok.inj h
      have hkind : kf'.data.lookup "ofed" "kind" = some "" := by
        simp [ho.lookup_eq, ofedEntries, assigned, hraw, hempty]
      simp [loadOFED, hgroup, KeyFile.getString, hkind]
    · split at h
      · simp at h
      · rename_i kind hnormal
        simp only [except_bind_ok, KeyFile.getString_eq_ok] at h
        obtain ⟨version, -, h⟩ := h
        obtain rfl := Except.ok.inj h
        obtain ⟨hkind, hne⟩ := normalizeOFEDKind_normal hnormal
        have hversion : (if version = "" then "latest" else version) ≠ "" := by
          split <;> simp_all
        simp [loadOFED, hgroup, KeyFile.getString, ho.lookup_eq, ofedEntries, assigned, hne, hkind,
          hversion]
  · rename_i hmissing
    obtain rfl := Except.ok.inj h
    have hgroup : kf'.hasGroup "ofed" = false := by
      rw [KeyFile.hasGroup, ho.hasGroup_eq]
      simpa [ofedEntries, assigns, KeyFile.hasGroup] using hmissing
    simp [loadOFED, hgroup]

/-! ## Mail -/

/-- The three sections of the mail settings after the dump. -/
structure PostfixOverlays (new old : KeyData) (mail : AFPostfix) : Prop where
  main : new.Overlays old "postfix" (postfixEntries mail)
  relay : new.Overlays old "postfix.relay" (postfixRelayEntries mail)
  sasl : new.Overlays old "postfix.sasl" (postfixSaslEntries mail)

theorem loadSMTP_overlays {mail : AFPostfix} (henabled : mail.enabled = true)
    (h : loadPostfix.loadSMTP kf mail.profile = .ok mail.smtp)
    (ho : PostfixOverlays kf'.data kf.data mail) :
    loadPostfix.loadSMTP kf' mail.profile = .ok mail.smtp := by
  have hrelay := ho.relay.lookup_eq
  have hsasl := ho.sasl.lookup_eq
  cases hprofile : mail.profile with
  | Local =>
    rw [hprofile] at h
    exact h
  | Relay =>
    rw [hprofile] at h
    simp only [loadPostfix.loadSMTP, except_bind_ok, parsePortAnswerfileField_eq_ok,
      Except.ok.injEq] at h
    obtain ⟨server, -, _, -, port, ⟨-, hport⟩, hsmtp⟩ := h
    simp only [loadPostfix.loadSMTP, except_bind_ok, KeyFile.getString_eq_ok, hrelay,
      postfixRelayEntries, henabled, hprofile, ← hsmtp, assigned, parsePortAnswerfileField_eq_ok]
    exact ⟨server, by simp, decimal port, by simp, port, ⟨by simp, hport⟩, rfl⟩
  | SASL =>
    rw [hprofile] at h
    simp only [loadPostfix.loadSMTP, except_bind_ok, parsePortAnswerfileField_eq_ok,
      Except.ok.injEq] at h
    obtain ⟨server, -, _, -, port, ⟨-, hport⟩, username, -, password, -, hsmtp⟩ := h
    simp only [loadPostfix.loadSMTP, except_bind_ok, KeyFile.getString_eq_ok, hsasl,
      postfixSaslEntries, henabled, hprofile, ← hsmtp, assigned, parsePortAnswerfileField_eq_ok]
    exact ⟨server, by simp, decimal port, by simp, port, ⟨by simp, hport⟩, username, by simp,
      password, by simp, rfl⟩

/-- A text that is only written when it is not empty. -/
theorem getD_unlessEmpty_or (old : Option String) :
    ((unlessEmpty (old.getD "")).or old).getD "" = old.getD "" := by
  unfold unlessEmpty
  split <;> simp

/-- The destinations that a text denotes. -/
def destinationOf (text : Option String) : List String :=
  if text.getD "" = "" then [] else split isListSeparator (text.getD "")

theorem destinationOf_unlessNil_or (old : Option String) :
    destinationOf ((unlessNil (destinationOf old)).or old) = destinationOf old := by
  unfold unlessNil
  by_cases hempty : old.getD "" = ""
  · simp [destinationOf, hempty]
  · have hsplit : destinationOf old = split isListSeparator (old.getD "") := if_neg hempty
    have hne : split isListSeparator (old.getD "") ≠ [] := split_ne_nil _
    have hjoin := joinList_split_ne_empty hempty
    have hrespell := respell_split (old.getD "")
    rw [hsplit, if_neg hne]
    simp only [destinationOf, Option.some_or, Option.getD_some, hjoin, if_false]
    exact hrespell

theorem loadPostfix_overlays {r : AFPostfix} (h : loadPostfix kf = .ok r)
    (ho : PostfixOverlays kf'.data kf.data r) : loadPostfix kf' = .ok r := by
  have hlookup := ho.main.lookup_eq
  unfold loadPostfix at h
  split at h
  · rename_i hold
    rw [KeyFile.hasGroup] at hold
    have hgroup : kf'.hasGroup "postfix" = true := by
      rw [KeyFile.hasGroup, ho.main.hasGroup_eq, hold, Bool.or_true]
    simp only [except_bind_ok, KeyFile.getStringOpt_eq_ok, KeyFile.getString_eq_ok] at h
    obtain ⟨destination, ⟨-, hdestination⟩, profileText, -, h⟩ := h
    split at h
    · simp at h
    · rename_i profile _
      simp only [except_bind_ok, KeyFile.getStringOpt_eq_ok] at h
      obtain ⟨smtp, hsmtp, cert, ⟨-, hcert⟩, key, ⟨-, hkey⟩, h⟩ := h
      obtain rfl := Except.ok.inj h
      have hsmtp' := loadSMTP_overlays rfl hsmtp ho
      have hd : kf'.data.lookup "postfix" "destination" =
          (unlessNil (destinationOf destination)).or destination := by
        simp [hlookup, postfixEntries, assigned, hdestination, destinationOf]
      have hp : kf'.data.lookup "postfix" "profile" = some (Enumeration.toText profile) := by
        simp [hlookup, postfixEntries, assigned]
      have hc : kf'.data.lookup "postfix" "smtpd_tls_cert_file" =
          (unlessEmpty (cert.getD "")).or cert := by
        simp [hlookup, postfixEntries, assigned, hcert]
      have hk : kf'.data.lookup "postfix" "smtpd_tls_key_file" =
          (unlessEmpty (key.getD "")).or key := by
        simp [hlookup, postfixEntries, assigned, hkey]
      have hdest := destinationOf_unlessNil_or destination
      unfold destinationOf at hdest hd
      simp only [loadPostfix, hgroup, if_true, KeyFile.getStringOpt, KeyFile.getString, hd, hp, hc,
        hk, except_ok_bind, Enumeration.ofStringOpt_toText, hsmtp', getD_unlessEmpty_or, hdest]
  · rename_i hmissing
    obtain rfl := Except.ok.inj h
    have hgroup : kf'.hasGroup "postfix" = false := by
      rw [KeyFile.hasGroup, ho.main.hasGroup_eq]
      simpa [postfixEntries, assigns, KeyFile.hasGroup] using hmissing
    simp [loadPostfix, hgroup]

/-! ## Networks and the generic node -/

section

variable [Inet6]

/-- An address is written as the text of what was read. -/
theorem convertNetworkAddressAndValidate_overlays {sectionName fieldName : String}
    {a : Option Address} (h : convertNetworkAddressAndValidate kf sectionName fieldName = .ok a)
    (hgroup : kf'.hasGroup sectionName = true)
    (hlookup : kf'.data.lookup sectionName fieldName =
      (a.map Address.toText).or (kf.data.lookup sectionName fieldName)) :
    convertNetworkAddressAndValidate kf' sectionName fieldName = .ok a := by
  apply (convertNetworkAddressAndValidate_toText hgroup ?_).mpr rfl
  rw [hlookup]
  cases a with
  | some address => rfl
  | none =>
    unfold convertNetworkAddressAndValidate at h
    simp only [except_bind_ok, KeyFile.getStringOpt_eq_ok] at h
    obtain ⟨value, ⟨-, hvalue⟩, h⟩ := h
    cases value with
    | none => rw [hvalue]; rfl
    | some text =>
      obtain ⟨address, -, h⟩ := except_bind_ok.mp h
      cases h

theorem loadNetwork_overlays {networkSection : String} {r : AFNetwork}
    (h : loadNetwork kf networkSection = .ok r)
    (ho : kf'.data.Overlays kf.data networkSection (networkEntries r)) :
    loadNetwork kf' networkSection = .ok r := by
  unfold loadNetwork at h
  simp only [except_bind_ok, KeyFile.getString_eq_ok, KeyFile.getStringOr_eq_ok,
    KeyFile.getStringOpt_eq_ok] at h
  obtain ⟨interface, -, ip, hip, mac, -, mask, hmask, _, hcheck, domain, ⟨-, hdomain⟩, gateway,
    hgateway, _, hinside, nameservers, ⟨-, hnameservers⟩, h⟩ := h
  obtain rfl := Except.ok.inj h
  have hgroup : kf'.hasGroup networkSection = true := by
    rw [KeyFile.hasGroup, ho.hasGroup_eq]
    simp [networkEntries, assigns]
  have hip' := convertNetworkAddressAndValidate_overlays hip hgroup
    (by simp [ho.lookup_eq, networkEntries, assigned])
  have hmask' := convertNetworkAddressAndValidate_overlays hmask hgroup
    (by simp [ho.lookup_eq, networkEntries, assigned])
  have hgateway' := convertNetworkAddressAndValidate_overlays hgateway hgroup
    (by simp [ho.lookup_eq, networkEntries, assigned])
  have hdomain' : kf'.data.lookup networkSection "domain_name" = domain := by
    simp [ho.lookup_eq, networkEntries, assigned, hdomain]
  have hnameservers' : (kf'.data.lookup networkSection "nameservers").map (split isListSeparator) =
      nameservers.map (split isListSeparator) := by
    cases nameservers with
    | none => simp [ho.lookup_eq, networkEntries, assigned, hnameservers]
    | some text =>
      have hrespell := respell_split text
      unfold respell at hrespell
      simp [ho.lookup_eq, networkEntries, assigned, unlessNil, split_ne_nil, hrespell]
  have hinterface' : kf'.data.lookup networkSection "interface" = some interface := by
    simp [ho.lookup_eq, networkEntries, assigned]
  have hmac' : kf'.data.lookup networkSection "mac_address" = some mac := by
    simp [ho.lookup_eq, networkEntries, assigned]
  simp [loadNetwork, KeyFile.getString, KeyFile.getStringOr, KeyFile.getStringOpt, hgroup,
    hinterface', hmac', hip', hmask', hcheck, hdomain', hgateway', hinside, hnameservers']

theorem loadOptionalNetwork_overlays {networkSection : String} {r : AFNetwork}
    (h : loadOptionalNetwork kf networkSection = .ok r)
    (ho : kf'.data.Overlays kf.data networkSection (networkEntries r)) :
    loadOptionalNetwork kf' networkSection = .ok r := by
  unfold loadOptionalNetwork at h ⊢
  split at h
  · rename_i hold
    rw [KeyFile.hasGroup] at hold
    have hgroup : kf'.hasGroup networkSection = true := by
      rw [KeyFile.hasGroup, ho.hasGroup_eq, hold, Bool.or_true]
    rw [if_pos hgroup]
    exact loadNetwork_overlays h ho
  · rename_i hmissing
    obtain rfl := Except.ok.inj h
    have hgroup : kf'.hasGroup networkSection = false := by
      rw [KeyFile.hasGroup, ho.hasGroup_eq]
      simpa [networkEntries, assigns, KeyFile.hasGroup] using hmissing
    simp [hgroup]

theorem loadGenericNode_overlays {r : AFNode} (h : loadNode kf "node" = .ok r)
    (ho : kf'.data.Overlays kf.data "node" (genericNodeEntries r)) :
    loadNode kf' "node" = .ok r := by
  have hip : kf'.data.lookup "node" "node_ip" = r.startIp.map Address.toText := by
    obtain ⟨a, ha⟩ := Option.isSome_iff_exists.mp (loadGenericNode_stable h).1.startIp
    simp [ho.lookup_eq, genericNodeEntries, assigned, ha]
  unfold loadNode loadGenericNode at h
  simp only [if_true, except_bind_ok] at h
  obtain ⟨nodePrefix, -, padding, -, root, -, sockets, -, cores, -, cpus, -, threads, -, memory, -,
    username, -, password, -, port, -, speed, -, ip, -, _, hvalid, h⟩ := h
  obtain rfl := Except.ok.inj h
  have hip' := (loadNodeIp_toText hip).mpr rfl
  simp [loadNode, loadGenericNode, KeyFile.getString, ho.lookup_eq, genericNodeEntries, assigned,
    hip', hvalid]

/-! ## One numbered node -/

omit [Inet6] in
/-- A BMC field that inheritance leaves unset had no text. -/
theorem bmc_eq_none_of_resolveNode (generic node : AFNode) :
    let r := resolveNode generic node
    (r.bmcAddress = none → node.bmcAddress.getD "" = "") ∧
      (r.bmcUsername = none → node.bmcUsername.getD "" = "") ∧
      (r.bmcPassword = none → node.bmcPassword.getD "" = "") ∧
      (r.bmcSerialport = none → node.bmcSerialport.getD "" = "") ∧
      (r.bmcSerialspeed = none → node.bmcSerialspeed.getD "" = "") := by
  have hinherit : ∀ own generic : Option String, inheritText own generic = none →
      own.getD "" = "" := by
    intro own generic h
    unfold inheritText at h
    split at h
    · rw [h]
      rfl
    · rename_i htext
      cases own with
      | none => rfl
      | some text => simpa [hasText] using htext
  have hclear : ∀ own : Option String, clearIfEmpty own = none → own.getD "" = "" := by
    intro own h
    cases own with
    | none => rfl
    | some text => simpa [clearIfEmpty, Option.filter] using h
  unfold resolveNode resolveBMC
  split
  · exact ⟨hinherit _ _, hinherit _ _, hinherit _ _, hinherit _ _, hinherit _ _⟩
  · exact ⟨hclear _, hclear _, hclear _, hclear _, hclear _⟩

omit [Inet6] in
theorem getD_or {value old : Option String} (h : value = none → old.getD "" = "") :
    (value.or old).getD "" = value.getD "" := by
  cases value with
  | none => exact h rfl
  | some text => rfl

omit [Inet6] in
theorem ne_none_of_hasText {value : Option String} (h : hasText value = true) : value ≠ none := by
  rintro rfl
  simp at h

theorem loadNumberedNode_overlays {sectionName : String} {generic r : AFNode}
    (hsection : sectionName ≠ "node") (hgeneric : hasText generic.bmcAddress = false)
    (h : loadNumberedNode kf generic sectionName = .ok r)
    (ho : kf'.data.Overlays kf.data sectionName (nodeEntries r)) :
    loadNumberedNode kf' generic sectionName = .ok r := by
  obtain ⟨hresolved, hcanonical⟩ := loadNumberedNode_canonical hsection h
  have hreloaded := hcanonical.reloadedNode_eq hresolved hgeneric
  suffices hraw : loadNode kf' sectionName = .ok r.raw from
    (loadNumberedNode_of_raw hcanonical.named hraw).mpr ⟨hreloaded.symm, hresolved⟩
  have hgroup : kf'.hasGroup sectionName = true := by
    rw [KeyFile.hasGroup, ho.hasGroup_eq, hcanonical.named.assigns, Bool.true_or]
  have hip : kf'.data.lookup sectionName "node_ip" = r.startIp.map Address.toText := by
    have hs := hresolved.startIp
    cases hstart : r.startIp with
    | none => simp [hstart, isSpecified] at hs
    | some a => simp [ho.lookup_eq, nodeEntries, assigned, hstart]
  obtain ⟨mac, hmac⟩ := Option.isSome_iff_exists.mp hcanonical.named.macAddress
  -- What the old section has under the keys of the BMC.
  obtain ⟨ha, hu, hp, ho', hs⟩ : (r.bmcAddress = none →
      (kf.data.lookup sectionName "bmc_address").getD "" = "") ∧
      (r.bmcUsername = none → (kf.data.lookup sectionName "bmc_username").getD "" = "") ∧
      (r.bmcPassword = none → (kf.data.lookup sectionName "bmc_password").getD "" = "") ∧
      (r.bmcSerialport = none → (kf.data.lookup sectionName "bmc_serialport").getD "" = "") ∧
      (r.bmcSerialspeed = none → (kf.data.lookup sectionName "bmc_serialspeed").getD "" = "") := by
    unfold loadNumberedNode at h
    simp only [except_bind_ok, rethrowInvalidArgument_eq_ok, validateNode_eq_ok] at h
    obtain ⟨node, hnode, hostname, -, rfl, -⟩ := h
    unfold loadNode at hnode
    rw [if_neg hsection] at hnode
    simp only [except_bind_ok, KeyFile.getStringOr_eq_ok] at hnode
    obtain ⟨_, -, _, -, _, -, _, -, _, -, _, -, _, -, address, ⟨-, haddress⟩, username,
      ⟨-, husername⟩, password, ⟨-, hpassword⟩, port, ⟨-, hport⟩, speed, ⟨-, hspeed⟩, hnode⟩ := hnode
    obtain rfl := Except.ok.inj hnode
    rw [haddress, husername, hpassword, hport, hspeed]
    exact bmc_eq_none_of_resolveNode generic _
  unfold loadNode
  rw [if_neg hsection, loadOptionalNodeIp_toText hgroup hip]
  have htext : ∀ {value : Option String} {old : Option String}, hasText value = true →
      (value.or old).getD "" = value.getD "" :=
    fun hvalue => getD_or fun hnone => absurd hnone (ne_none_of_hasText hvalue)
  simp [KeyFile.getString, KeyFile.getStringOr, hgroup, ho.lookup_eq, nodeEntries, assigned, hmac,
    AFNode.raw, htext hcanonical.named.hostname, htext hresolved.rootPassword,
    htext hresolved.sockets, htext hresolved.coresPerSocket, htext hresolved.threadsPerCore,
    getD_or ha, getD_or hu, getD_or hp, getD_or ho', getD_or hs]

/-! ## All numbered nodes -/

theorem loadNumberedNodes_eq_ok {generic : AFNode} {sections : List String}
    {acc rs : List AFNode} (hacc : acc.length ≤ vectorMaxSize) :
    loadNumberedNodes kf generic sections acc = .ok rs ↔
      acc.length + sections.length ≤ vectorMaxSize ∧
        ∃ nodes, List.Forall₂ (fun name node => loadNumberedNode kf generic name = .ok node)
          sections nodes ∧ rs = acc ++ nodes := by
  induction sections generalizing acc with
  | nil => simp [loadNumberedNodes, hacc, eq_comm]
  | cons name rest ih =>
    simp only [loadNumberedNodes, except_bind_ok, pushBack_eq_ok, List.length_cons]
    constructor
    · rintro ⟨node, hnode, _, ⟨hlt, rfl⟩, htail⟩
      have hlen : (acc ++ [node]).length ≤ vectorMaxSize := by simp; omega
      obtain ⟨hmax, nodes, hnodes, rfl⟩ := (ih hlen).mp htail
      refine ⟨?_, node :: nodes, .cons hnode hnodes, by simp⟩
      simp only [List.length_append, List.length_singleton] at hmax
      omega
    · rintro ⟨hmax, _, hnodes, rfl⟩
      cases hnodes with
      | cons hnode hnodes =>
        rename_i node nodes
        have hlen : (acc ++ [node]).length ≤ vectorMaxSize := by simp; omega
        refine ⟨node, hnode, _, ⟨by omega, rfl⟩, (ih hlen).mpr ⟨?_, nodes, hnodes, by simp⟩⟩
        simp only [List.length_append, List.length_singleton]
        omega

omit [Inet6] in
/-- The sections that `loadNodes` goes through. -/
def nodeSections (kf : KeyFile) : List String :=
  (kf.listAllPrefixedEntries "node.").filter isNodeNumber

omit [Inet6] in
theorem ne_node_of_mem {name : String} (h : name ∈ nodeSections kf) : name ≠ "node" := by
  rintro rfl
  have hstarts := (List.mem_filter.mp (List.mem_of_mem_filter h)).2
  revert hstarts
  decide

/-- The generic node and one node for each section, in file order. -/
theorem loadNodes_eq_ok {r : AFNodes} :
    loadNodes kf = .ok r ↔
      ∃ generic, loadNode kf "node" = .ok generic ∧ r.generic = some generic ∧
        (nodeSections kf).length ≤ vectorMaxSize ∧
          List.Forall₂ (fun name node => loadNumberedNode kf generic name = .ok node)
            (nodeSections kf) r.nodes ∧ DistinctInventory r.nodes := by
  have hnil : ([] : List AFNode).length ≤ vectorMaxSize := Nat.zero_le _
  unfold loadNodes
  simp only [except_bind_ok, validateNodeInventoryTopology_eq_ok, loadNumberedNodes_eq_ok hnil,
    ← nodeSections.eq_def, List.length_nil, Nat.zero_add, List.nil_append]
  constructor
  · rintro ⟨generic, hgeneric, _, ⟨hmax, nodes, hnodes, rfl⟩, _, hdistinct, heq⟩
    obtain rfl := Except.ok.inj heq
    exact ⟨generic, hgeneric, rfl, hmax, hnodes, hdistinct⟩
  · rintro ⟨generic, hgeneric, hg, hmax, hnodes, hdistinct⟩
    obtain ⟨_, nodes⟩ := r
    obtain rfl : _ = some generic := hg
    exact ⟨generic, hgeneric, nodes, ⟨hmax, nodes, hnodes, rfl⟩, (), hdistinct, rfl⟩

omit [Inet6] in
/-- The numbered sections are `node.1`, `node.2`, ... in this order. -/
def DenselyNumbered (kf : KeyFile) : Prop :=
  nodeSections kf = (List.range' 1 (nodeSections kf).length).map nodeSection

instance (kf : KeyFile) : Decidable (DenselyNumbered kf) := inferInstanceAs (Decidable (_ = _))

/-- The dump appends a section for every number that has none. -/
theorem nodeSections_dumpOptions {path : String} {af : AnswerFile}
    (hnamed : ∀ node ∈ af.nodes.nodes, node.Named) (hsize : af.nodes.nodes.length < sizeLimit) :
    nodeSections ⟨path, dumpOptions af kf.data⟩ =
      nodeSections kf ++ ((List.range' 1 af.nodes.nodes.length).map nodeSection).filter
        fun name => !kf.hasGroup name := by
  have hprefixed := prefixed_dumpOptions_over kf.data fun node hnode => (hnamed node hnode).assigns
  have hnew := filter_isNodeNumber hsize
  rw [List.filter_eq_self] at hnew
  unfold nodeSections KeyFile.listAllPrefixedEntries
  rw [hprefixed, List.filter_append, List.append_right_inj]
  apply List.filter_eq_self.mpr
  intro name hname
  exact hnew name (List.mem_of_mem_filter hname)

omit [Inet6] in
theorem mem_nodeSections {i : Nat} (hpos : 0 < i) (hlt : i < sizeLimit) :
    nodeSection i ∈ nodeSections kf ↔ kf.hasGroup (nodeSection i) = true := by
  rw [KeyFile.hasGroup, KeyData.hasGroup_iff_mem, nodeSections, KeyFile.listAllPrefixedEntries,
    KeyData.prefixed, List.mem_filter, List.mem_filter]
  simp [startsWith_nodeSection, isNodeNumber, nodeCounter_nodeSection hlt, hpos]

/-- A node keeps the host name that its section gives. -/
theorem hostname_of_loadNumberedNode {sectionName name : String} {generic r : AFNode}
    (hsection : sectionName ≠ "node") (hname : name ≠ "")
    (hlookup : kf.data.lookup sectionName "hostname" = some name)
    (h : loadNumberedNode kf generic sectionName = .ok r) : r.hostname = some name := by
  unfold loadNumberedNode at h
  simp only [except_bind_ok, rethrowInvalidArgument_eq_ok, validateNode_eq_ok] at h
  obtain ⟨node, hnode, hostname, hhostname, rfl, -⟩ := h
  unfold loadNode at hnode
  rw [if_neg hsection] at hnode
  simp only [except_bind_ok, KeyFile.getStringOr_eq_ok] at hnode
  obtain ⟨_, -, _, -, own, ⟨-, hown⟩, _, -, _, -, _, -, _, -, _, -, _, -, _, -, _, -, _, -, hnode⟩ :=
    hnode
  obtain rfl := Except.ok.inj hnode
  rw [hlookup] at hown
  obtain rfl : name = own := by simpa using hown
  simpa [nodeHostname, hname, resolveNode, eq_comm] using hhostname

/-- The sections of the numbered nodes after a dump over the file. -/
structure NodesOverlay (new old : KeyFile) (nodes : AFNodes) : Prop where
  generic : ∀ generic, nodes.generic = some generic →
    new.data.Overlays old.data "node" (genericNodeEntries generic)
  node : ∀ i node, nodes.nodes[i]? = some node →
    new.data.Overlays old.data (nodeSection (1 + i)) (nodeEntries node)
  sections : nodeSections new = nodeSections old ++
    ((List.range' 1 nodes.nodes.length).map nodeSection).filter fun name => !old.hasGroup name

/-- The dump over the file gives the nodes back exactly when they were numbered densely:
otherwise a section is added, or one node is written over the section of another. -/
theorem loadNodes_overlays {r : AFNodes} (h : loadNodes kf = .ok r) (ho : NodesOverlay kf' kf r) :
    loadNodes kf' = .ok r ↔ DenselyNumbered kf := by
  have hloaded := loadNodes_loaded h
  obtain ⟨generic, hgeneric, hsome, hmax, hnodes, hdistinct⟩ := loadNodes_eq_ok.mp h
  obtain ⟨hlength, hget⟩ := List.forall₂_iff_get.mp hnodes
  have hgeneric' := loadGenericNode_overlays hgeneric (ho.generic generic hsome)
  have hsize : r.nodes.length < sizeLimit := by
    rw [← hlength]
    exact lt_of_le_of_lt hmax vectorMaxSize_lt_sizeLimit
  have hbmc : hasText generic.bmcAddress = false := by
    obtain ⟨g, hg, -, hself, -⟩ := hloaded.generic
    obtain rfl : generic = g := by simpa [hsome] using hg
    rw [← hself]
    rfl
  rw [loadNodes_eq_ok]
  constructor
  · rintro ⟨g, -, hg, -, hnodes', -⟩
    obtain rfl : generic = g := by simpa [hsome] using hg
    -- As many sections as before: none was added.
    have hnone : ((List.range' 1 r.nodes.length).map nodeSection).filter
        (fun name => !kf.hasGroup name) = [] := by
      have hlength' := hnodes'.length_eq
      rw [ho.sections, List.length_append] at hlength'
      exact List.length_eq_zero_iff.mp (by omega)
    rw [ho.sections, hnone, List.append_nil] at hnodes'
    obtain ⟨-, hget'⟩ := List.forall₂_iff_get.mp hnodes'
    unfold DenselyNumbered
    apply List.ext_getElem (by simp)
    intro i hi hi'
    have hin : i < r.nodes.length := by omega
    -- Section `1 + i` is one of the file, say the `k`th.
    have hgroup : kf.hasGroup (nodeSection (1 + i)) = true := by
      by_contra hmissing
      have hmem : nodeSection (1 + i) ∈ ((List.range' 1 r.nodes.length).map nodeSection).filter
          fun name => !kf.hasGroup name := by
        refine List.mem_filter.mpr ⟨List.mem_map_of_mem ?_, by simpa using hmissing⟩
        exact List.mem_range'_1.mpr ⟨by omega, by omega⟩
      rw [hnone] at hmem
      cases hmem
    obtain ⟨k, hk, hkeq⟩ := List.getElem_of_mem ((mem_nodeSections (by omega) (by omega)).mpr hgroup)
    -- It holds the host name of node `i` and is loaded as node `k`.
    have hkn : k < r.nodes.length := by omega
    have hnamed := (hloaded.named _ (List.getElem_mem hin)).hostname
    have hsame : r.nodes[k].hostname = r.nodes[i].hostname := by
      cases hname : r.nodes[i].hostname with
      | none => simp [hname] at hnamed
      | some name =>
        have hne : name ≠ "" := by simpa [hname] using hnamed
        have hlookup : kf'.data.lookup (nodeSection (1 + i)) "hostname" = some name := by
          rw [(ho.node i _ (List.getElem?_eq_getElem hin)).lookup_eq]
          simp [nodeEntries, assigned, hname]
        have hload := hget' k hk hkn
        simp only [List.get_eq_getElem, hkeq] at hload
        exact hostname_of_loadNumberedNode (hkeq ▸ ne_node_of_mem (List.getElem_mem hk)) hne hlookup
          hload
    have hki : k = i := by
      have hnodup := hloaded.nodup_hostnames
      have hk' : k < (r.nodes.map (·.hostname.getD "")).length := by simpa using hkn
      have hi' : i < (r.nodes.map (·.hostname.getD "")).length := by simpa using hin
      apply (@List.Nodup.getElem_inj_iff _ _ hnodup k hk' i hi').mp
      simp [hsame]
    subst hki
    rw [hkeq]
    simp
  · intro hdense
    have hsections : nodeSections kf' = nodeSections kf := by
      rw [ho.sections, List.append_right_eq_self, List.filter_eq_nil_iff]
      intro name hname
      rw [← hlength, ← hdense] at hname
      obtain ⟨i, hi, rfl⟩ := List.mem_map.mp (hdense ▸ hname)
      have hrange := List.mem_range'_1.mp hi
      simp [(mem_nodeSections (by omega) (by omega)).mp hname]
    refine ⟨generic, hgeneric', hsome, by rw [hsections]; exact hmax, ?_, hdistinct⟩
    rw [hsections]
    refine List.forall₂_iff_get.mpr ⟨hlength, fun i hi hin => ?_⟩
    have hname : (nodeSections kf).get ⟨i, hi⟩ = nodeSection (1 + i) := by
      rw [List.get_eq_getElem, List.getElem_of_eq hdense hi]
      simp
    have hload := hget i hi hin
    have hne := ne_node_of_mem (List.get_mem (nodeSections kf) ⟨i, hi⟩)
    rw [hname] at hload hne ⊢
    exact loadNumberedNode_overlays hne hbmc hload (ho.node i _ (List.getElem?_eq_getElem hin))

/-! ## The whole file -/

/-- The sections of a file after a record was dumped over it. -/
structure DumpOverlays (new old : KeyFile) (af : AnswerFile) : Prop where
  external : new.data.Overlays old.data "network_external" (networkEntries af.external)
  management : new.data.Overlays old.data "network_management" (networkEntries af.management)
  service : new.data.Overlays old.data "network_service" (networkEntries af.service)
  application : new.data.Overlays old.data "network_application" (networkEntries af.application)
  information : new.data.Overlays old.data "information" (informationEntries af.information)
  time : new.data.Overlays old.data "time" (timeEntries af.time)
  hostname : new.data.Overlays old.data "hostname" (hostnameEntries af.hostname)
  system : new.data.Overlays old.data "system" (systemEntries af.system)
  repositories : new.data.Overlays old.data "repositories" (enabledEntries af.repositories)
  ohpc : new.data.Overlays old.data "ohpc" (enabledEntries af.ohpc)
  slurm : new.data.Overlays old.data "slurm" (slurmEntries af.slurm)
  pbs : new.data.Overlays old.data "pbs" (pbsEntries af.pbs)
  nodes : NodesOverlay new old af.nodes
  ofed : new.data.Overlays old.data "ofed" (ofedEntries af.ofed)
  postfixMail : PostfixOverlays new.data old.data af.postfixMail

theorem dumpOverlays_dumpOptions {path : String} {af : AnswerFile} (h : af.nodes.Loaded) :
    DumpOverlays ⟨path, dumpOptions af kf.data⟩ kf af := by
  have hsize : af.nodes.nodes.length < sizeLimit :=
    lt_of_le_of_lt h.loadable.size vectorMaxSize_lt_sizeLimit
  have hblock : ∀ {g entries}, (g, entries) ∈ dumpBlocks af →
      (dumpOptions af kf.data).Overlays kf.data g entries := by
    intro g entries hb
    rw [dumpOptions_eq_setBlocks]
    exact overlays_setBlocks kf.data (nodup_dumpBlocks af) hb
  have hset : ∀ {g entries}, (g, entries) ∈ settingBlocks af →
      (dumpOptions af kf.data).Overlays kf.data g entries := fun hb =>
    hblock (by simp [dumpBlocks, hb])
  have hserv : ∀ {g entries}, (g, entries) ∈ serviceBlocks af →
      (dumpOptions af kf.data).Overlays kf.data g entries := fun hb =>
    hblock (by simp [dumpBlocks, hb])
  unfold settingBlocks at hset
  unfold serviceBlocks at hserv
  exact
    { external := hset (by simp)
      management := hset (by simp)
      service := hset (by simp)
      application := hset (by simp)
      information := hset (by simp)
      time := hset (by simp)
      hostname := hset (by simp)
      system := hset (by simp)
      repositories := hset (by simp)
      ohpc := hset (by simp)
      slurm := hset (by simp)
      pbs := hset (by simp)
      nodes :=
        { generic := fun generic hgeneric => hset (by simp [hgeneric])
          node := fun i node hnode => hblock (by simp [dumpBlocks, mem_nodeBlocks hnode])
          sections := nodeSections_dumpOptions h.named hsize }
      ofed := hserv (by simp)
      postfixMail := ⟨hserv (by simp), hserv (by simp), hserv (by simp)⟩ }

theorem loadOptions_overlays {af : AnswerFile} {dryRun : Bool} (h : loadOptions kf dryRun = .ok af)
    (ho : DumpOverlays kf' kf af) :
    loadOptions kf' dryRun = .ok af ↔ (distroOf kf).isSome = true ∧ DenselyNumbered kf := by
  unfold loadOptions loadExternalNetwork loadManagementNetwork loadServiceNetwork
    loadApplicationNetwork loadRepositories loadOHPC at h
  simp only [except_bind_ok, validateSingleQueueSystem_eq_ok] at h
  obtain ⟨external, h₁, management, h₂, service, h₃, application, h₄, information, -, time, -,
    hostname, -, system, h₅, repositories, h₆, ohpc, h₇, nodes, h₈, mail, h₉, ofed, h₁₀, slurm, h₁₁,
    pbs, h₁₂, _, hqueue, h⟩ := h
  obtain rfl := Except.ok.inj h
  rw [← loadSystemSettings_overlays h₅ ho.system, ← loadNodes_overlays h₈ ho.nodes]
  unfold loadOptions loadExternalNetwork loadManagementNetwork loadServiceNetwork
    loadApplicationNetwork loadRepositories loadOHPC
  simp only [loadNetwork_overlays h₁ ho.external, loadNetwork_overlays h₂ ho.management,
    loadOptionalNetwork_overlays h₃ ho.service, loadOptionalNetwork_overlays h₄ ho.application,
    loadInformation_overlays ho.information, loadTimeSettings_overlays ho.time,
    loadHostnameSettings_overlays ho.hostname, loadEnabledList_overlays h₆ ho.repositories,
    loadEnabledList_overlays h₇ ho.ohpc, loadPostfix_overlays h₉ ho.postfixMail,
    loadOFED_overlays h₁₀ ho.ofed, loadSlurm_overlays h₁₁ ho.slurm, loadPBS_overlays h₁₂ ho.pbs,
    except_ok_bind, except_bind_ok, validateSingleQueueSystem_eq_ok]
  constructor
  · rintro ⟨_, hsystem, _, hnodes, _, -, heq⟩
    have heq := Except.ok.inj heq
    have h₁ := congrArg AnswerFile.system heq
    have h₂ := congrArg AnswerFile.nodes heq
    subst h₁ h₂
    exact ⟨hsystem, hnodes⟩
  · rintro ⟨hsystem, hnodes⟩
    exact ⟨system, hsystem, nodes, hnodes, (), hqueue, rfl⟩

/-- Dumping over the loaded file and loading that gives the fields back exactly when the file
names its distribution and numbers its nodes densely. -/
theorem redump_restores_iff {kf : KeyFile} {af : AnswerFile} {dryRun : Bool} (path : String)
    (h : loadOptions kf dryRun = .ok af) :
    loadOptions ⟨path, dumpOptions af kf.data⟩ dryRun = .ok af ↔
      (distroOf kf).isSome = true ∧ DenselyNumbered kf :=
  loadOptions_overlays h (dumpOverlays_dumpOptions (loadOptions_accepted h).nodes)

omit [Inet6] in
theorem sampleKeyFile_redumped :
    @loadOptions plainInet6 sampleKeyFile false = .ok sampleAnswerFile ∧
      @loadOptions plainInet6
        ⟨"copy.ini", @dumpOptions plainInet6 sampleAnswerFile sampleKeyFile.data⟩ false =
        .ok sampleAnswerFile :=
  ⟨loadOptions_sampleKeyFile,
    (@redump_restores_iff plainInet6 _ _ _ "copy.ini" loadOptions_sampleKeyFile).mpr
      (by decide)⟩

/-- `sampleKeyFile` with its first node commented out. -/
def gapKeyFile : KeyFile where
  path := "answerfile.ini"
  data :=
    { groups := sampleKeyFile.data.groups.dropLast ++
        [("node.2", [("mac_address", "aa:bb:cc:dd:ee:01"), ("node_ip", "192.168.1.11")])]
      nodup := by decide }

def gapAnswerFile : AnswerFile :=
  { sampleAnswerFile with
    nodes :=
      { sampleAnswerFile.nodes with
        nodes := sampleAnswerFile.nodes.nodes.map fun node => { node with hostname := some "n02" } } }

omit [Inet6] in
/-- The dump has the node twice, as `node.2` and as `node.1`. -/
theorem gapKeyFile_not_redumped :
    @loadOptions plainInet6 gapKeyFile false = .ok gapAnswerFile ∧
      @loadOptions plainInet6
        ⟨"copy.ini", @dumpOptions plainInet6 gapAnswerFile gapKeyFile.data⟩ false ≠
        .ok gapAnswerFile := by
  decide

end

end OpenCattus
