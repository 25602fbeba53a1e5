import OpenCattus.AnswerFile.Types

/-!
# Dumping an answerfile

The dump routines of `AnswerFile`, in the order of `dumpOptions`. Each writes one block
of keys; a field without a value writes nothing.

`dumpOptions_eq_setBlocks` gives the whole dump as a list of blocks, and
`nodup_dumpBlocks` says that no group is written twice.
-/

namespace OpenCattus

open Foundations Foundations.Text Foundations.Inet

/-! ## Blocks of the single sections -/

/-- `boost::algorithm::join` with `", "`. -/
def joinList (values : List String) : String := ", ".intercalate values

/-- A value that is only written when it is not empty. -/
def unlessEmpty (value : String) : Option String := if value = "" then none else some value

/-- A list that is only written when it is not empty. -/
def unlessNil (values : List String) : Option String :=
  if values = [] then none else some (joinList values)

section Inet

variable [Inet6]

def networkEntries (network : AFNetwork) : List (String × Option String) :=
  [("interface", network.conInterface),
    ("ip_address", network.conIpAddr.map Address.toText),
    ("mac_address", network.conMacAddr),
    ("subnet_mask", network.subnetMask.map Address.toText),
    ("domain_name", network.domainName),
    ("gateway", network.gateway.map Address.toText),
    ("nameservers", network.nameservers.bind unlessNil)]

/-- The generic node has no host name, MAC address or BMC address in the file. -/
def genericNodeEntries (generic : AFNode) : List (String × Option String) :=
  [("prefix", generic.nodePrefix),
    ("padding", generic.padding),
    ("node_ip", generic.startIp.map Address.toText),
    ("node_root_password", generic.rootPassword),
    ("sockets", generic.sockets),
    ("cores_per_socket", generic.coresPerSocket),
    ("cpus_per_node", generic.cpusPerNode),
    ("threads_per_core", generic.threadsPerCore),
    ("real_memory", generic.realMemory),
    ("bmc_username", generic.bmcUsername),
    ("bmc_password", generic.bmcPassword),
    ("bmc_serialport", generic.bmcSerialport),
    ("bmc_serialspeed", generic.bmcSerialspeed)]

def nodeEntries (node : AFNode) : List (String × Option String) :=
  [("hostname", node.hostname),
    ("mac_address", node.macAddress),
    ("node_ip", node.startIp.map Address.toText),
    ("node_root_password", node.rootPassword),
    ("sockets", node.sockets),
    ("cores_per_socket", node.coresPerSocket),
    ("threads_per_core", node.threadsPerCore),
    ("cpus_per_node", node.cpusPerNode),
    ("real_memory", node.realMemory),
    ("bmc_address", node.bmcAddress),
    ("bmc_username", node.bmcUsername),
    ("bmc_password", node.bmcPassword),
    ("bmc_serialport", node.bmcSerialport),
    ("bmc_serialspeed", node.bmcSerialspeed)]

end Inet

def informationEntries (information : AFInformation) : List (String × Option String) :=
  [("cluster_name", some information.clusterName),
    ("company_name", some information.companyName),
    ("administrator_email", some information.administratorEmail)]

def timeEntries (time : AFTime) : List (String × Option String) :=
  [("timezone", some time.timezone), ("timeserver", some time.timeserver),
    ("locale", some time.locale)]

def hostnameEntries (hostname : AFHostname) : List (String × Option String) :=
  [("hostname", some hostname.hostname), ("domain_name", some hostname.domainName)]

def systemEntries (system : AFSystem) : List (String × Option String) :=
  [("disk_image", some system.diskImage),
    ("distro", some (Enumeration.toText system.distro)),
    ("version", some system.version),
    ("kernel", system.kernel),
    ("provisioner", some system.provisioner)]

def enabledEntries (enabled : Option (List String)) : List (String × Option String) :=
  [("enabled", enabled.map joinList)]

def slurmEntries (slurm : AFSlurm) : List (String × Option String) :=
  if slurm.enabled then
    [("mariadb_root_password", some slurm.mariadbRootPassword),
      ("slurmdb_password", some slurm.slurmdbPassword),
      ("storage_password", some slurm.storagePassword),
      ("partition_name", some slurm.partitionName)]
  else []

def pbsEntries (pbs : AFPBS) : List (String × Option String) :=
  if pbs.enabled then [("execution_place", some (Enumeration.toText pbs.executionPlace))] else []

def ofedEntries (ofed : AFOFED) : List (String × Option String) :=
  if ofed.enabled then [("kind", some ofed.kind), ("version", ofed.version)] else []

def postfixEntries (mail : AFPostfix) : List (String × Option String) :=
  if mail.enabled then
    [("profile", some (Enumeration.toText mail.profile)),
      ("destination", unlessNil mail.destination),
      ("smtpd_tls_cert_file", unlessEmpty mail.certFile),
      ("smtpd_tls_key_file", unlessEmpty mail.keyFile)]
  else []

def postfixRelayEntries (mail : AFPostfix) : List (String × Option String) :=
  match mail.enabled, mail.profile, mail.smtp with
  | true, .Relay, some smtp => [("server", some smtp.server), ("port", some (decimal smtp.port))]
  | _, _, _ => []

def postfixSaslEntries (mail : AFPostfix) : List (String × Option String) :=
  match mail.enabled, mail.profile, mail.smtp with
  | true, .SASL, some smtp =>
    [("server", some smtp.server), ("port", some (decimal smtp.port)),
      ("username", smtp.sasl.map (·.username)), ("password", smtp.sasl.map (·.password))]
  | _, _, _ => []

/-! ## The dump routines -/

/-- The section name of a numbered node. -/
def nodeSection (counter : Nat) : String := "node." ++ decimal counter

theorem nodeSection_inj {m n : Nat} : nodeSection m = nodeSection n ↔ m = n := by
  simp [nodeSection, ← String.toList_inj]
  simp [String.toList_inj]

theorem startsWith_nodeSection (n : Nat) : startsWith (nodeSection n) "node." = true :=
  startsWith_append ..

section Dump

variable [Inet6]

def dumpNetwork (kd : KeyData) (network : AFNetwork) (networkSection : String) : KeyData :=
  kd.setAll networkSection (networkEntries network)

def dumpExternalNetwork (af : AnswerFile) (kd : KeyData) : KeyData :=
  dumpNetwork kd af.external "network_external"

def dumpManagementNetwork (af : AnswerFile) (kd : KeyData) : KeyData :=
  dumpNetwork kd af.management "network_management"

def dumpServiceNetwork (af : AnswerFile) (kd : KeyData) : KeyData :=
  dumpNetwork kd af.service "network_service"

def dumpApplicationNetwork (af : AnswerFile) (kd : KeyData) : KeyData :=
  dumpNetwork kd af.application "network_application"

def dumpNumberedNodes (kd : KeyData) (counter : Nat) : List AFNode → KeyData
  | [] => kd
  | node :: nodes =>
    dumpNumberedNodes (kd.setAll (nodeSection counter) (nodeEntries node)) (counter + 1) nodes

def dumpNodes (af : AnswerFile) (kd : KeyData) : KeyData :=
  let kd :=
    match af.nodes.generic with
    | some generic => kd.setAll "node" (genericNodeEntries generic)
    | none => kd
  dumpNumberedNodes kd 1 af.nodes.nodes

end Dump

def dumpInformation (af : AnswerFile) (kd : KeyData) : KeyData :=
  kd.setAll "information" (informationEntries af.information)

def dumpTimeSettings (af : AnswerFile) (kd : KeyData) : KeyData :=
  kd.setAll "time" (timeEntries af.time)

def dumpHostnameSettings (af : AnswerFile) (kd : KeyData) : KeyData :=
  kd.setAll "hostname" (hostnameEntries af.hostname)

def dumpSystemSettings (af : AnswerFile) (kd : KeyData) : KeyData :=
  kd.setAll "system" (systemEntries af.system)

def dumpRepositories (af : AnswerFile) (kd : KeyData) : KeyData :=
  kd.setAll "repositories" (enabledEntries af.repositories)

def dumpOHPC (af : AnswerFile) (kd : KeyData) : KeyData :=
  kd.setAll "ohpc" (enabledEntries af.ohpc)

def dumpSlurm (af : AnswerFile) (kd : KeyData) : KeyData :=
  kd.setAll "slurm" (slurmEntries af.slurm)

def dumpPBS (af : AnswerFile) (kd : KeyData) : KeyData :=
  kd.setAll "pbs" (pbsEntries af.pbs)

def dumpOFED (af : AnswerFile) (kd : KeyData) : KeyData :=
  kd.setAll "ofed" (ofedEntries af.ofed)

def dumpPostfix (af : AnswerFile) (kd : KeyData) : KeyData :=
  ((kd.setAll "postfix" (postfixEntries af.postfixMail)).setAll "postfix.relay"
    (postfixRelayEntries af.postfixMail)).setAll "postfix.sasl" (postfixSaslEntries af.postfixMail)

variable [Inet6]

def dumpOptions (af : AnswerFile) (kd : KeyData) : KeyData :=
  let kd := dumpExternalNetwork af kd
  let kd := dumpManagementNetwork af kd
  let kd := dumpServiceNetwork af kd
  let kd := dumpApplicationNetwork af kd
  let kd := dumpInformation af kd
  let kd := dumpTimeSettings af kd
  let kd := dumpHostnameSettings af kd
  let kd := dumpSystemSettings af kd
  let kd := dumpRepositories af kd
  let kd := dumpOHPC af kd
  let kd := dumpSlurm af kd
  let kd := dumpPBS af kd
  let kd := dumpNodes af kd
  let kd := dumpOFED af kd
  dumpPostfix af kd

/-! ## The dump as a list of blocks -/

/-- The blocks before the numbered nodes. -/
def settingBlocks (af : AnswerFile) : List KeyData.Block :=
  [("network_external", networkEntries af.external),
    ("network_management", networkEntries af.management),
    ("network_service", networkEntries af.service),
    ("network_application", networkEntries af.application),
    ("information", informationEntries af.information),
    ("time", timeEntries af.time),
    ("hostname", hostnameEntries af.hostname),
    ("system", systemEntries af.system),
    ("repositories", enabledEntries af.repositories),
    ("ohpc", enabledEntries af.ohpc),
    ("slurm", slurmEntries af.slurm),
    ("pbs", pbsEntries af.pbs),
    ("node", af.nodes.generic.elim [] genericNodeEntries)]

def nodeBlocks (counter : Nat) : List AFNode → List KeyData.Block
  | [] => []
  | node :: nodes => (nodeSection counter, nodeEntries node) :: nodeBlocks (counter + 1) nodes

/-- The blocks after the numbered nodes. -/
def serviceBlocks (af : AnswerFile) : List KeyData.Block :=
  [("ofed", ofedEntries af.ofed),
    ("postfix", postfixEntries af.postfixMail),
    ("postfix.relay", postfixRelayEntries af.postfixMail),
    ("postfix.sasl", postfixSaslEntries af.postfixMail)]

def dumpBlocks (af : AnswerFile) : List KeyData.Block :=
  settingBlocks af ++ nodeBlocks 1 af.nodes.nodes ++ serviceBlocks af

theorem dumpNumberedNodes_eq_setBlocks (kd : KeyData) (counter : Nat) (nodes : List AFNode) :
    dumpNumberedNodes kd counter nodes = kd.setBlocks (nodeBlocks counter nodes) := by
  induction nodes generalizing kd counter with
  | nil => rfl
  | cons node nodes ih => exact ih _ _

theorem dumpNodes_eq_setBlocks (af : AnswerFile) (kd : KeyData) :
    dumpNodes af kd =
      (kd.setAll "node" (af.nodes.generic.elim [] genericNodeEntries)).setBlocks
        (nodeBlocks 1 af.nodes.nodes) := by
  unfold dumpNodes
  rw [dumpNumberedNodes_eq_setBlocks]
  cases af.nodes.generic <;> rfl

theorem dumpOptions_eq_setBlocks (af : AnswerFile) (kd : KeyData) :
    dumpOptions af kd = kd.setBlocks (dumpBlocks af) := by
  rw [dumpBlocks, KeyData.setBlocks_append, KeyData.setBlocks_append]
  unfold dumpOptions
  simp only [dumpNodes_eq_setBlocks]
  rfl

/-! ## No group is written twice -/

theorem map_fst_nodeBlocks (counter : Nat) (nodes : List AFNode) :
    (nodeBlocks counter nodes).map Prod.fst =
      (List.range' counter nodes.length).map nodeSection := by
  induction nodes generalizing counter with
  | nil => rfl
  | cons node nodes ih => simp [nodeBlocks, ih, List.range'_succ]

theorem startsWith_settingBlocks (af : AnswerFile) :
    ∀ g ∈ (settingBlocks af).map Prod.fst, startsWith g "node." = false := by
  simp only [settingBlocks, List.map_cons, List.map_nil]
  decide

omit [Inet6] in
theorem startsWith_serviceBlocks (af : AnswerFile) :
    ∀ g ∈ (serviceBlocks af).map Prod.fst, startsWith g "node." = false := by
  simp only [serviceBlocks, List.map_cons, List.map_nil]
  decide

theorem nodup_dumpBlocks (af : AnswerFile) : ((dumpBlocks af).map Prod.fst).Nodup := by
  -- Only the numbered sections begin with `node.`, so the three parts are disjoint.
  have hnodes : ((nodeBlocks 1 af.nodes.nodes).map Prod.fst).Nodup := by
    rw [map_fst_nodeBlocks]
    exact List.Nodup.map (fun _ _ h => nodeSection_inj.mp h) List.nodup_range'
  have hstarts : ∀ g ∈ (nodeBlocks 1 af.nodes.nodes).map Prod.fst,
      startsWith g "node." = true := by
    intro g hg
    rw [map_fst_nodeBlocks] at hg
    obtain ⟨n, -, rfl⟩ := List.mem_map.mp hg
    exact startsWith_nodeSection n
  have hfixed : ((settingBlocks af).map Prod.fst ++ (serviceBlocks af).map Prod.fst).Nodup := by
    simp only [settingBlocks, serviceBlocks, List.map_cons, List.map_nil]
    decide
  obtain ⟨hset, hserv, hdisj⟩ := List.nodup_append.mp hfixed
  simp only [dumpBlocks, List.map_append]
  refine List.nodup_append.mpr ⟨List.nodup_append.mpr ⟨hset, hnodes, ?_⟩, hserv, ?_⟩
  · rintro g hg _ hg' rfl
    simpa [startsWith_settingBlocks af g hg] using hstarts g hg'
  · rintro g hg _ hg' rfl
    rcases List.mem_append.mp hg with hg | hg
    · exact hdisj g hg g hg' rfl
    · simpa [startsWith_serviceBlocks af g hg'] using hstarts g hg

/-- Every section of a dump into an empty key file carries its block. -/
theorem carries_dumpOptions (af : AnswerFile) {b : KeyData.Block} (hb : b ∈ dumpBlocks af) :
    (dumpOptions af KeyData.empty).Carries b.1 b.2 := by
  rw [dumpOptions_eq_setBlocks]
  exact KeyData.carries_setBlocks (nodup_dumpBlocks af) (fun _ _ => rfl) hb

theorem carries_dumpOptions_setting (af : AnswerFile) {g : String}
    {entries : List (String × Option String)} (hb : (g, entries) ∈ settingBlocks af) :
    (dumpOptions af KeyData.empty).Carries g entries :=
  carries_dumpOptions af (b := (g, entries)) (by simp [dumpBlocks, hb])

theorem carries_dumpOptions_service (af : AnswerFile) {g : String}
    {entries : List (String × Option String)} (hb : (g, entries) ∈ serviceBlocks af) :
    (dumpOptions af KeyData.empty).Carries g entries :=
  carries_dumpOptions af (b := (g, entries)) (by simp [dumpBlocks, hb])

theorem mem_nodeBlocks {counter i : Nat} {node : AFNode} {nodes : List AFNode}
    (h : nodes[i]? = some node) :
    (nodeSection (counter + i), nodeEntries node) ∈ nodeBlocks counter nodes := by
  induction nodes generalizing counter i with
  | nil => simp at h
  | cons n nodes ih =>
    cases i with
    | zero =>
      obtain rfl : n = node := by simpa using h
      exact List.mem_cons_self ..
    | succ i =>
      have hmem := @ih (counter + 1) i (by simpa using h)
      rw [show counter + (i + 1) = counter + 1 + i by omega]
      exact List.mem_cons_of_mem _ hmem

theorem carries_dumpOptions_node (af : AnswerFile) {i : Nat} {node : AFNode}
    (h : af.nodes.nodes[i]? = some node) :
    (dumpOptions af KeyData.empty).Carries (nodeSection (1 + i)) (nodeEntries node) :=
  carries_dumpOptions af (b := (nodeSection (1 + i), nodeEntries node))
    (by simp [dumpBlocks, mem_nodeBlocks h])

theorem filter_nodeBlocks {counter : Nat} {nodes : List AFNode}
    (h : ∀ node ∈ nodes, KeyData.assigns (nodeEntries node) = true) :
    (nodeBlocks counter nodes).filter (fun b => KeyData.assigns b.2) = nodeBlocks counter nodes := by
  rw [List.filter_eq_self]
  intro b hb
  induction nodes generalizing counter with
  | nil => cases hb
  | cons node nodes ih =>
    rcases List.mem_cons.mp hb with rfl | hb
    · exact h node (List.mem_cons_self ..)
    · exact ih (fun n hn => h n (List.mem_cons_of_mem _ hn)) hb

/-- A dump appends the numbered sections that the file does not have, in order. -/
theorem prefixed_dumpOptions_over {af : AnswerFile} (kd : KeyData)
    (h : ∀ node ∈ af.nodes.nodes, KeyData.assigns (nodeEntries node) = true) :
    (dumpOptions af kd).prefixed "node." =
      kd.prefixed "node." ++ ((List.range' 1 af.nodes.nodes.length).map nodeSection).filter
        fun name => !kd.hasGroup name := by
  have hfixed : ∀ bs : List KeyData.Block, (∀ g ∈ bs.map Prod.fst, startsWith g "node." = false) →
      ((bs.filter fun b => KeyData.assigns b.2 && !kd.hasGroup b.1).map Prod.fst).filter
        (startsWith · "node.") = [] := by
    intro bs hbs
    rw [List.filter_eq_nil_iff]
    intro g hg
    obtain ⟨b, hb, rfl⟩ := List.mem_map.mp hg
    simp [hbs b.1 (List.mem_map_of_mem (List.mem_of_mem_filter hb))]
  have hnodes : ((nodeBlocks 1 af.nodes.nodes).filter fun b =>
        KeyData.assigns b.2 && !kd.hasGroup b.1).map Prod.fst =
      ((List.range' 1 af.nodes.nodes.length).map nodeSection).filter
        fun name => !kd.hasGroup name := by
    simp only [Bool.and_comm (KeyData.assigns _)]
    rw [← List.filter_filter, filter_nodeBlocks h, ← map_fst_nodeBlocks, List.filter_map]
    rfl
  rw [dumpOptions_eq_setBlocks, KeyData.prefixed,
    KeyData.getGroups_setBlocks kd (nodup_dumpBlocks af)]
  simp only [dumpBlocks, List.filter_append, List.map_append]
  rw [hfixed _ (startsWith_settingBlocks af), hfixed _ (startsWith_serviceBlocks af), hnodes,
    List.nil_append, List.append_nil, KeyData.prefixed, List.append_right_inj, List.filter_eq_self]
  intro g hg
  obtain ⟨n, -, rfl⟩ := List.mem_map.mp (List.mem_of_mem_filter hg)
  exact startsWith_nodeSection n

/-- The numbered sections of a dump into an empty key file, in file order. -/
theorem prefixed_dumpOptions {af : AnswerFile}
    (h : ∀ node ∈ af.nodes.nodes, KeyData.assigns (nodeEntries node) = true) :
    (dumpOptions af KeyData.empty).prefixed "node." =
      (List.range' 1 af.nodes.nodes.length).map nodeSection := by
  rw [prefixed_dumpOptions_over KeyData.empty h, KeyData.prefixed_empty, List.nil_append,
    List.filter_eq_self]
  intro name _
  rfl

end OpenCattus
