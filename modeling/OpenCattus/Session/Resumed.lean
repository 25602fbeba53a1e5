import OpenCattus.Cluster.Filled
import OpenCattus.Session.Resume

/-!
# The model that a draft resumes to

`Resumption` collects what `applyDraftToModel` settles for a fresh model, and
`Resumption.cluster` is the model these values make, in terms of the record that the file
was written from. `applyDraftToModel_carries` says that this is what the reader builds
whenever the setters accept the values.
-/

namespace OpenCattus

open Foundations Foundations.Text Foundations.Inet KeyData

/-! ## Values of a written section -/

theorem optionalString_carries {kd : KeyData} {group : String}
    {entries : List (String × Option String)} (h : kd.Carries group entries) (key : String) :
    optionalString kd group key = clearIfEmpty (assigned entries key) := by
  unfold optionalString
  rw [← h.lookup_eq]
  cases hgroup : kd.hasGroup group with
  | true => rfl
  | false => rw [lookup_eq_none hgroup]; rfl

@[simp] theorem clearIfEmpty_none : clearIfEmpty none = none := rfl

@[simp] theorem clearIfEmpty_some (value : String) :
    clearIfEmpty (some value) = unlessEmpty value := by
  by_cases h : value = "" <;> simp [clearIfEmpty, unlessEmpty, h]

@[simp] theorem clearIfEmpty_unlessEmpty (value : String) :
    clearIfEmpty (unlessEmpty value) = unlessEmpty value := by
  by_cases h : value = "" <;> simp [clearIfEmpty, unlessEmpty, h]

@[simp] theorem unlessEmpty_decimal (n : Nat) : unlessEmpty (decimal n) = some (decimal n) :=
  if_neg (decimal_ne_empty n)

theorem unlessEmpty_of_ne {value : String} (h : value ≠ "") : unlessEmpty value = some value :=
  if_neg h

@[simp] theorem unlessEmpty_toText [Inet6] (a : Address) : unlessEmpty a.toText = some a.toText :=
  if_neg a.toText_ne_empty

@[simp] theorem bind_clearIfEmpty_map_toText [Inet6] (a : Option Address) :
    (clearIfEmpty (a.map Address.toText)).bind makeAddress = a := by
  cases a <;> simp

theorem parseSize_decimal {n : Nat} (h : n < sizeLimit) : parseSize (decimal n) = some n :=
  lexicalCast_decimal h

/-! ## Networks -/

/-- The kind of network that the questionnaire and the draft give to a profile. -/
def Network.Profile.kind : Network.Profile → Network.Kind
  | .Application => .Infiniband
  | _ => .Ethernet

/-- The section of a profile in the file. -/
def Network.Profile.draftSection : Network.Profile → String
  | .External => "network_external"
  | .Management => "network_management"
  | .Service => "network_service"
  | .Application => "network_application"

namespace Link

/-- The network of a link, with the kind of its profile. -/
def draftNetwork (profile : Network.Profile) (link : Link) : Network :=
  { link.network profile with kind := profile.kind }

def draftConnection (profile : Network.Profile) (link : Link) : Connection :=
  { link.connection profile with
    mtu := if profile.kind = .Infiniband then 2044 else 1500 }

variable [Inet6]

/-- The nameservers in a section, as the draft reader takes them. -/
def draftNameservers (afNetwork : AFNetwork) : Result (List Address) :=
  ((clearIfEmpty (afNetwork.nameservers.bind unlessNil)).elim [] splitValues).mapM
    Network.parseAddress

/-- The section asks for the link. -/
structure Requested (afNetwork : AFNetwork) (link : Link) : Prop where
  interface : afNetwork.conInterface = some link.interface
  ip : afNetwork.conIpAddr = some link.ip
  mac : afNetwork.conMacAddr.getD "" = link.mac
  mask : afNetwork.subnetMask = some link.mask
  gateway : afNetwork.gateway.getD default = link.gateway
  domain : clearIfEmpty afNetwork.domainName = link.domain
  nameservers : draftNameservers afNetwork = .ok link.nameservers

end Link

namespace Cluster

def addDraftLink (model : Cluster) (profile : Network.Profile) (link : Link) : Cluster :=
  (model.addNetwork (link.draftNetwork profile)).addConnection (link.draftConnection profile)

def addDraftLinkOptional (model : Cluster) (profile : Network.Profile) : Option Link → Cluster
  | some link => model.addDraftLink profile link
  | none => model

section Networks

theorem applyOptional_setDomainName {domain : Option String}
    (h : ∀ d ∈ domain, Network.validateDomainName d = .ok ()) (network : Network) :
    applyOptional domain Network.setDomainName network =
      .ok { network with domainName := domain.getD network.domainName } := by
  cases domain with
  | none => rfl
  | some d => exact Network.setDomainName_eq_ok.mpr ⟨h d rfl, rfl⟩

theorem applyOptional_setNameserversText [Inet6] {text : Option String} {nameservers : List Address}
    (h : (text.elim [] splitValues).mapM Network.parseAddress = .ok nameservers)
    (network : Network) :
    applyOptional (text.map splitValues) Network.setNameserversText network =
      .ok { network with nameservers := network.nameservers ++ nameservers } := by
  cases text with
  | none =>
    obtain rfl : [] = nameservers := Except.ok.inj h
    simp
  | some text =>
    have hparse : (splitValues text).mapM Network.parseAddress = .ok nameservers := h
    simp [Network.setNameserversText, hparse, Network.setNameservers]

variable [Inet6] {host : Host} {kd : KeyData} {afNetwork : AFNetwork} {link : Link}
  {networkSection : String} {profile : Network.Profile}

theorem draftConnection_carries (h : kd.Carries networkSection (networkEntries afNetwork))
    (hlink : link.Requested afNetwork) (hv : link.Valid host) :
    draftConnection host kd networkSection profile profile.kind link.interface link.ip =
      .ok (link.draftConnection profile) := by
  have hip : link.ip ≠ .v4 0 := Network.ne_zero_of_subnet hv.subnet
  have hmac : optionalString kd networkSection "mac_address" = unlessEmpty link.mac := by
    rw [optionalString_carries h, ← hlink.mac]
    have hassigned : assigned (networkEntries afNetwork) "mac_address" = afNetwork.conMacAddr := by
      simp [networkEntries, assigned]
    rw [hassigned]
    cases afNetwork.conMacAddr <;> simp
    rfl
  unfold draftConnection
  rw [hmac, except_bind_ok]
  refine ⟨_, Connection.setInterface_eq_ok.mpr ⟨hv.interface, rfl⟩, ?_⟩
  rw [except_bind_ok]
  refine ⟨_, Connection.setAddress_eq_ok.mpr ⟨hip, rfl⟩, ?_⟩
  by_cases hnone : link.mac = ""
  · simp [hnone, unlessEmpty, Link.draftConnection, Link.connection, Connection.ofNetwork]
  · rw [unlessEmpty_of_ne hnone, applyOptional_some]
    refine Connection.setMAC_eq_ok.mpr ⟨hv.mac hnone, ?_⟩
    simp [hnone, Link.draftConnection, Link.connection, Connection.ofNetwork]

theorem draftNetwork_carries (h : kd.Carries networkSection (networkEntries afNetwork))
    (hlink : link.Requested afNetwork) (hv : link.Valid host) :
    draftNetwork kd networkSection profile profile.kind link.ip link.mask =
      .ok (link.draftNetwork profile) := by
  have hgateway : (optionalString kd networkSection "gateway").bind makeAddress =
      afNetwork.gateway := by
    rw [optionalString_carries h, ← bind_clearIfEmpty_map_toText afNetwork.gateway]
    simp [networkEntries, assigned]
  have hdomain : optionalString kd networkSection "domain_name" = link.domain := by
    rw [optionalString_carries h, ← hlink.domain]
    simp [networkEntries, assigned]
  have hservers : optionalString kd networkSection "nameservers" =
      clearIfEmpty (afNetwork.nameservers.bind unlessNil) := by
    rw [optionalString_carries h]
    simp [networkEntries, assigned]
  unfold draftNetwork
  rw [hgateway, hdomain, hservers, except_bind_ok]
  refine ⟨_, Network.setSubnetMask_eq_ok.mpr ⟨hv.mask, rfl⟩, ?_⟩
  have hsubnet : Network.subnet link.ip
      { profile, kind := profile.kind, subnetMask := link.mask : Network }.subnetMask ≠ .v4 0 :=
    hv.subnet
  obtain ⟨address, hcalc, hset⟩ := Network.calculateAddress_eq_ok.mpr ⟨hsubnet, rfl⟩
  rw [except_bind_ok]
  refine ⟨address, hcalc, ?_⟩
  rw [except_bind_ok]
  refine ⟨_, hset, ?_⟩
  rw [except_bind_ok]
  have hset' : ∀ network : Network, afNetwork.gateway.elim network network.setGateway =
      { network with gateway := afNetwork.gateway.getD network.gateway } := by
    intro network
    cases afNetwork.gateway <;> rfl
  refine ⟨_, applyOptional_setDomainName hv.domain _, ?_⟩
  rw [applyOptional_setNameserversText hlink.nameservers, hset']
  simp only [Link.draftNetwork, Link.network, List.nil_append, ← hlink.gateway]

/-- A section that asks for a valid link adds it to a model without the profile. -/
theorem applyNetwork_carries {model : Cluster}
    (h : kd.Carries networkSection (networkEntries afNetwork)) (hlink : link.Requested afNetwork)
    (hv : link.Valid host) (hnew : model.modelHasNetwork profile = false) :
    applyNetwork host kd networkSection profile profile.kind model =
      .ok (model.addDraftLink profile link) := by
  have hgroup : kd.hasGroup networkSection = true := by
    rw [h.hasGroup_eq]
    simp [assigns, networkEntries, hlink.interface]
  have hinterface : optionalString kd networkSection "interface" = some link.interface := by
    have hne : link.interface ≠ "" := fun hempty =>
      host.interfaces_named (hempty ▸ hv.interface.2)
    rw [optionalString_carries h]
    simp [networkEntries, assigned, hlink.interface, unlessEmpty_of_ne hne]
  have hip : (optionalString kd networkSection "ip_address").bind makeAddress = some link.ip := by
    rw [optionalString_carries h]
    simp [networkEntries, assigned, hlink.ip]
  have hmask : (optionalString kd networkSection "subnet_mask").bind makeAddress =
      some link.mask := by
    rw [optionalString_carries h]
    simp [networkEntries, assigned, hlink.mask]
  unfold applyNetwork
  simp only [hgroup, hnew, Bool.not_true, Bool.or_false, Bool.false_eq_true, if_false, hinterface,
    hip, hmask, draftConnection_carries h hlink hv, draftNetwork_carries h hlink hv,
    except_ok_bind]
  rfl

omit [Inet6] in
/-- A section that was not written is skipped. -/
theorem applyNetwork_absent [Inet6] {kind : Network.Kind} {model : Cluster}
    (h : kd.hasGroup networkSection = false) :
    applyNetwork host kd networkSection profile kind model = .ok model := by
  simp [applyNetwork, h]

end Networks

/-! ## Disk image and operating system -/

/-- The image that is kept: a pending one as it is, any other if the host accepts it. Of an image
that cannot be verified the distribution is kept. -/
def ImageOf (host : Host) (path : String) (pendingURL : Option String) (image : DiskImage)
    (url : Option String) : Prop :=
  let set : DiskImage := ⟨path, (DiskImage.isKnownImage path).2⟩
  match pendingURL with
  | some u =>
    (path = "" ∧ image = {} ∧ url = none) ∨
      (extension path = ".iso" ∧ host.VerifiesImage path ∧ image = set ∧ url = some u)
  | none =>
    url = none ∧ ((host.AcceptsImage path ∧ image = set) ∨
      (host.ReachesImage path ∧ ¬ host.VerifiesImage path ∧ image = { set with path := "" }) ∨
      (¬ host.ReachesImage path ∧ image = {}))

/-- The operating system of the compute nodes; an empty kernel falls back on the host's. -/
def draftOS (host : Host) (system : AFSystem) : Result OS :=
  let nodeOS : OS :=
    { host.os with
      arch := .x86_64
      family := .Linux
      distro := system.distro
      kernel := (clearIfEmpty system.kernel).or host.os.kernel }
  nodeOS.setVersion system.version

def draftProvisioner (provisioner : String) : Provisioner :=
  if lower provisioner = "confluent" then .Confluent else .xCAT

section System

variable {host : Host} {kd : KeyData} {system : AFSystem} {model : Cluster}

theorem applyDiskImage_carries {pendingURL url : Option String} {image : DiskImage}
    (h : kd.Carries "system" (systemEntries system))
    (hpending : optionalString kd metadataGroup "pending_disk_image_download_url" = pendingURL)
    (himage : ImageOf host system.diskImage pendingURL image url) (hblank : model.diskImage = {})
    (hnone : model.pendingDiskImageDownloadURL = none) :
    applyDiskImage host kd model =
      .ok { model with diskImage := image, pendingDiskImageDownloadURL := url } := by
  have hpath : optionalString kd "system" "disk_image" = unlessEmpty system.diskImage := by
    rw [optionalString_carries h]
    simp [systemEntries, assigned]
  have hkeep : (.ok model : Result Cluster) =
      .ok { model with diskImage := {}, pendingDiskImageDownloadURL := none } := by
    rw [← hblank, ← hnone]
  unfold applyDiskImage
  rw [hpath, hpending]
  by_cases hempty : system.diskImage = ""
  · have hext : extension "" ≠ ".iso" := by decide
    rw [hempty] at himage ⊢
    cases pendingURL with
    | some u =>
      rcases himage with ⟨-, rfl, rfl⟩ | ⟨hiso, -⟩
      · exact hkeep
      · exact absurd hiso hext
    | none =>
      obtain ⟨rfl, ⟨haccept, -⟩ | ⟨hreach, -⟩ | ⟨-, rfl⟩⟩ := himage
      · exact absurd haccept.1.1 hext
      · exact absurd hreach.1 hext
      · exact hkeep
  · rw [unlessEmpty_of_ne hempty]
    cases pendingURL with
    | some u =>
      rcases himage with ⟨h', -⟩ | ⟨hiso, hverified, rfl, rfl⟩
      · exact absurd h' hempty
      · exact except_bind_ok.mpr ⟨_, setDiskImagePath_eq_ok.mpr ⟨hiso, hverified, rfl⟩, rfl⟩
    | none =>
      dsimp only
      obtain ⟨rfl, himage⟩ := himage
      rcases runDiskImage_cases host system.diskImage model with ⟨hreach, e, -, hrun⟩ |
        ⟨haccept, hrun⟩ | ⟨hreach, hverifies, e, -, hrun⟩
      · rcases himage with ⟨haccept', -⟩ | ⟨hreach', -⟩ | ⟨-, rfl⟩
        · exact absurd haccept'.1 hreach
        · exact absurd hreach' hreach
        · rw [hrun]
          exact hkeep
      · rcases himage with ⟨-, rfl⟩ | ⟨-, hverifies', -⟩ | ⟨hreach', -⟩
        · rw [hrun]
        · exact absurd haccept.2 hverifies'
        · exact absurd haccept.1 hreach'
      · rcases himage with ⟨haccept', -⟩ | ⟨-, -, rfl⟩ | ⟨hreach', -⟩
        · exact absurd haccept'.2 hverifies
        · rw [hrun]
          dsimp only
          rw [hblank, ← hnone]
        · exact absurd hreach hreach'

theorem applyComputeNodeOS_carries {os : OS} (h : kd.Carries "system" (systemEntries system))
    (hos : draftOS host system = .ok os) :
    applyComputeNodeOS host kd model = .ok { model with computeNodeOS := some os } := by
  have hversion : system.version ≠ "" := by
    obtain ⟨_, _, _, hdenotes, -⟩ := OS.setVersion_eq_ok.mp hos
    intro hempty
    have hdot := hdenotes.dot
    simp [hempty] at hdot
  have hdistro : (optionalString kd "system" "distro").bind parseDistro = some system.distro := by
    have hparse : ∀ distro : OS.Distro,
        (unlessEmpty (Enumeration.toText distro)).bind parseDistro = some distro := by
      intro distro
      cases distro <;> decide
    rw [optionalString_carries h, ← hparse system.distro]
    simp [systemEntries, assigned]
  have hversion' : optionalString kd "system" "version" = some system.version := by
    rw [optionalString_carries h]
    simp [systemEntries, assigned, unlessEmpty_of_ne hversion]
  have hkernel : optionalString kd "system" "kernel" = clearIfEmpty system.kernel := by
    rw [optionalString_carries h]
    simp [systemEntries, assigned]
  unfold applyComputeNodeOS
  rw [hdistro, hversion', hkernel]
  exact except_bind_ok_pure.mpr ⟨os, hos, rfl⟩

theorem applyProvisioner_carries (h : kd.Carries "system" (systemEntries system))
    (hknown : lower system.provisioner = "xcat" ∨ lower system.provisioner = "confluent") :
    applyProvisioner kd model =
      { model with provisioner := draftProvisioner system.provisioner } := by
  have hne : system.provisioner ≠ "" := by
    intro hempty
    rw [hempty] at hknown
    revert hknown
    decide
  have htext : optionalString kd "system" "provisioner" = some system.provisioner := by
    rw [optionalString_carries h]
    simp [systemEntries, assigned, unlessEmpty_of_ne hne]
  unfold applyProvisioner draftProvisioner
  rcases hknown with hknown | hknown <;> simp [htext, hknown]

end System

/-! ## Selections and services -/

/-- An empty selection is not told from an absent one. -/
def draftSelection (enabled : Option (List String)) : Option (List String) :=
  (clearIfEmpty (enabled.map joinList)).map splitValues

def draftOFED (ofed : AFOFED) : Option OFED :=
  if ofed.enabled then
    ((unlessEmpty ofed.kind).bind Enumeration.ofStringOpt).map fun kind =>
      { kind, version := (clearIfEmpty ofed.version).getD "latest" }
  else none

def draftQueueSystem (W : AnswerFile) : Option QueueSystem :=
  if W.pbs.enabled then some (.PBS W.pbs.executionPlace)
  else if W.slurm.enabled then
    some (.SLURM ((unlessEmpty W.slurm.partitionName).getD "execution"))
  else none

/-- A password of the SLURM section. -/
def draftPassword (W : AnswerFile) (password : String) : String :=
  if W.slurm.enabled && !W.pbs.enabled then password else ""

/-- The relay settings that are written for the profile. -/
def draftSMTP (smtp : Option AFPostfix.SMTP) (mail : Postfix) : Postfix :=
  match mail.profile with
  | .Local => mail
  | .Relay =>
    { mail with
      smtpServer := smtp.bind fun smtp => unlessEmpty smtp.server
      port := smtp.bind fun smtp => parsePort (decimal smtp.port) }
  | .SASL =>
    { mail with
      smtpServer := smtp.bind fun smtp => unlessEmpty smtp.server
      port := smtp.bind fun smtp => parsePort (decimal smtp.port)
      username := smtp.bind fun smtp => smtp.sasl.bind fun sasl => unlessEmpty sasl.username
      password := smtp.bind fun smtp => smtp.sasl.bind fun sasl => unlessEmpty sasl.password }

/-- The mail system, under the names that the model has by then. -/
def draftMailSystem (hostname domain : String) (mail : AFPostfix) : Option Postfix :=
  if mail.enabled then
    some (draftSMTP mail.smtp
      { profile := mail.profile
        hostname := some hostname
        domain := some domain
        destination := (clearIfEmpty (unlessNil mail.destination)).map splitValues
        certFile := unlessEmpty mail.certFile
        keyFile := unlessEmpty mail.keyFile })
  else none

section Services

variable {kd : KeyData} {model : Cluster} {W : AnswerFile}

theorem optionalString_enabled {group : String} {enabled : Option (List String)}
    (h : kd.Carries group (enabledEntries enabled)) :
    (optionalString kd group "enabled").map splitValues = draftSelection enabled := by
  rw [optionalString_carries h, draftSelection]
  simp [enabledEntries, assigned]

theorem applyOFED_carries (h : kd.Carries "ofed" (ofedEntries W.ofed)) (hnone : model.ofed = none) :
    applyOFED kd model = { model with ofed := draftOFED W.ofed } := by
  unfold applyOFED draftOFED
  rw [optionalString_carries h, optionalString_carries h, ofedEntries]
  cases W.ofed.enabled with
  | false => simp [assigned, ← hnone]
  | true =>
    have hkind : clearIfEmpty (assigned
        [("kind", some W.ofed.kind), ("version", W.ofed.version)] "kind") =
          unlessEmpty W.ofed.kind := by
      simp [assigned]
    have hversion : assigned
        [("kind", some W.ofed.kind), ("version", W.ofed.version)] "version" = W.ofed.version := by
      simp [assigned]
    simp only [if_true, hkind, hversion]
    cases ((unlessEmpty W.ofed.kind).bind Enumeration.ofStringOpt : Option OFED.Kind) with
    | none => simp [← hnone]
    | some kind => rfl

theorem applyQueueSystem_carries (hslurm : kd.Carries "slurm" (slurmEntries W.slurm))
    (hpbs : kd.Carries "pbs" (pbsEntries W.pbs)) (hnone : model.queueSystem = none)
    (hm : model.slurmMariaDBRootPassword = "") (hd : model.slurmDBPassword = "")
    (hs : model.slurmStoragePassword = "") :
    applyQueueSystem kd model =
      { model with
        queueSystem := draftQueueSystem W
        slurmMariaDBRootPassword := draftPassword W W.slurm.mariadbRootPassword
        slurmDBPassword := draftPassword W W.slurm.slurmdbPassword
        slurmStoragePassword := draftPassword W W.slurm.storagePassword } := by
  unfold applyQueueSystem draftQueueSystem draftPassword
  simp only [optionalString_carries hslurm, optionalString_carries hpbs, hslurm.hasGroup_eq,
    hpbs.hasGroup_eq, slurmEntries, pbsEntries]
  cases hp : W.pbs.enabled with
  | true =>
    have hplace : unlessEmpty (Enumeration.toText W.pbs.executionPlace) =
        some (Enumeration.toText W.pbs.executionPlace) := by
      cases W.pbs.executionPlace <;> decide
    simp [assigns, assigned, hplace, hm, hd, hs]
  | false =>
    cases hs' : W.slurm.enabled with
    | true => simp [assigns, assigned, getD_unlessEmpty]
    | false =>
      cases model
      simp_all [assigns]

theorem draftRelay_carries {mail : Postfix} {W : AFPostfix} (h : PostfixCarries kd W)
    (henabled : W.enabled = true) (hprofile : mail.profile = W.profile) :
    draftRelay kd mail = draftSMTP W.smtp mail := by
  unfold draftRelay draftSMTP
  simp only [optionalString_carries h.relay, optionalString_carries h.sasl, postfixRelayEntries,
    postfixSaslEntries, henabled, hprofile]
  cases W.profile with
  | Local => rfl
  | Relay => cases W.smtp <;> simp [assigned]
  | SASL =>
    cases W.smtp with
    | none => simp [assigned]
    | some smtp => cases hsasl : smtp.sasl <;> simp [assigned, hsasl]

theorem applyPostfix_carries (h : PostfixCarries kd W.postfixMail) (hnone : model.mailSystem = none) :
    applyPostfix kd model =
      { model with
        mailSystem :=
          draftMailSystem model.headnode.hostname model.getDomainName W.postfixMail } := by
  have hmain := h.main
  unfold applyPostfix draftMailSystem
  simp only [optionalString_carries hmain]
  cases henabled : W.postfixMail.enabled with
  | false =>
    simp [postfixEntries, henabled, assigned, ← hnone]
  | true =>
    have hprofile : (unlessEmpty (Enumeration.toText W.postfixMail.profile)).bind
        Enumeration.ofStringOpt = some W.postfixMail.profile := by
      cases W.postfixMail.profile <;> decide
    have hentries : assigned (postfixEntries W.postfixMail) "profile" =
          some (Enumeration.toText W.postfixMail.profile) ∧
        assigned (postfixEntries W.postfixMail) "destination" = unlessNil W.postfixMail.destination ∧
        assigned (postfixEntries W.postfixMail) "smtpd_tls_cert_file" =
          unlessEmpty W.postfixMail.certFile ∧
        assigned (postfixEntries W.postfixMail) "smtpd_tls_key_file" =
          unlessEmpty W.postfixMail.keyFile := by
      simp [postfixEntries, henabled, assigned]
    obtain ⟨h₁, h₂, h₃, h₄⟩ := hentries
    simp only [h₁, h₂, h₃, h₄, clearIfEmpty_some, hprofile, clearIfEmpty_unlessEmpty, if_true]
    rw [draftRelay_carries h henabled rfl]

end Services

/-! ## Nodes -/

section Nodes

/-- A number of the generic section; anything else counts as zero. -/
def draftNumber (value : Option String) : Nat := ((clearIfEmpty value).bind parseSize).getD 0

/-- The generic values; the number of CPUs is computed and not read. -/
def draftDefaults (generic : AFNode) : NodeDefaults where
  nodePrefix := generic.nodePrefix.getD ""
  padding := draftNumber generic.padding
  startIP := generic.startIp.getD default
  rootPassword := generic.rootPassword.getD ""
  sockets := draftNumber generic.sockets
  coresPerSocket := draftNumber generic.coresPerSocket
  threadsPerCore := draftNumber generic.threadsPerCore
  cpusPerNode :=
    draftNumber generic.sockets * draftNumber generic.coresPerSocket *
      draftNumber generic.threadsPerCore % sizeLimit
  realMemory := draftNumber generic.realMemory
  bmcUsername := generic.bmcUsername.getD ""
  bmcPassword := generic.bmcPassword.getD ""
  bmcSerialPort := draftNumber generic.bmcSerialport
  bmcSerialSpeed := draftNumber generic.bmcSerialspeed

/-- The generic values of a model that no step has touched. -/
def blankDefaults : NodeDefaults := draftDefaults {}

theorem getD_clearIfEmpty (value : Option String) :
    (clearIfEmpty value).getD "" = value.getD "" := by
  cases value with
  | none => rfl
  | some value => simp [getD_unlessEmpty]

variable [Inet6] {kd : KeyData} {model : Cluster} {generic : AFNode}

theorem applyGenericNode_carries (h : kd.Carries "node" (genericNodeEntries generic))
    (hpresent : kd.hasGroup "node" = true) (hblank : model = model.setDefaults blankDefaults) :
    applyGenericNode kd model = model.setDefaults (draftDefaults generic) := by
  have htext : ∀ key, optionalString kd "node" key =
      clearIfEmpty (assigned (genericNodeEntries generic) key) := optionalString_carries h
  have hip : (optionalString kd "node" "node_ip").bind makeAddress = generic.startIp := by
    rw [htext, ← bind_clearIfEmpty_map_toText generic.startIp]
    simp [genericNodeEntries, assigned]
  rw [hblank]
  unfold applyGenericNode genericSize
  rw [if_pos hpresent, hip]
  simp only [htext]
  simp [setDefaults, blankDefaults, draftDefaults, draftNumber, genericNodeEntries, assigned,
    getD_clearIfEmpty]

/-- The section reads as the node, in any model with these networks and generic values. -/
def ReadsNode (kd : KeyData) (model : Cluster) (nodeSection : String) (node : Node) : Prop :=
  ∃ v, draftNodeValues kd nodeSection model = some v ∧ draftNode kd nodeSection model v = .ok node

/-- The nodes that the model has by then do not matter to the next section. -/
theorem applyNodeSections_eq {sections : List String} {nodes before : List Node} {loaded : Nat}
    (h : List.Forall₂ (ReadsNode kd model) sections nodes)
    (hsize : before.length + nodes.length ≤ vectorMaxSize) :
    applyNodeSections kd { model with nodes := before } loaded sections =
      .ok ({ model with nodes := before ++ nodes }, loaded + nodes.length) := by
  induction h generalizing before loaded with
  | nil => simp [applyNodeSections]
  | @cons nodeSection node sections nodes hnode hnodes ih =>
    obtain ⟨v, hv, hread⟩ := hnode
    simp only [List.length_cons] at hsize
    have hpush : pushBack before node = .ok (before ++ [node]) :=
      pushBack_eq_ok.mpr ⟨by omega, rfl⟩
    have hv' : draftNodeValues kd nodeSection { model with nodes := before } = some v := hv
    have hread' : draftNode kd nodeSection { model with nodes := before } v = .ok node := hread
    simp only [applyNodeSections, applySingleNode, hv', hread', addNode, hpush, except_ok_bind]
    rw [ih (by simp; omega)]
    simp only [List.append_assoc, List.cons_append, List.nil_append, List.length_cons]
    congr 2
    omega

end Nodes

end Cluster

/-! ## The whole model -/

/-- The values that `applyDraftToModel` settles for a fresh model. -/
structure Resumption where
  link : Network.Profile → Option Link
  diskImage : DiskImage
  pendingURL : Option String
  computeNodeOS : OS
  nodes : List Node

theorem filterMap_cons_toList {α β : Type} (f : α → Option β) (a : α) (as : List α) :
    (a :: as).filterMap f = (f a).toList ++ as.filterMap f := by
  cases h : f a <;> simp [h]

namespace Resumption

/-- The order in which the draft reader adds the networks. -/
def profiles : List Network.Profile := [.External, .Management, .Service, .Application]

def networks (r : Resumption) : List Network :=
  profiles.filterMap fun profile => (r.link profile).map (Link.draftNetwork profile)

def connections (r : Resumption) : List Connection :=
  profiles.filterMap fun profile => (r.link profile).map (Link.draftConnection profile)

/-- An empty host name leaves the one of the machine. -/
def hostname (host : Host) (names : AFHostname) : String :=
  (unlessEmpty names.hostname).getD (Headnode.discover host).hostname

/-- An empty domain name leaves the FQDN of the machine. -/
def fqdn (host : Host) (names : AFHostname) : String :=
  (unlessEmpty names.domainName).elim (Headnode.discover host).fqdn
    (hostname host names ++ "." ++ ·)

/-- The time servers, split at the commas. -/
def timeservers (timeserver : String) : List String :=
  (unlessEmpty timeserver).elim [] fun text =>
    (splitEach isComma text.toList).map fun piece => String.ofList (piece.filter (· ≠ ' '))

/-- The model before its nodes and services are read. -/
def base (host : Host) (W : AnswerFile) (r : Resumption) : Cluster :=
  Cluster.setDefaults (Cluster.draftDefaults (W.nodes.generic.getD {}))
    { name := W.information.clusterName
      companyName := W.information.companyName
      adminMail := W.information.administratorEmail
      headnode :=
        { hostname := hostname host W.hostname
          fqdn := fqdn host W.hostname
          os := host.os
          connections := r.connections }
      computeNodeOS := some r.computeNodeOS
      provisioner := Cluster.draftProvisioner W.system.provisioner
      ofed := Cluster.draftOFED W.ofed
      enabledRepositories := Cluster.draftSelection W.repositories
      enabledOpenHPCBundles := Cluster.draftSelection W.ohpc
      timezone := { timezone := W.time.timezone, timeservers := timeservers W.time.timeserver }
      locale := W.time.locale
      networks := r.networks
      diskImage := r.diskImage
      pendingDiskImageDownloadURL := r.pendingURL }

def cluster (host : Host) (W : AnswerFile) (r : Resumption) : Cluster :=
  { r.base host W with
    nodes := r.nodes
    nodeQuantity := r.nodes.length
    queueSystem := Cluster.draftQueueSystem W
    slurmMariaDBRootPassword := Cluster.draftPassword W W.slurm.mariadbRootPassword
    slurmDBPassword := Cluster.draftPassword W W.slurm.slurmdbPassword
    slurmStoragePassword := Cluster.draftPassword W W.slurm.storagePassword
    mailSystem :=
      Cluster.draftMailSystem (hostname host W.hostname) (afterFirst '.' (fqdn host W.hostname))
        W.postfixMail }

variable [Inet6]

/-- A section that is there asks for a valid link. -/
def SettlesLink (host : Host) (afNetwork : AFNetwork) : Option Link → Prop
  | some link => link.Requested afNetwork ∧ link.Valid host
  | none => afNetwork.isPresent = false

/-- How the file and the host determine the values. -/
structure Sound (host : Host) (kd : KeyData) (W : AnswerFile) (r : Resumption) : Prop where
  links : ∀ profile, SettlesLink host (W.networkField profile) (r.link profile)
  diskImage : Cluster.ImageOf host W.system.diskImage
    (optionalString kd metadataGroup "pending_disk_image_download_url") r.diskImage r.pendingURL
  computeNodeOS : Cluster.draftOS host W.system = .ok r.computeNodeOS
  provisioner : lower W.system.provisioner = "xcat" ∨ lower W.system.provisioner = "confluent"
  generic : W.nodes.generic.isSome = true ∧ kd.hasGroup "node" = true
  nodes : List.Forall₂ (Cluster.ReadsNode kd (r.base host W)) (kd.prefixed "node.") r.nodes
  size : r.nodes.length ≤ vectorMaxSize

end Resumption

namespace Cluster

variable [Inet6] {host : Host} {kd : KeyData} {W : AnswerFile} {r : Resumption}

/-- One section of the networks. -/
theorem applyNetwork_settled {profile : Network.Profile} {link : Option Link} {model : Cluster}
    (h : kd.Carries profile.draftSection (networkEntries (W.networkField profile)))
    (hlink : Resumption.SettlesLink host (W.networkField profile) link)
    (hnew : model.modelHasNetwork profile = false) :
    applyNetwork host kd profile.draftSection profile profile.kind model =
      .ok (model.addDraftLinkOptional profile link) := by
  cases link with
  | some link => exact applyNetwork_carries h hlink.1 hlink.2 hnew
  | none =>
    apply applyNetwork_absent
    rw [h.hasGroup_eq]
    exact hlink

omit [Inet6] in
theorem addDraftLinkOptional_eq (model : Cluster) (profile : Network.Profile) (link : Option Link) :
    model.addDraftLinkOptional profile link =
      { model with
        networks := model.networks ++ (link.map (Link.draftNetwork profile)).toList
        headnode :=
          { model.headnode with
            connections :=
              model.headnode.connections ++ (link.map (Link.draftConnection profile)).toList } } := by
  cases link <;> simp [addDraftLinkOptional, addDraftLink, addNetwork, addConnection]

omit [Inet6] in
theorem modelHasNetwork_addDraftLinkOptional {model : Cluster} {p q : Network.Profile}
    {link : Option Link} (hne : p ≠ q) (h : model.modelHasNetwork q = false) :
    (model.addDraftLinkOptional p link).modelHasNetwork q = false := by
  cases link with
  | none => exact h
  | some link =>
    unfold modelHasNetwork at h ⊢
    simp [addDraftLinkOptional, addDraftLink, addNetwork, addConnection, h, Link.draftNetwork,
      Link.network, hne]

theorem applyNetworks_settled {model : Cluster} (h : DumpCarries kd W)
    (hlinks : ∀ profile, Resumption.SettlesLink host (W.networkField profile) (r.link profile))
    (hn : model.networks = []) (hc : model.headnode.connections = []) :
    applyNetworks host kd model =
      .ok { model with
        networks := r.networks
        headnode := { model.headnode with connections := r.connections } } := by
  have hnew : ∀ profile, model.modelHasNetwork profile = false := by
    intro profile
    simp [modelHasNetwork, hn]
  have h₁ : applyNetwork host kd "network_external" .External .Ethernet model = _ :=
    applyNetwork_settled h.external (hlinks .External) (hnew .External)
  have h₂ : ∀ m : Cluster, m.modelHasNetwork .Management = false →
      applyNetwork host kd "network_management" .Management .Ethernet m = _ := fun m =>
    applyNetwork_settled h.management (hlinks .Management)
  have h₃ : ∀ m : Cluster, m.modelHasNetwork .Service = false →
      applyNetwork host kd "network_service" .Service .Ethernet m = _ := fun m =>
    applyNetwork_settled h.service (hlinks .Service)
  have h₄ : ∀ m : Cluster, m.modelHasNetwork .Application = false →
      applyNetwork host kd "network_application" .Application .Infiniband m = _ := fun m =>
    applyNetwork_settled h.application (hlinks .Application)
  have hfree : ∀ {p q : Network.Profile} {m : Cluster}, p ≠ q → m.modelHasNetwork q = false →
      (m.addDraftLinkOptional p (r.link p)).modelHasNetwork q = false :=
    fun hne => modelHasNetwork_addDraftLinkOptional hne
  unfold applyNetworks
  rw [h₁, except_ok_bind, h₂ _ (hfree (by decide) (hnew _)), except_ok_bind,
    h₃ _ (hfree (by decide) (hfree (by decide) (hnew _))), except_ok_bind,
    h₄ _ (hfree (by decide) (hfree (by decide) (hfree (by decide) (hnew _))))]
  simp only [addDraftLinkOptional_eq, hn, hc, Resumption.networks, Resumption.connections,
    Resumption.profiles, filterMap_cons_toList, List.filterMap_nil, List.nil_append,
    List.append_nil, List.append_assoc]

/-- Identity, time and names of a fresh model. -/
theorem applyNames_carries (h : DumpCarries kd W) :
    applyHostname kd (applyTime kd (applyInformation kd (fresh host))) =
      { name := W.information.clusterName
        companyName := W.information.companyName
        adminMail := W.information.administratorEmail
        headnode :=
          { hostname := Resumption.hostname host W.hostname
            fqdn := Resumption.fqdn host W.hostname
            os := host.os }
        timezone :=
          { timezone := W.time.timezone
            timeservers := Resumption.timeservers W.time.timeserver }
        locale := W.time.locale } := by
  have hinformation : applyInformation kd (fresh host) =
      { name := W.information.clusterName
        companyName := W.information.companyName
        adminMail := W.information.administratorEmail
        headnode := Headnode.discover host } := by
    unfold applyInformation
    simp only [optionalString_carries h.information]
    simp [informationEntries, assigned, fresh, getD_unlessEmpty]
  have htime : ∀ model : Cluster, model.timezone = {} → model.locale = "" →
      applyTime kd model =
        { model with
          timezone :=
            { timezone := W.time.timezone
              timeservers := Resumption.timeservers W.time.timeserver }
          locale := W.time.locale } := by
    intro model hzone hlocale
    unfold applyTime Resumption.timeservers
    simp only [optionalString_carries h.time, hzone, hlocale]
    cases hserver : unlessEmpty W.time.timeserver <;>
      simp [timeEntries, assigned, getD_unlessEmpty, hserver, Timezone.setTimeserversText]
  rw [hinformation, htime _ rfl rfl]
  unfold applyHostname Resumption.hostname Resumption.fqdn Resumption.hostname
  simp only [optionalString_carries h.hostname]
  by_cases hname : W.hostname.hostname = "" <;> by_cases hdomain : W.hostname.domainName = "" <;>
    simp [hostnameEntries, assigned, unlessEmpty, hname, hdomain, setHostname, setDomainName,
      setFQDN, Headnode.discover]

theorem applyDraftToModel_carries (h : DumpCarries kd W) (hr : r.Sound host kd W) :
    applyDraftToModel host (some kd) (fresh host) = .ok (r.cluster host W) := by
  obtain ⟨hsome, hgroup⟩ := hr.generic
  obtain ⟨generic, hgeneric⟩ := Option.isSome_iff_exists.mp hsome
  have hnode : kd.Carries "node" (genericNodeEntries generic) := by
    have := h.nodes.generic
    rwa [hgeneric] at this
  have hsystem : ∀ model : Cluster, model.diskImage = {} →
      model.pendingDiskImageDownloadURL = none →
      applySystem host kd model =
        .ok { model with
          diskImage := r.diskImage
          pendingDiskImageDownloadURL := r.pendingURL
          computeNodeOS := some r.computeNodeOS
          provisioner := draftProvisioner W.system.provisioner } := by
    intro model hblank hnone
    unfold applySystem
    rw [applyDiskImage_carries h.system rfl hr.diskImage hblank hnone, except_ok_bind,
      applyComputeNodeOS_carries h.system hr.computeNodeOS, except_ok_bind,
      applyProvisioner_carries h.system hr.provisioner]
  have hselections : ∀ model : Cluster, model.enabledRepositories = none →
      model.enabledOpenHPCBundles = none → model.ofed = none →
      applyOFED kd (applyOHPC kd (applyRepositories kd model)) =
        { model with
          enabledRepositories := draftSelection W.repositories
          enabledOpenHPCBundles := draftSelection W.ohpc
          ofed := draftOFED W.ofed } := by
    intro model hrepositories hohpc hofed
    have hnone : (applyOHPC kd (applyRepositories kd model)).ofed = none := hofed
    rw [applyOFED_carries h.ofed hnone]
    simp only [applyOHPC, applyRepositories, optionalString_enabled h.repositories,
      optionalString_enabled h.ohpc, hrepositories, hohpc, Option.or_none]
  have hread : applyNodeSections kd { r.base host W with nodes := [] } 0 (kd.prefixed "node.") = _ :=
    applyNodeSections_eq hr.nodes (by simpa using hr.size)
  have hnodes : ∀ model : Cluster, model = model.setDefaults blankDefaults →
      model.setDefaults (draftDefaults generic) = r.base host W →
      applyNodes kd model =
        .ok { r.base host W with nodes := r.nodes, nodeQuantity := r.nodes.length } := by
    intro model hblank hbase
    unfold applyNodes
    rw [applyGenericNode_carries hnode hgroup hblank, hbase]
    refine except_bind_ok.mpr ⟨_, hread, ?_⟩
    cases r.nodes with
    | nil => rfl
    | cons node nodes => simp
  have hservices : ∀ model : Cluster, model.queueSystem = none → model.mailSystem = none →
      model.slurmMariaDBRootPassword = "" → model.slurmDBPassword = "" →
      model.slurmStoragePassword = "" →
      applyPostfix kd (applyQueueSystem kd model) =
        { model with
          queueSystem := draftQueueSystem W
          slurmMariaDBRootPassword := draftPassword W W.slurm.mariadbRootPassword
          slurmDBPassword := draftPassword W W.slurm.slurmdbPassword
          slurmStoragePassword := draftPassword W W.slurm.storagePassword
          mailSystem :=
            draftMailSystem model.headnode.hostname model.getDomainName W.postfixMail } := by
    intro model hqueue hmail h₁ h₂ h₃
    rw [applyQueueSystem_carries h.slurm h.pbs hqueue h₁ h₂ h₃]
    exact applyPostfix_carries h.postfixMail hmail
  have hgenericD : W.nodes.generic.getD {} = generic := by rw [hgeneric]; rfl
  unfold applyDraftToModel
  simp only [applyNames_carries h]
  refine except_bind_ok.mpr ⟨_, applyNetworks_settled h hr.links rfl rfl, ?_⟩
  refine except_bind_ok.mpr ⟨_, hsystem _ rfl rfl, ?_⟩
  rw [hselections _ rfl rfl rfl]
  refine except_bind_ok.mpr ⟨_, hnodes _ rfl ?_, ?_⟩
  · rw [Resumption.base, hgenericD]
  · rw [hservices _ rfl rfl rfl rfl rfl]
    rfl

end Cluster

end OpenCattus
