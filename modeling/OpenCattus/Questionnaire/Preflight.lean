import OpenCattus.Questionnaire.Network
import OpenCattus.Questionnaire.Settings
import OpenCattus.Questionnaire.Wrapping

/-!
# The installation plan

The last step shows what the answers come to, one row for each setting, network and node. The rows
are wrapped to the width of the screen.

`quiet_presenterPreflight_iff` says when the step throws: when a word of the plan is longer than the
room that the screen has for it.
-/

namespace OpenCattus

open Foundations Foundations.Text Foundations.Inet Program Dialog

namespace Preflight

def provisionerName : Provisioner → String
  | .xCAT => "xCAT"
  | .Confluent => "Confluent"

def osSummary (os : OS) : String :=
  Enumeration.toText os.distro ++ " " ++ os.getVersion ++ " " ++ os.arch.toText

/-- `fmt::join`. -/
def joined (texts : List String) : String := ", ".intercalate texts

def nodeOperatingSystemSummary (model : Cluster) : String :=
  if model.nodes = [] then osSummary model.getComputeNodeOS
  else
    let summaries := model.nodes.foldl (fun summaries node =>
      if osSummary node.os ∈ summaries then summaries else summaries ++ [osSummary node.os]) []
    match summaries with
    | [summary] => summary
    | _ => "Mixed: " ++ joined summaries

def repositorySummary (model : Cluster) : String :=
  let repositories := model.enabledRepositories.getD []
  let impliedOneApi : Bool := match model.enabledOpenHPCBundles with
    | some bundles => "intel-oneapi" ∈ bundles && "oneAPI" ∉ repositories
    | none => false
  let repositories := if impliedOneApi then repositories ++ ["oneAPI"] else repositories
  if repositories = [] then "Mandatory repositories only"
  else
    "Optional: " ++ joined repositories ++
      (if "beegfs" ∈ repositories then "; BeeGFS implies grafana and influxdata" else "") ++
      (if impliedOneApi then "; Intel OpenHPC bundle implies oneAPI" else "")

def openHpcSummary (model : Cluster) : String :=
  let bundles := model.enabledOpenHPCBundles.getD ["serial-libs", "parallel-libs"]
  joined (["base GNU compilers and MPI stacks"] ++
    (if "serial-libs" ∈ bundles then ["serial scientific libs"] else []) ++
    (if "parallel-libs" ∈ bundles then ["parallel scientific libs"] else []) ++
    (if "intel-oneapi" ∈ bundles then ["Intel oneAPI and Intel MPI"] else []))

def isoSummary (model : Cluster) : String :=
  let os := model.getComputeNodeOS
  Enumeration.toText os.distro ++ " " ++ os.getVersion ++ " from " ++ model.diskImage.path

def defaultQueueName (name : String) : String := if name = "" then "execution" else name

/-- A value that is too long for its column is clipped. -/
def fitColumn (value : List UInt8) (width : Nat) : List UInt8 :=
  if width = 0 then []
  else if value.length ≤ width then value
  else if width = 1 then textBytes "~"
  else value.take (width - 1) ++ textBytes "~"

section

variable (displayWidth : List UInt8 → Nat)

/-- `{:<width}`. -/
def alignLeft (width : Nat) (text : List UInt8) : List UInt8 :=
  text ++ List.replicate (width - displayWidth text) Newt.space

/-- `{:<width} {}`. -/
def labelled (width : Nat) (label value : String) : List UInt8 :=
  alignLeft displayWidth width (textBytes label) ++ Newt.space :: textBytes value

def appendQueueDetails (rows : List (List UInt8)) (model : Cluster) : List (List UInt8) :=
  rows ++ match model.queueSystem with
    | none => [labelled displayWidth 14 "Queue system" "None"]
    | some (.SLURM defaultQueue) =>
      [labelled displayWidth 14 "Queue system" "SLURM",
        labelled displayWidth 14 "Queue name" (defaultQueueName defaultQueue)]
    | some (.PBS executionPlace) =>
      -- The constructor of PBS names the queue, and no answer changes it.
      [labelled displayWidth 14 "Queue system" "PBS Professional",
        labelled displayWidth 14 "Queue name" (defaultQueueName "execution"),
        labelled displayWidth 14 "Execution" (Enumeration.toText executionPlace)]

/-- A row of the table of nodes. -/
def nodeRow (hostname nodeIp bmcIp mac : List UInt8) : List UInt8 :=
  List.intercalate [Newt.space]
    [alignLeft displayWidth 11 hostname, alignLeft displayWidth 15 nodeIp,
      alignLeft displayWidth 15 bmcIp, alignLeft displayWidth 17 mac]

def bmcAddressSummary (node : Node) : String :=
  match node.bmc with
  | none => "-"
  | some bmc => bmc.address

variable [Inet6]

def cidrSuffixFor (network : Network) : String :=
  let subnetMask := network.subnetMask.toText
  match Assoc.get subnetMask Network.cidr with
  | some length => "/" ++ decimal length
  | none => " mask " ++ subnetMask

/-- The rows of a network. A profile without a connection leaves a warning. -/
def networkRows (model : Cluster) (network : Network) : List (List UInt8) :=
  let row label value := textBytes "  " ++ labelled displayWidth 9 label value
  let profile := Cluster.getNetwork.profileName network.profile
  let gateway := if network.gateway.isUnspecified then "none" else network.gateway.toText
  [textBytes (profile ++ " " ++ kindName network.kind)] ++
    (match model.headnode.getConnection network.profile with
    | some connection =>
      [row "Interface" (connection.interface.getD "no interface"),
        row "Host IP" connection.address.toText]
    | none =>
      [row "Host IP" "-",
        row "Warning" ("Cannot get any connection with profile " ++ profile)]) ++
    [row "Network" (network.address.toText ++ cidrSuffixFor network), row "Gateway" gateway]

def appendNetworkDetails (rows : List (List UInt8)) (model : Cluster) : List (List UInt8) :=
  rows ++ [[], textBytes "[Networks]"] ++
    match model.networks with
    | [] => [textBytes "No networks configured"]
    | networks => List.intercalate [[]] (networks.map (networkRows displayWidth model))

def nodeAddressSummary (node : Node) : String :=
  match node.nodeStartIp with
  | some ip => ip.toText
  | none =>
    match node.connections.find? (·.profile = .Management) with
    | some connection => connection.address.toText
    | none => "-"

def appendNodeTable (rows : List (List UInt8)) (model : Cluster) : List (List UInt8) :=
  rows ++ [[], textBytes "[Nodes]", nodeRow displayWidth (textBytes "Hostname")
      (textBytes "Node IP") (textBytes "BMC IP") (textBytes "MAC address")] ++
    match model.nodes with
    | [] => [textBytes "  No compute nodes configured"]
    | nodes => nodes.map fun node =>
      nodeRow displayWidth (fitColumn (textBytes node.hostname) 11)
        (fitColumn (textBytes (nodeAddressSummary node)) 15)
        (fitColumn (textBytes (bmcAddressSummary node)) 15)
        (fitColumn (textBytes (if node.macAddress = "" then "-" else node.macAddress)) 17)

def buildPreflightText (model : Cluster) : List UInt8 :=
  let rows :=
    [labelled displayWidth 14 "Cluster" model.name,
      labelled displayWidth 14 "Headnode"
        (osSummary model.headnode.os ++ " with " ++ provisionerName model.provisioner),
      labelled displayWidth 14 "Nodes" (nodeOperatingSystemSummary model),
      labelled displayWidth 14 "ISO and OS" (isoSummary model), [],
      labelled displayWidth 14 "Repositories" (repositorySummary model), [],
      labelled displayWidth 14 "OpenHPC" (openHpcSummary model), []]
  let rows := appendQueueDetails displayWidth rows model
  let rows := appendNetworkDetails displayWidth rows model
  List.intercalate [Newt.newline] (appendNodeTable displayWidth rows model)

end

end Preflight

/-! ## The step -/

/-- What `Newt::scrollableMessage` puts on the screen. The text is a C string. -/
def Newt.wrappedText (text : List UInt8) (columns : Nat) : Result (List UInt8) :=
  match wrapText (text.takeWhile (· ≠ 0)) (scrollableBodyWidth columns) with
  | some wrapped => .ok wrapped
  | none => .error ⟨.badAlloc, "std::bad_alloc"⟩

variable [Inet6] {probes : Probes} {s : Session Cluster}

/-- `PresenterPreflight`. The plan is only shown. -/
def presenterPreflight (probes : Probes) : Presenter Unit := do
  let model ← getModel
  let _ ← lift (Newt.wrappedText (Preflight.buildPreflightText probes.displayWidth model)
    probes.columns)
  scrollableMessage

/-- The screen has room for every word of the plan. -/
def PreflightFits (probes : Probes) (model : Cluster) : Prop :=
  let text := Preflight.buildPreflightText probes.displayWidth model
  ∀ line ∈ (text.takeWhile (· ≠ 0)).splitOn Newt.newline,
    Newt.LineFits (Newt.scrollableBodyWidth probes.columns) line

instance (probes : Probes) (model : Cluster) : Decidable (PreflightFits probes model) :=
  inferInstanceAs (Decidable (∀ line ∈ List.splitOn _ _, _))

theorem quiet_presenterPreflight_iff :
    Quiet (presenterPreflight probes) s ↔ PreflightFits probes s.model := by
  have hshown : (∃ wrapped, Newt.wrappedText (Preflight.buildPreflightText probes.displayWidth s.model)
      probes.columns = .ok wrapped) ↔ PreflightFits probes s.model := by
    rw [PreflightFits, ← Newt.isSome_wrapText]
    unfold Newt.wrappedText
    split <;> simp_all
  unfold presenterPreflight
  rw [quiet_bind]
  simp only [quiet_getModel, true_and, returns_getModel]
  constructor
  · intro h
    exact hshown.mp (quiet_lift.mp (quiet_bind.mp (h s.model s ⟨rfl, rfl⟩)).1)
  · rintro hfits model s' ⟨rfl, rfl⟩
    exact quiet_bind.mpr ⟨quiet_lift.mpr (hshown.mpr hfits), fun _ s' _ => quiet_accept _ s'⟩

end OpenCattus
