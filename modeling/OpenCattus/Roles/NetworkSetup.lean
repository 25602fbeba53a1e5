import OpenCattus.Session.NetworkCreator
import OpenCattus.Cluster.RoundTrip

/-!
# The network role

`configureNetworks` runs one script for every connection of the head node that is not
external. The script deletes what is bound to the interface, creates the profile named
after the network and activates it.

`setUp_holds` and `setUp_clears` are what one script does to its own profile and to the
others; `survives_iff` follows them through a list of scripts, and
`static_profiles_survive_iff` applies this to the connections that the questionnaire and an
answerfile produce.
-/

namespace OpenCattus

open Foundations Foundations.Text Foundations.Inet

namespace NetworkRole

/-! ## NetworkManager -/

/-- A connection profile; `device` is the interface on which it is active. -/
structure NMProfile where
  name : String
  ifname : String
  addresses : String
  kind : Network.Kind
  mtu : Nat
  ipv6Method : String
  device : Option String := none
  deriving DecidableEq, Repr

/-- `nmcli -t -f NAME,DEVICE connection show`: the active profiles with their device. -/
def connectionShow (profiles : List NMProfile) : List (String × String) :=
  profiles.filterMap fun p => p.device.map fun device => (p.name, device)

/-- `nmcli connection delete`. -/
def connectionDelete (profiles : List NMProfile) (name : String) : List NMProfile :=
  profiles.filter (·.name ≠ name)

/-- Activating a profile on an interface takes the interface from the others. -/
def bindDevice (name iface : String) (profiles : List NMProfile) : List NMProfile :=
  profiles.map fun p =>
    if p.name = name then { p with device := some iface }
    else if p.device = some iface then { p with device := none }
    else p

/-- The commands of the script. -/
inductive NmcliCommand where
  /-- `nmcli device set IFACE managed yes`, and the same for `autoconnect`. -/
  | deviceSet (iface : String)
  /-- The loop that deletes every profile bound to the interface. -/
  | deleteBound (iface : String)
  /-- `nmcli con show NAME && nmcli connection delete NAME || :`. -/
  | deleteNamed (name : String)
  | add (profile : NMProfile)
  | up (name : String)
  deriving DecidableEq, Repr

def NmcliCommand.run : NmcliCommand → List NMProfile → List NMProfile
  | deviceSet _, profiles => profiles
  | deleteBound iface, profiles =>
    (((connectionShow profiles).filter (·.2 = iface)).map Prod.fst |>.filter (· ≠ "")).foldl
      connectionDelete profiles
  | deleteNamed name, profiles =>
    if profiles.any (·.name = name) then connectionDelete profiles name else profiles
  | add profile, profiles => profiles ++ [profile]
  | up name, profiles =>
    match profiles.find? (·.name = name) with
    | none => profiles
    | some p => bindDevice name p.ifname profiles

/-! ## The role -/

/-- `enums::toString` of a profile. -/
def connectionName (profile : Network.Profile) : String := Cluster.getNetwork.profileName profile

section

variable [Inet6]

/-- `utils::network::subnetMaskToCIDR`. -/
def subnetMaskToCIDR (mask : Address) : Result Nat :=
  match Assoc.get mask.toText Network.cidr with
  | some length => .ok length
  | none => runtimeError ("Cannot convert " ++ mask.toText ++ " to CIDR")

def renderStaticConnectionScript (connection : Connection) (network : Network)
    (ipv6Method : String) : Result (List NmcliCommand) := do
  let iface ← valueOf connection.interface
  let cidr ← subnetMaskToCIDR network.subnetMask
  let name := connectionName network.profile
  .ok
    [.deviceSet iface, .deleteBound iface, .deleteNamed name,
      .add
        { name, ifname := iface, kind := network.kind, mtu := connection.mtu, ipv6Method
          addresses := connection.address.toText ++ "/" ++ decimal cidr },
      .up name]

/-- The addressing of version 6 depends on the provisioner for the management network. -/
def ipv6Method (provisioner : Provisioner) (profile : Network.Profile) : String :=
  if profile = .Management ∧ provisioner = .xCAT then "disabled" else "link-local"

/-- The network that a connection points to. -/
def networkOf (networks : List Network) (connection : Connection) : Result Network :=
  match networks.find? (·.profile = connection.profile) with
  | some network => .ok network
  | none => undefinedBehaviour "connection without a network"

def runScript (script : List NmcliCommand) (profiles : List NMProfile) : List NMProfile :=
  script.foldl (fun profiles command => command.run profiles) profiles

/-- The body of the loop of `configureNetworks`. -/
def configureConnection (provisioner : Provisioner) (networks : List Network)
    (connection : Connection) (profiles : List NMProfile) : Result (List NMProfile) :=
  if connection.interface = none ∨ connection.profile = .External then .ok profiles
  else do
    let network ← networkOf networks connection
    let script ← renderStaticConnectionScript connection network
      (ipv6Method provisioner connection.profile)
    .ok (runScript script profiles)

def configureNetworks (provisioner : Provisioner) (networks : List Network) :
    List Connection → List NMProfile → Result (List NMProfile)
  | [], profiles => .ok profiles
  | connection :: connections, profiles => do
    let profiles ← configureConnection provisioner networks connection profiles
    configureNetworks provisioner networks connections profiles

end

/-! ## What one script does -/

theorem mem_deleteBound {iface : String} {profiles : List NMProfile} {p : NMProfile} :
    p ∈ (NmcliCommand.deleteBound iface).run profiles ↔
      p ∈ profiles ∧ (p.name = "" ∨ ∀ q ∈ profiles, q.name = p.name → q.device ≠ some iface) := by
  have hfold : ∀ (names : List String) (ps : List NMProfile),
      p ∈ names.foldl connectionDelete ps ↔ p ∈ ps ∧ p.name ∉ names := by
    intro names
    induction names with
    | nil => simp
    | cons name names ih =>
      intro ps
      rw [List.foldl_cons, ih]
      simp only [connectionDelete, List.mem_filter, ne_eq, decide_not, Bool.not_eq_true',
        decide_eq_false_iff_not, List.mem_cons, not_or]
      tauto
  unfold NmcliCommand.run
  rw [hfold]
  refine and_congr_right fun _ => ?_
  simp only [connectionShow, List.mem_filter, List.mem_map, List.mem_filterMap, Option.map_eq_some_iff,
    ne_eq, decide_not, Bool.not_eq_true', decide_eq_false_iff_not, decide_eq_true_eq, not_and,
    not_not, Prod.exists]
  constructor
  · intro h
    by_cases hname : p.name = ""
    · exact .inl hname
    · right
      intro q hq hsame hdevice
      exact hname (h ⟨p.name, iface, ⟨⟨q, hq, iface, hdevice, by rw [hsame]⟩, rfl⟩, rfl⟩)
  · rintro (hname | h)
    · exact fun _ => hname
    · rintro ⟨name, device, ⟨⟨q, hq, d, hd, hpair⟩, hdev⟩, hname⟩
      obtain ⟨rfl, rfl⟩ := Prod.mk.inj hpair
      exact absurd (hdev ▸ hd) (h q hq hname)

/-- The profile that a script leaves, with the interface it was created for. -/
structure StaticConnection where
  profile : NMProfile
  named : profile.name ≠ ""

namespace StaticConnection

def name (s : StaticConnection) : String := s.profile.name

def iface (s : StaticConnection) : String := s.profile.ifname

def script (s : StaticConnection) : List NmcliCommand :=
  [.deviceSet s.iface, .deleteBound s.iface, .deleteNamed s.name, .add s.profile, .up s.name]

/-- The profile of `s` is there, under a name of its own, and active on its interface. -/
structure Holds (s : StaticConnection) (profiles : List NMProfile) : Prop where
  present : ∃ p ∈ profiles, p.name = s.name
  static : ∀ p ∈ profiles, p.name = s.name →
    p.ifname = s.iface ∧ p.addresses = s.profile.addresses ∧ p.device = some s.iface

def Absent (name : String) (profiles : List NMProfile) : Prop := ∀ p ∈ profiles, p.name ≠ name

/-- A profile that loses the interface. -/
def release (iface : String) (p : NMProfile) : NMProfile :=
  if p.device = some iface then { p with device := none } else p

@[simp] theorem release_name (iface : String) (p : NMProfile) : (release iface p).name = p.name := by
  unfold release
  split <;> rfl

theorem release_of_ne {iface : String} {p : NMProfile} (h : p.device ≠ some iface) :
    release iface p = p := if_neg h

theorem deleteNamed_run (name : String) (profiles : List NMProfile) :
    (NmcliCommand.deleteNamed name).run profiles = profiles.filter (·.name ≠ name) := by
  simp only [NmcliCommand.run, connectionDelete]
  by_cases h : profiles.any (·.name = name) = true
  · rw [if_pos h]
  · rw [if_neg h]
    symm
    rw [List.filter_eq_self]
    intro p hp
    simp only [List.any_eq_true, decide_eq_true_eq, not_exists, not_and] at h
    exact decide_eq_true (h p hp)

/-- The script keeps what is neither bound to the interface nor named as the network, takes
the interface from the rest and adds the active profile. -/
theorem runScript_script (s : StaticConnection) (profiles : List NMProfile) :
    runScript s.script profiles =
      (((NmcliCommand.deleteBound s.iface).run profiles).filter (·.name ≠ s.name)).map
          (release s.iface) ++ [{ s.profile with device := some s.iface }] := by
  set kept := ((NmcliCommand.deleteBound s.iface).run profiles).filter (·.name ≠ s.name) with hkept
  have hnone : kept.find? (·.name = s.name) = none := by
    rw [List.find?_eq_none]
    intro p hp
    simpa using (List.mem_filter.mp hp).2
  have hfind : (kept ++ [s.profile]).find? (·.name = s.name) = some s.profile := by
    rw [List.find?_append, hnone]
    simp [name]
  have hup : runScript s.script profiles = bindDevice s.name s.iface (kept ++ [s.profile]) := by
    have hrun : runScript s.script profiles =
        (NmcliCommand.up s.name).run (kept ++ [s.profile]) := by
      rw [hkept, ← deleteNamed_run]
      rfl
    rw [hrun, NmcliCommand.run, hfind]
    rfl
  rw [hup, bindDevice, List.map_append]
  congr 1
  · apply List.map_congr_left
    intro p hp
    have hname : p.name ≠ s.name := by simpa using (List.mem_filter.mp hp).2
    rw [if_neg hname]
    rfl
  · simp [name]

theorem mem_runScript {s : StaticConnection} {profiles : List NMProfile} {p : NMProfile} :
    p ∈ runScript s.script profiles ↔
      p = { s.profile with device := some s.iface } ∨
        ∃ q, (q ∈ (NmcliCommand.deleteBound s.iface).run profiles ∧ q.name ≠ s.name) ∧
          p = release s.iface q := by
  rw [runScript_script, List.mem_append, List.mem_map, List.mem_singleton, or_comm]
  simp only [List.mem_filter, ne_eq, decide_not, Bool.not_eq_true', decide_eq_false_iff_not,
    @eq_comm _ p]

theorem setUp_holds (s : StaticConnection) (profiles : List NMProfile) :
    s.Holds (runScript s.script profiles) := by
  constructor
  · exact ⟨_, mem_runScript.mpr (.inl rfl), rfl⟩
  · intro p hp hname
    rcases mem_runScript.mp hp with rfl | ⟨q, ⟨-, hq⟩, rfl⟩
    · exact ⟨rfl, rfl, rfl⟩
    · exact absurd ((release_name _ q).symm.trans hname) hq

/-- A script leaves the profiles of other interfaces alone. -/
theorem setUp_keeps {s t : StaticConnection} {profiles : List NMProfile} (hname : t.name ≠ s.name)
    (hiface : t.iface ≠ s.iface) (h : t.Holds profiles) : t.Holds (runScript s.script profiles) := by
  have hother : ∀ q ∈ profiles, q.name = t.name → q.device ≠ some s.iface := by
    intro q hq hqname hdevice
    have hbound := (h.static q hq hqname).2.2
    rw [hdevice] at hbound
    exact hiface (Option.some.inj hbound).symm
  constructor
  · obtain ⟨p, hp, hpname⟩ := h.present
    have hkept : p ∈ (NmcliCommand.deleteBound s.iface).run profiles := by
      rw [mem_deleteBound]
      exact ⟨hp, .inr fun q hq hsame => hother q hq (hsame.trans hpname)⟩
    have hne : p.name ≠ s.name := hpname ▸ hname
    exact ⟨_, mem_runScript.mpr (.inr ⟨p, ⟨hkept, hne⟩, rfl⟩), (release_name _ p).trans hpname⟩
  · intro p hp hpname
    rcases mem_runScript.mp hp with rfl | ⟨q, ⟨hq, -⟩, rfl⟩
    · exact absurd hpname.symm hname
    · have hqname : q.name = t.name := (release_name _ q).symm.trans hpname
      have hmem : q ∈ profiles := (mem_deleteBound.mp hq).1
      rw [release_of_ne (hother q hmem hqname)]
      exact h.static q hmem hqname

/-- A script deletes the profile that is active on its interface. -/
theorem setUp_clears {s t : StaticConnection} {profiles : List NMProfile} (hname : t.name ≠ s.name)
    (hiface : t.iface = s.iface) (h : t.Holds profiles) :
    Absent t.name (runScript s.script profiles) := by
  intro p hp hpname
  rcases mem_runScript.mp hp with rfl | ⟨q, ⟨hq, -⟩, rfl⟩
  · exact hname hpname.symm
  · have hqname : q.name = t.name := (release_name _ q).symm.trans hpname
    obtain ⟨hmem, hempty | hfree⟩ := mem_deleteBound.mp hq
    · exact t.named (hqname.symm.trans hempty)
    · apply hfree q hmem rfl
      rw [(h.static q hmem hqname).2.2, hiface]

theorem absent_runScript {s : StaticConnection} {n : String} {profiles : List NMProfile}
    (hname : n ≠ s.name) (h : Absent n profiles) : Absent n (runScript s.script profiles) := by
  intro p hp hpname
  rcases mem_runScript.mp hp with rfl | ⟨q, ⟨hq, -⟩, rfl⟩
  · exact hname hpname.symm
  · exact h q (mem_deleteBound.mp hq).1 ((release_name _ q).symm.trans hpname)

/-! ## What a list of scripts does -/

def runAll (statics : List StaticConnection) (profiles : List NMProfile) : List NMProfile :=
  statics.foldl (fun profiles s => runScript s.script profiles) profiles

theorem runAll_cons (s : StaticConnection) (statics : List StaticConnection)
    (profiles : List NMProfile) :
    runAll (s :: statics) profiles = runAll statics (runScript s.script profiles) := rfl

theorem holds_runAll {t : StaticConnection} {statics : List StaticConnection}
    {profiles : List NMProfile} (hname : ∀ s ∈ statics, t.name ≠ s.name)
    (hiface : ∀ s ∈ statics, t.iface ≠ s.iface) (h : t.Holds profiles) :
    t.Holds (runAll statics profiles) := by
  induction statics generalizing profiles with
  | nil => exact h
  | cons s statics ih =>
    have hhead : s ∈ s :: statics := List.mem_cons_self
    apply ih (fun r hr => hname r (.tail _ hr)) (fun r hr => hiface r (.tail _ hr))
    exact setUp_keeps (hname s hhead) (hiface s hhead) h

theorem absent_runAll {n : String} {statics : List StaticConnection} {profiles : List NMProfile}
    (hname : ∀ s ∈ statics, n ≠ s.name) (h : Absent n profiles) :
    Absent n (runAll statics profiles) := by
  induction statics generalizing profiles with
  | nil => exact h
  | cons s statics ih =>
    apply ih fun r hr => hname r (.tail _ hr)
    exact absent_runScript (hname s List.mem_cons_self) h

/-- One later script for the same interface is enough to lose a profile. -/
theorem absent_runAll_of_shared {t : StaticConnection} {statics : List StaticConnection}
    {profiles : List NMProfile} (hname : ∀ s ∈ statics, t.name ≠ s.name)
    (hshared : ∃ s ∈ statics, t.iface = s.iface) (h : t.Holds profiles) :
    Absent t.name (runAll statics profiles) := by
  induction statics generalizing profiles with
  | nil => simp at hshared
  | cons s statics ih =>
    have hhead := hname s List.mem_cons_self
    have htail : ∀ r ∈ statics, t.name ≠ r.name := fun r hr => hname r (.tail _ hr)
    rw [runAll_cons]
    by_cases hiface : t.iface = s.iface
    · exact absent_runAll htail (setUp_clears hhead hiface h)
    · obtain ⟨r, hr, hsame⟩ := hshared
      rcases List.mem_cons.mp hr with rfl | hr
      · exact absurd hsame hiface
      · exact ih htail ⟨r, hr, hsame⟩ (setUp_keeps hhead hiface h)

/-- The profile of `s` exists with its interface and its address. -/
def Survives (s : StaticConnection) (profiles : List NMProfile) : Prop :=
  ∃ p ∈ profiles, p.name = s.name ∧ p.ifname = s.iface ∧ p.addresses = s.profile.addresses

theorem Holds.survives {s : StaticConnection} {profiles : List NMProfile} (h : s.Holds profiles) :
    s.Survives profiles := by
  obtain ⟨p, hp, hname⟩ := h.present
  obtain ⟨hiface, haddresses, -⟩ := h.static p hp hname
  exact ⟨p, hp, hname, hiface, haddresses⟩

theorem Survives.not_absent {s : StaticConnection} {profiles : List NMProfile}
    (h : s.Survives profiles) : ¬ Absent s.name profiles := by
  intro habsent
  obtain ⟨p, hp, hname, -⟩ := h
  exact habsent p hp hname

theorem survives_iff {statics : List StaticConnection} (hnames : (statics.map name).Nodup)
    (profiles : List NMProfile) :
    (∀ s ∈ statics, s.Survives (runAll statics profiles)) ↔ (statics.map iface).Nodup := by
  induction statics generalizing profiles with
  | nil => simp
  | cons s statics ih =>
    obtain ⟨hfresh, hnames⟩ := List.nodup_cons.mp (List.map_cons ▸ hnames)
    have hother : ∀ t ∈ statics, s.name ≠ t.name := by
      intro t ht hsame
      exact hfresh (List.mem_map.mpr ⟨t, ht, hsame.symm⟩)
    have hown : s.Holds (runScript s.script profiles) := setUp_holds s profiles
    rw [List.forall_mem_cons, List.map_cons, List.nodup_cons, runAll_cons,
      ← ih hnames (runScript s.script profiles)]
    refine and_congr_left fun _ => ⟨?_, ?_⟩
    · intro hsurvives hmem
      obtain ⟨t, ht, hsame⟩ := List.mem_map.mp hmem
      exact hsurvives.not_absent (absent_runAll_of_shared hother ⟨t, ht, hsame.symm⟩ hown)
    · intro hunshared
      have hiface : ∀ t ∈ statics, s.iface ≠ t.iface := by
        intro t ht hsame
        exact hunshared (List.mem_map.mpr ⟨t, ht, hsame.symm⟩)
      exact (holds_runAll hother hiface hown).survives

end StaticConnection

/-! ## The connections of the head node -/

section

variable [Inet6]

/-- The connections for which a script is run. -/
def isStatic (connection : Connection) : Bool :=
  connection.interface ≠ none && connection.profile ≠ .External

/-- `p` is a profile for the connection: its name, its interface and its address. -/
def ProfileOf (networks : List Network) (connection : Connection) (p : NMProfile) : Prop :=
  p.name = connectionName connection.profile ∧ connection.interface = some p.ifname ∧
    ∃ network cidr, networkOf networks connection = .ok network ∧
      subnetMaskToCIDR network.subnetMask = .ok cidr ∧
        p.addresses = connection.address.toText ++ "/" ++ decimal cidr

/-- Every connection has its network, and no profile is used twice. -/
structure Linked (networks : List Network) (connections : List Connection) : Prop where
  nodup : (connections.map (·.profile)).Nodup
  network : ∀ connection ∈ connections, ∃ network,
    networks.find? (·.profile = connection.profile) = some network ∧
      Network.isMask network.subnetMask = true

omit [Inet6] in
theorem connectionName_injective : Function.Injective connectionName := by
  intro a b h
  cases a <;> cases b <;> first | rfl | exact absurd h (by decide)

omit [Inet6] in
theorem connectionName_ne_empty (profile : Network.Profile) : connectionName profile ≠ "" := by
  cases profile <;> decide

theorem subnetMaskToCIDR_of_isMask {mask : Address} (h : Network.isMask mask = true) :
    ∃ cidr, subnetMaskToCIDR mask = .ok cidr := by
  obtain ⟨cidr, hcidr⟩ := Option.isSome_iff_exists.mp h
  exact ⟨cidr, by rw [subnetMaskToCIDR, hcidr]⟩

theorem configureConnection_of_not_isStatic {provisioner : Provisioner} {networks : List Network}
    {connection : Connection} (h : isStatic connection = false) (profiles : List NMProfile) :
    configureConnection provisioner networks connection profiles = .ok profiles := by
  rw [configureConnection, if_pos]
  simp only [isStatic, ne_eq, decide_not, Bool.and_eq_false_iff, Bool.not_eq_eq_eq_not,
    Bool.not_false, decide_eq_true_eq] at h
  exact h

theorem configureConnection_of_isStatic (provisioner : Provisioner) {networks : List Network}
    {connection : Connection} {network : Network} (h : isStatic connection = true)
    (hnetwork : networks.find? (·.profile = connection.profile) = some network)
    (hmask : Network.isMask network.subnetMask = true) :
    ∃ s : StaticConnection, ProfileOf networks connection s.profile ∧
      ∀ profiles, configureConnection provisioner networks connection profiles =
        .ok (runScript s.script profiles) := by
  have hguard : ¬ (connection.interface = none ∨ connection.profile = .External) := by
    simpa [isStatic] using h
  obtain ⟨iface, hiface⟩ : ∃ iface, connection.interface = some iface :=
    Option.ne_none_iff_exists'.mp fun hnone => hguard (.inl hnone)
  obtain ⟨cidr, hcidr⟩ := subnetMaskToCIDR_of_isMask hmask
  have hsame : network.profile = connection.profile := by
    simpa using List.find?_some hnetwork
  have hof : networkOf networks connection = .ok network := by rw [networkOf, hnetwork]
  let profile : NMProfile :=
    { name := connectionName network.profile, ifname := iface, kind := network.kind
      mtu := connection.mtu, ipv6Method := ipv6Method provisioner connection.profile
      addresses := connection.address.toText ++ "/" ++ decimal cidr }
  refine ⟨⟨profile, connectionName_ne_empty network.profile⟩, ⟨congrArg connectionName hsame,
    hiface, network, cidr, hof, hcidr, rfl⟩, ?_⟩
  intro profiles
  rw [configureConnection, if_neg hguard]
  simp only [hof, renderStaticConnectionScript, hiface, valueOf, hcidr, except_ok_bind]
  rfl

/-- The role runs one script for every static connection, in the order of the list. -/
theorem configureNetworks_eq_runAll (provisioner : Provisioner) {networks : List Network}
    {connections : List Connection} (h : ∀ connection ∈ connections, ∃ network,
      networks.find? (·.profile = connection.profile) = some network ∧
        Network.isMask network.subnetMask = true) :
    ∃ statics : List StaticConnection,
      List.Forall₂ (fun connection s => ProfileOf networks connection s.profile)
          (connections.filter isStatic) statics ∧
        ∀ profiles, configureNetworks provisioner networks connections profiles =
          .ok (StaticConnection.runAll statics profiles) := by
  induction connections with
  | nil => exact ⟨[], .nil, fun _ => rfl⟩
  | cons connection connections ih =>
    obtain ⟨statics, hstatics, hrun⟩ := ih fun c hc => h c (.tail _ hc)
    cases hstatic : isStatic connection with
    | false =>
      refine ⟨statics, by simpa [hstatic] using hstatics, ?_⟩
      intro profiles
      rw [configureNetworks, configureConnection_of_not_isStatic hstatic, except_ok_bind, hrun]
    | true =>
      obtain ⟨network, hnetwork, hmask⟩ := h connection List.mem_cons_self
      obtain ⟨s, hs, hscript⟩ := configureConnection_of_isStatic provisioner hstatic hnetwork hmask
      refine ⟨s :: statics, ?_, ?_⟩
      · rw [List.filter_cons_of_pos hstatic]
        exact .cons hs hstatics
      · intro profiles
        rw [configureNetworks, hscript, except_ok_bind, hrun]
        rfl

theorem ProfileOf.survives_iff {networks : List Network} {connection : Connection}
    {s : StaticConnection} {profiles : List NMProfile}
    (h : ProfileOf networks connection s.profile) :
    s.Survives profiles ↔ ∃ p ∈ profiles, ProfileOf networks connection p := by
  obtain ⟨hname, hiface, network, cidr, hnetwork, hcidr, haddresses⟩ := h
  constructor
  · rintro ⟨p, hp, hpname, hpiface, hpaddresses⟩
    refine ⟨p, hp, hpname.trans hname, hiface.trans (congrArg some hpiface.symm), network, cidr,
      hnetwork, hcidr, hpaddresses.trans haddresses⟩
  · rintro ⟨p, hp, hpname, hpiface, network', cidr', hnetwork', hcidr', hpaddresses⟩
    obtain rfl := Except.ok.inj (hnetwork.symm.trans hnetwork')
    obtain rfl := Except.ok.inj (hcidr.symm.trans hcidr')
    refine ⟨p, hp, hpname.trans hname.symm, ?_, hpaddresses.trans haddresses.symm⟩
    exact (Option.some.inj (hiface.symm.trans hpiface)).symm

omit [Inet6] in
theorem forall_mem_iff_of_forall₂ {α β : Type} {R : α → β → Prop} {P : α → Prop} {Q : β → Prop}
    {as : List α} {bs : List β} (h : List.Forall₂ R as bs) (hiff : ∀ a b, R a b → (P a ↔ Q b)) :
    (∀ a ∈ as, P a) ↔ ∀ b ∈ bs, Q b := by
  induction h with
  | nil => simp
  | cons hab _ ih => rw [List.forall_mem_cons, List.forall_mem_cons, hiff _ _ hab, ih]

theorem Linked.survive_iff {networks : List Network} {connections : List Connection}
    (h : Linked networks connections) (provisioner : Provisioner) (profiles : List NMProfile) :
    (∃ final, configureNetworks provisioner networks connections profiles = .ok final ∧
        ∀ connection ∈ connections, isStatic connection = true →
          ∃ p ∈ final, ProfileOf networks connection p) ↔
      ((connections.filter isStatic).map (·.interface)).Nodup := by
  obtain ⟨statics, hstatics, hrun⟩ :=
    configureNetworks_eq_runAll provisioner h.network
  have hnames : (connections.filter isStatic).map (fun c => connectionName c.profile) =
      statics.map StaticConnection.name := by
    rw [← List.forall₂_eq_eq_eq, List.forall₂_map_left_iff, List.forall₂_map_right_iff]
    exact hstatics.imp fun _ _ hs => hs.1.symm
  have hifaces : (connections.filter isStatic).map (·.interface) =
      (statics.map StaticConnection.iface).map some := by
    rw [← List.forall₂_eq_eq_eq, List.map_map, List.forall₂_map_left_iff,
      List.forall₂_map_right_iff]
    exact hstatics.imp fun _ _ hs => hs.2.1
  have hnodup : (statics.map StaticConnection.name).Nodup := by
    rw [← hnames, ← Function.comp_def, ← List.map_map]
    apply List.Nodup.map connectionName_injective
    exact h.nodup.sublist (List.filter_sublist.map _)
  have hall : (∀ connection ∈ connections, isStatic connection = true →
      ∃ p ∈ StaticConnection.runAll statics profiles, ProfileOf networks connection p) ↔
        ∀ s ∈ statics, s.Survives (StaticConnection.runAll statics profiles) := by
    rw [← forall_mem_iff_of_forall₂ hstatics fun _ _ hs => hs.survives_iff.symm]
    simp only [List.mem_filter, and_imp]
  rw [hifaces, List.nodup_map_iff (Option.some_injective _),
    ← StaticConnection.survives_iff hnodup profiles, ← hall]
  constructor
  · rintro ⟨final, hfinal, hprofiles⟩
    obtain rfl := Except.ok.inj ((hrun profiles).symm.trans hfinal)
    exact hprofiles
  · exact fun hprofiles => ⟨_, hrun profiles, hprofiles⟩

/-! ## Produced connections -/

/-- Networks and connections that were added in pairs. -/
theorem linked_of_pairs {added : List (Network × Connection)}
    (hnodup : (added.map fun pair => pair.2.profile).Nodup)
    (hpairs : ∀ pair ∈ added, pair.1.profile = pair.2.profile ∧
      Network.isMask pair.1.subnetMask = true) :
    Linked (added.map Prod.fst) (added.map Prod.snd) := by
  constructor
  · rw [List.map_map]
    exact hnodup
  · intro connection hconnection
    obtain ⟨pair, hpair, rfl⟩ := List.mem_map.mp hconnection
    have hsome : ((added.map Prod.fst).find? (·.profile = pair.2.profile)).isSome = true := by
      rw [List.find?_isSome]
      exact ⟨pair.1, List.mem_map_of_mem hpair, by simpa using (hpairs pair hpair).1⟩
    obtain ⟨network, hnetwork⟩ := Option.isSome_iff_exists.mp hsome
    obtain ⟨other, hother, rfl⟩ := List.mem_map.mp (List.mem_of_find?_eq_some hnetwork)
    exact ⟨other.1, hnetwork, (hpairs other hother).2⟩

theorem linked_filling {host : Host} {af : AnswerFile} {f : Filling} (h : f.Sound host af) :
    Linked f.networks f.connections := by
  let pairOf (profile : Network.Profile) : Option (Network × Connection) :=
    (f.link profile).map fun link => (link.network profile, link.connection profile)
  have hnetworks : f.networks = (Filling.profiles.filterMap pairOf).map Prod.fst := by
    simp only [Filling.networks, List.map_filterMap, pairOf, Option.map_map, Function.comp_def]
  have hconnections : f.connections = (Filling.profiles.filterMap pairOf).map Prod.snd := by
    simp only [Filling.connections, List.map_filterMap, pairOf, Option.map_map, Function.comp_def]
  rw [hnetworks, hconnections]
  apply linked_of_pairs
  · cases hs : f.service <;> cases ha : f.application <;>
      simp [Filling.profiles, pairOf, Filling.link, Link.connection, hs, ha]
  · intro pair hpair
    obtain ⟨profile, -, hprofile⟩ := List.mem_filterMap.mp hpair
    obtain ⟨link, hlink, rfl⟩ := Option.map_eq_some_iff.mp hprofile
    exact ⟨rfl, (h.link hlink).2.mask⟩

/-- The networks and the connections that the program can hand to the role: those of
`fillData` with an answerfile, or those of the networking step of the questionnaire on a
model without networks. -/
inductive Produced (host : Host) : List Network → List Connection → Prop
  | filled {af : AnswerFile} {m : Cluster}
      (h : Cluster.fillData host af (Cluster.fresh host) = .ok m) :
      Produced host m.networks m.headnode.connections
  | created {nc : NetworkCreator} {model m : Cluster} (hnetworks : model.networks = [])
      (hconnections : model.headnode.connections = [])
      (h : nc.saveNetworksToModel host model = .ok m) :
      Produced host m.networks m.headnode.connections

theorem Produced.linked {host : Host} {networks : List Network} {connections : List Connection}
    (h : Produced host networks connections) : Linked networks connections := by
  cases h with
  | filled h =>
    obtain ⟨f, hsound, rfl⟩ := Cluster.fillData_fresh.mp h
    exact linked_filling hsound
  | @created nc model m hnetworks hconnections h =>
    obtain ⟨added, hadded, hadd₁, hadd₂⟩ := NetworkCreator.saveNetworks_eq_ok h
    rw [hadd₁, hadd₂, hnetworks, hconnections, List.nil_append, List.nil_append]
    apply linked_of_pairs
    · have hprofiles : added.map (fun pair => pair.2.profile) = nc.networks.map (·.profile) := by
        rw [← List.forall₂_eq_eq_eq, List.forall₂_map_left_iff, List.forall₂_map_right_iff]
        exact hadded.flip.imp fun _ _ hsaved => hsaved.connected
      rw [hprofiles]
      exact nc.nodup
    · intro pair hpair
      obtain ⟨net, -, hsaved⟩ := exists_of_forall₂ hadded hpair
      exact ⟨hsaved.profile.trans hsaved.connected.symm, hsaved.mask⟩

theorem static_profiles_survive_iff {host : Host} {networks : List Network}
    {connections : List Connection} (h : Produced host networks connections)
    (provisioner : Provisioner) (profiles : List NMProfile) :
    (∃ final, configureNetworks provisioner networks connections profiles = .ok final ∧
        ∀ connection ∈ connections, isStatic connection = true →
          ∃ p ∈ final, ProfileOf networks connection p) ↔
      ((connections.filter isStatic).map (·.interface)).Nodup :=
  h.linked.survive_iff provisioner profiles

end

/-! ## Two layouts -/

/-- A machine with three interfaces. -/
def threePortHost : Host :=
  { sampleHost with
    interfaces := ["lo", "eth0", "eth1", "eth2"]
    interfaces_named := by decide }

/-- What the questionnaire collects when every network has an interface of its own. -/
def separateCreator : NetworkCreator where
  networks :=
    [{ profile := .External, kind := .Ethernet, interface := "eth0", address := "192.168.1.10"
       subnetMask := "255.255.255.0", gateway := "", name := "example.com", domains := [] },
     { profile := .Management, kind := .Ethernet, interface := "eth1", address := "10.0.0.1"
       subnetMask := "255.255.255.0", gateway := "", name := "cluster.local", domains := [] },
     { profile := .Service, kind := .Ethernet, interface := "eth2", address := "10.1.0.1"
       subnetMask := "255.255.255.0", gateway := "", name := "bmc.local", domains := [] }]
  nodup := by decide

/-- The same with the service network on the interface of the management network. -/
def sharedCreator : NetworkCreator where
  networks :=
    [{ profile := .External, kind := .Ethernet, interface := "eth0", address := "192.168.1.10"
       subnetMask := "255.255.255.0", gateway := "", name := "example.com", domains := [] },
     { profile := .Management, kind := .Ethernet, interface := "eth1", address := "10.0.0.1"
       subnetMask := "255.255.255.0", gateway := "", name := "cluster.local", domains := [] },
     { profile := .Service, kind := .Ethernet, interface := "eth1", address := "10.1.0.1"
       subnetMask := "255.255.255.0", gateway := "", name := "bmc.local", domains := [] }]
  nodup := by decide

/-- The model that the networking step leaves on `threePortHost`. -/
def createdModel (nc : NetworkCreator) : Cluster :=
  match @NetworkCreator.saveNetworksToModel plainInet6 threePortHost nc (Cluster.fresh threePortHost) with
  | .ok m => m
  | .error _ => Cluster.fresh threePortHost

theorem produced_separate :
    @Produced plainInet6 threePortHost (createdModel separateCreator).networks
      (createdModel separateCreator).headnode.connections := by
  apply @Produced.created plainInet6 threePortHost separateCreator (Cluster.fresh threePortHost)
  · rfl
  · rfl
  · decide

theorem separate_profiles_survive :
    @Produced plainInet6 threePortHost (createdModel separateCreator).networks
        (createdModel separateCreator).headnode.connections ∧
      ∃ final, @configureNetworks plainInet6 .xCAT (createdModel separateCreator).networks
          (createdModel separateCreator).headnode.connections [] = .ok final ∧
        ∀ connection ∈ (createdModel separateCreator).headnode.connections,
          isStatic connection = true →
            ∃ p ∈ final, @ProfileOf plainInet6 (createdModel separateCreator).networks connection p :=
  ⟨produced_separate,
    (@static_profiles_survive_iff plainInet6 _ _ _ produced_separate .xCAT []).mpr
      (by decide)⟩

/-- The questionnaire lets Management and Service share an interface. The script for Service
deletes the profile of Management. -/
theorem shared_interface_loses_management :
    NetworkCreator.canShareInterface .Management .Service = true ∧
      @Produced plainInet6 threePortHost (createdModel sharedCreator).networks
        (createdModel sharedCreator).headnode.connections ∧
      ¬ ∃ final, @configureNetworks plainInet6 .xCAT (createdModel sharedCreator).networks
          (createdModel sharedCreator).headnode.connections [] = .ok final ∧
        ∀ connection ∈ (createdModel sharedCreator).headnode.connections,
          isStatic connection = true →
            ∃ p ∈ final, @ProfileOf plainInet6 (createdModel sharedCreator).networks connection p := by
  refine ⟨rfl, ?_, ?_⟩
  · apply @Produced.created plainInet6 threePortHost sharedCreator (Cluster.fresh threePortHost)
    · rfl
    · rfl
    · decide
  · rintro ⟨final, hfinal, hprofiles⟩
    have hnames : (@configureNetworks plainInet6 .xCAT (createdModel sharedCreator).networks
        (createdModel sharedCreator).headnode.connections []).map
          (fun profiles => profiles.map (·.name)) = .ok ["Service"] := by
      decide
    have hmanagement : ∃ connection ∈ (createdModel sharedCreator).headnode.connections,
        isStatic connection = true ∧ connection.profile = .Management := by
      decide
    obtain ⟨connection, hmem, hstatic, hprofile⟩ := hmanagement
    obtain ⟨p, hp, hname, -⟩ := hprofiles connection hmem hstatic
    rw [hfinal] at hnames
    have hlist : final.map (·.name) = ["Service"] := Except.ok.inj hnames
    have hservice : p.name ∈ ["Service"] := hlist ▸ List.mem_map_of_mem hp
    rw [hname, hprofile] at hservice
    exact absurd hservice (by decide)

end NetworkRole

end OpenCattus
