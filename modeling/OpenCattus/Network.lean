import OpenCattus.OperatingSystem

/-!
# The host, networks and connections

What the installer asks of the machine it runs on (`Host`), and the `Network` and
`Connection` records with their checked setters.

`Network.isMask_isV4` and `calculateAddress_eq_ok` collect what the setters imply: a
mask is a version 4 address, and a computed network address comes from version 4.
-/

namespace OpenCattus

open Foundations Foundations.Text Foundations.Inet

/-! ## The host -/

/-- What `std::filesystem::exists` reports about a path. -/
inductive PathStatus where
  | found
  | missing
  | permissionDenied
  | failed (message : String)
  deriving DecidableEq, Repr

/-- The machine that becomes the head node, as the installer sees it. A probe that fails
throws `std::runtime_error`. -/
structure Host where
  /-- The probed operating system, with the running kernel. -/
  os : OS
  kernel_isSome : os.kernel.isSome = true
  /-- The node name of the kernel. -/
  nodename : String
  /-- The names of the interfaces; the kernel has none without a name. -/
  interfaces : List String
  interfaces_named : "" ∉ interfaces
  fetchAddress : String → Result Address
  fetchSubnetMask : String → Result Address
  fetchGateway : String → Address
  fetchNameservers : Result (List Address)
  /-- The answer of `getdomainname`. -/
  domainname : Result String
  fetchAddress_throws : ∀ interface e, fetchAddress interface = .error e → e.kind = .runtimeError
  fetchSubnetMask_throws : ∀ interface e, fetchSubnetMask interface = .error e →
    e.kind = .runtimeError
  fetchNameservers_throws : ∀ e, fetchNameservers = .error e → e.kind = .runtimeError
  domainname_throws : ∀ e, domainname = .error e → e.kind = .runtimeError
  pathStatus : String → PathStatus
  /-- The checksum of a disk image: the one that is kept next to it, or else the one that is taken
  and kept. -/
  imageChecksum : String → Result (List UInt8)
  imageChecksum_throws : ∀ path e, imageChecksum path = .error e →
    e.kind = .systemError ∨ e.kind = .lengthError
  dryRun : Bool
  /-- `--skip disk-checksum`. -/
  skipDiskChecksum : Bool := false
  /-- The answerfile that the command line names. -/
  answerfile : String

/-! ## Networks -/

structure Network where
  profile : Network.Profile
  kind : Network.Kind
  address : Address := default
  subnetMask : Address := default
  gateway : Address := default
  domainName : String := ""
  nameservers : List Address := []
  deriving DecidableEq, Repr

namespace Network

/-- Alphanumerics, hyphens and dots. -/
def isDomainChar (c : Char) : Bool := c.isAlphanum || c == '-' || c == '.'

/-- The checks of `Network::setDomainName`. -/
def validateDomainName (domainName : String) : Result Unit :=
  if domainName = "" then invalidArgument "Domain name cannot be empty."
  else if 255 < domainName.utf8ByteSize then
    .error ⟨.lengthError,
      "Domain name exceeds the maximum allowed length of 255 characters."⟩
  else if domainName.toList.head? = some '-' ∨ domainName.toList.getLast? = some '-' then
    runtimeError "Hostname cannot start or end with a hyphen."
  else if domainName.toList.all Char.isDigit then
    invalidArgument "Domain name should not consist solely of numeric digits."
  else if !domainName.toList.all isDomainChar then
    invalidArgument ("Domain name (" ++ domainName ++ ") contains invalid characters. Only " ++
      "alphanumeric characters and hyphens are allowed.")
  else .ok ()

def setDomainName (network : Network) (domainName : String) : Result Network := do
  validateDomainName domainName
  .ok { network with domainName }

/-- `Network::fetchDomainName`. -/
def fetchDomainName (host : Host) : Result String := do
  let name ← host.domainname
  .ok (if name = "(none)" then "" else name)

def setGateway (network : Network) (gateway : Address) : Network := { network with gateway }

/-- `Network::setNameservers` appends. -/
def setNameservers (network : Network) (nameservers : List Address) : Network :=
  { network with nameservers := network.nameservers ++ nameservers }

def setAddress (network : Network) (ip : Address) : Result Network :=
  if ip = .v4 0 then runtimeError "IP address cannot be 0.0.0.0"
  else .ok { network with address := ip }

section Inet

variable [Inet6]

/-- `boost::asio::ip::make_address`, which throws. -/
def parseAddress (text : String) : Result Address :=
  match makeAddress text with
  | some a => .ok a
  | none => .error ⟨.systemError, "Invalid argument"⟩

/-- The overload of `Network::setNameservers` for text. -/
def setNameserversText (network : Network) (nameservers : List String) : Result Network := do
  let nameservers ← nameservers.mapM parseAddress
  .ok (network.setNameservers nameservers)

def setSubnetMask (network : Network) (subnetMask : Address) : Result Network :=
  if isMask subnetMask then .ok { network with subnetMask }
  else runtimeError "Invalid subnet mask"

end Inet

/-- `Network::calculateAddress`. An address that is not version 4 has no dotted quad, so
its bits count as zero. -/
def calculateAddress (network : Network) (connectionAddress : Address) : Result Address :=
  if network.subnetMask.isUnspecified then
    runtimeError "Network must have a specified subnet mask to calculate the address"
  else
    match connectionAddress, network.subnetMask with
    | .v4 ip, .v4 mask => .ok (.v4 (ip &&& mask))
    | _, _ => .ok (.v4 0)

/-! ### What the setters accept -/

theorem setDomainName_eq_ok {network r : Network} {domainName : String} :
    network.setDomainName domainName = .ok r ↔
      validateDomainName domainName = .ok () ∧ r = { network with domainName } := by
  unfold setDomainName
  rw [except_bind_ok]
  exact ⟨fun ⟨(), h, heq⟩ => ⟨h, (Except.ok.inj heq).symm⟩, fun ⟨h, heq⟩ => ⟨(), h, heq ▸ rfl⟩⟩

theorem validateDomainName_ne_empty {domainName : String}
    (h : validateDomainName domainName = .ok ()) : domainName ≠ "" := by
  rintro rfl
  simp [validateDomainName] at h

theorem setSubnetMask_eq_ok [Inet6] {network r : Network} {mask : Address} :
    network.setSubnetMask mask = .ok r ↔
      isMask mask = true ∧ r = { network with subnetMask := mask } := by
  unfold setSubnetMask
  cases isMask mask with
  | false => simp
  | true =>
    simp only [if_true, Except.ok.injEq, true_and]
    exact eq_comm

/-- Every mask of the table is a version 4 address. -/
theorem isMask_isV4 [Inet6] {mask : Address} (h : isMask mask = true) : mask.isV4 = true := by
  cases mask with
  | v4 bits => rfl
  | v6 bits scope =>
    have hmem : Inet6.ntop bits scope ∈ cidr.map Prod.fst := Assoc.isSome_get_iff.mp h
    have hcolon : ':' ∈ (Inet6.ntop bits scope).toList :=
      Inet6.colon_mem_of_pton (Inet6.pton_ntop bits scope)
    have hkeys : ∀ text ∈ cidr.map Prod.fst, ':' ∉ text.toList := by decide
    exact absurd hcolon (hkeys _ hmem)

/-- The network that an address belongs to; unspecified unless both are version 4. -/
def subnet : Address → Address → Address
  | .v4 ip, .v4 mask => .v4 (ip &&& mask)
  | _, _ => .v4 0

theorem ne_zero_of_subnet {ip mask : Address} (h : subnet ip mask ≠ .v4 0) : ip ≠ .v4 0 := by
  rintro rfl
  cases mask <;> simp [subnet] at h

/-- Computing the address of a network and setting it. -/
theorem calculateAddress_eq_ok {network r : Network} {ip : Address} :
    (∃ address, network.calculateAddress ip = .ok address ∧ network.setAddress address = .ok r) ↔
      subnet ip network.subnetMask ≠ .v4 0 ∧
        r = { network with address := subnet ip network.subnetMask } := by
  have hmask : network.subnetMask.isUnspecified = true → subnet ip network.subnetMask = .v4 0 := by
    intro h
    cases ip <;> cases hm : network.subnetMask <;> simp_all [Address.isUnspecified, subnet]
  unfold calculateAddress setAddress
  by_cases hunspecified : network.subnetMask.isUnspecified = true
  · simp [hunspecified, hmask hunspecified]
  · have heq : (match ip, network.subnetMask with
        | .v4 ip, .v4 mask => (.ok (.v4 (ip &&& mask)) : Result Address)
        | _, _ => .ok (.v4 0)) = .ok (subnet ip network.subnetMask) := by
      cases ip <;> cases network.subnetMask <;> rfl
    simp only [hunspecified, Bool.false_eq_true, if_false, heq, Except.ok.injEq, exists_eq_left']
    by_cases hzero : subnet ip network.subnetMask = .v4 0
    · simp [hzero]
    · rw [if_neg hzero]
      simp only [ne_eq, hzero, not_false_iff, true_and, Except.ok.injEq]
      exact eq_comm

end Network

/-! ## Hexadecimal digits -/

/-- The value of a hexadecimal digit. -/
def hexDigitValue (c : Char) : Nat :=
  if c.isDigit then c.toNat - 48 else c.toLower.toNat - 87

theorem isDigit_iff {c : Char} : c.isDigit = true ↔ 48 ≤ c.toNat ∧ c.toNat ≤ 57 := by
  rw [Char.isDigit, Bool.and_eq_true, decide_eq_true_iff, decide_eq_true_iff, ge_iff_le,
    UInt32.le_iff_toNat_le, UInt32.le_iff_toNat_le]
  exact Iff.rfl

/-! ## Connections -/

/-- A connection to the network with the given profile. -/
structure Connection where
  profile : Network.Profile
  interface : Option String := none
  mac : Option String := none
  address : Address := default
  mtu : Nat := 1500
  deriving DecidableEq, Repr

namespace Connection

/-- The constructor: the MTU depends on the type of the network. -/
def ofNetwork (network : Network) : Connection where
  profile := network.profile
  mtu := if network.kind = .Infiniband then 2044 else 1500

def setInterface (host : Host) (connection : Connection) (interface : String) :
    Result Connection :=
  if interface = "lo" then runtimeError "Cannot use the loopback interface"
  else if interface ∈ host.interfaces then .ok { connection with interface := some interface }
  else runtimeError ("Cannot find network interface " ++ interface)

def isHexDigit (c : Char) : Bool :=
  c.isDigit || ('a' ≤ c && c ≤ 'f') || ('A' ≤ c && c ≤ 'F')

/-- `(?:[0-9A-Fa-f]{2}[:-]){5}[0-9A-Fa-f]{2}`, group by group. -/
def isColonMac : List Char → Bool
  | [a, b] => isHexDigit a && isHexDigit b
  | a :: b :: sep :: rest =>
    isHexDigit a && isHexDigit b && (sep == ':' || sep == '-') && isColonMac rest
  | _ => false

/-- `[0-9a-fA-F]{4}\.[0-9a-fA-F]{4}\.[0-9a-fA-F]{4}`, group by group. -/
def isCiscoMac : List Char → Bool
  | [a, b, c, d] => [a, b, c, d].all isHexDigit
  | a :: b :: c :: d :: sep :: rest =>
    [a, b, c, d].all isHexDigit && sep == '.' && isCiscoMac rest
  | _ => false

/-- `Connection::validateMAC`. -/
def validateMAC (address : String) : Except String Unit :=
  if address.utf8ByteSize ≠ 12 ∧ address.utf8ByteSize ≠ 14 ∧ address.utf8ByteSize ≠ 17 then
    .error "Invalid MAC address size"
  else if (address.utf8ByteSize = 17 ∧ isColonMac address.toList) ∨
      (address.utf8ByteSize = 14 ∧ isCiscoMac address.toList) then .ok ()
  else .error "Invalid MAC address format"

def setMAC (connection : Connection) (mac : String) : Result Connection :=
  match validateMAC mac with
  | .ok () => .ok { connection with mac := some (lower mac) }
  | .error message => runtimeError message

def setAddress (connection : Connection) (ip : Address) : Result Connection :=
  if ip = .v4 0 then runtimeError "IP address cannot be 0.0.0.0"
  else .ok { connection with address := ip }

/-! ### The letter case of a MAC address does not matter -/

theorem isHexDigit_iff {c : Char} : isHexDigit c = true ↔
    (48 ≤ c.toNat ∧ c.toNat ≤ 57) ∨ (97 ≤ c.toNat ∧ c.toNat ≤ 102) ∨
      (65 ≤ c.toNat ∧ c.toNat ≤ 70) := by
  unfold isHexDigit
  simp only [Bool.or_eq_true, Bool.and_eq_true, decide_eq_true_iff, Char.isDigit, Char.le_def,
    UInt32.le_iff_toNat_le, ge_iff_le, or_assoc]
  exact Iff.rfl

theorem isHexDigit_toLower (c : Char) : isHexDigit c.toLower = isHexDigit c := by
  have hlower := toNat_toLower c
  rw [Bool.eq_iff_iff, isHexDigit_iff, isHexDigit_iff]
  split at hlower <;> omega

theorem isColonMac_map_toLower (cs : List Char) :
    isColonMac (cs.map Char.toLower) = isColonMac cs := by
  have hcolon : ∀ c : Char, (c.toLower == ':') = (c == ':') := fun c => by
    rw [Bool.eq_iff_iff, beq_iff_eq, beq_iff_eq, toLower_eq_iff (by decide)]
  have hdash : ∀ c : Char, (c.toLower == '-') = (c == '-') := fun c => by
    rw [Bool.eq_iff_iff, beq_iff_eq, beq_iff_eq, toLower_eq_iff (by decide)]
  fun_induction isColonMac cs with
  | case1 a b => simp [isColonMac, isHexDigit_toLower]
  | case2 a b sep rest ih => simp [isColonMac, isHexDigit_toLower, hcolon, hdash, ih]
  | case3 cs h₁ h₂ =>
    match cs with
    | [] => rfl
    | [a] => rfl
    | [a, b] => exact absurd rfl (h₁ a b)
    | a :: b :: c :: rest => exact absurd rfl (h₂ a b c rest)

theorem isCiscoMac_map_toLower (cs : List Char) :
    isCiscoMac (cs.map Char.toLower) = isCiscoMac cs := by
  have hdot : ∀ c : Char, (c.toLower == '.') = (c == '.') := fun c => by
    rw [Bool.eq_iff_iff, beq_iff_eq, beq_iff_eq, toLower_eq_iff (by decide)]
  fun_induction isCiscoMac cs with
  | case1 a b c d => simp [isCiscoMac, isHexDigit_toLower]
  | case2 a b c d sep rest ih => simp [isCiscoMac, isHexDigit_toLower, hdot, ih]
  | case3 cs h₁ h₂ =>
    match cs with
    | [] => rfl
    | [a] => rfl
    | [a, b] => rfl
    | [a, b, c] => rfl
    | [a, b, c, d] => exact absurd rfl (h₁ a b c d)
    | a :: b :: c :: d :: e :: rest => exact absurd rfl (h₂ a b c d e rest)

theorem validateMAC_lower (address : String) : validateMAC (lower address) = validateMAC address := by
  simp only [validateMAC, utf8ByteSize_lower, toList_lower, isColonMac_map_toLower,
    isCiscoMac_map_toLower]

theorem setMAC_eq_ok {connection r : Connection} {mac : String} :
    connection.setMAC mac = .ok r ↔
      validateMAC mac = .ok () ∧ r = { connection with mac := some (lower mac) } := by
  unfold setMAC
  cases validateMAC mac with
  | ok u => simp [eq_comm]
  | error message => simp

theorem setAddress_eq_ok {connection r : Connection} {ip : Address} :
    connection.setAddress ip = .ok r ↔ ip ≠ .v4 0 ∧ r = { connection with address := ip } := by
  unfold setAddress
  by_cases hip : ip = .v4 0
  · simp [hip]
  · rw [if_neg hip]
    simp only [ne_eq, hip, not_false_iff, true_and, Except.ok.injEq]
    exact eq_comm

/-- An interface that a connection can use. -/
def Usable (host : Host) (interface : String) : Prop :=
  interface ≠ "lo" ∧ interface ∈ host.interfaces

theorem setInterface_eq_ok {host : Host} {connection r : Connection} {interface : String} :
    connection.setInterface host interface = .ok r ↔
      Usable host interface ∧ r = { connection with interface := some interface } := by
  unfold setInterface Usable
  by_cases hlo : interface = "lo"
  · simp [hlo]
  · by_cases hmem : interface ∈ host.interfaces
    · simp [hlo, hmem, eq_comm]
    · simp [hlo, hmem]

end Connection

end OpenCattus
