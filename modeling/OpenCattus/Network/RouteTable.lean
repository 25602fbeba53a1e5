import OpenCattus.Foundations.Streams
import OpenCattus.Network

/-!
# The default gateway in the route table

`parseGatewayFromProcRoute` reads `/proc/net/route`: it takes the gateway of the first line for
the interface whose destination is zero, and looks neither at the mask nor on when there is no
gateway.

`gateway_exact_iff` says for which tables this is the gateway of the first default route.
-/

namespace OpenCattus

open Foundations Foundations.Text Foundations.Inet InputStream

/-! ## Numbers in base 16 -/

def hexNumber (digits : List Char) : Nat := digits.foldl (fun n c => 16 * n + hexDigitValue c) 0

/-- The longest run of digits; `none` when there is no digit. -/
def scanHexDigits (cs : List Char) : Option Nat :=
  let digits := cs.takeWhile Connection.isHexDigit
  if digits = [] then none else some (hexNumber digits)

/-- The number of `strtoul` in base 16, behind the sign; a prefix `0x` before a digit is left out. -/
def scanHexBody : List Char → Option Nat
  | '0' :: x :: cs =>
    if (x = 'x' ∨ x = 'X') ∧ cs.head?.any Connection.isHexDigit then scanHexDigits cs
    else scanHexDigits ('0' :: x :: cs)
  | cs => scanHexDigits cs

/-- `std::stoul(text, nullptr, 16)`; `none` when it throws. -/
def stoulHex (text : String) : Option Nat :=
  let scanned := match text.toList.dropWhile isSpace with
    | '-' :: cs => (scanHexBody cs).map fun n => (true, n)
    | '+' :: cs => (scanHexBody cs).map fun n => (false, n)
    | cs => (scanHexBody cs).map fun n => (false, n)
  match scanned with
  | none => none
  | some (negative, n) =>
    if sizeLimit ≤ n then none
    else some (if negative then (sizeLimit - n) % sizeLimit else n)

/-! ## The lookup -/

/-- `ntohl` on a machine with the least significant byte first. -/
def ntohl (raw : BitVec 32) : BitVec 32 :=
  ofOctets (octet raw 0) (octet raw 1) (octet raw 2) (octet raw 3)

def gatewayFromRouteHex (rawGateway : String) : Option Address :=
  match stoulHex rawGateway with
  | none => none
  | some n =>
    let raw := BitVec.ofNat 32 n
    if raw = 0 then none else some (.v4 (ntohl raw))

/-- The words of a line, as `operator>>` takes them. -/
def lineFields (line : List Char) : List String :=
  ((splitEach isSpace line).filter (· ≠ [])).map String.ofList

/-- The loop over the lines behind the header. -/
def findGateway (interface : String) : List (List Char) → Option Address
  | [] => none
  | line :: lines =>
    let fields := lineFields line
    let iface := (fields[0]?).getD ""
    let destination := (fields[1]?).getD ""
    let gateway := (fields[2]?).getD ""
    if iface ≠ interface ∨ destination ≠ "00000000" then findGateway interface lines
    else gatewayFromRouteHex gateway

def parseGatewayFromProcRoute (routes interface : String) : Option Address :=
  let stream := (getline '\n' ⟨routes.toList, false, false⟩).2
  findGateway interface (readLines '\n' (routes.toList.length + 1) stream)

/-! ## The format -/

/-- A line of the table. -/
structure Route where
  iface : String
  destination : BitVec 32
  gateway : BitVec 32
  mask : BitVec 32
  deriving DecidableEq, Repr

/-- The address that eight digits encode: its octets, the last one first. -/
def routeAddress : List Char → Option (BitVec 32)
  | [a, b, c, d, e, f, g, h] =>
    if [a, b, c, d, e, f, g, h].all Connection.isHexDigit then
      some (ofOctets (hexNumber [g, h]) (hexNumber [e, f]) (hexNumber [c, d]) (hexNumber [a, b]))
    else none
  | _ => none

/-- The columns of a line: interface, destination, gateway, flags, references, uses, metric, mask
and the others. -/
structure IsRouteLine (line : List Char) (route : Route) : Prop where
  iface : (lineFields line)[0]? = some route.iface
  destination : ((lineFields line)[1]?).bind (routeAddress ·.toList) = some route.destination
  gateway : ((lineFields line)[2]?).bind (routeAddress ·.toList) = some route.gateway
  mask : ((lineFields line)[7]?).bind (routeAddress ·.toList) = some route.mask

/-- A header, and one line for each route. -/
def IsRouteTable (text : String) (routes : List Route) : Prop :=
  ∃ header lines, segments '\n' text.toList = header :: lines ∧ List.Forall₂ IsRouteLine lines routes

/-- The routes of an interface to every destination, whatever their mask. -/
def zeroRoutes (interface : String) (routes : List Route) : List Route :=
  routes.filter fun route => route.iface = interface ∧ route.destination = 0

/-- A gateway for every destination. -/
def Route.isDefault (route : Route) : Bool :=
  route.destination = 0 && route.mask = 0 && route.gateway ≠ 0

theorem Route.isDefault_iff (route : Route) :
    route.isDefault = true ↔ route.destination = 0 ∧ route.mask = 0 ∧ route.gateway ≠ 0 := by
  unfold Route.isDefault
  rw [Bool.and_eq_true, Bool.and_eq_true, decide_eq_true_iff, decide_eq_true_iff,
    decide_eq_true_iff, and_assoc]

/-- The gateway of the first default route of an interface. -/
def defaultRouteGateway (interface : String) (routes : List Route) : Option Address :=
  (routes.find? fun route => route.iface = interface ∧ route.isDefault).map fun route =>
    .v4 route.gateway

/-! ## Eight digits -/

theorem hexDigitValue_lt {c : Char} (h : Connection.isHexDigit c = true) : hexDigitValue c < 16 := by
  have hlower := toNat_toLower c
  rw [Connection.isHexDigit_iff] at h
  unfold hexDigitValue
  split
  · rename_i hdigit
    rw [isDigit_iff] at hdigit
    omega
  · rename_i hdigit
    rw [isDigit_iff] at hdigit
    split at hlower <;> omega

theorem hexDigitValue_eq_zero_iff {c : Char} (h : Connection.isHexDigit c = true) :
    hexDigitValue c = 0 ↔ c = '0' := by
  have hlower := toNat_toLower c
  rw [Connection.isHexDigit_iff] at h
  unfold hexDigitValue
  constructor
  · intro hzero
    split at hzero
    · rename_i hdigit
      rw [isDigit_iff] at hdigit
      have hnat : c.toNat = ('0' : Char).toNat := by
        have : ('0' : Char).toNat = 48 := rfl
        omega
      exact Char.toNat_inj.mp hnat
    · rename_i hdigit
      rw [isDigit_iff] at hdigit
      split at hlower <;> omega
  · rintro rfl
    rfl

/-- A run of digits is scanned as it is. -/
theorem stoulHex_of_digits {ds : List Char} (hne : ds ≠ [])
    (h : ∀ c ∈ ds, Connection.isHexDigit c = true) (hlt : hexNumber ds < sizeLimit) :
    stoulHex (String.ofList ds) = some (hexNumber ds) := by
  have hbody : scanHexDigits ds = some (hexNumber ds) := by
    have htake : ds.takeWhile Connection.isHexDigit = ds := List.takeWhile_eq_self_iff.mpr h
    unfold scanHexDigits
    rw [htake, if_neg hne]
  have hinit : scanHexBody ds = some (hexNumber ds) := by
    unfold scanHexBody
    split
    · rename_i x cs
      rw [if_neg]
      · exact hbody
      · -- An `x` is no digit.
        have hx := h x (by simp)
        rintro ⟨rfl | rfl, -⟩
        · exact absurd hx (by decide)
        · exact absurd hx (by decide)
    · exact hbody
  obtain ⟨c, cs, rfl⟩ := List.exists_cons_of_ne_nil hne
  have hc := h c List.mem_cons_self
  have hblank : isSpace c = false := by
    rcases hb : isSpace c with _ | _
    · rfl
    · simp only [isSpace, Bool.or_eq_true, beq_iff_eq] at hb
      rcases hb with ((((rfl | rfl) | rfl) | rfl) | rfl) | rfl <;> exact absurd hc (by decide)
  unfold stoulHex
  rw [String.toList_ofList, List.dropWhile_cons, if_neg (by simp [hblank])]
  have hscan : (match c :: cs with
      | '-' :: cs => (scanHexBody cs).map fun n => (true, n)
      | '+' :: cs => (scanHexBody cs).map fun n => (false, n)
      | cs => (scanHexBody cs).map fun n => (false, n)) = some (false, hexNumber (c :: cs)) := by
    split
    · rename_i heq
      cases heq
      exact absurd hc (by decide)
    · rename_i heq
      cases heq
      exact absurd hc (by decide)
    · rw [hinit]
      rfl
  simp only [hscan, Bool.false_eq_true, if_false]
  rw [if_neg (Nat.not_le.mpr hlt)]

theorem octet_ofOctets {a b c d : Nat} (ha : a < 256) (hb : b < 256) (hc : c < 256) (hd : d < 256) :
    octet (ofOctets a b c d) 0 = d ∧ octet (ofOctets a b c d) 1 = c ∧
      octet (ofOctets a b c d) 2 = b ∧ octet (ofOctets a b c d) 3 = a := by
  have hnat : (ofOctets a b c d).toNat = a * 256 ^ 3 + b * 256 ^ 2 + c * 256 + d := by
    rw [ofOctets, BitVec.toNat_ofNat]
    exact Nat.mod_eq_of_lt (by omega)
  refine ⟨?_, ?_, ?_, ?_⟩
  all_goals
    rw [octet, hnat]
    omega

theorem ntohl_ofOctets {a b c d : Nat} (ha : a < 256) (hb : b < 256) (hc : c < 256) (hd : d < 256) :
    ntohl (ofOctets a b c d) = ofOctets d c b a := by
  obtain ⟨h₀, h₁, h₂, h₃⟩ := octet_ofOctets ha hb hc hd
  rw [ntohl, h₀, h₁, h₂, h₃]

theorem ofOctets_eq_zero_iff {a b c d : Nat} (ha : a < 256) (hb : b < 256) (hc : c < 256)
    (hd : d < 256) : ofOctets a b c d = 0 ↔ a = 0 ∧ b = 0 ∧ c = 0 ∧ d = 0 := by
  rw [ofOctets, BitVec.toNat_eq, BitVec.toNat_ofNat, Nat.mod_eq_of_lt (by omega)]
  constructor
  · intro h
    have hsum : a * 256 ^ 3 + b * 256 ^ 2 + c * 256 + d = 0 := h
    omega
  · rintro ⟨rfl, rfl, rfl, rfl⟩
    rfl

theorem hexNumber_pair {a b : Char} (ha : Connection.isHexDigit a = true)
    (hb : Connection.isHexDigit b = true) :
    hexNumber [a, b] < 256 ∧ (hexNumber [a, b] = 0 ↔ a = '0' ∧ b = '0') := by
  have hpair : hexNumber [a, b] = 16 * hexDigitValue a + hexDigitValue b := by
    simp [hexNumber]
  have hlta := hexDigitValue_lt ha
  have hltb := hexDigitValue_lt hb
  rw [hpair, ← hexDigitValue_eq_zero_iff ha, ← hexDigitValue_eq_zero_iff hb]
  constructor
  · omega
  · omega

theorem zeros_iff {a b c d e f g k : Char} : [a, b, c, d, e, f, g, k] = "00000000".toList ↔
    a = '0' ∧ b = '0' ∧ c = '0' ∧ d = '0' ∧ e = '0' ∧ f = '0' ∧ g = '0' ∧ k = '0' := by
  have hzeros : "00000000".toList = ['0', '0', '0', '0', '0', '0', '0', '0'] := by decide
  rw [hzeros]
  simp

/-- What eight digits encode, and the number that they are. -/
structure EncodesAddress (ds : List Char) (address : BitVec 32) : Prop where
  ne_nil : ds ≠ []
  digits : ∀ c ∈ ds, Connection.isHexDigit c = true
  lt : hexNumber ds < 2 ^ 32
  swapped : ntohl (BitVec.ofNat 32 (hexNumber ds)) = address
  number_eq_zero : hexNumber ds = 0 ↔ address = 0
  zeros : ds = "00000000".toList ↔ address = 0

theorem encodes_of_routeAddress {ds : List Char} {address : BitVec 32}
    (h : routeAddress ds = some address) : EncodesAddress ds address := by
  unfold routeAddress at h
  split at h
  · rename_i a b c d e f g k
    split at h
    · rename_i hall
      have hdigits : ∀ x ∈ [a, b, c, d, e, f, g, k], Connection.isHexDigit x = true :=
        List.all_eq_true.mp hall
      obtain rfl := Option.some.inj h
      obtain ⟨hab, habz⟩ := hexNumber_pair (hdigits a (by simp)) (hdigits b (by simp))
      obtain ⟨hcd, hcdz⟩ := hexNumber_pair (hdigits c (by simp)) (hdigits d (by simp))
      obtain ⟨hef, hefz⟩ := hexNumber_pair (hdigits e (by simp)) (hdigits f (by simp))
      obtain ⟨hgk, hgkz⟩ := hexNumber_pair (hdigits g (by simp)) (hdigits k (by simp))
      have hnumber : hexNumber [a, b, c, d, e, f, g, k] =
          hexNumber [a, b] * 256 ^ 3 + hexNumber [c, d] * 256 ^ 2 + hexNumber [e, f] * 256 +
            hexNumber [g, k] := by
        simp only [hexNumber, List.foldl_cons, List.foldl_nil]
        omega
      have hraw : BitVec.ofNat 32 (hexNumber [a, b, c, d, e, f, g, k]) =
          ofOctets (hexNumber [a, b]) (hexNumber [c, d]) (hexNumber [e, f]) (hexNumber [g, k]) := by
        rw [hnumber, ofOctets]
      have hzero := ofOctets_eq_zero_iff hgk hef hcd hab
      refine ⟨by simp, hdigits, by omega, ?_, ?_, ?_⟩
      · rw [hraw, ntohl_ofOctets hab hcd hef hgk]
      · rw [hzero, hnumber]
        omega
      · rw [hzero, habz, hcdz, hefz, hgkz, zeros_iff]
        constructor
        · rintro ⟨ha, hb, hc, hd, he, hf, hg, hk⟩
          exact ⟨⟨hg, hk⟩, ⟨he, hf⟩, ⟨hc, hd⟩, ha, hb⟩
        · rintro ⟨⟨hg, hk⟩, ⟨he, hf⟩, ⟨hc, hd⟩, ha, hb⟩
          exact ⟨ha, hb, hc, hd, he, hf, hg, hk⟩
    · cases h
  · cases h

/-! ## The lines of the table -/

theorem gatewayFromRouteHex_of_encodes {ds : List Char} {address : BitVec 32}
    (h : EncodesAddress ds address) :
    gatewayFromRouteHex (String.ofList ds) = if address = 0 then none else some (.v4 address) := by
  have hlt : hexNumber ds < sizeLimit := Nat.lt_trans h.lt (by decide)
  unfold gatewayFromRouteHex
  rw [stoulHex_of_digits h.ne_nil h.digits hlt]
  dsimp only
  have hraw : BitVec.ofNat 32 (hexNumber ds) = 0 ↔ address = 0 := by
    rw [BitVec.toNat_eq, BitVec.toNat_ofNat, Nat.mod_eq_of_lt h.lt]
    exact h.number_eq_zero
  by_cases hzero : address = 0
  · rw [if_pos (hraw.mpr hzero), if_pos hzero]
  · rw [if_neg (fun hz => hzero (hraw.mp hz)), if_neg hzero, h.swapped]

/-- What the loop does with a line of the table. -/
theorem findGateway_cons {interface : String} {line : List Char} {route : Route}
    (h : IsRouteLine line route) (lines : List (List Char)) :
    findGateway interface (line :: lines) =
      if route.iface = interface ∧ route.destination = 0 then
        (if route.gateway = 0 then none else some (.v4 route.gateway))
      else findGateway interface lines := by
  obtain ⟨destination, hdestination, hencodes⟩ := Option.bind_eq_some_iff.mp h.destination
  obtain ⟨gateway, hgateway, hencoded⟩ := Option.bind_eq_some_iff.mp h.gateway
  have hzeros : destination = "00000000" ↔ route.destination = 0 := by
    rw [← (encodes_of_routeAddress hencodes).zeros, String.toList_inj]
  have hfound := gatewayFromRouteHex_of_encodes (encodes_of_routeAddress hencoded)
  rw [String.ofList_toList] at hfound
  rw [findGateway]
  simp only [h.iface, hdestination, hgateway, Option.getD_some]
  by_cases hroute : route.iface = interface ∧ route.destination = 0
  · rw [if_pos hroute, if_neg, hfound]
    rintro (hiface | hdest)
    · exact hiface hroute.1
    · exact hdest (hzeros.mpr hroute.2)
  · rw [if_neg hroute, if_pos]
    by_contra hnot
    rw [not_or, not_not, not_not] at hnot
    exact hroute ⟨hnot.1, hzeros.mp hnot.2⟩

/-- The gateway that is found is the one of the first route to the destination zero. -/
theorem findGateway_eq {interface : String} {lines : List (List Char)} {routes : List Route}
    (h : List.Forall₂ IsRouteLine lines routes) :
    findGateway interface lines =
      match zeroRoutes interface routes with
      | [] => none
      | route :: _ => if route.gateway = 0 then none else some (.v4 route.gateway) := by
  induction h with
  | nil => rfl
  | @cons line route lines routes hline hlines ih =>
    rw [findGateway_cons hline, zeroRoutes, List.filter_cons]
    by_cases hroute : route.iface = interface ∧ route.destination = 0
    · have hkept : decide (route.iface = interface ∧ route.destination = 0) = true :=
        decide_eq_true hroute
      rw [if_pos hroute, if_pos hkept]
    · have hleft : ¬ decide (route.iface = interface ∧ route.destination = 0) = true :=
        fun h => hroute (of_decide_eq_true h)
      rw [if_neg hroute, if_neg hleft, ih]
      rfl

/-- The loop reads the lines behind the header. -/
theorem readLines_behind_header {content header : List Char} {lines : List (List Char)}
    (h : segments '\n' content = header :: lines) :
    readLines '\n' (content.length + 1) (getline '\n' ⟨content, false, false⟩).2 = lines := by
  rcases exists_part '\n' content with hclean | ⟨part, rest, hpart, rfl⟩
  · by_cases hne : content = []
    · subst hne
      cases h
    · rw [segments_last hclean hne] at h
      obtain ⟨-, rfl⟩ := List.cons.inj h
      rw [getline_last hclean hne]
      exact readLines_of_not_good rfl _
  · rw [segments_part hpart] at h
    obtain ⟨-, rfl⟩ := List.cons.inj h
    rw [getline_part hpart]
    refine readLines_eq ?_
    rw [List.length_append, List.length_cons]
    omega

/-! ## When the gateway is the one of the default route -/

/-- The first default route of an interface is the first default among its routes to zero. -/
theorem defaultRouteGateway_eq (interface : String) (routes : List Route) :
    defaultRouteGateway interface routes =
      ((zeroRoutes interface routes).find? Route.isDefault).map fun route => .v4 route.gateway := by
  unfold defaultRouteGateway zeroRoutes
  rw [List.find?_filter]
  congr 2
  funext route
  rw [Bool.eq_iff_iff, decide_eq_true_iff, decide_eq_true_iff, decide_eq_true_iff,
    Route.isDefault_iff]
  tauto

/-- The first route to zero has a gateway and the mask zero, or what it has instead is also what
the first default route behind it has. -/
def FirstIsDefault (interface : String) (routes : List Route) : Prop :=
  match zeroRoutes interface routes with
  | [] => True
  | route :: others =>
    if route.gateway = 0 then ∀ other ∈ others, other.isDefault = false
    else route.mask = 0 ∨
      ∃ other, others.find? Route.isDefault = some other ∧ other.gateway = route.gateway

theorem zero_of_mem_zeroRoutes {interface : String} {routes : List Route} {route : Route}
    (h : route ∈ zeroRoutes interface routes) : route.destination = 0 := by
  have hroute := (List.mem_filter.mp h).2
  simp only [decide_eq_true_iff] at hroute
  exact hroute.2

/-- The gateway that is returned is the one of the first default route of the interface if and
only if the first route of the interface to the destination zero is that route, or there is none,
or the two have the same gateway. -/
theorem gateway_exact_iff {text interface : String} {routes : List Route}
    (h : IsRouteTable text routes) :
    parseGatewayFromProcRoute text interface = defaultRouteGateway interface routes ↔
      FirstIsDefault interface routes := by
  obtain ⟨header, lines, hsegments, hlines⟩ := h
  unfold parseGatewayFromProcRoute FirstIsDefault
  dsimp only
  rw [readLines_behind_header hsegments, findGateway_eq hlines, defaultRouteGateway_eq]
  cases hzero : zeroRoutes interface routes with
  | nil => simp
  | cons route others =>
    have hdestination : route.destination = 0 :=
      zero_of_mem_zeroRoutes (by rw [hzero]; exact List.mem_cons_self)
    dsimp only
    by_cases hgateway : route.gateway = 0
    · have hnot : ¬ route.isDefault = true :=
        fun h => ((Route.isDefault_iff route).mp h).2.2 hgateway
      rw [if_pos hgateway, if_pos hgateway, List.find?_cons_of_neg hnot]
      rw [eq_comm, Option.map_eq_none_iff, List.find?_eq_none]
      simp only [Bool.not_eq_true]
    · rw [if_neg hgateway, if_neg hgateway]
      by_cases hmask : route.mask = 0
      · have hdefault : route.isDefault = true :=
          (Route.isDefault_iff route).mpr ⟨hdestination, hmask, hgateway⟩
        rw [List.find?_cons_of_pos hdefault]
        exact iff_of_true rfl (.inl hmask)
      · have hnot : ¬ route.isDefault = true :=
          fun h => hmask ((Route.isDefault_iff route).mp h).2.1
        rw [List.find?_cons_of_neg hnot]
        constructor
        · intro heq
          obtain ⟨other, hother, haddress⟩ := Option.map_eq_some_iff.mp heq.symm
          exact .inr ⟨other, hother, by injection haddress⟩
        · rintro (h | ⟨other, hother, haddress⟩)
          · exact absurd h hmask
          · rw [hother, Option.map_some, haddress]

/-- A table of two routes. -/
theorem isRouteTable_pair {header first second : String} {route other : Route}
    (hheader : '\n' ∉ header.toList) (hfirst : '\n' ∉ first.toList)
    (hsecond : '\n' ∉ second.toList) (hroute : IsRouteLine first.toList route)
    (hother : IsRouteLine second.toList other) :
    IsRouteTable (header ++ "\n" ++ first ++ "\n" ++ second ++ "\n") [route, other] := by
  refine ⟨header.toList, [first.toList, second.toList], ?_, .cons hroute (.cons hother .nil)⟩
  have htext : (header ++ "\n" ++ first ++ "\n" ++ second ++ "\n").toList =
      header.toList ++ '\n' :: (first.toList ++ '\n' :: (second.toList ++ '\n' :: [])) := by
    simp
  rw [htext, segments_part hheader, segments_part hfirst, segments_part hsecond]
  rfl

/-- The default route of a second interface. -/
theorem gateway_exact_second_interface :
    parseGatewayFromProcRoute
        ("Iface" ++ "\n" ++ "bond0\t00000000\t0100140A\t0003\t0\t0\t300\t00000000" ++ "\n" ++
          "bond1\t00000000\t010115AC\t0003\t0\t0\t301\t00000000" ++ "\n") "bond1" =
      defaultRouteGateway "bond1" [⟨"bond0", 0, 0x0a140001, 0⟩, ⟨"bond1", 0, 0xac150101, 0⟩] := by
  refine (gateway_exact_iff (isRouteTable_pair (by decide) (by decide) (by decide) ?_ ?_)).mpr
    (.inl rfl)
  · constructor <;> decide
  · constructor <;> decide

/-- A route to the lower half of the addresses stands in front of the default route. -/
theorem gateway_of_split_default :
    IsRouteTable
        ("Iface" ++ "\n" ++ "eth0\t00000000\t0100140A\t0003\t0\t0\t0\t00000080" ++ "\n" ++
          "eth0\t00000000\t010115AC\t0003\t0\t0\t0\t00000000" ++ "\n")
        [⟨"eth0", 0, 0x0a140001, 0x80000000⟩, ⟨"eth0", 0, 0xac150101, 0⟩] ∧
      parseGatewayFromProcRoute
          ("Iface" ++ "\n" ++ "eth0\t00000000\t0100140A\t0003\t0\t0\t0\t00000080" ++ "\n" ++
            "eth0\t00000000\t010115AC\t0003\t0\t0\t0\t00000000" ++ "\n") "eth0" ≠
        defaultRouteGateway "eth0" [⟨"eth0", 0, 0x0a140001, 0x80000000⟩, ⟨"eth0", 0, 0xac150101, 0⟩] := by
  constructor
  · refine isRouteTable_pair (by decide) (by decide) (by decide) ?_ ?_
    · constructor <;> decide
    · constructor <;> decide
  · decide

end OpenCattus
