import OpenCattus.Questionnaire.Settings

/-!
# The menus of the zones

`fetchAvailableTimezones` splits the names of the zones at their first slash into a multimap, from
which `presenterTime` builds a tree; the menus follow a path of the tree and join its names again.

`returns_presenterTime` says what the step does for the names of a zone table: it takes the parts
of one of the names, and sets this name.
-/

namespace OpenCattus

open Foundations Foundations.Text Foundations.Inet Program Dialog

/-! ## The zones of the machine -/

def isTab (c : Char) : Bool := c == '\t'

/-- The third column of a line, unless the line is a comment. -/
def parseZoneLine (line : String) : Option String :=
  if line = "" ∨ startsWith line "#" then none
  else
    match splitEach isTab line.toList with
    | _ :: _ :: zone :: _ => some (String.ofList zone)
    | _ => none

def parseZone1970Tab (lines : List String) : List String := lines.filterMap parseZoneLine

/-- `std::multimap::insert`, behind the entries of the same key. -/
def multimapInsert (entry : String × String) : List (String × String) → List (String × String)
  | [] => [entry]
  | other :: entries =>
    if entry.1 < other.1 then entry :: other :: entries else other :: multimapInsert entry entries

namespace Timezone

/-- The area and the rest of a name. -/
def splitZone (tz : String) : String × String :=
  if '/' ∈ tz.toList then (beforeFirst '/' tz, afterFirst '/' tz) else (tz, "")

/-- `insertTimezone`, of the multimap. -/
def insertTimezone (timezones : List (String × String)) (tz : String) : List (String × String) :=
  if tz = "" then timezones else multimapInsert (splitZone tz) timezones

def fetchAvailableTimezones (zones : List String) : List (String × String) :=
  zones.foldl insertTimezone []

end Timezone

/-! ## Names of zones -/

/-- The parts of a name between its slashes. -/
def zoneParts (zone : String) : List String := (splitEach isSlash zone.toList).map String.ofList

/-- Relative paths of files: no part is empty, and no name is the directory of another one. -/
structure ZoneNames (zones : List String) : Prop where
  parts : ∀ zone ∈ zones, "" ∉ zoneParts zone
  files : ∀ zone ∈ zones, ∀ rest, zone ++ "/" ++ rest ∉ zones

/-- The loop over the choices. -/
def joinParts (first : String) (parts : List String) : String :=
  parts.foldl (fun path part => path ++ "/" ++ part) first

theorem joinParts_cons (first part : String) (parts : List String) :
    joinParts first (part :: parts) = first ++ "/" ++ joinParts part parts := by
  have hfront : ∀ (a b : String) (ps : List String),
      joinParts (a ++ "/" ++ b) ps = a ++ "/" ++ joinParts b ps := by
    intro a b ps
    induction ps generalizing b with
    | nil => rfl
    | cons p ps ih =>
      have hshift : a ++ "/" ++ b ++ "/" ++ p = a ++ "/" ++ (b ++ "/" ++ p) := by
        simp [String.append_assoc]
      rw [joinParts, List.foldl_cons, hshift]
      exact ih (b ++ "/" ++ p)
  exact hfront first part parts

theorem splitEach_eq_or_slash (t : List Char) :
    '/' ∉ t ∧ splitEach isSlash t = [t] ∨
      ∃ part rest, '/' ∉ part ∧ t = part ++ '/' :: rest ∧
        splitEach isSlash t = part :: splitEach isSlash rest := by
  have hclean : ∀ part : List Char, '/' ∉ part → ∀ c ∈ part, isSlash c = false := by
    intro part hpart c hc
    rw [isSlash, beq_eq_false_iff_ne]
    rintro rfl
    exact hpart hc
  by_cases h : '/' ∈ t
  · obtain ⟨part, rest, rfl, hpart⟩ := List.eq_append_cons_of_mem h
    exact .inr ⟨part, rest, hpart, rfl, splitEach_append_cons (hclean part hpart) rfl⟩
  · exact .inl ⟨h, splitEach_of_clean (hclean t h)⟩

/-- The parts, joined again. -/
theorem joinParts_zoneParts (zone : String) :
    ∃ first parts, zoneParts zone = first :: parts ∧ joinParts first parts = zone := by
  have hjoin : ∀ n (t : List Char), t.length = n → ∃ first parts,
      (splitEach isSlash t).map String.ofList = first :: parts ∧
        joinParts first parts = String.ofList t := by
    intro n
    induction n using Nat.strong_induction_on with
    | _ n ih =>
      intro t hlength
      rcases splitEach_eq_or_slash t with ⟨-, hsplit⟩ | ⟨part, rest, -, rfl, hsplit⟩
      · exact ⟨String.ofList t, [], by rw [hsplit]; rfl, rfl⟩
      · rw [List.length_append, List.length_cons] at hlength
        obtain ⟨first, parts, hparts, hrest⟩ := ih rest.length (by omega) rest rfl
        refine ⟨String.ofList part, first :: parts, ?_, ?_⟩
        · rw [hsplit, List.map_cons, hparts]
        · rw [joinParts_cons, hrest, ← String.toList_inj]
          simp
  obtain ⟨first, parts, hparts, hzone⟩ := hjoin _ zone.toList rfl
  exact ⟨first, parts, hparts, by rw [hzone, String.ofList_toList]⟩

theorem joinParts_eq {zone first : String} {parts : List String}
    (h : zoneParts zone = first :: parts) : joinParts first parts = zone := by
  obtain ⟨first', parts', hparts, hzone⟩ := joinParts_zoneParts zone
  obtain ⟨rfl, rfl⟩ := List.cons.inj (h.symm.trans hparts)
  exact hzone

theorem zoneParts_inj {zone other : String} (h : zoneParts zone = zoneParts other) :
    zone = other := by
  obtain ⟨first, parts, hparts, rfl⟩ := joinParts_zoneParts zone
  obtain ⟨first', parts', hparts', rfl⟩ := joinParts_zoneParts other
  obtain ⟨rfl, rfl⟩ := List.cons.inj (hparts.symm.trans (h.trans hparts'))
  rfl

theorem joinParts_append (first : String) (parts others : List String) :
    joinParts first (parts ++ others) = joinParts (joinParts first parts) others :=
  List.foldl_append

/-- The parts of a name are not the first ones of another name. -/
theorem ZoneNames.eq_of_parts {zones : List String} (h : ZoneNames zones) {zone other : String}
    (hzone : zone ∈ zones) (hother : other ∈ zones) (hparts : zoneParts zone <+: zoneParts other) :
    zone = other := by
  obtain ⟨rest, hrest⟩ := hparts
  cases rest with
  | nil =>
    rw [List.append_nil] at hrest
    exact zoneParts_inj hrest
  | cons part rest =>
    obtain ⟨first, parts, hfirst, hjoin⟩ := joinParts_zoneParts zone
    obtain ⟨first', parts', hfirst', hjoin'⟩ := joinParts_zoneParts other
    rw [hfirst, hfirst', List.cons_append] at hrest
    obtain ⟨rfl, rfl⟩ := List.cons.inj hrest
    rw [joinParts_append, hjoin, joinParts_cons] at hjoin'
    exact absurd (hjoin' ▸ hother) (h.files zone hzone _)

/-- The split at the first slash, and the parts of the rest. -/
theorem splitZone_parts {zone first : String} {parts : List String} (h : "" ∉ zoneParts zone)
    (hparts : zoneParts zone = first :: parts) :
    (Timezone.splitZone zone).1 = first ∧
      splitTimezonePath (Timezone.splitZone zone).2 = parts := by
  unfold zoneParts at h hparts
  unfold Timezone.splitZone
  rcases splitEach_eq_or_slash zone.toList with ⟨hslash, hsplit⟩ | ⟨part, rest, hpart, hzone, hsplit⟩
  · rw [hsplit] at hparts
    obtain ⟨rfl, rfl⟩ := List.cons.inj hparts
    rw [if_neg hslash]
    exact ⟨String.ofList_toList.symm, rfl⟩
  · rw [hsplit, List.map_cons] at h hparts
    obtain ⟨rfl, rfl⟩ := List.cons.inj hparts
    have htext : zone = String.ofList part ++ "/" ++ String.ofList rest := by
      rw [← String.toList_inj, hzone]
      simp
    have hclean : '/' ∉ (String.ofList part).toList := by rwa [String.toList_ofList]
    rw [if_pos (by rw [hzone]; simp), htext, beforeFirst_append rfl hclean, afterFirst_append rfl hclean]
    refine ⟨rfl, ?_⟩
    -- No part is empty, the last one neither.
    unfold splitTimezonePath
    dsimp only
    rw [String.toList_ofList, if_neg]
    intro hlast
    exact h (List.mem_cons_of_mem _ (List.mem_of_getLast? hlast))

/-! ## Paths in the tree -/

namespace TimezoneNode

/-- The node at the end of a path. -/
def walk : List String → TimezoneNode → Option TimezoneNode
  | [], root => some root
  | part :: parts, root => (Assoc.get part root.children).bind (walk parts)

/-- The children stand in the order of their names, at every node. -/
inductive Ordered : TimezoneNode → Prop where
  | node {terminal : Bool} {children : List (String × TimezoneNode)} (order : InKeyOrder children)
    (below : ∀ entry ∈ children, Ordered entry.2) : Ordered (.node terminal children)

theorem ordered_empty : Ordered empty := .node List.Pairwise.nil (by simp)

theorem Ordered.insertParts {node : TimezoneNode} (h : Ordered node) (parts : List String) :
    Ordered (insertParts parts node) := by
  induction parts generalizing node with
  | nil =>
    obtain ⟨order, below⟩ := h
    exact .node order below
  | cons part parts ih =>
    obtain ⟨order, below⟩ := h
    refine .node (inKeyOrder_updateAt order _ _ _) fun entry hentry => ?_
    rcases mem_updateAt hentry with hmem | ⟨child, rfl | hchild, rfl⟩
    · exact below entry hmem
    · exact ih ordered_empty
    · exact ih (below _ hchild)

theorem Ordered.get {node child : TimezoneNode} {part : String} (h : Ordered node)
    (hchild : Assoc.get part node.children = some child) : Ordered child := by
  obtain ⟨-, below⟩ := h
  exact below _ (Assoc.mem_of_get hchild)

theorem isSome_walk_empty {path : List String} : (empty.walk path).isSome = true ↔ path = [] := by
  cases path with
  | nil => exact iff_of_true rfl rfl
  | cons part path => simp [walk, empty, children, Assoc.get]

/-- An insertion adds the prefixes of its path. -/
theorem isSome_walk_insertParts {node : TimezoneNode} (h : Ordered node)
    (parts path : List String) :
    ((insertParts parts node).walk path).isSome = true ↔
      (node.walk path).isSome = true ∨ path <+: parts := by
  induction parts generalizing node path with
  | nil =>
    obtain ⟨terminal, children⟩ := node
    cases path with
    | nil => simp [walk, insertParts]
    | cons part path => simp [walk, insertParts, TimezoneNode.children]
  | cons first parts ih =>
    cases path with
    | nil => simp [walk]
    | cons part path =>
      have horder : InKeyOrder node.children := by
        obtain ⟨order, -⟩ := h
        exact order
      have hget : Assoc.get part (insertParts (first :: parts) node).children =
          if first = part then
            some (insertParts parts ((Assoc.get first node.children).getD empty))
          else Assoc.get part node.children := by
        obtain ⟨terminal, children⟩ := node
        exact get_updateAt horder _ _ _ _
      rw [walk, walk, hget, List.cons_prefix_cons]
      by_cases hfirst : first = part
      · subst hfirst
        rw [if_pos rfl, Option.bind_some, and_iff_right rfl]
        cases hchild : Assoc.get first node.children with
        | none =>
          rw [Option.getD_none, ih ordered_empty, isSome_walk_empty]
          refine ⟨fun h => .inr (h.elim (fun hnil => ?_) id), fun h => .inr (h.resolve_left ?_)⟩
          · rw [hnil]
            exact List.nil_prefix
          · simp
        | some child => exact ih (h.get hchild) path
      · rw [if_neg hfirst]
        simp [Ne.symm hfirst]

/-- The paths of the tree are the prefixes of what was inserted. -/
theorem isSome_walk_foldl {node : TimezoneNode} (h : Ordered node) (paths : List String)
    (path : List String) :
    ((paths.foldl insertTimezone node).walk path).isSome = true ↔
      (node.walk path).isSome = true ∨ ∃ other ∈ paths, path <+: splitTimezonePath other := by
  induction paths generalizing node with
  | nil => simp
  | cons first paths ih =>
    have hfirst : Ordered (node.insertTimezone first) := h.insertParts _
    rw [List.foldl_cons, ih hfirst, insertTimezone, isSome_walk_insertParts h]
    simp only [List.mem_cons, exists_eq_or_imp]
    exact or_assoc

/-- A path that ends at a node without children. -/
def EndsAt (node : TimezoneNode) (path : List String) : Prop :=
  ∃ leaf, node.walk path = some leaf ∧ leaf.children = []

theorem walk_append (path : List String) (part : String) (node : TimezoneNode) :
    node.walk (path ++ [part]) = (node.walk path).bind fun last => Assoc.get part last.children := by
  induction path generalizing node with
  | nil =>
    rw [List.nil_append, walk, walk, Option.bind_some]
    cases Assoc.get part node.children with
    | none => rfl
    | some child => rfl
  | cons first path ih =>
    rw [List.cons_append, walk, walk]
    cases Assoc.get first node.children with
    | none => rfl
    | some child => exact ih child

theorem endsAt_iff {node : TimezoneNode} {path : List String} :
    EndsAt node path ↔ (node.walk path).isSome = true ∧
      ∀ part, (node.walk (path ++ [part])).isSome = false := by
  unfold EndsAt
  cases hwalk : node.walk path with
  | none => simp
  | some last =>
    have hnext : ∀ part, node.walk (path ++ [part]) = Assoc.get part last.children := by
      intro part
      rw [walk_append, hwalk, Option.bind_some]
    simp only [Option.some.injEq, exists_eq_left', Option.isSome_some, true_and, hnext]
    constructor
    · intro hnil part
      rw [hnil]
      rfl
    · intro hnone
      rw [List.eq_nil_iff_forall_not_mem]
      intro entry hentry
      have hmem : entry.1 ∈ last.children.map Prod.fst := List.mem_map_of_mem hentry
      rw [← Assoc.isSome_get_iff, hnone] at hmem
      cases hmem

theorem terminal_foldl (node : TimezoneNode) (paths : List String) :
    (paths.foldl insertTimezone node).terminal = true ↔
      node.terminal = true ∨ ∃ other ∈ paths, splitTimezonePath other = [] := by
  have hinsert : ∀ (root : TimezoneNode) (parts : List String),
      (insertParts parts root).terminal = true ↔ root.terminal = true ∨ parts = [] := by
    rintro ⟨terminal, children⟩ parts
    cases parts <;> simp [insertParts, TimezoneNode.terminal]
  induction paths generalizing node with
  | nil => simp
  | cons first paths ih =>
    rw [List.foldl_cons]
    refine (ih _).trans ?_
    rw [insertTimezone, hinsert]
    simp only [List.mem_cons, exists_eq_or_imp]
    exact or_assoc

end TimezoneNode

/-! ## The menus -/

theorem levels_le_of_atKey {node child : TimezoneNode} {name : String}
    (h : atKey name node.children = .ok child) : child.levels < node.levels :=
  TimezoneNode.levels_lt (mem_of_atKey h)

/-- At a node without children no menu is left. -/
theorem returns_leaf {node : TimezoneNode} (h : node.children = []) {selected zone : String}
    {s s' : Session Cluster} :
    selected = zone ∧ s = s' ↔ ∃ path, node.EndsAt path ∧ zone = joinParts selected path ∧
      s = ⟨s'.model, path.map .item ++ s'.script⟩ := by
  constructor
  · rintro ⟨rfl, rfl⟩
    exact ⟨[], ⟨node, rfl, h⟩, rfl, rfl⟩
  · rintro ⟨path, ⟨leaf, hwalk, -⟩, rfl, rfl⟩
    cases path with
    | nil => exact ⟨rfl, rfl⟩
    | cons name path =>
      rw [TimezoneNode.walk, h] at hwalk
      cases hwalk

/-- The menus below a node end with the paths that end there. -/
theorem returns_selectLocation {n : Nat} {node : TimezoneNode} (h : node.levels ≤ n)
    {selected zone : String} {s s' : Session Cluster} :
    Returns (selectLocation n node selected) s zone s' ↔
      ∃ path, node.EndsAt path ∧ zone = joinParts selected path ∧
        s = ⟨s'.model, path.map .item ++ s'.script⟩ := by
  induction n generalizing node selected s with
  | zero =>
    have hleaf : node.children = [] := by
      rw [List.eq_nil_iff_forall_not_mem]
      intro entry hentry
      have hlt := TimezoneNode.levels_lt hentry
      omega
    rw [selectLocation, returns_pure]
    exact returns_leaf hleaf
  | succ n ih =>
    rw [selectLocation]
    split
    · rename_i hleaf
      rw [returns_pure]
      exact returns_leaf hleaf
    · rename_i hnode
      rw [returns_bind]
      constructor
      · rintro ⟨name, s₁, hmenu, hrest⟩
        obtain ⟨rfl, hname⟩ := returns_listMenu.mp hmenu
        obtain ⟨child, s₂, hlift, hrest⟩ := returns_bind.mp hrest
        obtain ⟨hchild, rfl⟩ := returns_lift.mp hlift
        have hlevels := levels_le_of_atKey hchild
        obtain ⟨path, ⟨leaf, hwalk, hleaf⟩, rfl, rfl⟩ := (ih (by omega)).mp hrest
        refine ⟨name :: path, ⟨leaf, ?_, hleaf⟩, rfl, rfl⟩
        rw [TimezoneNode.walk, atKey_eq_ok.mp hchild]
        exact hwalk
      · rintro ⟨path, ⟨leaf, hwalk, hleaf⟩, rfl, rfl⟩
        cases path with
        | nil =>
          obtain rfl := Option.some.inj hwalk
          exact absurd hleaf hnode
        | cons name path =>
          obtain ⟨child, hchild, hwalk⟩ := Option.bind_eq_some_iff.mp hwalk
          have hkey := atKey_eq_ok.mpr hchild
          have hlevels := levels_le_of_atKey hkey
          refine ⟨name, ⟨s'.model, path.map .item ++ s'.script⟩, returns_listMenu.mpr ⟨rfl, ?_⟩, ?_⟩
          · exact List.mem_map_of_mem (Assoc.mem_of_get hchild)
          · refine returns_bind.mpr ⟨child, _, returns_lift.mpr ⟨hkey, rfl⟩, ?_⟩
            exact (ih (by omega)).mpr ⟨path, ⟨leaf, hwalk, hleaf⟩, rfl, rfl⟩

/-! ## The step -/

theorem mem_multimapInsert {entry other : String × String} {entries : List (String × String)} :
    other ∈ multimapInsert entry entries ↔ other = entry ∨ other ∈ entries := by
  induction entries with
  | nil => simp [multimapInsert]
  | cons first entries ih =>
    unfold multimapInsert
    split
    · exact List.mem_cons
    · rw [List.mem_cons, ih, List.mem_cons]
      exact or_left_comm

/-- Every name is in the multimap, but the empty one. -/
theorem mem_fetchAvailableTimezones {zones : List String} {entry : String × String} :
    entry ∈ Timezone.fetchAvailableTimezones zones ↔
      ∃ zone ∈ zones, zone ≠ "" ∧ entry = Timezone.splitZone zone := by
  have hfold : ∀ (zones : List String) (entries : List (String × String)),
      entry ∈ zones.foldl Timezone.insertTimezone entries ↔
        entry ∈ entries ∨ ∃ zone ∈ zones, zone ≠ "" ∧ entry = Timezone.splitZone zone := by
    intro zones
    induction zones with
    | nil => simp
    | cons first zones ih =>
      intro entries
      rw [List.foldl_cons, ih, Timezone.insertTimezone]
      simp only [List.mem_cons, exists_eq_or_imp]
      split
      · rename_i hempty
        simp [hempty]
      · rename_i hne
        rw [mem_multimapInsert]
        simp only [ne_eq, hne, not_false_eq_true, true_and]
        tauto
  rw [Timezone.fetchAvailableTimezones, hfold]
  simp

theorem timezoneTree_eq (probes : Probes) (area : String) : timezoneTree probes area =
    ((probes.availableTimezones.filter (·.1 = area)).map Prod.snd).foldl
      TimezoneNode.insertTimezone .empty := by
  rw [List.foldl_map]
  rfl

section Step

variable {zones : List String} {probes : Probes} (h : ZoneNames zones)
  (hprobes : probes.availableTimezones = Timezone.fetchAvailableTimezones zones)
include h hprobes

/-- The entries of an area are the names that begin with it. -/
theorem exists_zone_iff {area : String} {P : List String → Prop} :
    (∃ tz ∈ probes.availableTimezones, tz.1 = area ∧ P (splitTimezonePath tz.2)) ↔
      ∃ zone ∈ zones, ∃ parts, zoneParts zone = area :: parts ∧ P parts := by
  rw [hprobes]
  constructor
  · rintro ⟨tz, htz, rfl, hP⟩
    obtain ⟨zone, hzone, -, rfl⟩ := mem_fetchAvailableTimezones.mp htz
    obtain ⟨first, parts, hparts, -⟩ := joinParts_zoneParts zone
    obtain ⟨hfirst, hrest⟩ := splitZone_parts (h.parts zone hzone) hparts
    rw [hrest] at hP
    exact ⟨zone, hzone, parts, by rw [hfirst, hparts], hP⟩
  · rintro ⟨zone, hzone, parts, hparts, hP⟩
    obtain ⟨hfirst, hrest⟩ := splitZone_parts (h.parts zone hzone) hparts
    have hne : zone ≠ "" := by
      rintro rfl
      exact h.parts "" hzone (by decide)
    refine ⟨_, mem_fetchAvailableTimezones.mpr ⟨zone, hzone, hne, rfl⟩, hfirst, ?_⟩
    rwa [hrest]

theorem isSome_walk_timezoneTree {area : String} {path : List String} :
    ((timezoneTree probes area).walk path).isSome = true ↔
      path = [] ∨ ∃ zone ∈ zones, area :: path <+: zoneParts zone := by
  rw [timezoneTree_eq, TimezoneNode.isSome_walk_foldl TimezoneNode.ordered_empty,
    TimezoneNode.isSome_walk_empty]
  refine or_congr_right ?_
  have hzones := @exists_zone_iff zones probes h hprobes area (path <+: ·)
  constructor
  · rintro ⟨other, hother, hinit⟩
    obtain ⟨tz, htz, rfl⟩ := List.mem_map.mp hother
    obtain ⟨htz, harea⟩ := List.mem_filter.mp htz
    obtain ⟨zone, hzone, parts, hparts, hinit⟩ :=
      hzones.mp ⟨tz, htz, of_decide_eq_true harea, hinit⟩
    refine ⟨zone, hzone, ?_⟩
    rw [hparts, List.cons_prefix_cons]
    exact ⟨rfl, hinit⟩
  · rintro ⟨zone, hzone, hinit⟩
    obtain ⟨first, parts, hparts, -⟩ := joinParts_zoneParts zone
    rw [hparts, List.cons_prefix_cons] at hinit
    obtain ⟨rfl, hinit⟩ := hinit
    obtain ⟨tz, htz, harea, hinit⟩ := hzones.mpr ⟨zone, hzone, parts, hparts, hinit⟩
    exact ⟨tz.2, List.mem_map.mpr ⟨tz, List.mem_filter.mpr ⟨htz, decide_eq_true harea⟩, rfl⟩, hinit⟩

/-- In an area with zones, the menus end with the parts of a zone. -/
theorem endsAt_timezoneTree {area : String} {path : List String}
    (harea : ∃ zone ∈ zones, [area] <+: zoneParts zone) :
    (timezoneTree probes area).EndsAt path ↔ ∃ zone ∈ zones, zoneParts zone = area :: path := by
  have hwalk : ∀ {path}, _ := fun {path} => @isSome_walk_timezoneTree zones probes h hprobes area path
  rw [TimezoneNode.endsAt_iff, hwalk]
  have hnext : (∀ part, ((timezoneTree probes area).walk (path ++ [part])).isSome = false) ↔
      ∀ zone ∈ zones, ∀ part, ¬ area :: (path ++ [part]) <+: zoneParts zone := by
    constructor
    · intro hnone zone hzone part hinit
      have hfound := hwalk.mpr (.inr ⟨zone, hzone, hinit⟩)
      rw [hnone] at hfound
      cases hfound
    · intro hnone part
      rw [Bool.eq_false_iff]
      intro hfound
      rcases hwalk.mp hfound with hnil | ⟨zone, hzone, hinit⟩
      · simp at hnil
      · exact hnone zone hzone part hinit
  rw [hnext]
  constructor
  · rintro ⟨hpath, hnone⟩
    obtain ⟨zone, hzone, rest, hrest⟩ : ∃ zone ∈ zones, area :: path <+: zoneParts zone := by
      rcases hpath with rfl | hpath
      · exact harea
      · exact hpath
    cases rest with
    | nil => exact ⟨zone, hzone, by rw [← hrest, List.append_nil]⟩
    | cons part rest =>
      refine absurd ⟨rest, ?_⟩ (hnone zone hzone part)
      rw [← hrest]
      simp
  · rintro ⟨zone, hzone, hparts⟩
    refine ⟨.inr ⟨zone, hzone, hparts ▸ List.prefix_refl _⟩, fun other hother part hinit => ?_⟩
    have hsmaller : zoneParts zone <+: zoneParts other := by
      rw [hparts]
      exact (List.prefix_append (area :: path) [part]).trans hinit
    obtain rfl := h.eq_of_parts hzone hother hsmaller
    have hlength := hinit.length_le
    rw [hparts, List.length_cons, List.length_cons, List.length_append, List.length_singleton]
      at hlength
    omega

/-- The tree of an area with zones is not empty. -/
theorem timezoneTree_ne_empty {area : String} (harea : ∃ zone ∈ zones, [area] <+: zoneParts zone) :
    ¬ ((timezoneTree probes area).terminal = false ∧ (timezoneTree probes area).children = []) := by
  rintro ⟨hterminal, hchildren⟩
  obtain ⟨zone, hzone, hinit⟩ := harea
  obtain ⟨first, parts, hparts, -⟩ := joinParts_zoneParts zone
  rw [hparts, List.cons_prefix_cons] at hinit
  obtain ⟨rfl, -⟩ := hinit
  cases parts with
  | nil =>
    -- The area is a zone itself.
    have hzones := @exists_zone_iff zones probes h hprobes area (· = [])
    obtain ⟨tz, htz, rfl, hnil⟩ := hzones.mpr ⟨zone, hzone, [], hparts, rfl⟩
    have hfound : (timezoneTree probes tz.1).terminal = true := by
      rw [timezoneTree_eq, TimezoneNode.terminal_foldl]
      refine .inr ⟨tz.2, List.mem_map.mpr ⟨tz, ?_, rfl⟩, hnil⟩
      exact List.mem_filter.mpr ⟨htz, decide_eq_true rfl⟩
    rw [hterminal] at hfound
    cases hfound
  | cons part parts =>
    have hwalk : ((timezoneTree probes area).walk [part]).isSome = true := by
      refine (isSome_walk_timezoneTree h hprobes).mpr (.inr ⟨zone, hzone, ?_⟩)
      rw [hparts]
      simp
    rw [TimezoneNode.walk, hchildren] at hwalk
    cases hwalk

omit h hprobes in
/-- The model with a zone and more time servers. -/
def Cluster.withTime (model : Cluster) (zone : String) (servers : List String) : Cluster :=
  { model with timezone :=
      { timezone := zone, timeservers := model.timezone.timeservers ++ servers } }

/-- The step takes the parts of a zone, one menu after the other, and sets this zone. -/
theorem returns_presenterTime {s s' : Session Cluster} :
    Returns (presenterTime probes) s () s' ↔ ∃ zone ∈ zones, ∃ servers,
      s.script = (zoneParts zone).map .item ++ .items servers :: s'.script ∧
        s'.model = s.model.withTime zone servers := by
  have harea : ∀ area, area ∈
      ((probes.availableTimezones.map Prod.fst).dedup.insertionSort (· ≤ ·)) ↔
        ∃ zone ∈ zones, [area] <+: zoneParts zone := by
    intro area
    rw [List.mem_insertionSort, List.mem_dedup, List.mem_map]
    have hzones := @exists_zone_iff zones probes h hprobes area fun _ => True
    simp only [and_true] at hzones
    rw [hzones]
    refine exists_congr fun zone => and_congr_right fun _ => ?_
    obtain ⟨first, parts, hparts, -⟩ := joinParts_zoneParts zone
    rw [hparts, List.cons_prefix_cons]
    simp [eq_comm]
  have hnotEmpty := fun area => @timezoneTree_ne_empty zones probes h hprobes area
  unfold presenterTime
  by_cases hempty : probes.availableTimezones = []
  · rw [if_pos hempty]
    refine iff_of_false returns_raise ?_
    rintro ⟨zone, hzone, -⟩
    obtain ⟨first, parts, hparts, -⟩ := joinParts_zoneParts zone
    have hmem := (harea first).mpr ⟨zone, hzone, by rw [hparts]; simp⟩
    rw [hempty] at hmem
    simp at hmem
  · rw [if_neg hempty, returns_bind]
    constructor
    · rintro ⟨area, s₁, hmenu, hlocation⟩
      obtain ⟨rfl, hmem⟩ := returns_listMenu.mp hmenu
      have hzones := (harea area).mp hmem
      dsimp only at hlocation
      rw [if_neg (hnotEmpty area hzones)] at hlocation
      obtain ⟨selected, s₂, hselect, htime⟩ := returns_bind.mp hlocation
      obtain ⟨path, hends, rfl, rfl⟩ := (returns_selectLocation (Nat.le_refl _)).mp hselect
      obtain ⟨zone, hzone, hparts⟩ := (endsAt_timezoneTree h hprobes hzones).mp hends
      obtain ⟨_, s₃, hset, hcollect⟩ := returns_bind.mp htime
      obtain rfl := returns_setModel.mp hset
      obtain ⟨servers, s₄, hservers, hlast⟩ := returns_bind.mp hcollect
      obtain rfl := returns_setModel.mp hlast
      obtain ⟨hmodel, hscript⟩ := Session.mk.inj (returns_collectListMenu.mp hservers)
      refine ⟨zone, hzone, servers, ?_, ?_⟩
      · rw [hparts, hscript]
        rfl
      · rw [← hmodel, joinParts_eq hparts]
        rfl
    · obtain ⟨model, script⟩ := s
      obtain ⟨model', script'⟩ := s'
      rintro ⟨zone, hzone, servers, hscript, hmodel⟩
      dsimp only at hscript hmodel
      subst hscript hmodel
      obtain ⟨area, path, hparts, hjoin⟩ := joinParts_zoneParts zone
      have hzones : ∃ zone ∈ zones, [area] <+: zoneParts zone :=
        ⟨zone, hzone, by rw [hparts]; simp⟩
      have hends := (endsAt_timezoneTree h hprobes hzones).mpr ⟨zone, hzone, hparts⟩
      refine ⟨area, ⟨model, path.map .item ++ .items servers :: script'⟩, ?_, ?_⟩
      · refine returns_listMenu.mpr ⟨?_, (harea area).mpr hzones⟩
        rw [hparts]
        rfl
      · dsimp only
        rw [if_neg (hnotEmpty area hzones)]
        refine returns_bind.mpr ⟨zone, ⟨model, .items servers :: script'⟩, ?_, ?_⟩
        · exact (returns_selectLocation (Nat.le_refl _)).mpr ⟨path, hends, hjoin.symm, rfl⟩
        · refine returns_bind.mpr ⟨(), _, returns_setModel.mpr rfl, ?_⟩
          exact returns_bind.mpr ⟨servers, ⟨_, script'⟩, returns_collectListMenu.mpr rfl,
            returns_setModel.mpr rfl⟩

end Step

/-! ## The zones of the table -/

/-- The third column of a line, between tabs; comments have a hash in front. -/
def ListsZone (line zone : String) : Prop :=
  line.toList.head? ≠ some '#' ∧
    (((splitEach isTab line.toList)[2]?).map String.ofList) = some zone

/-- An area and a rest that are the name, split at a slash unless it has none. -/
def Denotes (entry : String × String) (zone : String) : Prop :=
  entry.1 ++ "/" ++ entry.2 = zone ∨ entry = (zone, "") ∧ '/' ∉ zone.toList

theorem parseZoneLine_eq_some {line zone : String} (h : ListsZone line zone) :
    parseZoneLine line = some zone := by
  obtain ⟨hcomment, hcolumn⟩ := h
  have hne : line ≠ "" := by
    rintro rfl
    simp [splitEach] at hcolumn
  have hstart : startsWith line "#" = false := by
    unfold startsWith
    cases hline : line.toList with
    | nil => rfl
    | cons c cs =>
      rw [hline, List.head?_cons, ne_eq, Option.some_inj] at hcomment
      have hhash : "#".toList = ['#'] := rfl
      simp [hhash, List.isPrefixOf, Ne.symm hcomment]
  unfold parseZoneLine
  rw [if_neg (by simp [hne, hstart])]
  rcases hsplit : splitEach isTab line.toList with _ | ⟨first, _ | ⟨second, _ | ⟨third, others⟩⟩⟩
  all_goals rw [hsplit] at hcolumn
  all_goals simp_all

theorem denotes_splitZone (zone : String) : Denotes (Timezone.splitZone zone) zone := by
  unfold Timezone.splitZone
  split
  · rename_i hslash
    obtain ⟨part, rest, hzone, hpart⟩ := List.eq_append_cons_of_mem hslash
    have htext : zone = String.ofList part ++ "/" ++ String.ofList rest := by
      rw [← String.toList_inj, hzone]
      simp
    have hclean : '/' ∉ (String.ofList part).toList := by rwa [String.toList_ofList]
    rw [htext, beforeFirst_append rfl hclean, afterFirst_append rfl hclean]
    exact .inl rfl
  · rename_i hslash
    exact .inr ⟨rfl, hslash⟩

/-- Every zone of the table is grouped. -/
theorem exists_entry {lines : List String} {line zone : String} (hline : line ∈ lines)
    (hlists : ListsZone line zone) (hne : zone ≠ "") :
    ∃ entry ∈ Timezone.fetchAvailableTimezones (parseZone1970Tab lines), Denotes entry zone := by
  refine ⟨Timezone.splitZone zone, ?_, denotes_splitZone zone⟩
  refine mem_fetchAvailableTimezones.mpr ⟨zone, ?_, hne, rfl⟩
  exact List.mem_filterMap.mpr ⟨line, hline, parseZoneLine_eq_some hlists⟩

/-! ## The zones that can be chosen -/

/-- The menus of the step for a set of zones. -/
structure MenusReach (zones : List String) (probes : Probes) : Prop where
  /-- A larger bound on the menus changes nothing. -/
  ends : ∀ area n, (timezoneTree probes area).levels ≤ n →
    selectLocation n (timezoneTree probes area) area =
      selectLocation (timezoneTree probes area).levels (timezoneTree probes area) area
  sound : ∀ s s', Returns (presenterTime probes) s () s' → s'.model.timezone.timezone ∈ zones
  /-- The choices that set a zone, and that they are the only ones. -/
  reached : ∀ zone ∈ zones, ∃ choices : List String,
    (∀ model servers rest, Returns (presenterTime probes)
      ⟨model, choices.map .item ++ .items servers :: rest⟩ () ⟨model.withTime zone servers, rest⟩) ∧
    ∀ s s', Returns (presenterTime probes) s () s' → s'.model.timezone.timezone = zone →
      ∃ servers, s.script = choices.map .item ++ .items servers :: s'.script

/-- Each zone is set by exactly one sequence of choices, and nothing else is; and no zone of a
table is lost on the way to the menus. -/
theorem timezone_menus {zones : List String} {probes : Probes} (h : ZoneNames zones)
    (hprobes : probes.availableTimezones = Timezone.fetchAvailableTimezones zones) :
    MenusReach zones probes ∧ ∀ lines line zone, line ∈ lines → ListsZone line zone → zone ≠ "" →
      ∃ entry ∈ Timezone.fetchAvailableTimezones (parseZone1970Tab lines), Denotes entry zone := by
  have hreturns := fun s s' => @returns_presenterTime zones probes h hprobes s s'
  refine ⟨⟨fun area n hn => ?_, fun s s' hrun => ?_, fun zone hzone => ?_⟩,
    fun lines line zone => exists_entry⟩
  · induction n, hn using Nat.le_induction with
    | base => rfl
    | succ n hn ih => rw [selectLocation_succ hn, ih]
  · obtain ⟨zone, hzone, servers, -, hmodel⟩ := (hreturns s s').mp hrun
    rw [hmodel]
    exact hzone
  · refine ⟨zoneParts zone, fun model servers rest => ?_, fun s s' hrun hset => ?_⟩
    · exact (hreturns _ _).mpr ⟨zone, hzone, servers, rfl, rfl⟩
    · obtain ⟨other, hother, servers, hscript, hmodel⟩ := (hreturns s s').mp hrun
      rw [hmodel] at hset
      obtain rfl : other = zone := hset
      exact ⟨servers, hscript⟩

/-- A machine with these zones. -/
def zoneProbes (zones : List String) : Probes where
  host := sampleHost
  availableTimezones := Timezone.fetchAvailableTimezones zones
  availableLocales := []
  localeMetadata := []
  isDirectory _ := false
  regularFiles _ := none
  regularFiles_named := Probes.unlisted_named
  regularFiles_found := Probes.unlisted_found sampleHost
  repositoryIds _ _ _ := []
  downloads _ := false
  columns := 80
  displayWidth := List.length

theorem timezone_menus_nested :
    MenusReach ["America/Argentina/Cordoba", "UTC"]
      (zoneProbes ["America/Argentina/Cordoba", "UTC"]) := by
  refine (timezone_menus ⟨?_, ?_⟩ rfl).1
  · decide
  · have hfiles : ∀ zone ∈ ["America/Argentina/Cordoba", "UTC"],
        ∀ other ∈ ["America/Argentina/Cordoba", "UTC"],
          ¬ (zone ++ "/").toList <+: other.toList := by decide
    intro zone hzone rest hmem
    have htext : (zone ++ "/" ++ rest).toList = (zone ++ "/").toList ++ rest.toList :=
      String.toList_append
    refine hfiles zone hzone _ hmem ?_
    rw [htext]
    exact List.prefix_append _ _

end OpenCattus
