import OpenCattus.Foundations.Text
import Mathlib.Data.List.Nodup

/-!
# Key files

The contents of a key file: named groups in the order of their creation, and a group maps keys
to strings. Setting a key creates its group when it is missing and otherwise overwrites
the value in place.

`lookup_setAll`, `hasGroup_setAll` and `getGroups_setAll` describe what a block of
assignments to one group changes, and that nothing else does.
-/

namespace Foundations

open Foundations.Text

/-! ## Association lists -/

namespace Assoc

variable {α β : Type} [DecidableEq α]

def get (k : α) : List (α × β) → Option β
  | [] => none
  | e :: es => if e.1 = k then some e.2 else get k es

/-- Overwrite the value of a key in place, or append the key. -/
def set (k : α) (v : β) : List (α × β) → List (α × β)
  | [] => [(k, v)]
  | e :: es => if e.1 = k then (k, v) :: es else e :: set k v es

theorem get_set (k k' : α) (v : β) (es : List (α × β)) :
    get k' (set k v es) = if k = k' then some v else get k' es := by
  induction es with
  | nil => simp [set, get]
  | cons e es ih =>
    unfold set
    by_cases he : e.1 = k
    · by_cases hk : k = k' <;> simp [get, he, hk]
    · by_cases hk : e.1 = k'
      · have hne : ¬ k = k' := fun h => he (hk.trans h.symm)
        rw [if_neg he, if_neg hne, get, get, if_pos hk, if_pos hk]
      · simp [get, he, hk, ih]

theorem isSome_get_iff {k : α} {es : List (α × β)} :
    (get k es).isSome = true ↔ k ∈ es.map Prod.fst := by
  induction es with
  | nil => simp [get]
  | cons e es ih =>
    rw [List.map_cons, List.mem_cons, ← ih, get, eq_comm (a := k)]
    by_cases he : e.1 = k <;> simp [he]

theorem mem_of_get {k : α} {v : β} {es : List (α × β)} (h : get k es = some v) : (k, v) ∈ es := by
  induction es with
  | nil => cases h
  | cons e es ih =>
    unfold get at h
    split at h
    · rename_i hkey
      obtain rfl := hkey
      obtain rfl := Option.some.inj h
      exact List.mem_cons_self
    · exact List.mem_cons_of_mem _ (ih h)

theorem keys_set (k : α) (v : β) (es : List (α × β)) :
    (set k v es).map Prod.fst =
      if (get k es).isSome then es.map Prod.fst else es.map Prod.fst ++ [k] := by
  induction es with
  | nil => simp [set, get]
  | cons e es ih =>
    by_cases he : e.1 = k
    · simp [set, get, he]
    · simp only [set, get, he, if_false, List.map_cons, ih]
      split <;> simp

theorem get_map {γ : Type} (k : α) (key : γ → α) (value : γ → β) (xs : List γ) :
    get k (xs.map fun x => (key x, value x)) = (xs.find? fun x => key x = k).map value := by
  induction xs with
  | nil => rfl
  | cons x xs ih => by_cases hx : key x = k <;> simp [get, hx, ih]

/-- Keep the value of a key that is there, or append the key. -/
def emplace (k : α) (v : β) (es : List (α × β)) : List (α × β) :=
  if (get k es).isSome then es else set k v es

theorem get_emplace (k k' : α) (v : β) (es : List (α × β)) :
    get k' (emplace k v es) = (get k' es).or (if k = k' then some v else none) := by
  unfold emplace
  by_cases hk : (get k es).isSome = true
  · rw [if_pos hk]
    by_cases hkk : k = k'
    · subst hkk
      obtain ⟨u, hu⟩ := Option.isSome_iff_exists.mp hk
      rw [hu, Option.some_or]
    · rw [if_neg hkk, Option.or_none]
  · rw [if_neg hk, get_set]
    by_cases hkk : k = k'
    · subst hkk
      have hnone : get k es = none := by simpa using hk
      simp [hnone]
    · simp [hkk]

theorem nodup_keys_set {k : α} {v : β} {es : List (α × β)} (h : (es.map Prod.fst).Nodup) :
    ((set k v es).map Prod.fst).Nodup := by
  rw [keys_set]
  split
  · exact h
  · rename_i hk
    rw [isSome_get_iff] at hk
    refine List.nodup_append.mpr ⟨h, by simp, ?_⟩
    rintro a ha b hb rfl
    exact hk (List.mem_singleton.mp hb ▸ ha)

end Assoc

/-! ## Contents of a key file -/

/-- Groups in creation order. The names of the groups are distinct. -/
structure KeyData where
  groups : List (String × List (String × String))
  nodup : (groups.map Prod.fst).Nodup
  deriving DecidableEq

namespace KeyData

def empty : KeyData := ⟨[], by simp⟩

/-- The names of the groups, in creation order. -/
def getGroups (kf : KeyData) : List String := kf.groups.map Prod.fst

def hasGroup (kf : KeyData) (group : String) : Bool := (Assoc.get group kf.groups).isSome

/-- The value of a key; `none` for a key, or a group, that was never set. -/
def lookup (kf : KeyData) (group key : String) : Option String :=
  (Assoc.get group kf.groups).bind (Assoc.get key)

def setString (kf : KeyData) (group key value : String) : KeyData where
  groups := Assoc.set group (Assoc.set key value ((Assoc.get group kf.groups).getD [])) kf.groups
  nodup := Assoc.nodup_keys_set kf.nodup

/-- The names of the groups that begin with `pre`, in creation order. -/
def prefixed (kf : KeyData) (pre : String) : List String :=
  kf.getGroups.filter (startsWith · pre)

theorem lookup_setString (kf : KeyData) (g k v g' k' : String) :
    (kf.setString g k v).lookup g' k' = if g = g' ∧ k = k' then some v else kf.lookup g' k' := by
  unfold lookup setString
  rw [Assoc.get_set]
  by_cases hg : g = g'
  · subst hg
    simp only [if_true, Option.bind_some, Assoc.get_set, true_and]
    split
    · rfl
    · cases Assoc.get g kf.groups <;> simp [Assoc.get]
  · simp [hg]

theorem hasGroup_setString (kf : KeyData) (g k v g' : String) :
    (kf.setString g k v).hasGroup g' = (decide (g = g') || kf.hasGroup g') := by
  unfold hasGroup setString
  rw [Assoc.get_set]
  split <;> simp [*]

theorem getGroups_setString (kf : KeyData) (g k v : String) :
    (kf.setString g k v).getGroups =
      if kf.hasGroup g then kf.getGroups else kf.getGroups ++ [g] := by
  unfold getGroups hasGroup setString
  exact Assoc.keys_set ..

theorem hasGroup_iff_mem {kf : KeyData} {g : String} :
    kf.hasGroup g = true ↔ g ∈ kf.getGroups := Assoc.isSome_get_iff

theorem lookup_eq_none {kf : KeyData} {g : String} (h : kf.hasGroup g = false) (k : String) :
    kf.lookup g k = none := by
  unfold hasGroup at h
  unfold lookup
  cases hg : Assoc.get g kf.groups with
  | none => rfl
  | some es => simp [hg] at h

@[simp] theorem lookup_empty (g k : String) : empty.lookup g k = none := rfl

@[simp] theorem hasGroup_empty (g : String) : empty.hasGroup g = false := rfl

@[simp] theorem prefixed_empty (pre : String) : empty.prefixed pre = [] := rfl

/-! ## Blocks of assignments to one group -/

/-- Set a key unless there is nothing to set. -/
def setOpt (kf : KeyData) (group key : String) : Option String → KeyData
  | none => kf
  | some value => kf.setString group key value

/-- Set the keys of one group, in the order given. -/
def setAll (kf : KeyData) (group : String) : List (String × Option String) → KeyData
  | [] => kf
  | (key, value) :: rest => (kf.setOpt group key value).setAll group rest

/-- The value that a block of assignments leaves under a key. -/
def assigned : List (String × Option String) → String → Option String
  | [], _ => none
  | (key, value) :: rest, k => (assigned rest k).or (if key = k then value else none)

/-- Some key is set. -/
def assigns (entries : List (String × Option String)) : Bool := entries.any (·.2.isSome)

theorem lookup_setAll (kf : KeyData) (g : String) (entries : List (String × Option String))
    (g' k : String) :
    (kf.setAll g entries).lookup g' k =
      if g = g' then (assigned entries k).or (kf.lookup g' k) else kf.lookup g' k := by
  induction entries generalizing kf with
  | nil => simp [setAll, assigned]
  | cons e rest ih =>
    obtain ⟨key, value⟩ := e
    rw [setAll, ih]
    by_cases hg : g = g'
    · subst hg
      cases value with
      | none => simp [setOpt, assigned]
      | some v => by_cases hk : key = k <;> simp [setOpt, assigned, lookup_setString, hk]
    · cases value <;> simp [setOpt, lookup_setString, hg]

theorem hasGroup_setAll (kf : KeyData) (g : String) (entries : List (String × Option String))
    (g' : String) :
    (kf.setAll g entries).hasGroup g' =
      (decide (g = g') && assigns entries || kf.hasGroup g') := by
  induction entries generalizing kf with
  | nil => simp [setAll, assigns]
  | cons e rest ih =>
    obtain ⟨key, value⟩ := e
    rw [setAll, ih]
    cases value with
    | none => simp [setOpt, assigns]
    | some v => by_cases hg : g = g' <;> simp [setOpt, assigns, hasGroup_setString, hg]

theorem getGroups_setAll (kf : KeyData) (g : String) (entries : List (String × Option String)) :
    (kf.setAll g entries).getGroups =
      if assigns entries && !kf.hasGroup g then kf.getGroups ++ [g] else kf.getGroups := by
  induction entries generalizing kf with
  | nil => simp [setAll, assigns]
  | cons e rest ih =>
    obtain ⟨key, value⟩ := e
    rw [setAll, ih]
    cases value with
    | none => rfl
    | some v =>
      by_cases hg : kf.hasGroup g <;>
        simp [setOpt, assigns, hasGroup_setString, getGroups_setString, hg]

/-! ## Writing a whole file -/

/-- A group name with the block of assignments to it. -/
abbrev Block : Type := String × List (String × Option String)

def setBlocks (kd : KeyData) : List Block → KeyData
  | [] => kd
  | b :: bs => (kd.setAll b.1 b.2).setBlocks bs

/-- The group `g` holds exactly what the block assigns. -/
structure Carries (kd : KeyData) (g : String) (entries : List (String × Option String)) : Prop where
  lookup_eq : ∀ k, kd.lookup g k = assigned entries k
  hasGroup_eq : kd.hasGroup g = assigns entries

theorem setBlocks_append (kd : KeyData) (bs cs : List Block) :
    kd.setBlocks (bs ++ cs) = (kd.setBlocks bs).setBlocks cs := by
  induction bs generalizing kd with
  | nil => rfl
  | cons b bs ih => exact ih _

theorem lookup_setBlocks_of_not_mem {kd : KeyData} {bs : List Block} {g : String}
    (h : g ∉ bs.map Prod.fst) (k : String) : (kd.setBlocks bs).lookup g k = kd.lookup g k := by
  induction bs generalizing kd with
  | nil => rfl
  | cons b bs ih =>
    simp only [List.map_cons, List.mem_cons, not_or] at h
    rw [setBlocks, ih h.2, lookup_setAll, if_neg (Ne.symm h.1)]

theorem hasGroup_setBlocks_of_not_mem {kd : KeyData} {bs : List Block} {g : String}
    (h : g ∉ bs.map Prod.fst) : (kd.setBlocks bs).hasGroup g = kd.hasGroup g := by
  induction bs generalizing kd with
  | nil => rfl
  | cons b bs ih =>
    simp only [List.map_cons, List.mem_cons, not_or] at h
    rw [setBlocks, ih h.2, hasGroup_setAll]
    simp [Ne.symm h.1]

/-- Of blocks for distinct groups, a group sees its own and keeps what this one leaves out. -/
theorem lookup_setBlocks_of_mem {kd : KeyData} {bs : List Block} (hnodup : (bs.map Prod.fst).Nodup)
    {b : Block} (hb : b ∈ bs) (k : String) :
    (kd.setBlocks bs).lookup b.1 k = (assigned b.2 k).or (kd.lookup b.1 k) := by
  induction bs generalizing kd with
  | nil => cases hb
  | cons c bs ih =>
    obtain ⟨hc, hnodup⟩ := List.nodup_cons.mp hnodup
    rcases List.mem_cons.mp hb with rfl | hb
    · rw [setBlocks, lookup_setBlocks_of_not_mem hc, lookup_setAll, if_pos rfl]
    · have hne : c.1 ≠ b.1 := fun h => hc (h ▸ List.mem_map_of_mem hb)
      rw [setBlocks, ih hnodup hb, lookup_setAll, if_neg hne]

theorem hasGroup_setBlocks {kd : KeyData} {bs : List Block} {g : String} :
    (kd.setBlocks bs).hasGroup g = true ↔
      (∃ b ∈ bs, b.1 = g ∧ assigns b.2 = true) ∨ kd.hasGroup g = true := by
  induction bs generalizing kd with
  | nil => simp [setBlocks]
  | cons b bs ih =>
    rw [setBlocks, ih, hasGroup_setAll]
    simp only [List.mem_cons, Bool.or_eq_true, Bool.and_eq_true, decide_eq_true_eq]
    constructor
    · rintro (⟨c, hc, h⟩ | h | h)
      · exact .inl ⟨c, .inr hc, h⟩
      · exact .inl ⟨b, .inl rfl, h⟩
      · exact .inr h
    · rintro (⟨c, rfl | hc, h⟩ | h)
      · exact .inr (.inl h)
      · exact .inl ⟨c, hc, h⟩
      · exact .inr (.inr h)

/-- Blocks for distinct groups, written into a file without these groups, are carried. -/
theorem carries_setBlocks {kd : KeyData} {bs : List Block} (hnodup : (bs.map Prod.fst).Nodup)
    (hnew : ∀ b ∈ bs, kd.hasGroup b.1 = false) {b : Block} (hb : b ∈ bs) :
    (kd.setBlocks bs).Carries b.1 b.2 := by
  induction bs generalizing kd with
  | nil => cases hb
  | cons c bs ih =>
    obtain ⟨hc, hnodup⟩ := List.nodup_cons.mp hnodup
    rcases List.mem_cons.mp hb with rfl | hb
    · have hmissing := hnew b (List.mem_cons_self ..)
      constructor
      · intro k
        rw [setBlocks, lookup_setBlocks_of_not_mem hc, lookup_setAll, if_pos rfl,
          lookup_eq_none hmissing, Option.or_none]
      · rw [setBlocks, hasGroup_setBlocks_of_not_mem hc, hasGroup_setAll, hmissing]
        simp
    · apply ih hnodup _ hb
      intro d hd
      have hne : c.1 ≠ d.1 := fun h => hc (h ▸ List.mem_map_of_mem hd)
      rw [hasGroup_setAll, hnew d (List.mem_cons_of_mem _ hd)]
      simp [hne]

/-- A group that no block names is absent from a file written from scratch. -/
theorem carries_setBlocks_empty_of_not_mem {bs : List Block} {g : String}
    (h : g ∉ bs.map Prod.fst) : (empty.setBlocks bs).Carries g [] :=
  ⟨fun k => by rw [lookup_setBlocks_of_not_mem h]; rfl,
    by rw [hasGroup_setBlocks_of_not_mem h]; rfl⟩

/-- New groups are appended in the order of the blocks. -/
theorem getGroups_setBlocks (kd : KeyData) {bs : List Block}
    (hnodup : (bs.map Prod.fst).Nodup) :
    (kd.setBlocks bs).getGroups =
      kd.getGroups ++ (bs.filter fun b => assigns b.2 && !kd.hasGroup b.1).map Prod.fst := by
  induction bs generalizing kd with
  | nil => simp [setBlocks]
  | cons c bs ih =>
    obtain ⟨hc, hnodup⟩ := List.nodup_cons.mp hnodup
    have hother : bs.filter (fun b => assigns b.2 && !(kd.setAll c.1 c.2).hasGroup b.1) =
        bs.filter fun b => assigns b.2 && !kd.hasGroup b.1 := by
      apply List.filter_congr
      intro d hd
      have hne : c.1 ≠ d.1 := fun h => hc (h ▸ List.mem_map_of_mem hd)
      simp [hasGroup_setAll, hne]
    rw [setBlocks, ih _ hnodup, getGroups_setAll, hother, List.filter_cons]
    split <;> simp

/-! ## Writing over a file -/

/-- The group `g` of `new` is that of `old` with the block written over it. -/
structure Overlays (new old : KeyData) (g : String) (entries : List (String × Option String)) :
    Prop where
  lookup_eq : ∀ k, new.lookup g k = (assigned entries k).or (old.lookup g k)
  hasGroup_eq : new.hasGroup g = (assigns entries || old.hasGroup g)

theorem overlays_setBlocks (kd : KeyData) {bs : List Block} (hnodup : (bs.map Prod.fst).Nodup)
    {b : Block} (hb : b ∈ bs) : (kd.setBlocks bs).Overlays kd b.1 b.2 := by
  constructor
  · exact lookup_setBlocks_of_mem hnodup hb
  · rw [Bool.eq_iff_iff, hasGroup_setBlocks, Bool.or_eq_true]
    refine or_congr_left ⟨?_, fun h => ⟨b, hb, rfl, h⟩⟩
    rintro ⟨c, hc, hname, hassigns⟩
    obtain rfl := List.inj_on_of_nodup_map hnodup hc hb hname
    exact hassigns

end KeyData

end Foundations
