import OpenCattus.Foundations.Program

/-!
# The passes of a loop

A loop with a variable repeats its body until there is no next value. `passes` lists the rounds
that go on, and `Walk` says that rounds follow each other.

A variable may stand at a level, from which a round goes one up or one down. `Walk.last` describes
the last pass at a level above which the loop ends: it goes up, and what follows stays above it.
-/

namespace Foundations

namespace Program

variable {σ ε β γ : Type}

/-- A round that goes on, with what it begins and what it leaves. -/
structure Pass (β σ : Type) where
  value : β
  before : σ
  next : β
  after : σ

def passes (body : β → Program σ ε (Option β)) : Nat → β → σ → List (Pass β σ)
  | 0, _, _ => []
  | fuel + 1, b, s =>
    match body b s with
    | (.ok (some next), s') => ⟨b, s, next, s'⟩ :: passes body fuel next s'
    | _ => []

/-- The last of the passes that begin at a level. -/
def lastAt (level : β → Nat) (i : Nat) : List (Pass β σ) → Option (Pass β σ)
  | [] => none
  | v :: vs =>
    match lastAt level i vs with
    | some w => some w
    | none => if level v.value = i then some v else none

/-- Passes one after the other. -/
def Walk (body : β → Program σ ε (Option β)) (x : β × σ) : List (Pass β σ) → β × σ → Prop
  | [], z => x = z
  | v :: vs, z => x = (v.value, v.before) ∧
      Returns (body v.value) v.before (some v.next) v.after ∧ Walk body (v.next, v.after) vs z

variable {body : β → Program σ ε (Option β)} {level : β → Nat} {i : Nat} {x y z : β × σ}
  {v : Pass β σ} {vs ws : List (Pass β σ)}

theorem walk_passes {exhausted : ε} {fuel : Nat} {b c : β} {s s' : σ}
    (h : Returns (iterate exhausted body fuel b) s c s') :
    ∃ s₁, Walk body (b, s) (passes body fuel b s) (c, s₁) ∧ Returns (body c) s₁ none s' := by
  induction fuel generalizing b s with
  | zero => cases h
  | succ fuel ih =>
    obtain ⟨r, s₁, hround, h⟩ := returns_bind.mp h
    have hrun : body b s = (.ok r, s₁) := hround
    cases r with
    | none =>
      obtain ⟨rfl, rfl⟩ := returns_pure.mp h
      refine ⟨s, ?_, hround⟩
      simp only [passes, hrun]
      rfl
    | some next =>
      obtain ⟨s₂, hwalk, hlast⟩ := ih h
      refine ⟨s₂, ?_, hlast⟩
      simp only [passes, hrun]
      exact ⟨rfl, hround, hwalk⟩

theorem exists_walk_passes {fuel : Nat} {b : β} {s : σ} :
    ∃ z, Walk body (b, s) (passes body fuel b s) z := by
  induction fuel generalizing b s with
  | zero => exact ⟨_, rfl⟩
  | succ fuel ih =>
    rcases hrun : body b s with ⟨_ | _ | next, s₁⟩
    · exact ⟨_, by simp only [passes, hrun]; rfl⟩
    · exact ⟨_, by simp only [passes, hrun]; rfl⟩
    · obtain ⟨z, hwalk⟩ := ih (b := next) (s := s₁)
      refine ⟨z, ?_⟩
      simp only [passes, hrun]
      exact ⟨rfl, hrun, hwalk⟩

namespace Walk

theorem append (h : Walk body x (vs ++ ws) z) : ∃ y, Walk body x vs y ∧ Walk body y ws z := by
  induction vs generalizing x with
  | nil => exact ⟨x, rfl, h⟩
  | cons v vs ih =>
    obtain ⟨hx, hround, hrest⟩ := h
    obtain ⟨y, hvs, hws⟩ := ih hrest
    exact ⟨y, ⟨hx, hround, hvs⟩, hws⟩

theorem returns (h : Walk body x vs z) (hv : v ∈ vs) :
    Returns (body v.value) v.before (some v.next) v.after := by
  induction vs generalizing x with
  | nil => cases hv
  | cons u vs ih =>
    obtain ⟨-, hround, hrest⟩ := h
    rcases List.mem_cons.mp hv with rfl | hv
    · exact hround
    · exact ih hrest hv

/-- What every pass leaves alone. -/
theorem keeps {f : σ → γ} (h : Walk body x vs z) (hf : ∀ v ∈ vs, f v.after = f v.before) :
    f z.2 = f x.2 := by
  induction vs generalizing x with
  | nil => rw [show x = z from h]
  | cons v vs ih =>
    obtain ⟨rfl, -, hrest⟩ := h
    obtain ⟨hfirst, hothers⟩ := List.forall_mem_cons.mp hf
    exact (ih hrest hothers).trans hfirst

/-- Passes that go up begin below the end. -/
theorem below_of_up (level : β → Nat) (h : Walk body x vs z)
    (hup : ∀ v ∈ vs, level v.next = level v.value + 1) :
    level x.1 ≤ level z.1 ∧ ∀ v ∈ vs, level v.value < level z.1 := by
  induction vs generalizing x with
  | nil => exact ⟨Nat.le_of_eq (congrArg (level ·.1) h), by simp⟩
  | cons v vs ih =>
    obtain ⟨rfl, -, hrest⟩ := h
    obtain ⟨hfirst, hothers⟩ := List.forall_mem_cons.mp hup
    obtain ⟨hle, hall⟩ := ih hrest hothers
    dsimp only at hle ⊢
    have hlt : level v.value < level z.1 := by omega
    exact ⟨Nat.le_of_lt hlt, List.forall_mem_cons.mpr ⟨hlt, hall⟩⟩

/-- No way leads from below a level above it that does not stop there. -/
theorem stays_below (h : Walk body x vs z) (hup : ∀ v ∈ vs, level v.next ≤ level v.value + 1)
    (hnone : ∀ v ∈ vs, level v.value ≠ i) (hx : level x.1 < i) (hz : level z.1 ≠ i) :
    level z.1 < i := by
  induction vs generalizing x with
  | nil =>
    rw [← show x = z from h]
    exact hx
  | cons v vs ih =>
    obtain ⟨rfl, -, hrest⟩ := h
    obtain ⟨hstep, hup⟩ := List.forall_mem_cons.mp hup
    obtain ⟨-, hnone⟩ := List.forall_mem_cons.mp hnone
    have hne : level v.next ≠ i := by
      cases vs with
      | nil => rwa [← show (v.next, v.after) = z from hrest] at hz
      | cons u vs =>
        have hnext := congrArg Prod.fst hrest.1
        dsimp only at hnext
        rw [hnext]
        exact (List.forall_mem_cons.mp hnone).1
    refine ih hrest hup hnone ?_
    dsimp only at hx ⊢
    omega

/-- No way leads from above a level below it that does not stop there. -/
theorem stays_above (h : Walk body x vs z) (hdown : ∀ v ∈ vs, level v.value ≤ level v.next + 1)
    (hnone : ∀ v ∈ vs, level v.value ≠ i) (hx : i < level x.1) : ∀ v ∈ vs, i < level v.value := by
  induction vs generalizing x with
  | nil => simp
  | cons v vs ih =>
    obtain ⟨rfl, -, hrest⟩ := h
    obtain ⟨hstep, hdown⟩ := List.forall_mem_cons.mp hdown
    obtain ⟨-, hnone⟩ := List.forall_mem_cons.mp hnone
    refine List.forall_mem_cons.mpr ⟨hx, ?_⟩
    cases vs with
    | nil => simp
    | cons u vs =>
      have hnext := congrArg Prod.fst hrest.1
      have hne := (List.forall_mem_cons.mp hnone).1
      refine ih hrest hdown hnone ?_
      dsimp only at hx hnext ⊢
      rw [hnext] at hstep ⊢
      omega

end Walk

theorem lastAt_eq_none : lastAt level i vs = none ↔ ∀ v ∈ vs, level v.value ≠ i := by
  induction vs with
  | nil => simp [lastAt]
  | cons v vs ih =>
    rw [lastAt, List.forall_mem_cons]
    cases hlast : lastAt level i vs with
    | some w =>
      rw [hlast] at ih
      have hnot : ¬ ∀ v ∈ vs, level v.value ≠ i := fun h => by simpa using ih.mpr h
      simp [hnot]
    | none =>
      have hothers := ih.mp hlast
      simpa using fun _ => hothers

theorem lastAt_eq_some (h : lastAt level i vs = some v) : ∃ earlier later,
    vs = earlier ++ v :: later ∧ level v.value = i ∧ ∀ w ∈ later, level w.value ≠ i := by
  induction vs with
  | nil => cases h
  | cons u vs ih =>
    rw [lastAt] at h
    cases hlast : lastAt level i vs with
    | some w =>
      rw [hlast] at h ih
      obtain rfl := Option.some.inj h
      obtain ⟨earlier, later, rfl, hlevel, hlater⟩ := ih rfl
      exact ⟨u :: earlier, later, rfl, hlevel, hlater⟩
    | none =>
      simp only [hlast] at h
      split at h
      · rename_i hlevel
        obtain rfl := Option.some.inj h
        exact ⟨[], vs, rfl, hlevel, lastAt_eq_none.mp hlast⟩
      · cases h

/-- The last pass at a level, between the passes before and behind it. -/
structure LastPass (body : β → Program σ ε (Option β)) (level : β → Nat) (i : Nat) (x : β × σ)
    (vs : List (Pass β σ)) (v : Pass β σ) (z : β × σ) : Prop where
  at_level : level v.value = i
  goes_up : level v.next = i + 1
  round : Returns (body v.value) v.before (some v.next) v.after
  earlier : ∃ ws, ws ⊆ vs ∧ Walk body x ws (v.value, v.before)
  later : ∃ ws, ws ⊆ vs ∧ Walk body (v.next, v.after) ws z ∧ ∀ w ∈ ws, i < level w.value

theorem Walk.last (h : Walk body x vs z) (hz : i < level z.1)
    (hmoves : ∀ v ∈ vs, level v.next = level v.value + 1 ∨ level v.next + 1 = level v.value)
    (hlast : lastAt level i vs = some v) : LastPass body level i x vs v z := by
  obtain ⟨earlier, later, rfl, hlevel, hlater⟩ := lastAt_eq_some hlast
  obtain ⟨y, hearlier, hrest⟩ := h.append
  obtain ⟨rfl, hround, hwalk⟩ := hrest
  have hbehind : later ⊆ earlier ++ v :: later := fun w hw =>
    List.mem_append_right _ (List.mem_cons_of_mem _ hw)
  have hmove := hmoves v (List.mem_append_right _ List.mem_cons_self)
  have hup : level v.next = i + 1 := by
    rcases hmove with hup | hdown
    · rw [hup, hlevel]
    · have hbelow : level z.1 < i := by
        refine hwalk.stays_below ?_ hlater ?_ (Nat.ne_of_gt hz)
        · intro w hw
          have := hmoves w (hbehind hw)
          omega
        · dsimp only
          omega
      omega
  have habove : ∀ w ∈ later, i < level w.value := by
    refine hwalk.stays_above ?_ hlater ?_
    · intro w hw
      have := hmoves w (hbehind hw)
      omega
    · dsimp only
      omega
  exact ⟨hlevel, hup, hround, ⟨earlier, List.subset_append_left _ _, hearlier⟩, later, hbehind,
    hwalk, habove⟩

end Program

end Foundations
