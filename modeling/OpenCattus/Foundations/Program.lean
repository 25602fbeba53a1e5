import Mathlib.Logic.Relation
import Mathlib.Tactic.Common

/-!
# Programs with state and exceptions

A program over a state `σ` that may raise an exception `ε`. The state survives the
exception, so what a caller observes after a failure is part of the semantics.

`Returns` and `Raises` describe one execution. Every construct has an equivalence that
takes a successful execution apart (`returns_bind`, `returns_update`, ...); a whole
`do` block is then inverted, or rebuilt, by rewriting with them. `Preserves` is the
invariant rule: a predicate that every primitive keeps is kept by the program, whether
it returns or raises. `Ensures` is the rule for a program that passes through several
conditions; `during` labels the exceptions of a part, so that the condition after a failure
can depend on where it was.
-/

namespace Foundations

/-! ## Success of a computation in `Except` -/

section Except

variable {ε α β : Type}

theorem except_bind_ok {x : Except ε α} {f : α → Except ε β} {b : β} :
    (x >>= f) = .ok b ↔ ∃ a, x = .ok a ∧ f a = .ok b := by
  cases x with
  | error e => simp [bind, Except.bind]
  | ok a => simp [bind, Except.bind]

/-- A computation whose result is only transformed. -/
theorem except_bind_ok_pure {x : Except ε α} {f : α → β} {b : β} :
    (x >>= fun a => .ok (f a)) = .ok b ↔ ∃ a, x = .ok a ∧ b = f a := by
  rw [except_bind_ok]
  exact exists_congr fun a => and_congr_right fun _ =>
    ⟨fun h => (Except.ok.inj h).symm, fun h => h ▸ rfl⟩

/-- A traversal succeeds when every element does. -/
theorem except_mapM_ok {f : α → Except ε β} {as : List α} {bs : List β} :
    as.mapM f = .ok bs ↔ List.Forall₂ (fun a b => f a = .ok b) as bs := by
  induction as generalizing bs with
  | nil =>
    constructor
    · intro h
      obtain rfl := Except.ok.inj h
      exact .nil
    · rintro ⟨⟩
      rfl
  | cons a as ih =>
    rw [List.mapM_cons, except_bind_ok]
    constructor
    · rintro ⟨b, hb, h⟩
      obtain ⟨bs', hbs', h⟩ := except_bind_ok.mp h
      obtain rfl := Except.ok.inj h
      exact .cons hb (ih.mp hbs')
    · rintro (_ | ⟨hb, hbs⟩)
      exact ⟨_, hb, except_bind_ok.mpr ⟨_, ih.mpr hbs, rfl⟩⟩

@[simp] theorem except_map_ok {x : Except ε α} {f : α → β} {b : β} :
    x.map f = .ok b ↔ ∃ a, x = .ok a ∧ f a = b := by
  cases x <;> simp [Except.map]

@[simp] theorem except_ok_bind (a : α) (f : α → Except ε β) :
    (Except.ok a >>= f) = f a := rfl

@[simp] theorem except_error_bind (e : ε) (f : α → Except ε β) :
    ((Except.error e : Except ε α) >>= f) = .error e := rfl

@[simp] theorem except_pure (a : α) : (pure a : Except ε α) = .ok a := rfl

@[simp] theorem except_throw (e : ε) : (throw e : Except ε α) = .error e := rfl

end Except

/-! ## Programs -/

/-- A stateful program that may raise; the state is returned in both cases. -/
def Program (σ ε α : Type) : Type := σ → Except ε α × σ

namespace Program

variable {σ ε α β : Type}

instance : Monad (Program σ ε) where
  pure a := fun s => (.ok a, s)
  bind x f := fun s =>
    match x s with
    | (.ok a, s') => f a s'
    | (.error e, s') => (.error e, s')

/-- Raise an exception. -/
def raise (e : ε) : Program σ ε α := fun s => (.error e, s)

/-- A computation that does not touch the state. -/
def ofExcept (x : Except ε α) : Program σ ε α := fun s => (x, s)

/-- The current state. -/
def read : Program σ ε σ := fun s => (.ok s, s)

/-- Replace the state. -/
def update (f : σ → σ) : Program σ ε Unit := fun s => (.ok (), f s)

/-- Replace the state, or raise and leave it. -/
def revise (f : σ → Except ε σ) : Program σ ε Unit := fun s =>
  match f s with
  | .ok s' => (.ok (), s')
  | .error e => (.error e, s)

/-- Run `x` and label its exceptions. -/
def during {κ : Type} (k : κ) (x : Program σ ε α) : Program σ (κ × ε) α := fun s =>
  match x s with
  | (.ok a, s') => (.ok a, s')
  | (.error e, s') => (.error (k, e), s')

/-- Run `x`; an exception for which `handler` has an answer is handled, in the state
that the exception left. -/
def rescue (x : Program σ ε α) (handler : ε → Option (Program σ ε α)) : Program σ ε α := fun s =>
  match x s with
  | (.ok a, s') => (.ok a, s')
  | (.error e, s') =>
    match handler e with
    | some y => y s'
    | none => (.error e, s')

/-- Repeat `body` until it yields a value, at most `fuel` times; `exhausted` is raised
when the rounds are used up. -/
def untilSome (exhausted : ε) (body : Program σ ε (Option α)) : Nat → Program σ ε α
  | 0 => raise exhausted
  | fuel + 1 => do
    match ← body with
    | some a => pure a
    | none => untilSome exhausted body fuel

/-- Repeat `body` with its variable until it yields no next value, at most `fuel` times. -/
def iterate (exhausted : ε) (body : β → Program σ ε (Option β)) : Nat → β → Program σ ε β
  | 0, _ => raise exhausted
  | fuel + 1, b => do
    match ← body b with
    | some next => iterate exhausted body fuel next
    | none => pure b

/-- Run `x` and give its result another form. -/
def mapResult {ε' β : Type} (f : Except ε α → Except ε' β) (x : Program σ ε α) :
    Program σ ε' β :=
  fun s => (f (x s).1, (x s).2)

/-- Run `body` for every element, in order. -/
def each (body : α → Program σ ε Unit) : List α → Program σ ε Unit
  | [] => pure ()
  | a :: as => do
    body a
    each body as

/-- `x`, started in `s`, returns `a` and leaves `s'`. -/
def Returns (x : Program σ ε α) (s : σ) (a : α) (s' : σ) : Prop := x s = (.ok a, s')

/-- `x`, started in `s`, raises `e` and leaves `s'`. -/
def Raises (x : Program σ ε α) (s : σ) (e : ε) (s' : σ) : Prop := x s = (.error e, s')

instance [DecidableEq α] [DecidableEq ε] [DecidableEq σ] (x : Program σ ε α) (s : σ) (a : α)
    (s' : σ) : Decidable (Returns x s a s') := by
  unfold Returns
  infer_instance

theorem Returns.unique {x : Program σ ε α} {s s₁ s₂ : σ} {a₁ a₂ : α}
    (h₁ : Returns x s a₁ s₁) (h₂ : Returns x s a₂ s₂) : a₁ = a₂ ∧ s₁ = s₂ := by
  unfold Returns at h₁ h₂
  rw [h₁] at h₂
  simpa using h₂

theorem returns_of_fst {x : Program σ ε α} {s : σ} {a : α} (h : (x s).1 = .ok a) :
    Returns x s a (x s).2 := Prod.ext h rfl

theorem raises_of_fst {x : Program σ ε α} {s : σ} {e : ε} (h : (x s).1 = .error e) :
    Raises x s e (x s).2 := Prod.ext h rfl

/-! ### Running -/

theorem run_read_bind (f : σ → Program σ ε α) (s : σ) : (read >>= f) s = f s s := rfl

theorem run_update_bind (g : σ → σ) (f : Unit → Program σ ε α) (s : σ) :
    (update g >>= f) s = f () (g s) := rfl

theorem run_bind_of_returns {x : Program σ ε α} {f : α → Program σ ε β} {s s' : σ} {a : α}
    (h : x s = (.ok a, s')) : (x >>= f) s = f a s' := by
  simp [bind, h]

theorem run_bind_of_raises {x : Program σ ε α} {f : α → Program σ ε β} {s s' : σ} {e : ε}
    (h : x s = (.error e, s')) : (x >>= f) s = (.error e, s') := by
  simp [bind, h]

theorem run_rescue_of_returns {x : Program σ ε α} {handler : ε → Option (Program σ ε α)}
    {s s' : σ} {a : α} (h : x s = (.ok a, s')) : rescue x handler s = (.ok a, s') := by
  simp [rescue, h]

theorem run_rescue_of_raises {x : Program σ ε α} {handler : ε → Option (Program σ ε α)}
    {s s' : σ} {e : ε} (h : x s = (.error e, s')) :
    rescue x handler s = (handler e).elim (.error e, s') (fun y => y s') := by
  simp only [rescue, h]
  cases handler e <;> rfl

theorem run_mapResult {ε' β : Type} (f : Except ε α → Except ε' β) (x : Program σ ε α) (s : σ) :
    mapResult f x s = (f (x s).1, (x s).2) := rfl

theorem run_revise_ok {f : σ → Except ε σ} {s s' : σ} (h : f s = .ok s') :
    revise f s = (.ok (), s') := by
  simp [revise, h]

theorem run_revise_error {f : σ → Except ε σ} {s : σ} {e : ε} (h : f s = .error e) :
    revise f s = (.error e, s) := by
  simp [revise, h]

/-- A loop whose rounds return. The invariant says what the rest of the loop will leave. -/
theorem run_each (body : α → Program σ ε Unit) {P : List α → σ → Prop}
    (hround : ∀ a as s, P (a :: as) s → (body a s).1 = .ok () ∧ P as (body a s).2)
    (as : List α) {s : σ} (h : P as s) :
    (each body as s).1 = .ok () ∧ P [] (each body as s).2 := by
  induction as generalizing s with
  | nil => exact ⟨rfl, h⟩
  | cons a as ih =>
    obtain ⟨hok, hnext⟩ := hround a as s h
    have hrun : body a s = (.ok (), (body a s).2) := Prod.ext hok rfl
    unfold each
    rw [run_bind_of_returns hrun]
    exact ih hnext

/-! ### The result alone -/

/-- The state that a run returns; a run that raises leaves none. -/
def result (x : Program σ ε Unit) (s : σ) : Except ε σ :=
  match x s with
  | (.ok _, s') => .ok s'
  | (.error e, _) => .error e

@[simp] theorem result_pure (s : σ) : result (pure () : Program σ ε Unit) s = .ok s := rfl

@[simp] theorem result_update (f : σ → σ) (s : σ) :
    result (update f : Program σ ε Unit) s = .ok (f s) := rfl

@[simp] theorem result_revise (f : σ → Except ε σ) (s : σ) : result (revise f) s = f s := by
  unfold result revise
  cases f s <;> rfl

@[simp] theorem result_ofExcept_bind (x : Except ε α) (f : α → Program σ ε Unit) (s : σ) :
    result (ofExcept x >>= f) s = x >>= fun a => result (f a) s := by
  cases x <;> rfl

@[simp] theorem result_read_bind (f : σ → Program σ ε Unit) (s : σ) :
    result (read >>= f) s = result (f s) s := rfl

@[simp] theorem result_update_bind (g : σ → σ) (f : Unit → Program σ ε Unit) (s : σ) :
    result (update g >>= f) s = result (f ()) (g s) := rfl

/-- Programs that only pass the state on. -/
theorem result_bind (x : Program σ ε Unit) (f : Unit → Program σ ε Unit) (s : σ) :
    result (x >>= f) s = result x s >>= fun s' => result (f ()) s' := by
  simp only [result, bind]
  rcases x s with ⟨_ | ⟨⟩, s'⟩ <;> rfl

@[simp] theorem result_revise_bind (g : σ → Except ε σ) (f : Unit → Program σ ε Unit) (s : σ) :
    result (revise g >>= f) s = g s >>= fun s' => result (f ()) s' := by
  rw [result_bind, result_revise]

/-- The same program without the labels. -/
def unlabelled {κ : Type} (x : Program σ (κ × ε) α) : Program σ ε α := fun s =>
  ((x s).1.mapError Prod.snd, (x s).2)

section Labels

variable {κ : Type}

@[simp] theorem unlabelled_bind (x : Program σ (κ × ε) α) (f : α → Program σ (κ × ε) β) :
    unlabelled (x >>= f) = unlabelled x >>= fun a => unlabelled (f a) := by
  funext s
  simp only [unlabelled, bind]
  rcases x s with ⟨_ | _, s'⟩ <;> rfl

@[simp] theorem unlabelled_during (k : κ) (x : Program σ ε α) : unlabelled (during k x) = x := by
  funext s
  simp only [unlabelled, during]
  rcases x s with ⟨_ | _, s'⟩ <;> rfl

@[simp] theorem unlabelled_update (f : σ → σ) :
    unlabelled (update f : Program σ (κ × ε) Unit) = update f := rfl

end Labels

/-! ### Taking executions apart -/

@[simp] theorem returns_pure {a b : α} {s s' : σ} :
    Returns (pure a : Program σ ε α) s b s' ↔ a = b ∧ s = s' := by
  simp [Returns, pure]

@[simp] theorem returns_raise {e : ε} {b : α} {s s' : σ} :
    ¬ Returns (raise e : Program σ ε α) s b s' := by
  simp [Returns, raise]

@[simp] theorem returns_ofExcept {x : Except ε α} {b : α} {s s' : σ} :
    Returns (ofExcept x) s b s' ↔ x = .ok b ∧ s = s' := by
  simp [Returns, ofExcept]

@[simp] theorem returns_read {b s s' : σ} :
    Returns (read : Program σ ε σ) s b s' ↔ s = b ∧ s = s' := by
  simp [Returns, read]

@[simp] theorem returns_update {f : σ → σ} {u : Unit} {s s' : σ} :
    Returns (update f : Program σ ε Unit) s u s' ↔ f s = s' := by
  simp [Returns, update]

theorem returns_bind {x : Program σ ε α} {f : α → Program σ ε β} {b : β} {s s'' : σ} :
    Returns (x >>= f) s b s'' ↔ ∃ a s', Returns x s a s' ∧ Returns (f a) s' b s'' := by
  unfold Returns
  rcases hx : x s with ⟨_ | a, s'⟩
  · simp [bind, hx]
  · simp only [bind, hx, Prod.mk.injEq, Except.ok.injEq]
    constructor
    · intro h
      exact ⟨a, s', ⟨rfl, rfl⟩, h⟩
    · rintro ⟨_, _, ⟨rfl, rfl⟩, h⟩
      exact h

theorem raises_bind {x : Program σ ε α} {f : α → Program σ ε β} {e : ε} {s s'' : σ} :
    Raises (x >>= f) s e s'' ↔
      Raises x s e s'' ∨ ∃ a s', Returns x s a s' ∧ Raises (f a) s' e s'' := by
  unfold Raises Returns
  rcases hx : x s with ⟨_ | a, s'⟩ <;> simp [bind, hx]

theorem returns_rescue {x : Program σ ε α} {handler : ε → Option (Program σ ε α)} {b : α}
    {s s'' : σ} :
    Returns (rescue x handler) s b s'' ↔
      Returns x s b s'' ∨
        ∃ e s' y, Raises x s e s' ∧ handler e = some y ∧ Returns y s' b s'' := by
  unfold Returns Raises rescue
  rcases hx : x s with ⟨e | a, s'⟩
  · cases hh : handler e <;> simp [hh]
  · simp

theorem raises_rescue {x : Program σ ε α} {handler : ε → Option (Program σ ε α)} {e : ε}
    {s s'' : σ} (h : Raises (rescue x handler) s e s'') :
    Raises x s e s'' ∧ handler e = none ∨
      ∃ e₁ s₁ y, Raises x s e₁ s₁ ∧ handler e₁ = some y ∧ Raises y s₁ e s'' := by
  unfold Raises rescue at h
  unfold Raises
  rcases hx : x s with ⟨e₁ | a, s₁⟩
  · rw [hx] at h
    cases hhandler : handler e₁ with
    | none =>
      simp only [hhandler] at h
      obtain ⟨rfl, rfl⟩ : e₁ = e ∧ s₁ = s'' := by simpa using h
      exact .inl ⟨rfl, hhandler⟩
    | some y =>
      simp only [hhandler] at h
      exact .inr ⟨e₁, s₁, y, rfl, hhandler, h⟩
  · rw [hx] at h
    cases h

/-! ### Loops with a variable -/

section Iterate

variable {exhausted : ε} {body : β → Program σ ε (Option β)}

/-- A round of the loop that goes on. -/
def Round (body : β → Program σ ε (Option β)) (x y : β × σ) : Prop :=
  Returns (body x.1) x.2 (some y.1) y.2

/-- The values of the variable, and the states, with which the rounds begin. -/
abbrev Rounds (body : β → Program σ ε (Option β)) : β × σ → β × σ → Prop :=
  Relation.ReflTransGen (Round body)

/-- What the loop raises is raised by one of its rounds, or the bound is too small. -/
theorem raises_iterate {fuel : Nat} {b : β} {e : ε} {s s' : σ}
    (h : Raises (iterate exhausted body fuel b) s e s') :
    e = exhausted ∨ ∃ c s₁, Rounds body (b, s) (c, s₁) ∧ Raises (body c) s₁ e s' := by
  induction fuel generalizing b s with
  | zero =>
    cases h
    exact .inl rfl
  | succ fuel ih =>
    rcases raises_bind.mp h with hraises | ⟨r, s₁, hround, h⟩
    · exact .inr ⟨b, s, .refl, hraises⟩
    · cases r with
      | none => cases h
      | some next =>
        have hfirst : Round body (b, s) (next, s₁) := hround
        rcases ih h with rfl | ⟨c, s₂, hrounds, hraises⟩
        · exact .inl rfl
        · exact .inr ⟨c, s₂, .head hfirst hrounds, hraises⟩

/-- Rounds with a measure that falls are not ended by the bound. -/
theorem iterate_fuel {measure : β → σ → Nat}
    (hround : ∀ b s c s', Returns (body b) s (some c) s' → measure c s' < measure b s)
    {n k : Nat} {b : β} {s : σ} (hn : measure b s < n) (hk : measure b s < k) :
    iterate exhausted body n b s = iterate exhausted body k b s := by
  induction n generalizing k b s with
  | zero => omega
  | succ n ih =>
    obtain ⟨k, rfl⟩ := Nat.exists_eq_succ_of_ne_zero (Nat.ne_of_gt (Nat.zero_lt_of_lt hk))
    rw [iterate, iterate]
    rcases hrun : body b s with ⟨e | _ | next, s₁⟩
    · rw [run_bind_of_raises hrun, run_bind_of_raises hrun]
    · rw [run_bind_of_returns hrun, run_bind_of_returns hrun]
    · rw [run_bind_of_returns hrun, run_bind_of_returns hrun]
      have hless := hround b s next s₁ hrun
      exact ih (by omega) (by omega)

end Iterate

/-! ### Invariants -/

/-- Every execution of `x` that starts in `P` ends in `P`, whether it returns or raises. -/
def Preserves (x : Program σ ε α) (P : σ → Prop) : Prop := ∀ s, P s → P (x s).2

theorem Preserves.returns {x : Program σ ε α} {P : σ → Prop} (h : Preserves x P) {s s' : σ}
    {a : α} (hs : P s) (hx : Returns x s a s') : P s' := by
  have := h s hs
  rwa [hx] at this

theorem preserves_pure {P : σ → Prop} (a : α) : Preserves (pure a : Program σ ε α) P :=
  fun _ hs => hs

theorem preserves_raise {P : σ → Prop} (e : ε) : Preserves (raise e : Program σ ε α) P :=
  fun _ hs => hs

theorem preserves_ofExcept {P : σ → Prop} (x : Except ε α) : Preserves (ofExcept x) P :=
  fun _ hs => hs

theorem preserves_read {P : σ → Prop} : Preserves (read : Program σ ε σ) P := fun _ hs => hs

theorem preserves_update {P : σ → Prop} {f : σ → σ} (h : ∀ s, P s → P (f s)) :
    Preserves (update f : Program σ ε Unit) P := h

theorem preserves_revise {P : σ → Prop} {f : σ → Except ε σ}
    (h : ∀ s s', P s → f s = .ok s' → P s') : Preserves (revise f) P := by
  intro s hs
  unfold revise
  cases hf : f s with
  | ok s' => exact h s s' hs hf
  | error e => exact hs

theorem preserves_bind {P : σ → Prop} {x : Program σ ε α} {f : α → Program σ ε β}
    (hx : Preserves x P) (hf : ∀ a, Preserves (f a) P) : Preserves (x >>= f) P := by
  intro s hs
  have h := hx s hs
  simp only [bind]
  rcases hr : x s with ⟨_ | a, s'⟩ <;> rw [hr] at h
  · exact h
  · exact hf a s' h

/-- After the state is read, the rest of the program runs in the state that was read. -/
theorem preserves_read_bind {P : σ → Prop} {f : σ → Program σ ε α}
    (h : ∀ s, P s → P (f s s).2) : Preserves (read >>= f) P := h

/-- What every round of a loop that returns keeps. -/
theorem returns_each {body : α → Program σ ε Unit} {as : List α} {s s' : σ} {P : σ → Prop}
    (hround : ∀ a ∈ as, ∀ s₁ s₂, P s₁ → Returns (body a) s₁ () s₂ → P s₂) (hs : P s)
    (h : Returns (each body as) s () s') : P s' := by
  induction as generalizing s with
  | nil =>
    obtain ⟨-, rfl⟩ := returns_pure.mp h
    exact hs
  | cons a as ih =>
    obtain ⟨u, s₁, hbody, hrest⟩ := returns_bind.mp h
    refine ih ?_ (hround a List.mem_cons_self s s₁ hs hbody) hrest
    intro b hb
    exact hround b (List.mem_cons_of_mem _ hb)

/-! ### Conditions before and after -/

/-- Every execution of `x` that starts in `P` ends in `Q` when it returns and in `R e` when it
raises `e`. -/
def Ensures (x : Program σ ε α) (P Q : σ → Prop) (R : ε → σ → Prop) : Prop := ∀ s, P s →
  match x s with
  | (.ok _, s') => Q s'
  | (.error e, s') => R e s'

theorem Ensures.raises {x : Program σ ε α} {P Q : σ → Prop} {R : ε → σ → Prop}
    (h : Ensures x P Q R) {s s' : σ} {e : ε} (hs : P s) (hx : Raises x s e s') : R e s' := by
  have hr := h s hs
  rwa [hx] at hr

theorem ensures_update {P Q : σ → Prop} {R : ε → σ → Prop} {f : σ → σ} (h : ∀ s, P s → Q (f s)) :
    Ensures (update f : Program σ ε Unit) P Q R := h

theorem ensures_ofExcept {P : σ → Prop} {R : ε → σ → Prop} {x : Except ε α}
    (h : ∀ e s, P s → R e s) : Ensures (ofExcept x) P P R := by
  intro s hs
  cases x with
  | ok a => exact hs
  | error e => exact h e s hs

theorem ensures_revise {P Q : σ → Prop} {R : ε → σ → Prop} {f : σ → Except ε σ}
    (hok : ∀ s s', P s → f s = .ok s' → Q s') (herror : ∀ e s, P s → R e s) :
    Ensures (revise f) P Q R := by
  intro s hs
  unfold revise
  cases hf : f s with
  | ok s' => exact hok s s' hs hf
  | error e => exact herror e s hs

theorem ensures_bind {P Q T : σ → Prop} {R : ε → σ → Prop} {x : Program σ ε α}
    {f : α → Program σ ε β} (hx : Ensures x P Q R) (hf : ∀ a, Ensures (f a) Q T R) :
    Ensures (x >>= f) P T R := by
  intro s hs
  have h := hx s hs
  simp only [bind]
  rcases hr : x s with ⟨_ | a, s'⟩ <;> rw [hr] at h
  · exact h
  · exact hf a s' h

theorem ensures_during {κ : Type} {k : κ} {P Q : σ → Prop} {R : κ × ε → σ → Prop}
    {x : Program σ ε α} (h : Ensures x P Q fun e => R (k, e)) : Ensures (during k x) P Q R := by
  intro s hs
  have hx := h s hs
  unfold during
  rcases hr : x s with ⟨_ | a, s'⟩ <;> rw [hr] at hx <;> exact hx

theorem Preserves.ensures {P : σ → Prop} {R : ε → σ → Prop} {x : Program σ ε α}
    (h : Preserves x P) (hR : ∀ e s, P s → R e s) : Ensures x P P R := by
  intro s hs
  have hx := h s hs
  rcases hr : x s with ⟨e | a, s'⟩ <;> rw [hr] at hx
  · exact hR e s' hx
  · exact hx

theorem Ensures.preserves {P : σ → Prop} {x : Program σ ε α} (h : Ensures x P P fun _ => P) :
    Preserves x P := by
  intro s hs
  have hx := h s hs
  rcases hr : x s with ⟨_ | a, s'⟩ <;> rw [hr] at hx <;> exact hx

end Program

end Foundations
