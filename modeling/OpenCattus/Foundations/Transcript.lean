import OpenCattus.Foundations.Dialog

/-!
# The answers that a dialog takes

A dialog reads its script from the front: what it does is settled by the answers that it takes, and
Back is one of them.

`reads_bind` and the lemmas beside it say so prompt by prompt. `retry_eq` is the equation of a
repeated part whose rounds take an answer: the bound on its rounds never ends it.
-/

namespace Foundations

namespace Dialog

open Program

variable {M E α β : Type}

/-! ## Reading a script -/

/-- A dialog that stops does so by the answers it has taken, whatever comes behind them. -/
def ReadsAt (x : Dialog M E α) (s : Session M) : Prop := (x s).1 ≠ .error .waiting →
  ∃ taken, s.script = taken ++ (x s).2.script ∧ ((x s).1 = .error .back → taken ≠ []) ∧
    ∀ more, x ⟨s.model, taken ++ more⟩ = ((x s).1, ⟨(x s).2.model, more⟩)

def Reads (x : Dialog M E α) : Prop := ∀ s, ReadsAt x s

/-- A dialog that takes no answer. -/
theorem reads_of_const {x : Dialog M E α} {r : Except (Stop E) α} {f : M → M}
    (hback : r ≠ .error .back) (h : ∀ s, x s = (r, ⟨f s.model, s.script⟩)) : Reads x := by
  intro s _
  refine ⟨[], by rw [h s]; rfl, ?_, ?_⟩
  · rw [h s]
    exact fun hstop => absurd hstop hback
  · intro more
    rw [h s, h]
    rfl

theorem reads_pure (a : α) : Reads (pure a : Dialog M E α) :=
  reads_of_const (f := id) (by simp) fun _ => rfl

theorem reads_raise {stop : Stop E} (h : stop ≠ .back) : Reads (raise stop : Dialog M E α) :=
  reads_of_const (f := id) (by simpa using h) fun _ => rfl

theorem reads_fatalMessage : Reads (fatalMessage : Dialog M E α) := reads_raise (by simp)

theorem reads_setModel (f : M → M) : Reads (setModel f : Dialog M E Unit) :=
  reads_of_const (by simp) fun _ => rfl

theorem reads_lift (x : Except E α) : Reads (lift x : Dialog M E α) := by
  cases x with
  | ok a => exact reads_pure a
  | error e => exact reads_raise (by simp)

theorem readsAt_bind {x : Dialog M E α} {f : α → Dialog M E β} {s : Session M} (hx : ReadsAt x s)
    (hf : ∀ a s', Returns x s a s' → ReadsAt (f a) s') : ReadsAt (x >>= f) s := by
  intro hstop
  rcases hrun : x s with ⟨e | a, s₁⟩
  · rw [run_bind_of_raises hrun] at hstop ⊢
    obtain ⟨taken, hscript, hback, hmore⟩ := hx (by rw [hrun]; simpa using hstop)
    rw [hrun] at hscript hback hmore
    refine ⟨taken, hscript, fun h => hback (by simpa using h), fun more => ?_⟩
    exact run_bind_of_raises (hmore more)
  · rw [run_bind_of_returns hrun] at hstop ⊢
    obtain ⟨taken, hscript, -, hmore⟩ := hx (by rw [hrun]; simp)
    obtain ⟨taken', hscript', hback', hmore'⟩ := hf a s₁ hrun hstop
    rw [hrun] at hscript hmore
    refine ⟨taken ++ taken', ?_, ?_, ?_⟩
    · rw [hscript, hscript', List.append_assoc]
    · exact fun h => List.append_ne_nil_of_right_ne_nil _ (hback' h)
    · intro more
      rw [List.append_assoc, run_bind_of_returns (hmore (taken' ++ more))]
      exact hmore' more

theorem reads_bind {x : Dialog M E α} {f : α → Dialog M E β} (hx : Reads x)
    (hf : ∀ a, Reads (f a)) : Reads (x >>= f) :=
  fun s => readsAt_bind (hx s) fun a s' _ => hf a s'

theorem reads_getModel : Reads (getModel : Dialog M E M) := by
  intro s _
  exact ⟨[], rfl, by simp [getModel], fun _ => rfl⟩

theorem reads_next : Reads (next : Dialog M E Answer) := by
  rintro ⟨model, script⟩ hstop
  cases script with
  | nil => exact absurd rfl hstop
  | cons answer rest =>
    cases answer
    all_goals exact ⟨[_], rfl, by simp, fun _ => rfl⟩

theorem reads_accept (fits : Answer → Option α) : Reads (accept fits : Dialog M E α) := by
  refine reads_bind reads_next fun answer => ?_
  split
  · exact reads_pure _
  · exact reads_raise (by simp)

theorem reads_listMenu (choices : List String) : Reads (listMenu choices : Dialog M E String) := by
  unfold listMenu
  split
  · exact reads_fatalMessage
  · exact reads_accept _

theorem reads_rescue {x : Dialog M E α} {handler : Stop E → Option (Dialog M E α)} (hx : Reads x)
    (hwaiting : handler .waiting = none) (hf : ∀ stop y, handler stop = some y → Reads y) :
    Reads (rescue x handler) := by
  intro s hstop
  rcases hrun : x s with ⟨e | a, s₁⟩
  · rw [run_rescue_of_raises hrun] at hstop ⊢
    have he : e ≠ .waiting := by
      rintro rfl
      rw [hwaiting] at hstop
      exact hstop rfl
    obtain ⟨taken, hscript, hback, hmore⟩ := hx s (by rw [hrun]; simpa using he)
    rw [hrun] at hscript hback hmore
    cases hhandler : handler e with
    | none =>
      refine ⟨taken, hscript, hback, fun more => ?_⟩
      rw [run_rescue_of_raises (hmore more), hhandler]
      rfl
    | some y =>
      rw [hhandler] at hstop
      obtain ⟨taken', hscript', hback', hmore'⟩ := hf e y hhandler s₁ hstop
      refine ⟨taken ++ taken', ?_, ?_, ?_⟩
      · rw [hscript, hscript', List.append_assoc]
        rfl
      · exact fun h => List.append_ne_nil_of_right_ne_nil _ (hback' h)
      · intro more
        rw [List.append_assoc, run_rescue_of_raises (hmore (taken' ++ more)), hhandler]
        exact hmore' more
  · rw [run_rescue_of_returns hrun]
    obtain ⟨taken, hscript, -, hmore⟩ := hx s (by rw [hrun]; simp)
    rw [hrun] at hscript hmore
    exact ⟨taken, hscript, by simp, fun more => run_rescue_of_returns (hmore more)⟩

theorem reads_each {body : β → Dialog M E Unit} (h : ∀ b, Reads (body b)) (bs : List β) :
    Reads (each body bs) := by
  induction bs with
  | nil => exact reads_pure ()
  | cons b bs ih => exact reads_bind (h b) fun _ => ih

theorem reads_ask {n : Nat} (round : Vector String n → M → Except E (Option α) × M) :
    Reads (ask n round) := by
  have hgo : ∀ script model, (ask.go n round model script).1 ≠ .error .waiting →
      ∃ taken, script = taken ++ (ask.go n round model script).2.script ∧
        ((ask.go n round model script).1 = .error .back → taken ≠ []) ∧
        ∀ more, ask.go n round model (taken ++ more) =
          ((ask.go n round model script).1, ⟨(ask.go n round model script).2.model, more⟩) := by
    intro script model hstop
    fun_induction ask.go n round model script with
    | case1 => exact absurd rfl hstop
    | case2 => exact ⟨[.back], rfl, by simp, fun _ => rfl⟩
    | case3 => exact ⟨[.abort], rfl, by simp, fun _ => rfl⟩
    | case4 => exact absurd rfl hstop
    | case5 model answer rest hback habort values hfields a model' hcase =>
      refine ⟨[answer], rfl, by simp, fun more => ?_⟩
      rw [List.singleton_append, ask.go.eq_4 n round model answer more hback habort]
      simp only [hfields, hcase]
    | case6 model answer rest hback habort values hfields model' hcase ih =>
      obtain ⟨taken, hscript, -, hmore⟩ := ih hstop
      refine ⟨answer :: taken, by rw [List.cons_append, ← hscript], by simp, fun more => ?_⟩
      rw [List.cons_append, ask.go.eq_4 n round model answer _ hback habort]
      simp only [hfields, hcase]
      exact hmore more
    | case7 model answer rest hback habort values hfields e model' hcase =>
      refine ⟨[answer], rfl, by simp, fun more => ?_⟩
      rw [List.singleton_append, ask.go.eq_4 n round model answer more hback habort]
      simp only [hfields, hcase]
  exact fun s => hgo s.script s.model

theorem Reads.length_lt_of_back {x : Dialog M E α} (h : Reads x) {s s' : Session M}
    (hback : Raises x s .back s') : s'.script.length < s.script.length := by
  have hrun : x s = (.error .back, s') := hback
  obtain ⟨taken, hscript, htaken, -⟩ := h s (by rw [hrun]; simp)
  rw [hrun] at hscript htaken
  dsimp only at hscript
  have hpos := List.length_pos_iff.mpr (htaken rfl)
  rw [hscript, List.length_append]
  omega

/-- The answers that a part which returns has taken. -/
theorem Reads.taken {x : Dialog M E α} (h : Reads x) {s s' : Session M} {a : α}
    (hreturns : Returns x s a s') :
    ∃ taken, s.script = taken ++ s'.script ∧
      ∀ more, Returns x ⟨s.model, taken ++ more⟩ a ⟨s'.model, more⟩ := by
  have hrun : x s = (.ok a, s') := hreturns
  obtain ⟨taken, hscript, -, hmore⟩ := h s (by rw [hrun]; simp)
  rw [hrun] at hscript hmore
  exact ⟨taken, hscript, hmore⟩

/-! ## Taking an answer -/

/-- A part that returns has taken an answer. -/
def Asks (x : Dialog M E α) : Prop := ∀ s a s', Returns x s a s' →
  s'.script.length < s.script.length

theorem asks_listMenu (choices : List String) : Asks (listMenu choices : Dialog M E String) := by
  intro s name s' h
  obtain ⟨rfl, -⟩ := returns_listMenu.mp h
  simp

theorem asks_ask {n : Nat} (round : Vector String n → M → Except E (Option α) × M) :
    Asks (ask n round) := by
  rintro ⟨model, script⟩ a s' h
  replace h : ask.go n round model script = (.ok a, s') := h
  fun_induction ask.go n round model script with
  | case1 => cases h
  | case2 => cases h
  | case3 => cases h
  | case4 => cases h
  | case5 =>
    obtain ⟨-, rfl⟩ := Prod.mk.inj h
    simp
  | case6 model answer rest _ _ values hfields model' hcase ih =>
    exact Nat.lt_succ_of_lt (ih h)
  | case7 => cases h

theorem asks_bind {x : Dialog M E α} {f : α → Dialog M E β} (hx : Asks x)
    (hf : ∀ a, Reads (f a)) : Asks (x >>= f) := by
  intro s b s' h
  obtain ⟨a, s₁, hreturns, hrest⟩ := returns_bind.mp h
  have hfirst := hx s a s₁ hreturns
  obtain ⟨taken, hscript, -⟩ := (hf a).taken hrest
  rw [hscript, List.length_append] at hfirst
  omega

/-! ## Repeated parts -/

/-- Rounds that take an answer are not ended by the bound. -/
theorem untilSome_fuel {round : Dialog M E (Option α)} (h : Asks round) {n k : Nat}
    {s : Session M} (hn : s.script.length < n) (hk : s.script.length < k) :
    untilSome .waiting round n s = untilSome .waiting round k s := by
  induction n generalizing k s with
  | zero => omega
  | succ n ih =>
    obtain ⟨k, rfl⟩ := Nat.exists_eq_succ_of_ne_zero (Nat.ne_of_gt (Nat.zero_lt_of_lt hk))
    rw [untilSome, untilSome]
    rcases hrun : round s with ⟨e | _ | a, s₁⟩
    · rw [run_bind_of_raises hrun, run_bind_of_raises hrun]
    · rw [run_bind_of_returns hrun, run_bind_of_returns hrun]
      have hless := h s none s₁ hrun
      exact ih (by omega) (by omega)
    · rw [run_bind_of_returns hrun, run_bind_of_returns hrun]

/-- What a repeated part does after a round. -/
def again (round : Dialog M E (Option α)) : Option α → Dialog M E α
  | some a => pure a
  | none => retry round

theorem retry_eq {round : Dialog M E (Option α)} (h : Asks round) :
    retry round = round >>= again round := by
  funext s
  rw [retry, untilSome]
  rcases hrun : round s with ⟨e | _ | a, s₁⟩
  · rw [run_bind_of_raises hrun, run_bind_of_raises hrun]
  · rw [run_bind_of_returns hrun, run_bind_of_returns hrun]
    have hless := h s none s₁ hrun
    exact untilSome_fuel h hless (Nat.lt_succ_self _)
  · rw [run_bind_of_returns hrun, run_bind_of_returns hrun]
    rfl

theorem reads_retry {round : Dialog M E (Option α)} (hround : Reads round) (hasks : Asks round) :
    Reads (retry round) := by
  have hlength : ∀ n s, s.script.length < n → ReadsAt (retry round) s := by
    intro n
    induction n with
    | zero => exact fun s hs => absurd hs (Nat.not_lt_zero _)
    | succ n ih =>
      intro s hs
      rw [retry_eq hasks]
      refine readsAt_bind (hround s) fun r s₁ hreturns => ?_
      cases r with
      | some a => exact reads_pure a s₁
      | none =>
        have hless := hasks s none s₁ hreturns
        exact ih s₁ (by omega)
  exact fun s => hlength _ s (Nat.lt_succ_self _)

end Dialog

end Foundations
