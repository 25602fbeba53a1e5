import OpenCattus.Foundations.Transcript

/-!
# One script, two models

What a dialog leaves alone, and what its answers settle. `Leaves` says that a part of the model
stays, whatever the operator answers and however the dialog stops. `Blind` says that a dialog
neither reads the model nor changes it. `Couples` runs a dialog twice on the same answers, from
models of which something is known.
-/

namespace Foundations

namespace Dialog

open Program

variable {M E α β γ : Type}

/-! ## What is left alone -/

def LeavesAt (x : Dialog M E α) (f : M → γ) (s : Session M) : Prop := f (x s).2.model = f s.model

/-- No execution of the dialog changes `f` of the model. -/
def Leaves (x : Dialog M E α) (f : M → γ) : Prop := ∀ s, LeavesAt x f s

section Leaves

variable {f : M → γ} {x : Dialog M E α} {s s' : Session M}

theorem Leaves.returns {a : α} (h : Leaves x f) (hreturns : Returns x s a s') :
    f s'.model = f s.model := by
  have hkept := h s
  unfold LeavesAt at hkept
  rwa [show x s = (.ok a, s') from hreturns] at hkept

theorem Leaves.raises {stop : Stop E} (h : Leaves x f) (hraises : Raises x s stop s') :
    f s'.model = f s.model := by
  have hkept := h s
  unfold LeavesAt at hkept
  rwa [show x s = (.error stop, s') from hraises] at hkept

/-- What can be seen in `f` of the model stays with it. -/
theorem Leaves.of {δ : Type} {g : M → δ} {k : γ → δ} (h : Leaves x f) (hk : ∀ m, g m = k (f m)) :
    Leaves x g := by
  intro s
  unfold LeavesAt
  rw [hk, hk, h s]

theorem leaves_pure (a : α) : Leaves (pure a : Dialog M E α) f := fun _ => rfl

theorem leaves_raise (stop : Stop E) : Leaves (raise stop : Dialog M E α) f := fun _ => rfl

theorem leaves_lift (x : Except E α) : Leaves (lift x : Dialog M E α) f := fun _ => rfl

theorem leaves_getModel : Leaves (getModel : Dialog M E M) f := fun _ => rfl

theorem leaves_setModel {g : M → M} (h : ∀ m, f (g m) = f m) :
    Leaves (setModel g : Dialog M E Unit) f := fun s => h s.model

theorem leavesAt_bind {k : α → Dialog M E β} (hx : Leaves x f)
    (hk : ∀ a s', Returns x s a s' → LeavesAt (k a) f s') : LeavesAt (x >>= k) f s := by
  unfold LeavesAt
  rcases hrun : x s with ⟨stop | a, s₁⟩
  · rw [run_bind_of_raises hrun]
    exact hx.raises hrun
  · rw [run_bind_of_returns hrun]
    exact (hk a s₁ hrun).trans (hx.returns hrun)

theorem leaves_bind {k : α → Dialog M E β} (hx : Leaves x f) (hk : ∀ a, Leaves (k a) f) :
    Leaves (x >>= k) f := fun _ => leavesAt_bind hx fun a s' _ => hk a s'

/-- A part of the model is read, changed and put back. -/
theorem leaves_replaceModel {g : M → Except E M} {k : Dialog M E β}
    (hg : ∀ m r, g m = .ok r → f r = f m) (hk : Leaves k f) :
    Leaves (do
      let model ← getModel
      let model ← lift (g model)
      setModel fun _ => model
      k) f := by
  intro s
  refine leavesAt_bind leaves_getModel fun m s₁ hget => ?_
  obtain ⟨rfl, rfl⟩ := returns_getModel.mp hget
  refine leavesAt_bind (leaves_lift _) fun r s₂ hlift => ?_
  obtain ⟨hr, rfl⟩ := returns_lift.mp hlift
  exact (hk _).trans (hg _ _ hr)

theorem leaves_next : Leaves (next : Dialog M E Answer) f := by
  rintro ⟨m, script⟩
  unfold LeavesAt next
  cases script with
  | nil => rfl
  | cons answer rest => cases answer <;> rfl

theorem leaves_accept (fits : Answer → Option α) : Leaves (accept fits : Dialog M E α) f := by
  refine leaves_bind leaves_next fun answer => ?_
  split
  · exact leaves_pure _
  · exact leaves_raise _

theorem leaves_listMenu (choices : List String) :
    Leaves (listMenu choices : Dialog M E String) f := by
  unfold listMenu
  split
  · exact leaves_raise _
  · exact leaves_accept _

theorem leaves_each {body : β → Dialog M E Unit} (h : ∀ b, Leaves (body b) f) (bs : List β) :
    Leaves (each body bs) f := by
  induction bs with
  | nil => exact leaves_pure ()
  | cons b bs ih => exact leaves_bind (h b) fun _ => ih

theorem leaves_ask {n : Nat} {round : Vector String n → M → Except E (Option α) × M}
    (h : ∀ values m, f (round values m).2 = f m) : Leaves (ask n round) f := by
  rintro ⟨m, script⟩
  change f (ask.go n round m script).2.model = f m
  fun_induction ask.go n round m script with
  | case1 => rfl
  | case2 => rfl
  | case3 => rfl
  | case4 => rfl
  | case5 m _ _ _ _ values _ _ _ hcase =>
    have hkept := h values m
    rwa [hcase] at hkept
  | case6 m _ _ _ _ values _ _ hcase ih =>
    have hkept := h values m
    rw [hcase] at hkept
    exact ih.trans hkept
  | case7 m _ _ _ _ values _ _ _ hcase =>
    have hkept := h values m
    rwa [hcase] at hkept

theorem leaves_retry {round : Dialog M E (Option α)} (h : Leaves round f) :
    Leaves (retry round) f := by
  have hrounds : ∀ n, Leaves (untilSome .waiting round n) f := by
    intro n
    induction n with
    | zero => exact leaves_raise _
    | succ n ih =>
      refine leaves_bind h fun r => ?_
      cases r with
      | none => exact ih
      | some a => exact leaves_pure a
  exact fun s => hrounds _ s

end Leaves

/-! ## Dialogs that do without the model -/

def Blind (x : Dialog M E α) : Prop :=
  ∀ s m, x ⟨m, s.script⟩ = ((x s).1, ⟨m, (x s).2.script⟩)

theorem Blind.leaves {x : Dialog M E α} {f : M → γ} (h : Blind x) : Leaves x f := fun s =>
  congrArg (fun r : Except (Stop E) α × Session M => f r.2.model) (h s s.model)

/-- The same from another model. -/
theorem Blind.returns {x : Dialog M E α} {s s' : Session M} {a : α} (h : Blind x)
    (hs : Returns x s a s') (m : M) : Returns x ⟨m, s.script⟩ a ⟨m, s'.script⟩ := by
  have hagain := h s m
  rwa [show x s = (.ok a, s') from hs] at hagain

theorem blind_pure (a : α) : Blind (pure a : Dialog M E α) := fun _ _ => rfl

theorem blind_raise (stop : Stop E) : Blind (raise stop : Dialog M E α) := fun _ _ => rfl

theorem blind_lift (x : Except E α) : Blind (lift x : Dialog M E α) := fun _ _ => rfl

theorem blind_bind {x : Dialog M E α} {k : α → Dialog M E β} (hx : Blind x)
    (hk : ∀ a, Blind (k a)) : Blind (x >>= k) := by
  intro s m
  have hagain := hx s m
  rcases hrun : x s with ⟨stop | a, s₁⟩
  · rw [hrun] at hagain
    rw [run_bind_of_raises hagain, run_bind_of_raises hrun]
  · rw [hrun] at hagain
    rw [run_bind_of_returns hagain, run_bind_of_returns hrun]
    exact hk a s₁ m

theorem blind_next : Blind (next : Dialog M E Answer) := by
  rintro ⟨m, script⟩ m'
  unfold next
  cases script with
  | nil => rfl
  | cons answer rest => cases answer <;> rfl

theorem blind_accept (fits : Answer → Option α) : Blind (accept fits : Dialog M E α) := by
  refine blind_bind blind_next fun answer => ?_
  split
  · exact blind_pure _
  · exact blind_raise _

theorem blind_listMenu (choices : List String) : Blind (listMenu choices : Dialog M E String) := by
  unfold listMenu
  split
  · exact blind_raise _
  · exact blind_accept _

theorem blind_askFor (n : Nat) (check : Vector String n → Option α) :
    Blind (askFor n check : Dialog M E α) := by
  have hgo : ∀ round : Vector String n → M → Except E (Option α) × M,
      (∀ values m, round values m = (.ok (check values), m)) → ∀ m m' script,
        ask.go n round m' script =
          ((ask.go n round m script).1, ⟨m', (ask.go n round m script).2.script⟩) := by
    intro round hround m m' script
    fun_induction ask.go n round m script with
    | case1 => rfl
    | case2 => rfl
    | case3 => rfl
    | case4 m answer rest hback habort hfields =>
      rw [ask.go.eq_4 _ _ _ _ _ hback habort, hfields]
    | case5 m answer rest hback habort values hfields a m₁ hcase =>
      have hcheck := Except.ok.inj (Prod.mk.inj ((hround values m).symm.trans hcase)).1
      rw [ask.go.eq_4 _ _ _ _ _ hback habort, hfields]
      simp only [hround, hcheck]
    | case6 m answer rest hback habort values hfields m₁ hcase ih =>
      have hcheck := Except.ok.inj (Prod.mk.inj ((hround values m).symm.trans hcase)).1
      rw [ask.go.eq_4 _ _ _ _ _ hback habort, hfields]
      simp only [hround, hcheck]
      exact ih
    | case7 m answer rest hback habort values hfields e m₁ hcase =>
      cases (hround values m).symm.trans hcase
  exact fun s m' => hgo _ (fun _ _ => rfl) s.model m' s.script

theorem blind_rescue {x : Dialog M E α} {handler : Stop E → Option (Dialog M E α)} (hx : Blind x)
    (hhandler : ∀ stop y, handler stop = some y → Blind y) : Blind (rescue x handler) := by
  intro s m
  have hagain := hx s m
  rcases hrun : x s with ⟨stop | a, s₁⟩
  · rw [hrun] at hagain
    rw [run_rescue_of_raises hagain, run_rescue_of_raises hrun]
    cases hy : handler stop with
    | none => rfl
    | some y => exact hhandler stop y hy s₁ m
  · rw [hrun] at hagain
    rw [run_rescue_of_returns hagain, run_rescue_of_returns hrun]

/-! ## The same answers twice -/

/-- Two executions that return, on the same answers and from models with `R`, return the same and
leave models with `S`. -/
def Couples (x : Dialog M E α) (R S : M → M → Prop) : Prop := ∀ s t a b s' t',
  s.script = t.script → R s.model t.model → Returns x s a s' → Returns x t b t' →
    a = b ∧ s'.script = t'.script ∧ S s'.model t'.model

section Couples

variable {R S T : M → M → Prop}

theorem Blind.couples {x : Dialog M E α} (h : Blind x) : Couples x R R := by
  rintro s ⟨m, script⟩ a b s' t' hscript hR hs ht
  obtain rfl : s.script = script := hscript
  have hself := h s s.model
  have hother := h s m
  rw [show x s = (.ok a, s') from hs] at hself hother
  obtain ⟨rfl, rfl⟩ := Returns.unique ht hother
  have hkept : s'.model = s.model := congrArg (fun r => r.2.model) hself
  rw [hkept]
  exact ⟨rfl, rfl, hR⟩

theorem couples_raise (stop : Stop E) : Couples (raise stop : Dialog M E α) R S := by
  intro s t a b s' t' _ _ hs
  cases hs

theorem couples_bind {x : Dialog M E α} {k : α → Dialog M E β} (hx : Couples x R S)
    (hk : ∀ a, Couples (k a) S T) : Couples (x >>= k) R T := by
  intro s t b c s' t' hscript hR hs ht
  obtain ⟨a, s₁, hs₁, hs'⟩ := returns_bind.mp hs
  obtain ⟨a', t₁, ht₁, ht'⟩ := returns_bind.mp ht
  obtain ⟨rfl, hscript₁, hS⟩ := hx s t a a' s₁ t₁ hscript hR hs₁ ht₁
  exact hk a s₁ t₁ b c s' t' hscript₁ hS hs' ht'

theorem couples_setModel {f : M → M} (h : ∀ m m', R m m' → S (f m) (f m')) :
    Couples (setModel f : Dialog M E Unit) R S := by
  intro s t a b s' t' hscript hR hs ht
  rw [returns_setModel.mp hs, returns_setModel.mp ht]
  exact ⟨rfl, hscript, h _ _ hR⟩

/-- A prompt whose rounds end by the values alone. -/
theorem couples_ask {n : Nat} {round : Vector String n → M → Except E (Option α) × M}
    (hsame : ∀ values m m', (round values m).1 = (round values m').1)
    (hlast : ∀ values m m', S (round values m).2 (round values m').2) :
    Couples (ask n round) R S := by
  rintro ⟨m, script⟩ ⟨m', script'⟩ a b s' t' hscript - hs ht
  obtain rfl : script = script' := hscript
  replace hs : ask.go n round m script = (.ok a, s') := hs
  replace ht : ask.go n round m' script = (.ok b, t') := ht
  fun_induction ask.go n round m script generalizing m' with
  | case1 => cases hs
  | case2 => cases hs
  | case3 => cases hs
  | case4 => cases hs
  | case5 m answer rest hback habort values hfields a' m₁ hcase =>
    have houtcome := hsame values m m'
    have hS := hlast values m m'
    rw [ask.go.eq_4 _ _ _ _ _ hback habort, hfields] at ht
    rw [hcase] at houtcome hS
    dsimp only at ht
    rcases hround : round values m' with ⟨r, m₁'⟩
    rw [hround] at ht houtcome hS
    obtain rfl : Except.ok (some a') = r := houtcome
    cases hs
    cases ht
    exact ⟨rfl, rfl, hS⟩
  | case6 m answer rest hback habort values hfields m₁ hcase ih =>
    have houtcome := hsame values m m'
    rw [ask.go.eq_4 _ _ _ _ _ hback habort, hfields] at ht
    rw [hcase] at houtcome
    dsimp only at ht
    rcases hround : round values m' with ⟨r, m₁'⟩
    rw [hround] at ht houtcome
    obtain rfl : Except.ok none = r := houtcome
    exact ih m₁' hs ht
  | case7 => cases hs

end Couples

end Dialog

end Foundations
