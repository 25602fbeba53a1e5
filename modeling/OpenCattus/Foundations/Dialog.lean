import OpenCattus.Foundations.Program

/-!
# Dialogs

Programs that ask an operator, over a model `M` that they fill and exceptions `E`. The answers
stand in a script, so that a statement about every script is one about every operator. A dialog
that has no answer left waits; Back and Abort are answers to every prompt.

`quiet_bind` and the lemmas beside it say when a dialog throws nothing, prompt by prompt;
`returns_ask` says with which answer a repeated prompt ends.
-/

namespace Foundations

/-- What an operator does at a prompt. -/
inductive Answer where
  | back
  | abort
  | fields (values : List String)
  | item (name : String)
  | items (names : List String)
  | confirm (yes : Bool)
  deriving DecidableEq, Repr

/-- Why a dialog stops before its end. -/
inductive Stop (E : Type) where
  | waiting
  | back
  | abort
  | thrown (e : E)
  deriving DecidableEq, Repr

/-- The model, and the answers that are still to come. -/
structure Session (M : Type) where
  model : M
  script : List Answer
  deriving DecidableEq, Repr

abbrev Dialog (M E α : Type) : Type := Program (Session M) (Stop E) α

namespace Dialog

open Program

variable {M E α β : Type}

/-! ## Prompts -/

def getModel : Dialog M E M := fun s => (.ok s.model, s)

def setModel (f : M → M) : Dialog M E Unit := fun s => (.ok (), { s with model := f s.model })

/-- A part of the program that asks nothing. -/
def lift (x : Except E α) : Dialog M E α := ofExcept (x.mapError .thrown)

/-- The next answer. Back and Abort leave the dialog. -/
def next : Dialog M E Answer := fun s =>
  match s.script with
  | [] => (.error .waiting, s)
  | .back :: rest => (.error .back, { s with script := rest })
  | .abort :: rest => (.error .abort, { s with script := rest })
  | answer :: rest => (.ok answer, { s with script := rest })

/-- An answer that the prompt does not offer is not given; the prompt stays open. -/
def accept (fits : Answer → Option α) : Dialog M E α := do
  match fits (← next) with
  | some a => pure a
  | none => raise .waiting

def fieldsOf (n : Nat) : Answer → Option (Vector String n)
  | .fields values =>
    if h : values.length = n then some ⟨values.toArray, by simpa using h⟩ else none
  | _ => none

/-- A form with `n` fields. -/
def fieldMenu (n : Nat) : Dialog M E (Vector String n) := accept (fieldsOf n)

def itemOf (choices : List String) : Answer → Option String
  | .item name => if name ∈ choices then some name else none
  | _ => none

def checkboxSelectionMenu (ids : List String) : Dialog M E (List String) :=
  accept fun
    | .items names => if names ⊆ ids then some names else none
    | _ => none

/-- A list to which texts can be added, and from which they can be removed. -/
def collectListMenu : Dialog M E (List String) :=
  accept fun
    | .items names => some names
    | _ => none

def yesNoQuestion : Dialog M E Bool :=
  accept fun
    | .confirm yes => some yes
    | _ => none

/-- A text to be read, with an OK button. -/
def scrollableMessage : Dialog M E Unit :=
  accept fun
    | .confirm true => some ()
    | _ => none

/-- A message, after which the dialog stops. -/
def fatalMessage : Dialog M E α := raise .abort

/-- A menu without options stops the dialog. -/
def listMenu (choices : List String) : Dialog M E String :=
  if choices = [] then fatalMessage else accept (itemOf choices)

/-! ## Repeated prompts -/

/-- A form that is shown until a round takes its values. -/
def ask (n : Nat) (round : Vector String n → M → Except E (Option α) × M) : Dialog M E α :=
  fun s => go s.model s.script
where
  go (model : M) : List Answer → Except (Stop E) α × Session M
    | [] => (.error .waiting, ⟨model, []⟩)
    | .back :: rest => (.error .back, ⟨model, rest⟩)
    | .abort :: rest => (.error .abort, ⟨model, rest⟩)
    | answer :: rest =>
      match fieldsOf n answer with
      | none => (.error .waiting, ⟨model, rest⟩)
      | some values =>
        match round values model with
        | (.ok (some a), model) => (.ok a, ⟨model, rest⟩)
        | (.ok none, model) => go model rest
        | (.error e, model) => (.error (.thrown e), ⟨model, rest⟩)

/-- The round only looks at the values. -/
def askFor (n : Nat) (check : Vector String n → Option α) : Dialog M E α :=
  ask n fun values model => (.ok (check values), model)

/-- A part that is repeated until it yields a value. Every round takes an answer. -/
def retry (round : Dialog M E (Option α)) : Dialog M E α := fun s =>
  untilSome .waiting round (s.script.length + 1) s

/-! ## What a part of a dialog returns -/

theorem returns_next {answer : Answer} {s s' : Session M} :
    Returns (next : Dialog M E Answer) s answer s' ↔
      s = ⟨s'.model, answer :: s'.script⟩ ∧ answer ≠ .back ∧ answer ≠ .abort := by
  obtain ⟨m, script⟩ := s
  obtain ⟨m', script'⟩ := s'
  unfold Returns next
  cases script with
  | nil => simp
  | cons a rest =>
    cases a
    case back =>
      simp only [Prod.mk.injEq, reduceCtorEq, false_and, Session.mk.injEq, List.cons.injEq,
        false_iff]
      rintro ⟨⟨-, rfl, -⟩, hback, -⟩
      exact hback rfl
    case abort =>
      simp only [Prod.mk.injEq, reduceCtorEq, false_and, Session.mk.injEq, List.cons.injEq,
        false_iff]
      rintro ⟨⟨-, rfl, -⟩, -, habort⟩
      exact habort rfl
    all_goals
      simp only [Prod.mk.injEq, Except.ok.injEq, Session.mk.injEq, List.cons.injEq]
      constructor
      · rintro ⟨rfl, rfl, rfl⟩
        simp
      · rintro ⟨⟨rfl, rfl, rfl⟩, -⟩
        simp

theorem returns_accept {fits : Answer → Option α} {a : α} {s s' : Session M} :
    Returns (accept fits : Dialog M E α) s a s' ↔
      ∃ answer, s = ⟨s'.model, answer :: s'.script⟩ ∧ answer ≠ .back ∧ answer ≠ .abort ∧
        fits answer = some a := by
  unfold accept
  rw [returns_bind]
  constructor
  · rintro ⟨answer, s₁, hnext, h⟩
    obtain ⟨rfl, hback, habort⟩ := returns_next.mp hnext
    cases hfits : fits answer with
    | none =>
      rw [hfits] at h
      exact absurd h returns_raise
    | some b =>
      rw [hfits] at h
      obtain ⟨rfl, rfl⟩ := returns_pure.mp h
      exact ⟨answer, rfl, hback, habort, hfits⟩
  · rintro ⟨answer, rfl, hback, habort, hfits⟩
    refine ⟨answer, s', returns_next.mpr ⟨rfl, hback, habort⟩, ?_⟩
    rw [hfits]
    exact returns_pure.mpr ⟨rfl, rfl⟩

theorem returns_listMenu {choices : List String} {name : String} {s s' : Session M} :
    Returns (listMenu choices : Dialog M E String) s name s' ↔
      s = ⟨s'.model, .item name :: s'.script⟩ ∧ name ∈ choices := by
  unfold listMenu
  split
  · rename_i hempty
    simp [hempty, fatalMessage]
  · rw [returns_accept]
    constructor
    · rintro ⟨answer, rfl, -, -, hfits⟩
      cases answer with
      | item other =>
        dsimp only [itemOf] at hfits
        split at hfits
        · rename_i hmem
          obtain rfl := Option.some.inj hfits
          exact ⟨rfl, hmem⟩
        · cases hfits
      | _ => cases hfits
    · rintro ⟨rfl, hmem⟩
      exact ⟨.item name, rfl, by simp, by simp, if_pos hmem⟩

theorem returns_yesNoQuestion {yes : Bool} {s s' : Session M} :
    Returns (yesNoQuestion : Dialog M E Bool) s yes s' ↔
      s = ⟨s'.model, .confirm yes :: s'.script⟩ := by
  rw [yesNoQuestion, returns_accept]
  constructor
  · rintro ⟨answer, rfl, -, -, hfits⟩
    cases answer with
    | confirm other =>
      obtain rfl := Option.some.inj hfits
      rfl
    | _ => cases hfits
  · rintro rfl
    exact ⟨.confirm yes, rfl, by simp, by simp, rfl⟩

theorem returns_collectListMenu {names : List String} {s s' : Session M} :
    Returns (collectListMenu : Dialog M E (List String)) s names s' ↔
      s = ⟨s'.model, .items names :: s'.script⟩ := by
  rw [collectListMenu, returns_accept]
  constructor
  · rintro ⟨answer, rfl, -, -, hfits⟩
    cases answer with
    | items other =>
      obtain rfl := Option.some.inj hfits
      rfl
    | _ => cases hfits
  · rintro rfl
    exact ⟨.items names, rfl, by simp, by simp, rfl⟩

theorem returns_lift {x : Except E α} {a : α} {s s' : Session M} :
    Returns (lift x : Dialog M E α) s a s' ↔ x = .ok a ∧ s = s' := by
  cases x <;> simp [lift, Except.mapError]

theorem raises_lift {x : Except E α} {e : E} {s s' : Session M} :
    Raises (lift x : Dialog M E α) s (.thrown e) s' ↔ x = .error e ∧ s = s' := by
  cases x <;> simp [Raises, lift, Program.ofExcept, Except.mapError]

theorem returns_setModel {f : M → M} {u : Unit} {s s' : Session M} :
    Returns (setModel f : Dialog M E Unit) s u s' ↔ s' = { s with model := f s.model } := by
  simp [Returns, setModel, eq_comm]

theorem returns_getModel {m : M} {s s' : Session M} :
    Returns (getModel : Dialog M E M) s m s' ↔ m = s.model ∧ s' = s := by
  simp [Returns, getModel, eq_comm]

/-! ## What a repeated prompt returns -/

section Ask

variable {n : Nat} {round : Vector String n → M → Except E (Option α) × M}

/-- The rounds before the last one keep `P`; the last one starts in a model with `P`. -/
theorem returns_ask {P : M → Prop} {s s' : Session M} {a : α} (hs : P s.model)
    (hround : ∀ values model, P model → (round values model).1 = .ok none →
      P (round values model).2)
    (h : Returns (ask n round) s a s') :
    ∃ values model, P model ∧ round values model = (.ok (some a), s'.model) := by
  obtain ⟨m, script⟩ := s
  replace h : ask.go n round m script = (.ok a, s') := h
  fun_induction ask.go n round m script with
  | case1 => cases h
  | case2 => cases h
  | case3 => cases h
  | case4 => cases h
  | case5 model answer rest _ _ values hfields b model' hcase =>
    obtain ⟨rfl, rfl⟩ : b = a ∧ _ = s' := by simpa using h
    exact ⟨values, model, hs, hcase⟩
  | case6 model answer rest _ _ values hfields model' hcase ih =>
    have hnext := hround values model hs (by rw [hcase])
    rw [hcase] at hnext
    exact ih hnext h
  | case7 => cases h

theorem returns_askFor {check : Vector String n → Option α} {s s' : Session M} {a : α}
    (h : Returns (askFor n check : Dialog M E α) s a s') :
    s'.model = s.model ∧ ∃ values, check values = some a := by
  obtain ⟨values, model, hmodel, hround⟩ :=
    returns_ask (P := (· = s.model)) rfl (fun _ _ h _ => h) h
  obtain ⟨hcheck, hsame⟩ := Prod.mk.inj hround
  exact ⟨hsame.symm.trans hmodel, values, Except.ok.inj hcheck⟩

/-- The values of the first form that a check takes, and the answers after it. -/
def typed (n : Nat) (check : Vector String n → Option α) : List Answer → Option (α × List Answer)
  | [] => none
  | answer :: rest =>
    match (fieldsOf n answer).bind check with
    | some a => some (a, rest)
    | none => typed n check rest

theorem typed_map {check : Vector String n → Option α} (f : α → β) (script : List Answer) :
    typed n (fun values => (check values).map f) script =
      (typed n check script).map fun (a, rest) => (f a, rest) := by
  induction script with
  | nil => rfl
  | cons answer rest ih =>
    have hbind : ((fieldsOf n answer).bind fun values => (check values).map f) =
        ((fieldsOf n answer).bind check).map f := Option.map_bind.symm
    rw [typed, typed, hbind]
    cases (fieldsOf n answer).bind check with
    | none => exact ih
    | some a => rfl

theorem exists_of_typed {check : Vector String n → Option α} {script rest : List Answer} {a : α}
    (h : typed n check script = some (a, rest)) : ∃ values, check values = some a := by
  induction script with
  | nil => cases h
  | cons answer script ih =>
    rw [typed] at h
    split at h
    · rename_i b htaken
      obtain ⟨values, -, hvalues⟩ := Option.bind_eq_some_iff.mp htaken
      obtain ⟨rfl, -⟩ := Prod.mk.inj (Option.some.inj h)
      exact ⟨values, hvalues⟩
    · exact ih h

/-- A prompt that changes the model in its last round only. -/
theorem typed_of_returns_ask {check : M → Vector String n → Option (α × M)} {s s' : Session M}
    {a : α}
    (hcheck : ∀ values m a' m',
      round values m = (.ok (some a'), m') ↔ check m values = some (a', m'))
    (hsame : ∀ values m, (round values m).1 = .ok none → (round values m).2 = m)
    (h : Returns (ask n round) s a s') :
    typed n (check s.model) s.script = some ((a, s'.model), s'.script) := by
  obtain ⟨m, script⟩ := s
  replace h : ask.go n round m script = (.ok a, s') := h
  fun_induction ask.go n round m script with
  | case1 => cases h
  | case2 => cases h
  | case3 => cases h
  | case4 => cases h
  | case5 model answer rest _ _ values hfields b model' hcase =>
    obtain ⟨rfl, rfl⟩ : b = a ∧ _ = s' := by simpa using h
    have htaken : (fieldsOf n answer).bind (check model) = some (b, model') := by
      rw [hfields]
      exact (hcheck values model b model').mp hcase
    rw [typed, htaken]
  | case6 model answer rest _ _ values hfields model' hcase ih =>
    have hmodel : model' = model := by
      have hkept := hsame values model (by rw [hcase])
      rw [hcase] at hkept
      exact hkept
    have hrefused : (fieldsOf n answer).bind (check model) = none := by
      rw [hfields]
      by_contra hsome
      obtain ⟨⟨b, m⟩, hb⟩ := Option.ne_none_iff_exists'.mp hsome
      have hround := (hcheck values model b m).mpr hb
      rw [hcase] at hround
      cases hround
    subst hmodel
    rw [typed, hrefused]
    exact ih h
  | case7 => cases h

theorem typed_of_returns_askFor {check : Vector String n → Option α} {s s' : Session M} {a : α}
    (h : Returns (askFor n check : Dialog M E α) s a s') :
    typed n check s.script = some (a, s'.script) := by
  have hcheck : ∀ (values : Vector String n) (m : M) (a' : α) (m' : M),
      ((.ok (check values), m) : Except E (Option α) × M) = (.ok (some a'), m') ↔
        ((check values).map fun a => (a, m)) = some (a', m') := by
    intro values m a' m'
    cases check values with
    | none => simp
    | some b => simp
  have htyped := typed_of_returns_ask hcheck (fun _ _ _ => rfl) h
  rw [typed_map] at htyped
  obtain ⟨⟨b, rest⟩, hb, heq⟩ := Option.map_eq_some_iff.mp htyped
  obtain ⟨hpair, rfl⟩ := Prod.mk.inj heq
  obtain ⟨rfl, -⟩ := Prod.mk.inj hpair
  exact hb

end Ask

/-! ## Dialogs that throw nothing -/

/-- The dialog may stop at a prompt, but it throws no exception. -/
def Quiet (x : Dialog M E α) (s : Session M) : Prop := ∀ e s', ¬ Raises x s (.thrown e) s'

theorem quiet_pure (a : α) (s : Session M) : Quiet (pure a : Dialog M E α) s := by
  intro e s' h
  cases h

theorem quiet_bind {x : Dialog M E α} {f : α → Dialog M E β} {s : Session M} :
    Quiet (x >>= f) s ↔ Quiet x s ∧ ∀ a s', Returns x s a s' → Quiet (f a) s' := by
  unfold Quiet
  simp only [raises_bind, not_or, not_exists, not_and]
  constructor
  · intro h
    exact ⟨fun e s' => (h e s').1, fun a s₁ hx e s' => (h e s').2 a s₁ hx⟩
  · rintro ⟨hx, hf⟩ e s'
    exact ⟨hx e s', fun a s₁ hreturns => hf a s₁ hreturns e s'⟩

theorem quiet_lift {x : Except E α} {s : Session M} :
    Quiet (lift x : Dialog M E α) s ↔ ∃ a, x = .ok a := by
  cases x with
  | ok a =>
    refine iff_of_true ?_ ⟨a, rfl⟩
    intro e s' h
    cases h
  | error e =>
    refine iff_of_false ?_ (by simp)
    intro h
    exact h e s rfl

theorem quiet_getModel (s : Session M) : Quiet (getModel : Dialog M E M) s := by
  intro e s' h
  cases h

theorem quiet_setModel (f : M → M) (s : Session M) : Quiet (setModel f : Dialog M E Unit) s := by
  intro e s' h
  cases h

theorem quiet_fatalMessage (s : Session M) : Quiet (fatalMessage : Dialog M E α) s := by
  intro e s' h
  cases h

theorem quiet_next (s : Session M) : Quiet (next : Dialog M E Answer) s := by
  intro e s' h
  unfold Raises next at h
  split at h <;> cases h

theorem quiet_accept (fits : Answer → Option α) (s : Session M) :
    Quiet (accept fits : Dialog M E α) s := by
  refine quiet_bind.mpr ⟨quiet_next s, fun answer s' _ => ?_⟩
  split
  · exact quiet_pure _ _
  · intro e s' h
    cases h

theorem quiet_listMenu (choices : List String) (s : Session M) :
    Quiet (listMenu choices : Dialog M E String) s := by
  unfold listMenu
  split
  · exact quiet_fatalMessage s
  · exact quiet_accept _ s

section Ask

variable {n : Nat} {round : Vector String n → M → Except E (Option α) × M}

/-- What a repeated form is given, round after round, with the model at the time. -/
inductive Entered (round : Vector String n → M → Except E (Option α) × M) :
    M → List Answer → Vector String n → M → Prop
  | here {model : M} {answer : Answer} {rest : List Answer} {values : Vector String n}
      (hfields : fieldsOf n answer = some values) :
      Entered round model (answer :: rest) values model
  | later {model next m : M} {answer : Answer} {rest : List Answer} {first values : Vector String n}
      (hfields : fieldsOf n answer = some first) (hround : round first model = (.ok none, next))
      (hrest : Entered round next rest values m) :
      Entered round model (answer :: rest) values m

theorem quiet_ask {s : Session M}
    (h : ∀ values model, Entered round s.model s.script values model →
      ∃ a, (round values model).1 = .ok a) :
    Quiet (ask n round) s := by
  obtain ⟨m, script⟩ := s
  intro e s' hraises
  replace hraises : ask.go n round m script = (.error (.thrown e), s') := hraises
  fun_induction ask.go n round m script with
  | case1 => cases hraises
  | case2 => cases hraises
  | case3 => cases hraises
  | case4 => cases hraises
  | case5 => cases hraises
  | case6 model answer rest _ _ values hfields model' hcase ih =>
    refine ih ?_ hraises
    intro values' m hentered
    exact h values' m (.later hfields hcase hentered)
  | case7 model answer rest _ _ values hfields e' model' hcase =>
    obtain ⟨a, ha⟩ := h values model (.here hfields)
    rw [hcase] at ha
    cases ha

theorem quiet_askFor (check : Vector String n → Option α) (s : Session M) :
    Quiet (askFor n check : Dialog M E α) s :=
  quiet_ask fun _ _ _ => ⟨_, rfl⟩

end Ask

/-- The sessions in which the rounds of a repeated part begin. -/
inductive Repeats (round : Dialog M E (Option α)) (s : Session M) : Session M → Prop
  | first : Repeats round s s
  | again {s₁ s₂ : Session M} (hrest : Repeats round s s₁) (hround : Returns round s₁ none s₂) :
      Repeats round s s₂

theorem quiet_retry {round : Dialog M E (Option α)} {s : Session M}
    (h : ∀ s₁, Repeats round s s₁ → Quiet round s₁) : Quiet (retry round) s := by
  have hfuel : ∀ fuel s₁, Repeats round s s₁ → Quiet (untilSome .waiting round fuel) s₁ := by
    intro fuel
    induction fuel with
    | zero =>
      intro s₁ _ e s' hraises
      cases hraises
    | succ fuel ih =>
      intro s₁ hrepeats
      refine quiet_bind.mpr ⟨h s₁ hrepeats, ?_⟩
      intro r s₂ hround
      cases r with
      | none => exact ih s₂ (.again hrepeats hround)
      | some a => exact quiet_pure a s₂
  exact hfuel _ s .first

theorem quiet_each {β : Type} {body : β → Dialog M E Unit} {bs : List β}
    (h : ∀ b ∈ bs, ∀ s, Quiet (body b) s) (s : Session M) : Quiet (each body bs) s := by
  induction bs generalizing s with
  | nil => exact quiet_pure () s
  | cons b bs ih =>
    refine quiet_bind.mpr ⟨h b List.mem_cons_self s, ?_⟩
    intro u s' _
    exact ih (fun b hb => h b (List.mem_cons_of_mem _ hb)) s'

end Dialog

end Foundations
