import Mathlib.Data.List.Basic
import Mathlib.Data.List.Pairwise
import Mathlib.Logic.Function.Basic
import Mathlib.Tactic.Common

/-!
# Guarded additions to files

A file is a list of lines. An addition appends its line to its file, unless its key is found in
one of the lines there. A script makes its additions one after another.

`complete_and_stable_iff` says when a script leaves all its lines in the files and changes
nothing the next time: every addition has to be `Settled` in the file that it starts from. This
takes additions that do not find each other (`Independent`). A key can be a basic regular
expression (`grep`).
-/

namespace Foundations

variable {P K L : Type}

structure Addition (P K L : Type) where
  path : P
  key : K
  line : L
  deriving DecidableEq, Repr

namespace Additions

variable [DecidableEq P] (found : K → L → Bool)

def add (files : P → List L) (a : Addition P K L) : P → List L :=
  if (files a.path).any (found a.key) then files
  else Function.update files a.path (files a.path ++ [a.line])

def addAll (files : P → List L) (as : List (Addition P K L)) : P → List L :=
  as.foldl (add found) files

/-- Two additions to one file do not find each other, and add different lines. -/
def Apart (a b : Addition P K L) : Prop :=
  a.path = b.path → found a.key b.line = false ∧ found b.key a.line = false ∧ a.line ≠ b.line

def Independent (as : List (Addition P K L)) : Prop := as.Pairwise (Apart found)

/-- The key is found only if the line is there, and it is found at the latest in the line. -/
structure Settled (a : Addition P K L) (lines : List L) : Prop where
  present : lines.any (found a.key) = true → a.line ∈ lines
  recognized : lines.any (found a.key) = true ∨ found a.key a.line = true

instance [DecidableEq L] (a b : Addition P K L) : Decidable (Apart found a b) :=
  inferInstanceAs (Decidable (_ → _))

/-! ## What additions leave -/

variable {found} {files : P → List L} {as : List (Addition P K L)}

theorem addAll_cons (a : Addition P K L) :
    addAll found files (a :: as) = addAll found (add found files a) as := rfl

theorem mem_add {a : Addition P K L} {p : P} {l : L} :
    l ∈ add found files a p ↔
      l ∈ files p ∨ (a.path = p ∧ l = a.line ∧ (files p).any (found a.key) = false) := by
  unfold add
  by_cases hfound : (files a.path).any (found a.key) = true
  · rw [if_pos hfound]
    constructor
    · exact .inl
    · rintro (hl | ⟨rfl, -, hnot⟩)
      · exact hl
      · rw [hfound] at hnot
        cases hnot
  · rw [if_neg hfound]
    by_cases hp : a.path = p
    · subst hp
      rw [Function.update_self, List.mem_append, List.mem_singleton]
      simp [Bool.eq_false_iff.mpr hfound]
    · rw [Function.update_of_ne (Ne.symm hp)]
      simp [hp]

/-- A key that is not in the added line is found where it was found before. -/
theorem any_add {a : Addition P K L} {p : P} {key : K}
    (h : a.path = p → found key a.line = false) :
    (add found files a p).any (found key) = (files p).any (found key) := by
  rw [Bool.eq_iff_iff, List.any_eq_true, List.any_eq_true]
  constructor
  · rintro ⟨l, hl, hkey⟩
    rcases mem_add.mp hl with hl | ⟨hp, rfl, -⟩
    · exact ⟨l, hl, hkey⟩
    · rw [h hp] at hkey
      cases hkey
  · rintro ⟨l, hl, hkey⟩
    exact ⟨l, mem_add.mpr (.inl hl), hkey⟩

/-- Every addition acts as if it were the only one. -/
theorem mem_addAll (h : Independent found as) {p : P} {l : L} :
    l ∈ addAll found files as p ↔
      l ∈ files p ∨
        ∃ a ∈ as, a.path = p ∧ l = a.line ∧ (files p).any (found a.key) = false := by
  induction as generalizing files with
  | nil => simp [addAll]
  | cons a as ih =>
    obtain ⟨ha, has⟩ := List.pairwise_cons.mp h
    have hlater : ∀ b ∈ as, b.path = p →
        (add found files a p).any (found b.key) = (files p).any (found b.key) := by
      intro b hb hp
      refine any_add fun hap => ?_
      exact (ha b hb (hap.trans hp.symm)).2.1
    rw [addAll_cons, ih has, mem_add]
    constructor
    · rintro ((hl | hl) | ⟨b, hb, hp, hl, hnot⟩)
      · exact .inl hl
      · exact .inr ⟨a, List.mem_cons_self .., hl⟩
      · exact .inr ⟨b, List.mem_cons_of_mem _ hb, hp, hl, hlater b hb hp ▸ hnot⟩
    · rintro (hl | ⟨b, hb, hp, hl, hnot⟩)
      · exact .inl (.inl hl)
      · rcases List.mem_cons.mp hb with rfl | hb
        · exact .inl (.inr ⟨hp, hl, hnot⟩)
        · exact .inr ⟨b, hb, hp, hl, (hlater b hb hp).trans hnot⟩

omit [DecidableEq P] in
theorem apart_comm {a b : Addition P K L} (h : Apart found a b) : Apart found b a := by
  intro hp
  obtain ⟨hab, hba, hne⟩ := h hp.symm
  exact ⟨hba, hab, hne.symm⟩

omit [DecidableEq P] in
/-- Two different additions of a script are apart. -/
theorem Independent.apart (h : Independent found as) {a b : Addition P K L} (ha : a ∈ as)
    (hb : b ∈ as) (hne : a ≠ b) : Apart found a b :=
  have : Std.Symm (Apart (P := P) found) := ⟨fun _ _ => apart_comm⟩
  List.Pairwise.forall h ha hb hne

/-! ## Complete and stable scripts -/

theorem mem_line_addAll_iff (h : Independent found as) {a : Addition P K L} (ha : a ∈ as) :
    a.line ∈ addAll found files as a.path ↔
      ((files a.path).any (found a.key) = true → a.line ∈ files a.path) := by
  rw [mem_addAll h]
  constructor
  · rintro (hl | ⟨b, hb, hp, hl, hnot⟩) hfound
    · exact hl
    · by_cases hab : a = b
      · subst hab
        rw [hfound] at hnot
        cases hnot
      · exact absurd hl (h.apart ha hb hab hp.symm).2.2
  · intro hl
    by_cases hfound : (files a.path).any (found a.key) = true
    · exact .inl (hl hfound)
    · exact .inr ⟨a, ha, rfl, rfl, Bool.eq_false_iff.mpr hfound⟩

theorem any_addAll_iff (h : Independent found as) {a : Addition P K L} (ha : a ∈ as) :
    (addAll found files as a.path).any (found a.key) = true ↔
      (files a.path).any (found a.key) = true ∨ found a.key a.line = true := by
  rw [List.any_eq_true]
  constructor
  · rintro ⟨l, hl, hkey⟩
    rcases (mem_addAll h).mp hl with hl | ⟨b, hb, hp, rfl, -⟩
    · exact .inl (List.any_eq_true.mpr ⟨l, hl, hkey⟩)
    · by_cases hab : a = b
      · exact .inr (hab ▸ hkey)
      · rw [(h.apart ha hb hab hp.symm).1] at hkey
        cases hkey
  · intro hkey
    by_cases hfound : (files a.path).any (found a.key) = true
    · obtain ⟨l, hl, hkey⟩ := List.any_eq_true.mp hfound
      exact ⟨l, (mem_addAll h).mpr (.inl hl), hkey⟩
    · exact ⟨a.line, (mem_addAll h).mpr (.inr ⟨a, ha, rfl, rfl, Bool.eq_false_iff.mpr hfound⟩),
        hkey.resolve_left hfound⟩

theorem length_le_addAll (files : P → List L) (as : List (Addition P K L)) (p : P) :
    (files p).length ≤ (addAll found files as p).length := by
  induction as generalizing files with
  | nil => exact Nat.le_refl _
  | cons a as ih =>
    refine Nat.le_trans ?_ (ih (add found files a))
    unfold add
    split
    · exact Nat.le_refl _
    · by_cases hp : a.path = p
      · subst hp
        rw [Function.update_self, List.length_append]
        exact Nat.le_add_right _ _
      · exact Nat.le_of_eq (congrArg List.length (Function.update_of_ne (Ne.symm hp) _ _).symm)

/-- Nothing is added exactly when every key is found. -/
theorem addAll_eq_self_iff :
    addAll found files as = files ↔ ∀ a ∈ as, (files a.path).any (found a.key) = true := by
  induction as generalizing files with
  | nil => simp [addAll]
  | cons a as ih =>
    rw [addAll_cons, List.forall_mem_cons]
    by_cases hfound : (files a.path).any (found a.key) = true
    · rw [add, if_pos hfound, ih, and_iff_right hfound]
    · refine iff_of_false ?_ fun h => hfound h.1
      intro hsame
      have hlength : (add found files a a.path).length ≤
          (addAll found (add found files a) as a.path).length := length_le_addAll _ as a.path
      rw [hsame, add, if_neg hfound, Function.update_self, List.length_append,
        List.length_singleton] at hlength
      omega

/-- All lines are there after a run, and the next run adds nothing. -/
theorem complete_and_stable_iff (h : Independent found as) :
    ((∀ a ∈ as, a.line ∈ addAll found files as a.path) ∧
      addAll found (addAll found files as) as = addAll found files as) ↔
      ∀ a ∈ as, Settled found a (files a.path) := by
  rw [addAll_eq_self_iff]
  constructor
  · rintro ⟨hlines, hkeys⟩ a ha
    exact ⟨(mem_line_addAll_iff h ha).mp (hlines a ha), (any_addAll_iff h ha).mp (hkeys a ha)⟩
  · intro hsettled
    refine ⟨fun a ha => ?_, fun a ha => ?_⟩
    · exact (mem_line_addAll_iff h ha).mpr (hsettled a ha).present
    · exact (any_addAll_iff h ha).mpr (hsettled a ha).recognized

end Additions

/-! ## Keys of grep -/

/-- A character that stands for itself in a basic regular expression. -/
def isKeyText (c : Char) : Bool :=
  !(c == '.' || c == '*' || c == '[' || c == '\\' || c == '^' || c == '$')

inductive KeyItem where
  | char (c : Char)
  | space
  deriving DecidableEq, Repr

namespace KeyItem

def fits : KeyItem → Char → Bool
  | .char c, d => c == d
  | .space, d => d == ' ' || (9 ≤ d.toNat && d.toNat ≤ 13)

def parse : List Char → Option (List KeyItem)
  | [] => some []
  | '[' :: '[' :: ':' :: 's' :: 'p' :: 'a' :: 'c' :: 'e' :: ':' :: ']' :: ']' :: cs =>
    (parse cs).map (.space :: ·)
  | c :: cs => if isKeyText c then (parse cs).map (.char c :: ·) else none

def begin : List KeyItem → List Char → Bool
  | [], _ => true
  | _ :: _, [] => false
  | item :: items, c :: cs => item.fits c && begin items cs

def occur (items : List KeyItem) : List Char → Bool
  | [] => begin items []
  | c :: cs => begin items (c :: cs) || occur items cs

end KeyItem

/-- The key is found in the line. An expression with repetitions or other classes is not read,
and never found. -/
def grep (key line : String) : Bool :=
  match key.toList with
  | '^' :: cs => (KeyItem.parse cs).any fun items => KeyItem.begin items line.toList
  | cs => (KeyItem.parse cs).any fun items => KeyItem.occur items line.toList

example : grep "^/home[[:space:]]" "/home\t*(rw)" = true ∧ grep "^/home[[:space:]]" "/homes" = false
    ∧ grep "home-map" "* home-map" = true := by
  decide

end Foundations
