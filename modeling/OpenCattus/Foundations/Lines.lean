import Mathlib.Data.List.Infix
import OpenCattus.Foundations.Text

/-!
# Lines of a text

A line ends with `'\n'`; the last one may do without. A text that ends with a line end is the
lines before it and nothing else, so that what is appended to it stands on lines of its own
(`linesOf_append`). Behind another text the first line is glued to the last one
(`linesOf_append_open`).
-/

namespace Foundations.Text

def linesOf : List Char → List (List Char)
  | [] => []
  | c :: cs => if c = '\n' then [] :: linesOf cs else consHead c (linesOf cs)

/-- Nothing, or a text with a line end at its end. -/
def Ended (t : List Char) : Prop := t = [] ∨ t.getLast? = some '\n'

instance (t : List Char) : Decidable (Ended t) := inferInstanceAs (Decidable (_ ∨ _))

/-- What stands behind the last line end. -/
def openLine (t : List Char) : List Char := (t.reverse.takeWhile (· ≠ '\n')).reverse

/-- The text up to its last line end. -/
def endedPart (t : List Char) : List Char := (t.reverse.dropWhile (· ≠ '\n')).reverse

variable {t u line rest : List Char}

theorem linesOf_ne_nil (h : t ≠ []) : linesOf t ≠ [] := by
  cases t with
  | nil => exact absurd rfl h
  | cons c cs =>
    unfold linesOf
    split
    · simp
    · cases linesOf cs <;> simp [consHead]

theorem ended_of_cons {c : Char} (h : Ended (c :: t)) : Ended t ∧ (t = [] → c = '\n') := by
  rcases h with h | h
  · cases h
  · cases t with
    | nil => exact ⟨.inl rfl, fun _ => by simpa using h⟩
    | cons d ds =>
      rw [List.getLast?_cons_cons] at h
      exact ⟨.inr h, fun hnil => by cases hnil⟩

theorem consHead_append (c : Char) {ls : List (List Char)} (h : ls ≠ []) (ms : List (List Char)) :
    consHead c (ls ++ ms) = consHead c ls ++ ms := by
  cases ls with
  | nil => exact absurd rfl h
  | cons l ls => rfl

/-- What follows a line end begins a line. -/
theorem linesOf_append (h : Ended t) (u : List Char) : linesOf (t ++ u) = linesOf t ++ linesOf u := by
  induction t with
  | nil => rfl
  | cons c cs ih =>
    obtain ⟨hcs, hlast⟩ := ended_of_cons h
    rw [List.cons_append, linesOf, linesOf, ih hcs]
    by_cases hc : c = '\n'
    · rw [if_pos hc, if_pos hc, List.cons_append]
    · rw [if_neg hc, if_neg hc]
      exact consHead_append c (linesOf_ne_nil fun hnil => hc (hlast hnil)) _

theorem linesOf_line (h : '\n' ∉ line) (rest : List Char) :
    linesOf (line ++ '\n' :: rest) = line :: linesOf rest := by
  induction line with
  | nil => simp [linesOf]
  | cons c cs ih =>
    rw [List.mem_cons, not_or] at h
    rw [List.cons_append, linesOf, if_neg (Ne.symm h.1), ih h.2]
    rfl

theorem linesOf_open (h : '\n' ∉ line) (hne : line ≠ []) : linesOf line = [line] := by
  induction line with
  | nil => exact absurd rfl hne
  | cons c cs ih =>
    rw [List.mem_cons, not_or] at h
    rw [linesOf, if_neg (Ne.symm h.1)]
    by_cases hcs : cs = []
    · subst hcs
      rfl
    · rw [ih h.2 hcs]
      rfl

theorem endedPart_append_openLine (t : List Char) : endedPart t ++ openLine t = t := by
  rw [endedPart, openLine, ← List.reverse_append, List.takeWhile_append_dropWhile,
    List.reverse_reverse]

theorem lineEnd_notMem_openLine (t : List Char) : '\n' ∉ openLine t := by
  unfold openLine
  rw [List.mem_reverse]
  intro h
  simpa using List.mem_takeWhile_imp h

theorem ended_endedPart (t : List Char) : Ended (endedPart t) := by
  unfold endedPart
  cases hrest : t.reverse.dropWhile (· ≠ '\n') with
  | nil => exact .inl rfl
  | cons c cs =>
    have hc : ¬ (decide (c ≠ '\n') = true) := by
      have hhead := List.head?_dropWhile_not (· ≠ '\n') t.reverse
      rw [hrest] at hhead
      simpa using hhead
    refine .inr ?_
    rw [List.reverse_cons, List.getLast?_concat]
    simpa using hc

theorem openLine_eq_nil_iff : openLine t = [] ↔ Ended t := by
  constructor
  · intro h
    have hparts := endedPart_append_openLine t
    rw [h, List.append_nil] at hparts
    rw [← hparts]
    exact ended_endedPart t
  · intro h
    unfold openLine
    rcases h with rfl | hlast
    · rfl
    · rw [List.getLast?_eq_head?_reverse] at hlast
      cases hreverse : t.reverse with
      | nil => rfl
      | cons c cs =>
        rw [hreverse, List.head?_cons, Option.some_inj] at hlast
        simp [hlast]

/-- What is appended goes on with the open line. -/
theorem linesOf_append_open (t : List Char) (hline : '\n' ∉ line) (rest : List Char) :
    linesOf (t ++ (line ++ '\n' :: rest)) =
      linesOf (endedPart t) ++ (openLine t ++ line) :: linesOf rest := by
  have hclean : '\n' ∉ openLine t ++ line := by
    rw [List.mem_append, not_or]
    exact ⟨lineEnd_notMem_openLine t, hline⟩
  conv_lhs => rw [← endedPart_append_openLine t]
  rw [List.append_assoc, linesOf_append (ended_endedPart t), ← List.append_assoc,
    linesOf_line hclean]

theorem linesOf_of_not_ended (h : ¬ Ended t) : linesOf t = linesOf (endedPart t) ++ [openLine t] := by
  have hne : openLine t ≠ [] := fun hnil => h (openLine_eq_nil_iff.mp hnil)
  conv_lhs => rw [← endedPart_append_openLine t]
  rw [linesOf_append (ended_endedPart t), linesOf_open (lineEnd_notMem_openLine t) hne]

/-- Lines that are written one after the other are read as they were. -/
theorem linesOf_flatMap {ls : List (List Char)} (h : ∀ l ∈ ls, '\n' ∉ l) :
    linesOf (ls.flatMap (· ++ ['\n'])) = ls := by
  induction ls with
  | nil => rfl
  | cons l ls ih =>
    obtain ⟨hl, hls⟩ := List.forall_mem_cons.mp h
    rw [List.flatMap_cons, List.append_assoc, List.singleton_append, linesOf_line hl, ih hls]

/-- A text of complete lines is a first line and the text of the others. -/
theorem exists_first_line (hne : t ≠ []) (h : Ended t) :
    ∃ line rest, t = line ++ '\n' :: rest ∧ '\n' ∉ line := by
  induction t with
  | nil => exact absurd rfl hne
  | cons c cs ih =>
    obtain ⟨hcs, hlast⟩ := ended_of_cons h
    by_cases hc : c = '\n'
    · exact ⟨[], cs, by rw [hc]; rfl, by simp⟩
    · obtain ⟨line, rest, rfl, hline⟩ := ih (fun hnil => hc (hlast hnil)) hcs
      exact ⟨c :: line, rest, rfl, by simp [hline, Ne.symm hc]⟩

end Foundations.Text
