import OpenCattus.DiskImage

/-!
# Wrapped lines

The view wraps the text of a scrollable message. A line that is too long is cut at a space, and what
is left goes on behind an indentation. A word that is longer than the room behind the indentation
is never cut: the loop of `wrapLine` then goes on forever and adds to its result, until there is
no memory.

`isSome_wrapLine` says when the loop ends, word by word.
-/

namespace OpenCattus.Newt

def space : UInt8 := 32

def newline : UInt8 := 10

/-- `rfind(' ', pos)`. -/
def rfindSpace : Nat → List UInt8 → Option Nat
  | _, [] => none
  | 0, c :: _ => if c = space then some 0 else none
  | pos + 1, c :: cs =>
    match rfindSpace pos cs with
    | some found => some (found + 1)
    | none => if c = space then some 0 else none

def leadingSpaces (line : List UInt8) : Nat := (line.takeWhile (· = space)).length

/-- Where a line is cut: at the last space that fits, or else at the width. -/
def splitOf (width : Nat) (remaining : List UInt8) : Nat :=
  match rfindSpace width remaining with
  | none | some 0 => width
  | some split => split

/-- What is left of a line in the next round. -/
def restOf (width indent : Nat) (remaining : List UInt8) : List UInt8 :=
  List.replicate indent space ++
    (remaining.drop (splitOf width remaining + 1)).dropWhile (· = space)

/-- The rounds of `wrapLine`, at most `fuel`; `none` when they go on. -/
def wrapRounds (width indent : Nat) : Nat → List UInt8 → Option (List UInt8)
  | 0, _ => none
  | fuel + 1, remaining =>
    if remaining.length ≤ width then some remaining
    else
      (wrapRounds width indent fuel (restOf width indent remaining)).map
        (remaining.take (splitOf width remaining) ++ newline :: ·)

/-- `wrapLine`; `none` when it does not end. A round that does not bring the end nearer is
repeated forever, so the length bounds the rounds of a loop that ends. -/
def wrapLine (line : List UInt8) (width : Nat) : Option (List UInt8) :=
  if line.length ≤ width ∨ width = 0 then some line
  else wrapRounds width (leadingSpaces line + 2) (line.length + 1) line

def wrapText (text : List UInt8) (width : Nat) : Option (List UInt8) :=
  ((text.splitOn newline).mapM (wrapLine · width)).map (List.intercalate [newline])

def scrollableBodyWidth (columns : Nat) : Nat := max 24 (columns - 18)

/-! ## Words -/

def words (line : List UInt8) : List (List UInt8) := (line.splitOn space).filter (· ≠ [])

/-- What is left of a line that is too long has no word that is longer than the room behind the
indentation. -/
def WordsFit (width : Nat) (line : List UInt8) : Prop :=
  leadingSpaces line + 2 ≤ width ∧
    ∀ word ∈ words (line.drop (splitOf width line + 1)),
      leadingSpaces line + 2 + word.length ≤ width

/-- The line is short enough, or what is left of it fits. -/
def LineFits (width : Nat) (line : List UInt8) : Prop :=
  line.length ≤ width ∨ width = 0 ∨ WordsFit width line

instance (width : Nat) (line : List UInt8) : Decidable (WordsFit width line) :=
  inferInstanceAs (Decidable (_ ∧ ∀ word ∈ words _, _))

instance (width : Nat) (line : List UInt8) : Decidable (LineFits width line) :=
  inferInstanceAs (Decidable (_ ∨ _ ∨ _))

section Words

variable {line text before after : List UInt8}

theorem words_append_space (before after : List UInt8) :
    words (before ++ space :: after) = words before ++ words after := by
  unfold words
  rw [List.splitOn_eq_splitOnP, List.splitOnP_append_cons _ _ (by decide), List.filter_append]
  rfl

theorem words_cons_space (after : List UInt8) : words (space :: after) = words after :=
  words_append_space [] after

theorem words_dropWhile (text : List UInt8) : words (text.dropWhile (· = space)) = words text := by
  induction text with
  | nil => rfl
  | cons c cs ih =>
    by_cases hc : c = space
    · subst hc
      rw [List.dropWhile_cons_of_pos (by decide), words_cons_space, ih]
    · rw [List.dropWhile_cons_of_neg (by simpa using hc)]

theorem length_le_of_mem_words {word : List UInt8} (h : word ∈ words line) :
    word.length ≤ line.length := by
  have hpiece : ∀ line : List UInt8, ∀ piece ∈ line.splitOn space, piece.length ≤ line.length := by
    intro line
    induction line with
    | nil => simp
    | cons c cs ih =>
      intro piece hmem
      rw [List.splitOn_cons_eq_if_modifyHead] at hmem
      split at hmem
      · rcases List.mem_cons.mp hmem with rfl | hmem
        · simp
        · exact (ih piece hmem).trans (Nat.le_succ _)
      · obtain ⟨first, rest, hsplit⟩ := List.exists_cons_of_ne_nil (List.splitOn_ne_nil space cs)
        rw [hsplit] at hmem ih
        rcases List.mem_cons.mp hmem with rfl | hmem
        · exact Nat.succ_le_succ (ih first List.mem_cons_self)
        · exact (ih piece (List.mem_cons_of_mem _ hmem)).trans (Nat.le_succ _)
  exact hpiece line word (List.mem_of_mem_filter h)

theorem words_of_not_mem (h : space ∉ text) (hne : text ≠ []) : words text = [text] := by
  have hsplit : text.splitOn space = [text] := by
    rw [List.splitOn_eq_splitOnP]
    refine List.splitOnP_eq_singleton fun c hc => ?_
    simpa using fun heq : c = space => h (heq ▸ hc)
  rw [words, hsplit, List.filter_cons_of_pos (by simpa using hne), List.filter_nil]

/-- A text that does not begin with a space begins with a word. -/
theorem exists_first_word (hhead : text.head? ≠ some space) (hne : text ≠ []) :
    ∃ word ∈ words text, text = word ∨ ∃ after, text = word ++ space :: after := by
  have hfirst : space ∉ text.takeWhile (· ≠ space) := fun hmem => by
    simpa using List.mem_takeWhile_imp hmem
  have hword : text.takeWhile (· ≠ space) ≠ [] := by
    cases text with
    | nil => exact absurd rfl hne
    | cons c cs =>
      rw [List.takeWhile_cons_of_pos (by simpa using hhead)]
      exact List.cons_ne_nil _ _
  have htext := List.takeWhile_append_dropWhile (p := (· ≠ space)) (l := text)
  have hhead' := List.head?_dropWhile_not (· ≠ space) text
  generalize text.takeWhile (· ≠ space) = word at hfirst hword htext
  rcases hrest : text.dropWhile (· ≠ space) with _ | ⟨c, after⟩
  · rw [hrest, List.append_nil] at htext
    subst htext
    exact ⟨word, by simp [words_of_not_mem hfirst hword], .inl rfl⟩
  · rw [hrest] at htext hhead'
    obtain rfl : c = space := by simpa using hhead'
    refine ⟨word, ?_, .inr ⟨after, htext.symm⟩⟩
    rw [← htext, words_append_space, words_of_not_mem hfirst hword]
    exact List.mem_append_left _ (List.mem_singleton_self _)

end Words

/-! ## The last space -/

section LastSpace

variable {pos i : Nat} {cs : List UInt8}

theorem rfindSpace_eq_none (h : rfindSpace pos cs = none) :
    ∀ j ≤ pos, cs[j]? ≠ some space := by
  fun_induction rfindSpace pos cs with
  | case1 => simp
  | case2 => cases h
  | case3 c cs hc =>
    intro j hj
    obtain rfl := Nat.le_zero.mp hj
    simpa using hc
  | case4 => cases h
  | case5 => cases h
  | case6 pos c cs hnone hc ih =>
    intro j hj
    cases j with
    | zero => simpa using hc
    | succ j => simpa using ih hnone j (Nat.le_of_succ_le_succ hj)

theorem rfindSpace_eq_some (h : rfindSpace pos cs = some i) :
    i ≤ pos ∧ cs[i]? = some space ∧ ∀ j, i < j → j ≤ pos → cs[j]? ≠ some space := by
  fun_induction rfindSpace pos cs generalizing i with
  | case1 => cases h
  | case2 =>
    obtain rfl := Option.some.inj h
    exact ⟨le_rfl, by simp, fun j hlt hle => absurd (hlt.trans_le hle) (lt_irrefl 0)⟩
  | case3 => cases h
  | case4 pos c cs found hfound ih =>
    obtain rfl := Option.some.inj h
    obtain ⟨hle, hspace, hlast⟩ := ih hfound
    refine ⟨Nat.succ_le_succ hle, by simpa using hspace, fun j hlt hj => ?_⟩
    obtain ⟨j, rfl⟩ := Nat.exists_eq_succ_of_ne_zero (Nat.ne_of_gt (Nat.zero_lt_of_lt hlt))
    simpa using hlast j (Nat.lt_of_succ_lt_succ hlt) (Nat.le_of_succ_le_succ hj)
  | case5 pos cs hnone =>
    obtain rfl := Option.some.inj h
    refine ⟨Nat.zero_le _, by simp, fun j hlt hj => ?_⟩
    obtain ⟨j, rfl⟩ := Nat.exists_eq_succ_of_ne_zero (Nat.ne_of_gt hlt)
    simpa using rfindSpace_eq_none hnone j (Nat.le_of_succ_le_succ hj)
  | case6 => cases h

end LastSpace

/-! ## The rounds -/

section Rounds

variable {width indent fuel : Nat} {line text : List UInt8}

/-- A round that leaves the line as it was goes on forever. -/
theorem wrapRounds_of_stuck (hlong : width < line.length) (hstuck : restOf width indent line = line) :
    wrapRounds width indent fuel line = none := by
  induction fuel with
  | zero => rfl
  | succ fuel ih => rw [wrapRounds, if_neg (Nat.not_le.mpr hlong), hstuck, ih, Option.map_none]

theorem isSome_wrapRounds_succ (hlong : width < line.length) :
    (wrapRounds width indent (fuel + 1) line).isSome =
      (wrapRounds width indent fuel (restOf width indent line)).isSome := by
  rw [wrapRounds, if_neg (Nat.not_le.mpr hlong), Option.isSome_map]

theorem head?_dropWhile_space (text : List UInt8) :
    (text.dropWhile (· = space)).head? ≠ some space := by
  intro hhead
  have h := List.head?_dropWhile_not (· = space) text
  rw [hhead] at h
  simp at h

theorem dropWhile_replicate_append (n : Nat) (hhead : text.head? ≠ some space) :
    (List.replicate n space ++ text).dropWhile (· = space) = text := by
  induction n with
  | zero =>
    rw [List.replicate_zero, List.nil_append]
    cases text with
    | nil => rfl
    | cons c cs => exact List.dropWhile_cons_of_neg (by simpa using hhead)
  | succ n ih => rw [List.replicate_succ, List.cons_append, List.dropWhile_cons_of_pos (by simp), ih]

/-- A line that begins with two spaces is cut at its last space that fits. -/
theorem splitOf_spec (width : Nat) (hfirst : text[0]? = some space)
    (hsecond : text[1]? = some space) :
    splitOf width text ≤ width ∧ text[splitOf width text]? = some space ∧
      ∀ j, splitOf width text < j → j ≤ width → text[j]? ≠ some space := by
  unfold splitOf
  split
  · rename_i hnone
    exact absurd hfirst (rfindSpace_eq_none hnone 0 (Nat.zero_le _))
  · rename_i hzero
    obtain ⟨-, -, hlast⟩ := rfindSpace_eq_some hzero
    have hwidth : width = 0 := by
      by_contra hne
      exact hlast 1 Nat.one_pos (Nat.one_le_iff_ne_zero.mpr hne) hsecond
    subst hwidth
    exact ⟨le_rfl, hfirst, hlast⟩
  · rename_i split _ hsplit
    exact rfindSpace_eq_some hsplit

/-- The rest of a line that is cut within its indentation is the line. -/
theorem restOf_of_lt (hhead : text.head? ≠ some space)
    (hlt : splitOf width (List.replicate indent space ++ text) < indent) :
    restOf width indent (List.replicate indent space ++ text) =
      List.replicate indent space ++ text := by
  unfold restOf
  generalize splitOf width (List.replicate indent space ++ text) = split at hlt
  rw [List.drop_append_of_le_length (by rw [List.length_replicate]; exact hlt),
    List.drop_replicate, dropWhile_replicate_append _ hhead]

theorem getElem?_indentation (text : List UInt8) {i : Nat} (h : i < indent) :
    (List.replicate indent space ++ text)[i]? = some space := by
  rw [List.getElem?_append_left (by simpa using h), List.getElem?_replicate_of_lt h]

/-- A line that is cut behind its indentation gets shorter. -/
theorem restOf_of_le (hindent : 2 ≤ indent)
    (hle : indent ≤ splitOf width (List.replicate indent space ++ text)) :
    ∃ k, indent + k ≤ width ∧ k < text.length ∧
      restOf width indent (List.replicate indent space ++ text) =
        List.replicate indent space ++ (text.drop (k + 1)).dropWhile (· = space) ∧
      words text = words (text.take k) ++ words (text.drop (k + 1)) := by
  obtain ⟨hwidth, hspace, -⟩ := splitOf_spec width
    (getElem?_indentation text (by omega : 0 < indent)) (getElem?_indentation text hindent)
  unfold restOf
  generalize splitOf width (List.replicate indent space ++ text) = split at hle hwidth hspace
  obtain ⟨k, rfl⟩ := Nat.exists_eq_add_of_le hle
  rw [List.getElem?_append_right (by simp), List.length_replicate,
    Nat.add_sub_cancel_left] at hspace
  obtain ⟨hlt, hget⟩ := List.getElem?_eq_some_iff.mp hspace
  refine ⟨k, hwidth, hlt, ?_, ?_⟩
  · rw [List.drop_append, List.length_replicate, List.drop_eq_nil_of_le (by simp; omega),
      List.nil_append, show indent + k + 1 - indent = k + 1 by omega]
  · rw [← words_append_space, ← hget, List.cons_getElem_drop_succ, List.take_append_drop]

/-- The first word of a line that is cut within its indentation is too long. -/
theorem not_fit_of_lt (hindent : 2 ≤ indent) (hhead : text.head? ≠ some space)
    (hlong : width < indent + text.length)
    (hlt : splitOf width (List.replicate indent space ++ text) < indent) :
    ¬ (indent ≤ width ∧ ∀ word ∈ words text, indent + word.length ≤ width) := by
  rintro ⟨hroom, hfits⟩
  have hne : text ≠ [] := by
    rintro rfl
    exact absurd hlong (Nat.not_lt.mpr hroom)
  obtain ⟨word, hmem, rfl | ⟨after, rfl⟩⟩ := exists_first_word hhead hne
  · exact absurd (hfits _ hmem) (Nat.not_le.mpr hlong)
  · obtain ⟨-, -, hlast⟩ := splitOf_spec width
      (getElem?_indentation (word ++ space :: after) (by omega : 0 < indent))
      (getElem?_indentation (word ++ space :: after) hindent)
    refine hlast (indent + word.length) (by omega) (hfits _ hmem) ?_
    rw [List.getElem?_append_right (by simp), List.length_replicate, Nat.add_sub_cancel_left,
      List.getElem?_append_right le_rfl, Nat.sub_self]
    rfl

/-- The rounds behind the first one, in which the line begins with the indentation. A line is stuck
when the last space that fits belongs to the indentation. -/
theorem isSome_wrapRounds (hindent : 2 ≤ indent) (hhead : text.head? ≠ some space)
    (hfuel : text.length < fuel) :
    (wrapRounds width indent fuel (List.replicate indent space ++ text)).isSome = true ↔
      indent ≤ width ∧ ∀ word ∈ words text, indent + word.length ≤ width := by
  induction fuel generalizing text with
  | zero => exact absurd hfuel (Nat.not_lt_zero _)
  | succ fuel ih =>
    have hlength : (List.replicate indent space ++ text).length = indent + text.length := by simp
    rcases Nat.lt_or_ge width (indent + text.length) with hlong | hshort
    · rcases Nat.lt_or_ge (splitOf width (List.replicate indent space ++ text)) indent with
        hlt | hge
      · rw [wrapRounds_of_stuck (hlength ▸ hlong) (restOf_of_lt hhead hlt)]
        exact iff_of_false (by simp) (not_fit_of_lt hindent hhead hlong hlt)
      · rw [isSome_wrapRounds_succ (hlength ▸ hlong)]
        obtain ⟨k, hle, hlt, hrest, hwords⟩ := restOf_of_le hindent hge
        have hshorter : ((text.drop (k + 1)).dropWhile (· = space)).length < fuel := by
          have hdrop := List.length_dropWhile_le (· = space) (text.drop (k + 1))
          rw [List.length_drop] at hdrop
          omega
        have hkept : ∀ word ∈ words (text.take k), indent + word.length ≤ width := by
          intro word hmem
          have hword := length_le_of_mem_words hmem
          rw [List.length_take] at hword
          omega
        rw [hrest, ih (head?_dropWhile_space _) hshorter, words_dropWhile, hwords]
        simp only [List.mem_append, or_imp, forall_and]
        exact and_congr_right fun _ => ⟨fun h => ⟨hkept, h⟩, And.right⟩
    · refine iff_of_true ?_ ⟨(Nat.le_add_right _ _).trans hshort, fun word hmem => ?_⟩
      · rw [wrapRounds, if_pos (hlength ▸ hshort)]
        rfl
      · exact (Nat.add_le_add_left (length_le_of_mem_words hmem) _).trans hshort

/-- The loop ends for a line that fits, and for no other. -/
theorem isSome_wrapLine (line : List UInt8) (width : Nat) :
    (wrapLine line width).isSome = true ↔ LineFits width line := by
  unfold wrapLine LineFits
  rcases Nat.lt_or_ge width line.length with hlong | hshort
  · by_cases hwidth : width = 0
    · simp [hwidth]
    · have hshorter : ((line.drop (splitOf width line + 1)).dropWhile (· = space)).length <
          line.length := by
        have hdrop := List.length_dropWhile_le (· = space) (line.drop (splitOf width line + 1))
        rw [List.length_drop] at hdrop
        omega
      rw [if_neg (by omega), isSome_wrapRounds_succ hlong, restOf,
        isSome_wrapRounds (by omega) (head?_dropWhile_space _) hshorter, words_dropWhile]
      simp only [Nat.not_le.mpr hlong, hwidth, false_or, WordsFit]
  · simp [hshort]

theorem isSome_mapM_iff {α β : Type} {f : α → Option β} (list : List α) :
    (list.mapM f).isSome = true ↔ ∀ a ∈ list, (f a).isSome = true := by
  induction list with
  | nil => simp
  | cons a list ih =>
    rw [List.mapM_cons, List.forall_mem_cons, ← ih]
    cases f a <;> cases list.mapM f <;> simp

theorem isSome_wrapText (text : List UInt8) (width : Nat) :
    (wrapText text width).isSome = true ↔ ∀ line ∈ text.splitOn newline, LineFits width line := by
  rw [wrapText, Option.isSome_map, isSome_mapM_iff]
  simp only [isSome_wrapLine]

end Rounds

end OpenCattus.Newt
