import Mathlib.Data.List.DropRight
import OpenCattus.Foundations.Lines

/-!
# Lookup tables in text form

Each line is a key, a blank and a value. An entry that is appended to a text of complete lines is a
line of its own (`hasEntry_append_ended`); behind an open line it is not the entry of its key
(`hasEntry_append_open`).
-/

namespace Foundations.Text

/-- The text without the blanks around it. -/
def trimBlanks (blank : Char → Bool) (t : List Char) : List Char :=
  (t.dropWhile blank).rdropWhile blank

/-- Empty for a line that begins with a blank. -/
def keyOf (blank : Char → Bool) (line : List Char) : List Char := line.takeWhile (!blank ·)

def valueOf (blank : Char → Bool) (line : List Char) : List Char :=
  trimBlanks blank (line.dropWhile (!blank ·))

def keyLines (blank : Char → Bool) (key t : List Char) : List (List Char) :=
  (linesOf t).filter (keyOf blank · = key)

def otherLines (blank : Char → Bool) (key t : List Char) : List (List Char) :=
  (linesOf t).filter (keyOf blank · ≠ key)

/-- The key has exactly one line, and it is for the value. -/
def HasEntry (blank : Char → Bool) (key value t : List Char) : Prop :=
  (keyLines blank key t).map (valueOf blank) = [value]

instance (blank : Char → Bool) (key value t : List Char) : Decidable (HasEntry blank key value t) :=
  inferInstanceAs (Decidable (_ = _))

def entryLine (key value : List Char) : List Char := key ++ ' ' :: value

/-- What a line can hold. -/
structure Writable (blank : Char → Bool) (key value : List Char) : Prop where
  clean : ∀ c ∈ key, blank c = false
  oneLine : '\n' ∉ value
  trimmed : trimBlanks blank value = value

variable {blank : Char → Bool}

/-! ## What is no blank -/

theorem trimBlanks_subset (t : List Char) : trimBlanks blank t ⊆ t :=
  fun _ h => (List.dropWhile_sublist _).subset ((List.rdropWhile_prefix _ _).subset h)

theorem trimBlanks_idem (t : List Char) :
    trimBlanks blank (trimBlanks blank t) = trimBlanks blank t := by
  have hfront : (trimBlanks blank t).dropWhile blank = trimBlanks blank t := by
    cases htrimmed : trimBlanks blank t with
    | nil => rfl
    | cons c cs =>
      -- The first character is the one of the text without the blanks in front.
      have hinit : trimBlanks blank t <+: t.dropWhile blank := List.rdropWhile_prefix _ _
      obtain ⟨rest, hrest⟩ := htrimmed ▸ hinit
      have hfirst := List.head?_dropWhile_not blank t
      rw [← hrest, List.cons_append, List.head?_cons] at hfirst
      exact List.dropWhile_cons_of_neg (by simpa using hfirst)
  conv_lhs => rw [trimBlanks, hfront]
  exact List.rdropWhile_idempotent _ _

/-- The number of the characters that are no blanks. -/
def ink (blank : Char → Bool) (t : List Char) : Nat := t.countP (!blank ·)

theorem ink_append (t u : List Char) : ink blank (t ++ u) = ink blank t + ink blank u :=
  List.countP_append

theorem ink_dropWhile (t : List Char) : ink blank (t.dropWhile blank) = ink blank t := by
  induction t with
  | nil => rfl
  | cons c cs ih =>
    rw [List.dropWhile_cons]
    split
    · rename_i hc
      rw [ih]
      simp [ink, hc]
    · rfl

theorem ink_trimBlanks (t : List Char) : ink blank (trimBlanks blank t) = ink blank t := by
  have hreverse : ∀ u : List Char, ink blank u.reverse = ink blank u :=
    fun u => List.countP_reverse
  rw [trimBlanks, List.rdropWhile, hreverse, ink_dropWhile, hreverse, ink_dropWhile]

theorem ink_clean {t : List Char} (h : ∀ c ∈ t, blank c = false) : ink blank t = t.length := by
  refine List.countP_eq_length.mpr fun c hc => ?_
  simp [h c hc]

theorem keyOf_clean (line : List Char) : ∀ c ∈ keyOf blank line, blank c = false := by
  intro c hc
  simpa using List.mem_takeWhile_imp hc

/-- A line is its key and its value, up to blanks. -/
theorem ink_line (line : List Char) :
    (keyOf blank line).length + ink blank (valueOf blank line) = ink blank line := by
  rw [valueOf, ink_trimBlanks, ← ink_clean (keyOf_clean line), ← ink_append, keyOf,
    List.takeWhile_append_dropWhile]

/-! ## The lines of a text -/

section Lines

variable {key value t : List Char}

theorem lineEnd_notMem_of_mem_linesOf {line : List Char} (h : line ∈ linesOf t) : '\n' ∉ line := by
  induction t generalizing line with
  | nil => cases h
  | cons c cs ih =>
    unfold linesOf at h
    split at h
    · rcases List.mem_cons.mp h with rfl | h
      · simp
      · exact ih h
    · rename_i hc
      cases hcs : linesOf cs with
      | nil =>
        rw [hcs] at h
        obtain rfl := List.mem_singleton.mp h
        simpa using Ne.symm hc
      | cons u us =>
        rw [hcs, consHead] at h
        rw [hcs] at ih
        rcases List.mem_cons.mp h with rfl | h
        · rw [List.mem_cons, not_or]
          exact ⟨Ne.symm hc, ih List.mem_cons_self⟩
        · exact ih (List.mem_cons_of_mem _ h)

/-- A key that has an entry is one that can be written. -/
theorem writable_of_hasEntry (h : HasEntry blank key value t) : Writable blank key value := by
  obtain ⟨line, hline, rfl⟩ := List.map_eq_singleton_iff.mp h
  have hmem : line ∈ keyLines blank key t := by
    rw [hline]
    exact List.mem_cons_self
  obtain ⟨hlines, hkey⟩ := List.mem_filter.mp hmem
  obtain rfl := of_decide_eq_true hkey
  refine ⟨keyOf_clean line, fun hend => ?_, trimBlanks_idem _⟩
  refine lineEnd_notMem_of_mem_linesOf hlines ?_
  exact (List.dropWhile_sublist _).subset (trimBlanks_subset _ hend)

theorem linesOf_append_last (t : List Char) {line : List Char} (h : '\n' ∉ line) (hne : line ≠ []) :
    linesOf (t ++ line) = linesOf (endedPart t) ++ [openLine t ++ line] := by
  have hclean : '\n' ∉ openLine t ++ line := by
    rw [List.mem_append, not_or]
    exact ⟨lineEnd_notMem_openLine t, h⟩
  conv_lhs => rw [← endedPart_append_openLine t]
  rw [List.append_assoc, linesOf_append (ended_endedPart t),
    linesOf_open hclean (by simp [hne])]

end Lines

/-! ## The line of an entry -/

section Entry

variable {key value t : List Char} (hspace : blank ' ' = true) (hend : blank '\n' = true)
include hend in
theorem lineEnd_notMem_entryLine (h : Writable blank key value) :
    '\n' ∉ entryLine key value := by
  rw [entryLine, List.mem_append, List.mem_cons, not_or, not_or]
  refine ⟨fun hmem => ?_, by decide, h.oneLine⟩
  rw [h.clean _ hmem] at hend
  cases hend

include hspace

theorem keyOf_append_blank (h : ∀ c ∈ key, blank c = false) (rest : List Char) :
    keyOf blank (key ++ ' ' :: rest) = key := by
  have hall : ∀ c ∈ key, (!blank c) = true := fun c hc => by simp [h c hc]
  rw [keyOf, List.takeWhile_append_of_pos hall, List.takeWhile_cons_of_neg (by simp [hspace]),
    List.append_nil]

theorem keyOf_entryLine (h : Writable blank key value) : keyOf blank (entryLine key value) = key :=
  keyOf_append_blank hspace h.clean value

theorem valueOf_entryLine (h : Writable blank key value) :
    valueOf blank (entryLine key value) = value := by
  have hall : ∀ c ∈ key, (!blank c) = true := fun c hc => by simp [h.clean c hc]
  have hblank : trimBlanks blank (' ' :: value) = trimBlanks blank value := by
    rw [trimBlanks, List.dropWhile_cons_of_pos hspace]
    rfl
  rw [valueOf, entryLine, List.dropWhile_append_of_pos hall,
    List.dropWhile_cons_of_neg (by simp [hspace]), hblank, h.trimmed]

/-- Behind a text that is not empty, an entry has not its key or not its value. -/
theorem not_entry_behind (h : Writable blank key value) (hne : t ≠ []) (hkey : key ≠ [])
    (hsame : keyOf blank (t ++ entryLine key value) = key) :
    valueOf blank (t ++ entryLine key value) ≠ value := by
  intro hvalue
  have hline := @ink_line blank (t ++ entryLine key value)
  have hentry := @ink_line blank (entryLine key value)
  rw [hsame, hvalue, ink_append] at hline
  rw [keyOf_entryLine hspace h, valueOf_entryLine hspace h] at hentry
  -- The text is blank, so that the key is empty.
  have hink : ink blank t = 0 := by omega
  obtain ⟨c, cs, rfl⟩ := List.exists_cons_of_ne_nil hne
  have hc := List.countP_eq_zero.mp hink c List.mem_cons_self
  refine hkey ?_
  rw [← hsame, keyOf, List.cons_append, List.takeWhile_cons, if_neg hc]

include hend

/-- Behind complete lines the entry is a line of its own. -/
theorem hasEntry_append_ended (h : Writable blank key value) (hended : Ended t) :
    (HasEntry blank key value (t ++ entryLine key value) ↔ keyLines blank key t = []) ∧
      otherLines blank key (t ++ entryLine key value) = otherLines blank key t := by
  have hlines : linesOf (t ++ entryLine key value) = linesOf t ++ [entryLine key value] := by
    rw [linesOf_append hended,
      linesOf_open (lineEnd_notMem_entryLine hend h) (by simp [entryLine])]
  have hkey := keyOf_entryLine hspace h
  constructor
  · have hnew : keyLines blank key (t ++ entryLine key value) =
        keyLines blank key t ++ [entryLine key value] := by
      rw [keyLines, hlines, List.filter_append, List.filter_cons_of_pos (by simpa using hkey)]
      rfl
    rw [HasEntry, hnew, List.map_append]
    constructor
    · intro hmap
      have hlength := congrArg List.length hmap
      simpa using hlength
    · intro hnone
      rw [hnone]
      exact congrArg (fun v => [v]) (valueOf_entryLine hspace h)
  · rw [otherLines, hlines, List.filter_append, List.filter_cons_of_neg (by simp [hkey])]
    exact List.append_nil _

/-- Behind an open line the entry is glued to it. The key has its entry only if it had it before,
and then the other lines are still there only if the open line is the key alone. -/
theorem hasEntry_append_open (h : Writable blank key value) (hkey : key ≠ []) (hopen : ¬ Ended t) :
    HasEntry blank key value (t ++ entryLine key value) ∧
        List.Sublist (otherLines blank key t) (otherLines blank key (t ++ entryLine key value)) ↔
      openLine t = key ∧ HasEntry blank key value (endedPart t) := by
  have hne : openLine t ≠ [] := fun hnil => hopen (openLine_eq_nil_iff.mp hnil)
  have hlines : linesOf (t ++ entryLine key value) =
      linesOf (endedPart t) ++ [openLine t ++ entryLine key value] :=
    linesOf_append_last t (lineEnd_notMem_entryLine hend h) (by simp [entryLine])
  have hglued := not_entry_behind hspace h hne hkey
  have hother : keyOf blank (openLine t ++ entryLine key value) ≠ key →
      keyLines blank key (t ++ entryLine key value) = keyLines blank key (endedPart t) := by
    intro hdiffers
    rw [keyLines, hlines, List.filter_append, List.filter_cons_of_neg (by simpa using hdiffers)]
    exact List.append_nil _
  constructor
  · rintro ⟨hentry, hkept⟩
    have hdiffers : keyOf blank (openLine t ++ entryLine key value) ≠ key := by
      intro hsame
      refine hglued hsame ?_
      -- It would be the only line of the key.
      have hmem : openLine t ++ entryLine key value ∈
          keyLines blank key (t ++ entryLine key value) := by
        rw [keyLines, List.mem_filter, hlines]
        exact ⟨by simp, by simpa using hsame⟩
      have hvalue := List.mem_map_of_mem (f := valueOf blank) hmem
      rw [hentry] at hvalue
      exact List.mem_singleton.mp hvalue
    have hprevious : HasEntry blank key value (endedPart t) := by
      rw [HasEntry, ← hother hdiffers]
      exact hentry
    refine ⟨?_, hprevious⟩
    have hsame : keyOf blank (openLine t) = key := by
      by_contra hnot
      rw [otherLines, otherLines, hlines, linesOf_of_not_ended hopen, List.filter_append,
        List.filter_append, List.filter_cons_of_pos (by simpa using hnot),
        List.filter_cons_of_pos (by simpa using hdiffers)] at hkept
      have hequal := List.append_cancel_left (hkept.eq_of_length (by simp))
      simp [entryLine] at hequal
    -- With a blank in it, the open line would keep its key.
    by_contra hnot
    refine hdiffers ?_
    have hblank : keyOf blank (openLine t) ≠ openLine t := fun heq => hnot (heq ▸ hsame)
    rw [keyOf, List.takeWhile_append, if_neg]
    · exact hsame
    · exact fun hlength => hblank ((List.takeWhile_prefix _).eq_of_length hlength)
  · rintro ⟨hline, hprevious⟩
    have hdiffers : keyOf blank (openLine t ++ entryLine key value) ≠ key := by
      have hclean : ∀ c ∈ key ++ key, blank c = false := by
        intro c hc
        exact h.clean c (by simpa using hc)
      rw [hline, entryLine, ← List.append_assoc, keyOf_append_blank hspace hclean]
      simpa using hkey
    refine ⟨?_, ?_⟩
    · rw [HasEntry, hother hdiffers]
      exact hprevious
    · have hsame : keyOf blank (openLine t) = key := by
        rw [hline]
        have hall : ∀ c ∈ key, (!blank c) = true := fun c hc => by simp [h.clean c hc]
        exact List.takeWhile_eq_self_iff.mpr hall
      rw [otherLines, otherLines, hlines, linesOf_of_not_ended hopen, List.filter_append,
        List.filter_append, List.filter_cons_of_neg (by simp [hsame])]
      exact (List.Sublist.refl _).append (List.nil_sublist _)

end Entry

end Foundations.Text
