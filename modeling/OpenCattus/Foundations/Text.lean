import Mathlib.Data.List.TakeWhile
import Mathlib.Tactic.Common

/-!
# Text

Strings as lists of characters: lower case, splitting at runs of separators, joining,
prefixes and decimal numerals.

`split_intercalate` and `isTokens_split` say that splitting at runs of separators and
joining with a separator are inverse on the token lists a split can produce.
`parseDigits_toString` is the round trip of decimal numerals.
-/

namespace Foundations.Text

/-! ## Lower case -/

/-- ASCII lower case, character by character. -/
def lower (s : String) : String := String.ofList (s.toList.map Char.toLower)

theorem toNat_toLower (c : Char) :
    c.toLower.toNat = if 65 ≤ c.toNat ∧ c.toNat ≤ 90 then c.toNat + 32 else c.toNat := by
  have hupper : (c.val ≥ 'A'.val ∧ c.val ≤ 'Z'.val) ↔ 65 ≤ c.toNat ∧ c.toNat ≤ 90 := by
    rw [ge_iff_le, UInt32.le_iff_toNat_le, UInt32.le_iff_toNat_le]
    exact Iff.rfl
  unfold Char.toLower
  split
  · rename_i h
    rw [if_pos (hupper.mp h)]
    have h90 : c.val.toNat ≤ 90 := (hupper.mp h).2
    have h32 : (32 : UInt32).toNat = 32 := rfl
    change (c.val + 32).toNat = c.val.toNat + 32
    rw [UInt32.toNat_add]
    omega
  · rename_i h
    rw [if_neg fun h' => h (hupper.mpr h')]

theorem toLower_toLower (c : Char) : c.toLower.toLower = c.toLower := by
  have hlower := toNat_toLower c
  rw [← Char.toNat_inj, toNat_toLower c.toLower]
  split at hlower <;> split <;> omega

/-- A character that is not a letter is no lower case of another one. -/
theorem toLower_eq_iff {c d : Char}
    (hd : ¬ (65 ≤ d.toNat ∧ d.toNat ≤ 90) ∧ ¬ (97 ≤ d.toNat ∧ d.toNat ≤ 122)) :
    c.toLower = d ↔ c = d := by
  rw [← Char.toNat_inj, ← Char.toNat_inj (c := c), toNat_toLower]
  split <;> omega

/-- A character of one byte. -/
theorem utf8Size_of_ascii {c : Char} (hc : c.toNat ≤ 127) : c.utf8Size = 1 := by
  have hval : c.val ≤ 127 := by rwa [UInt32.le_iff_toNat_le]
  simp [Char.utf8Size, hval]

theorem utf8Size_toLower (c : Char) : c.toLower.utf8Size = c.utf8Size := by
  have hlower := toNat_toLower c
  by_cases hupper : 65 ≤ c.toNat ∧ c.toNat ≤ 90
  · rw [if_pos hupper] at hlower
    rw [utf8Size_of_ascii (c := c.toLower) (by omega), utf8Size_of_ascii (c := c) (by omega)]
  · rw [if_neg hupper] at hlower
    rw [Char.toNat_inj.mp hlower]

theorem utf8ByteSize_ofList_cons (c : Char) (cs : List Char) :
    (String.ofList (c :: cs)).utf8ByteSize = c.utf8Size + (String.ofList cs).utf8ByteSize := by
  rw [← List.singleton_append, String.ofList_append, String.utf8ByteSize_append,
    ← String.singleton_eq_ofList, String.utf8ByteSize_singleton]

theorem utf8ByteSize_ofList_map {f : Char → Char} (hf : ∀ c, (f c).utf8Size = c.utf8Size)
    (cs : List Char) :
    (String.ofList (cs.map f)).utf8ByteSize = (String.ofList cs).utf8ByteSize := by
  induction cs with
  | nil => rfl
  | cons c cs ih =>
    rw [List.map_cons, utf8ByteSize_ofList_cons, utf8ByteSize_ofList_cons, hf, ih]

/-- The bytes of a text without characters of several bytes. -/
theorem utf8ByteSize_of_ascii {s : String} (hs : ∀ c ∈ s.toList, c.toNat ≤ 127) :
    s.utf8ByteSize = s.length := by
  have hlist : ∀ cs : List Char, (∀ c ∈ cs, c.toNat ≤ 127) →
      (String.ofList cs).utf8ByteSize = cs.length := by
    intro cs hcs
    induction cs with
    | nil => rfl
    | cons c cs ih =>
      obtain ⟨hc, hcs⟩ := List.forall_mem_cons.mp hcs
      rw [utf8ByteSize_ofList_cons, utf8Size_of_ascii hc, ih hcs, List.length_cons, Nat.add_comm]
  rw [← String.length_toList, ← hlist s.toList hs, String.ofList_toList]

@[simp] theorem utf8ByteSize_lower (s : String) : (lower s).utf8ByteSize = s.utf8ByteSize := by
  rw [lower, utf8ByteSize_ofList_map utf8Size_toLower, String.ofList_toList]

@[simp] theorem toList_lower (s : String) : (lower s).toList = s.toList.map Char.toLower := by
  simp [lower]

@[simp] theorem lower_lower (s : String) : lower (lower s) = lower s := by
  apply String.toList_inj.mp
  rw [toList_lower, toList_lower, List.map_map]
  exact List.map_congr_left fun c _ => toLower_toLower c

@[simp] theorem lower_append (s t : String) : lower (s ++ t) = lower s ++ lower t := by
  apply String.toList_inj.mp
  simp

@[simp] theorem lower_eq_empty {s : String} : lower s = "" ↔ s = "" := by
  rw [← String.toList_inj, ← String.toList_inj]
  simp

/-! ## Prefixes -/

def startsWith (s pre : String) : Bool := pre.toList.isPrefixOf s.toList

def endsWith (s suf : String) : Bool := suf.toList.isSuffixOf s.toList

theorem startsWith_append (s t : String) : startsWith (s ++ t) s = true := by
  simp [startsWith]

/-- Drop the characters up to and including the first occurrence of `c`; without an
occurrence the text is kept. -/
def afterFirst (c : Char) (s : String) : String :=
  if c ∈ s.toList then String.ofList ((s.toList.dropWhile (· ≠ c)).drop 1) else s

/-- The characters before the first occurrence of `c`, or all of them. -/
def beforeFirst (c : Char) (s : String) : String := String.ofList (s.toList.takeWhile (· ≠ c))

theorem beforeFirst_append {s sep t : String} {c : Char} (hsep : sep.toList = [c])
    (h : c ∉ s.toList) : beforeFirst c (s ++ sep ++ t) = s := by
  have hs : ∀ d ∈ s.toList, decide (d ≠ c) = true := by
    intro d hd
    simpa using fun hdc : d = c => h (hdc ▸ hd)
  have hlist : (s ++ sep ++ t).toList = s.toList ++ c :: t.toList := by
    simp [hsep]
  rw [beforeFirst, hlist, List.takeWhile_append_of_pos hs]
  simp

theorem afterFirst_append_of_mem {c : Char} {s t : String} (h : c ∈ s.toList) :
    afterFirst c (s ++ t) = afterFirst c s ++ t := by
  have hdrop : ∀ cs : List Char, c ∈ cs → ∀ ds,
      ((cs ++ ds).dropWhile (· ≠ c)).drop 1 = (cs.dropWhile (· ≠ c)).drop 1 ++ ds := by
    intro cs hcs ds
    induction cs with
    | nil => cases hcs
    | cons d cs ih =>
      by_cases hd : d = c
      · simp [hd]
      · have hrest : c ∈ cs := by simpa [Ne.symm hd] using hcs
        simpa [hd] using ih hrest
  apply String.toList_inj.mp
  simp only [afterFirst, String.toList_append, List.mem_append, h, true_or, if_true,
    String.toList_ofList]
  exact hdrop _ h _

theorem afterFirst_append {s sep t : String} {c : Char} (hsep : sep.toList = [c])
    (h : c ∉ s.toList) : afterFirst c (s ++ sep ++ t) = t := by
  have hs : ∀ d ∈ s.toList, decide (d ≠ c) = true := by
    intro d hd
    simpa using fun hdc : d = c => h (hdc ▸ hd)
  have hlist : (s ++ sep ++ t).toList = s.toList ++ c :: t.toList := by
    simp [hsep]
  rw [afterFirst, hlist, if_pos (by simp), List.dropWhile_append_of_pos hs]
  simp

theorem beforeFirst_of_not_mem {s : String} {c : Char} (h : c ∉ s.toList) :
    beforeFirst c s = s := by
  have hs : ∀ d ∈ s.toList, decide (d ≠ c) = true := by
    intro d hd
    simpa using fun hdc : d = c => h (hdc ▸ hd)
  rw [beforeFirst, List.takeWhile_eq_self_iff.mpr hs, String.ofList_toList]

/-! ## Searching for a text -/

/-- `std::string::find`: where `pat` occurs first. -/
def findText (pat : List Char) : List Char → Option Nat
  | [] => if pat = [] then some 0 else none
  | c :: cs => if pat <+: c :: cs then some 0 else (findText pat cs).map (· + 1)

/-- `std::string::rfind`: where `pat` occurs last. -/
def rfindText (pat : List Char) : List Char → Option Nat
  | [] => if pat = [] then some 0 else none
  | c :: cs =>
    match rfindText pat cs with
    | some i => some (i + 1)
    | none => if pat <+: c :: cs then some 0 else none

theorem isSome_findText_iff {pat s : List Char} : (findText pat s).isSome = true ↔ pat <:+: s := by
  induction s with
  | nil =>
    rw [findText, List.infix_nil]
    split <;> simp [*]
  | cons c cs ih =>
    rw [findText, List.infix_cons_iff, ← ih]
    split
    · simp [*]
    · simp [*]

theorem findText_append (pat t : List Char) (hne : pat ≠ []) :
    findText pat (pat ++ t) = some 0 := by
  have hprefix : pat <+: pat ++ t := List.prefix_append ..
  cases hs : pat ++ t with
  | nil => exact absurd (List.append_eq_nil_iff.mp hs).1 hne
  | cons c cs =>
    rw [hs] at hprefix
    rw [findText, if_pos hprefix]

theorem rfindText_of_length_lt {pat s : List Char} (h : s.length < pat.length) :
    rfindText pat s = none := by
  induction s with
  | nil =>
    rw [rfindText, if_neg]
    rintro rfl
    exact absurd h (by simp)
  | cons c cs ih =>
    have hprefix : ¬ pat <+: c :: cs := fun hp => absurd hp.length_le (by omega)
    rw [List.length_cons] at h
    rw [rfindText, ih (by omega)]
    exact if_neg hprefix

/-- A text at the end occurs nowhere later. -/
theorem rfindText_append (s pat : List Char) (hne : pat ≠ []) :
    rfindText pat (s ++ pat) = some s.length := by
  induction s with
  | nil =>
    cases pat with
    | nil => exact absurd rfl hne
    | cons c cs =>
      rw [List.nil_append, rfindText, rfindText_of_length_lt (by simp)]
      exact if_pos (List.prefix_rfl)
  | cons c s ih => rw [List.cons_append, rfindText, ih, List.length_cons]

/-! ## Splitting at runs of separators -/

/-- Prepend a character to the first token. -/
def consHead (c : Char) : List (List Char) → List (List Char)
  | [] => [[c]]
  | t :: ts => (c :: t) :: ts

/-- The pieces between maximal runs of separators; a leading or trailing run leaves an
empty first or last piece. -/
def splitRuns (sep : Char → Bool) : List Char → List (List Char)
  | [] => [[]]
  | c :: cs =>
    if sep c then
      if cs.head?.any sep then splitRuns sep cs else [] :: splitRuns sep cs
    else consHead c (splitRuns sep cs)

def split (sep : Char → Bool) (s : String) : List String :=
  (splitRuns sep s.toList).map String.ofList

/-- Pieces after the first: free of separators, and all but the last one non-empty. -/
def IsTail (sep : Char → Bool) : List (List Char) → Prop
  | [] => False
  | [t] => ∀ c ∈ t, sep c = false
  | t :: u :: ts => (∀ c ∈ t, sep c = false) ∧ t ≠ [] ∧ IsTail sep (u :: ts)

/-- The token lists that a split at runs of separators can produce. -/
def IsTokens (sep : Char → Bool) : List (List Char) → Prop
  | [] => False
  | [t] => ∀ c ∈ t, sep c = false
  | t :: u :: ts => (∀ c ∈ t, sep c = false) ∧ IsTail sep (u :: ts)

variable {sep : Char → Bool}

theorem IsTail.isTokens : ∀ {ts : List (List Char)}, IsTail sep ts → IsTokens sep ts
  | [_], h => h
  | _ :: _ :: _, h => ⟨h.1, h.2.2⟩

theorem splitRuns_ne_nil (cs : List Char) : splitRuns sep cs ≠ [] := by
  fun_induction splitRuns sep cs with
  | case1 => simp
  | case2 _ _ _ _ ih => exact ih
  | case3 => simp
  | case4 c cs _ _ => cases splitRuns sep cs <;> simp [consHead]

theorem isTail_consHead {c : Char} (hc : sep c = false) :
    ∀ {ts : List (List Char)}, IsTokens sep ts → IsTail sep (consHead c ts)
  | [t], h => by
    intro d hd
    rcases List.mem_cons.mp hd with rfl | hd
    · exact hc
    · exact h d hd
  | t :: u :: ts, h => by
    refine ⟨?_, by simp, h.2⟩
    intro d hd
    rcases List.mem_cons.mp hd with rfl | hd
    · exact hc
    · exact h.1 d hd

/-- The second part carries the induction: a text that does not begin with a separator
has a non-empty first piece, so its pieces may follow another one. -/
theorem isTokens_and_isTail_splitRuns (cs : List Char) :
    IsTokens sep (splitRuns sep cs) ∧
      (cs.head?.any sep = false → IsTail sep (splitRuns sep cs)) := by
  fun_induction splitRuns sep cs with
  | case1 => simp [IsTokens, IsTail]
  | case2 c cs hc _ ih => exact ⟨ih.1, by simp [hc]⟩
  | case3 c cs hc hnext ih =>
    refine ⟨?_, by simp [hc]⟩
    have htail := ih.2 (by simpa using hnext)
    cases hts : splitRuns sep cs with
    | nil => exact absurd hts (splitRuns_ne_nil cs)
    | cons u ts =>
      rw [hts] at htail
      exact ⟨by simp, htail⟩
  | case4 c cs hc ih =>
    have htail := isTail_consHead (by simpa using hc) ih.1
    exact ⟨htail.isTokens, fun _ => htail⟩

theorem isTokens_splitRuns (cs : List Char) : IsTokens sep (splitRuns sep cs) :=
  (isTokens_and_isTail_splitRuns cs).1

/-- A piece without separators in front of a run becomes the first piece. -/
theorem splitRuns_append_sep {t rest : List Char} (ht : ∀ c ∈ t, sep c = false)
    {us : List (List Char)} (hrest : splitRuns sep rest = [] :: us) :
    splitRuns sep (t ++ rest) = t :: us := by
  induction t with
  | nil => exact hrest
  | cons c t ih =>
    have htail := ih (fun d hd => ht d (List.mem_cons_of_mem _ hd))
    rw [List.cons_append, splitRuns, if_neg (by simp [ht c (List.mem_cons_self ..)]), htail,
      consHead]

theorem splitRuns_of_clean {t : List Char} (ht : ∀ c ∈ t, sep c = false) :
    splitRuns sep t = [t] := by
  induction t with
  | nil => rfl
  | cons c t ih =>
    rw [splitRuns, if_neg (by simp [ht c (List.mem_cons_self ..)]),
      ih (fun d hd => ht d (List.mem_cons_of_mem _ hd)), consHead]

theorem splitRuns_run {r rest : List Char} (hr : ∀ c ∈ r, sep c = true) (hne : r ≠ [])
    (hrest : rest.head?.any sep = false) :
    splitRuns sep (r ++ rest) = [] :: splitRuns sep rest := by
  induction r with
  | nil => exact absurd rfl hne
  | cons c r ih =>
    have hc : sep c = true := hr c (List.mem_cons_self ..)
    cases r with
    | nil => simp [splitRuns, hc, hrest]
    | cons d r =>
      have hd : sep d = true := hr d (by simp)
      rw [List.cons_append, splitRuns, if_pos hc, if_pos (by simp [hd])]
      exact ih (fun e he => hr e (List.mem_cons_of_mem _ he)) (by simp)

/-! ## Joining the pieces again -/

theorem IsTail.head_intercalate {r : List Char} : ∀ {ts : List (List Char)}, IsTail sep ts →
    (r.intercalate ts).head?.any sep = false
  | [t], h => by
    cases t with
    | nil => simp
    | cons c t => simpa using h c (List.mem_cons_self ..)
  | t :: u :: ts, h => by
    obtain ⟨hclean, hne, -⟩ := h
    cases t with
    | nil => exact absurd rfl hne
    | cons c t => simpa using hclean c (List.mem_cons_self ..)

theorem splitRuns_intercalate {r : List Char} (hr : ∀ c ∈ r, sep c = true) (hne : r ≠ []) :
    ∀ {ts : List (List Char)}, IsTokens sep ts → splitRuns sep (r.intercalate ts) = ts
  | [t], h => by simpa using splitRuns_of_clean h
  | t :: u :: ts, h => by
    obtain ⟨hclean, htail⟩ := h
    have hrest : splitRuns sep (r ++ r.intercalate (u :: ts)) = _ :=
      splitRuns_run hr hne htail.head_intercalate
    rw [splitRuns_intercalate hr hne htail.isTokens] at hrest
    rw [List.intercalate_cons_cons, List.append_assoc]
    exact splitRuns_append_sep hclean hrest

/-- Splitting undoes joining, for every list of tokens that a split can produce. -/
theorem split_intercalate {r : String} (hr : ∀ c ∈ r.toList, sep c = true) (hne : r ≠ "")
    {ts : List String} (h : IsTokens sep (ts.map String.toList)) :
    split sep (r.intercalate ts) = ts := by
  have hne' : r.toList ≠ [] := by simpa using hne
  rw [split, String.toList_intercalate, splitRuns_intercalate hr hne' h]
  simp

theorem isTokens_split (s : String) : IsTokens sep ((split sep s).map String.toList) := by
  simpa [split, Function.comp_def] using isTokens_splitRuns s.toList

theorem split_ne_nil (s : String) : split sep s ≠ [] := by
  simpa [split] using splitRuns_ne_nil s.toList

/-- Non-empty pieces without separators are tokens. -/
theorem isTokens_of_forall {ts : List (List Char)} (hne : ts ≠ [])
    (h : ∀ t ∈ ts, t ≠ [] ∧ ∀ c ∈ t, sep c = false) : IsTokens sep ts := by
  suffices htail : IsTail sep ts from htail.isTokens
  induction ts with
  | nil => exact absurd rfl hne
  | cons t ts ih =>
    have ht := h t (List.mem_cons_self ..)
    cases ts with
    | nil => exact ht.2
    | cons u ts => exact ⟨ht.2, ht.1, ih (by simp) (fun v hv => h v (List.mem_cons_of_mem _ hv))⟩

/-! ## Splitting at every separator -/

/-- The pieces between separators, every separator ending one. -/
def splitEach (sep : Char → Bool) : List Char → List (List Char)
  | [] => [[]]
  | c :: cs => if sep c then [] :: splitEach sep cs else consHead c (splitEach sep cs)

theorem splitEach_ne_nil (cs : List Char) : splitEach sep cs ≠ [] := by
  cases cs with
  | nil => simp [splitEach]
  | cons c cs =>
    unfold splitEach
    split
    · simp
    · cases splitEach sep cs <;> simp [consHead]

/-- What is no separator is in one of the pieces. -/
theorem exists_mem_splitEach {cs : List Char} {c : Char} (hc : c ∈ cs) (hsep : sep c = false) :
    ∃ t ∈ splitEach sep cs, c ∈ t := by
  induction cs with
  | nil => cases hc
  | cons d cs ih =>
    rcases List.mem_cons.mp hc with rfl | hc
    · rw [splitEach, if_neg (by rw [hsep]; decide)]
      obtain ⟨u, us, hus⟩ := List.exists_cons_of_ne_nil (@splitEach_ne_nil sep cs)
      rw [hus, consHead]
      exact ⟨c :: u, List.mem_cons_self .., List.mem_cons_self ..⟩
    · obtain ⟨t, ht, hct⟩ := ih hc
      unfold splitEach
      split
      · exact ⟨t, List.mem_cons_of_mem _ ht, hct⟩
      · obtain ⟨u, us, hus⟩ := List.exists_cons_of_ne_nil (@splitEach_ne_nil sep cs)
        rw [hus] at ht ⊢
        rw [consHead]
        rcases List.mem_cons.mp ht with rfl | ht
        · exact ⟨d :: t, List.mem_cons_self .., List.mem_cons_of_mem _ hct⟩
        · exact ⟨t, List.mem_cons_of_mem _ ht, hct⟩

theorem clean_of_mem_splitEach {cs t : List Char} (h : t ∈ splitEach sep cs) :
    ∀ c ∈ t, sep c = false := by
  induction cs generalizing t with
  | nil =>
    obtain rfl := List.mem_singleton.mp h
    simp
  | cons d cs ih =>
    unfold splitEach at h
    split at h
    · rcases List.mem_cons.mp h with rfl | h
      · simp
      · exact ih h
    · rename_i hd
      cases hcs : splitEach sep cs with
      | nil => exact absurd hcs (splitEach_ne_nil cs)
      | cons u us =>
        rw [hcs, consHead] at h
        rcases List.mem_cons.mp h with rfl | h
        · intro c hc
          rcases List.mem_cons.mp hc with rfl | hc
          · simpa using hd
          · exact ih (by simp [hcs]) c hc
        · exact ih (by simp [hcs, h])

theorem splitEach_of_clean {t : List Char} (ht : ∀ c ∈ t, sep c = false) :
    splitEach sep t = [t] := by
  induction t with
  | nil => rfl
  | cons c t ih =>
    rw [splitEach, if_neg (by simp [ht c (List.mem_cons_self ..)]),
      ih (fun d hd => ht d (List.mem_cons_of_mem _ hd)), consHead]

theorem splitEach_append_cons {t rest : List Char} {c : Char} (ht : ∀ d ∈ t, sep d = false)
    (hc : sep c = true) : splitEach sep (t ++ c :: rest) = t :: splitEach sep rest := by
  induction t with
  | nil => simp [splitEach, hc]
  | cons d t ih =>
    rw [List.cons_append, splitEach, if_neg (by simp [ht d (List.mem_cons_self ..)]),
      ih (fun e he => ht e (List.mem_cons_of_mem _ he)), consHead]

/-- The first piece, and what follows it. -/
theorem splitEach_eq_cons {cs t : List Char} {ts : List (List Char)}
    (h : splitEach sep cs = t :: ts) :
    (∀ c ∈ t, sep c = false) ∧
      ((ts = [] ∧ cs = t) ∨
        ∃ c rest, sep c = true ∧ cs = t ++ c :: rest ∧ ts = splitEach sep rest) := by
  induction cs generalizing t with
  | nil =>
    obtain ⟨rfl, rfl⟩ := List.cons.inj h
    exact ⟨by simp, .inl ⟨rfl, rfl⟩⟩
  | cons d cs ih =>
    unfold splitEach at h
    split at h
    · rename_i hd
      obtain ⟨rfl, rfl⟩ := List.cons.inj h
      exact ⟨by simp, .inr ⟨d, cs, hd, rfl, rfl⟩⟩
    · rename_i hd
      cases hcs : splitEach sep cs with
      | nil => exact absurd hcs (splitEach_ne_nil cs)
      | cons u us =>
        rw [hcs, consHead] at h
        obtain ⟨rfl, rfl⟩ := List.cons.inj h
        obtain ⟨hclean, hrest⟩ := ih hcs
        refine ⟨?_, ?_⟩
        · intro c hc
          rcases List.mem_cons.mp hc with rfl | hc
          · exact Bool.eq_false_iff.mpr hd
          · exact hclean c hc
        · rcases hrest with ⟨rfl, rfl⟩ | ⟨c, rest, hc, rfl, rfl⟩
          · exact .inl ⟨rfl, rfl⟩
          · exact .inr ⟨c, rest, hc, rfl, rfl⟩

/-- Splitting at every separator and splitting at runs have the same first piece, and the same
pieces behind it but for empty ones. -/
theorem exists_splitEach_splitRuns (cs : List Char) : ∃ t us vs,
    splitEach sep cs = t :: us ∧ splitRuns sep cs = t :: vs ∧
      us.filter (· ≠ []) = vs.filter (· ≠ []) := by
  fun_induction splitRuns sep cs with
  | case1 => exact ⟨[], [], [], rfl, rfl, rfl⟩
  | case2 c cs hc hnext ih =>
    obtain ⟨t, us, vs, heach, hruns, hrest⟩ := ih
    have ht : t = [] := by
      cases cs with
      | nil => simp at hnext
      | cons d ds =>
        have hd : sep d = true := by simpa using hnext
        rw [splitEach, if_pos hd] at heach
        exact (List.cons.inj heach).1.symm
    subst ht
    exact ⟨[], [] :: us, vs, by rw [splitEach, if_pos hc, heach], hruns, by simpa using hrest⟩
  | case3 c cs hc hnext ih =>
    obtain ⟨t, us, vs, heach, hruns, hrest⟩ := ih
    refine ⟨[], t :: us, t :: vs, by rw [splitEach, if_pos hc, heach], by rw [hruns], ?_⟩
    rw [List.filter_cons, List.filter_cons, hrest]
  | case4 c cs hc ih =>
    obtain ⟨t, us, vs, heach, hruns, hrest⟩ := ih
    exact ⟨c :: t, us, vs, by rw [splitEach, if_neg hc, heach, consHead],
      by rw [hruns, consHead], hrest⟩

/-- Without the empty pieces the two ways to split are the same. -/
theorem filter_splitEach (cs : List Char) :
    (splitEach sep cs).filter (· ≠ []) = (splitRuns sep cs).filter (· ≠ []) := by
  obtain ⟨t, us, vs, heach, hruns, hrest⟩ := @exists_splitEach_splitRuns sep cs
  rw [heach, hruns, List.filter_cons, List.filter_cons, hrest]

theorem filter_split (s : String) :
    (split sep s).filter (· ≠ "") =
      ((splitEach sep s.toList).filter (· ≠ [])).map String.ofList := by
  rw [filter_splitEach, split, List.filter_map]
  refine congrArg (List.map String.ofList) (List.filter_congr fun t _ => ?_)
  exact decide_eq_decide.mpr (not_congr String.ofList_eq_empty_iff)

/-! ## Decimal numerals -/

/-- The decimal numeral of a number. -/
def decimal (n : Nat) : String := toString n

/-- The value of a non-empty string of decimal digits. -/
def parseDigits (s : String) : Option Nat :=
  if s ≠ "" ∧ s.toList.all Char.isDigit then some (Nat.ofDigitChars 10 s.toList 0) else none

theorem isDigit_of_parseDigits {s : String} {n : Nat} (h : parseDigits s = some n) {c : Char}
    (hc : c ∈ s.toList) : c.isDigit = true := by
  unfold parseDigits at h
  split at h
  · rename_i hs
    exact List.all_eq_true.mp hs.2 c hc
  · cases h

theorem toList_decimal (n : Nat) : (decimal n).toList = Nat.toDigits 10 n := by
  rw [decimal, Nat.toString_eq_ofList_toDigits, String.toList_ofList]

@[simp] theorem decimal_ne_empty (n : Nat) : decimal n ≠ "" := by
  simp [← String.toList_inj, toList_decimal]

theorem isDigit_of_mem_decimal {n : Nat} {c : Char} (hc : c ∈ (decimal n).toList) :
    c.isDigit = true := by
  rw [toList_decimal] at hc
  exact Nat.isDigit_of_mem_toDigits (by omega) (by omega) hc

/-- Digits have no letter case. -/
@[simp] theorem lower_decimal (n : Nat) : lower (decimal n) = decimal n := by
  have hdigit : ∀ c ∈ (decimal n).toList, c.toLower = c := by
    intro c hc
    have hc := isDigit_of_mem_decimal hc
    rw [Char.isDigit, Bool.and_eq_true, decide_eq_true_iff, decide_eq_true_iff] at hc
    have hlower := toNat_toLower c
    have hle : c.toNat ≤ 57 := by simpa [UInt32.le_iff_toNat_le] using hc.2
    rw [if_neg (by omega)] at hlower
    exact Char.toNat_inj.mp hlower
  apply String.toList_inj.mp
  rw [toList_lower]
  exact (List.map_congr_left (g := id) hdigit).trans (List.map_id _)

@[simp] theorem parseDigits_decimal (n : Nat) : parseDigits (decimal n) = some n := by
  have hall : (decimal n).toList.all Char.isDigit = true :=
    List.all_eq_true.mpr fun _ hc => isDigit_of_mem_decimal hc
  rw [parseDigits, if_pos ⟨decimal_ne_empty n, hall⟩, toList_decimal,
    Nat.ofDigitChars_ten_toDigits]

@[simp] theorem decimal_inj {m n : Nat} : decimal m = decimal n ↔ m = n := by
  refine ⟨fun h => ?_, fun h => h ▸ rfl⟩
  simpa using congrArg parseDigits h

/-- The numeral of `n`, padded on the left with zeros to at least `width` characters. -/
def padZero (width n : Nat) : String :=
  String.ofList (List.replicate (width - (decimal n).length) '0') ++ decimal n

theorem isDigit_of_mem_padZero {width n : Nat} {c : Char} (hc : c ∈ (padZero width n).toList) :
    c.isDigit = true := by
  rw [padZero, String.toList_append, String.toList_ofList, List.mem_append] at hc
  rcases hc with hc | hc
  · rw [(List.mem_replicate.mp hc).2]
    decide
  · exact isDigit_of_mem_decimal hc

theorem parseDigits_padZero (width n : Nat) : parseDigits (padZero width n) = some n := by
  have hne : padZero width n ≠ "" := by simp [padZero]
  have hall : (padZero width n).toList.all Char.isDigit = true :=
    List.all_eq_true.mpr fun _ hc => isDigit_of_mem_padZero hc
  rw [parseDigits, if_pos ⟨hne, hall⟩, padZero, String.toList_append, String.toList_ofList,
    Nat.ofDigitChars_append, Nat.ofDigitChars_replicate_zero, toList_decimal]
  simp [Nat.ofDigitChars_ten_toDigits]

theorem padZero_inj {width m n : Nat} : padZero width m = padZero width n ↔ m = n := by
  refine ⟨fun h => ?_, fun h => h ▸ rfl⟩
  have hdigits := congrArg parseDigits h
  rw [parseDigits_padZero, parseDigits_padZero] at hdigits
  exact Option.some.inj hdigits

@[simp] theorem padZero_ne_empty (width n : Nat) : padZero width n ≠ "" := by
  simp [padZero]

end Foundations.Text
