import OpenCattus.Foundations.Lines

/-!
# Input streams

A stream of characters with the two bits that its reads leave. `getline` takes a part up to the
next separator; at the end of the content it sets the end bit, and the bit of a failure when there
is nothing to take.

A loop over `getline` sees the segments of the content (`readLines_eq`). A loop that asks whether
the stream is good before a read sees one part more when the content is empty or ends with a
separator (`readWhileGood_eq`).
-/

namespace Foundations

open Text

/-- What is still to be read, and the state bits. -/
structure InputStream where
  rest : List Char
  eof : Bool := false
  fail : Bool := false
  deriving DecidableEq, Repr

namespace InputStream

def good (stream : InputStream) : Bool := !stream.eof && !stream.fail

/-- `std::getline` into an empty text: the part that was read, or `none` after a failure. -/
def getline (separator : Char) (stream : InputStream) : Option (List Char) × InputStream :=
  if stream.good = false then (none, { stream with fail := true })
  else if separator ∈ stream.rest then
    (some (stream.rest.takeWhile (· ≠ separator)),
      { stream with rest := (stream.rest.dropWhile (· ≠ separator)).tail })
  else if stream.rest = [] then (none, { stream with eof := true, fail := true })
  else (some stream.rest, { stream with rest := [], eof := true })

/-- `while (std::getline(stream, part))`, at most `fuel` times. -/
def readLines (separator : Char) : Nat → InputStream → List (List Char)
  | 0, _ => []
  | fuel + 1, stream =>
    match stream.getline separator with
    | (some part, stream) => part :: readLines separator fuel stream
    | (none, _) => []

/-- `while (stream.good())` around a read whose failure is not looked at. -/
def readWhileGood (separator : Char) : Nat → InputStream → List (List Char)
  | 0, _ => []
  | fuel + 1, stream =>
    if stream.good then
      let (part, stream) := stream.getline separator
      part.getD [] :: readWhileGood separator fuel stream
    else []

/-! ## One read -/

section Reads

variable {separator : Char} {part rest : List Char}

theorem getline_part (h : separator ∉ part) :
    getline separator ⟨part ++ separator :: rest, false, false⟩ =
      (some part, ⟨rest, false, false⟩) := by
  have hall : ∀ c ∈ part, decide (c ≠ separator) = true := by
    intro c hc
    have hne : c ≠ separator := by
      rintro rfl
      exact h hc
    simpa using hne
  unfold getline
  rw [if_neg (by simp [good]), if_pos (by simp)]
  dsimp only
  rw [List.takeWhile_append_of_pos hall, List.dropWhile_append_of_pos hall]
  simp

theorem getline_last (h : separator ∉ part) (hne : part ≠ []) :
    getline separator ⟨part, false, false⟩ = (some part, ⟨[], true, false⟩) := by
  unfold getline
  rw [if_neg (by simp [good]), if_neg h, if_neg hne]

theorem getline_end (separator : Char) :
    getline separator ⟨[], false, false⟩ = (none, ⟨[], true, true⟩) := rfl

theorem getline_of_not_good {stream : InputStream} (h : stream.good = false) :
    getline separator stream = (none, { stream with fail := true }) := if_pos h

end Reads

end InputStream

/-! ## The parts of a content -/

/-- The parts that a separator ends, and what stands behind the last one unless it is empty. -/
def segments (separator : Char) : List Char → List (List Char)
  | [] => []
  | c :: cs =>
    if c = separator then [] :: segments separator cs else consHead c (segments separator cs)

section Parts

variable {separator : Char} {part rest : List Char}

theorem segments_part (h : separator ∉ part) (rest : List Char) :
    segments separator (part ++ separator :: rest) = part :: segments separator rest := by
  induction part with
  | nil => simp [segments]
  | cons c cs ih =>
    rw [List.mem_cons, not_or] at h
    rw [List.cons_append, segments, if_neg (Ne.symm h.1), ih h.2]
    rfl

theorem segments_last (h : separator ∉ part) (hne : part ≠ []) :
    segments separator part = [part] := by
  induction part with
  | nil => exact absurd rfl hne
  | cons c cs ih =>
    rw [List.mem_cons, not_or] at h
    rw [segments, if_neg (Ne.symm h.1)]
    by_cases hcs : cs = []
    · subst hcs
      rfl
    · rw [ih h.2 hcs]
      rfl

/-- A content has a first part that a separator ends, or no separator. -/
theorem exists_part (separator : Char) (content : List Char) :
    separator ∉ content ∨
      ∃ part rest, separator ∉ part ∧ content = part ++ separator :: rest := by
  by_cases h : separator ∈ content
  · obtain ⟨part, rest, hcontent, hpart⟩ := List.eq_append_cons_of_mem h
    exact .inr ⟨part, rest, hpart, hcontent⟩
  · exact .inl h

theorem ne_of_mem_clean (h : separator ∉ part) : ∀ c ∈ part, (c == separator) = false := by
  intro c hc
  rw [beq_eq_false_iff_ne]
  rintro rfl
  exact h hc

theorem splitEach_part (h : separator ∉ part) (rest : List Char) :
    splitEach (· == separator) (part ++ separator :: rest) =
      part :: splitEach (· == separator) rest :=
  splitEach_append_cons (ne_of_mem_clean h) (beq_self_eq_true separator)

theorem splitEach_last (h : separator ∉ part) : splitEach (· == separator) part = [part] :=
  splitEach_of_clean (ne_of_mem_clean h)

/-- Nothing, or a content with a separator at its end. -/
def EndsWith (separator : Char) (content : List Char) : Prop :=
  content = [] ∨ content.getLast? = some separator

theorem endsWith_part : EndsWith separator (part ++ separator :: rest) ↔ EndsWith separator rest := by
  unfold EndsWith
  cases rest with
  | nil => simp
  | cons c cs => simp

theorem not_endsWith_last (h : separator ∉ part) (hne : part ≠ []) : ¬ EndsWith separator part := by
  rintro (hnil | hlast)
  · exact hne hnil
  · exact h (List.mem_of_getLast? hlast)

/-- The same parts, with an empty one behind a separator at the end. -/
theorem splitEach_of_endsWith {content : List Char} (h : EndsWith separator content) :
    splitEach (· == separator) content = segments separator content ++ [[]] := by
  induction hlength : content.length using Nat.strong_induction_on generalizing content with
  | _ n ih =>
    rcases exists_part separator content with hclean | ⟨part, rest, hpart, rfl⟩
    · by_cases hne : content = []
      · subst hne
        rfl
      · exact absurd h (not_endsWith_last hclean hne)
    · rw [splitEach_part hpart, segments_part hpart, List.cons_append]
      rw [List.length_append, List.length_cons] at hlength
      rw [ih rest.length (by omega) (endsWith_part.mp h) rfl]

theorem splitEach_of_not_endsWith {content : List Char} (h : ¬ EndsWith separator content) :
    splitEach (· == separator) content = segments separator content := by
  induction hlength : content.length using Nat.strong_induction_on generalizing content with
  | _ n ih =>
    rcases exists_part separator content with hclean | ⟨part, rest, hpart, rfl⟩
    · have hne : content ≠ [] := fun hnil => h (.inl hnil)
      rw [splitEach_last hclean, segments_last hclean hne]
    · rw [splitEach_part hpart, segments_part hpart]
      rw [List.length_append, List.length_cons] at hlength
      rw [ih rest.length (by omega) (fun hrest => h (endsWith_part.mpr hrest)) rfl]

end Parts

/-! ## Loops over a stream -/

namespace InputStream

variable {separator : Char}

theorem readLines_of_not_good {stream : InputStream} (h : stream.good = false) (fuel : Nat) :
    readLines separator fuel stream = [] := by
  cases fuel with
  | zero => rfl
  | succ fuel => rw [readLines, getline_of_not_good h]

theorem readLines_eq {fuel : Nat} {content : List Char} (hfuel : content.length < fuel) :
    readLines separator fuel ⟨content, false, false⟩ = segments separator content := by
  induction fuel generalizing content with
  | zero => omega
  | succ fuel ih =>
    rcases exists_part separator content with hclean | ⟨part, rest, hpart, rfl⟩
    · by_cases hne : content = []
      · subst hne
        rfl
      · rw [readLines, getline_last hclean hne, segments_last hclean hne]
        exact congrArg _ (readLines_of_not_good rfl fuel)
    · rw [readLines, getline_part hpart, segments_part hpart]
      refine congrArg _ (ih ?_)
      rw [List.length_append, List.length_cons] at hfuel
      omega

theorem readWhileGood_of_not_good {stream : InputStream} (h : stream.good = false) (fuel : Nat) :
    readWhileGood separator fuel stream = [] := by
  cases fuel with
  | zero => rfl
  | succ fuel => rw [readWhileGood, if_neg (by simpa using h)]

theorem readWhileGood_of_good {stream : InputStream} (h : stream.good = true) (fuel : Nat) :
    readWhileGood separator (fuel + 1) stream =
      (stream.getline separator).1.getD [] ::
        readWhileGood separator fuel (stream.getline separator).2 := by
  rw [readWhileGood, if_pos h]

theorem readWhileGood_eq {fuel : Nat} {content : List Char} (hfuel : content.length < fuel) :
    readWhileGood separator fuel ⟨content, false, false⟩ = splitEach (· == separator) content := by
  induction fuel generalizing content with
  | zero => omega
  | succ fuel ih =>
    rcases exists_part separator content with hclean | ⟨part, rest, hpart, rfl⟩
    · rw [splitEach_last hclean]
      by_cases hne : content = []
      · subst hne
        rw [readWhileGood_of_good rfl, getline_end]
        exact congrArg _ (readWhileGood_of_not_good rfl fuel)
      · rw [readWhileGood_of_good rfl, getline_last hclean hne]
        exact congrArg _ (readWhileGood_of_not_good rfl fuel)
    · rw [readWhileGood_of_good rfl, getline_part hpart, splitEach_part hpart]
      refine congrArg _ (ih ?_)
      rw [List.length_append, List.length_cons] at hfuel
      omega

end InputStream

end Foundations
