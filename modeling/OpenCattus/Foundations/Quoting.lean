import OpenCattus.Foundations.Shell

/-!
# Quoted words

The words of one command, up to the operator or the line end behind it, and the texts that are
read as one given word wherever a word can begin.

`readsAs_singleQuoted` says so of a text between single quotes, where the quotes of the text
itself are set between double quotes. `readsAs_of_literal` says so of a word that stands for
itself.
-/

namespace Foundations.Shell

section

variable [FileNamePatterns]

/-! ## The words of one command -/

namespace Reader

/-- The end of a command. Only the end of the line ends a comment. -/
def stops (r : Reader) (c : Char) : Bool :=
  match r.mode with
  | .plain | .dollar => c == '|' || isSeparator c
  | .comment => c == '\n'
  | _ => false

/-- No quote and no comment is open. -/
def isClosed (r : Reader) : Bool := r.mode == .plain || r.mode == .dollar

/-- The words of the command, and the text from its end on. -/
def arguments (r : Reader) : List Char → Option (List String × List Char)
  | [] => if r.isClosed then r.endWord.map fun r => (r.words, []) else none
  | c :: cs =>
    if r.stops c then r.endWord.map fun r => (r.words, c :: cs)
    else do
      let r ← r.step c
      r.arguments cs

/-- A word can begin. -/
structure AtWord (r : Reader) : Prop where
  mode : r.mode = .plain
  word : r.word = none

def addWords (r : Reader) (words : List String) : Reader := { r with words := r.words ++ words }

end Reader

/-- The words of a text that is nothing but words. -/
def wordsOf (text : String) : Option (List String) :=
  match ({} : Reader).arguments text.toList with
  | some (words, []) => some words
  | _ => none

/-- The first command of a text: its name and its arguments, and the text from its end on. -/
def firstCommand (text : List Char) : Option (List String × List Char) :=
  (({} : Reader).arguments text).filter fun command => command.1.head?.all isCommandName

example : @firstCommand plainPatterns "echo 'a|b' \"c\" | d".toList = some (["echo", "a|b", "c"], "| d".toList) ∧
    @wordsOf plainPatterns "a 'b" = none ∧ @wordsOf plainPatterns "a; b" = none := by
  decide

/-- The text is read as the word, wherever a word can begin. -/
structure ReadsAs (text : List Char) (w : String) : Prop where
  blank : ∀ (r : Reader) (c : Char) (rest : List Char), r.AtWord → isBlank c = true →
    r.arguments (text ++ c :: rest) = (r.addWords [w]).arguments rest
  stop : ∀ (r : Reader) (c : Char) (rest : List Char), r.AtWord → r.stops c = true →
    r.arguments (text ++ c :: rest) = some (r.words ++ [w], c :: rest)
  last : ∀ r : Reader, r.AtWord → r.arguments text = some (r.words ++ [w], [])

namespace Reader

theorem arguments_of_step {r r' : Reader} {c : Char} {cs : List Char} (hstops : r.stops c = false)
    (hstep : r.step c = some r') : r.arguments (c :: cs) = r'.arguments cs := by
  rw [arguments, if_neg (by rw [hstops]; exact Bool.false_ne_true), hstep]
  rfl

omit [FileNamePatterns] in
theorem stops_of_plain {r : Reader} {c : Char} (hmode : r.mode = .plain ∨ r.mode = .dollar) :
    r.stops c = (c == '|' || isSeparator c) := by
  unfold stops
  rcases hmode with hmode | hmode
  · rw [hmode]
  · rw [hmode]

omit [FileNamePatterns] in
theorem eq_of_isBlank {c : Char} (hc : isBlank c = true) : c = ' ' ∨ c = '\t' := by
  simpa [isBlank] using hc

/-- A blank ends the word. -/
theorem arguments_blank {r : Reader} {c : Char} {rest : List Char}
    (hmode : r.mode = .plain ∨ r.mode = .dollar) (hc : isBlank c = true) :
    r.arguments (c :: rest) =
      { r with mode := .plain }.endWord.bind fun r => r.arguments rest := by
  have hstops : r.stops c = false := by
    rw [stops_of_plain hmode]
    rcases eq_of_isBlank hc with rfl | rfl
    · decide
    · decide
  have hstep : r.step c = { r with mode := .plain }.endWord := by
    have hexpansion : startsExpansion c = false := by
      rcases eq_of_isBlank hc with rfl | rfl
      · decide
      · decide
    rcases hmode with hmode | hmode
    · have hsame : { r with mode := .plain } = r := by rw [← hmode]
      rw [step, hmode, hsame]
      exact if_pos hc
    · rw [step, hmode]
      simp only [hexpansion, Bool.false_eq_true, if_false]
      exact if_pos hc
  rw [arguments, if_neg (by rw [hstops]; exact Bool.false_ne_true), hstep]
  rfl

theorem endWord_mode (r : Reader) (mode : Mode) :
    { r with mode }.endWord = r.endWord.map fun r => { r with mode } := by
  obtain ⟨commands, words, word, old⟩ := r
  cases word with
  | none => rfl
  | some w =>
    unfold endWord
    dsimp only
    split
    · rfl
    · rfl

/-- A text is read as a word when its last character leaves the word complete. -/
theorem readsAs_of_complete {text : List Char} {w : String}
    (h : ∀ r : Reader, r.AtWord → ∃ r' : Reader, (r'.mode = .plain ∨ r'.mode = .dollar) ∧
      (∀ rest, r.arguments (text ++ rest) = r'.arguments rest) ∧
      { r' with mode := .plain }.endWord = some (r.addWords [w])) : ReadsAs text w := by
  have hwords : ∀ (r r' : Reader) (rest : List Char),
      { r' with mode := .plain }.endWord = some (r.addWords [w]) →
      (r'.endWord.map fun r => (r.words, rest)) = some (r.words ++ [w], rest) := by
    intro r r' rest hend
    rw [endWord_mode] at hend
    obtain ⟨r'', hr'', heq⟩ := Option.map_eq_some_iff.mp hend
    have hr := congrArg words heq
    rw [hr'', Option.map_some]
    exact congrArg (fun ws => some (ws, rest)) hr
  constructor
  · intro r c rest hr hc
    obtain ⟨r', hmode, hrest, hend⟩ := h r hr
    rw [hrest, arguments_blank hmode hc, hend, Option.bind_some]
  · intro r c rest hr hc
    obtain ⟨r', hmode, hrest, hend⟩ := h r hr
    have hstops : r'.stops c = true := by
      rw [stops_of_plain (.inl hr.mode)] at hc
      rw [stops_of_plain hmode, hc]
    rw [hrest, arguments, if_pos hstops]
    exact hwords r r' (c :: rest) hend
  · intro r hr
    obtain ⟨r', hmode, hrest, hend⟩ := h r hr
    have hclosed : r'.isClosed = true := by
      unfold isClosed
      rcases hmode with hmode | hmode
      · rw [hmode]
        rfl
      · rw [hmode]
        rfl
    have hlast := hrest []
    rw [List.append_nil] at hlast
    rw [hlast, arguments, if_pos hclosed]
    exact hwords r r' [] hend

end Reader

/-! ## Single quotes -/

/-- A single quote is set between double quotes. -/
def quotedChar (c : Char) : List Char :=
  if c = '\'' then ['\'', '"', '\'', '"', '\''] else [c]

/-- A text between single quotes. -/
def singleQuoted (cs : List Char) : List Char := '\'' :: (cs.flatMap quotedChar ++ ['\''])

/-- What is quoted hides from the expansions. -/
theorem expands_hidden (cs : List Char) : expands (cs.map (·, true)) = false := by
  have hbare : bare (cs.map (·, true)) = List.replicate cs.length none := by
    rw [bare, List.map_map]
    exact List.map_const'
  have hbraces : ∀ n start, hasBraces start (List.replicate n none) = false := by
    intro n
    induction n with
    | zero => exact fun _ => rfl
    | succ n ih =>
      intro start
      rw [List.replicate_succ, hasBraces_cons (by simp)]
      exact ih false
  have hpattern : ∀ n, hasPattern (List.replicate n none) = false := by
    intro n
    induction n with
    | zero => rfl
    | succ n ih =>
      rw [List.replicate_succ, hasPattern, ih]
      rfl
  have htilde : ∀ n, hasTilde (List.replicate n none) = false := by
    intro n
    cases n with
    | zero => rfl
    | succ n => rfl
  unfold expands
  rw [hbare, hbraces, matchesOther_of_not_hasPattern (hpattern _), htilde]
  rfl

namespace Reader

/-- The reader between single quotes. -/
def quoting (r : Reader) (cs : List Char) : Reader :=
  { r with word := some (cs.map (·, true)), mode := .single }

theorem arguments_quotedChar (r : Reader) (cs : List Char) (c : Char) (rest : List Char) :
    (r.quoting cs).arguments (quotedChar c ++ rest) = (r.quoting (cs ++ [c])).arguments rest := by
  have hword : (cs ++ [c]).map (·, true) = cs.map (·, true) ++ [(c, true)] := by
    rw [List.map_append, List.map_singleton]
  unfold quotedChar
  split
  · rename_i hquote
    subst hquote
    -- Out of the single quotes, into the double ones, and back.
    rw [quoting, quoting, hword]
    rfl
  · rename_i hquote
    have hstep : (r.quoting cs).step c = some (r.quoting (cs ++ [c])) := by
      rw [quoting, quoting, hword]
      exact if_neg hquote
    exact arguments_of_step rfl hstep

theorem arguments_quotedChars (r : Reader) (cs ds : List Char) (rest : List Char) :
    (r.quoting cs).arguments (ds.flatMap quotedChar ++ rest) =
      (r.quoting (cs ++ ds)).arguments rest := by
  induction ds generalizing cs with
  | nil => rw [List.flatMap_nil, List.nil_append, List.append_nil]
  | cons d ds ih =>
    rw [List.flatMap_cons, List.append_assoc, arguments_quotedChar, ih, List.append_assoc,
      List.singleton_append]

end Reader

open Reader in
theorem readsAs_singleQuoted (cs : List Char) : ReadsAs (singleQuoted cs) (String.ofList cs) := by
  refine readsAs_of_complete fun r hr => ?_
  refine ⟨{ r with word := some (cs.map (·, true)) }, .inl hr.mode, ?_, ?_⟩
  · intro rest
    have hopen : r.arguments (singleQuoted cs ++ rest) =
        (r.quoting []).arguments (cs.flatMap quotedChar ++ '\'' :: rest) := by
      have hstep : r.step '\'' = some (r.quoting []) := by
        rw [step, hr.mode]
        have hword : r.word.getD [] = [] := by rw [hr.word]; rfl
        change some (r.openQuote .single) = _
        rw [openQuote, hword]
        rfl
      have hstops : r.stops '\'' = false := by
        rw [stops_of_plain (.inl hr.mode)]
        decide
      rw [singleQuoted, List.cons_append, List.append_assoc, List.singleton_append]
      exact arguments_of_step hstops hstep
    rw [hopen, arguments_quotedChars, List.nil_append]
    refine arguments_of_step rfl ?_
    rw [quoting, hr.mode]
    rfl
  · have hchars : (cs.map (·, true)).map Prod.fst = cs := by
      rw [List.map_map]
      exact List.map_id _
    unfold endWord
    simp only [expands_hidden, Bool.false_eq_true, if_false, hchars]
    rw [addWords, ← hr.mode, ← hr.word]

/-! ## Double quotes -/

/-- A text between double quotes: the variables within braces get their values, and a backslash
goes before a dollar sign, a quote or another backslash. The name of a variable is kept while it
is read. -/
def expandQuoted (values : String → String) : Option (List Char) → List Char → List Char
  | none, '\\' :: c :: cs =>
    if c = '$' ∨ c = '\x60' ∨ c = '"' ∨ c = '\\' then c :: expandQuoted values none cs
    else '\\' :: c :: expandQuoted values none cs
  | none, '$' :: '{' :: cs => expandQuoted values (some []) cs
  | none, c :: cs => c :: expandQuoted values none cs
  | some name, '}' :: cs =>
    (values (String.ofList name)).toList ++ expandQuoted values none cs
  | some name, c :: cs => expandQuoted values (some (name ++ [c])) cs
  | none, [] => []
  | some _, [] => []

def expand (values : String → String) (text : String) : String :=
  String.ofList (expandQuoted values none text.toList)

example : expand (fun name => name ++ "!") "a \\$\x7bB\x7d $\x7bB\x7d" = "a $\x7bB\x7d B!" := by
  decide

/-- Neither a backslash nor a dollar sign. -/
def isQuotedPlain (c : Char) : Bool := c != '\\' && c != '$'

omit [FileNamePatterns] in
theorem expandQuoted_plain {values : String → String} {cs : List Char}
    (h : cs.all isQuotedPlain = true) (ds : List Char) :
    expandQuoted values none (cs ++ ds) = cs ++ expandQuoted values none ds := by
  induction cs with
  | nil => rfl
  | cons c cs ih =>
    rw [List.all_cons, Bool.and_eq_true] at h
    have hplain : c ≠ '\\' ∧ c ≠ '$' := by simpa [isQuotedPlain] using h.1
    rw [List.cons_append, expandQuoted, ih h.2, List.cons_append]
    · exact fun _ _ h _ => hplain.1 h
    · exact fun _ h _ => hplain.2 h

omit [FileNamePatterns] in
theorem expand_of_plain {values : String → String} {text : String}
    (h : text.toList.all isQuotedPlain = true) : expand values text = text := by
  have hchars : expandQuoted values none (text.toList ++ []) =
      text.toList ++ expandQuoted values none [] := expandQuoted_plain h []
  rw [List.append_nil] at hchars
  rw [expand, hchars, expandQuoted, List.append_nil, String.ofList_toList]

omit [FileNamePatterns] in
theorem expandQuoted_name {values : String → String} {cs name : List Char} (h : '}' ∉ name)
    (ds : List Char) :
    expandQuoted values (some cs) (name ++ '}' :: ds) =
      (values (String.ofList (cs ++ name))).toList ++ expandQuoted values none ds := by
  induction name generalizing cs with
  | nil => rw [List.nil_append, expandQuoted, List.append_nil]
  | cons c name ih =>
    obtain ⟨hc, hname⟩ := not_or.mp (mt List.mem_cons.mpr h)
    rw [List.cons_append, expandQuoted, ih hname, List.append_assoc, List.singleton_append]
    exact fun h => hc h.symm

omit [FileNamePatterns] in
/-- The only variable of a text gets its value. -/
theorem expand_variable {values : String → String} {before name behind : String}
    (hbefore : before.toList.all isQuotedPlain = true) (hname : '}' ∉ name.toList)
    (hbehind : behind.toList.all isQuotedPlain = true) :
    expand values (before ++ "$\x7b" ++ name ++ "\x7d" ++ behind) =
      before ++ values name ++ behind := by
  apply String.toList_inj.mp
  have htext : (before ++ "$\x7b" ++ name ++ "\x7d" ++ behind).toList =
      before.toList ++ '$' :: '{' :: (name.toList ++ '}' :: behind.toList) := by
    simp
  have hlast : expandQuoted values none (behind.toList ++ []) =
      behind.toList ++ expandQuoted values none [] := expandQuoted_plain hbehind []
  rw [List.append_nil, expandQuoted, List.append_nil] at hlast
  rw [expand, String.toList_ofList, htext, expandQuoted_plain hbefore, expandQuoted,
    expandQuoted_name hname, hlast, List.nil_append, String.ofList_toList]
  simp

/-! ## Words that stand for themselves -/

theorem Reader.arguments_reading {r : Reader} {cs ds : List Char} (rest : List Char)
    (h : standsAlone false (cs ++ ds) = true) (hcomment : (cs ++ ds).head? ≠ some '#') :
    (r.reading cs).arguments (ds ++ rest) = (r.reading (cs ++ ds)).arguments rest := by
  induction ds generalizing cs with
  | nil => rw [List.nil_append, List.append_nil]
  | cons d ds ih =>
    rw [List.append_cons] at h hcomment ⊢
    have hstart : standsAlone false (cs ++ [d]) = true := standsAlone_left h
    have hfirst : cs = [] → d ≠ '#' := by
      rintro rfl rfl
      exact hcomment rfl
    have hstops : (r.reading cs).stops d = false := by
      have hspecial := (standsAlone_concat.mp hstart).2.1
      simp only [isSpecial, isOperator, Bool.or_eq_false_iff] at hspecial
      have hmode : (r.reading cs).mode = .plain ∨ (r.reading cs).mode = .dollar := by
        unfold reading
        dsimp only
        split
        · exact .inr rfl
        · exact .inl rfl
      rw [stops_of_plain hmode, hspecial.1.1.2, Bool.or_false]
      exact hspecial.1.2.1.1.1.1.1.2
    rw [List.cons_append, arguments_of_step hstops (step_reading hstart hfirst)]
    exact ih h hcomment

open Reader in
theorem readsAs_of_literal {w : String} (h : LiteralWord w) : ReadsAs w.toList w := by
  refine readsAs_of_complete fun r hr => ⟨r.reading w.toList, ?_, ?_, ?_⟩
  · unfold reading
    dsimp only
    split
    · exact .inr rfl
    · exact .inl rfl
  · intro rest
    have hidle : r.reading [] = r := by
      rw [reading]
      simp [← hr.mode, ← hr.word]
    have hreading := @arguments_reading _ r [] w.toList rest h.chars h.uncommented
    rwa [hidle, List.nil_append] at hreading
  · have hne : w.toList ≠ [] := by simpa using h.ne_empty
    rw [endWord_of_literal h (if_neg hne), addWords]
    simp [reading, hr.mode, hr.word]

/-! ## Commands of such texts -/

namespace Reader

omit [FileNamePatterns] in
theorem AtWord.addWords {r : Reader} (h : r.AtWord) (words : List String) :
    (r.addWords words).AtWord := ⟨h.mode, h.word⟩

/-- Texts that are read as words, each before a blank. -/
theorem arguments_spaced {r : Reader} {items : List (List Char × String)} (hr : r.AtWord)
    (h : ∀ item ∈ items, ReadsAs item.1 item.2) (rest : List Char) :
    r.arguments (items.flatMap (fun item => item.1 ++ [' ']) ++ rest) =
      (r.addWords (items.map Prod.snd)).arguments rest := by
  induction items generalizing r with
  | nil => rw [List.flatMap_nil, List.map_nil, addWords, List.append_nil, List.nil_append]
  | cons item items ih =>
    obtain ⟨hitem, hitems⟩ := List.forall_mem_cons.mp h
    rw [List.flatMap_cons, List.append_assoc, List.append_assoc, List.singleton_append,
      hitem.blank r ' ' _ hr (by decide), ih (hr.addWords _) hitems, List.map_cons]
    simp [addWords]

/-- The reader after some more words. -/
def after (words : List String) (r : Reader) : Reader := { r with words := words ++ r.words }

theorem endWord_after (words : List String) (r : Reader) :
    (r.after words).endWord = r.endWord.map (after words) := by
  obtain ⟨commands, ws, word, mode⟩ := r
  cases word with
  | none => rfl
  | some w =>
    rw [after, endWord, endWord, apply_ite (Option.map (after words)), Option.map_some, after]
    simp

theorem stepPlain_after (words : List String) {r : Reader} {c : Char}
    (hc : isSeparator c = false) :
    (r.after words).stepPlain c = (r.stepPlain c).map (after words) := by
  have hneg : ¬ isSeparator c = true := by rw [hc]; exact Bool.false_ne_true
  unfold stepPlain
  rw [if_neg hneg, if_neg hneg, endWord_after]
  simp only [apply_ite (Option.map (after words))]
  rfl

omit [FileNamePatterns] in
theorem stepDouble_after (words : List String) (r : Reader) (c : Char) :
    (r.after words).stepDouble c = (r.stepDouble c).map (after words) := by
  unfold stepDouble
  simp only [apply_ite (Option.map (after words))]
  rfl

/-- The words that are complete do not matter for the next character. -/
theorem step_after (words : List String) {r : Reader} {c : Char} (h : r.stops c = false) :
    (r.after words).step c = (r.step c).map (after words) := by
  obtain ⟨commands, ws, word, mode⟩ := r
  cases mode with
  | plain =>
    have hc : isSeparator c = false := (Bool.or_eq_false_iff.mp h).2
    exact stepPlain_after words hc
  | dollar =>
    have hc : isSeparator c = false := (Bool.or_eq_false_iff.mp h).2
    have hplain := stepPlain_after words (r := ⟨commands, ws, word, .plain⟩) hc
    unfold step
    simp only [apply_ite (Option.map (after words))]
    exact if_congr Iff.rfl rfl hplain
  | escape =>
    unfold step
    simp only [apply_ite (Option.map (after words))]
    rfl
  | single =>
    unfold step
    simp only [apply_ite (Option.map (after words))]
    rfl
  | double => exact stepDouble_after words ⟨commands, ws, word, .double⟩ c
  | doubleDollar =>
    have hdouble := stepDouble_after words ⟨commands, ws, word, .double⟩ c
    unfold step
    simp only [apply_ite (Option.map (after words))]
    exact if_congr Iff.rfl rfl hdouble
  | doubleEscape =>
    unfold step
    simp only [apply_ite (Option.map (after words))]
    rfl
  | comment =>
    have hc : c ≠ '\n' := by simpa [stops] using h
    unfold step
    simp only [if_neg hc]
    rfl

omit [FileNamePatterns] in
theorem stops_after (words : List String) (r : Reader) (c : Char) :
    (r.after words).stops c = r.stops c := rfl

theorem arguments_after (words : List String) (r : Reader) (cs : List Char) :
    (r.after words).arguments cs =
      (r.arguments cs).map fun (ws, rest) => (words ++ ws, rest) := by
  have hend : ∀ (r : Reader) (rest : List Char),
      ((r.after words).endWord.map fun r => (r.words, rest)) =
        (r.endWord.map fun r => (r.words, rest)).map fun (ws, rest) => (words ++ ws, rest) := by
    intro r rest
    rw [endWord_after, Option.map_map, Option.map_map]
    rfl
  induction cs generalizing r with
  | nil =>
    have hclosed : (r.after words).isClosed = r.isClosed := rfl
    rw [arguments, arguments, hclosed]
    by_cases h : r.isClosed = true
    · rw [if_pos h, if_pos h, hend]
    · rw [if_neg h, if_neg h]
      rfl
  | cons c cs ih =>
    rw [arguments, arguments, stops_after]
    by_cases hstops : r.stops c = true
    · rw [if_pos hstops, if_pos hstops, hend]
    · rw [if_neg hstops, if_neg hstops, step_after words (Bool.eq_false_iff.mpr hstops)]
      cases r.step c with
      | none => rfl
      | some r' => exact ih r'

theorem endWord_word {r r' : Reader} (h : r.endWord = some r') : r'.word = none := by
  obtain ⟨commands, ws, word, mode⟩ := r
  cases word with
  | none =>
    cases h
    rfl
  | some w =>
    unfold endWord at h
    dsimp only at h
    split at h
    · cases h
    · cases h
      rfl

/-- A text of words leaves the reader where the next word can begin. -/
theorem arguments_of_words {r : Reader} {cs : List Char} {words : List String}
    (h : r.arguments cs = some (words, [])) :
    ∃ r' : Reader, r'.AtWord ∧ r'.words = words ∧
      ∀ rest, r.arguments (cs ++ ' ' :: rest) = r'.arguments rest := by
  induction cs generalizing r with
  | nil =>
    unfold arguments at h
    split at h
    · rename_i hclosed
      have hmode : r.mode = .plain ∨ r.mode = .dollar := by simpa [isClosed] using hclosed
      obtain ⟨r', hr', heq⟩ := Option.map_eq_some_iff.mp h
      have hend : { r with mode := .plain }.endWord = some { r' with mode := .plain } := by
        rw [endWord_mode, hr', Option.map_some]
      have hword : r'.word = none := endWord_word hr'
      refine ⟨{ r' with mode := .plain }, ⟨rfl, hword⟩, congrArg Prod.fst heq, ?_⟩
      intro rest
      rw [List.nil_append, arguments_blank hmode (by decide), hend, Option.bind_some]
    · cases h
  | cons c cs ih =>
    rw [arguments] at h
    split at h
    · obtain ⟨r', -, heq⟩ := Option.map_eq_some_iff.mp h
      cases congrArg Prod.snd heq
    · rename_i hstops
      obtain ⟨r₁, hstep, hrest⟩ := Option.bind_eq_some_iff.mp h
      obtain ⟨r', hr', hwords, hread⟩ := ih hrest
      refine ⟨r', hr', hwords, fun rest => ?_⟩
      rw [List.cons_append, arguments_of_step (Bool.eq_false_iff.mpr hstops) hstep]
      exact hread rest

end Reader

/-- Words that are read side by side, and what is read behind them. -/
theorem arguments_spaced_words {items : List (List Char × String)}
    (h : ∀ item ∈ items, ReadsAs item.1 item.2) (text : List Char) :
    ({} : Reader).arguments (items.flatMap (fun item => item.1 ++ [' ']) ++ text) =
      (({} : Reader).arguments text).map fun (ws, rest) => (items.map Prod.snd ++ ws, rest) := by
  rw [Reader.arguments_spaced ⟨rfl, rfl⟩ h text, ← Reader.arguments_after]
  simp [Reader.addWords, Reader.after]

theorem wordsOf_spaced {items : List (List Char × String)}
    (h : ∀ item ∈ items, ReadsAs item.1 item.2) {text command : String}
    (hcommand : command.toList = items.flatMap (fun item => item.1 ++ [' ']) ++ text.toList) :
    wordsOf command = (wordsOf text).map (items.map Prod.snd ++ ·) := by
  rw [wordsOf, wordsOf, hcommand, arguments_spaced_words h]
  cases ({} : Reader).arguments text.toList with
  | none => rfl
  | some read =>
    obtain ⟨ws, rest⟩ := read
    cases rest with
    | nil => rfl
    | cons c cs => rfl

/-- A command of such words, a text of words and an operator. -/
theorem firstCommand_spaced {items : List (List Char × String)}
    (h : ∀ item ∈ items, ReadsAs item.1 item.2) {name : String}
    (hfirst : (items.map Prod.snd).head? = some name) (hname : isCommandName name = true)
    {text : String} {words : List String} (htext : wordsOf text = some words) (rest : List Char) :
    firstCommand
        (items.flatMap (fun item => item.1 ++ [' ']) ++ (text.toList ++ ' ' :: '|' :: rest)) =
      some (items.map Prod.snd ++ words, '|' :: rest) := by
  have hwords : ({} : Reader).arguments text.toList = some (words, []) := by
    unfold wordsOf at htext
    split at htext
    · rename_i heq
      rw [heq, Option.some.inj htext]
    · cases htext
  obtain ⟨r', hr', hread, hrest⟩ := Reader.arguments_of_words hwords
  have hstops : r'.stops '|' = true := by
    rw [Reader.stops_of_plain (.inl hr'.mode)]
    rfl
  have hend : r'.endWord = some r' := by
    rw [Reader.endWord, hr'.word]
  have hall : (items.map Prod.snd ++ words).head?.all isCommandName = true := by
    rw [List.head?_append, hfirst]
    exact hname
  rw [firstCommand, arguments_spaced_words h, hrest, Reader.arguments, if_pos hstops, hend,
    Option.map_some, Option.map_some, hread]
  exact Option.filter_some_pos hall

end

end Foundations.Shell
