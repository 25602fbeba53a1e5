import Mathlib.Algebra.GroupWithZero.Nat
import Mathlib.Algebra.Ring.Int.Defs
import OpenCattus.Foundations.Text

/-!
# Scripts of simple commands

How a shell takes the text of a script for commands and their arguments: blanks and line ends,
quotes, backslashes and comments. The reading stops where the arguments are not given by the
text alone: at an expansion, at a pattern, and at the operators other than `;`.

`read_render_iff` says for which commands the text with their words written side by side is read
back as these commands: every word has to stand for itself (`LiteralWord`). A quote or a
backslash takes a character of the text and gives none, so it shows in the length
(`size_step_le`).
-/

namespace Foundations.Shell

open Text

/-! ## Characters and words -/

def isBlank (c : Char) : Bool := c == ' ' || c == '\t'

/-- What ends a command. -/
def isSeparator (c : Char) : Bool := c == '\n' || c == ';'

/-- Operators that make more than a sequence of simple commands, and the old substitution. -/
def isOperator (c : Char) : Bool :=
  c == '&' || c == '|' || c == '<' || c == '>' || c == '(' || c == ')' || c == '\x60'

def isQuoting (c : Char) : Bool := c == '\'' || c == '"' || c == '\\'

/-- A character that does not stand for itself outside of quotes. -/
def isSpecial (c : Char) : Bool := isBlank c || isSeparator c || isOperator c || isQuoting c

/-- After a dollar sign: a parameter, a substitution or a quote. -/
def startsExpansion (c : Char) : Bool :=
  c.isAlphanum || c == '_' || c == '{' || c == '(' || c == '[' || c == '\'' || c == '"' ||
    c == '@' || c == '*' || c == '#' || c == '?' || c == '$' || c == '!' || c == '-'

/-- A word in the making; quoted characters are hidden. -/
abbrev Word := List (Char × Bool)

/-- The characters that are not quoted. -/
def bare (w : Word) : List (Option Char) := w.map fun p => if p.2 then none else some p.1

/-! ### Brace expressions -/

/-- Behind a brace: what stands before the one that closes it, and what behind. The closing one has
a comma before it, or two dots, at the level of the first. -/
def closeBrace : Nat → Bool → List (Option Char) → Option (List (Option Char) × List (Option Char))
  | _, _, [] => none
  | level, listed, c :: cs =>
    if level = 0 ∧ listed ∧ c = some '}' then some ([], cs)
    else
      let lists := level = 0 && (c = some ',' ||
        (c = some '.' && cs.head? = some (some '.') && cs[1]? ≠ some (some '}')))
      let level := if c = some '{' then level + 1 else if c = some '}' then level - 1 else level
      (closeBrace level (listed || lists) cs).map fun (inside, behind) => (c :: inside, behind)

/-- The numbers of a machine word. -/
def maxInt : Int := 2 ^ 63 - 1

def minInt : Int := -2 ^ 63

/-- `strtoimax`: the number at the beginning, and what stands behind it. -/
def leadingNumber (cs : List Char) : Option (Int × List Char) :=
  let cs := cs.dropWhile fun c => c == ' ' || ('\t' ≤ c && c ≤ '\r')
  let negative := cs.head? = some '-'
  let cs := if negative ∨ cs.head? = some '+' then cs.drop 1 else cs
  match cs.takeWhile Char.isDigit with
  | [] => none
  | digits =>
    let size : Int := digits.foldl (fun n c => n * 10 + (c.toNat - 48)) (0 : Nat)
    let n := if negative then -size else size
    if minInt ≤ n ∧ n ≤ maxInt then some (n, cs.dropWhile Char.isDigit) else none

/-- Numbers or letters from one to the other; too many of them are left alone. -/
def isSequence (first last increment : Int) : Bool :=
  let size := if increment = 0 then 1 else increment.natAbs
  !(first < last && increment = minInt) && !(0 < first && last < minInt + 3 + first) &&
    !(first < 0 && maxInt - 2 + first < last) && (last - first).natAbs / size ≤ 2 ^ 31 - 4

/-- The increment behind the last element of a sequence. -/
def incrementOf : List Char → Option Int
  | [] => some 1
  | '.' :: '.' :: cs =>
    match leadingNumber cs with
    | some (n, []) => some n
    | _ => none
  | _ => none

/-- Two numbers or two letters with two dots between them, and perhaps an increment. -/
def isRange (inside : List Char) : Bool :=
  match findText ['.', '.'] inside with
  | none => false
  | some i =>
    let first := inside.take i
    let last := inside.drop (i + 2)
    match first, last with
    | [a], b :: rest =>
      if a.isAlpha ∧ b.isAlpha then
        (incrementOf rest).any fun increment => isSequence a.toNat b.toNat increment
      else numbers first last
    | _, _ => numbers first last
where
  numbers (first last : List Char) : Bool :=
    let digits := if last.head? = some '-' ∨ last.head? = some '+' then last.drop 1 else last
    match leadingNumber first, leadingNumber last with
    | some (m, []), some (n, rest) =>
      digits.head?.any Char.isDigit && (incrementOf rest).any (isSequence m n)
    | _, _ => false

/-- The braces of a text are expanded, at most `fuel` of its characters on; the flag says that the
text begins here. A range that is none stays, with all that stands between its braces. -/
def expandsBraces : Nat → Bool → List (Option Char) → Bool
  | 0, _, _ => false
  | _, _, [] => false
  | fuel + 1, start, c :: cs =>
    if c = some '{' ∧ ¬ (start ∧ (cs = [] ∨ cs.head? = some (some '}'))) then
      match closeBrace 0 false cs with
      | none => expandsBraces fuel false cs
      | some (inside, behind) =>
        some ',' ∈ inside || (inside.mapM id).any isRange || expandsBraces fuel true behind
    else expandsBraces fuel false cs

def hasBraces (start : Bool) (cs : List (Option Char)) : Bool := expandsBraces cs.length start cs

/-! ### Patterns -/

/-- Behind a bracket: one closes it in the same name, behind a member. -/
def closesBracket (cs : List (Option Char)) : Bool :=
  let members := if cs.head? = some (some '!') ∨ cs.head? = some (some '^') then cs.drop 1 else cs
  match members with
  | [] => false
  | member :: rest => member ≠ some '/' && some ']' ∈ rest.takeWhile (· ≠ some '/')

/-- The marks of a pattern for file names. -/
def hasPattern : List (Option Char) → Bool
  | [] => false
  | c :: cs => c = some '*' || c = some '?' || (c = some '[' && closesBracket cs) || hasPattern cs

/-- The file names that the patterns of the shell match, which depends on its classes and ranges of
characters. -/
class FileNamePatterns where
  /-- A name other than the word itself matches it. -/
  matchesOther : List (Option Char) → Bool
  hasPattern_of_matchesOther : ∀ {cs}, matchesOther cs = true → hasPattern cs = true

/-- The patterns to evaluate with: every bracket expression matches some name. -/
@[reducible] def plainPatterns : FileNamePatterns where
  matchesOther := hasPattern
  hasPattern_of_matchesOther := id

/-! ### Home directories -/

def isNameChar (c : Option Char) : Bool := c.any fun c => c.isAlphanum || c == '_'

/-- What stands behind the bracket that closes a subscript. -/
def behindSubscript : Nat → List (Option Char) → Option (List (Option Char))
  | _, [] => none
  | 0, some ']' :: cs => some cs
  | level + 1, some ']' :: cs => behindSubscript level cs
  | level, some '[' :: cs => behindSubscript (level + 1) cs
  | level, _ :: cs => behindSubscript level cs

def isAssigned : List (Option Char) → Bool
  | some '=' :: _ => true
  | some '+' :: some '=' :: _ => true
  | _ => false

/-- The word has the form of an assignment. -/
def assignedName (cs : List (Option Char)) : Bool :=
  let name := cs.takeWhile isNameChar
  let rest := cs.dropWhile isNameChar
  name ≠ [] && !(name.head?.join.any Char.isDigit) &&
    (isAssigned rest || rest.head? = some (some '[') && (behindSubscript 0 (rest.drop 1)).any isAssigned)

/-- A tilde behind the first equals sign or a colon; the flag says that the equals sign is over. -/
def hasInnerTilde : Bool → List (Option Char) → Bool
  | _, [] => false
  | assigned, c :: cs =>
    ((c = some '=' && !assigned || c = some ':') && cs.head? = some (some '~')) ||
      hasInnerTilde (assigned || c = some '=') cs

/-- A home directory is meant at the beginning, and within what looks like an assignment. -/
def hasTilde (cs : List (Option Char)) : Bool :=
  cs.head? = some (some '~') || (assignedName cs && hasInnerTilde false cs)

/-! ### Expansions -/

section

variable [FileNamePatterns]

/-- The word depends on the files and users of the machine, or makes several words. -/
def expands (w : Word) : Bool :=
  hasBraces true (bare w) || FileNamePatterns.matchesOther (bare w) || hasTilde (bare w)

example : ["k=a=~b", "a.k=~b", "k={ab..cd}", "k={1..x}", "k={}", "k=[!]", "k=[a/b]"].all
      (fun w => !@expands plainPatterns (w.toList.map (·, false))) ∧
    ["k=~b", "k=a:~b", "k={ab,cd}", "k={1..3}", "k={a..e..2}", "k=[!a]", "k=?"].all
      fun w => @expands plainPatterns (w.toList.map (·, false)) := by
  decide

def reservedWords : List String :=
  ["!", "\x7b", "\x7d", "[[", "case", "coproc", "do", "done", "elif", "else", "esac", "fi", "for",
    "function", "if", "in", "select", "then", "time", "until", "while"]

/-- The first word names a command; it is no reserved word and no assignment. -/
def isCommandName (w : String) : Bool :=
  w ∉ reservedWords && !assignedName (w.toList.map some)

/-! ## Reading -/

inductive Mode where
  | plain
  | dollar
  | escape
  | single
  | double
  | doubleDollar
  | doubleEscape
  | comment
  deriving DecidableEq, Repr

structure Reader where
  commands : List (List String) := []
  words : List String := []
  word : Option Word := none
  mode : Mode := .plain
  deriving DecidableEq

namespace Reader

def push (r : Reader) (c : Char) (quoted : Bool) (mode : Mode) : Reader :=
  { r with word := some (r.word.getD [] ++ [(c, quoted)]), mode }

/-- The word so far is no word before its first character or quote. -/
def openQuote (r : Reader) (mode : Mode) : Reader := { r with word := some (r.word.getD []), mode }

def endWord (r : Reader) : Option Reader :=
  match r.word with
  | none => some r
  | some w =>
    if expands w then none
    else
      some { r with words := r.words ++ [String.ofList (w.map Prod.fst)], word := none }

def endCommand (r : Reader) : Option Reader :=
  match r.words with
  | [] => some r
  | w :: ws =>
    if isCommandName w then some { r with commands := r.commands ++ [w :: ws], words := [] }
    else none

/-- A character outside of quotes. -/
def stepPlain (r : Reader) (c : Char) : Option Reader :=
  if isBlank c then r.endWord
  else if isSeparator c then do
    let r ← r.endWord
    if c = ';' ∧ r.words = [] then none else r.endCommand
  else if isOperator c then none
  else if c = '\'' then some (r.openQuote .single)
  else if c = '"' then some (r.openQuote .double)
  else if c = '\\' then some { r with mode := .escape }
  else if c = '$' then some (r.push c false .dollar)
  else if c = '#' ∧ r.word = none then some { r with mode := .comment }
  else some (r.push c false .plain)

/-- A character between double quotes. -/
def stepDouble (r : Reader) (c : Char) : Option Reader :=
  if c = '"' then some { r with mode := .plain }
  else if c = '\\' then some { r with mode := .doubleEscape }
  else if c = '\x60' then none
  else if c = '$' then some (r.push c true .doubleDollar)
  else some (r.push c true .double)

def step (r : Reader) (c : Char) : Option Reader :=
  match r.mode with
  | .plain => r.stepPlain c
  | .dollar => if startsExpansion c then none else { r with mode := .plain }.stepPlain c
  | .escape =>
    -- An escaped line end joins two lines.
    if c = '\n' then some { r with mode := .plain } else some (r.push c true .plain)
  | .single => if c = '\'' then some { r with mode := .plain } else some (r.push c true .single)
  | .double => r.stepDouble c
  | .doubleDollar =>
    if startsExpansion c ∧ c ≠ '\'' ∧ c ≠ '"' then none
    else { r with mode := .double }.stepDouble c
  | .doubleEscape =>
    if c = '\n' then some { r with mode := .double }
    else if c = '$' ∨ c = '\x60' ∨ c = '"' ∨ c = '\\' then some (r.push c true .double)
    else some ((r.push '\\' true .double).push c true .double)
  | .comment =>
    if c = '\n' then do
      let r ← { r with mode := .plain }.endWord
      r.endCommand
    else some r

def run (r : Reader) : List Char → Option Reader
  | [] => some r
  | c :: cs => do
    let r ← r.step c
    r.run cs

end Reader

/-- The last line may do without its end. -/
def terminated (text : String) : List Char :=
  if text.toList.getLast? = some '\n' then text.toList else text.toList ++ ['\n']

/-- The commands of a script, when its text gives them and their arguments. -/
def read (text : String) : Option (List (List String)) := do
  let r ← ({} : Reader).run (terminated text)
  if r.mode = .plain ∧ r.word = none ∧ r.words = [] then some r.commands else none

/-- The words of a command side by side on a line. -/
def renderCommand : List String → String
  | [] => "\n"
  | [w] => w ++ "\n"
  | w :: v :: ws => w ++ " " ++ renderCommand (v :: ws)

def render : List (List String) → String
  | [] => ""
  | words :: commands => renderCommand words ++ render commands

example : @read plainPatterns "echo 'a b' c\\ d # e\n" = some [["echo", "a b", "c d"]] := by decide

example : @read plainPatterns "echo $HOME\n" = none ∧ @read plainPatterns "echo a*\n" = none ∧
    @read plainPatterns "echo $ [b '*'\n" = some [["echo", "$", "[b", "*"]] := by decide

/-! ## Words that stand for themselves -/

/-- No special character, and no expansion; the flag says that a dollar sign comes before. -/
def standsAlone : Bool → List Char → Bool
  | _, [] => true
  | dollar, c :: cs =>
    !isSpecial c && !(dollar && startsExpansion c) && standsAlone (c == '$') cs

structure LiteralWord (w : String) : Prop where
  ne_empty : w ≠ ""
  chars : standsAlone false w.toList = true
  uncommented : w.toList.head? ≠ some '#'
  unexpanded : expands (w.toList.map (·, false)) = false

structure LiteralCommand (words : List String) : Prop where
  name : words.head?.all isCommandName = true
  words : ∀ w ∈ words, LiteralWord w

omit [FileNamePatterns] in
theorem standsAlone_concat {dollar : Bool} {cs : List Char} {c : Char} :
    standsAlone dollar (cs ++ [c]) = true ↔
      standsAlone dollar cs = true ∧ isSpecial c = false ∧
        ((cs.getLast?.elim dollar (· == '$')) = true → startsExpansion c = false) := by
  induction cs generalizing dollar with
  | nil => cases dollar <;> simp [standsAlone]
  | cons d ds ih =>
    have hlast : (d :: ds).getLast?.elim dollar (· == '$') =
        ds.getLast?.elim (d == '$') (· == '$') := by
      rw [List.getLast?_cons]
      cases ds.getLast? <;> rfl
    rw [List.cons_append, standsAlone, standsAlone, hlast]
    simp only [Bool.and_eq_true, ih, and_assoc]

omit [FileNamePatterns] in
theorem standsAlone_left {dollar : Bool} {cs ds : List Char}
    (h : standsAlone dollar (cs ++ ds) = true) : standsAlone dollar cs = true := by
  induction cs generalizing dollar with
  | nil => rfl
  | cons c cs ih =>
    rw [List.cons_append, standsAlone, Bool.and_eq_true] at h
    rw [standsAlone, Bool.and_eq_true]
    exact ⟨h.1, ih h.2⟩

namespace Reader

/-- The reader in the middle of a plain word. -/
def reading (r : Reader) (cs : List Char) : Reader :=
  { r with
    word := if cs = [] then none else some (cs.map (·, false))
    mode := if cs.getLast? = some '$' then .dollar else .plain }

theorem stepPlain_push {r : Reader} {c : Char} (hspecial : isSpecial c = false)
    (hcomment : r.word = none → c ≠ '#') :
    r.stepPlain c = some (r.push c false (if c = '$' then .dollar else .plain)) := by
  simp only [isSpecial, isQuoting, Bool.or_eq_false_iff, beq_eq_false_iff_ne] at hspecial
  obtain ⟨⟨⟨hblank, hseparator⟩, hoperator⟩, ⟨hsingle, hdouble⟩, hescape⟩ := hspecial
  unfold stepPlain
  rw [if_neg (by simp [hblank]), if_neg (by simp [hseparator]), if_neg (by simp [hoperator]),
    if_neg hsingle, if_neg hdouble, if_neg hescape]
  by_cases hdollar : c = '$'
  · rw [if_pos hdollar, if_pos hdollar]
  · rw [if_neg hdollar, if_neg hdollar, if_neg fun h => hcomment h.2 h.1]

omit [FileNamePatterns] in
theorem push_reading (r : Reader) (cs : List Char) (c : Char) :
    (r.reading cs).push c false (if c = '$' then .dollar else .plain) = r.reading (cs ++ [c]) := by
  have hlast : (cs ++ [c]).getLast? = some '$' ↔ c = '$' := by simp
  unfold push reading
  rw [if_congr hlast rfl rfl]
  cases cs <;> simp

theorem step_reading {r : Reader} {cs : List Char} {c : Char}
    (h : standsAlone false (cs ++ [c]) = true) (hcomment : cs = [] → c ≠ '#') :
    (r.reading cs).step c = some (r.reading (cs ++ [c])) := by
  obtain ⟨-, hspecial, hdollar⟩ := standsAlone_concat.mp h
  have hword : (r.reading cs).word = none → c ≠ '#' := by
    intro hnone
    apply hcomment
    by_contra hne
    simp [reading, hne] at hnone
  rw [← push_reading]
  by_cases hlast : cs.getLast? = some '$'
  · have hstep : (r.reading cs).step c =
        if startsExpansion c then none else { r.reading cs with mode := .plain }.stepPlain c := by
      have hmode : (r.reading cs).mode = .dollar := if_pos hlast
      rw [step, hmode]
    rw [hstep, if_neg (by simp [hdollar (by simp [hlast])])]
    exact stepPlain_push hspecial hword
  · have hmode : (r.reading cs).mode = .plain := if_neg hlast
    rw [step, hmode]
    exact stepPlain_push hspecial hword

theorem run_append (r : Reader) (cs ds : List Char) :
    r.run (cs ++ ds) = r.run cs >>= fun r => r.run ds := by
  induction cs generalizing r with
  | nil => rfl
  | cons c cs ih =>
    rw [List.cons_append, run, run]
    cases r.step c with
    | none => rfl
    | some r => exact ih r

theorem run_reading {r : Reader} {cs ds : List Char} (h : standsAlone false (cs ++ ds) = true)
    (hcomment : (cs ++ ds).head? ≠ some '#') :
    (r.reading cs).run ds = some (r.reading (cs ++ ds)) := by
  induction ds generalizing cs with
  | nil => rw [run, List.append_nil]
  | cons d ds ih =>
    rw [List.append_cons] at h hcomment ⊢
    have hstart : standsAlone false (cs ++ [d]) = true := standsAlone_left h
    have hfirst : cs = [] → d ≠ '#' := by
      rintro rfl rfl
      exact hcomment rfl
    rw [run, step_reading hstart hfirst]
    exact ih h hcomment

theorem endWord_of_literal {r : Reader} {w : String} (h : LiteralWord w)
    (hword : r.word = some (w.toList.map (·, false))) :
    r.endWord = some { r with words := r.words ++ [w], word := none } := by
  have hchars : (w.toList.map (·, false)).map Prod.fst = w.toList := by
    rw [List.map_map]
    exact List.map_id _
  unfold endWord
  rw [hword]
  simp only [h.unexpanded, Bool.false_eq_true, if_false, hchars, String.ofList_toList]

/-- A blank or the end of a command also ends a dollar sign. -/
theorem step_delimiter (r : Reader) (cs : List Char) {c : Char}
    (hc : startsExpansion c = false) :
    (r.reading cs).step c = { r.reading cs with mode := .plain }.stepPlain c := by
  by_cases hlast : cs.getLast? = some '$'
  · have hmode : (r.reading cs).mode = .dollar := if_pos hlast
    rw [step, hmode]
    simp [hc]
  · have hmode : (r.reading cs).mode = .plain := if_neg hlast
    rw [step, hmode]
    have hsame : r.reading cs = { r.reading cs with mode := .plain } := by rw [← hmode]
    rw [← hsame]

theorem step_blank {r : Reader} {w : String} (h : LiteralWord w) :
    (r.reading w.toList).step ' ' =
      some { r with words := r.words ++ [w], word := none, mode := .plain } := by
  have hne : w.toList ≠ [] := by simpa using h.ne_empty
  rw [step_delimiter r w.toList (by decide), stepPlain, if_pos (by decide)]
  exact endWord_of_literal h (if_neg hne)

theorem step_lineEnd {r : Reader} {w : String} (h : LiteralWord w)
    (hname : (r.words ++ [w]).head?.all isCommandName = true) :
    (r.reading w.toList).step '\n' =
      some { r with
        commands := r.commands ++ [r.words ++ [w]], words := [], word := none, mode := .plain } := by
  have hne : w.toList ≠ [] := by simpa using h.ne_empty
  have hword : { r.reading w.toList with mode := .plain }.endWord = some
      { r with words := r.words ++ [w], word := none, mode := .plain } :=
    endWord_of_literal h (if_neg hne)
  rw [step_delimiter r w.toList (by decide), stepPlain, if_neg (by decide), if_pos (by decide), hword]
  rw [Option.bind_eq_bind, Option.bind_some, if_neg (by simp), endCommand]
  cases hwords : r.words ++ [w] with
  | nil => simp at hwords
  | cons v vs =>
    rw [hwords] at hname
    simp only [List.head?_cons, Option.all_some] at hname
    simp [hname]

/-- The text of a command of literal words is read as these words. -/
theorem run_renderCommand {r : Reader} {words : List String} (hidle : r.reading [] = r)
    (hne : words ≠ []) (hwords : ∀ w ∈ words, LiteralWord w)
    (hname : (r.words ++ words).head?.all isCommandName = true) :
    r.run (renderCommand words).toList =
      some { r with commands := r.commands ++ [r.words ++ words], words := [] } := by
  induction words generalizing r with
  | nil => exact absurd rfl hne
  | cons w ws ih =>
    have hw := hwords w (List.mem_cons_self ..)
    have hrun : r.run w.toList = some (r.reading w.toList) := by
      have h := @run_reading _ r [] w.toList hw.chars hw.uncommented
      rwa [hidle, List.nil_append] at h
    cases ws with
    | nil =>
      rw [renderCommand, String.toList_append, run_append, hrun]
      change (r.reading w.toList).run ['\n'] = _
      rw [run, step_lineEnd hw hname]
      have hword : r.word = none := (congrArg Reader.word hidle).symm
      have hmode : r.mode = .plain := (congrArg Reader.mode hidle).symm
      rw [← hword, ← hmode]
      rfl
    | cons v vs =>
      have hname' : ((r.words ++ [w]) ++ v :: vs).head?.all isCommandName = true := by
        rwa [List.append_assoc, List.singleton_append]
      have hrest := ih (r := { r with words := r.words ++ [w] })
        (congrArg (fun r' => { r' with words := r.words ++ [w] }) hidle) (by simp)
        (fun x hx => hwords x (List.mem_cons_of_mem _ hx)) hname'
      have hword : r.word = none := (congrArg Reader.word hidle).symm
      have hmode : r.mode = .plain := (congrArg Reader.mode hidle).symm
      rw [renderCommand, String.toList_append, String.toList_append, List.append_assoc, run_append,
        hrun]
      change (r.reading w.toList).run (' ' :: (renderCommand (v :: vs)).toList) = _
      rw [run, step_blank hw, ← hword, ← hmode]
      exact hrest.trans (by rw [List.append_assoc, List.singleton_append])

theorem run_render {r : Reader} {commands : List (List String)} (hidle : r.reading [] = r)
    (hwords : r.words = []) (hne : ∀ words ∈ commands, words ≠ [])
    (hliteral : ∀ words ∈ commands, LiteralCommand words) :
    r.run (render commands).toList = some { r with commands := r.commands ++ commands } := by
  induction commands generalizing r with
  | nil => simp [render, run]
  | cons words commands ih =>
    have hcommand := hliteral words (List.mem_cons_self ..)
    rw [render, String.toList_append, run_append,
      run_renderCommand hidle (hne _ (List.mem_cons_self ..)) hcommand.words
        (by rw [hwords, List.nil_append]; exact hcommand.name), hwords]
    have hrest := ih (r := { r with commands := r.commands ++ [words], words := [] })
      (congrArg (fun r' => { r' with commands := r.commands ++ [words], words := [] }) hidle) rfl
      (fun ws h => hne ws (List.mem_cons_of_mem _ h))
      (fun ws h => hliteral ws (List.mem_cons_of_mem _ h))
    rw [List.nil_append]
    refine hrest.trans ?_
    rw [List.append_assoc, List.singleton_append]

/-! ### What a character gives -/

/-- The characters of words, each word with one for what ends it. -/
def wordsSize (words : List String) : Nat := (words.map fun w => w.length + 1).sum

/-- What has been read so far, as text; a backslash between double quotes may still stand. -/
def size (r : Reader) : Nat :=
  (r.commands.map wordsSize).sum + wordsSize r.words + (r.word.getD []).length +
    if r.mode = .doubleEscape then 1 else 0

omit [FileNamePatterns] in
theorem wordsSize_concat (words : List String) (w : String) :
    wordsSize (words ++ [w]) = wordsSize words + (w.length + 1) := by
  simp [wordsSize]

omit [FileNamePatterns] in
theorem size_push (r : Reader) (c : Char) (quoted : Bool) {mode : Mode}
    (hmode : mode ≠ .doubleEscape) :
    (r.push c quoted mode).size + (if r.mode = .doubleEscape then 1 else 0) = r.size + 1 := by
  unfold push size
  simp only [Option.getD_some, List.length_append, List.length_singleton, if_neg hmode]
  omega

omit [FileNamePatterns] in
theorem size_push_of (r : Reader) (c : Char) (quoted : Bool) {mode old : Mode} (hold : r.mode = old)
    (hmode : mode ≠ .doubleEscape) (hne : old ≠ .doubleEscape) :
    (r.push c quoted mode).size = r.size + 1 := by
  have hsize := size_push r c quoted hmode
  rwa [hold, if_neg hne] at hsize

/-- The end of a word counts for the character that ends it. -/
theorem size_endWord {r r' : Reader} (h : r.endWord = some r') :
    r'.size = r.size + (if r.word = none then 0 else 1) ∧ r'.mode = r.mode := by
  unfold endWord at h
  split at h
  · rename_i hword
    obtain rfl := Option.some.inj h
    simp [hword]
  · rename_i w hword
    split at h
    · cases h
    · obtain rfl := Option.some.inj h
      refine ⟨?_, rfl⟩
      simp only [size, wordsSize_concat, String.length_ofList, List.length_map,
        Option.getD_none, List.length_nil, hword, Option.getD_some, reduceCtorEq, if_false]
      omega

omit [FileNamePatterns] in
theorem size_endCommand {r r' : Reader} (h : r.endCommand = some r') :
    r'.size = r.size ∧ r'.mode = r.mode := by
  unfold endCommand at h
  split at h
  · obtain rfl := Option.some.inj h
    exact ⟨rfl, rfl⟩
  · rename_i w ws hwords
    split at h
    · obtain rfl := Option.some.inj h
      refine ⟨?_, rfl⟩
      simp only [size, hwords, List.map_append, List.sum_append, List.map_cons, List.map_nil,
        List.sum_cons, List.sum_nil]
      simp [wordsSize]
    · cases h

omit [FileNamePatterns] in
theorem size_mode (r : Reader) (mode : Mode) (hmode : mode ≠ .doubleEscape) :
    { r with mode }.size + (if r.mode = .doubleEscape then 1 else 0) = r.size := by
  simp [size, hmode]

omit [FileNamePatterns] in
theorem size_openQuote (r : Reader) {mode : Mode} (hmode : mode ≠ .doubleEscape) :
    (r.openQuote mode).size + (if r.mode = .doubleEscape then 1 else 0) = r.size := by
  simp [size, openQuote, hmode]

/-- A character outside of quotes: the end of a word, a quote or a comment, or a part of a word. -/
theorem stepPlain_cases {r r' : Reader} {c : Char} (hmode : r.mode = .plain)
    (h : r.stepPlain c = some r') :
    (isBlank c = true ∧ r.endWord = some r') ∨
      (isSeparator c = true ∧ ∃ r₁, r.endWord = some r₁ ∧ r₁.endCommand = some r') ∨
      r'.size = r.size ∨
      (isSpecial c = false ∧ (r.word = none → c ≠ '#') ∧
        r' = r.push c false (if c = '$' then .dollar else .plain)) := by
  have hsame : ∀ mode : Mode, mode ≠ .doubleEscape → { r with mode }.size = r.size := by
    intro mode hne
    have hsize := size_mode r _ hne
    rwa [hmode, if_neg (by decide)] at hsize
  have hquote : ∀ mode : Mode, mode ≠ .doubleEscape → (r.openQuote mode).size = r.size := by
    intro mode hne
    have hsize := size_openQuote r hne
    rwa [hmode, if_neg (by decide)] at hsize
  cases hspecial : isSpecial c with
  | false =>
    by_cases hcomment : r.word = none ∧ c = '#'
    · obtain ⟨hword, rfl⟩ := hcomment
      have hstep : r.stepPlain '#' = some { r with mode := .comment } := by
        simp [stepPlain, hword, isBlank, isSeparator, isOperator]
      obtain rfl := Option.some.inj (hstep.symm.trans h)
      exact .inr (.inr (.inl (hsame _ (by decide))))
    · have hword : r.word = none → c ≠ '#' := fun hnone heq => hcomment ⟨hnone, heq⟩
      have hstep := stepPlain_push hspecial hword
      exact .inr (.inr (.inr ⟨rfl, hword, (Option.some.inj (hstep.symm.trans h)).symm⟩))
  | true =>
    unfold stepPlain at h
    split at h
    · exact .inl ⟨‹_›, h⟩
    · split at h
      · rename_i hseparator
        obtain ⟨r₁, hend, hcommand⟩ := Option.bind_eq_some_iff.mp h
        split at hcommand
        · cases hcommand
        · exact .inr (.inl ⟨hseparator, r₁, hend, hcommand⟩)
      · refine .inr (.inr (.inl ?_))
        split at h
        · cases h
        · split at h
          · obtain rfl := Option.some.inj h
            exact hquote _ (by decide)
          · split at h
            · obtain rfl := Option.some.inj h
              exact hquote _ (by decide)
            · split at h
              · obtain rfl := Option.some.inj h
                exact hsame _ (by decide)
              · rename_i hblank hseparator hoperator hsingle hdouble hescape
                simp only [isSpecial, isQuoting] at hspecial
                simp_all

theorem size_stepPlain {r r' : Reader} {c : Char} (hmode : r.mode = .plain)
    (h : r.stepPlain c = some r') : r'.size ≤ r.size + 1 := by
  rcases stepPlain_cases hmode h with ⟨-, hend⟩ | ⟨-, r₁, hend, hcommand⟩ | hsize | ⟨-, -, rfl⟩
  · have hsize := (size_endWord hend).1
    split at hsize <;> omega
  · have hsize := (size_endWord hend).1
    rw [(size_endCommand hcommand).1]
    split at hsize <;> omega
  · omega
  · exact Nat.le_of_eq (size_push_of r c false hmode (by split <;> simp) (by decide))

omit [FileNamePatterns] in
theorem size_stepDouble {r r' : Reader} {c : Char} (hmode : r.mode = .double)
    (h : r.stepDouble c = some r') : r'.size ≤ r.size + 1 := by
  unfold stepDouble at h
  split at h
  · obtain rfl := Option.some.inj h
    have hsize := size_mode r .plain (by decide)
    omega
  · split at h
    · obtain rfl := Option.some.inj h
      simp [size, hmode]
    · split at h
      · cases h
      · split at h
        · obtain rfl := Option.some.inj h
          exact Nat.le_of_eq (size_push_of r c true hmode (by decide) (by decide))
        · obtain rfl := Option.some.inj h
          exact Nat.le_of_eq (size_push_of r c true hmode (by decide) (by decide))

/-- No character gives more than one. -/
theorem size_step_le {r r' : Reader} {c : Char} (h : r.step c = some r') :
    r'.size ≤ r.size + 1 := by
  unfold step at h
  split at h
  · exact size_stepPlain ‹_› h
  · rename_i hmode
    split at h
    · cases h
    · have hsize := size_mode r .plain (by decide)
      have hstep := size_stepPlain rfl h
      omega
  · rename_i hmode
    split at h
    · obtain rfl := Option.some.inj h
      have hsize := size_mode r .plain (by decide)
      omega
    · obtain rfl := Option.some.inj h
      exact Nat.le_of_eq (size_push_of r c true hmode (by decide) (by decide))
  · rename_i hmode
    split at h
    · obtain rfl := Option.some.inj h
      have hsize := size_mode r .plain (by decide)
      omega
    · obtain rfl := Option.some.inj h
      exact Nat.le_of_eq (size_push_of r c true hmode (by decide) (by decide))
  · exact size_stepDouble ‹_› h
  · rename_i hmode
    split at h
    · cases h
    · have hsize := size_mode r .double (by decide)
      have hstep := size_stepDouble rfl h
      omega
  · -- The backslash counted already, so two characters are given for two.
    rename_i hmode
    split at h
    · obtain rfl := Option.some.inj h
      have hsize := size_mode r .double (by decide)
      omega
    · split at h
      · obtain rfl := Option.some.inj h
        have hpush := @size_push r c true .double (by decide)
        omega
      · obtain rfl := Option.some.inj h
        have hfirst := @size_push r '\\' true .double (by decide)
        rw [hmode, if_pos rfl] at hfirst
        rw [@size_push_of (r.push '\\' true .double) c true .double .double rfl (by decide) (by decide)]
        omega
  · rename_i hmode
    split at h
    · obtain ⟨r₁, hend, hcommand⟩ := Option.bind_eq_some_iff.mp h
      have hsize := size_mode r .plain (by decide)
      have hword := (size_endWord hend).1
      rw [(size_endCommand hcommand).1]
      split at hword <;> omega
    · obtain rfl := Option.some.inj h
      omega

theorem size_run_le {r r' : Reader} {cs : List Char} (h : r.run cs = some r') :
    r'.size ≤ r.size + cs.length := by
  induction cs generalizing r with
  | nil =>
    obtain rfl := Option.some.inj h
    simp
  | cons c cs ih =>
    obtain ⟨r₁, hstep, hrun⟩ := Option.bind_eq_some_iff.mp h
    have hfirst := size_step_le hstep
    have hrest := ih hrun
    rw [List.length_cons]
    omega

/-! ### Reading without losses -/

/-- What has been read stands for itself. -/
structure Literal (r : Reader) : Prop where
  commands : ∀ words ∈ r.commands, LiteralCommand words
  words : ∀ w ∈ r.words, LiteralWord w
  word : ∃ cs, standsAlone false cs = true ∧ cs.head? ≠ some '#' ∧ r.reading cs = r

theorem endWord_of_reading {r r' : Reader} {cs : List Char} (hne : cs ≠ [])
    (h : { r.reading cs with mode := .plain }.endWord = some r') :
    expands (cs.map (·, false)) = false ∧
      r' = { r with words := r.words ++ [String.ofList cs], word := none, mode := .plain } := by
  have hword : { r.reading cs with mode := .plain }.word = some (cs.map (·, false)) := if_neg hne
  have hchars : (cs.map (·, false)).map Prod.fst = cs := by
    rw [List.map_map]
    exact List.map_id _
  unfold endWord at h
  rw [hword] at h
  dsimp only at h
  split at h
  · cases h
  · rename_i hexpands
    obtain rfl := Option.some.inj h
    rw [hchars]
    exact ⟨by simpa using hexpands, rfl⟩

/-- After a word ended. -/
theorem literal_endWord {r r' : Reader} {cs : List Char} (hcommands : ∀ words ∈ r.commands,
    LiteralCommand words) (hwords : ∀ w ∈ r.words, LiteralWord w)
    (hchars : standsAlone false cs = true) (hcomment : cs.head? ≠ some '#') (hne : cs ≠ [])
    (h : { r.reading cs with mode := .plain }.endWord = some r') : r'.Literal := by
  obtain ⟨hexpands, rfl⟩ := endWord_of_reading hne h
  have hword : LiteralWord (String.ofList cs) := by
    refine ⟨by simpa using hne, ?_, ?_, ?_⟩ <;> rwa [String.toList_ofList]
  refine ⟨hcommands, ?_, [], rfl, by simp, rfl⟩
  intro w hw
  rcases List.mem_append.mp hw with hw | hw
  · exact hwords w hw
  · rwa [List.mem_singleton.mp hw]

theorem literal_endCommand {r r' : Reader} (hr : r.Literal) (hidle : r.reading [] = r)
    (h : r.endCommand = some r') : r'.Literal := by
  unfold endCommand at h
  split at h
  · obtain rfl := Option.some.inj h
    exact hr
  · rename_i w ws hwords
    split at h
    · rename_i hname
      obtain rfl := Option.some.inj h
      refine ⟨?_, by simp, [], rfl, by simp, congrArg (fun r' => { r' with
        commands := r.commands ++ [w :: ws], words := [] }) hidle⟩
      intro words hmem
      rcases List.mem_append.mp hmem with hmem | hmem
      · exact hr.commands words hmem
      · rw [List.mem_singleton.mp hmem]
        exact ⟨by simpa using hname, fun x hx => hr.words x (hwords ▸ hx)⟩
    · cases h

theorem literal_step {r r' : Reader} {c : Char} (hr : r.Literal) (h : r.step c = some r')
    (hsize : r'.size = r.size + 1) : r'.Literal := by
  obtain ⟨cs, hchars, hcomment, hreading⟩ := hr.word
  have hmode : r.mode = if cs.getLast? = some '$' then .dollar else .plain :=
    (congrArg Reader.mode hreading).symm
  obtain ⟨hdollar, hstep⟩ : (cs.getLast? = some '$' → startsExpansion c = false) ∧
      { r.reading cs with mode := .plain }.stepPlain c = some r' := by
    rw [hreading]
    by_cases hlast : cs.getLast? = some '$'
    · rw [if_pos hlast] at hmode
      rw [step, hmode] at h
      dsimp only at h
      split at h
      · cases h
      · rename_i hstart
        exact ⟨fun _ => by simpa using hstart, h⟩
    · rw [if_neg hlast] at hmode
      rw [step, hmode] at h
      have hsame : r = { r with mode := .plain } := by rw [← hmode]
      exact ⟨fun hd => absurd hd hlast, hsame ▸ h⟩
  have hsize' : { r.reading cs with mode := .plain }.size = r.size := by
    have hplain := size_mode r .plain (by decide)
    rw [hmode, if_neg (by split <;> simp)] at hplain
    rwa [hreading]
  have hword : { r.reading cs with mode := .plain }.word = none ↔ cs = [] := by
    simp [reading]
  rcases stepPlain_cases rfl hstep with ⟨-, hend⟩ | ⟨-, r₁, hend, hcommand⟩ | hsame | ⟨hspecial, hfirst, rfl⟩
  · have hne : cs ≠ [] := by
      intro hnil
      have hgain := (size_endWord hend).1
      rw [if_pos (hword.mpr hnil)] at hgain
      omega
    exact literal_endWord hr.commands hr.words hchars hcomment hne hend
  · have hne : cs ≠ [] := by
      intro hnil
      have hgain := (size_endWord hend).1
      rw [if_pos (hword.mpr hnil)] at hgain
      rw [(size_endCommand hcommand).1] at hsize
      omega
    have hliteral := literal_endWord hr.commands hr.words hchars hcomment hne hend
    refine literal_endCommand hliteral ?_ hcommand
    rw [(endWord_of_reading hne hend).2]
    rfl
  · omega
  · have hchars' : standsAlone false (cs ++ [c]) = true := by
      refine standsAlone_concat.mpr ⟨hchars, hspecial, fun hd => hdollar ?_⟩
      cases hlast : cs.getLast? with
      | none => simp [hlast] at hd
      | some d => simpa [hlast] using hd
    have hcomment' : (cs ++ [c]).head? ≠ some '#' := by
      cases cs with
      | nil => simpa using hfirst (hword.mpr rfl)
      | cons d ds => exact hcomment
    refine ⟨hr.commands, hr.words, cs ++ [c], hchars', hcomment', ?_⟩
    change ((r.reading cs).push c false _).reading (cs ++ [c]) = (r.reading cs).push c false _
    rw [push_reading]
    rfl

/-- No character is lost on the way, so none of them is more than itself. -/
theorem literal_run {r r' : Reader} {cs : List Char} (hr : r.Literal) (h : r.run cs = some r')
    (hsize : r'.size = r.size + cs.length) : r'.Literal := by
  induction cs generalizing r with
  | nil =>
    obtain rfl := Option.some.inj h
    exact hr
  | cons c cs ih =>
    obtain ⟨r₁, hstep, hrun⟩ := Option.bind_eq_some_iff.mp h
    have hfirst := size_step_le hstep
    have hrest := size_run_le hrun
    rw [List.length_cons] at hsize
    exact ih (literal_step hr hstep (by omega)) hrun (by omega)

end Reader

/-! ## The round trip -/

omit [FileNamePatterns] in
theorem length_renderCommand {words : List String} (hne : words ≠ []) :
    (renderCommand words).toList.length = Reader.wordsSize words := by
  induction words with
  | nil => exact absurd rfl hne
  | cons w ws ih =>
    cases ws with
    | nil => simp [renderCommand, Reader.wordsSize, String.length_toList]
    | cons v vs =>
      have hrest := ih (by simp)
      have hblank : " ".toList.length = 1 := by decide
      rw [renderCommand, String.toList_append, String.toList_append, List.length_append,
        List.length_append, hrest, hblank, String.length_toList]
      simp [Reader.wordsSize]

omit [FileNamePatterns] in
theorem length_render {commands : List (List String)} (hne : ∀ words ∈ commands, words ≠ []) :
    (render commands).toList.length = (commands.map Reader.wordsSize).sum := by
  induction commands with
  | nil => rfl
  | cons words commands ih =>
    rw [render, String.toList_append, List.length_append,
      length_renderCommand (hne _ (List.mem_cons_self ..)),
      ih fun ws h => hne ws (List.mem_cons_of_mem _ h), List.map_cons, List.sum_cons]

omit [FileNamePatterns] in
theorem getLast?_renderCommand (words : List String) :
    (renderCommand words).toList.getLast? = some '\n' := by
  induction words with
  | nil => rfl
  | cons w ws ih =>
    cases ws with
    | nil =>
      rw [renderCommand, String.toList_append]
      exact List.getLast?_concat
    | cons v vs =>
      rw [renderCommand, String.toList_append, List.getLast?_append, ih]
      rfl

omit [FileNamePatterns] in
theorem getLast?_render {commands : List (List String)} (hne : commands ≠ []) :
    (render commands).toList.getLast? = some '\n' := by
  induction commands with
  | nil => exact absurd rfl hne
  | cons words commands ih =>
    rw [render, String.toList_append, List.getLast?_append]
    by_cases hnil : commands = []
    · rw [hnil, render, String.toList_empty, List.getLast?_nil, getLast?_renderCommand]
      rfl
    · rw [ih hnil]
      rfl

/-- Commands are read back from their text exactly when their words stand for themselves. -/
theorem read_render_iff {commands : List (List String)} (hne : ∀ words ∈ commands, words ≠ []) :
    read (render commands) = some commands ↔ ∀ words ∈ commands, LiteralCommand words := by
  by_cases hnil : commands = []
  · obtain rfl := hnil
    simp only [List.not_mem_nil, false_imp_iff, implies_true, iff_true]
    rfl
  have hstart : (render commands).toList = terminated (render commands) := by
    rw [terminated, if_pos (getLast?_render hnil)]
  unfold read
  rw [← hstart]
  constructor
  · intro h
    obtain ⟨r, hrun, hfinal⟩ := Option.bind_eq_some_iff.mp h
    split at hfinal
    · rename_i hidle
      obtain rfl := Option.some.inj hfinal
      have hsize : r.size = ({} : Reader).size + (render r.commands).toList.length := by
        rw [length_render hne]
        simp [Reader.size, hidle, Reader.wordsSize]
      exact (Reader.literal_run ⟨by simp, by simp, [], rfl, by simp, rfl⟩ hrun hsize).commands
    · cases hfinal
  · intro h
    rw [Reader.run_render rfl rfl hne h]
    rfl

/-- Empty lines before the first command do not count. -/
theorem read_lineEnd (text : String) : read ("\n" ++ text) = read text := by
  have hlines : terminated ("\n" ++ text) = '\n' :: terminated text ∨
      terminated ("\n" ++ text) = ['\n'] ∧ terminated text = ['\n'] := by
    by_cases hempty : text = ""
    · exact .inr (by subst hempty; decide)
    · have hne : text.toList ≠ [] := by simpa using hempty
      have hlist : ("\n" ++ text).toList = '\n' :: text.toList := by
        rw [String.toList_append]
        rfl
      have hlast : ('\n' :: text.toList).getLast? = text.toList.getLast? := by
        rw [List.getLast?_cons, List.getLast?_eq_some_getLast hne]
        rfl
      left
      rw [terminated, terminated, hlist, hlast]
      split <;> rfl
  have hstep : ({} : Reader).step '\n' = some {} := rfl
  unfold read
  rcases hlines with h | ⟨h₁, h₂⟩
  · rw [h, Reader.run, hstep]
    rfl
  · rw [h₁, h₂]

/-! ## Keys and values -/

omit [FileNamePatterns]

/-- Letters, digits and marks that have no meaning of their own. -/
def isPlain (c : Char) : Bool :=
  c.isAlphanum || c == '-' || c == '_' || c == '.' || c == ',' || c == '/' || c == ':'

def isPlainText (s : String) : Bool := s.toList.all isPlain

/-- A word of plain characters. -/
def PlainWord (w : String) : Prop := w ≠ "" ∧ isPlainText w = true

instance (w : String) : Decidable (PlainWord w) := inferInstanceAs (Decidable (_ ∧ _))

/-- A character that neither ends a word nor begins an expansion. -/
def isQuiet (c : Char) : Bool :=
  !isSpecial c && c != '$' && c != '{' && c != '*' && c != '?' && c != '['

def isVariableName (key : String) : Bool :=
  key ≠ "" && key.toList.all (fun c => c.isAlphanum || c == '_') &&
    !(key.toList.head?.any Char.isDigit)

/-- A value that a shell expands when it stands behind the name of a variable. -/
def tildeValue (value : String) : Bool :=
  value.toList.head? = some '~' || hasInnerTilde true (value.toList.map some)

def loudMarks : List Char :=
  [' ', '\t', '\n', ';', '&', '|', '<', '>', '(', ')', '\x60', '\'', '"', '\\', '$', '{', '*', '?', '[']

theorem isQuiet_of_isPlain {c : Char} (h : isPlain c = true) : isQuiet c = true := by
  by_contra hloud
  have hmem : c ∈ loudMarks := by
    by_contra hout
    simp only [loudMarks, List.mem_cons, List.not_mem_nil, or_false, not_or] at hout
    apply hloud
    simp [isQuiet, isSpecial, isBlank, isSeparator, isOperator, isQuoting, hout]
  have hmarks : loudMarks.all (fun d => !isPlain d) = true := by decide
  have hc := List.all_eq_true.mp hmarks c hmem
  rw [h] at hc
  cases hc

theorem isPlain_of_mem {s : String} {c : Char} (h : isPlainText s = true) (hc : c ∈ s.toList) :
    isPlain c = true :=
  List.all_eq_true.mp h c hc

theorem isPlainText_append {s t : String} (hs : isPlainText s = true) (ht : isPlainText t = true) :
    isPlainText (s ++ t) = true := by
  rw [isPlainText, String.toList_append, List.all_append, Bool.and_eq_true]
  exact ⟨hs, ht⟩

theorem bare_plain (cs : List Char) : bare (cs.map (·, false)) = cs.map some := by
  rw [bare, List.map_map]
  rfl

theorem standsAlone_quiet {cs ds : List Char} (h : ∀ c ∈ cs, isQuiet c = true) :
    standsAlone false (cs ++ ds) = standsAlone false ds := by
  induction cs with
  | nil => rfl
  | cons c cs ih =>
    obtain ⟨hc, hcs⟩ := List.forall_mem_cons.mp h
    simp only [isQuiet, Bool.and_eq_true, Bool.not_eq_true', bne_iff_ne] at hc
    obtain ⟨⟨⟨⟨⟨hspecial, hdollar⟩, -⟩, -⟩, -⟩, -⟩ := hc
    rw [List.cons_append, standsAlone, beq_eq_false_iff_ne.mpr hdollar, ih hcs]
    simp [hspecial]

theorem hasBraces_cons {start : Bool} {c : Option Char} {cs : List (Option Char)}
    (hc : c ≠ some '{') : hasBraces start (c :: cs) = hasBraces false cs :=
  if_neg fun h => hc h.1

theorem hasBraces_quiet {start : Bool} {cs : List Char} {ds : List (Option Char)}
    (h : ∀ c ∈ cs, isQuiet c = true) :
    hasBraces start (cs.map some ++ ds) = hasBraces (start && cs.isEmpty) ds := by
  induction cs generalizing start with
  | nil => simp
  | cons c cs ih =>
    obtain ⟨hc, hcs⟩ := List.forall_mem_cons.mp h
    have hbrace : some c ≠ some '{' := by
      rintro ⟨⟩
      exact absurd hc (by decide)
    rw [List.map_cons, List.cons_append, hasBraces_cons hbrace, ih hcs]
    simp

theorem hasPattern_quiet {cs : List Char} {ds : List (Option Char)} (h : ∀ c ∈ cs, isQuiet c = true) :
    hasPattern (cs.map some ++ ds) = hasPattern ds := by
  induction cs with
  | nil => rfl
  | cons c cs ih =>
    obtain ⟨hc, hcs⟩ := List.forall_mem_cons.mp h
    simp only [isQuiet, Bool.and_eq_true, bne_iff_ne] at hc
    obtain ⟨⟨⟨-, hstar⟩, hquestion⟩, hbracket⟩ := hc
    rw [List.map_cons, List.cons_append, hasPattern, ih hcs]
    simp [hstar, hquestion, hbracket]

theorem hasInnerTilde_quiet {cs : List Char} {ds : List (Option Char)}
    (h : ∀ c ∈ cs, c ≠ '=' ∧ c ≠ ':') :
    hasInnerTilde false (cs.map some ++ ds) = hasInnerTilde false ds := by
  induction cs with
  | nil => rfl
  | cons c cs ih =>
    obtain ⟨hc, hcs⟩ := List.forall_mem_cons.mp h
    rw [List.map_cons, List.cons_append, hasInnerTilde]
    simp [hc, ih hcs]

/-! ### Assignments -/

/-- What stands behind the letters and digits at the beginning of a plain text makes it no
assignment. -/
theorem not_assigned_of_plain {s : String} (h : isPlainText s = true)
    (hne : (s.toList.map some).dropWhile isNameChar ≠ []) (rest : List (Option Char)) :
    assignedName (s.toList.map some ++ rest) = false := by
  obtain ⟨c, cs, hcons⟩ := List.exists_cons_of_ne_nil hne
  have hmem : c ∈ s.toList.map some := by
    refine (List.dropWhile_sublist isNameChar).subset ?_
    rw [hcons]
    exact List.mem_cons_self
  obtain ⟨d, hd, rfl⟩ := List.mem_map.mp hmem
  have hplain := isPlain_of_mem h hd
  have hmarks : d ≠ '=' ∧ d ≠ '+' ∧ d ≠ '[' := by
    refine ⟨?_, ?_, ?_⟩ <;> rintro rfl <;> exact absurd hplain (by decide)
  have hassigned : ∀ ds, isAssigned (some d :: ds) = false := by
    intro ds
    unfold isAssigned
    split <;> simp_all
  unfold assignedName
  rw [List.dropWhile_append, hcons]
  simp [hassigned, hmarks]

theorem assignedName_plain {s : String} (h : isPlainText s = true) :
    assignedName (s.toList.map some) = false := by
  by_cases hne : (s.toList.map some).dropWhile isNameChar = []
  · unfold assignedName
    rw [hne]
    simp [isAssigned]
  · have hnone := not_assigned_of_plain h hne []
    rwa [List.append_nil] at hnone

theorem assignedName_attribute {key : String} (value : String) (hkey : PlainWord key) :
    assignedName ((key.toList ++ '=' :: value.toList).map some) = isVariableName key := by
  rw [List.map_append, List.map_cons]
  have hne : key.toList ≠ [] := String.toList_eq_nil_iff.not.mpr hkey.1
  by_cases hall : ∀ c ∈ key.toList.map some, isNameChar c = true
  · have hletters : key.toList.all (fun c => c.isAlphanum || c == '_') = true := by
      refine List.all_eq_true.mpr fun c hc => ?_
      exact hall (some c) (List.mem_map_of_mem hc)
    unfold assignedName isVariableName
    rw [List.takeWhile_append_of_pos hall, List.dropWhile_append_of_pos hall,
      List.takeWhile_cons_of_neg (by decide), List.dropWhile_cons_of_neg (by decide),
      List.append_nil, hletters]
    obtain ⟨c, cs, hcons⟩ := List.exists_cons_of_ne_nil hne
    simp [hcons, hkey.1, isAssigned]
  · have hrest : (key.toList.map some).dropWhile isNameChar ≠ [] := by
      rw [ne_eq, List.dropWhile_eq_nil_iff]
      exact hall
    rw [not_assigned_of_plain hkey.2 hrest]
    simp only [List.forall_mem_map, not_forall] at hall
    obtain ⟨c, hc, hname⟩ := hall
    have hletters : key.toList.all (fun c => c.isAlphanum || c == '_') = false := by
      refine List.all_eq_false.mpr ⟨c, hc, ?_⟩
      simpa [isNameChar] using hname
    unfold isVariableName
    rw [hletters]
    simp

theorem hasInnerTilde_of_notMem {assigned : Bool} {cs : List (Option Char)}
    (h : some '~' ∉ cs) : hasInnerTilde assigned cs = false := by
  induction cs generalizing assigned with
  | nil => rfl
  | cons c cs ih =>
    have hcs : some '~' ∉ cs := fun hmem => h (List.mem_cons_of_mem _ hmem)
    have hhead : cs.head? ≠ some (some '~') := fun hhead => hcs (List.mem_of_mem_head? hhead)
    rw [hasInnerTilde, ih hcs, decide_eq_false hhead]
    simp

theorem hasTilde_attribute {key value : String} (hkey : PlainWord key) :
    hasTilde ((key.toList ++ '=' :: value.toList).map some) =
      (isVariableName key && tildeValue value) := by
  have hhead : ((key.toList ++ '=' :: value.toList).map some).head? ≠ some (some '~') := by
    obtain ⟨c, cs, hlist⟩ := List.exists_cons_of_ne_nil (String.toList_eq_nil_iff.not.mpr hkey.1)
    rw [hlist, List.cons_append, List.map_cons, List.head?_cons]
    intro htilde
    obtain rfl := Option.some.inj (Option.some.inj htilde)
    exact absurd (isPlain_of_mem hkey.2 (c := '~') (by simp [hlist])) (by decide)
  rw [hasTilde, assignedName_attribute value hkey, decide_eq_false hhead, Bool.false_or]
  cases hname : isVariableName key with
  | false => rfl
  | true =>
    have hmarks : ∀ c ∈ key.toList, c ≠ '=' ∧ c ≠ ':' := by
      intro c hc
      simp only [isVariableName, Bool.and_eq_true, List.all_eq_true] at hname
      have hletter := hname.1.2 c hc
      constructor <;> rintro rfl <;> exact absurd hletter (by decide)
    rw [Bool.true_and, Bool.true_and, List.map_append, hasInnerTilde_quiet hmarks, List.map_cons,
      hasInnerTilde, tildeValue]
    simp

/-! ### Attributes -/

theorem toList_attribute (key value : String) :
    (key ++ "=" ++ value).toList = (key.toList ++ ['=']) ++ value.toList := by
  rw [String.toList_append, String.toList_append]
  rfl

theorem isQuiet_key {key : String} (hkey : PlainWord key) :
    ∀ c ∈ key.toList ++ ['='], isQuiet c = true := by
  intro c hc
  rcases List.mem_append.mp hc with hc | hc
  · exact isQuiet_of_isPlain (isPlain_of_mem hkey.2 hc)
  · obtain rfl := List.mem_singleton.mp hc
    decide

variable [FileNamePatterns]

/-- A value that stands for itself behind a key. -/
structure LiteralValue (key value : String) : Prop where
  chars : standsAlone false value.toList = true
  braces : hasBraces false (value.toList.map some) = false
  pattern : FileNamePatterns.matchesOther ((key ++ "=" ++ value).toList.map some) = false
  tilde : isVariableName key = true → tildeValue value = false

theorem matchesOther_of_not_hasPattern {cs : List (Option Char)} (h : hasPattern cs = false) :
    FileNamePatterns.matchesOther cs = false := by
  by_contra hmatches
  rw [Bool.not_eq_false] at hmatches
  rw [FileNamePatterns.hasPattern_of_matchesOther hmatches] at h
  cases h

/-- An attribute with a plain key is one word, as it is written, exactly when its value stands
for itself. -/
theorem literalWord_attribute_iff {key value : String} (hkey : PlainWord key) :
    LiteralWord (key ++ "=" ++ value) ↔ LiteralValue key value := by
  have hlist := toList_attribute key value
  have hquiet := isQuiet_key hkey
  have htilde := @hasTilde_attribute key value hkey
  rw [List.append_cons] at htilde
  have hchars : standsAlone false (key ++ "=" ++ value).toList = standsAlone false value.toList := by
    rw [hlist, standsAlone_quiet hquiet]
  have hbraces : hasBraces true ((key ++ "=" ++ value).toList.map some) =
      hasBraces false (value.toList.map some) := by
    have hempty : (key.toList ++ ['=']).isEmpty = false := by simp
    rw [hlist, List.map_append, hasBraces_quiet hquiet, hempty]
    rfl
  have hexpands : expands ((key ++ "=" ++ value).toList.map (·, false)) =
      (hasBraces false (value.toList.map some) ||
        FileNamePatterns.matchesOther ((key ++ "=" ++ value).toList.map some) ||
        (isVariableName key && tildeValue value)) := by
    rw [← hlist] at htilde
    rw [expands, bare_plain, hbraces, htilde]
  constructor
  · intro h
    have hfree := h.unexpanded
    rw [hexpands] at hfree
    simp only [Bool.or_eq_false_iff, Bool.and_eq_false_iff] at hfree
    refine ⟨hchars ▸ h.chars, hfree.1.1, hfree.1.2, fun hname => ?_⟩
    rcases hfree.2 with hfalse | hfalse
    · rw [hname] at hfalse
      cases hfalse
    · exact hfalse
  · rintro ⟨hvalue, hbraces, hpattern, hname⟩
    refine ⟨?_, by rw [hchars, hvalue], ?_, ?_⟩
    · intro hempty
      rw [hempty] at hlist
      simp at hlist
    · obtain ⟨c, cs, hcons⟩ := List.exists_cons_of_ne_nil (String.toList_eq_nil_iff.not.mpr hkey.1)
      rw [hlist, hcons, List.cons_append, List.cons_append, List.head?_cons]
      intro hcomment
      obtain rfl := Option.some.inj hcomment
      exact absurd (isPlain_of_mem hkey.2 (c := '#') (by simp [hcons])) (by decide)
    · rw [hexpands, hbraces, hpattern]
      simpa using hname

omit [FileNamePatterns] in
/-- What the expansions look for is not in a plain text. -/
theorem quiet_of_plain {text : String} (h : isPlainText text = true) :
    standsAlone false text.toList = true ∧ (∀ start, hasBraces start (text.toList.map some) = false) ∧
      hasPattern (text.toList.map some) = false := by
  have hquiet : ∀ c ∈ text.toList, isQuiet c = true := fun c hc =>
    isQuiet_of_isPlain (isPlain_of_mem h hc)
  have hchars := @standsAlone_quiet text.toList [] hquiet
  have hbraces := fun start => @hasBraces_quiet start text.toList [] hquiet
  have hpattern := @hasPattern_quiet text.toList [] hquiet
  simp only [List.append_nil] at hchars hbraces hpattern
  exact ⟨hchars, hbraces, hpattern⟩

/-- A plain value stands for itself. -/
theorem literalValue_of_plain {key value : String} (hkey : PlainWord key)
    (hvalue : isPlainText value = true) : LiteralValue key value where
  chars := (quiet_of_plain hvalue).1
  braces := (quiet_of_plain hvalue).2.1 false
  pattern := by
    refine matchesOther_of_not_hasPattern ?_
    rw [toList_attribute, List.map_append, hasPattern_quiet (isQuiet_key hkey),
      (quiet_of_plain hvalue).2.2]
  tilde _ := by
    have htilde : '~' ∉ value.toList := fun hmem => absurd (isPlain_of_mem hvalue hmem) (by decide)
    have hinner : some '~' ∉ value.toList.map some := by simpa using htilde
    have hhead : value.toList.head? ≠ some '~' := fun hhead => htilde (List.mem_of_mem_head? hhead)
    rw [tildeValue, hasInnerTilde_of_notMem hinner, decide_eq_false hhead]
    rfl

theorem literalWord_of_plain {w : String} (h : PlainWord w) : LiteralWord w := by
  obtain ⟨hchars, hbraces, hpattern⟩ := quiet_of_plain h.2
  have hhead : ∀ d, isPlain d = false → w.toList.head? ≠ some d := by
    intro d hd hmem
    rw [isPlain_of_mem h.2 (List.mem_of_mem_head? hmem)] at hd
    cases hd
  have htilde : hasTilde (w.toList.map some) = false := by
    rw [hasTilde, assignedName_plain h.2, List.head?_map]
    have hhome := hhead '~' (by decide)
    cases hfirst : w.toList.head? <;> simp_all
  refine ⟨h.1, hchars, hhead '#' (by decide), ?_⟩
  rw [expands, bare_plain, hbraces, matchesOther_of_not_hasPattern hpattern, htilde]
  rfl

theorem literalCommand_of {w : String} {ws : List String} (hname : isCommandName w = true)
    (h : PlainWord w) (hwords : ∀ v ∈ ws, LiteralWord v) : LiteralCommand (w :: ws) :=
  ⟨hname, List.forall_mem_cons.mpr ⟨literalWord_of_plain h, hwords⟩⟩

end

end Foundations.Shell
