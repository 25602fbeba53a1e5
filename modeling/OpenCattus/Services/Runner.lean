import OpenCattus.Foundations.Streams

/-!
# The output of a command

A command that runs is read part by part. The end of its output is kept twice: in the bits of the
stream, and in the flag of the proxy. A read that fails clears the flag, and its caller sets the
flag again, with an empty part as the result.

`getUntil_exact_iff` says for which outputs the calls return what was written and nothing else.
-/

namespace OpenCattus

open Foundations Foundations.Text InputStream

/-! ## The proxy -/

structure CommandProxy where
  valid : Bool
  hasProcess : Bool
  pipeStream : InputStream
  deriving DecidableEq, Repr

namespace CommandProxy

/-- `runCommandIter`: the proxy of a child that writes `output`. -/
def runCommandIter (output : String) : CommandProxy where
  valid := true
  hasProcess := true
  pipeStream := ⟨output.toList, false, false⟩

/-- The callback of `getUntil`. -/
def readPart (chr : Char) (proxy : CommandProxy) : String × CommandProxy :=
  match proxy.pipeStream.getline chr with
  | (some line, pipe) => (String.ofList line, { proxy with pipeStream := pipe })
  | (none, pipe) => ("", { proxy with pipeStream := pipe, valid := false })

/-- `retrieveLine`: whether the stream was good, and what the callback read then. -/
def retrieveLine (linecheck : CommandProxy → String × CommandProxy) (proxy : CommandProxy) :
    (Bool × Option String) × CommandProxy :=
  if proxy.pipeStream.good then
    let (line, proxy) := linecheck proxy
    ((true, some line), proxy)
  else ((proxy.pipeStream.good, none), proxy)

/-- The flag that the callback may have cleared is overwritten. -/
def getUntil (chr : Char) (proxy : CommandProxy) : Option String × CommandProxy :=
  if !proxy.valid then (none, proxy)
  else
    let ((newValid, outLine), proxy) := retrieveLine (readPart chr) proxy
    (outLine, { proxy with valid := newValid })

def getline (proxy : CommandProxy) : Option String × CommandProxy := proxy.getUntil '\n'

/-- What the call behind `n` others returns. -/
def nthResult (chr : Char) : Nat → CommandProxy → Option String
  | 0, proxy => (proxy.getUntil chr).1
  | n + 1, proxy => nthResult chr n (proxy.getUntil chr).2

/-! ## What is to be returned -/

/-- The parts of the output that a separator ends, and the last one unless it is empty. -/
def writtenParts (chr : Char) (output : String) : List String :=
  (segments chr output.toList).map String.ofList

/-- The calls return the parts in their order, and then nothing. -/
def ExactlyWritten (chr : Char) (output : String) : Prop :=
  ∀ n, nthResult chr n (runCommandIter output) = (writtenParts chr output)[n]?

/-! ## What is returned -/

variable {chr : Char} {rest part : List Char}

/-- A proxy whose stream is read. -/
def reading (rest : List Char) : CommandProxy := ⟨true, true, ⟨rest, false, false⟩⟩

theorem getUntil_of_good {proxy : CommandProxy} (hvalid : proxy.valid = true)
    (hgood : proxy.pipeStream.good = true) :
    proxy.getUntil chr =
      (some (proxy.readPart chr).1, { (proxy.readPart chr).2 with valid := true }) := by
  unfold getUntil retrieveLine
  rw [if_neg (by simp [hvalid]), if_pos hgood]

theorem getUntil_part (h : chr ∉ part) :
    (reading (part ++ chr :: rest)).getUntil chr = (some (String.ofList part), reading rest) := by
  have hread : (reading (part ++ chr :: rest)).readPart chr =
      (String.ofList part, reading rest) := by
    simp only [readPart, reading, getline_part h]
  rw [getUntil_of_good rfl rfl, hread]
  rfl

/-- At the end of the content a call still returns a part. -/
theorem getUntil_last (h : chr ∉ part) : ∃ stream : InputStream, stream.good = false ∧
    (reading part).getUntil chr = (some (String.ofList part), ⟨true, true, stream⟩) := by
  by_cases hne : part = []
  · subst hne
    exact ⟨⟨[], true, true⟩, rfl, rfl⟩
  · refine ⟨⟨[], true, false⟩, rfl, ?_⟩
    have hread : (reading part).readPart chr =
        (String.ofList part, ⟨true, true, ⟨[], true, false⟩⟩) := by
      simp only [readPart, reading, getline_last h hne]
    rw [getUntil_of_good rfl rfl, hread]

theorem nthResult_invalid (n : Nat) {proxy : CommandProxy} (h : proxy.valid = false) :
    nthResult chr n proxy = none := by
  have hcall : proxy.getUntil chr = (none, proxy) := by simp [getUntil, h]
  induction n with
  | zero => rw [nthResult, hcall]
  | succ n ih => rw [nthResult, hcall, ih]

theorem nthResult_not_good (n : Nat) {stream : InputStream} (h : stream.good = false) :
    nthResult chr n ⟨true, true, stream⟩ = none := by
  have hcall : (⟨true, true, stream⟩ : CommandProxy).getUntil chr =
      (none, ⟨false, true, stream⟩) := by simp [getUntil, retrieveLine, h]
  cases n with
  | zero => rw [nthResult, hcall]
  | succ n => rw [nthResult, hcall, nthResult_invalid n rfl]

/-- The calls return the pieces between the separators, also an empty last one. -/
theorem nthResult_reading (chr : Char) (n : Nat) (content : List Char) :
    nthResult chr n (reading content) =
      ((splitEach (· == chr) content).map String.ofList)[n]? := by
  induction n generalizing content with
  | zero =>
    rcases exists_part chr content with hclean | ⟨part, rest, hpart, rfl⟩
    · obtain ⟨stream, -, hcall⟩ := getUntil_last hclean
      rw [nthResult, hcall, splitEach_last hclean]
      rfl
    · rw [nthResult, getUntil_part hpart, splitEach_part hpart]
      rfl
  | succ n ih =>
    rcases exists_part chr content with hclean | ⟨part, rest, hpart, rfl⟩
    · obtain ⟨stream, hstream, hcall⟩ := getUntil_last hclean
      rw [nthResult, hcall, splitEach_last hclean]
      simpa using nthResult_not_good n hstream
    · rw [nthResult, getUntil_part hpart, splitEach_part hpart, List.map_cons,
        List.getElem?_cons_succ]
      exact ih rest

/-- The calls return what was written, and then nothing, if and only if something was written and
a separator is not the end of it. -/
theorem getUntil_exact_iff (chr : Char) (output : String) :
    ExactlyWritten chr output ↔ ¬ EndsWith chr output.toList := by
  have hcalls : ∀ n, nthResult chr n (runCommandIter output) =
      ((splitEach (· == chr) output.toList).map String.ofList)[n]? :=
    fun n => nthResult_reading chr n output.toList
  constructor
  · intro h hends
    -- The call behind the last part returns an empty one.
    have hextra := h (writtenParts chr output).length
    rw [hcalls, splitEach_of_endsWith hends] at hextra
    simp [writtenParts] at hextra
  · intro h n
    rw [hcalls, splitEach_of_not_endsWith h]
    rfl

/-- The line that was written is followed by an empty one. -/
theorem getline_after_last_line :
    ¬ ExactlyWritten '\n' "a\n" ∧ (runCommandIter "a\n").getline.2.getline.1 = some "" ∧
      writtenParts '\n' "a\n" = ["a"] := by
  refine ⟨?_, by decide, by decide⟩
  intro h
  exact absurd (h 1) (by decide)

end CommandProxy

end OpenCattus
