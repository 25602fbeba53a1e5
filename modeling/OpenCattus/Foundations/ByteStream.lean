import Mathlib.Data.List.Basic

/-!
# Streams of bytes

A stream whose `read` fills a buffer of the caller. A read that meets the end of the content gives
what is left and sets both state bits, so a loop that stops there has bytes in the buffer that it
has not seen.

`exists_chunks` divides a content into full chunks and a shorter rest.
-/

namespace Foundations

/-- What is still to be read, the state bits, and the number of bytes of the last read. -/
structure ByteStream where
  rest : List UInt8
  eof : Bool := false
  fail : Bool := false
  gcount : Nat := 0
  deriving DecidableEq, Repr

namespace ByteStream

def good (stream : ByteStream) : Bool := !stream.eof && !stream.fail

/-- `std::istream::read` to the front of a buffer; what stands behind is kept. -/
def read (count : Nat) (stream : ByteStream) (buffer : List UInt8) : ByteStream × List UInt8 :=
  if stream.good = false then ({ stream with fail := true, gcount := 0 }, buffer)
  else
    let bytes := stream.rest.take count
    let short := decide (bytes.length < count)
    ({ rest := stream.rest.drop count, eof := short, fail := short, gcount := bytes.length },
      bytes ++ buffer.drop bytes.length)

section Reads

variable {bytes rest buffer : List UInt8} {gcount count : Nat}

theorem read_full (h : bytes.length = count) :
    read count ⟨bytes ++ rest, false, false, gcount⟩ buffer =
      (⟨rest, false, false, count⟩, bytes ++ buffer.drop count) := by
  subst h
  simp [read, good]

theorem read_short (h : bytes.length < count) :
    read count ⟨bytes, false, false, gcount⟩ buffer =
      (⟨[], true, true, bytes.length⟩, bytes ++ buffer.drop bytes.length) := by
  have hle := Nat.le_of_lt h
  simp [read, good, List.take_of_length_le hle, hle, h]

end Reads

end ByteStream

/-- Full chunks of a content, and what is left behind them. -/
theorem exists_chunks {α : Type} {size : Nat} (hpos : 0 < size) (content : List α) :
    ∃ (chunks : List (List α)) (rest : List α), content = chunks.flatten ++ rest ∧
      (∀ chunk ∈ chunks, chunk.length = size) ∧ rest.length < size := by
  induction hlength : content.length using Nat.strongRecOn generalizing content with
  | ind n ih =>
    subst hlength
    by_cases hshort : content.length < size
    · exact ⟨[], content, rfl, by simp, hshort⟩
    · have hdrop : (content.drop size).length < content.length := by
        rw [List.length_drop]
        omega
      obtain ⟨chunks, rest, hcontent, hchunks, hrest⟩ := ih _ hdrop (content.drop size) rfl
      refine ⟨content.take size :: chunks, rest, ?_, ?_, hrest⟩
      · rw [List.flatten_cons, List.append_assoc, ← hcontent, List.take_append_drop]
      · intro chunk hchunk
        rcases List.mem_cons.mp hchunk with rfl | hchunk
        · rw [List.length_take, Nat.min_eq_left (Nat.not_lt.mp hshort)]
        · exact hchunks chunk hchunk

theorem length_le_length_flatten {α : Type} {size : Nat} (hpos : 0 < size)
    {chunks : List (List α)} (h : ∀ chunk ∈ chunks, chunk.length = size) :
    chunks.length ≤ chunks.flatten.length := by
  induction chunks with
  | nil => exact Nat.le_refl 0
  | cons chunk chunks ih =>
    rw [List.forall_mem_cons] at h
    have hrest := ih h.2
    rw [List.flatten_cons, List.length_append, List.length_cons, h.1]
    omega

end Foundations
