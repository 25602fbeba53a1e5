import OpenCattus.Basic
import OpenCattus.Foundations.ByteStream

/-!
# Checksums

`files::checksum` of a text and of a file. The file is read in chunks: a loop that feeds full
buffers to the digest, and a branch for the bytes of the read that ended the loop.

`checksumFile_fed` says what the digest is fed, `checksumFile_exact` that this is the checksum of
the content for every chunk size that a buffer can have.
-/

namespace OpenCattus

open Foundations

/-! ## The digest -/

/-- `Glib::Checksum` of one of its types. -/
structure GlibChecksum where
  State : Type
  init : State
  update : State → List UInt8 → State
  getString : State → String

/-- A digest depends on the bytes it is fed and not on how they are divided. -/
structure GlibChecksum.Lawful (glib : GlibChecksum) : Prop where
  update_update : ∀ state xs ys,
    glib.update (glib.update state xs) ys = glib.update state (xs ++ ys)
  update_nil : ∀ state, glib.update state [] = state

theorem GlibChecksum.Lawful.foldl_update {glib : GlibChecksum} (h : glib.Lawful)
    (chunks : List (List UInt8)) (state : glib.State) :
    chunks.foldl glib.update state = glib.update state chunks.flatten := by
  induction chunks generalizing state with
  | nil => exact (h.update_nil state).symm
  | cons chunk chunks ih => rw [List.foldl_cons, ih, h.update_update, List.flatten_cons]

namespace Files

inductive ChecksumFailure where
  | filesystemError (what path : String)
  | lengthError (what : String)
  deriving DecidableEq, Repr

/-- `checksum` of a text. -/
def checksum (glib : GlibChecksum) (data : List UInt8) : String :=
  glib.getString (glib.update glib.init data)

/-- The loop of `checksum` over the reads of a file, at most `fuel` times; `none` when it goes
on. -/
def readChunks (glib : GlibChecksum) :
    Nat → ByteStream → List UInt8 → glib.State → Option (ByteStream × List UInt8 × glib.State)
  | 0, _, _, _ => none
  | fuel + 1, file, buffer, state =>
    let (file, buffer) := file.read buffer.length buffer
    if file.fail then some (file, buffer, state)
    else readChunks glib fuel file buffer (glib.update state (buffer.take file.gcount))

/-- `checksum` of a file. The disk has the bytes of the files that can be opened; no vector is
longer than `vectorMaxSize`. -/
def checksumFile (glib : GlibChecksum) (disk : String → Option (List UInt8)) (fuel : Nat)
    (path : String) (chunkSize : Nat) : Option (Except ChecksumFailure String) :=
  match disk path with
  | none => some (.error (.filesystemError "Failed to open file" path))
  | some content =>
    if vectorMaxSize < chunkSize then
      some (.error (.lengthError "cannot create std::vector larger than max_size()"))
    else
      (readChunks glib fuel { rest := content } (List.replicate chunkSize 0) glib.init).map
        fun (file, buffer, state) =>
          -- The bytes of the read that failed.
          let state :=
            if file.gcount > 0 then glib.update state (buffer.take file.gcount) else state
          .ok (glib.getString state)

/-! ## The loop -/

section Loop

variable {glib : GlibChecksum} {fuel gcount : Nat} {chunk rest buffer : List UInt8}
  {chunks : List (List UInt8)} {state : glib.State}

theorem readChunks_full (h : chunk.length = buffer.length) :
    readChunks glib (fuel + 1) ⟨chunk ++ rest, false, false, gcount⟩ buffer state =
      readChunks glib fuel ⟨rest, false, false, chunk.length⟩ chunk (glib.update state chunk) := by
  have hdrop : buffer.drop chunk.length = [] := by rw [h, List.drop_length]
  rw [readChunks, ByteStream.read_full h, ← h, hdrop, List.append_nil]
  dsimp only
  rw [List.take_length, if_neg Bool.false_ne_true]

theorem readChunks_short (h : rest.length < buffer.length) :
    readChunks glib (fuel + 1) ⟨rest, false, false, gcount⟩ buffer state =
      some (⟨[], true, true, rest.length⟩, rest ++ buffer.drop rest.length, state) := by
  rw [readChunks, ByteStream.read_short h]
  rfl

/-- The loop feeds the full chunks in their order and leaves what stands behind them at the front
of the buffer. -/
theorem readChunks_eq (hchunks : ∀ chunk ∈ chunks, chunk.length = buffer.length)
    (hrest : rest.length < buffer.length) (hfuel : chunks.length < fuel) :
    ∃ buffer', readChunks glib fuel ⟨chunks.flatten ++ rest, false, false, gcount⟩ buffer state =
      some (⟨[], true, true, rest.length⟩, rest ++ buffer', chunks.foldl glib.update state) := by
  induction chunks generalizing fuel gcount buffer state with
  | nil =>
    obtain ⟨fuel, rfl⟩ := Nat.exists_eq_succ_of_ne_zero (Nat.ne_of_gt hfuel)
    exact ⟨buffer.drop rest.length, readChunks_short hrest⟩
  | cons chunk chunks ih =>
    rw [List.forall_mem_cons] at hchunks
    obtain ⟨hchunk, hchunks⟩ := hchunks
    obtain ⟨fuel, rfl⟩ : ∃ k, fuel = k + 1 := ⟨fuel - 1, by omega⟩
    rw [List.length_cons] at hfuel
    rw [List.flatten_cons, List.append_assoc, readChunks_full hchunk, List.foldl_cons]
    rw [← hchunk] at hchunks hrest
    exact ih hchunks hrest (by omega)

end Loop

/-! ## The whole file -/

section File

variable {disk : String → Option (List UInt8)} {path : String} {content : List UInt8}
  {chunkSize : Nat}

/-- The digest is fed the bytes of the file, once and in their order. -/
theorem checksumFile_fed (hfile : disk path = some content) (hpos : 0 < chunkSize)
    (hmax : chunkSize ≤ vectorMaxSize) :
    ∃ chunks : List (List UInt8), chunks.flatten = content ∧
      ∀ (glib : GlibChecksum) (fuel : Nat), content.length < fuel →
        checksumFile glib disk fuel path chunkSize =
          some (.ok (glib.getString (chunks.foldl glib.update glib.init))) := by
  obtain ⟨chunks, rest, rfl, hchunks, hrest⟩ := exists_chunks hpos content
  have hcount := length_le_length_flatten hpos hchunks
  refine ⟨chunks ++ if rest = [] then [] else [rest], ?_, ?_⟩
  · by_cases hnil : rest = []
    · simp [hnil]
    · simp [hnil]
  · intro glib fuel hfuel
    rw [List.length_append] at hfuel
    obtain ⟨buffer', hloop⟩ : ∃ buffer', readChunks glib fuel { rest := chunks.flatten ++ rest }
        (List.replicate chunkSize 0) glib.init =
        some (⟨[], true, true, rest.length⟩, rest ++ buffer', chunks.foldl glib.update glib.init) :=
      readChunks_eq (by simpa using hchunks) (by simpa using hrest) (by omega)
    rw [checksumFile, hfile]
    dsimp only
    rw [if_neg (Nat.not_lt.mpr hmax), hloop, Option.map_some]
    by_cases hnil : rest = []
    · simp [hnil]
    · simp [hnil, List.length_pos_of_ne_nil hnil]

/-- The checksum of a file is the one of its content, whatever the chunk size; a chunk size that
no buffer can have ends the call before a byte is read. -/
theorem checksumFile_exact (hfile : disk path = some content) (hpos : 0 < chunkSize) :
    (chunkSize ≤ vectorMaxSize → ∃ chunks : List (List UInt8), chunks.flatten = content ∧
      ∀ (glib : GlibChecksum) (fuel : Nat), content.length < fuel →
        checksumFile glib disk fuel path chunkSize =
            some (.ok (glib.getString (chunks.foldl glib.update glib.init))) ∧
          (glib.Lawful → checksumFile glib disk fuel path chunkSize =
            some (.ok (checksum glib content)))) ∧
    (vectorMaxSize < chunkSize → ∀ (glib : GlibChecksum) (fuel : Nat),
      checksumFile glib disk fuel path chunkSize =
        some (.error (.lengthError "cannot create std::vector larger than max_size()"))) := by
  constructor
  · intro hmax
    obtain ⟨chunks, hflatten, hfed⟩ := checksumFile_fed hfile hpos hmax
    refine ⟨chunks, hflatten, fun glib fuel hfuel => ⟨hfed glib fuel hfuel, fun hlawful => ?_⟩⟩
    rw [hfed glib fuel hfuel, hlawful.foldl_update, hflatten, checksum]
  · intro hmax glib fuel
    rw [checksumFile, hfile]
    exact if_pos hmax

end File

/-! ## A file -/

/-- The text `abc`. -/
def sampleContent : List UInt8 := [97, 98, 99]

def sampleDisk (path : String) : Option (List UInt8) :=
  if path = "image.iso" then some sampleContent else none

/-- SHA-256 of the empty text and of the sample. -/
def sampleChecksum : GlibChecksum where
  State := List UInt8
  init := []
  update := (· ++ ·)
  getString bytes :=
    if bytes = [] then "e3b0c44298fc1c149afbf4c8996fb92427ae41e4649b934ca495991b7852b855"
    else if bytes = sampleContent then
      "ba7816bf8f01cfea414140de5dae2223b00361a396177a9cb410ff61f20015ad"
    else ""

theorem lawful_sampleChecksum : sampleChecksum.Lawful where
  update_update := List.append_assoc
  update_nil := List.append_nil

/-- In chunks of two bytes the last byte is fed behind the loop. -/
theorem checksumFile_exact_sample :
    checksumFile sampleChecksum sampleDisk 4 "image.iso" 2 =
      some (.ok "ba7816bf8f01cfea414140de5dae2223b00361a396177a9cb410ff61f20015ad") := by
  have hfile : sampleDisk "image.iso" = some sampleContent := rfl
  have hpos : 0 < 2 := by decide
  obtain ⟨chunks, -, hchecksum⟩ := (checksumFile_exact hfile hpos).1 (by decide)
  exact (hchecksum sampleChecksum 4 (by decide)).2 lawful_sampleChecksum

/-- A chunk size beyond every vector. -/
theorem not_checksumFile_of_huge :
    sampleDisk "image.iso" = some sampleContent ∧ 0 < 2 ^ 63 ∧ 2 ^ 63 < sizeLimit ∧
      sampleChecksum.Lawful ∧
        ¬ ∃ fuel, checksumFile sampleChecksum sampleDisk fuel "image.iso" (2 ^ 63) =
          some (.ok (checksum sampleChecksum sampleContent)) := by
  refine ⟨rfl, by decide, by decide, lawful_sampleChecksum, ?_⟩
  rintro ⟨fuel, h⟩
  have hfile : sampleDisk "image.iso" = some sampleContent := rfl
  rw [checksumFile, hfile] at h
  dsimp only at h
  rw [if_pos (by decide)] at h
  cases h

end Files

end OpenCattus
