import OpenCattus.Cluster.Types
import OpenCattus.Foundations.Memo
import OpenCattus.Services.Checksum

/-!
# The checksum of a disk image

`DiskImage::setPath` warns about an image with a known name whose checksum is not the one of that
name. The checksum is taken once and kept in a file next to the image.

`setPath_after` follows the verifications of images that are replaced in between: the verdict about
an image is the one about the content that it had when it was first verified. The kept checksums
are the results of a `Memo`, which `Keeps` carries from one event to the next.
-/

namespace OpenCattus

open Foundations Foundations.Text Foundations.Program

/-- The bytes of the files; those that are there can be opened. -/
abbrev Disk := String → Option (List UInt8)

/-- What `setPath` throws. No file is read without end in chunks of the default size. -/
inductive ImageFailure where
  | runtimeError (what : String)
  | filesystemError (what path : String)
  | checksum (failure : Files.ChecksumFailure)
  | endlessRead
  deriving DecidableEq, Repr

/-! ## Results in files -/

namespace Files

def CHUNK_SIZE : Nat := 16384

/-- `checksum` of a file with the chunk size that is the default. -/
def checksumOf (glib : GlibChecksum) (path : String) : Program Disk ImageFailure (List UInt8) := do
  let disk ← Program.read
  -- A content of `n` bytes takes at most `n + 1` reads.
  match checksumFile glib disk (((disk path).getD []).length + 1) path CHUNK_SIZE with
  | some (.ok text) => pure (textBytes text)
  | some (.error failure) => raise (.checksum failure)
  | none => raise .endlessRead

/-- A new file needs a directory in its path. -/
def write (path : String) (contents : List UInt8) : Program Disk ImageFailure Unit := do
  let disk ← Program.read
  if disk path = none ∧ '/' ∉ path.toList then
    raise (.filesystemError "cannot create directories" "")
  else Program.update fun disk => Function.update disk path (some contents)

end Files

namespace Cache

/-- `cache::fs::run`. -/
def run (path : String) (function : Program Disk ImageFailure (List UInt8)) :
    Program Disk ImageFailure (List UInt8) := do
  let disk ← Program.read
  match disk path with
  | some contents => pure contents
  | none => do
    let contents ← function
    Files.write path contents
    pure contents

def checksum (glib : GlibChecksum) (path : String) : Program Disk ImageFailure (List UInt8) :=
  run (path ++ ".checksum") (Files.checksumOf glib path)

end Cache

/-! ## Disk images -/

namespace DiskImage

/-- What `hasVerifiedChecksum` reads of the options. -/
structure Options where
  dryRun : Bool := false
  skipDiskChecksum : Bool := false
  deriving DecidableEq, Repr

def hasVerifiedChecksum (glib : GlibChecksum) (opts : Options) (path : String) :
    Program Disk ImageFailure Bool :=
  if opts.dryRun then pure true
  else if opts.skipDiskChecksum then pure true
  else do
    let checksum ← Cache.checksum glib path
    pure (decide ((knownChecksum path).map textBytes = some checksum))

/-- `setPath`, with the warning that the checksum is not valid. -/
def setPath (glib : GlibChecksum) (opts : Options) (path : String) :
    Program Disk ImageFailure (DiskImage × Bool) :=
  if Cluster.extension path ≠ ".iso" then
    raise (.runtimeError "Disk Image must have ISO extension")
  else do
    let verified ←
      if (isKnownImage path).1 then hasVerifiedChecksum glib opts path else pure true
    pure (⟨path, (isKnownImage path).2⟩, !verified)

end DiskImage

/-! ## The image of a cluster -/

def ImageFailure.toException : ImageFailure → Exception
  | .runtimeError what => ⟨.runtimeError, what⟩
  | .filesystemError what _ => ⟨.systemError, what⟩
  | .checksum (.filesystemError what _) => ⟨.systemError, what⟩
  | .checksum (.lengthError what) => ⟨.lengthError, what⟩
  | .endlessRead => ⟨.undefinedBehaviour, "checksum"⟩

/-- The images of the machine are on this disk. -/
structure Host.HasDisk (host : Host) (glib : GlibChecksum) (opts : DiskImage.Options)
    (disk : Disk) : Prop where
  imageChecksum : ∀ path, host.imageChecksum path =
    (Cache.checksum glib path disk).1.mapError ImageFailure.toException
  dryRun : host.dryRun = opts.dryRun
  skipDiskChecksum : host.skipDiskChecksum = opts.skipDiskChecksum

section Cluster

variable {host : Host} {glib : GlibChecksum} {opts : DiskImage.Options} {disk : Disk}

theorem run_bind_pure {α β : Type} (x : Program Disk ImageFailure α) (f : α → β) (disk : Disk) :
    (x >>= fun a => pure (f a)) disk = ((x disk).1.map f, (x disk).2) := by
  cases hrun : x disk with
  | mk result disk' =>
    cases result with
    | error e =>
      rw [run_bind_of_raises hrun]
      rfl
    | ok a =>
      rw [run_bind_of_returns hrun]
      rfl

theorem Host.HasDisk.hasVerifiedChecksum_eq (h : host.HasDisk glib opts disk) (path : String) :
    host.hasVerifiedChecksum path =
      (DiskImage.hasVerifiedChecksum glib opts path disk).1.mapError ImageFailure.toException := by
  unfold Host.hasVerifiedChecksum DiskImage.hasVerifiedChecksum
  rw [h.dryRun, h.skipDiskChecksum, h.imageChecksum]
  split
  · rfl
  · split
    · rfl
    · rw [run_bind_pure]
      cases (Cache.checksum glib path disk).1 <;> rfl

/-- The path of the image of a cluster is set as on the disk of its machine. -/
theorem Host.HasDisk.setDiskImagePath_eq (h : host.HasDisk glib opts disk) (cluster : Cluster)
    (path : String) :
    cluster.setDiskImagePath host path =
      ((DiskImage.setPath glib opts path disk).1.mapError ImageFailure.toException).map
        fun image => { cluster with diskImage := image.1 } := by
  unfold Cluster.setDiskImagePath Cluster.runDiskImagePath DiskImage.setPath
  split
  · rfl
  · rw [result_update_bind, result_ofExcept_bind]
    cases (DiskImage.isKnownImage path).1 with
    | false => rfl
    | true =>
      rw [if_pos rfl, if_pos rfl, h.hasVerifiedChecksum_eq, run_bind_pure]
      cases (DiskImage.hasVerifiedChecksum glib opts path disk).1 <;> rfl

end Cluster

/-! ## One verification -/

/-- What is kept of an image with this content. -/
def digest (glib : GlibChecksum) (content : List UInt8) : List UInt8 :=
  textBytes (Files.checksum glib content)

def imageMissing (path : String) : ImageFailure :=
  .checksum (.filesystemError "Failed to open file" path)

section Verification

variable {glib : GlibChecksum} {disk : Disk} {path : String}

theorem checksumOf_of_missing (h : disk path = none) :
    Files.checksumOf glib path disk = (.error (imageMissing path), disk) := by
  unfold Files.checksumOf
  rw [run_read_bind, Files.checksumFile, h]
  rfl

theorem checksumOf_of_content (hlawful : glib.Lawful) {content : List UInt8}
    (h : disk path = some content) :
    Files.checksumOf glib path disk = (.ok (digest glib content), disk) := by
  have hpos : 0 < Files.CHUNK_SIZE := by decide
  obtain ⟨chunks, rfl, hfed⟩ := Files.checksumFile_fed h hpos (by decide)
  unfold Files.checksumOf
  rw [run_read_bind, h, Option.getD_some, hfed glib _ (Nat.lt_succ_self _),
    hlawful.foldl_update]
  rfl

/-- The checksum that is kept, or else that of the image. -/
def Cache.answer (glib : GlibChecksum) (disk : Disk) (path : String) : Option (List UInt8) :=
  (disk (path ++ ".checksum")).or ((disk path).map (digest glib))

theorem write_of_directory (hdir : '/' ∈ path.toList) (contents : List UInt8) :
    Files.write path contents disk = (.ok (), Function.update disk path (some contents)) := by
  rw [Files.write, run_read_bind, if_neg (by simp [hdir])]
  rfl

/-- The answer is kept next to an image in a directory. -/
theorem checksum_run (hlawful : glib.Lawful) (hdir : '/' ∈ path.toList) :
    Cache.checksum glib path disk =
      ((Cache.answer glib disk path).elim (.error (imageMissing path)) .ok,
        Function.update disk (path ++ ".checksum") (Cache.answer glib disk path)) := by
  have hsame := Function.update_eq_self (path ++ ".checksum") disk
  unfold Cache.checksum Cache.run Cache.answer
  rw [run_read_bind]
  cases hkept : disk (path ++ ".checksum") with
  | some kept =>
    rw [hkept] at hsame
    dsimp only
    rw [Option.some_or, hsame]
    rfl
  | none =>
    rw [hkept] at hsame
    dsimp only
    rw [Option.none_or]
    cases hcontent : disk path with
    | none =>
      rw [run_bind_of_raises (checksumOf_of_missing hcontent), Option.map_none, hsame]
      rfl
    | some content =>
      have hdir' : '/' ∈ (path ++ ".checksum").toList := by simp [hdir]
      rw [run_bind_of_returns (checksumOf_of_content hlawful hcontent),
        run_bind_of_returns (write_of_directory hdir' _)]
      rfl

/-- Without a directory nothing is kept. -/
theorem checksum_of_bare (hlawful : glib.Lawful) (hdir : '/' ∉ path.toList) :
    (Cache.checksum glib path disk).2 = disk := by
  unfold Cache.checksum Cache.run
  rw [run_read_bind]
  cases hkept : disk (path ++ ".checksum") with
  | some kept => rfl
  | none =>
    dsimp only
    cases hcontent : disk path with
    | none => rw [run_bind_of_raises (checksumOf_of_missing hcontent)]
    | some content =>
      have hbare : disk (path ++ ".checksum") = none ∧ '/' ∉ (path ++ ".checksum").toList :=
        ⟨hkept, by simp [hdir]⟩
      have hraises (contents : List UInt8) : Files.write (path ++ ".checksum") contents disk =
          (.error (.filesystemError "cannot create directories" ""), disk) := by
        rw [Files.write, run_read_bind, if_pos hbare]
        rfl
      rw [run_bind_of_returns (checksumOf_of_content hlawful hcontent),
        run_bind_of_raises (hraises _)]

end Verification

/-! ## A history -/

/-- A file is replaced from outside, or an image is set as that of a cluster. -/
inductive ImageEvent where
  | replaced (path : String) (content : Option (List UInt8))
  | setPath (opts : DiskImage.Options) (path : String)

def IsImage (path : String) : Prop := Cluster.extension path = ".iso"

/-- A call that looks at the checksum, and can keep it. -/
structure Verifies (opts : DiskImage.Options) (path : String) : Prop where
  image : IsImage path
  directory : '/' ∈ path.toList
  known : (DiskImage.isKnownImage path).1 = true
  dryRun : opts.dryRun = false
  skip : opts.skipDiskChecksum = false

instance (path : String) : Decidable (IsImage path) :=
  inferInstanceAs (Decidable (Cluster.extension path = ".iso"))

instance (opts : DiskImage.Options) (path : String) : Decidable (Verifies opts path) :=
  decidable_of_iff (IsImage path ∧ '/' ∈ path.toList ∧ (DiskImage.isKnownImage path).1 = true ∧
    opts.dryRun = false ∧ opts.skipDiskChecksum = false)
    ⟨fun ⟨h₁, h₂, h₃, h₄, h₅⟩ => ⟨h₁, h₂, h₃, h₄, h₅⟩,
      fun h => ⟨h.image, h.directory, h.known, h.dryRun, h.skip⟩⟩

namespace ImageEvent

/-- Nobody but the program writes a kept checksum. -/
def Outside : ImageEvent → Prop
  | replaced path _ => endsWith path ".checksum" = false
  | setPath _ _ => True

def step (glib : GlibChecksum) (disk : Disk) : ImageEvent → Disk
  | replaced path content => Function.update disk path content
  | setPath opts path => (DiskImage.setPath glib opts path disk).2

/-- What the event is to the kept results. -/
def memoEvents : ImageEvent → List (Memo.Event String (List UInt8))
  | replaced path content => [.put path content]
  | setPath opts path => if Verifies opts path then [.ask path] else []

end ImageEvent

/-- The content that the image has when it is first verified, be it after the events. -/
def firstVerified (path : String) (disk : Disk) (events : List ImageEvent) : Option (List UInt8) :=
  Memo.firstAsked path disk (events.flatMap ImageEvent.memoEvents ++ [.ask path])

/-- The images are the sources, and the files next to them the results. -/
structure Keeps (disk : Disk) (m : Memo String (List UInt8) (List UInt8)) : Prop where
  source : ∀ path, IsImage path → m.source path = disk path
  memo : ∀ path, IsImage path → m.memo path = disk (path ++ ".checksum")

theorem getLast?_of_isImage {path : String} (h : IsImage path) :
    path.toList.getLast? = some 'o' := by
  unfold IsImage Cluster.extension at h
  dsimp only at h
  split at h
  · exact absurd h (by decide)
  · rw [List.reverse_reverse] at h
    have htail := congrArg String.toList h
    rw [String.toList_ofList] at htail
    have hsuffix : ((path.toList.reverse.takeWhile (· ≠ '/')).takeWhile (· ≠ '.')).reverse =
        ['i', 's', 'o'] := (List.cons.inj htail).2
    rw [List.reverse_eq_iff] at hsuffix
    have hprefix := (List.takeWhile_prefix (l := path.toList.reverse.takeWhile (· ≠ '/'))
      (· ≠ '.')).trans (List.takeWhile_prefix (· ≠ '/'))
    rw [hsuffix] at hprefix
    obtain ⟨rest, hrest⟩ := hprefix
    rw [← List.head?_reverse, ← hrest]
    rfl

/-- The file that keeps a checksum is no image. -/
theorem ne_of_isImage {path : String} (h : IsImage path) (other : String) :
    path ≠ other ++ ".checksum" := by
  rintro rfl
  have hlast := getLast?_of_isImage h
  rw [String.toList_append, List.getLast?_append_of_ne_nil _ (by decide)] at hlast
  exact absurd hlast (by decide)

theorem endsWith_append (s t : String) : endsWith (s ++ t) t = true := by
  simp [endsWith]

theorem append_checksum_inj {path path' : String} :
    path ++ ".checksum" = path' ++ ".checksum" ↔ path = path' := by
  rw [← String.toList_inj, ← String.toList_inj, String.toList_append, String.toList_append]
  exact List.append_left_inj _

section History

variable {glib : GlibChecksum} {disk : Disk} {m : Memo String (List UInt8) (List UInt8)}
  {opts : DiskImage.Options} {path : String}

theorem Keeps.answer (h : Keeps disk m) (himage : IsImage path) :
    m.answer (digest glib) path = Cache.answer glib disk path := by
  rw [Memo.answer, h.memo path himage, h.source path himage, Cache.answer]

/-- An answer that is kept on the disk is kept. -/
theorem Keeps.ask (h : Keeps disk m) (himage : IsImage path) :
    Keeps (Function.update disk (path ++ ".checksum") (Cache.answer glib disk path))
      (m.step (digest glib) (.ask path)) where
  source path' himage' := by
    rw [Function.update_of_ne (ne_of_isImage himage' path)]
    exact h.source path' himage'
  memo path' himage' := by
    rw [Memo.step, h.answer himage]
    dsimp only
    rw [Function.update_apply, Function.update_apply, h.memo path' himage']
    simp only [append_checksum_inj]

theorem Keeps.put (h : Keeps disk m) (hpath : endsWith path ".checksum" = false)
    (content : Option (List UInt8)) :
    Keeps (Function.update disk path content) (m.step (digest glib) (.put path content)) where
  source path' himage' := by
    rw [Memo.step]
    dsimp only
    rw [Function.update_apply, Function.update_apply, h.source path' himage']
  memo path' himage' := by
    have hne : path' ++ ".checksum" ≠ path := by
      rintro rfl
      rw [endsWith_append] at hpath
      cases hpath
    rw [Function.update_of_ne hne]
    exact h.memo path' himage'

/-! ### Verifications -/

/-- What `setPath` returns about an image with this checksum. -/
def verdict (path : String) (checksum : List UInt8) : DiskImage × Bool :=
  (⟨path, (DiskImage.isKnownImage path).2⟩,
    !decide ((DiskImage.knownChecksum path).map textBytes = some checksum))

theorem setPath_of_verifies (hlawful : glib.Lawful) (h : Verifies opts path) :
    DiskImage.setPath glib opts path disk =
      ((Cache.answer glib disk path).elim (.error (imageMissing path)) fun checksum =>
          .ok (verdict path checksum),
        Function.update disk (path ++ ".checksum") (Cache.answer glib disk path)) := by
  have himage : ¬ Cluster.extension path ≠ ".iso" := not_not.mpr h.image
  have hchecksum : Cache.checksum glib path disk = _ := checksum_run hlawful h.directory
  unfold DiskImage.setPath DiskImage.hasVerifiedChecksum
  rw [if_neg himage, if_pos h.known, h.dryRun, h.skip]
  cases hanswer : Cache.answer glib disk path with
  | none =>
    rw [hanswer] at hchecksum
    exact run_bind_of_raises (run_bind_of_raises hchecksum)
  | some checksum =>
    rw [hanswer] at hchecksum
    exact run_bind_of_returns ((run_bind_of_returns hchecksum).trans rfl)

theorem setPath_of_not_verifies (hlawful : glib.Lawful) (h : ¬ Verifies opts path) :
    (DiskImage.setPath glib opts path disk).2 = disk := by
  unfold DiskImage.setPath DiskImage.hasVerifiedChecksum
  split
  · rfl
  · rename_i himage
    split
    · rename_i hknown
      rw [run_bind_pure]
      split
      · rfl
      · rename_i hdryRun
        split
        · rfl
        · rename_i hskip
          -- Only a missing directory is left as the reason why the call does not verify.
          have hdir : '/' ∉ path.toList := fun hdir =>
            h ⟨not_not.mp himage, hdir, hknown, by simpa using hdryRun, by simpa using hskip⟩
          rw [run_bind_pure]
          exact checksum_of_bare hlawful hdir
    · rfl

/-- What an event does to the disk it does to the kept results. -/
theorem Keeps.step (h : Keeps disk m) (hlawful : glib.Lawful) {event : ImageEvent}
    (houtside : event.Outside) :
    Keeps (event.step glib disk) (m.run (digest glib) event.memoEvents) := by
  cases event with
  | replaced path content =>
    have hput : Keeps (Function.update disk path content)
        (m.step (digest glib) (.put path content)) := h.put houtside content
    exact hput
  | setPath opts path =>
    unfold ImageEvent.step ImageEvent.memoEvents
    dsimp only
    split
    · rename_i hverifies
      rw [setPath_of_verifies hlawful hverifies]
      exact h.ask hverifies.image
    · rename_i hverifies
      rw [setPath_of_not_verifies hlawful hverifies]
      exact h

theorem Keeps.run (h : Keeps disk m) (hlawful : glib.Lawful) {events : List ImageEvent}
    (houtside : ∀ event ∈ events, event.Outside) :
    Keeps (events.foldl (ImageEvent.step glib) disk)
      (m.run (digest glib) (events.flatMap ImageEvent.memoEvents)) := by
  induction events generalizing disk m with
  | nil => exact h
  | cons event events ih =>
    obtain ⟨hevent, hevents⟩ := List.forall_mem_cons.mp houtside
    rw [List.flatMap_cons, Memo.run_append]
    exact ih (h.step hlawful hevent) hevents

/-- The verdict about an image is about the checksum that is kept of it, or else about the content
that it had when it was first verified. What has become of the image since does not matter. -/
theorem setPath_after (hlawful : glib.Lawful) (disk : Disk) {events : List ImageEvent}
    (houtside : ∀ event ∈ events, event.Outside) (h : Verifies opts path) :
    (DiskImage.setPath glib opts path (events.foldl (ImageEvent.step glib) disk)).1 =
      ((disk (path ++ ".checksum")).or ((firstVerified path disk events).map (digest glib))).elim
        (.error (imageMissing path)) fun checksum => .ok (verdict path checksum) := by
  -- The induction is over the events, in `Keeps.run`; here the memo begins as the disk.
  let m : Memo String (List UInt8) (List UInt8) := ⟨disk, fun path => disk (path ++ ".checksum")⟩
  have hkeeps : Keeps disk m := ⟨fun _ _ => rfl, fun _ _ => rfl⟩
  have hafter := hkeeps.run hlawful houtside
  have hanswer : Cache.answer glib (events.foldl (ImageEvent.step glib) disk) path =
      (disk (path ++ ".checksum")).or ((firstVerified path disk events).map (digest glib)) :=
    calc Cache.answer glib (events.foldl (ImageEvent.step glib) disk) path
        = (m.run (digest glib) (events.flatMap ImageEvent.memoEvents)).answer (digest glib) path :=
          (hafter.answer h.image).symm
      _ = (m.run (digest glib) (events.flatMap ImageEvent.memoEvents ++ [.ask path])).memo
            path := by
          rw [Memo.run_append]
          exact (Memo.memo_ask _ path).symm
      _ = _ := Memo.memo_run m path _
  rw [setPath_of_verifies hlawful h, hanswer]

end History

/-! ### A replaced image -/

def rockyImage : String := "/iso/Rocky-9.5-x86_64-dvd.iso"

def rockyChecksum : String := "ba60c3653640b5747610ddfb4d09520529bef2d1d83c1feb86b0c84dff31e04e"

/-- The image is gone. Its checksum was kept. -/
def verifiedBefore : Disk := fun path =>
  if path = rockyImage ++ ".checksum" then some (textBytes rockyChecksum) else none

/-- Another content under the name of the image passes. -/
theorem setPath_after_replaced :
    (DiskImage.setPath Files.sampleChecksum {} rockyImage
      ([ImageEvent.replaced rockyImage (some Files.sampleContent)].foldl
        (ImageEvent.step Files.sampleChecksum) verifiedBefore)).1 =
      .ok (⟨rockyImage, some .Rocky⟩, false) := by
  have houtside : ∀ event ∈ [ImageEvent.replaced rockyImage (some Files.sampleContent)],
      event.Outside := by
    simp only [List.mem_singleton, forall_eq]
    show endsWith rockyImage ".checksum" = false
    decide
  have hkept : verifiedBefore (rockyImage ++ ".checksum") = some (textBytes rockyChecksum) :=
    if_pos rfl
  rw [setPath_after Files.lawful_sampleChecksum verifiedBefore houtside (by decide), hkept]
  rfl

end OpenCattus
