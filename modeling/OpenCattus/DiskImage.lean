import OpenCattus.Network

/-!
# The disk image

`DiskImage` has the path of an image and the distribution that its name tells. An image with a
known name has a known checksum, with which the one of its content is compared.
-/

namespace OpenCattus

open Foundations Foundations.Text

/-- The part of a file name from its last dot on; a leading dot does not count. -/
def Cluster.extension (path : String) : String :=
  let filename := (path.toList.reverse.takeWhile (· ≠ '/')).reverse
  let tail := filename.reverse.takeWhile (· ≠ '.')
  if filename = ['.', '.'] ∨ filename.length ≤ tail.length + 1 then ""
  else String.ofList ('.' :: tail.reverse)

def textBytes (text : String) : List UInt8 := text.toByteArray.data.toList

structure DiskImage where
  path : String := ""
  distro : Option OS.Distro := none
  deriving DecidableEq, Repr

namespace DiskImage

def filename (path : String) : String :=
  String.ofList (path.toList.reverse.takeWhile (· ≠ '/')).reverse

def knownImageFilename : List String :=
  ["AlmaLinux-8.8-x86_64-dvd.iso", "OracleLinux-R8-U8-x86_64-dvd.iso", "rhel-8.8-x86_64-dvd.iso",
    "Rocky-8.8-x86_64-dvd1.iso", "Rocky-9.5-x86_64-dvd.iso"]

def toDistroImage (imageView : String) : Option OS.Distro :=
  if startsWith imageView "Rocky" then some .Rocky
  else if startsWith imageView "rhel" then some .RHEL
  else if startsWith imageView "OracleLinux" then some .OL
  else if startsWith imageView "AlmaLinux" then some .AlmaLinux
  else if startsWith imageView "ubuntu-" then some .Ubuntu
  else none

/-- Whether the image is known, and the distribution that is remembered of it. -/
def isKnownImage (path : String) : Bool × Option OS.Distro :=
  match knownImageFilename.find? fun image =>
    filename path = image && (toDistroImage image).isSome with
  | some image => (true, toDistroImage image)
  | none => (false, toDistroImage (filename path))

def hashMap : List (String × String) :=
  [("rhel-8.8-x86_64-dvd.iso",
      "517abcc67ee3b7212f57e180f5d30be3e8269e7a99e127a3399b7935c7e00a09"),
    ("OracleLinux-R8-U8-x86_64-dvd.iso",
      "cae39116245ff7c3c86d5305d9c11430ce5c4e512987563435ac59c37a082d7e"),
    ("Rocky-8.8-x86_64-dvd1.iso",
      "7b8bdfe189cf24ae5c2d6a88f7a0b5f3012d23f9332c47943d538b4bc03a3704"),
    ("AlmaLinux-8.8-x86_64-dvd.iso",
      "635b30b967b509a32a1a3d81401db9861922acb396d065922b39405a43a04a31"),
    ("Rocky-9.5-x86_64-dvd.iso",
      "ba60c3653640b5747610ddfb4d09520529bef2d1d83c1feb86b0c84dff31e04e")]

/-- The checksum that belongs to the name of the image. -/
def knownChecksum (path : String) : Option String := hashMap.lookup (filename path)

end DiskImage

/-- `DiskImage::hasVerifiedChecksum`. -/
def Host.hasVerifiedChecksum (host : Host) (path : String) : Result Bool :=
  if host.dryRun then .ok true
  else if host.skipDiskChecksum then .ok true
  else do
    let checksum ← host.imageChecksum path
    .ok (decide ((DiskImage.knownChecksum path).map textBytes = some checksum))

/-- The checksum of an image with a known name can be taken, or is not looked at. -/
def Host.VerifiesImage (host : Host) (path : String) : Prop :=
  (DiskImage.isKnownImage path).1 = true → ∃ verified, host.hasVerifiedChecksum path = .ok verified

/-- The image is looked at: the extension is right and nothing else stands against the path. -/
def Host.ReachesImage (host : Host) (path : String) : Prop :=
  Cluster.extension path = ".iso" ∧
    (host.pathStatus path = .found ∨ host.dryRun = true ∨ host.pathStatus path = .permissionDenied)

/-- The disk image path is accepted on this host. -/
def Host.AcceptsImage (host : Host) (path : String) : Prop :=
  host.ReachesImage path ∧ host.VerifiesImage path

end OpenCattus
