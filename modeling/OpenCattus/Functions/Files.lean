import OpenCattus.Foundations.FileSystem
import OpenCattus.Foundations.Text

/-!
# The shared file helpers

The helpers of `functions.cpp` and `functions.h` that touch files. Arguments are absolute paths;
`boost::property_tree` comes in as a parameter, as do the installation prefix and the clock.
-/

namespace OpenCattus

open Foundations Foundations.Text Program

/-- The options that the helpers read. -/
structure FileOptions where
  dryRun : Bool
  forceSteps : List String
  deriving DecidableEq, Repr

def FileOptions.shouldForce (opts : FileOptions) (step : String) : Bool :=
  opts.forceSteps.contains step

inductive FileFailure where
  | filesystemError (code : Errc)
  | runtimeError (what : String)
  | iniParserError (what : String)
  deriving DecidableEq, Repr

abbrev FileProgram : Type → Type := Program FileSystem FileFailure

/-- An operation whose failure is thrown as `std::filesystem::filesystem_error`. -/
def attempt (operation : FileSystem → Except Errc FileSystem) : FileProgram Unit :=
  revise fun fs => (operation fs).mapError .filesystemError

theorem run_attempt_ok {operation : FileSystem → Except Errc FileSystem} {fs fs' : FileSystem}
    (h : operation fs = .ok fs') : attempt operation fs = (.ok (), fs') :=
  run_revise_ok (by rw [h]; rfl)

theorem run_attempt_error {operation : FileSystem → Except Errc FileSystem} {fs : FileSystem}
    {code : Errc} (h : operation fs = .error code) :
    attempt operation fs = (.error (.filesystemError code), fs) :=
  run_revise_error (by rw [h]; rfl)

/-- `read_ini`, `put` and `write_ini`; a tree that cannot be written leaves what was written
before the error. -/
class IniParser (Tree : Type) where
  empty : Tree
  readIni : String → Option Tree
  put : Tree → String → String → Tree
  writeIni : Tree → String × Option String

def pathText (path : Path) : String := "/" ++ "/".intercalate path

/-! ## Single files -/

def touchFile (opts : FileOptions) (path : Path) : FileProgram Unit :=
  if opts.dryRun then pure ()
  else do
    let fs ← read
    if (fs.lookup path).isSome then pure ()
    else
      revise fun fs => (fs.openAppend path).mapError fun _ =>
        .runtimeError ("Failed to touch file: " ++ pathText path)

def createDirectory (opts : FileOptions) (path : Path) : FileProgram Unit :=
  if opts.dryRun then pure () else attempt (·.makeDirectories path)

def removeFile (opts : FileOptions) (filename : Path) : FileProgram Unit :=
  if opts.dryRun then pure ()
  else do
    let fs ← read
    if (fs.lookup filename).isSome then attempt (·.remove filename) else pure ()

/-- `installPath/backup<filename>_<timestamp>`. -/
def backupFilePath (installPath filename : Path) (timestamp : String) : Path :=
  installPath ++ "backup" :: filename.dropLast ++ [filename.getLast?.getD "" ++ "_" ++ timestamp]

def backupFile (opts : FileOptions) (installPath : Path) (timestamp : String) (filename : Path) :
    FileProgram Unit :=
  let backup := backupFilePath installPath filename timestamp
  if opts.dryRun then pure ()
  else do
    createDirectory opts backup.dropLast
    let fs ← read
    -- `std::fstream` opens the files that exist.
    if fs.isFile backup then pure () else attempt (·.copyRegular filename backup)

def changeValueInConfigurationFile {Tree : Type} [IniParser Tree] (opts : FileOptions)
    (filename : Path) (key value : String) : FileProgram Unit :=
  if opts.dryRun then pure ()
  else do
    let fs ← read
    let tree : Tree :=
      if fs.isFile filename then (IniParser.readIni (fs.readFile filename)).getD IniParser.empty
      else IniParser.empty
    let (text, failure) := IniParser.writeIni (IniParser.put tree key value)
    revise fun fs => (fs.writeFile filename text).mapError fun _ =>
      .iniParserError "cannot open file"
    match failure with
    | some what => raise (.iniParserError what)
    | none => pure ()

/-- The stream is opened, and the file created, before the option is looked at. -/
def addStringToFile (opts : FileOptions) (filename : Path) (string : String) :
    FileProgram Unit := do
  let fs ← read
  let content := fs.readFile filename
  if (findText string.toList content.toList).isSome then pure ()
  else do
    update fun fs => (fs.openAppend filename).toOption.getD fs
    if opts.dryRun then pure ()
    else
      revise fun fs =>
        if fs.isFile filename then
          (fs.writeFile filename (content ++ string)).mapError .filesystemError
        else .error (.runtimeError ("Error opening file: " ++ pathText filename))

/-- A destination that exists is skipped. -/
def skipExisting : Except Errc Unit → Except FileFailure Unit
  | .ok () => .ok ()
  | .error .fileExists => .ok ()
  | .error code => .error (.filesystemError code)

def copyFile (opts : FileOptions) (source destination : Path) : FileProgram Unit :=
  if opts.dryRun then pure ()
  else mapResult skipExisting (FileSystem.copy source destination)

def installFile (opts : FileOptions) (path : Path) (data : String) : FileProgram Unit :=
  if opts.dryRun then pure ()
  else do
    let fs ← read
    if (fs.lookup path).isSome then pure ()
    -- A stream that did not open takes the text without an error.
    else update fun fs => (fs.writeFile path data).toOption.getD fs

/-! ## Files by extension -/

/-- `path::extension` of a file name: from its last dot, unless the name starts there. -/
def extensionOf (filename : String) : String :=
  let stemless := filename.toList.reverse.takeWhile (· ≠ '.')
  if stemless.length + 1 < filename.length ∧ filename ≠ ".." then
    String.ofList ('.' :: stemless.reverse)
  else ""

/-- `directory_iterator`: the names in a directory. -/
def directoryIterator (path : Path) : FileProgram (List String) := do
  let fs ← read
  match fs.lookup path with
  | some .directory => pure (fs.children path)
  | some (.file _) => raise (.filesystemError .notADirectory)
  | none => raise (.filesystemError .noSuchFileOrDirectory)

/-- The comparison ignores the letter case. -/
def removeFilesWithExtension (path : Path) (extension : String) : FileProgram Unit := do
  let extensionLower := lower extension
  let names ← directoryIterator path
  names |> each fun name => do
    let fs ← read
    if fs.isFile (path ++ [name]) then
      if lower (extensionOf name) = extensionLower then attempt (·.remove (path ++ [name]))

/-- The comparison is exact. -/
def copyFilesWithExtension (opts : FileOptions) (source destination : Path) (extension : String) :
    FileProgram Unit := do
  let names ← directoryIterator source
  names |> each fun name => do
    let fs ← read
    if fs.isFile (source ++ [name]) ∧ extensionOf name = extension then
      copyFile opts (source ++ [name]) (destination ++ [name])

def moveFilesWithExtension (opts : FileOptions) (source destination : Path) (extension : String) :
    FileProgram Unit := do
  copyFilesWithExtension opts source destination extension
  removeFilesWithExtension source extension

def backupFilesByExtension (opts : FileOptions) (backupPath sourcePath : Path)
    (extension : String) : FileProgram Unit := do
  if opts.shouldForce "backups" then
    update (·.removeAll backupPath)
  let fs ← read
  if fs.lookup backupPath = none then do
    createDirectory opts backupPath
    moveFilesWithExtension opts sourcePath backupPath extension
  else pure ()

example : extensionOf "epel.repo" = ".repo" ∧ extensionOf ".repo" = "" := by decide

end OpenCattus
