import OpenCattus.Foundations.LookupTable
import OpenCattus.MailSystem.MasterFile

/-!
# The credentials of the relay host

`configureSASL` appends the credentials to `sasl_password` and has a database built from it, unless
there is a database already. The key is the `relayhost` that `createFiles` sets.

`configureSASL_current_iff` says from which states the credentials are the current ones afterwards.
-/

namespace OpenCattus

open Foundations Foundations.Text Program

/-- What `postmap` makes of a text. -/
class Postmap where
  database : String → String

inductive MailFailure where
  | badOptionalAccess
  | file (failure : FileFailure)
  deriving DecidableEq, Repr

abbrev MailProgram : Type → Type := Program FileSystem MailFailure

/-- `"[{}]:{}"`, of the server and the port. -/
def relayKey (server : String) (port : Nat) : String := "[" ++ server ++ "]:" ++ decimal port

/-- The `relayhost` that `createFiles` sets in `main.cf`. -/
def Postfix.relayhost (mail : Postfix) : Option String :=
  match mail.profile with
  | .Local => none
  | .SASL | .Relay =>
    match mail.smtpServer, mail.port with
    | some server, some port => some (relayKey server port)
    | _, _ => none

/-- `std::optional::value`. -/
def optionalValue {α : Type} : Option α → MailProgram α
  | some a => pure a
  | none => raise .badOptionalAccess

/-- `std::filesystem::permissions`, which are not kept here. -/
def permissions (path : Path) : MailProgram Unit := do
  let fs ← read
  if (fs.lookup path).isSome then pure ()
  else raise (.file (.filesystemError .noSuchFileOrDirectory))

def saslPassword (basedir : Path) : Path := basedir ++ ["sasl_password"]

def saslDatabase (basedir : Path) : Path := basedir ++ ["sasl_password.db"]

/-- The command `postmap`; a dry run leaves it out. -/
def runPostmap [Postmap] (opts : FileOptions) (passwordFile dbFilename : Path) : MailProgram Unit :=
  if opts.dryRun then pure ()
  else
    update fun fs =>
      (fs.writeFile dbFilename (Postmap.database (fs.readFile passwordFile))).toOption.getD fs

def configureSASL [Postmap] (opts : FileOptions) (mail : Postfix) (basedir : Path) :
    MailProgram Unit := do
  let dbFilename := saslDatabase basedir
  let filename := saslPassword basedir
  let fs ← read
  if (fs.lookup dbFilename).isSome then pure ()
  else do
    let server ← optionalValue mail.smtpServer
    let port ← optionalValue mail.port
    let username ← optionalValue mail.username
    let password ← optionalValue mail.password
    mapResult (Except.mapError MailFailure.file)
      (addStringToFile opts filename (relayKey server port ++ " " ++ username ++ ":" ++ password))
    permissions filename
    runPostmap opts filename dbFilename
    permissions dbFilename

/-! ## What the credentials should be -/

/-- The key is the `relayhost`, it has exactly one line, for the value, the other lines are there as
before, and the database is the one of this content. -/
structure CredentialsCurrent [Postmap] (mail : Postfix) (basedir : Path) (key value : String)
    (fs fs' : FileSystem) : Prop where
  relayhost : mail.relayhost = some key
  entry : HasEntry isSpace key.toList value.toList (fs'.readFile (saslPassword basedir)).toList
  kept : List.Sublist (otherLines isSpace key.toList (fs.readFile (saslPassword basedir)).toList)
    (otherLines isSpace key.toList (fs'.readFile (saslPassword basedir)).toList)
  mapped : fs'.lookup (saslDatabase basedir) =
    some (.file (Postmap.database (fs'.readFile (saslPassword basedir))))

/-- What stands in the directory of Postfix: the two files may be missing. -/
structure PostfixDirectory (basedir : Path) (fs : FileSystem) : Prop where
  directory : fs.lookup basedir = some .directory
  password : fs.lookup (saslPassword basedir) ≠ some .directory
  database : fs.lookup (saslDatabase basedir) ≠ some .directory

/-- The content already has the entry, or the entry is appended to complete lines that have not
the key. The last case is an accident: the entry is there with other blanks, and what is appended
only spoils a line behind it that is the key alone. -/
def EntryReady (key value content : List Char) : Prop :=
  if entryLine key value <:+: content then HasEntry isSpace key value content
  else
    (Writable isSpace key value ∧ Ended content ∧ keyLines isSpace key content = []) ∨
      (openLine content = key ∧ HasEntry isSpace key value (endedPart content))

/-- With a database, it has to be the one of a text with the entry; without, the text has to be
ready for it. -/
def CredentialsReady [Postmap] (opts : FileOptions) (basedir : Path) (key value : String)
    (fs : FileSystem) : Prop :=
  let content := fs.readFile (saslPassword basedir)
  match fs.lookup (saslDatabase basedir) with
  | some database =>
    HasEntry isSpace key.toList value.toList content.toList ∧
      database = .file (Postmap.database content)
  | none => opts.dryRun = false ∧ EntryReady key.toList value.toList content.toList

/-! ## The text -/

/-- What the file holds behind a call. -/
def appended (key value content : List Char) : List Char :=
  if entryLine key value <:+: content then content else content ++ entryLine key value

theorem entryReady_iff {key value content : List Char} (hkey : key ≠ []) :
    HasEntry isSpace key value (appended key value content) ∧
        List.Sublist (otherLines isSpace key content)
          (otherLines isSpace key (appended key value content)) ↔
      EntryReady key value content := by
  have hspace : isSpace ' ' = true := rfl
  have hend : isSpace '\n' = true := rfl
  unfold appended EntryReady
  split
  · exact and_iff_left (List.Sublist.refl _)
  · constructor
    · rintro ⟨hentry, hkept⟩
      have hwritable := writable_of_hasEntry hentry
      by_cases hended : Ended content
      · exact .inl ⟨hwritable, hended, (hasEntry_append_ended hspace hend hwritable hended).1.mp hentry⟩
      · exact .inr ((hasEntry_append_open hspace hend hwritable hkey hended).mp ⟨hentry, hkept⟩)
    · rintro (⟨hwritable, hended, hnone⟩ | ⟨hline, hprevious⟩)
      · obtain ⟨hentry, hother⟩ := hasEntry_append_ended hspace hend hwritable hended
        exact ⟨hentry.mpr hnone, hother ▸ List.Sublist.refl _⟩
      · have hopen : ¬ Ended content := by
          intro hended
          rw [openLine_eq_nil_iff.mpr hended] at hline
          exact hkey hline.symm
        exact (hasEntry_append_open hspace hend (writable_of_hasEntry hprevious) hkey hopen).mpr
          ⟨hline, hprevious⟩

/-! ## The steps -/

section Steps

variable {opts : FileOptions} {basedir : Path} {fs fs' : FileSystem} {text : String}

/-- A stream that is opened to append leaves the content, and creates a missing file. -/
theorem lookup_openAppend {path : Path} {name : String}
    (hdirectory : fs.lookup path = some .directory)
    (hfile : fs.lookup (path ++ [name]) ≠ some .directory) (q : Path) :
    ((fs.openAppend (path ++ [name])).toOption.getD fs).lookup q =
      if q = path ++ [name] then some (.file (fs.readFile (path ++ [name]))) else fs.lookup q := by
  unfold FileSystem.openAppend
  cases hfound : fs.lookup (path ++ [name]) with
  | none =>
    obtain ⟨fs', hwritten, hlookup⟩ := FileSystem.exists_writeFile hdirectory hfile ""
    have hisFile : fs.isFile (path ++ [name]) = false := by rw [FileSystem.isFile, hfound]
    have hread : fs.readFile (path ++ [name]) = "" := by rw [FileSystem.readFile, hfound]
    rw [hisFile, if_neg (by decide), hwritten, hread]
    exact hlookup q
  | some entry =>
    cases entry with
    | directory => exact absurd hfound hfile
    | file content =>
      have hisFile : fs.isFile (path ++ [name]) = true := by rw [FileSystem.isFile, hfound]
      rw [hisFile, if_pos rfl, readFile_of_lookup hfound]
      change fs.lookup q = _
      split
      · rename_i hq
        rw [hq, hfound]
      · rfl

/-- A text that is not found is appended, and nothing else changes. -/
theorem addStringToFile_appends {path : Path} {name : String} (hopts : opts.dryRun = false)
    (hdirectory : fs.lookup path = some .directory)
    (hfile : fs.lookup (path ++ [name]) ≠ some .directory)
    (hfound : ¬ text.toList <:+: (fs.readFile (path ++ [name])).toList) :
    ∃ fs', Returns (addStringToFile opts (path ++ [name]) text) fs () fs' ∧ ∀ q, fs'.lookup q =
      if q = path ++ [name] then some (.file (fs.readFile (path ++ [name]) ++ text))
      else fs.lookup q := by
  have hopened := lookup_openAppend hdirectory hfile
  generalize hstate : (fs.openAppend (path ++ [name])).toOption.getD fs = opened at hopened
  have hcontent : opened.lookup (path ++ [name]) = some (.file (fs.readFile (path ++ [name]))) := by
    rw [hopened, if_pos rfl]
  have hparent : opened.lookup path = some .directory := by
    rw [hopened, if_neg (by simp), hdirectory]
  obtain ⟨fs', hwritten, hlookup⟩ :=
    FileSystem.exists_writeFile hparent (by rw [hcontent]; simp) (fs.readFile (path ++ [name]) ++ text)
  refine ⟨fs', ?_, fun q => ?_⟩
  · have hisFile : opened.isFile (path ++ [name]) = true := by rw [FileSystem.isFile, hcontent]
    unfold addStringToFile Returns
    rw [run_read_bind, if_neg fun h => hfound (isSome_findText_iff.mp h), run_update_bind, hstate,
      if_neg (by simp [hopts])]
    refine run_revise_ok ?_
    rw [hisFile, if_pos rfl, hwritten]
    rfl
  · rw [hlookup, hopened]
    split
    · rfl
    · rfl

/-- Other files stay as they are. -/
theorem preserves_addStringToFile {filename q : Path} (hq : q ≠ filename) (entry : Option Entry) :
    Preserves (addStringToFile opts filename text) fun s => s.lookup q = entry := by
  have hwrite : ∀ (s s' : FileSystem) (content : String), s.lookup q = entry →
      s.writeFile filename content = .ok s' → s'.lookup q = entry := by
    intro s s' content hs hwritten
    rw [FileSystem.lookup_writeFile hwritten, if_neg hq, hs]
  have hopen : ∀ s : FileSystem, s.lookup q = entry →
      ((s.openAppend filename).toOption.getD s).lookup q = entry := by
    intro s hs
    unfold FileSystem.openAppend
    split
    · exact hs
    · cases hwritten : s.writeFile filename "" with
      | error code => exact hs
      | ok next => exact hwrite s next "" hs hwritten
  refine preserves_bind preserves_read fun fs => ?_
  dsimp only
  split
  · exact preserves_pure ()
  · refine preserves_bind (preserves_update hopen) fun _ => ?_
    split
    · exact preserves_pure ()
    · refine preserves_revise fun s s' hs hrevised => ?_
      split at hrevised
      · cases hwritten : s.writeFile filename (fs.readFile filename ++ text) with
        | error code =>
          rw [hwritten] at hrevised
          cases hrevised
        | ok next =>
          rw [hwritten] at hrevised
          obtain rfl := Except.ok.inj hrevised
          exact hwrite s next _ hs hwritten
      · cases hrevised

theorem returns_permissions {path : Path} {fs fs' : FileSystem} :
    Returns (permissions path) fs () fs' ↔ (fs.lookup path).isSome = true ∧ fs = fs' := by
  unfold permissions
  rw [returns_bind]
  simp only [returns_read]
  constructor
  · rintro ⟨_, _, ⟨rfl, rfl⟩, h⟩
    split at h
    · rename_i hsome
      exact ⟨hsome, (returns_pure.mp h).2⟩
    · exact absurd h returns_raise
  · rintro ⟨hsome, rfl⟩
    refine ⟨fs, fs, ⟨rfl, rfl⟩, ?_⟩
    rw [if_pos hsome]
    exact returns_pure.mpr ⟨rfl, rfl⟩

theorem returns_mapError {x : FileProgram Unit} :
    Returns (mapResult (Except.mapError MailFailure.file) x) fs () fs' ↔ Returns x fs () fs' := by
  unfold Returns
  rw [run_mapResult]
  rcases x fs with ⟨_ | _, _⟩
  · simp [Except.mapError]
  · simp [Except.mapError]

end Steps

/-! ## The run -/

section Run

variable [Postmap] {opts : FileOptions} {mail : Postfix} {basedir : Path} {fs fs' : FileSystem}
  {server username password : String} {port : Nat}

omit [Postmap] in
theorem saslDatabase_ne (basedir : Path) : saslDatabase basedir ≠ saslPassword basedir := by
  unfold saslDatabase saslPassword
  rw [Ne, List.append_cancel_left_eq]
  decide

/-- The credentials of the mail system. -/
structure HasCredentials (mail : Postfix) (server : String) (port : Nat)
    (username password : String) : Prop where
  server : mail.smtpServer = some server
  port : mail.port = some port
  username : mail.username = some username
  password : mail.password = some password

/-- The line that is appended. -/
def credentialsLine (server : String) (port : Nat) (username password : String) : String :=
  relayKey server port ++ " " ++ username ++ ":" ++ password

/-- With a database nothing is done. -/
theorem returns_configureSASL_database (h : (fs.lookup (saslDatabase basedir)).isSome = true) :
    Returns (configureSASL opts mail basedir) fs () fs' ↔ fs = fs' := by
  unfold configureSASL
  dsimp only
  rw [returns_bind]
  constructor
  · rintro ⟨_, _, hread, hrest⟩
    obtain ⟨rfl, rfl⟩ := returns_read.mp hread
    rw [if_pos h] at hrest
    exact (returns_pure.mp hrest).2
  · rintro rfl
    refine ⟨fs, fs, returns_read.mpr ⟨rfl, rfl⟩, ?_⟩
    rw [if_pos h]
    exact returns_pure.mpr ⟨rfl, rfl⟩

/-- Without one, the steps follow each other. -/
theorem returns_configureSASL_fresh (h : fs.lookup (saslDatabase basedir) = none)
    (hmail : HasCredentials mail server port username password) :
    Returns (configureSASL opts mail basedir) fs () fs' ↔
      ∃ fs₁ fs₂, Returns (addStringToFile opts (saslPassword basedir)
          (credentialsLine server port username password)) fs () fs₁ ∧
        (fs₁.lookup (saslPassword basedir)).isSome = true ∧
        Returns (runPostmap opts (saslPassword basedir) (saslDatabase basedir)) fs₁ () fs₂ ∧
        (fs₂.lookup (saslDatabase basedir)).isSome = true ∧ fs₂ = fs' := by
  have hnone : ¬ (fs.lookup (saslDatabase basedir)).isSome = true := by simp [h]
  have hsteps : configureSASL opts mail basedir fs =
      (mapResult (Except.mapError MailFailure.file) (addStringToFile opts (saslPassword basedir)
          (credentialsLine server port username password)) >>= fun _ =>
        permissions (saslPassword basedir) >>= fun _ =>
        runPostmap opts (saslPassword basedir) (saslDatabase basedir) >>= fun _ =>
        permissions (saslDatabase basedir)) fs := by
    unfold configureSASL
    rw [run_read_bind, if_neg hnone, hmail.server, hmail.port, hmail.username, hmail.password]
    rfl
  unfold Returns
  rw [hsteps]
  change Returns (_ >>= _) fs () fs' ↔ _
  rw [returns_bind]
  constructor
  · rintro ⟨_, fs₁, hadd, hrest⟩
    obtain ⟨_, _, hfirst, hrest⟩ := returns_bind.mp hrest
    obtain ⟨hpassword, rfl⟩ := returns_permissions.mp hfirst
    obtain ⟨_, fs₂, hpostmap, hlast⟩ := returns_bind.mp hrest
    obtain ⟨hdatabase, rfl⟩ := returns_permissions.mp hlast
    exact ⟨fs₁, fs₂, returns_mapError.mp hadd, hpassword, hpostmap, hdatabase, rfl⟩
  · rintro ⟨fs₁, fs₂, hadd, hpassword, hpostmap, hdatabase, rfl⟩
    refine ⟨(), fs₁, returns_mapError.mpr hadd, returns_bind.mpr ⟨(), fs₁, ?_, ?_⟩⟩
    · exact returns_permissions.mpr ⟨hpassword, rfl⟩
    · refine returns_bind.mpr ⟨(), fs₂, hpostmap, ?_⟩
      exact returns_permissions.mpr ⟨hdatabase, rfl⟩

/-- A dry run builds no database, whose permissions cannot be changed then. -/
theorem not_returns_of_dryRun (h : fs.lookup (saslDatabase basedir) = none)
    (hmail : HasCredentials mail server port username password) (hopts : opts.dryRun = true) :
    ¬ Returns (configureSASL opts mail basedir) fs () fs' := by
  rw [returns_configureSASL_fresh h hmail]
  rintro ⟨fs₁, fs₂, hadd, -, hpostmap, hdatabase, -⟩
  have hkept : fs₁.lookup (saslDatabase basedir) = none :=
    (preserves_addStringToFile (saslDatabase_ne basedir) none).returns h hadd
  unfold runPostmap at hpostmap
  rw [if_pos hopts] at hpostmap
  obtain ⟨-, rfl⟩ := returns_pure.mp hpostmap
  rw [hkept] at hdatabase
  cases hdatabase

omit [Postmap] in
theorem toList_credentialsLine (server username password : String) (port : Nat) :
    (credentialsLine server port username password).toList =
      entryLine (relayKey server port).toList (username ++ ":" ++ password).toList := by
  simp [credentialsLine, entryLine]

omit [Postmap] in
/-- The file behind the first step. -/
theorem exists_addCredentials (hdir : PostfixDirectory basedir fs) (hopts : opts.dryRun = false) :
    ∃ fs₁ text, Returns (addStringToFile opts (saslPassword basedir)
        (credentialsLine server port username password)) fs () fs₁ ∧
      fs₁.lookup basedir = some .directory ∧
      fs₁.lookup (saslDatabase basedir) = fs.lookup (saslDatabase basedir) ∧
      fs₁.lookup (saslPassword basedir) = some (.file text) ∧
      text.toList = appended (relayKey server port).toList (username ++ ":" ++ password).toList
        (fs.readFile (saslPassword basedir)).toList := by
  have hline := toList_credentialsLine server username password port
  by_cases hfound : (credentialsLine server port username password).toList <:+:
      (fs.readFile (saslPassword basedir)).toList
  · refine ⟨fs, fs.readFile (saslPassword basedir), addStringToFile_of_contained hfound,
      hdir.directory, rfl, ?_, ?_⟩
    · cases hentry : fs.lookup (saslPassword basedir) with
      | none =>
        -- Nothing is found in a file that is missing.
        have hread : fs.readFile (saslPassword basedir) = "" := by rw [FileSystem.readFile, hentry]
        rw [hread, hline] at hfound
        have hnil := List.infix_nil.mp hfound
        simp [entryLine] at hnil
      | some entry =>
        cases entry with
        | directory => exact absurd hentry hdir.password
        | file content => rw [readFile_of_lookup hentry]
    · rw [hline] at hfound
      rw [appended, if_pos hfound]
  · obtain ⟨fs₁, hadd, hlookup⟩ :=
      addStringToFile_appends hopts hdir.directory hdir.password hfound
    refine ⟨fs₁, fs.readFile (saslPassword basedir) ++
      credentialsLine server port username password, hadd, ?_, ?_, ?_, ?_⟩
    · rw [hlookup, if_neg (by simp), hdir.directory]
    · rw [hlookup]
      exact if_neg (saslDatabase_ne basedir)
    · rw [hlookup]
      exact if_pos rfl
    · rw [hline] at hfound
      rw [appended, if_neg hfound, String.toList_append, hline]

/-- The text of the file behind a run, and its database. -/
theorem exists_configureSASL (hdir : PostfixDirectory basedir fs)
    (h : fs.lookup (saslDatabase basedir) = none)
    (hmail : HasCredentials mail server port username password) (hopts : opts.dryRun = false) :
    ∃ fs', Returns (configureSASL opts mail basedir) fs () fs' ∧
      (fs'.readFile (saslPassword basedir)).toList =
        appended (relayKey server port).toList (username ++ ":" ++ password).toList
          (fs.readFile (saslPassword basedir)).toList ∧
      fs'.lookup (saslDatabase basedir) =
        some (.file (Postmap.database (fs'.readFile (saslPassword basedir)))) := by
  obtain ⟨fs₁, text, hadd, hdirectory, hdatabase, hpassword, htext⟩ :=
    @exists_addCredentials opts basedir fs server username password port hdir hopts
  have hmissing : fs₁.lookup (saslDatabase basedir) ≠ some .directory := by
    rw [hdatabase, h]
    simp
  obtain ⟨fs₂, hwritten, hlookup⟩ := FileSystem.exists_writeFile hdirectory hmissing (Postmap.database text)
  have hkept : fs₂.lookup (saslPassword basedir) = some (.file text) := by
    rw [hlookup]
    exact (if_neg (saslDatabase_ne basedir).symm).trans hpassword
  have hbuilt : fs₂.lookup (saslDatabase basedir) = some (.file (Postmap.database text)) := by
    rw [hlookup]
    exact if_pos rfl
  refine ⟨fs₂, ?_, ?_, ?_⟩
  · refine (returns_configureSASL_fresh h hmail).mpr ⟨fs₁, fs₂, hadd, ?_, ?_, ?_, rfl⟩
    · rw [hpassword]
      rfl
    · unfold runPostmap
      rw [if_neg (by simp [hopts]), returns_update, readFile_of_lookup hpassword]
      change (fs₁.writeFile (basedir ++ ["sasl_password.db"]) _).toOption.getD fs₁ = fs₂
      rw [hwritten]
      rfl
    · rw [hbuilt]
      rfl
  · rw [readFile_of_lookup hkept, htext]
  · rw [hbuilt, readFile_of_lookup hkept]

/-! ## The current credentials -/

/-- The credentials are the current ones if and only if the state is ready for them. -/
theorem configureSASL_current_iff (hprofile : mail.profile = .SASL)
    (hmail : HasCredentials mail server port username password)
    (hdir : PostfixDirectory basedir fs) :
    (∃ fs', Returns (configureSASL opts mail basedir) fs () fs' ∧
        CredentialsCurrent mail basedir (relayKey server port) (username ++ ":" ++ password) fs fs') ↔
      CredentialsReady opts basedir (relayKey server port) (username ++ ":" ++ password) fs := by
  have hrelay : mail.relayhost = some (relayKey server port) := by
    rw [Postfix.relayhost, hprofile, hmail.server, hmail.port]
  have hkey : (relayKey server port).toList ≠ [] := by
    unfold relayKey
    simp
  unfold CredentialsReady
  dsimp only
  cases hdatabase : fs.lookup (saslDatabase basedir) with
  | some database =>
    have hreturns : ∀ fs', Returns (configureSASL opts mail basedir) fs () fs' ↔ fs = fs' :=
      fun fs' => returns_configureSASL_database (by rw [hdatabase]; rfl)
    constructor
    · rintro ⟨fs', hrun, hcurrent⟩
      obtain rfl := (hreturns fs').mp hrun
      have hmapped := hcurrent.mapped
      rw [hdatabase] at hmapped
      exact ⟨hcurrent.entry, Option.some.inj hmapped⟩
    · rintro ⟨hentry, hmapped⟩
      refine ⟨fs, (hreturns fs).mpr rfl, hrelay, hentry, List.Sublist.refl _, ?_⟩
      rw [hdatabase, hmapped]
  | none =>
    cases hopts : opts.dryRun with
    | true =>
      refine iff_of_false ?_ (by simp)
      rintro ⟨fs', hrun, -⟩
      exact not_returns_of_dryRun hdatabase hmail hopts hrun
    | false =>
      obtain ⟨fs', hrun, htext, hmapped⟩ := exists_configureSASL hdir hdatabase hmail hopts
      have hready := @entryReady_iff _ (username ++ ":" ++ password).toList
        (fs.readFile (saslPassword basedir)).toList hkey
      rw [and_iff_right rfl, ← hready, ← htext]
      constructor
      · rintro ⟨fs'', hrun', hcurrent⟩
        obtain ⟨-, rfl⟩ := Returns.unique hrun hrun'
        exact ⟨hcurrent.entry, hcurrent.kept⟩
      · rintro ⟨hentry, hkept⟩
        exact ⟨fs', hrun, hrelay, hentry, hkept, hmapped⟩

end Run

/-! ## Two runs -/

/-- The settings of a relay with a login. -/
def relayMail (password : String) : Postfix :=
  { profile := .SASL, smtpServer := some "mail.lab", port := some 587, username := some "ops",
    password := some password }

theorem hasCredentials_relayMail (password : String) :
    HasCredentials (relayMail password) "mail.lab" 587 "ops" password := ⟨rfl, rfl, rfl, rfl⟩

/-- The directory of Postfix before the first run. -/
def freshFileSystem : FileSystem where
  entries := [(["postfix"], .directory)]
  nodup := by simp
  parents := by simp

/-- What a run with an older password leaves, where the database is the text itself. -/
def usedFileSystem : FileSystem where
  entries := [(["postfix"], .directory),
    (["postfix", "sasl_password"], .file "[mail.lab]:587 ops:old"),
    (["postfix", "sasl_password.db"], .file "[mail.lab]:587 ops:old")]
  nodup := by simp
  parents := by simp

theorem configureSASL_current_fresh :
    ∃ fs', Returns (@configureSASL ⟨id⟩ ⟨false, []⟩ (relayMail "new") ["postfix"])
        freshFileSystem () fs' ∧
      @CredentialsCurrent ⟨id⟩ (relayMail "new") ["postfix"] (relayKey "mail.lab" 587)
        ("ops" ++ ":" ++ "new") freshFileSystem fs' := by
  refine (@configureSASL_current_iff ⟨id⟩ _ _ _ _ _ _ _ _ rfl (hasCredentials_relayMail "new")
    ⟨by decide, by decide, by decide⟩).mpr ⟨rfl, ?_⟩
  unfold EntryReady
  rw [if_neg (by decide)]
  refine .inl ⟨⟨?_, by decide, by decide⟩, .inl rfl, rfl⟩
  intro c hc
  have hkey : ((relayKey "mail.lab" 587).toList.all fun c => !isSpace c) = true := by decide
  simpa using List.all_eq_true.mp hkey c hc

/-- The second run returns at the database of the first one. -/
theorem old_password_stays :
    PostfixDirectory ["postfix"] usedFileSystem ∧
      ¬ ∃ fs', Returns (@configureSASL ⟨id⟩ ⟨false, []⟩ (relayMail "new") ["postfix"])
          usedFileSystem () fs' ∧
        @CredentialsCurrent ⟨id⟩ (relayMail "new") ["postfix"] (relayKey "mail.lab" 587)
          ("ops" ++ ":" ++ "new") usedFileSystem fs' := by
  refine ⟨⟨by decide, by decide, by decide⟩, ?_⟩
  rintro ⟨fs', hrun, hcurrent⟩
  obtain rfl := (@returns_configureSASL_database ⟨id⟩ _ _ _ _ _ (by decide)).mp hrun
  obtain ⟨-, hentry, -, -⟩ := hcurrent
  revert hentry
  decide

end OpenCattus
