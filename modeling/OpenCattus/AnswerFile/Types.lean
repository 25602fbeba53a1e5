import OpenCattus.Enumerations

/-!
# The answerfile record

The fields that an answerfile carries, section by section, with the defaults of the
source records, and the key file it is read from and written to.
-/

namespace OpenCattus

open Foundations Foundations.Text Foundations.Inet

/-! ## Key files on disk -/

/-- `files::KeyFile`: the groups and the path they belong to. -/
structure KeyFile where
  path : String
  data : KeyData
  deriving DecidableEq

namespace KeyFile

def hasGroup (kf : KeyFile) (group : String) : Bool := kf.data.hasGroup group

def listAllPrefixedEntries (kf : KeyFile) (pre : String) : List String := kf.data.prefixed pre

def noSuchEntry (kf : KeyFile) (group key : String) : String :=
  "Keyfile Error, " ++ kf.path ++ ": no such entry [" ++ group ++ "]." ++ key

def getString (kf : KeyFile) (group key : String) : Result String :=
  match kf.data.lookup group key with
  | some value => .ok value
  | none => runtimeError (kf.noSuchEntry group key)

/-- The overload with a default value. Asking a missing group for a key is an error. -/
def getStringOr (kf : KeyFile) (group key defaultValue : String) : Result String :=
  if kf.hasGroup group then .ok ((kf.data.lookup group key).getD defaultValue)
  else runtimeError (kf.noSuchEntry group key)

def getStringOpt (kf : KeyFile) (group key : String) : Result (Option String) :=
  if kf.hasGroup group then .ok (kf.data.lookup group key)
  else .error ⟨.keyFileError, "Key file does not have group “" ++ group ++ "”"⟩

end KeyFile

/-! ## Sections -/

structure AFNode where
  nodePrefix : Option String := none
  padding : Option String := none
  startIp : Option Address := some default
  hostname : Option String := none
  rootPassword : Option String := none
  macAddress : Option String := none
  sockets : Option String := none
  coresPerSocket : Option String := none
  threadsPerCore : Option String := none
  cpusPerNode : Option String := none
  realMemory : Option String := none
  bmcAddress : Option String := none
  bmcUsername : Option String := none
  bmcPassword : Option String := none
  bmcSerialport : Option String := none
  bmcSerialspeed : Option String := none
  deriving DecidableEq, Repr

structure AFNetwork where
  subnetMask : Option Address := none
  gateway : Option Address := none
  domainName : Option String := none
  nameservers : Option (List String) := none
  conInterface : Option String := none
  conIpAddr : Option Address := none
  conMacAddr : Option String := none
  deriving DecidableEq, Repr

structure AFInformation where
  clusterName : String := ""
  companyName : String := ""
  administratorEmail : String := ""
  deriving DecidableEq, Repr

structure AFTime where
  timezone : String := ""
  timeserver : String := ""
  locale : String := ""
  deriving DecidableEq, Repr

structure AFHostname where
  hostname : String := ""
  domainName : String := ""
  deriving DecidableEq, Repr

structure AFSystem where
  diskImage : String := ""
  distro : OS.Distro := default
  version : String := ""
  kernel : Option String := none
  provisioner : String := ""
  deriving DecidableEq, Repr

structure AFSlurm where
  enabled : Bool := false
  mariadbRootPassword : String := ""
  slurmdbPassword : String := ""
  storagePassword : String := ""
  partitionName : String := ""
  deriving DecidableEq, Repr

structure AFPBS where
  enabled : Bool := false
  executionPlace : PBS.ExecutionPlace := .Shared
  deriving DecidableEq, Repr

structure AFNodes where
  generic : Option AFNode := none
  nodes : List AFNode := []
  deriving DecidableEq, Repr

structure AFPostfix.SASL where
  username : String
  password : String
  deriving DecidableEq, Repr

structure AFPostfix.SMTP where
  server : String
  port : Nat
  sasl : Option AFPostfix.SASL := none
  deriving DecidableEq, Repr

structure AFPostfix where
  enabled : Bool := false
  destination : List String := []
  profile : Postfix.Profile := .Local
  smtp : Option AFPostfix.SMTP := none
  certFile : String := ""
  keyFile : String := ""
  deriving DecidableEq, Repr

structure AFOFED where
  kind : String := Enumeration.toText OFED.Kind.Inbox
  version : Option String := some "latest"
  enabled : Bool := false
  deriving DecidableEq, Repr

/-- `AnswerFile`: the sections. The lists of repositories and of OpenHPC bundles are
`none` when their section is absent. -/
structure AnswerFile where
  external : AFNetwork := {}
  management : AFNetwork := {}
  service : AFNetwork := {}
  application : AFNetwork := {}
  information : AFInformation := {}
  time : AFTime := {}
  hostname : AFHostname := {}
  system : AFSystem := {}
  repositories : Option (List String) := none
  ohpc : Option (List String) := none
  nodes : AFNodes := {}
  postfixMail : AFPostfix := {}
  ofed : AFOFED := {}
  slurm : AFSlurm := {}
  pbs : AFPBS := {}
  deriving DecidableEq, Repr

end OpenCattus
