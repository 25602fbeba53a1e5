import OpenCattus.Basic

/-!
# Enumerations of the installer

The enumeration types that the answerfile and the model share, with the names that
reflection gives them, and the table of subnet masks.
-/

namespace OpenCattus

open Foundations Foundations.Text Foundations.Inet

/-! ## Operating system -/

namespace OS

inductive Distro where
  | RHEL | OL | Rocky | AlmaLinux | Ubuntu
  deriving DecidableEq, Repr

instance : Enumeration Distro where
  values := [.RHEL, .OL, .Rocky, .AlmaLinux, .Ubuntu]
  name
    | .RHEL => "RHEL"
    | .OL => "OL"
    | .Rocky => "Rocky"
    | .AlmaLinux => "AlmaLinux"
    | .Ubuntu => "Ubuntu"
  mem_values a := by cases a <;> decide
  name_inj a b := by cases a <;> cases b <;> decide

instance : Inhabited Distro := ⟨.RHEL⟩

end OS

/-! ## Software -/

namespace OFED

inductive Kind where
  | Inbox | Doca | Oracle
  deriving DecidableEq, Repr

instance : Enumeration Kind where
  values := [.Inbox, .Doca, .Oracle]
  name
    | .Inbox => "Inbox"
    | .Doca => "Doca"
    | .Oracle => "Oracle"
  mem_values a := by cases a <;> decide
  name_inj a b := by cases a <;> cases b <;> decide

end OFED

namespace PBS

inductive ExecutionPlace where
  | Shared | Scatter
  deriving DecidableEq, Repr

instance : Enumeration ExecutionPlace where
  values := [.Shared, .Scatter]
  name
    | .Shared => "Shared"
    | .Scatter => "Scatter"
  mem_values a := by cases a <;> decide
  name_inj a b := by cases a <;> cases b <;> decide

end PBS

namespace Postfix

inductive Profile where
  | Local | Relay | SASL
  deriving DecidableEq, Repr

instance : Enumeration Profile where
  values := [.Local, .Relay, .SASL]
  name
    | .Local => "Local"
    | .Relay => "Relay"
    | .SASL => "SASL"
  mem_values a := by cases a <;> decide
  name_inj a b := by cases a <;> cases b <;> decide

end Postfix

/-! ## Networks -/

namespace Network

inductive Profile where
  | External | Management | Service | Application
  deriving DecidableEq, Repr

inductive Kind where
  | Ethernet | Infiniband
  deriving DecidableEq, Repr

/-- The subnet masks with their prefix lengths. -/
def cidr : List (String × Nat) :=
  [("0.0.0.0", 0), ("128.0.0.0", 1), ("192.0.0.0", 2), ("224.0.0.0", 3), ("240.0.0.0", 4),
    ("248.0.0.0", 5), ("252.0.0.0", 6), ("254.0.0.0", 7), ("255.0.0.0", 8), ("255.128.0.0", 9),
    ("255.192.0.0", 10), ("255.224.0.0", 11), ("255.240.0.0", 12), ("255.248.0.0", 13),
    ("255.252.0.0", 14), ("255.254.0.0", 15), ("255.255.0.0", 16), ("255.255.128.0", 17),
    ("255.255.192.0", 18), ("255.255.224.0", 19), ("255.255.240.0", 20), ("255.255.248.0", 21),
    ("255.255.252.0", 22), ("255.255.254.0", 23), ("255.255.255.0", 24), ("255.255.255.128", 25),
    ("255.255.255.192", 26), ("255.255.255.224", 27), ("255.255.255.240", 28),
    ("255.255.255.248", 29), ("255.255.255.252", 30), ("255.255.255.254", 31),
    ("255.255.255.255", 32)]

/-- `cidr.contains(mask.to_string())`. -/
def isMask [Inet6] (mask : Address) : Bool := (Assoc.get mask.toText cidr).isSome

end Network

end OpenCattus
