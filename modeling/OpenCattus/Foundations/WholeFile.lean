import Mathlib.Data.List.Basic
import Mathlib.Tactic.Common

/-!
# Whole-file writes and crashes

A file whose every write replaces the whole content, and a sequence of saves. A save
makes several writes and may be cut off by a crash after any number of them.

`forall_run_take_iff` reduces what holds of the file at every point of such a sequence
to the last write that each save performed.
-/

namespace Foundations.WholeFile

variable {α : Type}

/-- The writes of a save, and how many of them were performed. -/
structure Save (α : Type) where
  writes : List α
  performed : Nat

/-- The content that the save leaves, when it wrote at all. -/
def Save.left (save : Save α) : Option α := (save.writes.take save.performed).getLast?

/-- The file after the performed writes, one after the other. -/
def Save.apply (save : Save α) (file : Option α) : Option α :=
  (save.writes.take save.performed).foldl (fun _ content => some content) file

/-- The file after a sequence of saves. -/
def run : List (Save α) → Option α → Option α
  | [], file => file
  | save :: saves, file => run saves (save.apply file)

/-- The file is missing or its content satisfies `P`. -/
def Safe (P : α → Prop) (file : Option α) : Prop := ∀ content, file = some content → P content

theorem foldl_some (contents : List α) (file : Option α) :
    contents.foldl (fun _ content => some content) file = contents.getLast?.or file := by
  induction contents generalizing file with
  | nil => rfl
  | cons content contents ih =>
    rw [List.foldl_cons, ih, List.getLast?_cons]
    cases contents.getLast? <;> rfl

theorem Save.apply_eq (save : Save α) (file : Option α) : save.apply file = save.left.or file :=
  foldl_some ..

/-- A save keeps a safe file safe exactly when its last performed write is safe. -/
theorem safe_apply_iff {P : α → Prop} {save : Save α} {file : Option α} (hfile : Safe P file) :
    Safe P (save.apply file) ↔ Safe P save.left := by
  rw [save.apply_eq]
  cases hleft : save.left with
  | none => simpa [Safe] using hfile
  | some content => rfl

theorem forall_run_take_iff {P : α → Prop} {saves : List (Save α)} {file : Option α}
    (hfile : Safe P file) :
    (∀ n, Safe P (run (saves.take n) file)) ↔ ∀ save ∈ saves, Safe P save.left := by
  induction saves generalizing file with
  | nil =>
    constructor
    · intro _ save hsave
      cases hsave
    · intro _ n
      rwa [List.take_nil]
  | cons save saves ih =>
    constructor
    · intro h
      have hsave : Safe P (save.apply file) := h 1
      have hrest := (ih hsave).mp fun n => h (n + 1)
      intro s hs
      rcases List.mem_cons.mp hs with rfl | hs
      · exact (safe_apply_iff hfile).mp hsave
      · exact hrest s hs
    · intro h n
      have hsave := (safe_apply_iff hfile).mpr (h save (List.mem_cons_self ..))
      cases n with
      | zero => exact hfile
      | succ n => exact (ih hsave).mpr (fun s hs => h s (List.mem_cons_of_mem _ hs)) n

end Foundations.WholeFile
