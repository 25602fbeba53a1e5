import Mathlib.Data.List.Nodup
import Mathlib.Logic.Relation

/-!
# Depth-first closure

The values that are reachable from a list, each once and in the order of the first visit.
`Visits` is a finished run of the recursive walk, `DepthFirst` one of the walk with a stack.

`visits_foldl` is the termination of the recursive walk for a table with finitely many keys,
`DepthFirst.isClosure` and `DepthFirst.again_self` are the laws of the closure.
-/

namespace Foundations

variable {α : Type*} {next : α → List α}

/-! ## Walks -/

/-- The recursive walk over a list: `seen` are the values that were visited before it, and the
last list those that are visited after it. -/
inductive Visits (next : α → List α) : List α → List α → List α → Prop where
  | nil (seen) : Visits next seen [] seen
  | again {seen a as result} (h : a ∈ seen) (rest : Visits next seen as result) :
    Visits next seen (a :: as) result
  | first {seen a as mid result} (h : a ∉ seen) (call : Visits next (seen ++ [a]) (next a) mid)
    (rest : Visits next mid as result) : Visits next seen (a :: as) result

/-- The walk with a stack: what a value leads to is visited in front of what was met earlier. -/
inductive DepthFirst (next : α → List α) : List α → List α → List α → Prop where
  | done (seen) : DepthFirst next [] seen seen
  | again {a stack seen result} (h : a ∈ seen) (rest : DepthFirst next stack seen result) :
    DepthFirst next (a :: stack) seen result
  | first {a stack seen result} (h : a ∉ seen)
    (rest : DepthFirst next (next a ++ stack) (seen ++ [a]) result) :
    DepthFirst next (a :: stack) seen result

/-- A value of the list, or one that it leads to. -/
def Reaches (next : α → List α) (as : List α) (a : α) : Prop :=
  ∃ b ∈ as, Relation.ReflTransGen (fun b c => c ∈ next b) b a

/-- The least list without repetitions that has the values of a list and is closed. -/
structure IsClosure (next : α → List α) (as result : List α) : Prop where
  nodup : result.Nodup
  subset : as ⊆ result
  closed : ∀ a ∈ result, next a ⊆ result
  reached : ∀ a ∈ result, Reaches next as a

/-- A run of the recursive walk is one of the walk with a stack. -/
theorem Visits.depthFirst {seen as mid : List α} (h : Visits next seen as mid)
    {stack result : List α} (hstack : DepthFirst next stack mid result) :
    DepthFirst next (as ++ stack) seen result := by
  induction h generalizing stack result with
  | nil seen => exact hstack
  | again hmem rest ih => exact .again hmem (ih hstack)
  | first hnot call rest ihcall ihrest =>
    refine .first hnot ?_
    exact ihcall (ihrest hstack)

/-! ## The laws of the walk -/

namespace DepthFirst

variable {stack seen result : List α}

theorem extends_seen (h : DepthFirst next stack seen result) : seen <+: result := by
  induction h with
  | done seen => exact List.prefix_refl seen
  | again hmem rest ih => exact ih
  | first hnot rest ih => exact (List.prefix_append _ _).trans ih

theorem deterministic {other : List α} (h : DepthFirst next stack seen result)
    (hother : DepthFirst next stack seen other) : result = other := by
  induction h with
  | done seen =>
    cases hother
    rfl
  | again hmem rest ih =>
    cases hother with
    | again _ rest' => exact ih rest'
    | first hnot _ => exact absurd hmem hnot
  | first hnot rest ih =>
    cases hother with
    | again hmem _ => exact absurd hmem hnot
    | first _ rest' => exact ih rest'

theorem nodup (h : DepthFirst next stack seen result) (hseen : seen.Nodup) : result.Nodup := by
  induction h with
  | done seen => exact hseen
  | again hmem rest ih => exact ih hseen
  | first hnot rest ih => exact ih (List.concat_eq_append ▸ hseen.concat hnot)

theorem stack_subset (h : DepthFirst next stack seen result) : stack ⊆ result := by
  induction h with
  | done seen => exact List.nil_subset _
  | again hmem rest ih => exact List.cons_subset.mpr ⟨rest.extends_seen.subset hmem, ih⟩
  | @first a stack seen result hnot rest ih =>
    have ha : a ∈ result := rest.extends_seen.subset (by simp)
    exact List.cons_subset.mpr ⟨ha, List.Subset.trans (List.subset_append_right _ _) ih⟩

/-- What a visited value leads to is visited or on the stack, and in the end visited. -/
theorem closed (h : DepthFirst next stack seen result)
    (hseen : ∀ a ∈ seen, ∀ b ∈ next a, b ∈ seen ∨ b ∈ stack) :
    ∀ a ∈ result, next a ⊆ result := by
  induction h with
  | done seen =>
    intro a ha b hb
    exact (hseen a ha b hb).resolve_right List.not_mem_nil
  | @again c stack seen result hmem rest ih =>
    refine ih fun a ha b hb => ?_
    rcases hseen a ha b hb with hb' | hb'
    · exact .inl hb'
    · rcases List.mem_cons.mp hb' with rfl | hb'
      · exact .inl hmem
      · exact .inr hb'
  | @first c stack seen result hnot rest ih =>
    refine ih fun a ha b hb => ?_
    rcases List.mem_append.mp ha with ha | ha
    · rcases hseen a ha b hb with hb' | hb'
      · exact .inl (List.mem_append_left _ hb')
      · rcases List.mem_cons.mp hb' with rfl | hb'
        · exact .inl (by simp)
        · exact .inr (List.mem_append_right _ hb')
    · rw [List.mem_singleton] at ha
      subst ha
      exact .inr (List.mem_append_left _ hb)

theorem reached (h : DepthFirst next stack seen result) :
    ∀ a ∈ result, a ∈ seen ∨ Reaches next stack a := by
  induction h with
  | done seen => exact fun a ha => .inl ha
  | again hmem rest ih =>
    intro a ha
    refine (ih a ha).imp_right ?_
    rintro ⟨b, hb, hba⟩
    exact ⟨b, List.mem_cons_of_mem _ hb, hba⟩
  | @first c stack seen result hnot rest ih =>
    intro a ha
    rcases ih a ha with hmem | ⟨b, hb, hba⟩
    · rcases List.mem_append.mp hmem with hmem | hmem
      · exact .inl hmem
      · rw [List.mem_singleton] at hmem
        exact .inr ⟨c, List.mem_cons_self, hmem ▸ .refl⟩
    · rcases List.mem_append.mp hb with hb | hb
      · exact .inr ⟨c, List.mem_cons_self, .head hb hba⟩
      · exact .inr ⟨b, List.mem_cons_of_mem _ hb, hba⟩

theorem isClosure (h : DepthFirst next stack [] result) : IsClosure next stack result where
  nodup := h.nodup List.nodup_nil
  subset := h.stack_subset
  closed := h.closed fun _ ha => absurd ha List.not_mem_nil
  reached _ ha := (h.reached _ ha).resolve_left List.not_mem_nil

/-! ## The walk over its own result -/

/-- A visited value may stand on the stack. -/
theorem insert_seen {front back seen result : List α} {a : α} (hmem : a ∈ seen)
    (h : DepthFirst next (front ++ back) seen result) :
    DepthFirst next (front ++ a :: back) seen result := by
  generalize hstack : front ++ back = stack at h
  induction h generalizing front with
  | done seen =>
    obtain ⟨rfl, rfl⟩ := List.append_eq_nil_iff.mp hstack
    exact .again hmem (.done seen)
  | @again c stack seen result hc rest ih =>
    rcases front with _ | ⟨d, front⟩
    · subst hstack
      exact .again hmem (.again hc rest)
    · obtain ⟨rfl, rfl⟩ := List.cons.inj hstack
      exact .again hc (ih hmem rfl)
  | @first c stack seen result hc rest ih =>
    rcases front with _ | ⟨d, front⟩
    · subst hstack
      exact .again hmem (.first hc rest)
    · obtain ⟨rfl, rfl⟩ := List.cons.inj hstack
      refine .first hc ?_
      have hwalk : DepthFirst next ((next d ++ front) ++ a :: back) (seen ++ [d]) result :=
        ih (List.mem_append_left _ hmem) (List.append_assoc _ _ _)
      rwa [List.append_assoc] at hwalk

/-- In place of the end of the stack, what is still to be visited. -/
theorem replace_end {front back seen rest : List α}
    (h : DepthFirst next (front ++ back) seen (seen ++ rest)) :
    DepthFirst next (front ++ rest) seen (seen ++ rest) := by
  generalize hstack : front ++ back = stack at h
  generalize hresult : seen ++ rest = result at h
  induction h generalizing front back rest with
  | done seen =>
    obtain ⟨rfl, rfl⟩ := List.append_eq_nil_iff.mp hstack
    obtain rfl := List.append_right_eq_self.mp hresult
    exact .done seen
  | @again c stack seen result hc walk ih =>
    rcases front with _ | ⟨d, front⟩
    · exact @ih [] stack rest rfl hresult
    · obtain ⟨rfl, rfl⟩ := List.cons.inj hstack
      exact .again hc (ih rfl hresult)
  | @first c stack seen result hc walk ih =>
    -- The next of what is still to be visited is the value on the stack.
    obtain ⟨others, hothers⟩ := walk.extends_seen
    have hrest : rest = c :: others := by
      rw [← hresult, List.append_assoc] at hothers
      exact (List.append_cancel_left hothers).symm
    subst hrest
    rcases front with _ | ⟨d, front⟩
    · exact .first hc (@ih (next c) stack others rfl hothers)
    · obtain ⟨rfl, rfl⟩ := List.cons.inj hstack
      refine .first hc ?_
      have hwalk : DepthFirst next ((next d ++ front) ++ d :: others) (seen ++ [d]) result :=
        insert_seen (by simp) (ih (List.append_assoc _ _ _) hothers)
      rwa [List.append_assoc] at hwalk

theorem again_self (h : DepthFirst next stack [] result) : DepthFirst next result [] result :=
  @replace_end α next [] stack [] result h

end DepthFirst

/-! ## Termination -/

theorem Visits.subset {seen as result : List α} (h : Visits next seen as result) :
    seen ⊆ result := by
  have hdone := h.depthFirst (.done result)
  exact hdone.extends_seen.subset

section Termination

variable [DecidableEq α]

/-- The recursive walk from a value, with a bound on the depth of the calls. -/
def visit (next : α → List α) : Nat → List α → α → List α
  | 0, seen, _ => seen
  | depth + 1, seen, a =>
    if a ∈ seen then seen else (next a).foldl (visit next depth) (seen ++ [a])

/-- The keys that were not visited. -/
def unseen (keys seen : List α) : Nat := (keys.filter (· ∉ seen)).length

theorem unseen_le (keys seen : List α) : unseen keys seen ≤ keys.length := List.length_filter_le _ _

theorem unseen_anti {keys seen more : List α} (h : seen ⊆ more) :
    unseen keys more ≤ unseen keys seen := by
  refine List.Sublist.length_le (List.monotone_filter_right keys fun a ha => ?_)
  simp only [decide_eq_true_iff] at ha ⊢
  exact fun hmem => ha (h hmem)

theorem unseen_concat {keys seen : List α} {a : α} (hkey : a ∈ keys) (h : a ∉ seen) :
    unseen keys (seen ++ [a]) < unseen keys seen := by
  unfold unseen
  induction keys with
  | nil => exact absurd hkey List.not_mem_nil
  | cons b keys ih =>
    have hanti : unseen keys (seen ++ [a]) ≤ unseen keys seen :=
      unseen_anti (List.subset_append_left _ _)
    unfold unseen at hanti
    by_cases hb : b = a
    · subst hb
      rw [List.filter_cons_of_neg (by simp), List.filter_cons_of_pos (by simpa using h)]
      exact Nat.lt_succ_of_le hanti
    · have ih := ih ((List.mem_cons.mp hkey).resolve_left (Ne.symm hb))
      by_cases hseen : b ∈ seen
      · rw [List.filter_cons_of_neg (by simp [hseen]), List.filter_cons_of_neg (by simp [hseen])]
        exact ih
      · rw [List.filter_cons_of_pos (by simp [hseen, hb]),
          List.filter_cons_of_pos (by simpa using hseen)]
        exact Nat.succ_lt_succ ih

/-- A depth above the number of the keys that were not visited is never reached. -/
theorem visits_foldl {keys : List α} (hkeys : ∀ a, a ∉ keys → next a = []) (depth : Nat) :
    ∀ (as seen : List α), unseen keys seen < depth →
      Visits next seen as (as.foldl (visit next depth) seen) := by
  induction depth with
  | zero => exact fun as seen h => absurd h (Nat.not_lt_zero _)
  | succ depth ihdepth =>
    intro as
    induction as with
    | nil => exact fun seen _ => .nil seen
    | cons a as ih =>
      intro seen h
      rw [List.foldl_cons]
      by_cases ha : a ∈ seen
      · rw [visit, if_pos ha]
        exact .again ha (ih seen h)
      · rw [visit, if_neg ha]
        have hcall : Visits next (seen ++ [a]) (next a)
            ((next a).foldl (visit next depth) (seen ++ [a])) := by
          by_cases hkey : a ∈ keys
          · have hlt := unseen_concat hkey ha
            exact ihdepth _ _ (by omega)
          · rw [hkeys a hkey]
            exact .nil _
        have hsubset := List.Subset.trans (List.subset_append_left seen [a]) hcall.subset
        exact .first ha hcall (ih _ (Nat.lt_of_le_of_lt (unseen_anti hsubset) h))

end Termination

end Foundations
