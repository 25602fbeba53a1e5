import Mathlib.Logic.Function.Basic

/-!
# Results that are kept

Sources that change, and the results that were computed from them. A result is computed when its
key is asked for and none is kept; from then on it stays, whatever becomes of the source.

`memo_run` says which source the result of a key is from: the one that was there when the key was
first asked for.
-/

namespace Foundations

variable {κ α β : Type}

/-- The sources and the results that are kept. -/
structure Memo (κ α β : Type) where
  source : κ → Option α
  memo : κ → Option β

namespace Memo

/-- A source is replaced or taken away, or a result is asked for. -/
inductive Event (κ α : Type) where
  | put (key : κ) (value : Option α)
  | ask (key : κ)

variable [DecidableEq κ] (compute : α → β)

/-- The answer to a question. -/
def answer (m : Memo κ α β) (key : κ) : Option β := (m.memo key).or ((m.source key).map compute)

def step (m : Memo κ α β) : Event κ α → Memo κ α β
  | .put key value => { m with source := Function.update m.source key value }
  | .ask key => { m with memo := Function.update m.memo key (m.answer compute key) }

def run (m : Memo κ α β) (events : List (Event κ α)) : Memo κ α β := events.foldl (step compute) m

/-- The source of `key` when it was first asked for and there. -/
def firstAsked (key : κ) : (κ → Option α) → List (Event κ α) → Option α
  | _, [] => none
  | source, .put k value :: events => firstAsked key (Function.update source k value) events
  | source, .ask k :: events =>
    if k = key then (source key).or (firstAsked key source events)
    else firstAsked key source events

variable {compute}

theorem run_append (m : Memo κ α β) (events events' : List (Event κ α)) :
    m.run compute (events ++ events') = (m.run compute events).run compute events' :=
  List.foldl_append

theorem memo_ask (m : Memo κ α β) (key : κ) :
    (m.step compute (.ask key)).memo key = m.answer compute key := Function.update_self key _ _

/-- A result that is kept is never computed again. -/
theorem memo_step_of_some {m : Memo κ α β} {key : κ} {b : β} (h : m.memo key = some b)
    (event : Event κ α) : (m.step compute event).memo key = some b := by
  cases event with
  | put k value => exact h
  | ask k =>
    by_cases hk : k = key
    · subst hk
      rw [memo_ask, answer, h, Option.some_or]
    · simp [step, Function.update_of_ne (Ne.symm hk), h]

theorem memo_run_of_some {m : Memo κ α β} {key : κ} {b : β} (h : m.memo key = some b)
    (events : List (Event κ α)) : (m.run compute events).memo key = some b := by
  induction events generalizing m with
  | nil => exact h
  | cons event events ih => exact ih (memo_step_of_some h event)

/-- The result of a key is the one that was kept before, or it is from the source that was there
when the key was first asked for. -/
theorem memo_run (m : Memo κ α β) (key : κ) (events : List (Event κ α)) :
    (m.run compute events).memo key =
      (m.memo key).or ((firstAsked key m.source events).map compute) := by
  cases hkept : m.memo key with
  | some b => rw [memo_run_of_some hkept, Option.some_or]
  | none =>
    rw [Option.none_or]
    induction events generalizing m with
    | nil => exact hkept
    | cons event events ih =>
      cases event with
      | put k value => exact ih _ hkept
      | ask k =>
        by_cases hk : k = key
        · subst hk
          have hmemo : (m.step compute (.ask k)).memo k = (m.source k).map compute := by
            rw [memo_ask, answer, hkept, Option.none_or]
          rw [firstAsked, if_pos rfl]
          cases hsource : m.source k with
          | some a =>
            rw [hsource] at hmemo
            exact memo_run_of_some hmemo events
          | none =>
            rw [hsource] at hmemo
            exact ih _ hmemo
        · have hmemo : (m.step compute (.ask k)).memo key = none := by
            simp [step, Function.update_of_ne (Ne.symm hk), hkept]
          rw [firstAsked, if_neg hk]
          exact ih _ hmemo

end Memo

end Foundations
