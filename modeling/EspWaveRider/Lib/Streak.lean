import Mathlib

/-!
# Streaks

How often the newest samples of a log were the same.  Samples are logged with the newest
first.

* `streak` — the number of newest samples with a value, with what one more sample does;
* `min_streak_cons` — a counter with a limit that starts over at another value.
-/

namespace Streak

variable {α : Type} [DecidableEq α]

/-- How many of the newest samples are `value`, without a gap. -/
def streak (value : α) : List α → ℕ
  | [] => 0
  | sample :: samples => if sample = value then streak value samples + 1 else 0

@[simp] theorem streak_nil (value : α) : streak value [] = 0 := rfl

@[simp] theorem streak_cons_self (value : α) (samples : List α) :
    streak value (value :: samples) = streak value samples + 1 := if_pos rfl

/-- A counter that stops at a limit and starts over at every other value counts the streak. -/
theorem min_streak_cons (limit : ℕ) (value sample : α) (samples : List α) :
    min limit (streak value (sample :: samples)) =
      if sample = value then min limit (min limit (streak value samples) + 1) else 0 := by
  rw [streak]
  split
  · omega
  · exact Nat.min_zero limit

end Streak
