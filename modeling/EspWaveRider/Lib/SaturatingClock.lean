import Mathlib

/-!
# Interval tests on a saturating clock

A clock that counts up to `cap` and then stays there, and the test "at least
`period` has gone by since `since`" made by subtracting two of its readings.
The test can only be wrong near the end of the clock's range.

* `due_iff` — once the time has passed, the test says so exactly when the
  deadline itself is within the clock's range.
-/

namespace SaturatingClock

/-- What the clock shows at time `t`. -/
def reading (cap t : ℕ) : ℕ := min t cap

/-- The interval test, on two readings. -/
def due (period since now : ℕ) : Prop := period ≤ now - since

instance (period since now : ℕ) : Decidable (due period since now) :=
  inferInstanceAs (Decidable (_ ≤ _))

/-- Once the interval is over, the test sees it exactly when the clock could
still show the deadline. -/
theorem due_iff {cap period t u : ℕ} (hperiod : 0 < period) (h : t + period ≤ u) :
    due period (reading cap t) (reading cap u) ↔ t + period ≤ cap := by
  unfold due reading
  omega

end SaturatingClock
