import Mathlib

/-!
# Signals that are held for a while

A signal is sampled now and then, and an output stays up for a hold time after the last
sample that was true.  Samples and outputs are logged, the newest first.

* `lastTrue`, `Held` — the last sample that was true, and whether it is recent enough;
* `stamp`, `held_iff_stamp` — the same from one time stamp, with zero for "never";
* `changes` — how often a logged output changed;
* `faded` — a level that goes down while the hold time passes.
-/

namespace HeldSignal

/-! ## Samples -/

/-- When a sample was last true. -/
def lastTrue : List (ℕ × Bool) → Option ℕ
  | [] => none
  | (time, value) :: samples => if value then some time else lastTrue samples

theorem mem_of_mem_lastTrue {samples : List (ℕ × Bool)} {time : ℕ} (h : time ∈ lastTrue samples) :
    (time, true) ∈ samples := by
  induction samples with
  | nil => cases h
  | cons sample samples ih =>
    obtain ⟨t, value⟩ := sample
    cases value with
    | true =>
      cases h
      exact List.mem_cons_self ..
    | false => exact List.mem_cons_of_mem _ (ih h)

/-- Once there was a true sample there always is a last one. -/
theorem isSome_lastTrue_cons {samples : List (ℕ × Bool)} (sample : ℕ × Bool)
    (h : (lastTrue samples).isSome) : (lastTrue (sample :: samples)).isSome := by
  obtain ⟨t, value⟩ := sample
  cases value with
  | true => rfl
  | false => exact h

/-- The last true sample lies within the hold time. -/
def Held (hold now : ℕ) (samples : List (ℕ × Bool)) : Prop :=
  ∃ time ∈ lastTrue samples, now - time < hold

/-- Samples that stay false after some time are not held for longer than the hold time. -/
theorem not_held_of_late {hold now limit : ℕ} {samples : List (ℕ × Bool)}
    (hlate : ∀ time value, (time, value) ∈ samples → limit < time → value = false)
    (hnow : limit + hold ≤ now) : ¬Held hold now samples := by
  rintro ⟨time, htime, hrecent⟩
  have hmem := mem_of_mem_lastTrue htime
  have hlimit : time ≤ limit := by
    by_contra hlt
    exact Bool.noConfusion (hlate time true hmem (by omega))
  omega

/-! ## One time stamp -/

/-- The time of the last true sample, zero without one. -/
def stamp (samples : List (ℕ × Bool)) : ℕ := (lastTrue samples).getD 0

theorem stamp_cons (time : ℕ) (value : Bool) (samples : List (ℕ × Bool)) :
    stamp ((time, value) :: samples) = if value then time else stamp samples := by
  cases value <;> rfl

/-- When no sample is taken at time zero the stamp is enough. -/
theorem held_iff_stamp {samples : List (ℕ × Bool)} (hpos : ∀ sample ∈ samples, 0 < sample.1)
    (hold now : ℕ) : Held hold now samples ↔ stamp samples ≠ 0 ∧ now - stamp samples < hold := by
  unfold Held stamp
  cases hlast : lastTrue samples with
  | none => simp
  | some time =>
    have htime : 0 < time := hpos _ (mem_of_mem_lastTrue hlast)
    simp [htime.ne']

/-! ## Outputs -/

/-- How often the output changed. -/
def changes : List Bool → ℕ
  | [] => 0
  | [_] => 0
  | value :: previous :: outputs =>
    changes (previous :: outputs) + if value = previous then 0 else 1

example : changes [false, true, true, false] = 2 := by decide

/-- One more output. -/
theorem changes_cons (value : Bool) (outputs : List Bool) :
    changes (value :: outputs) =
      changes outputs + if ∀ previous ∈ outputs.head?, value = previous then 0 else 1 := by
  cases outputs with
  | nil => rfl
  | cons previous outputs =>
    simp only [changes, List.head?_cons, Option.mem_def, Option.some.injEq, forall_eq']

/-! ## Levels -/

/-- What is left of a level when so much of the hold time remains. -/
def faded (level hold remaining : ℕ) : ℕ := remaining * level / hold

theorem faded_le {level hold remaining : ℕ} (h : remaining ≤ hold) :
    faded level hold remaining ≤ level :=
  Nat.div_le_of_le_mul (Nat.mul_le_mul_right level h)

theorem faded_mono (level hold : ℕ) {remaining later : ℕ} (h : later ≤ remaining) :
    faded level hold later ≤ faded level hold remaining :=
  Nat.div_le_div_right (Nat.mul_le_mul_right level h)

@[simp] theorem faded_zero (level hold : ℕ) : faded level hold 0 = 0 := by
  simp [faded]

/-- The level is whole only before any of the hold time has passed. -/
theorem faded_eq_self_iff {level hold remaining : ℕ} (hhold : 0 < hold) (h : remaining ≤ hold) :
    faded level hold remaining = level ↔ level = 0 ∨ remaining = hold := by
  constructor
  · intro heq
    by_contra hne
    obtain ⟨hlevel, hremaining⟩ := not_or.1 hne
    have hlt : remaining * level < level * hold := by
      rw [Nat.mul_comm level]
      exact Nat.mul_lt_mul_of_pos_right (by omega) (Nat.pos_of_ne_zero hlevel)
    exact absurd heq (Nat.div_lt_of_lt_mul (by rwa [Nat.mul_comm hold])).ne
  · rintro (rfl | rfl)
    · simp [faded]
    · exact Nat.mul_div_cancel_left level hhold

end HeldSignal
