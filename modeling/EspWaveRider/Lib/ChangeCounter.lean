import Mathlib

/-!
# Change counters that wrap around

Settings are marked as changed by a counter that runs through `1, …, n` and then
starts again, without zero.  Whoever sends the settings notes the value of the
counter, and sends again when the counter differs from it.

* `iterate_next` — the counter after any number of marks;
* `Follows` — how settings, counter, noted value and last announcement belong
  together; it starts so and is kept by marks and announcements;
* `Follows.current` — what was announced last is current while the counter has the
  noted value, provided it has not run round since.
-/

namespace ChangeCounter

/-- One mark; zero is skipped. -/
def next (n g : ℕ) : ℕ := max ((g + 1) % (n + 1)) 1

theorem next_of_lt {n g : ℕ} (h : g < n) : next n g = g + 1 := by
  rw [next, Nat.mod_eq_of_lt (by omega)]
  omega

theorem next_self (n : ℕ) : next n n = 1 := by
  rw [next, Nat.mod_self]
  rfl

/-- The counter after `k` marks. -/
theorem iterate_next {n g : ℕ} (hlow : 1 ≤ g) (hhigh : g ≤ n) (k : ℕ) :
    (next n)^[k] g = (g - 1 + k) % n + 1 := by
  induction k with
  | zero =>
    have hmod : (g - 1 + 0) % n = g - 1 := Nat.mod_eq_of_lt (by omega)
    rw [Function.iterate_zero_apply, hmod]
    omega
  | succ k ih =>
    rw [Function.iterate_succ_apply', ih, ← Nat.add_assoc, Nat.add_mod (g - 1 + k) 1]
    have hlt : (g - 1 + k) % n < n := Nat.mod_lt _ (by omega)
    rcases Nat.lt_or_ge ((g - 1 + k) % n + 1) n with hbelow | hlast
    · rw [next_of_lt hbelow, Nat.mod_eq_of_lt (b := n) (a := 1) (by omega),
        Nat.mod_eq_of_lt hbelow]
    · -- the last value, after which the counter starts again
      have hend : (g - 1 + k) % n + 1 = n := by omega
      rw [hend, next_self]
      rcases Nat.eq_or_lt_of_le (show 1 ≤ n by omega) with hone | hmany
      · rw [← hone, Nat.mod_one]
      · rw [Nat.mod_eq_of_lt hmany, hend, Nat.mod_self]

theorem iterate_next_mem {n g : ℕ} (hlow : 1 ≤ g) (hhigh : g ≤ n) (k : ℕ) :
    1 ≤ (next n)^[k] g ∧ (next n)^[k] g ≤ n := by
  rw [iterate_next hlow hhigh]
  have hlt : (g - 1 + k) % n < n := Nat.mod_lt _ (by omega)
  omega

/-- The counter comes back to a value after whole rounds only. -/
theorem iterate_next_eq_self {n g k : ℕ} (hlow : 1 ≤ g) (hhigh : g ≤ n) (hk : k < n)
    (h : (next n)^[k] g = g) : k = 0 := by
  rw [iterate_next hlow hhigh] at h
  rcases Nat.lt_or_ge (g - 1 + k) n with hlt | hge
  · rw [Nat.mod_eq_of_lt hlt] at h
    omega
  · rw [Nat.mod_eq_sub_mod hge, Nat.mod_eq_of_lt (by omega)] at h
    omega

/-- How many marks lie between two values, when the counter has not run round. -/
def distance (n g g' : ℕ) : ℕ := (g' + n - g) % n

theorem distance_iterate_next {n g k : ℕ} (hlow : 1 ≤ g) (hhigh : g ≤ n) (hk : k < n) :
    distance n g ((next n)^[k] g) = k := by
  rw [iterate_next hlow hhigh, distance]
  rcases Nat.lt_or_ge (g - 1 + k) n with hlt | hge
  · rw [Nat.mod_eq_of_lt hlt]
    have hsum : g - 1 + k + 1 + n - g = k + n := by omega
    rw [hsum, Nat.add_mod_right, Nat.mod_eq_of_lt hk]
  · have hround : (g - 1 + k) % n = g - 1 + k - n := by
      rw [Nat.mod_eq_sub_mod hge, Nat.mod_eq_of_lt (by omega)]
    have hsum : g - 1 + k - n + 1 + n - g = k := by omega
    rw [hround, hsum, Nat.mod_eq_of_lt hk]

/-! ## Announcements -/

/-- The settings sent last, and how often they were marked as changed since. -/
structure Announcement (C : Type) where
  settings : C
  marks : ℕ
  deriving DecidableEq

/-- Marks since the last announcement are counted. -/
def Announcement.mark {C : Type} (a : Announcement C) (k : ℕ) : Announcement C :=
  { a with marks := a.marks + k }

variable {C : Type}

/-- The counter has moved from the noted value by the marks made since; without marks the
settings are the announced ones. -/
structure Follows (n : ℕ) (settings : C) (generation noted : ℕ)
    (last : Option (Announcement C)) : Prop where
  low : 1 ≤ generation
  high : generation ≤ n
  never : last = none → noted = 0
  noted_mem : ∀ a ∈ last, 1 ≤ noted ∧ noted ≤ n
  since : ∀ a ∈ last, generation = (next n)^[a.marks] noted
  unmarked : ∀ a ∈ last, a.marks = 0 → a.settings = settings

namespace Follows

variable {n generation noted : ℕ} {settings settings' : C} {last : Option (Announcement C)}

/-- Before anything is announced. -/
theorem of_none (hlow : 1 ≤ generation) (hhigh : generation ≤ n) :
    Follows n settings generation 0 none :=
  ⟨hlow, hhigh, fun _ => rfl, nofun, nofun, nofun⟩

/-- The settings change only together with a mark. -/
theorem mark (h : Follows n settings generation noted last) (k : ℕ)
    (hsettings : k = 0 → settings' = settings) :
    Follows n settings' ((next n)^[k] generation) noted (last.map (·.mark k)) := by
  obtain ⟨hlow, hhigh⟩ := iterate_next_mem h.low h.high k
  refine ⟨hlow, hhigh, fun hnone => h.never (Option.map_eq_none_iff.1 hnone), ?_, ?_, ?_⟩
  · intro a ha
    obtain ⟨b, hb, rfl⟩ := Option.map_eq_some_iff.1 ha
    exact h.noted_mem b hb
  · intro a ha
    obtain ⟨b, hb, rfl⟩ := Option.map_eq_some_iff.1 ha
    show _ = (next n)^[b.marks + k] noted
    rw [Nat.add_comm, Function.iterate_add_apply, ← h.since b hb]
  · intro a ha hmarks
    obtain ⟨b, hb, rfl⟩ := Option.map_eq_some_iff.1 ha
    have hzero : b.marks + k = 0 := hmarks
    rw [hsettings (by omega)]
    exact h.unmarked b hb (by omega)

/-- Settings are announced and the counter is noted. -/
theorem announce (h : Follows n settings generation noted last) (settings' : C) :
    Follows n settings' generation generation (some ⟨settings', 0⟩) := by
  refine ⟨h.low, h.high, nofun, fun _ _ => ⟨h.low, h.high⟩, ?_, ?_⟩
  · rintro a ⟨⟩
    rfl
  · rintro a ⟨⟩ _
    rfl

/-- While the counter has the noted value the settings announced last are current. -/
theorem current (h : Follows n settings generation noted last) (hmarks : ∀ a ∈ last, a.marks < n)
    (hnoted : generation = noted) : last.map (·.settings) = some settings := by
  cases last with
  | none =>
    have hzero := h.never rfl
    have hlow := h.low
    omega
  | some a =>
    obtain ⟨hlow, hhigh⟩ := h.noted_mem a rfl
    have hround := (h.since a rfl).symm.trans hnoted
    have hzero := iterate_next_eq_self hlow hhigh (hmarks a rfl) hround
    exact congrArg some (h.unmarked a rfl hzero)

end Follows

end ChangeCounter
