import Mathlib

/-!
# Checked arithmetic

Fixed-width counters, divisions and arrays in which an overflow, a zero divisor or an access out
of bounds is `none`.  That a program is never `none` then says that it has none of them.

* `fits_of_lt`, `divide_of_ne`, `pushWithin_of_lt` — when one operation succeeds;
* `foldlM_keeps` — a loop succeeds and keeps an invariant if each pass does.
-/

namespace Checked

variable {α β : Type}

/-- A value that is stored in `width` bits. -/
def fits (width n : ℕ) : Option ℕ := if n < 2 ^ width then some n else none

theorem fits_of_lt {width n : ℕ} (h : n < 2 ^ width) : fits width n = some n := if_pos h

/-- A division by something that may be zero. -/
def divide (n d : ℕ) : Option ℕ := if d = 0 then none else some (n / d)

theorem divide_of_ne {n d : ℕ} (h : d ≠ 0) : divide n d = some (n / d) := if_neg h

/-- `array[count++] = a`, in an array of `capacity`, of which the first `count` elements are in
use. -/
def pushWithin (capacity : ℕ) (used : List α) (a : α) : Option (List α) :=
  if used.length < capacity then some (used ++ [a]) else none

theorem pushWithin_of_lt {capacity : ℕ} {used : List α} (h : used.length < capacity) (a : α) :
    pushWithin capacity used a = some (used ++ [a]) := if_pos h

/-- A loop of at most `limit` passes.  The invariant speaks of the elements that were visited. -/
theorem foldlM_keeps {f : β → α → Option β} {Inv : List α → β → Prop} {limit : ℕ}
    (hpass : ∀ done a b, done.length < limit → Inv done b →
      ∃ b', f b a = some b' ∧ Inv (done ++ [a]) b')
    (rest : List α) {done : List α} {b : β} (hlimit : done.length + rest.length ≤ limit)
    (h : Inv done b) : ∃ b', rest.foldlM f b = some b' ∧ Inv (done ++ rest) b' := by
  induction rest generalizing done b with
  | nil => exact ⟨b, rfl, by rwa [List.append_nil]⟩
  | cons a rest ih =>
    rw [List.length_cons] at hlimit
    obtain ⟨b₁, hb₁, h₁⟩ := hpass done a b (by omega) h
    have hlimit₁ : (done ++ [a]).length + rest.length ≤ limit := by
      simp only [List.length_append, List.length_singleton]
      omega
    obtain ⟨b₂, hb₂, h₂⟩ := ih hlimit₁ h₁
    refine ⟨b₂, ?_, ?_⟩
    · rw [List.foldlM_cons, hb₁]
      exact hb₂
    · rwa [List.append_assoc] at h₂

end Checked
