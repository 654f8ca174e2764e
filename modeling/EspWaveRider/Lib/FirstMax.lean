import Mathlib

/-!
# The first of the greatest

A scan keeps one element and replaces it only by one of strictly greater rank.

* `scan_eq_find?` — what is kept in the end is the first element that no other
  element exceeds.
-/

namespace FirstMax

variable {α β : Type} [LinearOrder β] (rank : α → β)

/-- One element of the scan. -/
def pick : Option α → α → Option α
  | none, a => some a
  | some best, a => if rank best < rank a then some a else some best

def scan (l : List α) : Option α := l.foldl (pick rank) none

/-- No element of the list exceeds this one. -/
def Greatest (l : List α) (a : α) : Prop := ∀ b ∈ l, rank b ≤ rank a

instance (l : List α) (a : α) : Decidable (Greatest rank l a) :=
  inferInstanceAs (Decidable (∀ b ∈ l, _))

variable {rank}

theorem greatest_cons {l : List α} {a b : α} :
    Greatest rank (b :: l) a ↔ rank b ≤ rank a ∧ Greatest rank l a := by
  simp [Greatest]

/-- An element that is exceeded makes no difference to the first greatest one. -/
theorem find?_greatest_cons {l l' : List α} {b : α} (hb : ¬ Greatest rank (b :: l) b)
    (h : ∀ a ∈ l', Greatest rank (b :: l) a ↔ Greatest rank l a) :
    (b :: l').find? (fun a => Greatest rank (b :: l) a) = l'.find? (fun a => Greatest rank l a) := by
  rw [List.find?_cons_of_neg (by simpa using hb)]
  exact List.find?_congr fun a ha => decide_eq_decide.2 (h a ha)

/-- The scan with an element already kept. -/
theorem foldl_pick (l : List α) (best : α) :
    l.foldl (pick rank) (some best) =
      (best :: l).find? (fun a => Greatest rank (best :: l) a) := by
  induction l generalizing best with
  | nil => simp [Greatest]
  | cons a l ih =>
    rw [List.foldl_cons, pick]
    by_cases hlt : rank best < rank a
    · -- `best` is exceeded by `a`, and by no element that `a` is not exceeded by
      rw [if_pos hlt, ih]
      symm
      refine find?_greatest_cons ?_ ?_
      · intro hbest
        exact absurd hlt (not_lt.2 ((greatest_cons.1 (greatest_cons.1 hbest).2).1))
      · intro c _
        rw [greatest_cons, and_iff_right_iff_imp]
        intro hc
        exact hlt.le.trans (greatest_cons.1 hc).1
    · rw [if_neg hlt, ih]
      have hle : rank a ≤ rank best := not_lt.1 hlt
      have hsame (c : α) : Greatest rank (best :: a :: l) c ↔ Greatest rank (best :: l) c := by
        simp only [greatest_cons]
        constructor
        · rintro ⟨hbest, _, hl⟩
          exact ⟨hbest, hl⟩
        · rintro ⟨hbest, hl⟩
          exact ⟨hbest, hle.trans hbest, hl⟩
      simp only [hsame]
      by_cases hbest : Greatest rank (best :: l) best
      · rw [List.find?_cons_of_pos (by simpa using hbest), List.find?_cons_of_pos (by simpa using hbest)]
      · -- `a` is not the greatest either
        have ha : ¬ Greatest rank (best :: l) a := by
          intro ha
          obtain ⟨hbesta, hl⟩ := greatest_cons.1 ha
          exact hbest (greatest_cons.2 ⟨le_rfl, fun c hc => (hl c hc).trans hle⟩)
        rw [List.find?_cons_of_neg (by simpa using hbest),
          List.find?_cons_of_neg (by simpa using hbest), List.find?_cons_of_neg (by simpa using ha)]

theorem scan_eq_find? (l : List α) : scan rank l = l.find? (fun a => Greatest rank l a) := by
  cases l with
  | nil => rfl
  | cons a l => exact foldl_pick l a

theorem scan_isSome_iff {l : List α} : (scan rank l).isSome ↔ l ≠ [] := by
  have hsome (l : List α) (best : α) : (l.foldl (pick rank) (some best)).isSome := by
    induction l generalizing best with
    | nil => rfl
    | cons a l ih =>
      rw [List.foldl_cons, pick]
      split <;> exact ih _
  cases l with
  | nil => simp [scan]
  | cons a l => exact iff_of_true (hsome l a) (List.cons_ne_nil a l)

end FirstMax
