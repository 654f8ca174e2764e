import Mathlib

/-!
# Comparing lists of narrowed numbers

A three-way comparison says -1, 0 or 1.  Lists are compared by their first
difference.  When their elements go through a function first, as numbers do that
are stored in fewer bits, the comparison is of other lists.

* `order_swap`, `order_trans` — a three-way comparison of anything in a linear order;
* `eq_order_of_scan` — the loop over two lists of one length;
* `order_map_iff` — when narrowed lists compare as the lists do;
* `kept_of_strict` — they do when no two different elements come together or cross.
-/

namespace Narrowing

variable {α β : Type} [LinearOrder α] [LinearOrder β]

/-- The sign of the difference. -/
def order (a b : α) : ℤ := if a < b then -1 else if b < a then 1 else 0

theorem order_of_lt {a b : α} (h : a < b) : order a b = -1 := if_pos h

theorem order_of_gt {a b : α} (h : b < a) : order a b = 1 := by
  rw [order, if_neg h.not_gt, if_pos h]

@[simp] theorem order_self (a : α) : order a a = 0 := by
  simp [order]

theorem order_swap (a b : α) : order b a = -order a b := by
  rcases lt_trichotomy a b with h | rfl | h
  · rw [order_of_lt h, order_of_gt h]
    rfl
  · rw [order_self, neg_zero]
  · rw [order_of_lt h, order_of_gt h]

theorem order_le_zero_iff {a b : α} : order a b ≤ 0 ↔ a ≤ b := by
  rcases lt_trichotomy a b with h | rfl | h
  · simp [order_of_lt h, h.le]
  · simp
  · simp [order_of_gt h, h]

theorem order_trans {a b c : α} (hab : order a b ≤ 0) (hbc : order b c ≤ 0) : order a c ≤ 0 :=
  order_le_zero_iff.2 ((order_le_zero_iff.1 hab).trans (order_le_zero_iff.1 hbc))

/-- Unequal things are in one order or in the other. -/
theorem order_eq_iff_of_ne {a b : α} {c d : β} (hab : a ≠ b) (hcd : c ≠ d) :
    order a b = order c d ↔ (a < b ↔ c < d) := by
  rcases lt_or_gt_of_ne hab with h | h <;> rcases lt_or_gt_of_ne hcd with h' | h'
  · simp [order_of_lt h, order_of_lt h', h, h']
  · simp [order_of_lt h, order_of_gt h', h, h'.not_gt]
  · simp [order_of_gt h, order_of_lt h', h.not_gt, h']
  · simp [order_of_gt h, order_of_gt h', h.not_gt, h'.not_gt]

/-! ## Lists -/

theorem order_nil_cons (b : α) (right : List α) : order [] (b :: right) = -1 :=
  order_of_lt (List.nil_lt_cons b right)

theorem order_cons_nil (a : α) (left : List α) : order (a :: left) [] = 1 :=
  order_of_gt (List.nil_lt_cons a left)

theorem order_cons_self (a : α) (left right : List α) :
    order (a :: left) (a :: right) = order left right := by
  rcases lt_trichotomy left right with h | rfl | h
  · rw [order_of_lt h, order_of_lt (List.cons_lt_cons_iff.2 (.inr ⟨rfl, h⟩))]
  · rw [order_self, order_self]
  · rw [order_of_gt h, order_of_gt (List.cons_lt_cons_iff.2 (.inr ⟨rfl, h⟩))]

theorem order_cons_of_ne {a b : α} (h : a ≠ b) (left right : List α) :
    order (a :: left) (b :: right) = order a b := by
  rcases lt_or_gt_of_ne h with h | h
  · rw [order_of_lt h, order_of_lt (List.cons_lt_cons_iff.2 (.inl h))]
  · rw [order_of_gt h, order_of_gt (List.cons_lt_cons_iff.2 (.inl h))]

/-- A scan for the first difference compares lists of one length. -/
theorem eq_order_of_scan {scan : List α → List α → ℤ} (hnil : scan [] [] = 0)
    (hcons : ∀ l left r right, scan (l :: left) (r :: right) =
      if l < r then -1 else if l > r then 1 else scan left right)
    {left right : List α} (h : left.length = right.length) : scan left right = order left right := by
  induction left generalizing right with
  | nil =>
    obtain rfl := List.length_eq_zero_iff.1 h.symm
    rw [hnil, order_self]
  | cons l left ih =>
    cases right with
    | nil => cases h
    | cons r right =>
      have hlength : left.length = right.length := by simpa using h
      rw [hcons]
      split_ifs with hlt hgt
      · rw [order_cons_of_ne hlt.ne, order_of_lt hlt]
      · rw [order_cons_of_ne hgt.ne', order_of_gt hgt]
      · obtain rfl : l = r := le_antisymm (not_lt.1 hgt) (not_lt.1 hlt)
        rw [order_cons_self, ih hlength]

/-! ## After narrowing -/

/-- The first elements that `f` keeps apart are in this order. -/
def Decides (f : α → β) (lower : Prop) : List α → List α → Prop
  | a :: left, b :: right =>
    if f a = f b then Decides f lower left right else (f a < f b ↔ lower)
  | [], _ :: _ => lower
  | _ :: _, [] => ¬ lower
  | [], [] => False

/-- `f` keeps the first difference and its direction, or makes it disappear and a later
one happens to have the same direction. -/
def Kept (f : α → β) : List α → List α → Prop
  | a :: left, b :: right =>
    if a = b then Kept f left right
    else if f a = f b then Decides f (a < b) left right
    else (f a < f b ↔ a < b)
  | _, _ => True

theorem order_map_eq_iff_decides {f : α → β} {a b : α} (hab : a ≠ b) (left right : List α) :
    order (left.map f) (right.map f) = order a b ↔ Decides f (a < b) left right := by
  induction left generalizing right with
  | nil =>
    cases right with
    | nil =>
      rcases lt_or_gt_of_ne hab with h | h
      · simp [Decides, order_of_lt h]
      · simp [Decides, order_of_gt h]
    | cons d right =>
      rw [List.map_nil, List.map_cons, order_nil_cons]
      rcases lt_or_gt_of_ne hab with h | h
      · simp [Decides, order_of_lt h, h]
      · simp [Decides, order_of_gt h, h.le]
  | cons c left ih =>
    cases right with
    | nil =>
      rw [List.map_nil, List.map_cons, order_cons_nil]
      rcases lt_or_gt_of_ne hab with h | h
      · simp [Decides, order_of_lt h, h]
      · simp [Decides, order_of_gt h, h.le]
    | cons d right =>
      rw [List.map_cons, List.map_cons, Decides]
      split_ifs with heq
      · rw [heq, order_cons_self]
        exact ih right
      · rw [order_cons_of_ne heq]
        exact order_eq_iff_of_ne heq hab

/-- When narrowed lists compare as the lists do. -/
theorem order_map_iff (f : α → β) (left right : List α) :
    order (left.map f) (right.map f) = order left right ↔ Kept f left right := by
  induction left generalizing right with
  | nil =>
    cases right with
    | nil => simp [Kept]
    | cons b right => simp [Kept, order_nil_cons]
  | cons a left ih =>
    cases right with
    | nil => simp [Kept, order_cons_nil]
    | cons b right =>
      rw [List.map_cons, List.map_cons, Kept]
      split_ifs with heq hsame
      · rw [heq, order_cons_self, order_cons_self]
        exact ih right
      · rw [hsame, order_cons_self, order_cons_of_ne heq]
        exact order_map_eq_iff_decides heq left right
      · rw [order_cons_of_ne hsame, order_cons_of_ne heq]
        exact order_eq_iff_of_ne hsame heq

/-- Elements that `f` neither brings together nor crosses. -/
theorem kept_of_strict {f : α → β} {s : Set α} (hf : StrictMonoOn f s) {left right : List α}
    (hleft : ∀ a ∈ left, a ∈ s) (hright : ∀ b ∈ right, b ∈ s) : Kept f left right := by
  induction left generalizing right with
  | nil => trivial
  | cons a left ih =>
    cases right with
    | nil => trivial
    | cons b right =>
      have ha := hleft a (List.mem_cons_self ..)
      have hb := hright b (List.mem_cons_self ..)
      rw [Kept]
      split_ifs with heq hsame
      · exact ih (fun c hc => hleft c (List.mem_cons_of_mem _ hc))
          fun c hc => hright c (List.mem_cons_of_mem _ hc)
      · exact absurd (hf.injOn ha hb hsame) heq
      · exact hf.lt_iff_lt ha hb

end Narrowing
