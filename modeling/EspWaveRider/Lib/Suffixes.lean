import Mathlib.Data.List.Infix

/-!
# Names cut to a length

The name of a part is the name of its unit with a suffix behind it, cut where its buffer ends.

* `eq_of_take_append_eq` — the unit is told from the name of a part when the suffix begins with
  a mark that no suffix has further behind;
* `take_suffix_eq` — and so is what is left of the suffix.
-/

namespace Suffixes

variable {α : Type} {e f s t : List α} {k l w : ℕ}

theorem take_append_of_le (h : e.length ≤ k) : (e ++ s).take k = e ++ s.take (k - e.length) := by
  rw [List.take_append, List.take_of_length_le h]

/-- Of one unit: the suffixes are the same as far as they are left. -/
theorem take_suffix_eq (hk : e.length + w ≤ k) (hl : e.length + w ≤ l)
    (h : (e ++ s).take k = (e ++ t).take l) : s.take w = t.take w := by
  rw [take_append_of_le (by omega), take_append_of_le (by omega), List.append_cancel_left_eq] at h
  calc s.take w = (s.take (k - e.length)).take w := by
        rw [List.take_take, min_eq_left (by omega)]
    _ = (t.take (l - e.length)).take w := by rw [h]
    _ = t.take w := by rw [List.take_take, min_eq_left (by omega)]

/-- What stands of both names in the first so many places. -/
theorem take_eq_of_take_eq {names others : List α} {n : ℕ} (hl : n ≤ l) (hn : n ≤ others.length)
    (h : names.take k = others.take l) : names.take n = others.take n := by
  have hcut : (names.take k).take n = others.take n := by
    rw [h, List.take_take, min_eq_left hl]
  rw [List.take_take] at hcut
  have hlen := congrArg List.length hcut
  rw [List.length_take, List.length_take, min_eq_left hn] at hlen
  rwa [min_eq_left (by omega)] at hcut

/-- The longer unit would show the mark of its suffix inside the suffix of the shorter one. -/
theorem length_eq_of_take_append_eq (hlen : e.length ≤ f.length) (hl : f.length + w ≤ l)
    (ht : w ≤ t.length) (hmark : ¬ t.take w <:+: s.tail)
    (h : (e ++ s).take k = (f ++ t).take l) : e.length = f.length := by
  by_contra hne
  have hshown : (e ++ s).take (f.length + w) = (f ++ t).take (f.length + w) :=
    take_eq_of_take_eq hl (by rw [List.length_append]; omega) h
  have hdrop := congrArg (List.drop f.length) hshown
  rw [List.drop_take, List.drop_take, Nat.add_sub_cancel_left, List.drop_left, List.drop_append,
    List.drop_eq_nil_of_le hlen, List.nil_append] at hdrop
  have htail : s.drop (f.length - e.length) = s.tail.drop (f.length - e.length - 1) := by
    rw [← List.drop_one, List.drop_drop]
    congr 1
    omega
  rw [htail] at hdrop
  refine hmark ?_
  rw [← hdrop]
  exact (List.take_prefix _ _).isInfix.trans (List.drop_suffix _ _).isInfix

theorem eq_of_take_append_eq_of_le (hlen : e.length ≤ f.length) (hl : f.length + w ≤ l)
    (ht : w ≤ t.length) (hmark : ¬ t.take w <:+: s.tail)
    (h : (e ++ s).take k = (f ++ t).take l) : e = f := by
  have heq := length_eq_of_take_append_eq hlen hl ht hmark h
  have hshown : (e ++ s).take f.length = (f ++ t).take f.length :=
    take_eq_of_take_eq (by omega) (by simp) h
  rwa [← heq, List.take_left, heq, List.take_left] at hshown

/-- Parts of the same name belong to one unit. -/
theorem eq_of_take_append_eq (hk : e.length + w ≤ k) (hl : f.length + w ≤ l) (hs : w ≤ s.length)
    (ht : w ≤ t.length) (hmark : ¬ t.take w <:+: s.tail) (hmark' : ¬ s.take w <:+: t.tail)
    (h : (e ++ s).take k = (f ++ t).take l) : e = f := by
  rcases le_total e.length f.length with hlen | hlen
  · exact eq_of_take_append_eq_of_le hlen hl ht hmark h
  · exact (eq_of_take_append_eq_of_le hlen hk hs hmark' h.symm).symm

end Suffixes
