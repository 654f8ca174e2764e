import EspWaveRider.Lib.Fields

/-!
# Cutting a text at a pattern

What a text is cut into when it is put together from its parts.

* `trim_eq_self_of_ends`, `trim_isInfix` — white space at the ends;
* `splitOnce_append` — the first occurrence of a pattern;
* `rsplitOnce_append_cons` — the last occurrence of a character;
* `length_splitOn`, `splitOn_intercalate_iff` — every occurrence of a character;
* `findSome?_stripPrefix_append` — a table of commands none of which begins another.
-/

namespace Text

/-! ## White space -/

/-- A text that neither begins nor ends with white space is left alone. -/
theorem trim_eq_self_of_ends {s : Str} (hhead : ∀ c ∈ s.head?, isWhitespace c = false)
    (hlast : ∀ c ∈ s.getLast?, isWhitespace c = false) : trim s = s := by
  have hstart : trimStart s = s := by
    rw [trimStart, List.dropWhile_eq_self_iff]
    intro hpos
    rw [hhead _ (List.head?_eq_getElem? ▸ List.getElem?_eq_getElem hpos)]
    exact Bool.false_ne_true
  rw [trim, hstart, trimEnd, List.rdropWhile_eq_self_iff]
  intro hne
  rw [hlast _ (List.getLast?_eq_some_getLast hne)]
  exact Bool.false_ne_true

theorem trim_isInfix (s : Str) : trim s <:+: s :=
  (List.rdropWhile_prefix isWhitespace _).isInfix.trans (List.dropWhile_suffix isWhitespace).isInfix

theorem contains_trim {s pat : Str} (h : contains s pat = false) : contains (trim s) pat = false := by
  rw [Bool.eq_false_iff] at h ⊢
  rw [Ne, contains_iff] at h ⊢
  exact fun hoccurs => h (hoccurs.trans (trim_isInfix s))

/-! ## The first occurrence -/

theorem find?_eq_none_iff {s pat : Str} : find? pat s = none ↔ contains s pat = false := by
  rw [contains, Option.isSome_eq_false_iff, Option.isNone_iff_eq_none]

/-- An occurrence that no other one begins before. -/
theorem find?_append_append {pat : Str} (hpat : pat ≠ []) {s : Str}
    (h : contains (s ++ pat.dropLast) pat = false) (rest : Str) :
    find? pat (s ++ (pat ++ rest)) = some s.length := by
  induction s with
  | nil =>
    obtain ⟨c, pat, rfl⟩ := List.exists_cons_of_ne_nil hpat
    have hstarts : (c :: pat).isPrefixOf (c :: (pat ++ rest)) = true :=
      List.isPrefixOf_iff_prefix.2 (List.prefix_append (c :: pat) rest)
    rw [List.nil_append, List.cons_append, find?, if_pos hstarts, List.length_nil]
  | cons c s ih =>
    rw [Bool.eq_false_iff, Ne, contains_iff, List.cons_append, List.infix_cons_iff, not_or] at h
    have hlater : contains (s ++ pat.dropLast) pat = false := by
      rw [Bool.eq_false_iff, Ne, contains_iff]
      exact h.2
    have hnot : ¬ pat.isPrefixOf (c :: (s ++ (pat ++ rest))) = true := by
      intro hstarts
      refine h.1 (List.prefix_of_prefix_length_le (List.isPrefixOf_iff_prefix.1 hstarts) ?_ ?_)
      · rw [List.cons_prefix_cons]
        exact ⟨rfl, (List.prefix_append_right_inj s).2 ((List.dropLast_prefix pat).trans
          (List.prefix_append pat rest))⟩
      · have hpos := List.length_pos_of_ne_nil hpat
        rw [List.length_cons, List.length_append, List.length_dropLast]
        omega
    rw [List.cons_append, find?, if_neg hnot, ih hlater, Option.map_some, List.length_cons]

theorem eq_append_of_find? {pat s : Str} {i : ℕ} (h : find? pat s = some i) :
    ∃ rest, s = s.take i ++ (pat ++ rest) ∧ i ≤ s.length := by
  induction s generalizing i with
  | nil =>
    rw [find?] at h
    split at h
    case isTrue hempty =>
      cases h
      exact ⟨[], by rw [List.isEmpty_iff.1 hempty]; rfl, le_rfl⟩
    case isFalse => cases h
  | cons c s ih =>
    rw [find?] at h
    split at h
    case isTrue hstarts =>
      cases h
      obtain ⟨rest, hrest⟩ := List.isPrefixOf_iff_prefix.1 hstarts
      exact ⟨rest, by rw [List.take_zero, List.nil_append, hrest], Nat.zero_le _⟩
    case isFalse =>
      obtain ⟨j, hj, rfl⟩ := Option.map_eq_some_iff.1 h
      obtain ⟨rest, hrest, hle⟩ := ih hj
      refine ⟨rest, ?_, Nat.succ_le_succ hle⟩
      rw [List.take_succ_cons, List.cons_append, ← hrest]

/-- A text in which the pattern occurs is cut at the first occurrence. -/
theorem exists_first {pat s : Str} (hpat : pat ≠ []) (h : contains s pat = true) :
    ∃ front rest, s = front ++ (pat ++ rest) ∧ contains (front ++ pat.dropLast) pat = false := by
  obtain ⟨i, hi⟩ := Option.isSome_iff_exists.1 h
  obtain ⟨rest, hrest, hle⟩ := eq_append_of_find? hi
  have hpos := List.length_pos_of_ne_nil hpat
  have htake : s.take (i + pat.dropLast.length) = s.take i ++ pat.dropLast := by
    have hlen : (s.take i).length = i := List.length_take_of_le hle
    conv_lhs => rw [hrest]
    rw [List.take_append, hlen, List.take_of_length_le (by omega), Nat.add_sub_cancel_left,
      List.take_append_of_le_length (by simp), List.length_dropLast, ← List.dropLast_eq_take]
  refine ⟨s.take i, rest, hrest, ?_⟩
  rw [← htake, ← find?_eq_none_iff]
  refine find?_take_eq_none hi ?_
  rw [List.length_dropLast]
  omega

theorem splitOnce_append {pat : Str} (hpat : pat ≠ []) {s : Str}
    (h : contains (s ++ pat.dropLast) pat = false) (rest : Str) :
    splitOnce pat (s ++ (pat ++ rest)) = some (s, rest) := by
  rw [splitOnce, find?_append_append hpat h, Option.map_some, List.take_left, ← List.length_append,
    ← List.append_assoc, List.drop_left]

theorem splitOnce_eq_none {s pat : Str} (h : contains s pat = false) : splitOnce pat s = none := by
  rw [splitOnce, find?_eq_none_iff.2 h, Option.map_none]

/-! ## The last occurrence -/

theorem rsplitOnce_of_notMem {c : Char} {s : Str} (h : c ∉ s) : rsplitOnce c s = none := by
  rw [rsplitOnce, find?_singleton_of_notMem (by rwa [List.mem_reverse]), Option.map_none]

theorem rsplitOnce_append_cons {c : Char} {field : Str} (h : c ∉ field) (front : Str) :
    rsplitOnce c (front ++ c :: field) = some (front, field) := by
  have hreverse : (front ++ c :: field).reverse = field.reverse ++ c :: front.reverse := by simp
  rw [rsplitOnce, hreverse, find?_singleton_append_cons (by rwa [List.mem_reverse]), Option.map_some]
  simp [List.drop_append]

/-! ## Every occurrence -/

section EveryOccurrence

variable {α : Type} [DecidableEq α] (c : α)

/-- There is one part more than there are separators. -/
theorem length_splitOn (s : List α) : (s.splitOn c).length = s.count c + 1 := by
  induction s with
  | nil => rfl
  | cons d s ih =>
    rw [List.splitOn_cons_eq_if_modifyHead, List.count_cons]
    split
    · rw [List.length_cons, ih]
    · rw [List.length_modifyHead, ih, Nat.add_zero]

theorem count_intercalate {parts : List (List α)} (hne : parts ≠ []) :
    ([c].intercalate parts).count c + 1 = (parts.map (List.count c)).sum + parts.length := by
  induction parts with
  | nil => exact absurd rfl hne
  | cons part parts ih =>
    cases parts with
    | nil => simp
    | cons part' parts =>
      have hrest := ih (List.cons_ne_nil part' parts)
      rw [List.intercalate_cons_cons, List.append_assoc, List.count_append, List.singleton_append,
        List.count_cons_self, List.map_cons, List.sum_cons, List.length_cons]
      omega

/-- Joined parts are told apart exactly when none of them contains the separator. -/
theorem length_splitOn_intercalate_iff {parts : List (List α)} (hne : parts ≠ []) :
    (([c].intercalate parts).splitOn c).length = parts.length ↔ ∀ part ∈ parts, c ∉ part := by
  rw [length_splitOn, count_intercalate c hne, Nat.add_eq_right, List.sum_eq_zero_iff]
  simp [List.count_eq_zero]

end EveryOccurrence

/-! ## Tables of commands -/

/-- A text that begins with a name of the table begins with no other one. -/
theorem findSome?_stripPrefix_append {β : Type} {table : List (Str × β)}
    (h : table.Pairwise fun entry entry' => ¬ entry.1 <+: entry'.1 ∧ ¬ entry'.1 <+: entry.1)
    {name : Str} {v : β} (hmem : (name, v) ∈ table) {γ : Type} (f : β → Str → γ) (rest : Str) :
    table.findSome? (fun entry => (stripPrefix entry.1 (name ++ rest)).map (f entry.2)) =
      some (f v rest) := by
  induction table with
  | nil => cases hmem
  | cons entry table ih =>
    rw [List.pairwise_cons] at h
    rw [List.findSome?_cons]
    rcases List.mem_cons.1 hmem with rfl | htail
    · have hstarts : name.isPrefixOf (name ++ rest) = true :=
        List.isPrefixOf_iff_prefix.2 (List.prefix_append name rest)
      rw [stripPrefix, if_pos hstarts, List.drop_left, Option.map_some]
    · obtain ⟨hnot, hnot'⟩ := h.1 _ htail
      have hother : ¬ entry.1.isPrefixOf (name ++ rest) = true := by
        rw [List.isPrefixOf_iff_prefix]
        intro hstarts
        rcases List.prefix_or_prefix_of_prefix hstarts (List.prefix_append name rest) with h | h
        · exact hnot h
        · exact hnot' h
      rw [stripPrefix, if_neg hother, Option.map_none]
      exact ih h.2 htail

end Text
