import EspWaveRider.Lib.Text

/-!
# Fields between separators

Two ways to cut a text at a character: all at once (`List.splitOn`) and one field at a time
(`Text.splitOnce`).

* `splitOn_cases` — a list is one field, or a field, the separator and the other fields;
* `splitOnce_of_notMem`, `splitOnce_append_cons` — the same for one field;
* `find?_blankLine`, `find?_take_eq_none` — where lines end with an empty one, and that a shorter
  text has no such place.
-/

namespace Text

/-- A list without the separator is one field; otherwise the first field ends at the first one. -/
theorem splitOn_cases {α : Type} [DecidableEq α] (c : α) (s : List α) : (c ∉ s ∧ s.splitOn c = [s]) ∨
    ∃ field rest, c ∉ field ∧ s = field ++ c :: rest ∧ s.splitOn c = field :: rest.splitOn c := by
  by_cases hmem : c ∈ s
  · obtain ⟨field, rest, rfl, hfield⟩ := List.eq_append_cons_of_mem hmem
    exact .inr ⟨field, rest, hfield, rfl, List.splitOn_append_cons_self_of_not_mem hfield rest⟩
  · exact .inl ⟨hmem, List.splitOn_eq_singleton hmem⟩

theorem find?_singleton_of_notMem {c : Char} {s : Str} (h : c ∉ s) : find? [c] s = none := by
  induction s with
  | nil => rfl
  | cons d s ih =>
    rw [List.mem_cons, not_or] at h
    rw [find?, if_neg (by simpa using h.1), ih h.2, Option.map_none]

theorem find?_singleton_append_cons {c : Char} {field : Str} (h : c ∉ field) (rest : Str) :
    find? [c] (field ++ c :: rest) = some field.length := by
  induction field with
  | nil => simp [find?]
  | cons d field ih =>
    rw [List.mem_cons, not_or] at h
    rw [List.cons_append, find?, if_neg (by simpa using h.1), ih h.2, Option.map_some,
      List.length_cons]

theorem splitOnce_of_notMem {c : Char} {s : Str} (h : c ∉ s) : splitOnce [c] s = none := by
  rw [splitOnce, find?_singleton_of_notMem h, Option.map_none]

theorem splitOnce_append_cons {c : Char} {field : Str} (h : c ∉ field) (rest : Str) :
    splitOnce [c] (field ++ c :: rest) = some (field, rest) := by
  rw [splitOnce, find?_singleton_append_cons h, Option.map_some]
  simp [List.drop_append]

/-! ## Prefixes of a text -/

section Occurrence

variable {α : Type} [DecidableEq α]

/-- What comes later does not move the first occurrence. -/
theorem find?_append_of_some {pat l : List α} {i : ℕ} (h : find? pat l = some i) (rest : List α) :
    find? pat (l ++ rest) = some i := by
  induction l generalizing i with
  | nil =>
    rw [find?] at h
    split at h
    case isTrue hempty =>
      cases h
      rw [List.isEmpty_iff.1 hempty]
      cases rest with
      | nil => rfl
      | cons c rest => rfl
    case isFalse => cases h
  | cons c l ih =>
    rw [find?] at h
    rw [List.cons_append, find?]
    split at h
    case isTrue hstarts =>
      have hlonger : pat.isPrefixOf (c :: (l ++ rest)) = true := by
        rw [List.isPrefixOf_iff_prefix] at hstarts ⊢
        exact hstarts.trans (List.prefix_append (c :: l) rest)
      rw [if_pos hlonger]
      exact h
    case isFalse hnot =>
      obtain ⟨j, hj, rfl⟩ := Option.map_eq_some_iff.1 h
      have hstill : ¬ pat.isPrefixOf (c :: (l ++ rest)) = true := by
        intro hstarts
        rw [List.isPrefixOf_iff_prefix] at hstarts hnot
        have hlength : pat.length ≤ (c :: l).length := by
          have hle := add_length_le_of_find? hj
          rw [List.length_cons]
          omega
        exact hnot (List.prefix_of_prefix_length_le hstarts (List.prefix_append (c :: l) rest) hlength)
      rw [if_neg hstill, ih hj, Option.map_some]

/-- A prefix that ends inside the first occurrence has none. -/
theorem find?_take_eq_none {pat l : List α} {i p : ℕ} (h : find? pat l = some i)
    (hp : p < i + pat.length) : find? pat (l.take p) = none := by
  cases hj : find? pat (l.take p) with
  | none => rfl
  | some j =>
    have hwhole := find?_append_of_some hj (l.drop p)
    rw [List.take_append_drop, h] at hwhole
    obtain rfl := Option.some.inj hwhole
    have hle := add_length_le_of_find? hj
    rw [List.length_take] at hle
    omega

/-- Before the first symbol of the pattern there is no occurrence. -/
theorem find?_append_of_notMem {c : α} {pat l : List α} (h : c ∉ l) (s : List α) :
    find? (c :: pat) (l ++ s) = (find? (c :: pat) s).map (· + l.length) := by
  induction l with
  | nil => simp
  | cons d l ih =>
    rw [List.mem_cons, not_or] at h
    rw [List.cons_append, find?, if_neg (by simp [h.1]), ih h.2, Option.map_map]
    rfl

/-- Lines, each with its ending. -/
def joinLines (cr lf : α) (lines : List (List α)) : List α := lines.flatMap (· ++ [cr, lf])

theorem joinLines_cons (cr lf : α) (line : List α) (lines : List (List α)) :
    joinLines cr lf (line :: lines) = line ++ cr :: lf :: joinLines cr lf lines := by
  rw [joinLines, List.flatMap_cons, List.append_assoc]
  rfl

/-- Lines that are not empty end with the first empty line. -/
theorem find?_blankLine {cr lf : α} (hne : cr ≠ lf) {lines : List (List α)} (hlines : lines ≠ [])
    (hline : ∀ line ∈ lines, line ≠ [] ∧ cr ∉ line) (rest : List α) :
    find? [cr, lf, cr, lf] (joinLines cr lf lines ++ cr :: lf :: rest) =
      some ((joinLines cr lf lines).length - 2) := by
  induction lines with
  | nil => exact absurd rfl hlines
  | cons line lines ih =>
    obtain ⟨hnonempty, hcr⟩ := hline line (List.mem_cons_self ..)
    cases lines with
    | nil =>
      rw [joinLines, List.flatMap_singleton, List.append_assoc, find?_append_of_notMem hcr]
      simp [find?]
    | cons next lines =>
      obtain ⟨d, next', hnext⟩ := List.exists_cons_of_ne_nil
        (hline next (List.mem_cons_of_mem _ (List.mem_cons_self ..))).1
      have hd : d ≠ cr := fun heq =>
        (hline next (List.mem_cons_of_mem _ (List.mem_cons_self ..))).2 (by simp [hnext, heq])
      have hrest := ih (List.cons_ne_nil _ _) fun l hl => hline l (List.mem_cons_of_mem _ hl)
      rw [joinLines_cons, hnext, List.cons_append, List.cons_append] at hrest
      rw [joinLines_cons, joinLines_cons, hnext, List.append_assoc, List.cons_append, List.cons_append,
        List.cons_append, List.cons_append, find?_append_of_notMem hcr, find?,
        if_neg (by simp [Ne.symm hd]), find?, if_neg (by simp [hne]), hrest]
      simp only [Option.map_some, List.length_append, List.length_cons]
      congr 1
      omega

end Occurrence

end Text
