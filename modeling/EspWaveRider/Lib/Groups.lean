import Mathlib

/-!
# Groups with a separator between them

A list joined from non-empty groups, none of which contains the separator.

* `head?_join`, `getLast?_join`, `isChain_join` — the separator stands neither at an end nor twice
  in a row;
* `getElem?_join_iff` — where it does stand: behind the groups that come first.
-/

namespace Groups

variable {α : Type} {sep : α} {group : List α} {groups : List (List α)}

/-- Non-empty groups without the separator. -/
def Proper (sep : α) (groups : List (List α)) : Prop := ∀ group ∈ groups, group ≠ [] ∧ sep ∉ group

theorem proper_cons : Proper sep (group :: groups) ↔ (group ≠ [] ∧ sep ∉ group) ∧ Proper sep groups :=
  List.forall_mem_cons

/-- The separator does not come twice in a row. -/
def Single (sep : α) (l : List α) : Prop := l.IsChain fun a b => ¬ (a = sep ∧ b = sep)

theorem single_of_notMem {l : List α} (h : sep ∉ l) : Single sep l := by
  rw [Single, List.isChain_iff_getElem]
  rintro i hi ⟨hsep, -⟩
  exact h (hsep ▸ List.getElem_mem _)

/-- A group, or a group and others behind it. -/
theorem join_cons (sep : α) (group : List α) (groups : List (List α)) :
    [sep].intercalate (group :: groups) =
      group ++ if groups = [] then [] else sep :: [sep].intercalate groups := by
  split
  · rename_i hnil
    rw [hnil, List.intercalate_singleton, List.append_nil]
  · rename_i hne
    rw [List.intercalate_cons_of_ne_nil hne, List.append_assoc, List.singleton_append]

theorem join_ne_nil (h : Proper sep groups) (hne : groups ≠ []) : [sep].intercalate groups ≠ [] := by
  cases groups with
  | nil => exact absurd rfl hne
  | cons group groups =>
    rw [join_cons]
    exact List.append_ne_nil_of_left_ne_nil (proper_cons.1 h).1.1 _

theorem head?_join (h : Proper sep groups) : ([sep].intercalate groups).head? ≠ some sep := by
  cases groups with
  | nil => simp
  | cons group groups =>
    obtain ⟨⟨hne, hsep⟩, -⟩ := proper_cons.1 h
    rw [join_cons, List.head?_append_of_ne_nil _ hne]
    exact fun hhead => hsep (List.mem_of_head? hhead)

theorem getLast?_join (h : Proper sep groups) : ([sep].intercalate groups).getLast? ≠ some sep := by
  induction groups with
  | nil => simp
  | cons group groups ih =>
    obtain ⟨⟨-, hsep⟩, hgroups⟩ := proper_cons.1 h
    rw [join_cons]
    split
    · rw [List.append_nil]
      exact fun hlast => hsep (List.mem_of_getLast? hlast)
    · rename_i hne
      obtain ⟨a, l, hjoin⟩ := List.exists_cons_of_ne_nil (join_ne_nil hgroups hne)
      have hlast := ih hgroups
      rw [List.getLast?_append_of_ne_nil _ (List.cons_ne_nil _ _), hjoin, List.getLast?_cons_cons, ← hjoin]
      exact hlast

theorem isChain_join (h : Proper sep groups) : Single sep ([sep].intercalate groups) := by
  induction groups with
  | nil => exact List.isChain_nil
  | cons group groups ih =>
    obtain ⟨⟨-, hsep⟩, hgroups⟩ := proper_cons.1 h
    have hgroup : Single sep group := single_of_notMem hsep
    rw [join_cons]
    split
    · rwa [List.append_nil]
    · rename_i hne
      obtain ⟨a, l, hjoin⟩ := List.exists_cons_of_ne_nil (join_ne_nil hgroups hne)
      have hhead := head?_join hgroups
      have hrest := ih hgroups
      rw [hjoin] at hhead hrest ⊢
      refine List.isChain_append.2 ⟨hgroup, List.isChain_cons_cons.2 ⟨?_, hrest⟩, ?_⟩
      · rintro ⟨-, rfl⟩
        exact hhead rfl
      · rintro b hb - - ⟨rfl, -⟩
        exact hsep (List.mem_of_getLast? hb)

/-- How much the first groups occupy, with a separator behind each of them. -/
def occupied (front : List (List α)) : ℕ := (front.map List.length).sum + front.length

@[simp] theorem occupied_nil : occupied ([] : List (List α)) = 0 := rfl

theorem occupied_cons (group : List α) (front : List (List α)) :
    occupied (group :: front) = group.length + 1 + occupied front := by
  simp only [occupied, List.map_cons, List.sum_cons, List.length_cons]
  omega

/-- Either only the first group is in front, or it comes before those that are. -/
theorem exists_front_cons_iff {i : ℕ} :
    (∃ front back, group :: groups = front ++ back ∧ front ≠ [] ∧ back ≠ [] ∧
      occupied front = i + 1) ↔
    (groups ≠ [] ∧ i = group.length) ∨ ∃ j, i = group.length + 1 + j ∧
      ∃ front back, groups = front ++ back ∧ front ≠ [] ∧ back ≠ [] ∧ occupied front = j + 1 := by
  constructor
  · rintro ⟨front, back, happend, hfront, hback, hoccupied⟩
    obtain ⟨first, front, rfl⟩ := List.exists_cons_of_ne_nil hfront
    obtain ⟨rfl, rfl⟩ := List.cons.inj happend
    rw [occupied_cons] at hoccupied
    cases front with
    | nil => exact Or.inl ⟨hback, by rw [occupied_nil] at hoccupied; omega⟩
    | cons second front =>
      have hsecond := occupied_cons second front
      exact Or.inr ⟨i - group.length - 1, by omega, second :: front, back, rfl,
        List.cons_ne_nil _ _, hback, by omega⟩
  · rintro (⟨hmore, rfl⟩ | ⟨j, rfl, front, back, rfl, -, hback, hoccupied⟩)
    · exact ⟨[group], groups, rfl, List.cons_ne_nil _ _, hmore, occupied_cons group []⟩
    · refine ⟨group :: front, back, rfl, List.cons_ne_nil _ _, hback, ?_⟩
      rw [occupied_cons, hoccupied]
      omega

theorem getElem?_join_cons_iff (hsep : sep ∉ group) (i : ℕ) :
    ([sep].intercalate (group :: groups))[i]? = some sep ↔
      (groups ≠ [] ∧ i = group.length) ∨
      ∃ j, i = group.length + 1 + j ∧ ([sep].intercalate groups)[j]? = some sep := by
  rw [join_cons]
  rcases Nat.lt_trichotomy i group.length with hlt | rfl | hlater
  · rw [List.getElem?_append_left hlt]
    refine iff_of_false (fun hget => hsep (List.mem_of_getElem? hget)) ?_
    omega
  · rw [List.getElem?_append_right le_rfl, Nat.sub_self]
    split
    · simp [*]
    · simp [*]
  · obtain ⟨j, rfl⟩ := Nat.exists_eq_add_of_lt hlater
    have hindex : group.length + j + 1 - group.length = j + 1 := by omega
    have hbehind : ∀ k, group.length + j + 1 = group.length + 1 + k ↔ k = j := by omega
    rw [List.getElem?_append_right (by omega), hindex]
    have hgt : group.length + j + 1 ≠ group.length := by omega
    split
    · simp [*]
    · simp [hbehind, hgt]

/-- The separator stands behind the groups that come first, if there are more. -/
theorem getElem?_join_iff (h : Proper sep groups) (i : ℕ) :
    ([sep].intercalate groups)[i]? = some sep ↔
      ∃ front back, groups = front ++ back ∧ front ≠ [] ∧ back ≠ [] ∧ occupied front = i + 1 := by
  induction groups generalizing i with
  | nil =>
    refine iff_of_false (by simp) ?_
    rintro ⟨front, back, hgroups, hfront, -⟩
    exact hfront (List.append_eq_nil_iff.1 hgroups.symm).1
  | cons group groups ih =>
    obtain ⟨⟨-, hsep⟩, hgroups⟩ := proper_cons.1 h
    rw [getElem?_join_cons_iff hsep, exists_front_cons_iff]
    refine or_congr_right (exists_congr fun j => and_congr_right fun _ => ih hgroups j)

end Groups
