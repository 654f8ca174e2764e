import Mathlib

/-!
# Tables whose slots are never released

A table of a fixed number of slots.  A value is stored in the slot of its key, or else in
the first free one; no slot becomes free again.  So the keys in the table are the first
ones that came, and a table that was once full takes no new key.

* `slot`, `store` — the operations, and `slot_cases` — all that can happen;
* `Filled` — the table after these keys have come, in this order; `Filled.store` keeps it;
* `Filled.exists_free_iff` — there is room exactly if few keys have come.
-/

namespace SlotTable

variable {n : ℕ} {α κ : Type} (occupied : α → Bool) (key : α → κ)

def HasKey (table : Fin n → α) (k : κ) : Prop := ∃ i, occupied (table i) ∧ key (table i) = k

/-- The keys that have come so far, when `k` comes. -/
def note [DecidableEq κ] (came : List κ) (k : κ) : List κ := if k ∈ came then came else came ++ [k]

/-- The slot of a key, or else the first free one. -/
def slot [DecidableEq κ] (table : Fin n → α) (k : κ) : Option (Fin n) :=
  (Fin.find? fun i => occupied (table i) && key (table i) = k).or
    (Fin.find? fun i => !occupied (table i))

/-- Change what is in the slot; without a slot nothing happens. -/
def store [DecidableEq κ] (table : Fin n → α) (k : κ) (f : α → α) : Fin n → α :=
  match slot occupied key table k with
  | none => table
  | some i => Function.update table i (f (table i))

/-- No key has two slots. -/
def Distinct (table : Fin n → α) : Prop :=
  ∀ i j, occupied (table i) → occupied (table j) → key (table i) = key (table j) → i = j

/-- The table after the keys of `came`, each named once. -/
structure Filled (table : Fin n → α) (came : List κ) : Prop where
  nodup : came.Nodup
  distinct : Distinct occupied key table
  hasKey_iff : ∀ k, HasKey occupied key table k ↔ k ∈ came.take n

variable {occupied key}

instance [DecidableEq κ] (table : Fin n → α) (k : κ) : Decidable (HasKey occupied key table k) :=
  inferInstanceAs (Decidable (∃ _, _))

/-! ## The slot of a key -/

theorem slot_cases [DecidableEq κ] (occupied : α → Bool) (key : α → κ) (table : Fin n → α) (k : κ) :
    (∃ i, slot occupied key table k = some i ∧ occupied (table i) ∧ key (table i) = k) ∨
      (¬ HasKey occupied key table k ∧ ∃ i, slot occupied key table k = some i ∧
        occupied (table i) = false) ∨
      (¬ HasKey occupied key table k ∧ slot occupied key table k = none ∧
        ∀ i, occupied (table i)) := by
  rw [slot]
  cases hown : Fin.find? fun i => occupied (table i) && key (table i) = k with
  | some i =>
    have hi := (Fin.find?_eq_some_iff.1 hown).1
    simp only [Bool.and_eq_true, decide_eq_true_eq] at hi
    exact Or.inl ⟨i, rfl, hi⟩
  | none =>
    have hnone : ¬ HasKey occupied key table k := by
      rintro ⟨i, hi⟩
      have hfalse := Fin.find?_eq_none_iff.1 hown i
      simp only [hi.1, hi.2, decide_true, Bool.and_self, Bool.true_eq_false] at hfalse
    right
    cases hfree : Fin.find? fun i => !occupied (table i) with
    | some i =>
      have hi := (Fin.find?_eq_some_iff.1 hfree).1
      exact Or.inl ⟨hnone, i, rfl, by simpa using hi⟩
    | none =>
      refine Or.inr ⟨hnone, rfl, fun i => ?_⟩
      simpa using Fin.find?_eq_none_iff.1 hfree i

/-- A new key finds a slot exactly if one is free. -/
theorem isSome_slot_iff [DecidableEq κ] {table : Fin n → α} {k : κ}
    (hnew : ¬ HasKey occupied key table k) :
    (slot occupied key table k).isSome ↔ ∃ i, occupied (table i) = false := by
  rcases slot_cases occupied key table k with ⟨i, _, hi⟩ | ⟨_, i, hslot, hi⟩ | ⟨_, hslot, hall⟩
  · exact absurd ⟨i, hi⟩ hnew
  · rw [hslot]
    exact ⟨fun _ => ⟨i, hi⟩, fun _ => rfl⟩
  · rw [hslot]
    constructor
    · intro h
      cases h
    · rintro ⟨i, hi⟩
      rw [hall i] at hi
      cases hi

theorem hasKey_update [DecidableEq κ] {table : Fin n → α} {i : Fin n} {a : α} (ha : occupied a)
    (hi : occupied (table i) = false ∨ key (table i) = key a) (k : κ) :
    HasKey occupied key (Function.update table i a) k ↔ k = key a ∨ HasKey occupied key table k := by
  constructor
  · rintro ⟨j, hj, hkey⟩
    by_cases hji : j = i
    · subst hji
      rw [Function.update_self] at hkey
      exact Or.inl hkey.symm
    · rw [Function.update_of_ne hji] at hj hkey
      exact Or.inr ⟨j, hj, hkey⟩
  · rintro (rfl | ⟨j, hj, hkey⟩)
    · refine ⟨i, ?_, ?_⟩ <;> rw [Function.update_self]
      exact ha
    · by_cases hji : j = i
      · subst hji
        refine ⟨j, ?_, ?_⟩ <;> rw [Function.update_self]
        · exact ha
        · rcases hi with hi | hi
          · rw [hi] at hj
            cases hj
          · exact hi.symm.trans hkey
      · refine ⟨j, ?_, ?_⟩ <;> rw [Function.update_of_ne hji]
        · exact hj
        · exact hkey

/-- One slot holds the key now, and no other one did before. -/
theorem Distinct.update {table : Fin n → α} (h : Distinct occupied key table) {i : Fin n} {a : α}
    (hother : ∀ j, j ≠ i → occupied (table j) → key (table j) ≠ key a) :
    Distinct occupied key (Function.update table i a) := by
  intro j l hj hl hjl
  by_cases hji : j = i <;> by_cases hli : l = i
  · rw [hji, hli]
  · rw [hji, Function.update_self, Function.update_of_ne hli] at hjl
    rw [Function.update_of_ne hli] at hl
    exact absurd hjl.symm (hother l hli hl)
  · rw [hli, Function.update_self, Function.update_of_ne hji] at hjl
    rw [Function.update_of_ne hji] at hj
    exact absurd hjl (hother j hji hj)
  · rw [Function.update_of_ne hji] at hj hjl
    rw [Function.update_of_ne hli] at hl hjl
    exact h j l hj hl hjl

theorem nodup_note [DecidableEq κ] {came : List κ} (h : came.Nodup) (k : κ) : (note came k).Nodup := by
  rw [note]
  split
  · exact h
  · rename_i hk
    exact List.nodup_middle.2 (List.nodup_cons.2 ⟨by rwa [List.append_nil], by rwa [List.append_nil]⟩)

/-! ## What a table remembers -/

namespace Filled

variable {table : Fin n → α} {came : List κ}

theorem empty (h : ∀ i, occupied (table i) = false) : Filled occupied key table [] := by
  refine ⟨List.nodup_nil, fun i _ hi => ?_, fun k => ⟨?_, fun hk => ?_⟩⟩
  · rw [h i] at hi
    cases hi
  · rintro ⟨i, hi, _⟩
    rw [h i] at hi
    cases hi
  · rw [List.take_nil] at hk
    cases hk

theorem card_occupied (h : Filled occupied key table came) :
    (Finset.univ.filter fun i => occupied (table i)).card = min n came.length := by
  classical
  have hinj : Set.InjOn (fun i => key (table i)) (Finset.univ.filter fun i => occupied (table i)) := by
    intro i hi j hj
    exact h.distinct i j (Finset.mem_filter.1 hi).2 (Finset.mem_filter.1 hj).2
  have himage : (Finset.univ.filter fun i => occupied (table i)).image (fun i => key (table i)) =
      (came.take n).toFinset := by
    ext k
    rw [List.mem_toFinset, ← h.hasKey_iff k]
    simp only [HasKey, Finset.mem_image, Finset.mem_filter, Finset.mem_univ, true_and]
  rw [← Finset.card_image_of_injOn hinj, himage,
    List.toFinset_card_of_nodup (h.nodup.sublist (List.take_sublist ..)), List.length_take]

/-- A slot is free exactly if fewer keys have come than there are slots. -/
theorem exists_free_iff (h : Filled occupied key table came) :
    (∃ i, occupied (table i) = false) ↔ came.length < n := by
  have hcard := h.card_occupied
  have hfull : (Finset.univ.filter fun i => occupied (table i)).card = n ↔
      ∀ i, occupied (table i) := by
    have huniv := Finset.card_eq_iff_eq_univ (Finset.univ.filter fun i => occupied (table i))
    rw [Fintype.card_fin] at huniv
    rw [huniv, Finset.filter_eq_self]
    simp only [Finset.mem_univ, true_implies]
  have hfree : (∃ i, occupied (table i) = false) ↔ ¬ ∀ i, occupied (table i) := by simp
  rw [hfree, ← hfull, hcard]
  omega

variable [DecidableEq κ]

/-- Storing under a key keeps the others and their slots. -/
theorem store (h : Filled occupied key table came) {k : κ} {f : α → α} (hf : ∀ a, occupied (f a))
    (hkey : ∀ a, key (f a) = k) :
    Filled occupied key (SlotTable.store occupied key table k f) (note came k) := by
  rcases slot_cases occupied key table k with ⟨i, hslot, hi⟩ | ⟨hnew, i, hslot, hi⟩ | ⟨hnew, hslot, hall⟩
  · have hmem : k ∈ came.take n := (h.hasKey_iff k).1 ⟨i, hi⟩
    refine ⟨nodup_note h.nodup k, ?_, fun k' => ?_⟩ <;> rw [SlotTable.store, hslot]
    · refine h.distinct.update (fun j hji hj hjk => hji ?_)
      exact h.distinct j i hj hi.1 (hjk.trans ((hkey _).trans hi.2.symm))
    · dsimp only
      rw [hasKey_update (hf _) (Or.inr (hi.2.trans (hkey _).symm)), h.hasKey_iff, hkey, note,
        if_pos (List.mem_of_mem_take hmem)]
      constructor
      · rintro (rfl | hk')
        · exact hmem
        · exact hk'
      · exact Or.inr
  · have hroom : came.length < n := h.exists_free_iff.1 ⟨i, hi⟩
    have hcame : came.take n = came := List.take_of_length_le hroom.le
    have hnotMem : k ∉ came := by
      rw [← hcame, ← h.hasKey_iff k]
      exact hnew
    refine ⟨nodup_note h.nodup k, ?_, fun k' => ?_⟩ <;> rw [SlotTable.store, hslot]
    · exact h.distinct.update fun j _ hj hjk => hnew ⟨j, hj, hjk.trans (hkey _)⟩
    · dsimp only
      rw [hasKey_update (hf _) (Or.inl hi), h.hasKey_iff, hkey, note, if_neg hnotMem, hcame,
        List.take_of_length_le (by rw [List.length_append]; exact hroom), List.mem_append,
        List.mem_singleton, or_comm]
  · have hroom : n ≤ came.length := by
      rw [← not_lt, ← h.exists_free_iff]
      rintro ⟨i, hi⟩
      rw [hall i] at hi
      cases hi
    have htake : (note came k).take n = came.take n := by
      rw [note]
      split
      · rfl
      · exact List.take_append_of_le_length hroom
    refine ⟨nodup_note h.nodup k, ?_, fun k' => ?_⟩ <;> rw [SlotTable.store, hslot]
    · exact h.distinct
    · rw [htake]
      exact h.hasKey_iff k'

end Filled

end SlotTable
