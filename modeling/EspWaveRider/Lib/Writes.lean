import Mathlib

/-!
# Writing a memory piece by piece

A memory is a function of its addresses, and a write replaces the cells from an
offset on.  Writes that follow each other without gap or overlap (`Consecutive`)
are one write of all their data.

* `Consecutive.foldl_store` — what the memory holds after them;
* `Consecutive.countP_covers` — every address of the range is written exactly once
  and no other address is;
* `Consecutive.dvd_offset` — they stay on the boundaries of a word when each of them
  is whole words long.
-/

namespace Writes

variable {β : Type}

structure Write (β : Type) where
  offset : ℕ
  data : List β
  deriving DecidableEq

/-- The write replaces the cell at `a`. -/
def Write.Covers (w : Write β) (a : ℕ) : Prop := w.offset ≤ a ∧ a < w.offset + w.data.length

instance decidableCovers (w : Write β) (a : ℕ) : Decidable (w.Covers a) :=
  inferInstanceAs (Decidable (w.offset ≤ a ∧ a < w.offset + w.data.length))

/-- The memory after a write. -/
def store (mem : ℕ → β) (w : Write β) (a : ℕ) : β :=
  if w.offset ≤ a then w.data[a - w.offset]?.getD (mem a) else mem a

theorem store_nil (mem : ℕ → β) (o : ℕ) : store mem ⟨o, []⟩ = mem := by
  funext a
  simp [store]

/-- Two writes that follow each other are one. -/
theorem store_store (mem : ℕ → β) (o : ℕ) (xs ys : List β) :
    store (store mem ⟨o, xs⟩) ⟨o + xs.length, ys⟩ = store mem ⟨o, xs ++ ys⟩ := by
  funext a
  simp only [store]
  by_cases hstart : o ≤ a
  · by_cases hsecond : o + xs.length ≤ a
    · have hbehind : xs.length ≤ a - o := by omega
      have hindex : a - o - xs.length = a - (o + xs.length) := by omega
      rw [if_pos hsecond, if_pos hstart, if_pos hstart, List.getElem?_append_right hbehind, hindex,
        List.getElem?_eq_none hbehind]
      rfl
    · rw [if_neg hsecond, if_pos hstart, if_pos hstart,
        List.getElem?_append_left (by omega : a - o < xs.length)]
  · have hsecond : ¬ o + xs.length ≤ a := by omega
    rw [if_neg hsecond, if_neg hstart, if_neg hstart]

theorem store_of_lt (mem : ℕ → β) (o : ℕ) {xs : List β} {i : ℕ} (h : i < xs.length) :
    store mem ⟨o, xs⟩ (o + i) = xs[i] := by
  simp [store, h]

/-- Reading back what was written. -/
theorem map_store (mem : ℕ → β) (o : ℕ) (xs : List β) :
    (List.range' o xs.length).map (store mem ⟨o, xs⟩) = xs := by
  apply List.ext_getElem
  · rw [List.length_map, List.length_range']
  · intro i _ hi
    rw [List.getElem_map, List.getElem_range', Nat.one_mul]
    exact store_of_lt mem o hi

/-! ## Writes that follow each other -/

/-- Each write starts where the one before it ended, the first at `o`. -/
def Consecutive : ℕ → List (Write β) → Prop
  | _, [] => True
  | o, w :: ws => w.offset = o ∧ Consecutive (o + w.data.length) ws

/-- All the data. -/
def written (ws : List (Write β)) : List β := ws.flatMap Write.data

theorem written_cons (w : Write β) (ws : List (Write β)) :
    written (w :: ws) = w.data ++ written ws := rfl

theorem Consecutive.foldl_store {o : ℕ} {ws : List (Write β)} (h : Consecutive o ws)
    (mem : ℕ → β) : ws.foldl store mem = store mem ⟨o, written ws⟩ := by
  induction ws generalizing o mem with
  | nil => exact (store_nil mem o).symm
  | cons w ws ih =>
    obtain ⟨rfl, hrest⟩ := h
    rw [List.foldl_cons, ih hrest, written_cons]
    exact store_store mem w.offset w.data (written ws)

theorem Consecutive.countP_covers {o : ℕ} {ws : List (Write β)} (h : Consecutive o ws) (a : ℕ) :
    ws.countP (fun w => decide (w.Covers a)) =
      if o ≤ a ∧ a < o + (written ws).length then 1 else 0 := by
  induction ws generalizing o with
  | nil =>
    have hnone : ¬ (o ≤ a ∧ a < o + (written ([] : List (Write β))).length) := by
      simp [written]
    rw [if_neg hnone]
    rfl
  | cons w ws ih =>
    obtain ⟨rfl, hrest⟩ := h
    have hcovers : w.Covers a ↔ w.offset ≤ a ∧ a < w.offset + w.data.length := Iff.rfl
    rw [List.countP_cons, ih hrest, written_cons, List.length_append]
    simp only [decide_eq_true_eq, hcovers]
    split_ifs <;> omega

theorem Consecutive.dvd_offset {k o : ℕ} {ws : List (Write β)} (h : Consecutive o ws) (ho : k ∣ o)
    (hws : ∀ w ∈ ws, k ∣ w.data.length) : ∀ w ∈ ws, k ∣ w.offset := by
  induction ws generalizing o with
  | nil => exact fun w hw => absurd hw List.not_mem_nil
  | cons w ws ih =>
    obtain ⟨rfl, hrest⟩ := h
    have hword := hws w (List.mem_cons_self ..)
    have hlater := ih hrest (Nat.dvd_add ho hword) fun v hv => hws v (List.mem_cons_of_mem _ hv)
    intro v hv
    rcases List.mem_cons.1 hv with rfl | hv
    · exact ho
    · exact hlater v hv

end Writes
