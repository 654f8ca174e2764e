import Mathlib

/-!
# Iterators

An iterator has a state; a call of `next` gives an element and the next state, or nothing when
there are no more elements.

* `Yields next s l` — calling until there is nothing yields the elements `l` and no others;
* `collect` — the elements that so many calls yield;
* `yields_collectAll` — when every call makes the state smaller, calling comes to an end.
-/

namespace Iteration

variable {σ α : Type} (next : σ → Option (α × σ))

/-- Calling until there is nothing more yields these elements. -/
inductive Yields : σ → List α → Prop where
  | done {s : σ} (h : next s = none) : Yields s []
  | more {s s' : σ} {a : α} {l : List α} (h : next s = some (a, s')) (hrest : Yields s' l) :
      Yields s (a :: l)

/-- What at most `fuel` calls yield; `none` if the last of them still gave an element. -/
def collect : ℕ → σ → Option (List α)
  | 0, _ => none
  | fuel + 1, s =>
    match next s with
    | none => some []
    | some (a, s') => (collect fuel s').map (a :: ·)

variable {next}

theorem Yields.unique {s : σ} {l l' : List α} (h : Yields next s l) (h' : Yields next s l') :
    l = l' := by
  induction h generalizing l' with
  | done hnone =>
    cases h' with
    | done _ => rfl
    | more hmore _ => exact absurd (hnone.symm.trans hmore) (by simp)
  | more hmore _ ih =>
    cases h' with
    | done hnone => exact absurd (hnone.symm.trans hmore) (by simp)
    | more hmore' hrest' =>
      cases hmore.symm.trans hmore'
      rw [ih hrest']

theorem yields_of_collect {fuel : ℕ} {s : σ} {l : List α} (h : collect next fuel s = some l) :
    Yields next s l := by
  induction fuel generalizing s l with
  | zero => cases h
  | succ fuel ih =>
    rw [collect] at h
    split at h
    · rename_i hnone
      cases h
      exact .done hnone
    · rename_i a s' hmore
      obtain ⟨rest, hrest, rfl⟩ := Option.map_eq_some_iff.1 h
      exact .more hmore (ih hrest)

/-- With more calls than the size of the state, the last one gives nothing. -/
theorem isSome_collect {size : σ → ℕ} (hsize : ∀ s a s', next s = some (a, s') → size s' < size s)
    {fuel : ℕ} {s : σ} (h : size s < fuel) : (collect next fuel s).isSome := by
  induction fuel generalizing s with
  | zero => exact absurd h (Nat.not_lt_zero _)
  | succ fuel ih =>
    rw [collect]
    split
    · rfl
    · rename_i a s' hmore
      have hless := hsize s a s' hmore
      rw [Option.isSome_map]
      exact ih (by omega)

/-- All the elements, when the size of the state bounds their number. -/
def collectAll (next : σ → Option (α × σ)) (size : σ → ℕ) (s : σ) : List α :=
  (collect next (size s + 1) s).getD []

theorem yields_collectAll {size : σ → ℕ}
    (hsize : ∀ s a s', next s = some (a, s') → size s' < size s) (s : σ) :
    Yields next s (collectAll next size s) := by
  obtain ⟨l, hl⟩ := Option.isSome_iff_exists.1 (isSome_collect hsize (Nat.lt_succ_self (size s)))
  rw [collectAll, hl]
  exact yields_of_collect hl

/-- Elements that are written one in front of the other come first. -/
theorem Yields.append {write : α → σ → σ} {l m : List α} {s : σ}
    (hwrite : ∀ a ∈ l, ∀ s, next (write a s) = some (a, s)) (h : Yields next s m) :
    Yields next (l.foldr write s) (l ++ m) := by
  induction l with
  | nil => exact h
  | cons a l ih =>
    exact .more (hwrite a (List.mem_cons_self ..) _)
      (ih fun b hb => hwrite b (List.mem_cons_of_mem _ hb))

end Iteration
