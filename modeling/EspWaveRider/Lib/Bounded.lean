import EspWaveRider.Lib.Text

/-!
# Buffers of fixed capacity

A buffer that owns a fixed amount of memory refuses an extension that does not
fit and is then left as it was.  `Bounded size cap` is such a buffer: a list
whose elements weigh `size` each and together at most `cap`.  The two instances
are `HVec` (every element weighs one) and `HString` (a character weighs the
bytes of its UTF-8 encoding).

* `extend_eq_some_iff` — when an extension succeeds, and with what result;
* `Appends` — "this operation adds exactly this text, or fails when it does not
  fit"; `Appends.bind` composes two of them, so a long chain of checked pushes
  succeeds exactly when the whole text fits (`Appends.isSome_iff`).
-/

/-- Total weight of a list. -/
def weight {α : Type} (size : α → ℕ) (l : List α) : ℕ := (l.map size).sum

@[simp] theorem weight_append {α : Type} (size : α → ℕ) (l m : List α) :
    weight size (l ++ m) = weight size l + weight size m := by
  simp [weight]

@[simp] theorem weight_one {α : Type} (l : List α) : weight (fun _ : α => 1) l = l.length := by
  simp [weight]

theorem weight_utf8Size (s : Str) : weight Char.utf8Size s = Text.utf8Len s := rfl

/-- A list whose total weight stays within a fixed capacity. -/
@[ext] structure Bounded {α : Type} (size : α → ℕ) (cap : ℕ) where
  items : List α
  fits : weight size items ≤ cap
  deriving DecidableEq

/-- A vector of at most `cap` elements. -/
abbrev HVec (α : Type) (cap : ℕ) := Bounded (fun _ : α => 1) cap

/-- A text of at most `cap` bytes. -/
abbrev HString (cap : ℕ) := Bounded Char.utf8Size cap

theorem HVec.length_le {α : Type} {cap : ℕ} (v : HVec α cap) : v.items.length ≤ cap := by
  simpa using v.fits

theorem HString.utf8Len_le {cap : ℕ} (s : HString cap) : Text.utf8Len s.items ≤ cap := s.fits

namespace Bounded

variable {α : Type} {size : α → ℕ} {cap : ℕ}

/-- The empty buffer. -/
def empty : Bounded size cap := ⟨[], Nat.zero_le _⟩

instance : Inhabited (Bounded size cap) := ⟨empty⟩

@[simp] theorem items_empty : (empty : Bounded size cap).items = [] := rfl

/-- Add a list at the end; `none` when it does not fit. -/
def extend (b : Bounded size cap) (l : List α) : Option (Bounded size cap) :=
  if h : weight size b.items + weight size l ≤ cap then
    some ⟨b.items ++ l, by simpa using h⟩
  else none

/-- Add one element at the end; `none` when it does not fit. -/
def push (b : Bounded size cap) (a : α) : Option (Bounded size cap) := b.extend [a]

/-- Add a list at the end, or leave the buffer as it is when it does not fit. -/
def extendOrKeep (b : Bounded size cap) (l : List α) : Bounded size cap := (b.extend l).getD b

/-- Remove the last element, if there is one. -/
def dropLast (b : Bounded size cap) : Bounded size cap :=
  ⟨b.items.dropLast, ((List.dropLast_sublist b.items).map size).sum_le_sum (fun _ _ => Nat.zero_le _)
    |>.trans b.fits⟩

/-- Remove the first `n` elements. -/
def dropFirst (b : Bounded size cap) (n : ℕ) : Bounded size cap :=
  ⟨b.items.drop n, by
    have h : weight size (b.items.take n ++ b.items.drop n) ≤ cap := by
      rw [List.take_append_drop]
      exact b.fits
    rw [weight_append] at h
    omega⟩

@[simp] theorem items_dropFirst (b : Bounded size cap) (n : ℕ) :
    (b.dropFirst n).items = b.items.drop n := rfl

theorem extend_eq_some_iff {b b' : Bounded size cap} {l : List α} :
    b.extend l = some b' ↔ b'.items = b.items ++ l := by
  constructor
  · intro h
    unfold extend at h
    split at h
    · cases h
      rfl
    · cases h
  · intro h
    have hfit : weight size b.items + weight size l ≤ cap := by
      rw [← weight_append, ← h]
      exact b'.fits
    rw [extend, dif_pos hfit]
    exact congrArg some (Bounded.ext h.symm)

theorem items_of_extend {b b' : Bounded size cap} {l : List α} (h : b.extend l = some b') :
    b'.items = b.items ++ l :=
  extend_eq_some_iff.1 h

theorem isSome_extend_iff {b : Bounded size cap} {l : List α} :
    (b.extend l).isSome ↔ weight size b.items + weight size l ≤ cap := by
  unfold extend
  split <;> simp_all

theorem items_extendOrKeep (b : Bounded size cap) (l : List α) :
    (b.extendOrKeep l).items =
      if weight size b.items + weight size l ≤ cap then b.items ++ l else b.items := by
  unfold extendOrKeep extend
  split <;> rfl

/-- Pieces that fit together are all added. -/
theorem items_foldl_extendOrKeep (pieces : List (List α)) {b : Bounded size cap}
    (h : weight size b.items + weight size pieces.flatten ≤ cap) :
    (pieces.foldl extendOrKeep b).items = b.items ++ pieces.flatten := by
  induction pieces generalizing b with
  | nil => simp
  | cons piece pieces ih =>
    rw [List.flatten_cons, weight_append] at h
    have hpiece : (b.extendOrKeep piece).items = b.items ++ piece := by
      rw [items_extendOrKeep, if_pos (by omega)]
    rw [List.foldl_cons, ih (by rw [hpiece, weight_append]; omega), hpiece, List.flatten_cons,
      List.append_assoc]

/-- A push into a vector that is not full adds the element. -/
theorem items_push_getD {b : HVec α cap} {a : α} (h : b.items.length < cap) :
    ((b.push a).getD b).items = b.items ++ [a] := by
  have hsome : (b.push a).isSome := by
    rw [push, isSome_extend_iff, weight_one, weight_one]
    exact h
  obtain ⟨b', hb'⟩ := Option.isSome_iff_exists.1 hsome
  rw [hb', Option.getD_some]
  exact items_of_extend hb'

/-- A push into a full vector fails. -/
theorem push_getD_of_full {b : HVec α cap} {a : α} (h : cap ≤ b.items.length) : (b.push a).getD b = b := by
  have hnone : b.push a = none := by
    rw [← Option.not_isSome_iff_eq_none, push, isSome_extend_iff, weight_one, weight_one]
    exact not_le.2 (Nat.lt_succ_of_le h)
  rw [hnone, Option.getD_none]

/-! ## Chains of checked extensions -/

/-- `f` adds exactly `w`, and fails when that does not fit. -/
def Appends (f : Bounded size cap → Option (Bounded size cap)) (w : List α) : Prop :=
  ∀ b, f b = b.extend w

theorem appends_extend (w : List α) :
    Appends (fun b : Bounded size cap => b.extend w) w := fun _ => rfl

theorem appends_push (a : α) : Appends (fun b : Bounded size cap => b.push a) [a] := fun _ => rfl

theorem appends_some : Appends (fun b : Bounded size cap => some b) [] := by
  intro b
  exact (extend_eq_some_iff.2 (by simp)).symm

/-- Two extensions one after the other are one extension by both. -/
theorem extend_bind_extend (b : Bounded size cap) (u v : List α) :
    ((b.extend u).bind fun b' => b'.extend v) = b.extend (u ++ v) := by
  by_cases hu : weight size b.items + weight size u ≤ cap
  · simp [extend, hu, Nat.add_assoc]
  · have huv : ¬ weight size b.items + (weight size u + weight size v) ≤ cap := by omega
    simp [extend, hu, huv]

theorem Appends.bind {f g : Bounded size cap → Option (Bounded size cap)} {u v : List α}
    (hf : Appends f u) (hg : Appends g v) : Appends (fun b => (f b).bind g) (u ++ v) := by
  intro b
  have hfun : g = fun b' => b'.extend v := funext hg
  show (f b).bind g = _
  rw [hf b, hfun]
  exact extend_bind_extend b u v

theorem Appends.congr {f : Bounded size cap → Option (Bounded size cap)} {w w' : List α}
    (hf : Appends f w) (h : w = w') : Appends f w' := h ▸ hf

/-- A loop of checked extensions adds the pieces one after the other. -/
theorem appends_foldlM {β : Type} {f : Bounded size cap → β → Option (Bounded size cap)}
    {piece : β → List α} (hf : ∀ x, Appends (fun b => f b x) (piece x)) (xs : List β) :
    Appends (fun b => xs.foldlM f b) (xs.flatMap piece) := by
  induction xs with
  | nil => exact appends_some
  | cons x xs ih =>
    simp only [List.foldlM_cons, List.flatMap_cons]
    exact (hf x).bind ih

/-- What a chain builds from nothing. -/
theorem Appends.items_of_empty {f : Bounded size cap → Option (Bounded size cap)} {w : List α}
    (hf : Appends f w) {b : Bounded size cap} (h : f empty = some b) : b.items = w := by
  rw [hf empty] at h
  exact items_of_extend h

theorem Appends.isSome_iff {f : Bounded size cap → Option (Bounded size cap)} {w : List α}
    (hf : Appends f w) : (f empty).isSome ↔ weight size w ≤ cap := by
  rw [hf empty, isSome_extend_iff]
  simp [weight]

end Bounded
