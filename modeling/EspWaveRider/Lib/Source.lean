import Mathlib

/-!
# A stream that arrives in pieces

`Source` is what the other side of a connection sends, together with how it
arrives: `items` is the whole stream and `pieces` the sizes in which it is
handed out.  A `read` with room for `cap` elements returns at least one element
while there are any, at most `cap`, and the empty list at the end; every way of
cutting a stream into non-empty pieces is one choice of `pieces`.
-/

/-- A stream and the sizes of the pieces in which it arrives. -/
structure Source (α : Type) where
  items : List α
  pieces : List ℕ
  deriving DecidableEq

namespace Source

variable {α : Type}

/-- One read with room for `cap` elements. -/
def read (s : Source α) (cap : ℕ) : List α × Source α :=
  let n := min cap (max 1 (s.pieces.headD cap))
  (s.items.take n, ⟨s.items.drop n, s.pieces.tail⟩)

@[simp] theorem read_append (s : Source α) (cap : ℕ) :
    (s.read cap).1 ++ (s.read cap).2.items = s.items :=
  List.take_append_drop _ _

theorem read_eq_nil_iff {s : Source α} {cap : ℕ} (hcap : 0 < cap) :
    (s.read cap).1 = [] ↔ s.items = [] := by
  have hpos : 0 < min cap (max 1 (s.pieces.headD cap)) := by omega
  rw [read, List.take_eq_nil_iff]
  exact ⟨fun h => h.resolve_left hpos.ne', Or.inr⟩

end Source
