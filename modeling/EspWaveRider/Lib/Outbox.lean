import Mathlib

/-!
# A buffer in front of a line

What is accepted for sending is collected in a buffer of bounded size and leaves it in
pieces.  An `Outbox` carries the proof that nothing is lost, doubled or put out of order on
the way, and that the buffer is never too full; the operations keep this.

* `push` — accept something into the buffer;
* `deliver` — the whole buffer leaves as one piece;
* `pass` — accept something and let it leave at once, when the buffer is empty.
-/

/-- A line and the buffer in front of it. -/
@[ext] structure Outbox (α : Type) (cap : ℕ) where
  /-- The pieces that have left. -/
  sent : List (List α)
  pending : List α
  /-- Everything that was ever accepted. -/
  accepted : List α
  conserved : sent.flatten ++ pending = accepted
  pending_le : pending.length ≤ cap

namespace Outbox

variable {α : Type} {cap : ℕ}

/-- An unused line. -/
def empty : Outbox α cap := ⟨[], [], [], rfl, Nat.zero_le _⟩

def push (o : Outbox α cap) (l : List α) (h : o.pending.length + l.length ≤ cap) : Outbox α cap where
  sent := o.sent
  pending := o.pending ++ l
  accepted := o.accepted ++ l
  conserved := by rw [← List.append_assoc, o.conserved]
  pending_le := by rwa [List.length_append]

def deliver (o : Outbox α cap) : Outbox α cap where
  sent := o.sent ++ [o.pending]
  pending := []
  accepted := o.accepted
  conserved := by simp [o.conserved]
  pending_le := Nat.zero_le _

def pass (o : Outbox α cap) (l : List α) (h : o.pending = []) : Outbox α cap where
  sent := o.sent ++ [l]
  pending := []
  accepted := o.accepted ++ l
  conserved := by
    have hsent : o.sent.flatten = o.accepted := by
      rw [← o.conserved, h, List.append_nil]
    simp [hsent]
  pending_le := Nat.zero_le _

@[simp] theorem sent_deliver (o : Outbox α cap) : o.deliver.sent = o.sent ++ [o.pending] := rfl

@[simp] theorem sent_pass (o : Outbox α cap) (l : List α) (h : o.pending = []) :
    (o.pass l h).sent = o.sent ++ [l] := rfl

@[simp] theorem pending_push (o : Outbox α cap) (l : List α)
    (h : o.pending.length + l.length ≤ cap) : (o.push l h).pending = o.pending ++ l := rfl

@[simp] theorem accepted_push (o : Outbox α cap) (l : List α)
    (h : o.pending.length + l.length ≤ cap) : (o.push l h).accepted = o.accepted ++ l := rfl

@[simp] theorem accepted_pass (o : Outbox α cap) (l : List α) (h : o.pending = []) :
    (o.pass l h).accepted = o.accepted ++ l := rfl

end Outbox
