import Mathlib

/-!
# State machines and guarded runs

A machine is a set of start states and a step function that says, for each
event, the next state or that the event cannot happen now.  `Reach ok` are the
states of the runs all of whose steps satisfy `ok`, a condition on the state
before a step and its event; with the condition that is always true these are
all runs.

* `Reach.invariant` — what holds at the start and is kept by every step that
  satisfies the condition holds in every state of such a run;
* `reach_of_run`, `exists_reach_of_run` — a concrete run, computed.
-/

/-- Start states and a partial step function. -/
structure Machine (S E : Type) where
  start : S → Prop
  step : S → E → Option S

namespace Machine

variable {S E : Type} (m : Machine S E)

/-- The states of the runs whose steps all satisfy `ok`. -/
inductive Reach (ok : S → E → Prop) : S → Prop where
  | start {s : S} : m.start s → Reach ok s
  | step {s s' : S} {e : E} : Reach ok s → ok s e → m.step s e = some s' → Reach ok s'

/-- The same steps, from one state on. -/
def startingAt (s : S) : Machine S E := { m with start := fun s' => s' = s }

/-- The condition every step satisfies. -/
def Always : S → E → Prop := fun _ _ => True

instance (s : S) (e : E) : Decidable (Always s e) := inferInstanceAs (Decidable True)

/-- Play events one after the other; `none` when one of them cannot happen or
does not satisfy the condition. -/
def run (ok : S → E → Prop) [∀ s e, Decidable (ok s e)] : S → List E → Option S
  | s, [] => some s
  | s, e :: es => if ok s e then (m.step s e).bind fun s' => run ok s' es else none

variable {m}

theorem Reach.invariant {ok : S → E → Prop} {I : S → Prop} (hstart : ∀ s, m.start s → I s)
    (hstep : ∀ s e s', I s → ok s e → m.step s e = some s' → I s') {s : S}
    (h : m.Reach ok s) : I s := by
  induction h with
  | start hs => exact hstart _ hs
  | step _ hok hs ih => exact hstep _ _ _ ih hok hs

theorem Reach.mono {ok ok' : S → E → Prop} (hok : ∀ s e, ok s e → ok' s e) {s : S}
    (h : m.Reach ok s) : m.Reach ok' s := by
  induction h with
  | start hs => exact Reach.start hs
  | step _ hok' hs ih => exact Reach.step ih (hok _ _ hok') hs

theorem reach_of_run {ok : S → E → Prop} [∀ s e, Decidable (ok s e)] {s t : S}
    (hs : m.Reach ok s) (es : List E) (h : m.run ok s es = some t) : m.Reach ok t := by
  induction es generalizing s with
  | nil =>
    cases h
    exact hs
  | cons e es ih =>
    rw [run] at h
    split at h
    · rename_i hok
      obtain ⟨s', hs', hrun⟩ := Option.bind_eq_some_iff.1 h
      exact ih (Reach.step hs hok hs') hrun
    · cases h

/-- A concrete run to a state with a property, both decided together. -/
theorem exists_reach_of_run {ok : S → E → Prop} [∀ s e, Decidable (ok s e)] {P : S → Prop} {s : S}
    (hs : m.Reach ok s) (es : List E) (h : ∃ t ∈ m.run ok s es, P t) :
    ∃ t, m.Reach ok t ∧ P t := by
  obtain ⟨t, hrun, ht⟩ := h
  exact ⟨t, reach_of_run hs es hrun, ht⟩

end Machine
