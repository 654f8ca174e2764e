import EspWaveRider.Lib.Machine

/-!
# Simulation between machines

A machine whose every step is some steps of another one, seen through a function on the states.
What holds of the states of the other machine then holds of what is seen of this one.

* `Machine.Steps`, `Steps.invariant` — any number of guarded steps, and what they keep;
* `Reach.simulate` — guarded runs are taken to guarded runs.
-/

namespace Machine

variable {S E T F : Type}

/-- Any number of steps that all satisfy `ok`. -/
def Steps (m : Machine S E) (ok : S → E → Prop) : S → S → Prop :=
  Relation.ReflTransGen fun s s' => ∃ e, ok s e ∧ m.step s e = some s'

variable {m : Machine S E} {ok : S → E → Prop}

theorem Steps.refl (s : S) : m.Steps ok s s := Relation.ReflTransGen.refl

theorem Steps.trans {s t u : S} (h : m.Steps ok s t) (h' : m.Steps ok t u) : m.Steps ok s u :=
  Relation.ReflTransGen.trans h h'

theorem Steps.one {s s' : S} {e : E} (hok : ok s e) (h : m.step s e = some s') : m.Steps ok s s' :=
  Relation.ReflTransGen.single ⟨e, hok, h⟩

/-- A list of events, each of which does some steps. -/
theorem Steps.foldl {α : Type} {f : S → α → S} (hf : ∀ s a, m.Steps ok s (f s a)) (l : List α) (s : S) :
    m.Steps ok s (l.foldl f s) := by
  induction l generalizing s with
  | nil => exact .refl s
  | cons a l ih => exact (hf s a).trans (ih _)

/-- What every step keeps. -/
theorem Steps.invariant {I : S → Prop} (hstep : ∀ s e s', I s → ok s e → m.step s e = some s' → I s')
    {s s' : S} (h : m.Steps ok s s') (hs : I s) : I s' := by
  induction h with
  | refl => exact hs
  | tail _ hnext ih =>
    obtain ⟨e, hok, hnext⟩ := hnext
    exact hstep _ e _ ih hok hnext

theorem Reach.steps {s s' : S} (h : m.Reach ok s) (hsteps : m.Steps ok s s') : m.Reach ok s' := by
  induction hsteps with
  | refl => exact h
  | tail _ hstep ih =>
    obtain ⟨e, hok, hstep⟩ := hstep
    exact ih.step hok hstep

/-- Guarded runs are seen as guarded runs. -/
theorem Reach.simulate {n : Machine T F} {okT : T → F → Prop} {view : T → S}
    (hstart : ∀ t, n.start t → m.Reach ok (view t))
    (hstep : ∀ t e t', okT t e → n.step t e = some t' → m.Steps ok (view t) (view t') ∨
      m.Reach ok (view t')) {t : T} (h : n.Reach okT t) : m.Reach ok (view t) := by
  refine h.invariant (I := fun t => m.Reach ok (view t)) hstart fun t e t' hreach hok hnext => ?_
  rcases hstep t e t' hok hnext with hsteps | hanew
  · exact hreach.steps hsteps
  · exact hanew

end Machine
