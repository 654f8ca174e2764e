import EspWaveRider.Lib.Machine

/-!
# Parties that talk to each other

Machines that send messages over a medium which may lose, repeat, delay and reorder them, but
invents none: whoever hears something hears what some party has said before, itself included.

* `Protocol.network` — the parties and everything that was ever said;
* `Reach.party` — every party runs as it would on its own;
* `Reach.said` — every message was said by a party in the course of its run;
* `Reach.provenance` — what is kept by hearing true messages holds of every party.
-/

/-- What parties of index `ι` do: how they run, what they tell, what of a message goes over the
wire, and what a party hears in an event. -/
structure Protocol (ι S E M W : Type) where
  machine : ι → Machine S E
  tells : ι → S → E → List M
  wire : M → Option W
  hears : E → List W

/-- The parties, and what was ever said, the latest first. -/
structure Network (ι S M : Type) where
  party : ι → S
  sent : List M

namespace Protocol

open Machine

variable {ι S E M W : Type} [DecidableEq ι] [DecidableEq W] (p : Protocol ι S E M W)

/-- All that is heard has been sent. -/
def Heard (sent : List M) (e : E) : Prop := ∀ w ∈ p.hears e, w ∈ sent.filterMap p.wire

instance (sent : List M) (e : E) : Decidable (p.Heard sent e) :=
  inferInstanceAs (Decidable (∀ w ∈ _, _))

/-- One party does something at a time. -/
def network : Machine (Network ι S M) (ι × E) where
  start n := (∀ i, (p.machine i).start (n.party i)) ∧ n.sent = []
  step n e :=
    if p.Heard n.sent e.2 then
      ((p.machine e.1).step (n.party e.1) e.2).map fun s =>
        { party := Function.update n.party e.1 s
          sent := p.tells e.1 (n.party e.1) e.2 ++ n.sent }
    else none

/-- Each party meets its own condition. -/
def Each (ok : ι → S → E → Prop) (n : Network ι S M) (e : ι × E) : Prop := ok e.1 (n.party e.1) e.2

variable {p} {ok : ι → S → E → Prop}

theorem network_step_eq_some_iff {n n' : Network ι S M} {i : ι} {e : E} :
    p.network.step n (i, e) = some n' ↔ p.Heard n.sent e ∧
      ∃ s, (p.machine i).step (n.party i) e = some s ∧
        n' = { party := Function.update n.party i s, sent := p.tells i (n.party i) e ++ n.sent } := by
  rw [network]
  dsimp only
  split_ifs with hheard
  · simp only [Option.map_eq_some_iff, hheard, true_and, eq_comm (b := n')]
  · exact ⟨fun h => (by cases h), fun h => absurd h.1 hheard⟩

theorem Reach.party {n : Network ι S M} (h : p.network.Reach (Each ok) n) (i : ι) :
    (p.machine i).Reach (ok i) (n.party i) := by
  refine h.invariant (I := fun n => ∀ i, (p.machine i).Reach (ok i) (n.party i)) ?_ ?_ i
  · intro n hstart i
    exact .start (hstart.1 i)
  · rintro n ⟨j, e⟩ n' hreach hok hstep i
    obtain ⟨-, s, hs, rfl⟩ := network_step_eq_some_iff.1 hstep
    by_cases hi : i = j
    · subst hi
      simp only [Function.update_self]
      exact .step (hreach i) hok hs
    · simp only [Function.update_of_ne hi]
      exact hreach i

/-- Somebody said it. -/
theorem Reach.said {n : Network ι S M} (h : p.network.Reach (Each ok) n) {m : M} (hm : m ∈ n.sent) :
    ∃ i s e s', (p.machine i).Reach (ok i) s ∧ ok i s e ∧ (p.machine i).step s e = some s' ∧
      m ∈ p.tells i s e := by
  induction h generalizing m with
  | start hstart =>
    rw [hstart.2] at hm
    cases hm
  | @step n n' e hreach hok hstep ih =>
    obtain ⟨j, e⟩ := e
    obtain ⟨-, s, hs, rfl⟩ := network_step_eq_some_iff.1 hstep
    rcases List.mem_append.1 hm with hnew | hold
    · exact ⟨j, n.party j, e, s, Reach.party hreach j, hok, hs, hnew⟩
    · exact ih hold

/-- What a party takes from messages that were sent stays true of it as more is sent. -/
theorem Reach.provenance {I : List M → ι → S → Prop}
    (hmono : ∀ sent sent' i s, sent ⊆ sent' → I sent i s → I sent' i s)
    (hstart : ∀ i s, (p.machine i).start s → I [] i s)
    (hstep : ∀ sent i s e s', (p.machine i).Reach (ok i) s → I sent i s → ok i s e →
      p.Heard sent e → (p.machine i).step s e = some s' → I sent i s')
    {n : Network ι S M} (h : p.network.Reach (Each ok) n) (i : ι) : I n.sent i (n.party i) := by
  induction h generalizing i with
  | start hs =>
    rw [hs.2]
    exact hstart i _ (hs.1 i)
  | @step n n' e hreach hok hnext ih =>
    obtain ⟨j, e⟩ := e
    obtain ⟨hheard, s, hs, rfl⟩ := network_step_eq_some_iff.1 hnext
    have hsub : n.sent ⊆ p.tells j (n.party j) e ++ n.sent := List.subset_append_right _ _
    by_cases hi : i = j
    · subst hi
      simp only [Function.update_self]
      exact hmono _ _ i s hsub (hstep _ i _ e s (Reach.party hreach i) (ih i) hok hheard hs)
    · simp only [Function.update_of_ne hi]
      exact hmono _ _ i _ hsub (ih i)

end Protocol
