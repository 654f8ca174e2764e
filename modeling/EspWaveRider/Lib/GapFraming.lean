import Mathlib

/-!
# Framing a line by its silences

A receiver that cannot see where messages begin and end collects what arrives
in a buffer and hands the buffer over when the line has been silent for `gap`,
or when the buffer holds `cap` elements.  It only looks at the line when it is
polled.

* `bursts` — the line as the receiver can see it: cut where a poll finds the
  line silent for long enough;
* `run_cuts` — what the receiver hands over is each burst, in order, cut into
  pieces because of the capacity (`Cut`);
* `flatten_cuts_eq`, `length_flatten_cuts` — bursts within the capacity are
  handed over whole, and there are never more pieces than the lengths allow.
-/

namespace GapFraming

variable {α : Type}

/-- One look at the line: when, and what had arrived. -/
structure Poll (α : Type) where
  time : ℕ
  items : List α

structure Receiver (α : Type) where
  buffer : List α
  last : ℕ

/-! ## The receiver -/

/-- Add one element, handing over a full buffer first. -/
def push (cap : ℕ) (buffer : List α) (a : α) : List α × List (List α) :=
  if cap ≤ buffer.length then ([a], [buffer]) else (buffer ++ [a], [])

def pushAll (cap : ℕ) : List α → List α → List α × List (List α)
  | buffer, [] => (buffer, [])
  | buffer, a :: as =>
    let (buffer, out) := push cap buffer a
    let (buffer, out') := pushAll cap buffer as
    (buffer, out ++ out')

theorem pushAll_append (cap : ℕ) (buffer as bs : List α) :
    pushAll cap buffer (as ++ bs) =
      ((pushAll cap (pushAll cap buffer as).1 bs).1,
        (pushAll cap buffer as).2 ++ (pushAll cap (pushAll cap buffer as).1 bs).2) := by
  induction as generalizing buffer with
  | nil => rfl
  | cons a as ih => simp [pushAll, ih]

/-- One poll: take what arrived, then hand the buffer over if it is full or the
line has been silent long enough. -/
def step (cap gap : ℕ) (r : Receiver α) (p : Poll α) : Receiver α × List (List α) :=
  let last := if p.items = [] then r.last else p.time
  let (buffer, out) := pushAll cap r.buffer p.items
  if buffer ≠ [] ∧ (gap ≤ p.time - last ∨ cap ≤ buffer.length) then
    (⟨[], last⟩, out ++ [buffer])
  else (⟨buffer, last⟩, out)

def run (cap gap : ℕ) : Receiver α → List (Poll α) → Receiver α × List (List α)
  | r, [] => (r, [])
  | r, p :: ps =>
    let (r, out) := step cap gap r p
    let (r, out') := run cap gap r ps
    (r, out ++ out')

/-! ## The line cut at its silences -/

/-- The poll finds nothing, and nothing arrived for `gap` before it. -/
def Silent (gap last : ℕ) (p : Poll α) : Prop := p.items = [] ∧ gap ≤ p.time - last

instance [DecidableEq α] (gap last : ℕ) (p : Poll α) : Decidable (Silent gap last p) :=
  inferInstanceAs (Decidable (_ ∧ _))

/-- When something last arrived. -/
def lastTime (last : ℕ) : List (Poll α) → ℕ
  | [] => last
  | p :: ps => lastTime (if p.items = [] then last else p.time) ps

/-- What arrived between two silences, with `pending` already there. -/
def bursts (gap : ℕ) : List α → ℕ → List (Poll α) → List (List α)
  | pending, _, [] => if pending.isEmpty then [] else [pending]
  | pending, last, p :: ps =>
    if !p.items.isEmpty then bursts gap (pending ++ p.items) p.time ps
    else if !pending.isEmpty && gap ≤ p.time - last then pending :: bursts gap [] last ps
    else bursts gap pending last ps

theorem flatten_bursts (gap : ℕ) (pending : List α) (last : ℕ) (ps : List (Poll α)) :
    (bursts gap pending last ps).flatten = pending ++ ps.flatMap (·.items) := by
  induction ps generalizing pending last with
  | nil => cases pending <;> simp [bursts]
  | cons p ps ih =>
    rw [bursts]
    split
    · rw [ih, List.append_assoc, List.flatMap_cons]
    · rename_i hempty
      have hitems : p.items = [] := by simpa using hempty
      split
      · rw [List.flatten_cons, ih, List.flatMap_cons, hitems, List.nil_append]
      · rw [ih, List.flatMap_cons, hitems, List.nil_append]

theorem ne_nil_of_mem_bursts {gap : ℕ} {pending : List α} {last : ℕ} {ps : List (Poll α)}
    {burst : List α} (h : burst ∈ bursts gap pending last ps) : burst ≠ [] := by
  induction ps generalizing pending last with
  | nil =>
    cases pending with
    | nil => simp [bursts] at h
    | cons a pending => simp_all [bursts]
  | cons p ps ih =>
    rw [bursts] at h
    split at h
    · exact ih h
    · split at h
      · rename_i hclose
        rcases List.mem_cons.1 h with rfl | h
        · intro hnil
          simp [hnil] at hclose
        · exact ih h
      · exact ih h

/-! ## Pieces of one burst -/

/-- `pieces` is `burst` cut into non-empty pieces, every one but the last full. -/
structure Cut (cap : ℕ) (burst : List α) (pieces : List (List α)) : Prop where
  flatten : pieces.flatten = burst
  ne_nil : ∀ piece ∈ pieces, piece ≠ []
  length_lt : cap * pieces.length < burst.length + cap

/-- A burst within the capacity is one piece. -/
theorem Cut.eq_singleton {cap : ℕ} {burst : List α} {pieces : List (List α)}
    (h : Cut cap burst pieces) (hne : burst ≠ []) (hle : burst.length ≤ cap) :
    pieces = [burst] := by
  have hlt : cap * pieces.length < cap * 2 := by
    have := h.length_lt
    omega
  have hlen : pieces.length < 2 := Nat.lt_of_mul_lt_mul_left hlt
  match pieces, h.flatten, hlen with
  | [], hflat, _ => exact absurd hflat.symm hne
  | [piece], hflat, _ => simpa using hflat

/-- Bursts within the capacity are their own pieces. -/
theorem flatten_cuts_eq {cap : ℕ} {bs : List (List α)} {cuts : List (List (List α))}
    (h : List.Forall₂ (Cut cap) bs cuts) (hne : ∀ b ∈ bs, b ≠ [])
    (hle : ∀ b ∈ bs, b.length ≤ cap) : cuts.flatten = bs := by
  induction h with
  | nil => rfl
  | @cons b pieces bs cuts hcut _ ih =>
    have hb := hcut.eq_singleton (hne b (List.mem_cons_self ..)) (hle b (List.mem_cons_self ..))
    have hbs := ih (fun b' hb' => hne b' (List.mem_cons_of_mem _ hb'))
      (fun b' hb' => hle b' (List.mem_cons_of_mem _ hb'))
    rw [List.flatten_cons, hb, hbs, List.singleton_append]

/-- If no burst yields more than one piece for every `size` elements, neither do
all of them together; and when they do yield that many, so does each. -/
theorem length_flatten_cuts {cap : ℕ} {bs : List (List α)} {cuts : List (List (List α))}
    (h : List.Forall₂ (Cut cap) bs cuts) (size : ℕ)
    (hsize : ∀ b ∈ bs, ∀ k, cap * k < b.length + cap → size * k ≤ b.length) :
    size * cuts.flatten.length ≤ bs.flatten.length ∧
      (bs.flatten.length ≤ size * cuts.flatten.length →
        ∀ b ∈ bs, ∃ k, cap * k < b.length + cap ∧ size * k = b.length) := by
  induction h with
  | nil => simp
  | @cons b pieces bs cuts hcut _ ih =>
    have hb := hsize b (List.mem_cons_self ..) _ hcut.length_lt
    obtain ⟨hbs, heach⟩ := ih fun b' hb' => hsize b' (List.mem_cons_of_mem _ hb')
    simp only [List.flatten_cons, List.length_append, Nat.mul_add]
    refine ⟨by omega, ?_⟩
    intro hall b' hb'
    rcases List.mem_cons.1 hb' with rfl | hb'
    · exact ⟨pieces.length, hcut.length_lt, by omega⟩
    · exact heach (by omega) b' hb'

/-! ## What the receiver hands over -/

/-- `buffer` is what is left of `pending` after handing over full `pieces`. -/
structure Collected (cap : ℕ) (pending : List α) (pieces : List (List α)) (buffer : List α) :
    Prop where
  flatten : pieces.flatten ++ buffer = pending
  length_eq : ∀ piece ∈ pieces, piece.length = cap
  length_le : buffer.length ≤ cap

theorem Collected.nil {cap : ℕ} : Collected cap ([] : List α) [] [] :=
  ⟨rfl, by simp, Nat.zero_le _⟩

theorem Collected.length_flatten {cap : ℕ} {pending : List α} {pieces : List (List α)}
    {buffer : List α} (h : Collected cap pending pieces buffer) :
    pieces.flatten.length = cap * pieces.length := by
  rw [List.length_flatten, List.map_congr_left h.length_eq]
  simp [Nat.mul_comm]

/-- One more element is collected, in the buffer or behind a new piece. -/
theorem Collected.push {cap : ℕ} (hcap : 0 < cap) {pending : List α} {pieces : List (List α)}
    {buffer : List α} (h : Collected cap pending pieces buffer) (a : α) :
    Collected cap (pending ++ [a]) (pieces ++ (push cap buffer a).2) (push cap buffer a).1 := by
  unfold GapFraming.push
  split
  · rename_i hfull
    refine ⟨by simp [← h.flatten], ?_, hcap⟩
    intro piece hpiece
    rcases List.mem_append.1 hpiece with hpiece | hpiece
    · exact h.length_eq piece hpiece
    · rw [List.mem_singleton.1 hpiece]
      exact le_antisymm h.length_le hfull
  · rename_i hroom
    refine ⟨by simp [← h.flatten], by simpa using h.length_eq, ?_⟩
    rw [List.length_append, List.length_singleton]
    omega

theorem Collected.pushAll {cap : ℕ} (hcap : 0 < cap) {pending : List α}
    {pieces : List (List α)} {buffer : List α} (h : Collected cap pending pieces buffer)
    (as : List α) :
    Collected cap (pending ++ as) (pieces ++ (pushAll cap buffer as).2)
      (pushAll cap buffer as).1 := by
  induction as generalizing pending pieces buffer with
  | nil => simpa [GapFraming.pushAll] using h
  | cons a as ih =>
    have := ih (h.push hcap a)
    simpa [GapFraming.pushAll, List.append_assoc] using this

/-- What is left in the buffer, as pieces. -/
def leftover : List α → List (List α)
  | [] => []
  | a :: as => [a :: as]

/-- Handing over what is left makes the pieces a cut of all that was collected. -/
theorem Collected.cut {cap : ℕ} (hcap : 0 < cap) {pending : List α} {pieces : List (List α)}
    {buffer : List α} (h : Collected cap pending pieces buffer) :
    Cut cap pending (pieces ++ leftover buffer) := by
  have hlen := congrArg List.length h.flatten
  rw [List.length_append, h.length_flatten] at hlen
  have hfull : ∀ piece ∈ pieces, piece ≠ [] := by
    intro piece hpiece hnil
    have := h.length_eq piece hpiece
    simp only [hnil, List.length_nil] at this
    omega
  cases buffer with
  | nil =>
    rw [leftover, List.append_nil]
    exact ⟨by simpa using h.flatten, hfull, by simp at hlen; omega⟩
  | cons a buffer =>
    refine ⟨by simpa [leftover] using h.flatten, ?_, ?_⟩
    · intro piece hpiece
      rcases List.mem_append.1 hpiece with hpiece | hpiece
      · exact hfull piece hpiece
      · rw [List.mem_singleton.1 hpiece]
        exact List.cons_ne_nil _ _
    · rw [List.length_cons] at hlen
      rw [leftover, List.length_append, List.length_singleton, Nat.mul_add, Nat.mul_one]
      omega

theorem Collected.eq_nil {cap : ℕ} (hcap : 0 < cap) {pieces : List (List α)} {buffer : List α}
    (h : Collected cap [] pieces buffer) : pieces = [] ∧ buffer = [] := by
  have hlen := congrArg List.length h.flatten
  rw [List.length_append, h.length_flatten, List.length_nil] at hlen
  have hpieces : cap * pieces.length = 0 := by omega
  have hbuffer : buffer.length = 0 := by omega
  exact ⟨List.eq_nil_of_length_eq_zero ((Nat.mul_eq_zero.1 hpieces).resolve_left hcap.ne'),
    List.eq_nil_of_length_eq_zero hbuffer⟩

theorem Collected.handOver {cap : ℕ} {pending : List α} {pieces : List (List α)}
    {buffer : List α} (h : Collected cap pending pieces buffer) (hfull : cap ≤ buffer.length) :
    Collected cap pending (pieces ++ [buffer]) [] := by
  refine ⟨by simpa using h.flatten, ?_, Nat.zero_le _⟩
  intro piece hpiece
  rcases List.mem_append.1 hpiece with hpiece | hpiece
  · exact h.length_eq piece hpiece
  · rw [List.mem_singleton.1 hpiece]
    exact le_antisymm h.length_le hfull

/-- A silent poll hands over what is left in the buffer. -/
theorem step_of_silent {cap gap : ℕ} {r : Receiver α} {p : Poll α} (h : Silent gap r.last p) :
    step cap gap r p = (⟨[], r.last⟩, leftover r.buffer) := by
  obtain ⟨buffer, last⟩ := r
  obtain ⟨hitems, hgap⟩ := h
  have hgap' : gap ≤ p.time - last := hgap
  cases buffer with
  | nil => simp [step, pushAll, hitems, leftover]
  | cons a buffer => simp [step, pushAll, hitems, hgap', leftover]

/-- Any other poll only collects. -/
theorem step_of_not_silent {cap gap : ℕ} (hcap : 0 < cap) (hgap : 0 < gap) {r : Receiver α}
    {p : Poll α} (h : ¬ Silent gap r.last p) {pending : List α} {pieces : List (List α)}
    (hr : Collected cap pending pieces r.buffer) :
    Collected cap (pending ++ p.items) (pieces ++ (step cap gap r p).2) (step cap gap r p).1.buffer ∧
      (step cap gap r p).1.last = if p.items = [] then r.last else p.time := by
  have hpush := hr.pushAll hcap p.items
  have hshort : ¬ gap ≤ p.time - if p.items = [] then r.last else p.time := by
    by_cases hitems : p.items = []
    · rw [if_pos hitems]
      exact fun hlate => h ⟨hitems, hlate⟩
    · rw [if_neg hitems]
      omega
  unfold step
  dsimp only
  generalize (if p.items = [] then r.last else p.time) = last at hshort
  split
  · rename_i hflush
    have hfull := hflush.2.resolve_left hshort
    refine ⟨?_, rfl⟩
    rw [← List.append_assoc]
    exact hpush.handOver hfull
  · exact ⟨hpush, rfl⟩

/-- What the receiver hands over, with what it still holds, is every burst cut
into pieces, in order. -/
theorem run_cuts (cap gap : ℕ) (hcap : 0 < cap) (hgap : 0 < gap) (ps : List (Poll α))
    (r : Receiver α) (pending : List α) (pieces : List (List α))
    (hr : Collected cap pending pieces r.buffer) :
    ∃ cuts, List.Forall₂ (Cut cap) (bursts gap pending r.last ps) cuts ∧
      pieces ++ (run cap gap r ps).2 ++ leftover (run cap gap r ps).1.buffer = cuts.flatten := by
  induction ps generalizing r pending pieces with
  | nil =>
    simp only [run, List.append_nil]
    cases pending with
    | nil =>
      obtain ⟨rfl, hbuffer⟩ := hr.eq_nil hcap
      exact ⟨[], by simp [bursts], by simp [hbuffer, leftover]⟩
    | cons a pending => exact ⟨[_], by simpa [bursts] using hr.cut hcap, by simp⟩
  | cons p ps ih =>
    simp only [run]
    by_cases hsilent : Silent gap r.last p
    · have hclosed := ih ⟨[], r.last⟩ [] [] Collected.nil
      rw [step_of_silent hsilent]
      obtain ⟨hitems, hlate⟩ := hsilent
      obtain ⟨cuts, hcuts, hout⟩ := hclosed
      cases pending with
      | nil =>
        obtain ⟨rfl, hbuffer⟩ := hr.eq_nil hcap
        exact ⟨cuts, by simpa [bursts, hitems] using hcuts, by simpa [hbuffer, leftover] using hout⟩
      | cons a pending =>
        refine ⟨_ :: cuts, by simpa [bursts, hitems, hlate] using ⟨hr.cut hcap, hcuts⟩, ?_⟩
        rw [List.flatten_cons, ← hout]
        simp
    · obtain ⟨hstep, hlast⟩ := step_of_not_silent hcap hgap hsilent hr
      obtain ⟨cuts, hcuts, hout⟩ := ih _ _ _ hstep
      refine ⟨cuts, ?_, by simpa using hout⟩
      rw [hlast] at hcuts
      by_cases hitems : p.items = []
      · have hearly : ¬ gap ≤ p.time - r.last := fun hlate => hsilent ⟨hitems, hlate⟩
        simpa [bursts, hitems, hearly] using hcuts
      · simpa [bursts, hitems] using hcuts

theorem run_append (cap gap : ℕ) (r : Receiver α) (ps qs : List (Poll α)) :
    run cap gap r (ps ++ qs) =
      ((run cap gap (run cap gap r ps).1 qs).1,
        (run cap gap r ps).2 ++ (run cap gap (run cap gap r ps).1 qs).2) := by
  induction ps generalizing r with
  | nil => rfl
  | cons p ps ih => simp [run, ih]

theorem last_run (cap gap : ℕ) (r : Receiver α) (ps : List (Poll α)) :
    (run cap gap r ps).1.last = lastTime r.last ps := by
  induction ps generalizing r with
  | nil => rfl
  | cons p ps ih =>
    rw [run, lastTime, ih]
    congr 1
    unfold step
    dsimp only
    generalize (if p.items = [] then r.last else p.time) = last
    split <;> rfl

/-- After a silent last poll nothing is left in the buffer. -/
theorem buffer_run_of_silent {cap gap : ℕ} {r : Receiver α} {ps : List (Poll α)} {p : Poll α}
    (h : Silent gap (lastTime r.last ps) p) : (run cap gap r (ps ++ [p])).1.buffer = [] := by
  rw [run_append]
  have hsilent : Silent gap (run cap gap r ps).1.last p := by rwa [last_run]
  simp only [run, step_of_silent hsilent]

end GapFraming
