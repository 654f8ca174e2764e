import Mathlib

/-!
# Length-prefixed messages on a stream

A stream carries messages one after the other, and the beginning of a message
tells its length.  `len` reads it off a buffer: `some n` when the buffer starts
with a complete message of `n` elements, `none` when more is needed (or when
there is nothing acceptable).

* `LengthPrefixed len` — what such a function has to satisfy: it looks at nothing
  behind the message, so more input never changes its answer;
* `drain` — take complete messages off a buffer until there are none;
* `drain_prefix` — draining what has arrived of a stream of messages takes some
  of the messages and leaves the beginning of the next one;
* `eq_of_drained` — once the whole stream has arrived, all messages are taken;
* `feed_eq_drain`, `drain_messages` — how a stream is cut into reads does not
  matter: its messages are taken and an incomplete last one is left.
-/

namespace Framing

variable {α : Type} {len : List α → Option ℕ}

/-- `len` tells the length of the message a buffer starts with. -/
structure LengthPrefixed (len : List α → Option ℕ) : Prop where
  pos : ∀ {l n}, len l = some n → 0 < n
  le : ∀ {l n}, len l = some n → n ≤ l.length
  append : ∀ {l n} (m : List α), len l = some n → len (l ++ m) = some n

/-- A complete message and nothing else. -/
def IsMessage (len : List α → Option ℕ) (m : List α) : Prop := len m = some m.length

instance (len : List α → Option ℕ) (m : List α) : Decidable (IsMessage len m) :=
  inferInstanceAs (Decidable (len m = some m.length))

/-- Take complete messages off the front, at most `fuel` of them. -/
def drainFuel (len : List α → Option ℕ) : ℕ → List α → List (List α) × List α
  | 0, b => ([], b)
  | fuel + 1, b =>
    match len b with
    | some n =>
      let (messages, rest) := drainFuel len fuel (b.drop n)
      (b.take n :: messages, rest)
    | none => ([], b)

/-- Take all complete messages off the front. -/
def drain (len : List α → Option ℕ) (b : List α) : List (List α) × List α :=
  drainFuel len b.length b

/-- Drain the buffer, then append the next piece that arrives. -/
def feed (len : List α → Option ℕ) : List α → List (List α) → List (List α) × List α
  | b, [] => drain len b
  | b, chunk :: chunks =>
    let (messages, rest) := drain len b
    let (more, rest) := feed len (rest ++ chunk) chunks
    (messages ++ more, rest)

/-- Draining only cuts: nothing is lost, added or reordered. -/
theorem drainFuel_flatten (fuel : ℕ) (b : List α) :
    (drainFuel len fuel b).1.flatten ++ (drainFuel len fuel b).2 = b := by
  induction fuel generalizing b with
  | zero => rfl
  | succ fuel ih =>
    rw [drainFuel]
    cases hlen : len b with
    | none => rfl
    | some n =>
      simp only [List.flatten_cons, List.append_assoc]
      rw [ih, List.take_append_drop]

theorem drain_flatten (b : List α) : (drain len b).1.flatten ++ (drain len b).2 = b :=
  drainFuel_flatten _ b

theorem drain_of_none {b : List α} (h : len b = none) : drain len b = ([], b) := by
  unfold drain
  cases b.length <;> simp [drainFuel, h]

namespace LengthPrefixed

variable (hlen : LengthPrefixed len)

include hlen

theorem nil : len [] = none := by
  cases h : len [] with
  | none => rfl
  | some n =>
    have hpos := hlen.pos h
    have hle := hlen.le h
    rw [List.length_nil] at hle
    omega

theorem ne_nil {m : List α} (h : IsMessage len m) : m ≠ [] := by
  rintro rfl
  exact absurd (hlen.nil.symm.trans h) (by simp)

/-- A buffer that starts with a message shows its length. -/
theorem len_append {m : List α} (h : IsMessage len m) (rest : List α) :
    len (m ++ rest) = some m.length :=
  hlen.append rest h

/-- After enough rounds no complete message is left. -/
theorem len_drainFuel {fuel : ℕ} {b : List α} (h : b.length ≤ fuel) :
    len (drainFuel len fuel b).2 = none := by
  induction fuel generalizing b with
  | zero =>
    rw [List.eq_nil_of_length_eq_zero (Nat.le_zero.1 h)]
    exact hlen.nil
  | succ fuel ih =>
    rw [drainFuel]
    cases hb : len b with
    | none => exact hb
    | some n =>
      have hpos := hlen.pos hb
      refine ih ?_
      rw [List.length_drop]
      omega

theorem len_drain (b : List α) : len (drain len b).2 = none := hlen.len_drainFuel le_rfl

/-- When a length can be read off what has arrived of a stream, it is that of the
first message, which has arrived. -/
theorem eq_append_of_len {m b : List α} {ms : List (List α)} {n : ℕ} (hm : IsMessage len m)
    (hb : b <+: (m :: ms).flatten) (hn : len b = some n) :
    n = m.length ∧ ∃ b', b = m ++ b' ∧ b' <+: ms.flatten := by
  obtain ⟨rest, hrest⟩ := hb
  rw [List.flatten_cons] at hrest
  have hsame : n = m.length := by
    have h₁ := hlen.append rest hn
    rw [hrest, hlen.len_append hm] at h₁
    exact (Option.some.inj h₁).symm
  refine ⟨hsame, ?_⟩
  have hle : m.length ≤ b.length := hsame ▸ hlen.le hn
  have hmb : m <+: b := List.prefix_of_prefix_length_le (List.prefix_append m ms.flatten)
    ⟨rest, hrest⟩ hle
  obtain ⟨b', rfl⟩ := hmb
  rw [List.append_assoc] at hrest
  exact ⟨b', rfl, rest, List.append_cancel_left hrest⟩

/-- What has arrived of a stream of messages is some of the messages, taken
whole, and the beginning of the next. -/
theorem drainFuel_prefix {fuel : ℕ} {b : List α} {ms : List (List α)}
    (hms : ∀ m ∈ ms, IsMessage len m) (hb : b <+: ms.flatten) :
    (drainFuel len fuel b).1 <+: ms := by
  induction fuel generalizing b ms with
  | zero => exact List.nil_prefix
  | succ fuel ih =>
    rw [drainFuel]
    cases hn : len b with
    | none => exact List.nil_prefix
    | some n =>
      cases ms with
      | nil =>
        rw [List.flatten_nil, List.prefix_nil] at hb
        rw [hb, hlen.nil] at hn
        cases hn
      | cons m ms =>
        obtain ⟨hsame, b', rfl, hb'⟩ :=
          hlen.eq_append_of_len (hms m (List.mem_cons_self ..)) hb hn
        rw [hsame]
        simp only [List.take_left, List.drop_left]
        have hrest := ih (fun m' hm' => hms m' (List.mem_cons_of_mem _ hm')) hb'
        exact List.cons_prefix_cons.2 ⟨rfl, hrest⟩

/-- An incomplete message at the front is shorter than a longest message. -/
theorem length_le_of_len_eq_none {b : List α} {ms : List (List α)} {cap : ℕ}
    (hms : ∀ m ∈ ms, IsMessage len m) (hcap : ∀ m ∈ ms, m.length ≤ cap)
    (hb : b <+: ms.flatten) (hnone : len b = none) : b.length ≤ cap := by
  cases ms with
  | nil =>
    rw [List.flatten_nil, List.prefix_nil] at hb
    rw [hb]
    exact Nat.zero_le _
  | cons m ms =>
    by_contra hlong
    have hm := hcap m (List.mem_cons_self ..)
    have hmb : m <+: b := List.prefix_of_prefix_length_le (List.prefix_append m ms.flatten) hb
      (by omega)
    obtain ⟨b', rfl⟩ := hmb
    rw [hlen.len_append (hms m (List.mem_cons_self ..))] at hnone
    cases hnone

theorem drain_prefix {b : List α} {ms : List (List α)} (hms : ∀ m ∈ ms, IsMessage len m)
    (hb : b <+: ms.flatten) : (drain len b).1 <+: ms :=
  hlen.drainFuel_prefix hms hb

/-- Messages taken off a stream that has arrived in full, with nothing complete
left over, are all of its messages. -/
theorem eq_of_drained {taken ms : List (List α)} {rest : List α}
    (hms : ∀ m ∈ ms, IsMessage len m) (htaken : taken <+: ms)
    (hall : taken.flatten ++ rest = ms.flatten) (hrest : len rest = none) :
    taken = ms ∧ rest = [] := by
  obtain ⟨left, rfl⟩ := htaken
  rw [List.flatten_append] at hall
  have hleft := List.append_cancel_left hall
  cases left with
  | nil => exact ⟨by simp, hleft⟩
  | cons m left =>
    have hm := hms m (by simp)
    rw [hleft, List.flatten_cons, hlen.len_append hm] at hrest
    cases hrest

/-! ### Reads -/

/-- More rounds than elements change nothing. -/
theorem drainFuel_eq_drain {fuel : ℕ} {b : List α} (h : b.length ≤ fuel) :
    drainFuel len fuel b = drain len b := by
  unfold drain
  generalize hn : b.length = n at h
  induction n using Nat.strongRecOn generalizing fuel b with
  | ind n ih =>
    cases hb : len b with
    | none => cases fuel <;> cases n <;> simp [drainFuel, hb]
    | some k =>
      have hpos := hlen.pos hb
      have hle := hlen.le hb
      obtain ⟨fuel, rfl⟩ : ∃ f, fuel = f + 1 := ⟨fuel - 1, by omega⟩
      obtain ⟨n, rfl⟩ : ∃ m, n = m + 1 := ⟨n - 1, by omega⟩
      have hdrop : (b.drop k).length = n + 1 - k := by rw [List.length_drop, hn]
      have hrest (f : ℕ) (hf : n + 1 - k ≤ f) :
          drainFuel len f (b.drop k) = drainFuel len (n + 1 - k) (b.drop k) :=
        ih (n + 1 - k) (by omega) hdrop hf
      rw [drainFuel, drainFuel, hb]
      simp only
      rw [hrest fuel (by omega), hrest n (by omega)]

theorem drain_of_some {b : List α} {n : ℕ} (h : len b = some n) :
    drain len b = (b.take n :: (drain len (b.drop n)).1, (drain len (b.drop n)).2) := by
  have hpos := hlen.pos h
  have hle := hlen.le h
  obtain ⟨k, hk⟩ : ∃ k, b.length = k + 1 := ⟨b.length - 1, by omega⟩
  rw [drain, hk, drainFuel, h]
  simp only
  rw [hlen.drainFuel_eq_drain (by rw [List.length_drop]; omega)]

/-- Draining more is draining what there is, and then what is left with the rest. -/
theorem drain_append (b c : List α) :
    drain len (b ++ c) = ((drain len b).1 ++ (drain len ((drain len b).2 ++ c)).1,
      (drain len ((drain len b).2 ++ c)).2) := by
  generalize hn : b.length = n
  induction n using Nat.strongRecOn generalizing b with
  | ind n ih =>
    cases hb : len b with
    | none =>
      rw [drain_of_none hb]
      rfl
    | some k =>
      have hpos := hlen.pos hb
      have hle := hlen.le hb
      have hdrop : (b.drop k).length = n - k := by rw [List.length_drop, hn]
      rw [hlen.drain_of_some hb, hlen.drain_of_some (hlen.append c hb),
        List.take_append_of_le_length hle, List.drop_append_of_le_length hle,
        ih (n - k) (by omega) _ hdrop]
      rfl

/-- How a stream is cut into pieces does not matter. -/
theorem feed_eq_drain (b : List α) (chunks : List (List α)) :
    feed len b chunks = drain len (b ++ chunks.flatten) := by
  induction chunks generalizing b with
  | nil => rw [feed, List.flatten_nil, List.append_nil]
  | cons chunk chunks ih =>
    rw [feed, List.flatten_cons, hlen.drain_append, ← List.append_assoc, ← ih]

/-- The proper beginning of a message is no message. -/
theorem len_eq_none_of_prefix {m part : List α} (hm : IsMessage len m) (hpart : part <+: m)
    (hne : part ≠ m) : len part = none := by
  obtain ⟨rest, rfl⟩ := hpart
  cases hn : len part with
  | none => rfl
  | some n =>
    have hle := hlen.le hn
    have hsame := hlen.append rest hn
    rw [IsMessage, hsame, Option.some.injEq, List.length_append] at hm
    have hrest : rest = [] := List.eq_nil_of_length_eq_zero (by omega)
    rw [hrest, List.append_nil] at hne
    exact absurd rfl hne

/-- A stream of messages is cut into these; an incomplete one at its end is left. -/
theorem drain_messages {ms : List (List α)} {part : List α} (hms : ∀ m ∈ ms, IsMessage len m)
    (hpart : len part = none) : drain len (ms.flatten ++ part) = (ms, part) := by
  induction ms with
  | nil => exact drain_of_none hpart
  | cons m ms ih =>
    have hm := hms m (List.mem_cons_self ..)
    rw [List.flatten_cons, List.append_assoc, hlen.drain_of_some (hlen.len_append hm _),
      List.take_left, List.drop_left, ih fun m' hm' => hms m' (List.mem_cons_of_mem _ hm')]

end LengthPrefixed

end Framing
