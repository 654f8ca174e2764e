import Mathlib

/-!
# A ledger of messages on their way

Messages pass through a queue to a sender that either writes them at once or keeps the
latest one in a slot until it can write it.  The ledger numbers the messages that were
offered and remembers where each of them is: in the queue, in the slot or written.  Some
are accepted: whoever offered them was told so.

* `Superseded` — a later message with the same key has entered the queue;
* `Kept` — an accepted message is written, on its way or superseded;
* `Spares` — an operation that drops no accepted message, and `spares_iff`: exactly these
  keep all accepted messages.
-/

structure LedgerEntry (M : Type) where
  message : M
  /-- Whoever offered it was told that it is on its way. -/
  accepted : Bool
  /-- The queue took it. -/
  queued : Bool
  deriving DecidableEq

structure Ledger (M : Type) where
  entries : List (LedgerEntry M) := []
  queue : List ℕ := []
  slot : Option ℕ := none
  written : List ℕ := []
  deriving DecidableEq

inductive LedgerOp (M : Type) where
  | offer (message : M) (accepted room : Bool)
  /-- The head of the queue replaces what is in the slot. -/
  | store
  /-- The head of the queue is written, or lost. -/
  | write (ok : Bool)
  /-- What is in the slot is written, or lost. -/
  | flush (ok : Bool)

namespace Ledger

variable {M K : Type}

def message? (l : Ledger M) (i : ℕ) : Option M := l.entries[i]?.map (·.message)

def offer (l : Ledger M) (message : M) (accepted room : Bool) : Ledger M :=
  { l with
    entries := l.entries ++ [⟨message, accepted, room⟩]
    queue := if room then l.queue ++ [l.entries.length] else l.queue }

def store (l : Ledger M) : Ledger M :=
  match l.queue with
  | [] => l
  | i :: rest => { l with queue := rest, slot := some i }

def write (l : Ledger M) (ok : Bool) : Ledger M :=
  match l.queue with
  | [] => l
  | i :: rest => { l with queue := rest, written := if ok then l.written ++ [i] else l.written }

def flush (l : Ledger M) (ok : Bool) : Ledger M :=
  { l with slot := none, written := if ok then l.written ++ l.slot.toList else l.written }

def apply (l : Ledger M) : LedgerOp M → Ledger M
  | .offer message accepted room => l.offer message accepted room
  | .store => l.store
  | .write ok => l.write ok
  | .flush ok => l.flush ok

/-- Where the numbers of messages stand. -/
def places (l : Ledger M) : List ℕ := l.written ++ l.slot.toList ++ l.queue

/-- Every number stands in one place only and belongs to an entry. -/
def Numbered (l : Ledger M) : Prop := l.places.Nodup ∧ ∀ i ∈ l.places, i < l.entries.length

theorem numbered_empty : ({} : Ledger M).Numbered := ⟨List.nodup_nil, nofun⟩

/-- Fewer places, in any order. -/
theorem Numbered.of_subperm {l l' : Ledger M} (h : l.Numbered) (hplaces : l'.places.Subperm l.places)
    (hentries : l'.entries = l.entries) : l'.Numbered := by
  obtain ⟨places, hperm, hsub⟩ := hplaces
  refine ⟨hperm.nodup_iff.1 (h.1.sublist hsub), fun i hi => ?_⟩
  rw [hentries]
  exact h.2 i (hsub.subset (hperm.mem_iff.2 hi))

theorem Numbered.offer {l : Ledger M} (h : l.Numbered) (message : M) (accepted room : Bool) :
    (l.offer message accepted room).Numbered := by
  have hlength : (l.offer message accepted room).entries.length = l.entries.length + 1 :=
    List.length_append
  unfold Numbered
  rw [hlength]
  cases room with
  | false => exact ⟨h.1, fun i hi => Nat.lt_succ_of_lt (h.2 i hi)⟩
  | true =>
    have hplaces : (l.offer message accepted true).places = l.places ++ [l.entries.length] :=
      (List.append_assoc ..).symm
    rw [hplaces]
    constructor
    · refine List.nodup_append.2 ⟨h.1, List.nodup_singleton _, ?_⟩
      intro i hi j hj hsame
      rw [List.mem_singleton] at hj
      exact absurd (h.2 i hi) (by omega)
    · intro i hi
      rcases List.mem_append.1 hi with hi | hi
      · exact Nat.lt_succ_of_lt (h.2 i hi)
      · rw [List.mem_singleton.1 hi]
        exact Nat.lt_succ_self _

theorem Numbered.store {l : Ledger M} (h : l.Numbered) : l.store.Numbered := by
  rw [Ledger.store]
  split
  · exact h
  · rename_i i rest hqueue
    refine h.of_subperm (List.Sublist.subperm ?_) rfl
    show List.Sublist (l.written ++ [i] ++ rest) (l.written ++ l.slot.toList ++ l.queue)
    rw [hqueue, List.append_assoc, List.append_assoc]
    exact List.Sublist.append_left (List.sublist_append_right _ _) _

theorem Numbered.write {l : Ledger M} (h : l.Numbered) (ok : Bool) : (l.write ok).Numbered := by
  rw [Ledger.write]
  split
  · exact h
  · rename_i i rest hqueue
    refine h.of_subperm ?_ rfl
    cases ok with
    | false =>
      refine List.Sublist.subperm ?_
      show List.Sublist (l.written ++ l.slot.toList ++ rest) (l.written ++ l.slot.toList ++ l.queue)
      rw [hqueue]
      exact List.Sublist.append_left (List.sublist_cons_self _ _) _
    | true =>
      refine List.Perm.subperm ?_
      show List.Perm (l.written ++ [i] ++ l.slot.toList ++ rest)
        (l.written ++ l.slot.toList ++ l.queue)
      rw [hqueue]
      simp only [List.append_assoc]
      exact List.Perm.append_left _ (by simpa using List.perm_middle.symm)

theorem Numbered.flush {l : Ledger M} (h : l.Numbered) (ok : Bool) : (l.flush ok).Numbered := by
  refine h.of_subperm (List.Sublist.subperm ?_) rfl
  cases ok with
  | false =>
    show List.Sublist (l.written ++ [] ++ l.queue) (l.written ++ l.slot.toList ++ l.queue)
    exact List.Sublist.append_right (List.Sublist.append_left (List.nil_sublist _) _) _
  | true =>
    show List.Sublist (l.written ++ l.slot.toList ++ [] ++ l.queue)
      (l.written ++ l.slot.toList ++ l.queue)
    rw [List.append_nil]

theorem Numbered.apply {l : Ledger M} (h : l.Numbered) (op : LedgerOp M) : (l.apply op).Numbered := by
  cases op with
  | offer message accepted room => exact h.offer message accepted room
  | store => exact h.store
  | write ok => exact h.write ok
  | flush ok => exact h.flush ok

/-! ## Accepted messages -/

variable (key : M → K)

/-- A later message with the same key has entered the queue. -/
def Superseded (l : Ledger M) (i : ℕ) : Prop :=
  ∃ j entry later, i < j ∧ l.entries[i]? = some entry ∧ l.entries[j]? = some later ∧
    later.queued = true ∧ key later.message = key entry.message

def Accepted (l : Ledger M) (i : ℕ) : Prop := ∃ entry, l.entries[i]? = some entry ∧ entry.accepted

/-- It may be dropped. -/
def Dispensable (l : Ledger M) (i : ℕ) : Prop := l.Accepted i → l.Superseded key i

/-- Every accepted message is written, on its way or superseded. -/
def Kept (l : Ledger M) : Prop := ∀ i, l.Accepted i → i ∈ l.places ∨ l.Superseded key i

/-- It is enough to look at the entries. -/
theorem superseded_iff {l : Ledger M} {i : ℕ} : l.Superseded key i ↔
    ∃ j ∈ List.range l.entries.length, i < j ∧ ∃ entry ∈ l.entries[i]?, ∃ later ∈ l.entries[j]?,
      later.queued = true ∧ key later.message = key entry.message := by
  constructor
  · rintro ⟨j, entry, later, hlt, hentry, hlater, hqueued, hkey⟩
    obtain ⟨hbound, -⟩ := List.getElem?_eq_some_iff.1 hlater
    exact ⟨j, List.mem_range.2 hbound, hlt, entry, hentry, later, hlater, hqueued, hkey⟩
  · rintro ⟨j, _, hlt, entry, hentry, later, hlater, hqueued, hkey⟩
    exact ⟨j, entry, later, hlt, hentry, hlater, hqueued, hkey⟩

theorem kept_iff {l : Ledger M} : l.Kept key ↔ ∀ i ∈ List.range l.entries.length,
    (∃ entry ∈ l.entries[i]?, entry.accepted = true) → i ∈ l.places ∨ l.Superseded key i := by
  constructor
  · rintro h i _ ⟨entry, hentry, haccepted⟩
    exact h i ⟨entry, hentry, haccepted⟩
  · rintro h i ⟨entry, hentry, haccepted⟩
    obtain ⟨hbound, -⟩ := List.getElem?_eq_some_iff.1 hentry
    exact h i (List.mem_range.2 hbound) ⟨entry, hentry, haccepted⟩

instance [DecidableEq K] (l : Ledger M) (i : ℕ) : Decidable (l.Superseded key i) :=
  decidable_of_iff' _ (superseded_iff key)

instance [DecidableEq K] (l : Ledger M) : Decidable (l.Kept key) :=
  decidable_of_iff' _ (kept_iff key)

/-- The operation drops no accepted message that is not superseded. -/
def Spares (l : Ledger M) : LedgerOp M → Prop
  | .offer _ accepted room => accepted → room
  | .store => l.queue ≠ [] → ∀ k ∈ l.slot, l.Dispensable key k
  | .write ok => ok = true ∨ ∀ i ∈ l.queue.head?, l.Dispensable key i
  | .flush ok => ok = true ∨ ∀ k ∈ l.slot, l.Dispensable key k

variable {key}

theorem kept_empty : ({} : Ledger M).Kept key := by
  rintro i ⟨entry, hentry, -⟩
  cases hentry

/-- Among operations that offer nothing, those keep all accepted messages that remove only
dispensable ones. -/
theorem kept_iff_of_removes {l : Ledger M} (l' : Ledger M) (removed : List ℕ) (h : l.Kept key)
    (hentries : l'.entries = l.entries) (hplaces : ∀ i, i ∈ l.places ↔ i ∈ l'.places ∨ i ∈ removed)
    (hgone : ∀ i ∈ removed, i ∉ l'.places) :
    l'.Kept key ↔ ∀ i ∈ removed, l.Dispensable key i := by
  have hsame (i : ℕ) : (l'.Accepted i ↔ l.Accepted i) ∧
      (l'.Superseded key i ↔ l.Superseded key i) := by
    unfold Accepted Superseded
    rw [hentries]
    exact ⟨Iff.rfl, Iff.rfl⟩
  constructor
  · intro h' i hi haccepted
    have hkept := h' i ((hsame i).1.2 haccepted)
    exact (hsame i).2.1 (hkept.resolve_left (hgone i hi))
  · intro hdispensable i haccepted
    rw [(hsame i).2]
    rcases h i ((hsame i).1.1 haccepted) with hplace | hsuperseded
    · rcases (hplaces i).1 hplace with hplace | hremoved
      · exact Or.inl hplace
      · exact Or.inr (hdispensable i hremoved ((hsame i).1.1 haccepted))
    · exact Or.inr hsuperseded

theorem Superseded.offer {l : Ledger M} {i : ℕ} (h : l.Superseded key i) (message : M)
    (accepted room : Bool) : (l.offer message accepted room).Superseded key i := by
  obtain ⟨j, entry, later, hlt, hentry, hlater, hqueued, hkey⟩ := h
  have hold {k : ℕ} {e : LedgerEntry M} (hk : l.entries[k]? = some e) :
      (l.offer message accepted room).entries[k]? = some e := by
    obtain ⟨hbound, -⟩ := List.getElem?_eq_some_iff.1 hk
    rw [← hk]
    exact List.getElem?_append_left hbound
  exact ⟨j, entry, later, hlt, hold hentry, hold hlater, hqueued, hkey⟩

/-- An offer loses the message itself or nothing. -/
theorem kept_offer_iff {l : Ledger M} (hnumbered : l.Numbered) (h : l.Kept key) (message : M)
    (accepted room : Bool) :
    (l.offer message accepted room).Kept key ↔ (accepted → room) := by
  have hnew : (l.offer message accepted room).entries[l.entries.length]? =
      some ⟨message, accepted, room⟩ := List.getElem?_concat_length
  have hlength : (l.offer message accepted room).entries.length = l.entries.length + 1 :=
    List.length_append
  constructor
  · intro hkept haccepted
    by_contra hroom
    have hroom : room = false := Bool.eq_false_iff.2 hroom
    subst hroom
    rcases hkept l.entries.length ⟨_, hnew, haccepted⟩ with hplace | ⟨j, _, later, hlt, _, hlater, _⟩
    · exact absurd (hnumbered.2 _ hplace) (lt_irrefl _)
    · obtain ⟨hbound, -⟩ := List.getElem?_eq_some_iff.1 hlater
      omega
  · rintro hroom i ⟨entry, hentry, haccepted⟩
    obtain ⟨hbound, -⟩ := List.getElem?_eq_some_iff.1 hentry
    have hsplit : i < l.entries.length ∨ i = l.entries.length := by omega
    rcases hsplit with hold | rfl
    · have hentry' : l.entries[i]? = some entry := by
        rw [← hentry]
        exact (List.getElem?_append_left hold).symm
      rcases h i ⟨entry, hentry', haccepted⟩ with hplace | hsuperseded
      · refine Or.inl ?_
        cases room with
        | false => exact hplace
        | true =>
          show i ∈ l.written ++ l.slot.toList ++ (l.queue ++ [l.entries.length])
          rw [← List.append_assoc]
          exact List.mem_append_left _ hplace
      · exact Or.inr (hsuperseded.offer message accepted room)
    · rw [hnew, Option.some.injEq] at hentry
      subst hentry
      have hroom : room = true := hroom haccepted
      subst hroom
      refine Or.inl (List.mem_append_right _ ?_)
      exact List.mem_append_right _ (List.mem_singleton_self _)

theorem kept_store_iff {l : Ledger M} (hnumbered : l.Numbered) (h : l.Kept key) :
    l.store.Kept key ↔ (l.queue ≠ [] → ∀ k ∈ l.slot, l.Dispensable key k) := by
  have hnodup := hnumbered.1
  rw [store]
  cases hqueue : l.queue with
  | nil => exact iff_of_true h fun hne => absurd rfl hne
  | cons i rest =>
    rw [places, hqueue] at hnodup
    have hremoved := kept_iff_of_removes { l with queue := rest, slot := some i } l.slot.toList h
      rfl ?_ ?_
    · simpa using hremoved
    · intro j
      simp only [places, hqueue, List.mem_append, List.mem_cons, Option.toList_some,
        List.not_mem_nil, or_false]
      tauto
    · intro k hk hmem
      simp only [places, List.mem_append, Option.toList_some, List.mem_singleton] at hmem
      rw [List.nodup_append, List.nodup_append] at hnodup
      obtain ⟨⟨_, _, hwritten⟩, _, hrest⟩ := hnodup
      rcases hmem with (hmem | rfl) | hmem
      · exact hwritten k hmem k hk rfl
      · exact hrest k (List.mem_append_right _ hk) k (List.mem_cons_self ..) rfl
      · exact hrest k (List.mem_append_right _ hk) k (List.mem_cons_of_mem _ hmem) rfl

theorem kept_write_iff {l : Ledger M} (hnumbered : l.Numbered) (h : l.Kept key) (ok : Bool) :
    (l.write ok).Kept key ↔ ok = true ∨ ∀ i ∈ l.queue.head?, l.Dispensable key i := by
  have hnodup := hnumbered.1
  rw [write]
  cases hqueue : l.queue with
  | nil => exact iff_of_true h (Or.inr nofun)
  | cons i rest =>
    rw [places, hqueue] at hnodup
    cases ok with
    | true =>
      have hremoved := kept_iff_of_removes
        { l with queue := rest, written := l.written ++ [i] } [] h rfl ?_ nofun
      · simpa using hremoved
      · intro j
        simp only [places, hqueue, List.mem_append, List.mem_cons, List.not_mem_nil, or_false]
        tauto
    | false =>
      have hremoved := kept_iff_of_removes { l with queue := rest } [i] h rfl ?_ ?_
      · simpa using hremoved
      · intro j
        simp only [places, hqueue, List.mem_append, List.mem_cons, List.not_mem_nil, or_false]
        tauto
      · intro k hk hmem
        rw [List.mem_singleton] at hk
        subst hk
        rw [List.nodup_append, List.nodup_cons] at hnodup
        obtain ⟨_, ⟨hrest, _⟩, hearlier⟩ := hnodup
        rcases List.mem_append.1 hmem with hmem | hmem
        · exact hearlier k hmem k (List.mem_cons_self ..) rfl
        · exact hrest hmem

theorem kept_flush_iff {l : Ledger M} (hnumbered : l.Numbered) (h : l.Kept key) (ok : Bool) :
    (l.flush ok).Kept key ↔ ok = true ∨ ∀ k ∈ l.slot, l.Dispensable key k := by
  have hnodup := hnumbered.1
  rw [flush]
  cases ok with
  | true =>
    have hremoved := kept_iff_of_removes
      { l with slot := none, written := l.written ++ l.slot.toList } [] h rfl ?_ nofun
    · simpa using hremoved
    · intro j
      simp [places]
  | false =>
    have hremoved := kept_iff_of_removes { l with slot := none } l.slot.toList h rfl ?_ ?_
    · simpa using hremoved
    · intro j
      simp only [places, List.mem_append, Option.toList_none, List.not_mem_nil]
      tauto
    · intro k hk hmem
      simp only [places, Option.toList_none, List.append_nil, List.mem_append] at hmem
      rw [places, List.nodup_append, List.nodup_append] at hnodup
      obtain ⟨⟨_, _, hwritten⟩, _, hqueue⟩ := hnodup
      rcases hmem with hmem | hmem
      · exact hwritten k hmem k hk rfl
      · exact hqueue k (List.mem_append_right _ hk) k hmem rfl

/-- Accepted messages are kept by exactly the operations that spare them. -/
theorem spares_iff {l : Ledger M} (hnumbered : l.Numbered) (h : l.Kept key) (op : LedgerOp M) :
    l.Spares key op ↔ (l.apply op).Kept key := by
  cases op with
  | offer message accepted room => exact (kept_offer_iff hnumbered h message accepted room).symm
  | store => exact (kept_store_iff hnumbered h).symm
  | write ok => exact (kept_write_iff hnumbered h ok).symm
  | flush ok => exact (kept_flush_iff hnumbered h ok).symm

end Ledger
