import EspWaveRider.Lib.KeyedStore
import EspWaveRider.Lib.SlotTable

/-!
# Stores of what was heard last

A store of bounded capacity holds keys with the time each of them was heard last.  When it is
full, a new key takes the place of one that was heard longest ago.  What was heard too long
ago counts for nothing, whether it is still held or not.

* `Noted` — what hearing a key can do to a store;
* `Recalls` — a store and what was heard; `Recalls.hear`, `Recalls.prune`, `Recalls.later` keep it;
* `Recalls.showsRecent` — a key is held as long as few others were heard after it, and
  `ShowsRecent.iff` — while few are heard, all of them are held;
* `noted_of_upserted`, `noted_update` — lists of entries and tables of slots as such stores.
-/

namespace RecentStore

variable {κ : Type}

/-- At least `cap` keys are held, all of them heard at `t` or later. -/
def Crowded (cap t : ℕ) (held : κ → Option ℕ) : Prop :=
  ∃ s : Finset κ, cap ≤ s.card ∧ ∀ k ∈ s, ∃ u, held k = some u ∧ t ≤ u

/-- A finite set of keys that are held. -/
def AllHeld (held : κ → Option ℕ) (s : Finset κ) : Prop := ∀ k ∈ s, ∃ t, held k = some t

/-- What hearing the key `k` can do to a store. -/
inductive Noted [DecidableEq κ] (cap now : ℕ) (k : κ) (held : κ → Option ℕ) : (κ → Option ℕ) → Prop where
  | update {t : ℕ} : held k = some t → Noted cap now k held (Function.update held k (some now))
  | insert : (∀ s, AllHeld held s → s.card < cap) →
      Noted cap now k held (Function.update held k (some now))
  | replace {oldest : κ} {t : ℕ} : held k = none → held oldest = some t → Crowded cap t held →
      Noted cap now k held (Function.update (Function.update held oldest none) k (some now))

/-- The store holds, of what was heard, what it cannot have forgotten. -/
structure Recalls (cap window now : ℕ) (heard held : κ → Option ℕ) : Prop where
  bounded : ∀ s, AllHeld held s → s.card ≤ cap
  noted : ∀ k t, held k = some t → heard k = some t
  forgotten : ∀ k t, heard k = some t → held k = none → window < now - t ∨ Crowded cap t held
  past : ∀ k t, heard k = some t → t ≤ now

/-- Heard, or held, and not too long ago. -/
def Recent (window now : ℕ) (heard : κ → Option ℕ) (k : κ) : Prop :=
  ∃ t, heard k = some t ∧ now - t ≤ window

variable {cap window now : ℕ} {heard held held' : κ → Option ℕ}

theorem Crowded.mono {t t' : ℕ} (h : Crowded cap t held) (ht : t' ≤ t) : Crowded cap t' held := by
  obtain ⟨s, hcard, hs⟩ := h
  refine ⟨s, hcard, fun k hk => ?_⟩
  obtain ⟨u, hu, hle⟩ := hs k hk
  exact ⟨u, hu, ht.trans hle⟩

/-! ## What keeps a store right -/

namespace Recalls

/-- A store that has heard nothing yet. -/
theorem empty (cap window now : ℕ) : Recalls (κ := κ) cap window now (fun _ => none) (fun _ => none) where
  bounded s hs := by
    rcases s.eq_empty_or_nonempty with rfl | ⟨k, hk⟩
    · simp
    · obtain ⟨t, ht⟩ := hs k hk
      cases ht
  noted _ _ h := by cases h
  forgotten _ _ h := by cases h
  past _ _ h := by cases h

/-- Time passes. -/
theorem later {now' : ℕ} (h : Recalls cap window now heard held) (hnow : now ≤ now') :
    Recalls cap window now' heard held where
  bounded := h.bounded
  noted := h.noted
  forgotten k t hk hnone := by
    rcases h.forgotten k t hk hnone with hstale | hcrowded
    · exact Or.inl (by omega)
    · exact Or.inr hcrowded
  past k t hk := (h.past k t hk).trans hnow

/-- Keys that were heard too long ago may be dropped. -/
theorem prune (h : Recalls cap window now heard held) (hsub : ∀ k t, held' k = some t → held k = some t)
    (hdropped : ∀ k t, held k = some t → held' k = none → window < now - t) :
    Recalls cap window now heard held' where
  bounded s hs := h.bounded s fun k hk => (hs k hk).imp fun t => hsub k t
  noted k t hk := h.noted k t (hsub k t hk)
  forgotten k t hk hnone := by
    cases hheld : held k with
    | some u =>
      have hu : u = t := Option.some.inj ((h.noted k u hheld).symm.trans hk)
      exact Or.inl (hu ▸ hdropped k u hheld hnone)
    | none =>
      rcases h.forgotten k t hk hheld with hstale | ⟨s, hcard, hs⟩
      · exact Or.inl hstale
      · by_cases hall : ∀ j ∈ s, held' j ≠ none
        · refine Or.inr ⟨s, hcard, fun j hj => ?_⟩
          obtain ⟨u, hu, hle⟩ := hs j hj
          obtain ⟨v, hv⟩ := Option.ne_none_iff_exists'.1 (hall j hj)
          have huv : v = u := Option.some.inj ((hsub j v hv).symm.trans hu)
          exact ⟨u, huv ▸ hv, hle⟩
        · -- a key heard no earlier was dropped as too old
          push Not at hall
          obtain ⟨j, hj, hnone⟩ := hall
          obtain ⟨u, hu, hle⟩ := hs j hj
          have hstale := hdropped j u hu hnone
          exact Or.inl (by omega)
  past := h.past

end Recalls

/-! ### Hearing a key -/

section Hear

variable [DecidableEq κ] {k : κ}

theorem Noted.self (h : Noted cap now k held held') : held' k = some now := by
  cases h <;> exact Function.update_self ..

/-- Nothing else is new. -/
theorem Noted.of_ne (h : Noted cap now k held held') {j : κ} (hj : j ≠ k) {t : ℕ}
    (hheld : held' j = some t) : held j = some t := by
  cases h with
  | update _ | insert _ => rwa [Function.update_of_ne hj] at hheld
  | @replace oldest _ _ _ _ =>
    rw [Function.update_of_ne hj] at hheld
    by_cases hoth : j = oldest
    · rw [hoth, Function.update_self] at hheld
      cases hheld
    · rwa [Function.update_of_ne hoth] at hheld

/-- A crowd is not thinned out. -/
theorem Noted.crowded (h : Noted cap now k held held') {t : ℕ} (ht : t ≤ now)
    (hcrowded : Crowded cap t held) : Crowded cap t held' := by
  obtain ⟨s, hcard, hs⟩ := hcrowded
  cases h with
  | update _ | insert _ =>
    refine ⟨s, hcard, fun j hj => ?_⟩
    by_cases hjk : j = k
    · rw [hjk, Function.update_self]
      exact ⟨now, rfl, ht⟩
    · rw [Function.update_of_ne hjk]
      exact hs j hj
  | @replace oldest _ hnone _ _ =>
    have hk : k ∉ s := by
      intro hk
      obtain ⟨u, hu, -⟩ := hs k hk
      rw [hnone] at hu
      cases hu
    refine ⟨Insert.insert k (s.erase oldest), ?_, fun j hj => ?_⟩
    · rw [Finset.card_insert_of_notMem fun hmem => hk (Finset.mem_of_mem_erase hmem)]
      have herase := Finset.pred_card_le_card_erase (s := s) (a := oldest)
      omega
    · by_cases hjk : j = k
      · rw [hjk, Function.update_self]
        exact ⟨now, rfl, ht⟩
      · have hj : j ∈ s.erase oldest := (Finset.mem_insert.1 hj).resolve_left hjk
        rw [Function.update_of_ne hjk, Function.update_of_ne (Finset.ne_of_mem_erase hj)]
        exact hs j (Finset.mem_of_mem_erase hj)

theorem Noted.bounded (h : Noted cap now k held held') (hbounded : ∀ s, AllHeld held s → s.card ≤ cap)
    (s : Finset κ) (hs : AllHeld held' s) : s.card ≤ cap := by
  have hrest : AllHeld held (s.erase k) := by
    intro j hj
    obtain ⟨t, ht⟩ := hs j (Finset.mem_of_mem_erase hj)
    exact ⟨t, h.of_ne (Finset.ne_of_mem_erase hj) ht⟩
  have herase := Finset.pred_card_le_card_erase (s := s) (a := k)
  cases h with
  | @update t hk =>
    refine hbounded s fun j hj => ?_
    by_cases hjk : j = k
    · exact ⟨t, by rw [hjk, hk]⟩
    · exact hrest j (Finset.mem_erase.2 ⟨hjk, hj⟩)
  | insert hroom =>
    have hlt := hroom _ hrest
    omega
  | @replace oldest t _ holdest _ =>
    -- the oldest key was held beside the others
    have hgone : oldest ∉ s.erase k := by
      intro hmem
      obtain ⟨u, hu⟩ := hs oldest (Finset.mem_of_mem_erase hmem)
      rw [Function.update_of_ne (Finset.ne_of_mem_erase hmem), Function.update_self] at hu
      cases hu
    have hle := hbounded (Insert.insert oldest (s.erase k)) fun j hj => by
      rcases Finset.mem_insert.1 hj with rfl | hj
      · exact ⟨t, holdest⟩
      · exact hrest j hj
    rw [Finset.card_insert_of_notMem hgone] at hle
    omega

/-- A key is heard. -/
theorem Recalls.hear (h : Recalls cap window now heard held) (hk : Noted cap now k held held') :
    Recalls cap window now (Function.update heard k (some now)) held' where
  bounded := hk.bounded h.bounded
  noted j t hj := by
    by_cases hjk : j = k
    · subst hjk
      rw [Function.update_self, ← hj, hk.self]
    · rw [Function.update_of_ne hjk]
      exact h.noted j t (hk.of_ne hjk hj)
  forgotten j t hj hnone := by
    have hjk : j ≠ k := by
      rintro rfl
      rw [hk.self] at hnone
      cases hnone
    rw [Function.update_of_ne hjk] at hj
    cases hheld : held j with
    | none =>
      rcases h.forgotten j t hj hheld with hstale | hcrowded
      · exact Or.inl hstale
      · exact Or.inr (hk.crowded (h.past j t hj) hcrowded)
    | some u =>
      -- it was forgotten just now, when it was among the oldest
      have hu : u = t := Option.some.inj ((h.noted j u hheld).symm.trans hj)
      refine Or.inr (hk.crowded (h.past j t hj) ?_)
      cases hk with
      | update _ | insert _ =>
        rw [Function.update_of_ne hjk, hheld] at hnone
        cases hnone
      | @replace oldest t' _ holdest hcrowded =>
        rw [Function.update_of_ne hjk] at hnone
        by_cases hold : j = oldest
        · have ht : t' = u := Option.some.inj (holdest.symm.trans (hold ▸ hheld))
          rwa [ht, hu] at hcrowded
        · rw [Function.update_of_ne hold, hheld] at hnone
          cases hnone
  past j t hj := by
    by_cases hjk : j = k
    · rw [hjk, Function.update_self] at hj
      exact (Option.some.inj hj).ge
    · rw [Function.update_of_ne hjk] at hj
      exact h.past j t hj

end Hear

/-! ## What is held -/

theorem notMem_of_held_none {k : κ} {s : Finset κ} {t : ℕ} (hk : held k = none)
    (hs : ∀ j ∈ s, ∃ u, held j = some u ∧ t ≤ u) : k ∉ s := by
  intro hmem
  obtain ⟨u, hu, -⟩ := hs k hmem
  rw [hk] at hu
  cases hu

namespace Recalls

/-- While fewer than `cap` others were heard since, a key is held. -/
theorem held_of_few (h : Recalls cap window now heard held) {k : κ} {t : ℕ} (hk : heard k = some t)
    (hfresh : now - t ≤ window)
    (hfew : ∀ s : Finset κ, (∀ j ∈ s, j ≠ k ∧ ∃ u, heard j = some u ∧ t ≤ u) → s.card < cap) :
    held k = some t := by
  cases hheld : held k with
  | some u =>
    have hu : u = t := Option.some.inj ((h.noted k u hheld).symm.trans hk)
    rw [hu]
  | none =>
    rcases h.forgotten k t hk hheld with hstale | ⟨s, hcard, hs⟩
    · omega
    · have hlt := hfew s fun j hj => by
        obtain ⟨u, hu, hle⟩ := hs j hj
        refine ⟨?_, u, h.noted j u hu, hle⟩
        rintro rfl
        exact notMem_of_held_none hheld hs hj
      omega

/-- Once `cap` others were heard later, it is not held any more. -/
theorem few_of_held [DecidableEq κ] (h : Recalls cap window now heard held) {k : κ} {t : ℕ}
    (hk : held k = some t) (hfresh : now - t ≤ window) {s : Finset κ}
    (hs : ∀ j ∈ s, ∃ u, heard j = some u ∧ t < u) : s.card < cap := by
  -- `cap` keys held since later would be held beside `k`
  have hnone : ¬ Crowded cap (t + 1) held := by
    rintro ⟨s', hcard, hs'⟩
    have hk' : k ∉ s' := by
      intro hmem
      obtain ⟨u, hu, hlt⟩ := hs' k hmem
      have hut : u = t := Option.some.inj (hu.symm.trans hk)
      omega
    have hle := h.bounded (Insert.insert k s') fun j hj => by
      rcases Finset.mem_insert.1 hj with rfl | hj
      · exact ⟨t, hk⟩
      · exact (hs' j hj).imp fun u hu => hu.1
    rw [Finset.card_insert_of_notMem hk'] at hle
    omega
  by_contra hcard
  refine hnone ⟨s, not_lt.1 hcard, fun j hj => ?_⟩
  obtain ⟨u, hu, hlt⟩ := hs j hj
  cases hheld : held j with
  | some v =>
    have hv : v = u := Option.some.inj ((h.noted j v hheld).symm.trans hu)
    exact ⟨v, rfl, by omega⟩
  | none =>
    rcases h.forgotten j u hu hheld with hstale | hcrowded
    · omega
    · exact absurd (hcrowded.mono hlt) hnone

end Recalls

/-- What is shown was heard within the window and not followed by `cap` others, and what was
heard within the window and not followed by so many is shown.  Of keys heard at the same time
either may be the one that is dropped. -/
structure ShowsRecent (cap window now : ℕ) (heard : κ → Option ℕ) (shown : κ → Prop) : Prop where
  sound : ∀ k, shown k → ∃ t, heard k = some t ∧ now - t ≤ window ∧
    ∀ s : Finset κ, (∀ j ∈ s, ∃ u, heard j = some u ∧ t < u) → s.card < cap
  complete : ∀ k t, heard k = some t → now - t ≤ window →
    (∀ s : Finset κ, (∀ j ∈ s, j ≠ k ∧ ∃ u, heard j = some u ∧ t ≤ u) → s.card < cap) → shown k

theorem Recalls.showsRecent [DecidableEq κ] (h : Recalls cap window now heard held) :
    ShowsRecent cap window now heard (Recent window now held) where
  sound := by
    rintro k ⟨t, hk, hfresh⟩
    exact ⟨t, h.noted k t hk, hfresh, fun s hs => h.few_of_held hk hfresh hs⟩
  complete _ t hk hfresh hfew := ⟨t, h.held_of_few hk hfresh hfew, hfresh⟩

namespace ShowsRecent

variable {shown : κ → Prop}

/-- While at most `cap` keys are heard within the window, they are the ones that are shown. -/
theorem iff [DecidableEq κ] (h : ShowsRecent cap window now heard shown)
    (hfew : ∀ s : Finset κ, (∀ j ∈ s, Recent window now heard j) → s.card ≤ cap) (k : κ) :
    shown k ↔ Recent window now heard k := by
  constructor
  · intro hk
    obtain ⟨t, ht, hfresh, -⟩ := h.sound k hk
    exact ⟨t, ht, hfresh⟩
  · rintro ⟨t, hk, hfresh⟩
    refine h.complete k t hk hfresh fun s hs => ?_
    have hk' : k ∉ s := fun hmem => (hs k hmem).1 rfl
    have hle := hfew (Insert.insert k s) fun j hj => by
      rcases Finset.mem_insert.1 hj with rfl | hj
      · exact ⟨t, hk, hfresh⟩
      · obtain ⟨-, u, hu, hle⟩ := hs j hj
        exact ⟨u, hu, by omega⟩
    rw [Finset.card_insert_of_notMem hk'] at hle
    omega

end ShowsRecent

/-! ## Lists of entries -/

section Entries

variable {α : Type} [DecidableEq κ] (key : α → κ) (age : α → ℕ)

/-- The age of the entry with this key. -/
def ages (l : List α) (k : κ) : Option ℕ := (l.find? fun a => key a = k).map age

variable {key age} {l : List α}

theorem exists_mem_of_ages {k : κ} {t : ℕ} (h : ages key age l k = some t) :
    ∃ a ∈ l, key a = k ∧ age a = t := by
  obtain ⟨a, hfind, ht⟩ := Option.map_eq_some_iff.1 h
  exact ⟨a, List.mem_of_find?_eq_some hfind, by simpa using List.find?_some hfind, ht⟩

theorem ages_of_mem (hl : (l.map key).Nodup) {a : α} (ha : a ∈ l) :
    ages key age l (key a) = some (age a) := by
  cases hfind : l.find? fun b => key b = key a with
  | none => exact absurd (List.find?_eq_none.1 hfind a ha) (by simp)
  | some b =>
    have hb : b = a := List.inj_on_of_nodup_map hl (List.mem_of_find?_eq_some hfind) ha
      (by simpa using List.find?_some hfind)
    rw [ages, hfind, hb]
    rfl

theorem ages_eq_none_iff {k : κ} : ages key age l k = none ↔ ∀ a ∈ l, key a ≠ k := by
  rw [ages, Option.map_eq_none_iff, List.find?_eq_none]
  simp

/-- An entry has come, or has changed, and the others are what they were. -/
theorem ages_eq_update {l' : List α} (hl' : (l'.map key).Nodup) {a : α}
    (ha : a ∈ l') (hother : ∀ b, key b ≠ key a → (b ∈ l' ↔ b ∈ l)) :
    ages key age l' = Function.update (ages key age l) (key a) (some (age a)) := by
  funext j
  by_cases hj : j = key a
  · rw [hj, Function.update_self]
    exact ages_of_mem hl' ha
  · rw [Function.update_of_ne hj]
    cases hages : ages key age l j with
    | none =>
      refine ages_eq_none_iff.2 fun b hb hbj => ?_
      exact ages_eq_none_iff.1 hages b ((hother b (hbj ▸ hj)).1 hb) hbj
    | some t =>
      obtain ⟨b, hb, rfl, rfl⟩ := exists_mem_of_ages hages
      exact ages_of_mem hl' ((hother b hj).2 hb)

/-- An entry has gone. -/
theorem ages_erase {pre post : List α} {a : α} (hl : ((pre ++ a :: post).map key).Nodup) :
    ages key age (pre ++ post) = Function.update (ages key age (pre ++ a :: post)) (key a) none := by
  have hperm : (pre ++ a :: post).Perm (a :: (pre ++ post)) := List.perm_middle
  have hnodup := (hperm.map key).nodup_iff.1 hl
  rw [List.map_cons, List.nodup_cons] at hnodup
  funext j
  by_cases hj : j = key a
  · rw [hj, Function.update_self]
    exact ages_eq_none_iff.2 fun b hb hba => hnodup.1 (List.mem_map.2 ⟨b, hb, hba⟩)
  · rw [Function.update_of_ne hj]
    cases hages : ages key age (pre ++ a :: post) j with
    | none =>
      refine ages_eq_none_iff.2 fun b hb => ages_eq_none_iff.1 hages b ?_
      exact hperm.mem_iff.2 (List.mem_cons_of_mem _ hb)
    | some t =>
      obtain ⟨b, hb, rfl, rfl⟩ := exists_mem_of_ages hages
      refine ages_of_mem hnodup.2 ((List.mem_cons.1 (hperm.mem_iff.1 hb)).resolve_left ?_)
      rintro rfl
      exact hj rfl

theorem card_le_length {s : Finset κ} (hs : AllHeld (ages key age l) s) : s.card ≤ l.length := by
  have hsub : s ⊆ (l.map key).toFinset := by
    intro k hk
    obtain ⟨t, ht⟩ := hs k hk
    obtain ⟨a, ha, hkey, -⟩ := exists_mem_of_ages ht
    exact List.mem_toFinset.2 (List.mem_map.2 ⟨a, ha, hkey⟩)
  have hcard := (Finset.card_le_card hsub).trans (List.toFinset_card_le _)
  rwa [List.length_map] at hcard

theorem card_toFinset_keys (hl : (l.map key).Nodup) : (l.map key).toFinset.card = l.length := by
  rw [List.toFinset_card_of_nodup hl, List.length_map]

/-- Entries that are older than the window are dropped. -/
theorem recalls_filter {window now : ℕ} {heard : κ → Option ℕ} {cap : ℕ} (hl : (l.map key).Nodup)
    (h : Recalls cap window now heard (ages key age l)) {p : α → Bool}
    (hp : ∀ a ∈ l, p a = false → window < now - age a) :
    Recalls cap window now heard (ages key age (l.filter p)) := by
  refine h.prune (fun k t hk => ?_) fun k t hk hnone => ?_
  · obtain ⟨a, ha, rfl, rfl⟩ := exists_mem_of_ages hk
    exact ages_of_mem hl (List.mem_of_mem_filter ha)
  · obtain ⟨a, ha, rfl, rfl⟩ := exists_mem_of_ages hk
    refine hp a ha (Bool.eq_false_iff.2 fun hkept => ?_)
    exact ages_eq_none_iff.1 hnone a (List.mem_filter.2 ⟨ha, hkept⟩) rfl

/-- An update of a list of entries notes its key, if it dates the entry. -/
theorem noted_of_upserted {cap now : ℕ} {k : κ} {l' : List α}
    (h : KeyedStore.Upserted key age cap k l l') (hl : (l.map key).Nodup)
    (hnow : ∀ a ∈ l', key a = k → age a = now) : Noted cap now k (ages key age l) (ages key age l') := by
  have hl' := h.nodup hl
  cases h with
  | @update pre post a a' ha ha' =>
    rw [ages_eq_update hl' (a := a') (by simp) ?_, ha', hnow a' (by simp) ha']
    · refine Noted.update (t := age a) ?_
      rw [← ha]
      exact ages_of_mem hl (by simp)
    · intro b hb
      have hba' : b ≠ a' := fun h => hb (by rw [h])
      have hba : b ≠ a := fun h => hb (by rw [h, ha, ha'])
      simp [hba, hba']
  | @insert _ a hnone ha hlt =>
    rw [ages_eq_update hl' (a := a) (by simp) ?_, ha, hnow a (by simp) ha]
    · exact Noted.insert fun s hs => (card_le_length hs).trans_lt hlt
    · intro b hb
      have hba : b ≠ a := fun h => hb (by rw [h])
      simp [hba]
  | @replace pre post oldest a hnone ha hfull hold =>
    rw [ages_eq_update hl' (a := a) (by simp) ?_, ages_erase hl, ha, hnow a (by simp) ha]
    · refine Noted.replace (ages_eq_none_iff.2 hnone) (ages_of_mem hl (by simp))
        ⟨((pre ++ oldest :: post).map key).toFinset, ?_, ?_⟩
      · rwa [card_toFinset_keys hl]
      · intro j hj
        obtain ⟨b, hb, rfl⟩ := List.mem_map.1 (List.mem_toFinset.1 hj)
        exact ⟨age b, ages_of_mem hl hb, hold b hb⟩
    · intro b hb
      have hba : b ≠ a := fun h => hb (by rw [h])
      simp [hba]

end Entries

/-! ## Tables of slots -/

section Slots

open SlotTable

variable {α : Type} {n : ℕ} [DecidableEq κ] (occupied : α → Bool) (key : α → κ) (age : α → ℕ)

/-- The age of the slot in use for this key. -/
def slotAges (table : Fin n → α) (k : κ) : Option ℕ :=
  (Fin.find? fun i => occupied (table i) && key (table i) = k).map fun i => age (table i)

/-- The slots that may be given to a key: its own, or a free one, or one that was heard longest ago. -/
inductive Given (table : Fin n → α) (k : κ) (i : Fin n) : Prop where
  | own : occupied (table i) → key (table i) = k → Given table k i
  | free : ¬ HasKey occupied key table k → occupied (table i) = false → Given table k i
  | oldest : ¬ HasKey occupied key table k → (∀ j, occupied (table j)) →
      (∀ j, age (table i) ≤ age (table j)) → Given table k i

/-- The first slot of those heard longest ago, found by a scan. -/
def leastRecent {β : Type} [LinearOrder β] (seen : Fin n → β) (slot : Fin n) (rest : List (Fin n)) : Fin n :=
  rest.foldl (fun slot i => if seen i < seen slot then i else slot) slot

variable {occupied key age} {table : Fin n → α} {k : κ} {t : ℕ}

theorem leastRecent_le {β : Type} [LinearOrder β] (seen : Fin n → β) (slot : Fin n) (rest : List (Fin n)) :
    ∀ i ∈ slot :: rest, seen (leastRecent seen slot rest) ≤ seen i := by
  induction rest generalizing slot with
  | nil => simp [leastRecent]
  | cons j rest ih =>
    rw [leastRecent, List.foldl_cons]
    intro i hi
    by_cases hlt : seen j < seen slot
    · rw [if_pos hlt]
      rcases List.mem_cons.1 hi with rfl | hi
      · exact (ih j j (List.mem_cons_self ..)).trans hlt.le
      · exact ih j i hi
    · rw [if_neg hlt]
      rcases List.mem_cons.1 hi with rfl | hi
      · exact ih i i (List.mem_cons_self ..)
      · rcases List.mem_cons.1 hi with rfl | hi
        · exact (ih slot slot (List.mem_cons_self ..)).trans (not_lt.1 hlt)
        · exact ih slot i (List.mem_cons_of_mem _ hi)

theorem exists_of_slotAges (h : slotAges occupied key age table k = some t) :
    ∃ i, occupied (table i) ∧ key (table i) = k ∧ age (table i) = t := by
  obtain ⟨i, hfind, ht⟩ := Option.map_eq_some_iff.1 h
  have hi := (Fin.find?_eq_some_iff.1 hfind).1
  simp only [Bool.and_eq_true, decide_eq_true_eq] at hi
  exact ⟨i, hi.1, hi.2, ht⟩

theorem slotAges_of_occupied (hd : Distinct occupied key table) {i : Fin n} (hi : occupied (table i)) :
    slotAges occupied key age table (key (table i)) = some (age (table i)) := by
  cases hfind : Fin.find? fun j => occupied (table j) && key (table j) = key (table i) with
  | none =>
    have hfalse := Fin.find?_eq_none_iff.1 hfind i
    simp [hi] at hfalse
  | some j =>
    have hj := (Fin.find?_eq_some_iff.1 hfind).1
    simp only [Bool.and_eq_true, decide_eq_true_eq] at hj
    rw [slotAges, hfind, hd j i hj.1 hi hj.2]
    rfl

theorem slotAges_eq_none_iff :
    slotAges occupied key age table k = none ↔ ¬ HasKey occupied key table k := by
  rw [slotAges, Option.map_eq_none_iff, Fin.find?_eq_none_iff]
  simp [HasKey]

theorem slotAges_eq_some_iff (hd : Distinct occupied key table) : slotAges occupied key age table k = some t ↔
    ∃ i, occupied (table i) ∧ key (table i) = k ∧ age (table i) = t := by
  refine ⟨exists_of_slotAges, ?_⟩
  rintro ⟨i, hi, rfl, rfl⟩
  exact slotAges_of_occupied hd hi

/-- What is in the other slots shows as before. -/
theorem slotAges_update_of_ne (hd : Distinct occupied key table) {i : Fin n} {a : α}
    (hd' : Distinct occupied key (Function.update table i a)) (hk : k ≠ key a)
    (hi : occupied (table i) → key (table i) ≠ k) :
    slotAges occupied key age (Function.update table i a) k = slotAges occupied key age table k := by
  ext t
  rw [slotAges_eq_some_iff hd', slotAges_eq_some_iff hd]
  refine exists_congr fun j => ?_
  by_cases hj : j = i
  · rw [hj, Function.update_self]
    constructor
    · rintro ⟨-, hkey, -⟩
      exact absurd hkey.symm hk
    · rintro ⟨hoccupied, hkey, -⟩
      exact absurd hkey (hi hoccupied)
  · rw [Function.update_of_ne hj]

theorem slotAges_update_self {i : Fin n} {a : α} (ha : occupied a)
    (hd' : Distinct occupied key (Function.update table i a)) :
    slotAges occupied key age (Function.update table i a) (key a) = some (age a) := by
  rw [slotAges_eq_some_iff hd']
  exact ⟨i, by rw [Function.update_self]; exact ⟨ha, rfl, rfl⟩⟩

/-- A key takes its own slot, or a free one. -/
theorem slotAges_update (hd : Distinct occupied key table) {i : Fin n} {a : α} (ha : occupied a)
    (hd' : Distinct occupied key (Function.update table i a))
    (hi : occupied (table i) → key (table i) = key a) :
    slotAges occupied key age (Function.update table i a) =
      Function.update (slotAges occupied key age table) (key a) (some (age a)) := by
  funext j
  by_cases hj : j = key a
  · rw [hj, Function.update_self]
    exact slotAges_update_self ha hd'
  · rw [Function.update_of_ne hj]
    exact slotAges_update_of_ne hd hd' hj fun hoccupied hkey => hj (hkey ▸ hi hoccupied)

/-- A key takes the slot of another one. -/
theorem slotAges_replace (hd : Distinct occupied key table) {i : Fin n} {a : α} (ha : occupied a)
    (hd' : Distinct occupied key (Function.update table i a)) (hi : occupied (table i))
    (hne : key (table i) ≠ key a) :
    slotAges occupied key age (Function.update table i a) =
      Function.update (Function.update (slotAges occupied key age table) (key (table i)) none) (key a)
        (some (age a)) := by
  funext j
  by_cases hj : j = key a
  · rw [hj, Function.update_self]
    exact slotAges_update_self ha hd'
  · rw [Function.update_of_ne hj]
    by_cases hold : j = key (table i)
    · rw [hold, Function.update_self, slotAges_eq_none_iff]
      rintro ⟨l, hl, hkey⟩
      by_cases hli : l = i
      · rw [hli, Function.update_self] at hkey
        exact hne hkey.symm
      · rw [Function.update_of_ne hli] at hl hkey
        exact hli (hd l i hl hi hkey)
    · rw [Function.update_of_ne hold]
      exact slotAges_update_of_ne hd hd' hj fun _ hkey => hold hkey.symm

/-- Fewer keys are held than there are slots, while one is free. -/
theorem card_lt_of_free {i : Fin n} (hi : occupied (table i) = false) {s : Finset κ}
    (hs : AllHeld (slotAges occupied key age table) s) : s.card < n := by
  have hsub : s ⊆ (Finset.univ.erase i).image fun j => key (table j) := by
    intro k hk
    obtain ⟨t, ht⟩ := hs k hk
    obtain ⟨j, hj, hkey, -⟩ := exists_of_slotAges ht
    refine Finset.mem_image.2 ⟨j, Finset.mem_erase.2 ⟨?_, Finset.mem_univ j⟩, hkey⟩
    rintro rfl
    rw [hi] at hj
    cases hj
  have hcard := (Finset.card_le_card hsub).trans Finset.card_image_le
  rw [Finset.card_erase_of_mem (Finset.mem_univ i), Finset.card_univ, Fintype.card_fin] at hcard
  have hpos := i.pos
  omega

theorem crowded_of_full (hd : Distinct occupied key table) (hfull : ∀ j, occupied (table j)) {i : Fin n}
    (hold : ∀ j, age (table i) ≤ age (table j)) :
    Crowded n (age (table i)) (slotAges occupied key age table) := by
  refine ⟨Finset.univ.image fun j => key (table j), ?_, fun k hk => ?_⟩
  · rw [Finset.card_image_of_injective _ fun j l => hd j l (hfull j) (hfull l), Finset.card_univ,
      Fintype.card_fin]
  · obtain ⟨j, -, rfl⟩ := Finset.mem_image.1 hk
    exact ⟨age (table j), slotAges_of_occupied hd (hfull j), hold j⟩

omit [DecidableEq κ] in
/-- No other slot has the key that a slot is given to. -/
theorem Given.distinct (h : Given occupied key age table k i) (hd : Distinct occupied key table) {a : α}
    (hkey : key a = k) : Distinct occupied key (Function.update table i a) := by
  refine hd.update fun j hj hoccupied hjk => ?_
  rw [hkey] at hjk
  cases h with
  | own hi hik => exact hj (hd j i hoccupied hi (hjk.trans hik.symm))
  | free hnew _ | oldest hnew _ _ => exact hnew ⟨j, hoccupied, hjk⟩

/-- A table notes a key in a slot that is given to it. -/
theorem noted_update {now : ℕ} {i : Fin n} {a : α} (hd : Distinct occupied key table)
    (h : Given occupied key age table k i) (ha : occupied a) (hkey : key a = k) (hage : age a = now) :
    Noted n now k (slotAges occupied key age table)
      (slotAges occupied key age (Function.update table i a)) := by
  have hd' := h.distinct hd hkey
  cases h with
  | own hi hik =>
    rw [slotAges_update hd ha hd' fun _ => hik.trans hkey.symm, hkey, hage]
    refine Noted.update (t := age (table i)) ?_
    rw [← hik]
    exact slotAges_of_occupied hd hi
  | free hnew hi =>
    have hunused : occupied (table i) → key (table i) = key a := by
      intro hoccupied
      rw [hi] at hoccupied
      cases hoccupied
    rw [slotAges_update hd ha hd' hunused, hkey, hage]
    exact Noted.insert fun s hs => card_lt_of_free hi hs
  | oldest hnew hfull hold =>
    have hne : key (table i) ≠ key a := by
      rw [hkey]
      exact fun hik => hnew ⟨i, hfull i, hik⟩
    rw [slotAges_replace hd ha hd' (hfull i) hne, hkey, hage]
    exact Noted.replace (slotAges_eq_none_iff.2 hnew) (slotAges_of_occupied hd (hfull i))
      (crowded_of_full hd hfull hold)

end Slots

end RecentStore
