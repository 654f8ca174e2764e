import Mathlib

/-!
# Small keyed stores

A list of entries with a key and an age, of which at most `cap` are kept.  A new
entry replaces the oldest one when the list is full; an entry whose key is there
already is changed in place.

* `upsert` — the operation, and `Upserted` — all it can do to a list;
* `Upserted.nodup`, `Upserted.length_le`, `Upserted.forall_key` — what it keeps;
* `mem_upsert`, `exists_mem_upsert`, `find?_upsert` — the entries afterwards.
-/

namespace KeyedStore

variable {α κ : Type} (key : α → κ) (age : α → ℕ) (cap : ℕ)

/-- Change the first element that has the property. -/
def updateFirst (p : α → Bool) (f : α → α) : List α → List α
  | [] => []
  | a :: l => if p a then f a :: l else a :: updateFirst p f l

/-- Make room by dropping the first of the oldest entries. -/
def evictIfFull [DecidableEq α] (l : List α) : List α :=
  if cap ≤ l.length then
    match l.argmin age with
    | some oldest => l.erase oldest
    | none => l
  else l

/-- Change the entry with key `k`, or add `fresh`. -/
def upsert [DecidableEq α] [DecidableEq κ] (k : κ) (f : α → α) (fresh : α) (l : List α) : List α :=
  if l.any fun a => key a = k then updateFirst (fun a => key a = k) f l
  else evictIfFull age cap l ++ [fresh]

/-- What an update for key `k` can do. -/
inductive Upserted (k : κ) : List α → List α → Prop where
  | update {pre post : List α} {a a' : α} : key a = k → key a' = k →
      Upserted k (pre ++ a :: post) (pre ++ a' :: post)
  | insert {l : List α} {a : α} : (∀ b ∈ l, key b ≠ k) → key a = k → l.length < cap →
      Upserted k l (l ++ [a])
  | replace {pre post : List α} {oldest a : α} : (∀ b ∈ pre ++ oldest :: post, key b ≠ k) →
      key a = k → cap ≤ (pre ++ oldest :: post).length →
      (∀ b ∈ pre ++ oldest :: post, age oldest ≤ age b) →
      Upserted k (pre ++ oldest :: post) (pre ++ post ++ [a])

variable {key age cap}

theorem updateFirst_split {p : α → Bool} (f : α → α) {l : List α} (h : l.any p) :
    ∃ pre a post, l = pre ++ a :: post ∧ p a ∧ updateFirst p f l = pre ++ f a :: post := by
  induction l with
  | nil => cases h
  | cons a l ih =>
    rw [updateFirst]
    by_cases ha : p a
    · exact ⟨[], a, l, rfl, ha, by rw [if_pos ha]; rfl⟩
    · obtain ⟨pre, b, post, hl, hb, hupd⟩ := ih (by simpa [ha] using h)
      exact ⟨a :: pre, b, post, by rw [hl]; rfl, hb, by rw [if_neg ha, hupd]; rfl⟩

theorem evictIfFull_split (age : α → ℕ) [DecidableEq α] {l : List α} (hfull : cap ≤ l.length) (hcap : 0 < cap) :
    ∃ pre oldest post, l = pre ++ oldest :: post ∧ (∀ b ∈ l, age oldest ≤ age b) ∧
      evictIfFull age cap l = pre ++ post := by
  have hne : l.argmin age ≠ none := by
    rw [Ne, List.argmin_eq_none]
    rintro rfl
    rw [List.length_nil] at hfull
    omega
  obtain ⟨oldest, holdest⟩ := Option.ne_none_iff_exists'.1 hne
  have hmem := List.argmin_mem holdest
  obtain ⟨pre, post, _, hsplit, herase⟩ := List.exists_erase_eq hmem
  refine ⟨pre, oldest, post, hsplit, fun b hb => List.le_of_mem_argmin hb holdest, ?_⟩
  rw [evictIfFull, if_pos hfull, holdest]
  exact herase

theorem upserted_upsert [DecidableEq α] [DecidableEq κ] {k : κ} {f : α → α} {fresh : α} (hcap : 0 < cap)
    (hf : ∀ a, key a = k → key (f a) = k) (hfresh : key fresh = k) (l : List α) :
    Upserted key age cap k l (upsert key age cap k f fresh l) := by
  rw [upsert]
  split
  · rename_i hany
    obtain ⟨pre, a, post, hl, ha, hupd⟩ := updateFirst_split f hany
    have ha : key a = k := by simpa using ha
    rw [hupd, hl]
    exact Upserted.update ha (hf a ha)
  · rename_i hnone
    have hnone : ∀ b ∈ l, key b ≠ k := by simpa using hnone
    by_cases hfull : cap ≤ l.length
    · obtain ⟨pre, oldest, post, hl, hage, hevict⟩ := evictIfFull_split age hfull hcap
      rw [hevict, hl]
      rw [hl] at hnone hfull hage
      exact Upserted.replace hnone hfresh hfull hage
    · rw [evictIfFull, if_neg hfull]
      exact Upserted.insert hnone hfresh (Nat.lt_of_not_le hfull)

/-! ## What an update keeps -/

theorem nodup_append_singleton {l : List α} {a : α} (hl : (l.map key).Nodup)
    (ha : ∀ b ∈ l, key b ≠ key a) : ((l ++ [a]).map key).Nodup := by
  rw [List.map_append, List.nodup_append]
  refine ⟨hl, by simp, ?_⟩
  rintro _ hmem _ hsingle rfl
  obtain ⟨b, hb, hkey⟩ := List.mem_map.1 hmem
  simp only [List.map_cons, List.map_nil, List.mem_singleton] at hsingle
  exact ha b hb (hkey.trans hsingle)

/-- Keys stay different from each other. -/
theorem Upserted.nodup {k : κ} {l l' : List α} (h : Upserted key age cap k l l')
    (hl : (l.map key).Nodup) : (l'.map key).Nodup := by
  cases h with
  | update ha ha' =>
    rw [List.map_append, List.map_cons, ha] at hl
    rw [List.map_append, List.map_cons, ha']
    exact hl
  | insert hnone ha _ => exact nodup_append_singleton hl (by rwa [ha])
  | @replace pre post oldest a hnone ha _ _ =>
    have hsub : (pre ++ post).Sublist (pre ++ oldest :: post) :=
      (List.Sublist.refl pre).append (List.sublist_cons_self ..)
    refine nodup_append_singleton (hl.sublist (hsub.map key)) ?_
    intro b hb
    rw [ha]
    exact hnone b (hsub.subset hb)

/-- The capacity is kept. -/
theorem Upserted.length_le {k : κ} {l l' : List α} (h : Upserted key age cap k l l')
    (hl : l.length ≤ cap) : l'.length ≤ cap := by
  cases h with
  | update _ _ => simpa using hl
  | insert _ _ hlt => simpa using hlt
  | replace _ _ _ _ =>
    simp only [List.length_append, List.length_cons, List.length_nil] at hl ⊢
    omega

/-- The only new key is `k`. -/
theorem Upserted.forall_key {k : κ} {l l' : List α} (h : Upserted key age cap k l l')
    {P : κ → Prop} (hl : ∀ a ∈ l, P (key a)) (hk : P k) : ∀ a ∈ l', P (key a) := by
  cases h with
  | @update pre post a a' _ ha' =>
    intro b hb
    rcases List.mem_append.1 hb with hb | hb
    · exact hl b (List.mem_append_left _ hb)
    · rcases List.mem_cons.1 hb with rfl | hb
      · rwa [ha']
      · exact hl b (List.mem_append_right _ (List.mem_cons_of_mem _ hb))
  | insert _ ha _ =>
    intro b hb
    rcases List.mem_append.1 hb with hb | hb
    · exact hl b hb
    · rw [List.mem_singleton.1 hb, ha]
      exact hk
  | replace _ ha _ _ =>
    intro b hb
    rcases List.mem_append.1 hb with hb | hb
    · rcases List.mem_append.1 hb with hb | hb
      · exact hl b (List.mem_append_left _ hb)
      · exact hl b (List.mem_append_right _ (List.mem_cons_of_mem _ hb))
    · rw [List.mem_singleton.1 hb, ha]
      exact hk

/-! ## The entries afterwards -/

theorem mem_updateFirst [DecidableEq κ] {k : κ} {f : α → α} {l : List α} (hl : (l.map key).Nodup) {a : α}
    (h : a ∈ updateFirst (fun b => key b = k) f l) :
    (a ∈ l ∧ key a ≠ k) ∨ ∃ b ∈ l, key b = k ∧ a = f b := by
  induction l with
  | nil => cases h
  | cons b l ih =>
    rw [List.map_cons, List.nodup_cons] at hl
    obtain ⟨hb, hl⟩ := hl
    rw [updateFirst] at h
    split at h
    · rename_i hkey
      have hkey : key b = k := by simpa using hkey
      rcases List.mem_cons.1 h with rfl | h
      · exact Or.inr ⟨b, List.mem_cons_self .., hkey, rfl⟩
      · refine Or.inl ⟨List.mem_cons_of_mem _ h, fun ha => hb ?_⟩
        exact List.mem_map.2 ⟨a, h, ha.trans hkey.symm⟩
    · rename_i hkey
      rcases List.mem_cons.1 h with rfl | h
      · exact Or.inl ⟨List.mem_cons_self .., by simpa using hkey⟩
      · rcases ih hl h with ⟨ha, hne⟩ | ⟨c, hc, hck, rfl⟩
        · exact Or.inl ⟨List.mem_cons_of_mem _ ha, hne⟩
        · exact Or.inr ⟨c, List.mem_cons_of_mem _ hc, hck, rfl⟩

theorem mem_of_mem_evictIfFull [DecidableEq α] {l : List α} {a : α} (h : a ∈ evictIfFull age cap l) : a ∈ l := by
  rw [evictIfFull] at h
  split at h
  · split at h
    · exact List.mem_of_mem_erase h
    · exact h
  · exact h

/-- An entry afterwards has another key and was there, is the changed one, or
is the new one. -/
theorem mem_upsert [DecidableEq α] [DecidableEq κ] {k : κ} {f : α → α} {fresh : α} {l : List α}
    (hl : (l.map key).Nodup) {a : α} (h : a ∈ upsert key age cap k f fresh l) :
    (a ∈ l ∧ key a ≠ k) ∨ (∃ b ∈ l, key b = k ∧ a = f b) ∨ a = fresh := by
  rw [upsert] at h
  split at h
  · rcases mem_updateFirst hl h with h | h
    · exact Or.inl h
    · exact Or.inr (Or.inl h)
  · rename_i hnone
    have hnone : ∀ b ∈ l, key b ≠ k := by simpa using hnone
    rcases List.mem_append.1 h with h | h
    · have ha := mem_of_mem_evictIfFull h
      exact Or.inl ⟨ha, hnone a ha⟩
    · exact Or.inr (Or.inr (List.mem_singleton.1 h))

/-- What holds of the entries still does, if the change keeps it and the new entry has it. -/
theorem forall_mem_upsert [DecidableEq α] [DecidableEq κ] {P : α → Prop} {k : κ} {f : α → α} {fresh : α}
    {l : List α} (hl : ∀ a ∈ l, P a) (hf : ∀ a, P a → key a = k → P (f a)) (hfresh : P fresh) :
    ∀ a ∈ upsert key age cap k f fresh l, P a := by
  intro a ha
  rw [upsert] at ha
  split at ha
  · rename_i hany
    obtain ⟨pre, b, post, rfl, hb, hupd⟩ := updateFirst_split f hany
    rw [hupd] at ha
    rcases List.mem_append.1 ha with ha | ha
    · exact hl a (List.mem_append_left _ ha)
    · rcases List.mem_cons.1 ha with rfl | ha
      · exact hf b (hl b (by simp)) (by simpa using hb)
      · exact hl a (List.mem_append_right _ (List.mem_cons_of_mem _ ha))
  · rcases List.mem_append.1 ha with ha | ha
    · exact hl a (mem_of_mem_evictIfFull ha)
    · rw [List.mem_singleton.1 ha]
      exact hfresh

/-- The entry with key `k` is there afterwards. -/
theorem exists_mem_upsert [DecidableEq α] [DecidableEq κ] (k : κ) (f : α → α) (fresh : α)
    (l : List α) : (∃ b ∈ l, key b = k ∧ f b ∈ upsert key age cap k f fresh l) ∨
      fresh ∈ upsert key age cap k f fresh l := by
  rw [upsert]
  split
  · rename_i hany
    obtain ⟨pre, a, post, hl, ha, hupd⟩ := updateFirst_split f hany
    refine Or.inl ⟨a, by rw [hl]; simp, by simpa using ha, ?_⟩
    rw [hupd]
    simp
  · exact Or.inr (List.mem_append_right _ (List.mem_singleton_self _))

theorem find?_updateFirst [DecidableEq κ] {k : κ} {f : α → α}
    (hf : ∀ a, key a = k → key (f a) = k) {l : List α} (h : l.any fun a => key a = k) :
    ∃ a ∈ l, key a = k ∧
      (updateFirst (fun a => key a = k) f l).find? (fun a => key a = k) = some (f a) := by
  induction l with
  | nil => cases h
  | cons a l ih =>
    rw [updateFirst]
    by_cases ha : key a = k
    · refine ⟨a, List.mem_cons_self .., ha, ?_⟩
      rw [if_pos (by simpa using ha), List.find?_cons_of_pos (by simpa using hf a ha)]
    · obtain ⟨b, hb, hkey, hfind⟩ := ih (by simpa [ha] using h)
      refine ⟨b, List.mem_cons_of_mem _ hb, hkey, ?_⟩
      rw [if_neg (by simpa using ha), List.find?_cons_of_neg (by simpa using ha), hfind]

/-- The entry that is found under the key. -/
theorem find?_upsert [DecidableEq α] [DecidableEq κ] {k : κ} {f : α → α} {fresh : α}
    (hf : ∀ a, key a = k → key (f a) = k) (hfresh : key fresh = k) (l : List α) :
    (∃ a ∈ l, key a = k ∧
      (upsert key age cap k f fresh l).find? (fun a => key a = k) = some (f a)) ∨
    (upsert key age cap k f fresh l).find? (fun a => key a = k) = some fresh := by
  rw [upsert]
  split
  · rename_i hany
    exact Or.inl (find?_updateFirst hf hany)
  · rename_i hnone
    have hnone : ∀ b ∈ l, key b ≠ k := by simpa using hnone
    refine Or.inr ?_
    rw [List.find?_append, List.find?_eq_none.2, Option.none_or,
      List.find?_cons_of_pos (by simpa using hfresh)]
    intro b hb
    simpa using hnone b (mem_of_mem_evictIfFull hb)

/-- Dropping other entries does not hide it. -/
theorem find?_filter_of_find? {p q : α → Bool} {l : List α} {a : α} (h : l.find? q = some a)
    (ha : p a = true) : (l.filter p).find? q = some a := by
  induction l with
  | nil => cases h
  | cons b l ih =>
    by_cases hb : q b = true
    · rw [List.find?_cons_of_pos hb] at h
      cases h
      rw [List.filter_cons_of_pos ha, List.find?_cons_of_pos hb]
    · rw [List.find?_cons_of_neg hb] at h
      by_cases hkept : p b = true
      · rw [List.filter_cons_of_pos hkept, List.find?_cons_of_neg hb, ih h]
      · rw [List.filter_cons_of_neg hkept, ih h]

end KeyedStore
