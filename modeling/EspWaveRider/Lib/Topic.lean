import EspWaveRider.Lib.Text

/-!
# Topics and topic filters

A topic is a text of levels with slashes between them; in a filter the level `+`
stands for any one level.

* `append_slash_inj` — a topic falls into its first level and the others in one way;
* `filterMatches` — the topics a filter selects;
* `IsTopicName` — the topics one may publish to;
* `filterMatches_plus_iff` — a filter with one `+` selects exactly the topics with a
  single level in its place.
-/

namespace Topic

/-! ## The first level -/

theorem slash_prefix_iff {s t rest : Str} (hs : '/' ∉ s) (ht : '/' ∉ t) :
    s ++ ['/'] <+: t ++ '/' :: rest ↔ s = t := by
  constructor
  · intro h
    induction s generalizing t with
    | nil =>
      cases t with
      | nil => rfl
      | cons d t =>
        rw [List.nil_append, List.cons_append, List.cons_prefix_cons] at h
        exact absurd (by rw [h.1]; exact List.mem_cons_self ..) ht
    | cons c s ih =>
      rw [List.mem_cons, not_or] at hs
      cases t with
      | nil =>
        rw [List.cons_append, List.nil_append, List.cons_prefix_cons] at h
        exact absurd h.1.symm hs.1
      | cons d t =>
        rw [List.mem_cons, not_or] at ht
        rw [List.cons_append, List.cons_append, List.cons_prefix_cons] at h
        rw [h.1, ih hs.2 ht.2 h.2]
  · rintro rfl
    exact ⟨rest, by simp⟩

theorem append_slash_inj {s t rest rest' : Str} (hs : '/' ∉ s) (ht : '/' ∉ t) :
    s ++ '/' :: rest = t ++ '/' :: rest' ↔ s = t ∧ rest = rest' := by
  constructor
  · intro h
    have hstarts : s ++ ['/'] <+: t ++ '/' :: rest' := ⟨rest, by rw [← h]; simp⟩
    obtain rfl := (slash_prefix_iff hs ht).1 hstarts
    exact ⟨rfl, (List.cons.inj (List.append_cancel_left h)).2⟩
  · rintro ⟨rfl, rfl⟩
    rfl

theorem takeWhile_slash {s : Str} (hs : '/' ∉ s) (rest : Str) :
    (s ++ '/' :: rest).takeWhile (· ≠ '/') = s := by
  rw [List.takeWhile_append_of_pos]
  · simp
  · intro c hc
    rw [decide_eq_true_eq]
    rintro rfl
    exact hs hc

/-! ## Filters -/

def levels (topic : Str) : List Str := topic.splitOn '/'

def levelsMatch : List Str → List Str → Bool
  | [], [] => true
  | f :: fs, t :: ts => (f = ['+'] || f = t) && levelsMatch fs ts
  | _, _ => false

def filterMatches (filter topic : Str) : Bool := levelsMatch (levels filter) (levels topic)

example : filterMatches "rooms/+/summary" "rooms/den/summary" := by decide
example : ¬ filterMatches "rooms/+/summary" "rooms/a/b/summary" := by decide

/-- Something can be published there: it is not empty and holds no wildcard and no
null character. -/
def IsTopicName (topic : Str) : Prop :=
  topic ≠ [] ∧ '+' ∉ topic ∧ '#' ∉ topic ∧ Char.ofNat 0 ∉ topic

instance (topic : Str) : Decidable (IsTopicName topic) :=
  inferInstanceAs (Decidable (_ ∧ _ ∧ _ ∧ _))

theorem isTopicName_append_iff {s t : Str} (hs : IsTopicName s) :
    IsTopicName (s ++ t) ↔ '+' ∉ t ∧ '#' ∉ t ∧ Char.ofNat 0 ∉ t := by
  obtain ⟨hne, hplus, hhash, hnull⟩ := hs
  simp [IsTopicName, hne, hplus, hhash, hnull]

theorem levels_append (s t : Str) : levels (s ++ '/' :: t) = levels s ++ levels t :=
  List.splitOn_append_cons_self s t

theorem levels_of_notMem {s : Str} (h : '/' ∉ s) : levels s = [s] := List.splitOn_eq_singleton h

theorem levels_injective {s t : Str} (h : levels s = levels t) : s = t := by
  have hjoin (s : Str) : ['/'].intercalate (levels s) = s := List.intercalate_splitOn '/'
  rw [← hjoin s, h, hjoin]

/-- Levels hold no slash, and only characters of the topic. -/
theorem notMem_of_mem_levels {s level : Str} (h : level ∈ levels s) :
    '/' ∉ level ∧ ∀ c ∈ level, c ∈ s := by
  induction s generalizing level with
  | nil =>
    rw [levels, List.splitOn_nil, List.mem_singleton] at h
    rw [h]
    exact ⟨List.not_mem_nil, fun c hc => absurd hc List.not_mem_nil⟩
  | cons c s ih =>
    rw [levels, List.splitOn_cons_eq_if_modifyHead] at h
    have hsub {level : Str} (h : level ∈ levels s) : '/' ∉ level ∧ ∀ d ∈ level, d ∈ c :: s :=
      ⟨(ih h).1, fun d hd => List.mem_cons_of_mem _ ((ih h).2 d hd)⟩
    split at h
    · rcases List.mem_cons.1 h with rfl | h
      · exact ⟨List.not_mem_nil, fun d hd => absurd hd List.not_mem_nil⟩
      · exact hsub h
    · rename_i hc
      have hc : '/' ≠ c := fun heq => hc (by rw [heq]; exact beq_self_eq_true c)
      cases hlevels : s.splitOn '/' with
      | nil => exact absurd hlevels (List.splitOn_ne_nil '/' s)
      | cons first rest =>
        rw [hlevels, List.modifyHead_cons] at h
        rcases List.mem_cons.1 h with rfl | h
        · have hmem : first ∈ levels s := by
            rw [levels, hlevels]
            exact List.mem_cons_self ..
          have hfirst := hsub hmem
          refine ⟨?_, ?_⟩
          · rw [List.mem_cons, not_or]
            exact ⟨hc, hfirst.1⟩
          · intro d hd
            rcases List.mem_cons.1 hd with rfl | hd
            · exact List.mem_cons_self ..
            · exact hfirst.2 d hd
        · exact hsub (by rw [levels, hlevels]; exact List.mem_cons_of_mem _ h)

/-- Levels that are no wildcards match themselves only. -/
theorem levelsMatch_append {fs : List Str} (hfs : ∀ f ∈ fs, f ≠ ['+']) (gs ts : List Str) :
    levelsMatch (fs ++ gs) ts ↔ ∃ us, ts = fs ++ us ∧ levelsMatch gs us := by
  induction fs generalizing ts with
  | nil => simp
  | cons f fs ih =>
    have hf := hfs f (List.mem_cons_self ..)
    have ih := ih fun g hg => hfs g (List.mem_cons_of_mem _ hg)
    cases ts with
    | nil => simp [levelsMatch]
    | cons t ts =>
      rw [List.cons_append, levelsMatch, Bool.and_eq_true, ih]
      constructor
      · rintro ⟨ht, us, rfl, hus⟩
        have ht : f = t := by simpa [hf] using ht
        exact ⟨us, by rw [ht]; rfl, hus⟩
      · rintro ⟨us, hts, hus⟩
        obtain ⟨rfl, rfl⟩ := List.cons.inj hts
        exact ⟨by simp, us, rfl, hus⟩

theorem levels_ne_plus {s : Str} (h : '+' ∉ s) : ∀ level ∈ levels s, level ≠ ['+'] := by
  rintro level hlevel rfl
  exact h ((notMem_of_mem_levels hlevel).2 '+' (List.mem_singleton_self _))

/-- In place of the `+` stands one level. -/
theorem filterMatches_plus_iff {pre post : Str} (hpre : '+' ∉ pre) (hpost : '+' ∉ post) (topic : Str) :
    filterMatches (pre ++ '/' :: '+' :: '/' :: post) topic ↔
      ∃ name, '/' ∉ name ∧ topic = pre ++ '/' :: (name ++ '/' :: post) := by
  have hfilter : levels (pre ++ '/' :: '+' :: '/' :: post) = levels pre ++ (['+'] :: levels post) := by
    have hplus : levels (['+'] ++ '/' :: post) = ['+'] :: levels post := by
      rw [levels_append, levels_of_notMem (by decide)]
      rfl
    rw [levels_append]
    exact congrArg _ hplus
  have htopic {name : Str} (hname : '/' ∉ name) :
      levels (pre ++ '/' :: (name ++ '/' :: post)) = levels pre ++ (name :: levels post) := by
    rw [levels_append, levels_append, levels_of_notMem hname]
    rfl
  rw [filterMatches, hfilter, levelsMatch_append (levels_ne_plus hpre)]
  constructor
  · rintro ⟨us, hlevels, hus⟩
    cases us with
    | nil => cases hus
    | cons name us =>
      rw [levelsMatch, Bool.and_eq_true] at hus
      have hpost' := (levelsMatch_append (levels_ne_plus hpost) [] us).1 (by
        rw [List.append_nil]
        exact hus.2)
      obtain ⟨rest, rfl, hrest⟩ := hpost'
      have hrest : rest = [] := by
        cases rest with
        | nil => rfl
        | cons t ts => cases hrest
      subst hrest
      rw [List.append_nil] at hlevels
      have hname : '/' ∉ name := (notMem_of_mem_levels (s := topic) (by rw [hlevels]; simp)).1
      exact ⟨name, hname, levels_injective (by rw [hlevels, htopic hname])⟩
  · rintro ⟨name, hname, rfl⟩
    refine ⟨name :: levels post, htopic hname, ?_⟩
    have hself := (levelsMatch_append (levels_ne_plus hpost) [] (levels post)).2
      ⟨[], (List.append_nil _).symm, rfl⟩
    rw [List.append_nil] at hself
    rw [levelsMatch, hself]
    rfl

end Topic
