import EspWaveRider.Lib.Json

/-!
# Searches in document order

A search for `"key":"…` sees the members of a JSON text one after the other,
without regard to the objects they belong to.

* `Scan` — a text in which searches see these members;
* `scan_render` — a value shows all its members, then what is behind it;
* `Scan.word`, `Scan.text` — what the searches for a whole string and for the
  beginning of a string find, and what they leave.
-/

namespace Json

open Text

/-- Searches in the text see these members, in this order: each is found if it fits
and passed over if it does not. -/
def Scan : List (JsonKey × Json) → Str → Prop
  | [], s => ∀ key more, after? (memberPattern key more) s = none
  | (k, v) :: ms, s => ∃ rest, Delimited rest ∧ Scan ms (v.render ++ rest) ∧
      (∀ more r, v.render ++ rest = more ++ r → after? (memberPattern k more) s = some r) ∧
      ∀ key more, ¬ (k = key ∧ more <+: v.render ++ rest) →
        after? (memberPattern key more) s = after? (memberPattern key more) (v.render ++ rest)

/-- Texts that look the same to every search. -/
theorem scan_congr {s t : Str}
    (h : ∀ key more, after? (memberPattern key more) s = after? (memberPattern key more) t)
    {ms : List (JsonKey × Json)} (ht : Scan ms t) : Scan ms s := by
  cases ms with
  | nil =>
    intro key more
    rw [h, ht key more]
  | cons m ms =>
    obtain ⟨k, v⟩ := m
    obtain ⟨rest, hrest, hms, hhit, hpass⟩ := ht
    refine ⟨rest, hrest, hms, ?_, ?_⟩
    · intro more r hr
      rw [h, hhit more r hr]
    · intro key more hne
      rw [h, hpass key more hne]

theorem scan_nil : Scan [] [] := by
  intro key more
  rw [memberPattern]
  exact after?_nil (List.cons_ne_nil _ _)

theorem scan_punctuation {c : Char} (hc : c ≠ '"') {ms : List (JsonKey × Json)} {s : Str}
    (h : Scan ms s) : Scan ms (c :: s) := by
  apply scan_congr _ h
  intro key more
  exact after?_punctuation hc s

/-- A member, its value and what follows. -/
theorem scan_member (k : JsonKey) {v : Json} {ms : List (JsonKey × Json)} {rest : Str}
    (hrest : Delimited rest) (h : Scan ms (v.render ++ rest)) :
    Scan ((k, v) :: ms) (keyText k ++ (v.render ++ rest)) := by
  refine ⟨rest, hrest, h, ?_, ?_⟩
  · intro more r hr
    exact after?_hit hr
  · intro key more hne
    exact after?_keyText k hne

theorem scan_textValue (body : JsonBody) {ms : List (JsonKey × Json)} {rest : Str}
    (hrest : Delimited rest) : Scan ms ((text body).render ++ rest) ↔ Scan ms rest := by
  have hsame (key : JsonKey) (more : Str) :
      after? (memberPattern key more) ((text body).render ++ rest) =
        after? (memberPattern key more) rest := by
    rw [render_text_append]
    exact after?_text key more body hrest
  constructor
  · intro h
    exact scan_congr (fun key more => (hsame key more).symm) h
  · intro h
    exact scan_congr hsame h

mutual

/-- A value shows its members, also those of the values in it, and then what follows. -/
theorem scan_render (v : Json) {ms : List (JsonKey × Json)} {rest : Str} (hrest : Delimited rest)
    (h : Scan ms rest) : Scan (v.members ++ ms) (v.render ++ rest) := by
  match v with
  | word w =>
    apply scan_congr _ h
    intro key more
    rw [render_word]
    exact after?_word key more w rest
  | text body => exact (scan_textValue body hrest).2 h
  | array [] =>
    rw [render]
    exact scan_punctuation (by decide) (scan_punctuation (by decide) h)
  | array (v :: vs) =>
    have hend : Delimited (']' :: rest) := delimited_cons (by decide) _
    have hitems := scan_itemsTail vs hend (scan_punctuation (by decide) h)
    have hfirst := scan_render v (delimited_itemsTail vs hend) hitems
    rw [render_array_append]
    apply scan_punctuation (by decide)
    rwa [members, membersOfItems, List.append_assoc]
  | object [] =>
    rw [render]
    exact scan_punctuation (by decide) (scan_punctuation (by decide) h)
  | object ((k, v) :: ms') =>
    have hend : Delimited ('}' :: rest) := delimited_cons (by decide) _
    have hfollow := delimited_membersTail ms' hend
    have htail := scan_membersTail ms' hend (scan_punctuation (by decide) h)
    have hvalue := scan_member k hfollow (scan_render v hfollow htail)
    rw [render_object_append]
    apply scan_punctuation (by decide)
    rwa [members, membersOfMembers, List.cons_append, List.append_assoc]

theorem scan_itemsTail (vs : List Json) {ms : List (JsonKey × Json)} {rest : Str}
    (hrest : Delimited rest) (h : Scan ms rest) :
    Scan (membersOfItems vs ++ ms) (itemsTail vs ++ rest) := by
  match vs with
  | [] => exact h
  | v :: vs =>
    have hfirst := scan_render v (delimited_itemsTail vs hrest) (scan_itemsTail vs hrest h)
    rw [itemsTail_cons_append]
    apply scan_punctuation (by decide)
    rwa [membersOfItems, List.append_assoc]

theorem scan_membersTail (ms' : List (JsonKey × Json)) {ms : List (JsonKey × Json)} {rest : Str}
    (hrest : Delimited rest) (h : Scan ms rest) :
    Scan (membersOfMembers ms' ++ ms) (membersTail ms' ++ rest) := by
  match ms' with
  | [] => exact h
  | (k, v) :: ms' =>
    have hfollow := delimited_membersTail ms' hrest
    have hvalue := scan_member k hfollow (scan_render v hfollow (scan_membersTail ms' hrest h))
    rw [membersTail_cons_append]
    apply scan_punctuation (by decide)
    rwa [membersOfMembers, List.cons_append, List.append_assoc]

end

/-- A document shows its members. -/
theorem scan_document (v : Json) : Scan v.members v.render := by
  have h := scan_render v (Or.inl rfl) scan_nil
  rwa [List.append_nil, List.append_nil] at h

/-! ## Strings among the members -/

/-- The first member of this name with a string that fits, and the members behind it. -/
def nextText (key : JsonKey) (fits : JsonBody → Bool) :
    List (JsonKey × Json) → Option (JsonBody × List (JsonKey × Json))
  | [] => none
  | (k, text body) :: ms =>
    if k = key ∧ fits body then some (body, ms) else nextText key fits ms
  | (_, word _) :: ms | (_, array _) :: ms | (_, object _) :: ms => nextText key fits ms

/-- No member of this name has a string that fits. -/
def Silent (key : JsonKey) (fits : JsonBody → Bool) (ms : List (JsonKey × Json)) : Prop :=
  ∀ body, (key, text body) ∈ ms → fits body = false

theorem Silent.append {key : JsonKey} {fits : JsonBody → Bool} {ms ms' : List (JsonKey × Json)}
    (h : Silent key fits ms) (h' : Silent key fits ms') : Silent key fits (ms ++ ms') := by
  intro body hbody
  rcases List.mem_append.1 hbody with hbody | hbody
  · exact h body hbody
  · exact h' body hbody

theorem Silent.cons {key k : JsonKey} {fits : JsonBody → Bool} {v : Json}
    {ms : List (JsonKey × Json)} (hm : ∀ body, k = key → v = text body → fits body = false)
    (h : Silent key fits ms) : Silent key fits ((k, v) :: ms) := by
  intro body hbody
  rcases List.mem_cons.1 hbody with heq | hbody
  · obtain ⟨rfl, rfl⟩ := Prod.mk.inj heq
    exact hm body rfl rfl
  · exact h body hbody

theorem nextText_append_of_silent {key : JsonKey} {fits : JsonBody → Bool}
    {ms : List (JsonKey × Json)} (h : Silent key fits ms) (ms' : List (JsonKey × Json)) :
    nextText key fits (ms ++ ms') = nextText key fits ms' := by
  induction ms with
  | nil => rfl
  | cons m ms ih =>
    have htail := ih fun body hbody => h body (List.mem_cons_of_mem _ hbody)
    obtain ⟨k, v⟩ := m
    cases v with
    | word w => exact htail
    | array vs => exact htail
    | object ms' => exact htail
    | text body =>
      have hnot : ¬ (k = key ∧ fits body) := by
        rintro ⟨rfl, hfits⟩
        rw [h body (List.mem_cons_self ..)] at hfits
        cases hfits
      rw [List.cons_append, nextText, if_neg hnot]
      exact htail

theorem nextText_of_silent {key : JsonKey} {fits : JsonBody → Bool} {ms : List (JsonKey × Json)}
    (h : Silent key fits ms) : nextText key fits ms = none := by
  have hnone := nextText_append_of_silent h []
  rwa [List.append_nil] at hnone

theorem nextText_cons_self {key : JsonKey} {fits : JsonBody → Bool} {body : JsonBody}
    (h : fits body) (ms : List (JsonKey × Json)) :
    nextText key fits ((key, text body) :: ms) = some (body, ms) := by
  rw [nextText, if_pos ⟨rfl, h⟩]

/-- Only a string begins with a quote. -/
theorem eq_text_of_quote_prefix {v : Json} {rest : Str} (hrest : Delimited rest)
    (h : ['"'] <+: v.render ++ rest) : ∃ body, v = text body := by
  have hhead {c : Char} {s : Str} (hc : c ≠ '"') (h : ['"'] <+: c :: s) : False :=
    hc (List.cons_prefix_cons.1 h).1.symm
  cases v with
  | text body => exact ⟨body, rfl⟩
  | word w =>
    rw [render_word] at h
    obtain ⟨_ | ⟨c, w⟩, hw⟩ := w
    · rcases hrest with rfl | ⟨c, s, rfl, hc⟩
      · simp at h
      · refine (hhead ?_ h).elim
        rintro rfl
        exact absurd hc (by decide)
    · refine (hhead ?_ h).elim
      rintro rfl
      simp at hw
  | array vs =>
    cases vs with
    | nil => exact (hhead (by decide) h).elim
    | cons v vs =>
      rw [render_array_append] at h
      exact (hhead (by decide) h).elim
  | object ms =>
    cases ms with
    | nil => exact (hhead (by decide) h).elim
    | cons m ms =>
      rw [render_object_append] at h
      exact (hhead (by decide) h).elim

/-- A string in quotes. -/
def quoted (word : Str) : Str := '"' :: (word ++ ['"'])

theorem quoted_prefix_iff {word : Str} (hword : isPlain word) {v : Json} {rest : Str}
    (hrest : Delimited rest) :
    quoted word <+: v.render ++ rest ↔ ∃ body : JsonBody, v = text body ∧ body.1 = word := by
  constructor
  · intro h
    obtain ⟨body, rfl⟩ := eq_text_of_quote_prefix hrest (List.IsPrefix.trans ⟨word ++ ['"'], rfl⟩ h)
    rw [render_text_append, quoted, List.cons_prefix_cons] at h
    exact ⟨body, rfl, (eq_of_prefix_body hword body.2 h.2).1⟩
  · rintro ⟨body, rfl, rfl⟩
    rw [render_text_append]
    exact ⟨rest, by simp [quoted]⟩

/-- A search for a whole string stops at the first member that has it. -/
theorem Scan.word (key : JsonKey) {w : Str} (hw : isPlain w) {ms : List (JsonKey × Json)} {s : Str}
    (h : Scan ms s) :
    match nextText key (fun body => body.1 = w) ms with
    | none => after? (memberPattern key (quoted w)) s = none
    | some (_, ms') => ∃ rest, Delimited rest ∧ Scan ms' rest ∧
        after? (memberPattern key (quoted w)) s = some rest := by
  induction ms generalizing s with
  | nil => exact h key (quoted w)
  | cons m ms ih =>
    obtain ⟨k, v⟩ := m
    obtain ⟨rest, hrest, hms, hhit, hpass⟩ := h
    have hstarts := quoted_prefix_iff hw (v := v) hrest
    cases v with
    | text body =>
      by_cases hfits : k = key ∧ body.1 = w
      · obtain ⟨rfl, rfl⟩ := hfits
        rw [nextText_cons_self (by simp)]
        refine ⟨rest, hrest, (scan_textValue body hrest).1 hms, hhit _ rest ?_⟩
        rw [render_text_append]
        simp [quoted]
      · have hnot : ¬ (k = key ∧ quoted w <+: (text body).render ++ rest) := by
          rintro ⟨hk, hw⟩
          obtain ⟨body', hbody, hbw⟩ := hstarts.1 hw
          cases hbody
          exact hfits ⟨hk, hbw⟩
        have hnot' : ¬ (k = key ∧ decide (body.1 = w) = true) := by simpa using hfits
        rw [hpass _ _ hnot, nextText, if_neg hnot']
        exact ih hms
    | word w' =>
      rw [hpass _ _ fun hk => by simpa using hstarts.1 hk.2, nextText]
      exact ih hms
    | array vs =>
      rw [hpass _ _ fun hk => by simpa using hstarts.1 hk.2, nextText]
      exact ih hms
    | object ms' =>
      rw [hpass _ _ fun hk => by simpa using hstarts.1 hk.2, nextText]
      exact ih hms

/-- A search for the beginning of a string stops at the first member that has a string. -/
theorem Scan.text (key : JsonKey) {ms : List (JsonKey × Json)} {s : Str} (h : Scan ms s) :
    match nextText key (fun _ => true) ms with
    | none => after? (memberPattern key ['"']) s = none
    | some (body, _) => ∃ rest, after? (memberPattern key ['"']) s = some (body.1 ++ '"' :: rest) := by
  induction ms generalizing s with
  | nil => exact h key ['"']
  | cons m ms ih =>
    obtain ⟨k, v⟩ := m
    obtain ⟨rest, hrest, hms, hhit, hpass⟩ := h
    have hstarts := eq_text_of_quote_prefix (v := v) hrest
    cases v with
    | text body =>
      by_cases hk : k = key
      · subst hk
        rw [nextText_cons_self rfl]
        exact ⟨rest, hhit _ _ (render_text_append body rest)⟩
      · rw [hpass _ _ fun h => hk h.1, nextText, if_neg fun h => hk h.1]
        exact ih hms
    | word w =>
      rw [hpass _ _ fun hk => by simpa using hstarts hk.2, nextText]
      exact ih hms
    | array vs =>
      rw [hpass _ _ fun hk => by simpa using hstarts hk.2, nextText]
      exact ih hms
    | object ms' =>
      rw [hpass _ _ fun hk => by simpa using hstarts hk.2, nextText]
      exact ih hms

end Json
