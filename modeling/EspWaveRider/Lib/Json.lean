import EspWaveRider.Lib.Text

/-!
# JSON texts and programs that search them

Small programs often read a JSON text without parsing it: they look for the
first `"key":` and read on from there.  This file describes the texts, written
without white space, and says what such a search finds.

* `Json` — values whose strings are given as they are written, with
  `Json.render`; a string that is not closed or a key with a quote in it cannot
  be built;
* `after?` — what stands behind the first occurrence of a pattern;
* `after?_render` — a search for a member passes over every value that has no
  such member, however its strings look;
* `after?_object` — in an object it finds the first member it is meant to find;
* `after?_lookup` — without nesting, the first member of that name.
-/

namespace Text

/-- What stands behind the first occurrence of `pat`. -/
def after? (pat s : Str) : Option Str := (find? pat s).map fun at_ => s.drop (at_ + pat.length)

theorem after?_cons_of_not {pat s : Str} {c : Char} (h : ¬ pat <+: c :: s) :
    after? pat (c :: s) = after? pat s := by
  have hne : pat.isPrefixOf (c :: s) = false := by
    rw [Bool.eq_false_iff]
    exact mt List.isPrefixOf_iff_prefix.1 h
  rw [after?, after?, find?, hne]
  simp only [Bool.false_eq_true, ↓reduceIte, Option.map_map]
  congr 1
  funext at_
  show (c :: s).drop (at_ + 1 + pat.length) = s.drop (at_ + pat.length)
  rw [Nat.add_right_comm]
  rfl

/-- A text that begins with the pattern. -/
theorem after?_append {pat : Str} (s : Str) : after? pat (pat ++ s) = some s := by
  have hfind : find? pat (pat ++ s) = some 0 := by
    cases pat with
    | nil => cases s <;> rfl
    | cons c pat =>
      rw [List.cons_append, find?, if_pos]
      exact List.isPrefixOf_iff_prefix.2 ⟨s, rfl⟩
  rw [after?, hfind, Option.map_some, Nat.zero_add, List.drop_left]

theorem after?_nil {pat : Str} (h : pat ≠ []) : after? pat [] = none := by
  cases pat with
  | nil => exact absurd rfl h
  | cons c pat => rfl

/-- `rest` stands behind the first occurrence of `pat`. -/
def Behind (pat s rest : Str) : Prop :=
  ∃ pre, s = pre ++ (pat ++ rest) ∧ ∀ pre' rest', s = pre' ++ (pat ++ rest') →
    pre.length ≤ pre'.length

theorem after?_eq_some_iff {pat : Str} (hpat : pat ≠ []) {s rest : Str} :
    after? pat s = some rest ↔ Behind pat s rest := by
  induction s with
  | nil =>
    rw [after?_nil hpat]
    refine ⟨fun h => absurd h (by simp), ?_⟩
    rintro ⟨pre, hs, _⟩
    simp [hpat] at hs
  | cons c s ih =>
    by_cases hstarts : pat <+: c :: s
    · obtain ⟨rest', hrest'⟩ := hstarts
      rw [← hrest', after?_append, Option.some_inj]
      constructor
      · rintro rfl
        exact ⟨[], rfl, fun _ _ _ => Nat.zero_le _⟩
      · rintro ⟨pre, hs, hfirst⟩
        have hzero : pre.length ≤ 0 := hfirst [] rest' rfl
        obtain rfl := List.length_eq_zero_iff.1 (Nat.le_zero.1 hzero)
        exact List.append_cancel_left hs
    · rw [after?_cons_of_not hstarts, ih]
      have hne {pre rest' : Str} (h : c :: s = pre ++ (pat ++ rest')) :
          ∃ pre', pre = c :: pre' ∧ s = pre' ++ (pat ++ rest') := by
        cases pre with
        | nil => exact absurd ⟨rest', h.symm⟩ hstarts
        | cons d pre' =>
          obtain ⟨rfl, hs⟩ := List.cons.inj h
          exact ⟨pre', rfl, hs⟩
      constructor
      · rintro ⟨pre, hs, hfirst⟩
        refine ⟨c :: pre, by rw [hs]; rfl, fun pre' rest' h => ?_⟩
        obtain ⟨pre'', rfl, hs'⟩ := hne h
        exact Nat.succ_le_succ (hfirst _ _ hs')
      · rintro ⟨pre, hs, hfirst⟩
        obtain ⟨pre', rfl, hs'⟩ := hne hs
        refine ⟨pre', hs', fun pre'' rest' h => ?_⟩
        exact Nat.le_of_succ_le_succ (hfirst (c :: pre'') rest' (by rw [h]; rfl))

/-- Characters other than the pattern's first one are passed over. -/
theorem after?_append_of_notMem {c : Char} {pat s : Str} (hs : c ∉ s) (rest : Str) :
    after? (c :: pat) (s ++ rest) = after? (c :: pat) rest := by
  induction s with
  | nil => rfl
  | cons d s ih =>
    have hd : ¬ c :: pat <+: d :: (s ++ rest) := by
      rw [List.cons_prefix_cons]
      rintro ⟨rfl, _⟩
      exact hs (List.mem_cons_self ..)
    rw [List.cons_append, after?_cons_of_not hd]
    exact ih fun hc => hs (List.mem_cons_of_mem _ hc)

theorem contains_of_after? {pat s rest : Str} (h : after? pat s = some rest) :
    contains s pat = true := by
  unfold after? at h
  unfold contains
  cases hfind : find? pat s with
  | none =>
    rw [hfind] at h
    cases h
  | some at_ => rfl

end Text

open Text

/-! ## Strings as they are written -/

/-- Every quote stands behind a backslash that is not itself escaped, and the
text does not end in the middle of an escape; `escaped` tells whether the first
character is escaped. -/
def closedFrom : Bool → Str → Bool
  | escaped, [] => !escaped
  | true, _ :: s => closedFrom false s
  | false, c :: s => c ≠ '"' && closedFrom (c = '\\') s

/-- The inside of a string literal. -/
abbrev JsonBody := {body : Str // closedFrom false body}

/-- Neither quotes nor backslashes. -/
def isPlain (s : Str) : Bool := s.all fun c => c ≠ '"' && c ≠ '\\'

/-- What can stand behind a string literal. -/
def isPunctuation (c : Char) : Bool := c = ',' || c = ']' || c = '}' || c = ':'

/-- A member name that is written as it is and does not begin like what stands
behind a literal. -/
abbrev JsonKey := {key : Str // isPlain key ∧ key.head?.any (!isPunctuation ·)}

/-- A number or one of `true`, `false`, `null`. -/
abbrev JsonWord := {word : Str // word.all fun c => c ≠ '"' && c ≠ ',' && c ≠ '}'}

/-- A value. -/
inductive Json where
  | word (w : JsonWord)
  | text (body : JsonBody)
  | array (items : List Json)
  | object (members : List (JsonKey × Json))

namespace Json

theorem isPlain_cons {c : Char} {s : Str} :
    isPlain (c :: s) ↔ (c ≠ '"' ∧ c ≠ '\\') ∧ isPlain s := by
  simp [isPlain]

/-- An escape that is complete can be put in front. -/
theorem closedFrom_append {s t : Str} (hs : closedFrom false s) (ht : closedFrom false t) :
    closedFrom false (s ++ t) := by
  have key (s : Str) : ∀ escaped, closedFrom escaped s → closedFrom escaped (s ++ t) := by
    induction s with
    | nil =>
      rintro (_ | _) h
      · exact ht
      · cases h
    | cons c s ih =>
      rintro (_ | _) h
      · simp only [closedFrom, Bool.and_eq_true, List.cons_append] at h ⊢
        exact ⟨h.1, ih _ h.2⟩
      · exact ih false h
  exact key s false hs

theorem closedFrom_of_isPlain {s : Str} (h : isPlain s) : closedFrom false s := by
  induction s with
  | nil => rfl
  | cons c s ih =>
    obtain ⟨⟨hquote, hbackslash⟩, hs⟩ := isPlain_cons.1 h
    simpa [closedFrom, hquote, hbackslash] using ih hs

theorem closedFrom_flatMap {piece : Char → Str} (hpiece : ∀ c, closedFrom false (piece c))
    (s : Str) : closedFrom false (s.flatMap piece) := by
  induction s with
  | nil => rfl
  | cons c s ih =>
    rw [List.flatMap_cons]
    exact closedFrom_append (hpiece c) ih

/-! ## Writing a value -/

/-- `"key":`. -/
def keyText (key : JsonKey) : Str := '"' :: key.1 ++ ['"', ':']

mutual

def render : Json → Str
  | word w => w.1
  | text body => '"' :: body.1 ++ ['"']
  | array [] => ['[', ']']
  | array (v :: vs) => '[' :: v.render ++ (itemsTail vs ++ [']'])
  | object [] => ['{', '}']
  | object ((k, v) :: ms) => '{' :: keyText k ++ (v.render ++ (membersTail ms ++ ['}']))

/-- The items behind the first one. -/
def itemsTail : List Json → Str
  | [] => []
  | v :: vs => ',' :: v.render ++ itemsTail vs

/-- The members behind the first one. -/
def membersTail : List (JsonKey × Json) → Str
  | [] => []
  | (k, v) :: ms => ',' :: keyText k ++ (v.render ++ membersTail ms)

end

@[simp] theorem render_word (w : JsonWord) : (word w).render = w.1 := by
  rw [render]

theorem render_text_append (body : JsonBody) (rest : Str) :
    (text body).render ++ rest = '"' :: (body.1 ++ '"' :: rest) := by
  simp [render]

theorem render_array_append (v : Json) (vs : List Json) (rest : Str) :
    (array (v :: vs)).render ++ rest = '[' :: (v.render ++ (itemsTail vs ++ ']' :: rest)) := by
  simp [render]

theorem render_object_append (k : JsonKey) (v : Json) (ms : List (JsonKey × Json)) (rest : Str) :
    (object ((k, v) :: ms)).render ++ rest =
      '{' :: (keyText k ++ (v.render ++ (membersTail ms ++ '}' :: rest))) := by
  simp [render]

theorem itemsTail_cons_append (v : Json) (vs : List Json) (rest : Str) :
    itemsTail (v :: vs) ++ rest = ',' :: (v.render ++ (itemsTail vs ++ rest)) := by
  simp [itemsTail]

theorem membersTail_cons_append (k : JsonKey) (v : Json) (ms : List (JsonKey × Json))
    (rest : Str) : membersTail ((k, v) :: ms) ++ rest =
      ',' :: (keyText k ++ (v.render ++ (membersTail ms ++ rest))) := by
  simp [membersTail]

theorem membersTail_append (ms ms' : List (JsonKey × Json)) :
    membersTail (ms ++ ms') = membersTail ms ++ membersTail ms' := by
  induction ms with
  | nil => rfl
  | cons m ms ih =>
    rw [membersTail_cons_append, List.cons_append, membersTail, ih]
    rfl

theorem utf8Len_keyText (key : JsonKey) : utf8Len (keyText key) = utf8Len key.1 + 3 := by
  have hquote : Char.utf8Size '"' = 1 := rfl
  have hcolon : Char.utf8Size ':' = 1 := rfl
  simp only [keyText, utf8Len_cons, utf8Len_append, utf8Len_nil, hquote, hcolon]
  omega

theorem utf8Len_render_text (body : JsonBody) : utf8Len (text body).render = 2 + utf8Len body.1 := by
  have hquote : Char.utf8Size '"' = 1 := rfl
  simp only [render, utf8Len_cons, utf8Len_append, utf8Len_nil, hquote]
  omega

/-- The bytes of an object: a brace, for each member its name with two quotes, a
colon and the comma or brace behind it, and the values. -/
theorem utf8Len_render_object {ms : List (JsonKey × Json)} (h : ms ≠ []) :
    utf8Len (object ms).render =
      1 + ((ms.map fun m => m.1.1).map fun name => utf8Len name + 4).sum +
        (ms.map fun m => utf8Len m.2.render).sum := by
  have htail (ms : List (JsonKey × Json)) : utf8Len (membersTail ms) =
      ((ms.map fun m => m.1.1).map fun name => utf8Len name + 4).sum +
        (ms.map fun m => utf8Len m.2.render).sum := by
    induction ms with
    | nil => rfl
    | cons m ms ih =>
      obtain ⟨k, v⟩ := m
      have hcomma : Char.utf8Size ',' = 1 := rfl
      simp only [membersTail, utf8Len_cons, utf8Len_append, utf8Len_keyText, ih, List.map_cons,
        List.sum_cons, hcomma]
      omega
  cases ms with
  | nil => exact absurd rfl h
  | cons m ms =>
    obtain ⟨k, v⟩ := m
    have hopen : Char.utf8Size '{' = 1 := rfl
    have hclose : Char.utf8Size '}' = 1 := rfl
    simp only [render, utf8Len_cons, utf8Len_append, utf8Len_nil, utf8Len_keyText, htail,
      List.map_cons, List.sum_cons, hopen, hclose]
    omega

/-! ## Searching for a member

The pattern is a quoted key, a colon and the beginning `more` of the value. -/

/-- `"key":` and the beginning of a value. -/
def memberPattern (key : JsonKey) (more : Str) : Str := '"' :: (key.1 ++ '"' :: ':' :: more)

/-- What can follow a value. -/
def Delimited (rest : Str) : Prop := rest = [] ∨ ∃ c s, rest = c :: s ∧ c ∈ [',', ']', '}']

theorem delimited_cons {c : Char} (h : c ∈ [',', ']', '}']) (s : Str) : Delimited (c :: s) :=
  Or.inr ⟨c, s, rfl, h⟩

theorem delimited_itemsTail (vs : List Json) {rest : Str} (h : Delimited rest) :
    Delimited (itemsTail vs ++ rest) := by
  cases vs with
  | nil => exact h
  | cons v vs => exact delimited_cons (by decide) _

theorem delimited_membersTail (ms : List (JsonKey × Json)) {rest : Str} (h : Delimited rest) :
    Delimited (membersTail ms ++ rest) := by
  cases ms with
  | nil => exact h
  | cons m ms => exact delimited_cons (by decide) _

/-- A plain text up to a quote fits a literal from its beginning only if it is
the whole literal. -/
theorem eq_of_prefix_body {key body tail rest : Str} (hkey : isPlain key)
    (hbody : closedFrom false body) (h : key ++ '"' :: tail <+: body ++ '"' :: rest) :
    body = key ∧ tail <+: rest := by
  induction key generalizing body with
  | nil =>
    cases body with
    | nil => exact ⟨rfl, (List.cons_prefix_cons.1 h).2⟩
    | cons c body =>
      have hc := (List.cons_prefix_cons.1 h).1
      simp [closedFrom, ← hc] at hbody
  | cons k key ih =>
    obtain ⟨⟨hquote, hbackslash⟩, hkey⟩ := isPlain_cons.1 hkey
    cases body with
    | nil => exact absurd (List.cons_prefix_cons.1 h).1 hquote
    | cons c body =>
      obtain ⟨rfl, hstarts⟩ := List.cons_prefix_cons.1 h
      have hbody : closedFrom false body := by simpa [closedFrom, hquote, hbackslash] using hbody
      obtain ⟨rfl, htail⟩ := ih hkey hbody hstarts
      exact ⟨rfl, htail⟩

/-- The search passes over the rest of a literal and its closing quote, when no
occurrence can end at that quote or begin there. -/
theorem after?_body {key body tail rest : Str} (hkey : isPlain key) {escaped : Bool}
    (hbody : closedFrom escaped body) (htail : ¬ tail <+: rest)
    (hclose : ¬ key ++ '"' :: tail <+: rest) :
    after? ('"' :: (key ++ '"' :: tail)) (body ++ '"' :: rest) =
      after? ('"' :: (key ++ '"' :: tail)) rest := by
  induction body generalizing escaped with
  | nil =>
    refine after?_cons_of_not ?_
    rw [List.cons_prefix_cons]
    exact fun h => hclose h.2
  | cons c body ih =>
    have hskip : ¬ '"' :: (key ++ '"' :: tail) <+: c :: (body ++ '"' :: rest) := by
      rw [List.cons_prefix_cons]
      rintro ⟨rfl, h⟩
      cases escaped with
      | false => simp [closedFrom] at hbody
      | true => exact htail (eq_of_prefix_body hkey hbody h).2
    rw [List.cons_append, after?_cons_of_not hskip]
    cases escaped with
    | false =>
      simp only [closedFrom, Bool.and_eq_true] at hbody
      exact ih hbody.2
    | true => exact ih hbody

/-- No occurrence begins at the closing quote of a literal. -/
theorem not_prefix_of_isPunctuation (key : JsonKey) (tail : Str) {rest : Str}
    (h : rest.head?.all isPunctuation) : ¬ key.1 ++ '"' :: tail <+: rest := by
  obtain ⟨_ | ⟨k, key⟩, _, hhead⟩ := key
  · cases hhead
  · rintro hstarts
    cases rest with
    | nil => simp at hstarts
    | cons c rest =>
      obtain ⟨rfl, _⟩ := List.cons_prefix_cons.1 hstarts
      have hpunct : isPunctuation k := h
      simp [hpunct] at hhead

theorem Delimited.isPunctuation {rest : Str} (h : Delimited rest) :
    rest.head?.all isPunctuation := by
  rcases h with rfl | ⟨c, s, rfl, hc⟩
  · rfl
  · simp only [List.mem_cons, List.not_mem_nil, or_false] at hc
    rcases hc with rfl | rfl | rfl <;> rfl

theorem Delimited.not_colon {rest : Str} (h : Delimited rest) (more : Str) :
    ¬ ':' :: more <+: rest := by
  rcases h with rfl | ⟨c, s, rfl, hc⟩
  · simp
  · rw [List.cons_prefix_cons]
    rintro ⟨rfl, _⟩
    exact absurd hc (by decide)

/-- A number is passed over. -/
theorem after?_word (key : JsonKey) (more : Str) (w : JsonWord) (rest : Str) :
    after? (memberPattern key more) (w.1 ++ rest) = after? (memberPattern key more) rest := by
  have hquote : '"' ∉ w.1 := by
    intro h
    simpa using List.all_eq_true.1 w.2 _ h
  exact after?_append_of_notMem hquote rest

/-- A string value is passed over, whatever stands in it. -/
theorem after?_text (key : JsonKey) (more : Str) (body : JsonBody) {rest : Str}
    (hrest : Delimited rest) :
    after? (memberPattern key more) ('"' :: (body.1 ++ '"' :: rest)) =
      after? (memberPattern key more) rest := by
  have hopen : ¬ memberPattern key more <+: '"' :: (body.1 ++ '"' :: rest) := by
    rw [memberPattern, List.cons_prefix_cons]
    rintro ⟨_, h⟩
    exact hrest.not_colon more (eq_of_prefix_body key.2.1 body.2 h).2
  rw [after?_cons_of_not hopen]
  exact after?_body key.2.1 body.2 (hrest.not_colon more)
    (not_prefix_of_isPunctuation key _ hrest.isPunctuation)

/-- A member name is passed over, unless it is the one that is looked for and
its value begins as expected. -/
theorem after?_keyText {key : JsonKey} {more : Str} (k : JsonKey) {rest : Str}
    (h : ¬ (k = key ∧ more <+: rest)) :
    after? (memberPattern key more) (keyText k ++ rest) = after? (memberPattern key more) rest := by
  have hopen : ¬ memberPattern key more <+: '"' :: (k.1 ++ '"' :: ':' :: rest) := by
    rw [memberPattern, List.cons_prefix_cons]
    rintro ⟨_, hstarts⟩
    obtain ⟨hk, htail⟩ := eq_of_prefix_body key.2.1 (closedFrom_of_isPlain k.2.1) hstarts
    exact h ⟨Subtype.ext hk, (List.cons_prefix_cons.1 htail).2⟩
  have hclose : ¬ memberPattern key more <+: '"' :: ':' :: rest := by
    rw [memberPattern, List.cons_prefix_cons]
    rintro ⟨_, hstarts⟩
    exact not_prefix_of_isPunctuation key _ rfl hstarts
  have hcolon : ¬ memberPattern key more <+: ':' :: rest := by
    rw [memberPattern, List.cons_prefix_cons]
    rintro ⟨hc, _⟩
    exact absurd hc (by decide)
  have hname : '"' ∉ k.1 := by
    intro hq
    simpa using List.all_eq_true.1 k.2.1 _ hq
  have hshape : keyText k ++ rest = '"' :: (k.1 ++ '"' :: ':' :: rest) := by
    simp [keyText]
  rw [hshape, after?_cons_of_not hopen, memberPattern, after?_append_of_notMem hname]
  exact (after?_cons_of_not hclose).trans (after?_cons_of_not hcolon)

mutual

/-- All members of a value, also of the values in it, in the order they are
written. -/
def members : Json → List (JsonKey × Json)
  | word _ => []
  | text _ => []
  | array vs => membersOfItems vs
  | object ms => membersOfMembers ms

def membersOfItems : List Json → List (JsonKey × Json)
  | [] => []
  | v :: vs => v.members ++ membersOfItems vs

def membersOfMembers : List (JsonKey × Json) → List (JsonKey × Json)
  | [] => []
  | (k, v) :: ms => (k, v) :: (v.members ++ membersOfMembers ms)

end

/-- The value can be written so that the text from there on begins with `more`. -/
def Begins (more : Str) (v : Json) : Prop := ∃ rest, Delimited rest ∧ more <+: v.render ++ rest

/-- None of these is a member the pattern is looking for. -/
def Lacks (key : JsonKey) (more : Str) (ms : List (JsonKey × Json)) : Prop :=
  ∀ m ∈ ms, ¬ (m.1 = key ∧ Begins more m.2)

theorem Lacks.of_append {key : JsonKey} {more : Str} {ms ms' : List (JsonKey × Json)}
    (h : Lacks key more (ms ++ ms')) : Lacks key more ms ∧ Lacks key more ms' :=
  ⟨fun m hm => h m (List.mem_append_left _ hm), fun m hm => h m (List.mem_append_right _ hm)⟩

theorem Lacks.head {key : JsonKey} {more : Str} {k : JsonKey} {v : Json}
    {ms : List (JsonKey × Json)} (h : Lacks key more ((k, v) :: ms)) {rest : Str}
    (hrest : Delimited rest) : ¬ (k = key ∧ more <+: v.render ++ rest) :=
  fun hk => h _ (List.mem_cons_self ..) ⟨hk.1, rest, hrest, hk.2⟩

theorem Lacks.tail {key : JsonKey} {more : Str} {m : JsonKey × Json}
    {ms : List (JsonKey × Json)} (h : Lacks key more (m :: ms)) : Lacks key more ms :=
  fun m hm => h m (List.mem_cons_of_mem _ hm)

theorem after?_punctuation {key : JsonKey} {more : Str} {c : Char} (hc : c ≠ '"') (rest : Str) :
    after? (memberPattern key more) (c :: rest) = after? (memberPattern key more) rest := by
  refine after?_cons_of_not ?_
  rw [memberPattern, List.cons_prefix_cons]
  exact fun h => hc h.1.symm

mutual

/-- The search passes over a value without such a member. -/
theorem after?_render {key : JsonKey} {more : Str} (v : Json) {rest : Str}
    (hv : Lacks key more v.members) (hrest : Delimited rest) :
    after? (memberPattern key more) (v.render ++ rest) = after? (memberPattern key more) rest := by
  match v with
  | word w => exact after?_word key more w rest
  | text body =>
    rw [render_text_append]
    exact after?_text key more body hrest
  | array [] =>
    rw [render]
    exact (after?_punctuation (by decide) _).trans (after?_punctuation (by decide) _)
  | array (v :: vs) =>
    obtain ⟨hv, hvs⟩ := Lacks.of_append (hv : Lacks key more (v.members ++ membersOfItems vs))
    have hend : Delimited (']' :: rest) := delimited_cons (by decide) _
    rw [render_array_append, after?_punctuation (by decide),
      after?_render v hv (delimited_itemsTail vs hend), after?_itemsTail vs hvs hend,
      after?_punctuation (by decide)]
  | object [] =>
    rw [render]
    exact (after?_punctuation (by decide) _).trans (after?_punctuation (by decide) _)
  | object ((k, v) :: ms) =>
    have hv : Lacks key more ((k, v) :: (v.members ++ membersOfMembers ms)) := hv
    obtain ⟨hvalue, hms⟩ := Lacks.of_append hv.tail
    have hend : Delimited ('}' :: rest) := delimited_cons (by decide) _
    have hfollow := delimited_membersTail ms hend
    rw [render_object_append, after?_punctuation (by decide),
      after?_keyText k (hv.head hfollow), after?_render v hvalue hfollow,
      after?_membersTail ms hms hend, after?_punctuation (by decide)]

theorem after?_itemsTail {key : JsonKey} {more : Str} (vs : List Json) {rest : Str}
    (hvs : Lacks key more (membersOfItems vs)) (hrest : Delimited rest) :
    after? (memberPattern key more) (itemsTail vs ++ rest) =
      after? (memberPattern key more) rest := by
  match vs with
  | [] => rfl
  | v :: vs =>
    obtain ⟨hv, hvs⟩ := Lacks.of_append (hvs : Lacks key more (v.members ++ membersOfItems vs))
    rw [itemsTail_cons_append, after?_punctuation (by decide),
      after?_render v hv (delimited_itemsTail vs hrest), after?_itemsTail vs hvs hrest]

theorem after?_membersTail {key : JsonKey} {more : Str} (ms : List (JsonKey × Json)) {rest : Str}
    (hms : Lacks key more (membersOfMembers ms)) (hrest : Delimited rest) :
    after? (memberPattern key more) (membersTail ms ++ rest) =
      after? (memberPattern key more) rest := by
  match ms with
  | [] => rfl
  | (k, v) :: ms =>
    have hms : Lacks key more ((k, v) :: (v.members ++ membersOfMembers ms)) := hms
    obtain ⟨hvalue, htail⟩ := Lacks.of_append hms.tail
    have hfollow := delimited_membersTail ms hrest
    rw [membersTail_cons_append, after?_punctuation (by decide),
      after?_keyText k (hms.head hfollow), after?_render v hvalue hfollow,
      after?_membersTail ms htail hrest]

end

/-- A member that fits is found. -/
theorem after?_hit {key : JsonKey} {more : Str} {v : Json} {rest r : Str}
    (h : v.render ++ rest = more ++ r) :
    after? (memberPattern key more) (keyText key ++ (v.render ++ rest)) = some r := by
  have hshape : keyText key ++ (v.render ++ rest) = memberPattern key more ++ r := by
    rw [h]
    simp [keyText, memberPattern]
  rw [hshape]
  exact after?_append r

/-- In an object the search finds the first member it fits. -/
theorem after?_object {key : JsonKey} {more : Str} {pre post : List (JsonKey × Json)} {v : Json}
    {rest r : Str} (hpre : Lacks key more (membersOfMembers pre))
    (hmore : v.render ++ (membersTail post ++ '}' :: rest) = more ++ r) :
    after? (memberPattern key more) ((object (pre ++ (key, v) :: post)).render ++ rest) =
      some r := by
  have hend : Delimited ('}' :: rest) := delimited_cons (by decide) _
  cases pre with
  | nil =>
    rw [List.nil_append, render_object_append, after?_punctuation (by decide)]
    exact after?_hit hmore
  | cons m pre =>
    obtain ⟨k, v'⟩ := m
    have hpre : Lacks key more ((k, v') :: (v'.members ++ membersOfMembers pre)) := hpre
    obtain ⟨hvalue, htail⟩ := Lacks.of_append hpre.tail
    have hfollow := delimited_membersTail ((key, v) :: post) hend
    have hfollow' := delimited_membersTail pre hfollow
    rw [List.cons_append, render_object_append, membersTail_append, List.append_assoc,
      after?_punctuation (by decide), after?_keyText k (hpre.head hfollow'),
      after?_render v' hvalue hfollow', after?_membersTail pre htail hfollow,
      membersTail_cons_append, after?_punctuation (by decide)]
    exact after?_hit hmore

/-! ## Flat objects -/

/-- No value is an array or an object with members of its own. -/
def Flat (ms : List (JsonKey × Json)) : Prop := ∀ m ∈ ms, m.2.members = []

/-- Not an array or an object. -/
def isLeaf : Json → Bool
  | word _ | text _ => true
  | array _ | object _ => false

theorem flat_of_all {ms : List (JsonKey × Json)} (h : ms.all fun m => m.2.isLeaf) : Flat ms := by
  intro m hm
  have hleaf := List.all_eq_true.1 h m hm
  obtain ⟨k, v⟩ := m
  cases v with
  | word w => rfl
  | text body => rfl
  | array vs => cases hleaf
  | object ms => cases hleaf

/-- The value of the first member of this name. -/
def lookup (key : JsonKey) (ms : List (JsonKey × Json)) : Option Json :=
  (ms.find? fun m => m.1 = key).map Prod.snd

theorem Flat.lacks {ms : List (JsonKey × Json)} (h : Flat ms) {key : JsonKey}
    (hkey : ∀ m ∈ ms, m.1 ≠ key) (more : Str) : Lacks key more (membersOfMembers ms) := by
  induction ms with
  | nil => exact fun m hm => absurd hm (List.not_mem_nil)
  | cons m ms ih =>
    obtain ⟨k, v⟩ := m
    have hv : v.members = [] := h (k, v) (List.mem_cons_self ..)
    have htail := ih (fun m hm => h m (List.mem_cons_of_mem _ hm))
      (fun m hm => hkey m (List.mem_cons_of_mem _ hm))
    rw [membersOfMembers, hv, List.nil_append]
    intro m hm
    rcases List.mem_cons.1 hm with rfl | hm
    · exact fun hk => hkey _ (List.mem_cons_self ..) hk.1
    · exact htail m hm

/-- In a flat object the search finds the first member of the name; what stands
behind its value are other members and the closing brace. -/
theorem after?_lookup {ms : List (JsonKey × Json)} (hflat : Flat ms) {key : JsonKey} {v : Json}
    (h : lookup key ms = some v) :
    ∃ post, ∀ more r, v.render ++ (membersTail post ++ ['}']) = more ++ r →
      after? (memberPattern key more) (object ms).render = some r := by
  obtain ⟨⟨k, v'⟩, hfind, rfl⟩ := Option.map_eq_some_iff.1 h
  obtain ⟨hk, pre, post, rfl, hpre⟩ := List.find?_eq_some_iff_append.1 hfind
  obtain rfl : k = key := by simpa using hk
  have hpre : ∀ m ∈ pre, m.1 ≠ k := fun m hm => by simpa using hpre m hm
  have hflat : Flat pre := fun m hm => hflat m (List.mem_append_left _ hm)
  refine ⟨post, fun more r hmore => ?_⟩
  have hfound : after? (memberPattern k more) ((object (pre ++ (k, v') :: post)).render ++ []) =
      some r := after?_object (hflat.lacks hpre more) hmore
  rwa [List.append_nil] at hfound

theorem after?_of_lookup_none {ms : List (JsonKey × Json)} (hflat : Flat ms) (key : JsonKey)
    (h : lookup key ms = none) (more : Str) :
    after? (memberPattern key more) (object ms).render = none := by
  rw [lookup, Option.map_eq_none_iff, List.find?_eq_none] at h
  have hkey : ∀ m ∈ ms, m.1 ≠ key := fun m hm => by simpa using h m hm
  have hpass : after? (memberPattern key more) ((object ms).render ++ []) =
      after? (memberPattern key more) [] :=
    after?_render (object ms) (hflat.lacks hkey more) (Or.inl rfl)
  rw [List.append_nil] at hpass
  rw [hpass, memberPattern]
  exact after?_nil (List.cons_ne_nil _ _)

/-! ## A quoted word

A search for a name in quotes, without the colon, can also stop at a value. -/

def quotedPattern (key : JsonKey) : Str := '"' :: (key.1 ++ ['"'])

/-- In a literal the search stops at its end, or not at all. -/
theorem after?_quoted_body (key : JsonKey) {escaped : Bool} {body : Str}
    (hbody : closedFrom escaped body) (rest : Str) :
    after? (quotedPattern key) (body ++ '"' :: rest) = some rest ∨
      after? (quotedPattern key) (body ++ '"' :: rest) =
        after? (quotedPattern key) ('"' :: rest) := by
  induction body generalizing escaped with
  | nil => exact Or.inr rfl
  | cons c body ih =>
    by_cases hstarts : quotedPattern key <+: c :: (body ++ '"' :: rest)
    · -- only an escaped quote can begin an occurrence inside
      have hcons := hstarts
      rw [quotedPattern, List.cons_prefix_cons] at hcons
      obtain ⟨rfl, htail⟩ := hcons
      cases escaped with
      | false => simp [closedFrom] at hbody
      | true =>
        obtain ⟨hkey, _⟩ := eq_of_prefix_body key.2.1 hbody htail
        left
        have hshape : '"' :: body ++ '"' :: rest = quotedPattern key ++ rest := by
          simp [quotedPattern, hkey]
        rw [hshape]
        exact after?_append rest
    · rw [List.cons_append, after?_cons_of_not hstarts]
      cases escaped with
      | false =>
        simp only [closedFrom, Bool.and_eq_true] at hbody
        exact ih hbody.2
      | true => exact ih hbody

/-- Something that can follow a value stands there. -/
def Follows (rest : Str) : Prop := ∃ c s, rest = c :: s ∧ c ∈ [',', ']', '}']

theorem Follows.delimited {rest : Str} (h : Follows rest) : Delimited rest := Or.inr h

theorem after?_quoted_text (key : JsonKey) (body : JsonBody) {rest : Str} (hrest : Follows rest) :
    after? (quotedPattern key) ((text body).render ++ rest) = some rest ∨
      after? (quotedPattern key) ((text body).render ++ rest) = after? (quotedPattern key) rest := by
  have hclose : ¬ quotedPattern key <+: '"' :: rest := by
    rw [quotedPattern, List.cons_prefix_cons]
    exact fun h => not_prefix_of_isPunctuation key [] hrest.delimited.isPunctuation h.2
  rw [render_text_append]
  by_cases hopen : quotedPattern key <+: '"' :: (body.1 ++ '"' :: rest)
  · left
    have htail := hopen
    rw [quotedPattern, List.cons_prefix_cons] at htail
    obtain ⟨hkey, _⟩ := eq_of_prefix_body key.2.1 body.2 htail.2
    have hshape : '"' :: (body.1 ++ '"' :: rest) = quotedPattern key ++ rest := by
      simp [quotedPattern, hkey]
    rw [hshape]
    exact after?_append rest
  · rw [after?_cons_of_not hopen, ← after?_cons_of_not hclose]
    exact after?_quoted_body key body.2 rest

theorem after?_quoted_keyText {key k : JsonKey} (h : k ≠ key) (rest : Str) :
    after? (quotedPattern key) (keyText k ++ rest) = after? (quotedPattern key) rest := by
  have hopen : ¬ quotedPattern key <+: '"' :: (k.1 ++ '"' :: ':' :: rest) := by
    rw [quotedPattern, List.cons_prefix_cons]
    rintro ⟨_, hstarts⟩
    exact h (Subtype.ext (eq_of_prefix_body key.2.1 (closedFrom_of_isPlain k.2.1) hstarts).1)
  have hclose : ¬ quotedPattern key <+: '"' :: ':' :: rest := by
    rw [quotedPattern, List.cons_prefix_cons]
    exact fun h => not_prefix_of_isPunctuation key [] rfl h.2
  have hcolon : ¬ quotedPattern key <+: ':' :: rest := by
    rw [quotedPattern, List.cons_prefix_cons]
    exact fun h => absurd h.1 (by decide)
  have hname : '"' ∉ k.1 := by
    intro hq
    simpa using List.all_eq_true.1 k.2.1 _ hq
  have hshape : keyText k ++ rest = '"' :: (k.1 ++ '"' :: ':' :: rest) := by
    simp [keyText]
  rw [hshape, after?_cons_of_not hopen, quotedPattern, after?_append_of_notMem hname]
  exact (after?_cons_of_not hclose).trans (after?_cons_of_not hcolon)

theorem after?_quoted_punctuation (key : JsonKey) {c : Char} (hc : c ≠ '"') (rest : Str) :
    after? (quotedPattern key) (c :: rest) = after? (quotedPattern key) rest := by
  refine after?_cons_of_not ?_
  rw [quotedPattern, List.cons_prefix_cons]
  exact fun h => hc h.1.symm

/-- The search stops in front of something that follows a value, or goes on. -/
def StopsOr (key : JsonKey) (s rest : Str) : Prop :=
  (∃ follow, Follows follow ∧ after? (quotedPattern key) s = some follow) ∨
    after? (quotedPattern key) s = after? (quotedPattern key) rest

theorem stopsOr_leaf (key : JsonKey) {v : Json} (hv : v.isLeaf) {rest : Str}
    (hrest : Follows rest) : StopsOr key (v.render ++ rest) rest := by
  cases v with
  | word w =>
    have hquote : '"' ∉ w.1 := by
      intro h
      simpa using List.all_eq_true.1 w.2 _ h
    rw [render_word]
    exact Or.inr (after?_append_of_notMem hquote rest)
  | text body => exact (after?_quoted_text key body hrest).imp_left fun h => ⟨rest, hrest, h⟩
  | array vs => cases hv
  | object ms => cases hv

theorem StopsOr.trans {key : JsonKey} {s t u : Str} (h : StopsOr key s t) (h' : StopsOr key t u) :
    StopsOr key s u := by
  rcases h with h | h
  · exact Or.inl h
  · rw [StopsOr, h]
    exact h'

theorem stopsOr_membersTail {key : JsonKey} {ms : List (JsonKey × Json)}
    (hms : ∀ m ∈ ms, m.1 ≠ key ∧ m.2.isLeaf) {rest : Str} (hrest : Follows rest) :
    StopsOr key (membersTail ms ++ rest) rest := by
  induction ms with
  | nil => exact Or.inr rfl
  | cons m ms ih =>
    obtain ⟨k, v⟩ := m
    have hm := hms (k, v) (List.mem_cons_self ..)
    have htail := ih fun m hm => hms m (List.mem_cons_of_mem _ hm)
    have hfollow : Follows (membersTail ms ++ rest) := by
      cases ms with
      | nil => exact hrest
      | cons m ms => exact ⟨',', _, rfl, by decide⟩
    rw [membersTail_cons_append, StopsOr, after?_quoted_punctuation key (by decide),
      after?_quoted_keyText hm.1]
    exact (stopsOr_leaf key hm.2 hfollow).trans htail

/-- In a flat object without a member of this name, a quoted word is a value. -/
theorem after?_quoted_object {key : JsonKey} {ms : List (JsonKey × Json)}
    (hms : ms.all fun m => decide (m.1 ≠ key) && m.2.isLeaf) {follow : Str}
    (h : after? (quotedPattern key) (object ms).render = some follow) : Follows follow := by
  have hms : ∀ m ∈ ms, m.1 ≠ key ∧ m.2.isLeaf := by
    intro m hm
    simpa using List.all_eq_true.1 hms m hm
  have hnone : after? (quotedPattern key) ['}'] = none := by
    rw [after?_quoted_punctuation key (by decide)]
    exact after?_nil (List.cons_ne_nil _ _)
  have hend : Follows ['}'] := ⟨'}', [], rfl, by decide⟩
  cases ms with
  | nil =>
    rw [render, after?_quoted_punctuation key (by decide), hnone] at h
    cases h
  | cons m ms =>
    obtain ⟨k, v⟩ := m
    have hm := hms (k, v) (List.mem_cons_self ..)
    have htail := fun m hm => hms m (List.mem_cons_of_mem _ hm)
    have hfollow : Follows (membersTail ms ++ ['}']) := by
      cases ms with
      | nil => exact hend
      | cons m ms => exact ⟨',', _, rfl, by decide⟩
    have hstops := (stopsOr_leaf key hm.2 hfollow).trans (stopsOr_membersTail htail hend)
    rw [← List.append_nil (render _), render_object_append, after?_quoted_punctuation key (by decide),
      after?_quoted_keyText hm.1] at h
    rcases hstops with ⟨follow', hfollow', hfound⟩ | hpass
    · rw [hfound] at h
      cases h
      exact hfollow'
    · rw [hpass, hnone] at h
      cases h

end Json
