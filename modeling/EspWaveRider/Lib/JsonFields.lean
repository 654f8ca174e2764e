import EspWaveRider.Lib.Json

/-!
# Objects whose members are strings

The names are written as they are and may be any text without quotes and backslashes; each
value is the inside of a string literal.

* `after?_stringMembers` — the search for `"name":` finds the member of this name, whatever
  stands before it, if the name is neither a comma nor a colon.
-/

namespace Json

open Text

/-- A member: its name, and the inside of its literal. -/
abbrev StringMember := Str × JsonBody

/-- `"name":"value"`. -/
def stringMember (m : StringMember) : Str :=
  '"' :: (m.1 ++ '"' :: ':' :: '"' :: (m.2.1 ++ ['"']))

/-- The members behind the first one. -/
def stringMembersTail : List StringMember → Str
  | [] => []
  | m :: ms => ',' :: (stringMember m ++ stringMembersTail ms)

def stringMembers : List StringMember → Str
  | [] => ['{', '}']
  | m :: ms => '{' :: (stringMember m ++ (stringMembersTail ms ++ ['}']))

/-- `"name":`. -/
def namePattern (name : Str) : Str := '"' :: (name ++ ['"', ':'])

/-- No quote that ends a name or a value can be taken for the first one of the pattern. -/
def Findable (name : Str) : Prop := isPlain name ∧ name ≠ [','] ∧ name ≠ [':']

instance (name : Str) : Decidable (Findable name) :=
  inferInstanceAs (Decidable (_ ∧ _ ∧ _))

/-- What can follow the value of a member. -/
def MemberEnd (rest : Str) : Prop := rest = ['}'] ∨ ∃ s, rest = ',' :: '"' :: s

theorem memberEnd_stringMembersTail (ms : List StringMember) :
    MemberEnd (stringMembersTail ms ++ ['}']) := by
  cases ms with
  | nil => exact Or.inl rfl
  | cons m ms => exact Or.inr ⟨_, rfl⟩

theorem quote_notMem_of_isPlain {s : Str} (h : isPlain s) : '"' ∉ s := by
  intro hmem
  simpa using List.all_eq_true.1 h _ hmem

/-- A plain text that ends at a quote consists of what stands before it. -/
theorem eq_of_isPlain_quoted {name tail s rest : Str} (hname : isPlain name) (hs : '"' ∉ s)
    (h : name ++ '"' :: tail <+: s ++ '"' :: rest) : name = s := by
  induction name generalizing s with
  | nil =>
    cases s with
    | nil => rfl
    | cons d s =>
      have hd := (List.cons_prefix_cons.1 h).1
      exact absurd (List.mem_cons.2 (Or.inl hd)) hs
  | cons c name ih =>
    obtain ⟨⟨hquote, -⟩, hname⟩ := isPlain_cons.1 hname
    cases s with
    | nil => exact absurd (List.cons_prefix_cons.1 h).1 hquote
    | cons d s =>
      obtain ⟨rfl, hrest⟩ := List.cons_prefix_cons.1 h
      rw [ih hname (fun hmem => hs (List.mem_cons_of_mem _ hmem)) hrest]

/-- No occurrence begins at the quote behind a value. -/
theorem not_prefix_of_memberEnd {name rest : Str} (hname : Findable name) (hrest : MemberEnd rest) :
    ¬ name ++ ['"', ':'] <+: rest := by
  obtain ⟨hplain, hcomma, -⟩ := hname
  intro h
  rcases hrest with rfl | ⟨s, rfl⟩
  · have hlength := h.length_le
    simp only [List.length_append, List.length_cons, List.length_nil] at hlength
    omega
  · exact hcomma (eq_of_isPlain_quoted (s := [',']) hplain (by decide) h)

/-- No occurrence begins at the quote behind a name. -/
theorem not_prefix_of_colon {name rest : Str} (hname : Findable name) :
    ¬ name ++ ['"', ':'] <+: ':' :: '"' :: rest := by
  obtain ⟨hplain, -, hcolon⟩ := hname
  intro h
  exact hcolon (eq_of_isPlain_quoted (s := [':']) hplain (by decide) h)

theorem MemberEnd.not_colon {rest : Str} (h : MemberEnd rest) : ¬ [':'] <+: rest := by
  rcases h with rfl | ⟨s, rfl⟩
  · decide
  · rw [List.cons_prefix_cons]
    exact fun hc => absurd hc.1 (by decide)

/-- The search passes over a member with another name. -/
theorem after?_stringMember {name : Str} (hname : Findable name) {m : StringMember}
    (hplain : isPlain m.1) (hne : m.1 ≠ name) {rest : Str} (hrest : MemberEnd rest) :
    after? (namePattern name) (stringMember m ++ rest) = after? (namePattern name) rest := by
  obtain ⟨k, body⟩ := m
  have hshape : stringMember (k, body) ++ rest =
      '"' :: (k ++ '"' :: ':' :: '"' :: (body.1 ++ '"' :: rest)) := by
    simp [stringMember]
  have hopen : ¬ namePattern name <+: '"' :: (k ++ '"' :: ':' :: '"' :: (body.1 ++ '"' :: rest)) := by
    intro h
    have hk := eq_of_isPlain_quoted hname.1 (quote_notMem_of_isPlain hplain)
      (List.cons_prefix_cons.1 h).2
    exact hne hk.symm
  have hclose : ¬ namePattern name <+: '"' :: ':' :: '"' :: (body.1 ++ '"' :: rest) :=
    fun h => not_prefix_of_colon hname (List.cons_prefix_cons.1 h).2
  have hvalue : ¬ namePattern name <+: '"' :: (body.1 ++ '"' :: rest) :=
    fun h => hrest.not_colon (eq_of_prefix_body hname.1 body.2 (List.cons_prefix_cons.1 h).2).2
  have hcolon : ¬ namePattern name <+: ':' :: '"' :: (body.1 ++ '"' :: rest) :=
    fun h => absurd (List.cons_prefix_cons.1 h).1 (by decide)
  rw [hshape, after?_cons_of_not hopen]
  rw [namePattern] at hclose hcolon hvalue ⊢
  rw [after?_append_of_notMem (quote_notMem_of_isPlain hplain), after?_cons_of_not hclose,
    after?_cons_of_not hcolon, after?_cons_of_not hvalue]
  exact after?_body hname.1 body.2 hrest.not_colon (not_prefix_of_memberEnd hname hrest)

theorem after?_stringMember_self (m : StringMember) (rest : Str) :
    after? (namePattern m.1) (stringMember m ++ rest) = some ('"' :: (m.2.1 ++ '"' :: rest)) := by
  have hshape : stringMember m ++ rest = namePattern m.1 ++ '"' :: (m.2.1 ++ '"' :: rest) := by
    simp [stringMember, namePattern]
  rw [hshape]
  exact after?_append _

/-- A character that is no quote is passed over. -/
theorem after?_cons_of_ne {name : Str} {c : Char} (hc : c ≠ '"') (rest : Str) :
    after? (namePattern name) (c :: rest) = after? (namePattern name) rest :=
  after?_cons_of_not fun h => hc (List.cons_prefix_cons.1 h).1.symm

/-- Among the members behind the first one. -/
theorem after?_stringMembersTail {name : Str} (hname : Findable name) {pre : List StringMember}
    (hpre : ∀ m ∈ pre, isPlain m.1 ∧ m.1 ≠ name) (body : JsonBody) (post : List StringMember) :
    after? (namePattern name) (stringMembersTail (pre ++ (name, body) :: post) ++ ['}']) =
      some ('"' :: (body.1 ++ '"' :: (stringMembersTail post ++ ['}']))) := by
  induction pre with
  | nil =>
    rw [List.nil_append, stringMembersTail, List.cons_append, List.append_assoc,
      after?_cons_of_ne (by decide)]
    exact after?_stringMember_self (name, body) _
  | cons m pre ih =>
    obtain ⟨hplain, hne⟩ := hpre m (List.mem_cons_self ..)
    rw [List.cons_append, stringMembersTail, List.cons_append, List.append_assoc,
      after?_cons_of_ne (by decide),
      after?_stringMember hname hplain hne (memberEnd_stringMembersTail _)]
    exact ih fun m hm => hpre m (List.mem_cons_of_mem _ hm)

/-- The search finds the member of this name. -/
theorem after?_stringMembers {name : Str} (hname : Findable name) {pre : List StringMember}
    (hpre : ∀ m ∈ pre, isPlain m.1 ∧ m.1 ≠ name) (body : JsonBody) (post : List StringMember) :
    after? (namePattern name) (stringMembers (pre ++ (name, body) :: post)) =
      some ('"' :: (body.1 ++ '"' :: (stringMembersTail post ++ ['}']))) := by
  cases pre with
  | nil =>
    rw [List.nil_append, stringMembers, after?_cons_of_ne (by decide)]
    exact after?_stringMember_self (name, body) _
  | cons m pre =>
    obtain ⟨hplain, hne⟩ := hpre m (List.mem_cons_self ..)
    rw [List.cons_append, stringMembers, after?_cons_of_ne (by decide),
      after?_stringMember hname hplain hne (memberEnd_stringMembersTail _)]
    exact after?_stringMembersTail hname (fun m hm => hpre m (List.mem_cons_of_mem _ hm)) body post

end Json
