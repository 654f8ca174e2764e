import EspWaveRider.Lib.Text

/-!
# The grammar of JSON

Which texts are JSON documents, and which values they stand for (RFC 8259).  A string stands for a
sequence of UTF-16 units, as `\u` can name one half of a character.

* `Chars` — the inside of a string literal;
* `Denotes` — a text and its value, with the items of arrays and the members of objects;
* `allowed_of_denotes` — a control character that is not white space cannot occur in a document.
-/

namespace JsonGrammar

open Text

inductive JsonValue where
  | null
  | bool (b : Bool)
  | number (q : ℚ)
  | string (units : List ℕ)
  | array (items : List JsonValue)
  | object (members : List (List ℕ × JsonValue))

/-- The value of the first member of this name. -/
def JsonValue.member? (name : List ℕ) : JsonValue → Option JsonValue
  | .object members => (members.find? fun m => m.1 = name).map Prod.snd
  | _ => none

/-! ## Strings -/

/-- One unit, or two for a character above `0xFFFF`. -/
def utf16Char (c : Char) : List ℕ :=
  if c.toNat < 0x10000 then [c.toNat]
  else [0xD800 + (c.toNat - 0x10000) / 0x400, 0xDC00 + (c.toNat - 0x10000) % 0x400]

def utf16 (s : Str) : List ℕ := s.flatMap utf16Char

theorem utf16_cons (c : Char) (s : Str) : utf16 (c :: s) = utf16Char c ++ utf16 s := rfl

/-- Characters with the same first units are the same, with the same rest. -/
theorem utf16Char_append_inj {c d : Char} {l m : List ℕ} (h : utf16Char c ++ l = utf16Char d ++ m) :
    c = d ∧ l = m := by
  have hc : c.toNat.isValidChar := c.valid
  have hd : d.toNat.isValidChar := d.valid
  unfold Nat.isValidChar at hc hd
  unfold utf16Char at h
  split_ifs at h
  · obtain ⟨hunit, hrest⟩ := List.cons.inj h
    exact ⟨Char.toNat_inj.1 hunit, hrest⟩
  · have hunit := (List.cons.inj h).1
    omega
  · have hunit := (List.cons.inj h).1
    omega
  · obtain ⟨hhigh, hmore⟩ := List.cons.inj h
    obtain ⟨hlow, hrest⟩ := List.cons.inj hmore
    exact ⟨Char.toNat_inj.1 (by omega), hrest⟩

theorem utf16_injective : Function.Injective utf16 := by
  intro s t h
  have hne (c : Char) (s : Str) : utf16 (c :: s) ≠ [] := by
    rw [utf16_cons, utf16Char]
    split_ifs <;> simp
  induction s generalizing t with
  | nil =>
    cases t with
    | nil => rfl
    | cons d t => exact absurd h.symm (hne d t)
  | cons c s ih =>
    cases t with
    | nil => exact absurd h (hne c s)
    | cons d t =>
      obtain ⟨rfl, hrest⟩ := utf16Char_append_inj h
      rw [ih hrest]

/-- What a backslash and a letter stand for. -/
def escapes : List (Char × Char) :=
  [('"', '"'), ('\\', '\\'), ('/', '/'), ('b', '\x08'), ('f', '\x0c'), ('n', '\n'), ('r', '\r'),
    ('t', '\t')]

def hexDigit? (c : Char) : Option ℕ :=
  if isAsciiDigit c then some (c.toNat - 48)
  else if 'A' ≤ c ∧ c ≤ 'F' then some (c.toNat - 55)
  else if 'a' ≤ c ∧ c ≤ 'f' then some (c.toNat - 87)
  else none

/-- The inside of a string literal and its units. -/
inductive Chars : Str → List ℕ → Prop
  | nil : Chars [] []
  | plain {c : Char} {t : Str} {s : List ℕ} (hc : 0x20 ≤ c.toNat ∧ c ≠ '"' ∧ c ≠ '\\') (h : Chars t s) :
      Chars (c :: t) (utf16Char c ++ s)
  | escape {letter c : Char} {t : Str} {s : List ℕ} (hc : (letter, c) ∈ escapes) (h : Chars t s) :
      Chars ('\\' :: letter :: t) (utf16Char c ++ s)
  | unit {a b c d : Char} {m n o p : ℕ} {t : Str} {s : List ℕ} (ha : hexDigit? a = some m)
      (hb : hexDigit? b = some n) (hc : hexDigit? c = some o) (hd : hexDigit? d = some p)
      (h : Chars t s) :
      Chars ('\\' :: 'u' :: a :: b :: c :: d :: t) ((((m * 16 + n) * 16 + o) * 16 + p) :: s)

/-! ## Numbers -/

/-- An optional minus, digits, and optional digits behind a point and of a power of ten. -/
structure Number where
  negative : Bool
  int : Str
  fraction : Option Str
  exponent : Option (Char × Option Char × Str)

namespace Number

def IsDigits (s : Str) : Prop := s ≠ [] ∧ ∀ c ∈ s, isAsciiDigit c = true

/-- No zeros in front, and at least one digit in each part. -/
structure WellFormed (n : Number) : Prop where
  int : IsDigits n.int
  leading : n.int.head? = some '0' → n.int = ['0']
  fraction : ∀ digits ∈ n.fraction, IsDigits digits
  exponent : ∀ e ∈ n.exponent, (e.1 = 'e' ∨ e.1 = 'E') ∧ (∀ sign ∈ e.2.1, sign = '+' ∨ sign = '-') ∧
    IsDigits e.2.2

def text (n : Number) : Str :=
  (if n.negative then ['-'] else []) ++ (n.int ++ ((match n.fraction with
    | none => []
    | some digits => '.' :: digits) ++ match n.exponent with
    | none => []
    | some (e, sign, digits) => e :: (sign.toList ++ digits)))

def value (n : Number) : ℚ :=
  (if n.negative then -1 else 1) * ((digitsValue 0 n.int : ℚ) + (match n.fraction with
    | none => 0
    | some digits => (digitsValue 0 digits : ℚ) / 10 ^ digits.length)) * match n.exponent with
    | none => 1
    | some (_, some '-', digits) => 1 / 10 ^ digitsValue 0 digits
    | some (_, _, digits) => 10 ^ digitsValue 0 digits

end Number

/-! ## Documents -/

/-- White space between tokens. -/
def IsSpace (s : Str) : Prop := ∀ c ∈ s, c = ' ' ∨ c = '\t' ∨ c = '\n' ∨ c = '\r'

/-- What a part of a document can stand for. -/
inductive Phrase where
  | value (v : JsonValue)
  | items (vs : List JsonValue)
  | members (ms : List (List ℕ × JsonValue))

inductive Denotes : Str → Phrase → Prop
  | null : Denotes "null" (.value .null)
  | true : Denotes "true" (.value (.bool true))
  | false : Denotes "false" (.value (.bool false))
  | number {n : Number} (h : n.WellFormed) : Denotes n.text (.value (.number n.value))
  | string {t : Str} {s : List ℕ} (h : Chars t s) : Denotes ('"' :: (t ++ ['"'])) (.value (.string s))
  | noItems {w : Str} (hw : IsSpace w) : Denotes ('[' :: (w ++ [']'])) (.value (.array []))
  | array {t : Str} {vs : List JsonValue} (h : Denotes t (.items vs)) :
      Denotes ('[' :: (t ++ [']'])) (.value (.array vs))
  | noMembers {w : Str} (hw : IsSpace w) : Denotes ('{' :: (w ++ ['}'])) (.value (.object []))
  | object {t : Str} {ms : List (List ℕ × JsonValue)} (h : Denotes t (.members ms)) :
      Denotes ('{' :: (t ++ ['}'])) (.value (.object ms))
  | item {w t w' : Str} {v : JsonValue} (hw : IsSpace w) (hw' : IsSpace w') (h : Denotes t (.value v)) :
      Denotes (w ++ (t ++ w')) (.items [v])
  | items {t t' : Str} {v : JsonValue} {vs : List JsonValue} (h : Denotes t (.items [v]))
      (h' : Denotes t' (.items vs)) : Denotes (t ++ ',' :: t') (.items (v :: vs))
  | member {w k w' t : Str} {s : List ℕ} {v : JsonValue} (hw : IsSpace w) (hk : Chars k s)
      (hw' : IsSpace w') (h : Denotes t (.items [v])) :
      Denotes (w ++ '"' :: (k ++ '"' :: (w' ++ ':' :: t))) (.members [(s, v)])
  | members {t t' : Str} {m : List ℕ × JsonValue} {ms : List (List ℕ × JsonValue)}
      (h : Denotes t (.members [m])) (h' : Denotes t' (.members ms)) :
      Denotes (t ++ ',' :: t') (.members (m :: ms))

/-- A value with white space around it. -/
def Document (t : Str) (v : JsonValue) : Prop := Denotes t (.items [v])

/-! ## Control characters -/

/-- No control character but those of white space. -/
def Allowed (c : Char) : Prop := 0x20 ≤ c.toNat ∨ c = '\t' ∨ c = '\n' ∨ c = '\r'

instance (c : Char) : Decidable (Allowed c) := inferInstanceAs (Decidable (_ ∨ _))

theorem allowed_of_isSpace {s : Str} (h : IsSpace s) : ∀ c ∈ s, Allowed c := by
  intro c hc
  rcases h c hc with rfl | rfl | rfl | rfl <;> decide

theorem allowed_of_isDigits {s : Str} (h : Number.IsDigits s) : ∀ c ∈ s, Allowed c := by
  intro c hc
  have hdigit := isAsciiDigit_iff.1 (h.2 c hc)
  exact Or.inl (by omega)

theorem allowed_of_hexDigit? {c : Char} {n : ℕ} (h : hexDigit? c = some n) : Allowed c := by
  unfold hexDigit? at h
  split_ifs at h with hdigit hupper hlower
  · have hc := isAsciiDigit_iff.1 hdigit
    exact Or.inl (by omega)
  · have hc : 'A'.toNat ≤ c.toNat := hupper.1
    exact Or.inl (le_trans (by decide) hc)
  · have hc : 'a'.toNat ≤ c.toNat := hlower.1
    exact Or.inl (le_trans (by decide) hc)

theorem allowed_cons {c : Char} {s : Str} (hc : Allowed c) (hs : ∀ d ∈ s, Allowed d) :
    ∀ d ∈ c :: s, Allowed d := List.forall_mem_cons.2 ⟨hc, hs⟩

theorem allowed_append {s t : Str} (hs : ∀ c ∈ s, Allowed c) (ht : ∀ c ∈ t, Allowed c) :
    ∀ c ∈ s ++ t, Allowed c := List.forall_mem_append.2 ⟨hs, ht⟩

theorem allowed_of_chars {t : Str} {s : List ℕ} (h : Chars t s) : ∀ c ∈ t, Allowed c := by
  induction h with
  | nil => exact fun c hc => absurd hc List.not_mem_nil
  | plain hc _ ih => exact allowed_cons (Or.inl hc.1) ih
  | @escape letter c t s hc _ ih =>
    have hletters : ∀ e ∈ escapes, Allowed e.1 := by decide
    exact allowed_cons (by decide) (allowed_cons (hletters _ hc) ih)
  | unit ha hb hc hd _ ih =>
    exact allowed_cons (by decide) (allowed_cons (by decide) (allowed_cons (allowed_of_hexDigit? ha)
      (allowed_cons (allowed_of_hexDigit? hb) (allowed_cons (allowed_of_hexDigit? hc)
        (allowed_cons (allowed_of_hexDigit? hd) ih)))))

theorem allowed_of_number {n : Number} (h : n.WellFormed) : ∀ c ∈ n.text, Allowed c := by
  have hnone : ∀ c ∈ ([] : Str), Allowed c := fun c hc => absurd hc List.not_mem_nil
  refine allowed_append ?_ (allowed_append (allowed_of_isDigits h.int) (allowed_append ?_ ?_))
  · split
    · exact allowed_cons (by decide) hnone
    · exact hnone
  · cases hfraction : n.fraction with
    | none => exact hnone
    | some digits => exact allowed_cons (by decide) (allowed_of_isDigits (h.fraction digits hfraction))
  · cases hexponent : n.exponent with
    | none => exact hnone
    | some e =>
      obtain ⟨e, sign, digits⟩ := e
      obtain ⟨hletter, hsign, hdigits⟩ := h.exponent _ hexponent
      refine allowed_cons ?_ (allowed_append ?_ (allowed_of_isDigits hdigits))
      · rcases hletter with rfl | rfl <;> decide
      · cases sign with
        | none => exact hnone
        | some sign =>
          refine allowed_cons ?_ hnone
          rcases hsign sign rfl with rfl | rfl <;> decide

/-- A control character that is not white space occurs nowhere. -/
theorem allowed_of_denotes {t : Str} {p : Phrase} (h : Denotes t p) : ∀ c ∈ t, Allowed c := by
  have hnone : ∀ c ∈ ([] : Str), Allowed c := fun c hc => absurd hc List.not_mem_nil
  have hlast {c : Char} (hc : Allowed c) : ∀ d ∈ [c], Allowed d := allowed_cons hc hnone
  have hword {s : Str} (hs : s.all (fun c => Allowed c) = true) : ∀ c ∈ s, Allowed c :=
    fun c hc => by simpa using List.all_eq_true.1 hs c hc
  induction h with
  | null | true | false => exact hword (by decide)
  | number h => exact allowed_of_number h
  | string h => exact allowed_cons (by decide) (allowed_append (allowed_of_chars h) (hlast (by decide)))
  | noItems hw | noMembers hw =>
    exact allowed_cons (by decide) (allowed_append (allowed_of_isSpace hw) (hlast (by decide)))
  | array _ ih | object _ ih => exact allowed_cons (by decide) (allowed_append ih (hlast (by decide)))
  | item hw hw' _ ih =>
    exact allowed_append (allowed_of_isSpace hw) (allowed_append ih (allowed_of_isSpace hw'))
  | items _ _ ih ih' | members _ _ ih ih' => exact allowed_append ih (allowed_cons (by decide) ih')
  | member hw hk hw' _ ih =>
    exact allowed_append (allowed_of_isSpace hw) (allowed_cons (by decide)
      (allowed_append (allowed_of_chars hk) (allowed_cons (by decide)
        (allowed_append (allowed_of_isSpace hw') (allowed_cons (by decide) ih)))))

/-! ## Without white space -/

theorem isSpace_nil : IsSpace [] := fun _ hc => absurd hc List.not_mem_nil

theorem Denotes.alone {t : Str} {v : JsonValue} (h : Denotes t (.value v)) :
    Denotes t (.items [v]) := by
  have hitem := Denotes.item isSpace_nil isSpace_nil h
  rwa [List.nil_append, List.append_nil] at hitem

/-- `"name":value`. -/
theorem Denotes.compact {k t : Str} {s : List ℕ} {v : JsonValue} (hk : Chars k s)
    (h : Denotes t (.value v)) : Denotes ('"' :: (k ++ '"' :: ':' :: t)) (.members [(s, v)]) :=
  Denotes.member isSpace_nil hk isSpace_nil h.alone

theorem allowed_intercalate {parts : List Str} (h : ∀ part ∈ parts, ∀ c ∈ part, Allowed c) {sep : Char}
    (hsep : Allowed sep) : ∀ c ∈ [sep].intercalate parts, Allowed c := by
  induction parts with
  | nil => exact fun c hc => absurd hc List.not_mem_nil
  | cons part parts ih =>
    have hrest := ih fun p hp => h p (List.mem_cons_of_mem _ hp)
    have hpart := h part (List.mem_cons_self ..)
    cases parts with
    | nil => rwa [List.intercalate_singleton]
    | cons next parts =>
      rw [List.intercalate_cons_cons, List.append_assoc]
      exact allowed_append hpart (allowed_cons hsep hrest)

/-- What is joined occurs in what it is joined to. -/
theorem mem_intercalate {parts : List Str} {part : Str} (hpart : part ∈ parts) {c : Char} (hc : c ∈ part)
    (sep : Str) : c ∈ sep.intercalate parts := by
  induction parts with
  | nil => exact absurd hpart List.not_mem_nil
  | cons first parts ih =>
    cases parts with
    | nil =>
      rw [List.mem_singleton.1 hpart] at hc
      rwa [List.intercalate_singleton]
    | cons next parts =>
      rw [List.intercalate_cons_cons]
      rcases List.mem_cons.1 hpart with rfl | hpart
      · exact List.mem_append_left _ (List.mem_append_left _ hc)
      · exact List.mem_append_right _ (ih hpart)

/-- Items with commas between them. -/
theorem denotes_items {ts : List Str} {vs : List JsonValue}
    (h : List.Forall₂ (fun t v => Denotes t (.value v)) ts vs) (hne : ts ≠ []) :
    Denotes ([','].intercalate ts) (.items vs) := by
  induction h with
  | nil => exact absurd rfl hne
  | @cons t v ts vs hv htail ih =>
    cases htail with
    | nil =>
      rw [List.intercalate_singleton]
      exact hv.alone
    | cons hv' htail =>
      rw [List.intercalate_cons_cons, List.append_assoc, List.singleton_append]
      exact Denotes.items hv.alone (ih (List.cons_ne_nil _ _))

theorem denotes_array {ts : List Str} {vs : List JsonValue}
    (h : List.Forall₂ (fun t v => Denotes t (.value v)) ts vs) :
    Denotes ('[' :: ([','].intercalate ts ++ [']'])) (.value (.array vs)) := by
  cases ts with
  | nil =>
    cases h
    exact Denotes.noItems isSpace_nil
  | cons t ts => exact Denotes.array (denotes_items h (List.cons_ne_nil _ _))

/-- Members with commas between them. -/
theorem denotes_object {t : Str} {ts : List Str} {ms : List (List ℕ × JsonValue)}
    (h : List.Forall₂ (fun t m => Denotes t (.members [m])) (t :: ts) ms) :
    Denotes ('{' :: ([','].intercalate (t :: ts) ++ ['}'])) (.value (.object ms)) := by
  apply Denotes.object
  induction ts generalizing t ms with
  | nil =>
    rw [List.intercalate_singleton]
    cases h with
    | cons hm htail =>
      cases htail
      exact hm
  | cons t' ts ih =>
    rw [List.intercalate_cons_cons, List.append_assoc, List.singleton_append]
    cases h with
    | cons hm htail => exact Denotes.members hm (ih htail)

/-- A text without anything to escape. -/
theorem chars_of_plain {s : Str} (h : ∀ c ∈ s, 0x20 ≤ c.toNat ∧ c ≠ '"' ∧ c ≠ '\\') :
    Chars s (utf16 s) := by
  induction s with
  | nil => exact Chars.nil
  | cons c s ih =>
    exact Chars.plain (h c (List.mem_cons_self ..)) (ih fun d hd => h d (List.mem_cons_of_mem _ hd))

end JsonGrammar
