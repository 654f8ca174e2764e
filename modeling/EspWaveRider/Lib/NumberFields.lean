import EspWaveRider.Lib.Json
import EspWaveRider.Lib.JsonGrammar
import EspWaveRider.Lib.LeadingNumber

/-!
# Integers in the fields of an object

Programs that look for `"name":` in a text and read the number behind it.

* `DecimalText`, `Carries` — decimal integers, and fields that are one;
* `parseSigned_of_decimalText`, `parseUnsigned_of_decimalText` — reading one into a bounded type;
* `takeWhile_between`, `trim_between` — cutting the integer out of its field;
* `StoredWithin` — a number that is kept as it is, or gives way to a default or a bound.
-/

namespace NumberFields

open Text JsonGrammar

/-! ## Decimal integers -/

/-- Digits, behind a minus sign when the number is negative. -/
inductive DecimalText : Str → ℤ → Prop where
  | nonneg {digits : Str} {m : ℕ} : parseDigits digits = some m → DecimalText digits m
  | neg {digits : Str} {m : ℕ} : parseDigits digits = some m → 0 < m → DecimalText ('-' :: digits) (-m)

theorem ne_sign_of_parseDigits {sign : Char} (hsign : isAsciiDigit sign = false) {digits rest : Str}
    {m : ℕ} (h : parseDigits digits = some m) : digits ≠ sign :: rest := by
  rintro rfl
  have hdigit := forall_of_parseDigits h sign (List.mem_cons_self ..)
  exact Bool.false_ne_true (hsign.symm.trans hdigit)

theorem signedDigits_of_parseDigits {digits : Str} {m : ℕ} (h : parseDigits digits = some m) :
    signedDigits digits = some (m : ℤ) := by
  unfold signedDigits
  split
  · exact absurd rfl (ne_sign_of_parseDigits rfl h)
  · exact absurd rfl (ne_sign_of_parseDigits rfl h)
  · rw [h]
    rfl

theorem signedDigits_of_decimalText {text : Str} {n : ℤ} (h : DecimalText text n) :
    signedDigits text = some n := by
  cases h with
  | nonneg hdigits => exact signedDigits_of_parseDigits hdigits
  | @neg digits m hdigits _ =>
    show (parseDigits digits).map (fun n => -Int.ofNat n) = some (-(m : ℤ))
    rw [hdigits]
    rfl

theorem parseSigned_of_decimalText {text : Str} {n : ℤ} (h : DecimalText text n) (lo hi : ℤ) :
    parseSigned lo hi text = if lo ≤ n ∧ n ≤ hi then some n else none := by
  rw [parseSigned, signedDigits_of_decimalText h, Option.filter_some]
  simp only [decide_eq_true_eq]

/-- A minus sign is not read. -/
theorem parseUnsigned_of_decimalText {text : Str} {n : ℤ} (h : DecimalText text n) (max : ℕ) :
    parseUnsigned max text = if 0 ≤ n ∧ n ≤ max then some n.toNat else none := by
  unfold parseUnsigned
  cases h with
  | @nonneg digits m hdigits =>
    dsimp only
    split
    · exact absurd rfl (ne_sign_of_parseDigits rfl hdigits)
    · simp [hdigits, Option.filter_some]
  | @neg digits m _ hpos =>
    have hminus : parseDigits ('-' :: digits) = none := if_neg fun hall => by
      have hdigit := List.all_eq_true.1 hall.2 '-' (List.mem_cons_self ..)
      exact absurd hdigit (by decide)
    show (parseDigits ('-' :: digits)).filter (· ≤ max) = _
    rw [hminus, if_neg (by omega)]
    rfl

theorem isNumberChar_of_decimalText {text : Str} {n : ℤ} (h : DecimalText text n) {c : Char}
    (hc : c ∈ text) : isNumberChar c = true := by
  have hparse := parseSigned_of_decimalText h n n
  rw [if_pos ⟨le_refl n, le_refl n⟩] at hparse
  exact forall_of_parseSigned hparse c hc

theorem decimalText_ne_nil {text : Str} {n : ℤ} (h : DecimalText text n) : text ≠ [] := by
  cases h with
  | nonneg hdigits =>
    rintro rfl
    cases hdigits
  | neg => exact List.cons_ne_nil _ _

/-! ## Fields -/

/-- The first field of this name is a decimal integer, with white space around it and a comma,
a brace or nothing behind it. -/
def Carries (payload name : Str) (n : ℤ) : Prop :=
  ∃ before text after rest, DecimalText text n ∧ IsSpace before ∧ IsSpace after ∧
    (∀ c ∈ rest.head?, c = ',' ∨ c = '}') ∧
    after? ('"' :: (name ++ ['"', ':'])) payload = some (before ++ (text ++ (after ++ rest)))

/-- White space at both ends of a text that has none. -/
theorem trimmed_between {p : Char → Bool} {before text after : Str} (hbefore : ∀ c ∈ before, p c)
    (hafter : ∀ c ∈ after, p c) (htext : ∀ c ∈ text, p c = false) :
    ((before ++ (text ++ after)).dropWhile p).rdropWhile p = text.rdropWhile p := by
  have hnone : after.rdropWhile p = [] := List.rdropWhile_eq_nil_iff.2 hafter
  rw [List.dropWhile_append_of_pos hbefore]
  cases text with
  | nil =>
    rw [List.nil_append, List.dropWhile_eq_nil_iff.2 hafter]
  | cons c text =>
    have hc : ¬p c = true := by simp [htext c (List.mem_cons_self ..)]
    rw [List.cons_append, List.dropWhile_cons_of_neg hc, ← List.cons_append, rdropWhile_append,
      if_pos hnone]

theorem ne_of_isNumberChar {c d : Char} (h : isNumberChar c = true) (hd : isNumberChar d = false) :
    c ≠ d := by
  rintro rfl
  exact Bool.false_ne_true (hd.symm.trans h)

theorem isWhitespace_of_isSpace {s : Str} (h : IsSpace s) {c : Char} (hc : c ∈ s) :
    isWhitespace c = true := by
  rcases h c hc with rfl | rfl | rfl | rfl <;> rfl

/-- Neither white space nor a number ends a field. -/
theorem takeWhile_between {q : Char → Bool} (hq : ∀ c, c ≠ ',' → c ≠ '}' → q c)
    {before text after : Str} {n : ℤ} (htext : DecimalText text n)
    (hbefore : IsSpace before) (hafter : IsSpace after) (rest : Str) :
    (before ++ (text ++ (after ++ rest))).takeWhile q =
      before ++ (text ++ (after ++ rest.takeWhile q)) := by
  have hblank {s : Str} (hs : IsSpace s) : ∀ c ∈ s, q c := by
    intro c hc
    rcases hs c hc with rfl | rfl | rfl | rfl <;> exact hq _ (by decide) (by decide)
  rw [List.takeWhile_append_of_pos (hblank hbefore), List.takeWhile_append_of_pos,
    List.takeWhile_append_of_pos (hblank hafter)]
  intro c hc
  have hnumber := isNumberChar_of_decimalText htext hc
  exact hq c (ne_of_isNumberChar hnumber rfl) (ne_of_isNumberChar hnumber rfl)

theorem trim_between {before text after : Str} {n : ℤ} (htext : DecimalText text n)
    (hbefore : IsSpace before) (hafter : IsSpace after) :
    trim (before ++ (text ++ after)) = text := by
  have hplain : ∀ c ∈ text, isWhitespace c = false := fun c hc =>
    isWhitespace_of_isNumberChar (isNumberChar_of_decimalText htext hc)
  rw [trim, trimEnd, trimStart, trimmed_between (fun c hc => isWhitespace_of_isSpace hbefore hc)
    (fun c hc => isWhitespace_of_isSpace hafter hc) hplain, List.rdropWhile_eq_self_iff]
  intro hne
  rw [hplain _ (List.getLast_mem hne)]
  exact Bool.false_ne_true

/-! ## Storing a number -/

/-- A number within the bounds is stored as it is, another one as a default or as the nearest
bound. -/
structure StoredWithin (low high fallback n stored : ℤ) : Prop where
  fits : low ≤ n → n ≤ high → stored = n
  below : n < low → stored = fallback ∨ stored = low
  above : high < n → stored = fallback ∨ stored = high

variable {low high fallback n stored : ℤ}

instance : Decidable (StoredWithin low high fallback n stored) :=
  decidable_of_iff ((low ≤ n → n ≤ high → stored = n) ∧
    (n < low → stored = fallback ∨ stored = low) ∧ (high < n → stored = fallback ∨ stored = high))
    ⟨fun ⟨hfits, hbelow, habove⟩ => ⟨hfits, hbelow, habove⟩,
      fun ⟨hfits, hbelow, habove⟩ => ⟨hfits, hbelow, habove⟩⟩

/-- A field with the range of its values and the numbers that the program cuts to a narrower
type. -/
structure NumberField (Peer : Type) where
  name : Str
  low : ℤ
  high : ℤ
  fallback : ℤ
  Cut : ℤ → Prop := fun _ => False
  stored : Peer → ℤ

/-- All the numbers that a message carries and that are not cut. -/
def StoresAll {Peer : Type} (fields : List (NumberField Peer)) (payload : Str) (peer : Peer) : Prop :=
  ∀ field ∈ fields, ∀ n, Carries payload field.name n → ¬field.Cut n →
    StoredWithin field.low field.high field.fallback n (field.stored peer)

end NumberFields
