import EspWaveRider.Lib.Text

/-!
# A number at the start of a text

A text that starts with digits and goes on with something else: what is left when
it is trimmed, and which part of it is the number.

* `Numeral` — digits and the number they stand for, and `Numeral.ofNat`, the digits
  a number is written with;
* `signedDecimal` — a number with its sign, and when it is read back;
* `rdropWhile_append`, `trimmed_number` — trimming at the end stops at the last
  character that is not trimmed;
* `Numeral.takeWhile_append` — the leading digits.
-/

namespace Text

/-! ## Digits -/

theorem digitsValue_eq_ofDigitChars (acc : ℕ) (s : Str) :
    digitsValue acc s = Nat.ofDigitChars 10 s acc := by
  induction s generalizing acc with
  | nil => rfl
  | cons c s ih =>
    have hstep : acc * 10 + (c.toNat - 48) = 10 * acc + (c.toNat - '0'.toNat) := by
      rw [Nat.mul_comm]
      rfl
    unfold digitsValue
    rw [ih, Nat.ofDigitChars_cons, hstep]

theorem digitsValue_decimal (n : ℕ) : digitsValue 0 (decimal n) = n := by
  rw [digitsValue_eq_ofDigitChars]
  exact Nat.ofDigitChars_ten_toDigits

theorem isAsciiDigit_of_mem_decimal {n : ℕ} {c : Char} (h : c ∈ decimal n) :
    isAsciiDigit c = true :=
  Nat.isDigit_of_mem_toDigits (by decide) (by decide) h

theorem parseDigits_decimal (n : ℕ) : parseDigits (decimal n) = some n := by
  have hdigits : decimal n ≠ [] ∧ (decimal n).all isAsciiDigit :=
    ⟨Nat.toDigits_ne_nil, List.all_eq_true.2 fun _ => isAsciiDigit_of_mem_decimal⟩
  rw [parseDigits, if_pos hdigits, digitsValue_decimal]

/-- Digits, perhaps with zeros before them, and the number they stand for. -/
structure Numeral (max : ℕ) where
  digits : Str
  value : ℕ
  parseDigits_eq : parseDigits digits = some value
  value_le : value ≤ max

namespace Numeral

/-- The digits a number is written with. -/
def ofNat {max : ℕ} (n : ℕ) (h : n ≤ max) : Numeral max := ⟨decimal n, n, parseDigits_decimal n, h⟩

variable {max : ℕ} (n : Numeral max)

theorem isAsciiDigit_of_mem {c : Char} (h : c ∈ n.digits) : isAsciiDigit c = true :=
  forall_of_parseDigits n.parseDigits_eq c h

theorem digits_ne_nil : n.digits ≠ [] := by
  intro hnil
  have hparse := n.parseDigits_eq
  rw [hnil] at hparse
  cases hparse

theorem digitsValue_eq : digitsValue 0 n.digits = n.value := by
  have hparse := n.parseDigits_eq
  rw [parseDigits] at hparse
  split at hparse
  · exact Option.some.inj hparse
  · cases hparse

theorem parseUnsigned_eq : parseUnsigned max n.digits = some n.value := by
  have hplus : ∀ rest, n.digits ≠ '+' :: rest := by
    intro rest heq
    have hmem : '+' ∈ n.digits := heq ▸ List.mem_cons_self ..
    exact absurd (n.isAsciiDigit_of_mem hmem) (by decide)
  rw [parseUnsigned, n.parseDigits_eq, Option.filter_some_pos (by simpa using n.value_le)]
  exact hplus

/-- The digits end where something else starts. -/
theorem takeWhile_append {tail : Str} (h : ∀ c, tail.head? = some c → isAsciiDigit c = false) :
    (n.digits ++ tail).takeWhile isAsciiDigit = n.digits := by
  rw [List.takeWhile_append_of_pos fun c => n.isAsciiDigit_of_mem]
  cases tail with
  | nil => exact List.append_nil _
  | cons c tail =>
    have hc : ¬ isAsciiDigit c = true := by
      rw [h c rfl]
      exact Bool.false_ne_true
    rw [List.takeWhile_cons_of_neg hc, List.append_nil]

end Numeral

/-- Only digits and a sign are read. -/
theorem parseUnsigned_of_mem {s : Str} {c : Char} (hc : c ∈ s) (hnot : isNumberChar c = false)
    (max : ℕ) : parseUnsigned max s = none := by
  cases hparse : parseUnsigned max s with
  | none => rfl
  | some n =>
    have hnumber := forall_of_parseUnsigned hparse c hc
    rw [hnot] at hnumber
    cases hnumber

theorem parseUnsigned_decimal {max n : ℕ} (h : n ≤ max) : parseUnsigned max (decimal n) = some n :=
  (Numeral.ofNat n h).parseUnsigned_eq

/-! ## Signed numbers -/

/-- The decimal digits of `n`, after a sign when it is negative. -/
def signedDecimal : ℤ → Str
  | .ofNat n => decimal n
  | .negSucc n => '-' :: decimal (n + 1)

theorem signedDigits_signedDecimal (v : ℤ) : signedDigits (signedDecimal v) = some v := by
  cases v with
  | ofNat n =>
    have hsign (sign : Char) (hsign : isAsciiDigit sign = false) (rest : Str) :
        decimal n ≠ sign :: rest := by
      intro heq
      have hmem : sign ∈ decimal n := heq ▸ List.mem_cons_self ..
      exact Bool.false_ne_true (hsign ▸ isAsciiDigit_of_mem_decimal hmem)
    show signedDigits (decimal n) = some (Int.ofNat n)
    unfold signedDigits
    split
    · exact absurd ‹_› (hsign '+' rfl _)
    · exact absurd ‹_› (hsign '-' rfl _)
    · rw [parseDigits_decimal, Option.map_some]
  | negSucc n =>
    show (parseDigits (decimal (n + 1))).map (fun n => -Int.ofNat n) = some (Int.negSucc n)
    rw [parseDigits_decimal, Option.map_some]
    rfl

/-- A number is read back exactly when it lies within the bounds. -/
theorem parseSigned_signedDecimal_eq_some_iff {lo hi v w : ℤ} :
    parseSigned lo hi (signedDecimal v) = some w ↔ (lo ≤ v ∧ v ≤ hi) ∧ w = v := by
  rw [parseSigned, signedDigits_signedDecimal, Option.filter_eq_some_iff, Option.some_inj,
    decide_eq_true_iff]
  constructor
  · rintro ⟨rfl, hrange⟩
    exact ⟨hrange, rfl⟩
  · rintro ⟨hrange, rfl⟩
    exact ⟨rfl, hrange⟩

theorem isNumberChar_of_mem_signedDecimal {v : ℤ} {c : Char} (h : c ∈ signedDecimal v) :
    isNumberChar c = true :=
  forall_of_parseSigned (parseSigned_signedDecimal_eq_some_iff.2 ⟨⟨le_refl v, le_refl v⟩, rfl⟩) c h

/-! ## Trimming -/

section Trimming

variable {p : Char → Bool}

/-- Trimming at the end goes on in the first part when nothing is left of the second. -/
theorem rdropWhile_append (s t : Str) :
    (s ++ t).rdropWhile p = if t.rdropWhile p = [] then s.rdropWhile p else s ++ t.rdropWhile p := by
  simp only [List.rdropWhile, List.reverse_append, List.dropWhile_append, List.isEmpty_iff,
    List.reverse_eq_nil_iff]
  split_ifs
  · rfl
  · rw [List.reverse_append, List.reverse_reverse]

theorem rdropWhile_ne_nil {s : Str} {c : Char} (hc : c ∈ s) (hp : p c = false) :
    s.rdropWhile p ≠ [] := by
  rw [Ne, List.rdropWhile_eq_nil_iff]
  intro hall
  rw [hall c hc] at hp
  cases hp

/-- Trimming a space, digits and what follows them. -/
theorem trimmed_number {digits : Str} (hspace : p ' ' = true) (hne : digits ≠ [])
    (hp : ∀ c ∈ digits, p c = false) (tail : Str) :
    ((' ' :: (digits ++ tail)).dropWhile p).rdropWhile p = digits ++ tail.rdropWhile p := by
  obtain ⟨c, rest, rfl⟩ := List.exists_cons_of_ne_nil hne
  have hc : ¬ p c = true := by
    rw [hp c (List.mem_cons_self ..)]
    exact Bool.false_ne_true
  have hkept : (c :: rest).rdropWhile p = c :: rest := by
    rw [List.rdropWhile_eq_self_iff]
    intro h
    rw [hp _ (List.getLast_mem h)]
    exact Bool.false_ne_true
  rw [List.dropWhile_cons_of_pos hspace, List.cons_append, List.dropWhile_cons_of_neg hc,
    ← List.cons_append, rdropWhile_append]
  split_ifs with hnone
  · rw [hkept, hnone, List.append_nil]
  · rfl

end Trimming

end Text
