import EspWaveRider.Lib.NumberFields

/-!
# The canonical decimal form

Digits can have zeros before them and a sign that the number does not need.  The canonical form of
an integer has neither.

* `Shortest`, `CanonicalDecimal` — natural numbers and integers in this form;
* `shortest_iff`, `canonicalDecimal_iff` — there is one for every number, and only one.
-/

namespace Text

open NumberFields

/-- Digits that begin with a zero only when they are nothing else. -/
structure Shortest (digits : Str) (n : ℕ) : Prop where
  parses : parseDigits digits = some n
  leading : digits.head? = some '0' → digits = ['0']

/-- The shortest digits, behind a minus sign when the number is negative. -/
inductive CanonicalDecimal : Str → ℤ → Prop where
  | nonneg {digits : Str} {n : ℕ} : Shortest digits n → CanonicalDecimal digits n
  | neg {digits : Str} {n : ℕ} : Shortest digits n → 0 < n → CanonicalDecimal ('-' :: digits) (-n)

/-! ## Natural numbers -/

theorem digitChar_sub {c : Char} (h : isAsciiDigit c) : Nat.digitChar (c.toNat - 48) = c := by
  have hcode := isAsciiDigit_iff.1 h
  apply Char.toNat_inj.1
  rw [Nat.toNat_digitChar_of_lt_ten (by omega)]
  omega

/-- One more digit stands for ten times as much. -/
theorem decimal_concat {acc : ℕ} (hacc : 0 < acc) {c : Char} (hc : isAsciiDigit c) :
    decimal acc ++ [c] = decimal (acc * 10 + (c.toNat - 48)) := by
  have hdigit : c.toNat - 48 < 10 := by
    have hcode := isAsciiDigit_iff.1 hc
    omega
  have happ : Nat.toDigits 10 acc ++ Nat.toDigits 10 (c.toNat - 48) =
      Nat.toDigits 10 (10 * acc + (c.toNat - 48)) :=
    Nat.toDigits_append_toDigits (by decide) hacc hdigit
  rwa [Nat.toDigits_of_lt_base hdigit, digitChar_sub hc, Nat.mul_comm 10 acc] at happ

theorem decimal_append {s : Str} (hs : ∀ c ∈ s, isAsciiDigit c) {acc : ℕ} (hacc : 0 < acc) :
    decimal acc ++ s = decimal (digitsValue acc s) := by
  induction s generalizing acc with
  | nil => exact List.append_nil _
  | cons c s ih =>
    have hc : isAsciiDigit c := hs c (List.mem_cons_self ..)
    have hrest : ∀ d ∈ s, isAsciiDigit d := fun d hd => hs d (List.mem_cons_of_mem _ hd)
    have hstep : decimal (acc * 10 + (c.toNat - 48)) ++ s =
        decimal (digitsValue (acc * 10 + (c.toNat - 48)) s) := ih hrest (by omega)
    rw [← decimal_concat hacc hc, List.append_assoc, List.singleton_append] at hstep
    exact hstep

theorem head?_decimal {n : ℕ} (h : (decimal n).head? = some '0') : n = 0 := by
  induction n using Nat.strong_induction_on with
  | _ n ih =>
    have hdigits : decimal n =
        if n < 10 then [n.digitChar] else decimal (n / 10) ++ [(n % 10).digitChar] :=
      Nat.toDigits_eq_if (by decide)
    rw [hdigits] at h
    split at h
    · rename_i hsmall
      have hzero := congrArg Char.toNat (Option.some.inj h)
      rw [Nat.toNat_digitChar_of_lt_ten hsmall] at hzero
      have hcode : '0'.toNat = 48 := rfl
      omega
    · rename_i hlarge
      rw [List.head?_append_of_ne_nil (decimal (n / 10)) Nat.toDigits_ne_nil] at h
      have hquotient := ih (n / 10) (by omega) h
      omega

theorem shortest_decimal (n : ℕ) : Shortest (decimal n) n where
  parses := parseDigits_decimal n
  leading hzero := by
    rw [head?_decimal hzero]
    rfl

theorem Shortest.eq_decimal {digits : Str} {n : ℕ} (h : Shortest digits n) : digits = decimal n := by
  have hall := forall_of_parseDigits h.parses
  have hvalue : digitsValue 0 digits = n := (Numeral.mk digits n h.parses (le_refl n)).digitsValue_eq
  cases digits with
  | nil => cases h.parses
  | cons c s =>
    by_cases hzero : c = '0'
    · subst hzero
      obtain ⟨_, rfl⟩ := List.cons.inj (h.leading rfl)
      rw [← hvalue]
      rfl
    · have hc : isAsciiDigit c := hall c (List.mem_cons_self ..)
      have hrest : ∀ d ∈ s, isAsciiDigit d := fun d hd => hall d (List.mem_cons_of_mem _ hd)
      have hcode := isAsciiDigit_iff.1 hc
      have hpos : 0 < c.toNat - 48 := by
        have hne : c.toNat ≠ '0'.toNat := mt Char.toNat_inj.1 hzero
        have hchar : '0'.toNat = 48 := rfl
        omega
      have hfirst : decimal (c.toNat - 48) = [c] := by
        rw [decimal, Nat.toDigits_of_lt_base (by omega), digitChar_sub hc]
      calc c :: s = decimal (c.toNat - 48) ++ s := by rw [hfirst, List.singleton_append]
        _ = decimal (digitsValue (c.toNat - 48) s) := decimal_append hrest hpos
        _ = decimal n := by
          rw [← hvalue]
          show _ = decimal (digitsValue (0 * 10 + (c.toNat - 48)) s)
          rw [Nat.zero_mul, Nat.zero_add]

/-- A natural number has one shortest form. -/
theorem shortest_iff {digits : Str} {n : ℕ} : Shortest digits n ↔ digits = decimal n := by
  constructor
  · exact Shortest.eq_decimal
  · rintro rfl
    exact shortest_decimal n

/-! ## Integers -/

theorem canonicalDecimal_signedDecimal (v : ℤ) : CanonicalDecimal (signedDecimal v) v := by
  cases v with
  | ofNat n => exact .nonneg (shortest_iff.2 rfl)
  | negSucc n => exact .neg (shortest_iff.2 rfl) (Nat.succ_pos n)

/-- An integer has one canonical form. -/
theorem canonicalDecimal_iff {text : Str} {v : ℤ} :
    CanonicalDecimal text v ↔ text = signedDecimal v := by
  constructor
  · intro h
    cases h with
    | nonneg hdigits => exact shortest_iff.1 hdigits
    | @neg _ n hdigits hpos =>
      obtain ⟨m, rfl⟩ := Nat.exists_eq_succ_of_ne_zero (Nat.ne_of_gt hpos)
      rw [shortest_iff.1 hdigits]
      rfl
  · rintro rfl
    exact canonicalDecimal_signedDecimal v

theorem CanonicalDecimal.decimalText {text : Str} {v : ℤ} (h : CanonicalDecimal text v) :
    DecimalText text v := by
  cases h with
  | nonneg hdigits => exact .nonneg hdigits.parses
  | neg hdigits hpos => exact .neg hdigits.parses hpos

end Text
