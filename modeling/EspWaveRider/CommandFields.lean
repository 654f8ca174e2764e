import EspWaveRider.Core.Command
import EspWaveRider.Cpp.Text
import EspWaveRider.Lib.Fields

/-!
# How the two firmwares read the fields of a command

The C++ decodes the fields of a command and reads a number as far as it goes; the port takes the
fields as they are and is strict about numbers.

* `getD_splitConfigFields` — the same fields, decoded;
* `toInt_percentDecode`, `parseI32OrDefault_eq` — both read the same number where there is one.
-/

namespace EspWaveRider.Cpp

open Text Command

/-- The C++ sees the decoded fields. -/
theorem splitConfigFields_eq {payload : Str} {n : ℕ} (h : (payload.splitOn '|').length = n) :
    splitConfigFields payload n = (payload.splitOn '|').map percentDecode := by
  induction n generalizing payload with
  | zero => exact absurd (List.length_eq_zero_iff.1 h) (List.splitOn_ne_nil _ _)
  | succ n ih =>
    rcases splitOn_cases '|' payload with ⟨hbar, hsplit⟩ | ⟨field, rest, hbar, rfl, hsplit⟩
    · rw [hsplit, List.length_singleton] at h
      obtain rfl : n = 0 := by omega
      rw [splitConfigFields, splitOnce_of_notMem hbar, hsplit]
      rfl
    · rw [hsplit, List.length_cons, Nat.add_right_cancel_iff] at h
      rw [splitConfigFields, splitOnce_append_cons hbar, hsplit, List.map_cons, ← ih h]

theorem getD_splitConfigFields {n : ℕ} {payload : Str} {fields : Vector Str n}
    (h : splitFields n payload = .ok fields) (i : ℕ) (hi : i < n) :
    (splitConfigFields payload n).getD i [] = percentDecode fields[i] := by
  rw [splitFields] at h
  split at h
  · rename_i hlength
    cases h
    rw [splitConfigFields_eq hlength, List.getD_eq_getElem _ _ (by simpa [hlength] using hi)]
    simp
  · cases h

theorem percentDecode_cons {c : Char} (h : c ≠ '%') (s : Str) :
    percentDecode (c :: s) = (if c = '+' then ' ' else c) :: percentDecode s := by
  rw [percentDecode, percentDecodeFrom, encodedByte.eq_2]
  · rfl
  · intro high low rest heq
    exact h (List.cons.inj heq).1

/-- Text without a percent sign and a plus is left alone. -/
theorem percentDecode_of_forall {s : Str} (h : ∀ c ∈ s, c ≠ '%' ∧ c ≠ '+') : percentDecode s = s := by
  induction s with
  | nil => rfl
  | cons c s ih =>
    obtain ⟨hpercent, hplus⟩ := h c (List.mem_cons_self ..)
    rw [percentDecode_cons hpercent, if_neg hplus, ih fun d hd => h d (List.mem_cons_of_mem _ hd)]

theorem percentDecode_eq_nil_iff {s : Str} : percentDecode s = [] ↔ s = [] := by
  cases s with
  | nil => exact iff_of_true rfl rfl
  | cons c s =>
    refine iff_of_false ?_ (List.cons_ne_nil c s)
    rw [percentDecode, percentDecodeFrom]
    split
    · exact List.cons_ne_nil _ _
    · exact List.cons_ne_nil _ _

/-- Empty, or a decimal integer of 32 bits. -/
def NumericField (field : Str) : Prop :=
  field = [] ∨ ∃ v, parseSigned (-2147483648) 2147483647 field = some v

instance (field : Str) : Decidable (NumericField field) :=
  decidable_of_iff (field = [] ∨ (parseSigned (-2147483648) 2147483647 field).isSome)
    (or_congr_right Option.isSome_iff_exists)

/-- The number that `atol` reads after white space and a sign. -/
def magnitude (s : Str) : ℤ := digitsValue 0 (s.takeWhile isAsciiDigit)

theorem magnitude_of_parseDigits {s : Str} {n : ℕ} (h : parseDigits s = some n) : magnitude s = n := by
  have hdigits := forall_of_parseDigits h
  rw [parseDigits] at h
  split at h
  · rw [magnitude, List.takeWhile_eq_self_iff.2 hdigits, Option.some.inj h]
  · cases h

theorem ne_of_isAsciiDigit {c : Char} (h : isAsciiDigit c = true) :
    isCSpace c = false ∧ c ≠ '%' ∧ c ≠ '+' ∧ c ≠ '-' := by
  have hdigit := isAsciiDigit_iff.1 h
  refine ⟨?_, ?_, ?_, ?_⟩
  · have hspace : c ≠ ' ' := by
      rintro rfl
      exact absurd h (by decide)
    simp only [isCSpace, hspace, decide_false, Bool.false_or, Bool.and_eq_false_iff,
      decide_eq_false_iff_not]
    omega
  all_goals
    rintro rfl
    exact absurd h (by decide)

theorem toInt_space (s : Str) : toInt (' ' :: s) = toInt s := rfl

theorem toInt_plus (s : Str) : toInt ('+' :: s) = max (-2147483648) (min (magnitude s) 2147483647) := rfl

theorem toInt_minus (s : Str) :
    toInt ('-' :: s) = max (-2147483648) (min (-magnitude s) 2147483647) := rfl

/-- What starts with a digit is read as far as the digits go. -/
theorem toInt_of_isAsciiDigit {c : Char} (h : isAsciiDigit c = true) (s : Str) :
    toInt (c :: s) = max (-2147483648) (min (magnitude (c :: s)) 2147483647) := by
  obtain ⟨hspace, -, hplus, hminus⟩ := ne_of_isAsciiDigit h
  have hdrop : (c :: s).dropWhile isCSpace = c :: s :=
    List.dropWhile_cons_of_neg (by simp [hspace])
  rw [toInt, hdrop]
  dsimp only
  split
  · exact absurd (List.cons.inj ‹_›).1 hminus
  · exact absurd (List.cons.inj ‹_›).1 hplus
  · rfl

theorem toInt_of_parseDigits {s : Str} {n : ℕ} (h : parseDigits s = some n) :
    toInt s = max (-2147483648) (min (magnitude s) 2147483647) := by
  cases s with
  | nil => cases h
  | cons c s => exact toInt_of_isAsciiDigit (forall_of_parseDigits h c (List.mem_cons_self ..)) s

/-- Both readings of a decimal integer of 32 bits. -/
theorem toInt_of_parseSigned {field : Str} {v : ℤ}
    (h : parseSigned (-2147483648) 2147483647 field = some v) :
    toInt field = v ∧ toInt (percentDecode field) = v := by
  obtain ⟨hdigits, hrange⟩ := Option.filter_eq_some_iff.1 h
  have hlong : max (-2147483648) (min v 2147483647) = v := by
    rw [decide_eq_true_iff] at hrange
    omega
  have hplain {s : Str} {n : ℕ} (hs : parseDigits s = some n) : percentDecode s = s :=
    percentDecode_of_forall fun c hc =>
      have hne := ne_of_isAsciiDigit (forall_of_parseDigits hs c hc)
      ⟨hne.2.1, hne.2.2.1⟩
  unfold signedDigits at hdigits
  split at hdigits
  · obtain ⟨n, hn, rfl⟩ := Option.map_eq_some_iff.1 hdigits
    rw [percentDecode_cons (by decide), if_pos rfl, toInt_space, hplain hn, toInt_plus,
      toInt_of_parseDigits hn, magnitude_of_parseDigits hn]
    exact ⟨hlong, hlong⟩
  · obtain ⟨n, hn, rfl⟩ := Option.map_eq_some_iff.1 hdigits
    rw [percentDecode_cons (by decide), if_neg (by decide), hplain hn, toInt_minus,
      magnitude_of_parseDigits hn]
    exact ⟨hlong, hlong⟩
  · obtain ⟨n, hn, rfl⟩ := Option.map_eq_some_iff.1 hdigits
    rw [hplain hn, toInt_of_parseDigits hn, magnitude_of_parseDigits hn]
    exact ⟨hlong, hlong⟩

/-- Decoding does not change the number. -/
theorem toInt_percentDecode {field : Str} (h : NumericField field) :
    toInt (percentDecode field) = toInt field := by
  rcases h with rfl | ⟨v, hv⟩
  · rfl
  · obtain ⟨hraw, hdecoded⟩ := toInt_of_parseSigned hv
    rw [hraw, hdecoded]

/-- The port reads the same number, or takes the default. -/
theorem parseI32OrDefault_eq {field : Str} (h : NumericField field) (default : ℤ) :
    parseI32OrDefault field default = .ok (if field = [] then default else toInt field) := by
  rw [parseI32OrDefault]
  split
  case isTrue => rfl
  case isFalse hne =>
    obtain ⟨v, hv⟩ := h.resolve_left hne
    rw [parseI32, hv, (toInt_of_parseSigned hv).1]
    rfl

/-- A default of zero is what the C++ reads, too. -/
theorem parseI32OrDefault_zero {field : Str} (h : NumericField field) :
    parseI32OrDefault field 0 = .ok (toInt field) := by
  rw [parseI32OrDefault_eq h]
  split
  case isTrue hempty => rw [hempty]; rfl
  case isFalse => rfl

end EspWaveRider.Cpp
