import EspWaveRider.Firmware.DigitArrays
import EspWaveRider.Lib.CanonicalDecimal
import EspWaveRider.PeerNumbers

/-!
# Decimal fields

What `append_u32_heapless`, `append_i32_heapless`, `append_u32` and `append_i32` of
`rust/firmware/esp32s3/src/main.rs` write is what `json_field_u32` and `json_field_i32` read.

* `canonical_u32Text`, `canonical_i32Text` — the digits are the canonical ones;
* `writes_of_eq` — what the two writers of a type do to a buffer;
* `decimalFields_readBack` — both together.
-/

namespace EspWaveRider.DecimalFields

open Text NumberFields Firmware

/-! ## Texts -/

theorem shortest_u32Text {value : ℕ} (h : value ≤ u32Max) : Shortest (u32Text value) value where
  parses := parseDigits_u32Text h
  leading := leading_u32Text h

theorem canonical_u32Text {value : ℕ} (h : value ≤ u32Max) :
    CanonicalDecimal (u32Text value) value :=
  .nonneg (shortest_u32Text h)

theorem canonical_i32Text {value : ℤ} (h : value.natAbs ≤ u32Max) :
    CanonicalDecimal (i32Text value) value := by
  rw [i32Text]
  split
  · rename_i hneg
    have habs : value = -(value.natAbs : ℤ) := by omega
    have hdigits : Shortest (u32Text value.natAbs) value.natAbs := shortest_u32Text h
    have hminus := CanonicalDecimal.neg hdigits (by omega)
    rwa [← habs] at hminus
  · rename_i hnonneg
    have habs : (value.toNat : ℤ) = value := by omega
    have hplain : CanonicalDecimal (u32Text value.toNat) value.toNat := canonical_u32Text (by omega)
    rwa [habs] at hplain

/-! ## Writing -/

/-- The text is added to every buffer in which there is room for it. -/
structure Writes (text : Str)
    (heapless : HString 384 → Except DigitArrays.Failure (HString 384))
    (growing : Str → Except DigitArrays.Failure Str) : Prop where
  fits : ∀ output : HString 384, utf8Len output.items + text.length ≤ 384 →
    ∃ output', heapless output = .ok output' ∧ output'.items = output.items ++ text
  full : ∀ output : HString 384, 384 < utf8Len output.items + text.length →
    heapless output = .error .full
  grows : ∀ output, growing output = .ok (output ++ text)

theorem writes_of_eq {text : Str}
    {heapless : HString 384 → Except DigitArrays.Failure (HString 384)}
    {growing : Str → Except DigitArrays.Failure Str} (hlength : utf8Len text = text.length)
    (hheapless : ∀ output, heapless output = DigitArrays.orFull (output.extend text))
    (hgrowing : ∀ output, growing output = .ok (output ++ text)) : Writes text heapless growing where
  fits output hroom := by
    rw [← hlength] at hroom
    obtain ⟨output', hextend⟩ := Option.isSome_iff_exists.1 (Bounded.isSome_extend_iff.2 hroom)
    refine ⟨output', ?_, Bounded.items_of_extend hextend⟩
    rw [hheapless, hextend]
    rfl
  full output hfull := by
    have hnone : output.extend text = none := by
      rw [← Option.not_isSome_iff_eq_none, Bounded.isSome_extend_iff, not_le]
      rwa [← hlength] at hfull
    rw [hheapless, hnone]
    rfl
  grows := hgrowing

theorem writes_u32Text (value : UInt32) :
    Writes (u32Text value.toNat) (DigitArrays.appendU32Heapless · value)
      (DigitArrays.appendU32 · value) := by
  refine writes_of_eq (utf8Len_u32Text _) (fun output => ?_) (fun output => ?_)
  · rw [DigitArrays.appendU32Heapless_eq]
    exact congrArg _ (appends_appendU32Heapless value.toNat output)
  · rw [DigitArrays.appendU32_eq, appendU32_eq]

theorem writes_i32Text (value : Int32) :
    Writes (i32Text value.toInt) (DigitArrays.appendI32Heapless · value)
      (DigitArrays.appendI32 · value) := by
  refine writes_of_eq (utf8Len_i32Text _) (fun output => ?_) (fun output => ?_)
  · rw [DigitArrays.appendI32Heapless_eq]
    exact congrArg _ (appends_appendI32Heapless value.toInt output)
  · rw [DigitArrays.appendI32_eq, appendI32_eq]

/-! ## Reading -/

/-- The first field of this name has this value, and a comma or a brace behind it. -/
def HasField (payload name text : Str) : Prop :=
  ∃ delimiter rest, (delimiter = ',' ∨ delimiter = '}') ∧
    Behind (fieldPattern name []) payload (text ++ delimiter :: rest)

theorem carries_of_hasField {payload name text : Str} {v : ℤ} (htext : CanonicalDecimal text v)
    (h : HasField payload name text) : Carries payload name v := by
  obtain ⟨delimiter, rest, hdelimiter, hbehind⟩ := h
  refine ⟨[], text, [], delimiter :: rest, htext.decimalText, ?_, ?_, ?_, ?_⟩
  · exact fun c hc => absurd hc List.not_mem_nil
  · exact fun c hc => absurd hc List.not_mem_nil
  · intro c hc
    obtain rfl : delimiter = c := Option.some.inj hc
    exact hdelimiter
  · exact (after?_eq_some_iff (List.cons_ne_nil _ _)).2 hbehind

/-! ## Both -/

theorem isI32_toInt (value : Int32) : -2147483648 ≤ value.toInt ∧ value.toInt ≤ 2147483647 := by
  have hlow := value.minValue_le_toInt
  have hhigh := value.toInt_le
  exact ⟨hlow, hhigh⟩

/-- A number has one text, the canonical one.  All writers write it, and where it stands in a field
the reader of the type gives the number back. -/
theorem decimalFields_readBack : ∃ text : ℤ → Str, (∀ v, CanonicalDecimal (text v) v) ∧
    (∀ value : UInt32,
      Writes (text value.toNat) (DigitArrays.appendU32Heapless · value)
        (DigitArrays.appendU32 · value) ∧
      ∀ payload name, HasField payload name (text value.toNat) →
        jsonFieldU32 payload name = some value.toNat) ∧
    ∀ value : Int32,
      Writes (text value.toInt) (DigitArrays.appendI32Heapless · value)
        (DigitArrays.appendI32 · value) ∧
      ∀ payload name, HasField payload name (text value.toInt) →
        jsonFieldI32 payload name = some value.toInt := by
  refine ⟨signedDecimal, canonicalDecimal_signedDecimal, fun value => ?_, fun value => ?_⟩
  · have hvalue : value.toNat ≤ u32Max := Nat.le_of_lt_succ value.toNat_lt
    have htext := canonicalDecimal_iff.1 (canonical_u32Text hvalue)
    rw [← htext]
    refine ⟨writes_u32Text value, fun payload name h => ?_⟩
    have hrange : (0 : ℤ) ≤ value.toNat ∧ (value.toNat : ℤ) ≤ 4294967295 :=
      ⟨Int.natCast_nonneg _, by exact_mod_cast hvalue⟩
    rw [PeerNumbers.jsonFieldU32_of_carries (carries_of_hasField (canonical_u32Text hvalue) h),
      if_pos hrange, Int.toNat_natCast]
  · have hvalue := isI32_toInt value
    have hcanonical : CanonicalDecimal (i32Text value.toInt) value.toInt :=
      canonical_i32Text (by rw [u32Max]; omega)
    have htext := canonicalDecimal_iff.1 hcanonical
    rw [← htext]
    refine ⟨writes_i32Text value, fun payload name h => ?_⟩
    rw [PeerNumbers.jsonFieldI32_of_carries (carries_of_hasField hcanonical h), if_pos hvalue]

end EspWaveRider.DecimalFields
