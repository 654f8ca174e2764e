import EspWaveRider.Dashboard
import EspWaveRider.CommandFields

/-!
# The fields of a command, encoded by the dashboard and decoded by the C++ firmware

The dashboard writes a field with `encodeURIComponent` and joins the fields by `|`;
`splitConfigFields` cuts at the bars first and decodes what is between them.  A field is a
string of bytes, and its text has one character for each.

* `percentDecode_encodeBytes` — each byte is read back;
* `splitConfigFields_intercalate` — the fields, and empty ones for those that are missing;
* `percentDecode_append_percent` — every percent sign is looked at, whatever stands before it.
-/

namespace EspWaveRider.Cpp

open Text Percent Dashboard

theorem hexValue_hexDigit : ∀ n : Fin 16, hexValue (hexDigit n) = some (n : ℕ) := by
  decide

/-! ## What is encoded is decoded -/

theorem percentDecode_encodeByte (b : UInt8) (rest : Str) :
    percentDecode (encodeByte b ++ rest) = Char.ofNat b.toNat :: percentDecode rest := by
  have hbyte := b.toNat_lt
  have hhigh := hexValue_hexDigit ⟨b.toNat / 16, by omega⟩
  have hlow := hexValue_hexDigit ⟨b.toNat % 16, by omega⟩
  have hjoin : b.toNat / 16 * 16 + b.toNat % 16 = b.toNat := by omega
  have hescape : encodedByte (encodeByte b ++ rest) = some (Char.ofNat b.toNat) := by
    simp only [encodeByte, List.cons_append, List.nil_append, encodedByte, hhigh, hlow,
      Option.bind_eq_bind, Option.bind_some, hjoin]
  rw [encodeByte] at hescape ⊢
  simp only [List.cons_append, List.nil_append] at hescape ⊢
  rw [percentDecode, percentDecodeFrom, hescape]
  rfl

/-- The encoder keeps neither the percent sign nor the plus. -/
theorem percentDecode_encodeByteChar (b : UInt8) (rest : Str) :
    percentDecode (encodeByteChar isUnreserved b ++ rest) =
      Char.ofNat b.toNat :: percentDecode rest := by
  rw [encodeByteChar]
  split
  case isTrue hkeep =>
    have hpercent : Char.ofNat b.toNat ≠ '%' := by
      intro h
      rw [h] at hkeep
      exact absurd hkeep (by decide)
    have hplus : Char.ofNat b.toNat ≠ '+' := by
      intro h
      rw [h] at hkeep
      exact absurd hkeep (by decide)
    rw [List.singleton_append, percentDecode_cons hpercent, if_neg hplus]
  case isFalse => exact percentDecode_encodeByte b rest

theorem percentDecode_encodeBytes (bytes : List UInt8) :
    percentDecode (encodeBytes isUnreserved bytes) = ofBytes bytes := by
  induction bytes with
  | nil => rfl
  | cons b bytes ih => rw [encodeBytes_cons, percentDecode_encodeByteChar, ih, ofBytes_cons]

theorem lt_of_isUnreserved {c : Char} (h : isUnreserved c) : c.toNat < 128 := by
  simp only [isUnreserved, Bool.or_eq_true] at h
  rcases h with ((h | h) | h) | h
  · have hc := isAsciiUppercase_iff.1 h
    omega
  · have hc := isAsciiLowercase_iff.1 h
    omega
  · have hc := isAsciiDigit_iff.1 h
    omega
  · have hmarks : ("-_.!~*'()" : Str).all (fun d => d.toNat < 128) = true := by decide
    simpa using List.all_eq_true.1 hmarks c (List.contains_iff_mem.1 h)

/-- What the dashboard writes is the encoding of the bytes of the text. -/
theorem encodeURIComponent_eq (s : Str) :
    encodeURIComponent s = encodeBytes isUnreserved (toUtf8 s) :=
  encode_eq_encodeBytes (fun _ => lt_of_isUnreserved) s

/-! ## Fields -/

/-- Fields are cut at the bars and then decoded; those that are missing are empty. -/
theorem splitConfigFields_intercalate {parts : List Str} (hparts : ∀ part ∈ parts, '|' ∉ part)
    {n : ℕ} (hn : parts.length ≤ n) :
    splitConfigFields (['|'].intercalate parts) n =
      parts.map percentDecode ++ List.replicate (n - parts.length) [] := by
  induction parts generalizing n with
  | nil =>
    cases n with
    | zero => rfl
    | succ n => rfl
  | cons part parts ih =>
    obtain ⟨n, rfl⟩ := Nat.exists_eq_succ_of_ne_zero (Nat.ne_of_gt (Nat.lt_of_lt_of_le (by simp) hn))
    have hpart : '|' ∉ part := hparts part (List.mem_cons_self ..)
    cases parts with
    | nil =>
      rw [List.intercalate_singleton, splitConfigFields, splitOnce_of_notMem hpart]
      rfl
    | cons next parts =>
      have hrest := ih (fun p hp => hparts p (List.mem_cons_of_mem _ hp)) (Nat.le_of_succ_le_succ hn)
      have hlength : n + 1 - (part :: next :: parts).length = n - (next :: parts).length :=
        Nat.add_sub_add_right _ _ _
      rw [List.intercalate_cons_cons, List.append_assoc, List.singleton_append, splitConfigFields,
        splitOnce_append_cons hpart, Nat.succ_eq_add_one, hlength]
      dsimp only
      rw [hrest]
      rfl

theorem splitConfigFields_encodeBytes (strings : List (List UInt8)) {n : ℕ}
    (hn : strings.length ≤ n) :
    splitConfigFields (['|'].intercalate (strings.map (encodeBytes isUnreserved))) n =
      strings.map ofBytes ++ List.replicate (n - strings.length) [] := by
  have hbar : ∀ part ∈ strings.map (encodeBytes isUnreserved), '|' ∉ part := by
    intro part hpart
    obtain ⟨bytes, -, rfl⟩ := List.mem_map.1 hpart
    exact not_mem_encodeBytes (by decide) (by decide) (by decide) bytes
  have hdecode : percentDecode ∘ encodeBytes isUnreserved = ofBytes :=
    funext percentDecode_encodeBytes
  rw [splitConfigFields_intercalate hbar (by rwa [List.length_map]), List.map_map, hdecode,
    List.length_map]

/-! ## Escapes that are none -/

/-- What is not a percent sign and two digits is copied, and decoding goes on behind it. -/
theorem percentDecode_of_encodedByte {c : Char} {rest : Str} (h : encodedByte (c :: rest) = none) :
    percentDecode (c :: rest) = (if c = '+' then ' ' else c) :: percentDecode rest := by
  rw [percentDecode, percentDecodeFrom, h]
  rfl

/-- A percent sign is no digit, so that it ends an escape that is cut short before it. -/
theorem encodedByte_append_percent (c : Char) (s rest : Str) :
    encodedByte (c :: (s ++ '%' :: rest)) = encodedByte (c :: s) := by
  have hnone : hexValue '%' = none := by decide
  by_cases hc : c = '%'
  · subst hc
    match s with
    | [] =>
      cases rest with
      | nil => rfl
      | cons d rest => simp [encodedByte, hnone]
    | [d] => simp [encodedByte, hnone]
    | high :: low :: tail => rfl
  · have hplain (t : Str) : encodedByte (c :: t) = none := by
      rw [encodedByte.eq_2]
      intro high low tail heq
      exact hc (List.cons.inj heq).1
    rw [hplain, hplain]

theorem two_le_of_encodedByte {c byte : Char} {s : Str} (h : encodedByte (c :: s) = some byte) :
    2 ≤ s.length := by
  match s with
  | [] => exact absurd h (by simp [encodedByte])
  | [d] => exact absurd h (by simp [encodedByte])
  | high :: low :: tail => simp

theorem percentDecodeFrom_append_percent {skip : ℕ} {front : Str} (hskip : skip ≤ front.length)
    (rest : Str) : percentDecodeFrom skip (front ++ '%' :: rest) =
      percentDecodeFrom skip front ++ percentDecode ('%' :: rest) := by
  induction front generalizing skip with
  | nil =>
    obtain rfl := Nat.le_zero.1 hskip
    rfl
  | cons c front ih =>
    cases skip with
    | succ skip => exact ih (Nat.le_of_succ_le_succ hskip)
    | zero =>
      rw [List.cons_append, percentDecodeFrom, percentDecodeFrom, encodedByte_append_percent]
      cases hescape : encodedByte (c :: front) with
      | none =>
        dsimp only
        rw [ih (Nat.zero_le _), List.cons_append]
      | some byte =>
        dsimp only
        rw [ih (two_le_of_encodedByte hescape), List.cons_append]

/-- What stands before a percent sign is decoded by itself. -/
theorem percentDecode_append_percent (front rest : Str) :
    percentDecode (front ++ '%' :: rest) = percentDecode front ++ percentDecode ('%' :: rest) :=
  percentDecodeFrom_append_percent (Nat.zero_le _) rest

/-- Text without an escape keeps all of its characters but the pluses. -/
theorem percentDecode_of_no_escape {value : Str}
    (h : ∀ rest, '%' :: rest <:+ value → encodedByte ('%' :: rest) = none) :
    percentDecode value = value.map fun c => if c = '+' then ' ' else c := by
  induction value with
  | nil => rfl
  | cons c rest ih =>
    have hrest := ih fun tail htail => h tail (htail.trans (List.suffix_cons c rest))
    have hescape : encodedByte (c :: rest) = none := by
      by_cases hc : c = '%'
      · subst hc
        exact h rest (List.suffix_refl _)
      · rw [encodedByte.eq_2]
        intro high low tail heq
        exact hc (List.cons.inj heq).1
    rw [percentDecode_of_encodedByte hescape, hrest, List.map_cons]

/-! ## The coding -/

/-- Encoded fields are read back, missing ones are empty, and a percent sign without its two
digits stays where it is, as does what follows it, up to the pluses. -/
theorem fields_of_encoded :
    (∀ (strings : List (List UInt8)) (n : ℕ), strings.length ≤ n →
      splitConfigFields (['|'].intercalate (strings.map (encodeBytes isUnreserved))) n =
        strings.map ofBytes ++ List.replicate (n - strings.length) []) ∧
    (∀ (texts : List Str) (n : ℕ), texts.length ≤ n →
      splitConfigFields (['|'].intercalate (texts.map encodeURIComponent)) n =
        texts.map (fun text => ofBytes (toUtf8 text)) ++ List.replicate (n - texts.length) []) ∧
    (∀ front rest, encodedByte ('%' :: rest) = none →
      percentDecode (front ++ '%' :: rest) = percentDecode front ++ '%' :: percentDecode rest) ∧
    ∀ value, (∀ rest, '%' :: rest <:+ value → encodedByte ('%' :: rest) = none) →
      percentDecode value = value.map fun c => if c = '+' then ' ' else c := by
  refine ⟨fun strings n => splitConfigFields_encodeBytes strings, ?_, ?_,
    fun value => percentDecode_of_no_escape⟩
  · intro texts n hn
    have hbytes : texts.map encodeURIComponent =
        (texts.map toUtf8).map (encodeBytes isUnreserved) := by
      rw [List.map_map]
      exact List.map_congr_left fun text _ => encodeURIComponent_eq text
    rw [hbytes, splitConfigFields_encodeBytes _ (by rwa [List.length_map]), List.length_map,
      List.map_map]
    rfl
  · intro front rest hescape
    rw [percentDecode_append_percent, percentDecode_of_encodedByte hescape, if_neg (by decide)]

/-- A plus behind a percent sign is a space, too. -/
theorem plus_in_escape : ¬ ∀ high low : Char, encodedByte ['%', high, low] = none →
    percentDecode ['%', high, low] = ['%', high, low] := by
  intro h
  exact absurd (h '+' '1' (by decide)) (by decide)

end EspWaveRider.Cpp
