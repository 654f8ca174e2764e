import EspWaveRider.Lib.Utf8

/-!
# A text and its bytes

Programs look for something in the bytes of a text and then cut the text there.  A cut outside
the text or inside a character is `none`.

* `fromUtf8_toUtf8` — encoding and decoding;
* `cut_append`, `slice_append` — where a text can be cut, and what the parts are;
* `skipWhile_append` — moving a cursor over bytes is moving over characters.
-/

namespace Text

theorem toUtf8_cons (c : Char) (s : Str) : toUtf8 (c :: s) = String.utf8EncodeChar c ++ toUtf8 s :=
  List.flatMap_cons

theorem toUtf8_append (s t : Str) : toUtf8 (s ++ t) = toUtf8 s ++ toUtf8 t := List.flatMap_append

theorem length_toUtf8 (s : Str) : (toUtf8 s).length = utf8Len s := by
  induction s with
  | nil => rfl
  | cons c s ih => rw [toUtf8_cons, List.length_append, String.length_utf8EncodeChar, utf8Len_cons, ih]

/-! ## One character -/

theorem toNat_byte {n : ℕ} (h : n < 256) : (UInt8.ofNat n).toNat = n := UInt8.toNat_ofNat_of_lt' h

theorem isContinuation_ofNat {n : ℕ} (h : n < 64) : isContinuation (UInt8.ofNat (n + 0x80)) = true := by
  rw [isContinuation_iff, toNat_byte (by omega)]
  omega

section Sequences

variable {b₀ b₁ b₂ b₃ : UInt8} {v : ℕ} (rest : List UInt8)

theorem not_ascii {b : UInt8} (h : 0x80 ≤ b.toNat) : ¬ b < 0x80 := by
  rw [UInt8.lt_iff_toNat_lt]
  exact not_lt.2 h

theorem between_iff {low b high : UInt8} :
    (low ≤ b && b ≤ high) = true ↔ low.toNat ≤ b.toNat ∧ b.toNat ≤ high.toNat := by
  rw [Bool.and_eq_true, decide_eq_true_iff, decide_eq_true_iff, UInt8.le_iff_toNat_le,
    UInt8.le_iff_toNat_le]

theorem fromUtf8_two (h₀ : 0xC2 ≤ b₀.toNat ∧ b₀.toNat ≤ 0xDF) (h₁ : isContinuation b₁ = true)
    (hv : (b₀.toNat - 0xC0) * 64 + (b₁.toNat - 0x80) = v) :
    fromUtf8 (b₀ :: b₁ :: rest) = (fromUtf8 rest).map (Char.ofNat v :: ·) := by
  have hlead : (0xC2 ≤ b₀ && b₀ ≤ 0xDF) = true := between_iff.2 h₀
  rw [fromUtf8.eq_def]
  simp only [not_ascii (by omega : 0x80 ≤ b₀.toNat), hlead, h₁, if_true, if_false, hv]

theorem fromUtf8_three (h₀ : 0xE0 ≤ b₀.toNat ∧ b₀.toNat ≤ 0xEF)
    (h₁ : if b₀.toNat = 0xE0 then 0xA0 ≤ b₁.toNat ∧ b₁.toNat ≤ 0xBF
      else if b₀.toNat = 0xED then 0x80 ≤ b₁.toNat ∧ b₁.toNat ≤ 0x9F else isContinuation b₁)
    (h₂ : isContinuation b₂ = true)
    (hv : (b₀.toNat - 0xE0) * 4096 + (b₁.toNat - 0x80) * 64 + (b₂.toNat - 0x80) = v) :
    fromUtf8 (b₀ :: b₁ :: b₂ :: rest) = (fromUtf8 rest).map (Char.ofNat v :: ·) := by
  have htwo : ¬ (0xC2 ≤ b₀ && b₀ ≤ 0xDF) = true := by
    rw [between_iff]
    exact fun h => absurd (h.2.trans_lt (by decide : UInt8.toNat 0xDF < 0xE0)) (not_lt.2 h₀.1)
  have hsecond : (if b₀ = 0xE0 then 0xA0 ≤ b₁ && b₁ ≤ 0xBF
      else if b₀ = 0xED then 0x80 ≤ b₁ && b₁ ≤ 0x9F else isContinuation b₁) = true := by
    simp only [apply_ite (· = true), between_iff, ← UInt8.toNat_inj]
    exact h₁
  have hlead : (0xE0 ≤ b₀ && b₀ ≤ 0xEF) = true := between_iff.2 h₀
  rw [fromUtf8.eq_def]
  simp only [not_ascii (by omega : 0x80 ≤ b₀.toNat), htwo, hlead, hsecond, h₂, Bool.and_true,
    Bool.false_eq_true, if_true, if_false, hv]

theorem fromUtf8_four (h₀ : 0xF0 ≤ b₀.toNat ∧ b₀.toNat ≤ 0xF4)
    (h₁ : if b₀.toNat = 0xF0 then 0x90 ≤ b₁.toNat ∧ b₁.toNat ≤ 0xBF
      else if b₀.toNat = 0xF4 then 0x80 ≤ b₁.toNat ∧ b₁.toNat ≤ 0x8F else isContinuation b₁)
    (h₂ : isContinuation b₂ = true) (h₃ : isContinuation b₃ = true)
    (hv : (b₀.toNat - 0xF0) * 262144 + (b₁.toNat - 0x80) * 4096 + (b₂.toNat - 0x80) * 64 +
      (b₃.toNat - 0x80) = v) :
    fromUtf8 (b₀ :: b₁ :: b₂ :: b₃ :: rest) = (fromUtf8 rest).map (Char.ofNat v :: ·) := by
  have hnot {low high : UInt8} (hhigh : high.toNat < 0xF0) : ¬ (low ≤ b₀ && b₀ ≤ high) = true := by
    rw [between_iff]
    omega
  have hsecond : (if b₀ = 0xF0 then 0x90 ≤ b₁ && b₁ ≤ 0xBF
      else if b₀ = 0xF4 then 0x80 ≤ b₁ && b₁ ≤ 0x8F else isContinuation b₁) = true := by
    simp only [apply_ite (· = true), between_iff, ← UInt8.toNat_inj]
    exact h₁
  have hlead : (0xF0 ≤ b₀ && b₀ ≤ 0xF4) = true := between_iff.2 h₀
  rw [fromUtf8.eq_def]
  simp only [not_ascii (by omega : 0x80 ≤ b₀.toNat), hnot (by decide : UInt8.toNat 0xDF < 0xF0),
    hnot (by decide : UInt8.toNat 0xEF < 0xF0), hlead, hsecond, h₂, h₃, Bool.and_true,
    Bool.false_eq_true, if_true, if_false, hv]

end Sequences

/-- Encoding and decoding one character. -/
theorem fromUtf8_utf8EncodeChar (c : Char) (rest : List UInt8) :
    fromUtf8 (String.utf8EncodeChar c ++ rest) = (fromUtf8 rest).map (c :: ·) := by
  have hvalid : c.val.toNat.isValidChar := c.valid
  have hc : Char.ofNat c.val.toNat = c := Char.ofNat_toNat c
  unfold Nat.isValidChar at hvalid
  unfold String.utf8EncodeChar
  generalize c.val.toNat = v at hvalid hc
  rw [← hc]
  dsimp only
  split_ifs with h1 h2 h3
  · have hascii : UInt8.ofNat v < 0x80 := by
      rw [UInt8.lt_iff_toNat_lt, toNat_byte (by omega)]
      exact Nat.lt_succ_of_le h1
    rw [List.singleton_append, fromUtf8_ascii_cons hascii, toNat_byte (by omega)]
  · refine fromUtf8_two rest ?_ (isContinuation_ofNat (Nat.mod_lt _ (by decide))) ?_
    · rw [toNat_byte (by omega)]
      omega
    · rw [toNat_byte (by omega), toNat_byte (by omega)]
      omega
  · refine fromUtf8_three rest ?_ ?_ (isContinuation_ofNat (Nat.mod_lt _ (by decide))) ?_
    · rw [toNat_byte (by omega)]
      omega
    · have hcont := isContinuation_ofNat (n := v / 64 % 64) (Nat.mod_lt _ (by decide))
      rw [toNat_byte (by omega), toNat_byte (by omega)]
      split_ifs
      · omega
      · omega
      · exact hcont
    · rw [toNat_byte (by omega), toNat_byte (by omega), toNat_byte (by omega)]
      omega
  · refine fromUtf8_four rest ?_ ?_ (isContinuation_ofNat (Nat.mod_lt _ (by decide)))
      (isContinuation_ofNat (Nat.mod_lt _ (by decide))) ?_
    · rw [toNat_byte (by omega)]
      omega
    · have hcont := isContinuation_ofNat (n := v / 4096 % 64) (Nat.mod_lt _ (by decide))
      rw [toNat_byte (by omega), toNat_byte (by omega)]
      split_ifs
      · omega
      · omega
      · exact hcont
    · rw [toNat_byte (by omega), toNat_byte (by omega), toNat_byte (by omega), toNat_byte (by omega)]
      omega

/-- What is encoded is decoded again. -/
theorem fromUtf8_toUtf8_append (s : Str) (rest : List UInt8) :
    fromUtf8 (toUtf8 s ++ rest) = (fromUtf8 rest).map (s ++ ·) := by
  induction s with
  | nil => exact Option.map_id'.symm
  | cons c s ih =>
    rw [toUtf8_cons, List.append_assoc, fromUtf8_utf8EncodeChar, ih, Option.map_map]
    rfl

theorem fromUtf8_toUtf8 (s : Str) : fromUtf8 (toUtf8 s) = some s := by
  have hdecode := fromUtf8_toUtf8_append s []
  rwa [List.append_nil, fromUtf8, Option.map_some, List.append_nil] at hdecode

/-! ## First bytes -/

def firstByte (c : Char) : UInt8 := (String.utf8EncodeChar c).headD 0

theorem exists_utf8EncodeChar (c : Char) : ∃ l, String.utf8EncodeChar c = firstByte c :: l := by
  obtain ⟨b, l, hbytes⟩ := List.exists_cons_of_ne_nil (String.utf8EncodeChar_ne_nil (c := c))
  refine ⟨l, ?_⟩
  rw [firstByte, hbytes, List.headD_cons]

/-- An ASCII character is its byte, and no other character has such a first byte. -/
theorem toNat_firstByte (c : Char) :
    if c.toNat < 128 then (firstByte c).toNat = c.toNat else 128 ≤ (firstByte c).toNat := by
  have hchar : c.toNat = c.val.toNat := rfl
  have hvalid : c.val.toNat.isValidChar := c.valid
  unfold Nat.isValidChar at hvalid
  rw [firstByte, String.utf8EncodeChar, hchar]
  generalize c.val.toNat = v at hvalid
  by_cases h1 : v ≤ 0x7F
  · rw [if_pos h1, if_pos (Nat.lt_succ_of_le h1), List.headD_cons, toNat_byte (by omega)]
  · rw [if_neg h1, if_neg (by omega)]
    split_ifs
    · rw [List.headD_cons, toNat_byte (by omega)]
      omega
    · rw [List.headD_cons, toNat_byte (by omega)]
      omega
    · rw [List.headD_cons, toNat_byte (by omega)]
      omega

theorem firstByte_eq_iff {a c : Char} (ha : a.toNat < 128) :
    firstByte c = UInt8.ofNat a.toNat ↔ c = a := by
  have hbyte : (UInt8.ofNat a.toNat).toNat = a.toNat := toNat_byte (by omega)
  have hfirst := toNat_firstByte c
  rw [← UInt8.toNat_inj, hbyte]
  constructor
  · intro h
    rw [h] at hfirst
    split_ifs at hfirst with hc
    · exact Char.toNat_inj.1 hfirst.symm
    · omega
  · rintro rfl
    rwa [if_pos ha] at hfirst

theorem utf8EncodeChar_of_lt {c : Char} (h : c.toNat < 128) :
    String.utf8EncodeChar c = [UInt8.ofNat c.toNat] := by
  have hchar : c.toNat = c.val.toNat := rfl
  rw [String.utf8EncodeChar, hchar, if_pos (by omega)]

/-- All bytes of other characters are outside of ASCII. -/
theorem le_of_mem_utf8EncodeChar {c : Char} (h : 128 ≤ c.toNat) {b : UInt8}
    (hb : b ∈ String.utf8EncodeChar c) : 128 ≤ b.toNat := by
  have hchar : c.toNat = c.val.toNat := rfl
  have hvalid : c.val.toNat.isValidChar := c.valid
  unfold Nat.isValidChar at hvalid
  rw [hchar] at h
  rw [String.utf8EncodeChar] at hb
  generalize c.val.toNat = v at h hvalid hb
  rw [if_neg (by omega)] at hb
  have hlarge {n : ℕ} (hn : 128 ≤ n ∧ n < 256) : 128 ≤ (UInt8.ofNat n).toNat := by
    rw [toNat_byte hn.2]
    exact hn.1
  split_ifs at hb
  · rcases List.mem_pair.1 hb with rfl | rfl
    · exact hlarge (by omega)
    · exact hlarge (by omega)
  · simp only [List.mem_cons, List.not_mem_nil, or_false] at hb
    rcases hb with rfl | rfl | rfl
    · exact hlarge (by omega)
    · exact hlarge (by omega)
    · exact hlarge (by omega)
  · simp only [List.mem_cons, List.not_mem_nil, or_false] at hb
    rcases hb with rfl | rfl | rfl | rfl
    · exact hlarge (by omega)
    · exact hlarge (by omega)
    · exact hlarge (by omega)
    · exact hlarge (by omega)

/-! ## Cuts -/

/-- A text in front of a byte offset, and behind it. -/
def cut : ℕ → Str → Option (Str × Str)
  | 0, s => some ([], s)
  | _ + 1, [] => none
  | n + 1, c :: s =>
    if c.utf8Size ≤ n + 1 then (cut (n + 1 - c.utf8Size) s).map fun parts => (c :: parts.1, parts.2)
    else none

/-- `&s[start..stop]`. -/
def slice (s : Str) (start stop : ℕ) : Option Str :=
  if start ≤ stop then
    (cut start s).bind fun parts => (cut (stop - start) parts.2).map (·.1)
  else none

theorem cut_append (s t : Str) : cut (utf8Len s) (s ++ t) = some (s, t) := by
  induction s with
  | nil => rw [utf8Len_nil, List.nil_append, cut]
  | cons c s ih =>
    obtain ⟨n, hn⟩ := Nat.exists_eq_add_of_lt (Char.utf8Size_pos c)
    have hlen : utf8Len (c :: s) = n + utf8Len s + 1 := by
      rw [utf8Len_cons]
      omega
    have hrest : n + utf8Len s + 1 - c.utf8Size = utf8Len s := by omega
    rw [hlen, List.cons_append, cut, if_pos (by omega), hrest, ih]
    rfl

theorem slice_append (front s rest : Str) :
    slice (front ++ (s ++ rest)) (utf8Len front) (utf8Len front + utf8Len s) = some s := by
  rw [slice, if_pos (Nat.le_add_right _ _), cut_append, Option.bind_some, Nat.add_sub_cancel_left,
    cut_append, Option.map_some]

/-! ## A cursor -/

/-- `while cursor < bytes.len() && p(bytes[cursor]) { cursor += 1 }`. -/
def skipWhile (p : UInt8 → Bool) (bytes : List UInt8) (cursor : ℕ) : Option ℕ :=
  if cursor < bytes.length then
    (bytes[cursor]?).bind fun b => if p b then skipWhile p bytes (cursor + 1) else some cursor
  else some cursor
termination_by bytes.length - cursor

theorem getElem?_toUtf8_append (front s : Str) (c : Char) :
    (toUtf8 (front ++ c :: s))[utf8Len front]? = some (firstByte c) := by
  obtain ⟨l, hl⟩ := exists_utf8EncodeChar c
  rw [toUtf8_append, ← length_toUtf8, List.getElem?_append_right le_rfl, Nat.sub_self, toUtf8_cons,
    hl]
  rfl

/-- Over ASCII characters the cursor moves one byte for each. -/
theorem skipWhile_append {p : UInt8 → Bool} {q : Char → Bool} (hp : ∀ c, p (firstByte c) = q c)
    (hascii : ∀ c, q c = true → c.utf8Size = 1) (front s : Str) :
    skipWhile p (toUtf8 (front ++ s)) (utf8Len front) = some (utf8Len (front ++ s.takeWhile q)) := by
  induction s generalizing front with
  | nil =>
    have hend : ¬ utf8Len front < (toUtf8 (front ++ [])).length := by
      rw [List.append_nil, length_toUtf8]
      exact lt_irrefl _
    rw [skipWhile, if_neg hend, List.takeWhile_nil, List.append_nil]
  | cons c s ih =>
    have hlt : utf8Len front < (toUtf8 (front ++ c :: s)).length := by
      have hpos := Char.utf8Size_pos c
      rw [length_toUtf8, utf8Len_append, utf8Len_cons]
      omega
    rw [skipWhile, if_pos hlt, getElem?_toUtf8_append, Option.bind_some, hp]
    cases hc : q c with
    | true =>
      have hfront : utf8Len (front ++ [c]) = utf8Len front + 1 := by
        rw [utf8Len_append, utf8Len_cons, utf8Len_nil, hascii c hc]
      have hstep := ih (front ++ [c])
      rw [hfront, List.append_assoc, List.singleton_append] at hstep
      rw [if_pos rfl, hstep, List.takeWhile_cons_of_pos hc, List.append_assoc, List.singleton_append]
    | false =>
      rw [if_neg Bool.false_ne_true, List.takeWhile_cons_of_neg (by simp [hc]), List.append_nil]

end Text
