import Mathlib

/-!
# Text

A `str` of the programs modelled on top of this library is the list of its
Unicode scalar values.  This file collects the operations such programs use:

* `utf8Len` — the number of bytes a text occupies, with `utf8Len_append`;
* `fromUtf8` — decoding a byte string, `none` when it is not well formed UTF-8;
* `trim`, `find?`, `splitOnce`, `eqIgnoreAsciiCase` — searching and cutting;
* `parseUnsigned`, `parseSigned` — reading a decimal integer into a bounded
  type, `none` on anything else;
* `decimal` — writing a natural number in base ten.
-/

/-- A text: the list of its Unicode scalar values. -/
abbrev Str := List Char

instance lawfulBEqStr : LawfulBEq Str := inferInstance

instance : Coe String Str := ⟨String.toList⟩

namespace Text

/-! ## Size in bytes -/

/-- The number of bytes of the UTF-8 encoding. -/
def utf8Len (s : Str) : ℕ := (s.map Char.utf8Size).sum

@[simp] theorem utf8Len_nil : utf8Len [] = 0 := rfl

@[simp] theorem utf8Len_cons (c : Char) (s : Str) :
    utf8Len (c :: s) = c.utf8Size + utf8Len s := by
  simp [utf8Len]

@[simp] theorem utf8Len_append (s t : Str) : utf8Len (s ++ t) = utf8Len s + utf8Len t := by
  simp [utf8Len]

/-- An ASCII character occupies one byte. -/
theorem utf8Size_of_lt {c : Char} (h : c.toNat < 128) : c.utf8Size = 1 := by
  rw [Char.utf8Size_eq_one_iff, UInt32.le_iff_toNat_le]
  exact Nat.le_of_lt_succ h

/-- An ASCII text occupies one byte for each character. -/
theorem utf8Len_of_lt {s : Str} (h : ∀ c ∈ s, c.toNat < 128) : utf8Len s = s.length := by
  induction s with
  | nil => rfl
  | cons c s ih =>
    have hc := utf8Size_of_lt (h c (List.mem_cons_self ..))
    have hs := ih fun d hd => h d (List.mem_cons_of_mem _ hd)
    rw [utf8Len_cons, hc, hs, List.length_cons, Nat.add_comm]

/-! ## Decoding -/

/-- A continuation byte `10xxxxxx`. -/
def isContinuation (b : UInt8) : Bool := 0x80 ≤ b && b ≤ 0xBF

/-- Decode UTF-8; `none` on the first sequence that is not well formed.  The
ranges of the second byte exclude overlong forms, surrogates and values above
`0x10FFFF`. -/
def fromUtf8 : List UInt8 → Option Str
  | [] => some []
  | b0 :: rest0 =>
    if b0 < 0x80 then (fromUtf8 rest0).map (Char.ofNat b0.toNat :: ·)
    else match rest0 with
    | [] => none
    | b1 :: rest1 =>
      if 0xC2 ≤ b0 && b0 ≤ 0xDF then
        if isContinuation b1 then
          (fromUtf8 rest1).map
            (Char.ofNat ((b0.toNat - 0xC0) * 64 + (b1.toNat - 0x80)) :: ·)
        else none
      else match rest1 with
      | [] => none
      | b2 :: rest2 =>
        if 0xE0 ≤ b0 && b0 ≤ 0xEF then
          if (if b0 = 0xE0 then 0xA0 ≤ b1 && b1 ≤ 0xBF
              else if b0 = 0xED then 0x80 ≤ b1 && b1 ≤ 0x9F
              else isContinuation b1) && isContinuation b2 then
            (fromUtf8 rest2).map
              (Char.ofNat ((b0.toNat - 0xE0) * 4096 + (b1.toNat - 0x80) * 64
                + (b2.toNat - 0x80)) :: ·)
          else none
        else match rest2 with
        | [] => none
        | b3 :: rest3 =>
          if 0xF0 ≤ b0 && b0 ≤ 0xF4 &&
              (if b0 = 0xF0 then 0x90 ≤ b1 && b1 ≤ 0xBF
               else if b0 = 0xF4 then 0x80 ≤ b1 && b1 ≤ 0x8F
               else isContinuation b1) && isContinuation b2 && isContinuation b3 then
            (fromUtf8 rest3).map
              (Char.ofNat ((b0.toNat - 0xF0) * 262144 + (b1.toNat - 0x80) * 4096
                + (b2.toNat - 0x80) * 64 + (b3.toNat - 0x80)) :: ·)
          else none

/-- The bytes of a text. -/
def toUtf8 (s : Str) : List UInt8 := s.flatMap String.utf8EncodeChar

example : fromUtf8 [0x61, 0xC3, 0xA9, 0xE2, 0x82, 0xAC] = some ("aé€" : Str) := by decide
example : fromUtf8 [0x61, 0xC0, 0x80] = none := by decide

theorem toUtf8_injective : Function.Injective toUtf8 := by
  intro s t h
  have hencode : s.utf8Encode = t.utf8Encode := congrArg List.toByteArray h
  have hstring : String.ofList s = String.ofList t := by
    rw [← String.toByteArray_inj, String.toByteArray_ofList, String.toByteArray_ofList, hencode]
  simpa using congrArg String.toList hstring

/-! ## Cutting and searching -/

/-- The Unicode `White_Space` property. -/
def isWhitespace (c : Char) : Bool :=
  let n := c.toNat
  (9 ≤ n && n ≤ 13) || n == 0x20 || n == 0x85 || n == 0xA0 || n == 0x1680 ||
    (0x2000 ≤ n && n ≤ 0x200A) || n == 0x2028 || n == 0x2029 || n == 0x202F ||
    n == 0x205F || n == 0x3000

def trimStart (s : Str) : Str := s.dropWhile isWhitespace

def trimEnd (s : Str) : Str := s.rdropWhile isWhitespace

/-- Remove white space at both ends. -/
def trim (s : Str) : Str := trimEnd (trimStart s)

/-- A text without white space is left alone. -/
theorem trim_eq_self {s : Str} (h : ∀ c ∈ s, isWhitespace c = false) : trim s = s := by
  have hstart : trimStart s = s := by
    rw [trimStart, List.dropWhile_eq_self_iff]
    intro hpos
    simp [h _ (List.getElem_mem hpos)]
  rw [trim, hstart, trimEnd, List.rdropWhile_eq_self_iff]
  intro hne
  simp [h _ (List.getLast_mem hne)]

/-- The words of a text: its maximal runs without white space. -/
def splitWhitespace (s : Str) : List Str := (s.splitOnP isWhitespace).filter (· ≠ [])

/-- Offset of the first occurrence of `pat`. -/
def find? {α : Type} [BEq α] (pat : List α) : List α → Option ℕ
  | [] => if pat.isEmpty then some 0 else none
  | c :: s => if pat.isPrefixOf (c :: s) then some 0 else (find? pat s).map (· + 1)

theorem add_length_le_of_find? {α : Type} [BEq α] [LawfulBEq α] {pat l : List α} {at_ : ℕ}
    (h : find? pat l = some at_) : at_ + pat.length ≤ l.length := by
  induction l generalizing at_ with
  | nil =>
    rw [find?] at h
    split at h
    · rename_i hempty
      cases h
      rw [List.isEmpty_iff.1 hempty]
      exact le_rfl
    · cases h
  | cons c l ih =>
    rw [find?] at h
    split at h
    · rename_i hstarts
      cases h
      rw [Nat.zero_add]
      exact List.IsPrefix.length_le (List.isPrefixOf_iff_prefix.1 hstarts)
    · obtain ⟨at', hat', rfl⟩ := Option.map_eq_some_iff.1 h
      have hle := ih hat'
      rw [List.length_cons]
      omega

/-- `pat` occurs in the text. -/
def contains (s pat : Str) : Bool := (find? pat s).isSome

/-- A text contains what is a part of it. -/
theorem contains_iff {s pat : Str} : contains s pat = true ↔ pat <:+: s := by
  unfold contains
  induction s with
  | nil =>
    rw [find?, List.infix_nil]
    cases pat <;> simp
  | cons c s ih =>
    rw [find?, List.infix_cons_iff, ← ih]
    split_ifs with hstarts
    · exact iff_of_true rfl (.inl (List.isPrefixOf_iff_prefix.1 hstarts))
    · rw [List.isPrefixOf_iff_prefix] at hstarts
      simp [hstarts]

/-- What stands before and after the first occurrence of `pat`. -/
def splitOnce (pat s : Str) : Option (Str × Str) :=
  (find? pat s).map fun at_ => (s.take at_, s.drop (at_ + pat.length))

/-- The pieces before, between and after the first `fuel` occurrences of `pat`. -/
def splitFuel (pat : Str) : ℕ → Str → List Str
  | 0, s => [s]
  | fuel + 1, s =>
    match splitOnce pat s with
    | none => [s]
    | some (piece, rest) => piece :: splitFuel pat fuel rest

/-- The pieces between the occurrences of a non-empty `pat`. -/
def split (pat s : Str) : List Str := splitFuel pat s.length s

/-- What stands before and after the last occurrence of a character. -/
def rsplitOnce (c : Char) (s : Str) : Option (Str × Str) :=
  (find? [c] s.reverse).map fun at_ =>
    ((s.reverse.drop (at_ + 1)).reverse, (s.reverse.take at_).reverse)

/-- The text after `pat`, when it starts with it. -/
def stripPrefix (pat s : Str) : Option Str :=
  if pat.isPrefixOf s then some (s.drop pat.length) else none

def isAsciiDigit (c : Char) : Bool := '0' ≤ c && c ≤ '9'
def isAsciiLowercase (c : Char) : Bool := 'a' ≤ c && c ≤ 'z'
def isAsciiUppercase (c : Char) : Bool := 'A' ≤ c && c ≤ 'Z'

def toAsciiLowercase (c : Char) : Char :=
  if isAsciiUppercase c then Char.ofNat (c.toNat + 32) else c

theorem toNat_ofNat {n : ℕ} (h : n < 0xD800) : (Char.ofNat n).toNat = n := by
  rw [Char.ofNat, dif_pos (Or.inl h)]
  rfl

theorem isAsciiDigit_iff {c : Char} : isAsciiDigit c ↔ 48 ≤ c.toNat ∧ c.toNat ≤ 57 := by
  simp only [isAsciiDigit, Bool.and_eq_true, decide_eq_true_eq, Char.le_def, UInt32.le_iff_toNat_le]
  rfl

theorem isWhitespace_of_isAsciiDigit {c : Char} (h : isAsciiDigit c) : isWhitespace c = false := by
  rw [isAsciiDigit_iff] at h
  simp only [isWhitespace, Bool.or_eq_false_iff, Bool.and_eq_false_iff, decide_eq_false_iff_not,
    beq_eq_false_iff_ne]
  omega

theorem isAsciiLowercase_iff {c : Char} : isAsciiLowercase c ↔ 97 ≤ c.toNat ∧ c.toNat ≤ 122 := by
  simp only [isAsciiLowercase, Bool.and_eq_true, decide_eq_true_eq, Char.le_def,
    UInt32.le_iff_toNat_le]
  rfl

theorem isAsciiUppercase_iff {c : Char} : isAsciiUppercase c ↔ 65 ≤ c.toNat ∧ c.toNat ≤ 90 := by
  simp only [isAsciiUppercase, Bool.and_eq_true, decide_eq_true_eq, Char.le_def,
    UInt32.le_iff_toNat_le]
  rfl

theorem isAsciiLowercase_toAsciiLowercase {c : Char} (h : isAsciiUppercase c) :
    isAsciiLowercase (toAsciiLowercase c) := by
  have hc := isAsciiUppercase_iff.1 h
  rw [toAsciiLowercase, if_pos h, isAsciiLowercase_iff, toNat_ofNat (by omega)]
  omega

def eqIgnoreAsciiCase (s t : Str) : Bool := s.map toAsciiLowercase == t.map toAsciiLowercase

/-! ## Reading integers -/

/-- Value of a string of decimal digits read from the left, starting at `acc`. -/
def digitsValue (acc : ℕ) : Str → ℕ
  | [] => acc
  | c :: s => digitsValue (acc * 10 + (c.toNat - 48)) s

/-- One or more decimal digits. -/
def parseDigits (s : Str) : Option ℕ :=
  if s ≠ [] ∧ s.all isAsciiDigit then some (digitsValue 0 s) else none

/-- Read an unsigned integer: an optional `+`, then digits, at most `max`. -/
def parseUnsigned (max : ℕ) (s : Str) : Option ℕ :=
  let digits := match s with
    | '+' :: rest => rest
    | _ => s
  (parseDigits digits).filter (· ≤ max)

/-- Decimal digits after an optional sign. -/
def signedDigits : Str → Option ℤ
  | '+' :: rest => (parseDigits rest).map Int.ofNat
  | '-' :: rest => (parseDigits rest).map fun n => -Int.ofNat n
  | s => (parseDigits s).map Int.ofNat

/-- Read a signed integer: an optional sign, then digits, within `[lo, hi]`. -/
def parseSigned (lo hi : ℤ) (s : Str) : Option ℤ :=
  (signedDigits s).filter fun v => lo ≤ v ∧ v ≤ hi

/-- A digit or a sign. -/
def isNumberChar (c : Char) : Bool := isAsciiDigit c || c == '+' || c == '-'

theorem isWhitespace_of_isNumberChar {c : Char} (h : isNumberChar c) : isWhitespace c = false := by
  simp only [isNumberChar, Bool.or_eq_true, beq_iff_eq] at h
  rcases h with (h | rfl) | rfl
  · exact isWhitespace_of_isAsciiDigit h
  · rfl
  · rfl

theorem forall_of_parseDigits {s : Str} {n : ℕ} (h : parseDigits s = some n) :
    ∀ c ∈ s, isAsciiDigit c := by
  unfold parseDigits at h
  split at h
  · rename_i hs
    exact List.all_eq_true.1 hs.2
  · cases h

theorem forall_cons_isNumberChar {sign : Char} (hsign : isNumberChar sign) {s : Str} {n : ℕ}
    (h : parseDigits s = some n) : ∀ c ∈ sign :: s, isNumberChar c := by
  intro c hc
  rcases List.mem_cons.1 hc with rfl | hc
  · exact hsign
  · rw [isNumberChar, forall_of_parseDigits h c hc, Bool.true_or, Bool.true_or]

/-- What reads as an unsigned integer consists of digits and a sign. -/
theorem forall_of_parseUnsigned {max n : ℕ} {s : Str} (h : parseUnsigned max s = some n) :
    ∀ c ∈ s, isNumberChar c := by
  unfold parseUnsigned at h
  have hdigits := (Option.filter_eq_some_iff.1 h).1
  split at hdigits
  · exact forall_cons_isNumberChar (by decide) hdigits
  · intro c hc
    rw [isNumberChar, forall_of_parseDigits hdigits c hc, Bool.true_or, Bool.true_or]

/-- What reads as a signed integer consists of digits and a sign. -/
theorem forall_of_parseSigned {lo hi n : ℤ} {s : Str} (h : parseSigned lo hi s = some n) :
    ∀ c ∈ s, isNumberChar c := by
  have hdigits := (Option.filter_eq_some_iff.1 h).1
  unfold signedDigits at hdigits
  split at hdigits
  · obtain ⟨m, hm, _⟩ := Option.map_eq_some_iff.1 hdigits
    exact forall_cons_isNumberChar (by decide) hm
  · obtain ⟨m, hm, _⟩ := Option.map_eq_some_iff.1 hdigits
    exact forall_cons_isNumberChar (by decide) hm
  · obtain ⟨m, hm, _⟩ := Option.map_eq_some_iff.1 hdigits
    intro c hc
    rw [isNumberChar, forall_of_parseDigits hm c hc, Bool.true_or, Bool.true_or]

example : parseUnsigned 65535 "+1883" = some 1883 := by decide
example : parseSigned (-32768) 32767 "-90" = some (-90) := by decide

/-! ## Writing integers -/

/-- The decimal digits of `n`, most significant first. -/
def decimal (n : ℕ) : Str := Nat.toDigits 10 n

end Text
