import EspWaveRider.Lib.TextBytes

/-!
# Percent encoding

`encode keep` writes the characters in `keep` as they are and every other one
as the percent-encoded bytes of its UTF-8 form.

* `encode_eq_self_iff` — a text is its own encoding exactly when all of its
  characters are kept;
* `not_mem_encode` — a character that is neither kept, nor `%`, nor a hex digit
  never occurs in an encoding, so encodings can be joined by it;
* `percent_mem_encode` — an encoding that changed something contains a `%`;
* `encode_eq_encodeBytes` — the encoding of a text is that of its bytes, one at a time.
-/

namespace Percent

open Text

variable {keep : Char → Bool}

/-- An upper-case hex digit. -/
def hexDigit (n : ℕ) : Char := ("0123456789ABCDEF" : Str).getD n '0'

/-- `%XX` for one byte. -/
def encodeByte (b : UInt8) : Str := ['%', hexDigit (b.toNat / 16), hexDigit (b.toNat % 16)]

def encodeChar (keep : Char → Bool) (c : Char) : Str :=
  if keep c then [c] else (String.utf8EncodeChar c).flatMap encodeByte

def encode (keep : Char → Bool) (s : Str) : Str := s.flatMap (encodeChar keep)

theorem encodeChar_of_keep {c : Char} (h : keep c) : encodeChar keep c = [c] := if_pos h

theorem utf8EncodeChar_ne_nil (c : Char) : String.utf8EncodeChar c ≠ [] := by
  intro h
  have hlen := congrArg List.length h
  rw [String.length_utf8EncodeChar] at hlen
  exact (Char.utf8Size_pos c).ne' hlen

/-- A character that is not kept becomes `%` and something more. -/
theorem encodeChar_of_not_keep {c : Char} (h : ¬ keep c) :
    ∃ h₁ h₂ rest, encodeChar keep c = '%' :: h₁ :: h₂ :: rest := by
  rw [encodeChar, if_neg h]
  match hbytes : String.utf8EncodeChar c with
  | [] => exact absurd hbytes (utf8EncodeChar_ne_nil c)
  | b :: bytes => exact ⟨_, _, _, rfl⟩

theorem encode_cons (c : Char) (s : Str) :
    encode keep (c :: s) = encodeChar keep c ++ encode keep s := rfl

theorem encode_of_forall_keep {s : Str} (h : ∀ c ∈ s, keep c) : encode keep s = s := by
  induction s with
  | nil => rfl
  | cons c s ih =>
    rw [encode_cons, encodeChar_of_keep (h c (List.mem_cons_self ..)),
      ih fun d hd => h d (List.mem_cons_of_mem _ hd), List.singleton_append]

theorem length_le_length_encode (s : Str) : s.length ≤ (encode keep s).length := by
  induction s with
  | nil => simp
  | cons c s ih =>
    rw [encode_cons, List.length_append, List.length_cons]
    by_cases hc : keep c
    · rw [encodeChar_of_keep hc, List.length_singleton]
      omega
    · obtain ⟨h₁, h₂, rest, hchar⟩ := encodeChar_of_not_keep hc
      rw [hchar]
      simp only [List.length_cons]
      omega

/-- Encoding leaves a text alone exactly when it keeps all of its characters. -/
theorem encode_eq_self_iff {s : Str} : encode keep s = s ↔ ∀ c ∈ s, keep c := by
  refine ⟨?_, encode_of_forall_keep⟩
  intro heq
  induction s with
  | nil => simp
  | cons c s ih =>
    by_cases hc : keep c
    · rw [encode_cons, encodeChar_of_keep hc, List.singleton_append] at heq
      intro d hd
      rcases List.mem_cons.1 hd with rfl | hd
      · exact hc
      · exact ih (List.cons.inj heq).2 d hd
    · obtain ⟨h₁, h₂, rest, hchar⟩ := encodeChar_of_not_keep hc
      have hlen := congrArg List.length heq
      have hle : s.length ≤ (encode keep s).length := length_le_length_encode s
      rw [encode_cons, hchar] at hlen
      simp only [List.length_append, List.length_cons] at hlen
      omega

/-- Encoding something that is not kept leaves a `%` behind. -/
theorem percent_mem_encode {s : Str} {c : Char} (hc : c ∈ s) (hkeep : ¬ keep c) :
    '%' ∈ encode keep s := by
  obtain ⟨h₁, h₂, rest, hchar⟩ := encodeChar_of_not_keep hkeep
  refine List.mem_flatMap.2 ⟨c, hc, ?_⟩
  rw [hchar]
  exact List.mem_cons_self ..

theorem hexDigit_mem {n : ℕ} : hexDigit n ∈ ("0123456789ABCDEF" : Str) := by
  unfold hexDigit
  rw [List.getD_eq_getElem?_getD]
  by_cases hn : n < ("0123456789ABCDEF" : Str).length
  · rw [List.getElem?_eq_getElem hn, Option.getD_some]
    exact List.getElem_mem hn
  · rw [List.getElem?_eq_none (Nat.not_lt.1 hn)]
    decide

/-- The characters an encoding is made of. -/
theorem mem_encode {s : Str} {d : Char} (h : d ∈ encode keep s) :
    keep d ∨ d = '%' ∨ d ∈ ("0123456789ABCDEF" : Str) := by
  obtain ⟨c, _, hd⟩ := List.mem_flatMap.1 h
  rw [encodeChar] at hd
  split at hd
  · rename_i hc
    rw [List.mem_singleton.1 hd]
    exact Or.inl hc
  · obtain ⟨b, _, hd⟩ := List.mem_flatMap.1 hd
    rcases List.mem_cons.1 hd with rfl | hd
    · exact Or.inr (Or.inl rfl)
    · rcases List.mem_cons.1 hd with rfl | hd
      · exact Or.inr (Or.inr hexDigit_mem)
      · rw [List.mem_singleton.1 hd]
        exact Or.inr (Or.inr hexDigit_mem)

theorem not_mem_encode {d : Char} (hkeep : ¬ keep d) (hpercent : d ≠ '%')
    (hhex : d ∉ ("0123456789ABCDEF" : Str)) (s : Str) : d ∉ encode keep s := by
  intro h
  rcases mem_encode h with h | h | h
  · exact hkeep h
  · exact hpercent h
  · exact hhex h

/-! ## Byte strings -/

/-- One character for each byte. -/
def ofBytes (bytes : List UInt8) : Str := bytes.map fun b => Char.ofNat b.toNat

/-- A byte as it is, or as its two digits. -/
def encodeByteChar (keep : Char → Bool) (b : UInt8) : Str :=
  if keep (Char.ofNat b.toNat) then [Char.ofNat b.toNat] else encodeByte b

/-- `encode` of a string of bytes. -/
def encodeBytes (keep : Char → Bool) (bytes : List UInt8) : Str :=
  bytes.flatMap (encodeByteChar keep)

@[simp] theorem ofBytes_cons (b : UInt8) (bytes : List UInt8) :
    ofBytes (b :: bytes) = Char.ofNat b.toNat :: ofBytes bytes := rfl

@[simp] theorem encodeBytes_cons (b : UInt8) (bytes : List UInt8) :
    encodeBytes keep (b :: bytes) = encodeByteChar keep b ++ encodeBytes keep bytes := rfl

theorem encodeBytes_append (bytes bytes' : List UInt8) :
    encodeBytes keep (bytes ++ bytes') = encodeBytes keep bytes ++ encodeBytes keep bytes' :=
  List.flatMap_append

/-- What an encoded byte is made of. -/
theorem mem_encodeByteChar {b : UInt8} {d : Char} (h : d ∈ encodeByteChar keep b) :
    keep d ∨ d = '%' ∨ d ∈ ("0123456789ABCDEF" : Str) := by
  unfold encodeByteChar at h
  split at h
  · rename_i hkeep
    rw [List.mem_singleton.1 h]
    exact Or.inl hkeep
  · rcases List.mem_cons.1 h with rfl | h
    · exact Or.inr (Or.inl rfl)
    · rcases List.mem_cons.1 h with rfl | h
      · exact Or.inr (Or.inr hexDigit_mem)
      · rw [List.mem_singleton.1 h]
        exact Or.inr (Or.inr hexDigit_mem)

theorem not_mem_encodeBytes {d : Char} (hkeep : ¬ keep d) (hpercent : d ≠ '%')
    (hhex : d ∉ ("0123456789ABCDEF" : Str)) (bytes : List UInt8) : d ∉ encodeBytes keep bytes := by
  intro h
  obtain ⟨b, -, hb⟩ := List.mem_flatMap.1 h
  rcases mem_encodeByteChar hb with h | h | h
  · exact hkeep h
  · exact hpercent h
  · exact hhex h

/-- When only ASCII characters are kept, each byte is encoded by itself. -/
theorem encodeChar_eq_encodeBytes (hkeep : ∀ c, keep c → c.toNat < 128) (c : Char) :
    encodeChar keep c = encodeBytes keep (String.utf8EncodeChar c) := by
  by_cases hascii : c.toNat < 128
  · have hbyte : (UInt8.ofNat c.toNat).toNat = c.toNat := toNat_byte (by omega)
    rw [encodeChar, utf8EncodeChar_of_lt hascii, encodeBytes_cons, encodeByteChar, hbyte,
      Char.ofNat_toNat, List.flatMap_singleton]
    exact (List.append_nil _).symm
  · have hlost : ¬ keep c := fun h => hascii (hkeep c h)
    rw [encodeChar, if_neg hlost, encodeBytes]
    refine List.flatMap_congr fun b hb => ?_
    have hlarge : 128 ≤ b.toNat := le_of_mem_utf8EncodeChar (Nat.not_lt.1 hascii) hb
    have hchar : (Char.ofNat b.toNat).toNat = b.toNat := toNat_ofNat (by have := b.toNat_lt; omega)
    have hlost : ¬ keep (Char.ofNat b.toNat) := fun h => by
      have hsmall := hkeep _ h
      omega
    rw [encodeByteChar, if_neg hlost]

theorem encode_eq_encodeBytes (hkeep : ∀ c, keep c → c.toNat < 128) (s : Str) :
    encode keep s = encodeBytes keep (toUtf8 s) := by
  induction s with
  | nil => rfl
  | cons c s ih =>
    rw [encode_cons, ih, toUtf8_cons, encodeBytes_append, encodeChar_eq_encodeBytes hkeep]

end Percent
