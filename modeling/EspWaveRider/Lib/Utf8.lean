import EspWaveRider.Lib.Fields

/-!
# Decoding UTF-8 in parts

An ASCII byte is never inside a sequence, so a text can be decoded before and after it.

* `fromUtf8_append_ascii` — decoding around an ASCII byte;
* `utf8Len_of_fromUtf8` — a decoded text is as long as its bytes;
* `isSome_fromUtf8_take_iff` — where a text can be cut;
* `fromUtf8_joinLines` — lines are decoded one by one.
-/

namespace Text

/-- A byte below 128 is no second byte. -/
theorem ascii_second {b : UInt8} (h : b < 0x80) :
    isContinuation b = false ∧ ¬ 0x80 ≤ b ∧ ¬ 0x90 ≤ b ∧ ¬ 0xA0 ≤ b := by
  rw [UInt8.lt_iff_toNat_lt] at h
  have hnot {low : UInt8} (hlow : UInt8.toNat 0x80 ≤ low.toNat) : ¬ low ≤ b := by
    rw [UInt8.le_iff_toNat_le]
    exact not_le.2 (lt_of_lt_of_le h hlow)
  have h80 : ¬ 0x80 ≤ b := hnot (by decide)
  exact ⟨by simp [isContinuation, h80], h80, hnot (by decide), hnot (by decide)⟩

theorem fromUtf8_ascii_cons {b : UInt8} (h : b < 0x80) (rest : List UInt8) :
    fromUtf8 (b :: rest) = (fromUtf8 rest).map (Char.ofNat b.toNat :: ·) := by
  rw [fromUtf8.eq_def]
  exact if_pos h

theorem fromUtf8_ascii_second {b₀ b₁ : UInt8} (h₀ : ¬ b₀ < 0x80) (h₁ : b₁ < 0x80) (rest : List UInt8) :
    fromUtf8 (b₀ :: b₁ :: rest) = none := by
  obtain ⟨hcont, h80, h90, hA0⟩ := ascii_second h₁
  rw [fromUtf8.eq_def]
  simp only [h₀, hcont, h80, h90, hA0, if_false, Bool.false_eq_true, decide_false, Bool.false_and,
    ite_self, Bool.and_false]
  split
  · rfl
  · split
    · rfl
    · split
      · rfl
      · split
        · rfl
        · rfl

theorem fromUtf8_ascii_third {b₀ b₁ b₂ : UInt8} (h₀ : ¬ b₀ < 0x80)
    (hlong : ¬ (0xC2 ≤ b₀ && b₀ ≤ 0xDF) = true) (h₂ : b₂ < 0x80) (rest : List UInt8) :
    fromUtf8 (b₀ :: b₁ :: b₂ :: rest) = none := by
  obtain ⟨hcont, -⟩ := ascii_second h₂
  rw [fromUtf8.eq_def]
  simp only [h₀, hlong, hcont, if_false, Bool.false_eq_true, Bool.false_and, Bool.and_false]
  split
  · rfl
  · split
    · rfl
    · rfl

theorem fromUtf8_ascii_fourth {b₀ b₁ b₂ b₃ : UInt8} (h₀ : ¬ b₀ < 0x80)
    (hlong : ¬ (0xC2 ≤ b₀ && b₀ ≤ 0xDF) = true) (hlonger : ¬ (0xE0 ≤ b₀ && b₀ ≤ 0xEF) = true)
    (h₃ : b₃ < 0x80) (rest : List UInt8) : fromUtf8 (b₀ :: b₁ :: b₂ :: b₃ :: rest) = none := by
  obtain ⟨hcont, -⟩ := ascii_second h₃
  rw [fromUtf8.eq_def]
  simp only [h₀, hlong, hlonger, hcont, if_false, Bool.false_eq_true, Bool.and_false]

theorem map_cons_bind (x y : Option Str) (d e : Char) :
    (x.bind fun s => y.map fun t => s ++ e :: t).map (d :: ·) =
      (x.map (d :: ·)).bind fun s => y.map fun t => s ++ e :: t := by
  cases x with
  | none => rfl
  | some s =>
    cases y with
    | none => rfl
    | some t => rfl

/-- An ASCII byte ends what comes before it. -/
theorem fromUtf8_append_ascii (l rest : List UInt8) {b : UInt8} (hb : b < 0x80) :
    fromUtf8 (l ++ b :: rest) = (fromUtf8 l).bind fun s =>
      (fromUtf8 rest).map fun t => s ++ Char.ofNat b.toNat :: t := by
  fun_induction fromUtf8 l with
  | case1 => exact fromUtf8_ascii_cons hb rest
  | case2 b₀ l h₀ ih => rw [List.cons_append, fromUtf8_ascii_cons h₀, ih, map_cons_bind]
  | case3 b₀ h₀ => exact fromUtf8_ascii_second h₀ hb rest
  | case4 b₀ h₀ b₁ l hlead hcont ih =>
    rw [List.cons_append, List.cons_append, fromUtf8.eq_def]
    simp only [h₀, hlead, hcont, if_true, if_false, ih]
    exact map_cons_bind ..
  | case5 b₀ h₀ b₁ l hlead hcont =>
    rw [List.cons_append, List.cons_append, fromUtf8.eq_def]
    simp only [h₀, hlead, hcont, if_true, if_false]
    rfl
  | case6 b₀ h₀ b₁ hlead => exact fromUtf8_ascii_third h₀ hlead hb rest
  | case7 b₀ h₀ b₁ hlead b₂ l hlead' hcont ih =>
    rw [List.cons_append, List.cons_append, List.cons_append, fromUtf8.eq_def]
    simp only [h₀, hlead, hlead', hcont, if_true, if_false, ih]
    exact map_cons_bind ..
  | case8 b₀ h₀ b₁ hlead b₂ l hlead' hcont =>
    rw [List.cons_append, List.cons_append, List.cons_append, fromUtf8.eq_def]
    simp only [h₀, hlead, hlead', hcont, if_true, if_false]
    rfl
  | case9 b₀ h₀ b₁ hlead b₂ hlead' => exact fromUtf8_ascii_fourth h₀ hlead hlead' hb rest
  | case10 b₀ h₀ b₁ hlead b₂ hlead' b₃ l hcont ih =>
    rw [List.cons_append, List.cons_append, List.cons_append, List.cons_append, fromUtf8.eq_def]
    simp only [h₀, hlead, hlead', hcont, if_true, if_false, ih]
    exact map_cons_bind ..
  | case11 b₀ h₀ b₁ hlead b₂ hlead' b₃ l hcont =>
    rw [List.cons_append, List.cons_append, List.cons_append, List.cons_append, fromUtf8.eq_def]
    simp only [h₀, hlead, hlead', hcont, if_false]
    rfl

/-! ## Lengths -/

theorem utf8Size_ofNat {n : ℕ} (h : n.isValidChar) : (Char.ofNat n).utf8Size =
    if n ≤ 127 then 1 else if n ≤ 2047 then 2 else if n ≤ 65535 then 3 else 4 := by
  have hval : (Char.ofNat n).val.toNat = n := (Char.toNat_ofNat n).trans (if_pos h)
  simp only [Char.utf8Size, UInt32.le_iff_toNat_le, hval]
  rfl

theorem isContinuation_iff {b : UInt8} : isContinuation b = true ↔ 0x80 ≤ b.toNat ∧ b.toNat ≤ 0xBF := by
  simp only [isContinuation, Bool.and_eq_true, decide_eq_true_iff, UInt8.le_iff_toNat_le]
  rfl

theorem utf8Size_of_two {b₀ b₁ : UInt8} (hlead : (0xC2 ≤ b₀ && b₀ ≤ 0xDF) = true)
    (hcont : isContinuation b₁ = true) :
    (Char.ofNat ((b₀.toNat - 0xC0) * 64 + (b₁.toNat - 0x80))).utf8Size = 2 := by
  simp only [Bool.and_eq_true, decide_eq_true_iff, UInt8.le_iff_toNat_le, UInt8.reduceToNat] at hlead
  rw [isContinuation_iff] at hcont
  rw [utf8Size_ofNat (Or.inl (by omega)), if_neg (by omega), if_pos (by omega)]

theorem utf8Size_of_three {b₀ b₁ b₂ : UInt8} (hlead : (0xE0 ≤ b₀ && b₀ ≤ 0xEF) = true)
    (hcont : ((if b₀ = 0xE0 then 0xA0 ≤ b₁ && b₁ ≤ 0xBF
      else if b₀ = 0xED then 0x80 ≤ b₁ && b₁ ≤ 0x9F else isContinuation b₁) && isContinuation b₂) = true) :
    (Char.ofNat ((b₀.toNat - 0xE0) * 4096 + (b₁.toNat - 0x80) * 64 + (b₂.toNat - 0x80))).utf8Size = 3 := by
  simp only [Bool.and_eq_true, decide_eq_true_iff, UInt8.le_iff_toNat_le, isContinuation_iff,
    ← UInt8.toNat_inj, UInt8.reduceToNat, apply_ite (· = true)] at hlead hcont
  obtain ⟨hsecond, hthird⟩ := hcont
  set n := (b₀.toNat - 0xE0) * 4096 + (b₁.toNat - 0x80) * 64 + (b₂.toNat - 0x80) with hn
  -- the second byte after `E0` excludes shorter sequences, the one after `ED` surrogates
  have hrange : 2048 ≤ n ∧ n ≤ 65535 ∧ (n < 0xD800 ∨ 0xDFFF < n) := by
    split_ifs at hsecond
    · omega
    · omega
    · omega
  have hvalid : n.isValidChar := by
    unfold Nat.isValidChar
    omega
  rw [utf8Size_ofNat hvalid, if_neg (by omega), if_neg (by omega), if_pos hrange.2.1]

theorem utf8Size_of_four {b₀ b₁ b₂ b₃ : UInt8}
    (hcont : (0xF0 ≤ b₀ && b₀ ≤ 0xF4 && (if b₀ = 0xF0 then 0x90 ≤ b₁ && b₁ ≤ 0xBF
      else if b₀ = 0xF4 then 0x80 ≤ b₁ && b₁ ≤ 0x8F else isContinuation b₁) && isContinuation b₂ &&
        isContinuation b₃) = true) :
    (Char.ofNat ((b₀.toNat - 0xF0) * 262144 + (b₁.toNat - 0x80) * 4096 + (b₂.toNat - 0x80) * 64 +
      (b₃.toNat - 0x80))).utf8Size = 4 := by
  simp only [Bool.and_eq_true, decide_eq_true_iff, UInt8.le_iff_toNat_le, isContinuation_iff,
    ← UInt8.toNat_inj, UInt8.reduceToNat, apply_ite (· = true)] at hcont
  obtain ⟨⟨⟨hlead, hsecond⟩, hthird⟩, hfourth⟩ := hcont
  set n := (b₀.toNat - 0xF0) * 262144 + (b₁.toNat - 0x80) * 4096 + (b₂.toNat - 0x80) * 64 +
    (b₃.toNat - 0x80) with hn
  have hrange : 65536 ≤ n ∧ n < 0x110000 := by
    split_ifs at hsecond
    · omega
    · omega
    · omega
  have hvalid : n.isValidChar := by
    unfold Nat.isValidChar
    omega
  rw [utf8Size_ofNat hvalid, if_neg (by omega), if_neg (by omega), if_neg (by omega)]

/-- A decoded text is as long as its bytes. -/
theorem utf8Len_of_fromUtf8 {l : List UInt8} {s : Str} (h : fromUtf8 l = some s) :
    utf8Len s = l.length := by
  fun_induction fromUtf8 l generalizing s with
  | case1 => rw [← Option.some.inj h, utf8Len_nil, List.length_nil]
  | case2 b₀ l h₀ ih =>
    obtain ⟨t, ht, rfl⟩ := Option.map_eq_some_iff.1 h
    have hlt : b₀.toNat < 128 := UInt8.lt_iff_toNat_lt.1 h₀
    have hsize : (Char.ofNat b₀.toNat).utf8Size = 1 :=
      utf8Size_of_lt (by rw [toNat_ofNat (by omega)]; exact hlt)
    rw [utf8Len_cons, ih ht, hsize, List.length_cons, Nat.add_comm]
  | case4 b₀ h₀ b₁ l hlead hcont ih =>
    obtain ⟨t, ht, rfl⟩ := Option.map_eq_some_iff.1 h
    rw [utf8Len_cons, ih ht, utf8Size_of_two hlead hcont, List.length_cons, List.length_cons]
    omega
  | case7 b₀ h₀ b₁ hlead b₂ l hlead' hcont ih =>
    obtain ⟨t, ht, rfl⟩ := Option.map_eq_some_iff.1 h
    rw [utf8Len_cons, ih ht, utf8Size_of_three hlead' hcont, List.length_cons, List.length_cons,
      List.length_cons]
    omega
  | case10 b₀ h₀ b₁ hlead b₂ hlead' b₃ l hcont ih =>
    obtain ⟨t, ht, rfl⟩ := Option.map_eq_some_iff.1 h
    rw [utf8Len_cons, ih ht, utf8Size_of_four hcont, List.length_cons, List.length_cons,
      List.length_cons, List.length_cons]
    omega
  | case3 | case5 | case6 | case8 | case9 | case11 => cases h

/-! ## Cuts -/

/-- The byte at `n`, if there is one, begins a character. -/
def IsCharBoundary (l : List UInt8) (n : ℕ) : Prop := ∀ b ∈ l[n]?, isContinuation b = false

instance (l : List UInt8) (n : ℕ) : Decidable (IsCharBoundary l n) :=
  inferInstanceAs (Decidable (∀ b ∈ l[n]?, isContinuation b = false))

theorem range_of_and {b low high : UInt8} (h : (low ≤ b && b ≤ high) = true) :
    low.toNat ≤ b.toNat ∧ b.toNat ≤ high.toNat := by
  rw [Bool.and_eq_true, decide_eq_true_iff, decide_eq_true_iff] at h
  exact ⟨UInt8.le_iff_toNat_le.1 h.1, UInt8.le_iff_toNat_le.1 h.2⟩

/-- The second byte of a longer sequence continues it, whatever else its first byte asks of it. -/
theorem isContinuation_of_second {b₀ b₁ first last low high : UInt8}
    (hlow : UInt8.toNat 0x80 ≤ low.toNat) (hhigh : high.toNat ≤ UInt8.toNat 0xBF)
    (h : (if b₀ = first then low ≤ b₁ && b₁ ≤ 0xBF
      else if b₀ = last then 0x80 ≤ b₁ && b₁ ≤ high else isContinuation b₁) = true) :
    isContinuation b₁ = true := by
  split_ifs at h
  · have hrange := range_of_and h
    exact isContinuation_iff.2 ⟨hlow.trans hrange.1, hrange.2⟩
  · have hrange := range_of_and h
    exact isContinuation_iff.2 ⟨hrange.1, hrange.2.trans hhigh⟩
  · exact h

theorem not_isCharBoundary {l : List UInt8} {n : ℕ} {b : UInt8} (hget : l[n]? = some b)
    (hcont : isContinuation b = true) : ¬ IsCharBoundary l n := by
  intro h
  rw [h b hget] at hcont
  cases hcont

/-- Before the first byte there is nothing to decode. -/
theorem isSome_take_zero {b : UInt8} (h : isContinuation b = false) (l : List UInt8) :
    (fromUtf8 ((b :: l).take 0)).isSome ↔ IsCharBoundary (b :: l) 0 := by
  refine iff_of_true rfl ?_
  intro c hc
  rw [← Option.some.inj hc, h]

theorem isSome_take_zero_of_lead {b low high : UInt8} (hlow : 0xC0 ≤ low.toNat)
    (h : (low ≤ b && b ≤ high) = true) (l : List UInt8) :
    (fromUtf8 ((b :: l).take 0)).isSome ↔ IsCharBoundary (b :: l) 0 := by
  have hrange := range_of_and h
  refine isSome_take_zero ?_ l
  rw [← Bool.not_eq_true, isContinuation_iff]
  omega

/-- Inside a sequence nothing is decoded. -/
theorem isSome_take_iff_of_none {l : List UInt8} {n : ℕ} {b : UInt8} (hnone : fromUtf8 (l.take n) = none)
    (hget : l[n]? = some b) (hcont : isContinuation b = true) :
    (fromUtf8 (l.take n)).isSome ↔ IsCharBoundary l n := by
  rw [hnone]
  exact iff_of_false Bool.false_ne_true (not_isCharBoundary hget hcont)

/-- A text can be cut between its characters, and nowhere else. -/
theorem isSome_fromUtf8_take_iff {l : List UInt8} (h : (fromUtf8 l).isSome) (n : ℕ) :
    (fromUtf8 (l.take n)).isSome ↔ IsCharBoundary l n := by
  fun_induction fromUtf8 l generalizing n with
  | case1 => simp [IsCharBoundary, fromUtf8]
  | case2 b₀ l h₀ ih =>
    rw [Option.isSome_map] at h
    match n with
    | 0 => exact isSome_take_zero (ascii_second h₀).1 l
    | n + 1 =>
      rw [List.take_succ_cons, fromUtf8_ascii_cons h₀, Option.isSome_map]
      exact ih h n
  | case4 b₀ h₀ b₁ l hlead hcont ih =>
    rw [Option.isSome_map] at h
    match n with
    | 0 => exact isSome_take_zero_of_lead (by decide) hlead _
    | 1 => exact isSome_take_iff_of_none (by simp [fromUtf8, h₀]) rfl hcont
    | n + 2 =>
      rw [List.take_succ_cons, List.take_succ_cons, fromUtf8.eq_def]
      simp only [h₀, hlead, hcont, if_true, if_false, Option.isSome_map]
      exact ih h n
  | case7 b₀ h₀ b₁ hlead b₂ l hlead' hcont ih =>
    rw [Option.isSome_map] at h
    obtain ⟨hsecond, hthird⟩ := (Bool.and_eq_true _ _).mp hcont
    have hsecond := isContinuation_of_second (by decide) (by decide) hsecond
    match n with
    | 0 => exact isSome_take_zero_of_lead (by decide) hlead' _
    | 1 => exact isSome_take_iff_of_none (by simp [fromUtf8, h₀]) rfl hsecond
    | 2 => exact isSome_take_iff_of_none (by simp [fromUtf8, h₀, hlead]) rfl hthird
    | n + 3 =>
      rw [List.take_succ_cons, List.take_succ_cons, List.take_succ_cons, fromUtf8.eq_def]
      simp only [h₀, hlead, hlead', hcont, if_true, if_false, Bool.false_eq_true, Option.isSome_map]
      exact ih h n
  | case10 b₀ h₀ b₁ hlead b₂ hlead' b₃ l hcont ih =>
    rw [Option.isSome_map] at h
    have hbytes := hcont
    simp only [Bool.and_eq_true (_ && _)] at hbytes
    obtain ⟨⟨⟨hfirst, hsecond⟩, hthird⟩, hfourth⟩ := hbytes
    have hsecond := isContinuation_of_second (by decide) (by decide) hsecond
    match n with
    | 0 => exact isSome_take_zero_of_lead (by decide) hfirst _
    | 1 => exact isSome_take_iff_of_none (by simp [fromUtf8, h₀]) rfl hsecond
    | 2 => exact isSome_take_iff_of_none (by simp [fromUtf8, h₀, hlead]) rfl hthird
    | 3 => exact isSome_take_iff_of_none (by simp [fromUtf8, h₀, hlead, hlead']) rfl hfourth
    | n + 4 =>
      rw [List.take_succ_cons, List.take_succ_cons, List.take_succ_cons, List.take_succ_cons,
        fromUtf8.eq_def]
      simp only [h₀, hlead, hlead', hcont, if_true, if_false, Bool.false_eq_true, Option.isSome_map]
      exact ih h n
  | case3 | case5 | case6 | case8 | case9 | case11 => cases h

/-! ## Characters and lines -/

/-- An ASCII character of a text is a byte of its encoding. -/
theorem mem_of_fromUtf8 {l : List UInt8} {s : Str} (h : fromUtf8 l = some s) {c : Char} (hc : c ∈ s)
    (hascii : c.toNat < 128) : UInt8.ofNat c.toNat ∈ l := by
  have hlong {d : Char} (hd : 2 ≤ d.utf8Size) : c ≠ d := by
    rintro rfl
    rw [utf8Size_of_lt hascii] at hd
    exact absurd hd (by decide)
  fun_induction fromUtf8 l generalizing s with
  | case1 =>
    rw [← Option.some.inj h] at hc
    exact absurd hc List.not_mem_nil
  | case2 b₀ l h₀ ih =>
    obtain ⟨t, ht, rfl⟩ := Option.map_eq_some_iff.1 h
    rcases List.mem_cons.1 hc with rfl | hc
    · have hlt : b₀.toNat < 128 := UInt8.lt_iff_toNat_lt.1 h₀
      rw [toNat_ofNat (by omega), UInt8.ofNat_toNat]
      exact List.mem_cons_self ..
    · exact List.mem_cons_of_mem _ (ih ht hc)
  | case4 b₀ h₀ b₁ l hlead hcont ih =>
    obtain ⟨t, ht, rfl⟩ := Option.map_eq_some_iff.1 h
    have hc := (List.mem_cons.1 hc).resolve_left (hlong (utf8Size_of_two hlead hcont).ge)
    exact List.mem_cons_of_mem _ (List.mem_cons_of_mem _ (ih ht hc))
  | case7 b₀ h₀ b₁ hlead b₂ l hlead' hcont ih =>
    obtain ⟨t, ht, rfl⟩ := Option.map_eq_some_iff.1 h
    have hc := (List.mem_cons.1 hc).resolve_left
      (hlong (le_of_le_of_eq (by decide) (utf8Size_of_three hlead' hcont).symm))
    exact List.mem_cons_of_mem _ (List.mem_cons_of_mem _ (List.mem_cons_of_mem _ (ih ht hc)))
  | case10 b₀ h₀ b₁ hlead b₂ hlead' b₃ l hcont ih =>
    obtain ⟨t, ht, rfl⟩ := Option.map_eq_some_iff.1 h
    have hc := (List.mem_cons.1 hc).resolve_left
      (hlong (le_of_le_of_eq (by decide) (utf8Size_of_four hcont).symm))
    exact List.mem_cons_of_mem _ (List.mem_cons_of_mem _ (List.mem_cons_of_mem _
      (List.mem_cons_of_mem _ (ih ht hc))))
  | case3 | case5 | case6 | case8 | case9 | case11 => cases h

/-- Lines are decoded one by one. -/
theorem fromUtf8_joinLines (ls : List (List UInt8)) (rest : List UInt8) :
    fromUtf8 (joinLines 0x0D 0x0A ls ++ rest) = (ls.mapM fromUtf8).bind fun texts =>
      (fromUtf8 rest).map fun t => joinLines '\r' '\n' texts ++ t := by
  induction ls with
  | nil => simp [joinLines]
  | cons line ls ih =>
    rw [joinLines_cons, List.append_assoc, List.cons_append, List.cons_append,
      fromUtf8_append_ascii _ _ (by decide), fromUtf8_ascii_cons (by decide), ih, List.mapM_cons]
    cases fromUtf8 line with
    | none => rfl
    | some text =>
      cases ls.mapM fromUtf8 with
      | none => rfl
      | some texts =>
        cases fromUtf8 rest with
        | none => rfl
        | some t => simp [joinLines_cons]

end Text
