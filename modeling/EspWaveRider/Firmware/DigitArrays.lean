import EspWaveRider.Firmware.WifiScan

/-!
# Digits in an array of ten bytes

`append_u32_heapless` and `append_u32` of `rust/firmware/esp32s3/src/main.rs` take the digits of a
number one by one, the last one first, and keep them in an array.  The first one fills it from the
start and reads it backwards; the second one fills it from the end.

* `appendU32Heapless`, `appendI32Heapless`, `appendU32`, `appendI32` — with their arrays;
* `storeLoop_spec`, `cursorLoop_spec` — what the loops leave in the arrays;
* `appendU32Heapless_eq`, `appendU32_eq` — they do the same as the functions of `Payload` and
  `WifiScan`, which have no arrays; so no index is out of bounds.
-/

namespace EspWaveRider.Firmware.DigitArrays

open Text

/-! ## The functions -/

/-- How a function ends without the number: at an index out of bounds or an overflow, or with
`None`, when its callers give the buffer up. -/
inductive Failure where
  | panicked
  | full
  deriving DecidableEq

/-- `.ok()?` behind a push. -/
def orFull {α : Type} : Option α → Except Failure α
  | some a => .ok a
  | none => .error .full

abbrev Digits := Vector UInt8 10

/-- `digits[index] = digit`. -/
def store (digits : Digits) (index : ℕ) (digit : UInt8) : Except Failure Digits :=
  if h : index < 10 then .ok (digits.set index digit) else .error .panicked

/-- `digits[index]`. -/
def load (digits : Digits) (index : ℕ) : Except Failure UInt8 :=
  if h : index < 10 then .ok digits[index] else .error .panicked

/-- `digits[cursor..]`. -/
def sliceFrom (digits : Digits) (cursor : ℕ) : Except Failure (List UInt8) :=
  if cursor ≤ 10 then .ok (digits.toList.drop cursor) else .error .panicked

/-- `b'0' + digit`. -/
def addZero (digit : UInt8) : Except Failure UInt8 :=
  if digit.toNat < 208 then .ok (48 + digit) else .error .panicked

/-- The loop of `append_u32_heapless`.  In its eleventh pass the index would be out of bounds. -/
def storeLoop : ℕ → Digits → UInt32 → ℕ → Except Failure (Digits × ℕ)
  | 0, _, _, _ => .error .panicked
  | passes + 1, digits, remaining, count => do
    let digits ← store digits count (remaining % 10).toUInt8
    let count := count + 1
    let remaining := remaining / 10
    if remaining = 0 then .ok (digits, count) else storeLoop passes digits remaining count

def pushDigit (digits : Digits) (output : HString 384) (index : ℕ) :
    Except Failure (HString 384) := do
  let digit ← load digits index
  let byte ← addZero digit
  orFull (output.push (Char.ofNat byte.toNat))

def appendU32Heapless (output : HString 384) (value : UInt32) : Except Failure (HString 384) := do
  let (digits, count) ← storeLoop 11 (Vector.replicate 10 0) value 0
  (List.range count).reverse.foldlM (pushDigit digits) output

/-- The loop of `append_u32`.  A cursor at zero cannot go back. -/
def cursorLoop : ℕ → Digits → UInt32 → Except Failure (Digits × ℕ)
  | 0, _, _ => .error .panicked
  | cursor + 1, digits, remaining => do
    let byte ← addZero (remaining % 10).toUInt8
    let digits ← store digits cursor byte
    let remaining := remaining / 10
    if remaining = 0 then .ok (digits, cursor) else cursorLoop cursor digits remaining

def appendU32 (output : Str) (value : UInt32) : Except Failure Str := do
  let (digits, cursor) ← cursorLoop 10 (Vector.replicate 10 0) value
  let written ← sliceFrom digits cursor
  .ok (written.foldl (fun output digit => output ++ [Char.ofNat digit.toNat]) output)

/-- `unsigned_abs`: `wrapping_abs`, of which the bits are kept. -/
def unsignedAbs (value : Int32) : UInt32 := value.abs.toUInt32

def appendI32Heapless (output : HString 384) (value : Int32) : Except Failure (HString 384) :=
  if value < 0 then do
    let output ← orFull (output.push '-')
    appendU32Heapless output (unsignedAbs value)
  else appendU32Heapless output value.toUInt32

def appendI32 (output : Str) (value : Int32) : Except Failure Str :=
  if value < 0 then appendU32 (output ++ ['-']) (unsignedAbs value)
  else appendU32 output value.toUInt32

/-! ## One pass -/

@[simp] theorem ok_bind {α β : Type} (a : α) (f : α → Except Failure β) :
    (.ok a >>= f) = f a := rfl

@[simp] theorem store_of_lt {digits : Digits} {index : ℕ} (h : index < 10) (digit : UInt8) :
    store digits index digit = .ok (digits.set index digit) := dif_pos h

@[simp] theorem load_of_lt {digits : Digits} {index : ℕ} (h : index < 10) :
    load digits index = .ok digits[index] := dif_pos h

theorem toList_set_eq {digits : Digits} {index : ℕ} (h : index < 10) (digit : UInt8) :
    (digits.set index digit).toList =
      digits.toList.take index ++ digit :: digits.toList.drop (index + 1) := by
  rw [Vector.toList_set, List.set_eq_take_append_cons_drop, if_pos (by simpa using h)]

theorem take_set {digits : Digits} {index : ℕ} (h : index < 10) (digit : UInt8) :
    (digits.set index digit).toList.take (index + 1) = digits.toList.take index ++ [digit] := by
  have hlength : (digits.toList.take index).length = index := by simp; omega
  rw [toList_set_eq h, List.take_append, hlength, List.take_of_length_le (by omega),
    Nat.add_sub_cancel_left]
  rfl

theorem drop_set {digits : Digits} {index : ℕ} (h : index < 10) (digit : UInt8) :
    (digits.set index digit).toList.drop index = digit :: digits.toList.drop (index + 1) := by
  have hlength : (digits.toList.take index).length = index := by simp; omega
  rw [toList_set_eq h, List.drop_append, hlength, List.drop_of_length_le (by omega), Nat.sub_self]
  rfl

theorem lastDigit_eq (remaining : UInt32) :
    (remaining % 10).toUInt8 = UInt8.ofNat (remaining.toNat % 10) := by
  apply UInt8.toNat_inj.1
  simp

/-- A digit in ASCII. -/
def digitByte (digit : ℕ) : UInt8 := UInt8.ofNat (48 + digit)

theorem addZero_ofNat {digit : ℕ} (h : digit < 10) :
    addZero (UInt8.ofNat digit) = .ok (digitByte digit) := by
  have hdigit : (UInt8.ofNat digit).toNat = digit := UInt8.toNat_ofNat_of_lt (by show _ < 256; omega)
  rw [addZero, if_pos (by omega), digitByte, UInt8.ofNat_add]
  rfl

theorem char_digitByte {digit : ℕ} (h : digit < 10) :
    Char.ofNat (digitByte digit).toNat = digitChar digit := by
  have hbyte : (digitByte digit).toNat = 48 + digit := UInt8.toNat_ofNat_of_lt (by show _ < 256; omega)
  rw [hbyte, digitChar]

theorem toNat_div_ten (remaining : UInt32) : (remaining / 10).toNat = remaining.toNat / 10 :=
  UInt32.toNat_div ..

theorem div_ten_eq_zero_iff {remaining : UInt32} :
    remaining / 10 = 0 ↔ remaining.toNat / 10 = 0 := by
  rw [← UInt32.toNat_inj, toNat_div_ten]
  rfl

/-! ## The loops -/

/-- The number is over after one digit, or the loops go on with what is left. -/
theorem digitsLoop_succ (fuel value : ℕ) : digitsLoop (fuel + 1) value =
    value % 10 :: if value / 10 = 0 then [] else digitsLoop fuel (value / 10) := rfl

theorem lt_of_div_ne_zero {room value : ℕ} (h : value < 10 ^ (room + 1)) (hmore : value / 10 ≠ 0) :
    0 < room ∧ value / 10 < 10 ^ room := by
  have hrest : value / 10 < 10 ^ room := by
    rw [Nat.div_lt_iff_lt_mul (by decide), ← Nat.pow_succ]
    exact h
  refine ⟨Nat.pos_of_ne_zero ?_, hrest⟩
  rintro rfl
  omega

theorem storeLoop_succ {count : ℕ} (hcount : count < 10) (passes : ℕ) (digits : Digits)
    (remaining : UInt32) : storeLoop (passes + 1) digits remaining count =
      if remaining.toNat / 10 = 0 then
        .ok (digits.set count (UInt8.ofNat (remaining.toNat % 10)), count + 1)
      else storeLoop passes (digits.set count (UInt8.ofNat (remaining.toNat % 10))) (remaining / 10)
        (count + 1) := by
  rw [storeLoop, store_of_lt hcount, lastDigit_eq, ok_bind]
  simp only [div_ten_eq_zero_iff]

/-- The loop puts the digits behind those that are there, the last one of the number first. -/
theorem storeLoop_spec {room count : ℕ} (digits : Digits) {remaining : UInt32}
    (hcount : count + room = 10) (hroom : 0 < room) (h : remaining.toNat < 10 ^ room) :
    ∃ digits', storeLoop (room + 1) digits remaining count =
        .ok (digits', count + (digitsLoop room remaining.toNat).length) ∧
      digits'.toList.take (count + (digitsLoop room remaining.toNat).length) =
        digits.toList.take count ++ (digitsLoop room remaining.toNat).map UInt8.ofNat := by
  induction room generalizing count digits remaining with
  | zero => exact absurd hroom (Nat.lt_irrefl 0)
  | succ room ih =>
    have hfits : count < 10 := by omega
    rw [storeLoop_succ hfits, digitsLoop_succ]
    split
    · exact ⟨_, rfl, take_set hfits _⟩
    · rename_i hmore
      obtain ⟨hleft, hrest⟩ := lt_of_div_ne_zero h hmore
      have hnext : count + 1 + room = 10 := by omega
      rw [← toNat_div_ten] at hrest ⊢
      obtain ⟨digits', hrun, htake⟩ :=
        ih (digits.set count (UInt8.ofNat (remaining.toNat % 10))) hnext hleft hrest
      have hlength (n : ℕ) : count + 1 + n = count + (n + 1) := by omega
      rw [hlength] at hrun htake
      refine ⟨digits', hrun, ?_⟩
      rw [List.length_cons, htake, take_set hfits, List.append_assoc, List.map_cons,
        List.singleton_append]

/-! ## From the start -/

theorem foldlM_orFull {β γ δ : Type} {f : β → γ → Except Failure β} {g : β → δ → Option β}
    {xs : List γ} {ys : List δ}
    (h : List.Forall₂ (fun x y => ∀ b, f b x = orFull (g b y)) xs ys) (b : β) :
    xs.foldlM f b = orFull (ys.foldlM g b) := by
  induction h generalizing b with
  | nil => rfl
  | @cons x y xs ys hxy _ ih =>
    rw [List.foldlM_cons, List.foldlM_cons, hxy]
    cases g b y with
    | none => rfl
    | some b' => exact ih b'

theorem pushDigit_eq {digits : Digits} {index digit : ℕ} (hindex : index < 10) (hdigit : digit < 10)
    (h : digits[index] = UInt8.ofNat digit) (output : HString 384) :
    pushDigit digits output index = orFull (output.push (digitChar digit)) := by
  rw [pushDigit, load_of_lt hindex, ok_bind, h, addZero_ofNat hdigit, ok_bind, char_digitByte hdigit]

theorem length_digitsLoop_le (fuel value : ℕ) : (digitsLoop fuel value).length ≤ fuel := by
  induction fuel generalizing value with
  | zero => exact Nat.le_refl 0
  | succ fuel ih =>
    rw [digitsLoop_succ, List.length_cons]
    split
    · exact Nat.succ_le_succ (Nat.zero_le _)
    · exact Nat.succ_le_succ (ih _)

/-- The writer in the array and the one in `Payload` do the same. -/
theorem appendU32Heapless_eq (output : HString 384) (value : UInt32) :
    appendU32Heapless output value = orFull (Firmware.appendU32Heapless output value.toNat) := by
  have hvalue : value.toNat < 10 ^ 10 := Nat.lt_trans value.toNat_lt (by decide)
  obtain ⟨digits, hrun, htake⟩ :=
    storeLoop_spec (Vector.replicate 10 0) (Nat.zero_add 10) (by decide) hvalue
  have hlength := length_digitsLoop_le 10 value.toNat
  rw [Nat.zero_add, List.take_zero, List.nil_append] at htake
  rw [Nat.zero_add] at hrun
  rw [appendU32Heapless, hrun, ok_bind]
  refine foldlM_orFull ?_ output
  rw [List.forall₂_reverse_iff, List.forall₂_iff_get]
  refine ⟨List.length_range, fun index hrange hindex output => ?_⟩
  have hbyte : digits.toList[index]? =
      ((digitsLoop 10 value.toNat).map UInt8.ofNat)[index]? := by
    rw [← htake, List.getElem?_take_of_lt hindex]
  have hdigit : (digitsLoop 10 value.toNat)[index] < 10 :=
    digit_lt_of_mem_digitsLoop (List.getElem_mem hindex)
  have hten : index < 10 := Nat.lt_of_lt_of_le hindex hlength
  simp only [List.get_eq_getElem, List.getElem_range]
  refine pushDigit_eq hten hdigit ?_ output
  simpa [hten, hindex] using hbyte

/-! ## From the end -/

theorem cursorLoop_succ {cursor : ℕ} (hcursor : cursor < 10) (digits : Digits)
    (remaining : UInt32) : cursorLoop (cursor + 1) digits remaining =
      if remaining.toNat / 10 = 0 then
        .ok (digits.set cursor (digitByte (remaining.toNat % 10)), cursor)
      else cursorLoop cursor (digits.set cursor (digitByte (remaining.toNat % 10)))
        (remaining / 10) := by
  have hdigit : remaining.toNat % 10 < 10 := Nat.mod_lt _ (by decide)
  rw [cursorLoop, lastDigit_eq, addZero_ofNat hdigit, ok_bind, store_of_lt hcursor, ok_bind]
  simp only [div_ten_eq_zero_iff]

/-- The loop puts the digits before those that are there, the last one of the number last. -/
theorem cursorLoop_spec {room : ℕ} (digits : Digits) {remaining : UInt32} (hten : room ≤ 10)
    (hroom : 0 < room) (h : remaining.toNat < 10 ^ room) :
    ∃ digits' cursor, cursorLoop room digits remaining = .ok (digits', cursor) ∧ cursor < 10 ∧
      digits'.toList.drop cursor =
        (digitsLoop room remaining.toNat).reverse.map digitByte ++ digits.toList.drop room := by
  induction room generalizing digits remaining with
  | zero => exact absurd hroom (Nat.lt_irrefl 0)
  | succ room ih =>
    have hcursor : room < 10 := hten
    rw [cursorLoop_succ hcursor, digitsLoop_succ]
    split
    · exact ⟨_, room, rfl, hcursor, drop_set hcursor _⟩
    · rename_i hmore
      obtain ⟨hleft, hrest⟩ := lt_of_div_ne_zero h hmore
      rw [← toNat_div_ten] at hrest ⊢
      obtain ⟨digits', cursor, hrun, hbound, hdrop⟩ :=
        ih (digits.set room (digitByte (remaining.toNat % 10))) (Nat.le_of_lt hcursor) hleft hrest
      refine ⟨digits', cursor, hrun, hbound, ?_⟩
      rw [hdrop, drop_set hcursor, List.reverse_cons, List.map_append, List.map_singleton,
        List.append_assoc, List.singleton_append]

theorem appendU32_eq (output : Str) (value : UInt32) :
    appendU32 output value = .ok (Firmware.appendU32 output value.toNat) := by
  have hvalue : value.toNat < 10 ^ 10 := Nat.lt_trans value.toNat_lt (by decide)
  obtain ⟨digits, cursor, hrun, hcursor, hdrop⟩ :=
    cursorLoop_spec (Vector.replicate 10 0) (Nat.le_refl 10) (by decide) hvalue
  have hend : (Vector.replicate 10 (0 : UInt8)).toList.drop 10 = [] := rfl
  have hchars : (digits.toList.drop cursor).map (fun digit => Char.ofNat digit.toNat) =
      u32Text value.toNat := by
    rw [hdrop, hend, List.append_nil, List.map_map, u32Text]
    refine List.map_congr_left fun digit hmem => ?_
    exact char_digitByte (digit_lt_of_mem_digitsLoop (List.mem_reverse.1 hmem))
  rw [appendU32, hrun, ok_bind]
  dsimp only
  rw [sliceFrom, if_pos (Nat.le_of_lt hcursor), ok_bind, foldl_append_map, hchars,
    Firmware.appendU32_eq]

/-! ## With a sign -/

theorem toInt_lt_zero_iff {value : Int32} : value < 0 ↔ value.toInt < 0 := Int32.lt_iff_toInt_lt

/-- Also of the smallest number, which has no absolute value in its own type. -/
theorem toNat_unsignedAbs (value : Int32) : (unsignedAbs value).toNat = value.toInt.natAbs := by
  have hlt := value.toBitVec.isLt
  show value.toBitVec.abs.toNat = value.toBitVec.toInt.natAbs
  rw [BitVec.toNat_abs, BitVec.toInt_eq_msb_cond]
  split <;> omega

theorem toNat_toUInt32 {value : Int32} (h : ¬value < 0) :
    value.toUInt32.toNat = value.toInt.toNat := by
  have hnonneg := mt toInt_lt_zero_iff.2 h
  have hlt := value.toBitVec.isLt
  show value.toBitVec.toNat = value.toBitVec.toInt.toNat
  change ¬value.toBitVec.toInt < 0 at hnonneg
  rw [BitVec.toInt_eq_msb_cond] at hnonneg ⊢
  split_ifs at hnonneg ⊢ <;> omega

theorem appendI32Heapless_eq (output : HString 384) (value : Int32) :
    appendI32Heapless output value = orFull (Firmware.appendI32Heapless output value.toInt) := by
  rw [appendI32Heapless, Firmware.appendI32Heapless]
  simp only [toInt_lt_zero_iff]
  split
  · cases output.push '-' with
    | none => rfl
    | some output =>
      show appendU32Heapless output (unsignedAbs value) = _
      rw [appendU32Heapless_eq, toNat_unsignedAbs]
      rfl
  · rename_i hnonneg
    rw [appendU32Heapless_eq, toNat_toUInt32 (mt toInt_lt_zero_iff.1 hnonneg)]

theorem appendI32_eq (output : Str) (value : Int32) :
    appendI32 output value = .ok (Firmware.appendI32 output value.toInt) := by
  rw [appendI32, Firmware.appendI32]
  simp only [toInt_lt_zero_iff]
  split
  · rw [appendU32_eq, toNat_unsignedAbs]
  · rename_i hnonneg
    rw [appendU32_eq, toNat_toUInt32 (mt toInt_lt_zero_iff.1 hnonneg)]

example : appendI32 [] Int32.minValue = .ok "-2147483648" := rfl

example : (appendU32Heapless Bounded.empty 1000000000).map (·.items) = .ok "1000000000" := rfl

end EspWaveRider.Firmware.DigitArrays
