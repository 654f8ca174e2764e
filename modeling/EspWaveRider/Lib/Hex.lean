import EspWaveRider.Lib.Text

/-!
# Bytes as hexadecimal digits

Two digits a byte, the high one first.  Reading takes digits of either case.

* `decode_encode` — the bytes are read back.
-/

namespace Hex

open Text

def digit (n : ℕ) : Char := ("0123456789ABCDEF" : Str).getD n '0'

def encode (bytes : List UInt8) : Str :=
  bytes.flatMap fun byte => [digit (byte.toNat / 16), digit (byte.toNat % 16)]

def value (c : Char) : Option ℕ :=
  if isAsciiDigit c then some (c.toNat - 48)
  else if 'A' ≤ c ∧ c ≤ 'F' then some (c.toNat - 55)
  else if 'a' ≤ c ∧ c ≤ 'f' then some (c.toNat - 87)
  else none

/-- `none` on anything but pairs of digits. -/
def decode : Str → Option (List UInt8)
  | [] => some []
  | [_] => none
  | high :: low :: rest => do
    let highValue ← value high
    let lowValue ← value low
    let bytes ← decode rest
    some (UInt8.ofNat (highValue * 16 + lowValue) :: bytes)

theorem value_digit : ∀ n : Fin 16, value (digit n) = some (n : ℕ) := by
  decide

theorem decode_encode (bytes : List UInt8) : decode (encode bytes) = some bytes := by
  induction bytes with
  | nil => rfl
  | cons byte bytes ih =>
    have hbyte := byte.toNat_lt
    have hhigh := value_digit ⟨byte.toNat / 16, by omega⟩
    have hlow := value_digit ⟨byte.toNat % 16, by omega⟩
    have hjoin : byte.toNat / 16 * 16 + byte.toNat % 16 = byte.toNat := by omega
    have hcons : encode (byte :: bytes) =
        digit (byte.toNat / 16) :: digit (byte.toNat % 16) :: encode bytes := rfl
    rw [hcons, decode, hhigh, hlow, ih]
    show some (UInt8.ofNat (byte.toNat / 16 * 16 + byte.toNat % 16) :: bytes) = some (byte :: bytes)
    rw [hjoin, UInt8.ofNat_toNat]

end Hex
