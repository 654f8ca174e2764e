import Mathlib

/-!
# Machine integers between two limits

`min` and `max` of machine integers are those of the numbers they stand for.
-/

namespace Clamp

theorem toNat_max_uint8 (a b : UInt8) : (max a b).toNat = max a.toNat b.toNat := by
  show (if a ≤ b then b else a).toNat = max a.toNat b.toNat
  split <;> rename_i h <;> rw [UInt8.le_iff_toNat_le] at h <;> omega

theorem toNat_min_uint8 (a b : UInt8) : (min a b).toNat = min a.toNat b.toNat := by
  show (if a ≤ b then a else b).toNat = min a.toNat b.toNat
  split <;> rename_i h <;> rw [UInt8.le_iff_toNat_le] at h <;> omega

theorem toNat_max_uint16 (a b : UInt16) : (max a b).toNat = max a.toNat b.toNat := by
  show (if a ≤ b then b else a).toNat = max a.toNat b.toNat
  split <;> rename_i h <;> rw [UInt16.le_iff_toNat_le] at h <;> omega

theorem toNat_min_uint16 (a b : UInt16) : (min a b).toNat = min a.toNat b.toNat := by
  show (if a ≤ b then a else b).toNat = min a.toNat b.toNat
  split <;> rename_i h <;> rw [UInt16.le_iff_toNat_le] at h <;> omega

end Clamp
