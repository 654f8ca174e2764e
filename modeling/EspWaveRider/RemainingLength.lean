import EspWaveRider.Core.Mqtt
import EspWaveRider.Firmware.MqttConnect
import EspWaveRider.Firmware.MqttStream

/-!
# The remaining length of a packet

`encode_mqtt_remaining_length` and `mqtt_packet_length` of `rust/firmware/esp32s3/src/main.rs`, and
the loop of `mqtt_publish_payload` in `rust/crates/espwaverider-core/src/mqtt.rs`, which only skips
the field.

* `mqttPacketLength_packet`, `mqttPacketLength_take` — a packet and the parts of one;
* `publishHeaderLength_eq` — both loops end at the same byte;
* `remainingLength_codec` — the encoder and the two decoders together.
-/

namespace EspWaveRider.Firmware

open Mqtt311 Mqtt

/-! ## Complete fields -/

theorem remainingLength_of_isLengthField {field : List UInt8} (h : IsLengthField field)
    (rest : List UInt8) :
    remainingLength 1 0 1 (field ++ rest) = .ok (some (1 + field.length, lengthValue field)) := by
  obtain ⟨continued, last, rfl, hshort, hcontinued, hlast⟩ := h
  have hfits : 1 * 128 ^ continued.length ≤ 128 * 128 * 128 := by
    rw [Nat.one_mul]
    exact Nat.pow_le_pow_right (by decide) hshort
  rw [List.append_assoc, List.singleton_append, remainingLength_eq hfits hcontinued hlast,
    Nat.zero_add, Nat.one_mul, List.length_append, List.length_singleton, Nat.add_assoc]

theorem mqttPacketLength_cons {first : UInt8} {field rest : List UInt8} (h : IsLengthField field) :
    mqttPacketLength (first :: (field ++ rest)) =
      if rest.length < lengthValue field then .ok none
      else .ok (some (1 + field.length + lengthValue field)) := by
  have hlength : (first :: (field ++ rest)).length = 1 + field.length + rest.length := by
    rw [List.length_cons, List.length_append]
    omega
  have hpos : 0 < field.length := by
    obtain ⟨continued, last, rfl, -⟩ := h
    rw [List.length_append, List.length_singleton]
    omega
  rw [mqttPacketLength, if_neg (by omega), List.tail_cons, remainingLength_of_isLengthField h, hlength]
  simp only [Nat.add_lt_add_iff_left]

/-! ## Fields that are cut off -/

theorem remainingLength_of_continued {bytes : List UInt8} {multiplier : ℕ}
    (hfits : multiplier * 128 ^ bytes.length ≤ 128 * 128 * 128)
    (hcontinued : ∀ byte ∈ bytes, 128 ≤ byte.toNat) (value index : ℕ) :
    remainingLength multiplier value index bytes = .ok none := by
  induction bytes generalizing multiplier value index with
  | nil => rfl
  | cons byte bytes ih =>
    have hmore : ¬ byte &&& 0x80 = 0 := by
      rw [land_80_eq_zero_iff, not_lt]
      exact hcontinued byte (List.mem_cons_self ..)
    have hpos : 0 < 128 ^ bytes.length := Nat.pow_pos (by decide)
    rw [List.length_cons, Nat.pow_succ', ← Nat.mul_assoc] at hfits
    have hsmall : ¬ multiplier * 128 > 128 * 128 * 128 :=
      not_lt.2 ((Nat.le_mul_of_pos_right _ hpos).trans hfits)
    rw [remainingLength, if_neg hmore, if_neg hsmall]
    exact ih hfits (fun b hb => hcontinued b (List.mem_cons_of_mem _ hb)) _ _

/-- Of a field that is cut off there is no length yet. -/
theorem mqttPacketLength_take_field {first : UInt8} {field : List UInt8} (h : IsLengthField field)
    {k : ℕ} (hk : k < field.length) : mqttPacketLength (first :: field.take k) = .ok none := by
  obtain ⟨continued, last, rfl, hshort, hcontinued, -⟩ := h
  rw [List.length_append, List.length_singleton] at hk
  rw [List.take_append_of_le_length (by omega), mqttPacketLength]
  split_ifs with hone
  · rfl
  · have hfits : 1 * 128 ^ (continued.take k).length ≤ 128 * 128 * 128 := by
      rw [Nat.one_mul, List.length_take]
      exact Nat.pow_le_pow_right (by decide) ((min_le_right _ _).trans hshort)
    rw [List.tail_cons,
      remainingLength_of_continued hfits fun byte hbyte => hcontinued byte (List.mem_of_mem_take hbyte)]

/-- Of every part of a packet there is no length yet. -/
theorem mqttPacketLength_take {first : UInt8} {field payload : List UInt8} (h : IsLengthField field)
    (hlength : lengthValue field = payload.length) {k : ℕ}
    (hk : k < (first :: (field ++ payload)).length) :
    mqttPacketLength ((first :: (field ++ payload)).take k) = .ok none := by
  cases k with
  | zero => rfl
  | succ k =>
    rw [List.length_cons, List.length_append] at hk
    rw [List.take_succ_cons, List.take_append]
    rcases Nat.lt_or_ge k field.length with hfield | hfield
    · rw [Nat.sub_eq_zero_of_le hfield.le, List.take_zero, List.append_nil]
      exact mqttPacketLength_take_field h hfield
    · rw [List.take_of_length_le hfield, mqttPacketLength_cons h, if_pos]
      rw [hlength, List.length_take]
      omega

/-! ## The other loop -/

/-- Both loops end at the same byte. -/
theorem publishHeaderLength_eq {multiplier value index : ℕ} {bytes : List UInt8} {r : ℕ × ℕ}
    (h : remainingLength multiplier value index bytes = .ok (some r)) :
    publishHeaderLength multiplier index bytes = some r.1 := by
  induction bytes generalizing multiplier value index with
  | nil => cases h
  | cons encoded rest ih =>
    rw [remainingLength] at h
    rw [publishHeaderLength]
    split_ifs at h ⊢
    · cases h
      rfl
    · exact ih h

/-- A fourth byte that is not the last. -/
theorem rejects_long_field {first b₁ b₂ b₃ b₄ : UInt8} (h₁ : 128 ≤ b₁.toNat) (h₂ : 128 ≤ b₂.toNat)
    (h₃ : 128 ≤ b₃.toNat) (h₄ : 128 ≤ b₄.toNat) (rest : List UInt8) :
    mqttPacketLength (first :: b₁ :: b₂ :: b₃ :: b₄ :: rest) = .error () ∧
      mqttPublishPayload (first :: b₁ :: b₂ :: b₃ :: b₄ :: rest) = none := by
  have hmore {byte : UInt8} (h : 128 ≤ byte.toNat) : ¬ byte &&& 0x80 = 0 := by
    rwa [land_80_eq_zero_iff, not_lt]
  have hskip : publishHeaderLength 1 1 (b₁ :: b₂ :: b₃ :: b₄ :: rest) = none := by
    simp [publishHeaderLength, hmore h₁, hmore h₂, hmore h₃, hmore h₄]
  refine ⟨?_, ?_⟩
  · simp [mqttPacketLength, remainingLength, hmore h₁, hmore h₂, hmore h₃, hmore h₄]
  · rw [mqttPublishPayload]
    split_ifs
    · rfl
    · rw [hskip]
      rfl

theorem of_mqttPacketLength {buffer : List UInt8} {total : ℕ}
    (h : mqttPacketLength buffer = .ok (some total)) : ∃ headerLen value,
      remainingLength 1 0 1 buffer.tail = .ok (some (headerLen, value)) ∧ total = headerLen + value := by
  rw [mqttPacketLength] at h
  split_ifs at h
  · cases h
  · cases hread : remainingLength 1 0 1 buffer.tail with
    | error e =>
      rw [hread] at h
      cases h
    | ok r =>
      cases r with
      | none =>
        rw [hread] at h
        cases h
      | some r =>
        obtain ⟨headerLen, value⟩ := r
        rw [hread] at h
        dsimp only at h
        split_ifs at h
        · cases h
        · cases h
          exact ⟨headerLen, value, rfl, rfl⟩

/-- What the encoder writes is read back, behind any first byte and in front of anything; a part
of it is incomplete; a field that goes on for too long is refused by both decoders; and both skip
the same bytes. -/
theorem remainingLength_codec :
    (∀ n < 128 ^ 4, ∃ field : List UInt8,
      (∀ (cap : ℕ) (output : HVec UInt8 cap),
        encodeMqttRemainingLength output n = output.extend field) ∧
      ∀ (first : UInt8) (payload rest : List UInt8), payload.length = n →
        mqttPacketLength (first :: (field ++ payload) ++ rest) =
          .ok (some (first :: (field ++ payload)).length) ∧
        ∀ k < (first :: (field ++ payload)).length,
          mqttPacketLength ((first :: (field ++ payload)).take k) = .ok none) ∧
    (∀ first b₁ b₂ b₃ b₄ : UInt8, 128 ≤ b₁.toNat → 128 ≤ b₂.toNat → 128 ≤ b₃.toNat →
      128 ≤ b₄.toNat → ∀ rest,
        mqttPacketLength (first :: b₁ :: b₂ :: b₃ :: b₄ :: rest) = .error () ∧
        mqttPublishPayload (first :: b₁ :: b₂ :: b₃ :: b₄ :: rest) = none) ∧
    ∀ (buffer : List UInt8) (total : ℕ), mqttPacketLength buffer = .ok (some total) →
      ∃ headerLen value, total = headerLen + value ∧
        remainingLength 1 0 1 buffer.tail = .ok (some (headerLen, value)) ∧
        publishHeaderLength 1 1 buffer.tail = some headerLen := by
  refine ⟨fun n hn => ?_, fun _ _ _ _ _ => rejects_long_field, fun buffer total h => ?_⟩
  · obtain ⟨hfield, hvalue⟩ := isLengthField_remainingLengthBytes hn
    refine ⟨remainingLengthBytes n 5, fun _ => appends_encodeMqttRemainingLength n, ?_⟩
    rintro first payload rest rfl
    refine ⟨?_, fun k hk => mqttPacketLength_take hfield hvalue hk⟩
    rw [List.cons_append, List.append_assoc, mqttPacketLength_cons hfield, hvalue, if_neg]
    · rw [List.length_cons, List.length_append, Nat.add_comm 1, Nat.add_right_comm]
    · rw [List.length_append]
      omega
  · obtain ⟨headerLen, value, hread, htotal⟩ := of_mqttPacketLength h
    exact ⟨headerLen, value, htotal, hread, publishHeaderLength_eq hread⟩

end EspWaveRider.Firmware
