import EspWaveRider.CommandFields
import EspWaveRider.Cpp.MqttSession
import EspWaveRider.Cpp.Presence
import EspWaveRider.Cpp.RadarMetrics
import EspWaveRider.Firmware.Configuration

/-!
# One `tuning_config`, two firmwares

The command as `handleUsbCommand` of `src/main.cpp` handles it and as `handle_device_command` of
the port does.

* `tuningConfig` — the settings after the C++ command;
* `tuningParity_iff` — when both firmwares end with the same settings.
-/

namespace EspWaveRider.Firmware

/-- The settings that `tuning_config` sets. -/
def FirmwareState.tuning (s : FirmwareState) : Cpp.RuntimeTuning where
  maxDetectionRangeCm := s.maxDetectionRangeCm
  minGateEnergy := s.minGateEnergy
  sensitivityPercent := s.sensitivityPercent
  presenceHoldMs := s.presenceHoldMs
  minActiveGates := s.minActiveGates
  minActivityScore := s.minActivityScore
  ledEnabled := s.ledEnabled
  ledBrightness := s.ledBrightness

end EspWaveRider.Firmware

namespace EspWaveRider.Cpp

open Text Command Firmware

def defaultPresenceHoldMs : UInt16 := 4000
def defaultLedBrightness : ℤ := 32

/-- The macro `constrain`. -/
def constrain (value low high : ℤ) : ℤ := if value < low then low else if value > high then high else value

/-- What the command sets. -/
def tuningConfig (payload : Str) : RuntimeTuning :=
  let field (i : ℕ) : Str := (splitConfigFields payload 8).getD i []
  let parsedMaxRange := toInt (field 0)
  let parsedMinEnergy := toInt (field 1)
  let parsedSensitivity := toInt (field 2)
  let parsedHoldMs := toInt (field 3)
  let parsedMinGates := toInt (field 4)
  let parsedMinActivity := toInt (field 5)
  let parsedLedBrightness := toInt (field 7)
  { maxDetectionRangeCm := if parsedMaxRange > 0 then UInt16.ofInt parsedMaxRange
      else UInt16.ofInt (ld2420GateCount * ld2420GateSizeCm)
    minGateEnergy := if parsedMinEnergy > 0 then UInt16.ofInt parsedMinEnergy
      else UInt16.ofNat ld2420ActiveGateFloor
    sensitivityPercent :=
      UInt8.ofInt (constrain (if parsedSensitivity > 0 then parsedSensitivity else 55) 10 100)
    presenceHoldMs := if parsedHoldMs ≥ 0 then
        UInt16.ofInt (constrain parsedHoldMs minPresenceHoldMs.toNat maxPresenceHoldMs.toNat)
      else defaultPresenceHoldMs
    minActiveGates :=
      UInt8.ofInt (constrain (if parsedMinGates > 0 then parsedMinGates else 1) 1 ld2420GateCount)
    minActivityScore :=
      UInt8.ofInt (constrain (if parsedMinActivity > 0 then parsedMinActivity else 10) 1 100)
    ledEnabled := NodeState.isOn (field 6)
    ledBrightness := UInt8.ofInt
      (constrain (if parsedLedBrightness > 0 then parsedLedBrightness else defaultLedBrightness) 1 255) }

theorem constrain_eq {low high : ℤ} (h : low ≤ high) (value : ℤ) :
    constrain value low high = clampI32 value low high := by
  rw [constrain, clampI32]
  split_ifs
  · omega
  · omega
  · omega

theorem uint8_ofInt {value : ℤ} (h : 0 ≤ value) : UInt8.ofInt value = UInt8.ofNat value.toNat := by
  rw [UInt8.ofInt, ← UInt8.toNat_inj, UInt8.toNat_ofNat', UInt8.toNat_ofNat']
  omega

theorem uint16_ofInt {value : ℤ} (h : 0 ≤ value) : UInt16.ofInt value = UInt16.ofNat value.toNat := by
  rw [UInt16.ofInt, ← UInt16.toNat_inj, UInt16.toNat_ofNat', UInt16.toNat_ofNat']
  omega

/-- A value that narrowing and clamping to 16 bits treat alike. -/
def KeptByNarrowing (value : ℤ) : Prop := value ≤ 65535 ∨ value % 65536 = 65535

theorem narrowed_eq_clamped_iff {value : ℤ} (h : value > 0) :
    UInt16.ofNat (clampI32 value 1 65535).toNat = UInt16.ofInt value ↔ KeptByNarrowing value := by
  rw [uint16_ofInt h.le, ← UInt16.toNat_inj, UInt16.toNat_ofNat', UInt16.toNat_ofNat', clampI32,
    KeptByNarrowing]
  omega

/-- A field that both clamp to the same range, with the same default. -/
theorem clampedPositive_eq (low high default value : ℤ) (hlow : 0 ≤ low) (h : low ≤ high) :
    UInt8.ofNat (clampI32 (positiveOr default value) low high).toNat =
      UInt8.ofInt (constrain (if value > 0 then value else default) low high) := by
  rw [constrain_eq h, uint8_ofInt]
  · rfl
  · exact le_max_of_le_left hlow

theorem isOn_eq (token : Str) : NodeState.isOn token = parseBoolToken token := by
  simp [NodeState.isOn, parseBoolToken, Bool.or_assoc]

/-- The tokens of a switch are not changed by decoding. -/
theorem isOn_percentDecode {token : Str} (h : NodeState.isOn token = true) :
    NodeState.isOn (percentDecode token) = true := by
  rw [isOn_eq, parseBoolToken, decide_eq_true_iff] at h
  rcases h with rfl | rfl | rfl
  all_goals decide

/-- Only an empty field is a different time. -/
theorem holdMs_eq_iff {field : Str} {core : ℤ} (hcore : core = if field = [] then -1 else toInt field) :
    (if core ≥ 0 then UInt16.ofNat (clampI32 core 3000 60000).toNat else 4000) =
      (if toInt field ≥ 0 then
        UInt16.ofInt (constrain (toInt field) minPresenceHoldMs.toNat maxPresenceHoldMs.toNat)
      else defaultPresenceHoldMs) ↔ field ≠ [] := by
  subst hcore
  by_cases hempty : field = []
  · subst hempty
    exact iff_of_false (by decide) (by decide)
  · rw [if_neg hempty]
    refine iff_of_true ?_ hempty
    split
    · have hrange : (3000 : ℤ) ≤ 60000 := by decide
      rw [uint16_ofInt]
      · exact congrArg (fun v : ℤ => UInt16.ofNat v.toNat) (constrain_eq hrange _).symm
      · rw [constrain_eq (by decide)]
        exact le_max_of_le_left (by decide)
    · rfl

/-- The range or the energy, which only the port clamps. -/
theorem narrowed_eq_iff {value : ℤ} {default : UInt16} :
    (if value > 0 then UInt16.ofNat (clampI32 value 1 65535).toNat else default) =
      (if value > 0 then UInt16.ofInt value else default) ↔ KeptByNarrowing value := by
  split
  case isTrue hpos => exact narrowed_eq_clamped_iff hpos
  case isFalse hneg => exact iff_of_true rfl (.inl (by omega))

/-- After a `tuning_config` of numbers that are empty or fit 32 bits both firmwares have the same
tuning, except for a range or an energy beyond 16 bits, an empty time, and a switch that is
encoded. -/
theorem tuningParity_iff (s : FirmwareState) (uptimeMs : ℕ) {payload : Str} {fields : Vector Str 8}
    (hfields : splitFields 8 payload = .ok fields)
    (hnumeric : ∀ i : Fin 8, i ≠ 6 → NumericField fields[i]) :
    (s.handleDeviceCommand uptimeMs (.tuningConfig payload)).state.tuning = tuningConfig payload ↔
      KeptByNarrowing (toInt fields[0]!) ∧ KeptByNarrowing (toInt fields[1]!) ∧ fields[3]! ≠ [] ∧
        (NodeState.isOn (percentDecode fields[6]!) = true → NodeState.isOn fields[6]! = true) := by
  have h0 : NumericField fields[0] := hnumeric 0 (by decide)
  have h1 : NumericField fields[1] := hnumeric 1 (by decide)
  have h2 : NumericField fields[2] := hnumeric 2 (by decide)
  have h3 : NumericField fields[3] := hnumeric 3 (by decide)
  have h4 : NumericField fields[4] := hnumeric 4 (by decide)
  have h5 : NumericField fields[5] := hnumeric 5 (by decide)
  have h7 : NumericField fields[7] := hnumeric 7 (by decide)
  have hfield := getD_splitConfigFields hfields
  simp only [FirmwareState.handleDeviceCommand, parseTuningConfigPayload, hfields, tuningConfigOfFields,
    parseI32OrDefault_zero h0, parseI32OrDefault_zero h1, parseI32OrDefault_zero h2,
    parseI32OrDefault_eq h3, parseI32OrDefault_zero h4, parseI32OrDefault_zero h5,
    parseI32OrDefault_zero h7, bind, Except.bind, pure, Except.pure, FirmwareState.configured,
    FirmwareState.applyTuningConfig, FirmwareState.tuning, tuningConfig]
  rw [hfield 0 (by decide), hfield 1 (by decide), hfield 2 (by decide), hfield 3 (by decide),
    hfield 4 (by decide), hfield 5 (by decide), hfield 6 (by decide), hfield 7 (by decide)]
  rw [toInt_percentDecode h0, toInt_percentDecode h1, toInt_percentDecode h2, toInt_percentDecode h3,
    toInt_percentDecode h4, toInt_percentDecode h5, toInt_percentDecode h7]
  have hrange : UInt16.ofInt (ld2420GateCount * ld2420GateSizeCm) = 1120 := rfl
  have hfloor : UInt16.ofNat ld2420ActiveGateFloor = 25 := rfl
  have hsensitivity := clampedPositive_eq 10 100 55 (toInt fields[2]) (by decide) (by decide)
  have hgates := clampedPositive_eq 1 ld2420GateCount 1 (toInt fields[4]) (by decide) (by decide)
  have hactivity := clampedPositive_eq 1 100 10 (toInt fields[5]) (by decide) (by decide)
  have hbrightness :=
    clampedPositive_eq 1 255 defaultLedBrightness (toInt fields[7]) (by decide) (by decide)
  have hswitch : parseBoolToken fields[6] = NodeState.isOn (percentDecode fields[6]) ↔
      (NodeState.isOn (percentDecode fields[6]) = true → NodeState.isOn fields[6] = true) := by
    rw [← isOn_eq, Bool.eq_iff_iff]
    exact ⟨fun h => h.2, fun h => ⟨isOn_percentDecode, h⟩⟩
  rw [RuntimeTuning.mk.injEq, hrange, hfloor, narrowed_eq_iff, narrowed_eq_iff, holdMs_eq_iff rfl,
    hswitch]
  constructor
  · rintro ⟨h₀, h₁, -, h₃, -, -, h₆, -⟩
    exact ⟨h₀, h₁, h₃, h₆⟩
  · rintro ⟨h₀, h₁, h₃, h₆⟩
    exact ⟨h₀, h₁, hsensitivity, h₃, hgates, hactivity, h₆, hbrightness⟩

def tunedFields : Vector Str 8 := #v["600", "+40", "", "5000", "-1", "20", "on", "300"]

theorem tuningParity_tuned : NodeState.isOn tunedFields[6]! = true ∧
    ((FirmwareState.handleDeviceCommand {} 0
      (.tuningConfig "600|+40||5000|-1|20|on|300".toList)).state.tuning =
        tuningConfig "600|+40||5000|-1|20|on|300".toList ↔
      KeptByNarrowing (toInt tunedFields[0]!) ∧ KeptByNarrowing (toInt tunedFields[1]!) ∧
        tunedFields[3]! ≠ [] ∧ (NodeState.isOn (percentDecode tunedFields[6]!) = true →
          NodeState.isOn tunedFields[6]! = true)) :=
  ⟨by decide, tuningParity_iff {} 0 (by decide) (by decide)⟩

/-- A range beyond 16 bits and an empty time. -/
theorem tuningConfig_differs : ¬ ∀ (s : FirmwareState) (uptimeMs : ℕ) (payload : Str) (fields : Vector Str 8),
    splitFields 8 payload = .ok fields → (∀ i : Fin 8, i ≠ 6 → NumericField fields[i]) →
      (s.handleDeviceCommand uptimeMs (.tuningConfig payload)).state.tuning = tuningConfig payload := by
  intro hall
  have hsame := hall {} 0 "70000|25|55||1|10|1|32".toList
    #v["70000", "25", "55", "", "1", "10", "1", "32"] (by decide) (by decide)
  exact absurd (congrArg RuntimeTuning.presenceHoldMs hsame) (by decide)

end EspWaveRider.Cpp
