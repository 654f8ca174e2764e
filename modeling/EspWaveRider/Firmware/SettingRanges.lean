import EspWaveRider.Firmware.Configuration
import EspWaveRider.Lib.Clamp

/-!
# Settings within their ranges

Two ways lead into the settings of a node: `load_persisted_config`, which takes whatever
the flash holds, and the commands (`rust/firmware/esp32s3/src/main.rs`, with the parser of
`espwaverider-core`).  Both have to keep every setting within its range.

* `FirmwareState.executeCommands` — commands one after the other;
* `WellSet` — what holds of the settings, established by boot and kept by every command;
* `withinRanges_executeCommands` — the ranges of the tuning and of the tags.
-/

namespace EspWaveRider.Firmware

open Text Command Clamp

/-! ## Clamping -/

theorem clampI32_mem {lo hi : ℤ} (h : lo ≤ hi) (value : ℤ) :
    lo ≤ clampI32 value lo hi ∧ clampI32 value lo hi ≤ hi := by
  unfold clampI32
  omega

/-- A value clamped to a range that fits is stored as it is. -/
theorem toNat_ofNat_clampI32 {lo hi : ℕ} (h : lo ≤ hi) (hhi : hi < 256) (value : ℤ) :
    lo ≤ (UInt8.ofNat (clampI32 value lo hi).toNat).toNat ∧
      (UInt8.ofNat (clampI32 value lo hi).toNat).toNat ≤ hi := by
  obtain ⟨hlow, hhigh⟩ := clampI32_mem (Int.ofNat_le.2 h) value
  rw [UInt8.toNat_ofNat', Nat.mod_eq_of_lt (by omega)]
  omega

/-! ## The ranges -/

def isLowerHexDigit (c : Char) : Bool := isAsciiDigit c || ('a' ≤ c && c ≤ 'f')

namespace BleIdentityTagState

structure WithinRanges (tag : BleIdentityTagState) : Prop where
  minRssi : -120 ≤ tag.minRssi ∧ tag.minRssi ≤ -20
  occupied : tag.occupied ↔ tag.label ≠ [] ∧ tag.address ≠ []
  address : ∀ c ∈ tag.address, isLowerHexDigit c

/-- The tag was written by `configuredBleTag`; clearing is writing one without a label. -/
def Written (tag : BleIdentityTagState) : Prop :=
  ∃ label address minRssi, tag = configuredBleTag label (normalizeBleIdentityValue address) minRssi

theorem written_clear : Written clearBleIdentityTag := ⟨[], [], 0, rfl⟩

theorem isLowerHexDigit_iff {c : Char} :
    isLowerHexDigit c ↔ isAsciiDigit c ∨ 97 ≤ c.toNat ∧ c.toNat ≤ 102 := by
  simp only [isLowerHexDigit, Bool.or_eq_true, Bool.and_eq_true, decide_eq_true_eq, Char.le_def,
    UInt32.le_iff_toNat_le]
  rfl

theorem isLowerHexDigit_of_mem_normalize {value : Str} {c : Char}
    (h : c ∈ normalizeBleIdentityValue value) : isLowerHexDigit c := by
  obtain ⟨ch, -, hch⟩ := List.mem_filterMap.1 h
  split_ifs at hch with hupper hkept
  · cases hch
    have hrange : 65 ≤ ch.toNat ∧ ch.toNat ≤ 70 := hupper
    have hcase : isAsciiUppercase ch := isAsciiUppercase_iff.2 (by omega)
    rw [isLowerHexDigit_iff, toAsciiLowercase, if_pos hcase, toNat_ofNat (by omega)]
    omega
  · cases hch
    rcases hkept with hlower | hdigit
    · simp [isLowerHexDigit, hlower]
    · simp [isLowerHexDigit, hdigit]

theorem Written.withinRanges {tag : BleIdentityTagState} (h : tag.Written) : tag.WithinRanges := by
  obtain ⟨label, address, minRssi, rfl⟩ := h
  unfold configuredBleTag
  dsimp only
  split
  · exact ⟨by decide, by decide, nofun⟩
  · exact ⟨clampI32_mem (by decide) minRssi, decide_eq_true_iff,
      fun c => isLowerHexDigit_of_mem_normalize⟩

end BleIdentityTagState

namespace FirmwareState

structure TuningWithinRanges (sensitivityPercent : UInt8) (presenceHoldMs : UInt16)
    (minActiveGates minActivityScore ledBrightness : UInt8) : Prop where
  sensitivityPercent : 10 ≤ sensitivityPercent.toNat ∧ sensitivityPercent.toNat ≤ 100
  presenceHoldMs : 3000 ≤ presenceHoldMs.toNat ∧ presenceHoldMs.toNat ≤ 60000
  minActiveGates : 1 ≤ minActiveGates.toNat ∧ minActiveGates.toNat ≤ 16
  minActivityScore : 1 ≤ minActivityScore.toNat ∧ minActivityScore.toNat ≤ 100
  ledBrightness : 1 ≤ ledBrightness.toNat

structure WithinRanges (s : FirmwareState) : Prop where
  tuning : TuningWithinRanges s.sensitivityPercent s.presenceHoldMs s.minActiveGates
    s.minActivityScore s.ledBrightness
  bleIdentityTags : ∀ (slot : ℕ) (h : slot < maxBleTags), s.bleIdentityTags[slot].WithinRanges

/-- The value comes from an `i16`. -/
def IsI16 (value : ℤ) : Prop := -32768 ≤ value ∧ value ≤ 32767

/-- The settings as boot and commands leave them. -/
structure WellSet (s : FirmwareState) : Prop where
  tuning : TuningWithinRanges s.sensitivityPercent s.presenceHoldMs s.minActiveGates
    s.minActivityScore s.ledBrightness
  bleIdentityTags : ∀ (slot : ℕ) (h : slot < maxBleTags), s.bleIdentityTags[slot].Written
  mqttWebsocketPath : normalizeWebsocketPath s.mqttWebsocketPath = s.mqttWebsocketPath
  poseXCm : IsI16 s.poseXCm
  poseYCm : IsI16 s.poseYCm
  headingDeg : IsI16 s.headingDeg

theorem WellSet.withinRanges {s : FirmwareState} (h : s.WellSet) : s.WithinRanges :=
  ⟨h.tuning, fun slot hslot => (h.bleIdentityTags slot hslot).withinRanges⟩

/-! ### Boot -/

/-- A setting read from the flash, or the one there was. -/
theorem getD_map_mem {α β : Type} {P : β → Prop} {f : α → β} {d : β} (stored : Option α)
    (hstored : ∀ value, P (f value)) (hd : P d) : P ((stored.map f).getD d) := by
  cases stored with
  | none => exact hd
  | some value => exact hstored value

/-- The same for a value that is clamped when it is read. -/
theorem getD_clamped_uint8 (lo hi : UInt8) (hle : lo.toNat ≤ hi.toNat) (stored : Option UInt8)
    {d : UInt8} (hd : lo.toNat ≤ d.toNat ∧ d.toNat ≤ hi.toNat) :
    lo.toNat ≤ ((stored.map fun value => max lo (min value hi)).getD d).toNat ∧
      ((stored.map fun value => max lo (min value hi)).getD d).toNat ≤ hi.toNat := by
  refine getD_map_mem (P := fun v : UInt8 => lo.toNat ≤ v.toNat ∧ v.toNat ≤ hi.toNat) stored
    (fun value => ?_) hd
  rw [toNat_max_uint8, toNat_min_uint8]
  omega

theorem isI16_toInt (value : Int16) : IsI16 value.toInt :=
  ⟨value.minValue_le_toInt, value.toInt_le⟩

theorem wellSet_default : WellSet {} where
  tuning := ⟨by decide, by decide, by decide, by decide, by decide⟩
  bleIdentityTags := by
    intro slot hslot
    simp only [Vector.getElem_replicate]
    exact BleIdentityTagState.written_clear
  mqttWebsocketPath := rfl
  poseXCm := ⟨by decide, by decide⟩
  poseYCm := ⟨by decide, by decide⟩
  headingDeg := ⟨by decide, by decide⟩

theorem WellSet.initializeDeviceIdentity {s : FirmwareState} (h : s.WellSet) (mac : Vector UInt8 6) :
    (s.initializeDeviceIdentity mac).WellSet :=
  ⟨h.tuning, h.bleIdentityTags, h.mqttWebsocketPath, h.poseXCm, h.poseYCm, h.headingDeg⟩

theorem WellSet.markWifiDisconnected {s : FirmwareState} (h : s.WellSet) (reasonText : Str) :
    (s.markWifiDisconnected reasonText).WellSet :=
  ⟨h.tuning, h.bleIdentityTags, h.mqttWebsocketPath, h.poseXCm, h.poseYCm, h.headingDeg⟩

theorem WellSet.loadPersistedConfig {s : FirmwareState} (h : s.WellSet) (settings : Nvs) :
    (s.loadPersistedConfig settings).WellSet := by
  refine disconnectedIf_rule (Q := WellSet) _ _ (fun ht => ht.markWifiDisconnected _)
    ⟨⟨?_, ?_, ?_, ?_, ?_⟩, ?_, ?_, ?_, ?_, ?_⟩
  · exact getD_clamped_uint8 10 100 (by decide) settings.sensePct h.tuning.sensitivityPercent
  · refine getD_map_mem (P := fun v : UInt16 => 3000 ≤ v.toNat ∧ v.toNat ≤ 60000) settings.holdMs
      (fun value => ?_) h.tuning.presenceHoldMs
    rw [toNat_max_uint16, toNat_min_uint16]
    have hlow : minPresenceHoldMs.toNat = 3000 := rfl
    have hhigh : maxPresenceHoldMs.toNat = 60000 := rfl
    omega
  · exact getD_clamped_uint8 1 16 (by decide) settings.minGates h.tuning.minActiveGates
  · exact getD_clamped_uint8 1 100 (by decide) settings.minAct h.tuning.minActivityScore
  · refine getD_map_mem (P := fun v : UInt8 => 1 ≤ v.toNat) settings.ledBri (fun value => ?_)
      h.tuning.ledBrightness
    rw [toNat_max_uint8]
    exact le_max_right _ _
  · intro slot hslot
    simp only [Vector.getElem_ofFn]
    cases haddress : (settings.bleTags ⟨slot, hslot⟩).address with
    | none => exact ⟨_, [], _, rfl⟩
    | some address => exact ⟨_, address, _, rfl⟩
  · exact getD_map_mem (P := fun path => normalizeWebsocketPath path = path) settings.mqttWsp
      normalizeWebsocketPath_idem h.mqttWebsocketPath
  · exact getD_map_mem (P := IsI16) settings.poseX isI16_toInt h.poseXCm
  · exact getD_map_mem (P := IsI16) settings.poseY isI16_toInt h.poseYCm
  · exact getD_map_mem (P := IsI16) settings.poseH isI16_toInt h.headingDeg

theorem wellSet_bootState (mac : Vector UInt8 6) (settings : Option Nvs) :
    (bootState mac settings).WellSet := by
  have hdefault := wellSet_default.initializeDeviceIdentity mac
  cases settings with
  | none => exact hdefault.initializeDeviceIdentity mac
  | some settings =>
    have hloaded := hdefault.loadPersistedConfig settings
    exact ⟨hloaded.tuning, hloaded.bleIdentityTags, hloaded.mqttWebsocketPath, hloaded.poseXCm,
      hloaded.poseYCm, hloaded.headingDeg⟩

/-! ### Commands -/

/-- Commands as they come, each with its time. -/
def executeCommands (s : FirmwareState) (commands : List (Str × ℕ)) : FirmwareState :=
  commands.foldl (fun s command => (s.handleCommand command.1 command.2).state) s

/-- What every command keeps holds after any number of them. -/
theorem executeCommands_induction {P : FirmwareState → Prop}
    (hstep : ∀ s s', P s → ParsedEffect s s' → P s') {s : FirmwareState} (hs : P s)
    (commands : List (Str × ℕ)) : P (s.executeCommands commands) := by
  induction commands generalizing s with
  | nil => exact hs
  | cons command commands ih =>
    exact ih (hstep s _ hs (s.parsedEffect_handleCommand command.1 command.2))

theorem tuningWithinRanges_of_parse {text : Str} {payload : TuningConfigPayload}
    (h : parseTuningConfigPayload text = .ok payload) :
    TuningWithinRanges payload.sensitivityPercent payload.presenceHoldMs payload.minActiveGates
      payload.minActivityScore payload.ledBrightness := by
  obtain ⟨fields, -, h⟩ := bind_eq_ok.1 h
  unfold tuningConfigOfFields at h
  obtain ⟨range, -, h⟩ := bind_eq_ok.1 h
  obtain ⟨energy, -, h⟩ := bind_eq_ok.1 h
  obtain ⟨sensitivity, -, h⟩ := bind_eq_ok.1 h
  obtain ⟨hold, -, h⟩ := bind_eq_ok.1 h
  obtain ⟨gates, -, h⟩ := bind_eq_ok.1 h
  obtain ⟨activity, -, h⟩ := bind_eq_ok.1 h
  obtain ⟨brightness, -, h⟩ := bind_eq_ok.1 h
  cases h
  refine ⟨toNat_ofNat_clampI32 (by decide) (by decide) _, ?_,
    toNat_ofNat_clampI32 (by decide) (by decide) _, toNat_ofNat_clampI32 (by decide) (by decide) _,
    (toNat_ofNat_clampI32 (by decide) (by decide) _).1⟩
  dsimp only
  split
  · have hclamp := clampI32_mem (show (3000 : ℤ) ≤ 60000 by decide) hold
    rw [UInt16.toNat_ofNat', Nat.mod_eq_of_lt (by omega)]
    omega
  · decide

theorem isI16_of_parseI16 {value message : Str} {v : ℤ} (h : parseI16 value message = .ok v) :
    IsI16 v := by
  have hrange := (Option.filter_eq_some_iff.1 (orError_eq_ok_iff.1 h)).2
  rwa [decide_eq_true_eq] at hrange

theorem isI16_of_parse {text : Str} {payload : RoomConfigPayload}
    (h : parseRoomConfigPayload text = .ok payload) :
    IsI16 payload.poseXCm ∧ IsI16 payload.poseYCm ∧ IsI16 payload.headingDeg := by
  obtain ⟨fields, -, h⟩ := bind_eq_ok.1 h
  unfold roomConfigOfFields at h
  obtain ⟨x, hx, h⟩ := bind_eq_ok.1 h
  obtain ⟨y, hy, h⟩ := bind_eq_ok.1 h
  obtain ⟨heading, hheading, h⟩ := bind_eq_ok.1 h
  obtain ⟨width, -, h⟩ := bind_eq_ok.1 h
  obtain ⟨height, -, h⟩ := bind_eq_ok.1 h
  cases h
  exact ⟨isI16_of_parseI16 hx, isI16_of_parseI16 hy, isI16_of_parseI16 hheading⟩

theorem WellSet.markedDirty {s : FirmwareState} (h : s.WellSet) :
    { s.markMqttRuntimeDirty with lastMqttRoomSummaryPublishMs := 0 }.WellSet :=
  ⟨h.tuning, h.bleIdentityTags, h.mqttWebsocketPath, h.poseXCm, h.poseYCm, h.headingDeg⟩

/-- A full configuration only normalises the path anew. -/
theorem WellSet.applyHomeAssistantConfig {s : FirmwareState} (h : s.WellSet)
    (payload : HomeAssistantConfigPayload) : (s.applyHomeAssistantConfig payload).WellSet := by
  refine WellSet.markedDirty (disconnectedIf_rule (Q := WellSet) _ _ ?_ ?_)
  · exact fun ht => ht.markWifiDisconnected _
  · exact ⟨h.tuning, h.bleIdentityTags, normalizeWebsocketPath_idem _, h.poseXCm, h.poseYCm,
      h.headingDeg⟩

/-- Every command leaves the settings as they should be. -/
theorem WellSet.parsedEffect {s s' : FirmwareState} (h : s.WellSet) (heffect : ParsedEffect s s') :
    s'.WellSet := by
  cases heffect with
  | nothing => exact h
  | homeAssistantConfig payload => exact h.applyHomeAssistantConfig payload
  | roomConfig hparse =>
    obtain ⟨hx, hy, hheading⟩ := isI16_of_parse hparse
    exact ⟨h.tuning, h.bleIdentityTags, h.mqttWebsocketPath, hx, hy, hheading⟩
  | websocketConfig payload =>
    refine ⟨h.tuning, h.bleIdentityTags, ?_, h.poseXCm, h.poseYCm, h.headingDeg⟩
    simp only [applyHomeAssistantWebsocketConfig, markMqttRuntimeDirty]
    split
    · rfl
    · exact normalizeWebsocketPath_idem _
  | mqttEndpoint payload =>
    refine ⟨h.tuning, h.bleIdentityTags, ?_, h.poseXCm, h.poseYCm, h.headingDeg⟩
    simp only [applyHomeAssistantMqttEndpoint, markMqttRuntimeDirty]
    split
    · exact normalizeWebsocketPath_idem _
    · exact h.mqttWebsocketPath
  | tuningConfig hparse =>
    exact ⟨tuningWithinRanges_of_parse hparse, h.bleIdentityTags, h.mqttWebsocketPath, h.poseXCm,
      h.poseYCm, h.headingDeg⟩
  | @bleTag slot hslot label address minRssi =>
    refine ⟨h.tuning, fun i hi => ?_, h.mqttWebsocketPath, h.poseXCm, h.poseYCm, h.headingDeg⟩
    rw [Vector.getElem_set]
    split
    · exact ⟨label, address, minRssi, rfl⟩
    · exact h.bleIdentityTags i hi
  | firmwareSyncState sync =>
    exact ⟨h.tuning, h.bleIdentityTags, h.mqttWebsocketPath, h.poseXCm, h.poseYCm, h.headingDeg⟩

theorem WellSet.executeCommands {s : FirmwareState} (h : s.WellSet) (commands : List (Str × ℕ)) :
    (s.executeCommands commands).WellSet :=
  executeCommands_induction (fun _ _ => WellSet.parsedEffect) h commands

/-- Whatever the flash held and whatever commands came: tuning and tags are in range. -/
theorem withinRanges_executeCommands (mac : Vector UInt8 6) (settings : Option Nvs)
    (commands : List (Str × ℕ)) : ((bootState mac settings).executeCommands commands).WithinRanges :=
  ((wellSet_bootState mac settings).executeCommands commands).withinRanges

end FirmwareState

end EspWaveRider.Firmware
