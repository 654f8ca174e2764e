import EspWaveRider.Firmware.SettingRanges

/-!
# The settings in flash

`persist_runtime_config` of `rust/firmware/esp32s3/src/main.rs` writes every setting under
a key of its own and ignores whether the write took effect; `load_persisted_config` reads
them back at the next boot.

* `Setting`, `SettingsKey` — the settings and the keys they are stored under;
* `Nvs.persistRuntimeConfig` — a save of which only some writes take effect;
* `setting_bootState`, `bleTag_bootState` — what the next boot makes of the flash;
* `settings_survive` — what a reboot brings back.
-/

namespace EspWaveRider.Firmware

open Text Command Clamp

/-! ## Keys -/

/-- The settings that have one key each, by that key. -/
inductive Setting where
  | enabled
  | wifiSsid
  | wifiPass
  | mqttHost
  | mqttPort
  | mqttUser
  | mqttPass
  | mqttWs
  | mqttWsp
  | mqttHdr
  | nodeId
  | friendly
  | roomId
  | sensorRole
  | poseX
  | poseY
  | poseH
  | roomW
  | roomH
  | maxRange
  | minEnergy
  | sensePct
  | holdMs
  | minGates
  | minAct
  | ledOn
  | ledBri
  deriving DecidableEq

namespace Setting

/-- The type of a setting in flash. -/
abbrev Stored : Setting → Type
  | .enabled | .mqttWs | .ledOn => Bool
  | .wifiSsid | .wifiPass | .mqttHost | .mqttUser | .mqttPass | .mqttWsp | .mqttHdr | .nodeId
  | .friendly | .roomId | .sensorRole => Str
  | .poseX | .poseY | .poseH => Int16
  | .mqttPort | .roomW | .roomH | .maxRange | .minEnergy | .holdMs => UInt16
  | .sensePct | .minGates | .minAct | .ledBri => UInt8

/-- Its type in the state. -/
abbrev Value : Setting → Type
  | .enabled | .mqttWs | .ledOn => Bool
  | .wifiSsid | .wifiPass | .mqttHost | .mqttUser | .mqttPass | .mqttWsp | .mqttHdr | .nodeId
  | .friendly | .roomId | .sensorRole => Str
  | .poseX | .poseY | .poseH => ℤ
  | .mqttPort | .roomW | .roomH | .maxRange | .minEnergy | .holdMs => UInt16
  | .sensePct | .minGates | .minAct | .ledBri => UInt8

end Setting

inductive SettingsKey where
  | setting (k : Setting)
  | bleLabel (slot : Fin maxBleTags)
  | bleMac (slot : Fin maxBleTags)
  | bleRssi (slot : Fin maxBleTags)

abbrev SettingsKey.Stored : SettingsKey → Type
  | .setting k => k.Stored
  | .bleLabel _ | .bleMac _ => Str
  | .bleRssi _ => Int32

namespace Nvs

def setting (settings : Nvs) : (k : Setting) → Option k.Stored
  | .enabled => settings.enabled
  | .wifiSsid => settings.wifiSsid
  | .wifiPass => settings.wifiPass
  | .mqttHost => settings.mqttHost
  | .mqttPort => settings.mqttPort
  | .mqttUser => settings.mqttUser
  | .mqttPass => settings.mqttPass
  | .mqttWs => settings.mqttWs
  | .mqttWsp => settings.mqttWsp
  | .mqttHdr => settings.mqttHdr
  | .nodeId => settings.nodeId
  | .friendly => settings.friendly
  | .roomId => settings.roomId
  | .sensorRole => settings.sensorRole
  | .poseX => settings.poseX
  | .poseY => settings.poseY
  | .poseH => settings.poseH
  | .roomW => settings.roomW
  | .roomH => settings.roomH
  | .maxRange => settings.maxRange
  | .minEnergy => settings.minEnergy
  | .sensePct => settings.sensePct
  | .holdMs => settings.holdMs
  | .minGates => settings.minGates
  | .minAct => settings.minAct
  | .ledOn => settings.ledOn
  | .ledBri => settings.ledBri

/-- What is stored under a key. -/
def get (settings : Nvs) : (key : SettingsKey) → Option key.Stored
  | .setting k => settings.setting k
  | .bleLabel slot => (settings.bleTags slot).label
  | .bleMac slot => (settings.bleTags slot).address
  | .bleRssi slot => (settings.bleTags slot).minRssi

end Nvs

/-! ## Saving -/

/-- One `settings.set`; a write that fails leaves what was stored. -/
def Nvs.written {α : Type} (taken : Bool) (value : α) (stored : Option α) : Option α :=
  if taken then some value else stored

namespace FirmwareState

def setting (s : FirmwareState) : (k : Setting) → k.Value
  | .enabled => s.enabled
  | .wifiSsid => s.wifiSsid
  | .wifiPass => s.wifiPassword
  | .mqttHost => s.mqttHost
  | .mqttPort => s.mqttPort
  | .mqttUser => s.mqttUsername
  | .mqttPass => s.mqttPassword
  | .mqttWs => s.mqttUseWebsockets
  | .mqttWsp => s.mqttWebsocketPath
  | .mqttHdr => s.mqttHostHeader
  | .nodeId => s.nodeId
  | .friendly => s.friendlyName
  | .roomId => s.roomId
  | .sensorRole => s.sensorRole
  | .poseX => s.poseXCm
  | .poseY => s.poseYCm
  | .poseH => s.headingDeg
  | .roomW => s.roomWidthCm
  | .roomH => s.roomHeightCm
  | .maxRange => s.maxDetectionRangeCm
  | .minEnergy => s.minGateEnergy
  | .sensePct => s.sensitivityPercent
  | .holdMs => s.presenceHoldMs
  | .minGates => s.minActiveGates
  | .minAct => s.minActivityScore
  | .ledOn => s.ledEnabled
  | .ledBri => s.ledBrightness

/-- What is written for a setting. -/
def toStored (s : FirmwareState) : (k : Setting) → k.Stored
  | .mqttWsp => normalizeWebsocketPath s.mqttWebsocketPath
  | .poseX => Int16.ofInt s.poseXCm
  | .poseY => Int16.ofInt s.poseYCm
  | .poseH => Int16.ofInt s.headingDeg
  | .enabled => s.enabled
  | .wifiSsid => s.wifiSsid
  | .wifiPass => s.wifiPassword
  | .mqttHost => s.mqttHost
  | .mqttPort => s.mqttPort
  | .mqttUser => s.mqttUsername
  | .mqttPass => s.mqttPassword
  | .mqttWs => s.mqttUseWebsockets
  | .mqttHdr => s.mqttHostHeader
  | .nodeId => s.nodeId
  | .friendly => s.friendlyName
  | .roomId => s.roomId
  | .sensorRole => s.sensorRole
  | .roomW => s.roomWidthCm
  | .roomH => s.roomHeightCm
  | .maxRange => s.maxDetectionRangeCm
  | .minEnergy => s.minGateEnergy
  | .sensePct => s.sensitivityPercent
  | .holdMs => s.presenceHoldMs
  | .minGates => s.minActiveGates
  | .minAct => s.minActivityScore
  | .ledOn => s.ledEnabled
  | .ledBri => s.ledBrightness

end FirmwareState

/-- `persist_runtime_config` when the writes of the keys in `taken` take effect. -/
def Nvs.persistRuntimeConfig (settings : Nvs) (taken : SettingsKey → Bool) (s : FirmwareState) :
    Nvs :=
  let set (k : Setting) : Option k.Stored :=
    written (taken (.setting k)) (s.toStored k) (settings.setting k)
  { settings with
    enabled := set .enabled
    wifiSsid := set .wifiSsid
    wifiPass := set .wifiPass
    mqttHost := set .mqttHost
    mqttPort := set .mqttPort
    mqttUser := set .mqttUser
    mqttPass := set .mqttPass
    mqttWs := set .mqttWs
    mqttWsp := set .mqttWsp
    mqttHdr := set .mqttHdr
    nodeId := set .nodeId
    friendly := set .friendly
    roomId := set .roomId
    sensorRole := set .sensorRole
    poseX := set .poseX
    poseY := set .poseY
    poseH := set .poseH
    roomW := set .roomW
    roomH := set .roomH
    maxRange := set .maxRange
    minEnergy := set .minEnergy
    sensePct := set .sensePct
    holdMs := set .holdMs
    minGates := set .minGates
    minAct := set .minAct
    ledOn := set .ledOn
    ledBri := set .ledBri
    bleTags := fun slot =>
      let tag := s.bleIdentityTags[slot]
      let stored := settings.bleTags slot
      { label := written (taken (.bleLabel slot)) (if tag.occupied then tag.label else []) stored.label
        address :=
          written (taken (.bleMac slot)) (if tag.occupied then tag.address else []) stored.address
        minRssi := written (taken (.bleRssi slot))
          (Int32.ofInt (if tag.occupied then tag.minRssi else bleTagDefaultMinRssi))
          stored.minRssi } }

theorem Nvs.get_persistRuntimeConfig (settings : Nvs) (taken : SettingsKey → Bool)
    (s : FirmwareState) (k : Setting) :
    (settings.persistRuntimeConfig taken s).setting k =
      written (taken (.setting k)) (s.toStored k) (settings.setting k) := by
  cases k <;> rfl

/-! ## Loading -/

/-- What `load_persisted_config` takes for a setting. -/
def Setting.read : (k : Setting) → k.Value → Option k.Stored → k.Value
  | .mqttWsp, value, stored => (stored.map normalizeWebsocketPath).getD value
  | .poseX, value, stored | .poseY, value, stored | .poseH, value, stored =>
    (stored.map Int16.toInt).getD value
  | .sensePct, value, stored => (stored.map fun v => max 10 (min v 100)).getD value
  | .holdMs, value, stored =>
    (stored.map fun v => max minPresenceHoldMs (min v maxPresenceHoldMs)).getD value
  | .minGates, value, stored => (stored.map fun v => max 1 (min v 16)).getD value
  | .minAct, value, stored => (stored.map fun v => max 1 (min v 100)).getD value
  | .ledBri, value, stored => (stored.map fun v => max v 1).getD value
  | .enabled, value, stored | .mqttWs, value, stored | .ledOn, value, stored
  | .wifiSsid, value, stored | .wifiPass, value, stored | .mqttHost, value, stored
  | .mqttPort, value, stored | .mqttUser, value, stored | .mqttPass, value, stored
  | .mqttHdr, value, stored | .nodeId, value, stored | .friendly, value, stored
  | .roomId, value, stored | .sensorRole, value, stored | .roomW, value, stored
  | .roomH, value, stored | .maxRange, value, stored | .minEnergy, value, stored =>
    stored.getD value

/-- What `initialize_device_identity` makes of a setting. -/
def Setting.identified (mac : Vector UInt8 6) : (k : Setting) → k.Value → k.Value
  | .nodeId, value =>
    if value = defaultNodeIdPrefix ∨ value = [] then defaultNodeId mac else value
  | .friendly, value =>
    if value = defaultFriendlyNamePrefix ∨ value = [] then defaultFriendlyName mac else value
  | .enabled, value | .wifiSsid, value | .wifiPass, value | .mqttHost, value | .mqttPort, value
  | .mqttUser, value | .mqttPass, value | .mqttWs, value | .mqttWsp, value | .mqttHdr, value
  | .roomId, value | .sensorRole, value | .poseX, value | .poseY, value | .poseH, value
  | .roomW, value | .roomH, value | .maxRange, value | .minEnergy, value | .sensePct, value
  | .holdMs, value | .minGates, value | .minAct, value | .ledOn, value | .ledBri, value => value

/-- The setting of a node that boots with a stored value. -/
def Setting.booted (mac : Vector UInt8 6) (k : Setting) (stored : Option k.Stored) : k.Value :=
  k.identified mac (k.read (k.identified mac (FirmwareState.setting {} k)) stored)

namespace NvsBleTag

def labelRead (tag : NvsBleTag) : Str := tag.label.getD []

def addressRead (tag : NvsBleTag) : Str := (tag.address.map normalizeBleIdentityValue).getD []

def minRssiRead (tag : NvsBleTag) : ℤ :=
  clampI32 ((tag.minRssi.map Int32.toInt).getD bleTagDefaultMinRssi) (-120) (-20)

/-- The tag of a node that boots with these stored values. -/
def booted (tag : NvsBleTag) : BleIdentityTagState :=
  configuredBleTag tag.labelRead tag.addressRead
    ((tag.minRssi.map Int32.toInt).getD bleTagDefaultMinRssi)

end NvsBleTag

namespace FirmwareState

theorem setting_initializeDeviceIdentity (s : FirmwareState) (mac : Vector UInt8 6) (k : Setting) :
    (s.initializeDeviceIdentity mac).setting k = k.identified mac (s.setting k) := by
  cases k <;> rfl

theorem setting_markWifiDisconnected (s : FirmwareState) (reasonText : Str) (k : Setting) :
    (s.markWifiDisconnected reasonText).setting k = s.setting k := by
  cases k <;> rfl

theorem setting_loadPersistedConfig (s : FirmwareState) (settings : Nvs) (k : Setting) :
    (s.loadPersistedConfig settings).setting k = k.read (s.setting k) (settings.setting k) := by
  refine disconnectedIf_rule (Q := fun t => t.setting k = k.read (s.setting k) (settings.setting k))
    _ _ (fun ht => (setting_markWifiDisconnected _ _ k).trans ht) ?_
  cases k <;> rfl

theorem bleIdentityTags_loadPersistedConfig (s : FirmwareState) (settings : Nvs) :
    (s.loadPersistedConfig settings).bleIdentityTags =
      Vector.ofFn fun slot => (settings.bleTags slot).booted := by
  unfold loadPersistedConfig
  dsimp only
  split <;> rfl

/-- Every setting of a node that boots, from what is stored under its key. -/
theorem setting_bootState (mac : Vector UInt8 6) (settings : Nvs) (k : Setting) :
    (bootState mac (some settings)).setting k = k.booted mac (settings.setting k) := by
  have hcount (t : FirmwareState) : FirmwareState.setting
      { t with bootCount := saturatingSucc t.bootCount } k = t.setting k := by
    cases k <;> rfl
  unfold bootState
  dsimp only
  rw [setting_initializeDeviceIdentity, hcount, setting_loadPersistedConfig,
    setting_initializeDeviceIdentity]
  rfl

theorem bleTag_bootState (mac : Vector UInt8 6) (settings : Nvs) (slot : ℕ) (h : slot < maxBleTags) :
    (bootState mac (some settings)).bleIdentityTags[slot] =
      (settings.bleTags ⟨slot, h⟩).booted := by
  have htags : (bootState mac (some settings)).bleIdentityTags =
      Vector.ofFn fun slot => (settings.bleTags slot).booted :=
    bleIdentityTags_loadPersistedConfig _ settings
  simp only [htags, Vector.getElem_ofFn]

end FirmwareState

/-! ## Rebooting with what was saved -/

/-- Two tags with the same configuration; when a tag was last heard is not part of it. -/
structure BleIdentityTagState.SameTag (tag tag' : BleIdentityTagState) : Prop where
  label : tag.label = tag'.label
  address : tag.address = tag'.address
  minRssi : tag.minRssi = tag'.minRssi
  occupied : tag.occupied = tag'.occupied

theorem normalizeBleIdentityValue_of_forall {value : Str}
    (h : ∀ c ∈ value, isLowerHexDigit c) :
    normalizeBleIdentityValue value = value := by
  have hkept (ch : Char) (hch : ch ∈ value) :
      (if 'A' ≤ ch ∧ ch ≤ 'F' then some (toAsciiLowercase ch)
        else if 'a' ≤ ch ∧ ch ≤ 'f' ∨ isAsciiDigit ch then some ch else none) = some ch := by
    have hdigit := h ch hch
    have hupper : ¬('A' ≤ ch ∧ ch ≤ 'F') := by
      rintro ⟨hlow, hhigh⟩
      have hlow : 65 ≤ ch.toNat := hlow
      have hhigh : ch.toNat ≤ 70 := hhigh
      rw [BleIdentityTagState.isLowerHexDigit_iff, isAsciiDigit_iff] at hdigit
      omega
    have hlower : 'a' ≤ ch ∧ ch ≤ 'f' ∨ isAsciiDigit ch := by
      simp only [isLowerHexDigit, Bool.or_eq_true, Bool.and_eq_true,
        decide_eq_true_eq] at hdigit
      exact hdigit.symm
    rw [if_neg hupper, if_pos hlower]
  unfold normalizeBleIdentityValue
  rw [List.filterMap_congr hkept, List.filterMap_some]

theorem normalizeBleIdentityValue_idem (value : Str) :
    normalizeBleIdentityValue (normalizeBleIdentityValue value) = normalizeBleIdentityValue value :=
  normalizeBleIdentityValue_of_forall fun _ => BleIdentityTagState.isLowerHexDigit_of_mem_normalize

theorem clampI32_eq_self {value lo hi : ℤ} (hlow : lo ≤ value) (hhigh : value ≤ hi) :
    clampI32 value lo hi = value := by
  unfold clampI32
  omega

/-- What is written for a tag. -/
def BleIdentityTagState.toStored (tag : BleIdentityTagState) : NvsBleTag where
  label := some (if tag.occupied then tag.label else [])
  address := some (if tag.occupied then tag.address else [])
  minRssi := some (Int32.ofInt (if tag.occupied then tag.minRssi else bleTagDefaultMinRssi))

/-- A tag that a command or a boot wrote comes back as it was. -/
theorem BleIdentityTagState.Written.booted_toStored {tag : BleIdentityTagState} (h : tag.Written) :
    tag.toStored.booted = tag := by
  obtain ⟨label, address, minRssi, rfl⟩ := h
  by_cases hfull : label ≠ [] ∧ normalizeBleIdentityValue address ≠ []
  · have htag : configuredBleTag label (normalizeBleIdentityValue address) minRssi =
        { occupied := true, label, address := normalizeBleIdentityValue address,
          minRssi := clampI32 minRssi (-120) (-20), lastRssi := -127, lastSeenMs := 0 } := by
      simp [configuredBleTag, hfull]
    obtain ⟨hlow, hhigh⟩ := clampI32_mem (show (-120 : ℤ) ≤ -20 by decide) minRssi
    have hstored : (Int32.ofInt (clampI32 minRssi (-120) (-20))).toInt =
        clampI32 minRssi (-120) (-20) :=
      Int32.toInt_ofInt_of_le (by omega) (by omega)
    rw [htag]
    simp [toStored, NvsBleTag.booted, NvsBleTag.labelRead, NvsBleTag.addressRead,
      normalizeBleIdentityValue_idem, hstored, configuredBleTag, clampI32_eq_self hlow hhigh, hfull]
  · have htag : configuredBleTag label (normalizeBleIdentityValue address) minRssi =
        clearBleIdentityTag := by
      simp only [configuredBleTag, hfull]
      rfl
    rw [htag]
    decide

namespace FirmwareState

/-- The settings of a node, as far as they are stored. -/
structure SameSettings (s s' : FirmwareState) : Prop where
  setting : ∀ k : Setting, s.setting k = s'.setting k
  bleIdentityTags : ∀ (slot : ℕ) (h : slot < maxBleTags),
    s.bleIdentityTags[slot].SameTag s'.bleIdentityTags[slot]

/-- A clamp that changes nothing. -/
theorem clamp_uint8_eq_self {lo hi value : UInt8} (hlow : lo.toNat ≤ value.toNat)
    (hhigh : value.toNat ≤ hi.toNat) : max lo (min value hi) = value := by
  rw [← UInt8.toNat_inj, toNat_max_uint8, toNat_min_uint8]
  omega

/-- The name a node boots with is the stored one unless that stands for none. -/
theorem identified_eq_self_iff {name unset fallback : Str} (hname : name ≠ [])
    (hfallback : fallback ≠ unset) :
    (if name = unset ∨ name = [] then fallback else name) = name ↔ name ≠ unset := by
  by_cases hunset : name = unset
  · rw [if_pos (.inl hunset), hunset]
    simp [hfallback]
  · simp [hunset, hname]

theorem defaultNodeId_ne (mac : Vector UInt8 6) : defaultNodeId mac ≠ defaultNodeIdPrefix := by
  intro h
  have hlength := congrArg List.length h
  simp only [defaultNodeId, List.length_append, List.length_cons] at hlength
  omega

theorem defaultFriendlyName_ne (mac : Vector UInt8 6) :
    defaultFriendlyName mac ≠ defaultFriendlyNamePrefix := by
  intro h
  have hlength := congrArg List.length h
  simp only [defaultFriendlyName, List.length_append, List.length_cons] at hlength
  omega

/-- Every setting but the names comes back as it was. -/
theorem WellSet.booted_toStored {s : FirmwareState} (h : s.WellSet) (mac : Vector UInt8 6)
    (k : Setting) (hnode : k ≠ .nodeId) (hfriendly : k ≠ .friendly) :
    k.booted mac (some (s.toStored k)) = s.setting k := by
  have hpose {value : ℤ} (hvalue : IsI16 value) : (Int16.ofInt value).toInt = value :=
    Int16.toInt_ofInt_of_le (by have := hvalue.1; omega) (by have := hvalue.2; omega)
  obtain ⟨hsense, hhold, hgates, hactivity, hbrightness⟩ := h.tuning
  cases k with
  | nodeId => exact absurd rfl hnode
  | friendly => exact absurd rfl hfriendly
  | mqttWsp => exact (normalizeWebsocketPath_idem _).trans h.mqttWebsocketPath
  | poseX => exact hpose h.poseXCm
  | poseY => exact hpose h.poseYCm
  | poseH => exact hpose h.headingDeg
  | sensePct => exact clamp_uint8_eq_self hsense.1 hsense.2
  | holdMs =>
    refine UInt16.toNat_inj.1 ?_
    show (max minPresenceHoldMs (min s.presenceHoldMs maxPresenceHoldMs)).toNat = s.presenceHoldMs.toNat
    rw [toNat_max_uint16, toNat_min_uint16]
    have hlow : minPresenceHoldMs.toNat = 3000 := rfl
    have hhigh : maxPresenceHoldMs.toNat = 60000 := rfl
    omega
  | minGates => exact clamp_uint8_eq_self hgates.1 hgates.2
  | minAct => exact clamp_uint8_eq_self hactivity.1 hactivity.2
  | ledBri =>
    refine UInt8.toNat_inj.1 ?_
    show (max s.ledBrightness 1).toNat = s.ledBrightness.toNat
    rw [toNat_max_uint8]
    exact max_eq_left hbrightness
  | _ => rfl

/-! ### The names -/

/-- A node always has names. -/
structure Named (s : FirmwareState) : Prop where
  nodeId : s.nodeId ≠ []
  friendlyName : s.friendlyName ≠ []

theorem named_initializeDeviceIdentity (s : FirmwareState) (mac : Vector UInt8 6) :
    (s.initializeDeviceIdentity mac).Named := by
  constructor
  · show (if _ then _ else _) ≠ []
    split
    · exact List.append_ne_nil_of_left_ne_nil (by decide) _
    · rename_i hname
      exact fun hempty => hname (.inr hempty)
  · show (if _ then _ else _) ≠ []
    split
    · exact List.append_ne_nil_of_left_ne_nil (by decide) _
    · rename_i hname
      exact fun hempty => hname (.inr hempty)

theorem named_bootState (mac : Vector UInt8 6) (settings : Option Nvs) :
    (bootState mac settings).Named :=
  named_initializeDeviceIdentity _ mac

theorem named_applyHomeAssistantConfig (s : FirmwareState) (payload : HomeAssistantConfigPayload) :
    (s.applyHomeAssistantConfig payload).Named := by
  have hmarked {t : FirmwareState} (ht : t.Named) :
      { t.markMqttRuntimeDirty with lastMqttRoomSummaryPublishMs := 0 }.Named :=
    ⟨ht.nodeId, ht.friendlyName⟩
  refine hmarked (disconnectedIf_rule (Q := Named) _ _ (fun ht => ⟨ht.nodeId, ht.friendlyName⟩) ⟨?_, ?_⟩)
  · show (if _ then _ else _) ≠ []
    split
    · exact List.append_ne_nil_of_left_ne_nil (by decide) _
    · assumption
  · show (if _ then _ else _) ≠ []
    split
    · exact List.append_ne_nil_of_left_ne_nil (by decide) _
    · assumption

theorem Named.parsedEffect {s s' : FirmwareState} (h : s.Named) (heffect : ParsedEffect s s') :
    s'.Named := by
  cases heffect with
  | homeAssistantConfig payload => exact named_applyHomeAssistantConfig s payload
  | _ => exact ⟨h.nodeId, h.friendlyName⟩

theorem Named.executeCommands {s : FirmwareState} (h : s.Named) (commands : List (Str × ℕ)) :
    (s.executeCommands commands).Named :=
  executeCommands_induction (fun _ _ => Named.parsedEffect) h commands

end FirmwareState

/-- Every write of a save takes effect. -/
def Nvs.saved (settings : Nvs) (s : FirmwareState) : Nvs :=
  settings.persistRuntimeConfig (fun _ => true) s

namespace FirmwareState

theorem setting_saved (settings : Nvs) (s : FirmwareState) (k : Setting) :
    (settings.saved s).setting k = some (s.toStored k) :=
  settings.get_persistRuntimeConfig (fun _ => true) s k

/-- A setting comes back as it was, but for a name that stands for none. -/
theorem WellSet.setting_rebooted {s : FirmwareState} (h : s.WellSet) (mac : Vector UInt8 6)
    (flash : Nvs) (k : Setting) :
    (bootState mac (some (flash.saved s))).setting k = k.identified mac (s.setting k) := by
  rw [setting_bootState, setting_saved]
  by_cases hnode : k = .nodeId
  · rw [hnode]
    rfl
  by_cases hfriendly : k = .friendly
  · rw [hfriendly]
    rfl
  rw [h.booted_toStored mac k hnode hfriendly]
  cases k <;> first | rfl | contradiction

theorem WellSet.bleTag_rebooted {s : FirmwareState} (h : s.WellSet) (mac : Vector UInt8 6)
    (flash : Nvs) (slot : ℕ) (hslot : slot < maxBleTags) :
    (bootState mac (some (flash.saved s))).bleIdentityTags[slot] = s.bleIdentityTags[slot] :=
  (bleTag_bootState mac (flash.saved s) slot hslot).trans
    (h.bleIdentityTags slot hslot).booted_toStored

/-- Booting with what was saved gives the same settings, but the names are initialised once
more: one equal to the factory prefix gives way to the name with the hardware address.  With
names of its own, and only then, the node has every setting back. -/
theorem settings_survive (mac : Vector UInt8 6) (settings : Option Nvs)
    (commands : List (Str × ℕ)) (flash : Nvs) :
    let s := (bootState mac settings).executeCommands commands
    let rebooted := bootState mac (some (flash.saved s))
    SameSettings rebooted (s.initializeDeviceIdentity mac) ∧
      (SameSettings rebooted s ↔
        s.nodeId ≠ defaultNodeIdPrefix ∧ s.friendlyName ≠ defaultFriendlyNamePrefix) := by
  intro s rebooted
  have hset : s.WellSet := (wellSet_bootState mac settings).executeCommands commands
  have hnamed : s.Named := (named_bootState mac settings).executeCommands commands
  have hsetting (k : Setting) : rebooted.setting k = k.identified mac (s.setting k) :=
    hset.setting_rebooted mac flash k
  have htag (slot : ℕ) (hslot : slot < maxBleTags) :
      rebooted.bleIdentityTags[slot].SameTag s.bleIdentityTags[slot] := by
    rw [show rebooted.bleIdentityTags[slot] = s.bleIdentityTags[slot] from
      hset.bleTag_rebooted mac flash slot hslot]
    exact ⟨rfl, rfl, rfl, rfl⟩
  have hnode : rebooted.nodeId = s.nodeId ↔ s.nodeId ≠ defaultNodeIdPrefix := by
    rw [show rebooted.nodeId = _ from hsetting .nodeId]
    exact identified_eq_self_iff hnamed.nodeId (defaultNodeId_ne mac)
  have hfriendly : rebooted.friendlyName = s.friendlyName ↔
      s.friendlyName ≠ defaultFriendlyNamePrefix := by
    rw [show rebooted.friendlyName = _ from hsetting .friendly]
    exact identified_eq_self_iff hnamed.friendlyName (defaultFriendlyName_ne mac)
  refine ⟨⟨fun k => ?_, htag⟩, fun hsame => ?_, fun hown => ⟨fun k => ?_, htag⟩⟩
  · rw [hsetting, setting_initializeDeviceIdentity]
  · exact ⟨hnode.1 (hsame.setting .nodeId), hfriendly.1 (hsame.setting .friendly)⟩
  · cases k with
    | nodeId => exact hnode.2 hown.1
    | friendly => exact hfriendly.2 hown.2
    | _ => exact hsetting _

/-- A node that is given the bare prefix as its id has another one after a reboot. -/
theorem settings_lost :
    ¬∀ (mac : Vector UInt8 6) (settings : Option Nvs) (commands : List (Str × ℕ)) (flash : Nvs),
      SameSettings
        (bootState mac (some (flash.saved ((bootState mac settings).executeCommands commands))))
        ((bootState mac settings).executeCommands commands) := by
  intro hall
  have hsame := hall ⟨#[2, 0, 0, 10, 11, 12], rfl⟩ (some {})
    [("ha_config:net|secret|10.0.0.2|1883|||lb_mmwave_presence|Hall", 0)] {}
  have hnode := hsame.setting .nodeId
  revert hnode
  decide +kernel

end FirmwareState

end EspWaveRider.Firmware
