import EspWaveRider.Firmware.FirmwareSync
import EspWaveRider.Firmware.Payload

/-!
# Boot, stored settings and commands

How the configuration of a node comes about in `rust/firmware/esp32s3/src/main.rs`:
the defaults, the settings loaded from flash, and the commands that change it.

* `bootState` — the state after boot;
* `handleCommand` — a command with its effect on the state and its answer;
* `parsedEffect_handleCommand` — all that a command can do to the state.
-/

namespace EspWaveRider.Firmware

open Text Command

/-! ## Stored settings -/

structure NvsBleTag where
  label : Option Str := none
  address : Option Str := none
  minRssi : Option Int32 := none
  deriving DecidableEq

/-- The settings namespace: `none` where `settings.get` finds no value of the type. -/
structure Nvs where
  enabled : Option Bool := none
  wifiSsid : Option Str := none
  wifiPass : Option Str := none
  mqttHost : Option Str := none
  mqttPort : Option UInt16 := none
  mqttUser : Option Str := none
  mqttPass : Option Str := none
  mqttWs : Option Bool := none
  mqttWsp : Option Str := none
  mqttHdr : Option Str := none
  nodeId : Option Str := none
  friendly : Option Str := none
  roomId : Option Str := none
  sensorRole : Option Str := none
  poseX : Option Int16 := none
  poseY : Option Int16 := none
  poseH : Option Int16 := none
  roomW : Option UInt16 := none
  roomH : Option UInt16 := none
  maxRange : Option UInt16 := none
  minEnergy : Option UInt16 := none
  sensePct : Option UInt8 := none
  holdMs : Option UInt16 := none
  minGates : Option UInt8 := none
  minAct : Option UInt8 := none
  ledOn : Option Bool := none
  ledBri : Option UInt8 := none
  bootCount : Option UInt32 := none
  bleTags : Fin maxBleTags → NvsBleTag := fun _ => {}

/-- Hexadecimal digits in lower case; everything else is dropped. -/
def normalizeBleIdentityValue (value : Str) : Str :=
  value.filterMap fun ch =>
    if 'A' ≤ ch ∧ ch ≤ 'F' then some (toAsciiLowercase ch)
    else if 'a' ≤ ch ∧ ch ≤ 'f' ∨ isAsciiDigit ch then some ch
    else none

def clearBleIdentityTag : BleIdentityTagState :=
  { occupied := false, label := [], address := [], minRssi := bleTagDefaultMinRssi,
    lastRssi := -127, lastSeenMs := 0 }

/-- A tag that is written anew; without a label or an address it is cleared. -/
def configuredBleTag (label address : Str) (minRssi : ℤ) : BleIdentityTagState :=
  let tag : BleIdentityTagState :=
    { occupied := label ≠ [] ∧ address ≠ [], label, address, minRssi := clampI32 minRssi (-120) (-20)
      lastRssi := -127, lastSeenMs := 0 }
  if !tag.occupied then clearBleIdentityTag else tag

namespace FirmwareState

def loadPersistedConfig (s : FirmwareState) (settings : Nvs) : FirmwareState :=
  let s := { s with
    enabled := settings.enabled.getD s.enabled
    wifiSsid := settings.wifiSsid.getD s.wifiSsid
    wifiPassword := settings.wifiPass.getD s.wifiPassword
    mqttHost := settings.mqttHost.getD s.mqttHost
    mqttPort := settings.mqttPort.getD s.mqttPort
    mqttUsername := settings.mqttUser.getD s.mqttUsername
    mqttPassword := settings.mqttPass.getD s.mqttPassword
    mqttUseWebsockets := settings.mqttWs.getD s.mqttUseWebsockets
    mqttWebsocketPath := (settings.mqttWsp.map normalizeWebsocketPath).getD s.mqttWebsocketPath
    mqttHostHeader := settings.mqttHdr.getD s.mqttHostHeader
    nodeId := settings.nodeId.getD s.nodeId
    friendlyName := settings.friendly.getD s.friendlyName
    roomId := settings.roomId.getD s.roomId
    sensorRole := settings.sensorRole.getD s.sensorRole
    poseXCm := (settings.poseX.map Int16.toInt).getD s.poseXCm
    poseYCm := (settings.poseY.map Int16.toInt).getD s.poseYCm
    headingDeg := (settings.poseH.map Int16.toInt).getD s.headingDeg
    roomWidthCm := settings.roomW.getD s.roomWidthCm
    roomHeightCm := settings.roomH.getD s.roomHeightCm
    maxDetectionRangeCm := settings.maxRange.getD s.maxDetectionRangeCm
    minGateEnergy := settings.minEnergy.getD s.minGateEnergy
    sensitivityPercent :=
      (settings.sensePct.map fun value => max 10 (min value 100)).getD s.sensitivityPercent
    presenceHoldMs := (settings.holdMs.map fun value =>
      max minPresenceHoldMs (min value maxPresenceHoldMs)).getD s.presenceHoldMs
    minActiveGates := (settings.minGates.map fun value => max 1 (min value 16)).getD s.minActiveGates
    minActivityScore :=
      (settings.minAct.map fun value => max 1 (min value 100)).getD s.minActivityScore
    ledEnabled := settings.ledOn.getD s.ledEnabled
    ledBrightness := (settings.ledBri.map fun value => max value 1).getD s.ledBrightness
    bootCount := (settings.bootCount.map UInt32.toNat).getD s.bootCount
    bleIdentityTags := Vector.ofFn fun slot =>
      let tag := settings.bleTags slot
      configuredBleTag (tag.label.getD []) ((tag.address.map normalizeBleIdentityValue).getD [])
        ((tag.minRssi.map Int32.toInt).getD bleTagDefaultMinRssi) }
  let s := { s with wifiReconfigurePending := s.homeAssistantConfigured }
  if !s.homeAssistantConfigured then s.markWifiDisconnected defaultWifiNotConfiguredReasonText
  else s

/-- The state `main` enters its loop with; `none` when the settings cannot be opened. -/
def bootState (mac : Vector UInt8 6) (settings : Option Nvs) : FirmwareState :=
  let s := initializeDeviceIdentity {} mac
  let s := match settings with
    | none => s
    | some settings =>
      let s := s.loadPersistedConfig settings
      { s with bootCount := saturatingSucc s.bootCount }
  s.initializeDeviceIdentity mac

/-! ## Configuration payloads -/

def applyRoomConfig (s : FirmwareState) (payload : RoomConfigPayload) : FirmwareState :=
  let s := markMqttRuntimeDirty { s with
    roomId := payload.roomId
    sensorRole := payload.sensorRole
    poseXCm := payload.poseXCm
    poseYCm := payload.poseYCm
    headingDeg := payload.headingDeg
    roomWidthCm := payload.roomWidthCm
    roomHeightCm := payload.roomHeightCm }
  { s with lastMqttRoomSummaryPublishMs := 0 }

def applyHomeAssistantConfig (s : FirmwareState) (payload : HomeAssistantConfigPayload) :
    FirmwareState :=
  let s := { s with
    enabled := true
    wifiSsid := payload.wifiSsid
    wifiPassword := payload.wifiPassword
    mqttHost := payload.mqttHost
    mqttPort := payload.mqttPort
    mqttUsername := payload.mqttUsername
    mqttPassword := payload.mqttPassword
    mqttUseWebsockets := s.mqttUseWebsockets || mqttEndpointUsesWebsockets payload.mqttHost
    mqttWebsocketPath := s.normalizedWebsocketPath
    nodeId := if payload.nodeId = [] then defaultNodeId s.macAddress else payload.nodeId
    friendlyName := if payload.friendlyName = [] then defaultFriendlyName s.macAddress
      else payload.friendlyName
    roomId := if s.roomId = [] then defaultRoomId else s.roomId
    sensorRole := if s.sensorRole = [] then defaultSensorRole else s.sensorRole }
  let s := { s with wifiReconfigurePending := s.homeAssistantConfigured, wifiRuntimeStarted := false }
  let s := if !s.homeAssistantConfigured then
      s.markWifiDisconnected defaultWifiNotConfiguredReasonText
    else s
  { s.markMqttRuntimeDirty with lastMqttRoomSummaryPublishMs := 0 }

def applyHomeAssistantWebsocketConfig (s : FirmwareState)
    (payload : HomeAssistantWebSocketConfigPayload) : FirmwareState :=
  markMqttRuntimeDirty { s with
    mqttUseWebsockets := payload.enabled
    mqttWebsocketPath := if payload.path = [] then defaultMqttWebsocketPath
      else normalizeWebsocketPath payload.path
    mqttHostHeader := payload.hostHeader }

def applyHomeAssistantMqttEndpoint (s : FirmwareState)
    (payload : HomeAssistantMqttEndpointPayload) : FirmwareState :=
  markMqttRuntimeDirty { s with
    mqttHost := if payload.mqttHost ≠ [] then payload.mqttHost else s.mqttHost
    mqttPort := payload.mqttPort.getD s.mqttPort
    mqttUseWebsockets := payload.useWebsockets.getD s.mqttUseWebsockets
    mqttWebsocketPath := if payload.websocketPath ≠ [] then
        normalizeWebsocketPath payload.websocketPath
      else s.mqttWebsocketPath
    mqttHostHeader := payload.hostHeader }

def applyTuningConfig (s : FirmwareState) (payload : TuningConfigPayload) : FirmwareState :=
  { s with
    maxDetectionRangeCm := payload.maxDetectionRangeCm
    minGateEnergy := payload.minGateEnergy
    sensitivityPercent := payload.sensitivityPercent
    presenceHoldMs := payload.presenceHoldMs
    minActiveGates := payload.minActiveGates
    minActivityScore := payload.minActivityScore
    ledEnabled := payload.ledEnabled
    ledBrightness := payload.ledBrightness }

/-- A tag of a slot is replaced; `none` when there is no such slot. -/
def setBleTag (s : FirmwareState) (slot : ℕ) (tag : BleIdentityTagState) : Option FirmwareState :=
  if h : slot < maxBleTags then some { s with bleIdentityTags := s.bleIdentityTags.set slot tag h }
  else none

def applyBleTagConfig (s : FirmwareState) (payload : BleTagConfigPayload) : Option FirmwareState :=
  s.setBleTag payload.slot.toNat
    (configuredBleTag payload.label (normalizeBleIdentityValue payload.address) payload.minRssi)

def applyBleTagClear (s : FirmwareState) (payload : BleTagClearPayload) : Option FirmwareState :=
  s.setBleTag payload.slot.toNat clearBleIdentityTag

end FirmwareState

/-! ## Commands -/

inductive CommandReply where
  | snapshot
  | debugStatus
  | wifiScanResults
  | error (code : Str)
  deriving DecidableEq

structure CommandOutcome where
  state : FirmwareState
  reply : CommandReply
  /-- `persist_runtime_config` was called with the new state. -/
  persisted : Bool

namespace FirmwareState

/-- The command is answered and nothing is stored. -/
def answered (s : FirmwareState) (reply : CommandReply) : CommandOutcome := ⟨s, reply, false⟩

/-- A configuration command: its payload is parsed, applied and stored. -/
def configured {P : Type} (s : FirmwareState) (code : Str) (payload : ParseResult P)
    (apply : P → FirmwareState) : CommandOutcome :=
  match payload with
  | .ok payload => ⟨apply payload, .snapshot, true⟩
  | .error _ => s.answered (.error code)

/-- The same for a tag, whose slot may not exist. -/
def configuredTag {P : Type} (s : FirmwareState) (code : Str) (payload : ParseResult P)
    (apply : P → Option FirmwareState) : CommandOutcome :=
  match payload with
  | .ok payload =>
    match apply payload with
    | some s => ⟨s, .snapshot, true⟩
    | none => s.answered (.error "invalid_ble_tag_slot")
  | .error _ => s.answered (.error code)

def handleDeviceCommand (s : FirmwareState) (uptimeMs : ℕ) : DeviceCommand → CommandOutcome
  | .ping | .status | .homeAssistantStatus => s.answered .snapshot
  | .wifiScan => s.answered .wifiScanResults
  | .homeAssistantConfig payload =>
    s.configured "invalid_home_assistant_config" (parseHomeAssistantConfigPayload payload)
      s.applyHomeAssistantConfig
  | .homeAssistantRoomConfig payload =>
    s.configured "invalid_room_config" (parseRoomConfigPayload payload) s.applyRoomConfig
  | .homeAssistantWebSocketConfig payload =>
    s.configured "invalid_home_assistant_websocket_config"
      (parseHomeAssistantWebsocketConfigPayload payload) s.applyHomeAssistantWebsocketConfig
  | .homeAssistantMqttEndpoint payload =>
    s.configured "invalid_home_assistant_mqtt_endpoint"
      (parseHomeAssistantMqttEndpointPayload payload) s.applyHomeAssistantMqttEndpoint
  | .tuningConfig payload =>
    s.configured "invalid_tuning_config" (parseTuningConfigPayload payload) s.applyTuningConfig
  | .bleTagConfig payload =>
    s.configuredTag "invalid_ble_tag_config" (parseBleTagConfigPayload payload) s.applyBleTagConfig
  | .bleTagClear payload =>
    s.configuredTag "invalid_ble_tag_slot" (parseBleTagClearPayload payload) s.applyBleTagClear
  | .firmwareSync => (s.requestFirmwareSync uptimeMs).answered .snapshot
  | .homeAssistantRoomPosePublish payload =>
    match parseRoomPosePublishPayload payload with
    | .ok pose =>
      -- whether the channel takes the message does not change the answer
      if (buildRoomPosePublishMessage s pose).isSome then s.answered .snapshot
      else s.answered (.error "invalid_room_pose_publish")
    | .error _ => s.answered (.error "invalid_room_pose_publish")
  | .firmwareUpdate targetVersion =>
    (s.requestFirmwareUpdate targetVersion "manual" "manual").answered .snapshot
  | .runtimeBenchmark | .energy | .radar _ => s.answered .snapshot

def handleCommand (s : FirmwareState) (command : Str) (uptimeMs : ℕ) : CommandOutcome :=
  if command = [] ∨ command = ("snapshot" : Str) then s.answered .snapshot
  else if command = ("debug_status" : Str) then s.answered .debugStatus
  else
    match parseDeviceCommand command with
    | some command => s.handleDeviceCommand uptimeMs command
    | none => s.answered (.error "unsupported_command")

/-! ## What a command can do to the state -/

/-- Requests for an update only concern the state of the update. -/
theorem requestFirmwareUpdate_eq (s : FirmwareState) (targetVersion targetNodeId targetSource : Str) :
    ∃ sync, s.requestFirmwareUpdate targetVersion targetNodeId targetSource =
      { s with firmwareSyncState := sync } := by
  unfold requestFirmwareUpdate
  dsimp only
  split
  · exact ⟨_, rfl⟩
  · split <;> exact ⟨_, rfl⟩

theorem requestFirmwareSync_eq (s : FirmwareState) (uptimeMs : ℕ) :
    ∃ sync, s.requestFirmwareSync uptimeMs = { s with firmwareSyncState := sync } := by
  unfold requestFirmwareSync
  dsimp only
  split
  · exact ⟨_, rfl⟩
  · split
    · exact ⟨_, rfl⟩
    · exact s.requestFirmwareUpdate_eq _ _ _

theorem setBleTag_eq {s s' : FirmwareState} {slot : ℕ} {tag : BleIdentityTagState}
    (h : s.setBleTag slot tag = some s') : ∃ tags, s' = { s with bleIdentityTags := tags } := by
  unfold setBleTag at h
  split at h
  · cases h
    exact ⟨_, rfl⟩
  · cases h

/-- Finding that it is not configured costs a node only its link. -/
theorem disconnectedIf_rule {Q : FirmwareState → Prop} {s : FirmwareState} (c : Bool) (reasonText : Str)
    (hmark : Q s → Q (s.markWifiDisconnected reasonText)) (hs : Q s) :
    Q (if c then s.markWifiDisconnected reasonText else s) := by
  split
  · exact hmark hs
  · exact hs

/-- A configuration command leaves the state alone or applies its payload. -/
theorem state_configured_of_ok {P : Type} {Q : FirmwareState → Prop} {s : FirmwareState} (hs : Q s)
    (code : Str) (parsed : ParseResult P) {apply : P → FirmwareState}
    (h : ∀ payload, parsed = .ok payload → Q (apply payload)) :
    Q (s.configured code parsed apply).state := by
  cases parsed with
  | ok payload => exact h payload rfl
  | error _ => exact hs

theorem state_configured {P : Type} {Q : FirmwareState → Prop} {s : FirmwareState} (hs : Q s)
    (code : Str) (payload : ParseResult P) {apply : P → FirmwareState}
    (h : ∀ payload, Q (apply payload)) : Q (s.configured code payload apply).state :=
  state_configured_of_ok hs code payload fun p _ => h p

theorem state_configuredTag {P : Type} {Q : FirmwareState → Prop} {s : FirmwareState} (hs : Q s)
    (code : Str) (payload : ParseResult P) {apply : P → Option FirmwareState}
    (h : ∀ payload s', apply payload = some s' → Q s') :
    Q (s.configuredTag code payload apply).state := by
  cases payload with
  | ok payload =>
    simp only [configuredTag]
    split
    · rename_i s' happly
      exact h payload s' happly
    · exact hs
  | error _ => exact hs

/-- The commands other than a full configuration. -/
theorem state_handleDeviceCommand_rule {Q : FirmwareState → Prop} {s : FirmwareState} (hs : Q s)
    (uptimeMs : ℕ) {command : DeviceCommand}
    (hconfig : ∀ payload, command ≠ .homeAssistantConfig payload)
    (hroom : ∀ payload, Q (s.applyRoomConfig payload))
    (hwebsocket : ∀ text, command = .homeAssistantWebSocketConfig text →
      ∀ payload, Q (s.applyHomeAssistantWebsocketConfig payload))
    (hendpoint : ∀ text, command = .homeAssistantMqttEndpoint text →
      ∀ payload, Q (s.applyHomeAssistantMqttEndpoint payload))
    (htuning : ∀ payload, Q (s.applyTuningConfig payload))
    (htags : ∀ tags, Q { s with bleIdentityTags := tags })
    (hsync : ∀ sync, Q { s with firmwareSyncState := sync }) :
    Q (s.handleDeviceCommand uptimeMs command).state := by
  have htag (slot : ℕ) (tag : BleIdentityTagState) (s' : FirmwareState)
      (h : s.setBleTag slot tag = some s') : Q s' := by
    obtain ⟨tags, rfl⟩ := setBleTag_eq h
    exact htags tags
  cases command with
  | homeAssistantConfig payload => exact absurd rfl (hconfig payload)
  | homeAssistantRoomConfig payload => exact state_configured hs _ _ hroom
  | homeAssistantWebSocketConfig payload => exact state_configured hs _ _ (hwebsocket payload rfl)
  | homeAssistantMqttEndpoint payload => exact state_configured hs _ _ (hendpoint payload rfl)
  | tuningConfig payload => exact state_configured hs _ _ htuning
  | bleTagConfig payload => exact state_configuredTag hs _ _ fun _ s' => htag _ _ s'
  | bleTagClear payload => exact state_configuredTag hs _ _ fun _ s' => htag _ _ s'
  | firmwareSync =>
    obtain ⟨sync, hrequest⟩ := s.requestFirmwareSync_eq uptimeMs
    simp only [handleDeviceCommand, hrequest]
    exact hsync sync
  | firmwareUpdate targetVersion =>
    obtain ⟨sync, hrequest⟩ := s.requestFirmwareUpdate_eq targetVersion "manual" "manual"
    simp only [handleDeviceCommand, hrequest]
    exact hsync sync
  | homeAssistantRoomPosePublish payload =>
    simp only [handleDeviceCommand]
    split
    · split <;> exact hs
    · exact hs
  | _ => exact hs

/-- A command that is not recognised leaves the state alone. -/
theorem state_handleCommand (s : FirmwareState) (command : Str) (uptimeMs : ℕ) :
    (s.handleCommand command uptimeMs).state =
      ((parseDeviceCommand command).map fun c => (s.handleDeviceCommand uptimeMs c).state).getD s := by
  unfold handleCommand
  by_cases hsnapshot : command = [] ∨ command = ("snapshot" : Str)
  · have hparse : parseDeviceCommand command = none := by
      rcases hsnapshot with rfl | rfl <;> decide
    rw [if_pos hsnapshot, hparse]
    rfl
  rw [if_neg hsnapshot]
  by_cases hdebug : command = ("debug_status" : Str)
  · have hparse : parseDeviceCommand command = none := by
      rw [hdebug]
      decide
    rw [if_pos hdebug, hparse]
    rfl
  rw [if_neg hdebug]
  cases parseDeviceCommand command <;> rfl

/-- What a command did, with where its payload came from. -/
inductive ParsedEffect (s : FirmwareState) : FirmwareState → Prop where
  | nothing : ParsedEffect s s
  | homeAssistantConfig (payload : HomeAssistantConfigPayload) :
      ParsedEffect s (s.applyHomeAssistantConfig payload)
  | roomConfig {text : Str} {payload : RoomConfigPayload} :
      parseRoomConfigPayload text = .ok payload → ParsedEffect s (s.applyRoomConfig payload)
  | websocketConfig (payload : HomeAssistantWebSocketConfigPayload) :
      ParsedEffect s (s.applyHomeAssistantWebsocketConfig payload)
  | mqttEndpoint (payload : HomeAssistantMqttEndpointPayload) :
      ParsedEffect s (s.applyHomeAssistantMqttEndpoint payload)
  | tuningConfig {text : Str} {payload : TuningConfigPayload} :
      parseTuningConfigPayload text = .ok payload → ParsedEffect s (s.applyTuningConfig payload)
  | bleTag {slot : ℕ} (h : slot < maxBleTags) (label address : Str) (minRssi : ℤ) :
      ParsedEffect s { s with
        bleIdentityTags := s.bleIdentityTags.set slot
          (configuredBleTag label (normalizeBleIdentityValue address) minRssi) h }
  | firmwareSyncState (sync : FirmwareSyncState) : ParsedEffect s { s with firmwareSyncState := sync }

theorem parsedEffect_setBleTag {s s' : FirmwareState} {slot : ℕ} (label address : Str) (minRssi : ℤ)
    (h : s.setBleTag slot (configuredBleTag label (normalizeBleIdentityValue address) minRssi) =
      some s') : ParsedEffect s s' := by
  unfold setBleTag at h
  split at h
  · rename_i hslot
    cases h
    exact .bleTag hslot label address minRssi
  · cases h

theorem parsedEffect_handleDeviceCommand (s : FirmwareState) (uptimeMs : ℕ)
    (command : DeviceCommand) : ParsedEffect s (s.handleDeviceCommand uptimeMs command).state := by
  cases command with
  | homeAssistantConfig payload => exact state_configured .nothing _ _ .homeAssistantConfig
  | homeAssistantRoomConfig payload =>
    exact state_configured_of_ok .nothing _ _ fun _ => .roomConfig
  | homeAssistantWebSocketConfig payload => exact state_configured .nothing _ _ .websocketConfig
  | homeAssistantMqttEndpoint payload => exact state_configured .nothing _ _ .mqttEndpoint
  | tuningConfig payload => exact state_configured_of_ok .nothing _ _ fun _ => .tuningConfig
  | bleTagConfig payload =>
    exact state_configuredTag .nothing _ _ fun payload _ =>
      parsedEffect_setBleTag payload.label payload.address payload.minRssi
  | bleTagClear payload =>
    -- a slot is cleared by a tag without a label
    exact state_configuredTag .nothing _ _ fun _ _ => parsedEffect_setBleTag [] [] 0
  | firmwareSync =>
    obtain ⟨sync, hsync⟩ := s.requestFirmwareSync_eq uptimeMs
    simp only [handleDeviceCommand, hsync]
    exact .firmwareSyncState sync
  | firmwareUpdate targetVersion =>
    obtain ⟨sync, hsync⟩ := s.requestFirmwareUpdate_eq targetVersion "manual" "manual"
    simp only [handleDeviceCommand, hsync]
    exact .firmwareSyncState sync
  | homeAssistantRoomPosePublish payload =>
    simp only [handleDeviceCommand]
    split
    · split <;> exact .nothing
    · exact .nothing
  | _ => exact .nothing

theorem parsedEffect_handleCommand (s : FirmwareState) (command : Str) (uptimeMs : ℕ) :
    ParsedEffect s (s.handleCommand command uptimeMs).state := by
  rw [state_handleCommand]
  cases parseDeviceCommand command with
  | none => exact .nothing
  | some command => exact parsedEffect_handleDeviceCommand s uptimeMs command

inductive CommandEffect (s : FirmwareState) : FirmwareState → Prop where
  | nothing : CommandEffect s s
  | homeAssistantConfig (payload : HomeAssistantConfigPayload) :
      CommandEffect s (s.applyHomeAssistantConfig payload)
  | roomConfig (payload : RoomConfigPayload) : CommandEffect s (s.applyRoomConfig payload)
  | websocketConfig (payload : HomeAssistantWebSocketConfigPayload) :
      CommandEffect s (s.applyHomeAssistantWebsocketConfig payload)
  | mqttEndpoint (payload : HomeAssistantMqttEndpointPayload) :
      CommandEffect s (s.applyHomeAssistantMqttEndpoint payload)
  | tuningConfig (payload : TuningConfigPayload) : CommandEffect s (s.applyTuningConfig payload)
  | bleIdentityTags (tags : Vector BleIdentityTagState maxBleTags) :
      CommandEffect s { s with bleIdentityTags := tags }
  | firmwareSyncState (sync : FirmwareSyncState) :
      CommandEffect s { s with firmwareSyncState := sync }

/-- The same without the texts. -/
theorem commandEffect_handleCommand (s : FirmwareState) (command : Str) (uptimeMs : ℕ) :
    CommandEffect s (s.handleCommand command uptimeMs).state := by
  have heffect := s.parsedEffect_handleCommand command uptimeMs
  generalize (s.handleCommand command uptimeMs).state = s' at heffect
  cases heffect with
  | nothing => exact .nothing
  | homeAssistantConfig payload => exact .homeAssistantConfig payload
  | @roomConfig _ payload _ => exact .roomConfig payload
  | websocketConfig payload => exact .websocketConfig payload
  | mqttEndpoint payload => exact .mqttEndpoint payload
  | @tuningConfig _ payload _ => exact .tuningConfig payload
  | bleTag _ _ _ _ => exact .bleIdentityTags _
  | firmwareSyncState sync => exact .firmwareSyncState sync

end FirmwareState

end EspWaveRider.Firmware
