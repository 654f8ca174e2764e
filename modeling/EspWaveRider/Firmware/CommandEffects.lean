import EspWaveRider.Firmware.MqttDelivery
import EspWaveRider.Firmware.SettingsStore

/-!
# The effects of a command

`handle_command` of `rust/firmware/esp32s3/src/main.rs`, statement by statement: a command
changes the state, saves it and offers messages to the station task, and is answered.

* `CommandWorld` — all that a command can change;
* `handleCommand` — the function, with its effects in the order of the source;
* `RejectsCleanly` — an answer that is an error comes without any effect;
* `rejected_changes_nothing` — so for every command;
* `agrees_handleCommand` — the answer and the state are those of `Configuration`.
-/

namespace EspWaveRider.Firmware.Effects

open Text Command

/-- The state, the flash, and the channel to the station task.  `writes` and `offered` record what
`settings.set` and `try_send` were called with. -/
structure CommandWorld where
  state : FirmwareState
  /-- The uptime at which the benchmark that is kept was run. -/
  runtimeBenchmark : Option ℕ := none
  /-- `none` when the settings could not be opened. -/
  settings : Option Nvs := none
  writes : List SettingsKey := []
  channel : List MqttTaskCommand := []
  offered : List MqttTaskCommand := []

abbrev CommandM := StateM CommandWorld

/-! ## Effects -/

def modifyState (f : FirmwareState → FirmwareState) : CommandM Unit :=
  modify fun w => { w with state := f w.state }

/-- The keys of `persist_runtime_config`, in the order of its writes. -/
def persistedKeys : List SettingsKey :=
  [Setting.enabled, .wifiSsid, .wifiPass, .mqttHost, .mqttPort, .mqttUser, .mqttPass, .mqttWs,
    .mqttWsp, .mqttHdr, .nodeId, .friendly, .roomId, .sensorRole, .poseX, .poseY, .poseH, .roomW,
    .roomH, .maxRange, .minEnergy, .sensePct, .holdMs, .minGates, .minAct, .ledOn,
    .ledBri].map .setting ++
  (List.finRange maxBleTags).flatMap fun slot => [.bleLabel slot, .bleMac slot, .bleRssi slot]

/-- The writes of the keys in `taken` take effect. -/
def persistRuntimeConfig (taken : SettingsKey → Bool) : CommandM Unit :=
  modify fun w =>
    match w.settings with
    | none => w
    | some settings =>
      { w with settings := some (settings.persistRuntimeConfig taken w.state)
               writes := w.writes ++ persistedKeys }

/-- A full channel drops the command. -/
def trySend (command : MqttTaskCommand) : CommandM Unit :=
  modify fun w =>
    { w with
      channel := if w.channel.length < mqttCommandChannelCapacity then w.channel ++ [command]
        else w.channel
      offered := w.offered ++ [command] }

def applyBleTagConfig (payload : BleTagConfigPayload) : CommandM Bool := do
  let slot := payload.slot.toNat
  if h : slot ≥ maxBleTags then return false
  else
    modifyState fun s =>
      { s with
        bleIdentityTags := s.bleIdentityTags.set slot
          (configuredBleTag payload.label (normalizeBleIdentityValue payload.address)
            payload.minRssi) (Nat.lt_of_not_le h) }
    return true

def applyBleTagClear (payload : BleTagClearPayload) : CommandM Bool := do
  let slot := payload.slot.toNat
  if h : slot ≥ maxBleTags then return false
  else
    modifyState fun s =>
      { s with
        bleIdentityTags := s.bleIdentityTags.set slot clearBleIdentityTag (Nat.lt_of_not_le h) }
    return true

/-! ## The function -/

section Handler

variable (uptimeMs : ℕ) (wifiController : Bool) (taken : SettingsKey → Bool)

/-- A payload that is parsed, applied and saved. -/
def configure {P : Type} (code : Str) (parsed : ParseResult P)
    (apply : FirmwareState → P → FirmwareState) : CommandM CommandReply :=
  match parsed with
  | .ok payload => do
    modifyState fun s => apply s payload
    persistRuntimeConfig taken
    return .snapshot
  | .error _ => return .error code

/-- The same for a slot that may not exist. -/
def configureTag {P : Type} (code : Str) (parsed : ParseResult P) (apply : P → CommandM Bool) :
    CommandM CommandReply :=
  match parsed with
  | .ok payload => do
    if ← apply payload then
      persistRuntimeConfig taken
      return .snapshot
    else return .error "invalid_ble_tag_slot"
  | .error _ => return .error code

/-- A pose for another node is offered as a message. -/
def publishRoomPose (pose : RoomPosePublishPayload) : CommandM CommandReply := do
  match buildRoomPosePublishMessage (← get).state pose with
  | some message =>
    trySend (.publish message)
    return .snapshot
  | none => return .error "invalid_room_pose_publish"

/-- `wifiController` tells whether there is one to scan with. -/
def handleDeviceCommand : DeviceCommand → CommandM CommandReply
  | .ping | .status | .homeAssistantStatus => return .snapshot
  | .wifiScan =>
    if wifiController then return .wifiScanResults else return .error "wifi_scan_unavailable"
  | .homeAssistantConfig payload =>
    configure taken "invalid_home_assistant_config" (parseHomeAssistantConfigPayload payload)
      FirmwareState.applyHomeAssistantConfig
  | .homeAssistantRoomConfig payload =>
    configure taken "invalid_room_config" (parseRoomConfigPayload payload)
      FirmwareState.applyRoomConfig
  | .homeAssistantWebSocketConfig payload =>
    configure taken "invalid_home_assistant_websocket_config"
      (parseHomeAssistantWebsocketConfigPayload payload)
      FirmwareState.applyHomeAssistantWebsocketConfig
  | .homeAssistantMqttEndpoint payload =>
    configure taken "invalid_home_assistant_mqtt_endpoint"
      (parseHomeAssistantMqttEndpointPayload payload) FirmwareState.applyHomeAssistantMqttEndpoint
  | .tuningConfig payload =>
    configure taken "invalid_tuning_config" (parseTuningConfigPayload payload)
      FirmwareState.applyTuningConfig
  | .bleTagConfig payload =>
    configureTag taken "invalid_ble_tag_config" (parseBleTagConfigPayload payload) applyBleTagConfig
  | .bleTagClear payload =>
    configureTag taken "invalid_ble_tag_slot" (parseBleTagClearPayload payload) applyBleTagClear
  | .firmwareSync => do
    modifyState fun s => s.requestFirmwareSync uptimeMs
    return .snapshot
  | .homeAssistantRoomPosePublish payload =>
    match parseRoomPosePublishPayload payload with
    | .ok pose => publishRoomPose pose
    | .error _ => return .error "invalid_room_pose_publish"
  | .firmwareUpdate targetVersion => do
    modifyState fun s => s.requestFirmwareUpdate targetVersion "manual" "manual"
    return .snapshot
  | .runtimeBenchmark => do
    modify fun w => { w with runtimeBenchmark := some uptimeMs }
    return .snapshot
  -- these two write to the radar only
  | .energy | .radar _ => return .snapshot

def handleCommand (command : Str) : CommandM CommandReply :=
  if command = [] ∨ command = ("snapshot" : Str) then return .snapshot
  else if command = ("debug_status" : Str) then return .debugStatus
  else
    match parseDeviceCommand command with
    | some command => handleDeviceCommand uptimeMs wifiController taken command
    | none => return .error "unsupported_command"

end Handler

theorem run_configureTag {P : Type} (taken : SettingsKey → Bool) (code : Str) (payload : P)
    (apply : P → CommandM Bool) (w : CommandWorld) :
    (configureTag taken code (.ok payload) apply).run w =
      match (apply payload).run w with
      | (true, w') => (.snapshot, ((persistRuntimeConfig taken).run w').2)
      | (false, w') => (.error "invalid_ble_tag_slot", w') := by
  show (match (apply payload).run w with
    | (done, w') => (if done = true then do
        persistRuntimeConfig taken
        return .snapshot
      else return .error "invalid_ble_tag_slot" : CommandM CommandReply).run w') = _
  obtain ⟨done, w'⟩ := (apply payload).run w
  cases done <;> rfl

theorem run_publishRoomPose (pose : RoomPosePublishPayload) (w : CommandWorld) :
    (publishRoomPose pose).run w =
      match buildRoomPosePublishMessage w.state pose with
      | some message => (.snapshot, ((trySend (.publish message)).run w).2)
      | none => (.error "invalid_room_pose_publish", w) := by
  show (match buildRoomPosePublishMessage w.state pose with
    | some message => do
      trySend (.publish message)
      return .snapshot
    | none => return .error "invalid_room_pose_publish" : CommandM CommandReply).run w = _
  cases buildRoomPosePublishMessage w.state pose <;> rfl

/-! ## Rejected commands -/

/-- An answer that is an error comes without any effect. -/
def RejectsCleanly (m : CommandM CommandReply) : Prop :=
  ∀ w code, (m.run w).1 = .error code → (m.run w).2 = w

theorem rejectsCleanly_pure (reply : CommandReply) : RejectsCleanly (pure reply) := fun _ _ _ => rfl

/-- What ends with a snapshot has not been rejected. -/
theorem rejectsCleanly_snapshot (m : CommandM Unit) :
    RejectsCleanly (do m; return CommandReply.snapshot) := by
  intro w code herror
  cases herror

section Handler

variable {uptimeMs : ℕ} {wifiController : Bool} {taken : SettingsKey → Bool}

theorem rejectsCleanly_configure {P : Type} (code : Str) (parsed : ParseResult P)
    (apply : FirmwareState → P → FirmwareState) :
    RejectsCleanly (configure taken code parsed apply) := by
  cases parsed with
  | ok payload =>
    exact rejectsCleanly_snapshot do
      modifyState fun s => apply s payload
      persistRuntimeConfig taken
  | error e => exact rejectsCleanly_pure _

/-- An application that reports failure has changed nothing. -/
theorem rejectsCleanly_configureTag {P : Type} (code : Str) (parsed : ParseResult P)
    {apply : P → CommandM Bool}
    (happly : ∀ payload w, ((apply payload).run w).1 = false → ((apply payload).run w).2 = w) :
    RejectsCleanly (configureTag taken code parsed apply) := by
  cases parsed with
  | error e => exact rejectsCleanly_pure _
  | ok payload =>
    intro w code' herror
    rw [run_configureTag] at herror ⊢
    cases hrun : (apply payload).run w with
    | mk done w' =>
      rw [hrun] at herror
      cases done with
      | true => cases herror
      | false =>
        have hkeep := happly payload w
        rw [hrun] at hkeep
        exact hkeep rfl

theorem applyBleTagConfig_of_false (payload : BleTagConfigPayload) (w : CommandWorld)
    (h : ((applyBleTagConfig payload).run w).1 = false) :
    ((applyBleTagConfig payload).run w).2 = w := by
  unfold applyBleTagConfig at h ⊢
  dsimp only at h ⊢
  split_ifs at h ⊢ with hslot
  · rfl
  · cases h

theorem applyBleTagClear_of_false (payload : BleTagClearPayload) (w : CommandWorld)
    (h : ((applyBleTagClear payload).run w).1 = false) :
    ((applyBleTagClear payload).run w).2 = w := by
  unfold applyBleTagClear at h ⊢
  dsimp only at h ⊢
  split_ifs at h ⊢ with hslot
  · rfl
  · cases h

theorem rejectsCleanly_handleDeviceCommand (command : DeviceCommand) :
    RejectsCleanly (handleDeviceCommand uptimeMs wifiController taken command) := by
  cases command with
  | ping | status | homeAssistantStatus | energy => exact rejectsCleanly_pure _
  | radar payload => exact rejectsCleanly_pure _
  | wifiScan =>
    rw [handleDeviceCommand]
    split_ifs
    · exact rejectsCleanly_pure _
    · exact rejectsCleanly_pure _
  | homeAssistantConfig payload => exact rejectsCleanly_configure _ _ _
  | homeAssistantRoomConfig payload => exact rejectsCleanly_configure _ _ _
  | homeAssistantWebSocketConfig payload => exact rejectsCleanly_configure _ _ _
  | homeAssistantMqttEndpoint payload => exact rejectsCleanly_configure _ _ _
  | tuningConfig payload => exact rejectsCleanly_configure _ _ _
  | bleTagConfig payload => exact rejectsCleanly_configureTag _ _ applyBleTagConfig_of_false
  | bleTagClear payload => exact rejectsCleanly_configureTag _ _ applyBleTagClear_of_false
  | firmwareSync => exact rejectsCleanly_snapshot (modifyState _)
  | firmwareUpdate targetVersion => exact rejectsCleanly_snapshot (modifyState _)
  | runtimeBenchmark => exact rejectsCleanly_snapshot (modify _)
  | homeAssistantRoomPosePublish payload =>
    rw [handleDeviceCommand]
    cases parseRoomPosePublishPayload payload with
    | error e => exact rejectsCleanly_pure _
    | ok pose =>
      intro w code herror
      rw [run_publishRoomPose] at herror ⊢
      cases hbuilt : buildRoomPosePublishMessage w.state pose with
      | some message =>
        rw [hbuilt] at herror
        cases herror
      | none => rfl

end Handler

/-- A command that is answered with an error leaves the state, the flash and the channel as they
were, and has not tried to write or to send anything. -/
theorem rejected_changes_nothing (uptimeMs : ℕ) (wifiController : Bool) (taken : SettingsKey → Bool)
    (command code : Str) (w : CommandWorld)
    (h : ((handleCommand uptimeMs wifiController taken command).run w).1 = .error code) :
    ((handleCommand uptimeMs wifiController taken command).run w).2 = w := by
  revert h
  rw [handleCommand]
  split_ifs with hsnapshot hdebug
  · exact rejectsCleanly_pure _ w code
  · exact rejectsCleanly_pure _ w code
  · cases parseDeviceCommand command with
    | none => exact rejectsCleanly_pure _ w code
    | some command => exact rejectsCleanly_handleDeviceCommand command w code

theorem rejected_changes_nothing_slot :
    ((handleCommand 0 true (fun _ => true) "ble_tag_config:9|Phone|AA|-70").run
      { state := {}, settings := some {} }).2 = { state := {}, settings := some {} } :=
  rejected_changes_nothing 0 true _ _ "invalid_ble_tag_slot" _ (by decide +kernel)

/-! ## What `Configuration` says of a command -/

/-- The same answer, and the same state after it. -/
def Agrees (m : CommandM CommandReply) (outcome : FirmwareState → CommandOutcome) : Prop :=
  ∀ w, (m.run w).1 = (outcome w.state).reply ∧ (m.run w).2.state = (outcome w.state).state

theorem state_persistRuntimeConfig (taken : SettingsKey → Bool) (w : CommandWorld) :
    ((persistRuntimeConfig taken).run w).2.state = w.state := by
  show (match w.settings with
    | none => w
    | some settings =>
      { w with settings := some (settings.persistRuntimeConfig taken w.state)
               writes := w.writes ++ persistedKeys } : CommandWorld).state = w.state
  cases w.settings <;> rfl

theorem agrees_configure {P : Type} (taken : SettingsKey → Bool) (code : Str)
    (parsed : ParseResult P) (apply : FirmwareState → P → FirmwareState) :
    Agrees (configure taken code parsed apply) fun s => s.configured code parsed (apply s) := by
  intro w
  cases parsed with
  | error e => exact ⟨rfl, rfl⟩
  | ok payload => exact ⟨rfl, state_persistRuntimeConfig taken _⟩

theorem agrees_configureTag {P : Type} (taken : SettingsKey → Bool) (code : Str)
    (parsed : ParseResult P) {apply : P → CommandM Bool}
    {apply' : FirmwareState → P → Option FirmwareState}
    (happly : ∀ payload w, ((apply payload).run w).1 = (apply' w.state payload).isSome ∧
      ((apply payload).run w).2.state = (apply' w.state payload).getD w.state) :
    Agrees (configureTag taken code parsed apply) fun s => s.configuredTag code parsed (apply' s) := by
  intro w
  cases parsed with
  | error e => exact ⟨rfl, rfl⟩
  | ok payload =>
    obtain ⟨hdone, hstate⟩ := happly payload w
    rw [run_configureTag]
    unfold FirmwareState.configuredTag
    dsimp only
    generalize (apply payload).run w = r at hdone hstate
    obtain ⟨done, w'⟩ := r
    cases hslot : apply' w.state payload with
    | none =>
      rw [hslot] at hdone hstate
      cases hdone
      exact ⟨rfl, hstate⟩
    | some s =>
      rw [hslot] at hdone hstate
      cases hdone
      exact ⟨rfl, (state_persistRuntimeConfig taken w').trans hstate⟩

theorem applyBleTagConfig_eq (payload : BleTagConfigPayload) (w : CommandWorld) :
    ((applyBleTagConfig payload).run w).1 = (w.state.applyBleTagConfig payload).isSome ∧
      ((applyBleTagConfig payload).run w).2.state =
        (w.state.applyBleTagConfig payload).getD w.state := by
  unfold applyBleTagConfig FirmwareState.applyBleTagConfig FirmwareState.setBleTag
  dsimp only
  by_cases hslot : payload.slot.toNat < maxBleTags
  · rw [dif_neg (Nat.not_le.2 hslot), dif_pos hslot]
    exact ⟨rfl, rfl⟩
  · rw [dif_pos (Nat.not_lt.1 hslot), dif_neg hslot]
    exact ⟨rfl, rfl⟩

theorem applyBleTagClear_eq (payload : BleTagClearPayload) (w : CommandWorld) :
    ((applyBleTagClear payload).run w).1 = (w.state.applyBleTagClear payload).isSome ∧
      ((applyBleTagClear payload).run w).2.state =
        (w.state.applyBleTagClear payload).getD w.state := by
  unfold applyBleTagClear FirmwareState.applyBleTagClear FirmwareState.setBleTag
  dsimp only
  by_cases hslot : payload.slot.toNat < maxBleTags
  · rw [dif_neg (Nat.not_le.2 hslot), dif_pos hslot]
    exact ⟨rfl, rfl⟩
  · rw [dif_pos (Nat.not_lt.1 hslot), dif_neg hslot]
    exact ⟨rfl, rfl⟩

theorem agrees_handleDeviceCommand (uptimeMs : ℕ) (taken : SettingsKey → Bool)
    (command : DeviceCommand) : Agrees (handleDeviceCommand uptimeMs true taken command) fun s =>
      s.handleDeviceCommand uptimeMs command := by
  cases command with
  | homeAssistantConfig payload => exact agrees_configure taken _ _ _
  | homeAssistantRoomConfig payload => exact agrees_configure taken _ _ _
  | homeAssistantWebSocketConfig payload => exact agrees_configure taken _ _ _
  | homeAssistantMqttEndpoint payload => exact agrees_configure taken _ _ _
  | tuningConfig payload => exact agrees_configure taken _ _ _
  | bleTagConfig payload => exact agrees_configureTag taken _ _ applyBleTagConfig_eq
  | bleTagClear payload => exact agrees_configureTag taken _ _ applyBleTagClear_eq
  | homeAssistantRoomPosePublish payload =>
    intro w
    rw [handleDeviceCommand]
    unfold FirmwareState.handleDeviceCommand
    dsimp only
    cases parseRoomPosePublishPayload payload with
    | error e => exact ⟨rfl, rfl⟩
    | ok pose =>
      dsimp only
      rw [run_publishRoomPose]
      cases buildRoomPosePublishMessage w.state pose with
      | none => exact ⟨rfl, rfl⟩
      | some message => exact ⟨rfl, rfl⟩
  | _ => exact fun w => ⟨rfl, rfl⟩

/-- With a controller to scan with, a command is answered as it is there. -/
theorem agrees_handleCommand (uptimeMs : ℕ) (taken : SettingsKey → Bool) (command : Str) :
    Agrees (handleCommand uptimeMs true taken command) fun s =>
      s.handleCommand command uptimeMs := by
  intro w
  rw [handleCommand]
  unfold FirmwareState.handleCommand
  split_ifs with hsnapshot hdebug
  · exact ⟨rfl, rfl⟩
  · exact ⟨rfl, rfl⟩
  · cases parseDeviceCommand command with
    | none => exact ⟨rfl, rfl⟩
    | some command => exact agrees_handleDeviceCommand uptimeMs taken command w

end EspWaveRider.Firmware.Effects
