import EspWaveRider.Lib.Text

/-!
# Device commands

`rust/crates/espwaverider-core/src/command.rs`: the command line the firmware
accepts from the dashboard, the USB console and HTTP, and the payloads of the
configuration commands, which are fields separated by `|`.

* `parseDeviceCommand` — the command and its payload;
* `splitFields` and one parser for each payload, every parser being the split
  followed by the reading of the fields.
-/

namespace EspWaveRider.Command

open Text

inductive DeviceCommand where
  | ping
  | status
  | homeAssistantStatus
  | wifiScan
  | runtimeBenchmark
  | homeAssistantConfig (payload : Str)
  | homeAssistantRoomConfig (payload : Str)
  | homeAssistantRoomPosePublish (payload : Str)
  | tuningConfig (payload : Str)
  | bleTagConfig (payload : Str)
  | bleTagClear (payload : Str)
  | homeAssistantWebSocketConfig (payload : Str)
  | homeAssistantMqttEndpoint (payload : Str)
  | firmwareSync
  | firmwareUpdate (targetVersion : Str)
  | energy
  | radar (payload : Str)
  deriving DecidableEq

structure RoomConfigPayload where
  roomId : Str
  sensorRole : Str
  poseXCm : ℤ
  poseYCm : ℤ
  headingDeg : ℤ
  roomWidthCm : UInt16
  roomHeightCm : UInt16
  deriving DecidableEq

structure RoomPosePublishPayload where
  nodeId : Str
  roomId : Str
  sensorRole : Str
  poseXCm : ℤ
  poseYCm : ℤ
  headingDeg : ℤ
  roomWidthCm : UInt16
  roomHeightCm : UInt16
  deriving DecidableEq

structure BleTagConfigPayload where
  slot : UInt8
  label : Str
  address : Str
  minRssi : ℤ
  deriving DecidableEq

structure BleTagClearPayload where
  slot : UInt8
  deriving DecidableEq

structure TuningConfigPayload where
  maxDetectionRangeCm : UInt16
  minGateEnergy : UInt16
  sensitivityPercent : UInt8
  presenceHoldMs : UInt16
  minActiveGates : UInt8
  minActivityScore : UInt8
  ledEnabled : Bool
  ledBrightness : UInt8
  deriving DecidableEq

structure HomeAssistantConfigPayload where
  wifiSsid : Str
  wifiPassword : Str
  mqttHost : Str
  mqttPort : UInt16
  mqttUsername : Str
  mqttPassword : Str
  nodeId : Str
  friendlyName : Str
  deriving DecidableEq

structure HomeAssistantWebSocketConfigPayload where
  enabled : Bool
  path : Str
  hostHeader : Str
  deriving DecidableEq

structure HomeAssistantMqttEndpointPayload where
  mqttHost : Str
  mqttPort : Option UInt16
  useWebsockets : Option Bool
  websocketPath : Str
  hostHeader : Str
  deriving DecidableEq

structure CommandPayloadParseError where
  message : Str
  deriving DecidableEq

/-! ## The command line -/

/-- The commands with a payload, in the order they are tried. -/
def prefixedCommands : List (Str × (Str → DeviceCommand)) :=
  [("ha_config:", .homeAssistantConfig),
   ("ha_room_config:", .homeAssistantRoomConfig),
   ("ha_room_pose_publish:", .homeAssistantRoomPosePublish),
   ("tuning_config:", .tuningConfig),
   ("ble_tag_config:", .bleTagConfig),
   ("ble_tag_clear:", .bleTagClear),
   ("ha_ws_config:", .homeAssistantWebSocketConfig),
   ("ha_mqtt_endpoint:", .homeAssistantMqttEndpoint),
   ("firmware_update:", .firmwareUpdate),
   ("radar:", .radar)]

def parsePrefixedCommand (input : Str) : Option DeviceCommand :=
  prefixedCommands.findSome? fun (name, command) => (stripPrefix name input).map command

/-- `none` stands for `CommandParseError`. -/
def parseDeviceCommand (input : Str) : Option DeviceCommand :=
  if input = "ping" then some .ping
  else if input = "status" then some .status
  else if input = "ha_status" then some .homeAssistantStatus
  else if input = "wifi_scan" then some .wifiScan
  else if input = "runtime_benchmark" then some .runtimeBenchmark
  else if input = "firmware_sync" then some .firmwareSync
  else if input = "energy" then some .energy
  else parsePrefixedCommand input

/-! ## Fields -/

abbrev ParseResult := Except CommandPayloadParseError

/-- The fields between the `|`, which have to be exactly `n`. -/
def splitFields (n : ℕ) (payload : Str) : ParseResult (Vector Str n) :=
  let fields := payload.splitOn '|'
  if h : fields.length = n then .ok ⟨fields.toArray, by simpa using h⟩
  else .error ⟨"invalid field count"⟩

def parseBoolToken (token : Str) : Bool := token = "1" ∨ token = "true" ∨ token = "on"

def orError {α : Type} (message : Str) : Option α → ParseResult α
  | some v => .ok v
  | none => .error ⟨message⟩

def parseI16 (value message : Str) : ParseResult ℤ :=
  orError message (parseSigned (-32768) 32767 value)

def parseI32 (value message : Str) : ParseResult ℤ :=
  orError message (parseSigned (-2147483648) 2147483647 value)

def parseU8 (value message : Str) : ParseResult UInt8 :=
  orError message ((parseUnsigned 255 value).map UInt8.ofNat)

def parseU16 (value message : Str) : ParseResult UInt16 :=
  orError message ((parseUnsigned 65535 value).map UInt16.ofNat)

def parseI32OrDefault (value : Str) (default : ℤ) : ParseResult ℤ :=
  if value = [] then .ok default else parseI32 value "invalid numeric field"

def clampI32 (value lo hi : ℤ) : ℤ := max lo (min value hi)

def parseOptionalPort (value : Str) : ParseResult (Option UInt16) :=
  if value = [] then .ok none
  else do
    let parsed ← parseU16 value "invalid port field"
    return if parsed = 0 then none else some parsed

def parsePortOrDefault (value : Str) (default : UInt16) : ParseResult UInt16 := do
  let port ← parseOptionalPort value
  return port.getD default

def parseOptionalBoolToken (token : Str) : Option Bool :=
  if token = [] then none else some (parseBoolToken token)

theorem bind_eq_ok {α β : Type} {x : ParseResult α} {f : α → ParseResult β} {b : β} :
    x >>= f = .ok b ↔ ∃ a, x = .ok a ∧ f a = .ok b := by
  cases x with
  | error e => exact ⟨nofun, fun ⟨_, h, _⟩ => nomatch h⟩
  | ok a => exact ⟨fun h => ⟨a, rfl, h⟩, fun ⟨_, h, hf⟩ => by cases h; exact hf⟩

theorem orError_eq_ok_iff {α : Type} {message : Str} {x : Option α} {a : α} :
    orError message x = .ok a ↔ x = some a := by
  cases x <;> simp [orError]

/-! ### Numbers are read from digits and signs -/

theorem forall_of_parseI16 {value message : Str} {v : ℤ} (h : parseI16 value message = .ok v) :
    ∀ c ∈ value, isNumberChar c :=
  forall_of_parseSigned (orError_eq_ok_iff.1 h)

theorem forall_of_parseU16 {value message : Str} {v : UInt16}
    (h : parseU16 value message = .ok v) : ∀ c ∈ value, isNumberChar c := by
  obtain ⟨n, hn, _⟩ := Option.map_eq_some_iff.1 (orError_eq_ok_iff.1 h)
  exact forall_of_parseUnsigned hn

theorem forall_of_parseI32OrDefault {value : Str} {default v : ℤ}
    (h : parseI32OrDefault value default = .ok v) : ∀ c ∈ value, isNumberChar c := by
  unfold parseI32OrDefault at h
  split at h
  · rename_i hempty
    simp [hempty]
  · exact forall_of_parseSigned (orError_eq_ok_iff.1 h)

theorem forall_of_parseOptionalPort {value : Str} {v : Option UInt16}
    (h : parseOptionalPort value = .ok v) : ∀ c ∈ value, isNumberChar c := by
  unfold parseOptionalPort at h
  split at h
  · rename_i hempty
    simp [hempty]
  · obtain ⟨parsed, hparsed, _⟩ := bind_eq_ok.1 h
    exact forall_of_parseU16 hparsed

theorem forall_of_parsePortOrDefault {value : Str} {default v : UInt16}
    (h : parsePortOrDefault value default = .ok v) : ∀ c ∈ value, isNumberChar c := by
  obtain ⟨port, hport, _⟩ := bind_eq_ok.1 h
  exact forall_of_parseOptionalPort hport

/-! ## Payloads -/

def homeAssistantConfigOfFields (fields : Vector Str 8) :
    ParseResult HomeAssistantConfigPayload := do
  let mqttPort ← parsePortOrDefault fields[3] 1883
  return { wifiSsid := fields[0], wifiPassword := fields[1], mqttHost := fields[2], mqttPort,
           mqttUsername := fields[4], mqttPassword := fields[5], nodeId := fields[6],
           friendlyName := fields[7] }

def parseHomeAssistantConfigPayload (payload : Str) : ParseResult HomeAssistantConfigPayload :=
  splitFields 8 payload >>= homeAssistantConfigOfFields

def roomConfigOfFields (fields : Vector Str 7) : ParseResult RoomConfigPayload := do
  let poseXCm ← parseI16 fields[2] "invalid room pose x"
  let poseYCm ← parseI16 fields[3] "invalid room pose y"
  let headingDeg ← parseI16 fields[4] "invalid room heading"
  let roomWidthCm ← parseU16 fields[5] "invalid room width"
  let roomHeightCm ← parseU16 fields[6] "invalid room height"
  return { roomId := fields[0], sensorRole := fields[1], poseXCm, poseYCm, headingDeg,
           roomWidthCm, roomHeightCm }

def parseRoomConfigPayload (payload : Str) : ParseResult RoomConfigPayload :=
  splitFields 7 payload >>= roomConfigOfFields

def roomPosePublishOfFields (fields : Vector Str 8) : ParseResult RoomPosePublishPayload := do
  let poseXCm ← parseI16 fields[3] "invalid room pose x"
  let poseYCm ← parseI16 fields[4] "invalid room pose y"
  let headingDeg ← parseI16 fields[5] "invalid room heading"
  let roomWidthCm ← parseU16 fields[6] "invalid room width"
  let roomHeightCm ← parseU16 fields[7] "invalid room height"
  return { nodeId := fields[0], roomId := fields[1], sensorRole := fields[2], poseXCm, poseYCm,
           headingDeg, roomWidthCm, roomHeightCm }

def parseRoomPosePublishPayload (payload : Str) : ParseResult RoomPosePublishPayload :=
  splitFields 8 payload >>= roomPosePublishOfFields

/-- `if value > 0 { value } else { default }`. -/
def positiveOr (default value : ℤ) : ℤ := if value > 0 then value else default

def tuningConfigOfFields (fields : Vector Str 8) : ParseResult TuningConfigPayload := do
  let parsedMaxRange ← parseI32OrDefault fields[0] 0
  let parsedMinEnergy ← parseI32OrDefault fields[1] 0
  let parsedSensitivity ← parseI32OrDefault fields[2] 0
  let parsedHoldMs ← parseI32OrDefault fields[3] (-1)
  let parsedMinGates ← parseI32OrDefault fields[4] 0
  let parsedMinActivity ← parseI32OrDefault fields[5] 0
  let parsedLedBrightness ← parseI32OrDefault fields[7] 0
  return {
    maxDetectionRangeCm := if parsedMaxRange > 0 then
        UInt16.ofNat (clampI32 parsedMaxRange 1 65535).toNat
      else 1120
    minGateEnergy := if parsedMinEnergy > 0 then
        UInt16.ofNat (clampI32 parsedMinEnergy 1 65535).toNat
      else 25
    sensitivityPercent := UInt8.ofNat (clampI32 (positiveOr 55 parsedSensitivity) 10 100).toNat
    presenceHoldMs := if parsedHoldMs ≥ 0 then
        UInt16.ofNat (clampI32 parsedHoldMs 3000 60000).toNat
      else 4000
    minActiveGates := UInt8.ofNat (clampI32 (positiveOr 1 parsedMinGates) 1 16).toNat
    minActivityScore := UInt8.ofNat (clampI32 (positiveOr 10 parsedMinActivity) 1 100).toNat
    ledEnabled := parseBoolToken fields[6]
    ledBrightness := UInt8.ofNat (clampI32 (positiveOr 32 parsedLedBrightness) 1 255).toNat }

def parseTuningConfigPayload (payload : Str) : ParseResult TuningConfigPayload :=
  splitFields 8 payload >>= tuningConfigOfFields

def homeAssistantWebsocketConfigOfFields (fields : Vector Str 3) :
    ParseResult HomeAssistantWebSocketConfigPayload :=
  return { enabled := parseBoolToken fields[0], path := fields[1], hostHeader := fields[2] }

def parseHomeAssistantWebsocketConfigPayload (payload : Str) :
    ParseResult HomeAssistantWebSocketConfigPayload :=
  splitFields 3 payload >>= homeAssistantWebsocketConfigOfFields

def homeAssistantMqttEndpointOfFields (fields : Vector Str 5) :
    ParseResult HomeAssistantMqttEndpointPayload := do
  let mqttPort ← parseOptionalPort fields[1]
  return { mqttHost := fields[0], mqttPort, useWebsockets := parseOptionalBoolToken fields[2],
           websocketPath := fields[3], hostHeader := fields[4] }

def parseHomeAssistantMqttEndpointPayload (payload : Str) :
    ParseResult HomeAssistantMqttEndpointPayload :=
  splitFields 5 payload >>= homeAssistantMqttEndpointOfFields

def bleTagConfigOfFields (fields : Vector Str 4) : ParseResult BleTagConfigPayload := do
  let slot ← parseU8 fields[0] "invalid ble tag slot"
  let parsedMinRssi ← if fields[3] = [] then .ok (-88)
    else parseI32 fields[3] "invalid ble tag min rssi"
  return { slot, label := fields[1], address := fields[2],
           minRssi := clampI32 parsedMinRssi (-120) (-20) }

def parseBleTagConfigPayload (payload : Str) : ParseResult BleTagConfigPayload :=
  splitFields 4 payload >>= bleTagConfigOfFields

def parseBleTagClearPayload (payload : Str) : ParseResult BleTagClearPayload := do
  let slot ← parseU8 payload "invalid ble tag slot"
  return { slot }

example : parseDeviceCommand "ha_room_config:den|auto|5" =
    some (.homeAssistantRoomConfig "den|auto|5") := by decide

end EspWaveRider.Command
