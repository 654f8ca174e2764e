import EspWaveRider.Core.AdStructures
import EspWaveRider.Firmware.BleScan
import EspWaveRider.Firmware.CommandEffects
import EspWaveRider.Firmware.DebugStatus
import EspWaveRider.Firmware.HttpChannels
import EspWaveRider.Firmware.MqttRuntime
import EspWaveRider.Firmware.RadarUart
import EspWaveRider.UsbConsole

/-!
# The main loop

`main` of `rust/firmware/esp32s3/src/main.rs`: one round takes what the radar, the radio, the
network tasks, the BLE handler, an HTTP connection and the USB port have brought, in this order,
and shows what the node makes of it.

* `Device` — the variables of `main` and what is in flash;
* `Round`, `Shown` — what one round is given and what it lets out;
* `Device.round` — the body of the loop;
* `deviceMachine` — rounds and boots.
-/

namespace EspWaveRider.Firmware

open Text Radar Ble

/-! ## The node -/

/-- The variables of `main`, the stored settings and the OTA slots, with the last time that was
read. -/
structure Device where
  wifi : WifiRuntime := {}
  lastResetReason : Str := "unknown"
  runtimeBenchmark : Option RuntimeBenchmarkSnapshot := none
  bleSightings : Fin maxBleSightings → BleBeaconSightingState := fun _ => {}
  /-- The settings in flash, and whether `open_settings_nvs` has found them. -/
  stored : Nvs := {}
  settingsOpen : Bool := true
  flash : OtaFlash
  commandBuffer : HVec UInt8 256 := Bounded.empty
  clock : ℕ := 0

namespace Device

def state (d : Device) : FirmwareState := d.wifi.state

def withState (d : Device) (s : FirmwareState) : Device := { d with wifi := { d.wifi with state := s } }

def settings (d : Device) : Option Nvs := if d.settingsOpen then some d.stored else none

def deviceState (d : Device) : DeviceState :=
  { state := d.state, lastResetReason := d.lastResetReason
    runtimeBenchmark := d.runtimeBenchmark, bleSightings := d.bleSightings }

@[simp] theorem state_withState (d : Device) (s : FirmwareState) : (d.withState s).state = s := rfl

end Device

/-! ## Commands -/

/-- What a handler meets: two readings of the clock, the flash, the benchmark, the scan and the
heap. -/
structure HandlerAnswers where
  uptimeMs : ℕ := 0
  replyMs : ℕ := 0
  taken : SettingsKey → Bool := fun _ => true
  benchmark : ℕ → RuntimeBenchmarkSnapshot
  scan : Except WifiError ScanResults := .error .failed
  freeHeapBytes : ℕ := 0

/-- `none` stands for an arithmetic overflow on the way to the answer. -/
inductive Response where
  | snapshot (snapshot : Option DeviceSnapshot)
  | debugStatus (text : Option Str)
  | text (body : Str)

def errorBody (code : Str) : Str := ("\x7b\"error\":\"" : Str) ++ code ++ ("\"\x7d" : Str)

def formatWifiErrorToken : WifiError → Str
  | .disconnected _ _ => "disconnected"
  | .unsupported => "unsupported"
  | .invalidArguments => "invalid_arguments"
  | .failed => "failed"
  | .outOfMemory => "out_of_memory"
  | .invalidSsid => "invalid_ssid"
  | .invalidPassword => "invalid_password"
  | .notConnected => "not_connected"
  | .other => "unknown"

/-- `build_wifi_scan_results_json`, where there is a controller. -/
def buildWifiScanResultsJson : Except WifiError ScanResults → Str
  | .ok results => wifiScanResultsJson results
  | .error err =>
    ("\x7b\"event\":\"wifi_scan_results\",\"count\":0,\"networks\":[],\"error\":\"" : Str) ++
      formatWifiErrorToken err ++ ("\"\x7d" : Str)

namespace Device

def response (d : Device) (answers : HandlerAnswers) : CommandReply → Response
  | .snapshot => .snapshot (d.deviceState.snapshot answers.replyMs answers.freeHeapBytes)
  | .debugStatus => .debugStatus (d.state.debugStatusJson answers.replyMs)
  | .wifiScanResults => .text (buildWifiScanResultsJson answers.scan)
  | .error code => .text (errorBody code)

/-- The answer, and what is offered to the MQTT task. -/
def handleCommand (d : Device) (answers : HandlerAnswers) (command : Str) :
    Device × Response × List MqttTaskCommand :=
  let (reply, world) :=
    (Effects.handleCommand answers.uptimeMs d.wifi.wifiController.isSome answers.taken command).run
      { state := d.state, settings := d.settings }
  let d := { d.withState world.state with
    stored := world.settings.getD d.stored
    runtimeBenchmark := (world.runtimeBenchmark.map answers.benchmark).or d.runtimeBenchmark
    clock := answers.replyMs }
  (d, d.response answers reply, world.offered)

/-- `process_pending_http_request`, for a request that is there. -/
def handleHttpRequest (d : Device) (answers : HandlerAnswers) :
    HttpRequestMessage → Device × Response × List MqttTaskCommand
  | .snapshot => ({ d with clock := answers.replyMs }, d.response answers .snapshot, [])
  | .command command => d.handleCommand answers command.items

/-- The read of one byte from the USB port at the end of a round. -/
def readUsbByte (d : Device) (answers : HandlerAnswers) (byte : UInt8) :
    Device × Option Response × List MqttTaskCommand :=
  if byte = 0x0A then
    if d.commandBuffer.items = [] then (d, none, [])
    else
      let cleared (d : Device) : Device := { d with commandBuffer := Bounded.empty }
      match Console.command d.commandBuffer with
      | some command =>
        let (d, response, offered) := d.handleCommand answers command
        (cleared d, some response, offered)
      | none => (cleared d, some (.text (errorBody "invalid_utf8")), [])
  else ({ d with commandBuffer := Console.editBuffer d.commandBuffer byte }, none, [])

end Device

/-! ## BLE -/

def formatBleAddress (raw : Vector UInt8 6) : Str :=
  List.intercalate [':'] (raw.toList.reverse.map hexByteLower)

def BleScanEventMessage.advertisement (event : BleScanEventMessage) (uptimeMs : ℕ) :
    BleAdvertisement :=
  { address := formatBleAddress event.address
    name := extractBleLocalName event.advData.items event.scanData.items
    serviceUuid := extractBleServiceUuid event.advData.items event.scanData.items
    rssi := event.rssi.toInt
    nowMs := uptimeMs }

namespace Device

/-- `record_ble_advertisement` on the tables of the node. -/
def recordAdvertisement (d : Device) (ad : BleAdvertisement) : Device :=
  let store := recordBleAdvertisement ⟨d.bleSightings, d.state.bleIdentityTags.toList⟩ ad
  let s := d.state
  { d.withState { s with
      bleIdentityTags := Vector.ofFn fun slot => store.tags.getD slot (s.bleIdentityTags.get slot) } with
    bleSightings := store.sightings }

def processBleScanEvents (d : Device) (events : List BleScanEventMessage) (uptimeMs : ℕ) : Device :=
  events.foldl (fun d event => d.recordAdvertisement (event.advertisement uptimeMs)) d

end Device

/-! ## A round -/

/-- What the world has for one round. -/
structure Round where
  now : ℕ
  radarReads : List (Option (HVec UInt8 32)) := []
  radio : RadioAnswers := {}
  /-- What the packet channel holds, and whether the announcement channel has room. -/
  datagrams : List (HString 512) := []
  announceTaken : Bool := false
  mqttEvents : List MqttTaskEvent := []
  configSent : Bool := false
  summarySent : Bool := false
  bleEvents : List BleScanEventMessage := []
  httpRequest : Option HttpRequestMessage := none
  httpAnswers : HandlerAnswers
  attempts : List Attempt := []
  presencePin : Bool := false
  usbByte : Option UInt8 := none
  usbAnswers : HandlerAnswers
  freeHeapBytes : ℕ := 0

/-- What leaves the node in one round. -/
structure Shown where
  announcement : Option (HString 384)
  mqttCommands : List MqttTaskCommand
  httpResponse : Option Response
  /-- `none` where the colour overflows. -/
  statusLed : Option StatusLedColor
  usbResponse : Option Response

/-- The datagram for the discovery task. -/
def FirmwareState.announcement (s : FirmwareState) (station : Bool) (uptimeMs freeHeapBytes : ℕ)
    (sent : Bool) : Option (HString 384) :=
  if station ∧ s.wifiConnected ∧ uptimeMs - s.lastUdpDiscoveryAnnounceMs ≥ udpDiscoveryAnnounceMs ∧
      sent then
    buildUdpDiscoveryPayload s uptimeMs freeHeapBytes
  else none

namespace Device

/-- Radar, radio, peers and MQTT. -/
def listen (d : Device) (r : Round) : Device × Option (HString 384) × List MqttTaskCommand :=
  let d := { d with clock := r.now }
  let d := d.withState (d.state.pollRadarUart ⟨r.now, r.radarReads⟩).1
  let d := { d with wifi := d.wifi.pollWifiRuntime r.radio r.now }
  let announcement :=
    d.state.announcement d.wifi.stationStack r.now r.freeHeapBytes r.announceTaken
  let d := d.withState (d.state.processUdpDiscovery d.wifi.stationStack
    (r.datagrams.map (·.items)) r.now r.freeHeapBytes r.announceTaken)
  let (s, commands) := d.state.processMqttRuntime r.mqttEvents r.now r.configSent r.summarySent
  (d.withState s, announcement, commands)

/-- What comes before a request is looked for. -/
def receive (d : Device) (r : Round) : Device × Option (HString 384) × List MqttTaskCommand :=
  let (d, announcement, commands) := d.listen r
  (d.processBleScanEvents r.bleEvents r.now, announcement, commands)

/-- A request, or else the update that is queued. -/
def serve (httpsOta : Bool) (d : Device) (r : Round) :
    Device × Option Response × List MqttTaskCommand :=
  match r.httpRequest with
  | some request =>
    let (d, response, offered) := d.handleHttpRequest r.httpAnswers request
    (d, some response, offered)
  | none =>
    let (s, flash) := d.state.serviceFirmwareSync httpsOta r.now r.attempts d.flash
    ({ d.withState s with flash }, none, [])

/-- The presence input and the LED. -/
def sense (d : Device) (r : Round) : Device := d.withState (d.state.pollPresence r.presencePin r.now)

/-- What the USB port has for this round. -/
def readUsb (d : Device) (r : Round) : Device × Option Response × List MqttTaskCommand :=
  match r.usbByte with
  | some byte => d.readUsbByte r.usbAnswers byte
  | none => (d, none, [])

def round (httpsOta : Bool) (d : Device) (r : Round) : Device × Shown :=
  let (d, announcement, commands) := d.receive r
  let (d, httpResponse, offered) := d.serve httpsOta r
  let d := d.sense r
  let statusLed := d.state.statusLedRgb r.now
  let (d, usbResponse, offered') := d.readUsb r
  (d, ⟨announcement, commands ++ offered ++ offered', httpResponse, statusLed, usbResponse⟩)

/-- From power on to the loop: the settings are loaded if they can be opened. -/
def boot (mac : Vector UInt8 6) (stored : Nvs) (settingsOpen : Bool) (flash : OtaFlash)
    (lastResetReason : Str) (runtimeBenchmark : Option RuntimeBenchmarkSnapshot)
    (presencePin : Bool) (uptimeMs : ℕ) : Device :=
  let s := FirmwareState.bootState mac (if settingsOpen then some stored else none)
  { wifi := { state := s.pollPresence presencePin uptimeMs }
    lastResetReason, runtimeBenchmark, stored, settingsOpen, flash, clock := uptimeMs }

end Device

/-! ## The machine -/

inductive DeviceEvent where
  /-- Power on again: flash is all that is left. -/
  | reboot (settingsOpen : Bool) (lastResetReason : Str)
      (runtimeBenchmark : Option RuntimeBenchmarkSnapshot) (presencePin : Bool) (uptimeMs : ℕ)
  | round (r : Round)

/-- The readings of a round follow each other, up to the end of the clock. -/
structure Round.InTime (r : Round) (clock : ℕ) : Prop where
  now : clock ≤ r.now
  http : r.now ≤ r.httpAnswers.uptimeMs ∧ r.httpAnswers.uptimeMs ≤ r.httpAnswers.replyMs
  usb : r.httpAnswers.replyMs ≤ r.usbAnswers.uptimeMs ∧
    r.usbAnswers.uptimeMs ≤ r.usbAnswers.replyMs
  range : r.usbAnswers.replyMs ≤ u32Max

instance (r : Round) (clock : ℕ) : Decidable (r.InTime clock) :=
  decidable_of_iff (clock ≤ r.now ∧ (r.now ≤ r.httpAnswers.uptimeMs ∧
      r.httpAnswers.uptimeMs ≤ r.httpAnswers.replyMs) ∧
      (r.httpAnswers.replyMs ≤ r.usbAnswers.uptimeMs ∧
        r.usbAnswers.uptimeMs ≤ r.usbAnswers.replyMs) ∧ r.usbAnswers.replyMs ≤ u32Max)
    ⟨fun h => ⟨h.1, h.2.1, h.2.2.1, h.2.2.2⟩, fun h => ⟨h.now, h.http, h.usb, h.range⟩⟩

/-- Every life of the node with this address; time goes on from boot to boot anew. -/
def deviceMachine (httpsOta : Bool) (mac : Vector UInt8 6) : Machine Device DeviceEvent where
  start d := ∃ stored settingsOpen flash reason benchmark presencePin, ∃ uptimeMs ≤ u32Max,
    d = Device.boot mac stored settingsOpen flash reason benchmark presencePin uptimeMs
  step d
    | .reboot settingsOpen reason benchmark presencePin uptimeMs =>
      if uptimeMs ≤ u32Max then
        some (Device.boot mac d.stored settingsOpen d.flash reason benchmark presencePin uptimeMs)
      else none
    | .round r => if r.InTime d.clock then some (d.round httpsOta r).1 else none

theorem step_round {httpsOta : Bool} {mac : Vector UInt8 6} {d : Device} {r : Round}
    (h : r.InTime d.clock) :
    (deviceMachine httpsOta mac).step d (.round r) = some (d.round httpsOta r).1 := if_pos h

end EspWaveRider.Firmware
