import EspWaveRider.Firmware.Configuration
import EspWaveRider.Lib.ChangeCounter

/-!
# The Wi-Fi side of the main loop

`poll_wifi_runtime` of `rust/firmware/esp32s3/src/main.rs` with what it calls: the
radio is brought up once, reconfigured when the configuration asks for it, and its
link is watched.

* `WifiRuntime.pollWifiRuntime` — one round, with the answers of the radio;
* `MarksMqtt` — a change of the state with marks for the MQTT settings, which it must
  mark when it changes them;
* `marksAtMost_pollWifiRuntime`, `marksAtMost_of_commandEffect` — rounds and commands do,
  with two marks at most.
-/

namespace EspWaveRider.Firmware

open Text

def defaultWifiConnectingReasonText : Str := "connecting"
def defaultWifiDisconnectReasonText : Str := "not_connected"
def wifiConnectRetryMs : ℕ := 10000
def wifiStatusPollMs : ℕ := 1000

/-! ## The radio -/

inductive WifiError where
  /-- The reason is the text that `format_wifi_disconnect_info` has for it. -/
  | disconnected (reason : Str) (bssid : Vector UInt8 6)
  | unsupported
  | invalidArguments
  | failed
  | outOfMemory
  | invalidSsid
  | invalidPassword
  | notConnected
  | other

inductive WifiAuthenticationMethod where
  | none
  | wpa2Personal
  deriving DecidableEq

inductive RadioWifiConfig where
  | station (ssid password : Str) (authMethod : WifiAuthenticationMethod)
  | accessPoint (ssid password : Str) (authMethod : WifiAuthenticationMethod)
  deriving DecidableEq

/-- What a network stack knows of its address. -/
structure StackConfigV4 where
  address : Vector UInt8 4
  netmask : Vector UInt8 4
  gateway : Option (Vector UInt8 4)
  broadcast : Option (Vector UInt8 4)
  dnsServers : List (Vector UInt8 4)

structure AccessPointInfo where
  bssid : Vector UInt8 6
  channel : UInt8
  signalStrength : Int8

/-- How an attempt to connect ends within its time. -/
inductive ConnectAnswer where
  | connected (channel : UInt8) (bssid : Vector UInt8 6)
  | failed (err : WifiError)
  | timedOut

/-- The answers of radio and network stack in one round. A round connects at most once,
and sets the configuration at most once. -/
structure RadioAnswers where
  configV4 : Option StackConfigV4 := none
  new : Except WifiError Unit := .ok ()
  apNetToken : Bool := true
  apDhcpToken : Bool := true
  apHttpToken : Bool := true
  stationNetToken : Bool := true
  stationHttpToken : Bool := true
  stationDiscoveryToken : Bool := true
  stationMqttToken : Bool := true
  setConfig : Except WifiError Unit := .ok ()
  channel : Option UInt8 := none
  connect : ConnectAnswer := .timedOut
  isConnected : Bool := false
  apInfo : Option AccessPointInfo := none
  rssi : Option Int32 := none

def hexByte (value : UInt8) : Str :=
  let digits : Str := "0123456789ABCDEF"
  [digits.getD (value.toNat / 16) '0', digits.getD (value.toNat % 16) '0']

def macAddressString (mac : Vector UInt8 6) : Str :=
  List.intercalate [':'] (mac.toList.map hexByte)

def ipv4AddressString (address : Vector UInt8 4) : Str :=
  List.intercalate ['.'] (address.toList.map fun octet => u32Text octet.toNat)

example : macAddressString ⟨#[0, 17, 170, 187, 204, 255], rfl⟩ = ("00:11:AA:BB:CC:FF" : Str) := by
  decide

def formatWifiControllerError (stage : Str) (err : WifiError) : Str :=
  let text : Str := match err with
    | .disconnected _ _ => "disconnected"
    | .unsupported => "unsupported"
    | .invalidArguments => "invalid_arguments"
    | .failed => "failed"
    | .outOfMemory => "out_of_memory"
    | .invalidSsid => "invalid_ssid"
    | .invalidPassword => "invalid_password"
    | .notConnected => "not_connected"
    | .other => "unknown"
  stage ++ ("_err:" : Str) ++ text

namespace FirmwareState

def markWifiControllerError (s : FirmwareState) (stage : Str) (err : WifiError) : FirmwareState :=
  { s with
    wifiConnected := false
    wifiDisconnectReason := 0
    wifiDisconnectReasonText := formatWifiControllerError stage err
    wifiRssiDbm := 0
    wifiBssid := [] }

def markWifiConnectError (s : FirmwareState) (err : WifiError) : FirmwareState :=
  let s := { s with wifiConnected := false, wifiRssiDbm := 0 }
  match err with
  | .disconnected reason bssid =>
    { s with
      wifiDisconnectReason := 1
      wifiDisconnectReasonText := ("disconnected:" : Str) ++ reason
      wifiBssid := macAddressString bssid }
  | err =>
    { s with
      wifiDisconnectReason := 0
      wifiDisconnectReasonText := formatWifiControllerError "connect" err
      wifiBssid := [] }

def clearIpConfig (s : FirmwareState) : FirmwareState :=
  { s with ipAddress := [], subnetMask := [], gatewayIp := [], dns1 := [], dns2 := []
           broadcastIp := [] }

def syncIpConfig (s : FirmwareState) : Option StackConfigV4 → FirmwareState
  | some config =>
    { s with
      ipAddress := ipv4AddressString config.address
      subnetMask := ipv4AddressString config.netmask
      gatewayIp := (config.gateway.map ipv4AddressString).getD []
      broadcastIp := (config.broadcast.map ipv4AddressString).getD []
      dns1 := (config.dnsServers[0]?.map ipv4AddressString).getD []
      dns2 := (config.dnsServers[1]?.map ipv4AddressString).getD [] }
  | none => s.clearIpConfig

def accessPointSsid (s : FirmwareState) : Str := (("LB-MMWave-" : Str) ++ s.deviceHostname).take 31

def accessPointPassword (s : FirmwareState) : Str := ("lbmmw" : Str) ++ macSuffixString s.macAddress

def buildStationConfig (s : FirmwareState) : RadioWifiConfig :=
  .station s.wifiSsid s.wifiPassword (if s.wifiPassword = [] then .none else .wpa2Personal)

def buildRadioConfig (s : FirmwareState) : RadioWifiConfig :=
  if s.homeAssistantConfigured then s.buildStationConfig
  else .accessPoint s.accessPointSsid s.accessPointPassword .wpa2Personal

def wifiRunsAccessPoint (s : FirmwareState) : Bool := !s.homeAssistantConfigured

def attemptWifiConnect (s : FirmwareState) (radio : RadioAnswers) (uptimeMs : ℕ) : FirmwareState :=
  let s := match radio.connect with
    | .connected channel bssid =>
      { s with
        wifiConnected := true
        wifiDisconnectReason := 0
        wifiDisconnectReasonText := "connected"
        wifiChannel := channel
        wifiBssid := macAddressString bssid }
    | .failed err => s.markWifiConnectError err
    | .timedOut =>
      { s with
        wifiConnected := false
        wifiDisconnectReason := 0
        wifiDisconnectReasonText := defaultWifiConnectingReasonText
        wifiRssiDbm := 0
        wifiBssid := [] }
  { s with lastWifiAttemptMs := uptimeMs }

/-- The controller has a link. -/
def noteLink (s : FirmwareState) (radio : RadioAnswers) (uptimeMs : ℕ) : FirmwareState :=
  let s := { s with
    wifiConnected := true, wifiDisconnectReason := 0, wifiDisconnectReasonText := "connected" }
  if uptimeMs - s.lastWifiStatusPollMs ≥ wifiStatusPollMs then
    let s := { s with lastWifiStatusPollMs := uptimeMs }
    let s := match radio.apInfo with
      | some info =>
        { s with
          wifiBssid := macAddressString info.bssid
          wifiChannel := info.channel
          wifiRssiDbm := info.signalStrength.toInt }
      | none => s
    match radio.rssi with
    | some rssiDbm => { s with wifiRssiDbm := rssiDbm.toInt }
    | none => s
  else s

/-- The controller has no link; the reason noted before decides what is kept of it. -/
def noteNoLink (s : FirmwareState) : FirmwareState :=
  if s.wifiRuntimeStarted then
    if s.wifiDisconnectReasonText = defaultWifiConnectingReasonText then
      { s with wifiConnected := false, wifiDisconnectReason := 0, wifiRssiDbm := 0, wifiBssid := [] }
    else if ("disconnected:" : Str).isPrefixOf s.wifiDisconnectReasonText then
      { s with wifiConnected := false, wifiRssiDbm := 0 }
    else if ("connect_err:" : Str).isPrefixOf s.wifiDisconnectReasonText ||
        ("set_config_err:" : Str).isPrefixOf s.wifiDisconnectReasonText ||
        ("new_err:" : Str).isPrefixOf s.wifiDisconnectReasonText then
      { s with wifiConnected := false, wifiDisconnectReason := 0, wifiRssiDbm := 0, wifiBssid := [] }
    else s.markWifiDisconnected defaultWifiDisconnectReasonText
  else s.markWifiDisconnected defaultWifiDisconnectReasonText

end FirmwareState

/-! ## A round -/

/-- The static cells of the network tasks; a second `init` of one panics. -/
inductive StaticCell where
  | apNetResources
  | stationNetResources
  | dhcpRxMeta
  | dhcpTxMeta
  | dhcpRxBuffer
  | dhcpTxBuffer
  | apHttpRxBuffer
  | apHttpTxBuffer
  | stationHttpRxBuffer
  | stationHttpTxBuffer
  | stationDiscoveryRxMeta
  | stationDiscoveryTxMeta
  | stationDiscoveryRxBuffer
  | stationDiscoveryTxBuffer
  | stationMqttRxBuffer
  | stationMqttTxBuffer
  deriving DecidableEq

/-- The state of the node with the variables of `main` that concern the radio; the
controller is known by the configuration it took last. -/
structure WifiRuntime where
  state : FirmwareState := {}
  wifiDevice : Bool := true
  wifiController : Option RadioWifiConfig := none
  apStack : Bool := false
  stationStack : Bool := false
  mqttTaskStarted : Bool := false
  /-- One entry for every `init`. -/
  staticCells : List StaticCell := []

namespace WifiRuntime

def startApNetworkRuntime (radio : RadioAnswers) : Except Str Unit :=
  if !radio.apNetToken then .error "ap_net_spawn_failed"
  else if !radio.apDhcpToken then .error "ap_dhcp_spawn_failed"
  else if !radio.apHttpToken then .error "http_spawn_failed"
  else .ok ()

/-- The second component tells whether the MQTT task counts as started afterwards. -/
def startStationNetworkRuntime (radio : RadioAnswers) (mqttTaskStarted : Bool) :
    Except Str Unit × Bool :=
  if !radio.stationNetToken then (.error "station_net_spawn_failed", mqttTaskStarted)
  else if !radio.stationHttpToken then (.error "station_http_spawn_failed", mqttTaskStarted)
  else if !radio.stationDiscoveryToken then
    (.error "station_udp_discovery_spawn_failed", mqttTaskStarted)
  else if !mqttTaskStarted && !radio.stationMqttToken then
    (.error "station_mqtt_spawn_failed", true)
  else (.ok (), true)

/-- The cells of a task, once it has been spawned. -/
def taskCells (spawned : Bool) (cells : List StaticCell) : List StaticCell :=
  if spawned then cells else []

/-- What `start_ap_network_runtime` and its tasks initialise. -/
def apNetworkCells (radio : RadioAnswers) : List StaticCell :=
  let dhcpSpawned := radio.apNetToken && radio.apDhcpToken
  List.flatten [[.apNetResources],
    taskCells dhcpSpawned [.dhcpRxMeta, .dhcpTxMeta, .dhcpRxBuffer, .dhcpTxBuffer],
    taskCells (dhcpSpawned && radio.apHttpToken) [.apHttpRxBuffer, .apHttpTxBuffer]]

def stationNetworkCells (radio : RadioAnswers) (mqttTaskStarted : Bool) : List StaticCell :=
  let httpSpawned := radio.stationNetToken && radio.stationHttpToken
  let discoverySpawned := httpSpawned && radio.stationDiscoveryToken
  List.flatten [[.stationNetResources],
    taskCells httpSpawned [.stationHttpRxBuffer, .stationHttpTxBuffer],
    taskCells discoverySpawned [.stationDiscoveryRxMeta, .stationDiscoveryTxMeta,
      .stationDiscoveryRxBuffer, .stationDiscoveryTxBuffer],
    taskCells (discoverySpawned && !mqttTaskStarted && radio.stationMqttToken)
      [.stationMqttRxBuffer, .stationMqttTxBuffer]]

def networkFailed (w : WifiRuntime) (err : Str) : WifiRuntime :=
  { w with
    state := { w.state with wifiRuntimeStarted := false, wifiDisconnectReasonText := err } }

def controllerFailed (w : WifiRuntime) (stage : Str) (err : WifiError) : WifiRuntime :=
  { w with
    state := { w.state with wifiRuntimeStarted := false }.markWifiControllerError stage err }

/-- The new controller takes its configuration and is kept. -/
def installController (w : WifiRuntime) (radio : RadioAnswers) (uptimeMs : ℕ) : WifiRuntime :=
  match radio.setConfig with
  | .ok () =>
    let s := { w.state with wifiRuntimeStarted := true }
    let s := if s.homeAssistantConfigured then
        { s with
          wifiConnected := false
          wifiDisconnectReason := 0
          wifiDisconnectReasonText := defaultWifiConnectingReasonText
          lastWifiAttemptMs := uptimeMs - wifiConnectRetryMs }
      else s.markWifiDisconnected defaultWifiNotConfiguredReasonText
    { w with
      state := { s with wifiReconfigurePending := false }
      wifiController := some w.state.buildRadioConfig }
  | .error err => w.controllerFailed "set_config" err

def startStation (w : WifiRuntime) (radio : RadioAnswers) (uptimeMs : ℕ) : WifiRuntime :=
  if !w.stationStack then
    let staticCells := w.staticCells ++ stationNetworkCells radio w.mqttTaskStarted
    match startStationNetworkRuntime radio w.mqttTaskStarted with
    | (.ok (), mqttTaskStarted) =>
      installController { w with stationStack := true, mqttTaskStarted, staticCells } radio uptimeMs
    | (.error err, mqttTaskStarted) => networkFailed { w with mqttTaskStarted, staticCells } err
  else w.installController radio uptimeMs

def bringUp (w : WifiRuntime) (radio : RadioAnswers) (uptimeMs : ℕ) : WifiRuntime :=
  match radio.new with
  | .ok () =>
    if w.state.wifiRunsAccessPoint && !w.apStack then
      let staticCells := w.staticCells ++ apNetworkCells radio
      match startApNetworkRuntime radio with
      | .ok () => startStation { w with apStack := true, staticCells } radio uptimeMs
      | .error err => networkFailed { w with staticCells } err
    else if !w.state.wifiRunsAccessPoint then startStation { w with apStack := false } radio uptimeMs
    else w.startStation radio uptimeMs
  | .error err => w.controllerFailed "new" err

/-- A new configuration goes to the radio. -/
def reconfigure (w : WifiRuntime) (radio : RadioAnswers) (uptimeMs : ℕ) : WifiRuntime :=
  let w' := match radio.setConfig with
    | .ok () =>
      let s := { w.state with wifiRuntimeStarted := true }
      let s := if s.homeAssistantConfigured then s.attemptWifiConnect radio uptimeMs
        else s.markWifiDisconnected defaultWifiNotConfiguredReasonText
      { w with state := s, wifiController := some w.state.buildRadioConfig }
    | .error err => w.controllerFailed "set_config" err
  { w' with state := { w'.state with wifiReconfigurePending := false } }

def watchLink (s : FirmwareState) (radio : RadioAnswers) (uptimeMs : ℕ) : FirmwareState :=
  if radio.isConnected then s.noteLink radio uptimeMs
  else
    let s := s.noteNoLink
    if s.homeAssistantConfigured && uptimeMs - s.lastWifiAttemptMs ≥ wifiConnectRetryMs then
      s.attemptWifiConnect radio uptimeMs
    else s

def serviceController (w : WifiRuntime) (radio : RadioAnswers) (uptimeMs : ℕ) : WifiRuntime :=
  let w := { w with state := { w.state with wifiChannel := radio.channel.getD w.state.wifiChannel } }
  let w := if w.state.wifiReconfigurePending then w.reconfigure radio uptimeMs else w
  { w with state := watchLink w.state radio uptimeMs }

def pollWifiRuntime (w : WifiRuntime) (radio : RadioAnswers) (uptimeMs : ℕ) : WifiRuntime :=
  let w := { w with
    state := if w.stationStack then w.state.syncIpConfig radio.configV4 else w.state.clearIpConfig }
  match w.wifiController with
  | none => if w.wifiDevice then bringUp { w with wifiDevice := false } radio uptimeMs else w
  | some _ => w.serviceController radio uptimeMs

/-! ### What starting the radio can do -/

/-- The driver starts, and every network task that is not there yet. -/
def NetworkStarts (w : WifiRuntime) (radio : RadioAnswers) : Prop :=
  radio.new = .ok () ∧
    (w.state.wifiRunsAccessPoint → w.apStack = false → startApNetworkRuntime radio = .ok ()) ∧
    (w.stationStack = false → (startStationNetworkRuntime radio w.mqttTaskStarted).1 = .ok ())

/-- All cells of the network tasks. -/
def networkCells : List StaticCell :=
  [.apNetResources, .dhcpRxMeta, .dhcpTxMeta, .dhcpRxBuffer, .dhcpTxBuffer, .apHttpRxBuffer,
    .apHttpTxBuffer, .stationNetResources, .stationHttpRxBuffer, .stationHttpTxBuffer,
    .stationDiscoveryRxMeta, .stationDiscoveryTxMeta, .stationDiscoveryRxBuffer,
    .stationDiscoveryTxBuffer, .stationMqttRxBuffer, .stationMqttTxBuffer]

theorem nodup_networkCells : networkCells.Nodup := by decide

theorem taskCells_sublist (spawned : Bool) (cells : List StaticCell) :
    (taskCells spawned cells).Sublist cells := by
  cases spawned with
  | false => exact List.nil_sublist _
  | true => exact List.Sublist.refl _

/-- Each side initialises its own cells, each of them once. -/
theorem startedCells_sublist (radio : RadioAnswers) (mqttTaskStarted : Bool) :
    (apNetworkCells radio ++ stationNetworkCells radio mqttTaskStarted).Sublist networkCells := by
  simp only [apNetworkCells, stationNetworkCells, List.flatten_cons, List.flatten_nil,
    List.append_assoc, List.nil_append]
  have hrest : (taskCells (radio.stationNetToken && radio.stationHttpToken &&
      radio.stationDiscoveryToken && !mqttTaskStarted && radio.stationMqttToken)
      [StaticCell.stationMqttRxBuffer, .stationMqttTxBuffer] ++ []).Sublist
        [.stationMqttRxBuffer, .stationMqttTxBuffer] := by
    rw [List.append_nil]
    exact taskCells_sublist _ _
  exact (List.Sublist.refl [_]).append ((taskCells_sublist _ _).append
    ((taskCells_sublist _ _).append ((List.Sublist.refl [_]).append
      ((taskCells_sublist _ _).append ((taskCells_sublist _ _).append hrest)))))

/-- From `w` to `v` only network tasks were started, which initialised `cells`. -/
structure Prepared (w : WifiRuntime) (cells : List StaticCell) (v : WifiRuntime) : Prop where
  state : v.state = w.state
  wifiDevice : v.wifiDevice = w.wifiDevice
  wifiController : v.wifiController = w.wifiController
  staticCells : v.staticCells = w.staticCells ++ cells

theorem Prepared.refl (w : WifiRuntime) : Prepared w [] w :=
  ⟨rfl, rfl, rfl, (List.append_nil _).symm⟩

theorem Prepared.trans {w v u : WifiRuntime} {cells cells' : List StaticCell}
    (h : Prepared w cells v) (h' : Prepared v cells' u) : Prepared w (cells ++ cells') u :=
  ⟨h'.state.trans h.state, h'.wifiDevice.trans h.wifiDevice,
    h'.wifiController.trans h.wifiController, by
      rw [h'.staticCells, h.staticCells, List.append_assoc]⟩

/-- How a start of the radio can end: once the networks are up the controller gets its
configuration. -/
inductive BringUpEffect (w : WifiRuntime) (radio : RadioAnswers) (uptimeMs : ℕ) (starts : Prop) :
    WifiRuntime → Prop where
  | installed {v : WifiRuntime} {cells : List StaticCell} : Prepared w cells v →
      cells.Sublist networkCells → starts →
      BringUpEffect w radio uptimeMs starts (v.installController radio uptimeMs)
  | networkFailed {v : WifiRuntime} {cells : List StaticCell} (err : Str) : Prepared w cells v →
      cells.Sublist networkCells → ¬ starts →
      BringUpEffect w radio uptimeMs starts (v.networkFailed err)
  | newFailed (err : WifiError) : ¬ starts →
      BringUpEffect w radio uptimeMs starts (w.controllerFailed "new" err)

/-- After the access point, as far as it is needed, comes the station. -/
theorem bringUpEffect_startStation {w v : WifiRuntime} {cells : List StaticCell}
    {radio : RadioAnswers} {starts : Prop} (hprepared : Prepared w cells v)
    (hcells : cells = [] ∨ cells = apNetworkCells radio)
    (hstarts : starts ↔ (v.stationStack = false →
      (startStationNetworkRuntime radio v.mqttTaskStarted).1 = .ok ())) (uptimeMs : ℕ) :
    BringUpEffect w radio uptimeMs starts (v.startStation radio uptimeMs) := by
  have hsublist (mqttTaskStarted : Bool) :
      (cells ++ stationNetworkCells radio mqttTaskStarted).Sublist networkCells := by
    refine List.Sublist.trans ?_ (startedCells_sublist radio mqttTaskStarted)
    rcases hcells with rfl | rfl
    · exact List.sublist_append_right _ _
    · exact List.Sublist.refl _
  unfold startStation
  by_cases hstack : v.stationStack = true
  · rw [hstack, Bool.not_true, if_neg Bool.false_ne_true]
    refine .installed hprepared ?_ (hstarts.2 fun h => absurd hstack (h ▸ Bool.false_ne_true))
    exact (List.sublist_append_left _ _).trans (hsublist false)
  · rw [Bool.eq_false_of_not_eq_true hstack, Bool.not_false, if_pos rfl]
    dsimp only
    split
    · rename_i mqttTaskStarted hstarted
      refine .installed (hprepared.trans ⟨rfl, rfl, rfl, rfl⟩) (hsublist _) (hstarts.2 fun _ => ?_)
      rw [hstarted]
    · rename_i err mqttTaskStarted hfailed
      refine .networkFailed err (hprepared.trans ⟨rfl, rfl, rfl, rfl⟩) (hsublist _) fun h => ?_
      have hok := hstarts.1 h (Bool.eq_false_of_not_eq_true hstack)
      rw [hfailed] at hok
      cases hok

theorem bringUpEffect_bringUp (w : WifiRuntime) (radio : RadioAnswers) (uptimeMs : ℕ) :
    BringUpEffect w radio uptimeMs (NetworkStarts w radio) (w.bringUp radio uptimeMs) := by
  unfold bringUp
  cases hnew : radio.new with
  | error err =>
    refine .newFailed err fun h => ?_
    have hok := hnew.symm.trans h.1
    cases hok
  | ok _ =>
    dsimp only
    have hsublist : (apNetworkCells radio).Sublist networkCells :=
      (List.sublist_append_left _ _).trans (startedCells_sublist radio false)
    by_cases hap : w.state.wifiRunsAccessPoint = true ∧ w.apStack = false
    · rw [if_pos (by simp [hap])]
      cases hstart : startApNetworkRuntime radio with
      | error err =>
        refine .networkFailed err ⟨rfl, rfl, rfl, rfl⟩ hsublist fun h => ?_
        have hok := hstart.symm.trans (h.2.1 hap.1 hap.2)
        cases hok
      | ok _ =>
        have hprepared : Prepared w (apNetworkCells radio)
            { w with apStack := true, staticCells := w.staticCells ++ apNetworkCells radio } :=
          ⟨rfl, rfl, rfl, rfl⟩
        refine bringUpEffect_startStation hprepared (Or.inr rfl) ?_ uptimeMs
        exact ⟨fun h => h.2.2, fun h => ⟨hnew, fun _ _ => hstart, h⟩⟩
    · have hstarts : NetworkStarts w radio ↔ (w.stationStack = false →
          (startStationNetworkRuntime radio w.mqttTaskStarted).1 = .ok ()) :=
        ⟨fun h => h.2.2, fun h => ⟨hnew, fun hmode hstack => absurd ⟨hmode, hstack⟩ hap, h⟩⟩
      rw [if_neg (by simpa using hap)]
      split
      · have hprepared : Prepared w [] { w with apStack := false } :=
          ⟨rfl, rfl, rfl, (List.append_nil _).symm⟩
        exact bringUpEffect_startStation hprepared (Or.inl rfl) hstarts uptimeMs
      · exact bringUpEffect_startStation (Prepared.refl w) (Or.inl rfl) hstarts uptimeMs

end WifiRuntime

/-! ## Marks for the MQTT settings -/

/-- What the MQTT task should be told, with the link state it was told last. -/
def FirmwareState.announcedSettings (s : FirmwareState) : MqttTaskConfig :=
  { s.mqttTaskConfig with wifiConnected := s.mqttRuntimeAnnouncedWifiConnected }

/-- From one state to the other the settings are marked `k` times; without a mark they
stay what they are. -/
structure MarksMqtt (k : ℕ) (s s' : FirmwareState) : Prop where
  generation : s'.mqttRuntimeGeneration =
    (ChangeCounter.next u32Max)^[k] s.mqttRuntimeGeneration
  announcedGeneration : s'.mqttRuntimeAnnouncedGeneration = s.mqttRuntimeAnnouncedGeneration
  announcedWifi : s'.mqttRuntimeAnnouncedWifiConnected = s.mqttRuntimeAnnouncedWifiConnected
  settings : k = 0 → s'.announcedSettings = s.announcedSettings

theorem MarksMqtt.trans {k l : ℕ} {s t u : FirmwareState} (h : MarksMqtt k s t)
    (h' : MarksMqtt l t u) : MarksMqtt (k + l) s u := by
  refine ⟨?_, h'.announcedGeneration.trans h.announcedGeneration,
    h'.announcedWifi.trans h.announcedWifi, fun hzero => ?_⟩
  · rw [Nat.add_comm, Function.iterate_add_apply, ← h.generation, h'.generation]
  · exact (h'.settings (by omega)).trans (h.settings (by omega))

/-- Marked as often as `n` times. -/
def MarksAtMost (n : ℕ) (s s' : FirmwareState) : Prop := ∃ k ≤ n, MarksMqtt k s s'

theorem MarksAtMost.trans {m n : ℕ} {s t u : FirmwareState} (h : MarksAtMost m s t)
    (h' : MarksAtMost n t u) : MarksAtMost (m + n) s u := by
  obtain ⟨k, hk, hmarks⟩ := h
  obtain ⟨l, hl, hmarks'⟩ := h'
  exact ⟨k + l, Nat.add_le_add hk hl, hmarks.trans hmarks'⟩

theorem MarksAtMost.mono {m n : ℕ} {s s' : FirmwareState} (h : MarksAtMost m s s') (hmn : m ≤ n) :
    MarksAtMost n s s' := by
  obtain ⟨k, hk, hmarks⟩ := h
  exact ⟨k, hk.trans hmn, hmarks⟩

theorem MarksMqtt.atMost {n : ℕ} {s s' : FirmwareState} (h : MarksMqtt 0 s s') :
    MarksAtMost n s s' := ⟨0, Nat.zero_le n, h⟩

namespace FirmwareState

theorem marksMqtt_refl (s : FirmwareState) : MarksMqtt 0 s s := ⟨rfl, rfl, rfl, fun _ => rfl⟩

theorem marksMqtt_markWifiDisconnected (s : FirmwareState) (reasonText : Str) :
    MarksMqtt 1 s (s.markWifiDisconnected reasonText) := ⟨rfl, rfl, rfl, nofun⟩

theorem marksMqtt_attemptWifiConnect (s : FirmwareState) (radio : RadioAnswers) (uptimeMs : ℕ) :
    MarksMqtt 0 s (s.attemptWifiConnect radio uptimeMs) := by
  unfold attemptWifiConnect
  cases radio.connect with
  | connected channel bssid => exact ⟨rfl, rfl, rfl, fun _ => rfl⟩
  | failed err => cases err <;> exact ⟨rfl, rfl, rfl, fun _ => rfl⟩
  | timedOut => exact ⟨rfl, rfl, rfl, fun _ => rfl⟩

theorem marksMqtt_noteLink (s : FirmwareState) (radio : RadioAnswers) (uptimeMs : ℕ) :
    MarksMqtt 0 s (s.noteLink radio uptimeMs) := by
  unfold noteLink
  dsimp only
  split
  · cases radio.apInfo with
    | none => cases radio.rssi <;> exact ⟨rfl, rfl, rfl, fun _ => rfl⟩
    | some info => cases radio.rssi <;> exact ⟨rfl, rfl, rfl, fun _ => rfl⟩
  · exact ⟨rfl, rfl, rfl, fun _ => rfl⟩

theorem marksAtMost_noteNoLink (s : FirmwareState) : MarksAtMost 1 s s.noteNoLink := by
  unfold noteNoLink
  split_ifs
  · exact ⟨0, by omega, rfl, rfl, rfl, fun _ => rfl⟩
  · exact ⟨0, by omega, rfl, rfl, rfl, fun _ => rfl⟩
  · exact ⟨0, by omega, rfl, rfl, rfl, fun _ => rfl⟩
  · exact ⟨1, le_rfl, s.marksMqtt_markWifiDisconnected _⟩
  · exact ⟨1, le_rfl, s.marksMqtt_markWifiDisconnected _⟩

end FirmwareState

namespace WifiRuntime

theorem marksAtMost_installController (w : WifiRuntime) (radio : RadioAnswers) (uptimeMs : ℕ) :
    MarksAtMost 1 w.state (w.installController radio uptimeMs).state := by
  unfold installController
  cases radio.setConfig with
  | error err => exact ⟨0, by omega, rfl, rfl, rfl, fun _ => rfl⟩
  | ok _ =>
    dsimp only
    split_ifs
    · exact ⟨0, by omega, rfl, rfl, rfl, fun _ => rfl⟩
    · exact ⟨1, le_rfl, rfl, rfl, rfl, nofun⟩

theorem marksAtMost_bringUp (w : WifiRuntime) (radio : RadioAnswers) (uptimeMs : ℕ) :
    MarksAtMost 1 w.state (w.bringUp radio uptimeMs).state := by
  have heffect := w.bringUpEffect_bringUp radio uptimeMs
  generalize w.bringUp radio uptimeMs = v at heffect
  cases heffect with
  | installed hprepared _ _ =>
    rw [← hprepared.state]
    exact marksAtMost_installController _ radio uptimeMs
  | networkFailed err hprepared _ _ =>
    rw [← hprepared.state]
    exact ⟨0, by omega, rfl, rfl, rfl, fun _ => rfl⟩
  | newFailed err _ => exact ⟨0, by omega, rfl, rfl, rfl, fun _ => rfl⟩

theorem marksAtMost_reconfigure (w : WifiRuntime) (radio : RadioAnswers) (uptimeMs : ℕ) :
    MarksAtMost 1 w.state (w.reconfigure radio uptimeMs).state := by
  have hdone (s : FirmwareState) : MarksMqtt 0 s { s with wifiReconfigurePending := false } :=
    ⟨rfl, rfl, rfl, fun _ => rfl⟩
  unfold reconfigure
  cases radio.setConfig with
  | error err => exact ⟨0, by omega, rfl, rfl, rfl, fun _ => rfl⟩
  | ok _ =>
    dsimp only
    have hstarted : MarksMqtt 0 w.state { w.state with wifiRuntimeStarted := true } :=
      ⟨rfl, rfl, rfl, fun _ => rfl⟩
    split
    · have hattempt := hstarted.trans (FirmwareState.marksMqtt_attemptWifiConnect _ radio uptimeMs)
      exact (hattempt.trans (hdone _)).atMost
    · exact ⟨1, le_rfl, rfl, rfl, rfl, nofun⟩

theorem marksAtMost_watchLink (s : FirmwareState) (radio : RadioAnswers) (uptimeMs : ℕ) :
    MarksAtMost 1 s (watchLink s radio uptimeMs) := by
  unfold watchLink
  split
  · exact (s.marksMqtt_noteLink radio uptimeMs).atMost
  · dsimp only
    split
    · have hattempt := FirmwareState.marksMqtt_attemptWifiConnect s.noteNoLink radio uptimeMs
      exact s.marksAtMost_noteNoLink.trans (n := 0) hattempt.atMost
    · exact s.marksAtMost_noteNoLink

theorem marksAtMost_serviceController (w : WifiRuntime) (radio : RadioAnswers) (uptimeMs : ℕ) :
    MarksAtMost 2 w.state (w.serviceController radio uptimeMs).state := by
  have hchannel : MarksAtMost 0 w.state
      { w.state with wifiChannel := radio.channel.getD w.state.wifiChannel } :=
    ⟨0, le_rfl, rfl, rfl, rfl, fun _ => rfl⟩
  unfold serviceController
  dsimp only
  split
  · have hreconfigured := hchannel.trans (marksAtMost_reconfigure { w with state := _ } radio uptimeMs)
    exact hreconfigured.trans (marksAtMost_watchLink _ radio uptimeMs)
  · exact (hchannel.trans (marksAtMost_watchLink _ radio uptimeMs)).mono (by omega)

/-- A round marks the settings whenever it changes them. -/
theorem marksAtMost_pollWifiRuntime (w : WifiRuntime) (radio : RadioAnswers) (uptimeMs : ℕ) :
    MarksAtMost 2 w.state (w.pollWifiRuntime radio uptimeMs).state := by
  have haddress : MarksAtMost 0 w.state
      (if w.stationStack then w.state.syncIpConfig radio.configV4 else w.state.clearIpConfig) := by
    split
    · cases radio.configV4 <;> exact ⟨0, le_rfl, rfl, rfl, rfl, fun _ => rfl⟩
    · exact ⟨0, le_rfl, rfl, rfl, rfl, fun _ => rfl⟩
  unfold pollWifiRuntime
  dsimp only
  split
  · split
    · exact (haddress.trans
        (marksAtMost_bringUp { w with state := _, wifiDevice := false } radio uptimeMs)).mono
          (by omega)
    · exact haddress.mono (by omega)
  · exact haddress.trans (marksAtMost_serviceController { w with state := _ } radio uptimeMs)

end WifiRuntime

/-! ## Commands -/

/-- Settings that are rewritten and then marked, with the link given up when the node is
no longer configured. -/
theorem marksAtMost_rewritten {s t : FirmwareState} (c : Bool) (reasonText : Str)
    (hgeneration : t.mqttRuntimeGeneration = s.mqttRuntimeGeneration)
    (hannounced : t.mqttRuntimeAnnouncedGeneration = s.mqttRuntimeAnnouncedGeneration)
    (hwifi : t.mqttRuntimeAnnouncedWifiConnected = s.mqttRuntimeAnnouncedWifiConnected) :
    MarksAtMost 2 s
      { (if c then t.markWifiDisconnected reasonText else t).markMqttRuntimeDirty with
        lastMqttRoomSummaryPublishMs := 0 } := by
  have hnext {u : FirmwareState} {k : ℕ} (h : MarksMqtt k t u) :
      MarksMqtt (k + 1) s { u.markMqttRuntimeDirty with lastMqttRoomSummaryPublishMs := 0 } := by
    refine ⟨?_, h.announcedGeneration.trans hannounced, h.announcedWifi.trans hwifi, nofun⟩
    rw [Function.iterate_succ_apply', ← hgeneration, ← h.generation]
    rfl
  split
  · exact ⟨2, le_rfl, hnext (t.marksMqtt_markWifiDisconnected reasonText)⟩
  · exact ⟨1, by omega, hnext t.marksMqtt_refl⟩

theorem marksAtMost_applyHomeAssistantConfig (s : FirmwareState)
    (payload : Command.HomeAssistantConfigPayload) :
    MarksAtMost 2 s (s.applyHomeAssistantConfig payload) :=
  marksAtMost_rewritten _ _ rfl rfl rfl

/-- A command marks the settings whenever it changes them. -/
theorem marksAtMost_of_commandEffect {s s' : FirmwareState}
    (h : FirmwareState.CommandEffect s s') : MarksAtMost 2 s s' := by
  cases h with
  | nothing => exact s.marksMqtt_refl.atMost
  | homeAssistantConfig payload => exact marksAtMost_applyHomeAssistantConfig s payload
  | roomConfig payload => exact ⟨1, by omega, rfl, rfl, rfl, nofun⟩
  | websocketConfig payload => exact ⟨1, by omega, rfl, rfl, rfl, nofun⟩
  | mqttEndpoint payload => exact ⟨1, by omega, rfl, rfl, rfl, nofun⟩
  | tuningConfig payload => exact ⟨0, by omega, rfl, rfl, rfl, fun _ => rfl⟩
  | bleIdentityTags tags => exact ⟨0, by omega, rfl, rfl, rfl, fun _ => rfl⟩
  | firmwareSyncState sync => exact ⟨0, by omega, rfl, rfl, rfl, fun _ => rfl⟩

end EspWaveRider.Firmware
