import EspWaveRider.Firmware.WifiRuntime
import EspWaveRider.Lib.Machine

/-!
# Bringing the radio up and switching its mode

Runs of commands and rounds of `poll_wifi_runtime` (`rust/firmware/esp32s3/src/main.rs`).
An unconfigured node is an access point, a configured one a station.

* `radioMode_follows_iff` — when a running controller has the mode the configuration asks
  for, or a change is pending;
* `bringUp_retryable_iff` — when a failed start leaves something to try again with, and
  that no static cell is initialised twice.
-/

namespace EspWaveRider.Firmware

open Text Command

def RadioWifiConfig.isStation : RadioWifiConfig → Bool
  | .station .. => true
  | .accessPoint .. => false

/-! ## Runs -/

inductive RadioEvent where
  | command (command : Str) (uptimeMs : ℕ)
  | poll (radio : RadioAnswers) (uptimeMs : ℕ)

namespace WifiRuntime

def step (w : WifiRuntime) : RadioEvent → WifiRuntime
  | .command command uptimeMs =>
    { w with state := (w.state.handleCommand command uptimeMs).state }
  | .poll radio uptimeMs => w.pollWifiRuntime radio uptimeMs

/-- The mode of a running controller is the one configured, or about to become it. -/
def ModeFollows (w : WifiRuntime) : Prop :=
  ∀ config ∈ w.wifiController,
    config.isStation = w.state.homeAssistantConfigured ∨ w.state.wifiReconfigurePending

instance (w : WifiRuntime) : Decidable w.ModeFollows := inferInstanceAs (Decidable (∀ _ ∈ _, _))

/-- What a command may not do to a radio set to `config`: take the node out of its network
without a change pending, or into one. -/
def CommandFollowed (s : FirmwareState) (config : RadioWifiConfig) : DeviceCommand → Prop
  | .homeAssistantConfig payload => ∀ p, parseHomeAssistantConfigPayload payload = .ok p →
      p.wifiSsid = [] ∨ p.mqttHost = [] → config.isStation = false
  | .homeAssistantMqttEndpoint payload =>
    ∀ p, parseHomeAssistantMqttEndpointPayload payload = .ok p →
      p.mqttHost ≠ [] → s.enabled → s.wifiSsid ≠ [] → s.nodeId ≠ [] →
        config.isStation ∨ s.wifiReconfigurePending
  | _ => True

/-- The radio takes the configuration that is pending, unless it has this mode already. -/
def RadioFollows (s : FirmwareState) (config : RadioWifiConfig) (radio : RadioAnswers) : Prop :=
  s.wifiReconfigurePending → radio.setConfig.isOk ∨ config.isStation = s.homeAssistantConfigured

def KeepsMode (w : WifiRuntime) : RadioEvent → Prop
  | .command command _ =>
    ∀ config ∈ w.wifiController, ∀ c ∈ parseDeviceCommand command, CommandFollowed w.state config c
  | .poll radio _ => ∀ config ∈ w.wifiController, RadioFollows w.state config radio

end WifiRuntime

/-- From boot on. -/
def radioMachine : Machine WifiRuntime RadioEvent where
  start w := ∃ mac settings, w = { state := FirmwareState.bootState mac settings }
  step w e := some (w.step e)

/-! ## What decides the mode -/

namespace FirmwareState

/-- Whether the node is configured and whether a change is pending. -/
def modeRequest (s : FirmwareState) : Bool × Bool :=
  (s.homeAssistantConfigured, s.wifiReconfigurePending)

theorem isStation_buildRadioConfig (s : FirmwareState) :
    s.buildRadioConfig.isStation = s.homeAssistantConfigured := by
  unfold buildRadioConfig
  split
  · rename_i hconfigured
    exact hconfigured.symm
  · rename_i hconfigured
    exact (Bool.eq_false_of_not_eq_true hconfigured).symm

@[simp] theorem modeRequest_syncIpConfig (s : FirmwareState) (config : Option StackConfigV4) :
    (s.syncIpConfig config).modeRequest = s.modeRequest := by
  cases config <;> rfl

@[simp] theorem modeRequest_attemptWifiConnect (s : FirmwareState) (radio : RadioAnswers)
    (uptimeMs : ℕ) : (s.attemptWifiConnect radio uptimeMs).modeRequest = s.modeRequest := by
  unfold attemptWifiConnect
  cases radio.connect with
  | connected channel bssid => rfl
  | failed err => cases err <;> rfl
  | timedOut => rfl

@[simp] theorem modeRequest_noteLink (s : FirmwareState) (radio : RadioAnswers) (uptimeMs : ℕ) :
    (s.noteLink radio uptimeMs).modeRequest = s.modeRequest := by
  unfold noteLink
  dsimp only
  split
  · cases radio.apInfo <;> cases radio.rssi <;> rfl
  · rfl

@[simp] theorem modeRequest_noteNoLink (s : FirmwareState) :
    s.noteNoLink.modeRequest = s.modeRequest := by
  unfold noteNoLink
  split_ifs <;> rfl

@[simp] theorem modeRequest_watchLink (s : FirmwareState) (radio : RadioAnswers) (uptimeMs : ℕ) :
    (WifiRuntime.watchLink s radio uptimeMs).modeRequest = s.modeRequest := by
  unfold WifiRuntime.watchLink
  split
  · exact s.modeRequest_noteLink radio uptimeMs
  · dsimp only
    split
    · rw [modeRequest_attemptWifiConnect, modeRequest_noteNoLink]
    · exact s.modeRequest_noteNoLink

/-! ### Commands -/

theorem defaultNodeId_ne_nil (mac : Vector UInt8 6) : defaultNodeId mac ≠ [] := by
  have hprefix : defaultNodeIdPrefix ≠ [] := by decide
  exact List.append_ne_nil_of_left_ne_nil hprefix _

/-- A full configuration asks for what it says. -/
theorem modeRequest_applyHomeAssistantConfig (s : FirmwareState) (p : HomeAssistantConfigPayload) :
    (s.applyHomeAssistantConfig p).modeRequest =
      (decide (p.wifiSsid ≠ [] ∧ p.mqttHost ≠ []), decide (p.wifiSsid ≠ [] ∧ p.mqttHost ≠ [])) := by
  have hnode : (if p.nodeId = [] then defaultNodeId s.macAddress else p.nodeId) ≠ [] := by
    split
    · exact defaultNodeId_ne_nil _
    · assumption
  refine disconnectedIf_rule (Q := fun t => t.modeRequest = (decide (p.wifiSsid ≠ [] ∧ p.mqttHost ≠ []),
    decide (p.wifiSsid ≠ [] ∧ p.mqttHost ≠ []))) _ _ id ?_
  rw [modeRequest, homeAssistantConfigured, homeAssistantConfigured]
  simp only [hnode, ne_eq, not_false_eq_true, decide_true, Bool.true_and, Bool.and_true,
    Bool.decide_and]

theorem homeAssistantConfigured_applyHomeAssistantMqttEndpoint (s : FirmwareState)
    (p : HomeAssistantMqttEndpointPayload) :
    (s.applyHomeAssistantMqttEndpoint p).homeAssistantConfigured =
      if p.mqttHost = [] then s.homeAssistantConfigured
      else s.enabled && s.wifiSsid ≠ [] && s.nodeId ≠ [] := by
  rw [homeAssistantConfigured, homeAssistantConfigured]
  by_cases hhost : p.mqttHost = []
  · simp [applyHomeAssistantMqttEndpoint, markMqttRuntimeDirty, hhost]
  · simp [applyHomeAssistantMqttEndpoint, markMqttRuntimeDirty, hhost]

/-- Only two commands touch the request. -/
theorem modeRequest_handleDeviceCommand (s : FirmwareState) (uptimeMs : ℕ) {c : DeviceCommand}
    (hconfig : ∀ payload, c ≠ .homeAssistantConfig payload)
    (hendpoint : ∀ payload, c ≠ .homeAssistantMqttEndpoint payload) :
    (s.handleDeviceCommand uptimeMs c).state.modeRequest = s.modeRequest := by
  exact state_handleDeviceCommand_rule (Q := fun t => t.modeRequest = s.modeRequest) rfl uptimeMs hconfig
    (fun _ => rfl) (fun _ _ _ => rfl) (fun text hc => absurd hc (hendpoint text)) (fun _ => rfl)
    (fun _ => rfl) fun _ => rfl

end FirmwareState

namespace WifiRuntime

theorem follows_applyHomeAssistantConfig_iff (s : FirmwareState) (config : RadioWifiConfig)
    (p : HomeAssistantConfigPayload) :
    (config.isStation = (s.applyHomeAssistantConfig p).homeAssistantConfigured ∨
        (s.applyHomeAssistantConfig p).wifiReconfigurePending) ↔
      (p.wifiSsid = [] ∨ p.mqttHost = [] → config.isStation = false) := by
  obtain ⟨hconfigured, hpending⟩ := Prod.mk.inj (s.modeRequest_applyHomeAssistantConfig p)
  rw [hconfigured, hpending]
  by_cases hssid : p.wifiSsid = [] <;> by_cases hhost : p.mqttHost = [] <;> simp [hssid, hhost]

theorem follows_applyHomeAssistantMqttEndpoint_iff {s : FirmwareState} {config : RadioWifiConfig}
    (h : config.isStation = s.homeAssistantConfigured ∨ s.wifiReconfigurePending)
    (p : HomeAssistantMqttEndpointPayload) :
    (config.isStation = (s.applyHomeAssistantMqttEndpoint p).homeAssistantConfigured ∨
        (s.applyHomeAssistantMqttEndpoint p).wifiReconfigurePending) ↔
      (p.mqttHost ≠ [] → s.enabled → s.wifiSsid ≠ [] → s.nodeId ≠ [] →
        config.isStation ∨ s.wifiReconfigurePending) := by
  have hpending : (s.applyHomeAssistantMqttEndpoint p).wifiReconfigurePending =
    s.wifiReconfigurePending := rfl
  rw [hpending, FirmwareState.homeAssistantConfigured_applyHomeAssistantMqttEndpoint]
  by_cases hhost : p.mqttHost = []
  · rw [if_pos hhost]
    exact iff_of_true h fun hne => absurd hhost hne
  · rw [if_neg hhost]
    by_cases hready : s.enabled ∧ s.wifiSsid ≠ [] ∧ s.nodeId ≠ []
    · simp [hready, hhost]
    · -- without the rest of the settings the address changes nothing
      have hnot : s.homeAssistantConfigured = false := by
        unfold FirmwareState.homeAssistantConfigured
        grind
      have hnone : (s.enabled && decide (s.wifiSsid ≠ []) && decide (s.nodeId ≠ [])) = false := by
        grind
      rw [hnot] at h
      rw [hnone]
      exact iff_of_true h fun _ henabled hssid hnode => absurd ⟨henabled, hssid, hnode⟩ hready

/-- After a command the mode still follows exactly when the command may be followed. -/
theorem follows_handleDeviceCommand_iff {s : FirmwareState} {config : RadioWifiConfig}
    (h : config.isStation = s.homeAssistantConfigured ∨ s.wifiReconfigurePending)
    (uptimeMs : ℕ) (c : DeviceCommand) :
    (config.isStation = (s.handleDeviceCommand uptimeMs c).state.homeAssistantConfigured ∨
        (s.handleDeviceCommand uptimeMs c).state.wifiReconfigurePending) ↔
      CommandFollowed s config c := by
  by_cases hconfig : ∃ payload, c = .homeAssistantConfig payload
  · obtain ⟨payload, rfl⟩ := hconfig
    simp only [FirmwareState.handleDeviceCommand, CommandFollowed]
    cases parseHomeAssistantConfigPayload payload with
    | error e => exact iff_of_true h fun p hp => by cases hp
    | ok p =>
      simp only [Except.ok.injEq, forall_eq']
      exact follows_applyHomeAssistantConfig_iff s config p
  by_cases hendpoint : ∃ payload, c = .homeAssistantMqttEndpoint payload
  · obtain ⟨payload, rfl⟩ := hendpoint
    simp only [FirmwareState.handleDeviceCommand, CommandFollowed]
    cases parseHomeAssistantMqttEndpointPayload payload with
    | error e => exact iff_of_true h fun p hp => by cases hp
    | ok p =>
      simp only [Except.ok.injEq, forall_eq']
      exact follows_applyHomeAssistantMqttEndpoint_iff h p
  · rw [not_exists] at hconfig hendpoint
    obtain ⟨hconfigured, hpending⟩ :=
      Prod.mk.inj (s.modeRequest_handleDeviceCommand uptimeMs hconfig hendpoint)
    rw [hconfigured, hpending]
    refine iff_of_true h ?_
    cases c with
    | homeAssistantConfig payload => exact absurd rfl (hconfig payload)
    | homeAssistantMqttEndpoint payload => exact absurd rfl (hendpoint payload)
    | _ => trivial

/-! ## Rounds -/

theorem modeFollows_of_none {w : WifiRuntime} (hnone : w.wifiController = none) : w.ModeFollows := by
  intro config hconfig
  rw [hnone] at hconfig
  cases hconfig

/-- A round that starts the controller leaves it in the mode configured. -/
theorem modeFollows_installController {w : WifiRuntime} (hnone : w.wifiController = none)
    (radio : RadioAnswers) (uptimeMs : ℕ) : (w.installController radio uptimeMs).ModeFollows := by
  unfold installController
  cases radio.setConfig with
  | error err => exact modeFollows_of_none hnone
  | ok _ =>
    rintro config hconfig
    cases hconfig
    left
    rw [FirmwareState.isStation_buildRadioConfig]
    dsimp only
    split <;> rfl

theorem modeFollows_bringUp {w : WifiRuntime} (hnone : w.wifiController = none)
    (radio : RadioAnswers) (uptimeMs : ℕ) : (w.bringUp radio uptimeMs).ModeFollows := by
  have heffect := w.bringUpEffect_bringUp radio uptimeMs
  generalize w.bringUp radio uptimeMs = v at heffect
  cases heffect with
  | installed hprepared _ _ =>
    exact modeFollows_installController (hprepared.wifiController.trans hnone) radio uptimeMs
  | networkFailed err hprepared _ _ =>
    exact modeFollows_of_none (hprepared.wifiController.trans hnone)
  | newFailed err _ => exact modeFollows_of_none hnone

theorem modeFollows_reconfigure_iff {w : WifiRuntime} {config : RadioWifiConfig}
    (hconfig : w.wifiController = some config) (radio : RadioAnswers) (uptimeMs : ℕ) :
    (w.reconfigure radio uptimeMs).ModeFollows ↔
      radio.setConfig.isOk ∨ config.isStation = w.state.homeAssistantConfigured := by
  unfold reconfigure
  cases radio.setConfig with
  | ok _ =>
    refine iff_of_true ?_ (Or.inl rfl)
    rintro applied ⟨⟩
    left
    rw [FirmwareState.isStation_buildRadioConfig]
    dsimp only
    split
    · have hattempt := FirmwareState.modeRequest_attemptWifiConnect
        { w.state with wifiRuntimeStarted := true } radio uptimeMs
      exact (Prod.mk.inj hattempt).1.symm
    · rfl
  | error err =>
    constructor
    · intro hfollows
      exact Or.inr ((hfollows config hconfig).resolve_right Bool.false_ne_true)
    · intro hfollows kept hkept
      cases hkept.symm.trans hconfig
      exact Or.inl (hfollows.resolve_left Bool.false_ne_true)

/-- The next round applies what is pending, or gives it up. -/
theorem modeFollows_serviceController_iff {w : WifiRuntime} {config : RadioWifiConfig}
    (hconfig : w.wifiController = some config) (h : w.ModeFollows) (radio : RadioAnswers)
    (uptimeMs : ℕ) :
    (w.serviceController radio uptimeMs).ModeFollows ↔ RadioFollows w.state config radio := by
  have hwatched (v : WifiRuntime) :
      ({ v with state := watchLink v.state radio uptimeMs } : WifiRuntime).ModeFollows ↔
        v.ModeFollows := by
    obtain ⟨hconfigured, hpending⟩ :=
      Prod.mk.inj (FirmwareState.modeRequest_watchLink v.state radio uptimeMs)
    simp only [ModeFollows, hconfigured, hpending]
  unfold serviceController
  dsimp only
  rw [hwatched]
  split
  · rename_i hpending
    have hreconfigured := modeFollows_reconfigure_iff (w := { w with
      state := { w.state with wifiChannel := radio.channel.getD w.state.wifiChannel } }) hconfig
        radio uptimeMs
    rw [hreconfigured]
    exact ⟨fun hfollows _ => hfollows, fun hfollows => hfollows hpending⟩
  · rename_i hquiet
    exact iff_of_true h fun hpending => absurd hpending hquiet

/-- A round starts the controller, serves it, or has nothing to start it from; the addresses
noted first ask for no other mode. -/
inductive PollEffect (w : WifiRuntime) (radio : RadioAnswers) (uptimeMs : ℕ) :
    WifiRuntime → Prop where
  | served {s : FirmwareState} {config : RadioWifiConfig} :
      s.modeRequest = w.state.modeRequest → w.wifiController = some config →
      PollEffect w radio uptimeMs (serviceController { w with state := s } radio uptimeMs)
  | started {s : FirmwareState} :
      s.modeRequest = w.state.modeRequest → w.wifiController = none → w.wifiDevice →
      PollEffect w radio uptimeMs
        (bringUp { w with state := s, wifiDevice := false } radio uptimeMs)
  | idle {s : FirmwareState} : w.wifiController = none → w.wifiDevice = false →
      PollEffect w radio uptimeMs { w with state := s }

theorem pollEffect_pollWifiRuntime (w : WifiRuntime) (radio : RadioAnswers) (uptimeMs : ℕ) :
    PollEffect w radio uptimeMs (w.pollWifiRuntime radio uptimeMs) := by
  unfold pollWifiRuntime
  set s := if w.stationStack then w.state.syncIpConfig radio.configV4 else w.state.clearIpConfig
    with hs
  have hrequest : s.modeRequest = w.state.modeRequest := by
    rw [hs]
    split
    · exact w.state.modeRequest_syncIpConfig radio.configV4
    · rfl
  dsimp only
  split
  · rename_i hnone
    split
    · rename_i hdevice
      exact .started hrequest hnone hdevice
    · rename_i hdevice
      exact .idle hnone (Bool.eq_false_of_not_eq_true hdevice)
  · rename_i config hconfig
    exact .served hrequest hconfig

theorem modeFollows_pollWifiRuntime_iff {w : WifiRuntime} (h : w.ModeFollows) (radio : RadioAnswers)
    (uptimeMs : ℕ) : (w.pollWifiRuntime radio uptimeMs).ModeFollows ↔
      ∀ config ∈ w.wifiController, RadioFollows w.state config radio := by
  have heffect := w.pollEffect_pollWifiRuntime radio uptimeMs
  generalize w.pollWifiRuntime radio uptimeMs = v at heffect
  cases heffect with
  | @served s config hrequest hconfig =>
    obtain ⟨hconfigured, hpending⟩ := Prod.mk.inj hrequest
    have hs : ({ w with state := s } : WifiRuntime).ModeFollows := by
      simp only [ModeFollows, hconfigured, hpending]
      exact h
    rw [modeFollows_serviceController_iff (w := { w with state := s }) hconfig hs radio uptimeMs]
    simp only [RadioFollows, hconfigured, hpending, hconfig, Option.mem_def, Option.some.injEq,
      forall_eq']
  | started _ hnone _ =>
    refine iff_of_true ?_ ?_
    · refine modeFollows_bringUp ?_ radio uptimeMs
      exact hnone
    · rw [hnone]
      exact nofun
  | idle hnone _ =>
    refine iff_of_true (modeFollows_of_none hnone) ?_
    rw [hnone]
    exact nofun

/-- One step from a state in which the mode follows. -/
theorem keepsMode_iff {w : WifiRuntime} (h : w.ModeFollows) (e : RadioEvent) :
    KeepsMode w e ↔ (w.step e).ModeFollows := by
  cases e with
  | poll radio uptimeMs => exact (modeFollows_pollWifiRuntime_iff h radio uptimeMs).symm
  | command command uptimeMs =>
    refine forall₂_congr fun config hconfig => ?_
    rw [step, FirmwareState.state_handleCommand]
    cases parseDeviceCommand command with
    | none => exact iff_of_true nofun (h config hconfig)
    | some c =>
      rw [Option.map_some, Option.getD_some, follows_handleDeviceCommand_iff (h config hconfig)]
      simp only [Option.mem_def, Option.some.injEq, forall_eq']

end WifiRuntime

open WifiRuntime

/-- The mode of the radio follows the configuration in every run whose commands and rounds
let it, and these are exactly the steps after which it still does. -/
theorem radioMode_follows_iff (w : WifiRuntime) :
    (radioMachine.Reach KeepsMode w → w.ModeFollows) ∧
      (radioMachine.Reach Machine.Always w → w.ModeFollows →
        ∀ e w', radioMachine.step w e = some w' → (KeepsMode w e ↔ w'.ModeFollows)) := by
  refine ⟨fun h => h.invariant ?_ ?_, fun _ hfollows e w' hstep => ?_⟩
  · rintro w ⟨mac, settings, rfl⟩
    exact modeFollows_of_none rfl
  · rintro w e w' hfollows hkeeps ⟨⟩
    exact (keepsMode_iff hfollows e).1 hkeeps
  · cases hstep
    exact keepsMode_iff hfollows e

/-- A node without settings is an access point, then gets its settings, which the radio
does not take. -/
def refusedRun : List RadioEvent :=
  [.poll {} 0, .command "ha_config:net|secret|10.0.0.2|1883||||" 10,
    .poll { setConfig := .error .failed } 20]

/-- It stays an access point, with nothing pending. -/
theorem radioMode_stuck : ¬ ∀ w, radioMachine.Reach Machine.Always w → w.ModeFollows := by
  intro hall
  have hstart : radioMachine.Reach Machine.Always _ :=
    Machine.Reach.start ⟨Vector.replicate 6 0, some {}, rfl⟩
  obtain ⟨w, hreach, hstuck⟩ := Machine.exists_reach_of_run (P := fun w => ¬ w.ModeFollows) hstart
    refusedRun (by decide +kernel)
  exact hstuck (hall w hreach)

/-! ## Bringing the radio up -/

namespace WifiRuntime

/-- There is a controller, or a device to make one from. -/
def Retryable (w : WifiRuntime) : Prop := w.wifiController.isSome ∨ w.wifiDevice

instance (w : WifiRuntime) : Decidable w.Retryable := inferInstanceAs (Decidable (_ ∨ _))

/-- A round that takes the device makes a controller from it. -/
def StartSucceeds (w : WifiRuntime) : RadioEvent → Prop
  | .command _ _ => True
  | .poll radio _ => w.wifiController = none → w.wifiDevice →
      NetworkStarts w radio ∧ radio.setConfig.isOk

/-- As long as the device is there, nothing has been initialised. -/
structure CellsOnce (w : WifiRuntime) : Prop where
  unused : w.wifiDevice → w.staticCells = []
  nodup : w.staticCells.Nodup

theorem installController_rest (w : WifiRuntime) (radio : RadioAnswers) (uptimeMs : ℕ) :
    (w.installController radio uptimeMs).wifiDevice = w.wifiDevice ∧
      (w.installController radio uptimeMs).staticCells = w.staticCells := by
  unfold installController
  cases radio.setConfig <;> exact ⟨rfl, rfl⟩

theorem isSome_installController_iff {w : WifiRuntime} (hnone : w.wifiController = none)
    (radio : RadioAnswers) (uptimeMs : ℕ) :
    (w.installController radio uptimeMs).wifiController.isSome ↔ radio.setConfig.isOk := by
  unfold installController
  cases radio.setConfig with
  | ok _ => exact iff_of_true rfl rfl
  | error err =>
    refine iff_of_false ?_ Bool.false_ne_true
    simp only [controllerFailed, hnone, Option.isSome_none, Bool.false_eq_true, not_false_eq_true]

/-- A start makes a controller exactly when each of its parts succeeds; the device is gone
either way. -/
theorem bringUp_spec {w : WifiRuntime} (hnone : w.wifiController = none) (radio : RadioAnswers)
    (uptimeMs : ℕ) :
    ((w.bringUp radio uptimeMs).wifiController.isSome ↔
        NetworkStarts w radio ∧ radio.setConfig.isOk) ∧
      (w.bringUp radio uptimeMs).wifiDevice = w.wifiDevice ∧
      ∃ cells, cells.Sublist networkCells ∧
        (w.bringUp radio uptimeMs).staticCells = w.staticCells ++ cells := by
  have heffect := w.bringUpEffect_bringUp radio uptimeMs
  generalize w.bringUp radio uptimeMs = v at heffect
  cases heffect with
  | @installed u cells hprepared hcells hstarts =>
    obtain ⟨hdevice, hstatic⟩ := u.installController_rest radio uptimeMs
    refine ⟨?_, hdevice.trans hprepared.wifiDevice, cells, hcells,
      hstatic.trans hprepared.staticCells⟩
    rw [isSome_installController_iff (hprepared.wifiController.trans hnone)]
    exact (and_iff_right hstarts).symm
  | @networkFailed u cells err hprepared hcells hfailed =>
    refine ⟨?_, hprepared.wifiDevice, cells, hcells, hprepared.staticCells⟩
    rw [networkFailed, hprepared.wifiController, hnone]
    exact iff_of_false Bool.false_ne_true fun h => hfailed h.1
  | newFailed err hfailed =>
    refine ⟨?_, rfl, [], List.nil_sublist _, (List.append_nil _).symm⟩
    rw [controllerFailed, hnone]
    exact iff_of_false Bool.false_ne_true fun h => hfailed h.1

/-- A running controller keeps running. -/
theorem serviceController_spec (w : WifiRuntime) (radio : RadioAnswers) (uptimeMs : ℕ) :
    (w.wifiController.isSome → (w.serviceController radio uptimeMs).wifiController.isSome) ∧
      (w.serviceController radio uptimeMs).wifiDevice = w.wifiDevice ∧
      (w.serviceController radio uptimeMs).staticCells = w.staticCells := by
  unfold serviceController reconfigure
  dsimp only
  split
  · cases radio.setConfig with
    | ok _ => exact ⟨fun _ => rfl, rfl, rfl⟩
    | error err => exact ⟨id, rfl, rfl⟩
  · exact ⟨id, rfl, rfl⟩

theorem CellsOnce.poll {w : WifiRuntime} (h : w.CellsOnce) (radio : RadioAnswers) (uptimeMs : ℕ) :
    (w.pollWifiRuntime radio uptimeMs).CellsOnce := by
  have heffect := w.pollEffect_pollWifiRuntime radio uptimeMs
  generalize w.pollWifiRuntime radio uptimeMs = v at heffect
  cases heffect with
  | @served s config _ _ =>
    obtain ⟨-, hdevice, hcells⟩ := serviceController_spec { w with state := s } radio uptimeMs
    refine ⟨fun h' => hcells.trans (h.unused (hdevice.symm.trans h')), ?_⟩
    rw [hcells]
    exact h.nodup
  | @started s _ hnone havailable =>
    obtain ⟨-, hdevice, cells, hsublist, hcells⟩ :=
      bringUp_spec (w := { w with state := s, wifiDevice := false }) hnone radio uptimeMs
    refine ⟨fun h' => absurd (hdevice.symm.trans h') Bool.false_ne_true, ?_⟩
    rw [hcells, h.unused havailable, List.nil_append]
    exact nodup_networkCells.sublist hsublist
  | idle _ _ => exact ⟨h.unused, h.nodup⟩

theorem networkStarts_congr {w : WifiRuntime} {s : FirmwareState} {radio : RadioAnswers}
    (h : s.modeRequest = w.state.modeRequest) :
    NetworkStarts { w with state := s, wifiDevice := false } radio ↔ NetworkStarts w radio := by
  have hconfigured : s.homeAssistantConfigured = w.state.homeAssistantConfigured :=
    (Prod.mk.inj h).1
  simp only [NetworkStarts, FirmwareState.wifiRunsAccessPoint, hconfigured]

/-- A step leaves something to try with exactly when its start, if it is one, succeeds. -/
theorem startSucceeds_iff {w : WifiRuntime} (h : w.Retryable) (e : RadioEvent) :
    StartSucceeds w e ↔ (w.step e).Retryable := by
  cases e with
  | command command uptimeMs => exact iff_of_true trivial h
  | poll radio uptimeMs =>
    rw [WifiRuntime.step]
    have heffect := w.pollEffect_pollWifiRuntime radio uptimeMs
    generalize w.pollWifiRuntime radio uptimeMs = v at heffect
    cases heffect with
    | @served s config _ hconfig =>
      refine iff_of_true (fun hnone => ?_) (Or.inl ?_)
      · rw [hconfig] at hnone
        cases hnone
      · exact (serviceController_spec { w with state := s } radio uptimeMs).1 (hconfig ▸ rfl)
    | @started s hrequest hnone havailable =>
      obtain ⟨hinstalled, hdevice, -⟩ :=
        bringUp_spec (w := { w with state := s, wifiDevice := false }) hnone radio uptimeMs
      rw [Retryable, hinstalled, hdevice, networkStarts_congr hrequest]
      exact ⟨fun hstarts => Or.inl (hstarts hnone havailable),
        fun hstarts _ _ => hstarts.resolve_right Bool.false_ne_true⟩
    | idle hnone hdevice =>
      refine absurd h ?_
      rw [Retryable, hnone, hdevice]
      exact not_or.2 ⟨Bool.false_ne_true, Bool.false_ne_true⟩

end WifiRuntime

/-- Starting the radio can be tried again in every run whose starts succeed, and these are
exactly the rounds after which it can; no static cell is initialised twice in any run. -/
theorem bringUp_retryable_iff (w : WifiRuntime) :
    (radioMachine.Reach StartSucceeds w → w.Retryable) ∧
      (radioMachine.Reach Machine.Always w → w.staticCells.Nodup ∧
        (w.Retryable → ∀ e w', radioMachine.step w e = some w' →
          (StartSucceeds w e ↔ w'.Retryable))) := by
  refine ⟨fun h => h.invariant ?_ ?_, fun h => ⟨?_, fun hretryable e w' hstep => ?_⟩⟩
  · rintro w ⟨mac, settings, rfl⟩
    exact Or.inr rfl
  · rintro w e w' hretryable hsucceeds ⟨⟩
    exact (startSucceeds_iff hretryable e).1 hsucceeds
  · refine CellsOnce.nodup (h.invariant ?_ ?_)
    · rintro w ⟨mac, settings, rfl⟩
      exact ⟨fun _ => rfl, List.nodup_nil⟩
    · rintro w e w' hcells - ⟨⟩
      cases e with
      | command command uptimeMs => exact ⟨hcells.unused, hcells.nodup⟩
      | poll radio uptimeMs => exact hcells.poll radio uptimeMs
  · cases hstep
    exact startSucceeds_iff hretryable e

/-- The driver fails once. -/
def failedStart : RadioEvent := .poll { new := .error .outOfMemory } 0

/-- The device is gone, and no later round can start the radio. -/
theorem bringUp_lost : ¬ ∀ w, radioMachine.Reach Machine.Always w → w.Retryable := by
  intro hall
  have hstart : radioMachine.Reach Machine.Always _ :=
    Machine.Reach.start ⟨Vector.replicate 6 0, some {}, rfl⟩
  obtain ⟨w, hreach, hlost⟩ := Machine.exists_reach_of_run (P := fun w => ¬ w.Retryable) hstart
    [failedStart] (by decide +kernel)
  exact hlost (hall w hreach)

end EspWaveRider.Firmware
