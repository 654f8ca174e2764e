import EspWaveRider.Firmware.WifiRuntime
import EspWaveRider.Firmware.MqttTask
import EspWaveRider.Firmware.Peers

/-!
# The main loop and the MQTT task

`process_mqtt_runtime` of `rust/firmware/esp32s3/src/main.rs`: what the task reports is
noted, and the task is told when its configuration or the link has changed.

* `FirmwareState.processMqttRuntime` — one call, with the commands it sends;
* `MqttRuntime` — a node with the Configure command sent last;
* `announced_config_current` — while nothing is left to announce, that command holds the
  configuration of the node.
-/

namespace EspWaveRider.Firmware

open Text ChangeCounter

def mqttSummaryPublishMs : ℕ := 5000

namespace FirmwareState

def applyMqttStatus (s : FirmwareState) (status : MqttTaskStatus) : FirmwareState :=
  { s with
    mqttConnected := status.connected
    mqttState := status.state
    mqttStateText := status.stateText.items
    mqttHostIp := status.hostIp.items }

def applyMqttEvent (uptimeMs : ℕ) (s : FirmwareState) : MqttTaskEvent → FirmwareState
  | .status status => s.applyMqttStatus status
  | .roomSummary payload => s.syncRoomSummaryPeer payload.items uptimeMs

/-- `sent` tells whether the channel takes the command. -/
def announceMqttConfig (s : FirmwareState) (sent : Bool) : FirmwareState × List MqttTaskCommand :=
  if s.mqttRuntimeGeneration ≠ s.mqttRuntimeAnnouncedGeneration ∨
      s.wifiConnected ≠ s.mqttRuntimeAnnouncedWifiConnected then
    if sent then
      ({ s with
          mqttRuntimeAnnouncedGeneration := s.mqttRuntimeGeneration
          mqttRuntimeAnnouncedWifiConnected := s.wifiConnected },
        [.configure s.mqttTaskConfig])
    else (s, [])
  else (s, [])

def publishRoomSummary (s : FirmwareState) (uptimeMs : ℕ) (sent : Bool) :
    FirmwareState × List MqttTaskCommand :=
  if s.wifiConnected && uptimeMs - s.lastMqttRoomSummaryPublishMs ≥ mqttSummaryPublishMs then
    match buildRoomSummaryPayload s uptimeMs with
    | some payload =>
      if sent then
        ({ s with lastMqttRoomSummaryPublishMs := uptimeMs },
          [.publish (buildRoomSummaryPublishMessage s payload)])
      else (s, [])
    | none => (s, [])
  else (s, [])

/-- One call: `events` is what the event channel holds, and the channel for commands takes
each of the two commands or does not. -/
def processMqttRuntime (s : FirmwareState) (events : List MqttTaskEvent) (uptimeMs : ℕ)
    (configSent summarySent : Bool) : FirmwareState × List MqttTaskCommand :=
  let s := events.foldl (applyMqttEvent uptimeMs) s
  let (s, configure) := s.announceMqttConfig configSent
  let (s, publish) := s.publishRoomSummary uptimeMs summarySent
  (s, configure ++ publish)

/-! ## What a call leaves alone -/

/-- A report of the task does not touch the settings. -/
theorem marksMqtt_applyMqttEvent (uptimeMs : ℕ) (s : FirmwareState) (event : MqttTaskEvent) :
    MarksMqtt 0 s (s.applyMqttEvent uptimeMs event) := by
  cases event with
  | status status => exact ⟨rfl, rfl, rfl, fun _ => rfl⟩
  | roomSummary payload =>
    obtain ⟨peers, hsync⟩ := s.syncRoomSummaryPeer_eq payload.items uptimeMs
    rw [applyMqttEvent, hsync]
    exact ⟨rfl, rfl, rfl, fun _ => rfl⟩

theorem marksMqtt_applyMqttEvents (uptimeMs : ℕ) (s : FirmwareState) (events : List MqttTaskEvent) :
    MarksMqtt 0 s (events.foldl (applyMqttEvent uptimeMs) s) := by
  induction events generalizing s with
  | nil => exact s.marksMqtt_refl
  | cons event events ih =>
    exact (marksMqtt_applyMqttEvent uptimeMs s event).trans (ih _)

theorem announceMqttConfig_cases (s : FirmwareState) (sent : Bool) :
    s.announceMqttConfig sent = (s, []) ∨
      s.announceMqttConfig sent =
        ({ s with
            mqttRuntimeAnnouncedGeneration := s.mqttRuntimeGeneration
            mqttRuntimeAnnouncedWifiConnected := s.wifiConnected },
          [.configure s.mqttTaskConfig]) := by
  unfold announceMqttConfig
  split
  · split
    · exact Or.inr rfl
    · exact Or.inl rfl
  · exact Or.inl rfl

/-- A room summary is no Configure command. -/
theorem publishRoomSummary_cases (s : FirmwareState) (uptimeMs : ℕ) (sent : Bool) :
    s.publishRoomSummary uptimeMs sent = (s, []) ∨
      ∃ message, s.publishRoomSummary uptimeMs sent =
        ({ s with lastMqttRoomSummaryPublishMs := uptimeMs }, [.publish message]) := by
  unfold publishRoomSummary
  split
  · split
    · split
      · exact Or.inr ⟨_, rfl⟩
      · exact Or.inl rfl
    · exact Or.inl rfl
  · exact Or.inl rfl

end FirmwareState

/-! ## A node and what it announced -/

structure MqttRuntime where
  wifi : WifiRuntime
  /-- The Configure command sent last, with the marks since. -/
  last : Option (Announcement MqttTaskConfig)

inductive MqttRuntimeEvent where
  | command (command : HString 256) (uptimeMs : ℕ)
  | wifi (radio : RadioAnswers) (uptimeMs : ℕ)
  | mqtt (events : List MqttTaskEvent) (uptimeMs : ℕ) (configSent summarySent : Bool)

def MqttTaskCommand.config : MqttTaskCommand → Option MqttTaskConfig
  | .configure next => some next
  | .publish _ => none

namespace MqttRuntime

/-- The marks that were made are added up. -/
def advance (r : MqttRuntime) (wifi : WifiRuntime) : MqttRuntime :=
  { wifi
    last := r.last.map (·.mark (distance u32Max r.wifi.state.mqttRuntimeGeneration
      wifi.state.mqttRuntimeGeneration)) }

def step (r : MqttRuntime) : MqttRuntimeEvent → MqttRuntime
  | .command command uptimeMs =>
    r.advance { r.wifi with state := (r.wifi.state.handleCommand command.items uptimeMs).state }
  | .wifi radio uptimeMs => r.advance (r.wifi.pollWifiRuntime radio uptimeMs)
  | .mqtt events uptimeMs configSent summarySent =>
    let (state, commands) := r.wifi.state.processMqttRuntime events uptimeMs configSent summarySent
    let sent := (commands.filterMap (·.config)).getLast?
    { wifi := { r.wifi with state }
      last := (sent.map fun config => ⟨config, 0⟩).or r.last }

/-- Nothing is left to announce. -/
def Announced (r : MqttRuntime) : Prop :=
  r.wifi.state.mqttRuntimeGeneration = r.wifi.state.mqttRuntimeAnnouncedGeneration ∧
    r.wifi.state.wifiConnected = r.wifi.state.mqttRuntimeAnnouncedWifiConnected

instance (r : MqttRuntime) : Decidable r.Announced := inferInstanceAs (Decidable (_ ∧ _))

/-- Fewer than `2 ^ 32 - 1` marks follow the last Configure command. -/
def FewMarks (r : MqttRuntime) (e : MqttRuntimeEvent) : Prop :=
  ∀ a ∈ (r.step e).last, a.marks < u32Max

instance (r : MqttRuntime) (e : MqttRuntimeEvent) : Decidable (FewMarks r e) :=
  inferInstanceAs (Decidable (∀ a ∈ _, _))

end MqttRuntime

open MqttRuntime

/-- From boot on. -/
def mqttRuntimeMachine : Machine MqttRuntime MqttRuntimeEvent where
  start r := ∃ mac settings, r = ⟨{ state := FirmwareState.bootState mac settings }, none⟩
  step r e := some (r.step e)

namespace MqttRuntime

/-- Settings, counter and last command belong together. -/
def Consistent (r : MqttRuntime) : Prop :=
  Follows u32Max r.wifi.state.announcedSettings r.wifi.state.mqttRuntimeGeneration
    r.wifi.state.mqttRuntimeAnnouncedGeneration r.last

theorem generation_bootState (mac : Vector UInt8 6) (settings : Option Nvs) :
    (FirmwareState.bootState mac settings).mqttRuntimeAnnouncedGeneration = 0 ∧
      ((FirmwareState.bootState mac settings).mqttRuntimeGeneration = 1 ∨
        (FirmwareState.bootState mac settings).mqttRuntimeGeneration = 2) := by
  cases settings with
  | none => exact ⟨rfl, Or.inl rfl⟩
  | some settings =>
    show (FirmwareState.loadPersistedConfig _ settings).mqttRuntimeAnnouncedGeneration = 0 ∧
      ((FirmwareState.loadPersistedConfig _ settings).mqttRuntimeGeneration = 1 ∨
        (FirmwareState.loadPersistedConfig _ settings).mqttRuntimeGeneration = 2)
    unfold FirmwareState.loadPersistedConfig
    dsimp only
    split
    · exact ⟨rfl, Or.inr rfl⟩
    · exact ⟨rfl, Or.inl rfl⟩

theorem consistent_boot (mac : Vector UInt8 6) (settings : Option Nvs) :
    Consistent ⟨{ state := FirmwareState.bootState mac settings }, none⟩ := by
  obtain ⟨hannounced, hgeneration⟩ := generation_bootState mac settings
  rw [Consistent, hannounced]
  rcases hgeneration with hone | htwo
  · rw [hone]
    exact Follows.of_none le_rfl (by decide)
  · rw [htwo]
    exact Follows.of_none (by decide) (by decide)

/-- What is added up are the marks that were made. -/
theorem Consistent.distance_eq {r : MqttRuntime} (h : r.Consistent) {wifi : WifiRuntime} {k : ℕ}
    (hk : k ≤ 2) (hmarks : MarksMqtt k r.wifi.state wifi.state) :
    distance u32Max r.wifi.state.mqttRuntimeGeneration wifi.state.mqttRuntimeGeneration = k := by
  have hmax : u32Max = 4294967295 := rfl
  rw [hmarks.generation]
  exact distance_iterate_next h.low h.high (by omega)

/-- Marks of the settings keep it. -/
theorem Consistent.advance {r : MqttRuntime} (h : r.Consistent) {wifi : WifiRuntime}
    (hmarks : MarksAtMost 2 r.wifi.state wifi.state) : (r.advance wifi).Consistent := by
  obtain ⟨k, hk, hmarks⟩ := hmarks
  rw [MqttRuntime.advance, h.distance_eq hk hmarks, Consistent]
  simp only [hmarks.generation, hmarks.announcedGeneration]
  exact Follows.mark h k hmarks.settings

/-- So does a call of `process_mqtt_runtime`. -/
theorem Consistent.mqtt {r : MqttRuntime} (h : r.Consistent) (events : List MqttTaskEvent)
    (uptimeMs : ℕ) (configSent summarySent : Bool) :
    (r.step (.mqtt events uptimeMs configSent summarySent)).Consistent := by
  have hevents := FirmwareState.marksMqtt_applyMqttEvents uptimeMs r.wifi.state events
  unfold MqttRuntime.step FirmwareState.processMqttRuntime
  dsimp only
  generalize events.foldl (FirmwareState.applyMqttEvent uptimeMs) r.wifi.state = s at hevents
  have hs : Follows u32Max s.announcedSettings s.mqttRuntimeGeneration
      s.mqttRuntimeAnnouncedGeneration r.last := by
    rw [hevents.settings rfl, hevents.generation, hevents.announcedGeneration]
    exact h
  rcases s.announceMqttConfig_cases configSent with hkept | hsent
  · rw [hkept]
    rcases s.publishRoomSummary_cases uptimeMs summarySent with hquiet | ⟨message, hsummary⟩
    · simp only [hquiet]
      exact hs
    · simp only [hsummary]
      exact hs
  · rw [hsent]
    set t : FirmwareState := { s with
      mqttRuntimeAnnouncedGeneration := s.mqttRuntimeGeneration
      mqttRuntimeAnnouncedWifiConnected := s.wifiConnected } with ht
    have hannounced : Follows u32Max t.announcedSettings t.mqttRuntimeGeneration
        t.mqttRuntimeAnnouncedGeneration (some ⟨s.mqttTaskConfig, 0⟩) :=
      hs.announce s.mqttTaskConfig
    rcases t.publishRoomSummary_cases uptimeMs summarySent with hquiet | ⟨message, hsummary⟩
    · simp only [hquiet]
      exact hannounced
    · simp only [hsummary]
      exact hannounced

theorem Consistent.step {r : MqttRuntime} (h : r.Consistent) (e : MqttRuntimeEvent) :
    (r.step e).Consistent := by
  cases e with
  | command command uptimeMs =>
    exact h.advance (marksAtMost_of_commandEffect
      (FirmwareState.commandEffect_handleCommand _ command.items uptimeMs))
  | wifi radio uptimeMs => exact h.advance (r.wifi.marksAtMost_pollWifiRuntime radio uptimeMs)
  | mqtt events uptimeMs configSent summarySent =>
    exact h.mqtt events uptimeMs configSent summarySent

/-- In every run, and with few marks after the last command in those with few of them. -/
theorem consistent_of_reach {r : MqttRuntime} (h : mqttRuntimeMachine.Reach FewMarks r) :
    r.Consistent ∧ ∀ a ∈ r.last, a.marks < u32Max := by
  refine h.invariant (I := fun r => r.Consistent ∧ ∀ a ∈ r.last, a.marks < u32Max) ?_ ?_
  · rintro r ⟨mac, settings, rfl⟩
    exact ⟨consistent_boot mac settings, nofun⟩
  · rintro r e r' ⟨hconsistent, -⟩ hfew hstep
    cases hstep
    exact ⟨hconsistent.step e, hfew⟩

/-- A call whose Configure command is taken leaves nothing to announce. -/
theorem announced_mqtt (r : MqttRuntime) (events : List MqttTaskEvent) (uptimeMs : ℕ)
    (summarySent : Bool) : (r.step (.mqtt events uptimeMs true summarySent)).Announced := by
  unfold MqttRuntime.step FirmwareState.processMqttRuntime
  dsimp only
  generalize events.foldl (FirmwareState.applyMqttEvent uptimeMs) r.wifi.state = s
  have hpublished (t : FirmwareState)
      (ht : t.mqttRuntimeGeneration = t.mqttRuntimeAnnouncedGeneration ∧
        t.wifiConnected = t.mqttRuntimeAnnouncedWifiConnected) (wifi : WifiRuntime)
      (last : Option (Announcement MqttTaskConfig)) :
      Announced ⟨{ wifi with state := (t.publishRoomSummary uptimeMs summarySent).1 }, last⟩ := by
    rcases t.publishRoomSummary_cases uptimeMs summarySent with hquiet | ⟨message, hsummary⟩
    · rw [hquiet]
      exact ht
    · rw [hsummary]
      exact ht
  refine hpublished _ ?_ r.wifi _
  unfold FirmwareState.announceMqttConfig
  split
  · exact ⟨rfl, rfl⟩
  · rename_i hsame
    simpa only [not_or, not_not] using hsame

end MqttRuntime

/-- While nothing is left to announce, the Configure command sent last holds the
configuration of the node. -/
theorem announced_config_current (r : MqttRuntime) (h : mqttRuntimeMachine.Reach FewMarks r)
    (hannounced : r.Announced) : r.last.map (·.settings) = some r.wifi.state.mqttTaskConfig := by
  obtain ⟨hconsistent, hmarks⟩ := consistent_of_reach h
  rw [Follows.current hconsistent hmarks hannounced.1, FirmwareState.announcedSettings,
    ← hannounced.2]
  rfl

/-- A node is configured, finds its network and tells the task; then its room is renamed. -/
def announcedRun : List MqttRuntimeEvent :=
  [.wifi {} 0, .command ⟨"ha_config:net|secret|10.0.0.2|1883||||", by decide⟩ 10,
    .wifi { connect := .connected 6 (Vector.replicate 6 1), isConnected := true } 20,
    .mqtt [] 30 true true, .command ⟨"ha_room_config:den|auto|0|0|0|600|400", by decide⟩ 40,
    .mqtt [] 50 false true, .mqtt [] 60 true true]

theorem announced_config_of_run : ∃ r : MqttRuntime,
    (r.wifi.state.wifiConnected ∧ r.wifi.state.roomId = ("den" : Str)) ∧
      r.last.map (·.settings) = some r.wifi.state.mqttTaskConfig := by
  have hstart : mqttRuntimeMachine.Reach FewMarks ⟨_, none⟩ :=
    Machine.Reach.start ⟨Vector.replicate 6 0, some {}, rfl⟩
  obtain ⟨r, hreach, hannounced, hstate⟩ := Machine.exists_reach_of_run (P := fun r =>
    r.Announced ∧ r.wifi.state.wifiConnected ∧ r.wifi.state.roomId = ("den" : Str)) hstart
      announcedRun (by decide +kernel)
  exact ⟨r, hstate, announced_config_current r hreach hannounced⟩

end EspWaveRider.Firmware
