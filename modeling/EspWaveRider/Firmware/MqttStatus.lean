import EspWaveRider.Firmware.MqttRuntime

/-!
# Reports of the MQTT task

`station_mqtt_summary_task` reports its state to the main loop through
`MQTT_EVENT_CHANNEL`, which holds eight events and drops what does not fit
(`rust/firmware/esp32s3/src/main.rs`).

* `StatusSystem.step` — the task, what it offers to the channel, and the main loop;
* `StatusSystem.upcoming` — what the main loop will know once it has read the channel;
* `reported_status_iff` — when the main loop knows the report pushed last.
-/

namespace EspWaveRider.Firmware

open Text

def mqttEventChannelCapacity : ℕ := 8

/-- What the main loop notes of a status, its address apart. -/
structure MqttReport where
  connected : Bool
  state : ℤ
  stateText : Str
  deriving DecidableEq

def FirmwareState.mqttReport (s : FirmwareState) : MqttReport :=
  ⟨s.mqttConnected, s.mqttState, s.mqttStateText⟩

def MqttTaskEvent.report : MqttTaskEvent → Option MqttReport
  | .status s => some ⟨s.connected, s.state, s.stateText.items⟩
  | .roomSummary _ => none

/-- A report has the values of the call; the texts of the task have at most 22 bytes. -/
theorem report_pushMqttStatus (s : MqttTask) (connected : Bool) (state : ℤ) {stateText : Str}
    (h : utf8Len stateText ≤ 32) (hostIp : Str) :
    (s.pushMqttStatus connected state stateText hostIp).events.getLast?.bind (·.report) =
      some ⟨connected, state, stateText⟩ := by
  have htext : ((Bounded.empty : HString 32).extendOrKeep stateText).items = stateText := by
    rw [Bounded.items_extendOrKeep, if_pos]
    · rfl
    · exact (Nat.zero_add _).trans_le h
  rw [MqttTask.pushMqttStatus, List.getLast?_concat]
  exact congrArg (fun text => some (MqttReport.mk connected state text)) htext

/-- The task, how many of its events it has offered, the channel, the main loop, and the
report pushed last. -/
structure StatusSystem where
  task : MqttTask := {}
  offered : ℕ := 0
  channel : List MqttTaskEvent := []
  state : FirmwareState
  lastPushed : Option MqttReport := none

inductive StatusSystemEvent where
  | task (input : MqttInput)
  /-- The task offers the next of its events to the channel. -/
  | offer
  | drain (uptimeMs : ℕ) (configSent summarySent : Bool)

namespace StatusSystem

/-- `try_send`: a full channel drops the event. -/
def trySend (s : StatusSystem) (event : MqttTaskEvent) : List MqttTaskEvent :=
  if s.channel.length < mqttEventChannelCapacity then s.channel ++ [event] else s.channel

/-- The task goes on when it has offered all events of its last step. -/
def step (s : StatusSystem) : StatusSystemEvent → Option StatusSystem
  | .task input =>
    if s.offered = s.task.events.length then (s.task.step input).map fun task => { s with task }
    else none
  | .offer => s.task.events[s.offered]?.map fun event =>
      { s with
        offered := s.offered + 1
        channel := s.trySend event
        lastPushed := event.report.or s.lastPushed }
  | .drain uptimeMs configSent summarySent => some
      { s with
        state := (s.state.processMqttRuntime s.channel uptimeMs configSent summarySent).1
        channel := [] }

end StatusSystem

def statusSystem : Machine StatusSystem StatusSystemEvent where
  start s := ∃ mac settings, s = { state := FirmwareState.bootState mac settings }
  step := StatusSystem.step

/-! ## Draining the channel -/

/-- The report noted last, after the event. -/
def noteReport (known : MqttReport) (event : MqttTaskEvent) : MqttReport := event.report.getD known

namespace FirmwareState

theorem mqttReport_applyMqttEvent (uptimeMs : ℕ) (s : FirmwareState) (event : MqttTaskEvent) :
    (s.applyMqttEvent uptimeMs event).mqttReport = noteReport s.mqttReport event := by
  cases event with
  | status status => rfl
  | roomSummary payload =>
    obtain ⟨peers, hsync⟩ := s.syncRoomSummaryPeer_eq payload.items uptimeMs
    rw [applyMqttEvent, hsync]
    rfl

/-- A call of `process_mqtt_runtime` notes the reports in the channel, one after the other. -/
theorem mqttReport_processMqttRuntime (s : FirmwareState) (events : List MqttTaskEvent)
    (uptimeMs : ℕ) (configSent summarySent : Bool) :
    (s.processMqttRuntime events uptimeMs configSent summarySent).1.mqttReport =
      events.foldl noteReport s.mqttReport := by
  have hannounce (t : FirmwareState) : (t.announceMqttConfig configSent).1.mqttReport =
      t.mqttReport := by
    rcases t.announceMqttConfig_cases configSent with heq | heq
    · rw [heq]
    · rw [heq]
      rfl
  have hpublish (t : FirmwareState) : (t.publishRoomSummary uptimeMs summarySent).1.mqttReport =
      t.mqttReport := by
    rcases t.publishRoomSummary_cases uptimeMs summarySent with heq | ⟨message, heq⟩
    · rw [heq]
    · rw [heq]
      rfl
  calc (s.processMqttRuntime events uptimeMs configSent summarySent).1.mqttReport
      = (events.foldl (applyMqttEvent uptimeMs) s).mqttReport :=
        (hpublish _).trans (hannounce _)
    _ = events.foldl noteReport s.mqttReport :=
        (List.foldl_hom mqttReport fun s event => (mqttReport_applyMqttEvent uptimeMs s event).symm).symm

end FirmwareState

namespace StatusSystem

/-- What the main loop knows once it has read what is in the channel. -/
def upcoming (s : StatusSystem) : MqttReport := s.channel.foldl noteReport s.state.mqttReport

/-- With an empty channel the main loop knows the report pushed last. -/
def Reported (s : StatusSystem) : Prop :=
  s.channel = [] → ∀ report ∈ s.lastPushed, s.state.mqttReport = report

instance (s : StatusSystem) : Decidable s.Reported := inferInstanceAs (Decidable (_ → _))

/-- It will know it, whenever it reads the channel next. -/
def ReportedNext (s : StatusSystem) : Prop :=
  ∀ uptimeMs configSent summarySent s', s.step (.drain uptimeMs configSent summarySent) = some s' →
    s'.Reported

/-- A step that drops no report: the channel has room for it, or it says what the main loop
will know anyway. -/
def KeepsReports (s : StatusSystem) : StatusSystemEvent → Prop
  | .offer => ∀ report ∈ s.task.events[s.offered]?.bind (·.report),
      s.channel.length < mqttEventChannelCapacity ∨ report = s.upcoming
  | .task _ | .drain _ _ _ => True

theorem reportedNext_iff (s : StatusSystem) :
    s.ReportedNext ↔ ∀ report ∈ s.lastPushed, s.upcoming = report := by
  constructor
  · intro h report hreport
    have hdrained := h 0 false false _ rfl rfl report hreport
    rwa [FirmwareState.mqttReport_processMqttRuntime] at hdrained
  · intro h uptimeMs configSent summarySent s' hstep
    cases hstep
    intro _ report hreport
    rw [FirmwareState.mqttReport_processMqttRuntime]
    exact h report hreport

theorem upcoming_of_empty {s : StatusSystem} (h : s.channel = []) :
    s.upcoming = s.state.mqttReport := by
  rw [upcoming, h]
  rfl

/-- What an offered event changes. -/
theorem upcoming_offer (s : StatusSystem) (event : MqttTaskEvent) (offered : ℕ)
    (lastPushed : Option MqttReport) :
    upcoming { s with offered, channel := s.trySend event, lastPushed } =
      if s.channel.length < mqttEventChannelCapacity then noteReport s.upcoming event
      else s.upcoming := by
  show (s.trySend event).foldl noteReport s.state.mqttReport = _
  rw [trySend]
  split
  · rw [List.foldl_append]
    rfl
  · rfl

/-- A step keeps the reports exactly if it drops none. -/
theorem keepsReports_iff {s s' : StatusSystem} {e : StatusSystemEvent} (h : s.ReportedNext)
    (hstep : s.step e = some s') : s.KeepsReports e ↔ s'.ReportedNext := by
  rw [reportedNext_iff] at h ⊢
  cases e with
  | task input =>
    rw [step] at hstep
    split at hstep
    · obtain ⟨task, -, rfl⟩ := Option.map_eq_some_iff.1 hstep
      exact iff_of_true trivial h
    · cases hstep
  | drain uptimeMs configSent summarySent =>
    cases hstep
    refine iff_of_true trivial fun report hreport => ?_
    rw [upcoming_of_empty rfl, FirmwareState.mqttReport_processMqttRuntime]
    exact h report hreport
  | offer =>
    rw [step] at hstep
    obtain ⟨event, hevent, rfl⟩ := Option.map_eq_some_iff.1 hstep
    rw [upcoming_offer, KeepsReports, hevent]
    cases hreport : event.report with
    | none =>
      have hnote : noteReport s.upcoming event = s.upcoming := by rw [noteReport, hreport]; rfl
      refine iff_of_true (by simp [hreport]) fun report hlast => ?_
      rw [hnote, ite_self]
      exact h report hlast
    | some report =>
      have hnote : noteReport s.upcoming event = report := by rw [noteReport, hreport]; rfl
      rw [hnote]
      by_cases hroom : s.channel.length < mqttEventChannelCapacity
      · simp [hreport, hroom]
      · simp [hreport, hroom, eq_comm]

end StatusSystem

open StatusSystem

/-- In every run whose steps drop no report the main loop knows the report pushed last
whenever the channel is empty, and it goes on to know it after exactly such steps. -/
theorem reported_status_iff (s : StatusSystem) :
    (statusSystem.Reach KeepsReports s → s.Reported) ∧
      (s.ReportedNext → ∀ e s', statusSystem.step s e = some s' →
        (s.KeepsReports e ↔ s'.ReportedNext)) := by
  refine ⟨fun h => ?_, fun h e s' hstep => keepsReports_iff h hstep⟩
  have hnext : s.ReportedNext := by
    refine h.invariant ?_ fun _ _ _ hnext hkeeps hstep => (keepsReports_iff hnext hstep).1 hkeeps
    rintro s ⟨mac, settings, rfl⟩
    exact (reportedNext_iff _).2 nofun
  intro hempty report hreport
  rw [← upcoming_of_empty hempty]
  exact (reportedNext_iff s).1 hnext report hreport

/-- The broker refuses eight connections and accepts the ninth, while the main loop is busy. -/
def busyMainLoop : List StatusSystemEvent :=
  [.task (.command (.configure brokerConfig) true)] ++
    (List.replicate 8 [.task (.attempt true false), .offer]).flatten ++
    [.task (.attempt true true), .task (.written true), .task (.read (MqttTask.connack false)),
      .task (.written true), .task (.read (MqttTask.suback 0)), .offer, .drain 60000 true true]

/-- The task is in session, and the main loop believes that it cannot connect. -/
theorem connected_not_reported :
    ∃ s, statusSystem.Reach Machine.Always s ∧ s.task.phase = .session ∧
      s.state.mqttReport = ⟨false, -4, "CONNECT_ERROR"⟩ ∧ ¬ s.Reported := by
  have hstart : statusSystem.Reach Machine.Always
      { state := FirmwareState.bootState (Vector.replicate 6 0) (some {}) } :=
    Machine.Reach.start ⟨_, _, rfl⟩
  exact Machine.exists_reach_of_run hstart busyMainLoop (by decide +kernel)

end EspWaveRider.Firmware
