import EspWaveRider.Firmware.Node
import EspWaveRider.Firmware.MqttTask
import EspWaveRider.Lib.Ledger

/-!
# Publishing through the MQTT task

The main loop hands messages to `station_mqtt_summary_task` through
`MQTT_COMMAND_CHANNEL`, which holds four commands (`rust/firmware/esp32s3/src/main.rs`).
A ledger beside the two remembers what became of each message.

* `MqttSystem.step` — the main loop and the task, one after the other in any order;
* `MqttSystem.Agrees` — the ledger tells what is in the channel and in the task;
* `accepted_kept_iff` — when the poses whose commands were answered with success are
  kept.
-/

namespace EspWaveRider.Firmware

open Text Command

/-! ## What a step of the task does to its pending message -/

namespace MqttTask

/-- The step leaves the pending message alone and does not lead into a session. -/
def StaysOut (s t : MqttTask) : Prop := t.pendingPublish = s.pendingPublish ∧ t.phase ≠ .session

/-- The step leads into a session, for which the pending message was taken. -/
def Enters (t : MqttTask) : Prop := t.phase = .session ∧ t.pendingPublish = none

theorem pendingPublish_awaitSession (s : MqttTask) :
    s.awaitSession.pendingPublish = s.pendingPublish := by
  obtain ⟨inbound, _, heq⟩ := awaitSession_eq s
  rw [heq]

theorem staysOut_attempt {s : MqttTask} (hphase : s.phase = .idle) (configUp connected : Bool) :
    s.StaysOut (s.attempt configUp connected) := by
  unfold attempt
  split_ifs
  · exact ⟨rfl, nofun⟩
  · exact ⟨rfl, nofun⟩
  · exact ⟨rfl, nofun⟩
  · split
    · exact ⟨rfl, nofun⟩
    · exact ⟨rfl, nofun⟩
  · split
    · exact ⟨rfl, nofun⟩
    · refine ⟨rfl, ?_⟩
      show s.phase ≠ .session
      rw [hphase]
      decide

theorem staysOut_waitForConnack (s : MqttTask) : s.StaysOut s.waitForConnack := by
  unfold waitForConnack waitForPacket
  split
  · exact ⟨rfl, nofun⟩
  · dsimp only
    split <;> exact ⟨rfl, nofun⟩

theorem enters_enterSession (s : MqttTask) : s.enterSession.Enters :=
  ⟨phase_enterSession s, pendingPublish_awaitSession _⟩

theorem staysOut_or_enters_waitForSuback (s : MqttTask) :
    s.StaysOut s.waitForSuback ∨ s.waitForSuback.Enters := by
  unfold waitForSuback waitForPacket
  split
  · exact Or.inl ⟨rfl, nofun⟩
  · dsimp only
    split
    · exact Or.inr (enters_enterSession _)
    · exact Or.inl ⟨rfl, nofun⟩

/-- The bytes go on to what follows, or they did not fit. -/
theorem receive_cases (s : MqttTask) (chunk : List UInt8) (next failed : MqttTask → MqttTask) :
    (∃ inbound, s.receive chunk next failed =
      next { s with received := s.received ++ chunk, inbound }) ∨
      s.receive chunk next failed = failed { s with received := s.received ++ chunk } := by
  unfold receive
  dsimp only
  split
  · exact Or.inr rfl
  · exact Or.inl ⟨_, rfl⟩

end MqttTask

/-- Not a command: the network, the timer or the top of the loop. -/
def MqttInput.IsOther : MqttInput → Prop
  | .command _ _ => False
  | _ => True

instance (input : MqttInput) : Decidable input.IsOther :=
  match input with
  | .command _ _ => isFalse id
  | .configUp | .attempt _ _ | .written _ | .read _ | .readEnds | .keepalive _ => isTrue trivial

namespace MqttTask

/-- A step without a command stays out of the session, enters it or stays in it. -/
theorem step_other {s t : MqttTask} {input : MqttInput} (hinput : input.IsOther)
    (h : s.step input = some t) :
    s.StaysOut t ∨ (s.phase ≠ .session ∧ t.Enters) ∨
      (s.phase = .session ∧ t.phase = .session ∧ t.pendingPublish = s.pendingPublish) := by
  have hawait (u : MqttTask) (hu : u.phase = .session) :
      u.awaitSession.phase = .session ∧ u.awaitSession.pendingPublish = u.pendingPublish :=
    ⟨(phase_awaitSession u).trans hu, pendingPublish_awaitSession u⟩
  cases stepEffect_step h with
  | stored hphase command written => exact hinput.elim
  | attempted hphase configUp connected => exact Or.inl (staysOut_attempt hphase _ _)
  | woken hphase command written => exact hinput.elim
  | configUp hphase => exact Or.inl ⟨rfl, nofun⟩
  | connectSent hphase => exact Or.inl (staysOut_waitForConnack s)
  | subscribeSent hphase =>
    have hout : s.phase ≠ .session := by
      rw [hphase]
      decide
    exact (staysOut_or_enters_waitForSuback s).imp_right fun henters => Or.inl ⟨hout, henters⟩
  | notSent ok => exact Or.inl ⟨rfl, nofun⟩
  | handshakeEnded => exact Or.inl ⟨rfl, nofun⟩
  | connackRead hphase chunk =>
    rcases s.receive_cases chunk waitForConnack protocolError with ⟨inbound, heq⟩ | heq
    · rw [heq]
      exact Or.inl (staysOut_waitForConnack _)
    · rw [heq]
      exact Or.inl ⟨rfl, nofun⟩
  | subackRead hphase chunk =>
    have hout : s.phase ≠ .session := by
      rw [hphase]
      decide
    rcases s.receive_cases chunk waitForSuback protocolError with ⟨inbound, heq⟩ | heq
    · rw [heq]
      exact (staysOut_or_enters_waitForSuback _).imp_right fun henters => Or.inl ⟨hout, henters⟩
    · rw [heq]
      exact Or.inl ⟨rfl, nofun⟩
  | sessionRead hphase chunk =>
    rcases s.receive_cases chunk awaitSession endSession with ⟨inbound, heq⟩ | heq
    · rw [heq]
      exact Or.inr (Or.inr ⟨hphase, hawait _ hphase⟩)
    · rw [heq]
      exact Or.inl ⟨rfl, nofun⟩
  | kept hphase input => exact Or.inr (Or.inr ⟨hphase, hawait s hphase⟩)
  | ended hphase input => exact Or.inl ⟨rfl, nofun⟩
  | reconfigured hphase next written => exact hinput.elim

/-- Outside a session a command is stored, whatever the task waits for. -/
theorem step_command {s t : MqttTask} {command : MqttTaskCommand} {written : Bool}
    (hphase : s.phase ≠ .session) (h : s.step (.command command written) = some t) :
    ∃ phase, t = { s.applyCommand command with phase } := by
  cases stepEffect_step h with
  | stored _ _ _ => exact ⟨(s.applyCommand command).phase, rfl⟩
  | woken _ _ _ => exact ⟨.idle, rfl⟩
  | kept hsession _ => exact absurd hsession hphase
  | ended hsession _ => exact absurd hsession hphase
  | reconfigured hsession _ _ => exact absurd hsession hphase

/-- A Configure command leaves the pending message alone. -/
theorem step_configure {s t : MqttTask} {next : MqttTaskConfig} {written : Bool}
    (h : s.step (.command (.configure next) written) = some t) :
    t.pendingPublish = s.pendingPublish := by
  by_cases hsession : s.phase = .session
  · simp only [step, hsession] at h
    split at h
    · cases h
      rfl
    · cases h
      exact pendingPublish_awaitSession s
  · obtain ⟨phase, rfl⟩ := step_command hsession h
    rfl

/-- A message is written in a session, and replaces the pending one outside. -/
theorem step_publish {s t : MqttTask} {message : MqttPublishMessage} {written : Bool}
    (h : s.step (.command (.publish message) written) = some t) :
    t.pendingPublish = if s.phase = .session then s.pendingPublish else some message := by
  by_cases hsession : s.phase = .session
  · rw [if_pos hsession]
    simp only [step, hsession] at h
    split at h
    · cases h
      exact pendingPublish_awaitSession s
    · cases h
      rfl
  · rw [if_neg hsession]
    obtain ⟨phase, rfl⟩ := step_command hsession h
    rfl

end MqttTask

/-! ## The channel and the ledger -/

def mqttCommandChannelCapacity : ℕ := 4

/-- A message always fits its packet. -/
theorem buildMqttPublishPacket_isSome (message : MqttPublishMessage) :
    (buildMqttPublishPacket message.topic.items message.payload.items message.retain).isSome := by
  have htopic := message.topic.utf8Len_le
  have hpayload := message.payload.utf8Len_le
  have happ : Bounded.Appends (fun output : HVec UInt8 768 =>
      (encodeMqttUtf8 output message.topic.items).bind fun output =>
        output.extend (toUtf8 message.payload.items)) _ :=
    (appends_encodeMqttUtf8 message.topic.items (by omega)).bind (Bounded.appends_extend _)
  have hassemble := isSome_bind_assemble (if message.retain then 0x31 else 0x30) happ (by
    simp only [List.length_append, length_toUtf8, be16, List.length_cons, List.length_nil]
    omega)
  rw [Option.bind_assoc] at hassemble
  exact hassemble

/-- A session goes on exactly when the message is written. -/
theorem phase_step_publish {s t : MqttTask} {message : MqttPublishMessage} {written : Bool}
    (hsession : s.phase = .session) (h : s.step (.command (.publish message) written) = some t) :
    t.phase = .session ↔ written := by
  simp only [MqttTask.step, hsession, buildMqttPublishPacket_isSome, Bool.and_true] at h
  cases written with
  | true =>
    cases h
    exact iff_of_true ((MqttTask.phase_awaitSession s).trans hsession) rfl
  | false =>
    cases h
    exact iff_of_false (fun h => by cases h) Bool.false_ne_true

/-- The message of a pose command that is answered with success. -/
def poseMessage (state : FirmwareState) (payload : Str) : Option MqttPublishMessage :=
  match parseRoomPosePublishPayload payload with
  | .ok pose => buildRoomPosePublishMessage state pose
  | .error _ => none

theorem isSome_poseMessage_iff (state : FirmwareState) (payload : Str) (uptimeMs : ℕ) :
    (poseMessage state payload).isSome ↔
      (state.handleDeviceCommand uptimeMs (.homeAssistantRoomPosePublish payload)).reply =
        .snapshot := by
  unfold poseMessage FirmwareState.handleDeviceCommand
  cases hparse : parseRoomPosePublishPayload payload with
  | error e =>
    simp only [hparse]
    exact iff_of_false Bool.false_ne_true (by simp [FirmwareState.answered])
  | ok pose =>
    simp only [hparse]
    by_cases hbuilt : (buildRoomPosePublishMessage state pose).isSome
    · rw [if_pos hbuilt]
      exact iff_of_true hbuilt rfl
    · rw [if_neg hbuilt]
      exact iff_of_false hbuilt (by simp [FirmwareState.answered])

/-- The task, its command channel and what became of the messages. -/
structure MqttSystem where
  task : MqttTask := {}
  channel : List MqttTaskCommand := []
  ledger : Ledger MqttPublishMessage := {}

inductive MqttSystemEvent where
  /-- The command `ha_room_pose_publish`. -/
  | pose (state : FirmwareState) (payload : Str)
  /-- The room summary of `process_mqtt_runtime`. -/
  | summary (state : FirmwareState) (uptimeMs : ℕ)
  | configure (config : MqttTaskConfig)
  /-- The task takes a command; `written` says whether a write succeeds. -/
  | take (written : Bool)
  /-- The task enters a session and writes its pending message, or fails to. -/
  | enter (input : MqttInput) (written : Bool)
  /-- Anything else the task does. -/
  | task (input : MqttInput)

namespace MqttSystem

/-- `try_send`: a full channel drops the command. -/
def trySend (s : MqttSystem) (command : MqttTaskCommand) : List MqttTaskCommand :=
  if s.channel.length < mqttCommandChannelCapacity then s.channel ++ [command] else s.channel

/-- A message is offered; `accepted` says whether its sender was told that all is well. -/
def offer (s : MqttSystem) (message : MqttPublishMessage) (accepted : Bool) : MqttSystem :=
  { s with
    channel := s.trySend (.publish message)
    ledger := s.ledger.offer message accepted (s.channel.length < mqttCommandChannelCapacity) }

/-- The top of the loop connects only when it has found the channel empty. -/
def MayRun (s : MqttSystem) : MqttInput → Prop
  | .command _ _ => False
  | .attempt _ _ => s.channel = []
  | _ => True

instance (s : MqttSystem) (input : MqttInput) : Decidable (s.MayRun input) :=
  match input with
  | .command _ _ => isFalse id
  | .attempt _ _ => inferInstanceAs (Decidable (s.channel = []))
  | .configUp | .written _ | .read _ | .readEnds | .keepalive _ => isTrue trivial

def step (s : MqttSystem) : MqttSystemEvent → Option MqttSystem
  | .pose state payload =>
    match poseMessage state payload with
    | some message => some (s.offer message true)
    | none => some s
  | .summary state uptimeMs =>
    match buildRoomSummaryPayload state uptimeMs with
    | some payload => some (s.offer (buildRoomSummaryPublishMessage state payload) false)
    | none => some s
  | .configure config => some { s with channel := s.trySend (.configure config) }
  | .take written =>
    match s.channel with
    | [] => none
    | .configure next :: rest =>
      (s.task.step (.command (.configure next) written)).map fun task =>
        { s with task, channel := rest }
    | .publish message :: rest =>
      (s.task.step (.command (.publish message) written)).map fun task =>
        { task, channel := rest
          ledger := if s.task.phase = .session then s.ledger.write written else s.ledger.store }
  | .enter input written =>
    if s.MayRun input ∧ s.task.phase ≠ .session then
      (s.task.step input).bind fun task =>
        if task.phase = .session then some { s with task, ledger := s.ledger.flush written }
        else none
    else none
  | .task input =>
    if s.MayRun input then
      (s.task.step input).bind fun task =>
        if s.task.phase ≠ .session ∧ task.phase = .session then none else some { s with task }
    else none

end MqttSystem

def mqttSystem : Machine MqttSystem MqttSystemEvent where
  start s := s = {}
  step := MqttSystem.step

namespace MqttSystem

/-! ### The ledger follows -/

def publishMessage : MqttTaskCommand → Option MqttPublishMessage
  | .publish message => some message
  | .configure _ => none

/-- The ledger tells which messages wait in the channel and which one the task holds. -/
structure Agrees (s : MqttSystem) : Prop where
  numbered : s.ledger.Numbered
  queue : s.ledger.queue.map s.ledger.message? = (s.channel.filterMap publishMessage).map some
  slot : s.task.pendingPublish = s.ledger.slot.bind s.ledger.message?

/-- What an event is to the ledger. -/
def ledgerOp (s : MqttSystem) : MqttSystemEvent → Option (LedgerOp MqttPublishMessage)
  | .pose state payload => (poseMessage state payload).map fun message =>
      .offer message true (s.channel.length < mqttCommandChannelCapacity)
  | .summary state uptimeMs => (buildRoomSummaryPayload state uptimeMs).map fun payload =>
      .offer (buildRoomSummaryPublishMessage state payload) false
        (s.channel.length < mqttCommandChannelCapacity)
  | .configure _ | .task _ => none
  | .take written =>
    match s.channel.head? with
    | some (.publish _) => some (if s.task.phase = .session then .write written else .store)
    | _ => none
  | .enter _ written => some (.flush written)

/-- What a step can do, with what it is to the ledger. -/
inductive StepEffect (s : MqttSystem) : Option (LedgerOp MqttPublishMessage) → MqttSystem → Prop where
  | nothing : StepEffect s none s
  | offered (message : MqttPublishMessage) (accepted : Bool) :
      StepEffect s
        (some (.offer message accepted (s.channel.length < mqttCommandChannelCapacity)))
        (s.offer message accepted)
  | configured (config : MqttTaskConfig) :
      StepEffect s none { s with channel := s.trySend (.configure config) }
  | tookConfigure {next : MqttTaskConfig} {rest : List MqttTaskCommand} {task : MqttTask}
      {written : Bool} (hchannel : s.channel = .configure next :: rest)
      (htask : s.task.step (.command (.configure next) written) = some task) :
      StepEffect s none { s with task, channel := rest }
  | tookPublish {message : MqttPublishMessage} {rest : List MqttTaskCommand} {task : MqttTask}
      {written : Bool} (hchannel : s.channel = .publish message :: rest)
      (htask : s.task.step (.command (.publish message) written) = some task) :
      StepEffect s (some (if s.task.phase = .session then .write written else .store))
        { task, channel := rest
          ledger := if s.task.phase = .session then s.ledger.write written else s.ledger.store }
  | entered {input : MqttInput} {task : MqttTask} (written : Bool) (hrun : s.MayRun input)
      (hout : s.task.phase ≠ .session) (htask : s.task.step input = some task)
      (hin : task.phase = .session) :
      StepEffect s (some (.flush written)) { s with task, ledger := s.ledger.flush written }
  | ran {input : MqttInput} {task : MqttTask} (hrun : s.MayRun input)
      (htask : s.task.step input = some task)
      (hnot : ¬ (s.task.phase ≠ .session ∧ task.phase = .session)) :
      StepEffect s none { s with task }

theorem stepEffect_step {s s' : MqttSystem} {e : MqttSystemEvent} (h : s.step e = some s') :
    StepEffect s (s.ledgerOp e) s' := by
  cases e with
  | pose state payload =>
    rw [step] at h
    rw [ledgerOp]
    cases hmessage : poseMessage state payload with
    | none =>
      rw [hmessage] at h
      cases h
      exact .nothing
    | some message =>
      rw [hmessage] at h
      cases h
      exact .offered message true
  | summary state uptimeMs =>
    rw [step] at h
    rw [ledgerOp]
    cases hpayload : buildRoomSummaryPayload state uptimeMs with
    | none =>
      rw [hpayload] at h
      cases h
      exact .nothing
    | some payload =>
      rw [hpayload] at h
      cases h
      exact .offered _ false
  | configure config =>
    cases h
    exact .configured config
  | take written =>
    rw [step] at h
    rw [ledgerOp]
    split at h
    · cases h
    · rename_i next rest hchannel
      obtain ⟨task, htask, rfl⟩ := Option.map_eq_some_iff.1 h
      rw [hchannel]
      exact .tookConfigure hchannel htask
    · rename_i message rest hchannel
      obtain ⟨task, htask, rfl⟩ := Option.map_eq_some_iff.1 h
      rw [hchannel]
      exact .tookPublish hchannel htask
  | enter input written =>
    rw [step] at h
    split at h
    · rename_i hmay
      obtain ⟨task, htask, h⟩ := Option.bind_eq_some_iff.1 h
      split at h
      · rename_i hin
        cases h
        exact .entered written hmay.1 hmay.2 htask hin
      · cases h
    · cases h
  | task input =>
    rw [step] at h
    split at h
    · rename_i hrun
      obtain ⟨task, htask, h⟩ := Option.bind_eq_some_iff.1 h
      split at h
      · cases h
      · rename_i hnot
        cases h
        exact .ran hrun htask hnot
    · cases h

theorem StepEffect.ledger_eq {s s' : MqttSystem} {op : Option (LedgerOp MqttPublishMessage)}
    (h : StepEffect s op s') : s'.ledger = op.elim s.ledger s.ledger.apply := by
  cases h with
  | tookPublish _ _ =>
    rw [Option.elim_some]
    split <;> rfl
  | _ => rfl

theorem ledger_step {s s' : MqttSystem} {e : MqttSystemEvent} (h : s.step e = some s') :
    s'.ledger = (s.ledgerOp e).elim s.ledger s.ledger.apply :=
  (stepEffect_step h).ledger_eq

/-- What may run is no command. -/
theorem MayRun.isOther {s : MqttSystem} {input : MqttInput} (h : s.MayRun input) : input.IsOther := by
  cases input with
  | command command written => exact h
  | _ => exact trivial

theorem numbered_step {s s' : MqttSystem} {e : MqttSystemEvent} (h : s.ledger.Numbered)
    (hstep : s.step e = some s') : s'.ledger.Numbered := by
  rw [ledger_step hstep]
  cases s.ledgerOp e with
  | none => exact h
  | some op => exact h.apply op

/-- An offer keeps the agreement. -/
theorem Agrees.offer {s : MqttSystem} (h : s.Agrees) (message : MqttPublishMessage)
    (accepted : Bool) : (s.offer message accepted).Agrees := by
  have hold {i : ℕ} (hi : i ∈ s.ledger.places) :
      (s.offer message accepted).ledger.message? i = s.ledger.message? i :=
    congrArg _ (List.getElem?_append_left (h.numbered.2 i hi))
  have hqueue : s.ledger.queue.map (s.offer message accepted).ledger.message? =
      s.ledger.queue.map s.ledger.message? :=
    List.map_congr_left fun i hi => hold (List.mem_append_right _ hi)
  refine ⟨h.numbered.offer _ _ _, ?_, ?_⟩
  · have hnew : (s.offer message accepted).ledger.message? s.ledger.entries.length = some message := by
      show ((s.ledger.entries ++ [_])[s.ledger.entries.length]?).map _ = _
      rw [List.getElem?_concat_length]
      rfl
    show (if _ then _ else _ : List ℕ).map _ = ((s.trySend (.publish message)).filterMap _).map some
    rw [trySend]
    by_cases hroom : s.channel.length < mqttCommandChannelCapacity
    · rw [if_pos (decide_eq_true hroom), if_pos hroom, List.map_append, hqueue, h.queue,
        List.filterMap_append, List.map_append, List.map_singleton, hnew]
      rfl
    · rw [if_neg (by simpa using hroom), if_neg hroom, hqueue, h.queue]
  · show s.task.pendingPublish = s.ledger.slot.bind _
    rw [h.slot]
    cases hslot : s.ledger.slot with
    | none => rfl
    | some k =>
      refine (hold ?_).symm
      rw [Ledger.places, hslot]
      exact List.mem_append_left _ (List.mem_append_right _ (List.mem_singleton_self k))

/-- What the task holds outside a session and in it after it took a message. -/
theorem Agrees.take {s : MqttSystem} (h : s.Agrees) {message : MqttPublishMessage}
    {rest : List MqttTaskCommand} (hchannel : s.channel = .publish message :: rest) :
    ∃ i ids, s.ledger.queue = i :: ids ∧ s.ledger.message? i = some message ∧
      ids.map s.ledger.message? = (rest.filterMap publishMessage).map some := by
  have hqueue := h.queue
  rw [hchannel] at hqueue
  cases hids : s.ledger.queue with
  | nil =>
    rw [hids] at hqueue
    cases hqueue
  | cons i ids =>
    rw [hids] at hqueue
    obtain ⟨hhead, htail⟩ := List.cons.inj hqueue
    exact ⟨i, ids, rfl, hhead, htail⟩

/-- A message the task takes is written in a session and held outside. -/
theorem Agrees.tookPublish {s : MqttSystem} (h : s.Agrees) {message : MqttPublishMessage}
    {rest : List MqttTaskCommand} {task : MqttTask} {written : Bool}
    (hchannel : s.channel = .publish message :: rest)
    (htask : s.task.step (.command (.publish message) written) = some task)
    {ledger : Ledger MqttPublishMessage} (hnumbered : ledger.Numbered)
    (hledger : ledger =
      if s.task.phase = .session then s.ledger.write written else s.ledger.store) :
    Agrees { task, channel := rest, ledger } := by
  obtain ⟨i, ids, hqueue, hmessage, hrest⟩ := h.take hchannel
  have hpending := MqttTask.step_publish htask
  by_cases hsession : s.task.phase = .session
  · rw [if_pos hsession] at hpending
    rw [if_pos hsession, Ledger.write, hqueue] at hledger
    subst hledger
    exact ⟨hnumbered, hrest, hpending.trans h.slot⟩
  · rw [if_neg hsession] at hpending
    rw [if_neg hsession, Ledger.store, hqueue] at hledger
    subst hledger
    exact ⟨hnumbered, hrest, hpending.trans hmessage.symm⟩

theorem Agrees.step {s s' : MqttSystem} {e : MqttSystemEvent} (h : s.Agrees)
    (hstep : s.step e = some s') : s'.Agrees := by
  have hnumbered := numbered_step h.numbered hstep
  obtain ⟨op, heffect⟩ : ∃ op, StepEffect s op s' := ⟨_, stepEffect_step hstep⟩
  cases heffect with
  | nothing => exact h
  | offered message accepted => exact h.offer message accepted
  | configured config =>
    refine ⟨hnumbered, ?_, h.slot⟩
    show _ = ((s.trySend (.configure config)).filterMap _).map some
    rw [trySend]
    split
    · have hnone : [MqttTaskCommand.configure config].filterMap publishMessage = [] := rfl
      rw [List.filterMap_append, hnone, List.append_nil]
      exact h.queue
    · exact h.queue
  | tookConfigure hchannel htask =>
    refine ⟨hnumbered, ?_, (MqttTask.step_configure htask).trans h.slot⟩
    have hqueue := h.queue
    rw [hchannel] at hqueue
    exact hqueue
  | tookPublish hchannel htask => exact h.tookPublish hchannel htask hnumbered rfl
  | entered written hrun hout htask hin =>
    refine ⟨hnumbered, h.queue, ?_⟩
    rcases MqttTask.step_other hrun.isOther htask with hstays | henters | hsession
    · exact absurd hin hstays.2
    · exact henters.2.2
    · exact absurd hsession.1 hout
  | ran hrun htask hnot =>
    refine ⟨hnumbered, h.queue, ?_⟩
    rcases MqttTask.step_other hrun.isOther htask with hstays | henters | hsession
    · exact hstays.1.trans h.slot
    · exact absurd ⟨henters.1, henters.2.1⟩ hnot
    · exact hsession.2.2.trans h.slot

theorem agrees_start : ({} : MqttSystem).Agrees := ⟨Ledger.numbered_empty, rfl, rfl⟩

/-- The ledger agrees with channel and task in every run. -/
theorem agrees_of_reach {ok : MqttSystem → MqttSystemEvent → Prop} {s : MqttSystem}
    (h : mqttSystem.Reach ok s) : s.Agrees := by
  refine h.invariant ?_ fun _ _ _ hagrees _ hstep => hagrees.step hstep
  rintro s rfl
  exact agrees_start

/-! ### Accepted poses -/

/-- Every pose whose command was answered with success is written, in the channel, held
by the task or superseded by a later message to its topic. -/
def AcceptedKept (s : MqttSystem) : Prop := s.ledger.Kept (·.topic)

instance (s : MqttSystem) : Decidable s.AcceptedKept :=
  inferInstanceAs (Decidable (s.ledger.Kept (·.topic)))

/-- The message was not accepted or is superseded. -/
abbrev Dispensable (s : MqttSystem) (i : ℕ) : Prop :=
  s.ledger.Dispensable (fun message : MqttPublishMessage => message.topic) i

/-- A step that drops no accepted pose: the channel has room for it, a message taken
outside a session meets no other one, and writes succeed. -/
def KeepsAccepted (s : MqttSystem) : MqttSystemEvent → Prop
  | .pose state payload =>
    (poseMessage state payload).isSome → s.channel.length < mqttCommandChannelCapacity
  | .summary _ _ | .configure _ | .task _ => True
  | .take written =>
    match s.channel.head? with
    | some (.publish _) =>
      if s.task.phase = .session then
        written = true ∨ ∀ i ∈ s.ledger.queue.head?, s.Dispensable i
      else ∀ k ∈ s.ledger.slot, s.Dispensable k
    | _ => True
  | .enter _ written => written = true ∨ ∀ k ∈ s.ledger.slot, s.Dispensable k

theorem keepsAccepted_iff {s : MqttSystem} (h : s.Agrees) (e : MqttSystemEvent) :
    s.KeepsAccepted e ↔ ∀ op ∈ s.ledgerOp e, s.ledger.Spares (·.topic) op := by
  cases e with
  | pose state payload =>
    rw [KeepsAccepted, ledgerOp]
    cases poseMessage state payload with
    | none => exact iff_of_true nofun nofun
    | some message => simp [Ledger.Spares]
  | summary state uptimeMs =>
    rw [KeepsAccepted, ledgerOp]
    cases buildRoomSummaryPayload state uptimeMs with
    | none => exact iff_of_true trivial nofun
    | some payload => simp [Ledger.Spares]
  | configure config => exact iff_of_true trivial nofun
  | take written =>
    rw [KeepsAccepted, ledgerOp]
    cases hchannel : s.channel with
    | nil => exact iff_of_true trivial nofun
    | cons command rest =>
      cases command with
      | configure next => exact iff_of_true trivial nofun
      | publish message =>
        obtain ⟨i, ids, hqueue, -⟩ := h.take hchannel
        by_cases hsession : s.task.phase = .session
        · simp [hsession, Ledger.Spares]
        · simp [hsession, Ledger.Spares, hqueue]
  | enter input written =>
    rw [KeepsAccepted, ledgerOp]
    simp [Ledger.Spares]
  | task input => exact iff_of_true trivial nofun

/-- Accepted poses are kept by exactly these steps. -/
theorem keepsAccepted_iff_acceptedKept {s s' : MqttSystem} {e : MqttSystemEvent} (h : s.Agrees)
    (hkept : s.AcceptedKept) (hstep : s.step e = some s') : s.KeepsAccepted e ↔ s'.AcceptedKept := by
  rw [keepsAccepted_iff h, AcceptedKept, ledger_step hstep]
  cases s.ledgerOp e with
  | none => exact iff_of_true nofun hkept
  | some op =>
    rw [Option.elim_some, ← Ledger.spares_iff h.numbered hkept]
    simp

end MqttSystem

open MqttSystem

/-- In every run whose steps drop no accepted pose, all accepted poses are written, on
their way or superseded, and this stays so after exactly such steps. -/
theorem accepted_kept_iff (s : MqttSystem) :
    (mqttSystem.Reach KeepsAccepted s → s.AcceptedKept) ∧
      (mqttSystem.Reach Machine.Always s → s.AcceptedKept →
        ∀ e s', mqttSystem.step s e = some s' → (s.KeepsAccepted e ↔ s'.AcceptedKept)) := by
  refine ⟨fun h => ?_, fun h hkept e s' hstep => ?_⟩
  · have hinvariant : s.Agrees ∧ s.AcceptedKept := by
      refine h.invariant (I := fun s => s.Agrees ∧ s.AcceptedKept) ?_ ?_
      · rintro s rfl
        exact ⟨agrees_start, Ledger.kept_empty⟩
      · rintro s e s' ⟨hagrees, hkept⟩ hkeeps hstep
        exact ⟨hagrees.step hstep, (keepsAccepted_iff_acceptedKept hagrees hkept hstep).1 hkeeps⟩
    exact hinvariant.2
  · exact keepsAccepted_iff_acceptedKept (agrees_of_reach h) hkept hstep

/-- The broker does not answer; a pose waits in the task when the next room summary comes. -/
def overwrittenPose : List MqttSystemEvent :=
  [.configure brokerConfig, .take true, .task (.attempt true false),
    .pose (connected shortNode) "den||auto|10|20|90|600|400", .take true,
    .summary (connected shortNode) 4294960000, .take true]

/-- In a session a write fails. -/
def unwrittenPose : List MqttSystemEvent :=
  [.configure brokerConfig, .take true, .task (.attempt true true), .task (.written true),
    .task (.read (MqttTask.connack false)), .task (.written true),
    .enter (.read (MqttTask.suback 0)) true,
    .pose (connected shortNode) "den||auto|10|20|90|600|400", .take false]

/-- A pose whose command was answered with success is replaced by a room summary, or lost
in a write that fails. -/
theorem acceptedPose_lost :
    (∃ s, mqttSystem.Reach Machine.Always s ∧ s.ledger.written = [] ∧
      s.task.pendingPublish.isSome ∧ ¬ s.AcceptedKept) ∧
    ∃ s, mqttSystem.Reach Machine.Always s ∧ s.ledger.places = [] ∧ ¬ s.AcceptedKept := by
  have hstart : mqttSystem.Reach Machine.Always {} := Machine.Reach.start rfl
  constructor
  · exact Machine.exists_reach_of_run hstart overwrittenPose (by decide +kernel)
  · exact Machine.exists_reach_of_run hstart unwrittenPose (by decide +kernel)

end EspWaveRider.Firmware
