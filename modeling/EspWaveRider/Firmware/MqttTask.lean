import EspWaveRider.Core.Mqtt
import EspWaveRider.Firmware.MqttWire
import EspWaveRider.Lib.Machine

/-!
# The MQTT task

`station_mqtt_summary_task` of `rust/firmware/esp32s3/src/main.rs` as a state
machine: a step is what the task does between two points at which it waits for
the network, for a command or for its timer.

* `MqttTask.taken` and `MqttTask.received` — the packets cut off the inbound
  buffer and the bytes read, both since the current connection opened;
* `isolated_of_opensEmpty` — connections that find the inbound buffer empty take
  only their own bytes, and accept a correct broker;
* `handshake_succeeds_iff` — the handshake survives exactly the brokers that
  send nothing before SUBACK.
-/

namespace EspWaveRider.Firmware

open Text Framing

def mqttStateUnsupportedTransport : ℤ := -2
def mqttStateInvalidHost : ℤ := -3
def mqttStateConnectError : ℤ := -4
def mqttStateProtocolError : ℤ := -5

inductive MqttTaskCommand where
  | configure (next : MqttTaskConfig)
  | publish (message : MqttPublishMessage)
  deriving DecidableEq

structure MqttTaskStatus where
  connected : Bool
  state : ℤ
  stateText : HString 32
  hostIp : HString 32
  deriving DecidableEq

inductive MqttTaskEvent where
  | status (status : MqttTaskStatus)
  | roomSummary (payload : HString 512)
  deriving DecidableEq

/-- Where the task waits. -/
inductive MqttPhase where
  /-- At the top of the loop, with commands to take or a connection to try. -/
  | idle
  /-- For a command. -/
  | parked
  /-- For an address or a command. -/
  | waitConfigUp
  | sendConnect
  | waitConnack
  | sendSubscribe
  | waitSuback
  | session
  deriving DecidableEq

/-- The variables of the task, the events it offered to the main loop and, since
the connection opened, the bytes read and the packets taken. -/
structure MqttTask where
  config : MqttTaskConfig := {}
  pendingPublish : Option MqttPublishMessage := none
  inbound : HVec UInt8 2048 := Bounded.empty
  phase : MqttPhase := .idle
  events : List MqttTaskEvent := []
  received : List UInt8 := []
  taken : List (List UInt8) := []
  deriving DecidableEq

/-- What a step waits for.  `written` says whether the write succeeded that the
step starts with. -/
inductive MqttInput where
  | command (command : MqttTaskCommand) (written : Bool)
  | configUp
  | attempt (configUp connected : Bool)
  | written (ok : Bool)
  | read (chunk : List UInt8)
  /-- End of the stream, or a read error. -/
  | readEnds
  | keepalive (written : Bool)

/-- CONNACK with return code 0. -/
def connackAccepted : List UInt8 → Bool
  | first :: _ :: _ :: code :: _ => first >>> 4 = 0x02 ∧ code = 0
  | _ => false

def subackAccepted : List UInt8 → Bool
  | first :: _ => first >>> 4 = 0x09
  | [] => false

/-- What the session loop offers to the main loop for a packet. -/
def packetEvent (packet : List UInt8) : Option MqttTaskEvent :=
  if mqttIsPingrespPacket packet then none
  else do
    let summary ← Mqtt.mqttRoomSummaryPayloadFromPublish packet
    let payload ← Bounded.empty.extend summary
    some (.roomSummary payload)

namespace MqttTask

/-! ## Steps -/

def pushMqttStatus (s : MqttTask) (connected : Bool) (state : ℤ) (stateText hostIp : Str) :
    MqttTask :=
  { s with
    events := s.events ++ [.status
      { connected, state
        stateText := Bounded.empty.extendOrKeep stateText
        hostIp := Bounded.empty.extendOrKeep hostIp }] }

def applyCommand (s : MqttTask) : MqttTaskCommand → MqttTask
  | .configure next => { s with config := next }
  | .publish message => { s with pendingPublish := some message }

/-- A new connection: nothing read from it, nothing taken.  The inbound buffer
is declared outside the loop and stays what it is. -/
def openConnection (s : MqttTask) : MqttTask :=
  { s with phase := .sendConnect, received := [], taken := [] }

/-- The loop body up to the connection. -/
def attempt (s : MqttTask) (configUp connected : Bool) : MqttTask :=
  if !s.config.enabled || !s.config.wifiConnected || s.config.host.items = [] then
    { s.pushMqttStatus false mqttStateDisconnected "DISCONNECTED" [] with phase := .parked }
  else if !configUp then
    { s.pushMqttStatus false mqttStateDisconnected "WAITING_FOR_IP" [] with
      phase := .waitConfigUp }
  else if s.config.useWebsockets then
    { s.pushMqttStatus false mqttStateUnsupportedTransport "WEBSOCKETS_UNSUPPORTED" [] with
      phase := .parked }
  else match parseIpv4Address s.config.host.items with
    | none =>
      { s.pushMqttStatus false mqttStateInvalidHost "INVALID_HOST" [] with phase := .parked }
    | some _ =>
      if connected then s.openConnection
      else s.pushMqttStatus false mqttStateConnectError "CONNECT_ERROR" s.config.host.items

/-- A failed handshake. -/
def protocolError (s : MqttTask) : MqttTask :=
  { s.pushMqttStatus false mqttStateProtocolError "PROTOCOL_ERROR" s.config.host.items with
    phase := .idle }

/-- Out of the session loop. -/
def endSession (s : MqttTask) : MqttTask :=
  { s.pushMqttStatus false mqttStateDisconnected "DISCONNECTED" [] with phase := .idle }

/-- The packet loop at the head of the session loop; every round shortens the
buffer, so its length bounds the rounds. -/
def handlePackets : ℕ → MqttTask → MqttTask
  | 0, s => s
  | fuel + 1, s =>
    match takeMqttPacket s.inbound with
    | none => s
    | some (packet, inbound) =>
      handlePackets fuel
        { s with
          inbound
          taken := s.taken ++ [packet.items]
          events := s.events ++ (packetEvent packet.items).toList }

/-- One round of the session loop, up to its `select3`. -/
def awaitSession (s : MqttTask) : MqttTask := s.handlePackets s.inbound.items.length

def enterSession (s : MqttTask) : MqttTask :=
  awaitSession { s.pushMqttStatus true 0 "CONNECTED" s.config.host.items with
    pendingPublish := none, phase := .session }

/-- `mqtt_wait_for_packet` up to its next read, with what follows the packet. -/
def waitForPacket (s : MqttTask) (waiting : MqttPhase) (accepted : List UInt8 → Bool)
    (next : MqttTask → MqttTask) : MqttTask :=
  match takeMqttPacket s.inbound with
  | none => { s with phase := waiting }
  | some (packet, inbound) =>
    let s := { s with inbound, taken := s.taken ++ [packet.items] }
    if accepted packet.items then next s else s.protocolError

def waitForConnack (s : MqttTask) : MqttTask :=
  s.waitForPacket .waitConnack connackAccepted fun s => { s with phase := .sendSubscribe }

def waitForSuback (s : MqttTask) : MqttTask :=
  s.waitForPacket .waitSuback subackAccepted enterSession

/-- Bytes read go to the inbound buffer; when they do not fit the connection is
given up. -/
def receive (s : MqttTask) (chunk : List UInt8) (next failed : MqttTask → MqttTask) : MqttTask :=
  let s := { s with received := s.received ++ chunk }
  match s.inbound.extend chunk with
  | none => failed s
  | some inbound => next { s with inbound }

/-- What a read into the 512-byte buffer can return. -/
def IsRead (chunk : List UInt8) : Prop := chunk ≠ [] ∧ chunk.length ≤ 512

instance (chunk : List UInt8) : Decidable (IsRead chunk) :=
  inferInstanceAs (Decidable (chunk ≠ [] ∧ chunk.length ≤ 512))

def step (s : MqttTask) (input : MqttInput) : Option MqttTask :=
  match s.phase, input with
  | .idle, .command command _ => some (s.applyCommand command)
  | .idle, .attempt configUp connected => some (s.attempt configUp connected)
  | .parked, .command command _ => some { s.applyCommand command with phase := .idle }
  | .waitConfigUp, .command command _ => some { s.applyCommand command with phase := .idle }
  | .waitConfigUp, .configUp => some { s with phase := .idle }
  | .sendConnect, .written ok =>
    if ok && (buildMqttConnectPacket s.config).isSome then some s.waitForConnack
    else some s.protocolError
  | .waitConnack, .read chunk =>
    if IsRead chunk then some (s.receive chunk waitForConnack protocolError) else none
  | .waitConnack, .readEnds => some s.protocolError
  | .sendSubscribe, .written ok =>
    if ok && (buildMqttSubscribePacket s.config).isSome then some s.waitForSuback
    else some s.protocolError
  | .waitSuback, .read chunk =>
    if IsRead chunk then some (s.receive chunk waitForSuback protocolError) else none
  | .waitSuback, .readEnds => some s.protocolError
  | .session, .read chunk =>
    if IsRead chunk then some (s.receive chunk awaitSession endSession) else none
  | .session, .readEnds => some s.endSession
  | .session, .command (.configure next) _ =>
    if next ≠ s.config then some { s with config := next }.endSession else some s.awaitSession
  | .session, .command (.publish message) written =>
    let packet := buildMqttPublishPacket message.topic.items message.payload.items message.retain
    if written && packet.isSome then some s.awaitSession else some s.endSession
  | .session, .keepalive written => if written then some s.awaitSession else some s.endSession
  | _, _ => none

end MqttTask

def mqttMachine : Machine MqttTask MqttInput where
  start s := s = {}
  step := MqttTask.step

namespace MqttTask

/-! ## What a step can do -/

inductive StepEffect (s : MqttTask) : MqttInput → MqttTask → Prop where
  | stored (hphase : s.phase = .idle) (command : MqttTaskCommand) (written : Bool) :
      StepEffect s (.command command written) (s.applyCommand command)
  | attempted (hphase : s.phase = .idle) (configUp connected : Bool) :
      StepEffect s (.attempt configUp connected) (s.attempt configUp connected)
  | woken (hphase : s.phase ≠ .session) (command : MqttTaskCommand) (written : Bool) :
      StepEffect s (.command command written) { s.applyCommand command with phase := .idle }
  | configUp (hphase : s.phase = .waitConfigUp) : StepEffect s .configUp { s with phase := .idle }
  | connectSent (hphase : s.phase = .sendConnect) : StepEffect s (.written true) s.waitForConnack
  | subscribeSent (hphase : s.phase = .sendSubscribe) : StepEffect s (.written true) s.waitForSuback
  | notSent (ok : Bool) : StepEffect s (.written ok) s.protocolError
  | handshakeEnded : StepEffect s .readEnds s.protocolError
  | connackRead (hphase : s.phase = .waitConnack) (chunk : List UInt8) :
      StepEffect s (.read chunk) (s.receive chunk waitForConnack protocolError)
  | subackRead (hphase : s.phase = .waitSuback) (chunk : List UInt8) :
      StepEffect s (.read chunk) (s.receive chunk waitForSuback protocolError)
  | sessionRead (hphase : s.phase = .session) (chunk : List UInt8) :
      StepEffect s (.read chunk) (s.receive chunk awaitSession endSession)
  | kept (hphase : s.phase = .session) (input : MqttInput) : StepEffect s input s.awaitSession
  | ended (hphase : s.phase = .session) (input : MqttInput) : StepEffect s input s.endSession
  | reconfigured (hphase : s.phase = .session) (next : MqttTaskConfig) (written : Bool) :
      StepEffect s (.command (.configure next) written) { s with config := next }.endSession

theorem stepEffect_step {s t : MqttTask} {input : MqttInput} (h : s.step input = some t) :
    StepEffect s input t := by
  unfold step at h
  split at h
  all_goals rename_i hphase
  · cases h
    exact .stored hphase _ _
  · cases h
    exact .attempted hphase _ _
  · cases h
    exact .woken (by rw [hphase]; decide) _ _
  · cases h
    exact .woken (by rw [hphase]; decide) _ _
  · cases h
    exact .configUp hphase
  · -- CONNECT written
    split at h
    · rename_i hwritten
      cases h
      rw [Bool.and_eq_true] at hwritten
      rw [hwritten.1]
      exact .connectSent hphase
    · cases h
      exact .notSent _
  · split at h
    · cases h
      exact .connackRead hphase _
    · cases h
  · cases h
    exact .handshakeEnded
  · -- SUBSCRIBE written
    split at h
    · rename_i hwritten
      cases h
      rw [Bool.and_eq_true] at hwritten
      rw [hwritten.1]
      exact .subscribeSent hphase
    · cases h
      exact .notSent _
  · split at h
    · cases h
      exact .subackRead hphase _
    · cases h
  · cases h
    exact .handshakeEnded
  · split at h
    · cases h
      exact .sessionRead hphase _
    · cases h
  · cases h
    exact .ended hphase _
  · -- a new configuration ends the session
    split at h
    · cases h
      exact .reconfigured hphase _ _
    · cases h
      exact .kept hphase _
  · dsimp only at h
    split at h
    · cases h
      exact .kept hphase _
    · cases h
      exact .ended hphase _
  · split at h
    · cases h
      exact .kept hphase _
    · cases h
      exact .ended hphase _
  · cases h

/-! ## What the operations do -/

/-- The packet loop drains the inbound buffer. -/
theorem handlePackets_eq (fuel : ℕ) (s : MqttTask) :
    ∃ inbound : HVec UInt8 2048,
      inbound.items = (drainFuel packetLength fuel s.inbound.items).2 ∧
      s.handlePackets fuel =
        { s with
          inbound
          taken := s.taken ++ (drainFuel packetLength fuel s.inbound.items).1
          events := s.events ++
            (drainFuel packetLength fuel s.inbound.items).1.filterMap packetEvent } := by
  induction fuel generalizing s with
  | zero => exact ⟨s.inbound, rfl, by simp [handlePackets, drainFuel]⟩
  | succ fuel ih =>
    rw [handlePackets, drainFuel]
    cases hlen : packetLength s.inbound.items with
    | none =>
      rw [takeMqttPacket_eq_none hlen]
      exact ⟨s.inbound, rfl, by simp⟩
    | some n =>
      obtain ⟨packet, htake, hpacket⟩ := takeMqttPacket_eq_some hlen
      obtain ⟨inbound, hinbound, heq⟩ := ih { s with
        inbound := s.inbound.dropFirst n
        taken := s.taken ++ [packet.items]
        events := s.events ++ (packetEvent packet.items).toList }
      rw [htake]
      refine ⟨inbound, hinbound, heq.trans ?_⟩
      have hfilter : ∀ p packets, (packetEvent p).toList ++ packets.filterMap packetEvent =
          (p :: packets).filterMap packetEvent := by
        intro p packets
        cases h : packetEvent p <;> simp [h]
      simp only [List.append_assoc, List.singleton_append, hfilter, hpacket,
        Bounded.items_dropFirst]

/-- A round of the session loop drains the inbound buffer. -/
theorem awaitSession_eq (s : MqttTask) :
    ∃ inbound : HVec UInt8 2048, inbound.items = (drain packetLength s.inbound.items).2 ∧
      s.awaitSession =
        { s with
          inbound
          taken := s.taken ++ (drain packetLength s.inbound.items).1
          events := s.events ++ (drain packetLength s.inbound.items).1.filterMap packetEvent } :=
  handlePackets_eq _ s

/-! ## Connections that open with an empty buffer -/

/-- The packets taken on this connection consist of bytes read on it: they are
the beginning of what was read, cut. -/
def Isolated (s : MqttTask) : Prop := s.taken.flatten <+: s.received

instance (s : MqttTask) : Decidable s.Isolated :=
  inferInstanceAs (Decidable (s.taken.flatten <+: s.received))

/-- What was read on this connection is what was taken and what is buffered. -/
def Balanced (s : MqttTask) : Prop := s.received = s.taken.flatten ++ s.inbound.items

theorem Balanced.isolated {s : MqttTask} (h : s.Balanced) : s.Isolated := by
  rw [Isolated, h]
  exact List.prefix_append _ _

theorem Balanced.awaitSession {s : MqttTask} (h : s.Balanced) : s.awaitSession.Balanced := by
  obtain ⟨inbound, hinbound, heq⟩ := awaitSession_eq s
  rw [heq, Balanced]
  simp only
  rw [h, hinbound, List.flatten_append, List.append_assoc, drain_flatten]

theorem Balanced.enterSession {s : MqttTask} (h : s.Balanced) : s.enterSession.Balanced := by
  have hstatus : Balanced { s.pushMqttStatus true 0 "CONNECTED" s.config.host.items with
    pendingPublish := none, phase := .session } := h
  exact hstatus.awaitSession

theorem Balanced.waitForPacket {s : MqttTask} {waiting : MqttPhase} {accepted : List UInt8 → Bool}
    {next : MqttTask → MqttTask} (h : s.Balanced) (hnext : ∀ s, s.Balanced → (next s).Balanced) :
    (s.waitForPacket waiting accepted next).Balanced := by
  rw [MqttTask.waitForPacket]
  cases hlen : packetLength s.inbound.items with
  | none =>
    rw [takeMqttPacket_eq_none hlen]
    exact h
  | some n =>
    obtain ⟨packet, htake, hpacket⟩ := takeMqttPacket_eq_some hlen
    rw [htake]
    have hcut : Balanced
        { s with inbound := s.inbound.dropFirst n, taken := s.taken ++ [packet.items] } := by
      rw [Balanced]
      simp only [List.flatten_append, List.flatten_cons, List.flatten_nil, List.append_nil,
        List.append_assoc, Bounded.items_dropFirst, hpacket, List.take_append_drop]
      exact h
    dsimp only
    split_ifs
    · exact hnext _ hcut
    · exact hcut

theorem Balanced.waitForConnack {s : MqttTask} (h : s.Balanced) : s.waitForConnack.Balanced :=
  h.waitForPacket fun _ h => h

theorem Balanced.waitForSuback {s : MqttTask} (h : s.Balanced) : s.waitForSuback.Balanced :=
  h.waitForPacket fun _ hs => hs.enterSession

end MqttTask

/-- The task has a connection. -/
def MqttPhase.Connected : MqttPhase → Prop
  | .idle | .parked | .waitConfigUp => False
  | _ => True

namespace MqttTask

structure Invariant (s : MqttTask) : Prop where
  isolated : s.Isolated
  balanced : s.phase.Connected → s.Balanced
  fresh : s.phase = .sendConnect → s.received = [] ∧ s.taken = []

theorem Invariant.of_balanced {s : MqttTask} (h : s.Balanced) (hphase : s.phase ≠ .sendConnect) :
    s.Invariant :=
  ⟨h.isolated, fun _ => h, fun hs => absurd hs hphase⟩

/-- Without a connection only the packets already taken matter. -/
theorem Invariant.of_isolated {s : MqttTask} (h : s.Isolated) (hphase : ¬ s.phase.Connected) :
    s.Invariant := by
  refine ⟨h, fun hs => absurd hs hphase, fun hs => ?_⟩
  rw [hs] at hphase
  exact absurd trivial hphase

theorem Isolated.protocolError {s : MqttTask} (h : s.Isolated) : s.protocolError.Invariant :=
  .of_isolated h (by simp [MqttTask.protocolError, MqttPhase.Connected])

theorem Isolated.endSession {s : MqttTask} (h : s.Isolated) : s.endSession.Invariant :=
  .of_isolated h (by simp [MqttTask.endSession, MqttPhase.Connected])

theorem phase_awaitSession (s : MqttTask) : s.awaitSession.phase = s.phase := by
  obtain ⟨inbound, _, heq⟩ := awaitSession_eq s
  rw [heq]

theorem phase_enterSession (s : MqttTask) : s.enterSession.phase = .session :=
  phase_awaitSession _

/-- Waiting for a packet does not lead back to the CONNECT packet. -/
theorem phase_waitForPacket_ne {s : MqttTask} {waiting : MqttPhase} {accepted : List UInt8 → Bool}
    {enter : MqttTask → MqttTask} (hwaiting : waiting ≠ .sendConnect)
    (henter : ∀ s, (enter s).phase ≠ .sendConnect) :
    (s.waitForPacket waiting accepted enter).phase ≠ .sendConnect := by
  rw [waitForPacket]
  cases takeMqttPacket s.inbound with
  | none => exact hwaiting
  | some r =>
    dsimp only
    split_ifs
    · exact henter _
    · simp [protocolError]

theorem Balanced.invariant_waitForConnack {s : MqttTask} (h : s.Balanced) :
    s.waitForConnack.Invariant :=
  .of_balanced h.waitForConnack (phase_waitForPacket_ne (by decide) fun _ => nofun)

theorem Balanced.invariant_waitForSuback {s : MqttTask} (h : s.Balanced) :
    s.waitForSuback.Invariant := by
  refine .of_balanced h.waitForSuback (phase_waitForPacket_ne (by decide) fun s => ?_)
  rw [phase_enterSession]
  decide

theorem Balanced.invariant_awaitSession {s : MqttTask} (h : s.Balanced)
    (hphase : s.phase = .session) : s.awaitSession.Invariant := by
  refine .of_balanced h.awaitSession ?_
  rw [phase_awaitSession, hphase]
  decide

/-- A read keeps the invariant when what follows it does. -/
theorem Balanced.invariant_receive {s : MqttTask} (h : s.Balanced) (chunk : List UInt8)
    {next failed : MqttTask → MqttTask}
    (hnext : ∀ t, t.phase = s.phase → t.Balanced → (next t).Invariant)
    (hfailed : ∀ t, t.Isolated → (failed t).Invariant) :
    (s.receive chunk next failed).Invariant := by
  unfold receive
  dsimp only
  cases hextend : s.inbound.extend chunk with
  | none =>
    refine hfailed _ ?_
    exact h.isolated.trans (List.prefix_append _ _)
  | some inbound =>
    refine hnext _ rfl ?_
    show s.received ++ chunk = s.taken.flatten ++ inbound.items
    rw [h, Bounded.items_of_extend hextend, List.append_assoc]

/-- A connection opens with nothing in the inbound buffer. -/
def OpensEmpty (s : MqttTask) : MqttInput → Prop
  | .attempt _ true => s.inbound = Bounded.empty
  | _ => True

theorem Invariant.attempt {s : MqttTask} (h : s.Invariant) (hphase : s.phase = .idle)
    {configUp connected : Bool} (hopen : s.OpensEmpty (.attempt configUp connected)) :
    (s.attempt configUp connected).Invariant := by
  unfold MqttTask.attempt
  split
  · exact .of_isolated h.isolated id
  · split
    · exact .of_isolated h.isolated id
    · split
      · exact .of_isolated h.isolated id
      · split
        · exact .of_isolated h.isolated id
        · split
          · rename_i hconnected
            rw [hconnected] at hopen
            have hempty : s.inbound = Bounded.empty := hopen
            have hbalanced : s.openConnection.Balanced := by
              simp [Balanced, openConnection, hempty]
            exact ⟨hbalanced.isolated, fun _ => hbalanced, fun _ => ⟨rfl, rfl⟩⟩
          · refine .of_isolated h.isolated ?_
            show ¬ s.phase.Connected
            rw [hphase]
            exact id

theorem Isolated.applyCommand {s : MqttTask} (h : s.Isolated) (command : MqttTaskCommand) :
    (s.applyCommand command).Isolated := by
  cases command <;> exact h

theorem phase_applyCommand (s : MqttTask) (command : MqttTaskCommand) :
    (s.applyCommand command).phase = s.phase := by
  cases command <;> rfl

theorem Invariant.step {s s' : MqttTask} {input : MqttInput} (h : s.Invariant)
    (hopen : s.OpensEmpty input) (hstep : s.step input = some s') : s'.Invariant := by
  have hbalanced {phase : MqttPhase} (hphase : s.phase = phase) (hconnected : phase.Connected) :
      s.Balanced := h.balanced (hphase ▸ hconnected)
  cases stepEffect_step hstep with
  | stored hphase command written =>
    refine .of_isolated (h.isolated.applyCommand _) ?_
    rw [phase_applyCommand, hphase]
    exact id
  | attempted hphase configUp connected => exact h.attempt hphase hopen
  | woken hphase command written => exact .of_isolated (h.isolated.applyCommand _) id
  | configUp hphase => exact .of_isolated h.isolated id
  | connectSent hphase => exact (hbalanced hphase trivial).invariant_waitForConnack
  | subscribeSent hphase => exact (hbalanced hphase trivial).invariant_waitForSuback
  | notSent ok => exact h.isolated.protocolError
  | handshakeEnded => exact h.isolated.protocolError
  | connackRead hphase chunk =>
    exact (hbalanced hphase trivial).invariant_receive _
      (fun _ _ ht => ht.invariant_waitForConnack) fun _ ht => ht.protocolError
  | subackRead hphase chunk =>
    exact (hbalanced hphase trivial).invariant_receive _
      (fun _ _ ht => ht.invariant_waitForSuback) fun _ ht => ht.protocolError
  | sessionRead hphase chunk =>
    refine (hbalanced hphase trivial).invariant_receive _ (fun t ht hb => ?_) fun _ ht => ht.endSession
    exact hb.invariant_awaitSession (ht.trans hphase)
  | kept hphase input => exact (hbalanced hphase trivial).invariant_awaitSession hphase
  | ended hphase input => exact h.isolated.endSession
  | reconfigured hphase next written =>
    exact Isolated.endSession (s := { s with config := next }) h.isolated

theorem invariant_of_reach {s : MqttTask} (h : mqttMachine.Reach OpensEmpty s) : s.Invariant := by
  refine h.invariant ?_ fun _ _ _ hinv hopen hstep => hinv.step hopen hstep
  rintro _ rfl
  exact .of_balanced rfl (by decide)

/-! ## A broker that answers -/

/-- Inputs one after the other; one the task does not wait for is lost. -/
def play (s : MqttTask) (inputs : List MqttInput) : MqttTask :=
  inputs.foldl (fun s input => (s.step input).getD s) s

theorem play_append (s : MqttTask) (inputs inputs' : List MqttInput) :
    s.play (inputs ++ inputs') = (s.play inputs).play inputs' := List.foldl_append

theorem play_cons (s : MqttTask) (input : MqttInput) (inputs : List MqttInput) :
    s.play (input :: inputs) = ((s.step input).getD s).play inputs := rfl

/-- The broker answers CONNECT with `toConnect` and SUBSCRIBE with `toSubscribe`,
both in pieces. -/
def brokerAnswers (toConnect toSubscribe : List (List UInt8)) : List MqttInput :=
  .written true :: toConnect.map .read ++ .written true :: toSubscribe.map .read

/-- CONNACK with return code 0. -/
def connack (sessionPresent : Bool) : List UInt8 :=
  [0x20, 0x02, if sessionPresent then 1 else 0, 0x00]

/-- SUBACK for packet 1 with one return code. -/
def suback (returnCode : UInt8) : List UInt8 := [0x90, 0x03, 0x00, 0x01, returnCode]

theorem isMessage_connack (sessionPresent : Bool) :
    IsMessage packetLength (connack sessionPresent) := by
  cases sessionPresent <;> rfl

theorem isMessage_suback (returnCode : UInt8) : IsMessage packetLength (suback returnCode) := rfl

theorem connackAccepted_connack (sessionPresent : Bool) :
    connackAccepted (connack sessionPresent) := by
  cases sessionPresent <;> decide

theorem subackAccepted_suback (returnCode : UInt8) : subackAccepted (suback returnCode) := by
  simp only [suback, subackAccepted]
  decide

/-- An incomplete packet and one read fit the inbound buffer. -/
theorem exists_extend {inbound : HVec UInt8 2048} {chunk : List UInt8} {ms : List (List UInt8)}
    (hms : ∀ m ∈ ms, IsMessage packetLength m) (hstarts : inbound.items <+: ms.flatten)
    (hnone : packetLength inbound.items = none) (hread : IsRead chunk) :
    ∃ inbound', inbound.extend chunk = some inbound' ∧
      inbound'.items = inbound.items ++ chunk := by
  have hshort := lengthPrefixed_packetLength.length_le_of_len_eq_none hms
    (fun m hm => packetLength_le (hms m hm)) hstarts hnone
  have hfits : (inbound.extend chunk).isSome := by
    have hlen := hread.2
    rw [Bounded.isSome_extend_iff, weight_one, weight_one]
    omega
  obtain ⟨inbound', hextend⟩ := Option.isSome_iff_exists.1 hfits
  exact ⟨inbound', hextend, Bounded.items_of_extend hextend⟩

/-- A read while the task waits for the first packet `m` of a stream: either the
packet is still incomplete, or it is taken and what follows it is buffered. -/
theorem receive_waitForPacket (waiting : MqttPhase) (accepted : List UInt8 → Bool)
    (next failed : MqttTask → MqttTask) {s t : MqttTask} {chunk rest m : List UInt8}
    {ms : List (List UInt8)}
    (ht : s.receive chunk (fun s => s.waitForPacket waiting accepted next) failed = t)
    (hms : ∀ m' ∈ m :: ms, IsMessage packetLength m')
    (hstream : s.inbound.items ++ (chunk ++ rest) = (m :: ms).flatten)
    (hnone : packetLength s.inbound.items = none) (hread : IsRead chunk) :
    (packetLength (s.inbound.items ++ chunk) = none ∧ t.phase = waiting ∧ t.taken = s.taken ∧
        t.inbound.items = s.inbound.items ++ chunk) ∨
      ∃ u b, s.inbound.items ++ chunk = m ++ b ∧ u.taken = s.taken ++ [m] ∧ u.inbound.items = b ∧
        t = if accepted m then next u else u.protocolError := by
  have hstarts : s.inbound.items ++ chunk <+: (m :: ms).flatten :=
    ⟨rest, by rw [← hstream, List.append_assoc]⟩
  obtain ⟨inbound, hextend, hitems⟩ :=
    exists_extend hms ((List.prefix_append _ _).trans hstarts) hnone hread
  rw [← ht]
  unfold receive waitForPacket
  simp only [hextend]
  cases hlen : packetLength (s.inbound.items ++ chunk) with
  | none =>
    rw [takeMqttPacket_eq_none (by rw [hitems]; exact hlen)]
    exact .inl ⟨rfl, rfl, rfl, hitems⟩
  | some n =>
    obtain ⟨rfl, b, hb, _⟩ := lengthPrefixed_packetLength.eq_append_of_len
      (hms m (List.mem_cons_self ..)) hstarts hlen
    rw [← hitems] at hlen
    obtain ⟨packet, htake, hpacket⟩ := takeMqttPacket_eq_some hlen
    rw [hitems, hb, List.take_left] at hpacket
    rw [htake]
    refine .inr ⟨{ s with
      received := s.received ++ chunk
      inbound := inbound.dropFirst m.length
      taken := s.taken ++ [packet.items] }, b, hb, ?_, ?_, ?_⟩
    · rw [hpacket]
    · rw [Bounded.items_dropFirst, hitems, hb, List.drop_left]
    · simp only [hpacket]

theorem play_read {s t : MqttTask} {chunk : List UInt8} (hstep : s.step (.read chunk) = some t)
    (chunks : List (List UInt8)) :
    s.play ((chunk :: chunks).map .read) = t.play (chunks.map .read) := by
  rw [List.map_cons, play_cons, hstep]
  rfl

/-- Bytes for a connection that was given up are lost. -/
theorem play_reads_idle {s : MqttTask} (hphase : s.phase = .idle) (chunks : List (List UInt8)) :
    s.play (chunks.map .read) = s := by
  induction chunks with
  | nil => rfl
  | cons chunk chunks ih =>
    rw [List.map_cons, play_cons]
    have hstep : s.step (.read chunk) = none := by simp [step, hphase]
    rw [hstep]
    exact ih

/-- A CONNACK read in pieces is taken and accepted. -/
theorem play_reads_connack {s : MqttTask} {chunks : List (List UInt8)} {m : List UInt8}
    (hphase : s.phase = .waitConnack) (hreads : ∀ chunk ∈ chunks, IsRead chunk)
    (hm : IsMessage packetLength m) (haccepted : connackAccepted m)
    (hstream : s.inbound.items ++ chunks.flatten = m)
    (hnone : packetLength s.inbound.items = none) :
    let t := s.play (chunks.map .read)
    t.phase = .sendSubscribe ∧ t.inbound.items = [] ∧ t.taken = s.taken ++ [m] := by
  induction chunks generalizing s with
  | nil =>
    rw [List.flatten_nil, List.append_nil] at hstream
    rw [hstream, hm] at hnone
    cases hnone
  | cons chunk chunks ih =>
    have hread := hreads chunk (List.mem_cons_self ..)
    have hreads' : ∀ c ∈ chunks, IsRead c := fun c hc => hreads c (List.mem_cons_of_mem _ hc)
    have hstep : s.step (.read chunk) = some (s.receive chunk waitForConnack protocolError) := by
      simp [step, hphase, hread]
    rw [play_read hstep]
    have hms : ∀ m' ∈ [m], IsMessage packetLength m' := by simpa using hm
    rw [List.flatten_cons] at hstream
    generalize hreceive : s.receive chunk waitForConnack protocolError = t
    obtain ⟨hlen, hwait, htaken, hitems⟩ | ⟨u, b, hb, htaken, hitems, heq⟩ :=
      receive_waitForPacket .waitConnack connackAccepted _ _ hreceive hms
        (by simpa using hstream) hnone hread
    · -- not yet complete
      rw [← htaken]
      refine ih hwait hreads' ?_ ?_
      · rw [hitems, List.append_assoc]
        exact hstream
      · rwa [hitems]
    · -- complete, and nothing follows it
      rw [if_pos haccepted] at heq
      rw [← List.append_assoc, hb, List.append_assoc, List.append_right_eq_self] at hstream
      obtain ⟨rfl, hrest⟩ := List.append_eq_nil_iff.1 hstream
      have hnil : chunks = [] := by
        refine List.eq_nil_iff_forall_not_mem.2 fun c hc => ?_
        exact (hreads' c hc).1 (List.flatten_eq_nil_iff.1 hrest c hc)
      rw [hnil, heq]
      exact ⟨rfl, hitems, htaken⟩

/-! ### The stream after SUBSCRIBE -/

/-- Of the messages `ms`, some are taken since `before` and the rest is what is
buffered and what is still to come. -/
def Cut (before ms : List (List UInt8)) (s : MqttTask) (rest : List UInt8) : Prop :=
  ∃ done, s.taken = before ++ done ∧ done <+: ms ∧
    done.flatten ++ (s.inbound.items ++ rest) = ms.flatten

theorem Cut.awaitSession {before ms : List (List UInt8)} {s : MqttTask} {rest : List UInt8}
    (hms : ∀ m ∈ ms, IsMessage packetLength m) (h : Cut before ms s rest) :
    Cut before ms s.awaitSession rest ∧ packetLength s.awaitSession.inbound.items = none := by
  obtain ⟨done, htaken, ⟨left, rfl⟩, hstream⟩ := h
  obtain ⟨inbound, hinbound, heq⟩ := awaitSession_eq s
  rw [List.flatten_append] at hstream
  have hleft := List.append_cancel_left hstream
  have hmore := lengthPrefixed_packetLength.drain_prefix
    (fun m hm => hms m (List.mem_append_right _ hm)) ⟨rest, hleft⟩
  rw [heq]
  constructor
  · refine ⟨done ++ (drain packetLength s.inbound.items).1, ?_, ?_, ?_⟩
    · rw [htaken, List.append_assoc]
    · exact List.prefix_append_right_inj done |>.2 hmore
    · rw [List.flatten_append, List.flatten_append, List.append_assoc, ← hleft]
      rw [hinbound, ← List.append_assoc _ _ rest, drain_flatten]
  · rw [hinbound]
    exact lengthPrefixed_packetLength.len_drain _

/-- A read in the session goes on cutting the stream. -/
theorem Cut.read {before ms : List (List UInt8)} {s : MqttTask} {chunk rest : List UInt8}
    (hms : ∀ m ∈ ms, IsMessage packetLength m) (hphase : s.phase = .session)
    (h : Cut before ms s (chunk ++ rest)) (hnone : packetLength s.inbound.items = none)
    (hread : IsRead chunk) :
    ∃ t, s.step (.read chunk) = some t ∧ t.phase = .session ∧ Cut before ms t rest ∧
      packetLength t.inbound.items = none := by
  obtain ⟨done, htaken, ⟨left, rfl⟩, hstream⟩ := h
  have hleft := hstream
  rw [List.flatten_append] at hleft
  obtain ⟨inbound, hextend, hitems⟩ := exists_extend
    (fun m hm => hms m (List.mem_append_right _ hm))
    ⟨chunk ++ rest, List.append_cancel_left hleft⟩ hnone hread
  have hcut : Cut before (done ++ left)
      { s with received := s.received ++ chunk, inbound := inbound } rest := by
    refine ⟨done, htaken, List.prefix_append _ _, ?_⟩
    show done.flatten ++ (inbound.items ++ rest) = _
    rw [hitems, List.append_assoc]
    exact hstream
  obtain ⟨hcut', hnone'⟩ := hcut.awaitSession hms
  refine ⟨_, ?_, ?_, hcut', hnone'⟩
  · simp [step, hphase, hread, receive, hextend]
  · rw [phase_awaitSession]
    exact hphase

/-- Once the whole stream is read in the session, all of it is taken. -/
theorem play_reads_session {before ms chunks : List (List UInt8)} {s : MqttTask}
    (hms : ∀ m ∈ ms, IsMessage packetLength m) (hphase : s.phase = .session)
    (hreads : ∀ chunk ∈ chunks, IsRead chunk) (h : Cut before ms s chunks.flatten)
    (hnone : packetLength s.inbound.items = none) :
    let t := s.play (chunks.map .read)
    t.phase = .session ∧ t.taken = before ++ ms := by
  induction chunks generalizing s with
  | nil =>
    obtain ⟨done, htaken, hdone, hstream⟩ := h
    rw [List.flatten_nil, List.append_nil] at hstream
    obtain ⟨rfl, _⟩ := lengthPrefixed_packetLength.eq_of_drained hms hdone hstream hnone
    exact ⟨hphase, htaken⟩
  | cons chunk chunks ih =>
    rw [List.flatten_cons] at h
    obtain ⟨t, hstep, hphase', hcut, hnone'⟩ :=
      h.read hms hphase hnone (hreads chunk (List.mem_cons_self ..))
    rw [play_read hstep]
    exact ih hphase' (fun c hc => hreads c (List.mem_cons_of_mem _ hc)) hcut hnone'

/-- The first packet after SUBSCRIBE decides: SUBACK lets the whole stream through,
anything else ends the connection. -/
theorem play_reads_suback {s : MqttTask} {chunks ms : List (List UInt8)} {m : List UInt8}
    (hphase : s.phase = .waitSuback) (hreads : ∀ chunk ∈ chunks, IsRead chunk)
    (hms : ∀ m' ∈ m :: ms, IsMessage packetLength m')
    (hstream : s.inbound.items ++ chunks.flatten = (m :: ms).flatten)
    (hnone : packetLength s.inbound.items = none) :
    let t := s.play (chunks.map .read)
    (subackAccepted m → t.phase = .session ∧ t.taken = s.taken ++ m :: ms) ∧
      (¬ subackAccepted m → t.phase = .idle) := by
  induction chunks generalizing s with
  | nil =>
    rw [List.flatten_nil, List.append_nil] at hstream
    rw [hstream, List.flatten_cons,
      lengthPrefixed_packetLength.len_append (hms m (List.mem_cons_self ..))] at hnone
    cases hnone
  | cons chunk chunks ih =>
    have hread := hreads chunk (List.mem_cons_self ..)
    have hreads' : ∀ c ∈ chunks, IsRead c := fun c hc => hreads c (List.mem_cons_of_mem _ hc)
    have hstep : s.step (.read chunk) = some (s.receive chunk waitForSuback protocolError) := by
      simp [step, hphase, hread]
    rw [play_read hstep]
    rw [List.flatten_cons] at hstream
    generalize hreceive : s.receive chunk waitForSuback protocolError = t
    obtain ⟨hlen, hwait, htaken, hitems⟩ | ⟨u, b, hb, htaken, hitems, heq⟩ :=
      receive_waitForPacket .waitSuback subackAccepted _ _ hreceive hms hstream hnone hread
    · -- not yet complete
      rw [← htaken]
      refine ih hwait hreads' ?_ ?_
      · rw [hitems, List.append_assoc]
        exact hstream
      · rwa [hitems]
    · rw [heq]
      rw [← List.append_assoc, hb, List.append_assoc] at hstream
      refine ⟨fun haccepted => ?_, fun hrejected => ?_⟩
      · rw [if_pos haccepted]
        have hcut : Cut s.taken (m :: ms) { u.pushMqttStatus true 0 "CONNECTED" u.config.host.items
            with pendingPublish := none, phase := .session } chunks.flatten := by
          refine ⟨[m], htaken, List.prefix_append [m] ms, ?_⟩
          show [m].flatten ++ (u.inbound.items ++ chunks.flatten) = _
          rw [hitems, List.flatten_singleton]
          exact hstream
        obtain ⟨hcut', hnone'⟩ := hcut.awaitSession hms
        exact play_reads_session hms (phase_enterSession u) hreads' hcut' hnone'
      · rw [if_neg hrejected]
        exact congrArg phase (play_reads_idle rfl chunks)

theorem waitForPacket_of_empty {s : MqttTask} {waiting : MqttPhase}
    {accepted : List UInt8 → Bool} {next : MqttTask → MqttTask} (h : s.inbound.items = []) :
    s.waitForPacket waiting accepted next = { s with phase := waiting } := by
  have hnone : packetLength s.inbound.items = none := by
    rw [h]
    exact lengthPrefixed_packetLength.nil
  rw [waitForPacket, takeMqttPacket_eq_none hnone]

/-- A connection that opens with an empty buffer, up to its SUBACK. -/
theorem play_brokerAnswers {s : MqttTask} {toConnect toSubscribe ms : List (List UInt8)}
    {m : List UInt8} (sessionPresent : Bool) (hphase : s.phase = .sendConnect)
    (hempty : s.inbound.items = []) (htaken : s.taken = [])
    (hconnect : ∀ chunk ∈ toConnect, IsRead chunk) (hsubscribe : ∀ chunk ∈ toSubscribe, IsRead chunk)
    (hconnack : toConnect.flatten = connack sessionPresent)
    (hms : ∀ m' ∈ m :: ms, IsMessage packetLength m')
    (hstream : toSubscribe.flatten = (m :: ms).flatten) :
    let t := s.play (brokerAnswers toConnect toSubscribe)
    (subackAccepted m → t.phase = .session ∧ t.taken = connack sessionPresent :: m :: ms) ∧
      (¬ subackAccepted m → t.phase = .idle) := by
  have hnil : packetLength [] = none := lengthPrefixed_packetLength.nil
  have hwritten : s.step (.written true) = some { s with phase := .waitConnack } := by
    simp [step, hphase, buildMqttConnectPacket_isSome, waitForConnack, waitForPacket_of_empty hempty]
  rw [brokerAnswers, play_append, play_cons s, hwritten, Option.getD_some]
  obtain ⟨hphase₁, hempty₁, htaken₁⟩ := play_reads_connack rfl hconnect
    (isMessage_connack sessionPresent) (connackAccepted_connack sessionPresent)
    (s := { s with phase := .waitConnack }) (by simp [hempty, hconnack]) (by simp [hempty, hnil])
  generalize play { s with phase := .waitConnack } (toConnect.map .read) = t at *
  have hwritten₁ : t.step (.written true) = some { t with phase := .waitSuback } := by
    simp [step, hphase₁, buildMqttSubscribePacket_isSome, waitForSuback, waitForPacket_of_empty hempty₁]
  rw [play_cons, hwritten₁, Option.getD_some]
  have hsuback := play_reads_suback rfl hsubscribe hms (s := { t with phase := .waitSuback })
    (by simp [hempty₁, hstream]) (by simp [hempty₁, hnil])
  have hbefore : t.taken = [connack sessionPresent] := by simpa [htaken] using htaken₁
  simpa [hbefore] using hsuback

/-! ## The contract -/

instance (s : MqttTask) (input : MqttInput) : Decidable (s.OpensEmpty input) :=
  match input with
  | .attempt _ true => inferInstanceAs (Decidable (s.inbound = Bounded.empty))
  | .attempt _ false | .command _ _ | .configUp | .written _ | .read _ | .readEnds
  | .keepalive _ => isTrue trivial

/-- A broker that answers CONNECT with CONNACK and SUBSCRIBE with SUBACK, however
its bytes are cut into reads, is accepted. -/
def AcceptsCorrectBroker (s : MqttTask) : Prop :=
  ∀ (sessionPresent : Bool) (returnCode : UInt8) (toConnect toSubscribe : List (List UInt8)),
    (∀ chunk ∈ toConnect, IsRead chunk) → (∀ chunk ∈ toSubscribe, IsRead chunk) →
    toConnect.flatten = connack sessionPresent → toSubscribe.flatten = suback returnCode →
    (s.play (brokerAnswers toConnect toSubscribe)).phase = .session

theorem inbound_eq_nil_of_sendConnect {s : MqttTask} (h : s.Invariant)
    (hphase : s.phase = .sendConnect) : s.inbound.items = [] ∧ s.taken = [] := by
  obtain ⟨hreceived, htaken⟩ := h.fresh hphase
  have hbalanced : s.Balanced := h.balanced (by rw [hphase]; trivial)
  rw [Balanced, hreceived, htaken] at hbalanced
  exact ⟨hbalanced.symm, htaken⟩

end MqttTask

open MqttTask

/-- In every run in which connections open with an empty inbound buffer, the
packets taken on a connection are cut from the bytes read on it, and a correct
broker is accepted. -/
theorem isolated_of_opensEmpty {s : MqttTask} (h : mqttMachine.Reach OpensEmpty s) :
    s.Isolated ∧ (s.phase = .sendConnect → s.AcceptsCorrectBroker) := by
  have hinv := invariant_of_reach h
  refine ⟨hinv.isolated, fun hphase => ?_⟩
  obtain ⟨hempty, htaken⟩ := inbound_eq_nil_of_sendConnect hinv hphase
  intro sessionPresent returnCode toConnect toSubscribe hconnect hsubscribe hconnack hsuback
  have hms : ∀ m ∈ [suback returnCode], IsMessage packetLength m := by
    simpa using isMessage_suback returnCode
  have hanswers := play_brokerAnswers sessionPresent hphase hempty htaken hconnect hsubscribe
    hconnack hms (by simpa using hsuback)
  exact (hanswers.1 (subackAccepted_suback returnCode)).1

def brokerConfig : MqttTaskConfig :=
  { wifiConnected := true, enabled := true, host := ⟨("192.168.1.4" : String), by decide⟩
    port := 1883 }

/-- Configured and connected. -/
def openingInputs : List MqttInput :=
  [.command (.configure brokerConfig) true, .attempt true true]

theorem isolated_at_first_connection :
    ∃ s : MqttTask, s.phase = .sendConnect ∧ s.Isolated ∧
      (s.phase = .sendConnect → s.AcceptsCorrectBroker) := by
  have hreach : mqttMachine.Reach OpensEmpty _ :=
    Machine.reach_of_run (Machine.Reach.start rfl) openingInputs rfl
  exact ⟨_, rfl, isolated_of_opensEmpty hreach⟩

/-- A connection cut off in the middle of its CONNACK leaves three bytes behind;
on the next one they complete a packet of both and a correct broker is rejected. -/
theorem stale_bytes_taken :
    (∃ s, mqttMachine.Reach Machine.Always s ∧ s.taken = [[0x20, 0x02, 0x00, 0x20]] ∧
        s.received = [0x20, 0x02, 0x00, 0x00] ∧ ¬ s.Isolated) ∧
      ∃ s, mqttMachine.Reach Machine.Always s ∧ s.phase = .sendConnect ∧
        ¬ s.AcceptsCorrectBroker := by
  have hreach : mqttMachine.Reach Machine.Always _ :=
    Machine.reach_of_run (Machine.Reach.start rfl) (openingInputs ++
      [.written true, .read [0x20, 0x02, 0x00], .readEnds, .attempt true true]) rfl
  refine ⟨?_, _, hreach, rfl, ?_⟩
  · have hagain := Machine.reach_of_run hreach [.written true, .read (connack false)] rfl
    exact ⟨_, hagain, rfl, rfl, by decide⟩
  · intro haccepts
    have hsession := haccepts false 0 [connack false] [suback 0] (by decide) (by decide) rfl rfl
    exact absurd hsession (by decide)

/-- A complete PUBLISH packet of at most 1024 bytes. -/
def IsPublish (packet : List UInt8) : Prop :=
  IsMessage packetLength packet ∧ ∃ first rest, packet = first :: rest ∧ first >>> 4 = 0x03

/-- The packets the session loop took: all but CONNACK and SUBACK. -/
def MqttTask.sessionPackets (s : MqttTask) : List (List UInt8) := s.taken.drop 2

theorem not_subackAccepted_of_isPublish {packet : List UInt8} (h : IsPublish packet) :
    ¬ subackAccepted packet := by
  obtain ⟨_, first, rest, rfl, hfirst⟩ := h
  simp only [subackAccepted, hfirst]
  decide

/-- A broker that sends some PUBLISH packets before its SUBACK and some after it:
the handshake succeeds and each of them reaches the session once, in order, if
and only if none came before. -/
theorem handshake_succeeds_iff {s : MqttTask} (h : mqttMachine.Reach OpensEmpty s)
    (hphase : s.phase = .sendConnect) (sessionPresent : Bool) (returnCode : UInt8)
    (early late toConnect toSubscribe : List (List UInt8))
    (hearly : ∀ packet ∈ early, IsPublish packet) (hlate : ∀ packet ∈ late, IsPublish packet)
    (hconnect : ∀ chunk ∈ toConnect, IsRead chunk) (hsubscribe : ∀ chunk ∈ toSubscribe, IsRead chunk)
    (hconnack : toConnect.flatten = connack sessionPresent)
    (hstream : toSubscribe.flatten = (early ++ suback returnCode :: late).flatten) :
    let t := s.play (brokerAnswers toConnect toSubscribe)
    (t.phase = .session ∧ t.sessionPackets = early ++ late) ↔ early = [] := by
  obtain ⟨hempty, htaken⟩ := inbound_eq_nil_of_sendConnect (invariant_of_reach h) hphase
  have hmessages : ∀ packet ∈ early ++ suback returnCode :: late,
      IsMessage packetLength packet := by
    intro packet hpacket
    rcases List.mem_append.1 hpacket with hpacket | hpacket
    · exact (hearly packet hpacket).1
    · rcases List.mem_cons.1 hpacket with rfl | hpacket
      · exact isMessage_suback returnCode
      · exact (hlate packet hpacket).1
  cases early with
  | nil =>
    have hanswers := play_brokerAnswers sessionPresent hphase hempty htaken hconnect hsubscribe
      hconnack hmessages hstream
    obtain ⟨hsession, hall⟩ := hanswers.1 (subackAccepted_suback returnCode)
    refine iff_of_true ⟨hsession, ?_⟩ rfl
    rw [sessionPackets, hall]
    rfl
  | cons first early =>
    have hanswers := play_brokerAnswers sessionPresent hphase hempty htaken hconnect hsubscribe
      hconnack hmessages hstream
    have hidle := hanswers.2
      (not_subackAccepted_of_isPublish (hearly first (List.mem_cons_self ..)))
    refine iff_of_false ?_ (List.cons_ne_nil _ _)
    rintro ⟨hsession, _⟩
    rw [hidle] at hsession
    cases hsession

/-- The retained summary of a peer. -/
def peerSummary : List UInt8 :=
  ((buildMqttPublishPacket "lb_mmwave/rooms/room-default/nodes/a/summary"
    "\x7b\"kind\":\"lb_room_summary\",\"node_id\":\"a\"\x7d" true).map (·.items)).getD []

theorem handshake_succeeds_then_summary :
    ∃ s : MqttTask, s.phase = .session ∧ s.sessionPackets = [peerSummary] := by
  have hreach : mqttMachine.Reach OpensEmpty _ :=
    Machine.reach_of_run (Machine.Reach.start rfl) openingInputs rfl
  have hpublish : IsPublish peerSummary := ⟨by decide +kernel, 0x31, _, by rfl, by decide⟩
  refine ⟨_, (handshake_succeeds_iff hreach rfl false 0 [] [peerSummary] [connack false]
    [suback 0, peerSummary] (by simp) (by simpa using hpublish) (by decide) ?_ rfl rfl).2 rfl⟩
  decide +kernel

/-- A broker that delivers a retained summary before its SUBACK is rejected. -/
theorem early_summary_rejected :
    ∃ s, mqttMachine.Reach Machine.Always s ∧ s.phase = .sendConnect ∧ IsPublish peerSummary ∧
      let t := s.play (brokerAnswers [connack false] [peerSummary, suback 0])
      t.phase = .idle ∧ t.sessionPackets = [] := by
  have hreach : mqttMachine.Reach Machine.Always _ :=
    Machine.reach_of_run (Machine.Reach.start rfl) openingInputs rfl
  exact ⟨_, hreach, rfl, ⟨by decide +kernel, 0x31, _, by rfl, by decide⟩, by decide +kernel,
    by decide +kernel⟩

end EspWaveRider.Firmware
