import EspWaveRider.Firmware.MqttTask

/-!
# The keep-alive of a session

The session loop of `station_mqtt_summary_task` (`rust/firmware/esp32s3/src/main.rs`)
against a clock: every round waits for bytes, for a command or for a timer of half the
keep-alive, which is set anew each time.

* `TimedSession.step` — an event that comes before the timer does, or the timer;
* `keepAlive_honoured_iff` — two packets follow each other within the keep-alive in
  every run whose waits begin early enough after the last packet.
-/

namespace EspWaveRider.Firmware

/-- The keep-alive announced in CONNECT. -/
def keepaliveMs : ℕ := mqttKeepaliveSecs * 1000

/-- The timer of the session loop. -/
def keepaliveTimeoutMs : ℕ := max (mqttKeepaliveSecs / 2) 1 * 1000

/-- A session with the time its present wait began and the times at which control
packets were sent, the latest first. -/
structure TimedSession where
  task : MqttTask
  waitingSince : ℕ
  lastSent : ℕ
  earlier : List ℕ
  deriving DecidableEq

/-- The loop answers the event with a control packet. -/
def MqttInput.sends : MqttInput → Bool
  | .keepalive _ => true
  | .command (.publish message) _ =>
    (buildMqttPublishPacket message.topic.items message.payload.items message.retain).isSome
  | _ => false

namespace TimedSession

/-- The event can happen at this time: the timer when it is due, everything else before
or together with it.  Writes succeed. -/
def Within (s : TimedSession) (time : ℕ) : MqttInput → Prop
  | .keepalive written => written = true ∧ time = s.waitingSince + keepaliveTimeoutMs
  | .command _ written => written = true ∧ s.waitingSince ≤ time ∧
      time ≤ s.waitingSince + keepaliveTimeoutMs
  | _ => s.waitingSince ≤ time ∧ time ≤ s.waitingSince + keepaliveTimeoutMs

instance (s : TimedSession) (time : ℕ) (input : MqttInput) : Decidable (s.Within time input) :=
  match input with
  | .keepalive _ => inferInstanceAs (Decidable (_ ∧ _))
  | .command _ _ => inferInstanceAs (Decidable (_ ∧ _ ∧ _))
  | .configUp | .attempt _ _ | .written _ | .read _ | .readEnds =>
    inferInstanceAs (Decidable (_ ∧ _))

/-- The loop reacts when the event occurs, and waits again from then on. -/
def step (s : TimedSession) (e : ℕ × MqttInput) : Option TimedSession :=
  if s.task.phase = .session ∧ s.Within e.1 e.2 then
    (s.task.step e.2).map fun task =>
      if e.2.sends then
        { task, waitingSince := e.1, lastSent := e.1, earlier := s.lastSent :: s.earlier }
      else { s with task, waitingSince := e.1 }
  else none

/-- No two packets that follow each other are further apart than the keep-alive. -/
def Honoured (s : TimedSession) : Prop :=
  List.IsChain (fun later earlier => later ≤ earlier + keepaliveMs) (s.lastSent :: s.earlier)

instance (s : TimedSession) : Decidable s.Honoured := inferInstanceAs (Decidable (List.IsChain _ _))

/-- The present wait began at most 15 s after the last packet. -/
def InTime (s : TimedSession) : Prop := s.waitingSince ≤ s.lastSent + 15000

end TimedSession

open TimedSession

/-- From the first wait of a session on; `lastSent` is then the time of the last packet
before it. -/
def timedMachine : Machine TimedSession (ℕ × MqttInput) where
  start s := mqttMachine.Reach Machine.Always s.task ∧ s.task.phase = .session ∧
    s.lastSent ≤ s.waitingSince ∧ s.earlier = []
  step := TimedSession.step

namespace TimedSession

/-- What a step can do: it happens within the wait, and sends a packet or does not. -/
theorem step_cases {s s' : TimedSession} {e : ℕ × MqttInput} (h : s.step e = some s') :
    s.Within e.1 e.2 ∧ s'.waitingSince = e.1 ∧
      (s'.lastSent = e.1 ∧ s'.earlier = s.lastSent :: s.earlier ∨
        s'.lastSent = s.lastSent ∧ s'.earlier = s.earlier) := by
  rw [step] at h
  split at h
  · rename_i hwithin
    obtain ⟨task, -, rfl⟩ := Option.map_eq_some_iff.1 h
    refine ⟨hwithin.2, ?_⟩
    by_cases hsends : e.2.sends
    · rw [if_pos hsends]
      exact ⟨rfl, Or.inl ⟨rfl, rfl⟩⟩
    · rw [if_neg hsends]
      exact ⟨rfl, Or.inr ⟨rfl, rfl⟩⟩
  · cases h

theorem time_le_of_within {s : TimedSession} {time : ℕ} {input : MqttInput}
    (h : s.Within time input) : time ≤ s.waitingSince + keepaliveTimeoutMs := by
  cases input with
  | keepalive written => exact h.2.le
  | command command written => exact h.2.2
  | configUp => exact h.2
  | attempt configUp connected => exact h.2
  | written ok => exact h.2
  | read chunk => exact h.2
  | readEnds => exact h.2

/-- A packet sent in a wait that began in time comes in time. -/
theorem Honoured.step {s s' : TimedSession} {e : ℕ × MqttInput} (h : s.Honoured)
    (hintime : s.InTime) (hstep : s.step e = some s') : s'.Honoured := by
  obtain ⟨hwithin, -, hsent⟩ := step_cases hstep
  have htime := time_le_of_within hwithin
  rw [Honoured]
  rcases hsent with ⟨hlast, hearlier⟩ | ⟨hlast, hearlier⟩
  · rw [hlast, hearlier, List.isChain_cons_cons]
    refine ⟨?_, h⟩
    have hlimits : keepaliveMs = 30000 ∧ keepaliveTimeoutMs = 15000 := ⟨rfl, rfl⟩
    have hbegan : s.waitingSince ≤ s.lastSent + 15000 := hintime
    omega
  · rw [hlast, hearlier]
    exact h

/-- When nothing else happens the timer ends the wait with a PINGREQ. -/
theorem step_keepalive {s : TimedSession} (hphase : s.task.phase = .session) :
    ∃ s', s.step (s.waitingSince + keepaliveTimeoutMs, .keepalive true) = some s' ∧
      s'.lastSent = s.waitingSince + keepaliveTimeoutMs ∧ s'.earlier = s.lastSent :: s.earlier := by
  have hwithin : s.Within (s.waitingSince + keepaliveTimeoutMs) (.keepalive true) := ⟨rfl, rfl⟩
  have htask : s.task.step (.keepalive true) = some s.task.awaitSession := by
    simp [MqttTask.step, hphase]
  refine ⟨{ task := s.task.awaitSession, waitingSince := s.waitingSince + keepaliveTimeoutMs
            lastSent := s.waitingSince + keepaliveTimeoutMs
            earlier := s.lastSent :: s.earlier }, ?_, rfl, rfl⟩
  rw [step, if_pos ⟨hphase, hwithin⟩, htask]
  rfl

end TimedSession

/-- In every run of a session whose waits begin at most 15 s after the last packet, two
packets follow each other within the keep-alive; and a wait is safe, whatever ends it,
exactly if it begins so. -/
theorem keepAlive_honoured_iff (s : TimedSession) :
    (timedMachine.Reach (fun s _ => s.InTime) s → s.Honoured) ∧
      (s.task.phase = .session → s.Honoured →
        (s.InTime ↔ ∀ e s', timedMachine.step s e = some s' → s'.Honoured)) := by
  constructor
  · intro h
    refine h.invariant ?_ fun _ _ _ hhonoured hintime hstep => hhonoured.step hintime hstep
    rintro s ⟨_, _, _, hearlier⟩
    rw [Honoured, hearlier]
    exact List.IsChain.singleton _
  · intro hphase hhonoured
    constructor
    · intro hintime e s' hstep
      exact hhonoured.step hintime hstep
    · intro hall
      obtain ⟨s', hstep, hlast, hearlier⟩ := step_keepalive hphase
      have hafter := hall _ _ hstep
      rw [Honoured, hlast, hearlier, List.isChain_cons_cons] at hafter
      have hlimits : keepaliveMs = 30000 ∧ keepaliveTimeoutMs = 15000 := ⟨rfl, rfl⟩
      have hgap := hafter.1
      show s.waitingSince ≤ s.lastSent + 15000
      omega

/-- In session with a broker that has nothing to say yet. -/
def sessionInputs : List MqttInput :=
  openingInputs ++ [.written true, .read (MqttTask.connack false), .written true,
    .read (MqttTask.suback 0)]

/-- A summary comes in every ten seconds: the timer is set anew each time, and the first
PINGREQ follows the SUBSCRIBE packet after 35 s. -/
theorem keepAlive_missed : ¬ ∀ s, timedMachine.Reach Machine.Always s → s.Honoured := by
  intro hall
  have htask : mqttMachine.Reach Machine.Always _ :=
    Machine.reach_of_run (Machine.Reach.start rfl) sessionInputs rfl
  have hstart : timedMachine.Reach Machine.Always ⟨_, 0, 0, []⟩ :=
    Machine.Reach.start ⟨htask, rfl, le_rfl, rfl⟩
  have hreach := Machine.reach_of_run hstart
    [(10000, .read peerSummary), (20000, .read peerSummary), (35000, .keepalive true)] rfl
  exact absurd (hall _ hreach) (by decide +kernel)

end EspWaveRider.Firmware
