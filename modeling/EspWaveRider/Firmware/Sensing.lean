import EspWaveRider.Lib.HeldSignal
import EspWaveRider.Lib.Machine
import EspWaveRider.Firmware.Configuration
import EspWaveRider.Firmware.RadarUart

/-!
# From radar frames and the presence pin to presence

Runs of everything in `rust/firmware/esp32s3/src/main.rs` that has a part in presence: bytes of
the radar UART and flushes of its buffer, polls of the presence pin, and commands, which may
change the tuning.  Each frame that is applied and each poll that executes takes a sample of
`detection_candidate`.

* `sensingMachine` — the runs, with a log of samples, outputs and frames;
* `presence_held` — presence is a detection held for the hold time;
* `stale_presence_iff` — when a frame that is no longer fresh has no part in it.
-/

namespace EspWaveRider.Firmware

open Text Radar Metrics HeldSignal SaturatingClock

/-! ## Runs -/

inductive SensingAction where
  | radarByte (byte : UInt8)
  | radarFlush
  | poll (gpioPresence : Bool)
  | command (command : Str)

structure SensingEvent where
  time : ℕ
  action : SensingAction

/-- The state, when it was reached, and what happened on the way, the newest first: the samples
of the detection, presence after each executed poll, and the time of the last frame with the
levels of the pin that were polled since. -/
structure Sensing where
  state : FirmwareState
  clock : ℕ := 0
  samples : List (ℕ × Bool) := []
  presences : List Bool := []
  lastFrame : Option ℕ := none
  levels : List Bool := []

namespace Sensing

/-- Each frame is a sample. -/
def radar (w : Sensing) (time : ℕ) (outcome : FirmwareState × List RadarFrame) : Sensing :=
  if outcome.2.isEmpty then { w with state := outcome.1 }
  else { w with
    state := outcome.1
    samples := (time, outcome.1.detectionCandidate) :: w.samples
    lastFrame := some time
    levels := [] }

/-- A poll is one when it executes. -/
def poll (w : Sensing) (time : ℕ) (gpioPresence : Bool) : Sensing :=
  let s := w.state.pollPresence gpioPresence time
  if due presencePollMs w.state.lastPresencePollMs time then { w with
    state := s
    samples := (time, s.detectionCandidate) :: w.samples
    presences := s.presence :: w.presences
    levels := gpioPresence :: w.levels }
  else { w with state := s }

def act (w : Sensing) (time : ℕ) : SensingAction → Sensing
  | .radarByte byte => w.radar time (w.state.pushRadarByte time byte)
  | .radarFlush => w.radar time (w.state.flushRadarBufferIfNeeded time false)
  | .poll gpioPresence => w.poll time gpioPresence
  | .command command => { w with state := (w.state.handleCommand command time).state }

end Sensing

/-- From boot on, with uptimes that do not go back. -/
def sensingMachine : Machine Sensing SensingEvent where
  start w := ∃ mac settings, w = { state := FirmwareState.bootState mac settings }
  step w e :=
    if 0 < e.time ∧ w.clock ≤ e.time ∧ e.time < u32Max then
      some ({ w with clock := e.time }.act e.time e.action)
    else none

/-! ## What an operation does to the detection -/

namespace FirmwareState

/-- What a frame or a poll decides. -/
def storedFrameVerdict (s : FirmwareState) : Bool :=
  (s.activeRadarMetrics.map s.radarCandidateFromMetrics).getD false

/-- Detection, presence and the frames are as before. -/
structure SameSensing (s s' : FirmwareState) : Prop where
  detectionCandidate : s'.detectionCandidate = s.detectionCandidate
  lastDetectionMs : s'.lastDetectionMs = s.lastDetectionMs
  presence : s'.presence = s.presence
  presenceInitialized : s'.presenceInitialized = s.presenceInitialized
  presenceChangesTotal : s'.presenceChangesTotal = s.presenceChangesTotal
  latestRadarFrame : s'.latestRadarFrame = s.latestRadarFrame
  latestEnergyFrame : s'.latestEnergyFrame = s.latestEnergyFrame
  latestTextFrame : s'.latestTextFrame = s.latestTextFrame

/-- Without an energy or a text frame only a generic frame is kept. -/
def FramesWell (s : FirmwareState) : Prop :=
  s.latestEnergyFrame = none → s.latestTextFrame = none →
    ∀ frame ∈ s.latestRadarFrame, ∃ generic, frame = .generic generic

/-- A frame was applied, which only has a part in the detection. -/
structure FrameSampled (time : ℕ) (s s' : FirmwareState) : Prop where
  lastDetectionMs : s'.lastDetectionMs = if s'.detectionCandidate then time else s.lastDetectionMs
  presence : s'.presence = s.presence
  presenceInitialized : s'.presenceInitialized = s.presenceInitialized
  presenceChangesTotal : s'.presenceChangesTotal = s.presenceChangesTotal
  framesWell : s'.FramesWell

/-- Either no frame was applied, or the last one was sampled. -/
structure RadarEffect (time : ℕ) (s : FirmwareState) (outcome : FirmwareState × List RadarFrame) :
    Prop where
  quiet : outcome.2 = [] → SameSensing s outcome.1
  frame : outcome.2 ≠ [] → FrameSampled time s outcome.1

theorem SameSensing.refl (s : FirmwareState) : SameSensing s s :=
  ⟨rfl, rfl, rfl, rfl, rfl, rfl, rfl, rfl⟩

theorem SameSensing.trans {s t u : FirmwareState} (h : SameSensing s t) (h' : SameSensing t u) :
    SameSensing s u :=
  ⟨h'.detectionCandidate.trans h.detectionCandidate, h'.lastDetectionMs.trans h.lastDetectionMs,
    h'.presence.trans h.presence, h'.presenceInitialized.trans h.presenceInitialized,
    h'.presenceChangesTotal.trans h.presenceChangesTotal,
    h'.latestRadarFrame.trans h.latestRadarFrame, h'.latestEnergyFrame.trans h.latestEnergyFrame,
    h'.latestTextFrame.trans h.latestTextFrame⟩

theorem SameSensing.framesWell {s s' : FirmwareState} (h : SameSensing s s') (hs : s.FramesWell) :
    s'.FramesWell := by
  unfold FramesWell
  rw [h.latestEnergyFrame, h.latestTextFrame, h.latestRadarFrame]
  exact hs

theorem framesWell_applyRadarFrame (s : FirmwareState) (frame : RadarFrame) :
    (s.applyRadarFrame frame).FramesWell := by
  cases frame with
  | energy energy => exact fun hnone => nomatch hnone
  | text text => exact fun _ hnone => nomatch hnone
  | generic generic =>
    intro henergy htext kept hkept
    have henergy : s.latestEnergyFrame = none := henergy
    have htext : s.latestTextFrame = none := htext
    simp only [applyRadarFrame, henergy, htext, Option.isNone_none, Bool.and_self, if_true,
      Option.mem_def, Option.some.injEq] at hkept
    exact ⟨generic, hkept.symm⟩

theorem frameSampled_applyRadarFrame (s : FirmwareState) (frame : RadarFrame) (time : ℕ) :
    FrameSampled time s ((s.applyRadarFrame frame).syncRadarDetectionState time) := by
  have hrest : (s.applyRadarFrame frame).lastDetectionMs = s.lastDetectionMs ∧
      (s.applyRadarFrame frame).presence = s.presence ∧
      (s.applyRadarFrame frame).presenceInitialized = s.presenceInitialized ∧
      (s.applyRadarFrame frame).presenceChangesTotal = s.presenceChangesTotal := by
    cases frame <;> exact ⟨rfl, rfl, rfl, rfl⟩
  obtain ⟨hlast, hpresence, hinit, hchanges⟩ := hrest
  refine ⟨?_, hpresence, hinit, hchanges, s.framesWell_applyRadarFrame frame⟩
  unfold syncRadarDetectionState
  dsimp only
  rw [hlast]

theorem radarEffect_flushRadarBufferIfNeeded (s : FirmwareState) (time : ℕ) (force : Bool) :
    RadarEffect time s (s.flushRadarBufferIfNeeded time force) := by
  unfold flushRadarBufferIfNeeded
  dsimp only
  split
  · exact ⟨fun _ => .refl s, fun hne => absurd rfl hne⟩
  · cases parseRadarFrame s.radarBuffer.items with
    | some frame =>
      have hsampled := frameSampled_applyRadarFrame (s.setRadarBuffer Bounded.empty) frame time
      refine ⟨fun hnil => (nomatch hnil), fun _ => ⟨hsampled.lastDetectionMs, hsampled.presence,
        hsampled.presenceInitialized, hsampled.presenceChangesTotal, hsampled.framesWell⟩⟩
    | none => exact ⟨fun _ => ⟨rfl, rfl, rfl, rfl, rfl, rfl, rfl, rfl⟩, fun hne => absurd rfl hne⟩

theorem radarEffect_pushRadarByte (s : FirmwareState) (time : ℕ) (byte : UInt8) :
    RadarEffect time s (s.pushRadarByte time byte) := by
  unfold pushRadarByte
  dsimp only
  split
  · -- the counters before the flush and the byte after it have no part in it
    obtain ⟨hquiet, hframe⟩ :=
      (s.noteRadarByte time).radarEffect_flushRadarBufferIfNeeded time true
    refine ⟨fun hnil => ?_, fun hne => ?_⟩
    · have hbefore : SameSensing s (s.noteRadarByte time) := ⟨rfl, rfl, rfl, rfl, rfl, rfl, rfl, rfl⟩
      exact (hbefore.trans (hquiet hnil)).trans ⟨rfl, rfl, rfl, rfl, rfl, rfl, rfl, rfl⟩
    · obtain ⟨hlast, hpresence, hinit, hchanges, hwell⟩ := hframe hne
      exact ⟨hlast, hpresence, hinit, hchanges, hwell⟩
  · exact ⟨fun _ => ⟨rfl, rfl, rfl, rfl, rfl, rfl, rfl, rfl⟩, fun hne => absurd rfl hne⟩

/-- Commands have no part in the detection, though they may set the tuning it uses. -/
theorem sameSensing_handleCommand (s : FirmwareState) (command : Str) (time : ℕ) :
    SameSensing s (s.handleCommand command time).state := by
  have heffect := s.commandEffect_handleCommand command time
  generalize (s.handleCommand command time).state = s' at heffect
  cases heffect with
  | homeAssistantConfig payload =>
    exact disconnectedIf_rule
      (Q := fun t => SameSensing s { t.markMqttRuntimeDirty with lastMqttRoomSummaryPublishMs := 0 })
      _ _ (fun ht => ht.trans ⟨rfl, rfl, rfl, rfl, rfl, rfl, rfl, rfl⟩)
      ⟨rfl, rfl, rfl, rfl, rfl, rfl, rfl, rfl⟩
  | _ => exact ⟨rfl, rfl, rfl, rfl, rfl, rfl, rfl, rfl⟩

theorem sameSensing_bootState (mac : Vector UInt8 6) (settings : Option Nvs) :
    SameSensing {} (bootState mac settings) := by
  cases settings with
  | none => exact ⟨rfl, rfl, rfl, rfl, rfl, rfl, rfl, rfl⟩
  | some settings =>
    have hloaded : SameSensing {}
        ((initializeDeviceIdentity {} mac).loadPersistedConfig settings) :=
      disconnectedIf_rule (Q := SameSensing {}) _ _
        (fun ht => ht.trans ⟨rfl, rfl, rfl, rfl, rfl, rfl, rfl, rfl⟩)
        ⟨rfl, rfl, rfl, rfl, rfl, rfl, rfl, rfl⟩
    exact hloaded.trans ⟨rfl, rfl, rfl, rfl, rfl, rfl, rfl, rfl⟩

/-- What an executed poll does besides `PollExecuted`. -/
structure PollSampled (gpioPresence : Bool) (time : ℕ) (s s' : FirmwareState) : Prop where
  detectionCandidate : s'.detectionCandidate =
    (storedFrameVerdict { s with gpioPresence } || gpioFallbackActive { s with gpioPresence })
  lastDetectionMs : s'.lastDetectionMs = if s'.detectionCandidate then time else s.lastDetectionMs
  presenceInitialized : s'.presenceInitialized = true
  presenceChangesTotal : s'.presenceChangesTotal =
    if s.presenceInitialized ∧ s'.presence ≠ s.presence then saturatingSucc s.presenceChangesTotal
    else s.presenceChangesTotal
  latestRadarFrame : s'.latestRadarFrame = s.latestRadarFrame
  latestEnergyFrame : s'.latestEnergyFrame = s.latestEnergyFrame
  latestTextFrame : s'.latestTextFrame = s.latestTextFrame

theorem pollSampled_of_due {s : FirmwareState} {time : ℕ} (gpio : Bool)
    (h : due presencePollMs s.lastPresencePollMs time) :
    PollSampled gpio time s (s.pollPresence gpio time) := by
  rw [pollPresence, if_neg (Nat.not_lt.2 h)]
  dsimp only
  split_ifs with hinit hchanged
  · -- the first poll only sets the output
    have hinit : (!s.presenceInitialized) = true := hinit
    have hfirst (presence : Bool) : ¬(s.presenceInitialized = true ∧ presence ≠ s.presence) := by
      rintro ⟨hlater, -⟩
      rw [hlater] at hinit
      cases hinit
    exact ⟨rfl, rfl, rfl, (if_neg (hfirst _)).symm, rfl, rfl, rfl⟩
  · have hinit : ¬(!s.presenceInitialized) = true := hinit
    have hlater : s.presenceInitialized = true := by simpa using hinit
    exact ⟨rfl, rfl, hlater, (if_pos ⟨hlater, hchanged⟩).symm, rfl, rfl, rfl⟩
  · have hinit : ¬(!s.presenceInitialized) = true := hinit
    have hlater : s.presenceInitialized = true := by simpa using hinit
    exact ⟨rfl, rfl, hlater, (if_neg fun hchange => hchange.2 rfl).symm, rfl, rfl, rfl⟩

end FirmwareState

open FirmwareState

/-! ## What the state knows of the past -/

namespace Sensing

/-- The time stamp, the output and the counter are those of the log. -/
structure Tracks (w : Sensing) : Prop where
  lastDetectionMs : w.state.lastDetectionMs = stamp w.samples
  pos : ∀ sample ∈ w.samples, 0 < sample.1
  presenceInitialized : w.state.presenceInitialized = !w.presences.isEmpty
  presence : w.state.presence = w.presences.head?.getD false
  presenceChangesTotal : w.state.presenceChangesTotal = min (changes w.presences) u32Max
  detected : w.state.presence → (lastTrue w.samples).isSome

theorem poll_of_due {w : Sensing} {time : ℕ} (gpio : Bool)
    (h : due presencePollMs w.state.lastPresencePollMs time) :
    w.poll time gpio = { w with
      state := w.state.pollPresence gpio time
      samples := (time, (w.state.pollPresence gpio time).detectionCandidate) :: w.samples
      presences := (w.state.pollPresence gpio time).presence :: w.presences
      levels := gpio :: w.levels } :=
  if_pos h

theorem poll_of_not_due {w : Sensing} {time : ℕ} (gpio : Bool)
    (h : ¬due presencePollMs w.state.lastPresencePollMs time) : w.poll time gpio = w := by
  unfold poll
  dsimp only
  rw [if_neg h, pollPresence_of_not_due gpio h]

theorem Tracks.of_sameSensing {w : Sensing} (h : w.Tracks) {s : FirmwareState}
    (hs : SameSensing w.state s) : Tracks { w with state := s } :=
  ⟨hs.lastDetectionMs.trans h.lastDetectionMs, h.pos,
    hs.presenceInitialized.trans h.presenceInitialized, hs.presence.trans h.presence,
    hs.presenceChangesTotal.trans h.presenceChangesTotal,
    fun hpresence => h.detected (hs.presence ▸ hpresence)⟩

theorem Tracks.radar {w : Sensing} (h : w.Tracks) {time : ℕ} (htime : 0 < time)
    {outcome : FirmwareState × List RadarFrame} (heffect : RadarEffect time w.state outcome) :
    (w.radar time outcome).Tracks := by
  unfold Sensing.radar
  split
  · rename_i hempty
    exact h.of_sameSensing (heffect.quiet (List.isEmpty_iff.1 hempty))
  · rename_i hframe
    obtain ⟨hlast, hpresence, hinit, hchanges, -⟩ :=
      heffect.frame fun hnil => hframe (List.isEmpty_iff.2 hnil)
    refine ⟨?_, ?_, hinit.trans h.presenceInitialized, hpresence.trans h.presence,
      hchanges.trans h.presenceChangesTotal, fun hpres => ?_⟩
    · rw [stamp_cons, ← h.lastDetectionMs]
      exact hlast
    · exact List.forall_mem_cons.2 ⟨htime, h.pos⟩
    · exact isSome_lastTrue_cons _ (h.detected (hpresence ▸ hpres))

/-- Presence is what was decided: a detection now, or one that is held. -/
theorem Tracks.presence_iff {w : Sensing} (h : w.Tracks) {s : FirmwareState} {gpio : Bool}
    {time : ℕ} (hsampled : PollSampled gpio time w.state s) (hexecuted : PollExecuted s gpio time)
    (htime : 0 < time) :
    s.presence ↔ s.detectionCandidate ∨ Held s.effectivePresenceHoldMs.toNat time
      ((time, s.detectionCandidate) :: w.samples) := by
  have hpos : ∀ sample ∈ (time, s.detectionCandidate) :: w.samples, 0 < sample.1 :=
    List.forall_mem_cons.2 ⟨htime, h.pos⟩
  have hlast : s.lastDetectionMs = stamp ((time, s.detectionCandidate) :: w.samples) := by
    rw [stamp_cons, ← h.lastDetectionMs]
    exact hsampled.lastDetectionMs
  rw [hexecuted.presence, held_iff_stamp hpos, ← hlast]
  unfold presenceDecayRemainingMs
  dsimp only
  simp only [Bool.or_eq_true, decide_eq_true_eq]
  refine or_congr_right ?_
  split_ifs <;> omega

theorem Tracks.poll {w : Sensing} (h : w.Tracks) {time : ℕ} (htime : 0 < time) (gpio : Bool) :
    (w.poll time gpio).Tracks := by
  by_cases hdue : due presencePollMs w.state.lastPresencePollMs time
  · rw [poll_of_due gpio hdue]
    have hsampled := pollSampled_of_due gpio hdue
    have hpresence := h.presence_iff hsampled (pollExecuted_of_due gpio hdue) htime
    generalize w.state.pollPresence gpio time = s at hsampled hpresence
    refine ⟨?_, List.forall_mem_cons.2 ⟨htime, h.pos⟩, hsampled.presenceInitialized, rfl, ?_, ?_⟩
    · rw [stamp_cons, ← h.lastDetectionMs]
      exact hsampled.lastDetectionMs
    · show s.presenceChangesTotal = min (changes (s.presence :: w.presences)) u32Max
      have hfirst : w.state.presenceInitialized = true ∧ s.presence ≠ w.state.presence ↔
          ¬∀ previous ∈ w.presences.head?, s.presence = previous := by
        rw [h.presenceInitialized, h.presence]
        cases w.presences <;> simp
      rw [hsampled.presenceChangesTotal, h.presenceChangesTotal, changes_cons, saturatingSucc]
      by_cases hsame : ∀ previous ∈ w.presences.head?, s.presence = previous
      · rw [if_neg (mt hfirst.1 (not_not.2 hsame)), if_pos hsame, Nat.add_zero]
      · rw [if_pos (hfirst.2 hsame), if_neg hsame]
        omega
    · intro hpres
      rcases hpresence.1 hpres with hnow | ⟨since, hsince, -⟩
      · show (lastTrue ((time, s.detectionCandidate) :: w.samples)).isSome
        rw [hnow]
        rfl
      · exact Option.isSome_iff_exists.2 ⟨since, hsince⟩
  · rw [poll_of_not_due gpio hdue]
    exact h

theorem Tracks.act {w : Sensing} (h : w.Tracks) {time : ℕ} (htime : 0 < time)
    (action : SensingAction) : (w.act time action).Tracks := by
  cases action with
  | radarByte byte => exact h.radar htime (w.state.radarEffect_pushRadarByte time byte)
  | radarFlush => exact h.radar htime (w.state.radarEffect_flushRadarBufferIfNeeded time false)
  | poll gpio => exact h.poll htime gpio
  | command command => exact h.of_sameSensing (w.state.sameSensing_handleCommand command time)

/-- At boot nothing has been sampled. -/
theorem tracks_start {w : Sensing} (h : sensingMachine.start w) : w.Tracks := by
  obtain ⟨mac, settings, rfl⟩ := h
  obtain ⟨-, hlast, hpresence, hinit, hchanges, -⟩ := sameSensing_bootState mac settings
  refine ⟨hlast, nofun, hinit, hpresence, hchanges, fun hpres => ?_⟩
  rw [hpresence] at hpres
  cases hpres

theorem step_eq_some {w w' : Sensing} {e : SensingEvent} (h : sensingMachine.step w e = some w') :
    0 < e.time ∧ w.clock ≤ e.time ∧ w' = { w with clock := e.time }.act e.time e.action := by
  rw [show sensingMachine.step w e = if _ then _ else _ from rfl] at h
  split at h
  · rename_i htime
    cases h
    exact ⟨htime.1, htime.2.1, rfl⟩
  · cases h

theorem tracks_step {w w' : Sensing} {e : SensingEvent} (h : w.Tracks)
    (hstep : sensingMachine.step w e = some w') : w'.Tracks := by
  obtain ⟨htime, -, rfl⟩ := step_eq_some hstep
  refine Tracks.act ?_ htime e.action
  exact ⟨h.lastDetectionMs, h.pos, h.presenceInitialized, h.presence, h.presenceChangesTotal,
    h.detected⟩

theorem tracks {w : Sensing} (h : sensingMachine.Reach Machine.Always w) : w.Tracks :=
  h.invariant (fun _ => tracks_start) fun _ _ _ hw _ hstep => tracks_step hw hstep

/-! ### A poll of the UART -/

theorem state_radar (w : Sensing) (time : ℕ) (outcome : FirmwareState × List RadarFrame) :
    (w.radar time outcome).state = outcome.1 := by
  unfold Sensing.radar
  split <;> rfl

theorem clock_radar (w : Sensing) (time : ℕ) (outcome : FirmwareState × List RadarFrame) :
    (w.radar time outcome).clock = w.clock := by
  unfold Sensing.radar
  split <;> rfl

/-- Where a run can be at some time. -/
def ReachedBy (time : ℕ) (s : FirmwareState) : Prop :=
  ∃ w, sensingMachine.Reach Machine.Always w ∧ w.clock ≤ time ∧ w.state = s

theorem ReachedBy.radar {time : ℕ} {s : FirmwareState} (h : ReachedBy time s) (hpos : 0 < time)
    (hlt : time < u32Max) (action : SensingAction) (outcome : FirmwareState × List RadarFrame)
    (haction : ∀ w : Sensing, w.state = s → w.act time action = w.radar time outcome) :
    ReachedBy time outcome.1 := by
  obtain ⟨w, hreach, hclock, hstate⟩ := h
  have hstep : sensingMachine.step w ⟨time, action⟩ =
      some (Sensing.radar { w with clock := time } time outcome) := by
    rw [← haction { w with clock := time } hstate]
    exact if_pos ⟨hpos, hclock, hlt⟩
  refine ⟨_, .step hreach trivial hstep, ?_, state_radar _ _ _⟩
  rw [clock_radar]

/-- `poll_radar_uart` is made of bytes and a flush. -/
theorem ReachedBy.pollRadarUart {s : FirmwareState} {p : UartPoll} (h : ReachedBy p.uptime s)
    (hpos : 0 < p.uptime) (hlt : p.uptime < u32Max) :
    ReachedBy p.uptime (s.pollRadarUart p).1 := by
  have hbytes (bytes : List UInt8) : ∀ s, ReachedBy p.uptime s →
      ReachedBy p.uptime (pushRadarBytes p.uptime s bytes).1 := by
    induction bytes with
    | nil => exact fun s h => h
    | cons byte bytes ih =>
      intro s h
      refine ih (s.pushRadarByte p.uptime byte).1
        (h.radar hpos hlt (.radarByte byte) (s.pushRadarByte p.uptime byte) fun w hstate => ?_)
      rw [← hstate]
      rfl
  have hreads (reads : List (Option (HVec UInt8 32))) : ∀ s, ReachedBy p.uptime s →
      ReachedBy p.uptime (readRadarUart p.uptime s reads).1 := by
    induction reads with
    | nil => exact fun s h => h
    | cons read reads ih =>
      intro s h
      cases read with
      | none => exact h
      | some chunk =>
        unfold readRadarUart
        split
        · exact h
        · exact ih _ (hbytes chunk.items s h)
  refine (hreads p.reads s h).radar hpos hlt .radarFlush
    ((readRadarUart p.uptime s p.reads).1.flushRadarBufferIfNeeded p.uptime false) fun w hstate => ?_
  rw [← hstate]
  rfl

/-! ## Presence with hold -/

theorem presence_radar (w : Sensing) {time : ℕ} {outcome : FirmwareState × List RadarFrame}
    (heffect : RadarEffect time w.state outcome) :
    (w.radar time outcome).state.presence = w.state.presence := by
  unfold Sensing.radar
  split
  · rename_i hempty
    exact (heffect.quiet (List.isEmpty_iff.1 hempty)).presence
  · rename_i hframe
    exact (heffect.frame fun hnil => hframe (List.isEmpty_iff.2 hnil)).presence

/-- Presence only changes at an executed poll. -/
theorem presence_act (w : Sensing) (time : ℕ) (action : SensingAction)
    (h : ∀ gpio, action = .poll gpio → ¬due presencePollMs w.state.lastPresencePollMs time) :
    (w.act time action).state.presence = w.state.presence := by
  cases action with
  | radarByte byte => exact w.presence_radar (w.state.radarEffect_pushRadarByte time byte)
  | radarFlush => exact w.presence_radar (w.state.radarEffect_flushRadarBufferIfNeeded time false)
  | command command => exact (w.state.sameSensing_handleCommand command time).presence
  | poll gpio =>
    show (w.poll time gpio).state.presence = _
    rw [poll_of_not_due gpio (h gpio rfl)]

/-- Presence goes only when nothing is held any more. -/
theorem Tracks.presence_lost {w w' : Sensing} {e : SensingEvent} (h : w.Tracks)
    (hstep : sensingMachine.step w e = some w') (hbefore : w.state.presence)
    (hafter : w'.state.presence = false) :
    ∃ since ∈ lastTrue w'.samples,
      w'.state.effectivePresenceHoldMs.toNat ≤ e.time - since := by
  obtain ⟨htime, -, rfl⟩ := step_eq_some hstep
  obtain ⟨time, action⟩ := e
  by_cases hpoll : ∃ gpio, action = .poll gpio ∧ due presencePollMs w.state.lastPresencePollMs time
  · obtain ⟨gpio, rfl, hdue⟩ := hpoll
    have hiff := h.presence_iff (pollSampled_of_due gpio hdue) (pollExecuted_of_due gpio hdue) htime
    have hact : Sensing.act { w with clock := time } time (.poll gpio) = _ :=
      poll_of_due (w := { w with clock := time }) gpio hdue
    rw [hact] at hafter ⊢
    have hnone := not_or.1 (mt hiff.2 (ne_true_of_eq_false hafter))
    obtain ⟨since, hsince⟩ := Option.isSome_iff_exists.1 (isSome_lastTrue_cons
      (time, (w.state.pollPresence gpio time).detectionCandidate) (h.detected hbefore))
    exact ⟨since, hsince, Nat.le_of_not_lt fun hrecent => hnone.2 ⟨since, hsince, hrecent⟩⟩
  · have hsame := presence_act { w with clock := time } time action fun gpio hgpio hdue =>
      hpoll ⟨gpio, hgpio, hdue⟩
    exact Bool.noConfusion (hafter.symm.trans (hsame.trans hbefore))

end Sensing

open Sensing

/-- In every run: an executed poll reports presence exactly when its own sample is a detection
or the last detection lies less than the hold time back; presence goes only when the hold time
has passed since then; and its changes are counted. -/
theorem presence_held {w : Sensing} (h : sensingMachine.Reach Machine.Always w) :
    (∀ gpio time w', sensingMachine.step w ⟨time, .poll gpio⟩ = some w' →
      due presencePollMs w.state.lastPresencePollMs time →
        (w'.state.presence ↔ w'.state.detectionCandidate ∨
          Held w'.state.effectivePresenceHoldMs.toNat time w'.samples)) ∧
      (∀ e w', sensingMachine.step w e = some w' → w.state.presence → w'.state.presence = false →
        ∃ since ∈ lastTrue w'.samples,
          w'.state.effectivePresenceHoldMs.toNat ≤ e.time - since) ∧
      w.state.presenceChangesTotal = min (changes w.presences) u32Max := by
  have htracks := tracks h
  refine ⟨fun gpio time w' hstep hdue => ?_, fun e w' => htracks.presence_lost,
    htracks.presenceChangesTotal⟩
  obtain ⟨htime, -, rfl⟩ := step_eq_some hstep
  have hpoll := poll_of_due (w := { w with clock := time }) gpio hdue
  rw [show Sensing.act { w with clock := time } time (.poll gpio) = _ from hpoll]
  exact htracks.presence_iff (pollSampled_of_due gpio hdue) (pollExecuted_of_due gpio hdue) htime

theorem presence_held_at_boot :
    (∀ gpio time w', sensingMachine.step { state := bootState (Vector.replicate 6 0) none }
        ⟨time, .poll gpio⟩ = some w' → due presencePollMs 0 time →
        (w'.state.presence ↔ w'.state.detectionCandidate ∨
          Held w'.state.effectivePresenceHoldMs.toNat time w'.samples)) ∧
      (∀ e w', sensingMachine.step { state := bootState (Vector.replicate 6 0) none } e = some w' →
        (bootState (Vector.replicate 6 0) none).presence → w'.state.presence = false →
        ∃ since ∈ lastTrue w'.samples,
          w'.state.effectivePresenceHoldMs.toNat ≤ e.time - since) ∧
      (bootState (Vector.replicate 6 0) none).presenceChangesTotal = min (changes []) u32Max :=
  presence_held (w := { state := bootState (Vector.replicate 6 0) none })
    (.start ⟨Vector.replicate 6 0, none, rfl⟩)

/-! ## Frames that are no longer fresh -/

/-- How long `src/main.cpp` takes a frame for fresh. -/
def radarFrameFreshnessMs : ℕ := 1000

namespace FirmwareState

/-- An energy or a text frame has been stored; from then on there always is one. -/
def HasSensorFrame (s : FirmwareState) : Prop :=
  s.latestEnergyFrame.isSome ∨ s.latestTextFrame.isSome

instance (s : FirmwareState) : Decidable s.HasSensorFrame := inferInstanceAs (Decidable (_ ∨ _))

/-- A generic frame has nothing to say that the pin does not. -/
theorem storedFrameVerdict_of_low {s : FirmwareState} (hwell : s.FramesWell)
    (hframe : ¬s.HasSensorFrame) (hlow : s.gpioPresence = false) : s.storedFrameVerdict = false := by
  obtain ⟨henergy, htext⟩ := not_or.1 hframe
  have hgeneric := hwell (Option.not_isSome_iff_eq_none.1 henergy)
    (Option.not_isSome_iff_eq_none.1 htext)
  unfold storedFrameVerdict activeRadarMetrics
  cases hstored : s.latestRadarFrame with
  | none => rfl
  | some frame =>
    obtain ⟨generic, rfl⟩ := hgeneric frame hstored
    refine Bool.eq_false_of_not_eq_true fun hcandidate => ?_
    have hactivity : effectiveMinActivityScore s.radarTuning ≤
        (buildRadarDerivedMetrics (some (.generic generic)) s.gpioPresence).activityScore :=
      (radarDetectionCandidate_bounds hcandidate).2.2
    have hquiet : (buildRadarDerivedMetrics (some (.generic generic)) s.gpioPresence).activityScore =
        0 := by
      rw [hlow]
      rfl
    have hleast := (effectiveMinActivityScore_mem s.radarTuning).1
    omega

/-- The pin decides unless a stored energy or text frame says otherwise. -/
theorem candidate_eq_gpio_iff {s : FirmwareState} (hwell : s.FramesWell) :
    (s.storedFrameVerdict || s.gpioFallbackActive) = s.gpioPresence ↔
      (s.HasSensorFrame → s.storedFrameVerdict = s.gpioPresence) := by
  by_cases hframe : s.HasSensorFrame
  · have hfallback : s.gpioFallbackActive = false := by
      unfold gpioFallbackActive
      rcases hframe with hsome | hsome
      · obtain ⟨frame, hframe⟩ := Option.isSome_iff_exists.1 hsome
        simp [hframe]
      · obtain ⟨frame, hframe⟩ := Option.isSome_iff_exists.1 hsome
        simp [hframe]
    rw [hfallback, Bool.or_false, imp_iff_right hframe]
  · refine iff_of_true ?_ fun h => absurd h hframe
    cases hgpio : s.gpioPresence with
    | true =>
      obtain ⟨henergy, htext⟩ := not_or.1 hframe
      have hfallback : s.gpioFallbackActive = true := by
        simp [gpioFallbackActive, hgpio, Option.not_isSome_iff_eq_none.1 henergy,
          Option.not_isSome_iff_eq_none.1 htext]
      rw [hfallback, Bool.or_true]
    | false =>
      rw [storedFrameVerdict_of_low hwell hframe hgpio]
      simp [gpioFallbackActive, hgpio]

end FirmwareState

namespace Sensing

/-- A poll that executes when the last frame is no longer fresh. -/
def PollsStale (w : Sensing) (time : ℕ) : Prop :=
  due presencePollMs w.state.lastPresencePollMs time ∧
    ∃ applied ∈ w.lastFrame, applied + radarFrameFreshnessMs < time

/-- When a poll finds a frame that is no longer fresh, an energy or text frame that is still
stored says the same as the pin. -/
def StaleFrameAgrees (w : Sensing) (e : SensingEvent) : Prop :=
  match e.action with
  | .poll gpioPresence => w.PollsStale e.time → w.state.HasSensorFrame →
      storedFrameVerdict { w.state with gpioPresence } = gpioPresence
  | _ => True

/-- An executed poll that comes more than the freshness and the hold time after the last frame:
with the pin low since then there is no presence, with the pin high the pin decides. -/
structure StaleIgnored (w : Sensing) (gpioPresence : Bool) (w' : Sensing) : Prop where
  low : gpioPresence = false → (∀ level ∈ w.levels, level = false) → w'.state.presence = false
  high : gpioPresence = true → w'.state.detectionCandidate = true

def NoStalePresence (w : Sensing) (e : SensingEvent) (w' : Sensing) : Prop :=
  match e.action with
  | .poll gpioPresence => due presencePollMs w.state.lastPresencePollMs e.time →
      ∀ applied ∈ w.lastFrame,
        applied + w'.state.effectivePresenceHoldMs.toNat + radarFrameFreshnessMs < e.time →
        StaleIgnored w gpioPresence w'
  | _ => True

/-! ### The frames that are stored -/

theorem framesWell_start {w : Sensing} (h : sensingMachine.start w) : w.state.FramesWell := by
  obtain ⟨mac, settings, rfl⟩ := h
  refine (sameSensing_bootState mac settings).framesWell fun _ _ => ?_
  exact nofun

theorem framesWell_radar {w : Sensing} (h : w.state.FramesWell) {time : ℕ}
    {outcome : FirmwareState × List RadarFrame} (heffect : RadarEffect time w.state outcome) :
    (w.radar time outcome).state.FramesWell := by
  unfold Sensing.radar
  split
  · rename_i hempty
    exact (heffect.quiet (List.isEmpty_iff.1 hempty)).framesWell h
  · rename_i hframe
    exact (heffect.frame fun hnil => hframe (List.isEmpty_iff.2 hnil)).framesWell

theorem framesWell_poll {w : Sensing} (h : w.state.FramesWell) (time : ℕ) (gpio : Bool) :
    (w.poll time gpio).state.FramesWell := by
  by_cases hdue : due presencePollMs w.state.lastPresencePollMs time
  · have hsampled := pollSampled_of_due gpio hdue
    rw [poll_of_due gpio hdue, FramesWell, hsampled.latestEnergyFrame, hsampled.latestTextFrame,
      hsampled.latestRadarFrame]
    exact h
  · rw [poll_of_not_due gpio hdue]
    exact h

theorem framesWell_step {w w' : Sensing} {e : SensingEvent} (h : w.state.FramesWell)
    (hstep : sensingMachine.step w e = some w') : w'.state.FramesWell := by
  obtain ⟨-, -, rfl⟩ := step_eq_some hstep
  obtain ⟨time, action⟩ := e
  have hnow : (Sensing.state { w with clock := time }).FramesWell := h
  cases action with
  | radarByte byte => exact framesWell_radar hnow (w.state.radarEffect_pushRadarByte time byte)
  | radarFlush =>
    exact framesWell_radar hnow (w.state.radarEffect_flushRadarBufferIfNeeded time false)
  | poll gpio => exact framesWell_poll hnow time gpio
  | command command => exact (w.state.sameSensing_handleCommand command time).framesWell h

/-- The sample of a stale poll is the level of the pin exactly when what is stored agrees. -/
theorem staleFrameAgrees_iff {w : Sensing} (hwell : w.state.FramesWell) {time : ℕ} (gpio : Bool)
    (hstale : w.PollsStale time) :
    StaleFrameAgrees w ⟨time, .poll gpio⟩ ↔
      (w.state.pollPresence gpio time).detectionCandidate = gpio := by
  rw [(pollSampled_of_due gpio hstale.1).detectionCandidate]
  have hgpio := candidate_eq_gpio_iff (s := { w.state with gpioPresence := gpio }) hwell
  exact (imp_iff_right hstale).trans hgpio.symm

/-! ### Runs in which they are ignored -/

/-- While the pin is low, no sample is a detection once the last frame is stale. -/
structure Ignoring (w : Sensing) : Prop where
  times : ∀ sample ∈ w.samples, sample.1 ≤ w.clock
  late : ∀ applied ∈ w.lastFrame, (∀ level ∈ w.levels, level = false) →
    ∀ time value, (time, value) ∈ w.samples → applied + radarFrameFreshnessMs < time → value = false

theorem Ignoring.at_time {w : Sensing} (h : w.Ignoring) {time : ℕ} (htime : w.clock ≤ time) :
    Ignoring { w with clock := time } :=
  ⟨fun sample hsample => (h.times sample hsample).trans htime, h.late⟩

/-- A frame starts the count anew. -/
theorem Ignoring.radar {w : Sensing} (h : w.Ignoring)
    (outcome : FirmwareState × List RadarFrame) : (w.radar w.clock outcome).Ignoring := by
  unfold Sensing.radar
  split
  · exact ⟨h.times, h.late⟩
  · have htimes : ∀ sample ∈ (w.clock, outcome.1.detectionCandidate) :: w.samples,
        sample.1 ≤ w.clock :=
      List.forall_mem_cons.2 ⟨le_rfl, h.times⟩
    refine ⟨htimes, ?_⟩
    rintro applied ⟨⟩ - time value hmem hlate
    have hle : time ≤ w.clock := htimes _ hmem
    omega

theorem Ignoring.poll {w : Sensing} (h : w.Ignoring) (hwell : w.state.FramesWell) (gpio : Bool)
    (hok : StaleFrameAgrees w ⟨w.clock, .poll gpio⟩) : (w.poll w.clock gpio).Ignoring := by
  by_cases hdue : due presencePollMs w.state.lastPresencePollMs w.clock
  · rw [poll_of_due gpio hdue]
    refine ⟨List.forall_mem_cons.2 ⟨le_rfl, h.times⟩, ?_⟩
    intro applied happlied hlevels time value hmem hlate
    obtain ⟨hgpio, hlevels⟩ := List.forall_mem_cons.1 hlevels
    rcases List.mem_cons.1 hmem with hnew | hold
    · cases hnew
      have hcandidate := (staleFrameAgrees_iff hwell gpio ⟨hdue, applied, happlied, hlate⟩).1 hok
      exact hcandidate.trans hgpio
    · exact h.late applied happlied hlevels time value hold hlate
  · rw [poll_of_not_due gpio hdue]
    exact h

theorem ignoring_start {w : Sensing} (h : sensingMachine.start w) : w.Ignoring := by
  obtain ⟨mac, settings, rfl⟩ := h
  exact ⟨nofun, nofun⟩

theorem ignoring_step {w w' : Sensing} {e : SensingEvent} (h : w.Ignoring)
    (hwell : w.state.FramesWell) (hok : StaleFrameAgrees w e)
    (hstep : sensingMachine.step w e = some w') : w'.Ignoring := by
  obtain ⟨-, hclock, rfl⟩ := step_eq_some hstep
  have hnow := h.at_time hclock
  obtain ⟨time, action⟩ := e
  cases action with
  | radarByte byte => exact hnow.radar _
  | radarFlush => exact hnow.radar _
  | poll gpio => exact hnow.poll hwell gpio hok
  | command command => exact ⟨hnow.times, hnow.late⟩

/-- A stale poll that agrees with the pin has no presence left over from the frame. -/
theorem Ignoring.noStalePresence {w w' : Sensing} {e : SensingEvent} (h : w.Ignoring)
    (hwell : w.state.FramesWell) (htracks : w.Tracks) (hok : StaleFrameAgrees w e)
    (hstep : sensingMachine.step w e = some w') : NoStalePresence w e w' := by
  have hignoring := ignoring_step h hwell hok hstep
  obtain ⟨htime, -, rfl⟩ := step_eq_some hstep
  obtain ⟨time, action⟩ := e
  cases action with
  | poll gpio =>
    intro hdue applied happlied hlate
    have hpoll : Sensing.act { w with clock := time } time (.poll gpio) = _ :=
      poll_of_due (w := { w with clock := time }) gpio hdue
    have hpresence := htracks.presence_iff (pollSampled_of_due gpio hdue)
      (pollExecuted_of_due gpio hdue) htime
    dsimp only at hignoring hlate
    rw [hpoll] at hignoring hlate ⊢
    dsimp only at hlate
    have hstale : applied + radarFrameFreshnessMs < time := by omega
    have hcandidate := (staleFrameAgrees_iff hwell gpio ⟨hdue, applied, happlied, hstale⟩).1 hok
    refine ⟨fun hlow hlevels => ?_, fun hhigh => hcandidate.trans hhigh⟩
    have hheld : ¬Held (w.state.pollPresence gpio time).effectivePresenceHoldMs.toNat time _ :=
      not_held_of_late (hignoring.late applied happlied (List.forall_mem_cons.2 ⟨hlow, hlevels⟩))
        (by omega)
    refine Bool.eq_false_of_not_eq_true fun hpres => ?_
    rcases hpresence.1 hpres with hnow | hpast
    · exact Bool.noConfusion (hlow.symm.trans (hcandidate.symm.trans hnow))
    · exact hheld hpast
  | _ => trivial

end Sensing

/-- Presence is free of stale frames in every run in which those that are stored agree with the
pin, and they do exactly when a stale poll samples the level of the pin. -/
theorem stale_presence_iff (w : Sensing) :
    (sensingMachine.Reach StaleFrameAgrees w → ∀ e w', StaleFrameAgrees w e →
        sensingMachine.step w e = some w' → NoStalePresence w e w') ∧
      (sensingMachine.Reach Machine.Always w → ∀ gpio time w', w.PollsStale time →
        sensingMachine.step w ⟨time, .poll gpio⟩ = some w' →
        (StaleFrameAgrees w ⟨time, .poll gpio⟩ ↔ w'.state.detectionCandidate = gpio)) := by
  have hwell (h : sensingMachine.Reach Machine.Always w) : w.state.FramesWell :=
    h.invariant (I := fun w => w.state.FramesWell) (fun _ => framesWell_start)
      fun _ _ _ hw _ hstep => framesWell_step hw hstep
  refine ⟨fun h e w' hok hstep => ?_, fun h gpio time w' hstale hstep => ?_⟩
  · have hall := h.mono fun _ _ _ => trivial
    have hignoring : w.state.FramesWell ∧ w.Ignoring :=
      h.invariant (I := fun w => w.state.FramesWell ∧ w.Ignoring)
        (fun _ hw => ⟨framesWell_start hw, ignoring_start hw⟩)
        fun _ _ _ hw hok hstep =>
          ⟨framesWell_step hw.1 hstep, ignoring_step hw.2 hw.1 hok hstep⟩
    exact hignoring.2.noStalePresence hignoring.1 (tracks hall) hok hstep
  · obtain ⟨-, -, rfl⟩ := step_eq_some hstep
    have hpoll : Sensing.act { w with clock := time } time (.poll gpio) = _ :=
      poll_of_due (w := { w with clock := time }) gpio hstale.1
    rw [hpoll]
    exact staleFrameAgrees_iff (hwell h) gpio hstale

/-- One frame with a target in it, then a line that stays silent and a pin that stays low. -/
def silentRun : List SensingEvent :=
  (energyFrameBytes steadySample).map (fun byte => ⟨7, .radarByte byte⟩) ++
    [⟨27, .radarFlush⟩, ⟨30, .poll false⟩]

/-- A minute later the room still counts as occupied. -/
theorem presence_stuck :
    ¬∀ w, sensingMachine.Reach Machine.Always w → ∀ e w', sensingMachine.step w e = some w' →
      NoStalePresence w e w' := by
  intro hall
  have hstart : sensingMachine.Reach Machine.Always _ :=
    Machine.Reach.start ⟨Vector.replicate 6 0, some {}, rfl⟩
  let e : SensingEvent := ⟨60030, .poll false⟩
  let P (w : Sensing) : Prop := w.lastFrame = some 27 ∧ w.levels = [false] ∧
    due presencePollMs w.state.lastPresencePollMs 60030 ∧
    (sensingMachine.step w e).map (fun w' => (w'.state.presence,
      w'.state.effectivePresenceHoldMs.toNat)) = some (true, 4000)
  obtain ⟨w, hreach, hframe, hlevels, hdue, hstep⟩ :=
    Machine.exists_reach_of_run (P := P) hstart silentRun (by decide +kernel)
  obtain ⟨w', hstep, hafter⟩ := Option.map_eq_some_iff.1 hstep
  obtain ⟨hpresence, hhold⟩ := Prod.mk.inj hafter
  have hignored := hall w hreach e w' hstep hdue 27 hframe
    (by rw [hhold]; decide)
  have hfalse := hignored.low rfl (by rw [hlevels]; decide)
  exact Bool.noConfusion (hpresence.symm.trans hfalse)

end EspWaveRider.Firmware
