import EspWaveRider.Lib.SaturatingClock
import EspWaveRider.Firmware.State

/-!
# Presence polling

The presence decision of `rust/firmware/esp32s3/src/main.rs` and the main loop
that drives it.  `uptime_ms` saturates at `u32::MAX` and every interval is
tested with `saturating_sub`, so the module keeps the real time beside the time
the firmware sees.

* `pollPresence` and the functions it calls;
* `MainLoop` — the states, the last execution of the body and the real time a
  run of the main loop can reach;
* `pollExecuted_iff` — in every run, a poll that is due executes exactly while
  its deadline lies within the range of the clock.
-/

namespace EspWaveRider.Firmware

open Metrics SaturatingClock

def presencePollMs : ℕ := 25

/-- Milliseconds since boot as the firmware sees them. -/
def uptimeMs (elapsed : ℕ) : ℕ := reading u32Max elapsed

namespace FirmwareState

def radarCandidateFromMetrics (s : FirmwareState) (metrics : RadarDerivedMetrics) : Bool :=
  radarDetectionDecision metrics s.latestRadarFrame s.radarTuning == .candidate

def gpioFallbackActive (s : FirmwareState) : Bool :=
  s.gpioPresence && s.latestEnergyFrame.isNone && s.latestTextFrame.isNone

def syncRadarDetectionState (s : FirmwareState) (uptime : ℕ) : FirmwareState :=
  let radarCandidate := (s.activeRadarMetrics.map s.radarCandidateFromMetrics).getD false
  let candidate := radarCandidate || s.gpioFallbackActive
  { s with
    detectionCandidate := candidate
    lastDetectionMs := if candidate then uptime else s.lastDetectionMs }

def effectivePresenceHoldMs (s : FirmwareState) : UInt16 :=
  max minPresenceHoldMs (min s.presenceHoldMs maxPresenceHoldMs)

def presenceDecayRemainingMs (s : FirmwareState) (uptime : ℕ) : ℕ :=
  let holdMs := s.effectivePresenceHoldMs.toNat
  if holdMs = 0 ∨ s.lastDetectionMs = 0 then 0
  else
    let elapsed := uptime - s.lastDetectionMs
    if elapsed ≥ holdMs then 0 else holdMs - elapsed

def pollPresence (s : FirmwareState) (gpioPresence : Bool) (uptime : ℕ) : FirmwareState :=
  if uptime - s.lastPresencePollMs < presencePollMs then s
  else
    let s := { s with lastPresencePollMs := uptime, gpioPresence }
    let s := s.syncRadarDetectionState uptime
    let presence := s.detectionCandidate || s.presenceDecayRemainingMs uptime > 0
    if !s.presenceInitialized then { s with presenceInitialized := true, presence }
    else if presence ≠ s.presence then
      { s with presence, presenceChangesTotal := saturatingSucc s.presenceChangesTotal }
    else s

/-! ## What one poll does -/

/-- The body of `poll_presence` ran: the poll time and the input are recorded,
and presence is a candidate or a detection still held. -/
structure PollExecuted (s : FirmwareState) (gpioPresence : Bool) (uptime : ℕ) : Prop where
  lastPresencePollMs : s.lastPresencePollMs = uptime
  gpioPresence : s.gpioPresence = gpioPresence
  presence : s.presence = (s.detectionCandidate || s.presenceDecayRemainingMs uptime > 0)

theorem pollPresence_of_not_due {s : FirmwareState} {uptime : ℕ} (gpio : Bool)
    (h : ¬ due presencePollMs s.lastPresencePollMs uptime) : s.pollPresence gpio uptime = s := by
  rw [pollPresence, if_pos (Nat.lt_of_not_le h)]

theorem pollExecuted_of_due {s : FirmwareState} {uptime : ℕ} (gpio : Bool)
    (h : due presencePollMs s.lastPresencePollMs uptime) :
    PollExecuted (s.pollPresence gpio uptime) gpio uptime := by
  rw [pollPresence, if_neg (Nat.not_lt.2 h)]
  dsimp only
  split_ifs with hinit hchanged
  · exact ⟨rfl, rfl, rfl⟩
  · exact ⟨rfl, rfl, rfl⟩
  · exact ⟨rfl, rfl, (not_not.1 hchanged).symm⟩

theorem lastPresencePollMs_pollPresence (s : FirmwareState) (gpio : Bool) (uptime : ℕ) :
    (s.pollPresence gpio uptime).lastPresencePollMs =
      if due presencePollMs s.lastPresencePollMs uptime then uptime else s.lastPresencePollMs := by
  split
  · rename_i hdue
    exact (pollExecuted_of_due gpio hdue).lastPresencePollMs
  · rename_i hdue
    rw [pollPresence_of_not_due gpio hdue]

end FirmwareState

open FirmwareState

/-! ## The main loop -/

/-- `MainLoop s executed clock`: the main loop can be in state `s` at the real
time `clock`, with the body of `poll_presence` last executed at the real time
`executed` (boot counting as the first).  Everything else an iteration does
leaves the time of the last poll alone. -/
inductive MainLoop : FirmwareState → ℕ → ℕ → Prop where
  | boot (s : FirmwareState) (h : s.lastPresencePollMs = 0) : MainLoop s 0 0
  | work {s s' : FirmwareState} {executed clock : ℕ} (now : ℕ) :
      MainLoop s executed clock → clock ≤ now → s'.lastPresencePollMs = s.lastPresencePollMs →
      MainLoop s' executed now
  | poll {s : FirmwareState} {executed clock : ℕ} (gpio : Bool) (now : ℕ) :
      MainLoop s executed clock → clock ≤ now →
      MainLoop (s.pollPresence gpio (uptimeMs now))
        (if due presencePollMs s.lastPresencePollMs (uptimeMs now) then now else executed) now

/-- The recorded poll time is what the clock showed at the last execution. -/
theorem MainLoop.lastPresencePollMs {s : FirmwareState} {executed clock : ℕ}
    (h : MainLoop s executed clock) : s.lastPresencePollMs = uptimeMs executed := by
  induction h with
  | boot s hzero => exact hzero
  | work now _ _ hkeep ih => rw [hkeep, ih]
  | poll gpio now _ _ ih =>
    rw [lastPresencePollMs_pollPresence]
    split
    · rfl
    · exact ih

/-- In every run: a poll at least 25 ms after the last execution executes,
whatever the input reads, exactly when the clock can still show its deadline.
After that the state is frozen. -/
theorem pollExecuted_iff {s : FirmwareState} {executed clock now : ℕ}
    (h : MainLoop s executed clock) (hdue : executed + presencePollMs ≤ now) :
    (∀ gpio, PollExecuted (s.pollPresence gpio (uptimeMs now)) gpio (uptimeMs now)) ↔
      executed + presencePollMs ≤ u32Max := by
  have htest : due presencePollMs s.lastPresencePollMs (uptimeMs now) ↔
      executed + presencePollMs ≤ u32Max := by
    rw [h.lastPresencePollMs]
    exact due_iff (by decide) hdue
  constructor
  · intro hall
    by_contra hend
    have hskip := hall (!s.gpioPresence)
    rw [pollPresence_of_not_due _ (mt htest.1 hend)] at hskip
    exact (Bool.not_eq_self _).1 hskip.gpioPresence.symm
  · intro hrange gpio
    exact pollExecuted_of_due gpio (htest.2 hrange)

theorem pollExecuted_iff_at_boot :
    (∀ gpio, PollExecuted (({} : FirmwareState).pollPresence gpio (uptimeMs 25)) gpio
        (uptimeMs 25)) ↔ 0 + presencePollMs ≤ u32Max :=
  pollExecuted_iff (MainLoop.boot {} rfl) (by decide)

/-- After 49.7 days the presence input is no longer read: the last poll ran
when the clock reached its end, and the one a second later is skipped. -/
theorem presence_freezes :
    ¬ ∀ (s : FirmwareState) (executed clock now : ℕ) (gpio : Bool), MainLoop s executed clock →
      clock ≤ now → executed + presencePollMs ≤ now →
      PollExecuted (s.pollPresence gpio (uptimeMs now)) gpio (uptimeMs now) := by
  intro hall
  have hrun := MainLoop.poll false u32Max (MainLoop.boot {} rfl) (Nat.zero_le _)
  rw [if_pos (by decide)] at hrun
  have hexec := hall _ _ _ (u32Max + 1000) true hrun (by decide) (by decide)
  exact absurd hexec.gpioPresence (by decide)

end EspWaveRider.Firmware
