import EspWaveRider.Cpp.RadarMetrics
import EspWaveRider.Lib.Clamp
import EspWaveRider.Lib.Machine
import EspWaveRider.Lib.Streak

/-!
# Presence of the C++ firmware

`pollPresence` and `presenceDecayRemainingMs` of `src/main.cpp`.  A detection is meant to be a
sustained state: it begins after four candidate samples in a row and ends after eighty others,
and presence is held for a while after it.

* `pollPresence` — one call, and `presenceMachine`, all runs of calls in real time;
* `sustained_of_freshHits` — in runs where no count of hits survives a miss, a detection
  begins and ends only after enough samples in a row;
* `noGhost_iff` — when presence returns without a detection, once the clock wraps around.
-/

namespace EspWaveRider.Cpp

open Metrics Streak Clamp

def presencePollMs : UInt32 := 25
def presenceQualifySampleCount : ℕ := 4
def presenceReleaseSampleCount : ℕ := 80
def minPresenceHoldMs : UInt16 := 3000
def maxPresenceHoldMs : UInt16 := 60000

def RuntimeTuning.effectivePresenceHoldMs (config : RuntimeTuning) : UInt16 :=
  max minPresenceHoldMs (min config.presenceHoldMs maxPresenceHoldMs)

/-- What a call reads.  It looks at the clock three times: at its beginning, and for the age of
the radar frames in `buildRadarDerivedMetrics` and in `radarDetectionCandidate`. -/
structure PresenceInputs where
  now : UInt32
  gpioHigh : Bool
  metricsAt : UInt32
  candidateAt : UInt32
  latestEnergyFrameSnapshot : Option LatestEnergyFrameSnapshot := none
  latestTextFrameSnapshot : Option LatestTextFrameSnapshot := none
  runtimeConfig : RuntimeTuning := {}

structure PresenceState where
  lastPresencePollMs : UInt32 := 0
  lastGpioPresence : Bool := false
  rawDetectionCandidateActive : Bool := false
  detectionCandidateActive : Bool := false
  presenceCandidateHitCount : ℕ := 0
  presenceCandidateMissCount : ℕ := 0
  lastDetectionMs : UInt32 := 0
  presenceInitialized : Bool := false
  lastPresence : Bool := false
  presenceChangesTotal : UInt32 := 0

namespace PresenceInputs

def freshEnergyFrame (e : PresenceInputs) (now : UInt32) : Option LatestEnergyFrameSnapshot :=
  e.latestEnergyFrameSnapshot.filter fun frame => isRadarFrameFresh frame.updatedAtMs now

def freshTextFrame (e : PresenceInputs) (now : UInt32) : Option LatestTextFrameSnapshot :=
  e.latestTextFrameSnapshot.filter fun frame => isRadarFrameFresh frame.updatedAtMs now

/-- `radarDetectionCandidate(buildRadarDerivedMetrics())`; before the first sample the presence
input counts as low. -/
def radarCandidate (e : PresenceInputs) (presenceInitialized : Bool) : Bool :=
  let metrics := buildRadarDerivedMetrics e.runtimeConfig (e.freshEnergyFrame e.metricsAt)
    (e.freshTextFrame e.metricsAt) (presenceInitialized && e.gpioHigh)
  radarDetectionDecision e.runtimeConfig metrics (e.freshEnergyFrame e.candidateAt)
    e.runtimeConfig == .candidate

/-- Whether a sample is a candidate. -/
def candidate (e : PresenceInputs) (presenceInitialized : Bool) : Bool :=
  e.radarCandidate presenceInitialized ||
    (e.gpioHigh && e.latestEnergyFrameSnapshot.isNone && e.latestTextFrameSnapshot.isNone)

end PresenceInputs

namespace PresenceState

/-- Whether a call takes a sample. -/
def Samples (s : PresenceState) (now : UInt32) : Prop := ¬ now - s.lastPresencePollMs < presencePollMs

instance (s : PresenceState) (now : UInt32) : Decidable (s.Samples now) :=
  inferInstanceAs (Decidable (¬ _))

/-- The counters of hits and misses, and the detection they begin and end. -/
def count (s : PresenceState) (candidate : Bool) : PresenceState :=
  let s := { s with rawDetectionCandidateActive := candidate }
  let s :=
    if candidate then
      { s with
        presenceCandidateHitCount := min presenceQualifySampleCount (s.presenceCandidateHitCount + 1)
        presenceCandidateMissCount := 0 }
    else
      let s := { s with
        presenceCandidateMissCount :=
          min presenceReleaseSampleCount (s.presenceCandidateMissCount + 1) }
      if s.presenceCandidateMissCount ≥ presenceReleaseSampleCount then
        { s with presenceCandidateHitCount := 0, detectionCandidateActive := false }
      else s
  if s.presenceCandidateHitCount ≥ presenceQualifySampleCount then
    { s with detectionCandidateActive := true }
  else s

def presenceDecayRemainingMs (s : PresenceState) (config : RuntimeTuning) (now : UInt32) : ℕ :=
  let holdMs := config.effectivePresenceHoldMs.toNat
  if holdMs = 0 ∨ s.lastDetectionMs = 0 then 0
  else
    let elapsed := (now - s.lastDetectionMs).toNat
    if elapsed ≥ holdMs then 0 else holdMs - elapsed

/-- The end of a sample: presence is a detection or one that is still held. -/
def settle (s : PresenceState) (presence : Bool) : PresenceState :=
  if !s.presenceInitialized then { s with presenceInitialized := true, lastPresence := presence }
  else if presence ≠ s.lastPresence then
    { s with lastPresence := presence, presenceChangesTotal := s.presenceChangesTotal + 1 }
  else s

/-- The counters after a sample, and when there was a detection last. -/
def sample (s : PresenceState) (e : PresenceInputs) : PresenceState :=
  let s := { s with lastPresencePollMs := e.now, lastGpioPresence := e.gpioHigh }
  let s := s.count (e.candidate s.presenceInitialized)
  if s.detectionCandidateActive then { s with lastDetectionMs := e.now } else s

def pollPresence (s : PresenceState) (e : PresenceInputs) : PresenceState :=
  if s.Samples e.now then
    let s := s.sample e
    s.settle (s.detectionCandidateActive || s.presenceDecayRemainingMs e.runtimeConfig e.now > 0)
  else s

end PresenceState

/-! ## Runs -/

/-- A call of `pollPresence` at a real time, in milliseconds since boot; the two later looks at
the clock are as many milliseconds after it. -/
structure PresencePoll where
  time : ℕ
  gpioHigh : Bool
  metricsDelay : ℕ := 0
  candidateDelay : ℕ := 0
  latestEnergyFrameSnapshot : Option LatestEnergyFrameSnapshot := none
  latestTextFrameSnapshot : Option LatestTextFrameSnapshot := none
  runtimeConfig : RuntimeTuning := {}

def PresencePoll.inputs (e : PresencePoll) : PresenceInputs where
  now := millis e.time
  gpioHigh := e.gpioHigh
  metricsAt := millis (e.time + e.metricsDelay)
  candidateAt := millis (e.time + e.candidateDelay)
  latestEnergyFrameSnapshot := e.latestEnergyFrameSnapshot
  latestTextFrameSnapshot := e.latestTextFrameSnapshot
  runtimeConfig := e.runtimeConfig

def PresencePoll.holdMs (e : PresencePoll) : ℕ := e.runtimeConfig.effectivePresenceHoldMs.toNat

/-- The state with what has happened: the samples, the newest first, the real time, the real time
of the last sample with a detection, and the hold time at the last sample. -/
structure PresenceRun where
  state : PresenceState
  samples : List Bool := []
  clock : ℕ
  detectedAt : ℕ := 0
  heldFor : ℕ := 0

namespace PresenceRun

def Samples (s : PresenceRun) (e : PresencePoll) : Prop := s.state.Samples e.inputs.now

def candidate (s : PresenceRun) (e : PresencePoll) : Bool :=
  e.inputs.candidate s.state.presenceInitialized

instance (s : PresenceRun) (e : PresencePoll) : Decidable (s.Samples e) :=
  inferInstanceAs (Decidable (s.state.Samples _))

def poll (s : PresenceRun) (e : PresencePoll) : PresenceRun :=
  let state := s.state.pollPresence e.inputs
  if s.Samples e then
    { state
      samples := s.candidate e :: s.samples
      clock := e.time
      detectedAt := if state.detectionCandidateActive then e.time else s.detectedAt
      heldFor := e.holdMs }
  else { s with clock := e.time }

/-- `setup` has read the presence input and noted the time. -/
def Boot (s : PresenceRun) : Prop :=
  ∃ gpioHigh, s = {
    state := { lastPresencePollMs := millis s.clock, lastGpioPresence := gpioHigh }
    clock := s.clock }

end PresenceRun

/-- Calls at times that do not run backwards. -/
def presenceMachine : Machine PresenceRun PresencePoll where
  start := PresenceRun.Boot
  step s e := if s.clock ≤ e.time then some (s.poll e) else none

/-! ## One sample -/

namespace PresenceState

/-- The end of a sample only touches presence. -/
theorem settle_spec (s : PresenceState) (presence : Bool) :
    (s.settle presence).lastPresence = presence ∧
      (s.settle presence).presenceCandidateHitCount = s.presenceCandidateHitCount ∧
      (s.settle presence).presenceCandidateMissCount = s.presenceCandidateMissCount ∧
      (s.settle presence).detectionCandidateActive = s.detectionCandidateActive ∧
      (s.settle presence).lastDetectionMs = s.lastDetectionMs := by
  rw [settle]
  split_ifs with hfirst hchanged
  · exact ⟨rfl, rfl, rfl, rfl, rfl⟩
  · exact ⟨rfl, rfl, rfl, rfl, rfl⟩
  · exact ⟨(not_not.1 hchanged).symm, rfl, rfl, rfl, rfl⟩

/-- A detection goes on exactly while the hits are complete. -/
structure Consistent (s : PresenceState) : Prop where
  hits_le : s.presenceCandidateHitCount ≤ presenceQualifySampleCount
  active_iff : s.detectionCandidateActive ↔ s.presenceCandidateHitCount = presenceQualifySampleCount

theorem count_candidate {s : PresenceState} (h : s.Consistent) :
    (s.count true).Consistent ∧ (s.count true).presenceCandidateHitCount =
      min presenceQualifySampleCount (s.presenceCandidateHitCount + 1) ∧
      (s.count true).presenceCandidateMissCount = 0 := by
  obtain ⟨hle, hactive⟩ := h
  rw [count]
  simp only [if_true]
  split_ifs with hfull
  · refine ⟨⟨?_, ?_⟩, rfl, rfl⟩ <;> simp_all
  · refine ⟨⟨min_le_left _ _, ?_⟩, rfl, rfl⟩
    have hlt : s.presenceCandidateHitCount ≠ presenceQualifySampleCount := by
      rintro heq
      rw [heq] at hfull
      exact hfull (le_min le_rfl (Nat.le_succ _))
    refine iff_of_false (mt hactive.1 hlt) ?_
    dsimp only
    omega

theorem count_miss {s : PresenceState} (h : s.Consistent) :
    (s.count false).Consistent ∧
      (s.count false).presenceCandidateMissCount =
        min presenceReleaseSampleCount (s.presenceCandidateMissCount + 1) ∧
      (s.count false).presenceCandidateHitCount =
        if presenceReleaseSampleCount ≤ s.presenceCandidateMissCount + 1 then 0
        else s.presenceCandidateHitCount := by
  obtain ⟨hle, hactive⟩ := h
  rw [count]
  simp only [Bool.false_eq_true, if_false]
  by_cases hrelease : presenceReleaseSampleCount ≤ s.presenceCandidateMissCount + 1
  · have hlimit : min presenceReleaseSampleCount (s.presenceCandidateMissCount + 1) ≥
        presenceReleaseSampleCount := le_min le_rfl hrelease
    rw [if_pos hlimit, if_pos hrelease]
    have hnone : ¬ 0 ≥ presenceQualifySampleCount := by decide
    have hzero : 0 ≠ presenceQualifySampleCount := by decide
    rw [if_neg hnone]
    exact ⟨⟨Nat.zero_le _, iff_of_false Bool.false_ne_true hzero⟩, rfl, rfl⟩
  · have hlimit : ¬ min presenceReleaseSampleCount (s.presenceCandidateMissCount + 1) ≥
        presenceReleaseSampleCount := fun hmin => hrelease (le_trans hmin (min_le_right _ _))
    rw [if_neg hlimit, if_neg hrelease]
    split_ifs with hfull
    · exact ⟨⟨hle, iff_of_true rfl (le_antisymm hle hfull)⟩, rfl, rfl⟩
    · exact ⟨⟨hle, hactive⟩, rfl, rfl⟩

theorem lastDetectionMs_count (s : PresenceState) (candidate : Bool) :
    (s.count candidate).lastDetectionMs = s.lastDetectionMs := by
  rw [count]
  cases candidate <;> simp only [if_true, Bool.false_eq_true, if_false] <;> split_ifs <;> rfl

theorem lastDetectionMs_sample (s : PresenceState) (e : PresenceInputs) :
    (s.sample e).lastDetectionMs =
      if (s.sample e).detectionCandidateActive then e.now else s.lastDetectionMs := by
  rw [sample]
  dsimp only
  split
  · rfl
  · exact lastDetectionMs_count _ _

/-- The counters of two states. -/
structure SameCounters (s s' : PresenceState) : Prop where
  hits : s'.presenceCandidateHitCount = s.presenceCandidateHitCount
  misses : s'.presenceCandidateMissCount = s.presenceCandidateMissCount
  active : s'.detectionCandidateActive = s.detectionCandidateActive

theorem SameCounters.consistent {s s' : PresenceState} (h : SameCounters s s') (hs : s.Consistent) :
    s'.Consistent := by
  refine ⟨?_, ?_⟩
  · rw [h.hits]
    exact hs.hits_le
  · rw [h.hits, h.active]
    exact hs.active_iff

theorem sameCounters_pollPresence {s : PresenceState} {e : PresenceInputs} (h : s.Samples e.now) :
    SameCounters (count { s with lastPresencePollMs := e.now, lastGpioPresence := e.gpioHigh }
      (e.candidate s.presenceInitialized)) (s.pollPresence e) := by
  rw [pollPresence, if_pos h]
  obtain ⟨_, hhits, hmisses, hactive, _⟩ := (s.sample e).settle_spec
    ((s.sample e).detectionCandidateActive ||
      (s.sample e).presenceDecayRemainingMs e.runtimeConfig e.now > 0)
  have hsample : SameCounters (count { s with lastPresencePollMs := e.now, lastGpioPresence := e.gpioHigh }
      (e.candidate s.presenceInitialized)) (s.sample e) := by
    rw [sample]
    dsimp only
    split <;> exact ⟨rfl, rfl, rfl⟩
  exact ⟨hhits.trans hsample.hits, hmisses.trans hsample.misses, hactive.trans hsample.active⟩

/-- A candidate sample. -/
theorem pollPresence_candidate {s : PresenceState} {e : PresenceInputs} (hs : s.Consistent)
    (h : s.Samples e.now) (hcandidate : e.candidate s.presenceInitialized = true) :
    (s.pollPresence e).Consistent ∧ (s.pollPresence e).presenceCandidateHitCount =
      min presenceQualifySampleCount (s.presenceCandidateHitCount + 1) ∧
      (s.pollPresence e).presenceCandidateMissCount = 0 := by
  have hsame := sameCounters_pollPresence h
  rw [hcandidate] at hsame
  obtain ⟨hconsistent, hhits, hmisses⟩ := count_candidate (s :=
    { s with lastPresencePollMs := e.now, lastGpioPresence := e.gpioHigh }) ⟨hs.hits_le, hs.active_iff⟩
  exact ⟨hsame.consistent hconsistent, hsame.hits.trans hhits, hsame.misses.trans hmisses⟩

/-- Any other sample. -/
theorem pollPresence_miss {s : PresenceState} {e : PresenceInputs} (hs : s.Consistent)
    (h : s.Samples e.now) (hmiss : e.candidate s.presenceInitialized = false) :
    (s.pollPresence e).Consistent ∧
      (s.pollPresence e).presenceCandidateMissCount =
        min presenceReleaseSampleCount (s.presenceCandidateMissCount + 1) ∧
      (s.pollPresence e).presenceCandidateHitCount =
        if presenceReleaseSampleCount ≤ s.presenceCandidateMissCount + 1 then 0
        else s.presenceCandidateHitCount := by
  have hsame := sameCounters_pollPresence h
  rw [hmiss] at hsame
  obtain ⟨hconsistent, hmisses, hhits⟩ := count_miss (s :=
    { s with lastPresencePollMs := e.now, lastGpioPresence := e.gpioHigh }) ⟨hs.hits_le, hs.active_iff⟩
  exact ⟨hsame.consistent hconsistent, hsame.misses.trans hmisses, hsame.hits.trans hhits⟩

end PresenceState

namespace PresenceRun

open PresenceState

/-- What holds in every run: the misses are the streak of other samples. -/
structure Counted (s : PresenceRun) : Prop where
  consistent : s.state.Consistent
  misses : s.state.presenceCandidateMissCount = min presenceReleaseSampleCount (streak false s.samples)

theorem poll_of_not_samples {s : PresenceRun} {e : PresencePoll} (h : ¬ s.Samples e) :
    s.poll e = { s with clock := e.time } := if_neg h

theorem state_poll (s : PresenceRun) (e : PresencePoll) :
    (s.poll e).state = s.state.pollPresence e.inputs := by
  rw [poll]
  split
  · rfl
  · rename_i h
    exact (if_neg h).symm

theorem samples_poll {s : PresenceRun} {e : PresencePoll} (h : s.Samples e) :
    (s.poll e).samples = s.candidate e :: s.samples := by
  rw [poll, if_pos h]

theorem step_eq_some_iff {s s' : PresenceRun} {e : PresencePoll} :
    presenceMachine.step s e = some s' ↔ s.clock ≤ e.time ∧ s' = s.poll e := by
  simp only [presenceMachine, Option.ite_none_right_eq_some, Option.some.injEq]
  exact and_congr_right' eq_comm

theorem counted_boot {s : PresenceRun} (h : s.Boot) : s.Counted := by
  obtain ⟨gpioHigh, hs⟩ := h
  rw [hs]
  have hzero : 0 ≠ presenceQualifySampleCount := by decide
  exact ⟨⟨Nat.zero_le _, iff_of_false Bool.false_ne_true hzero⟩, rfl⟩

theorem Counted.poll {s : PresenceRun} (hs : s.Counted) (e : PresencePoll) : (s.poll e).Counted := by
  by_cases h : s.Samples e
  · cases hcandidate : s.candidate e with
    | true =>
      obtain ⟨hconsistent, _, hmisses⟩ := pollPresence_candidate hs.consistent h hcandidate
      refine ⟨state_poll s e ▸ hconsistent, ?_⟩
      rw [state_poll, samples_poll h, hcandidate, hmisses, min_streak_cons, if_neg (by decide)]
    | false =>
      obtain ⟨hconsistent, hmisses, _⟩ := pollPresence_miss hs.consistent h hcandidate
      refine ⟨state_poll s e ▸ hconsistent, ?_⟩
      rw [state_poll, samples_poll h, hcandidate, hmisses, min_streak_cons, if_pos rfl, hs.misses]
  · rw [poll_of_not_samples h]
    exact ⟨hs.consistent, hs.misses⟩

/-! ## Sustained detections -/

/-- A detection begins with enough candidate samples in a row, and ends with enough others. -/
structure Sustained (s s' : PresenceRun) : Prop where
  qualifies : s.state.detectionCandidateActive = false → s'.state.detectionCandidateActive = true →
    presenceQualifySampleCount ≤ streak true s'.samples
  releases : s.state.detectionCandidateActive = true → s'.state.detectionCandidateActive = false →
    presenceReleaseSampleCount ≤ streak false s'.samples

/-- A candidate sample is not counted on top of hits from before a miss. -/
def FreshHits (s : PresenceRun) (e : PresencePoll) : Prop :=
  s.Samples e → s.candidate e → s.state.presenceCandidateMissCount ≠ 0 →
    s.state.presenceCandidateHitCount = 0 ∨
      s.state.presenceCandidateHitCount = presenceQualifySampleCount

instance (s : PresenceRun) (e : PresencePoll) : Decidable (s.FreshHits e) :=
  inferInstanceAs (Decidable (_ → _ → _ → _))

/-- Hits that are counted without a miss after them are a streak. -/
def HitsInRow (s : PresenceRun) : Prop :=
  s.state.presenceCandidateMissCount = 0 →
    s.state.presenceCandidateHitCount < presenceQualifySampleCount →
    s.state.presenceCandidateHitCount ≤ streak true s.samples

/-- Before a candidate sample. -/
theorem HitsInRow.le_streak {s : PresenceRun} (hrow : s.HitsInRow) {e : PresencePoll}
    (hfresh : s.FreshHits e) (h : s.Samples e) (hcandidate : s.candidate e)
    (hlt : s.state.presenceCandidateHitCount < presenceQualifySampleCount) :
    s.state.presenceCandidateHitCount ≤ streak true s.samples := by
  by_cases hmisses : s.state.presenceCandidateMissCount = 0
  · exact hrow hmisses hlt
  · rcases hfresh h hcandidate hmisses with hzero | hfull <;> omega

theorem HitsInRow.poll {s : PresenceRun} (hs : s.Counted) (hrow : s.HitsInRow) {e : PresencePoll}
    (hfresh : s.FreshHits e) : (s.poll e).HitsInRow := by
  by_cases h : s.Samples e
  · cases hcandidate : s.candidate e with
    | true =>
      obtain ⟨_, hhits, _⟩ := pollPresence_candidate hs.consistent h hcandidate
      intro _ hlt
      rw [state_poll, hhits] at hlt ⊢
      rw [samples_poll h, hcandidate, streak_cons_self]
      have hbefore := hrow.le_streak hfresh h hcandidate (by omega)
      omega
    | false =>
      obtain ⟨_, hmisses, _⟩ := pollPresence_miss hs.consistent h hcandidate
      intro hzero
      rw [state_poll, hmisses, presenceReleaseSampleCount] at hzero
      omega
  · rw [poll_of_not_samples h]
    exact hrow

/-- A hit begins a detection only when the row is full with it, and ends none. -/
theorem sustained_hit {s : PresenceRun} (hs : s.Counted) (hrow : s.HitsInRow) {e : PresencePoll}
    (hfresh : s.FreshHits e) (h : s.Samples e) (hcandidate : s.candidate e = true) :
    Sustained s (s.poll e) := by
  have hactive := hs.consistent.active_iff
  have hle := hs.consistent.hits_le
  have hactive' := (hs.poll e).consistent.active_iff
  obtain ⟨_, hhits, _⟩ := pollPresence_candidate hs.consistent h hcandidate
  rw [state_poll, hhits] at hactive'
  constructor
  · intro hoff hon
    have hfull := hactive'.1 (state_poll s e ▸ hon)
    have hlt : s.state.presenceCandidateHitCount < presenceQualifySampleCount := by
      refine lt_of_le_of_ne hle fun heq => ?_
      rw [hactive.2 heq] at hoff
      cases hoff
    have hbefore := hrow.le_streak hfresh h hcandidate hlt
    rw [samples_poll h, hcandidate, streak_cons_self]
    omega
  · intro hon hoff
    have hfull := hactive.1 hon
    rw [state_poll] at hoff
    rw [hactive'.2 (by omega)] at hoff
    cases hoff

/-- A miss ends a detection only when it is the last of enough misses, and begins none. -/
theorem sustained_miss {s : PresenceRun} (hs : s.Counted) {e : PresencePoll} (h : s.Samples e)
    (hcandidate : s.candidate e = false) : Sustained s (s.poll e) := by
  have hactive := hs.consistent.active_iff
  have hactive' := (hs.poll e).consistent.active_iff
  obtain ⟨_, _, hhits⟩ := pollPresence_miss hs.consistent h hcandidate
  rw [state_poll, hhits] at hactive'
  constructor
  · intro hoff hon
    have hfull := hactive'.1 (state_poll s e ▸ hon)
    split at hfull
    · cases hfull
    · rw [hactive.2 hfull] at hoff
      cases hoff
  · intro hon hoff
    have hfull := hactive.1 hon
    have hrelease : presenceReleaseSampleCount ≤ s.state.presenceCandidateMissCount + 1 := by
      by_contra hkept
      rw [if_neg hkept] at hactive'
      rw [state_poll, hactive'.2 hfull] at hoff
      cases hoff
    rw [hs.misses] at hrelease
    rw [samples_poll h, hcandidate, streak_cons_self]
    omega

theorem sustained_poll {s : PresenceRun} (hs : s.Counted) (hrow : s.HitsInRow) {e : PresencePoll}
    (hfresh : s.FreshHits e) : Sustained s (s.poll e) := by
  by_cases h : s.Samples e
  · cases hcandidate : s.candidate e with
    | true => exact sustained_hit hs hrow hfresh h hcandidate
    | false => exact sustained_miss hs h hcandidate
  · rw [poll_of_not_samples h]
    constructor
    · intro hoff hon
      rw [hoff] at hon
      cases hon
    · intro hon hoff
      rw [hon] at hoff
      cases hoff

/-- In every run in which no candidate sample is counted on top of stale hits, detections begin
and end only after enough samples in a row. -/
theorem sustained_of_freshHits {s s' : PresenceRun} {e : PresencePoll}
    (h : presenceMachine.Reach FreshHits s) (hfresh : s.FreshHits e)
    (hstep : presenceMachine.step s e = some s') : Sustained s s' := by
  have hinv : s.Counted ∧ s.HitsInRow := by
    refine h.invariant (I := fun s => s.Counted ∧ s.HitsInRow) ?_ ?_
    · intro s hboot
      refine ⟨counted_boot hboot, fun _ _ => ?_⟩
      obtain ⟨gpioHigh, hs⟩ := hboot
      rw [hs]
      exact Nat.zero_le _
    · rintro s e s' ⟨hs, hrow⟩ hok hstep
      obtain ⟨_, rfl⟩ := step_eq_some_iff.1 hstep
      exact ⟨hs.poll e, hrow.poll hs hok⟩
  obtain ⟨_, rfl⟩ := step_eq_some_iff.1 hstep
  exact sustained_poll hinv.1 hinv.2 hfresh

def pollAt (time : ℕ) (gpioHigh : Bool) : PresencePoll := { time, gpioHigh }

def bootRun : PresenceRun := { state := {}, clock := 0 }

theorem reach_bootRun (ok : PresenceRun → PresencePoll → Prop) : presenceMachine.Reach ok bootRun :=
  .start ⟨false, rfl⟩

theorem sustained_of_freshHits_visit : ∃ s, presenceMachine.Reach FreshHits s ∧
    ∃ s' ∈ presenceMachine.step s (pollAt 100 true),
      s'.state.detectionCandidateActive = true ∧ Sustained s s' := by
  obtain ⟨s, hreach, s', hstep, hfresh, hon⟩ : ∃ s, presenceMachine.Reach FreshHits s ∧
      ∃ s' ∈ presenceMachine.step s (pollAt 100 true), s.FreshHits (pollAt 100 true) ∧
        s'.state.detectionCandidateActive = true :=
    Machine.exists_reach_of_run (reach_bootRun _)
      [pollAt 25 true, pollAt 50 true, pollAt 75 true] (by decide)
  exact ⟨s, hreach, s', hstep, hon, sustained_of_freshHits hreach hfresh hstep⟩

/-! A presence input that is never high twice in a row. -/

/-- Seven samples, every second one a candidate, are a detection. -/
theorem noise_qualifies :
    ¬ ∀ (s s' : PresenceRun) (e : PresencePoll), presenceMachine.Reach Machine.Always s →
      presenceMachine.step s e = some s' → Sustained s s' := by
  intro hall
  obtain ⟨s, hreach, s', hstep, hoff, hon, hstreak⟩ : ∃ s, presenceMachine.Reach Machine.Always s ∧
      ∃ s' ∈ presenceMachine.step s (pollAt 175 true), s.state.detectionCandidateActive = false ∧
        s'.state.detectionCandidateActive = true ∧ streak true s'.samples = 1 :=
    Machine.exists_reach_of_run (reach_bootRun _)
      [pollAt 25 true, pollAt 50 false, pollAt 75 true, pollAt 100 false, pollAt 125 true,
        pollAt 150 false] (by decide)
  have hqualifies := (hall s s' _ hreach hstep).qualifies hoff hon
  rw [hstreak] at hqualifies
  exact absurd hqualifies (by decide)

/-! ## Ghosts -/

/-- A detection goes on after this sample, or begins with it. -/
def Detects (s : PresenceRun) (e : PresencePoll) : Prop :=
  if s.candidate e then presenceQualifySampleCount ≤ s.state.presenceCandidateHitCount + 1
  else s.state.detectionCandidateActive ∧
    s.state.presenceCandidateMissCount + 1 < presenceReleaseSampleCount

/-- A sample without a detection leaves presence low: since the last detection the clock has not
turned to within the hold time again, and the hold time has not been raised over the time since. -/
def StaysLapsed (s : PresenceRun) (e : PresencePoll) : Prop :=
  s.Samples e → s.state.lastPresence = false → s.state.lastDetectionMs ≠ 0 → ¬ s.Detects e →
    (e.time - s.detectedAt < 2 ^ 32 ∨ e.holdMs ≤ (e.time - s.detectedAt) % 2 ^ 32) ∧
      (e.holdMs ≤ s.heldFor ∨ e.holdMs ≤ e.time - s.detectedAt)

/-- Presence does not begin without a detection. -/
def NoGhost (s s' : PresenceRun) : Prop :=
  s.state.lastPresence = false → s'.state.lastPresence = true →
    s'.state.detectionCandidateActive = true

/-- What holds in every run: the stamp is that of the last detection, and while presence is low
the hold time of the last sample has gone by since. -/
structure Stamped (s : PresenceRun) : Prop where
  detectedAt_le : s.detectedAt ≤ s.clock
  stamp : s.state.lastDetectionMs = millis s.detectedAt
  lapsed : s.state.lastPresence = false → s.state.lastDetectionMs = 0 ∨
    s.heldFor ≤ s.clock - s.detectedAt

theorem detectionCandidateActive_poll {s : PresenceRun} {e : PresencePoll} (hs : s.Counted)
    (h : s.Samples e) : (s.poll e).state.detectionCandidateActive = true ↔ s.Detects e := by
  have hactive := hs.consistent.active_iff
  have hactive' := (hs.poll e).consistent.active_iff
  rw [hactive', Detects]
  cases hcandidate : s.candidate e with
  | true =>
    obtain ⟨_, hhits, _⟩ := pollPresence_candidate hs.consistent h hcandidate
    rw [state_poll, hhits, if_pos rfl]
    omega
  | false =>
    obtain ⟨_, _, hhits⟩ := pollPresence_miss hs.consistent h hcandidate
    rw [state_poll, hhits, if_neg Bool.false_ne_true, hactive]
    have hpos : presenceQualifySampleCount ≠ 0 := by decide
    split <;> omega

/-- The stamp of the last detection, and presence, after a sample. -/
theorem presence_poll {s : PresenceRun} {e : PresencePoll} (h : s.Samples e) :
    (s.poll e).state.lastDetectionMs = (if (s.poll e).state.detectionCandidateActive then
        millis e.time else s.state.lastDetectionMs) ∧
      (s.poll e).state.lastPresence = ((s.poll e).state.detectionCandidateActive ||
        (s.poll e).state.presenceDecayRemainingMs e.runtimeConfig (millis e.time) > 0) := by
  have hpoll : (s.poll e).state = (s.state.sample e.inputs).settle
      ((s.state.sample e.inputs).detectionCandidateActive ||
        (s.state.sample e.inputs).presenceDecayRemainingMs e.runtimeConfig (millis e.time) > 0) := by
    rw [state_poll]
    exact if_pos h
  obtain ⟨hpresence, _, _, hactive, hstamp⟩ := (s.state.sample e.inputs).settle_spec
    ((s.state.sample e.inputs).detectionCandidateActive ||
      (s.state.sample e.inputs).presenceDecayRemainingMs e.runtimeConfig (millis e.time) > 0)
  have hdecay (t : PresenceState) (ht : t.lastDetectionMs = (s.state.sample e.inputs).lastDetectionMs) :
      t.presenceDecayRemainingMs e.runtimeConfig (millis e.time) =
        (s.state.sample e.inputs).presenceDecayRemainingMs e.runtimeConfig (millis e.time) := by
    rw [presenceDecayRemainingMs, ht, presenceDecayRemainingMs]
  rw [hpoll, hdecay _ hstamp, hactive, hstamp, hpresence]
  exact ⟨lastDetectionMs_sample _ _, rfl⟩

theorem holdMs_mem (config : RuntimeTuning) :
    0 < config.effectivePresenceHoldMs.toNat ∧ config.effectivePresenceHoldMs.toNat < 2 ^ 32 := by
  have hpos : minPresenceHoldMs.toNat ≤ config.effectivePresenceHoldMs.toNat := by
    rw [RuntimeTuning.effectivePresenceHoldMs, toNat_max_uint16]
    exact le_max_left _ _
  have hmin : minPresenceHoldMs.toNat = 3000 := by decide
  have hlt := config.effectivePresenceHoldMs.toNat_lt
  omega

/-- Presence that is still held, in terms of the real time of the last detection. -/
theorem decay_pos_iff {s : PresenceState} {detectedAt time : ℕ}
    (hstamp : s.lastDetectionMs = millis detectedAt) (hle : detectedAt ≤ time)
    (config : RuntimeTuning) :
    s.presenceDecayRemainingMs config (millis time) > 0 ↔ s.lastDetectionMs ≠ 0 ∧
      (time - detectedAt) % 2 ^ 32 < config.effectivePresenceHoldMs.toNat := by
  have hpos := (holdMs_mem config).1
  have helapsed : (millis time - s.lastDetectionMs).toNat = (time - detectedAt) % 2 ^ 32 := by
    rw [hstamp, toNat_millis_sub hle]
  rw [presenceDecayRemainingMs]
  dsimp only
  rw [helapsed]
  by_cases hnever : s.lastDetectionMs = 0
  · rw [if_pos (Or.inr hnever)]
    exact iff_of_false (lt_irrefl 0) fun h => h.1 hnever
  · rw [if_neg (not_or.2 ⟨hpos.ne', hnever⟩), and_iff_right hnever]
    split <;> omega

theorem stamped_boot {s : PresenceRun} (h : s.Boot) : s.Stamped := by
  obtain ⟨gpioHigh, hs⟩ := h
  rw [hs]
  exact ⟨Nat.zero_le _, rfl, fun _ => Or.inl rfl⟩

theorem detectedAt_poll {s : PresenceRun} {e : PresencePoll} (h : s.Samples e) :
    (s.poll e).detectedAt =
      if (s.poll e).state.detectionCandidateActive then e.time else s.detectedAt := by
  rw [poll, if_pos h]

theorem heldFor_poll {s : PresenceRun} {e : PresencePoll} (h : s.Samples e) :
    (s.poll e).heldFor = e.holdMs := by
  rw [poll, if_pos h]

theorem clock_poll (s : PresenceRun) (e : PresencePoll) : (s.poll e).clock = e.time := by
  rw [poll]
  split <;> rfl

/-- Presence after a sample that is no detection. -/
theorem Stamped.lastPresence_poll {s : PresenceRun} (hs : s.Stamped) {e : PresencePoll}
    (hle : s.clock ≤ e.time) (h : s.Samples e)
    (hoff : (s.poll e).state.detectionCandidateActive = false) :
    (s.poll e).state.lastDetectionMs = s.state.lastDetectionMs ∧
      ((s.poll e).state.lastPresence = true ↔ s.state.lastDetectionMs ≠ 0 ∧
        (e.time - s.detectedAt) % 2 ^ 32 < e.holdMs) := by
  obtain ⟨hstamp, hpresence⟩ := presence_poll h
  rw [hoff, if_neg Bool.false_ne_true] at hstamp
  have hdecay := decay_pos_iff (hstamp.trans hs.stamp) (hs.detectedAt_le.trans hle) e.runtimeConfig
  refine ⟨hstamp, ?_⟩
  rw [hpresence, hoff, Bool.false_or, decide_eq_true_iff, hdecay, hstamp]
  rfl

theorem Stamped.poll {s : PresenceRun} (hs : s.Stamped) {e : PresencePoll} (hle : s.clock ≤ e.time) :
    (s.poll e).Stamped := by
  have hdetected := hs.detectedAt_le
  by_cases h : s.Samples e
  · cases hactive : (s.poll e).state.detectionCandidateActive with
    | true =>
      obtain ⟨hstamp, hpresence⟩ := presence_poll h
      have hat := detectedAt_poll h
      rw [hactive, if_pos rfl] at hstamp hat
      refine ⟨?_, ?_, fun hlow => ?_⟩
      · rw [hat, clock_poll]
      · rw [hstamp, hat]
      · rw [hpresence, hactive] at hlow
        cases hlow
    | false =>
      obtain ⟨hstamp, hpresence⟩ := hs.lastPresence_poll hle h hactive
      have hat := detectedAt_poll h
      rw [hactive, if_neg Bool.false_ne_true] at hat
      refine ⟨?_, ?_, fun hlow => ?_⟩
      · rw [hat, clock_poll]
        omega
      · rw [hstamp, hat, hs.stamp]
      · by_cases hnever : s.state.lastDetectionMs = 0
        · exact Or.inl (hstamp.trans hnever)
        · right
          have hover : ¬ (e.time - s.detectedAt) % 2 ^ 32 < e.holdMs := fun hheld => by
            rw [hpresence.2 ⟨hnever, hheld⟩] at hlow
            cases hlow
          have hmod := Nat.mod_le (e.time - s.detectedAt) (2 ^ 32)
          rw [heldFor_poll h, clock_poll, hat]
          omega
  · rw [poll_of_not_samples h]
    refine ⟨hdetected.trans hle, hs.stamp, fun hlow => (hs.lapsed hlow).imp_right fun hheld => ?_⟩
    dsimp only
    omega

/-- In every run: a sample brings no ghost exactly if presence stays lapsed. -/
theorem noGhost_iff {s s' : PresenceRun} {e : PresencePoll}
    (h : presenceMachine.Reach Machine.Always s) (hstep : presenceMachine.step s e = some s') :
    NoGhost s s' ↔ s.StaysLapsed e := by
  have hinv : s.Counted ∧ s.Stamped := by
    refine h.invariant (I := fun s => s.Counted ∧ s.Stamped) ?_ ?_
    · exact fun s hboot => ⟨counted_boot hboot, stamped_boot hboot⟩
    · rintro s e s' ⟨hs, hstamped⟩ _ hstep
      obtain ⟨hle, rfl⟩ := step_eq_some_iff.1 hstep
      exact ⟨hs.poll e, hstamped.poll hle⟩
  obtain ⟨hs, hstamped⟩ := hinv
  obtain ⟨hle, rfl⟩ := step_eq_some_iff.1 hstep
  by_cases hsamples : s.Samples e
  · have hdetects := detectionCandidateActive_poll hs hsamples
    cases hactive : (s.poll e).state.detectionCandidateActive with
    | true => exact iff_of_true (fun _ _ => hactive) fun _ _ _ hnot => absurd (hdetects.1 hactive) hnot
    | false =>
      have hnot : ¬ s.Detects e := fun hd => by
        rw [hdetects.2 hd] at hactive
        cases hactive
      obtain ⟨-, hpresence⟩ := hstamped.lastPresence_poll hle hsamples hactive
      have hhold : e.holdMs < 2 ^ 32 := (holdMs_mem e.runtimeConfig).2
      rw [NoGhost, hactive, hpresence, StaysLapsed]
      constructor
      · intro hno _ hlow hstamp _
        have hover : ¬ (e.time - s.detectedAt) % 2 ^ 32 < e.holdMs :=
          fun hheld => Bool.false_ne_true (hno hlow ⟨hstamp, hheld⟩)
        have hmod := Nat.mod_le (e.time - s.detectedAt) (2 ^ 32)
        omega
      · intro hlapsed hlow hheld
        obtain ⟨hwrap, hraised⟩ := hlapsed hsamples hlow hheld.1 hnot
        have hbefore := (hstamped.lapsed hlow).resolve_left hheld.1
        -- within one turn of the clock the time since the detection is read as it is
        rcases hwrap with hwrap | hwrap
        · have hmod := Nat.mod_eq_of_lt hwrap
          omega
        · omega
  · rw [poll_of_not_samples hsamples]
    refine iff_of_true (fun hlow hhigh => ?_) fun hs => absurd hs hsamples
    rw [hlow] at hhigh
    cases hhigh

theorem noGhost_iff_first :
    NoGhost bootRun (bootRun.poll (pollAt 25 true)) ↔ bootRun.StaysLapsed (pollAt 25 true) :=
  noGhost_iff (reach_bootRun _) (step_eq_some_iff.2 ⟨by decide, rfl⟩)

/-- Four hits and eighty misses, and a look at the room when the hold time is over. -/
def visit : List PresencePoll :=
  (List.range 4).map (fun i => pollAt (25 + 25 * i) true) ++
    (List.range 80).map (fun i => pollAt (125 + 25 * i) false) ++ [pollAt 10000 false]

/-- When the clock has turned around once, the visit of 49.7 days before is presence again. -/
theorem visit_returns :
    ¬ ∀ (s s' : PresenceRun) (e : PresencePoll), presenceMachine.Reach Machine.Always s →
      presenceMachine.step s e = some s' → NoGhost s s' := by
  intro hall
  obtain ⟨s, hreach, s', hstep, hlow, hhigh, hoff⟩ : ∃ s, presenceMachine.Reach Machine.Always s ∧
      ∃ s' ∈ presenceMachine.step s (pollAt (2 ^ 32 + 2100) false), s.state.lastPresence = false ∧
        s'.state.lastPresence = true ∧ s'.state.detectionCandidateActive = false :=
    Machine.exists_reach_of_run (reach_bootRun _) visit (by decide +kernel)
  rw [hall s s' _ hreach hstep hlow hhigh] at hoff
  cases hoff

end PresenceRun

end EspWaveRider.Cpp
