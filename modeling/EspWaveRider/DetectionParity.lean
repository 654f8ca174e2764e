import EspWaveRider.Cpp.RadarMetrics

/-!
# One frame, two firmwares

The Rust core and the C++ firmware judge the same energy frames with the same thresholds, but
not with the same rule for near-field clutter: only the C++ firmware lets a reported target with
enough gate energy around it pass, and the Rust core looks at the distance before anything else.

* `coreClutter_iff`, `clutter_iff` — what each rule comes to;
* `detectionParity_iff` — when the two firmwares come to the same decision and count.
-/

namespace EspWaveRider.Cpp

open Metrics

/-- The tuning as the Rust core takes it. -/
def RuntimeTuning.radarTuning (config : RuntimeTuning) : RadarTuning where
  maxDetectionRangeCm := config.maxDetectionRangeCm
  minGateEnergy := config.minGateEnergy
  sensitivityPercent := config.sensitivityPercent
  minActiveGates := config.minActiveGates
  minActivityScore := config.minActivityScore

theorem effectiveMinGateEnergy_radarTuning (config : RuntimeTuning) :
    Metrics.effectiveMinGateEnergy config.radarTuning = config.effectiveMinGateEnergy := by
  rw [Metrics.effectiveMinGateEnergy, max_comm]
  rfl

theorem effectiveMinActivityScore_radarTuning (config : RuntimeTuning) :
    Metrics.effectiveMinActivityScore config.radarTuning = config.effectiveMinActivityScore := by
  rw [Metrics.effectiveMinActivityScore, min_comm]
  rfl

/-! ## A frame and what it shows -/

/-- The metrics of a frame before the rule for clutter. -/
def frameMetrics (frame : Radar.EnergyFrame) : RadarDerivedMetrics :=
  applyEnergyMetrics { valid := true, energyBased := true } frame

/-- A peak is above zero. -/
theorem scanGates_peak (gates : List UInt16) (index total peak : ℕ) (peakIndex : ℤ)
    (h : 0 ≤ peakIndex → 0 < peak) :
    let scan := scanGates gates index (total, peak, peakIndex)
    0 ≤ scan.2.2 → 0 < scan.2.1 := by
  induction gates generalizing index total peak peakIndex with
  | nil => exact h
  | cons gate gates ih =>
    rw [scanGates]
    split
    · rename_i hgreater
      exact ih _ _ _ _ fun _ => by omega
    · exact ih _ _ _ _ h

theorem dominantGateEnergy_pos {frame : Radar.EnergyFrame}
    (h : 0 ≤ (frameMetrics frame).dominantGateIndex) : 0 < (frameMetrics frame).dominantGateEnergy :=
  scanGates_peak frame.gates.toList 0 0 0 (-1) (fun hneg => by omega) h

theorem dominantGateDistanceCm_of_index {frame : Radar.EnergyFrame}
    (h : 0 ≤ (frameMetrics frame).dominantGateIndex) :
    (frameMetrics frame).dominantGateDistanceCm =
      (frameMetrics frame).dominantGateIndex * 70 + 35 := if_pos h

/-- People are counted exactly if the frame says so and some gate has energy. -/
theorem estimatedPeople_eq_zero_iff (frame : Radar.EnergyFrame) :
    (frameMetrics frame).estimatedPeople = 0 ↔
      ¬ (frame.presence ∧ 0 < (frameMetrics frame).dominantGateEnergy) := by
  have hpeople : (frameMetrics frame).estimatedPeople = if frame.presence ∧
      (frameMetrics frame).dominantGateEnergy > 0 then _ else 0 := rfl
  rw [hpeople]
  split
  · rename_i hpresent
    refine iff_of_false ?_ (not_not.2 hpresent)
    omega
  · rename_i habsent
    exact iff_of_true rfl habsent

namespace FrameView

variable (frame : Radar.EnergyFrame)

/-- The dominant gate is one of the first two, and some target is reported. -/
structure Near : Prop where
  nonneg : 0 ≤ (frameMetrics frame).dominantGateIndex
  le_one : (frameMetrics frame).dominantGateIndex ≤ 1
  total : (frameMetrics frame).totalGateEnergy ≠ 0
  reported : frame.distanceCm.toNat ≠ 0

/-- The reported target is well behind the dominant gate. -/
def Behind : Prop :=
  105 ≤ (frame.distanceCm.toNat : ℤ) - (frameMetrics frame).dominantGateDistanceCm

def neighborhood : ℕ := reportedNeighborhoodEnergy frame.gates.toList frame.distanceCm.toNat

/-- The first three gates hold most of the energy. -/
def BandHeavy : Prop :=
  let gate := gateEnergy frame.gates.toList
  55 ≤ (gate 0 + gate 1 + gate 2) * 100 / (frameMetrics frame).totalGateEnergy

/-- The dominant gate alone holds much of the energy, and more than the reported target. -/
def PeakHeavy : Prop :=
  45 ≤ (frameMetrics frame).dominantGateEnergy * 100 / (frameMetrics frame).totalGateEnergy ∧
    neighborhood frame < (frameMetrics frame).dominantGateEnergy

/-- The gates around the reported target have enough energy for this tuning. -/
def Supported (config : RuntimeTuning) : Prop :=
  70 < frame.distanceCm.toNat ∧ config.effectiveMinGateEnergy * 20 ≤ neighborhood frame

instance : Decidable (Behind frame) := inferInstanceAs (Decidable (_ ≤ _))
instance : Decidable (BandHeavy frame) := inferInstanceAs (Decidable (_ ≤ _))
instance : Decidable (PeakHeavy frame) := inferInstanceAs (Decidable (_ ∧ _))
instance (config : RuntimeTuning) : Decidable (Supported frame config) :=
  inferInstanceAs (Decidable (_ ∧ _))

end FrameView

open FrameView

/-! ## The two rules -/

theorem coreNeighborhood_eq (frame : Radar.EnergyFrame) :
    neighborhood frame =
      let gate (i : ℕ) : ℕ := (frame.gates.toList.getD i 0).toNat
      let reportedGateIndex := min ((frame.distanceCm.toNat + 35) / 70) 15
      gate reportedGateIndex + (if reportedGateIndex > 0 then gate (reportedGateIndex - 1) else 0)
        + (if reportedGateIndex < 15 then gate (reportedGateIndex + 1) else 0) := by
  have hindex : (max 0 (min (((frame.distanceCm.toNat : ℤ) + ld2420GateSizeCm / 2) / ld2420GateSizeCm)
      ((ld2420GateCount : ℤ) - 1))).toNat = min ((frame.distanceCm.toNat + 35) / 70) 15 := by
    rw [ld2420GateSizeCm, ld2420GateCount]
    omega
  rw [neighborhood, reportedNeighborhoodEnergy, hindex]
  rfl

/-- The guards before either rule let pass what is near. -/
theorem guarded_iff (frame : Radar.EnergyFrame) {unreported : Prop} [Decidable unreported]
    (hunreported : unreported ↔ frame.distanceCm.toNat = 0) (rule : Bool) :
    (if (!(frameMetrics frame).energyBased) = true ∨ (frameMetrics frame).dominantGateIndex < 0 then false
      else if (frameMetrics frame).dominantGateIndex > 1 ∨ (frameMetrics frame).totalGateEnergy = 0 then
        false
      else if unreported ∨ (frameMetrics frame).dominantGateDistanceCm < 0 then false
      else rule) = true ↔ Near frame ∧ rule = true := by
  have henergy : (!(frameMetrics frame).energyBased) = true ↔ False := iff_of_false Bool.false_ne_true id
  simp only [henergy, false_or, hunreported]
  by_cases hnear : Near frame
  case pos =>
    have hnonneg := hnear.nonneg
    have hle := hnear.le_one
    have htotal := hnear.total
    have hreported := hnear.reported
    have hdistance := dominantGateDistanceCm_of_index hnonneg
    rw [if_neg (by omega), if_neg (by omega), if_neg (by omega), and_iff_right hnear]
  case neg =>
    refine iff_of_false ?_ fun h => hnear h.1
    split_ifs with hindex hzone hreported
    · exact not_false
    · exact not_false
    · exact not_false
    · exact absurd ⟨by omega, by omega, by omega, by omega⟩ hnear

/-- The rule of the Rust core. -/
theorem coreClutter_iff (frame : Radar.EnergyFrame) (people : ℕ) :
    Metrics.energyFrameLooksLikeNearFieldClutter
        { frameMetrics frame with estimatedPeople := people } frame = true ↔
      Near frame ∧ Behind frame ∧ (BandHeavy frame ∨ PeakHeavy frame) := by
  have hneighborhood := coreNeighborhood_eq frame
  rw [Metrics.energyFrameLooksLikeNearFieldClutter]
  dsimp only at hneighborhood ⊢
  rw [← hneighborhood]
  refine (guarded_iff frame Iff.rfl _).trans (and_congr_right fun _ => ?_)
  split_ifs with hbehind hband hpeak
  · exact iff_of_false not_false fun h => not_le.2 hbehind h.1
  · exact iff_of_true rfl ⟨not_lt.1 hbehind, Or.inl hband⟩
  · refine iff_of_false not_false fun h => ?_
    rcases h.2 with hheavy | hheavy
    · exact hband hheavy
    · exact not_le.2 hpeak hheavy.1
  · rw [decide_eq_true_iff]
    constructor
    · intro hgreater
      exact ⟨not_lt.1 hbehind, Or.inr ⟨not_lt.1 hpeak, hgreater⟩⟩
    · rintro ⟨_, hheavy | hheavy⟩
      · exact absurd hheavy hband
      · exact hheavy.2

/-- The band of the C++ firmware is the first three gates. -/
theorem sum_band (gates : List UInt16) :
    ((List.range (min ld2420GateCount ld2420NearFieldClutterBandGates)).map (gateEnergy gates)).sum =
      gateEnergy gates 0 + gateEnergy gates 1 + gateEnergy gates 2 := by
  have hrange : List.range (min ld2420GateCount ld2420NearFieldClutterBandGates) = [0, 1, 2] := by
    decide
  rw [hrange]
  simp [Nat.add_assoc]

/-- The rule of the C++ firmware. -/
theorem clutter_iff (now : UInt32) (frame : Radar.EnergyFrame) (config : RuntimeTuning) (people : ℕ) :
    energyFrameLooksLikeNearFieldClutter config
        { frameMetrics frame with estimatedPeople := people } (snapshotOf now frame) = true ↔
      Near frame ∧ ¬ Supported frame config ∧
        (BandHeavy frame ∨ (Behind frame ∨ frame.distanceCm.toNat ≤ 70) ∧ PeakHeavy frame) := by
  have hgates : (snapshotOf now frame).gates = frame.gates.toList := rfl
  have hreports : (snapshotOf now frame).distanceCm = frame.distanceCm := rfl
  have hsupported : decide ((frame.distanceCm.toNat : ℤ) > ld2420NearFieldClutterMaxReportedDistanceCm ∧
      neighborhood frame ≥ config.effectiveMinGateEnergy * ld2420ReportedTargetNeighborMinMultiplier) =
        decide (Supported frame config) := by
    refine decide_eq_decide.2 (and_congr_left' ?_)
    rw [ld2420NearFieldClutterMaxReportedDistanceCm]
    omega
  rw [energyFrameLooksLikeNearFieldClutter]
  dsimp only
  rw [hgates, hreports, sum_band, ← neighborhood, hsupported]
  refine (guarded_iff frame (by omega) _).trans (and_congr_right fun _ => ?_)
  split_ifs with hheavy hclose hpeak
  · rw [Bool.not_eq_true', decide_eq_false_iff_not]
    exact ⟨fun h => ⟨h, Or.inl hheavy⟩, fun h => h.1⟩
  · -- beyond 70 cm, but not well behind the dominant gate
    refine iff_of_false not_false fun h => ?_
    rw [ld2420NearFieldClutterDistanceDeltaCm, ld2420NearFieldClutterMaxReportedDistanceCm] at hclose
    rcases h.2 with hband | ⟨hbehind | hshort, _⟩
    · exact hheavy hband
    · exact not_le.2 hclose.1 hbehind
    · omega
  · refine iff_of_false not_false fun h => ?_
    rcases h.2 with hband | ⟨_, hpeak'⟩
    · exact hheavy hband
    · exact not_le.2 hpeak hpeak'.1
  · rw [Bool.and_eq_true, Bool.not_eq_true', decide_eq_false_iff_not, decide_eq_true_iff]
    rw [ld2420NearFieldClutterDistanceDeltaCm, ld2420NearFieldClutterMaxReportedDistanceCm] at hclose
    constructor
    · rintro ⟨hunsupported, hgreater⟩
      refine ⟨hunsupported, Or.inr ⟨?_, not_lt.1 hpeak, hgreater⟩⟩
      rw [Behind]
      omega
    · rintro ⟨hunsupported, hband | ⟨_, hpeak'⟩⟩
      · exact absurd hband hheavy
      · exact ⟨hunsupported, hpeak'.2⟩

/-- The two rules say the same: what stands well behind a strong first gate has no support, and
what does not stand well behind it has. -/
def RulesAgree (frame : Radar.EnergyFrame) (config : RuntimeTuning) : Prop :=
  Near frame →
    (Behind frame → BandHeavy frame ∨ PeakHeavy frame → ¬ Supported frame config) ∧
    (¬ Behind frame → BandHeavy frame ∨ frame.distanceCm.toNat ≤ 70 ∧ PeakHeavy frame →
      Supported frame config)

theorem clutter_eq_iff (now : UInt32) (frame : Radar.EnergyFrame) (config : RuntimeTuning)
    (people people' : ℕ) :
    Metrics.energyFrameLooksLikeNearFieldClutter
        { frameMetrics frame with estimatedPeople := people } frame =
      energyFrameLooksLikeNearFieldClutter config
        { frameMetrics frame with estimatedPeople := people' } (snapshotOf now frame) ↔
      RulesAgree frame config := by
  rw [Bool.eq_iff_iff, coreClutter_iff, clutter_iff, RulesAgree]
  by_cases hnear : Near frame
  case neg => simp [hnear]
  case pos =>
    by_cases hbehind : Behind frame
    case pos => simp [hnear, hbehind]
    case neg =>
      simp only [hnear, hbehind, true_and, false_and, false_or, false_iff, not_and, not_imp_not,
        true_imp_iff, false_imp_iff, not_false_iff]

/-! ## The decisions -/

/-- No rule before the one for clutter decides. -/
structure ReachesClutterRule (m : RadarDerivedMetrics) (config : RuntimeTuning) : Prop where
  range : m.dominantGateDistanceCm ≤ config.maxDetectionRangeCm.toNat
  gates : config.minActiveGates.toNat ≤ m.activeGateCount
  activity : config.effectiveMinActivityScore ≤ m.activityScore
  energy : config.effectiveMinGateEnergy ≤ m.dominantGateEnergy ∨
    config.effectiveMinGateEnergy * max config.minActiveGates.toNat 1 ≤ m.totalGateEnergy

/-- The decision of the rules before. -/
def earlyDecision (m : RadarDerivedMetrics) (config : RuntimeTuning) : RadarDetectionDecision :=
  if m.dominantGateDistanceCm > config.maxDetectionRangeCm.toNat then .outOfRange
  else if m.activeGateCount < config.minActiveGates.toNat then .insufficientActiveGates
  else if m.activityScore < config.effectiveMinActivityScore then .lowActivity
  else .lowEnergy

/-- The rule for clutter is the last one that can reject a frame. -/
def lateDecision (clutter : Bool) : RadarDetectionDecision :=
  if clutter then .nearFieldClutter else .candidate

theorem reachesClutterRule_iff (m : RadarDerivedMetrics) (config : RuntimeTuning) :
    ReachesClutterRule m config ↔
      ¬ m.dominantGateDistanceCm > config.maxDetectionRangeCm.toNat ∧
      ¬ m.activeGateCount < config.minActiveGates.toNat ∧
      ¬ m.activityScore < config.effectiveMinActivityScore ∧
      ¬ (m.dominantGateEnergy < config.effectiveMinGateEnergy ∧
        m.totalGateEnergy < config.effectiveMinGateEnergy * max config.minActiveGates.toNat 1) := by
  simp only [not_lt, not_and_or, gt_iff_lt]
  exact ⟨fun h => ⟨h.range, h.gates, h.activity, h.energy⟩, fun h => ⟨h.1, h.2.1, h.2.2.1, h.2.2.2⟩⟩

instance (m : RadarDerivedMetrics) (config : RuntimeTuning) : Decidable (ReachesClutterRule m config) :=
  decidable_of_iff _ (reachesClutterRule_iff m config).symm

theorem outOfRange_iff (distance : ℤ) (limit : UInt16) :
    (distance ≥ 0 ∧ distance > limit.toNat) ↔ distance > limit.toNat := by
  omega

/-- The rules one after the other. -/
theorem decisionChain_eq (m : RadarDerivedMetrics) (config : RuntimeTuning) (clutter : Bool) :
    (if m.dominantGateDistanceCm > config.maxDetectionRangeCm.toNat then .outOfRange
      else if m.activeGateCount < config.minActiveGates.toNat then .insufficientActiveGates
      else if m.activityScore < config.effectiveMinActivityScore then .lowActivity
      else if m.dominantGateEnergy < config.effectiveMinGateEnergy ∧
        m.totalGateEnergy < config.effectiveMinGateEnergy * max config.minActiveGates.toNat 1 then .lowEnergy
      else if clutter then .nearFieldClutter
      else if m.estimatedPeople > 0 ∨ m.activityScore ≥ config.effectiveMinActivityScore then
        RadarDetectionDecision.candidate
      else .lowActivity) =
      if ReachesClutterRule m config then lateDecision clutter else earlyDecision m config := by
  by_cases hreach : ReachesClutterRule m config
  case pos =>
    obtain ⟨hrange, hgates, hactivity, henergy⟩ := (reachesClutterRule_iff m config).1 hreach
    have hlast : m.estimatedPeople > 0 ∨ m.activityScore ≥ config.effectiveMinActivityScore :=
      Or.inr hreach.activity
    rw [if_pos hreach, if_neg hrange, if_neg hgates, if_neg hactivity, if_neg henergy, if_pos hlast,
      lateDecision]
  case neg =>
    rw [if_neg hreach, earlyDecision]
    split_ifs with hrange hgates hactivity henergy
    · rfl
    · rfl
    · rfl
    · rfl
    all_goals exact absurd ((reachesClutterRule_iff m config).2 ⟨hrange, hgates, hactivity, henergy⟩) hreach

theorem coreDecision_eq {m : RadarDerivedMetrics} (hvalid : m.valid) (henergy : m.energyBased)
    (frame : Radar.EnergyFrame) (config : RuntimeTuning) :
    Metrics.radarDetectionDecision m (some (.energy frame)) config.radarTuning =
      if ReachesClutterRule m config then
        lateDecision (Metrics.energyFrameLooksLikeNearFieldClutter m frame)
      else earlyDecision m config := by
  have hrange : config.radarTuning.maxDetectionRangeCm = config.maxDetectionRangeCm := rfl
  have hgates : config.radarTuning.minActiveGates = config.minActiveGates := rfl
  simp only [Metrics.radarDetectionDecision, effectiveMinActivityScore_radarTuning,
    effectiveMinGateEnergy_radarTuning, hrange, hgates, hvalid, henergy, Bool.not_true,
    Bool.false_eq_true, if_true, if_false, outOfRange_iff]
  exact decisionChain_eq m config _

theorem decision_eq {m : RadarDerivedMetrics} (hvalid : m.valid) (henergy : m.energyBased)
    (energyFrame : LatestEnergyFrameSnapshot) (config : RuntimeTuning) :
    radarDetectionDecision config m (some energyFrame) config =
      if ReachesClutterRule m config then
        lateDecision (energyFrameLooksLikeNearFieldClutter config m energyFrame)
      else earlyDecision m config := by
  simp only [radarDetectionDecision, hvalid, henergy, Bool.not_true, Bool.false_eq_true, if_true,
    if_false, outOfRange_iff]
  exact decisionChain_eq m config _

theorem lateDecision_inj {clutter clutter' : Bool} :
    lateDecision clutter = lateDecision clutter' ↔ clutter = clutter' := by
  cases clutter <;> cases clutter' <;> decide

/-! ## Parity -/

/-- The metrics with the people of a frame that may be clutter. -/
def withClutter (m : RadarDerivedMetrics) (clutter : Bool) : RadarDerivedMetrics :=
  { m with estimatedPeople := if clutter then 0 else m.estimatedPeople }

/-- The two firmwares come to the same decision and count for a fresh energy frame. -/
def DetectionParity (now : UInt32) (frame : Radar.EnergyFrame) (config : RuntimeTuning) : Prop :=
  ∀ (textFrame : Option LatestTextFrameSnapshot) (gpioPresence gpioPresence' : Bool),
    let rust := Metrics.buildRadarDerivedMetrics (some (.energy frame)) gpioPresence
    let cpp := buildRadarDerivedMetrics config (some (snapshotOf now frame)) textFrame gpioPresence'
    Metrics.radarDetectionDecision rust (some (.energy frame)) config.radarTuning =
        radarDetectionDecision config cpp (some (snapshotOf now frame)) config ∧
      rust.estimatedPeople = cpp.estimatedPeople

theorem rustMetrics_eq (frame : Radar.EnergyFrame) (gpioPresence : Bool) :
    Metrics.buildRadarDerivedMetrics (some (.energy frame)) gpioPresence =
      withClutter (frameMetrics frame)
        (Metrics.energyFrameLooksLikeNearFieldClutter (frameMetrics frame) frame) := by
  have hbase : applyEnergyMetrics { valid := true || gpioPresence, energyBased := true } frame =
      frameMetrics frame := rfl
  simp only [Metrics.buildRadarDerivedMetrics, Option.isSome_some, hbase, withClutter]
  split <;> rfl

theorem cppMetrics_eq (now : UInt32) (frame : Radar.EnergyFrame) (config : RuntimeTuning)
    (textFrame : Option LatestTextFrameSnapshot) (gpioPresence : Bool) :
    buildRadarDerivedMetrics config (some (snapshotOf now frame)) textFrame gpioPresence =
      withClutter (frameMetrics frame) (energyFrameLooksLikeNearFieldClutter config
        (frameMetrics frame) (snapshotOf now frame)) := by
  have hbase : energyMetrics (snapshotOf now frame) = frameMetrics frame := energyMetrics_eq now frame
  simp only [buildRadarDerivedMetrics, hbase, withClutter]
  split <;> rfl

/-- For every frame and tuning: parity holds exactly if the two rules for clutter agree, or
neither matters: the frame reports nobody and is rejected before. -/
theorem detectionParity_iff (now : UInt32) (frame : Radar.EnergyFrame) (config : RuntimeTuning) :
    DetectionParity now frame config ↔
      RulesAgree frame config ∨
        frame.presence = false ∧ ¬ ReachesClutterRule (frameMetrics frame) config := by
  have hreach (clutter : Bool) : ReachesClutterRule (withClutter (frameMetrics frame) clutter) config ↔
      ReachesClutterRule (frameMetrics frame) config :=
    (reachesClutterRule_iff _ _).trans (reachesClutterRule_iff (frameMetrics frame) config).symm
  have hearly (clutter : Bool) : earlyDecision (withClutter (frameMetrics frame) clutter) config =
      earlyDecision (frameMetrics frame) config := rfl
  have hrules := clutter_eq_iff now frame config (frameMetrics frame).estimatedPeople
    (frameMetrics frame).estimatedPeople
  -- neither rule looks at the number of people
  have hcore (clutter : Bool) : Metrics.energyFrameLooksLikeNearFieldClutter
      (withClutter (frameMetrics frame) clutter) frame =
        Metrics.energyFrameLooksLikeNearFieldClutter (frameMetrics frame) frame := rfl
  have hcpp (clutter : Bool) : energyFrameLooksLikeNearFieldClutter config
      (withClutter (frameMetrics frame) clutter) (snapshotOf now frame) =
        energyFrameLooksLikeNearFieldClutter config (frameMetrics frame) (snapshotOf now frame) := rfl
  have hnear := coreClutter_iff frame (frameMetrics frame).estimatedPeople
  have hnear' := clutter_iff now frame config (frameMetrics frame).estimatedPeople
  simp only [DetectionParity, rustMetrics_eq, cppMetrics_eq, forall_const]
  rw [coreDecision_eq rfl rfl, decision_eq rfl rfl]
  simp only [hreach, hearly, hcore, hcpp]
  generalize Metrics.energyFrameLooksLikeNearFieldClutter (frameMetrics frame) frame = core at *
  generalize energyFrameLooksLikeNearFieldClutter config (frameMetrics frame) (snapshotOf now frame) =
    cpp at *
  rw [← hrules]
  by_cases hsame : core = cpp
  · subst hsame
    exact iff_of_true ⟨rfl, rfl⟩ (Or.inl rfl)
  · -- one of the two rules holds, so that some gate has energy
    have hindex : Near frame := by
      cases core <;> cases cpp
      · exact absurd rfl hsame
      · exact (hnear'.1 rfl).1
      · exact (hnear.1 rfl).1
      · exact absurd rfl hsame
    have hpeople : (frameMetrics frame).estimatedPeople = 0 ↔ frame.presence = false := by
      rw [estimatedPeople_eq_zero_iff]
      simp [dominantGateEnergy_pos hindex.nonneg]
    have hcount : (withClutter (frameMetrics frame) core).estimatedPeople =
        (withClutter (frameMetrics frame) cpp).estimatedPeople ↔ frame.presence = false := by
      rw [← hpeople]
      cases core <;> cases cpp <;> simp [withClutter] at hsame ⊢
      exact eq_comm
    rw [hcount]
    by_cases hr : ReachesClutterRule (frameMetrics frame) config
    · rw [if_pos hr, if_pos hr, lateDecision_inj]
      exact iff_of_false (fun h => hsame h.1) (fun h => h.elim hsame fun hrejected => hrejected.2 hr)
    · rw [if_neg hr, if_neg hr]
      simp [hsame, hr]

/-- Someone at 350 cm, with strong reflections from next to the sensor. -/
def occupiedFrame : Radar.EnergyFrame where
  length := 45
  payloadLength := 35
  presence := true
  distanceCm := 350
  gates := #v[5000, 0, 0, 0, 200, 200, 200, 0, 0, 0, 0, 0, 0, 0, 0, 0]

/-- The C++ firmware reports this person, the Rust core rejects the frame as clutter. -/
theorem occupiedFrame_differs :
    ¬ ∀ (now : UInt32) (frame : Radar.EnergyFrame) (config : RuntimeTuning),
      DetectionParity now frame config := by
  intro hall
  have hdecision := (hall 0 occupiedFrame {} none false false).1
  exact absurd hdecision (by decide)

end EspWaveRider.Cpp
