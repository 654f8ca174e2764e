import EspWaveRider.Core.Radar

/-!
# Radar metrics and the detection decision

`rust/crates/espwaverider-core/src/metrics.rs`: what the firmware derives from
the latest radar frame, and whether that counts as a detection under the
current tuning.

* `buildRadarDerivedMetrics` — people, active gates, dominant gate, activity;
* `radarDetectionDecision` — the decision and the reason for it;
* `effectiveMinGateEnergy`, `effectiveMinActivityScore` — the two thresholds
  scaled by the sensitivity, with their bounds.
-/

namespace EspWaveRider.Metrics

open Radar

structure RadarTuning where
  maxDetectionRangeCm : UInt16 := 1120
  minGateEnergy : UInt16 := 25
  sensitivityPercent : UInt8 := 55
  minActiveGates : UInt8 := 1
  minActivityScore : UInt8 := 10
  deriving DecidableEq

structure RadarDerivedMetrics where
  valid : Bool := false
  energyBased : Bool := false
  estimatedPeople : ℕ := 0
  activeGateCount : ℕ := 0
  dominantGateIndex : ℤ := -1
  dominantGateDistanceCm : ℤ := -1
  dominantGateEnergy : ℕ := 0
  totalGateEnergy : ℕ := 0
  activityScore : ℕ := 0
  deriving DecidableEq

inductive RadarDetectionDecision where
  | candidate
  | invalidMetrics
  | outOfRange
  | insufficientActiveGates
  | lowActivity
  | missingEnergyFrame
  | lowEnergy
  | nearFieldClutter
  deriving DecidableEq

/-! ## Thresholds -/

/-- A threshold scaled by `150 - sensitivity` percent. -/
def scaledThreshold (threshold : ℕ) (sensitivityPercent : UInt8) : ℕ :=
  threshold * (150 - max 10 (min sensitivityPercent.toNat 100)) / 100

def effectiveMinGateEnergy (tuning : RadarTuning) : ℕ :=
  max (scaledThreshold tuning.minGateEnergy.toNat tuning.sensitivityPercent) 10 % 65536

def effectiveMinActivityScore (tuning : RadarTuning) : ℕ :=
  max 1 (min (scaledThreshold tuning.minActivityScore.toNat tuning.sensitivityPercent) 100)

theorem effectiveMinActivityScore_mem (tuning : RadarTuning) :
    1 ≤ effectiveMinActivityScore tuning ∧ effectiveMinActivityScore tuning ≤ 100 := by
  unfold effectiveMinActivityScore
  omega

/-! ## Metrics -/

/-- Energy, peak energy and index of the first peak, over gates from `index` on. -/
def scanGates : List UInt16 → ℕ → ℕ × ℕ × ℤ → ℕ × ℕ × ℤ
  | [], _, acc => acc
  | gate :: gates, index, (total, peak, peakIndex) =>
    scanGates gates (index + 1)
      (if gate.toNat > peak then (total + gate.toNat, gate.toNat, index)
       else (total + gate.toNat, peak, peakIndex))

/-- Number of active gates and of maximal runs of them; `open` tells whether
the previous gate was active. -/
def scanClusters (threshold : ℕ) : List UInt16 → Bool → ℕ × ℕ → ℕ × ℕ
  | [], _, acc => acc
  | gate :: gates, clusterOpen, (active, clusters) =>
    if threshold ≤ gate.toNat then
      scanClusters threshold gates true
        (active + 1, if clusterOpen then clusters else clusters + 1)
    else scanClusters threshold gates false (active, clusters)

def applyEnergyMetrics (metrics : RadarDerivedMetrics) (energy : EnergyFrame) :
    RadarDerivedMetrics :=
  let gates := energy.gates.toList
  let (total, peakEnergy, peakIndex) := scanGates gates 0 (metrics.totalGateEnergy, 0, -1)
  let activeThreshold := if peakEnergy > 0 then max 25 (peakEnergy / 5) else 25
  let (active, clusterCount) :=
    scanClusters activeThreshold gates false (metrics.activeGateCount, 0)
  { metrics with
    totalGateEnergy := total
    activeGateCount := active
    dominantGateIndex := peakIndex
    dominantGateEnergy := peakEnergy
    dominantGateDistanceCm :=
      if peakIndex ≥ 0 then peakIndex * 70 + 35 else metrics.dominantGateDistanceCm
    estimatedPeople :=
      if energy.presence ∧ peakEnergy > 0 then
        min (max 1 clusterCount + if active ≥ 8 ∧ total ≥ peakEnergy * 3 then 1 else 0) 4
      else metrics.estimatedPeople
    activityScore := min (total / 300 + active * 6 + peakEnergy / 120) 100 }

def applyTextMetrics (metrics : RadarDerivedMetrics) (text : TextFrame) : RadarDerivedMetrics :=
  let metrics := { metrics with
    estimatedPeople := if text.presence then 1 else 0
    activeGateCount := if text.presence then 1 else 0
    activityScore := if text.presence then 15 else 0 }
  match text.rangeCm with
  | some rangeCm => { metrics with
      dominantGateDistanceCm := rangeCm.toNat
      dominantGateIndex := min (rangeCm.toNat / 70) 15 }
  | none => metrics

def applyGpioMetrics (metrics : RadarDerivedMetrics) (gpioPresence : Bool) :
    RadarDerivedMetrics :=
  { metrics with
    estimatedPeople := if gpioPresence then 1 else 0
    activeGateCount := if gpioPresence then 1 else 0
    activityScore := if gpioPresence then 5 else 0 }

/-- Energy concentrated in the first gates while the reported distance is far
from the dominant gate. -/
def energyFrameLooksLikeNearFieldClutter (metrics : RadarDerivedMetrics) (energy : EnergyFrame) :
    Bool :=
  let gate (i : ℕ) : ℕ := (energy.gates.toList.getD i 0).toNat
  let reportedDistanceCm := energy.distanceCm.toNat
  if !metrics.energyBased ∨ metrics.dominantGateIndex < 0 then false
  else if metrics.dominantGateIndex > 1 ∨ metrics.totalGateEnergy = 0 then false
  else if reportedDistanceCm = 0 ∨ metrics.dominantGateDistanceCm < 0 then false
  else if (reportedDistanceCm : ℤ) - metrics.dominantGateDistanceCm < 105 then false
  else if (gate 0 + gate 1 + gate 2) * 100 / metrics.totalGateEnergy ≥ 55 then true
  else if metrics.dominantGateEnergy * 100 / metrics.totalGateEnergy < 45 then false
  else
    let reportedGateIndex := min ((reportedDistanceCm + 35) / 70) 15
    let reportedNeighborhoodEnergy := gate reportedGateIndex
      + (if reportedGateIndex > 0 then gate (reportedGateIndex - 1) else 0)
      + (if reportedGateIndex < 15 then gate (reportedGateIndex + 1) else 0)
    metrics.dominantGateEnergy > reportedNeighborhoodEnergy

def buildRadarDerivedMetrics (frame : Option RadarFrame) (gpioPresence : Bool) :
    RadarDerivedMetrics :=
  let metrics : RadarDerivedMetrics := { valid := frame.isSome || gpioPresence }
  match frame with
  | some (.energy energy) =>
    let metrics := applyEnergyMetrics { metrics with energyBased := true } energy
    if energyFrameLooksLikeNearFieldClutter metrics energy then
      { metrics with estimatedPeople := 0 }
    else metrics
  | some (.text text) => applyTextMetrics metrics text
  | some (.generic _) => applyGpioMetrics metrics gpioPresence
  | none => applyGpioMetrics metrics gpioPresence

/-! ## The decision -/

def radarDetectionDecision (metrics : RadarDerivedMetrics) (frame : Option RadarFrame)
    (tuning : RadarTuning) : RadarDetectionDecision :=
  let minActivity := effectiveMinActivityScore tuning
  let final : RadarDetectionDecision :=
    if metrics.estimatedPeople > 0 ∨ metrics.activityScore ≥ minActivity then .candidate
    else .lowActivity
  if !metrics.valid then .invalidMetrics
  else if metrics.dominantGateDistanceCm ≥ 0 ∧
      metrics.dominantGateDistanceCm > tuning.maxDetectionRangeCm.toNat then .outOfRange
  else if metrics.activeGateCount < tuning.minActiveGates.toNat then .insufficientActiveGates
  else if metrics.activityScore < minActivity then .lowActivity
  else if metrics.energyBased then
    match frame with
    | some (.energy energyFrame) =>
      let minEnergy := effectiveMinGateEnergy tuning
      let minTotalEnergy := minEnergy * max tuning.minActiveGates.toNat 1
      if metrics.dominantGateEnergy < minEnergy ∧ metrics.totalGateEnergy < minTotalEnergy then
        .lowEnergy
      else if energyFrameLooksLikeNearFieldClutter metrics energyFrame then .nearFieldClutter
      else final
    | _ => .missingEnergyFrame
  else final

def radarDetectionCandidate (metrics : RadarDerivedMetrics) (frame : Option RadarFrame)
    (tuning : RadarTuning) : Bool :=
  radarDetectionDecision metrics frame tuning == .candidate

/-- A candidate is backed by valid metrics that reach the activity threshold
and enough active gates. -/
theorem radarDetectionCandidate_bounds {metrics : RadarDerivedMetrics}
    {frame : Option RadarFrame} {tuning : RadarTuning}
    (h : radarDetectionCandidate metrics frame tuning) :
    metrics.valid = true ∧ tuning.minActiveGates.toNat ≤ metrics.activeGateCount ∧
      effectiveMinActivityScore tuning ≤ metrics.activityScore := by
  have hdec : radarDetectionDecision metrics frame tuning = .candidate := by
    simpa [radarDetectionCandidate] using h
  by_contra hno
  unfold radarDetectionDecision at hdec
  split_ifs at hdec with hvalid hrange hgates hactivity
  all_goals simp_all

end EspWaveRider.Metrics
