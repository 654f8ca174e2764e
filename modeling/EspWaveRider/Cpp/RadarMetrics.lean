import EspWaveRider.Core.Metrics
import EspWaveRider.Cpp.RadarUart

/-!
# Radar metrics of the C++ firmware

`buildRadarDerivedMetrics`, `radarDetectionDecision` and what they call, of `src/main.cpp`.  The
structure of the metrics and the names of the decisions are those of the Rust core; sixteen gates
of 16 bits keep every count of the metrics within its type.

* `buildRadarDerivedMetrics` — people, active gates, dominant gate, activity;
* `radarDetectionDecision` — the decision, with the rule for near-field clutter;
* `energyMetrics_eq`, `parseLd2420EnergyFrame_eq` — up to this rule the two firmwares read
  the same frames and derive the same metrics.
-/

namespace EspWaveRider.Cpp

open Text Metrics

def ld2420GateSizeCm : ℤ := 70
def ld2420ActiveGateFloor : ℕ := 25
def ld2420MaxEstimatedPeople : ℕ := 4
def ld2420NearFieldClutterMaxGateIndex : ℤ := 1
def ld2420NearFieldClutterMaxReportedDistanceCm : ℤ := 70
def ld2420NearFieldClutterDistanceDeltaCm : ℤ := 105
def ld2420NearFieldClutterPeakSharePercent : ℕ := 45
def ld2420NearFieldClutterBandGates : ℕ := 3
def ld2420NearFieldClutterBandSharePercent : ℕ := 55
def ld2420ReportedTargetNeighborMinMultiplier : ℕ := 20
def radarFrameFreshnessMs : UInt32 := 1000

/-- The part of `RuntimeHomeAssistantConfig` that tunes the radar and the LED. -/
structure RuntimeTuning where
  maxDetectionRangeCm : UInt16 := 1120
  minGateEnergy : UInt16 := 25
  sensitivityPercent : UInt8 := 55
  presenceHoldMs : UInt16 := 4000
  minActiveGates : UInt8 := 1
  minActivityScore : UInt8 := 10
  ledEnabled : Bool := true
  ledBrightness : UInt8 := 32
  deriving DecidableEq

namespace RuntimeTuning

/-! ## Thresholds -/

/-- A threshold scaled by `150 - sensitivity` percent. -/
def scaled (threshold : ℕ) (sensitivityPercent : UInt8) : ℕ :=
  threshold * (150 - max 10 (min sensitivityPercent.toNat 100)) / 100

def effectiveMinGateEnergy (config : RuntimeTuning) : ℕ :=
  max 10 (scaled config.minGateEnergy.toNat config.sensitivityPercent) % 65536

def effectiveMinActivityScore (config : RuntimeTuning) : ℕ :=
  max 1 (min 100 (scaled config.minActivityScore.toNat config.sensitivityPercent))

end RuntimeTuning

/-! ## Metrics -/

def gateEnergy (gates : List UInt16) (gateIndex : ℕ) : ℕ := (gates.getD gateIndex 0).toNat

/-- The first loop: energy, peak and index of the peak. -/
structure PeakScan where
  totalGateEnergy : ℕ := 0
  peakEnergy : ℕ := 0
  peakIndex : ℤ := -1

def PeakScan.step (gates : List UInt16) (scan : PeakScan) (gateIndex : ℕ) : PeakScan :=
  let energy := gateEnergy gates gateIndex
  let scan := { scan with totalGateEnergy := scan.totalGateEnergy + energy }
  if energy > scan.peakEnergy then { scan with peakEnergy := energy, peakIndex := gateIndex } else scan

/-- The second loop: active gates, and runs of them. -/
structure ClusterScan where
  activeGateCount : ℕ := 0
  clusterCount : ℕ := 0
  clusterOpen : Bool := false

def ClusterScan.step (gates : List UInt16) (activeThreshold : ℕ) (scan : ClusterScan)
    (gateIndex : ℕ) : ClusterScan :=
  let gateActive : Bool := gateEnergy gates gateIndex ≥ activeThreshold
  let scan := if gateActive then { scan with activeGateCount := scan.activeGateCount + 1 } else scan
  if gateActive && !scan.clusterOpen then
    { scan with clusterCount := scan.clusterCount + 1, clusterOpen := true }
  else if !gateActive then { scan with clusterOpen := false }
  else scan

def PeakScan.activeThreshold (peak : PeakScan) : ℕ :=
  if peak.peakEnergy > 0 then max ld2420ActiveGateFloor (peak.peakEnergy / 5)
  else ld2420ActiveGateFloor

/-- The metrics that the two loops amount to. -/
def scannedMetrics (presence : Bool) (peak : PeakScan) (clusters : ClusterScan) :
    RadarDerivedMetrics where
  valid := true
  energyBased := true
  activeGateCount := clusters.activeGateCount
  totalGateEnergy := peak.totalGateEnergy
  dominantGateIndex := peak.peakIndex
  dominantGateEnergy := peak.peakEnergy
  dominantGateDistanceCm :=
    if peak.peakIndex ≥ 0 then peak.peakIndex * ld2420GateSizeCm + ld2420GateSizeCm / 2 else -1
  estimatedPeople :=
    if presence ∧ peak.peakEnergy > 0 then
      let estimatedPeople := max 1 clusters.clusterCount
      let estimatedPeople :=
        if clusters.activeGateCount ≥ 8 ∧ peak.totalGateEnergy ≥ peak.peakEnergy * 3 then
          estimatedPeople + 1
        else estimatedPeople
      min ld2420MaxEstimatedPeople estimatedPeople
    else 0
  activityScore :=
    min 100 (peak.totalGateEnergy / 300 + clusters.activeGateCount * 6 + peak.peakEnergy / 120)

/-- The metrics of an energy frame before the rule for clutter. -/
def energyMetrics (energyFrame : LatestEnergyFrameSnapshot) : RadarDerivedMetrics :=
  let gates := energyFrame.gates
  let peak := (List.range ld2420GateCount).foldl (PeakScan.step gates) {}
  let clusters := (List.range ld2420GateCount).foldl (ClusterScan.step gates peak.activeThreshold) {}
  scannedMetrics energyFrame.presence peak clusters

/-- Energy around the gate of the reported distance. -/
def reportedNeighborhoodEnergy (gates : List UInt16) (reportedDistanceCm : ℤ) : ℕ :=
  let reportedGateIndex := (reportedDistanceCm + ld2420GateSizeCm / 2) / ld2420GateSizeCm
  let reportedGateIndex := (max 0 (min reportedGateIndex (ld2420GateCount - 1))).toNat
  gateEnergy gates reportedGateIndex
    + (if reportedGateIndex > 0 then gateEnergy gates (reportedGateIndex - 1) else 0)
    + (if reportedGateIndex < ld2420GateCount - 1 then gateEnergy gates (reportedGateIndex + 1) else 0)

def energyFrameLooksLikeNearFieldClutter (runtimeConfig : RuntimeTuning)
    (metrics : RadarDerivedMetrics) (energyFrame : LatestEnergyFrameSnapshot) : Bool :=
  if !metrics.energyBased ∨ metrics.dominantGateIndex < 0 then false
  else if metrics.dominantGateIndex > ld2420NearFieldClutterMaxGateIndex ∨
      metrics.totalGateEnergy = 0 then false
  else
    let reportedDistanceCm : ℤ := energyFrame.distanceCm.toNat
    if reportedDistanceCm ≤ 0 ∨ metrics.dominantGateDistanceCm < 0 then false
    else
      let nearFieldBandEnergy :=
        ((List.range (min ld2420GateCount ld2420NearFieldClutterBandGates)).map
          (gateEnergy energyFrame.gates)).sum
      let neighborhoodEnergy := reportedNeighborhoodEnergy energyFrame.gates reportedDistanceCm
      let reportedTargetHasEvidence : Bool :=
        reportedDistanceCm > ld2420NearFieldClutterMaxReportedDistanceCm ∧
          neighborhoodEnergy ≥
            runtimeConfig.effectiveMinGateEnergy * ld2420ReportedTargetNeighborMinMultiplier
      if nearFieldBandEnergy * 100 / metrics.totalGateEnergy ≥ ld2420NearFieldClutterBandSharePercent
      then !reportedTargetHasEvidence
      else if reportedDistanceCm - metrics.dominantGateDistanceCm <
          ld2420NearFieldClutterDistanceDeltaCm ∧
          reportedDistanceCm > ld2420NearFieldClutterMaxReportedDistanceCm then false
      else if metrics.dominantGateEnergy * 100 / metrics.totalGateEnergy <
          ld2420NearFieldClutterPeakSharePercent then false
      else !reportedTargetHasEvidence && metrics.dominantGateEnergy > neighborhoodEnergy

/-- A null pointer is `none`. -/
def buildRadarDerivedMetrics (runtimeConfig : RuntimeTuning)
    (energyFrame : Option LatestEnergyFrameSnapshot) (textFrame : Option LatestTextFrameSnapshot)
    (gpioPresence : Bool) : RadarDerivedMetrics :=
  match energyFrame, textFrame with
  | some energyFrame, _ =>
    let metrics := energyMetrics energyFrame
    if energyFrameLooksLikeNearFieldClutter runtimeConfig metrics energyFrame then
      { metrics with estimatedPeople := 0 }
    else metrics
  | none, some textFrame =>
    let metrics : RadarDerivedMetrics := {
      valid := true
      estimatedPeople := if textFrame.presence then 1 else 0
      activeGateCount := if textFrame.presence then 1 else 0
      activityScore := if textFrame.presence then 15 else 0 }
    if textFrame.range ≥ 0 then
      { metrics with
        dominantGateDistanceCm := textFrame.range
        dominantGateIndex := min (ld2420GateCount - 1) (textFrame.range / ld2420GateSizeCm) }
    else metrics
  | none, none =>
    { valid := gpioPresence
      estimatedPeople := if gpioPresence then 1 else 0
      activeGateCount := if gpioPresence then 1 else 0
      activityScore := if gpioPresence then 5 else 0 }

/-! ## The decision -/

/-- `config` is the tuning in question; the rule for clutter looks at the one in use. -/
def radarDetectionDecision (runtimeConfig : RuntimeTuning) (metrics : RadarDerivedMetrics)
    (energyFrame : Option LatestEnergyFrameSnapshot) (config : RuntimeTuning) :
    RadarDetectionDecision :=
  let minActivity := config.effectiveMinActivityScore
  let last : RadarDetectionDecision :=
    if metrics.estimatedPeople > 0 ∨ metrics.activityScore ≥ minActivity then .candidate
    else .lowActivity
  if !metrics.valid then .invalidMetrics
  else if metrics.dominantGateDistanceCm ≥ 0 ∧
      metrics.dominantGateDistanceCm > config.maxDetectionRangeCm.toNat then .outOfRange
  else if metrics.activeGateCount < config.minActiveGates.toNat then .insufficientActiveGates
  else if metrics.activityScore < minActivity then .lowActivity
  else if metrics.energyBased then
    match energyFrame with
    | none => .missingEnergyFrame
    | some energyFrame =>
      let minEnergy := config.effectiveMinGateEnergy
      let minTotalEnergy := minEnergy * max config.minActiveGates.toNat 1
      if metrics.dominantGateEnergy < minEnergy ∧ metrics.totalGateEnergy < minTotalEnergy then
        .lowEnergy
      else if energyFrameLooksLikeNearFieldClutter runtimeConfig metrics energyFrame then
        .nearFieldClutter
      else last
  else last

def isRadarFrameFresh (updatedAtMs now : UInt32) : Bool :=
  updatedAtMs > 0 && now - updatedAtMs ≤ radarFrameFreshnessMs

/-! ## The Rust core derives the same metrics -/

/-- The frame as the C++ parser stores it. -/
def snapshotOf (now : UInt32) (frame : Radar.EnergyFrame) : LatestEnergyFrameSnapshot where
  updatedAtMs := now
  length := frame.length
  payloadLength := frame.payloadLength
  presence := frame.presence
  distanceCm := frame.distanceCm
  gates := frame.gates.toList
  bytesTotal := UInt32.ofNat frame.length
  framesTotal := 1
  energyFramesTotal := 1

theorem radar_readLe16_of_lt {data : List UInt8} {offset : ℕ} (h : offset + 1 < data.length) :
    Radar.readLe16 data offset = some (readLe16 data offset) := by
  rw [Radar.readLe16, List.getElem?_eq_getElem (by omega), List.getElem?_eq_getElem h, readLe16,
    List.getD_eq_getElem _ _ (by omega), List.getD_eq_getElem _ _ h]
  rfl

theorem readGates_of_le {data : List UInt8} (h : energyFrameLength ≤ data.length) :
    Radar.readGates data = some (Vector.ofFn fun i : Fin 16 => readLe16 data (9 + i * 2)) := by
  have hgate (i : Fin 16) : Radar.readLe16 data (9 + i * 2) = some (readLe16 data (9 + i * 2)) := by
    refine radar_readLe16_of_lt ?_
    rw [energyFrameLength] at h
    omega
  rw [Radar.readGates, dif_pos (fun i => by rw [hgate i]; rfl)]
  simp only [hgate, Option.get_some]

/-- The two parsers read the same frames. -/
theorem parseLd2420EnergyFrame_eq (data : List UInt8) (now : UInt32) :
    parseLd2420EnergyFrame data now = (Radar.tryParseEnergyFrame data).map (snapshotOf now) := by
  rw [parseLd2420EnergyFrame, Radar.tryParseEnergyFrame]
  have hminimum : Radar.energyFrameMinLength = energyFrameLength := rfl
  rw [hminimum]
  by_cases hlength : data.length < energyFrameLength
  · rw [if_pos hlength, if_pos hlength]
    rfl
  · rw [if_neg hlength, if_neg hlength]
    have hle : energyFrameLength ≤ data.length := Nat.le_of_not_lt hlength
    have hlt : 44 < data.length := hle
    have hframing : (!startsWithEnergyHeader data || !endsWithEnergyFooter data) =
        (!Radar.startsWithEnergyHeader data || !Radar.endsWithEnergyFooter data) := rfl
    rw [hframing]
    split
    · rfl
    · rw [radar_readLe16_of_lt (by omega), radar_readLe16_of_lt (by omega), readGates_of_le hle,
        List.getElem?_eq_getElem (by omega : 6 < data.length)]
      simp only [Option.bind_eq_bind, Option.bind_some, Option.map_some, snapshotOf,
        List.getD_eq_getElem _ _ (by omega : 6 < data.length), Vector.toList_ofFn]
      rfl

theorem gateEnergy_append (before gates : List UInt16) (gate : UInt16) :
    gateEnergy (before ++ gate :: gates) before.length = gate.toNat := by
  simp [gateEnergy]

def PeakScan.triple (scan : PeakScan) : ℕ × ℕ × ℤ :=
  (scan.totalGateEnergy, scan.peakEnergy, scan.peakIndex)

def ClusterScan.pair (scan : ClusterScan) : ℕ × ℕ := (scan.activeGateCount, scan.clusterCount)

theorem foldl_peakScan (before gates : List UInt16) (scan : PeakScan) :
    ((List.range' before.length gates.length).foldl (PeakScan.step (before ++ gates)) scan).triple =
      scanGates gates before.length scan.triple := by
  induction gates generalizing before scan with
  | nil => rfl
  | cons gate gates ih =>
    have hrest := ih (before ++ [gate]) (PeakScan.step (before ++ gate :: gates) scan before.length)
    simp only [List.append_assoc, List.singleton_append, List.length_append,
      List.length_singleton] at hrest
    rw [List.length_cons, List.range'_succ, List.foldl_cons, hrest, PeakScan.step,
      gateEnergy_append, PeakScan.triple, PeakScan.triple, scanGates]
    congr 1
    dsimp only
    split <;> rfl

theorem foldl_clusterScan (before gates : List UInt16) (activeThreshold : ℕ) (scan : ClusterScan) :
    ((List.range' before.length gates.length).foldl
        (ClusterScan.step (before ++ gates) activeThreshold) scan).pair =
      scanClusters activeThreshold gates scan.clusterOpen scan.pair := by
  induction gates generalizing before scan with
  | nil => rfl
  | cons gate gates ih =>
    have hrest := ih (before ++ [gate])
      (ClusterScan.step (before ++ gate :: gates) activeThreshold scan before.length)
    simp only [List.append_assoc, List.singleton_append, List.length_append,
      List.length_singleton] at hrest
    rw [List.length_cons, List.range'_succ, List.foldl_cons, hrest, ClusterScan.step,
      gateEnergy_append, ClusterScan.pair, ClusterScan.pair, scanClusters]
    by_cases hactive : activeThreshold ≤ gate.toNat
    · cases hopen : scan.clusterOpen <;> simp [hactive, hopen]
    · simp [hactive]

/-- Before the rule for clutter the metrics are the same. -/
theorem energyMetrics_eq (now : UInt32) (frame : Radar.EnergyFrame) :
    energyMetrics (snapshotOf now frame) =
      applyEnergyMetrics { valid := true, energyBased := true } frame := by
  have hlength : frame.gates.toList.length = ld2420GateCount := by simp [ld2420GateCount]
  have hpeak := foldl_peakScan [] frame.gates.toList {}
  have hclusters := fun threshold => foldl_clusterScan [] frame.gates.toList threshold {}
  simp only [List.length_nil, List.nil_append, hlength, ← List.range_eq_range'] at hpeak hclusters
  have hgates : (snapshotOf now frame).gates = frame.gates.toList := rfl
  rw [energyMetrics, hgates]
  generalize (List.range ld2420GateCount).foldl (PeakScan.step frame.gates.toList) {} = peak at hpeak ⊢
  have hscan : scanGates frame.gates.toList 0 (0, 0, -1) = peak.triple := hpeak.symm
  have hrun : scanClusters peak.activeThreshold frame.gates.toList false (0, 0) = _ :=
    (hclusters peak.activeThreshold).symm
  generalize (List.range ld2420GateCount).foldl
    (ClusterScan.step frame.gates.toList peak.activeThreshold) {} = clusters at hrun ⊢
  rw [applyEnergyMetrics, hscan]
  dsimp only [PeakScan.triple]
  rw [PeakScan.activeThreshold, ld2420ActiveGateFloor] at hrun
  rw [hrun, scannedMetrics]
  congr 1
  · refine if_congr Iff.rfl ?_ rfl
    rw [min_comm]
    refine congrArg (min · 4) ?_
    by_cases hmany : clusters.activeGateCount ≥ 8 ∧ peak.totalGateEnergy ≥ peak.peakEnergy * 3
    · exact (if_pos hmany).trans (congrArg (max 1 clusters.clusterCount + ·) (if_pos hmany).symm)
    · have hnone := congrArg (max 1 clusters.clusterCount + ·) (if_neg hmany : (if _ then 1 else 0) = 0)
      exact (if_neg hmany).trans hnone.symm
  · exact Nat.min_comm ..

end EspWaveRider.Cpp
