import EspWaveRider.Core.Metrics
import EspWaveRider.Lib.Checked

/-!
# What the metrics of an energy frame are

`build_radar_derived_metrics` and `apply_energy_metrics` of
`rust/crates/espwaverider-core/src/metrics.rs` in terms of the sixteen gates, and
the same functions with every operation checked that could overflow, divide by
zero or index past the gates.

* `Scanned.scanGates`, `scanClusters_active` — what the two passes find;
* `checkedClutter_eq` — the rule for clutter runs into none of this;
* `derivedMetrics_law` — the metrics of a frame, and that no step overflows.
-/

namespace EspWaveRider.Metrics

open Radar Checked

/-! ## The two passes -/

/-- The scan has seen `before`: sum, maximum and the first place of the maximum. -/
structure Scanned (before : List UInt16) (scan : ℕ × ℕ × ℤ) : Prop where
  total : scan.1 = (before.map UInt16.toNat).sum
  greatest : ∀ gate ∈ before, gate.toNat ≤ scan.2.1
  first : (scan.2.2 = -1 ∧ scan.2.1 = 0) ∨
    ∃ i : ℕ, scan.2.2 = i ∧ before[i]?.map UInt16.toNat = some scan.2.1 ∧ 0 < scan.2.1 ∧
      ∀ gate ∈ before.take i, gate.toNat < scan.2.1

theorem scanned_nil : Scanned [] (0, 0, -1) :=
  ⟨rfl, fun _ h => absurd h List.not_mem_nil, .inl ⟨rfl, rfl⟩⟩

/-- A gate above all before it is the first maximum. -/
theorem Scanned.snoc_greater {before : List UInt16} {total peak : ℕ} {peakIndex : ℤ}
    (h : Scanned before (total, peak, peakIndex)) {gate : UInt16} (hgate : gate.toNat > peak) :
    Scanned (before ++ [gate]) (total + gate.toNat, gate.toNat, before.length) := by
  have hbelow : ∀ g ∈ before, g.toNat < gate.toNat :=
    fun g hg => Nat.lt_of_le_of_lt (h.greatest g hg) hgate
  refine ⟨?_, ?_, .inr ⟨before.length, rfl, ?_, Nat.zero_lt_of_lt hgate, ?_⟩⟩
  · have htotal : total = (before.map UInt16.toNat).sum := h.total
    simp [htotal]
  · intro g hg
    rcases List.mem_append.1 hg with hg | hg
    · exact (hbelow g hg).le
    · rw [List.mem_singleton.1 hg]
  · simp
  · intro g hg
    rw [List.take_left] at hg
    exact hbelow g hg

/-- A gate that is not above the maximum leaves it where it is. -/
theorem Scanned.snoc_le {before : List UInt16} {total peak : ℕ} {peakIndex : ℤ}
    (h : Scanned before (total, peak, peakIndex)) {gate : UInt16} (hgate : ¬ gate.toNat > peak) :
    Scanned (before ++ [gate]) (total + gate.toNat, peak, peakIndex) := by
  refine ⟨?_, ?_, ?_⟩
  · have htotal : total = (before.map UInt16.toNat).sum := h.total
    simp [htotal]
  · intro g hg
    rcases List.mem_append.1 hg with hg | hg
    · exact h.greatest g hg
    · rw [List.mem_singleton.1 hg]
      exact Nat.le_of_not_lt hgate
  · refine h.first.imp_right ?_
    rintro ⟨i, hindex, hpeak, hpos, hbelow⟩
    have hi : i < before.length := by
      by_contra hge
      rw [List.getElem?_eq_none (by omega)] at hpeak
      cases hpeak
    refine ⟨i, hindex, ?_, hpos, ?_⟩
    · rwa [List.getElem?_append_left hi]
    · rwa [List.take_append_of_le_length hi.le]

theorem Scanned.scanGates {before : List UInt16} {scan : ℕ × ℕ × ℤ} (h : Scanned before scan)
    (gates : List UInt16) :
    Scanned (before ++ gates) (Metrics.scanGates gates before.length scan) := by
  induction gates generalizing before scan with
  | nil => rwa [List.append_nil]
  | cons gate gates ih =>
    obtain ⟨total, peak, peakIndex⟩ := scan
    have hlength : before.length + 1 = (before ++ [gate]).length := by simp
    have happend : before ++ gate :: gates = (before ++ [gate]) ++ gates := by simp
    rw [Metrics.scanGates, hlength, happend]
    split_ifs with hgate
    · exact ih (h.snoc_greater hgate)
    · exact ih (h.snoc_le hgate)

/-- The gates at the threshold are counted. -/
theorem scanClusters_active (threshold : ℕ) (gates : List UInt16) (clusterOpen : Bool)
    (active clusters : ℕ) :
    (scanClusters threshold gates clusterOpen (active, clusters)).1 =
      active + gates.countP fun gate => decide (threshold ≤ gate.toNat) := by
  induction gates generalizing clusterOpen active clusters with
  | nil => rfl
  | cons gate gates ih =>
    rw [scanClusters, List.countP_cons]
    by_cases hactive : threshold ≤ gate.toNat
    · rw [if_pos hactive, ih]
      simp only [hactive, decide_true, if_true]
      omega
    · rw [if_neg hactive, ih]
      simp [hactive]

/-- There are not more active gates and runs of them than gates. -/
theorem scanClusters_le (threshold : ℕ) (gates : List UInt16) (clusterOpen : Bool)
    (active clusters : ℕ) :
    (scanClusters threshold gates clusterOpen (active, clusters)).1 ≤ active + gates.length ∧
      (scanClusters threshold gates clusterOpen (active, clusters)).2 ≤ clusters + gates.length := by
  induction gates generalizing clusterOpen active clusters with
  | nil => exact ⟨le_rfl, le_rfl⟩
  | cons gate gates ih =>
    rw [scanClusters, List.length_cons]
    split_ifs with hactive hopen
    · have hrest := ih true (active + 1) clusters
      omega
    · have hrest := ih true (active + 1) (clusters + 1)
      omega
    · have hrest := ih false active clusters
      omega

theorem sum_toNat_le (gates : List UInt16) :
    (gates.map UInt16.toNat).sum ≤ gates.length * 65535 := by
  induction gates with
  | nil => exact le_rfl
  | cons gate gates ih =>
    have hgate := gate.toNat_lt
    rw [List.map_cons, List.sum_cons, List.length_cons]
    omega

/-! ## The passes with checked counters -/

def checkedScanGates : List UInt16 → ℕ → ℕ × ℕ × ℤ → Option (ℕ × ℕ × ℤ)
  | [], _, acc => some acc
  | gate :: gates, index, (total, peak, peakIndex) => do
    let total ← fits 32 (total + gate.toNat)
    checkedScanGates gates (index + 1)
      (if gate.toNat > peak then (total, gate.toNat, (index : ℤ)) else (total, peak, peakIndex))

theorem checkedScanGates_eq (gates : List UInt16) (index total peak : ℕ) (peakIndex : ℤ)
    (h : total + (gates.map UInt16.toNat).sum < 2 ^ 32) :
    checkedScanGates gates index (total, peak, peakIndex) =
      some (scanGates gates index (total, peak, peakIndex)) := by
  induction gates generalizing index total peak peakIndex with
  | nil => rfl
  | cons gate gates ih =>
    rw [List.map_cons, List.sum_cons] at h
    rw [checkedScanGates, scanGates, fits_of_lt (by omega), Option.bind_eq_bind, Option.bind_some]
    split_ifs with hgate
    · exact ih _ _ _ _ (by omega)
    · exact ih _ _ _ _ (by omega)

def checkedScanClusters (threshold : ℕ) : List UInt16 → Bool → ℕ × ℕ → Option (ℕ × ℕ)
  | [], _, acc => some acc
  | gate :: gates, clusterOpen, (active, clusters) =>
    if threshold ≤ gate.toNat then do
      let active ← fits 8 (active + 1)
      let clusters ← if clusterOpen then some clusters else fits 8 (clusters + 1)
      checkedScanClusters threshold gates true (active, clusters)
    else checkedScanClusters threshold gates false (active, clusters)

theorem checkedScanClusters_eq (threshold : ℕ) (gates : List UInt16) (clusterOpen : Bool)
    (active clusters : ℕ) (hactive : active + gates.length < 2 ^ 8)
    (hclusters : clusters + gates.length < 2 ^ 8) :
    checkedScanClusters threshold gates clusterOpen (active, clusters) =
      some (scanClusters threshold gates clusterOpen (active, clusters)) := by
  induction gates generalizing clusterOpen active clusters with
  | nil => rfl
  | cons gate gates ih =>
    rw [List.length_cons] at hactive hclusters
    rw [checkedScanClusters, scanClusters]
    split_ifs with hgate hopen
    · rw [fits_of_lt (by omega), Option.bind_eq_bind, Option.bind_some, Option.bind_some]
      exact ih _ _ _ (by omega) (by omega)
    · rw [fits_of_lt (by omega), fits_of_lt (by omega), Option.bind_eq_bind, Option.bind_some,
        Option.bind_some]
      exact ih _ _ _ (by omega) (by omega)
    · exact ih _ _ _ (by omega) (by omega)

/-- The people of a frame, `many` active gates with much energy counting as one more. -/
def checkedPeople (clusterCount active total peakEnergy : ℕ) : Option ℕ := do
  let many ← if active ≥ 8 then do
      let threePeaks ← fits 32 (peakEnergy * 3)
      some (decide (total ≥ threePeaks))
    else some false
  let estimatedPeople ← if many then fits 8 (max 1 clusterCount + 1) else some (max 1 clusterCount)
  some (min estimatedPeople 4)

def checkedActivityScore (total active peakEnergy : ℕ) : Option ℕ := do
  let gates ← fits 32 (active * 6)
  let energy ← fits 32 (total / 300 + gates)
  let activityScore ← fits 32 (energy + peakEnergy / 120)
  some (min activityScore 100)

theorem checkedPeople_eq {clusterCount active total peakEnergy : ℕ} (hclusters : clusterCount ≤ 16)
    (hpeak : peakEnergy ≤ 65535) : checkedPeople clusterCount active total peakEnergy =
      some (min (max 1 clusterCount + if active ≥ 8 ∧ total ≥ peakEnergy * 3 then 1 else 0) 4) := by
  have hthree : fits 32 (peakEnergy * 3) = some (peakEnergy * 3) := fits_of_lt (by omega)
  have hmore : fits 8 (max 1 clusterCount + 1) = some (max 1 clusterCount + 1) :=
    fits_of_lt (by omega)
  rw [checkedPeople]
  by_cases hactive : active ≥ 8
  · by_cases htotal : total ≥ peakEnergy * 3
    · simp [hactive, htotal, hthree, hmore]
    · simp [hactive, htotal, hthree]
  · simp [hactive]

theorem checkedActivityScore_eq {total active peakEnergy : ℕ} (htotal : total ≤ 16 * 65535)
    (hactive : active ≤ 16) (hpeak : peakEnergy ≤ 65535) :
    checkedActivityScore total active peakEnergy =
      some (min (total / 300 + active * 6 + peakEnergy / 120) 100) := by
  rw [checkedActivityScore, fits_of_lt (by omega), Option.bind_eq_bind, Option.bind_some,
    fits_of_lt (by omega), Option.bind_some, fits_of_lt (by omega), Option.bind_some]

def checkedApplyEnergyMetrics (metrics : RadarDerivedMetrics) (energy : EnergyFrame) :
    Option RadarDerivedMetrics := do
  let gates := energy.gates.toList
  let (total, peakEnergy, peakIndex) ← checkedScanGates gates 0 (metrics.totalGateEnergy, 0, -1)
  let activeThreshold := if peakEnergy > 0 then max 25 (peakEnergy / 5) else 25
  let (active, clusterCount) ←
    checkedScanClusters activeThreshold gates false (metrics.activeGateCount, 0)
  let estimatedPeople ← if energy.presence ∧ peakEnergy > 0 then
      checkedPeople clusterCount active total peakEnergy
    else some metrics.estimatedPeople
  let activityScore ← checkedActivityScore total active peakEnergy
  some { metrics with
    totalGateEnergy := total
    activeGateCount := active
    dominantGateIndex := peakIndex
    dominantGateEnergy := peakEnergy
    dominantGateDistanceCm :=
      if peakIndex ≥ 0 then peakIndex * 70 + 35 else metrics.dominantGateDistanceCm
    estimatedPeople
    activityScore }

/-! ## The metrics of a frame -/

/-- The metrics before the rule for clutter. -/
def energyMetrics (energy : EnergyFrame) : RadarDerivedMetrics :=
  applyEnergyMetrics { valid := true, energyBased := true } energy

theorem scanned_energyMetrics (energy : EnergyFrame) :
    Scanned energy.gates.toList ((energyMetrics energy).totalGateEnergy,
      (energyMetrics energy).dominantGateEnergy, (energyMetrics energy).dominantGateIndex) :=
  scanned_nil.scanGates energy.gates.toList

theorem length_gates (energy : EnergyFrame) : energy.gates.toList.length = 16 :=
  Vector.length_toList

theorem energyMetrics_total_le (energy : EnergyFrame) :
    (energyMetrics energy).totalGateEnergy ≤ 16 * 65535 := by
  have hsum := sum_toNat_le energy.gates.toList
  rw [length_gates] at hsum
  have htotal := (scanned_energyMetrics energy).total
  dsimp only at htotal
  omega

theorem energyMetrics_peak_le (energy : EnergyFrame) :
    (energyMetrics energy).dominantGateEnergy ≤ 65535 := by
  obtain ⟨-, hzero⟩ | ⟨i, -, hpeak, -⟩ := (scanned_energyMetrics energy).first
  · exact hzero.le.trans (Nat.zero_le _)
  · obtain ⟨gate, -, hgate⟩ := Option.map_eq_some_iff.1 hpeak
    have hlt := gate.toNat_lt
    dsimp only at hgate
    omega

/-- The threshold of an active gate. -/
def activeThreshold (peakEnergy : ℕ) : ℕ := max 25 (peakEnergy / 5)

theorem ite_activeThreshold (peakEnergy : ℕ) :
    (if peakEnergy > 0 then max 25 (peakEnergy / 5) else 25) = activeThreshold peakEnergy := by
  unfold activeThreshold
  split_ifs <;> omega

theorem energyMetrics_active (energy : EnergyFrame) : (energyMetrics energy).activeGateCount =
    energy.gates.toList.countP fun gate =>
      decide (activeThreshold (energyMetrics energy).dominantGateEnergy ≤ gate.toNat) := by
  rw [← ite_activeThreshold]
  have hcount := scanClusters_active (if (energyMetrics energy).dominantGateEnergy > 0 then
    max 25 ((energyMetrics energy).dominantGateEnergy / 5) else 25) energy.gates.toList false 0 0
  rw [Nat.zero_add] at hcount
  exact hcount

theorem energyMetrics_active_le (energy : EnergyFrame) :
    (energyMetrics energy).activeGateCount ≤ 16 := by
  rw [energyMetrics_active]
  exact List.countP_le_length.trans (length_gates energy).le

/-- No counter of the passes overflows. -/
theorem checkedApplyEnergyMetrics_eq (energy : EnergyFrame) :
    checkedApplyEnergyMetrics { valid := true, energyBased := true } energy =
      some (energyMetrics energy) := by
  have htotal := energyMetrics_total_le energy
  have hpeak := energyMetrics_peak_le energy
  have hsum := sum_toNat_le energy.gates.toList
  have hlength := length_gates energy
  have hscan := checkedScanGates_eq energy.gates.toList 0 0 0 (-1) (by omega)
  rcases hpeaks : scanGates energy.gates.toList 0 (0, 0, -1) with ⟨total, peakEnergy, peakIndex⟩
  have htotalEq : (energyMetrics energy).totalGateEnergy = total := congrArg (·.1) hpeaks
  have hpeakEq : (energyMetrics energy).dominantGateEnergy = peakEnergy := congrArg (·.2.1) hpeaks
  have hruns := checkedScanClusters_eq (if peakEnergy > 0 then max 25 (peakEnergy / 5) else 25)
    energy.gates.toList false 0 0 (by omega) (by omega)
  have hle := scanClusters_le (if peakEnergy > 0 then max 25 (peakEnergy / 5) else 25)
    energy.gates.toList false 0 0
  unfold checkedApplyEnergyMetrics energyMetrics applyEnergyMetrics
  dsimp only
  rw [hscan, hpeaks, Option.bind_eq_bind, Option.bind_some]
  dsimp only
  rw [hruns, Option.bind_eq_bind, Option.bind_some]
  generalize scanClusters (if peakEnergy > 0 then max 25 (peakEnergy / 5) else 25)
    energy.gates.toList false (0, 0) = counts at hle ⊢
  obtain ⟨active, clusterCount⟩ := counts
  dsimp only at hle ⊢
  have hpeople : checkedPeople clusterCount active total peakEnergy = some
      (min (max 1 clusterCount + if active ≥ 8 ∧ total ≥ peakEnergy * 3 then 1 else 0) 4) :=
    checkedPeople_eq (by omega) (by omega)
  have hscore : checkedActivityScore total active peakEnergy =
      some (min (total / 300 + active * 6 + peakEnergy / 120) 100) :=
    checkedActivityScore_eq (by omega) (by omega) (by omega)
  rw [hpeople, hscore]
  split_ifs <;> rfl

/-! ## The rule for clutter -/

def checkedSum : List UInt16 → ℕ → Option ℕ
  | [], sum => some sum
  | gate :: gates, sum => do
    let sum ← fits 32 (sum + gate.toNat)
    checkedSum gates sum

/-- The energy of a gate; `none` past the last one. -/
def checkedGate (energy : EnergyFrame) (i : ℕ) : Option ℕ := energy.gates.toList[i]?.map UInt16.toNat

/-- The gate of the reported distance and those beside it. -/
def checkedNeighborhood (energy : EnergyFrame) (reportedGateIndex : ℕ) : Option ℕ := do
  let own ← checkedGate energy reportedGateIndex
  let withNearer ← if reportedGateIndex > 0 then do
      let nearer ← checkedGate energy (reportedGateIndex - 1)
      fits 32 (own + nearer)
    else some own
  if reportedGateIndex < 15 then do
    let farther ← checkedGate energy (reportedGateIndex + 1)
    fits 32 (withNearer + farther)
  else some withNearer

def checkedShare (part total : ℕ) : Option ℕ := do
  let scaled ← fits 32 (part * 100)
  divide scaled total

def checkedEnergyFrameLooksLikeNearFieldClutter (metrics : RadarDerivedMetrics)
    (energy : EnergyFrame) : Option Bool :=
  let reportedDistanceCm := energy.distanceCm.toNat
  if !metrics.energyBased ∨ metrics.dominantGateIndex < 0 then some false
  else if metrics.dominantGateIndex > 1 ∨ metrics.totalGateEnergy = 0 then some false
  else if reportedDistanceCm = 0 ∨ metrics.dominantGateDistanceCm < 0 then some false
  else if (reportedDistanceCm : ℤ) - metrics.dominantGateDistanceCm < 105 then some false
  else do
    let nearFieldBandEnergy ← checkedSum (energy.gates.toList.take 3) 0
    let nearFieldBandSharePercent ← checkedShare nearFieldBandEnergy metrics.totalGateEnergy
    if nearFieldBandSharePercent ≥ 55 then some true
    else do
      let peakSharePercent ← checkedShare metrics.dominantGateEnergy metrics.totalGateEnergy
      if peakSharePercent < 45 then some false
      else do
        let reportedNeighborhoodEnergy ←
          checkedNeighborhood energy (min ((reportedDistanceCm + 35) / 70) 15)
        some (decide (metrics.dominantGateEnergy > reportedNeighborhoodEnergy))

theorem checkedGate_eq (energy : EnergyFrame) {i : ℕ} (h : i < 16) :
    checkedGate energy i = some (energy.gates.toList.getD i 0).toNat := by
  have hlt : i < energy.gates.toList.length := by
    rw [length_gates]
    exact h
  rw [checkedGate, List.getElem?_eq_getElem hlt, List.getD_eq_getElem _ _ hlt]
  rfl

theorem checkedNeighborhood_eq (energy : EnergyFrame) {i : ℕ} (h : i ≤ 15) :
    checkedNeighborhood energy i = some ((energy.gates.toList.getD i 0).toNat
      + (if i > 0 then (energy.gates.toList.getD (i - 1) 0).toNat else 0)
      + (if i < 15 then (energy.gates.toList.getD (i + 1) 0).toNat else 0)) := by
  have hown := (energy.gates.toList.getD i 0).toNat_lt
  have hnearer := (energy.gates.toList.getD (i - 1) 0).toNat_lt
  have hfarther := (energy.gates.toList.getD (i + 1) 0).toNat_lt
  have hownEq : checkedGate energy i = _ := checkedGate_eq energy (by omega)
  have hnearerEq : checkedGate energy (i - 1) = _ := checkedGate_eq energy (by omega)
  generalize (energy.gates.toList.getD i 0).toNat = own at hown hownEq ⊢
  generalize (energy.gates.toList.getD (i - 1) 0).toNat = nearer at hnearer hnearerEq ⊢
  have hnearerFits : fits 32 (own + nearer) = some (own + nearer) := fits_of_lt (by omega)
  rw [checkedNeighborhood, hownEq, hnearerEq]
  by_cases hlast : i < 15
  · have hfartherEq : checkedGate energy (i + 1) = _ := checkedGate_eq energy (by omega)
    generalize (energy.gates.toList.getD (i + 1) 0).toNat = farther at hfarther hfartherEq ⊢
    have hfartherFits : fits 32 (own + nearer + farther) = some (own + nearer + farther) :=
      fits_of_lt (by omega)
    have hownFits : fits 32 (own + farther) = some (own + farther) := fits_of_lt (by omega)
    rw [hfartherEq]
    by_cases hfirst : i > 0
    · simp [hfirst, hlast, hnearerFits, hfartherFits]
    · simp [hfirst, hlast, hownFits]
  · by_cases hfirst : i > 0
    · simp [hfirst, hlast, hnearerFits]
    · simp [hfirst, hlast]

theorem checkedSum_take (energy : EnergyFrame) : checkedSum (energy.gates.toList.take 3) 0 =
    some ((energy.gates.toList.getD 0 0).toNat + (energy.gates.toList.getD 1 0).toNat +
      (energy.gates.toList.getD 2 0).toNat) := by
  have hlength := length_gates energy
  obtain ⟨a, b, c, rest, hgates⟩ : ∃ a b c rest, energy.gates.toList = a :: b :: c :: rest := by
    match energy.gates.toList, hlength with
    | a :: b :: c :: rest, _ => exact ⟨a, b, c, rest, rfl⟩
  have ha := a.toNat_lt
  have hb := b.toNat_lt
  have hc := c.toNat_lt
  rw [hgates]
  simp only [List.take_succ_cons, List.take_zero, checkedSum, List.getD_cons_zero,
    List.getD_cons_succ, Nat.zero_add]
  rw [fits_of_lt (by omega), Option.bind_eq_bind, Option.bind_some, fits_of_lt (by omega),
    Option.bind_some, fits_of_lt (by omega), Option.bind_some]

theorem checkedShare_eq {part total : ℕ} (hpart : part ≤ 16 * 65535) (htotal : total ≠ 0) :
    checkedShare part total = some (part * 100 / total) := by
  rw [checkedShare, fits_of_lt (by omega), Option.bind_eq_bind, Option.bind_some]
  exact divide_of_ne htotal

/-- Nothing overflows, no divisor is zero and no index is past the gates. -/
theorem checkedClutter_eq {metrics : RadarDerivedMetrics} {energy : EnergyFrame}
    (hpeak : metrics.dominantGateEnergy ≤ 65535) :
    checkedEnergyFrameLooksLikeNearFieldClutter metrics energy =
      some (energyFrameLooksLikeNearFieldClutter metrics energy) := by
  have h0 := (energy.gates.toList.getD 0 0).toNat_lt
  have h1 := (energy.gates.toList.getD 1 0).toNat_lt
  have h2 := (energy.gates.toList.getD 2 0).toNat_lt
  unfold checkedEnergyFrameLooksLikeNearFieldClutter energyFrameLooksLikeNearFieldClutter
  dsimp only
  by_cases hbased : !metrics.energyBased ∨ metrics.dominantGateIndex < 0
  · rw [if_pos hbased, if_pos hbased]
  rw [if_neg hbased, if_neg hbased]
  by_cases hnear : metrics.dominantGateIndex > 1 ∨ metrics.totalGateEnergy = 0
  · rw [if_pos hnear, if_pos hnear]
  rw [if_neg hnear, if_neg hnear]
  by_cases hreported : energy.distanceCm.toNat = 0 ∨ metrics.dominantGateDistanceCm < 0
  · rw [if_pos hreported, if_pos hreported]
  rw [if_neg hreported, if_neg hreported]
  by_cases hbehind : (energy.distanceCm.toNat : ℤ) - metrics.dominantGateDistanceCm < 105
  · rw [if_pos hbehind, if_pos hbehind]
  -- the divisor is not zero
  have htotal : metrics.totalGateEnergy ≠ 0 := fun hzero => hnear (.inr hzero)
  have hneighborhood := checkedNeighborhood_eq energy
    (Nat.min_le_right ((energy.distanceCm.toNat + 35) / 70) 15)
  rw [if_neg hbehind, if_neg hbehind, checkedSum_take, hneighborhood, Option.bind_eq_bind,
    Option.bind_some, checkedShare_eq (by omega) htotal, Option.bind_some,
    checkedShare_eq (by omega) htotal]
  split
  · rfl
  · rw [Option.bind_some]
    split
    · rfl
    · rfl

/-- `buildRadarDerivedMetrics` on an energy frame. -/
def checkedBuildEnergyMetrics (energy : EnergyFrame) : Option RadarDerivedMetrics := do
  let metrics ← checkedApplyEnergyMetrics { valid := true, energyBased := true } energy
  let clutter ← checkedEnergyFrameLooksLikeNearFieldClutter metrics energy
  if clutter then some { metrics with estimatedPeople := 0 } else some metrics

/-! ## The law of the metrics -/

theorem buildRadarDerivedMetrics_energy (energy : EnergyFrame) (gpioPresence : Bool) :
    buildRadarDerivedMetrics (some (.energy energy)) gpioPresence =
      { energyMetrics energy with
        estimatedPeople := if energyFrameLooksLikeNearFieldClutter (energyMetrics energy) energy
          then 0 else (energyMetrics energy).estimatedPeople } := by
  have hbuild : buildRadarDerivedMetrics (some (.energy energy)) gpioPresence =
      if energyFrameLooksLikeNearFieldClutter (energyMetrics energy) energy
      then { energyMetrics energy with estimatedPeople := 0 } else energyMetrics energy := rfl
  rw [hbuild]
  split_ifs <;> rfl

/-- The rule does not look at the number of people. -/
theorem clutter_withPeople (metrics : RadarDerivedMetrics) (energy : EnergyFrame) (people : ℕ) :
    energyFrameLooksLikeNearFieldClutter { metrics with estimatedPeople := people } energy =
      energyFrameLooksLikeNearFieldClutter metrics energy := rfl

theorem checkedBuildEnergyMetrics_eq (energy : EnergyFrame) (gpioPresence : Bool) :
    checkedBuildEnergyMetrics energy =
      some (buildRadarDerivedMetrics (some (.energy energy)) gpioPresence) := by
  rw [checkedBuildEnergyMetrics, checkedApplyEnergyMetrics_eq, Option.bind_eq_bind,
    Option.bind_some, checkedClutter_eq (energyMetrics_peak_le energy), Option.bind_eq_bind,
    Option.bind_some]
  exact (apply_ite some _ _ _).symm

theorem energyMetrics_people (energy : EnergyFrame) : ∃ clusters more,
    (energyMetrics energy).estimatedPeople =
      if energy.presence = true ∧ (energyMetrics energy).dominantGateEnergy > 0 then
        min (max 1 clusters + more) 4
      else 0 := ⟨_, _, rfl⟩

theorem energyMetrics_people_le (energy : EnergyFrame) :
    (energyMetrics energy).estimatedPeople ≤ 4 := by
  obtain ⟨clusters, more, hpeople⟩ := energyMetrics_people energy
  rw [hpeople]
  split_ifs
  · exact min_le_right _ _
  · exact Nat.zero_le 4

theorem energyMetrics_people_pos_iff (energy : EnergyFrame) :
    0 < (energyMetrics energy).estimatedPeople ↔
      energy.presence = true ∧ (energyMetrics energy).dominantGateEnergy > 0 := by
  obtain ⟨clusters, more, hpeople⟩ := energyMetrics_people energy
  rw [hpeople]
  split_ifs with hpresent
  · exact iff_of_true (by omega) hpresent
  · exact iff_of_false (by omega) hpresent

/-- The dominant gate: none, or the first one with the greatest energy. -/
theorem energyMetrics_dominant (energy : EnergyFrame) :
    let m := energyMetrics energy
    (m.dominantGateIndex = -1 ∧ m.dominantGateEnergy = 0 ∧ m.dominantGateDistanceCm = -1) ∨
      ∃ i < 16, m.dominantGateIndex = (i : ℕ) ∧ 0 < m.dominantGateEnergy ∧
        (energy.gates.toList.getD i 0).toNat = m.dominantGateEnergy ∧
        (∀ gate ∈ energy.gates.toList.take i, gate.toNat < m.dominantGateEnergy) ∧
        m.dominantGateDistanceCm = 70 * i + 35 := by
  intro m
  have hdistance : m.dominantGateDistanceCm =
      if m.dominantGateIndex ≥ 0 then m.dominantGateIndex * 70 + 35 else -1 := rfl
  obtain ⟨hnone, hzero⟩ | ⟨i, hindex, hpeak, hpos, hbefore⟩ := (scanned_energyMetrics energy).first
  · have hnone' : m.dominantGateIndex = -1 := hnone
    refine .inl ⟨hnone', hzero, ?_⟩
    rw [hdistance, hnone', if_neg (by decide)]
  · have hindex' : m.dominantGateIndex = (i : ℕ) := hindex
    obtain ⟨gate, hgate, henergy⟩ := Option.map_eq_some_iff.1 hpeak
    obtain ⟨hlt, -⟩ := List.getElem?_eq_some_iff.1 hgate
    rw [length_gates] at hlt
    refine .inr ⟨i, hlt, hindex', hpos, ?_, hbefore, ?_⟩
    · rw [List.getD_eq_getElem?_getD, hgate]
      exact henergy
    · rw [hdistance, hindex', if_pos (Int.natCast_nonneg i)]
      ring

/-- What is derived from an energy frame. -/
structure DerivedMetricsLaw (energy : EnergyFrame) (m : RadarDerivedMetrics) : Prop where
  total : m.totalGateEnergy = (energy.gates.toList.map UInt16.toNat).sum
  greatest : ∀ gate ∈ energy.gates.toList, gate.toNat ≤ m.dominantGateEnergy
  noDominant : m.dominantGateIndex = -1 ↔ ∀ gate ∈ energy.gates.toList, gate = 0
  dominant : (m.dominantGateIndex = -1 ∧ m.dominantGateEnergy = 0 ∧ m.dominantGateDistanceCm = -1) ∨
    ∃ i < 16, m.dominantGateIndex = (i : ℕ) ∧ 0 < m.dominantGateEnergy ∧
      (energy.gates.toList.getD i 0).toNat = m.dominantGateEnergy ∧
      (∀ gate ∈ energy.gates.toList.take i, gate.toNat < m.dominantGateEnergy) ∧
      m.dominantGateDistanceCm = 70 * i + 35
  active : m.activeGateCount = energy.gates.toList.countP fun gate =>
    decide (max 25 (m.dominantGateEnergy / 5) ≤ gate.toNat)
  active_le : m.activeGateCount ≤ 16
  dominant_active : 25 ≤ m.dominantGateEnergy → max 25 (m.dominantGateEnergy / 5) ≤
    (energy.gates.toList.getD m.dominantGateIndex.toNat 0).toNat
  people_le : m.estimatedPeople ≤ 4
  people_absent : ¬ (energy.presence = true ∧ m.dominantGateEnergy ≠ 0) → m.estimatedPeople = 0
  people_present : energy.presence = true → m.dominantGateEnergy ≠ 0 →
    energyFrameLooksLikeNearFieldClutter m energy = false → 1 ≤ m.estimatedPeople
  activity : m.activityScore =
    min (m.totalGateEnergy / 300 + m.activeGateCount * 6 + m.dominantGateEnergy / 120) 100

/-- Without energy there is no activity. -/
theorem DerivedMetricsLaw.activity_of_noDominant {energy : EnergyFrame} {m : RadarDerivedMetrics}
    (h : DerivedMetricsLaw energy m) (hnone : m.dominantGateEnergy = 0) : m.activityScore = 0 := by
  have hgates : ∀ gate ∈ energy.gates.toList, gate.toNat = 0 := by
    intro gate hgate
    have hle := h.greatest gate hgate
    omega
  have htotal : m.totalGateEnergy = 0 := by
    rw [h.total, List.sum_eq_zero_iff]
    simpa using hgates
  have hactive : m.activeGateCount = 0 := by
    rw [h.active, hnone, List.countP_eq_zero]
    intro gate hgate
    simp [hgates gate hgate]
  rw [h.activity, htotal, hactive, hnone]
  rfl

theorem DerivedMetricsLaw.energyMetrics (energy : EnergyFrame) :
    DerivedMetricsLaw energy (Metrics.energyMetrics energy) := by
  have hscanned := scanned_energyMetrics energy
  have hdominant := energyMetrics_dominant energy
  refine ⟨hscanned.total, hscanned.greatest, ?_, hdominant, energyMetrics_active energy,
    energyMetrics_active_le energy, ?_, energyMetrics_people_le energy, ?_, ?_, rfl⟩
  · obtain ⟨hnone, hzero, -⟩ | ⟨i, hi, hindex, hpos, hpeak, -, -⟩ := hdominant
    · refine iff_of_true hnone fun gate hgate => ?_
      have hle := hscanned.greatest gate hgate
      dsimp only at hle
      rw [hzero] at hle
      exact UInt16.toNat_inj.1 (Nat.le_zero.1 hle)
    · refine iff_of_false (by omega) fun hall => ?_
      have hlt : i < energy.gates.toList.length := by
        rw [length_gates]
        exact hi
      rw [List.getD_eq_getElem _ _ hlt, hall _ (List.getElem_mem hlt)] at hpeak
      have hzero : (0 : UInt16).toNat = 0 := rfl
      omega
  · intro hfloor
    obtain ⟨-, hzero, -⟩ | ⟨i, hi, hindex, hpos, hpeak, -, -⟩ := hdominant
    · omega
    · rw [hindex, Int.toNat_natCast, hpeak]
      omega
  · intro habsent
    have hiff := energyMetrics_people_pos_iff energy
    have hnone : ¬ (energy.presence = true ∧ (Metrics.energyMetrics energy).dominantGateEnergy > 0) :=
      fun hboth => habsent ⟨hboth.1, Nat.pos_iff_ne_zero.1 hboth.2⟩
    rw [← hiff] at hnone
    omega
  · intro hpresence hpeak _
    exact (energyMetrics_people_pos_iff energy).2 ⟨hpresence, Nat.pos_of_ne_zero hpeak⟩

/-- The metrics of every energy frame, and that no counter on the way to them overflows. -/
theorem derivedMetrics_law (energy : EnergyFrame) (gpioPresence : Bool) :
    DerivedMetricsLaw energy (buildRadarDerivedMetrics (some (.energy energy)) gpioPresence) ∧
      checkedBuildEnergyMetrics energy =
        some (buildRadarDerivedMetrics (some (.energy energy)) gpioPresence) := by
  refine ⟨?_, checkedBuildEnergyMetrics_eq energy gpioPresence⟩
  have hlaw := DerivedMetricsLaw.energyMetrics energy
  rw [buildRadarDerivedMetrics_energy]
  refine ⟨hlaw.total, hlaw.greatest, hlaw.noDominant, hlaw.dominant, hlaw.active, hlaw.active_le,
    hlaw.dominant_active, ?_, ?_, ?_, hlaw.activity⟩
  · dsimp only
    split_ifs
    · exact Nat.zero_le 4
    · exact hlaw.people_le
  · intro habsent
    dsimp only at habsent ⊢
    split_ifs
    · rfl
    · exact hlaw.people_absent habsent
  · intro hpresence hpeak hclutter
    rw [clutter_withPeople] at hclutter
    dsimp only
    rw [hclutter]
    exact hlaw.people_present hpresence hpeak hclutter

end EspWaveRider.Metrics
