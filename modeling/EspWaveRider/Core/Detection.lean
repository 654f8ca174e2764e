import EspWaveRider.Core.DerivedMetrics

/-!
# The detection decision

`radar_detection_decision` of `rust/crates/espwaverider-core/src/metrics.rs` as a
cascade of tests: some look at the metrics and the tuning, one at the energy, and
the last one is the rule for near-field clutter.

* `clutterVerdict_agrees` — the metrics builder and the decision reject the same
  frames as clutter;
* `monotone_iff` — for which tunings a looser one detects everything they detect.
-/

namespace EspWaveRider.Metrics

open Radar

/-! ## The cascade -/

/-- The tests before those of the energy. -/
structure Passes (metrics : RadarDerivedMetrics) (tuning : RadarTuning) : Prop where
  valid : metrics.valid = true
  inRange : metrics.dominantGateDistanceCm ≤ tuning.maxDetectionRangeCm.toNat
  gates : tuning.minActiveGates.toNat ≤ metrics.activeGateCount
  activity : effectiveMinActivityScore tuning ≤ metrics.activityScore

/-- The test of the energy. -/
def LowEnergy (metrics : RadarDerivedMetrics) (tuning : RadarTuning) : Prop :=
  metrics.dominantGateEnergy < effectiveMinGateEnergy tuning ∧
    metrics.totalGateEnergy < effectiveMinGateEnergy tuning * max tuning.minActiveGates.toNat 1

instance decidableLowEnergy (metrics : RadarDerivedMetrics) (tuning : RadarTuning) :
    Decidable (LowEnergy metrics tuning) := inferInstanceAs (Decidable (_ ∧ _))

/-- What follows them. -/
def lastTests (metrics : RadarDerivedMetrics) (frame : Option RadarFrame) (tuning : RadarTuning) :
    RadarDetectionDecision :=
  if metrics.energyBased then
    match frame with
    | some (.energy energyFrame) =>
      if LowEnergy metrics tuning then .lowEnergy
      else if energyFrameLooksLikeNearFieldClutter metrics energyFrame then .nearFieldClutter
      else .candidate
    | _ => .missingEnergyFrame
  else .candidate

theorem outOfRange_iff (distance : ℤ) (range : ℕ) :
    (distance ≥ 0 ∧ distance > range) ↔ ¬ distance ≤ range := by
  omega

theorem radarDetectionDecision_of_passes {metrics : RadarDerivedMetrics} {tuning : RadarTuning}
    (h : Passes metrics tuning) (frame : Option RadarFrame) :
    radarDetectionDecision metrics frame tuning = lastTests metrics frame tuning := by
  have hrange := mt (outOfRange_iff _ _).1 (not_not.2 h.inRange)
  have hfinal : (if metrics.estimatedPeople > 0 ∨
      metrics.activityScore ≥ effectiveMinActivityScore tuning then .candidate
    else .lowActivity : RadarDetectionDecision) = .candidate := if_pos (.inr h.activity)
  unfold radarDetectionDecision lastTests
  dsimp only
  rw [if_neg (by simp [h.valid]), if_neg hrange, if_neg (not_lt.2 h.gates),
    if_neg (not_lt.2 h.activity), hfinal]
  rfl

/-- The earlier tests neither accept a frame nor call it clutter. -/
theorem radarDetectionDecision_of_not_passes {metrics : RadarDerivedMetrics} {tuning : RadarTuning}
    (h : ¬ Passes metrics tuning) (frame : Option RadarFrame) :
    radarDetectionDecision metrics frame tuning ≠ .candidate ∧
      radarDetectionDecision metrics frame tuning ≠ .nearFieldClutter := by
  unfold radarDetectionDecision
  dsimp only
  split_ifs with hvalid hrange hgates hactivity
  · simp
  · simp
  · simp
  · simp
  all_goals
    refine absurd ⟨by simpa using hvalid, ?_, not_lt.1 hgates, not_lt.1 hactivity⟩ h
    rwa [outOfRange_iff, not_not] at hrange

/-- What a candidate comes to. -/
theorem candidate_iff (metrics : RadarDerivedMetrics) (frame : Option RadarFrame)
    (tuning : RadarTuning) : radarDetectionDecision metrics frame tuning = .candidate ↔
      Passes metrics tuning ∧ lastTests metrics frame tuning = .candidate := by
  by_cases hpasses : Passes metrics tuning
  · rw [radarDetectionDecision_of_passes hpasses]
    exact (and_iff_right hpasses).symm
  · exact iff_of_false (radarDetectionDecision_of_not_passes hpasses frame).1 fun h => hpasses h.1

/-! ## The verdict on clutter -/

/-- The decision comes to the rule for clutter. -/
def ReachesClutterTest (metrics : RadarDerivedMetrics) (tuning : RadarTuning) : Prop :=
  Passes metrics tuning ∧ ¬ LowEnergy metrics tuning

section EnergyFrame

variable {metrics : RadarDerivedMetrics} (henergy : metrics.energyBased = true)
  (energy : EnergyFrame) (tuning : RadarTuning)
include henergy

theorem lastTests_energy : lastTests metrics (some (.energy energy)) tuning =
    if LowEnergy metrics tuning then .lowEnergy
    else if energyFrameLooksLikeNearFieldClutter metrics energy then .nearFieldClutter
    else .candidate := if_pos henergy

theorem nearFieldClutter_iff :
    radarDetectionDecision metrics (some (.energy energy)) tuning = .nearFieldClutter ↔
      ReachesClutterTest metrics tuning ∧
        energyFrameLooksLikeNearFieldClutter metrics energy = true := by
  unfold ReachesClutterTest
  by_cases hpasses : Passes metrics tuning
  · rw [radarDetectionDecision_of_passes hpasses, lastTests_energy henergy]
    split_ifs with hlow hclutter
    · simp [hlow]
    · simp [hpasses, hlow, hclutter]
    · simp [hclutter]
  · refine iff_of_false (radarDetectionDecision_of_not_passes hpasses _).2 fun h => hpasses h.1.1

theorem candidate_energy_iff :
    radarDetectionDecision metrics (some (.energy energy)) tuning = .candidate ↔
      ReachesClutterTest metrics tuning ∧
        energyFrameLooksLikeNearFieldClutter metrics energy = false := by
  rw [candidate_iff, lastTests_energy henergy, ReachesClutterTest, and_assoc]
  refine and_congr_right fun _ => ?_
  split_ifs with hlow hclutter
  · simp [hlow]
  · simp [hclutter]
  · simp [hlow, hclutter]

end EnergyFrame

/-- Builder and decision agree on an energy frame: no people are left of a frame with presence
exactly if it is clutter, which is what the decision finds wherever it looks, and no frame is
both clutter and a detection. -/
structure ClutterAgrees (energy : EnergyFrame) (m : RadarDerivedMetrics) : Prop where
  suppressed_iff : energy.presence = true → m.dominantGateEnergy ≠ 0 →
    (m.estimatedPeople = 0 ↔ energyFrameLooksLikeNearFieldClutter m energy = true)
  decision_iff : ∀ tuning, radarDetectionDecision m (some (.energy energy)) tuning =
    .nearFieldClutter ↔
      ReachesClutterTest m tuning ∧ energyFrameLooksLikeNearFieldClutter m energy = true
  not_candidate : energyFrameLooksLikeNearFieldClutter m energy = true → ∀ tuning,
    radarDetectionDecision m (some (.energy energy)) tuning ≠ .candidate
  not_clutter : 0 < m.estimatedPeople → ∀ tuning,
    radarDetectionDecision m (some (.energy energy)) tuning ≠ .nearFieldClutter
  checked : checkedEnergyFrameLooksLikeNearFieldClutter m energy =
    some (energyFrameLooksLikeNearFieldClutter m energy)

theorem clutterVerdict_agrees (energy : EnergyFrame) (gpioPresence : Bool) :
    ClutterAgrees energy (buildRadarDerivedMetrics (some (.energy energy)) gpioPresence) := by
  have hbuild := buildRadarDerivedMetrics_energy energy gpioPresence
  have hcounted := energyMetrics_people_pos_iff energy
  have hbounded := energyMetrics_peak_le energy
  generalize buildRadarDerivedMetrics (some (.energy energy)) gpioPresence = m at hbuild ⊢
  have hbased : m.energyBased = true := by
    rw [hbuild]
    rfl
  have hpeak : m.dominantGateEnergy = (energyMetrics energy).dominantGateEnergy := by
    rw [hbuild]
  have hpeople : m.estimatedPeople = if energyFrameLooksLikeNearFieldClutter m energy
      then 0 else (energyMetrics energy).estimatedPeople := by
    rw [hbuild]
    rfl
  refine ⟨?_, nearFieldClutter_iff hbased energy, ?_, ?_, checkedClutter_eq (by omega)⟩
  · intro hpresence hnonzero
    have hpos := hcounted.2 ⟨hpresence, by omega⟩
    rw [hpeople]
    split_ifs with hclutter
    · exact iff_of_true rfl hclutter
    · exact iff_of_false hpos.ne' hclutter
  · intro hclutter tuning hcandidate
    have hnone := ((candidate_energy_iff hbased energy tuning).1 hcandidate).2
    rw [hclutter] at hnone
    cases hnone
  · intro hpos tuning hdecision
    have hclutter := ((nearFieldClutter_iff hbased energy tuning).1 hdecision).2
    rw [hpeople, if_pos hclutter] at hpos
    exact absurd hpos (Nat.lt_irrefl 0)

/-! ## Looser tunings -/

/-- No setting of the second tuning is stricter. -/
structure Looser (t₁ t₂ : RadarTuning) : Prop where
  range : t₁.maxDetectionRangeCm ≤ t₂.maxDetectionRangeCm
  energy : t₂.minGateEnergy ≤ t₁.minGateEnergy
  sensitivity : t₁.sensitivityPercent ≤ t₂.sensitivityPercent
  gates : t₂.minActiveGates ≤ t₁.minActiveGates
  activity : t₂.minActivityScore ≤ t₁.minActivityScore

/-- What the first tuning detects the second one detects. -/
def Detects (t₁ t₂ : RadarTuning) (frame : Option RadarFrame) (gpioPresence : Bool) : Prop :=
  radarDetectionDecision (buildRadarDerivedMetrics frame gpioPresence) frame t₁ = .candidate →
    radarDetectionDecision (buildRadarDerivedMetrics frame gpioPresence) frame t₂ = .candidate

theorem scaledThreshold_mono {threshold₁ threshold₂ : ℕ} {sensitivity₁ sensitivity₂ : UInt8}
    (hthreshold : threshold₂ ≤ threshold₁) (hsensitivity : sensitivity₁ ≤ sensitivity₂) :
    scaledThreshold threshold₂ sensitivity₂ ≤ scaledThreshold threshold₁ sensitivity₁ := by
  have hle : sensitivity₁.toNat ≤ sensitivity₂.toNat := hsensitivity
  exact Nat.div_le_div_right (Nat.mul_le_mul hthreshold (by omega))

theorem scaledThreshold_le (threshold : UInt16) (sensitivity : UInt8) :
    scaledThreshold threshold.toNat sensitivity ≤ 91749 := by
  have hlt := threshold.toNat_lt
  have hmul : threshold.toNat * (150 - max 10 (min sensitivity.toNat 100)) ≤ 65535 * 140 :=
    Nat.mul_le_mul (by omega) (by omega)
  exact (Nat.div_le_div_right hmul).trans (by decide)

section

variable {t₁ t₂ : RadarTuning} (hlooser : Looser t₁ t₂)
include hlooser

theorem Looser.activityScore : effectiveMinActivityScore t₂ ≤ effectiveMinActivityScore t₁ := by
  have hscaled := scaledThreshold_mono (UInt8.le_iff_toNat_le.1 hlooser.activity) hlooser.sensitivity
  unfold effectiveMinActivityScore
  omega

theorem Looser.passes {metrics : RadarDerivedMetrics} (h : Passes metrics t₁) :
    Passes metrics t₂ := by
  have hrange := UInt16.le_iff_toNat_le.1 hlooser.range
  have hgates := UInt8.le_iff_toNat_le.1 hlooser.gates
  have hactivity := hlooser.activityScore
  exact ⟨h.valid, h.inRange.trans (by exact_mod_cast hrange), hgates.trans h.gates,
    hactivity.trans h.activity⟩

/-- The energy threshold falls with its setting as long as it fits in 16 bits. -/
theorem Looser.minGateEnergy
    (hfits : scaledThreshold t₁.minGateEnergy.toNat t₁.sensitivityPercent < 65536) :
    effectiveMinGateEnergy t₂ ≤ effectiveMinGateEnergy t₁ := by
  have hscaled := scaledThreshold_mono (UInt16.le_iff_toNat_le.1 hlooser.energy) hlooser.sensitivity
  unfold effectiveMinGateEnergy
  omega

theorem Looser.lowEnergy {metrics : RadarDerivedMetrics}
    (henergy : effectiveMinGateEnergy t₂ ≤ effectiveMinGateEnergy t₁)
    (h : LowEnergy metrics t₂) : LowEnergy metrics t₁ := by
  have hgates := UInt8.le_iff_toNat_le.1 hlooser.gates
  have htotal : effectiveMinGateEnergy t₂ * max t₂.minActiveGates.toNat 1 ≤
      effectiveMinGateEnergy t₁ * max t₁.minActiveGates.toNat 1 :=
    Nat.mul_le_mul henergy (by omega)
  exact ⟨h.1.trans_le henergy, h.2.trans_le htotal⟩

/-- Only the energy test of the looser tuning can reject a frame that the stricter one detects. -/
theorem Looser.detects_iff (frame : Option RadarFrame) (gpioPresence : Bool) :
    Detects t₁ t₂ frame gpioPresence ↔
      (radarDetectionDecision (buildRadarDerivedMetrics frame gpioPresence) frame t₁ = .candidate →
        (buildRadarDerivedMetrics frame gpioPresence).energyBased = true →
          ¬ LowEnergy (buildRadarDerivedMetrics frame gpioPresence) t₂) := by
  unfold Detects
  generalize buildRadarDerivedMetrics frame gpioPresence = m
  refine imp_congr_right fun hcandidate => ?_
  obtain ⟨hpasses, hlast⟩ := (candidate_iff m frame t₁).1 hcandidate
  rw [candidate_iff, and_iff_right (hlooser.passes hpasses)]
  unfold lastTests at hlast ⊢
  cases hbased : m.energyBased with
  | false => simp
  | true =>
    rw [hbased, if_pos rfl] at hlast
    rw [if_pos rfl]
    split
    · dsimp only at hlast
      split_ifs at hlast with hlow₁ hclutter
      rw [if_neg hclutter]
      by_cases hlow₂ : LowEnergy m t₂
      · simp [hlow₂]
      · simp [hlow₂]
    · rename_i hother
      split at hlast
      · rename_i energy
        exact absurd rfl (hother energy)
      · cases hlast

theorem Looser.detects (henergy : effectiveMinGateEnergy t₂ ≤ effectiveMinGateEnergy t₁)
    (frame : Option RadarFrame) (gpioPresence : Bool) : Detects t₁ t₂ frame gpioPresence := by
  rw [hlooser.detects_iff]
  intro hcandidate hbased hlow₂
  obtain ⟨-, hlast⟩ := (candidate_iff _ frame t₁).1 hcandidate
  have hlow₁ := hlooser.lowEnergy henergy hlow₂
  unfold lastTests at hlast
  rw [if_pos hbased] at hlast
  split at hlast
  · rw [if_pos hlow₁] at hlast
    cases hlast
  · cases hlast

end

/-- A detected energy frame has a dominant gate within range, and no more active gates than gates. -/
theorem bounds_of_passes {energy : EnergyFrame} {gpioPresence : Bool} {tuning : RadarTuning}
    (h : Passes (buildRadarDerivedMetrics (some (.energy energy)) gpioPresence) tuning) :
    35 ≤ tuning.maxDetectionRangeCm.toNat ∧ tuning.minActiveGates.toNat ≤ 16 := by
  obtain ⟨hlaw, -⟩ := derivedMetrics_law energy gpioPresence
  refine ⟨?_, h.gates.trans hlaw.active_le⟩
  obtain ⟨-, hnone, -⟩ | ⟨i, -, -, -, -, -, hdistance⟩ := hlaw.dominant
  · have hactivity := hlaw.activity_of_noDominant hnone
    have hscore := h.activity
    have hmin := (effectiveMinActivityScore_mem tuning).1
    omega
  · have hrange := h.inRange
    rw [hdistance] at hrange
    omega

theorem energyBased_iff (frame : Option RadarFrame) (gpioPresence : Bool) :
    (buildRadarDerivedMetrics frame gpioPresence).energyBased = true ↔
      ∃ energy, frame = some (.energy energy) := by
  cases frame with
  | none => simp [buildRadarDerivedMetrics, applyGpioMetrics]
  | some frame =>
    cases frame with
    | energy energy => simp [buildRadarDerivedMetrics_energy, energyMetrics, applyEnergyMetrics]
    | text text =>
      cases hrange : text.rangeCm <;> simp [buildRadarDerivedMetrics, applyTextMetrics, hrange]
    | generic generic => simp [buildRadarDerivedMetrics, applyGpioMetrics]

/-- A frame whose first gates, one more than `n`, have the same energy. -/
def levelFrame (n : Fin 16) : EnergyFrame where
  length := 45
  payloadLength := 35
  presence := false
  distanceCm := 0
  gates := Vector.ofFn fun i => if i ≤ n then 50000 else 0

theorem levelFrame_metrics : ∀ n : Fin 16,
    buildRadarDerivedMetrics (some (.energy (levelFrame n))) false =
      { valid := true, energyBased := true, estimatedPeople := 0, activeGateCount := n + 1,
        dominantGateIndex := 0, dominantGateDistanceCm := 35, dominantGateEnergy := 50000,
        totalGateEnergy := 50000 * (n + 1), activityScore := 100 } := by
  decide +kernel

/-- Below a threshold that does not fit in 16 bits there is one that nearly fills them. -/
theorem exists_below {threshold : UInt16} {sensitivity : UInt8}
    (h : 65536 ≤ scaledThreshold threshold.toNat sensitivity) :
    ∃ lower : UInt16, lower ≤ threshold ∧ 65000 ≤ scaledThreshold lower.toNat sensitivity ∧
      scaledThreshold lower.toNat sensitivity < 65536 := by
  unfold scaledThreshold at *
  set k := 150 - max 10 (min sensitivity.toNat 100) with hk
  have hkpos : 0 < k := by omega
  have hkle : k ≤ 140 := by omega
  have hlt := threshold.toNat_lt
  have hproduct : 6553600 ≤ threshold.toNat * k := by omega
  have hfloor : 6553500 / k * k ≤ 6553500 := Nat.div_mul_le_self ..
  have hceil : 6553500 < 6553500 / k * k + k := Nat.lt_div_mul_add hkpos
  have hbelow : 6553500 / k < threshold.toNat :=
    Nat.lt_of_mul_lt_mul_right (show 6553500 / k * k < threshold.toNat * k by omega)
  have hsize : 6553500 / k < UInt16.size := by
    show 6553500 / k < 65536
    omega
  have hvalue : (UInt16.ofNat (6553500 / k)).toNat = 6553500 / k := UInt16.toNat_ofNat_of_lt' hsize
  refine ⟨UInt16.ofNat (6553500 / k), ?_, ?_⟩
  · rw [UInt16.le_iff_toNat_le, hvalue]
    exact hbelow.le
  · rw [hvalue]
    omega

/-- A frame that reports no distance is no clutter. -/
theorem clutter_of_unreported (metrics : RadarDerivedMetrics) {energy : EnergyFrame}
    (h : energy.distanceCm = 0) : energyFrameLooksLikeNearFieldClutter metrics energy = false := by
  unfold energyFrameLooksLikeNearFieldClutter
  dsimp only
  split_ifs with hbased hnear hreported
  · rfl
  · rfl
  · rfl
  all_goals exact absurd (Or.inl (congrArg UInt16.toNat h)) hreported

/-- A tuning whose energy threshold does not fit in 16 bits, with room for an energy frame that it
detects: a looser one rejects this frame. -/
theorem exists_rejected {t : RadarTuning}
    (hwraps : 65536 ≤ scaledThreshold t.minGateEnergy.toNat t.sensitivityPercent)
    (hrange : 35 ≤ t.maxDetectionRangeCm.toNat) (hgates : t.minActiveGates.toNat ≤ 16) :
    ∃ t₂ energy, Looser t t₂ ∧ ¬ Detects t t₂ (some (.energy energy)) false := by
  obtain ⟨lower, hlower, hnearly, hfits⟩ := exists_below hwraps
  have hmost := scaledThreshold_le t.minGateEnergy t.sensitivityPercent
  have hactivity := (effectiveMinActivityScore_mem t).2
  obtain ⟨n, hn⟩ : ∃ n : Fin 16, (n : ℕ) + 1 = max t.minActiveGates.toNat 1 :=
    ⟨⟨max t.minActiveGates.toNat 1 - 1, by omega⟩, by dsimp only; omega⟩
  have hlooser : Looser t { t with minGateEnergy := lower } :=
    ⟨UInt16.le_refl _, hlower, UInt8.le_refl _, UInt8.le_refl _, UInt8.le_refl _⟩
  refine ⟨{ t with minGateEnergy := lower }, levelFrame n, hlooser, ?_⟩
  rw [hlooser.detects_iff, levelFrame_metrics n]
  intro hall
  refine hall ?_ rfl ?_
  · -- the wrapped threshold of the first tuning is low
    have hwrapped : effectiveMinGateEnergy t ≤ 50000 := by
      unfold effectiveMinGateEnergy
      omega
    rw [candidate_energy_iff rfl]
    refine ⟨⟨⟨rfl, ?_, ?_, hactivity⟩, fun hlow => ?_⟩, clutter_of_unreported _ rfl⟩
    · show (35 : ℤ) ≤ t.maxDetectionRangeCm.toNat
      exact_mod_cast hrange
    · show t.minActiveGates.toNat ≤ (n : ℕ) + 1
      omega
    · exact absurd hlow.1 (not_lt.2 hwrapped)
  · -- that of the second one is above every gate
    have hthreshold : effectiveMinGateEnergy { t with minGateEnergy := lower } =
        scaledThreshold lower.toNat t.sensitivityPercent := by
      unfold effectiveMinGateEnergy
      dsimp only
      omega
    unfold LowEnergy
    rw [hthreshold]
    refine ⟨?_, ?_⟩
    · show 50000 < scaledThreshold lower.toNat t.sensitivityPercent
      omega
    · show 50000 * ((n : ℕ) + 1) < _ * max t.minActiveGates.toNat 1
      rw [hn]
      exact Nat.mul_lt_mul_of_pos_right (by omega) (by omega)

/-- For every tuning: whatever it detects every looser one detects, exactly if its scaled energy
threshold fits in 16 bits or it detects no energy frame at all.  Under any two tunings it is the
energy test alone that can break this, and only where the looser one has the higher threshold. -/
theorem monotone_iff (t : RadarTuning) :
    ((∀ t₂, Looser t t₂ → ∀ frame gpioPresence, Detects t t₂ frame gpioPresence) ↔
      scaledThreshold t.minGateEnergy.toNat t.sensitivityPercent < 65536 ∨
        t.maxDetectionRangeCm.toNat < 35 ∨ 16 < t.minActiveGates.toNat) ∧
    ∀ t₂, Looser t t₂ → ∀ frame gpioPresence,
      (effectiveMinGateEnergy t₂ ≤ effectiveMinGateEnergy t → Detects t t₂ frame gpioPresence) ∧
      (Detects t t₂ frame gpioPresence ↔
        (radarDetectionDecision (buildRadarDerivedMetrics frame gpioPresence) frame t = .candidate →
          (buildRadarDerivedMetrics frame gpioPresence).energyBased = true →
            ¬ LowEnergy (buildRadarDerivedMetrics frame gpioPresence) t₂)) := by
  refine ⟨⟨fun hall => ?_, fun h t₂ hlooser frame gpioPresence => ?_⟩,
    fun t₂ hlooser frame gpioPresence =>
      ⟨fun henergy => hlooser.detects henergy frame gpioPresence,
        hlooser.detects_iff frame gpioPresence⟩⟩
  · by_contra hnone
    simp only [not_or, not_lt] at hnone
    obtain ⟨hwraps, hrange, hgates⟩ := hnone
    obtain ⟨t₂, energy, hlooser, hfails⟩ := exists_rejected hwraps hrange hgates
    exact hfails (hall t₂ hlooser _ false)
  · rcases h with hfits | hblind
    · exact hlooser.detects (hlooser.minGateEnergy hfits) frame gpioPresence
    · rw [hlooser.detects_iff]
      intro hcandidate hbased
      obtain ⟨energy, rfl⟩ := (energyBased_iff frame gpioPresence).1 hbased
      have hbounds := bounds_of_passes ((candidate_iff _ _ t).1 hcandidate).1
      omega

/-- Lowering `minGateEnergy` makes a detection disappear. -/
theorem lowered_threshold_rejects : ¬ ∀ t₁ t₂, Looser t₁ t₂ → ∀ frame gpioPresence,
    Detects t₁ t₂ frame gpioPresence := by
  intro hall
  have hlooser : Looser { minGateEnergy := 65535, sensitivityPercent := 10 }
      { minGateEnergy := 46810, sensitivityPercent := 10 } :=
    ⟨by decide, by decide, by decide, by decide, by decide⟩
  have hdetects := hall _ _ hlooser (some (.energy (levelFrame 0))) false
  have hfirst : radarDetectionDecision
      (buildRadarDerivedMetrics (some (.energy (levelFrame 0))) false)
      (some (.energy (levelFrame 0))) { minGateEnergy := 65535, sensitivityPercent := 10 } =
        .candidate := by decide +kernel
  exact absurd (hdetects hfirst) (by decide +kernel)

end EspWaveRider.Metrics
