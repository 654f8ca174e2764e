import EspWaveRider.Core.DerivedMetrics
import EspWaveRider.Firmware.Snapshot
import EspWaveRider.Firmware.WifiScan

/-!
# The debug status

`debug_status_json` of `rust/firmware/esp32s3/src/main.rs`: what the LED shows and why something
is or is not detected.

* `detectionDebug` — the phase of the LED and the reason of the decision;
* `debugStatusJson_eq` — the text, as a JSON object;
* `statusLedRgb_eq_ledOfPhase`, `reasonTells_detectionDebug` — what a phase and a reason mean;
* `debugStatus_faithful` — in every state, the text is JSON and tells them.
-/

namespace EspWaveRider.Firmware

open Text Radar Metrics JsonGrammar

inductive LedPhase where
  | disabled
  | activeDetection
  | presenceDecay
  | idle
  deriving DecidableEq

def LedPhase.asStr : LedPhase → Str
  | .disabled => "disabled"
  | .activeDetection => "active_detection"
  | .presenceDecay => "presence_decay"
  | .idle => "idle"

def detectionDecisionReason : RadarDetectionDecision → Str
  | .candidate => "radar_candidate"
  | .invalidMetrics => "invalid_metrics"
  | .outOfRange => "out_of_range"
  | .insufficientActiveGates => "insufficient_active_gates"
  | .lowActivity => "low_activity"
  | .missingEnergyFrame => "missing_energy_frame"
  | .lowEnergy => "low_energy"
  | .nearFieldClutter => "near_field_clutter"

structure DetectionDebug where
  ledPhase : LedPhase
  detectionReason : Str
  radarCandidate : Bool
  gpioFallback : Bool
  clutterSuppressed : Bool
  effectiveMinGateEnergy : ℕ
  effectiveMinActivityScore : ℕ

namespace FirmwareState

/-- The decision on the frame that is kept. -/
def detectionDecision (s : FirmwareState) : RadarDetectionDecision :=
  (s.activeRadarMetrics.map fun metrics =>
    radarDetectionDecision metrics s.latestRadarFrame s.radarTuning).getD .invalidMetrics

def detectionDebug (s : FirmwareState) (uptimeMs : ℕ) : DetectionDebug :=
  let gpioFallback := s.gpioFallbackActive
  let decision := s.detectionDecision
  let radarCandidate := decision == .candidate
  { ledPhase :=
      if !s.ledEnabled then .disabled
      else if s.detectionCandidate then .activeDetection
      else if s.presenceDecayRemainingMs uptimeMs > 0 then .presenceDecay
      else .idle
    detectionReason := if gpioFallback && !radarCandidate then "gpio_fallback"
      else detectionDecisionReason decision
    radarCandidate
    gpioFallback
    clutterSuppressed := decision == .nearFieldClutter
    effectiveMinGateEnergy := effectiveMinGateEnergy s.radarTuning
    effectiveMinActivityScore := effectiveMinActivityScore s.radarTuning }

def boolText (b : Bool) : Str := if b then "true" else "false"

/-- `none` where the colour of the LED overflows. -/
def debugStatusJson (s : FirmwareState) (uptimeMs : ℕ) : Option Str := do
  let debug := s.detectionDebug uptimeMs
  let liveMetrics := s.activeRadarMetrics
  let statusLedHex ← s.statusLedHex uptimeMs
  let json : Str := "\x7b"
  let json := json ++ "\"status_led_hex\":\""
  let json := json ++ statusLedHex
  let json := json ++ "\","
  let json := json ++ "\"led_phase\":\""
  let json := json ++ debug.ledPhase.asStr
  let json := json ++ "\","
  let json := json ++ "\"detection_reason\":\""
  let json := json ++ debug.detectionReason
  let json := json ++ "\","
  let json := json ++ "\"detection_candidate\":"
  let json := json ++ boolText s.detectionCandidate
  let json := json ++ ",\"presence\":"
  let json := json ++ boolText s.presence
  let json := json ++ ",\"gpio_presence\":"
  let json := json ++ boolText s.gpioPresence
  let json := json ++ ",\"radar_candidate\":"
  let json := json ++ boolText debug.radarCandidate
  let json := json ++ ",\"gpio_fallback\":"
  let json := json ++ boolText debug.gpioFallback
  let json := json ++ ",\"clutter_suppressed\":"
  let json := json ++ boolText debug.clutterSuppressed
  let json := json ++ ",\"presence_decay_remaining_ms\":"
  let json := appendU32 json (s.presenceDecayRemainingMs uptimeMs)
  let json := json ++ ",\"effective_min_gate_energy\":"
  let json := appendU32 json debug.effectiveMinGateEnergy
  let json := json ++ ",\"effective_min_activity_score\":"
  let json := appendU32 json debug.effectiveMinActivityScore
  let json := json ++ ",\"active_gate_count\":"
  let json := appendU32 json ((liveMetrics.map (·.activeGateCount)).getD 0)
  let json := json ++ ",\"activity_score\":"
  let json := appendU32 json ((liveMetrics.map (·.activityScore)).getD 0)
  let json := json ++ ",\"dominant_gate_distance_cm\":"
  let json := appendI32 json ((liveMetrics.map (·.dominantGateDistanceCm)).getD (-1))
  let json := json ++ ",\"dominant_gate_energy\":"
  let json := appendU32 json ((liveMetrics.map (·.dominantGateEnergy)).getD 0)
  some (json ++ ['}'])

/-! ## What phases and reasons mean -/

/-- The colour of the LED, by its phase. -/
def ledOfPhase (s : FirmwareState) (uptimeMs : ℕ) : LedPhase → StatusLedColor
  | .disabled => {}
  | .activeDetection => { r := 0, g := s.ledBrightness, b := 0 }
  | .presenceDecay =>
    { r := UInt8.ofNat (s.ledBrightness.toNat - s.greenLevel uptimeMs)
      g := UInt8.ofNat (s.greenLevel uptimeMs), b := 0 }
  | .idle => { r := s.ledBrightness, g := 0, b := 0 }

/-- The phase is the one the LED shows. -/
theorem statusLedRgb_eq_ledOfPhase (s : FirmwareState) (uptimeMs : ℕ) :
    s.statusLedRgb uptimeMs = some (s.ledOfPhase uptimeMs (s.detectionDebug uptimeMs).ledPhase) := by
  unfold detectionDebug
  dsimp only
  by_cases hled : s.ledEnabled
  · simp only [hled, Bool.not_true, Bool.false_eq_true, if_false]
    by_cases hcandidate : s.detectionCandidate
    · simp [statusLedRgb, hled, hcandidate, ledOfPhase]
    · simp only [hcandidate, Bool.false_eq_true, if_false]
      by_cases hdecay : s.presenceDecayRemainingMs uptimeMs > 0
      · rw [if_pos hdecay]
        exact statusLedRgb_eq hled uptimeMs
      · rw [if_neg hdecay]
        simp [statusLedRgb, hled, hcandidate, Nat.eq_zero_of_not_pos hdecay, ledOfPhase]
  · simp [statusLedRgb, hled, ledOfPhase]

/-- The reason, from the decision and the fallback. -/
def reasonText (gpioFallback : Bool) (decision : RadarDetectionDecision) : Str :=
  if gpioFallback && !(decision == .candidate) then "gpio_fallback"
  else detectionDecisionReason decision

/-- What the reason says about the decision. -/
structure ReasonTells (debug : DetectionDebug) : Prop where
  radarCandidate : debug.detectionReason = ("radar_candidate" : Str) ↔ debug.radarCandidate
  gpioFallback : debug.detectionReason = ("gpio_fallback" : Str) ↔
    debug.gpioFallback ∧ ¬debug.radarCandidate
  clutter : debug.detectionReason = ("near_field_clutter" : Str) ↔
    debug.clutterSuppressed ∧ ¬debug.gpioFallback
  notBoth : ¬(debug.radarCandidate ∧ debug.clutterSuppressed)

theorem reasonText_iff (gpioFallback : Bool) (decision : RadarDetectionDecision) :
    (reasonText gpioFallback decision = ("radar_candidate" : Str) ↔ decision == .candidate) ∧
      (reasonText gpioFallback decision = ("gpio_fallback" : Str) ↔
        gpioFallback ∧ ¬(decision == .candidate)) ∧
      (reasonText gpioFallback decision = ("near_field_clutter" : Str) ↔
        decision == .nearFieldClutter ∧ ¬gpioFallback) ∧
      ¬(decision == .candidate ∧ decision == .nearFieldClutter) := by
  cases gpioFallback with
  | false => cases decision <;> decide
  | true => cases decision <;> decide

theorem reasonTells_detectionDebug (s : FirmwareState) (uptimeMs : ℕ) :
    ReasonTells (s.detectionDebug uptimeMs) := by
  obtain ⟨hcandidate, hfallback, hclutter, hnot⟩ :=
    reasonText_iff s.gpioFallbackActive s.detectionDecision
  exact ⟨hcandidate, hfallback, hclutter, hnot⟩

/-- Right after a frame or a poll, the flags say what was decided. -/
theorem detectionCandidate_syncRadarDetectionState (s : FirmwareState) (uptimeMs : ℕ) :
    let s' := s.syncRadarDetectionState uptimeMs
    s'.detectionCandidate =
      ((s'.detectionDebug uptimeMs).radarCandidate || (s'.detectionDebug uptimeMs).gpioFallback) := by
  intro s'
  have hdecision : (s'.detectionDecision == .candidate) =
      (s.activeRadarMetrics.map s.radarCandidateFromMetrics).getD false := by
    show (s.detectionDecision == .candidate) = _
    unfold detectionDecision radarCandidateFromMetrics
    cases s.activeRadarMetrics with
    | none => rfl
    | some metrics => rfl
  show s'.detectionCandidate = ((s'.detectionDecision == .candidate) || s.gpioFallbackActive)
  rw [hdecision]
  rfl

/-! ## The text -/

/-- A text in quotation marks, with nothing to escape. -/
def quoted (value : Str) : Str := '"' :: (value ++ ['"'])

def liveCount (s : FirmwareState) (metric : RadarDerivedMetrics → ℕ) : ℕ :=
  (s.activeRadarMetrics.map metric).getD 0

def liveDistanceCm (s : FirmwareState) : ℤ :=
  (s.activeRadarMetrics.map (·.dominantGateDistanceCm)).getD (-1)

def debugMembers (s : FirmwareState) (uptimeMs : ℕ) (hex : Str) : List Str :=
  let debug := s.detectionDebug uptimeMs
  [memberText "status_led_hex" (quoted hex),
   memberText "led_phase" (quoted debug.ledPhase.asStr),
   memberText "detection_reason" (quoted debug.detectionReason),
   memberText "detection_candidate" (boolText s.detectionCandidate),
   memberText "presence" (boolText s.presence),
   memberText "gpio_presence" (boolText s.gpioPresence),
   memberText "radar_candidate" (boolText debug.radarCandidate),
   memberText "gpio_fallback" (boolText debug.gpioFallback),
   memberText "clutter_suppressed" (boolText debug.clutterSuppressed),
   memberText "presence_decay_remaining_ms" (u32Text (s.presenceDecayRemainingMs uptimeMs)),
   memberText "effective_min_gate_energy" (u32Text debug.effectiveMinGateEnergy),
   memberText "effective_min_activity_score" (u32Text debug.effectiveMinActivityScore),
   memberText "active_gate_count" (u32Text (s.liveCount (·.activeGateCount))),
   memberText "activity_score" (u32Text (s.liveCount (·.activityScore))),
   memberText "dominant_gate_distance_cm" (i32Text s.liveDistanceCm),
   memberText "dominant_gate_energy" (u32Text (s.liveCount (·.dominantGateEnergy)))]

set_option maxRecDepth 4000 in
theorem debugStatusJson_eq (s : FirmwareState) (uptimeMs : ℕ) :
    s.debugStatusJson uptimeMs = (s.statusLedHex uptimeMs).map fun hex =>
      '{' :: ([','].intercalate (s.debugMembers uptimeMs hex) ++ ['}']) := by
  unfold debugStatusJson
  cases s.statusLedHex uptimeMs with
  | none => rfl
  | some hex =>
    simp only [Option.bind_eq_bind, Option.bind_some, Option.map_some, appendU32_eq, appendI32_eq,
      debugMembers, memberText, quoted, List.intercalate_cons_cons, List.intercalate_singleton,
      List.append_assoc, List.cons_append, List.nil_append]
    rfl

/-- What the text stands for. -/
def debugStatusValue (s : FirmwareState) (uptimeMs : ℕ) (hex : Str) : JsonValue :=
  let debug := s.detectionDebug uptimeMs
  .object
    [(utf16 "status_led_hex", .string (utf16 hex)),
     (utf16 "led_phase", .string (utf16 debug.ledPhase.asStr)),
     (utf16 "detection_reason", .string (utf16 debug.detectionReason)),
     (utf16 "detection_candidate", .bool s.detectionCandidate),
     (utf16 "presence", .bool s.presence),
     (utf16 "gpio_presence", .bool s.gpioPresence),
     (utf16 "radar_candidate", .bool debug.radarCandidate),
     (utf16 "gpio_fallback", .bool debug.gpioFallback),
     (utf16 "clutter_suppressed", .bool debug.clutterSuppressed),
     (utf16 "presence_decay_remaining_ms", .number (s.presenceDecayRemainingMs uptimeMs)),
     (utf16 "effective_min_gate_energy", .number debug.effectiveMinGateEnergy),
     (utf16 "effective_min_activity_score", .number debug.effectiveMinActivityScore),
     (utf16 "active_gate_count", .number (s.liveCount (·.activeGateCount))),
     (utf16 "activity_score", .number (s.liveCount (·.activityScore))),
     (utf16 "dominant_gate_distance_cm", .number s.liveDistanceCm),
     (utf16 "dominant_gate_energy", .number (s.liveCount (·.dominantGateEnergy)))]

/-! ### Its parts -/

/-- What no string literal has to escape. -/
def Plain (c : Char) : Bool := 0x20 ≤ c.toNat && c ≠ '"' && c ≠ '\\'

theorem denotes_quoted {value : Str} (h : ∀ c ∈ value, Plain c) :
    Denotes (quoted value) (.value (.string (utf16 value))) :=
  Denotes.string (chars_of_plain fun c hc => by simpa [Plain, and_assoc] using h c hc)

theorem denotes_boolText (b : Bool) : Denotes (boolText b) (.value (.bool b)) := by
  cases b with
  | true => exact Denotes.true
  | false => exact Denotes.false

theorem plain_hexByte (value : UInt8) : ∀ c ∈ hexByte value, Plain c := by
  have hdigits : ∀ n, Plain (("0123456789ABCDEF" : Str).getD n '0') := by
    intro n
    rw [List.getD_eq_getElem?_getD]
    cases hget : ("0123456789ABCDEF" : Str)[n]? with
    | none => decide
    | some c =>
      have hall : ("0123456789ABCDEF" : Str).all Plain := by decide
      exact List.all_eq_true.1 hall c (List.mem_of_getElem? hget)
  intro c hc
  rcases List.mem_pair.1 hc with rfl | rfl
  · exact hdigits _
  · exact hdigits _

theorem plain_statusLedHex {s : FirmwareState} {uptimeMs : ℕ} {hex : Str}
    (h : s.statusLedHex uptimeMs = some hex) : ∀ c ∈ hex, Plain c := by
  obtain ⟨color, -, rfl⟩ := Option.map_eq_some_iff.1 h
  intro c hc
  simp only [List.mem_append] at hc
  rcases hc with (hc | hc) | hc
  · exact plain_hexByte _ c hc
  · exact plain_hexByte _ c hc
  · exact plain_hexByte _ c hc

theorem plain_asStr (phase : LedPhase) : ∀ c ∈ phase.asStr, Plain c := by
  cases phase <;> exact List.all_eq_true.1 (by decide)

theorem plain_reasonText (gpioFallback : Bool) (decision : RadarDetectionDecision) :
    ∀ c ∈ reasonText gpioFallback decision, Plain c := by
  cases gpioFallback with
  | false => cases decision <;> exact List.all_eq_true.1 (by decide)
  | true => cases decision <;> exact List.all_eq_true.1 (by decide)

/-- Metrics that fit their fields. -/
structure MetricsFit (metrics : RadarDerivedMetrics) : Prop where
  activeGateCount : metrics.activeGateCount ≤ 16
  activityScore : metrics.activityScore ≤ 100
  dominantGateEnergy : metrics.dominantGateEnergy ≤ 65535
  dominantGateDistanceCm :
    -1 ≤ metrics.dominantGateDistanceCm ∧ metrics.dominantGateDistanceCm ≤ 65535

theorem metricsFit_buildRadarDerivedMetrics (frame : Option RadarFrame) (gpioPresence : Bool) :
    MetricsFit (buildRadarDerivedMetrics frame gpioPresence) := by
  have hgpio (metrics : RadarDerivedMetrics) (h : metrics.dominantGateEnergy = 0)
      (hdistance : metrics.dominantGateDistanceCm = -1) :
      MetricsFit (applyGpioMetrics metrics gpioPresence) := by
    refine ⟨?_, ?_, by simp [applyGpioMetrics, h], by simp [applyGpioMetrics, hdistance]⟩
    · cases gpioPresence <;> simp [applyGpioMetrics]
    · cases gpioPresence <;> simp [applyGpioMetrics]
  cases frame with
  | none => exact hgpio _ rfl rfl
  | some frame =>
    cases frame with
    | energy energy =>
      rw [buildRadarDerivedMetrics_energy]
      refine ⟨energyMetrics_active_le energy, min_le_right _ _, energyMetrics_peak_le energy, ?_⟩
      show -1 ≤ (energyMetrics energy).dominantGateDistanceCm ∧
        (energyMetrics energy).dominantGateDistanceCm ≤ 65535
      obtain ⟨-, -, hnone⟩ | ⟨i, hi, -, -, -, -, hdistance⟩ := energyMetrics_dominant energy
      · omega
      · omega
    | text text =>
      show MetricsFit (applyTextMetrics { valid := _ } text)
      unfold applyTextMetrics
      cases hrange : text.rangeCm with
      | none => cases hpresence : text.presence <;> constructor <;> simp
      | some rangeCm =>
        have hlt := rangeCm.toNat_lt
        cases hpresence : text.presence <;> constructor <;> simp <;> omega
    | generic generic => exact hgpio _ rfl rfl

/-- A metric of a frame, or its default, keeps its bound. -/
theorem live_of_metricsFit (s : FirmwareState) {α : Type}
    {Q : α → Prop} {metric : RadarDerivedMetrics → α} {default : α} (hdefault : Q default)
    (hfit : ∀ metrics, MetricsFit metrics → Q (metric metrics)) :
    Q ((s.activeRadarMetrics.map metric).getD default) := by
  unfold activeRadarMetrics
  cases s.latestRadarFrame with
  | none => exact hdefault
  | some frame => exact hfit _ (metricsFit_buildRadarDerivedMetrics (some frame) s.gpioPresence)

theorem denotes_debugStatus {s : FirmwareState} {uptimeMs : ℕ} {hex : Str}
    (h : s.statusLedHex uptimeMs = some hex) :
    Denotes ('{' :: ([','].intercalate (s.debugMembers uptimeMs hex) ++ ['}']))
      (.value (s.debugStatusValue uptimeMs hex)) := by
  have hdecay : s.presenceDecayRemainingMs uptimeMs ≤ u32Max :=
    (s.presenceDecayRemainingMs_le uptimeMs).trans
      (s.effectivePresenceHoldMs_bounds.2.trans (by decide))
  have henergy : effectiveMinGateEnergy s.radarTuning ≤ u32Max := by
    unfold effectiveMinGateEnergy u32Max
    omega
  have hactivity : effectiveMinActivityScore s.radarTuning ≤ u32Max :=
    (effectiveMinActivityScore_mem s.radarTuning).2.trans (by decide)
  have hgates : s.liveCount (·.activeGateCount) ≤ u32Max :=
    s.live_of_metricsFit (Q := (· ≤ u32Max)) (by decide) fun _ hm => hm.1.trans (by decide)
  have hscore : s.liveCount (·.activityScore) ≤ u32Max :=
    s.live_of_metricsFit (Q := (· ≤ u32Max)) (by decide) fun _ hm => hm.2.trans (by decide)
  have hpeak : s.liveCount (·.dominantGateEnergy) ≤ u32Max :=
    s.live_of_metricsFit (Q := (· ≤ u32Max)) (by decide) fun _ hm => hm.3.trans (by decide)
  have hdistance : s.liveDistanceCm.natAbs ≤ u32Max := by
    refine s.live_of_metricsFit (Q := fun d : ℤ => d.natAbs ≤ u32Max) (by decide) fun _ hm => ?_
    have hbounds := hm.4
    unfold u32Max
    omega
  refine denotes_object (.cons ?_ (.cons ?_ (.cons ?_ (.cons ?_ (.cons ?_ (.cons ?_ (.cons ?_
    (.cons ?_ (.cons ?_ (.cons ?_ (.cons ?_ (.cons ?_ (.cons ?_ (.cons ?_ (.cons ?_ (.cons ?_
    .nil))))))))))))))))
  · exact denotes_memberText (denotes_quoted (plain_statusLedHex h)) (by decide)
  · exact denotes_memberText (denotes_quoted (plain_asStr _)) (by decide)
  · exact denotes_memberText (denotes_quoted (plain_reasonText _ _)) (by decide)
  · exact denotes_memberText (denotes_boolText _) (by decide)
  · exact denotes_memberText (denotes_boolText _) (by decide)
  · exact denotes_memberText (denotes_boolText _) (by decide)
  · exact denotes_memberText (denotes_boolText _) (by decide)
  · exact denotes_memberText (denotes_boolText _) (by decide)
  · exact denotes_memberText (denotes_boolText _) (by decide)
  · exact denotes_memberText (denotes_u32Text hdecay) (by decide)
  · exact denotes_memberText (denotes_u32Text henergy) (by decide)
  · exact denotes_memberText (denotes_u32Text hactivity) (by decide)
  · exact denotes_memberText (denotes_u32Text hgates) (by decide)
  · exact denotes_memberText (denotes_u32Text hscore) (by decide)
  · exact denotes_memberText (denotes_i32Text hdistance) (by decide)
  · exact denotes_memberText (denotes_u32Text hpeak) (by decide)

/-- In every state the debug status is JSON that stands for the values of the state; the phase it
names is the one the LED shows, the reason tells what decided, and after a frame or a poll the
candidate is the one of the two flags. -/
theorem debugStatus_faithful (s : FirmwareState) (uptimeMs : ℕ) :
    (∃ hex text, s.statusLedHex uptimeMs = some hex ∧ s.debugStatusJson uptimeMs = some text ∧
      Document text (s.debugStatusValue uptimeMs hex)) ∧
    s.statusLedRgb uptimeMs = some (s.ledOfPhase uptimeMs (s.detectionDebug uptimeMs).ledPhase) ∧
    ReasonTells (s.detectionDebug uptimeMs) ∧
    (let s' := s.syncRadarDetectionState uptimeMs
     s'.detectionCandidate = ((s'.detectionDebug uptimeMs).radarCandidate ||
       (s'.detectionDebug uptimeMs).gpioFallback)) := by
  refine ⟨?_, s.statusLedRgb_eq_ledOfPhase uptimeMs, s.reasonTells_detectionDebug uptimeMs,
    s.detectionCandidate_syncRadarDetectionState uptimeMs⟩
  obtain ⟨hex, hhex⟩ := s.exists_statusLedHex uptimeMs
  refine ⟨hex, _, hhex, by rw [debugStatusJson_eq, hhex]; rfl, ?_⟩
  exact (denotes_debugStatus hhex).alone

end FirmwareState

end EspWaveRider.Firmware
