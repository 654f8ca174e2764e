import EspWaveRider.Firmware.Sensing
import EspWaveRider.Lib.Checked
import EspWaveRider.Lib.Clamp

/-!
# The status LED

`status_led_rgb` of `rust/firmware/esp32s3/src/main.rs`: green while something is detected, then
a green that fades into red while presence is held.  An overflow is `none`.

* `statusLedRgb_eq` — the colour is a level of green and the rest of the brightness in red;
* `greenLevel_of_quiet` — in a run without a detection the green only fades;
* `statusLedRgb_decays` — the colours over whole runs.
-/

namespace EspWaveRider.Firmware

open HeldSignal Radar

structure StatusLedColor where
  r : UInt8 := 0
  g : UInt8 := 0
  b : UInt8 := 0
  deriving DecidableEq

namespace FirmwareState

def statusLedRgb (s : FirmwareState) (uptime : ℕ) : Option StatusLedColor :=
  if !s.ledEnabled then some {}
  else
    let brightness := s.ledBrightness
    if s.detectionCandidate then some { r := 0, g := brightness, b := 0 }
    else
      let remaining := s.presenceDecayRemainingMs uptime
      let hold := s.effectivePresenceHoldMs.toNat
      if remaining = 0 ∨ hold = 0 then some { r := brightness, g := 0, b := 0 }
      else do
        let product ← Checked.fits 32 (remaining * brightness.toNat)
        let green := UInt8.ofNat (product / hold)
        let red := UInt8.ofNat (brightness.toNat - green.toNat)
        some { r := red, g := green, b := 0 }

/-! ## The remaining time -/

theorem effectivePresenceHoldMs_bounds (s : FirmwareState) :
    3000 ≤ s.effectivePresenceHoldMs.toNat ∧ s.effectivePresenceHoldMs.toNat ≤ 60000 := by
  have hmin : minPresenceHoldMs.toNat = 3000 := rfl
  have hmax : maxPresenceHoldMs.toNat = 60000 := rfl
  rw [effectivePresenceHoldMs, Clamp.toNat_max_uint16, Clamp.toNat_min_uint16]
  omega

theorem presenceDecayRemainingMs_eq (s : FirmwareState) (uptime : ℕ) :
    s.presenceDecayRemainingMs uptime =
      if s.lastDetectionMs = 0 then 0
      else s.effectivePresenceHoldMs.toNat - (uptime - s.lastDetectionMs) := by
  have hhold := s.effectivePresenceHoldMs_bounds.1
  unfold presenceDecayRemainingMs
  dsimp only
  split_ifs <;> omega

theorem presenceDecayRemainingMs_le (s : FirmwareState) (uptime : ℕ) :
    s.presenceDecayRemainingMs uptime ≤ s.effectivePresenceHoldMs.toNat := by
  rw [presenceDecayRemainingMs_eq]
  split <;> omega

theorem presenceDecayRemainingMs_antitone (s : FirmwareState) {uptime later : ℕ}
    (h : uptime ≤ later) : s.presenceDecayRemainingMs later ≤ s.presenceDecayRemainingMs uptime := by
  rw [presenceDecayRemainingMs_eq, presenceDecayRemainingMs_eq]
  split <;> omega

theorem presenceDecayRemainingMs_eq_hold_iff (s : FirmwareState) (uptime : ℕ) :
    s.presenceDecayRemainingMs uptime = s.effectivePresenceHoldMs.toNat ↔
      s.lastDetectionMs ≠ 0 ∧ uptime ≤ s.lastDetectionMs := by
  have hhold := s.effectivePresenceHoldMs_bounds.1
  rw [presenceDecayRemainingMs_eq]
  split <;> omega

theorem presenceDecayRemainingMs_of_held (s : FirmwareState) {uptime : ℕ}
    (h : s.lastDetectionMs + s.effectivePresenceHoldMs.toNat ≤ uptime) :
    s.presenceDecayRemainingMs uptime = 0 := by
  rw [presenceDecayRemainingMs_eq]
  split <;> omega

/-! ## The colour -/

/-- How much of the brightness is green. -/
def greenLevel (s : FirmwareState) (uptime : ℕ) : ℕ :=
  if s.detectionCandidate then s.ledBrightness.toNat
  else faded s.ledBrightness.toNat s.effectivePresenceHoldMs.toNat (s.presenceDecayRemainingMs uptime)

theorem greenLevel_of_not_candidate {s : FirmwareState} (h : s.detectionCandidate = false)
    (uptime : ℕ) : s.greenLevel uptime = faded s.ledBrightness.toNat
      s.effectivePresenceHoldMs.toNat (s.presenceDecayRemainingMs uptime) := by
  simp [greenLevel, h]

theorem greenLevel_le (s : FirmwareState) (uptime : ℕ) :
    s.greenLevel uptime ≤ s.ledBrightness.toNat := by
  unfold greenLevel
  split
  · exact le_rfl
  · exact faded_le (s.presenceDecayRemainingMs_le uptime)

/-- At most a minute times the brightness, which 32 bits hold. -/
theorem fits_product (s : FirmwareState) (uptime : ℕ) :
    Checked.fits 32 (s.presenceDecayRemainingMs uptime * s.ledBrightness.toNat) =
      some (s.presenceDecayRemainingMs uptime * s.ledBrightness.toNat) := by
  refine Checked.fits_of_lt ?_
  have hremaining := s.presenceDecayRemainingMs_le uptime
  have hhold := s.effectivePresenceHoldMs_bounds.2
  have hbrightness := s.ledBrightness.toNat_lt
  calc s.presenceDecayRemainingMs uptime * s.ledBrightness.toNat
      ≤ 60000 * 256 := Nat.mul_le_mul (by omega) (by omega)
    _ < 2 ^ 32 := by norm_num

theorem toNat_ofNat_of_le {level : ℕ} {brightness : UInt8} (h : level ≤ brightness.toNat) :
    (UInt8.ofNat level).toNat = level :=
  UInt8.toNat_ofNat_of_lt' (h.trans_lt brightness.toNat_lt)

theorem statusLedRgb_eq {s : FirmwareState} (h : s.ledEnabled) (uptime : ℕ) :
    s.statusLedRgb uptime = some
      { r := UInt8.ofNat (s.ledBrightness.toNat - s.greenLevel uptime)
        g := UInt8.ofNat (s.greenLevel uptime)
        b := 0 } := by
  unfold statusLedRgb
  simp only [h, Bool.not_true, Bool.false_eq_true, if_false]
  split_ifs with hcandidate hremaining
  · simp [greenLevel, hcandidate]
  · have hzero : s.presenceDecayRemainingMs uptime = 0 := by
      have hhold := s.effectivePresenceHoldMs_bounds.1
      omega
    simp [greenLevel, hcandidate, hzero]
  · have hgreen : s.greenLevel uptime =
        s.presenceDecayRemainingMs uptime * s.ledBrightness.toNat /
          s.effectivePresenceHoldMs.toNat :=
      greenLevel_of_not_candidate (Bool.not_eq_true _ ▸ hcandidate) uptime
    rw [fits_product, Option.bind_eq_bind, Option.bind_some, ← hgreen,
      toNat_ofNat_of_le (s.greenLevel_le uptime)]

theorem greenLevel_eq_brightness_iff (s : FirmwareState) (uptime : ℕ) :
    s.greenLevel uptime = s.ledBrightness.toNat ↔ s.detectionCandidate ∨ s.ledBrightness = 0 ∨
      (s.lastDetectionMs ≠ 0 ∧ uptime ≤ s.lastDetectionMs) := by
  cases hcandidate : s.detectionCandidate with
  | true => simp [greenLevel, hcandidate]
  | false =>
    have hhold := s.effectivePresenceHoldMs_bounds.1
    have hzero : s.ledBrightness.toNat = (0 : UInt8).toNat ↔ s.ledBrightness = 0 := UInt8.toNat_inj
    rw [UInt8.toNat_zero] at hzero
    rw [greenLevel_of_not_candidate hcandidate,
      faded_eq_self_iff (by omega) (s.presenceDecayRemainingMs_le uptime),
      presenceDecayRemainingMs_eq_hold_iff, hzero]
    simp

end FirmwareState

open FirmwareState

/-! ## Runs without a detection -/

/-- The tuning that the colour depends on. -/
structure SameLedTuning (s s' : FirmwareState) : Prop where
  ledEnabled : s'.ledEnabled = s.ledEnabled
  ledBrightness : s'.ledBrightness = s.ledBrightness
  presenceHoldMs : s'.presenceHoldMs = s.presenceHoldMs

namespace Sensing

/-- The detection is either not sampled or sampled as false. -/
structure Sampled (time : ℕ) (w w' : Sensing) : Prop where
  unsampled : w'.samples = w.samples →
    w'.state.detectionCandidate = w.state.detectionCandidate ∧
      w'.state.lastDetectionMs = w.state.lastDetectionMs
  sampled : w'.samples ≠ w.samples →
    w'.samples = (time, w'.state.detectionCandidate) :: w.samples ∧
      w'.state.lastDetectionMs =
        if w'.state.detectionCandidate then time else w.state.lastDetectionMs

theorem Sampled.of_cons {time : ℕ} {w w' : Sensing}
    (hsamples : w'.samples = (time, w'.state.detectionCandidate) :: w.samples)
    (hlast : w'.state.lastDetectionMs =
      if w'.state.detectionCandidate then time else w.state.lastDetectionMs) :
    Sampled time w w' :=
  ⟨fun hsame => absurd (hsamples.symm.trans hsame) (List.cons_ne_self _ _),
    fun _ => ⟨hsamples, hlast⟩⟩

theorem Sampled.of_sameSensing {time : ℕ} {w w' : Sensing} (hsamples : w'.samples = w.samples)
    (h : SameSensing w.state w'.state) : Sampled time w w' :=
  ⟨fun _ => ⟨h.detectionCandidate, h.lastDetectionMs⟩, fun hne => absurd hsamples hne⟩

theorem sampled_radar (w : Sensing) {time : ℕ} {outcome : FirmwareState × List RadarFrame}
    (heffect : RadarEffect time w.state outcome) : Sampled time w (w.radar time outcome) := by
  unfold Sensing.radar
  split
  · rename_i hempty
    exact .of_sameSensing rfl (heffect.quiet (List.isEmpty_iff.1 hempty))
  · rename_i hframe
    exact .of_cons rfl (heffect.frame fun hnil => hframe (List.isEmpty_iff.2 hnil)).lastDetectionMs

theorem sampled_act (w : Sensing) (time : ℕ) (action : SensingAction) :
    Sampled time w (w.act time action) := by
  cases action with
  | radarByte byte => exact w.sampled_radar (w.state.radarEffect_pushRadarByte time byte)
  | radarFlush =>
    exact w.sampled_radar (w.state.radarEffect_flushRadarBufferIfNeeded time false)
  | poll gpio =>
    show Sampled time w (w.poll time gpio)
    by_cases hdue : SaturatingClock.due presencePollMs w.state.lastPresencePollMs time
    · rw [poll_of_due gpio hdue]
      exact .of_cons rfl (pollSampled_of_due gpio hdue).lastDetectionMs
    · rw [poll_of_not_due gpio hdue]
      exact .of_sameSensing rfl (.refl _)
  | command command => exact .of_sameSensing rfl (w.state.sameSensing_handleCommand command time)

/-- A step without a new detection that leaves the tuning alone. -/
def Quiet (w : Sensing) (e : SensingEvent) : Prop :=
  ∀ w' ∈ sensingMachine.step w e,
    (w'.samples = w.samples ∨ w'.samples = (e.time, false) :: w.samples) ∧
      SameLedTuning w.state w'.state

/-- What is kept while nothing new is detected. -/
structure Fading (s s' : FirmwareState) : Prop where
  tuning : SameLedTuning s s'
  lastDetectionMs : s'.lastDetectionMs = s.lastDetectionMs
  detectionCandidate : s'.detectionCandidate → s.detectionCandidate

theorem fading_step {w w' : Sensing} {e : SensingEvent} (hquiet : w.Quiet e)
    (hstep : sensingMachine.step w e = some w') : Fading w.state w'.state := by
  obtain ⟨hsamples, htuning⟩ := hquiet w' hstep
  obtain ⟨-, -, rfl⟩ := step_eq_some hstep
  obtain ⟨hunsampled, hsampled⟩ := sampled_act { w with clock := e.time } e.time e.action
  rcases hsamples with hsame | hfalse
  · obtain ⟨hcandidate, hlast⟩ := hunsampled hsame
    exact ⟨htuning, hlast, fun h => hcandidate ▸ h⟩
  · obtain ⟨hcons, hlast⟩ := hsampled (by rw [hfalse]; exact List.cons_ne_self _ _)
    have hcandidate := (Prod.mk.inj (List.cons.inj (hcons.symm.trans hfalse)).1).2
    rw [hcandidate] at hlast
    exact ⟨htuning, hlast, fun h => absurd (hcandidate.symm.trans h) Bool.false_ne_true⟩

theorem Fading.refl (s : FirmwareState) : Fading s s := ⟨⟨rfl, rfl, rfl⟩, rfl, id⟩

theorem Fading.trans {s t u : FirmwareState} (h : Fading s t) (h' : Fading t u) : Fading s u :=
  ⟨⟨h'.tuning.ledEnabled.trans h.tuning.ledEnabled,
      h'.tuning.ledBrightness.trans h.tuning.ledBrightness,
      h'.tuning.presenceHoldMs.trans h.tuning.presenceHoldMs⟩,
    h'.lastDetectionMs.trans h.lastDetectionMs,
    fun hu => h.detectionCandidate (h'.detectionCandidate hu)⟩

theorem fading_of_reach {w w' : Sensing} (h : (sensingMachine.startingAt w).Reach Quiet w') :
    Fading w.state w'.state := by
  refine h.invariant (I := fun v => Fading w.state v.state) ?_ ?_
  · rintro _ rfl
    exact .refl _
  · intro v e v' hfading hquiet hstep
    exact hfading.trans (fading_step hquiet hstep)

/-- Time and samples that are false only take green away. -/
theorem Fading.greenLevel_le {s s' : FirmwareState} (h : Fading s s') {uptime later : ℕ}
    (hle : uptime ≤ later) : s'.greenLevel later ≤ s.greenLevel uptime := by
  cases hcandidate : s.detectionCandidate with
  | true =>
    calc s'.greenLevel later ≤ s'.ledBrightness.toNat := s'.greenLevel_le later
      _ = s.greenLevel uptime := by simp [greenLevel, hcandidate, h.tuning.ledBrightness]
  | false =>
    have hlater : s'.detectionCandidate = false := by
      refine Bool.eq_false_iff.2 fun hs' => ?_
      exact Bool.false_ne_true (hcandidate.symm.trans (h.detectionCandidate hs'))
    have hhold : s'.effectivePresenceHoldMs = s.effectivePresenceHoldMs := by
      rw [effectivePresenceHoldMs, h.tuning.presenceHoldMs, effectivePresenceHoldMs]
    have hremaining : s'.presenceDecayRemainingMs later = s.presenceDecayRemainingMs later := by
      rw [presenceDecayRemainingMs_eq, h.lastDetectionMs, hhold, presenceDecayRemainingMs_eq]
    rw [greenLevel_of_not_candidate hlater, greenLevel_of_not_candidate hcandidate,
      h.tuning.ledBrightness, hhold, hremaining]
    exact faded_mono _ _ (s.presenceDecayRemainingMs_antitone hle)

end Sensing

/-! ## The colours -/

namespace FirmwareState

def pureGreen (s : FirmwareState) : StatusLedColor := { r := 0, g := s.ledBrightness, b := 0 }

def pureRed (s : FirmwareState) : StatusLedColor := { r := s.ledBrightness, g := 0, b := 0 }

/-- A level of green and the rest of the brightness in red. -/
structure Shows (s : FirmwareState) (uptime : ℕ) (color : StatusLedColor) : Prop where
  b : color.b = 0
  sum : color.r.toNat + color.g.toNat = s.ledBrightness.toNat
  level : color.g.toNat = s.greenLevel uptime

theorem exists_shows {s : FirmwareState} (h : s.ledEnabled) (uptime : ℕ) :
    ∃ color, s.statusLedRgb uptime = some color ∧ s.Shows uptime color := by
  have hle := s.greenLevel_le uptime
  have hgreen := toNat_ofNat_of_le hle
  have hred : (UInt8.ofNat (s.ledBrightness.toNat - s.greenLevel uptime)).toNat =
      s.ledBrightness.toNat - s.greenLevel uptime := toNat_ofNat_of_le (Nat.sub_le _ _)
  refine ⟨_, statusLedRgb_eq h uptime, rfl, ?_, hgreen⟩
  dsimp only
  omega

theorem Shows.eq_pureGreen_iff {s : FirmwareState} {uptime : ℕ} {color : StatusLedColor}
    (h : s.Shows uptime color) : color = s.pureGreen ↔ s.greenLevel uptime = s.ledBrightness.toNat := by
  obtain ⟨r, g, b⟩ := color
  obtain ⟨rfl, hsum, hlevel⟩ := h
  dsimp only at hsum hlevel
  rw [pureGreen, ← hlevel]
  constructor
  · intro hcolor
    rw [(StatusLedColor.mk.inj hcolor).2.1]
  · intro hgreen
    have hg : g = s.ledBrightness := UInt8.toNat_inj.1 hgreen
    have hr : r = 0 := UInt8.toNat_inj.1 (by rw [UInt8.toNat_zero]; omega)
    rw [hg, hr]

theorem Shows.eq_pureRed {s : FirmwareState} {uptime : ℕ} {color : StatusLedColor}
    (h : s.Shows uptime color) (hzero : s.greenLevel uptime = 0) : color = s.pureRed := by
  obtain ⟨r, g, b⟩ := color
  obtain ⟨rfl, hsum, hlevel⟩ := h
  dsimp only at hsum hlevel
  have hg : g = 0 := UInt8.toNat_inj.1 (by rw [UInt8.toNat_zero]; omega)
  have hr : r = s.ledBrightness := UInt8.toNat_inj.1 (by omega)
  rw [pureRed, hg, hr]

theorem statusLedRgb_of_disabled {s : FirmwareState} (h : s.ledEnabled = false) (uptime : ℕ) :
    s.statusLedRgb uptime = some {} := by
  simp [statusLedRgb, h]

end FirmwareState

theorem Sensing.Fading.g_le {s s' : FirmwareState} (h : Fading s s') {uptime later : ℕ}
    (hle : uptime ≤ later) {color color' : StatusLedColor} (hcolor : color ∈ s.statusLedRgb uptime)
    (hcolor' : color' ∈ s'.statusLedRgb later) : color'.g ≤ color.g := by
  cases hled : s.ledEnabled with
  | false =>
    rw [statusLedRgb_of_disabled (h.tuning.ledEnabled.trans hled)] at hcolor'
    cases hcolor'
    exact UInt8.le_iff_toNat_le.2 (Nat.zero_le _)
  | true =>
    obtain ⟨shown, hshown, hlevel⟩ := exists_shows hled uptime
    obtain ⟨shown', hshown', hlevel'⟩ := exists_shows (h.tuning.ledEnabled.trans hled) later
    cases hshown.symm.trans hcolor
    cases hshown'.symm.trans hcolor'
    rw [UInt8.le_iff_toNat_le, hlevel.level, hlevel'.level]
    exact h.greenLevel_le hle

theorem Sensing.Fading.statusLedRgb_eq_pureRed {s s' : FirmwareState} (h : Fading s s')
    {uptime later : ℕ} (hle : uptime ≤ later) (hled : s.ledEnabled)
    (hcandidate : s.detectionCandidate = false)
    (hremaining : s.presenceDecayRemainingMs uptime = 0) :
    s'.statusLedRgb later = some s'.pureRed := by
  have hzero : s.greenLevel uptime = 0 := by
    rw [greenLevel_of_not_candidate hcandidate, hremaining, faded_zero]
  obtain ⟨color, hcolor, hshows⟩ := exists_shows (h.tuning.ledEnabled.trans hled) later
  have hgone := h.greenLevel_le hle
  rw [hcolor, hshows.eq_pureRed (by omega)]

/-- The brightness is shared between green and red.  The LED is pure green while something is
detected and until the clock moves on from there; then green fades, and it is gone for good when
the hold time is over. -/
theorem statusLedRgb_decays :
    (∀ (s : FirmwareState) (uptime : ℕ), s.ledEnabled →
      ∃ color, s.statusLedRgb uptime = some color ∧ color.b = 0 ∧
        color.r.toNat + color.g.toNat = s.ledBrightness.toNat ∧
        (color = s.pureGreen ↔ s.detectionCandidate ∨ s.ledBrightness = 0 ∨
          (s.lastDetectionMs ≠ 0 ∧ uptime ≤ s.lastDetectionMs))) ∧
    (∀ w w' : Sensing, (sensingMachine.startingAt w).Reach Sensing.Quiet w' →
      ∀ uptime later, uptime ≤ later →
        (∀ color ∈ w.state.statusLedRgb uptime, ∀ color' ∈ w'.state.statusLedRgb later,
          color'.g ≤ color.g) ∧
        (w.state.ledEnabled → w.state.detectionCandidate = false →
          w.state.presenceDecayRemainingMs uptime = 0 →
          w'.state.statusLedRgb later = some w'.state.pureRed)) ∧
    ∀ (s : FirmwareState) (uptime : ℕ),
      s.lastDetectionMs + s.effectivePresenceHoldMs.toNat ≤ uptime →
      s.presenceDecayRemainingMs uptime = 0 := by
  refine ⟨?_, ?_, fun s uptime h => s.presenceDecayRemainingMs_of_held h⟩
  · intro s uptime hled
    obtain ⟨color, hcolor, hshows⟩ := exists_shows hled uptime
    exact ⟨color, hcolor, hshows.b, hshows.sum,
      hshows.eq_pureGreen_iff.trans (s.greenLevel_eq_brightness_iff uptime)⟩
  · intro w w' hreach uptime later hle
    have hfading := Sensing.fading_of_reach hreach
    refine ⟨?_, ?_⟩
    · intro color hcolor color' hcolor'
      exact hfading.g_le hle hcolor hcolor'
    · intro hled hcandidate hremaining
      exact hfading.statusLedRgb_eq_pureRed hle hled hcandidate hremaining

/-- A frame is taken for a detection while the pin is still high, and the poll of the same
millisecond finds the pin low. -/
def fallingRun : List SensingEvent :=
  [⟨25, .poll true⟩, ⟨30, .radarByte 1⟩, ⟨60, .radarFlush⟩, ⟨60, .poll false⟩]

theorem green_without_candidate :
    ¬∀ w, sensingMachine.Reach Machine.Always w → w.state.ledEnabled →
      (w.state.statusLedRgb w.clock = some w.state.pureGreen ↔ w.state.detectionCandidate) := by
  intro hall
  have hstart : sensingMachine.Reach Machine.Always _ :=
    Machine.Reach.start ⟨Vector.replicate 6 0, some {}, rfl⟩
  let P (w : Sensing) : Prop := w.state.ledEnabled ∧ w.state.detectionCandidate = false ∧
    w.state.statusLedRgb w.clock = some w.state.pureGreen
  obtain ⟨w, hreach, hled, hcandidate, hgreen⟩ :=
    Machine.exists_reach_of_run (P := P) hstart fallingRun (by decide +kernel)
  have hdetected := (hall w hreach hled).1 hgreen
  exact Bool.false_ne_true (hcandidate.symm.trans hdetected)

end EspWaveRider.Firmware
