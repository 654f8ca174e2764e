import EspWaveRider.Firmware.DeviceRefinement

/-!
# Updates in the main loop

The main loop of `rust/firmware/esp32s3/src/main.rs` turns to a queued update only in a round
without an HTTP request.

* `BusyRound` — a round with a request, and without a command about updates;
* `update_untouched` — what such rounds leave of an update and of the OTA slots;
* `queued_update_waits` — a queued update waits for all of them, and not for one round more.
-/

namespace EspWaveRider.Firmware

open Text Command Machine

/-- The command is about updates. -/
def AboutUpdates (command : Str) : Prop :=
  parseDeviceCommand command = some .firmwareSync ∨
    ∃ targetVersion, parseDeviceCommand command = some (.firmwareUpdate targetVersion)

/-- A round with a request, none of whose commands is about updates. -/
def BusyRound (httpsOta : Bool) (d : Device) : DeviceEvent → Prop
  | .reboot .. => False
  | .round r => r.httpRequest.isSome ∧
      ∀ s command, d.Executes httpsOta r s command → ¬ AboutUpdates command

/-! ## What leaves an update alone -/

theorem FirmwareState.firmwareSyncState_handleCommand {s : FirmwareState} {command : Str}
    (h : ¬ AboutUpdates command) (uptimeMs : ℕ) :
    (s.handleCommand command uptimeMs).state.firmwareSyncState = s.firmwareSyncState := by
  have htag (slot : ℕ) (tag : BleIdentityTagState) (s' : FirmwareState)
      (hset : s.setBleTag slot tag = some s') : s'.firmwareSyncState = s.firmwareSyncState := by
    obtain ⟨tags, rfl⟩ := setBleTag_eq hset
    rfl
  rw [state_handleCommand]
  cases hparse : parseDeviceCommand command with
  | none => rfl
  | some parsed =>
    let Q (s' : FirmwareState) : Prop := s'.firmwareSyncState = s.firmwareSyncState
    have hs : Q s := rfl
    show Q (s.handleDeviceCommand uptimeMs parsed).state
    cases parsed with
    | homeAssistantConfig payload =>
      exact state_configured hs _ _ fun config => disconnectedIf_rule (Q := Q) _ _ id rfl
    | homeAssistantRoomConfig payload => exact state_configured hs _ _ fun _ => rfl
    | homeAssistantWebSocketConfig payload => exact state_configured hs _ _ fun _ => rfl
    | homeAssistantMqttEndpoint payload => exact state_configured hs _ _ fun _ => rfl
    | tuningConfig payload => exact state_configured hs _ _ fun _ => rfl
    | bleTagConfig payload => exact state_configuredTag hs _ _ fun _ s' => htag _ _ s'
    | bleTagClear payload => exact state_configuredTag hs _ _ fun _ s' => htag _ _ s'
    | firmwareSync => exact absurd (.inl hparse) h
    | firmwareUpdate targetVersion => exact absurd (.inr ⟨targetVersion, hparse⟩) h
    | homeAssistantRoomPosePublish payload =>
      simp only [handleDeviceCommand]
      split
      · split <;> rfl
      · rfl
    | _ => rfl

namespace Device

/-- The update of a node and its OTA slots. -/
def update (d : Device) : FirmwareSyncState × OtaFlash := (d.state.firmwareSyncState, d.flash)

theorem update_handleCommand {command : Str} (h : ¬ AboutUpdates command) (d : Device)
    (answers : HandlerAnswers) : (d.handleCommand answers command).1.update = d.update := by
  refine Prod.ext ?_ rfl
  show (d.handleCommand answers command).1.state.firmwareSyncState = _
  rw [state_handleCommand]
  exact FirmwareState.firmwareSyncState_handleCommand h _

theorem update_processBleScanEvents (d : Device) (events : List BleScanEventMessage)
    (uptimeMs : ℕ) : (d.processBleScanEvents events uptimeMs).update = d.update := by
  induction events generalizing d with
  | nil => rfl
  | cons event events ih =>
    refine (ih _).trans (Prod.ext ?_ rfl)
    obtain ⟨f, -, hstate⟩ := d.tags_recordAdvertisement (event.advertisement uptimeMs)
    show (d.recordAdvertisement (event.advertisement uptimeMs)).state.firmwareSyncState = _
    rw [hstate]
    rfl

theorem update_receive (d : Device) (r : Round) : (d.receive r).1.update = d.update :=
  (update_processBleScanEvents _ r.bleEvents r.now).trans
    (Prod.ext (d.networkWork_listen r).firmwareSyncState rfl)

theorem update_sense (d : Device) (r : Round) : (d.sense r).update = d.update :=
  Prod.ext (FirmwareState.work_pollPresence d.state r.presencePin r.now).firmwareSyncState rfl

theorem update_readUsb (d : Device) (r : Round)
    (h : ∀ command, r.usbByte = some 0x0A → Console.command d.commandBuffer = some command →
      ¬ AboutUpdates command) : (d.readUsb r).1.update = d.update := by
  unfold Device.readUsb
  cases hbyte : r.usbByte with
  | none => rfl
  | some byte =>
    dsimp only
    unfold Device.readUsbByte
    split_ifs with hfeed
    · rfl
    · cases hcommand : Console.command d.commandBuffer with
      | none => rfl
      | some command =>
        exact update_handleCommand (h command (hfeed ▸ hbyte) hcommand) d r.usbAnswers
    · rfl

/-- A busy round leaves the update alone. -/
theorem update_round {httpsOta : Bool} {d : Device} {r : Round}
    (h : BusyRound httpsOta d (.round r)) : (d.round httpsOta r).1.update = d.update := by
  obtain ⟨hrequest, hcommands⟩ := h
  obtain ⟨request, hrequest⟩ := Option.isSome_iff_exists.1 hrequest
  have hserve : ((d.receive r).1.serve httpsOta r).1.update = (d.receive r).1.update := by
    unfold Device.serve
    rw [hrequest]
    cases request with
    | snapshot => rfl
    | command command =>
      exact update_handleCommand (hcommands _ _ (.http hrequest)) _ r.httpAnswers
  rw [round_eq]
  refine (update_readUsb _ r fun command hbyte hcommand =>
    hcommands _ _ (.usb hbyte hcommand)).trans ?_
  rw [update_sense, hserve, update_receive]

end Device

/-! ## Carrying it out -/

/-- What a node at this time makes of an update that is queued. -/
def FirmwareState.serviced (s : FirmwareState) (httpsOta : Bool) (uptimeMs : ℕ)
    (attempts : List Attempt) (flash : OtaFlash) : FirmwareSyncState × OtaFlash :=
  let (s, flash) := s.serviceFirmwareSync httpsOta uptimeMs attempts flash
  (s.firmwareSyncState, flash)

/-- It depends on nothing but the update. -/
theorem FirmwareState.serviced_congr {s s' : FirmwareState}
    (h : s'.firmwareSyncState = s.firmwareSyncState) (httpsOta : Bool) (uptimeMs : ℕ)
    (attempts : List Attempt) (flash : OtaFlash) :
    s'.serviced httpsOta uptimeMs attempts flash = s.serviced httpsOta uptimeMs attempts flash := by
  unfold serviced serviceFirmwareSync
  simp only [h]
  split_ifs
  · rw [h]
  · rfl
  · rfl

theorem FirmwareSyncState.pending_record (sync : FirmwareSyncState) (result : CandidatesResult) :
    (sync.record result).pending = sync.pending ∧
      (sync.record result).lastStartedMs = sync.lastStartedMs := by
  cases result with
  | failed lastError => cases lastError <;> exact ⟨rfl, rfl⟩
  | _ => exact ⟨rfl, rfl⟩

/-- An update that is queued is over afterwards, whatever came of it. -/
theorem FirmwareState.serviced_of_pending {s : FirmwareState}
    (hpending : s.firmwareSyncState.pending = true)
    (hidle : s.firmwareSyncState.inProgress = false) (httpsOta : Bool) (uptimeMs : ℕ)
    (attempts : List Attempt) (flash : OtaFlash) :
    let sync := (s.serviced httpsOta uptimeMs attempts flash).1
    sync.pending = false ∧ sync.inProgress = false ∧ sync.lastStartedMs = uptimeMs ∧
      sync.lastCompletedMs = uptimeMs := by
  have hqueued : ¬ (!s.firmwareSyncState.pending || s.firmwareSyncState.inProgress) = true := by
    simp [hpending, hidle]
  unfold serviced serviceFirmwareSync
  dsimp only
  rw [if_neg hqueued]
  split
  · exact ⟨rfl, rfl, rfl, rfl⟩
  · exact ⟨(FirmwareSyncState.pending_record _ _).1, rfl,
      (FirmwareSyncState.pending_record _ _).2, rfl⟩

/-- A round without a request turns to the update. -/
theorem Device.update_idleRound (httpsOta : Bool) (d : Device) {r : Round}
    (hidle : r.httpRequest = none) (husb : r.usbByte ≠ some 0x0A) :
    (d.round httpsOta r).1.update =
      d.state.serviced httpsOta r.now r.attempts d.flash := by
  have hreceive := d.update_receive r
  have hsync : (d.receive r).1.state.firmwareSyncState = d.state.firmwareSyncState :=
    congrArg Prod.fst hreceive
  have hflash : (d.receive r).1.flash = d.flash := congrArg Prod.snd hreceive
  rw [round_eq]
  refine (update_readUsb _ r fun command hbyte => absurd hbyte husb).trans ?_
  rw [update_sense]
  unfold Device.serve
  rw [hidle, ← FirmwareState.serviced_congr hsync, ← hflash]
  rfl

/-! ## Runs -/

/-- A queued update waits through any number of busy rounds, and the first round without a request
carries it out: as it would have been carried out when it was queued, and whatever comes of it, it
is over then. -/
theorem queued_update_waits {httpsOta : Bool} {mac : Vector UInt8 6} {d d' : Device}
    (h : (deviceMachine httpsOta mac).Reach Always d)
    (hpending : d.state.firmwareSyncState.pending = true)
    (hrun : ((deviceMachine httpsOta mac).startingAt d).Reach (BusyRound httpsOta) d') :
    (d'.state.firmwareSyncState = d.state.firmwareSyncState ∧ d'.flash = d.flash) ∧
    ∀ r : Round, r.InTime d'.clock → r.httpRequest = none → r.usbByte ≠ some 0x0A →
      let d'' := (d'.round httpsOta r).1
      (d''.state.firmwareSyncState, d''.flash) =
          d.state.serviced httpsOta r.now r.attempts d.flash ∧
        d''.state.firmwareSyncState.pending = false ∧
        d''.state.firmwareSyncState.lastStartedMs = r.now := by
  have hkept : d'.update = d.update := by
    refine hrun.invariant (I := fun e => e.update = d.update) ?_ ?_
    · rintro _ rfl
      rfl
    · intro e event e' he hbusy hstep
      cases event with
      | reboot settingsOpen reason benchmark presencePin uptimeMs => cases hbusy
      | round r =>
        simp only [Machine.startingAt, deviceMachine] at hstep
        split_ifs at hstep
        cases hstep
        exact (Device.update_round hbusy).trans he
  have hsync : d'.state.firmwareSyncState = d.state.firmwareSyncState := congrArg Prod.fst hkept
  have hflash : d'.flash = d.flash := congrArg Prod.snd hkept
  refine ⟨⟨hsync, hflash⟩, fun r _ hidle husb => ?_⟩
  have hround := d'.update_idleRound httpsOta hidle husb
  rw [FirmwareState.serviced_congr hsync, hflash] at hround
  have hover := FirmwareState.serviced_of_pending hpending (sound_of_reach h).state.sync.inProgress
    httpsOta r.now r.attempts d.flash
  rw [← hround] at hover
  exact ⟨hround, hover.1, hover.2.2.1⟩

/-! ### A dashboard that never stops asking -/

def queuedDevice : Device :=
  (factoryDevice.round true (requestRound 1000 (.command ⟨"firmware_update:1.2.3", by decide⟩))).1

theorem queued_update_waits_for_dashboard :
    ((queuedDevice.round true (requestRound 2000 .snapshot)).1.state.firmwareSyncState.targetVersion =
      ("1.2.3" : Str)) ∧
    ((queuedDevice.round true (requestRound 2000 .snapshot)).1.round true
      { requestRound 3000 .snapshot with httpRequest := none }).1.state.firmwareSyncState.lastStartedMs
        = 3000 := by
  have hboot : (deviceMachine true ⟨#[2, 0, 0, 10, 11, 12], rfl⟩).Reach Always factoryDevice :=
    .start start_factoryDevice
  have hqueued : (deviceMachine true ⟨#[2, 0, 0, 10, 11, 12], rfl⟩).Reach Always queuedDevice :=
    .step hboot trivial (step_round (by decide))
  have hbusy : BusyRound true queuedDevice (.round (requestRound 2000 .snapshot)) := by
    refine ⟨rfl, fun s command hexecutes => ?_⟩
    cases hexecutes with
    | http hrequest => cases hrequest
    | usb hbyte _ => cases hbyte
  have hround := @step_round true ⟨#[2, 0, 0, 10, 11, 12], rfl⟩ queuedDevice
    (requestRound 2000 .snapshot) (by decide +kernel)
  obtain ⟨⟨hsync, -⟩, hidle⟩ := queued_update_waits hqueued (by decide +kernel)
    (.step (.start rfl) hbusy hround)
  refine ⟨hsync ▸ by decide +kernel, (hidle _ (by decide +kernel) rfl (by decide)).2.2⟩

end EspWaveRider.Firmware
