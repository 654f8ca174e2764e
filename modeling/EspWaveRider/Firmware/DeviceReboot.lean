import EspWaveRider.Firmware.DeviceRuns

/-!
# Rebooting out of the main loop

Flash and memory over whole runs of the main loop of `rust/firmware/esp32s3/src/main.rs`: the
settings in flash are those that a reboot needs, at every moment between two rounds.

* `settings_handleCommand` — a command saves the state it leaves, or leaves the settings alone;
* `Mirrored` — a boot from the flash would bring the settings back;
* `reboot_restores` — it would, in every run whose writes take effect.
-/

namespace EspWaveRider.Firmware

open Text Radar Command Machine

/-! ## What a command saves -/

namespace Effects

/-- Only the update has changed, if anything. -/
def OnlySync (s s' : FirmwareState) : Prop := ∃ sync, s' = { s with firmwareSyncState := sync }

/-- The state after the command is saved, or the command is not about the settings. -/
def Saves (taken : SettingsKey → Bool) (w w' : CommandWorld) : Prop :=
  w'.settings = w.settings.map (·.persistRuntimeConfig taken w'.state) ∨
    w'.settings = w.settings ∧ OnlySync w.state w'.state

theorem saves_refl (taken : SettingsKey → Bool) (w : CommandWorld) : Saves taken w w :=
  .inr ⟨rfl, _, rfl⟩

theorem saves_persistRuntimeConfig (taken : SettingsKey → Bool) (w : CommandWorld)
    (s : FirmwareState) :
    Saves taken w ((persistRuntimeConfig taken).run { w with state := s }).2 := by
  refine .inl ?_
  rw [state_persistRuntimeConfig]
  obtain ⟨_, _, settings, _, _, _⟩ := w
  cases settings <;> rfl

theorem saves_configure {P : Type} (taken : SettingsKey → Bool) (code : Str)
    (parsed : ParseResult P) (apply : FirmwareState → P → FirmwareState) (w : CommandWorld) :
    Saves taken w ((configure taken code parsed apply).run w).2 := by
  cases parsed with
  | ok payload => exact saves_persistRuntimeConfig taken w (apply w.state payload)
  | error e => exact saves_refl taken w

theorem saves_configureTag {P : Type} (taken : SettingsKey → Bool) (code : Str)
    (parsed : ParseResult P) {apply : P → CommandM Bool}
    (happly : ∀ payload w, ∃ s, ((apply payload).run w).2 = { w with state := s })
    (hfail : ∀ payload w, ((apply payload).run w).1 = false → ((apply payload).run w).2 = w)
    (w : CommandWorld) : Saves taken w ((configureTag taken code parsed apply).run w).2 := by
  cases parsed with
  | error e => exact saves_refl taken w
  | ok payload =>
    rw [run_configureTag]
    obtain ⟨s, hs⟩ := happly payload w
    have hfail := hfail payload w
    generalize (apply payload).run w = r at hs hfail
    obtain ⟨done, w'⟩ := r
    cases done with
    | true =>
      cases hs
      exact saves_persistRuntimeConfig taken w s
    | false =>
      rw [show w' = w from hfail rfl]
      exact saves_refl taken w

theorem saves_handleDeviceCommand (uptimeMs : ℕ) (wifiController : Bool)
    (taken : SettingsKey → Bool) (command : DeviceCommand) (w : CommandWorld) :
    Saves taken w ((handleDeviceCommand uptimeMs wifiController taken command).run w).2 := by
  cases command with
  | homeAssistantConfig payload => exact saves_configure ..
  | homeAssistantRoomConfig payload => exact saves_configure ..
  | homeAssistantWebSocketConfig payload => exact saves_configure ..
  | homeAssistantMqttEndpoint payload => exact saves_configure ..
  | tuningConfig payload => exact saves_configure ..
  | bleTagConfig payload =>
    refine saves_configureTag taken _ _ (fun payload w => ?_) applyBleTagConfig_of_false w
    unfold applyBleTagConfig
    dsimp only
    split <;> exact ⟨_, rfl⟩
  | bleTagClear payload =>
    refine saves_configureTag taken _ _ (fun payload w => ?_) applyBleTagClear_of_false w
    unfold applyBleTagClear
    dsimp only
    split <;> exact ⟨_, rfl⟩
  | firmwareSync => exact .inr ⟨rfl, w.state.requestFirmwareSync_eq uptimeMs⟩
  | firmwareUpdate targetVersion => exact .inr ⟨rfl, w.state.requestFirmwareUpdate_eq _ _ _⟩
  | runtimeBenchmark => exact .inr ⟨rfl, _, rfl⟩
  | wifiScan =>
    rw [handleDeviceCommand]
    split <;> exact saves_refl taken w
  | homeAssistantRoomPosePublish payload =>
    rw [handleDeviceCommand]
    cases parseRoomPosePublishPayload payload with
    | error e => exact saves_refl taken w
    | ok pose =>
      rw [run_publishRoomPose]
      cases buildRoomPosePublishMessage w.state pose with
      | none => exact saves_refl taken w
      | some message => exact .inr ⟨rfl, _, rfl⟩
  | _ => exact saves_refl taken w

theorem saves_handleCommand (uptimeMs : ℕ) (wifiController : Bool) (taken : SettingsKey → Bool)
    (command : Str) (w : CommandWorld) :
    Saves taken w ((handleCommand uptimeMs wifiController taken command).run w).2 := by
  rw [handleCommand]
  split_ifs
  · exact saves_refl taken w
  · exact saves_refl taken w
  · cases parseDeviceCommand command with
    | none => exact saves_refl taken w
    | some command => exact saves_handleDeviceCommand uptimeMs wifiController taken command w

end Effects

/-! ## What a boot brings back -/

namespace FirmwareState

theorem identified_identified (mac : Vector UInt8 6) (k : Setting) (value : k.Value) :
    k.identified mac (k.identified mac value) = k.identified mac value := by
  have hname {name unset fallback : Str} (hunset : fallback ≠ unset) (hempty : fallback ≠ []) :
      let identified := if name = unset ∨ name = [] then fallback else name
      (if identified = unset ∨ identified = [] then fallback else identified) = identified := by
    intro identified
    by_cases hname : name = unset ∨ name = []
    · simp [identified, hname, hunset, hempty]
    · simp [identified, hname]
  cases k with
  | nodeId => exact hname (defaultNodeId_ne mac) (List.append_ne_nil_of_left_ne_nil (by decide) _)
  | friendly =>
    exact hname (defaultFriendlyName_ne mac) (List.append_ne_nil_of_left_ne_nil (by decide) _)
  | _ => rfl

/-- When the tags were heard is not saved. -/
theorem saved_unheard (flash : Nvs) (s : FirmwareState) : flash.saved s.unheard = flash.saved s := by
  have htag (slot : Fin maxBleTags) :
      s.unheard.bleIdentityTags[slot] = (s.bleIdentityTags[slot]).unheard :=
    Vector.getElem_map ..
  unfold Nvs.saved Nvs.persistRuntimeConfig
  simp only [htag]
  rfl

theorem bootCount_bootState (mac : Vector UInt8 6) (settings : Nvs) :
    (bootState mac (some settings)).bootCount =
      saturatingSucc ((settings.bootCount.map UInt32.toNat).getD 0) :=
  disconnectedIf_rule (Q := fun s => saturatingSucc s.bootCount =
    saturatingSucc ((settings.bootCount.map UInt32.toNat).getD 0)) _ _ id rfl

theorem bootCount_handleCommand (s : FirmwareState) (command : Str) (uptimeMs : ℕ) :
    (s.handleCommand command uptimeMs).state.bootCount = s.bootCount := by
  have heffect := s.parsedEffect_handleCommand command uptimeMs
  generalize (s.handleCommand command uptimeMs).state = s' at heffect
  cases heffect with
  | homeAssistantConfig payload =>
    exact disconnectedIf_rule (Q := fun t => t.bootCount = s.bootCount) _ _ id rfl
  | _ => rfl

/-- A boot from this flash brings the settings back: as they are, but for names that stand for
none.  The boot count is that of now, for it is never written. -/
structure Mirrored (mac : Vector UInt8 6) (stored : Nvs) (s : FirmwareState) : Prop where
  setting : ∀ k : Setting,
    (bootState mac (some stored)).setting k = k.identified mac (s.setting k)
  bleIdentityTags : ∀ (slot : ℕ) (h : slot < maxBleTags),
    (bootState mac (some stored)).bleIdentityTags[slot] = (s.bleIdentityTags[slot]).unheard
  bootCount : (bootState mac (some stored)).bootCount = s.bootCount

variable {mac : Vector UInt8 6} {stored : Nvs} {s s' : FirmwareState}

theorem mirrored_bootState (mac : Vector UInt8 6) (stored : Nvs) :
    Mirrored mac stored (bootState mac (some stored)) where
  setting k := by
    rw [setting_bootState, Setting.booted]
    exact (identified_identified mac k _).symm
  bleIdentityTags slot h :=
    ((wellSet_bootState mac (some stored)).bleIdentityTags slot h).unheard.symm
  bootCount := rfl

/-- What leaves settings and tags alone. -/
theorem Mirrored.of_same (h : Mirrored mac stored s) (hsetting : ∀ k, s'.setting k = s.setting k)
    (htags : s'.unheard.bleIdentityTags = s.unheard.bleIdentityTags)
    (hcount : s'.bootCount = s.bootCount) : Mirrored mac stored s' where
  setting k := by rw [hsetting, h.setting]
  bleIdentityTags slot hslot := by
    have htag := congrArg (fun tags : Vector _ maxBleTags => tags[slot]) htags
    simp only [unheard, Vector.getElem_map] at htag
    rw [htag, h.bleIdentityTags]
  bootCount := h.bootCount.trans hcount.symm

theorem Mirrored.networkWork {uptimeMs : ℕ} (h : Mirrored mac stored s)
    (hwork : NetworkWork uptimeMs s s') : Mirrored mac stored s' :=
  h.of_same (fun k => (hwork.setting k).trans (by cases k <;> rfl))
    (congrArg (Vector.map _) hwork.bleIdentityTags) hwork.bootCount

/-- A state that has been saved. -/
theorem mirrored_saved (hset : s.unheard.WellSet)
    (hcount : (bootState mac (some stored)).bootCount = s.bootCount) :
    Mirrored mac (stored.saved s) s where
  setting k := by
    rw [← saved_unheard, hset.setting_rebooted mac stored k]
    cases k <;> rfl
  bleIdentityTags slot hslot := by
    rw [← saved_unheard, hset.bleTag_rebooted mac stored slot hslot]
    exact Vector.getElem_map ..
  bootCount := by
    rw [← hcount, bootCount_bootState, bootCount_bootState]
    rfl

/-- All that a reboot does not bring back are names that stand for none. -/
theorem Mirrored.sameSettings_iff (h : Mirrored mac stored s) (hnamed : s.Named) :
    SameSettings (bootState mac (some stored)) (s.initializeDeviceIdentity mac) ∧
      (SameSettings (bootState mac (some stored)) s ↔
        s.nodeId ≠ defaultNodeIdPrefix ∧ s.friendlyName ≠ defaultFriendlyNamePrefix) := by
  have htag (slot : ℕ) (hslot : slot < maxBleTags) :
      (bootState mac (some stored)).bleIdentityTags[slot].SameTag s.bleIdentityTags[slot] := by
    rw [h.bleIdentityTags slot hslot]
    exact ⟨rfl, rfl, rfl, rfl⟩
  have hnode : (bootState mac (some stored)).nodeId = s.nodeId ↔
      s.nodeId ≠ defaultNodeIdPrefix := by
    rw [show (bootState mac (some stored)).nodeId = _ from h.setting .nodeId]
    exact identified_eq_self_iff hnamed.nodeId (defaultNodeId_ne mac)
  have hfriendly : (bootState mac (some stored)).friendlyName = s.friendlyName ↔
      s.friendlyName ≠ defaultFriendlyNamePrefix := by
    rw [show (bootState mac (some stored)).friendlyName = _ from h.setting .friendly]
    exact identified_eq_self_iff hnamed.friendlyName (defaultFriendlyName_ne mac)
  refine ⟨⟨fun k => ?_, htag⟩, fun hsame => ?_, fun hown => ⟨fun k => ?_, htag⟩⟩
  · rw [h.setting, setting_initializeDeviceIdentity]
  · exact ⟨hnode.1 (hsame.setting .nodeId), hfriendly.1 (hsame.setting .friendly)⟩
  · cases k with
    | nodeId => exact hnode.2 hown.1
    | friendly => exact hfriendly.2 hown.2
    | _ => exact h.setting _

end FirmwareState

/-! ## Rounds -/

namespace Device

/-- With the settings open, the flash mirrors the state. -/
def Mirrored (mac : Vector UInt8 6) (d : Device) : Prop :=
  d.settingsOpen = true → FirmwareState.Mirrored mac d.stored d.state

theorem mirrored_boot (mac : Vector UInt8 6) (stored : Nvs) (settingsOpen : Bool) (flash : OtaFlash)
    (reason : Str) (benchmark : Option RuntimeBenchmarkSnapshot) (presencePin : Bool) (uptimeMs : ℕ) :
    (boot mac stored settingsOpen flash reason benchmark presencePin uptimeMs).Mirrored mac := by
  rintro rfl
  exact (FirmwareState.mirrored_bootState mac stored).networkWork
    (FirmwareState.work_pollPresence _ presencePin uptimeMs).networkWork

theorem Mirrored.handleCommand {mac : Vector UInt8 6} {d : Device} (h : d.Mirrored mac)
    (hsound : d.Sound) {answers : HandlerAnswers} (htaken : answers.taken = fun _ => true)
    (huptime : d.clock ≤ answers.uptimeMs) (command : Str) :
    (d.handleCommand answers command).1.Mirrored mac := by
  intro hsettings
  have hsettings : d.settingsOpen = true := hsettings
  have h := h hsettings
  have hsaves := Effects.saves_handleCommand answers.uptimeMs d.wifi.wifiController.isSome
    answers.taken command { state := d.state, settings := d.settings }
  have hstate := d.state_handleCommand answers command
  have hafter := ((hsound.state.mono huptime).handleCommand command).wellSet
  have hcount := d.state.bootCount_handleCommand command answers.uptimeMs
  rw [← hstate] at hafter hcount
  have hopen (save : Nvs → Nvs) : (d.settings.map save).getD d.stored = save d.stored := by
    rw [settings, if_pos hsettings, Option.map_some, Option.getD_some]
  have hsave (s : FirmwareState) :
      d.stored.persistRuntimeConfig answers.taken s = d.stored.saved s := by
    rw [htaken, Nvs.saved]
  rcases hsaves with hsaved | ⟨hkept, sync, hsync⟩
  · have hstored : (d.handleCommand answers command).1.stored =
        d.stored.saved (d.handleCommand answers command).1.state :=
      (congrArg (Option.getD · d.stored) hsaved).trans ((hopen _).trans (hsave _))
    rw [hstored]
    exact FirmwareState.mirrored_saved hafter (h.bootCount.trans hcount.symm)
  · have hstored : (d.handleCommand answers command).1.stored = d.stored :=
      (congrArg (Option.getD · d.stored) hkept).trans (by simpa using hopen id)
    have hsync : (d.handleCommand answers command).1.state =
      { d.state with firmwareSyncState := sync } := hsync
    rw [hstored, hsync]
    exact h.of_same (fun k => by cases k <;> rfl) rfl rfl

section Round

variable {mac : Vector UInt8 6} {d : Device} {r : Round}

theorem Mirrored.receive (h : d.Mirrored mac) : (d.receive r).1.Mirrored mac := by
  have hlistened : (d.listen r).1.Mirrored mac := fun hsettings =>
    (h hsettings).networkWork (d.networkWork_listen r)
  show ((d.listen r).1.processBleScanEvents r.bleEvents r.now).Mirrored mac
  generalize (d.listen r).1 = d at hlistened
  induction r.bleEvents generalizing d with
  | nil => exact hlistened
  | cons event events ih =>
    refine ih _ fun hsettings => ?_
    obtain ⟨f, hf, hstate⟩ := d.tags_recordAdvertisement (event.advertisement r.now)
    show FirmwareState.Mirrored mac d.stored (d.recordAdvertisement _).state
    rw [hstate]
    exact (hlistened hsettings).of_same (fun k => by cases k <;> rfl) (tagsNoted_map _ _ _ hf).unheard
      rfl

theorem Mirrored.serve (h : d.Mirrored mac) (hsound : d.Sound) (httpsOta : Bool)
    (htaken : r.httpAnswers.taken = fun _ => true) (huptime : d.clock ≤ r.httpAnswers.uptimeMs) :
    (d.serve httpsOta r).1.Mirrored mac := by
  unfold Device.serve
  cases r.httpRequest with
  | none =>
    intro hsettings
    obtain ⟨sync, hservice⟩ := d.state.serviceFirmwareSync_eq httpsOta r.now r.attempts d.flash
    show FirmwareState.Mirrored mac d.stored
      (d.state.serviceFirmwareSync httpsOta r.now r.attempts d.flash).1
    rw [hservice]
    exact (h hsettings).of_same (fun k => by cases k <;> rfl) rfl rfl
  | some request =>
    cases request with
    | snapshot => exact h
    | command command => exact h.handleCommand hsound htaken huptime command.items

theorem Mirrored.readUsb (h : d.Mirrored mac) (hsound : d.Sound)
    (htaken : r.usbAnswers.taken = fun _ => true) (huptime : d.clock ≤ r.usbAnswers.uptimeMs) :
    (d.readUsb r).1.Mirrored mac := by
  unfold Device.readUsb
  cases r.usbByte with
  | none => exact h
  | some byte =>
    dsimp only
    unfold Device.readUsbByte
    split_ifs
    · exact h
    · cases Console.command d.commandBuffer with
      | none => exact h
      | some command => exact h.handleCommand hsound htaken huptime command
    · exact h

theorem Mirrored.round (h : d.Mirrored mac) (hsound : d.Sound) (httpsOta : Bool)
    (hr : r.InTime d.clock)
    (htaken : r.httpAnswers.taken = (fun _ => true) ∧ r.usbAnswers.taken = fun _ => true) :
    (d.round httpsOta r).1.Mirrored mac := by
  have hr' : r.InTime r.now := ⟨le_rfl, hr.http, hr.usb, hr.range⟩
  have hreceived := hsound.receive hr
  have hclock := d.clock_receive r
  obtain ⟨hserved, hnow, hreply⟩ := hreceived.serve httpsOta hr' hclock
  rw [round_eq]
  refine Mirrored.readUsb (fun hsettings => ?_) (hserved.sense hnow) htaken.2
    (hreply.trans hr.usb.1)
  exact FirmwareState.Mirrored.networkWork
    (h.receive.serve hreceived httpsOta htaken.1 (hclock ▸ hr.http.1) hsettings)
    (FirmwareState.work_pollPresence _ r.presencePin r.now).networkWork

end Round

end Device

/-! ## Runs -/

/-- All writes to the flash take effect. -/
def FlashWorks (_ : Device) : DeviceEvent → Prop
  | .reboot .. => True
  | .round r => r.httpAnswers.taken = (fun _ => true) ∧ r.usbAnswers.taken = fun _ => true

/-- At every moment between two rounds of a run whose writes take effect, a boot with the settings
open brings every setting and every tag back, names that stand for none being given anew, and the
boot count of now, which is counted up from what was stored before the node's first boot. -/
theorem reboot_restores {httpsOta : Bool} {mac : Vector UInt8 6} {d : Device}
    (h : (deviceMachine httpsOta mac).Reach FlashWorks d) (hopen : d.settingsOpen = true) :
    let rebooted := FirmwareState.bootState mac (some d.stored)
    rebooted.bootCount = d.state.bootCount ∧
      FirmwareState.SameSettings rebooted (d.state.initializeDeviceIdentity mac) ∧
      (FirmwareState.SameSettings rebooted d.state ↔
        d.state.nodeId ≠ defaultNodeIdPrefix ∧
          d.state.friendlyName ≠ defaultFriendlyNamePrefix) := by
  have hmirrored : d.Mirrored mac ∧ d.Sound := by
    refine h.invariant (I := fun d => d.Mirrored mac ∧ d.Sound) ?_ ?_
    · rintro d ⟨stored, settingsOpen, flash, reason, benchmark, presencePin, uptimeMs, huptime, rfl⟩
      exact ⟨Device.mirrored_boot _ _ _ _ _ _ _ _,
        Device.Sound.boot mac stored settingsOpen flash reason benchmark presencePin huptime⟩
    · rintro d e d' ⟨hd, hsound⟩ htaken hstep
      simp only [deviceMachine] at hstep
      cases e with
      | reboot settingsOpen reason benchmark presencePin uptimeMs =>
        dsimp only at hstep
        split_ifs at hstep with huptime
        cases hstep
        exact ⟨Device.mirrored_boot _ _ _ _ _ _ _ _,
          Device.Sound.boot mac _ settingsOpen _ reason benchmark presencePin huptime⟩
      | round r =>
        dsimp only at hstep
        split_ifs at hstep with hr
        cases hstep
        exact ⟨hd.round hsound httpsOta hr htaken, hsound.round httpsOta hr⟩
  exact ⟨(hmirrored.1 hopen).bootCount,
    (hmirrored.1 hopen).sameSettings_iff hmirrored.2.state.named⟩

theorem reboot_restores_configured :
    (FirmwareState.bootState ⟨#[2, 0, 0, 10, 11, 12], rfl⟩ (some configuredDevice.stored)).wifiSsid =
        ("net" : Str) ∧
      FirmwareState.SameSettings
        (FirmwareState.bootState ⟨#[2, 0, 0, 10, 11, 12], rfl⟩ (some configuredDevice.stored))
        configuredDevice.state := by
  have hboot : (deviceMachine true ⟨#[2, 0, 0, 10, 11, 12], rfl⟩).Reach FlashWorks factoryDevice :=
    .start start_factoryDevice
  have hrestored := reboot_restores (.step (e := .round _) hboot ⟨rfl, rfl⟩ step_configuredDevice) rfl
  exact ⟨by decide +kernel, hrestored.2.2.2 (by decide +kernel)⟩

end EspWaveRider.Firmware
