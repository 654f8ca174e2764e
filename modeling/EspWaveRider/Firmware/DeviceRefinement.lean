import EspWaveRider.Firmware.DeviceRuns
import EspWaveRider.Lib.Simulation
import EspWaveRider.Lib.Splitting
import EspWaveRider.Lib.Utf8

/-!
# The main loop and the peer table

A round of the main loop of `rust/firmware/esp32s3/src/main.rs`, seen as steps of the machine of
the peer table: what is known of its runs is known of every run of the main loop.

* `Device.Executes` — the commands of a round, with the state that each of them finds;
* `RoundAllows`, `steps_round` — a round is a sequence of steps of `peerMachine`, each of which may be
  done if the round allows it;
* `device_refines_peers` — so is a run.
-/

namespace EspWaveRider.Firmware

open Text Radar Command Machine

namespace Device

/-- The round runs this command in this state. -/
inductive Executes (httpsOta : Bool) (d : Device) (r : Round) : FirmwareState → Str → Prop where
  | http {command : HString 256} : r.httpRequest = some (.command command) →
      Executes httpsOta d r (d.receive r).1.state command.items
  | usb {command : Str} : r.usbByte = some 0x0A →
      Console.command (((d.receive r).1.serve httpsOta r).1.sense r).commandBuffer = some command →
      Executes httpsOta d r (((d.receive r).1.serve httpsOta r).1.sense r).state command

end Device

/-- No command of the round gives the node the identifier of a peer in its table. -/
def RoundKeepsPeersApart (httpsOta : Bool) (d : Device) : DeviceEvent → Prop
  | .reboot .. => True
  | .round r => ∀ s command, d.Executes httpsOta r s command → KeepsPeersApart s command

/-- Whatever the machine of the peer table does in the round may be done. -/
structure RoundAllows (ok : FirmwareState → PeerEvent → Prop) (httpsOta : Bool) (d : Device)
    (r : Round) : Prop where
  work : ∀ s next, ok s (.work next)
  discovery : ∀ s station,
    ok s (.discovery station r.datagrams r.now r.freeHeapBytes r.announceTaken)
  roomSummary : ∀ s payload, .roomSummary payload ∈ r.mqttEvents → ok s (.roomSummary payload r.now)
  command : ∀ s (command : HString 256) uptimeMs, d.Executes httpsOta r s command.items →
    ok s (.command command uptimeMs)

theorem roundAllows_peersApart {httpsOta : Bool} {d : Device} {r : Round}
    (h : RoundKeepsPeersApart httpsOta d (.round r)) : RoundAllows PeersApart httpsOta d r :=
  ⟨fun _ _ => trivial, fun _ _ => trivial, fun _ _ _ => trivial,
    fun s command _ hexecutes => h s command.items hexecutes⟩

/-! ## Phases as steps -/

section Steps

variable {ok : FirmwareState → PeerEvent → Prop} (hwork : ∀ s next, ok s (.work next))
  {s s' : FirmwareState}

include hwork

theorem steps_of_same (hid : s'.nodeId = s.nodeId)
    (hpeers : s'.udpDiscoveryPeers = s.udpDiscoveryPeers) : peerMachine.Steps ok s s' :=
  .one (e := .work s') (hwork s s') (if_pos ⟨hid, hpeers⟩)

theorem steps_of_work {uptimeMs : ℕ} (h : FirmwareState.Work uptimeMs s s') :
    peerMachine.Steps ok s s' :=
  steps_of_same hwork (h.setting .nodeId) h.udpDiscoveryPeers

theorem steps_applyMqttEvents {uptimeMs : ℕ} (events : List MqttTaskEvent)
    (htold : ∀ s payload, .roomSummary payload ∈ events → ok s (.roomSummary payload uptimeMs)) :
    peerMachine.Steps ok s (events.foldl (FirmwareState.applyMqttEvent uptimeMs) s) := by
  induction events generalizing s with
  | nil => exact .refl s
  | cons event events ih =>
    refine Steps.trans ?_ (ih fun s payload hmem => htold s payload (List.mem_cons_of_mem _ hmem))
    cases event with
    | status status => exact steps_of_same hwork rfl rfl
    | roomSummary payload =>
      exact .one (e := .roomSummary payload uptimeMs) (htold s payload (List.mem_cons_self ..)) rfl

theorem steps_processMqttRuntime {uptimeMs : ℕ} (events : List MqttTaskEvent)
    (htold : ∀ s payload, .roomSummary payload ∈ events → ok s (.roomSummary payload uptimeMs))
    (configSent summarySent : Bool) : peerMachine.Steps ok s
      (s.processMqttRuntime events uptimeMs configSent summarySent).1 :=
  (steps_applyMqttEvents hwork events htold).trans (steps_of_work hwork
    (FirmwareState.work_processMqttRuntime uptimeMs s events configSent summarySent))

end Steps

theorem steps_handleCommand {ok : FirmwareState → PeerEvent → Prop} {s : FirmwareState} {command : Str}
    (hlen : utf8Len command ≤ 256) {uptimeMs : ℕ} (hok : ok s (.command ⟨command, hlen⟩ uptimeMs)) :
    peerMachine.Steps ok s (s.handleCommand command uptimeMs).state :=
  .one (e := .command ⟨command, hlen⟩ uptimeMs) hok rfl

/-- A trimmed text is no longer than its bytes. -/
theorem utf8Len_command {commandBuffer : HVec UInt8 256} {command : Str}
    (h : Console.command commandBuffer = some command) : utf8Len command ≤ 256 := by
  unfold Console.command at h
  split_ifs at h
  obtain ⟨text, htext, rfl⟩ := Option.map_eq_some_iff.1 h
  obtain ⟨before, after, htrim⟩ := trim_isInfix text
  have hlen : utf8Len text ≤ 256 := by
    rw [utf8Len_of_fromUtf8 htext, ← weight_one]
    exact commandBuffer.fits
  rw [← htrim, utf8Len_append, utf8Len_append] at hlen
  omega

namespace Device

variable {ok : FirmwareState → PeerEvent → Prop} {httpsOta : Bool}

theorem steps_processBleScanEvents (hwork : ∀ s next, ok s (.work next)) (d : Device)
    (events : List BleScanEventMessage) (uptimeMs : ℕ) :
    peerMachine.Steps ok d.state (d.processBleScanEvents events uptimeMs).state := by
  induction events generalizing d with
  | nil => exact .refl _
  | cons event events ih =>
    refine Steps.trans ?_ (ih _)
    obtain ⟨f, -, hstate⟩ := d.tags_recordAdvertisement (event.advertisement uptimeMs)
    rw [hstate]
    exact steps_of_same hwork rfl rfl

theorem steps_receive {d : Device} {r : Round} (h : RoundAllows ok httpsOta d r) :
    peerMachine.Steps ok d.state (d.receive r).1.state := by
  refine Steps.trans ?_ (steps_processBleScanEvents h.work _ r.bleEvents r.now)
  refine Steps.trans ?_ (steps_processMqttRuntime h.work r.mqttEvents h.roomSummary ..)
  refine Steps.trans ?_ (Steps.one (e := .discovery _ r.datagrams r.now r.freeHeapBytes
    r.announceTaken) (h.discovery _ _) rfl)
  exact (steps_of_work h.work (FirmwareState.work_pollRadarUart d.state ⟨r.now, r.radarReads⟩)).trans
    (steps_of_work h.work (FirmwareState.work_pollWifiRuntime r.radio r.now
      { d.wifi with state := (d.state.pollRadarUart ⟨r.now, r.radarReads⟩).1 }))

theorem steps_serve {d : Device} {r : Round} (h : RoundAllows ok httpsOta d r) :
    peerMachine.Steps ok (d.receive r).1.state ((d.receive r).1.serve httpsOta r).1.state := by
  generalize hd : (d.receive r).1 = received
  unfold Device.serve
  cases hrequest : r.httpRequest with
  | none =>
    obtain ⟨sync, hservice⟩ :=
      received.state.serviceFirmwareSync_eq httpsOta r.now r.attempts received.flash
    show peerMachine.Steps ok received.state
      (received.state.serviceFirmwareSync httpsOta r.now r.attempts received.flash).1
    rw [hservice]
    exact steps_of_same h.work rfl rfl
  | some request =>
    cases request with
    | snapshot => exact .refl _
    | command command =>
      show peerMachine.Steps ok received.state
        (received.handleCommand r.httpAnswers command.items).1.state
      rw [state_handleCommand]
      exact steps_handleCommand command.utf8Len_le
        (h.command _ ⟨command.items, command.utf8Len_le⟩ _ (hd ▸ .http hrequest))

theorem steps_readUsb {d : Device} {r : Round} (h : RoundAllows ok httpsOta d r) :
    peerMachine.Steps ok (((d.receive r).1.serve httpsOta r).1.sense r).state
      ((((d.receive r).1.serve httpsOta r).1.sense r).readUsb r).1.state := by
  generalize hd : ((d.receive r).1.serve httpsOta r).1.sense r = sensed
  unfold Device.readUsb
  cases hbyte : r.usbByte with
  | none => exact .refl _
  | some byte =>
    dsimp only
    unfold Device.readUsbByte
    split_ifs with hfeed
    · exact .refl _
    · cases hcommand : Console.command sensed.commandBuffer with
      | none => exact .refl _
      | some command =>
        show peerMachine.Steps ok sensed.state (sensed.handleCommand r.usbAnswers command).1.state
        rw [state_handleCommand]
        have hexecutes : d.Executes httpsOta r sensed.state command :=
          hd ▸ .usb (hfeed ▸ hbyte) (hd ▸ hcommand)
        exact steps_handleCommand (utf8Len_command hcommand)
          (h.command _ ⟨command, utf8Len_command hcommand⟩ _ hexecutes)
    · exact .refl _

/-- A round is a sequence of steps. -/
theorem steps_round {d : Device} {r : Round} (h : RoundAllows ok httpsOta d r) :
    peerMachine.Steps ok d.state (d.round httpsOta r).1.state := by
  rw [round_eq]
  refine (steps_receive h).trans ((steps_serve h).trans (Steps.trans ?_ (steps_readUsb h)))
  exact steps_of_work h.work (FirmwareState.work_pollPresence _ r.presencePin r.now)

end Device

/-! ## Runs -/

/-- Every run of the main loop whose commands keep the node apart from its peers is a run of the
machine of the peer table; so the table never holds the node itself. -/
theorem device_refines_peers {httpsOta : Bool} {mac : Vector UInt8 6} {d : Device}
    (h : (deviceMachine httpsOta mac).Reach (RoundKeepsPeersApart httpsOta) d) :
    peerMachine.Reach PeersApart d.state ∧ PeersInvariant d.state := by
  have hboot (settings : Option Nvs) (presencePin : Bool) (uptimeMs : ℕ) :
      peerMachine.Reach PeersApart
        ((FirmwareState.bootState mac settings).pollPresence presencePin uptimeMs) :=
    Reach.steps (Reach.step (e := .boot mac settings) (Reach.start rfl) trivial rfl)
      (steps_of_work (fun _ _ => trivial) (FirmwareState.work_pollPresence _ presencePin uptimeMs))
  have hreach : peerMachine.Reach PeersApart d.state := by
    refine Reach.simulate ?_ ?_ h
    · rintro d ⟨stored, settingsOpen, flash, reason, benchmark, presencePin, uptimeMs, -, rfl⟩
      exact hboot _ presencePin uptimeMs
    · intro d e d' hapart hstep
      simp only [deviceMachine] at hstep
      cases e with
      | reboot settingsOpen reason benchmark presencePin uptimeMs =>
        dsimp only at hstep
        split_ifs at hstep
        cases hstep
        exact .inr (hboot _ presencePin uptimeMs)
      | round r =>
        dsimp only at hstep
        split_ifs at hstep
        cases hstep
        exact .inl (Device.steps_round (roundAllows_peersApart hapart))
  refine ⟨hreach, hreach.invariant ?_ ?_⟩
  · rintro s rfl
    exact PeersInvariant.of_nil rfl
  · intro s e s' hs hapart hstep
    exact hs.step hapart hstep

theorem device_refines_peers_of_request :
    peerMachine.Reach PeersApart configuredDevice.state ∧ PeersInvariant configuredDevice.state := by
  have hboot : (deviceMachine true ⟨#[2, 0, 0, 10, 11, 12], rfl⟩).Reach
      (RoundKeepsPeersApart true) factoryDevice := .start start_factoryDevice
  refine device_refines_peers (.step hboot ?_ step_configuredDevice)
  intro s command hexecutes nodeId _
  cases hexecutes with
  | http _ => exact List.not_mem_nil
  | usb hbyte _ => cases hbyte

end EspWaveRider.Firmware
