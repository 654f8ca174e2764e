import EspWaveRider.Cpp.UdpDiscovery
import EspWaveRider.Fleet

/-!
# The peers that either firmware shows

The Rust firmware keeps the nodes it hears of in a list from which it drops those that are too old;
the C++ firmware keeps them in slots and passes over them.  Both make room for a new node by giving
up the one heard longest ago, and show what was heard within 20 seconds.

* `Device.hearing` — when a Rust node heard of the others, round after round;
* `Device.Remembers` — its table is a `RecentStore` of them; `Remembers.round` keeps it;
* `device_shows_recent` — which nodes it shows in any run of its main loop;
* `discovery_tables_agree` — both firmwares show the same nodes while there are at most twelve.
-/

namespace EspWaveRider

open Text Firmware Machine RecentStore

namespace Firmware

/-! ## What a Rust node hears -/

namespace FirmwareState

/-- The node a datagram is about, for either handler. -/
def datagramSender (s : FirmwareState) (payload : Str) : Option Str :=
  (s.discoverySender payload).or (s.summarySender payload)

/-- When each node was heard last, if there is one to be heard now. -/
def note (uptimeMs : ℕ) (heard : Str → Option ℕ) : Option Str → Str → Option ℕ
  | none => heard
  | some nodeId => Function.update heard nodeId (some uptimeMs)

def noteDatagram (s : FirmwareState) (uptimeMs : ℕ) (heard : Str → Option ℕ) (payload : Str) :
    Str → Option ℕ := note uptimeMs heard (s.datagramSender payload)

def noteMqttEvent (s : FirmwareState) (uptimeMs : ℕ) (heard : Str → Option ℕ) :
    MqttTaskEvent → Str → Option ℕ
  | .status _ => heard
  | .roomSummary payload => note uptimeMs heard (s.summarySender payload.items)

end FirmwareState

namespace Device

/-- When the others were heard last, after a round.  Without a network stack all is forgotten;
datagrams are taken while there is a link. -/
def hearing (d : Device) (r : Round) (heard : Str → Option ℕ) : Str → Option ℕ :=
  let before := d.beforePeers r
  let heard :=
    if !before.wifi.stationStack then fun _ => none
    else if !before.state.wifiConnected then heard
    else (r.datagrams.map (·.items)).foldl (before.state.noteDatagram r.now) heard
  r.mqttEvents.foldl (before.state.noteMqttEvent r.now) heard

end Device

/-- A node, with when it heard of the others since it was booted and had a network stack. -/
structure HearingDevice where
  device : Device
  heard : Str → Option ℕ

namespace HearingDevice

def afterEvent (h : HearingDevice) : DeviceEvent → Str → Option ℕ
  | .reboot .. => fun _ => none
  | .round r => h.device.hearing r h.heard

end HearingDevice

/-- The machine of the main loop, which listens. -/
def hearingMachine (httpsOta : Bool) (mac : Vector UInt8 6) : Machine HearingDevice DeviceEvent where
  start h := (deviceMachine httpsOta mac).start h.device ∧ h.heard = fun _ => none
  step h e := ((deviceMachine httpsOta mac).step h.device e).map fun d => ⟨d, h.afterEvent e⟩

/-! ## The table as a store -/

namespace FirmwareState

/-- The times in the table. -/
def held (s : FirmwareState) : Str → Option ℕ :=
  ages UdpDiscoveryPeerState.nodeId UdpDiscoveryPeerState.lastSeenMs s.udpDiscoveryPeers

/-- The table holds, of the nodes that were heard, the ones that were heard last. -/
structure Remembers (s : FirmwareState) (clock : ℕ) (heard : Str → Option ℕ) : Prop where
  nodup : (s.udpDiscoveryPeers.map (·.nodeId)).Nodup
  recalls : Recalls maxUdpDiscoveryPeers udpDiscoveryPeerFreshnessMs clock heard s.held

theorem Remembers.of_same {s s' : FirmwareState} {clock : ℕ} {heard : Str → Option ℕ}
    (h : s.Remembers clock heard) (hsame : s'.udpDiscoveryPeers = s.udpDiscoveryPeers) :
    s'.Remembers clock heard where
  nodup := by
    rw [hsame]
    exact h.nodup
  recalls := by
    rw [held, hsame]
    exact h.recalls

theorem Remembers.later {s : FirmwareState} {clock clock' : ℕ} {heard : Str → Option ℕ}
    (h : s.Remembers clock heard) (hle : clock ≤ clock') : s.Remembers clock' heard :=
  ⟨h.nodup, h.recalls.later hle⟩

theorem remembers_of_nil {s : FirmwareState} (h : s.udpDiscoveryPeers = []) (clock : ℕ) :
    s.Remembers clock fun _ => none where
  nodup := by
    rw [h]
    exact List.nodup_nil
  recalls := by
    rw [held, h]
    exact Recalls.empty ..

theorem Remembers.retainFresh {s : FirmwareState} {uptimeMs : ℕ} {heard : Str → Option ℕ}
    (h : s.Remembers uptimeMs heard) : (s.retainFresh uptimeMs).Remembers uptimeMs heard where
  nodup := h.nodup.sublist (List.filter_sublist.map _)
  recalls := by
    refine recalls_filter h.nodup h.recalls fun peer _ hstale => ?_
    exact not_le.1 (of_decide_eq_false hstale)

/-- Every entry of the node carries the time afterwards. -/
theorem lastSeenMs_upsertPeer {nodeId : Str} {f : UdpDiscoveryPeerState → UdpDiscoveryPeerState}
    {fresh : UdpDiscoveryPeerState} {peers : List UdpDiscoveryPeerState} {uptimeMs : ℕ}
    (hnodup : (peers.map (·.nodeId)).Nodup) (hf : ∀ peer, (f peer).lastSeenMs = uptimeMs)
    (hfresh : fresh.lastSeenMs = uptimeMs) :
    ∀ peer ∈ upsertPeer nodeId f fresh peers, peer.nodeId = nodeId → peer.lastSeenMs = uptimeMs := by
  intro peer hpeer hid
  rcases KeyedStore.mem_upsert hnodup hpeer with ⟨-, hne⟩ | ⟨existing, -, -, rfl⟩ | rfl
  · exact absurd hid hne
  · exact hf existing
  · exact hfresh

/-- A message dates its sender's entry. -/
theorem Remembers.upsert {s : FirmwareState} {uptimeMs : ℕ} {heard : Str → Option ℕ}
    (h : s.Remembers uptimeMs heard) {nodeId : Str} {f : UdpDiscoveryPeerState → UdpDiscoveryPeerState}
    {fresh : UdpDiscoveryPeerState} (hf : ∀ peer, (f peer).nodeId = peer.nodeId)
    (hdate : ∀ peer, (f peer).lastSeenMs = uptimeMs) (hfresh : fresh.nodeId = nodeId)
    (hfreshDate : fresh.lastSeenMs = uptimeMs) :
    Remembers { s with udpDiscoveryPeers := upsertPeer nodeId f fresh s.udpDiscoveryPeers } uptimeMs
      (Function.update heard nodeId (some uptimeMs)) where
  nodup := (upserted_upsertPeer hf hfresh s.udpDiscoveryPeers).nodup h.nodup
  recalls := h.recalls.hear (noted_of_upserted (upserted_upsertPeer hf hfresh s.udpDiscoveryPeers)
    h.nodup (lastSeenMs_upsertPeer h.nodup hdate hfreshDate))

theorem Remembers.syncUdpDiscoveryPeer {s : FirmwareState} {uptimeMs : ℕ} {heard : Str → Option ℕ}
    (h : s.Remembers uptimeMs heard) (payload : Str) :
    (s.syncUdpDiscoveryPeer payload uptimeMs).Remembers uptimeMs
      (note uptimeMs heard (s.discoverySender payload)) := by
  rw [FirmwareState.syncUdpDiscoveryPeer]
  cases s.discoverySender payload with
  | none => exact h
  | some nodeId =>
    refine Remembers.retainFresh ?_
    exact h.upsert (fun _ => rfl) (fun _ => rfl) rfl rfl

theorem Remembers.syncRoomSummaryPeer {s : FirmwareState} {uptimeMs : ℕ} {heard : Str → Option ℕ}
    (h : s.Remembers uptimeMs heard) (payload : Str) :
    (s.syncRoomSummaryPeer payload uptimeMs).Remembers uptimeMs
      (note uptimeMs heard (s.summarySender payload)) := by
  rw [FirmwareState.syncRoomSummaryPeer]
  cases s.summarySender payload with
  | none => exact h
  | some nodeId =>
    exact h.upsert (fun _ => rfl) (fun _ => rfl) rfl rfl

/-! ### A round -/

theorem nodeId_syncUdpDiscoveryPeer (s : FirmwareState) (payload : Str) (uptimeMs : ℕ) :
    (s.syncUdpDiscoveryPeer payload uptimeMs).nodeId = s.nodeId := by
  rw [FirmwareState.syncUdpDiscoveryPeer]
  split <;> rfl

theorem nodeId_syncRoomSummaryPeer (s : FirmwareState) (payload : Str) (uptimeMs : ℕ) :
    (s.syncRoomSummaryPeer payload uptimeMs).nodeId = s.nodeId := by
  obtain ⟨peers, heq⟩ := syncRoomSummaryPeer_eq s payload uptimeMs
  rw [heq]

/-- Of the state only the identifier decides who is heard. -/
theorem summarySender_congr {s s' : FirmwareState} (h : s'.nodeId = s.nodeId) (payload : Str) :
    s'.summarySender payload = s.summarySender payload := by
  simp only [summarySender, otherNode, h]

theorem discoverySender_congr {s s' : FirmwareState} (h : s'.nodeId = s.nodeId) (payload : Str) :
    s'.discoverySender payload = s.discoverySender payload := by
  simp only [discoverySender, otherNode, h]

/-- A datagram that both handlers take is of one node. -/
theorem note_note (s : FirmwareState) (uptimeMs : ℕ) (heard : Str → Option ℕ) (payload : Str) :
    note uptimeMs (note uptimeMs heard (s.discoverySender payload)) (s.summarySender payload) =
      s.noteDatagram uptimeMs heard payload := by
  rw [noteDatagram, datagramSender]
  cases hdiscovery : s.discoverySender payload with
  | none => rfl
  | some nodeId =>
    cases hsummary : s.summarySender payload with
    | none => rfl
    | some nodeId' =>
      have hsame : nodeId' = nodeId := by
        have hother := otherNode_of_discoverySender hdiscovery
        rw [otherNode_of_summarySender hsummary] at hother
        exact Option.some.inj hother
      rw [hsame]
      exact Function.update_idem ..

theorem Remembers.receiveDatagrams {s s₀ : FirmwareState} {uptimeMs : ℕ} {heard : Str → Option ℕ}
    (h : s.Remembers uptimeMs heard) (hid : s.nodeId = s₀.nodeId) (payloads : List Str) :
    (payloads.foldl (fun s payload => s.receiveDatagram payload uptimeMs) s).Remembers uptimeMs
        (payloads.foldl (s₀.noteDatagram uptimeMs) heard) ∧
      (payloads.foldl (fun s payload => s.receiveDatagram payload uptimeMs) s).nodeId = s₀.nodeId := by
  induction payloads generalizing s heard with
  | nil => exact ⟨h, hid⟩
  | cons payload payloads ih =>
    rw [List.foldl_cons, List.foldl_cons]
    have hsync := s.nodeId_syncUdpDiscoveryPeer payload uptimeMs
    refine ih ?_ ?_
    · rw [← note_note, ← discoverySender_congr hid, ← summarySender_congr (hsync.trans hid)]
      exact (h.syncUdpDiscoveryPeer payload).syncRoomSummaryPeer payload
    · exact (nodeId_syncRoomSummaryPeer ..).trans (hsync.trans hid)

theorem Remembers.processUdpDiscovery {s : FirmwareState} {uptimeMs : ℕ} {heard : Str → Option ℕ}
    (h : s.Remembers uptimeMs heard) (station : Bool) (payloads : List Str) (freeHeapBytes : ℕ)
    (sent : Bool) :
    (s.processUdpDiscovery station payloads uptimeMs freeHeapBytes sent).Remembers uptimeMs
        (if !station then fun _ => none else if !s.wifiConnected then heard
          else payloads.foldl (s.noteDatagram uptimeMs) heard) ∧
      (s.processUdpDiscovery station payloads uptimeMs freeHeapBytes sent).nodeId = s.nodeId := by
  rw [FirmwareState.processUdpDiscovery]
  cases station with
  | false => exact ⟨remembers_of_nil rfl uptimeMs, rfl⟩
  | true =>
    cases hwifi : s.wifiConnected with
    | false => exact ⟨h.retainFresh, rfl⟩
    | true =>
      have hannounce : (s.announceIfDue uptimeMs freeHeapBytes sent).udpDiscoveryPeers =
          s.udpDiscoveryPeers ∧ (s.announceIfDue uptimeMs freeHeapBytes sent).nodeId = s.nodeId := by
        rw [announceIfDue]
        split <;> exact ⟨rfl, rfl⟩
      obtain ⟨hreceived, hid⟩ := (h.of_same hannounce.1).receiveDatagrams hannounce.2 payloads
      exact ⟨hreceived.retainFresh, hid⟩

theorem Remembers.applyMqttEvents {s s₀ : FirmwareState} {uptimeMs : ℕ} {heard : Str → Option ℕ}
    (h : s.Remembers uptimeMs heard) (hid : s.nodeId = s₀.nodeId) (events : List MqttTaskEvent) :
    (events.foldl (applyMqttEvent uptimeMs) s).Remembers uptimeMs
      (events.foldl (s₀.noteMqttEvent uptimeMs) heard) := by
  induction events generalizing s heard with
  | nil => exact h
  | cons event events ih =>
    rw [List.foldl_cons, List.foldl_cons]
    cases event with
    | status status => exact ih (h.of_same rfl) hid
    | roomSummary payload =>
      refine ih ?_ ((nodeId_syncRoomSummaryPeer ..).trans hid)
      rw [noteMqttEvent, ← summarySender_congr hid]
      exact h.syncRoomSummaryPeer payload.items

end FirmwareState

namespace Device

/-- What the end of a round does: the table stays, time goes on. -/
structure Passes (d d' : Device) : Prop where
  peers : d'.state.udpDiscoveryPeers = d.state.udpDiscoveryPeers
  clock : d.clock ≤ d'.clock

theorem Passes.trans {d d' d'' : Device} (h : Passes d d') (h' : Passes d' d'') : Passes d d'' :=
  ⟨h'.peers.trans h.peers, h.clock.trans h'.clock⟩

theorem passes_handleCommand (d : Device) {answers : HandlerAnswers} (h : d.clock ≤ answers.replyMs)
    (command : Str) : Passes d (d.handleCommand answers command).1 where
  peers := by
    rw [state_handleCommand]
    exact (identity_handleCommand d.state command answers.uptimeMs).2
  clock := h

theorem passes_processBleScanEvents (d : Device) (events : List BleScanEventMessage) (uptimeMs : ℕ) :
    Passes d (d.processBleScanEvents events uptimeMs) := by
  induction events generalizing d with
  | nil => exact ⟨rfl, le_rfl⟩
  | cons event events ih =>
    have hone : Passes d (d.recordAdvertisement (event.advertisement uptimeMs)) := by
      obtain ⟨f, -, hstate⟩ := d.tags_recordAdvertisement (event.advertisement uptimeMs)
      exact ⟨by rw [hstate], le_rfl⟩
    exact hone.trans (ih _)

theorem passes_serve (httpsOta : Bool) {d : Device} {r : Round} (h : d.clock ≤ r.httpAnswers.replyMs) :
    Passes d (d.serve httpsOta r).1 := by
  unfold Device.serve
  cases r.httpRequest with
  | none =>
    refine ⟨?_, le_rfl⟩
    obtain ⟨sync, hservice⟩ := d.state.serviceFirmwareSync_eq httpsOta r.now r.attempts d.flash
    show (d.state.serviceFirmwareSync httpsOta r.now r.attempts d.flash).1.udpDiscoveryPeers = _
    rw [hservice]
  | some request =>
    cases request with
    | snapshot => exact ⟨rfl, h⟩
    | command command => exact d.passes_handleCommand h command.items

theorem clock_serve_le (httpsOta : Bool) {d : Device} {r : Round} (h : d.clock ≤ r.httpAnswers.replyMs) :
    (d.serve httpsOta r).1.clock ≤ r.httpAnswers.replyMs := by
  unfold Device.serve
  cases r.httpRequest with
  | none => exact h
  | some request => cases request <;> exact le_rfl

theorem passes_readUsb {d : Device} {r : Round} (h : d.clock ≤ r.usbAnswers.replyMs) :
    Passes d (d.readUsb r).1 := by
  unfold Device.readUsb
  cases r.usbByte with
  | none => exact ⟨rfl, le_rfl⟩
  | some byte =>
    dsimp only
    unfold Device.readUsbByte
    split_ifs
    · exact ⟨rfl, le_rfl⟩
    · cases Console.command d.commandBuffer with
      | none => exact ⟨rfl, le_rfl⟩
      | some command =>
        obtain ⟨hpeers, hclock⟩ := d.passes_handleCommand h command
        exact ⟨hpeers, hclock⟩
    · exact ⟨rfl, le_rfl⟩

/-- What comes behind the listening of a round. -/
theorem passes_round (httpsOta : Bool) {d : Device} {r : Round} (hr : r.InTime d.clock) :
    Passes (d.listen r).1 (d.round httpsOta r).1 := by
  rw [round_eq]
  have hble : Passes (d.listen r).1 (d.receive r).1 := passes_processBleScanEvents ..
  have hclock : (d.receive r).1.clock ≤ r.httpAnswers.replyMs := by
    rw [d.clock_receive r]
    exact hr.http.1.trans hr.http.2
  refine (hble.trans (passes_serve httpsOta hclock)).trans (Passes.trans ?_ (passes_readUsb ?_))
  · exact ⟨(FirmwareState.work_pollPresence _ r.presencePin r.now).udpDiscoveryPeers, le_rfl⟩
  · exact (clock_serve_le httpsOta hclock).trans (hr.usb.1.trans hr.usb.2)

/-- A node remembers whom it heard, up to its clock. -/
def Remembers (d : Device) (heard : Str → Option ℕ) : Prop := d.state.Remembers d.clock heard

/-- Radar and radio leave the table alone. -/
theorem peers_beforePeers (d : Device) (r : Round) :
    (d.beforePeers r).state.udpDiscoveryPeers = d.state.udpDiscoveryPeers :=
  (FirmwareState.work_pollWifiRuntime r.radio r.now
      { d.wifi with state := (d.state.pollRadarUart ⟨r.now, r.radarReads⟩).1 }).udpDiscoveryPeers.trans
    (FirmwareState.work_pollRadarUart d.state ⟨r.now, r.radarReads⟩).udpDiscoveryPeers

/-- One round. -/
theorem Remembers.round {d : Device} {heard : Str → Option ℕ} (h : d.Remembers heard) (httpsOta : Bool)
    {r : Round} (hr : r.InTime d.clock) : (d.round httpsOta r).1.Remembers (d.hearing r heard) := by
  have hbefore : (d.beforePeers r).state.Remembers r.now heard :=
    (FirmwareState.Remembers.later h hr.now).of_same (d.peers_beforePeers r)
  obtain ⟨hdiscovery, hid⟩ := hbefore.processUdpDiscovery (d.beforePeers r).wifi.stationStack
    (r.datagrams.map (·.items)) r.freeHeapBytes r.announceTaken
  have hevents := hdiscovery.applyMqttEvents hid r.mqttEvents
  have hlistened : (d.listen r).1.state.Remembers r.now (d.hearing r heard) :=
    hevents.of_same (FirmwareState.work_processMqttRuntime r.now _ r.mqttEvents r.configSent
      r.summarySent).udpDiscoveryPeers
  obtain ⟨hpeers, hclock⟩ := passes_round httpsOta hr
  exact (hlistened.of_same hpeers).later hclock

theorem remembers_boot (mac : Vector UInt8 6) (stored : Nvs) (settingsOpen : Bool) (flash : OtaFlash)
    (reason : Str) (benchmark : Option RuntimeBenchmarkSnapshot) (presencePin : Bool) (uptimeMs : ℕ) :
    (Device.boot mac stored settingsOpen flash reason benchmark presencePin uptimeMs).Remembers
      fun _ => none := by
  refine FirmwareState.remembers_of_nil ?_ _
  exact (FirmwareState.work_pollPresence _ presencePin uptimeMs).udpDiscoveryPeers.trans
    (udpDiscoveryPeers_bootState mac _)

end Device

theorem step_hearing {httpsOta : Bool} {mac : Vector UInt8 6} {d : Device} {heard : Str → Option ℕ}
    {r : Round} (h : r.InTime d.clock) : (hearingMachine httpsOta mac).step ⟨d, heard⟩ (.round r) =
      some ⟨(d.round httpsOta r).1, d.hearing r heard⟩ :=
  congrArg (Option.map fun d' => (⟨d', d.hearing r heard⟩ : HearingDevice)) (step_round h)

theorem remembers_of_reach {httpsOta : Bool} {mac : Vector UInt8 6} {h : HearingDevice}
    (hreach : (hearingMachine httpsOta mac).Reach Always h) : h.device.Remembers h.heard := by
  refine hreach.invariant (I := fun h => h.device.Remembers h.heard) ?_ ?_
  · rintro ⟨d, heard⟩ ⟨⟨stored, settingsOpen, flash, reason, benchmark, presencePin, uptimeMs, -, hboot⟩,
      hheard⟩
    dsimp only at hboot hheard ⊢
    rw [hboot, hheard]
    exact Device.remembers_boot ..
  · intro h e h' hremembers _ hstep
    obtain ⟨d, hdevice, rfl⟩ := Option.map_eq_some_iff.1 hstep
    cases e with
    | reboot settingsOpen reason benchmark presencePin uptimeMs =>
      simp only [deviceMachine] at hdevice
      split_ifs at hdevice
      cases hdevice
      exact Device.remembers_boot ..
    | round r =>
      simp only [deviceMachine] at hdevice
      split_ifs at hdevice with hr
      cases hdevice
      exact hremembers.round httpsOta hr

/-! ## Which nodes are shown -/

namespace FirmwareState

/-- The node is in the list of peers of a snapshot. -/
def ShowsPeer (s : FirmwareState) (uptimeMs : ℕ) (nodeId : Str) : Prop :=
  ∃ peer ∈ s.activeUdpDiscoveryPeers uptimeMs, peer.nodeId = nodeId

theorem showsPeer_iff {s : FirmwareState} (h : (s.udpDiscoveryPeers.map (·.nodeId)).Nodup)
    (uptimeMs : ℕ) (nodeId : Str) :
    s.ShowsPeer uptimeMs nodeId ↔ Recent udpDiscoveryPeerFreshnessMs uptimeMs s.held nodeId := by
  rw [ShowsPeer, activeUdpDiscoveryPeers]
  constructor
  · rintro ⟨_, hpeer, rfl⟩
    obtain ⟨peer, hkept, rfl⟩ := List.mem_map.1 hpeer
    obtain ⟨hmem, hfresh⟩ := List.mem_filter.1 hkept
    exact ⟨peer.lastSeenMs, ages_of_mem h hmem, of_decide_eq_true hfresh⟩
  · rintro ⟨t, ht, hfresh⟩
    obtain ⟨peer, hmem, rfl, rfl⟩ := exists_mem_of_ages ht
    exact ⟨peer.snapshot uptimeMs,
      List.mem_map.2 ⟨peer, List.mem_filter.2 ⟨hmem, decide_eq_true hfresh⟩, rfl⟩, rfl⟩

theorem Remembers.showsRecent {s : FirmwareState} {uptimeMs : ℕ} {heard : Str → Option ℕ}
    (h : s.Remembers uptimeMs heard) : ShowsRecent maxUdpDiscoveryPeers udpDiscoveryPeerFreshnessMs
      uptimeMs heard (s.ShowsPeer uptimeMs) := by
  have hshown : s.ShowsPeer uptimeMs = Recent udpDiscoveryPeerFreshnessMs uptimeMs s.held :=
    funext fun nodeId => propext (showsPeer_iff h.nodup uptimeMs nodeId)
  rw [hshown]
  exact h.recalls.showsRecent

end FirmwareState

/-- In every run of the main loop a snapshot lists a node while it was heard of within 20 seconds and
fewer than twelve others were heard of since, and lists it once. -/
theorem device_shows_recent {httpsOta : Bool} {mac : Vector UInt8 6} {h : HearingDevice}
    (hreach : (hearingMachine httpsOta mac).Reach Always h) {uptimeMs : ℕ}
    (hclock : h.device.clock ≤ uptimeMs) :
    ShowsRecent maxUdpDiscoveryPeers udpDiscoveryPeerFreshnessMs uptimeMs h.heard
        (h.device.state.ShowsPeer uptimeMs) ∧
      ((h.device.state.activeUdpDiscoveryPeers uptimeMs).map (·.nodeId)).Nodup := by
  have hremembers := (remembers_of_reach hreach).later hclock
  refine ⟨hremembers.showsRecent, ?_⟩
  rw [FirmwareState.activeUdpDiscoveryPeers, List.map_map]
  exact hremembers.nodup.sublist (List.filter_sublist.map _)

end Firmware

namespace Firmware

theorem inTime_quietRound : (quietRound 1000).InTime factoryDevice.clock := by decide

theorem inTime_announcedRound : announcedRound.InTime upDevice.clock := by decide +kernel

theorem hearing_quietRound : factoryDevice.hearing (quietRound 1000) (fun _ => none) = fun _ => none :=
  rfl

theorem datagramSender_announcementText :
    (upDevice.beforePeers announcedRound).state.datagramSender (Cpp.announcementText cppDen) =
      some denId := by
  decide +kernel

theorem hearing_announcedRound : upDevice.hearing announcedRound (fun _ => none) =
    Function.update (fun _ => none) denId (some 2000) := by
  show FirmwareState.note 2000 (fun _ => none)
    ((upDevice.beforePeers announcedRound).state.datagramSender (Cpp.announcementText cppDen)) = _
  rw [datagramSender_announcementText]
  rfl

/-- The Rust node has heard the other one at 2000. -/
theorem reach_toldDevice : (hearingMachine true hallMac).Reach Always
    ⟨toldDevice, Function.update (fun _ => none) denId (some 2000)⟩ := by
  have hstart : (hearingMachine true hallMac).Reach Always ⟨factoryDevice, fun _ => none⟩ :=
    .start ⟨start_factoryDevice, rfl⟩
  have hup := hstart.step trivial (step_hearing inTime_quietRound)
  rw [hearing_quietRound] at hup
  have htold := hup.step trivial (step_hearing inTime_announcedRound)
  rw [← hearing_announcedRound]
  exact htold

end Firmware

theorem recent_update_iff {window now time : ℕ} {nodeId : Str} (h : now - time ≤ window) (k : Str) :
    Recent window now (Function.update (fun _ => none) nodeId (some time)) k ↔ k = nodeId := by
  constructor
  · rintro ⟨t, ht, -⟩
    by_contra hk
    rw [Function.update_of_ne hk] at ht
    cases ht
  · rintro rfl
    exact ⟨time, Function.update_self .., h⟩

namespace Cpp

def atticNode : CppNode := { listeningNode with config := { nodeId := "attic" } }

def denPacket : UdpPacket where
  payload := announcementText cppDen
  remoteIP := "10.0.0.7"
  time := 4000

def denRound : UdpRound := { listeningRound with packets := [denPacket] }

theorem announcementSender_denPacket :
    announcementSender atticNode.config.nodeId denPacket.payload = some denId := by
  decide +kernel

theorem heard_denRound (s : UdpDiscovery) :
    (UdpRun.service ⟨s, 0, fun _ => none⟩ atticNode denRound).heard =
      Function.update (fun _ => none) denId (some 4000) := by
  show UdpRun.note atticNode (fun _ => none) denPacket = _
  rw [UdpRun.note, announcementSender_denPacket]
  rfl

/-- The C++ node has heard it at 4000. -/
theorem reach_denRound : ∃ s, udpMachine.Reach Always s ∧ s.clock = 5001 ∧
    s.heard = Function.update (fun _ => none) denId (some 4000) :=
  ⟨_, .step (.start rfl) trivial (@step_udpMachine _ atticNode denRound (by decide)
    (by decide)), rfl, heard_denRound {}⟩

end Cpp

theorem device_shows_recent_of_announcement :
    ShowsRecent maxUdpDiscoveryPeers udpDiscoveryPeerFreshnessMs 3000
      (Function.update (fun _ => none) denId (some 2000)) (toldDevice.state.ShowsPeer 3000) :=
  (device_shows_recent reach_toldDevice (by decide +kernel)).1

end EspWaveRider
