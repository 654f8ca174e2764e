import EspWaveRider.Firmware.MainLoop

/-!
# The phases of a round

What the phases of the main loop of `rust/firmware/esp32s3/src/main.rs` leave alone, and when the
times that they note are.

* `Work` — work that has no part in settings, tags, updates and peers, at a given time;
* `work_pollRadarUart`, `work_pollWifiRuntime`, `work_pollPresence` — so for radar, radio and
  presence;
* `work_processUdpDiscovery`, `work_processMqttRuntime` — and for the network, but for the peers;
* `PeersTabled` — what the table of the peers is like.
-/

namespace EspWaveRider.Firmware

open Text Radar Command

/-! ## Times -/

/-- The times that a state remembers. -/
inductive TimeMark where
  | udpAnnounce
  | roomSummaryPublish
  | presencePoll
  | detection
  | radarByte
  | wifiAttempt
  | wifiStatusPoll

namespace FirmwareState

def mark (s : FirmwareState) : TimeMark → ℕ
  | .udpAnnounce => s.lastUdpDiscoveryAnnounceMs
  | .roomSummaryPublish => s.lastMqttRoomSummaryPublishMs
  | .presencePoll => s.lastPresencePollMs
  | .detection => s.lastDetectionMs
  | .radarByte => s.lastRadarByteMs
  | .wifiAttempt => s.lastWifiAttemptMs
  | .wifiStatusPoll => s.lastWifiStatusPollMs

/-- Settings and identity, updates and tags are as before, and so are the peers; no time is noted
that is still to come. -/
structure Work (uptimeMs : ℕ) (s s' : FirmwareState) : Prop where
  setting : ∀ k : Setting, s'.setting k = s.setting k
  macAddress : s'.macAddress = s.macAddress
  bootCount : s'.bootCount = s.bootCount
  bleIdentityTags : s'.bleIdentityTags = s.bleIdentityTags
  firmwareSyncState : s'.firmwareSyncState = s.firmwareSyncState
  udpDiscoveryPeers : s'.udpDiscoveryPeers = s.udpDiscoveryPeers
  mark : ∀ m : TimeMark, s'.mark m ≤ max (s.mark m) uptimeMs

theorem Work.refl (uptimeMs : ℕ) (s : FirmwareState) : Work uptimeMs s s :=
  ⟨fun _ => rfl, rfl, rfl, rfl, rfl, rfl, fun _ => le_max_left _ _⟩

theorem Work.trans {uptimeMs : ℕ} {s t u : FirmwareState} (h : Work uptimeMs s t)
    (h' : Work uptimeMs t u) : Work uptimeMs s u where
  setting k := (h'.setting k).trans (h.setting k)
  macAddress := h'.macAddress.trans h.macAddress
  bootCount := h'.bootCount.trans h.bootCount
  bleIdentityTags := h'.bleIdentityTags.trans h.bleIdentityTags
  firmwareSyncState := h'.firmwareSyncState.trans h.firmwareSyncState
  udpDiscoveryPeers := h'.udpDiscoveryPeers.trans h.udpDiscoveryPeers
  mark m := (h'.mark m).trans (max_le (h.mark m) (le_max_right _ _))

/-- Work that notes no time. -/
theorem Work.of_same {uptimeMs : ℕ} {s s' : FirmwareState}
    (hsetting : ∀ k : Setting, s'.setting k = s.setting k)
    (hmark : ∀ m : TimeMark, s'.mark m = s.mark m)
    (hrest : s'.macAddress = s.macAddress ∧ s'.bootCount = s.bootCount ∧
      s'.bleIdentityTags = s.bleIdentityTags ∧ s'.firmwareSyncState = s.firmwareSyncState ∧
      s'.udpDiscoveryPeers = s.udpDiscoveryPeers) : Work uptimeMs s s' :=
  ⟨hsetting, hrest.1, hrest.2.1, hrest.2.2.1, hrest.2.2.2.1, hrest.2.2.2.2,
    fun m => (hmark m).le.trans (le_max_left _ _)⟩

/-! ## Radar -/

section Radar

variable (uptimeMs : ℕ)

theorem work_noteRadarByte (s : FirmwareState) : Work uptimeMs s (s.noteRadarByte uptimeMs) := by
  refine ⟨fun k => by cases k <;> rfl, rfl, rfl, rfl, rfl, rfl, fun m => ?_⟩
  cases m with
  | radarByte => exact le_max_right _ _
  | _ => exact le_max_left _ _

theorem work_setRadarBuffer (s : FirmwareState) (buffer : HVec UInt8 radarFrameBufferSize) :
    Work uptimeMs s (s.setRadarBuffer buffer) :=
  .of_same (fun k => by cases k <;> rfl) (fun m => by cases m <;> rfl) ⟨rfl, rfl, rfl, rfl, rfl⟩

theorem work_applyRadarFrame (s : FirmwareState) (frame : RadarFrame) :
    Work uptimeMs s (s.applyRadarFrame frame) := by
  cases frame <;>
    exact .of_same (fun k => by cases k <;> rfl) (fun m => by cases m <;> rfl)
      ⟨rfl, rfl, rfl, rfl, rfl⟩

theorem work_syncRadarDetectionState (s : FirmwareState) :
    Work uptimeMs s (s.syncRadarDetectionState uptimeMs) := by
  refine ⟨fun k => by cases k <;> rfl, rfl, rfl, rfl, rfl, rfl, fun m => ?_⟩
  cases m with
  | detection =>
    show (if _ then uptimeMs else s.lastDetectionMs) ≤ max s.lastDetectionMs uptimeMs
    split
    · exact le_max_right _ _
    · exact le_max_left _ _
  | _ => exact le_max_left _ _

theorem work_flushRadarBufferIfNeeded (s : FirmwareState) (force : Bool) :
    Work uptimeMs s (s.flushRadarBufferIfNeeded uptimeMs force).1 := by
  unfold flushRadarBufferIfNeeded
  dsimp only
  split
  · exact .refl uptimeMs s
  · have hemptied := work_setRadarBuffer uptimeMs s Bounded.empty
    split
    · exact (hemptied.trans (work_applyRadarFrame uptimeMs _ _)).trans
        (work_syncRadarDetectionState uptimeMs _)
    · exact hemptied

theorem work_pushRadarByte (s : FirmwareState) (byte : UInt8) :
    Work uptimeMs s (s.pushRadarByte uptimeMs byte).1 := by
  unfold pushRadarByte
  dsimp only
  refine Work.trans ?_ (work_setRadarBuffer uptimeMs _ _)
  split
  · exact (work_noteRadarByte uptimeMs s).trans (work_flushRadarBufferIfNeeded uptimeMs _ true)
  · exact work_noteRadarByte uptimeMs s

theorem work_pushRadarBytes (s : FirmwareState) (bytes : List UInt8) :
    Work uptimeMs s (pushRadarBytes uptimeMs s bytes).1 := by
  induction bytes generalizing s with
  | nil => exact .refl uptimeMs s
  | cons byte bytes ih => exact (work_pushRadarByte uptimeMs s byte).trans (ih _)

theorem work_readRadarUart (s : FirmwareState) (reads : List (Option (HVec UInt8 32))) :
    Work uptimeMs s (readRadarUart uptimeMs s reads).1 := by
  induction reads generalizing s with
  | nil => exact .refl uptimeMs s
  | cons read reads ih =>
    cases read with
    | none => exact .refl uptimeMs s
    | some chunk =>
      rw [readRadarUart]
      split
      · exact .refl uptimeMs s
      · exact (work_pushRadarBytes uptimeMs s chunk.items).trans (ih _)

end Radar

theorem work_pollRadarUart (s : FirmwareState) (poll : UartPoll) :
    Work poll.uptime s (s.pollRadarUart poll).1 :=
  (work_readRadarUart poll.uptime s poll.reads).trans
    (work_flushRadarBufferIfNeeded poll.uptime _ false)

/-! ## Presence -/

theorem work_pollPresence (s : FirmwareState) (gpioPresence : Bool) (uptimeMs : ℕ) :
    Work uptimeMs s (s.pollPresence gpioPresence uptimeMs) := by
  unfold pollPresence
  split
  · exact .refl uptimeMs s
  · dsimp only
    set polled : FirmwareState := { s with lastPresencePollMs := uptimeMs, gpioPresence }
    have hpolled : Work uptimeMs s polled := by
      refine ⟨fun k => by cases k <;> rfl, rfl, rfl, rfl, rfl, rfl, fun m => ?_⟩
      cases m with
      | presencePoll => exact le_max_right _ _
      | _ => exact le_max_left _ _
    have hsampled := hpolled.trans (work_syncRadarDetectionState uptimeMs polled)
    generalize polled.syncRadarDetectionState uptimeMs = sampled at hsampled
    refine hsampled.trans ?_
    split_ifs
    · exact .of_same (fun k => by cases k <;> rfl) (fun m => by cases m <;> rfl)
        ⟨rfl, rfl, rfl, rfl, rfl⟩
    · exact .of_same (fun k => by cases k <;> rfl) (fun m => by cases m <;> rfl)
        ⟨rfl, rfl, rfl, rfl, rfl⟩
    · exact .refl uptimeMs _

/-! ## Radio -/

section Radio

variable (radio : RadioAnswers) (uptimeMs : ℕ)

theorem work_markWifiDisconnected (s : FirmwareState) (reasonText : Str) :
    Work uptimeMs s (s.markWifiDisconnected reasonText) :=
  .of_same (fun k => by cases k <;> rfl) (fun m => by cases m <;> rfl) ⟨rfl, rfl, rfl, rfl, rfl⟩

theorem work_markWifiConnectError (s : FirmwareState) (err : WifiError) :
    Work uptimeMs s (s.markWifiConnectError err) := by
  cases err <;>
    exact .of_same (fun k => by cases k <;> rfl) (fun m => by cases m <;> rfl)
      ⟨rfl, rfl, rfl, rfl, rfl⟩

theorem work_noteAttempt {uptimeMs attempted : ℕ} (h : attempted ≤ uptimeMs) (s : FirmwareState) :
    Work uptimeMs s { s with lastWifiAttemptMs := attempted } := by
  refine ⟨fun k => by cases k <;> rfl, rfl, rfl, rfl, rfl, rfl, fun m => ?_⟩
  cases m with
  | wifiAttempt => exact h.trans (le_max_right _ _)
  | _ => exact le_max_left _ _

theorem work_attemptWifiConnect (s : FirmwareState) :
    Work uptimeMs s (s.attemptWifiConnect radio uptimeMs) := by
  unfold attemptWifiConnect
  dsimp only
  refine Work.trans ?_ (work_noteAttempt le_rfl _)
  split
  · exact .of_same (fun k => by cases k <;> rfl) (fun m => by cases m <;> rfl)
      ⟨rfl, rfl, rfl, rfl, rfl⟩
  · exact work_markWifiConnectError uptimeMs s _
  · exact .of_same (fun k => by cases k <;> rfl) (fun m => by cases m <;> rfl)
      ⟨rfl, rfl, rfl, rfl, rfl⟩

theorem work_noteLink (s : FirmwareState) : Work uptimeMs s (s.noteLink radio uptimeMs) := by
  unfold noteLink
  dsimp only
  set linked : FirmwareState := { s with
    wifiConnected := true, wifiDisconnectReason := 0, wifiDisconnectReasonText := "connected" }
  have hlinked : Work uptimeMs s linked :=
    .of_same (fun k => by cases k <;> rfl) (fun m => by cases m <;> rfl) ⟨rfl, rfl, rfl, rfl, rfl⟩
  split
  · have hpolled : Work uptimeMs linked { linked with lastWifiStatusPollMs := uptimeMs } := by
      refine ⟨fun k => by cases k <;> rfl, rfl, rfl, rfl, rfl, rfl, fun m => ?_⟩
      cases m with
      | wifiStatusPoll => exact le_max_right _ _
      | _ => exact le_max_left _ _
    refine (hlinked.trans hpolled).trans ?_
    cases radio.apInfo <;> cases radio.rssi <;>
      exact .of_same (fun k => by cases k <;> rfl) (fun m => by cases m <;> rfl)
        ⟨rfl, rfl, rfl, rfl, rfl⟩
  · exact hlinked

theorem work_noteNoLink (s : FirmwareState) : Work uptimeMs s s.noteNoLink := by
  unfold noteNoLink
  split_ifs
  all_goals
    first
      | exact work_markWifiDisconnected uptimeMs s _
      | exact .of_same (fun k => by cases k <;> rfl) (fun m => by cases m <;> rfl)
          ⟨rfl, rfl, rfl, rfl, rfl⟩

theorem work_watchLink (s : FirmwareState) :
    Work uptimeMs s (WifiRuntime.watchLink s radio uptimeMs) := by
  unfold WifiRuntime.watchLink
  split
  · exact work_noteLink radio uptimeMs s
  · dsimp only
    split
    · exact (work_noteNoLink uptimeMs s).trans (work_attemptWifiConnect radio uptimeMs _)
    · exact work_noteNoLink uptimeMs s

theorem work_controllerFailed (w : WifiRuntime) (stage : Str) (err : WifiError) :
    Work uptimeMs w.state (w.controllerFailed stage err).state :=
  .of_same (fun k => by cases k <;> rfl) (fun m => by cases m <;> rfl) ⟨rfl, rfl, rfl, rfl, rfl⟩

theorem work_networkFailed (w : WifiRuntime) (err : Str) :
    Work uptimeMs w.state (w.networkFailed err).state :=
  .of_same (fun k => by cases k <;> rfl) (fun m => by cases m <;> rfl) ⟨rfl, rfl, rfl, rfl, rfl⟩

theorem work_installController (w : WifiRuntime) :
    Work uptimeMs w.state (w.installController radio uptimeMs).state := by
  unfold WifiRuntime.installController
  cases radio.setConfig with
  | error err => exact work_controllerFailed uptimeMs w _ err
  | ok _ =>
    dsimp only
    split_ifs
    · have hconnecting : Work uptimeMs w.state { w.state with
          wifiRuntimeStarted := true
          wifiConnected := false
          wifiDisconnectReason := 0
          wifiDisconnectReasonText := defaultWifiConnectingReasonText
          wifiReconfigurePending := false } :=
        .of_same (fun k => by cases k <;> rfl) (fun m => by cases m <;> rfl)
          ⟨rfl, rfl, rfl, rfl, rfl⟩
      exact hconnecting.trans (work_noteAttempt (Nat.sub_le uptimeMs wifiConnectRetryMs) _)
    · exact .of_same (fun k => by cases k <;> rfl) (fun m => by cases m <;> rfl)
        ⟨rfl, rfl, rfl, rfl, rfl⟩

theorem work_bringUp (w : WifiRuntime) : Work uptimeMs w.state (w.bringUp radio uptimeMs).state := by
  have heffect := w.bringUpEffect_bringUp radio uptimeMs
  generalize w.bringUp radio uptimeMs = v at heffect
  cases heffect with
  | installed hprepared _ _ =>
    rw [← hprepared.state]
    exact work_installController radio uptimeMs _
  | networkFailed err hprepared _ _ =>
    rw [← hprepared.state]
    exact work_networkFailed uptimeMs _ err
  | newFailed err _ => exact work_controllerFailed uptimeMs w _ err

theorem work_reconfigure (w : WifiRuntime) :
    Work uptimeMs w.state (w.reconfigure radio uptimeMs).state := by
  have hdone (s : FirmwareState) : Work uptimeMs s { s with wifiReconfigurePending := false } :=
    .of_same (fun k => by cases k <;> rfl) (fun m => by cases m <;> rfl) ⟨rfl, rfl, rfl, rfl, rfl⟩
  unfold WifiRuntime.reconfigure
  cases radio.setConfig with
  | error err => exact (work_controllerFailed uptimeMs w _ err).trans (hdone _)
  | ok _ =>
    dsimp only
    have hstarted : Work uptimeMs w.state { w.state with wifiRuntimeStarted := true } :=
      .of_same (fun k => by cases k <;> rfl) (fun m => by cases m <;> rfl) ⟨rfl, rfl, rfl, rfl, rfl⟩
    refine Work.trans ?_ (hdone _)
    split
    · exact hstarted.trans (work_attemptWifiConnect radio uptimeMs _)
    · exact hstarted.trans (work_markWifiDisconnected uptimeMs _ _)

theorem work_serviceController (w : WifiRuntime) :
    Work uptimeMs w.state (w.serviceController radio uptimeMs).state := by
  unfold WifiRuntime.serviceController
  dsimp only
  set channeled : FirmwareState :=
    { w.state with wifiChannel := radio.channel.getD w.state.wifiChannel }
  have hchannel : Work uptimeMs w.state channeled :=
    .of_same (fun k => by cases k <;> rfl) (fun m => by cases m <;> rfl) ⟨rfl, rfl, rfl, rfl, rfl⟩
  split
  · have hreconfigured := hchannel.trans
      (work_reconfigure radio uptimeMs { w with state := channeled })
    exact hreconfigured.trans (work_watchLink radio uptimeMs _)
  · exact hchannel.trans (work_watchLink radio uptimeMs _)

theorem work_pollWifiRuntime (w : WifiRuntime) :
    Work uptimeMs w.state (w.pollWifiRuntime radio uptimeMs).state := by
  have haddress : Work uptimeMs w.state
      (if w.stationStack then w.state.syncIpConfig radio.configV4 else w.state.clearIpConfig) := by
    split
    · cases radio.configV4 <;>
        exact .of_same (fun k => by cases k <;> rfl) (fun m => by cases m <;> rfl)
          ⟨rfl, rfl, rfl, rfl, rfl⟩
    · exact .of_same (fun k => by cases k <;> rfl) (fun m => by cases m <;> rfl)
        ⟨rfl, rfl, rfl, rfl, rfl⟩
  unfold WifiRuntime.pollWifiRuntime
  dsimp only
  split
  · split
    · exact haddress.trans
        (work_bringUp radio uptimeMs { w with state := _, wifiDevice := false })
    · exact haddress
  · exact haddress.trans (work_serviceController radio uptimeMs { w with state := _ })

end Radio

/-! ## The network -/

/-- The same, but for the peers. -/
def NetworkWork (uptimeMs : ℕ) (s s' : FirmwareState) : Prop :=
  Work uptimeMs { s with udpDiscoveryPeers := s'.udpDiscoveryPeers } s'

theorem Work.networkWork {uptimeMs : ℕ} {s s' : FirmwareState} (h : Work uptimeMs s s') :
    NetworkWork uptimeMs s s' :=
  ⟨fun k => (h.setting k).trans (by cases k <;> rfl), h.macAddress, h.bootCount, h.bleIdentityTags,
    h.firmwareSyncState, rfl, fun m => (h.mark m).trans (le_of_eq (by cases m <;> rfl))⟩

theorem NetworkWork.of_peers (uptimeMs : ℕ) (s : FirmwareState) (peers : List UdpDiscoveryPeerState) :
    NetworkWork uptimeMs s { s with udpDiscoveryPeers := peers } :=
  Work.refl uptimeMs _

theorem NetworkWork.trans {uptimeMs : ℕ} {s t u : FirmwareState} (h : NetworkWork uptimeMs s t)
    (h' : NetworkWork uptimeMs t u) : NetworkWork uptimeMs s u where
  setting k := (h'.setting k).trans (((by cases k <;> rfl : _ = t.setting k)).trans
    ((h.setting k).trans (by cases k <;> rfl)))
  macAddress := h'.macAddress.trans h.macAddress
  bootCount := h'.bootCount.trans h.bootCount
  bleIdentityTags := h'.bleIdentityTags.trans h.bleIdentityTags
  firmwareSyncState := h'.firmwareSyncState.trans h.firmwareSyncState
  udpDiscoveryPeers := rfl
  mark m := by
    have ht : t.mark m ≤ max (s.mark m) uptimeMs :=
      (h.mark m).trans (le_of_eq (by cases m <;> rfl))
    have hu : u.mark m ≤ max (t.mark m) uptimeMs :=
      (h'.mark m).trans (le_of_eq (by cases m <;> rfl))
    refine (hu.trans (max_le ht (le_max_right _ _))).trans (le_of_eq ?_)
    cases m <;> rfl

section Network

variable (uptimeMs : ℕ)

theorem networkWork_syncUdpDiscoveryPeer (s : FirmwareState) (payload : Str) :
    NetworkWork uptimeMs s (s.syncUdpDiscoveryPeer payload uptimeMs) := by
  unfold syncUdpDiscoveryPeer
  split
  · exact (Work.refl uptimeMs s).networkWork
  · exact NetworkWork.of_peers uptimeMs s _

theorem networkWork_syncRoomSummaryPeer (s : FirmwareState) (payload : Str) :
    NetworkWork uptimeMs s (s.syncRoomSummaryPeer payload uptimeMs) := by
  obtain ⟨peers, hsync⟩ := s.syncRoomSummaryPeer_eq payload uptimeMs
  rw [hsync]
  exact NetworkWork.of_peers uptimeMs s peers

theorem networkWork_receiveDatagrams (s : FirmwareState) (payloads : List Str) :
    NetworkWork uptimeMs s (payloads.foldl (fun s payload => s.receiveDatagram payload uptimeMs) s) := by
  induction payloads generalizing s with
  | nil => exact (Work.refl uptimeMs s).networkWork
  | cons payload payloads ih =>
    exact ((networkWork_syncUdpDiscoveryPeer uptimeMs s payload).trans
      (networkWork_syncRoomSummaryPeer uptimeMs _ payload)).trans (ih _)

theorem work_announceIfDue (s : FirmwareState) (freeHeapBytes : ℕ) (sent : Bool) :
    Work uptimeMs s (s.announceIfDue uptimeMs freeHeapBytes sent) := by
  unfold announceIfDue
  split
  · refine ⟨fun k => by cases k <;> rfl, rfl, rfl, rfl, rfl, rfl, fun m => ?_⟩
    cases m with
    | udpAnnounce => exact le_max_right _ _
    | _ => exact le_max_left _ _
  · exact .refl uptimeMs s

theorem networkWork_processUdpDiscovery (s : FirmwareState) (station : Bool) (payloads : List Str)
    (freeHeapBytes : ℕ) (sent : Bool) :
    NetworkWork uptimeMs s (s.processUdpDiscovery station payloads uptimeMs freeHeapBytes sent) := by
  unfold processUdpDiscovery
  split
  · -- forgetting when it announced itself is no time to come
    refine ⟨fun k => by cases k <;> rfl, rfl, rfl, rfl, rfl, rfl, fun m => ?_⟩
    cases m with
    | udpAnnounce => exact Nat.zero_le _
    | _ => exact le_max_left _ _
  · split
    · exact NetworkWork.of_peers uptimeMs s _
    · exact ((work_announceIfDue uptimeMs s freeHeapBytes sent).networkWork.trans
        (networkWork_receiveDatagrams uptimeMs _ payloads)).trans (NetworkWork.of_peers uptimeMs _ _)

theorem networkWork_applyMqttEvent (s : FirmwareState) (event : MqttTaskEvent) :
    NetworkWork uptimeMs s (s.applyMqttEvent uptimeMs event) := by
  cases event with
  | status status =>
    refine Work.networkWork (.of_same (fun k => ?_) (fun m => ?_) ⟨rfl, rfl, rfl, rfl, rfl⟩)
    · cases k <;> rfl
    · cases m <;> rfl
  | roomSummary payload => exact networkWork_syncRoomSummaryPeer uptimeMs s payload.items

theorem networkWork_applyMqttEvents (s : FirmwareState) (events : List MqttTaskEvent) :
    NetworkWork uptimeMs s (events.foldl (applyMqttEvent uptimeMs) s) := by
  induction events generalizing s with
  | nil => exact (Work.refl uptimeMs s).networkWork
  | cons event events ih => exact (networkWork_applyMqttEvent uptimeMs s event).trans (ih _)

theorem work_announceMqttConfig (s : FirmwareState) (sent : Bool) :
    Work uptimeMs s (s.announceMqttConfig sent).1 := by
  rcases s.announceMqttConfig_cases sent with hkept | hsent
  · rw [hkept]
    exact .refl uptimeMs s
  · rw [hsent]
    exact .of_same (fun k => by cases k <;> rfl) (fun m => by cases m <;> rfl)
      ⟨rfl, rfl, rfl, rfl, rfl⟩

theorem work_publishRoomSummary (s : FirmwareState) (sent : Bool) :
    Work uptimeMs s (s.publishRoomSummary uptimeMs sent).1 := by
  rcases s.publishRoomSummary_cases uptimeMs sent with hquiet | ⟨message, hsummary⟩
  · rw [hquiet]
    exact .refl uptimeMs s
  · rw [hsummary]
    refine ⟨fun k => by cases k <;> rfl, rfl, rfl, rfl, rfl, rfl, fun m => ?_⟩
    cases m with
    | roomSummaryPublish => exact le_max_right _ _
    | _ => exact le_max_left _ _

/-- Behind the events there is only work. -/
theorem work_processMqttRuntime (s : FirmwareState) (events : List MqttTaskEvent)
    (configSent summarySent : Bool) :
    Work uptimeMs (events.foldl (applyMqttEvent uptimeMs) s)
      (s.processMqttRuntime events uptimeMs configSent summarySent).1 :=
  (work_announceMqttConfig uptimeMs _ configSent).trans
    (work_publishRoomSummary uptimeMs _ summarySent)

end Network

end FirmwareState

/-! ## The table of the peers -/

/-- Few entries, each of another node, none of them from the future. -/
structure PeersTabled (peers : List UdpDiscoveryPeerState) (clock : ℕ) : Prop where
  length_le : peers.length ≤ maxUdpDiscoveryPeers
  nodup : (peers.map (·.nodeId)).Nodup
  heard : ∀ peer ∈ peers, peer.lastRoomSummaryMs ≤ peer.lastSeenMs ∧ peer.lastSeenMs ≤ clock

namespace PeersTabled

variable {peers : List UdpDiscoveryPeerState} {clock : ℕ}

theorem nil : PeersTabled [] clock := ⟨by decide, List.nodup_nil, List.forall_mem_nil _⟩

theorem mono {clock' : ℕ} (h : PeersTabled peers clock) (hclock : clock ≤ clock') :
    PeersTabled peers clock' :=
  ⟨h.length_le, h.nodup, fun peer hpeer => (h.heard peer hpeer).imp_right (le_trans · hclock)⟩

theorem sublist {peers' : List UdpDiscoveryPeerState} (h : PeersTabled peers clock)
    (hsublist : peers'.Sublist peers) : PeersTabled peers' clock :=
  ⟨hsublist.length_le.trans h.length_le, h.nodup.sublist (hsublist.map _),
    fun peer hpeer => h.heard peer (hsublist.subset hpeer)⟩

/-- A message that was heard now. -/
theorem upsertPeer (h : PeersTabled peers clock) {nodeId : Str}
    {f : UdpDiscoveryPeerState → UdpDiscoveryPeerState} {fresh : UdpDiscoveryPeerState}
    (hid : ∀ peer, (f peer).nodeId = peer.nodeId) (hfresh : fresh.nodeId = nodeId)
    (hf : ∀ peer, peer.lastRoomSummaryMs ≤ clock →
      (f peer).lastRoomSummaryMs ≤ (f peer).lastSeenMs ∧ (f peer).lastSeenMs ≤ clock)
    (hheard : fresh.lastRoomSummaryMs ≤ fresh.lastSeenMs ∧ fresh.lastSeenMs ≤ clock) :
    PeersTabled (Firmware.upsertPeer nodeId f fresh peers) clock := by
  have hupserted := upserted_upsertPeer hid hfresh peers
  refine ⟨hupserted.length_le h.length_le, hupserted.nodup h.nodup, fun peer hpeer => ?_⟩
  rcases KeyedStore.mem_upsert h.nodup hpeer with ⟨hkept, -⟩ | ⟨old, hold, -, rfl⟩ | rfl
  · exact h.heard peer hkept
  · have hold := h.heard old hold
    exact hf old (hold.1.trans hold.2)
  · exact hheard

end PeersTabled

section Messages

variable {s : FirmwareState} {uptimeMs : ℕ} (h : PeersTabled s.udpDiscoveryPeers uptimeMs)
include h

theorem peersTabled_syncUdpDiscoveryPeer (payload : Str) :
    PeersTabled (s.syncUdpDiscoveryPeer payload uptimeMs).udpDiscoveryPeers uptimeMs := by
  unfold FirmwareState.syncUdpDiscoveryPeer
  split
  · exact h
  · -- an announcement keeps the time of the last summary
    rename_i nodeId _
    have hupserted : PeersTabled
        (upsertPeer nodeId (·.announce (announcedPeer payload nodeId uptimeMs))
          (announcedPeer payload nodeId uptimeMs) s.udpDiscoveryPeers) uptimeMs :=
      h.upsertPeer (fun _ => rfl) rfl (fun peer hpeer => ⟨hpeer, le_rfl⟩) ⟨Nat.zero_le _, le_rfl⟩
    exact hupserted.sublist List.filter_sublist

theorem peersTabled_syncRoomSummaryPeer (payload : Str) :
    PeersTabled (s.syncRoomSummaryPeer payload uptimeMs).udpDiscoveryPeers uptimeMs := by
  unfold FirmwareState.syncRoomSummaryPeer
  split
  · exact h
  · exact h.upsertPeer (fun _ => rfl) rfl (fun _ _ => ⟨le_rfl, le_rfl⟩) ⟨le_rfl, le_rfl⟩

omit h in
theorem peersTabled_receiveDatagrams {s : FirmwareState}
    (h : PeersTabled s.udpDiscoveryPeers uptimeMs) (payloads : List Str) :
    PeersTabled (payloads.foldl (fun s payload => s.receiveDatagram payload uptimeMs) s).udpDiscoveryPeers
      uptimeMs := by
  induction payloads generalizing s with
  | nil => exact h
  | cons payload payloads ih =>
    exact ih (peersTabled_syncRoomSummaryPeer (peersTabled_syncUdpDiscoveryPeer h payload) payload)

theorem peersTabled_processUdpDiscovery (station : Bool) (payloads : List Str) (freeHeapBytes : ℕ)
    (sent : Bool) : PeersTabled
      (s.processUdpDiscovery station payloads uptimeMs freeHeapBytes sent).udpDiscoveryPeers
        uptimeMs := by
  unfold FirmwareState.processUdpDiscovery
  split
  · exact .nil
  · split
    · exact h.sublist List.filter_sublist
    · have hannounced :=
        (FirmwareState.work_announceIfDue uptimeMs s freeHeapBytes sent).udpDiscoveryPeers
      rw [← hannounced] at h
      exact (peersTabled_receiveDatagrams h payloads).sublist List.filter_sublist

omit h in
theorem peersTabled_applyMqttEvents {s : FirmwareState}
    (h : PeersTabled s.udpDiscoveryPeers uptimeMs) (events : List MqttTaskEvent) :
    PeersTabled (events.foldl (FirmwareState.applyMqttEvent uptimeMs) s).udpDiscoveryPeers
      uptimeMs := by
  induction events generalizing s with
  | nil => exact h
  | cons event events ih =>
    cases event with
    | status status => exact ih h
    | roomSummary payload => exact ih (peersTabled_syncRoomSummaryPeer h payload.items)

theorem peersTabled_processMqttRuntime (events : List MqttTaskEvent)
    (configSent summarySent : Bool) : PeersTabled
      (s.processMqttRuntime events uptimeMs configSent summarySent).1.udpDiscoveryPeers uptimeMs := by
  have hwork := FirmwareState.work_processMqttRuntime uptimeMs s events configSent summarySent
  rw [hwork.udpDiscoveryPeers]
  exact peersTabled_applyMqttEvents h events

end Messages

/-! ## Listening -/

namespace Device

/-- What a node hears before the advertisements is work on the network. -/
theorem networkWork_listen (d : Device) (r : Round) :
    FirmwareState.NetworkWork r.now d.state (d.listen r).1.state := by
  refine FirmwareState.NetworkWork.trans ?_
    (FirmwareState.work_processMqttRuntime r.now _ r.mqttEvents r.configSent r.summarySent).networkWork
  refine FirmwareState.NetworkWork.trans ?_
    (FirmwareState.networkWork_applyMqttEvents r.now _ r.mqttEvents)
  refine FirmwareState.NetworkWork.trans ?_
    (FirmwareState.networkWork_processUdpDiscovery r.now _ _ _ r.freeHeapBytes r.announceTaken)
  exact ((FirmwareState.work_pollRadarUart d.state ⟨r.now, r.radarReads⟩).trans
    (FirmwareState.work_pollWifiRuntime r.radio r.now { d.wifi with state := _ })).networkWork

theorem peersTabled_listen {d : Device} {r : Round}
    (h : PeersTabled d.state.udpDiscoveryPeers r.now) :
    PeersTabled (d.listen r).1.state.udpDiscoveryPeers r.now := by
  have hradio := (FirmwareState.work_pollRadarUart d.state ⟨r.now, r.radarReads⟩).trans
    (FirmwareState.work_pollWifiRuntime r.radio r.now { d.wifi with state := _ })
  rw [← hradio.udpDiscoveryPeers] at h
  exact peersTabled_processMqttRuntime (peersTabled_processUdpDiscovery h ..) ..

end Device

end EspWaveRider.Firmware
