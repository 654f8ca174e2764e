import EspWaveRider.Firmware.DeviceRefinement
import EspWaveRider.Lib.Network
import EspWaveRider.PeerExchange

/-!
# A fleet of nodes

Nodes with the Rust firmware, each of which runs its main loop, and nodes with the C++ firmware that
send announcements and room summaries, over a network and a broker that may lose, repeat, delay and
reorder what is sent, but invent nothing.

* `Device.tells`, `tells_shown` — what a node tells the others is what leaves it in the round;
* `fleet` — the nodes and all that was ever sent;
* `ToldBy` — an entry in a table of peers that comes from messages sent under its identifier;
* `fleet_tables_told` — in every run of a fleet all entries of all tables are such.
-/

namespace EspWaveRider

open Text Firmware Machine

/-! ## What a node tells -/

namespace Firmware.Device

/-- Up to the service of the peers. -/
def beforePeers (d : Device) (r : Round) : Device :=
  let d := { d with clock := r.now }
  let d := d.withState (d.state.pollRadarUart ⟨r.now, r.radarReads⟩).1
  { d with wifi := d.wifi.pollWifiRuntime r.radio r.now }

/-- The state from which a room summary would be built. -/
def beforeSummary (d : Device) (r : Round) : FirmwareState :=
  let d := d.beforePeers r
  let s := d.state.processUdpDiscovery d.wifi.stationStack (r.datagrams.map (·.items)) r.now
    r.freeHeapBytes r.announceTaken
  ((r.mqttEvents.foldl (FirmwareState.applyMqttEvent r.now) s).announceMqttConfig r.configSent).1

/-- The announcement of a round, with the state it was built from. -/
def announcing (d : Device) (r : Round) : Option PeerMessage :=
  ((d.beforePeers r).state.announcement (d.beforePeers r).wifi.stationStack r.now r.freeHeapBytes
    r.announceTaken).map fun _ => .rustAnnouncement (d.beforePeers r).state r.now r.freeHeapBytes

/-- Its room summary. -/
def summarizing (d : Device) (r : Round) : Option PeerMessage :=
  ((d.beforeSummary r).publishRoomSummary r.now r.summarySent).2.head?.map fun _ =>
    .rustSummary (d.beforeSummary r) r.now

def tells (d : Device) (r : Round) : List PeerMessage :=
  (d.announcing r).toList ++ (d.summarizing r).toList

theorem announcement_round (httpsOta : Bool) (d : Device) (r : Round) :
    (d.round httpsOta r).2.announcement = (d.beforePeers r).state.announcement
      (d.beforePeers r).wifi.stationStack r.now r.freeHeapBytes r.announceTaken := rfl

theorem mem_mqttCommands_round {httpsOta : Bool} {d : Device} {r : Round} {command : MqttTaskCommand}
    (h : command ∈ ((d.beforeSummary r).publishRoomSummary r.now r.summarySent).2) :
    command ∈ (d.round httpsOta r).2.mqttCommands := by
  refine List.mem_append_left _ (List.mem_append_left _ ?_)
  exact List.mem_append_right _ h

end Firmware.Device

theorem announcement_cases (s : FirmwareState) (station : Bool) (uptimeMs freeHeapBytes : ℕ)
    (sent : Bool) :
    s.announcement station uptimeMs freeHeapBytes sent = none ∨
      s.announcement station uptimeMs freeHeapBytes sent =
        buildUdpDiscoveryPayload s uptimeMs freeHeapBytes := by
  unfold FirmwareState.announcement
  split
  · exact .inr rfl
  · exact .inl rfl

/-- A summary is published as it was built. -/
theorem publishRoomSummary_cases (s : FirmwareState) (uptimeMs : ℕ) (sent : Bool) :
    (s.publishRoomSummary uptimeMs sent).2 = [] ∨ ∃ payload,
      buildRoomSummaryPayload s uptimeMs = some payload ∧
      (s.publishRoomSummary uptimeMs sent).2 = [.publish (buildRoomSummaryPublishMessage s payload)] := by
  unfold FirmwareState.publishRoomSummary
  split
  · cases hbuilt : buildRoomSummaryPayload s uptimeMs with
    | none => exact .inl rfl
    | some payload =>
      dsimp only
      split
      · exact .inr ⟨payload, rfl, rfl⟩
      · exact .inl rfl
  · exact .inl rfl

/-- What leaves the node in the round: the text of the announcement as a datagram, and that of the
summary in a message for the task. -/
theorem tells_shown (httpsOta : Bool) (d : Device) (r : Round) :
    (d.announcing r).bind PeerMessage.text =
        (d.round httpsOta r).2.announcement.map (·.items) ∧
      ∀ m ∈ d.summarizing r, ∃ s payload, m = .rustSummary s r.now ∧
        m.text = some payload.items ∧ .publish (buildRoomSummaryPublishMessage s payload) ∈
          (d.round httpsOta r).2.mqttCommands := by
  constructor
  · rw [Device.announcement_round, Device.announcing]
    rcases announcement_cases (d.beforePeers r).state (d.beforePeers r).wifi.stationStack r.now
      r.freeHeapBytes r.announceTaken with hnone | hbuilt
    · rw [hnone]
      rfl
    · rw [hbuilt]
      cases hpayload : buildUdpDiscoveryPayload (d.beforePeers r).state r.now r.freeHeapBytes with
      | none => rfl
      | some payload => simp [PeerMessage.text, hpayload]
  · intro m hm
    rcases publishRoomSummary_cases (d.beforeSummary r) r.now r.summarySent with
      hnone | ⟨payload, hbuilt, hpublish⟩
    · rw [Device.summarizing, hnone] at hm
      cases hm
    · rw [Device.summarizing, hpublish] at hm
      cases hm
      refine ⟨d.beforeSummary r, payload, rfl, ?_, ?_⟩
      · rw [PeerMessage.text, hbuilt]
        rfl
      · apply Device.mem_mqttCommands_round
        rw [hpublish]
        exact List.mem_singleton_self _

/-! ## The fleet -/

/-- A node, by what it was built as. -/
inductive FleetParty where
  | rust (httpsOta : Bool) (mac : Vector UInt8 6)
  | cpp (firmwareVersion firmwareBuildTarget : Str)

inductive FleetNode where
  | rust (d : Device)
  | cpp (n : Cpp.CppNode)

inductive FleetEvent where
  | rust (e : DeviceEvent)
  /-- It sends an announcement or a room summary, with whatever configuration and readings it has. -/
  | cpp (n : Cpp.CppNode) (summary : Bool)

namespace FleetParty

def start : FleetParty → FleetNode → Prop
  | rust httpsOta mac, .rust d => (deviceMachine httpsOta mac).start d
  | cpp firmwareVersion firmwareBuildTarget, .cpp n =>
    n.firmwareVersion = firmwareVersion ∧ n.firmwareBuildTarget = firmwareBuildTarget
  | _, _ => False

/-- Nothing but a new firmware changes what a node was built as. -/
def step : FleetParty → FleetNode → FleetEvent → Option FleetNode
  | rust httpsOta mac, .rust d, .rust e => ((deviceMachine httpsOta mac).step d e).map .rust
  | cpp firmwareVersion firmwareBuildTarget, .cpp _, .cpp n _ =>
    if n.firmwareVersion = firmwareVersion ∧ n.firmwareBuildTarget = firmwareBuildTarget then
      some (.cpp n)
    else none
  | _, _, _ => none

end FleetParty

def FleetNode.tells : FleetNode → FleetEvent → List PeerMessage
  | .rust d, .rust (.round r) => d.tells r
  | .cpp _, .cpp n summary => [if summary then .cppSummary n else .cppAnnouncement n]
  | _, _ => []

/-- A room summary that the task has handed over. -/
def summaryHeard : MqttTaskEvent → Option Str
  | .roomSummary payload => some payload.items
  | .status _ => none

/-- Datagrams are announcements, what comes from the broker are summaries. -/
def FleetEvent.hears : FleetEvent → List (Bool × Str)
  | .rust (.round r) =>
    r.datagrams.map (fun payload => (true, payload.items)) ++
      (r.mqttEvents.filterMap summaryHeard).map fun payload => (false, payload)
  | _ => []

def fleet {ι : Type} (party : ι → FleetParty) :
    Protocol ι FleetNode FleetEvent PeerMessage (Bool × Str) where
  machine i := { start := (party i).start, step := (party i).step }
  tells _ := FleetNode.tells
  wire m := m.text.map fun text => (m.isAnnouncement, text)
  hears := FleetEvent.hears

/-! ## What is read of a message -/

namespace PeerMessage

def readRoom : PeerMessage → Str
  | rustAnnouncement A _ _ | rustSummary A _ => asRead A.roomId
  | cppAnnouncement n | cppSummary n => cppAsRead n.config.roomId

def readRole : PeerMessage → Str
  | rustAnnouncement A _ _ | rustSummary A _ => asRead A.sensorRole
  | cppAnnouncement n | cppSummary n => cppAsRead n.config.sensorRole

def readVersion : PeerMessage → Str
  | rustAnnouncement _ _ _ | rustSummary _ _ => rustFirmwareVersion
  | cppAnnouncement n | cppSummary n => cppAsRead n.firmwareVersion

end PeerMessage

/-- What both kinds of message say of their node. -/
structure SharedRead (m : PeerMessage) (payload : Str) : Prop where
  room : stringField payload "room_id" = m.readRoom
  role : stringField payload "sensor_role" = m.readRole
  version : stringField payload "firmware_version" = m.readVersion

theorem sharedRead_of_text {m : PeerMessage} {payload : Str} (h : m.text = some payload) :
    SharedRead m payload := by
  cases m with
  | rustAnnouncement A uptimeMs freeHeapBytes =>
    obtain ⟨built, hbuilt, rfl⟩ := Option.map_eq_some_iff.1 h
    have hflat := flat_discoveryMembers A uptimeMs freeHeapBytes
    rw [items_of_buildUdpDiscoveryPayload hbuilt]
    exact ⟨stringField_of_lookup hflat ⟨"room_id", by decide⟩ rfl,
      stringField_of_lookup hflat ⟨"sensor_role", by decide⟩ rfl,
      stringField_of_lookup hflat ⟨"firmware_version", by decide⟩ rfl⟩
  | rustSummary A uptimeMs =>
    obtain ⟨built, hbuilt, rfl⟩ := Option.map_eq_some_iff.1 h
    have hflat := flat_summaryMembers A uptimeMs
    rw [items_of_buildRoomSummaryPayload hbuilt]
    exact ⟨stringField_of_lookup hflat ⟨"room_id", by decide⟩ rfl,
      stringField_of_lookup hflat ⟨"sensor_role", by decide⟩ rfl,
      stringField_of_lookup hflat ⟨"firmware_version", by decide⟩ rfl⟩
  | cppAnnouncement n =>
    have hflat : Json.Flat (Cpp.announcementMembers n) := Json.flat_of_all rfl
    rw [← Option.some.inj h, Cpp.announcementText_eq]
    exact ⟨stringField_of_lookup_text hflat Key.roomId rfl,
      stringField_of_lookup_text hflat Key.sensorRole rfl,
      stringField_of_lookup_text hflat Key.firmwareVersion rfl⟩
  | cppSummary n =>
    have hflat : Json.Flat (Cpp.summaryMembers n) := Json.flat_of_all rfl
    rw [← Option.some.inj h, Cpp.summaryText_eq]
    exact ⟨stringField_of_lookup_text hflat Key.roomId rfl,
      stringField_of_lookup_text hflat Key.sensorRole rfl,
      stringField_of_lookup_text hflat Key.firmwareVersion rfl⟩

/-! ## Entries that were told -/

namespace Firmware.UdpDiscoveryPeerState

/-- An entry of which nothing is known. -/
def blank (nodeId : Str) (uptimeMs : ℕ) : UdpDiscoveryPeerState := { nodeId, lastSeenMs := uptimeMs }

/-- What announcements alone tell. -/
def contact (peer : UdpDiscoveryPeerState) : Str × Str × Str × ℤ × UInt8 × ℕ × ℕ :=
  (peer.friendlyName, peer.hostname, peer.ipAddress, peer.wifiRssiDbm, peer.wifiChannel,
    peer.uptimeS, peer.freeHeapBytes)

/-- What room summaries alone tell. -/
def pose (peer : UdpDiscoveryPeerState) : ℤ × ℤ × ℤ × UInt16 × UInt16 :=
  (peer.poseXCm, peer.poseYCm, peer.headingDeg, peer.roomWidthCm, peer.roomHeightCm)

end Firmware.UdpDiscoveryPeerState

/-- The text of a message that was sent under this identifier. -/
def SentAs (sent : List PeerMessage) (announcement : Bool) (nodeId payload : Str) : Prop :=
  ∃ m ∈ sent, m.isAnnouncement = announcement ∧ m.readSender = nodeId ∧ m.text = some payload

open UdpDiscoveryPeerState

/-- The entry was put together from messages that were sent under its identifier. -/
structure ToldBy (sent : List PeerMessage) (peer : UdpDiscoveryPeerState) : Prop where
  /-- Room, role and firmware are those of one of them. -/
  latest : ∃ m ∈ sent, m.readSender = peer.nodeId ∧ m.readRoom = peer.roomId ∧
    m.readRole = peer.sensorRole ∧ m.readVersion = peer.firmwareVersion ∧
    m.readTarget = peer.buildTarget
  contact : peer.contact = (blank peer.nodeId 0).contact ∨
    ∃ payload, SentAs sent true peer.nodeId payload ∧
      peer.contact = (announcedPeer payload peer.nodeId 0).contact
  pose : peer.pose = (blank peer.nodeId 0).pose ∨
    ∃ payload, SentAs sent false peer.nodeId payload ∧
      peer.pose = ((blank peer.nodeId 0).summarize payload 0).pose

theorem ToldBy.mono {sent sent' : List PeerMessage} {peer : UdpDiscoveryPeerState}
    (h : ToldBy sent peer) (hsub : sent ⊆ sent') : ToldBy sent' peer := by
  have hsentAs {announcement : Bool} {nodeId payload : Str}
      (hsent : SentAs sent announcement nodeId payload) : SentAs sent' announcement nodeId payload := by
    obtain ⟨m, hm, hrest⟩ := hsent
    exact ⟨m, hsub hm, hrest⟩
  obtain ⟨m, hm, hlatest⟩ := h.latest
  refine ⟨⟨m, hsub hm, hlatest⟩, ?_, ?_⟩
  · rcases h.contact with hblank | ⟨payload, hsent, hcontact⟩
    · exact .inl hblank
    · exact .inr ⟨payload, hsentAs hsent, hcontact⟩
  · rcases h.pose with hblank | ⟨payload, hsent, hpose⟩
    · exact .inl hblank
    · exact .inr ⟨payload, hsentAs hsent, hpose⟩

/-- An announcement leaves a told entry. -/
theorem toldBy_announcement {sent : List PeerMessage} {m : PeerMessage} {payload : Str} (hm : m ∈ sent)
    (hkind : m.isAnnouncement = true) (htext : m.text = some payload) (uptimeMs : ℕ) :
    ToldBy sent (announcedPeer payload m.readSender uptimeMs) ∧
      ∀ existing, ToldBy sent existing → existing.nodeId = m.readSender →
        ToldBy sent (existing.announce (announcedPeer payload m.readSender uptimeMs)) := by
  have hreads := readsAs_text htext
  have hshared := sharedRead_of_text htext
  have hsent : SentAs sent true m.readSender payload := ⟨m, hm, hkind, rfl, htext⟩
  refine ⟨⟨⟨m, hm, rfl, hshared.room.symm, hshared.role.symm, hshared.version.symm,
    hreads.target.symm⟩, .inr ⟨payload, hsent, rfl⟩, .inl rfl⟩, fun existing htold hid => ?_⟩
  refine ⟨⟨m, hm, hid.symm, hshared.room.symm, hshared.role.symm, hshared.version.symm,
    hreads.target.symm⟩, .inr ⟨payload, hid ▸ hsent, rfl⟩, ?_⟩
  exact htold.pose

/-- So does a room summary. -/
theorem toldBy_summary {sent : List PeerMessage} {m : PeerMessage} {payload : Str} (hm : m ∈ sent)
    (hkind : m.isAnnouncement = false) (htext : m.text = some payload) (uptimeMs : ℕ) :
    ToldBy sent ((blank m.readSender uptimeMs).summarize payload uptimeMs) ∧
      ∀ existing, ToldBy sent existing → existing.nodeId = m.readSender →
        ToldBy sent (existing.summarize payload uptimeMs) := by
  have hreads := readsAs_text htext
  have hshared := sharedRead_of_text htext
  have hsent : SentAs sent false m.readSender payload := ⟨m, hm, hkind, rfl, htext⟩
  refine ⟨⟨⟨m, hm, rfl, hshared.room.symm, hshared.role.symm, hshared.version.symm,
    hreads.target.symm⟩, .inl rfl, .inr ⟨payload, hsent, rfl⟩⟩, fun existing htold hid => ?_⟩
  refine ⟨⟨m, hm, hid.symm, hshared.room.symm, hshared.role.symm, hshared.version.symm,
    hreads.target.symm⟩, ?_, .inr ⟨payload, hid ▸ hsent, rfl⟩⟩
  exact htold.contact

/-! ## What a round makes of a table -/

/-- All entries of the table were told. -/
def AllTold (sent : List PeerMessage) (s : FirmwareState) : Prop :=
  ∀ peer ∈ s.udpDiscoveryPeers, ToldBy sent peer

/-- Every text that the table is given is one that was sent. -/
def HearsOnly (sent : List PeerMessage) (_ : FirmwareState) : PeerEvent → Prop
  | .discovery _ payloads _ _ _ => ∀ payload ∈ payloads,
    ∃ m ∈ sent, m.isAnnouncement = true ∧ m.text = some payload.items
  | .roomSummary payload _ => ∃ m ∈ sent, m.isAnnouncement = false ∧ m.text = some payload.items
  | _ => True

section Table

variable {sent : List PeerMessage} {s s' : FirmwareState}

theorem AllTold.sublist (h : AllTold sent s) (hsub : s'.udpDiscoveryPeers.Sublist s.udpDiscoveryPeers) :
    AllTold sent s' := fun peer hpeer => h peer (hsub.subset hpeer)

/-- The sender of a message, if it is another node. -/
theorem readSender_of_otherNode {m : PeerMessage} {payload nodeId : Str} (htext : m.text = some payload)
    (h : s.otherNode payload = some nodeId) : m.readSender = nodeId := by
  rw [otherNode_of_readsAs (readsAs_text htext)] at h
  split_ifs at h
  exact Option.some.inj h

theorem AllTold.syncRoomSummaryPeer (h : AllTold sent s) {m : PeerMessage} {payload : Str}
    (hm : m ∈ sent) (hkind : m.isAnnouncement = false) (htext : m.text = some payload)
    (uptimeMs : ℕ) : AllTold sent (s.syncRoomSummaryPeer payload uptimeMs) := by
  unfold FirmwareState.syncRoomSummaryPeer
  cases hsender : s.summarySender payload with
  | none => exact h
  | some nodeId =>
    obtain rfl := readSender_of_otherNode htext (FirmwareState.otherNode_of_summarySender hsender)
    obtain ⟨hblank, hchanged⟩ := toldBy_summary hm hkind htext uptimeMs
    exact KeyedStore.forall_mem_upsert h hchanged hblank

theorem AllTold.receiveDatagram (h : AllTold sent s) {m : PeerMessage} {payload : Str} (hm : m ∈ sent)
    (hkind : m.isAnnouncement = true) (htext : m.text = some payload) (uptimeMs : ℕ) :
    AllTold sent (s.receiveDatagram payload uptimeMs) := by
  have hsummary (t : FirmwareState) : t.summarySender payload = none := by
    rw [FirmwareState.summarySender, ((readsAs_text htext).announcement hkind).2]
    rfl
  unfold FirmwareState.receiveDatagram
  rw [FirmwareState.syncRoomSummaryPeer_of_none (hsummary _)]
  unfold FirmwareState.syncUdpDiscoveryPeer
  cases hsender : s.discoverySender payload with
  | none => exact h
  | some nodeId =>
    obtain rfl := readSender_of_otherNode htext (FirmwareState.otherNode_of_discoverySender hsender)
    obtain ⟨hnew, hchanged⟩ := toldBy_announcement hm hkind htext uptimeMs
    intro peer hpeer
    exact KeyedStore.forall_mem_upsert h hchanged hnew peer (List.mem_filter.1 hpeer).1

theorem AllTold.processUdpDiscovery (h : AllTold sent s) (station : Bool) {payloads : List (HString 512)}
    (hheard : ∀ payload ∈ payloads,
      ∃ m ∈ sent, m.isAnnouncement = true ∧ m.text = some payload.items)
    (uptimeMs freeHeapBytes : ℕ) (taken : Bool) : AllTold sent
      (s.processUdpDiscovery station (payloads.map (·.items)) uptimeMs freeHeapBytes taken) := by
  have hreceived (t : FirmwareState) (ht : AllTold sent t) : AllTold sent
      ((payloads.map (·.items)).foldl (fun s payload => s.receiveDatagram payload uptimeMs) t) := by
    induction payloads generalizing t with
    | nil => exact ht
    | cons payload payloads ih =>
      obtain ⟨m, hm, hkind, htext⟩ := hheard payload (List.mem_cons_self ..)
      exact ih (fun p hp => hheard p (List.mem_cons_of_mem _ hp)) _
        (ht.receiveDatagram hm hkind htext uptimeMs)
  unfold FirmwareState.processUdpDiscovery
  split_ifs
  · exact fun peer hpeer => absurd hpeer List.not_mem_nil
  · exact h.sublist List.filter_sublist
  · have hannounced : AllTold sent (s.announceIfDue uptimeMs freeHeapBytes taken) := by
      unfold FirmwareState.announceIfDue
      split
      · exact h
      · exact h
    exact (hreceived _ hannounced).sublist List.filter_sublist

theorem AllTold.peerStep {e : PeerEvent} (h : AllTold sent s) (hheard : HearsOnly sent s e)
    (hstep : s.peerStep e = some s') : AllTold sent s' := by
  cases e with
  | boot mac settings =>
    cases hstep
    intro peer hpeer
    rw [udpDiscoveryPeers_bootState] at hpeer
    cases hpeer
  | discovery station payloads uptimeMs freeHeapBytes taken =>
    cases hstep
    exact h.processUdpDiscovery station hheard uptimeMs freeHeapBytes taken
  | roomSummary payload uptimeMs =>
    cases hstep
    obtain ⟨m, hm, hkind, htext⟩ := hheard
    exact h.syncRoomSummaryPeer hm hkind htext uptimeMs
  | command command uptimeMs =>
    cases hstep
    have hsame := (identity_handleCommand s command.items uptimeMs).2
    exact h.sublist (hsame ▸ List.Sublist.refl _)
  | work next =>
    rw [FirmwareState.peerStep] at hstep
    split_ifs at hstep with hsame
    cases hstep
    exact h.sublist (hsame.2 ▸ List.Sublist.refl _)

end Table

section Rounds

variable {ι : Type} {party : ι → FleetParty} {sent : List PeerMessage}

theorem exists_of_heard {announcement : Bool} {text : Str}
    (h : (announcement, text) ∈ sent.filterMap (fleet party).wire) :
    ∃ m ∈ sent, m.isAnnouncement = announcement ∧ m.text = some text := by
  obtain ⟨m, hm, hwire⟩ := List.mem_filterMap.1 h
  obtain ⟨text', htext, heq⟩ := Option.map_eq_some_iff.1 hwire
  cases heq
  exact ⟨m, hm, rfl, htext⟩

theorem roundAllows_hearsOnly {r : Round} (h : (fleet party).Heard sent (.rust (.round r)))
    (httpsOta : Bool) (d : Device) : RoundAllows (HearsOnly sent) httpsOta d r where
  work _ _ := trivial
  discovery _ _ payload hpayload :=
    exists_of_heard (h _ (List.mem_append_left _ (List.mem_map_of_mem hpayload)))
  roomSummary _ payload hpayload := by
    refine exists_of_heard (h _ (List.mem_append_right _ (List.mem_map_of_mem ?_)))
    exact List.mem_filterMap.2 ⟨_, hpayload, rfl⟩
  command _ _ _ _ := trivial

theorem AllTold.round {d : Device} {r : Round} (h : AllTold sent d.state)
    (hheard : (fleet party).Heard sent (.rust (.round r))) (httpsOta : Bool) :
    AllTold sent (d.round httpsOta r).1.state :=
  (Device.steps_round (roundAllows_hearsOnly hheard httpsOta d)).invariant
    (fun _ _ _ hs hok hstep => hs.peerStep hok hstep) h

end Rounds

/-! ## Every run of a fleet -/

/-- What is known of a node, if it has a table. -/
def FleetNode.Told (sent : List PeerMessage) : FleetNode → Prop
  | .rust d => AllTold sent d.state
  | .cpp _ => True

section Runs

variable {ι : Type} [DecidableEq ι] {party : ι → FleetParty} {n : Network ι FleetNode PeerMessage}

theorem reach_each (h : (fleet party).network.Reach Always n) :
    (fleet party).network.Reach (Protocol.Each fun _ => Always) n :=
  h.mono fun _ _ _ => trivial

theorem rust_of_step {node node' : FleetNode} {party : FleetParty} {e : DeviceEvent}
    (h : party.step node (.rust e) = some node') : ∃ httpsOta mac d d', party = .rust httpsOta mac ∧
      node = .rust d ∧ (deviceMachine httpsOta mac).step d e = some d' ∧ node' = .rust d' := by
  cases party with
  | cpp version target =>
    cases node <;> cases h
  | rust httpsOta mac =>
    cases node with
    | cpp n => cases h
    | rust d =>
      obtain ⟨d', hd', rfl⟩ := Option.map_eq_some_iff.1 h
      exact ⟨httpsOta, mac, d, d', rfl, rfl, hd', rfl⟩

theorem cpp_of_step {node node' : FleetNode} {party : FleetParty} {c : Cpp.CppNode} {summary : Bool}
    (h : party.step node (.cpp c summary) = some node') : ∃ c₀,
      party = .cpp c.firmwareVersion c.firmwareBuildTarget ∧ node = .cpp c₀ ∧ node' = .cpp c := by
  cases party with
  | rust httpsOta mac => cases node <;> cases h
  | cpp version target =>
    cases node with
    | rust d => cases h
    | cpp c₀ =>
      simp only [FleetParty.step] at h
      split_ifs at h with hbuilt
      cases h
      obtain ⟨rfl, rfl⟩ := hbuilt
      exact ⟨c₀, rfl, rfl, rfl⟩

theorem allTold_boot {mac : Vector UInt8 6} {d : Device} {sent : List PeerMessage} {settings : Option Nvs}
    {presencePin : Bool} {uptimeMs : ℕ}
    (h : d.state = (FirmwareState.bootState mac settings).pollPresence presencePin uptimeMs) :
    AllTold sent d.state := by
  intro peer hpeer
  rw [h, (FirmwareState.work_pollPresence _ presencePin uptimeMs).udpDiscoveryPeers,
    udpDiscoveryPeers_bootState] at hpeer
  cases hpeer

theorem told_of_reach (h : (fleet party).network.Reach Always n) (i : ι) :
    (n.party i).Told n.sent := by
  refine Protocol.Reach.provenance (I := fun sent _ node => node.Told sent) ?_ ?_ ?_ (reach_each h) i
  · intro sent sent' i node hsub htold
    cases node with
    | cpp c => trivial
    | rust d => exact fun peer hpeer => (htold peer hpeer).mono hsub
  · intro i node hstart
    cases node with
    | cpp c => trivial
    | rust d =>
      simp only [fleet] at hstart
      cases hparty : party i with
      | cpp version target =>
        rw [hparty] at hstart
        cases hstart
      | rust httpsOta mac =>
        rw [hparty] at hstart
        obtain ⟨stored, settingsOpen, flash, reason, benchmark, pin, uptimeMs, -, rfl⟩ := hstart
        exact allTold_boot rfl
  · intro sent i node e node' _ htold _ hheard hstep
    cases e with
    | cpp c summary =>
      obtain ⟨_, -, -, rfl⟩ := cpp_of_step hstep
      trivial
    | rust e =>
      obtain ⟨httpsOta, mac, d, d', -, rfl, hd', rfl⟩ := rust_of_step hstep
      cases e with
      | reboot settingsOpen reason benchmark pin uptimeMs =>
        simp only [deviceMachine] at hd'
        split_ifs at hd'
        cases hd'
        exact allTold_boot rfl
      | round r =>
        simp only [deviceMachine] at hd'
        split_ifs at hd'
        cases hd'
        exact AllTold.round htold hheard httpsOta

theorem step_cpp {i : ι} {c₀ c : Cpp.CppNode}
    (hparty : party i = .cpp c.firmwareVersion c.firmwareBuildTarget) (hnode : n.party i = .cpp c₀)
    (summary : Bool) : (fleet party).network.step n (i, .cpp c summary) = some
      { party := Function.update n.party i (.cpp c)
        sent := (if summary then .cppSummary c else .cppAnnouncement c) :: n.sent } := by
  refine Protocol.network_step_eq_some_iff.2
    ⟨fun w hw => absurd hw List.not_mem_nil, .cpp c, ?_, ?_⟩
  · show (party i).step (n.party i) _ = _
    rw [hparty, hnode]
    exact if_pos ⟨rfl, rfl⟩
  · rw [hnode]
    rfl

theorem step_rust {i : ι} {httpsOta : Bool} {mac : Vector UInt8 6} {d : Device} {r : Round}
    (hparty : party i = .rust httpsOta mac) (hnode : n.party i = .rust d)
    (hheard : (fleet party).Heard n.sent (.rust (.round r))) (htime : r.InTime d.clock) :
    (fleet party).network.step n (i, .rust (.round r)) = some
      { party := Function.update n.party i (.rust (d.round httpsOta r).1)
        sent := d.tells r ++ n.sent } := by
  refine Protocol.network_step_eq_some_iff.2 ⟨hheard, .rust (d.round httpsOta r).1, ?_, ?_⟩
  · show (party i).step (n.party i) _ = _
    rw [hparty, hnode]
    show ((deviceMachine httpsOta mac).step d (.round r)).map FleetNode.rust = _
    rw [step_round htime]
    rfl
  · rw [hnode]
    rfl

/-- In every run of a fleet every entry of every table was put together from messages sent under its
identifier: room, role, version and target are those of one message, name, address and readings
those of one announcement, and the pose is that of one room summary. Every message was sent by a
node of the fleet. -/
theorem fleet_tables_told (h : (fleet party).network.Reach Always n) :
    (∀ i d, n.party i = .rust d → ∀ peer ∈ d.state.udpDiscoveryPeers, ToldBy n.sent peer) ∧
      ∀ m ∈ n.sent, ∃ i node e, ((fleet party).machine i).Reach Always node ∧
        m ∈ FleetNode.tells node e := by
  constructor
  · intro i d hd
    have htold := told_of_reach h i
    rw [hd] at htold
    exact htold
  · intro m hm
    obtain ⟨i, node, e, -, hreach, -, -, htells⟩ := Protocol.Reach.said (reach_each h) hm
    exact ⟨i, node, e, hreach, htells⟩

end Runs

/-! ### A node of either kind -/

theorem size_hallMac : #[(2 : UInt8), 0, 0, 10, 11, 12].size = 6 := rfl

def hallMac : Vector UInt8 6 := ⟨#[2, 0, 0, 10, 11, 12], size_hallMac⟩

def denAndHall : Bool → FleetParty
  | true => .rust true hallMac
  | false => .cpp cppDen.firmwareVersion cppDen.firmwareBuildTarget

def restingFleet : Network Bool FleetNode PeerMessage where
  party
    | true => .rust factoryDevice
    | false => .cpp cppDen
  sent := []

theorem start_restingFleet : (fleet denAndHall).network.start restingFleet := by
  refine ⟨fun i => ?_, rfl⟩
  cases i with
  | true => exact start_factoryDevice
  | false => exact ⟨rfl, rfl⟩

def quietRound (now : ℕ) : Round :=
  { now, httpAnswers := answersAt now, usbAnswers := answersAt now }

theorem weight_announcementText : weight Char.utf8Size (Cpp.announcementText cppDen) ≤ 512 := by
  decide +kernel

/-- The node has a link and a datagram of the other one. -/
def announcedRound : Round :=
  { quietRound 2000 with
    radio := { isConnected := true }
    datagrams := [⟨Cpp.announcementText cppDen, weight_announcementText⟩] }

def upDevice : Device := (factoryDevice.round true (quietRound 1000)).1

def toldDevice : Device := (upDevice.round true announcedRound).1

/-- The C++ node is announced, and the Rust node, once it has a link, hears it. -/
theorem reach_told : ∃ n, (fleet denAndHall).network.Reach Always n ∧ n.party true = .rust toldDevice := by
  have hstart : (fleet denAndHall).network.Reach Always restingFleet := .start start_restingFleet
  have hsent := hstart.step trivial (step_cpp (i := false) (c := cppDen) rfl rfl false)
  have hup := hsent.step trivial (step_rust (i := true) (d := factoryDevice) (r := quietRound 1000)
    rfl rfl (fun w hw => absurd hw List.not_mem_nil) (by decide))
  refine ⟨_, hup.step trivial (step_rust (i := true) (d := upDevice) (r := announcedRound) rfl rfl ?_
    (by decide +kernel)), rfl⟩
  intro w hw
  rw [List.mem_singleton.1 hw]
  exact List.mem_filterMap.2 ⟨.cppAnnouncement cppDen, by simp, rfl⟩

theorem fleet_tables_told_of_announcement : ∃ n : Network Bool FleetNode PeerMessage,
    n.party true = .rust toldDevice ∧
      (toldDevice.state.udpDiscoveryPeers.map (·.nodeId) = [("den" : Str)]) ∧
      ∀ peer ∈ toldDevice.state.udpDiscoveryPeers, ToldBy n.sent peer := by
  obtain ⟨n, hreach, hn⟩ := reach_told
  exact ⟨n, hn, by decide +kernel, (fleet_tables_told hreach).1 true _ hn⟩

end EspWaveRider
