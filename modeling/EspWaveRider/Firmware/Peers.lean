import EspWaveRider.Lib.KeyedStore
import EspWaveRider.Core.Mqtt
import EspWaveRider.Firmware.Payload
import EspWaveRider.Firmware.FirmwareSync

/-!
# Peers

The table of peers of `rust/firmware/esp32s3/src/main.rs` and the two kinds of
messages that fill it: announcements and room summaries.

* `syncUdpDiscoveryPeer`, `syncRoomSummaryPeer`, `processUdpDiscovery`;
* `upserted_syncUdpDiscoveryPeer`, `upserted_syncRoomSummaryPeer` — what a message
  that is accepted does to the table;
* `oneKind_iff` — when a message is taken for one kind only.
-/

namespace EspWaveRider.Firmware

open Text Mqtt KeyedStore

def maxUdpDiscoveryPeers : ℕ := 12

/-! ## Reading the fields of a message -/

/-- `"field":` and the beginning of the value. -/
def fieldPattern (field more : Str) : Str := '"' :: (field ++ '"' :: ':' :: more)

def jsonFieldString (payload field : Str) : Option Str := do
  let rest ← after? (fieldPattern field ['"']) payload
  let end_ ← find? ['"'] rest
  some (rest.take end_)

def jsonFieldNumber (payload field : Str) : Option Str := do
  let rest ← after? (fieldPattern field []) payload
  some (trim (rest.takeWhile fun c => c ≠ ',' ∧ c ≠ '}'))

def jsonFieldI32 (payload field : Str) : Option ℤ :=
  (jsonFieldNumber payload field).bind (parseSigned (-2147483648) 2147483647)

def jsonFieldU32 (payload field : Str) : Option ℕ :=
  (jsonFieldNumber payload field).bind (parseUnsigned u32Max)

/-- `unwrap_or_default` of a text. -/
def stringField (payload field : Str) : Str := (jsonFieldString payload field).getD []

/-! ## The two messages -/

namespace FirmwareState

/-- The sender a message names, when it is another node. -/
def otherNode (s : FirmwareState) (payload : Str) : Option Str :=
  (jsonFieldString payload "node_id").filter fun nodeId => nodeId ≠ [] ∧ nodeId ≠ s.nodeId

/-- The sender of an announcement this node takes notice of. -/
def discoverySender (s : FirmwareState) (payload : Str) : Option Str :=
  if jsonFieldString payload "kind" ≠ some ("lb_udp_discovery" : Str) then none
  else s.otherNode payload

/-- The sender of a room summary this node takes notice of. -/
def summarySender (s : FirmwareState) (payload : Str) : Option Str :=
  if !looksLikeRoomSummaryPayload payload then none else s.otherNode payload

end FirmwareState

/-- The peer an announcement describes. -/
def announcedPeer (payload nodeId : Str) (uptimeMs : ℕ) : UdpDiscoveryPeerState :=
  { nodeId
    friendlyName := stringField payload "friendly_name"
    roomId := stringField payload "room_id"
    sensorRole := stringField payload "sensor_role"
    firmwareVersion := stringField payload "firmware_version"
    buildTarget := stringField payload "build_target"
    hostname := stringField payload "hostname"
    ipAddress := stringField payload "ip_address"
    wifiRssiDbm := (jsonFieldI32 payload "wifi_rssi_dbm").getD 0
    -- `max(0) as u8`
    wifiChannel := UInt8.ofNat ((jsonFieldI32 payload "wifi_channel").getD 0).toNat
    uptimeS := (jsonFieldU32 payload "uptime_s").getD 0
    freeHeapBytes := (jsonFieldU32 payload "free_heap_bytes").getD 0
    lastSeenMs := uptimeMs }

namespace UdpDiscoveryPeerState

/-- An announcement keeps what the room summaries have told. -/
def announce (existing peer : UdpDiscoveryPeerState) : UdpDiscoveryPeerState :=
  { existing with
    friendlyName := peer.friendlyName
    roomId := peer.roomId
    sensorRole := peer.sensorRole
    firmwareVersion := peer.firmwareVersion
    buildTarget := peer.buildTarget
    hostname := peer.hostname
    ipAddress := peer.ipAddress
    wifiRssiDbm := peer.wifiRssiDbm
    wifiChannel := peer.wifiChannel
    uptimeS := peer.uptimeS
    freeHeapBytes := peer.freeHeapBytes
    lastSeenMs := peer.lastSeenMs }

/-- A room summary sets the fields it has, with defaults for those that cannot be read. -/
def summarize (peer : UdpDiscoveryPeerState) (payload : Str) (uptimeMs : ℕ) :
    UdpDiscoveryPeerState :=
  { peer with
    roomId := stringField payload "room_id"
    sensorRole := stringField payload "sensor_role"
    firmwareVersion := stringField payload "firmware_version"
    buildTarget := stringField payload "build_target"
    poseXCm := (jsonFieldI32 payload "pose_x_cm").getD 0
    poseYCm := (jsonFieldI32 payload "pose_y_cm").getD 0
    headingDeg := (jsonFieldI32 payload "heading_deg").getD (-90)
    roomWidthCm := UInt16.ofNat ((jsonFieldU32 payload "room_width_cm").getD 600)
    roomHeightCm := UInt16.ofNat ((jsonFieldU32 payload "room_height_cm").getD 400)
    lastSeenMs := uptimeMs
    lastRoomSummaryMs := uptimeMs }

/-- Heard within the last 20 seconds. -/
def Fresh (uptimeMs : ℕ) (peer : UdpDiscoveryPeerState) : Prop :=
  uptimeMs - peer.lastSeenMs ≤ udpDiscoveryPeerFreshnessMs

instance (uptimeMs : ℕ) (peer : UdpDiscoveryPeerState) : Decidable (peer.Fresh uptimeMs) :=
  inferInstanceAs (Decidable (_ ≤ _))

end UdpDiscoveryPeerState

/-- Change the entry of a node, or make one, for which the oldest may have to go. -/
def upsertPeer (nodeId : Str) (f : UdpDiscoveryPeerState → UdpDiscoveryPeerState)
    (fresh : UdpDiscoveryPeerState) (peers : List UdpDiscoveryPeerState) :
    List UdpDiscoveryPeerState :=
  upsert UdpDiscoveryPeerState.nodeId UdpDiscoveryPeerState.lastSeenMs maxUdpDiscoveryPeers nodeId
    f fresh peers

/-- What a message of a node can do to the table. -/
abbrev PeerUpserted (nodeId : Str) (peers peers' : List UdpDiscoveryPeerState) : Prop :=
  Upserted UdpDiscoveryPeerState.nodeId UdpDiscoveryPeerState.lastSeenMs maxUdpDiscoveryPeers nodeId
    peers peers'

namespace FirmwareState

/-- Drop the entries that are too old. -/
def retainFresh (s : FirmwareState) (uptimeMs : ℕ) : FirmwareState :=
  { s with udpDiscoveryPeers := s.udpDiscoveryPeers.filter (·.Fresh uptimeMs) }

def syncUdpDiscoveryPeer (s : FirmwareState) (payload : Str) (uptimeMs : ℕ) : FirmwareState :=
  match s.discoverySender payload with
  | none => s
  | some nodeId =>
    let peer := announcedPeer payload nodeId uptimeMs
    let peers := upsertPeer nodeId (·.announce peer) peer s.udpDiscoveryPeers
    retainFresh { s with udpDiscoveryPeers := peers } uptimeMs

def syncRoomSummaryPeer (s : FirmwareState) (payload : Str) (uptimeMs : ℕ) : FirmwareState :=
  match s.summarySender payload with
  | none => s
  | some nodeId =>
    let blank : UdpDiscoveryPeerState := { nodeId, lastSeenMs := uptimeMs }
    { s with
      udpDiscoveryPeers := upsertPeer nodeId (·.summarize payload uptimeMs)
        (blank.summarize payload uptimeMs) s.udpDiscoveryPeers }

def clearUdpDiscoveryPeers (s : FirmwareState) : FirmwareState :=
  { s with lastUdpDiscoveryAnnounceMs := 0, udpDiscoveryPeers := [] }

/-- The announcement, when it is due; `sent` tells whether the channel takes it. -/
def announceIfDue (s : FirmwareState) (uptimeMs freeHeapBytes : ℕ) (sent : Bool) : FirmwareState :=
  if uptimeMs - s.lastUdpDiscoveryAnnounceMs ≥ udpDiscoveryAnnounceMs ∧
      (buildUdpDiscoveryPayload s uptimeMs freeHeapBytes).isSome ∧ sent then
    { s with lastUdpDiscoveryAnnounceMs := uptimeMs }
  else s

/-- Every datagram is offered to both handlers. -/
def receiveDatagram (s : FirmwareState) (payload : Str) (uptimeMs : ℕ) : FirmwareState :=
  (s.syncUdpDiscoveryPeer payload uptimeMs).syncRoomSummaryPeer payload uptimeMs

/-- One round; `payloads` is what the packet channel holds. -/
def processUdpDiscovery (s : FirmwareState) (station : Bool) (payloads : List Str)
    (uptimeMs freeHeapBytes : ℕ) (sent : Bool) : FirmwareState :=
  if !station then s.clearUdpDiscoveryPeers
  else if !s.wifiConnected then s.retainFresh uptimeMs
  else
    let s := s.announceIfDue uptimeMs freeHeapBytes sent
    let s := payloads.foldl (fun s payload => s.receiveDatagram payload uptimeMs) s
    s.retainFresh uptimeMs

end FirmwareState

/-! ## What a message does to the table -/

theorem upserted_upsertPeer {nodeId : Str} {f : UdpDiscoveryPeerState → UdpDiscoveryPeerState}
    {fresh : UdpDiscoveryPeerState} (hf : ∀ peer, (f peer).nodeId = peer.nodeId)
    (hfresh : fresh.nodeId = nodeId) (peers : List UdpDiscoveryPeerState) :
    PeerUpserted nodeId peers (upsertPeer nodeId f fresh peers) :=
  upserted_upsert (by decide) (fun peer hpeer => (hf peer).trans hpeer) hfresh peers

theorem exists_mem_upsertPeer (nodeId : Str) (f : UdpDiscoveryPeerState → UdpDiscoveryPeerState)
    (fresh : UdpDiscoveryPeerState) (peers : List UdpDiscoveryPeerState) :
    (∃ peer ∈ peers, peer.nodeId = nodeId ∧ f peer ∈ upsertPeer nodeId f fresh peers) ∨
      fresh ∈ upsertPeer nodeId f fresh peers :=
  exists_mem_upsert nodeId f fresh peers

theorem UdpDiscoveryPeerState.fresh_of_lastSeenMs {peer : UdpDiscoveryPeerState} {uptimeMs : ℕ}
    (h : peer.lastSeenMs = uptimeMs) : peer.Fresh uptimeMs := by
  rw [Fresh, h, Nat.sub_self]
  exact Nat.zero_le _

namespace FirmwareState

theorem nodeId_ne_of_otherNode {s : FirmwareState} {payload nodeId : Str}
    (h : s.otherNode payload = some nodeId) : nodeId ≠ [] ∧ nodeId ≠ s.nodeId := by
  simpa using (Option.filter_eq_some_iff.1 h).2

theorem otherNode_of_discoverySender {s : FirmwareState} {payload nodeId : Str}
    (h : s.discoverySender payload = some nodeId) : s.otherNode payload = some nodeId := by
  unfold discoverySender at h
  split at h
  · cases h
  · exact h

theorem otherNode_of_summarySender {s : FirmwareState} {payload nodeId : Str}
    (h : s.summarySender payload = some nodeId) : s.otherNode payload = some nodeId := by
  unfold summarySender at h
  split at h
  · cases h
  · exact h

/-- An announcement changes or inserts its sender's entry, then the table is freed
of old entries. -/
theorem upserted_syncUdpDiscoveryPeer {s : FirmwareState} {payload nodeId : Str}
    (h : s.discoverySender payload = some nodeId) (uptimeMs : ℕ) :
    ∃ peers, PeerUpserted nodeId s.udpDiscoveryPeers peers ∧
      s.syncUdpDiscoveryPeer payload uptimeMs =
        { s with udpDiscoveryPeers := peers.filter (·.Fresh uptimeMs) } := by
  rw [syncUdpDiscoveryPeer, h]
  refine ⟨_, ?_, rfl⟩
  apply upserted_upsertPeer
  · intro peer
    rfl
  · rfl

/-- A room summary changes or inserts its sender's entry. -/
theorem upserted_syncRoomSummaryPeer {s : FirmwareState} {payload nodeId : Str}
    (h : s.summarySender payload = some nodeId) (uptimeMs : ℕ) :
    ∃ peers, PeerUpserted nodeId s.udpDiscoveryPeers peers ∧
      s.syncRoomSummaryPeer payload uptimeMs = { s with udpDiscoveryPeers := peers } := by
  rw [syncRoomSummaryPeer, h]
  refine ⟨_, ?_, rfl⟩
  apply upserted_upsertPeer
  · intro peer
    rfl
  · rfl

/-- A room summary only concerns the table of peers. -/
theorem syncRoomSummaryPeer_eq (s : FirmwareState) (payload : Str) (uptimeMs : ℕ) :
    ∃ peers, s.syncRoomSummaryPeer payload uptimeMs = { s with udpDiscoveryPeers := peers } := by
  rw [syncRoomSummaryPeer]
  split <;> exact ⟨_, rfl⟩

theorem syncUdpDiscoveryPeer_of_none {s : FirmwareState} {payload : Str}
    (h : s.discoverySender payload = none) (uptimeMs : ℕ) :
    s.syncUdpDiscoveryPeer payload uptimeMs = s := by
  rw [syncUdpDiscoveryPeer, h]

theorem syncRoomSummaryPeer_of_none {s : FirmwareState} {payload : Str}
    (h : s.summarySender payload = none) (uptimeMs : ℕ) :
    s.syncRoomSummaryPeer payload uptimeMs = s := by
  rw [syncRoomSummaryPeer, h]

end FirmwareState

/-! ## Messages of one kind -/

/-- The text announces a node. -/
def ReadsAsAnnouncement (payload : Str) : Prop :=
  jsonFieldString payload "kind" = some ("lb_udp_discovery" : Str) ∧
    ∃ nodeId, nodeId ≠ [] ∧ jsonFieldString payload "node_id" = some nodeId

/-- The first quoted `kind` names a string that says the text is no summary, or there
is no node identifier to read. -/
def RulesOutSummary (payload : Str) : Prop :=
  (∃ kind, kind ≠ ("lb_room_summary" : Str) ∧ FirstStringMember payload "kind" kind) ∨
    ¬ ∃ nodeId, FirstStringMember payload "node_id" nodeId

theorem looksLikeRoomSummaryPayload_eq_false_iff (payload : Str) :
    looksLikeRoomSummaryPayload payload = false ↔ RulesOutSummary payload := by
  have hnode : (jsonStringField payload "node_id").isSome ↔
      ∃ nodeId, FirstStringMember payload "node_id" nodeId := by
    rw [Option.isSome_iff_exists]
    simp only [jsonStringField_eq_some_iff]
  rw [RulesOutSummary, ← hnode, looksLikeRoomSummaryPayload]
  simp only [← jsonStringField_eq_some_iff]
  generalize ("lb_room_summary" : Str) = summary
  generalize (jsonStringField payload "node_id").isSome = named
  cases jsonStringField payload "kind" with
  | none => simp
  | some kind => by_cases hkind : kind = summary <;> simp [hkind]

theorem FirmwareState.discoverySender_eq_some_iff {s : FirmwareState} {payload nodeId : Str} :
    s.discoverySender payload = some nodeId ↔
      jsonFieldString payload "kind" = some ("lb_udp_discovery" : Str) ∧
        s.otherNode payload = some nodeId := by
  rw [discoverySender]
  split
  · rename_i hkind
    exact ⟨fun h => absurd h (by simp), fun h => absurd h.1 hkind⟩
  · rename_i hkind
    exact ⟨fun h => ⟨not_not.1 hkind, h⟩, fun h => h.2⟩

/-- A text that announces a node is announced to every node with another identifier. -/
theorem readsAsAnnouncement_iff (payload : Str) :
    ReadsAsAnnouncement payload ↔ ∃ s : FirmwareState, (s.discoverySender payload).isSome := by
  constructor
  · rintro ⟨hkind, nodeId, hne, hnode⟩
    refine ⟨{ nodeId := 'x' :: nodeId }, Option.isSome_iff_exists.2 ⟨nodeId, ?_⟩⟩
    rw [FirmwareState.discoverySender_eq_some_iff, FirmwareState.otherNode, hnode]
    exact ⟨hkind, by simp [hne]⟩
  · rintro ⟨s, hs⟩
    obtain ⟨nodeId, hsender⟩ := Option.isSome_iff_exists.1 hs
    obtain ⟨hkind, hother⟩ := FirmwareState.discoverySender_eq_some_iff.1 hsender
    have hne := FirmwareState.nodeId_ne_of_otherNode hother
    exact ⟨hkind, nodeId, hne.1, (Option.filter_eq_some_iff.1 hother).1⟩

/-- A datagram accepted as an announcement is not taken for a room summary as well,
exactly if it does not announce a node or rules out being a summary. -/
theorem oneKind_iff (payload : Str) :
    (∀ (s : FirmwareState) (uptimeMs : ℕ), (s.discoverySender payload).isSome →
      looksLikeRoomSummaryPayload payload = false ∧
        (s.syncUdpDiscoveryPeer payload uptimeMs).summarySender payload = none) ↔
      (ReadsAsAnnouncement payload → RulesOutSummary payload) := by
  rw [readsAsAnnouncement_iff, ← looksLikeRoomSummaryPayload_eq_false_iff]
  constructor
  · rintro h ⟨s, hs⟩
    exact (h s 0 hs).1
  · intro h s uptimeMs hs
    have hlooks := h ⟨s, hs⟩
    exact ⟨hlooks, by rw [FirmwareState.summarySender, hlooks]; rfl⟩

/-- A value that happens to be the word `kind` stands before the kind of the message. -/
theorem announcement_taken_for_summary :
    ¬ ∀ (payload : Str) (s : FirmwareState) (uptimeMs : ℕ), (s.discoverySender payload).isSome →
      looksLikeRoomSummaryPayload payload = false ∧
        (s.syncUdpDiscoveryPeer payload uptimeMs).summarySender payload = none := by
  intro hall
  have h := hall "\x7b\"role\":\"kind\",\"kind\":\"lb_udp_discovery\",\"node_id\":\"den\"\x7d" {} 0
    (by decide +kernel)
  exact absurd h.1 (by decide +kernel)

end EspWaveRider.Firmware
