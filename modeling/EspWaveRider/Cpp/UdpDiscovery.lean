import EspWaveRider.Cpp.PeerPayload
import EspWaveRider.Cpp.RadarUart
import EspWaveRider.Lib.Machine
import EspWaveRider.Lib.RecentStore

/-!
# Peers discovered over UDP

`serviceUdpDiscovery` and `announceUdpDiscovery` of `src/main.cpp`.  Each node that announces itself
has one of twelve slots; when all of them are taken, a new node gets the slot of the one heard longest
ago.  Slots are only released when the link is lost, and what shows them passes over those that were
not heard for 20 seconds.

* `serviceUdpDiscovery` — one call; `udpMachine` — calls, in the first turn of the clock;
* `right_of_reach` — the slots in use are a `RecentStore` of the nodes that were heard;
* `udpDiscovery_shows_recent` — which nodes are shown, and that each is counted once.
-/

namespace EspWaveRider.Cpp

open Text RecentStore

def maxUdpDiscoveryPeers : ℕ := 12
def udpDiscoveryAnnounceMs : UInt32 := 5000
def udpDiscoveryPeerFreshnessMs : UInt32 := 20000

structure UdpDiscoveryPeer where
  occupied : Bool := false
  nodeId : Str := []
  friendlyName : Str := []
  roomId : Str := []
  sensorRole : Str := []
  firmwareVersion : Str := []
  buildTarget : Str := []
  hostname : Str := []
  ipAddress : Str := []
  wifiRssi : ℤ := 0
  wifiChannel : ℤ := 0
  uptimeSeconds : UInt32 := 0
  freeHeapBytes : UInt32 := 0
  lastSeenMs : UInt32 := 0
  deriving DecidableEq

abbrev UdpDiscoveryPeers := Fin maxUdpDiscoveryPeers → UdpDiscoveryPeer

structure UdpDiscovery where
  udpDiscoveryPeers : UdpDiscoveryPeers := fun _ => {}
  udpDiscoveryStarted : Bool := false
  lastUdpDiscoveryAnnounceMs : UInt32 := 0

/-- A datagram, the address it came from and the time since boot at which it is handled. -/
structure UdpPacket where
  payload : Str
  remoteIP : Str
  time : ℕ
  deriving DecidableEq

/-- What `emitPeerVersionEvent` prints, beside the version of this node. -/
structure PeerVersionEvent where
  nodeId : Str
  peerVersion : Str
  mismatch : Bool
  deriving DecidableEq

/-! ## Announcements of others -/

/-- The node that announces itself, when it is another one. -/
def announcementSender (ownNodeId payload : Str) : Option Str :=
  if jsonFieldString payload Key.kind.1 ≠ ("lb_udp_discovery" : Str) then none
  else
    let nodeId := jsonFieldString payload Key.nodeId.1
    if nodeId ≠ [] ∧ nodeId ≠ ownNodeId then some nodeId else none

/-- `static_cast<uint32_t>(max(0, value))`. -/
def unsignedField (value : ℤ) : UInt32 := UInt32.ofNat value.toNat

def announcedPeer (nodeId : Str) (packet : UdpPacket) : UdpDiscoveryPeer :=
  let payload := packet.payload
  let ipAddress := jsonFieldString payload Key.ipAddress.1
  { occupied := true
    nodeId
    friendlyName := jsonFieldString payload Key.friendlyName.1
    roomId := jsonFieldString payload Key.roomId.1
    sensorRole := jsonFieldString payload Key.sensorRole.1
    firmwareVersion := jsonFieldString payload Key.firmwareVersion.1
    buildTarget := jsonFieldString payload Key.buildTarget.1
    hostname := jsonFieldString payload Key.hostname.1
    ipAddress := if ipAddress = [] then packet.remoteIP else ipAddress
    wifiRssi := jsonFieldInt payload Key.wifiRssiDbm.1 0
    wifiChannel := jsonFieldInt payload Key.wifiChannel.1 0
    uptimeSeconds := unsignedField (jsonFieldInt payload Key.uptimeS.1 0)
    freeHeapBytes := unsignedField (jsonFieldInt payload Key.freeHeapBytes.1 0)
    lastSeenMs := millis packet.time }

theorem maxUdpDiscoveryPeers_pos : 0 < maxUdpDiscoveryPeers := by decide

/-- The first of the slots with the smallest time. -/
def oldestPeer (peers : UdpDiscoveryPeers) : Fin maxUdpDiscoveryPeers :=
  (List.finRange maxUdpDiscoveryPeers).tail.foldl
    (fun slot i => if (peers i).lastSeenMs < (peers slot).lastSeenMs then i else slot)
    ⟨0, maxUdpDiscoveryPeers_pos⟩

/-- The slot of a node, or else the first free one, or else the oldest. -/
def discoverySlot (peers : UdpDiscoveryPeers) (nodeId : Str) : Fin maxUdpDiscoveryPeers :=
  (SlotTable.slot UdpDiscoveryPeer.occupied UdpDiscoveryPeer.nodeId peers nodeId).getD (oldestPeer peers)

def peerVersionMismatch (firmwareVersion peerVersion : Str) : Bool :=
  peerVersion = [] || peerVersion ≠ firmwareVersion

namespace UdpDiscovery

/-- The body of the loop over the datagrams. -/
def receivePacket (own : CppNode) (s : UdpDiscovery) (packet : UdpPacket) :
    UdpDiscovery × List PeerVersionEvent :=
  match announcementSender own.config.nodeId packet.payload with
  | none => (s, [])
  | some nodeId =>
    let slot := discoverySlot s.udpDiscoveryPeers nodeId
    let previous := s.udpDiscoveryPeers slot
    let peer := announcedPeer nodeId packet
    let mismatch := peerVersionMismatch own.firmwareVersion peer.firmwareVersion
    let previousMismatch := peerVersionMismatch own.firmwareVersion previous.firmwareVersion
    let event := if !previous.occupied || previous.firmwareVersion ≠ peer.firmwareVersion ||
        previousMismatch ≠ mismatch then [⟨peer.nodeId, peer.firmwareVersion, mismatch⟩] else []
    ({ s with udpDiscoveryPeers := Function.update s.udpDiscoveryPeers slot peer }, event)

def receivePackets (own : CppNode) : UdpDiscovery → List UdpPacket → UdpDiscovery × List PeerVersionEvent
  | s, [] => (s, [])
  | s, packet :: packets =>
    let (s, event) := s.receivePacket own packet
    let (s, events) := receivePackets own s packets
    (s, event ++ events)

end UdpDiscovery

/-! ## A call of the service -/

/-- What a call finds: whether there is a link, whether the port can be opened when it is not open,
the datagrams, the time after them, and for an announcement whether the port can be opened by then,
whether the datagram can be begun and when it is sent. -/
structure UdpRound where
  connected : Bool
  begins : Bool
  packets : List UdpPacket
  servicedAt : ℕ
  beginsAgain : Bool
  sent : Bool
  announcedAt : ℕ

structure UdpOutput where
  events : List PeerVersionEvent := []
  announcement : Option Str := none
  deriving DecidableEq

namespace UdpDiscovery

/-- `announceUdpDiscovery(false)`. -/
def announceUdpDiscovery (s : UdpDiscovery) (own : CppNode) (r : UdpRound) : UdpDiscovery × Option Str :=
  if !r.connected then (s, none)
  else if !s.udpDiscoveryStarted && !r.beginsAgain then (s, none)
  else
    let s := { s with udpDiscoveryStarted := true }
    if r.sent then
      ({ s with lastUdpDiscoveryAnnounceMs := millis r.announcedAt }, some (announcementText own))
    else (s, none)

/-- The port is opened, when it is not open yet. -/
def begin (s : UdpDiscovery) (begins : Bool) : UdpDiscovery :=
  if s.udpDiscoveryStarted then s
  else if begins then { s with udpDiscoveryStarted := true, lastUdpDiscoveryAnnounceMs := 0 }
  else s

/-- The link is lost: the slots are released, and what was in them stays there. -/
def disconnect (s : UdpDiscovery) : UdpDiscovery :=
  { s with
    udpDiscoveryStarted := false
    udpDiscoveryPeers := fun i => { s.udpDiscoveryPeers i with occupied := false } }

def serviceUdpDiscovery (s : UdpDiscovery) (own : CppNode) (r : UdpRound) : UdpDiscovery × UdpOutput :=
  if !r.connected then (s.disconnect, {})
  else
    let (s, events) := (s.begin r.begins).receivePackets own r.packets
    if millis r.servicedAt - s.lastUdpDiscoveryAnnounceMs ≥ udpDiscoveryAnnounceMs then
      let (s, announcement) := s.announceUdpDiscovery own r
      (s, { events, announcement })
    else (s, { events })

/-! ### What is shown -/

/-- The peers that `appendUdpDiscoveryPeersJson` writes, in the order of their slots. -/
def activePeers (s : UdpDiscovery) (now : UInt32) : List UdpDiscoveryPeer :=
  ((List.finRange maxUdpDiscoveryPeers).map s.udpDiscoveryPeers).filter fun peer =>
    peer.occupied && now - peer.lastSeenMs ≤ udpDiscoveryPeerFreshnessMs

def activeUdpDiscoveryPeerCount (s : UdpDiscovery) (now : UInt32) : UInt8 :=
  UInt8.ofNat ((List.finRange maxUdpDiscoveryPeers).countP fun i =>
    (s.udpDiscoveryPeers i).occupied &&
      now - (s.udpDiscoveryPeers i).lastSeenMs ≤ udpDiscoveryPeerFreshnessMs)

def Shows (s : UdpDiscovery) (now : UInt32) (nodeId : Str) : Prop :=
  ∃ peer ∈ s.activePeers now, peer.nodeId = nodeId

end UdpDiscovery

/-! ## Runs -/

/-- The state, with the time since boot and when each node was heard last over this link. -/
structure UdpRun where
  state : UdpDiscovery
  clock : ℕ
  heard : Str → Option ℕ

namespace UdpRun

/-- When each node was heard last, after one more datagram. -/
def note (own : CppNode) (heard : Str → Option ℕ) (packet : UdpPacket) : Str → Option ℕ :=
  match announcementSender own.config.nodeId packet.payload with
  | none => heard
  | some nodeId => Function.update heard nodeId (some packet.time)

def service (s : UdpRun) (own : CppNode) (r : UdpRound) : UdpRun where
  state := (s.state.serviceUdpDiscovery own r).1
  clock := r.announcedAt
  heard := if r.connected then r.packets.foldl (note own) s.heard else fun _ => none

end UdpRun

/-- The times of a call, one after the other. -/
def UdpRound.times (r : UdpRound) : List ℕ := r.packets.map (·.time) ++ [r.servicedAt, r.announcedAt]

/-- Calls in the first turn of the clock.  What a node is called may change between them. -/
def udpMachine : Machine UdpRun (CppNode × UdpRound) where
  start s := s = ⟨{}, 0, fun _ => none⟩
  step s e :=
    if (s.clock :: e.2.times).Pairwise (· ≤ ·) ∧ e.2.announcedAt < 2 ^ 32 then some (s.service e.1 e.2)
    else none

theorem step_udpMachine {s : UdpRun} {own : CppNode} {r : UdpRound}
    (hle : (s.clock :: r.times).Pairwise (· ≤ ·)) (hlt : r.announcedAt < 2 ^ 32) :
    udpMachine.step s (own, r) = some (s.service own r) := if_pos ⟨hle, hlt⟩

/-! ## The slots are a store of what was heard last -/

namespace UdpDiscovery

/-- The times in the slots in use. -/
def held (s : UdpDiscovery) : Str → Option ℕ :=
  slotAges UdpDiscoveryPeer.occupied UdpDiscoveryPeer.nodeId (·.lastSeenMs.toNat) s.udpDiscoveryPeers

/-- No node has two slots. -/
def Distinct (s : UdpDiscovery) : Prop :=
  SlotTable.Distinct UdpDiscoveryPeer.occupied UdpDiscoveryPeer.nodeId s.udpDiscoveryPeers

theorem oldestPeer_le (peers : UdpDiscoveryPeers) (i : Fin maxUdpDiscoveryPeers) :
    (peers (oldestPeer peers)).lastSeenMs.toNat ≤ (peers i).lastSeenMs.toNat := by
  have hscan : oldestPeer peers = leastRecent (fun i => (peers i).lastSeenMs.toNat)
      ⟨0, maxUdpDiscoveryPeers_pos⟩ (List.finRange maxUdpDiscoveryPeers).tail := rfl
  rw [hscan]
  refine leastRecent_le (fun i => (peers i).lastSeenMs.toNat) _ _ i ?_
  have hall : ⟨0, maxUdpDiscoveryPeers_pos⟩ :: (List.finRange maxUdpDiscoveryPeers).tail =
      List.finRange maxUdpDiscoveryPeers := rfl
  rw [hall]
  exact List.mem_finRange i

theorem given_discoverySlot (peers : UdpDiscoveryPeers) (nodeId : Str) :
    Given UdpDiscoveryPeer.occupied UdpDiscoveryPeer.nodeId (·.lastSeenMs.toNat) peers nodeId
      (discoverySlot peers nodeId) := by
  rw [discoverySlot]
  rcases SlotTable.slot_cases UdpDiscoveryPeer.occupied UdpDiscoveryPeer.nodeId peers nodeId with
    ⟨i, hslot, hi⟩ | ⟨hnew, i, hslot, hi⟩ | ⟨hnew, hslot, hfull⟩
  · rw [hslot]
    exact .own hi.1 hi.2
  · rw [hslot]
    exact .free hnew hi
  · rw [hslot]
    exact .oldest hnew hfull (oldestPeer_le peers)

theorem toNat_millis {time : ℕ} (h : time < 2 ^ 32) : (millis time).toNat = time := by
  rw [millis, UInt32.toNat_ofNat', Nat.mod_eq_of_lt h]

end UdpDiscovery

namespace UdpRun

open UdpDiscovery

/-- The slots hold, of the nodes that were heard, the ones that were heard last. -/
structure Right (state : UdpDiscovery) (clock : ℕ) (heard : Str → Option ℕ) : Prop where
  distinct : state.Distinct
  recalls : Recalls maxUdpDiscoveryPeers 20000 clock heard state.held

theorem Right.of_same {state state' : UdpDiscovery} {clock : ℕ} {heard : Str → Option ℕ}
    (h : Right state clock heard) (hsame : state'.udpDiscoveryPeers = state.udpDiscoveryPeers) :
    Right state' clock heard where
  distinct := by
    rw [Distinct, hsame]
    exact h.distinct
  recalls := by
    rw [held, hsame]
    exact h.recalls

theorem Right.later {state : UdpDiscovery} {clock clock' : ℕ} {heard : Str → Option ℕ}
    (h : Right state clock heard) (hle : clock ≤ clock') : Right state clock' heard :=
  ⟨h.distinct, h.recalls.later hle⟩

theorem right_of_free {state : UdpDiscovery} (h : ∀ i, (state.udpDiscoveryPeers i).occupied = false)
    (clock : ℕ) : Right state clock fun _ => none where
  distinct i _ hi _ _ := by
    rw [h i] at hi
    cases hi
  recalls := by
    have hheld : state.held = fun _ => none := by
      funext nodeId
      rw [held, slotAges_eq_none_iff]
      rintro ⟨i, hi, -⟩
      rw [h i] at hi
      cases hi
    rw [hheld]
    exact Recalls.empty ..

/-- One datagram. -/
theorem Right.receivePacket {state : UdpDiscovery} {clock : ℕ} {heard : Str → Option ℕ}
    (h : Right state clock heard) (own : CppNode) {packet : UdpPacket} (hle : clock ≤ packet.time)
    (hlt : packet.time < 2 ^ 32) :
    Right (state.receivePacket own packet).1 packet.time (note own heard packet) := by
  rw [UdpDiscovery.receivePacket, note]
  cases announcementSender own.config.nodeId packet.payload with
  | none => exact h.later hle
  | some nodeId =>
    have hgiven := given_discoverySlot state.udpDiscoveryPeers nodeId
    exact ⟨hgiven.distinct h.distinct rfl, (h.recalls.later hle).hear
      (noted_update h.distinct hgiven rfl rfl (toNat_millis hlt))⟩

/-- The datagrams of a call. -/
theorem Right.receivePackets {state : UdpDiscovery} {clock : ℕ} {heard : Str → Option ℕ}
    (h : Right state clock heard) (own : CppNode) {packets : List UdpPacket}
    (hle : (clock :: packets.map (·.time)).Pairwise (· ≤ ·)) (hlt : ∀ p ∈ packets, p.time < 2 ^ 32)
    {servicedAt : ℕ} (hserviced : ∀ time ∈ clock :: packets.map (·.time), time ≤ servicedAt) :
    Right (state.receivePackets own packets).1 servicedAt (packets.foldl (note own) heard) := by
  induction packets generalizing state clock heard with
  | nil => exact h.later (hserviced clock (List.mem_cons_self ..))
  | cons packet packets ih =>
    rw [List.map_cons, List.pairwise_cons] at hle
    rw [UdpDiscovery.receivePackets, List.foldl_cons]
    have hpacket := h.receivePacket own (hle.1 packet.time (List.mem_cons_self ..))
      (hlt packet (List.mem_cons_self ..))
    exact ih hpacket hle.2 (fun p hp => hlt p (List.mem_cons_of_mem _ hp)) fun time htime =>
      hserviced time (List.mem_cons_of_mem _ htime)

theorem peers_announceUdpDiscovery (state : UdpDiscovery) (own : CppNode) (r : UdpRound) :
    (state.announceUdpDiscovery own r).1.udpDiscoveryPeers = state.udpDiscoveryPeers := by
  rw [announceUdpDiscovery]
  repeat' split
  all_goals rfl

theorem peers_begin (state : UdpDiscovery) (begins : Bool) :
    (state.begin begins).udpDiscoveryPeers = state.udpDiscoveryPeers := by
  rw [begin]
  repeat' split
  all_goals rfl

/-- A call leaves of the slots what its datagrams make of them. -/
theorem peers_serviceUdpDiscovery {r : UdpRound} (h : r.connected) (state : UdpDiscovery) (own : CppNode) :
    (state.serviceUdpDiscovery own r).1.udpDiscoveryPeers =
      ((state.begin r.begins).receivePackets own r.packets).1.udpDiscoveryPeers := by
  rw [serviceUdpDiscovery, h]
  rw [if_neg (by simp)]
  dsimp only
  split
  · exact peers_announceUdpDiscovery ..
  · rfl

/-- One call. -/
theorem Right.service {s : UdpRun} (h : Right s.state s.clock s.heard) {own : CppNode} {r : UdpRound}
    (hle : (s.clock :: r.times).Pairwise (· ≤ ·)) (hlt : r.announcedAt < 2 ^ 32) :
    Right (s.service own r).state (s.service own r).clock (s.service own r).heard := by
  cases hconnected : r.connected with
  | false =>
    have hservice : s.service own r = ⟨s.state.disconnect, r.announcedAt, fun _ => none⟩ := by
      rw [UdpRun.service, serviceUdpDiscovery, hconnected]
      rfl
    rw [hservice]
    exact right_of_free (fun _ => rfl) _
  | true =>
    have hsplit : s.clock :: r.times = (s.clock :: r.packets.map (·.time)) ++ [r.servicedAt, r.announcedAt] :=
      rfl
    rw [hsplit, List.pairwise_append] at hle
    obtain ⟨hpackets, hlast, htimes⟩ := hle
    have hserviced : r.servicedAt ≤ r.announcedAt := by simpa using hlast
    have hbefore : ∀ time ∈ s.clock :: r.packets.map (·.time), time ≤ r.servicedAt := fun time htime =>
      htimes time htime r.servicedAt (List.mem_cons_self ..)
    have hreceived := (h.of_same (peers_begin s.state r.begins)).receivePackets own hpackets
      (fun p hp => by
        have hp := hbefore p.time (List.mem_cons_of_mem _ (List.mem_map.2 ⟨p, hp, rfl⟩))
        omega) hbefore
    rw [UdpRun.service, hconnected, if_pos rfl]
    exact (hreceived.of_same (peers_serviceUdpDiscovery hconnected s.state own)).later hserviced

theorem right_of_reach {s : UdpRun} (h : udpMachine.Reach Machine.Always s) :
    Right s.state s.clock s.heard := by
  refine h.invariant (I := fun s => Right s.state s.clock s.heard) (fun s hs => ?_) fun s e s' hright _ hstep => ?_
  · rw [hs]
    exact right_of_free (fun _ => rfl) 0
  · simp only [udpMachine] at hstep
    split at hstep
    · rename_i htimes
      cases hstep
      exact hright.service htimes.1 htimes.2
    · cases hstep

end UdpRun

/-! ## Which nodes are shown -/

namespace UdpDiscovery

theorem mem_activePeers {s : UdpDiscovery} {now : UInt32} {peer : UdpDiscoveryPeer} :
    peer ∈ s.activePeers now ↔ (∃ i, s.udpDiscoveryPeers i = peer) ∧ peer.occupied ∧
      now - peer.lastSeenMs ≤ udpDiscoveryPeerFreshnessMs := by
  rw [activePeers, List.mem_filter]
  simp

theorem recent_held_iff {s : UdpDiscovery} (h : s.Distinct) {now : ℕ} (hnow : now < 2 ^ 32)
    (hpast : ∀ nodeId t, s.held nodeId = some t → t ≤ now) (nodeId : Str) :
    Recent 20000 now s.held nodeId ↔ s.Shows (millis now) nodeId := by
  have hfresh {i : Fin maxUdpDiscoveryPeers} (hi : (s.udpDiscoveryPeers i).occupied) :
      now - (s.udpDiscoveryPeers i).lastSeenMs.toNat ≤ 20000 ↔
        millis now - (s.udpDiscoveryPeers i).lastSeenMs ≤ udpDiscoveryPeerFreshnessMs := by
    have hle := hpast _ _ (slotAges_of_occupied h hi)
    have hms : (s.udpDiscoveryPeers i).lastSeenMs = millis (s.udpDiscoveryPeers i).lastSeenMs.toNat := by
      rw [millis, UInt32.ofNat_toNat]
    rw [hms, UInt32.le_iff_toNat_le, toNat_millis_sub (hms ▸ hle), ← hms, Nat.mod_eq_of_lt (by omega)]
    rfl
  constructor
  · rintro ⟨t, ht, hrecent⟩
    obtain ⟨i, hi, hnode, rfl⟩ := exists_of_slotAges ht
    exact ⟨s.udpDiscoveryPeers i, mem_activePeers.2 ⟨⟨i, rfl⟩, hi, (hfresh hi).1 hrecent⟩, hnode⟩
  · rintro ⟨peer, hpeer, rfl⟩
    obtain ⟨⟨i, rfl⟩, hi, hrecent⟩ := mem_activePeers.1 hpeer
    exact ⟨_, slotAges_of_occupied h hi, (hfresh hi).2 hrecent⟩

theorem nodup_activePeers {s : UdpDiscovery} (h : s.Distinct) (now : UInt32) :
    ((s.activePeers now).map (·.nodeId)).Nodup := by
  rw [activePeers, List.filter_map, List.map_map]
  refine List.Nodup.map_on (fun i hi j hj hij => ?_) ((List.nodup_finRange _).filter _)
  simp only [List.mem_filter, Function.comp_apply, Bool.and_eq_true] at hi hj
  exact h i j hi.2.1 hj.2.1 hij

/-- The count does not wrap. -/
theorem toNat_activeUdpDiscoveryPeerCount (s : UdpDiscovery) (now : UInt32) :
    (s.activeUdpDiscoveryPeerCount now).toNat = (s.activePeers now).length := by
  rw [activeUdpDiscoveryPeerCount, activePeers, List.filter_map, List.length_map,
    ← List.countP_eq_length_filter, UInt8.toNat_ofNat', Nat.mod_eq_of_lt]
  · rfl
  · refine List.countP_le_length.trans_lt ?_
    rw [List.length_finRange]
    decide

end UdpDiscovery

theorem UdpRun.showsRecent_of_reach {s : UdpRun} (h : udpMachine.Reach Machine.Always s) {now : ℕ}
    (hclock : s.clock ≤ now) (hnow : now < 2 ^ 32) :
    ShowsRecent maxUdpDiscoveryPeers 20000 now s.heard (s.state.Shows (millis now)) := by
  obtain ⟨hdistinct, hrecalls⟩ := UdpRun.right_of_reach h
  have hrecalls := hrecalls.later hclock
  have hshown : s.state.Shows (millis now) = Recent 20000 now s.state.held := by
    funext nodeId
    refine propext (UdpDiscovery.recent_held_iff hdistinct hnow (fun nodeId t ht => ?_) nodeId).symm
    exact hrecalls.past nodeId t (hrecalls.noted nodeId t ht)
  rw [hshown]
  exact hrecalls.showsRecent

/-- In every run a node is shown while it was heard of within 20 seconds and fewer than twelve
others were heard of since, and each node is shown and counted once. -/
theorem udpDiscovery_shows_recent {s : UdpRun} (h : udpMachine.Reach Machine.Always s) {now : ℕ}
    (hclock : s.clock ≤ now) (hnow : now < 2 ^ 32) :
    ShowsRecent maxUdpDiscoveryPeers 20000 now s.heard (s.state.Shows (millis now)) ∧
      ((s.state.activePeers (millis now)).map (·.nodeId)).Nodup ∧
      (s.state.activeUdpDiscoveryPeerCount (millis now)).toNat =
        (s.state.activePeers (millis now)).length :=
  ⟨UdpRun.showsRecent_of_reach h hclock hnow,
    UdpDiscovery.nodup_activePeers (UdpRun.right_of_reach h).distinct _,
    s.state.toNat_activeUdpDiscoveryPeerCount _⟩

/-! ### A node that hears another one -/

def listeningNode : CppNode where
  config := { nodeId := "den" }
  firmwareVersion := "1.2.3"
  firmwareBuildTarget := "esp32"
  localIp := "192.168.1.20"
  rssi := -60
  channel := 6
  millis := 5000
  freeHeap := 200000
  lastPresence := false
  detectionCandidate := false
  estimatedPeople := 0
  activeGateCount := 0
  dominantGateDistanceCm := -1
  activityScore := 0

def hallPacket : UdpPacket where
  payload := "\x7b\"kind\":\"lb_udp_discovery\",\"node_id\":\"hall\",\"uptime_s\":7\x7d"
  remoteIP := "192.168.1.21"
  time := 4000

def listeningRound : UdpRound where
  connected := true
  begins := true
  packets := [hallPacket]
  servicedAt := 5000
  beginsAgain := false
  sent := true
  announcedAt := 5001

theorem reach_listening : ∃ s, udpMachine.Reach Machine.Always s ∧ s.clock = 5001 ∧
    (s.state.activePeers (millis 6000)).map (·.nodeId) = [("hall" : Str)] :=
  Machine.exists_reach_of_run (.start rfl) [(listeningNode, listeningRound)] (by decide +kernel)

/-- The other node is the only one that is shown. -/
theorem udpDiscovery_shows_hall : ∃ s, udpMachine.Reach Machine.Always s ∧
    ShowsRecent maxUdpDiscoveryPeers 20000 6000 s.heard (s.state.Shows (millis 6000)) ∧
    (s.state.activeUdpDiscoveryPeerCount (millis 6000)).toNat = 1 := by
  obtain ⟨s, hreach, hclock, hactive⟩ := reach_listening
  obtain ⟨hshows, -, hcount⟩ := @udpDiscovery_shows_recent s hreach 6000
    (by rw [hclock]; decide) (by decide)
  refine ⟨s, hreach, hshows, ?_⟩
  rw [hcount, ← List.length_map, hactive]
  rfl

end EspWaveRider.Cpp
