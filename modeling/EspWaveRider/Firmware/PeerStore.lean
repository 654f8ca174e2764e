import EspWaveRider.Firmware.Configuration
import EspWaveRider.Firmware.Peers

/-!
# The peer table over the life of a node

Boots, datagrams, room summaries from MQTT, commands and everything else, as a
state machine, and what the table of peers looks like in its states.

* `PeersInvariant` — at most 12 entries, of different nodes, all with an
  identifier and none of them this node;
* `nodeId_handleCommand` — the one command that changes the node's identifier;
* `peerStore_invariant` — the invariant, and what messages do to the table, in
  every run in which the node does not take the identifier of a known peer.
-/

namespace EspWaveRider.Firmware

open Text Command KeyedStore

structure PeersInvariant (s : FirmwareState) : Prop where
  length_le : s.udpDiscoveryPeers.length ≤ maxUdpDiscoveryPeers
  nodup : (s.udpDiscoveryPeers.map (·.nodeId)).Nodup
  other : ∀ peer ∈ s.udpDiscoveryPeers, peer.nodeId ≠ [] ∧ peer.nodeId ≠ s.nodeId

theorem PeersInvariant.of_nil {s : FirmwareState} (h : s.udpDiscoveryPeers = []) :
    PeersInvariant s where
  length_le := by simp [h]
  nodup := by simp [h]
  other := by simp [h]

/-! ## Messages -/

theorem PeersInvariant.upserted {s s' : FirmwareState} {nodeId : Str} (h : PeersInvariant s)
    (hother : nodeId ≠ [] ∧ nodeId ≠ s.nodeId) (hid : s'.nodeId = s.nodeId)
    (hpeers : PeerUpserted nodeId s.udpDiscoveryPeers s'.udpDiscoveryPeers) :
    PeersInvariant s' where
  length_le := hpeers.length_le h.length_le
  nodup := hpeers.nodup h.nodup
  other := by
    rw [hid]
    exact hpeers.forall_key (P := fun id => id ≠ [] ∧ id ≠ s.nodeId) h.other hother

/-- Entries may go. -/
theorem PeersInvariant.sublist {s s' : FirmwareState} (h : PeersInvariant s)
    (hid : s'.nodeId = s.nodeId)
    (hpeers : s'.udpDiscoveryPeers.Sublist s.udpDiscoveryPeers) : PeersInvariant s' where
  length_le := hpeers.length_le.trans h.length_le
  nodup := h.nodup.sublist (hpeers.map _)
  other := by
    rw [hid]
    exact fun peer hpeer => h.other peer (hpeers.subset hpeer)

theorem PeersInvariant.retainFresh {s : FirmwareState} (h : PeersInvariant s) (uptimeMs : ℕ) :
    PeersInvariant (s.retainFresh uptimeMs) :=
  h.sublist rfl List.filter_sublist

theorem PeersInvariant.syncUdpDiscoveryPeer {s : FirmwareState} (h : PeersInvariant s)
    (payload : Str) (uptimeMs : ℕ) : PeersInvariant (s.syncUdpDiscoveryPeer payload uptimeMs) := by
  cases hsender : s.discoverySender payload with
  | none =>
    rw [FirmwareState.syncUdpDiscoveryPeer_of_none hsender]
    exact h
  | some nodeId =>
    obtain ⟨peers, hpeers, hsync⟩ :=
      FirmwareState.upserted_syncUdpDiscoveryPeer hsender uptimeMs
    have hother := FirmwareState.nodeId_ne_of_otherNode
      (FirmwareState.otherNode_of_discoverySender hsender)
    have hmid : PeersInvariant { s with udpDiscoveryPeers := peers } := h.upserted hother rfl hpeers
    rw [hsync]
    exact hmid.retainFresh uptimeMs

theorem PeersInvariant.syncRoomSummaryPeer {s : FirmwareState} (h : PeersInvariant s)
    (payload : Str) (uptimeMs : ℕ) : PeersInvariant (s.syncRoomSummaryPeer payload uptimeMs) := by
  cases hsender : s.summarySender payload with
  | none =>
    rw [FirmwareState.syncRoomSummaryPeer_of_none hsender]
    exact h
  | some nodeId =>
    obtain ⟨peers, hpeers, hsync⟩ := FirmwareState.upserted_syncRoomSummaryPeer hsender uptimeMs
    have hother := FirmwareState.nodeId_ne_of_otherNode
      (FirmwareState.otherNode_of_summarySender hsender)
    rw [hsync]
    exact h.upserted hother rfl hpeers

theorem PeersInvariant.receiveDatagrams {s : FirmwareState} (h : PeersInvariant s)
    (payloads : List Str) (uptimeMs : ℕ) :
    PeersInvariant (payloads.foldl (fun s payload => s.receiveDatagram payload uptimeMs) s) := by
  induction payloads generalizing s with
  | nil => exact h
  | cons payload payloads ih =>
    rw [List.foldl_cons]
    exact ih ((h.syncUdpDiscoveryPeer payload uptimeMs).syncRoomSummaryPeer payload uptimeMs)

theorem PeersInvariant.processUdpDiscovery {s : FirmwareState} (h : PeersInvariant s)
    (station : Bool) (payloads : List Str) (uptimeMs freeHeapBytes : ℕ) (sent : Bool) :
    PeersInvariant (s.processUdpDiscovery station payloads uptimeMs freeHeapBytes sent) := by
  rw [FirmwareState.processUdpDiscovery]
  split
  · exact PeersInvariant.of_nil rfl
  · split
    · exact h.retainFresh uptimeMs
    · have hannounce : PeersInvariant (s.announceIfDue uptimeMs freeHeapBytes sent) := by
        rw [FirmwareState.announceIfDue]
        split
        · exact h.sublist rfl (List.Sublist.refl _)
        · exact h
      exact (hannounce.receiveDatagrams payloads uptimeMs).retainFresh uptimeMs

/-! ## Commands -/

/-- The identifier a configuration gives to the node, when it can be read. -/
def configuredNodeId (s : FirmwareState) : DeviceCommand → Option Str
  | .homeAssistantConfig payload =>
    match parseHomeAssistantConfigPayload payload with
    | .ok config => some (if config.nodeId = [] then defaultNodeId s.macAddress else config.nodeId)
    | .error _ => none
  | _ => none

/-- The fields the invariant is about are the same. -/
def SameIdentity (s s' : FirmwareState) : Prop :=
  s'.nodeId = s.nodeId ∧ s'.udpDiscoveryPeers = s.udpDiscoveryPeers

theorem identity_applyHomeAssistantConfig (s : FirmwareState) (payload : HomeAssistantConfigPayload) :
    (s.applyHomeAssistantConfig payload).nodeId =
        (if payload.nodeId = [] then defaultNodeId s.macAddress else payload.nodeId) ∧
      (s.applyHomeAssistantConfig payload).udpDiscoveryPeers = s.udpDiscoveryPeers :=
  FirmwareState.disconnectedIf_rule (Q := fun t =>
    t.nodeId = (if payload.nodeId = [] then defaultNodeId s.macAddress else payload.nodeId) ∧
      t.udpDiscoveryPeers = s.udpDiscoveryPeers) _ _ id ⟨rfl, rfl⟩

/-- The node has the configured identifier afterwards, and the table is what it was. -/
theorem identity_handleDeviceCommand (s : FirmwareState) (uptimeMs : ℕ) (command : DeviceCommand) :
    (s.handleDeviceCommand uptimeMs command).state.nodeId =
        (configuredNodeId s command).getD s.nodeId ∧
      (s.handleDeviceCommand uptimeMs command).state.udpDiscoveryPeers = s.udpDiscoveryPeers := by
  by_cases hconfig : ∃ payload, command = .homeAssistantConfig payload
  · obtain ⟨payload, rfl⟩ := hconfig
    simp only [FirmwareState.handleDeviceCommand, FirmwareState.configured, configuredNodeId]
    cases parseHomeAssistantConfigPayload payload with
    | ok config => exact identity_applyHomeAssistantConfig s config
    | error _ => exact ⟨rfl, rfl⟩
  · have hother := not_exists.1 hconfig
    have hnone : configuredNodeId s command = none := by
      cases command with
      | homeAssistantConfig payload => exact absurd rfl (hother payload)
      | _ => rfl
    rw [hnone]
    exact FirmwareState.state_handleDeviceCommand_rule (Q := SameIdentity s) ⟨rfl, rfl⟩ uptimeMs hother
      (fun _ => ⟨rfl, rfl⟩) (fun _ _ _ => ⟨rfl, rfl⟩) (fun _ _ _ => ⟨rfl, rfl⟩) (fun _ => ⟨rfl, rfl⟩)
      (fun _ => ⟨rfl, rfl⟩) fun _ => ⟨rfl, rfl⟩

theorem identity_handleCommand (s : FirmwareState) (command : Str) (uptimeMs : ℕ) :
    (s.handleCommand command uptimeMs).state.nodeId =
        ((parseDeviceCommand command).bind (configuredNodeId s)).getD s.nodeId ∧
      (s.handleCommand command uptimeMs).state.udpDiscoveryPeers = s.udpDiscoveryPeers := by
  rw [FirmwareState.state_handleCommand]
  cases parseDeviceCommand command with
  | none => exact ⟨rfl, rfl⟩
  | some command => exact identity_handleDeviceCommand s uptimeMs command

/-- The command does not give the node the identifier of a peer it knows. -/
def KeepsPeersApart (s : FirmwareState) (command : Str) : Prop :=
  ∀ nodeId, (parseDeviceCommand command).bind (configuredNodeId s) = some nodeId →
    nodeId ∉ s.udpDiscoveryPeers.map (·.nodeId)

/-- The table stays as it should be under exactly these commands. -/
theorem PeersInvariant.handleCommand_iff {s : FirmwareState} (h : PeersInvariant s) (command : Str)
    (uptimeMs : ℕ) :
    PeersInvariant (s.handleCommand command uptimeMs).state ↔ KeepsPeersApart s command := by
  obtain ⟨hid, hpeers⟩ := identity_handleCommand s command uptimeMs
  constructor
  · intro h' nodeId hconfigured hmem
    obtain ⟨peer, hpeer, rfl⟩ := List.mem_map.1 hmem
    rw [hconfigured] at hid
    exact (h'.other peer (by rwa [hpeers])).2 hid.symm
  · intro hapart
    refine ⟨by rw [hpeers]; exact h.length_le, by rw [hpeers]; exact h.nodup, fun peer hpeer => ?_⟩
    rw [hpeers] at hpeer
    refine ⟨(h.other peer hpeer).1, fun heq => ?_⟩
    rw [hid] at heq
    cases hconfigured : (parseDeviceCommand command).bind (configuredNodeId s) with
    | none =>
      rw [hconfigured] at heq
      exact (h.other peer hpeer).2 heq
    | some nodeId =>
      rw [hconfigured] at heq
      exact hapart nodeId hconfigured (List.mem_map.2 ⟨peer, hpeer, heq⟩)

/-! ## Every run -/

inductive PeerEvent where
  | boot (mac : Vector UInt8 6) (settings : Option Nvs)
  /-- A round of UDP discovery, with what its packet channel holds. -/
  | discovery (station : Bool) (payloads : List (HString 512)) (uptimeMs freeHeapBytes : ℕ)
      (sent : Bool)
  /-- A room summary that came over MQTT. -/
  | roomSummary (payload : HString 512) (uptimeMs : ℕ)
  | command (command : HString 256) (uptimeMs : ℕ)
  /-- Wi-Fi lost or found, radar, presence, updates: what leaves identifier and peers alone. -/
  | work (next : FirmwareState)

def FirmwareState.peerStep (s : FirmwareState) : PeerEvent → Option FirmwareState
  | .boot mac settings => some (FirmwareState.bootState mac settings)
  | .discovery station payloads uptimeMs freeHeapBytes sent =>
    some (s.processUdpDiscovery station (payloads.map (·.items)) uptimeMs freeHeapBytes sent)
  | .roomSummary payload uptimeMs => some (s.syncRoomSummaryPeer payload.items uptimeMs)
  | .command command uptimeMs => some (s.handleCommand command.items uptimeMs).state
  | .work next =>
    if next.nodeId = s.nodeId ∧ next.udpDiscoveryPeers = s.udpDiscoveryPeers then some next else none

/-- From power on. -/
def peerMachine : Machine FirmwareState PeerEvent where
  start s := s = {}
  step := FirmwareState.peerStep

/-- No command gives the node the identifier of a peer in its table. -/
def PeersApart (s : FirmwareState) : PeerEvent → Prop
  | .command command _ => KeepsPeersApart s command.items
  | _ => True

theorem udpDiscoveryPeers_bootState (mac : Vector UInt8 6) (settings : Option Nvs) :
    (FirmwareState.bootState mac settings).udpDiscoveryPeers = [] := by
  cases settings with
  | none => rfl
  | some settings =>
    show (FirmwareState.loadPersistedConfig _ settings).udpDiscoveryPeers = []
    unfold FirmwareState.loadPersistedConfig
    dsimp only
    split <;> rfl

theorem PeersInvariant.step {s s' : FirmwareState} {e : PeerEvent} (h : PeersInvariant s)
    (hapart : PeersApart s e) (hstep : s.peerStep e = some s') : PeersInvariant s' := by
  cases e with
  | boot mac settings =>
    cases hstep
    exact PeersInvariant.of_nil (udpDiscoveryPeers_bootState mac settings)
  | discovery station payloads uptimeMs freeHeapBytes sent =>
    cases hstep
    exact h.processUdpDiscovery station _ uptimeMs freeHeapBytes sent
  | roomSummary payload uptimeMs =>
    cases hstep
    exact h.syncRoomSummaryPeer payload.items uptimeMs
  | command command uptimeMs =>
    cases hstep
    exact (h.handleCommand_iff command.items uptimeMs).2 hapart
  | work next =>
    rw [FirmwareState.peerStep] at hstep
    split at hstep
    · rename_i hsame
      cases hstep
      exact h.sublist hsame.1 (by rw [hsame.2])
    · cases hstep

/-- What a message may do to the table of a node. -/
structure MessageEffects (s : FirmwareState) (payload : Str) (uptimeMs : ℕ) : Prop where
  announcement : ∀ nodeId, s.discoverySender payload = some nodeId → ∃ peers,
    PeerUpserted nodeId s.udpDiscoveryPeers peers ∧
      s.syncUdpDiscoveryPeer payload uptimeMs =
        { s with udpDiscoveryPeers := peers.filter (·.Fresh uptimeMs) }
  summary : ∀ nodeId, s.summarySender payload = some nodeId → ∃ peers,
    PeerUpserted nodeId s.udpDiscoveryPeers peers ∧
      s.syncRoomSummaryPeer payload uptimeMs = { s with udpDiscoveryPeers := peers }
  ignored : s.discoverySender payload = none → s.syncUdpDiscoveryPeer payload uptimeMs = s
  ignoredSummary : s.summarySender payload = none → s.syncRoomSummaryPeer payload uptimeMs = s

theorem messageEffects (s : FirmwareState) (payload : Str) (uptimeMs : ℕ) :
    MessageEffects s payload uptimeMs where
  announcement _ h := FirmwareState.upserted_syncUdpDiscoveryPeer h uptimeMs
  summary _ h := FirmwareState.upserted_syncRoomSummaryPeer h uptimeMs
  ignored h := FirmwareState.syncUdpDiscoveryPeer_of_none h uptimeMs
  ignoredSummary h := FirmwareState.syncRoomSummaryPeer_of_none h uptimeMs

/-- In every run in which no command takes over the identifier of a known peer, the
table is as it should be and messages change it as they should; any other command
breaks it. -/
theorem peerStore_invariant (s : FirmwareState) :
    (peerMachine.Reach PeersApart s → PeersInvariant s ∧
      ∀ payload uptimeMs, MessageEffects s payload uptimeMs) ∧
    ∀ command uptimeMs, PeersInvariant s →
      (PeersInvariant (s.handleCommand command uptimeMs).state ↔ KeepsPeersApart s command) := by
  refine ⟨fun h => ⟨?_, messageEffects s⟩, fun command uptimeMs hs =>
    hs.handleCommand_iff command uptimeMs⟩
  refine h.invariant ?_ ?_
  · rintro s rfl
    exact PeersInvariant.of_nil rfl
  · intro s e s' hs hapart hstep
    exact hs.step hapart hstep

/-! ### A node that takes over a name -/

def bootedHall : FirmwareState :=
  FirmwareState.bootState ⟨#[0, 0, 0, 0, 0, 0], size_noAddress⟩ (some { nodeId := some "hall" })

def onlineHall : FirmwareState := { bootedHall with wifiConnected := true }

def denAnnouncement : HString 512 :=
  ⟨"\x7b\"kind\":\"lb_udp_discovery\",\"node_id\":\"den\",\"room_id\":\"attic\"\x7d", by decide +kernel⟩

/-- It has heard an announcement of the node `den`. -/
def hallWithPeer : FirmwareState :=
  onlineHall.processUdpDiscovery true [denAnnouncement.items] 7000 200000 true

theorem udpDiscoveryPeers_hallWithPeer : hallWithPeer.udpDiscoveryPeers =
    [{ nodeId := "den", roomId := "attic", lastSeenMs := 7000 }] := by
  have hroom : discoveryLength onlineHall 7000 200000 ≤ 384 := by decide +kernel
  have hbuilt := (isSome_buildUdpDiscoveryPayload_iff onlineHall 7000 200000).2 hroom
  have hannounced : onlineHall.announceIfDue 7000 200000 true =
      { onlineHall with lastUdpDiscoveryAnnounceMs := 7000 } := if_pos ⟨by decide, hbuilt, rfl⟩
  rw [hallWithPeer, FirmwareState.processUdpDiscovery, if_neg (by decide), if_neg (by decide)]
  dsimp only
  rw [hannounced]
  decide +kernel

theorem reach_hallWithPeer {ok : FirmwareState → PeerEvent → Prop}
    (hok : ∀ s e, (∀ command uptimeMs, e ≠ .command command uptimeMs) → ok s e) :
    peerMachine.Reach ok hallWithPeer := by
  have hboot : peerMachine.Reach ok bootedHall :=
    Machine.Reach.step (e := .boot _ _) (Machine.Reach.start rfl) (hok _ _ (by simp)) rfl
  have honline : peerMachine.Reach ok onlineHall :=
    Machine.Reach.step (e := .work onlineHall) hboot (hok _ _ (by simp)) rfl
  exact Machine.Reach.step (e := .discovery true [denAnnouncement] 7000 200000 true) honline
    (hok _ _ (by simp)) rfl

theorem hallWithPeer_invariant :
    (hallWithPeer.udpDiscoveryPeers.map (·.roomId) = [("attic" : Str)]) ∧
      PeersInvariant hallWithPeer := by
  have hreach : peerMachine.Reach PeersApart hallWithPeer := by
    apply reach_hallWithPeer
    intro s e hno
    cases e with
    | command command uptimeMs => exact absurd rfl (hno command uptimeMs)
    | _ => trivial
  refine ⟨?_, ((peerStore_invariant _).1 hreach).1⟩
  rw [udpDiscoveryPeers_hallWithPeer]
  rfl

/-- The node is given the name of its peer and keeps the peer. -/
theorem peer_with_own_identifier :
    ¬ ∀ s, peerMachine.Reach Machine.Always s → PeersInvariant s := by
  intro hall
  have hreach : peerMachine.Reach Machine.Always hallWithPeer :=
    reach_hallWithPeer fun _ _ _ => trivial
  have hrenamed := hall _ (Machine.Reach.step
    (e := .command ⟨"ha_config:net|secret|10.0.0.2|1883|||den|Den", by decide⟩ 8000) hreach trivial rfl)
  have hden : ({ nodeId := "den", roomId := "attic", lastSeenMs := 7000 } : UdpDiscoveryPeerState) ∈
      (hallWithPeer.handleCommand
        "ha_config:net|secret|10.0.0.2|1883|||den|Den" 8000).state.udpDiscoveryPeers := by
    rw [(identity_handleCommand _ _ _).2, udpDiscoveryPeers_hallWithPeer]
    exact List.mem_singleton_self _
  exact absurd (hrenamed.other _ hden).2 (by decide +kernel)

end EspWaveRider.Firmware
