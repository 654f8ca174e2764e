import EspWaveRider.Cpp.RoomPeers
import EspWaveRider.Lib.SlotTable

/-!
# Which nodes become room peers

Everything that reads the table of room peers passes over entries without a recent summary,
but `handleRoomSummaryMessage` of `src/main.cpp` never gives the slot of one away.

* `SinceBoot` — the states after boot, with the nodes that have been heard of;
* `hasEntry_iff` — the first eight of them have an entry, whether they are still there or not;
* `admitsLiveNodes_iff` — when a node without an entry gets one.
-/

namespace EspWaveRider.Cpp

open Text Topic

def roomPeerFreshnessMs : UInt32 := 15000

/-- What a summary says, as far as an entry keeps it. -/
structure RoomPeerSummary.Reports (peer : RoomPeerSummary) (peerNodeId payload : Str) (now : UInt32) :
    Prop where
  occupied : peer.occupied
  nodeId : peer.nodeId = peerNodeId
  sensorRole : peer.sensorRole = jsonFieldString payload Key.sensorRole.1
  firmwareVersion : peer.firmwareVersion = jsonFieldString payload Key.firmwareVersion.1
  buildTarget : peer.buildTarget = jsonFieldString payload Key.buildTarget.1
  presence : peer.presence = jsonFieldBool payload Key.presence.1 false
  detectionCandidate :
    peer.detectionCandidate = jsonFieldBool payload Key.detectionCandidate.1 false
  peopleEstimate :
    peer.peopleEstimate = UInt8.ofNat (jsonFieldInt payload Key.peopleEstimate.1 0).toNat
  activeGateCount :
    peer.activeGateCount = UInt8.ofNat (jsonFieldInt payload Key.activeGateCount.1 0).toNat
  dominantGateDistanceCm :
    peer.dominantGateDistanceCm = jsonFieldInt payload Key.dominantGateDistanceCm.1 (-1)
  activityScore :
    peer.activityScore = UInt8.ofNat (jsonFieldInt payload Key.activityScore.1 0).toNat
  poseXCm : peer.poseXCm = Int16.ofInt (jsonFieldInt payload Key.poseXCm.1 0)
  poseYCm : peer.poseYCm = Int16.ofInt (jsonFieldInt payload Key.poseYCm.1 0)
  headingDeg : peer.headingDeg = Int16.ofInt (jsonFieldInt payload Key.headingDeg.1 (-90))
  roomWidthCm :
    peer.roomWidthCm = UInt16.ofNat (max 100 (jsonFieldInt payload Key.roomWidthCm.1 600)).toNat
  roomHeightCm :
    peer.roomHeightCm = UInt16.ofNat (max 100 (jsonFieldInt payload Key.roomHeightCm.1 400)).toNat
  lastUpdatedMs : peer.lastUpdatedMs = now

namespace RoomPeerSummary

theorem reports_summarize (peer : RoomPeerSummary) (peerNodeId payload : Str) (last distance : ℤ)
    (now : UInt32) : (peer.summarize peerNodeId payload last distance now).Reports peerNodeId payload now := by
  unfold summarize
  dsimp only
  obtain ⟨_, _, _, _, heq⟩ := exists_updateRoomPeerAngleHint last _ distance _
  rw [heq]
  constructor <;> rfl

end RoomPeerSummary

/-- The entries that are read. -/
def freshPeers (roomPeers : RoomPeers) (now : UInt32) : Finset (Fin maxRoomPeers) :=
  Finset.univ.filter fun i =>
    (roomPeers i).occupied ∧ now - (roomPeers i).lastUpdatedMs ≤ roomPeerFreshnessMs

def HasEntry (roomPeers : RoomPeers) (peerNodeId : Str) : Prop :=
  SlotTable.HasKey RoomPeerSummary.occupied RoomPeerSummary.nodeId roomPeers peerNodeId

namespace NodeState

/-- The node that a summary under this topic is about. -/
def summaryNode (s : NodeState) (topic : Str) : Option Str :=
  (topicNodeId topic).filter (· ≠ s.runtimeConfig.nodeId)

/-- The nodes heard of, each once and in order, after a message under this topic. -/
def hearing (s : NodeState) (heard : List Str) (topic : Str) : List Str :=
  match s.summaryNode topic with
  | none => heard
  | some peerNodeId => SlotTable.note heard peerNodeId

/-- The states after boot.  Only summaries touch the table of peers. -/
inductive SinceBoot : NodeState → List Str → Prop where
  | boot {s : NodeState} : s.roomPeers = (fun _ => {}) → SinceBoot s []
  | summary {s : NodeState} {heard : List Str} : SinceBoot s heard →
      ∀ (topic payload : Str) (localDominantGateDistanceCm : ℤ) (now : UInt32),
        SinceBoot (s.handleRoomSummaryMessage topic payload localDominantGateDistanceCm now)
          (s.hearing heard topic)
  | other {s s' : NodeState} {heard : List Str} : SinceBoot s heard → s'.roomPeers = s.roomPeers →
      SinceBoot s' heard

/-- A summary of a node without an entry leaves one behind, when fewer than eight of the
entries are fresh. -/
def AdmitsLiveNode (s : NodeState) (topic payload : Str) (localDominantGateDistanceCm : ℤ)
    (now : UInt32) : Prop :=
  ∀ peerNodeId, s.summaryNode topic = some peerNodeId → ¬ HasEntry s.roomPeers peerNodeId →
    (freshPeers s.roomPeers now).card < maxRoomPeers →
    ∃ slot, ((s.handleRoomSummaryMessage topic payload localDominantGateDistanceCm now).roomPeers
      slot).Reports peerNodeId payload now

/-! ## Every run -/

theorem roomPeers_of_summaryNode_none {s : NodeState} {topic : Str} (h : s.summaryNode topic = none)
    (payload : Str) (distance : ℤ) (now : UInt32) :
    (s.handleRoomSummaryMessage topic payload distance now).roomPeers = s.roomPeers := by
  rw [handleRoomSummaryMessage]
  cases htopic : topicNodeId topic with
  | none => rfl
  | some peerNodeId =>
    have hown : peerNodeId = s.runtimeConfig.nodeId := by
      simpa [summaryNode, htopic] using h
    exact congrArg roomPeers (if_pos hown)

theorem roomPeers_of_summaryNode {s : NodeState} {topic peerNodeId : Str}
    (h : s.summaryNode topic = some peerNodeId) (payload : Str) (distance : ℤ) (now : UInt32) :
    (s.handleRoomSummaryMessage topic payload distance now).roomPeers =
      SlotTable.store RoomPeerSummary.occupied RoomPeerSummary.nodeId s.roomPeers peerNodeId
        (·.summarize peerNodeId payload s.lastLocalDominantGateDistanceCm distance now) := by
  obtain ⟨htopic, hother⟩ := Option.filter_eq_some_iff.1 h
  have hother : peerNodeId ≠ s.runtimeConfig.nodeId := by simpa using hother
  have hslot : peerSlot s.roomPeers peerNodeId =
      SlotTable.slot RoomPeerSummary.occupied RoomPeerSummary.nodeId s.roomPeers peerNodeId := rfl
  rw [handleRoomSummaryMessage, htopic]
  dsimp only
  rw [if_neg hother, SlotTable.store, hslot]
  cases SlotTable.slot RoomPeerSummary.occupied RoomPeerSummary.nodeId s.roomPeers peerNodeId <;> rfl

theorem SinceBoot.filled {s : NodeState} {heard : List Str} (h : SinceBoot s heard) :
    SlotTable.Filled RoomPeerSummary.occupied RoomPeerSummary.nodeId s.roomPeers heard := by
  induction h with
  | boot hempty =>
    rw [hempty]
    exact SlotTable.Filled.empty fun _ => rfl
  | @summary s heard _ topic payload distance now ih =>
    rw [hearing]
    cases hnode : s.summaryNode topic with
    | none =>
      rw [roomPeers_of_summaryNode_none hnode]
      exact ih
    | some peerNodeId =>
      rw [roomPeers_of_summaryNode hnode]
      exact ih.store (fun _ => (summarize_entry ..).2.1) (fun _ => (summarize_entry ..).1)
  | other _ hsame ih =>
    rw [hsame]
    exact ih

/-- A node has an entry exactly if it is one of the first eight heard of. -/
theorem SinceBoot.hasEntry_iff {s : NodeState} {heard : List Str} (h : SinceBoot s heard)
    (peerNodeId : Str) : HasEntry s.roomPeers peerNodeId ↔ peerNodeId ∈ heard.take maxRoomPeers :=
  h.filled.hasKey_iff peerNodeId

/-- Every message of the broker is such a step. -/
theorem SinceBoot.handleMqttMessage {s : NodeState} {heard : List Str} (h : SinceBoot s heard)
    (topic payload : Str) (distance : ℤ) (now : UInt32) :
    ∃ heard', SinceBoot (s.handleMqttMessage topic payload distance now) heard' := by
  rw [NodeState.handleMqttMessage]
  split_ifs
  · exact ⟨heard, h⟩
  · exact ⟨heard, h⟩
  · exact ⟨heard, h.other (roomPeers_handleRoomPoseCommandMessage s payload)⟩
  · exact ⟨_, h.summary topic payload distance now⟩
  · exact ⟨heard, h⟩

/-- A new node gets an entry exactly if fewer than eight others have been heard of. -/
theorem SinceBoot.admitted_iff {s : NodeState} {heard : List Str} (h : SinceBoot s heard)
    {topic peerNodeId : Str} (hnode : s.summaryNode topic = some peerNodeId)
    (hnew : ¬ HasEntry s.roomPeers peerNodeId) (payload : Str) (distance : ℤ) (now : UInt32) :
    (∃ slot, ((s.handleRoomSummaryMessage topic payload distance now).roomPeers slot).Reports
      peerNodeId payload now) ↔ heard.length < maxRoomPeers := by
  rw [← h.filled.exists_free_iff, ← SlotTable.isSome_slot_iff hnew, roomPeers_of_summaryNode hnode,
    SlotTable.store]
  cases hslot : SlotTable.slot RoomPeerSummary.occupied RoomPeerSummary.nodeId s.roomPeers peerNodeId with
  | none =>
    constructor
    · rintro ⟨slot, hreports⟩
      exact absurd ⟨slot, hreports.occupied, hreports.nodeId⟩ hnew
    · intro hsome
      cases hsome
  | some slot =>
    refine ⟨fun _ => rfl, fun _ => ⟨slot, ?_⟩⟩
    dsimp only
    rw [Function.update_self]
    exact RoomPeerSummary.reports_summarize ..

/-- After any run a live node is let in, if fewer than eight entries are fresh, exactly
if fewer than eight nodes have been heard of since boot. -/
theorem admitsLiveNodes_iff {s : NodeState} {heard : List Str} (h : SinceBoot s heard)
    (topic payload : Str) (distance : ℤ) (now : UInt32) :
    s.AdmitsLiveNode topic payload distance now ↔
      ∀ peerNodeId, s.summaryNode topic = some peerNodeId → peerNodeId ∉ heard.take maxRoomPeers →
        (freshPeers s.roomPeers now).card < maxRoomPeers → heard.length < maxRoomPeers := by
  constructor
  · intro hadmits peerNodeId hnode hnew hfresh
    rw [← h.hasEntry_iff] at hnew
    exact (h.admitted_iff hnode hnew payload distance now).1 (hadmits peerNodeId hnode hnew hfresh)
  · intro hroom peerNodeId hnode hnew hfresh
    have hlength := hroom peerNodeId hnode (by rwa [← h.hasEntry_iff]) hfresh
    exact (h.admitted_iff hnode hnew payload distance now).2 hlength

theorem admitsLiveNode_denNode :
    denNode.AdmitsLiveNode (denNode.runtimeConfig.roomTopic .summary hallId) ['{', '}'] 120 5000 :=
  (admitsLiveNodes_iff (SinceBoot.boot rfl) _ _ _ _).2 fun _ _ _ _ => by decide

/-! ### A room of the past -/

/-- Summaries under these topics at these times. -/
def afterSummaries (messages : List (Str × UInt32)) (run : NodeState × List Str) :
    NodeState × List Str :=
  messages.foldl (fun run message => (run.1.handleRoomSummaryMessage message.1 ['{', '}'] 0 message.2,
    run.1.hearing run.2 message.1)) run

theorem SinceBoot.afterSummaries {run : NodeState × List Str} (h : SinceBoot run.1 run.2)
    (messages : List (Str × UInt32)) :
    SinceBoot (NodeState.afterSummaries messages run).1 (NodeState.afterSummaries messages run).2 := by
  induction messages generalizing run with
  | nil => exact h
  | cons message messages ih => exact ih (h.summary message.1 ['{', '}'] 0 message.2)

/-- Eight nodes, each heard once in the first second. -/
def goneNodes : List (Str × UInt32) :=
  ("abcdefgh" : Str).map fun c => (denNode.runtimeConfig.roomTopic .summary [c], 1000)

/-- A minute later another node is not let in. -/
theorem liveNode_refused : ¬ ∀ (s : NodeState) (heard : List Str), SinceBoot s heard →
    ∀ (topic payload : Str) (distance : ℤ) (now : UInt32),
      s.AdmitsLiveNode topic payload distance now := by
  intro hall
  have hrun : SinceBoot (afterSummaries goneNodes (denNode, [])).1
      (afterSummaries goneNodes (denNode, [])).2 :=
    SinceBoot.afterSummaries (SinceBoot.boot rfl) goneNodes
  have hnode : (afterSummaries goneNodes (denNode, [])).1.summaryNode
      (denNode.runtimeConfig.roomTopic .summary hallId) = some hallId := by
    decide +kernel
  have hnew : ¬ HasEntry (afterSummaries goneNodes (denNode, [])).1.roomPeers hallId := by
    rw [hrun.hasEntry_iff]
    decide +kernel
  have hstale : (freshPeers (afterSummaries goneNodes (denNode, [])).1.roomPeers 60000).card <
      maxRoomPeers := by
    decide +kernel
  have hadmitted := hall _ _ hrun (denNode.runtimeConfig.roomTopic .summary hallId) ['{', '}'] 120
    60000 hallId hnode hnew hstale
  rw [hrun.admitted_iff hnode hnew] at hadmitted
  exact absurd hadmitted (by decide +kernel)

end NodeState

end EspWaveRider.Cpp
