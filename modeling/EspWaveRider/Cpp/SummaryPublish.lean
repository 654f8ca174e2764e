import EspWaveRider.Cpp.PeerPayload

/-!
# When a room summary is published

`publishRoomCollaborationSummary` of `src/main.cpp`.  A summary is published when something in it
has changed since the last one, or when that is ten seconds ago.  What is remembered of the last
one is written down before it is given to the MQTT client, and whether it was sent is not looked at.

* `publishRoomCollaborationSummary` — one call;
* `Recorded` — what is remembered was published;
* `recorded_iff` — this holds throughout a run exactly if every summary in it was sent, and one that
  was not is not sent again until something changes.
-/

namespace EspWaveRider.Cpp

open Text

def roomSummaryKeepaliveMs : UInt32 := 10000
def roomSummaryDistanceDeltaCm : ℤ := 35
def roomSummaryActivityDelta : ℤ := 6

structure PublishedRoomSummaryState where
  valid : Bool := false
  presence : Bool := false
  detectionCandidate : Bool := false
  peopleEstimate : UInt8 := 0
  activeGateCount : UInt8 := 0
  dominantGateDistanceCm : ℤ := -1
  activityScore : UInt8 := 0
  poseXCm : Int16 := 0
  poseYCm : Int16 := 0
  headingDeg : Int16 := -90
  roomWidthCm : UInt16 := 600
  roomHeightCm : UInt16 := 400
  publishedAtMs : UInt32 := 0
  deriving DecidableEq

/-- A call: what it reads, and what `publish` returns if it gets that far. -/
structure SummaryCall where
  connected : Bool
  node : CppNode
  now : UInt32
  published : Bool

namespace SummaryCall

/-- `publish` is called with this topic and this payload, which is to be retained. -/
def topic (c : SummaryCall) : Str := c.node.config.roomNodeSummaryTopic c.node.config.nodeId

def payload (c : SummaryCall) : Str := summaryText { c.node with millis := c.now.toNat }

/-- What is remembered of the summary. -/
def record (c : SummaryCall) : PublishedRoomSummaryState where
  valid := true
  presence := c.node.lastPresence
  detectionCandidate := c.node.detectionCandidate
  peopleEstimate := c.node.estimatedPeople
  activeGateCount := c.node.activeGateCount
  dominantGateDistanceCm := c.node.dominantGateDistanceCm
  activityScore := c.node.activityScore
  poseXCm := c.node.config.roomPoseXCm
  poseYCm := c.node.config.roomPoseYCm
  headingDeg := c.node.config.roomHeadingDeg
  roomWidthCm := c.node.config.roomWidthCm
  roomHeightCm := c.node.config.roomHeightCm
  publishedAtMs := c.now

end SummaryCall

namespace PublishedRoomSummaryState

def distanceChanged (last : PublishedRoomSummaryState) (n : CppNode) : Bool :=
  (last.dominantGateDistanceCm < 0) != (n.dominantGateDistanceCm < 0) ||
    (n.dominantGateDistanceCm ≥ 0 && last.dominantGateDistanceCm ≥ 0 &&
      |n.dominantGateDistanceCm - last.dominantGateDistanceCm| ≥ roomSummaryDistanceDeltaCm)

def activityChanged (last : PublishedRoomSummaryState) (n : CppNode) : Bool :=
  |(n.activityScore.toNat : ℤ) - last.activityScore.toNat| ≥ roomSummaryActivityDelta

def geometryChanged (last : PublishedRoomSummaryState) (n : CppNode) : Bool :=
  n.config.roomPoseXCm != last.poseXCm || n.config.roomPoseYCm != last.poseYCm ||
    n.config.roomHeadingDeg != last.headingDeg || n.config.roomWidthCm != last.roomWidthCm ||
    n.config.roomHeightCm != last.roomHeightCm

/-- The remembered summary is recent, and what the call would send is much the same. -/
def standsFor (last : PublishedRoomSummaryState) (c : SummaryCall) : Bool :=
  last.valid && c.now - last.publishedAtMs < roomSummaryKeepaliveMs &&
    last.presence == c.node.lastPresence && last.detectionCandidate == c.node.detectionCandidate &&
    last.peopleEstimate == c.node.estimatedPeople && last.activeGateCount == c.node.activeGateCount &&
    !last.distanceChanged c.node && !last.activityChanged c.node && !last.geometryChanged c.node

end PublishedRoomSummaryState

/-- What the calls share, and the calls that got as far as `publish`, the newest last. -/
structure SummaryPublisher where
  lastPublishedRoomSummary : PublishedRoomSummaryState := {}
  lastLocalDominantGateDistanceCm : ℤ := -1
  attempts : List SummaryCall := []

namespace SummaryPublisher

/-- The call gets as far as `publish`. -/
def attempted (s : SummaryPublisher) (c : SummaryCall) : Bool :=
  c.connected && !s.lastPublishedRoomSummary.standsFor c

def publishRoomCollaborationSummary (s : SummaryPublisher) (c : SummaryCall) : SummaryPublisher :=
  if !c.connected then s
  else if s.lastPublishedRoomSummary.standsFor c then s
  else
    { lastLocalDominantGateDistanceCm := c.node.dominantGateDistanceCm
      lastPublishedRoomSummary := c.record
      attempts := s.attempts ++ [c] }

/-! ## What is remembered -/

/-- There is a published summary that is remembered with this. -/
def Published (s : SummaryPublisher) (record : PublishedRoomSummaryState) : Prop :=
  ∃ c ∈ s.attempts, c.published = true ∧ c.record = record

/-- What is remembered, if anything is, was published. -/
def Recorded (s : SummaryPublisher) : Prop :=
  s.lastPublishedRoomSummary.valid = true → s.Published s.lastPublishedRoomSummary

/-- In every state of the run, what is remembered was published. -/
def RecordedThroughout (s : SummaryPublisher) : List SummaryCall → Prop
  | [] => s.Recorded
  | c :: calls => s.Recorded ∧ (s.publishRoomCollaborationSummary c).RecordedThroughout calls

/-- The summary is sent if it is given to `publish`, or the very same one, with the same time, had
been sent before. -/
def Sends (s : SummaryPublisher) (c : SummaryCall) : Prop :=
  s.attempted c = true → c.published = true ∨ s.Published c.record

def SendsAll (s : SummaryPublisher) : List SummaryCall → Prop
  | [] => True
  | c :: calls => s.Sends c ∧ (s.publishRoomCollaborationSummary c).SendsAll calls

/-- A call that gets as far as `publish` is remembered, and one that does not changes nothing. -/
theorem publish_cases (s : SummaryPublisher) (c : SummaryCall) :
    (s.attempted c = true ∧ s.publishRoomCollaborationSummary c =
        { lastLocalDominantGateDistanceCm := c.node.dominantGateDistanceCm
          lastPublishedRoomSummary := c.record
          attempts := s.attempts ++ [c] }) ∨
      (s.attempted c = false ∧ s.publishRoomCollaborationSummary c = s) := by
  rw [attempted, publishRoomCollaborationSummary]
  cases c.connected with
  | false => exact Or.inr ⟨rfl, rfl⟩
  | true =>
    cases s.lastPublishedRoomSummary.standsFor c with
    | true => exact Or.inr ⟨rfl, rfl⟩
    | false => exact Or.inl ⟨rfl, rfl⟩

theorem recorded_publish_iff {s : SummaryPublisher} (h : s.Recorded) (c : SummaryCall) :
    (s.publishRoomCollaborationSummary c).Recorded ↔ s.Sends c := by
  rcases s.publish_cases c with ⟨hattempted, hpublish⟩ | ⟨hattempted, hpublish⟩
  · rw [hpublish]
    constructor
    · intro hrecorded _
      obtain ⟨c', hmem, hsent, hrecord⟩ := hrecorded rfl
      rcases List.mem_append.1 hmem with hmem | hmem
      · exact Or.inr ⟨c', hmem, hsent, hrecord⟩
      · rw [List.mem_singleton.1 hmem] at hsent
        exact Or.inl hsent
    · intro hsends _
      rcases hsends hattempted with hsent | ⟨c', hmem, hsent, hrecord⟩
      · exact ⟨c, List.mem_append_right _ (List.mem_singleton_self c), hsent, rfl⟩
      · exact ⟨c', List.mem_append_left _ hmem, hsent, hrecord⟩
  · rw [hpublish, Sends, hattempted]
    exact iff_of_true h (fun hfalse => by cases hfalse)

theorem recordedThroughout_iff {s : SummaryPublisher} (h : s.Recorded) (calls : List SummaryCall) :
    s.RecordedThroughout calls ↔ s.SendsAll calls := by
  induction calls generalizing s with
  | nil => exact iff_of_true h trivial
  | cons c calls ih =>
    have hstep := recorded_publish_iff h c
    constructor
    · rintro ⟨-, hrest⟩
      have hrecorded : (s.publishRoomCollaborationSummary c).Recorded := by
        cases calls with
        | nil => exact hrest
        | cons => exact hrest.1
      exact ⟨hstep.1 hrecorded, (ih hrecorded).1 hrest⟩
    · rintro ⟨hsends, hrest⟩
      exact ⟨h, (ih (hstep.2 hsends)).2 hrest⟩

/-- After a summary was given to `publish`, the next one is if and only if the node is connected
and the first does not stand for it, whether or not the first was sent. -/
theorem attempted_next_iff {s : SummaryPublisher} {c : SummaryCall} (h : s.attempted c = true)
    (next : SummaryCall) : (s.publishRoomCollaborationSummary c).attempted next = true ↔
      next.connected = true ∧ c.record.standsFor next = false := by
  rcases s.publish_cases c with ⟨-, hpublish⟩ | ⟨hattempted, -⟩
  · rw [hpublish, attempted, Bool.and_eq_true, Bool.not_eq_true']
  · rw [h] at hattempted
    cases hattempted

/-- From any state in which what is remembered was published: this remains so throughout a run
exactly if every summary given to `publish` is sent; and after one that is not, the next call tries
again exactly if ten seconds have passed or something has changed. -/
theorem recorded_iff {s : SummaryPublisher} (h : s.Recorded) (calls : List SummaryCall) :
    (s.RecordedThroughout calls ↔ s.SendsAll calls) ∧
      ∀ c next, s.attempted c = true → c.published = false →
        ((s.publishRoomCollaborationSummary c).attempted next = true ↔
          next.connected = true ∧ c.record.standsFor next = false) :=
  ⟨recordedThroughout_iff h calls, fun _ next hattempted _ => attempted_next_iff hattempted next⟩

/-- A node at rest, and its call at a time and with a result. -/
def restingNode : CppNode where
  config := { nodeId := "hall", roomId := "attic" }
  firmwareVersion := "1.0.0"
  firmwareBuildTarget := "esp32dev"
  localIp := "10.0.0.2"
  rssi := -60
  channel := 6
  millis := 0
  freeHeap := 100000
  lastPresence := false
  detectionCandidate := false
  estimatedPeople := 0
  activeGateCount := 0
  dominantGateDistanceCm := -1
  activityScore := 0

def restingCall (now : UInt32) (published : Bool) : SummaryCall :=
  { connected := true, node := restingNode, now, published }

theorem recorded_boot : ({} : SummaryPublisher).Recorded := fun h => by cases h

theorem recorded_iff_resting :
    (RecordedThroughout {} [restingCall 500 true, restingCall 10500 false] ↔
      SendsAll {} [restingCall 500 true, restingCall 10500 false]) ∧
    ∀ c next, attempted {} c = true → c.published = false →
      ((publishRoomCollaborationSummary {} c).attempted next = true ↔
        next.connected = true ∧ c.record.standsFor next = false) :=
  recorded_iff recorded_boot _

/-- A summary that is not sent is remembered, and the next call does not try again. -/
theorem unsent_recorded :
    ¬ (∀ s : SummaryPublisher, s.Recorded → ∀ calls, s.RecordedThroughout calls) ∧
      ¬ (∀ s : SummaryPublisher, s.Recorded → ∀ c next, s.attempted c = true → c.published = false →
        next.connected = true → (s.publishRoomCollaborationSummary c).attempted next = true) := by
  constructor
  · intro hall
    obtain ⟨-, hrecorded⟩ := hall {} recorded_boot [restingCall 500 false]
    obtain ⟨c, hmem, hsent, -⟩ := hrecorded rfl
    rw [List.mem_singleton.1 hmem] at hsent
    cases hsent
  · intro hall
    have hretry := hall {} recorded_boot (restingCall 500 false) (restingCall 1500 true) rfl rfl rfl
    exact absurd hretry (by decide)

end SummaryPublisher

end EspWaveRider.Cpp
