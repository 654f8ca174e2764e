import EspWaveRider.Cpp.PeerPayload
import EspWaveRider.Lib.Topic

/-!
# Messages of a room

`handleMqttMessage` of `src/main.cpp` and what it calls: the table of room peers and
the pose commands.

* `roomPeers_handleMqttMessage` — what a message under a subscription does to the table;
* `summaryFrame_iff` — when only summaries change it, and only the entry of their node;
* `roomIsolation_iff` — when the summaries of one room stay out of another.
-/

namespace EspWaveRider.Cpp

open Text Topic

def maxRoomPeers : ℕ := 8
def roomAngleMotionThresholdCm : ℕ := 12
def roomAngleScoreLimit : ℤ := 12

structure RoomPeerSummary where
  occupied : Bool := false
  nodeId : Str := []
  sensorRole : Str := []
  firmwareVersion : Str := []
  buildTarget : Str := []
  presence : Bool := false
  detectionCandidate : Bool := false
  peopleEstimate : UInt8 := 0
  activeGateCount : UInt8 := 0
  dominantGateDistanceCm : ℤ := -1
  activityScore : UInt8 := 0
  poseXCm : Int16 := 0
  poseYCm : Int16 := 0
  headingDeg : Int16 := -90
  roomWidthCm : UInt16 := 600
  roomHeightCm : UInt16 := 400
  relativeAngleGuessDeg : ℤ := 0
  relativeAngleConfidencePercent : UInt8 := 0
  parallelScore : ℤ := 0
  perpendicularScore : ℤ := 0
  lastObservedDistanceCm : ℤ := -1
  lastUpdatedMs : UInt32 := 0
  deriving DecidableEq

/-- A table of fixed size. -/
abbrev RoomPeers := Fin maxRoomPeers → RoomPeerSummary

inductive MqttTransport where
  | wiFi
  | webSocket (host : Str) (port : UInt16) (path hostHeader : Str)
  deriving DecidableEq

/-- The MQTT client: what it is subscribed to belongs to the connection, its buffer
does not. -/
structure PubSubClient where
  connected : Bool := false
  bufferSize : ℕ := 256
  subscriptions : List Str := []
  transport : MqttTransport := .wiFi
  server : Str × UInt16 := ([], 0)
  deriving DecidableEq

structure NodeState where
  /-- The last digits of the device's address. -/
  deviceIdentitySuffix : Str := []
  runtimeConfig : RuntimeHomeAssistantConfig := {}
  roomPeers : RoomPeers := fun _ => {}
  lastLocalDominantGateDistanceCm : ℤ := -1
  mqttClient : PubSubClient := {}
  lastWiFiConnectAttemptMs : UInt32 := 0
  lastMqttConnectAttemptMs : UInt32 := 0
  lastMqttState : ℤ := -1
  lastResolvedMqttHost : Str := []

/-! ## Room peers -/

namespace RoomPeerSummary

/-- One step towards zero. -/
def towardsZero (score : ℤ) : ℤ := if score > 0 then score - 1 else if score < 0 then score + 1 else 0

def raised (score by_ : ℤ) : ℤ := min roomAngleScoreLimit (score + by_)

def lowered (score : ℤ) : ℤ := max (-roomAngleScoreLimit) (score - 1)

/-- The scores after this much motion here and there. -/
def rescored (peer : RoomPeerSummary) (localDelta peerDelta : ℤ) : RoomPeerSummary :=
  let localMoved : Bool := roomAngleMotionThresholdCm ≤ localDelta.natAbs
  let peerMoved : Bool := roomAngleMotionThresholdCm ≤ peerDelta.natAbs
  if localMoved && peerMoved then
    if (localDelta > 0 ∧ peerDelta > 0) ∨ (localDelta < 0 ∧ peerDelta < 0) then
      { peer with
        parallelScore := raised peer.parallelScore 2
        perpendicularScore := lowered peer.perpendicularScore }
    else
      { peer with
        perpendicularScore := raised peer.perpendicularScore 1
        parallelScore := lowered peer.parallelScore }
  else if localMoved || peerMoved then
    { peer with
      perpendicularScore := raised peer.perpendicularScore 2
      parallelScore := lowered peer.parallelScore }
  else
    { peer with
      parallelScore := towardsZero peer.parallelScore
      perpendicularScore := towardsZero peer.perpendicularScore }

def updateRoomPeerAngleHint (lastLocalDominantGateDistanceCm : ℤ) (peer : RoomPeerSummary)
    (localDominantGateDistanceCm peerDominantGateDistanceCm : ℤ) : RoomPeerSummary :=
  if localDominantGateDistanceCm < 0 ∨ peerDominantGateDistanceCm < 0 then
    { peer with
      relativeAngleGuessDeg := 0
      relativeAngleConfidencePercent := 0
      lastObservedDistanceCm := peerDominantGateDistanceCm }
  else if lastLocalDominantGateDistanceCm < 0 ∨ peer.lastObservedDistanceCm < 0 then
    { peer with
      relativeAngleGuessDeg := 0
      relativeAngleConfidencePercent := 15
      lastObservedDistanceCm := peerDominantGateDistanceCm }
  else
    let peer := peer.rescored (localDominantGateDistanceCm - lastLocalDominantGateDistanceCm)
      (peerDominantGateDistanceCm - peer.lastObservedDistanceCm)
    let scoreDifference := peer.perpendicularScore - peer.parallelScore
    { peer with
      relativeAngleGuessDeg := if scoreDifference ≥ 2 then 90 else if scoreDifference ≤ -2 then 0 else 45
      relativeAngleConfidencePercent :=
        UInt8.ofNat (max 15 (min (20 + scoreDifference.natAbs * 12) 95))
      lastObservedDistanceCm := peerDominantGateDistanceCm }

/-- The entry with everything a summary says. -/
def summarize (peer : RoomPeerSummary) (peerNodeId payload : Str)
    (lastLocalDominantGateDistanceCm localDominantGateDistanceCm : ℤ) (now : UInt32) :
    RoomPeerSummary :=
  let dominantGateDistanceCm := jsonFieldInt payload Key.dominantGateDistanceCm.1 (-1)
  let peer := { peer with
    occupied := true
    nodeId := peerNodeId
    sensorRole := jsonFieldString payload Key.sensorRole.1
    firmwareVersion := jsonFieldString payload Key.firmwareVersion.1
    buildTarget := jsonFieldString payload Key.buildTarget.1
    presence := jsonFieldBool payload Key.presence.1 false
    detectionCandidate := jsonFieldBool payload Key.detectionCandidate.1 false
    peopleEstimate := UInt8.ofNat (jsonFieldInt payload Key.peopleEstimate.1 0).toNat
    activeGateCount := UInt8.ofNat (jsonFieldInt payload Key.activeGateCount.1 0).toNat
    dominantGateDistanceCm
    activityScore := UInt8.ofNat (jsonFieldInt payload Key.activityScore.1 0).toNat
    poseXCm := Int16.ofInt (jsonFieldInt payload Key.poseXCm.1 0)
    poseYCm := Int16.ofInt (jsonFieldInt payload Key.poseYCm.1 0)
    headingDeg := Int16.ofInt (jsonFieldInt payload Key.headingDeg.1 (-90))
    roomWidthCm := UInt16.ofNat (max 100 (jsonFieldInt payload Key.roomWidthCm.1 600)).toNat
    roomHeightCm := UInt16.ofNat (max 100 (jsonFieldInt payload Key.roomHeightCm.1 400)).toNat }
  { updateRoomPeerAngleHint lastLocalDominantGateDistanceCm peer localDominantGateDistanceCm
      dominantGateDistanceCm with lastUpdatedMs := now }

end RoomPeerSummary

/-- The slot of a node, or else the first free one. -/
def peerSlot (roomPeers : RoomPeers) (peerNodeId : Str) : Option (Fin maxRoomPeers) :=
  (Fin.find? fun i => (roomPeers i).occupied && (roomPeers i).nodeId = peerNodeId).or
    (Fin.find? fun i => !(roomPeers i).occupied)

/-! ## The handlers -/

/-- `constrain` for a signed field. -/
def constrainInt16 (value : Str) (low high : ℤ) : Int16 := Int16.ofInt (max low (min (toInt value) high))

def constrainUInt16 (value : Str) (low high : ℕ) : UInt16 :=
  UInt16.ofNat (max (low : ℤ) (min (toInt value) high)).toNat

/-- The fields of a pose as they come in a command. -/
structure PoseFields where
  roomId : Str
  sensorRole : Str
  poseXValue : Str
  poseYValue : Str
  headingValue : Str
  roomWidthValue : Str
  roomHeightValue : Str

/-- The configuration with a new room and pose; empty fields of the pose change nothing. -/
def RuntimeHomeAssistantConfig.withRoomPose (c : RuntimeHomeAssistantConfig) (fields : PoseFields) :
    RuntimeHomeAssistantConfig :=
  { c with
    roomId := if fields.roomId ≠ [] then fields.roomId else defaultRoomId
    sensorRole := if fields.sensorRole ≠ [] then fields.sensorRole else defaultSensorRole
    roomPoseXCm := if fields.poseXValue ≠ [] then constrainInt16 fields.poseXValue (-2000) 2000
      else c.roomPoseXCm
    roomPoseYCm := if fields.poseYValue ≠ [] then constrainInt16 fields.poseYValue (-2000) 2000
      else c.roomPoseYCm
    roomHeadingDeg := if fields.headingValue ≠ [] then constrainInt16 fields.headingValue (-180) 180
      else c.roomHeadingDeg
    roomWidthCm := if fields.roomWidthValue ≠ [] then constrainUInt16 fields.roomWidthValue 100 4000
      else c.roomWidthCm
    roomHeightCm := if fields.roomHeightValue ≠ [] then constrainUInt16 fields.roomHeightValue 100 4000
      else c.roomHeightCm }

/-- What a pose command says; what it does not say stays as it is. -/
def poseCommandFields (c : RuntimeHomeAssistantConfig) (payload : Str) : PoseFields where
  roomId := jsonFieldString payload Key.roomId.1
  sensorRole := jsonFieldString payload Key.sensorRole.1
  poseXValue := decimalInt (jsonFieldInt payload Key.poseXCm.1 c.roomPoseXCm.toInt)
  poseYValue := decimalInt (jsonFieldInt payload Key.poseYCm.1 c.roomPoseYCm.toInt)
  headingValue := decimalInt (jsonFieldInt payload Key.headingDeg.1 c.roomHeadingDeg.toInt)
  roomWidthValue := decimalInt (jsonFieldInt payload Key.roomWidthCm.1 c.roomWidthCm.toNat)
  roomHeightValue := decimalInt (jsonFieldInt payload Key.roomHeightCm.1 c.roomHeightCm.toNat)

namespace NodeState

def resetHomeAssistantConnections (s : NodeState) : NodeState :=
  { s with
    lastWiFiConnectAttemptMs := 0
    lastMqttConnectAttemptMs := 0
    mqttClient := { s.mqttClient with connected := false, subscriptions := [] } }

def applyRoomPoseConfig (s : NodeState) (fields : PoseFields) (resetConnections : Bool) : NodeState :=
  let s := { s with runtimeConfig := s.runtimeConfig.withRoomPose fields }
  if resetConnections then s.resetHomeAssistantConnections else s

/-- The connection is kept. -/
def handleRoomPoseCommandMessage (s : NodeState) (payload : Str) : NodeState :=
  let targetNodeId := jsonFieldString payload Key.nodeId.1
  if targetNodeId ≠ [] ∧ targetNodeId ≠ s.runtimeConfig.nodeId then s
  else s.applyRoomPoseConfig (poseCommandFields s.runtimeConfig payload) false

/-- The name between `/nodes/` and the next slash. -/
def topicNodeId (topic : Str) : Option Str :=
  match after? "/nodes/" topic with
  | none => none
  | some rest =>
    if '/' ∉ rest ∨ rest.takeWhile (· ≠ '/') = [] then none else some (rest.takeWhile (· ≠ '/'))

/-- `localDominantGateDistanceCm` is what the radar shows at this moment. -/
def handleRoomSummaryMessage (s : NodeState) (topic payload : Str) (localDominantGateDistanceCm : ℤ)
    (now : UInt32) : NodeState :=
  match topicNodeId topic with
  | none => s
  | some peerNodeId =>
    if peerNodeId = s.runtimeConfig.nodeId then s
    else match peerSlot s.roomPeers peerNodeId with
      | none => s
      | some slot =>
        { s with
          roomPeers := Function.update s.roomPeers slot
            ((s.roomPeers slot).summarize peerNodeId payload s.lastLocalDominantGateDistanceCm
              localDominantGateDistanceCm now) }

def handleMqttMessage (s : NodeState) (topic payload : Str) (localDominantGateDistanceCm : ℤ)
    (now : UInt32) : NodeState :=
  if payload = [] then s
  else if topic = s.runtimeConfig.roomNodeSummaryTopic s.runtimeConfig.nodeId then s
  else if topic = s.runtimeConfig.roomPoseCommandTopic s.runtimeConfig.nodeId then
    s.handleRoomPoseCommandMessage payload
  else if (s.runtimeConfig.roomTopicRoot ++ ("/nodes/" : Str)).isPrefixOf topic then
    s.handleRoomSummaryMessage topic payload localDominantGateDistanceCm now
  else s

end NodeState

/-! ## Topics of rooms -/

/-- The messages a node subscribes to. -/
inductive RoomTopicKind where
  | summary
  | poseSet
  deriving DecidableEq

def RoomTopicKind.ending : RoomTopicKind → Str
  | summary => "summary"
  | poseSet => "pose/set"

namespace RuntimeHomeAssistantConfig

def roomTopic (c : RuntimeHomeAssistantConfig) : RoomTopicKind → Str → Str
  | .summary => c.roomNodeSummaryTopic
  | .poseSet => c.roomPoseCommandTopic

def roomSubscription (c : RuntimeHomeAssistantConfig) : RoomTopicKind → Str
  | .summary => c.roomSummarySubscriptionTopic
  | .poseSet => c.roomPoseCommandSubscriptionTopic

end RuntimeHomeAssistantConfig

/-- What host names are made of. -/
def isHostnameChar (c : Char) : Bool := isAsciiLowercase c || isAsciiDigit c || c = '-'

theorem all_pushHostnameChar {hostname : Str} (h : hostname.all isHostnameChar) (c : Char) :
    (pushHostnameChar hostname c).all isHostnameChar := by
  have hpush {d : Char} (hd : isHostnameChar d) : (hostname ++ [d]).all isHostnameChar := by
    rw [List.all_append, h, Bool.true_and, List.all_cons, List.all_nil, Bool.and_true]
    exact hd
  rw [pushHostnameChar]
  split
  · rename_i hc
    refine hpush ?_
    rw [isHostnameChar, hc, Bool.true_or]
  · split
    · rename_i hc
      refine hpush ?_
      rw [isHostnameChar, isAsciiLowercase_toAsciiLowercase hc, Bool.true_or, Bool.true_or]
    · split
      · exact hpush rfl
      · exact h

theorem all_sanitizeHostname (value : Str) : (sanitizeHostname value).all isHostnameChar := by
  have hfold (value hostname : Str) (h : hostname.all isHostnameChar) :
      (value.foldl pushHostnameChar hostname).all isHostnameChar := by
    induction value generalizing hostname with
    | nil => exact h
    | cons c value ih => exact ih _ (all_pushHostnameChar h c)
  rw [List.all_eq_true]
  intro c hc
  rw [sanitizeHostname] at hc
  have hc := List.mem_of_mem_take hc
  split at hc
  · have hfallback : ("lb-mmwave" : Str).all isHostnameChar := by decide
    exact List.all_eq_true.1 hfallback c hc
  · have hc := (List.dropWhile_suffix _).subset ((List.rdropWhile_prefix _ _).subset hc)
    exact List.all_eq_true.1 (hfold value [] rfl) c hc

theorem slash_notMem_sanitizeHostname (value : Str) : '/' ∉ sanitizeHostname value := by
  intro h
  exact absurd (List.all_eq_true.1 (all_sanitizeHostname value) _ h) (by decide)

theorem plus_notMem_sanitizeHostname (value : Str) : '+' ∉ sanitizeHostname value := by
  intro h
  exact absurd (List.all_eq_true.1 (all_sanitizeHostname value) _ h) (by decide)

/-! ### Their levels -/

def rooms : Str := "rooms"
def nodes : Str := "nodes"

namespace RuntimeHomeAssistantConfig

theorem roomTopic_eq (c : RuntimeHomeAssistantConfig) (kind : RoomTopicKind) (nodeId : Str) :
    c.roomTopic kind nodeId = kTopicPrefix ++ '/' :: (rooms ++ '/' :: (sanitizeHostname c.roomId ++
      '/' :: (nodes ++ '/' :: (nodeId ++ '/' :: kind.ending)))) := by
  have hrooms : ("/rooms/" : Str) = '/' :: (rooms ++ ['/']) := rfl
  have hnodes : ("/nodes/" : Str) = '/' :: (nodes ++ ['/']) := rfl
  have hending : ∀ kind : RoomTopicKind, c.roomTopic kind nodeId =
      kTopicPrefix ++ ("/rooms/" : Str) ++ sanitizeHostname c.roomId ++ ("/nodes/" : Str) ++ nodeId ++
        '/' :: kind.ending := by
    rintro (_ | _) <;> rfl
  rw [hending, hrooms, hnodes]
  simp only [List.append_assoc, List.cons_append, List.nil_append]

theorem plus_notMem_roomTopicRoot (c : RuntimeHomeAssistantConfig) : '+' ∉ c.roomTopicRoot := by
  rw [roomTopicRoot, List.mem_append, not_or, List.mem_append, not_or]
  exact ⟨⟨by decide, by decide⟩, plus_notMem_sanitizeHostname c.roomId⟩

/-- The subscriptions are these with any one name for the node. -/
theorem filterMatches_roomSubscription (c : RuntimeHomeAssistantConfig) (kind : RoomTopicKind)
    (topic : Str) : filterMatches (c.roomSubscription kind) topic ↔
      ∃ nodeId, '/' ∉ nodeId ∧ topic = c.roomTopic kind nodeId := by
  have hpre : '+' ∉ c.roomTopicRoot ++ '/' :: nodes := by
    rw [List.mem_append, not_or]
    exact ⟨c.plus_notMem_roomTopicRoot, by decide⟩
  have hending : '+' ∉ kind.ending := by cases kind <;> decide
  have hfilter : c.roomSubscription kind =
      (c.roomTopicRoot ++ '/' :: nodes) ++ '/' :: '+' :: '/' :: kind.ending := by
    rw [List.append_assoc]
    cases kind <;> rfl
  have htopic (nodeId : Str) : c.roomTopic kind nodeId =
      (c.roomTopicRoot ++ '/' :: nodes) ++ '/' :: (nodeId ++ '/' :: kind.ending) := by
    rw [roomTopic_eq, roomTopicRoot]
    have hrooms : ("/rooms/" : Str) = '/' :: (rooms ++ ['/']) := rfl
    rw [hrooms]
    simp only [List.append_assoc, List.cons_append, List.nil_append]
  rw [hfilter, filterMatches_plus_iff hpre hending]
  simp only [htopic]

/-- The last letters tell the kinds apart. -/
theorem getLast?_ending (kind : RoomTopicKind) (nodeId : Str) :
    (nodeId ++ '/' :: kind.ending).getLast? = some (if kind = .summary then 'y' else 't') := by
  have hending : ('/' :: kind.ending).getLast? = some (if kind = .summary then 'y' else 't') := by
    cases kind <;> rfl
  rw [List.getLast?_append, hending]
  rfl

/-- A topic belongs to one room, one kind of message and one node. -/
theorem roomTopic_inj {c c' : RuntimeHomeAssistantConfig} (kind kind' : RoomTopicKind)
    {nodeId nodeId' : Str} : c.roomTopic kind nodeId = c'.roomTopic kind' nodeId' ↔
      sanitizeHostname c.roomId = sanitizeHostname c'.roomId ∧ kind = kind' ∧ nodeId = nodeId' := by
  rw [roomTopic_eq, roomTopic_eq, append_slash_inj (by decide) (by decide),
    append_slash_inj (by decide) (by decide),
    append_slash_inj (slash_notMem_sanitizeHostname _) (slash_notMem_sanitizeHostname _),
    append_slash_inj (by decide) (by decide)]
  simp only [true_and]
  refine and_congr_right fun _ => ?_
  constructor
  · intro h
    have hlast := congrArg List.getLast? h
    rw [getLast?_ending, getLast?_ending] at hlast
    have hkind : kind = kind' := by
      cases kind <;> cases kind' <;> first | rfl | simp at hlast
    subst hkind
    exact ⟨rfl, List.append_cancel_right h⟩
  · rintro ⟨rfl, rfl⟩
    rfl

/-- The root of a room is the beginning of the topics of the same room only. -/
theorem isPrefixOf_roomTopic (c c' : RuntimeHomeAssistantConfig) (kind : RoomTopicKind) (nodeId : Str) :
    (c.roomTopicRoot ++ ("/nodes/" : Str)).isPrefixOf (c'.roomTopic kind nodeId) ↔
      sanitizeHostname c.roomId = sanitizeHostname c'.roomId := by
  have hroot : c.roomTopicRoot ++ ("/nodes/" : Str) = kTopicPrefix ++ '/' :: (rooms ++ '/' ::
      (sanitizeHostname c.roomId ++ '/' :: (nodes ++ ['/']))) := by
    have hrooms : ("/rooms/" : Str) = '/' :: (rooms ++ ['/']) := rfl
    have hnodes : ("/nodes/" : Str) = '/' :: (nodes ++ ['/']) := rfl
    rw [roomTopicRoot, hrooms, hnodes]
    simp only [List.append_assoc, List.cons_append, List.nil_append]
  rw [List.isPrefixOf_iff_prefix, hroot, roomTopic_eq, List.prefix_append_right_inj,
    List.cons_prefix_cons, List.prefix_append_right_inj, List.cons_prefix_cons]
  simp only [true_and]
  constructor
  · rintro ⟨rest, h⟩
    rw [List.append_assoc, List.cons_append] at h
    exact ((append_slash_inj (slash_notMem_sanitizeHostname _) (slash_notMem_sanitizeHostname _)).1 h).1
  · intro h
    rw [h]
    exact ⟨nodeId ++ '/' :: kind.ending, by simp⟩

end RuntimeHomeAssistantConfig

open RuntimeHomeAssistantConfig

/-- In a room called `nodes` the first `/nodes/` is the room itself. -/
theorem topicNodeId_roomTopic (c : RuntimeHomeAssistantConfig) (kind : RoomTopicKind) {nodeId : Str}
    (hnode : '/' ∉ nodeId) : NodeState.topicNodeId (c.roomTopic kind nodeId) =
      if sanitizeHostname c.roomId = nodes then some nodes
      else if nodeId = [] then none else some nodeId := by
  have hpattern : ("/nodes/" : Str) = '/' :: (nodes ++ ['/']) := rfl
  have hroom := slash_notMem_sanitizeHostname c.roomId
  have hskip {first rest : Str} (hfirst : '/' ∉ first) (hne : nodes ≠ first) :
      after? ('/' :: (nodes ++ ['/'])) ('/' :: (first ++ '/' :: rest)) =
        after? ('/' :: (nodes ++ ['/'])) ('/' :: rest) := by
    rw [after?_cons_of_not, after?_append_of_notMem hfirst]
    rw [List.cons_prefix_cons, slash_prefix_iff (by decide) hfirst]
    exact fun h => hne h.2
  have hhit (rest : Str) :
      after? ('/' :: (nodes ++ ['/'])) ('/' :: (nodes ++ '/' :: rest)) = some rest := by
    have happend : after? ('/' :: (nodes ++ ['/'])) ('/' :: (nodes ++ ['/']) ++ rest) = some rest :=
      after?_append rest
    rwa [List.cons_append, List.append_assoc] at happend
  have hname {name : Str} (hname : '/' ∉ name) (rest : Str) :
      (if '/' ∉ name ++ '/' :: rest ∨ (name ++ '/' :: rest).takeWhile (· ≠ '/') = [] then none
        else some ((name ++ '/' :: rest).takeWhile (· ≠ '/'))) =
        if name = [] then none else some name := by
    rw [takeWhile_slash hname]
    simp
  rw [NodeState.topicNodeId, hpattern, roomTopic_eq, after?_append_of_notMem (by decide),
    hskip (by decide) (by decide)]
  by_cases hnodes : sanitizeHostname c.roomId = nodes
  · rw [if_pos hnodes, hnodes, hhit]
    exact hname (by decide) _
  · rw [if_neg hnodes, hskip hroom (fun h => hnodes h.symm), hhit]
    exact hname hnode _

/-! ## What a message does to the table -/

theorem peerSlot_eq_some {roomPeers : RoomPeers} {peerNodeId : Str} {slot : Fin maxRoomPeers}
    (h : peerSlot roomPeers peerNodeId = some slot) :
    (roomPeers slot).nodeId = peerNodeId ∨ (roomPeers slot).occupied = false := by
  rw [peerSlot, Option.or_eq_some_iff] at h
  rcases h with h | ⟨_, h⟩
  · have hslot := (Fin.find?_eq_some_iff.1 h).1
    simp only [Bool.and_eq_true, decide_eq_true_eq] at hslot
    exact Or.inl hslot.2
  · have hslot := (Fin.find?_eq_some_iff.1 h).1
    exact Or.inr (by simpa using hslot)

/-- The hint about the angle leaves the rest of the entry alone. -/
theorem exists_updateRoomPeerAngleHint (last : ℤ) (peer : RoomPeerSummary) (distance peerDistance : ℤ) :
    ∃ guess confidence parallel perpendicular,
      peer.updateRoomPeerAngleHint last distance peerDistance =
        { peer with
          relativeAngleGuessDeg := guess
          relativeAngleConfidencePercent := confidence
          parallelScore := parallel
          perpendicularScore := perpendicular
          lastObservedDistanceCm := peerDistance } := by
  have hrescored (localDelta peerDelta : ℤ) : ∃ parallel perpendicular,
      peer.rescored localDelta peerDelta =
        { peer with parallelScore := parallel, perpendicularScore := perpendicular } := by
    unfold RoomPeerSummary.rescored
    dsimp only
    split_ifs <;> exact ⟨_, _, rfl⟩
  unfold RoomPeerSummary.updateRoomPeerAngleHint
  split
  · exact ⟨_, _, _, _, rfl⟩
  · split
    · exact ⟨_, _, _, _, rfl⟩
    · obtain ⟨_, _, heq⟩ := hrescored (distance - last) (peerDistance - peer.lastObservedDistanceCm)
      rw [heq]
      exact ⟨_, _, _, _, rfl⟩

/-- An entry afterwards carries the name and the time. -/
theorem summarize_entry (peer : RoomPeerSummary) (peerNodeId payload : Str) (last distance : ℤ)
    (now : UInt32) :
    (peer.summarize peerNodeId payload last distance now).nodeId = peerNodeId ∧
      (peer.summarize peerNodeId payload last distance now).occupied = true ∧
      (peer.summarize peerNodeId payload last distance now).lastUpdatedMs = now := by
  unfold RoomPeerSummary.summarize
  dsimp only
  obtain ⟨_, _, _, _, heq⟩ := exists_updateRoomPeerAngleHint last _ distance _
  rw [heq]
  exact ⟨rfl, rfl, rfl⟩

namespace NodeState

variable (s : NodeState) (subscribed : RuntimeHomeAssistantConfig)

/-- A message under a subscription goes into the table, in the entry called `name`. -/
structure Filed (nodeId payload name : Str) : Prop where
  notEmpty : payload ≠ []
  room : sanitizeHostname s.runtimeConfig.roomId = sanitizeHostname subscribed.roomId
  otherNode : nodeId ≠ s.runtimeConfig.nodeId
  filedAs : (if sanitizeHostname subscribed.roomId = nodes then some nodes
    else if nodeId = [] then none else some nodeId) = some name
  otherName : name ≠ s.runtimeConfig.nodeId
  slot : (peerSlot s.roomPeers name).isSome

variable {s subscribed}

/-- A message for another node is treated as a summary, whatever its kind. -/
theorem handleMqttMessage_of_otherNode {kind : RoomTopicKind} {nodeId payload : Str}
    (hpayload : payload ≠ []) (hother : nodeId ≠ s.runtimeConfig.nodeId)
    (hroom : sanitizeHostname s.runtimeConfig.roomId = sanitizeHostname subscribed.roomId)
    (distance : ℤ) (now : UInt32) :
    s.handleMqttMessage (subscribed.roomTopic kind nodeId) payload distance now =
      s.handleRoomSummaryMessage (subscribed.roomTopic kind nodeId) payload distance now := by
  have hsummary : subscribed.roomTopic kind nodeId ≠
      s.runtimeConfig.roomNodeSummaryTopic s.runtimeConfig.nodeId := by
    intro h
    exact hother ((roomTopic_inj kind .summary).1 h).2.2
  have hpose : subscribed.roomTopic kind nodeId ≠
      s.runtimeConfig.roomPoseCommandTopic s.runtimeConfig.nodeId := by
    intro h
    exact hother ((roomTopic_inj kind .poseSet).1 h).2.2
  rw [handleMqttMessage, if_neg hpayload, if_neg hsummary, if_neg hpose, if_pos]
  exact (isPrefixOf_roomTopic ..).2 hroom

theorem roomPeers_of_filed (kind : RoomTopicKind) {nodeId payload name : Str} (hnode : '/' ∉ nodeId)
    (h : s.Filed subscribed nodeId payload name) (distance : ℤ) (now : UInt32) :
    ∃ slot, peerSlot s.roomPeers name = some slot ∧
      (s.handleMqttMessage (subscribed.roomTopic kind nodeId) payload distance now).roomPeers =
        Function.update s.roomPeers slot ((s.roomPeers slot).summarize name payload
          s.lastLocalDominantGateDistanceCm distance now) := by
  obtain ⟨slot, hslot⟩ := Option.isSome_iff_exists.1 h.slot
  refine ⟨slot, hslot, ?_⟩
  rw [handleMqttMessage_of_otherNode h.notEmpty h.otherNode h.room, handleRoomSummaryMessage,
    topicNodeId_roomTopic subscribed kind hnode, h.filedAs]
  dsimp only
  rw [if_neg h.otherName, hslot]

theorem roomPeers_handleRoomPoseCommandMessage (s : NodeState) (payload : Str) :
    (s.handleRoomPoseCommandMessage payload).roomPeers = s.roomPeers := by
  rw [handleRoomPoseCommandMessage]
  split <;> rfl

/-- Everything else leaves the table alone. -/
theorem roomPeers_of_not_filed {kind : RoomTopicKind} {nodeId payload : Str} (hnode : '/' ∉ nodeId)
    (h : ∀ name, ¬ s.Filed subscribed nodeId payload name) (distance : ℤ) (now : UInt32) :
    (s.handleMqttMessage (subscribed.roomTopic kind nodeId) payload distance now).roomPeers =
      s.roomPeers := by
  rw [handleMqttMessage]
  split
  · rfl
  rename_i hpayload
  split
  · rfl
  rename_i hsummary
  split
  · exact roomPeers_handleRoomPoseCommandMessage s payload
  rename_i hpose
  split
  · rename_i hstarts
    have hroom := (isPrefixOf_roomTopic ..).1 hstarts
    have hother : nodeId ≠ s.runtimeConfig.nodeId := by
      rintro rfl
      cases kind with
      | summary => exact hsummary ((roomTopic_inj .summary .summary).2 ⟨hroom.symm, rfl, rfl⟩)
      | poseSet => exact hpose ((roomTopic_inj .poseSet .poseSet).2 ⟨hroom.symm, rfl, rfl⟩)
    rw [handleRoomSummaryMessage, topicNodeId_roomTopic subscribed kind hnode]
    cases hname : (if sanitizeHostname subscribed.roomId = nodes then some nodes
        else if nodeId = [] then none else some nodeId) with
    | none => rfl
    | some name =>
      dsimp only
      split
      · rfl
      · rename_i hown
        cases hslot : peerSlot s.roomPeers name with
        | none => rfl
        | some slot =>
          exact absurd ⟨hpayload, hroom, hother, hname, hown, by rw [hslot]; rfl⟩ (h name)
  · rfl

/-! ## Only summaries change the table -/

/-- The table changes only for a summary of another node, and then only its entry. -/
def SummaryFrame (s s' : NodeState) (kind : RoomTopicKind) (nodeId : Str) : Prop :=
  s'.roomPeers = s.roomPeers ∨
    kind = .summary ∧ nodeId ≠ s.runtimeConfig.nodeId ∧ ∃ slot,
      (∀ i, i ≠ slot → s'.roomPeers i = s.roomPeers i) ∧ (s'.roomPeers slot).nodeId = nodeId ∧
        ((s.roomPeers slot).nodeId = nodeId ∨ (s.roomPeers slot).occupied = false)

/-- Only summaries change the table, in the entry of their node, exactly if what goes
into the table is a summary and goes in under the name of its node. -/
theorem summaryFrame_iff (s : NodeState) (subscribed : RuntimeHomeAssistantConfig)
    (kind : RoomTopicKind) (nodeId payload : Str) (hnode : '/' ∉ nodeId) :
    (∀ distance now, SummaryFrame s
      (s.handleMqttMessage (subscribed.roomTopic kind nodeId) payload distance now) kind nodeId) ↔
      ∀ name, s.Filed subscribed nodeId payload name → kind = .summary ∧ name = nodeId := by
  constructor
  · intro hframe name hfiled
    obtain ⟨slot, hslot, _⟩ := roomPeers_of_filed kind hnode hfiled 0 0
    -- at any other time than the one in the entry the entry changes
    have htime : (s.roomPeers slot).lastUpdatedMs + 1 ≠ (s.roomPeers slot).lastUpdatedMs := by
      simp
    generalize (s.roomPeers slot).lastUpdatedMs + 1 = now at htime
    obtain ⟨slot', hslot', hafter⟩ := roomPeers_of_filed kind hnode hfiled 0 now
    rw [hslot] at hslot'
    cases hslot'
    have hentry := summarize_entry (s.roomPeers slot) name payload s.lastLocalDominantGateDistanceCm
      0 now
    have hchanged := congrFun hafter slot
    rw [Function.update_self] at hchanged
    rcases hframe 0 now with hsame | ⟨hkind, _, slot', hothers, hname, _⟩
    · rw [← hchanged, hsame] at hentry
      exact absurd hentry.2.2.symm htime
    · have hthis : slot = slot' := by
        by_contra hne
        rw [← hchanged, hothers slot hne] at hentry
        exact htime hentry.2.2.symm
      subst hthis
      rw [hchanged, hentry.1] at hname
      exact ⟨hkind, hname⟩
  · intro hfiled distance now
    by_cases hany : ∃ name, s.Filed subscribed nodeId payload name
    · obtain ⟨name, hname⟩ := hany
      obtain ⟨hkind, rfl⟩ := hfiled name hname
      obtain ⟨slot, hslot, hafter⟩ := roomPeers_of_filed kind hnode hname distance now
      right
      refine ⟨hkind, hname.otherNode, slot, ?_, ?_, peerSlot_eq_some hslot⟩
      · intro i hi
        rw [hafter, Function.update_of_ne hi]
      · rw [hafter, Function.update_self]
        exact (summarize_entry ..).1
    · left
      exact roomPeers_of_not_filed hnode (not_exists.1 hany) distance now

def denNode : NodeState := { runtimeConfig := { nodeId := "den", roomId := "attic" } }

def hallId : Str := "hall"

theorem summaryFrame_of_summary : SummaryFrame denNode
    (denNode.handleMqttMessage (denNode.runtimeConfig.roomTopic .summary hallId) ['{', '}'] 120 5000)
      .summary hallId := by
  refine (summaryFrame_iff denNode denNode.runtimeConfig .summary hallId _ (by decide)).2 ?_ 120 5000
  intro name hfiled
  have hname := hfiled.filedAs
  rw [if_neg (by decide), if_neg (by decide)] at hname
  cases hname
  exact ⟨rfl, rfl⟩

/-- A pose command for another node makes it a peer. -/
theorem poseCommand_filed : ¬ ∀ (s : NodeState) (subscribed : RuntimeHomeAssistantConfig)
    (kind : RoomTopicKind) (nodeId payload : Str) (distance : ℤ) (now : UInt32), '/' ∉ nodeId →
      SummaryFrame s (s.handleMqttMessage (subscribed.roomTopic kind nodeId) payload distance now)
        kind nodeId := by
  intro hall
  have hframe := hall denNode denNode.runtimeConfig .poseSet hallId ['{', '}'] 0 0 (by decide)
  have hpeer : ((denNode.handleMqttMessage (denNode.runtimeConfig.roomTopic .poseSet hallId)
      ['{', '}'] 0 0).roomPeers ⟨0, by decide⟩).occupied = true := by
    decide +kernel
  rcases hframe with hsame | ⟨hkind, _⟩
  · rw [hsame] at hpeer
    cases hpeer
  · cases hkind

/-! ## Rooms -/

theorem summaryText_ne_nil (n : CppNode) : summaryText n ≠ [] := by
  rw [summaryText_eq, summaryMembers, Json.render]
  exact List.cons_ne_nil _ _

/-- A node in this room. -/
def senderIn (room : Str) : CppNode where
  config := { nodeId := hallId, roomId := room }
  firmwareVersion := "v1.4.0"
  firmwareBuildTarget := "unknown"
  localIp := "10.0.0.8"
  rssi := -61
  channel := 6
  millis := 5000
  freeHeap := 200000
  lastPresence := true
  detectionCandidate := true
  estimatedPeople := 1
  activeGateCount := 2
  dominantGateDistanceCm := 140
  activityScore := 40

def receiverIn (room : Str) : NodeState := { runtimeConfig := { nodeId := "den", roomId := room } }

theorem filed_receiverIn {roomA roomB name : Str} (h : sanitizeHostname roomA = sanitizeHostname roomB)
    (hname : (if sanitizeHostname roomA = nodes then some nodes
      else if hallId = [] then none else some hallId) = some name)
    (hother : name ≠ denNode.runtimeConfig.nodeId) :
    (receiverIn roomB).Filed (senderIn roomA).config hallId (summaryText (senderIn roomA)) name := by
  have hsender : hallId ≠ denNode.runtimeConfig.nodeId := by decide
  have hslot : (peerSlot (fun _ => {}) name).isSome := by
    rw [peerSlot, Option.isSome_or, Bool.or_eq_true]
    right
    decide
  exact ⟨summaryText_ne_nil _, h.symm, hsender, hname, hother, hslot⟩

/-- A summary is taken in where the room has the same topics. -/
theorem admitted_of_sameTopics {roomA roomB : Str}
    (h : sanitizeHostname roomA = sanitizeHostname roomB) :
    ((receiverIn roomB).handleMqttMessage ((senderIn roomA).config.roomTopic .summary hallId)
      (summaryText (senderIn roomA)) 0 0).roomPeers ≠ (receiverIn roomB).roomPeers := by
  have hfiled : ∃ name, (receiverIn roomB).Filed (senderIn roomA).config hallId
      (summaryText (senderIn roomA)) name := by
    by_cases hnodes : sanitizeHostname roomA = nodes
    · exact ⟨nodes, filed_receiverIn h (if_pos hnodes) (by decide)⟩
    · refine ⟨hallId, filed_receiverIn h ?_ (by decide)⟩
      exact (if_neg hnodes).trans (if_neg (by decide))
  obtain ⟨name, hname⟩ := hfiled
  obtain ⟨slot, _, hafter⟩ := roomPeers_of_filed .summary (by decide) hname 0 0
  intro hsame
  have hentry := congrFun (hafter.symm.trans hsame) slot
  rw [Function.update_self] at hentry
  have hoccupied := (summarize_entry ((receiverIn roomB).roomPeers slot) name
    (summaryText (senderIn roomA)) (receiverIn roomB).lastLocalDominantGateDistanceCm 0 0).2.1
  rw [hentry] at hoccupied
  cases hoccupied

/-- In a room with other topics nothing happens. -/
theorem unchanged_of_otherTopics {s : NodeState} {c : RuntimeHomeAssistantConfig}
    (h : sanitizeHostname c.roomId ≠ sanitizeHostname s.runtimeConfig.roomId) (kind : RoomTopicKind)
    (nodeId payload : Str) (distance : ℤ) (now : UInt32) :
    s.handleMqttMessage (c.roomTopic kind nodeId) payload distance now = s := by
  have hsummary : c.roomTopic kind nodeId ≠
      s.runtimeConfig.roomNodeSummaryTopic s.runtimeConfig.nodeId := by
    intro heq
    exact h ((roomTopic_inj kind .summary).1 heq).1
  have hpose : c.roomTopic kind nodeId ≠
      s.runtimeConfig.roomPoseCommandTopic s.runtimeConfig.nodeId := by
    intro heq
    exact h ((roomTopic_inj kind .poseSet).1 heq).1
  have hstarts : ¬ (s.runtimeConfig.roomTopicRoot ++ ("/nodes/" : Str)).isPrefixOf
      (c.roomTopic kind nodeId) := by
    intro hstarts
    exact h ((isPrefixOf_roomTopic ..).1 hstarts).symm
  rw [handleMqttMessage, if_neg hsummary, if_neg hpose, if_neg hstarts, ite_self]

/-- The summaries of one room that are delivered in another leave the table of the
other alone, exactly if the two identifiers are different as host names. -/
theorem roomIsolation_iff (roomA roomB : Str) :
    (∀ (A : CppNode) (B : NodeState) (kind : RoomTopicKind) (distance : ℤ) (now : UInt32),
      A.config.roomId = roomA → B.runtimeConfig.roomId = roomB →
      filterMatches (B.runtimeConfig.roomSubscription kind)
        (A.config.roomNodeSummaryTopic A.config.nodeId) →
      (B.handleMqttMessage (A.config.roomNodeSummaryTopic A.config.nodeId) (summaryText A) distance
        now).roomPeers = B.roomPeers) ↔
      sanitizeHostname roomA ≠ sanitizeHostname roomB := by
  constructor
  · intro hisolated h
    have hdelivered : filterMatches ((receiverIn roomB).runtimeConfig.roomSubscription .summary)
        ((senderIn roomA).config.roomTopic .summary hallId) := by
      rw [filterMatches_roomSubscription]
      exact ⟨hallId, by decide, (roomTopic_inj .summary .summary).2 ⟨h, rfl, rfl⟩⟩
    exact admitted_of_sameTopics h
      (hisolated (senderIn roomA) (receiverIn roomB) .summary 0 0 rfl rfl hdelivered)
  · rintro h A B _ distance now rfl rfl _
    have hsame := unchanged_of_otherTopics h .summary A.config.nodeId (summaryText A) distance now
    exact congrArg NodeState.roomPeers hsame

/-- Blanks and capitals are lost. -/
theorem rooms_merged : ¬ ∀ roomA roomB : Str, roomA ≠ roomB →
    ∀ (A : CppNode) (B : NodeState) (distance : ℤ) (now : UInt32),
      A.config.roomId = roomA → B.runtimeConfig.roomId = roomB →
      (B.handleMqttMessage (A.config.roomNodeSummaryTopic A.config.nodeId) (summaryText A) distance
        now).roomPeers = B.roomPeers := by
  intro hall
  have hrooms : ("Living Room" : Str) ≠ "livingroom" := by decide
  have hsame : sanitizeHostname "Living Room" = sanitizeHostname "livingroom" := by decide
  exact admitted_of_sameTopics hsame (hall _ _ hrooms (senderIn _) (receiverIn _) 0 0 rfl rfl)

end NodeState

end EspWaveRider.Cpp
