import EspWaveRider.Cpp.PeerAdmission
import EspWaveRider.Lib.Checked

/-!
# People in a room

`buildRoomAggregateMetrics` of `src/main.cpp`: the people that the local radar and the fresh peers
of a room see, with detections of one person by several nodes counted once.  The geometry is in
`float`; nothing here depends on how it rounds, so its operations are parameters.  An access
outside an array is `none`, and so is a sum that does not fit its type.

* `addDetectionCluster`, `addPeer`, `buildRoomAggregateMetrics` — the function and its parts;
* `FusionInv` — what the loop over the peers keeps;
* `roomAggregate_bounds` — the bounds of the result, whatever the geometry says.
-/

namespace EspWaveRider.Cpp

open Checked

/-- The operations on `float` that the fusion uses, and its conversions. -/
structure FloatOps (F : Type) where
  ofInt : ℤ → F
  toRadians : F → F
  neg : F → F
  add : F → F → F
  sub : F → F → F
  mul : F → F → F
  div : F → F → F
  cosf : F → F
  sinf : F → F
  sqrtf : F → F
  lt : F → F → Bool
  le : F → F → Bool

/-- The fields of the local metrics that are read. -/
structure LocalMetrics where
  estimatedPeople : UInt8
  dominantGateDistanceCm : ℤ
  activityScore : UInt8

structure RoomAggregateMetrics where
  peopleEstimate : ℕ := 0
  activeNodeCount : ℕ := 0
  peerNodeCount : ℕ := 0
  activityScore : ℕ := 0
  deriving DecidableEq

structure SensorPose where
  nodeId : Str
  x : Int16
  y : Int16
  headingDeg : Int16

structure DetectionCluster (F : Type) where
  x : F
  y : F
  members : ℕ

/-- The arguments of `addDetectionCluster`. -/
structure NodeDetection where
  originNodeId : Str
  estimatedPeople : ℕ
  dominantDistanceCm : ℤ
  poseXCm : Int16
  poseYCm : Int16
  headingDeg : Int16
  roomWidthCm : UInt16
  roomHeightCm : UInt16

def roomFusionClusterRadiusCm : ℤ := 110
def roomSensorGhostRadiusCm : ℤ := 80
def roomFusionRoomMarginCm : ℤ := 80

/-- A value that is stored in a `uint8_t`. -/
def uint8 (n : ℕ) : Option ℕ := fits 8 n

/-- A value that is stored in a `uint16_t`. -/
def uint16 (n : ℕ) : Option ℕ := fits 16 n

/-- The arrays hold the local node and all peers. -/
def fusionCapacity : ℕ := maxRoomPeers + 1

/-! ## Detections -/

/-- What the calls of `addDetectionCluster` change. -/
structure Clusters (F : Type) where
  unresolvedPeople : ℕ := 0
  clusters : List (DetectionCluster F) := []

variable {F : Type} (float : FloatOps F)

def FloatOps.ofInt16 (n : Int16) : F := float.ofInt n.toInt

def FloatOps.ofUInt16 (n : UInt16) : F := float.ofInt n.toNat

/-- The distance of two points is at most this. -/
def FloatOps.within (radiusCm : ℤ) (x y x' y' : F) : Bool :=
  let dx := float.sub x x'
  let dy := float.sub y y'
  float.le (float.sqrtf (float.add (float.mul dx dx) (float.mul dy dy))) (float.ofInt radiusCm)

namespace NodeDetection

def detectionX (d : NodeDetection) : F :=
  let headingRad := float.toRadians (float.ofInt16 d.headingDeg)
  float.add (float.ofInt16 d.poseXCm) (float.mul (float.cosf headingRad) (float.ofInt d.dominantDistanceCm))

def detectionY (d : NodeDetection) : F :=
  let headingRad := float.toRadians (float.ofInt16 d.headingDeg)
  float.add (float.ofInt16 d.poseYCm) (float.mul (float.sinf headingRad) (float.ofInt d.dominantDistanceCm))

def outsideRoom (d : NodeDetection) : Bool :=
  let margin := float.ofInt roomFusionRoomMarginCm
  let maxX := float.add (float.ofUInt16 d.roomWidthCm) margin
  let maxY := float.add (float.ofUInt16 d.roomHeightCm) margin
  float.lt (d.detectionX float) (float.neg margin) || float.lt maxX (d.detectionX float) ||
    float.lt (d.detectionY float) (float.neg margin) || float.lt maxY (d.detectionY float)

/-- The detection is another sensor. -/
def isGhost (d : NodeDetection) (sensorPoses : List SensorPose) : Bool :=
  sensorPoses.any fun pose =>
    d.originNodeId ≠ pose.nodeId &&
      float.within roomSensorGhostRadiusCm (d.detectionX float) (d.detectionY float)
        (float.ofInt16 pose.x) (float.ofInt16 pose.y)

end NodeDetection

namespace Clusters

def leaveUnresolved (s : Clusters F) (people : ℕ) : Option (Clusters F) := do
  let unresolvedPeople ← uint8 (min 255 (s.unresolvedPeople + people))
  return { s with unresolvedPeople }

/-- The cluster with one more member, at the mean of all of them. -/
def joined (cluster : DetectionCluster F) (x y : F) : Option (DetectionCluster F) := do
  let members ← uint8 (cluster.members + 1)
  let mean (old new : F) : F :=
    float.div (float.add (float.mul old (float.ofInt cluster.members)) new)
      (float.ofInt (cluster.members + 1))
  return { x := mean cluster.x x, y := mean cluster.y y, members }

/-- The loop over the clusters: join the first one nearby, if there is one. -/
def joinNearby (x y : F) : List (DetectionCluster F) → Option (Option (List (DetectionCluster F)))
  | [] => some none
  | cluster :: clusters =>
    if float.within roomFusionClusterRadiusCm x y cluster.x cluster.y then do
      let cluster ← joined float cluster x y
      return some (cluster :: clusters)
    else do
      let rest ← joinNearby x y clusters
      return rest.map (cluster :: ·)

/-- The detection at this point, which is in the room and not another sensor. -/
def place (s : Clusters F) (x y : F) : Option (Clusters F) := do
  match ← joinNearby float x y s.clusters with
  | some clusters => return { s with clusters }
  | none =>
    if s.clusters.length < fusionCapacity then do
      let clusters ← pushWithin fusionCapacity s.clusters { x, y, members := 1 }
      return { s with clusters }
    else s.leaveUnresolved 1

/-- The people of a detection but one are counted and have no place. -/
def addOthers (s : Clusters F) (estimatedPeople : ℕ) : Option (Clusters F) :=
  if estimatedPeople > 1 then s.leaveUnresolved (estimatedPeople - 1) else some s

def addDetectionCluster (sensorPoses : List SensorPose) (s : Clusters F) (d : NodeDetection) :
    Option (Clusters F) := do
  let s ← s.addOthers d.estimatedPeople
  if d.dominantDistanceCm < 0 then
    if d.estimatedPeople > 0 then s.leaveUnresolved 1 else some s
  else if d.outsideRoom float then some s
  else if d.isGhost float sensorPoses then some s
  else s.place float (d.detectionX float) (d.detectionY float)

end Clusters

/-! ## The room -/

/-- What the function reads. -/
structure RoomInputs where
  localMetrics : LocalMetrics
  localDetectionCandidate : Bool
  runtimeConfig : RuntimeHomeAssistantConfig
  roomPeers : RoomPeers
  now : UInt32

/-- The variables of the function after its first loop. -/
structure Fusion (F : Type) where
  peakPeople : ℕ
  totalPeople : ℕ
  totalActivity : ℕ
  clusters : Clusters F := {}
  activeNodeCount : ℕ := 0
  peerNodeCount : ℕ := 0

/-- `candidate ? max<uint8_t>(1, people) : 0`. -/
def qualifiedPeople (candidate : Bool) (people : UInt8) : ℕ := if candidate then max 1 people.toNat else 0

namespace RoomPeerSummary

def fresh (peer : RoomPeerSummary) (now : UInt32) : Bool :=
  peer.occupied && now - peer.lastUpdatedMs ≤ roomPeerFreshnessMs

def pose (peer : RoomPeerSummary) : SensorPose :=
  ⟨peer.nodeId, peer.poseXCm, peer.poseYCm, peer.headingDeg⟩

def detection (peer : RoomPeerSummary) : NodeDetection where
  originNodeId := peer.nodeId
  estimatedPeople := qualifiedPeople peer.detectionCandidate peer.peopleEstimate
  dominantDistanceCm := peer.dominantGateDistanceCm
  poseXCm := peer.poseXCm
  poseYCm := peer.poseYCm
  headingDeg := peer.headingDeg
  roomWidthCm := peer.roomWidthCm
  roomHeightCm := peer.roomHeightCm

end RoomPeerSummary

namespace RoomInputs

def localQualifiedPeople (i : RoomInputs) : ℕ :=
  qualifiedPeople i.localDetectionCandidate i.localMetrics.estimatedPeople

def localPose (i : RoomInputs) : SensorPose where
  nodeId := i.runtimeConfig.nodeId
  x := i.runtimeConfig.roomPoseXCm
  y := i.runtimeConfig.roomPoseYCm
  headingDeg := i.runtimeConfig.roomHeadingDeg

def localDetection (i : RoomInputs) : NodeDetection where
  originNodeId := i.runtimeConfig.nodeId
  estimatedPeople := i.localQualifiedPeople
  dominantDistanceCm := i.localMetrics.dominantGateDistanceCm
  poseXCm := i.runtimeConfig.roomPoseXCm
  poseYCm := i.runtimeConfig.roomPoseYCm
  headingDeg := i.runtimeConfig.roomHeadingDeg
  roomWidthCm := i.runtimeConfig.roomWidthCm
  roomHeightCm := i.runtimeConfig.roomHeightCm

/-- The slots of the table, in the order of the loops. -/
def slots (i : RoomInputs) : List RoomPeerSummary := (List.finRange maxRoomPeers).map i.roomPeers

/-- One pass of the first loop, whose condition also looks at the number of poses. -/
def addPose (now : UInt32) (sensorPoses : List SensorPose) (peer : RoomPeerSummary) :
    Option (List SensorPose) :=
  if sensorPoses.length < fusionCapacity then
    if peer.fresh now then pushWithin fusionCapacity sensorPoses peer.pose else some sensorPoses
  else some sensorPoses

def sensorPoses (i : RoomInputs) : Option (List SensorPose) := do
  let own ← pushWithin fusionCapacity [] i.localPose
  i.slots.foldlM (addPose i.now) own

/-- The local detection. -/
def start (i : RoomInputs) (sensorPoses : List SensorPose) : Option (Fusion F) := do
  let s : Fusion F := {
    peakPeople := i.localQualifiedPeople
    totalPeople := i.localQualifiedPeople
    totalActivity := i.localMetrics.activityScore.toNat }
  if i.localDetectionCandidate then do
    let activeNodeCount ← uint8 (s.activeNodeCount + 1)
    let clusters ← s.clusters.addDetectionCluster float sensorPoses i.localDetection
    return { s with activeNodeCount, clusters }
  else some s

/-- One pass of the second loop. -/
def addPeer (sensorPoses : List SensorPose) (now : UInt32) (s : Fusion F) (peer : RoomPeerSummary) :
    Option (Fusion F) :=
  if !peer.fresh now then some s
  else do
    let peerNodeCount ← uint8 (s.peerNodeCount + 1)
    let totalActivity ← uint16 (s.totalActivity + peer.activityScore.toNat)
    let peerQualifiedPeople := qualifiedPeople peer.detectionCandidate peer.peopleEstimate
    let totalPeople ← uint8 (min 255 (s.totalPeople + peerQualifiedPeople))
    let s := { s with
      peerNodeCount, totalActivity, totalPeople
      peakPeople := max s.peakPeople peerQualifiedPeople }
    if peer.detectionCandidate then do
      let activeNodeCount ← uint8 (s.activeNodeCount + 1)
      let clusters ← s.clusters.addDetectionCluster float sensorPoses peer.detection
      return { s with activeNodeCount, clusters }
    else some s

/-- The end of the function. -/
def result (s : Fusion F) : Option RoomAggregateMetrics := do
  let fusedPeopleEstimate ← uint8 (min 255 (s.clusters.clusters.length + s.clusters.unresolvedPeople))
  return {
    peopleEstimate := min (max s.peakPeople fusedPeopleEstimate) s.totalPeople
    activeNodeCount := s.activeNodeCount
    peerNodeCount := s.peerNodeCount
    activityScore := min 100 s.totalActivity }

def buildRoomAggregateMetrics (i : RoomInputs) : Option RoomAggregateMetrics := do
  let sensorPoses ← i.sensorPoses
  let s ← i.start float sensorPoses
  let s ← i.slots.foldlM (addPeer float sensorPoses i.now) s
  result s

end RoomInputs

/-! ## Detections stay within the arrays -/

theorem uint8_of_lt {n : ℕ} (h : n < 2 ^ 8) : uint8 n = some n := fits_of_lt h

theorem uint16_of_lt {n : ℕ} (h : n < 2 ^ 16) : uint16 n = some n := fits_of_lt h

namespace Clusters

/-- The clusters after `calls` detections. -/
structure Within (calls : ℕ) (s : Clusters F) : Prop where
  unresolvedPeople_le : s.unresolvedPeople ≤ 255
  length_le : s.clusters.length ≤ fusionCapacity
  members_le : ∀ cluster ∈ s.clusters, cluster.members ≤ calls

theorem Within.mono {calls calls' : ℕ} {s : Clusters F} (h : s.Within calls) (hle : calls ≤ calls') :
    s.Within calls' :=
  ⟨h.unresolvedPeople_le, h.length_le, fun cluster hmem => (h.members_le cluster hmem).trans hle⟩

theorem Within.leaveUnresolved {calls : ℕ} {s : Clusters F} (h : s.Within calls) (people : ℕ) :
    ∃ s', s.leaveUnresolved people = some s' ∧ s'.Within calls := by
  have hlt : min 255 (s.unresolvedPeople + people) < 2 ^ 8 := by omega
  refine ⟨{ s with unresolvedPeople := min 255 (s.unresolvedPeople + people) }, ?_, ?_⟩
  · rw [Clusters.leaveUnresolved, uint8_of_lt hlt]
    rfl
  · exact ⟨min_le_left _ _, h.length_le, h.members_le⟩

/-- Joining a cluster keeps the number of clusters. -/
theorem joinNearby_spec {calls : ℕ} (hcalls : calls < 255) (x y : F) (clusters : List (DetectionCluster F))
    (h : ∀ cluster ∈ clusters, cluster.members ≤ calls) :
    ∃ joined?, joinNearby float x y clusters = some joined? ∧ ∀ clusters' ∈ joined?,
      clusters'.length = clusters.length ∧ ∀ cluster ∈ clusters', cluster.members ≤ calls + 1 := by
  induction clusters with
  | nil => exact ⟨none, rfl, fun _ hnone => by cases hnone⟩
  | cons cluster clusters ih =>
    have hhead := h cluster (List.mem_cons_self ..)
    rw [joinNearby]
    split
    · have hmembers : uint8 (cluster.members + 1) = some (cluster.members + 1) :=
        uint8_of_lt (by omega)
      simp only [joined, hmembers, Option.pure_def, Option.bind_eq_bind, Option.bind_some,
        Option.some.injEq, exists_eq_left', Option.mem_def, forall_eq', List.length_cons, true_and]
      intro cluster' hmem
      rcases List.mem_cons.1 hmem with rfl | hmem
      · exact Nat.succ_le_succ hhead
      · exact (h cluster' (List.mem_cons_of_mem _ hmem)).trans (Nat.le_succ _)
    · obtain ⟨joined?, hjoined, hspec⟩ := ih fun cluster' hmem => h cluster' (List.mem_cons_of_mem _ hmem)
      rw [hjoined]
      refine ⟨joined?.map (cluster :: ·), rfl, fun clusters' hclusters' => ?_⟩
      obtain ⟨rest, hrest, rfl⟩ := Option.map_eq_some_iff.1 hclusters'
      obtain ⟨hlength, hmembers⟩ := hspec rest hrest
      refine ⟨by rw [List.length_cons, hlength, List.length_cons], fun cluster' hmem => ?_⟩
      rcases List.mem_cons.1 hmem with rfl | hmem
      · exact hhead.trans (Nat.le_succ _)
      · exact hmembers cluster' hmem

theorem Within.place {calls : ℕ} {s : Clusters F} (h : s.Within calls) (hcalls : calls < 255)
    (x y : F) : ∃ s', s.place float x y = some s' ∧ s'.Within (calls + 1) := by
  obtain ⟨joined?, hjoined, hspec⟩ := joinNearby_spec float hcalls x y s.clusters h.members_le
  have hlater := h.mono (Nat.le_succ calls)
  simp only [Clusters.place, hjoined, Option.bind_eq_bind, Option.bind_some, Option.pure_def]
  cases joined? with
  | some clusters =>
    obtain ⟨hlength, hmembers⟩ := hspec clusters rfl
    exact ⟨_, rfl, h.unresolvedPeople_le, hlength.trans_le h.length_le, hmembers⟩
  | none =>
    dsimp only
    split
    case isTrue hroom =>
      rw [pushWithin_of_lt hroom]
      refine ⟨_, rfl, h.unresolvedPeople_le, ?_, fun cluster hmem => ?_⟩
      · rw [List.length_append, List.length_singleton]
        exact hroom
      · rcases List.mem_append.1 hmem with hmem | hmem
        · exact hlater.members_le cluster hmem
        · rw [List.mem_singleton.1 hmem]
          exact Nat.succ_le_succ (Nat.zero_le calls)
    case isFalse => exact hlater.leaveUnresolved 1

theorem Within.addOthers {calls : ℕ} {s : Clusters F} (h : s.Within calls) (estimatedPeople : ℕ) :
    ∃ s', s.addOthers estimatedPeople = some s' ∧ s'.Within calls := by
  rw [Clusters.addOthers]
  split
  · exact h.leaveUnresolved _
  · exact ⟨s, rfl, h⟩

/-- One more detection, wherever it is. -/
theorem Within.addDetectionCluster {calls : ℕ} {s : Clusters F} (h : s.Within calls)
    (hcalls : calls < 255) (sensorPoses : List SensorPose) (d : NodeDetection) :
    ∃ s', s.addDetectionCluster float sensorPoses d = some s' ∧ s'.Within (calls + 1) := by
  obtain ⟨s, hs, h⟩ := h.addOthers d.estimatedPeople
  have hlater := h.mono (Nat.le_succ calls)
  simp only [Clusters.addDetectionCluster, hs, Option.bind_eq_bind, Option.bind_some]
  split
  · split
    · exact hlater.leaveUnresolved 1
    · exact ⟨s, rfl, hlater⟩
  · split
    · exact ⟨s, rfl, hlater⟩
    · split
      · exact ⟨s, rfl, hlater⟩
      · exact h.place float hcalls _ _

end Clusters

/-! ## The bounds -/

theorem qualifiedPeople_le (candidate : Bool) (people : UInt8) : qualifiedPeople candidate people ≤ 255 := by
  rw [qualifiedPeople]
  split
  · exact Nat.max_le.2 ⟨by decide, Nat.le_of_lt_succ people.toNat_lt⟩
  · exact Nat.zero_le 255

theorem one_le_qualifiedPeople {candidate : Bool} {people : UInt8} :
    1 ≤ qualifiedPeople candidate people ↔ candidate = true := by
  rw [qualifiedPeople]
  split
  · exact iff_of_true (le_max_left _ _) ‹_›
  · exact iff_of_false (by decide) ‹_›

namespace RoomInputs

/-- The qualified count of each node that is asked: the local one and the peers among `done` that
are fresh. -/
def qualifiedCounts (i : RoomInputs) (done : List RoomPeerSummary) : List ℕ :=
  i.localQualifiedPeople :: (done.filter (·.fresh i.now)).map fun peer =>
    qualifiedPeople peer.detectionCandidate peer.peopleEstimate

/-- The variables after the peers of `done`. -/
structure FusionInv (i : RoomInputs) (done : List RoomPeerSummary) (s : Fusion F) : Prop where
  le_peakPeople : ∀ q ∈ i.qualifiedCounts done, q ≤ s.peakPeople
  totalPeople_eq : s.totalPeople = min 255 (i.qualifiedCounts done).sum
  totalActivity_le : s.totalActivity ≤ 255 * (done.length + 1)
  peerNodeCount_le : s.peerNodeCount ≤ done.length
  activeNodeCount_le : s.activeNodeCount ≤ s.peerNodeCount + 1
  clusters_within : s.clusters.Within s.activeNodeCount

theorem qualifiedCounts_append_stale (i : RoomInputs) (done : List RoomPeerSummary)
    {peer : RoomPeerSummary} (h : peer.fresh i.now = false) :
    i.qualifiedCounts (done ++ [peer]) = i.qualifiedCounts done := by
  simp [qualifiedCounts, h]

theorem qualifiedCounts_append_fresh (i : RoomInputs) (done : List RoomPeerSummary)
    {peer : RoomPeerSummary} (h : peer.fresh i.now = true) :
    i.qualifiedCounts (done ++ [peer]) =
      i.qualifiedCounts done ++ [qualifiedPeople peer.detectionCandidate peer.peopleEstimate] := by
  simp [qualifiedCounts, h]

theorem qualifiedCounts_le (i : RoomInputs) (done : List RoomPeerSummary) :
    ∀ q ∈ i.qualifiedCounts done, q ≤ 255 := by
  intro q hq
  rcases List.mem_cons.1 hq with rfl | hq
  · exact qualifiedPeople_le _ _
  · obtain ⟨peer, -, rfl⟩ := List.mem_map.1 hq
    exact qualifiedPeople_le _ _

/-- Some node sees a person exactly if some node is a candidate. -/
theorem sum_qualifiedCounts_pos {i : RoomInputs} {done : List RoomPeerSummary} :
    0 < (i.qualifiedCounts done).sum ↔ i.localDetectionCandidate = true ∨
      ∃ peer ∈ done, peer.fresh i.now = true ∧ peer.detectionCandidate = true := by
  have hsum (counts : List ℕ) : 0 < counts.sum ↔ ∃ q ∈ counts, 1 ≤ q := by
    rw [Nat.pos_iff_ne_zero, Ne, List.sum_eq_zero_iff]
    push Not
    exact exists_congr fun q => and_congr_right fun _ => Nat.one_le_iff_ne_zero.symm
  rw [hsum, qualifiedCounts]
  simp only [List.mem_cons, exists_eq_or_imp, localQualifiedPeople, one_le_qualifiedPeople]
  refine or_congr_right ⟨?_, ?_⟩
  · rintro ⟨q, hq, hone⟩
    obtain ⟨peer, hpeer, rfl⟩ := List.mem_map.1 hq
    rw [List.mem_filter] at hpeer
    exact ⟨peer, hpeer.1, hpeer.2, one_le_qualifiedPeople.1 hone⟩
  · rintro ⟨peer, hpeer, hfresh, hcandidate⟩
    exact ⟨_, List.mem_map_of_mem (List.mem_filter.2 ⟨hpeer, hfresh⟩),
      one_le_qualifiedPeople.2 hcandidate⟩

/-- A peer that is not fresh changes nothing. -/
theorem FusionInv.stale {i : RoomInputs} {done : List RoomPeerSummary} {s : Fusion F}
    (h : i.FusionInv done s) {peer : RoomPeerSummary} (hfresh : peer.fresh i.now = false) :
    i.FusionInv (done ++ [peer]) s := by
  have hlength : (done ++ [peer]).length = done.length + 1 := List.length_append
  obtain ⟨hpeak, htotal, hactivity, hpeers, hactive, hclusters⟩ := h
  have hcounts := qualifiedCounts_append_stale i done hfresh
  exact ⟨hcounts ▸ hpeak, hcounts ▸ htotal, by omega, by omega, hactive, hclusters⟩

/-- Every pass takes the invariant along, and its sums fit their types. -/
theorem FusionInv.addPeer {i : RoomInputs} {done : List RoomPeerSummary} {s : Fusion F}
    (h : i.FusionInv done s) (hdone : done.length < maxRoomPeers) (sensorPoses : List SensorPose)
    (peer : RoomPeerSummary) : ∃ s', addPeer float sensorPoses i.now s peer = some s' ∧
      i.FusionInv (done ++ [peer]) s' := by
  cases hfresh : peer.fresh i.now with
  | false => exact ⟨s, by rw [RoomInputs.addPeer, hfresh]; rfl, h.stale hfresh⟩
  | true =>
    have hlength : (done ++ [peer]).length = done.length + 1 := List.length_append
    have hmax : maxRoomPeers = 8 := rfl
    obtain ⟨hpeak, htotal, hactivity, hpeers, hactive, hclusters⟩ := h
    have hactivity' := peer.activityScore.toNat_lt
    have hpeerNodeCount : uint8 (s.peerNodeCount + 1) = some (s.peerNodeCount + 1) :=
      uint8_of_lt (by omega)
    have htotalActivity : uint16 (s.totalActivity + peer.activityScore.toNat) =
        some (s.totalActivity + peer.activityScore.toNat) := uint16_of_lt (by omega)
    have htotalPeople (q : ℕ) : uint8 (min 255 (s.totalPeople + q)) =
        some (min 255 (s.totalPeople + q)) := uint8_of_lt (by omega)
    have hactiveNodeCount : uint8 (s.activeNodeCount + 1) = some (s.activeNodeCount + 1) :=
      uint8_of_lt (by omega)
    set q := qualifiedPeople peer.detectionCandidate peer.peopleEstimate with hq
    have hcounts := qualifiedCounts_append_fresh i done hfresh
    rw [← hq] at hcounts
    have hpeak' : ∀ q' ∈ i.qualifiedCounts (done ++ [peer]), q' ≤ max s.peakPeople q := by
      intro q' hmem
      rw [hcounts, List.mem_append, List.mem_singleton] at hmem
      rcases hmem with hmem | rfl
      · exact (hpeak q' hmem).trans (le_max_left _ _)
      · exact le_max_right _ _
    have hsum : min 255 (s.totalPeople + q) =
        min 255 (i.qualifiedCounts (done ++ [peer])).sum := by
      rw [hcounts, List.sum_append, List.sum_singleton]
      omega
    rw [RoomInputs.addPeer, hfresh]
    simp only [hpeerNodeCount, htotalActivity, ← hq, htotalPeople, Option.bind_eq_bind,
      Option.bind_some, Bool.not_true, Bool.false_eq_true, if_false]
    split
    · obtain ⟨clusters, hcluster, hwithin⟩ := hclusters.addDetectionCluster float (by omega)
        sensorPoses peer.detection
      rw [hactiveNodeCount, Option.bind_some, hcluster]
      exact ⟨_, rfl, hpeak', hsum, by dsimp only; omega, by dsimp only; omega, by dsimp only; omega,
        hwithin⟩
    · exact ⟨_, rfl, hpeak', hsum, by dsimp only; omega, by dsimp only; omega, by dsimp only; omega,
        hclusters⟩

/-- The invariant holds when the loop over the peers starts. -/
theorem FusionInv.start (i : RoomInputs) (sensorPoses : List SensorPose) :
    ∃ s, i.start float sensorPoses = some s ∧ i.FusionInv [] s := by
  have hempty : Clusters.Within 0 ({} : Clusters F) :=
    ⟨Nat.zero_le _, Nat.zero_le _, fun _ hmem => by cases hmem⟩
  have hlocal : i.localQualifiedPeople ≤ 255 := qualifiedPeople_le _ _
  have hpeak : ∀ q ∈ i.qualifiedCounts [], q ≤ i.localQualifiedPeople := by
    simp [qualifiedCounts]
  have hsum : i.localQualifiedPeople = min 255 (i.qualifiedCounts []).sum := by
    simpa [qualifiedCounts] using hlocal
  have hactivity : i.localMetrics.activityScore.toNat ≤ 255 * (0 + 1) := by
    have := i.localMetrics.activityScore.toNat_lt
    omega
  rw [RoomInputs.start]
  split
  · obtain ⟨clusters, hcluster, hwithin⟩ := hempty.addDetectionCluster float (by decide) sensorPoses
      i.localDetection
    have hone : uint8 (0 + 1) = some 1 := uint8_of_lt (by decide)
    simp only [hone, Option.bind_eq_bind, Option.bind_some, hcluster]
    exact ⟨_, rfl, hpeak, hsum, hactivity, le_rfl, le_rfl, hwithin⟩
  · exact ⟨_, rfl, hpeak, hsum, hactivity, le_rfl, Nat.zero_le _, hempty⟩

theorem exists_sensorPoses (i : RoomInputs) : ∃ sensorPoses, i.sensorPoses = some sensorPoses := by
  have hpass : ∀ (done : List RoomPeerSummary) peer sensorPoses, done.length < maxRoomPeers → True →
      ∃ sensorPoses', addPose i.now sensorPoses peer = some sensorPoses' ∧ True := by
    intro done peer sensorPoses _ _
    rw [addPose]
    split
    · split
      · exact ⟨_, pushWithin_of_lt ‹_› _, trivial⟩
      · exact ⟨_, rfl, trivial⟩
    · exact ⟨_, rfl, trivial⟩
  have hslots : ([] : List RoomPeerSummary).length + i.slots.length ≤ maxRoomPeers := by
    simp [slots]
  obtain ⟨sensorPoses, hsensorPoses, -⟩ := foldlM_keeps hpass i.slots (b := [i.localPose]) hslots trivial
  exact ⟨sensorPoses, hsensorPoses⟩

/-- Whatever the clusters are, the estimate lies between the largest count and the sum. -/
theorem exists_result {i : RoomInputs} {done : List RoomPeerSummary} {s : Fusion F}
    (h : i.FusionInv done s) : ∃ m, result s = some m ∧
      (∀ q ∈ i.qualifiedCounts done, q ≤ m.peopleEstimate) ∧
      m.peopleEstimate ≤ min 255 (i.qualifiedCounts done).sum ∧ m.activityScore ≤ 100 ∧
      m.peerNodeCount ≤ done.length ∧ m.activeNodeCount ≤ m.peerNodeCount + 1 := by
  have hfused : uint8 (min 255 (s.clusters.clusters.length + s.clusters.unresolvedPeople)) =
      some (min 255 (s.clusters.clusters.length + s.clusters.unresolvedPeople)) :=
    uint8_of_lt (by omega)
  simp only [result, hfused, Option.bind_eq_bind, Option.bind_some]
  refine ⟨_, rfl, fun q hq => ?_, ?_, min_le_left _ _, h.peerNodeCount_le, h.activeNodeCount_le⟩
  · have hsum := List.single_le_sum (fun _ _ => Nat.zero_le _) q hq
    have htotal := Nat.le_min.2 ⟨i.qualifiedCounts_le done q hq, hsum⟩
    exact Nat.le_min.2 ⟨(h.le_peakPeople q hq).trans (le_max_left _ _), h.totalPeople_eq ▸ htotal⟩
  · exact (min_le_right _ _).trans_eq h.totalPeople_eq

end RoomInputs

open RoomInputs in
/-- The room's metrics, whatever the geometry and the table of peers: no access is outside an
array, no sum wraps, and the people are at least those that one node sees and at most all of
them. -/
theorem roomAggregate_bounds (i : RoomInputs) :
    ∃ m, i.buildRoomAggregateMetrics float = some m ∧
      (∀ q ∈ i.qualifiedCounts i.slots, q ≤ m.peopleEstimate) ∧
      m.peopleEstimate ≤ min 255 (i.qualifiedCounts i.slots).sum ∧
      (1 ≤ m.peopleEstimate ↔ i.localDetectionCandidate = true ∨
        ∃ peer ∈ i.slots, peer.fresh i.now = true ∧ peer.detectionCandidate = true) ∧
      m.activityScore ≤ 100 ∧ m.peerNodeCount ≤ 8 ∧ m.activeNodeCount ≤ m.peerNodeCount + 1 := by
  have hlength : i.slots.length = maxRoomPeers := by simp [slots]
  obtain ⟨sensorPoses, hsensorPoses⟩ := i.exists_sensorPoses
  obtain ⟨s₀, hstart, hinv₀⟩ := FusionInv.start float i sensorPoses
  have hpass (done : List RoomPeerSummary) (peer : RoomPeerSummary) (s : Fusion F)
      (hdone : done.length < maxRoomPeers) (hinv : i.FusionInv done s) :=
    hinv.addPeer float hdone sensorPoses peer
  have hlimit : ([] : List RoomPeerSummary).length + i.slots.length ≤ maxRoomPeers :=
    ((Nat.zero_add _).trans hlength).le
  obtain ⟨s, hloop, hinv⟩ := foldlM_keeps hpass i.slots hlimit hinv₀
  obtain ⟨m, hm, hle, hge, hactivity, hpeers, hactive⟩ := exists_result hinv
  rw [List.nil_append] at hle hge hpeers
  refine ⟨m, ?_, hle, hge, ?_, hactivity, hpeers.trans_eq hlength, hactive⟩
  · simp only [buildRoomAggregateMetrics, hsensorPoses, hstart, hloop, hm, Option.bind_eq_bind,
      Option.bind_some]
  · rw [← sum_qualifiedCounts_pos]
    constructor
    · intro hone
      omega
    · intro hpos
      obtain ⟨q, hq, hne⟩ := List.exists_mem_ne_zero_of_sum_ne_zero (Nat.pos_iff_ne_zero.1 hpos)
      exact (Nat.one_le_iff_ne_zero.2 hne).trans (hle q hq)

end EspWaveRider.Cpp
