import EspWaveRider.Firmware.BleSightings
import EspWaveRider.Firmware.Peers
import EspWaveRider.Firmware.ReleaseSelection
import EspWaveRider.Firmware.StatusLed
import EspWaveRider.Firmware.WifiRuntime

/-!
# The snapshot

`snapshot` of `rust/firmware/esp32s3/src/main.rs`, the answer to most commands and to
`/api/snapshot`, with the record of `espwaverider-core/src/snapshot.rs` that it fills.

* `DeviceState` — the firmware state with the fields that only snapshots read;
* `DeviceState.snapshot` — all that a node tells about itself;
* `DeviceState.Tabled` — what the tables of a node are like;
* `DeviceState.Tabled.snapshot` — then the lists, counts and ages of its snapshots agree.
-/

namespace EspWaveRider.Firmware

open Text Radar Metrics Release

/-! ## The record -/

def rustGitSha : Str := "rust-port"
def defaultApIp : Str := "192.168.4.1"
def udpDiscoveryPort : UInt16 := 42110
def maxBleSightings : ℕ := 16
def bleSightingFreshnessMs : ℕ := 30000
def bleTagFreshnessMs : ℕ := 45000

structure WifiLinkSnapshot where
  connected : Bool
  ssid : Str
  rssiDbm : ℤ
  channel : UInt8
  bssid : Str
  macAddress : Str
  subnetMask : Str
  gatewayIp : Str
  dns1 : Str
  dns2 : Str
  broadcastIp : Str
  deriving DecidableEq

/-- What a snapshot says of the firmware sync, beside what a request looks at. -/
structure FirmwareSyncReport extends FirmwareSyncSnapshot where
  syncAvailable : Bool
  inProgress : Bool
  pending : Bool
  targetVersion : Str
  targetNodeId : Str
  targetSource : Str
  downloadUrl : Str
  status : Str
  lastError : Str
  lastStartedMs : ℕ
  lastCompletedMs : ℕ
  lastSuccess : Bool

structure UdpDiscoveryPeerSnapshot where
  nodeId : Str
  friendlyName : Str
  roomId : Str
  sensorRole : Str
  firmwareVersion : Str
  buildTarget : Str
  hostname : Str
  ipAddress : Str
  wifiRssiDbm : ℤ
  wifiChannel : UInt8
  uptimeS : ℕ
  freeHeapBytes : ℕ
  ageMs : ℕ
  deriving DecidableEq

structure UdpDiscoverySnapshot where
  started : Bool
  port : UInt16
  peerCount : ℕ
  lastAnnounceMs : ℕ
  peers : List UdpDiscoveryPeerSnapshot
  deriving DecidableEq

structure RoomPeerSnapshot where
  nodeId : Str
  buildTarget : Str
  poseXCm : ℤ
  poseYCm : ℤ
  headingDeg : ℤ
  roomWidthCm : UInt16
  roomHeightCm : UInt16
  deriving DecidableEq

structure BleBeaconSnapshot where
  address : Str
  name : Str
  serviceUuid : Str
  rssi : ℤ
  ageMs : ℕ
  deriving DecidableEq

structure BleTagSnapshot where
  slot : Option ℕ
  label : Option Str
  address : Option Str
  minRssi : Option ℤ
  rssi : Option ℤ
  ageMs : Option ℕ
  present : Option Bool
  deriving DecidableEq

structure RuntimeBenchmarkMeasurementSnapshot where
  totalUs : ℕ
  perIterNs : ℕ
  deriving DecidableEq

structure RuntimeBenchmarkSnapshot where
  measuredAtMs : ℕ
  iterations : ℕ
  parseCommandFixture : RuntimeBenchmarkMeasurementSnapshot
  parseRoomConfigFixture : RuntimeBenchmarkMeasurementSnapshot
  parseTuningConfigFixture : RuntimeBenchmarkMeasurementSnapshot
  parseGenericFixture : RuntimeBenchmarkMeasurementSnapshot
  deriveMetricsFixture : RuntimeBenchmarkMeasurementSnapshot
  detectionCandidateFixture : RuntimeBenchmarkMeasurementSnapshot
  detectionCandidate : Bool
  peopleEstimate : ℕ
  activeGateCount : ℕ
  activityScore : ℕ
  dominantGateDistanceCm : ℤ
  deriving DecidableEq

structure DeviceSnapshot where
  enabled : Bool
  configured : Bool
  bootCount : ℕ
  lastResetReason : Str
  wifiSsid : Str
  mqttHost : Str
  mqttPort : UInt16
  mqttTransport : Str
  mqttWsPath : Str
  mqttHostHeader : Str
  mqttUsernameSet : Bool
  firmwareVersion : Str
  buildTarget : Str
  gitSha : Str
  nodeId : Str
  friendlyName : Str
  roomId : Str
  sensorRole : Str
  poseXCm : ℤ
  poseYCm : ℤ
  headingDeg : ℤ
  roomWidthCm : UInt16
  roomHeightCm : UInt16
  maxDetectionRangeCm : UInt16
  minGateEnergy : UInt16
  sensitivityPercent : UInt8
  presenceHoldMs : UInt16
  minActiveGates : UInt8
  minActivityScore : UInt8
  ledEnabled : Bool
  ledBrightness : UInt8
  wifiConnected : Bool
  wifiDisconnectReason : UInt16
  wifiDisconnectReasonText : Str
  ipAddress : Str
  wifiLink : WifiLinkSnapshot
  mqttConnected : Bool
  mqttState : ℤ
  mqttStateText : Str
  mqttHostIp : Str
  topicPrefix : Str
  deviceHostname : Str
  dashboardUrl : Str
  apSsid : Str
  apPassword : Str
  apIp : Str
  uptimeMs : ℕ
  freeHeap : ℕ
  presence : Bool
  gpioPresence : Bool
  detectionCandidate : Bool
  presenceDecayRemainingMs : ℕ
  radarBytesTotal : ℕ
  radarFramesTotal : ℕ
  ld2420EnergyFramesTotal : ℕ
  presenceChangesTotal : ℕ
  peopleEstimate : ℕ
  activeGateCount : ℕ
  activityScore : ℕ
  dominantGateIndex : ℤ
  dominantGateDistanceCm : ℤ
  dominantGateEnergy : ℕ
  totalGateEnergy : ℕ
  statusLedHex : Str
  runtimeBenchmark : Option RuntimeBenchmarkSnapshot
  roomPeopleEstimate : ℕ
  roomActiveNodes : ℕ
  roomPeerNodes : ℕ
  roomActivityScore : ℕ
  firmwareSync : FirmwareSyncReport
  udpDiscovery : UdpDiscoverySnapshot
  roomPeers : List RoomPeerSnapshot
  bleBeaconCount : ℕ
  bleBeacons : List BleBeaconSnapshot
  bleTaggedPeopleCount : ℕ
  bleTags : List BleTagSnapshot
  latestEnergyFrame : Option LatestEnergyFrameSnapshot
  latestTextFrame : Option LatestTextFrameSnapshot
  latestGenericFrame : Option LatestGenericFrameSnapshot

/-! ## Filling it -/

def UdpDiscoveryPeerState.snapshot (peer : UdpDiscoveryPeerState) (uptimeMs : ℕ) :
    UdpDiscoveryPeerSnapshot :=
  { nodeId := peer.nodeId, friendlyName := peer.friendlyName, roomId := peer.roomId
    sensorRole := peer.sensorRole, firmwareVersion := peer.firmwareVersion
    buildTarget := peer.buildTarget, hostname := peer.hostname, ipAddress := peer.ipAddress
    wifiRssiDbm := peer.wifiRssiDbm, wifiChannel := peer.wifiChannel, uptimeS := peer.uptimeS
    freeHeapBytes := peer.freeHeapBytes, ageMs := uptimeMs - peer.lastSeenMs }

def UdpDiscoveryPeerState.roomSnapshot (peer : UdpDiscoveryPeerState) : RoomPeerSnapshot :=
  { nodeId := peer.nodeId, buildTarget := peer.buildTarget, poseXCm := peer.poseXCm
    poseYCm := peer.poseYCm, headingDeg := peer.headingDeg, roomWidthCm := peer.roomWidthCm
    roomHeightCm := peer.roomHeightCm }

def bleBeaconSightingActive (sighting : BleBeaconSightingState) (uptimeMs : ℕ) : Bool :=
  sighting.occupied && uptimeMs - sighting.lastSeenMs ≤ bleSightingFreshnessMs

def bleIdentityTagPresent (tag : BleIdentityTagState) (uptimeMs : ℕ) : Bool :=
  tag.occupied && tag.lastSeenMs > 0 && uptimeMs - tag.lastSeenMs ≤ bleTagFreshnessMs

def BleBeaconSightingState.snapshot (sighting : BleBeaconSightingState) (uptimeMs : ℕ) :
    BleBeaconSnapshot :=
  { address := sighting.address, name := sighting.name, serviceUuid := sighting.serviceUuid
    rssi := sighting.rssi, ageMs := uptimeMs - sighting.lastSeenMs }

/-- The entry of a slot that is in use. -/
def BleIdentityTagState.snapshot (tag : BleIdentityTagState) (slot uptimeMs : ℕ) :
    Option BleTagSnapshot :=
  if !tag.occupied then none
  else some
    { slot := some (min slot 255), label := some tag.label, address := some tag.address
      minRssi := some tag.minRssi, rssi := some tag.lastRssi
      ageMs := some (if tag.lastSeenMs > 0 then uptimeMs - tag.lastSeenMs
        else min (bleTagFreshnessMs + 1) u32Max)
      present := some (bleIdentityTagPresent tag uptimeMs) }

namespace FirmwareState

def topicPrefix (s : FirmwareState) : Str :=
  defaultTopicPrefix ++ if s.nodeId = [] then [] else '/' :: s.nodeId

def dashboardUrl (s : FirmwareState) : Str :=
  ("http://" : Str) ++ s.deviceHostname ++ (".local/" : Str)

def statusLedHex (s : FirmwareState) (uptimeMs : ℕ) : Option Str :=
  (s.statusLedRgb uptimeMs).map fun color =>
    hexByte color.r ++ hexByte color.g ++ hexByte color.b

/-- A peer whose room summary is recent, in the room of the node. -/
def RoomPeer (s : FirmwareState) (uptimeMs : ℕ) (peer : UdpDiscoveryPeerState) : Prop :=
  peer.roomId = s.roomId ∧ peer.lastRoomSummaryMs > 0 ∧
    uptimeMs - peer.lastRoomSummaryMs ≤ roomSummaryPeerFreshnessMs

instance (s : FirmwareState) (uptimeMs : ℕ) (peer : UdpDiscoveryPeerState) :
    Decidable (s.RoomPeer uptimeMs peer) := inferInstanceAs (Decidable (_ ∧ _))

def activeUdpDiscoveryPeers (s : FirmwareState) (uptimeMs : ℕ) : List UdpDiscoveryPeerSnapshot :=
  (s.udpDiscoveryPeers.filter (·.Fresh uptimeMs)).map (·.snapshot uptimeMs)

def activeRoomPeers (s : FirmwareState) (uptimeMs : ℕ) : List RoomPeerSnapshot :=
  (s.udpDiscoveryPeers.filter (s.RoomPeer uptimeMs ·)).map (·.roomSnapshot)

/-- The whole of `firmware_sync_snapshot`. -/
def firmwareSyncReport (s : FirmwareState) (uptimeMs : ℕ) : FirmwareSyncReport :=
  let snapshot := s.firmwareSyncSnapshot uptimeMs
  let sync := s.firmwareSyncState
  { snapshot with
    syncAvailable := snapshot.syncAvailable
    inProgress := sync.inProgress, pending := sync.pending, targetVersion := sync.targetVersion
    targetNodeId := sync.targetNodeId, targetSource := sync.targetSource
    downloadUrl := sync.downloadUrl, status := sync.status, lastError := sync.lastError
    lastStartedMs := sync.lastStartedMs, lastCompletedMs := sync.lastCompletedMs
    lastSuccess := sync.lastSuccess }

def activeBleTagCount (s : FirmwareState) (uptimeMs : ℕ) : ℕ :=
  min (s.bleIdentityTags.toList.countP (bleIdentityTagPresent · uptimeMs)) 65535

def bleTagSnapshots (s : FirmwareState) (uptimeMs : ℕ) : List BleTagSnapshot :=
  s.bleIdentityTags.toList.zipIdx.filterMap fun (tag, slot) => tag.snapshot slot uptimeMs

end FirmwareState

/-- The firmware state with its fields that only snapshots read. -/
structure DeviceState where
  state : FirmwareState := {}
  lastResetReason : Str := "unknown"
  runtimeBenchmark : Option RuntimeBenchmarkSnapshot := none
  bleSightings : Fin maxBleSightings → BleBeaconSightingState := fun _ => {}

namespace DeviceState

def bleSightingList (d : DeviceState) : List BleBeaconSightingState :=
  (List.finRange maxBleSightings).map d.bleSightings

def activeBleBeaconCount (d : DeviceState) (uptimeMs : ℕ) : ℕ :=
  min (d.bleSightingList.countP (bleBeaconSightingActive · uptimeMs)) 65535

def bleBeaconSnapshots (d : DeviceState) (uptimeMs : ℕ) : List BleBeaconSnapshot :=
  (d.bleSightingList.filter (bleBeaconSightingActive · uptimeMs)).map (·.snapshot uptimeMs)

/-- `none` where the colour of the LED overflows. -/
def snapshot (d : DeviceState) (uptimeMs freeHeapBytes : ℕ) : Option DeviceSnapshot := do
  let s := d.state
  let statusLedHex ← s.statusLedHex uptimeMs
  let liveMetrics := s.activeRadarMetrics
  let benchmark := d.runtimeBenchmark
  -- what the metrics say, else what the benchmark measured, else nothing
  let live {α : Type} (metric : RadarDerivedMetrics → α) (measured : RuntimeBenchmarkSnapshot → α)
      (default : α) : α :=
    ((liveMetrics.map metric).or (benchmark.map measured)).getD default
  let wifiDisconnectReasonText :=
    if s.homeAssistantConfigured then defaultWifiDisconnectReasonText
    else defaultWifiNotConfiguredReasonText
  let peers := s.activeUdpDiscoveryPeers uptimeMs
  let roomPeers := s.activeRoomPeers uptimeMs
  some
    { enabled := s.enabled
      configured := s.homeAssistantConfigured
      bootCount := s.bootCount
      lastResetReason := d.lastResetReason
      wifiSsid := s.wifiSsid
      mqttHost := s.mqttHost
      mqttPort := s.mqttPort
      mqttTransport := s.mqttTransport
      mqttWsPath := s.normalizedWebsocketPath
      mqttHostHeader := s.mqttHostHeader
      mqttUsernameSet := s.mqttUsername ≠ []
      firmwareVersion := rustFirmwareVersion
      buildTarget := rustBuildTarget
      gitSha := rustGitSha
      nodeId := s.nodeId
      friendlyName := s.friendlyName
      roomId := s.roomId
      sensorRole := s.sensorRole
      poseXCm := s.poseXCm
      poseYCm := s.poseYCm
      headingDeg := s.headingDeg
      roomWidthCm := s.roomWidthCm
      roomHeightCm := s.roomHeightCm
      maxDetectionRangeCm := s.maxDetectionRangeCm
      minGateEnergy := s.minGateEnergy
      sensitivityPercent := s.sensitivityPercent
      presenceHoldMs := s.presenceHoldMs
      minActiveGates := s.minActiveGates
      minActivityScore := s.minActivityScore
      ledEnabled := s.ledEnabled
      ledBrightness := s.ledBrightness
      wifiConnected := s.wifiConnected
      wifiDisconnectReason := s.wifiDisconnectReason
      wifiDisconnectReasonText := if s.wifiDisconnectReasonText = [] then wifiDisconnectReasonText
        else s.wifiDisconnectReasonText
      ipAddress := s.ipAddress
      wifiLink :=
        { connected := s.wifiConnected, ssid := s.wifiSsid, rssiDbm := s.wifiRssiDbm
          channel := s.wifiChannel, bssid := s.wifiBssid, macAddress := macAddressString s.macAddress
          subnetMask := s.subnetMask, gatewayIp := s.gatewayIp, dns1 := s.dns1, dns2 := s.dns2
          broadcastIp := s.broadcastIp }
      mqttConnected := s.mqttConnected
      mqttState := s.mqttState
      mqttStateText := s.mqttStateText
      mqttHostIp := s.mqttHostIp
      topicPrefix := s.topicPrefix
      deviceHostname := s.deviceHostname
      dashboardUrl := s.dashboardUrl
      apSsid := s.accessPointSsid
      apPassword := s.accessPointPassword
      apIp := defaultApIp
      uptimeMs
      freeHeap := freeHeapBytes
      presence := s.presence
      gpioPresence := s.gpioPresence
      detectionCandidate := s.detectionCandidate
      presenceDecayRemainingMs := s.presenceDecayRemainingMs uptimeMs
      radarBytesTotal := s.radarBytesTotal
      radarFramesTotal := s.radarFramesTotal
      ld2420EnergyFramesTotal := s.ld2420EnergyFramesTotal
      presenceChangesTotal := s.presenceChangesTotal
      peopleEstimate := live (·.estimatedPeople) (·.peopleEstimate) 0
      activeGateCount := live (·.activeGateCount) (·.activeGateCount) 0
      activityScore := live (·.activityScore) (·.activityScore) 0
      dominantGateIndex := (liveMetrics.map (·.dominantGateIndex)).getD (-1)
      dominantGateDistanceCm :=
        live (·.dominantGateDistanceCm) (·.dominantGateDistanceCm) (-1)
      dominantGateEnergy := (liveMetrics.map (·.dominantGateEnergy)).getD 0
      totalGateEnergy := (liveMetrics.map (·.totalGateEnergy)).getD 0
      statusLedHex
      runtimeBenchmark := benchmark
      roomPeopleEstimate := live (·.estimatedPeople) (·.peopleEstimate) 0
      roomActiveNodes := min (1 + roomPeers.length % 256) 255
      roomPeerNodes := roomPeers.length % 256
      roomActivityScore := live (·.activityScore) (·.activityScore) 0
      firmwareSync := s.firmwareSyncReport uptimeMs
      udpDiscovery :=
        { started := s.wifiConnected, port := udpDiscoveryPort, peerCount := min peers.length 255
          lastAnnounceMs := s.lastUdpDiscoveryAnnounceMs, peers }
      roomPeers
      bleBeaconCount := d.activeBleBeaconCount uptimeMs
      bleBeacons := d.bleBeaconSnapshots uptimeMs
      bleTaggedPeopleCount := s.activeBleTagCount uptimeMs
      bleTags := s.bleTagSnapshots uptimeMs
      latestEnergyFrame := s.latestEnergyFrame
      latestTextFrame := s.latestTextFrame
      latestGenericFrame := s.latestGenericFrame }

end DeviceState

/-! ## Agreement -/

/-- The lists, counts and ages of a snapshot fit each other. -/
structure DeviceSnapshot.Consistent (snap : DeviceSnapshot) : Prop where
  peerCount : snap.udpDiscovery.peerCount = snap.udpDiscovery.peers.length
  peersNodup : (snap.udpDiscovery.peers.map (·.nodeId)).Nodup
  peerAges : ∀ peer ∈ snap.udpDiscovery.peers, peer.ageMs ≤ udpDiscoveryPeerFreshnessMs
  roomPeerNodes : snap.roomPeerNodes = snap.roomPeers.length
  roomActiveNodes : snap.roomActiveNodes = snap.roomPeers.length + 1
  roomPeersNodup : (snap.roomPeers.map (·.nodeId)).Nodup
  /-- Who is in the room is also heard. -/
  roomPeers : ∀ roomPeer ∈ snap.roomPeers, ∃ peer ∈ snap.udpDiscovery.peers,
    peer.nodeId = roomPeer.nodeId ∧ peer.buildTarget = roomPeer.buildTarget ∧
      peer.roomId = snap.roomId
  bleBeaconCount : snap.bleBeaconCount = snap.bleBeacons.length
  bleAddresses : (snap.bleBeacons.map (·.address)).Nodup
  bleBeaconAges : ∀ beacon ∈ snap.bleBeacons, beacon.ageMs ≤ bleSightingFreshnessMs
  bleTaggedPeopleCount :
    snap.bleTaggedPeopleCount = snap.bleTags.countP fun tag => tag.present = some true
  bleTags : ∀ tag ∈ snap.bleTags,
    (tag.present = some true ↔ ∃ age ∈ tag.ageMs, age ≤ bleTagFreshnessMs)
  /-- An update on offer is the release of a peer that is heard. -/
  firmwareSync : snap.firmwareSync.syncAvailable → ∃ peer ∈ snap.udpDiscovery.peers,
    peer.nodeId = snap.firmwareSync.highestPeerNodeId ∧ peer.buildTarget = rustBuildTarget ∧
      semanticVersionCore peer.firmwareVersion = snap.firmwareSync.highestPeerVersion

/-- The tables of a node at a time: few entries, each of another node or address, none from the
future. -/
structure DeviceState.Tabled (d : DeviceState) (clock : ℕ) : Prop where
  length_le : d.state.udpDiscoveryPeers.length ≤ maxUdpDiscoveryPeers
  nodup : (d.state.udpDiscoveryPeers.map (·.nodeId)).Nodup
  heard : ∀ peer ∈ d.state.udpDiscoveryPeers,
    peer.lastRoomSummaryMs ≤ peer.lastSeenMs ∧ peer.lastSeenMs ≤ clock
  distinct : SlotTable.Distinct BleBeaconSightingState.occupied BleBeaconSightingState.address
    d.bleSightings

/-! ### The lists -/

namespace FirmwareState

theorem mem_activeUdpDiscoveryPeers {s : FirmwareState} {peer : UdpDiscoveryPeerState} {uptimeMs : ℕ}
    (hmem : peer ∈ s.udpDiscoveryPeers) (hfresh : peer.Fresh uptimeMs) :
    peer.snapshot uptimeMs ∈ s.activeUdpDiscoveryPeers uptimeMs :=
  List.mem_map_of_mem (List.mem_filter.2 ⟨hmem, by simpa using hfresh⟩)

/-- A recent room summary is a sign of life too. -/
theorem fresh_of_roomPeer {s : FirmwareState} {peer : UdpDiscoveryPeerState} {uptimeMs : ℕ}
    (hheard : peer.lastRoomSummaryMs ≤ peer.lastSeenMs) (h : s.RoomPeer uptimeMs peer) :
    peer.Fresh uptimeMs := by
  have hsummary : uptimeMs - peer.lastRoomSummaryMs ≤ 20000 := h.2.2
  show uptimeMs - peer.lastSeenMs ≤ 20000
  omega

theorem length_activeRoomPeers_le (s : FirmwareState) (uptimeMs : ℕ) :
    (s.activeRoomPeers uptimeMs).length ≤ s.udpDiscoveryPeers.length := by
  rw [activeRoomPeers, List.length_map]
  exact List.length_filter_le _ _

theorem length_activeUdpDiscoveryPeers_le (s : FirmwareState) (uptimeMs : ℕ) :
    (s.activeUdpDiscoveryPeers uptimeMs).length ≤ s.udpDiscoveryPeers.length := by
  rw [activeUdpDiscoveryPeers, List.length_map]
  exact List.length_filter_le _ _

/-- The entry of a tag tells when it was present. -/
theorem present_iff_of_snapshot {tag : BleIdentityTagState} {slot uptimeMs : ℕ}
    {entry : BleTagSnapshot} (h : tag.snapshot slot uptimeMs = some entry) :
    entry.present = some (bleIdentityTagPresent tag uptimeMs) ∧
      (entry.present = some true ↔ ∃ age ∈ entry.ageMs, age ≤ bleTagFreshnessMs) := by
  unfold BleIdentityTagState.snapshot at h
  split at h
  · cases h
  · rename_i hoccupied
    cases h
    refine ⟨rfl, ?_⟩
    have hoccupied : tag.occupied = true := by simpa using hoccupied
    by_cases hheard : tag.lastSeenMs > 0
    · simp [bleIdentityTagPresent, hoccupied, hheard]
    · simp [bleIdentityTagPresent, hheard, bleTagFreshnessMs, u32Max]

theorem countP_present (uptimeMs : ℕ) (tags : List BleIdentityTagState) (start : ℕ) :
    (((tags.zipIdx start).filterMap fun (tag, slot) => tag.snapshot slot uptimeMs).countP
      fun entry => entry.present = some true) = tags.countP (bleIdentityTagPresent · uptimeMs) := by
  induction tags generalizing start with
  | nil => rfl
  | cons tag tags ih =>
    rw [List.zipIdx_cons, List.countP_cons, List.filterMap_cons]
    cases hentry : tag.snapshot start uptimeMs with
    | none =>
      have hfree : tag.occupied = false := by
        unfold BleIdentityTagState.snapshot at hentry
        split at hentry
        · simpa using ‹(!tag.occupied) = true›
        · cases hentry
      simp [hentry, ih, bleIdentityTagPresent, hfree]
    | some entry =>
      have hpresent := (present_iff_of_snapshot hentry).1
      simp [hentry, ih, List.countP_cons, hpresent]

theorem exists_statusLedHex (s : FirmwareState) (uptimeMs : ℕ) :
    ∃ hex, s.statusLedHex uptimeMs = some hex := by
  by_cases hled : s.ledEnabled
  · exact ⟨_, congrArg (Option.map _) (statusLedRgb_eq hled uptimeMs)⟩
  · refine ⟨_, congrArg (Option.map _) (?_ : s.statusLedRgb uptimeMs = some {})⟩
    rw [statusLedRgb, if_pos (by simpa using hled)]

/-- The peer whose release is on offer. -/
theorem exists_releasePeer {s : FirmwareState} {uptimeMs : ℕ}
    (h : (s.firmwareSyncSnapshot uptimeMs).syncAvailable) :
    ∃ peer ∈ s.udpDiscoveryPeers, peer.Fresh uptimeMs ∧ peer.buildTarget = rustBuildTarget ∧
      peer.nodeId = (s.firmwareSyncSnapshot uptimeMs).highestPeerNodeId ∧
      semanticVersionCore peer.firmwareVersion =
        (s.firmwareSyncSnapshot uptimeMs).highestPeerVersion := by
  have hne : (s.firmwareSyncSnapshot uptimeMs).highestPeerVersion ≠ [] := by
    intro hempty
    simp [FirmwareSyncSnapshot.syncAvailable, hempty] at h
  rw [highestPeerVersion_ne_nil_iff] at hne
  obtain ⟨peer, hpeer⟩ := Option.isSome_iff_exists.1 hne
  have hmem := List.mem_filter.1 (List.mem_of_find?_eq_some hpeer)
  have hcandidate : ReleaseCandidate uptimeMs peer := by simpa using hmem.2
  rw [firmwareSyncSnapshot_eq_reportedPeer, hpeer]
  exact ⟨peer, hmem.1, hcandidate.1, hcandidate.2.1, rfl, rfl⟩

end FirmwareState

namespace DeviceState

theorem length_bleSightingList (d : DeviceState) : d.bleSightingList.length = maxBleSightings := by
  rw [bleSightingList, List.length_map, List.length_finRange]

theorem nodup_bleBeaconAddresses {d : DeviceState} {clock : ℕ} (h : d.Tabled clock) (uptimeMs : ℕ) :
    ((d.bleBeaconSnapshots uptimeMs).map (·.address)).Nodup := by
  have haddresses : (d.bleBeaconSnapshots uptimeMs).map (·.address) =
      ((List.finRange maxBleSightings).filter fun i =>
        bleBeaconSightingActive (d.bleSightings i) uptimeMs).map
          fun i => (d.bleSightings i).address := by
    rw [bleBeaconSnapshots, bleSightingList, List.map_map, List.filter_map, List.map_map]
    rfl
  rw [haddresses]
  refine ((List.nodup_finRange _).filter _).map_on ?_
  intro i hi j hj haddress
  have hactive {k : Fin maxBleSightings}
      (hk : k ∈ (List.finRange maxBleSightings).filter fun i =>
        bleBeaconSightingActive (d.bleSightings i) uptimeMs) : (d.bleSightings k).occupied := by
    have hk := (List.mem_filter.1 hk).2
    rw [bleBeaconSightingActive, Bool.and_eq_true] at hk
    exact hk.1
  exact h.distinct i j (hactive hi) (hactive hj) haddress

/-- A node whose tables are in order tells a consistent story. -/
theorem Tabled.snapshot {d : DeviceState} {clock : ℕ} (h : d.Tabled clock) (uptimeMs freeHeapBytes : ℕ) :
    ∃ snap, d.snapshot uptimeMs freeHeapBytes = some snap ∧ snap.Consistent := by
  obtain ⟨hex, hhex⟩ := d.state.exists_statusLedHex uptimeMs
  have hpeers : (d.state.activeUdpDiscoveryPeers uptimeMs).length ≤ 12 :=
    (d.state.length_activeUdpDiscoveryPeers_le uptimeMs).trans h.length_le
  have hroom : (d.state.activeRoomPeers uptimeMs).length ≤ 12 :=
    (d.state.length_activeRoomPeers_le uptimeMs).trans h.length_le
  have hbeacons : (d.bleBeaconSnapshots uptimeMs).length ≤ 16 := by
    rw [bleBeaconSnapshots, List.length_map]
    exact (List.length_filter_le _ _).trans (le_of_eq d.length_bleSightingList)
  have htags : d.state.bleIdentityTags.toList.countP (bleIdentityTagPresent · uptimeMs) ≤ 8 :=
    List.countP_le_length.trans (le_of_eq (Vector.length_toList ..))
  refine ⟨_, by rw [DeviceState.snapshot, hhex]; rfl, ?_⟩
  constructor
  case peerCount => exact min_eq_left (by omega)
  case peersNodup =>
    show ((d.state.activeUdpDiscoveryPeers uptimeMs).map (·.nodeId)).Nodup
    rw [FirmwareState.activeUdpDiscoveryPeers, List.map_map]
    exact h.nodup.sublist (List.filter_sublist.map _)
  case peerAges =>
    intro peer hpeer
    obtain ⟨state, hstate, rfl⟩ := List.mem_map.1 hpeer
    exact of_decide_eq_true (List.mem_filter.1 hstate).2
  case roomPeerNodes => exact Nat.mod_eq_of_lt (by omega)
  case roomActiveNodes =>
    show min (1 + (d.state.activeRoomPeers uptimeMs).length % 256) 255 =
      (d.state.activeRoomPeers uptimeMs).length + 1
    omega
  case roomPeersNodup =>
    show ((d.state.activeRoomPeers uptimeMs).map (·.nodeId)).Nodup
    rw [FirmwareState.activeRoomPeers, List.map_map]
    exact h.nodup.sublist (List.filter_sublist.map _)
  case roomPeers =>
    intro roomPeer hroomPeer
    obtain ⟨peer, hpeer, rfl⟩ := List.mem_map.1 hroomPeer
    obtain ⟨hmem, hactive⟩ := List.mem_filter.1 hpeer
    have hactive : d.state.RoomPeer uptimeMs peer := by simpa using hactive
    have hfresh := FirmwareState.fresh_of_roomPeer (h.heard peer hmem).1 hactive
    exact ⟨_, FirmwareState.mem_activeUdpDiscoveryPeers hmem hfresh, rfl, rfl, hactive.1⟩
  case bleBeaconCount =>
    show min _ 65535 = (d.bleBeaconSnapshots uptimeMs).length
    have hcount : d.bleSightingList.countP (bleBeaconSightingActive · uptimeMs) =
        (d.bleBeaconSnapshots uptimeMs).length := by
      rw [bleBeaconSnapshots, List.length_map, List.countP_eq_length_filter]
    omega
  case bleAddresses => exact nodup_bleBeaconAddresses h uptimeMs
  case bleBeaconAges =>
    intro beacon hbeacon
    obtain ⟨sighting, hsighting, rfl⟩ := List.mem_map.1 hbeacon
    have hactive := (List.mem_filter.1 hsighting).2
    rw [bleBeaconSightingActive, Bool.and_eq_true, decide_eq_true_eq] at hactive
    exact hactive.2
  case bleTaggedPeopleCount =>
    show min _ 65535 = _
    rw [min_eq_left (by omega)]
    exact (FirmwareState.countP_present uptimeMs _ 0).symm
  case bleTags =>
    intro entry hentry
    obtain ⟨⟨tag, slot⟩, -, hsnapshot⟩ := List.mem_filterMap.1 hentry
    exact (FirmwareState.present_iff_of_snapshot hsnapshot).2
  case firmwareSync =>
    intro havailable
    obtain ⟨peer, hmem, hfresh, htarget, hnode, hversion⟩ :=
      FirmwareState.exists_releasePeer (s := d.state) havailable
    exact ⟨_, FirmwareState.mem_activeUdpDiscoveryPeers hmem hfresh, hnode, htarget, hversion⟩

end DeviceState

end EspWaveRider.Firmware
