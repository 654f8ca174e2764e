import EspWaveRider.Lib.Bounded
import EspWaveRider.Core.Metrics

/-!
# The firmware state

`FirmwareState` of `rust/firmware/esp32s3/src/main.rs`, with the fields the
modelled functions read or write and the values of its `Default`, and the small
functions that fill and normalise its texts.

* `initializeDeviceIdentity`, `markWifiDisconnected`, `homeAssistantConfigured`;
* `sanitizeHostname` and `utf8Len_deviceHostname_le` — the host name announced
  on the network has at most 31 bytes.
-/

namespace EspWaveRider.Firmware

open Text Radar Metrics

/-! ## Constants -/

def u32Max : ℕ := 4294967295

def rustFirmwareVersion : Str := "0.1.0"
def rustBuildTarget : Str := "lonely-esp32-s3-devkitm-1"
def defaultNodeIdPrefix : Str := "lb_mmwave_presence"
def defaultFriendlyNamePrefix : Str := "LB mmWave Presence"
def defaultRoomId : Str := "room-default"
def defaultSensorRole : Str := "auto"
def defaultMqttPort : UInt16 := 1883
def defaultMqttWebsocketPath : Str := "/mqtt"
def mqttStateDisconnected : ℤ := -1
def defaultWifiNotConfiguredReasonText : Str := "not_configured"
def minPresenceHoldMs : UInt16 := 3000
def maxPresenceHoldMs : UInt16 := 60000
def maxBleTags : ℕ := 8
def bleTagDefaultMinRssi : ℤ := -88
def radarFrameBufferSize : ℕ := 256

/-- `saturating_add(1)` on a `u32` counter. -/
def saturatingSucc (n : ℕ) : ℕ := min (n + 1) u32Max

/-! ## The state -/

structure FirmwareSyncState where
  inProgress : Bool := false
  pending : Bool := false
  targetVersion : Str := []
  targetNodeId : Str := []
  targetSource : Str := []
  downloadUrl : Str := []
  status : Str := []
  lastError : Str := []
  lastStartedMs : ℕ := 0
  lastCompletedMs : ℕ := 0
  lastSuccess : Bool := false
  deriving DecidableEq

structure LatestEnergyFrameSnapshot where
  length : UInt16
  payloadLength : UInt16
  presence : Bool
  distanceCm : UInt16
  bytesTotal : ℕ
  framesTotal : ℕ
  energyFramesTotal : ℕ
  gates : List UInt16
  deriving DecidableEq

structure LatestTextFrameSnapshot where
  length : UInt16
  presence : Bool
  range : ℤ
  bytesTotal : ℕ
  framesTotal : ℕ
  hex : Str
  ascii : Str
  deriving DecidableEq

structure LatestGenericFrameSnapshot where
  length : UInt16
  bytesTotal : ℕ
  framesTotal : ℕ
  hex : Str
  ascii : Str
  deriving DecidableEq

/-- A peer heard on UDP discovery or through its room summaries. -/
structure UdpDiscoveryPeerState where
  nodeId : Str
  friendlyName : Str := []
  roomId : Str := []
  sensorRole : Str := []
  firmwareVersion : Str := []
  buildTarget : Str := []
  hostname : Str := []
  ipAddress : Str := []
  wifiRssiDbm : ℤ := 0
  wifiChannel : UInt8 := 0
  uptimeS : ℕ := 0
  freeHeapBytes : ℕ := 0
  lastSeenMs : ℕ
  poseXCm : ℤ := 0
  poseYCm : ℤ := 0
  headingDeg : ℤ := 0
  roomWidthCm : UInt16 := 0
  roomHeightCm : UInt16 := 0
  lastRoomSummaryMs : ℕ := 0
  deriving DecidableEq

structure BleIdentityTagState where
  occupied : Bool := false
  label : Str := []
  address : Str := []
  minRssi : ℤ := bleTagDefaultMinRssi
  lastRssi : ℤ := -127
  lastSeenMs : ℕ := 0
  deriving DecidableEq

theorem size_noAddress : (#[0, 0, 0, 0, 0, 0] : Array UInt8).size = 6 := rfl

structure FirmwareState where
  enabled : Bool := true
  wifiSsid : Str := []
  wifiPassword : Str := []
  mqttHost : Str := []
  mqttPort : UInt16 := defaultMqttPort
  mqttUsername : Str := []
  mqttPassword : Str := []
  mqttUseWebsockets : Bool := false
  mqttWebsocketPath : Str := defaultMqttWebsocketPath
  mqttHostHeader : Str := []
  mqttConnected : Bool := false
  mqttState : ℤ := mqttStateDisconnected
  mqttStateText : Str := "DISCONNECTED"
  mqttHostIp : Str := []
  mqttRuntimeGeneration : ℕ := 1
  mqttRuntimeAnnouncedGeneration : ℕ := 0
  mqttRuntimeAnnouncedWifiConnected : Bool := false
  lastMqttRoomSummaryPublishMs : ℕ := 0
  nodeId : Str := defaultNodeIdPrefix
  friendlyName : Str := defaultFriendlyNamePrefix
  macAddress : Vector UInt8 6 := ⟨#[0, 0, 0, 0, 0, 0], size_noAddress⟩
  bootCount : ℕ := 0
  wifiConnected : Bool := false
  wifiDisconnectReason : UInt16 := 0
  wifiDisconnectReasonText : Str := defaultWifiNotConfiguredReasonText
  wifiRssiDbm : ℤ := 0
  wifiChannel : UInt8 := 0
  wifiBssid : Str := []
  wifiReconfigurePending : Bool := false
  wifiRuntimeStarted : Bool := false
  lastWifiAttemptMs : ℕ := 0
  lastWifiStatusPollMs : ℕ := 0
  ipAddress : Str := []
  subnetMask : Str := []
  gatewayIp : Str := []
  dns1 : Str := []
  dns2 : Str := []
  broadcastIp : Str := []
  roomId : Str := defaultRoomId
  sensorRole : Str := defaultSensorRole
  poseXCm : ℤ := 0
  poseYCm : ℤ := 0
  headingDeg : ℤ := -90
  roomWidthCm : UInt16 := 600
  roomHeightCm : UInt16 := 400
  maxDetectionRangeCm : UInt16 := 1120
  minGateEnergy : UInt16 := 25
  sensitivityPercent : UInt8 := 55
  presenceHoldMs : UInt16 := 4000
  minActiveGates : UInt8 := 1
  minActivityScore : UInt8 := 10
  ledEnabled : Bool := true
  ledBrightness : UInt8 := 32
  presence : Bool := false
  gpioPresence : Bool := false
  detectionCandidate : Bool := false
  presenceInitialized : Bool := false
  presenceChangesTotal : ℕ := 0
  lastPresencePollMs : ℕ := 0
  lastDetectionMs : ℕ := 0
  radarBytesTotal : ℕ := 0
  radarFramesTotal : ℕ := 0
  ld2420EnergyFramesTotal : ℕ := 0
  lastRadarByteMs : ℕ := 0
  radarBuffer : HVec UInt8 radarFrameBufferSize := Bounded.empty
  latestEnergyFrame : Option LatestEnergyFrameSnapshot := none
  latestTextFrame : Option LatestTextFrameSnapshot := none
  latestGenericFrame : Option LatestGenericFrameSnapshot := none
  latestRadarFrame : Option RadarFrame := none
  firmwareSyncState : FirmwareSyncState := {}
  lastUdpDiscoveryAnnounceMs : ℕ := 0
  udpDiscoveryPeers : List UdpDiscoveryPeerState := []
  bleIdentityTags : Vector BleIdentityTagState maxBleTags := Vector.replicate maxBleTags {}

instance : Inhabited FirmwareState := ⟨{}⟩

/-! ## Texts -/

/-- Two lower-case hex digits. -/
def hexByteLower (value : UInt8) : Str :=
  let digits : Str := "0123456789abcdef"
  [digits.getD (value.toNat / 16) '0', digits.getD (value.toNat % 16) '0']

def macSuffixString (mac : Vector UInt8 6) : Str :=
  hexByteLower mac[3] ++ hexByteLower mac[4] ++ hexByteLower mac[5]

def defaultNodeId (mac : Vector UInt8 6) : Str :=
  defaultNodeIdPrefix ++ '_' :: macSuffixString mac

def defaultFriendlyName (mac : Vector UInt8 6) : Str :=
  defaultFriendlyNamePrefix ++ ' ' :: macSuffixString mac

def mqttEndpointUsesWebsockets (mqttHost : Str) : Bool :=
  ("ws://" : Str).isPrefixOf mqttHost || ("wss://" : Str).isPrefixOf mqttHost ||
    ("http://" : Str).isPrefixOf mqttHost || ("https://" : Str).isPrefixOf mqttHost

def FirmwareState.mqttTransport (s : FirmwareState) : Str :=
  if s.mqttUseWebsockets || mqttEndpointUsesWebsockets s.mqttHost then "websocket" else "tcp"

def normalizeWebsocketPath : Str → Str
  | [] => defaultMqttWebsocketPath
  | c :: path => if c = '/' then c :: path else '/' :: c :: path

/-- What the loop of `sanitize_hostname` adds for one character. -/
def pushHostnameChar (hostname : Str) (c : Char) : Str :=
  if isAsciiLowercase c || isAsciiDigit c then hostname ++ [c]
  else if isAsciiUppercase c then hostname ++ [toAsciiLowercase c]
  else if (c = '-' ∨ c = '_') ∧ hostname ≠ [] ∧ hostname.getLast? ≠ some '-' then
    hostname ++ ['-']
  else hostname

/-- Lower-case letters, digits and single dashes, at most 31 bytes. -/
def sanitizeHostname (value : Str) : Str :=
  let hostname := value.foldl pushHostnameChar []
  let hostname := (hostname.dropWhile (· == '-')).rdropWhile (· == '-')
  let hostname := if hostname = [] then ("lb-mmwave" : Str) else hostname
  hostname.take 31

example : sanitizeHostname "__Living Room_-A7" = ("livingroom-a7" : Str) := by decide

def parseIpv4Address (value : Str) : Option (List ℕ) :=
  let parts := value.splitOn '.'
  if parts.length = 4 then parts.mapM (parseUnsigned 255) else none

example : parseIpv4Address "192.168.1.4" = some [192, 168, 1, 4] := by decide

theorem normalizeWebsocketPath_ne_nil (path : Str) : normalizeWebsocketPath path ≠ [] := by
  cases path with
  | nil => decide
  | cons c path =>
    rw [normalizeWebsocketPath]
    split <;> exact List.cons_ne_nil _ _

/-- Normalising twice changes nothing. -/
theorem normalizeWebsocketPath_idem (path : Str) :
    normalizeWebsocketPath (normalizeWebsocketPath path) = normalizeWebsocketPath path := by
  cases path with
  | nil => decide
  | cons c path =>
    by_cases hc : c = '/'
    · simp [normalizeWebsocketPath, hc]
    · simp [normalizeWebsocketPath, hc]

/-! ### The host name is plain ASCII -/

/-- The characters a host name is made of. -/
def isHostnameChar (c : Char) : Bool := isAsciiLowercase c || isAsciiDigit c || c == '-'

theorem toNat_lt_of_isHostnameChar {c : Char} (h : isHostnameChar c) : c.toNat < 128 := by
  simp only [isHostnameChar, Bool.or_eq_true, isAsciiLowercase_iff, isAsciiDigit_iff,
    beq_iff_eq] at h
  rcases h with (h | h) | rfl
  · omega
  · omega
  · decide

theorem forall_pushHostnameChar {hostname : Str} (c : Char)
    (h : ∀ d ∈ hostname, isHostnameChar d) : ∀ d ∈ pushHostnameChar hostname c, isHostnameChar d := by
  intro d hd
  rw [pushHostnameChar] at hd
  split_ifs at hd with hkeep hupper hdash
  · rcases List.mem_append.1 hd with hd | hd
    · exact h d hd
    · rw [List.mem_singleton.1 hd, isHostnameChar, hkeep, Bool.true_or]
  · rcases List.mem_append.1 hd with hd | hd
    · exact h d hd
    · rw [List.mem_singleton.1 hd, isHostnameChar, isAsciiLowercase_toAsciiLowercase hupper,
        Bool.true_or, Bool.true_or]
  · rcases List.mem_append.1 hd with hd | hd
    · exact h d hd
    · rw [List.mem_singleton.1 hd]
      decide
  · exact h d hd

theorem forall_foldl_pushHostnameChar (value hostname : Str)
    (h : ∀ d ∈ hostname, isHostnameChar d) :
    ∀ d ∈ value.foldl pushHostnameChar hostname, isHostnameChar d := by
  induction value generalizing hostname with
  | nil => exact h
  | cons c value ih => exact ih _ (forall_pushHostnameChar c h)

theorem forall_sanitizeHostname (value : Str) : ∀ c ∈ sanitizeHostname value, isHostnameChar c := by
  intro c hc
  have hc := List.mem_of_mem_take hc
  split_ifs at hc with hempty
  · have hdefault : ("lb-mmwave" : Str).all isHostnameChar := by decide
    exact List.all_eq_true.1 hdefault c hc
  · have hc := (List.rdropWhile_prefix _ _).subset hc
    have hc := (List.dropWhile_suffix _).subset hc
    exact forall_foldl_pushHostnameChar value [] (by simp) c hc

/-- A host name has at most 31 bytes. -/
theorem utf8Len_sanitizeHostname_le (value : Str) : utf8Len (sanitizeHostname value) ≤ 31 := by
  have hascii : ∀ c ∈ sanitizeHostname value, c.toNat < 128 := by
    intro c hc
    exact toNat_lt_of_isHostnameChar (forall_sanitizeHostname value c hc)
  rw [utf8Len_of_lt hascii, sanitizeHostname, List.length_take]
  exact Nat.min_le_left _ _

/-! ## Identity and link state -/

namespace FirmwareState

def initializeDeviceIdentity (s : FirmwareState) (mac : Vector UInt8 6) : FirmwareState :=
  { s with
    macAddress := mac
    nodeId := if s.nodeId = defaultNodeIdPrefix ∨ s.nodeId = [] then defaultNodeId mac
      else s.nodeId
    friendlyName := if s.friendlyName = defaultFriendlyNamePrefix ∨ s.friendlyName = [] then
        defaultFriendlyName mac
      else s.friendlyName }

def homeAssistantConfigured (s : FirmwareState) : Bool :=
  s.enabled && s.wifiSsid ≠ [] && s.mqttHost ≠ [] && s.nodeId ≠ []

/-- The generation counter wraps around and skips zero. -/
def markMqttRuntimeDirty (s : FirmwareState) : FirmwareState :=
  { s with mqttRuntimeGeneration := max ((s.mqttRuntimeGeneration + 1) % (u32Max + 1)) 1 }

def markWifiDisconnected (s : FirmwareState) (reasonText : Str) : FirmwareState :=
  markMqttRuntimeDirty { s with
    wifiConnected := false
    wifiDisconnectReason := 0
    wifiDisconnectReasonText := reasonText
    wifiRssiDbm := 0
    wifiBssid := [] }

def normalizedWebsocketPath (s : FirmwareState) : Str := normalizeWebsocketPath s.mqttWebsocketPath

def deviceHostname (s : FirmwareState) : Str :=
  sanitizeHostname (if s.nodeId = [] then defaultNodeIdPrefix else s.nodeId)

theorem utf8Len_deviceHostname_le (s : FirmwareState) : utf8Len s.deviceHostname ≤ 31 :=
  utf8Len_sanitizeHostname_le _

def radarTuning (s : FirmwareState) : RadarTuning :=
  { maxDetectionRangeCm := s.maxDetectionRangeCm
    minGateEnergy := s.minGateEnergy
    sensitivityPercent := s.sensitivityPercent
    minActiveGates := s.minActiveGates
    minActivityScore := s.minActivityScore }

def activeRadarMetrics (s : FirmwareState) : Option RadarDerivedMetrics :=
  s.latestRadarFrame.map fun frame => buildRadarDerivedMetrics (some frame) s.gpioPresence

end FirmwareState

end EspWaveRider.Firmware
