import EspWaveRider.Lib.Json
import EspWaveRider.Core.Command
import EspWaveRider.Core.MemberNames
import EspWaveRider.Firmware.MqttWire

/-!
# Announcements, room summaries and pose commands

The JSON texts of `rust/firmware/esp32s3/src/main.rs` that one node sends to the
others, built by checked pushes into a buffer of 384 bytes.

* `buildUdpDiscoveryPayload`, `buildRoomSummaryPayload`,
  `buildRoomPosePublishMessage`;
* `items_of_buildUdpDiscoveryPayload`, `items_of_buildRoomSummaryPayload` — the
  payloads are the JSON objects `discoveryMembers` and `summaryMembers`;
* `payloadsBuilt_iff` — the payloads of a connected node are built exactly when
  their fields leave room.
-/

namespace EspWaveRider.Firmware

open Text Metrics Command

def udpDiscoveryAnnounceMs : ℕ := 5000
def roomSummaryKeepaliveMs : ℕ := 10000

/-! ## Numbers and strings -/

/-- The digits of a number, last one first; a `u32` has at most ten. -/
def digitsLoop : ℕ → ℕ → List ℕ
  | 0, _ => []
  | fuel + 1, remaining =>
    remaining % 10 :: if remaining / 10 = 0 then [] else digitsLoop fuel (remaining / 10)

def digitChar (digit : ℕ) : Char := Char.ofNat (48 + digit)

def appendU32Heapless (output : HString 384) (value : ℕ) : Option (HString 384) :=
  (digitsLoop 10 value).reverse.foldlM (fun output digit => output.push (digitChar digit)) output

def appendI32Heapless (output : HString 384) (value : ℤ) : Option (HString 384) :=
  if value < 0 then do
    let output ← output.push '-'
    appendU32Heapless output value.natAbs
  else appendU32Heapless output value.toNat

/-- How one character of a value is written. -/
def escapeJsonChar : Char → Str
  | '\\' => "\\\\"
  | '"' => "\\\""
  | '\n' => "\\n"
  | '\r' => "\\r"
  | '\t' => "\\t"
  | ch => [ch]

def pushJsonStringField (payload : HString 384) (key value : Str) : Option (HString 384) := do
  let payload ← payload.push '"'
  let payload ← payload.extend key
  let payload ← payload.extend "\":\""
  let payload ← value.foldlM (fun payload ch => payload.extend (escapeJsonChar ch)) payload
  payload.push '"'

def boolText (b : Bool) : Str := if b then "true" else "false"

/-! ## The payloads -/

def discoveryFields (s : FirmwareState) (uptimeMs freeHeapBytes : ℕ) (payload : HString 384) :
    Option (HString 384) := do
  let payload ← payload.extend "\x7b"
  let payload ← payload.extend "\"kind\":\"lb_udp_discovery\","
  let payload ← pushJsonStringField payload "node_id" s.nodeId
  let payload ← payload.push ','
  let payload ← pushJsonStringField payload "friendly_name" s.friendlyName
  let payload ← payload.push ','
  let payload ← pushJsonStringField payload "room_id" s.roomId
  let payload ← payload.push ','
  let payload ← pushJsonStringField payload "sensor_role" s.sensorRole
  let payload ← payload.push ','
  let payload ← pushJsonStringField payload "firmware_version" rustFirmwareVersion
  let payload ← payload.push ','
  let payload ← pushJsonStringField payload "build_target" rustBuildTarget
  let payload ← payload.push ','
  let payload ← pushJsonStringField payload "hostname" s.deviceHostname
  let payload ← payload.push ','
  let payload ← pushJsonStringField payload "ip_address" s.ipAddress
  let payload ← payload.extend ",\"wifi_rssi_dbm\":"
  let payload ← appendI32Heapless payload s.wifiRssiDbm
  let payload ← payload.extend ",\"wifi_channel\":"
  let payload ← appendU32Heapless payload s.wifiChannel.toNat
  let payload ← payload.extend ",\"uptime_s\":"
  let payload ← appendU32Heapless payload (uptimeMs / 1000)
  let payload ← payload.extend ",\"free_heap_bytes\":"
  let payload ← appendU32Heapless payload freeHeapBytes
  payload.push '}'

def buildUdpDiscoveryPayload (s : FirmwareState) (uptimeMs freeHeapBytes : ℕ) :
    Option (HString 384) :=
  discoveryFields s uptimeMs freeHeapBytes Bounded.empty

def summaryFields (s : FirmwareState) (uptimeMs : ℕ) (payload : HString 384) :
    Option (HString 384) := do
  let metrics := s.activeRadarMetrics
  let payload ← payload.extend "\x7b"
  let payload ← pushJsonStringField payload "kind" "lb_room_summary"
  let payload ← payload.push ','
  let payload ← pushJsonStringField payload "node_id" s.nodeId
  let payload ← payload.push ','
  let payload ← pushJsonStringField payload "room_id" s.roomId
  let payload ← payload.push ','
  let payload ← pushJsonStringField payload "sensor_role" s.sensorRole
  let payload ← payload.push ','
  let payload ← pushJsonStringField payload "firmware_version" rustFirmwareVersion
  let payload ← payload.push ','
  let payload ← pushJsonStringField payload "build_target" rustBuildTarget
  let payload ← payload.extend ",\"pose_x_cm\":"
  let payload ← appendI32Heapless payload s.poseXCm
  let payload ← payload.extend ",\"pose_y_cm\":"
  let payload ← appendI32Heapless payload s.poseYCm
  let payload ← payload.extend ",\"heading_deg\":"
  let payload ← appendI32Heapless payload s.headingDeg
  let payload ← payload.extend ",\"room_width_cm\":"
  let payload ← appendU32Heapless payload s.roomWidthCm.toNat
  let payload ← payload.extend ",\"room_height_cm\":"
  let payload ← appendU32Heapless payload s.roomHeightCm.toNat
  let payload ← payload.extend ",\"presence\":"
  let payload ← payload.extend (boolText s.presence)
  let payload ← payload.extend ",\"detection_candidate\":"
  let payload ← payload.extend (boolText s.detectionCandidate)
  let payload ← payload.extend ",\"people_estimate\":"
  let payload ← appendU32Heapless payload ((metrics.map (·.estimatedPeople)).getD 0)
  let payload ← payload.extend ",\"active_gate_count\":"
  let payload ← appendU32Heapless payload ((metrics.map (·.activeGateCount)).getD 0)
  let payload ← payload.extend ",\"dominant_gate_distance_cm\":"
  let payload ← appendI32Heapless payload ((metrics.map (·.dominantGateDistanceCm)).getD (-1))
  let payload ← payload.extend ",\"activity_score\":"
  let payload ← appendU32Heapless payload ((metrics.map (·.activityScore)).getD 0)
  let payload ← payload.extend ",\"updated_ms\":"
  let payload ← appendU32Heapless payload uptimeMs
  payload.push '}'

/-- The half of the keep-alive period in which summaries are sent. -/
def InSummaryWindow (s : FirmwareState) (uptimeMs : ℕ) : Prop :=
  (uptimeMs - s.lastUdpDiscoveryAnnounceMs) % roomSummaryKeepaliveMs < udpDiscoveryAnnounceMs

instance (s : FirmwareState) (uptimeMs : ℕ) : Decidable (InSummaryWindow s uptimeMs) :=
  inferInstanceAs (Decidable (_ < _))

def buildRoomSummaryPayload (s : FirmwareState) (uptimeMs : ℕ) : Option (HString 384) :=
  if !s.wifiConnected ∨ ¬ InSummaryWindow s uptimeMs then none
  else summaryFields s uptimeMs Bounded.empty

/-- The topic of a node of this node's room. -/
def roomNodeTopic (s : FirmwareState) (nodeId suffix : Str) (topic : HString 128) :
    Option (HString 128) := do
  let topic ← topic.extend defaultTopicPrefix
  let topic ← topic.extend "/rooms/"
  let topic ← topic.extend (sanitizeHostname (if s.roomId = [] then defaultRoomId else s.roomId))
  let topic ← topic.extend "/nodes/"
  let topic ← topic.extend nodeId
  topic.extend suffix

/-- The retained summary; a part of the topic that does not fit is left out. -/
def buildRoomSummaryPublishMessage (s : FirmwareState) (payload : HString 384) :
    MqttPublishMessage :=
  let topic : HString 128 := Bounded.empty
  let topic := topic.extendOrKeep defaultTopicPrefix
  let topic := topic.extendOrKeep "/rooms/"
  let topic := topic.extendOrKeep
    (sanitizeHostname (if s.roomId = [] then defaultRoomId else s.roomId))
  let topic := topic.extendOrKeep "/nodes/"
  let topic := topic.extendOrKeep s.nodeId
  let topic := topic.extendOrKeep "/summary"
  { topic, payload, retain := true }

def poseFields (s : FirmwareState) (pose : RoomPosePublishPayload) (body : HString 384) :
    Option (HString 384) := do
  let body ← body.extend "\x7b"
  let body ← pushJsonStringField body "node_id" pose.nodeId
  let body ← body.push ','
  let body ← pushJsonStringField body "room_id" (if pose.roomId = [] then s.roomId else pose.roomId)
  let body ← body.push ','
  let body ← pushJsonStringField body "sensor_role"
    (if pose.sensorRole = [] then s.sensorRole else pose.sensorRole)
  let body ← body.extend ",\"pose_x_cm\":"
  let body ← appendI32Heapless body pose.poseXCm
  let body ← body.extend ",\"pose_y_cm\":"
  let body ← appendI32Heapless body pose.poseYCm
  let body ← body.extend ",\"heading_deg\":"
  let body ← appendI32Heapless body pose.headingDeg
  let body ← body.extend ",\"room_width_cm\":"
  let body ← appendU32Heapless body pose.roomWidthCm.toNat
  let body ← body.extend ",\"room_height_cm\":"
  let body ← appendU32Heapless body pose.roomHeightCm.toNat
  body.push '}'

def buildRoomPosePublishMessage (s : FirmwareState) (pose : RoomPosePublishPayload) :
    Option MqttPublishMessage :=
  if pose.nodeId = [] then none
  else do
    let topic ← roomNodeTopic s pose.nodeId "/pose/set" Bounded.empty
    let payload ← poseFields s pose Bounded.empty
    return { topic, payload, retain := false }

/-! ## Their texts -/

def u32Text (value : ℕ) : Str := (digitsLoop 10 value).reverse.map digitChar

def i32Text (value : ℤ) : Str :=
  if value < 0 then '-' :: u32Text value.natAbs else u32Text value.toNat

def escapeJson (value : Str) : Str := value.flatMap escapeJsonChar

theorem appends_appendU32Heapless (value : ℕ) :
    Bounded.Appends (fun output => appendU32Heapless output value) (u32Text value) := by
  have hpush (digit : ℕ) : Bounded.Appends (fun output : HString 384 => output.push (digitChar digit))
      [digitChar digit] := Bounded.appends_push _
  have happ := Bounded.appends_foldlM hpush (digitsLoop 10 value).reverse
  rwa [← List.map_eq_flatMap] at happ

theorem appends_appendI32Heapless (value : ℤ) :
    Bounded.Appends (fun output => appendI32Heapless output value) (i32Text value) := by
  unfold appendI32Heapless i32Text
  split
  · exact (Bounded.appends_push '-').bind (appends_appendU32Heapless value.natAbs)
  · exact appends_appendU32Heapless value.toNat

theorem appends_pushJsonStringField (key value : Str) :
    Bounded.Appends (fun payload => pushJsonStringField payload key value)
      ('"' :: (key ++ ('"' :: ':' :: '"' :: (escapeJson value ++ ['"'])))) :=
  (Bounded.appends_push '"').bind <|
    (Bounded.appends_extend key).bind <|
    (Bounded.appends_extend "\":\"").bind <|
    (Bounded.appends_foldlM (fun ch => Bounded.appends_extend (escapeJsonChar ch)) value).bind <|
    Bounded.appends_push '"'

theorem closedFrom_escapeJson (value : Str) : closedFrom false (escapeJson value) := by
  refine Json.closedFrom_flatMap (fun c => ?_) value
  unfold escapeJsonChar
  split
  all_goals first | rfl | simp_all [closedFrom]

/-- A value as it stands between quotes. -/
def jsonBody (value : Str) : JsonBody := ⟨escapeJson value, closedFrom_escapeJson value⟩

theorem digit_lt_of_mem_digitsLoop {fuel value digit : ℕ} (h : digit ∈ digitsLoop fuel value) :
    digit < 10 := by
  induction fuel generalizing value with
  | zero => cases h
  | succ fuel ih =>
    rw [digitsLoop] at h
    split at h
    · simp only [List.mem_singleton] at h
      omega
    · rcases List.mem_cons.1 h with rfl | h
      · omega
      · exact ih h

theorem isAsciiDigit_digitChar {digit : ℕ} (h : digit < 10) : isAsciiDigit (digitChar digit) := by
  rw [isAsciiDigit_iff, digitChar, toNat_ofNat (by omega)]
  omega

theorem forall_u32Text (value : ℕ) : ∀ c ∈ u32Text value, isAsciiDigit c := by
  intro c hc
  obtain ⟨digit, hdigit, rfl⟩ := List.mem_map.1 hc
  exact isAsciiDigit_digitChar (digit_lt_of_mem_digitsLoop (List.mem_reverse.1 hdigit))

theorem isNumberChar_of_mem_u32Text {value : ℕ} {c : Char} (h : c ∈ u32Text value) :
    isNumberChar c := by
  rw [isNumberChar, forall_u32Text value c h, Bool.true_or, Bool.true_or]

theorem isNumberChar_of_mem_i32Text {value : ℤ} {c : Char} (h : c ∈ i32Text value) :
    isNumberChar c := by
  unfold i32Text at h
  split at h
  · rcases List.mem_cons.1 h with rfl | h
    · rfl
    · exact isNumberChar_of_mem_u32Text h
  · exact isNumberChar_of_mem_u32Text h

/-- What consists of digits and signs is a word of JSON. -/
def numberWord (s : Str) (h : ∀ c ∈ s, isNumberChar c) : JsonWord :=
  ⟨s, by
    rw [List.all_eq_true]
    intro c hc
    have hnum := h c hc
    by_contra hbad
    have hcases : c = '"' ∨ c = ',' ∨ c = '}' := by
      by_contra hno
      simp_all
    rcases hcases with rfl | rfl | rfl <;> exact absurd hnum (by decide)⟩

def textMember (key : JsonKey) (value : Str) : JsonKey × Json := (key, .text (jsonBody value))

def u32Member (key : JsonKey) (value : ℕ) : JsonKey × Json :=
  (key, .word (numberWord (u32Text value) fun _ => isNumberChar_of_mem_u32Text))

def i32Member (key : JsonKey) (value : ℤ) : JsonKey × Json :=
  (key, .word (numberWord (i32Text value) fun _ => isNumberChar_of_mem_i32Text))

def boolMember (key : JsonKey) (value : Bool) : JsonKey × Json :=
  (key, .word ⟨boolText value, by cases value <;> decide⟩)

def discoveryMembers (s : FirmwareState) (uptimeMs freeHeapBytes : ℕ) : List (JsonKey × Json) :=
  [textMember Key.kind "lb_udp_discovery",
   textMember Key.nodeId s.nodeId,
   textMember Key.friendlyName s.friendlyName,
   textMember Key.roomId s.roomId,
   textMember Key.sensorRole s.sensorRole,
   textMember Key.firmwareVersion rustFirmwareVersion,
   textMember Key.buildTarget rustBuildTarget,
   textMember Key.hostname s.deviceHostname,
   textMember Key.ipAddress s.ipAddress,
   i32Member Key.wifiRssiDbm s.wifiRssiDbm,
   u32Member Key.wifiChannel s.wifiChannel.toNat,
   u32Member Key.uptimeS (uptimeMs / 1000),
   u32Member Key.freeHeapBytes freeHeapBytes]

def summaryMembers (s : FirmwareState) (uptimeMs : ℕ) : List (JsonKey × Json) :=
  let metrics := s.activeRadarMetrics
  [textMember Key.kind "lb_room_summary",
   textMember Key.nodeId s.nodeId,
   textMember Key.roomId s.roomId,
   textMember Key.sensorRole s.sensorRole,
   textMember Key.firmwareVersion rustFirmwareVersion,
   textMember Key.buildTarget rustBuildTarget,
   i32Member Key.poseXCm s.poseXCm,
   i32Member Key.poseYCm s.poseYCm,
   i32Member Key.headingDeg s.headingDeg,
   u32Member Key.roomWidthCm s.roomWidthCm.toNat,
   u32Member Key.roomHeightCm s.roomHeightCm.toNat,
   boolMember Key.presence s.presence,
   boolMember Key.detectionCandidate s.detectionCandidate,
   u32Member Key.peopleEstimate ((metrics.map (·.estimatedPeople)).getD 0),
   u32Member Key.activeGateCount ((metrics.map (·.activeGateCount)).getD 0),
   i32Member Key.dominantGateDistanceCm
     ((metrics.map (·.dominantGateDistanceCm)).getD (-1)),
   u32Member Key.activityScore ((metrics.map (·.activityScore)).getD 0),
   u32Member Key.updatedMs uptimeMs]

/-- The pushes of a payload with texts first: the opening brace, the texts with
commas between them and the rest. -/
theorem appends_discoveryFields (s : FirmwareState) (uptimeMs freeHeapBytes : ℕ) :
    Bounded.Appends (discoveryFields s uptimeMs freeHeapBytes)
      (Json.object (discoveryMembers s uptimeMs freeHeapBytes)).render := by
  have happ : Bounded.Appends (discoveryFields s uptimeMs freeHeapBytes) _ :=
    (Bounded.appends_extend _).bind <| (Bounded.appends_extend _).bind <|
    (appends_pushJsonStringField "node_id" _).bind <| (Bounded.appends_push ',').bind <|
    (appends_pushJsonStringField "friendly_name" _).bind <| (Bounded.appends_push ',').bind <|
    (appends_pushJsonStringField "room_id" _).bind <| (Bounded.appends_push ',').bind <|
    (appends_pushJsonStringField "sensor_role" _).bind <| (Bounded.appends_push ',').bind <|
    (appends_pushJsonStringField "firmware_version" _).bind <| (Bounded.appends_push ',').bind <|
    (appends_pushJsonStringField "build_target" _).bind <| (Bounded.appends_push ',').bind <|
    (appends_pushJsonStringField "hostname" _).bind <| (Bounded.appends_push ',').bind <|
    (appends_pushJsonStringField "ip_address" _).bind <|
    (Bounded.appends_extend _).bind <| (appends_appendI32Heapless _).bind <|
    (Bounded.appends_extend _).bind <| (appends_appendU32Heapless _).bind <|
    (Bounded.appends_extend _).bind <| (appends_appendU32Heapless _).bind <|
    (Bounded.appends_extend _).bind <| (appends_appendU32Heapless _).bind <|
    Bounded.appends_push '}'
  refine happ.congr ?_
  simp only [discoveryMembers, textMember, u32Member, i32Member, jsonBody, numberWord, Json.render,
    Json.membersTail, Json.keyText, List.append_assoc, List.cons_append, List.nil_append]
  rfl

set_option maxRecDepth 4000 in
theorem appends_summaryFields (s : FirmwareState) (uptimeMs : ℕ) :
    Bounded.Appends (summaryFields s uptimeMs)
      (Json.object (summaryMembers s uptimeMs)).render := by
  have happ : Bounded.Appends (summaryFields s uptimeMs) _ :=
    (Bounded.appends_extend _).bind <|
    (appends_pushJsonStringField "kind" _).bind <| (Bounded.appends_push ',').bind <|
    (appends_pushJsonStringField "node_id" _).bind <| (Bounded.appends_push ',').bind <|
    (appends_pushJsonStringField "room_id" _).bind <| (Bounded.appends_push ',').bind <|
    (appends_pushJsonStringField "sensor_role" _).bind <| (Bounded.appends_push ',').bind <|
    (appends_pushJsonStringField "firmware_version" _).bind <| (Bounded.appends_push ',').bind <|
    (appends_pushJsonStringField "build_target" _).bind <|
    (Bounded.appends_extend _).bind <| (appends_appendI32Heapless _).bind <|
    (Bounded.appends_extend _).bind <| (appends_appendI32Heapless _).bind <|
    (Bounded.appends_extend _).bind <| (appends_appendI32Heapless _).bind <|
    (Bounded.appends_extend _).bind <| (appends_appendU32Heapless _).bind <|
    (Bounded.appends_extend _).bind <| (appends_appendU32Heapless _).bind <|
    (Bounded.appends_extend _).bind <| (Bounded.appends_extend _).bind <|
    (Bounded.appends_extend _).bind <| (Bounded.appends_extend _).bind <|
    (Bounded.appends_extend _).bind <| (appends_appendU32Heapless _).bind <|
    (Bounded.appends_extend _).bind <| (appends_appendU32Heapless _).bind <|
    (Bounded.appends_extend _).bind <| (appends_appendI32Heapless _).bind <|
    (Bounded.appends_extend _).bind <| (appends_appendU32Heapless _).bind <|
    (Bounded.appends_extend _).bind <| (appends_appendU32Heapless _).bind <|
    Bounded.appends_push '}'
  refine happ.congr ?_
  simp only [summaryMembers, textMember, u32Member, i32Member, boolMember, jsonBody, numberWord,
    Json.render, Json.membersTail, Json.keyText, List.append_assoc, List.cons_append,
    List.nil_append]
  rfl

theorem items_of_buildUdpDiscoveryPayload {s : FirmwareState} {uptimeMs freeHeapBytes : ℕ}
    {payload : HString 384} (h : buildUdpDiscoveryPayload s uptimeMs freeHeapBytes = some payload) :
    payload.items = (Json.object (discoveryMembers s uptimeMs freeHeapBytes)).render :=
  (appends_discoveryFields s uptimeMs freeHeapBytes).items_of_empty h

theorem items_of_buildRoomSummaryPayload {s : FirmwareState} {uptimeMs : ℕ}
    {payload : HString 384} (h : buildRoomSummaryPayload s uptimeMs = some payload) :
    payload.items = (Json.object (summaryMembers s uptimeMs)).render := by
  unfold buildRoomSummaryPayload at h
  split at h
  · cases h
  · exact (appends_summaryFields s uptimeMs).items_of_empty h

/-! ## Room in the buffer -/

/-- Bytes of an announcement: 253 for the names, the versions and the
punctuation, and the fields. -/
def discoveryLength (s : FirmwareState) (uptimeMs freeHeapBytes : ℕ) : ℕ :=
  253 + utf8Len (escapeJson s.nodeId) + utf8Len (escapeJson s.friendlyName) +
    utf8Len (escapeJson s.roomId) + utf8Len (escapeJson s.sensorRole) +
    utf8Len (escapeJson s.deviceHostname) + utf8Len (escapeJson s.ipAddress) +
    (i32Text s.wifiRssiDbm).length + (u32Text s.wifiChannel.toNat).length +
    (u32Text (uptimeMs / 1000)).length + (u32Text freeHeapBytes).length

/-- Bytes of a summary: 351 for the names, the versions and the punctuation,
and the fields. -/
def summaryLength (s : FirmwareState) (uptimeMs : ℕ) : ℕ :=
  let metrics := s.activeRadarMetrics
  351 + utf8Len (escapeJson s.nodeId) + utf8Len (escapeJson s.roomId) +
    utf8Len (escapeJson s.sensorRole) + (i32Text s.poseXCm).length + (i32Text s.poseYCm).length +
    (i32Text s.headingDeg).length + (u32Text s.roomWidthCm.toNat).length +
    (u32Text s.roomHeightCm.toNat).length + (boolText s.presence).length +
    (boolText s.detectionCandidate).length +
    (u32Text ((metrics.map (·.estimatedPeople)).getD 0)).length +
    (u32Text ((metrics.map (·.activeGateCount)).getD 0)).length +
    (i32Text ((metrics.map (·.dominantGateDistanceCm)).getD (-1))).length +
    (u32Text ((metrics.map (·.activityScore)).getD 0)).length + (u32Text uptimeMs).length

theorem utf8Len_u32Text (value : ℕ) : utf8Len (u32Text value) = (u32Text value).length := by
  refine utf8Len_of_lt fun c hc => ?_
  have hdigit := isAsciiDigit_iff.1 (forall_u32Text value c hc)
  omega

theorem utf8Len_i32Text (value : ℤ) : utf8Len (i32Text value) = (i32Text value).length := by
  unfold i32Text
  split
  · rw [utf8Len_cons, utf8Len_u32Text, List.length_cons, Nat.add_comm]
    rfl
  · exact utf8Len_u32Text _

theorem utf8Len_boolText (b : Bool) : utf8Len (boolText b) = (boolText b).length := by
  cases b <;> decide

/-- The member names of an announcement. -/
def discoveryNames : List Str :=
  ["kind", "node_id", "friendly_name", "room_id", "sensor_role", "firmware_version",
   "build_target", "hostname", "ip_address", "wifi_rssi_dbm", "wifi_channel", "uptime_s",
   "free_heap_bytes"]

/-- The member names of a summary. -/
def summaryNames : List Str :=
  ["kind", "node_id", "room_id", "sensor_role", "firmware_version", "build_target", "pose_x_cm",
   "pose_y_cm", "heading_deg", "room_width_cm", "room_height_cm", "presence",
   "detection_candidate", "people_estimate", "active_gate_count", "dominant_gate_distance_cm",
   "activity_score", "updated_ms"]

theorem utf8Len_discovery (s : FirmwareState) (uptimeMs freeHeapBytes : ℕ) :
    utf8Len (Json.object (discoveryMembers s uptimeMs freeHeapBytes)).render =
      discoveryLength s uptimeMs freeHeapBytes := by
  have hne : discoveryMembers s uptimeMs freeHeapBytes ≠ [] := List.cons_ne_nil _ _
  have hnames : (discoveryMembers s uptimeMs freeHeapBytes).map (fun m => m.1.1) =
      discoveryNames := rfl
  have hkeys : (discoveryNames.map fun name => utf8Len name + 4).sum = 188 := by decide
  have hkind : utf8Len (escapeJson "lb_udp_discovery") = 16 := by decide
  have hversion : utf8Len (escapeJson rustFirmwareVersion) = 5 := by decide
  have htarget : utf8Len (escapeJson rustBuildTarget) = 25 := by decide
  rw [Json.utf8Len_render_object hne, hnames, hkeys]
  simp only [discoveryMembers, textMember, u32Member, i32Member, List.map_cons, List.map_nil,
    List.sum_cons, List.sum_nil, Json.utf8Len_render_text, Json.render_word, jsonBody, numberWord,
    utf8Len_u32Text, utf8Len_i32Text, hkind, hversion, htarget]
  rw [discoveryLength]
  ring

theorem utf8Len_summary (s : FirmwareState) (uptimeMs : ℕ) :
    utf8Len (Json.object (summaryMembers s uptimeMs)).render = summaryLength s uptimeMs := by
  have hne : summaryMembers s uptimeMs ≠ [] := List.cons_ne_nil _ _
  have hnames : (summaryMembers s uptimeMs).map (fun m => m.1.1) = summaryNames := rfl
  have hkeys : (summaryNames.map fun name => utf8Len name + 4).sum = 293 := by decide
  have hkind : utf8Len (escapeJson "lb_room_summary") = 15 := by decide
  have hversion : utf8Len (escapeJson rustFirmwareVersion) = 5 := by decide
  have htarget : utf8Len (escapeJson rustBuildTarget) = 25 := by decide
  rw [Json.utf8Len_render_object hne, hnames, hkeys]
  simp only [summaryMembers, textMember, u32Member, i32Member, boolMember, List.map_cons,
    List.map_nil, List.sum_cons, List.sum_nil, Json.utf8Len_render_text, Json.render_word, jsonBody,
    numberWord, utf8Len_u32Text, utf8Len_i32Text, utf8Len_boolText, hkind, hversion, htarget]
  rw [summaryLength]
  ring

/-- An announcement is built when there is room for it. -/
theorem isSome_buildUdpDiscoveryPayload_iff (s : FirmwareState) (uptimeMs freeHeapBytes : ℕ) :
    (buildUdpDiscoveryPayload s uptimeMs freeHeapBytes).isSome ↔
      discoveryLength s uptimeMs freeHeapBytes ≤ 384 := by
  rw [← utf8Len_discovery]
  exact (appends_discoveryFields s uptimeMs freeHeapBytes).isSome_iff

/-- And so is a summary, at the times for it. -/
theorem isSome_buildRoomSummaryPayload_iff {s : FirmwareState} {uptimeMs : ℕ}
    (hwifi : s.wifiConnected) (hwindow : InSummaryWindow s uptimeMs) :
    (buildRoomSummaryPayload s uptimeMs).isSome ↔ summaryLength s uptimeMs ≤ 384 := by
  rw [← utf8Len_summary, buildRoomSummaryPayload, if_neg (by simp [hwifi, hwindow])]
  exact (appends_summaryFields s uptimeMs).isSome_iff

/-- What is promised about the payloads of a node: while it is connected it can
build its announcement, and in the window its summary. -/
def PayloadsBuilt (s : FirmwareState) (uptimeMs freeHeapBytes : ℕ) : Prop :=
  s.wifiConnected →
    (InSummaryWindow s uptimeMs → (buildRoomSummaryPayload s uptimeMs).isSome) ∧
      (buildUdpDiscoveryPayload s uptimeMs freeHeapBytes).isSome

/-- The fields leave room for each other. -/
def PayloadsFit (s : FirmwareState) (uptimeMs freeHeapBytes : ℕ) : Prop :=
  s.wifiConnected →
    (InSummaryWindow s uptimeMs → summaryLength s uptimeMs ≤ 384) ∧
      discoveryLength s uptimeMs freeHeapBytes ≤ 384

theorem payloadsBuilt_iff (s : FirmwareState) (uptimeMs freeHeapBytes : ℕ) :
    PayloadsBuilt s uptimeMs freeHeapBytes ↔ PayloadsFit s uptimeMs freeHeapBytes := by
  have hdiscovery := isSome_buildUdpDiscoveryPayload_iff s uptimeMs freeHeapBytes
  constructor
  · intro h hwifi
    obtain ⟨hsum, hdisc⟩ := h hwifi
    refine ⟨fun hwindow => ?_, hdiscovery.1 hdisc⟩
    exact (isSome_buildRoomSummaryPayload_iff hwifi hwindow).1 (hsum hwindow)
  · intro h hwifi
    obtain ⟨hsum, hdisc⟩ := h hwifi
    refine ⟨fun hwindow => ?_, hdiscovery.2 hdisc⟩
    exact (isSome_buildRoomSummaryPayload_iff hwifi hwindow).2 (hsum hwindow)

end EspWaveRider.Firmware
