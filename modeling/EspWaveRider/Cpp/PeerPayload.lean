import EspWaveRider.Cpp.Config
import EspWaveRider.Core.MemberNames

/-!
# Announcements and room summaries of the C++ firmware

The texts `announceUdpDiscovery` and `publishRoomCollaborationSummary` of
`src/main.cpp` put together, and the JSON objects they are.

* `announcementText_eq`, `summaryText_eq`.
-/

namespace EspWaveRider.Cpp

open Text

/-- A node that runs the C++ firmware: its configuration, what it was built as and
the readings it sends along. -/
structure CppNode where
  config : RuntimeHomeAssistantConfig
  firmwareVersion : Str
  firmwareBuildTarget : Str
  localIp : Str
  rssi : ℤ
  channel : ℤ
  millis : ℕ
  freeHeap : ℕ
  lastPresence : Bool
  detectionCandidate : Bool
  estimatedPeople : UInt8
  activeGateCount : UInt8
  dominantGateDistanceCm : ℤ
  activityScore : UInt8

/-! ## The texts -/

/-- `"name":"value"`. -/
def quotedField (key : JsonKey) (value : Str) : Str :=
  '"' :: key.1 ++ ['"', ':', '"'] ++ jsonEscape value ++ ['"']

/-- `"name":value`. -/
def bareField (key : JsonKey) (value : Str) : Str := '"' :: key.1 ++ ['"', ':'] ++ value

def announcementText (n : CppNode) : Str :=
  ['{'] ++
  quotedField Key.kind "lb_udp_discovery" ++ [','] ++
  quotedField Key.nodeId n.config.nodeId ++ [','] ++
  quotedField Key.friendlyName n.config.friendlyName ++ [','] ++
  quotedField Key.roomId n.config.roomId ++ [','] ++
  quotedField Key.sensorRole n.config.sensorRole ++ [','] ++
  quotedField Key.firmwareVersion n.firmwareVersion ++ [','] ++
  quotedField Key.buildTarget n.firmwareBuildTarget ++ [','] ++
  quotedField Key.hostname n.config.deviceHostname ++ [','] ++
  quotedField Key.ipAddress n.localIp ++ [','] ++
  bareField Key.wifiRssiDbm (decimalInt n.rssi) ++ [','] ++
  bareField Key.wifiChannel (decimalInt n.channel) ++ [','] ++
  bareField Key.uptimeS (decimalInt (n.millis / 1000 : ℕ)) ++ [','] ++
  bareField Key.freeHeapBytes (decimalInt n.freeHeap) ++
  ['}']

def boolText (b : Bool) : Str := if b then "true" else "false"

/-- The target the firmware was built for is not in it. -/
def summaryText (n : CppNode) : Str :=
  ['{'] ++
  quotedField Key.nodeId n.config.nodeId ++ [','] ++
  quotedField Key.roomId n.config.roomId ++ [','] ++
  quotedField Key.sensorRole n.config.sensorRole ++ [','] ++
  quotedField Key.firmwareVersion n.firmwareVersion ++ [','] ++
  bareField Key.poseXCm (decimalInt n.config.roomPoseXCm.toInt) ++ [','] ++
  bareField Key.poseYCm (decimalInt n.config.roomPoseYCm.toInt) ++ [','] ++
  bareField Key.headingDeg (decimalInt n.config.roomHeadingDeg.toInt) ++ [','] ++
  bareField Key.roomWidthCm (decimalInt n.config.roomWidthCm.toNat) ++ [','] ++
  bareField Key.roomHeightCm (decimalInt n.config.roomHeightCm.toNat) ++ [','] ++
  bareField Key.presence (boolText n.lastPresence) ++ [','] ++
  bareField Key.detectionCandidate (boolText n.detectionCandidate) ++ [','] ++
  bareField Key.peopleEstimate (decimalInt n.estimatedPeople.toNat) ++ [','] ++
  bareField Key.activeGateCount (decimalInt n.activeGateCount.toNat) ++ [','] ++
  bareField Key.dominantGateDistanceCm (decimalInt n.dominantGateDistanceCm) ++ [','] ++
  bareField Key.activityScore (decimalInt n.activityScore.toNat) ++ [','] ++
  bareField Key.updatedMs (decimalInt n.millis) ++
  ['}']

/-! ## As JSON -/

def textMember (key : JsonKey) (value : Str) : JsonKey × Json :=
  (key, .text ⟨jsonEscape value, closedFrom_jsonEscape value⟩)

def intWord (n : ℤ) : JsonWord :=
  ⟨decimalInt n, by
    rw [List.all_eq_true]
    intro c hc
    have hnum := isNumberChar_of_mem_decimalInt hc
    by_contra hbad
    have hcases : c = '"' ∨ c = ',' ∨ c = '}' := by
      by_contra hno
      simp_all
    rcases hcases with rfl | rfl | rfl <;> exact absurd hnum (by decide)⟩

def intMember (key : JsonKey) (n : ℤ) : JsonKey × Json := (key, .word (intWord n))

def boolMember (key : JsonKey) (b : Bool) : JsonKey × Json :=
  (key, .word ⟨boolText b, by cases b <;> decide⟩)

def announcementMembers (n : CppNode) : List (JsonKey × Json) :=
  [textMember Key.kind "lb_udp_discovery",
   textMember Key.nodeId n.config.nodeId,
   textMember Key.friendlyName n.config.friendlyName,
   textMember Key.roomId n.config.roomId,
   textMember Key.sensorRole n.config.sensorRole,
   textMember Key.firmwareVersion n.firmwareVersion,
   textMember Key.buildTarget n.firmwareBuildTarget,
   textMember Key.hostname n.config.deviceHostname,
   textMember Key.ipAddress n.localIp,
   intMember Key.wifiRssiDbm n.rssi,
   intMember Key.wifiChannel n.channel,
   intMember Key.uptimeS (n.millis / 1000 : ℕ),
   intMember Key.freeHeapBytes n.freeHeap]

def summaryMembers (n : CppNode) : List (JsonKey × Json) :=
  [textMember Key.nodeId n.config.nodeId,
   textMember Key.roomId n.config.roomId,
   textMember Key.sensorRole n.config.sensorRole,
   textMember Key.firmwareVersion n.firmwareVersion,
   intMember Key.poseXCm n.config.roomPoseXCm.toInt,
   intMember Key.poseYCm n.config.roomPoseYCm.toInt,
   intMember Key.headingDeg n.config.roomHeadingDeg.toInt,
   intMember Key.roomWidthCm n.config.roomWidthCm.toNat,
   intMember Key.roomHeightCm n.config.roomHeightCm.toNat,
   boolMember Key.presence n.lastPresence,
   boolMember Key.detectionCandidate n.detectionCandidate,
   intMember Key.peopleEstimate n.estimatedPeople.toNat,
   intMember Key.activeGateCount n.activeGateCount.toNat,
   intMember Key.dominantGateDistanceCm n.dominantGateDistanceCm,
   intMember Key.activityScore n.activityScore.toNat,
   intMember Key.updatedMs n.millis]

theorem quotedField_append (key : JsonKey) (value rest : Str) :
    quotedField key value ++ rest =
      Json.keyText key ++ ((textMember key value).2.render ++ rest) := by
  simp [quotedField, textMember, Json.keyText, Json.render]

theorem bareField_append (key : JsonKey) (word : JsonWord) (rest : Str) :
    bareField key word.1 ++ rest = Json.keyText key ++ ((Json.word word).render ++ rest) := by
  simp [bareField, Json.keyText]

theorem announcementText_eq (n : CppNode) :
    announcementText n = (Json.object (announcementMembers n)).render := by
  have hint (key : JsonKey) (v : ℤ) (rest : Str) : bareField key (decimalInt v) ++ rest =
      Json.keyText key ++ ((intMember key v).2.render ++ rest) := bareField_append key (intWord v) rest
  unfold announcementText announcementMembers
  simp only [quotedField_append, hint, Json.render, Json.membersTail, textMember, intMember,
    List.append_assoc, List.cons_append, List.nil_append]

theorem summaryText_eq (n : CppNode) :
    summaryText n = (Json.object (summaryMembers n)).render := by
  have hint (key : JsonKey) (v : ℤ) (rest : Str) : bareField key (decimalInt v) ++ rest =
      Json.keyText key ++ ((intMember key v).2.render ++ rest) := bareField_append key (intWord v) rest
  have hbool (key : JsonKey) (b : Bool) (rest : Str) : bareField key (boolText b) ++ rest =
      Json.keyText key ++ ((boolMember key b).2.render ++ rest) :=
    bareField_append key ⟨boolText b, by cases b <;> decide⟩ rest
  unfold summaryText summaryMembers
  simp only [quotedField_append, hint, hbool, Json.render, Json.membersTail, textMember, intMember,
    boolMember, List.append_assoc, List.cons_append, List.nil_append]

end EspWaveRider.Cpp
