import EspWaveRider.Cpp.Text

/-!
# The runtime configuration and its topics

`RuntimeHomeAssistantConfig` of `src/main.cpp`, without the tuning of the radar and
the LED, and the names derived from it.
-/

namespace EspWaveRider.Cpp

open Text

def kTopicPrefix : Str := "lb_mmwave"
def kNodeId : Str := "lb_mmwave_presence"
def defaultRoomId : Str := "room-default"
def defaultSensorRole : Str := "auto"

structure RuntimeHomeAssistantConfig where
  enabled : Bool := false
  wifiSsid : Str := []
  wifiPassword : Str := []
  mqttHost : Str := []
  mqttPort : UInt16 := 1883
  mqttUsername : Str := []
  mqttPassword : Str := []
  mqttUseWebSockets : Bool := false
  mqttWebSocketPath : Str := []
  mqttHostHeader : Str := []
  nodeId : Str := []
  friendlyName : Str := []
  roomId : Str := []
  sensorRole : Str := []
  roomPoseXCm : Int16 := 0
  roomPoseYCm : Int16 := 0
  roomHeadingDeg : Int16 := -90
  roomWidthCm : UInt16 := 600
  roomHeightCm : UInt16 := 400
  deriving DecidableEq

namespace RuntimeHomeAssistantConfig

def deviceHostname (c : RuntimeHomeAssistantConfig) : Str :=
  sanitizeHostname (if c.nodeId ≠ [] then c.nodeId else kNodeId)

/-! ## Topics -/

def roomTopicRoot (c : RuntimeHomeAssistantConfig) : Str :=
  kTopicPrefix ++ ("/rooms/" : Str) ++ sanitizeHostname c.roomId

def roomNodeSummaryTopic (c : RuntimeHomeAssistantConfig) (nodeId : Str) : Str :=
  c.roomTopicRoot ++ ("/nodes/" : Str) ++ nodeId ++ ("/summary" : Str)

def roomSummarySubscriptionTopic (c : RuntimeHomeAssistantConfig) : Str :=
  c.roomTopicRoot ++ ("/nodes/+/summary" : Str)

def roomPoseCommandTopic (c : RuntimeHomeAssistantConfig) (nodeId : Str) : Str :=
  c.roomTopicRoot ++ ("/nodes/" : Str) ++ nodeId ++ ("/pose/set" : Str)

def roomPoseCommandSubscriptionTopic (c : RuntimeHomeAssistantConfig) : Str :=
  c.roomTopicRoot ++ ("/nodes/+/pose/set" : Str)

end RuntimeHomeAssistantConfig

end EspWaveRider.Cpp
