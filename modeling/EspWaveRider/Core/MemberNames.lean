import EspWaveRider.Lib.Json

/-!
# Names of members

What both firmwares call the members of their announcements and room summaries.
-/

namespace EspWaveRider.Key

def kind : JsonKey := ⟨"kind", by decide⟩
def nodeId : JsonKey := ⟨"node_id", by decide⟩
def friendlyName : JsonKey := ⟨"friendly_name", by decide⟩
def roomId : JsonKey := ⟨"room_id", by decide⟩
def sensorRole : JsonKey := ⟨"sensor_role", by decide⟩
def firmwareVersion : JsonKey := ⟨"firmware_version", by decide⟩
def buildTarget : JsonKey := ⟨"build_target", by decide⟩
def hostname : JsonKey := ⟨"hostname", by decide⟩
def ipAddress : JsonKey := ⟨"ip_address", by decide⟩
def wifiRssiDbm : JsonKey := ⟨"wifi_rssi_dbm", by decide⟩
def wifiChannel : JsonKey := ⟨"wifi_channel", by decide⟩
def uptimeS : JsonKey := ⟨"uptime_s", by decide⟩
def freeHeapBytes : JsonKey := ⟨"free_heap_bytes", by decide⟩
def poseXCm : JsonKey := ⟨"pose_x_cm", by decide⟩
def poseYCm : JsonKey := ⟨"pose_y_cm", by decide⟩
def headingDeg : JsonKey := ⟨"heading_deg", by decide⟩
def roomWidthCm : JsonKey := ⟨"room_width_cm", by decide⟩
def roomHeightCm : JsonKey := ⟨"room_height_cm", by decide⟩
def presence : JsonKey := ⟨"presence", by decide⟩
def detectionCandidate : JsonKey := ⟨"detection_candidate", by decide⟩
def peopleEstimate : JsonKey := ⟨"people_estimate", by decide⟩
def activeGateCount : JsonKey := ⟨"active_gate_count", by decide⟩
def dominantGateDistanceCm : JsonKey := ⟨"dominant_gate_distance_cm", by decide⟩
def activityScore : JsonKey := ⟨"activity_score", by decide⟩
def updatedMs : JsonKey := ⟨"updated_ms", by decide⟩

end EspWaveRider.Key
