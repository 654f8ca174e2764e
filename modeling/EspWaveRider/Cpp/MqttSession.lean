import EspWaveRider.Cpp.RoomPeers
import EspWaveRider.Lib.Machine

/-!
# The MQTT session of the C++ firmware

`setup`, the configuration commands of `handleUsbCommand` and `ensureMqttConnected`
(`src/main.cpp`), as a state machine over one boot.

* `connectMqtt_of_connects` — what an attempt that succeeds leaves behind;
* `bufferSized_iff` — whether the buffer is sized before use is decided at boot;
* `subscriptions_follow` — the subscriptions are those of the current room as long as
  no pose command moves the node to another one.
-/

namespace EspWaveRider.Cpp

open Text Topic

def kMqttPort : UInt16 := 1883
def kMqttWebSocketPath : Str := "/mqtt"
def kMqttHostHeader : Str := []
def kFriendlyName : Str := "LB mmWave Presence"
def mqttRetryMs : UInt32 := 5000

/-! ## Addresses -/

def mqttEndpointUsesWebSockets (mqttHost : Str) : Bool :=
  ("ws://" : Str).isPrefixOf mqttHost || ("wss://" : Str).isPrefixOf mqttHost ||
    ("http://" : Str).isPrefixOf mqttHost || ("https://" : Str).isPrefixOf mqttHost

def mqttEndpointUsesSecureWebSockets (mqttHost : Str) : Bool :=
  ("wss://" : Str).isPrefixOf mqttHost || ("https://" : Str).isPrefixOf mqttHost

def normalizeWebSocketPath (path : Str) : Str :=
  match path with
  | [] => kMqttWebSocketPath
  | '/' :: _ => path
  | _ => '/' :: path

def stripUrlScheme (value scheme : Str) : Str := (stripPrefix scheme value).getD value

def isIpv4AddressLiteral (value : Str) : Bool :=
  value ≠ [] && value.all fun c => isAsciiDigit c || c = '.'

/-- Where `ensureMqttConnected` is going to connect. -/
structure MqttEndpoint where
  useWebSockets : Bool
  useSecureWebSockets : Bool
  mqttHost : Str
  mqttPort : UInt16
  webSocketPath : Str
  hostHeader : Str
  deriving DecidableEq

/-- Host and port of an address without scheme and path. -/
def splitHostPort (hostPort : Str) (configuredPort : UInt16) (useSecureWebSockets : Bool) : Str × UInt16 :=
  let schemePort : UInt16 := if useSecureWebSockets then 443 else 80
  match rsplitOnce ':' hostPort with
  | some (c :: host, port) =>
    (c :: host, if toInt port > 0 then UInt16.ofInt (toInt port) else schemePort)
  | _ => (hostPort, if configuredPort > 0 then configuredPort else schemePort)

namespace RuntimeHomeAssistantConfig

def mqttEndpoint (c : RuntimeHomeAssistantConfig) : MqttEndpoint :=
  let useWebSockets := c.mqttUseWebSockets || mqttEndpointUsesWebSockets c.mqttHost
  let useSecureWebSockets := mqttEndpointUsesSecureWebSockets c.mqttHost
  let webSocketPath := normalizeWebSocketPath c.mqttWebSocketPath
  let (mqttHost, mqttPort, webSocketPath) :=
    if mqttEndpointUsesWebSockets c.mqttHost then
      let endpoint := stripUrlScheme (stripUrlScheme (stripUrlScheme (stripUrlScheme
        (trim c.mqttHost) "ws://") "wss://") "http://") "https://"
      let hostPort := endpoint.takeWhile (· ≠ '/')
      let webSocketPath :=
        if '/' ∈ endpoint then normalizeWebSocketPath (endpoint.dropWhile (· ≠ '/')) else webSocketPath
      let (mqttHost, mqttPort) := splitHostPort hostPort c.mqttPort useSecureWebSockets
      (mqttHost, mqttPort, webSocketPath)
    else (c.mqttHost, c.mqttPort, webSocketPath)
  let hostHeader :=
    if useWebSockets ∧ c.mqttHostHeader = [] ∧ isIpv4AddressLiteral mqttHost then kMqttHostHeader
    else c.mqttHostHeader
  { useWebSockets, useSecureWebSockets, mqttHost, mqttPort, webSocketPath, hostHeader }

def homeAssistantConfigured (c : RuntimeHomeAssistantConfig) : Prop :=
  c.enabled ∧ c.wifiSsid ≠ [] ∧ c.mqttHost ≠ [] ∧ c.nodeId ≠ []

instance (c : RuntimeHomeAssistantConfig) : Decidable c.homeAssistantConfigured :=
  inferInstanceAs (Decidable (_ ∧ _))

end RuntimeHomeAssistantConfig

def defaultNodeId (deviceIdentitySuffix : Str) : Str := kNodeId ++ '_' :: deviceIdentitySuffix
def defaultFriendlyName (deviceIdentitySuffix : Str) : Str := kFriendlyName ++ ' ' :: deviceIdentitySuffix

/-- The stored settings; one that was never stored reads as its default. -/
def loadHomeAssistantConfig (stored : RuntimeHomeAssistantConfig) (deviceIdentitySuffix : Str) :
    RuntimeHomeAssistantConfig :=
  { stored with
    nodeId := if stored.nodeId = [] ∨ stored.nodeId = kNodeId then defaultNodeId deviceIdentitySuffix
      else stored.nodeId
    friendlyName :=
      if stored.friendlyName = [] ∨ stored.friendlyName = kFriendlyName then
        defaultFriendlyName deviceIdentitySuffix
      else stored.friendlyName }

/-! ## The client -/

namespace PubSubClient

def setBufferSize (client : PubSubClient) (size : ℕ) : PubSubClient := { client with bufferSize := size }

/-- A connection begins without subscriptions. -/
def connect (client : PubSubClient) (accepted : Bool) : PubSubClient :=
  { client with connected := accepted, subscriptions := [] }

def subscribe (client : PubSubClient) (filter : Str) (ok : Bool) : PubSubClient :=
  if client.connected ∧ ok then { client with subscriptions := client.subscriptions ++ [filter] }
  else client

/-- The header, the length of the topic, the topic and the payload. -/
def packetLength (topic payload : Str) : ℕ := 5 + 2 + topic.length + payload.length

/-- `sent` tells whether the network takes the packet. -/
def publish (client : PubSubClient) (topic payload : Str) (sent : Bool) : Bool :=
  client.connected && decide (packetLength topic payload ≤ client.bufferSize) && sent

end PubSubClient

/-- What surrounds a call of `ensureMqttConnected`: the network, the clock, the answers
of the broker and the message that has arrived. -/
structure Surroundings where
  wifiConnected : Bool
  now : UInt32
  hostByName : Str → Option Str
  accepted : Bool
  state : ℤ
  subscribed : RoomTopicKind → Bool
  message : Option (Str × Str)
  localDominantGateDistanceCm : ℤ

namespace NodeState

/-- What runs at boot. -/
def setup (stored : RuntimeHomeAssistantConfig) (deviceIdentitySuffix : Str) : NodeState :=
  let runtimeConfig := loadHomeAssistantConfig stored deviceIdentitySuffix
  let mqttClient : PubSubClient := {}
  { deviceIdentitySuffix, runtimeConfig
    mqttClient :=
      if runtimeConfig.homeAssistantConfigured then mqttClient.setBufferSize 1024 else mqttClient }

def configureMqttTransport (s : NodeState) (endpoint : MqttEndpoint) : NodeState :=
  if endpoint.useWebSockets then
    { s with
      mqttClient := { s.mqttClient with
        transport := .webSocket endpoint.mqttHost endpoint.mqttPort
          (normalizeWebSocketPath endpoint.webSocketPath) endpoint.hostHeader
        server := (endpoint.mqttHost, endpoint.mqttPort) } }
  else { s with mqttClient := { s.mqttClient with transport := .wiFi } }

/-- What the two calls return is not looked at. -/
def subscribeRoomTopics (s : NodeState) (subscribed : RoomTopicKind → Bool) : NodeState :=
  { s with
    mqttClient :=
      (s.mqttClient.subscribe s.runtimeConfig.roomSummarySubscriptionTopic
        (subscribed .summary)).subscribe s.runtimeConfig.roomPoseCommandSubscriptionTopic
          (subscribed .poseSet) }

/-- The client is not connected. -/
def connectMqtt (s : NodeState) (env : Surroundings) : NodeState :=
  if env.now - s.lastMqttConnectAttemptMs < mqttRetryMs then s
  else
    let s := { s with lastMqttConnectAttemptMs := env.now }
    let endpoint := s.runtimeConfig.mqttEndpoint
    if endpoint.useSecureWebSockets then
      { s with lastResolvedMqttHost := "wss_unsupported", lastMqttState := -2 }
    else match env.hostByName endpoint.mqttHost with
      | none => { s with lastResolvedMqttHost := "resolve_failed", lastMqttState := -2 }
      | some brokerIp =>
        let s := { s with lastResolvedMqttHost := brokerIp }.configureMqttTransport endpoint
        let client := if endpoint.useWebSockets then s.mqttClient
          else { s.mqttClient with server := (brokerIp, endpoint.mqttPort) }
        let s := { s with mqttClient := client.connect env.accepted }
        if env.accepted then { s.subscribeRoomTopics env.subscribed with lastMqttState := 0 }
        else { s with lastMqttState := env.state }

def ensureMqttConnected (s : NodeState) (env : Surroundings) : NodeState :=
  if ¬ s.runtimeConfig.homeAssistantConfigured ∨ !env.wifiConnected then { s with lastMqttState := -1 }
  else if !s.mqttClient.connected then s.connectMqtt env
  else
    let s := { s with lastMqttState := 0 }
    match env.message with
    | none => s
    | some (topic, payload) =>
      s.handleMqttMessage topic payload env.localDominantGateDistanceCm env.now

/-! ## Commands -/

def haConfig (s : NodeState) (fields : List Str) : NodeState :=
  let field (i : ℕ) : Str := fields.getD i []
  let c := s.runtimeConfig
  resetHomeAssistantConnections { s with runtimeConfig := { c with
    enabled := true
    wifiSsid := field 0
    wifiPassword := field 1
    mqttHost := field 2
    mqttPort := if toInt (field 3) > 0 then UInt16.ofInt (toInt (field 3)) else kMqttPort
    mqttUsername := field 4
    mqttPassword := field 5
    mqttUseWebSockets := c.mqttUseWebSockets || mqttEndpointUsesWebSockets (field 2)
    mqttWebSocketPath := normalizeWebSocketPath c.mqttWebSocketPath
    nodeId := if field 6 ≠ [] then field 6 else defaultNodeId s.deviceIdentitySuffix
    friendlyName := if field 7 ≠ [] then field 7 else defaultFriendlyName s.deviceIdentitySuffix
    roomId := if c.roomId = [] then defaultRoomId else c.roomId
    sensorRole := if c.sensorRole = [] then defaultSensorRole else c.sensorRole } }

def haRoomConfig (s : NodeState) (fields : List Str) : NodeState :=
  let field (i : ℕ) : Str := fields.getD i []
  s.applyRoomPoseConfig
    { roomId := field 0, sensorRole := field 1, poseXValue := field 2, poseYValue := field 3
      headingValue := field 4, roomWidthValue := field 5, roomHeightValue := field 6 } true

/-- `1`, `true` and `on`. -/
def isOn (value : Str) : Bool :=
  value = ("1" : Str) || value = ("true" : Str) || value = ("on" : Str)

def haWsConfig (s : NodeState) (fields : List Str) : NodeState :=
  let field (i : ℕ) : Str := fields.getD i []
  resetHomeAssistantConnections { s with runtimeConfig := { s.runtimeConfig with
    mqttUseWebSockets := isOn (field 0)
    mqttWebSocketPath := if field 1 ≠ [] then normalizeWebSocketPath (field 1) else kMqttWebSocketPath
    mqttHostHeader := field 2 } }

def haMqttEndpoint (s : NodeState) (fields : List Str) : NodeState :=
  let field (i : ℕ) : Str := fields.getD i []
  let c := s.runtimeConfig
  resetHomeAssistantConnections { s with runtimeConfig := { c with
    mqttHost := if field 0 ≠ [] then field 0 else c.mqttHost
    mqttPort := if toInt (field 1) > 0 then UInt16.ofInt (toInt (field 1)) else c.mqttPort
    mqttUseWebSockets := if field 2 ≠ [] then isOn (field 2) else c.mqttUseWebSockets
    mqttWebSocketPath := if field 3 ≠ [] then normalizeWebSocketPath (field 3) else c.mqttWebSocketPath
    mqttHostHeader := field 4 } }

/-- The commands that change the connection; the others leave it and its configuration
alone. -/
def handleUsbCommand (s : NodeState) (command : Str) : NodeState :=
  if let some payload := stripPrefix "ha_config:" command then
    s.haConfig (splitConfigFields payload 8)
  else if let some payload := stripPrefix "ha_room_config:" command then
    s.haRoomConfig (splitConfigFields payload 7)
  else if let some payload := stripPrefix "ha_ws_config:" command then
    s.haWsConfig (splitConfigFields payload 3)
  else if let some payload := stripPrefix "ha_mqtt_endpoint:" command then
    s.haMqttEndpoint (splitConfigFields payload 5)
  else s

end NodeState

/-! ## The machine -/

inductive SessionEvent where
  | ensureMqttConnected (env : Surroundings)
  | command (command : Str)
  /-- The network or the broker closes the connection. -/
  | connectionLost

namespace NodeState

def step (s : NodeState) : SessionEvent → Option NodeState
  | .ensureMqttConnected env => some (s.ensureMqttConnected env)
  | .command command => some (s.handleUsbCommand command)
  | .connectionLost =>
    some { s with mqttClient := { s.mqttClient with connected := false, subscriptions := [] } }

end NodeState

/-- One boot, from any stored configuration. -/
def sessionMachine : Machine NodeState SessionEvent where
  start s := ∃ stored deviceIdentitySuffix, s = NodeState.setup stored deviceIdentitySuffix
  step := NodeState.step

/-! ## Pose commands -/

/-- The room a pose command names. -/
def commandedRoom (payload : Str) : Str :=
  let roomId := jsonFieldString payload Key.roomId.1
  if roomId ≠ [] then roomId else defaultRoomId

namespace RuntimeHomeAssistantConfig

/-- The message is a pose command that the node obeys. -/
structure Obeys (c : RuntimeHomeAssistantConfig) (topic payload : Str) : Prop where
  notEmpty : payload ≠ []
  topic : topic = c.roomPoseCommandTopic c.nodeId
  target : jsonFieldString payload Key.nodeId.1 = [] ∨ jsonFieldString payload Key.nodeId.1 = c.nodeId

/-- The topics and the subscriptions are determined by the room. -/
theorem roomSubscription_inj {c c' : RuntimeHomeAssistantConfig} (kind kind' : RoomTopicKind) :
    c.roomSubscription kind = c'.roomSubscription kind' ↔
      sanitizeHostname c.roomId = sanitizeHostname c'.roomId ∧ kind = kind' := by
  have htopic (c : RuntimeHomeAssistantConfig) (kind : RoomTopicKind) :
      c.roomSubscription kind = c.roomTopic kind ['+'] := by
    cases kind with
    | summary =>
      show c.roomTopicRoot ++ ("/nodes/+/summary" : Str) =
        c.roomTopicRoot ++ ("/nodes/" : Str) ++ ['+'] ++ ("/summary" : Str)
      rw [List.append_assoc, List.append_assoc]
      rfl
    | poseSet =>
      show c.roomTopicRoot ++ ("/nodes/+/pose/set" : Str) =
        c.roomTopicRoot ++ ("/nodes/" : Str) ++ ['+'] ++ ("/pose/set" : Str)
      rw [List.append_assoc, List.append_assoc]
      rfl
  rw [htopic, htopic, roomTopic_inj]
  simp

theorem roomSubscription_congr {c c' : RuntimeHomeAssistantConfig}
    (h : sanitizeHostname c.roomId = sanitizeHostname c'.roomId) (kind : RoomTopicKind) :
    c.roomSubscription kind = c'.roomSubscription kind :=
  (roomSubscription_inj kind kind).2 ⟨h, rfl⟩

end RuntimeHomeAssistantConfig

open RuntimeHomeAssistantConfig

namespace NodeState

theorem handleRoomSummaryMessage_session (s : NodeState) (topic payload : Str) (distance : ℤ)
    (now : UInt32) :
    (s.handleRoomSummaryMessage topic payload distance now).mqttClient = s.mqttClient ∧
      (s.handleRoomSummaryMessage topic payload distance now).runtimeConfig = s.runtimeConfig := by
  rw [handleRoomSummaryMessage]
  cases topicNodeId topic with
  | none => exact ⟨rfl, rfl⟩
  | some name =>
    dsimp only
    split
    · exact ⟨rfl, rfl⟩
    · cases peerSlot s.roomPeers name <;> exact ⟨rfl, rfl⟩

/-- No message touches the client. -/
theorem mqttClient_handleMqttMessage (s : NodeState) (topic payload : Str) (distance : ℤ)
    (now : UInt32) :
    (s.handleMqttMessage topic payload distance now).mqttClient = s.mqttClient := by
  rw [handleMqttMessage]
  split
  · rfl
  split
  · rfl
  split
  · rw [handleRoomPoseCommandMessage]
    split <;> rfl
  split
  · exact (handleRoomSummaryMessage_session ..).1
  · rfl

theorem runtimeConfig_of_obeys {s : NodeState} {topic payload : Str}
    (h : s.runtimeConfig.Obeys topic payload) (distance : ℤ) (now : UInt32) :
    (s.handleMqttMessage topic payload distance now).runtimeConfig =
      s.runtimeConfig.withRoomPose (poseCommandFields s.runtimeConfig payload) := by
  have hsummary : topic ≠ s.runtimeConfig.roomNodeSummaryTopic s.runtimeConfig.nodeId := by
    intro heq
    have hkind := ((roomTopic_inj .poseSet .summary).1 (h.topic.symm.trans heq)).2.1
    cases hkind
  have htarget : ¬ (jsonFieldString payload Key.nodeId.1 ≠ [] ∧
      jsonFieldString payload Key.nodeId.1 ≠ s.runtimeConfig.nodeId) := by
    rintro ⟨hne, hother⟩
    rcases h.target with htarget | htarget
    · exact hne htarget
    · exact hother htarget
  rw [handleMqttMessage, if_neg h.notEmpty, if_neg hsummary, if_pos h.topic,
    handleRoomPoseCommandMessage, if_neg htarget]
  rfl

/-- Only pose commands change the configuration. -/
theorem runtimeConfig_of_not_obeys {s : NodeState} {topic payload : Str}
    (h : ¬ s.runtimeConfig.Obeys topic payload) (distance : ℤ) (now : UInt32) :
    (s.handleMqttMessage topic payload distance now).runtimeConfig = s.runtimeConfig := by
  rw [handleMqttMessage]
  split
  · rfl
  rename_i hpayload
  split
  · rfl
  split
  · rename_i htopic
    rw [handleRoomPoseCommandMessage]
    split
    · rfl
    · rename_i htarget
      refine absurd ⟨hpayload, htopic, ?_⟩ h
      rwa [not_and_or, not_not, not_not] at htarget
  split
  · exact (handleRoomSummaryMessage_session ..).2
  · rfl

/-! ## What a call does to the client -/

/-- The call opens a connection. -/
structure Connects (s : NodeState) (env : Surroundings) : Prop where
  configured : s.runtimeConfig.homeAssistantConfigured
  wifi : env.wifiConnected
  due : ¬ env.now - s.lastMqttConnectAttemptMs < mqttRetryMs
  notSecure : s.runtimeConfig.mqttEndpoint.useSecureWebSockets = false
  resolved : (env.hostByName s.runtimeConfig.mqttEndpoint.mqttHost).isSome
  accepted : env.accepted

/-- The call looks at the connection it has. -/
structure Listens (s : NodeState) (env : Surroundings) : Prop where
  configured : s.runtimeConfig.homeAssistantConfigured
  wifi : env.wifiConnected

theorem subscribeRoomTopics_client (s : NodeState) (subscribed : RoomTopicKind → Bool) :
    (s.subscribeRoomTopics subscribed).mqttClient.connected = s.mqttClient.connected ∧
      (s.subscribeRoomTopics subscribed).mqttClient.bufferSize = s.mqttClient.bufferSize := by
  simp only [subscribeRoomTopics, PubSubClient.subscribe]
  split_ifs <;> exact ⟨rfl, rfl⟩

theorem mem_subscribeRoomTopics {s : NodeState} (hconnected : s.mqttClient.connected)
    (hnone : s.mqttClient.subscriptions = []) (subscribed : RoomTopicKind → Bool) (filter : Str) :
    filter ∈ (s.subscribeRoomTopics subscribed).mqttClient.subscriptions ↔
      ∃ kind, subscribed kind ∧ filter = s.runtimeConfig.roomSubscription kind := by
  have hkinds : (∃ kind, subscribed kind ∧ filter = s.runtimeConfig.roomSubscription kind) ↔
      (subscribed .summary ∧ filter = s.runtimeConfig.roomSummarySubscriptionTopic) ∨
        (subscribed .poseSet ∧ filter = s.runtimeConfig.roomPoseCommandSubscriptionTopic) := by
    constructor
    · rintro ⟨_ | _, h⟩
      · exact Or.inl h
      · exact Or.inr h
    · rintro (h | h)
      · exact ⟨.summary, h⟩
      · exact ⟨.poseSet, h⟩
  rw [hkinds]
  cases hsummary : subscribed .summary <;> cases hpose : subscribed .poseSet <;>
    simp [subscribeRoomTopics, PubSubClient.subscribe, hconnected, hnone, hsummary, hpose]

/-- The client in front of `connect`. -/
theorem configureMqttTransport_client (s : NodeState) (endpoint : MqttEndpoint) :
    (s.configureMqttTransport endpoint).runtimeConfig = s.runtimeConfig ∧
      (s.configureMqttTransport endpoint).mqttClient.bufferSize = s.mqttClient.bufferSize := by
  rw [configureMqttTransport]
  split <;> exact ⟨rfl, rfl⟩

/-- An attempt that succeeds. -/
theorem connectMqtt_of_connects {s : NodeState} {env : Surroundings} (h : s.Connects env) :
    (s.connectMqtt env).runtimeConfig = s.runtimeConfig ∧
      (s.connectMqtt env).mqttClient.bufferSize = s.mqttClient.bufferSize ∧
      (s.connectMqtt env).mqttClient.connected ∧
      ∀ filter, filter ∈ (s.connectMqtt env).mqttClient.subscriptions ↔
        ∃ kind, env.subscribed kind ∧ filter = s.runtimeConfig.roomSubscription kind := by
  obtain ⟨brokerIp, hresolved⟩ := Option.isSome_iff_exists.1 h.resolved
  have hnotSecure : ¬ s.runtimeConfig.mqttEndpoint.useSecureWebSockets = true := by
    rw [h.notSecure]
    exact Bool.false_ne_true
  rw [connectMqtt, if_neg h.due]
  dsimp only
  rw [if_neg hnotSecure, hresolved]
  dsimp only
  rw [if_pos h.accepted]
  -- only the transport and the server are different before `connect`
  obtain ⟨hconfig, hbuffer⟩ := configureMqttTransport_client
    { s with lastMqttConnectAttemptMs := env.now, lastResolvedMqttHost := brokerIp }
    s.runtimeConfig.mqttEndpoint
  generalize configureMqttTransport _ _ = t at hconfig hbuffer
  generalize hclient : (if s.runtimeConfig.mqttEndpoint.useWebSockets = true then t.mqttClient
    else { t.mqttClient with server := (brokerIp, s.runtimeConfig.mqttEndpoint.mqttPort) }) = client
  have hsize : client.bufferSize = s.mqttClient.bufferSize := by
    rw [← hclient, ← hbuffer]
    split <;> rfl
  have hstate := subscribeRoomTopics_client { t with mqttClient := client.connect env.accepted }
    env.subscribed
  have hmem := mem_subscribeRoomTopics (s := { t with mqttClient := client.connect env.accepted })
    h.accepted rfl env.subscribed
  refine ⟨hconfig, hstate.2.trans hsize, hstate.1.trans h.accepted, ?_⟩
  intro filter
  rw [← hconfig]
  exact hmem filter

/-- An attempt that is not made or fails. -/
theorem connectMqtt_of_not_connects {s : NodeState} {env : Surroundings}
    (hconfigured : s.runtimeConfig.homeAssistantConfigured) (hwifi : env.wifiConnected)
    (hdisconnected : s.mqttClient.connected = false) (h : ¬ s.Connects env) :
    (s.connectMqtt env).mqttClient.bufferSize = s.mqttClient.bufferSize ∧
      (s.connectMqtt env).mqttClient.connected = false := by
  rw [connectMqtt]
  split
  · exact ⟨rfl, hdisconnected⟩
  rename_i hdue
  dsimp only
  split
  · exact ⟨rfl, hdisconnected⟩
  rename_i hsecure
  cases hresolved : env.hostByName s.runtimeConfig.mqttEndpoint.mqttHost with
  | none => exact ⟨rfl, hdisconnected⟩
  | some brokerIp =>
    have hrefused : ¬ env.accepted = true := by
      intro haccepted
      exact h ⟨hconfigured, hwifi, hdue, by simpa using hsecure, by rw [hresolved]; rfl, haccepted⟩
    obtain ⟨_, hbuffer⟩ := configureMqttTransport_client
      { s with lastMqttConnectAttemptMs := env.now, lastResolvedMqttHost := brokerIp }
      s.runtimeConfig.mqttEndpoint
    dsimp only
    rw [if_neg hrefused]
    generalize configureMqttTransport _ _ = t at hbuffer
    refine ⟨?_, by simpa [PubSubClient.connect] using hrefused⟩
    rw [← hbuffer]
    show (if s.runtimeConfig.mqttEndpoint.useWebSockets = true then t.mqttClient
      else { t.mqttClient with server := _ }).bufferSize = t.mqttClient.bufferSize
    split <;> rfl

/-- A call that has nothing to do. -/
theorem ensureMqttConnected_of_not_listens {s : NodeState} {env : Surroundings}
    (h : ¬ s.Listens env) : s.ensureMqttConnected env = { s with lastMqttState := -1 } := by
  rw [ensureMqttConnected, if_pos]
  by_contra hnot
  rw [not_or, not_not, Bool.not_eq_true, Bool.not_eq_false'] at hnot
  exact h ⟨hnot.1, hnot.2⟩

theorem ensureMqttConnected_of_disconnected {s : NodeState} {env : Surroundings} (h : s.Listens env)
    (hdisconnected : s.mqttClient.connected = false) :
    s.ensureMqttConnected env = s.connectMqtt env := by
  have hlistens : ¬ (¬ s.runtimeConfig.homeAssistantConfigured ∨ (!env.wifiConnected) = true) := by
    rintro (hnot | hnot)
    · exact hnot h.configured
    · rw [h.wifi] at hnot
      cases hnot
  rw [ensureMqttConnected, if_neg hlistens, if_pos (by rw [hdisconnected]; rfl)]

theorem ensureMqttConnected_of_connected {s : NodeState} {env : Surroundings} (h : s.Listens env)
    (hconnected : s.mqttClient.connected = true) :
    s.ensureMqttConnected env =
      match env.message with
      | none => { s with lastMqttState := 0 }
      | some (topic, payload) =>
        handleMqttMessage { s with lastMqttState := 0 } topic payload
          env.localDominantGateDistanceCm env.now := by
  have hlistens : ¬ (¬ s.runtimeConfig.homeAssistantConfigured ∨ (!env.wifiConnected) = true) := by
    rintro (hnot | hnot)
    · exact hnot h.configured
    · rw [h.wifi] at hnot
      cases hnot
  rw [ensureMqttConnected, if_neg hlistens, if_neg (by rw [hconnected]; decide)]

/-! ## The buffer -/

theorem bufferSize_ensureMqttConnected (s : NodeState) (env : Surroundings) :
    (s.ensureMqttConnected env).mqttClient.bufferSize = s.mqttClient.bufferSize := by
  by_cases hlistens : s.Listens env
  swap
  · rw [ensureMqttConnected_of_not_listens hlistens]
  cases hconnected : s.mqttClient.connected with
  | false =>
    rw [ensureMqttConnected_of_disconnected hlistens hconnected]
    by_cases hconnects : s.Connects env
    · exact (connectMqtt_of_connects hconnects).2.1
    · exact (connectMqtt_of_not_connects hlistens.configured hlistens.wifi hconnected hconnects).1
  | true =>
    rw [ensureMqttConnected_of_connected hlistens hconnected]
    cases env.message with
    | none => rfl
    | some message =>
      show (handleMqttMessage { s with lastMqttState := 0 } message.1 message.2 _ _).mqttClient.bufferSize =
        s.mqttClient.bufferSize
      rw [mqttClient_handleMqttMessage]

/-- A command closes the connection, or leaves client and configuration as they are. -/
theorem handleUsbCommand_client (s : NodeState) (command : Str) :
    (s.handleUsbCommand command).mqttClient = { s.mqttClient with connected := false, subscriptions := [] } ∨
      s.handleUsbCommand command = s := by
  rw [handleUsbCommand]
  split
  · exact Or.inl rfl
  split
  · exact Or.inl rfl
  split
  · exact Or.inl rfl
  split
  · exact Or.inl rfl
  · exact Or.inr rfl

/-- After boot nothing sizes the buffer. -/
theorem bufferSize_step {s s' : NodeState} {event : SessionEvent} (h : s.step event = some s') :
    s'.mqttClient.bufferSize = s.mqttClient.bufferSize := by
  cases event with
  | ensureMqttConnected env =>
    cases h
    exact bufferSize_ensureMqttConnected s env
  | command command =>
    cases h
    rcases handleUsbCommand_client s command with hclient | hsame
    · rw [hclient]
    · rw [hsame]
  | connectionLost =>
    cases h
    rfl

theorem bufferSize_setup (stored : RuntimeHomeAssistantConfig) (deviceIdentitySuffix : Str) :
    (setup stored deviceIdentitySuffix).mqttClient.bufferSize =
      if (loadHomeAssistantConfig stored deviceIdentitySuffix).homeAssistantConfigured then 1024
      else 256 := by
  show (if _ then _ else _ : PubSubClient).bufferSize = _
  split <;> rfl

/-- A connected client has the large buffer and refuses nothing that fits into it. -/
def BufferSized (s : NodeState) : Prop :=
  s.mqttClient.connected → s.mqttClient.bufferSize = 1024 ∧
    ∀ topic payload, PubSubClient.packetLength topic payload ≤ 1024 →
      s.mqttClient.publish topic payload true

theorem bufferSized_of_bufferSize {s : NodeState} (h : s.mqttClient.bufferSize = 1024) :
    s.BufferSized := by
  intro hconnected
  refine ⟨h, ?_⟩
  intro topic payload hfits
  rw [PubSubClient.publish, hconnected, h, decide_eq_true hfits]
  rfl

/-! A node that is provisioned at run time. -/

def provisionFields : List Str := ["home", "secret", "broker", "1883", "", "", "den", "Den"]
def provisionPayload : Str := "home|secret|broker|1883|||den|Den"
def provisionCommand : Str := ("ha_config:" : Str) ++ provisionPayload

theorem handleUsbCommand_provisionCommand (s : NodeState) :
    s.handleUsbCommand provisionCommand = s.haConfig provisionFields := by
  have hpayload : stripPrefix "ha_config:" provisionCommand = some provisionPayload := by decide
  have hfields : splitConfigFields provisionPayload 8 = provisionFields := by decide
  rw [handleUsbCommand, hpayload]
  dsimp only
  rw [hfields]

/-- The network is up and the broker takes the connection. -/
def goodSurroundings : Surroundings where
  wifiConnected := true
  now := mqttRetryMs
  hostByName _ := some "10.0.0.2"
  accepted := true
  state := 0
  subscribed _ := true
  message := none
  localDominantGateDistanceCm := -1

theorem connects_of_provisioned (s : NodeState) : (s.haConfig provisionFields).Connects goodSurroundings := by
  have hendpoint : (s.haConfig provisionFields).runtimeConfig.mqttEndpoint.useSecureWebSockets =
      mqttEndpointUsesSecureWebSockets "broker" := rfl
  have hnodeId : (s.haConfig provisionFields).runtimeConfig.nodeId = ("den" : Str) := by
    show (if provisionFields.getD 6 [] ≠ [] then provisionFields.getD 6 []
      else defaultNodeId s.deviceIdentitySuffix) = ("den" : Str)
    rw [if_pos (by decide)]
    rfl
  refine ⟨⟨rfl, ?_, ?_, ?_⟩, rfl, ?_, ?_, rfl, rfl⟩
  · show ("home" : Str) ≠ []
    decide
  · show ("broker" : Str) ≠ []
    decide
  · rw [hnodeId]
    decide
  · show ¬ mqttRetryMs - 0 < mqttRetryMs
    decide
  · rw [hendpoint]
    decide

/-- After boot, provisioning and one call the client is connected. -/
theorem exists_provisioned (stored : RuntimeHomeAssistantConfig) (deviceIdentitySuffix : Str) :
    ∃ s, (sessionMachine.startingAt (setup stored deviceIdentitySuffix)).Reach Machine.Always s ∧
      s.mqttClient.connected := by
  have hconnects := connects_of_provisioned (setup stored deviceIdentitySuffix)
  have hboot : (sessionMachine.startingAt (setup stored deviceIdentitySuffix)).Reach Machine.Always
      (setup stored deviceIdentitySuffix) := .start rfl
  have hprovisioned := hboot.step (e := .command provisionCommand) trivial rfl
  rw [handleUsbCommand_provisionCommand] at hprovisioned
  have hcalled := hprovisioned.step (e := .ensureMqttConnected goodSurroundings) trivial rfl
  refine ⟨_, hcalled, ?_⟩
  rw [ensureMqttConnected_of_disconnected ⟨hconnects.configured, hconnects.wifi⟩ rfl]
  exact (connectMqtt_of_connects hconnects).2.2.1

theorem bufferSize_of_reach {stored : RuntimeHomeAssistantConfig} {deviceIdentitySuffix : Str}
    {s : NodeState}
    (h : (sessionMachine.startingAt (setup stored deviceIdentitySuffix)).Reach Machine.Always s) :
    s.mqttClient.bufferSize = (setup stored deviceIdentitySuffix).mqttClient.bufferSize := by
  refine h.invariant (I := fun s => s.mqttClient.bufferSize = _) ?_ ?_
  · rintro _ rfl
    rfl
  · intro s event s' hsize _ hstep
    exact (bufferSize_step hstep).trans hsize

/-- A connection has the large buffer exactly when the node booted with a complete
configuration, and without one some run connects. -/
theorem bufferSized_iff (stored : RuntimeHomeAssistantConfig) (deviceIdentitySuffix : Str) :
    (∀ s, (sessionMachine.startingAt (setup stored deviceIdentitySuffix)).Reach Machine.Always s →
        (s.BufferSized ↔ (s.mqttClient.connected →
          (loadHomeAssistantConfig stored deviceIdentitySuffix).homeAssistantConfigured))) ∧
      ((∀ s, (sessionMachine.startingAt (setup stored deviceIdentitySuffix)).Reach Machine.Always s →
          s.BufferSized) ↔
        (loadHomeAssistantConfig stored deviceIdentitySuffix).homeAssistantConfigured) := by
  have hsetup := bufferSize_setup stored deviceIdentitySuffix
  have hstate (s : NodeState)
      (hs : (sessionMachine.startingAt (setup stored deviceIdentitySuffix)).Reach Machine.Always s) :
      s.BufferSized ↔ (s.mqttClient.connected →
        (loadHomeAssistantConfig stored deviceIdentitySuffix).homeAssistantConfigured) := by
    have hsize := (bufferSize_of_reach hs).trans hsetup
    constructor
    · intro hsized hconnected
      by_contra hnot
      rw [if_neg hnot, (hsized hconnected).1] at hsize
      cases hsize
    · intro hconfigured hconnected
      rw [if_pos (hconfigured hconnected)] at hsize
      exact bufferSized_of_bufferSize hsize hconnected
  refine ⟨hstate, ?_⟩
  constructor
  · intro h
    obtain ⟨s, hs, hconnected⟩ := exists_provisioned stored deviceIdentitySuffix
    exact (hstate s hs).1 (h s hs) hconnected
  · intro hconfigured s hs
    exact (hstate s hs).2 fun _ => hconfigured

/-- A node out of the box: once provisioned, it connects with the small buffer. -/
theorem provisioned_unsized :
    ¬ ∀ stored deviceIdentitySuffix s,
        (sessionMachine.startingAt (setup stored deviceIdentitySuffix)).Reach Machine.Always s →
          s.BufferSized := by
  intro h
  obtain ⟨s, hs, hconnected⟩ := exists_provisioned
    { roomId := defaultRoomId, sensorRole := defaultSensorRole } ['a', '1']
  have hsized := (h _ _ s hs hconnected).1
  rw [bufferSize_of_reach hs, bufferSize_setup, if_neg (by decide)] at hsized
  cases hsized

/-! ## The subscriptions -/

/-- A connected client is subscribed to the two filters of the configured room and to
nothing else. -/
def SubscriptionsFollow (s : NodeState) : Prop :=
  s.mqttClient.connected → ∀ filter, filter ∈ s.mqttClient.subscriptions ↔
    ∃ kind, filter = s.runtimeConfig.roomSubscription kind

/-- A connection that opens gets both subscriptions, and no pose command that is obeyed
names a room with another topic. -/
def KeepsSubscriptions (s : NodeState) : SessionEvent → Prop
  | .ensureMqttConnected env =>
    (s.mqttClient.connected = false → s.Connects env → ∀ kind, env.subscribed kind) ∧
      (s.mqttClient.connected → s.Listens env → ∀ topic payload, env.message = some (topic, payload) →
        s.runtimeConfig.Obeys topic payload →
          sanitizeHostname (commandedRoom payload) = sanitizeHostname s.runtimeConfig.roomId)
  | .command _ => True
  | .connectionLost => True

theorem subscriptionsFollow_of_disconnected {s : NodeState} (h : s.mqttClient.connected = false) :
    s.SubscriptionsFollow := by
  intro hconnected
  rw [h] at hconnected
  cases hconnected

/-- A new connection. -/
theorem subscriptionsFollow_connectMqtt {s : NodeState} {env : Surroundings} (h : s.Connects env) :
    (s.connectMqtt env).SubscriptionsFollow ↔ ∀ kind, env.subscribed kind := by
  obtain ⟨hconfig, _, hconnected, hmem⟩ := connectMqtt_of_connects h
  rw [SubscriptionsFollow, hconfig]
  constructor
  · intro hfollow kind
    have hkind := (hfollow hconnected (s.runtimeConfig.roomSubscription kind)).2 ⟨kind, rfl⟩
    obtain ⟨kind', hsubscribed, hsame⟩ := (hmem _).1 hkind
    rw [((roomSubscription_inj kind kind').1 hsame).2]
    exact hsubscribed
  · intro hall _ filter
    rw [hmem]
    constructor
    · rintro ⟨kind, _, hfilter⟩
      exact ⟨kind, hfilter⟩
    · rintro ⟨kind, hfilter⟩
      exact ⟨kind, hall kind, hfilter⟩

/-- A message while the client is connected and its subscriptions are right. -/
theorem subscriptionsFollow_handleMqttMessage {s : NodeState} (hconnected : s.mqttClient.connected)
    (hfollow : s.SubscriptionsFollow) (topic payload : Str) (distance : ℤ) (now : UInt32) :
    (s.handleMqttMessage topic payload distance now).SubscriptionsFollow ↔
      (s.runtimeConfig.Obeys topic payload →
        sanitizeHostname (commandedRoom payload) = sanitizeHostname s.runtimeConfig.roomId) := by
  rw [SubscriptionsFollow, mqttClient_handleMqttMessage]
  by_cases hobeys : s.runtimeConfig.Obeys topic payload
  swap
  · rw [runtimeConfig_of_not_obeys hobeys]
    exact iff_of_true hfollow fun h => absurd h hobeys
  rw [runtimeConfig_of_obeys hobeys]
  have hroom : (s.runtimeConfig.withRoomPose (poseCommandFields s.runtimeConfig payload)).roomId =
      commandedRoom payload := rfl
  constructor
  · intro h _
    have hsummary := (h hconnected (s.runtimeConfig.roomSubscription .summary)).1
      ((hfollow hconnected _).2 ⟨.summary, rfl⟩)
    obtain ⟨kind, hkind⟩ := hsummary
    rw [← hroom]
    exact ((roomSubscription_inj _ _).1 hkind).1.symm
  · intro h _ filter
    rw [hfollow hconnected]
    have hsame := roomSubscription_congr (hroom ▸ h hobeys)
    constructor
    · rintro ⟨kind, hfilter⟩
      exact ⟨kind, hfilter.trans (hsame kind).symm⟩
    · rintro ⟨kind, hfilter⟩
      exact ⟨kind, hfilter.trans (hsame kind)⟩

/-- What one step does to right subscriptions. -/
theorem subscriptionsFollow_step {s s' : NodeState} {event : SessionEvent}
    (hfollow : s.SubscriptionsFollow) (h : s.step event = some s') :
    s'.SubscriptionsFollow ↔ s.KeepsSubscriptions event := by
  cases event with
  | command command =>
    cases h
    refine iff_of_true ?_ trivial
    rcases handleUsbCommand_client s command with hclient | hsame
    · apply subscriptionsFollow_of_disconnected
      rw [hclient]
    · rw [hsame]
      exact hfollow
  | connectionLost =>
    cases h
    exact iff_of_true (subscriptionsFollow_of_disconnected rfl) trivial
  | ensureMqttConnected env =>
    cases h
    by_cases hlistens : s.Listens env
    swap
    · rw [ensureMqttConnected_of_not_listens hlistens]
      refine iff_of_true hfollow ⟨?_, ?_⟩
      · intro _ hconnects
        exact absurd ⟨hconnects.configured, hconnects.wifi⟩ hlistens
      · intro _ hlistens'
        exact absurd hlistens' hlistens
    cases hconnected : s.mqttClient.connected with
    | false =>
      rw [ensureMqttConnected_of_disconnected hlistens hconnected]
      by_cases hconnects : s.Connects env
      · rw [subscriptionsFollow_connectMqtt hconnects]
        constructor
        · intro hall
          exact ⟨fun _ _ => hall, fun h => absurd (hconnected.symm.trans h) Bool.false_ne_true⟩
        · intro hkeeps
          exact hkeeps.1 hconnected hconnects
      · have hrefused := connectMqtt_of_not_connects hlistens.configured hlistens.wifi hconnected hconnects
        refine iff_of_true (subscriptionsFollow_of_disconnected hrefused.2) ⟨?_, ?_⟩
        · intro _ h
          exact absurd h hconnects
        · intro h
          exact absurd (hconnected.symm.trans h) Bool.false_ne_true
    | true =>
      rw [ensureMqttConnected_of_connected hlistens hconnected]
      have hopen : s.mqttClient.connected = false → s.Connects env → ∀ kind, env.subscribed kind := by
        intro h
        exact absurd (h.symm.trans hconnected) Bool.false_ne_true
      cases hmessage : env.message with
      | none =>
        refine iff_of_true hfollow ⟨hopen, ?_⟩
        intro _ _ topic payload h
        cases hmessage.symm.trans h
      | some message =>
        obtain ⟨topic, payload⟩ := message
        have hafter := subscriptionsFollow_handleMqttMessage
          (s := { s with lastMqttState := 0 }) hconnected hfollow topic payload
          env.localDominantGateDistanceCm env.now
        refine hafter.trans ?_
        constructor
        · intro h
          refine ⟨hopen, ?_⟩
          intro _ _ topic' payload' hmessage'
          cases hmessage.symm.trans hmessage'
          exact h
        · intro h
          exact h.2 hconnected hlistens topic payload hmessage

/-- In a run whose connections get their subscriptions and whose pose commands stay in
the room, the subscriptions are those of the room; the first step that is not like that
breaks them. -/
theorem subscriptions_follow (s : NodeState) :
    (sessionMachine.Reach KeepsSubscriptions s → s.SubscriptionsFollow) ∧
      ∀ s' event, sessionMachine.Reach KeepsSubscriptions s → s.step event = some s' →
        (s'.SubscriptionsFollow ↔ s.KeepsSubscriptions event) := by
  have hrun (hs : sessionMachine.Reach KeepsSubscriptions s) : s.SubscriptionsFollow := by
    refine hs.invariant ?_ ?_
    · rintro _ ⟨stored, deviceIdentitySuffix, rfl⟩
      apply subscriptionsFollow_of_disconnected
      show (if _ then _ else _ : PubSubClient).connected = false
      split <;> rfl
    · intro s event s' hfollow hkeeps hstep
      exact (subscriptionsFollow_step hfollow hstep).2 hkeeps
  refine ⟨hrun, ?_⟩
  intro s' event hs hstep
  exact subscriptionsFollow_step (hrun hs) hstep

/-! A node of the attic, connected, gets a command from the dashboard. -/

def atticConfig : RuntimeHomeAssistantConfig where
  enabled := true
  wifiSsid := "home"
  mqttHost := "broker"
  nodeId := "den"
  roomId := "attic"

def atticNode : NodeState := setup atticConfig ['a', '1']

theorem reach_atticNode (ok : NodeState → SessionEvent → Prop) : sessionMachine.Reach ok atticNode :=
  .start ⟨_, _, rfl⟩

theorem connects_atticNode : atticNode.Connects goodSurroundings := by
  refine ⟨by decide, rfl, by decide, by decide, rfl, rfl⟩

theorem ensureMqttConnected_atticNode :
    (atticNode.ensureMqttConnected goodSurroundings).runtimeConfig = atticNode.runtimeConfig ∧
      (atticNode.ensureMqttConnected goodSurroundings).mqttClient.connected := by
  rw [ensureMqttConnected_of_disconnected ⟨connects_atticNode.configured, rfl⟩ (by decide)]
  obtain ⟨hconfig, _, hconnected, _⟩ := connectMqtt_of_connects connects_atticNode
  exact ⟨hconfig, hconnected⟩

theorem subscriptions_follow_attic : ∃ s, sessionMachine.Reach KeepsSubscriptions s ∧
    s.mqttClient.connected ∧ s.SubscriptionsFollow := by
  have hkeeps : atticNode.KeepsSubscriptions (.ensureMqttConnected goodSurroundings) := by
    refine ⟨fun _ _ _ => rfl, ?_⟩
    intro h
    exact absurd h (by decide)
  have hreach := (reach_atticNode KeepsSubscriptions).step hkeeps rfl
  exact ⟨_, hreach, ensureMqttConnected_atticNode.2, (subscriptions_follow _).1 hreach⟩

/-- The node is sent to the hall. -/
def hallCommand : Str := "\x7b\"node_id\":\"den\",\"room_id\":\"hall\"\x7d"

def hallSurroundings : Surroundings :=
  { goodSurroundings with
    message := some (atticNode.runtimeConfig.roomPoseCommandTopic atticNode.runtimeConfig.nodeId,
      hallCommand) }

theorem obeys_hallCommand : atticNode.runtimeConfig.Obeys
    (atticNode.runtimeConfig.roomPoseCommandTopic atticNode.runtimeConfig.nodeId) hallCommand :=
  ⟨by decide, rfl, Or.inr (by decide +kernel)⟩

/-- It obeys and keeps listening to the attic. -/
theorem hall_unsubscribed :
    ¬ ∀ s, sessionMachine.Reach Machine.Always s → s.SubscriptionsFollow := by
  intro h
  obtain ⟨hconfig, hconnected⟩ := ensureMqttConnected_atticNode
  have hattic := (reach_atticNode Machine.Always).step
    (e := .ensureMqttConnected goodSurroundings) trivial rfl
  generalize atticNode.ensureMqttConnected goodSurroundings = s at hconfig hconnected hattic
  have hstep : s.step (.ensureMqttConnected hallSurroundings) =
      some (s.ensureMqttConnected hallSurroundings) := rfl
  have hhall := hattic.step (e := .ensureMqttConnected hallSurroundings) trivial rfl
  have hkeeps := (subscriptionsFollow_step (h _ hattic) hstep).1 (h _ hhall)
  have hlistens : s.Listens hallSurroundings := by
    refine ⟨?_, rfl⟩
    rw [hconfig]
    decide
  have hroom := hkeeps.2 hconnected hlistens _ _ rfl (hconfig ▸ obeys_hallCommand)
  rw [hconfig] at hroom
  exact absurd hroom (by decide +kernel)

end NodeState

end EspWaveRider.Cpp
