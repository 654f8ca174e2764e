import EspWaveRider.Cpp.MqttSession
import EspWaveRider.Firmware.MqttConnect

/-!
# The MQTT transport of the two firmwares

Whether a node speaks MQTT over WebSockets follows from a flag and from the scheme of the
broker's address.  `mqtt_transport` and `mqtt_task_config` of
`rust/firmware/esp32s3/src/main.rs` and `ensureMqttConnected` of `src/main.cpp` decide it
each on its own.

* `OneTransport` — the three agree on a state;
* `oneTransport_iff_flag` — they do if the flag is set whenever the address asks for it;
* `one_transport_iff` — which configurations keep it so.
-/

namespace EspWaveRider

open Text Firmware Command

/-- The settings of a node as the C++ firmware finds them in flash. -/
def storedSettings (s : FirmwareState) : Cpp.RuntimeHomeAssistantConfig :=
  { enabled := s.enabled
    wifiSsid := s.wifiSsid
    wifiPassword := s.wifiPassword
    mqttHost := s.mqttHost
    mqttPort := s.mqttPort
    mqttUsername := s.mqttUsername
    mqttPassword := s.mqttPassword
    mqttUseWebSockets := s.mqttUseWebsockets
    mqttWebSocketPath := s.normalizedWebsocketPath
    mqttHostHeader := s.mqttHostHeader
    nodeId := s.nodeId
    friendlyName := s.friendlyName
    roomId := s.roomId
    sensorRole := s.sensorRole
    roomPoseXCm := Int16.ofInt s.poseXCm
    roomPoseYCm := Int16.ofInt s.poseYCm
    roomHeadingDeg := Int16.ofInt s.headingDeg
    roomWidthCm := s.roomWidthCm
    roomHeightCm := s.roomHeightCm }

/-- What is reported, what the task is told and what the C++ firmware would do are the same. -/
def OneTransport (s : FirmwareState) : Prop :=
  (s.mqttTransport = ("websocket" : Str) ↔ s.mqttTaskConfig.useWebsockets) ∧
    ∀ deviceIdentitySuffix,
      (Cpp.loadHomeAssistantConfig (storedSettings s) deviceIdentitySuffix).mqttEndpoint.useWebSockets =
        s.mqttTaskConfig.useWebsockets

/-- The flag is set whenever the scheme of the address asks for WebSockets. -/
def FlagFollowsHost (mqttHost : Str) (useWebsockets : Bool) : Prop :=
  mqttEndpointUsesWebsockets mqttHost → useWebsockets

instance (mqttHost : Str) (useWebsockets : Bool) :
    Decidable (FlagFollowsHost mqttHost useWebsockets) := inferInstanceAs (Decidable (_ → _))

theorem mqttTransport_eq_iff (s : FirmwareState) : s.mqttTransport = ("websocket" : Str) ↔
    s.mqttUseWebsockets || mqttEndpointUsesWebsockets s.mqttHost := by
  rw [FirmwareState.mqttTransport]
  split
  · rename_i hwebsocket
    exact iff_of_true rfl hwebsocket
  · rename_i htcp
    exact iff_of_false (by decide) htcp

/-- The C++ firmware looks at the flag and at the address. -/
theorem useWebSockets_storedSettings (s : FirmwareState) (deviceIdentitySuffix : Str) :
    (Cpp.loadHomeAssistantConfig (storedSettings s) deviceIdentitySuffix).mqttEndpoint.useWebSockets =
      (s.mqttUseWebsockets || mqttEndpointUsesWebsockets s.mqttHost) := rfl

theorem oneTransport_iff_flag (s : FirmwareState) :
    OneTransport s ↔ FlagFollowsHost s.mqttHost s.mqttUseWebsockets := by
  have hconfig : s.mqttTaskConfig.useWebsockets = s.mqttUseWebsockets := rfl
  simp only [OneTransport, mqttTransport_eq_iff, useWebSockets_storedSettings, hconfig,
    FlagFollowsHost, forall_const]
  cases s.mqttUseWebsockets <;> cases mqttEndpointUsesWebsockets s.mqttHost <;> decide

/-! ## Configurations -/

/-- A configuration that sets the flag when it brings, or leaves, an address that asks for
WebSockets. -/
def KeepsTransport (s : FirmwareState) : NodeEvent → Prop
  | .boot _ settings => ∀ stored ∈ settings,
      FlagFollowsHost (stored.mqttHost.getD []) (stored.mqttWs.getD false)
  | .command command _ =>
    match parseDeviceCommand command.items with
    | some (.homeAssistantWebSocketConfig payload) =>
      ∀ config, parseHomeAssistantWebsocketConfigPayload payload = .ok config →
        FlagFollowsHost s.mqttHost config.enabled
    | some (.homeAssistantMqttEndpoint payload) =>
      ∀ config, parseHomeAssistantMqttEndpointPayload payload = .ok config →
        FlagFollowsHost (if config.mqttHost ≠ [] then config.mqttHost else s.mqttHost)
          (config.useWebsockets.getD s.mqttUseWebsockets)
    | _ => True
  | .work _ => False

theorem transport_bootState (mac : Vector UInt8 6) (settings : Option Nvs) :
    (FirmwareState.bootState mac settings).mqttHost =
        ((settings.bind (·.mqttHost)).getD []) ∧
      (FirmwareState.bootState mac settings).mqttUseWebsockets =
        ((settings.bind (·.mqttWs)).getD false) := by
  cases settings with
  | none => exact ⟨rfl, rfl⟩
  | some settings =>
    show (FirmwareState.loadPersistedConfig _ settings).mqttHost = settings.mqttHost.getD [] ∧
      (FirmwareState.loadPersistedConfig _ settings).mqttUseWebsockets = settings.mqttWs.getD false
    unfold FirmwareState.loadPersistedConfig
    dsimp only
    split <;> exact ⟨rfl, rfl⟩

/-- The settings of the transport are the same. -/
def SameTransport (s s' : FirmwareState) : Prop :=
  s'.mqttHost = s.mqttHost ∧ s'.mqttUseWebsockets = s.mqttUseWebsockets

/-- After `ha_config` the flag is set when the address asks for it. -/
theorem flagFollowsHost_applyHomeAssistantConfig (s : FirmwareState)
    (payload : HomeAssistantConfigPayload) :
    FlagFollowsHost (s.applyHomeAssistantConfig payload).mqttHost
      (s.applyHomeAssistantConfig payload).mqttUseWebsockets := by
  have hfields : (s.applyHomeAssistantConfig payload).mqttHost = payload.mqttHost ∧
      (s.applyHomeAssistantConfig payload).mqttUseWebsockets =
        (s.mqttUseWebsockets || mqttEndpointUsesWebsockets payload.mqttHost) :=
    FirmwareState.disconnectedIf_rule (Q := fun t => t.mqttHost = payload.mqttHost ∧
      t.mqttUseWebsockets = (s.mqttUseWebsockets || mqttEndpointUsesWebsockets payload.mqttHost))
      _ _ id ⟨rfl, rfl⟩
  rw [hfields.1, hfields.2]
  intro hhost
  rw [hhost, Bool.or_true]

/-- A payload that is not accepted changes nothing. -/
theorem flagFollowsHost_configured {P : Type} {s : FirmwareState}
    (h : FlagFollowsHost s.mqttHost s.mqttUseWebsockets) (code : Str) (payload : ParseResult P)
    (apply : P → FirmwareState) :
    FlagFollowsHost (s.configured code payload apply).state.mqttHost
        (s.configured code payload apply).state.mqttUseWebsockets ↔
      ∀ config, payload = .ok config →
        FlagFollowsHost (apply config).mqttHost (apply config).mqttUseWebsockets := by
  cases payload with
  | ok config =>
    constructor
    · rintro hstate _ ⟨⟩
      exact hstate
    · intro hall
      exact hall config rfl
  | error _ => exact iff_of_true h nofun

/-- A command keeps the flag in step with the address exactly if it sets it when needed. -/
theorem keepsTransport_command_iff {s : FirmwareState}
    (h : FlagFollowsHost s.mqttHost s.mqttUseWebsockets) (command : HString 256) (uptimeMs : ℕ) :
    KeepsTransport s (.command command uptimeMs) ↔
      FlagFollowsHost (s.handleCommand command.items uptimeMs).state.mqttHost
        (s.handleCommand command.items uptimeMs).state.mqttUseWebsockets := by
  have hsame {s' : FirmwareState} (hs : SameTransport s s') :
      FlagFollowsHost s'.mqttHost s'.mqttUseWebsockets := by
    rw [hs.1, hs.2]
    exact h
  rw [KeepsTransport, FirmwareState.state_handleCommand]
  cases parseDeviceCommand command.items with
  | none => exact iff_of_true trivial h
  | some command =>
    simp only [Option.map_some, Option.getD_some]
    cases command with
    | homeAssistantConfig payload =>
      refine iff_of_true trivial ((flagFollowsHost_configured h _ _ _).2 fun config _ => ?_)
      exact flagFollowsHost_applyHomeAssistantConfig s config
    | homeAssistantWebSocketConfig payload =>
      exact (flagFollowsHost_configured h _ (parseHomeAssistantWebsocketConfigPayload payload)
        s.applyHomeAssistantWebsocketConfig).symm
    | homeAssistantMqttEndpoint payload =>
      exact (flagFollowsHost_configured h _ (parseHomeAssistantMqttEndpointPayload payload)
        s.applyHomeAssistantMqttEndpoint).symm
    | _ =>
      exact iff_of_true trivial (hsame (FirmwareState.state_handleDeviceCommand_rule
        (Q := SameTransport s) ⟨rfl, rfl⟩ uptimeMs nofun (fun _ => ⟨rfl, rfl⟩) nofun nofun
        (fun _ => ⟨rfl, rfl⟩) (fun _ => ⟨rfl, rfl⟩) fun _ => ⟨rfl, rfl⟩))

theorem keepsTransport_iff {s s' : FirmwareState} {e : NodeEvent} (h : OneTransport s)
    (hconfiguration : IsConfiguration s e) (hstep : s.nodeStep e = some s') :
    KeepsTransport s e ↔ OneTransport s' := by
  rw [oneTransport_iff_flag] at h ⊢
  cases e with
  | boot mac settings =>
    cases hstep
    obtain ⟨hhost, hflag⟩ := transport_bootState mac settings
    rw [hhost, hflag, KeepsTransport]
    cases settings with
    | none => exact iff_of_true (by simp) (by decide)
    | some stored =>
      constructor
      · intro hstored
        exact hstored stored rfl
      · rintro hstored _ ⟨⟩
        exact hstored
  | command command uptimeMs =>
    cases hstep
    exact keepsTransport_command_iff h command uptimeMs
  | work next => exact hconfiguration.elim

/-- After boots and commands that set the flag when they should, the reported transport,
the task's and the one of the C++ firmware are the same; and they stay the same after
exactly such a step. -/
theorem one_transport_iff (s : FirmwareState) :
    (nodeMachine.Reach (fun s e => IsConfiguration s e ∧ KeepsTransport s e) s → OneTransport s) ∧
      (OneTransport s → ∀ e s', IsConfiguration s e → nodeMachine.step s e = some s' →
        (KeepsTransport s e ↔ OneTransport s')) := by
  refine ⟨fun h => ?_, fun h e s' hconfiguration hstep => keepsTransport_iff h hconfiguration hstep⟩
  refine h.invariant (I := OneTransport) ?_ ?_
  · rintro s rfl
    exact (oneTransport_iff_flag _).2 (by decide)
  · intro s e s' hone hok hstep
    exact (keepsTransport_iff hone hok.1 hstep).1 hok.2

/-- A new endpoint brings an address with a scheme and leaves the flag alone: the node reports
WebSockets, and its task is told to use plain TCP. -/
theorem transport_split : ¬ ∀ s, nodeMachine.Reach IsConfiguration s → OneTransport s := by
  intro hall
  have hone := hall _ (reach_configuredNode ⟨"ha_mqtt_endpoint:ws://10.0.0.2||||", by decide⟩)
  rw [oneTransport_iff_flag] at hone
  exact absurd hone (by decide +kernel)

end EspWaveRider
