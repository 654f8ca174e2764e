import EspWaveRider.Firmware.Node
import EspWaveRider.Lib.Mqtt311

/-!
# The identity in CONNECT

What a broker reads off the CONNECT packet of `rust/firmware/esp32s3/src/main.rs`,
and what is left of the stored identity in it.

* `decodeConnect_buildMqttConnectPacket` — the packet, read by the protocol, holds
  the task's configuration;
* `carriesIdentity_iff` — it holds the stored identity exactly when the three texts
  fit their copies and a password comes with a user name.
-/

namespace EspWaveRider.Firmware

open Text Mqtt311

/-! ## The packet -/

/-- A text that is absent when empty. -/
def optionalText (value : Str) : Option (List UInt8) :=
  if value = [] then none else some (toUtf8 value)

def connectFlags (config : MqttTaskConfig) : UInt8 :=
  0x02 ||| (if config.username.items ≠ [] then 0x80 else 0) |||
    (if config.password.items ≠ [] then 0x40 else 0)

theorem field_toUtf8 (value : Str) : field (toUtf8 value) = be16 (utf8Len value) ++ toUtf8 value := by
  rw [field, length_toUtf8]
  rfl

theorem fieldIf_optionalText (value : Str) : fieldIf (optionalText value) =
    if value ≠ [] then be16 (utf8Len value) ++ toUtf8 value else [] := by
  rw [optionalText]
  by_cases h : value = []
  · simp [h, fieldIf]
  · rw [if_neg h, if_pos h, ← field_toUtf8]
    rfl

/-- The body of the packet by the protocol. -/
def connectBytes (config : MqttTaskConfig) : List UInt8 :=
  connectBody (connectFlags config) 0 30 (toUtf8 config.nodeId.items)
    (optionalText config.username.items) (optionalText config.password.items)

theorem appends_connectVariableAndPayload (config : MqttTaskConfig) :
    Bounded.Appends (connectVariableAndPayload config) (connectBytes config) := by
  refine (appends_connectFields config).congr ?_
  rw [connectBytes, connectBody, field_toUtf8, fieldIf_optionalText, fieldIf_optionalText]
  rfl

/-- A number of so many digits of seven bits is written as a length field. -/
theorem remainingLengthBytes_eq {digits value fuel : ℕ} (hvalue : value < 128 ^ (digits + 1))
    (hfuel : digits < fuel) :
    ∃ continued last, remainingLengthBytes value fuel = continued ++ [last] ∧
      continued.length ≤ digits ∧ (∀ byte ∈ continued, 128 ≤ byte.toNat) ∧ last.toNat < 128 ∧
      lengthValue (remainingLengthBytes value fuel) = value := by
  induction digits generalizing value fuel with
  | zero =>
    obtain ⟨fuel, rfl⟩ : ∃ n, fuel = n + 1 := ⟨fuel - 1, by omega⟩
    have hsmall : ¬ value / 128 > 0 := by omega
    have hbyte : (UInt8.ofNat (value % 128)).toNat = value := by
      rw [UInt8.toNat_ofNat']
      omega
    rw [remainingLengthBytes, if_neg hsmall]
    refine ⟨[], _, rfl, le_rfl, List.forall_mem_nil _, by omega, ?_⟩
    simp only [lengthValue, hbyte]
    omega
  | succ digits ih =>
    obtain ⟨fuel, rfl⟩ : ∃ n, fuel = n + 1 := ⟨fuel - 1, by omega⟩
    rw [remainingLengthBytes]
    by_cases hmore : value / 128 > 0
    · have hdiv : value / 128 < 128 ^ (digits + 1) := by
        rw [Nat.div_lt_iff_lt_mul (by decide), ← Nat.pow_succ]
        exact hvalue
      have hfuel' : digits < fuel := by omega
      obtain ⟨continued, last, hbytes, hlength, hcontinued, hlast, hrest⟩ := ih hdiv hfuel'
      have hbyte : (UInt8.ofNat (value % 128) ||| 0x80).toNat = value % 128 + 128 := by
        have hlow : (UInt8.ofNat (value % 128)).toNat = value % 128 := by
          rw [UInt8.toNat_ofNat']
          omega
        have hbit : (0x80 : UInt8).toNat = 2 ^ 7 * 1 := rfl
        rw [UInt8.toNat_or, hlow, hbit, Nat.or_comm, ← Nat.two_pow_add_eq_or_of_lt (by omega)]
        omega
      rw [if_pos hmore]
      refine ⟨_ :: continued, last, by rw [hbytes]; rfl, ?_, ?_, hlast, ?_⟩
      · rw [List.length_cons]
        omega
      · rintro byte (_ | ⟨_, hmem⟩)
        · omega
        · exact hcontinued byte hmem
      · rw [lengthValue, hrest, hbyte]
        omega
    · have hbyte : (UInt8.ofNat (value % 128)).toNat = value := by
        rw [UInt8.toNat_ofNat']
        omega
      rw [if_neg hmore]
      refine ⟨[], _, rfl, Nat.zero_le _, List.forall_mem_nil _, by omega, ?_⟩
      simp only [lengthValue, hbyte]
      omega

theorem isLengthField_remainingLengthBytes {value : ℕ} (h : value < 128 ^ 4) :
    IsLengthField (remainingLengthBytes value 5) ∧
      lengthValue (remainingLengthBytes value 5) = value := by
  obtain ⟨continued, last, hbytes, hlength, hcontinued, hlast, hvalue⟩ :=
    remainingLengthBytes_eq (show value < 128 ^ (3 + 1) from h) (show 3 < 5 by decide)
  exact ⟨⟨continued, last, hbytes, hlength, hcontinued, hlast⟩, hvalue⟩

/-- A user name and a password are there exactly when their flags say so. -/
theorem connectFlags_bits (config : MqttTaskConfig) :
    let flags := (connectFlags config).toNat
    flags.testBit 0 = false ∧ flags.testBit 2 = false ∧
      flags.testBit 7 = (optionalText config.username.items).isSome ∧
      flags.testBit 6 = (optionalText config.password.items).isSome := by
  unfold connectFlags optionalText
  by_cases huser : config.username.items = [] <;> by_cases hpass : config.password.items = []
  all_goals
    simp only [huser, hpass, ne_eq, not_true_eq_false, not_false_eq_true, if_true, if_false]
    exact ⟨rfl, rfl, rfl, rfl⟩

theorem length_optionalText_le {value : Str} {n : ℕ} (h : utf8Len value ≤ n) :
    ∀ b ∈ optionalText value, b.length ≤ n := by
  intro b hb
  rw [optionalText] at hb
  split at hb
  · cases hb
  · cases hb
    rwa [length_toUtf8]

/-- The packet exists and, read by the protocol, holds the task's configuration. -/
theorem decodeConnect_buildMqttConnectPacket (config : MqttTaskConfig) :
    ∃ packet, buildMqttConnectPacket config = some packet ∧
      decodeConnect packet.items = some
        { flags := connectFlags config, keepAlive := mqttKeepaliveSecs
          clientId := toUtf8 config.nodeId.items, willTopic := none, willMessage := none
          username := optionalText config.username.items
          password := optionalText config.password.items } := by
  obtain ⟨packet, hpacket⟩ := Option.isSome_iff_exists.1 (buildMqttConnectPacket_isSome config)
  obtain ⟨body, hbody, hassemble⟩ := Option.bind_eq_some_iff.1 hpacket
  have hitems : body.items = connectBytes config :=
    (appends_connectVariableAndPayload config).items_of_empty hbody
  have hnode := config.nodeId.utf8Len_le
  have huser := config.username.utf8Len_le
  have hpass := config.password.utf8Len_le
  have hsize : body.items.length < 128 ^ 4 := lt_of_le_of_lt body.length_le (by decide)
  obtain ⟨hfield, hvalue⟩ := isLengthField_remainingLengthBytes hsize
  obtain ⟨hreserved, hwill, hflagUser, hflagPass⟩ := connectFlags_bits config
  refine ⟨packet, hpacket, ?_⟩
  rw [items_assembleMqttPacket hassemble]
  rw [hitems] at hfield hvalue ⊢
  exact decodeConnect_connectBody hfield hvalue hreserved hwill hflagUser hflagPass
    (by rw [length_toUtf8]; omega) (length_optionalText_le (by omega))
    (length_optionalText_le (by omega))

/-! ## The identity -/

/-- The CONNECT packet of the current configuration exists and says who the node is:
its client id, user name and password are the stored ones, and there is no password
without a user name. -/
def CarriesIdentity (s : FirmwareState) : Prop :=
  ∃ packet connect, buildMqttConnectPacket s.mqttTaskConfig = some packet ∧
    decodeConnect packet.items = some connect ∧ connect.clientId = toUtf8 s.nodeId ∧
    connect.username = optionalText s.mqttUsername ∧
    connect.password = optionalText s.mqttPassword ∧
    (connect.flags.toNat.testBit 6 → connect.flags.toNat.testBit 7)

theorem carriesIdentity_iff_config (s : FirmwareState) :
    CarriesIdentity s ↔ toUtf8 s.mqttTaskConfig.nodeId.items = toUtf8 s.nodeId ∧
      optionalText s.mqttTaskConfig.username.items = optionalText s.mqttUsername ∧
      optionalText s.mqttTaskConfig.password.items = optionalText s.mqttPassword ∧
      (s.mqttTaskConfig.password.items ≠ [] → s.mqttTaskConfig.username.items ≠ []) := by
  obtain ⟨packet, hpacket, hconnect⟩ := decodeConnect_buildMqttConnectPacket s.mqttTaskConfig
  obtain ⟨_, _, hflagUser, hflagPass⟩ := connectFlags_bits s.mqttTaskConfig
  have hsome (value : Str) : (optionalText value).isSome = true ↔ value ≠ [] := by
    rw [optionalText]
    split <;> simp_all
  constructor
  · rintro ⟨packet', connect, hpacket', hconnect', hclient, huser, hpass, hflags⟩
    obtain rfl := Option.some.inj (hpacket.symm.trans hpacket')
    obtain rfl := Option.some.inj (hconnect.symm.trans hconnect')
    rw [hflagUser, hflagPass, hsome, hsome] at hflags
    exact ⟨hclient, huser, hpass, hflags⟩
  · rintro ⟨hclient, huser, hpass, hflags⟩
    refine ⟨packet, _, hpacket, hconnect, hclient, huser, hpass, ?_⟩
    rw [hflagUser, hflagPass, hsome, hsome]
    exact hflags

theorem toUtf8_ne_nil {value : Str} (h : value ≠ []) : toUtf8 value ≠ [] := by
  intro hnil
  have hlen := length_toUtf8 value
  rw [hnil] at hlen
  cases value with
  | nil => exact h rfl
  | cons c value =>
    have hpos := c.utf8Size_pos
    rw [utf8Len_cons, List.length_nil] at hlen
    omega

/-- A copy says what the text says exactly when the text fits. -/
theorem toUtf8_heaplessString_iff (cap : ℕ) (value : Str) :
    toUtf8 (heaplessString value : HString cap).items = toUtf8 value ↔ utf8Len value ≤ cap := by
  rw [items_heaplessString]
  by_cases h : utf8Len value ≤ cap
  · rw [if_pos h]
    exact iff_of_true rfl h
  · rw [if_neg h]
    refine iff_of_false (fun heq => toUtf8_ne_nil ?_ heq.symm) h
    rintro rfl
    exact h (Nat.zero_le _)

theorem optionalText_heaplessString_iff (cap : ℕ) (value : Str) :
    optionalText (heaplessString value : HString cap).items = optionalText value ↔
      utf8Len value ≤ cap := by
  rw [items_heaplessString]
  by_cases h : utf8Len value ≤ cap
  · rw [if_pos h]
    exact iff_of_true rfl h
  · rw [if_neg h]
    refine iff_of_false ?_ h
    have hvalue : value ≠ [] := by
      rintro rfl
      exact h (Nat.zero_le _)
    rw [optionalText, optionalText, if_pos rfl, if_neg hvalue]
    nofun

/-- CONNECT carries the stored identity exactly when its three texts have at most 64
bytes and a password comes with a user name. -/
theorem carriesIdentity_iff (s : FirmwareState) :
    CarriesIdentity s ↔ utf8Len s.nodeId ≤ 64 ∧ utf8Len s.mqttUsername ≤ 64 ∧
      utf8Len s.mqttPassword ≤ 64 ∧ (s.mqttPassword ≠ [] → s.mqttUsername ≠ []) := by
  rw [carriesIdentity_iff_config]
  show toUtf8 (heaplessString s.nodeId : HString 64).items = _ ∧
    optionalText (heaplessString s.mqttUsername : HString 64).items = _ ∧
    optionalText (heaplessString s.mqttPassword : HString 64).items = _ ∧
    ((heaplessString s.mqttPassword : HString 64).items ≠ [] →
      (heaplessString s.mqttUsername : HString 64).items ≠ []) ↔ _
  rw [toUtf8_heaplessString_iff, optionalText_heaplessString_iff, optionalText_heaplessString_iff]
  refine and_congr_right fun _ => and_congr_right fun huser => and_congr_right fun hpass => ?_
  rw [items_heaplessString, items_heaplessString, if_pos huser, if_pos hpass]

/-- A boot or a command. -/
def IsConfiguration (_ : FirmwareState) : NodeEvent → Prop
  | .boot _ _ | .command _ _ => True
  | .work _ => False

/-- A node after boot and one command. -/
def configuredNode (command : HString 256) : FirmwareState :=
  ((FirmwareState.bootState ⟨#[0, 0, 0, 0, 0, 0], size_noAddress⟩ (some {})).handleCommand command.items 0).state

theorem reach_configuredNode (command : HString 256) :
    nodeMachine.Reach IsConfiguration (configuredNode command) := by
  have hboot : nodeMachine.Reach IsConfiguration
      (FirmwareState.bootState ⟨#[0, 0, 0, 0, 0, 0], size_noAddress⟩ (some {})) :=
    Machine.Reach.step (e := .boot ⟨#[0, 0, 0, 0, 0, 0], size_noAddress⟩ (some {}))
      (Machine.Reach.start rfl) trivial rfl
  exact Machine.Reach.step (e := .command command 0) hboot trivial rfl

/-- A user name of 65 bytes is left out, and a password is sent without a user name. -/
theorem identity_lost :
    (∃ s, nodeMachine.Reach IsConfiguration s ∧ utf8Len s.mqttUsername = 65 ∧ ¬ CarriesIdentity s) ∧
      ∃ s, nodeMachine.Reach IsConfiguration s ∧ s.mqttUsername = [] ∧ ¬ CarriesIdentity s := by
  have hlong := reach_configuredNode
    ⟨("ha_config:net|secret|10.0.0.2|1883|" : Str) ++ List.replicate 65 'a' ++ ("|pw||" : Str), by decide⟩
  have hnone := reach_configuredNode ⟨"ha_config:net|secret|10.0.0.2|1883||pw||", by decide⟩
  refine ⟨⟨_, hlong, by decide +kernel, ?_⟩, ⟨_, hnone, by decide +kernel, ?_⟩⟩
  · rw [carriesIdentity_iff_config]
    rintro ⟨_, huser, _⟩
    exact absurd huser (by decide +kernel)
  · rw [carriesIdentity_iff_config]
    rintro ⟨_, _, _, hflags⟩
    exact absurd (hflags (by decide +kernel)) (by decide +kernel)

end EspWaveRider.Firmware
