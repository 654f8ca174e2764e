import EspWaveRider.Lib.Framing
import EspWaveRider.Lib.TextBytes
import EspWaveRider.Firmware.State

/-!
# MQTT packets

The packets the station task of `rust/firmware/esp32s3/src/main.rs` writes, and
the reassembly of the packets it reads.

* `buildMqttConnectPacket_isSome`, `buildMqttSubscribePacket_isSome` — the two
  handshake packets always fit their buffers;
* `takeMqttPacket` — the first complete packet of the inbound buffer, and
  `lengthPrefixed_packetLength`: packets are length-prefixed messages.
-/

namespace EspWaveRider.Firmware

open Text Framing

structure MqttTaskConfig where
  wifiConnected : Bool := false
  enabled : Bool := false
  useWebsockets : Bool := false
  host : HString 96 := Bounded.empty
  port : UInt16 := 0
  username : HString 64 := Bounded.empty
  password : HString 64 := Bounded.empty
  roomId : HString 64 := Bounded.empty
  nodeId : HString 64 := Bounded.empty
  deriving DecidableEq

/-- A copy of bounded size; a text that does not fit leaves it empty. -/
def heaplessString {cap : ℕ} (value : Str) : HString cap := Bounded.empty.extendOrKeep value

def FirmwareState.mqttTaskConfig (s : FirmwareState) : MqttTaskConfig :=
  { wifiConnected := s.wifiConnected
    enabled := s.enabled && s.homeAssistantConfigured
    useWebsockets := s.mqttUseWebsockets
    host := heaplessString s.mqttHost
    port := s.mqttPort
    username := heaplessString s.mqttUsername
    password := heaplessString s.mqttPassword
    roomId := heaplessString s.roomId
    nodeId := heaplessString s.nodeId }

structure MqttPublishMessage where
  topic : HString 128
  payload : HString 384
  retain : Bool
  deriving DecidableEq

def mqttKeepaliveSecs : ℕ := 30
def mqttPacketIdSubscribe : ℕ := 1
def defaultTopicPrefix : Str := "lb_mmwave"

/-! ## Writing packets -/

def be16 (n : ℕ) : List UInt8 := [UInt8.ofNat (n / 256), UInt8.ofNat (n % 256)]

/-- The bytes of the remaining-length field; five of them hold any length. -/
def remainingLengthBytes (value : ℕ) : ℕ → List UInt8
  | 0 => []
  | fuel + 1 =>
    if value / 128 > 0 then
      (UInt8.ofNat (value % 128) ||| 0x80) :: remainingLengthBytes (value / 128) fuel
    else [UInt8.ofNat (value % 128)]

def encodeMqttRemainingLength {cap : ℕ} (output : HVec UInt8 cap) (value : ℕ) :
    Option (HVec UInt8 cap) :=
  (remainingLengthBytes value 5).foldlM (fun output byte => output.push byte) output

def encodeMqttUtf8 {cap : ℕ} (output : HVec UInt8 cap) (value : Str) : Option (HVec UInt8 cap) :=
  if utf8Len value > 65535 then none
  else do
    let output ← output.extend (be16 (utf8Len value))
    output.extend (toUtf8 value)

/-- A user name or a password is sent when there is one. -/
def encodeMqttUtf8IfAny {cap : ℕ} (output : HVec UInt8 cap) (value : Str) :
    Option (HVec UInt8 cap) :=
  if value ≠ [] then encodeMqttUtf8 output value else some output

/-- A control packet: type byte, remaining length, body. -/
def assembleMqttPacket {cap : ℕ} (kind : UInt8) (body : HVec UInt8 cap) :
    Option (HVec UInt8 cap) := do
  let packet ← Bounded.empty.push kind
  let packet ← encodeMqttRemainingLength packet body.items.length
  packet.extend body.items

/-- What follows the fixed header of CONNECT. -/
def connectVariableAndPayload (config : MqttTaskConfig) (body : HVec UInt8 512) :
    Option (HVec UInt8 512) := do
  let body ← encodeMqttUtf8 body "MQTT"
  let body ← body.push 0x04
  let flags : UInt8 := 0x02 ||| (if config.username.items ≠ [] then 0x80 else 0) |||
    (if config.password.items ≠ [] then 0x40 else 0)
  let body ← body.push flags
  let body ← body.extend (be16 mqttKeepaliveSecs)
  let body ← encodeMqttUtf8 body config.nodeId.items
  let body ← encodeMqttUtf8IfAny body config.username.items
  encodeMqttUtf8IfAny body config.password.items

def buildMqttConnectPacket (config : MqttTaskConfig) : Option (HVec UInt8 512) := do
  let body ← connectVariableAndPayload config Bounded.empty
  assembleMqttPacket 0x10 body

/-- The topic of every node's summary in the room. -/
def subscribeTopic (roomId : Str) (topic : HString 128) : Option (HString 128) := do
  let topic ← topic.extend defaultTopicPrefix
  let topic ← topic.extend "/rooms/"
  let topic ← topic.extend (sanitizeHostname (if roomId = [] then defaultRoomId else roomId))
  topic.extend "/nodes/+/summary"

/-- What follows the fixed header of SUBSCRIBE. -/
def subscribeVariableAndPayload (topic : Str) (body : HVec UInt8 256) :
    Option (HVec UInt8 256) := do
  let body ← body.extend (be16 mqttPacketIdSubscribe)
  let body ← encodeMqttUtf8 body topic
  body.push 0x00

def buildMqttSubscribePacket (config : MqttTaskConfig) : Option (HVec UInt8 256) := do
  let topic ← subscribeTopic config.roomId.items Bounded.empty
  let body ← subscribeVariableAndPayload topic.items Bounded.empty
  assembleMqttPacket 0x82 body

def buildMqttPublishPacket (topic payload : Str) (retain : Bool) : Option (HVec UInt8 768) := do
  let body ← encodeMqttUtf8 Bounded.empty topic
  let body ← body.extend (toUtf8 payload)
  assembleMqttPacket (if retain then 0x31 else 0x30) body

def buildMqttPingreqPacket : List UInt8 := [0xC0, 0x00]

/-! ## Reading packets -/

def mqttIsPingrespPacket (packet : List UInt8) : Bool := packet = [0xD0, 0x00]

/-- Offset behind the remaining-length field and its value, read from `index`
on; `.ok none` when the field is not complete.  At most four bytes are read, so
the checked arithmetic of the source cannot overflow a 32-bit `usize`. -/
def remainingLength (multiplier value index : ℕ) : List UInt8 → Except Unit (Option (ℕ × ℕ))
  | [] => .ok none
  | encoded :: rest =>
    let value := value + (encoded &&& 0x7F).toNat * multiplier
    if encoded &&& 0x80 = 0 then .ok (some (index + 1, value))
    else if multiplier * 128 > 128 * 128 * 128 then .error ()
    else remainingLength (multiplier * 128) value (index + 1) rest

def mqttPacketLength (buffer : List UInt8) : Except Unit (Option ℕ) :=
  if buffer.length < 2 then .ok none
  else match remainingLength 1 0 1 buffer.tail with
    | .error e => .error e
    | .ok none => .ok none
    | .ok (some (index, value)) =>
      if buffer.length < index + value then .ok none else .ok (some (index + value))

/-- `mqtt_packet_length(..).ok().flatten()`, refused above 1024. -/
def packetLength (buffer : List UInt8) : Option ℕ :=
  match mqttPacketLength buffer with
  | .ok (some total) => if total > 1024 then none else some total
  | _ => none

def takeMqttPacket (buffer : HVec UInt8 2048) : Option (HVec UInt8 1024 × HVec UInt8 2048) := do
  let packetLen ← packetLength buffer.items
  let packet : HVec UInt8 1024 ← Bounded.empty.extend (buffer.items.take packetLen)
  some (packet, buffer.dropFirst packetLen)

example : packetLength [0x20, 0x02, 0x00, 0x00, 0xD0] = some 4 := by decide
example : packetLength [0x30, 0x80, 0x01, 0x00] = none := by decide

/-! ### Packets are length-prefixed messages -/

theorem remainingLength_append {multiplier value index : ℕ} {bytes : List UInt8} {r : ℕ × ℕ}
    (h : remainingLength multiplier value index bytes = .ok (some r)) (more : List UInt8) :
    remainingLength multiplier value index (bytes ++ more) = .ok (some r) := by
  induction bytes generalizing multiplier value index with
  | nil => cases h
  | cons encoded rest ih =>
    simp only [List.cons_append, remainingLength] at h ⊢
    split_ifs at h ⊢
    · exact h
    · exact ih h

theorem le_of_remainingLength {multiplier value index : ℕ} {bytes : List UInt8} {r : ℕ × ℕ}
    (h : remainingLength multiplier value index bytes = .ok (some r)) : index < r.1 := by
  induction bytes generalizing multiplier value index with
  | nil => cases h
  | cons encoded rest ih =>
    simp only [remainingLength] at h
    split_ifs at h
    · cases h
      exact Nat.lt_succ_self _
    · exact (Nat.lt_succ_self _).trans (ih h)

/-- When a packet length is read, and what follows from it. -/
theorem packetLength_eq_some_iff {buffer : List UInt8} {n : ℕ} :
    packetLength buffer = some n ↔ ∃ index value, 2 ≤ buffer.length ∧
      remainingLength 1 0 1 buffer.tail = .ok (some (index, value)) ∧
      n = index + value ∧ n ≤ buffer.length ∧ n ≤ 1024 := by
  unfold packetLength mqttPacketLength
  by_cases hshort : buffer.length < 2
  · rw [if_pos hshort]
    simp only [reduceCtorEq, false_iff]
    rintro ⟨_, _, h2, _⟩
    omega
  · rw [if_neg hshort]
    cases hrem : remainingLength 1 0 1 buffer.tail with
    | error e => simp
    | ok r =>
      cases r with
      | none => simp
      | some r =>
        obtain ⟨index, value⟩ := r
        simp only [Except.ok.injEq, Option.some.injEq, Prod.mk.injEq]
        split_ifs with hpart
        · simp only [false_iff]
          rintro ⟨_, _, _, ⟨rfl, rfl⟩, rfl, hle, _⟩
          omega
        · simp only
          split_ifs with hlarge
          · simp only [false_iff]
            rintro ⟨_, _, _, ⟨rfl, rfl⟩, rfl, _, hle⟩
            omega
          · rw [Option.some.injEq]
            constructor
            · rintro rfl
              exact ⟨index, value, by omega, ⟨rfl, rfl⟩, rfl, by omega, by omega⟩
            · rintro ⟨_, _, _, ⟨rfl, rfl⟩, rfl, _, _⟩
              rfl

theorem lengthPrefixed_packetLength : LengthPrefixed packetLength where
  pos := by
    intro buffer n h
    obtain ⟨index, value, _, hrem, rfl, _, _⟩ := packetLength_eq_some_iff.1 h
    have hlt : 1 < index := le_of_remainingLength hrem
    omega
  le := by
    intro buffer n h
    obtain ⟨_, _, _, _, _, hle, _⟩ := packetLength_eq_some_iff.1 h
    exact hle
  append := by
    intro buffer n more h
    obtain ⟨index, value, h2, hrem, hn, hle, hmax⟩ := packetLength_eq_some_iff.1 h
    refine packetLength_eq_some_iff.2 ⟨index, value, ?_, ?_, hn, ?_, hmax⟩
    · rw [List.length_append]
      omega
    · match buffer, h2 with
      | first :: rest, _ => exact remainingLength_append hrem more
    · rw [List.length_append]
      omega

theorem packetLength_le {buffer : List UInt8} {n : ℕ} (h : packetLength buffer = some n) :
    n ≤ 1024 := by
  obtain ⟨_, _, _, _, _, _, hmax⟩ := packetLength_eq_some_iff.1 h
  exact hmax

/-- A packet is taken exactly when its length can be read. -/
theorem takeMqttPacket_eq_none {buffer : HVec UInt8 2048} (h : packetLength buffer.items = none) :
    takeMqttPacket buffer = none := by
  simp [takeMqttPacket, h]

theorem takeMqttPacket_eq_some {buffer : HVec UInt8 2048} {n : ℕ}
    (h : packetLength buffer.items = some n) :
    ∃ packet, takeMqttPacket buffer = some (packet, buffer.dropFirst n) ∧
      packet.items = buffer.items.take n := by
  have hmax := packetLength_le h
  have hsome : ((Bounded.empty : HVec UInt8 1024).extend (buffer.items.take n)).isSome := by
    rw [Bounded.isSome_extend_iff, weight_one, weight_one, List.length_take]
    simp only [Bounded.items_empty, List.length_nil]
    omega
  obtain ⟨packet, hpacket⟩ := Option.isSome_iff_exists.1 hsome
  refine ⟨packet, by simp [takeMqttPacket, h, hpacket], ?_⟩
  simpa using Bounded.items_of_extend hpacket

/-! ### Copies -/

theorem items_heaplessString (cap : ℕ) (value : Str) :
    (heaplessString value : HString cap).items = if utf8Len value ≤ cap then value else [] := by
  have hempty : weight Char.utf8Size ([] : Str) + utf8Len value = utf8Len value := Nat.zero_add _
  rw [heaplessString, Bounded.items_extendOrKeep, weight_utf8Size value, Bounded.items_empty, hempty]
  rfl

/-! ### The handshake packets always fit -/

theorem length_remainingLengthBytes_le (value fuel : ℕ) :
    (remainingLengthBytes value fuel).length ≤ fuel := by
  induction fuel generalizing value with
  | zero => exact le_rfl
  | succ fuel ih =>
    rw [remainingLengthBytes]
    split_ifs
    · rw [List.length_cons]
      exact Nat.succ_le_succ (ih _)
    · simp

theorem appends_encodeMqttUtf8 {cap : ℕ} (value : Str) (h : utf8Len value ≤ 65535) :
    Bounded.Appends (fun output : HVec UInt8 cap => encodeMqttUtf8 output value)
      (be16 (utf8Len value) ++ toUtf8 value) := by
  intro output
  show encodeMqttUtf8 output value = _
  rw [encodeMqttUtf8, if_neg (by omega)]
  exact Bounded.extend_bind_extend _ _ _

theorem appends_encodeMqttUtf8IfAny {cap : ℕ} (value : Str) (h : utf8Len value ≤ 65535) :
    Bounded.Appends (fun output : HVec UInt8 cap => encodeMqttUtf8IfAny output value)
      (if value ≠ [] then be16 (utf8Len value) ++ toUtf8 value else []) := by
  unfold encodeMqttUtf8IfAny
  by_cases hvalue : value ≠ []
  · simp only [if_pos hvalue]
    exact appends_encodeMqttUtf8 value h
  · simp only [if_neg hvalue]
    exact Bounded.appends_some

theorem length_encoded_le (value : Str) :
    (if value ≠ [] then be16 (utf8Len value) ++ toUtf8 value else []).length ≤
      2 + utf8Len value := by
  split_ifs
  · rw [List.length_append, length_toUtf8]
    exact le_rfl
  · exact Nat.zero_le _

theorem appends_encodeMqttRemainingLength {cap : ℕ} (value : ℕ) :
    Bounded.Appends (fun output : HVec UInt8 cap => encodeMqttRemainingLength output value)
      (remainingLengthBytes value 5) := by
  have hpush : ∀ byte, Bounded.Appends (fun output : HVec UInt8 cap => output.push byte) [byte] :=
    Bounded.appends_push
  have happ := Bounded.appends_foldlM hpush (remainingLengthBytes value 5)
  rwa [List.flatMap_singleton'] at happ

/-- Type byte, remaining length and body, whole or not at all. -/
theorem appends_assembleMqttPacket {cap : ℕ} (kind : UInt8) (body : HVec UInt8 cap) :
    Bounded.Appends (fun packet : HVec UInt8 cap => (packet.push kind).bind fun packet =>
      (encodeMqttRemainingLength packet body.items.length).bind fun packet =>
        packet.extend body.items)
      ([kind] ++ (remainingLengthBytes body.items.length 5 ++ body.items)) :=
  (Bounded.appends_push kind).bind
    ((appends_encodeMqttRemainingLength body.items.length).bind (Bounded.appends_extend body.items))

theorem items_assembleMqttPacket {cap : ℕ} {kind : UInt8} {body packet : HVec UInt8 cap}
    (h : assembleMqttPacket kind body = some packet) :
    packet.items = kind :: (remainingLengthBytes body.items.length 5 ++ body.items) :=
  (appends_assembleMqttPacket kind body).items_of_empty h

theorem assembleMqttPacket_isSome {cap : ℕ} (kind : UInt8) {body : HVec UInt8 cap}
    (h : body.items.length + 6 ≤ cap) : (assembleMqttPacket kind body).isSome := by
  have hle := length_remainingLengthBytes_le body.items.length 5
  refine (appends_assembleMqttPacket kind body).isSome_iff.2 ?_
  simp only [weight_one, List.length_append, List.length_singleton]
  omega

/-- A body built from nothing into a packet that leaves room for the header. -/
theorem isSome_bind_assemble {cap : ℕ} (kind : UInt8) {w : List UInt8}
    {f : HVec UInt8 cap → Option (HVec UInt8 cap)} (hf : Bounded.Appends f w)
    (h : w.length + 6 ≤ cap) : ((f Bounded.empty).bind (assembleMqttPacket kind)).isSome := by
  have hsome : (f Bounded.empty).isSome := by
    rw [hf.isSome_iff, weight_one]
    omega
  obtain ⟨body, hbody⟩ := Option.isSome_iff_exists.1 hsome
  have hitems : body.items = w := by
    rw [hf] at hbody
    simpa using Bounded.items_of_extend hbody
  rw [hbody, Option.bind_some]
  refine assembleMqttPacket_isSome kind ?_
  rwa [hitems]

/-- The fields of CONNECT, one after the other. -/
theorem appends_connectFields (config : MqttTaskConfig) :
    Bounded.Appends (connectVariableAndPayload config)
      (be16 (utf8Len "MQTT") ++ toUtf8 "MQTT" ++ ([0x04] ++
        ([0x02 ||| (if config.username.items ≠ [] then 0x80 else 0) |||
            (if config.password.items ≠ [] then 0x40 else 0)] ++
          (be16 mqttKeepaliveSecs ++
            (be16 (utf8Len config.nodeId.items) ++ toUtf8 config.nodeId.items ++
              ((if config.username.items ≠ [] then
                  be16 (utf8Len config.username.items) ++ toUtf8 config.username.items else []) ++
                (if config.password.items ≠ [] then
                  be16 (utf8Len config.password.items) ++ toUtf8 config.password.items else []))))))) := by
  have hnode := config.nodeId.utf8Len_le
  have huser := config.username.utf8Len_le
  have hpass := config.password.utf8Len_le
  exact (appends_encodeMqttUtf8 "MQTT" (by decide)).bind
    ((Bounded.appends_push _).bind
      ((Bounded.appends_push _).bind
        ((Bounded.appends_extend _).bind
          ((appends_encodeMqttUtf8 config.nodeId.items (by omega)).bind
            ((appends_encodeMqttUtf8IfAny config.username.items (by omega)).bind
              (appends_encodeMqttUtf8IfAny config.password.items (by omega)))))))

theorem buildMqttConnectPacket_isSome (config : MqttTaskConfig) :
    (buildMqttConnectPacket config).isSome := by
  have hnode := config.nodeId.utf8Len_le
  have huser := config.username.utf8Len_le
  have hpass := config.password.utf8Len_le
  refine isSome_bind_assemble 0x10 (appends_connectFields config) ?_
  have huser' := length_encoded_le config.username.items
  have hpass' := length_encoded_le config.password.items
  have hname : (toUtf8 "MQTT").length = 4 := by decide
  simp only [List.length_append, length_toUtf8, be16, List.length_cons, List.length_nil]
    at huser' hpass' hname ⊢
  omega

theorem buildMqttSubscribePacket_isSome (config : MqttTaskConfig) :
    (buildMqttSubscribePacket config).isSome := by
  have hroom := utf8Len_sanitizeHostname_le
    (if config.roomId.items = [] then defaultRoomId else config.roomId.items)
  have htopic : Bounded.Appends (subscribeTopic config.roomId.items) _ :=
    (Bounded.appends_extend _).bind
      ((Bounded.appends_extend _).bind
        ((Bounded.appends_extend _).bind (Bounded.appends_extend _)))
  have hsome : (subscribeTopic config.roomId.items Bounded.empty).isSome := by
    refine htopic.isSome_iff.2 ?_
    have hstarts : utf8Len defaultTopicPrefix = 9 := by decide
    have hrooms : utf8Len "/rooms/" = 7 := by decide
    have hnodes : utf8Len "/nodes/+/summary" = 16 := by decide
    simp only [weight_append, weight_utf8Size]
    omega
  obtain ⟨topic, hsub⟩ := Option.isSome_iff_exists.1 hsome
  have hlen := topic.utf8Len_le
  have happ : Bounded.Appends (subscribeVariableAndPayload topic.items) _ :=
    (Bounded.appends_extend _).bind
      ((appends_encodeMqttUtf8 topic.items (by omega)).bind (Bounded.appends_push _))
  have hbody := isSome_bind_assemble 0x82 happ (by
    simp only [List.length_append, length_toUtf8, be16, List.length_cons, List.length_nil]
    omega)
  show ((subscribeTopic config.roomId.items Bounded.empty).bind _).isSome
  rw [hsub]
  exact hbody

end EspWaveRider.Firmware
