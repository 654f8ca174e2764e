import EspWaveRider.Lib.TextBytes
import EspWaveRider.RemainingLength

/-!
# PUBLISH packets

`build_mqtt_publish_packet` of `rust/firmware/esp32s3/src/main.rs` and `mqtt_publish_payload` of
`rust/crates/espwaverider-core/src/mqtt.rs`.

* `publishPacket` — a packet of any quality of service, as the protocol describes it;
* `mqttPublishPayload_publishPacket` — its payload is read;
* `Access.mqttPublishPayload_eq` — no byte outside a packet is read;
* `publish_codec` — both, and when the firmware builds a packet.
-/

namespace EspWaveRider.Mqtt

open Text Mqtt311 Firmware

inductive QoS where
  | atMostOnce
  | atLeastOnce
  | exactlyOnce

def QoS.bits : QoS → UInt8
  | .atMostOnce => 0
  | .atLeastOnce => 1
  | .exactlyOnce => 2

/-- Type 3, and the flags. -/
def publishFirstByte (qos : QoS) (dup retain : Bool) : UInt8 :=
  let dupBit : UInt8 := if dup then 0x08 else 0
  let qosBits : UInt8 := qos.bits <<< 1
  let retainBit : UInt8 := if retain then 0x01 else 0
  0x30 ||| dupBit ||| qosBits ||| retainBit

/-- Only a delivery that is acknowledged has an identifier. -/
def packetIdentifier (qos : QoS) (packetId : UInt16) : List UInt8 :=
  match qos with
  | .atMostOnce => []
  | .atLeastOnce | .exactlyOnce => be16 packetId.toNat

/-- Topic, identifier and payload. -/
def publishBody (qos : QoS) (packetId : UInt16) (topic : List UInt8) (payload : Str) : List UInt8 :=
  be16 topic.length ++ (topic ++ (packetIdentifier qos packetId ++ toUtf8 payload))

/-- A PUBLISH packet with its remaining length. -/
def publishPacket (qos : QoS) (dup retain : Bool) (packetId : UInt16) (topic : List UInt8)
    (payload : Str) : List UInt8 :=
  publishFirstByte qos dup retain ::
    (remainingLengthBytes (publishBody qos packetId topic payload).length 5 ++
      publishBody qos packetId topic payload)

/-! ## Reading the payload -/

theorem publishFirstByte_type (qos : QoS) (dup retain : Bool) :
    publishFirstByte qos dup retain >>> 4 = 0x03 := by
  cases qos <;> cases dup <;> cases retain <;> rfl

theorem publishFirstByte_qos (qos : QoS) (dup retain : Bool) :
    (publishFirstByte qos dup retain >>> 1) &&& 0x03 = qos.bits := by
  cases qos <;> cases dup <;> cases retain <;> rfl

theorem length_packetIdentifier (qos : QoS) (packetId : UInt16) :
    (packetIdentifier qos packetId).length = if qos.bits > 0 then 2 else 0 := by
  cases qos <;> rfl

theorem be16_value {n : ℕ} (h : n ≤ 65535) :
    (UInt8.ofNat (n / 256)).toNat * 256 + (UInt8.ofNat (n % 256)).toNat = n := by
  rw [toNat_byte (by omega), toNat_byte (by omega)]
  omega

/-- Whatever field of remaining length is skipped, and whatever its value. -/
theorem mqttPublishPayload_cons {field topic : List UInt8} (qos : QoS) (dup retain : Bool)
    (packetId : UInt16) (payload : Str) (hfield : IsLengthField field)
    (htopic : topic.length ≤ 65535) :
    mqttPublishPayload (publishFirstByte qos dup retain ::
      (field ++ publishBody qos packetId topic payload)) = some payload := by
  set first := publishFirstByte qos dup retain with hfirst
  have hskip : publishHeaderLength 1 1 (field ++ publishBody qos packetId topic payload) =
      some (1 + field.length) :=
    publishHeaderLength_eq (remainingLength_of_isLengthField hfield _)
  -- the topic begins where the header ends
  have hbody : first :: (field ++ publishBody qos packetId topic payload) =
      (first :: field) ++ publishBody qos packetId topic payload := rfl
  have hheader : (first :: field).length = 1 + field.length := by
    rw [List.length_cons, Nat.add_comm]
  have hhigh : (first :: (field ++ publishBody qos packetId topic payload))[1 + field.length]? =
      some (UInt8.ofNat (topic.length / 256)) := by
    rw [hbody, ← hheader, List.getElem?_append_right le_rfl, Nat.sub_self]
    rfl
  have hlow : (first :: (field ++ publishBody qos packetId topic payload))[1 + field.length + 1]? =
      some (UInt8.ofNat (topic.length % 256)) := by
    rw [hbody, ← hheader, List.getElem?_append_right (Nat.le_add_right _ 1),
      Nat.add_sub_cancel_left]
    rfl
  have hoffset : 1 + field.length + 2 + topic.length + (packetIdentifier qos packetId).length =
      ((first :: field) ++ (be16 topic.length ++ (topic ++ packetIdentifier qos packetId))).length := by
    rw [List.length_append, List.length_append, List.length_append, hheader]
    simp only [be16, List.length_cons, List.length_nil]
    omega
  have hsplit : first :: (field ++ publishBody qos packetId topic payload) =
      ((first :: field) ++ (be16 topic.length ++ (topic ++ packetIdentifier qos packetId))) ++
        toUtf8 payload := by
    simp [publishBody]
  have hfits (front : List UInt8) : front.length ≤ (front ++ toUtf8 payload).length := by
    rw [List.length_append]
    exact Nat.le_add_right _ _
  rw [mqttPublishPayload, if_neg (not_not.2 (publishFirstByte_type qos dup retain)), hskip]
  simp only [Option.bind_eq_bind, Option.bind_some]
  rw [hhigh, Option.bind_some, hlow, Option.bind_some, be16_value htopic, hfirst, publishFirstByte_qos,
    ← hfirst, ← length_packetIdentifier qos packetId, hoffset, hsplit, List.drop_left,
    if_pos (hfits _), fromUtf8_toUtf8]

theorem mqttPublishPayload_publishPacket (qos : QoS) (dup retain : Bool) (packetId : UInt16)
    {topic : List UInt8} {payload : Str} (htopic : topic.length ≤ 65535)
    (hsize : (publishBody qos packetId topic payload).length < 128 ^ 4) :
    mqttPublishPayload (publishPacket qos dup retain packetId topic payload) = some payload :=
  mqttPublishPayload_cons qos dup retain packetId payload (isLengthField_remainingLengthBytes hsize).1
    htopic

/-! ## The packets of the firmware -/

theorem utf8Len_le_of_encodeMqttUtf8 {cap : ℕ} {output output' : HVec UInt8 cap} {value : Str}
    (h : encodeMqttUtf8 output value = some output') : utf8Len value ≤ 65535 := by
  rw [encodeMqttUtf8] at h
  split_ifs at h with hlong
  · exact not_lt.1 hlong

/-- The body of a packet that is delivered at most once. -/
theorem publishBody_atMostOnce (topic payload : Str) :
    publishBody .atMostOnce 0 (toUtf8 topic) payload =
      be16 (utf8Len topic) ++ toUtf8 topic ++ toUtf8 payload := by
  rw [publishBody, length_toUtf8, packetIdentifier, List.nil_append, List.append_assoc]

theorem appends_publish {cap : ℕ} {topic : Str} (htopic : utf8Len topic ≤ 65535) (payload : Str) :
    Bounded.Appends (fun body : HVec UInt8 cap => (encodeMqttUtf8 body topic).bind fun body =>
      body.extend (toUtf8 payload)) (publishBody .atMostOnce 0 (toUtf8 topic) payload) :=
  ((appends_encodeMqttUtf8 topic htopic).bind (Bounded.appends_extend (toUtf8 payload))).congr
    (publishBody_atMostOnce topic payload).symm

theorem buildMqttPublishPacket_eq (topic payload : Str) (retain : Bool) :
    buildMqttPublishPacket topic payload retain =
      ((encodeMqttUtf8 Bounded.empty topic).bind fun body => body.extend (toUtf8 payload)).bind
        (assembleMqttPacket (publishFirstByte .atMostOnce false retain)) := by
  have hkind : publishFirstByte .atMostOnce false retain = if retain then 0x31 else 0x30 := by
    cases retain <;> rfl
  rw [buildMqttPublishPacket, Option.bind_eq_bind, hkind, Option.bind_assoc]

/-- A packet that is built is one that is delivered at most once. -/
theorem items_buildMqttPublishPacket {topic payload : Str} {retain : Bool} {packet : HVec UInt8 768}
    (h : buildMqttPublishPacket topic payload retain = some packet) :
    utf8Len topic ≤ 65535 ∧
      packet.items = publishPacket .atMostOnce false retain 0 (toUtf8 topic) payload := by
  rw [buildMqttPublishPacket_eq] at h
  obtain ⟨body, hbody, hpacket⟩ := Option.bind_eq_some_iff.1 h
  have htopic : utf8Len topic ≤ 65535 := by
    obtain ⟨_, hencoded, -⟩ := Option.bind_eq_some_iff.1 hbody
    exact utf8Len_le_of_encodeMqttUtf8 hencoded
  have hitems : body.items = publishBody .atMostOnce 0 (toUtf8 topic) payload :=
    (appends_publish htopic payload).items_of_empty hbody
  refine ⟨htopic, ?_⟩
  rw [items_assembleMqttPacket hpacket, hitems]
  rfl

theorem length_publishBody (topic payload : Str) :
    (publishBody .atMostOnce 0 (toUtf8 topic) payload).length =
      2 + utf8Len topic + utf8Len payload := by
  rw [publishBody_atMostOnce, List.length_append, List.length_append, length_toUtf8, length_toUtf8]
  rfl

/-- Header, topic and payload of a packet, in bytes. -/
def publishSize (topic payload : Str) : ℕ :=
  let remaining := 2 + utf8Len topic + utf8Len payload
  1 + (remainingLengthBytes remaining 5).length + remaining

theorem length_publishPacket (retain : Bool) (topic payload : Str) :
    (publishPacket .atMostOnce false retain 0 (toUtf8 topic) payload).length =
      publishSize topic payload := by
  rw [publishPacket, List.length_cons, List.length_append, length_publishBody, publishSize]
  omega

theorem isSome_buildMqttPublishPacket_iff (topic payload : Str) (retain : Bool) :
    (buildMqttPublishPacket topic payload retain).isSome ↔ publishSize topic payload ≤ 768 := by
  constructor
  · intro h
    obtain ⟨packet, hpacket⟩ := Option.isSome_iff_exists.1 h
    have hle := packet.length_le
    rwa [(items_buildMqttPublishPacket hpacket).2, length_publishPacket] at hle
  · intro h
    have hremaining : 2 + utf8Len topic + utf8Len payload ≤ 768 := by
      rw [publishSize] at h
      omega
    have htopic : utf8Len topic ≤ 65535 := by omega
    have happ : Bounded.Appends (fun body : HVec UInt8 768 => (encodeMqttUtf8 body topic).bind _) _ :=
      appends_publish htopic payload
    have hbody : ((encodeMqttUtf8 Bounded.empty topic).bind fun body : HVec UInt8 768 =>
        body.extend (toUtf8 payload)).isSome := by
      refine happ.isSome_iff.2 ?_
      rwa [weight_one, length_publishBody]
    obtain ⟨body, hbody⟩ := Option.isSome_iff_exists.1 hbody
    have hitems : body.items.length = 2 + utf8Len topic + utf8Len payload := by
      rw [happ.items_of_empty hbody, length_publishBody]
    rw [buildMqttPublishPacket_eq, hbody, Option.bind_some]
    refine (appends_assembleMqttPacket _ body).isSome_iff.2 ?_
    rw [weight_one, List.length_append, List.length_append, List.length_singleton, hitems]
    rw [publishSize] at h
    omega

/-! ## Accesses -/

/-- `mqtt_publish_payload` with its index expressions; the outer `none` is an access outside the
packet. -/
def Access.mqttPublishPayload (packet : List UInt8) : Option (Option Str) :=
  if packet.isEmpty then some none
  else do
    let first : UInt8 ← packet[0]?
    if first >>> 4 ≠ 0x03 then
      return none
    match publishHeaderLength 1 1 (packet.drop 1) with
    | none => return none
    | some headerLen =>
      -- `packet.get(header_len..header_len + 2)`
      if packet.length < headerLen + 2 then
        return none
      let topicLenBytes := (packet.drop headerLen).take 2
      let high : UInt8 ← topicLenBytes[0]?
      let low : UInt8 ← topicLenBytes[1]?
      let topicLen := high.toNat * 256 + low.toNat
      let first : UInt8 ← packet[0]?
      let qos := (first >>> 1) &&& 0x03
      let payloadOffset := headerLen + 2 + topicLen + if qos > 0 then 2 else 0
      if payloadOffset ≤ packet.length then
        return fromUtf8 (packet.drop payloadOffset)
      return none

/-- No access is outside the packet. -/
theorem Access.mqttPublishPayload_eq (packet : List UInt8) :
    Access.mqttPublishPayload packet = some (Mqtt.mqttPublishPayload packet) := by
  cases packet with
  | nil => rfl
  | cons first rest =>
    have hempty : (first :: rest).isEmpty = false := rfl
    rw [Access.mqttPublishPayload, Mqtt.mqttPublishPayload, hempty, if_neg Bool.false_ne_true]
    simp only [List.getElem?_cons_zero, Option.bind_eq_bind, Option.bind_some, List.drop_succ_cons,
      List.drop_zero]
    by_cases htype : first >>> 4 ≠ 0x03
    · rw [if_pos htype, if_pos htype]
      rfl
    · rw [if_neg htype, if_neg htype]
      cases publishHeaderLength 1 1 rest with
      | none => rfl
      | some headerLen =>
        dsimp only
        rw [Option.bind_some]
        by_cases hshort : (first :: rest).length < headerLen + 2
        · -- the second byte of the topic length is missing
          have hlow : (first :: rest)[headerLen + 1]? = none := List.getElem?_eq_none (by omega)
          rw [if_pos hshort, hlow]
          cases (first :: rest)[headerLen]? <;> rfl
        · have hhigh : (first :: rest)[headerLen]? = some (first :: rest)[headerLen] :=
            List.getElem?_eq_getElem _
          have hlow : (first :: rest)[headerLen + 1]? = some (first :: rest)[headerLen + 1] :=
            List.getElem?_eq_getElem _
          have hget (i : ℕ) (hi : i < 2) :
              (((first :: rest).drop headerLen).take 2)[i]? = (first :: rest)[headerLen + i]? := by
            rw [List.getElem?_take_of_lt hi, List.getElem?_drop]
          rw [if_neg hshort, hget 0 (by decide), hget 1 (by decide), Nat.add_zero, hhigh, hlow]
          simp only [Option.bind_some]
          split_ifs <;> rfl

/-- The payload of every PUBLISH packet is read, in particular of the packets that the firmware
builds, which are those that fit its buffer; and no byte outside of any packet is looked at. -/
theorem publish_codec :
    (∀ (qos : QoS) (dup retain : Bool) (packetId : UInt16) (topic : List UInt8) (payload : Str),
      topic.length ≤ 65535 → (publishBody qos packetId topic payload).length < 128 ^ 4 →
        mqttPublishPayload (publishPacket qos dup retain packetId topic payload) = some payload) ∧
    (∀ (topic payload : Str) (retain : Bool),
      (∀ packet, buildMqttPublishPacket topic payload retain = some packet →
        mqttPublishPayload packet.items = some payload) ∧
      ((buildMqttPublishPacket topic payload retain).isSome ↔ publishSize topic payload ≤ 768)) ∧
    ∀ packet, Access.mqttPublishPayload packet = some (mqttPublishPayload packet) := by
  refine ⟨fun qos dup retain packetId topic payload htopic hsize =>
    mqttPublishPayload_publishPacket qos dup retain packetId htopic hsize, ?_,
    Access.mqttPublishPayload_eq⟩
  intro topic payload retain
  refine ⟨fun packet h => ?_, isSome_buildMqttPublishPacket_iff topic payload retain⟩
  obtain ⟨htopic, hitems⟩ := items_buildMqttPublishPacket h
  have hsize : publishSize topic payload ≤ 768 := by
    rw [← isSome_buildMqttPublishPacket_iff topic payload retain, h]
    rfl
  rw [hitems]
  refine mqttPublishPayload_publishPacket .atMostOnce false retain 0 ?_ ?_
  · rwa [length_toUtf8]
  · rw [publishSize] at hsize
    rw [length_publishBody]
    omega

end EspWaveRider.Mqtt
