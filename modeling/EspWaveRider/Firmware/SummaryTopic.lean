import EspWaveRider.Firmware.MqttConnect
import EspWaveRider.Lib.Topic

/-!
# The topic of the room summary

Where a node publishes its room summary and what the nodes of its room subscribe to
(`rust/firmware/esp32s3/src/main.rs`).

* `decodeSubscribe_buildMqttSubscribePacket` — the filter a broker reads off SUBSCRIBE;
* `topicsAgree_iff` — the topic is the intended one and reaches the other nodes
  exactly when it fits its buffer, the node id is one level and the subscriber's copy
  of the room id names the same room.
-/

namespace EspWaveRider.Firmware

open Text Topic Mqtt311

/-! ## Texts -/

/-- The room as it appears in topics. -/
def topicRoom (roomId : Str) : Str := sanitizeHostname (if roomId = [] then defaultRoomId else roomId)

/-- `<prefix>/rooms/<room>/nodes`. -/
def roomNodes (room : Str) : Str := defaultTopicPrefix ++ ("/rooms/" : Str) ++ room ++ ("/nodes" : Str)

/-- The topic of the summary of a node. -/
def summaryTopic (roomId nodeId : Str) : Str :=
  roomNodes (topicRoom roomId) ++ '/' :: (nodeId ++ '/' :: ("summary" : Str))

/-- The filter for the summaries of a room. -/
def summaryFilter (roomId : Str) : Str :=
  roomNodes (topicRoom roomId) ++ '/' :: '+' :: '/' :: ("summary" : Str)

theorem notMem_topicRoom {c : Char} (hc : isHostnameChar c = false) (roomId : Str) :
    c ∉ topicRoom roomId := by
  intro h
  rw [forall_sanitizeHostname _ c h] at hc
  cases hc

theorem notMem_roomNodes {c : Char} (hc : isHostnameChar c = false)
    (hfixed : c ∉ defaultTopicPrefix ++ ("/rooms/" : Str) ++ ("/nodes" : Str)) (roomId : Str) :
    c ∉ roomNodes (topicRoom roomId) := by
  have hroom := notMem_topicRoom hc roomId
  simp only [roomNodes, List.mem_append, not_or] at hfixed hroom ⊢
  exact ⟨⟨hfixed.1, hroom⟩, hfixed.2⟩

theorem roomNodes_inj {roomId roomId' rest rest' : Str} :
    roomNodes (topicRoom roomId) ++ '/' :: rest = roomNodes (topicRoom roomId') ++ '/' :: rest' ↔
      topicRoom roomId = topicRoom roomId' ∧ rest = rest' := by
  have hsplit (room rest : Str) : roomNodes room ++ '/' :: rest =
      (defaultTopicPrefix ++ ("/rooms/" : Str)) ++
        (room ++ '/' :: (("nodes" : Str) ++ '/' :: rest)) := by
    have hnodes : ("/nodes" : Str) = '/' :: ("nodes" : Str) := rfl
    simp only [roomNodes, hnodes, List.append_assoc, List.cons_append]
  rw [hsplit, hsplit, List.append_cancel_left_eq,
    append_slash_inj (notMem_topicRoom (by decide) _) (notMem_topicRoom (by decide) _),
    append_slash_inj (by decide) (by decide)]
  simp only [true_and]

/-- Whose summaries a room's filter selects. -/
theorem filterMatches_summaryFilter_iff (roomId roomId' nodeId : Str) :
    filterMatches (summaryFilter roomId) (summaryTopic roomId' nodeId) ↔
      topicRoom roomId' = topicRoom roomId ∧ '/' ∉ nodeId := by
  have hpre : '+' ∉ roomNodes (topicRoom roomId) := notMem_roomNodes (by decide) (by decide) _
  rw [summaryFilter, filterMatches_plus_iff hpre (by decide)]
  simp only [summaryTopic, roomNodes_inj]
  constructor
  · rintro ⟨name, hname, hroom, htopic⟩
    obtain rfl := List.append_cancel_right htopic
    exact ⟨hroom, hname⟩
  · rintro ⟨hroom, hname⟩
    exact ⟨nodeId, hname, hroom, rfl⟩

theorem isTopicName_summaryTopic_iff (roomId nodeId : Str) :
    IsTopicName (summaryTopic roomId nodeId) ↔
      '+' ∉ nodeId ∧ '#' ∉ nodeId ∧ Char.ofNat 0 ∉ nodeId := by
  have hroot : IsTopicName (roomNodes (topicRoom roomId)) :=
    ⟨List.append_ne_nil_of_right_ne_nil _ (by decide), notMem_roomNodes (by decide) (by decide) _,
      notMem_roomNodes (by decide) (by decide) _, notMem_roomNodes (by decide) (by decide) _⟩
  rw [summaryTopic, isTopicName_append_iff hroot]
  simp

/-! ## The two sides -/

/-- The topic that is published is the intended one exactly when that fits. -/
theorem topic_buildRoomSummaryPublishMessage_iff (s : FirmwareState) (payload : HString 384) :
    (buildRoomSummaryPublishMessage s payload).topic.items = summaryTopic s.roomId s.nodeId ↔
      utf8Len (summaryTopic s.roomId s.nodeId) ≤ 128 := by
  have hpieces : summaryTopic s.roomId s.nodeId =
      [defaultTopicPrefix, ("/rooms/" : Str), topicRoom s.roomId, ("/nodes/" : Str), s.nodeId,
        ("/summary" : Str)].flatten := by
    have hnodes : ("/nodes/" : Str) = ("/nodes" : Str) ++ ['/'] := rfl
    have hsummary : ("/summary" : Str) = '/' :: ("summary" : Str) := rfl
    simp only [summaryTopic, roomNodes, hnodes, hsummary, List.flatten_cons, List.flatten_nil,
      List.append_nil, List.append_assoc, List.cons_append, List.nil_append]
  constructor
  · intro h
    rw [← h]
    exact (buildRoomSummaryPublishMessage s payload).topic.utf8Len_le
  · intro h
    have hfits : weight Char.utf8Size (Bounded.empty : HString 128).items +
        weight Char.utf8Size [defaultTopicPrefix, ("/rooms/" : Str), topicRoom s.roomId,
          ("/nodes/" : Str), s.nodeId, ("/summary" : Str)].flatten ≤ 128 := by
      rw [← hpieces, weight_utf8Size, weight_utf8Size]
      exact (Nat.zero_add _).trans_le h
    rw [hpieces]
    exact Bounded.items_foldl_extendOrKeep _ hfits

/-- The packet exists and asks for the summaries of the room the copy names. -/
theorem decodeSubscribe_buildMqttSubscribePacket (config : MqttTaskConfig) :
    ∃ packet, buildMqttSubscribePacket config = some packet ∧
      decodeSubscribe packet.items = some (1, [(toUtf8 (summaryFilter config.roomId.items), 0)]) := by
  obtain ⟨packet, hpacket⟩ := Option.isSome_iff_exists.1 (buildMqttSubscribePacket_isSome config)
  obtain ⟨topic, htopic, hpacket'⟩ := Option.bind_eq_some_iff.1 hpacket
  obtain ⟨body, hbody, hassemble⟩ := Option.bind_eq_some_iff.1 hpacket'
  have happTopic : Bounded.Appends (subscribeTopic config.roomId.items) _ :=
    (Bounded.appends_extend _).bind
      ((Bounded.appends_extend _).bind
        ((Bounded.appends_extend _).bind (Bounded.appends_extend _)))
  have hfilter : topic.items = summaryFilter config.roomId.items := by
    rw [happTopic.items_of_empty htopic]
    have hnodes : ("/nodes/+/summary" : Str) =
        ("/nodes" : Str) ++ '/' :: '+' :: '/' :: ("summary" : Str) := rfl
    simp only [summaryFilter, roomNodes, topicRoom, hnodes, List.append_assoc]
  have hlen := topic.utf8Len_le
  have happ : Bounded.Appends (subscribeVariableAndPayload topic.items) _ :=
    (Bounded.appends_extend _).bind
      ((appends_encodeMqttUtf8 topic.items (by omega)).bind (Bounded.appends_push _))
  have hitems : body.items = 0 :: 1 :: (field (toUtf8 (summaryFilter config.roomId.items)) ++ [0]) := by
    rw [happ.items_of_empty hbody, ← field_toUtf8, hfilter]
    rfl
  have hsize : body.items.length < 128 ^ 4 := lt_of_le_of_lt body.length_le (by decide)
  obtain ⟨hfield, hvalue⟩ := isLengthField_remainingLengthBytes hsize
  refine ⟨packet, hpacket, ?_⟩
  rw [items_assembleMqttPacket hassemble]
  rw [hitems] at hfield hvalue ⊢
  refine decodeSubscribe_one hfield hvalue ?_
  rw [length_toUtf8, ← hfilter]
  omega

/-! ## The contract -/

/-- The summary of `A` is published under its intended topic, and that is a topic name
the filter selects that `B` subscribes to. -/
def TopicsAgree (A B : FirmwareState) (payload : HString 384) : Prop :=
  let topic := (buildRoomSummaryPublishMessage A payload).topic.items
  ∃ packet filter qos, buildMqttSubscribePacket B.mqttTaskConfig = some packet ∧
    decodeSubscribe packet.items = some (mqttPacketIdSubscribe, [(toUtf8 filter, qos)]) ∧
    topic = summaryTopic A.roomId A.nodeId ∧ IsTopicName topic ∧ filterMatches filter topic

theorem topicsAgree_iff_copy (A B : FirmwareState) (payload : HString 384) :
    TopicsAgree A B payload ↔ utf8Len (summaryTopic A.roomId A.nodeId) ≤ 128 ∧
      ('+' ∉ A.nodeId ∧ '#' ∉ A.nodeId ∧ Char.ofNat 0 ∉ A.nodeId) ∧
      topicRoom A.roomId = topicRoom B.mqttTaskConfig.roomId.items ∧ '/' ∉ A.nodeId := by
  rw [← topic_buildRoomSummaryPublishMessage_iff A payload,
    ← isTopicName_summaryTopic_iff A.roomId, ← filterMatches_summaryFilter_iff]
  obtain ⟨packet, hpacket, hsubscribe⟩ := decodeSubscribe_buildMqttSubscribePacket B.mqttTaskConfig
  constructor
  · rintro ⟨packet', filter, qos, hpacket', hsubscribe', htopic, hname, hmatches⟩
    obtain rfl := Option.some.inj (hpacket.symm.trans hpacket')
    rw [hsubscribe, Option.some.injEq, Prod.mk.injEq] at hsubscribe'
    obtain ⟨hfilter, _⟩ := Prod.mk.inj (List.head_eq_of_cons_eq hsubscribe'.2)
    rw [toUtf8_injective hfilter]
    rw [htopic] at hname hmatches
    exact ⟨htopic, hname, hmatches⟩
  · rintro ⟨htopic, hname, hmatches⟩
    refine ⟨packet, _, 0, hpacket, hsubscribe, htopic, ?_, ?_⟩
    · rwa [htopic]
    · rwa [htopic]

/-- The copy names the room of the text when that fits, and the default room when it
does not. -/
theorem topicRoom_heaplessString (cap : ℕ) (roomId : Str) :
    topicRoom roomId = topicRoom (heaplessString roomId : HString cap).items ↔
      utf8Len roomId ≤ cap ∨ topicRoom roomId = topicRoom defaultRoomId := by
  rw [items_heaplessString]
  by_cases h : utf8Len roomId ≤ cap
  · rw [if_pos h]
    exact iff_of_true rfl (Or.inl h)
  · rw [if_neg h]
    exact ⟨Or.inr, fun hdefault => hdefault.resolve_left h⟩

/-- In one room a summary is published where the others subscribe exactly when its topic
has at most 128 bytes, the node id is one level without wildcards, and the room id has at
most 64 bytes or names the default room. -/
theorem topicsAgree_iff {A B : FirmwareState} (hroom : A.roomId = B.roomId)
    (payload : HString 384) :
    TopicsAgree A B payload ↔
      utf8Len (topicRoom A.roomId) + utf8Len A.nodeId ≤ 97 ∧
      ('+' ∉ A.nodeId ∧ '#' ∉ A.nodeId ∧ Char.ofNat 0 ∉ A.nodeId) ∧
      (utf8Len A.roomId ≤ 64 ∨ topicRoom A.roomId = topicRoom defaultRoomId) ∧
      '/' ∉ A.nodeId := by
  have hlength : utf8Len (summaryTopic A.roomId A.nodeId) =
      utf8Len (topicRoom A.roomId) + utf8Len A.nodeId + 31 := by
    have hfixed : utf8Len defaultTopicPrefix = 9 ∧ utf8Len "/rooms/" = 7 ∧ utf8Len "/nodes" = 6 ∧
        utf8Len "summary" = 7 ∧ Char.utf8Size '/' = 1 := by decide
    obtain ⟨hprefixed, hrooms, hnodes, hsummary, hslash⟩ := hfixed
    simp only [summaryTopic, roomNodes, utf8Len_append, utf8Len_cons]
    omega
  have hcopy : topicRoom A.roomId = topicRoom B.mqttTaskConfig.roomId.items ↔
      utf8Len A.roomId ≤ 64 ∨ topicRoom A.roomId = topicRoom defaultRoomId := by
    rw [← topicRoom_heaplessString, hroom]
    rfl
  rw [topicsAgree_iff_copy, hlength, hcopy, ← Nat.le_sub_iff_add_le (by decide)]

/-- Two nodes of the living room. -/
theorem topicsAgree_in_living_room :
    ∃ A B : FirmwareState, A.nodeId ≠ B.nodeId ∧ TopicsAgree A B Bounded.empty := by
  have hagree := (topicsAgree_iff (A := { nodeId := "sofa", roomId := "Living Room" })
    (B := { nodeId := "door", roomId := "Living Room" }) rfl Bounded.empty).2
    (by decide +kernel)
  exact ⟨_, _, by decide, hagree⟩

/-- A slash in the node id takes the summary to a topic nobody subscribes to; a room id
of 65 bytes makes the node subscribe to the default room. -/
theorem summary_not_delivered :
    (∃ s, nodeMachine.Reach IsConfiguration s ∧ s.nodeId = ("den/a" : Str) ∧
      ¬ TopicsAgree s s Bounded.empty) ∧
    ∃ s, nodeMachine.Reach IsConfiguration s ∧ utf8Len s.roomId = 65 ∧
      ¬ TopicsAgree s s Bounded.empty := by
  have hslash := reach_configuredNode ⟨"ha_config:net|secret|10.0.0.2|1883|||den/a|", by decide⟩
  have hlong := reach_configuredNode
    ⟨("ha_room_config:" : Str) ++ List.replicate 65 'a' ++ ("|auto|0|0|0|600|400" : Str), by decide⟩
  refine ⟨⟨_, hslash, by decide +kernel, ?_⟩, ⟨_, hlong, by decide +kernel, ?_⟩⟩
  · rw [topicsAgree_iff_copy]
    rintro ⟨_, _, _, hnode⟩
    exact absurd hnode (by decide +kernel)
  · rw [topicsAgree_iff_copy]
    rintro ⟨_, _, hroom, _⟩
    exact absurd hroom (by decide +kernel)

end EspWaveRider.Firmware
