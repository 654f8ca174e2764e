import EspWaveRider.Lib.Json

/-!
# MQTT payloads

`rust/crates/espwaverider-core/src/mqtt.rs`: the payload of a PUBLISH packet and
the test whether it is a room summary.

* `jsonStringField_eq_some_iff` — which texts have a string field;
* `mqttPublishPayload` — the payload behind header, topic and packet identifier;
* `mqttRoomSummaryPayloadFromPublish` — the room summary a packet carries.
-/

namespace EspWaveRider.Mqtt

open Text

/-! ## A string field of a JSON text -/

/-- The characters before the first quote that is not escaped. -/
def untilQuote (escaped : Bool) : Str → Option Str
  | [] => none
  | c :: rest =>
    if escaped then (untilQuote false rest).map (c :: ·)
    else if c = '\\' then (untilQuote true rest).map (c :: ·)
    else if c = '"' then some []
    else (untilQuote false rest).map (c :: ·)

/-- The raw text of the first string field of this name. -/
def jsonStringField (payload field : Str) : Option Str := do
  let pattern : Str := '"' :: field ++ ['"']
  let fieldStart ← find? pattern payload
  let remainder := trimStart (payload.drop (fieldStart + pattern.length))
  let remainder ← stripPrefix [':'] remainder
  let remainder ← stripPrefix ['"'] (trimStart remainder)
  untilQuote false remainder

/-- The first quoted `field` in the text is the name of a member with this string
value, written as it stands; there may be white space around the colon. -/
def FirstStringMember (payload field value : Str) : Prop :=
  closedFrom false value ∧ ∃ space space' rest, space.all isWhitespace ∧ space'.all isWhitespace ∧
    Behind ('"' :: field ++ ['"']) payload
      (space ++ ':' :: (space' ++ '"' :: (value ++ '"' :: rest)))

theorem closed_cons_iff {escaped : Bool} {c : Char} {s value : Str} :
    (closedFrom escaped value ∧ ∃ rest, c :: s = value ++ '"' :: rest) ↔
      (value = [] ∧ escaped = false ∧ c = '"') ∨ ∃ value', value = c :: value' ∧
        closedFrom escaped (c :: value') ∧ ∃ rest, s = value' ++ '"' :: rest := by
  cases value with
  | nil => simp [closedFrom]
  | cons d value =>
    constructor
    · rintro ⟨hclosed, rest, h⟩
      obtain ⟨rfl, rfl⟩ := List.cons.inj h
      exact Or.inr ⟨value, rfl, hclosed, rest, rfl⟩
    · rintro (⟨h, _⟩ | ⟨value', h, hclosed, rest, rfl⟩)
      · cases h
      · cases h
        exact ⟨hclosed, rest, rfl⟩

theorem untilQuote_eq_some_iff {escaped : Bool} {s value : Str} :
    untilQuote escaped s = some value ↔
      closedFrom escaped value ∧ ∃ rest, s = value ++ '"' :: rest := by
  induction s generalizing escaped value with
  | nil => simp [untilQuote]
  | cons c s ih =>
    have hstep (next : Bool) : (untilQuote next s).map (c :: ·) = some value ↔
        ∃ value', value = c :: value' ∧ closedFrom next value' ∧
          ∃ rest, s = value' ++ '"' :: rest := by
      rw [Option.map_eq_some_iff]
      constructor
      · rintro ⟨value', h, rfl⟩
        exact ⟨value', rfl, ih.1 h⟩
      · rintro ⟨value', rfl, h⟩
        exact ⟨value', ih.2 h, rfl⟩
    rw [untilQuote, closed_cons_iff]
    split_ifs with hescaped hbackslash hquote
    · rw [hstep]
      simp [closedFrom, hescaped]
    · rw [hstep]
      simp [closedFrom, hescaped, hbackslash]
    · simp [closedFrom, hescaped, hquote, eq_comm]
    · rw [hstep]
      simp [closedFrom, hescaped, hbackslash, hquote]

theorem trimStart_eq_cons_iff {s rest : Str} {c : Char} (hc : isWhitespace c = false) :
    trimStart s = c :: rest ↔ ∃ space, space.all isWhitespace ∧ s = space ++ c :: rest := by
  constructor
  · intro h
    refine ⟨s.takeWhile isWhitespace, List.all_takeWhile, ?_⟩
    rw [← h]
    exact (List.takeWhile_append_dropWhile).symm
  · rintro ⟨space, hspace, rfl⟩
    rw [trimStart, List.dropWhile_append_of_pos fun d hd => List.all_eq_true.1 hspace d hd,
      List.dropWhile_cons_of_neg (by simp [hc])]

theorem stripPrefix_singleton_eq_some_iff {c : Char} {s rest : Str} :
    stripPrefix [c] s = some rest ↔ s = c :: rest := by
  cases s with
  | nil => simp [stripPrefix]
  | cons d s =>
    by_cases hd : c = d
    · simp [stripPrefix, hd]
    · simp [stripPrefix, hd, Ne.symm hd]

theorem jsonStringField_eq_some_iff {payload field value : Str} :
    jsonStringField payload field = some value ↔ FirstStringMember payload field value := by
  have hpattern : '"' :: field ++ ['"'] ≠ [] := List.cons_ne_nil _ _
  have hfind : jsonStringField payload field = (do
      let remainder ← after? ('"' :: field ++ ['"']) payload
      let remainder ← stripPrefix [':'] (trimStart remainder)
      let remainder ← stripPrefix ['"'] (trimStart remainder)
      untilQuote false remainder) := by
    rw [jsonStringField, after?]
    cases find? ('"' :: field ++ ['"']) payload <;> rfl
  rw [hfind]
  simp only [Option.bind_eq_bind, Option.bind_eq_some_iff, after?_eq_some_iff hpattern,
    stripPrefix_singleton_eq_some_iff, trimStart_eq_cons_iff (show isWhitespace ':' = false by decide),
    trimStart_eq_cons_iff (show isWhitespace '"' = false by decide), untilQuote_eq_some_iff]
  constructor
  · rintro ⟨_, hbehind, _, ⟨space, hspace, rfl⟩, _, ⟨space', hspace', rfl⟩, hclosed, rest, rfl⟩
    exact ⟨hclosed, space, space', rest, hspace, hspace', hbehind⟩
  · rintro ⟨hclosed, space, space', rest, hspace, hspace', hbehind⟩
    exact ⟨_, hbehind, _, ⟨space, hspace, rfl⟩, _, ⟨space', hspace', rfl⟩, hclosed, rest, rfl⟩

/-- A member without white space around its colon. -/
theorem jsonStringField_of_after? {payload field value rest : Str} (hvalue : closedFrom false value)
    (h : after? ('"' :: field ++ ['"']) payload = some (':' :: '"' :: (value ++ '"' :: rest))) :
    jsonStringField payload field = some value := by
  rw [jsonStringField_eq_some_iff]
  exact ⟨hvalue, [], [], rest, rfl, rfl, (after?_eq_some_iff (List.cons_ne_nil _ _)).1 h⟩

def looksLikeRoomSummaryPayload (payload : Str) : Bool :=
  match jsonStringField payload "kind" with
  | some kind => kind = "lb_room_summary" ∧ (jsonStringField payload "node_id").isSome
  | none => (jsonStringField payload "node_id").isSome

/-! ## PUBLISH packets -/

/-- Length of the fixed header: one byte and the remaining-length bytes. -/
def publishHeaderLength (multiplier headerLen : ℕ) : List UInt8 → Option ℕ
  | [] => none
  | encoded :: rest =>
    if encoded &&& 0x80 = 0 then some (headerLen + 1)
    else if multiplier * 128 > 128 * 128 * 128 then none
    else publishHeaderLength (multiplier * 128) (headerLen + 1) rest

def mqttPublishPayload (packet : List UInt8) : Option Str :=
  match packet with
  | [] => none
  | first :: rest =>
    if first >>> 4 ≠ 0x03 then none
    else do
      let headerLen ← publishHeaderLength 1 1 rest
      let high : UInt8 ← packet[headerLen]?
      let low : UInt8 ← packet[headerLen + 1]?
      let topicLen := high.toNat * 256 + low.toNat
      let qos := (first >>> 1) &&& 0x03
      let payloadOffset := headerLen + 2 + topicLen + if qos > 0 then 2 else 0
      if payloadOffset ≤ packet.length then fromUtf8 (packet.drop payloadOffset) else none

def mqttRoomSummaryPayloadFromPublish (packet : List UInt8) : Option Str :=
  (mqttPublishPayload packet).filter looksLikeRoomSummaryPayload

example : looksLikeRoomSummaryPayload "\x7b\"node_id\": \"a\",\"room_id\":\"den\"\x7d" := by decide
example : ¬ looksLikeRoomSummaryPayload "\x7b\"kind\":\"lb_udp_discovery\",\"node_id\":\"a\"\x7d" := by decide

end EspWaveRider.Mqtt
