import EspWaveRider.Cpp.BleTags
import EspWaveRider.Cpp.MqttSession
import EspWaveRider.Cpp.RadarUart
import EspWaveRider.Lib.Suffixes

/-!
# The unique ids of the discovery messages

Of `publishHomeAssistantDiscovery` the gates and the tags, whose ids are written into buffers.
Buffers count bytes, so texts have one character for each byte here.

* `unescaped_jsonEscape`, `jsonEscape_eq_iff` — what of a node id is in its ids;
* `injective_uniqueId_iff` — the entities of one node;
* `uniqueIds_iff` — the entities of two nodes.
-/

namespace EspWaveRider.Cpp

open Text

/-- The entities whose ids are written into buffers. -/
inductive DiscoveryEntity where
  | gateEnergy (gateIndex : Fin ld2420GateCount)
  | bleTagTracker (tagIndex : Fin maxBleTags)
  | bleTagRssi (tagIndex : Fin maxBleTags)
  deriving DecidableEq

namespace DiscoveryEntity

/-- `%02u`. -/
def twoDigits (n : ℕ) : Str := if n < 10 then '0' :: decimal n else decimal n

/-- The object id of the entity, behind an underscore. -/
def suffix : DiscoveryEntity → Str
  | gateEnergy gateIndex => ("_gate_" : Str) ++ twoDigits gateIndex ++ ("_energy" : Str)
  | bleTagTracker tagIndex => ("_ble_tag_" : Str) ++ twoDigits tagIndex ++ ("_tracker" : Str)
  | bleTagRssi tagIndex => ("_ble_tag_" : Str) ++ twoDigits tagIndex ++ ("_rssi" : Str)

/-- The size of the buffer for the id. -/
def bufferSize : DiscoveryEntity → ℕ
  | gateEnergy _ => 40
  | bleTagTracker _ => 48
  | bleTagRssi _ => 48

end DiscoveryEntity

/-- The text in a buffer of this size, which ends in a zero. -/
def snprintf (size : ℕ) (text : Str) : Str := text.take (size - 1)

def uniqueId (c : RuntimeHomeAssistantConfig) (entity : DiscoveryEntity) : Str :=
  let escapedDeviceId := jsonEscape c.nodeId
  snprintf entity.bufferSize (escapedDeviceId ++ entity.suffix)

example : uniqueId { nodeId := "den" } (.gateEnergy ⟨3, by decide⟩) = ("den_gate_03_energy" : Str) := by
  decide

/-- The ids of a node are distinct, and none of them is an id of another node. -/
def UniqueIds (c d : RuntimeHomeAssistantConfig) : Prop :=
  (uniqueId c).Injective ∧ (uniqueId d).Injective ∧
    (c.nodeId ≠ d.nodeId → ∀ a b, uniqueId c a ≠ uniqueId d b)

/-! ## Escaped node ids -/

/-- The characters with an escape. -/
def escapedChars : Str := ['"', '\\', '\x08', '\x0c', '\n', '\r', '\t']

/-- Control characters that have no escape. -/
def replaced (c : Char) : Char := if c.toNat < 0x20 ∧ c ∉ escapedChars then '?' else c

/-- What a reader of the message makes of an escape. -/
def standardEscape : Char → Char
  | 'b' => '\x08'
  | 'f' => '\x0c'
  | escaped => unescapeChar escaped

def unescaped : Str → Str
  | [] => []
  | '\\' :: escaped :: rest => standardEscape escaped :: unescaped rest
  | c :: rest => c :: unescaped rest

theorem replaced_of_mem {c : Char} (h : c ∈ escapedChars) : replaced c = c :=
  if_neg fun hc => hc.2 h

theorem jsonEscapeChar_of_notMem {c : Char} (h : c ∉ escapedChars) :
    jsonEscapeChar c = [replaced c] := by
  have hne : ∀ e ∈ escapedChars, c ≠ e := fun e he hc => h (hc ▸ he)
  simp only [escapedChars, List.forall_mem_cons] at hne
  obtain ⟨hquote, hbackslash, hb, hf, hn, hr, ht, -⟩ := hne
  rw [jsonEscapeChar, if_neg hquote, if_neg hbackslash, if_neg hb, if_neg hf, if_neg hn,
    if_neg hr, if_neg ht, replaced]
  split_ifs with hcontrol hreplaced hkept
  · rfl
  · exact absurd ⟨hcontrol, h⟩ hreplaced
  · exact absurd hkept.1 hcontrol
  · rfl

theorem exists_escape {c : Char} (h : c ∈ escapedChars) :
    ∃ escaped, jsonEscapeChar c = ['\\', escaped] ∧ standardEscape escaped = c := by
  simp only [escapedChars, List.mem_cons, List.not_mem_nil, or_false] at h
  rcases h with rfl | rfl | rfl | rfl | rfl | rfl | rfl
  · exact ⟨'"', rfl, rfl⟩
  · exact ⟨'\\', rfl, rfl⟩
  · exact ⟨'b', rfl, rfl⟩
  · exact ⟨'f', rfl, rfl⟩
  · exact ⟨'n', rfl, rfl⟩
  · exact ⟨'r', rfl, rfl⟩
  · exact ⟨'t', rfl, rfl⟩

theorem unescaped_cons {c : Char} (h : c ≠ '\\') (rest : Str) :
    unescaped (c :: rest) = c :: unescaped rest := by
  rw [unescaped]
  intro escaped tail hc
  exact absurd hc h

theorem replaced_ne_backslash {c : Char} (h : c ∉ escapedChars) : replaced c ≠ '\\' := by
  rw [replaced]
  split
  · decide
  · rintro rfl
    exact h (by decide)

theorem unescaped_jsonEscapeChar (c : Char) (rest : Str) :
    unescaped (jsonEscapeChar c ++ rest) = replaced c :: unescaped rest := by
  by_cases h : c ∈ escapedChars
  · obtain ⟨escaped, hescape, hstandard⟩ := exists_escape h
    rw [hescape, replaced_of_mem h]
    change standardEscape escaped :: unescaped rest = c :: unescaped rest
    rw [hstandard]
  · rw [jsonEscapeChar_of_notMem h, List.singleton_append, unescaped_cons (replaced_ne_backslash h)]

theorem unescaped_jsonEscape (value : Str) : unescaped (jsonEscape value) = value.map replaced := by
  induction value with
  | nil => rfl
  | cons c value ih =>
    have hcons : jsonEscape (c :: value) = jsonEscapeChar c ++ jsonEscape value := rfl
    rw [hcons, unescaped_jsonEscapeChar, ih, List.map_cons]

theorem jsonEscapeChar_replaced (c : Char) : jsonEscapeChar (replaced c) = jsonEscapeChar c := by
  by_cases h : c.toNat < 0x20 ∧ c ∉ escapedChars
  · have hmark : replaced c = '?' := if_pos h
    rw [jsonEscapeChar_of_notMem h.2, hmark]
    rfl
  · have hkept : replaced c = c := if_neg h
    rw [hkept]

theorem jsonEscape_map_replaced (value : Str) :
    jsonEscape (value.map replaced) = jsonEscape value := by
  rw [jsonEscape, List.flatMap_map]
  exact congrArg (value.flatMap ·) (funext jsonEscapeChar_replaced)

theorem jsonEscape_eq_iff {n m : Str} :
    jsonEscape n = jsonEscape m ↔ n.map replaced = m.map replaced := by
  constructor
  · intro h
    rw [← unescaped_jsonEscape, h, unescaped_jsonEscape]
  · intro h
    rw [← jsonEscape_map_replaced, h, jsonEscape_map_replaced]

/-- Escapes take two bytes. -/
def escapedLength (value : Str) : ℕ := value.length + value.countP (· ∈ escapedChars)

theorem length_jsonEscape (value : Str) : (jsonEscape value).length = escapedLength value := by
  induction value with
  | nil => rfl
  | cons c value ih =>
    have hcons : jsonEscape (c :: value) = jsonEscapeChar c ++ jsonEscape value := rfl
    rw [hcons, List.length_append, ih, escapedLength, escapedLength, List.length_cons,
      List.countP_cons]
    by_cases h : c ∈ escapedChars
    · obtain ⟨escaped, hescape, -⟩ := exists_escape h
      simp only [hescape, h, List.length_cons, List.length_nil, decide_true, if_true]
      omega
    · simp only [jsonEscapeChar_of_notMem h, h, List.length_cons, List.length_nil, decide_false,
        Bool.false_eq_true, if_false]
      omega

/-! ## One node -/

namespace DiscoveryEntity

/-- As much of the suffix as tells the entity. -/
def telling : DiscoveryEntity → ℕ
  | gateEnergy _ => 8
  | bleTagTracker _ => 13
  | bleTagRssi _ => 13

theorem telling_le (entity : DiscoveryEntity) : 31 + entity.telling ≤ entity.bufferSize - 1 := by
  cases entity <;> simp [telling, bufferSize]

theorem eq_of_take_suffix {a b : DiscoveryEntity}
    (h : a.suffix.take (min a.telling b.telling) = b.suffix.take (min a.telling b.telling)) :
    a = b := by
  revert h
  rcases a with i | i | i <;> rcases b with j | j | j <;> revert i j <;> decide +kernel

end DiscoveryEntity

theorem uniqueId_eq (c : RuntimeHomeAssistantConfig) (entity : DiscoveryEntity) :
    uniqueId c entity = (jsonEscape c.nodeId ++ entity.suffix).take (entity.bufferSize - 1) := rfl

theorem injective_uniqueId {c : RuntimeHomeAssistantConfig} (h : escapedLength c.nodeId ≤ 31) :
    (uniqueId c).Injective := by
  intro a b hab
  rw [uniqueId_eq, uniqueId_eq] at hab
  rw [← length_jsonEscape] at h
  have ha := a.telling_le
  have hb := b.telling_le
  refine DiscoveryEntity.eq_of_take_suffix (Suffixes.take_suffix_eq ?_ ?_ hab)
  · omega
  · omega

/-- The first two gates differ in the eighth character of their suffixes. -/
theorem gates_collide {c : RuntimeHomeAssistantConfig} (h : 31 < escapedLength c.nodeId) :
    uniqueId c (.gateEnergy ⟨0, by decide⟩) = uniqueId c (.gateEnergy ⟨1, by decide⟩) := by
  rw [← length_jsonEscape] at h
  have hcut (s : Str) : s.take (39 - (jsonEscape c.nodeId).length) =
      (s.take 7).take (39 - (jsonEscape c.nodeId).length) := by
    rw [List.take_take, min_eq_left (by omega)]
  rw [uniqueId_eq, uniqueId_eq]
  simp only [DiscoveryEntity.bufferSize, List.take_append]
  rw [hcut, hcut (DiscoveryEntity.suffix _)]
  rfl

theorem injective_uniqueId_iff (c : RuntimeHomeAssistantConfig) :
    (uniqueId c).Injective ↔ escapedLength c.nodeId ≤ 31 := by
  refine ⟨fun hinj => ?_, injective_uniqueId⟩
  by_contra hlong
  have hgates := hinj (gates_collide (not_le.1 hlong))
  exact absurd hgates (by decide)

/-! ## Two nodes -/

namespace DiscoveryEntity

/-- The mark that tells gates from tags. -/
theorem take_two_suffix (entity : DiscoveryEntity) :
    entity.suffix.take 2 = ("_g" : Str) ∨ entity.suffix.take 2 = ("_b" : Str) := by
  cases entity with
  | gateEnergy gateIndex => exact Or.inl rfl
  | bleTagTracker tagIndex => exact Or.inr rfl
  | bleTagRssi tagIndex => exact Or.inr rfl

theorem not_mark_infix (entity : DiscoveryEntity) :
    ¬ ("_g" : Str) <:+: entity.suffix.tail ∧ ¬ ("_b" : Str) <:+: entity.suffix.tail := by
  rcases entity with i | i | i <;> revert i <;> decide +kernel

theorem not_take_suffix_infix (a b : DiscoveryEntity) : ¬ a.suffix.take 2 <:+: b.suffix.tail := by
  obtain ⟨hg, hb⟩ := b.not_mark_infix
  rcases a.take_two_suffix with h | h
  · rw [h]
    exact hg
  · rw [h]
    exact hb

theorem two_le_length_suffix (entity : DiscoveryEntity) : 2 ≤ entity.suffix.length := by
  have hlen : (entity.suffix.take 2).length = 2 := by
    rcases entity.take_two_suffix with h | h <;> rw [h] <;> rfl
  rw [List.length_take] at hlen
  omega

theorem two_le_telling (entity : DiscoveryEntity) : 2 ≤ entity.telling := by
  cases entity <;> simp [telling]

end DiscoveryEntity

theorem jsonEscape_eq_of_uniqueId_eq {c d : RuntimeHomeAssistantConfig} {a b : DiscoveryEntity}
    (hc : escapedLength c.nodeId ≤ 31) (hd : escapedLength d.nodeId ≤ 31)
    (h : uniqueId c a = uniqueId d b) : jsonEscape c.nodeId = jsonEscape d.nodeId := by
  rw [← length_jsonEscape] at hc hd
  have ha := a.telling_le
  have hb := b.telling_le
  have ha2 := a.two_le_telling
  have hb2 := b.two_le_telling
  exact Suffixes.eq_of_take_append_eq (by omega) (by omega) a.two_le_length_suffix
    b.two_le_length_suffix (b.not_take_suffix_infix a) (a.not_take_suffix_infix b) h

theorem uniqueId_eq_of_map_replaced {c d : RuntimeHomeAssistantConfig}
    (h : c.nodeId.map replaced = d.nodeId.map replaced) (entity : DiscoveryEntity) :
    uniqueId c entity = uniqueId d entity := by
  rw [uniqueId_eq, uniqueId_eq, jsonEscape_eq_iff.2 h]

/-- The ids are unique as long as both node ids fit in front of the digits of a gate and are still
different with their control characters replaced. -/
theorem uniqueIds_iff (c d : RuntimeHomeAssistantConfig) :
    UniqueIds c d ↔ escapedLength c.nodeId ≤ 31 ∧ escapedLength d.nodeId ≤ 31 ∧
      (c.nodeId ≠ d.nodeId → c.nodeId.map replaced ≠ d.nodeId.map replaced) := by
  rw [UniqueIds, injective_uniqueId_iff, injective_uniqueId_iff]
  refine and_congr_right fun hc => and_congr_right fun hd => forall_congr' fun _ => ?_
  constructor
  · intro hids hsame
    exact hids (.gateEnergy ⟨0, by decide⟩) (.gateEnergy ⟨0, by decide⟩)
      (uniqueId_eq_of_map_replaced hsame _)
  · intro hdiffer a b hab
    exact hdiffer (jsonEscape_eq_iff.1 (jsonEscape_eq_of_uniqueId_eq hc hd hab))

def longIdCommand : Str := "ha_config:wifi|pw|broker|1883|user|pw|living-room-ceiling-sensor-north|"

/-- The node id has 32 characters: the first ten gates have one id. -/
theorem long_id_not_unique :
    (({} : NodeState).handleUsbCommand longIdCommand).runtimeConfig.nodeId =
      ("living-room-ceiling-sensor-north" : Str) ∧
    ¬ UniqueIds (({} : NodeState).handleUsbCommand longIdCommand).runtimeConfig
      { nodeId := "den" } := by
  have hid : (({} : NodeState).handleUsbCommand longIdCommand).runtimeConfig.nodeId =
      ("living-room-ceiling-sensor-north" : Str) := by
    decide +kernel
  refine ⟨hid, fun hids => ?_⟩
  have hgates := hids.1 (gates_collide (by rw [hid]; decide))
  exact absurd hgates (by decide)

end EspWaveRider.Cpp
