import EspWaveRider.Core.Command
import EspWaveRider.Lib.LeadingNumber
import EspWaveRider.Lib.Splitting

/-!
# Command payloads written and read

What the payload parsers of `command.rs` read from the fields a sender writes:
texts as they are, numbers in decimal, switches as `1` and `0`, and nothing for
an absent value.

* `splitFields_joinFields` — joined fields are told apart when none contains `|`;
* `parseU16_decimal`, `parseI16_signedDecimal_eq_ok_iff`, … — the kinds of fields;
* `PayloadCodec` — a payload parser and the values it reads back;
* `deviceCommands_codec` — the command line and the payload parsers.
-/

namespace EspWaveRider.Command

open Text

/-! ## Joined fields -/

/-- The fields with `|` between them. -/
def joinFields {n : ℕ} (fields : Vector Str n) : Str := ['|'].intercalate fields.toList

theorem splitFields_eq_error {n : ℕ} {payload : Str} (h : payload.count '|' + 1 ≠ n) :
    splitFields n payload = .error ⟨"invalid field count"⟩ := by
  have hlen : ¬ (payload.splitOn '|').length = n := by rwa [length_splitOn]
  rw [splitFields, dif_neg hlen]

theorem toList_ne_nil {n : ℕ} (hn : 0 < n) (fields : Vector Str n) : fields.toList ≠ [] := by
  intro hnil
  have hlen := congrArg List.length hnil
  rw [Vector.length_toList] at hlen
  exact hn.ne' hlen

theorem splitFields_joinFields {n : ℕ} (hn : 0 < n) {fields : Vector Str n}
    (h : ∀ field ∈ fields, '|' ∉ field) : splitFields n (joinFields fields) = .ok fields := by
  have hsplit : (joinFields fields).splitOn '|' = fields.toList :=
    List.splitOn_intercalate '|' (fun field hfield => h field (Vector.mem_toList_iff.1 hfield))
      (toList_ne_nil hn fields)
  have hlen : ((joinFields fields).splitOn '|').length = n := by simp [hsplit]
  rw [splitFields, dif_pos hlen]
  congr 1
  exact Vector.toList_inj.1 hsplit

/-- Fields with a separator inside are read as more fields than there are. -/
theorem splitFields_joinFields_eq_error {n : ℕ} (hn : 0 < n) {fields : Vector Str n}
    (h : ¬ ∀ field ∈ fields, '|' ∉ field) :
    splitFields n (joinFields fields) = .error ⟨"invalid field count"⟩ := by
  refine splitFields_eq_error fun hcount => h fun field hfield => ?_
  have hlen : ((joinFields fields).splitOn '|').length = fields.toList.length := by
    rw [length_splitOn, hcount, Vector.length_toList]
  exact (length_splitOn_intercalate_iff '|' (toList_ne_nil hn fields)).1 hlen field
    (Vector.mem_toList_iff.2 hfield)

/-! ## Kinds of fields -/

/-- A switch. -/
def boolToken (value : Bool) : Str := if value then "1" else "0"

/-- A field that is left empty for an absent value. -/
def optionalField {α : Type} (field : α → Str) (value : Option α) : Str := (value.map field).getD []

def portField (port : UInt16) : Str := decimal port.toNat

theorem bar_notMem_of_isNumberChar {field : Str} (h : ∀ c ∈ field, isNumberChar c) :
    '|' ∉ field :=
  fun hmem => absurd (h '|' hmem) (by decide)

@[simp] theorem bar_notMem_decimal (n : ℕ) : '|' ∉ decimal n := by
  refine bar_notMem_of_isNumberChar fun c hc => ?_
  rw [isNumberChar, isAsciiDigit_of_mem_decimal hc, Bool.true_or, Bool.true_or]

@[simp] theorem bar_notMem_signedDecimal (v : ℤ) : '|' ∉ signedDecimal v :=
  bar_notMem_of_isNumberChar fun _ hc => isNumberChar_of_mem_signedDecimal hc

@[simp] theorem bar_notMem_boolToken (value : Bool) : '|' ∉ boolToken value := by
  cases value <;> decide

@[simp] theorem bar_notMem_optionalField {α : Type} {field : α → Str} (h : ∀ a, '|' ∉ field a)
    (value : Option α) : '|' ∉ optionalField field value := by
  cases value with
  | none => exact List.not_mem_nil
  | some a => exact h a

theorem decimal_ne_nil (n : ℕ) : decimal n ≠ [] := Nat.toDigits_ne_nil

theorem signedDecimal_ne_nil (v : ℤ) : signedDecimal v ≠ [] := by
  cases v with
  | ofNat n => exact decimal_ne_nil n
  | negSucc n => exact List.cons_ne_nil _ _

@[simp] theorem parseU8_decimal (v : UInt8) (message : Str) :
    parseU8 (decimal v.toNat) message = .ok v := by
  have hle : v.toNat ≤ 255 := Nat.le_of_lt_succ v.toNat_lt
  rw [parseU8, parseUnsigned_decimal hle, Option.map_some]
  exact congrArg Except.ok (UInt8.ofNat_toNat)

@[simp] theorem parseU16_decimal (v : UInt16) (message : Str) :
    parseU16 (decimal v.toNat) message = .ok v := by
  have hle : v.toNat ≤ 65535 := Nat.le_of_lt_succ v.toNat_lt
  rw [parseU16, parseUnsigned_decimal hle, Option.map_some]
  exact congrArg Except.ok (UInt16.ofNat_toNat)

theorem parseI16_signedDecimal_eq_ok_iff {v w : ℤ} {message : Str} :
    parseI16 (signedDecimal v) message = .ok w ↔ (-32768 ≤ v ∧ v ≤ 32767) ∧ w = v := by
  rw [parseI16, orError_eq_ok_iff, parseSigned_signedDecimal_eq_some_iff]

theorem parseI32_signedDecimal_eq_ok_iff {v w : ℤ} {message : Str} :
    parseI32 (signedDecimal v) message = .ok w ↔ (-2147483648 ≤ v ∧ v ≤ 2147483647) ∧ w = v := by
  rw [parseI32, orError_eq_ok_iff, parseSigned_signedDecimal_eq_some_iff]

theorem parseI32OrDefault_decimal {n : ℕ} (h : n ≤ 2147483647) (default : ℤ) :
    parseI32OrDefault (decimal n) default = .ok (n : ℤ) := by
  rw [parseI32OrDefault, if_neg (decimal_ne_nil n)]
  have hrange : -2147483648 ≤ (n : ℤ) ∧ (n : ℤ) ≤ 2147483647 := by omega
  exact parseI32_signedDecimal_eq_ok_iff.2 ⟨hrange, rfl⟩

/-- The port `0` is read as no port. -/
theorem parseOptionalPort_decimal (port : UInt16) :
    parseOptionalPort (decimal port.toNat) = .ok (if port = 0 then none else some port) := by
  rw [parseOptionalPort, if_neg (decimal_ne_nil _), parseU16_decimal]
  rfl

theorem parsePortOrDefault_decimal (port default : UInt16) :
    parsePortOrDefault (decimal port.toNat) default = .ok (if port = 0 then default else port) := by
  rw [parsePortOrDefault, parseOptionalPort_decimal]
  show Except.ok ((if port = 0 then none else some port).getD default) = _
  split_ifs <;> rfl

theorem parseOptionalPort_optionalField (port : Option UInt16) :
    parseOptionalPort (optionalField portField port) =
      .ok (if port = some 0 then none else port) := by
  cases port with
  | none => rfl
  | some port =>
    simp only [Option.some_inj]
    exact parseOptionalPort_decimal port

theorem parseBoolToken_boolToken (value : Bool) : parseBoolToken (boolToken value) = value := by
  cases value <;> decide

theorem parseOptionalBoolToken_optionalField (value : Option Bool) :
    parseOptionalBoolToken (optionalField boolToken value) = value := by
  cases value with
  | none => rfl
  | some value => cases value <;> decide

/-! ## Codecs -/

/-- `parse` reads from the fields exactly the values within `InRange` whose texts
contain no separator, and refuses every other number of fields. -/
structure PayloadCodec {n : ℕ} {P : Type} (parse : Str → ParseResult P) (fields : P → Vector Str n)
    (texts : P → List Str) (InRange : P → Prop) : Prop where
  parse_joinFields_iff : ∀ v,
    parse (joinFields (fields v)) = .ok v ↔ (∀ text ∈ texts v, '|' ∉ text) ∧ InRange v
  fieldCount : ∀ payload : Str, payload.count '|' + 1 ≠ n →
    parse payload = .error ⟨"invalid field count"⟩

/-- A parser that reads separated fields is judged by what it makes of the fields. -/
theorem PayloadCodec.of_fields {n : ℕ} {P : Type} (hn : 0 < n)
    {ofFields : Vector Str n → ParseResult P} {fields : P → Vector Str n} {texts : P → List Str}
    {InRange : P → Prop}
    (htexts : ∀ v, (∀ field ∈ fields v, '|' ∉ field) ↔ ∀ text ∈ texts v, '|' ∉ text)
    (hread : ∀ v, ofFields (fields v) = .ok v ↔ InRange v) :
    PayloadCodec (fun payload => splitFields n payload >>= ofFields) fields texts InRange where
  parse_joinFields_iff := by
    intro v
    rw [← htexts v, ← hread v]
    by_cases hbar : ∀ field ∈ fields v, '|' ∉ field
    · rw [splitFields_joinFields hn hbar, and_iff_right hbar]
      rfl
    · rw [splitFields_joinFields_eq_error hn hbar, iff_false_right fun hboth => hbar hboth.1]
      intro hok
      cases hok
  fieldCount := by
    intro payload hcount
    rw [splitFields_eq_error hcount]
    rfl

theorem one_le_toNat_iff {v : UInt16} : 1 ≤ v.toNat ↔ v ≠ 0 := by
  rw [Nat.one_le_iff_ne_zero, Ne, Ne, ← UInt16.toNat_inj]
  rfl

/-! ### Home Assistant -/

namespace HomeAssistantConfigPayload

variable (v : HomeAssistantConfigPayload)

def fields : Vector Str 8 :=
  #v[v.wifiSsid, v.wifiPassword, v.mqttHost, decimal v.mqttPort.toNat, v.mqttUsername,
    v.mqttPassword, v.nodeId, v.friendlyName]

def texts : List Str :=
  [v.wifiSsid, v.wifiPassword, v.mqttHost, v.mqttUsername, v.mqttPassword, v.nodeId, v.friendlyName]

def InRange : Prop := 1 ≤ v.mqttPort.toNat

theorem ofFields_eq_ok_iff : homeAssistantConfigOfFields v.fields = .ok v ↔ v.InRange := by
  have hparse : homeAssistantConfigOfFields v.fields =
      .ok { v with mqttPort := if v.mqttPort = 0 then 1883 else v.mqttPort } := by
    show parsePortOrDefault (decimal v.mqttPort.toNat) 1883 >>= _ = _
    rw [parsePortOrDefault_decimal]
    rfl
  have hport : (if v.mqttPort = 0 then 1883 else v.mqttPort) = v.mqttPort ↔ v.mqttPort ≠ 0 := by
    split_ifs with hzero
    · rw [hzero]
      decide
    · exact iff_of_true rfl hzero
  rw [hparse, Except.ok.injEq, InRange, one_le_toNat_iff, ← hport]
  exact ⟨fun h => congrArg mqttPort h, fun h => by rw [h]⟩

theorem codec : PayloadCodec parseHomeAssistantConfigPayload fields texts InRange :=
  .of_fields (by decide) (fun v => by simp [fields, texts]) ofFields_eq_ok_iff

end HomeAssistantConfigPayload

namespace HomeAssistantWebSocketConfigPayload

variable (v : HomeAssistantWebSocketConfigPayload)

def fields : Vector Str 3 := #v[boolToken v.enabled, v.path, v.hostHeader]

def texts : List Str := [v.path, v.hostHeader]

theorem ofFields_eq_ok : homeAssistantWebsocketConfigOfFields v.fields = .ok v := by
  show Except.ok { v with enabled := parseBoolToken (boolToken v.enabled) } = Except.ok v
  rw [parseBoolToken_boolToken]

theorem codec :
    PayloadCodec parseHomeAssistantWebsocketConfigPayload fields texts fun _ => True :=
  .of_fields (by decide) (fun v => by simp [fields, texts])
    fun v => iff_true_intro v.ofFields_eq_ok

end HomeAssistantWebSocketConfigPayload

namespace HomeAssistantMqttEndpointPayload

variable (v : HomeAssistantMqttEndpointPayload)

def fields : Vector Str 5 :=
  #v[v.mqttHost, optionalField portField v.mqttPort, optionalField boolToken v.useWebsockets,
    v.websocketPath, v.hostHeader]

def texts : List Str := [v.mqttHost, v.websocketPath, v.hostHeader]

def InRange : Prop := ∀ port ∈ v.mqttPort, 1 ≤ port.toNat

theorem ofFields_eq_ok_iff : homeAssistantMqttEndpointOfFields v.fields = .ok v ↔ v.InRange := by
  have hparse : homeAssistantMqttEndpointOfFields v.fields =
      .ok { v with mqttPort := if v.mqttPort = some 0 then none else v.mqttPort } := by
    show parseOptionalPort (optionalField portField v.mqttPort) >>= _ = _
    rw [parseOptionalPort_optionalField]
    show Except.ok { v with
      mqttPort := if v.mqttPort = some 0 then none else v.mqttPort
      useWebsockets := parseOptionalBoolToken (optionalField boolToken v.useWebsockets) } = _
    rw [parseOptionalBoolToken_optionalField]
  have hport : (if v.mqttPort = some 0 then none else v.mqttPort) = v.mqttPort ↔ v.InRange := by
    simp only [InRange, one_le_toNat_iff]
    split_ifs with hzero
    · simp [hzero]
    · refine iff_of_true rfl ?_
      rintro port hport rfl
      exact hzero hport
  rw [hparse, Except.ok.injEq, ← hport]
  exact ⟨fun h => congrArg mqttPort h, fun h => by rw [h]⟩

theorem codec : PayloadCodec parseHomeAssistantMqttEndpointPayload fields texts InRange :=
  .of_fields (by decide) (fun v => by simp [fields, texts, portField]) ofFields_eq_ok_iff

end HomeAssistantMqttEndpointPayload

/-! ### Rooms -/

/-- The last five fields of a room, whatever they are put into. -/
theorem readPose_eq_ok_iff {P : Type} {v : P} {x y heading : ℤ} {width height : UInt16}
    (build : ℤ → ℤ → ℤ → UInt16 → UInt16 → P) (hbuild : build x y heading width height = v) :
    (do
      let poseXCm ← parseI16 (signedDecimal x) "invalid room pose x"
      let poseYCm ← parseI16 (signedDecimal y) "invalid room pose y"
      let headingDeg ← parseI16 (signedDecimal heading) "invalid room heading"
      let roomWidthCm ← parseU16 (decimal width.toNat) "invalid room width"
      let roomHeightCm ← parseU16 (decimal height.toNat) "invalid room height"
      return build poseXCm poseYCm headingDeg roomWidthCm roomHeightCm : ParseResult P) = .ok v ↔
      (-32768 ≤ x ∧ x ≤ 32767) ∧ (-32768 ≤ y ∧ y ≤ 32767) ∧ -32768 ≤ heading ∧ heading ≤ 32767 := by
  simp only [bind_eq_ok, parseI16_signedDecimal_eq_ok_iff, parseU16_decimal, Except.ok.injEq]
  constructor
  · rintro ⟨_, ⟨hx, -⟩, _, ⟨hy, -⟩, _, ⟨hheading, -⟩, -⟩
    exact ⟨hx, hy, hheading⟩
  · rintro ⟨hx, hy, hheading⟩
    exact ⟨x, ⟨hx, rfl⟩, y, ⟨hy, rfl⟩, heading, ⟨hheading, rfl⟩, width, rfl, height, rfl,
      congrArg Except.ok hbuild⟩

namespace RoomConfigPayload

variable (v : RoomConfigPayload)

def fields : Vector Str 7 :=
  #v[v.roomId, v.sensorRole, signedDecimal v.poseXCm, signedDecimal v.poseYCm,
    signedDecimal v.headingDeg, decimal v.roomWidthCm.toNat, decimal v.roomHeightCm.toNat]

def texts : List Str := [v.roomId, v.sensorRole]

/-- The pose is made of `i16` values. -/
def InRange : Prop :=
  (-32768 ≤ v.poseXCm ∧ v.poseXCm ≤ 32767) ∧ (-32768 ≤ v.poseYCm ∧ v.poseYCm ≤ 32767) ∧
    -32768 ≤ v.headingDeg ∧ v.headingDeg ≤ 32767

theorem ofFields_eq_ok_iff : roomConfigOfFields v.fields = .ok v ↔ v.InRange :=
  readPose_eq_ok_iff (RoomConfigPayload.mk v.roomId v.sensorRole) rfl

theorem codec : PayloadCodec parseRoomConfigPayload fields texts InRange :=
  .of_fields (by decide) (fun v => by simp [fields, texts]) ofFields_eq_ok_iff

end RoomConfigPayload

namespace RoomPosePublishPayload

variable (v : RoomPosePublishPayload)

def fields : Vector Str 8 :=
  #v[v.nodeId, v.roomId, v.sensorRole, signedDecimal v.poseXCm, signedDecimal v.poseYCm,
    signedDecimal v.headingDeg, decimal v.roomWidthCm.toNat, decimal v.roomHeightCm.toNat]

def texts : List Str := [v.nodeId, v.roomId, v.sensorRole]

/-- The pose is made of `i16` values. -/
def InRange : Prop :=
  (-32768 ≤ v.poseXCm ∧ v.poseXCm ≤ 32767) ∧ (-32768 ≤ v.poseYCm ∧ v.poseYCm ≤ 32767) ∧
    -32768 ≤ v.headingDeg ∧ v.headingDeg ≤ 32767

theorem ofFields_eq_ok_iff : roomPosePublishOfFields v.fields = .ok v ↔ v.InRange :=
  readPose_eq_ok_iff (RoomPosePublishPayload.mk v.nodeId v.roomId v.sensorRole) rfl

theorem codec : PayloadCodec parseRoomPosePublishPayload fields texts InRange :=
  .of_fields (by decide) (fun v => by simp [fields, texts]) ofFields_eq_ok_iff

end RoomPosePublishPayload

/-! ### Bluetooth tags -/

theorem clampI32_eq_self_iff {v lo hi : ℤ} (h : lo ≤ hi) : clampI32 v lo hi = v ↔ lo ≤ v ∧ v ≤ hi := by
  rw [clampI32]
  omega

namespace BleTagConfigPayload

variable (v : BleTagConfigPayload)

def fields : Vector Str 4 :=
  #v[decimal v.slot.toNat, v.label, v.address, signedDecimal v.minRssi]

def texts : List Str := [v.label, v.address]

def InRange : Prop := -120 ≤ v.minRssi ∧ v.minRssi ≤ -20

theorem ofFields_eq_ok_iff : bleTagConfigOfFields v.fields = .ok v ↔ v.InRange := by
  simp only [bleTagConfigOfFields, fields, bind_eq_ok, Vector.getElem_mk, List.getElem_toArray,
    List.getElem_cons_succ, List.getElem_cons_zero, parseU8_decimal, signedDecimal_ne_nil, if_false,
    parseI32_signedDecimal_eq_ok_iff, Except.ok.injEq]
  constructor
  · rintro ⟨slot, -, _, ⟨-, rfl⟩, hv⟩
    exact (clampI32_eq_self_iff (by decide)).1 (congrArg minRssi (Except.ok.inj hv))
  · intro hrange
    have hi32 : -2147483648 ≤ v.minRssi ∧ v.minRssi ≤ 2147483647 := by
      rw [InRange] at hrange
      omega
    refine ⟨v.slot, rfl, v.minRssi, ⟨hi32, rfl⟩, ?_⟩
    rw [(clampI32_eq_self_iff (by decide)).2 hrange]
    rfl

theorem codec : PayloadCodec parseBleTagConfigPayload fields texts InRange :=
  .of_fields (by decide) (fun v => by simp [fields, texts]) ofFields_eq_ok_iff

end BleTagConfigPayload

theorem parseBleTagClearPayload_decimal (v : BleTagClearPayload) :
    parseBleTagClearPayload (decimal v.slot.toNat) = .ok v := by
  rw [parseBleTagClearPayload, parseU8_decimal]
  rfl

/-! ### Tuning -/

/-- A percentage or a count, `0` being read as `default`. -/
theorem ofNat_clampI32_positiveOr_eq_iff {v : UInt8} {default lo hi : ℤ} (hlo : 1 ≤ lo)
    (hdefault : lo ≤ default ∧ default ≤ hi) (hhi : hi ≤ 255) :
    UInt8.ofNat (clampI32 (positiveOr default v.toNat) lo hi).toNat = v ↔
      lo ≤ v.toNat ∧ v.toNat ≤ hi := by
  have hv := v.toNat_lt
  have hclamp : (clampI32 (positiveOr default v.toNat) lo hi).toNat < 256 := by
    rw [clampI32]
    omega
  rw [← UInt8.toNat_inj, UInt8.toNat_ofNat', Nat.mod_eq_of_lt hclamp, clampI32, positiveOr]
  split_ifs <;> omega

/-- A range or an energy, `0` being read as `default`. -/
theorem ofNat_clampI32_or_eq_iff {v default : UInt16} (hdefault : default ≠ 0) :
    (if (v.toNat : ℤ) > 0 then UInt16.ofNat (clampI32 v.toNat 1 65535).toNat else default) = v ↔
      1 ≤ v.toNat := by
  have hv := v.toNat_lt
  split_ifs with hpos
  · have hclamp : (clampI32 v.toNat 1 65535).toNat = v.toNat := by
      rw [clampI32]
      omega
    rw [hclamp, UInt16.ofNat_toNat]
    exact iff_of_true rfl (by omega)
  · have hzero : v = 0 := by
      rw [← UInt16.toNat_inj]
      show v.toNat = 0
      omega
    rw [hzero]
    exact iff_of_false hdefault (by decide)

theorem ofNat_clampI32_hold_eq_iff {v : UInt16} :
    (if (v.toNat : ℤ) ≥ 0 then UInt16.ofNat (clampI32 v.toNat 3000 60000).toNat else 4000) = v ↔
      3000 ≤ v.toNat ∧ v.toNat ≤ 60000 := by
  have hclamp : (clampI32 v.toNat 3000 60000).toNat < 65536 := by
    rw [clampI32]
    omega
  rw [if_pos (Int.natCast_nonneg _), ← UInt16.toNat_inj, UInt16.toNat_ofNat',
    Nat.mod_eq_of_lt hclamp, clampI32]
  omega

namespace TuningConfigPayload

variable (v : TuningConfigPayload)

def fields : Vector Str 8 :=
  #v[decimal v.maxDetectionRangeCm.toNat, decimal v.minGateEnergy.toNat,
    decimal v.sensitivityPercent.toNat, decimal v.presenceHoldMs.toNat,
    decimal v.minActiveGates.toNat, decimal v.minActivityScore.toNat, boolToken v.ledEnabled,
    decimal v.ledBrightness.toNat]

structure InRange : Prop where
  maxDetectionRangeCm : 1 ≤ v.maxDetectionRangeCm.toNat
  minGateEnergy : 1 ≤ v.minGateEnergy.toNat
  sensitivityPercent : 10 ≤ v.sensitivityPercent.toNat ∧ v.sensitivityPercent.toNat ≤ 100
  presenceHoldMs : 3000 ≤ v.presenceHoldMs.toNat ∧ v.presenceHoldMs.toNat ≤ 60000
  minActiveGates : 1 ≤ v.minActiveGates.toNat ∧ v.minActiveGates.toNat ≤ 16
  minActivityScore : 1 ≤ v.minActivityScore.toNat ∧ v.minActivityScore.toNat ≤ 100
  ledBrightness : 1 ≤ v.ledBrightness.toNat

/-- Numbers are clamped, and replaced where they are not positive. -/
theorem ofFields_eq : tuningConfigOfFields v.fields = .ok {
    maxDetectionRangeCm := if (v.maxDetectionRangeCm.toNat : ℤ) > 0 then
        UInt16.ofNat (clampI32 v.maxDetectionRangeCm.toNat 1 65535).toNat
      else 1120
    minGateEnergy := if (v.minGateEnergy.toNat : ℤ) > 0 then
        UInt16.ofNat (clampI32 v.minGateEnergy.toNat 1 65535).toNat
      else 25
    sensitivityPercent :=
      UInt8.ofNat (clampI32 (positiveOr 55 v.sensitivityPercent.toNat) 10 100).toNat
    presenceHoldMs := if (v.presenceHoldMs.toNat : ℤ) ≥ 0 then
        UInt16.ofNat (clampI32 v.presenceHoldMs.toNat 3000 60000).toNat
      else 4000
    minActiveGates := UInt8.ofNat (clampI32 (positiveOr 1 v.minActiveGates.toNat) 1 16).toNat
    minActivityScore := UInt8.ofNat (clampI32 (positiveOr 10 v.minActivityScore.toNat) 1 100).toNat
    ledEnabled := v.ledEnabled
    ledBrightness := UInt8.ofNat (clampI32 (positiveOr 32 v.ledBrightness.toNat) 1 255).toNat } := by
  have hu16 (n : UInt16) : n.toNat ≤ 2147483647 := Nat.le_of_lt (Nat.lt_trans n.toNat_lt (by decide))
  have hu8 (n : UInt8) : n.toNat ≤ 2147483647 := Nat.le_of_lt (Nat.lt_trans n.toNat_lt (by decide))
  unfold tuningConfigOfFields
  simp only [fields, Vector.getElem_mk, List.getElem_toArray, List.getElem_cons_succ,
    List.getElem_cons_zero, parseI32OrDefault_decimal, hu16, hu8, parseBoolToken_boolToken]
  rfl

theorem ofFields_eq_ok_iff : tuningConfigOfFields v.fields = .ok v ↔ v.InRange := by
  rw [ofFields_eq, Except.ok.injEq]
  constructor
  · intro h
    have hsensitivity := (ofNat_clampI32_positiveOr_eq_iff (by decide) (by decide) (by decide)).1
      (congrArg sensitivityPercent h)
    have hgates := (ofNat_clampI32_positiveOr_eq_iff (by decide) (by decide) (by decide)).1
      (congrArg minActiveGates h)
    have hactivity := (ofNat_clampI32_positiveOr_eq_iff (by decide) (by decide) (by decide)).1
      (congrArg minActivityScore h)
    have hbrightness := (ofNat_clampI32_positiveOr_eq_iff (by decide) (by decide) (by decide)).1
      (congrArg ledBrightness h)
    exact {
      maxDetectionRangeCm :=
        (ofNat_clampI32_or_eq_iff (by decide)).1 (congrArg maxDetectionRangeCm h)
      minGateEnergy := (ofNat_clampI32_or_eq_iff (by decide)).1 (congrArg minGateEnergy h)
      sensitivityPercent := by omega
      presenceHoldMs := ofNat_clampI32_hold_eq_iff.1 (congrArg presenceHoldMs h)
      minActiveGates := by omega
      minActivityScore := by omega
      ledBrightness := by omega }
  · intro h
    have hbrightness := v.ledBrightness.toNat_lt
    obtain ⟨hrange, henergy, hsensitivity, hhold, hgates, hactivity, hled⟩ := h
    rw [(ofNat_clampI32_or_eq_iff (by decide)).2 hrange,
      (ofNat_clampI32_or_eq_iff (by decide)).2 henergy, ofNat_clampI32_hold_eq_iff.2 hhold,
      (ofNat_clampI32_positiveOr_eq_iff (by decide) (by decide) (by decide)).2 (by omega),
      (ofNat_clampI32_positiveOr_eq_iff (by decide) (by decide) (by decide)).2 (by omega),
      (ofNat_clampI32_positiveOr_eq_iff (by decide) (by decide) (by decide)).2 (by omega),
      (ofNat_clampI32_positiveOr_eq_iff (by decide) (by decide) (by decide)).2 (by omega)]

theorem codec : PayloadCodec parseTuningConfigPayload fields (fun _ => []) InRange :=
  .of_fields (by decide) (fun v => by simp [fields]) ofFields_eq_ok_iff

end TuningConfigPayload

/-! ## The command line -/

theorem prefixedCommands_pairwise : prefixedCommands.Pairwise fun entry entry' =>
    ¬ entry.1 <+: entry'.1 ∧ ¬ entry'.1 <+: entry.1 := by
  decide

/-- A command with a payload is none of the plain ones, which have no colon. -/
theorem parseDeviceCommand_append {name : Str} {command : Str → DeviceCommand}
    (h : (name, command) ∈ prefixedCommands) (payload : Str) :
    parseDeviceCommand (name ++ payload) = some (command payload) := by
  have hcolon : ':' ∈ name ++ payload := by
    refine List.mem_append_left _ ?_
    have hall : ∀ entry ∈ prefixedCommands, ':' ∈ entry.1 := by decide
    exact hall _ h
  have hplain (plain : Str) (hno : ':' ∉ plain) : name ++ payload ≠ plain := by
    rintro rfl
    exact hno hcolon
  unfold parseDeviceCommand
  rw [if_neg (hplain _ (by decide)), if_neg (hplain _ (by decide)), if_neg (hplain _ (by decide)),
    if_neg (hplain _ (by decide)), if_neg (hplain _ (by decide)), if_neg (hplain _ (by decide)),
    if_neg (hplain _ (by decide))]
  exact findSome?_stripPrefix_append prefixedCommands_pairwise h (fun command => command) payload

/-- Commands reach the constructor of their prefix, and every payload parser reads
back what is written within its ranges. -/
theorem deviceCommands_codec :
    (∀ entry ∈ prefixedCommands, ∀ payload,
      parseDeviceCommand (entry.1 ++ payload) = some (entry.2 payload)) ∧
    PayloadCodec parseHomeAssistantConfigPayload HomeAssistantConfigPayload.fields
      HomeAssistantConfigPayload.texts HomeAssistantConfigPayload.InRange ∧
    PayloadCodec parseRoomConfigPayload RoomConfigPayload.fields RoomConfigPayload.texts
      RoomConfigPayload.InRange ∧
    PayloadCodec parseRoomPosePublishPayload RoomPosePublishPayload.fields
      RoomPosePublishPayload.texts RoomPosePublishPayload.InRange ∧
    PayloadCodec parseTuningConfigPayload TuningConfigPayload.fields (fun _ => [])
      TuningConfigPayload.InRange ∧
    PayloadCodec parseBleTagConfigPayload BleTagConfigPayload.fields BleTagConfigPayload.texts
      BleTagConfigPayload.InRange ∧
    PayloadCodec parseHomeAssistantWebsocketConfigPayload
      HomeAssistantWebSocketConfigPayload.fields HomeAssistantWebSocketConfigPayload.texts
      (fun _ => True) ∧
    PayloadCodec parseHomeAssistantMqttEndpointPayload HomeAssistantMqttEndpointPayload.fields
      HomeAssistantMqttEndpointPayload.texts HomeAssistantMqttEndpointPayload.InRange ∧
    ∀ v : BleTagClearPayload, parseBleTagClearPayload (decimal v.slot.toNat) = .ok v :=
  ⟨fun _ hentry payload => parseDeviceCommand_append hentry payload,
    HomeAssistantConfigPayload.codec, RoomConfigPayload.codec, RoomPosePublishPayload.codec,
    TuningConfigPayload.codec, BleTagConfigPayload.codec,
    HomeAssistantWebSocketConfigPayload.codec, HomeAssistantMqttEndpointPayload.codec,
    parseBleTagClearPayload_decimal⟩

example : joinFields ({ slot := 2, label := "Phone", address := "AA:BB", minRssi := -72 } :
    BleTagConfigPayload).fields = ("2|Phone|AA:BB|-72" : Str) := by decide

end EspWaveRider.Command
