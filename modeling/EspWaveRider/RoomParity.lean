import EspWaveRider.CommandFields
import EspWaveRider.Cpp.MqttSession
import EspWaveRider.Firmware.Configuration

/-!
# One `ha_room_config`, two firmwares

The command as `handleUsbCommand` of `src/main.cpp` handles it, which clamps numbers, has defaults
for names and keeps what a field leaves out, and as `handle_device_command` of the port does, which
takes the fields as they are or not at all.

* `RoomGeometry` — room, role and geometry of a node, and the rules for them;
* `roomGeometry_haRoomConfig`, `roomGeometry_handleDeviceCommand` — the effect in either firmware;
* `roomParity_iff` — when it is the same.
-/

namespace EspWaveRider

/-- Room, role and geometry of a node, in the one firmware or the other. -/
@[ext] structure RoomGeometry where
  roomId : Str
  sensorRole : Str
  poseXCm : ℤ
  poseYCm : ℤ
  headingDeg : ℤ
  roomWidthCm : ℤ
  roomHeightCm : ℤ

end EspWaveRider

namespace EspWaveRider.Firmware

def FirmwareState.roomGeometry (s : FirmwareState) : RoomGeometry where
  roomId := s.roomId
  sensorRole := s.sensorRole
  poseXCm := s.poseXCm
  poseYCm := s.poseYCm
  headingDeg := s.headingDeg
  roomWidthCm := s.roomWidthCm.toNat
  roomHeightCm := s.roomHeightCm.toNat

end EspWaveRider.Firmware

namespace EspWaveRider.Cpp

def RuntimeHomeAssistantConfig.roomGeometry (c : RuntimeHomeAssistantConfig) : RoomGeometry where
  roomId := c.roomId
  sensorRole := c.sensorRole
  poseXCm := c.roomPoseXCm.toInt
  poseYCm := c.roomPoseYCm.toInt
  headingDeg := c.roomHeadingDeg.toInt
  roomWidthCm := c.roomWidthCm.toNat
  roomHeightCm := c.roomHeightCm.toNat

end EspWaveRider.Cpp

namespace EspWaveRider.RoomGeometry

open Text Command Cpp

structure WithinRanges (g : RoomGeometry) : Prop where
  poseXCm_mem : -2000 ≤ g.poseXCm ∧ g.poseXCm ≤ 2000
  poseYCm_mem : -2000 ≤ g.poseYCm ∧ g.poseYCm ≤ 2000
  headingDeg_mem : -180 ≤ g.headingDeg ∧ g.headingDeg ≤ 180
  roomWidthCm_mem : 100 ≤ g.roomWidthCm ∧ g.roomWidthCm ≤ 4000
  roomHeightCm_mem : 100 ≤ g.roomHeightCm ∧ g.roomHeightCm ≤ 4000

/-- What becomes of the stored geometry keeps to the rules for ranges, names and empty fields. -/
structure KeepsRules (stored : RoomGeometry) (fields : Vector Str 7) (g : RoomGeometry) : Prop where
  ranges : stored.WithinRanges → g.WithinRanges
  room : fields[0]! = [] → g.roomId = defaultRoomId
  role : fields[1]! = [] → g.sensorRole = defaultSensorRole
  poseX : fields[2]! = [] → g.poseXCm = stored.poseXCm
  poseY : fields[3]! = [] → g.poseYCm = stored.poseYCm
  heading : fields[4]! = [] → g.headingDeg = stored.headingDeg
  roomWidth : fields[5]! = [] → g.roomWidthCm = stored.roomWidthCm
  roomHeight : fields[6]! = [] → g.roomHeightCm = stored.roomHeightCm

/-- A name, or its default. -/
def nameOr (default name : Str) : Str := if name ≠ [] then name else default

/-- A number within its range, or what was stored. -/
def numberOr (stored low high : ℤ) (field : Str) : ℤ :=
  if field ≠ [] then max low (min (toInt field) high) else stored

/-- What the C++ makes of the fields. -/
def updated (stored : RoomGeometry) (fields : Vector Str 7) : RoomGeometry where
  roomId := nameOr defaultRoomId (percentDecode fields[0]!)
  sensorRole := nameOr defaultSensorRole (percentDecode fields[1]!)
  poseXCm := numberOr stored.poseXCm (-2000) 2000 fields[2]!
  poseYCm := numberOr stored.poseYCm (-2000) 2000 fields[3]!
  headingDeg := numberOr stored.headingDeg (-180) 180 fields[4]!
  roomWidthCm := numberOr stored.roomWidthCm 100 4000 fields[5]!
  roomHeightCm := numberOr stored.roomHeightCm 100 4000 fields[6]!

/-- What the port takes the fields for. -/
def stated (fields : Vector Str 7) : RoomGeometry where
  roomId := fields[0]!
  sensorRole := fields[1]!
  poseXCm := toInt fields[2]!
  poseYCm := toInt fields[3]!
  headingDeg := toInt fields[4]!
  roomWidthCm := toInt fields[5]!
  roomHeightCm := toInt fields[6]!

theorem numberOr_mem {stored low high : ℤ} (hlow : low ≤ stored) (hhigh : stored ≤ high)
    (field : Str) : low ≤ numberOr stored low high field ∧ numberOr stored low high field ≤ high := by
  rw [numberOr]
  split
  · omega
  · exact ⟨hlow, hhigh⟩

theorem keepsRules_updated (stored : RoomGeometry) (fields : Vector Str 7) :
    KeepsRules stored fields (stored.updated fields) where
  ranges h := ⟨numberOr_mem h.poseXCm_mem.1 h.poseXCm_mem.2 _,
    numberOr_mem h.poseYCm_mem.1 h.poseYCm_mem.2 _,
    numberOr_mem h.headingDeg_mem.1 h.headingDeg_mem.2 _,
    numberOr_mem h.roomWidthCm_mem.1 h.roomWidthCm_mem.2 _,
    numberOr_mem h.roomHeightCm_mem.1 h.roomHeightCm_mem.2 _⟩
  room h := by rw [updated, h]; rfl
  role h := by rw [updated, h]; rfl
  poseX h := if_neg (not_not.2 h)
  poseY h := if_neg (not_not.2 h)
  heading h := if_neg (not_not.2 h)
  roomWidth h := if_neg (not_not.2 h)
  roomHeight h := if_neg (not_not.2 h)

/-- A name that is its own meaning. -/
def PlainName (field : Str) : Prop := field ≠ [] ∧ percentDecode field = field

/-- A number that clamping keeps. -/
def NumberWithin (low high : ℤ) (field : Str) : Prop := field ≠ [] ∧ low ≤ toInt field ∧ toInt field ≤ high

/-- Every field says all that the C++ makes of it. -/
structure StatedAlike (fields : Vector Str 7) : Prop where
  room : PlainName fields[0]!
  role : PlainName fields[1]!
  poseX : NumberWithin (-2000) 2000 fields[2]!
  poseY : NumberWithin (-2000) 2000 fields[3]!
  heading : NumberWithin (-180) 180 fields[4]!
  roomWidth : NumberWithin 100 4000 fields[5]!
  roomHeight : NumberWithin 100 4000 fields[6]!

/-- The number is the stored one after clamping, or there is none. -/
def RestatesNumber (stored low high : ℤ) (field : Str) : Prop :=
  field = [] ∨ max low (min (toInt field) high) = stored

/-- What the C++ makes of the fields is what is stored. -/
structure Restates (stored : RoomGeometry) (fields : Vector Str 7) : Prop where
  room : nameOr defaultRoomId (percentDecode fields[0]!) = stored.roomId
  role : nameOr defaultSensorRole (percentDecode fields[1]!) = stored.sensorRole
  poseX : RestatesNumber stored.poseXCm (-2000) 2000 fields[2]!
  poseY : RestatesNumber stored.poseYCm (-2000) 2000 fields[3]!
  heading : RestatesNumber stored.headingDeg (-180) 180 fields[4]!
  roomWidth : RestatesNumber stored.roomWidthCm 100 4000 fields[5]!
  roomHeight : RestatesNumber stored.roomHeightCm 100 4000 fields[6]!

theorem eq_nameOr_iff {default field : Str} (hdefault : default ≠ []) :
    field = nameOr default (percentDecode field) ↔ PlainName field := by
  rw [nameOr, PlainName]
  by_cases hempty : field = []
  · subst hempty
    exact iff_of_false (fun heq => hdefault heq.symm) (fun hplain => hplain.1 rfl)
  · rw [if_pos (mt percentDecode_eq_nil_iff.1 hempty)]
    exact ⟨fun heq => ⟨hempty, heq.symm⟩, fun hplain => hplain.2.symm⟩

theorem eq_numberOr_iff {stored low high : ℤ} (h : low ≤ high) {field : Str} (hne : field ≠ []) :
    toInt field = numberOr stored low high field ↔ NumberWithin low high field := by
  rw [numberOr, if_pos hne, NumberWithin, and_iff_right hne]
  omega

theorem numberOr_eq_iff {stored low high : ℤ} {field : Str} :
    numberOr stored low high field = stored ↔ RestatesNumber stored low high field := by
  rw [numberOr, RestatesNumber]
  by_cases hempty : field = []
  · rw [if_neg (not_not.2 hempty)]
    exact iff_of_true rfl (.inl hempty)
  · rw [if_pos hempty, or_iff_right hempty]

theorem updated_eq_iff {stored : RoomGeometry} {fields : Vector Str 7} :
    stored.updated fields = stored ↔ Restates stored fields := by
  rw [RoomGeometry.ext_iff]
  simp only [updated, numberOr_eq_iff]
  constructor
  · rintro ⟨h₀, h₁, h₂, h₃, h₄, h₅, h₆⟩
    exact ⟨h₀, h₁, h₂, h₃, h₄, h₅, h₆⟩
  · rintro ⟨h₀, h₁, h₂, h₃, h₄, h₅, h₆⟩
    exact ⟨h₀, h₁, h₂, h₃, h₄, h₅, h₆⟩

end EspWaveRider.RoomGeometry

namespace EspWaveRider.Cpp

open Text Command Firmware

/-- The port reads a pose or a heading. -/
def ReadsInt16 (field : Str) : Prop := field ≠ [] ∧ -32768 ≤ toInt field ∧ toInt field ≤ 32767

/-- The port reads a size, which must not have a minus. -/
def ReadsUInt16 (field : Str) : Prop := field ≠ [] ∧ '-' ∉ field ∧ toInt field ≤ 65535

/-- A numeric field is empty, or a number that both read. -/
theorem NumericField.cases {field : Str} (h : NumericField field) :
    field = [] ∨ (field ≠ [] ∧ signedDigits field = some (toInt field)) := by
  rcases h with rfl | ⟨n, hn⟩
  · exact .inl rfl
  · have hne : field ≠ [] := by
      rintro rfl
      cases hn
    have hvalue := (toInt_of_parseSigned hn).1
    exact .inr ⟨hne, hvalue.symm ▸ (Option.filter_eq_some_iff.1 hn).1⟩

theorem parseI16_eq_ok_iff {field : Str} (h : NumericField field) {message : Str} {v : ℤ} :
    parseI16 field message = .ok v ↔ ReadsInt16 field ∧ v = toInt field := by
  rw [parseI16, orError_eq_ok_iff, ReadsInt16]
  rcases h.cases with rfl | ⟨hne, hdigits⟩
  · exact iff_of_false (fun hsome => by cases hsome) (fun hreads => hreads.1.1 rfl)
  · rw [parseSigned, hdigits, Option.filter_eq_some_iff, Option.some.injEq, decide_eq_true_iff]
    constructor
    · rintro ⟨rfl, hrange⟩
      exact ⟨⟨hne, hrange⟩, rfl⟩
    · rintro ⟨⟨-, hrange⟩, rfl⟩
      exact ⟨rfl, hrange⟩

theorem minus_notMem_of_parseDigits {s : Str} {n : ℕ} (h : parseDigits s = some n) : '-' ∉ s := fun hmem =>
  absurd (forall_of_parseDigits h '-' hmem) (by decide)

/-- A minus is the sign of the number. -/
theorem sign_of_signedDigits {field : Str} {v : ℤ} (h : signedDigits field = some v) :
    ('-' ∈ field ∧ v ≤ 0) ∨ ('-' ∉ field ∧ 0 ≤ v) := by
  unfold signedDigits at h
  split at h
  · obtain ⟨n, hn, rfl⟩ := Option.map_eq_some_iff.1 h
    have hminus := minus_notMem_of_parseDigits hn
    exact .inr ⟨by simpa using hminus, Int.natCast_nonneg n⟩
  · obtain ⟨n, -, rfl⟩ := Option.map_eq_some_iff.1 h
    exact .inl ⟨List.mem_cons_self .., neg_nonpos.2 (Int.natCast_nonneg n)⟩
  · obtain ⟨n, hn, rfl⟩ := Option.map_eq_some_iff.1 h
    exact .inr ⟨minus_notMem_of_parseDigits hn, Int.natCast_nonneg n⟩

/-- An unsigned number is a signed one without a minus. -/
theorem parseUnsigned_of_signedDigits {field : Str} {v : ℤ} (h : signedDigits field = some v) (max : ℕ) :
    parseUnsigned max field = if '-' ∈ field then none else (some v.toNat).filter (· ≤ max) := by
  unfold signedDigits at h
  split at h
  · obtain ⟨n, hn, rfl⟩ := Option.map_eq_some_iff.1 h
    rw [if_neg (by simpa using minus_notMem_of_parseDigits hn), parseUnsigned, hn]
    rfl
  · rename_i rest
    have hnone : parseDigits ('-' :: rest) = none :=
      if_neg fun hall => absurd (List.all_eq_true.1 hall.2 '-' (List.mem_cons_self ..)) (by decide)
    have hread : parseUnsigned max ('-' :: rest) = (parseDigits ('-' :: rest)).filter (· ≤ max) := rfl
    rw [if_pos (List.mem_cons_self ..), hread, hnone, Option.filter_none]
  · obtain ⟨n, hn, rfl⟩ := Option.map_eq_some_iff.1 h
    rw [if_neg (minus_notMem_of_parseDigits hn), parseUnsigned, hn]
    · rfl
    · assumption

theorem parseU16_eq_ok_iff {field : Str} (h : NumericField field) {message : Str} {v : UInt16} :
    parseU16 field message = .ok v ↔ ReadsUInt16 field ∧ (v.toNat : ℤ) = toInt field := by
  rw [parseU16, orError_eq_ok_iff, ReadsUInt16]
  rcases h.cases with rfl | ⟨hne, hdigits⟩
  · exact iff_of_false (fun hsome => by cases hsome) (fun hreads => hreads.1.1 rfl)
  · rw [parseUnsigned_of_signedDigits hdigits]
    split
    case isTrue hminus => exact iff_of_false (fun hsome => by cases hsome) fun hreads => hreads.1.2.1 hminus
    case isFalse hminus =>
      have hnonneg := ((sign_of_signedDigits hdigits).resolve_left fun h => hminus h.1).2
      have hlt := v.toNat_lt
      simp only [Option.map_eq_some_iff, Option.filter_eq_some_iff, Option.some.injEq,
        decide_eq_true_eq, ← UInt16.toNat_inj, UInt16.toNat_ofNat']
      constructor
      · rintro ⟨m, ⟨rfl, hmax⟩, hv⟩
        exact ⟨⟨hne, hminus, by omega⟩, by omega⟩
      · rintro ⟨⟨-, -, hmax⟩, hv⟩
        exact ⟨(toInt field).toNat, ⟨rfl, by omega⟩, by omega⟩

/-- The port reads all numbers. -/
structure ReadsNumbers (fields : Vector Str 7) : Prop where
  poseX : ReadsInt16 fields[2]!
  poseY : ReadsInt16 fields[3]!
  heading : ReadsInt16 fields[4]!
  roomWidth : ReadsUInt16 fields[5]!
  roomHeight : ReadsUInt16 fields[6]!

/-- The numbers of these seven fields are empty or fit 32 bits. -/
def NumericRoom (fields : Vector Str 7) : Prop := ∀ i : Fin 7, 2 ≤ i → NumericField fields[i]

/-- What the port reads is what the fields say. -/
theorem roomConfigOfFields_eq_ok {fields : Vector Str 7} (hnumeric : NumericRoom fields)
    {room : RoomConfigPayload} (h : roomConfigOfFields fields = .ok room) :
    ReadsNumbers fields ∧ (room.roomId = fields[0]! ∧ room.sensorRole = fields[1]!) ∧
      room.poseXCm = toInt fields[2]! ∧ room.poseYCm = toInt fields[3]! ∧
      room.headingDeg = toInt fields[4]! ∧ (room.roomWidthCm.toNat : ℤ) = toInt fields[5]! ∧
      (room.roomHeightCm.toNat : ℤ) = toInt fields[6]! := by
  obtain ⟨poseX, hx, h⟩ := bind_eq_ok.1 h
  obtain ⟨poseY, hy, h⟩ := bind_eq_ok.1 h
  obtain ⟨heading, hh, h⟩ := bind_eq_ok.1 h
  obtain ⟨width, hw, h⟩ := bind_eq_ok.1 h
  obtain ⟨height, hl, h⟩ := bind_eq_ok.1 h
  cases h
  obtain ⟨hx', rfl⟩ := (parseI16_eq_ok_iff (hnumeric 2 (by decide))).1 hx
  obtain ⟨hy', rfl⟩ := (parseI16_eq_ok_iff (hnumeric 3 (by decide))).1 hy
  obtain ⟨hh', rfl⟩ := (parseI16_eq_ok_iff (hnumeric 4 (by decide))).1 hh
  obtain ⟨hw', hwidth⟩ := (parseU16_eq_ok_iff (hnumeric 5 (by decide))).1 hw
  obtain ⟨hl', hheight⟩ := (parseU16_eq_ok_iff (hnumeric 6 (by decide))).1 hl
  exact ⟨⟨hx', hy', hh', hw', hl'⟩, ⟨rfl, rfl⟩, rfl, rfl, rfl, hwidth, hheight⟩

theorem exists_parseU16 {field : Str} (hnumeric : NumericField field) (h : ReadsUInt16 field)
    (message : Str) : ∃ v, parseU16 field message = .ok v := by
  obtain ⟨-, hdigits⟩ := hnumeric.cases.resolve_left h.1
  have hsign := sign_of_signedDigits hdigits
  have hnonneg := (hsign.resolve_left fun hminus => h.2.1 hminus.1).2
  have hmax := h.2.2
  refine ⟨UInt16.ofNat (toInt field).toNat, (parseU16_eq_ok_iff hnumeric).2 ⟨h, ?_⟩⟩
  rw [UInt16.toNat_ofNat']
  omega

theorem exists_roomConfigOfFields {fields : Vector Str 7} (hnumeric : NumericRoom fields)
    (h : ReadsNumbers fields) : ∃ room, roomConfigOfFields fields = .ok room := by
  obtain ⟨width, hw⟩ : ∃ v, parseU16 fields[5] "invalid room width" = .ok v :=
    exists_parseU16 (hnumeric 5 (by decide)) h.roomWidth _
  obtain ⟨height, hl⟩ : ∃ v, parseU16 fields[6] "invalid room height" = .ok v :=
    exists_parseU16 (hnumeric 6 (by decide)) h.roomHeight _
  have hx (message : Str) : parseI16 fields[2] message = .ok (toInt fields[2]) :=
    (parseI16_eq_ok_iff (hnumeric 2 (by decide))).2 ⟨h.poseX, rfl⟩
  have hy (message : Str) : parseI16 fields[3] message = .ok (toInt fields[3]) :=
    (parseI16_eq_ok_iff (hnumeric 3 (by decide))).2 ⟨h.poseY, rfl⟩
  have hh (message : Str) : parseI16 fields[4] message = .ok (toInt fields[4]) :=
    (parseI16_eq_ok_iff (hnumeric 4 (by decide))).2 ⟨h.heading, rfl⟩
  simp only [roomConfigOfFields, hx, hy, hh, hw, hl, bind, Except.bind]
  exact ⟨_, rfl⟩

/-- The port takes the fields as they are, or does nothing. -/
theorem roomGeometry_handleDeviceCommand (s : FirmwareState) (uptimeMs : ℕ) {payload : Str}
    {fields : Vector Str 7} (hfields : splitFields 7 payload = .ok fields)
    (hnumeric : NumericRoom fields) :
    let s' := (s.handleDeviceCommand uptimeMs (.homeAssistantRoomConfig payload)).state
    (ReadsNumbers fields → s'.roomGeometry = RoomGeometry.stated fields) ∧
      (¬ ReadsNumbers fields → s'.roomGeometry = s.roomGeometry) := by
  have hparse : parseRoomConfigPayload payload = roomConfigOfFields fields := by
    rw [parseRoomConfigPayload, hfields]
    rfl
  dsimp only [FirmwareState.handleDeviceCommand]
  rw [hparse]
  cases hroom : roomConfigOfFields fields with
  | error e =>
    refine ⟨fun hreads => ?_, fun _ => rfl⟩
    obtain ⟨room, hok⟩ := exists_roomConfigOfFields hnumeric hreads
    rw [hroom] at hok
    cases hok
  | ok room =>
    obtain ⟨hreads, ⟨hname, hrole⟩, hx, hy, hh, hw, hl⟩ := roomConfigOfFields_eq_ok hnumeric hroom
    refine ⟨fun _ => ?_, fun hnot => absurd hreads hnot⟩
    rw [RoomGeometry.stated, ← hname, ← hrole, ← hx, ← hy, ← hh, ← hw, ← hl]
    rfl

theorem toInt_constrainInt16 {low high : ℤ} (hlow : -32768 ≤ low) (h : low ≤ high) (hhigh : high ≤ 32767)
    (value : Str) : (constrainInt16 value low high).toInt = max low (min (toInt value) high) := by
  rw [constrainInt16, Int16.toInt_ofInt_of_le]
  · omega
  · omega

theorem toNat_constrainUInt16 {low high : ℕ} (h : low ≤ high) (hhigh : high < 65536) (value : Str) :
    ((constrainUInt16 value low high).toNat : ℤ) = max (low : ℤ) (min (toInt value) high) := by
  rw [constrainUInt16, UInt16.toNat_ofNat']
  omega

theorem toInt_constrainOr {field : Str} (hnumeric : NumericField field) {low high : ℤ}
    (hlow : -32768 ≤ low) (h : low ≤ high) (hhigh : high ≤ 32767) (stored : Int16) :
    (if percentDecode field ≠ [] then constrainInt16 (percentDecode field) low high else stored).toInt =
      RoomGeometry.numberOr stored.toInt low high field := by
  simp only [RoomGeometry.numberOr, ne_eq, percentDecode_eq_nil_iff, apply_ite Int16.toInt,
    toInt_constrainInt16 hlow h hhigh, toInt_percentDecode hnumeric]

theorem toNat_constrainOr {field : Str} (hnumeric : NumericField field) {low high : ℕ}
    (h : low ≤ high) (hhigh : high < 65536) (stored : UInt16) :
    ((if percentDecode field ≠ [] then constrainUInt16 (percentDecode field) low high
      else stored).toNat : ℤ) = RoomGeometry.numberOr stored.toNat low high field := by
  simp only [RoomGeometry.numberOr, ne_eq, percentDecode_eq_nil_iff, apply_ite UInt16.toNat, Nat.cast_ite,
    toNat_constrainUInt16 h hhigh, toInt_percentDecode hnumeric]

theorem roomGeometry_haRoomConfig (n : NodeState) {payload : Str} {fields : Vector Str 7}
    (hfields : splitFields 7 payload = .ok fields) (hnumeric : NumericRoom fields) :
    (n.haRoomConfig (splitConfigFields payload 7)).runtimeConfig.roomGeometry =
      n.runtimeConfig.roomGeometry.updated fields := by
  have hfield := getD_splitConfigFields hfields
  have hpose (i : Fin 7) (hi : 2 ≤ i) := toInt_constrainOr (hnumeric i hi)
    (show -32768 ≤ (-2000 : ℤ) by decide) (by decide) (show (2000 : ℤ) ≤ 32767 by decide)
  have hheading := toInt_constrainOr (hnumeric 4 (by decide))
    (show -32768 ≤ (-180 : ℤ) by decide) (by decide) (show (180 : ℤ) ≤ 32767 by decide)
  have hsize (i : Fin 7) (hi : 2 ≤ i) := toNat_constrainOr (hnumeric i hi)
    (show 100 ≤ 4000 by decide) (by decide)
  rw [NodeState.haRoomConfig]
  dsimp only
  rw [hfield 0 (by decide), hfield 1 (by decide), hfield 2 (by decide), hfield 3 (by decide),
    hfield 4 (by decide), hfield 5 (by decide), hfield 6 (by decide), RoomGeometry.updated]
  exact RoomGeometry.ext rfl rfl (hpose 2 (by decide) _) (hpose 3 (by decide) _) (hheading _)
    (hsize 5 (by decide) _) (hsize 6 (by decide) _)

theorem notMem_of_pos {field : Str} (hnumeric : NumericField field) (hpos : 0 < toInt field) :
    '-' ∉ field := by
  rcases hnumeric.cases with rfl | ⟨-, hdigits⟩
  · exact List.not_mem_nil
  · rcases sign_of_signedDigits hdigits with ⟨-, hle⟩ | ⟨hminus, -⟩
    · omega
    · exact hminus

theorem stated_eq_updated_iff {stored : RoomGeometry} {fields : Vector Str 7}
    (hreads : ReadsNumbers fields) :
    RoomGeometry.stated fields = stored.updated fields ↔ RoomGeometry.StatedAlike fields := by
  rw [RoomGeometry.ext_iff]
  simp only [RoomGeometry.stated, RoomGeometry.updated]
  rw [RoomGeometry.eq_nameOr_iff (by decide), RoomGeometry.eq_nameOr_iff (by decide),
    RoomGeometry.eq_numberOr_iff (by decide) hreads.poseX.1,
    RoomGeometry.eq_numberOr_iff (by decide) hreads.poseY.1,
    RoomGeometry.eq_numberOr_iff (by decide) hreads.heading.1,
    RoomGeometry.eq_numberOr_iff (by decide) hreads.roomWidth.1,
    RoomGeometry.eq_numberOr_iff (by decide) hreads.roomHeight.1]
  constructor
  · rintro ⟨h₀, h₁, h₂, h₃, h₄, h₅, h₆⟩
    exact ⟨h₀, h₁, h₂, h₃, h₄, h₅, h₆⟩
  · rintro ⟨h₀, h₁, h₂, h₃, h₄, h₅, h₆⟩
    exact ⟨h₀, h₁, h₂, h₃, h₄, h₅, h₆⟩

/-- What clamping keeps, the port reads. -/
theorem readsNumbers_of_statedAlike {fields : Vector Str 7} (hnumeric : NumericRoom fields)
    (h : RoomGeometry.StatedAlike fields) : ReadsNumbers fields := by
  obtain ⟨-, -, hx, hy, hh, hw, hl⟩ := h
  have hwidth := notMem_of_pos (hnumeric 5 (by decide)) (lt_of_lt_of_le (by decide) hw.2.1)
  have hheight := notMem_of_pos (hnumeric 6 (by decide)) (lt_of_lt_of_le (by decide) hl.2.1)
  constructor
  · exact ⟨hx.1, by have := hx.2; omega, by have := hx.2; omega⟩
  · exact ⟨hy.1, by have := hy.2; omega, by have := hy.2; omega⟩
  · exact ⟨hh.1, by have := hh.2; omega, by have := hh.2; omega⟩
  · exact ⟨hw.1, hwidth, by have := hw.2; omega⟩
  · exact ⟨hl.1, hheight, by have := hl.2; omega⟩

/-- Both firmwares end with the same geometry, and it keeps to the rules. -/
structure RoomParity (stored : RoomGeometry) (fields : Vector Str 7) (core reference : RoomGeometry) :
    Prop where
  same : core = reference
  core_rules : stored.KeepsRules fields core
  reference_rules : stored.KeepsRules fields reference

/-- After a `ha_room_config` of numbers that are empty or fit 32 bits, both firmwares have the same
geometry exactly if every field is plain and within its range, or the port rejects the numbers and
the C++ stores again what it had. -/
theorem roomParity_iff (s : FirmwareState) (n : NodeState) (uptimeMs : ℕ) {payload : Str}
    {fields : Vector Str 7} (hfields : splitFields 7 payload = .ok fields)
    (hnumeric : NumericRoom fields) (hstored : s.roomGeometry = n.runtimeConfig.roomGeometry) :
    RoomParity s.roomGeometry fields
        (s.handleDeviceCommand uptimeMs (.homeAssistantRoomConfig payload)).state.roomGeometry
        (n.haRoomConfig (splitConfigFields payload 7)).runtimeConfig.roomGeometry ↔
      RoomGeometry.StatedAlike fields ∨
        ¬ ReadsNumbers fields ∧ RoomGeometry.Restates s.roomGeometry fields := by
  obtain ⟨hstated, hkept⟩ := roomGeometry_handleDeviceCommand s uptimeMs hfields hnumeric
  rw [roomGeometry_haRoomConfig n hfields hnumeric, ← hstored]
  have hparity (core : RoomGeometry) : RoomParity s.roomGeometry fields core
      (s.roomGeometry.updated fields) ↔ core = s.roomGeometry.updated fields := by
    refine ⟨fun h => h.same, ?_⟩
    rintro rfl
    exact ⟨rfl, RoomGeometry.keepsRules_updated _ _, RoomGeometry.keepsRules_updated _ _⟩
  rw [hparity]
  by_cases hreads : ReadsNumbers fields
  · rw [hstated hreads, stated_eq_updated_iff hreads, or_iff_left fun h => h.1 hreads]
  · rw [hkept hreads, eq_comm, RoomGeometry.updated_eq_iff, and_iff_right hreads,
      or_iff_right fun h => hreads (readsNumbers_of_statedAlike hnumeric h)]

/-- A node that stores what a new node of the port stores. -/
def newNode : NodeState :=
  { runtimeConfig := { roomId := defaultRoomId, sensorRole := defaultSensorRole } }

theorem roomGeometry_newNode : FirmwareState.roomGeometry {} = newNode.runtimeConfig.roomGeometry := rfl

theorem roomParity_conference : NumericRoom #v["conference-a", "fixed", "230", "110", "180", "620", "410"] ∧
    (RoomParity (FirmwareState.roomGeometry {}) #v["conference-a", "fixed", "230", "110", "180", "620", "410"]
        (FirmwareState.handleDeviceCommand {} 0
          (.homeAssistantRoomConfig "conference-a|fixed|230|110|180|620|410".toList)).state.roomGeometry
        (newNode.haRoomConfig
          (splitConfigFields "conference-a|fixed|230|110|180|620|410".toList 7)).runtimeConfig.roomGeometry ↔
      RoomGeometry.StatedAlike #v["conference-a", "fixed", "230", "110", "180", "620", "410"] ∨
        ¬ ReadsNumbers #v["conference-a", "fixed", "230", "110", "180", "620", "410"] ∧
          RoomGeometry.Restates (FirmwareState.roomGeometry {})
            #v["conference-a", "fixed", "230", "110", "180", "620", "410"]) :=
  ⟨by unfold NumericRoom; decide,
    roomParity_iff {} newNode 0 (by decide) (by unfold NumericRoom; decide) roomGeometry_newNode⟩

/-- With an empty pose, the port does not even take the room. -/
theorem roomConfig_differs : ¬ ∀ (s : FirmwareState) (n : NodeState) (uptimeMs : ℕ) (payload : Str)
    (fields : Vector Str 7), splitFields 7 payload = .ok fields → NumericRoom fields →
      s.roomGeometry = n.runtimeConfig.roomGeometry →
      RoomParity s.roomGeometry fields
        (s.handleDeviceCommand uptimeMs (.homeAssistantRoomConfig payload)).state.roomGeometry
        (n.haRoomConfig (splitConfigFields payload 7)).runtimeConfig.roomGeometry := by
  intro hall
  have hparity := hall {} newNode 0 "attic|auto||20|0|600|400".toList
    #v["attic", "auto", "", "20", "0", "600", "400"] (by decide) (by unfold NumericRoom; decide)
    roomGeometry_newNode
  exact absurd (congrArg RoomGeometry.roomId hparity.same) (by decide)

end EspWaveRider.Cpp
