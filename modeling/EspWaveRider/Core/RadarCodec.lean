import EspWaveRider.Core.Radar
import EspWaveRider.Lib.Hex

/-!
# What the radar parser accepts

`parse_radar_frame` of `rust/crates/espwaverider-core/src/radar.rs`, seen from both
sides: what a sample is read back as, and what a buffer is that is read as a frame.

* `radarCodec` — energy frames are the encodings of their samples, and every buffer
  is classified by its length, its ends and its bytes;
* `radarText_lossless` — text and generic frames keep every byte.
-/

namespace EspWaveRider.Radar

open Text

/-! ## Reading and writing sixteen bits -/

/-- The number of two bytes, the low one first. -/
def joinLe16 (first second : UInt8) : UInt16 := first.toUInt16 ||| (second.toUInt16 <<< 8)

theorem le16_joinLe16 (first second : UInt8) : le16 (joinLe16 first second) = [first, second] := by
  have hfirst := first.toNat_lt
  have hsecond := second.toNat_lt
  have hvalue : (joinLe16 first second).toNat = second.toNat * 2 ^ 8 + first.toNat := by
    have hor := Nat.two_pow_add_eq_or_of_lt hfirst second.toNat
    simp only [joinLe16, UInt16.toNat_or, UInt8.toNat_toUInt16, UInt16.toNat_shiftLeft,
      Nat.shiftLeft_eq]
    have h8 : (8 : UInt16).toNat % 16 = 8 := by decide
    rw [h8, Nat.mod_eq_of_lt (show second.toNat * 2 ^ 8 < 2 ^ 16 by omega), Nat.or_comm,
      Nat.mul_comm, ← hor]
  have hlow : (joinLe16 first second).toUInt8 = first := by
    apply UInt8.toNat_inj.1
    rw [UInt16.toNat_toUInt8, hvalue]
    omega
  have hhigh : (joinLe16 first second >>> 8).toUInt8 = second := by
    have h8 : (8 : UInt16).toNat % 16 = 8 := by decide
    apply UInt8.toNat_inj.1
    rw [UInt16.toNat_toUInt8, UInt16.toNat_shiftRight, h8, hvalue, Nat.shiftRight_eq_div_pow]
    omega
  rw [le16, hlow, hhigh]

theorem readLe16_eq_some_iff {data : List UInt8} {offset : ℕ} {v : UInt16} :
    readLe16 data offset = some v ↔
      ∃ first second, data[offset]? = some first ∧ data[offset + 1]? = some second ∧
        joinLe16 first second = v := by
  unfold readLe16
  cases hfirst : data[offset]? with
  | none => simp
  | some first =>
    cases hsecond : data[offset + 1]? with
    | none => simp
    | some second => simp [joinLe16]

theorem readLe16_isSome {data : List UInt8} {offset : ℕ} (h : offset + 1 < data.length) :
    ∃ v, readLe16 data offset = some v :=
  ⟨_, readLe16_eq_some_iff.2 ⟨_, _, List.getElem?_eq_getElem (by omega),
    List.getElem?_eq_getElem h, rfl⟩⟩

/-- The two bytes that were read. -/
theorem take_of_readLe16 {data : List UInt8} {offset : ℕ} {v : UInt16}
    (h : readLe16 data offset = some v) : (data.drop offset).take 2 = le16 v := by
  obtain ⟨first, second, hfirst, hsecond, rfl⟩ := readLe16_eq_some_iff.1 h
  obtain ⟨hlt, hfirst⟩ := List.getElem?_eq_some_iff.1 hfirst
  obtain ⟨hlt', hsecond⟩ := List.getElem?_eq_some_iff.1 hsecond
  rw [le16_joinLe16, List.drop_eq_getElem_cons hlt, List.drop_eq_getElem_cons hlt', hfirst, hsecond]
  rfl

/-- The bytes of numbers that were read one after the other. -/
theorem take_of_forall_readLe16 {data : List UInt8} {offset : ℕ} (values : List UInt16)
    (h : ∀ i v, values[i]? = some v → readLe16 data (offset + i * 2) = some v) :
    (data.drop offset).take (2 * values.length) = values.flatMap le16 := by
  induction values generalizing offset with
  | nil => rfl
  | cons v values ih =>
    have hfirst : (data.drop offset).take 2 = le16 v := take_of_readLe16 (h 0 v rfl)
    have hrest : ∀ i w, values[i]? = some w → readLe16 data (offset + 2 + i * 2) = some w := by
      intro i w hi
      have hnext := h (i + 1) w (by simpa using hi)
      rwa [show offset + (i + 1) * 2 = offset + 2 + i * 2 by omega] at hnext
    have hsplit : 2 * (v :: values).length = 2 + 2 * values.length := by
      rw [List.length_cons]
      omega
    rw [hsplit, List.take_add, List.drop_drop, ih hrest, List.flatMap_cons, hfirst]

/-! ## Energy frames -/

/-- The conditions on an energy frame. -/
structure IsEnergyBuffer (data : List UInt8) : Prop where
  length : 45 ≤ data.length
  header : energyHeader <+: data
  footer : energyFooter <:+ data

/-- The bytes 4 to 41 are those of the frame, up to the value of a byte that is not zero. -/
structure EncodesFrame (data : List UInt8) (frame : EnergyFrame) : Prop where
  framed : IsEnergyBuffer data
  length : frame.length = data.length
  fields : ∃ presence : UInt8, frame.presence = (presence != 0) ∧
    (data.drop 4).take 37 = le16 frame.payloadLength ++ [presence] ++ le16 frame.distanceCm ++
      frame.gates.toList.flatMap le16

/-- What is read of a buffer with header and footer. -/
theorem tryParseEnergyFrame_of_framed {data : List UInt8} (h : IsEnergyBuffer data) :
    tryParseEnergyFrame data = (do
      let payloadLength ← readLe16 data 4
      let presence : UInt8 ← data[6]?
      let distanceCm ← readLe16 data 7
      let gates ← readGates data
      some { length := data.length, payloadLength, presence := presence != 0, distanceCm, gates }) := by
  have hlength : ¬ data.length < energyFrameMinLength := not_lt.2 h.length
  have hstart : startsWithEnergyHeader data = true := List.isPrefixOf_iff_prefix.2 h.header
  have hend : endsWithEnergyFooter data = true := List.isSuffixOf_iff_suffix.2 h.footer
  rw [tryParseEnergyFrame, if_neg hlength, if_neg (by simp [hstart, hend])]

theorem framed_of_tryParse {data : List UInt8} (h : (tryParseEnergyFrame data).isSome) :
    IsEnergyBuffer data := by
  unfold tryParseEnergyFrame at h
  split_ifs at h with hlength hends
  · cases h
  · cases h
  · simp only [Bool.or_eq_true, Bool.not_eq_true', not_or, Bool.not_eq_false] at hends
    exact ⟨not_lt.1 hlength, List.isPrefixOf_iff_prefix.1 hends.1,
      List.isSuffixOf_iff_suffix.1 hends.2⟩

theorem readGates_of_length {data : List UInt8} (h : 45 ≤ data.length) :
    ∃ gates, readGates data = some gates ∧
      (data.drop 9).take 32 = gates.toList.flatMap le16 := by
  have hgate (i : Fin 16) : ∃ v, readLe16 data (9 + i * 2) = some v :=
    readLe16_isSome (by omega)
  have hsome : ∀ i : Fin 16, (readLe16 data (9 + i * 2)).isSome := by
    intro i
    obtain ⟨v, hv⟩ := hgate i
    rw [hv]
    rfl
  refine ⟨_, dif_pos hsome, ?_⟩
  have hall : ∀ i v, (Vector.ofFn fun i : Fin 16 =>
      (readLe16 data (9 + i * 2)).get (hsome i)).toList[i]? = some v →
        readLe16 data (9 + i * 2) = some v := by
    intro i v hv
    obtain ⟨hi, hv⟩ := List.getElem?_eq_some_iff.1 hv
    rw [Vector.getElem_toList, Vector.getElem_ofFn] at hv
    rw [← hv]
    exact (Option.some_get _).symm
  have hlist := take_of_forall_readLe16 _ hall
  rwa [Vector.length_toList] at hlist

/-- A buffer with header, footer and 45 bytes is read as a frame, and encodes it. -/
theorem exists_frame_of_framed {data : List UInt8} (h : IsEnergyBuffer data) :
    ∃ frame, tryParseEnergyFrame data = some frame ∧ EncodesFrame data frame := by
  have hlength := h.length
  have hread (offset : ℕ) (hroom : offset + 1 < 45) : ∃ v, readLe16 data offset = some v :=
    readLe16_isSome (hroom.trans_le hlength)
  obtain ⟨payloadLength, hpayload⟩ := hread 4 (by decide)
  obtain ⟨distanceCm, hdistance⟩ := hread 7 (by decide)
  obtain ⟨gates, hgates, hgateBytes⟩ := readGates_of_length hlength
  have hlt : 6 < data.length := by omega
  have hpresence : data[6]? = some data[6] := List.getElem?_eq_getElem hlt
  refine ⟨{ length := data.length, payloadLength, presence := data[6] != 0, distanceCm, gates },
    ?_, h, rfl, data[6], rfl, ?_⟩
  · rw [tryParseEnergyFrame_of_framed h, hpayload, hdistance, hpresence, hgates]
    rfl
  · -- the four fields are neighbours
    have hcut : (data.drop 4).take 37 = (data.drop 4).take 2 ++ (data.drop 6).take 1 ++
        (data.drop 7).take 2 ++ (data.drop 9).take 32 := by
      rw [show 37 = 2 + (1 + (2 + 32)) from rfl]
      simp only [List.take_add, List.drop_drop, List.append_assoc]
    have hone : (data.drop 6).take 1 = [data[6]] := by
      rw [List.drop_eq_getElem_cons hlt]
      rfl
    rw [hcut, take_of_readLe16 hpayload, hone, take_of_readLe16 hdistance, hgateBytes]

theorem parseRadarFrame_energy_iff {data : List UInt8} {frame : EnergyFrame} :
    parseRadarFrame data = some (.energy frame) ↔ tryParseEnergyFrame data = some frame := by
  unfold parseRadarFrame
  by_cases hempty : data = []
  · rw [if_pos hempty, hempty]
    exact iff_of_false (by simp) (by simp [tryParseEnergyFrame, energyFrameMinLength])
  · rw [if_neg hempty]
    cases henergy : tryParseEnergyFrame data with
    | some found => simp
    | none => cases htext : tryParseTextFrame data <;> simp

theorem parseRadarFrame_text_iff {data : List UInt8} {frame : TextFrame} :
    parseRadarFrame data = some (.text frame) ↔
      tryParseEnergyFrame data = none ∧ tryParseTextFrame data = some frame := by
  unfold parseRadarFrame
  by_cases hempty : data = []
  · rw [if_pos hempty, hempty]
    have hnone : tryParseTextFrame [] = none := by decide
    exact iff_of_false (by simp) (by simp [hnone])
  · rw [if_neg hempty]
    cases henergy : tryParseEnergyFrame data with
    | some found => simp
    | none => cases htext : tryParseTextFrame data <;> simp

theorem parseRadarFrame_generic_iff {data : List UInt8} {frame : GenericFrame} :
    parseRadarFrame data = some (.generic frame) ↔
      data ≠ [] ∧ tryParseEnergyFrame data = none ∧ tryParseTextFrame data = none ∧
        { length := data.length, hex := buildHexString data, ascii := buildAsciiString data } =
          frame := by
  unfold parseRadarFrame
  by_cases hempty : data = []
  · rw [if_pos hempty]
    exact iff_of_false (by simp) fun h => h.1 hempty
  · rw [if_neg hempty]
    cases henergy : tryParseEnergyFrame data with
    | some found => simp
    | none => cases htext : tryParseTextFrame data <;> simp [hempty]

/-! ## Text -/

/-- CR, LF, TAB and printable ASCII. -/
def Textish (byte : UInt8) : Prop := byte = 13 ∨ byte = 10 ∨ byte = 9 ∨ (32 ≤ byte ∧ byte ≤ 126)

instance decidableTextish (byte : UInt8) : Decidable (Textish byte) :=
  inferInstanceAs (Decidable (_ ∨ _))

/-- Every byte as the character with its number. -/
def asciiText (data : List UInt8) : Str := data.map fun byte => Char.ofNat byte.toNat

theorem parseTextishAscii_eq (data : List UInt8) :
    parseTextishAscii data = if ∀ byte ∈ data, Textish byte then some (asciiText data) else none := by
  induction data with
  | nil =>
    rw [if_pos fun byte hbyte => absurd hbyte List.not_mem_nil]
    rfl
  | cons byte data ih =>
    rw [parseTextishAscii, List.mapM_cons]
    by_cases hbyte : Textish byte
    · have hhead : (if byte = 13 ∨ byte = 10 ∨ byte = 9 ∨ (32 ≤ byte ∧ byte ≤ 126) then
          some (Char.ofNat byte.toNat) else none) = some (Char.ofNat byte.toNat) := if_pos hbyte
      rw [hhead]
      show (parseTextishAscii data).bind (fun rest => some (Char.ofNat byte.toNat :: rest)) = _
      rw [ih]
      by_cases hrest : ∀ b ∈ data, Textish b
      · have hall : ∀ b ∈ byte :: data, Textish b := List.forall_mem_cons.2 ⟨hbyte, hrest⟩
        rw [if_pos hrest, if_pos hall]
        rfl
      · have hnot : ¬ ∀ b ∈ byte :: data, Textish b := fun h => hrest (List.forall_mem_cons.1 h).2
        rw [if_neg hrest, if_neg hnot]
        rfl
    · have hhead : (if byte = 13 ∨ byte = 10 ∨ byte = 9 ∨ (32 ≤ byte ∧ byte ≤ 126) then
          some (Char.ofNat byte.toNat) else none) = none := if_neg hbyte
      have hnot : ¬ ∀ b ∈ byte :: data, Textish b := fun h => hbyte (List.forall_mem_cons.1 h).1
      rw [hhead, if_neg hnot]
      rfl

/-- The conditions on a text frame. -/
def IsTextBuffer (data : List UInt8) : Prop :=
  (∀ byte ∈ data, Textish byte) ∧
    (("Range" : Str) <:+: asciiText data ∨ ("ON" : Str) <:+: asciiText data ∨
      ("OFF" : Str) <:+: asciiText data)

theorem tryParseTextFrame_isSome_iff (data : List UInt8) :
    (tryParseTextFrame data).isSome ↔ IsTextBuffer data := by
  unfold tryParseTextFrame IsTextBuffer
  rw [parseTextishAscii_eq]
  split_ifs with htextish
  · rw [Option.bind_eq_bind, Option.bind_some, ← contains_iff, ← contains_iff, ← contains_iff,
      and_iff_right htextish]
    cases contains (asciiText data) "Range" <;> cases contains (asciiText data) "ON" <;>
      cases contains (asciiText data) "OFF" <;> simp
  · exact iff_of_false (by simp) fun h => htextish h.1

/-! ## The classification -/

/-- How a buffer is classified: each class under its own condition. -/
structure Classified (data : List UInt8) : Prop where
  error : parseRadarFrame data = none ↔ data = []
  energy : (∃ frame, parseRadarFrame data = some (.energy frame)) ↔ IsEnergyBuffer data
  text : (∃ frame, parseRadarFrame data = some (.text frame)) ↔
    ¬ IsEnergyBuffer data ∧ IsTextBuffer data
  generic : (∃ frame, parseRadarFrame data = some (.generic frame)) ↔
    data ≠ [] ∧ ¬ IsEnergyBuffer data ∧ ¬ IsTextBuffer data

theorem tryParseEnergyFrame_isSome_iff (data : List UInt8) :
    (tryParseEnergyFrame data).isSome ↔ IsEnergyBuffer data := by
  refine ⟨framed_of_tryParse, fun h => ?_⟩
  obtain ⟨frame, hframe, -⟩ := exists_frame_of_framed h
  rw [hframe]
  rfl

theorem classified (data : List UInt8) : Classified data := by
  have henergy : tryParseEnergyFrame data = none ↔ ¬ IsEnergyBuffer data := by
    rw [← tryParseEnergyFrame_isSome_iff, Option.not_isSome_iff_eq_none]
  have htext : tryParseTextFrame data = none ↔ ¬ IsTextBuffer data := by
    rw [← tryParseTextFrame_isSome_iff, Option.not_isSome_iff_eq_none]
  refine ⟨?_, ?_, ?_, ?_⟩
  · constructor
    · intro hnone
      by_contra hne
      have hsome := parseRadarFrame_isSome hne
      rw [hnone] at hsome
      cases hsome
    · exact fun hempty => if_pos hempty
  · simp only [parseRadarFrame_energy_iff]
    rw [← Option.isSome_iff_exists, tryParseEnergyFrame_isSome_iff]
  · simp only [parseRadarFrame_text_iff]
    rw [exists_and_left, ← Option.isSome_iff_exists, tryParseTextFrame_isSome_iff, henergy]
  · simp only [parseRadarFrame_generic_iff]
    rw [exists_and_left, exists_and_left, exists_and_left, henergy, htext]
    simp

/-- The encoding of every sample is read back, what is read as an energy frame encodes it, and
every buffer is classified. -/
theorem radarCodec :
    (∀ s : EnergySample, parseRadarFrame (energyFrameBytes s) = some (.energy s.frame)) ∧
    (∀ data frame, parseRadarFrame data = some (.energy frame) → EncodesFrame data frame) ∧
    ∀ data, Classified data := by
  refine ⟨parseRadarFrame_energyFrameBytes, fun data frame hparse => ?_, classified⟩
  have hframe := parseRadarFrame_energy_iff.1 hparse
  have hframed : IsEnergyBuffer data := framed_of_tryParse (by rw [hframe]; rfl)
  obtain ⟨found, hfound, hencodes⟩ := exists_frame_of_framed hframed
  rw [hframe] at hfound
  cases hfound
  exact hencodes

/-! ## Text and generic frames keep the bytes -/

theorem toNat_ofNat_byte (byte : UInt8) : (Char.ofNat byte.toNat).toNat = byte.toNat := by
  have hbyte := byte.toNat_lt
  exact Text.toNat_ofNat (by omega)

/-- A frame with the bytes of `data`: its length, and its digits read back. -/
structure KeepsBytes (data : List UInt8) (length : ℕ) (hex : Str) : Prop where
  length : length = data.length
  hex : Hex.decode hex = some data

theorem keepsBytes (data : List UInt8) : KeepsBytes data data.length (buildHexString data) :=
  ⟨rfl, Hex.decode_encode data⟩

/-- What a text frame is made of. -/
theorem text_of_parse {data : List UInt8} {text : TextFrame}
    (h : parseRadarFrame data = some (.text text)) :
    text.length = data.length ∧ text.hex = buildHexString data ∧ text.ascii = asciiText data := by
  obtain ⟨-, hfound⟩ := parseRadarFrame_text_iff.1 h
  unfold tryParseTextFrame at hfound
  rw [parseTextishAscii_eq] at hfound
  split_ifs at hfound
  · rw [Option.bind_eq_bind, Option.bind_some] at hfound
    split_ifs at hfound
    cases hfound
    exact ⟨rfl, rfl, rfl⟩
  · cases hfound

theorem toNat_asciiText (data : List UInt8) :
    (asciiText data).map Char.toNat = data.map UInt8.toNat := by
  rw [asciiText, List.map_map]
  exact List.map_congr_left fun byte _ => toNat_ofNat_byte byte

theorem toNat_buildAsciiString (data : List UInt8) : (buildAsciiString data).map Char.toNat =
    data.map fun byte => if 32 ≤ byte ∧ byte ≤ 126 then byte.toNat else '.'.toNat := by
  rw [buildAsciiString, List.map_map]
  refine List.map_congr_left fun byte _ => ?_
  show (if 32 ≤ byte ∧ byte ≤ 126 then Char.ofNat byte.toNat else '.').toNat = _
  rw [apply_ite Char.toNat, toNat_ofNat_byte]

/-- The text of a text frame is its bytes; that of a generic frame is as long, the bytes where
they are printable and dots elsewhere. -/
theorem radarText_lossless (data : List UInt8) :
    (∀ text, parseRadarFrame data = some (.text text) →
      KeepsBytes data text.length text.hex ∧ text.ascii.map Char.toNat = data.map UInt8.toNat) ∧
    ∀ generic, parseRadarFrame data = some (.generic generic) →
      KeepsBytes data generic.length generic.hex ∧ generic.ascii.length = data.length ∧
        generic.ascii.map Char.toNat =
          data.map fun byte => if 32 ≤ byte ∧ byte ≤ 126 then byte.toNat else '.'.toNat := by
  constructor
  · intro text hparse
    obtain ⟨hlength, hhex, hascii⟩ := text_of_parse hparse
    rw [hlength, hhex, hascii]
    exact ⟨keepsBytes data, toNat_asciiText data⟩
  · intro generic hparse
    obtain ⟨-, -, -, rfl⟩ := parseRadarFrame_generic_iff.1 hparse
    exact ⟨keepsBytes data, List.length_map _, toNat_buildAsciiString data⟩

end EspWaveRider.Radar
