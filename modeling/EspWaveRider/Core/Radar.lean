import EspWaveRider.Lib.Text

/-!
# Radar frames

The parser of `rust/crates/espwaverider-core/src/radar.rs`.  A buffer taken from
the radar UART is one of three things: an energy frame (header, sixteen gate
energies, footer), a text frame (`ON`, `OFF`, `Range n`) or anything else.

* `parseRadarFrame` and the two parsers it tries first;
* `energyFrameBytes` — the 45 bytes the sensor sends for one energy sample, and
  `parseRadarFrame_energyFrameBytes`, which reads them back;
* `energy_length_le` — an energy frame is never shorter than 45 bytes.
-/

namespace EspWaveRider.Radar

open Text

def energyHeader : List UInt8 := [0xF4, 0xF3, 0xF2, 0xF1]
def energyFooter : List UInt8 := [0xF8, 0xF7, 0xF6, 0xF5]
def energyGateCount : ℕ := 16
def energyFrameMinLength : ℕ := 45

structure EnergyFrame where
  length : ℕ
  payloadLength : UInt16
  presence : Bool
  distanceCm : UInt16
  gates : Vector UInt16 16
  deriving DecidableEq

structure TextFrame where
  length : ℕ
  presence : Bool
  rangeCm : Option UInt16
  hex : Str
  ascii : Str
  deriving DecidableEq

structure GenericFrame where
  length : ℕ
  hex : Str
  ascii : Str
  deriving DecidableEq

inductive RadarFrame where
  | energy (frame : EnergyFrame)
  | text (frame : TextFrame)
  | generic (frame : GenericFrame)
  deriving DecidableEq

/-! ## The parser -/

def startsWithEnergyHeader (data : List UInt8) : Bool := energyHeader.isPrefixOf data

def endsWithEnergyFooter (data : List UInt8) : Bool := energyFooter.isSuffixOf data

/-- A little-endian `u16` at `offset`. -/
def readLe16 (data : List UInt8) (offset : ℕ) : Option UInt16 := do
  let first ← data[offset]?
  let second ← data[offset + 1]?
  some (first.toUInt16 ||| (second.toUInt16 <<< 8))

/-- The sixteen gates, `none` when the buffer ends before the last of them. -/
def readGates (data : List UInt8) : Option (Vector UInt16 16) :=
  if h : ∀ i : Fin 16, (readLe16 data (9 + i * 2)).isSome then
    some (Vector.ofFn fun i => (readLe16 data (9 + i * 2)).get (h i))
  else none

def tryParseEnergyFrame (data : List UInt8) : Option EnergyFrame :=
  if data.length < energyFrameMinLength then none
  else if !startsWithEnergyHeader data || !endsWithEnergyFooter data then none
  else do
    let payloadLength ← readLe16 data 4
    let presence : UInt8 ← data[6]?
    let distanceCm ← readLe16 data 7
    let gates ← readGates data
    some { length := data.length, payloadLength, presence := presence != 0, distanceCm, gates }

/-- The bytes as text when all of them are CR, LF, TAB or printable ASCII. -/
def parseTextishAscii (data : List UInt8) : Option Str :=
  data.mapM fun byte =>
    if byte = 13 ∨ byte = 10 ∨ byte = 9 ∨ (32 ≤ byte ∧ byte ≤ 126) then
      some (Char.ofNat byte.toNat)
    else none

def extractRangeCm (ascii : Str) : Option UInt16 := do
  let rangeStart ← find? ("Range" : Str) ascii
  let rangeText := trim (ascii.drop (rangeStart + 5))
  (parseUnsigned 65535 rangeText).map UInt16.ofNat

def hexDigit (n : ℕ) : Char := ("0123456789ABCDEF" : Str).getD n '0'

def buildHexString (data : List UInt8) : Str :=
  data.flatMap fun byte => [hexDigit (byte.toNat / 16), hexDigit (byte.toNat % 16)]

def buildAsciiString (data : List UInt8) : Str :=
  data.map fun byte => if 32 ≤ byte ∧ byte ≤ 126 then Char.ofNat byte.toNat else '.'

def tryParseTextFrame (data : List UInt8) : Option TextFrame := do
  let ascii ← parseTextishAscii data
  if !contains ascii "Range" && !contains ascii "ON" && !contains ascii "OFF" then none
  else some {
    length := data.length
    presence := contains ascii "ON"
    rangeCm := extractRangeCm ascii
    hex := buildHexString data
    ascii }

/-- Classify a buffer; `none` stands for the `RadarParseError` of an empty one. -/
def parseRadarFrame (data : List UInt8) : Option RadarFrame :=
  if data = [] then none
  else match tryParseEnergyFrame data with
    | some frame => some (.energy frame)
    | none =>
      match tryParseTextFrame data with
      | some frame => some (.text frame)
      | none => some (.generic {
          length := data.length
          hex := buildHexString data
          ascii := buildAsciiString data })

/-- Only the empty buffer is an error. -/
theorem parseRadarFrame_isSome {data : List UInt8} (h : data ≠ []) :
    (parseRadarFrame data).isSome := by
  rw [parseRadarFrame, if_neg h]
  split
  · rfl
  · split <;> rfl

/-- An energy frame is never cut from fewer than 45 bytes. -/
theorem energy_length_le {data : List UInt8} {frame : EnergyFrame}
    (h : parseRadarFrame data = some (.energy frame)) : 45 ≤ data.length := by
  rw [parseRadarFrame] at h
  split at h
  · cases h
  · split at h
    · rename_i hparse
      by_contra hlt
      rw [tryParseEnergyFrame, if_pos (by simpa [energyFrameMinLength] using hlt)] at hparse
      cases hparse
    · split at h <;> cases h

/-! ## The bytes of one energy sample -/

/-- What the sensor reports in one energy frame; `presence` is the raw byte. -/
structure EnergySample where
  payloadLength : UInt16
  presence : UInt8
  distanceCm : UInt16
  gates : Vector UInt16 16

def le16 (v : UInt16) : List UInt8 := [v.toUInt8, (v >>> 8).toUInt8]

/-- The 45 bytes sent for a sample. -/
def energyFrameBytes (s : EnergySample) : List UInt8 :=
  energyHeader ++ le16 s.payloadLength ++ [s.presence] ++ le16 s.distanceCm ++
    s.gates.toList.flatMap le16 ++ energyFooter

/-- The frame a sample is read back as. -/
def EnergySample.frame (s : EnergySample) : EnergyFrame :=
  { length := 45, payloadLength := s.payloadLength, presence := s.presence != 0,
    distanceCm := s.distanceCm, gates := s.gates }

/-- The two bytes of a `u16` put together again. -/
theorem le16_join (v : UInt16) :
    v.toUInt8.toUInt16 ||| ((v >>> 8).toUInt8.toUInt16 <<< 8) = v := by
  have hv := v.toNat_lt
  have hlow : v.toNat % 2 ^ 8 < 2 ^ 8 := Nat.mod_lt _ (by norm_num)
  have hor := Nat.two_pow_add_eq_or_of_lt hlow (v.toNat / 2 ^ 8)
  apply UInt16.toNat_inj.1
  simp only [UInt16.toNat_or, UInt8.toNat_toUInt16, UInt16.toNat_toUInt8, UInt16.toNat_shiftLeft,
    UInt16.toNat_shiftRight, Nat.shiftLeft_eq, Nat.shiftRight_eq_div_pow]
  have h8 : (8 : UInt16).toNat % 16 = 8 := by decide
  rw [h8, Nat.mod_eq_of_lt (show v.toNat / 2 ^ 8 < 2 ^ 8 by omega),
    Nat.mod_eq_of_lt (show v.toNat / 2 ^ 8 * 2 ^ 8 < 2 ^ 16 by omega), Nat.or_comm,
    Nat.mul_comm, ← hor]
  exact Nat.div_add_mod _ _

theorem readLe16_eq {data : List UInt8} {offset : ℕ} {v : UInt16}
    (h0 : data[offset]? = some v.toUInt8) (h1 : data[offset + 1]? = some (v >>> 8).toUInt8) :
    readLe16 data offset = some v := by
  simp only [readLe16, h0, h1, Option.bind_eq_bind, Option.bind_some]
  rw [le16_join]

theorem getElem?_flatMap_le16 {l : List UInt16} {i : ℕ} (h : i < l.length) :
    (l.flatMap le16)[2 * i]? = some l[i].toUInt8 ∧
      (l.flatMap le16)[2 * i + 1]? = some (l[i] >>> 8).toUInt8 := by
  induction l generalizing i with
  | nil => simp at h
  | cons v l ih =>
    match i with
    | 0 => simp [le16]
    | i + 1 =>
      have h' : i < l.length := by simpa using h
      simpa [le16, Nat.mul_add] using ih h'

theorem length_flatMap_le16 (l : List UInt16) : (l.flatMap le16).length = 2 * l.length := by
  induction l with
  | nil => rfl
  | cons v l ih => simp [le16, ih]; omega

@[simp] theorem length_energyFrameBytes (s : EnergySample) : (energyFrameBytes s).length = 45 := by
  simp [energyFrameBytes, energyHeader, energyFooter, le16]

theorem readGates_energyFrameBytes (s : EnergySample) :
    readGates (energyFrameBytes s) = some s.gates := by
  have hgate (i : Fin 16) : readLe16 (energyFrameBytes s) (9 + i * 2) = some s.gates[i] := by
    have hi : (i : ℕ) < s.gates.toList.length := by simp
    obtain ⟨h0, h1⟩ := getElem?_flatMap_le16 hi
    have hlen := length_flatMap_le16 s.gates.toList
    have hlt : 2 * (i : ℕ) + 1 < (s.gates.toList.flatMap le16).length := by
      rw [hlen]
      omega
    have hsplit : energyFrameBytes s =
        (energyHeader ++ le16 s.payloadLength ++ [s.presence] ++ le16 s.distanceCm) ++
          (s.gates.toList.flatMap le16 ++ energyFooter) := by
      simp [energyFrameBytes]
    refine readLe16_eq ?_ ?_
    · rw [hsplit, List.getElem?_append_right (by simp [energyHeader, le16]),
        List.getElem?_append_left (by simp [energyHeader, le16]; omega)]
      simpa [energyHeader, le16, Nat.mul_comm] using h0
    · rw [hsplit, List.getElem?_append_right (by simp [energyHeader, le16]; omega),
        List.getElem?_append_left (by simp [energyHeader, le16]; omega)]
      have hidx : 9 + (i : ℕ) * 2 + 1 - 9 = 2 * i + 1 := by omega
      simpa [energyHeader, le16, hidx] using h1
  rw [readGates, dif_pos (fun i => by rw [hgate i]; rfl)]
  congr 1
  ext i hi
  simp [hgate ⟨i, hi⟩]

theorem tryParseEnergyFrame_energyFrameBytes (s : EnergySample) :
    tryParseEnergyFrame (energyFrameBytes s) = some s.frame := by
  have hstart : startsWithEnergyHeader (energyFrameBytes s) = true := by
    simp [startsWithEnergyHeader, energyFrameBytes, energyHeader]
  have hend : endsWithEnergyFooter (energyFrameBytes s) = true := by
    rw [endsWithEnergyFooter, List.isSuffixOf_iff_suffix]
    exact List.suffix_append _ _
  have hpayload : readLe16 (energyFrameBytes s) 4 = some s.payloadLength :=
    readLe16_eq (by simp [energyFrameBytes, energyHeader, le16])
      (by simp [energyFrameBytes, energyHeader, le16])
  have hdistance : readLe16 (energyFrameBytes s) 7 = some s.distanceCm :=
    readLe16_eq (by simp [energyFrameBytes, energyHeader, le16])
      (by simp [energyFrameBytes, energyHeader, le16])
  have hpresence : (energyFrameBytes s)[6]? = some s.presence := by
    simp [energyFrameBytes, energyHeader, le16]
  rw [tryParseEnergyFrame, if_neg (by simp [energyFrameMinLength]), if_neg (by simp [hstart, hend])]
  simp only [hpayload, hdistance, hpresence, readGates_energyFrameBytes, Option.bind_eq_bind,
    Option.bind_some, length_energyFrameBytes]
  rfl

/-- The sensor's bytes are read back as the sample they encode. -/
theorem parseRadarFrame_energyFrameBytes (s : EnergySample) :
    parseRadarFrame (energyFrameBytes s) = some (.energy s.frame) := by
  have hne : energyFrameBytes s ≠ [] := by
    intro h
    have := length_energyFrameBytes s
    simp [h] at this
  rw [parseRadarFrame, if_neg hne, tryParseEnergyFrame_energyFrameBytes]

end EspWaveRider.Radar
