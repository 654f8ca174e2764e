import EspWaveRider.Cpp.Text

/-!
# The radar UART of the C++ firmware

`readRadarUart`, `flushRadarBufferIfNeeded` and `tryEmitEmbeddedLd2420EnergyFrames` of
`src/main.cpp`.  Bytes are collected in a buffer of 256; when the line is idle or the buffer is
full, the energy frames in it are emitted and what follows the last of them is kept.  A write
outside the buffer is `none`.

* `readRadarUart` — one call, and what it calls;
* `isSome_readRadarUart` — no write is outside the buffer, whatever arrives;
* `radarFrames_kept` — frames that arrive without a pause inside are emitted once and in order.
-/

namespace EspWaveRider.Cpp

open Text

def radarIdleFrameGapMs : UInt32 := 20
def radarFrameBufferSize : ℕ := 256
def energyHeader : List UInt8 := [0xF4, 0xF3, 0xF2, 0xF1]
def energyFooter : List UInt8 := [0xF8, 0xF7, 0xF6, 0xF5]
def energyFrameLength : ℕ := 45
def ld2420GateCount : ℕ := 16

/-! ## Frames -/

structure LatestEnergyFrameSnapshot where
  updatedAtMs : UInt32
  length : ℕ
  payloadLength : UInt16
  presence : Bool
  distanceCm : UInt16
  gates : List UInt16
  bytesTotal : UInt32
  framesTotal : UInt32
  energyFramesTotal : UInt32
  deriving DecidableEq

structure LatestTextFrameSnapshot where
  updatedAtMs : UInt32
  length : ℕ
  presence : Bool
  range : ℤ
  bytesTotal : UInt32
  framesTotal : UInt32
  ascii : Str
  deriving DecidableEq

/-- The JSON lines about frames, with the bytes they are about. -/
inductive RadarEvent where
  | ld2420Energy (data : List UInt8)
  | ld2420TextRange (data : List UInt8)
  | radarUartFrame (data : List UInt8)
  deriving DecidableEq

def startsWithEnergyHeader (data : List UInt8) : Bool := energyHeader.isPrefixOf data

def endsWithEnergyFooter (data : List UInt8) : Bool := energyFooter.isSuffixOf data

def readLe16 (data : List UInt8) (offset : ℕ) : UInt16 :=
  (data.getD offset 0).toUInt16 ||| ((data.getD (offset + 1) 0).toUInt16 <<< 8)

def parseLd2420EnergyFrame (data : List UInt8) (now : UInt32) : Option LatestEnergyFrameSnapshot :=
  if data.length < energyFrameLength then none
  else if !startsWithEnergyHeader data || !endsWithEnergyFooter data then none
  else some {
    updatedAtMs := now
    length := data.length
    payloadLength := readLe16 data 4
    presence := data.getD 6 0 != 0
    distanceCm := readLe16 data 7
    gates := (List.range ld2420GateCount).map fun i => readLe16 data (9 + i * 2)
    bytesTotal := UInt32.ofNat data.length
    framesTotal := 1
    energyFramesTotal := 1 }

/-! ## The state -/

structure RadarUart where
  radarBuffer : Vector UInt8 radarFrameBufferSize := Vector.replicate radarFrameBufferSize 0
  radarBufferLength : ℕ := 0
  lastRadarByteMs : UInt32 := 0
  radarBytesTotal : UInt32 := 0
  radarFramesTotal : UInt32 := 0
  ld2420EnergyFramesTotal : UInt32 := 0
  lastDistanceCm : ℤ := -1
  latestEnergyFrameSnapshot : Option LatestEnergyFrameSnapshot := none
  latestTextFrameSnapshot : Option LatestTextFrameSnapshot := none
  events : List RadarEvent := []
  deriving DecidableEq

namespace RadarUart

/-- The bytes that are in the buffer. -/
def content (s : RadarUart) : List UInt8 := s.radarBuffer.toList.take s.radarBufferLength

/-- The frames that `tryEmitLd2420EnergyFrame` has accepted. -/
def accepted (s : RadarUart) : List (List UInt8) :=
  s.events.filterMap fun event =>
    match event with
    | .ld2420Energy data => some data
    | _ => none

def updateDistanceCm (s : RadarUart) (distanceCm : ℤ) : RadarUart :=
  if distanceCm < 0 ∨ s.lastDistanceCm = distanceCm then s
  else { s with lastDistanceCm := distanceCm }

def tryEmitLd2420EnergyFrame (s : RadarUart) (data : List UInt8) (now : UInt32) :
    Option RadarUart :=
  (parseLd2420EnergyFrame data now).map fun parsed =>
    let s := { s with
      radarFramesTotal := s.radarFramesTotal + 1
      ld2420EnergyFramesTotal := s.ld2420EnergyFramesTotal + 1 }
    let s := s.updateDistanceCm parsed.distanceCm.toNat
    { s with
      latestEnergyFrameSnapshot := some { parsed with
        bytesTotal := s.radarBytesTotal
        framesTotal := s.radarFramesTotal
        energyFramesTotal := s.ld2420EnergyFramesTotal }
      latestTextFrameSnapshot := none
      events := s.events ++ [.ld2420Energy data] }

/-- The bytes as text when all of them are CR, LF, TAB or printable ASCII. -/
def textish (data : List UInt8) : Option Str :=
  data.mapM fun b =>
    if b = 13 ∨ b = 10 ∨ b = 9 ∨ (32 ≤ b ∧ b ≤ 126) then some (Char.ofNat b.toNat) else none

def emitTextRangeFrame (s : RadarUart) (data : List UInt8) (ascii : Str) (now : UInt32) :
    RadarUart :=
  let s := { s with radarFramesTotal := s.radarFramesTotal + 1 }
  let range : ℤ := match after? ("Range" : Str) ascii with
    | some rangeText => toInt (trim rangeText)
    | none => -1
  let s := s.updateDistanceCm range
  { s with
    latestTextFrameSnapshot := some {
      updatedAtMs := now
      length := data.length
      presence := contains ascii "ON"
      range
      bytesTotal := s.radarBytesTotal
      framesTotal := s.radarFramesTotal
      ascii }
    events := s.events ++ [.ld2420TextRange data] }

def tryEmitLd2420TextFrame (s : RadarUart) (data : List UInt8) (now : UInt32) : Option RadarUart :=
  if data = [] then none
  else match textish data with
    | none => none
    | some ascii =>
      if !contains ascii "Range" && !contains ascii "ON" && !contains ascii "OFF" then none
      else some (s.emitTextRangeFrame data ascii now)

def emitRadarFrameEvent (s : RadarUart) (data : List UInt8) (now : UInt32) : RadarUart :=
  match s.tryEmitLd2420EnergyFrame data now with
  | some s => s
  | none =>
    match s.tryEmitLd2420TextFrame data now with
    | some s => s
    | none => { s with
        radarFramesTotal := s.radarFramesTotal + 1
        events := s.events ++ [.radarUartFrame data] }

/-! ## Embedded frames -/

/-- Where the scan of the buffer is. -/
structure Scan where
  state : RadarUart
  cursor : ℕ := 0
  consumedLength : ℕ := 0
  emittedAny : Bool := false
  deriving DecidableEq

/-- The test of the loop at the cursor, with `rest` from there on. -/
def Scan.tryEmit (scan : Scan) (rest : List UInt8) (now : UInt32) : Option RadarUart :=
  if startsWithEnergyHeader rest && endsWithEnergyFooter (rest.take energyFrameLength) then
    scan.state.tryEmitLd2420EnergyFrame (rest.take energyFrameLength) now
  else none

/-- The loop of `tryEmitEmbeddedLd2420EnergyFrames`. -/
def Scan.loop (now : UInt32) (scan : Scan) (rest : List UInt8) : Scan :=
  if _h : rest.length < energyFrameLength then scan
  else match scan.tryEmit rest now with
    | some state =>
      let cursor := scan.cursor + energyFrameLength
      loop now { state, cursor, consumedLength := cursor, emittedAny := true }
        (rest.drop energyFrameLength)
    | none => loop now { scan with cursor := scan.cursor + 1 } (rest.drop 1)
termination_by rest.length
decreasing_by
  all_goals
    simp only [energyFrameLength, List.length_drop] at _h ⊢
    omega

def tryEmitEmbeddedLd2420EnergyFrames (s : RadarUart) (data : List UInt8) (now : UInt32) : Scan :=
  Scan.loop now { state := s } data

/-! ## The buffer -/

/-- `radarBuffer[radarBufferLength++] = byte`. -/
def pushByte (s : RadarUart) (byte : UInt8) : Option RadarUart :=
  if h : s.radarBufferLength < radarFrameBufferSize then
    some { s with
      radarBuffer := s.radarBuffer.set s.radarBufferLength byte h
      radarBufferLength := s.radarBufferLength + 1 }
  else none

/-- `memmove(radarBuffer, radarBuffer + source, count)`. -/
def memmove (buffer : Vector UInt8 radarFrameBufferSize) (source count : ℕ) :
    Option (Vector UInt8 radarFrameBufferSize) :=
  if h : source + count ≤ radarFrameBufferSize then
    some (Vector.ofFn fun i => if hi : (i : ℕ) < count then buffer[source + i] else buffer[i])
  else none

/-- Whether `flushRadarBufferIfNeeded` flushes. -/
def FlushRuns (s : RadarUart) (now : UInt32) (force : Bool) : Prop :=
  s.radarBufferLength ≠ 0 ∧
    (force ∨ now - s.lastRadarByteMs ≥ radarIdleFrameGapMs ∨
      s.radarBufferLength ≥ radarFrameBufferSize)

instance (s : RadarUart) (now : UInt32) (force : Bool) : Decidable (s.FlushRuns now force) :=
  inferInstanceAs (Decidable (_ ∧ _))

def flushRadarBufferIfNeeded (s : RadarUart) (now : UInt32) (force : Bool) : Option RadarUart :=
  if s.FlushRuns now force then
    let scan := s.tryEmitEmbeddedLd2420EnergyFrames s.content now
    if scan.emittedAny then
      let retainedLength := s.radarBufferLength - scan.consumedLength
      if retainedLength > 0 then
        (memmove s.radarBuffer scan.consumedLength retainedLength).map fun radarBuffer =>
          { scan.state with radarBuffer, radarBufferLength := retainedLength }
      else some { scan.state with radarBufferLength := retainedLength }
    else some { s.emitRadarFrameEvent s.content now with radarBufferLength := 0 }
  else some s

/-- What is noted of every byte. -/
def noteByte (s : RadarUart) (now : UInt32) : RadarUart :=
  { s with radarBytesTotal := s.radarBytesTotal + 1, lastRadarByteMs := now }

/-- The body of the loop of `readRadarUart`, at a time of `millis()`. -/
def readByte (s : RadarUart) (incoming : UInt8) (now : UInt32) : Option RadarUart :=
  let s := s.noteByte now
  if s.radarBufferLength < radarFrameBufferSize then s.pushByte incoming
  else (s.flushRadarBufferIfNeeded now true).bind (·.pushByte incoming)

end RadarUart

/-- What `millis()` shows at a time since boot. -/
def millis (time : ℕ) : UInt32 := UInt32.ofNat time

/-- The difference of two times, up to whole turns of the clock. -/
theorem toNat_millis_sub {since now : ℕ} (h : since ≤ now) :
    (millis now - millis since).toNat = (now - since) % 2 ^ 32 := by
  simp only [millis, UInt32.toNat_sub, UInt32.toNat_ofNat']
  omega

/-- The bytes a call of `readRadarUart` finds, with the time it reads each at, and the time of
its last flush. -/
structure UartCall where
  reads : List (UInt8 × ℕ)
  flushedAt : ℕ
  deriving DecidableEq

namespace RadarUart

def readBytes (s : RadarUart) (reads : List (UInt8 × ℕ)) : Option RadarUart :=
  reads.foldlM (fun s read => s.readByte read.1 (millis read.2)) s

def readRadarUart (s : RadarUart) (call : UartCall) : Option RadarUart :=
  (s.readBytes call.reads).bind (·.flushRadarBufferIfNeeded (millis call.flushedAt) false)

end RadarUart

namespace RadarUart

/-! ## Nothing is written outside the buffer -/

@[simp] theorem radarBuffer_updateDistanceCm (s : RadarUart) (distanceCm : ℤ) :
    (s.updateDistanceCm distanceCm).radarBuffer = s.radarBuffer := by
  unfold updateDistanceCm
  split <;> rfl

@[simp] theorem radarBufferLength_updateDistanceCm (s : RadarUart) (distanceCm : ℤ) :
    (s.updateDistanceCm distanceCm).radarBufferLength = s.radarBufferLength := by
  unfold updateDistanceCm
  split <;> rfl

@[simp] theorem lastRadarByteMs_updateDistanceCm (s : RadarUart) (distanceCm : ℤ) :
    (s.updateDistanceCm distanceCm).lastRadarByteMs = s.lastRadarByteMs := by
  unfold updateDistanceCm
  split <;> rfl

@[simp] theorem events_updateDistanceCm (s : RadarUart) (distanceCm : ℤ) :
    (s.updateDistanceCm distanceCm).events = s.events := by
  unfold updateDistanceCm
  split <;> rfl

/-- What an emitted frame does not touch. -/
structure SameBuffer (s s' : RadarUart) : Prop where
  radarBuffer : s'.radarBuffer = s.radarBuffer
  radarBufferLength : s'.radarBufferLength = s.radarBufferLength
  lastRadarByteMs : s'.lastRadarByteMs = s.lastRadarByteMs

theorem SameBuffer.refl (s : RadarUart) : SameBuffer s s := ⟨rfl, rfl, rfl⟩

theorem SameBuffer.trans {s s' s'' : RadarUart} (h : SameBuffer s s') (h' : SameBuffer s' s'') :
    SameBuffer s s'' :=
  ⟨h'.radarBuffer.trans h.radarBuffer, h'.radarBufferLength.trans h.radarBufferLength,
    h'.lastRadarByteMs.trans h.lastRadarByteMs⟩

/-- An energy frame is accepted when the parser takes it, and is logged. -/
theorem tryEmitLd2420EnergyFrame_spec {s s' : RadarUart} {data : List UInt8} {now : UInt32}
    (h : s.tryEmitLd2420EnergyFrame data now = some s') :
    SameBuffer s s' ∧ s'.accepted = s.accepted ++ [data] := by
  obtain ⟨parsed, -, rfl⟩ := Option.map_eq_some_iff.1 h
  refine ⟨⟨?_, ?_, ?_⟩, ?_⟩
  · simp
  · simp
  · simp
  · simp [accepted]

/-- A scan leaves the buffer alone, and what it has consumed it has passed. -/
structure Scan.Within (s : RadarUart) (length : ℕ) (scan : Scan) : Prop where
  sameBuffer : SameBuffer s scan.state
  consumedLength_le : scan.consumedLength ≤ length
  emitted : scan.emittedAny → energyFrameLength ≤ scan.consumedLength

theorem Scan.within_loop {s : RadarUart} {length : ℕ} (now : UInt32) (scan : Scan)
    (rest : List UInt8) (hwithin : Scan.Within s length scan)
    (hcursor : scan.cursor + rest.length ≤ length) : Scan.Within s length (scan.loop now rest) := by
  induction scan, rest using Scan.loop.induct now with
  | case1 scan rest hshort =>
    rw [Scan.loop, dif_pos hshort]
    exact hwithin
  | case2 scan rest hlong state htry cursor ih =>
    rw [Scan.loop, dif_neg hlong, htry]
    have hlength : energyFrameLength ≤ rest.length := Nat.le_of_not_lt hlong
    have hstate : SameBuffer scan.state state := by
      unfold Scan.tryEmit at htry
      split at htry
      · exact (tryEmitLd2420EnergyFrame_spec htry).1
      · cases htry
    refine ih ⟨hwithin.sameBuffer.trans hstate, ?_, fun _ => Nat.le_add_left _ _⟩ ?_
    · show scan.cursor + energyFrameLength ≤ length
      omega
    · show scan.cursor + energyFrameLength + (rest.drop energyFrameLength).length ≤ length
      rw [List.length_drop]
      omega
  | case3 scan rest hlong htry ih =>
    rw [Scan.loop, dif_neg hlong, htry]
    refine ih ⟨hwithin.sameBuffer, hwithin.consumedLength_le, hwithin.emitted⟩ ?_
    show scan.cursor + 1 + (rest.drop 1).length ≤ length
    have hlength : energyFrameLength ≤ rest.length := Nat.le_of_not_lt hlong
    have hpos : 0 < energyFrameLength := by decide
    rw [List.length_drop]
    omega

theorem pushByte_spec {s : RadarUart} (byte : UInt8)
    (h : s.radarBufferLength < radarFrameBufferSize) :
    ∃ s', s.pushByte byte = some s' ∧ s'.radarBufferLength = s.radarBufferLength + 1 ∧
      s'.content = s.content ++ [byte] ∧ s'.accepted = s.accepted ∧
      s'.lastRadarByteMs = s.lastRadarByteMs := by
  refine ⟨_, dif_pos h, rfl, ?_, rfl, rfl⟩
  have hlength : s.radarBuffer.toList.length = radarFrameBufferSize := by simp
  simp only [content, Vector.toList_set]
  rw [List.take_add_one, List.take_set_of_le le_rfl, List.getElem?_set_self (by omega)]
  rfl

/-- The bytes that are moved are where they came from, from the start on. -/
theorem memmove_spec (buffer : Vector UInt8 radarFrameBufferSize) {source count : ℕ}
    (h : source + count ≤ radarFrameBufferSize) :
    ∃ buffer', memmove buffer source count = some buffer' ∧
      buffer'.toList.take count = (buffer.toList.drop source).take count := by
  refine ⟨_, dif_pos h, List.ext_getElem ?_ fun i hi _ => ?_⟩
  · simp only [List.length_take, List.length_drop, Vector.length_toList]
    omega
  · have hcount : i < count := by
      rw [List.length_take] at hi
      omega
    simp [hcount]

/-- A flush stays within the buffer, and one that runs makes room. -/
theorem flushRadarBufferIfNeeded_spec {s : RadarUart} (now : UInt32) (force : Bool)
    (hlength : s.radarBufferLength ≤ radarFrameBufferSize) :
    ∃ s', s.flushRadarBufferIfNeeded now force = some s' ∧
      s'.radarBufferLength ≤ radarFrameBufferSize ∧
      (s.FlushRuns now force → s'.radarBufferLength < radarFrameBufferSize) := by
  unfold flushRadarBufferIfNeeded
  by_cases hruns : s.FlushRuns now force
  · rw [if_pos hruns]
    dsimp only
    have hwithin : Scan.Within s s.radarBufferLength
        (s.tryEmitEmbeddedLd2420EnergyFrames s.content now) := by
      refine Scan.within_loop now _ _ ⟨.refl s, Nat.zero_le _, nofun⟩ ?_
      rw [Nat.zero_add]
      exact (List.length_take_le _ _)
    obtain ⟨-, hle, hemitted⟩ := hwithin
    have hframe : 0 < energyFrameLength := by decide
    split
    · rename_i hany
      have hconsumed := hemitted hany
      split
      · have hfits : (s.tryEmitEmbeddedLd2420EnergyFrames s.content now).consumedLength +
            (s.radarBufferLength - (s.tryEmitEmbeddedLd2420EnergyFrames s.content now).consumedLength)
              ≤ radarFrameBufferSize := by omega
        obtain ⟨buffer', hmove, -⟩ := memmove_spec s.radarBuffer hfits
        rw [hmove]
        exact ⟨_, rfl, by dsimp only; omega, fun _ => by dsimp only; omega⟩
      · exact ⟨_, rfl, by dsimp only; omega, fun _ => by dsimp only; omega⟩
    · have hroom : 0 < radarFrameBufferSize := by decide
      exact ⟨_, rfl, Nat.zero_le _, fun _ => hroom⟩
  · rw [if_neg hruns]
    exact ⟨s, rfl, hlength, fun h => absurd h hruns⟩

/-- A byte is written within the buffer, whatever is in it. -/
theorem readByte_spec {s : RadarUart} (incoming : UInt8) (now : UInt32)
    (hlength : s.radarBufferLength ≤ radarFrameBufferSize) :
    ∃ s', s.readByte incoming now = some s' ∧ s'.radarBufferLength ≤ radarFrameBufferSize := by
  unfold readByte
  dsimp only
  split
  · rename_i hroom
    obtain ⟨s', hpush, hnext, -⟩ := pushByte_spec incoming hroom
    refine ⟨s', hpush, ?_⟩
    rw [hnext]
    exact hroom
  · rename_i hfull
    have hpos : 0 < radarFrameBufferSize := by decide
    obtain ⟨s', hflush, -, hroom⟩ :=
      flushRadarBufferIfNeeded_spec (s := s.noteByte now) now true hlength
    have hroom := hroom ⟨by omega, .inl rfl⟩
    obtain ⟨s'', hpush, hnext, -⟩ := pushByte_spec incoming hroom
    rw [hflush]
    exact ⟨s'', hpush, by omega⟩

theorem readBytes_spec (reads : List (UInt8 × ℕ)) {s : RadarUart}
    (hlength : s.radarBufferLength ≤ radarFrameBufferSize) :
    ∃ s', s.readBytes reads = some s' ∧ s'.radarBufferLength ≤ radarFrameBufferSize := by
  induction reads generalizing s with
  | nil => exact ⟨s, rfl, hlength⟩
  | cons read reads ih =>
    obtain ⟨s', hread, hlength'⟩ := readByte_spec read.1 (millis read.2) hlength
    obtain ⟨s'', hrest, hlength''⟩ := ih hlength'
    refine ⟨s'', ?_, hlength''⟩
    unfold readBytes
    rw [List.foldlM_cons, hread]
    exact hrest

/-- Whatever arrives and whenever: every write is within the buffer. -/
theorem isSome_foldlM_readRadarUart (calls : List UartCall) {s : RadarUart}
    (hlength : s.radarBufferLength ≤ radarFrameBufferSize) :
    ∃ s', calls.foldlM readRadarUart s = some s' ∧
      s'.radarBufferLength ≤ radarFrameBufferSize := by
  induction calls generalizing s with
  | nil => exact ⟨s, rfl, hlength⟩
  | cons call calls ih =>
    obtain ⟨s', hread, hlength'⟩ := readBytes_spec call.reads hlength
    obtain ⟨s'', hflush, hlength'', -⟩ :=
      flushRadarBufferIfNeeded_spec (millis call.flushedAt) false hlength'
    obtain ⟨t, hrest, ht⟩ := ih hlength''
    refine ⟨t, ?_, ht⟩
    have hcall : s.readRadarUart call = some s'' := by
      rw [readRadarUart, hread]
      exact hflush
    rw [List.foldlM_cons, hcall]
    exact hrest

/-! ## A stream of energy frames -/

/-- What the sensor sends for a frame. -/
structure IsEnergyFrame (frame : List UInt8) : Prop where
  length : frame.length = energyFrameLength
  header : startsWithEnergyHeader frame
  footer : endsWithEnergyFooter frame

instance (frame : List UInt8) : Decidable (IsEnergyFrame frame) :=
  decidable_of_iff (frame.length = energyFrameLength ∧ startsWithEnergyHeader frame ∧
      endsWithEnergyFooter frame)
    ⟨fun ⟨hlength, hheader, hfooter⟩ => ⟨hlength, hheader, hfooter⟩,
      fun h => ⟨h.length, h.header, h.footer⟩⟩

theorem isSome_tryEmitLd2420EnergyFrame (s : RadarUart) {frame : List UInt8}
    (h : IsEnergyFrame frame) (now : UInt32) : (s.tryEmitLd2420EnergyFrame frame now).isSome := by
  unfold tryEmitLd2420EnergyFrame parseLd2420EnergyFrame
  rw [h.length, if_neg (Nat.lt_irrefl _), if_neg (by simp [h.header, h.footer])]
  rfl

/-- At the beginning of a frame the scan takes the frame. -/
theorem Scan.tryEmit_of_frame (scan : Scan) {frame : List UInt8} (h : IsEnergyFrame frame)
    (rest : List UInt8) (now : UInt32) :
    scan.tryEmit (frame ++ rest) now = scan.state.tryEmitLd2420EnergyFrame frame now := by
  have hheader : startsWithEnergyHeader (frame ++ rest) = true := by
    have hbegins := List.isPrefixOf_iff_prefix.1 h.header
    exact List.isPrefixOf_iff_prefix.2 (hbegins.trans (List.prefix_append frame rest))
  have htake : (frame ++ rest).take energyFrameLength = frame := by
    rw [← h.length, List.take_left]
  rw [Scan.tryEmit, htake, hheader, h.footer]
  rfl

/-- What a scan makes of the beginning of a stream: the whole frames are emitted. -/
structure Scan.Emits (scan result : Scan) (ready : List (List UInt8)) : Prop where
  accepted : result.state.accepted = scan.state.accepted ++ ready
  none : ready = [] → result = scan
  some : ready ≠ [] → result.emittedAny ∧
    result.consumedLength = scan.cursor + ready.flatten.length

theorem Scan.emits_loop (now : UInt32) (frames : List (List UInt8))
    (hframes : ∀ frame ∈ frames, IsEnergyFrame frame) (scan : Scan) (content todo : List UInt8)
    (hstream : content ++ todo = frames.flatten) :
    ∃ ready rest tail, frames = ready ++ rest ∧ content = ready.flatten ++ tail ∧
      tail.length < energyFrameLength ∧ Scan.Emits scan (scan.loop now content) ready := by
  induction frames generalizing scan content with
  | nil =>
    have hempty : content = [] := (List.append_eq_nil_iff.1 hstream).1
    refine ⟨[], [], [], rfl, hempty, by decide, ?_⟩
    rw [hempty, Scan.loop, dif_pos (by decide)]
    exact ⟨(List.append_nil _).symm, fun _ => rfl, fun h => absurd rfl h⟩
  | cons frame frames ih =>
    by_cases hshort : content.length < energyFrameLength
    · refine ⟨[], frame :: frames, content, rfl, rfl, hshort, ?_⟩
      rw [Scan.loop, dif_pos hshort]
      exact ⟨(List.append_nil _).symm, fun _ => rfl, fun h => absurd rfl h⟩
    · have hframe := hframes frame (List.mem_cons_self ..)
      rw [List.flatten_cons] at hstream
      have hbegins : frame <+: content := by
        refine List.prefix_of_prefix_length_le ⟨_, rfl⟩ ⟨_, hstream⟩ ?_
        rw [hframe.length]
        exact Nat.le_of_not_lt hshort
      obtain ⟨content', rfl⟩ := hbegins
      rw [List.append_assoc] at hstream
      obtain ⟨state, hemit⟩ :=
        Option.isSome_iff_exists.1 (isSome_tryEmitLd2420EnergyFrame scan.state hframe now)
      obtain ⟨ready, rest, tail, hsplit, hcontent, htail, hemits⟩ :=
        ih (fun f hf => hframes f (List.mem_cons_of_mem _ hf))
          { state, cursor := scan.cursor + energyFrameLength,
            consumedLength := scan.cursor + energyFrameLength, emittedAny := true }
          content' (List.append_cancel_left hstream)
      refine ⟨frame :: ready, rest, tail, ?_, ?_, htail, ?_⟩
      · rw [hsplit, List.cons_append]
      · rw [hcontent, List.flatten_cons, List.append_assoc]
      · have hdrop : (frame ++ content').drop energyFrameLength = content' := by
          rw [← hframe.length, List.drop_left]
        rw [Scan.loop, dif_neg hshort, Scan.tryEmit_of_frame scan hframe, hemit]
        dsimp only
        rw [hdrop]
        refine ⟨?_, fun h => (nomatch h), fun _ => ?_⟩
        · rw [hemits.accepted, (tryEmitLd2420EnergyFrame_spec hemit).2, List.append_assoc]
          rfl
        · rw [List.flatten_cons, List.length_append, hframe.length]
          by_cases hlast : ready = []
          · rw [hemits.none hlast, hlast]
            exact ⟨rfl, rfl⟩
          · obtain ⟨hany, hconsumed⟩ := hemits.some hlast
            refine ⟨hany, ?_⟩
            dsimp only at hconsumed
            omega

theorem length_content {s : RadarUart} (h : s.radarBufferLength ≤ radarFrameBufferSize) :
    s.content.length = s.radarBufferLength := by
  rw [content, List.length_take, Vector.length_toList]
  exact Nat.min_eq_left h

/-- A flush of a stream emits the whole frames and keeps the beginning of the next one. -/
theorem flushRadarBufferIfNeeded_stream {s : RadarUart} {now : UInt32} {force : Bool}
    {frames : List (List UInt8)} {todo : List UInt8}
    (hlength : s.radarBufferLength ≤ radarFrameBufferSize)
    (hframes : ∀ frame ∈ frames, IsEnergyFrame frame) (hstream : s.content ++ todo = frames.flatten)
    (hruns : s.FlushRuns now force) (hwhole : energyFrameLength ≤ s.radarBufferLength) :
    ∃ s' ready rest, s.flushRadarBufferIfNeeded now force = some s' ∧ frames = ready ++ rest ∧
      s'.accepted = s.accepted ++ ready ∧ s'.content ++ todo = rest.flatten ∧
      s'.radarBufferLength < energyFrameLength ∧ s'.lastRadarByteMs = s.lastRadarByteMs := by
  obtain ⟨ready, rest, tail, hsplit, hcontent, htail, hemits⟩ :=
    Scan.emits_loop now frames hframes { state := s } s.content todo hstream
  have hcontentLength := congrArg List.length hcontent
  rw [length_content hlength, List.length_append] at hcontentLength
  have hready : ready ≠ [] := by
    rintro rfl
    simp only [List.flatten_nil, List.length_nil] at hcontentLength
    omega
  obtain ⟨hany, hconsumed⟩ := hemits.some hready
  have hwithin : Scan.Within s s.radarBufferLength (Scan.loop now { state := s } s.content) := by
    refine Scan.within_loop now _ _ ⟨.refl s, Nat.zero_le _, nofun⟩ ?_
    rw [length_content hlength, Nat.zero_add]
  have haccepted := hemits.accepted
  have hrest : tail ++ todo = rest.flatten := by
    rw [hcontent, hsplit, List.flatten_append, List.append_assoc] at hstream
    exact List.append_cancel_left hstream
  rw [Nat.zero_add] at hconsumed
  unfold flushRadarBufferIfNeeded tryEmitEmbeddedLd2420EnergyFrames
  rw [if_pos hruns]
  dsimp only
  generalize Scan.loop now { state := s } s.content = scan at hany hconsumed hwithin haccepted
  have hretained : s.radarBufferLength - scan.consumedLength = tail.length := by omega
  rw [if_pos hany, hretained]
  split
  · rename_i hpos
    obtain ⟨buffer', hmove, hmoved⟩ := memmove_spec s.radarBuffer
      (show scan.consumedLength + tail.length ≤ radarFrameBufferSize by omega)
    rw [hmove]
    refine ⟨_, ready, rest, rfl, hsplit, haccepted, ?_, htail, hwithin.sameBuffer.lastRadarByteMs⟩
    -- what was moved is what follows the frames
    have htailContent : buffer'.toList.take tail.length = tail := by
      rw [hmoved, ← hretained, ← List.drop_take, ← content, hcontent, hconsumed, List.drop_left]
    show buffer'.toList.take tail.length ++ todo = _
    rw [htailContent, hrest]
  · rename_i hnone
    have hempty : tail = [] := List.eq_nil_of_length_eq_zero (by omega)
    refine ⟨_, ready, rest, rfl, hsplit, haccepted, ?_, htail, hwithin.sameBuffer.lastRadarByteMs⟩
    rw [hempty] at hrest ⊢
    exact hrest

end RadarUart

/-! ## Time -/

/-- What happens in a call, in order. -/
inductive UartTick where
  | byte (value : UInt8) (time : ℕ)
  | flush (time : ℕ)

def UartCall.ticks (call : UartCall) : List UartTick :=
  call.reads.map (fun read => .byte read.1 read.2) ++ [.flush call.flushedAt]

/-- The bytes that are read. -/
def tickBytes (ticks : List UartTick) : List UInt8 :=
  ticks.filterMap fun tick =>
    match tick with
    | .byte value _ => some value
    | .flush _ => none

/-- Times do not go back, and inside a frame each byte is read less than 20 ms after the one
before it; `received` bytes have been read, the last of them at the time `last`. -/
def Paced : (received last now : ℕ) → List UartTick → Prop
  | _, _, _, [] => True
  | received, last, now, .byte _ time :: ticks =>
    now ≤ time ∧ (¬energyFrameLength ∣ received → time < last + radarIdleFrameGapMs.toNat) ∧
      Paced (received + 1) time time ticks
  | received, last, now, .flush time :: ticks => now ≤ time ∧ Paced received last time ticks

instance decidablePaced : ∀ (received last now : ℕ) (ticks : List UartTick),
    Decidable (Paced received last now ticks)
  | _, _, _, [] => isTrue trivial
  | received, last, now, .byte _ time :: ticks =>
    have := decidablePaced (received + 1) time time ticks
    inferInstanceAs (Decidable (now ≤ time ∧
      (¬energyFrameLength ∣ received → time < last + radarIdleFrameGapMs.toNat) ∧
        Paced (received + 1) time time ticks))
  | received, last, now, .flush time :: ticks =>
    have := decidablePaced received last time ticks
    inferInstanceAs (Decidable (now ≤ time ∧ Paced received last time ticks))

/-- While a frame is not complete and more is to come, the line has not been idle. -/
theorem Paced.now_lt {received last now : ℕ} {ticks : List UartTick}
    (h : Paced received last now ticks) (hinside : ¬energyFrameLength ∣ received)
    (hmore : tickBytes ticks ≠ []) : now < last + radarIdleFrameGapMs.toNat := by
  induction ticks generalizing now with
  | nil => exact absurd rfl hmore
  | cons tick ticks ih =>
    cases tick with
    | byte value time =>
      obtain ⟨hnow, hgap, -⟩ := h
      exact lt_of_le_of_lt hnow (hgap hinside)
    | flush time =>
      obtain ⟨hnow, hrest⟩ := h
      exact lt_of_le_of_lt hnow (ih hrest hmore)

/-- The clock wraps around, but not within 20 ms. -/
theorem not_idle_of_lt {last now : ℕ} (hle : last ≤ now)
    (hlt : now < last + radarIdleFrameGapMs.toNat) :
    ¬millis now - millis last ≥ radarIdleFrameGapMs := by
  have hgap : radarIdleFrameGapMs.toNat = 20 := rfl
  rw [ge_iff_le, UInt32.le_iff_toNat_le, toNat_millis_sub hle]
  omega

namespace RadarUart

/-! ## Runs -/

/-- The frames accepted so far, the bytes in the buffer and those to come are the stream. -/
structure OnTrack (frames : List (List UInt8)) (ticks : List UartTick) (received last now : ℕ)
    (rest : List (List UInt8)) (s : RadarUart) : Prop where
  isEnergyFrame : ∀ frame ∈ frames, IsEnergyFrame frame
  accepted : frames = s.accepted ++ rest
  stream : s.content ++ tickBytes ticks = rest.flatten
  counted : received + (tickBytes ticks).length = energyFrameLength * frames.length
  length_le : s.radarBufferLength ≤ radarFrameBufferSize
  lastRadarByteMs : s.lastRadarByteMs = millis last
  last_le : last ≤ now
  paced : Paced received last now ticks

theorem length_flatten_of_isEnergyFrame {frames : List (List UInt8)}
    (h : ∀ frame ∈ frames, IsEnergyFrame frame) :
    frames.flatten.length = energyFrameLength * frames.length := by
  rw [List.length_flatten, List.map_congr_left fun frame hframe => (h frame hframe).length]
  simp [Nat.mul_comm]

namespace OnTrack

variable {frames rest : List (List UInt8)} {ticks : List UartTick} {received last now : ℕ}
  {s : RadarUart}

theorem isEnergyFrame_rest (h : OnTrack frames ticks received last now rest s) :
    ∀ frame ∈ rest, IsEnergyFrame frame := by
  intro frame hframe
  refine h.isEnergyFrame frame ?_
  rw [h.accepted]
  exact List.mem_append_right _ hframe

/-- The buffer begins where a frame does. -/
theorem dvd_iff (h : OnTrack frames ticks received last now rest s) :
    energyFrameLength ∣ s.radarBufferLength ↔ energyFrameLength ∣ received := by
  have hstream := congrArg List.length h.stream
  rw [List.length_append, length_content h.length_le,
    length_flatten_of_isEnergyFrame h.isEnergyFrame_rest] at hstream
  have hreceived := h.counted
  have hlength : energyFrameLength = 45 := rfl
  rw [hlength] at hstream hreceived ⊢
  omega

/-- A full buffer is flushed before a byte is written. -/
theorem readByte {value : UInt8} {time : ℕ}
    (h : OnTrack frames (.byte value time :: ticks) received last now rest s) :
    ∃ s' rest', s.readByte value (millis time) = some s' ∧
      OnTrack frames ticks (received + 1) time time rest' s' := by
  obtain ⟨hnow, -, hpaced⟩ := h.paced
  have hreceived : received + 1 + (tickBytes ticks).length = energyFrameLength * frames.length := by
    have hbefore := h.counted
    simp only [tickBytes, List.filterMap_cons, List.length_cons] at hbefore ⊢
    omega
  have hstream : s.content ++ value :: tickBytes ticks = rest.flatten := h.stream
  unfold RadarUart.readByte
  dsimp only
  split
  · rename_i hroom
    obtain ⟨s', hpush, hnext, hcontent, haccepted, hlast⟩ := pushByte_spec value hroom
    refine ⟨s', rest, hpush, h.isEnergyFrame, ?_, ?_, hreceived, ?_, hlast, le_rfl, hpaced⟩
    · rw [haccepted]
      exact h.accepted
    · rw [hcontent, List.append_assoc]
      exact hstream
    · rw [hnext]
      exact hroom
  · rename_i hfull
    have hsize : radarFrameBufferSize = 256 := rfl
    have hframe : energyFrameLength = 45 := rfl
    have hruns : (s.noteByte (millis time)).FlushRuns (millis time) true :=
      ⟨by omega, .inl rfl⟩
    obtain ⟨s', ready, rest', hflush, hsplit, haccepted, hkept, hroom, hlast⟩ :=
      flushRadarBufferIfNeeded_stream (s := s.noteByte (millis time)) h.length_le
        h.isEnergyFrame_rest hstream hruns (by omega)
    obtain ⟨s'', hpush, hnext, hcontent, haccepted', hlast'⟩ :=
      pushByte_spec value (show s'.radarBufferLength < radarFrameBufferSize by omega)
    rw [hflush]
    refine ⟨s'', rest', hpush, h.isEnergyFrame, ?_, ?_, hreceived, by omega, hlast'.trans hlast,
      le_rfl, hpaced⟩
    · rw [haccepted', haccepted, List.append_assoc, ← hsplit]
      exact h.accepted
    · rw [hcontent, List.append_assoc]
      exact hkept

theorem readBytes (reads : List (UInt8 × ℕ))
    (h : OnTrack frames (reads.map (fun read => .byte read.1 read.2) ++ ticks) received last now
      rest s) :
    ∃ s' received' last' now' rest', s.readBytes reads = some s' ∧
      OnTrack frames ticks received' last' now' rest' s' := by
  induction reads generalizing s received last now rest with
  | nil => exact ⟨s, received, last, now, rest, rfl, h⟩
  | cons read reads ih =>
    obtain ⟨s', rest', hread, h'⟩ := h.readByte
    obtain ⟨s'', received'', last'', now'', rest'', hreads, h''⟩ := ih h'
    refine ⟨s'', received'', last'', now'', rest'', ?_, h''⟩
    unfold RadarUart.readBytes
    rw [List.foldlM_cons, hread]
    exact hreads

/-- A flush that runs finds whole frames: the line is idle only between frames. -/
theorem flush {time : ℕ} (h : OnTrack frames (.flush time :: ticks) received last now rest s) :
    ∃ s' rest', s.flushRadarBufferIfNeeded (millis time) false = some s' ∧
      OnTrack frames ticks received last time rest' s' ∧
      (s.FlushRuns (millis time) false → s'.radarBufferLength < energyFrameLength) := by
  obtain ⟨hnow, hpaced⟩ := h.paced
  by_cases hruns : s.FlushRuns (millis time) false
  · have hframe : energyFrameLength = 45 := rfl
    have hwhole : energyFrameLength ≤ s.radarBufferLength := by
      obtain ⟨hne, hforce | hidle | hfull⟩ := hruns
      · cases hforce
      · have hboundary : energyFrameLength ∣ received := by
          by_contra hinside
          have hmore : tickBytes ticks ≠ [] := by
            intro hnil
            have hreceived : received + (tickBytes ticks).length = _ := h.counted
            rw [hnil, List.length_nil, Nat.add_zero] at hreceived
            exact hinside (hreceived ▸ Nat.dvd_mul_right _ _)
          rw [h.lastRadarByteMs] at hidle
          exact not_idle_of_lt (h.last_le.trans hnow) (hpaced.now_lt hinside hmore) hidle
        exact Nat.le_of_dvd (Nat.pos_of_ne_zero hne) (h.dvd_iff.2 hboundary)
      · have hsize : radarFrameBufferSize = 256 := rfl
        omega
    obtain ⟨s', ready, rest', hflush, hsplit, haccepted, hkept, hroom, hlast⟩ :=
      flushRadarBufferIfNeeded_stream h.length_le h.isEnergyFrame_rest h.stream hruns hwhole
    have hlength := h.length_le
    refine ⟨s', rest', hflush, ⟨h.isEnergyFrame, ?_, hkept, h.counted, by omega,
      hlast.trans h.lastRadarByteMs, h.last_le.trans hnow, hpaced⟩, fun _ => hroom⟩
    rw [haccepted, List.append_assoc, ← hsplit]
    exact h.accepted
  · refine ⟨s, rest, if_neg hruns, ?_, fun h => absurd h hruns⟩
    exact ⟨h.isEnergyFrame, h.accepted, h.stream, h.counted, h.length_le, h.lastRadarByteMs,
      h.last_le.trans hnow, hpaced⟩

theorem foldlM_readRadarUart (calls : List UartCall)
    (h : OnTrack frames (calls.flatMap UartCall.ticks ++ ticks) received last now rest s) :
    ∃ s' received' last' now' rest', calls.foldlM readRadarUart s = some s' ∧
      OnTrack frames ticks received' last' now' rest' s' := by
  induction calls generalizing s received last now rest with
  | nil => exact ⟨s, received, last, now, rest, rfl, h⟩
  | cons call calls ih =>
    rw [List.flatMap_cons, UartCall.ticks, List.append_assoc, List.append_assoc] at h
    obtain ⟨s₁, received₁, last₁, now₁, rest₁, hreads, h₁⟩ := h.readBytes
    obtain ⟨s₂, rest₂, hflush, h₂, -⟩ := h₁.flush
    obtain ⟨s₃, received₃, last₃, now₃, rest₃, hcalls, h₃⟩ := ih h₂
    refine ⟨s₃, received₃, last₃, now₃, rest₃, ?_, h₃⟩
    have hcall : s.readRadarUart call = some s₂ := by
      rw [readRadarUart, hreads]
      exact hflush
    rw [List.foldlM_cons, hcall]
    exact hcalls

end OnTrack

/-- The buffer holds the beginning of the next frame and not all of it. -/
def KeepsPart (s : RadarUart) (rest : List (List UInt8)) : Prop :=
  match rest with
  | [] => s.content = []
  | frame :: _ => s.content <+: frame ∧ s.content ≠ frame

theorem keepsPart_of_lt {s : RadarUart} {todo : List UInt8} {rest : List (List UInt8)}
    (hlength : s.radarBufferLength ≤ radarFrameBufferSize)
    (hshort : s.radarBufferLength < energyFrameLength) (hrest : ∀ frame ∈ rest, IsEnergyFrame frame)
    (hstream : s.content ++ todo = rest.flatten) : s.KeepsPart rest := by
  cases rest with
  | nil => exact (List.append_eq_nil_iff.1 hstream).1
  | cons frame rest =>
    have hframe := (hrest frame (List.mem_cons_self ..)).length
    have hcontent := length_content hlength
    refine ⟨List.prefix_of_prefix_length_le ⟨_, hstream⟩ ⟨_, rfl⟩ (by omega), fun hall => ?_⟩
    rw [hall] at hcontent
    omega

end RadarUart

open RadarUart

/-- Energy frames that are read in any calls of `readRadarUart`, without a pause of 20 ms inside
a frame: after each call, what was accepted are the first of the frames, each once and in order,
and what is in the buffer and still to come are the others.  Once a flush has run, the buffer
holds less than the next frame, and after the last byte nothing.  The buffer never overflows. -/
theorem radarFrames_kept (frames : List (List UInt8)) (pre post : List UartCall) (call : UartCall)
    (hframes : ∀ frame ∈ frames, IsEnergyFrame frame)
    (hbytes : tickBytes ((pre ++ call :: post).flatMap UartCall.ticks) = frames.flatten)
    (hpaced : Paced 0 0 0 ((pre ++ call :: post).flatMap UartCall.ticks)) :
    ∃ s t rest, (pre.foldlM readRadarUart {}).bind (·.readBytes call.reads) = some s ∧
      s.flushRadarBufferIfNeeded (millis call.flushedAt) false = some t ∧
      s.radarBufferLength ≤ radarFrameBufferSize ∧ t.radarBufferLength ≤ radarFrameBufferSize ∧
      frames = t.accepted ++ rest ∧
      t.content ++ tickBytes (post.flatMap UartCall.ticks) = rest.flatten ∧
      (s.FlushRuns (millis call.flushedAt) false → t.KeepsPart rest ∧
        (post = [] → t.accepted = frames)) := by
  have hstart : OnTrack frames ((pre ++ call :: post).flatMap UartCall.ticks) 0 0 0 frames {} := by
    refine ⟨hframes, rfl, ?_, ?_, Nat.zero_le _, rfl, le_rfl, hpaced⟩
    · rw [hbytes]
      rfl
    · rw [hbytes, Nat.zero_add]
      exact length_flatten_of_isEnergyFrame hframes
  rw [List.flatMap_append] at hstart
  obtain ⟨s₀, received₀, last₀, now₀, rest₀, hpre, h₀⟩ := hstart.foldlM_readRadarUart
  rw [List.flatMap_cons, UartCall.ticks, List.append_assoc] at h₀
  obtain ⟨s, received₁, last₁, now₁, rest₁, hreads, h₁⟩ := h₀.readBytes
  obtain ⟨t, rest, hflush, h₂, hshort⟩ := h₁.flush
  refine ⟨s, t, rest, ?_, hflush, h₁.length_le, h₂.length_le, h₂.accepted, h₂.stream,
    fun hruns => ?_⟩
  · rw [hpre]
    exact hreads
  · have hkeeps := keepsPart_of_lt h₂.length_le (hshort hruns) h₂.isEnergyFrame_rest h₂.stream
    refine ⟨hkeeps, ?_⟩
    rintro rfl
    have hall : t.content = rest.flatten := (List.append_nil _).symm.trans h₂.stream
    have hnone : rest = [] := by
      cases rest with
      | nil => rfl
      | cons frame rest =>
        rw [List.flatten_cons] at hall
        have hwhole : frame <+: t.content := ⟨_, hall.symm⟩
        exact absurd (hkeeps.1.eq_of_length_le hwhole.length_le) hkeeps.2
    rw [h₂.accepted, hnone, List.append_nil]

/-- A frame without energy in any gate. -/
def quietFrame : List UInt8 := energyHeader ++ List.replicate 37 0 ++ energyFooter

/-- Two of them, read in two calls that cut the second one. -/
def quietCalls : UartCall × UartCall :=
  (⟨(quietFrame ++ quietFrame.take 15).map (·, 5), 6⟩, ⟨(quietFrame.drop 15).map (·, 10), 40⟩)

theorem radarFrames_kept_quiet :
    ∃ s t rest, ([quietCalls.1].foldlM readRadarUart {}).bind (·.readBytes quietCalls.2.reads) =
        some s ∧
      s.flushRadarBufferIfNeeded (millis quietCalls.2.flushedAt) false = some t ∧
      s.radarBufferLength ≤ radarFrameBufferSize ∧ t.radarBufferLength ≤ radarFrameBufferSize ∧
      [quietFrame, quietFrame] = t.accepted ++ rest ∧
      t.content ++ tickBytes (([] : List UartCall).flatMap UartCall.ticks) = rest.flatten ∧
      (s.FlushRuns (millis quietCalls.2.flushedAt) false → t.KeepsPart rest ∧
        (([] : List UartCall) = [] → t.accepted = [quietFrame, quietFrame])) :=
  radarFrames_kept [quietFrame, quietFrame] [quietCalls.1] [] quietCalls.2 (by decide)
    (by decide +kernel) (by decide +kernel)

end EspWaveRider.Cpp
