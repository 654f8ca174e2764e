import EspWaveRider.Lib.GapFraming
import EspWaveRider.Firmware.Presence

/-!
# The radar UART

`poll_radar_uart`, `flush_radar_buffer_if_needed` and `apply_radar_frame` of
`rust/firmware/esp32s3/src/main.rs`.  The firmware cannot see where a frame
begins; it collects bytes until the line has been silent for 20 ms or 256 bytes
are there, and parses what it has.

* `pollRadarUart` — one poll, with the frames it applied;
* `receiver_pollRadarUart` — a poll is a step of the gap-delimited receiver of
  `Lib.GapFraming`;
* `radarFrames_eq_iff` — energy frames are applied one by one exactly when a
  silence is noticed after each of them.
-/

namespace EspWaveRider.Firmware

open Radar GapFraming

def radarIdleFrameGapMs : ℕ := 20

/-- One call of `poll_radar_uart`: the time it is given and the outcomes of its
`read_buffered` calls (`none` is an error) for as long as `read_ready` holds. -/
structure UartPoll where
  uptime : ℕ
  reads : List (Option (HVec UInt8 32))

/-- The bytes a poll takes over: everything before the first failed or empty read. -/
def received : List (Option (HVec UInt8 32)) → List UInt8
  | [] => []
  | none :: _ => []
  | some chunk :: reads => if chunk.items = [] then [] else chunk.items ++ received reads

/-- What the poll shows of the line. -/
def UartPoll.line (p : UartPoll) : Poll UInt8 := ⟨p.uptime, received p.reads⟩

/-! ## Applying a frame -/

def snapshotFromEnergyFrame (energy : EnergyFrame) (bytesTotal framesTotal energyFramesTotal : ℕ) :
    LatestEnergyFrameSnapshot :=
  { length := UInt16.ofNat energy.length, payloadLength := energy.payloadLength,
    presence := energy.presence, distanceCm := energy.distanceCm, bytesTotal, framesTotal,
    energyFramesTotal, gates := energy.gates.toList }

def snapshotFromTextFrame (text : TextFrame) (bytesTotal framesTotal : ℕ) :
    LatestTextFrameSnapshot :=
  { length := UInt16.ofNat text.length, presence := text.presence,
    range := (text.rangeCm.map fun cm => (cm.toNat : ℤ)).getD (-1), bytesTotal, framesTotal,
    hex := text.hex, ascii := text.ascii }

def snapshotFromGenericFrame (generic : GenericFrame) (bytesTotal framesTotal : ℕ) :
    LatestGenericFrameSnapshot :=
  { length := UInt16.ofNat generic.length, bytesTotal, framesTotal, hex := generic.hex,
    ascii := generic.ascii }

namespace FirmwareState

def applyRadarFrame (s : FirmwareState) (frame : RadarFrame) : FirmwareState :=
  let s := { s with radarFramesTotal := saturatingSucc s.radarFramesTotal }
  match frame with
  | .energy energy =>
    let s := { s with ld2420EnergyFramesTotal := saturatingSucc s.ld2420EnergyFramesTotal }
    { s with
      latestEnergyFrame := some (snapshotFromEnergyFrame energy s.radarBytesTotal
        s.radarFramesTotal s.ld2420EnergyFramesTotal)
      latestRadarFrame := some frame }
  | .text text =>
    { s with
      latestTextFrame := some (snapshotFromTextFrame text s.radarBytesTotal s.radarFramesTotal)
      latestRadarFrame := some frame }
  | .generic generic =>
    { s with
      latestGenericFrame :=
        some (snapshotFromGenericFrame generic s.radarBytesTotal s.radarFramesTotal)
      latestRadarFrame :=
        if s.latestEnergyFrame.isNone && s.latestTextFrame.isNone then some frame
        else s.latestRadarFrame }

/-! ## Polling the line -/

def setRadarBuffer (s : FirmwareState) (buffer : HVec UInt8 radarFrameBufferSize) :
    FirmwareState :=
  { s with radarBuffer := buffer }

/-- The counters kept for every byte. -/
def noteRadarByte (s : FirmwareState) (uptime : ℕ) : FirmwareState :=
  { s with
    radarBytesTotal := saturatingSucc s.radarBytesTotal
    lastRadarByteMs := uptime }

/-- Parse and apply the buffer when it is due, with the frame applied. -/
def flushRadarBufferIfNeeded (s : FirmwareState) (uptime : ℕ) (force : Bool) :
    FirmwareState × List RadarFrame :=
  let shouldFlush := s.radarBuffer.items ≠ [] ∧
    (force ∨ uptime - s.lastRadarByteMs ≥ radarIdleFrameGapMs ∨
      s.radarBuffer.items.length ≥ radarFrameBufferSize)
  if ¬ shouldFlush then (s, [])
  else
    let bytes := s.radarBuffer.items
    let s := s.setRadarBuffer Bounded.empty
    match parseRadarFrame bytes with
    | some frame => ((s.applyRadarFrame frame).syncRadarDetectionState uptime, [frame])
    | none => (s, [])

/-- The body of the byte loop of `poll_radar_uart`. -/
def pushRadarByte (s : FirmwareState) (uptime : ℕ) (byte : UInt8) :
    FirmwareState × List RadarFrame :=
  let s := s.noteRadarByte uptime
  let (s, frames) :=
    if s.radarBuffer.items.length ≥ radarFrameBufferSize then
      s.flushRadarBufferIfNeeded uptime true
    else (s, [])
  (s.setRadarBuffer ((s.radarBuffer.push byte).getD s.radarBuffer), frames)

def pushRadarBytes (uptime : ℕ) : FirmwareState → List UInt8 → FirmwareState × List RadarFrame
  | s, [] => (s, [])
  | s, byte :: bytes =>
    let (s, frames) := s.pushRadarByte uptime byte
    let (s, frames') := pushRadarBytes uptime s bytes
    (s, frames ++ frames')

/-- The reading loop of `poll_radar_uart`. -/
def readRadarUart (uptime : ℕ) :
    FirmwareState → List (Option (HVec UInt8 32)) → FirmwareState × List RadarFrame
  | s, [] => (s, [])
  | s, none :: _ => (s, [])
  | s, some chunk :: reads =>
    if chunk.items = [] then (s, [])
    else
      let (s, frames) := pushRadarBytes uptime s chunk.items
      let (s, frames') := readRadarUart uptime s reads
      (s, frames ++ frames')

def pollRadarUart (s : FirmwareState) (p : UartPoll) : FirmwareState × List RadarFrame :=
  let (s, frames) := readRadarUart p.uptime s p.reads
  let (s, frames') := s.flushRadarBufferIfNeeded p.uptime false
  (s, frames ++ frames')

/-! ## A poll is a step of the receiver -/

/-- The part of the state that frames the line. -/
def receiver (s : FirmwareState) : Receiver UInt8 := ⟨s.radarBuffer.items, s.lastRadarByteMs⟩

@[simp] theorem receiver_setRadarBuffer (s : FirmwareState)
    (buffer : HVec UInt8 radarFrameBufferSize) :
    (s.setRadarBuffer buffer).receiver = ⟨buffer.items, s.lastRadarByteMs⟩ := rfl

@[simp] theorem receiver_syncRadarDetectionState (s : FirmwareState) (uptime : ℕ) :
    (s.syncRadarDetectionState uptime).receiver = s.receiver := rfl

@[simp] theorem receiver_applyRadarFrame (s : FirmwareState) (frame : RadarFrame) :
    (s.applyRadarFrame frame).receiver = s.receiver := by
  cases frame <;> rfl

/-- A flush that is due empties the buffer and applies the frame read from it. -/
theorem flushRadarBufferIfNeeded_of_due {s : FirmwareState} (uptime : ℕ) (force : Bool)
    (hne : s.radarBuffer.items ≠ [])
    (h : force ∨ radarIdleFrameGapMs ≤ uptime - s.lastRadarByteMs ∨
      radarFrameBufferSize ≤ s.radarBuffer.items.length) :
    (s.flushRadarBufferIfNeeded uptime force).1.receiver = ⟨[], s.lastRadarByteMs⟩ ∧
      (s.flushRadarBufferIfNeeded uptime force).2 =
        [s.radarBuffer.items].filterMap parseRadarFrame := by
  rw [flushRadarBufferIfNeeded, if_neg (not_not.2 ⟨hne, h⟩)]
  dsimp only
  cases hparse : parseRadarFrame s.radarBuffer.items with
  | none => simp [hparse]
  | some frame => simp [hparse]

theorem flushRadarBufferIfNeeded_of_not_due {s : FirmwareState} (uptime : ℕ) (force : Bool)
    (h : ¬ (s.radarBuffer.items ≠ [] ∧ (force ∨ radarIdleFrameGapMs ≤ uptime - s.lastRadarByteMs ∨
      radarFrameBufferSize ≤ s.radarBuffer.items.length))) :
    s.flushRadarBufferIfNeeded uptime force = (s, []) := by
  rw [flushRadarBufferIfNeeded, if_pos h]

theorem receiver_pushRadarByte (s : FirmwareState) (uptime : ℕ) (byte : UInt8) :
    (s.pushRadarByte uptime byte).1.receiver =
        ⟨(push radarFrameBufferSize s.receiver.buffer byte).1, uptime⟩ ∧
      (s.pushRadarByte uptime byte).2 =
        (push radarFrameBufferSize s.receiver.buffer byte).2.filterMap parseRadarFrame := by
  unfold pushRadarByte push
  dsimp only
  by_cases hfull : radarFrameBufferSize ≤ s.receiver.buffer.length
  · have hne : (s.noteRadarByte uptime).radarBuffer.items ≠ [] := by
      intro hnil
      exact absurd (hfull.trans_eq (congrArg List.length hnil)) (by decide)
    obtain ⟨hreceiver, hframes⟩ := flushRadarBufferIfNeeded_of_due uptime true hne (Or.inl rfl)
    have hfull' : (s.noteRadarByte uptime).radarBuffer.items.length ≥ radarFrameBufferSize := hfull
    rw [if_pos hfull, if_pos hfull']
    generalize (s.noteRadarByte uptime).flushRadarBufferIfNeeded uptime true = flushed at *
    have hbuffer : flushed.1.radarBuffer.items = [] := congrArg Receiver.buffer hreceiver
    have hlast : flushed.1.lastRadarByteMs = uptime := congrArg Receiver.last hreceiver
    refine ⟨?_, hframes⟩
    rw [receiver_setRadarBuffer, Bounded.items_push_getD (by rw [hbuffer]; decide), hbuffer, hlast,
      List.nil_append]
  · have hfull' : ¬ (s.noteRadarByte uptime).radarBuffer.items.length ≥ radarFrameBufferSize := hfull
    rw [if_neg hfull, if_neg hfull']
    have hpush := Bounded.items_push_getD (a := byte) (Nat.lt_of_not_le hfull')
    exact ⟨congrArg (Receiver.mk · uptime) hpush, rfl⟩

theorem receiver_pushRadarBytes (uptime : ℕ) (bytes : List UInt8) (s : FirmwareState)
    (hne : bytes ≠ []) :
    (pushRadarBytes uptime s bytes).1.receiver =
        ⟨(pushAll radarFrameBufferSize s.receiver.buffer bytes).1, uptime⟩ ∧
      (pushRadarBytes uptime s bytes).2 =
        (pushAll radarFrameBufferSize s.receiver.buffer bytes).2.filterMap parseRadarFrame := by
  induction bytes generalizing s with
  | nil => exact absurd rfl hne
  | cons byte bytes ih =>
    obtain ⟨hreceiver, hframes⟩ := receiver_pushRadarByte s uptime byte
    simp only [pushRadarBytes, pushAll, List.filterMap_append]
    cases bytes with
    | nil => exact ⟨by simpa [pushRadarBytes, pushAll] using hreceiver, by
        simpa [pushRadarBytes, pushAll] using hframes⟩
    | cons b bytes =>
      obtain ⟨hreceiver', hframes'⟩ := ih (s.pushRadarByte uptime byte).1 (List.cons_ne_nil _ _)
      rw [hreceiver] at hreceiver' hframes'
      exact ⟨hreceiver', by rw [hframes, hframes']⟩

/-- The reading loop collects the bytes it received. -/
theorem receiver_readRadarUart (uptime : ℕ) (reads : List (Option (HVec UInt8 32)))
    (s : FirmwareState) :
    (readRadarUart uptime s reads).1.receiver =
        ⟨(pushAll radarFrameBufferSize s.receiver.buffer (received reads)).1,
          if received reads = [] then s.lastRadarByteMs else uptime⟩ ∧
      (readRadarUart uptime s reads).2 =
        (pushAll radarFrameBufferSize s.receiver.buffer (received reads)).2.filterMap
          parseRadarFrame := by
  induction reads generalizing s with
  | nil => exact ⟨rfl, rfl⟩
  | cons read reads ih =>
    cases read with
    | none => exact ⟨rfl, rfl⟩
    | some chunk =>
      by_cases hempty : chunk.items = []
      · simp [readRadarUart, received, hempty, pushAll, receiver]
      · obtain ⟨hchunk, hframes⟩ := receiver_pushRadarBytes uptime chunk.items s hempty
        obtain ⟨hrest, hframes'⟩ := ih (pushRadarBytes uptime s chunk.items).1
        have hlast : (pushRadarBytes uptime s chunk.items).1.lastRadarByteMs = uptime :=
          congrArg Receiver.last hchunk
        rw [hchunk] at hrest hframes'
        simp only [readRadarUart, received, hempty, if_false, pushAll_append]
        constructor
        · simpa [hempty, hlast] using hrest
        · rw [hframes, hframes', List.filterMap_append]

/-- One poll is one step of the gap-delimited receiver, and the frames it
applies are read from what the receiver hands over. -/
theorem receiver_pollRadarUart (s : FirmwareState) (p : UartPoll) :
    (s.pollRadarUart p).1.receiver =
        (step radarFrameBufferSize radarIdleFrameGapMs s.receiver p.line).1 ∧
      (s.pollRadarUart p).2 =
        (step radarFrameBufferSize radarIdleFrameGapMs s.receiver p.line).2.filterMap
          parseRadarFrame := by
  obtain ⟨hread, hframes⟩ := receiver_readRadarUart p.uptime p.reads s
  unfold pollRadarUart step
  dsimp only
  generalize hcollected : readRadarUart p.uptime s p.reads = collected at *
  have hbuffer : collected.1.radarBuffer.items =
      (pushAll radarFrameBufferSize s.receiver.buffer p.line.items).1 :=
    congrArg Receiver.buffer hread
  have hlast : collected.1.lastRadarByteMs =
      if p.line.items = [] then s.receiver.last else p.line.time :=
    congrArg Receiver.last hread
  rw [← hbuffer, ← hlast]
  split
  · rename_i hdue
    obtain ⟨hflushed, hframe⟩ := flushRadarBufferIfNeeded_of_due p.uptime false hdue.1 (Or.inr hdue.2)
    exact ⟨hflushed, by rw [hframes, hframe, List.filterMap_append]; rfl⟩
  · rename_i hdue
    have hkeep : ¬ (collected.1.radarBuffer.items ≠ [] ∧ (false ∨
        radarIdleFrameGapMs ≤ p.uptime - collected.1.lastRadarByteMs ∨
        radarFrameBufferSize ≤ collected.1.radarBuffer.items.length)) := by
      rintro ⟨hne, hforce | hlate⟩
      · exact Bool.false_ne_true hforce
      · exact hdue ⟨hne, hlate⟩
    rw [flushRadarBufferIfNeeded_of_not_due p.uptime false hkeep]
    exact ⟨rfl, by rw [hframes, List.append_nil]; rfl⟩

end FirmwareState

open FirmwareState

/-! ## Runs -/

/-- `RadarRun s polls frames t`: from `s` the main loop polls the UART as in
`polls` and reaches `t`, applying `frames`.  Between polls it does other work,
which leaves the buffer and the time of the last byte alone. -/
inductive RadarRun : FirmwareState → List UartPoll → List RadarFrame → FirmwareState → Prop where
  | nil (s : FirmwareState) : RadarRun s [] [] s
  | work {s s' t : FirmwareState} {polls : List UartPoll} {frames : List RadarFrame} :
      s'.receiver = s.receiver → RadarRun s' polls frames t → RadarRun s polls frames t
  | poll {s t : FirmwareState} {polls : List UartPoll} {frames : List RadarFrame} (p : UartPoll) :
      RadarRun (s.pollRadarUart p).1 polls frames t →
      RadarRun s (p :: polls) ((s.pollRadarUart p).2 ++ frames) t

/-- A run of the main loop is a run of the receiver. -/
theorem RadarRun.receiver {s t : FirmwareState} {polls : List UartPoll} {frames : List RadarFrame}
    (h : RadarRun s polls frames t) :
    t.receiver = (run radarFrameBufferSize radarIdleFrameGapMs s.receiver
        (polls.map UartPoll.line)).1 ∧
      frames = (run radarFrameBufferSize radarIdleFrameGapMs s.receiver
        (polls.map UartPoll.line)).2.filterMap parseRadarFrame := by
  induction h with
  | nil s => exact ⟨rfl, rfl⟩
  | work hkeep _ ih => rwa [hkeep] at ih
  | @poll s t polls frames p _ ih =>
    obtain ⟨hreceiver, hframes⟩ := receiver_pollRadarUart s p
    rw [hreceiver] at ih
    obtain ⟨ht, hrest⟩ := ih
    simp only [List.map_cons, run, List.filterMap_append]
    exact ⟨ht, by rw [hframes, hrest]⟩

/-- The bytes of a run of polls cut where the firmware can see a silence. -/
def radarBursts (s : FirmwareState) (polls : List UartPoll) : List (List UInt8) :=
  bursts radarIdleFrameGapMs s.radarBuffer.items s.lastRadarByteMs (polls.map UartPoll.line)

/-- The poll finds the line silent for 20 ms after the polls before it. -/
def LineIdle (s : FirmwareState) (polls : List UartPoll) (p : UartPoll) : Prop :=
  Silent radarIdleFrameGapMs (lastTime s.lastRadarByteMs (polls.map UartPoll.line)) p.line

/-- Once the line is idle, the frames applied are read from the bursts, each
cut into pieces of at most 256 bytes. -/
theorem RadarRun.cuts {s t : FirmwareState} {polls : List UartPoll} {p : UartPoll}
    {frames : List RadarFrame} (h : RadarRun s (polls ++ [p]) frames t)
    (hidle : LineIdle s polls p) :
    ∃ cuts, List.Forall₂ (Cut radarFrameBufferSize) (radarBursts s (polls ++ [p])) cuts ∧
      frames = cuts.flatten.filterMap parseRadarFrame := by
  have hstart : Collected radarFrameBufferSize s.radarBuffer.items [] s.receiver.buffer :=
    ⟨rfl, by simp, s.radarBuffer.length_le⟩
  obtain ⟨cuts, hcuts, hout⟩ := run_cuts radarFrameBufferSize radarIdleFrameGapMs (by decide)
    (by decide) ((polls ++ [p]).map UartPoll.line) s.receiver _ [] hstart
  have hbuffer : (run radarFrameBufferSize radarIdleFrameGapMs s.receiver
      ((polls ++ [p]).map UartPoll.line)).1.buffer = [] := by
    rw [List.map_append]
    exact buffer_run_of_silent hidle
  rw [hbuffer, leftover, List.append_nil, List.nil_append] at hout
  exact ⟨cuts, hcuts, by rw [h.receiver.2, hout]⟩

/-! ## Whole frames -/

theorem length_flatMap_energyFrameBytes (samples : List EnergySample) :
    (samples.flatMap energyFrameBytes).length = 45 * samples.length := by
  induction samples with
  | nil => rfl
  | cons sample samples ih =>
    rw [List.flatMap_cons, List.length_append, length_energyFrameBytes, ih, List.length_cons]
    omega

theorem filterMap_parseRadarFrame_energyFrameBytes (samples : List EnergySample) :
    (samples.map energyFrameBytes).filterMap parseRadarFrame =
      samples.map fun sample => RadarFrame.energy sample.frame := by
  have hparse : parseRadarFrame ∘ energyFrameBytes =
      fun sample => some (RadarFrame.energy sample.frame) :=
    funext parseRadarFrame_energyFrameBytes
  rw [List.filterMap_map, hparse]
  exact congrFun List.filterMap_eq_map' samples

/-- Pieces of 45 bytes that together are the bytes of the samples are the samples. -/
theorem eq_map_energyFrameBytes {pieces : List (List UInt8)} {samples : List EnergySample}
    (hflat : pieces.flatten = samples.flatMap energyFrameBytes)
    (hlength : ∀ piece ∈ pieces, piece.length = 45) : pieces = samples.map energyFrameBytes := by
  have hcount : pieces.length = samples.length := by
    have htotal := congrArg List.length hflat
    rw [length_flatMap_energyFrameBytes, List.length_flatten, List.map_congr_left hlength] at htotal
    simp only [List.map_const', List.sum_replicate, smul_eq_mul] at htotal
    omega
  refine List.eq_iff_flatten_eq.2 ⟨by rw [hflat, List.flatMap_def], ?_⟩
  rw [List.map_congr_left hlength, List.map_map,
    List.map_congr_left (l := samples) (g := fun _ => 45) (by simp), List.map_const',
    List.map_const', hcount]

theorem flatten_radarBursts {s : FirmwareState} (polls : List UartPoll)
    (hempty : s.radarBuffer.items = []) :
    (radarBursts s polls).flatten = polls.flatMap fun p => received p.reads := by
  rw [radarBursts, flatten_bursts, hempty, List.nil_append, List.flatMap_map]
  rfl

/-- A burst of whole frames yields no more pieces than frames, and as many only
if it is a single frame. -/
theorem length_le_of_pieces {burst : List UInt8} (hne : burst ≠ []) (hwhole : 45 ∣ burst.length)
    {k : ℕ} (hk : radarFrameBufferSize * k < burst.length + radarFrameBufferSize) :
    45 * k ≤ burst.length ∧ (45 * k = burst.length → burst.length ≤ 45) := by
  obtain ⟨n, hn⟩ := hwhole
  have := List.length_pos_iff.2 hne
  rw [radarFrameBufferSize] at hk
  omega

/-- Frames sent one after the other, with silences between frames only, are
applied one by one with their own contents exactly when the firmware sees a
silence after each of them. -/
theorem radarFrames_eq_iff {s t : FirmwareState} {polls : List UartPoll} {p : UartPoll}
    {frames : List RadarFrame} {samples : List EnergySample}
    (h : RadarRun s (polls ++ [p]) frames t) (hempty : s.radarBuffer.items = [])
    (hbytes : (polls ++ [p]).flatMap (fun q => received q.reads) =
      samples.flatMap energyFrameBytes)
    (hwhole : ∀ burst ∈ radarBursts s (polls ++ [p]), 45 ∣ burst.length)
    (hidle : LineIdle s polls p) :
    frames = samples.map (fun sample => RadarFrame.energy sample.frame) ↔
      ∀ burst ∈ radarBursts s (polls ++ [p]), burst.length ≤ 45 := by
  obtain ⟨cuts, hcuts, rfl⟩ := h.cuts hidle
  have hflat := (flatten_radarBursts (polls ++ [p]) hempty).trans hbytes
  have hpos : ∀ burst ∈ radarBursts s (polls ++ [p]), burst ≠ [] :=
    fun burst hburst => ne_nil_of_mem_bursts hburst
  constructor
  · intro heq burst hburst
    -- as many frames as samples need as many pieces, so no burst lost one
    have hcount : samples.length ≤ cuts.flatten.length := by
      have hlen := congrArg List.length heq
      rw [List.length_map] at hlen
      exact hlen ▸ List.length_filterMap_le _ _
    obtain ⟨-, heach⟩ := length_flatten_cuts hcuts 45 fun b hb k hk =>
      (length_le_of_pieces (hpos b hb) (hwhole b hb) hk).1
    rw [hflat, length_flatMap_energyFrameBytes] at heach
    obtain ⟨k, hk, hlen⟩ := heach (Nat.mul_le_mul_left 45 hcount) burst hburst
    exact (length_le_of_pieces (hpos burst hburst) (hwhole burst hburst) hk).2 hlen
  · intro hshort
    have hlength : ∀ burst ∈ radarBursts s (polls ++ [p]), burst.length = 45 := by
      intro burst hburst
      obtain ⟨n, hn⟩ := hwhole burst hburst
      have := List.length_pos_iff.2 (hpos burst hburst)
      have := hshort burst hburst
      omega
    rw [flatten_cuts_eq hcuts hpos fun burst hburst => by rw [hlength burst hburst]; decide,
      eq_map_energyFrameBytes hflat hlength, filterMap_parseRadarFrame_energyFrameBytes]

/-- A sample and the reads that deliver its frame. -/
def steadySample : EnergySample := ⟨35, 1, 120, Vector.replicate 16 40⟩

def steadyReads : List (Option (HVec UInt8 32)) :=
  [Bounded.empty.extend ((energyFrameBytes steadySample).take 32),
    Bounded.empty.extend ((energyFrameBytes steadySample).drop 32)]

theorem radarFrames_eq_iff_steady :
    (({} : FirmwareState).pollRadarUart ⟨7, steadyReads⟩).2 ++
        (((({} : FirmwareState).pollRadarUart ⟨7, steadyReads⟩).1.pollRadarUart ⟨27, []⟩).2 ++ []) =
      [steadySample].map fun sample => RadarFrame.energy sample.frame := by
  have hrun : RadarRun {} ([⟨7, steadyReads⟩] ++ [⟨27, []⟩]) _ _ :=
    RadarRun.poll ⟨7, steadyReads⟩ (RadarRun.poll ⟨27, []⟩ (RadarRun.nil _))
  exact (radarFrames_eq_iff hrun rfl (by decide) (by decide) ⟨rfl, by decide⟩).2 (by decide)

/-- A main loop that stalls while two frames arrive reads them as one. -/
theorem radarFrames_coalesce :
    ¬ ∀ (s t : FirmwareState) (polls : List UartPoll) (p : UartPoll) (frames : List RadarFrame)
      (samples : List EnergySample), RadarRun s (polls ++ [p]) frames t →
      s.radarBuffer.items = [] →
      (polls ++ [p]).flatMap (fun q => received q.reads) = samples.flatMap energyFrameBytes →
      (∀ burst ∈ radarBursts s (polls ++ [p]), 45 ∣ burst.length) → LineIdle s polls p →
      frames = samples.map fun sample => RadarFrame.energy sample.frame := by
  intro hall
  have hframes := hall {} _ [⟨7, steadyReads ++ steadyReads⟩] ⟨27, []⟩ _
    [steadySample, steadySample]
    (RadarRun.poll ⟨7, steadyReads ++ steadyReads⟩ (RadarRun.poll ⟨27, []⟩ (RadarRun.nil _)))
    rfl (by decide) (by decide) ⟨rfl, by decide⟩
  exact absurd (congrArg List.length hframes) (by decide)

end EspWaveRider.Firmware
