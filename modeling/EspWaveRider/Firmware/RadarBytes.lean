import EspWaveRider.Firmware.Configuration
import EspWaveRider.Firmware.RadarUart

/-!
# No byte of the radar is lost

What `poll_radar_uart` and `flush_radar_buffer_if_needed` of
`rust/firmware/esp32s3/src/main.rs` hand to `parse_radar_frame`, in any run of polls.  The byte
loop ignores whether a byte fits into the buffer, so this depends on its flushing a full buffer
first.

* `parsedBuffers` — the buffers one poll parses;
* `Conserves` — bytes in, buffers out, composed from the byte loop up;
* `radarBytes_conserved` — every run of polls.
-/

namespace EspWaveRider.Firmware

open Radar

namespace FirmwareState

/-! ## The buffers that are parsed -/

/-- The buffer `flush_radar_buffer_if_needed` parses, if it does. -/
def flushedBuffers (s : FirmwareState) (uptime : ℕ) (force : Bool) : List (List UInt8) :=
  let shouldFlush := s.radarBuffer.items ≠ [] ∧
    (force ∨ uptime - s.lastRadarByteMs ≥ radarIdleFrameGapMs ∨
      s.radarBuffer.items.length ≥ radarFrameBufferSize)
  if ¬shouldFlush then [] else [s.radarBuffer.items]

/-- The same for one byte of the loop. -/
def pushedBuffers (s : FirmwareState) (uptime : ℕ) : List (List UInt8) :=
  let s := s.noteRadarByte uptime
  if s.radarBuffer.items.length ≥ radarFrameBufferSize then s.flushedBuffers uptime true else []

def byteLoopBuffers (uptime : ℕ) : FirmwareState → List UInt8 → List (List UInt8)
  | _, [] => []
  | s, byte :: bytes =>
    s.pushedBuffers uptime ++ byteLoopBuffers uptime (s.pushRadarByte uptime byte).1 bytes

def readBuffers (uptime : ℕ) : FirmwareState → List (Option (HVec UInt8 32)) → List (List UInt8)
  | _, [] => []
  | _, none :: _ => []
  | s, some chunk :: reads =>
    if chunk.items = [] then []
    else
      byteLoopBuffers uptime s chunk.items ++
        readBuffers uptime (pushRadarBytes uptime s chunk.items).1 reads

/-- All that one call of `poll_radar_uart` parses. -/
def parsedBuffers (s : FirmwareState) (p : UartPoll) : List (List UInt8) :=
  readBuffers p.uptime s p.reads ++
    (readRadarUart p.uptime s p.reads).1.flushedBuffers p.uptime false

/-! ## Conservation -/

/-- A buffer that is parsed holds between one byte and as many as fit, and gives a frame. -/
structure WellParsed (buffer : List UInt8) : Prop where
  pos : 1 ≤ buffer.length
  length_le : buffer.length ≤ radarFrameBufferSize
  isSome : (parseRadarFrame buffer).isSome

/-- From `s` to `s'` the bytes went through the buffer into what was parsed, each buffer gave
one frame, and buffers and bytes were counted. -/
structure Conserves (s s' : FirmwareState) (bytes : List UInt8) (parsed : List (List UInt8))
    (frames : List RadarFrame) : Prop where
  flatten : parsed.flatten ++ s'.radarBuffer.items = s.radarBuffer.items ++ bytes
  wellParsed : ∀ buffer ∈ parsed, WellParsed buffer
  frames : parsed.map parseRadarFrame = frames.map some
  framesTotal : s'.radarFramesTotal = saturatingSucc^[parsed.length] s.radarFramesTotal
  bytesTotal : s'.radarBytesTotal = saturatingSucc^[bytes.length] s.radarBytesTotal

theorem Conserves.refl (s : FirmwareState) : Conserves s s [] [] [] :=
  ⟨by simp, nofun, rfl, rfl, rfl⟩

theorem Conserves.trans {s s' s'' : FirmwareState} {bytes bytes' : List UInt8}
    {parsed parsed' : List (List UInt8)} {frames frames' : List RadarFrame}
    (h : Conserves s s' bytes parsed frames) (h' : Conserves s' s'' bytes' parsed' frames') :
    Conserves s s'' (bytes ++ bytes') (parsed ++ parsed') (frames ++ frames') where
  flatten := by
    rw [List.flatten_append, List.append_assoc, h'.flatten, ← List.append_assoc, h.flatten,
      List.append_assoc]
  wellParsed buffer hbuffer := by
    rcases List.mem_append.1 hbuffer with hfirst | hsecond
    · exact h.wellParsed buffer hfirst
    · exact h'.wellParsed buffer hsecond
  frames := by rw [List.map_append, List.map_append, h.frames, h'.frames]
  framesTotal := by
    rw [List.length_append, Nat.add_comm, Function.iterate_add_apply, ← h.framesTotal,
      h'.framesTotal]
  bytesTotal := by
    rw [List.length_append, Nat.add_comm, Function.iterate_add_apply, ← h.bytesTotal,
      h'.bytesTotal]

@[simp] theorem radarFramesTotal_applyRadarFrame (s : FirmwareState) (frame : RadarFrame) :
    (s.applyRadarFrame frame).radarFramesTotal = saturatingSucc s.radarFramesTotal := by
  cases frame <;> rfl

@[simp] theorem radarBytesTotal_applyRadarFrame (s : FirmwareState) (frame : RadarFrame) :
    (s.applyRadarFrame frame).radarBytesTotal = s.radarBytesTotal := by
  cases frame <;> rfl

/-- A flush parses the whole buffer, and the parser has a frame for it. -/
theorem conserves_flushRadarBufferIfNeeded (s : FirmwareState) (uptime : ℕ) (force : Bool) :
    Conserves s (s.flushRadarBufferIfNeeded uptime force).1 [] (s.flushedBuffers uptime force)
      (s.flushRadarBufferIfNeeded uptime force).2 := by
  unfold flushRadarBufferIfNeeded flushedBuffers
  dsimp only
  split
  · exact .refl s
  · rename_i hflush
    have hne : s.radarBuffer.items ≠ [] := (not_not.1 hflush).1
    have hsome := parseRadarFrame_isSome hne
    obtain ⟨frame, hframe⟩ := Option.isSome_iff_exists.1 hsome
    rw [hframe]
    dsimp only
    have hempty : ((s.setRadarBuffer Bounded.empty).applyRadarFrame frame).radarBuffer.items = [] :=
      congrArg GapFraming.Receiver.buffer
        (receiver_applyRadarFrame (s.setRadarBuffer Bounded.empty) frame)
    refine ⟨?_, ?_, ?_, radarFramesTotal_applyRadarFrame _ frame,
      radarBytesTotal_applyRadarFrame _ frame⟩
    · rw [List.flatten_singleton, List.append_nil]
      exact (congrArg _ hempty).trans (List.append_nil _)
    · intro buffer hbuffer
      rw [List.mem_singleton.1 hbuffer]
      exact ⟨List.length_pos_iff.2 hne, s.radarBuffer.length_le, hsome⟩
    · rw [List.map_singleton, List.map_singleton, hframe]

/-- After the forced flush there is room for one more byte. -/
theorem length_flushRadarBufferIfNeeded_lt (s : FirmwareState) (uptime : ℕ) :
    (s.flushRadarBufferIfNeeded uptime true).1.radarBuffer.items.length < radarFrameBufferSize := by
  by_cases hne : s.radarBuffer.items = []
  · rw [flushRadarBufferIfNeeded_of_not_due uptime true fun h => h.1 hne, hne]
    decide
  · have hflushed := (flushRadarBufferIfNeeded_of_due uptime true hne (Or.inl rfl)).1
    have hempty : (s.flushRadarBufferIfNeeded uptime true).1.radarBuffer.items = [] :=
      congrArg GapFraming.Receiver.buffer hflushed
    rw [hempty]
    decide

/-- The byte is counted, the buffer flushed if it is full, and then the byte fits. -/
theorem conserves_pushRadarByte (s : FirmwareState) (uptime : ℕ) (byte : UInt8) :
    Conserves s (s.pushRadarByte uptime byte).1 [byte] (s.pushedBuffers uptime)
      (s.pushRadarByte uptime byte).2 := by
  have hadd (t : FirmwareState) (ht : t.radarBuffer.items.length < radarFrameBufferSize)
      {parsed : List (List UInt8)} {frames : List RadarFrame}
      (h : Conserves (s.noteRadarByte uptime) t [] parsed frames) :
      Conserves s (t.setRadarBuffer ((t.radarBuffer.push byte).getD t.radarBuffer)) [byte] parsed
        frames := by
    refine ⟨?_, h.wellParsed, h.frames, h.framesTotal, h.bytesTotal⟩
    show parsed.flatten ++ ((t.radarBuffer.push byte).getD t.radarBuffer).items = _
    have hflat := h.flatten
    rw [List.append_nil] at hflat
    rw [Bounded.items_push_getD ht, ← List.append_assoc, hflat]
    rfl
  unfold pushRadarByte pushedBuffers
  dsimp only
  split
  · exact hadd _ (length_flushRadarBufferIfNeeded_lt _ uptime)
      ((s.noteRadarByte uptime).conserves_flushRadarBufferIfNeeded uptime true)
  · rename_i hroom
    exact hadd _ (Nat.lt_of_not_le hroom) (.refl _)

theorem conserves_pushRadarBytes (uptime : ℕ) (bytes : List UInt8) (s : FirmwareState) :
    Conserves s (pushRadarBytes uptime s bytes).1 bytes (byteLoopBuffers uptime s bytes)
      (pushRadarBytes uptime s bytes).2 := by
  induction bytes generalizing s with
  | nil => exact .refl s
  | cons byte bytes ih =>
    exact (s.conserves_pushRadarByte uptime byte).trans (ih (s.pushRadarByte uptime byte).1)

theorem conserves_readRadarUart (uptime : ℕ) (reads : List (Option (HVec UInt8 32)))
    (s : FirmwareState) :
    Conserves s (readRadarUart uptime s reads).1 (received reads) (readBuffers uptime s reads)
      (readRadarUart uptime s reads).2 := by
  induction reads generalizing s with
  | nil => exact .refl s
  | cons read reads ih =>
    cases read with
    | none => exact .refl s
    | some chunk =>
      unfold readRadarUart received readBuffers
      split
      · exact .refl s
      · exact (conserves_pushRadarBytes uptime chunk.items s).trans (ih _)

theorem conserves_pollRadarUart (s : FirmwareState) (p : UartPoll) :
    Conserves s (s.pollRadarUart p).1 (received p.reads) (s.parsedBuffers p)
      (s.pollRadarUart p).2 := by
  have hread := conserves_readRadarUart p.uptime p.reads s
  have hflush := (readRadarUart p.uptime s p.reads).1.conserves_flushRadarBufferIfNeeded p.uptime
    false
  have hall := hread.trans hflush
  rwa [List.append_nil] at hall

end FirmwareState

open FirmwareState

/-! ## Runs -/

/-- `UartRun s bytes parsed frames`: from boot the main loop has received these bytes, parsed
these buffers and applied these frames, and is in the state `s`.  The rest of its work leaves the
buffer and the two counters alone. -/
inductive UartRun : FirmwareState → List UInt8 → List (List UInt8) → List RadarFrame → Prop where
  | boot (mac : Vector UInt8 6) (settings : Option Nvs) : UartRun (bootState mac settings) [] [] []
  | work {s s' : FirmwareState} {bytes : List UInt8} {parsed : List (List UInt8)}
      {frames : List RadarFrame} :
      UartRun s bytes parsed frames → s'.receiver = s.receiver →
      s'.radarFramesTotal = s.radarFramesTotal → s'.radarBytesTotal = s.radarBytesTotal →
      UartRun s' bytes parsed frames
  | poll {s : FirmwareState} {bytes : List UInt8} {parsed : List (List UInt8)}
      {frames : List RadarFrame} (p : UartPoll) :
      UartRun s bytes parsed frames →
      UartRun (s.pollRadarUart p).1 (bytes ++ received p.reads) (parsed ++ s.parsedBuffers p)
        (frames ++ (s.pollRadarUart p).2)

/-- A node boots with an empty buffer and has counted nothing. -/
theorem uart_bootState (mac : Vector UInt8 6) (settings : Option Nvs) :
    (bootState mac settings).radarBuffer = Bounded.empty ∧
      (bootState mac settings).radarFramesTotal = 0 ∧
      (bootState mac settings).radarBytesTotal = 0 := by
  cases settings with
  | none => exact ⟨rfl, rfl, rfl⟩
  | some settings =>
    exact disconnectedIf_rule (Q := fun t => t.radarBuffer = Bounded.empty ∧ t.radarFramesTotal = 0 ∧
      t.radarBytesTotal = 0) _ _ id ⟨rfl, rfl, rfl⟩

theorem iterate_saturatingSucc (n k : ℕ) :
    saturatingSucc^[n] (min k u32Max) = min (k + n) u32Max := by
  induction n with
  | zero => rfl
  | succ n ih =>
    rw [Function.iterate_succ_apply', ih, saturatingSucc]
    omega

/-- The whole run since boot. -/
theorem UartRun.conserves {s : FirmwareState} {bytes : List UInt8} {parsed : List (List UInt8)}
    {frames : List RadarFrame} (h : UartRun s bytes parsed frames) :
    Conserves {} s bytes parsed frames := by
  induction h with
  | boot mac settings =>
    obtain ⟨hbuffer, hframes, hbytes⟩ := uart_bootState mac settings
    exact ⟨by rw [hbuffer]; rfl, nofun, rfl, hframes, hbytes⟩
  | work _ hreceiver hframes hbytes ih =>
    have hbuffer := congrArg GapFraming.Receiver.buffer hreceiver
    exact ⟨(congrArg _ hbuffer).trans ih.flatten, ih.wellParsed, ih.frames,
      hframes.trans ih.framesTotal, hbytes.trans ih.bytesTotal⟩
  | poll p _ ih => exact ih.trans (conserves_pollRadarUart _ p)

/-- In every run: what was parsed and what is in the buffer are the bytes received, each buffer
parsed has between 1 and 256 bytes and gave one frame that was applied, and the counters count
them. -/
theorem radarBytes_conserved {s : FirmwareState} {bytes : List UInt8} {parsed : List (List UInt8)}
    {frames : List RadarFrame} (h : UartRun s bytes parsed frames) :
    parsed.flatten ++ s.radarBuffer.items = bytes ∧
      (∀ buffer ∈ parsed, 1 ≤ buffer.length ∧ buffer.length ≤ 256) ∧
      parsed.map parseRadarFrame = frames.map some ∧
      s.radarFramesTotal = min parsed.length u32Max ∧ s.radarBytesTotal = min bytes.length u32Max := by
  obtain ⟨hflatten, hwell, hframes, htotal, hbytes⟩ := h.conserves
  refine ⟨hflatten, fun buffer hbuffer => ⟨(hwell buffer hbuffer).pos,
    (hwell buffer hbuffer).length_le⟩, hframes, ?_, ?_⟩
  · rw [htotal]
    exact (iterate_saturatingSucc _ 0).trans (by rw [Nat.zero_add])
  · rw [hbytes]
    exact (iterate_saturatingSucc _ 0).trans (by rw [Nat.zero_add])

/-- A frame that arrives after boot. -/
theorem radarBytes_conserved_steady :
    let s := bootState (Vector.replicate 6 0) none
    let s' := (s.pollRadarUart ⟨7, steadyReads⟩).1
    ([] ++ s.parsedBuffers ⟨7, steadyReads⟩).flatten ++ s'.radarBuffer.items =
        [] ++ received steadyReads ∧
      (∀ buffer ∈ [] ++ s.parsedBuffers ⟨7, steadyReads⟩,
        1 ≤ buffer.length ∧ buffer.length ≤ 256) ∧
      ([] ++ s.parsedBuffers ⟨7, steadyReads⟩).map parseRadarFrame =
        ([] ++ (s.pollRadarUart ⟨7, steadyReads⟩).2).map some ∧
      s'.radarFramesTotal = min ([] ++ s.parsedBuffers ⟨7, steadyReads⟩).length u32Max ∧
      s'.radarBytesTotal = min ([] ++ received steadyReads).length u32Max :=
  radarBytes_conserved (.poll ⟨7, steadyReads⟩ (.boot (Vector.replicate 6 0) none))

end EspWaveRider.Firmware
