import EspWaveRider.Lib.Writes
import EspWaveRider.Firmware.OtaWriter
import EspWaveRider.Firmware.State

/-!
# The OTA writer and the chunks it is handed

`OtaPartitionWriter` of `rust/firmware/esp32s3/src/main.rs` with the array and the
32-bit numbers it has on the device: the word that waits is a `[u8; 4]` that is
0xFF behind its first `trailingLen` bytes, and offsets and sizes saturate.

* `writeChunk_toU32`, `finish_toU32` — as long as the flash takes what is written
  it does what `Firmware.OtaPartitionWriter` does on lists;
* `writesImage_writeImage` — however an image is cut into chunks, the words of the
  partition are written once and in order, and hold the image filled up with 0xFF.
-/

namespace EspWaveRider.Firmware

open Text Fallible

/-- `saturating_add` on a `u32`. -/
def saturatingAdd (n k : ℕ) : ℕ := min (n + k) u32Max

theorem saturatingAdd_min (n k : ℕ) : saturatingAdd (min n u32Max) k = min (n + k) u32Max := by
  unfold saturatingAdd
  omega

namespace U32

structure OtaPartitionWriter where
  offset : ℕ
  trailing : Vector UInt8 4
  trailingLen : ℕ
  totalBytes : ℕ
  deriving DecidableEq

namespace OtaPartitionWriter

def erasedWord : Vector UInt8 4 := Vector.replicate 4 0xFF

/-- `array[start..start + src.len()].copy_from_slice(src)`. -/
def copyFromSlice (array : Vector UInt8 4) (start : ℕ) (src : List UInt8) : Vector UInt8 4 :=
  array.mapIdx fun i old => if start ≤ i then src[i - start]?.getD old else old

def new (imageLen : Option ℕ) : OtaM OtaPartitionWriter := do
  let capacity := (← get).capacity
  let eraseLen := match imageLen with
    | some len => min (Firmware.OtaPartitionWriter.nextMultipleOf (min len capacity) flashEraseSize)
        capacity
    | none => capacity
  modify fun p => { p with ops := [], handed := [] }
  OtaPartition.erase (min eraseLen u32Max)
  return { offset := 0, trailing := erasedWord, trailingLen := 0, totalBytes := 0 }

def fillTrailing (m : OtaPartitionWriter) (chunk : List UInt8) :
    OtaM (OtaPartitionWriter × List UInt8) :=
  if m.trailingLen > 0 then
    let fill := min (4 - m.trailingLen) chunk.length
    let trailing := copyFromSlice m.trailing m.trailingLen (chunk.take fill)
    let trailingLen := m.trailingLen + fill
    if trailingLen = 4 then do
      OtaPartition.write m.offset trailing.toList
      return ({ m with
        offset := saturatingAdd m.offset 4, trailing := erasedWord, trailingLen := 0 },
        chunk.drop fill)
    else return ({ m with trailing, trailingLen }, chunk.drop fill)
  else return (m, chunk)

/-- What is left of the chunk waits. -/
def keepRest (m : OtaPartitionWriter) (rest : List UInt8) : OtaPartitionWriter :=
  if rest = [] then m
  else { m with trailing := copyFromSlice m.trailing 0 rest, trailingLen := rest.length }

def writeAligned (m : OtaPartitionWriter) (chunk : List UInt8) : OtaM OtaPartitionWriter :=
  let alignedLen := chunk.length - chunk.length % 4
  if alignedLen > 0 then do
    OtaPartition.write m.offset (chunk.take alignedLen)
    return { m with offset := saturatingAdd m.offset (alignedLen % 2 ^ 32) }.keepRest
      (chunk.drop alignedLen)
  else return m.keepRest chunk

def writeChunk (m : OtaPartitionWriter) (chunk : List UInt8) : OtaM OtaPartitionWriter := do
  modify fun p => { p with handed := p.handed ++ chunk }
  let (m, chunk) ← fillTrailing
    { m with totalBytes := saturatingAdd m.totalBytes chunk.length } chunk
  m.writeAligned chunk

def finish (m : OtaPartitionWriter) : OtaM OtaPartitionWriter :=
  if m.trailingLen = 0 then return m
  else do
    OtaPartition.write m.offset m.trailing.toList
    return { m with offset := saturatingAdd m.offset 4, trailing := erasedWord, trailingLen := 0 }

/-- A writer is opened, handed the chunks one after the other and finished. -/
def writeImage (imageLen : Option ℕ) (chunks : List (List UInt8)) : OtaM OtaPartitionWriter := do
  let opened ← new imageLen
  let m ← chunks.foldlM writeChunk opened
  m.finish

end OtaPartitionWriter

end U32

/-! ## The array does what the list does -/

namespace OtaPartitionWriter

/-- The writer on the device: the word that waits is filled up with 0xFF. -/
def toU32 (w : OtaPartitionWriter) : U32.OtaPartitionWriter :=
  { offset := min w.offset u32Max
    trailing := Vector.ofFn fun i => w.trailing[i.val]?.getD 0xFF
    trailingLen := w.trailing.length
    totalBytes := min w.totalBytes u32Max }

open U32.OtaPartitionWriter (copyFromSlice erasedWord)

theorem copyFromSlice_ofFn (xs ys : List UInt8) :
    copyFromSlice (Vector.ofFn fun i => xs[i.val]?.getD 0xFF) xs.length ys =
      Vector.ofFn fun i => (xs ++ ys)[i.val]?.getD 0xFF := by
  ext i hi
  simp only [copyFromSlice, Vector.getElem_mapIdx, Vector.getElem_ofFn]
  split_ifs with hbehind
  · rw [List.getElem?_append_right hbehind, List.getElem?_eq_none hbehind]
    rfl
  · rw [List.getElem?_append_left (by omega)]

theorem ofFn_nil : (Vector.ofFn fun i : Fin 4 => ([] : List UInt8)[i.val]?.getD 0xFF) = erasedWord := by
  decide

/-- The whole array is the bytes that wait and the padding. -/
theorem toList_ofFn {xs : List UInt8} (h : xs.length ≤ 4) :
    (Vector.ofFn fun i : Fin 4 => xs[i.val]?.getD 0xFF).toList = padded xs := by
  apply List.ext_getElem
  · simp only [Vector.length_toList, padded, List.length_append, List.length_replicate]
    omega
  · intro i hi _
    simp only [Vector.getElem_toList, Vector.getElem_ofFn, padded]
    by_cases hlt : i < xs.length
    · rw [List.getElem_append_left hlt, List.getElem?_eq_getElem hlt]
      rfl
    · rw [List.getElem_append_right (by omega), List.getElem_replicate,
        List.getElem?_eq_none (by omega)]
      rfl

theorem padded_full {xs : List UInt8} (h : xs.length = 4) : padded xs = xs := by
  rw [padded, h]
  exact List.append_nil xs

/-- Every write is whole words long. -/
def WholeWords (ops : List FlashOp) : Prop := ∀ op ∈ ops, 4 ∣ op.written.length

theorem WholeWords.did {p : OtaPartition} (h : WholeWords p.ops) {op : FlashOp}
    (hop : 4 ∣ op.written.length) : WholeWords (p.did op).ops := by
  intro op' hmem
  rcases List.mem_append.1 hmem with hmem | hmem
  · exact h op' hmem
  · rw [List.mem_singleton.1 hmem]
    exact hop

/-- The writer has written whole words inside the partition. -/
structure Inside (w : OtaPartitionWriter) (p : OtaPartition) : Prop where
  offset : w.offset ≤ p.capacity
  capacity : p.capacity ≤ u32Max
  trailing : w.trailing.length < 4
  words : WholeWords p.ops

theorem Inside.toU32_offset {w : OtaPartitionWriter} {p : OtaPartition} (h : w.Inside p) :
    (toU32 w).offset = w.offset := by
  have hoffset := h.offset
  have hcapacity := h.capacity
  show min w.offset u32Max = w.offset
  omega

/-- The word was written. -/
theorem Inside.flushed_toU32 {w : OtaPartitionWriter} {p : OtaPartition} (h : w.Inside p) :
    ({ toU32 w with
        offset := saturatingAdd (toU32 w).offset 4, trailing := erasedWord, trailingLen := 0 } :
      U32.OtaPartitionWriter) = toU32 { w with offset := w.offset + 4, trailing := [] } := by
  rw [h.toU32_offset]
  simp only [toU32, ofFn_nil]
  rfl

/-- A write that succeeded stays inside the partition. -/
theorem ends_write_inside {p : OtaPartition} {offset : ℕ} {bytes : List UInt8} :
    Ends (OtaPartition.write offset bytes) p
      (fun _ p' => p' = p.did (.write offset bytes) ∧ offset + bytes.length ≤ p.capacity) True := by
  unfold Ends OtaPartition.write OtaPartition.perform
  dsimp only
  split_ifs with hok
  · simp only [Bool.and_eq_true, decide_eq_true_eq] at hok
    exact ⟨rfl, hok.1⟩
  · trivial

theorem Inside.fillTrailing {w : OtaPartitionWriter} {p : OtaPartition} (h : w.Inside p)
    (chunk : List UInt8) :
    Ends (w.fillTrailing chunk) p
      (fun r p' => r.1.Inside p' ∧ (r.1.trailing = [] ∨ r.2 = [])) True := by
  have hwaits := h.trailing
  unfold OtaPartitionWriter.fillTrailing
  split_ifs with hempty
  · exact Ends.pure ⟨h, .inl hempty⟩
  · dsimp only
    split_ifs with hfull
    · refine Ends.bind ends_write_inside ?_
      rintro _ _ ⟨rfl, hroom⟩
      rw [hfull] at hroom
      have hword : 4 ∣ (FlashOp.write w.offset (w.trailing ++
          chunk.take (min (4 - w.trailing.length) chunk.length))).written.length := by
        rw [FlashOp.written, hfull]
      exact Ends.pure ⟨⟨hroom, h.capacity, Nat.succ_pos 3, h.words.did hword⟩, .inl rfl⟩
    · rw [List.length_append, List.length_take] at hfull
      have hall : chunk.drop (min (4 - w.trailing.length) chunk.length) = [] :=
        List.drop_eq_nil_of_le (by omega)
      refine Ends.pure ⟨⟨h.offset, h.capacity, ?_, h.words⟩, .inr hall⟩
      show (w.trailing ++ chunk.take _).length < 4
      rw [List.length_append, List.length_take]
      omega

theorem Inside.writeAligned {w : OtaPartitionWriter} {p : OtaPartition} (h : w.Inside p)
    (chunk : List UInt8) : Ends (w.writeAligned chunk) p (fun w' p' => w'.Inside p') True := by
  have hwaits := h.trailing
  have hmod := Nat.mod_lt chunk.length (Nat.succ_pos 3)
  have hrest : ∀ alignedLen, alignedLen = chunk.length - chunk.length % 4 →
      (if chunk.drop alignedLen = [] then w.trailing else chunk.drop alignedLen).length < 4 := by
    intro alignedLen haligned
    split
    · exact hwaits
    · rw [List.length_drop]
      omega
  have hkept := hrest _ rfl
  unfold OtaPartitionWriter.writeAligned
  dsimp only
  by_cases hsome : chunk.length - chunk.length % 4 > 0
  · rw [if_pos hsome]
    refine Ends.bind ends_write_inside ?_
    rintro _ _ ⟨rfl, hroom⟩
    have htake : (chunk.take (chunk.length - chunk.length % 4)).length =
        chunk.length - chunk.length % 4 := by
      rw [List.length_take]
      omega
    have hwords : 4 ∣ (FlashOp.write w.offset
        (chunk.take (chunk.length - chunk.length % 4))).written.length := by
      rw [FlashOp.written, htake]
      exact Nat.dvd_sub_mod chunk.length
    rw [htake] at hroom
    exact Ends.pure ⟨hroom, h.capacity, hkept, h.words.did hwords⟩
  · rw [if_neg hsome]
    exact Ends.pure ⟨h.offset, h.capacity, hkept, h.words⟩

theorem Inside.writeChunk {w : OtaPartitionWriter} {p : OtaPartition} (h : w.Inside p)
    (chunk : List UInt8) : Ends (w.writeChunk chunk) p (fun w' p' => w'.Inside p') True := by
  unfold OtaPartitionWriter.writeChunk
  refine Ends.bind
    (Ends.modified (P := fun _ p₁ => p₁ = { p with handed := p.handed ++ chunk }) rfl) ?_
  rintro _ _ rfl
  have hnoted : Inside { w with totalBytes := w.totalBytes + chunk.length }
      { p with handed := p.handed ++ chunk } := ⟨h.offset, h.capacity, h.trailing, h.words⟩
  refine Ends.bind (hnoted.fillTrailing chunk) ?_
  rintro ⟨w₁, rest⟩ p₁ ⟨hw₁, _⟩
  exact hw₁.writeAligned rest

/-- Two continuations of a write are compared where it stays inside the partition. -/
theorem write_bind_eq {α : Type} {p : OtaPartition} {offset : ℕ} {bytes : List UInt8}
    {f g : Unit → OtaM α}
    (h : offset + bytes.length ≤ p.capacity →
      f () (p.did (.write offset bytes)) = g () (p.did (.write offset bytes))) :
    (OtaPartition.write offset bytes >>= f) p = (OtaPartition.write offset bytes >>= g) p := by
  show EStateM.bind _ f p = EStateM.bind _ g p
  unfold EStateM.bind OtaPartition.write OtaPartition.perform
  dsimp only
  split
  · rename_i hrun
    split_ifs at hrun with hok
    · cases hrun
      have hroom : offset + bytes.length ≤ p.capacity := by
        simp only [Bool.and_eq_true, decide_eq_true_eq] at hok
        exact hok.1
      exact h hroom
  · rfl

theorem fillTrailing_toU32 {w : OtaPartitionWriter} {p : OtaPartition} (h : w.Inside p)
    (chunk : List UInt8) :
    (toU32 w).fillTrailing chunk p =
      ((fun r => (toU32 r.1, r.2)) <$> w.fillTrailing chunk) p := by
  have hwaits := h.trailing
  unfold U32.OtaPartitionWriter.fillTrailing OtaPartitionWriter.fillTrailing
  by_cases hempty : w.trailing = []
  · have hzero : ¬ (toU32 w).trailingLen > 0 := by
      simp [toU32, hempty]
    rw [if_pos hempty, if_neg hzero]
    rfl
  · have hpos : (toU32 w).trailingLen > 0 := List.length_pos_iff.2 hempty
    rw [if_neg hempty, if_pos hpos]
    dsimp only
    rw [h.toU32_offset]
    have hlenEq : (toU32 w).trailingLen = w.trailing.length := rfl
    rw [hlenEq]
    set fill := min (4 - w.trailing.length) chunk.length with hfill
    have htake : (chunk.take fill).length = fill := by
      rw [List.length_take]
      omega
    have hcopy : copyFromSlice (toU32 w).trailing w.trailing.length (chunk.take fill) =
        Vector.ofFn fun i => (w.trailing ++ chunk.take fill)[i.val]?.getD 0xFF :=
      copyFromSlice_ofFn w.trailing (chunk.take fill)
    have hlength : (w.trailing ++ chunk.take fill).length = w.trailing.length + fill := by
      rw [List.length_append, htake]
    rw [hcopy, hlength]
    split_ifs with hfull
    · -- the word is full, and the array is exactly this word
      rw [toList_ofFn (by omega), padded_full (by omega), map_bind]
      apply write_bind_eq
      intro _
      rw [map_pure]
      rw [← h.flushed_toU32, h.toU32_offset]
    · rw [map_pure]
      have hwaiting : ({ toU32 w with
          offset := w.offset
          trailing := Vector.ofFn fun i => (w.trailing ++ chunk.take fill)[i.val]?.getD 0xFF,
          trailingLen := w.trailing.length + fill } : U32.OtaPartitionWriter) =
          toU32 { w with trailing := w.trailing ++ chunk.take fill } := by
        have hsame : min w.offset u32Max = w.offset := h.toU32_offset
        simp only [toU32, hlength, hsame]
      rw [hwaiting]

theorem keepRest_toU32 {w : OtaPartitionWriter} {rest : List UInt8}
    (hone : w.trailing = [] ∨ rest = []) :
    (toU32 w).keepRest rest = toU32 { w with trailing := if rest = [] then w.trailing else rest } := by
  unfold U32.OtaPartitionWriter.keepRest
  split_ifs with hrest
  · rfl
  · have hnone := hone.resolve_right hrest
    have hcopy : copyFromSlice (toU32 w).trailing 0 rest =
        Vector.ofFn fun i => rest[i.val]?.getD 0xFF := by
      have hfrom := copyFromSlice_ofFn [] rest
      simp only [toU32, hnone]
      exact hfrom
    rw [hcopy]
    rfl

theorem writeAligned_toU32 {w : OtaPartitionWriter} {p : OtaPartition} (h : w.Inside p)
    {chunk : List UInt8} (hone : w.trailing = [] ∨ chunk = []) :
    (toU32 w).writeAligned chunk p = (toU32 <$> w.writeAligned chunk) p := by
  have hcapacity := h.capacity
  unfold U32.OtaPartitionWriter.writeAligned OtaPartitionWriter.writeAligned
  dsimp only
  rw [h.toU32_offset]
  set alignedLen := chunk.length - chunk.length % 4 with haligned
  by_cases hsome : alignedLen > 0
  · rw [if_pos hsome, if_pos hsome]
    have hnone : w.trailing = [] := by
      refine hone.resolve_right ?_
      rintro rfl
      simp at haligned
      omega
    rw [map_bind]
    apply write_bind_eq
    intro hroom
    rw [map_pure]
    -- a write that stays inside the partition is shorter than 2^32
    have htake : (chunk.take alignedLen).length = alignedLen := by
      rw [List.length_take]
      omega
    have hlow : alignedLen % 2 ^ 32 = alignedLen := by
      rw [htake] at hroom
      unfold u32Max at hcapacity
      exact Nat.mod_eq_of_lt (by omega)
    have hmoved : ({ toU32 w with offset := saturatingAdd w.offset (alignedLen % 2 ^ 32) } :
        U32.OtaPartitionWriter) = toU32 { w with offset := w.offset + alignedLen } := by
      rw [hlow]
      rfl
    have hkeep : (toU32 { w with offset := w.offset + alignedLen }).keepRest
        (chunk.drop alignedLen) = toU32 _ := keepRest_toU32 (.inl hnone)
    rw [hmoved, hkeep]
  · have hzero : alignedLen = 0 := by omega
    rw [if_neg hsome, if_neg hsome, map_pure, hzero, List.drop_zero, keepRest_toU32 hone]

theorem writeChunk_toU32 {w : OtaPartitionWriter} {p : OtaPartition} (h : w.Inside p)
    (chunk : List UInt8) : Mirrors toU32 ((toU32 w).writeChunk chunk) (w.writeChunk chunk) p := by
  unfold U32.OtaPartitionWriter.writeChunk OtaPartitionWriter.writeChunk
  refine Mirrors.bind Mirrors.refl
    (Ends.modified (P := fun _ p₁ => p₁ = { p with handed := p.handed ++ chunk }) rfl) ?_
  rintro _ _ rfl
  have hnoted : Inside { w with totalBytes := w.totalBytes + chunk.length }
      { p with handed := p.handed ++ chunk } := ⟨h.offset, h.capacity, h.trailing, h.words⟩
  have htotal : ({ toU32 w with totalBytes := saturatingAdd (toU32 w).totalBytes chunk.length } :
      U32.OtaPartitionWriter) = toU32 { w with totalBytes := w.totalBytes + chunk.length } := by
    have hsum : saturatingAdd (toU32 w).totalBytes chunk.length =
        min (w.totalBytes + chunk.length) u32Max := saturatingAdd_min w.totalBytes chunk.length
    rw [hsum]
    rfl
  rw [htotal]
  refine Mirrors.bind (fillTrailing_toU32 hnoted chunk) (hnoted.fillTrailing chunk) ?_
  rintro ⟨w₁, rest⟩ p₁ ⟨hw₁, hone⟩
  exact writeAligned_toU32 hw₁ hone

theorem finish_toU32 {w : OtaPartitionWriter} {p : OtaPartition} (h : w.Inside p) :
    Mirrors toU32 (toU32 w).finish w.finish p := by
  have hwaits := h.trailing
  unfold Mirrors U32.OtaPartitionWriter.finish OtaPartitionWriter.finish
  have hlenEq : (toU32 w).trailingLen = w.trailing.length := rfl
  by_cases hempty : w.trailing = []
  · have hzero : (toU32 w).trailingLen = 0 := by rw [hlenEq, hempty, List.length_nil]
    rw [if_pos hempty, if_pos hzero]
    rfl
  · have hpos : ¬ (toU32 w).trailingLen = 0 := by
      rw [hlenEq, List.length_eq_zero_iff]
      exact hempty
    have hword : (toU32 w).trailing.toList = padded w.trailing := toList_ofFn (by omega)
    rw [if_neg hempty, if_neg hpos, h.toU32_offset, hword, map_bind]
    apply write_bind_eq
    intro _
    rw [map_pure]
    rw [← h.flushed_toU32, h.toU32_offset]

theorem new_toU32 (imageLen : Option ℕ) {p : OtaPartition} (hcapacity : p.capacity ≤ u32Max) :
    Mirrors toU32 (U32.OtaPartitionWriter.new imageLen) (new imageLen) p := by
  unfold U32.OtaPartitionWriter.new OtaPartitionWriter.new
  refine Mirrors.bind (Q := fun p₁ p' => p₁ = p ∧ p' = p) Mirrors.refl ⟨rfl, rfl⟩ ?_
  rintro _ p ⟨rfl, rfl⟩
  have herase : ∀ eraseLen, eraseLen ≤ p.capacity → min eraseLen u32Max = eraseLen := by
    intro eraseLen hle
    omega
  have hlen : (match imageLen with
      | some len => min (nextMultipleOf (min len p.capacity) flashEraseSize) p.capacity
      | none => p.capacity) ≤ p.capacity := by
    cases imageLen with
    | none => exact le_rfl
    | some len => exact min_le_right _ _
  dsimp only [id]
  rw [herase _ hlen]
  have hfresh : toU32 {} = ⟨0, erasedWord, 0, 0⟩ := by
    simp only [toU32, ofFn_nil]
    rfl
  refine Mirrors.bind Mirrors.refl
    (Ends.modified (P := fun _ p₂ => p₂ = { p with ops := [], handed := [] }) rfl) ?_
  rintro _ _ rfl
  refine Mirrors.bind (h := id) (Q := fun _ _ => True) Mirrors.refl ?_ ?_
  · exact (OtaPartition.ends_erase (n := 0) (.inl trivial)).mono fun _ _ _ => trivial
  · rintro _ p -
    rw [← hfresh]
    rfl

/-! ## Whole images -/

/-- The image is written on the device as by the writer on lists. -/
def writeImage (imageLen : Option ℕ) (chunks : List (List UInt8)) : OtaM OtaPartitionWriter := do
  let opened ← new imageLen
  let w ← chunks.foldlM writeChunk opened
  w.finish

theorem ends_new_inside (imageLen : Option ℕ) {p : OtaPartition} (hcapacity : p.capacity ≤ u32Max) :
    Ends (new imageLen) p (fun w p' => w.Inside p') True := by
  refine Ends.bind (Q := fun p₁ p' => p₁ = p ∧ p' = p) ⟨rfl, rfl⟩ ?_
  rintro _ p ⟨_, rfl⟩
  refine Ends.bind (Ends.modified (P := fun _ p₂ => p₂ = { p with ops := [], handed := [] }) rfl) ?_
  rintro _ _ rfl
  refine Ends.bind (OtaPartition.ends_erase (n := 0) (.inl trivial)) ?_
  rintro _ _ rfl
  have hempty : WholeWords [] := fun op hop => absurd hop List.not_mem_nil
  exact Ends.pure ⟨Nat.zero_le _, hcapacity, Nat.succ_pos 3, hempty.did (dvd_zero 4)⟩

theorem writeImage_toU32 (imageLen : Option ℕ) (chunks : List (List UInt8)) {p : OtaPartition}
    (hcapacity : p.capacity ≤ u32Max) :
    Mirrors toU32 (U32.OtaPartitionWriter.writeImage imageLen chunks)
      (writeImage imageLen chunks) p := by
  refine Mirrors.bind (new_toU32 imageLen hcapacity) (ends_new_inside imageLen hcapacity) ?_
  intro w p hw
  refine Mirrors.bind (h := toU32) (Q := fun w p => w.Inside p) ?_ ?_ ?_
  · exact Mirrors.foldlM (I := Inside) (fun w chunk p hw => writeChunk_toU32 hw chunk)
      (fun w chunk p hw => hw.writeChunk chunk) chunks hw
  · exact Ends.foldlM (I := fun _ w p => Inside w p)
      (fun done chunk later w p _ hw => hw.writeChunk chunk) chunks (List.nil_append _) hw
  · exact fun w p hw => finish_toU32 hw

theorem dvd_flashed_length {p : OtaPartition} (h : WholeWords p.ops) : 4 ∣ p.flashed.length := by
  unfold OtaPartition.flashed
  generalize p.ops = ops at h
  induction ops with
  | nil => exact dvd_zero 4
  | cons op ops ih =>
    rw [List.flatMap_cons, List.length_append]
    exact Nat.dvd_add (h op (List.mem_cons_self ..))
      (ih fun op' hop' => h op' (List.mem_cons_of_mem _ hop'))

theorem Inside.finish {w : OtaPartitionWriter} {p : OtaPartition} (h : w.Inside p) :
    Ends w.finish p (fun w' p' => WholeWords p'.ops ∧ w'.trailing = []) True := by
  have hwaits := h.trailing
  unfold OtaPartitionWriter.finish
  split_ifs with hempty
  · exact Ends.pure ⟨h.words, hempty⟩
  · refine Ends.bind ends_write_inside ?_
    rintro _ _ ⟨rfl, _⟩
    have hword : 4 ∣ (FlashOp.write w.offset (padded w.trailing)).written.length := by
      rw [FlashOp.written, padded, List.length_append, List.length_replicate]
      omega
    exact Ends.pure ⟨h.words.did hword, rfl⟩

/-- What a writer was handed by `done`, and where it stands. -/
structure Handed (done : List (List UInt8)) (w : OtaPartitionWriter) (p : OtaPartition) : Prop where
  consistent : w.Consistent p []
  inside : w.Inside p
  handed : p.handed = done.flatten

theorem Handed.offset_length {done : List (List UInt8)} {w : OtaPartitionWriter} {p : OtaPartition}
    (h : Handed done w p) :
    4 ∣ w.offset ∧ w.offset + w.trailing.length = done.flatten.length := by
  have hlen := h.consistent.length_eq
  rw [h.handed] at hlen
  refine ⟨?_, by simpa using hlen⟩
  rw [h.consistent.offset]
  exact dvd_flashed_length h.inside.words

/-- The image was handed over and the flash holds it. -/
structure Stored (image : List UInt8) (w : OtaPartitionWriter) (p : OtaPartition) : Prop where
  total : w.totalBytes = image.length
  fits : image.length ≤ u32Max
  holds : p.Holds image
  words : WholeWords p.ops
  resting : w.trailing = []

theorem ends_writeImage (imageLen : Option ℕ) (chunks : List (List UInt8)) {p : OtaPartition}
    {F : Prop} (hcapacity : p.capacity ≤ u32Max)
    (hF : F ∨ p.Working (nextMultipleOf chunks.flatten.length 4)) :
    Ends (writeImage imageLen chunks) p (fun w p' => Stored chunks.flatten w p') F := by
  set n := nextMultipleOf chunks.flatten.length 4 with hn
  unfold nextMultipleOf at hn
  refine Ends.bind ((ends_new imageLen hF).and (ends_new_inside imageLen hcapacity)) ?_
  rintro w₁ p₁ ⟨⟨hw₁, hhanded₁, hworking₁⟩, hin₁⟩
  -- the chunks, one after the other
  have hloop : Ends (chunks.foldlM writeChunk w₁) p₁
      (fun w p' => Handed chunks w p' ∧ (p.Working n → p'.Working n)) F := by
    refine Ends.foldlM (I := fun done w p' => Handed done w p' ∧ (p.Working n → p'.Working n))
      ?_ chunks (List.nil_append chunks) ⟨⟨hw₁, hin₁, hhanded₁⟩, hworking₁⟩
    rintro done chunk later w p' hall ⟨hw, hworking⟩
    have hroom : p'.handed.length + chunk.length ≤ n := by
      have hlen : chunks.flatten.length =
          done.flatten.length + (chunk.length + later.flatten.length) := by
        rw [← hall, List.flatten_append, List.flatten_cons, List.length_append, List.length_append]
      rw [hw.handed]
      omega
    refine ((hw.consistent.writeChunk chunk (hF.imp_right hworking) hroom).and
      (hw.inside.writeChunk chunk)).mono ?_
    rintro w' p'' ⟨⟨hw', hhanded, hworking'⟩, hin'⟩
    refine ⟨⟨hw', hin', ?_⟩, fun h => hworking' (hworking h)⟩
    rw [hhanded, hw.handed]
    simp
  refine Ends.bind hloop ?_
  rintro w₂ p₂ ⟨hw₂, hworking₂⟩
  obtain ⟨hwords, hlen⟩ := hw₂.offset_length
  have hwaits := hw₂.inside.trailing
  have hlast : w₂.trailing = [] ∨ w₂.offset + 4 ≤ n := by
    rcases Nat.eq_zero_or_pos w₂.trailing.length with hzero | hpos
    · exact .inl (List.length_eq_zero_iff.1 hzero)
    · exact .inr (by omega)
  have hfits : chunks.flatten.length ≤ u32Max := by
    have hoffset := hw₂.inside.offset
    have hcapacity₂ := hw₂.inside.capacity
    unfold u32Max at hcapacity₂ ⊢
    omega
  refine ((hw₂.consistent.finish (hF.imp_right hworking₂) hlast).and hw₂.inside.finish).mono ?_
  rintro w₃ p₃ ⟨⟨htotal, hholds⟩, hwhole, hresting⟩
  rw [hw₂.handed] at htotal hholds
  exact ⟨htotal, hfits, hholds, hwhole, hresting⟩

end OtaPartitionWriter

/-! ## What is in the partition -/

open Writes

/-- An operation as a write to the memory of the partition. -/
def FlashOp.toWrite : FlashOp → Option (Write UInt8)
  | .erase _ => none
  | .write offset bytes => some ⟨offset, bytes⟩

/-- The writes among the operations. -/
def OtaPartition.writes (p : OtaPartition) : List (Write UInt8) := p.ops.filterMap FlashOp.toWrite

theorem consecutive_writes {o : ℕ} {ops : List FlashOp} (h : OtaPartition.SequentialFrom o ops) :
    Consecutive o (ops.filterMap FlashOp.toWrite) := by
  induction ops generalizing o with
  | nil => trivial
  | cons op ops ih =>
    cases op with
    | erase len => exact ih h
    | write at_ bytes => exact ⟨h.1, ih h.2⟩

theorem written_writes (p : OtaPartition) : written p.writes = p.flashed := by
  unfold OtaPartition.writes OtaPartition.flashed
  induction p.ops with
  | nil => rfl
  | cons op ops ih =>
    cases op with
    | erase len => exact ih
    | write at_ bytes => exact congrArg (bytes ++ ·) ih

theorem dvd_writes {p : OtaPartition} (h : OtaPartitionWriter.WholeWords p.ops) :
    ∀ w ∈ p.writes, 4 ∣ w.data.length := by
  intro w hw
  obtain ⟨op, hop, hwrite⟩ := List.mem_filterMap.1 hw
  cases op with
  | erase len => cases hwrite
  | write at_ bytes =>
    cases hwrite
    exact h _ hop

open OtaPartitionWriter (nextMultipleOf)

/-- Image and padding fill whole words, and all of the padding is erased bytes. -/
theorem OtaPartition.Holds.flashed_eq {p : OtaPartition} {image : List UInt8} (h : p.Holds image)
    (hwords : OtaPartitionWriter.WholeWords p.ops) :
    p.flashed = image ++ List.replicate (nextMultipleOf image.length 4 - image.length) 0xFF := by
  obtain ⟨padding, hflashed, hshort, herased⟩ := h.flashed
  have hdvd := OtaPartitionWriter.dvd_flashed_length hwords
  rw [hflashed, List.length_append] at hdvd
  have hcount : padding.length = nextMultipleOf image.length 4 - image.length := by
    unfold nextMultipleOf
    omega
  rw [hflashed, ← hcount, ← List.eq_replicate_of_mem herased]

/-- The words of a partition that holds an image and the writer that is done with it. -/
structure WritesImage (image : List UInt8) (m : U32.OtaPartitionWriter) (p : OtaPartition) :
    Prop where
  consecutive : Consecutive 0 p.writes
  aligned : ∀ w ∈ p.writes, 4 ∣ w.offset ∧ 4 ∣ w.data.length
  once : ∀ a, p.writes.countP (fun w => decide (w.Covers a)) =
    if a < nextMultipleOf image.length 4 then 1 else 0
  region : ∀ mem, (List.range (nextMultipleOf image.length 4)).map (p.writes.foldl store mem) =
    image ++ List.replicate (nextMultipleOf image.length 4 - image.length) 0xFF
  totalBytes : m.totalBytes = image.length
  again : m.finish p = .ok m p

theorem OtaPartitionWriter.Stored.writesImage {image : List UInt8} {w : OtaPartitionWriter}
    {p : OtaPartition} (h : Stored image w p) : WritesImage image (toU32 w) p := by
  have hconsecutive : Consecutive 0 p.writes := consecutive_writes h.holds.sequential
  have hwritten : written p.writes =
      image ++ List.replicate (nextMultipleOf image.length 4 - image.length) 0xFF := by
    rw [written_writes, h.holds.flashed_eq h.words]
  have hlength : (written p.writes).length = nextMultipleOf image.length 4 := by
    rw [hwritten, List.length_append, List.length_replicate]
    unfold nextMultipleOf
    omega
  refine ⟨hconsecutive, ?_, ?_, ?_, ?_, ?_⟩
  · intro w hw
    have hdata := dvd_writes h.words
    exact ⟨hconsecutive.dvd_offset (dvd_zero 4) hdata w hw, hdata w hw⟩
  · intro a
    rw [hconsecutive.countP_covers a, hlength, Nat.zero_add]
    simp only [Nat.zero_le, true_and]
  · intro mem
    have hread := map_store mem 0 (written p.writes)
    rw [hlength, ← List.range_eq_range'] at hread
    rw [hconsecutive.foldl_store mem, hread, hwritten]
  · have hfits := h.fits
    show min w.totalBytes u32Max = image.length
    rw [h.total]
    omega
  · have hzero : (toU32 w).trailingLen = 0 := by
      show w.trailing.length = 0
      rw [h.resting, List.length_nil]
    unfold U32.OtaPartitionWriter.finish
    rw [if_pos hzero]
    rfl

/-- However an image is cut into chunks: when all writes succeed, the partition holds it, and they
all succeed on flash that works and has room for its words. -/
theorem writesImage_writeImage {p : OtaPartition} (hcapacity : p.capacity ≤ u32Max) (imageLen : Option ℕ)
    (chunks : List (List UInt8)) :
    (∀ m p', U32.OtaPartitionWriter.writeImage imageLen chunks p = .ok m p' →
      WritesImage chunks.flatten m p') ∧
    (p.Working (nextMultipleOf chunks.flatten.length 4) →
      ∃ m p', U32.OtaPartitionWriter.writeImage imageLen chunks p = .ok m p') := by
  have hmirrors := OtaPartitionWriter.writeImage_toU32 imageLen chunks hcapacity
  constructor
  · intro m p' hrun
    have hends := hmirrors.ends
      (OtaPartitionWriter.ends_writeImage imageLen chunks hcapacity (.inl trivial))
    obtain ⟨w, rfl, hw⟩ := hends.of_ok hrun
    exact hw.writesImage
  · intro hworking
    have hends := hmirrors.ends
      (OtaPartitionWriter.ends_writeImage (F := False) imageLen chunks hcapacity (.inr hworking))
    obtain ⟨m, p', hrun, _⟩ := hends.exists_ok
    exact ⟨m, p', hrun⟩

theorem writesImage_writeImage_chunks :
    ∃ m p', U32.OtaPartitionWriter.writeImage (some 7) [[1], [], [2, 3, 4, 5, 6], [7]]
      { capacity := 4096 } = .ok m p' ∧ WritesImage [1, 2, 3, 4, 5, 6, 7] m p' := by
  have hcapacity : ({ capacity := 4096 } : OtaPartition).capacity ≤ u32Max := by decide
  have hsummary := writesImage_writeImage hcapacity (some 7) [[1], [], [2, 3, 4, 5, 6], [7]]
  obtain ⟨m, p', hrun⟩ := hsummary.2 ⟨rfl, by decide⟩
  exact ⟨m, p', hrun, hsummary.1 m p' hrun⟩

/-- Seven bytes are two words, the last of them filled up with an erased byte. -/
example : (match U32.OtaPartitionWriter.writeImage none [[1, 2], [3, 4, 5, 6, 7]]
      { capacity := 4096 } with
    | .ok _ p => p.writes
    | .error _ _ => []) = [⟨0, [1, 2, 3, 4]⟩, ⟨4, [5, 6, 7, 0xFF]⟩] := by decide

end EspWaveRider.Firmware
