import EspWaveRider.Lib.Fallible
import EspWaveRider.Lib.Text

/-!
# Writing an OTA partition

`OtaPartitionWriter` of `rust/firmware/esp32s3/src/main.rs`: it erases a
partition and writes what it is handed, four-byte words at a time.

* `Consistent` — what is in flash and what waits for a full word is what was
  handed over;
* `Consistent.writeChunk`, `Consistent.finish` — a writer that reports success
  has written what it was handed, in order, from the start of the partition, and
  on flash that works and has room it does not fail.
-/

namespace EspWaveRider.Firmware

open Text Fallible

inductive FlashOp where
  | erase (len : ℕ)
  | write (offset : ℕ) (bytes : List UInt8)
  deriving DecidableEq

/-- The bytes an operation writes. -/
@[simp] def FlashOp.written : FlashOp → List UInt8
  | .erase _ => []
  | .write _ bytes => bytes

/-- A flash partition: what its last writer did to it and was handed, and whether
the operations to come succeed (they do behind the end of the list). -/
structure OtaPartition where
  capacity : ℕ
  outcomes : List Bool := []
  ops : List FlashOp := []
  handed : List UInt8 := []
  deriving DecidableEq

/-- A fallible operation on a partition; what it did stays when it fails. -/
abbrev OtaM := EStateM Str OtaPartition

instance decidableEqOtaResult {α : Type} [DecidableEq α] :
    DecidableEq (EStateM.Result Str OtaPartition α)
  | .ok a p, .ok b q => decidable_of_iff (a = b ∧ p = q) (by simp)
  | .error e p, .error f q => decidable_of_iff (e = f ∧ p = q) (by simp)
  | .ok _ _, .error _ _ => isFalse nofun
  | .error _ _, .ok _ _ => isFalse nofun

def OtaM.fail {α : Type} (error : Str) : OtaM α := throw error

def flashEraseSize : ℕ := 4096

namespace OtaPartition

/-- One flash operation. -/
def perform (op : FlashOp) (inRange : Bool) (error : Str) : OtaM Unit := fun p =>
  let p' := { p with outcomes := p.outcomes.tail, ops := p.ops ++ [op] }
  if inRange && p.outcomes.headD true then .ok () p' else .error error p'

def erase (len : ℕ) : OtaM Unit := perform (.erase len) true "ota_partition_erase_failed"

def write (offset : ℕ) (bytes : List UInt8) : OtaM Unit := fun p =>
  perform (.write offset bytes) (offset + bytes.length ≤ p.capacity) "ota_partition_write_failed" p

/-- The bytes written. -/
def flashed (p : OtaPartition) : List UInt8 := p.ops.flatMap FlashOp.written

end OtaPartition

/-- `trailing` is the part of the source's four-byte array that is filled. -/
structure OtaPartitionWriter where
  offset : ℕ := 0
  trailing : List UInt8 := []
  totalBytes : ℕ := 0
  deriving DecidableEq

namespace OtaPartitionWriter

def nextMultipleOf (n k : ℕ) : ℕ := (n + (k - 1)) / k * k

def new (imageLen : Option ℕ) : OtaM OtaPartitionWriter := do
  let capacity := (← get).capacity
  let eraseLen := match imageLen with
    | some len => min (nextMultipleOf (min len capacity) flashEraseSize) capacity
    | none => capacity
  modify fun p => { p with ops := [], handed := [] }
  OtaPartition.erase eraseLen
  return {}

/-- Fill up the word that waits, and write it when it is full. -/
def fillTrailing (w : OtaPartitionWriter) (chunk : List UInt8) :
    OtaM (OtaPartitionWriter × List UInt8) :=
  if w.trailing = [] then return (w, chunk)
  else
    let fill := min (4 - w.trailing.length) chunk.length
    let trailing := w.trailing ++ chunk.take fill
    if trailing.length = 4 then do
      OtaPartition.write w.offset trailing
      return ({ w with offset := w.offset + 4, trailing := [] }, chunk.drop fill)
    else return ({ w with trailing }, chunk.drop fill)

/-- Write the whole words and keep the rest. -/
def writeAligned (w : OtaPartitionWriter) (chunk : List UInt8) : OtaM OtaPartitionWriter := do
  let alignedLen := chunk.length - chunk.length % 4
  let rest := chunk.drop alignedLen
  let trailing := if rest = [] then w.trailing else rest
  if alignedLen > 0 then
    OtaPartition.write w.offset (chunk.take alignedLen)
    return { w with offset := w.offset + alignedLen, trailing }
  else return { w with trailing }

def writeChunk (w : OtaPartitionWriter) (chunk : List UInt8) : OtaM OtaPartitionWriter := do
  modify fun p => { p with handed := p.handed ++ chunk }
  let (w, chunk) ← fillTrailing { w with totalBytes := w.totalBytes + chunk.length } chunk
  w.writeAligned chunk

/-- The last word is filled up with erased bytes. -/
def padded (trailing : List UInt8) : List UInt8 :=
  trailing ++ List.replicate (4 - trailing.length) 0xFF

def finish (w : OtaPartitionWriter) : OtaM OtaPartitionWriter :=
  if w.trailing = [] then return w
  else do
    OtaPartition.write w.offset (padded w.trailing)
    return { w with offset := w.offset + 4, trailing := [] }

end OtaPartitionWriter

/-! ## The flash holds what was handed over -/

namespace OtaPartition

/-- Writes follow each other without gap or overlap, from `offset` on. -/
def SequentialFrom (offset : ℕ) : List FlashOp → Prop
  | [] => True
  | .erase _ :: ops => SequentialFrom offset ops
  | .write at_ bytes :: ops => at_ = offset ∧ SequentialFrom (offset + bytes.length) ops

/-- The partition after one more operation. -/
def did (p : OtaPartition) (op : FlashOp) : OtaPartition :=
  { p with outcomes := p.outcomes.tail, ops := p.ops ++ [op] }

@[simp] theorem flashed_did_write (p : OtaPartition) (offset : ℕ) (bytes : List UInt8) :
    (p.did (.write offset bytes)).flashed = p.flashed ++ bytes := by
  simp [flashed, did]

theorem sequentialFrom_append_write {offset at_ : ℕ} {bytes : List UInt8} {ops : List FlashOp}
    (h : SequentialFrom offset ops)
    (hat : at_ = offset + (ops.flatMap FlashOp.written).length) :
    SequentialFrom offset (ops ++ [.write at_ bytes]) := by
  induction ops generalizing offset with
  | nil => exact ⟨by simpa using hat, trivial⟩
  | cons op ops ih =>
    cases op with
    | erase len => exact ih h (by simpa using hat)
    | write at' bytes' =>
      refine ⟨h.1, ih h.2 ?_⟩
      rw [hat, List.flatMap_cons, List.length_append, Nat.add_assoc]
      rfl

theorem SequentialFrom.did_write {p : OtaPartition} (h : SequentialFrom 0 p.ops) {at_ : ℕ}
    (bytes : List UInt8) (hat : at_ = p.flashed.length) :
    SequentialFrom 0 (p.did (.write at_ bytes)).ops :=
  sequentialFrom_append_write h (by rw [hat, Nat.zero_add]; rfl)

/-- The writer was handed `image`, and the flash holds it from its start on, filled
up to a whole word with erased bytes. -/
structure Holds (p : OtaPartition) (image : List UInt8) : Prop where
  handed : p.handed = image
  sequential : SequentialFrom 0 p.ops
  flashed : ∃ padding, p.flashed = image ++ padding ∧ padding.length < 4 ∧
    ∀ byte ∈ padding, byte = 0xFF

/-- Everything to come succeeds as long as no more than `n` bytes are written. -/
structure Working (p : OtaPartition) (n : ℕ) : Prop where
  outcomes : p.outcomes = []
  room : n ≤ p.capacity

theorem Working.did {p : OtaPartition} {n : ℕ} (h : p.Working n) (op : FlashOp) :
    (p.did op).Working n := by
  refine ⟨?_, h.room⟩
  show p.outcomes.tail = []
  rw [h.outcomes]
  rfl

variable {F : Prop}

/-- A write succeeds on working flash when it stays inside the partition. -/
theorem ends_write {p : OtaPartition} {offset n : ℕ} {bytes : List UInt8}
    (hF : F ∨ p.Working n) (hn : offset + bytes.length ≤ n) :
    Ends (OtaPartition.write offset bytes) p (fun _ p' => p' = p.did (.write offset bytes)) F := by
  unfold Ends OtaPartition.write perform
  dsimp only
  split_ifs with hok
  · rfl
  · refine hF.resolve_right fun hworking => hok ?_
    have hroom := hworking.room
    simp only [hworking.outcomes, List.headD_nil, Bool.and_true, decide_eq_true_eq]
    omega

theorem ends_erase {p : OtaPartition} {len n : ℕ} (hF : F ∨ p.Working n) :
    Ends (OtaPartition.erase len) p (fun _ p' => p' = p.did (.erase len)) F := by
  unfold Ends OtaPartition.erase perform
  dsimp only
  split_ifs with hok
  · rfl
  · refine hF.resolve_right fun hworking => hok ?_
    simp [hworking.outcomes]

end OtaPartition

namespace OtaPartitionWriter

open OtaPartition

/-- The bytes in flash, those of the word that waits and `rest`, which is still to
be written, are the bytes handed over. -/
structure Consistent (w : OtaPartitionWriter) (p : OtaPartition) (rest : List UInt8) : Prop where
  flashed : p.flashed ++ (w.trailing ++ rest) = p.handed
  offset : w.offset = p.flashed.length
  trailing : w.trailing.length < 4
  total : w.totalBytes = p.handed.length
  sequential : SequentialFrom 0 p.ops

theorem Consistent.length_eq {w : OtaPartitionWriter} {p : OtaPartition} {rest : List UInt8}
    (h : w.Consistent p rest) : w.offset + (w.trailing.length + rest.length) = p.handed.length := by
  rw [h.offset, ← h.flashed, List.length_append, List.length_append]

/-- Where one more word fits, the last one does. -/
theorem Consistent.room {w : OtaPartitionWriter} {p : OtaPartition} {rest : List UInt8} {n : ℕ}
    (h : w.Consistent p rest) (hn : p.handed.length + 4 ≤ n) :
    w.trailing = [] ∨ w.offset + 4 ≤ n := by
  have hlen := h.length_eq
  exact .inr (by omega)

/-- Writing the word that waits, or bytes that follow it when none waits. -/
theorem Consistent.did_write {w : OtaPartitionWriter} {p : OtaPartition} {rest : List UInt8}
    (h : w.Consistent p rest) {bytes trailing rest' : List UInt8}
    (hbytes : w.trailing ++ rest = bytes ++ (trailing ++ rest')) (htrailing : trailing.length < 4) :
    Consistent { w with offset := w.offset + bytes.length, trailing }
      (p.did (.write w.offset bytes)) rest' := by
  refine ⟨?_, ?_, htrailing, h.total, h.sequential.did_write bytes h.offset⟩
  · rw [flashed_did_write, List.append_assoc, ← hbytes]
    exact h.flashed
  · rw [flashed_did_write, List.length_append, h.offset]

variable {F : Prop}

theorem ends_new (imageLen : Option ℕ) {p : OtaPartition} {n : ℕ} (hF : F ∨ p.Working n) :
    Ends (new imageLen) p
      (fun w p' => w.Consistent p' [] ∧ p'.handed = [] ∧ (p.Working n → p'.Working n)) F := by
  refine Ends.bind (Q := fun p₁ p' => p₁ = p ∧ p' = p) ⟨rfl, rfl⟩ ?_
  rintro _ p ⟨_, rfl⟩
  refine Ends.bind (Ends.modified (P := fun _ p₂ => p₂ = { p with ops := [], handed := [] }) rfl) ?_
  rintro _ _ rfl
  refine Ends.bind (ends_erase (hF.imp_right fun h => ⟨h.outcomes, h.room⟩)) ?_
  rintro _ _ rfl
  refine Ends.pure ⟨⟨rfl, rfl, by decide, rfl, trivial⟩, rfl, fun h => ?_⟩
  have hfresh : OtaPartition.Working { p with ops := [], handed := [] } n := ⟨h.outcomes, h.room⟩
  exact hfresh.did _

theorem Consistent.fillTrailing {w : OtaPartitionWriter} {p : OtaPartition} {n : ℕ}
    {chunk : List UInt8} (h : w.Consistent p chunk) (hF : F ∨ p.Working n)
    (hn : p.handed.length ≤ n) :
    Ends (w.fillTrailing chunk) p
      (fun r p' => r.1.Consistent p' r.2 ∧ (r.1.trailing = [] ∨ r.2 = []) ∧
        p'.handed = p.handed ∧ (p.Working n → p'.Working n)) F := by
  unfold OtaPartitionWriter.fillTrailing
  have hlen := h.length_eq
  split_ifs with hempty
  · exact Ends.pure ⟨h, .inl hempty, rfl, id⟩
  · dsimp only
    set fill := min (4 - w.trailing.length) chunk.length with hfill
    have hcut : w.trailing ++ chunk = (w.trailing ++ chunk.take fill) ++ chunk.drop fill := by
      rw [List.append_assoc, List.take_append_drop]
    have hwaits := h.trailing
    have htake : (chunk.take fill).length = fill := by
      rw [List.length_take]
      omega
    split_ifs with hfull
    · -- the word is full
      refine Ends.bind (ends_write hF ?_) ?_
      · rw [hfull]
        rw [List.length_append, htake] at hfull
        omega
      · rintro _ _ rfl
        refine Ends.pure ⟨?_, .inl rfl, rfl, fun h => h.did _⟩
        have hword : w.trailing ++ chunk =
            (w.trailing ++ chunk.take fill) ++ ([] ++ chunk.drop fill) := hcut
        have hdid := h.did_write hword (by decide)
        rwa [hfull] at hdid
    · -- the chunk is used up
      rw [List.length_append, htake] at hfull
      have hall : chunk.drop fill = [] := List.drop_eq_nil_of_le (by omega)
      refine Ends.pure ⟨⟨?_, h.offset, ?_, h.total, h.sequential⟩, .inr hall, rfl, id⟩
      · show p.flashed ++ ((w.trailing ++ chunk.take fill) ++ chunk.drop fill) = p.handed
        rw [← hcut]
        exact h.flashed
      · show (w.trailing ++ chunk.take fill).length < 4
        rw [List.length_append, htake]
        omega

theorem Consistent.writeAligned {w : OtaPartitionWriter} {p : OtaPartition} {n : ℕ}
    {chunk : List UInt8} (h : w.Consistent p chunk) (hone : w.trailing = [] ∨ chunk = [])
    (hF : F ∨ p.Working n) (hn : p.handed.length ≤ n) :
    Ends (w.writeAligned chunk) p
      (fun w' p' => w'.Consistent p' [] ∧ p'.handed = p.handed ∧ (p.Working n → p'.Working n))
      F := by
  unfold OtaPartitionWriter.writeAligned
  dsimp only
  set alignedLen := chunk.length - chunk.length % 4 with haligned
  have hlen := h.length_eq
  have hmod := Nat.mod_lt chunk.length (Nat.succ_pos 3)
  have hmodle := Nat.mod_le chunk.length 4
  by_cases hsome : alignedLen > 0
  · rw [if_pos hsome]
    have hchunk : chunk ≠ [] := by
      rintro rfl
      simp at haligned
      omega
    have hnone : w.trailing = [] := hone.resolve_right hchunk
    have htake : (chunk.take alignedLen).length = alignedLen := by
      rw [List.length_take]
      omega
    refine Ends.bind (ends_write hF (by omega)) ?_
    rintro _ _ rfl
    refine Ends.pure ⟨?_, rfl, fun h => h.did _⟩
    have hrest : (if chunk.drop alignedLen = [] then w.trailing else chunk.drop alignedLen) =
        chunk.drop alignedLen := by
      rw [hnone]
      split
      · rename_i hnil
        exact hnil.symm
      · rfl
    rw [hrest]
    have hcut : w.trailing ++ chunk =
        chunk.take alignedLen ++ (chunk.drop alignedLen ++ []) := by
      rw [hnone, List.append_nil, List.take_append_drop]
      rfl
    have hdid := h.did_write hcut (by rw [List.length_drop]; omega)
    rwa [htake] at hdid
  · -- less than a word
    rw [if_neg hsome]
    have hshort : chunk.length < 4 := by omega
    have hzero : alignedLen = 0 := by omega
    rw [hzero, List.drop_zero]
    refine Ends.pure ⟨⟨?_, h.offset, ?_, h.total, h.sequential⟩, rfl, id⟩
    · have hflashed := h.flashed
      show p.flashed ++ ((if chunk = [] then w.trailing else chunk) ++ []) = p.handed
      by_cases hnil : chunk = []
      · rwa [if_pos hnil, ← hnil]
      · rw [hone.resolve_right hnil] at hflashed
        rw [if_neg hnil, List.append_nil]
        exact hflashed
    · show (if chunk = [] then w.trailing else chunk).length < 4
      split
      · exact h.trailing
      · exact hshort

/-- Handing over a chunk keeps the writer consistent. -/
theorem Consistent.writeChunk {w : OtaPartitionWriter} {p : OtaPartition} {n : ℕ}
    (h : w.Consistent p []) (chunk : List UInt8) (hF : F ∨ p.Working n)
    (hn : p.handed.length + chunk.length ≤ n) :
    Ends (w.writeChunk chunk) p
      (fun w' p' => w'.Consistent p' [] ∧ p'.handed = p.handed ++ chunk ∧
        (p.Working n → p'.Working n)) F := by
  have hlen : (p.handed ++ chunk).length ≤ n := by
    rw [List.length_append]
    exact hn
  unfold OtaPartitionWriter.writeChunk
  refine Ends.bind
    (Ends.modified (P := fun _ p₁ => p₁ = { p with handed := p.handed ++ chunk }) rfl) ?_
  rintro _ _ rfl
  have hnoted : Consistent { w with totalBytes := w.totalBytes + chunk.length }
      { p with handed := p.handed ++ chunk } chunk := by
    refine ⟨?_, h.offset, h.trailing, ?_, h.sequential⟩
    · show p.flashed ++ (w.trailing ++ chunk) = p.handed ++ chunk
      rw [← h.flashed, List.append_nil, List.append_assoc]
    · show w.totalBytes + chunk.length = (p.handed ++ chunk).length
      rw [h.total, List.length_append]
  have hF' : F ∨ OtaPartition.Working { p with handed := p.handed ++ chunk } n :=
    hF.imp_right fun hw => ⟨hw.outcomes, hw.room⟩
  refine Ends.bind (hnoted.fillTrailing hF' hlen) ?_
  rintro ⟨w₁, rest⟩ p₁ ⟨hw₁, hone, hhanded, hworking⟩
  have hF₁ : F ∨ p₁.Working n := hF'.imp_right hworking
  refine (hw₁.writeAligned hone hF₁ (by rw [hhanded]; exact hlen)).mono ?_
  rintro w₂ p₂ ⟨hw₂, hhanded₂, hworking₂⟩
  exact ⟨hw₂, hhanded₂.trans hhanded, fun hw => hworking₂ (hworking ⟨hw.outcomes, hw.room⟩)⟩

/-- After the last word the flash holds what was handed over. -/
theorem Consistent.finish {w : OtaPartitionWriter} {p : OtaPartition} {n : ℕ}
    (h : w.Consistent p []) (hF : F ∨ p.Working n) (hn : w.trailing = [] ∨ w.offset + 4 ≤ n) :
    Ends w.finish p
      (fun w' p' => w'.totalBytes = p.handed.length ∧ p'.Holds p.handed) F := by
  have hwaits := h.trailing
  have hflashed := h.flashed
  unfold OtaPartitionWriter.finish
  split_ifs with hempty
  · rw [hempty, List.append_nil, List.append_nil] at hflashed
    refine Ends.pure ⟨h.total, rfl, h.sequential, [], ?_, by decide, by simp⟩
    rw [List.append_nil]
    exact hflashed
  · have hpadded : (padded w.trailing).length = 4 := by
      rw [padded, List.length_append, List.length_replicate]
      omega
    have hroom := hn.resolve_left hempty
    refine Ends.bind (ends_write hF (by rw [hpadded]; exact hroom)) ?_
    rintro _ _ rfl
    refine Ends.pure ⟨h.total, rfl, h.sequential.did_write _ h.offset,
      List.replicate (4 - w.trailing.length) 0xFF, ?_, ?_, ?_⟩
    · rw [flashed_did_write, padded, ← List.append_assoc, ← hflashed, List.append_nil]
    · rw [List.length_replicate]
      have hpos := List.length_pos_iff.2 hempty
      omega
    · exact fun byte hbyte => List.eq_of_mem_replicate hbyte

end OtaPartitionWriter

end EspWaveRider.Firmware
