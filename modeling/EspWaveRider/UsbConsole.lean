import EspWaveRider.Cpp.Text
import EspWaveRider.Lib.Bounded
import EspWaveRider.Lib.LineBuffer

/-!
# The USB console

How the port (`main` and `process_command_buffer` of `rust/firmware/esp32s3/src/main.rs`) and the
C++ firmware (`readUsbCommands` of `src/main.cpp`) collect the bytes of a command, and what they
execute when the buffer does not hold the line.

* `Console`, `UsbConsole` — the two consoles;
* `Console.executed_run`, `UsbConsole.executed_readCalls` — every line is handled by itself;
* `onlyCompleteLines` — when what is executed is a whole line.
-/

namespace EspWaveRider.Firmware

open Text LineBuffer

/-- The console of the port, with the commands that were executed. -/
structure Console where
  commandBuffer : HVec UInt8 256 := .empty
  executed : List Str := []

def isAsciiControl (byte : UInt8) : Bool := byte < 0x20 || byte = 0x7F

namespace Console

/-- What is executed of a buffer: nothing if it is empty, and nothing if it is not UTF-8. -/
def command (commandBuffer : HVec UInt8 256) : Option Str :=
  if commandBuffer.items = [] then none else (fromUtf8 commandBuffer.items).map trim

def processCommandBuffer (s : Console) : Console :=
  if s.commandBuffer.items = [] then s
  else { commandBuffer := .empty, executed := s.executed ++ (command s.commandBuffer).toList }

/-- What a byte other than the line feed does. -/
def editBuffer (commandBuffer : HVec UInt8 256) (byte : UInt8) : HVec UInt8 256 :=
  if byte = 0x0D then commandBuffer
  else if byte = 0x08 ∨ byte = 0x7F then commandBuffer.dropLast
  else if !isAsciiControl byte then (commandBuffer.push byte).getD commandBuffer
  else commandBuffer

/-- One pass of the main loop that reads a byte. -/
def readByte (s : Console) (byte : UInt8) : Console :=
  if byte = 0x0A then s.processCommandBuffer
  else { s with commandBuffer := editBuffer s.commandBuffer byte }

def run (stream : List UInt8) : Console := stream.foldl readByte {}

/-- What is executed of a line. -/
def lineCommand (line : List UInt8) : Option Str := command (line.foldl editBuffer .empty)

theorem reads : Reads 0x0A .empty editBuffer command readByte commandBuffer executed where
  buffer_newline s := by
    rw [readByte, if_pos rfl, processCommandBuffer]
    split
    case isTrue hempty => exact Bounded.ext hempty
    case isFalse => rfl
  out_newline s := by
    rw [readByte, if_pos rfl, processCommandBuffer]
    split
    case isTrue hempty => rw [command, if_pos hempty, Option.toList_none, List.append_nil]
    case isFalse => rfl
  buffer_step s byte hne := by rw [readByte, if_neg hne]
  out_step s byte hne := by rw [readByte, if_neg hne]

/-- Every line is handled by itself. -/
theorem executed_run (stream : List UInt8) :
    (run stream).executed = (endedLines 0x0A stream).filterMap lineCommand :=
  (reads.run stream (s := {}) rfl).trans (List.nil_append _)

/-! ## Editing a line -/

/-- Editing without a limit: backspace and delete take the last byte away, other control bytes are
ignored. -/
def editContent (content : List UInt8) (byte : UInt8) : List UInt8 :=
  if byte = 0x0D then content
  else if byte = 0x08 ∨ byte = 0x7F then content.dropLast
  else if !isAsciiControl byte then content ++ [byte]
  else content

/-- The content of a line after editing. -/
def editedLine (line : List UInt8) : List UInt8 := line.foldl editContent []

theorem editedLine_append (line : List UInt8) (byte : UInt8) :
    editedLine (line ++ [byte]) = editContent (editedLine line) byte := by
  rw [editedLine, List.foldl_append]
  rfl

/-- The content never outgrows the buffer while the line comes in. -/
def NeverFull (line : List UInt8) : Prop := ∀ part, part <+: line → (editedLine part).length ≤ 256

theorem NeverFull.of_append {line : List UInt8} {byte : UInt8} (h : NeverFull (line ++ [byte])) :
    NeverFull line := fun part hpart => h part (hpart.trans (List.prefix_append line [byte]))

/-- One byte, with room for it. -/
theorem items_editBuffer {commandBuffer : HVec UInt8 256} {byte : UInt8}
    (h : (editContent commandBuffer.items byte).length ≤ 256) :
    (editBuffer commandBuffer byte).items = editContent commandBuffer.items byte := by
  rw [editContent] at h ⊢
  rw [editBuffer]
  split_ifs at h ⊢
  · rfl
  · rfl
  · exact Bounded.items_push_getD (by rw [List.length_append] at h; exact h)
  · rfl

/-- A line that never fills the buffer is what the buffer holds. -/
theorem NeverFull.items_foldl {line : List UInt8} (h : NeverFull line) :
    (line.foldl editBuffer .empty).items = editedLine line := by
  induction line using List.reverseRecOn with
  | nil => rfl
  | append_singleton line byte ih =>
    have hlength := h _ (List.prefix_refl _)
    rw [editedLine_append] at hlength ⊢
    rw [List.foldl_append, List.foldl_cons, List.foldl_nil]
    have hline := ih h.of_append
    rw [← hline] at hlength ⊢
    exact items_editBuffer hlength

/-- A line is executed as a whole or not at all. -/
def ExecutesWhole (line : List UInt8) : Prop := ∀ command ∈ lineCommand line,
  (editedLine line).length ≤ 256 ∧ ∃ text, fromUtf8 (editedLine line) = some text ∧ command = trim text

theorem executesWhole_of_items {line : List UInt8} (hlength : (editedLine line).length ≤ 256)
    (h : (line.foldl editBuffer .empty).items = editedLine line) : ExecutesWhole line := by
  intro text htext
  rw [lineCommand, command, h, Option.mem_def] at htext
  split at htext
  · cases htext
  · obtain ⟨decoded, hdecoded, rfl⟩ := Option.map_eq_some_iff.1 htext
    exact ⟨hlength, decoded, hdecoded, rfl⟩

theorem executesWhole_of_neverFull {line : List UInt8} (h : NeverFull line) : ExecutesWhole line :=
  executesWhole_of_items (h line (List.prefix_refl line)) h.items_foldl

/-! ## Lines without backspaces -/

/-- There is neither a backspace nor a delete in the line. -/
def Unedited (line : List UInt8) : Prop := 0x08 ∉ line ∧ 0x7F ∉ line

theorem Unedited.of_append {line : List UInt8} {byte : UInt8} (h : Unedited (line ++ [byte])) :
    Unedited line ∧ ¬ (byte = 0x08 ∨ byte = 0x7F) := by
  simp only [Unedited, List.mem_append, List.mem_singleton, not_or] at h ⊢
  exact ⟨⟨h.1.1, h.2.1⟩, Ne.symm h.1.2, Ne.symm h.2.2⟩

/-- Without backspaces the buffer keeps the first bytes of the content. -/
theorem Unedited.items_foldl {line : List UInt8} (h : Unedited line) :
    (line.foldl editBuffer .empty).items = (editedLine line).take 256 := by
  induction line using List.reverseRecOn with
  | nil => rfl
  | append_singleton line byte ih =>
    obtain ⟨hline, hbyte⟩ := h.of_append
    have hbuffer := ih hline
    rw [List.foldl_append, List.foldl_cons, List.foldl_nil, editedLine_append, editBuffer, editContent,
      if_neg hbyte, if_neg hbyte]
    have hlength := congrArg List.length hbuffer
    rw [List.length_take] at hlength
    split_ifs
    · exact hbuffer
    · by_cases hroom : (line.foldl editBuffer .empty).items.length < 256
      · have hshort : (editedLine line).length < 256 := by omega
        have hone : (editedLine line ++ [byte]).length ≤ 256 := by
          rw [List.length_append]
          exact hshort
        rw [Bounded.items_push_getD hroom, hbuffer, List.take_of_length_le hshort.le,
          List.take_of_length_le hone]
      · rw [Bounded.push_getD_of_full (not_lt.1 hroom), hbuffer,
          List.take_append_of_le_length (by omega)]
    · exact hbuffer

/-- Without backspaces, a line that is too long is executed in part unless that part is not
UTF-8. -/
theorem Unedited.executesWhole_iff {line : List UInt8} (h : Unedited line) :
    ExecutesWhole line ↔ (editedLine line).length ≤ 256 ∨
      fromUtf8 ((editedLine line).take 256) = none := by
  have hitems := h.items_foldl
  constructor
  · intro hwhole
    by_contra hnot
    push Not at hnot
    obtain ⟨hlong, htext⟩ := hnot
    obtain ⟨text, htext⟩ := Option.ne_none_iff_exists'.1 htext
    have hne : (editedLine line).take 256 ≠ [] := by
      intro hnil
      have hlength := congrArg List.length hnil
      rw [List.length_take, List.length_nil] at hlength
      omega
    have hcommand : lineCommand line = some (trim text) := by
      rw [lineCommand, command, hitems, if_neg hne, htext]
      rfl
    exact absurd (hwhole _ hcommand).1 (not_le.2 hlong)
  · rintro (hshort | hnone)
    · exact executesWhole_of_items hshort (hitems.trans (List.take_of_length_le hshort))
    · intro text htext
      rw [lineCommand, command, hitems, hnone, Option.map_none, ite_self] at htext
      cases htext

end Console

end EspWaveRider.Firmware

namespace EspWaveRider.Cpp

open Text LineBuffer

/-- The console of the C++ firmware, with the commands that were executed. -/
structure UsbConsole where
  usbCommandBuffer : Str := []
  executed : List Str := []

namespace UsbConsole

/-- A byte in a `String`. -/
def asChar (byte : UInt8) : Char := Char.ofNat byte.toNat

/-- What is executed of a buffer. -/
def command (usbCommandBuffer : Str) : Option Str :=
  if (trim usbCommandBuffer).length > 0 then some (trim usbCommandBuffer) else none

/-- What a character other than the line feed does. -/
def editBuffer (usbCommandBuffer : Str) (c : UInt8) : Str :=
  if c = 0x0D then usbCommandBuffer
  else if usbCommandBuffer.length < 256 then usbCommandBuffer ++ [asChar c]
  else []

/-- One pass of the loop. -/
def readByte (s : UsbConsole) (c : UInt8) : UsbConsole :=
  if c = 0x0A then
    { usbCommandBuffer := [], executed := s.executed ++ (command s.usbCommandBuffer).toList }
  else { s with usbCommandBuffer := editBuffer s.usbCommandBuffer c }

/-- The loop ends after a line or when nothing is available; what remains is read by the next
call. -/
def readUsbCommands (s : UsbConsole) : List UInt8 → UsbConsole × List UInt8
  | [] => (s, [])
  | c :: available =>
    if c = 0x0A then (s.readByte c, available) else (s.readByte c).readUsbCommands available

/-- Calls, each with the bytes that have come since the one before. -/
def readCalls (s : UsbConsole) (waiting : List UInt8) : List (List UInt8) → UsbConsole × List UInt8
  | [] => (s, waiting)
  | arrived :: arrivals =>
    let (s', waiting') := s.readUsbCommands (waiting ++ arrived)
    s'.readCalls waiting' arrivals

/-- What is executed of a line. -/
def lineCommand (line : List UInt8) : Option Str := command (line.foldl editBuffer [])

theorem reads : Reads 0x0A [] editBuffer command readByte usbCommandBuffer executed where
  buffer_newline s := by rw [readByte, if_pos rfl]
  out_newline s := by rw [readByte, if_pos rfl]
  buffer_step s c hne := by rw [readByte, if_neg hne]
  out_step s c hne := by rw [readByte, if_neg hne]

theorem readUsbCommands_spec (available : List UInt8) (s : UsbConsole) : ∃ consumed,
    consumed ++ (s.readUsbCommands available).2 = available ∧
      (s.readUsbCommands available).1 = consumed.foldl readByte s := by
  induction available generalizing s with
  | nil => exact ⟨[], rfl, rfl⟩
  | cons c available ih =>
    rw [readUsbCommands]
    split
    · exact ⟨[c], rfl, rfl⟩
    · obtain ⟨consumed, happend, hfold⟩ := ih (s.readByte c)
      exact ⟨c :: consumed, by rw [List.cons_append, happend], hfold⟩

/-- The calls read what has come, in order, but for what waits. -/
theorem readCalls_spec (arrivals : List (List UInt8)) (s : UsbConsole) (waiting : List UInt8) :
    ∃ consumed, consumed ++ (s.readCalls waiting arrivals).2 = waiting ++ arrivals.flatten ∧
      (s.readCalls waiting arrivals).1 = consumed.foldl readByte s := by
  induction arrivals generalizing s waiting with
  | nil => exact ⟨[], by simp [readCalls], rfl⟩
  | cons arrived arrivals ih =>
    obtain ⟨first, hfirst, hfold⟩ := readUsbCommands_spec (waiting ++ arrived) s
    obtain ⟨later, hlater, hrest⟩ := ih (s.readUsbCommands (waiting ++ arrived)).1
      (s.readUsbCommands (waiting ++ arrived)).2
    refine ⟨first ++ later, ?_, ?_⟩
    · rw [readCalls, List.append_assoc, hlater, ← List.append_assoc, hfirst, List.flatten_cons,
        List.append_assoc]
    · rw [readCalls, hrest, hfold, List.foldl_append]

/-! ## Lines -/

/-- The content of a line, without carriage returns. -/
def content (line : List UInt8) : Str := (line.filter (· ≠ 0x0D)).map asChar

/-- What is left after the buffer was cleared at every 257th character. -/
def lastPart (content : Str) : Str := content.drop (257 * (content.length / 257))

theorem lastPart_append (s : Str) (c : Char) :
    lastPart (s ++ [c]) = if (lastPart s).length < 256 then lastPart s ++ [c] else [] := by
  rw [lastPart, lastPart, List.length_drop, List.length_append, List.length_singleton]
  split
  · have hquotient : (s.length + 1) / 257 = s.length / 257 := by omega
    rw [hquotient, List.drop_append_of_le_length (Nat.mul_div_le _ _)]
  · exact List.drop_eq_nil_of_le (by rw [List.length_append, List.length_singleton]; omega)

theorem foldl_editBuffer (line : List UInt8) : line.foldl editBuffer [] = lastPart (content line) := by
  induction line using List.reverseRecOn with
  | nil => rfl
  | append_singleton line c ih =>
    rw [List.foldl_append, List.foldl_cons, List.foldl_nil, ih, editBuffer]
    by_cases hreturn : c = 0x0D
    · simp [content, hreturn]
    · have hcontent : content (line ++ [c]) = content line ++ [asChar c] := by
        simp [content, hreturn]
      rw [if_neg hreturn, hcontent, lastPart_append]

/-- A line is executed as a whole or not at all. -/
def ExecutesWhole (line : List UInt8) : Prop := ∀ command ∈ lineCommand line,
  (content line).length ≤ 256 ∧ command = trim (content line)

/-- Unless what the overflow leaves is blank, a line that is too long is executed in part. -/
theorem executesWhole_iff (line : List UInt8) : ExecutesWhole line ↔
    (content line).length ≤ 256 ∨ trim (lastPart (content line)) = [] := by
  rw [ExecutesWhole, lineCommand, foldl_editBuffer, command]
  constructor
  · intro hwhole
    by_contra hnot
    push Not at hnot
    rw [if_pos (List.length_pos_iff.2 hnot.2)] at hwhole
    exact absurd (hwhole _ rfl).1 (not_le.2 hnot.1)
  · rintro (hshort | hblank) text htext
    · have hquotient : (content line).length / 257 = 0 := Nat.div_eq_of_lt (Nat.lt_succ_of_le hshort)
      have hall : lastPart (content line) = content line := by
        rw [lastPart, hquotient, Nat.mul_zero, List.drop_zero]
      rw [hall, Option.mem_def] at htext
      split at htext
      · exact ⟨hshort, (Option.some.inj htext).symm⟩
      · cases htext
    · rw [hblank] at htext
      cases htext

/-- Every line that was read is handled by itself. -/
theorem executed_readCalls (arrivals : List (List UInt8)) :
    ∃ consumed, consumed ++ (readCalls {} [] arrivals).2 = arrivals.flatten ∧
      (readCalls {} [] arrivals).1.executed = (endedLines 0x0A consumed).filterMap lineCommand := by
  obtain ⟨consumed, hconsumed, hfold⟩ := readCalls_spec arrivals {} []
  refine ⟨consumed, hconsumed, ?_⟩
  rw [hfold]
  exact (reads.run consumed (s := {}) rfl).trans (List.nil_append _)

end UsbConsole

end EspWaveRider.Cpp

namespace EspWaveRider

open LineBuffer Firmware Cpp

/-- What the consoles execute comes from the ended lines, one by one.  In the port, a line that
never fills the buffer is executed as a whole or not at all, and for a line without backspaces it
is known when; in the C++ firmware this depends on the length of the line. -/
theorem onlyCompleteLines (stream : List UInt8) (arrivals : List (List UInt8)) :
    ((Console.run stream).executed = (endedLines 0x0A stream).filterMap Console.lineCommand ∧
      ∀ line ∈ endedLines 0x0A stream, (Console.NeverFull line → Console.ExecutesWhole line) ∧
        (Console.Unedited line → (Console.ExecutesWhole line ↔ (Console.editedLine line).length ≤ 256 ∨
          Text.fromUtf8 ((Console.editedLine line).take 256) = none))) ∧
    ∃ consumed, consumed ++ (UsbConsole.readCalls {} [] arrivals).2 = arrivals.flatten ∧
      (UsbConsole.readCalls {} [] arrivals).1.executed =
        (endedLines 0x0A consumed).filterMap UsbConsole.lineCommand ∧
      ∀ line ∈ endedLines 0x0A consumed, (UsbConsole.ExecutesWhole line ↔
        (UsbConsole.content line).length ≤ 256 ∨
          Cpp.trim (UsbConsole.lastPart (UsbConsole.content line)) = []) := by
  refine ⟨⟨Console.executed_run stream, fun line _ =>
    ⟨Console.executesWhole_of_neverFull, Console.Unedited.executesWhole_iff⟩⟩, ?_⟩
  obtain ⟨consumed, hconsumed, hexecuted⟩ := UsbConsole.executed_readCalls arrivals
  exact ⟨consumed, hconsumed, hexecuted, fun line _ => UsbConsole.executesWhole_iff line⟩

/-- 257 letters and a command. -/
def overlongLine : List UInt8 := List.replicate 257 0x61 ++ [0x70, 0x69, 0x6E, 0x67]

theorem mem_endedLines_overlongLine : overlongLine ∈ endedLines 0x0A (overlongLine ++ [0x0A]) := by
  rw [endedLines_append_cons (by decide +kernel)]
  exact List.mem_cons_self ..

/-- The port executes the first 256 letters, the C++ firmware the command at the end. -/
theorem overlongLine_executed :
    ¬ (∀ stream, ∀ line ∈ endedLines 0x0A stream, Console.ExecutesWhole line) ∧
      ¬ (∀ stream, ∀ line ∈ endedLines 0x0A stream, UsbConsole.ExecutesWhole line) := by
  constructor
  · intro hall
    have hunedited : Console.Unedited overlongLine := ⟨by decide +kernel, by decide +kernel⟩
    rcases hunedited.executesWhole_iff.1 (hall _ _ mem_endedLines_overlongLine) with hshort | htext
    · exact absurd hshort (by decide +kernel)
    · exact absurd htext (by decide +kernel)
  · intro hall
    have hwhole := hall _ _ mem_endedLines_overlongLine "ping".toList (by decide +kernel)
    exact absurd hwhole.1 (by decide +kernel)

end EspWaveRider
