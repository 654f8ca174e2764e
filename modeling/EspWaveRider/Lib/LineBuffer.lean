import EspWaveRider.Lib.Fields

/-!
# Line buffers

A reader that collects symbols in a buffer and does something with it at the end of each line.
Since the buffer starts over with every line, what it does with a line depends on that line alone.

* `Reads` — such a reader, by what it does with one symbol;
* `Reads.run` — what it does with a stream.
-/

namespace LineBuffer

variable {α β γ σ : Type} [DecidableEq α]

/-- The lines of a stream that have been ended. -/
def endedLines (newline : α) (stream : List α) : List (List α) := (stream.splitOn newline).dropLast

theorem endedLines_of_notMem {newline : α} {line : List α} (h : newline ∉ line) :
    endedLines newline line = [] := by
  rw [endedLines, List.splitOn_eq_singleton h, List.dropLast_singleton]

theorem endedLines_append_cons {newline : α} {line : List α} (h : newline ∉ line) (rest : List α) :
    endedLines newline (line ++ newline :: rest) = line :: endedLines newline rest := by
  rw [endedLines, List.splitOn_append_cons_self_of_not_mem h,
    List.dropLast_cons_of_ne_nil (List.splitOn_ne_nil _ _), endedLines]

/-- A reader edits its buffer, and at the end of a line it emits something and starts over. -/
structure Reads (newline : α) (start : β) (edit : β → α → β) (emit : β → Option γ)
    (step : σ → α → σ) (buffer : σ → β) (out : σ → List γ) : Prop where
  buffer_newline : ∀ s, buffer (step s newline) = start
  out_newline : ∀ s, out (step s newline) = out s ++ (emit (buffer s)).toList
  buffer_step : ∀ s a, a ≠ newline → buffer (step s a) = edit (buffer s) a
  out_step : ∀ s a, a ≠ newline → out (step s a) = out s

namespace Reads

variable {newline : α} {start : β} {edit : β → α → β} {emit : β → Option γ} {step : σ → α → σ}
  {buffer : σ → β} {out : σ → List γ}

theorem line (h : Reads newline start edit emit step buffer out) {line : List α}
    (hline : newline ∉ line) (s : σ) :
    buffer (line.foldl step s) = line.foldl edit (buffer s) ∧ out (line.foldl step s) = out s := by
  induction line generalizing s with
  | nil => exact ⟨rfl, rfl⟩
  | cons a line ih =>
    rw [List.mem_cons, not_or] at hline
    have hne : a ≠ newline := Ne.symm hline.1
    obtain ⟨hbuffer, hout⟩ := ih hline.2 (step s a)
    rw [List.foldl_cons, List.foldl_cons, hbuffer, hout, h.buffer_step s a hne, h.out_step s a hne]
    exact ⟨rfl, rfl⟩

/-- What is emitted comes from the lines, each by itself. -/
theorem run (h : Reads newline start edit emit step buffer out) (stream : List α) {s : σ}
    (hs : buffer s = start) : out (stream.foldl step s) =
      out s ++ (endedLines newline stream).filterMap fun line => emit (line.foldl edit start) := by
  induction hn : stream.length using Nat.strong_induction_on generalizing stream s with
  | h n ih =>
    rcases Text.splitOn_cases newline stream with ⟨hline, -⟩ | ⟨line, rest, hline, rfl, -⟩
    · rw [endedLines_of_notMem hline, (h.line hline s).2, List.filterMap_nil, List.append_nil]
    · obtain ⟨hbuffer, hout⟩ := h.line hline s
      have hrest := ih rest.length (by simp [← hn]; omega) rest (h.buffer_newline (line.foldl step s)) rfl
      rw [List.foldl_append, List.foldl_cons, hrest, h.out_newline, hbuffer, hout, hs,
        endedLines_append_cons hline, List.filterMap_cons, List.append_assoc]
      cases emit (line.foldl edit start) with
      | none => rfl
      | some c => rfl

end Reads

end LineBuffer
