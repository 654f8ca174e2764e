import EspWaveRider.CommandFields
import EspWaveRider.Core.RadarCodec
import EspWaveRider.Cpp.RadarUart
import EspWaveRider.Lib.Json
import EspWaveRider.Lib.LeadingNumber

/-!
# The range of a text frame in both firmwares

A text frame is what arrived until the line was idle, one line or more.  `extract_range_cm` reads
the text behind the first `Range`, trimmed, as one number; `emitTextRangeFrame` of `src/main.cpp`
reads the number the text starts with.

* `TextReport` — the lines, and `TextReport.exists_after?`, what follows the first `Range` in them;
* `rangeText_iff` — the port reports the first range when no line follows it, the C++ always.
-/

namespace EspWaveRider

open Text

/-! ## Lines -/

/-- A line the sensor sends in its text mode. -/
inductive TextReport where
  | on
  | off
  | range (distanceCm : Numeral 65535)

def crlf : Str := ['\r', '\n']

namespace TextReport

def line : TextReport → Str
  | on => ("ON" : Str)
  | off => ("OFF" : Str)
  | range distanceCm => ("Range " : Str) ++ distanceCm.digits

/-- The lines, each with its end. -/
def text (reports : List TextReport) : Str := reports.flatMap fun report => report.line ++ crlf

/-- The bytes of the lines. -/
def bytes (reports : List TextReport) : List UInt8 :=
  (text reports).map fun c => UInt8.ofNat c.toNat

/-- The distance of the first range line. -/
def firstRange : List TextReport → Option ℕ
  | [] => none
  | range distanceCm :: _ => some distanceCm.value
  | _ :: reports => firstRange reports

/-- The first range line is the last line. -/
def endsWithFirstRange : List TextReport → Bool
  | [] => false
  | range _ :: reports => reports.isEmpty
  | _ :: reports => endsWithFirstRange reports

variable {reports : List TextReport} {n : ℕ}

/-- The lines before the first range line, that line and those after it. -/
theorem exists_range (h : firstRange reports = some n) : ∃ before distanceCm after,
    text reports = before ++ ((range distanceCm).line ++ crlf ++ text after) ∧ 'R' ∉ before ∧
      distanceCm.value = n ∧ (endsWithFirstRange reports = true ↔ after = []) := by
  induction reports with
  | nil => cases h
  | cons report reports ih =>
    have hskip (other : TextReport) (hother : 'R' ∉ other.line ++ crlf)
        (hrest : firstRange reports = some n)
        (hends : endsWithFirstRange (other :: reports) = endsWithFirstRange reports) :
        ∃ before distanceCm after, text (other :: reports) =
          before ++ ((range distanceCm).line ++ crlf ++ text after) ∧ 'R' ∉ before ∧
          distanceCm.value = n ∧ (endsWithFirstRange (other :: reports) = true ↔ after = []) := by
      obtain ⟨before, distanceCm, after, htext, hbefore, hvalue, hlast⟩ := ih hrest
      refine ⟨other.line ++ crlf ++ before, distanceCm, after, ?_, ?_, hvalue, hends ▸ hlast⟩
      · have hcons : text (other :: reports) = other.line ++ crlf ++ text reports :=
          List.flatMap_cons
        rw [hcons, htext, ← List.append_assoc]
      · rw [List.mem_append]
        exact fun hmem => hmem.elim hother hbefore
    cases report with
    | on => exact hskip on (by decide) h rfl
    | off => exact hskip off (by decide) h rfl
    | range distanceCm =>
      exact ⟨[], distanceCm, reports, rfl, List.not_mem_nil, Option.some.inj h, List.isEmpty_iff⟩

/-! ## Bytes -/

/-- Line ends and printable characters. -/
def isSent (c : Char) : Bool := c = '\r' || c = '\n' || (32 ≤ c.toNat && c.toNat ≤ 126)

theorem isSent_iff {c : Char} :
    isSent c = true ↔ c = '\r' ∨ c = '\n' ∨ (32 ≤ c.toNat ∧ c.toNat ≤ 126) := by
  simp [isSent, or_assoc]

theorem all_isSent_line (report : TextReport) : (report.line ++ crlf).all isSent = true := by
  cases report with
  | on => decide
  | off => decide
  | range distanceCm =>
    have hword : ("Range " : Str).all isSent = true := by decide
    have hend : crlf.all isSent = true := by decide
    have hdigits : distanceCm.digits.all isSent = true := by
      rw [List.all_eq_true]
      intro c hc
      have hdigit := isAsciiDigit_iff.1 (distanceCm.isAsciiDigit_of_mem hc)
      exact isSent_iff.2 (.inr (.inr (by omega)))
    show (("Range " : Str) ++ distanceCm.digits ++ crlf).all isSent = true
    rw [List.all_append, List.all_append, hword, hdigits, hend]
    rfl

theorem isSent_of_mem {c : Char} (h : c ∈ text reports) : isSent c = true := by
  obtain ⟨report, -, hc⟩ := List.mem_flatMap.1 h
  exact List.all_eq_true.1 (all_isSent_line report) c hc

theorem textish_of_isSent {c : Char} (h : isSent c = true) :
    Radar.Textish (UInt8.ofNat c.toNat) ∧ Char.ofNat (UInt8.ofNat c.toNat).toNat = c := by
  rcases isSent_iff.1 h with rfl | rfl | ⟨hlow, hhigh⟩
  · exact ⟨.inl rfl, rfl⟩
  · exact ⟨.inr (.inl rfl), rfl⟩
  · have hbyte : (UInt8.ofNat c.toNat).toNat = c.toNat := by
      rw [UInt8.toNat_ofNat']
      exact Nat.mod_eq_of_lt (by omega)
    refine ⟨.inr (.inr (.inr ⟨?_, ?_⟩)), by rw [hbyte, Char.ofNat_toNat]⟩
    · rw [UInt8.le_iff_toNat_le, hbyte]
      exact hlow
    · rw [UInt8.le_iff_toNat_le, hbyte]
      exact hhigh

/-- The bytes are read as the text. -/
theorem parseTextishAscii_bytes (reports : List TextReport) :
    Radar.parseTextishAscii (bytes reports) = some (text reports) := by
  have htextish : ∀ byte ∈ bytes reports, Radar.Textish byte := by
    intro byte hbyte
    obtain ⟨c, hc, rfl⟩ := List.mem_map.1 hbyte
    exact (textish_of_isSent (isSent_of_mem hc)).1
  have hascii : Radar.asciiText (bytes reports) = text reports := by
    rw [Radar.asciiText, bytes, List.map_map]
    exact (List.map_congr_left fun c hc => (textish_of_isSent (isSent_of_mem hc)).2).trans
      (List.map_id _)
  rw [Radar.parseTextishAscii_eq, if_pos htextish, hascii]

/-! ## What stands behind the first `Range` -/

/-- The first `Range` is that of the first range line. -/
theorem exists_after? (h : firstRange reports = some n) :
    ∃ (distanceCm : Numeral 65535) (after : List TextReport),
      after? ("Range" : Str) (text reports) =
        some (' ' :: (distanceCm.digits ++ (crlf ++ text after))) ∧
      distanceCm.value = n ∧ (endsWithFirstRange reports = true ↔ after = []) := by
  obtain ⟨before, distanceCm, after, htext, hbefore, hvalue, hlast⟩ := exists_range h
  have hline : (range distanceCm).line ++ crlf ++ text after =
      ("Range" : Str) ++ ' ' :: (distanceCm.digits ++ (crlf ++ text after)) := by
    rw [List.append_assoc]
    rfl
  refine ⟨distanceCm, after, ?_, hvalue, hlast⟩
  rw [htext, hline]
  exact (after?_append_of_notMem hbefore _).trans (after?_append _)

/-- A line that follows is not white space. -/
theorem exists_mem_text {after : List TextReport} (h : after ≠ []) :
    'O' ∈ text after ∨ 'R' ∈ text after := by
  cases after with
  | nil => exact absurd rfl h
  | cons report after =>
    cases report with
    | on => exact .inl (List.mem_cons_self ..)
    | off => exact .inl (List.mem_cons_self ..)
    | range distanceCm => exact .inr (List.mem_cons_self ..)

end TextReport

open TextReport

namespace Radar

theorem extractRangeCm_eq (ascii : Str) : extractRangeCm ascii =
    (after? ("Range" : Str) ascii).bind fun rangeText =>
      (parseUnsigned 65535 (trim rangeText)).map UInt16.ofNat := by
  unfold extractRangeCm after?
  cases find? ("Range" : Str) ascii <;> rfl

/-- The rest is one number only when no line follows. -/
theorem parseUnsigned_rangeText (distanceCm : Numeral 65535) (after : List TextReport) :
    parseUnsigned 65535 (trim (' ' :: (distanceCm.digits ++ (crlf ++ text after)))) =
      if after = [] then some distanceCm.value else none := by
  have htrim : trim (' ' :: (distanceCm.digits ++ (crlf ++ text after))) =
      distanceCm.digits ++ (crlf ++ text after).rdropWhile isWhitespace :=
    trimmed_number rfl distanceCm.digits_ne_nil
      (fun c hc => isWhitespace_of_isAsciiDigit (distanceCm.isAsciiDigit_of_mem hc)) _
  rw [htrim]
  split_ifs with hafter
  · subst hafter
    have hnone : (crlf ++ text []).rdropWhile isWhitespace = [] := by decide
    rw [hnone, List.append_nil]
    exact distanceCm.parseUnsigned_eq
  · have hrest : (text after).rdropWhile isWhitespace ≠ [] := by
      rcases exists_mem_text hafter with h | h
      · exact rdropWhile_ne_nil h (by decide)
      · exact rdropWhile_ne_nil h (by decide)
    rw [rdropWhile_append, if_neg hrest]
    have hreturn : '\r' ∈ distanceCm.digits ++ (crlf ++ (text after).rdropWhile isWhitespace) :=
      List.mem_append_right _ (List.mem_cons_self ..)
    exact parseUnsigned_of_mem hreturn (by decide) _

theorem tryParseTextFrame_bytes {reports : List TextReport} {n : ℕ}
    (h : firstRange reports = some n) :
    ∃ frame, tryParseTextFrame (bytes reports) = some frame ∧
      frame.rangeCm.map UInt16.toNat = if endsWithFirstRange reports then some n else none := by
  obtain ⟨distanceCm, after, hafter, rfl, hlast⟩ := exists_after? h
  refine ⟨{
    length := (bytes reports).length
    presence := contains (text reports) "ON"
    rangeCm := extractRangeCm (text reports)
    hex := buildHexString (bytes reports)
    ascii := text reports }, ?_, ?_⟩
  · rw [tryParseTextFrame, parseTextishAscii_bytes, Option.bind_eq_bind, Option.bind_some,
      contains_of_after? hafter]
    rfl
  · show (extractRangeCm (text reports)).map UInt16.toNat = _
    rw [extractRangeCm_eq, hafter, Option.bind_some, parseUnsigned_rangeText]
    by_cases hempty : after = []
    · have hvalue := distanceCm.value_le
      have hlt : distanceCm.value < 65536 := by omega
      rw [if_pos hempty, if_pos (hlast.2 hempty), Option.map_some, Option.map_some,
        UInt16.toNat_ofNat', Nat.mod_eq_of_lt hlt]
    · rw [if_neg hempty, if_neg (mt hlast.1 hempty)]
      rfl

end Radar

namespace Cpp

/-- A number that fits is read up to what follows it. -/
theorem toInt_append {bound : ℕ} (n : Numeral bound) (hbound : bound ≤ 2147483647) {tail : Str}
    (htail : ∀ c, tail.head? = some c → isAsciiDigit c = false) :
    toInt (n.digits ++ tail) = n.value := by
  have hvalue := n.value_le
  have hmagnitude : magnitude (n.digits ++ tail) = n.value := by
    rw [magnitude, n.takeWhile_append htail, n.digitsValue_eq]
  obtain ⟨c, rest, hdigits⟩ := List.exists_cons_of_ne_nil n.digits_ne_nil
  have hdigit : isAsciiDigit c = true :=
    n.isAsciiDigit_of_mem (hdigits ▸ List.mem_cons_self ..)
  have hread : toInt (n.digits ++ tail) =
      max (-2147483648) (min (magnitude (n.digits ++ tail)) 2147483647) := by
    rw [hdigits]
    exact toInt_of_isAsciiDigit hdigit _
  rw [hread, hmagnitude]
  omega

/-- What follows the number is not read. -/
theorem toInt_rangeText (distanceCm : Numeral 65535) (after : Str) :
    toInt (trim (' ' :: (distanceCm.digits ++ (crlf ++ after)))) = distanceCm.value := by
  have htrim : trim (' ' :: (distanceCm.digits ++ (crlf ++ after))) =
      distanceCm.digits ++ (crlf ++ after).rdropWhile isCSpace :=
    trimmed_number rfl distanceCm.digits_ne_nil
      (fun c hc => (ne_of_isAsciiDigit (distanceCm.isAsciiDigit_of_mem hc)).1) _
  rw [htrim]
  refine toInt_append distanceCm (by decide) fun c hc => ?_
  have hstarts : (crlf ++ after).rdropWhile isCSpace <+: '\r' :: '\n' :: after :=
    List.rdropWhile_prefix _ _
  rw [List.head?_eq_some_iff] at hc
  obtain ⟨rest, hrest⟩ := hc
  rw [hrest, List.cons_prefix_cons] at hstarts
  rw [hstarts.1]
  decide

theorem tryEmitLd2420TextFrame_bytes (s : RadarUart) {reports : List TextReport} {n : ℕ}
    (h : firstRange reports = some n) (now : UInt32) :
    ((s.tryEmitLd2420TextFrame (bytes reports) now).bind
      (·.latestTextFrameSnapshot)).map (·.range) = some (n : ℤ) := by
  obtain ⟨distanceCm, after, hafter, rfl, -⟩ := exists_after? h
  have hascii : RadarUart.textish (bytes reports) = some (text reports) :=
    parseTextishAscii_bytes reports
  have hne : bytes reports ≠ [] := by
    intro hnil
    rw [hnil] at hascii
    have hempty : text reports = [] := (Option.some.inj hascii).symm
    rw [hempty] at hafter
    cases hafter
  rw [RadarUart.tryEmitLd2420TextFrame, if_neg hne, hascii]
  dsimp only
  rw [contains_of_after? hafter, Bool.not_true, Bool.false_and, Bool.false_and,
    if_neg Bool.false_ne_true, Option.bind_some]
  unfold RadarUart.emitTextRangeFrame
  dsimp only
  rw [hafter]
  exact congrArg some (toInt_rangeText distanceCm (text after))

end Cpp

/-- The port reports the first range exactly when its line is the last one; the C++ reports it
whatever follows. -/
theorem rangeText_iff (reports : List TextReport) (n : ℕ) (h : firstRange reports = some n) :
    ((∃ frame, Radar.tryParseTextFrame (bytes reports) = some frame ∧
      frame.rangeCm.map UInt16.toNat = some n) ↔ endsWithFirstRange reports = true) ∧
    ∀ (s : Cpp.RadarUart) (now : UInt32),
      ((s.tryEmitLd2420TextFrame (bytes reports) now).bind
        (·.latestTextFrameSnapshot)).map (·.range) = some (n : ℤ) := by
  refine ⟨?_, fun s now => Cpp.tryEmitLd2420TextFrame_bytes s h now⟩
  obtain ⟨frame, hframe, hrange⟩ := Radar.tryParseTextFrame_bytes h
  constructor
  · rintro ⟨found, hfound, hn⟩
    rw [hframe] at hfound
    cases hfound
    by_contra hmore
    rw [hrange, if_neg hmore] at hn
    cases hn
  · intro hlast
    rw [if_pos hlast] at hrange
    exact ⟨frame, hframe, hrange⟩

/-- The line `Range 22`. -/
def nearby : TextReport := .range (.ofNat 22 (by decide))

theorem rangeText_iff_last : ((∃ frame, Radar.tryParseTextFrame (bytes [.on, nearby]) = some frame ∧
      frame.rangeCm.map UInt16.toNat = some 22) ↔ endsWithFirstRange [.on, nearby] = true) ∧
    ∀ (s : Cpp.RadarUart) (now : UInt32),
      ((s.tryEmitLd2420TextFrame (bytes [.on, nearby]) now).bind
        (·.latestTextFrameSnapshot)).map (·.range) = some ((22 : ℕ) : ℤ) :=
  rangeText_iff [.on, nearby] 22 rfl

/-- Two reports in one frame: the C++ reads the distance of the first, the port none. -/
theorem range_lost : text [nearby, .on] = ("Range 22\r\nON\r\n" : Str) ∧
    firstRange [nearby, .on] = some 22 ∧
    (Radar.tryParseTextFrame (bytes [nearby, .on])).map (·.rangeCm) = some none ∧
    ((({} : Cpp.RadarUart).tryEmitLd2420TextFrame (bytes [nearby, .on]) 0).bind
      (·.latestTextFrameSnapshot)).map (·.range) = some 22 := by
  decide +kernel

end EspWaveRider
