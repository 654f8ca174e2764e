import EspWaveRider.Core.Release
import EspWaveRider.Lib.TextBytes

/-!
# The version core, byte by byte

`semantic_version_core` of `rust/crates/espwaverider-core/src/release.rs` and the copy of it in
`rust/firmware/esp32s3/src/main.rs` move a cursor over the bytes of a version.  `none` is an access
outside the bytes or a slice that is not one of characters.

* `Release.Cursor.semanticVersionCore_eq` — the cursor finds what `Release.semanticVersionCore` is;
* `semanticVersionCore_grammar` — for every text this is the longest version core in it.
-/

namespace EspWaveRider

open Text

namespace Release.Cursor

/-- `u8::is_ascii_digit`. -/
def isDigitByte (b : UInt8) : Bool := 0x30 ≤ b && b ≤ 0x39

/-- `cursor <= start || cursor >= bytes.len() || bytes[cursor] != b'.'`. -/
def noNumberThenDot (bytes : List UInt8) (start cursor : ℕ) : Option Bool :=
  if cursor ≤ start ∨ bytes.length ≤ cursor then some true
  else (bytes[cursor]?).map (· ≠ 0x2E)

def semanticVersionCore (version : Str) : Option Str :=
  let trimmed := trim version
  if trimmed = [] then some []
  else do
    let bytes := toUtf8 trimmed
    let majorStart := if bytes.head? = some 0x76 ∨ bytes.head? = some 0x56 then 1 else 0
    let cursor ← skipWhile isDigitByte bytes majorStart
    if ← noNumberThenDot bytes majorStart cursor then
      return []
    let minorStart := cursor + 1
    let cursor ← skipWhile isDigitByte bytes minorStart
    if ← noNumberThenDot bytes minorStart cursor then
      return []
    let patchStart := cursor + 1
    let cursor ← skipWhile isDigitByte bytes patchStart
    if cursor ≤ patchStart then
      return []
    slice trimmed majorStart cursor

/-! ## One number -/

theorem isDigitByte_firstByte (c : Char) : isDigitByte (firstByte c) = isAsciiDigit c := by
  have hfirst := toNat_firstByte c
  rw [Bool.eq_iff_iff, isAsciiDigit_iff, isDigitByte, between_iff]
  have hlow : UInt8.toNat 0x30 = 48 := rfl
  have hhigh : UInt8.toNat 0x39 = 57 := rfl
  rw [hlow, hhigh]
  split_ifs at hfirst
  · rw [hfirst]
  · omega

theorem utf8Size_of_isAsciiDigit {c : Char} (h : isAsciiDigit c = true) : c.utf8Size = 1 := by
  rw [isAsciiDigit_iff] at h
  exact utf8Size_of_lt (by omega)

/-- A cursor at the end of some characters moves over the digits behind them. -/
theorem skipWhile_digits (front s : Str) :
    skipWhile isDigitByte (toUtf8 (front ++ s)) (utf8Len front) =
      some (utf8Len (front ++ s.takeWhile isAsciiDigit)) :=
  skipWhile_append isDigitByte_firstByte (fun _ => utf8Size_of_isAsciiDigit) front s

theorem numberThenDot_eq_some {s number rest : Str} (h : numberThenDot s = some (number, rest)) :
    s = number ++ '.' :: rest ∧ number = s.takeWhile isAsciiDigit := by
  have hsplit := List.takeWhile_append_dropWhile (p := isAsciiDigit) (l := s)
  rw [numberThenDot] at h
  split at h
  · rename_i hdot
    dsimp only at h
    split at h
    · cases h
    · cases h
      rw [hdot] at hsplit
      exact ⟨hsplit.symm, rfl⟩
  · cases h

/-- The cursor has moved if there was something to move over. -/
theorem utf8Len_append_le_iff {front s : Str} : utf8Len (front ++ s) ≤ utf8Len front ↔ s = [] := by
  cases s with
  | nil =>
    rw [List.append_nil]
    exact iff_of_true le_rfl rfl
  | cons c s =>
    have hpos := Char.utf8Size_pos c
    rw [utf8Len_append, utf8Len_cons]
    exact iff_of_false (by omega) (List.cons_ne_nil c s)

theorem noNumberThenDot_eq (front s : Str) :
    noNumberThenDot (toUtf8 (front ++ s)) (utf8Len front)
      (utf8Len (front ++ s.takeWhile isAsciiDigit)) = some (numberThenDot s).isNone := by
  have hsplit := List.takeWhile_append_dropWhile (p := isAsciiDigit) (l := s)
  generalize hnumber : s.takeWhile isAsciiDigit = number at hsplit
  generalize htail : s.dropWhile isAsciiDigit = tail at hsplit
  subst hsplit
  rw [noNumberThenDot, numberThenDot, hnumber, htail, length_toUtf8, ← List.append_assoc]
  cases tail with
  | nil => rw [List.append_nil, if_pos (Or.inr le_rfl), Option.isNone_none]
  | cons c tail =>
    have hbound : ¬ utf8Len (front ++ number ++ c :: tail) ≤ utf8Len (front ++ number) := by
      have hpos := Char.utf8Size_pos c
      rw [utf8Len_append _ (c :: tail), utf8Len_cons]
      omega
    have hdot : firstByte c = 0x2E ↔ c = '.' := firstByte_eq_iff (a := '.') (by decide)
    rw [getElem?_toUtf8_append]
    by_cases hempty : number = []
    · rw [if_pos (Or.inl (utf8Len_append_le_iff.2 hempty))]
      split
      · dsimp only
        rw [if_pos hempty, Option.isNone_none]
      · rfl
    · rw [if_neg (not_or.2 ⟨mt utf8Len_append_le_iff.1 hempty, hbound⟩), Option.map_some, Option.some_inj]
      split
      · rename_i heq
        cases heq
        dsimp only
        rw [if_neg hempty, Option.isNone_some, decide_eq_false_iff_not, not_not]
        rfl
      · rename_i hother
        rw [Option.isNone_none, decide_eq_true_iff, Ne, hdot]
        rintro rfl
        exact hother tail rfl

/-- A number and the dot behind it. -/
theorem number_stage (front s : Str) {number rest : Str} (h : numberThenDot s = some (number, rest)) :
    utf8Len (front ++ s.takeWhile isAsciiDigit) + 1 = utf8Len (front ++ number ++ ['.']) ∧
      front ++ s = front ++ number ++ ['.'] ++ rest := by
  obtain ⟨hs, hnumber⟩ := numberThenDot_eq_some h
  have hdot : utf8Len ['.'] = 1 := rfl
  refine ⟨?_, ?_⟩
  · rw [← hnumber, utf8Len_append _ ['.'], hdot]
  · rw [hs]
    simp

/-! ## The whole function -/

/-- The mark in front of a version, which is not part of its core. -/
def IsMark (mark : Str) : Prop := mark = [] ∨ mark = "v" ∨ mark = "V"

/-- The three numbers at the start of a text. -/
def coreAtStart (s : Str) : Str :=
  (do
    let (major, rest) ← numberThenDot s
    let (minor, rest) ← numberThenDot rest
    let patch := rest.takeWhile isAsciiDigit
    if patch = [] then none else some (major ++ '.' :: minor ++ '.' :: patch)).getD []

/-- A version is a mark and what its numbers are read from. -/
theorem exists_mark (version : Str) : ∃ mark s, IsMark mark ∧ trim version = mark ++ s ∧
    Release.semanticVersionCore version = coreAtStart s ∧
    (if (toUtf8 (trim version)).head? = some 0x76 ∨ (toUtf8 (trim version)).head? = some 0x56 then 1
      else 0) = utf8Len mark := by
  rw [Release.semanticVersionCore]
  cases trim version with
  | nil => exact ⟨[], [], Or.inl rfl, rfl, rfl, rfl⟩
  | cons c s =>
    obtain ⟨l, hl⟩ := exists_utf8EncodeChar c
    have hhead : (toUtf8 (c :: s)).head? = some (firstByte c) := by
      rw [toUtf8_cons, hl]
      rfl
    have hv : (toUtf8 (c :: s)).head? = some 0x76 ↔ c = 'v' := by
      rw [hhead, Option.some_inj]
      exact firstByte_eq_iff (a := 'v') (by decide)
    have hV : (toUtf8 (c :: s)).head? = some 0x56 ↔ c = 'V' := by
      rw [hhead, Option.some_inj]
      exact firstByte_eq_iff (a := 'V') (by decide)
    by_cases hmark : c = 'v' ∨ c = 'V'
    · refine ⟨[c], s, ?_, rfl, ?_, ?_⟩
      · rcases hmark with rfl | rfl
        · exact Or.inr (Or.inl rfl)
        · exact Or.inr (Or.inr rfl)
      · rcases hmark with rfl | rfl <;> rfl
      · rw [if_pos (hmark.imp hv.2 hV.2)]
        rcases hmark with rfl | rfl <;> rfl
    · refine ⟨[], c :: s, Or.inl rfl, rfl, ?_, ?_⟩
      · rw [not_or] at hmark
        dsimp only
        split
        · rename_i heq
          exact absurd (List.cons.inj heq).1 hmark.1
        · rename_i heq
          exact absurd (List.cons.inj heq).1 hmark.2
        · rfl
      · rw [if_neg (mt (Or.imp hv.1 hV.1) hmark)]
        rfl

/-- The cursor is never outside the text, and finds its core. -/
theorem semanticVersionCore_eq (version : Str) :
    semanticVersionCore version = some (Release.semanticVersionCore version) := by
  obtain ⟨mark, s, -, htrim, hcore, hstart⟩ := exists_mark version
  rw [hcore, semanticVersionCore]
  dsimp only
  rw [hstart, htrim, coreAtStart]
  split_ifs with hempty
  · obtain ⟨rfl, rfl⟩ := List.append_eq_nil_iff.1 hempty
    rfl
  · simp only [Option.bind_eq_bind]
    rw [skipWhile_digits, Option.bind_some, noNumberThenDot_eq, Option.bind_some]
    cases hmajor : numberThenDot s with
    | none => rfl
    | some found =>
      obtain ⟨major, rest⟩ := found
      obtain ⟨hcursor, hsplit⟩ := number_stage mark s hmajor
      rw [Option.isNone_some, if_neg Bool.false_ne_true, hcursor, hsplit, skipWhile_digits,
        Option.bind_some, noNumberThenDot_eq, Option.bind_some, Option.bind_some]
      dsimp only
      cases hminor : numberThenDot rest with
      | none => rfl
      | some found =>
        obtain ⟨minor, rest'⟩ := found
        obtain ⟨hcursor', hsplit'⟩ := number_stage (mark ++ major ++ ['.']) rest hminor
        rw [Option.isNone_some, if_neg Bool.false_ne_true, hcursor', hsplit', skipWhile_digits,
          Option.bind_some, Option.bind_some]
        dsimp only
        by_cases hpatch : rest'.takeWhile isAsciiDigit = []
        · rw [if_pos (utf8Len_append_le_iff.2 hpatch), if_pos hpatch]
          rfl
        · have hparts : mark ++ major ++ ['.'] ++ minor ++ ['.'] ++ rest' =
              mark ++ ((major ++ '.' :: minor ++ '.' :: rest'.takeWhile isAsciiDigit) ++
                rest'.dropWhile isAsciiDigit) := by
            simp
          have hend : utf8Len (mark ++ major ++ ['.'] ++ minor ++ ['.'] ++
                rest'.takeWhile isAsciiDigit) = utf8Len mark +
              utf8Len (major ++ '.' :: minor ++ '.' :: rest'.takeWhile isAsciiDigit) := by
            rw [← utf8Len_append]
            simp
          rw [if_neg (mt utf8Len_append_le_iff.1 hpatch), if_neg hpatch, hend, hparts, slice_append]
          rfl

/-! ## The grammar -/

/-- Three numbers with dots between them. -/
def IsCore (core : Str) : Prop :=
  ∃ major minor patch, IsNumber major ∧ IsNumber minor ∧ IsNumber patch ∧
    core = major ++ '.' :: minor ++ '.' :: patch

/-- A version that is a mark, a core and anything behind it. -/
def Reads (version mark core : Str) : Prop :=
  IsMark mark ∧ IsCore core ∧ ∃ rest, trim version = mark ++ (core ++ rest)

/-- The digits behind a core belong to its last number. -/
theorem coreAtStart_append {core : Str} (h : IsCore core) (rest : Str) :
    coreAtStart (core ++ rest) = core ++ rest.takeWhile isAsciiDigit := by
  obtain ⟨major, minor, patch, hmajor, hminor, hpatch, rfl⟩ := h
  have hsplit : major ++ '.' :: minor ++ '.' :: patch ++ rest =
      major ++ '.' :: (minor ++ '.' :: (patch ++ rest)) := by simp
  have hne : patch ++ rest.takeWhile isAsciiDigit ≠ [] := fun h =>
    hpatch.1 (List.append_eq_nil_iff.1 h).1
  rw [coreAtStart, hsplit, numberThenDot_append hmajor, Option.bind_eq_bind, Option.bind_some]
  dsimp only
  rw [numberThenDot_append hminor, Option.bind_some]
  dsimp only
  rw [List.takeWhile_append_of_pos hpatch.2, if_neg hne, Option.getD_some]
  simp

theorem coreAtStart_cases (s : Str) :
    coreAtStart s = [] ∨ IsCore (coreAtStart s) ∧ ∃ rest, s = coreAtStart s ++ rest := by
  rw [coreAtStart]
  cases hmajor : numberThenDot s with
  | none => exact Or.inl rfl
  | some found =>
    obtain ⟨major, rest⟩ := found
    rw [Option.bind_eq_bind, Option.bind_some]
    dsimp only
    cases hminor : numberThenDot rest with
    | none => exact Or.inl rfl
    | some found =>
      obtain ⟨minor, rest'⟩ := found
      rw [Option.bind_some]
      dsimp only
      split_ifs with hpatch
      · exact Or.inl rfl
      · rw [Option.getD_some]
        refine Or.inr ⟨⟨major, minor, _, isNumber_of_numberThenDot hmajor,
          isNumber_of_numberThenDot hminor, isNumber_takeWhile hpatch, rfl⟩,
          rest'.dropWhile isAsciiDigit, ?_⟩
        rw [(numberThenDot_eq_some hmajor).1, (numberThenDot_eq_some hminor).1]
        simp

theorem IsCore.exists_digit {core : Str} (h : IsCore core) :
    ∃ c rest, isAsciiDigit c = true ∧ core = c :: rest := by
  obtain ⟨major, minor, patch, hmajor, -, -, rfl⟩ := h
  obtain ⟨c, rest, rfl⟩ := List.exists_cons_of_ne_nil hmajor.1
  exact ⟨c, _, hmajor.2 c (List.mem_cons_self ..), rfl⟩

theorem semanticVersionCore_of_reads {version mark core rest : Str} (hmark : IsMark mark)
    (hcore : IsCore core) (h : trim version = mark ++ (core ++ rest)) :
    Release.semanticVersionCore version = core ++ rest.takeWhile isAsciiDigit := by
  rw [← coreAtStart_append hcore, Release.semanticVersionCore, h]
  rcases hmark with rfl | rfl | rfl
  · obtain ⟨c, digits, hc, rfl⟩ := hcore.exists_digit
    rw [List.nil_append, List.cons_append]
    dsimp only
    -- a digit is no mark
    split
    · rename_i heq
      rw [(List.cons.inj heq).1] at hc
      exact absurd hc (by decide)
    · rename_i heq
      rw [(List.cons.inj heq).1] at hc
      exact absurd hc (by decide)
    · rfl
  · rfl
  · rfl

/-- A version that has a core reads as that core. -/
theorem exists_reads {version : Str} (h : Release.semanticVersionCore version ≠ []) :
    ∃ mark, Reads version mark (Release.semanticVersionCore version) := by
  obtain ⟨mark, s, hmark, htrim, hcore, -⟩ := exists_mark version
  rw [hcore] at h ⊢
  obtain ⟨hiscore, rest, hrest⟩ := (coreAtStart_cases s).resolve_left h
  exact ⟨mark, hmark, hiscore, rest, htrim.trans (congrArg _ hrest)⟩

/-- Of all ways to read a version its core is the longest. -/
theorem Reads.longest {version mark core : Str} (h : Reads version mark core) :
    Reads version mark (Release.semanticVersionCore version) ∧
      core <+: Release.semanticVersionCore version := by
  obtain ⟨hmark, hcore, rest, htrim⟩ := h
  have heq := semanticVersionCore_of_reads hmark hcore htrim
  have hne : Release.semanticVersionCore version ≠ [] := by
    obtain ⟨c, digits, -, rfl⟩ := hcore.exists_digit
    rw [heq]
    exact List.cons_ne_nil _ _
  obtain ⟨-, -, hlongest, -⟩ := exists_reads hne
  refine ⟨⟨hmark, hlongest, rest.dropWhile isAsciiDigit, ?_⟩, heq ▸ List.prefix_append _ _⟩
  rw [heq, htrim, List.append_assoc core, List.takeWhile_append_dropWhile]

end Release.Cursor

/-! ## The copy of the firmware -/

namespace Firmware.Cursor

open Release.Cursor (isDigitByte noNumberThenDot)

def semanticVersionCore (version : Str) : Option Str :=
  let trimmed := trim version
  if trimmed = [] then some []
  else do
    let bytes := toUtf8 trimmed
    let majorStart := if bytes.head? = some 0x76 ∨ bytes.head? = some 0x56 then 1 else 0
    let cursor ← skipWhile isDigitByte bytes majorStart
    if ← noNumberThenDot bytes majorStart cursor then
      return []
    let minorStart := cursor + 1
    let cursor ← skipWhile isDigitByte bytes minorStart
    if ← noNumberThenDot bytes minorStart cursor then
      return []
    let patchStart := cursor + 1
    let cursor ← skipWhile isDigitByte bytes patchStart
    if cursor ≤ patchStart then
      return []
    slice trimmed majorStart cursor

theorem semanticVersionCore_eq (version : Str) :
    semanticVersionCore version = Release.Cursor.semanticVersionCore version := rfl

end Firmware.Cursor

open Release.Cursor

/-- Both functions give the longest core of a version, never look outside of it, and give nothing
exactly if it does not read as a core; a core is its own core. -/
theorem semanticVersionCore_grammar (version : Str) : ∃ core,
    Release.Cursor.semanticVersionCore version = some core ∧
    Firmware.Cursor.semanticVersionCore version = some core ∧
    (core ≠ [] ↔ ∃ mark digits, Reads version mark digits) ∧
    (∀ mark digits, Reads version mark digits → Reads version mark core ∧ digits <+: core) ∧
    Release.Cursor.semanticVersionCore core = some core := by
  have hcore := Release.Cursor.semanticVersionCore_eq version
  refine ⟨Release.semanticVersionCore version, hcore, ?_, ?_, fun mark digits h => h.longest, ?_⟩
  · rw [Firmware.Cursor.semanticVersionCore_eq, hcore]
  · constructor
    · intro h
      obtain ⟨mark, hreads⟩ := exists_reads h
      exact ⟨mark, _, hreads⟩
    · rintro ⟨mark, digits, hreads⟩
      obtain ⟨c, rest, -, heq⟩ := hreads.longest.1.2.1.exists_digit
      rw [heq]
      exact List.cons_ne_nil c rest
  · rw [Release.Cursor.semanticVersionCore_eq, Release.semanticVersionCore_idem]

end EspWaveRider
