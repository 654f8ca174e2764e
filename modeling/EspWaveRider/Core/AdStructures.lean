import EspWaveRider.Lib.Iteration
import EspWaveRider.Lib.Text

/-!
# What an advertisement says

`iter_ad_structures`, `extract_ble_local_name` and `extract_ble_service_uuid` of
`rust/crates/espwaverider-core/src/ble.rs`.  The bytes of an advertisement are structures, each
with its length, its kind and its data.

* `iterAdStructures` — the structures, up to a zero or a structure that is cut off;
* `extractBleLocalName_eq`, `extractBleServiceUuid_eq` — which structure counts;
* `adStructures_read` — written structures are read back, and name and UUID are found.
-/

namespace EspWaveRider.Ble

open Text Iteration

/-- Kind and data. -/
abbrev AdStructure := UInt8 × List UInt8

/-- One call of the iterator: a structure and the bytes behind it. -/
def nextAdStructure : List UInt8 → Option (AdStructure × List UInt8)
  | [] => none
  | len :: payload =>
    if len = 0 then none
    else if payload.length < len.toNat then none
    else match payload.take len.toNat with
      | [] => none
      | kind :: data => some ((kind, data), payload.drop len.toNat)

/-- The structures that a `for` loop sees. -/
def iterAdStructures (payload : List UInt8) : List AdStructure :=
  collectAll nextAdStructure List.length payload

/-- A complete name is returned at once, the first shortened one at the end. -/
def localNameLoop (shortened : Option Str) : List AdStructure → Str
  | [] => shortened.getD []
  | (kind, data) :: rest =>
    if kind = 0x09 then
      match fromUtf8 data with
      | some name => name
      | none => localNameLoop shortened rest
    else if kind = 0x08 ∧ shortened.isNone then localNameLoop (fromUtf8 data) rest
    else localNameLoop shortened rest

def extractBleLocalName (advData scanData : List UInt8) : Str :=
  localNameLoop none ([scanData, advData].flatMap iterAdStructures)

/-- `{value:0width$x}`. -/
def lowerHex (width value : ℕ) : Str := (Nat.toDigits 16 value).leftpad width '0'

/-- The number of these bytes, the low one first. -/
def leValue : List UInt8 → ℕ
  | [] => 0
  | byte :: rest => byte.toNat + 256 * leValue rest

def formatUuid128 (data : List UInt8) : Str :=
  if data.length < 16 then []
  else
    let bytes := (data.take 16).reverse
    let group (start count : ℕ) : Str :=
      ((bytes.drop start).take count).flatMap fun byte => lowerHex 2 byte.toNat
    group 0 4 ++ '-' :: group 4 2 ++ '-' :: group 6 2 ++ '-' :: group 8 2 ++ '-' :: group 10 6

def serviceUuidLoop : List AdStructure → Str
  | [] => []
  | (kind, data) :: rest =>
    if (kind = 0x07 ∨ kind = 0x06) ∧ 16 ≤ data.length then formatUuid128 (data.take 16)
    else if (kind = 0x05 ∨ kind = 0x04) ∧ 4 ≤ data.length then lowerHex 8 (leValue (data.take 4))
    else if (kind = 0x03 ∨ kind = 0x02) ∧ 2 ≤ data.length then lowerHex 4 (leValue (data.take 2))
    else serviceUuidLoop rest

def extractBleServiceUuid (advData scanData : List UInt8) : Str :=
  serviceUuidLoop ([advData, scanData].flatMap iterAdStructures)

/-! ## The structures -/

namespace AdStructure

/-- The bytes of a structure in front of others. -/
def write (s : AdStructure) (payload : List UInt8) : List UInt8 :=
  UInt8.ofNat (s.2.length + 1) :: s.1 :: (s.2 ++ payload)

/-- The bytes of some structures and of what follows them. -/
def encode (structures : List AdStructure) (tail : List UInt8) : List UInt8 :=
  structures.foldr write tail

end AdStructure

/-- Nothing more, a zero, or a structure that is cut off. -/
inductive Ends : List UInt8 → Prop where
  | nothing : Ends []
  | zero (rest : List UInt8) : Ends (0 :: rest)
  | truncated {len : UInt8} {rest : List UInt8} (h : rest.length < len.toNat) : Ends (len :: rest)

theorem nextAdStructure_write {s : AdStructure} (h : s.2.length ≤ 254) (payload : List UInt8) :
    nextAdStructure (s.write payload) = some (s, payload) := by
  have hlen : (UInt8.ofNat (s.2.length + 1)).toNat = s.2.length + 1 := by
    rw [UInt8.toNat_ofNat']
    omega
  have hne : UInt8.ofNat (s.2.length + 1) ≠ 0 := by
    intro hzero
    rw [hzero] at hlen
    have hzero : (0 : UInt8).toNat = 0 := rfl
    omega
  have hfits : ¬ (s.1 :: (s.2 ++ payload)).length < s.2.length + 1 := by
    rw [List.length_cons, List.length_append]
    omega
  rw [AdStructure.write, nextAdStructure, if_neg hne, hlen, if_neg hfits, List.take_succ_cons,
    List.take_left, List.drop_succ_cons, List.drop_left]

theorem nextAdStructure_of_ends {payload : List UInt8} (h : Ends payload) :
    nextAdStructure payload = none := by
  cases h with
  | nothing => rfl
  | zero rest => rfl
  | @truncated len rest h =>
    rw [nextAdStructure, if_pos h, ite_self]

/-- Every structure makes the payload shorter. -/
theorem length_lt_of_nextAdStructure (payload : List UInt8) (s : AdStructure) (rest : List UInt8)
    (h : nextAdStructure payload = some (s, rest)) : rest.length < payload.length := by
  unfold nextAdStructure at h
  split at h
  · cases h
  · split_ifs at h
    split at h
    · cases h
    · cases h
      rw [List.length_drop, List.length_cons]
      omega

theorem yields_iterAdStructures (payload : List UInt8) :
    Yields nextAdStructure payload (iterAdStructures payload) :=
  yields_collectAll length_lt_of_nextAdStructure payload

theorem iterAdStructures_encode {structures : List AdStructure}
    (h : ∀ s ∈ structures, s.2.length ≤ 254) {tail : List UInt8} (htail : Ends tail) :
    iterAdStructures (AdStructure.encode structures tail) = structures := by
  have hread : Yields nextAdStructure (AdStructure.encode structures tail) (structures ++ []) :=
    Yields.append (fun s hs => nextAdStructure_write (h s hs))
      (.done (nextAdStructure_of_ends htail))
  rw [List.append_nil] at hread
  exact (yields_iterAdStructures _).unique hread

/-! ## The local name -/

/-- A name of this kind that is well formed. -/
def AdStructure.nameOf (kind : UInt8) (s : AdStructure) : Option Str :=
  if s.1 = kind then fromUtf8 s.2 else none

theorem localNameLoop_eq (shortened : Option Str) (structures : List AdStructure) :
    localNameLoop shortened structures =
      ((structures.findSome? (AdStructure.nameOf 0x09)).or
        (shortened.or (structures.findSome? (AdStructure.nameOf 0x08)))).getD [] := by
  induction structures generalizing shortened with
  | nil => cases shortened <;> rfl
  | cons s structures ih =>
    obtain ⟨kind, data⟩ := s
    rw [localNameLoop, List.findSome?_cons, List.findSome?_cons]
    by_cases hcomplete : kind = 0x09
    · subst hcomplete
      rw [if_pos rfl]
      have hname : AdStructure.nameOf 0x09 ((0x09, data) : AdStructure) = fromUtf8 data := if_pos rfl
      have hdifferent : ¬ (0x09 : UInt8) = 0x08 := by decide
      have hother : AdStructure.nameOf 0x08 ((0x09, data) : AdStructure) = none :=
        if_neg hdifferent
      rw [hname, hother]
      cases fromUtf8 data with
      | some name => rfl
      | none => exact ih shortened
    · have hname : AdStructure.nameOf 0x09 ((kind, data) : AdStructure) = none := if_neg hcomplete
      rw [if_neg hcomplete, hname]
      by_cases hkind : kind = 0x08
      · have hshort : AdStructure.nameOf 0x08 ((kind, data) : AdStructure) = fromUtf8 data :=
          if_pos hkind
        rw [hshort]
        cases shortened with
        | some name =>
          rw [if_neg (by simp), ih]
          rfl
        | none =>
          rw [if_pos ⟨hkind, rfl⟩, ih]
          cases fromUtf8 data <;> rfl
      · have hshort : AdStructure.nameOf 0x08 ((kind, data) : AdStructure) = none := if_neg hkind
        rw [if_neg fun h => hkind h.1, hshort, ih]

/-! ## The service UUID -/

namespace AdStructure

/-- How many bytes a UUID of this kind has. -/
def uuidWidth (s : AdStructure) : Option ℕ :=
  if s.1 = 0x07 ∨ s.1 = 0x06 then some 16
  else if s.1 = 0x05 ∨ s.1 = 0x04 then some 4
  else if s.1 = 0x03 ∨ s.1 = 0x02 then some 2
  else none

/-- A structure of kind 2 to 7 that is long enough for its width. -/
def hasUuid (s : AdStructure) : Bool := s.uuidWidth.any (· ≤ s.2.length)

def uuidText (s : AdStructure) : Str :=
  match s.uuidWidth with
  | some 16 => formatUuid128 (s.2.take 16)
  | some width => lowerHex (2 * width) (leValue (s.2.take width))
  | none => []

end AdStructure

/-- One round of the loop. -/
theorem serviceUuidLoop_cons (s : AdStructure) (rest : List AdStructure) :
    serviceUuidLoop (s :: rest) = if s.hasUuid then s.uuidText else serviceUuidLoop rest := by
  obtain ⟨kind, data⟩ := s
  rw [serviceUuidLoop, AdStructure.hasUuid, AdStructure.uuidText]
  by_cases h16 : kind = 0x07 ∨ kind = 0x06
  · have hwidth : AdStructure.uuidWidth (kind, data) = some 16 := if_pos h16
    have h4 : ¬ (kind = 0x05 ∨ kind = 0x04) := by rcases h16 with rfl | rfl <;> decide
    have h2 : ¬ (kind = 0x03 ∨ kind = 0x02) := by rcases h16 with rfl | rfl <;> decide
    simp [hwidth, h16, h4, h2]
  · by_cases h4 : kind = 0x05 ∨ kind = 0x04
    · have hwidth : AdStructure.uuidWidth (kind, data) = some 4 := (if_neg h16).trans (if_pos h4)
      have h2 : ¬ (kind = 0x03 ∨ kind = 0x02) := by rcases h4 with rfl | rfl <;> decide
      simp [hwidth, h16, h4, h2]
    · by_cases h2 : kind = 0x03 ∨ kind = 0x02
      · have hwidth : AdStructure.uuidWidth (kind, data) = some 2 :=
          (if_neg h16).trans ((if_neg h4).trans (if_pos h2))
        simp [hwidth, h16, h4, h2]
      · have hwidth : AdStructure.uuidWidth (kind, data) = none :=
          (if_neg h16).trans ((if_neg h4).trans (if_neg h2))
        simp [hwidth, h16, h4, h2]

theorem serviceUuidLoop_eq (structures : List AdStructure) :
    serviceUuidLoop structures =
      ((structures.find? AdStructure.hasUuid).map AdStructure.uuidText).getD [] := by
  induction structures with
  | nil => rfl
  | cons s structures ih =>
    rw [serviceUuidLoop_cons]
    cases hfits : s.hasUuid with
    | true =>
      rw [if_pos rfl, List.find?_cons_of_pos hfits]
      rfl
    | false =>
      rw [if_neg Bool.false_ne_true, List.find?_cons_of_neg (by simp [hfits]), ih]

/-! ## Both together -/

/-- Scan response first. -/
theorem extractBleLocalName_eq (advData scanData : List UInt8) :
    extractBleLocalName advData scanData =
      let structures := iterAdStructures scanData ++ iterAdStructures advData
      ((structures.findSome? (AdStructure.nameOf 0x09)).or
        (structures.findSome? (AdStructure.nameOf 0x08))).getD [] := by
  rw [extractBleLocalName, localNameLoop_eq, List.flatMap_cons, List.flatMap_singleton]
  rfl

/-- Advertisement first. -/
theorem extractBleServiceUuid_eq (advData scanData : List UInt8) :
    extractBleServiceUuid advData scanData =
      let structures := iterAdStructures advData ++ iterAdStructures scanData
      ((structures.find? AdStructure.hasUuid).map AdStructure.uuidText).getD [] := by
  rw [extractBleServiceUuid, serviceUuidLoop_eq, List.flatMap_cons, List.flatMap_singleton]

/-- Structures that are written are read back whatever ends them; reading any bytes comes to an
end; the name is the first complete one, or else the first shortened one, of the scan response
and then of the advertisement; the UUID is that of the first structure, of the advertisement and
then of the scan response, that is long enough for one. -/
theorem adStructures_read :
    (∀ (structures : List AdStructure) (tail : List UInt8),
      (∀ s ∈ structures, s.2.length ≤ 254) → Ends tail →
        iterAdStructures (AdStructure.encode structures tail) = structures) ∧
    (∀ payload, Yields nextAdStructure payload (iterAdStructures payload)) ∧
    ∀ advData scanData,
      (extractBleLocalName advData scanData =
        let structures := iterAdStructures scanData ++ iterAdStructures advData
        ((structures.findSome? (AdStructure.nameOf 0x09)).or
          (structures.findSome? (AdStructure.nameOf 0x08))).getD []) ∧
      extractBleServiceUuid advData scanData =
        let structures := iterAdStructures advData ++ iterAdStructures scanData
        ((structures.find? AdStructure.hasUuid).map AdStructure.uuidText).getD [] :=
  ⟨fun _ _ h htail => iterAdStructures_encode h htail, yields_iterAdStructures,
    fun advData scanData =>
      ⟨extractBleLocalName_eq advData scanData, extractBleServiceUuid_eq advData scanData⟩⟩

example : extractBleLocalName [2, 0x01, 0x06, 4, 0x08, 84, 101, 115] [5, 0x09, 84, 101, 115, 116] =
    ("Test" : Str) := by decide

end EspWaveRider.Ble
