import EspWaveRider.Lib.Json

/-!
# Texts of the C++ firmware

The functions of `src/string_utils.cpp` and `sanitizeHostname` of
`src/runtime_support.cpp`.  A `String` is the list of its characters.  Most
functions look at ASCII characters only and copy all others, so that nothing
depends on their encoding; `percentDecode` makes one character of each byte.

* `jsonEscape`, `jsonFieldString`, `jsonFieldInt`, `jsonFieldBool`;
* `percentDecode`, `splitConfigFields`;
* `sanitizeHostname`.
-/

namespace EspWaveRider.Cpp

open Text

/-- The decimal text of an integer. -/
def decimalInt (n : ℤ) : Str := if n < 0 then '-' :: decimal n.natAbs else decimal n.natAbs

theorem isNumberChar_of_mem_decimalInt {n : ℤ} {c : Char} (h : c ∈ decimalInt n) :
    isNumberChar c := by
  have hdecimal {m : ℕ} (hc : c ∈ decimal m) : isNumberChar c := by
    have hdigit := Nat.isDigit_of_mem_toDigits (by decide) (by decide) hc
    have hascii : isAsciiDigit c := hdigit
    rw [isNumberChar, hascii, Bool.true_or, Bool.true_or]
  unfold decimalInt at h
  split at h
  · rcases List.mem_cons.1 h with rfl | h
    · rfl
    · exact hdecimal h
  · exact hdecimal h

/-! ## JSON -/

def jsonEscapeChar (c : Char) : Str :=
  if c = '"' then "\\\""
  else if c = '\\' then "\\\\"
  else if c = '\x08' then "\\b"
  else if c = '\x0c' then "\\f"
  else if c = '\n' then "\\n"
  else if c = '\r' then "\\r"
  else if c = '\t' then "\\t"
  else if c.toNat < 0x20 then ['?']
  else [c]

def jsonEscape (value : Str) : Str := value.flatMap jsonEscapeChar

theorem closedFrom_jsonEscape (value : Str) : closedFrom false (jsonEscape value) := by
  refine Json.closedFrom_flatMap (fun c => ?_) value
  unfold jsonEscapeChar
  split_ifs with hquote hbackslash
  all_goals first | rfl | skip
  simp [closedFrom, hquote, hbackslash]

/-- What an escape stands for. -/
def unescapeChar : Char → Char
  | 'n' => '\n'
  | 'r' => '\r'
  | 't' => '\t'
  | escaped => escaped

/-- The value of a string literal, up to its closing quote or the end. -/
def literalValue : Str → Str
  | [] => []
  | '\\' :: escaped :: rest => unescapeChar escaped :: literalValue rest
  | c :: rest => if c = '"' then [] else c :: literalValue rest

/-- The value of the first member of this name, a number or word as it stands. -/
def jsonFieldString (json fieldName : Str) : Str :=
  match after? ('"' :: (fieldName ++ ['"', ':'])) json with
  | none => []
  | some ('"' :: rest) => literalValue rest
  | some rest =>
    if ',' ∈ rest then rest.takeWhile (· ≠ ',') else rest.takeWhile (· ≠ '}')

/-- Space, and tab to carriage return. -/
def isCSpace (c : Char) : Bool := c = ' ' || (9 ≤ c.toNat && c.toNat ≤ 13)

/-- Without the white space at both ends. -/
def trim (value : Str) : Str := (value.dropWhile isCSpace).rdropWhile isCSpace

/-- `atol`: white space, a sign and digits, as many as there are, held within a `long`. -/
def toInt (value : Str) : ℤ :=
  let magnitude (s : Str) : ℤ := digitsValue 0 (s.takeWhile isAsciiDigit)
  let n := match value.dropWhile isCSpace with
    | '-' :: rest => -magnitude rest
    | '+' :: rest => magnitude rest
    | s => magnitude s
  max (-2147483648) (min n 2147483647)

def jsonFieldInt (json fieldName : Str) (fallbackValue : ℤ) : ℤ :=
  let value := jsonFieldString json fieldName
  if value = [] ∨ value = ("null" : Str) then fallbackValue else toInt value

def jsonFieldBool (json fieldName : Str) (fallbackValue : Bool) : Bool :=
  let value := jsonFieldString json fieldName
  if value = ("true" : Str) then true
  else if value = ("false" : Str) then false
  else fallbackValue

example : jsonFieldString "\x7b\"a\":1,\"name\":\"x\\\"y\"\x7d" "name" = ("x\"y" : Str) := by decide
example : jsonFieldInt "\x7b\"x\":-12\x7d" "x" 0 = -12 := by decide

/-! ## Commands -/

def hexValue (hex : Char) : Option ℕ :=
  if isAsciiDigit hex then some (hex.toNat - 48)
  else if 'a' ≤ hex ∧ hex ≤ 'f' then some (hex.toNat - 87)
  else if 'A' ≤ hex ∧ hex ≤ 'F' then some (hex.toNat - 55)
  else none

/-- The byte a percent sign and two digits stand for, as one character. -/
def encodedByte : Str → Option Char
  | '%' :: high :: low :: _ => do
    let highValue ← hexValue high
    let lowValue ← hexValue low
    some (Char.ofNat (highValue * 16 + lowValue))
  | _ => none

/-- The loop, which has some characters to skip. -/
def percentDecodeFrom : ℕ → Str → Str
  | _, [] => []
  | skip + 1, _ :: rest => percentDecodeFrom skip rest
  | 0, c :: rest =>
    match encodedByte (c :: rest) with
    | some byte => byte :: percentDecodeFrom 2 rest
    | none => (if c = '+' then ' ' else c) :: percentDecodeFrom 0 rest

def percentDecode (value : Str) : Str := percentDecodeFrom 0 value

/-- The decoded fields between the bars; missing ones are empty. -/
def splitConfigFields (payload : Str) : ℕ → List Str
  | 0 => []
  | fields + 1 =>
    match splitOnce ['|'] payload with
    | none => percentDecode payload :: List.replicate fields []
    | some (field, rest) => percentDecode field :: splitConfigFields rest fields

example : splitConfigFields "a%20b|c+d" 3 = ["a b", "c d", ""].map String.toList := by decide

/-! ## Host names -/

/-- What one pass of the loop adds. -/
def pushHostnameChar (hostname : Str) (c : Char) : Str :=
  if isAsciiLowercase c || isAsciiDigit c then hostname ++ [c]
  else if isAsciiUppercase c then hostname ++ [toAsciiLowercase c]
  else if (c = '-' ∨ c = '_') ∧ hostname ≠ [] ∧ hostname.getLast? ≠ some '-' then
    hostname ++ ['-']
  else hostname

/-- Lower-case letters, digits and single dashes, at most 31 of them. -/
def sanitizeHostname (value : Str) : Str :=
  let hostname := value.foldl pushHostnameChar []
  let hostname := (hostname.dropWhile (· == '-')).rdropWhile (· == '-')
  let hostname := if hostname = [] then ("lb-mmwave" : Str) else hostname
  hostname.take 31

example : sanitizeHostname "Living Room" = sanitizeHostname "livingroom" := by decide

end EspWaveRider.Cpp
