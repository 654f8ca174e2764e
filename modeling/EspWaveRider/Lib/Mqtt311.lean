import EspWaveRider.Lib.Text

/-!
# The packet format of MQTT 3.1.1

Control packets as the protocol describes them, and readers of CONNECT and SUBSCRIBE.

* `IsLengthField`, `lengthValue` — the remaining length: seven bits a byte, the
  lowest first, at most four bytes;
* `IsPacket` — first byte, remaining length and as many bytes;
* `decodeConnect`, `decodeSubscribe` — what a broker reads off the two packets.
-/

namespace Mqtt311

/-! ## The remaining length -/

def lengthValue : List UInt8 → ℕ
  | [] => 0
  | byte :: field => byte.toNat % 128 + 128 * lengthValue field

/-- All bytes but the last say that there is another one. -/
def IsLengthField (field : List UInt8) : Prop :=
  ∃ continued last, field = continued ++ [last] ∧ continued.length ≤ 3 ∧
    (∀ byte ∈ continued, 128 ≤ byte.toNat) ∧ last.toNat < 128

/-- Value and what follows the field, of so many bytes at most. -/
def readLength : ℕ → List UInt8 → Option (ℕ × List UInt8)
  | 0, _ => none
  | _, [] => none
  | fuel + 1, byte :: rest =>
    if byte.toNat < 128 then some (byte.toNat, rest)
    else (readLength fuel rest).map fun (value, rest) => (byte.toNat - 128 + 128 * value, rest)

theorem readLength_append_of_continued {continued : List UInt8} {last : UInt8} {fuel : ℕ}
    (hfuel : continued.length < fuel) (hcontinued : ∀ byte ∈ continued, 128 ≤ byte.toNat)
    (hlast : last.toNat < 128) (rest : List UInt8) :
    readLength fuel (continued ++ last :: rest) =
      some (lengthValue (continued ++ [last]), rest) := by
  induction continued generalizing fuel with
  | nil =>
    obtain ⟨fuel, rfl⟩ : ∃ n, fuel = n + 1 := ⟨fuel - 1, by simp only [List.length_nil] at hfuel; omega⟩
    simp [readLength, lengthValue, hlast, Nat.mod_eq_of_lt hlast]
  | cons byte continued ih =>
    rw [List.length_cons] at hfuel
    obtain ⟨fuel, rfl⟩ : ∃ n, fuel = n + 1 := ⟨fuel - 1, by omega⟩
    have hbyte := hcontinued byte (List.mem_cons_self ..)
    have hfuel' : continued.length < fuel := by omega
    have hrest := ih hfuel' fun b hb => hcontinued b (List.mem_cons_of_mem _ hb)
    have hvalue : byte.toNat - 128 = byte.toNat % 128 := by
      have hlt := byte.toNat_lt
      omega
    rw [List.cons_append, readLength, if_neg (by omega), hrest, List.cons_append, lengthValue,
      Option.map_some, hvalue]

theorem readLength_append {field : List UInt8} (h : IsLengthField field) (rest : List UInt8) :
    readLength 4 (field ++ rest) = some (lengthValue field, rest) := by
  obtain ⟨continued, last, rfl, hshort, hcontinued, hlast⟩ := h
  rw [List.append_assoc]
  exact readLength_append_of_continued (by omega) hcontinued hlast rest

/-! ## Control packets -/

/-- First byte, remaining length and as many bytes. -/
def IsPacket (packet : List UInt8) : Prop :=
  ∃ first field body, packet = first :: (field ++ body) ∧ IsLengthField field ∧
    lengthValue field = body.length

/-! ## Fields -/

/-- A text or a binary field: two bytes of length and as many bytes. -/
def field (bytes : List UInt8) : List UInt8 :=
  UInt8.ofNat (bytes.length / 256) :: UInt8.ofNat (bytes.length % 256) :: bytes

def fieldIf (bytes : Option (List UInt8)) : List UInt8 := (bytes.map field).getD []

/-- A field and what follows it. -/
def readField : List UInt8 → Option (List UInt8 × List UInt8)
  | high :: low :: rest =>
    let length := high.toNat * 256 + low.toNat
    if length ≤ rest.length then some (rest.take length, rest.drop length) else none
  | _ => none

/-- A field that is there if a flag says so. -/
def readFieldIf (flag : Bool) (bytes : List UInt8) :
    Option (Option (List UInt8) × List UInt8) :=
  if flag then (readField bytes).map fun (field, rest) => (some field, rest) else some (none, bytes)

theorem readField_field {bytes : List UInt8} (h : bytes.length ≤ 65535) (rest : List UInt8) :
    readField (field bytes ++ rest) = some (bytes, rest) := by
  have hhigh : (UInt8.ofNat (bytes.length / 256)).toNat = bytes.length / 256 := by
    rw [UInt8.toNat_ofNat']
    omega
  have hlow : (UInt8.ofNat (bytes.length % 256)).toNat = bytes.length % 256 := by
    rw [UInt8.toNat_ofNat']
    omega
  have hlength : bytes.length / 256 * 256 + bytes.length % 256 = bytes.length := by omega
  rw [field, List.cons_append, List.cons_append, readField]
  simp only [hhigh, hlow, hlength]
  rw [if_pos (by rw [List.length_append]; omega), List.take_left, List.drop_left]

theorem readFieldIf_fieldIf {bytes : Option (List UInt8)} (h : ∀ b ∈ bytes, b.length ≤ 65535)
    (rest : List UInt8) : readFieldIf bytes.isSome (fieldIf bytes ++ rest) = some (bytes, rest) := by
  cases bytes with
  | none => rfl
  | some bytes =>
    show (readField (field bytes ++ rest)).map _ = _
    rw [readField_field (h bytes rfl)]
    rfl

/-! ## CONNECT -/

structure Connect where
  flags : UInt8
  keepAlive : ℕ
  clientId : List UInt8
  willTopic : Option (List UInt8)
  willMessage : Option (List UInt8)
  username : Option (List UInt8)
  password : Option (List UInt8)
  deriving DecidableEq

/-- `MQTT`. -/
def protocolName : List UInt8 := [0x4D, 0x51, 0x54, 0x54]

/-- What follows the connect flags' byte: the payload, field by field as the flags say. -/
def readConnectPayload (flags : UInt8) (keepAlive : ℕ) (payload : List UInt8) : Option Connect := do
  let (clientId, payload) ← readField payload
  let (willTopic, payload) ← readFieldIf (flags.toNat.testBit 2) payload
  let (willMessage, payload) ← readFieldIf (flags.toNat.testBit 2) payload
  let (username, payload) ← readFieldIf (flags.toNat.testBit 7) payload
  let (password, payload) ← readFieldIf (flags.toNat.testBit 6) payload
  if payload = [] then
    some { flags, keepAlive, clientId, willTopic, willMessage, username, password }
  else none

/-- What a CONNECT packet says: type, remaining length, protocol name and level,
flags, keep-alive and the payload. -/
def decodeConnect : List UInt8 → Option Connect
  | [] => none
  | first :: rest => do
    let (length, body) ← readLength 4 rest
    if first = 0x10 ∧ length = body.length then
      let (name, header) ← readField body
      match header with
      | level :: flags :: high :: low :: payload =>
        if name = protocolName ∧ level = 4 ∧ flags.toNat.testBit 0 = false then
          readConnectPayload flags (high.toNat * 256 + low.toNat) payload
        else none
      | _ => none
    else none

/-- The body of a CONNECT packet without a will. -/
def connectBody (flags high low : UInt8) (clientId : List UInt8)
    (username password : Option (List UInt8)) : List UInt8 :=
  field protocolName ++ 4 :: flags :: high :: low ::
    (field clientId ++ (fieldIf username ++ fieldIf password))

theorem decodeConnect_connectBody {lengthField : List UInt8} {flags high low : UInt8}
    {clientId : List UInt8} {username password : Option (List UInt8)}
    (hfield : IsLengthField lengthField)
    (hlength : lengthValue lengthField = (connectBody flags high low clientId username password).length)
    (hreserved : flags.toNat.testBit 0 = false) (hwill : flags.toNat.testBit 2 = false)
    (hflagUser : flags.toNat.testBit 7 = username.isSome)
    (hflagPass : flags.toNat.testBit 6 = password.isSome)
    (hclient : clientId.length ≤ 65535) (huser : ∀ b ∈ username, b.length ≤ 65535)
    (hpass : ∀ b ∈ password, b.length ≤ 65535) :
    decodeConnect (0x10 :: (lengthField ++ connectBody flags high low clientId username password)) =
      some { flags, keepAlive := high.toNat * 256 + low.toNat, clientId, willTopic := none
             willMessage := none, username, password } := by
  have hpayload : readConnectPayload flags (high.toNat * 256 + low.toNat)
      (field clientId ++ (fieldIf username ++ fieldIf password)) =
        some { flags, keepAlive := high.toNat * 256 + low.toNat, clientId, willTopic := none
               willMessage := none, username, password } := by
    have hlast := readFieldIf_fieldIf hpass []
    rw [List.append_nil] at hlast
    rw [readConnectPayload, readField_field hclient, hwill, hflagUser, hflagPass]
    show (readFieldIf username.isSome (fieldIf username ++ fieldIf password)).bind _ = _
    rw [readFieldIf_fieldIf huser, Option.bind_some]
    show (readFieldIf password.isSome (fieldIf password)).bind _ = _
    rw [hlast, Option.bind_some]
    exact if_pos rfl
  rw [decodeConnect, readLength_append hfield]
  show (if _ then _ else none : Option Connect) = _
  rw [if_pos ⟨rfl, hlength⟩, connectBody, readField_field (by decide)]
  show (if _ then _ else none : Option Connect) = _
  rw [if_pos ⟨rfl, rfl, hreserved⟩, hpayload]

/-! ## SUBSCRIBE -/

/-- Filters with the quality of service each is asked for. -/
def readFilters : ℕ → List UInt8 → Option (List (List UInt8 × UInt8))
  | _, [] => some []
  | 0, _ => none
  | fuel + 1, bytes => do
    let (filter, rest) ← readField bytes
    match rest with
    | qos :: rest => return (filter, qos) :: (← readFilters fuel rest)
    | [] => none

/-- Packet identifier and filters of a SUBSCRIBE packet; there is at least one. -/
def decodeSubscribe : List UInt8 → Option (ℕ × List (List UInt8 × UInt8))
  | [] => none
  | first :: rest => do
    let (length, body) ← readLength 4 rest
    if first = 0x82 ∧ length = body.length then
      match body with
      | high :: low :: payload =>
        let filters ← readFilters payload.length payload
        if filters = [] then none else some (high.toNat * 256 + low.toNat, filters)
      | _ => none
    else none

theorem decodeSubscribe_one {lengthField filter : List UInt8} {high low qos : UInt8}
    (hfield : IsLengthField lengthField)
    (hlength : lengthValue lengthField = (high :: low :: (field filter ++ [qos])).length)
    (hfilter : filter.length ≤ 65535) :
    decodeSubscribe (0x82 :: (lengthField ++ high :: low :: (field filter ++ [qos]))) =
      some (high.toNat * 256 + low.toNat, [(filter, qos)]) := by
  have hfilters : readFilters (field filter ++ [qos]).length (field filter ++ [qos]) =
      some [(filter, qos)] := by
    obtain ⟨n, hn⟩ : ∃ n, (field filter ++ [qos]).length = n + 1 :=
      ⟨filter.length + 2, by simp [field]⟩
    rw [hn, field, List.cons_append, readFilters]
    · rw [← List.cons_append, ← field, readField_field hfilter]
      show (readFilters n []).bind _ = _
      cases n <;> rfl
    · nofun
  rw [decodeSubscribe, readLength_append hfield]
  show (if _ then _ else none : Option _) = _
  rw [if_pos ⟨rfl, hlength⟩]
  show (readFilters (field filter ++ [qos]).length (field filter ++ [qos])).bind _ = _
  rw [hfilters]
  rfl

end Mqtt311
