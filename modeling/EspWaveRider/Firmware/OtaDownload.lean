import EspWaveRider.Core.Release
import EspWaveRider.Firmware.OtaWriter
import EspWaveRider.Firmware.State
import EspWaveRider.Lib.Source

/-!
# Downloading a firmware image

The OTA download of `rust/firmware/esp32s3/src/main.rs`: the response header, the
body over HTTP and over HTTPS, redirects, and the update that activates the
partition afterwards.

* `ends_receiveHttp`, `ends_receiveHttps` — what each of the two hands to the
  partition writer;
* `completeOnly_iff` — which responses with a `Content-Length` lead to a complete
  image only.
-/

namespace EspWaveRider.Firmware

open Text Fallible Release

def firmwareHttpHeaderBufferSize : ℕ := 8192
def firmwareHttpReadBufferSize : ℕ := 2048
def firmwareSyncMaxRedirects : ℕ := 4

/-- What the network does for one request: the answer of the name server (none, one
without or one with an IPv4 address), the connection, the TLS session, the
request, and the bytes that come back.  With `readError` a read behind the last
byte fails, without it the stream ends there. -/
structure Exchange where
  dns : Option Bool := none
  connected : Bool := false
  sessionOpened : Bool := false
  requested : Bool := false
  source : Source UInt8 := ⟨[], []⟩
  readError : Option Str := none
  deriving DecidableEq

structure HttpResponseHeader where
  statusCode : ℕ
  contentLength : Option ℕ
  location : Option Str
  headerLen : ℕ
  bytesFilled : ℕ
  deriving DecidableEq

/-- The bytes of the body in the header buffer. -/
def HttpResponseHeader.bodyPrefix (header : HttpResponseHeader) (filled : List UInt8) :
    Option (List UInt8) :=
  if header.headerLen < header.bytesFilled then some (filled.drop header.headerLen) else none

/-! ## The response header -/

/-- One read with room for `cap` bytes. -/
def Exchange.read (x : Exchange) (s : Source UInt8) (cap : ℕ) :
    Except Str (List UInt8 × Source UInt8) :=
  match x.readError with
  | some error => if s.items = [] then .error error else .ok (s.read cap)
  | none => .ok (s.read cap)

/-- Where the header ends in the bytes read so far. -/
def headerEnd (filled : List UInt8) : Option ℕ :=
  (find? [13, 10, 13, 10] filled).map (· + 4)

/-- The loop that fills the header buffer; every round adds a byte. -/
def fillHeader (x : Exchange) :
    ℕ → List UInt8 → Source UInt8 → Except Str (List UInt8 × Option ℕ × Source UInt8)
  | 0, filled, s => .ok (filled, none, s)
  | fuel + 1, filled, s =>
    if filled.length < firmwareHttpHeaderBufferSize then
      match x.read s (firmwareHttpHeaderBufferSize - filled.length) with
      | .error _ => .error "firmware_http_read_failed"
      | .ok (chunk, s) =>
        if chunk = [] then .ok (filled, none, s)
        else match headerEnd (filled ++ chunk) with
          | some headerLen => .ok (filled ++ chunk, some headerLen, s)
          | none => fillHeader x fuel (filled ++ chunk) s
    else .ok (filled, none, s)

/-- A header line: the last `Content-Length` and the last `Location` count. -/
def headerField (fields : Option ℕ × Option Str) (line : Str) : Option ℕ × Option Str :=
  match splitOnce ":" line with
  | none => fields
  | some (name, value) =>
    if eqIgnoreAsciiCase name "content-length" then (parseUnsigned u32Max (trim value), fields.2)
    else if eqIgnoreAsciiCase name "location" then (fields.1, some (trim value))
    else fields

def parseHttpResponseHeader (filled : List UInt8) (headerEnd : Option ℕ) :
    Except Str HttpResponseHeader :=
  match headerEnd with
  | none => .error "firmware_http_header_too_large"
  | some headerLen =>
    match fromUtf8 (filled.take headerLen) with
    | none => .error "firmware_http_header_invalid_utf8"
    | some headerText =>
      match split "\r\n" headerText with
      | [] => .error "firmware_http_header_missing_status"
      | statusLine :: lines =>
        match (splitWhitespace statusLine)[1]?.bind (parseUnsigned 65535) with
        | none => .error "firmware_http_header_invalid_status"
        | some statusCode =>
          let (contentLength, location) := lines.foldl headerField (none, none)
          .ok { statusCode, contentLength, location, headerLen, bytesFilled := filled.length }

/-- The header, the bytes in the header buffer and the stream behind them. -/
def readHttpResponseHeader (x : Exchange) :
    Except Str (HttpResponseHeader × List UInt8 × Source UInt8) := do
  let (filled, headerEnd, s) ← fillHeader x firmwareHttpHeaderBufferSize [] x.source
  let header ← parseHttpResponseHeader filled headerEnd
  return (header, filled, s)

/-! ## The request -/

def resolveDownloadHost (x : Exchange) (host : Str) : Except Str Unit :=
  if (parseIpv4Address host).isSome then .ok ()
  else match x.dns with
    | none => .error "firmware_dns_lookup_failed"
    | some false => .error "firmware_dns_no_ipv4_result"
    | some true => .ok ()

def openHttp (x : Exchange) (url : ParsedDownloadUrl) : Except Str Unit := do
  resolveDownloadHost x url.host
  if !x.connected then .error "firmware_http_connect_failed"
  else if !x.requested then .error "firmware_http_request_failed"
  else .ok ()

def openHttps (x : Exchange) (url : ParsedDownloadUrl) : Except Str Unit := do
  resolveDownloadHost x url.host
  if !x.connected then .error "firmware_https_connect_failed"
  else if '\x00' ∈ url.host then .error "firmware_https_invalid_host"
  else if !x.sessionOpened then .error "firmware_https_session_failed"
  else if !x.requested then .error "firmware_https_request_failed"
  else .ok ()

/-! ## The body -/

def liftExcept {α : Type} : Except Str α → OtaM α
  | .ok a => return a
  | .error error => OtaM.fail error

def prepareWriter (contentLength : Option ℕ) : OtaM OtaPartitionWriter := do
  let capacity := (← get).capacity
  if contentLength.any (capacity < ·) then OtaM.fail "ota_image_exceeds_partition"
  else OtaPartitionWriter.new contentLength

/-- The bytes of the body that came with the header, when there are any. -/
def writePrefix (w : OtaPartitionWriter) : Option (List UInt8) → OtaM OtaPartitionWriter
  | none => return w
  | some bodyPrefix => if bodyPrefix ≠ [] then w.writeChunk bodyPrefix else return w

/-- HTTP: read to the end of the stream.  Every read but the last shortens what is
to come, so its length bounds the rounds. -/
def httpBody (x : Exchange) : ℕ → OtaPartitionWriter → Source UInt8 → OtaM OtaPartitionWriter
  | 0, w, _ => return w
  | fuel + 1, w, s => do
    let (chunk, s) ← liftExcept
      ((x.read s firmwareHttpReadBufferSize).mapError fun _ => "firmware_http_read_failed")
    if chunk = [] then return w
    else
      let w ← w.writeChunk chunk
      httpBody x fuel w s

def receiveHttp (x : Exchange) (header : HttpResponseHeader) (filled : List UInt8)
    (s : Source UInt8) : OtaM ℕ := do
  let w ← prepareWriter header.contentLength
  let w ← writePrefix w (header.bodyPrefix filled)
  let w ← httpBody x (s.items.length + 1) w s
  let w ← w.finish
  return w.totalBytes

/-- HTTPS: read until the announced length is there; what came with the header is
written once a read has returned something. -/
def httpsBody (x : Exchange) (expectedTotal : Option ℕ) :
    ℕ → Option (List UInt8) → OtaPartitionWriter → Source UInt8 →
      OtaM (Option (List UInt8) × OtaPartitionWriter)
  | 0, deferred, w, _ => return (deferred, w)
  | fuel + 1, deferred, w, s =>
    if expectedTotal.any (· ≤ w.totalBytes) then return (deferred, w)
    else do
      let (chunk, s) ← liftExcept ((x.read s firmwareHttpReadBufferSize).mapError
        fun error => "firmware_https_read_failed:" ++ error)
      if chunk = [] then return (deferred, w)
      else
        let w ← writePrefix w deferred
        let writeLen := match expectedTotal with
          | some total => min chunk.length (total - w.totalBytes)
          | none => chunk.length
        if writeLen = 0 then return (none, w)
        else
          let w ← w.writeChunk (chunk.take writeLen)
          httpsBody x expectedTotal fuel none w s

def receiveHttps (x : Exchange) (header : HttpResponseHeader) (filled : List UInt8)
    (s : Source UInt8) : OtaM ℕ := do
  let w ← prepareWriter header.contentLength
  let (deferred, w) ← httpsBody x header.contentLength (s.items.length + 1)
    (header.bodyPrefix filled) w s
  let w ← writePrefix w deferred
  let w ← w.finish
  return w.totalBytes

/-! ## Redirects -/

def isRedirect (statusCode : ℕ) : Bool := statusCode ∈ [301, 302, 303, 307, 308]

/-- Where a redirect leads; it may not change the scheme. -/
def redirectUrl (scheme : DownloadUrlScheme) (location : Option Str) :
    Except Str ParsedDownloadUrl :=
  match location with
  | none => .error "firmware_http_redirect_missing_location"
  | some location =>
    match parseDownloadUrl location with
    | none => .error "firmware_http_redirect_invalid_location"
    | some nextUrl =>
      if nextUrl.scheme ≠ scheme then .error "firmware_http_redirect_bad_scheme" else .ok nextUrl

/-- The download over either transport, with so many requests left; the network
is silent behind the last exchange. -/
def downloadFirmwareImage (scheme : DownloadUrlScheme)
    (openExchange : Exchange → ParsedDownloadUrl → Except Str Unit)
    (receive : Exchange → HttpResponseHeader → List UInt8 → Source UInt8 → OtaM ℕ) :
    ℕ → ParsedDownloadUrl → List Exchange → OtaM ℕ
  | 0, _, _ => OtaM.fail "firmware_http_redirect_limit"
  | requests + 1, url, exchanges => do
    let x := exchanges.headD {}
    liftExcept (openExchange x url)
    let (header, filled, s) ← liftExcept (readHttpResponseHeader x)
    if header.statusCode = 200 then receive x header filled s
    else if isRedirect header.statusCode then
      let nextUrl ← liftExcept (redirectUrl scheme header.location)
      downloadFirmwareImage scheme openExchange receive requests nextUrl exchanges.tail
    else if header.statusCode = 404 then OtaM.fail "firmware_http_not_found"
    else if header.statusCode = 429 then OtaM.fail "firmware_http_rate_limited"
    else OtaM.fail "firmware_http_bad_status"

def downloadHttpFirmwareImage (url : ParsedDownloadUrl) (exchanges : List Exchange) : OtaM ℕ :=
  downloadFirmwareImage .http openHttp receiveHttp firmwareSyncMaxRedirects url exchanges

def downloadHttpsFirmwareImage (url : ParsedDownloadUrl) (exchanges : List Exchange) : OtaM ℕ :=
  downloadFirmwareImage .https openHttps receiveHttps firmwareSyncMaxRedirects url exchanges

/-! ## The update -/

inductive OtaSlot where
  | ota0
  | ota1
  deriving DecidableEq

def OtaSlot.next : OtaSlot → OtaSlot
  | .ota0 => .ota1
  | .ota1 => .ota0

/-- The flash: the slot selected in `otadata` and the two application slots. -/
structure OtaFlash where
  selected : OtaSlot
  slots : OtaSlot → OtaPartition

/-- What the station, the partition table and `otadata` answer. -/
structure UpdateConditions where
  /-- There is a station stack, and it has an address. -/
  stationConfigured : Option Bool
  layoutValid : Bool
  nextAvailable : Bool
  activates : Bool
  deriving DecidableEq

/-- The update with one of the two downloads: the slot after the selected one is
written and, when that succeeds, selected. -/
def performFirmwareUpdate (download : OtaM ℕ) (conditions : UpdateConditions) (flash : OtaFlash) :
    Except Str ℕ × OtaFlash :=
  match conditions.stationConfigured with
  | none => (.error "firmware_sync_no_station_stack", flash)
  | some false => (.error "firmware_sync_network_not_ready", flash)
  | some true =>
    if !conditions.layoutValid then (.error "ota_partition_layout_invalid", flash)
    else if !conditions.nextAvailable then (.error "ota_next_partition_unavailable", flash)
    else
      let slot := flash.selected.next
      match download (flash.slots slot) with
      | .error error p => (.error error, { flash with slots := Function.update flash.slots slot p })
      | .ok bytesWritten p =>
        let flash := { flash with slots := Function.update flash.slots slot p }
        if !conditions.activates then (.error "ota_activate_partition_failed", flash)
        else (.ok bytesWritten, { flash with selected := slot })

def performHttpFirmwareUpdate (conditions : UpdateConditions) (url : ParsedDownloadUrl)
    (exchanges : List Exchange) (flash : OtaFlash) : Except Str ℕ × OtaFlash :=
  performFirmwareUpdate (downloadHttpFirmwareImage url exchanges) conditions flash

def performHttpsFirmwareUpdate (conditions : UpdateConditions) (url : ParsedDownloadUrl)
    (exchanges : List Exchange) (flash : OtaFlash) : Except Str ℕ × OtaFlash :=
  performFirmwareUpdate (downloadHttpsFirmwareImage url exchanges) conditions flash

/-! ## What is handed to the writer -/

theorem Exchange.read_eq_ok {x : Exchange} (hread : x.readError = none) (s : Source UInt8)
    (cap : ℕ) : x.read s cap = .ok (s.read cap) := by
  rw [Exchange.read, hread]

/-- Whatever a read returns comes off the front of the stream. -/
theorem Exchange.of_read_eq_ok {x : Exchange} {s : Source UInt8} {cap : ℕ}
    {r : List UInt8 × Source UInt8} (h : x.read s cap = .ok r) : r = s.read cap := by
  unfold Exchange.read at h
  split at h
  · split at h
    · cases h
    · cases h
      rfl
  · cases h
    rfl

section Handed

variable {F : Prop} {x : Exchange} {w : OtaPartitionWriter} {p : OtaPartition} {n : ℕ}

/-- A read of the body, with either error text: a chunk off the front of the
stream, which is empty at the end of it only. -/
theorem ends_read (error : Str → Str) (s : Source UInt8) (hF : F ∨ x.readError = none) :
    Ends (liftExcept ((x.read s firmwareHttpReadBufferSize).mapError error)) p
      (fun r p' => p' = p ∧ r.1 ++ r.2.items = s.items ∧ (r.1 = [] → s.items = []) ∧
        (r.1 ≠ [] → r.2.items.length < s.items.length)) F := by
  cases hread : x.read s firmwareHttpReadBufferSize with
  | ok r =>
    have hr := Exchange.of_read_eq_ok hread
    have happend : r.1 ++ r.2.items = s.items := hr ▸ s.read_append firmwareHttpReadBufferSize
    have hend : r.1 = [] → s.items = [] := by
      rw [hr]
      exact (Source.read_eq_nil_iff (by decide : 0 < firmwareHttpReadBufferSize)).1
    have hshorter : r.1 ≠ [] → r.2.items.length < s.items.length := by
      intro hne
      have hpos := List.length_pos_iff.2 hne
      rw [← happend, List.length_append]
      omega
    exact Ends.pure ⟨rfl, happend, hend, hshorter⟩
  | error e =>
    refine hF.resolve_right fun hnone => ?_
    rw [Exchange.read_eq_ok hnone] at hread
    cases hread

theorem ends_writePrefix (h : w.Consistent p []) (deferred : Option (List UInt8))
    (hF : F ∨ p.Working n) (hn : p.handed.length + (deferred.getD []).length ≤ n) :
    Ends (writePrefix w deferred) p
      (fun w' p' => w'.Consistent p' [] ∧ p'.handed = p.handed ++ deferred.getD [] ∧
        (p.Working n → p'.Working n)) F := by
  cases deferred with
  | none => exact Ends.pure ⟨h, (List.append_nil _).symm, id⟩
  | some bodyPrefix =>
    rw [writePrefix]
    split_ifs with hempty
    · exact h.writeChunk bodyPrefix hF hn
    · refine Ends.pure ⟨h, ?_, id⟩
      rw [not_not.1 hempty]
      exact (List.append_nil _).symm

/-- Over HTTP everything up to the end of the stream is handed over. -/
theorem ends_httpBody {fuel : ℕ} {s : Source UInt8} (h : w.Consistent p [])
    (hfuel : s.items.length < fuel) (hF : F ∨ p.Working n ∧ x.readError = none)
    (hn : p.handed.length + s.items.length ≤ n) :
    Ends (httpBody x fuel w s) p
      (fun w' p' => w'.Consistent p' [] ∧ p'.handed = p.handed ++ s.items ∧
        (p.Working n → p'.Working n)) F := by
  induction fuel generalizing w p s with
  | zero => exact absurd hfuel (Nat.not_lt_zero _)
  | succ fuel ih =>
    rw [httpBody]
    refine Ends.bind (ends_read _ s (hF.imp_right And.right)) ?_
    rintro ⟨chunk, rest⟩ p ⟨rfl, happend, hitems, hshorter⟩
    dsimp only at happend hitems hshorter ⊢
    split_ifs with hend
    · -- the end of the stream
      refine Ends.pure ⟨h, ?_, id⟩
      rw [hitems hend, List.append_nil]
    · have hless := hshorter hend
      rw [← happend, List.length_append] at hn
      refine Ends.bind (h.writeChunk chunk (hF.imp_right And.left) (by omega)) ?_
      rintro w₁ p₁ ⟨hw₁, hhanded₁, hworking₁⟩
      refine (ih hw₁ (by omega) (hF.imp_right fun hp => ⟨hworking₁ hp.1, hp.2⟩) ?_).mono ?_
      · rw [hhanded₁, List.length_append]
        omega
      · rintro w₂ p₂ ⟨hw₂, hhanded₂, hworking₂⟩
        refine ⟨hw₂, ?_, fun hp => hworking₂ (hworking₁ hp)⟩
        rw [hhanded₂, hhanded₁, List.append_assoc, happend]

/-- Cutting a list that arrives in two parts. -/
theorem take_append_take (chunk rest : List UInt8) (k : ℕ) :
    chunk.take (min chunk.length k) ++ rest.take (k - min chunk.length k) =
      (chunk ++ rest).take k := by
  rw [List.take_append]
  rcases Nat.le_total chunk.length k with hle | hle
  · rw [Nat.min_eq_left hle, List.take_length, List.take_of_length_le hle]
  · rw [Nat.min_eq_right hle, Nat.sub_self, Nat.sub_eq_zero_of_le hle]

/-- Over HTTPS what came with the header is handed over, and then the body up to
the announced length. -/
theorem ends_httpsBody {fuel total : ℕ} {deferred : Option (List UInt8)} {s : Source UInt8}
    (h : w.Consistent p []) (hfuel : s.items.length < fuel)
    (hF : F ∨ p.Working n ∧ x.readError = none)
    (hn : p.handed.length + (deferred.getD []).length + s.items.length ≤ n) :
    Ends (httpsBody x (some total) fuel deferred w s) p
      (fun r p' => r.2.Consistent p' [] ∧
        p'.handed ++ r.1.getD [] = p.handed ++ deferred.getD [] ++
          s.items.take (total - (p.handed ++ deferred.getD []).length) ∧
        (p.Working n → p'.Working n)) F := by
  induction fuel generalizing w p s deferred with
  | zero => exact absurd hfuel (Nat.not_lt_zero _)
  | succ fuel ih =>
    rw [httpsBody]
    have htotal := h.total
    split_ifs with hdone
    · -- the announced length is there
      refine Ends.pure ⟨h, ?_, id⟩
      have hle : total ≤ w.totalBytes := by simpa using hdone
      rw [List.length_append, Nat.sub_eq_zero_of_le (by omega), List.take_zero, List.append_nil]
    · refine Ends.bind (ends_read _ s (hF.imp_right And.right)) ?_
      rintro ⟨chunk, rest⟩ p ⟨rfl, happend, hitems, hshorter⟩
      dsimp only at happend hitems hshorter ⊢
      split_ifs with hend
      · -- the end of the stream
        refine Ends.pure ⟨h, ?_, id⟩
        rw [hitems hend, List.take_nil, List.append_nil]
      · have hless := hshorter hend
        rw [← happend, List.length_append] at hn
        refine Ends.bind (ends_writePrefix h deferred (hF.imp_right And.left) (by omega)) ?_
        rintro w₁ p₁ ⟨hw₁, hhanded₁, hworking₁⟩
        have htotal₁ := hw₁.total
        rw [← hhanded₁, ← happend]
        have hlen₁ : p₁.handed.length = p.handed.length + (deferred.getD []).length := by
          rw [hhanded₁, List.length_append]
        split_ifs with hzero
        · -- more than announced came with the header
          refine Ends.pure ⟨hw₁, ?_, hworking₁⟩
          have hpos := List.length_pos_iff.2 hend
          have hfull : total - p₁.handed.length = 0 := by omega
          rw [hfull, List.take_zero]
          rfl
        · have htake : (chunk.take (min chunk.length (total - w₁.totalBytes))).length =
              min chunk.length (total - w₁.totalBytes) := by
            rw [List.length_take]
            omega
          refine Ends.bind (hw₁.writeChunk _
            (hF.imp_right fun hp => hworking₁ hp.1) (by omega)) ?_
          rintro w₂ p₂ ⟨hw₂, hhanded₂, hworking₂⟩
          have hlen₂ : p₂.handed.length =
              p₁.handed.length + min chunk.length (total - p₁.handed.length) := by
            rw [hhanded₂, List.length_append, htake, htotal₁]
          refine (ih hw₂ (by omega)
            (hF.imp_right fun hp => ⟨hworking₂ (hworking₁ hp.1), hp.2⟩) ?_).mono ?_
          · simp only [Option.getD_none, List.length_nil]
            omega
          · rintro r p₃ ⟨hw₃, hhanded₃, hworking₃⟩
            refine ⟨hw₃, ?_, fun hp => hworking₃ (hworking₂ (hworking₁ hp))⟩
            simp only [Option.getD_none, List.append_nil] at hhanded₃
            rw [hhanded₃, hlen₂, hhanded₂, htotal₁, List.append_assoc, Nat.sub_add_eq,
              take_append_take]

theorem ends_prepareWriter {total : ℕ}
    (hF : F ∨ p.Working n ∧ total ≤ p.capacity) :
    Ends (prepareWriter (some total)) p
      (fun w p' => w.Consistent p' [] ∧ p'.handed = [] ∧ (p.Working n → p'.Working n)) F := by
  unfold prepareWriter
  refine Ends.bind (Q := fun p₁ p' => p₁ = p ∧ p' = p) ⟨rfl, rfl⟩ ?_
  rintro _ p ⟨rfl, rfl⟩
  dsimp only
  split_ifs with hlarge
  · refine hF.resolve_right fun hp => ?_
    have hlt := hp.2
    simp at hlarge
    omega
  · exact OtaPartitionWriter.ends_new _ (hF.imp_right And.left)

/-- What follows the body. -/
theorem ends_finishImage {image : List UInt8} (h : w.Consistent p []) (hhanded : p.handed = image)
    (hF : F ∨ p.Working n) (hn : image.length + 4 ≤ n) :
    Ends (do
      let w ← w.finish
      return w.totalBytes) p (fun _ p' => p'.Holds image) F := by
  subst hhanded
  refine Ends.bind (h.finish hF (h.room hn)) ?_
  rintro w' p' ⟨-, hholds⟩
  exact Ends.pure hholds

/-- HTTP hands over the whole body, whatever length was announced. -/
theorem ends_receiveHttp {header : HttpResponseHeader} {filled : List UInt8} {s : Source UInt8}
    {total : ℕ} (hlength : header.contentLength = some total)
    (hF : F ∨ p.Working n ∧ x.readError = none ∧ total ≤ p.capacity)
    (hn : ((header.bodyPrefix filled).getD []).length + s.items.length + 4 ≤ n) :
    Ends (receiveHttp x header filled s) p
      (fun _ p' => p'.Holds ((header.bodyPrefix filled).getD [] ++ s.items)) F := by
  unfold receiveHttp
  rw [hlength]
  refine Ends.bind (ends_prepareWriter (hF.imp_right fun hp => ⟨hp.1, hp.2.2⟩)) ?_
  rintro w₁ p₁ ⟨hw₁, hhanded₁, hworking₁⟩
  refine Ends.bind (ends_writePrefix hw₁ _ (hF.imp_right fun hp => hworking₁ hp.1)
    (by rw [hhanded₁, List.length_nil]; omega)) ?_
  rintro w₂ p₂ ⟨hw₂, hhanded₂, hworking₂⟩
  rw [hhanded₁, List.nil_append] at hhanded₂
  refine Ends.bind (ends_httpBody hw₂ (Nat.lt_succ_self _)
    (hF.imp_right fun hp => ⟨hworking₂ (hworking₁ hp.1), hp.2.1⟩) (by rw [hhanded₂]; omega)) ?_
  rintro w₃ p₃ ⟨hw₃, hhanded₃, hworking₃⟩
  rw [hhanded₂] at hhanded₃
  refine ends_finishImage hw₃ hhanded₃
    (hF.imp_right fun hp => hworking₃ (hworking₂ (hworking₁ hp.1))) ?_
  rw [List.length_append]
  omega

/-- HTTPS hands over what came with the header and the rest of the body up to the
announced length. -/
theorem ends_receiveHttps {header : HttpResponseHeader} {filled : List UInt8} {s : Source UInt8}
    {total : ℕ} (hlength : header.contentLength = some total)
    (hF : F ∨ p.Working n ∧ x.readError = none ∧ total ≤ p.capacity)
    (hn : ((header.bodyPrefix filled).getD []).length + s.items.length + 4 ≤ n) :
    Ends (receiveHttps x header filled s) p
      (fun _ p' => p'.Holds ((header.bodyPrefix filled).getD [] ++
        s.items.take (total - ((header.bodyPrefix filled).getD []).length))) F := by
  unfold receiveHttps
  rw [hlength]
  refine Ends.bind (ends_prepareWriter (hF.imp_right fun hp => ⟨hp.1, hp.2.2⟩)) ?_
  rintro w₁ p₁ ⟨hw₁, hhanded₁, hworking₁⟩
  refine Ends.bind (ends_httpsBody hw₁ (Nat.lt_succ_self _)
    (hF.imp_right fun hp => ⟨hworking₁ hp.1, hp.2.1⟩)
    (by rw [hhanded₁, List.length_nil]; omega)) ?_
  rintro ⟨deferred, w₂⟩ p₂ ⟨hw₂, hhanded₂, hworking₂⟩
  rw [hhanded₁, List.nil_append] at hhanded₂
  have hle := congrArg List.length hhanded₂
  have htake := List.length_take_le'
    (total - ((header.bodyPrefix filled).getD []).length) s.items
  simp only [List.length_append] at hle
  refine Ends.bind (ends_writePrefix hw₂ _
    (hF.imp_right fun hp => hworking₂ (hworking₁ hp.1)) (by omega)) ?_
  rintro w₃ p₃ ⟨hw₃, hhanded₃, hworking₃⟩
  rw [hhanded₂] at hhanded₃
  refine ends_finishImage hw₃ hhanded₃
    (hF.imp_right fun hp => hworking₃ (hworking₂ (hworking₁ hp.1))) ?_
  rw [List.length_append]
  omega

end Handed

/-! ## Complete images -/

/-- The header buffer and the stream behind it are what the server sent. -/
theorem fillHeader_append {x : Exchange} {fuel : ℕ} {filled filled' : List UInt8}
    {s s' : Source UInt8} {at_ : Option ℕ}
    (h : fillHeader x fuel filled s = .ok (filled', at_, s')) :
    filled' ++ s'.items = filled ++ s.items ∧ ∀ headerLen, at_ = some headerLen →
      headerLen ≤ filled'.length := by
  induction fuel generalizing filled s with
  | zero =>
    cases h
    exact ⟨rfl, nofun⟩
  | succ fuel ih =>
    rw [fillHeader] at h
    split at h
    · split at h
      · cases h
      · rename_i chunk rest hread
        have hr := Exchange.of_read_eq_ok hread
        have happend := s.read_append (firmwareHttpHeaderBufferSize - filled.length)
        rw [← hr] at happend
        split at h
        · rename_i hend
          cases h
          refine ⟨?_, nofun⟩
          rw [← happend, hend]
          rfl
        · split at h
          · rename_i headerLen hheader
            cases h
            refine ⟨by rw [List.append_assoc, happend], ?_⟩
            rintro _ ⟨⟩
            obtain ⟨at', hat', rfl⟩ := Option.map_eq_some_iff.1 hheader
            exact add_length_le_of_find? hat'
          · obtain ⟨heq, hle⟩ := ih h
            exact ⟨by rw [heq, List.append_assoc, happend], hle⟩
    · cases h
      exact ⟨rfl, nofun⟩

theorem of_parseHttpResponseHeader {filled : List UInt8} {at_ : Option ℕ}
    {header : HttpResponseHeader} (h : parseHttpResponseHeader filled at_ = .ok header) :
    at_ = some header.headerLen ∧ header.bytesFilled = filled.length := by
  unfold parseHttpResponseHeader at h
  split at h
  · cases h
  · split at h
    · cases h
    · split at h
      · cases h
      · split at h
        · cases h
        · cases h
          exact ⟨rfl, rfl⟩

theorem of_readHttpResponseHeader {x : Exchange} {header : HttpResponseHeader}
    {filled : List UInt8} {s : Source UInt8}
    (h : readHttpResponseHeader x = .ok (header, filled, s)) :
    filled ++ s.items = x.source.items ∧ header.headerLen ≤ filled.length ∧
      header.bytesFilled = filled.length := by
  unfold readHttpResponseHeader at h
  cases hfill : fillHeader x firmwareHttpHeaderBufferSize [] x.source with
  | error e =>
    rw [hfill] at h
    cases h
  | ok r =>
    obtain ⟨filled', at_, s'⟩ := r
    rw [hfill] at h
    cases hparse : parseHttpResponseHeader filled' at_ with
    | error e =>
      simp only [bind, Except.bind, hparse] at h
      cases h
    | ok header' =>
      simp only [bind, Except.bind, hparse] at h
      cases h
      obtain ⟨happend, hle⟩ := fillHeader_append hfill
      obtain ⟨hat, hbytes⟩ := of_parseHttpResponseHeader hparse
      exact ⟨happend, hle _ hat, hbytes⟩

/-- `x` answers with a 200 response that announces `n` bytes; `body` is what
follows the header, and `early` bytes of it come with the header. -/
def Answers (x : Exchange) (n : ℕ) (body : List UInt8) (early : ℕ) : Prop :=
  ∃ header filled s, readHttpResponseHeader x = .ok (header, filled, s) ∧
    header.statusCode = 200 ∧ header.contentLength = some n ∧
    body = x.source.items.drop header.headerLen ∧ early = header.bytesFilled - header.headerLen

def openExchange : DownloadUrlScheme → Exchange → ParsedDownloadUrl → Except Str Unit
  | .http => openHttp
  | .https => openHttps

def receiveImage :
    DownloadUrlScheme → Exchange → HttpResponseHeader → List UInt8 → Source UInt8 → OtaM ℕ
  | .http => receiveHttp
  | .https => receiveHttps

def downloadImage : DownloadUrlScheme → ParsedDownloadUrl → List Exchange → OtaM ℕ
  | .http => downloadHttpFirmwareImage
  | .https => downloadHttpsFirmwareImage

def performUpdate : DownloadUrlScheme → UpdateConditions → ParsedDownloadUrl → List Exchange →
    OtaFlash → Except Str ℕ × OtaFlash
  | .http => performHttpFirmwareUpdate
  | .https => performHttpsFirmwareUpdate

theorem downloadImage_eq (scheme : DownloadUrlScheme) (url : ParsedDownloadUrl)
    (exchanges : List Exchange) :
    downloadImage scheme url exchanges = downloadFirmwareImage scheme (openExchange scheme)
      (receiveImage scheme) firmwareSyncMaxRedirects url exchanges := by
  cases scheme <;> rfl

theorem performUpdate_eq (scheme : DownloadUrlScheme) (conditions : UpdateConditions)
    (url : ParsedDownloadUrl) (exchanges : List Exchange) (flash : OtaFlash) :
    performUpdate scheme conditions url exchanges flash =
      performFirmwareUpdate (downloadImage scheme url exchanges) conditions flash := by
  cases scheme <;> rfl

/-- The address a redirect response sends the download to. -/
def followRedirect (scheme : DownloadUrlScheme) (url : ParsedDownloadUrl) (x : Exchange) :
    Option ParsedDownloadUrl :=
  match openExchange scheme x url, readHttpResponseHeader x with
  | .ok (), .ok (header, _, _) =>
    if isRedirect header.statusCode then (redirectUrl scheme header.location).toOption else none
  | _, _ => none

theorem downloadFirmwareImage_followRedirect {scheme : DownloadUrlScheme}
    {url url' : ParsedDownloadUrl} {x : Exchange} (h : followRedirect scheme url x = some url')
    (requests : ℕ) (later : List Exchange) :
    downloadFirmwareImage scheme (openExchange scheme) (receiveImage scheme) (requests + 1) url
        (x :: later) =
      downloadFirmwareImage scheme (openExchange scheme) (receiveImage scheme) requests url'
        later := by
  unfold followRedirect at h
  split at h
  · rename_i header filled s hopen hheader
    split at h
    · rename_i hredirect
      cases hurl : redirectUrl scheme header.location with
      | error e =>
        rw [hurl] at h
        cases h
      | ok url'' =>
        rw [hurl] at h
        cases h
        have hstatus : header.statusCode ≠ 200 := by
          intro hok
          rw [hok] at hredirect
          cases hredirect
        funext p
        rw [downloadFirmwareImage]
        simp only [List.headD_cons, hopen, hheader]
        show (if header.statusCode = 200 then _ else _ : OtaM ℕ) p = _
        rw [if_neg hstatus, if_pos hredirect, hurl]
        rfl
    · cases h
  · cases h

theorem downloadFirmwareImage_redirects {scheme : DownloadUrlScheme} {url url' : ParsedDownloadUrl}
    {redirects : List Exchange} (h : redirects.foldlM (followRedirect scheme) url = some url')
    (requests : ℕ) (later : List Exchange) :
    downloadFirmwareImage scheme (openExchange scheme) (receiveImage scheme)
        (redirects.length + requests) url (redirects ++ later) =
      downloadFirmwareImage scheme (openExchange scheme) (receiveImage scheme) requests url'
        later := by
  induction redirects generalizing url with
  | nil =>
    cases h
    rw [List.length_nil, Nat.zero_add, List.nil_append]
  | cons x redirects ih =>
    rw [List.foldlM_cons] at h
    obtain ⟨url'', hurl, hrest⟩ := Option.bind_eq_some_iff.1 h
    rw [List.length_cons, Nat.add_right_comm, List.cons_append,
      downloadFirmwareImage_followRedirect hurl, ih hrest]

/-- The bytes of the body each transport hands over. -/
def delivered (scheme : DownloadUrlScheme) (n : ℕ) (body : List UInt8) (early : ℕ) : List UInt8 :=
  match scheme with
  | .http => body
  | .https => body.take early ++ (body.drop early).take (n - early)

/-- A download that reaches a 200 response holds what its transport delivers. -/
theorem ends_downloadImage {F : Prop} {scheme : DownloadUrlScheme} {url url' : ParsedDownloadUrl}
    {redirects : List Exchange} {x : Exchange} {n early : ℕ} {body : List UInt8}
    {p : OtaPartition} (hredirects : redirects.foldlM (followRedirect scheme) url = some url')
    (hcount : redirects.length < firmwareSyncMaxRedirects)
    (hopen : openExchange scheme x url' = .ok ()) (hanswers : Answers x n body early)
    (later : List Exchange)
    (hF : F ∨ p.Working (body.length + 4) ∧ x.readError = none ∧ n ≤ p.capacity) :
    Ends (downloadImage scheme url (redirects ++ x :: later)) p
      (fun _ p' => p'.Holds (delivered scheme n body early)) F := by
  obtain ⟨header, filled, s, hheader, hstatus, hlength, rfl, rfl⟩ := hanswers
  obtain ⟨happend, hle, hbytes⟩ := of_readHttpResponseHeader hheader
  obtain ⟨requests, hrequests⟩ : ∃ k, firmwareSyncMaxRedirects = redirects.length + (k + 1) :=
    ⟨firmwareSyncMaxRedirects - redirects.length - 1, by omega⟩
  rw [downloadImage_eq, hrequests, downloadFirmwareImage_redirects hredirects]
  have hstarts : (header.bodyPrefix filled).getD [] = filled.drop header.headerLen := by
    unfold HttpResponseHeader.bodyPrefix
    split
    · rfl
    · rw [List.drop_eq_nil_of_le (by omega)]
      rfl
  have hbody : x.source.items.drop header.headerLen = filled.drop header.headerLen ++ s.items := by
    rw [← happend, List.drop_append_of_le_length hle]
  have hearly : header.bytesFilled - header.headerLen = (filled.drop header.headerLen).length := by
    rw [List.length_drop, hbytes]
  have hreceive : downloadFirmwareImage scheme (openExchange scheme) (receiveImage scheme)
      (requests + 1) url' (x :: later) = receiveImage scheme x header filled s := by
    funext p
    rw [downloadFirmwareImage]
    simp only [List.headD_cons, hopen, hheader]
    show (if header.statusCode = 200 then _ else _ : OtaM ℕ) p = _
    rw [if_pos hstatus]
  rw [hreceive]
  rw [hbody, List.length_append] at hF
  rw [hbody, hearly]
  cases scheme with
  | http =>
    have hends := ends_receiveHttp (s := s) hlength hF (by rw [hstarts])
    rw [hstarts] at hends
    exact hends
  | https =>
    have hends := ends_receiveHttps (s := s) hlength hF (by rw [hstarts])
    rw [hstarts] at hends
    simp only [delivered, List.take_left, List.drop_left]
    exact hends

/-- Exactly `n` bytes were handed over, the first of the body. -/
def Complete (n : ℕ) (body handed : List UInt8) : Prop := handed.length = n ∧ handed = body.take n

/-- Success, and activation, only with a complete image: on every partition and
every flash. -/
def CompleteOnly (scheme : DownloadUrlScheme) (url : ParsedDownloadUrl) (exchanges : List Exchange)
    (n : ℕ) (body : List UInt8) : Prop :=
  (∀ p bytesWritten p', downloadImage scheme url exchanges p = .ok bytesWritten p' →
      Complete n body p'.handed) ∧
    ∀ conditions flash, let r := performUpdate scheme conditions url exchanges flash
      r.2.selected ≠ flash.selected → Complete n body (r.2.slots r.2.selected).handed

/-- Over HTTP the body has exactly the announced length; over HTTPS it has at least
that, and no more than that comes with the header. -/
def LengthMatches (scheme : DownloadUrlScheme) (n : ℕ) (body : List UInt8) (early : ℕ) : Prop :=
  match scheme with
  | .http => body.length = n
  | .https => early ≤ n ∧ n ≤ body.length

theorem complete_delivered_iff {scheme : DownloadUrlScheme} {n early : ℕ} {body : List UInt8}
    (hearly : early ≤ body.length) :
    Complete n body (delivered scheme n body early) ↔ LengthMatches scheme n body early := by
  unfold Complete LengthMatches
  cases scheme with
  | http =>
    simp only [delivered]
    refine ⟨And.left, fun h => ⟨h, ?_⟩⟩
    rw [List.take_of_length_le h.le]
  | https =>
    simp only [delivered]
    rcases Nat.le_total early n with hle | hle
    · have htake : body.take early ++ (body.drop early).take (n - early) = body.take n := by
        rw [← List.take_add, Nat.add_sub_of_le hle]
      rw [htake, List.length_take]
      constructor
      · rintro ⟨hlen, _⟩
        omega
      · rintro ⟨_, hlen⟩
        exact ⟨by omega, rfl⟩
    · rw [Nat.sub_eq_zero_of_le hle, List.take_zero, List.append_nil, List.length_take]
      constructor
      · rintro ⟨hlen, _⟩
        omega
      · rintro ⟨hle', hlen⟩
        have heq : early = n := Nat.le_antisymm hle' hle
        rw [heq]
        exact ⟨by omega, rfl⟩

theorem early_le_of_answers {x : Exchange} {n early : ℕ} {body : List UInt8}
    (h : Answers x n body early) : early ≤ body.length := by
  obtain ⟨header, filled, s, hheader, _, _, rfl, rfl⟩ := h
  obtain ⟨happend, _, hbytes⟩ := of_readHttpResponseHeader hheader
  rw [List.length_drop, ← happend, List.length_append]
  omega

/-- The slot selected changes only when the download succeeded, and then it is the
slot that was written. -/
theorem selected_performFirmwareUpdate {download : OtaM ℕ} {conditions : UpdateConditions}
    {flash : OtaFlash}
    (h : (performFirmwareUpdate download conditions flash).2.selected ≠ flash.selected) :
    ∃ bytesWritten p, download (flash.slots flash.selected.next) = .ok bytesWritten p ∧
      (performFirmwareUpdate download conditions flash).2 =
        { selected := flash.selected.next
          slots := Function.update flash.slots flash.selected.next p } := by
  unfold performFirmwareUpdate at h ⊢
  split at h
  · exact absurd rfl h
  · exact absurd rfl h
  · split at h
    · exact absurd rfl h
    · split at h
      · exact absurd rfl h
      · rename_i hlayout hnext
        rw [if_neg hlayout, if_neg hnext]
        dsimp only at h ⊢
        cases hdownload : download (flash.slots flash.selected.next) with
        | error e p =>
          rw [hdownload] at h
          exact absurd rfl h
        | ok bytesWritten p =>
          rw [hdownload] at h
          dsimp only at h ⊢
          split at h
          · exact absurd rfl h
          · rename_i hactivates
            rw [if_neg hactivates]
            exact ⟨bytesWritten, p, rfl, rfl⟩

/-- A response leads to complete images only when its length matches. -/
theorem completeOnly_iff (scheme : DownloadUrlScheme) (url url' : ParsedDownloadUrl)
    (redirects : List Exchange) {x : Exchange} {n early : ℕ} {body : List UInt8}
    (hredirects : redirects.foldlM (followRedirect scheme) url = some url')
    (hcount : redirects.length < firmwareSyncMaxRedirects)
    (hopen : openExchange scheme x url' = .ok ()) (hread : x.readError = none)
    (hanswers : Answers x n body early) (later : List Exchange) :
    CompleteOnly scheme url (redirects ++ x :: later) n body ↔
      LengthMatches scheme n body early := by
  rw [← complete_delivered_iff (early_le_of_answers hanswers)]
  constructor
  · -- a partition with room for everything
    intro hall
    let p : OtaPartition := { capacity := body.length + 4 + n }
    have hworking : p.Working (body.length + 4) := ⟨rfl, Nat.le_add_right _ _⟩
    obtain ⟨bytesWritten, p', hok, hholds⟩ := (ends_downloadImage (F := False) hredirects hcount
      hopen hanswers later (.inr ⟨hworking, hread, Nat.le_add_left _ _⟩)).exists_ok
    have hcomplete := hall.1 p bytesWritten p' hok
    rwa [hholds.handed] at hcomplete
  · intro hcomplete
    have hdownload : ∀ p bytesWritten p',
        downloadImage scheme url (redirects ++ x :: later) p = .ok bytesWritten p' →
        Complete n body p'.handed := by
      intro p bytesWritten p' hok
      have hholds := (ends_downloadImage hredirects hcount hopen hanswers later
        (.inl trivial)).of_ok hok
      rwa [hholds.handed]
    refine ⟨hdownload, fun conditions flash => ?_⟩
    rw [performUpdate_eq]
    intro r hselected
    obtain ⟨bytesWritten, p, hok, heq⟩ := selected_performFirmwareUpdate hselected
    have hslot : (r.2.slots r.2.selected).handed = p.handed := by
      rw [show r.2 = _ from heq]
      exact congrArg OtaPartition.handed (Function.update_self _ _ _)
    rw [hslot]
    exact hdownload _ _ _ hok

/-- An HTTP server at a fixed address. -/
def imageUrl : ParsedDownloadUrl :=
  { scheme := .http, host := "10.0.0.9", port := 80, path := "/fw.bin" }

/-- It announces eight bytes and sends `body`, the first two bytes with the header. -/
def imageResponse (body : List UInt8) : Exchange :=
  { connected := true, requested := true
    source :=
      { items := toUtf8 "HTTP/1.1 200 OK\r\nContent-Length: 8\r\n\r\n" ++ body
        pieces := [40, 4] } }

def imageHeader : HttpResponseHeader :=
  { statusCode := 200, contentLength := some 8, location := none, headerLen := 38
    bytesFilled := 40 }

theorem completeOnly_of_whole_image :
    CompleteOnly .http imageUrl [imageResponse [1, 2, 3, 4, 5, 6, 7, 8]] 8
      [1, 2, 3, 4, 5, 6, 7, 8] := by
  have hanswers : Answers (imageResponse [1, 2, 3, 4, 5, 6, 7, 8]) 8 [1, 2, 3, 4, 5, 6, 7, 8] 2 :=
    ⟨imageHeader, (imageResponse [1, 2, 3, 4, 5, 6, 7, 8]).source.items.take 40,
      ⟨[3, 4, 5, 6, 7, 8], [4]⟩, by decide +kernel, rfl, rfl, by decide +kernel, rfl⟩
  have hiff := completeOnly_iff .http imageUrl imageUrl [] rfl (by decide) (by decide +kernel) rfl
    hanswers []
  exact hiff.2 rfl

/-- The server closes after three of eight bytes: the download succeeds and the
truncated image is activated. -/
theorem truncated_image_activated :
    ¬ CompleteOnly .http imageUrl [imageResponse [1, 2, 3]] 8 [1, 2, 3] ∧
      (performUpdate .http ⟨some true, true, true, true⟩ imageUrl [imageResponse [1, 2, 3]]
        { selected := .ota0, slots := fun _ => { capacity := 4096 } }).2.selected = .ota1 := by
  refine ⟨?_, by decide +kernel⟩
  rintro ⟨hdownload, _⟩
  have hok : downloadImage .http imageUrl [imageResponse [1, 2, 3]] { capacity := 4096 } =
      .ok 3 { capacity := 4096, ops := [.erase 4096, .write 0 [1, 2, 3, 0xFF]]
              handed := [1, 2, 3] } := by decide +kernel
  exact absurd (hdownload _ _ _ hok).1 (by decide)

end EspWaveRider.Firmware
