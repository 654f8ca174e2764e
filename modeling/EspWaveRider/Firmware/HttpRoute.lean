import EspWaveRider.Lib.Bounded
import EspWaveRider.Lib.LineBuffer
import EspWaveRider.Lib.Utf8

/-!
# Reading a request

`read_http_route` of `rust/firmware/esp32s3/src/main.rs` and its parts: the bytes of a request come
in several reads, and after each one the whole buffer is looked at again.

* `readHttpRoute`, `parseHttpRoute`, `parseContentLength`, `findHttpHeaderEnd` — the functions;
* `HttpMessage` — a request with one `Content-Length`;
* `readHttpRoute_cons` — one read;
* `readHttpRoute_of_text`, `readHttpRoute_of_no_text` — all of them;
* `packetIndependent_iff` — when they give what one read of the whole request gives.
-/

namespace EspWaveRider.Firmware

open Text LineBuffer

inductive HttpRoute where
  | rootPage
  | snapshot
  | command (text : HString 256)
  deriving DecidableEq

def httpResponse (status contentType body : Str) : Str :=
  "HTTP/1.1 " ++ status ++ "\r\nContent-Type: " ++ contentType ++ "\r\nContent-Length: " ++
    decimal (min (utf8Len body) 4294967295) ++
    "\r\nConnection: close\r\nCache-Control: no-store\r\nAccess-Control-Allow-Origin: *\r\n\r\n" ++ body

/-- An error, with its code. -/
def httpError (status code : Str) : Str :=
  httpResponse status "application/json" ("\x7b\"error\":\"" ++ code ++ "\"\x7d")

def usizeMax : ℕ := 4294967295

/-! ## Lines -/

/-- Without a carriage return at the end. -/
def dropReturn (line : Str) : Str := if line.getLast? = some '\r' then line.dropLast else line

/-- What comes after the last line feed. -/
def openLine (s : Str) : Str := (s.splitOn '\n').getLast?.getD []

/-- `str::lines`. -/
def lines (s : Str) : List Str :=
  (endedLines '\n' s).map dropReturn ++ if openLine s = [] then [] else [openLine s]

/-! ## The functions -/

def findHttpHeaderEnd (buffer : List UInt8) : Option ℕ := find? [0x0D, 0x0A, 0x0D, 0x0A] buffer

/-- The loop of `parse_content_length`. -/
def contentLengthOf : List Str → Option ℕ
  | [] => none
  | line :: rest =>
    match splitOnce ":" line with
    | none => contentLengthOf rest
    | some (name, value) =>
      if eqIgnoreAsciiCase name "Content-Length" then parseUnsigned usizeMax (trim value)
      else contentLengthOf rest

def parseContentLength (request : Str) : Option ℕ := contentLengthOf (lines request)

/-- `from_utf8` of the first `n` bytes of a text. -/
def textPrefix : ℕ → Str → Option Str
  | _, [] => some []
  | n, c :: s =>
    if n = 0 then some []
    else if c.utf8Size ≤ n then (textPrefix (n - c.utf8Size) s).map (c :: ·)
    else none

/-- The branch of `POST /api/command`. -/
def parseCommandBody (body : Str) (contentLength : ℕ) : Except Str HttpRoute :=
  match textPrefix (min contentLength (utf8Len body)) body with
  | none => .error (httpError "400 Bad Request" "http_invalid_command_utf8")
  | some command =>
    let trimmed := trim command
    if trimmed = [] then .error (httpError "400 Bad Request" "http_empty_command")
    else match (Bounded.empty : HString 256).extend trimmed with
      | none => .error (httpError "413 Payload Too Large" "http_command_too_large")
      | some commandText => .ok (.command commandText)

def parseHttpRoute (request : Str) (contentLength : ℕ) : Except Str HttpRoute :=
  match splitOnce "\r\n\r\n" request with
  | none => .error (httpError "400 Bad Request" "http_malformed_request")
  | some (head, body) =>
    match (lines head).head? with
    | none => .error (httpError "400 Bad Request" "http_missing_request_line")
    | some requestLine =>
      let parts := splitWhitespace requestLine
      let method := parts.getD 0 []
      let path := parts.getD 1 []
      if method = "GET" ∧ (path = "/" ∨ path = "/index.html") then .ok .rootPage
      else if method = "GET" ∧ (path = "/api/snapshot" ∨ path = "/api/status") then .ok .snapshot
      else if method = "POST" ∧ path = "/api/command" then parseCommandBody body contentLength
      else if method = "GET" then .ok .rootPage
      else .error (httpError "404 Not Found" "http_not_found")

/-- The loop, with what is in the buffer and what the peer has still to send.  A read fails or asks
for a number of bytes; `none` says that the function waits for the next one. -/
def readHttpRoute (buffer stream : List UInt8) (reads : List (Option ℕ)) :
    Option (Except Str HttpRoute) :=
  if buffer.length ≥ 1024 then some (.error (httpError "413 Payload Too Large" "http_request_too_large"))
  else match reads with
    | [] => none
    | none :: _ => some (.error (httpError "400 Bad Request" "http_read_failed"))
    | some size :: reads =>
      let read := stream.take (min size (1024 - buffer.length))
      if read = [] then some (.error (httpError "400 Bad Request" "http_empty_request"))
      else
        let buffer := buffer ++ read
        match findHttpHeaderEnd buffer with
        | none => readHttpRoute buffer (stream.drop read.length) reads
        | some headerEnd =>
          match fromUtf8 buffer with
          | none => some (.error (httpError "400 Bad Request" "http_invalid_utf8"))
          | some request =>
            let contentLength := (parseContentLength request).getD 0
            let bodyStart := headerEnd + 4
            if buffer.length < (bodyStart + contentLength) % (usizeMax + 1) then
              readHttpRoute buffer (stream.drop read.length) reads
            else some (parseHttpRoute request contentLength)

/-! ## Requests -/

/-- The line of a header and the length it states. -/
def IsContentLength (length : ℕ) (line : Str) : Prop := ∃ name value, splitOnce ":" line = some (name, value) ∧
  eqIgnoreAsciiCase name "Content-Length" = true ∧ parseUnsigned usizeMax (trim value) = some length

/-- The name of the line is not `Content-Length`. -/
def IsOtherLine (line : Str) : Prop := ∀ name value, splitOnce ":" line = some (name, value) →
  eqIgnoreAsciiCase name "Content-Length" = false

/-- Request line and header, and a body of the length that the header states. -/
structure HttpMessage where
  lines : List (List UInt8)
  body : List UInt8

namespace HttpMessage

def head (r : HttpMessage) : List UInt8 := joinLines 0x0D 0x0A r.lines

def bytes (r : HttpMessage) : List UInt8 := r.head ++ 0x0D :: 0x0A :: r.body

/-- Where the body starts. -/
def bodyStart (r : HttpMessage) : ℕ := r.head.length + 2

structure WellFormed (r : HttpMessage) : Prop where
  lines_ne : r.lines ≠ []
  line : ∀ line ∈ r.lines, line ≠ [] ∧ 0x0D ∉ line ∧ 0x0A ∉ line
  contentLength : ∀ texts, r.lines.mapM fromUtf8 = some texts → ∃ before field after,
    texts = before ++ field :: after ∧ IsContentLength r.body.length field ∧
      ∀ line ∈ before ++ after, IsOtherLine line
  body_text : (fromUtf8 r.body).isSome
  length_le : r.bytes.length ≤ 1023

end HttpMessage

/-! ## What the text of a request says -/

theorem exists_of_mem_mapM {ls : List (List UInt8)} {texts : List Str}
    (h : ls.mapM fromUtf8 = some texts) {text : Str} (hmem : text ∈ texts) :
    ∃ line ∈ ls, fromUtf8 line = some text := by
  induction ls generalizing texts with
  | nil =>
    rw [List.mapM_nil] at h
    rw [← Option.some.inj h] at hmem
    exact absurd hmem List.not_mem_nil
  | cons line ls ih =>
    rw [List.mapM_cons] at h
    obtain ⟨first, hfirst, h⟩ := Option.bind_eq_some_iff.1 h
    obtain ⟨rest, hrest, h⟩ := Option.bind_eq_some_iff.1 h
    rw [← Option.some.inj h] at hmem
    rcases List.mem_cons.1 hmem with rfl | hmem
    · exact ⟨line, List.mem_cons_self .., hfirst⟩
    · obtain ⟨l, hl, htext⟩ := ih hrest hmem
      exact ⟨l, List.mem_cons_of_mem _ hl, htext⟩

/-- The lines of the head as text. -/
theorem HttpMessage.WellFormed.text {r : HttpMessage} (h : r.WellFormed) {texts : List Str}
    (htexts : r.lines.mapM fromUtf8 = some texts) :
    ∀ text ∈ texts, text ≠ [] ∧ '\r' ∉ text ∧ '\n' ∉ text := by
  intro text hmem
  obtain ⟨line, hline, hdecoded⟩ := exists_of_mem_mapM htexts hmem
  obtain ⟨hne, hreturn, hfeed⟩ := h.line line hline
  refine ⟨?_, fun hc => hreturn (mem_of_fromUtf8 hdecoded hc (by decide)),
    fun hc => hfeed (mem_of_fromUtf8 hdecoded hc (by decide))⟩
  rintro rfl
  exact hne (List.length_eq_zero_iff.1 (utf8Len_of_fromUtf8 hdecoded).symm)

theorem lines_append_cons {text : Str} (h : '\n' ∉ text) (rest : Str) :
    lines (text ++ '\r' :: '\n' :: rest) = text :: lines rest := by
  have hfeed : '\n' ∉ text ++ ['\r'] := by simpa using h
  have happend : text ++ '\r' :: '\n' :: rest = (text ++ ['\r']) ++ '\n' :: rest := by simp
  have hopen : openLine ((text ++ ['\r']) ++ '\n' :: rest) = openLine rest := by
    rw [openLine, openLine, List.splitOn_append_cons_self_of_not_mem hfeed,
      List.getLast?_cons_of_ne_nil (List.splitOn_ne_nil _ _)]
  have hdrop : dropReturn (text ++ ['\r']) = text := by
    rw [dropReturn, List.getLast?_concat, if_pos rfl, List.dropLast_concat]
  rw [happend, lines, lines, hopen, endedLines_append_cons hfeed, List.map_cons, hdrop,
    List.cons_append]

theorem lines_joinLines {texts : List Str} (h : ∀ text ∈ texts, '\n' ∉ text) (rest : Str) :
    lines (joinLines '\r' '\n' texts ++ rest) = texts ++ lines rest := by
  induction texts with
  | nil => rfl
  | cons text texts ih =>
    rw [joinLines_cons, List.append_assoc, List.cons_append, List.cons_append,
      lines_append_cons (h text (List.mem_cons_self ..)),
      ih fun t ht => h t (List.mem_cons_of_mem _ ht), List.cons_append]

/-- The scan passes the other lines. -/
theorem contentLengthOf_append {before : List Str} (h : ∀ line ∈ before, IsOtherLine line)
    (rest : List Str) : contentLengthOf (before ++ rest) = contentLengthOf rest := by
  induction before with
  | nil => rfl
  | cons line before ih =>
    have hrest := ih fun l hl => h l (List.mem_cons_of_mem _ hl)
    rw [List.cons_append, contentLengthOf, hrest]
    cases hsplit : splitOnce ":" line with
    | none => rfl
    | some parts =>
      have hname := h line (List.mem_cons_self ..) parts.1 parts.2 hsplit
      dsimp only
      rw [hname]
      rfl

theorem contentLengthOf_cons {length : ℕ} {field : Str} (h : IsContentLength length field)
    (rest : List Str) : contentLengthOf (field :: rest) = some length := by
  obtain ⟨name, value, hsplit, hname, hvalue⟩ := h
  rw [contentLengthOf, hsplit]
  dsimp only
  rw [if_pos hname, hvalue]

namespace HttpMessage

/-- As soon as the head is there, its length is found, whatever there is of the body. -/
theorem WellFormed.parseContentLength_eq {r : HttpMessage} (h : r.WellFormed) {texts : List Str}
    (htexts : r.lines.mapM fromUtf8 = some texts) (part : Str) :
    parseContentLength (joinLines '\r' '\n' texts ++ '\r' :: '\n' :: part) = some r.body.length := by
  obtain ⟨before, field, after, happend, hfield, hother⟩ := h.contentLength texts htexts
  have hfeed : ∀ text ∈ texts, '\n' ∉ text := fun text hmem => (h.text htexts text hmem).2.2
  rw [parseContentLength, lines_joinLines hfeed, happend, List.append_assoc,
    contentLengthOf_append fun line hline => hother line (List.mem_append_left _ hline),
    List.cons_append, contentLengthOf_cons hfield]

/-! ## One read -/

theorem length_bytes (r : HttpMessage) : r.bytes.length = r.bodyStart + r.body.length := by
  rw [bytes, bodyStart, List.length_append, List.length_cons, List.length_cons]
  omega

/-- What has come when the body has begun. -/
theorem take_bytes (r : HttpMessage) {end_ : ℕ} (h : r.bodyStart ≤ end_) :
    r.bytes.take end_ = r.head ++ 0x0D :: 0x0A :: r.body.take (end_ - r.bodyStart) := by
  obtain ⟨part, rfl⟩ := Nat.exists_eq_add_of_le h
  have hlength : r.bodyStart + part = r.head.length + (part + 2) := by
    rw [bodyStart]
    omega
  rw [Nat.add_sub_cancel_left, bytes, hlength, List.take_length_add_append]
  rfl

theorem fromUtf8_take (r : HttpMessage) {end_ : ℕ} (h : r.bodyStart ≤ end_) :
    fromUtf8 (r.bytes.take end_) = (r.lines.mapM fromUtf8).bind fun texts =>
      (fromUtf8 (r.body.take (end_ - r.bodyStart))).map fun part =>
        joinLines '\r' '\n' texts ++ '\r' :: '\n' :: part := by
  rw [r.take_bytes h, head, fromUtf8_joinLines, fromUtf8_ascii_cons (by decide),
    fromUtf8_ascii_cons (by decide)]
  cases r.lines.mapM fromUtf8 with
  | none => rfl
  | some texts =>
    cases fromUtf8 (r.body.take (end_ - r.bodyStart)) with
    | none => rfl
    | some part => rfl

/-- The text of the whole request, by its lines. -/
theorem fromUtf8_bytes (r : HttpMessage) : fromUtf8 r.bytes = (r.lines.mapM fromUtf8).bind fun texts =>
    (fromUtf8 r.body).map fun body => joinLines '\r' '\n' texts ++ '\r' :: '\n' :: body := by
  have hbytes := r.fromUtf8_take (Nat.le_add_right r.bodyStart r.body.length)
  rwa [Nat.add_sub_cancel_left, List.take_length, ← r.length_bytes, List.take_length] at hbytes

theorem two_le_length_head {r : HttpMessage} (h : r.WellFormed) : 2 ≤ r.head.length := by
  obtain ⟨line, lines, hlines⟩ := List.exists_cons_of_ne_nil h.lines_ne
  rw [head, hlines, joinLines_cons, List.length_append, List.length_cons, List.length_cons]
  omega

theorem WellFormed.length_pos {r : HttpMessage} (h : r.WellFormed) : 0 < r.bytes.length := by
  have hlines := two_le_length_head h
  rw [length_bytes, bodyStart]
  omega

/-- The end of the head is found when it is there, and not before. -/
theorem findHttpHeaderEnd_take {r : HttpMessage} (h : r.WellFormed) (end_ : ℕ) :
    findHttpHeaderEnd (r.bytes.take end_) =
      if r.bodyStart ≤ end_ then some (r.bodyStart - 4) else none := by
  have hline (line : List UInt8) (hmem : line ∈ r.lines) : line ≠ [] ∧ 0x0D ∉ line :=
    ⟨(h.line line hmem).1, (h.line line hmem).2.1⟩
  have hfind (rest : List UInt8) :
      findHttpHeaderEnd (r.head ++ 0x0D :: 0x0A :: rest) = some (r.head.length - 2) :=
    find?_blankLine (by decide) h.lines_ne hline rest
  split
  case isTrue hstarted =>
    rw [r.take_bytes hstarted, hfind, bodyStart]
    rfl
  case isFalse hbefore =>
    have htwo := two_le_length_head h
    refine find?_take_eq_none (hfind r.body) ?_
    rw [bodyStart] at hbefore
    simp only [List.length_cons, List.length_nil]
    omega

/-- A read that ends at `end_`. -/
theorem readHttpRoute_cons {r : HttpMessage} (h : r.WellFormed) {start size : ℕ} (hsize : 0 < size)
    (hend : start + size ≤ r.bytes.length) (reads : List (Option ℕ)) :
    readHttpRoute (r.bytes.take start) (r.bytes.drop start) (some size :: reads) =
      if r.bodyStart ≤ start + size then
        match fromUtf8 (r.bytes.take (start + size)) with
        | none => some (.error (httpError "400 Bad Request" "http_invalid_utf8"))
        | some request =>
          if start + size < r.bytes.length then
            readHttpRoute (r.bytes.take (start + size)) (r.bytes.drop (start + size)) reads
          else some (parseHttpRoute request r.body.length)
      else readHttpRoute (r.bytes.take (start + size)) (r.bytes.drop (start + size)) reads := by
  have hlength := h.length_le
  have hstart : (r.bytes.take start).length = start := by
    rw [List.length_take]
    omega
  have hsizeMin : min size (1024 - start) = size := by omega
  have hread : ((r.bytes.drop start).take size).length = size := by
    rw [List.length_take, List.length_drop]
    omega
  have hne : (r.bytes.drop start).take size ≠ [] := by
    intro hnil
    rw [hnil, List.length_nil] at hread
    omega
  have htake : r.bytes.take start ++ (r.bytes.drop start).take size = r.bytes.take (start + size) :=
    List.take_add.symm
  have hend' : (r.bytes.take (start + size)).length = start + size := by
    rw [List.length_take]
    omega
  rw [readHttpRoute, hstart, if_neg (by omega)]
  dsimp only
  rw [hsizeMin, if_neg hne, hread, htake, List.drop_drop, findHttpHeaderEnd_take h, hend']
  by_cases hstarted : r.bodyStart ≤ start + size
  case neg =>
    rw [if_neg hstarted, if_neg hstarted]
  case pos =>
    rw [if_pos hstarted, if_pos hstarted]
    dsimp only
    cases hrequest : fromUtf8 (r.bytes.take (start + size)) with
    | none => rfl
    | some request =>
      rw [r.fromUtf8_take hstarted] at hrequest
      obtain ⟨texts, htexts, hpart⟩ := Option.bind_eq_some_iff.1 hrequest
      obtain ⟨part, -, rfl⟩ := Option.map_eq_some_iff.1 hpart
      have htwo := two_le_length_head h
      have htotal := r.length_bytes
      have hwhole : (r.bodyStart - 4 + 4 + r.body.length) % (usizeMax + 1) = r.bytes.length := by
        rw [bodyStart] at htotal ⊢
        rw [usizeMax]
        omega
      dsimp only
      rw [h.parseContentLength_eq htexts, Option.getD_some, hwhole]

/-! ## All reads -/

/-- Where each read ends. -/
def readEnds (start : ℕ) : List ℕ → List ℕ
  | [] => []
  | size :: sizes => (start + size) :: readEnds (start + size) sizes

/-- The bytes from `start` on come in reads of these sizes. -/
structure Divides (r : HttpMessage) (start : ℕ) (sizes : List ℕ) : Prop where
  pos : ∀ size ∈ sizes, 0 < size
  total : start + sizes.sum = r.bytes.length

variable {r : HttpMessage} {start size : ℕ} {sizes : List ℕ}

theorem Divides.tail (h : r.Divides start (size :: sizes)) : r.Divides (start + size) sizes where
  pos s hs := h.pos s (List.mem_cons_of_mem _ hs)
  total := by rw [Nat.add_assoc, ← List.sum_cons, h.total]

theorem Divides.end_le (h : r.Divides start (size :: sizes)) : start + size ≤ r.bytes.length := by
  have htotal := h.tail.total
  omega

theorem Divides.start_lt_of_mem (h : r.Divides start sizes) {end_ : ℕ} (hmem : end_ ∈ readEnds start sizes) :
    start < r.bytes.length := by
  have htotal := h.total
  cases sizes with
  | nil => exact absurd hmem List.not_mem_nil
  | cons size sizes =>
    have hsize := h.pos size (List.mem_cons_self ..)
    rw [List.sum_cons] at htotal
    omega

theorem Divides.length_mem (h : r.Divides start sizes) (hlt : start < r.bytes.length) :
    r.bytes.length ∈ readEnds start sizes := by
  induction sizes generalizing start with
  | nil =>
    have htotal := h.total
    rw [List.sum_nil] at htotal
    omega
  | cons size sizes ih =>
    rcases h.end_le.eq_or_lt with heq | hlt
    · rw [readEnds, heq]
      exact List.mem_cons_self ..
    · exact List.mem_cons_of_mem _ (ih h.tail hlt)

/-- When what has come is a text after each read, the whole request is parsed. -/
theorem readHttpRoute_of_text (h : r.WellFormed) {request : Str} (hrequest : fromUtf8 r.bytes = some request)
    (hdiv : r.Divides start sizes) (hlt : start < r.bytes.length)
    (htext : ∀ end_ ∈ readEnds start sizes, r.bodyStart ≤ end_ → fromUtf8 (r.bytes.take end_) ≠ none) :
    readHttpRoute (r.bytes.take start) (r.bytes.drop start) (sizes.map some) =
      some (parseHttpRoute request r.body.length) := by
  induction sizes generalizing start with
  | nil =>
    have htotal := hdiv.total
    rw [List.sum_nil] at htotal
    omega
  | cons size sizes ih =>
    have hrest := fun hlt => ih hdiv.tail hlt fun end_ hmem => htext end_ (List.mem_cons_of_mem _ hmem)
    rw [List.map_cons, readHttpRoute_cons h (hdiv.pos size (List.mem_cons_self ..)) hdiv.end_le]
    by_cases hstarted : r.bodyStart ≤ start + size
    case neg =>
      have htotal := r.length_bytes
      rw [if_neg hstarted, hrest (by omega)]
    case pos =>
      rw [if_pos hstarted]
      cases hread : fromUtf8 (r.bytes.take (start + size)) with
      | none => exact absurd hread (htext _ (List.mem_cons_self ..) hstarted)
      | some text =>
        dsimp only
        rcases hdiv.end_le.eq_or_lt with heq | hlt
        · rw [heq, List.take_length, hrequest] at hread
          rw [if_neg heq.not_lt, Option.some.inj hread]
        · rw [if_pos hlt, hrest hlt]

/-- When what has come is no text after some read, the request is refused, then or before. -/
theorem readHttpRoute_of_no_text (h : r.WellFormed) (hdiv : r.Divides start sizes) {end_ : ℕ}
    (hmem : end_ ∈ readEnds start sizes) (hend : r.bodyStart ≤ end_)
    (hnone : fromUtf8 (r.bytes.take end_) = none) :
    readHttpRoute (r.bytes.take start) (r.bytes.drop start) (sizes.map some) =
      some (.error (httpError "400 Bad Request" "http_invalid_utf8")) := by
  induction sizes generalizing start with
  | nil => exact absurd hmem List.not_mem_nil
  | cons size sizes ih =>
    rw [List.map_cons, readHttpRoute_cons h (hdiv.pos size (List.mem_cons_self ..)) hdiv.end_le]
    rcases List.mem_cons.1 hmem with rfl | hmem
    · rw [if_pos hend, hnone]
    · have hlt := hdiv.tail.start_lt_of_mem hmem
      simp only [ih hdiv.tail hmem, if_pos hlt]
      split
      case isFalse => rfl
      case isTrue =>
        cases fromUtf8 (r.bytes.take (start + size)) with
        | none => rfl
        | some text => rfl

/-! ## The command -/

theorem textPrefix_utf8Len (s : Str) : textPrefix (utf8Len s) s = some s := by
  induction s with
  | nil => rfl
  | cons c s ih =>
    have hpos := Char.utf8Size_pos c
    rw [utf8Len_cons, textPrefix, if_neg (by omega), if_pos (by omega), Nat.add_sub_cancel_left, ih]
    rfl

theorem items_of_parseCommandBody {body : Str} {command : HString 256}
    (h : parseCommandBody body (utf8Len body) = .ok (.command command)) : command.items = trim body := by
  rw [parseCommandBody, min_self, textPrefix_utf8Len] at h
  dsimp only at h
  split at h
  case isTrue => cases h
  case isFalse =>
    split at h
    case h_1 => cases h
    case h_2 commandText hextend =>
      obtain rfl : commandText = command := by
        injection h with h
        injection h
      rw [Bounded.items_of_extend hextend, Bounded.items_empty, List.nil_append]

/-- The blank line ends the head. -/
theorem splitOnce_blankLine {texts : List Str} (hne : texts ≠ [])
    (htext : ∀ text ∈ texts, text ≠ [] ∧ '\r' ∉ text) (body : Str) :
    ∃ head, splitOnce "\r\n\r\n" (joinLines '\r' '\n' texts ++ '\r' :: '\n' :: body) = some (head, body) := by
  have htwo : 2 ≤ (joinLines '\r' '\n' texts).length := by
    obtain ⟨text, rest, rfl⟩ := List.exists_cons_of_ne_nil hne
    rw [joinLines_cons, List.length_append, List.length_cons, List.length_cons]
    omega
  have hfind : find? "\r\n\r\n".toList (joinLines '\r' '\n' texts ++ '\r' :: '\n' :: body) =
      some ((joinLines '\r' '\n' texts).length - 2) := find?_blankLine (by decide) hne htext body
  have hdrop : (joinLines '\r' '\n' texts).length - 2 + "\r\n\r\n".toList.length =
      (joinLines '\r' '\n' texts).length + 2 := by
    rw [show "\r\n\r\n".toList.length = 4 from rfl]
    omega
  rw [splitOnce, hfind, Option.map_some, hdrop, List.drop_length_add_append]
  exact ⟨_, rfl⟩

/-- The errors of a request without a command. -/
def routeErrors : List Str := [httpError "400 Bad Request" "http_malformed_request",
  httpError "400 Bad Request" "http_missing_request_line", httpError "404 Not Found" "http_not_found"]

/-- The errors of a command. -/
def commandErrors : List Str := [httpError "400 Bad Request" "http_invalid_command_utf8",
  httpError "400 Bad Request" "http_empty_command", httpError "413 Payload Too Large" "http_command_too_large"]

/-- The body is looked at for a command only. -/
theorem parseHttpRoute_cases (request : Str) (contentLength : ℕ) :
    (∃ head body, splitOnce "\r\n\r\n" request = some (head, body) ∧
      parseHttpRoute request contentLength = parseCommandBody body contentLength) ∨
    parseHttpRoute request contentLength = .ok .rootPage ∨
    parseHttpRoute request contentLength = .ok .snapshot ∨
    ∃ error ∈ routeErrors, parseHttpRoute request contentLength = .error error := by
  rw [parseHttpRoute]
  cases splitOnce "\r\n\r\n" request with
  | none => exact .inr (.inr (.inr ⟨_, List.mem_cons_self .., rfl⟩))
  | some parts =>
    obtain ⟨head, body⟩ := parts
    dsimp only
    cases (Firmware.lines head).head? with
    | none => exact .inr (.inr (.inr ⟨_, List.mem_cons_of_mem _ (List.mem_cons_self ..), rfl⟩))
    | some requestLine =>
      dsimp only
      split_ifs
      · exact .inr (.inl rfl)
      · exact .inr (.inr (.inl rfl))
      · exact .inl ⟨head, body, rfl, rfl⟩
      · exact .inr (.inl rfl)
      · exact .inr (.inr (.inr ⟨_, List.mem_cons_of_mem _ (List.mem_cons_of_mem _ (List.mem_cons_self ..)), rfl⟩))

theorem parseCommandBody_cases (body : Str) (contentLength : ℕ) :
    (∃ command, parseCommandBody body contentLength = .ok (.command command)) ∨
    ∃ error ∈ commandErrors, parseCommandBody body contentLength = .error error := by
  rw [parseCommandBody]
  cases textPrefix (min contentLength (utf8Len body)) body with
  | none => exact .inr ⟨_, List.mem_cons_self .., rfl⟩
  | some command =>
    dsimp only
    split
    · exact .inr ⟨_, List.mem_cons_of_mem _ (List.mem_cons_self ..), rfl⟩
    · cases (Bounded.empty : HString 256).extend (trim command) with
      | none => exact .inr ⟨_, List.mem_cons_of_mem _ (List.mem_cons_of_mem _ (List.mem_cons_self ..)), rfl⟩
      | some commandText => exact .inl ⟨commandText, rfl⟩

theorem items_of_parseHttpRoute {request head body : Str}
    (hsplit : splitOnce "\r\n\r\n" request = some (head, body)) {command : HString 256}
    (h : parseHttpRoute request (utf8Len body) = .ok (.command command)) : command.items = trim body := by
  rcases parseHttpRoute_cases request (utf8Len body) with
    ⟨head', body', hsplit', heq⟩ | heq | heq | ⟨error, -, heq⟩
  · obtain ⟨-, rfl⟩ := Prod.mk.inj (Option.some.inj (hsplit'.symm.trans hsplit))
    exact items_of_parseCommandBody (heq.symm.trans h)
  · cases h.symm.trans heq
  · cases h.symm.trans heq
  · cases h.symm.trans heq

/-- A request that is parsed is text. -/
theorem parseHttpRoute_ne_invalid (request : Str) (contentLength : ℕ) :
    parseHttpRoute request contentLength ≠ .error (httpError "400 Bad Request" "http_invalid_utf8") := by
  have hroute : httpError "400 Bad Request" "http_invalid_utf8" ∉ routeErrors := by decide
  have hcommand : httpError "400 Bad Request" "http_invalid_utf8" ∉ commandErrors := by decide
  intro h
  rcases parseHttpRoute_cases request contentLength with
    ⟨head, body, -, heq⟩ | heq | heq | ⟨error, hmem, heq⟩
  · rcases parseCommandBody_cases body contentLength with ⟨command, hok⟩ | ⟨error, hmem, herror⟩
    · cases h.symm.trans (heq.trans hok)
    · rw [← Except.error.inj (h.symm.trans (heq.trans herror))] at hmem
      exact hcommand hmem
  · cases h.symm.trans heq
  · cases h.symm.trans heq
  · rw [← Except.error.inj (h.symm.trans heq)] at hmem
    exact hroute hmem

/-! ## Where the reads may end -/

/-- No read ends inside a character of the body. -/
def CutBetweenCharacters (r : HttpMessage) (sizes : List ℕ) : Prop :=
  ∀ end_ ∈ readEnds 0 sizes, r.bodyStart ≤ end_ → IsCharBoundary r.body (end_ - r.bodyStart)

instance (r : HttpMessage) (sizes : List ℕ) : Decidable (r.CutBetweenCharacters sizes) :=
  inferInstanceAs (Decidable (∀ end_ ∈ readEnds 0 sizes, r.bodyStart ≤ end_ →
    IsCharBoundary r.body (end_ - r.bodyStart)))

theorem fromUtf8_take_eq_none_iff (h : r.WellFormed) {request : Str} (hrequest : fromUtf8 r.bytes = some request)
    {end_ : ℕ} (hend : r.bodyStart ≤ end_) :
    fromUtf8 (r.bytes.take end_) = none ↔ ¬ IsCharBoundary r.body (end_ - r.bodyStart) := by
  rw [fromUtf8_bytes] at hrequest
  obtain ⟨texts, htexts, -⟩ := Option.bind_eq_some_iff.1 hrequest
  rw [r.fromUtf8_take hend, htexts, Option.bind_some, Option.map_eq_none_iff,
    ← isSome_fromUtf8_take_iff h.body_text, Option.not_isSome_iff_eq_none]

/-- The request as a whole is parsed. -/
theorem readHttpRoute_of_cut (h : r.WellFormed) {request : Str} (hrequest : fromUtf8 r.bytes = some request)
    (hdiv : r.Divides 0 sizes) (hcut : r.CutBetweenCharacters sizes) :
    readHttpRoute [] r.bytes (sizes.map some) = some (parseHttpRoute request r.body.length) := by
  refine readHttpRoute_of_text h hrequest hdiv h.length_pos fun end_ hmem hend hnone => ?_
  exact (fromUtf8_take_eq_none_iff h hrequest hend).1 hnone (hcut end_ hmem hend)

/-- A read that ends inside a character of the body is the end of the request. -/
theorem readHttpRoute_of_not_cut (h : r.WellFormed) {request : Str} (hrequest : fromUtf8 r.bytes = some request)
    (hdiv : r.Divides 0 sizes) (hcut : ¬ r.CutBetweenCharacters sizes) :
    readHttpRoute [] r.bytes (sizes.map some) =
      some (.error (httpError "400 Bad Request" "http_invalid_utf8")) := by
  simp only [CutBetweenCharacters, not_forall] at hcut
  obtain ⟨end_, hmem, hend, hinside⟩ := hcut
  exact readHttpRoute_of_no_text h hdiv hmem hend ((fromUtf8_take_eq_none_iff h hrequest hend).2 hinside)

/-- A head that is no text is refused. -/
theorem readHttpRoute_of_head (h : r.WellFormed) (hrequest : fromUtf8 r.bytes = none)
    (hdiv : r.Divides 0 sizes) :
    readHttpRoute [] r.bytes (sizes.map some) =
      some (.error (httpError "400 Bad Request" "http_invalid_utf8")) := by
  have hend : r.bodyStart ≤ r.bytes.length := by
    rw [length_bytes]
    exact Nat.le_add_right ..
  refine readHttpRoute_of_no_text h hdiv (hdiv.length_mem h.length_pos) hend ?_
  rw [List.take_length, hrequest]

theorem fromUtf8_bytes_eq_none_iff (h : r.WellFormed) : fromUtf8 r.bytes = none ↔ fromUtf8 r.head = none := by
  obtain ⟨body, hbody⟩ := Option.isSome_iff_exists.1 h.body_text
  have hhead := fromUtf8_joinLines r.lines []
  rw [List.append_nil] at hhead
  rw [fromUtf8_bytes, head, hhead, hbody]
  cases r.lines.mapM fromUtf8 with
  | none => exact iff_of_true rfl rfl
  | some texts => exact iff_of_false (fun hnone => by cases hnone) (fun hnone => by cases hnone)

theorem WellFormed.divides_one (h : r.WellFormed) : r.Divides 0 [r.bytes.length] where
  pos size hsize := by
    rw [List.mem_singleton.1 hsize]
    exact h.length_pos
  total := by rw [List.sum_singleton, Nat.zero_add]

/-- The end of the body is no cut. -/
theorem cutBetweenCharacters_one (r : HttpMessage) : r.CutBetweenCharacters [r.bytes.length] := by
  intro end_ hmem _ b hget
  have hend : end_ = r.bytes.length := by simpa [readEnds] using hmem
  rw [hend, r.length_bytes, Nat.add_sub_cancel_left, List.getElem?_eq_none le_rfl] at hget
  cases hget

/-- The reads give what one read of all the bytes gives, and a command is the body without the
white space around it. -/
def PacketIndependent (r : HttpMessage) (sizes : List ℕ) : Prop :=
  ∃ result, readHttpRoute [] r.bytes (sizes.map some) = some result ∧
    readHttpRoute [] r.bytes [some r.bytes.length] = some result ∧
    ∀ command, result = .ok (.command command) → (fromUtf8 r.body).map trim = some command.items

theorem packetIndependent_of_cut (h : r.WellFormed) (hdiv : r.Divides 0 sizes)
    (hcut : r.CutBetweenCharacters sizes) {request : Str} (hrequest : fromUtf8 r.bytes = some request) :
    r.PacketIndependent sizes := by
  refine ⟨_, readHttpRoute_of_cut h hrequest hdiv hcut,
    readHttpRoute_of_cut h hrequest h.divides_one r.cutBetweenCharacters_one, ?_⟩
  intro command hcommand
  rw [fromUtf8_bytes] at hrequest
  obtain ⟨texts, htexts, hrequest⟩ := Option.bind_eq_some_iff.1 hrequest
  obtain ⟨body, hbody, rfl⟩ := Option.map_eq_some_iff.1 hrequest
  obtain ⟨before, field, after, happend, -⟩ := h.contentLength texts htexts
  have hne : texts ≠ [] := by
    rw [happend]
    exact List.append_ne_nil_of_right_ne_nil _ (List.cons_ne_nil _ _)
  obtain ⟨head, hsplit⟩ := splitOnce_blankLine hne
    (fun text hmem => ⟨(h.text htexts text hmem).1, (h.text htexts text hmem).2.1⟩) body
  rw [← utf8Len_of_fromUtf8 hbody] at hcommand
  rw [hbody, Option.map_some, items_of_parseHttpRoute hsplit hcommand]

/-- The division does not matter when the head is no text, and otherwise exactly when no read ends
inside a character of the body. -/
theorem packetIndependent_iff (h : r.WellFormed) (hdiv : r.Divides 0 sizes) :
    r.PacketIndependent sizes ↔ fromUtf8 r.head = none ∨ r.CutBetweenCharacters sizes := by
  rw [← fromUtf8_bytes_eq_none_iff h]
  cases hrequest : fromUtf8 r.bytes with
  | none =>
    refine iff_of_true ⟨_, readHttpRoute_of_head h hrequest hdiv,
      readHttpRoute_of_head h hrequest h.divides_one, ?_⟩ (Or.inl rfl)
    intro command hcommand
    cases hcommand
  | some request =>
    constructor
    · rintro ⟨result, hreads, hone, -⟩
      refine Or.inr (by_contra fun hcut => ?_)
      have hinvalid := readHttpRoute_of_not_cut h hrequest hdiv hcut
      have hwhole := readHttpRoute_of_cut h hrequest h.divides_one r.cutBetweenCharacters_one
      have hsame := (hwhole.symm.trans hone).trans (hreads.symm.trans hinvalid)
      exact parseHttpRoute_ne_invalid _ _ (Option.some.inj hsame)
    · rintro (hnone | hcut)
      · cases hnone
      · exact packetIndependent_of_cut h hdiv hcut hrequest

/-- A command with a character of two bytes. -/
def accented : HttpMessage where
  lines := [toUtf8 "POST /api/command HTTP/1.1", toUtf8 "Content-Length: 5"]
  body := toUtf8 "café"

theorem accented_wellFormed : accented.WellFormed where
  lines_ne := by decide +kernel
  line := by decide +kernel
  contentLength texts htexts := by
    have hdecoded : accented.lines.mapM fromUtf8 =
        some ["POST /api/command HTTP/1.1".toList, "Content-Length: 5".toList] := by decide +kernel
    rw [← Option.some.inj (hdecoded.symm.trans htexts)]
    refine ⟨["POST /api/command HTTP/1.1".toList], "Content-Length: 5".toList, [], rfl,
      ⟨"Content-Length", " 5", by decide +kernel, by decide +kernel, by decide +kernel⟩, ?_⟩
    intro line hline name value hsplit
    have hno : splitOnce ":" "POST /api/command HTTP/1.1" = none := by decide +kernel
    rw [List.mem_singleton.1 hline, hno] at hsplit
    cases hsplit
  body_text := by decide +kernel
  length_le := by decide +kernel

theorem packetIndependent_accented : accented.PacketIndependent [20, 32, 2] :=
  (packetIndependent_iff accented_wellFormed ⟨by decide +kernel, by decide +kernel⟩).2 (Or.inr (by decide +kernel))

/-- The last read brings the second byte of the last character. -/
theorem accented_refused :
    readHttpRoute [] accented.bytes [some 53, some 1] =
        some (.error (httpError "400 Bad Request" "http_invalid_utf8")) ∧
      (readHttpRoute [] accented.bytes [some 54]).map Except.isOk = some true ∧
      ¬ ∀ r : HttpMessage, r.WellFormed → ∀ sizes, r.Divides 0 sizes → r.PacketIndependent sizes := by
  have hcut : readHttpRoute [] accented.bytes [some 53, some 1] =
      some (.error (httpError "400 Bad Request" "http_invalid_utf8")) := by decide +kernel
  have hwhole : (readHttpRoute [] accented.bytes [some 54]).map Except.isOk = some true := by decide +kernel
  have hlength : accented.bytes.length = 54 := by decide +kernel
  refine ⟨hcut, hwhole, ?_⟩
  intro hall
  obtain ⟨result, hreads, hone, -⟩ := hall accented accented_wellFormed [53, 1]
    ⟨by decide +kernel, by decide +kernel⟩
  rw [List.map_cons, List.map_singleton, hcut] at hreads
  rw [hlength] at hone
  rw [hone, ← Option.some.inj hreads] at hwhole
  cases hwhole

end HttpMessage

end EspWaveRider.Firmware
