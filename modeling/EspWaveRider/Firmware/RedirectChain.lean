import EspWaveRider.Firmware.OtaDownload

/-!
# Which servers a download talks to

The loops of `download_http_firmware_image` and `download_https_firmware_image` in
`rust/firmware/esp32s3/src/main.rs`, whatever the servers answer.

* `reply`, `downloadFirmwareImage_succ` — one pass of the loop;
* `contacts` — the addresses that are contacted, and `downloadFirmwareImage_congr`: no others are;
* `Leads` — redirects that stay within the scheme, and then a `200`;
* `redirects_safe` — what holds of every download.
-/

namespace EspWaveRider.Firmware

open Text Fallible Release

/-! ## One request -/

/-- What a `200` response is, as far as it has been read. -/
structure ImageReply where
  exchange : Exchange
  header : HttpResponseHeader
  filled : List UInt8
  source : Source UInt8

inductive Reply where
  | image (r : ImageReply)
  | redirect (nextUrl : ParsedDownloadUrl)
  | failed (error : Str)

section Loop

variable (scheme : DownloadUrlScheme) (openExchange : Exchange → ParsedDownloadUrl → Except Str Unit)
  (receive : Exchange → HttpResponseHeader → List UInt8 → Source UInt8 → OtaM ℕ)

/-- What becomes of a response. -/
def HttpResponseHeader.reply (header : HttpResponseHeader) (x : Exchange) (filled : List UInt8)
    (s : Source UInt8) : Reply :=
  if header.statusCode = 200 then .image ⟨x, header, filled, s⟩
  else if isRedirect header.statusCode then
    match redirectUrl scheme header.location with
    | .ok nextUrl => .redirect nextUrl
    | .error error => .failed error
  else if header.statusCode = 404 then .failed "firmware_http_not_found"
  else if header.statusCode = 429 then .failed "firmware_http_rate_limited"
  else .failed "firmware_http_bad_status"

/-- What becomes of a request. -/
def reply (x : Exchange) (url : ParsedDownloadUrl) : Reply :=
  match openExchange x url with
  | .error error => .failed error
  | .ok () =>
    match readHttpResponseHeader x with
    | .error error => .failed error
    | .ok (header, filled, s) => header.reply scheme x filled s

/-- One pass of the loop. -/
theorem downloadFirmwareImage_succ (requests : ℕ) (url : ParsedDownloadUrl) (exchanges : List Exchange) :
    downloadFirmwareImage scheme openExchange receive (requests + 1) url exchanges =
      match reply scheme openExchange (exchanges.headD {}) url with
      | .image r => receive r.exchange r.header r.filled r.source
      | .redirect nextUrl =>
        downloadFirmwareImage scheme openExchange receive requests nextUrl exchanges.tail
      | .failed error => OtaM.fail error := by
  rw [downloadFirmwareImage, reply]
  cases openExchange (exchanges.headD {}) url with
  | error error => rfl
  | ok _ =>
    cases readHttpResponseHeader (exchanges.headD {}) with
    | error error => rfl
    | ok r =>
      obtain ⟨header, filled, s⟩ := r
      show (if header.statusCode = 200 then _ else _ : OtaM ℕ) =
        match header.reply scheme _ filled s with
        | .image r => receive r.exchange r.header r.filled r.source
        | .redirect nextUrl =>
          downloadFirmwareImage scheme openExchange receive requests nextUrl exchanges.tail
        | .failed error => OtaM.fail error
      unfold HttpResponseHeader.reply
      split_ifs with himage hredirect
      · rfl
      · cases redirectUrl scheme header.location <;> rfl
      · rfl
      · rfl
      · rfl

/-- The addresses that are contacted. -/
def contacts : ℕ → ParsedDownloadUrl → List Exchange → List ParsedDownloadUrl
  | 0, _, _ => []
  | requests + 1, url, exchanges =>
    url :: match reply scheme openExchange (exchanges.headD {}) url with
      | .redirect nextUrl => contacts requests nextUrl exchanges.tail
      | .image _ | .failed _ => []

/-- Redirects within the scheme, and then a `200` response. -/
inductive Leads : ℕ → ParsedDownloadUrl → List Exchange → ImageReply → Prop
  | image {requests : ℕ} {url : ParsedDownloadUrl} {exchanges : List Exchange}
      {header : HttpResponseHeader} {filled : List UInt8} {s : Source UInt8}
      (hopen : openExchange (exchanges.headD {}) url = .ok ())
      (hheader : readHttpResponseHeader (exchanges.headD {}) = .ok (header, filled, s))
      (hstatus : header.statusCode = 200) :
      Leads (requests + 1) url exchanges ⟨exchanges.headD {}, header, filled, s⟩
  | redirect {requests : ℕ} {url nextUrl : ParsedDownloadUrl} {exchanges : List Exchange}
      {header : HttpResponseHeader} {filled : List UInt8} {s : Source UInt8} {location : Str}
      {r : ImageReply} (hopen : openExchange (exchanges.headD {}) url = .ok ())
      (hheader : readHttpResponseHeader (exchanges.headD {}) = .ok (header, filled, s))
      (hstatus : isRedirect header.statusCode = true) (hlocation : header.location = some location)
      (hparse : parseDownloadUrl location = some nextUrl) (hscheme : nextUrl.scheme = scheme)
      (hrest : Leads requests nextUrl exchanges.tail r) : Leads (requests + 1) url exchanges r

end Loop

/-! ## What a request can lead to -/

section Loop

variable {scheme : DownloadUrlScheme} {openExchange : Exchange → ParsedDownloadUrl → Except Str Unit}
  {receive : Exchange → HttpResponseHeader → List UInt8 → Source UInt8 → OtaM ℕ}
  {x : Exchange} {url nextUrl : ParsedDownloadUrl} {requests : ℕ} {exchanges : List Exchange}

theorem redirectUrl_eq_ok_iff {location : Option Str} : redirectUrl scheme location = .ok nextUrl ↔
    ∃ text, location = some text ∧ parseDownloadUrl text = some nextUrl ∧ nextUrl.scheme = scheme := by
  constructor
  · intro h
    unfold redirectUrl at h
    split at h
    · cases h
    · rename_i text
      split at h
      · cases h
      · rename_i url hparse
        split_ifs at h with hscheme
        cases h
        exact ⟨text, rfl, hparse, not_not.1 hscheme⟩
  · rintro ⟨text, rfl, hparse, hscheme⟩
    unfold redirectUrl
    dsimp only
    rw [hparse]
    exact if_neg (not_not.2 hscheme)

/-- A reply that is no failure comes from a response. -/
theorem reply_eq_iff {outcome : Reply} (h : ∀ error, outcome ≠ .failed error) :
    reply scheme openExchange x url = outcome ↔ openExchange x url = .ok () ∧
      ∃ header filled s, readHttpResponseHeader x = .ok (header, filled, s) ∧
        header.reply scheme x filled s = outcome := by
  constructor
  · intro hreply
    rw [reply] at hreply
    cases hopen : openExchange x url with
    | error error =>
      rw [hopen] at hreply
      exact absurd hreply.symm (h error)
    | ok _ =>
      rw [hopen] at hreply
      cases hheader : readHttpResponseHeader x with
      | error error =>
        rw [hheader] at hreply
        exact absurd hreply.symm (h error)
      | ok r =>
        obtain ⟨header, filled, s⟩ := r
        rw [hheader] at hreply
        exact ⟨rfl, header, filled, s, rfl, hreply⟩
  · rintro ⟨hopen, header, filled, s, hheader, hreply⟩
    rw [reply, hopen, hheader]
    exact hreply

theorem reply_eq_image_iff {r : ImageReply} : reply scheme openExchange x url = .image r ↔
    openExchange x url = .ok () ∧ ∃ header filled s,
      readHttpResponseHeader x = .ok (header, filled, s) ∧ header.statusCode = 200 ∧
        r = ⟨x, header, filled, s⟩ := by
  have hheader (header : HttpResponseHeader) (filled : List UInt8) (s : Source UInt8) :
      header.reply scheme x filled s = .image r ↔
        header.statusCode = 200 ∧ r = ⟨x, header, filled, s⟩ := by
    constructor
    · intro h
      rw [HttpResponseHeader.reply] at h
      split_ifs at h with himage hredirect
      · cases h
        exact ⟨himage, rfl⟩
      · cases hurl : redirectUrl scheme header.location <;> (rw [hurl] at h; cases h)
    · rintro ⟨hstatus, rfl⟩
      exact if_pos hstatus
  rw [reply_eq_iff fun error heq => by cases heq]
  simp only [hheader]

theorem reply_eq_redirect_iff : reply scheme openExchange x url = .redirect nextUrl ↔
    openExchange x url = .ok () ∧ ∃ header filled s,
      readHttpResponseHeader x = .ok (header, filled, s) ∧ isRedirect header.statusCode = true ∧
        redirectUrl scheme header.location = .ok nextUrl := by
  have hheader (header : HttpResponseHeader) (filled : List UInt8) (s : Source UInt8) :
      header.reply scheme x filled s = .redirect nextUrl ↔
        isRedirect header.statusCode = true ∧ redirectUrl scheme header.location = .ok nextUrl := by
    constructor
    · intro h
      rw [HttpResponseHeader.reply] at h
      split_ifs at h with himage hredirect
      · cases hurl : redirectUrl scheme header.location with
        | error error =>
          rw [hurl] at h
          cases h
        | ok url =>
          rw [hurl] at h
          cases h
          exact ⟨hredirect, rfl⟩
    · rintro ⟨hredirect, hurl⟩
      have himage : header.statusCode ≠ 200 := by
        intro heq
        rw [heq] at hredirect
        cases hredirect
      rw [HttpResponseHeader.reply, if_neg himage, if_pos hredirect, hurl]
  rw [reply_eq_iff fun error heq => by cases heq]
  simp only [hheader]

/-- A redirect that is followed stays within the scheme. -/
theorem scheme_of_reply (h : reply scheme openExchange x url = .redirect nextUrl) :
    nextUrl.scheme = scheme := by
  obtain ⟨-, header, filled, s, -, -, hurl⟩ := reply_eq_redirect_iff.1 h
  obtain ⟨-, -, -, hscheme⟩ := redirectUrl_eq_ok_iff.1 hurl
  exact hscheme

theorem leads_succ_iff {r : ImageReply} : Leads scheme openExchange (requests + 1) url exchanges r ↔
    reply scheme openExchange (exchanges.headD {}) url = .image r ∨
      ∃ nextUrl, reply scheme openExchange (exchanges.headD {}) url = .redirect nextUrl ∧
        Leads scheme openExchange requests nextUrl exchanges.tail r := by
  constructor
  · intro h
    cases h with
    | image hopen hheader hstatus =>
      exact Or.inl (reply_eq_image_iff.2 ⟨hopen, _, _, _, hheader, hstatus, rfl⟩)
    | redirect hopen hheader hstatus hlocation hparse hscheme hrest =>
      have hurl := redirectUrl_eq_ok_iff.2 ⟨_, hlocation, hparse, hscheme⟩
      exact Or.inr ⟨_, reply_eq_redirect_iff.2 ⟨hopen, _, _, _, hheader, hstatus, hurl⟩, hrest⟩
  · rintro (himage | ⟨nextUrl, hredirect, hrest⟩)
    · obtain ⟨hopen, header, filled, s, hheader, hstatus, rfl⟩ := reply_eq_image_iff.1 himage
      exact .image hopen hheader hstatus
    · obtain ⟨hopen, header, filled, s, hheader, hstatus, hurl⟩ := reply_eq_redirect_iff.1 hredirect
      obtain ⟨location, hlocation, hparse, hscheme⟩ := redirectUrl_eq_ok_iff.1 hurl
      exact .redirect hopen hheader hstatus hlocation hparse hscheme hrest

theorem Leads.statusCode {r : ImageReply} (h : Leads scheme openExchange requests url exchanges r) :
    r.header.statusCode = 200 := by
  induction h with
  | image _ _ hstatus => exact hstatus
  | redirect _ _ _ _ _ _ _ ih => exact ih

end Loop

/-! ## What all requests can lead to -/

section Loop

variable {scheme : DownloadUrlScheme} {openExchange : Exchange → ParsedDownloadUrl → Except Str Unit}
  (receive : Exchange → HttpResponseHeader → List UInt8 → Source UInt8 → OtaM ℕ)
  (requests : ℕ) {url : ParsedDownloadUrl} {exchanges : List Exchange}

theorem length_contacts :
    (contacts scheme openExchange requests url exchanges).length ≤ requests := by
  induction requests generalizing url exchanges with
  | zero => exact le_rfl
  | succ requests ih =>
    rw [contacts, List.length_cons]
    refine Nat.succ_le_succ ?_
    cases reply scheme openExchange (exchanges.headD {}) url with
    | redirect nextUrl => exact ih
    | image r => exact Nat.zero_le _
    | failed error => exact Nat.zero_le _

theorem scheme_of_mem_contacts (hurl : url.scheme = scheme) :
    ∀ u ∈ contacts scheme openExchange requests url exchanges, u.scheme = scheme := by
  induction requests generalizing url exchanges with
  | zero =>
    intro u hu
    cases hu
  | succ requests ih =>
    intro u hu
    rw [contacts, List.mem_cons] at hu
    rcases hu with rfl | hu
    · exact hurl
    · cases hreply : reply scheme openExchange (exchanges.headD {}) url with
      | redirect nextUrl =>
        rw [hreply] at hu
        exact ih (scheme_of_reply hreply) u hu
      | image r =>
        rw [hreply] at hu
        cases hu
      | failed error =>
        rw [hreply] at hu
        cases hu

/-- What another address would have answered does not matter. -/
theorem downloadFirmwareImage_congr {openExchange' : Exchange → ParsedDownloadUrl → Except Str Unit}
    (h : ∀ x, ∀ u ∈ contacts scheme openExchange requests url exchanges,
      openExchange' x u = openExchange x u) :
    downloadFirmwareImage scheme openExchange' receive requests url exchanges =
      downloadFirmwareImage scheme openExchange receive requests url exchanges := by
  induction requests generalizing url exchanges with
  | zero => rfl
  | succ requests ih =>
    rw [contacts] at h
    have hreply : reply scheme openExchange' (exchanges.headD {}) url =
        reply scheme openExchange (exchanges.headD {}) url := by
      rw [reply, reply, h _ url (List.mem_cons_self ..)]
    rw [downloadFirmwareImage_succ, downloadFirmwareImage_succ, hreply]
    cases hnext : reply scheme openExchange (exchanges.headD {}) url with
    | redirect nextUrl =>
      refine ih fun x u hu => h x u (List.mem_cons_of_mem _ ?_)
      rw [hnext]
      exact hu
    | image r => rfl
    | failed error => rfl

/-- A download ends in a `200` response or fails without touching the partition. -/
theorem downloadFirmwareImage_cases :
    (∃ r, Leads scheme openExchange requests url exchanges r ∧
      downloadFirmwareImage scheme openExchange receive requests url exchanges =
        receive r.exchange r.header r.filled r.source) ∨
    (∀ r, ¬ Leads scheme openExchange requests url exchanges r) ∧
      ∃ error, downloadFirmwareImage scheme openExchange receive requests url exchanges =
        OtaM.fail error := by
  induction requests generalizing url exchanges with
  | zero =>
    refine Or.inr ⟨fun r h => ?_, _, rfl⟩
    cases h
  | succ requests ih =>
    simp only [leads_succ_iff, downloadFirmwareImage_succ]
    cases reply scheme openExchange (exchanges.headD {}) url with
    | image r => exact Or.inl ⟨r, Or.inl rfl, rfl⟩
    | redirect nextUrl =>
      refine (@ih nextUrl exchanges.tail).imp ?_ ?_
      · rintro ⟨r, hr, heq⟩
        exact ⟨r, Or.inr ⟨nextUrl, rfl, hr⟩, heq⟩
      · rintro ⟨hnone, herror⟩
        refine ⟨fun r hr => ?_, herror⟩
        rcases hr with heq | ⟨nextUrl', heq, hr⟩
        · cases heq
        · cases heq
          exact hnone r hr
    | failed error =>
      refine Or.inr ⟨fun r hr => ?_, error, rfl⟩
      rcases hr with heq | ⟨nextUrl, heq, -⟩ <;> cases heq

end Loop

/-- Over either transport at most four addresses are contacted, all of one scheme; the partition is
written only for a `200` response that redirects within the scheme lead to, and is left alone by
every other download, which fails. -/
theorem redirects_safe (scheme : DownloadUrlScheme) (url : ParsedDownloadUrl) (exchanges : List Exchange) :
    let contacted := contacts scheme (openExchange scheme) firmwareSyncMaxRedirects url exchanges
    let leads := Leads scheme (openExchange scheme) firmwareSyncMaxRedirects url exchanges
    (url.scheme = scheme → ∀ u ∈ contacted, u.scheme = scheme) ∧
    contacted.length ≤ firmwareSyncMaxRedirects ∧
    (∀ openExchange' : Exchange → ParsedDownloadUrl → Except Str Unit,
      (∀ x, ∀ u ∈ contacted, openExchange' x u = openExchange scheme x u) →
        downloadFirmwareImage scheme openExchange' (receiveImage scheme) firmwareSyncMaxRedirects url
          exchanges = downloadImage scheme url exchanges) ∧
    ((∃ r, leads r ∧ r.header.statusCode = 200 ∧ downloadImage scheme url exchanges =
        receiveImage scheme r.exchange r.header r.filled r.source) ∨
      (∀ r, ¬ leads r) ∧ ∃ error, ∀ p, downloadImage scheme url exchanges p = .error error p) := by
  dsimp only
  rw [downloadImage_eq]
  refine ⟨scheme_of_mem_contacts _, length_contacts _, fun _ => downloadFirmwareImage_congr _ _, ?_⟩
  refine (@downloadFirmwareImage_cases scheme (openExchange scheme) (receiveImage scheme)
    firmwareSyncMaxRedirects url exchanges).imp ?_ ?_
  · rintro ⟨r, hr, heq⟩
    exact ⟨r, hr, hr.statusCode, heq⟩
  · rintro ⟨hnone, error, heq⟩
    exact ⟨hnone, error, fun p => by rw [heq]; rfl⟩

end EspWaveRider.Firmware
