import EspWaveRider.Firmware.FirmwareSync

/-!
# How a firmware sync ends

What `service_firmware_sync` of `rust/firmware/esp32s3/src/main.rs` leaves behind, and
the attempts it makes on the way.

* `raises_performUpdate` — an attempt that fails says why;
* `tracedCandidates` — the loop over the candidates with the attempts it made;
* `serviceFirmwareSync_outcome` — the sync is over, with a success or with an error.
-/

namespace EspWaveRider.Firmware

open Text Fallible Release

/-! ## Every error has a text -/

/-- An error that says something. -/
def HasText (error : Str) : Prop := error ≠ []

instance (error : Str) : Decidable (HasText error) := inferInstanceAs (Decidable (_ ≠ _))

theorem raises_fail {α : Type} {error : Str} (h : HasText error) :
    Raises (OtaM.fail error : OtaM α) HasText :=
  .throw h

theorem raises_perform (op : FlashOp) (inRange : Bool) {error : Str} (h : HasText error) :
    Raises (OtaPartition.perform op inRange error) HasText := by
  intro p e p' hrun
  rw [OtaPartition.perform] at hrun
  split at hrun
  · cases hrun
  · cases hrun
    exact h

theorem raises_write (offset : ℕ) (bytes : List UInt8) :
    Raises (OtaPartition.write offset bytes) HasText := by
  intro p
  exact raises_perform _ _ (by decide) p

namespace OtaPartitionWriter

theorem raises_new (imageLen : Option ℕ) : Raises (new imageLen) HasText := by
  refine .bind .get fun p => ?_
  refine .bind (.modify _) fun _ => ?_
  exact .bind (raises_perform _ _ (by decide)) fun _ => .pure _

theorem raises_fillTrailing (w : OtaPartitionWriter) (chunk : List UInt8) :
    Raises (w.fillTrailing chunk) HasText := by
  rw [fillTrailing]
  split
  · exact .pure _
  · dsimp only
    split
    · exact .bind (raises_write _ _) fun _ => .pure _
    · exact .pure _

theorem raises_writeAligned (w : OtaPartitionWriter) (chunk : List UInt8) :
    Raises (w.writeAligned chunk) HasText := by
  rw [writeAligned]
  split
  · exact .bind (raises_write _ _) fun _ => .pure _
  · exact .pure _

theorem raises_writeChunk (w : OtaPartitionWriter) (chunk : List UInt8) :
    Raises (w.writeChunk chunk) HasText := by
  refine .bind (.modify _) fun _ => ?_
  exact .bind (raises_fillTrailing _ _) fun r => raises_writeAligned _ _

theorem raises_finish (w : OtaPartitionWriter) : Raises w.finish HasText := by
  rw [finish]
  split
  · exact .pure _
  · exact .bind (raises_write _ _) fun _ => .pure _

end OtaPartitionWriter

theorem raises_liftExcept {α : Type} {r : Except Str α} (h : ∀ e, r = .error e → HasText e) :
    Raises (liftExcept r) HasText := by
  cases r with
  | ok a => exact .pure a
  | error e => exact .throw (h e rfl)

theorem raises_prepareWriter (contentLength : Option ℕ) :
    Raises (prepareWriter contentLength) HasText := by
  refine .bind .get fun p => ?_
  dsimp only
  split
  · exact raises_fail (by decide)
  · exact OtaPartitionWriter.raises_new _

theorem raises_writePrefix (w : OtaPartitionWriter) (bodyPrefix : Option (List UInt8)) :
    Raises (writePrefix w bodyPrefix) HasText := by
  cases bodyPrefix with
  | none => exact .pure w
  | some bytes =>
    rw [writePrefix]
    split
    · exact w.raises_writeChunk bytes
    · exact .pure w

theorem hasText_mapError {α : Type} {r : Except Str α} {text : Str → Str}
    (h : ∀ error, HasText (text error)) : ∀ e, r.mapError text = .error e → HasText e := by
  cases r with
  | ok a => rintro e ⟨⟩
  | error error =>
    rintro e ⟨⟩
    exact h error

theorem raises_httpBody (x : Exchange) (fuel : ℕ) (w : OtaPartitionWriter) (s : Source UInt8) :
    Raises (httpBody x fuel w s) HasText := by
  induction fuel generalizing w s with
  | zero => exact .pure w
  | succ fuel ih =>
    rw [httpBody]
    refine .bind (raises_liftExcept (hasText_mapError fun _ => by decide)) fun r => ?_
    dsimp only
    split
    · exact .pure w
    · exact .bind (w.raises_writeChunk _) fun w => ih w _

theorem raises_httpsBody (x : Exchange) (expectedTotal : Option ℕ) (fuel : ℕ)
    (deferred : Option (List UInt8)) (w : OtaPartitionWriter) (s : Source UInt8) :
    Raises (httpsBody x expectedTotal fuel deferred w s) HasText := by
  induction fuel generalizing deferred w s with
  | zero => exact .pure _
  | succ fuel ih =>
    rw [httpsBody]
    split
    · exact .pure _
    · refine .bind (raises_liftExcept (hasText_mapError fun error => ?_)) fun r => ?_
      · exact List.append_ne_nil_of_left_ne_nil (by decide) error
      · dsimp only
        split
        · exact .pure _
        · refine .bind (raises_writePrefix w deferred) fun w => ?_
          split
          all_goals
            split
            · exact .pure _
            · exact .bind (w.raises_writeChunk _) fun w => ih none w _

theorem raises_receiveHttp (x : Exchange) (header : HttpResponseHeader) (filled : List UInt8)
    (s : Source UInt8) : Raises (receiveHttp x header filled s) HasText := by
  refine .bind (raises_prepareWriter _) fun w => ?_
  refine .bind (raises_writePrefix w _) fun w => ?_
  refine .bind (raises_httpBody x _ w s) fun w => ?_
  exact .bind w.raises_finish fun _ => .pure _

theorem raises_receiveHttps (x : Exchange) (header : HttpResponseHeader) (filled : List UInt8)
    (s : Source UInt8) : Raises (receiveHttps x header filled s) HasText := by
  refine .bind (raises_prepareWriter _) fun w => ?_
  refine .bind (raises_httpsBody x _ _ _ w s) fun r => ?_
  refine .bind (raises_writePrefix r.2 r.1) fun w => ?_
  exact .bind w.raises_finish fun _ => .pure _

theorem hasText_fillHeader {x : Exchange} {fuel : ℕ} {filled : List UInt8} {s : Source UInt8}
    {e : Str} (h : fillHeader x fuel filled s = .error e) : HasText e := by
  induction fuel generalizing filled s with
  | zero => cases h
  | succ fuel ih =>
    rw [fillHeader] at h
    split at h
    · split at h
      · cases h
        decide
      · split at h
        · cases h
        · split at h
          · cases h
          · exact ih h
    · cases h

theorem hasText_parseHttpResponseHeader {filled : List UInt8} {headerEnd : Option ℕ} {e : Str}
    (h : parseHttpResponseHeader filled headerEnd = .error e) : HasText e := by
  unfold parseHttpResponseHeader at h
  split at h
  · cases h
    decide
  · dsimp only at h
    split at h
    · cases h
      decide
    · split at h
      · cases h
        decide
      · split at h
        · cases h
          decide
        · cases h

theorem hasText_bind {α β : Type} {r : Except Str α} {g : α → Except Str β} {e : Str}
    (h : r >>= g = .error e) (hr : ∀ e, r = .error e → HasText e)
    (hg : ∀ a e, g a = .error e → HasText e) : HasText e := by
  cases r with
  | ok a => exact hg a e h
  | error e' =>
    cases h
    exact hr e rfl

theorem hasText_readHttpResponseHeader {x : Exchange} {e : Str}
    (h : readHttpResponseHeader x = .error e) : HasText e := by
  refine hasText_bind h (fun _ => hasText_fillHeader) fun r e h => ?_
  refine hasText_bind h (fun _ => hasText_parseHttpResponseHeader) fun header e h => ?_
  cases h

theorem hasText_resolveDownloadHost {x : Exchange} {host e : Str}
    (h : resolveDownloadHost x host = .error e) : HasText e := by
  rw [resolveDownloadHost] at h
  split at h
  · cases h
  · split at h
    · cases h
      decide
    · cases h
      decide
    · cases h

theorem hasText_openHttp {x : Exchange} {url : ParsedDownloadUrl} {e : Str}
    (h : openHttp x url = .error e) : HasText e := by
  refine hasText_bind h (fun _ => hasText_resolveDownloadHost) fun _ e h => ?_
  split at h
  · cases h
    decide
  · split at h
    · cases h
      decide
    · cases h

theorem hasText_openHttps {x : Exchange} {url : ParsedDownloadUrl} {e : Str}
    (h : openHttps x url = .error e) : HasText e := by
  refine hasText_bind h (fun _ => hasText_resolveDownloadHost) fun _ e h => ?_
  split_ifs at h
  all_goals
    cases h
    try decide

theorem hasText_redirectUrl {scheme : DownloadUrlScheme} {location : Option Str} {e : Str}
    (h : redirectUrl scheme location = .error e) : HasText e := by
  unfold redirectUrl at h
  split at h
  · cases h
    decide
  · split at h
    · cases h
      decide
    · split at h
      · cases h
        decide
      · cases h

theorem raises_downloadFirmwareImage (scheme : DownloadUrlScheme)
    {openExchange : Exchange → ParsedDownloadUrl → Except Str Unit}
    {receive : Exchange → HttpResponseHeader → List UInt8 → Source UInt8 → OtaM ℕ}
    (hopen : ∀ x url e, openExchange x url = .error e → HasText e)
    (hreceive : ∀ x header filled s, Raises (receive x header filled s) HasText)
    (requests : ℕ) (url : ParsedDownloadUrl) (exchanges : List Exchange) :
    Raises (downloadFirmwareImage scheme openExchange receive requests url exchanges) HasText := by
  induction requests generalizing url exchanges with
  | zero => exact raises_fail (by decide)
  | succ requests ih =>
    rw [downloadFirmwareImage]
    refine .bind (raises_liftExcept (hopen _ url)) fun _ => ?_
    refine .bind (raises_liftExcept fun _ => hasText_readHttpResponseHeader) fun r => ?_
    dsimp only
    split
    · exact hreceive _ _ _ _
    · split
      · exact .bind (raises_liftExcept fun _ => hasText_redirectUrl) fun nextUrl => ih nextUrl _
      · split
        · exact raises_fail (by decide)
        · split
          · exact raises_fail (by decide)
          · exact raises_fail (by decide)

theorem hasText_performFirmwareUpdate {download : OtaM ℕ} (hdownload : Raises download HasText)
    {conditions : UpdateConditions} {flash flash' : OtaFlash} {e : Str}
    (h : performFirmwareUpdate download conditions flash = (.error e, flash')) : HasText e := by
  rw [performFirmwareUpdate] at h
  split at h
  · cases h
    decide
  · cases h
    decide
  · split at h
    · cases h
      decide
    · split at h
      · cases h
        decide
      · dsimp only at h
        split at h
        · rename_i hrun
          cases h
          exact hdownload _ _ _ hrun
        · split at h
          · cases h
            decide
          · cases h

theorem hasText_performUpdate {scheme : DownloadUrlScheme} {conditions : UpdateConditions}
    {url : ParsedDownloadUrl} {exchanges : List Exchange} {flash flash' : OtaFlash} {e : Str}
    (h : performUpdate scheme conditions url exchanges flash = (.error e, flash')) :
    HasText e := by
  rw [performUpdate_eq] at h
  refine hasText_performFirmwareUpdate ?_ h
  rw [downloadImage_eq]
  cases scheme with
  | http =>
    exact raises_downloadFirmwareImage _ (fun _ _ _ => hasText_openHttp) raises_receiveHttp _ _ _
  | https =>
    exact raises_downloadFirmwareImage _ (fun _ _ _ => hasText_openHttps) raises_receiveHttps _ _ _

/-! ## The attempts -/

/-- An attempt: the candidate's address and how its update ended. -/
abbrev Made := Str × Except Str ℕ

/-- `serviceCandidates`, with the attempts it makes. -/
def tracedCandidates (httpsOta : Bool) :
    List Str → List Attempt → Option Str → OtaFlash → List Made × CandidatesResult × OtaFlash
  | [], _, lastError, flash => ([], .failed lastError, flash)
  | candidateUrl :: urls, attempts, _, flash =>
    match parseDownloadUrl candidateUrl with
    | none => ([], .failed (some "release_download_url_invalid"), flash)
    | some downloadUrl =>
      let attempt := attempts.headD {}
      if downloadUrl.scheme = .https ∧ !httpsOta then
        ([], .failed (some "firmware_https_disabled"), flash)
      else if downloadUrl.scheme = .https ∧ !attempt.tlsReady then ([], .tlsInitFailed, flash)
      else
        match performUpdate downloadUrl.scheme attempt.conditions downloadUrl attempt.exchanges
            flash with
        | (.ok bytesWritten, flash) =>
          ([(candidateUrl, .ok bytesWritten)], .staged bytesWritten downloadUrl.scheme, flash)
        | (.error error, flash) =>
          if error = ("firmware_http_not_found" : Str) then
            let (made, rest) := tracedCandidates httpsOta urls attempts.tail (some error) flash
            ((candidateUrl, .error error) :: made, rest)
          else ([(candidateUrl, .error error)], .failed (some error), flash)

theorem tracedCandidates_snd (httpsOta : Bool) (urls : List Str) (attempts : List Attempt)
    (lastError : Option Str) (flash : OtaFlash) :
    (tracedCandidates httpsOta urls attempts lastError flash).2 =
      serviceCandidates httpsOta urls attempts lastError flash := by
  induction urls generalizing attempts lastError flash with
  | nil => rfl
  | cons candidateUrl urls ih =>
    rw [tracedCandidates, serviceCandidates]
    cases parseDownloadUrl candidateUrl with
    | none => rfl
    | some downloadUrl =>
      dsimp only
      set attempt := attempts.headD {}
      by_cases hdisabled : downloadUrl.scheme = .https ∧ !httpsOta
      · rw [if_pos hdisabled, if_pos hdisabled]
      rw [if_neg hdisabled, if_neg hdisabled]
      by_cases htls : downloadUrl.scheme = .https ∧ !attempt.tlsReady
      · rw [if_pos htls, if_pos htls]
      rw [if_neg htls, if_neg htls]
      obtain ⟨outcome, flash'⟩ :=
        performUpdate downloadUrl.scheme attempt.conditions downloadUrl attempt.exchanges flash
      cases outcome with
      | ok bytesWritten => rfl
      | error error =>
        dsimp only
        by_cases herror : error = ("firmware_http_not_found" : Str)
        · rw [if_pos herror, if_pos herror]
          exact ih _ _ _
        · rw [if_neg herror, if_neg herror]

/-- What the loop over the candidates can do: the candidates left, the error so
far, the attempts made and the result. -/
inductive Tries : List Str → Option Str → List Made → CandidatesResult → Prop
  | exhausted (lastError : Option Str) : Tries [] lastError [] (.failed lastError)
  | refused {url urls lastError error} (h : HasText error) :
      Tries (url :: urls) lastError [] (.failed (some error))
  | tlsInitFailed {url urls lastError} : Tries (url :: urls) lastError [] .tlsInitFailed
  | staged {url urls lastError bytesWritten scheme} :
      Tries (url :: urls) lastError [(url, .ok bytesWritten)] (.staged bytesWritten scheme)
  | stopped {url urls lastError error} (h : HasText error) :
      Tries (url :: urls) lastError [(url, .error error)] (.failed (some error))
  | notFound {url urls lastError made result}
      (h : Tries urls (some "firmware_http_not_found") made result) :
      Tries (url :: urls) lastError ((url, .error "firmware_http_not_found") :: made) result

theorem tries_tracedCandidates (httpsOta : Bool) (urls : List Str) (attempts : List Attempt)
    (lastError : Option Str) (flash : OtaFlash) :
    Tries urls lastError (tracedCandidates httpsOta urls attempts lastError flash).1
      (tracedCandidates httpsOta urls attempts lastError flash).2.1 := by
  induction urls generalizing attempts lastError flash with
  | nil => exact .exhausted lastError
  | cons candidateUrl urls ih =>
    rw [tracedCandidates]
    split
    · exact .refused (by decide)
    · dsimp only
      split
      · exact .refused (by decide)
      · split
        · exact .tlsInitFailed
        · split
          · exact .staged
          · rename_i error flash' hrun
            split
            · rename_i hnotFound
              subst hnotFound
              exact .notFound (ih _ _ _)
            · exact .stopped (hasText_performUpdate hrun)

namespace Tries

variable {urls : List Str} {lastError : Option Str} {made : List Made} {result : CandidatesResult}

/-- The candidates are tried in their order. -/
theorem urls_isPrefix (h : Tries urls lastError made result) : made.map Prod.fst <+: urls := by
  induction h with
  | exhausted lastError => exact List.prefix_refl []
  | refused _ => exact List.nil_prefix
  | tlsInitFailed => exact List.nil_prefix
  | staged => exact ⟨_, rfl⟩
  | stopped _ => exact ⟨_, rfl⟩
  | notFound _ ih => exact List.cons_prefix_cons.2 ⟨rfl, ih⟩

/-- There is a next attempt only after an image that was not found. -/
theorem dropLast_notFound (h : Tries urls lastError made result) :
    ∀ m ∈ made.dropLast, m.2 = .error "firmware_http_not_found" := by
  induction h with
  | exhausted lastError => nofun
  | refused _ => nofun
  | tlsInitFailed => nofun
  | staged => nofun
  | stopped _ => nofun
  | @notFound url urls lastError made result h ih =>
    cases made with
    | nil => nofun
    | cons m made =>
      rw [List.dropLast_cons_cons, List.forall_mem_cons]
      exact ⟨rfl, ih⟩

theorem staged_iff (h : Tries urls lastError made result) :
    (∃ bytesWritten scheme, result = .staged bytesWritten scheme) ↔
      ∃ m ∈ made, ∃ bytesWritten, m.2 = .ok bytesWritten := by
  induction h with
  | exhausted lastError => simp
  | refused _ => simp
  | tlsInitFailed => simp
  | staged => simp
  | stopped _ => simp
  | notFound _ ih => simpa using ih

/-- A loop that stages nothing ends with an error that says something. -/
theorem failed (h : Tries urls lastError made result) (hurls : urls ≠ [] ∨ lastError ≠ none)
    (hlast : ∀ error, lastError = some error → HasText error) :
    ∀ r, result = .failed r → ∃ error, r = some error ∧ HasText error := by
  induction h with
  | exhausted lastError =>
    rintro r ⟨⟩
    obtain ⟨error, rfl⟩ := Option.ne_none_iff_exists'.1 (hurls.resolve_left (not_not.2 rfl))
    exact ⟨error, rfl, hlast error rfl⟩
  | refused h =>
    rintro r ⟨⟩
    exact ⟨_, rfl, h⟩
  | tlsInitFailed => nofun
  | staged => nofun
  | stopped h =>
    rintro r ⟨⟩
    exact ⟨_, rfl, h⟩
  | notFound _ ih =>
    refine ih (Or.inr (by simp)) ?_
    rintro error ⟨⟩
    decide

end Tries

/-! ## The outcome -/

/-- The sync has succeeded, or it has failed and says why. -/
def FirmwareSyncState.Definite (sync : FirmwareSyncState) : Prop :=
  Xor (sync.lastSuccess = true ∧ sync.lastError = [])
    (sync.lastSuccess = false ∧ sync.lastError ≠ [])

theorem FirmwareSyncState.definite_record {sync : FirmwareSyncState} {result : CandidatesResult}
    (hstart : sync.lastSuccess = false)
    (h : ∀ r, result = .failed r → ∃ error, r = some error ∧ HasText error) :
    (sync.record result).Definite ∧ ((sync.record result).lastSuccess = true ↔
      ∃ bytesWritten scheme, result = .staged bytesWritten scheme) := by
  cases result with
  | tlsInitFailed => simp [Definite, record, hstart, Xor]
  | staged bytesWritten scheme => simp [Definite, record, Xor]
  | failed r =>
    obtain ⟨error, rfl, htext⟩ := h r rfl
    have htext : error ≠ [] := htext
    simp [Definite, record, hstart, htext, Xor]

/-- The first candidate is the stored address or the canonical one. -/
theorem head?_firmwareReleaseDownloadUrlCandidates {targetVersion primaryUrl url : Str}
    (h : (firmwareReleaseDownloadUrlCandidates targetVersion primaryUrl).head? = some url) :
    url = primaryUrl ∨ url = firmwareReleaseAssetUrl firmwareReleaseRepoOwner
      firmwareReleaseRepoName targetVersion rustBuildTarget := by
  unfold firmwareReleaseDownloadUrlCandidates at h
  dsimp only at h
  split at h
  · cases h
    exact Or.inl rfl
  · right
    unfold firmwareReleaseAssetUrls at h
    dsimp only at h
    split at h
    · cases h
    · split at h
      · cases h
        rfl
      · split at h
        · cases h
          rfl
        · cases h
          rfl

theorem firmwareReleaseDownloadUrlCandidates_ne_nil {primaryUrl : Str} (h : primaryUrl ≠ [])
    (targetVersion : Str) :
    firmwareReleaseDownloadUrlCandidates targetVersion primaryUrl ≠ [] := by
  intro hnil
  unfold firmwareReleaseDownloadUrlCandidates at hnil
  dsimp only at hnil
  split at hnil
  · cases hnil
  · rename_i hmem
    rw [hnil] at hmem
    exact hmem ⟨h, List.not_mem_nil⟩

namespace FirmwareState

/-- The addresses a service works through. -/
def syncCandidates (s : FirmwareState) : List Str :=
  firmwareReleaseDownloadUrlCandidates s.firmwareSyncState.targetVersion
    s.firmwareSyncState.downloadUrl

/-- The attempts a service makes. -/
def attemptsMade (s : FirmwareState) (httpsOta : Bool) (attempts : List Attempt)
    (flash : OtaFlash) : List Made :=
  if s.firmwareSyncState.downloadUrl = [] then []
  else (tracedCandidates httpsOta s.syncCandidates attempts none flash).1

/-- What a service makes of the sync state when a request waits. -/
theorem firmwareSyncState_serviceFirmwareSync {s : FirmwareState}
    (hpending : s.firmwareSyncState.pending = true)
    (hidle : s.firmwareSyncState.inProgress = false) (httpsOta : Bool) (uptimeMs : ℕ)
    (attempts : List Attempt) (flash : OtaFlash) :
    ∃ serviced : FirmwareSyncState,
      (s.serviceFirmwareSync httpsOta uptimeMs attempts flash).1.firmwareSyncState =
        { serviced with inProgress := false, lastCompletedMs := uptimeMs } ∧
      serviced.pending = false ∧ serviced.Definite ∧
      (serviced.lastSuccess = true ↔
        ∃ m ∈ s.attemptsMade httpsOta attempts flash, ∃ bytesWritten, m.2 = .ok bytesWritten) := by
  rw [serviceFirmwareSync, attemptsMade]
  dsimp only
  rw [if_neg (by simp [hpending, hidle])]
  by_cases hurl : s.firmwareSyncState.downloadUrl = []
  · rw [if_pos hurl, if_pos hurl]
    refine ⟨_, rfl, rfl, ?_, by simp⟩
    exact Or.inr ⟨⟨rfl, List.cons_ne_nil _ _⟩, fun h => Bool.false_ne_true h.1⟩
  · rw [if_neg hurl, if_neg hurl]
    have htries := tries_tracedCandidates httpsOta s.syncCandidates attempts none flash
    have hfailed := htries.failed (Or.inl (firmwareReleaseDownloadUrlCandidates_ne_nil hurl _)) nofun
    rw [← htries.staged_iff]
    rw [tracedCandidates_snd] at hfailed ⊢
    refine ⟨_, rfl, ?_, FirmwareSyncState.definite_record rfl hfailed⟩
    unfold FirmwareSyncState.record
    split <;> rfl

/-- A service of a waiting request ends it with a success or with an error that
says why, and it is a success exactly if an attempt was.  The candidates are tried
in their order, from the stored address or the canonical one, each but the first
after an image that was not found. -/
theorem serviceFirmwareSync_outcome {s : FirmwareState}
    (hpending : s.firmwareSyncState.pending = true)
    (hidle : s.firmwareSyncState.inProgress = false) (httpsOta : Bool) (uptimeMs : ℕ)
    (attempts : List Attempt) (flash : OtaFlash) :
    let sync := (s.serviceFirmwareSync httpsOta uptimeMs attempts flash).1.firmwareSyncState
    let made := s.attemptsMade httpsOta attempts flash
    sync.inProgress = false ∧ sync.pending = false ∧
    Xor (sync.lastSuccess = true ∧ sync.lastError = [])
      (sync.lastSuccess = false ∧ sync.lastError ≠ []) ∧
    (sync.lastSuccess = true ↔ ∃ m ∈ made, ∃ bytesWritten, m.2 = .ok bytesWritten) ∧
    made.map Prod.fst <+: s.syncCandidates ∧
    (∀ url, s.syncCandidates.head? = some url → url = s.firmwareSyncState.downloadUrl ∨
      url = firmwareReleaseAssetUrl firmwareReleaseRepoOwner firmwareReleaseRepoName
        s.firmwareSyncState.targetVersion rustBuildTarget) ∧
    ∀ m ∈ made.dropLast, m.2 = .error "firmware_http_not_found" := by
  intro sync made
  have hmade : made.map Prod.fst <+: s.syncCandidates ∧
      ∀ m ∈ made.dropLast, m.2 = .error "firmware_http_not_found" := by
    show (attemptsMade s httpsOta attempts flash).map Prod.fst <+: _ ∧
      ∀ m ∈ (attemptsMade s httpsOta attempts flash).dropLast, _
    rw [attemptsMade]
    by_cases hurl : s.firmwareSyncState.downloadUrl = []
    · rw [if_pos hurl]
      exact ⟨List.nil_prefix, nofun⟩
    · rw [if_neg hurl]
      have htries := tries_tracedCandidates httpsOta s.syncCandidates attempts none flash
      exact ⟨htries.urls_isPrefix, htries.dropLast_notFound⟩
  obtain ⟨serviced, hsync, hcleared, hdefinite, hsuccess⟩ :=
    firmwareSyncState_serviceFirmwareSync hpending hidle httpsOta uptimeMs attempts flash
  have hsync : sync = { serviced with inProgress := false, lastCompletedMs := uptimeMs } := hsync
  rw [hsync]
  exact ⟨rfl, hcleared, hdefinite, hsuccess, hmade.1,
    fun _ => head?_firmwareReleaseDownloadUrlCandidates, hmade.2⟩

theorem serviceFirmwareSync_outcome_installed :
    let sync := (queuedNode.state.serviceFirmwareSync true 5 [imageAttempt [1, 2, 3, 4, 5, 6, 7, 8]]
      queuedNode.flash).1.firmwareSyncState
    sync.lastSuccess = true ∧ sync.inProgress = false ∧ sync.pending = false := by
  have houtcome := serviceFirmwareSync_outcome (s := queuedNode.state) (by decide +kernel)
    (by decide +kernel) true 5 [imageAttempt [1, 2, 3, 4, 5, 6, 7, 8]] queuedNode.flash
  exact ⟨by decide +kernel, houtcome.1, houtcome.2.1⟩

end FirmwareState

end EspWaveRider.Firmware
