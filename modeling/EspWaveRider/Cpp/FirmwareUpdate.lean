import EspWaveRider.Cpp.Text

/-!
# The C++ firmware update

`downloadAndApplyFirmware` of `src/main.cpp`.  The HTTP client, the `Update`
library and the hash are seen through their interfaces: what they answer is
given by an `Environment`, one `Iteration` for each pass through the download
loop, and what is asked of them is recorded as a list of calls.

* `download` — the loop, over any trace of iterations;
* `Progress` — the loop's invariant: the hash, the flash writer and the byte
  counter agree on the part of the stream read so far;
* `downloadAndApplyFirmware_verified` — success means a complete, verified and
  finalised image; every failure after `Update.begin` aborts it and closes the
  connection.
-/

namespace EspWaveRider.Cpp

open Text

def firmwareDownloadBufferSize : ℕ := 4096
def downloadTimeoutMs : UInt32 := 15000

/-- What the function asks of the objects it uses. -/
inductive Call where
  | updateBegin (size : ℕ) (ok : Bool)
  | updateWrite (bytes : List UInt8) (result : ℕ)
  | updateAbort
  | updateEnd (ok : Bool)
  | httpEnd
  | sha256Free
  deriving DecidableEq

/-- The answers during one pass through the loop: whether the connection is up,
how many bytes are there, the clock, how many bytes `readBytes` returns and what
`Update.write` returns. -/
structure Iteration where
  connected : Bool
  available : ℕ
  now : UInt32
  readBytes : ℕ
  writeResult : ℕ
  deriving DecidableEq

structure Environment where
  /-- `beginTrustedFirmwareRequest`: the error, if any. -/
  beginError : Option Str
  httpCode : ℤ
  contentLength : ℤ
  updateBegin : Bool
  startMs : UInt32
  stream : List UInt8
  iterations : List Iteration
  updateEnd : Bool
  isFinished : Bool
  errorToString : ℤ → Str
  updateErrorString : Str
  sha256 : List UInt8 → List UInt8

structure Outcome where
  result : Bool
  error : Str
  calls : List Call
  deriving DecidableEq

/-! ## The function -/

/-- State of the loop: the unread stream, the bytes fed to the hash, the counter,
the time of the last chunk and the calls so far. -/
structure LoopState where
  rest : List UInt8
  fed : List UInt8
  bytesWritten : ℕ
  lastChunkMs : UInt32
  calls : List Call

inductive LoopResult where
  | exit (s : LoopState)
  | fail (error : Str) (calls : List Call)

/-- The `while` loop; `none` when the trace ends before the loop does. -/
def download (env : Environment) (contentLength : ℕ) :
    LoopState → List Iteration → Option LoopResult
  | s, [] => if s.bytesWritten < contentLength then none else some (.exit s)
  | s, it :: its =>
    if it.connected ∧ s.bytesWritten < contentLength then
      if it.available = 0 then
        if it.now - s.lastChunkMs > downloadTimeoutMs then
          some (.fail "download_timeout" (s.calls ++ [.updateAbort, .httpEnd, .sha256Free]))
        else download env contentLength s its
      else
        let requested :=
          min firmwareDownloadBufferSize (min it.available (contentLength - s.bytesWritten))
        let chunk := s.rest.take (min it.readBytes requested)
        if chunk = [] then download env contentLength s its
        else
          let calls := s.calls ++ [.updateWrite chunk it.writeResult]
          if it.writeResult ≠ chunk.length then
            some (.fail ("update_write_failed:" ++ env.updateErrorString)
              (calls ++ [.updateAbort, .httpEnd, .sha256Free]))
          else
            download env contentLength
              { rest := s.rest.drop chunk.length
                fed := s.fed ++ chunk
                bytesWritten := s.bytesWritten + chunk.length
                lastChunkMs := it.now
                calls } its
    else some (.exit s)

def hexDigitLower (n : ℕ) : Char := ("0123456789abcdef" : Str).getD n '0'

def digestHex (digest : List UInt8) : Str :=
  digest.flatMap fun value => [hexDigitLower (value.toNat / 16), hexDigitLower (value.toNat % 16)]

/-- What follows the loop. -/
def finishUpdate (env : Environment) (contentLength : ℕ) (expectedSha256 : Str) (s : LoopState) :
    Outcome :=
  let calls := s.calls ++ [.httpEnd]
  if s.bytesWritten ≠ contentLength then
    ⟨false, "download_incomplete", calls ++ [.updateAbort, .sha256Free]⟩
  else
    let actualDigest := digestHex (env.sha256 s.fed)
    let calls := calls ++ [.sha256Free]
    if actualDigest ≠ expectedSha256 then
      ⟨false, "sha256_mismatch:" ++ actualDigest, calls ++ [.updateAbort]⟩
    else
      let calls := calls ++ [.updateEnd env.updateEnd]
      if !env.updateEnd then
        ⟨false, "update_finalize_failed:" ++ env.updateErrorString, calls ++ [.updateAbort]⟩
      else if !env.isFinished then ⟨false, "update_not_finished", calls ++ [.updateAbort]⟩
      else ⟨true, [], calls⟩

def downloadAndApplyFirmware (env : Environment) (expectedSha256 : Str) : Option Outcome :=
  match env.beginError with
  | some error => some ⟨false, error, []⟩
  | none =>
    if env.httpCode ≠ 200 then
      some ⟨false, "download_http_" ++ decimalInt env.httpCode ++
        (if env.httpCode < 0 then ':' :: env.errorToString env.httpCode else []), [.httpEnd]⟩
    else if env.contentLength ≤ 0 then some ⟨false, "download_size_missing", [.httpEnd]⟩
    else
      let contentLength := env.contentLength.toNat
      if !env.updateBegin then
        some ⟨false, "update_begin_failed:" ++ env.updateErrorString,
          [.updateBegin contentLength false, .httpEnd]⟩
      else
        let s : LoopState :=
          { rest := env.stream, fed := [], bytesWritten := 0, lastChunkMs := env.startMs,
            calls := [.updateBegin contentLength true] }
        match download env contentLength s env.iterations with
        | none => none
        | some (.fail error calls) => some ⟨false, error, calls⟩
        | some (.exit s) => some (finishUpdate env contentLength expectedSha256 s)

/-! ## The invariant of the loop -/

/-- The bytes `Update` accepted, in order. -/
def written (calls : List Call) : List UInt8 :=
  calls.flatMap fun
    | .updateWrite bytes _ => bytes
    | _ => []

@[simp] theorem written_append (calls calls' : List Call) :
    written (calls ++ calls') = written calls ++ written calls' := by
  simp [written]

/-- Hash, flash writer and counter agree on what was read of the stream, and
nothing but the writes was asked since `Update.begin`. -/
structure Progress (stream : List UInt8) (contentLength : ℕ) (s : LoopState) : Prop where
  read : s.fed ++ s.rest = stream
  counted : s.bytesWritten = s.fed.length
  bounded : s.bytesWritten ≤ contentLength
  written : written s.calls = s.fed
  begun : ∃ writes, s.calls = .updateBegin contentLength true :: writes

/-- The cleanup every failure after `Update.begin` owes. -/
def CleanedUp (calls : List Call) : Prop :=
  ∃ n rest, calls = .updateBegin n true :: rest ∧ .updateAbort ∈ rest ∧ .httpEnd ∈ rest

theorem CleanedUp.of_begun {calls tail : List Call} {n : ℕ}
    (h : ∃ writes, calls = .updateBegin n true :: writes) (habort : .updateAbort ∈ tail)
    (hend : .httpEnd ∈ tail) : CleanedUp (calls ++ tail) := by
  obtain ⟨writes, rfl⟩ := h
  exact ⟨n, writes ++ tail, rfl, List.mem_append_right _ habort, List.mem_append_right _ hend⟩

/-- A chunk read, hashed and written keeps the three in step. -/
theorem Progress.chunk {stream : List UInt8} {contentLength : ℕ} {s : LoopState}
    (h : Progress stream contentLength s) {n : ℕ} (now : UInt32) (result : ℕ)
    (hn : n ≤ contentLength - s.bytesWritten) :
    Progress stream contentLength
      { rest := s.rest.drop (s.rest.take n).length
        fed := s.fed ++ s.rest.take n
        bytesWritten := s.bytesWritten + (s.rest.take n).length
        lastChunkMs := now
        calls := s.calls ++ [.updateWrite (s.rest.take n) result] } := by
  have hlen : (s.rest.take n).length ≤ n := List.length_take_le _ _
  have hbounded := h.bounded
  refine ⟨?_, ?_, ?_, ?_, ?_⟩
  · rw [← h.read, List.length_take, List.append_assoc]
    congr 1
    rcases Nat.le_total n s.rest.length with hle | hle
    · rw [Nat.min_eq_left hle, List.take_append_drop]
    · rw [Nat.min_eq_right hle, List.take_of_length_le hle, List.drop_length, List.append_nil]
  · simp [h.counted]
  · show s.bytesWritten + (s.rest.take n).length ≤ contentLength
    omega
  · rw [written_append, h.written]
    simp [Cpp.written]
  · obtain ⟨writes, hwrites⟩ := h.begun
    exact ⟨writes ++ [.updateWrite (s.rest.take n) result], by simp [hwrites]⟩

/-- The loop exits in step, or fails after cleaning up. -/
def LoopResult.Settled (stream : List UInt8) (contentLength : ℕ) : LoopResult → Prop
  | .exit s => Progress stream contentLength s
  | .fail _ calls => CleanedUp calls

theorem download_settled {env : Environment} {stream : List UInt8} {contentLength : ℕ}
    {s : LoopState} {its : List Iteration} {r : LoopResult}
    (h : Progress stream contentLength s) (hrun : download env contentLength s its = some r) :
    r.Settled stream contentLength := by
  induction its generalizing s with
  | nil =>
    rw [download] at hrun
    split at hrun
    · cases hrun
    · cases hrun
      exact h
  | cons it its ih =>
    rw [download] at hrun
    dsimp only at hrun
    split_ifs at hrun with hmore
    · -- timed out
      cases hrun
      exact CleanedUp.of_begun h.begun (by simp) (by simp)
    · exact ih h hrun
    · exact ih h hrun
    · -- the write failed
      cases hrun
      rw [List.append_assoc]
      exact CleanedUp.of_begun h.begun (by simp) (by simp)
    · refine ih (h.chunk it.now it.writeResult ?_) hrun
      omega
    · cases hrun
      exact h

/-! ## The function's contract -/

/-- What `true` promises: the whole image, in stream order, with the expected
digest, and finalised. -/
structure Applied (env : Environment) (expectedSha256 : Str) (calls : List Call) : Prop where
  size : 0 < env.contentLength
  length : ((written calls).length : ℤ) = env.contentLength
  order : written calls <+: env.stream
  digest : digestHex (env.sha256 (written calls)) = expectedSha256
  finalised : .updateEnd true ∈ calls

theorem finishUpdate_spec {env : Environment} {contentLength : ℕ} {expectedSha256 : Str}
    {s : LoopState} (h : Progress env.stream contentLength s) :
    let out := finishUpdate env contentLength expectedSha256 s
    (out.result = false → CleanedUp out.calls) ∧
      (out.result = true → (written out.calls).length = contentLength ∧
        written out.calls <+: env.stream ∧
        digestHex (env.sha256 (written out.calls)) = expectedSha256 ∧ .updateEnd true ∈ out.calls) := by
  unfold finishUpdate
  dsimp only
  split_ifs with hcount hdigest hend hfinished
  · refine ⟨fun _ => ?_, nofun⟩
    rw [List.append_assoc]
    exact CleanedUp.of_begun h.begun (by simp) (by simp)
  · refine ⟨fun _ => ?_, nofun⟩
    rw [List.append_assoc, List.append_assoc]
    exact CleanedUp.of_begun h.begun (by simp) (by simp)
  · refine ⟨fun _ => ?_, nofun⟩
    rw [List.append_assoc, List.append_assoc, List.append_assoc]
    exact CleanedUp.of_begun h.begun (by simp) (by simp)
  · refine ⟨fun _ => ?_, nofun⟩
    rw [List.append_assoc, List.append_assoc, List.append_assoc]
    exact CleanedUp.of_begun h.begun (by simp) (by simp)
  · refine ⟨nofun, fun _ => ?_⟩
    have hwritten : written (s.calls ++ [.httpEnd] ++ [.sha256Free] ++ [.updateEnd env.updateEnd]) =
        s.fed := by
      rw [written_append, written_append, written_append, h.written]
      simp [written]
    rw [hwritten]
    refine ⟨?_, ⟨s.rest, h.read⟩, not_not.1 hdigest, ?_⟩
    · rw [← h.counted]
      exact not_not.1 hcount
    · have htrue : env.updateEnd = true := by simpa using hend
      simp [htrue]

/-- Over every trace: success means that exactly the announced number of bytes
of the stream was written in order, hashed to the expected digest and
finalised; failure after a successful `Update.begin` aborts the update and
closes the connection. -/
theorem downloadAndApplyFirmware_verified {env : Environment} {expectedSha256 : Str}
    {out : Outcome} (h : downloadAndApplyFirmware env expectedSha256 = some out) :
    (out.result = true → Applied env expectedSha256 out.calls) ∧
      (out.result = false → (∃ n, .updateBegin n true ∈ out.calls) → CleanedUp out.calls) := by
  unfold downloadAndApplyFirmware at h
  split at h
  · cases h
    exact ⟨nofun, by simp⟩
  · dsimp only at h
    split_ifs at h with hcode hnegative hlength hbegin
    · cases h
      exact ⟨nofun, by simp⟩
    · cases h
      exact ⟨nofun, by simp⟩
    · cases h
      exact ⟨nofun, by simp⟩
    · cases h
      exact ⟨nofun, by simp⟩
    · have hstart : Progress env.stream env.contentLength.toNat
          { rest := env.stream, fed := [], bytesWritten := 0, lastChunkMs := env.startMs,
            calls := [.updateBegin env.contentLength.toNat true] } :=
        ⟨rfl, rfl, Nat.zero_le _, rfl, [], rfl⟩
      split at h
      · cases h
      · rename_i error calls hrun
        cases h
        exact ⟨nofun, fun _ _ => download_settled hstart hrun⟩
      · rename_i s hrun
        cases h
        obtain ⟨hfalse, htrue⟩ := finishUpdate_spec (download_settled hstart hrun)
        refine ⟨fun hok => ?_, fun hfail _ => hfalse hfail⟩
        obtain ⟨hlen, horder, hdigest, hend⟩ := htrue hok
        have hpos : 0 < env.contentLength := by omega
        exact ⟨hpos, by rw [hlen]; omega, horder, hdigest, hend⟩

/-- A server that delivers three bytes in two chunks. -/
def smallUpdate : Environment :=
  { beginError := none, httpCode := 200, contentLength := 3, updateBegin := true, startMs := 0
    stream := [1, 2, 3]
    iterations := [⟨true, 2, 5, 2, 2⟩, ⟨true, 0, 6, 0, 0⟩, ⟨true, 1, 7, 1, 1⟩]
    updateEnd := true, isFinished := true, errorToString := fun _ => [], updateErrorString := []
    sha256 := fun bytes => bytes }

theorem smallUpdate_applied :
    ∃ out, downloadAndApplyFirmware smallUpdate "010203" = some out ∧
      Applied smallUpdate "010203" out.calls :=
  ⟨_, rfl, (downloadAndApplyFirmware_verified rfl).1 rfl⟩

end EspWaveRider.Cpp
