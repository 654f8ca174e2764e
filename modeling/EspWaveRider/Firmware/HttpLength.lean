import EspWaveRider.Firmware.HttpRoute

/-!
# The length a request declares

After each read `read_http_route` adds the declared length of the body to the position where the body
starts, and goes on reading until the sum has come.  The sum is a `usize`.

* `readHttpRoute_take` — one read of a stream;
* `readHttpRoute_cases` — where an answer comes from;
* `readHttpRoute_of_fills` — a body that does not fit is refused when the buffer is full;
* `lengthSafe_iff` — when the lengths are safe.
-/

namespace EspWaveRider.Firmware

open Text

/-! ## One read of a stream -/

/-- How much of the stream has come after a read. -/
def readEnd (stream : List UInt8) (n size : ℕ) : ℕ := n + min (min size (1024 - n)) (stream.length - n)

theorem readEnd_le {stream : List UInt8} {n : ℕ} (hn : n ≤ stream.length) (hlt : n < 1024) (size : ℕ) :
    readEnd stream n size ≤ stream.length ∧ readEnd stream n size ≤ 1024 := by
  rw [readEnd]
  omega

/-- What stands in the buffer: the text, where its body starts, and how long the body is to be. -/
def declared (buffer : List UInt8) : Option (Str × ℕ × ℕ) := do
  let headerEnd ← findHttpHeaderEnd buffer
  let request ← fromUtf8 buffer
  some (request, headerEnd + 4, (parseContentLength request).getD 0)

def tooLarge : Except Str HttpRoute := .error (httpError "413 Payload Too Large" "http_request_too_large")
def readFailed : Except Str HttpRoute := .error (httpError "400 Bad Request" "http_read_failed")
def emptyRequest : Except Str HttpRoute := .error (httpError "400 Bad Request" "http_empty_request")
def invalidUtf8 : Except Str HttpRoute := .error (httpError "400 Bad Request" "http_invalid_utf8")

/-- There is no head yet, or what has come is text. -/
def Readable (buffer : List UInt8) : Prop := findHttpHeaderEnd buffer = none ∨ (fromUtf8 buffer).isSome

instance (buffer : List UInt8) : Decidable (Readable buffer) := inferInstanceAs (Decidable (_ ∨ _))

theorem length_read (stream : List UInt8) (n size : ℕ) :
    ((stream.drop n).take (min size (1024 - n))).length = readEnd stream n size - n := by
  rw [List.length_take, List.length_drop, readEnd]
  omega

theorem read_eq_nil_iff (stream : List UInt8) (n size : ℕ) :
    (stream.drop n).take (min size (1024 - n)) = [] ↔ readEnd stream n size = n := by
  have hle : n ≤ readEnd stream n size := Nat.le_add_right ..
  rw [← List.length_eq_zero_iff, length_read]
  omega

theorem take_append_read (stream : List UInt8) (n size : ℕ) :
    stream.take n ++ (stream.drop n).take (min size (1024 - n)) =
      stream.take (readEnd stream n size) := by
  have hle : n ≤ readEnd stream n size := Nat.le_add_right ..
  have hpiece : (stream.drop n).take (min size (1024 - n)) =
      (stream.drop n).take (readEnd stream n size - n) := by
    rw [List.take_eq_take_iff, List.length_drop, readEnd]
    omega
  rw [hpiece, ← List.take_add, Nat.add_sub_cancel' hle]

theorem readHttpRoute_full {stream : List UInt8} {n : ℕ} (hn : n ≤ stream.length) (h : 1024 ≤ n)
    (reads : List (Option ℕ)) :
    readHttpRoute (stream.take n) (stream.drop n) reads = some tooLarge := by
  have hfull : 1024 ≤ (stream.take n).length := by rwa [List.length_take_of_le hn]
  rw [readHttpRoute.eq_def, if_pos hfull, tooLarge]

/-- A read brings nothing, or the buffer is looked at again. -/
theorem readHttpRoute_take {stream : List UInt8} {n size : ℕ} (hn : n ≤ stream.length) (hlt : n < 1024)
    (reads : List (Option ℕ)) :
    readHttpRoute (stream.take n) (stream.drop n) (some size :: reads) =
      let n' := readEnd stream n size
      if n' = n then some emptyRequest
      else if Readable (stream.take n') then
        match declared (stream.take n') with
        | none => readHttpRoute (stream.take n') (stream.drop n') reads
        | some (request, bodyStart, contentLength) =>
          if n' < (bodyStart + contentLength) % (usizeMax + 1) then
            readHttpRoute (stream.take n') (stream.drop n') reads
          else some (parseHttpRoute request contentLength)
      else some invalidUtf8 := by
  have hlength : (stream.take n).length = n := List.length_take_of_le hn
  have hle : n ≤ readEnd stream n size := Nat.le_add_right ..
  have hend : (stream.take (readEnd stream n size)).length = readEnd stream n size :=
    List.length_take_of_le (readEnd_le hn hlt size).1
  rw [readHttpRoute, if_neg (by omega), hlength]
  dsimp only
  rw [take_append_read, length_read, List.drop_drop, Nat.add_sub_cancel' hle, hend]
  by_cases hend : readEnd stream n size = n
  · rw [if_pos hend, if_pos ((read_eq_nil_iff ..).2 hend), emptyRequest]
  · rw [if_neg hend, if_neg (mt (read_eq_nil_iff ..).1 hend)]
    cases hhead : findHttpHeaderEnd (stream.take (readEnd stream n size)) with
    | none =>
      have hreadable : Readable (stream.take (readEnd stream n size)) := Or.inl hhead
      rw [if_pos hreadable, declared, hhead]
      rfl
    | some headerEnd =>
      cases htext : fromUtf8 (stream.take (readEnd stream n size)) with
      | none =>
        have hbroken : ¬ Readable (stream.take (readEnd stream n size)) := by
          rw [Readable, hhead, htext]
          simp
        rw [if_neg hbroken]
        rfl
      | some request =>
        have hreadable : Readable (stream.take (readEnd stream n size)) := Or.inr (by rw [htext]; rfl)
        rw [if_pos hreadable, declared, hhead, htext]
        rfl

/-! ## All reads -/

/-- The reads go on until the buffer is full, and what has come of a body is text each time. -/
def Fills (stream : List UInt8) : ℕ → List (Option ℕ) → Prop
  | n, some size :: reads => 1024 ≤ n ∨ (readEnd stream n size ≠ n ∧
      Readable (stream.take (readEnd stream n size)) ∧ Fills stream (readEnd stream n size) reads)
  | n, _ => 1024 ≤ n

theorem fills_of_full {stream : List UInt8} {n : ℕ} (h : 1024 ≤ n) (reads : List (Option ℕ)) :
    Fills stream n reads := by
  cases reads with
  | nil => exact h
  | cons read reads =>
    cases read with
    | none => exact h
    | some size => exact Or.inl h

/-- An answer is an error of reading, or what `parse_http_route` makes of a buffer that holds as
many bytes as the sum tells. -/
theorem readHttpRoute_cases {stream : List UInt8} {n : ℕ} (hn : n ≤ stream.length)
    {reads : List (Option ℕ)} {answer : Except Str HttpRoute}
    (h : readHttpRoute (stream.take n) (stream.drop n) reads = some answer) :
    (answer = tooLarge ∧ Fills stream n reads) ∨ answer ∈ [readFailed, emptyRequest, invalidUtf8] ∨
      ∃ n' ≤ 1024, ∃ request bodyStart contentLength,
        declared (stream.take n') = some (request, bodyStart, contentLength) ∧
        (bodyStart + contentLength) % (usizeMax + 1) ≤ (stream.take n').length ∧
        answer = parseHttpRoute request contentLength := by
  induction reads generalizing n with
  | nil =>
    by_cases hfull : 1024 ≤ n
    · rw [readHttpRoute_full hn hfull] at h
      exact Or.inl ⟨(Option.some.inj h).symm, fills_of_full hfull _⟩
    · rw [readHttpRoute, List.length_take_of_le hn, if_neg hfull] at h
      cases h
  | cons read reads ih =>
    by_cases hfull : 1024 ≤ n
    · rw [readHttpRoute_full hn hfull] at h
      exact Or.inl ⟨(Option.some.inj h).symm, fills_of_full hfull _⟩
    · cases read with
      | none =>
        rw [readHttpRoute, List.length_take_of_le hn, if_neg hfull] at h
        rw [← Option.some.inj h]
        exact Or.inr (Or.inl (List.mem_cons_self ..))
      | some size =>
        have hend := readEnd_le hn (Nat.not_le.1 hfull) size
        rw [readHttpRoute_take hn (Nat.not_le.1 hfull)] at h
        dsimp only at h
        split_ifs at h with hnothing hreadable
        · rw [← Option.some.inj h]
          exact Or.inr (Or.inl (by simp))
        · have hfills (h : Fills stream (readEnd stream n size) reads) :
              Fills stream n (some size :: reads) := Or.inr ⟨hnothing, hreadable, h⟩
          split at h
          · exact (ih hend.1 h).imp_left fun hlarge => ⟨hlarge.1, hfills hlarge.2⟩
          · rename_i request bodyStart contentLength hdeclared
            split at h
            · exact (ih hend.1 h).imp_left fun hlarge => ⟨hlarge.1, hfills hlarge.2⟩
            · rename_i hcome
              have hlength := List.length_take_of_le hend.1
              refine Or.inr (Or.inr ⟨_, hend.2, request, bodyStart, contentLength, hdeclared, ?_,
                (Option.some.inj h).symm⟩)
              rw [hlength]
              exact Nat.not_lt.1 hcome
        · rw [← Option.some.inj h]
          exact Or.inr (Or.inl (by simp))

/-- A body that does not fit into the buffer. -/
def TooLarge (stream : List UInt8) : Prop :=
  (∃ n ≤ 1024, (declared (stream.take n)).isSome) ∧
    ∀ n ≤ 1024, ∀ request bodyStart contentLength,
      declared (stream.take n) = some (request, bodyStart, contentLength) →
        1024 < bodyStart + contentLength

/-- The sum is a `usize` whenever it is taken. -/
def NoOverflow (stream : List UInt8) : Prop :=
  ∀ n ≤ 1024, ∀ request bodyStart contentLength,
    declared (stream.take n) = some (request, bodyStart, contentLength) →
      bodyStart + contentLength ≤ usizeMax

/-- It is waited for until the buffer is full. -/
theorem readHttpRoute_of_fills {stream : List UInt8} (hlarge : TooLarge stream)
    (hsum : NoOverflow stream) {n : ℕ} (hn : n ≤ stream.length) {reads : List (Option ℕ)}
    (h : Fills stream n reads) :
    readHttpRoute (stream.take n) (stream.drop n) reads = some tooLarge := by
  induction reads generalizing n with
  | nil => exact readHttpRoute_full hn h _
  | cons read reads ih =>
    cases read with
    | none => exact readHttpRoute_full hn h _
    | some size =>
      by_cases hfull : 1024 ≤ n
      · exact readHttpRoute_full hn hfull _
      · obtain ⟨hread, hreadable, hfills⟩ := h.resolve_left hfull
        have hend := readEnd_le hn (Nat.not_le.1 hfull) size
        rw [readHttpRoute_take hn (Nat.not_le.1 hfull)]
        dsimp only
        rw [if_neg hread, if_pos hreadable]
        cases hdeclared : declared (stream.take (readEnd stream n size)) with
        | none => exact ih hend.1 hfills
        | some told =>
          obtain ⟨request, bodyStart, contentLength⟩ := told
          have hbeyond := hlarge.2 _ hend.2 _ _ _ hdeclared
          have hexact := hsum _ hend.2 _ _ _ hdeclared
          have hwaits : readEnd stream n size < (bodyStart + contentLength) % (usizeMax + 1) := by
            rw [Nat.mod_eq_of_lt (by omega)]
            omega
          dsimp only
          rw [if_pos hwaits]
          exact ih hend.1 hfills

/-! ## Safe lengths -/

/-- The sums are exact, a route is given only when the whole declared body has come, and a body
that does not fit is answered with 413. -/
structure LengthSafe (stream : List UInt8) (reads : List (Option ℕ)) : Prop where
  exact : ∀ n ≤ 1024, ∀ request bodyStart contentLength,
    declared (stream.take n) = some (request, bodyStart, contentLength) →
      (bodyStart + contentLength) % (usizeMax + 1) = bodyStart + contentLength
  whole : ∀ route, readHttpRoute [] stream reads = some (.ok route) →
    ∃ n ≤ 1024, ∃ request bodyStart contentLength,
      declared (stream.take n) = some (request, bodyStart, contentLength) ∧
        bodyStart + contentLength ≤ (stream.take n).length ∧ parseHttpRoute request contentLength = .ok route
  tooLarge : TooLarge stream → readHttpRoute [] stream reads = some tooLarge

theorem fills_of_tooLarge {stream : List UInt8} (hlarge : TooLarge stream) (hsum : NoOverflow stream)
    {reads : List (Option ℕ)} (h : readHttpRoute [] stream reads = some tooLarge) :
    Fills stream 0 reads := by
  rcases readHttpRoute_cases (n := 0) (Nat.zero_le _) h with ⟨-, hfills⟩ | herror | hparsed
  · exact hfills
  · exact absurd herror (by decide)
  · obtain ⟨n, hn, request, bodyStart, contentLength, hdeclared, hcome, -⟩ := hparsed
    have hbeyond := hlarge.2 n hn _ _ _ hdeclared
    have hexact := hsum n hn _ _ _ hdeclared
    have hbuffer := List.length_take_le n stream
    rw [Nat.mod_eq_of_lt (by omega)] at hcome
    omega

/-- Lengths are safe as long as no sum overflows, if the peer fills the buffer with text whenever it
declares a body that does not fit. -/
theorem lengthSafe_iff (stream : List UInt8) (reads : List (Option ℕ)) :
    LengthSafe stream reads ↔ (∀ n ≤ 1024, ∀ request bodyStart contentLength,
      declared (stream.take n) = some (request, bodyStart, contentLength) →
        bodyStart + contentLength ≤ usizeMax) ∧ (TooLarge stream → Fills stream 0 reads) := by
  constructor
  · intro h
    have hsum : NoOverflow stream := by
      intro n hn request bodyStart contentLength hdeclared
      have hexact := h.exact n hn _ _ _ hdeclared
      have hlt : (bodyStart + contentLength) % (usizeMax + 1) < usizeMax + 1 :=
        Nat.mod_lt _ (Nat.succ_pos _)
      omega
    exact ⟨hsum, fun hlarge => fills_of_tooLarge hlarge hsum (h.tooLarge hlarge)⟩
  · rintro ⟨hsum, hfills⟩
    refine ⟨?_, ?_, fun hlarge => readHttpRoute_of_fills hlarge hsum (Nat.zero_le _) (hfills hlarge)⟩
    · intro n hn request bodyStart contentLength hdeclared
      exact Nat.mod_eq_of_lt (Nat.lt_succ_of_le (hsum n hn _ _ _ hdeclared))
    · intro route hroute
      rcases readHttpRoute_cases (n := 0) (Nat.zero_le _) hroute with ⟨herror, -⟩ | herror | hparsed
      · cases herror
      · simp [readFailed, emptyRequest, invalidUtf8] at herror
      · obtain ⟨n, hn, request, bodyStart, contentLength, hdeclared, hcome, hanswer⟩ := hparsed
        have hexact := hsum n hn _ _ _ hdeclared
        rw [Nat.mod_eq_of_lt (Nat.lt_succ_of_le hexact)] at hcome
        exact ⟨n, hn, request, bodyStart, contentLength, hdeclared, hcome, hanswer.symm⟩

/-- A body of 4294967295 bytes, of which six have come. -/
def wrappedText : Str := "POST /api/command HTTP/1.1\r\nContent-Length: 4294967295\r\n\r\nreboot"

/-- The sum is 57, and the six bytes are a command. -/
theorem wrapped_executed :
    readHttpRoute [] (toUtf8 wrappedText) [some 64] = some (.ok (.command ⟨"reboot", by decide⟩)) ∧
      ¬ ∀ stream reads, LengthSafe stream reads := by
  constructor
  · decide +kernel
  · intro hall
    have hdeclared : declared ((toUtf8 wrappedText).take 64) = some (wrappedText, 58, 4294967295) := by
      decide +kernel
    have hexact := (hall (toUtf8 wrappedText) []).exact 64 (by decide) _ _ _ hdeclared
    exact absurd hexact (by decide)

end EspWaveRider.Firmware
