import EspWaveRider.Lib.Outbox

/-!
# The WebSocket under the MQTT client

`src/src/websocket_mqtt_client.cpp`.  What the MQTT client writes is collected in a buffer of
1024 bytes and sent as binary frames.  A copy outside a buffer is `none`.

* `write`, `writeByte`, `flush`, `loop` — the calls, and `flushPendingFrame` below them;
* `Models` — a session is an `Outbox`: what was sent, what waits, what was accepted;
* `writes_conserved` — from a connect to the next stop every accepted byte is sent or waits.
-/

namespace EspWaveRider.Cpp

/-- `WStype_t`, as far as the handler looks at it. -/
inductive WsEvent where
  | connected
  | bin (payload : List UInt8)
  | disconnected
  | error
  | other
  deriving DecidableEq

/-- What comes of a call of `sendBIN`, and the events that are handled meanwhile. -/
structure SendOutcome where
  sent : Bool
  events : List WsEvent

/-- A block of memory.  No object takes more than half of the 32 bits of a `size_t`. -/
structure Block where
  bytes : List UInt8
  fits : bytes.length < 2 ^ 31

namespace WebSocketMqttClient

def kRxBufferSize : ℕ := 2048
def kTxBufferSize : ℕ := 1024

end WebSocketMqttClient

open WebSocketMqttClient

/-- `rx` are the first `rxLength` bytes of `rxBuffer`. -/
structure WebSocketMqttClient where
  socketConnected : Bool := false
  connectFailed : Bool := false
  rx : List UInt8 := []
  txBuffer : Vector UInt8 kTxBufferSize := Vector.replicate kTxBufferSize 0
  txLength : ℕ := 0

namespace WebSocketMqttClient

/-- `txBuffer[0..txLength)`. -/
def content (c : WebSocketMqttClient) : List UInt8 := c.txBuffer.toList.take c.txLength

/-! ## Events -/

/-- The newest bytes are kept. -/
def appendRx (c : WebSocketMqttClient) (payload : List UInt8) : WebSocketMqttClient :=
  if payload = [] then c
  else
    let kept := payload.drop (payload.length - kRxBufferSize)
    if c.rx.length + kept.length > kRxBufferSize then
      let overflow := c.rx.length + kept.length - kRxBufferSize
      if overflow ≥ c.rx.length then { c with rx := kept }
      else { c with rx := c.rx.drop overflow ++ kept }
    else { c with rx := c.rx ++ kept }

def handleEvent (c : WebSocketMqttClient) : WsEvent → WebSocketMqttClient
  | .connected => { c with socketConnected := true, connectFailed := false }
  | .bin payload => c.appendRx payload
  | .disconnected => { c with socketConnected := false, connectFailed := true }
  | .error => { c with socketConnected := false, connectFailed := true }
  | .other => c

def handleEvents (c : WebSocketMqttClient) (events : List WsEvent) : WebSocketMqttClient :=
  events.foldl handleEvent c

def stop (c : WebSocketMqttClient) : WebSocketMqttClient :=
  { c with txLength := 0, rx := [], socketConnected := false, connectFailed := false }

/-- The rounds of the loop of `connect`, with the events of each. -/
def awaitConnection (c : WebSocketMqttClient) : List (List WsEvent) → WebSocketMqttClient
  | [] => c
  | events :: rounds =>
    if c.socketConnected || c.connectFailed then c else (c.handleEvents events).awaitConnection rounds

def connect (c : WebSocketMqttClient) (rounds : List (List WsEvent)) : WebSocketMqttClient :=
  { c.stop with connectFailed := false, socketConnected := false }.awaitConnection rounds

/-- `memcpy(txBuffer + offset, bytes, bytes.length)`. -/
def memcpy (txBuffer : Vector UInt8 kTxBufferSize) (offset : ℕ) (bytes : List UInt8) :
    Option (Vector UInt8 kTxBufferSize) :=
  if offset + bytes.length ≤ kTxBufferSize then
    some (Vector.ofFn fun i =>
      if offset ≤ i then bytes.getD (i - offset) txBuffer[i] else txBuffer[i])
  else none

end WebSocketMqttClient

/-- The client with a log: every frame given to `sendBIN` with whether it was sent, and the
bytes of the writes that returned their full size. -/
structure WebSocketSession where
  client : WebSocketMqttClient
  frames : List (List UInt8 × Bool) := []
  accepted : List UInt8 := []

namespace WebSocketSession

/-- The payloads that were sent. -/
def sent (s : WebSocketSession) : List (List UInt8) := (s.frames.filter (·.2)).map (·.1)

/-! ## The calls

`line` says what comes of the first, second, … call of `sendBIN`. -/

def sendBIN (line : ℕ → SendOutcome) (s : WebSocketSession) (payload : List UInt8) :
    Bool × WebSocketSession :=
  let outcome := line s.frames.length
  (outcome.sent, { s with
    client := s.client.handleEvents outcome.events
    frames := s.frames ++ [(payload, outcome.sent)] })

def flushPendingFrame (line : ℕ → SendOutcome) (s : WebSocketSession) : Bool × WebSocketSession :=
  if s.client.txLength = 0 then (true, s)
  else if !s.client.socketConnected then (false, s)
  else
    let (sent, s) := sendBIN line s s.client.content
    (sent, if sent then { s with client := { s.client with txLength := 0 } } else s)

/-- `txBuffer[txLength++] = value`. -/
def storeByte (s : WebSocketSession) (value : UInt8) : Option WebSocketSession :=
  if h : s.client.txLength < kTxBufferSize then
    some { s with client := { s.client with
      txBuffer := s.client.txBuffer.set s.client.txLength value h
      txLength := s.client.txLength + 1 } }
  else none

/-- `write(uint8_t)`. -/
def writeByte (line : ℕ → SendOutcome) (s : WebSocketSession) (value : UInt8) :
    Option (ℕ × WebSocketSession) :=
  if s.client.txLength ≥ kTxBufferSize then
    let (flushed, s) := s.flushPendingFrame line
    if !flushed then some (0, s) else (s.storeByte value).map (1, ·)
  else (s.storeByte value).map (1, ·)

/-- The end of `write(const uint8_t*, size_t)`, after the flush. -/
def writeFlushed (line : ℕ → SendOutcome) (s : WebSocketSession) (buffer : List UInt8) :
    Option (ℕ × WebSocketSession) :=
  let size := buffer.length
  if size ≤ kTxBufferSize then
    (memcpy s.client.txBuffer 0 buffer).map fun txBuffer =>
      (size, { s with client := { s.client with txBuffer, txLength := size } })
  else
    let (sent, s) := s.sendBIN line buffer
    some (if sent then size else 0, s)

/-- `write(const uint8_t*, size_t)`; `none` is the null pointer.  A `size_t` has 32 bits. -/
def write (line : ℕ → SendOutcome) (s : WebSocketSession) (buffer : Option Block) :
    Option (ℕ × WebSocketSession) :=
  match buffer with
  | none => some (0, s)
  | some buffer =>
    let size := buffer.bytes.length
    if size = 0 then some (0, s)
    else if s.client.txLength > 0 ∧ (s.client.txLength + size) % 2 ^ 32 ≤ kTxBufferSize then
      (memcpy s.client.txBuffer s.client.txLength buffer.bytes).map fun txBuffer =>
        (size, { s with client := { s.client with txBuffer, txLength := s.client.txLength + size } })
    else if s.client.txLength > 0 then
      let (flushed, s) := s.flushPendingFrame line
      if !flushed then some (0, s) else s.writeFlushed line buffer.bytes
    else s.writeFlushed line buffer.bytes

def flush (line : ℕ → SendOutcome) (s : WebSocketSession) : WebSocketSession :=
  (s.flushPendingFrame line).2

/-- The events are those that the socket's own loop handles. -/
def loop (line : ℕ → SendOutcome) (s : WebSocketSession) (events : List WsEvent) : WebSocketSession :=
  let s := s.flush line
  { s with client := s.client.handleEvents events }

/-- `read(uint8_t*, size_t)`. -/
def read (s : WebSocketSession) (size : ℕ) : WebSocketSession :=
  { s with client := { s.client with rx := s.client.rx.drop size } }

end WebSocketSession

/-- A call of the MQTT client, other than `connect` and `stop`. -/
inductive WebSocketCall where
  | writeByte (value : UInt8)
  | write (buffer : Option Block)
  | flush
  /-- `loop` and `available` do the same. -/
  | loop (events : List WsEvent)
  | read (size : ℕ)

namespace WebSocketMqttClient

/-! ## The buffer -/

theorem length_content {c : WebSocketMqttClient} (h : c.txLength ≤ kTxBufferSize) :
    c.content.length = c.txLength := by
  rw [content, List.length_take, Vector.length_toList]
  omega

/-- No event touches the buffer of what is to be sent. -/
structure SameBuffer (c c' : WebSocketMqttClient) : Prop where
  txBuffer : c'.txBuffer = c.txBuffer
  txLength : c'.txLength = c.txLength

theorem SameBuffer.content {c c' : WebSocketMqttClient} (h : SameBuffer c c') :
    c'.content = c.content := by
  rw [WebSocketMqttClient.content, h.txBuffer, h.txLength, WebSocketMqttClient.content]

theorem sameBuffer_appendRx (c : WebSocketMqttClient) (payload : List UInt8) :
    SameBuffer c (c.appendRx payload) := by
  unfold appendRx
  dsimp only
  split_ifs <;> exact ⟨rfl, rfl⟩

theorem sameBuffer_handleEvent (c : WebSocketMqttClient) (event : WsEvent) :
    SameBuffer c (c.handleEvent event) := by
  cases event with
  | bin payload => exact c.sameBuffer_appendRx payload
  | connected | disconnected | error | other => exact ⟨rfl, rfl⟩

theorem sameBuffer_handleEvents (c : WebSocketMqttClient) (events : List WsEvent) :
    SameBuffer c (c.handleEvents events) := by
  unfold handleEvents
  induction events generalizing c with
  | nil => exact ⟨rfl, rfl⟩
  | cons event events ih =>
    have hevent := c.sameBuffer_handleEvent event
    have hrest := ih (c.handleEvent event)
    exact ⟨hrest.txBuffer.trans hevent.txBuffer, hrest.txLength.trans hevent.txLength⟩

theorem txLength_connect (c : WebSocketMqttClient) (rounds : List (List WsEvent)) :
    (c.connect rounds).txLength = 0 := by
  have hawait (c : WebSocketMqttClient) : (c.awaitConnection rounds).txLength = c.txLength := by
    induction rounds generalizing c with
    | nil => rfl
    | cons events rounds ih =>
      rw [awaitConnection]
      split
      · rfl
      · rw [ih, (sameBuffer_handleEvents _ _).txLength]
  rw [connect, hawait]
  rfl

/-- Behind `offset` stand the copied bytes, before it what stood there. -/
theorem memcpy_spec (txBuffer : Vector UInt8 kTxBufferSize) {offset : ℕ} {bytes : List UInt8}
    (h : offset + bytes.length ≤ kTxBufferSize) :
    ∃ txBuffer', memcpy txBuffer offset bytes = some txBuffer' ∧
      txBuffer'.toList.take (offset + bytes.length) = txBuffer.toList.take offset ++ bytes := by
  refine ⟨_, if_pos h, List.ext_getElem ?_ fun i hi _ => ?_⟩
  · simp only [List.length_take, List.length_append, Vector.length_toList]
    omega
  · rw [List.length_take, Vector.length_toList] at hi
    have hbefore : (txBuffer.toList.take offset).length = offset := by
      rw [List.length_take, Vector.length_toList]
      omega
    rw [List.getElem_take, Vector.getElem_toList, Vector.getElem_ofFn]
    dsimp only
    split
    · rename_i hle
      have hlt : i - offset < bytes.length := by omega
      rw [List.getElem_append_right (by omega), List.getD_eq_getElem _ _ hlt]
      simp only [hbefore]
    · rename_i hlt
      rw [List.getElem_append_left (by omega), List.getElem_take, Vector.getElem_toList]
      rfl

end WebSocketMqttClient

namespace WebSocketSession

/-- What a write returned; when this is the full size, the bytes are accepted. -/
def note (bytes : List UInt8) (result : ℕ × WebSocketSession) : WebSocketSession :=
  if result.1 = bytes.length then { result.2 with accepted := result.2.accepted ++ bytes }
  else result.2

def call (line : ℕ → SendOutcome) (s : WebSocketSession) : WebSocketCall → Option WebSocketSession
  | .writeByte value => (s.writeByte line value).map (note [value])
  | .write none => (s.write line none).map (·.2)
  | .write (some buffer) => (s.write line (some buffer)).map (note buffer.bytes)
  | .flush => some (s.flush line)
  | .loop events => some (s.loop line events)
  | .read size => some (s.read size)

/-- The state after `connect`, from any client, and then these calls. -/
def run (line : ℕ → SendOutcome) (c : WebSocketMqttClient) (rounds : List (List WsEvent))
    (calls : List WebSocketCall) : Option WebSocketSession :=
  calls.foldlM (call line) { client := c.connect rounds }

/-! ## Nothing is lost -/

/-- The outbox that a session is. -/
structure Models (s : WebSocketSession) (o : Outbox UInt8 kTxBufferSize) : Prop where
  sent : o.sent = s.sent
  pending : o.pending = s.client.content
  accepted : o.accepted = s.accepted
  txLength_le : s.client.txLength ≤ kTxBufferSize

theorem Models.length_pending {s : WebSocketSession} {o : Outbox UInt8 kTxBufferSize}
    (h : s.Models o) : o.pending.length = s.client.txLength := by
  rw [h.pending, length_content h.txLength_le]

/-- The frame counts as sent if and only if the call succeeds; nothing else changes. -/
theorem sendBIN_spec (line : ℕ → SendOutcome) (s : WebSocketSession) (payload : List UInt8) :
    (s.sendBIN line payload).2.sent =
        (if (s.sendBIN line payload).1 then s.sent ++ [payload] else s.sent) ∧
      (s.sendBIN line payload).2.client.content = s.client.content ∧
      (s.sendBIN line payload).2.client.txLength = s.client.txLength ∧
      (s.sendBIN line payload).2.accepted = s.accepted := by
  have hsame := s.client.sameBuffer_handleEvents (line s.frames.length).events
  refine ⟨?_, hsame.content, hsame.txLength, rfl⟩
  cases hsent : (line s.frames.length).sent <;> simp [sendBIN, sent, hsent]

/-- A flush that succeeds leaves the buffer empty, and one that fails leaves it as it was. -/
theorem Models.flushPendingFrame {s : WebSocketSession} {o : Outbox UInt8 kTxBufferSize}
    (h : s.Models o) (line : ℕ → SendOutcome) :
    ∃ o', (s.flushPendingFrame line).2.Models o' ∧ o'.accepted = o.accepted ∧
      ((s.flushPendingFrame line).1 → (s.flushPendingFrame line).2.client.txLength = 0) := by
  rw [WebSocketSession.flushPendingFrame]
  split
  · rename_i hzero
    exact ⟨o, h, rfl, fun _ => hzero⟩
  · split
    · exact ⟨o, h, rfl, fun hfalse => by cases hfalse⟩
    · obtain ⟨hsent, hcontent, hlength, haccepted⟩ := sendBIN_spec line s s.client.content
      dsimp only
      split
      · rename_i hok
        rw [if_pos hok] at hsent
        refine ⟨o.deliver, ⟨?_, rfl, h.accepted.trans haccepted.symm, Nat.zero_le _⟩, rfl,
          fun _ => rfl⟩
        rw [Outbox.sent_deliver, h.sent, h.pending]
        exact hsent.symm
      · rename_i hfailed
        rw [if_neg hfailed] at hsent
        refine ⟨o, ⟨h.sent.trans hsent.symm, h.pending.trans hcontent.symm,
          h.accepted.trans haccepted.symm, hlength ▸ h.txLength_le⟩, rfl, fun hok => absurd hok hfailed⟩

/-- A write copies nothing outside the buffer, and what it accepts goes into the outbox. -/
def Accepts (bytes : List UInt8) (result : Option (ℕ × WebSocketSession)) : Prop :=
  ∃ r, result = some r ∧ ∃ o, (note bytes r).Models o

/-- A write that returns nothing accepts nothing. -/
theorem accepts_zero {s : WebSocketSession} {o : Outbox UInt8 kTxBufferSize} (h : s.Models o)
    {bytes : List UInt8} (hbytes : bytes ≠ []) : Accepts bytes (some (0, s)) := by
  have hlength : (0 : ℕ) ≠ bytes.length := fun hzero => hbytes (List.length_eq_zero_iff.1 hzero.symm)
  exact ⟨_, rfl, o, by rwa [note, if_neg hlength]⟩

theorem Models.storeByte {s : WebSocketSession} {o : Outbox UInt8 kTxBufferSize} (h : s.Models o)
    (hroom : s.client.txLength < kTxBufferSize) (value : UInt8) :
    Accepts [value] ((s.storeByte value).map (1, ·)) := by
  have hpush : o.pending.length + [value].length ≤ kTxBufferSize := by
    rw [h.length_pending]
    exact hroom
  refine ⟨_, congrArg (Option.map _) (dif_pos hroom), o.push [value] hpush, h.sent, ?_, ?_, hroom⟩
  · rw [Outbox.pending_push, h.pending]
    simp only [note, content, List.length_singleton, if_true, Vector.toList_set]
    rw [List.take_add_one, List.take_set_of_le le_rfl,
      List.getElem?_set_self (by rw [Vector.length_toList]; exact hroom)]
    rfl
  · rw [Outbox.accepted_push, h.accepted]
    rfl

theorem Models.writeByte {s : WebSocketSession} {o : Outbox UInt8 kTxBufferSize} (h : s.Models o)
    (line : ℕ → SendOutcome) (value : UInt8) : Accepts [value] (s.writeByte line value) := by
  rw [WebSocketSession.writeByte]
  split
  · obtain ⟨o', hflush, _, hempty⟩ := h.flushPendingFrame line
    dsimp only
    split
    · exact accepts_zero hflush (List.cons_ne_nil _ _)
    · rename_i hok
      have hzero := hempty (by simpa using hok)
      exact hflush.storeByte (by rw [hzero]; decide) value
  · rename_i hroom
    exact h.storeByte (Nat.lt_of_not_le hroom) value

/-- A copy into the buffer behind what waits there. -/
theorem Models.append {s : WebSocketSession} {o : Outbox UInt8 kTxBufferSize} (h : s.Models o)
    {bytes : List UInt8} (hroom : s.client.txLength + bytes.length ≤ kTxBufferSize) :
    Accepts bytes ((memcpy s.client.txBuffer s.client.txLength bytes).map fun txBuffer =>
      (bytes.length, { s with client := { s.client with
        txBuffer, txLength := s.client.txLength + bytes.length } })) := by
  obtain ⟨txBuffer', hcopy, htake⟩ := memcpy_spec s.client.txBuffer hroom
  have hpush : o.pending.length + bytes.length ≤ kTxBufferSize := by
    rwa [h.length_pending]
  rw [hcopy]
  refine ⟨_, rfl, o.push bytes hpush, ?_⟩
  rw [note, if_pos rfl]
  refine ⟨h.sent, ?_, ?_, hroom⟩
  · rw [Outbox.pending_push, h.pending]
    exact htake.symm
  · rw [Outbox.accepted_push, h.accepted]

/-- With the buffer empty a block is copied to its start, or sent when it is too large for it. -/
theorem Models.writeFlushed {s : WebSocketSession} {o : Outbox UInt8 kTxBufferSize} (h : s.Models o)
    (hempty : s.client.txLength = 0) (line : ℕ → SendOutcome) {bytes : List UInt8}
    (hbytes : bytes ≠ []) : Accepts bytes (s.writeFlushed line bytes) := by
  have hpending : o.pending = [] := by
    rw [h.pending, content, hempty, List.take_zero]
  rw [WebSocketSession.writeFlushed]
  dsimp only
  split
  · rename_i hsmall
    have hroom : s.client.txLength + bytes.length ≤ kTxBufferSize := by
      rwa [hempty, Nat.zero_add]
    have happend := h.append hroom
    rw [hempty, Nat.zero_add] at happend
    exact happend
  · obtain ⟨hsent, hcontent, hlength, haccepted⟩ := sendBIN_spec line s bytes
    split
    · rename_i hok
      rw [if_pos hok] at hsent
      refine ⟨_, rfl, o.pass bytes hpending, ?_⟩
      rw [note, if_pos rfl]
      refine ⟨?_, ?_, ?_, hlength ▸ h.txLength_le⟩
      · rw [Outbox.sent_pass, h.sent]
        exact hsent.symm
      · exact (hpending.symm.trans h.pending).trans hcontent.symm
      · rw [Outbox.accepted_pass, h.accepted, haccepted]
    · rename_i hfailed
      rw [if_neg hfailed] at hsent
      exact accepts_zero ⟨h.sent.trans hsent.symm, h.pending.trans hcontent.symm,
        h.accepted.trans haccepted.symm, hlength ▸ h.txLength_le⟩ hbytes

theorem Models.write {s : WebSocketSession} {o : Outbox UInt8 kTxBufferSize} (h : s.Models o)
    (line : ℕ → SendOutcome) (buffer : Block) : Accepts buffer.bytes (s.write line (some buffer)) := by
  rw [WebSocketSession.write]
  dsimp only
  split
  · rename_i hnone
    have hnote : note [] (0, s) = s := by simp [note]
    refine ⟨_, rfl, o, ?_⟩
    rwa [List.length_eq_zero_iff.1 hnone, hnote]
  · rename_i hsome
    have hbytes : buffer.bytes ≠ [] := fun hnil => hsome (List.length_eq_zero_iff.2 hnil)
    split
    · rename_i hfits
      -- the sum of two sizes stays within 32 bits, so that the test sees it as it is
      have hsum : s.client.txLength + buffer.bytes.length < 2 ^ 32 := by
        have hlength := h.txLength_le
        have hblock := buffer.fits
        rw [kTxBufferSize] at hlength
        omega
      rw [Nat.mod_eq_of_lt hsum] at hfits
      exact h.append hfits.2
    · split
      · obtain ⟨o', hflush, _, hempty⟩ := h.flushPendingFrame line
        split
        · exact accepts_zero hflush hbytes
        · rename_i hok
          exact hflush.writeFlushed (hempty (by simpa using hok)) line hbytes
      · rename_i hzero
        exact h.writeFlushed (by omega) line hbytes

/-- One call. -/
theorem Models.call {s : WebSocketSession} {o : Outbox UInt8 kTxBufferSize} (h : s.Models o)
    (line : ℕ → SendOutcome) (c : WebSocketCall) :
    ∃ s', s.call line c = some s' ∧ ∃ o', s'.Models o' := by
  have hwrite {bytes : List UInt8} {result : Option (ℕ × WebSocketSession)}
      (hresult : Accepts bytes result) :
      ∃ s', result.map (note bytes) = some s' ∧ ∃ o', s'.Models o' := by
    obtain ⟨r, rfl, hr⟩ := hresult
    exact ⟨_, rfl, hr⟩
  obtain ⟨o', hflush, _⟩ := h.flushPendingFrame line
  cases c with
  | writeByte value => exact hwrite (h.writeByte line value)
  | write buffer =>
    cases buffer with
    | none => exact ⟨s, rfl, o, h⟩
    | some buffer => exact hwrite (h.write line buffer)
  | flush => exact ⟨_, rfl, o', hflush⟩
  | loop events =>
    have hsame := sameBuffer_handleEvents (s.flush line).client events
    exact ⟨_, rfl, o', hflush.sent, hflush.pending.trans hsame.content.symm, hflush.accepted,
      hsame.txLength ▸ hflush.txLength_le⟩
  | read size => exact ⟨_, rfl, o, h.sent, h.pending, h.accepted, h.txLength_le⟩

/-- In every run from a connect on, whatever becomes of the frames and of the connection: no copy
is outside the buffer, and the frames that were sent together with what waits in the buffer are
the bytes of the writes that returned their full size. -/
theorem writes_conserved (line : ℕ → SendOutcome) (c : WebSocketMqttClient)
    (rounds : List (List WsEvent)) (calls : List WebSocketCall) :
    ∃ s, run line c rounds calls = some s ∧ s.sent.flatten ++ s.client.content = s.accepted ∧
      s.client.txLength ≤ kTxBufferSize := by
  have hrun (s : WebSocketSession) (o : Outbox UInt8 kTxBufferSize) (h : s.Models o) :
      ∃ s', calls.foldlM (WebSocketSession.call line) s = some s' ∧ ∃ o', s'.Models o' := by
    induction calls generalizing s o with
    | nil => exact ⟨s, rfl, o, h⟩
    | cons call calls ih =>
      obtain ⟨s', hs', o', h'⟩ := h.call line call
      rw [List.foldlM_cons, hs']
      exact ih s' o' h'
  have hconnect : Models { client := c.connect rounds } .empty := by
    refine ⟨rfl, ?_, rfl, ?_⟩
    · rw [content, txLength_connect, List.take_zero]
      rfl
    · rw [txLength_connect]
      exact Nat.zero_le _
  obtain ⟨s, hs, o, h⟩ := hrun _ _ hconnect
  refine ⟨s, hs, ?_, h.txLength_le⟩
  rw [← h.sent, ← h.pending, ← h.accepted]
  exact o.conserved

end WebSocketSession

end EspWaveRider.Cpp
