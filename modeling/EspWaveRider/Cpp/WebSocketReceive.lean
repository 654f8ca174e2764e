import EspWaveRider.Cpp.WebSocketClient

/-!
# What the MQTT client reads from the WebSocket

The receive side of `src/src/websocket_mqtt_client.cpp`.  Payloads are appended to a buffer of
2048 bytes, from which the MQTT client reads; what does not fit pushes out the oldest bytes.

* `RxSession` — the client with what it received and what its reads returned;
* `length_rx_appendRx` — the buffer never holds more than it can;
* `call_receives` — the other calls concern the buffer by the events they handle only;
* `inOrder_iff` — the bytes are read in order and without a gap exactly as long as every payload
  fits behind what still waits.
-/

namespace EspWaveRider.Cpp

open WebSocketMqttClient

/-- The client from a connect on, with the bytes of all payloads and what each read returned. -/
structure RxSession where
  client : WebSocketMqttClient
  received : List UInt8 := []
  returned : List (List UInt8) := []

/-- Something that concerns the receive buffer: an event, or a read of at most `size` bytes. -/
inductive RxStep where
  | event (e : WsEvent)
  | read (size : ℕ)

/-- The bytes an event brings. -/
def WsEvent.payload : WsEvent → List UInt8
  | .bin payload => payload
  | _ => []

namespace WebSocketMqttClient

/-- `read(uint8_t*, size_t)` with what it puts into the caller's buffer. -/
def readRx (c : WebSocketMqttClient) (size : ℕ) : List UInt8 × WebSocketMqttClient :=
  if size = 0 ∨ c.rx.length = 0 then ([], c)
  else
    let bytesToCopy := if c.rx.length < size then c.rx.length else size
    (c.rx.take bytesToCopy, { c with rx := c.rx.drop bytesToCopy })

/-- A read takes the oldest bytes and leaves the others. -/
theorem readRx_append (c : WebSocketMqttClient) (size : ℕ) :
    (c.readRx size).1 ++ (c.readRx size).2.rx = c.rx := by
  rw [readRx]
  split
  · rfl
  · exact List.take_append_drop _ _

theorem rx_readRx (c : WebSocketMqttClient) (size : ℕ) : (c.readRx size).2.rx = c.rx.drop size := by
  rw [readRx]
  split
  · rename_i hnone
    rcases hnone with hsize | hrx
    · rw [hsize, List.drop_zero]
    · rw [List.length_eq_zero_iff.1 hrx, List.drop_nil]
  · dsimp only
    split
    · rename_i hlt
      rw [List.drop_length, List.drop_eq_nil_of_le hlt.le]
    · rfl

theorem rx_appendRx_of_fits {c : WebSocketMqttClient} {payload : List UInt8}
    (h : c.rx.length + payload.length ≤ kRxBufferSize) : (c.appendRx payload).rx = c.rx ++ payload := by
  have hkept : payload.drop (payload.length - kRxBufferSize) = payload := by
    rw [Nat.sub_eq_zero_of_le (by omega), List.drop_zero]
  rw [appendRx]
  split
  · rename_i hnil
    rw [hnil, List.append_nil]
  · dsimp only
    rw [hkept, if_neg (by omega)]

/-- No copy is outside the buffer, and a payload that does not fit fills it. -/
theorem length_rx_appendRx {c : WebSocketMqttClient} (h : c.rx.length ≤ kRxBufferSize)
    (payload : List UInt8) :
    (c.appendRx payload).rx.length = min kRxBufferSize (c.rx.length + payload.length) := by
  rw [appendRx]
  split
  · rename_i hnil
    rw [hnil, List.length_nil]
    omega
  · dsimp only
    have hkept : (payload.drop (payload.length - kRxBufferSize)).length = min payload.length kRxBufferSize := by
      rw [List.length_drop]
      omega
    split_ifs with hover hall
    · dsimp only
      omega
    · rw [List.length_append, List.length_drop]
      omega
    · rw [List.length_append]
      omega

theorem rx_handleEvent (c : WebSocketMqttClient) (e : WsEvent) :
    (c.handleEvent e).rx = (c.appendRx e.payload).rx := by
  cases e with
  | bin payload => rfl
  | connected | disconnected | error | other => rfl

end WebSocketMqttClient

/-! ## The other calls -/

namespace WebSocketMqttClient

/-- The receive side of two clients is the same. -/
structure SameReceive (c c' : WebSocketMqttClient) : Prop where
  rx : c'.rx = c.rx
  socketConnected : c'.socketConnected = c.socketConnected

theorem SameReceive.handleEvent {c c' : WebSocketMqttClient} (h : SameReceive c c') (e : WsEvent) :
    SameReceive (c.handleEvent e) (c'.handleEvent e) := by
  cases e with
  | bin payload =>
    constructor
    · simp only [WebSocketMqttClient.handleEvent, appendRx, h.rx, apply_ite WebSocketMqttClient.rx]
    · simp only [WebSocketMqttClient.handleEvent, appendRx, h.socketConnected,
        apply_ite WebSocketMqttClient.socketConnected, ite_self]
  | connected | disconnected | error => exact ⟨h.rx, rfl⟩
  | other => exact h

theorem SameReceive.handleEvents {c c' : WebSocketMqttClient} (h : SameReceive c c')
    (events : List WsEvent) : SameReceive (c.handleEvents events) (c'.handleEvents events) := by
  induction events generalizing c c' with
  | nil => exact h
  | cons e events ih => exact ih (h.handleEvent e)

/-- The second client is the first after some events, as far as receiving is concerned. -/
def Receives (c c' : WebSocketMqttClient) : Prop := ∃ events, SameReceive (c.handleEvents events) c'

theorem receives_of_same {c c' : WebSocketMqttClient} (h : SameReceive c c') : Receives c c' := ⟨[], h⟩

theorem Receives.trans {a b c : WebSocketMqttClient} (hab : Receives a b) (hbc : Receives b c) :
    Receives a c := by
  obtain ⟨first, hfirst⟩ := hab
  obtain ⟨second, hsecond⟩ := hbc
  refine ⟨first ++ second, ?_⟩
  have hall := hfirst.handleEvents second
  rw [WebSocketMqttClient.handleEvents, List.foldl_append]
  exact ⟨hsecond.rx.trans hall.rx, hsecond.socketConnected.trans hall.socketConnected⟩

end WebSocketMqttClient

namespace WebSocketSession

theorem receives_flushPendingFrame (line : ℕ → SendOutcome) (s : WebSocketSession) :
    Receives s.client (s.flushPendingFrame line).2.client := by
  rw [flushPendingFrame]
  split_ifs
  · exact receives_of_same ⟨rfl, rfl⟩
  · exact receives_of_same ⟨rfl, rfl⟩
  · refine ⟨(line s.frames.length).events, ?_⟩
    dsimp only
    split
    · exact ⟨rfl, rfl⟩
    · exact ⟨rfl, rfl⟩

theorem receives_writeFlushed (line : ℕ → SendOutcome) {s : WebSocketSession} {buffer : List UInt8}
    {r : ℕ × WebSocketSession} (h : s.writeFlushed line buffer = some r) :
    Receives s.client r.2.client := by
  rw [writeFlushed] at h
  dsimp only at h
  split at h
  · obtain ⟨txBuffer, -, rfl⟩ := Option.map_eq_some_iff.1 h
    exact receives_of_same ⟨rfl, rfl⟩
  · rw [← Option.some.inj h]
    exact ⟨(line s.frames.length).events, rfl, rfl⟩

theorem receives_storeByte {s s' : WebSocketSession} {value : UInt8} (h : s.storeByte value = some s') :
    Receives s.client s'.client := by
  rw [storeByte] at h
  split at h
  · rw [← Option.some.inj h]
    exact receives_of_same ⟨rfl, rfl⟩
  · cases h

theorem receives_writeByte (line : ℕ → SendOutcome) {s : WebSocketSession} {value : UInt8}
    {r : ℕ × WebSocketSession} (h : s.writeByte line value = some r) : Receives s.client r.2.client := by
  have hflush := receives_flushPendingFrame line s
  rw [writeByte] at h
  split at h
  · dsimp only at h
    split at h
    · rw [← Option.some.inj h]
      exact hflush
    · obtain ⟨s', hstore, rfl⟩ := Option.map_eq_some_iff.1 h
      exact hflush.trans (receives_storeByte hstore)
  · obtain ⟨s', hstore, rfl⟩ := Option.map_eq_some_iff.1 h
    exact receives_storeByte hstore

theorem receives_write (line : ℕ → SendOutcome) {s : WebSocketSession} {buffer : Option Block}
    {r : ℕ × WebSocketSession} (h : s.write line buffer = some r) : Receives s.client r.2.client := by
  have hflush := receives_flushPendingFrame line s
  cases buffer with
  | none =>
    rw [← Option.some.inj h]
    exact receives_of_same ⟨rfl, rfl⟩
  | some buffer =>
    rw [write] at h
    dsimp only at h
    split_ifs at h
    · rw [← Option.some.inj h]
      exact receives_of_same ⟨rfl, rfl⟩
    · obtain ⟨txBuffer, -, rfl⟩ := Option.map_eq_some_iff.1 h
      exact receives_of_same ⟨rfl, rfl⟩
    · rw [← Option.some.inj h]
      exact hflush
    · exact hflush.trans (receives_writeFlushed line h)
    · exact receives_writeFlushed line h

theorem client_note (bytes : List UInt8) (r : ℕ × WebSocketSession) :
    (note bytes r).client = r.2.client := by
  rw [note]
  split
  · rfl
  · rfl

/-- To the receive side a call is some events, or a read. -/
theorem call_receives (line : ℕ → SendOutcome) {s s' : WebSocketSession} {c : WebSocketCall}
    (h : s.call line c = some s') :
    Receives s.client s'.client ∨ ∃ size, SameReceive (s.client.readRx size).2 s'.client := by
  cases c with
  | writeByte value =>
    obtain ⟨r, hwrite, rfl⟩ := Option.map_eq_some_iff.1 h
    rw [client_note]
    exact Or.inl (receives_writeByte line hwrite)
  | write buffer =>
    cases buffer with
    | none =>
      rw [← Option.some.inj h]
      exact Or.inl (receives_of_same ⟨rfl, rfl⟩)
    | some buffer =>
      obtain ⟨r, hwrite, rfl⟩ := Option.map_eq_some_iff.1 h
      rw [client_note]
      exact Or.inl (receives_write line hwrite)
  | flush =>
    rw [← Option.some.inj h]
    exact Or.inl (receives_flushPendingFrame line s)
  | loop events =>
    rw [← Option.some.inj h]
    exact Or.inl ((receives_flushPendingFrame line s).trans ⟨events, rfl, rfl⟩)
  | read size =>
    rw [← Option.some.inj h]
    refine Or.inr ⟨size, (rx_readRx _ _).symm, ?_⟩
    rw [readRx]
    split
    · rfl
    · rfl

end WebSocketSession

namespace RxSession

/-- `connect` empties the buffer before it opens the connection. -/
def opening (c : WebSocketMqttClient) : RxSession :=
  { client := { c.stop with connectFailed := false, socketConnected := false } }

def step (s : RxSession) : RxStep → RxSession
  | .event e => { s with client := s.client.handleEvent e, received := s.received ++ e.payload }
  | .read size => { s with
      client := (s.client.readRx size).2, returned := s.returned ++ [(s.client.readRx size).1] }

def run (s : RxSession) (steps : List RxStep) : RxSession := steps.foldl step s

/-- What was returned and what waits is what was received. -/
def InOrder (s : RxSession) : Prop := s.returned.flatten ++ s.client.rx = s.received

/-- The payload fits behind what waits. -/
def Fits (s : RxSession) : RxStep → Prop
  | .event e => s.client.rx.length + e.payload.length ≤ kRxBufferSize
  | .read _ => True

/-- Every payload of the run fits. -/
def FitsAll (s : RxSession) : List RxStep → Prop
  | [] => True
  | e :: steps => s.Fits e ∧ (s.step e).FitsAll steps

/-- The number of bytes that are not lost. -/
def kept (s : RxSession) : ℕ := s.returned.flatten.length + s.client.rx.length

/-! ## One step of the receive side -/

theorem inOrder_step {s : RxSession} (h : s.InOrder) {e : RxStep} (hfits : s.Fits e) :
    (s.step e).InOrder := by
  cases e with
  | event e =>
    show s.returned.flatten ++ (s.client.handleEvent e).rx = s.received ++ e.payload
    rw [rx_handleEvent, rx_appendRx_of_fits hfits, ← List.append_assoc, h]
  | read size =>
    show (s.returned ++ [(s.client.readRx size).1]).flatten ++ (s.client.readRx size).2.rx = s.received
    rw [List.flatten_append, List.flatten_singleton, List.append_assoc, readRx_append, h]

theorem length_rx_step {s : RxSession} (h : s.client.rx.length ≤ kRxBufferSize) (e : RxStep) :
    (s.step e).client.rx.length ≤ kRxBufferSize := by
  cases e with
  | event e =>
    show (s.client.handleEvent e).rx.length ≤ kRxBufferSize
    rw [rx_handleEvent, length_rx_appendRx h]
    exact min_le_left _ _
  | read size =>
    show (s.client.readRx size).2.rx.length ≤ kRxBufferSize
    rw [rx_readRx, List.length_drop]
    omega

/-- A read loses nothing, and of a payload only what does not fit is lost. -/
theorem kept_step {s : RxSession} (h : s.client.rx.length ≤ kRxBufferSize) (e : RxStep) :
    (s.step e).kept + s.received.length ≤ s.kept + (s.step e).received.length ∧
      (¬ s.Fits e → (s.step e).kept + s.received.length < s.kept + (s.step e).received.length) := by
  cases e with
  | event e =>
    have hlength : (s.client.handleEvent e).rx.length =
        min kRxBufferSize (s.client.rx.length + e.payload.length) := by
      rw [rx_handleEvent, length_rx_appendRx h]
    simp only [step, kept, Fits, List.length_append, hlength]
    omega
  | read size =>
    have hread := congrArg List.length (s.client.readRx_append size)
    rw [List.length_append] at hread
    refine ⟨?_, fun hnot => absurd trivial hnot⟩
    simp only [step, kept, List.flatten_append, List.flatten_singleton, List.length_append]
    omega

/-! ## All steps -/

/-- What is lost stays lost. -/
theorem kept_run_lt {s : RxSession} (h : s.client.rx.length ≤ kRxBufferSize)
    (hlost : s.kept < s.received.length) (steps : List RxStep) :
    (s.run steps).kept < (s.run steps).received.length := by
  induction steps generalizing s with
  | nil => exact hlost
  | cons e steps ih =>
    have hkept := (kept_step h e).1
    exact ih (length_rx_step h e) (by omega)

theorem InOrder.kept_eq {s : RxSession} (h : s.InOrder) : s.kept = s.received.length := by
  rw [← h, List.length_append, kept]

theorem inOrder_run_iff {s : RxSession} (h : s.InOrder) (hlength : s.client.rx.length ≤ kRxBufferSize)
    (steps : List RxStep) : (s.run steps).InOrder ↔ s.FitsAll steps := by
  induction steps generalizing s with
  | nil => exact iff_of_true h trivial
  | cons e steps ih =>
    by_cases hfits : s.Fits e
    · exact (ih (inOrder_step h hfits) (length_rx_step hlength e)).trans (and_iff_right hfits).symm
    · -- the payload pushes bytes out, and no later step brings them back
      have hlost := (kept_step hlength e).2 hfits
      have hkept := h.kept_eq
      have hrun := kept_run_lt (length_rx_step hlength e) (by omega) steps
      refine iff_of_false (fun horder => ?_) fun hall => hfits hall.1
      exact absurd horder.kept_eq hrun.ne

theorem InOrder.isPrefix {s : RxSession} (h : s.InOrder) : s.returned.flatten <+: s.received :=
  ⟨s.client.rx, h⟩

theorem inOrder_opening (c : WebSocketMqttClient) : (opening c).InOrder := by
  rw [InOrder]
  rfl

/-- During a connection, whatever arrives and whenever it is read: the bytes that were returned and
those that wait are the received ones in order, without a gap and without a double, exactly if every
payload fitted behind what waited when it came; then the bytes returned are the first ones received. -/
theorem inOrder_iff (c : WebSocketMqttClient) (steps : List RxStep) :
    (((opening c).run steps).InOrder ↔ (opening c).FitsAll steps) ∧
      ((opening c).FitsAll steps →
        ((opening c).run steps).returned.flatten <+: ((opening c).run steps).received) := by
  have hiff := inOrder_run_iff (inOrder_opening c) (Nat.zero_le _) steps
  exact ⟨hiff, fun hall => (hiff.2 hall).isPrefix⟩

/-- A payload that fills the buffer, one byte more, and a read. -/
def overflowing : List RxStep := [.event .connected, .event (.bin (0 :: List.replicate 2047 1)),
  .event (.bin [1]), .read 1]

/-- The first byte is skipped, and the client still reports the connection. -/
theorem overflow_skips : ¬ ∀ (c : WebSocketMqttClient) (steps : List RxStep),
    ((opening c).run steps).client.socketConnected = true →
      ((opening c).run steps).returned.flatten <+: ((opening c).run steps).received := by
  intro hall
  have hprefix := hall {} overflowing (by decide +kernel)
  exact absurd hprefix (by decide +kernel)

end RxSession

end EspWaveRider.Cpp
