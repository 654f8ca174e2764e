import EspWaveRider.Lib.Machine
import EspWaveRider.Firmware.State

/-!
# The HTTP request and response channels

Two HTTP server tasks of `rust/firmware/esp32s3/src/main.rs`, one for the access
point and one for the station, hand their requests to the main loop through one
channel of capacity one and wait for the answer on another
(`request_http_response`, `process_pending_http_request`).  Nothing in a
response says which request it answers.

* `httpMachine` — every interleaving of the two tasks and the main loop;
* `Correct` — every response went to its own requester, none was dropped, and
  nobody waits for a response that is not on its way;
* `correct_of_alone` — this holds of every run in which a task sends only while
  the other one is not waiting.
-/

namespace EspWaveRider.Firmware

inductive HttpRequestMessage where
  | snapshot
  | command (command : HString 256)
  deriving DecidableEq

/-- The task that serves a connection. -/
inductive HttpTask where
  | accessPoint
  | station
  deriving DecidableEq

/-- A request with the number under which it was issued (the firmware keeps no
such number). -/
structure HttpRequest where
  id : ℕ
  message : HttpRequestMessage
  deriving DecidableEq

/-- A response with the request it was computed from. -/
structure HttpReply where
  origin : HttpRequest
  body : Str
  deriving DecidableEq

/-- Where a task is in `request_http_response`. -/
inductive HttpTaskState where
  | idle
  | sending (request : HttpRequest)
  | waiting (request : HttpRequest)
  deriving DecidableEq

structure HttpDelivery where
  task : HttpTask
  own : HttpRequest
  reply : HttpReply
  deriving DecidableEq

structure HttpSystem where
  state : FirmwareState
  nextId : ℕ
  tasks : HttpTask → HttpTaskState
  requestChannel : HVec HttpRequest 1
  responseChannel : HVec HttpReply 1
  /-- The response the main loop has computed and not yet sent. -/
  handling : Option HttpReply
  delivered : List HttpDelivery
  discarded : List HttpReply

/-- What can happen next. -/
inductive HttpEvent where
  | issue (task : HttpTask) (message : HttpRequestMessage)
  | send (task : HttpTask)
  | take
  | reply
  | receive (task : HttpTask)

namespace HttpSystem

/-- A connection asks its task for something. -/
def issue (s : HttpSystem) (task : HttpTask) (message : HttpRequestMessage) : Option HttpSystem :=
  match s.tasks task with
  | .idle => some { s with
      tasks := Function.update s.tasks task (.sending ⟨s.nextId, message⟩)
      nextId := s.nextId + 1 }
  | _ => none

/-- `HTTP_REQUEST_CHANNEL.send` waits until there is room. -/
def send (s : HttpSystem) (task : HttpTask) : Option HttpSystem :=
  match s.tasks task with
  | .sending request => (s.requestChannel.push request).map fun channel =>
      { s with
        requestChannel := channel
        tasks := Function.update s.tasks task (.waiting request) }
  | _ => none

/-- `process_pending_http_request` up to the end of the handler. -/
def take (handle : FirmwareState → HttpRequestMessage → FirmwareState × Str) (s : HttpSystem) :
    Option HttpSystem :=
  match s.handling, s.requestChannel.items with
  | none, request :: _ =>
    let (state, body) := handle s.state request.message
    some { s with
      state
      requestChannel := s.requestChannel.dropFirst 1
      handling := some ⟨request, body⟩ }
  | _, _ => none

/-- The `try_send` at its end, whose failure is ignored. -/
def reply (s : HttpSystem) : Option HttpSystem :=
  match s.handling with
  | some response =>
    match s.responseChannel.push response with
    | some channel => some { s with handling := none, responseChannel := channel }
    | none => some { s with handling := none, discarded := s.discarded ++ [response] }
  | none => none

/-- A waiting task receives whatever response is there. -/
def receive (s : HttpSystem) (task : HttpTask) : Option HttpSystem :=
  match s.tasks task, s.responseChannel.items with
  | .waiting own, response :: _ => some { s with
      responseChannel := s.responseChannel.dropFirst 1
      tasks := Function.update s.tasks task .idle
      delivered := s.delivered ++ [⟨task, own, response⟩] }
  | _, _ => none

end HttpSystem

def initialHttpSystem (state : FirmwareState) : HttpSystem :=
  { state, nextId := 0, tasks := fun _ => .idle, requestChannel := Bounded.empty,
    responseChannel := Bounded.empty, handling := none, delivered := [], discarded := [] }

/-- The two server tasks and the main loop; `handle` is what the main loop does
with a request. -/
def httpMachine (handle : FirmwareState → HttpRequestMessage → FirmwareState × Str) :
    Machine HttpSystem HttpEvent where
  start s := ∃ state, s = initialHttpSystem state
  step s
    | .issue task message => s.issue task message
    | .send task => s.send task
    | .take => s.take handle
    | .reply => s.reply
    | .receive task => s.receive task

/-! ## What should hold -/

namespace HttpSystem

/-- The requests that are queued, being handled, or answered and not received. -/
def inFlight (s : HttpSystem) : List HttpRequest :=
  s.requestChannel.items ++ s.handling.toList.map (·.origin) ++
    s.responseChannel.items.map (·.origin)

/-- Every response went to its own requester, none was dropped, and every
waiting task has its request in flight. -/
structure Correct (s : HttpSystem) : Prop where
  own : ∀ d ∈ s.delivered, d.reply.origin = d.own
  discarded : s.discarded = []
  pending : ∀ task request, s.tasks task = .waiting request → request ∈ s.inFlight

/-- No task waits. -/
def Quiet (s : HttpSystem) : Prop := ∀ task request, s.tasks task ≠ .waiting request

/-- A task sends only while the other one is not waiting. -/
def Alone (s : HttpSystem) : HttpEvent → Prop
  | .send _ => s.Quiet
  | _ => True

/-- At most one task waits, and its request is the only one in flight. -/
inductive Exclusive (s : HttpSystem) : Prop where
  | quiet (h : s.Quiet) (hnone : s.inFlight = [])
  | busy (task : HttpTask) (request : HttpRequest) (h : s.tasks task = .waiting request)
      (hothers : ∀ other, other ≠ task → ∀ r, s.tasks other ≠ .waiting r)
      (hone : s.inFlight = [request])

/-- What every run in which tasks send alone keeps true. -/
structure Invariant (s : HttpSystem) : Prop where
  exclusive : s.Exclusive
  own : ∀ d ∈ s.delivered, d.reply.origin = d.own
  discarded : s.discarded = []

theorem Exclusive.mem_inFlight {s : HttpSystem} (h : s.Exclusive) {task : HttpTask}
    {request : HttpRequest} (hwait : s.tasks task = .waiting request) : request ∈ s.inFlight := by
  cases h with
  | quiet h _ => exact absurd hwait (h task request)
  | busy waiter own h hothers hone =>
    by_cases heq : task = waiter
    · subst heq
      cases hwait.symm.trans h
      rw [hone]
      exact List.mem_singleton_self _
    · exact absurd hwait (hothers task heq request)

theorem Exclusive.length_inFlight_le {s : HttpSystem} (h : s.Exclusive) : s.inFlight.length ≤ 1 := by
  cases h with
  | quiet _ hnone => simp [hnone]
  | busy _ _ _ _ hone => simp [hone]

/-- Moving requests along keeps exclusion. -/
theorem Exclusive.of_perm {s s' : HttpSystem} (h : s.Exclusive) (htasks : s'.tasks = s.tasks)
    (hperm : s'.inFlight.Perm s.inFlight) : s'.Exclusive := by
  cases h with
  | quiet hquiet hnone =>
    rw [hnone] at hperm
    exact Exclusive.quiet (by rwa [Quiet, htasks]) hperm.eq_nil
  | busy task request hwait hothers hone =>
    rw [hone] at hperm
    exact Exclusive.busy task request (by rwa [htasks]) (by rwa [htasks])
      (List.perm_singleton.1 hperm)

theorem Invariant.correct {s : HttpSystem} (h : s.Invariant) : s.Correct :=
  ⟨h.own, h.discarded, fun _ _ hwait => h.exclusive.mem_inFlight hwait⟩

/-! ### One step -/

theorem Invariant.issue {s s' : HttpSystem} {task : HttpTask} {message : HttpRequestMessage}
    (h : s.Invariant) (hstep : s.issue task message = some s') : s'.Invariant := by
  unfold HttpSystem.issue at hstep
  split at hstep
  · rename_i hidle
    cases hstep
    refine ⟨?_, h.own, h.discarded⟩
    cases h.exclusive with
    | quiet hquiet hnone =>
      refine Exclusive.quiet ?_ hnone
      intro t r
      by_cases ht : t = task
      · simp [ht]
      · simpa [ht] using hquiet t r
    | busy waiter own hwait hothers hone =>
      have hne : waiter ≠ task := by
        rintro rfl
        cases hidle.symm.trans hwait
      refine Exclusive.busy waiter own (by simpa [hne] using hwait) ?_ hone
      intro t ht r
      by_cases htask : t = task
      · simp [htask]
      · simpa [htask] using hothers t ht r
  · cases hstep

theorem Invariant.send {s s' : HttpSystem} {task : HttpTask} (h : s.Invariant)
    (halone : s.Quiet) (hstep : s.send task = some s') : s'.Invariant := by
  unfold HttpSystem.send at hstep
  split at hstep
  · rename_i request hsending
    obtain ⟨channel, hpush, rfl⟩ := Option.map_eq_some_iff.1 hstep
    have hitems := Bounded.items_of_extend hpush
    have hnone : s.inFlight = [] := by
      cases h.exclusive with
      | quiet _ hnone => exact hnone
      | busy waiter own hwait _ _ => exact absurd hwait (halone waiter own)
    obtain ⟨hreq, hresp⟩ := List.append_eq_nil_iff.1 hnone
    obtain ⟨hreq, hhandling⟩ := List.append_eq_nil_iff.1 hreq
    refine ⟨Exclusive.busy task request (by simp) ?_ ?_, h.own, h.discarded⟩
    · intro t ht r
      simpa [ht] using halone t r
    · simp only [inFlight, hitems, hreq, hhandling, hresp, List.nil_append, List.append_nil]
  · cases hstep

theorem Invariant.take {handle : FirmwareState → HttpRequestMessage → FirmwareState × Str}
    {s s' : HttpSystem} (h : s.Invariant) (hstep : s.take handle = some s') : s'.Invariant := by
  unfold HttpSystem.take at hstep
  split at hstep
  · rename_i request rest hhandling hitems
    cases hstep
    refine ⟨h.exclusive.of_perm rfl ?_, h.own, h.discarded⟩
    simp [inFlight, hhandling, hitems]
  · cases hstep

theorem Invariant.reply {s s' : HttpSystem} (h : s.Invariant) (hstep : s.reply = some s') :
    s'.Invariant := by
  unfold HttpSystem.reply at hstep
  split at hstep
  · rename_i response hhandling
    -- the request being answered is the only one in flight, so there is room for the answer
    have hroom : s.responseChannel.items = [] := by
      have hlen : s.inFlight.length ≤ 1 := h.exclusive.length_inFlight_le
      simp only [inFlight, hhandling, Option.toList_some, List.map_cons, List.map_nil,
        List.length_append, List.length_singleton, List.length_map] at hlen
      exact List.eq_nil_of_length_eq_zero (by omega)
    split at hstep
    · rename_i channel hpush
      cases hstep
      have hitems := Bounded.items_of_extend hpush
      refine ⟨h.exclusive.of_perm rfl ?_, h.own, h.discarded⟩
      simp [inFlight, hhandling, hitems, hroom]
    · rename_i hfull
      have hsome : (s.responseChannel.push response).isSome := by
        rw [Bounded.push, Bounded.isSome_extend_iff, hroom]
        exact le_refl 1
      rw [hfull] at hsome
      cases hsome
  · cases hstep

theorem Invariant.receive {s s' : HttpSystem} {task : HttpTask} (h : s.Invariant)
    (hstep : s.receive task = some s') : s'.Invariant := by
  unfold HttpSystem.receive at hstep
  split at hstep
  · rename_i own response rest hwait hitems
    cases hstep
    cases h.exclusive with
    | quiet hquiet _ => exact absurd hwait (hquiet task own)
    | busy waiter request hwaiter hothers hone =>
      have htask : task = waiter := by
        by_contra hne
        exact hothers task hne own hwait
      subst htask
      cases hwait.symm.trans hwaiter
      -- the only request in flight is the waiter's own, and its answer is what is received
      simp only [inFlight, hitems, List.map_cons] at hone
      rcases List.append_eq_singleton_iff.1 hone with ⟨hbefore, hanswer⟩ | ⟨_, hanswer⟩
      · obtain ⟨horigin, hrest⟩ := List.cons.inj hanswer
        refine ⟨Exclusive.quiet ?_ ?_, ?_, h.discarded⟩
        · intro t r
          by_cases ht : t = task
          · simp [ht]
          · simpa [ht] using hothers t ht r
        · simpa [inFlight, hitems, List.map_eq_nil_iff.1 hrest] using hbefore
        · intro d hd
          rcases List.mem_append.1 hd with hd | hd
          · exact h.own d hd
          · rw [List.mem_singleton.1 hd]
            exact horigin
      · cases hanswer
  · cases hstep

theorem invariant_initial (state : FirmwareState) : (initialHttpSystem state).Invariant := by
  refine ⟨Exclusive.quiet ?_ rfl, by simp [initialHttpSystem], rfl⟩
  intro task request h
  cases h

end HttpSystem

/-! ## Runs -/

/-- In every run in which a task sends its request only while the other task is
not waiting, responses go to their own requesters and none is dropped. -/
theorem correct_of_alone (handle : FirmwareState → HttpRequestMessage → FirmwareState × Str)
    {s : HttpSystem} (h : (httpMachine handle).Reach HttpSystem.Alone s) : s.Correct := by
  refine (h.invariant (I := HttpSystem.Invariant) ?_ ?_).correct
  · rintro _ ⟨state, rfl⟩
    exact HttpSystem.invariant_initial state
  · intro s e s' hinv halone hstep
    cases e with
    | issue task message => exact hinv.issue hstep
    | send task => exact hinv.send halone hstep
    | take => exact hinv.take hstep
    | reply => exact hinv.reply hstep
    | receive task => exact hinv.receive hstep

/-- A handler that answers a command with its text. -/
def echoHandler (s : FirmwareState) : HttpRequestMessage → FirmwareState × Str
  | .snapshot => (s, "snapshot")
  | .command command => (s, command.items)

theorem correct_of_alone_sent :
    ∃ s : HttpSystem, s.tasks .accessPoint = .waiting ⟨0, .snapshot⟩ ∧ s.Correct := by
  have hstart : (httpMachine echoHandler).Reach HttpSystem.Alone (initialHttpSystem {}) :=
    Machine.Reach.start ⟨{}, rfl⟩
  have hissued := Machine.Reach.step (e := HttpEvent.issue .accessPoint .snapshot) hstart trivial rfl
  have hsent := Machine.Reach.step (e := HttpEvent.send .accessPoint) hissued
    (by rintro (_ | _) request ⟨⟩) rfl
  exact ⟨_, rfl, correct_of_alone echoHandler hsent⟩

/-- The access-point task asks for a snapshot; while the main loop is at it, the
station task sends a command and takes the snapshot as its answer. -/
theorem responses_swapped :
    ¬ ∀ (handle : FirmwareState → HttpRequestMessage → FirmwareState × Str) (s : HttpSystem),
      (httpMachine handle).Reach Machine.Always s → s.Correct := by
  intro hall
  have hstart : (httpMachine echoHandler).Reach Machine.Always (initialHttpSystem {}) :=
    Machine.Reach.start ⟨{}, rfl⟩
  have hrun := Machine.reach_of_run hstart [.issue .accessPoint .snapshot, .send .accessPoint,
    .take, .issue .station (.command Bounded.empty), .send .station, .reply, .receive .station] rfl
  exact absurd ((hall echoHandler _ hrun).own _ (List.mem_singleton_self _)) (by decide)

end EspWaveRider.Firmware
