import Clawbernetes.ClawNode.NetPolicy
import Clawbernetes.Library.Backlog
import Clawbernetes.Library.Traces

/-!
# The event loop of the gateway client

The loop at the end of `GatewayClient::connect` in `client.rs`. It does one of three things at a
time: it writes the first frame of a queue to the socket, it handles a message from the gateway, or
it queues a heartbeat. A message may be an invocation, which is executed on the spot and whose
result is queued. The queue holds 32 frames, and since the loop that puts a frame into a full queue
would have to take one out of it, it then waits for ever.

The handler of the commands and the JSON parser are parameters, and so is the order in which the
loop finds things to do: a run is any list of events. What the client does with the invocations is
what a server does that executes them one after the other and answers in their order
(`invocations_answered`). It never blocks exactly when no stretch of a run brings more frames than
it takes and the queue has places for (`never_blocked_iff`).
-/

set_option autoImplicit false
set_option relaxedAutoImplicit false

namespace Clawbernetes.ClawNode

open Library.Runs Library.Backlog

/-! ### Frames and messages -/

/-- `CommandRequest`. -/
structure CommandRequest where
  command : String
  params : Value

/-- `NodeInvokeRequestEvent`. -/
structure NodeInvokeRequestEvent where
  id : String
  nodeId : String
  command : String
  paramsJson : Option String
  timeoutMs : Option UInt64
  idempotencyKey : Option String
  deriving DecidableEq

namespace NodeInvokeRequestEvent

/-- A field with a default that may be left out or `null`. -/
def optional {Field : Type} (read : Value → Option Field) : Option Value → Option (Option Field)
  | none => some none
  | some .null => some none
  | some value => (read value).map some

/-- The event of its six fields. -/
def ofFields (field : ℕ → Option Value) : Option NodeInvokeRequestEvent := do
  let id ← (field 0).bind Value.asStr
  let nodeId ← (field 1).bind Value.asStr
  let command ← (field 2).bind Value.asStr
  let paramsJson ← optional Value.asStr (field 3)
  let timeoutMs ← optional Value.asU64 (field 4)
  let idempotencyKey ← optional Value.asStr (field 5)
  pure ⟨id, nodeId, command, paramsJson, timeoutMs, idempotencyKey⟩

/-- The names of the fields. -/
def fieldNames : List String :=
  ["id", "nodeId", "command", "paramsJSON", "timeoutMs", "idempotencyKey"]

/-- `serde_json::from_value`: from an object by name, or from an array by position. -/
def fromValue : Value → Option NodeInvokeRequestEvent
  | .object entries => ofFields fun index ↦ (Value.object entries).get (fieldNames.getD index "")
  | .array items => if items.length ≤ fieldNames.length then ofFields (items[·]?) else none
  | _ => none

end NodeInvokeRequestEvent

/-- `NodeInvokeResultParams`, whose error has the code `COMMAND_ERROR`. -/
structure NodeInvokeResultParams where
  id : String
  nodeId : String
  ok : Bool
  payload : Option Value
  error : Option (String × String)

/-- The parameters of the frames that the loop sends. -/
inductive FrameParams where
  | invokeResult (result : NodeInvokeResultParams)
  | heartbeat (nodeId : String)

/-- `RequestFrame`. -/
structure RequestFrame where
  frameType : String
  id : String
  method : String
  params : FrameParams

/-- `RequestFrame::new`. -/
def RequestFrame.new (id method : String) (params : FrameParams) : RequestFrame :=
  ⟨"req", id, method, params⟩

/-- What is written to the socket. -/
inductive Outgoing where
  | request (frame : RequestFrame)
  | pong (data : List UInt8)

/-- What the loop finds to do next: a frame to write, which may fail, a message of the gateway, or
the next heartbeat. A result and a heartbeat get a new id. -/
inductive LoopEvent where
  | write (succeeds : Bool)
  | text (text : String) (frameId : String)
  | ping (data : List UInt8) (succeeds : Bool)
  | closed
  | other
  | heartbeat (frameId : String)

/-! ### The loop -/

/-- The loop runs, waits for a place in the queue for a frame, or has ended, perhaps with a frame
that could not be written. -/
inductive LoopStatus where
  | running
  | blocked (frame : RequestFrame)
  | ended (lost : Option RequestFrame)

/-- The loop with the state of the node, the queue and what has been written. -/
structure GatewayLoop (Shared : Type) where
  shared : Shared
  queue : List RequestFrame
  written : List Outgoing
  status : LoopStatus

namespace GatewayLoop

variable {Shared : Type}

/-- The places of the queue. -/
def capacity : ℕ := 32

/-- The loop begins. -/
def start (shared : Shared) : GatewayLoop Shared := ⟨shared, [], [], .running⟩

/-- `outgoing_tx.send(frame).await` in the loop itself. -/
def enqueue (loop : GatewayLoop Shared) (frame : RequestFrame) : GatewayLoop Shared :=
  if loop.queue.length < capacity then { loop with queue := loop.queue ++ [frame] }
  else { loop with status := .blocked frame }

/-- The invocation that a message of the gateway carries. -/
def invocation (parse : String → Option Value) (text : String) : Option NodeInvokeRequestEvent := do
  let frame ← parse text
  let event ← (frame.get "event").bind Value.asStr
  if event = "node.invoke.request" then
    let payload ← frame.get "payload"
    NodeInvokeRequestEvent.fromValue payload
  else none

/-- The request of an invocation. Parameters that cannot be parsed are `null`. -/
def request (parse : String → Option Value) (invoke : NodeInvokeRequestEvent) : CommandRequest where
  command := invoke.command
  params := match invoke.paramsJson with
    | none => .null
    | some text => (parse text).getD .null

/-- The result of an invocation. -/
def resultParams (nodeId : String) (invoke : NodeInvokeRequestEvent) :
    Except String Value → NodeInvokeResultParams
  | .ok payload => ⟨invoke.id, nodeId, true, some payload, none⟩
  | .error error => ⟨invoke.id, nodeId, false, none, some ("COMMAND_ERROR", error)⟩

section Steps

variable (parse : String → Option Value)
  (handleCommand : Shared → CommandRequest → Shared × Except String Value) (nodeId : String)

/-- `GatewayClient::handle_invoke`. -/
def handleInvoke (loop : GatewayLoop Shared) (frameId : String) (invoke : NodeInvokeRequestEvent) :
    GatewayLoop Shared :=
  let (shared, outcome) := handleCommand loop.shared (request parse invoke)
  { loop with shared := shared }.enqueue (.new frameId "node.invoke.result"
    (.invokeResult (resultParams nodeId invoke outcome)))

/-- `GatewayClient::handle_message`. What is no invocation is at most logged. -/
def handleMessage (loop : GatewayLoop Shared) (text frameId : String) : GatewayLoop Shared :=
  match invocation parse text with
  | some invoke => loop.handleInvoke parse handleCommand nodeId frameId invoke
  | none => loop

/-- One turn of the loop. A loop that waits or has ended takes no turn. -/
def step (loop : GatewayLoop Shared) (event : LoopEvent) : GatewayLoop Shared :=
  match loop.status with
  | .blocked _ | .ended _ => loop
  | .running =>
    match event with
    | .write succeeds =>
      match loop.queue with
      | [] => loop
      | frame :: rest =>
        if succeeds then { loop with queue := rest, written := loop.written ++ [.request frame] }
        else { loop with queue := rest, status := .ended (some frame) }
    | .text text frameId => loop.handleMessage parse handleCommand nodeId text frameId
    | .ping data succeeds =>
      if succeeds then { loop with written := loop.written ++ [.pong data] } else loop
    | .closed => { loop with status := .ended none }
    | .other => loop
    | .heartbeat frameId => loop.enqueue (.new frameId "node.event" (.heartbeat nodeId))

end Steps

/-! ### What the client does with invocations -/

/-- The frames that have been written. -/
def requests (loop : GatewayLoop Shared) : List RequestFrame :=
  loop.written.filterMap fun outgoing ↦ match outgoing with
    | .request frame => some frame
    | .pong _ => none

/-- The frames that have been made and not written: the one that was lost, those in the queue and
the one that waits for a place in it. -/
def unsent (loop : GatewayLoop Shared) : List RequestFrame :=
  match loop.status with
  | .running => loop.queue
  | .blocked frame => loop.queue ++ [frame]
  | .ended lost => lost.toList ++ loop.queue

/-- All frames that have been made. -/
def frames (loop : GatewayLoop Shared) : List RequestFrame := loop.requests ++ loop.unsent

/-- The results among frames. -/
def results (frames : List RequestFrame) : List NodeInvokeResultParams :=
  frames.filterMap fun frame ↦ match frame.params with
    | .invokeResult result => some result
    | .heartbeat _ => none

section Serving

variable (parse : String → Option Value)
  (handleCommand : Shared → CommandRequest → Shared × Except String Value) (nodeId : String)

/-- The invocation that an event brings to a loop that runs. -/
def taken (loop : GatewayLoop Shared) : LoopEvent → List NodeInvokeRequestEvent
  | .text text _ =>
    match loop.status with
    | .running => (invocation parse text).toList
    | _ => []
  | _ => []

/-- The frame that an event makes. -/
def made (loop : GatewayLoop Shared) (event : LoopEvent) : List RequestFrame :=
  match loop.status with
  | .running =>
    match event with
    | .text text frameId => (invocation parse text).toList.map fun invoke ↦
        .new frameId "node.invoke.result" (.invokeResult (resultParams nodeId invoke
          (handleCommand loop.shared (request parse invoke)).2))
    | .heartbeat frameId => [.new frameId "node.event" (.heartbeat nodeId)]
    | _ => []
  | _ => []

/-- A server that executes an invocation and answers it. -/
def serve (server : Shared × List NodeInvokeResultParams) (invoke : NodeInvokeRequestEvent) :
    Shared × List NodeInvokeResultParams :=
  let (shared, outcome) := handleCommand server.1 (request parse invoke)
  (shared, server.2 ++ [resultParams nodeId invoke outcome])

variable {parse handleCommand nodeId} {loop : GatewayLoop Shared}

/-- A frame that is put into the queue of a running loop has been made. -/
theorem frames_enqueue (hrunning : loop.status = .running) (shared : Shared)
    (frame : RequestFrame) :
    (enqueue { loop with shared := shared } frame).frames = loop.frames ++ [frame] := by
  unfold enqueue frames unsent
  dsimp only
  split_ifs with hroom
  · simp [requests, hrunning]
  · simp [requests, hrunning]

/-- A turn makes the frame of its event, after those made before. -/
theorem frames_step (event : LoopEvent) :
    (loop.step parse handleCommand nodeId event).frames =
      loop.frames ++ loop.made parse handleCommand nodeId event := by
  unfold step made
  cases hstatus : loop.status with
  | blocked frame => simp
  | ended lost => simp
  | running =>
    cases event with
    | write succeeds =>
      cases hqueue : loop.queue with
      | nil => simp
      | cons frame rest =>
        cases succeeds with
        | true => simp [frames, requests, unsent, hstatus, hqueue]
        | false => simp [frames, requests, unsent, hstatus, hqueue]
    | text text frameId =>
      simp only [handleMessage]
      cases invocation parse text with
      | none => simp
      | some invoke =>
        dsimp only [handleInvoke]
        rw [frames_enqueue hstatus]
        rfl
    | ping data succeeds =>
      cases succeeds with
      | true => simp [frames, requests, unsent, hstatus]
      | false => simp
    | closed => simp [frames, requests, unsent, hstatus]
    | other => simp
    | heartbeat frameId => exact frames_enqueue hstatus loop.shared _

/-- Putting a frame into the queue leaves the node alone. -/
@[simp] theorem shared_enqueue (frame : RequestFrame) :
    (loop.enqueue frame).shared = loop.shared := by
  unfold enqueue
  split_ifs <;> rfl

/-- A turn does to the node and to the results what serving the invocation of its event does. -/
theorem served_step (event : LoopEvent) :
    ((loop.step parse handleCommand nodeId event).shared,
        results (loop.step parse handleCommand nodeId event).frames) =
      (loop.taken parse event).foldl (serve parse handleCommand nodeId)
        (loop.shared, results loop.frames) := by
  rw [frames_step]
  unfold step made taken
  cases hstatus : loop.status with
  | blocked frame => cases event <;> simp
  | ended lost => cases event <;> simp
  | running =>
    cases event with
    | write succeeds =>
      cases loop.queue with
      | nil => simp
      | cons frame rest => cases succeeds <;> simp
    | text text frameId =>
      simp only [handleMessage]
      cases invocation parse text with
      | none => simp
      | some invoke => simp [handleInvoke, serve, results, RequestFrame.new]
    | ping data succeeds => cases succeeds <;> simp
    | closed => simp
    | other => simp
    | heartbeat frameId => simp [results, RequestFrame.new]

/-- The queue never holds more than it has places for. -/
theorem length_queue_step (hqueue : loop.queue.length ≤ capacity) (event : LoopEvent) :
    (loop.step parse handleCommand nodeId event).queue.length ≤ capacity := by
  have henqueue : ∀ (node : Shared) (frame : RequestFrame),
      (enqueue { loop with shared := node } frame).queue.length ≤ capacity := by
    intro node frame
    unfold enqueue
    split_ifs with hroom
    · simp only [List.length_append, List.length_singleton]
      exact hroom
    · exact hqueue
  unfold step
  cases loop.status with
  | blocked frame => exact hqueue
  | ended lost => exact hqueue
  | running =>
    cases event with
    | write succeeds =>
      cases hfirst : loop.queue with
      | nil => simp [hfirst]
      | cons frame rest =>
        rw [hfirst, List.length_cons] at hqueue
        cases succeeds with
        | true => exact (Nat.le_succ _).trans hqueue
        | false => exact (Nat.le_succ _).trans hqueue
    | text text frameId =>
      simp only [handleMessage]
      cases invocation parse text with
      | none => exact hqueue
      | some invoke => exact henqueue _ _
    | ping data succeeds => cases succeeds <;> exact hqueue
    | closed => exact hqueue
    | other => exact hqueue
    | heartbeat frameId => exact henqueue loop.shared _

/-- In every run the queue never holds more than it has places for. -/
theorem always_length_queue_le (shared : Shared) (events : List LoopEvent) :
    Always (step parse handleCommand nodeId) (fun loop ↦ loop.queue.length ≤ capacity)
      (start shared) events := by
  refine always_of_step ?_ ?_ events
  · exact Nat.zero_le _
  · exact fun loop event hloop ↦ length_queue_step hloop event

/-- A server answers the invocations it is given, in their order. -/
theorem ids_serve (invocations : List NodeInvokeRequestEvent) :
    ∀ server : Shared × List NodeInvokeResultParams,
      ((invocations.foldl (serve parse handleCommand nodeId) server).2.map
        NodeInvokeResultParams.id) =
          server.2.map NodeInvokeResultParams.id ++ invocations.map NodeInvokeRequestEvent.id := by
  induction invocations with
  | nil => intro server; simp
  | cons invoke rest ih =>
    intro server
    have hid : ∀ outcome, (resultParams nodeId invoke outcome).id = invoke.id := by
      intro outcome
      cases outcome <;> rfl
    rw [List.foldl_cons, ih]
    simp [serve, hid]

end Serving

/-- In every run of the loop, the frames that have been made are written in the order in which they
were made, but for those that are still in the queue, the one that waits for a place in it and the
one that could not be written. The node and the results are those of a server that executes the
invocations that have come one after the other, each once, and answers them in their order. -/
theorem invocations_answered (parse : String → Option Value)
    (handleCommand : Shared → CommandRequest → Shared × Except String Value) (nodeId : String)
    (shared : Shared) (events : List LoopEvent) :
    let loop := events.foldl (step parse handleCommand nodeId) (start shared)
    let invocations := outputs (step parse handleCommand nodeId) (taken parse) (start shared) events
    loop.requests ++ loop.unsent =
        outputs (step parse handleCommand nodeId) (made parse handleCommand nodeId) (start shared)
          events ∧
      (loop.shared, results (loop.requests ++ loop.unsent)) =
        invocations.foldl (serve parse handleCommand nodeId) (shared, []) ∧
      (results (loop.requests ++ loop.unsent)).map NodeInvokeResultParams.id =
        invocations.map NodeInvokeRequestEvent.id ∧
      loop.queue.length ≤ capacity := by
  have hframes := record_foldl frames (made parse handleCommand nodeId)
    (fun _ event ↦ frames_step event) events (start shared)
  have hserved := view_foldl (fun loop : GatewayLoop Shared ↦ (loop.shared, results loop.frames))
    (serve parse handleCommand nodeId) (taken parse)
    (fun _ event ↦ served_step event) events (start shared)
  refine ⟨hframes, hserved, ?_, (always_length_queue_le shared events).last⟩
  have hids := congrArg (fun server : Shared × List NodeInvokeResultParams ↦
    server.2.map NodeInvokeResultParams.id) hserved
  exact hids.trans (ids_serve _ _)

/-! ### Blocking -/

/-- The loop waits for a place in the queue. -/
def Blocked (loop : GatewayLoop Shared) : Prop := ∃ frame, loop.status = .blocked frame

/-- The loop has ended. -/
def Ended (loop : GatewayLoop Shared) : Prop := ∃ lost, loop.status = .ended lost

/-- The event brings a frame to the queue: a heartbeat, or a message that is an invocation. -/
def brings (parse : String → Option Value) : LoopEvent → Bool
  | .heartbeat _ => true
  | .text text _ => (invocation parse text).isSome
  | .write _ | .ping _ _ | .closed | .other => false

/-- The event takes a frame from the queue, if there is one. -/
def takes : LoopEvent → Bool
  | .write _ => true
  | .text _ _ | .ping _ _ | .closed | .other | .heartbeat _ => false

section Blocking

variable {parse : String → Option Value}
  {handleCommand : Shared → CommandRequest → Shared × Except String Value} {nodeId : String}

/-- A loop that neither waits nor has ended runs. -/
theorem running_of_not {loop : GatewayLoop Shared} (hfree : ¬ loop.Blocked) (hopen : ¬ loop.Ended) :
    loop.status = .running := by
  cases hstatus : loop.status with
  | running => rfl
  | blocked frame => exact absurd ⟨frame, hstatus⟩ hfree
  | ended lost => exact absurd ⟨lost, hstatus⟩ hopen

/-- A loop that has ended takes no turn. -/
theorem step_of_ended {loop : GatewayLoop Shared} (hended : loop.Ended) (event : LoopEvent) :
    loop.step parse handleCommand nodeId event = loop := by
  obtain ⟨lost, hstatus⟩ := hended
  simp only [step, hstatus]

/-- A frame that finds a place is one more in the queue of a loop that still runs. -/
theorem enqueue_of_room {loop : GatewayLoop Shared} (hrunning : loop.status = .running)
    (hroom : loop.queue.length < capacity) (shared : Shared) (frame : RequestFrame) :
    (enqueue { loop with shared := shared } frame).status = .running ∧
      (enqueue { loop with shared := shared } frame).queue.length = loop.queue.length + 1 := by
  unfold enqueue
  dsimp only
  rw [if_pos hroom]
  exact ⟨hrunning, List.length_append⟩

/-- A frame that finds no place blocks the loop. -/
theorem enqueue_of_full {loop : GatewayLoop Shared} (hfull : capacity ≤ loop.queue.length)
    (shared : Shared) (frame : RequestFrame) :
    (enqueue { loop with shared := shared } frame).Blocked := by
  unfold enqueue
  dsimp only
  rw [if_neg (Nat.not_lt.mpr hfull)]
  exact ⟨frame, rfl⟩

/-- What a turn does when there is a place for the frame of its event, if it brings one: the loop is
not blocked, and while it runs, the queue is counted like a backlog. -/
theorem step_of_room {loop : GatewayLoop Shared} (hrunning : loop.status = .running)
    {event : LoopEvent} (hroom : brings parse event = true → loop.queue.length < capacity) :
    ¬ (loop.step parse handleCommand nodeId event).Blocked ∧
      ((loop.step parse handleCommand nodeId event).status = .running →
        (loop.step parse handleCommand nodeId event).queue.length =
          count (brings parse) takes loop.queue.length event) := by
  have henqueued : ∀ (shared : Shared) (frame : RequestFrame),
      loop.queue.length < capacity →
        ¬ (enqueue { loop with shared := shared } frame).Blocked := by
    rintro shared frame hplace ⟨waiting, hstatus⟩
    rw [(enqueue_of_room hrunning hplace shared frame).1] at hstatus
    cases hstatus
  unfold step
  rw [hrunning]
  cases event with
  | write succeeds =>
    cases hqueue : loop.queue with
    | nil => simp [Blocked, hrunning, count, brings, takes, hqueue]
    | cons frame rest => cases succeeds <;> simp [Blocked, count, brings, takes]
  | text text frameId =>
    simp only [handleMessage]
    cases hinvocation : invocation parse text with
    | none => simp [Blocked, hrunning, count, brings, takes, hinvocation]
    | some invoke =>
      have hbrings : brings parse (.text text frameId) = true := by
        rw [brings, hinvocation]
        rfl
      have hplace := hroom hbrings
      refine ⟨henqueued _ _ hplace, fun _ ↦ ?_⟩
      rw [count, if_pos hbrings]
      exact (enqueue_of_room hrunning hplace _ _).2
  | ping data succeeds => cases succeeds <;> simp [Blocked, hrunning, count, brings, takes]
  | closed => simp [Blocked]
  | other => simp [Blocked, hrunning, count, brings, takes]
  | heartbeat frameId =>
    have hplace := hroom rfl
    exact ⟨henqueued loop.shared _ hplace,
      fun _ ↦ (enqueue_of_room hrunning hplace loop.shared _).2⟩

/-- A turn that brings a frame to a full queue blocks the loop. -/
theorem step_of_full {loop : GatewayLoop Shared} (hrunning : loop.status = .running)
    (hfull : capacity ≤ loop.queue.length) {event : LoopEvent}
    (hbrings : brings parse event = true) :
    (loop.step parse handleCommand nodeId event).Blocked := by
  unfold step
  rw [hrunning]
  cases event with
  | text text frameId =>
    simp only [handleMessage]
    cases hinvocation : invocation parse text with
    | none =>
      rw [brings, hinvocation] at hbrings
      cases hbrings
    | some invoke => exact enqueue_of_full hfull _ _
  | heartbeat frameId => exact enqueue_of_full hfull loop.shared _
  | write succeeds => cases hbrings
  | ping data succeeds => cases hbrings
  | closed => cases hbrings
  | other => cases hbrings

/-- While the loop is never blocked and has not ended, its queue is the backlog of the events. -/
theorem length_queue_eq_backlog {shared : Shared} {events : List LoopEvent}
    (hfree : Always (step parse handleCommand nodeId) (fun loop ↦ ¬ loop.Blocked) (start shared)
      events)
    (hopen : ¬ (events.foldl (step parse handleCommand nodeId) (start shared)).Ended) :
    (events.foldl (step parse handleCommand nodeId) (start shared)).queue.length =
      backlog (brings parse) takes events := by
  induction events using List.reverseRecOn with
  | nil => rfl
  | append_singleton events event ih =>
    have hbefore := hfree events (List.prefix_append _ _)
    have hafter := hfree.last
    rw [List.foldl_concat] at hopen hafter ⊢
    set loop := events.foldl (step parse handleCommand nodeId) (start shared) with hloop
    have hearlier : ¬ loop.Ended := by
      intro hended
      rw [step_of_ended hended] at hopen
      exact hopen hended
    have hrunning := running_of_not hbefore hearlier
    have hroom : brings parse event = true → loop.queue.length < capacity := by
      intro hbrings
      by_contra hfull
      exact hafter (step_of_full hrunning (Nat.not_lt.mp hfull) hbrings)
    have hcount : (loop.step parse handleCommand nodeId event).queue.length =
        count (brings parse) takes loop.queue.length event :=
      (step_of_room hrunning hroom).2 (running_of_not hafter hopen)
    rw [hcount, ih (fun done hdone ↦ hfree done (hdone.trans (List.prefix_append _ _))) hearlier]
    exact (List.foldl_concat _ _ _ _).symm

end Blocking

/-- A run never blocks the loop exactly when, as long as the loop has not ended, no stretch of the
events brings more frames than it takes and the queue has places for. -/
theorem never_blocked_iff (parse : String → Option Value)
    (handleCommand : Shared → CommandRequest → Shared × Except String Value) (nodeId : String)
    (shared : Shared) (events : List LoopEvent) :
    Always (step parse handleCommand nodeId) (fun loop ↦ ¬ loop.Blocked) (start shared) events ↔
      ∀ before stretch, before ++ stretch <+: events →
        ¬ ((before ++ stretch).foldl (step parse handleCommand nodeId) (start shared)).Ended →
          stretch.countP (brings parse) ≤ stretch.countP takes + capacity := by
  have hapart : ∀ event, brings parse event = true → takes event = false := by
    intro event hbrings
    cases event <;> first | rfl | cases hbrings
  constructor
  · intro hfree before stretch hdone hopen
    have hqueue := length_queue_eq_backlog
      (fun done hearlier ↦ hfree done (hearlier.trans hdone)) hopen
    have hroom : (List.foldl (step parse handleCommand nodeId) (start shared)
        (before ++ stretch)).queue.length ≤ capacity :=
      always_length_queue_le shared events _ hdone
    rw [hqueue, backlog_le_iff hapart] at hroom
    exact hroom before stretch rfl
  · intro hbounded
    induction events using List.reverseRecOn with
    | nil =>
      rw [always_nil]
      rintro ⟨frame, hstatus⟩
      cases hstatus
    | append_singleton events event ih =>
      have hfree := ih fun before stretch hdone ↦
        hbounded before stretch (hdone.trans (List.prefix_append _ _))
      refine always_concat.mpr ⟨hfree, ?_⟩
      rw [List.foldl_concat]
      by_cases hended : (events.foldl (step parse handleCommand nodeId) (start shared)).Ended
      · rw [step_of_ended hended]
        exact hfree.last
      · have hrunning := running_of_not hfree.last hended
        refine (step_of_room hrunning fun hbrings ↦ ?_).1
        -- a frame for a full queue would block the loop and exceed the backlog that is allowed
        by_contra hfull
        set loop := events.foldl (step parse handleCommand nodeId) (start shared) with hloop
        have hnext : (loop.step parse handleCommand nodeId event).Blocked :=
          step_of_full hrunning (Nat.not_lt.mp hfull) hbrings
        obtain ⟨frame, hblocked⟩ := hnext
        have hbacklog : backlog (brings parse) takes (events ++ [event]) ≤ capacity := by
          refine (backlog_le_iff hapart).mpr fun before stretch hsame ↦ ?_
          refine hbounded before stretch (hsame ▸ List.prefix_rfl) ?_
          rintro ⟨lost, hlost⟩
          rw [← hsame, List.foldl_concat, hblocked] at hlost
          cases hlost
        rw [backlog, List.foldl_concat, count, if_pos hbrings] at hbacklog
        rw [length_queue_eq_backlog hfree hended] at hfull
        exact hfull hbacklog

end GatewayLoop

end Clawbernetes.ClawNode
