import Clawbernetes.ClawProto.WorkloadSpec
import Clawbernetes.Library.Pipelining
import Clawbernetes.MoltAttestation.Signing

/-!
# The connection of the command line to the gateway

`GatewayClient` of the command line in `client.rs`, with the messages of `cli.rs` that it sends and
the responses that it expects. Each method sends a message and takes the next frame for its
response. Neither carries a number, and the client stays usable when a method gives up or meets a
frame that is no response, such as a ping. The answer that was not read is then read by the next
method, which cannot tell when it is of the kind that it expects.

`answers_shift` is what any interleaving of the client and a gateway that answers in order comes to:
a method reads the answer to the message as many places before its own as there were messages before
for which no answer was read.
-/

set_option autoImplicit false
set_option relaxedAutoImplicit false

namespace Clawbernetes.ClawCli

open ClawProto (WorkloadSpec WorkloadState)
open Library.Pipelining
open MoltAttestation (Uuid)

/-! ### Messages -/

/-- `CLI_PROTOCOL_VERSION`. -/
def cliProtocolVersion : UInt32 := 1

/-- `NodeState` of `cli.rs`. -/
inductive NodeState where
  | healthy
  | unhealthy
  | draining
  | offline
  deriving DecidableEq

/-- `CliMessage`, as far as the methods of the client send it. -/
inductive CliMessage where
  | hello (version : String) (protocolVersion : UInt32)
  | getStatus
  | listNodes (stateFilter : Option NodeState) (includeCapabilities : Bool)
  | getNode (nodeId : Uuid)
  | listWorkloads (nodeFilter : Option Uuid) (stateFilter : Option WorkloadState)
  | getWorkload (workloadId : Uuid)
  | startWorkload (nodeId : Option Uuid) (spec : WorkloadSpec)
  | stopWorkload (workloadId : Uuid) (force : Bool)
  | getLogs (workloadId : Uuid) (tail : Option UInt32) (includeStderr : Bool)
  | drainNode (nodeId : Uuid) (drain : Bool)
  | getMoltStatus
  | listMoltPeers
  | getMoltBalance
  | ping (timestamp : ℤ)

/-- The records that responses carry and the client hands on. -/
structure Records where
  NodeInfo : Type
  WorkloadInfo : Type
  MoltPeerInfo : Type

variable {records : Records} {Gateway : Type}

/-- `CliResponse`. The responses that no method of the client expects are kept by their text for
debugging. -/
inductive CliResponse (records : Records) where
  | welcome (serverVersion : String) (protocolVersion : UInt32)
  | status (nodeCount healthyNodes gpuCount activeWorkloads : UInt32) (totalVramMib : UInt64)
      (gatewayVersion : String) (uptimeSecs : UInt64)
  | nodes (nodes : List records.NodeInfo)
  | node (node : records.NodeInfo)
  | workloads (workloads : List records.WorkloadInfo)
  | workload (workload : records.WorkloadInfo)
  | workloadStarted (workloadId nodeId : Uuid)
  | workloadStopped (workloadId : Uuid)
  | nodeDrained (nodeId : Uuid) (draining : Bool)
  | logs (workloadId : Uuid) (stdoutLines stderrLines : List String)
  | moltStatus (connected : Bool) (peerCount : UInt32) (nodeId region : Option String)
  | moltPeers (peers : List records.MoltPeerInfo)
  | moltBalance (balance pending staked : UInt64)
  | pong (clientTimestamp serverTimestamp : ℤ)
  | error (code : UInt32) (message : String) (requestType : Option String)
  | other (debug : String)

/-- `CliMessage::hello`. -/
def CliMessage.helloOf (version : String) : CliMessage := .hello version cliProtocolVersion

/-- The message is the greeting. -/
def CliMessage.isHello : CliMessage → Bool
  | .hello .. => true
  | _ => false

/-- `CliMessage::request_type`. -/
def CliMessage.requestType : CliMessage → String
  | .hello .. => "hello"
  | .getStatus => "get_status"
  | .listNodes .. => "list_nodes"
  | .getNode .. => "get_node"
  | .listWorkloads .. => "list_workloads"
  | .getWorkload .. => "get_workload"
  | .startWorkload .. => "start_workload"
  | .stopWorkload .. => "stop_workload"
  | .getLogs .. => "get_logs"
  | .drainNode .. => "drain_node"
  | .getMoltStatus => "get_molt_status"
  | .listMoltPeers => "list_molt_peers"
  | .getMoltBalance => "get_molt_balance"
  | .ping .. => "ping"

/-- The response is of the kind that the method expects for its message. -/
def CliMessage.expects : CliMessage → CliResponse records → Bool
  | .hello .., .welcome .. => true
  | .getStatus, .status .. => true
  | .listNodes .., .nodes .. => true
  | .getNode .., .node .. => true
  | .listWorkloads .., .workloads .. => true
  | .getWorkload .., .workload .. => true
  | .startWorkload .., .workloadStarted .. => true
  | .stopWorkload .., .workloadStopped .. => true
  | .getLogs .., .logs .. => true
  | .drainNode .., .nodeDrained .. => true
  | .getMoltStatus, .moltStatus .. => true
  | .listMoltPeers, .moltPeers .. => true
  | .getMoltBalance, .moltBalance .. => true
  | .ping .., .pong .. => true
  | _, _ => false

/-- `CliError`, as far as the client and the command that runs a workload return it. -/
inductive CliError where
  | config (message : String)
  | invalidArgument (message : String)
  | connection (message : String)
  | timeout (message : String)
  | protocol (message : String)
  | gateway (code : UInt32) (message : String)
  | format (message : String)
  | io (error : String)
  deriving DecidableEq

/-- A frame of the web socket. A text is given by what it is read as, or the error of reading it. -/
inductive Frame (records : Records) where
  | text (response : Except String (CliResponse records))
  | binary
  | close
  | other

/-- What the client may have in the place of a frame. -/
inductive NoFrame where
  | timedOut
  | ended
  | failed (error : String)

/-! ### The client -/

/-- The end of `send_request`, for what is read or not read in the place of a response. -/
def concluded (request : CliMessage) :
    Reading (Frame records) NoFrame → Except CliError (CliResponse records)
  | .missed .timedOut => .error (.timeout ("request '" ++ request.requestType ++ "' timed out"))
  | .missed .ended => .error (.connection "connection closed")
  | .missed (.failed error) => .error (.connection error)
  | .read _ (.text (.error error)) => .error (.protocol error)
  | .read _ (.text (.ok (.error code message _))) => .error (.gateway code message)
  | .read _ (.text (.ok response)) => .ok response
  | .read _ .binary => .error (.protocol "unexpected binary message")
  | .read _ .close => .error (.connection "connection closed by server")
  | .read _ .other => .error (.protocol "unexpected message type")

/-- What the method that sends a message returns: the response when it is of the kind that it
expects, from which it takes what it hands on. -/
def returned (debug : CliResponse records → String) (request : CliMessage)
    (reading : Reading (Frame records) NoFrame) : Except CliError (CliResponse records) :=
  match concluded request reading with
  | .error error => .error error
  | .ok response =>
    if request.expects response then .ok response
    else match request with
    | .hello .. => .error (.protocol ("unexpected response to hello: " ++ debug response))
    | _ => .error (.protocol ("unexpected response: " ++ debug response))

/-- The client with its gateway. -/
abbrev Connection (Gateway : Type) (records : Records) :=
  Pipe Gateway CliMessage (Frame records) NoFrame

namespace Connection

/-- `GatewayClient::connect_with_timeout`, once the web socket is open: the first message is
sent. -/
def opened (gateway : Gateway) (version : String) : Connection Gateway records :=
  { (Pipe.initial gateway : Connection Gateway records) with sent := [.helloOf version] }

/-- `connect_with_timeout` has returned a client: the first response was a welcome, of any version
of the protocol. -/
def connected (debug : CliResponse records → String) (version : String)
    (connection : Connection Gateway records) : Bool :=
  connection.readings.head?.any fun reading ↦
    (returned debug (.helloOf version) reading).toBool

/-- A step of the client or of the gateway. -/
inductive Move (records : Records) where
  | call (request : CliMessage)
  | serve
  | push (frame : Frame records)
  | receive
  | giveUp (reason : NoFrame)

variable (serve : Gateway → CliMessage → Gateway × Frame records)
  (debug : CliResponse records → String) (version : String)

/-- A step, which changes nothing where it cannot be taken. A method is called when the client is
connected, and none but the first message is a greeting. -/
def step (connection : Connection Gateway records) :
    Move records → Connection Gateway records
  | .call request =>
    if request.isHello = false ∧ connection.connected debug version then
      Pipe.step serve connection (.send request)
    else connection
  | .serve => Pipe.step serve connection .serve
  | .push frame => Pipe.step serve connection (.push frame)
  | .receive => Pipe.step serve connection .receive
  | .giveUp reason => Pipe.step serve connection (.miss reason)

/-- A run of the client and a gateway. -/
def run (gateway : Gateway) (moves : List (Move records)) : Connection Gateway records :=
  moves.foldl (step serve debug version) (opened gateway version)

/-- What the method of a number has returned. The greeting has the number zero. -/
def result (connection : Connection Gateway records) (number : ℕ) :
    Option (Except CliError (CliResponse records)) := do
  let request ← connection.sent[number]?
  let reading ← connection.readings[number]?
  some (returned debug request reading)

/-- The order is kept in a run. -/
theorem ordered_run (serve : Gateway → CliMessage → Gateway × Frame records)
    (debug : CliResponse records → String) (version : String) (gateway : Gateway)
    (moves : List (Move records)) :
    (run serve debug version gateway moves).Ordered serve gateway := by
  have hstart : Pipe.Ordered serve gateway
      (opened gateway version : Connection Gateway records) := by
    have hfirst := Pipe.ordered_step (Pipe.ordered_initial serve gateway)
      (.send (.helloOf version) : PipeMove CliMessage (Frame records) NoFrame)
    exact hfirst
  refine (Library.Runs.always_of_step hstart (fun connection move hordered ↦ ?_) moves).last
  cases move with
  | call request =>
    rw [step]
    split_ifs
    · exact Pipe.ordered_step hordered (.send request)
    · exact hordered
  | serve => exact Pipe.ordered_step hordered .serve
  | push frame => exact Pipe.ordered_step hordered (.push frame)
  | receive => exact Pipe.ordered_step hordered .receive
  | giveUp reason => exact Pipe.ordered_step hordered (.miss reason)

/-- When a method reads an answer, it is the answer to the message as many places before its own as
there were messages before for which none was read, and the method returns what it makes of it for
its own message. So it is the answer to its own message exactly when an answer was read for every
message before. -/
theorem answers_shift (serve : Gateway → CliMessage → Gateway × Frame records)
    (debug : CliResponse records → String) (version : String) (gateway : Gateway)
    (moves : List (Move records)) {number answered : ℕ} {frame : Frame records}
    (hreading : (run serve debug version gateway moves).readings[number]? =
      some (.read (some answered) frame)) :
    answered + (run serve debug version gateway moves).missing number = number ∧
      (answered = number ↔ ∀ reading ∈ (run serve debug version gateway moves).readings.take number,
        reading.answer.isSome) ∧
      (Pipe.answers serve gateway (run serve debug version gateway moves).sent)[answered]? =
        some frame ∧
      ∃ request, (run serve debug version gateway moves).sent[number]? = some request ∧
        (run serve debug version gateway moves).result debug number =
          some (returned debug request (.read (some answered) frame)) := by
  have hordered := ordered_run serve debug version gateway moves
  obtain ⟨hnumber, hanswer⟩ := Pipe.answer_number hordered hreading
  have hsent : number < (run serve debug version gateway moves).sent.length :=
    Nat.lt_of_lt_of_le (List.getElem?_eq_some_iff.mp hreading).1 hordered.paced
  refine ⟨hnumber, Pipe.own_answer_iff hordered hreading, hanswer, _,
    List.getElem?_eq_getElem hsent, ?_⟩
  simp only [result, List.getElem?_eq_getElem hsent, hreading, Option.bind_eq_bind,
    Option.bind_some]

/-- Records of workloads that are only their identifiers. -/
def idRecords : Records := ⟨Unit, Uuid, Unit⟩

/-- A gateway that knows every workload. -/
def knowsWorkloads (gateway : Unit) : CliMessage → Unit × Frame idRecords
  | .hello .. => (gateway, .text (.ok (.welcome "1.0.0" cliProtocolVersion)))
  | .getWorkload workloadId => (gateway, .text (.ok (.workload workloadId)))
  | _ => (gateway, .text (.ok (.error 1003 "invalid request" none)))

/-- Two workloads are asked for, and the first answer comes late. -/
def lateMoves : List (Move idRecords) :=
  [.serve, .receive, .call (.getWorkload (.ofByte 1)), .giveUp .timedOut,
    .call (.getWorkload (.ofByte 2)), .serve, .serve, .receive]

/-- After a method has given up, the next one returns another workload than it was asked for. -/
theorem answers_shift_late :
    1 + (run knowsWorkloads (fun _ ↦ "") "0.1.0" () lateMoves).missing 2 = 2 ∧
      (run knowsWorkloads (fun _ ↦ "") "0.1.0" () lateMoves).sent[2]? =
        some (.getWorkload (.ofByte 2)) ∧
      (run knowsWorkloads (fun _ ↦ "") "0.1.0" () lateMoves).result (fun _ ↦ "") 2 =
        some (.ok (.workload (Uuid.ofByte 1))) := by
  have hreading : (run knowsWorkloads (fun _ ↦ "") "0.1.0" () lateMoves).readings[2]? =
      some (.read (some 1) (.text (.ok (.workload (Uuid.ofByte 1))))) := rfl
  exact ⟨(answers_shift knowsWorkloads (fun _ ↦ "") "0.1.0" () lateMoves hreading).1, rfl, rfl⟩

end Connection

end Clawbernetes.ClawCli
