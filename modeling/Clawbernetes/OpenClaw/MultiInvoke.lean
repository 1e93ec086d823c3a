import Clawbernetes.Library.FanOut
import Mathlib.Data.List.GetD
import Mathlib.Tactic.Common

/-!
# One command on many nodes

`claw_multi_invoke` of `multi-invoke.ts` runs a command on the nodes that are named, or on all nodes
that the gateway lists when none is named. `invokeAll` of `invoke.ts` starts one invocation for each
name and keeps the replies by the name of the node, in the order in which they come.

`multiInvoke_outcome` says what is answered: each name gets a reply of its node, and a node that is
named more than once is invoked as often, with the last reply for all its names. So the answer is
the same in every order of the replies exactly when a node replies the same each time.
-/

set_option autoImplicit false
set_option relaxedAutoImplicit false

namespace Clawbernetes.OpenClaw

open Library.FanOut

/-! ### Invocations -/

/-- What is thrown by a request: it was aborted when its time was over, or another error. -/
inductive Thrown where
  | aborted
  | error (message : String)
  deriving DecidableEq

/-- A response of the gateway. Its body may fail to be read as a text or as JSON. -/
structure Response (Payload : Type*) where
  status : ℕ
  text : Except Thrown String
  json : Except Thrown Payload

/-- `res.ok`. -/
def Response.ok {Payload : Type*} (res : Response Payload) : Bool :=
  200 ≤ res.status && res.status ≤ 299

/-- `InvokeResult`. -/
structure InvokeReply (Payload : Type*) where
  ok : Bool
  payload : Option Payload
  error : Option String
  deriving DecidableEq

variable {Payload : Type*}

/-- The body of the `try` block of `invokeNode`. -/
def tryInvoke (fetched : Except Thrown (Response Payload)) : Except Thrown (InvokeReply Payload) :=
  match fetched with
  | .error thrown => .error thrown
  | .ok res =>
    if res.ok then res.json.map fun data ↦ ⟨true, some data, none⟩
    else res.text.map fun text ↦
      ⟨false, none, some ("HTTP " ++ toString res.status ++ ": " ++ text)⟩

/-- `invokeNode`, which catches what is thrown. -/
def invokeNode (timeoutMs : ℕ) (fetched : Except Thrown (Response Payload)) : InvokeReply Payload :=
  match tryInvoke fetched with
  | .ok reply => reply
  | .error .aborted => ⟨false, none, some ("Timeout after " ++ toString timeoutMs ++ "ms")⟩
  | .error (.error message) => ⟨false, none, some message⟩

/-- `listNodes`: the identifiers of the nodes, which the gateway may leave out. -/
def listNodes (fetched : Except Thrown (Response (Option (List String)))) : List String :=
  match fetched with
  | .error _ => []
  | .ok res =>
    if res.ok then
      match res.json with
      | .ok nodes => nodes.getD []
      | .error _ => []
    else []

/-- The node of an invocation. -/
def nodeOf (nodeIds : List String) (task : ℕ) : String := nodeIds.getD task ""

/-- `invokeAll`: the replies by the names of the nodes, after the invocations have ended in some
order. -/
def invokeAll (timeoutMs : ℕ) (nodeIds : List String)
    (fetched : ℕ → Except Thrown (Response Payload)) (order : List ℕ) :
    String → Option (InvokeReply Payload) :=
  settled (nodeOf nodeIds) (fun task ↦ invokeNode timeoutMs (fetched task)) order

/-! ### The tool -/

/-- The arguments of `claw_multi_invoke`. An element of `nodes` may be no text. -/
structure MultiInvokeArgs where
  command : String
  nodes : Option (List (Option String))

/-- The nodes that the command runs on. -/
def MultiInvokeArgs.nodeIds (args : MultiInvokeArgs) (listed : List String) : List String :=
  match args.nodes with
  | some (first :: rest) => (first :: rest).filterMap id
  | some [] | none => listed

/-- What the tool answers for a node. -/
structure NodeOutput (Payload : Type*) where
  nodeId : String
  ok : Bool
  payload : Option Payload
  error : Option String
  deriving DecidableEq

/-- The answer for a node whose reply is looked up. -/
def nodeOutput (nodeId : String) : Option (InvokeReply Payload) → NodeOutput Payload
  | none => ⟨nodeId, false, none, some "No response"⟩
  | some reply =>
    if reply.ok then ⟨nodeId, true, reply.payload, none⟩ else ⟨nodeId, false, none, reply.error⟩

/-- The answer of the tool. -/
inductive MultiInvokeResult (Payload : Type*) where
  | noNodes (message : String)
  | results (command : String) (nodeCount succeeded failed : ℕ)
      (results : List (NodeOutput Payload))

/-- The answer for some nodes. -/
def multiInvokeResult (command : String) (output : List (NodeOutput Payload)) :
    MultiInvokeResult Payload :=
  .results command output.length (output.countP fun reply ↦ reply.ok)
    (output.countP fun reply ↦ !reply.ok) output

/-- `execute` of `claw_multi_invoke`, for the replies to the question for the nodes and to each
invocation, and the order in which the invocations end. -/
def multiInvoke (args : MultiInvokeArgs) (timeoutMs : ℕ)
    (nodes : Except Thrown (Response (Option (List String))))
    (fetched : ℕ → Except Thrown (Response Payload)) (order : List ℕ) :
    MultiInvokeResult Payload :=
  let nodeIds := args.nodeIds (listNodes nodes)
  if nodeIds = [] then .noNodes "No nodes available"
  else
    let results := invokeAll timeoutMs nodeIds fetched order
    multiInvokeResult args.command (nodeIds.map fun nodeId ↦ nodeOutput nodeId (results nodeId))

/-! ### Orders of the replies -/

/-- The answer for the reply to an invocation. -/
def replyOutput (timeoutMs : ℕ) (nodeId : String) (fetched : Except Thrown (Response Payload)) :
    NodeOutput Payload :=
  nodeOutput nodeId (some (invokeNode timeoutMs fetched))

/-- A reply has a payload when it is one of success, and an error when it is not. -/
theorem invokeNode_cases (timeoutMs : ℕ) (fetched : Except Thrown (Response Payload)) :
    (∃ data, invokeNode timeoutMs fetched = ⟨true, some data, none⟩) ∨
      ∃ error, invokeNode timeoutMs fetched = ⟨false, none, some error⟩ := by
  unfold invokeNode
  cases htry : tryInvoke fetched with
  | error thrown => cases thrown <;> exact .inr ⟨_, rfl⟩
  | ok reply =>
    cases fetched with
    | error thrown => cases htry
    | ok res =>
      rw [tryInvoke] at htry
      split_ifs at htry
      · cases hjson : res.json with
        | error thrown => rw [hjson] at htry; cases htry
        | ok data =>
          rw [hjson] at htry
          obtain rfl := Except.ok.inj htry
          exact .inl ⟨data, rfl⟩
      · cases htext : res.text with
        | error thrown => rw [htext] at htry; cases htry
        | ok text =>
          rw [htext] at htry
          obtain rfl := Except.ok.inj htry
          exact .inr ⟨_, rfl⟩

/-- Replies with the same answer are the same. -/
theorem replyOutput_inj {timeoutMs : ℕ} {nodeId : String}
    {first second : Except Thrown (Response Payload)} :
    replyOutput timeoutMs nodeId first = replyOutput timeoutMs nodeId second ↔
      invokeNode timeoutMs first = invokeNode timeoutMs second := by
  refine ⟨fun hsame ↦ ?_, fun hsame ↦ by rw [replyOutput, hsame, replyOutput]⟩
  unfold replyOutput nodeOutput at hsame
  rcases invokeNode_cases timeoutMs first with ⟨data, hfirst⟩ | ⟨error, hfirst⟩ <;>
    rcases invokeNode_cases timeoutMs second with ⟨other, hsecond⟩ | ⟨other, hsecond⟩ <;>
    simp_all

variable {timeoutMs : ℕ} {nodeIds : List String} {fetched : ℕ → Except Thrown (Response Payload)}
  {order : List ℕ}

/-- The node of an invocation is the name at its place. -/
theorem nodeOf_eq_iff {task : ℕ} (htask : task < nodeIds.length) {nodeId : String} :
    nodeOf nodeIds task = nodeId ↔ nodeIds[task]? = some nodeId := by
  rw [nodeOf, List.getD_eq_getElem _ _ htask, List.getElem?_eq_getElem htask, Option.some_inj]

/-- When all invocations have ended, each name has the reply to the last invocation of its node. -/
theorem invokeAll_of_mem (horder : order.Perm (List.range nodeIds.length)) {nodeId : String}
    (hnode : nodeId ∈ nodeIds) : ∃ task, lastTask (nodeOf nodeIds) order nodeId = some task ∧
      nodeIds[task]? = some nodeId ∧
      invokeAll timeoutMs nodeIds fetched order nodeId =
        some (invokeNode timeoutMs (fetched task)) := by
  obtain ⟨named, hlt, hnamed⟩ := List.mem_iff_getElem.mp hnode
  have hsome : (invokeAll timeoutMs nodeIds fetched order nodeId).isSome = true := by
    refine settled_isSome_iff.mpr ⟨named, horder.mem_iff.mpr (List.mem_range.mpr hlt), ?_⟩
    exact (nodeOf_eq_iff hlt).mpr (List.getElem?_eq_some_iff.mpr ⟨hlt, hnamed⟩)
  rw [invokeAll, settled_eq] at hsome ⊢
  obtain ⟨task, hlast⟩ := Option.isSome_iff_exists.mp (Option.isSome_map ▸ hsome)
  obtain ⟨hmem, hkey⟩ := lastTask_mem hlast
  have htask := List.mem_range.mp (horder.mem_iff.mp hmem)
  exact ⟨task, hlast, (nodeOf_eq_iff htask).mp hkey, by rw [hlast, Option.map_some]⟩

/-- Nothing is kept for a node that is not named. -/
theorem invokeAll_of_not_mem (horder : order.Perm (List.range nodeIds.length)) {nodeId : String}
    (hnode : nodeId ∉ nodeIds) : invokeAll timeoutMs nodeIds fetched order nodeId = none := by
  rw [← Option.not_isSome_iff_eq_none, invokeAll, settled_isSome_iff]
  rintro ⟨task, hmem, hkey⟩
  have htask := List.mem_range.mp (horder.mem_iff.mp hmem)
  exact hnode (List.mem_of_getElem? ((nodeOf_eq_iff htask).mp hkey))

/-- The answers for the names. -/
def nodeOutputs (timeoutMs : ℕ) (nodeIds : List String)
    (fetched : ℕ → Except Thrown (Response Payload)) (order : List ℕ) : List (NodeOutput Payload) :=
  nodeIds.map fun nodeId ↦ nodeOutput nodeId (invokeAll timeoutMs nodeIds fetched order nodeId)

/-- The answers are the same in two orders if and only if the replies are. -/
theorem nodeOutputs_eq_iff {other : List ℕ} (horder : order.Perm (List.range nodeIds.length))
    (hother : other.Perm (List.range nodeIds.length)) :
    nodeOutputs timeoutMs nodeIds fetched other = nodeOutputs timeoutMs nodeIds fetched order ↔
      invokeAll timeoutMs nodeIds fetched other = invokeAll timeoutMs nodeIds fetched order := by
  refine ⟨fun hsame ↦ ?_, fun hsame ↦ by rw [nodeOutputs, hsame, nodeOutputs]⟩
  funext nodeId
  by_cases hnode : nodeId ∈ nodeIds
  · obtain ⟨first, -, -, hfirst⟩ := invokeAll_of_mem hother hnode
    obtain ⟨second, -, -, hsecond⟩ := invokeAll_of_mem horder hnode
    have hanswer := List.map_inj_left.mp hsame nodeId hnode
    rw [hfirst, hsecond] at hanswer
    rw [hfirst, hsecond, replyOutput_inj.mp hanswer]
  · rw [invokeAll_of_not_mem hother hnode, invokeAll_of_not_mem horder hnode]

/-- The answers are the same in every order if and only if the invocations of one node all have the
same reply. -/
theorem nodeOutputs_independent_iff :
    (∀ order, order.Perm (List.range nodeIds.length) → nodeOutputs timeoutMs nodeIds fetched order =
      nodeOutputs timeoutMs nodeIds fetched (List.range nodeIds.length)) ↔
      ∀ first second nodeId, nodeIds[first]? = some nodeId → nodeIds[second]? = some nodeId →
        invokeNode timeoutMs (fetched first) = invokeNode timeoutMs (fetched second) := by
  have hall : (∀ order, order.Perm (List.range nodeIds.length) →
      invokeAll timeoutMs nodeIds fetched order =
        invokeAll timeoutMs nodeIds fetched (List.range nodeIds.length)) ↔ _ :=
    settled_independent_iff
  have houtputs : (∀ order, order.Perm (List.range nodeIds.length) →
      nodeOutputs timeoutMs nodeIds fetched order =
        nodeOutputs timeoutMs nodeIds fetched (List.range nodeIds.length)) ↔ _ :=
    forall₂_congr fun order horder ↦ nodeOutputs_eq_iff (List.Perm.refl _) horder
  rw [houtputs, hall]
  constructor
  · intro hsame first second nodeId hfirst hsecond
    have hlt := (List.getElem?_eq_some_iff.mp hfirst).1
    have hlt' := (List.getElem?_eq_some_iff.mp hsecond).1
    refine hsame first (List.mem_range.mpr hlt) second (List.mem_range.mpr hlt') ?_
    rw [(nodeOf_eq_iff hlt).mpr hfirst, (nodeOf_eq_iff hlt').mpr hsecond]
  · intro hsame first hfirst second hsecond hkeys
    have hlt := List.mem_range.mp hfirst
    have hlt' := List.mem_range.mp hsecond
    exact hsame first second _ ((nodeOf_eq_iff hlt).mp rfl) ((nodeOf_eq_iff hlt').mp hkeys.symm)

/-- Every name is answered with the reply to the last invocation of its node to end, and is counted
by whether this is a success. The answer is the same in every order in which the invocations end if
and only if all invocations of one node have the same reply. -/
theorem multiInvoke_outcome (args : MultiInvokeArgs) (timeoutMs : ℕ)
    (nodes : Except Thrown (Response (Option (List String))))
    (fetched : ℕ → Except Thrown (Response Payload)) :
    let nodeIds := args.nodeIds (listNodes nodes)
    (∀ order, order.Perm (List.range nodeIds.length) → nodeIds ≠ [] →
      ∃ output : List (NodeOutput Payload), multiInvoke args timeoutMs nodes fetched order =
          .results args.command nodeIds.length (output.countP fun answer ↦ answer.ok)
            (output.countP fun answer ↦ !answer.ok) output ∧
        List.Forall₂ (fun nodeId answer ↦ ∃ task,
          lastTask (nodeOf nodeIds) order nodeId = some task ∧ nodeIds[task]? = some nodeId ∧
            answer = replyOutput timeoutMs nodeId (fetched task)) nodeIds output) ∧
      ((∀ order, order.Perm (List.range nodeIds.length) →
        multiInvoke args timeoutMs nodes fetched order =
          multiInvoke args timeoutMs nodes fetched (List.range nodeIds.length)) ↔
        ∀ first second nodeId, nodeIds[first]? = some nodeId → nodeIds[second]? = some nodeId →
          invokeNode timeoutMs (fetched first) = invokeNode timeoutMs (fetched second)) := by
  intro nodeIds
  have hresult : nodeIds ≠ [] → ∀ order, multiInvoke args timeoutMs nodes fetched order =
      multiInvokeResult args.command (nodeOutputs timeoutMs nodeIds fetched order) :=
    fun hnodes order ↦ if_neg hnodes
  constructor
  · intro order horder hnodes
    refine ⟨nodeOutputs timeoutMs nodeIds fetched order, ?_, ?_⟩
    · rw [hresult hnodes, multiInvokeResult, nodeOutputs, List.length_map]
    · refine List.forall₂_map_right_iff.mpr (List.forall₂_same.mpr fun nodeId hnode ↦ ?_)
      obtain ⟨task, hlast, htask, hreply⟩ := invokeAll_of_mem horder hnode
      exact ⟨task, hlast, htask, by rw [hreply, replyOutput]⟩
  · rw [← nodeOutputs_independent_iff]
    refine forall₂_congr fun order horder ↦ ?_
    by_cases hnodes : nodeIds = []
    · have hnone : ∀ order, multiInvoke args timeoutMs nodes fetched order =
          .noNodes "No nodes available" := fun order ↦ if_pos hnodes
      refine iff_of_true ((hnone order).trans (hnone _).symm) ?_
      rw [nodeOutputs, nodeOutputs, hnodes, List.map_nil, List.map_nil]
    · rw [hresult hnodes, hresult hnodes, multiInvokeResult, multiInvokeResult]
      refine ⟨fun hsame ↦ (MultiInvokeResult.results.inj hsame).2.2.2.2, fun hsame ↦ by rw [hsame]⟩

end Clawbernetes.OpenClaw
