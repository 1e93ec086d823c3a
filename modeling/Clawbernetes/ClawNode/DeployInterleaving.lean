import Clawbernetes.ClawNode.Deploy
import Clawbernetes.Library.Interleaving

/-!
# Commands on one deployment that overlap

The same commands as in `Deploy`, each as its sequence of sections: the record is read, an image is
pulled, replicas are started one by one, containers are removed one by one, and the record is
written or deleted. Other commands on the deployment may come in between. When none does, a command
does what its handler does in `Deploy` (`endsIn_step`).
-/

set_option autoImplicit false
set_option relaxedAutoImplicit false

namespace Clawbernetes.ClawNode.Deploy

open Library.FiniteTable Library.Interleaving

/-! ### The sections of the commands -/

/-- A command that starts or stops containers. -/
inductive Request where
  | create (params : DeployCreateParams)
  | update (params : DeployUpdateParams)
  | rollback (params : RollbackParams)
  | delete (name : String)

/-- The deployment of a command. -/
def Request.name : Request → String
  | .create params => params.name
  | .update params => params.name
  | .rollback params => params.name
  | .delete name => name

/-- A command on one deployment. -/
abbrev RequestOn (name : String) := { request : Request // request.name = name }

/-- What a command still has to do, with the containers that it has started. -/
inductive Task where
  | pulling (rollout : Rollout)
  | starting (rollout : Rollout) (started : List String)
  | cleaning (started : List String)
  | stopping (rollout : Rollout) (started left : List String)
  | deleting (stops left : List String)
  deriving DecidableEq

/-- What a section gets from outside: the answer of the runtime and the readings of the clock. -/
structure Outside where
  answer : Except String Unit
  now : ℤ
  later : ℤ

/-- A rollout goes on with the next replica, or stops the old ones when all are started. -/
def proceed (rollout : Rollout) (started : List String) : Task :=
  if started.length < rollout.replicas.toNat then .starting rollout started
  else .stopping rollout started rollout.stops

/-- A failed rollout removes what it started. -/
def cleanUp : List String → Option Task
  | [] => none
  | started => some (.cleaning started)

/-- A rollout begins with the pull, when there is one. -/
def firstTask (rollout : Rollout) : Task :=
  if rollout.pulls then .pulling rollout else proceed rollout []

/-- The first section of a command: it reads the record. -/
def beginRequest (node : Node) : Request → Option Task
  | .create params => (readCreate params node).toOption.map firstTask
  | .update params => (readUpdate params node).toOption.map firstTask
  | .rollback params => (readRollback params node).toOption.map firstTask
  | .delete name => (node.deployments.lookup name).map fun record ↦
      .deleting record.containerIds record.containerIds

/-- A further section of a command. -/
def resumeTask (ids : ContainerIds) (name : String) (outside : Outside) (node : Node) :
    Task → Node × Option Task
  | .pulling rollout =>
    match outside.answer with
    | .error _ => (node, none)
    | .ok () => (node, some (proceed rollout []))
  | .starting rollout started =>
    match outside.answer with
    | .error _ => (node, cleanUp started)
    | .ok () =>
      let (id, runtime) := startReplica ids rollout.spec started.length node.runtime
      (⟨node.deployments, runtime⟩, some (proceed rollout (started ++ [id])))
  | .cleaning [] => (node, none)
  | .cleaning (id :: rest) =>
    (⟨node.deployments, removeContainer node.runtime id⟩, cleanUp rest)
  | .stopping rollout started [] =>
    ((commit rollout started outside.now outside.later node).2, none)
  | .stopping rollout started (id :: rest) =>
    (⟨node.deployments, removeContainer node.runtime id⟩, some (.stopping rollout started rest))
  | .deleting _ [] => (⟨node.deployments.erase name, node.runtime⟩, none)
  | .deleting stops (id :: rest) =>
    (⟨node.deployments, removeContainer node.runtime id⟩, some (.deleting stops rest))

/-- The commands on one deployment. -/
def protocol (ids : ContainerIds) (name : String) :
    Protocol Node Task (RequestOn name) Outside where
  begin node request := (node, beginRequest node request.1)
  resume outside node task := resumeTask ids name outside node task

/-- No deployments and no commands. -/
def start : World Node Task := ⟨empty, []⟩

/-! ### A command that no other overlaps -/

/-- The request of a command that starts or stops containers. -/
def Command.request : Command → Option Request
  | .create params _ _ => some (.create params)
  | .update params _ _ _ => some (.update params)
  | .rollback params _ _ _ => some (.rollback params)
  | .delete name => some (.delete name)
  | .promote _ _ => none
  | .pause _ _ => none

/-- The task on its way ends in a node when its sections are taken one after the other. -/
def EndsIn (ids : ContainerIds) (name : String) (world : World Node Task) (after : Node) : Prop :=
  ∃ outsides : List Outside,
    (outsides.map (Move.resume 0)).foldl (protocol ids name).step world = ⟨after, []⟩

section Alone

variable {ids : ContainerIds} {name : String} {node after : Node} {task : Task}

/-- No task. -/
theorem endsIn_done : EndsIn ids name ⟨node, []⟩ node := ⟨[], rfl⟩

/-- The next section of a task. -/
theorem endsIn_of_resume (outside : Outside)
    (hends : EndsIn ids name ⟨(resumeTask ids name outside node task).1,
      (resumeTask ids name outside node task).2.toList⟩ after) :
    EndsIn ids name ⟨node, [task]⟩ after := by
  obtain ⟨rest, hrest⟩ := hends
  exact ⟨outside :: rest, hrest⟩

/-- The runtime answers that all is well, at time zero. -/
def quiet : Outside := ⟨.ok (), 0, 0⟩

/-- A failed rollout removes what it started. -/
theorem endsIn_cleanUp (started : List String) (node : Node) :
    EndsIn ids name ⟨node, (cleanUp started).toList⟩
      ⟨node.deployments, started.foldl removeContainer node.runtime⟩ := by
  induction started generalizing node with
  | nil => exact endsIn_done
  | cons id rest ih =>
    exact endsIn_of_resume quiet (ih ⟨node.deployments, removeContainer node.runtime id⟩)

/-- A rollout that has started its replicas stops the old ones and writes its record. -/
theorem endsIn_stopping (rollout : Rollout) (started left : List String) (now later : ℤ)
    (node : Node) :
    EndsIn ids name ⟨node, [.stopping rollout started left]⟩ (commit rollout started now later
      ⟨node.deployments, left.foldl removeContainer node.runtime⟩).2 := by
  induction left generalizing node with
  | nil => exact endsIn_of_resume ⟨.ok (), now, later⟩ endsIn_done
  | cons id rest ih =>
    exact endsIn_of_resume quiet (ih ⟨node.deployments, removeContainer node.runtime id⟩)

/-- A deletion removes the containers and the record. -/
theorem endsIn_deleting (stops left : List String) (node : Node) :
    EndsIn ids name ⟨node, [.deleting stops left]⟩
      ⟨node.deployments.erase name, left.foldl removeContainer node.runtime⟩ := by
  induction left generalizing node with
  | nil => exact endsIn_of_resume quiet endsIn_done
  | cons id rest ih =>
    exact endsIn_of_resume quiet (ih ⟨node.deployments, removeContainer node.runtime id⟩)

/-- The node after the loop of a rollout and what follows it. -/
def afterLoop (rollout : Rollout) (now later : ℤ) (deployments : Table String DeployRecord) :
    Except (ℕ × String) (List String) × Runtime → Node
  | (.error _, runtime) => ⟨deployments, runtime⟩
  | (.ok started, runtime) => (commit rollout started now later
      ⟨deployments, rollout.stops.foldl removeContainer runtime⟩).2

/-- A rollout starts the replicas that are left as its loop does. -/
theorem endsIn_proceed (rollout : Rollout) (answers : ℕ → Except String Unit) (now later : ℤ)
    (deployments : Table String DeployRecord) (remaining : ℕ) (started : List String)
    (runtime : Runtime) (hremaining : started.length + remaining = rollout.replicas.toNat) :
    EndsIn ids name ⟨⟨deployments, runtime⟩, [proceed rollout started]⟩
      (afterLoop rollout now later deployments
        (startReplicas ids rollout.spec answers started.length remaining started runtime)) := by
  induction remaining generalizing started runtime with
  | zero =>
    have hproceed : proceed rollout started = .stopping rollout started rollout.stops :=
      if_neg (by omega)
    rw [hproceed]
    exact endsIn_stopping rollout started rollout.stops now later ⟨deployments, runtime⟩
  | succ remaining ih =>
    have hproceed : proceed rollout started = .starting rollout started := if_pos (by omega)
    rw [hproceed]
    refine endsIn_of_resume ⟨answers started.length, now, later⟩ ?_
    rw [startReplicas, resumeTask]
    cases answers started.length with
    | error error => exact endsIn_cleanUp started ⟨deployments, runtime⟩
    | ok done =>
      have hlength : (started ++ [ids.id runtime.given]).length = started.length + 1 :=
        List.length_append
      have hrest := ih (started ++ [ids.id runtime.given])
        (startReplica ids rollout.spec started.length runtime).2 (by omega)
      rw [hlength] at hrest
      exact hrest

/-- A rollout whose image is there goes on with its loop. -/
theorem runRollout_of_pulled {answers : Answers} {now later : ℤ} {rollout : Rollout}
    (hpull : (if rollout.pulls then answers.pull else .ok ()) = .ok ()) :
    (runRollout ids answers now later node rollout).2 = afterLoop rollout now later node.deployments
      (startReplicas ids rollout.spec answers.start 0 rollout.replicas.toNat [] node.runtime) := by
  unfold runRollout
  rw [hpull]
  rcases startReplicas ids rollout.spec answers.start 0 rollout.replicas.toNat [] node.runtime with
    ⟨⟨index, error⟩ | started, runtime⟩ <;> rfl

/-- A rollout ends as `runRollout` says. -/
theorem endsIn_firstTask (answers : Answers) (now later : ℤ) (rollout : Rollout) :
    EndsIn ids name ⟨node, [firstTask rollout]⟩
      (runRollout ids answers now later node rollout).2 := by
  have hloop : EndsIn ids name ⟨node, [proceed rollout []]⟩ _ :=
    endsIn_proceed rollout answers.start
    now later node.deployments rollout.replicas.toNat [] node.runtime (Nat.zero_add _)
  unfold firstTask
  split_ifs with hpulls
  · refine endsIn_of_resume ⟨answers.pull, now, later⟩ ?_
    rw [resumeTask]
    cases hpull : answers.pull with
    | error error =>
      have hfailed : (runRollout ids answers now later node rollout).2 = node := by
        simp only [runRollout, if_pos hpulls, hpull]
      rw [hfailed]
      exact endsIn_done
    | ok done =>
      rw [runRollout_of_pulled (by rw [if_pos hpulls, hpull])]
      exact hloop
  · rw [runRollout_of_pulled (by rw [if_neg hpulls])]
    exact hloop

/-- A rollout that is read ends as `rollOut` says. -/
theorem endsIn_rollOut (answers : Answers) (now later : ℤ) (read : Except String Rollout) :
    EndsIn ids name ⟨node, (read.toOption.map firstTask).toList⟩
      (rollOut ids answers now later node read).2 := by
  cases read with
  | error error => exact endsIn_done
  | ok rollout => exact endsIn_firstTask answers now later rollout

/-- A command that no other overlaps does what `handleDeployCommand` does. -/
theorem endsIn_step {command : Command} {request : Request}
    (hrequest : command.request = some request) (hname : request.name = name) :
    EndsIn ids name ((protocol ids name).step ⟨node, []⟩ (.begin ⟨request, hname⟩))
      (step ids node command) := by
  subst hname
  cases command with
  | create params answers now =>
    obtain rfl := Option.some_inj.mp hrequest
    exact endsIn_rollOut answers now now (readCreate params node)
  | update params answers now later =>
    obtain rfl := Option.some_inj.mp hrequest
    exact endsIn_rollOut answers now later (readUpdate params node)
  | rollback params answers now later =>
    obtain rfl := Option.some_inj.mp hrequest
    exact endsIn_rollOut answers now later (readRollback params node)
  | delete deployment =>
    obtain rfl := Option.some_inj.mp hrequest
    change EndsIn ids deployment ⟨node, ((node.deployments.lookup deployment).map _).toList⟩
      (handleDeployDelete deployment node).2
    unfold handleDeployDelete
    cases node.deployments.lookup deployment with
    | none => exact endsIn_done
    | some record => exact endsIn_deleting record.containerIds record.containerIds node
  | promote deployment now => cases hrequest
  | pause deployment now => cases hrequest

end Alone

end Clawbernetes.ClawNode.Deploy
