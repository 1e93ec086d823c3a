import Clawbernetes.ClawNode.Stores
import Mathlib.Data.Rat.Defs

/-!
# Deployments

`deploy.create`, `deploy.update`, `deploy.rollback`, `deploy.promote`, `deploy.pause` and
`deploy.delete` of `deploy_cmd.rs`, on the records of `claw-deploy` and the containers of the
runtime. A creation, an update and a rollback are rollouts: they read the record, pull an image,
start new replicas one after the other, stop the old ones and write the record. When a replica does
not start, those before it are removed and the command fails. The runtime may fail every pull and
every start, and gives every container an id of its own.

`runRollout` is a rollout that no other command overlaps, and `startReplicas_cases` says what its
loop does: it starts all replicas, or it stops at one and leaves the containers that were there
before.
-/

set_option autoImplicit false
set_option relaxedAutoImplicit false

namespace Clawbernetes.ClawNode

open Library.FiniteTable

/-- The state of a deployment. -/
inductive DeployState where
  | active
  | updating
  | paused
  | failed
  | deleted
  deriving DecidableEq

/-- `DeployRevision`. -/
structure DeployRevision where
  revision : UInt32
  image : String
  replicas : UInt32
  timestamp : ℤ
  reason : Option String
  deriving DecidableEq

/-- `DeployRecord`. The limit of the CPU is the exact value of the `f32`. -/
structure DeployRecord where
  name : String
  image : String
  previousImage : Option String
  replicas : UInt32
  containerIds : List String
  gpusPerReplica : UInt32
  memory : Option String
  cpu : Option ℚ
  strategy : String
  state : DeployState
  revision : UInt32
  history : List DeployRevision
  createdAt : ℤ
  updatedAt : ℤ
  deriving DecidableEq

/-- `DeployCreateParams`. -/
structure DeployCreateParams where
  name : String
  image : String
  replicas : UInt32 := 1
  strategy : Option String
  gpus : Option UInt32
  memory : Option String
  cpu : Option ℚ

/-- `DeployUpdateParams`. -/
structure DeployUpdateParams where
  name : String
  image : Option String
  replicas : Option UInt32

/-- `RollbackParams`. -/
structure RollbackParams where
  name : String
  reason : Option String

namespace Deploy

/-! ### The containers of the runtime -/

/-- A managed container, as `start_replica` runs it. -/
structure Replica where
  id : String
  containerName : String
  deployName : String
  deployReplica : ℕ
  image : String
  gpus : UInt32
  memory : Option String
  cpu : Option ℚ
  deriving DecidableEq

/-- The ids of containers, in the order in which the runtime gives them. None comes twice. -/
structure ContainerIds where
  id : ℕ → String
  injective : Function.Injective id

/-- The containers that are running, and how many ids were given. -/
structure Runtime where
  running : List Replica
  given : ℕ

/-- What a rollout starts replicas with. -/
structure ReplicaSpec where
  name : String
  image : String
  gpus : UInt32
  memory : Option String
  cpu : Option ℚ
  deriving DecidableEq

/-- The replica of an index. -/
def ReplicaSpec.replica (spec : ReplicaSpec) (id : String) (index : ℕ) : Replica :=
  ⟨id, "claw-deploy-" ++ spec.name ++ "-" ++ toString index, spec.name, index, spec.image,
    spec.gpus, spec.memory, spec.cpu⟩

/-- `start_replica`, when the runtime starts the container. -/
def startReplica (ids : ContainerIds) (spec : ReplicaSpec) (index : ℕ) (runtime : Runtime) :
    String × Runtime :=
  (ids.id runtime.given,
    ⟨runtime.running ++ [spec.replica (ids.id runtime.given) index], runtime.given + 1⟩)

/-- `remove_container`. -/
def removeContainer (runtime : Runtime) (id : String) : Runtime :=
  { runtime with running := runtime.running.filter (·.id ≠ id) }

/-- What the runtime answers to a command: to the pull, and to the start of each replica. -/
structure Answers where
  pull : Except String Unit
  start : ℕ → Except String Unit

/-- The loop that starts replicas from an index on. When one does not start, those that were started
before are removed, and the index and the error are returned. -/
def startReplicas (ids : ContainerIds) (spec : ReplicaSpec) (start : ℕ → Except String Unit) :
    ℕ → ℕ → List String → Runtime → Except (ℕ × String) (List String) × Runtime
  | _, 0, started, runtime => (.ok started, runtime)
  | index, remaining + 1, started, runtime =>
    match start index with
    | .error error => (.error (index, error), started.foldl removeContainer runtime)
    | .ok () =>
      let (id, runtime) := startReplica ids spec index runtime
      startReplicas ids spec start (index + 1) remaining (started ++ [id]) runtime

/-! ### Rollouts -/

/-- The command that a rollout is for, with what only it needs. -/
inductive RolloutKind where
  | create (strategy : String)
  | update (oldImage : String)
  | rollback (reason : String)
  deriving DecidableEq

/-- What a command has found out before it starts replicas: what to start and what to stop. -/
structure Rollout where
  kind : RolloutKind
  spec : ReplicaSpec
  replicas : UInt32
  stops : List String
  deriving DecidableEq

/-- The deployments and the containers of a node. -/
structure Node where
  deployments : Table String DeployRecord
  runtime : Runtime

/-- What `handle_deploy_create` finds out first. -/
def readCreate (params : DeployCreateParams) (node : Node) : Except String Rollout :=
  match node.deployments.lookup params.name with
  | some _ => .error (alreadyExists "deployment" params.name)
  | none => .ok ⟨.create (params.strategy.getD "rolling"),
      ⟨params.name, params.image, params.gpus.getD 0, params.memory, params.cpu⟩,
        params.replicas, []⟩

/-- What `handle_deploy_update` finds out first. -/
def readUpdate (params : DeployUpdateParams) (node : Node) : Except String Rollout :=
  match node.deployments.lookup params.name with
  | none => .error (notFound "deployment" params.name)
  | some record =>
    if record.state = .paused then .error "deployment is paused, resume before updating"
    else .ok ⟨.update record.image, ⟨params.name, params.image.getD record.image,
      record.gpusPerReplica, record.memory, record.cpu⟩, params.replicas.getD record.replicas,
      record.containerIds⟩

/-- What `handle_deploy_rollback` finds out first. It does not look at the state. -/
def readRollback (params : RollbackParams) (node : Node) : Except String Rollout :=
  match node.deployments.lookup params.name with
  | none => .error (notFound "deployment" params.name)
  | some record =>
    match record.previousImage with
    | none => .error "no previous image to rollback to"
    | some previous => .ok ⟨.rollback (params.reason.getD "manual rollback"),
        ⟨params.name, previous, record.gpusPerReplica, record.memory, record.cpu⟩, record.replicas,
        record.containerIds⟩

/-- Whether a rollout pulls its image. -/
def Rollout.pulls (rollout : Rollout) : Bool :=
  match rollout.kind with
  | .create _ => true
  | .update oldImage => rollout.spec.image ≠ oldImage
  | .rollback _ => false

/-- The error of a rollout whose replica did not start. -/
def Rollout.failure (rollout : Rollout) (index : ℕ) (error : String) : String :=
  match rollout.kind with
  | .create _ => error
  | .update _ => "update failed at replica " ++ toString index ++ ": " ++ error
  | .rollback _ => "rollback failed at replica " ++ toString index ++ ": " ++ error

/-- The record that `handle_deploy_create` makes. -/
def Rollout.created (rollout : Rollout) (strategy : String) (started : List String) (now : ℤ) :
    DeployRecord where
  name := rollout.spec.name
  image := rollout.spec.image
  previousImage := none
  replicas := rollout.replicas
  containerIds := started
  gpusPerReplica := rollout.spec.gpus
  memory := rollout.spec.memory
  cpu := rollout.spec.cpu
  strategy := strategy
  state := .active
  revision := 1
  history := [⟨1, rollout.spec.image, rollout.replicas, now, some "initial deployment"⟩]
  createdAt := now
  updatedAt := now

/-- The record after `handle_deploy_update` or `handle_deploy_rollback`: the image that is left
behind and the replicas are those of the update, while a rollback takes both from the record. -/
def Rollout.revised (rollout : Rollout) (previous : String) (replicas : UInt32) (reason : String)
    (started : List String) (now later : ℤ) (record : DeployRecord) : DeployRecord :=
  { record with
    previousImage := some previous
    image := rollout.spec.image
    replicas := replicas
    containerIds := started
    revision := record.revision + 1
    state := .active
    updatedAt := now
    history := record.history ++
      [⟨record.revision + 1, rollout.spec.image, rollout.replicas, later, some reason⟩] }

/-- The write of the record at the end of a rollout. An update or rollback of a deployment that is
no longer there writes nothing. -/
def commit (rollout : Rollout) (started : List String) (now later : ℤ) (node : Node) :
    Except String Unit × Node :=
  match rollout.kind with
  | .create strategy =>
    let (reply, deployments) := createRecord "deployment" node.deployments rollout.spec.name
      (rollout.created strategy started now)
    (reply, { node with deployments := deployments })
  | .update oldImage => (.ok (), revise (rollout.revised oldImage rollout.replicas "update" started
      now later))
  | .rollback reason => (.ok (), revise fun record ↦ rollout.revised record.image record.replicas
      ("rollback: " ++ reason) started now later record)
where
  revise (change : DeployRecord → DeployRecord) : Node :=
    match node.deployments.lookup rollout.spec.name with
    | none => node
    | some record =>
      { node with deployments := node.deployments.replace rollout.spec.name (change record) }

/-- A rollout from the pull on. -/
def runRollout (ids : ContainerIds) (answers : Answers) (now later : ℤ) (node : Node)
    (rollout : Rollout) : Except String Unit × Node :=
  match if rollout.pulls then answers.pull else .ok () with
  | .error error => (.error error, node)
  | .ok () =>
    match startReplicas ids rollout.spec answers.start 0 rollout.replicas.toNat [] node.runtime with
    | (.error (index, error), runtime) =>
      (.error (rollout.failure index error), { node with runtime := runtime })
    | (.ok started, runtime) =>
      commit rollout started now later
        { node with runtime := rollout.stops.foldl removeContainer runtime }

/-! ### The commands -/

/-- A command, with what the runtime answers and the clock shows. -/
inductive Command where
  | create (params : DeployCreateParams) (answers : Answers) (now : ℤ)
  | update (params : DeployUpdateParams) (answers : Answers) (now later : ℤ)
  | rollback (params : RollbackParams) (answers : Answers) (now later : ℤ)
  | promote (name : String) (now : ℤ)
  | pause (name : String) (now : ℤ)
  | delete (name : String)

/-- A change of a record under the write lock. -/
def changeRecord (name : String) (change : DeployRecord → DeployRecord) (node : Node) :
    Except String Unit × Node :=
  match node.deployments.lookup name with
  | none => (.error (notFound "deployment" name), node)
  | some record =>
    (.ok (), { node with deployments := node.deployments.replace name (change record) })

/-- `handle_deploy_promote`. -/
def handleDeployPromote (name : String) (now : ℤ) : Node → Except String Unit × Node :=
  changeRecord name fun record ↦
    { record with previousImage := none, state := .active, updatedAt := now }

/-- `handle_deploy_pause`. -/
def handleDeployPause (name : String) (now : ℤ) : Node → Except String Unit × Node :=
  changeRecord name fun record ↦ { record with state := .paused, updatedAt := now }

/-- `handle_deploy_delete`. -/
def handleDeployDelete (name : String) (node : Node) : Except String Unit × Node :=
  match node.deployments.lookup name with
  | none => (.error (notFound "deployment" name), node)
  | some record => (.ok (), ⟨node.deployments.erase name,
      record.containerIds.foldl removeContainer node.runtime⟩)

/-- A rollout, when what is read at first allows it. -/
def rollOut (ids : ContainerIds) (answers : Answers) (now later : ℤ) (node : Node) :
    Except String Rollout → Except String Unit × Node
  | .error error => (.error error, node)
  | .ok rollout => runRollout ids answers now later node rollout

/-- `handle_deploy_command`, for the commands that change something. -/
def handleDeployCommand (ids : ContainerIds) (node : Node) : Command → Except String Unit × Node
  | .create params answers now => rollOut ids answers now now node (readCreate params node)
  | .update params answers now later => rollOut ids answers now later node (readUpdate params node)
  | .rollback params answers now later =>
    rollOut ids answers now later node (readRollback params node)
  | .promote name now => handleDeployPromote name now node
  | .pause name now => handleDeployPause name now node
  | .delete name => handleDeployDelete name node

/-- The node after a command. -/
def step (ids : ContainerIds) (node : Node) (command : Command) : Node :=
  (handleDeployCommand ids node command).2

/-- No deployments and no containers. -/
def empty : Node := ⟨∅, [], 0⟩

/-! ### What the loops do -/

/-- The replicas that are started from an index on, when all of them start. -/
def newReplicas (ids : ContainerIds) (spec : ReplicaSpec) : ℕ → ℕ → ℕ → List Replica
  | _, _, 0 => []
  | given, index, count + 1 =>
    spec.replica (ids.id given) index :: newReplicas ids spec (given + 1) (index + 1) count

/-- The ids of the replicas that are started. -/
def newIds (ids : ContainerIds) (given : ℕ) : ℕ → List String
  | 0 => []
  | count + 1 => ids.id given :: newIds ids (given + 1) count

variable {ids : ContainerIds} {spec : ReplicaSpec}

/-- The ids of the new replicas. -/
theorem map_id_newReplicas (given index count : ℕ) :
    (newReplicas ids spec given index count).map (·.id) = newIds ids given count := by
  induction count generalizing given index with
  | zero => rfl
  | succ count ih => rw [newReplicas, List.map_cons, ih]; rfl

/-- The new ids are those of the new replicas. -/
theorem mem_newIds_iff_replica (spec : ReplicaSpec) {given count : ℕ} (index : ℕ) {id : String} :
    id ∈ newIds ids given count ↔
      ∃ replica ∈ newReplicas ids spec given index count, replica.id = id := by
  rw [← map_id_newReplicas given index count, List.mem_map]

/-- There is an id for each new replica. -/
theorem length_newIds (given count : ℕ) : (newIds ids given count).length = count := by
  induction count generalizing given with
  | zero => rfl
  | succ count ih => rw [newIds, List.length_cons, ih]

/-- The new ids are those that the runtime gives next. -/
theorem mem_newIds {given count : ℕ} {id : String} :
    id ∈ newIds ids given count ↔ ∃ number, given ≤ number ∧ number < given + count ∧
      id = ids.id number := by
  induction count generalizing given with
  | zero =>
    simp only [newIds, List.not_mem_nil, false_iff, not_exists]
    omega
  | succ count ih =>
    rw [newIds, List.mem_cons, ih]
    constructor
    · rintro (rfl | ⟨number, hle, hlt, rfl⟩)
      · exact ⟨given, le_refl given, by omega, rfl⟩
      · exact ⟨number, by omega, by omega, rfl⟩
    · rintro ⟨number, hle, hlt, rfl⟩
      rcases Nat.eq_or_lt_of_le hle with rfl | hlater
      · exact .inl rfl
      · exact .inr ⟨number, hlater, by omega, rfl⟩

/-- No new id comes twice. -/
theorem nodup_newIds (given count : ℕ) : (newIds ids given count).Nodup := by
  induction count generalizing given with
  | zero => exact List.nodup_nil
  | succ count ih =>
    refine List.nodup_cons.mpr ⟨fun hmem ↦ ?_, ih (given + 1)⟩
    obtain ⟨number, hle, -, hsame⟩ := mem_newIds.mp hmem
    have hnumber := ids.injective hsame
    omega

/-- The new replicas are of the deployment and its image. -/
theorem newReplicas_spec {given index count : ℕ} {replica : Replica}
    (hreplica : replica ∈ newReplicas ids spec given index count) :
    replica.deployName = spec.name ∧ replica.image = spec.image := by
  induction count generalizing given index with
  | zero => cases hreplica
  | succ count ih =>
    rcases List.mem_cons.mp hreplica with rfl | hrest
    · exact ⟨rfl, rfl⟩
    · exact ih hrest

/-- The containers that are left when some are removed one after the other. -/
theorem foldl_removeContainer (stops : List String) (runtime : Runtime) :
    stops.foldl removeContainer runtime =
      { runtime with running := runtime.running.filter (·.id ∉ stops) } := by
  induction stops generalizing runtime with
  | nil => simp
  | cons id rest ih =>
    rw [List.foldl_cons, ih]
    simp only [removeContainer, List.filter_filter, List.mem_cons, not_or]
    congr 2
    funext replica
    rw [Bool.eq_iff_iff]
    simp [and_comm]

/-- The loop stops at the first replica that does not start, with what it started removed, or starts
all replicas. -/
theorem startReplicas_cases (ids : ContainerIds) (spec : ReplicaSpec)
    (start : ℕ → Except String Unit) (index remaining : ℕ) (started : List String)
    (runtime : Runtime) :
    (∃ count error, count < remaining ∧ start (index + count) = .error error ∧
        startReplicas ids spec start index remaining started runtime =
          (.error (index + count, error), ⟨runtime.running.filter
            (·.id ∉ started ++ newIds ids runtime.given count), runtime.given + count⟩)) ∨
      (∀ count, count < remaining → start (index + count) = .ok ()) ∧
        startReplicas ids spec start index remaining started runtime =
          (.ok (started ++ newIds ids runtime.given remaining),
            ⟨runtime.running ++ newReplicas ids spec runtime.given index remaining,
              runtime.given + remaining⟩) := by
  induction remaining generalizing index started runtime with
  | zero =>
    refine .inr ⟨fun count hcount ↦ absurd hcount (Nat.not_lt_zero count), ?_⟩
    simp [startReplicas, newIds, newReplicas]
  | succ remaining ih =>
    rw [startReplicas]
    cases hstart : start index with
    | error error =>
      refine .inl ⟨0, error, Nat.succ_pos remaining, hstart, ?_⟩
      simp only [foldl_removeContainer, newIds, List.append_nil, Nat.add_zero]
    | ok done =>
      simp only [startReplica]
      have hsucc : ∀ count, index + 1 + count = index + (count + 1) := fun count ↦ by omega
      rcases ih (index + 1) (started ++ [ids.id runtime.given])
          ⟨runtime.running ++ [spec.replica (ids.id runtime.given) index], runtime.given + 1⟩ with
        ⟨count, error, hcount, herror, hresult⟩ | ⟨hall, hresult⟩
      · refine .inl ⟨count + 1, error, by omega, hsucc count ▸ herror, ?_⟩
        rw [hresult]
        simp only [List.append_assoc, List.singleton_append, newIds, hsucc]
        simp [List.filter_append, ReplicaSpec.replica, Nat.add_assoc, Nat.add_comm 1]
      · refine .inr ⟨fun count hcount ↦ ?_, ?_⟩
        · cases count with
          | zero => exact hstart
          | succ count => exact hsucc count ▸ hall count (by omega)
        · rw [hresult]
          simp [newIds, newReplicas, Nat.add_assoc, Nat.add_comm 1]

/-- Ids of growing length. -/
def plainIds : ContainerIds where
  id number := String.ofList (List.replicate number 'c')
  injective first second hsame := by
    have hlists := congrArg (fun text : String ↦ text.toList.length) hsame
    simpa using hlists

/-- A runtime that lets everything through. -/
def allOk : Answers := ⟨.ok (), fun _ ↦ .ok ()⟩

end Deploy

end Clawbernetes.ClawNode
