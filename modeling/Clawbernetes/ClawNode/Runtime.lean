import Clawbernetes.ClawNode.NodeState
import Mathlib.Data.Rat.Defs

/-!
# Container runtimes

`ContainerRuntime` of `runtime.rs`: the calls through which a node creates, stops and removes
containers. A runtime acts on a world of its own, which each call takes and returns, so that its
answers may depend on anything.

`Replies` makes such a runtime of a list of containers and of answers that are given in advance: a
container is created or not, and it is removed, or the removal fails and leaves it or not.
-/

set_option autoImplicit false
set_option relaxedAutoImplicit false

namespace Clawbernetes.ClawNode

open Library.FiniteTable

/-- `PortMapping`. -/
structure PortMapping where
  hostPort : UInt16
  containerPort : UInt16
  protocol : String
  deriving DecidableEq

/-- `ContainerSpec`. The limit of the CPU is the exact value of the `f32`. -/
structure ContainerSpec where
  image : String
  command : Option (List String)
  env : Table String String
  gpuIds : List UInt32
  memoryLimit : Option UInt64
  cpuLimit : Option ℚ
  labels : Table String String
  workingDir : Option String
  network : Option String
  ipAddress : Option String
  portMappings : List PortMapping
  dns : List String

namespace ContainerSpec

/-- `ContainerSpec::new`. -/
def new (image : String) : ContainerSpec :=
  ⟨image, none, ∅, [], none, none, ∅, none, none, none, [], []⟩

/-- `ContainerSpec::with_command`. -/
def withCommand (spec : ContainerSpec) (command : List String) : ContainerSpec :=
  { spec with command := some command }

/-- `ContainerSpec::with_env`. -/
def withEnv (spec : ContainerSpec) (key value : String) : ContainerSpec :=
  { spec with env := spec.env.insert key value }

/-- `ContainerSpec::with_gpus`. -/
def withGpus (spec : ContainerSpec) (gpuIds : List UInt32) : ContainerSpec :=
  { spec with gpuIds := gpuIds }

/-- `ContainerSpec::with_memory_limit`. -/
def withMemoryLimit (spec : ContainerSpec) (limit : UInt64) : ContainerSpec :=
  { spec with memoryLimit := some limit }

/-- `ContainerSpec::with_cpu_limit`. -/
def withCpuLimit (spec : ContainerSpec) (limit : ℚ) : ContainerSpec :=
  { spec with cpuLimit := some limit }

/-- `ContainerSpec::with_label`. -/
def withLabel (spec : ContainerSpec) (key value : String) : ContainerSpec :=
  { spec with labels := spec.labels.insert key value }

end ContainerSpec

/-- `Container`, as far as it tells containers apart and names their GPUs. -/
structure Container where
  id : String
  image : String
  gpuIds : List UInt32
  deriving DecidableEq

/-- `ContainerRuntime`, the calls that start and stop workloads. -/
structure ContainerRuntime (World : Type*) where
  create : ContainerSpec → World → Except NodeError Container × World
  stop : String → UInt32 → World → Except NodeError Unit × World
  remove : String → World → Except NodeError Unit × World

/-! ### A runtime that answers as it is told -/

/-- The answers of a runtime to the calls of one message. A removal that fails may have removed the
container all the same. -/
structure Replies where
  create : Except NodeError String
  stop : Except NodeError Unit
  remove : Except NodeError Unit
  leavesContainer : Bool

namespace Replies

/-- The removal leaves the container: it fails, and not because the container is gone. -/
def keepsContainer (replies : Replies) : Bool :=
  match replies.remove with
  | .ok () => false
  | .error _ => replies.leavesContainer

/-- The runtime over its existing containers that gives the answers. A stopped container exists
until it is removed, and a creation that fails is taken to leave no container. -/
def runtime (replies : Replies) : ContainerRuntime (List Container) where
  create := fun spec containers ↦ match replies.create with
    | .error error => (.error error, containers)
    | .ok id => (.ok ⟨id, spec.image, spec.gpuIds⟩, containers ++ [⟨id, spec.image, spec.gpuIds⟩])
  stop := fun _ _ containers ↦ (replies.stop, containers)
  remove := fun id containers ↦ (replies.remove,
    if replies.keepsContainer then containers else containers.filter (·.id ≠ id))

variable {replies : Replies} {spec : ContainerSpec} {containers after : List Container}

/-- A failed creation leaves the containers as they were. -/
theorem eq_of_create_error {error : NodeError}
    (hcreate : replies.runtime.create spec containers = (.error error, after)) :
    after = containers := by
  cases hreply : replies.create with
  | error _ =>
    simp only [runtime, hreply, Prod.mk.injEq] at hcreate
    exact hcreate.2.symm
  | ok _ => simp [runtime, hreply] at hcreate

/-- A successful creation adds a container with the GPUs that were asked for. -/
theorem eq_of_create_ok {container : Container}
    (hcreate : replies.runtime.create spec containers = (.ok container, after)) :
    container.gpuIds = spec.gpuIds ∧ after = containers ++ [container] := by
  cases hreply : replies.create with
  | error _ => simp [runtime, hreply] at hcreate
  | ok id =>
    simp only [runtime, hreply, Prod.mk.injEq, Except.ok.injEq] at hcreate
    obtain ⟨rfl, rfl⟩ := hcreate
    exact ⟨rfl, rfl⟩

/-- A removal leaves the container, or only the containers with other identifiers. -/
theorem remove_snd (replies : Replies) (id : String) (containers : List Container) :
    (replies.runtime.remove id containers).2 =
      if replies.keepsContainer then containers else containers.filter (·.id ≠ id) :=
  rfl

end Replies

end Clawbernetes.ClawNode
