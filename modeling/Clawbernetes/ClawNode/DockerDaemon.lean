import Clawbernetes.ClawNode.DockerContainers

/-!
# The Docker daemon

The containers of a daemon, by the requests that they were created with: a creation adds one, a
start may fail, and a removal deletes one. The daemon answers as it is told.

`create_cases` says what the creation of a container by a node does to the daemon and to the tracked
containers. It is half done when the daemon has created the container and does not start it.
-/

set_option autoImplicit false
set_option relaxedAutoImplicit false

namespace Clawbernetes.ClawNode

open Library.FiniteTable
open ClawCompute (ContainerId CreateRequest DockerClient DockerError DockerRuntime)
open MoltAttestation (Uuid)

/-- A container of the daemon. -/
structure DaemonContainer where
  id : String
  request : CreateRequest

/-- The answers of a daemon to the calls that are made for one message. -/
structure DaemonAnswers where
  create : Except DockerError String
  start : Except DockerError Unit
  stop : Except DockerError Unit
  remove : Except DockerError Unit

/-- The client of the daemon that gives the answers. A removal names a container by the beginning of
its identifier. -/
def DaemonAnswers.client (answers : DaemonAnswers) : DockerClient (List DaemonContainer) where
  createContainer := fun request containers ↦ (answers.create, match answers.create with
    | .ok id => containers ++ [⟨id, request⟩]
    | .error _ => containers)
  startContainer := fun _ containers ↦ (answers.start, containers)
  stopContainer := fun _ _ containers ↦ (answers.stop, containers)
  removeContainer := fun id _ _ containers ↦ (answers.remove, match answers.remove with
    | .ok () => containers.filter fun container ↦ ¬id.toList <+: container.id.toList
    | .error _ => containers)

/-- The containers of a daemon and those that a node tracks. -/
abbrev DockerNode := DockerContainerRuntime.Tracking (List DaemonContainer)

namespace DaemonAnswers

variable (answers : DaemonAnswers) (gpuRuntime : Option String) (uuid : Uuid)

/-- The runtime of a node whose daemon gives the answers. -/
def runtime : ContainerRuntime DockerNode :=
  DockerContainerRuntime.containerRuntime ⟨answers.client, gpuRuntime⟩ uuid

/-- The container that the daemon creates under an identifier. -/
def containerOf (gpuRuntime : Option String) (uuid : Uuid) (spec : ContainerSpec) (id : String) :
    DaemonContainer :=
  ⟨id, ClawCompute.createRequest gpuRuntime (specToConfig uuid spec)⟩

/-- The creation of a container is half done: the daemon creates the container and does not start
it. -/
def HalfDone (spec : ContainerSpec) : Prop :=
  spec.image ≠ "" ∧ (∃ id, answers.create = .ok id) ∧ ∃ error, answers.start = .error error

/-- The creation of a container fails and changes nothing, or it is half done, which fails and
leaves the container, or the daemon has a new container, which is tracked. -/
theorem create_cases (spec : ContainerSpec) (node : DockerNode) :
    (¬answers.HalfDone spec ∧
      ∃ error, (answers.runtime gpuRuntime uuid).create spec node = (.error error, node)) ∨
    (answers.HalfDone spec ∧ ∃ error id, (answers.runtime gpuRuntime uuid).create spec node =
      (.error error, node.1 ++ [containerOf gpuRuntime uuid spec id], node.2)) ∨
    (¬answers.HalfDone spec ∧ ∃ id, (answers.runtime gpuRuntime uuid).create spec node =
      (.ok ⟨(ContainerId.mk id).short, spec.image, spec.gpuIds⟩,
        node.1 ++ [containerOf gpuRuntime uuid spec id],
        node.2.insert (ContainerId.mk id).short ⟨id, spec.image, spec.gpuIds⟩)) := by
  obtain ⟨daemon, containers⟩ := node
  have hunfold : (answers.runtime gpuRuntime uuid).create spec (daemon, containers) =
      DockerContainerRuntime.create ⟨answers.client, gpuRuntime⟩ uuid spec
        (daemon, containers) := rfl
  rw [hunfold]
  unfold DockerContainerRuntime.create DockerRuntime.create HalfDone
  cases hvalid : (specToConfig uuid spec).validate with
  | error error =>
    refine .inl ⟨fun hhalf ↦ ?_, _, rfl⟩
    rw [(validate_specToConfig_iff uuid spec).mpr hhalf.1] at hvalid
    cases hvalid
  | ok value =>
    have himage := (validate_specToConfig_iff uuid spec).mp hvalid
    simp only [client]
    cases hcreate : answers.create with
    | error error =>
      refine .inl ⟨fun hhalf ↦ ?_, _, rfl⟩
      obtain ⟨-, ⟨id, hid⟩, -⟩ := hhalf
      cases hid
    | ok id =>
      simp only [DockerRuntime.start]
      cases hstart : answers.start with
      | error error => exact .inr (.inl ⟨⟨himage, ⟨id, rfl⟩, error, rfl⟩, _, id, rfl⟩)
      | ok value =>
        refine .inr (.inr ⟨fun hhalf ↦ ?_, id, rfl⟩)
        obtain ⟨-, -, error, herror⟩ := hhalf
        cases herror

end DaemonAnswers

end Clawbernetes.ClawNode
