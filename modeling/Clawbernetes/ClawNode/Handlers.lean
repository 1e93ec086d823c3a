import Clawbernetes.ClawNode.Runtime
import Clawbernetes.ClawProto.WorkloadSpec

/-!
# The messages of the gateway

`handle_gateway_message` of `handlers.rs`: workloads are started and stopped, with GPUs that are
allocated for them, in containers of a runtime. A start can fail at its validation, at the
allocation and at the creation of the container, and gives back what it took
(`handleStartWorkload_cases`). So the allocated GPUs are the disjoint union of those of the
workloads after every sequence of messages and under every runtime (`gpus_partitioned`).

A stop forgets the workload and releases its GPUs whether or not the container could be removed. As
long as it could, and with creations that leave no container when they fail, no GPU is given to two
existing containers (`containers_exclusive`).
-/

set_option autoImplicit false
set_option relaxedAutoImplicit false

namespace Clawbernetes.ClawNode

open Library.FiniteTable Library.Runs
open ClawProto (WorkloadSpec WorkloadState)
open MoltAttestation (Uuid)

/-- `NodeMessage`, the update that answers a start or a stop. -/
inductive NodeMessage where
  | workloadUpdate (workloadId : Uuid) (state : WorkloadState) (message : Option String)
  deriving DecidableEq

/-- `GatewayMessage`. The contents of the messages that are only logged are left out. -/
inductive GatewayMessage where
  | registered
  | heartbeatAck
  | startWorkload (workloadId : Uuid) (spec : WorkloadSpec)
  | stopWorkload (workloadId : Uuid) (gracePeriodSecs : UInt32)
  | configUpdate
  | requestMetrics
  | requestCapabilities
  | meshPeerConfig
  | meshPeerRemove
  | rawEvent
  | error

/-- The answer of a handler. -/
abbrev Answer := Except NodeError (Option NodeMessage)

/-- The answer that a workload failed. -/
def failed (workloadId : Uuid) (message : String) : Answer :=
  .ok (some (.workloadUpdate workloadId .failed (some message)))

/-- The specification of the container of a workload. The memory is bounded by the validation, so
the product does not wrap. -/
def containerSpec (workloadId : Uuid) (spec : WorkloadSpec) (gpuIds : List UInt32) :
    ContainerSpec :=
  let base := ((ContainerSpec.new spec.image).withGpus gpuIds).withLabel "workload-id"
    workloadId.display
  let commanded := if spec.command ≠ [] then base.withCommand spec.command else base
  let equipped := spec.env.entries.foldl (fun container entry ↦ container.withEnv entry.1 entry.2)
    commanded
  let limited := if 0 < spec.memoryMb then
    equipped.withMemoryLimit (spec.memoryMb * 1024 * 1024) else equipped
  if 0 < spec.cpuCores then limited.withCpuLimit spec.cpuCores.toNat else limited

/-- The specification of a container by its fields. -/
theorem containerSpec_eq (workloadId : Uuid) (spec : WorkloadSpec) (gpuIds : List UInt32) :
    containerSpec workloadId spec gpuIds = { ContainerSpec.new spec.image with
      gpuIds := gpuIds
      labels := AList.insert "workload-id" workloadId.display ∅
      command := if spec.command ≠ [] then some spec.command else none
      env := refill spec.env
      memoryLimit := if 0 < spec.memoryMb then some (spec.memoryMb * 1024 * 1024) else none
      cpuLimit := if 0 < spec.cpuCores then some (spec.cpuCores.toNat : ℚ) else none } := by
  have hequipped (base : ContainerSpec) (hempty : base.env = ∅) :
      spec.env.entries.foldl (fun container entry ↦ container.withEnv entry.1 entry.2) base =
        { base with env := refill spec.env } :=
    foldl_insert_part (fun env ↦ { base with env := env }) .withEnv (fun _ _ _ ↦ rfl) Sigma.fst
      Sigma.snd spec.env.entries (by rw [← hempty])
  unfold containerSpec
  split_ifs <;> dsimp only <;> rw [hequipped _ rfl] <;> rfl

/-- The memory of an accepted specification in bytes fits into 64 bits. -/
theorem toNat_memoryLimit {spec : WorkloadSpec} (hvalid : spec.validate = .ok ()) :
    (spec.memoryMb * 1024 * 1024).toNat = spec.memoryMb.toNat * 1024 * 1024 := by
  have hresources := (WorkloadSpec.validate_eq_ok_iff.mp hvalid).2.1
  have hmemory : spec.memoryMb.toNat ≤ 1024000 :=
    UInt64.le_iff_toNat_le.mp (ClawProto.validateResources_eq_ok_iff.mp hresources).1
  have hfactor : (1024 : UInt64).toNat = 1024 := rfl
  rw [UInt64.toNat_mul, UInt64.toNat_mul, hfactor]
  omega

section Handlers

variable {World : Type*}

/-- `handle_start_workload`. -/
def handleStartWorkload (runtime : ContainerRuntime World) (workloadId : Uuid)
    (spec : WorkloadSpec) (state : NodeState) (world : World) : Answer × NodeState × World :=
  match spec.validate with
  | .error error => (failed workloadId ("validation failed: " ++ error.display), state, world)
  | .ok () =>
    if (state.workloads.lookup workloadId).isSome then
      (.error (.workloadExists workloadId), state, world)
    else
      match if 0 < spec.gpuCount then state.allocateGpus spec.gpuCount else (.ok [], state) with
      | (.error error, state) =>
        (failed workloadId ("GPU allocation failed: " ++ error.display), state, world)
      | (.ok gpuIds, state) =>
        match runtime.create (containerSpec workloadId spec gpuIds) world with
        | (.error error, world) =>
          (failed workloadId ("container creation failed: " ++ error.display),
            state.releaseGpus gpuIds, world)
        | (.ok container, world) =>
          match state.addWorkload ⟨workloadId, spec.image, gpuIds, some container.id⟩ with
          | (.error error, state) => (.error error, state, (runtime.remove container.id world).2)
          | (.ok (), state) =>
            (.ok (some (.workloadUpdate workloadId .running
              (some ("Container " ++ container.id ++ " started")))), state, world)

/-- `handle_stop_workload`. The errors of the runtime are only logged. -/
def handleStopWorkload (runtime : ContainerRuntime World) (workloadId : Uuid)
    (gracePeriodSecs : UInt32) (state : NodeState) (world : World) : Answer × NodeState × World :=
  match state.workloads.lookup workloadId with
  | none => (.error (.workloadNotFound workloadId), state, world)
  | some workload =>
    let world := match workload.containerId with
      | none => world
      | some containerId =>
        (runtime.remove containerId (runtime.stop containerId gracePeriodSecs world).2).2
    match state.removeWorkload workloadId with
    | (.error error, state) => (.error error, state, world)
    | (.ok _, state) =>
      (.ok (some (.workloadUpdate workloadId .stopped (some "Workload stopped"))), state, world)

/-- `handle_gateway_message`. -/
def handleGatewayMessage (runtime : ContainerRuntime World) (message : GatewayMessage)
    (state : NodeState) (world : World) : Answer × NodeState × World :=
  match message with
  | .startWorkload workloadId spec => handleStartWorkload runtime workloadId spec state world
  | .stopWorkload workloadId gracePeriodSecs =>
    handleStopWorkload runtime workloadId gracePeriodSecs state world
  | _ => (.ok none, state, world)

/-! ### What a start and a stop do -/

variable {runtime : ContainerRuntime World} {state : NodeState} {world : World}

/-- The answer to a start that did not succeed: an error, or the update that the workload failed. -/
def Failing (answer : Answer) : Prop :=
  (∃ error, answer = .error error) ∨
    ∃ workloadId message, answer = .ok (some (.workloadUpdate workloadId .failed message))

/-- The state after a workload was started in a container, with the first free GPUs. -/
def started (state : NodeState) (workloadId : Uuid) (spec : WorkloadSpec) (containerId : String) :
    NodeState :=
  { state.withAllocated (state.taken spec.gpuCount) with
    workloads := state.workloads.insert workloadId
      ⟨workloadId, spec.image, state.taken spec.gpuCount, some containerId⟩ }

/-- The allocation of a start. None is asked for where none is needed. -/
theorem startAllocation_eq (state : NodeState) (count : UInt32) :
    (if 0 < count then state.allocateGpus count else (.ok [], state)) =
      state.allocateGpus count := by
  split_ifs with hpositive
  · rfl
  · have hzero : count = 0 := UInt32.le_zero_iff.mp (UInt32.not_lt.mp hpositive)
    subst hzero
    rfl

/-- A start either fails and leaves the state as it was, with the runtime's containers as a failed
creation leaves them, or it creates a container with free GPUs and registers the workload under a
new identifier. -/
theorem handleStartWorkload_cases (runtime : ContainerRuntime World) (workloadId : Uuid)
    (spec : WorkloadSpec) (state : NodeState) (world : World) :
    (∃ answer after, handleStartWorkload runtime workloadId spec state world =
        (answer, state, after) ∧ Failing answer ∧ (after = world ∨
          ∃ error, runtime.create
            (containerSpec workloadId spec (state.taken spec.gpuCount)) world =
            (.error error, after))) ∨
      ∃ container after, state.workloads.lookup workloadId = none ∧
        spec.gpuCount ≤ state.availableGpuCount ∧
        runtime.create (containerSpec workloadId spec (state.taken spec.gpuCount)) world =
          (.ok container, after) ∧
        handleStartWorkload runtime workloadId spec state world =
          (.ok (some (.workloadUpdate workloadId .running
            (some ("Container " ++ container.id ++ " started")))),
            started state workloadId spec container.id, after) := by
  unfold handleStartWorkload
  cases spec.validate with
  | error error => exact .inl ⟨_, _, rfl, .inr ⟨_, _, rfl⟩, .inl rfl⟩
  | ok value =>
    rw [startAllocation_eq]
    simp only
    split_ifs with hknown
    · exact .inl ⟨_, _, rfl, .inl ⟨_, rfl⟩, .inl rfl⟩
    · have hnew : state.workloads.lookup workloadId = none := by simpa using hknown
      rcases state.allocateGpus_cases spec.gpuCount with ⟨-, hfails⟩ | ⟨hcount, htakes⟩
      · rw [hfails]
        exact .inl ⟨_, _, rfl, .inr ⟨_, _, rfl⟩, .inl rfl⟩
      · rw [htakes]
        simp only
        rcases hcreate : runtime.create (containerSpec workloadId spec (state.taken spec.gpuCount))
          world with ⟨created, after⟩
        cases created with
        | error error =>
          rw [NodeState.releaseGpus_withAllocated]
          exact .inl ⟨_, _, rfl, .inr ⟨_, _, rfl⟩, .inr ⟨error, rfl⟩⟩
        | ok container =>
          refine .inr ⟨container, after, hnew, hcount, rfl, ?_⟩
          have hadds : (state.withAllocated (state.taken spec.gpuCount)).addWorkload
              ⟨workloadId, spec.image, state.taken spec.gpuCount, some container.id⟩ =
                (.ok (), started state workloadId spec container.id) :=
            NodeState.addWorkload_withAllocated hnew rfl
          simp only [hadds]

/-- A start gets to the creation of a container: its specification is valid, its identifier is new,
and there are enough GPUs. -/
def Admits (state : NodeState) (workloadId : Uuid) (spec : WorkloadSpec) : Prop :=
  spec.validate = .ok () ∧ state.workloads.lookup workloadId = none ∧
    spec.gpuCount ≤ state.availableGpuCount

/-- A start that does not get to the creation of a container changes nothing. -/
theorem handleStartWorkload_of_not_admits {workloadId : Uuid} {spec : WorkloadSpec}
    (hrefused : ¬Admits state workloadId spec) :
    (handleStartWorkload runtime workloadId spec state world).2 = (state, world) := by
  unfold handleStartWorkload
  cases hvalid : spec.validate with
  | error error => rfl
  | ok value =>
    rw [startAllocation_eq]
    simp only
    split_ifs with hknown
    · rfl
    · have hnew : state.workloads.lookup workloadId = none := by simpa using hknown
      rcases state.allocateGpus_cases spec.gpuCount with ⟨-, hfails⟩ | ⟨hcount, -⟩
      · rw [hfails]
      · exact absurd ⟨hvalid, hnew, hcount⟩ hrefused

/-- A start that gets to the creation of a container registers the workload when the creation
succeeds, and else leaves the state as it was. -/
theorem handleStartWorkload_of_admits {workloadId : Uuid} {spec : WorkloadSpec}
    (hadmits : Admits state workloadId spec) :
    (handleStartWorkload runtime workloadId spec state world).2 =
      match runtime.create (containerSpec workloadId spec (state.taken spec.gpuCount)) world with
      | (.error _, after) => (state, after)
      | (.ok container, after) => (started state workloadId spec container.id, after) := by
  obtain ⟨hvalid, hnew, hcount⟩ := hadmits
  unfold handleStartWorkload
  rw [hvalid, startAllocation_eq, NodeState.allocateGpus_of_le hcount]
  simp only [hnew, Option.isSome_none, Bool.false_eq_true, if_false]
  rcases runtime.create (containerSpec workloadId spec (state.taken spec.gpuCount)) world with
    ⟨created, after⟩
  cases created with
  | error error => simp only [NodeState.releaseGpus_withAllocated]
  | ok container =>
    have hadds : (state.withAllocated (state.taken spec.gpuCount)).addWorkload
        ⟨workloadId, spec.image, state.taken spec.gpuCount, some container.id⟩ =
          (.ok (), started state workloadId spec container.id) :=
      NodeState.addWorkload_withAllocated hnew rfl
    simp only [hadds]

/-- The containers after a stop of a registered workload: its container was stopped and removed, as
far as the runtime does this. -/
def stopped (runtime : ContainerRuntime World) (gracePeriodSecs : UInt32) (workload : WorkloadInfo)
    (world : World) : World :=
  match workload.containerId with
  | none => world
  | some containerId =>
    (runtime.remove containerId (runtime.stop containerId gracePeriodSecs world).2).2

/-- A stop removes the workload, whatever the runtime answers. -/
theorem handleStopWorkload_snd (runtime : ContainerRuntime World) (workloadId : Uuid)
    (gracePeriodSecs : UInt32) (state : NodeState) (world : World) :
    (handleStopWorkload runtime workloadId gracePeriodSecs state world).2 =
      ((state.removeWorkload workloadId).2,
        (state.workloads.lookup workloadId).elim world fun workload ↦
          stopped runtime gracePeriodSecs workload world) := by
  unfold handleStopWorkload NodeState.removeWorkload
  cases state.workloads.lookup workloadId with
  | none => rfl
  | some workload => rfl

/-! ### The GPUs of the workloads -/

/-- The node and the runtime's world after a message. -/
def step (runtime : ContainerRuntime World) (node : NodeState × World) (message : GatewayMessage) :
    NodeState × World :=
  (handleGatewayMessage runtime message node.1 node.2).2

/-- A started workload keeps the allocated GPUs the disjoint union of those of the workloads. -/
theorem partitioned_started {totalGpus : UInt32} (hpartitioned : state.Partitioned totalGpus)
    {workloadId : Uuid} (hnew : state.workloads.lookup workloadId = none) (spec : WorkloadSpec)
    (containerId : String) : (started state workloadId spec containerId).Partitioned totalGpus := by
  have hgpus : (⟨workloadId, spec.image, state.taken spec.gpuCount, some containerId⟩ :
      WorkloadInfo).gpuIds = state.taken spec.gpuCount := rfl
  exact hpartitioned.insert hnew hgpus

/-- Every message keeps the allocated GPUs the disjoint union of those of the workloads. -/
theorem partitioned_handleGatewayMessage {totalGpus : UInt32}
    (hpartitioned : state.Partitioned totalGpus) (runtime : ContainerRuntime World)
    (message : GatewayMessage) (world : World) :
    (handleGatewayMessage runtime message state world).2.1.Partitioned totalGpus := by
  cases message with
  | startWorkload workloadId spec =>
    change (handleStartWorkload runtime workloadId spec state world).2.1.Partitioned totalGpus
    rcases handleStartWorkload_cases runtime workloadId spec state world with
      ⟨_, _, hfails, -⟩ | ⟨container, _, hnew, -, -, hstarts⟩
    · rw [hfails]
      exact hpartitioned
    · rw [hstarts]
      exact partitioned_started hpartitioned hnew spec container.id
  | stopWorkload workloadId gracePeriodSecs =>
    change (handleStopWorkload runtime workloadId gracePeriodSecs state world).2.1.Partitioned _
    rw [handleStopWorkload_snd]
    exact hpartitioned.removeWorkload workloadId
  | _ => exact hpartitioned

/-- A start that is answered with a failure leaves the state as it was. -/
theorem state_of_failing_start {workloadId : Uuid} {spec : WorkloadSpec}
    (hfailing : Failing (handleStartWorkload runtime workloadId spec state world).1) :
    (handleStartWorkload runtime workloadId spec state world).2.1 = state := by
  rcases handleStartWorkload_cases runtime workloadId spec state world with
    ⟨_, _, hfails, -⟩ | ⟨container, _, -, -, -, hstarts⟩
  · rw [hfails]
  · rw [hstarts] at hfailing
    rcases hfailing with ⟨error, herror⟩ | ⟨_, _, hfailed⟩
    · cases herror
    · cases hfailed

/-- The node and the runtime's world after some messages. -/
def reached (runtime : ContainerRuntime World) (totalGpus : UInt32) (world : World)
    (messages : List GatewayMessage) : NodeState × World :=
  messages.foldl (step runtime) (NodeState.withGpus totalGpus, world)

/-- After every sequence of messages the allocated GPUs are the disjoint union of those of the
workloads. -/
theorem partitioned_reached (runtime : ContainerRuntime World) (world : World) (totalGpus : UInt32)
    (messages : List GatewayMessage) :
    (reached runtime totalGpus world messages).1.Partitioned totalGpus := by
  have halways : Always (step runtime) (fun node ↦ node.1.Partitioned totalGpus)
      (NodeState.withGpus totalGpus, world) messages := by
    apply always_of_step
    · exact NodeState.partitioned_withGpus totalGpus
    · intro node message hbefore
      exact partitioned_handleGatewayMessage hbefore runtime message node.2
  exact halways.last

/-- After every sequence of messages and under every runtime: no GPU is allocated twice, all
allocated GPUs are GPUs of the node, they are the disjoint union of the GPUs of the registered
workloads, and a start that is answered with a failure leaves workloads and allocated GPUs as they
were. -/
theorem gpus_partitioned (runtime : ContainerRuntime World) (world : World) (totalGpus : UInt32)
    (messages : List GatewayMessage) :
    let (state, world) := reached runtime totalGpus world messages
    state.allocatedGpus.Nodup ∧ (∀ gpu ∈ state.allocatedGpus, gpu < totalGpus) ∧
      state.allocatedGpus.Perm (state.workloads.entries.flatMap fun entry ↦ entry.2.gpuIds) ∧
      ∀ workloadId spec,
        Failing (handleGatewayMessage runtime (.startWorkload workloadId spec) state world).1 →
          (handleGatewayMessage runtime (.startWorkload workloadId spec) state world).2.1 =
            state := by
  have hpartitioned := partitioned_reached runtime world totalGpus messages
  exact ⟨hpartitioned.nodup, hpartitioned.within, hpartitioned.union,
    fun workloadId spec hfailing ↦ state_of_failing_start hfailing⟩

/-! ### The GPUs of the containers -/

end Handlers

/-- Whether no two existing containers have a GPU in common. -/
def Disjoined (containers : List Container) : Prop :=
  containers.Pairwise fun earlier later ↦ List.Disjoint earlier.gpuIds later.gpuIds

/-- The node and the existing containers after a message that the runtime answers as it is told. -/
def stepWith (node : NodeState × List Container) (input : GatewayMessage × Replies) :
    NodeState × List Container :=
  step input.2.runtime node input.1

/-- A stop of a registered workload with GPUs does not leave its container. -/
def RemovesContainer (node : NodeState × List Container) (input : GatewayMessage × Replies) :
    Prop :=
  match input.1 with
  | .stopWorkload workloadId _ => ∀ workload, node.1.workloads.lookup workloadId = some workload →
      workload.gpuIds ≠ [] → workload.containerId.isSome → input.2.keepsContainer = false
  | _ => True

/-- The invariant: every GPU of an existing container belongs to a registered workload that names
the container, and no two containers have a GPU in common. -/
structure Tracked (totalGpus : UInt32) (node : NodeState × List Container) : Prop where
  partitioned : node.1.Partitioned totalGpus
  owned : ∀ container ∈ node.2, ∀ gpu ∈ container.gpuIds, ∃ key workload,
    node.1.workloads.lookup key = some workload ∧ workload.containerId = some container.id ∧
      gpu ∈ workload.gpuIds
  disjoined : Disjoined node.2

variable {totalGpus : UInt32} {state : NodeState} {containers : List Container}

/-- The container of a workload gets the GPUs that were taken for it. -/
theorem gpuIds_containerSpec (workloadId : Uuid) (spec : WorkloadSpec) (gpuIds : List UInt32) :
    (containerSpec workloadId spec gpuIds).gpuIds = gpuIds := by
  rw [containerSpec_eq]

/-- A GPU of a registered workload is allocated. -/
theorem mem_allocatedGpus (hpartitioned : state.Partitioned totalGpus) {key : Uuid}
    {workload : WorkloadInfo} (hlookup : state.workloads.lookup key = some workload) {gpu : UInt32}
    (hgpu : gpu ∈ workload.gpuIds) : gpu ∈ state.allocatedGpus :=
  hpartitioned.union.mem_iff.mpr (List.mem_flatMap.mpr
    ⟨⟨key, workload⟩, AList.mem_lookup_iff.mp hlookup, hgpu⟩)

/-- A workload that is started in a new container keeps the invariant. -/
theorem Tracked.started (htracked : Tracked totalGpus (state, containers)) {workloadId : Uuid}
    (hnew : state.workloads.lookup workloadId = none) {spec : WorkloadSpec} {container : Container}
    (hgpus : container.gpuIds = state.taken spec.gpuCount) :
    Tracked totalGpus
      (ClawNode.started state workloadId spec container.id, containers ++ [container]) where
  partitioned := partitioned_started htracked.partitioned hnew spec container.id
  owned := by
    intro existing hexisting gpu hgpu
    rcases List.mem_append.mp hexisting with hold | hlast
    · obtain ⟨key, workload, hlookup, hnamed, howned⟩ := htracked.owned existing hold gpu hgpu
      have hkey : key ≠ workloadId := by
        rintro rfl
        rw [hnew] at hlookup
        cases hlookup
      exact ⟨key, workload, (AList.lookup_insert_ne hkey).trans hlookup, hnamed, howned⟩
    · obtain rfl := List.mem_singleton.mp hlast
      exact ⟨workloadId, _, AList.lookup_insert _, rfl, hgpus ▸ hgpu⟩
  disjoined := by
    refine List.pairwise_append.mpr ⟨htracked.disjoined, List.pairwise_singleton _ _, ?_⟩
    intro earlier hearlier later hlater gpu hgpu hshared
    rw [List.mem_singleton.mp hlater, hgpus] at hshared
    obtain ⟨key, workload, hlookup, -, howned⟩ := htracked.owned earlier hearlier gpu hgpu
    exact ((state.taken_spec spec.gpuCount).2 gpu hshared).2
      (mem_allocatedGpus htracked.partitioned hlookup howned)

/-- Removing a workload and at least its container keeps the invariant. -/
theorem Tracked.removed (htracked : Tracked totalGpus (state, containers)) {workloadId : Uuid}
    {workload : WorkloadInfo} (hlookup : state.workloads.lookup workloadId = some workload)
    {remaining : List Container} (hremaining : remaining.Sublist containers)
    (hgone : workload.gpuIds ≠ [] → ∀ container ∈ remaining,
      workload.containerId ≠ some container.id) :
    Tracked totalGpus ((state.removeWorkload workloadId).2, remaining) where
  partitioned := htracked.partitioned.removeWorkload workloadId
  owned := by
    intro container hcontainer gpu hgpu
    obtain ⟨key, owner, howner, hnamed, howned⟩ :=
      htracked.owned container (hremaining.subset hcontainer) gpu hgpu
    have hkey : key ≠ workloadId := by
      rintro rfl
      obtain rfl := Option.some_inj.mp (hlookup.symm.trans howner)
      exact hgone (List.ne_nil_of_mem howned) container hcontainer hnamed
    refine ⟨key, owner, ?_, hnamed, howned⟩
    unfold NodeState.removeWorkload
    rw [hlookup]
    exact (AList.lookup_erase_ne hkey).trans howner
  disjoined := htracked.disjoined.sublist hremaining

/-- A start keeps the invariant. -/
theorem Tracked.handleStartWorkload (htracked : Tracked totalGpus (state, containers))
    (replies : Replies) (workloadId : Uuid) (spec : WorkloadSpec) :
    Tracked totalGpus
      (ClawNode.handleStartWorkload replies.runtime workloadId spec state containers).2 := by
  rcases handleStartWorkload_cases replies.runtime workloadId spec state containers with
    ⟨answer, after, hfails, -, hafter⟩ | ⟨container, after, hnew, -, hcreate, hstarts⟩
  · have hcontainers : after = containers := by
      rcases hafter with hsame | ⟨error, hcreate⟩
      · exact hsame
      · exact Replies.eq_of_create_error hcreate
    rw [hfails, hcontainers]
    exact htracked
  · obtain ⟨hgpus, hafter⟩ := Replies.eq_of_create_ok hcreate
    rw [gpuIds_containerSpec] at hgpus
    rw [hstarts, hafter]
    exact htracked.started hnew hgpus

/-- A stop that does not leave the container of a workload with GPUs keeps the invariant. -/
theorem Tracked.handleStopWorkload (htracked : Tracked totalGpus (state, containers))
    (replies : Replies) (workloadId : Uuid) (gracePeriodSecs : UInt32)
    (hremoves : RemovesContainer (state, containers)
      (.stopWorkload workloadId gracePeriodSecs, replies)) :
    Tracked totalGpus (ClawNode.handleStopWorkload replies.runtime workloadId gracePeriodSecs state
      containers).2 := by
  rw [handleStopWorkload_snd]
  cases hlookup : state.workloads.lookup workloadId with
  | none =>
    unfold NodeState.removeWorkload
    rw [hlookup]
    exact htracked
  | some workload =>
    change Tracked totalGpus ((state.removeWorkload workloadId).2,
      stopped replies.runtime gracePeriodSecs workload containers)
    unfold stopped
    cases hnamed : workload.containerId with
    | none =>
      refine htracked.removed hlookup (List.Sublist.refl _) fun _ container _ hname ↦ ?_
      rw [hnamed] at hname
      cases hname
    | some containerId =>
      simp only [Replies.remove_snd]
      split_ifs with hkeeps
      · refine htracked.removed hlookup (List.Sublist.refl _) fun hgpus ↦ ?_
        have hgone := hremoves workload hlookup hgpus (by rw [hnamed]; rfl)
        exact absurd hgone (by rw [hkeeps]; decide)
      · refine htracked.removed hlookup List.filter_sublist fun _ container hcontainer hname ↦ ?_
        rw [hnamed] at hname
        have hother := (List.mem_filter.mp hcontainer).2
        exact absurd (Option.some_inj.mp hname).symm (by simpa using hother)

/-- A message whose stop does not leave the container keeps the invariant. -/
theorem tracked_stepWith {node : NodeState × List Container} (htracked : Tracked totalGpus node)
    {input : GatewayMessage × Replies} (hremoves : RemovesContainer node input) :
    Tracked totalGpus (stepWith node input) := by
  obtain ⟨state, containers⟩ := node
  obtain ⟨message, replies⟩ := input
  cases message with
  | startWorkload workloadId spec => exact htracked.handleStartWorkload replies workloadId spec
  | stopWorkload workloadId gracePeriodSecs =>
    exact htracked.handleStopWorkload replies workloadId gracePeriodSecs hremoves
  | _ => exact htracked

/-- In every run in which no stop of a workload with GPUs leaves its container behind, no GPU is
given to a container while another existing container has it. A creation that fails leaves no
container here. -/
theorem containers_exclusive (totalGpus : UInt32) (inputs : List (GatewayMessage × Replies))
    (hremoves : Throughout stepWith RemovesContainer (NodeState.withGpus totalGpus, []) inputs) :
    Always stepWith (fun node ↦ Disjoined node.2) (NodeState.withGpus totalGpus, []) inputs := by
  have hstart : Tracked totalGpus (NodeState.withGpus totalGpus, []) :=
    ⟨NodeState.partitioned_withGpus totalGpus,
      fun container hcontainer ↦ absurd hcontainer List.not_mem_nil, List.Pairwise.nil⟩
  have halways : Always stepWith (Tracked totalGpus) (NodeState.withGpus totalGpus, []) inputs :=
    always_of_throughout hstart (fun _ _ htracked hallowed ↦ tracked_stepWith htracked hallowed)
      hremoves
  exact fun done hdone ↦ (halways done hdone).disjoined

/-- A workload with one GPU. -/
def oneGpu : WorkloadSpec := ⟨"nginx", [], ∅, 1, 512, 1, ⟨none, none⟩⟩

/-- A workload is started and stopped, and another one is started, on a node with two GPUs. The
removal of the first container is answered as given. -/
def restarted (remove : Except NodeError Unit) : List (GatewayMessage × Replies) :=
  [(.startWorkload (Uuid.ofByte 1) oneGpu, ⟨.ok "first", .ok (), .ok (), false⟩),
    (.stopWorkload (Uuid.ofByte 1) 30, ⟨.ok "", .ok (), remove, true⟩),
    (.startWorkload (Uuid.ofByte 2) oneGpu, ⟨.ok "second", .ok (), .ok (), false⟩)]

/-- With the first container removed, the GPU is in one container at a time. -/
theorem restarted_exclusive :
    Always stepWith (fun node ↦ Disjoined node.2) (NodeState.withGpus 2, []) (restarted (.ok ())) ∧
      ((restarted (.ok ())).foldl stepWith (NodeState.withGpus 2, [])).2 =
        [⟨"second", "nginx", [0]⟩] := by
  refine ⟨containers_exclusive 2 (restarted (.ok ())) ?_, rfl⟩
  simp only [restarted, throughout_cons]
  exact ⟨trivial, fun _ _ _ _ ↦ rfl, trivial, throughout_nil⟩

/-- When the removal fails and leaves the first container, the second one gets the same GPU. -/
theorem left_container_shares_gpu :
    ((restarted (.error (.containerRuntime "busy"))).foldl stepWith (NodeState.withGpus 2, [])).2 =
        [⟨"first", "nginx", [0]⟩, ⟨"second", "nginx", [0]⟩] ∧
      ¬Always stepWith (fun node ↦ Disjoined node.2) (NodeState.withGpus 2, [])
        (restarted (.error (.containerRuntime "busy"))) := by
  have hcontainers : ((restarted (.error (.containerRuntime "busy"))).foldl stepWith
      (NodeState.withGpus 2, [])).2 = [⟨"first", "nginx", [0]⟩, ⟨"second", "nginx", [0]⟩] := rfl
  refine ⟨hcontainers, fun halways ↦ ?_⟩
  have hdisjoined := halways.last
  rw [hcontainers] at hdisjoined
  have hfirst := (List.pairwise_cons.mp hdisjoined).1 _ List.mem_cons_self
  exact hfirst (List.mem_singleton.mpr rfl) (List.mem_singleton.mpr rfl)

end Clawbernetes.ClawNode
