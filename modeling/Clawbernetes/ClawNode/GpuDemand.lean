import Clawbernetes.ClawNode.Handlers

/-!
# The GPUs that a workload asks for

A `WorkloadSpec` states its demand twice: in `gpu_count`, and in the advanced requirement, whose
count `effective_gpu_count` prefers. `validate` checks the effective count. `handle_start_workload`
of `handlers.rs` allocates `gpu_count` GPUs.

`gpu_demand_iff` says for every state that messages lead to and every valid specification when a
start meets the demand all the same: when the two counts agree, or when both are more than the free
GPUs. A workload that is registered already is refused for that, also when the GPUs are lacking.
-/

set_option autoImplicit false
set_option relaxedAutoImplicit false

namespace Clawbernetes.ClawNode

open Library.Runs
open ClawProto (WorkloadSpec)
open MoltAttestation (Uuid)

variable {World : Type*} {runtime : ContainerRuntime World} {state : NodeState} {world : World}
  {workloadId : Uuid} {spec : WorkloadSpec}

/-- The free GPUs and the allocated ones are all GPUs of the node. -/
theorem NodeState.Partitioned.length_freeGpus {totalGpus : UInt32}
    (hpartitioned : state.Partitioned totalGpus) :
    state.freeGpus.length = state.availableGpuCount.toNat := by
  have hunallocated : state.totalGpus ∉ state.allocatedGpus := fun hallocated ↦ by
    have hbelow := hpartitioned.within _ hallocated
    rw [hpartitioned.total] at hbelow
    exact UInt32.lt_irrefl _ hbelow
  have hsubset : state.freeGpus ++ state.allocatedGpus ⊆ state.gpuNumbers := by
    intro gpu hgpu
    rw [NodeState.mem_gpuNumbers]
    rcases List.mem_append.mp hgpu with hfree | hallocated
    · exact (NodeState.mem_freeGpus.mp hfree).1
    · rw [hpartitioned.total]
      exact hpartitioned.within gpu hallocated
  have hnodup : (state.freeGpus ++ state.allocatedGpus).Nodup :=
    ((NodeState.nodup_gpuNumbers state).filter _).append hpartitioned.nodup fun gpu hfree ↦
      (NodeState.mem_freeGpus.mp hfree).2
  have hbound := (List.subperm_of_subset hnodup hsubset).length_le
  have htotal : state.gpuNumbers.length = state.totalGpus.toNat := by
    rw [NodeState.gpuNumbers, List.length_map, List.length_range]
  have hleast := state.totalGpus_le
  rw [List.length_append, htotal] at hbound
  rw [NodeState.availableGpuCount_toNat hpartitioned.nodup hunallocated]
  omega

/-- The update that a workload failed because the GPUs could not be allocated. -/
def RefusedForGpus (workloadId : Uuid) (answer : Answer) : Prop :=
  ∃ requested available, answer = failed workloadId
    ("GPU allocation failed: " ++ (NodeError.insufficientGpus requested available).display)

/-- The update that a workload is running. -/
def AnswersRunning (workloadId : Uuid) (answer : Answer) : Prop :=
  ∃ message, answer = .ok (some (.workloadUpdate workloadId .running message))

/-- What a start promises about the GPUs in a state of the node: a workload that is answered to run
is registered with as many GPUs as the specification effectively asks for, and the start is refused
for lack of GPUs exactly when it asks for more than the free ones. -/
def MeetsDemand (runtime : ContainerRuntime World) (node : NodeState × World) (workloadId : Uuid)
    (spec : WorkloadSpec) : Prop :=
  let (answer, after, _) :=
    handleGatewayMessage runtime (.startWorkload workloadId spec) node.1 node.2
  (AnswersRunning workloadId answer → ∃ info, after.workloads.lookup workloadId = some info ∧
    info.gpuIds.Nodup ∧ info.gpuIds.length = spec.effectiveGpuCount.toNat) ∧
  (RefusedForGpus workloadId answer ↔ node.1.freeGpus.length < spec.effectiveGpuCount.toNat)

/-- The two counts of a specification agree as far as it matters in a state: for a new workload they
are the same or both more than the free GPUs, and for a registered one the effective count is not
more than these. -/
def DemandsAgree (state : NodeState) (workloadId : Uuid) (spec : WorkloadSpec) : Prop :=
  if state.workloads.lookup workloadId = none then
    spec.gpuCount = spec.effectiveGpuCount ∨ state.freeGpus.length < spec.gpuCount.toNat ∧
      state.freeGpus.length < spec.effectiveGpuCount.toNat
  else spec.effectiveGpuCount.toNat ≤ state.freeGpus.length

/-- The runtime creates every container. -/
def Succeeds (runtime : ContainerRuntime World) : Prop :=
  ∀ spec world, ∃ container after, runtime.create spec world = (.ok container, after)

/-- A workload that is running was not refused. -/
theorem not_refusedForGpus_of_running {answer : Answer}
    (hrunning : AnswersRunning workloadId answer) : ¬RefusedForGpus workloadId answer := by
  obtain ⟨message, rfl⟩ := hrunning
  rintro ⟨requested, available, hrefused⟩
  cases hrefused

/-- A valid start of a registered workload is an error of its own. -/
theorem handleStartWorkload_of_known (hvalid : spec.validate = .ok ())
    (hknown : state.workloads.lookup workloadId ≠ none) :
    handleStartWorkload runtime workloadId spec state world =
      (.error (.workloadExists workloadId), state, world) := by
  unfold handleStartWorkload
  rw [hvalid]
  exact if_pos (Option.isSome_iff_ne_none.mpr hknown)

/-- A valid start of a new workload with a simple count above the available GPUs is refused. -/
theorem handleStartWorkload_of_lack (hvalid : spec.validate = .ok ())
    (hnew : state.workloads.lookup workloadId = none)
    (hlack : state.availableGpuCount < spec.gpuCount) :
    handleStartWorkload runtime workloadId spec state world =
      (failed workloadId ("GPU allocation failed: " ++
        (NodeError.insufficientGpus spec.gpuCount state.availableGpuCount).display),
        state, world) := by
  unfold handleStartWorkload
  rw [hvalid, startAllocation_eq, NodeState.allocateGpus_of_lt hlack]
  simp only [hnew, Option.isSome_none, Bool.false_eq_true, if_false]

/-- A start that gets to a creation that succeeds is answered to run, with the workload
registered. -/
theorem handleStartWorkload_of_created (hadmits : Admits state workloadId spec)
    {container : Container} {after : World}
    (hcreate : runtime.create (containerSpec workloadId spec (state.taken spec.gpuCount)) world =
      (.ok container, after)) :
    AnswersRunning workloadId (handleStartWorkload runtime workloadId spec state world).1 ∧
      (handleStartWorkload runtime workloadId spec state world).2 =
        (started state workloadId spec container.id, after) := by
  have hstate : (handleStartWorkload runtime workloadId spec state world).2 =
      (started state workloadId spec container.id, after) := by
    rw [handleStartWorkload_of_admits hadmits, hcreate]
  refine ⟨?_, hstate⟩
  rcases handleStartWorkload_cases runtime workloadId spec state world with
    ⟨answer, left, hfails, -, -⟩ | ⟨created, left, -, -, -, hstarts⟩
  -- A start that fails leaves the workload unregistered.
  · rw [hfails] at hstate
    have hsame : state = started state workloadId spec container.id := congrArg Prod.fst hstate
    have hregistered : (started state workloadId spec container.id).workloads.lookup workloadId =
        some ⟨workloadId, spec.image, state.taken spec.gpuCount, some container.id⟩ :=
      AList.lookup_insert _
    rw [← hsame, hadmits.2.1] at hregistered
    cases hregistered
  · rw [hstarts]
    exact ⟨_, rfl⟩

/-- A start of a registered workload meets the demand when it would not lack GPUs either. -/
theorem meetsDemand_iff_of_known (hvalid : spec.validate = .ok ())
    (hknown : state.workloads.lookup workloadId ≠ none) :
    MeetsDemand runtime (state, world) workloadId spec ↔
      spec.effectiveGpuCount.toNat ≤ state.freeGpus.length := by
  have hrunning : ¬AnswersRunning workloadId (.error (.workloadExists workloadId)) := by
    rintro ⟨message, hanswer⟩
    cases hanswer
  have hrefused : ¬RefusedForGpus workloadId (.error (.workloadExists workloadId)) := by
    rintro ⟨requested, available, hanswer⟩
    cases hanswer
  unfold MeetsDemand
  simp only [handleGatewayMessage]
  rw [handleStartWorkload_of_known hvalid hknown, iff_false_left hrefused, not_lt]
  exact and_iff_right fun hanswer ↦ absurd hanswer hrunning

/-- A start of a new workload that is refused meets the demand when the effective count is more than
the free GPUs as well. -/
theorem meetsDemand_iff_of_lack (hvalid : spec.validate = .ok ())
    (hnew : state.workloads.lookup workloadId = none)
    (hlack : state.availableGpuCount < spec.gpuCount) :
    MeetsDemand runtime (state, world) workloadId spec ↔
      state.freeGpus.length < spec.effectiveGpuCount.toNat := by
  have hrefused : RefusedForGpus workloadId (failed workloadId ("GPU allocation failed: " ++
      (NodeError.insufficientGpus spec.gpuCount state.availableGpuCount).display)) :=
    ⟨_, _, rfl⟩
  unfold MeetsDemand
  simp only [handleGatewayMessage]
  rw [handleStartWorkload_of_lack hvalid hnew hlack, iff_true_left hrefused]
  exact and_iff_right fun hrunning ↦ absurd hrefused (not_refusedForGpus_of_running hrunning)

/-- A start that is admitted, and whose container is created, meets the demand when the two counts
are the same. -/
theorem meetsDemand_iff_of_admits (hadmits : Admits state workloadId spec)
    (hsucceeds : Succeeds runtime) (hsimple : spec.gpuCount.toNat ≤ state.freeGpus.length) :
    MeetsDemand runtime (state, world) workloadId spec ↔
      spec.gpuCount = spec.effectiveGpuCount := by
  obtain ⟨container, after, hcreate⟩ :=
    hsucceeds (containerSpec workloadId spec (state.taken spec.gpuCount)) world
  obtain ⟨hrunning, hstate⟩ := handleStartWorkload_of_created hadmits hcreate
  have htaken : (state.taken spec.gpuCount).length = spec.gpuCount.toNat := by
    rw [NodeState.taken, List.length_take, min_eq_left hsimple]
  have hregistered : (started state workloadId spec container.id).workloads.lookup workloadId =
      some ⟨workloadId, spec.image, state.taken spec.gpuCount, some container.id⟩ :=
    AList.lookup_insert _
  have hregisters := congrArg Prod.fst hstate
  unfold MeetsDemand
  simp only [handleGatewayMessage]
  dsimp only at hregisters
  rw [hregisters, iff_false_left (not_refusedForGpus_of_running hrunning)]
  constructor
  · rintro ⟨hexact, -⟩
    obtain ⟨info, hlookup, -, hcount⟩ := hexact hrunning
    rw [hregistered, Option.some_inj] at hlookup
    rw [← hlookup, htaken] at hcount
    exact UInt32.toNat_inj.mp hcount
  · intro hsame
    rw [← hsame]
    exact ⟨fun _ ↦ ⟨_, hregistered, (state.taken_spec spec.gpuCount).1, htaken⟩, hsimple.not_gt⟩

/-- A start meets the demand in a state with the GPUs of its workloads allocated exactly when the
two counts agree as far as it matters. -/
theorem meetsDemand_iff {totalGpus : UInt32} (hpartitioned : state.Partitioned totalGpus)
    (hsucceeds : Succeeds runtime) (hvalid : spec.validate = .ok ()) :
    MeetsDemand runtime (state, world) workloadId spec ↔ DemandsAgree state workloadId spec := by
  have hfree := hpartitioned.length_freeGpus
  unfold DemandsAgree
  split_ifs with hnew
  · rcases UInt32.lt_or_le state.availableGpuCount spec.gpuCount with hlack | henough
    · have hsimple : state.freeGpus.length < spec.gpuCount.toNat := by
        rwa [hfree, ← UInt32.lt_iff_toNat_lt]
      have hcounts (hsame : spec.gpuCount = spec.effectiveGpuCount) :
          state.freeGpus.length < spec.effectiveGpuCount.toNat := by
        rwa [← hsame]
      rw [meetsDemand_iff_of_lack hvalid hnew hlack, and_iff_right hsimple,
        or_iff_right_of_imp hcounts]
    · have hsimple : spec.gpuCount.toNat ≤ state.freeGpus.length := by
        rwa [hfree, ← UInt32.le_iff_toNat_le]
      rw [meetsDemand_iff_of_admits ⟨hvalid, hnew, henough⟩ hsucceeds hsimple,
        or_iff_left fun hboth ↦ hboth.1.not_ge hsimple]
  · exact meetsDemand_iff_of_known hvalid hnew

/-- In every state that messages lead to, under a runtime that creates every container, a start of a
valid specification meets the demand exactly when the two counts agree as far as it matters. -/
theorem gpu_demand_iff (runtime : ContainerRuntime World) (hsucceeds : Succeeds runtime)
    (world : World) (totalGpus : UInt32) (messages : List GatewayMessage) (workloadId : Uuid)
    (spec : WorkloadSpec) (hvalid : spec.validate = .ok ()) :
    MeetsDemand runtime (reached runtime totalGpus world messages) workloadId spec ↔
      DemandsAgree (reached runtime totalGpus world messages).1 workloadId spec := by
  exact meetsDemand_iff (partitioned_reached runtime world totalGpus messages) hsucceeds hvalid

/-- A workload with a simple count and the count of an advanced requirement. -/
def twoCounts (gpuCount count : UInt32) : WorkloadSpec :=
  ⟨"nginx", [], ∅, gpuCount, 512, 1, ⟨some ⟨count, none, none, none, none, 0⟩, none⟩⟩

/-- A runtime that creates every container. -/
def creating : ContainerRuntime (List Container) :=
  Replies.runtime ⟨.ok "container-1", .ok (), .ok (), false⟩

/-- Two GPUs that both counts ask for are given on a node with two GPUs. -/
theorem agreeing_counts_met :
    MeetsDemand creating (reached creating 2 [] []) (Uuid.ofByte 1) (twoCounts 2 2) :=
  (gpu_demand_iff creating (fun _ _ ↦ ⟨_, _, rfl⟩) [] 2 [] (Uuid.ofByte 1) (twoCounts 2 2) rfl).mpr
    (.inl rfl)

/-- Two GPUs that only the advanced requirement asks for are not given, and the workload runs. -/
theorem advanced_count_not_met :
    (twoCounts 0 2).validate = .ok () ∧
      ¬MeetsDemand creating (reached creating 2 [] []) (Uuid.ofByte 1) (twoCounts 0 2) := by
  refine ⟨rfl, fun hmeets ↦ ?_⟩
  obtain ⟨info, hlookup, -, hcount⟩ := hmeets.1 ⟨_, rfl⟩
  have hwithout : info = ⟨Uuid.ofByte 1, "nginx", [], some "container-1"⟩ :=
    (Option.some_inj.mp hlookup).symm
  rw [hwithout] at hcount
  cases hcount

end Clawbernetes.ClawNode
