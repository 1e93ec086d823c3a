import Clawbernetes.ClawNode.DockerDaemon

/-!
# Failed launches

What a launch leaves behind when it fails. The callers of the runtime take every error for a sign
that nothing was created and give back the GPUs. This is so unless the creation of the container is
half done: the container of a failed start stays in the daemon, and nobody knows it.

`failed_launches_leave_nothing_iff` says this for one creation from any state of the daemon, and for
all runs of the messages that start workloads.
-/

set_option autoImplicit false
set_option relaxedAutoImplicit false

namespace Clawbernetes.ClawNode

open Library.Bytes Library.FiniteTable Library.Runs
open ClawCompute (ContainerId)
open ClawProto (WorkloadSpec)
open MoltAttestation (Uuid)

/-- A container has a GPU attached: its request names the GPU or asks for all of them. -/
def Attaches (container : DaemonContainer) (gpu : UInt32) : Prop :=
  ∃ host requests devices, container.request.config.hostConfig = some host ∧
    host.deviceRequests = some requests ∧ devices ∈ requests ∧
    (devices.count = some (-1) ∨
      ∃ ids, devices.deviceIds = some ids ∧ toString gpu.toNat ∈ ids)

/-- A message that starts a workload, with the random identifier of the name of its container and
the answers of the daemon. -/
structure Launch where
  workloadId : Uuid
  spec : WorkloadSpec
  uuid : Uuid
  answers : DaemonAnswers

/-- The node, the containers of the daemon and the tracked containers after a launch. -/
def launchStep (gpuRuntime : Option String) (node : NodeState × DockerNode) (launch : Launch) :
    NodeState × DockerNode :=
  (handleStartWorkload (launch.answers.runtime gpuRuntime launch.uuid) launch.workloadId launch.spec
    node.1 node.2).2

/-- No container with released GPUs stays behind: every GPU that is attached to a container of the
daemon, the initial ones apart, is held by the registered workload of this container. -/
def NothingLeft (initial : List DaemonContainer) (node : NodeState × DockerNode) : Prop :=
  ∃ launched, node.2.1 = initial ++ launched ∧ ∀ container ∈ launched, ∀ gpu,
    Attaches container gpu → ∃ key workload, node.1.workloads.lookup key = some workload ∧
      workload.containerId = some (ContainerId.mk container.id).short ∧ gpu ∈ workload.gpuIds

/-- A workload with GPUs is admitted, and the creation of its container is half done. -/
def HalfLaunched (node : NodeState × DockerNode) (launch : Launch) : Prop :=
  Admits node.1 launch.workloadId launch.spec ∧ launch.spec.gpuCount ≠ 0 ∧
    (∃ id, launch.answers.create = .ok id) ∧ ∃ error, launch.answers.start = .error error

/-! ### The GPUs of a container -/

/-- The container of an accepted workload has the GPUs attached that were handed out for it. -/
theorem attaches_containerOf_iff {spec : WorkloadSpec} (hvalid : spec.validate = .ok ())
    (gpuRuntime : Option String) (workloadId uuid : Uuid) (gpuIds : List UInt32) (id : String)
    (gpu : UInt32) :
    Attaches (DaemonAnswers.containerOf gpuRuntime uuid (containerSpec workloadId spec gpuIds) id)
      gpu ↔ gpu ∈ gpuIds := by
  have hconfigures : Configures spec gpuIds
      (specToConfig uuid (containerSpec workloadId spec gpuIds)) :=
    configures_specToConfig hvalid workloadId uuid
  have hcarries := hconfigures.carries hvalid gpuRuntime
  constructor
  · rintro ⟨host, requests, devices, hhost, hrequests, hdevices, hattached⟩
    obtain rfl := Option.some_inj.mp (hcarries.host_eq.symm.trans hhost)
    have hgpus : gpuIds ≠ [] := by
      intro hempty
      rw [hcarries.noGpus.mpr hempty] at hrequests
      cases hrequests
    obtain ⟨only, honly, hcount, hids⟩ := hcarries.gpus hgpus
    rw [honly] at hrequests
    rw [← Option.some_inj.mp hrequests, List.mem_singleton] at hdevices
    rw [hdevices, hcount, hids] at hattached
    rcases hattached with hall | ⟨ids, hnames, hnamed⟩
    · cases hall
    · rw [← Option.some_inj.mp hnames] at hnamed
      obtain ⟨other, hother, hsame⟩ := List.mem_map.mp hnamed
      rwa [← UInt32.toNat_inj.mp (decimal_inj hsame)]
  · intro hgpu
    obtain ⟨only, honly, -, hids⟩ := hcarries.gpus (List.ne_nil_of_mem hgpu)
    exact ⟨_, _, only, hcarries.host_eq, honly, List.mem_singleton.mpr rfl,
      .inr ⟨_, hids, List.mem_map_of_mem hgpu⟩⟩

variable {totalGpus : UInt32} {gpuRuntime : Option String} {initial : List DaemonContainer}
  {node : NodeState × DockerNode} {launch : Launch}

/-- A workload that is admitted with some GPUs gets at least one. -/
theorem exists_taken {state : NodeState} (hpartitioned : state.Partitioned totalGpus)
    {count : UInt32} (hcount : count ≤ state.availableGpuCount) (hsome : count ≠ 0) :
    ∃ gpu, gpu ∈ state.taken count := by
  have hfree : totalGpus ∉ state.allocatedGpus := fun hmem ↦
    absurd (hpartitioned.within totalGpus hmem) (UInt32.lt_irrefl totalGpus)
  have hlength := NodeState.length_taken hpartitioned.nodup hfree hcount
  apply List.exists_mem_of_length_pos
  rw [hlength]
  exact Nat.pos_of_ne_zero fun hzero ↦ hsome (UInt32.toNat_inj.mp hzero)

/-! ### One launch -/

/-- A container without GPUs, or with the GPUs of the registered workload that names it, leaves
nothing behind when it is added. -/
theorem NothingLeft.add (hleft : NothingLeft initial node) {state : NodeState}
    {tracked : Table String Container} {container : DaemonContainer}
    (hkept : ∀ key workload, node.1.workloads.lookup key = some workload →
      state.workloads.lookup key = some workload)
    (howned : ∀ gpu, Attaches container gpu → ∃ key workload,
      state.workloads.lookup key = some workload ∧
        workload.containerId = some (ContainerId.mk container.id).short ∧ gpu ∈ workload.gpuIds) :
    NothingLeft initial (state, node.2.1 ++ [container], tracked) := by
  obtain ⟨launched, hcontainers, hheld⟩ := hleft
  refine ⟨launched ++ [container], by rw [hcontainers, List.append_assoc], ?_⟩
  intro existing hexisting gpu hattached
  rcases List.mem_append.mp hexisting with hold | hnew
  · obtain ⟨key, workload, hlookup, hrest⟩ := hheld existing hold gpu hattached
    exact ⟨key, workload, hkept key workload hlookup, hrest⟩
  · obtain rfl := List.mem_singleton.mp hnew
    exact howned gpu hattached

/-- When nothing is left after a container was added, the GPUs of the container are held by a
registered workload. -/
theorem NothingLeft.owner (hleft : NothingLeft initial node) {state : NodeState}
    {tracked : Table String Container} {container : DaemonContainer}
    (hafter : NothingLeft initial (state, node.2.1 ++ [container], tracked)) {gpu : UInt32}
    (hattached : Attaches container gpu) :
    ∃ key workload, state.workloads.lookup key = some workload ∧ gpu ∈ workload.gpuIds := by
  obtain ⟨launched, hcontainers, -⟩ := hleft
  obtain ⟨all, hall, hheld⟩ := hafter
  have hlast : container ∈ all := by
    dsimp only at hall
    rw [hcontainers, List.append_assoc, List.append_cancel_left_eq] at hall
    rw [← hall]
    exact List.mem_append_right launched List.mem_cons_self
  obtain ⟨key, workload, hlookup, -, hgpu⟩ := hheld container hlast gpu hattached
  exact ⟨key, workload, hlookup, hgpu⟩

section Admitted

variable {state : NodeState} {world : DockerNode} {workloadId uuid : Uuid} {spec : WorkloadSpec}

/-- The container of an admitted workload whose start failed leaves nothing behind exactly when the
workload has no GPUs. -/
theorem nothingLeft_halfDone_iff (hpartitioned : state.Partitioned totalGpus)
    (hleft : NothingLeft initial (state, world)) (hadmits : Admits state workloadId spec)
    (id : String) :
    NothingLeft initial (state, world.1 ++ [DaemonAnswers.containerOf gpuRuntime uuid
        (containerSpec workloadId spec (state.taken spec.gpuCount)) id], world.2) ↔
      spec.gpuCount = 0 := by
  have hattaches := attaches_containerOf_iff hadmits.1 gpuRuntime workloadId uuid
    (state.taken spec.gpuCount) id
  constructor
  · intro hafter
    by_contra hsome
    obtain ⟨gpu, hgpu⟩ := exists_taken hpartitioned hadmits.2.2 hsome
    obtain ⟨key, workload, hlookup, howned⟩ := hleft.owner hafter ((hattaches gpu).mpr hgpu)
    exact ((state.taken_spec spec.gpuCount).2 gpu hgpu).2
      (mem_allocatedGpus hpartitioned hlookup howned)
  · intro hzero
    refine hleft.add (fun _ _ hlookup ↦ hlookup) fun gpu hattached ↦ ?_
    have hgpu := (hattaches gpu).mp hattached
    rw [hzero] at hgpu
    exact absurd hgpu List.not_mem_nil

/-- The container of a registered workload leaves nothing behind. -/
theorem nothingLeft_started (hleft : NothingLeft initial (state, world))
    (hadmits : Admits state workloadId spec) (id : String) (tracked : Table String Container) :
    NothingLeft initial (started state workloadId spec (ContainerId.mk id).short,
      world.1 ++ [DaemonAnswers.containerOf gpuRuntime uuid
        (containerSpec workloadId spec (state.taken spec.gpuCount)) id], tracked) := by
  refine hleft.add (fun key workload hlookup ↦ ?_) fun gpu hattached ↦ ?_
  · have hkey : key ≠ workloadId := by
      rintro rfl
      rw [hadmits.2.1] at hlookup
      cases hlookup
    exact (AList.lookup_insert_ne hkey).trans hlookup
  · exact ⟨workloadId, _, AList.lookup_insert _, rfl,
      (attaches_containerOf_iff hadmits.1 gpuRuntime workloadId uuid _ id gpu).mp hattached⟩

end Admitted

/-- A launch leaves nothing behind exactly when it is not a workload with GPUs of which the creation
of the container is half done. -/
theorem nothingLeft_launchStep_iff (hpartitioned : node.1.Partitioned totalGpus)
    (hleft : NothingLeft initial node) :
    NothingLeft initial (launchStep gpuRuntime node launch) ↔ ¬HalfLaunched node launch := by
  obtain ⟨state, world⟩ := node
  obtain ⟨workloadId, spec, uuid, answers⟩ := launch
  unfold launchStep HalfLaunched
  dsimp only
  by_cases hadmits : Admits state workloadId spec
  · have himage : (containerSpec workloadId spec (state.taken spec.gpuCount)).image ≠ "" := by
      rw [containerSpec_eq]
      exact ClawProto.ne_empty_of_validateImage (WorkloadSpec.validate_eq_ok_iff.mp hadmits.1).1
    rw [handleStartWorkload_of_admits hadmits]
    rcases answers.create_cases gpuRuntime uuid
        (containerSpec workloadId spec (state.taken spec.gpuCount)) world with
      ⟨hwhole, error, hcreate⟩ | ⟨⟨-, hcreated, hfails⟩, error, id, hcreate⟩ | ⟨hwhole, id, hcreate⟩
    · rw [hcreate]
      exact iff_of_true hleft fun hhalf ↦ hwhole ⟨himage, hhalf.2.2⟩
    · rw [hcreate, nothingLeft_halfDone_iff hpartitioned hleft hadmits id]
      exact ⟨fun hzero hhalf ↦ hhalf.2.1 hzero,
        fun hwhole ↦ not_not.mp fun hsome ↦ hwhole ⟨hadmits, hsome, hcreated, hfails⟩⟩
    · rw [hcreate]
      exact iff_of_true (nothingLeft_started hleft hadmits id _)
        fun hhalf ↦ hwhole ⟨himage, hhalf.2.2⟩
  · rw [handleStartWorkload_of_not_admits hadmits]
    exact iff_of_true hleft fun hhalf ↦ hadmits hhalf.1

/-! ### All launches -/

/-- From every state of the daemon, the creation of a container that fails leaves the daemon and the
tracked containers as they were if and only if it is not half done. And in every run of messages
that start workloads: no container with GPUs that were given back stays in the daemon if and only if
no workload with GPUs is launched half. -/
theorem failed_launches_leave_nothing_iff (gpuRuntime : Option String) :
    (∀ (answers : DaemonAnswers) (uuid : Uuid) (spec : ContainerSpec) (node : DockerNode),
      ((∃ error, ((answers.runtime gpuRuntime uuid).create spec node).1 = .error error) →
          ((answers.runtime gpuRuntime uuid).create spec node).2 = node) ↔
        ¬answers.HalfDone spec) ∧
    ∀ (totalGpus : UInt32) (initial : DockerNode) (launches : List Launch),
      Always (launchStep gpuRuntime) (NothingLeft initial.1) (NodeState.withGpus totalGpus, initial)
          launches ↔
        Throughout (launchStep gpuRuntime) (fun node launch ↦ ¬HalfLaunched node launch)
          (NodeState.withGpus totalGpus, initial) launches := by
  constructor
  · intro answers uuid spec node
    rcases answers.create_cases gpuRuntime uuid spec node with
      ⟨hwhole, error, hcreate⟩ | ⟨hhalf, error, id, hcreate⟩ | ⟨hwhole, id, hcreate⟩
    · rw [hcreate]
      exact iff_of_true (fun _ ↦ rfl) hwhole
    · rw [hcreate]
      refine iff_of_false (fun hsame ↦ ?_) (not_not.mpr hhalf)
      have hlength := congrArg (fun node : DockerNode ↦ node.1.length) (hsame ⟨error, rfl⟩)
      simp at hlength
    · rw [hcreate]
      refine iff_of_true (fun hfails ↦ ?_) hwhole
      obtain ⟨error, herror⟩ := hfails
      cases herror
  · intro totalGpus initial launches
    have hstart : NothingLeft initial.1 (NodeState.withGpus totalGpus, initial) :=
      ⟨[], (List.append_nil _).symm, fun _ hcontainer ↦ absurd hcontainer List.not_mem_nil⟩
    have hpartitioned : Always (launchStep gpuRuntime) (fun node ↦ node.1.Partitioned totalGpus)
        (NodeState.withGpus totalGpus, initial) launches := by
      apply always_of_step
      · exact NodeState.partitioned_withGpus totalGpus
      · intro node launch hbefore
        exact partitioned_handleGatewayMessage hbefore
          (launch.answers.runtime gpuRuntime launch.uuid)
          (.startWorkload launch.workloadId launch.spec) node.2
    exact always_iff_throughout_of_always hpartitioned hstart fun node launch hbefore hleft ↦
      nothingLeft_launchStep_iff hbefore hleft

/-- A daemon that creates a container and does not start it. -/
def refusesStart (id : String) : DaemonAnswers :=
  ⟨.ok id, .error (.responseServerError 500 "port is already allocated"), .ok (), .ok ()⟩

/-- A workload with one GPU, whose container is created and not started. -/
def refusedLaunch : Launch :=
  ⟨Uuid.ofByte 1, oneGpu, Uuid.ofByte 2, refusesStart "0123456789abcdef"⟩

/-- A failed launch on a node with one GPU leaves the state of the node as it was and its container
in the daemon, with the GPU that was given back. -/
theorem refused_launch_keeps_gpu :
    let node := launchStep none (NodeState.withGpus 1, [], ∅) refusedLaunch
    node.1.allocatedGpus = [] ∧ node.1.workloads.entries = [] ∧
      (∃ container, node.2.1 = [container] ∧ Attaches container 0) ∧
      (∃ error, ((refusedLaunch.answers.runtime none (Uuid.ofByte 2)).create
        (containerSpec (Uuid.ofByte 1) oneGpu [0]) ([], ∅)).1 = .error error) ∧
      ((refusedLaunch.answers.runtime none (Uuid.ofByte 2)).create
        (containerSpec (Uuid.ofByte 1) oneGpu [0]) ([], ∅)).2.1.length = 1 ∧
      ¬Always (launchStep none) (NothingLeft []) (NodeState.withGpus 1, [], ∅) [refusedLaunch] := by
  intro node
  have hcontainer : node.2.1 = [DaemonAnswers.containerOf none (Uuid.ofByte 2)
      (containerSpec (Uuid.ofByte 1) oneGpu [0]) "0123456789abcdef"] := rfl
  have hattaches : Attaches (DaemonAnswers.containerOf none (Uuid.ofByte 2)
      (containerSpec (Uuid.ofByte 1) oneGpu [0]) "0123456789abcdef") 0 :=
    (attaches_containerOf_iff (by decide) none _ _ [0] _ 0).mpr (List.mem_singleton.mpr rfl)
  refine ⟨rfl, rfl, ⟨_, hcontainer, hattaches⟩, ⟨_, rfl⟩, rfl, fun halways ↦ ?_⟩
  obtain ⟨launched, hlaunched, howned⟩ := halways.last
  have hmem : DaemonAnswers.containerOf none (Uuid.ofByte 2)
      (containerSpec (Uuid.ofByte 1) oneGpu [0]) "0123456789abcdef" ∈ launched := by
    rw [List.nil_append] at hlaunched
    rw [← hlaunched]
    exact hcontainer ▸ List.mem_cons_self
  obtain ⟨key, workload, hlookup, -⟩ := howned _ hmem 0 hattaches
  cases hlookup

end Clawbernetes.ClawNode
