import Clawbernetes.ClawCompute.ContainerConfig
import Clawbernetes.ClawNode.Runtime
import Clawbernetes.ClawNode.WorkloadNet
import Clawbernetes.ClawProto.WorkloadSpec

/-!
# Running and stopping workloads by command

`workload.run` and `workload.stop` of `commands.rs`, with networking initialised: a workload gets an
address before its container is started, through the Docker SDK or through the command line of the
container runtime, and gives it back when a start fails and when its container is stopped. The
address is allocated under the identifier of the workload and released under what the stop names.
Only the SDK records which workload a container belongs to, and it does so under the short form of
the container's identifier.

The daemon knows a container by its identifier, by any beginning of it that no other container has,
and by its name. Which container it takes the target of a stop for is its own answer.

`addresses_follow_containers_iff` says exactly when the addresses are those of the started and not
yet stopped containers.
-/

set_option autoImplicit false
set_option relaxedAutoImplicit false

namespace Clawbernetes.ClawNode

open Library.FiniteTable Library.Runs

/-- `std::process::Output`, with its texts decoded. -/
structure Output where
  success : Bool
  stdout : String
  stderr : String

/-- What a node runs containers with: the Docker SDK, where there is one, and the command line of
the container runtime, which may fail to be executed. -/
structure Host (World : Type*) where
  dockerRuntime : Option (ContainerRuntime World)
  output : List String → World → Except String Output × World

/-- A request to run a workload: its identifier, its image and name, and what its other parameters
come to, which is a specification for the SDK and the arguments before and behind those of the
network for the command line. -/
structure RunRequest where
  workloadId : String
  image : String
  name : Option String
  spec : ContainerSpec
  leading : List String
  trailing : List String

/-- The reply to a request that started a container. -/
structure RunReply where
  containerId : String
  workloadId : String
  image : String
  name : Option String
  runtime : String
  meshIp : Option String
  network : Option String

/-- `DOCKER_NETWORK_NAME`. -/
def dockerNetworkName : String := "claw-mesh"

/-- `str::trim`. -/
def trim (text : String) : String :=
  String.ofList ((text.toList.dropWhile ClawProto.isWhitespace).reverse.dropWhile
    ClawProto.isWhitespace).reverse

section Commands

variable {World : Type*}

/-- `handle_workload_run_sdk`. -/
def handleWorkloadRunSdk (docker : ContainerRuntime World) (request : RunRequest)
    (net : WorkloadNetManager) (world : World) :
    Except String RunReply × WorkloadNetManager × World :=
  match net.allocateIp request.workloadId with
  | (.error error, net) => (.error error, net, world)
  | (.ok ip, net) =>
    match docker.create { request.spec with
        network := some dockerNetworkName
        ipAddress := some ip.display } world with
    | (.error error, world) =>
      (.error ("Docker SDK container creation failed: " ++ error.display),
        (net.releaseIp request.workloadId).2, world)
    | (.ok container, world) =>
      (.ok ⟨container.id, request.workloadId, request.image, request.name, "docker-sdk",
        some ip.display, some dockerNetworkName⟩,
        net.trackContainer container.id request.workloadId, world)

/-- `handle_workload_run_cli`. Without an address the container runs in the default network. An
error of the execution itself is returned at once. -/
def handleWorkloadRunCli (output : List String → World → Except String Output × World)
    (request : RunRequest) (net : WorkloadNetManager) (world : World) :
    Except String RunReply × WorkloadNetManager × World :=
  let (meshIp, net) := match net.allocateIp request.workloadId with
    | (.ok ip, net) => (some ip.display, net)
    | (.error _, net) => (none, net)
  let network := meshIp.elim [] fun ip ↦ ["--network", dockerNetworkName, "--ip", ip]
  match output (request.leading ++ network ++ request.trailing) world with
  | (.error error, world) => (.error error, net, world)
  | (.ok result, world) =>
    if result.success then
      (.ok ⟨trim result.stdout, request.workloadId, request.image, request.name, "cli", meshIp,
        meshIp.map fun _ ↦ dockerNetworkName⟩, net, world)
    else
      (.error ("container run failed: " ++ result.stderr), (net.releaseIp request.workloadId).2,
        world)

/-- `handle_workload_run`. -/
def handleWorkloadRun (host : Host World) (request : RunRequest) (net : WorkloadNetManager)
    (world : World) : Except String RunReply × WorkloadNetManager × World :=
  match host.dockerRuntime with
  | some docker => handleWorkloadRunSdk docker request net world
  | none => handleWorkloadRunCli host.output request net world

/-- `handle_workload_stop_cli`. -/
def handleWorkloadStopCli (output : List String → World → Except String Output × World)
    (target : String) (force : Bool) (net : WorkloadNetManager) (world : World) :
    Except String String × WorkloadNetManager × World :=
  match output [if force then "kill" else "stop", target] world with
  | (.error error, world) => (.error error, net, world)
  | (.ok result, world) =>
    if result.success then (.ok target, (net.releaseByContainer target).2, world)
    else (.error ("stop failed: " ++ result.stderr), net, world)

/-- `handle_workload_stop`. The container is named by its identifier or else by its name. -/
def handleWorkloadStop (host : Host World) (containerId name : Option String) (force : Option Bool)
    (net : WorkloadNetManager) (world : World) :
    Except String String × WorkloadNetManager × World :=
  match containerId.or name with
  | none => (.error "containerId or name required", net, world)
  | some target =>
    match host.dockerRuntime with
    | some docker =>
      match docker.stop target (if force.getD false then 0 else 10) world with
      | (.error error, world) => (.error ("stop failed: " ++ error.display), net, world)
      | (.ok (), world) => (.ok target, (net.releaseByContainer target).2, world)
    | none => handleWorkloadStopCli host.output target (force.getD false) net world

end Commands

/-! ### A host that answers as it is told -/

/-- A started container that was not stopped, with the identifier and the name that the daemon has
for it. -/
structure Running where
  workloadId : String
  containerId : String
  name : String
  deriving DecidableEq

/-- The identifier that the SDK reports. -/
def Running.short (container : Running) : String :=
  ClawCompute.ContainerId.short ⟨container.containerId⟩

/-- What becomes of a request to run a container. The command line may exit with a failure or not be
executed at all. -/
inductive RunOutcome where
  | started (containerId name : String)
  | failed (message : String)
  | notExecuted (message : String)

/-- What the daemon makes of a request to stop a container: it stops a running one that it takes the
target for, or succeeds with one that does not run any more, or refuses. -/
inductive StopOutcome where
  | stopped (container : Running)
  | notRunning
  | failed (message : String)

/-- The container may be meant by the target: this is its name, its identifier or a beginning of the
identifier. -/
def Running.Named (container : Running) (target : String) : Prop :=
  target = container.name ∨ target.toList <+: container.containerId.toList

/-- The containers without the one of a workload. -/
def withoutWorkload (workloadId : String) (running : List Running) : List Running :=
  running.filter (·.workloadId ≠ workloadId)

/-- The Docker SDK over the running containers, while a workload is run or stopped. -/
def dockerWith (workloadId : String) (run : RunOutcome) (stop : StopOutcome) :
    ContainerRuntime (List Running) where
  create := fun spec running ↦ match run with
    | .started containerId name =>
      (.ok ⟨Running.short ⟨workloadId, containerId, name⟩, spec.image, spec.gpuIds⟩,
        running ++ [⟨workloadId, containerId, name⟩])
    | .failed message | .notExecuted message => (.error (.containerRuntime message), running)
  stop := fun _ _ running ↦ match stop with
    | .stopped container => (.ok (), withoutWorkload container.workloadId running)
    | .notRunning => (.ok (), running)
    | .failed message => (.error (.containerRuntime message), running)
  remove := fun _ running ↦ (.ok (), running)

/-- The command line of `run`. -/
def runOutput (workloadId : String) (outcome : RunOutcome) (running : List Running) :
    Except String Output × List Running :=
  match outcome with
  | .started containerId name =>
    (.ok ⟨true, containerId, ""⟩, running ++ [⟨workloadId, containerId, name⟩])
  | .failed message => (.ok ⟨false, "", message⟩, running)
  | .notExecuted message => (.error message, running)

/-- The command line of `stop` and `kill`. -/
def stopOutput (outcome : StopOutcome) (target : String) (running : List Running) :
    Except String Output × List Running :=
  match outcome with
  | .stopped container =>
    (.ok ⟨true, target, ""⟩, withoutWorkload container.workloadId running)
  | .notRunning => (.ok ⟨true, target, ""⟩, running)
  | .failed message => (.ok ⟨false, "", message⟩, running)

/-- A command and what the host makes of it. -/
inductive Command where
  | run (request : RunRequest) (outcome : RunOutcome)
  | stop (containerId name : Option String) (force : Option Bool) (outcome : StopOutcome)

/-- The manager and the running containers after a command, on a node with or without the SDK. -/
def commandStep (sdk : Bool) (node : WorkloadNetManager × List Running) :
    Command → WorkloadNetManager × List Running
  | .run request outcome =>
    let host : Host (List Running) := {
      dockerRuntime :=
        if sdk then some (dockerWith request.workloadId outcome .notRunning) else none
      output := fun _ ↦ runOutput request.workloadId outcome }
    (handleWorkloadRun host request node.1 node.2).2
  | .stop containerId name force outcome =>
    let host : Host (List Running) := {
      dockerRuntime := if sdk then some (dockerWith "" (.failed "") outcome) else none
      output := fun arguments ↦ stopOutput outcome (arguments.getLastD "") }
    (handleWorkloadStop host containerId name force node.1 node.2).2

/-- The addresses are held exactly by the workloads whose container runs. -/
def Accounted (node : WorkloadNetManager × List Running) : Prop :=
  ∀ workloadId, (node.1.allocatedIps.lookup workloadId).isSome ↔
    ∃ container ∈ node.2, container.workloadId = workloadId

/-- What the host can be relied on for: a workload is run under an identifier that no running
container has, and what is stopped is a running container that the target may mean. -/
def Reliable (node : WorkloadNetManager × List Running) : Command → Prop
  | .run request _ => ∀ container ∈ node.2, container.workloadId ≠ request.workloadId
  | .stop containerId name _ outcome => match outcome with
    | .stopped container =>
      container ∈ node.2 ∧ ∀ target, containerId.or name = some target → container.Named target
    | .notRunning | .failed _ => True

/-- The address of a command's workload follows its container. On the command line a container is
not started without a free address, and with one its command is executed. A stop releases the
workload whose container it stops, or nothing when it stops none. -/
def Follows (sdk : Bool) (node : WorkloadNetManager × List Running) : Command → Prop
  | .run request outcome => sdk = false → match outcome with
    | .started _ _ => ¬node.1.HeldByOthers request.workloadId
    | .failed _ => True
    | .notExecuted _ => node.1.HeldByOthers request.workloadId
  | .stop containerId name _ outcome => ∀ target, containerId.or name = some target →
      match outcome with
      | .stopped container => node.1.releasedKey target = container.workloadId
      | .notRunning => node.1.allocatedIps.lookup (node.1.releasedKey target) = none
      | .failed _ => True

/-! ### What a command does to the addresses -/

variable {net after : WorkloadNetManager} {running : List Running} {request : RunRequest}

/-- A workload with an identifier that no running container has holds no address. -/
theorem lookup_eq_none_of_fresh (haccounted : Accounted (net, running))
    (hfresh : ∀ container ∈ running, container.workloadId ≠ request.workloadId) :
    net.allocatedIps.lookup request.workloadId = none := by
  rw [← Option.not_isSome_iff_eq_none, haccounted]
  rintro ⟨container, hcontainer, hsame⟩
  exact hfresh container hcontainer hsame

/-- Only which keys hold an address matters. -/
theorem accounted_congr
    (hlookup : ∀ key, after.allocatedIps.lookup key = net.allocatedIps.lookup key) :
    Accounted (after, running) ↔ Accounted (net, running) := by
  unfold Accounted
  simp only [hlookup]

/-- After a container was started for a workload, the addresses are accounted for exactly when
the workload holds one. -/
theorem accounted_started_iff (haccounted : Accounted (net, running))
    (hothers : ∀ other, other ≠ request.workloadId → after.allocatedIps.lookup other =
      net.allocatedIps.lookup other) (containerId name : String) :
    Accounted (after, running ++ [⟨request.workloadId, containerId, name⟩]) ↔
      (after.allocatedIps.lookup request.workloadId).isSome := by
  constructor
  · intro hafter
    exact (hafter request.workloadId).mpr ⟨_, List.mem_append_right _ List.mem_cons_self, rfl⟩
  · intro hholds workloadId
    simp only [List.mem_append, List.mem_singleton]
    by_cases hsame : workloadId = request.workloadId
    · subst hsame
      exact iff_of_true hholds ⟨_, .inr rfl, rfl⟩
    · rw [hothers workloadId hsame, haccounted workloadId]
      constructor
      · rintro ⟨container, hcontainer, hid⟩
        exact ⟨container, .inl hcontainer, hid⟩
      · rintro ⟨container, hcontainer | rfl, hid⟩
        · exact ⟨container, hcontainer, hid⟩
        · exact absurd hid.symm hsame

/-- After an allocation for a fresh workload and its release, the same keys hold an address. -/
theorem lookup_releaseIp_of_fresh (haccounted : Accounted (net, running))
    (hfresh : ∀ container ∈ running, container.workloadId ≠ request.workloadId)
    (hothers : ∀ other, other ≠ request.workloadId → after.allocatedIps.lookup other =
      net.allocatedIps.lookup other) (key : String) :
    (after.releaseIp request.workloadId).2.allocatedIps.lookup key =
      net.allocatedIps.lookup key := by
  obtain ⟨hreleased, hkept⟩ := after.releaseIp_spec request.workloadId
  by_cases hkey : key = request.workloadId
  · rw [hkey, hreleased, lookup_eq_none_of_fresh haccounted hfresh]
  · rw [hkept key hkey, hothers key hkey]

/-- What a run with the SDK does. -/
theorem commandStep_run_sdk {result : Except String Library.Addresses.Ipv4Addr}
    (hallocates : net.allocateIp request.workloadId = (result, after)) (outcome : RunOutcome) :
    commandStep true (net, running) (.run request outcome) = match result, outcome with
      | .error _, _ => (after, running)
      | .ok _, .started containerId name =>
        (after.trackContainer (Running.short ⟨request.workloadId, containerId, name⟩)
          request.workloadId, running ++ [⟨request.workloadId, containerId, name⟩])
      | .ok _, .failed _ => ((after.releaseIp request.workloadId).2, running)
      | .ok _, .notExecuted _ => ((after.releaseIp request.workloadId).2, running) := by
  simp only [commandStep, handleWorkloadRun, handleWorkloadRunSdk, hallocates, if_true]
  cases result with
  | ok ip => cases outcome <;> rfl
  | error error => rfl

/-- With the SDK every run of a fresh workload keeps the addresses accounted for. -/
theorem accounted_run_sdk (haccounted : Accounted (net, running))
    (hfresh : ∀ container ∈ running, container.workloadId ≠ request.workloadId)
    (outcome : RunOutcome) :
    Accounted (commandStep true (net, running) (.run request outcome)) := by
  rcases net.allocateIp_spec request.workloadId with
    ⟨error, hfails⟩ | ⟨ip, after, htakes, hlookup, hothers⟩
  · rw [commandStep_run_sdk hfails]
    exact haccounted
  · have hrelease := lookup_releaseIp_of_fresh haccounted hfresh hothers
    rw [commandStep_run_sdk htakes]
    cases outcome with
    | started containerId name =>
      refine (accounted_started_iff haccounted hothers containerId name).mpr ?_
      rw [hlookup]
      rfl
    | failed message => exact (accounted_congr hrelease).mpr haccounted
    | notExecuted message => exact (accounted_congr hrelease).mpr haccounted

/-- What a run on the command line does, whether or not there was an address. -/
theorem commandStep_run_cli {result : Except String Library.Addresses.Ipv4Addr}
    (hallocates : net.allocateIp request.workloadId = (result, after)) (outcome : RunOutcome) :
    commandStep false (net, running) (.run request outcome) = match outcome with
      | .started containerId name =>
        (after, running ++ [⟨request.workloadId, containerId, name⟩])
      | .failed _ => ((after.releaseIp request.workloadId).2, running)
      | .notExecuted _ => (after, running) := by
  simp only [commandStep, handleWorkloadRun, handleWorkloadRunCli, hallocates, Bool.false_eq_true,
    if_false]
  cases result with
  | ok ip => cases outcome <;> rfl
  | error error => cases outcome <;> rfl

/-- On the command line a run of a fresh workload keeps the addresses accounted for exactly when it
does not start a container without an address or take an address without executing the command. -/
theorem accounted_run_cli_iff (hpooled : net.Pooled) (haccounted : Accounted (net, running))
    (hfresh : ∀ container ∈ running, container.workloadId ≠ request.workloadId)
    (outcome : RunOutcome) :
    Accounted (commandStep false (net, running) (.run request outcome)) ↔
      Follows false (net, running) (.run request outcome) := by
  have hnone := lookup_eq_none_of_fresh haccounted hfresh
  have hexhausted := net.allocateIp_error_iff hpooled request.workloadId
  rcases net.allocateIp_spec request.workloadId with
    ⟨error, hfails⟩ | ⟨ip, after, htakes, hlookup, hothers⟩
  · have hheld : net.HeldByOthers request.workloadId := hexhausted.mp ⟨error, by rw [hfails]⟩
    rw [commandStep_run_cli hfails]
    cases outcome with
    | started containerId name =>
      refine iff_of_false (fun hafter ↦ ?_) fun hfollows ↦ hfollows rfl hheld
      have hholds := (accounted_started_iff haccounted (fun _ _ ↦ rfl) containerId name).mp hafter
      rw [hnone] at hholds
      cases hholds
    | failed message =>
      refine iff_of_true ?_ fun _ ↦ trivial
      exact (accounted_congr (lookup_releaseIp_of_fresh haccounted hfresh fun _ _ ↦ rfl)).mpr
        haccounted
    | notExecuted message => exact iff_of_true haccounted fun _ ↦ hheld
  · have hfree : ¬net.HeldByOthers request.workloadId := by
      intro hheld
      obtain ⟨error, herror⟩ := hexhausted.mpr hheld
      rw [htakes] at herror
      cases herror
    rw [commandStep_run_cli htakes]
    cases outcome with
    | started containerId name =>
      refine iff_of_true ?_ fun _ ↦ hfree
      refine (accounted_started_iff haccounted hothers containerId name).mpr ?_
      rw [hlookup]
      rfl
    | failed message =>
      refine iff_of_true ?_ fun _ ↦ trivial
      exact (accounted_congr (lookup_releaseIp_of_fresh haccounted hfresh hothers)).mpr haccounted
    | notExecuted message =>
      refine iff_of_false (fun hafter ↦ ?_) fun hfollows ↦ hfree (hfollows rfl)
      obtain ⟨container, hcontainer, hsame⟩ :=
        (hafter request.workloadId).mp (by rw [hlookup]; rfl)
      exact hfresh container hcontainer hsame

/-- What a stop does, with the SDK or without: it releases by its target unless it fails. -/
theorem commandStep_stop (sdk : Bool) (net : WorkloadNetManager) (running : List Running)
    (containerId name : Option String) (force : Option Bool) (outcome : StopOutcome) :
    commandStep sdk (net, running) (.stop containerId name force outcome) =
      (containerId.or name).elim (net, running) fun target ↦ match outcome with
        | .stopped container =>
          ((net.releaseByContainer target).2, withoutWorkload container.workloadId running)
        | .notRunning => ((net.releaseByContainer target).2, running)
        | .failed _ => (net, running) := by
  cases htarget : containerId.or name with
  | none => simp only [commandStep, handleWorkloadStop, htarget, Option.elim_none]
  | some target =>
    simp only [commandStep, handleWorkloadStop, htarget, Option.elim_some]
    cases sdk with
    | true => cases outcome <;> rfl
    | false => cases outcome <;> rfl

/-- The containers that are left are those of the other workloads. -/
theorem mem_withoutWorkload {workloadId : String} {container : Running} :
    container ∈ withoutWorkload workloadId running ↔
      container ∈ running ∧ container.workloadId ≠ workloadId := by
  unfold withoutWorkload
  rw [List.mem_filter, decide_eq_true_iff]

/-- When a container was stopped, the addresses are accounted for exactly when the workload of the
container was released. -/
theorem accounted_stopped_iff (haccounted : Accounted (net, running)) {container : Running}
    (hruns : container ∈ running) (target : String) :
    Accounted ((net.releaseByContainer target).2, withoutWorkload container.workloadId running) ↔
      net.releasedKey target = container.workloadId := by
  obtain ⟨hreleased, hkept⟩ := net.releaseByContainer_spec target
  constructor
  · intro hafter
    by_contra hother
    have hholds := (haccounted container.workloadId).mpr ⟨container, hruns, rfl⟩
    rw [← hkept _ (Ne.symm hother)] at hholds
    obtain ⟨left, hleft, hsame⟩ := (hafter container.workloadId).mp hholds
    exact (mem_withoutWorkload.mp hleft).2 hsame
  · intro hkey workloadId
    rw [hkey] at hreleased hkept
    by_cases hsame : workloadId = container.workloadId
    · subst hsame
      refine iff_of_false (by rw [hreleased]; decide) ?_
      rintro ⟨left, hleft, hsame⟩
      exact (mem_withoutWorkload.mp hleft).2 hsame
    · rw [hkept workloadId hsame, haccounted workloadId]
      constructor
      · rintro ⟨left, hleft, rfl⟩
        exact ⟨left, mem_withoutWorkload.mpr ⟨hleft, hsame⟩, rfl⟩
      · rintro ⟨left, hleft, hid⟩
        exact ⟨left, (mem_withoutWorkload.mp hleft).1, hid⟩

/-- When no container was stopped, the addresses are accounted for exactly when nothing was
released. -/
theorem accounted_released_iff (haccounted : Accounted (net, running)) (target : String) :
    Accounted ((net.releaseByContainer target).2, running) ↔
      net.allocatedIps.lookup (net.releasedKey target) = none := by
  obtain ⟨hreleased, hkept⟩ := net.releaseByContainer_spec target
  constructor
  · intro hafter
    rw [← Option.not_isSome_iff_eq_none, haccounted]
    intro hruns
    have hholds := (hafter (net.releasedKey target)).mpr hruns
    rw [hreleased] at hholds
    cases hholds
  · intro hnone
    refine (accounted_congr fun key ↦ ?_).mpr haccounted
    by_cases hkey : key = net.releasedKey target
    · rw [hkey, hreleased, hnone]
    · exact hkept key hkey

/-- A stop keeps the addresses accounted for exactly when it releases the workload whose container
it stops, or nothing when it stops none. -/
theorem accounted_stop_iff (haccounted : Accounted (net, running)) (sdk : Bool)
    {containerId name : Option String} {force : Option Bool} {outcome : StopOutcome}
    (hreliable : Reliable (net, running) (.stop containerId name force outcome)) :
    Accounted (commandStep sdk (net, running) (.stop containerId name force outcome)) ↔
      Follows sdk (net, running) (.stop containerId name force outcome) := by
  simp only [commandStep_stop, Follows]
  cases containerId.or name with
  | none => simpa using haccounted
  | some target =>
    simp only [Option.elim_some, Option.some.injEq, forall_eq']
    cases outcome with
    | stopped container => exact accounted_stopped_iff haccounted hreliable.1 target
    | notRunning => exact accounted_released_iff haccounted target
    | failed message => exact iff_of_true haccounted trivial

/-- From accounted addresses, a command on a reliable host ends with accounted addresses exactly
when the address follows the container. -/
theorem accounted_step_iff {node : WorkloadNetManager × List Running} (hpooled : node.1.Pooled)
    (haccounted : Accounted node) (sdk : Bool) {command : Command}
    (hreliable : Reliable node command) :
    Accounted (commandStep sdk node command) ↔ Follows sdk node command := by
  obtain ⟨net, running⟩ := node
  cases command with
  | run request outcome =>
    cases sdk with
    | true =>
      exact iff_of_true (accounted_run_sdk haccounted hreliable outcome) fun hcli ↦ by cases hcli
    | false => exact accounted_run_cli_iff hpooled haccounted hreliable outcome
  | stop containerId name force outcome => exact accounted_stop_iff haccounted sdk hreliable

/-! ### Runs -/

/-- The manager after a run is that of the allocation, with its container recorded, or of its
release. -/
theorem pooled_run {sdk : Bool} (hpooled : net.Pooled) (outcome : RunOutcome) :
    (commandStep sdk (net, running) (.run request outcome)).1.Pooled := by
  have hafter := hpooled.allocateIp request.workloadId
  rcases hallocates : net.allocateIp request.workloadId with ⟨result, after⟩
  rw [hallocates] at hafter
  cases sdk with
  | false =>
    rw [commandStep_run_cli hallocates]
    cases outcome with
    | started containerId name => exact hafter
    | failed message => exact hafter.releaseIp request.workloadId
    | notExecuted message => exact hafter
  | true =>
    rw [commandStep_run_sdk hallocates]
    cases result with
    | error error => exact hafter
    | ok ip =>
      cases outcome with
      | started containerId name => exact hafter.withContainers _
      | failed message => exact hafter.releaseIp request.workloadId
      | notExecuted message => exact hafter.releaseIp request.workloadId

/-- Every command keeps the partition of the addresses. -/
theorem pooled_commandStep {node : WorkloadNetManager × List Running} (hpooled : node.1.Pooled)
    (sdk : Bool) (command : Command) : (commandStep sdk node command).1.Pooled := by
  obtain ⟨net, running⟩ := node
  cases command with
  | run request outcome => exact pooled_run hpooled outcome
  | stop containerId name force outcome =>
    rw [commandStep_stop]
    cases containerId.or name with
    | none => exact hpooled
    | some target =>
      simp only [Option.elim_some]
      cases outcome with
      | stopped container => exact hpooled.releaseByContainer target
      | notRunning => exact hpooled.releaseByContainer target
      | failed message => exact hpooled

/-- The workload of every running container is recorded under the identifier that was reported. -/
def Mapped (node : WorkloadNetManager × List Running) : Prop :=
  ∀ container ∈ node.2,
    node.1.containerToWorkload.lookup container.short = some container.workloadId

/-- A container is started under an identifier whose short form no running one has, and stops name
running containers by the identifiers that were reported, and stop these. -/
def NamedById (node : WorkloadNetManager × List Running) : Command → Prop
  | .run request (.started containerId name) => ∀ container ∈ node.2,
      container.short ≠ Running.short ⟨request.workloadId, containerId, name⟩
  | .run _ _ => True
  | .stop containerId _ _ outcome =>
      ∃ container ∈ node.2, containerId = some container.short ∧ outcome = .stopped container

/-- With the SDK, a command that names containers by their identifiers follows them. -/
theorem follows_of_namedById {node : WorkloadNetManager × List Running} (hmapped : Mapped node)
    {command : Command} (hnamed : NamedById node command) : Follows true node command := by
  cases command with
  | run request outcome => exact fun hcli ↦ by cases hcli
  | stop containerId name force outcome =>
    obtain ⟨container, hruns, rfl, rfl⟩ := hnamed
    intro target htarget
    rw [Option.some_or, Option.some_inj] at htarget
    subst htarget
    simp only [WorkloadNetManager.releasedKey, hmapped container hruns, Option.getD_some]

/-- Only the recorded containers matter. -/
theorem mapped_congr (hsame : after.containerToWorkload = net.containerToWorkload) :
    Mapped (after, running) ↔ Mapped (net, running) := by
  unfold Mapped
  simp only [hsame]

/-- A run with the SDK records its container. -/
theorem mapped_run (hmapped : Mapped (net, running)) {outcome : RunOutcome}
    (hnamed : NamedById (net, running) (.run request outcome)) :
    Mapped (commandStep true (net, running) (.run request outcome)) := by
  have hsame := net.containerToWorkload_allocateIp request.workloadId
  rcases hallocates : net.allocateIp request.workloadId with ⟨result, after⟩
  rw [hallocates] at hsame
  have hreleased : (after.releaseIp request.workloadId).2.containerToWorkload =
      net.containerToWorkload := (after.containerToWorkload_releaseIp _).trans hsame
  rw [commandStep_run_sdk hallocates]
  cases result with
  | error error => exact (mapped_congr hsame).mpr hmapped
  | ok ip =>
    cases outcome with
    | started containerId name =>
      intro container hcontainer
      change (after.containerToWorkload.insert (Running.short ⟨request.workloadId, containerId,
        name⟩) request.workloadId).lookup _ = _
      rcases List.mem_append.mp hcontainer with hold | hnew
      · rw [AList.lookup_insert_ne (hnamed container hold), hsame]
        exact hmapped container hold
      · obtain rfl := List.mem_singleton.mp hnew
        exact AList.lookup_insert _
    | failed message => exact (mapped_congr hreleased).mpr hmapped
    | notExecuted message => exact (mapped_congr hreleased).mpr hmapped

/-- A stop that names its container by the identifier keeps the others recorded. -/
theorem mapped_stop (hmapped : Mapped (net, running)) {containerId name : Option String}
    {force : Option Bool} {outcome : StopOutcome}
    (hnamed : NamedById (net, running) (.stop containerId name force outcome)) :
    Mapped (commandStep true (net, running) (.stop containerId name force outcome)) := by
  obtain ⟨container, hruns, rfl, rfl⟩ := hnamed
  have hworkload := hmapped container hruns
  rw [commandStep_stop, Option.some_or, Option.elim_some]
  intro left hleft
  obtain ⟨hleft, hother⟩ := mem_withoutWorkload.mp hleft
  have hne : left.short ≠ container.short := by
    intro hsame
    have hleftWorkload := hmapped left hleft
    rw [hsame, hworkload] at hleftWorkload
    exact hother (Option.some_inj.mp hleftWorkload).symm
  unfold WorkloadNetManager.releaseByContainer
  simp only [hworkload]
  rw [WorkloadNetManager.containerToWorkload_releaseIp, AList.lookup_erase_ne hne]
  exact hmapped left hleft

/-- With the SDK, a command that names containers by their identifiers keeps them recorded. -/
theorem mapped_commandStep {node : WorkloadNetManager × List Running} (hmapped : Mapped node)
    {command : Command} (hnamed : NamedById node command) :
    Mapped (commandStep true node command) := by
  obtain ⟨net, running⟩ := node
  cases command with
  | run request outcome => exact mapped_run hmapped hnamed
  | stop containerId name force outcome => exact mapped_stop hmapped hnamed

/-- On a node with networking, in every run on a reliable host: the addresses are at all times held
exactly by the workloads whose container was started and not yet stopped, if and only if at every
command the address follows the container. With the SDK and stops that name containers by the
identifiers that it reported this is so in every run. -/
theorem addresses_follow_containers_iff (sdk : Bool) (workloadSubnet : Library.Addresses.Ipv4Net)
    (start : WorkloadNetManager) (hinit : WorkloadNetManager.init workloadSubnet = .ok start)
    (commands : List Command)
    (hreliable : Throughout (commandStep sdk) Reliable (start, []) commands) :
    (Always (commandStep sdk) Accounted (start, []) commands ↔
        Throughout (commandStep sdk) (Follows sdk) (start, []) commands) ∧
      (sdk = true → Throughout (commandStep sdk) NamedById (start, []) commands →
        Always (commandStep sdk) Accounted (start, []) commands) := by
  have hpooled : Always (commandStep sdk) (fun node ↦ node.1.Pooled) (start, []) commands := by
    apply always_of_step
    · exact WorkloadNetManager.pooled_init hinit
    · intro node command hbefore
      exact pooled_commandStep hbefore sdk command
  have hstart : Accounted (start, []) := by
    unfold WorkloadNetManager.init at hinit
    split_ifs at hinit
    obtain rfl := Except.ok.inj hinit
    exact fun workloadId ↦ iff_of_false (by simp [AList.lookup_empty]) (by simp)
  have hiff : Always (commandStep sdk) Accounted (start, []) commands ↔
      Throughout (commandStep sdk) (Follows sdk) (start, []) commands :=
    always_iff_throughout_along hstart fun done command hdone hgood ↦
      accounted_step_iff (hpooled done (prefix_of_concat hdone)) hgood sdk
        (hreliable done command hdone)
  refine ⟨hiff, fun hsdk hnamed ↦ hiff.mpr ?_⟩
  subst hsdk
  have hmapped : Always (commandStep true) Mapped (start, []) commands :=
    always_of_throughout (fun container hcontainer ↦ absurd hcontainer List.not_mem_nil)
      (fun _ _ hbefore hcommand ↦ mapped_commandStep hbefore hcommand) hnamed
  exact fun done command hdone ↦ follows_of_namedById (hmapped done (prefix_of_concat hdone))
    (hnamed done command hdone)

/-- The container of a workload. -/
def runningWeb (name : String) : Running :=
  ⟨"workload", "4f1d2c3b5a69788796a5b4c3d2e1f00f1e2d3c4b5a69788796a5b4c3d2e1f00f", name⟩

/-- A workload is run in a container and stopped as given. -/
def ranAndStopped (container : Running) (containerId name : Option String) : List Command :=
  [.run ⟨"workload", "nginx", some "web", .new "nginx",
      ["run", "-d", "--name", "web", "--label", "managed-by=clawbernetes", "--label",
        "workload-id=workload"], ["nginx"]⟩ (.started container.containerId container.name),
    .stop containerId name none (.stopped container)]

/-- The manager of a subnet before any command. -/
def freshNet : WorkloadNetManager :=
  ⟨⟨⟨10, 200, 5, 0⟩, 24, Library.Addresses.Ipv4Net.twentyFour_le⟩, ∅, ∅, 2, []⟩

/-- The container is the only one, and the target names it. -/
theorem reliable_ranAndStopped (sdk : Bool) {name : String} {containerId byName : Option String}
    (hnamed : ∀ target, containerId.or byName = some target → (runningWeb name).Named target) :
    Throughout (commandStep sdk) Reliable (freshNet, [])
      (ranAndStopped (runningWeb name) containerId byName) := by
  simp only [ranAndStopped, throughout_cons, Reliable]
  refine ⟨fun container hcontainer ↦ absurd hcontainer List.not_mem_nil, ⟨?_, hnamed⟩,
    throughout_nil⟩
  cases sdk <;> exact List.mem_singleton.mpr rfl

/-- With the SDK and a stop by the reported identifier the address comes back. -/
theorem sdk_address_returned :
    let commands := ranAndStopped (runningWeb "claw-1") (some "4f1d2c3b5a69") none
    Always (commandStep true) Accounted (freshNet, []) commands ∧
      (commands.foldl (commandStep true) (freshNet, [])).1.freePool = [2] := by
  intro commands
  have hreliable : Throughout (commandStep true) Reliable (freshNet, []) commands := by
    refine reliable_ranAndStopped true fun target htarget ↦ .inr ?_
    obtain rfl := Option.some.inj htarget
    decide
  have hnamed : Throughout (commandStep true) NamedById (freshNet, []) commands := by
    simp only [commands, ranAndStopped, throughout_cons, NamedById]
    exact ⟨fun container hcontainer ↦ absurd hcontainer List.not_mem_nil,
      ⟨runningWeb "claw-1", List.mem_singleton.mpr rfl, rfl, rfl⟩, throughout_nil⟩
  exact ⟨(addresses_follow_containers_iff true ⟨⟨10, 200, 5, 0⟩, 24, by decide⟩ freshNet rfl
    commands hreliable).2 rfl hnamed, rfl⟩

/-- An address without a running container is not accounted for. -/
theorem not_always_of_kept {sdk : Bool} {commands : List Command} (workloadId : String)
    (hstopped : (commands.foldl (commandStep sdk) (freshNet, [])).2 = [])
    (hkept : ((commands.foldl (commandStep sdk) (freshNet, [])).1.allocatedIps.lookup
      workloadId).isSome) : ¬ Always (commandStep sdk) Accounted (freshNet, []) commands := by
  intro halways
  obtain ⟨container, hcontainer, -⟩ := (halways.last workloadId).mp hkept
  rw [hstopped] at hcontainer
  exact absurd hcontainer List.not_mem_nil

/-- The daemon behaves as it should in the run, and an address is kept all the same. -/
def Leaks (sdk : Bool) (commands : List Command) : Prop :=
  Throughout (commandStep sdk) Reliable (freshNet, []) commands ∧
    ¬ Always (commandStep sdk) Accounted (freshNet, []) commands

/-- On the command line the address stays allocated when the container is stopped by the identifier
that was printed or by its name, and with the SDK when it is stopped by its whole identifier or by
its name. -/
theorem stopped_address_kept :
    let printed := (runningWeb "").containerId
    let stopped := (ranAndStopped (runningWeb "web") (some printed) none).foldl (commandStep false)
      (freshNet, [])
    (stopped.2 = [] ∧ stopped.1.allocatedIps.lookup "workload" = some ⟨10, 200, 5, 2⟩) ∧
    Leaks false (ranAndStopped (runningWeb "web") (some printed) none) ∧
    Leaks false (ranAndStopped (runningWeb "web") none (some "web")) ∧
    Leaks true (ranAndStopped (runningWeb "claw-1") (some printed) none) ∧
    Leaks true (ranAndStopped (runningWeb "claw-1") none (some "claw-1")) := by
  intro printed stopped
  have hnamed : ∀ {name target : String},
      (runningWeb name).Named target → ∀ other, some target = some other →
        (runningWeb name).Named other := by
    rintro name target htarget other ⟨⟩
    exact htarget
  have hprinted : ∀ name, (runningWeb name).Named printed := fun _ ↦ .inr (List.prefix_refl _)
  refine ⟨⟨rfl, rfl⟩, ⟨?_, ?_⟩, ⟨?_, ?_⟩, ⟨?_, ?_⟩, ⟨?_, ?_⟩⟩
  · exact reliable_ranAndStopped false (hnamed (hprinted "web"))
  · exact not_always_of_kept "workload" rfl rfl
  · exact reliable_ranAndStopped false (hnamed (.inl rfl))
  · exact not_always_of_kept "workload" rfl rfl
  · exact reliable_ranAndStopped true (hnamed (hprinted "claw-1"))
  · exact not_always_of_kept "workload" rfl rfl
  · exact reliable_ranAndStopped true (hnamed (.inl rfl))
  · exact not_always_of_kept "workload" rfl rfl

end Clawbernetes.ClawNode
