import Clawbernetes.ClawCompute.DockerRuntime
import Clawbernetes.ClawNode.Handlers

/-!
# Containers in Docker

`DockerContainerRuntime` of `docker.rs`: the specification of a container is translated to a
configuration, for which a container is created and started. Started containers are tracked under
the short form of their identifier, by which the callers know them.

`workload_reaches_docker` follows a workload of the gateway to the request that the daemon gets.
-/

set_option autoImplicit false
set_option relaxedAutoImplicit false

namespace Clawbernetes.ClawNode

open Library.Bytes Library.FiniteTable
open ClawCompute (ContainerConfig ContainerId CreateRequest DockerRuntime HostConfig)
open ClawProto (WorkloadSpec)
open MoltAttestation (Uuid)

/-! ### The configuration of a specification -/

/-- The ports of a list of mappings, by the port of the container. A later mapping of a port
replaces an earlier one. -/
def portsOf (mappings : List PortMapping) : Table UInt16 UInt16 :=
  collect (mappings.map fun mapping ↦ (mapping.containerPort, mapping.hostPort))

/-- `DockerContainerRuntime::spec_to_config`, with the random identifier of the name. Each of its
statements sets one field, which keeps its default where there is no value for it. The address and
the DNS servers of the specification are not read. -/
def specToConfig (uuid : Uuid) (spec : ContainerSpec) : ContainerConfig :=
  { ContainerConfig.new ("claw-" ++ uuid.display) spec.image with
    command := spec.command
    env := refill spec.env
    workingDir := spec.workingDir
    memory := spec.memoryLimit.elim (.limitBytes 0) .limitBytes
    cpu := spec.cpuLimit.elim .default .cpus
    gpu := if spec.gpuIds ≠ [] then .ofDevices (spec.gpuIds.map .byIndex) else .none
    labels := refill spec.labels
    networkMode := spec.network.elim .bridge .custom
    ports := portsOf spec.portMappings }

/-- The hexadecimal digits are allowed in names. -/
theorem isNameCharacter_digitChar :
    ∀ digit < 16, ClawCompute.isNameCharacter (Nat.digitChar digit) := by decide

/-- The name of a container has allowed characters only. -/
theorem name_allowed (uuid : Uuid) :
    ("claw-" ++ uuid.display).toList.all ClawCompute.isNameCharacter := by
  rw [List.all_eq_true]
  intro character hcharacter
  have hhex (part : List UInt8) (hmem : character ∈ part.flatMap fun byte ↦
      [Nat.digitChar (byte.toNat / 16), Nat.digitChar (byte.toNat % 16)]) :
      ClawCompute.isNameCharacter character := by
    obtain ⟨byte, -, hmem⟩ := List.mem_flatMap.mp hmem
    have hbyte := byte.toNat_lt
    rcases List.mem_pair.mp hmem with rfl | rfl
    · exact isNameCharacter_digitChar _ (by omega)
    · exact isNameCharacter_digitChar _ (by omega)
  unfold Uuid.display at hcharacter
  simp only [String.intercalate_cons_cons, String.intercalate_singleton, String.toList_append,
    String.toList_ofList, List.mem_append] at hcharacter
  have hlabel := List.all_eq_true.mp (rfl : "claw-".toList.all ClawCompute.isNameCharacter = true)
  have hhyphen := List.all_eq_true.mp (rfl : "-".toList.all ClawCompute.isNameCharacter = true)
  rcases hcharacter with
    hmem | (hmem | hmem) | (hmem | hmem) | (hmem | hmem) | (hmem | hmem) | hmem
  · exact hlabel character hmem
  · exact hhex _ hmem
  · exact hhyphen character hmem
  · exact hhex _ hmem
  · exact hhyphen character hmem
  · exact hhex _ hmem
  · exact hhyphen character hmem
  · exact hhex _ hmem
  · exact hhyphen character hmem
  · exact hhex _ hmem

/-- A specification is translated to an accepted configuration exactly when it has an image. -/
theorem validate_specToConfig_iff (uuid : Uuid) (spec : ContainerSpec) :
    (specToConfig uuid spec).validate = .ok () ↔ spec.image ≠ "" := by
  rw [ContainerConfig.validate_eq_ok_iff]
  have hname : "claw-" ++ uuid.display ≠ "" := by
    intro hempty
    have hlength := congrArg String.length hempty
    rw [String.length_append] at hlength
    exact absurd (Nat.eq_zero_of_add_eq_zero_right hlength) (by decide)
  have hreservation : (specToConfig uuid spec).memory.reservation = 0 := by
    unfold specToConfig
    cases spec.memoryLimit <;> rfl
  constructor
  · exact fun hvalid ↦ hvalid.2.1
  · intro himage
    refine ⟨hname, himage, name_allowed uuid, fun _ ↦ ?_⟩
    rw [hreservation]
    exact UInt64.zero_le

/-! ### The runtime -/

namespace DockerContainerRuntime

variable {World : Type*}

/-- The world of the daemon and the tracked containers, of which the identifiers, the images and the
GPUs are kept. -/
abbrev Tracking (World : Type*) := World × Table String Container

/-- `DockerContainerRuntime::create`. -/
def create (runtime : DockerRuntime World) (uuid : Uuid) (spec : ContainerSpec)
    (node : Tracking World) : Except NodeError Container × Tracking World :=
  let (daemon, containers) := node
  match runtime.create (specToConfig uuid spec) daemon with
  | (.error error, daemon) =>
    (.error (.containerRuntime ("create failed: " ++ error.display)), daemon, containers)
  | (.ok containerId, daemon) =>
    match runtime.start containerId daemon with
    | (.error error, daemon) =>
      (.error (.containerRuntime ("start failed: " ++ error.display)), daemon, containers)
    | (.ok (), daemon) =>
      let container : Container := ⟨containerId.asStr, spec.image, spec.gpuIds⟩
      (.ok { container with id := containerId.short }, daemon,
        containers.insert containerId.short container)

/-- `DockerContainerRuntime::stop`. -/
def stop (runtime : DockerRuntime World) (containerId : String) (timeoutSecs : UInt32)
    (node : Tracking World) : Except NodeError Unit × Tracking World :=
  let (daemon, containers) := node
  match ContainerId.new containerId with
  | .error error =>
    (.error (.containerRuntime ("invalid container ID: " ++ error.display)), daemon, containers)
  | .ok id =>
    match runtime.stop id (some timeoutSecs) daemon with
    | (.error error, daemon) =>
      (.error (.containerRuntime ("stop failed: " ++ error.display)), daemon, containers)
    | (.ok (), daemon) => (.ok (), daemon, containers)

/-- `DockerContainerRuntime::remove`. The removal is forced and leaves the volumes. -/
def remove (runtime : DockerRuntime World) (containerId : String) (node : Tracking World) :
    Except NodeError Unit × Tracking World :=
  let (daemon, containers) := node
  match ContainerId.new containerId with
  | .error error =>
    (.error (.containerRuntime ("invalid container ID: " ++ error.display)), daemon, containers)
  | .ok id =>
    match runtime.remove id true false daemon with
    | (.error error, daemon) =>
      (.error (.containerRuntime ("remove failed: " ++ error.display)), daemon, containers)
    | (.ok (), daemon) => (.ok (), daemon, containers.erase containerId)

/-- `DockerContainerRuntime` as the runtime of a node. -/
def containerRuntime (runtime : DockerRuntime World) (uuid : Uuid) :
    ContainerRuntime (Tracking World) where
  create := create runtime uuid
  stop := stop runtime
  remove := remove runtime

end DockerContainerRuntime

/-! ### From the workload to the request -/

/-- A configuration has the image, the command, the variables, the memory and the CPUs of a workload
and the GPUs that were handed out for it. -/
structure Configures (spec : WorkloadSpec) (gpuIds : List UInt32) (config : ContainerConfig) :
    Prop where
  image : config.image = spec.image
  command : config.command = if spec.command = [] then none else some spec.command
  entries : config.env.entries.Perm spec.env.entries
  memory : config.memory.limit.toNat = spec.memoryMb.toNat * 2 ^ 20
  nanoCpus : config.cpu.nanoCpus.toNat = spec.cpuCores.toNat * 10 ^ 9
  gpu : config.gpu = if gpuIds ≠ [] then .ofDevices (gpuIds.map .byIndex) else .none

/-- A request to create a container, with its environment and the configuration of the host, asks
for the image, the command, the variables, the memory and the CPUs of a workload and for the GPUs
that were handed out for it. -/
structure Carries (spec : WorkloadSpec) (gpuIds : List UInt32) (request : CreateRequest)
    (env : List String) (host : HostConfig) : Prop where
  env_eq : request.config.env = some env
  host_eq : request.config.hostConfig = some host
  image : request.config.image = some spec.image
  command : request.config.cmd = if spec.command = [] then none else some spec.command
  entries : (env.map (splitOnce '=')).Perm
    (spec.env.entries.map fun entry ↦ some (entry.1, entry.2))
  memory : host.memory.map Int64.toInt =
    if spec.memoryMb.toNat = 0 then none else some (spec.memoryMb.toNat * 2 ^ 20 : ℤ)
  nanoCpus : host.nanoCpus.map Int64.toInt =
    if spec.cpuCores.toNat = 0 then none else some (spec.cpuCores.toNat * 10 ^ 9 : ℤ)
  noGpus : host.deviceRequests = none ↔ gpuIds = []
  gpus : gpuIds ≠ [] → ∃ devices, host.deviceRequests = some [devices] ∧ devices.count = none ∧
    devices.deviceIds = some (gpuIds.map fun gpu ↦ toString gpu.toNat)

variable {spec : WorkloadSpec} {gpuIds : List UInt32}

/-- The configuration has the memory of an accepted workload in bytes. -/
theorem toNat_limit_specToConfig (hvalid : spec.validate = .ok ()) (workloadId uuid : Uuid) :
    (specToConfig uuid (containerSpec workloadId spec gpuIds)).memory.limit.toNat =
      spec.memoryMb.toNat * 2 ^ 20 := by
  have hbytes := toNat_memoryLimit hvalid
  rw [containerSpec_eq]
  by_cases hpositive : 0 < spec.memoryMb
  · simp only [specToConfig, if_pos hpositive, Option.elim_some,
      ClawCompute.MemoryConfig.limitBytes]
    exact hbytes.trans (Nat.mul_assoc _ 1024 1024)
  · have hzero : spec.memoryMb = 0 := UInt64.le_zero_iff.mp (UInt64.not_lt.mp hpositive)
    simp only [specToConfig, if_neg hpositive, Option.elim_none,
      ClawCompute.MemoryConfig.limitBytes]
    rw [hzero]
    rfl

/-- An accepted workload has at most 1024 CPUs. -/
theorem toNat_cpuCores_le (hvalid : spec.validate = .ok ()) : spec.cpuCores.toNat ≤ 1024 :=
  UInt32.le_iff_toNat_le.mp (ClawProto.validateResources_eq_ok_iff.mp
    (WorkloadSpec.validate_eq_ok_iff.mp hvalid).2.1).2.1

/-- An accepted workload has at most 1024000 MB. -/
theorem toNat_memoryMb_le (hvalid : spec.validate = .ok ()) : spec.memoryMb.toNat ≤ 1024000 :=
  UInt64.le_iff_toNat_le.mp (ClawProto.validateResources_eq_ok_iff.mp
    (WorkloadSpec.validate_eq_ok_iff.mp hvalid).2.1).1

/-- The configuration has the CPUs of an accepted workload. -/
theorem toNat_nanoCpus_specToConfig (hvalid : spec.validate = .ok ()) (workloadId uuid : Uuid) :
    (specToConfig uuid (containerSpec workloadId spec gpuIds)).cpu.nanoCpus.toNat =
      spec.cpuCores.toNat * 10 ^ 9 := by
  have hcores := toNat_cpuCores_le hvalid
  rw [containerSpec_eq]
  by_cases hpositive : 0 < spec.cpuCores
  · simp only [specToConfig, if_pos hpositive, Option.elim_some, ClawCompute.CpuConfig.cpus]
    have hproduct : (spec.cpuCores.toNat : ℚ) * 1000000000 =
        ((spec.cpuCores.toNat * 10 ^ 9 : ℕ) : ℚ) := by
      push_cast
      norm_num
    rw [hproduct, Library.Rounding.roundBinary_natCast (by omega),
      ClawCompute.toNat_saturatingU64 (by omega)]
  · have hzero : spec.cpuCores = 0 := UInt32.le_zero_iff.mp (UInt32.not_lt.mp hpositive)
    simp only [specToConfig, if_neg hpositive, Option.elim_none, ClawCompute.CpuConfig.default]
    rw [hzero]
    rfl

/-- The container of an accepted workload is configured for it. -/
theorem configures_specToConfig (hvalid : spec.validate = .ok ()) (workloadId uuid : Uuid) :
    Configures spec gpuIds (specToConfig uuid (containerSpec workloadId spec gpuIds)) where
  image := by
    rw [containerSpec_eq]
    rfl
  command := by
    rw [containerSpec_eq]
    exact ite_not ..
  entries := by
    rw [containerSpec_eq]
    exact (perm_entries_refill _).trans (perm_entries_refill _)
  memory := toNat_limit_specToConfig hvalid workloadId uuid
  nanoCpus := toNat_nanoCpus_specToConfig hvalid workloadId uuid
  gpu := by
    rw [containerSpec_eq]
    rfl

/-- The variables of an accepted workload are read back from the texts that they are flattened
to. -/
theorem perm_splitOnce_env (hvalid : spec.validate = .ok ())
    {env : Table String String} (hperm : env.entries.Perm spec.env.entries) :
    ((env.entries.map fun entry ↦ entry.1 ++ "=" ++ entry.2).map (splitOnce '=')).Perm
      (spec.env.entries.map fun entry ↦ some (entry.1, entry.2)) := by
  have hkeys := (WorkloadSpec.validate_eq_ok_iff.mp hvalid).2.2.1
  have hsplit : ∀ entry ∈ spec.env.entries,
      splitOnce '=' (entry.1 ++ "=" ++ entry.2) = some (entry.1, entry.2) := by
    intro entry hentry
    apply splitOnce_join
    intro hequals
    have hkey : entry.1 ∈ spec.env.keys := List.mem_map_of_mem hentry
    exact absurd (ClawProto.keyCharacter_of_validateEnvKey (hkeys entry.1 hkey) hequals) (by decide)
  rw [List.map_map]
  exact (hperm.map _).trans (List.Perm.of_eq (List.map_congr_left hsplit))

/-- The devices that are asked for by their indices. -/
theorem deviceIds_byIndex (hgpus : gpuIds ≠ []) :
    (ClawCompute.deviceRequest (.ofDevices (gpuIds.map .byIndex))).count = none ∧
      (ClawCompute.deviceRequest (.ofDevices (gpuIds.map .byIndex))).deviceIds =
        some (gpuIds.map fun gpu ↦ toString gpu.toNat) := by
  have hdevices : gpuIds.map ClawCompute.GpuDevice.byIndex ≠ [] :=
    fun hempty ↦ hgpus (List.map_eq_nil_iff.mp hempty)
  refine ⟨if_neg hdevices, (if_neg hdevices).trans ?_⟩
  exact congrArg some List.map_map

/-- The request that is made of a configuration for an accepted workload carries the workload. -/
theorem Configures.carries {config : ContainerConfig} (hconfigures : Configures spec gpuIds config)
    (hvalid : spec.validate = .ok ()) (gpuRuntime : Option String) :
    Carries spec gpuIds (ClawCompute.createRequest gpuRuntime config)
      (config.env.entries.map fun entry ↦ entry.1 ++ "=" ++ entry.2)
      (ClawCompute.buildHostConfig gpuRuntime config) where
  env_eq := rfl
  host_eq := rfl
  image := congrArg some hconfigures.image
  command := hconfigures.command
  entries := perm_splitOnce_env hvalid hconfigures.entries
  memory := by
    have hmemory := toNat_memoryMb_le hvalid
    rw [ClawCompute.memory_buildHostConfig, ClawCompute.toInt_positive
      (by rw [hconfigures.memory]; omega), hconfigures.memory]
    push_cast
    simp
  nanoCpus := by
    have hcores := toNat_cpuCores_le hvalid
    rw [ClawCompute.nanoCpus_buildHostConfig, ClawCompute.toInt_positive
      (by rw [hconfigures.nanoCpus]; omega), hconfigures.nanoCpus]
    push_cast
    simp
  noGpus := by
    rw [ClawCompute.deviceRequests_buildHostConfig, hconfigures.gpu]
    by_cases hgpus : gpuIds = []
    · rw [if_neg (not_not.mpr hgpus)]
      exact iff_of_true rfl hgpus
    · rw [if_pos hgpus]
      exact iff_of_false (Option.some_ne_none _) hgpus
  gpus := by
    intro hgpus
    refine ⟨_, ?_, deviceIds_byIndex hgpus⟩
    rw [ClawCompute.deviceRequests_buildHostConfig, hconfigures.gpu, if_pos hgpus]
    rfl

/-- For every accepted workload and all GPUs that are handed out for it, the configuration of its
container passes its checks, and the request that is made of it carries the workload. -/
theorem workload_reaches_docker (spec : WorkloadSpec) (hvalid : spec.validate = .ok ())
    (gpuIds : List UInt32) (workloadId uuid : Uuid) (gpuRuntime : Option String) :
    let config := specToConfig uuid (containerSpec workloadId spec gpuIds)
    config.validate = .ok () ∧ ∃ env host,
      Carries spec gpuIds (ClawCompute.createRequest gpuRuntime config) env host := by
  have himage : (containerSpec workloadId spec gpuIds).image = spec.image := by
    rw [containerSpec_eq]
    rfl
  refine ⟨(validate_specToConfig_iff uuid _).mpr ?_, _, _,
    (configures_specToConfig hvalid workloadId uuid).carries hvalid gpuRuntime⟩
  rw [himage]
  exact ClawProto.ne_empty_of_validateImage (WorkloadSpec.validate_eq_ok_iff.mp hvalid).1

/-- A workload with a command, a variable whose value has an equals sign, and two GPUs. -/
def trainer : WorkloadSpec :=
  ⟨"pytorch", ["python", "train.py"], AList.insert "OPTIONS" "depth=4" ∅, 2, 512, 4, ⟨none, none⟩⟩

/-- The workload reaches the daemon with the first and the fourth GPU. -/
theorem workload_reaches_docker_trainer :
    trainer.validate = .ok () ∧
      let config := specToConfig (Uuid.ofByte 2) (containerSpec (Uuid.ofByte 1) trainer [0, 3])
      config.validate = .ok () ∧ ∃ env host,
        Carries trainer [0, 3] (ClawCompute.createRequest (some "nvidia") config) env host :=
  ⟨by decide, workload_reaches_docker trainer (by decide) [0, 3] (Uuid.ofByte 1) (Uuid.ofByte 2)
    (some "nvidia")⟩

end Clawbernetes.ClawNode
