import Clawbernetes.ClawCompute.ContainerConfig

/-!
# The Docker runtime

`DockerRuntime` of `docker.rs`: a configuration that passes its checks is turned into the request to
create a container, which the daemon answers. `DockerClient` stands for the client of the daemon,
and the records of its requests have the fields that the runtime sets, those of the attachment to a
network and the DNS servers, which it leaves at their default.
-/

set_option autoImplicit false
set_option relaxedAutoImplicit false

namespace Clawbernetes.ClawCompute

open Library.FiniteTable

/-! ### The requests -/

/-- `PortBinding`. -/
structure PortBinding where
  hostIp : Option String
  hostPort : Option String
  deriving DecidableEq

/-- `DeviceRequest`. -/
structure DeviceRequest where
  driver : Option String := none
  count : Option Int64 := none
  deviceIds : Option (List String) := none
  capabilities : Option (List (List String)) := none
  options : Option (Table String String) := none

/-- `Mount`. -/
structure Mount where
  target : Option String
  source : Option String
  typ : Option MountType
  readOnly : Option Bool
  deriving DecidableEq

/-- `RestartPolicyNameEnum`. -/
inductive RestartPolicyName where
  | no
  | always
  | onFailure
  | unlessStopped
  deriving DecidableEq

/-- `RestartPolicy` of the client. -/
structure BollardRestartPolicy where
  name : Option RestartPolicyName
  maximumRetryCount : Option Int64
  deriving DecidableEq

/-- `HostConfig`. -/
structure HostConfig where
  memory : Option Int64 := none
  memoryReservation : Option Int64 := none
  memorySwap : Option Int64 := none
  memorySwappiness : Option Int64 := none
  oomKillDisable : Option Bool := none
  cpuShares : Option Int64 := none
  cpuQuota : Option Int64 := none
  cpuPeriod : Option Int64 := none
  cpusetCpus : Option String := none
  cpusetMems : Option String := none
  nanoCpus : Option Int64 := none
  networkMode : Option String := none
  mounts : Option (List Mount) := none
  portBindings : Option (Table String (Option (List PortBinding))) := none
  restartPolicy : Option BollardRestartPolicy := none
  privileged : Option Bool := none
  autoRemove : Option Bool := none
  deviceRequests : Option (List DeviceRequest) := none
  runtime : Option String := none
  dns : Option (List String) := none

/-- `EndpointSettings`, by the address that its IPAM configuration asks for. -/
structure EndpointSettings where
  ipv4Address : Option String
  deriving DecidableEq

/-- `Config`, with the endpoints of its networking configuration. -/
structure Config where
  image : Option String := none
  cmd : Option (List String) := none
  entrypoint : Option (List String) := none
  env : Option (List String) := none
  workingDir : Option String := none
  user : Option String := none
  hostname : Option String := none
  labels : Option (Table String String) := none
  exposedPorts : Option (Table String (Table Unit Unit)) := none
  hostConfig : Option HostConfig := none
  networkingConfig : Option (Table String EndpointSettings) := none

/-- A request to create a container: the name among its options, and its configuration. -/
structure CreateRequest where
  name : String
  config : Config

/-- `bollard::errors::Error`: the daemon answered with a status, or something else went wrong. -/
inductive DockerError where
  | responseServerError (statusCode : UInt16) (message : String)
  | other (text : String)
  deriving DecidableEq

/-- The display of an error. -/
def DockerError.display : DockerError → String
  | .responseServerError statusCode message =>
    "Docker responded with status code " ++ toString statusCode.toNat ++ ": " ++ message
  | .other text => text

/-- Whether the daemon answered with a status. -/
def DockerError.hasStatus (error : DockerError) (status : UInt16) : Bool :=
  match error with
  | .responseServerError statusCode _ => statusCode = status
  | .other _ => false

/-- The calls of the client that create, start, stop and remove containers. A stop has a timeout,
and a removal may be forced and may remove the volumes. -/
structure DockerClient (World : Type*) where
  createContainer : CreateRequest → World → Except DockerError String × World
  startContainer : String → World → Except DockerError Unit × World
  stopContainer : String → Int64 → World → Except DockerError Unit × World
  removeContainer : String → Bool → Bool → World → Except DockerError Unit × World

/-- `DockerRuntime`. -/
structure DockerRuntime (World : Type*) where
  client : DockerClient World
  gpuRuntime : Option String

/-! ### From the configuration to the request -/

/-- `DockerRuntime::volume_to_mount`. -/
def volumeToMount (volume : VolumeMount) : Mount :=
  ⟨some volume.target, some volume.source, some volume.mountType, some volume.readOnly⟩

/-- `DockerRuntime::restart_policy_to_bollard`. -/
def restartPolicyToBollard : RestartPolicy → BollardRestartPolicy
  | .no => ⟨some .no, none⟩
  | .always => ⟨some .always, none⟩
  | .onFailure maxRetries => ⟨some .onFailure, some (Int64.ofNat maxRetries.toNat)⟩
  | .unlessStopped => ⟨some .unlessStopped, none⟩

/-- A limit as the daemon takes it. None is set where it is zero. -/
def positive (limit : UInt64) : Option Int64 := if 0 < limit then some limit.toInt64 else none

/-- A limit below 2^63 reaches the daemon as it is. -/
theorem toInt_positive {limit : UInt64} (hbound : limit.toNat < 2 ^ 63) :
    (positive limit).map Int64.toInt =
      if limit.toNat = 0 then none else some (limit.toNat : ℤ) := by
  have hpositive : 0 < limit ↔ limit.toNat ≠ 0 := by
    rw [UInt64.lt_iff_toNat_lt]
    exact Nat.pos_iff_ne_zero
  have hcast : limit.toInt64.toInt = limit.toNat :=
    BitVec.toInt_eq_toNat_of_lt (by change 2 * limit.toNat < 2 ^ 64; omega)
  unfold positive
  by_cases hzero : limit.toNat = 0
  · rw [if_neg (fun hlimit ↦ hpositive.mp hlimit hzero), if_pos hzero]
    rfl
  · rw [if_pos (hpositive.mpr hzero), if_neg hzero, Option.map_some, hcast]

/-- The key of a port of the container. -/
def portKey (port : UInt16) : String := toString port.toNat ++ "/tcp"

/-- The bindings of the ports, by the port of the container. -/
def portBindings (ports : Table UInt16 UInt16) : Table String (Option (List PortBinding)) :=
  collect (ports.entries.map fun entry ↦
    (portKey entry.1, some [⟨some "0.0.0.0", some (toString entry.2.toNat)⟩]))

/-- The options of the request for devices. -/
def deviceOptions (gpu : GpuRequirements) : Table String String :=
  let driven := match gpu.driverVersion with
    | none => ∅
    | some version => AList.insert "driver" version ∅
  match gpu.cudaVersion with
  | none => driven
  | some version => driven.insert "cuda" version

/-- The request for devices. A count of -1 asks for all GPUs. -/
def deviceRequest (gpu : GpuRequirements) : DeviceRequest where
  driver := some "nvidia"
  capabilities := if gpu.capabilities ≠ [] then some [gpu.capabilities] else none
  count := if gpu.devices = [] then some (-1) else none
  deviceIds := if gpu.devices = [] then none else some (gpu.devices.map (·.deviceSpecifier))
  options := if (deviceOptions gpu).entries = [] then none else some (deviceOptions gpu)

/-- `DockerRuntime::configure_gpu`. -/
def configureGpu (gpuRuntime : Option String) (hostConfig : HostConfig) (gpu : GpuRequirements) :
    HostConfig :=
  { hostConfig with
    deviceRequests := some [deviceRequest gpu]
    runtime := gpuRuntime.or hostConfig.runtime }

/-- `DockerRuntime::build_host_config`. -/
def buildHostConfig (gpuRuntime : Option String) (config : ContainerConfig) : HostConfig :=
  let hostConfig : HostConfig := {
    memory := positive config.memory.limit
    memoryReservation := positive config.memory.reservation
    memorySwap := if config.memory.swap ≠ 0 then some config.memory.swap else none
    memorySwappiness := config.memory.swappiness.map fun value ↦ Int64.ofNat value.toNat
    oomKillDisable := some config.memory.oomKillDisable
    cpuShares := positive config.cpu.shares
    cpuQuota := positive config.cpu.quota
    cpuPeriod := positive config.cpu.period
    cpusetCpus := config.cpu.cpusetCpus
    cpusetMems := config.cpu.cpusetMems
    nanoCpus := positive config.cpu.nanoCpus
    networkMode := some config.networkMode.asDockerMode
    mounts := if config.volumes = [] then none else some (config.volumes.map volumeToMount)
    portBindings := if config.ports.entries = [] then none else some (portBindings config.ports)
    restartPolicy := some (restartPolicyToBollard config.restartPolicy)
    privileged := some config.privileged
    autoRemove := some config.autoRemove }
  if config.gpu.isEnabled then configureGpu gpuRuntime hostConfig config.gpu else hostConfig

section HostConfig

variable (gpuRuntime : Option String) (config : ContainerConfig)

/-- The memory that the host allows. -/
@[simp] theorem memory_buildHostConfig :
    (buildHostConfig gpuRuntime config).memory = positive config.memory.limit := by
  unfold buildHostConfig
  split_ifs <;> rfl

/-- The memory that the host reserves. -/
@[simp] theorem memoryReservation_buildHostConfig :
    (buildHostConfig gpuRuntime config).memoryReservation = positive config.memory.reservation := by
  unfold buildHostConfig
  split_ifs <;> rfl

/-- The swap that the host allows. -/
@[simp] theorem memorySwap_buildHostConfig :
    (buildHostConfig gpuRuntime config).memorySwap =
      if config.memory.swap ≠ 0 then some config.memory.swap else none := by
  unfold buildHostConfig
  split_ifs <;> rfl

/-- The CPU time that the host allows in a period. -/
@[simp] theorem cpuQuota_buildHostConfig :
    (buildHostConfig gpuRuntime config).cpuQuota = positive config.cpu.quota := by
  unfold buildHostConfig
  split_ifs <;> rfl

/-- The period of the CPU time. -/
@[simp] theorem cpuPeriod_buildHostConfig :
    (buildHostConfig gpuRuntime config).cpuPeriod = positive config.cpu.period := by
  unfold buildHostConfig
  split_ifs <;> rfl

/-- The CPUs that the host allows. -/
@[simp] theorem nanoCpus_buildHostConfig :
    (buildHostConfig gpuRuntime config).nanoCpus = positive config.cpu.nanoCpus := by
  unfold buildHostConfig
  split_ifs <;> rfl

/-- The network that the host attaches. -/
@[simp] theorem networkMode_buildHostConfig :
    (buildHostConfig gpuRuntime config).networkMode = some config.networkMode.asDockerMode := by
  unfold buildHostConfig
  split_ifs <;> rfl

/-- The ports that the host binds. -/
@[simp] theorem portBindings_buildHostConfig :
    (buildHostConfig gpuRuntime config).portBindings =
      if config.ports.entries = [] then none else some (portBindings config.ports) := by
  unfold buildHostConfig
  split_ifs <;> rfl

/-- The DNS servers are never set. -/
@[simp] theorem dns_buildHostConfig : (buildHostConfig gpuRuntime config).dns = none := by
  unfold buildHostConfig
  split_ifs <;> rfl

/-- The devices that the host passes through. -/
@[simp] theorem deviceRequests_buildHostConfig :
    (buildHostConfig gpuRuntime config).deviceRequests =
      if config.gpu.isEnabled then some [deviceRequest config.gpu] else none := by
  unfold buildHostConfig
  split_ifs <;> rfl

end HostConfig

/-- The request that `DockerRuntime::create` makes of a configuration. -/
def createRequest (gpuRuntime : Option String) (config : ContainerConfig) : CreateRequest where
  name := config.name
  config := {
    image := some config.image
    cmd := config.command
    entrypoint := config.entrypoint
    env := some (config.env.entries.map fun entry ↦ entry.1 ++ "=" ++ entry.2)
    workingDir := config.workingDir
    user := config.user
    hostname := config.hostname
    labels := some config.labels
    exposedPorts := if config.ports.entries = [] then none
      else some (collect (config.ports.entries.map fun entry ↦ (portKey entry.1, ∅)))
    hostConfig := some (buildHostConfig gpuRuntime config) }

namespace DockerRuntime

variable {World : Type*}

/-- `DockerRuntime::create`. -/
def create (docker : DockerRuntime World) (config : ContainerConfig) (world : World) :
    Except ContainerError ContainerId × World :=
  match config.validate with
  | .error error => (.error error, world)
  | .ok () =>
    match docker.client.createContainer (createRequest docker.gpuRuntime config) world with
    | (.ok id, world) => (.ok ⟨id⟩, world)
    | (.error error, world) => (.error (match error with
        | .responseServerError 404 _ => .imageNotFound config.image
        | .responseServerError 409 message =>
          .createFailed ("container already exists: " ++ message)
        | error => .createFailed error.display), world)

/-- `DockerRuntime::start`. -/
def start (docker : DockerRuntime World) (id : ContainerId) (world : World) :
    Except ContainerError Unit × World :=
  match docker.client.startContainer id.asStr world with
  | (.ok (), world) => (.ok (), world)
  | (.error error, world) => (.error (if error.hasStatus 404 then .notFound id.short
      else .startFailed id.short error.display), world)

/-- `DockerRuntime::stop`. A container that was stopped before is no error. -/
def stop (docker : DockerRuntime World) (id : ContainerId) (timeoutSecs : Option UInt32)
    (world : World) : Except ContainerError Unit × World :=
  let timeout := timeoutSecs.elim 10 fun seconds ↦ Int64.ofNat seconds.toNat
  match docker.client.stopContainer id.asStr timeout world with
  | (.ok (), world) => (.ok (), world)
  | (.error error, world) => (if error.hasStatus 404 then .error (.notFound id.short)
      else if error.hasStatus 304 then .ok ()
      else .error (.stopFailed id.short error.display), world)

/-- `DockerRuntime::remove`. -/
def remove (docker : DockerRuntime World) (id : ContainerId) (force volumes : Bool)
    (world : World) : Except ContainerError Unit × World :=
  match docker.client.removeContainer id.asStr force volumes world with
  | (.ok (), world) => (.ok (), world)
  | (.error error, world) => (.error (if error.hasStatus 404 then .notFound id.short
      else .removeFailed id.short error.display), world)

end DockerRuntime

end Clawbernetes.ClawCompute
