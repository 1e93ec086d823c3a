import Clawbernetes.ClawProto.WorkloadSpec
import Clawbernetes.Library.Rounding
import Mathlib.Algebra.Order.Field.Rat
import Mathlib.Data.Rat.Floor

/-!
# The configuration of a container

`ContainerConfig` of `config.rs` with its checks, and the errors and identifiers of `error.rs`. A
default says that there is no limit: a memory limit and a number of CPUs of zero, and no device at
all while there are no capabilities. With capabilities an empty list of devices asks for all of
them.

The stop timeout and the health check, which the creation of a container does not read, are left
out.
-/

set_option autoImplicit false
set_option relaxedAutoImplicit false

namespace Clawbernetes.ClawCompute

open Library.FiniteTable
open Library.Rounding (roundBinary)
open ClawProto (isAsciiAlphanumeric)

/-- `ContainerError`, the errors of creating, starting, stopping and removing a container. -/
inductive ContainerError where
  | notFound (id : String)
  | imageNotFound (image : String)
  | createFailed (reason : String)
  | startFailed (id reason : String)
  | stopFailed (id reason : String)
  | removeFailed (id reason : String)
  | invalidConfig (message : String)
  deriving DecidableEq

/-- The display of an error. -/
def ContainerError.display : ContainerError → String
  | .notFound id => "container not found: " ++ id
  | .imageNotFound image => "image not found: " ++ image
  | .createFailed reason => "container creation failed: " ++ reason
  | .startFailed id reason => "container start failed: " ++ id ++ ": " ++ reason
  | .stopFailed id reason => "container stop failed: " ++ id ++ ": " ++ reason
  | .removeFailed id reason => "container remove failed: " ++ id ++ ": " ++ reason
  | .invalidConfig message => "invalid container configuration: " ++ message

/-- The characters of the names of containers. -/
def isNameCharacter (character : Char) : Bool :=
  isAsciiAlphanumeric character ∨ character = '_' ∨ character = '-' ∨ character = '.'

/-- `char::is_ascii_hexdigit`. -/
def isAsciiHexdigit (character : Char) : Bool :=
  ('0' ≤ character ∧ character ≤ '9') ∨ ('a' ≤ character ∧ character ≤ 'f') ∨
    ('A' ≤ character ∧ character ≤ 'F')

/-- `ContainerId`. -/
structure ContainerId where
  asStr : String
  deriving DecidableEq

/-- `ContainerId::new`. -/
def ContainerId.new (id : String) : Except ContainerError ContainerId :=
  if id = "" then .error (.invalidConfig "container ID cannot be empty")
  else if ¬id.toList.all isAsciiHexdigit ∧ ¬id.toList.all isNameCharacter then
    .error (.invalidConfig ("invalid container ID: " ++ id))
  else .ok ⟨id⟩

/-- `ContainerId::short`, which is also the display. Identifiers are hexadecimal, so their bytes are
their characters. -/
def ContainerId.short (id : ContainerId) : String := String.ofList (id.asStr.toList.take 12)

/-! ### GPUs, memory and CPUs -/

/-- `GpuDevice`, without the memory limit and the compute capability, which nothing reads. -/
structure GpuDevice where
  index : UInt32
  uuid : Option String
  migEnabled : Bool
  migDeviceId : Option String
  deriving DecidableEq

/-- `GpuDevice::by_index`. -/
def GpuDevice.byIndex (index : UInt32) : GpuDevice := ⟨index, none, false, none⟩

/-- `GpuDevice::device_specifier`. -/
def GpuDevice.deviceSpecifier (device : GpuDevice) : String :=
  match device.uuid with
  | some uuid => uuid
  | none =>
    if device.migEnabled then
      match device.migDeviceId with
      | some migId => "MIG-" ++ migId
      | none => toString device.index.toNat
    else toString device.index.toNat

/-- `GpuRequirements`. -/
structure GpuRequirements where
  devices : List GpuDevice
  capabilities : List String
  driverVersion : Option String
  cudaVersion : Option String
  deriving DecidableEq

/-- `GpuRequirements::none`. -/
def GpuRequirements.none : GpuRequirements := ⟨[], [], Option.none, Option.none⟩

/-- `GpuRequirements::devices`. -/
def GpuRequirements.ofDevices (devices : List GpuDevice) : GpuRequirements :=
  ⟨devices, ["compute", "utility"], Option.none, Option.none⟩

/-- `GpuRequirements::is_enabled`. -/
def GpuRequirements.isEnabled (gpu : GpuRequirements) : Bool :=
  gpu.capabilities ≠ [] ∨ gpu.devices ≠ []

/-- `MemoryConfig`. -/
structure MemoryConfig where
  limit : UInt64
  reservation : UInt64
  swap : Int64
  swappiness : Option UInt8
  oomKillDisable : Bool
  deriving DecidableEq

/-- `MemoryConfig::limit_bytes`. The default is a limit of zero. -/
def MemoryConfig.limitBytes (bytes : UInt64) : MemoryConfig := ⟨bytes, 0, 0, none, false⟩

/-- `CpuConfig`. -/
structure CpuConfig where
  shares : UInt64
  quota : UInt64
  period : UInt64
  cpusetCpus : Option String
  cpusetMems : Option String
  nanoCpus : UInt64
  deriving DecidableEq

/-- `CpuConfig::default`. -/
def CpuConfig.default : CpuConfig := ⟨1024, 0, 100000, none, none, 0⟩

/-- The cast of a number to an `u64`, which cuts off the fraction and saturates. -/
def saturatingU64 (number : ℚ) : UInt64 :=
  if 2 ^ 64 ≤ number then UInt64.ofNat (2 ^ 64 - 1) else UInt64.ofNat ⌊number⌋.toNat

/-- `CpuConfig::cpus`. The product of two `f64` numbers is rounded to 53 binary digits; where it is
too large or too small for that, the cast saturates or gives zero all the same. A count that is not
a finite number gives what one that is out of range or negative gives. -/
def CpuConfig.cpus (count : ℚ) : CpuConfig :=
  { CpuConfig.default with nanoCpus := saturatingU64 (roundBinary 53 (count * 1000000000)) }

/-- The `f64` for 0.3 is a little less, but its product with a power of ten is rounded up. -/
example : (CpuConfig.cpus (5404319552844595 / 2 ^ 54)).nanoCpus = 300000000 := by decide +kernel

/-- A natural number below the bound is cast to itself. -/
theorem toNat_saturatingU64 {number : ℕ} (hbound : number < 2 ^ 64) :
    (saturatingU64 number).toNat = number := by
  have hsmall : ¬(2 ^ 64 : ℚ) ≤ number := by
    rw [not_le]
    exact_mod_cast hbound
  unfold saturatingU64
  rw [if_neg hsmall, Int.floor_natCast, Int.toNat_natCast, UInt64.toNat_ofNat',
    Nat.mod_eq_of_lt hbound]

/-! ### The configuration -/

/-- `NetworkMode`. -/
inductive NetworkMode where
  | bridge
  | host
  | none
  | container (id : String)
  | custom (name : String)
  deriving DecidableEq

/-- `NetworkMode::as_docker_mode`. -/
def NetworkMode.asDockerMode : NetworkMode → String
  | .bridge => "bridge"
  | .host => "host"
  | .none => "none"
  | .container id => "container:" ++ id
  | .custom name => name

/-- `MountType`. -/
inductive MountType where
  | bind
  | volume
  | tmpfs
  deriving DecidableEq

/-- `VolumeMount`. -/
structure VolumeMount where
  source : String
  target : String
  readOnly : Bool
  mountType : MountType
  deriving DecidableEq

/-- `RestartPolicy`. -/
inductive RestartPolicy where
  | no
  | always
  | onFailure (maxRetries : UInt32)
  | unlessStopped
  deriving DecidableEq

/-- `ContainerConfig`. The ports are keyed by the port of the container. -/
structure ContainerConfig where
  name : String
  image : String
  command : Option (List String)
  entrypoint : Option (List String)
  env : Table String String
  workingDir : Option String
  user : Option String
  memory : MemoryConfig
  cpu : CpuConfig
  gpu : GpuRequirements
  networkMode : NetworkMode
  volumes : List VolumeMount
  ports : Table UInt16 UInt16
  labels : Table String String
  restartPolicy : RestartPolicy
  privileged : Bool
  autoRemove : Bool
  hostname : Option String

namespace ContainerConfig

/-- `ContainerConfig::new`. -/
def new (name image : String) : ContainerConfig where
  name := name
  image := image
  command := none
  entrypoint := none
  env := ∅
  workingDir := none
  user := none
  memory := .limitBytes 0
  cpu := .default
  gpu := .none
  networkMode := .bridge
  volumes := []
  ports := ∅
  labels := ∅
  restartPolicy := .no
  privileged := false
  autoRemove := false
  hostname := none

/-- `ContainerConfig::validate`. -/
def validate (config : ContainerConfig) : Except ContainerError Unit :=
  if config.name = "" then .error (.invalidConfig "container name cannot be empty")
  else if config.image = "" then .error (.invalidConfig "image cannot be empty")
  else if ¬config.name.toList.all isNameCharacter then
    .error (.invalidConfig ("invalid container name: " ++ config.name))
  else if config.memory.limit < config.memory.reservation ∧ 0 < config.memory.limit then
    .error (.invalidConfig "memory reservation cannot exceed limit")
  else .ok ()

/-- A configuration is accepted exactly when it has a name of allowed characters and an image and
reserves no more memory than its limit, where there is one. -/
theorem validate_eq_ok_iff {config : ContainerConfig} :
    config.validate = .ok () ↔ config.name ≠ "" ∧ config.image ≠ "" ∧
      config.name.toList.all isNameCharacter ∧
      (0 < config.memory.limit → config.memory.reservation ≤ config.memory.limit) := by
  unfold validate
  split_ifs with hname himage hcharacters hreservation
  · exact iff_of_false (by simp) fun hvalid ↦ hvalid.1 hname
  · exact iff_of_false (by simp) fun hvalid ↦ hvalid.2.1 himage
  · exact iff_of_false (by simp) fun hvalid ↦
      absurd (hvalid.2.2.2 hreservation.2) (UInt64.not_le.mpr hreservation.1)
  · refine iff_of_true rfl ⟨hname, himage, hcharacters, fun hlimit ↦ ?_⟩
    exact UInt64.not_lt.mp fun hexceeds ↦ hreservation ⟨hexceeds, hlimit⟩
  · exact iff_of_false (by simp) fun hvalid ↦ hcharacters hvalid.2.2.1

end ContainerConfig

end Clawbernetes.ClawCompute
