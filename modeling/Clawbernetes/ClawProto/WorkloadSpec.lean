import Clawbernetes.ClawProto.WorkloadStatus
import Clawbernetes.Library.FiniteTable

/-!
# The specification of a workload

`WorkloadSpec` of `workload.rs` with the checks of `validation.rs` that it is put through. All
checks are made and the first error is returned, so `validate_eq_ok_iff` splits an accepted
specification into its parts. The number of GPUs that is checked is the one of the GPU requirement,
where there is one.
-/

set_option autoImplicit false
set_option relaxedAutoImplicit false

namespace Clawbernetes.ClawProto

open Library.FiniteTable

/-- `ValidationError`. -/
structure ValidationError where
  field : String
  message : String
  deriving DecidableEq

/-- The display of an error. -/
def ValidationError.display (error : ValidationError) : String :=
  error.field ++ ": " ++ error.message

/-- `MAX_MEMORY_MB`. -/
def maxMemoryMb : UInt64 := 1024000

/-- `MAX_CPU_CORES`. -/
def maxCpuCores : UInt32 := 1024

/-- `MAX_GPU_COUNT`. -/
def maxGpuCount : UInt32 := 64

/-- `char::is_whitespace`: the characters with the Unicode property `White_Space`. -/
def isWhitespace (character : Char) : Bool :=
  let code := character.toNat
  (9 ≤ code ∧ code ≤ 13) ∨ code = 0x20 ∨ code = 0x85 ∨ code = 0xa0 ∨ code = 0x1680 ∨
    (0x2000 ≤ code ∧ code ≤ 0x200a) ∨ code = 0x2028 ∨ code = 0x2029 ∨ code = 0x202f ∨
    code = 0x205f ∨ code = 0x3000

/-- The part of an image behind its last slash. -/
def nameTag (image : List Char) : List Char := (image.splitOn '/').getLastD []

/-- `validate_image`. -/
def validateImage (image : String) : Except ValidationError Unit :=
  let text := image.toList
  let tag := nameTag text
  let digest := (tag.dropWhile (· ≠ '@')).drop 1
  if text = [] then .error ⟨"image", "image cannot be empty"⟩
  else if text.any isWhitespace then .error ⟨"image", "image cannot contain whitespace"⟩
  else if tag = [] then .error ⟨"image", "image must have a name component"⟩
  else if [':'] <+: text ∨ ['@'] <+: text then
    .error ⟨"image", "image cannot start with ':' or '@'"⟩
  else if [':'] <:+ text ∨ ['/'] <:+ text then
    .error ⟨"image", "image cannot end with ':' or '/'"⟩
  else if '@' ∈ tag ∧ ¬"sha256:".toList <+: digest ∧ ¬"sha512:".toList <+: digest then
    .error ⟨"image", "digest must start with 'sha256:' or 'sha512:'"⟩
  else .ok ()

/-- `validate_resources`. -/
def validateResources (memoryMb : UInt64) (cpuCores gpuCount : UInt32) :
    Except ValidationError Unit :=
  if maxMemoryMb < memoryMb then
    .error ⟨"memory_mb", "memory_mb cannot exceed " ++ toString maxMemoryMb.toNat⟩
  else if maxCpuCores < cpuCores then
    .error ⟨"cpu_cores", "cpu_cores cannot exceed " ++ toString maxCpuCores.toNat⟩
  else if maxGpuCount < gpuCount then
    .error ⟨"gpu_count", "gpu_count cannot exceed " ++ toString maxGpuCount.toNat⟩
  else .ok ()

/-- `char::is_ascii_alphabetic`. -/
def isAsciiAlphabetic (character : Char) : Bool :=
  ('a' ≤ character ∧ character ≤ 'z') ∨ ('A' ≤ character ∧ character ≤ 'Z')

/-- `char::is_ascii_alphanumeric`. -/
def isAsciiAlphanumeric (character : Char) : Bool :=
  isAsciiAlphabetic character ∨ ('0' ≤ character ∧ character ≤ '9')

/-- `validate_env_key`. -/
def validateEnvKey (key : String) : Except ValidationError Unit :=
  match key.toList with
  | [] => .error ⟨"env", "environment variable key cannot be empty"⟩
  | first :: rest =>
    if ¬isAsciiAlphabetic first ∧ first ≠ '_' then
      .error ⟨"env", "environment variable key '" ++ key ++
        "' must start with a letter or underscore"⟩
    else match (first :: rest).find? fun character ↦
        ¬isAsciiAlphanumeric character ∧ character ≠ '_' with
      | some character => .error ⟨"env", "environment variable key '" ++ key ++
          "' contains invalid character '" ++ String.singleton character ++ "'"⟩
      | none => .ok ()

/-- An accepted image is not empty. -/
theorem ne_empty_of_validateImage {image : String} (hvalid : validateImage image = .ok ()) :
    image ≠ "" := by
  rintro rfl
  exact absurd hvalid (by decide)

/-- The key of an accepted variable consists of letters, digits and underscores. -/
theorem keyCharacter_of_validateEnvKey {key : String} (hvalid : validateEnvKey key = .ok ())
    {character : Char} (hmem : character ∈ key.toList) :
    isAsciiAlphanumeric character ∨ character = '_' := by
  unfold validateEnvKey at hvalid
  cases htext : key.toList with
  | nil =>
    rw [htext] at hmem
    exact absurd hmem List.not_mem_nil
  | cons first rest =>
    rw [htext] at hvalid hmem
    dsimp only at hvalid
    split_ifs at hvalid
    cases hfind : (first :: rest).find? fun character ↦
        ¬isAsciiAlphanumeric character ∧ character ≠ '_' with
    | some invalid =>
      rw [hfind] at hvalid
      cases hvalid
    | none =>
      have hallowed := List.find?_eq_none.mp hfind character hmem
      simpa [or_iff_not_imp_left] using hallowed

/-- `GpuRequirement`, with the chain of its fallbacks. -/
structure GpuRequirement where
  count : UInt32
  selector : Option String
  minMemoryMib : Option UInt64
  modelPattern : Option String
  fallback : Option GpuRequirement
  priority : UInt32

/-- `ParallelConfig`, as far as it is validated. -/
structure ParallelConfig where
  completions : UInt32
  parallelism : UInt32
  deriving DecidableEq

/-- `SchedulingRequirements`, as far as they are validated. -/
structure SchedulingRequirements where
  gpuRequirement : Option GpuRequirement
  parallel : Option ParallelConfig

/-- `WorkloadSpec`. The entries of the environment are in the order in which the hash map is
walked. -/
structure WorkloadSpec where
  image : String
  command : List String
  env : Table String String
  gpuCount : UInt32
  memoryMb : UInt64
  cpuCores : UInt32
  scheduling : SchedulingRequirements

/-- The error of a check, if it failed. -/
def checkErrors : Except ValidationError Unit → List ValidationError
  | .error error => [error]
  | .ok () => []

/-- A check without an error succeeded. -/
theorem checkErrors_eq_nil_iff {result : Except ValidationError Unit} :
    checkErrors result = [] ↔ result = .ok () := by
  cases result <;> simp [checkErrors]

/-- The resources are valid exactly when none of them is above its maximum. -/
theorem validateResources_eq_ok_iff {memoryMb : UInt64} {cpuCores gpuCount : UInt32} :
    validateResources memoryMb cpuCores gpuCount = .ok () ↔
      memoryMb ≤ maxMemoryMb ∧ cpuCores ≤ maxCpuCores ∧ gpuCount ≤ maxGpuCount := by
  unfold validateResources
  split_ifs with hmemory hcpu hgpu
  · simp [UInt64.not_le.mpr hmemory]
  · simp [UInt32.not_le.mpr hcpu]
  · simp [UInt32.not_le.mpr hgpu]
  · exact iff_of_true rfl ⟨UInt64.not_lt.mp hmemory, UInt32.not_lt.mp hcpu, UInt32.not_lt.mp hgpu⟩

namespace WorkloadSpec

/-- `WorkloadSpec::effective_gpu_count`. -/
def effectiveGpuCount (spec : WorkloadSpec) : UInt32 :=
  match spec.scheduling.gpuRequirement with
  | none => spec.gpuCount
  | some requirement => requirement.count

/-- The errors of the parallel configuration. -/
def parallelErrors (spec : WorkloadSpec) : List ValidationError :=
  match spec.scheduling.parallel with
  | none => []
  | some parallel =>
    (if parallel.parallelism = 0 then
      [⟨"scheduling.parallel.parallelism", "parallelism must be > 0"⟩] else []) ++
    (if parallel.completions = 0 then
      [⟨"scheduling.parallel.completions", "completions must be > 0"⟩] else [])

/-- The errors that `validate` collects, in their order. -/
def validationErrors (spec : WorkloadSpec) : List ValidationError :=
  checkErrors (validateImage spec.image) ++
    checkErrors (validateResources spec.memoryMb spec.cpuCores spec.effectiveGpuCount) ++
    (spec.env.keys.flatMap fun key ↦ checkErrors (validateEnvKey key)) ++ spec.parallelErrors

/-- `WorkloadSpec::validate`: the first of the errors. -/
def validate (spec : WorkloadSpec) : Except ValidationError Unit :=
  match spec.validationErrors with
  | [] => .ok ()
  | error :: _ => .error error

/-- A specification is accepted exactly when all checks of its parts succeed. -/
theorem validate_eq_ok_iff {spec : WorkloadSpec} :
    spec.validate = .ok () ↔ validateImage spec.image = .ok () ∧
      validateResources spec.memoryMb spec.cpuCores spec.effectiveGpuCount = .ok () ∧
      (∀ key ∈ spec.env.keys, validateEnvKey key = .ok ()) ∧ spec.parallelErrors = [] := by
  have hfirst : spec.validate = .ok () ↔ spec.validationErrors = [] := by
    unfold validate
    cases spec.validationErrors <;> simp
  rw [hfirst, validationErrors]
  simp only [List.append_eq_nil_iff, List.flatMap_eq_nil_iff, checkErrors_eq_nil_iff, and_assoc]

end WorkloadSpec

end Clawbernetes.ClawProto
