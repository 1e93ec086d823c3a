import Clawbernetes.ClawCompute.DockerRuntime
import Clawbernetes.Library.CheckedWords

/-!
# The limits of a container

The builders of `MemoryConfig` and `CpuConfig`, and what the daemon makes of the limits that
`build_host_config` hands it. A configuration has unsigned limits, where zero is no limit; the
daemon takes signed ones, where also a negative one is no limit, and a swap of -1 is unlimited swap,
which is what `with_no_swap` asks for.

`resource_limits_kept_iff` says for which configurations the daemon keeps the limits, and
`launchable_iff` which of them it accepts at all.
-/

set_option autoImplicit false
set_option relaxedAutoImplicit false

namespace Clawbernetes.ClawCompute

open Library.CheckedWords

/-! ### Building a configuration -/

namespace MemoryConfig

/-- `MemoryConfig::limit_mb`, which is `none` when it panics. -/
def limitMb (overflowChecks : Bool) (mb : UInt64) : Option MemoryConfig :=
  (scale overflowChecks 1024 2 mb.toBitVec).map fun bytes ↦ limitBytes ⟨bytes⟩

/-- `MemoryConfig::limit_gb`, which is `none` when it panics. -/
def limitGb (overflowChecks : Bool) (gb : UInt64) : Option MemoryConfig :=
  (scale overflowChecks 1024 3 gb.toBitVec).map fun bytes ↦ limitBytes ⟨bytes⟩

/-- `MemoryConfig::default`. -/
def default : MemoryConfig := limitBytes 0

end MemoryConfig

/-- The calls that a configuration of the memory starts with. -/
inductive MemoryStart where
  | default
  | limitBytes (bytes : UInt64)
  | limitMb (mb : UInt64)
  | limitGb (gb : UInt64)

/-- The configuration that a call starts with. -/
def MemoryStart.config (overflowChecks : Bool) : MemoryStart → Option MemoryConfig
  | default => some .default
  | limitBytes bytes => some (.limitBytes bytes)
  | limitMb mb => MemoryConfig.limitMb overflowChecks mb
  | limitGb gb => MemoryConfig.limitGb overflowChecks gb

/-- The calls that change a configuration of the memory. -/
inductive MemorySetting where
  | reservationBytes (bytes : UInt64)
  | swapBytes (bytes : Int64)
  | noSwap
  | swappiness (value : UInt8)
  | oomKillDisabled

/-- `with_reservation_bytes`, `with_swap_bytes`, `with_no_swap`, `with_swappiness` and
`with_oom_kill_disabled`. -/
def MemoryConfig.with (memory : MemoryConfig) : MemorySetting → MemoryConfig
  | .reservationBytes bytes => { memory with reservation := bytes }
  | .swapBytes bytes => { memory with swap := bytes }
  | .noSwap => { memory with swap := -1 }
  | .swappiness value => { memory with swappiness := some (min value 100) }
  | .oomKillDisabled => { memory with oomKillDisable := true }

/-- The calls that a configuration of the CPUs starts with. -/
inductive CpuStart where
  | unlimited
  | cpus (count : ℚ)
  | pinned (cpuset : String)

/-- The configuration that a call starts with. -/
def CpuStart.config : CpuStart → CpuConfig
  | unlimited => .default
  | cpus count => .cpus count
  | pinned cpuset => { CpuConfig.default with cpusetCpus := some cpuset }

/-- The calls that change a configuration of the CPUs. -/
inductive CpuSetting where
  | shares (shares : UInt64)
  | quota (quotaUs periodUs : UInt64)
  | numaNodes (nodes : String)

/-- `with_shares`, `with_quota` and `with_numa_nodes`. -/
def CpuConfig.with (cpu : CpuConfig) : CpuSetting → CpuConfig
  | .shares shares => { cpu with shares := shares }
  | .quota quotaUs periodUs => { cpu with quota := quotaUs, period := periodUs }
  | .numaNodes nodes => { cpu with cpusetMems := some nodes }

/-- A configuration whose memory and CPUs are built by calls, and that is accepted by `validate`. -/
structure BuiltConfig (overflowChecks : Bool) where
  config : ContainerConfig
  memoryStart : MemoryStart
  memorySettings : List MemorySetting
  cpuStart : CpuStart
  cpuSettings : List CpuSetting
  memory_built : (memoryStart.config overflowChecks).map (memorySettings.foldl MemoryConfig.with) =
    some config.memory
  cpu_built : cpuSettings.foldl CpuConfig.with cpuStart.config = config.cpu
  valid : config.validate = .ok ()

/-- The settings of the swap. -/
def MemorySetting.setsSwap : MemorySetting → Bool
  | swapBytes _ => true
  | noSwap => true
  | _ => false

/-- `with_no_swap` is the last setting of the swap. -/
def NoSwapLast (settings : List MemorySetting) : Prop :=
  (settings.filter MemorySetting.setsSwap).getLast? = some .noSwap

/-- After `with_no_swap` the swap is -1. -/
theorem swap_of_noSwapLast {settings : List MemorySetting} (hlast : NoSwapLast settings)
    (memory : MemoryConfig) : (settings.foldl MemoryConfig.with memory).swap = -1 := by
  induction settings using List.reverseRecOn with
  | nil => cases hlast
  | append_singleton settings setting ih =>
    rw [List.foldl_append]
    unfold NoSwapLast at hlast ih
    rw [List.filter_append] at hlast
    cases setting with
    | noSwap => rfl
    | swapBytes bytes =>
      rw [List.filter_cons_of_pos rfl, List.filter_nil, List.getLast?_concat] at hlast
      cases hlast
    | reservationBytes bytes => exact ih (by simpa [MemorySetting.setsSwap] using hlast)
    | swappiness value => exact ih (by simpa [MemorySetting.setsSwap] using hlast)
    | oomKillDisabled => exact ih (by simpa [MemorySetting.setsSwap] using hlast)

/-! ### Signed limits -/

/-- The cast to a signed word takes the top half of the words below zero. -/
theorem toInt_toInt64 (word : UInt64) : word.toInt64.toInt =
    if word.toNat < 2 ^ 63 then (word.toNat : ℤ) else word.toNat - 2 ^ 64 := by
  have hcond : word.toInt64.toInt = if 2 * word.toNat < 2 ^ 64 then (word.toNat : ℤ)
      else word.toNat - ((2 ^ 64 : ℕ) : ℤ) := BitVec.toInt_eq_toNat_cond word.toBitVec
  rw [hcond]
  split_ifs with hdouble hhalf hhalf
  · rfl
  · omega
  · omega
  · norm_num

/-- A limit of the configuration, when it is set for the daemon. -/
theorem positive_eq_some_iff {limit : UInt64} {value : Int64} :
    positive limit = some value ↔ limit.toNat ≠ 0 ∧ value = limit.toInt64 := by
  have hpositive : 0 < limit ↔ limit.toNat ≠ 0 := by
    rw [UInt64.lt_iff_toNat_lt]
    exact Nat.pos_iff_ne_zero
  unfold positive
  rw [Option.ite_none_right_eq_some, hpositive, Option.some_inj, eq_comm (a := value)]

/-- No limit is set exactly when it is zero. -/
theorem positive_eq_none_iff {limit : UInt64} : positive limit = none ↔ limit.toNat = 0 := by
  rw [Option.eq_none_iff_forall_ne_some]
  constructor
  · intro hnone
    exact by_contra fun hlimit ↦ hnone _ (positive_eq_some_iff.mpr ⟨hlimit, rfl⟩)
  · intro hzero value hvalue
    exact (positive_eq_some_iff.mp hvalue).1 hzero

/-- A limit does not get negative exactly when it is below 2^63. -/
theorem positive_nonneg_iff {limit : UInt64} :
    (∀ value, positive limit = some value → 0 ≤ value.toInt) ↔ limit.toNat < 2 ^ 63 := by
  constructor
  · intro hnonneg
    by_contra hlarge
    have hvalue := hnonneg _ (positive_eq_some_iff.mpr ⟨by omega, rfl⟩)
    have hbound : limit.toNat < 2 ^ 64 := limit.toNat_lt
    rw [toInt_toInt64, if_neg hlarge] at hvalue
    omega
  · intro hsmall value hvalue
    obtain ⟨-, rfl⟩ := positive_eq_some_iff.mp hvalue
    rw [toInt_toInt64, if_pos hsmall]
    exact Int.natCast_nonneg _

/-! ### Keeping the limits -/

namespace HostConfig

/-- The bound that the daemon puts on the memory. There is none where it is not positive. -/
def memoryBound (host : HostConfig) : Option ℤ := (host.memory.map Int64.toInt).filter (0 < ·)

/-- The daemon gives no swap: memory and swap together are bounded as the memory. -/
def GivesNoSwap (host : HostConfig) : Prop :=
  ∃ bound, host.memoryBound = some bound ∧ host.memorySwap.map Int64.toInt = some bound

end HostConfig

variable {overflowChecks : Bool}

/-- The daemon keeps the limits of a configuration: it bounds the memory by the limit, gets no
negative limit, and gives no swap after `with_no_swap`. -/
structure LimitsKept (built : BuiltConfig overflowChecks) (host : HostConfig) : Prop where
  memory : 0 < built.config.memory.limit.toNat →
    host.memoryBound = some (built.config.memory.limit.toNat : ℤ)
  limit_nonneg : ∀ value, host.memory = some value → 0 ≤ value.toInt
  reservation_nonneg : ∀ value, host.memoryReservation = some value → 0 ≤ value.toInt
  quota_nonneg : ∀ value, host.cpuQuota = some value → 0 ≤ value.toInt
  noSwap : NoSwapLast built.memorySettings → host.GivesNoSwap

/-- A limit below 2^63 is the bound of the memory. -/
theorem memoryBound_eq (gpuRuntime : Option String) {config : ContainerConfig}
    (hsmall : config.memory.limit.toNat < 2 ^ 63) (hlimit : 0 < config.memory.limit.toNat) :
    (buildHostConfig gpuRuntime config).memoryBound = some (config.memory.limit.toNat : ℤ) := by
  rw [HostConfig.memoryBound, memory_buildHostConfig, toInt_positive hsmall,
    if_neg (Nat.pos_iff_ne_zero.mp hlimit)]
  exact if_pos (by simpa using hlimit)

/-- After `with_no_swap` the daemon gives swap. -/
theorem not_givesNoSwap (gpuRuntime : Option String) (built : BuiltConfig overflowChecks)
    (hlast : NoSwapLast built.memorySettings) :
    ¬(buildHostConfig gpuRuntime built.config).GivesNoSwap := by
  rintro ⟨bound, hmemory, hswap⟩
  obtain ⟨memory, -, hbuilt⟩ := Option.map_eq_some_iff.mp built.memory_built
  have hminus : built.config.memory.swap = -1 := hbuilt ▸ swap_of_noSwapLast hlast memory
  rw [memorySwap_buildHostConfig, hminus, if_pos (by decide), Option.map_some] at hswap
  have hpositive := (Option.filter_eq_some_iff.mp hmemory).2
  rw [← Option.some_inj.mp hswap] at hpositive
  exact absurd hpositive (by decide)

/-- The daemon keeps the limits exactly when the limits of the memory and the quota are below 2^63
and the swap was not turned off last. -/
theorem resource_limits_kept_iff (gpuRuntime : Option String) (built : BuiltConfig overflowChecks) :
    LimitsKept built (buildHostConfig gpuRuntime built.config) ↔
      built.config.memory.limit.toNat < 2 ^ 63 ∧ built.config.memory.reservation.toNat < 2 ^ 63 ∧
        built.config.cpu.quota.toNat < 2 ^ 63 ∧ ¬NoSwapLast built.memorySettings := by
  constructor
  · rintro ⟨-, hlimit, hreservation, hquota, hswap⟩
    rw [memory_buildHostConfig] at hlimit
    rw [memoryReservation_buildHostConfig] at hreservation
    rw [cpuQuota_buildHostConfig] at hquota
    exact ⟨positive_nonneg_iff.mp hlimit, positive_nonneg_iff.mp hreservation,
      positive_nonneg_iff.mp hquota,
      fun hlast ↦ not_givesNoSwap gpuRuntime built hlast (hswap hlast)⟩
  · rintro ⟨hlimit, hreservation, hquota, hlast⟩
    refine ⟨memoryBound_eq gpuRuntime hlimit, ?_, ?_, ?_, fun hnoSwap ↦ absurd hnoSwap hlast⟩
    · rw [memory_buildHostConfig]
      exact positive_nonneg_iff.mpr hlimit
    · rw [memoryReservation_buildHostConfig]
      exact positive_nonneg_iff.mpr hreservation
    · rw [cpuQuota_buildHostConfig]
      exact positive_nonneg_iff.mpr hquota

/-- One gigabyte without swap, and no limit of the CPUs. -/
def noSwapBuilt : BuiltConfig true where
  config := { ContainerConfig.new "job" "nginx" with
    memory := { MemoryConfig.limitBytes 1073741824 with swap := -1 } }
  memoryStart := .limitGb 1
  memorySettings := [.noSwap]
  cpuStart := .unlimited
  cpuSettings := []
  memory_built := by decide
  cpu_built := rfl
  valid := by decide

/-- A configuration without swap gets unlimited swap. -/
theorem no_swap_is_unlimited :
    (buildHostConfig none noSwapBuilt.config).memorySwap = some (-1) ∧
      ¬LimitsKept noSwapBuilt (buildHostConfig none noSwapBuilt.config) :=
  ⟨by decide, fun hkept ↦ not_givesNoSwap none noSwapBuilt rfl (hkept.noSwap rfl)⟩

/-! ### Launching -/

/-- A field of the host configuration is set to a positive number. -/
def SetPositive (field : Option Int64) : Prop := ∃ value, field = some value ∧ 0 < value.toInt

/-- The daemon rejects a number of CPUs beside a period or a quota, a reservation above the limit of
the memory, and a swap without memory or positive and below the memory. -/
inductive Rejected (host : HostConfig) : Prop where
  | period (hcpus : SetPositive host.nanoCpus) (hperiod : SetPositive host.cpuPeriod)
  | quota (hcpus : SetPositive host.nanoCpus) (hquota : SetPositive host.cpuQuota)
  | reservation (limit reservation : Int64) (hlimit : host.memory = some limit)
      (hreservation : host.memoryReservation = some reservation)
      (hexceeds : limit.toInt < reservation.toInt)
  | swapAlone (swap : Int64) (hswap : host.memorySwap = some swap) (hmemory : host.memory = none)
  | swapBelow (swap limit : Int64) (hswap : host.memorySwap = some swap)
      (hlimit : host.memory = some limit) (hpositive : 0 < swap.toInt)
      (hbelow : swap.toInt < limit.toInt)

/-- No field of the configuration is in the way of another one. The daemon does not see a period, a
quota, a number of CPUs or a reservation from 2^63 on as positive. -/
structure Launchable (memory : MemoryConfig) (cpu : CpuConfig) : Prop where
  period : 0 < cpu.nanoCpus.toNat → cpu.nanoCpus.toNat < 2 ^ 63 →
    cpu.period.toNat = 0 ∨ 2 ^ 63 ≤ cpu.period.toNat
  quota : 0 < cpu.nanoCpus.toNat → cpu.nanoCpus.toNat < 2 ^ 63 →
    cpu.quota.toNat = 0 ∨ 2 ^ 63 ≤ cpu.quota.toNat
  reservation : 2 ^ 63 ≤ memory.limit.toNat →
    memory.reservation.toNat = 0 ∨ 2 ^ 63 ≤ memory.reservation.toNat
  swapAlone : memory.swap ≠ 0 → 0 < memory.limit.toNat
  swapBelow : 0 < memory.swap.toInt → memory.limit.toNat < 2 ^ 63 →
    (memory.limit.toNat : ℤ) ≤ memory.swap.toInt

/-- A limit is set to a positive number when it is one and below 2^63. -/
theorem setPositive_positive_iff {limit : UInt64} :
    SetPositive (positive limit) ↔ 0 < limit.toNat ∧ limit.toNat < 2 ^ 63 := by
  constructor
  · rintro ⟨value, hvalue, hpositive⟩
    obtain ⟨hne, rfl⟩ := positive_eq_some_iff.mp hvalue
    refine ⟨Nat.pos_of_ne_zero hne, by_contra fun hlarge ↦ ?_⟩
    have hbound : limit.toNat < 2 ^ 64 := limit.toNat_lt
    rw [toInt_toInt64, if_neg hlarge] at hpositive
    omega
  · rintro ⟨hpositive, hsmall⟩
    refine ⟨_, positive_eq_some_iff.mpr ⟨Nat.pos_iff_ne_zero.mp hpositive, rfl⟩, ?_⟩
    rw [toInt_toInt64, if_pos hsmall]
    exact Int.natCast_pos.mpr hpositive

/-- A reservation that is within the limit of the configuration exceeds that of the daemon only when
the limit is in the top half of the words and the reservation in the other. -/
theorem exceeds_iff {limit reservation : UInt64}
    (hvalid : 0 < limit.toNat → reservation.toNat ≤ limit.toNat) :
    (∃ limitValue reservationValue, positive limit = some limitValue ∧
        positive reservation = some reservationValue ∧
          limitValue.toInt < reservationValue.toInt) ↔
      2 ^ 63 ≤ limit.toNat ∧ 0 < reservation.toNat ∧ reservation.toNat < 2 ^ 63 := by
  have hbound : limit.toNat < 2 ^ 64 := limit.toNat_lt
  constructor
  · rintro ⟨limitValue, reservationValue, hlimit, hreservation, hexceeds⟩
    obtain ⟨hlimitNe, rfl⟩ := positive_eq_some_iff.mp hlimit
    obtain ⟨hreservationNe, rfl⟩ := positive_eq_some_iff.mp hreservation
    have hle := hvalid (Nat.pos_of_ne_zero hlimitNe)
    rw [toInt_toInt64, toInt_toInt64] at hexceeds
    split_ifs at hexceeds with hlimitSmall hreservationSmall hreservationSmall <;> omega
  · rintro ⟨hlarge, hpositive, hsmall⟩
    refine ⟨_, _, positive_eq_some_iff.mpr ⟨by omega, rfl⟩,
      positive_eq_some_iff.mpr ⟨by omega, rfl⟩, ?_⟩
    rw [toInt_toInt64, toInt_toInt64, if_neg (Nat.not_lt.mpr hlarge), if_pos hsmall]
    omega

section Launch

variable (gpuRuntime : Option String) (config : ContainerConfig)

/-- The daemon gets a positive number of CPUs. -/
theorem setPositive_nanoCpus_iff : SetPositive (buildHostConfig gpuRuntime config).nanoCpus ↔
    0 < config.cpu.nanoCpus.toNat ∧ config.cpu.nanoCpus.toNat < 2 ^ 63 := by
  rw [nanoCpus_buildHostConfig]
  exact setPositive_positive_iff

/-- The daemon gets a positive period. -/
theorem setPositive_cpuPeriod_iff : SetPositive (buildHostConfig gpuRuntime config).cpuPeriod ↔
    0 < config.cpu.period.toNat ∧ config.cpu.period.toNat < 2 ^ 63 := by
  rw [cpuPeriod_buildHostConfig]
  exact setPositive_positive_iff

/-- The daemon gets a positive quota. -/
theorem setPositive_cpuQuota_iff : SetPositive (buildHostConfig gpuRuntime config).cpuQuota ↔
    0 < config.cpu.quota.toNat ∧ config.cpu.quota.toNat < 2 ^ 63 := by
  rw [cpuQuota_buildHostConfig]
  exact setPositive_positive_iff

/-- The swap is set when it is not zero. -/
theorem memorySwap_eq_some_iff {swap : Int64} :
    (buildHostConfig gpuRuntime config).memorySwap = some swap ↔
      config.memory.swap ≠ 0 ∧ swap = config.memory.swap := by
  rw [memorySwap_buildHostConfig, Option.ite_none_right_eq_some, Option.some_inj,
    eq_comm (a := swap)]

variable {gpuRuntime config}

/-- What is launchable is not rejected. -/
theorem not_rejected (hlaunchable : Launchable config.memory config.cpu)
    (hvalid : 0 < config.memory.limit.toNat →
      config.memory.reservation.toNat ≤ config.memory.limit.toNat) :
    ¬Rejected (buildHostConfig gpuRuntime config) := by
  rintro (⟨hcpus, hperiod⟩ | ⟨hcpus, hquota⟩ |
    ⟨limit, reservation, hlimit, hreservation, hexceeds⟩ | ⟨swap, hswap, hmemory⟩ |
    ⟨swap, limit, hswap, hlimit, hpositive, hbelow⟩)
  · obtain ⟨hsome, hsmall⟩ := (setPositive_nanoCpus_iff gpuRuntime config).mp hcpus
    have hset := (setPositive_cpuPeriod_iff gpuRuntime config).mp hperiod
    have hfree := hlaunchable.period hsome hsmall
    omega
  · obtain ⟨hsome, hsmall⟩ := (setPositive_nanoCpus_iff gpuRuntime config).mp hcpus
    have hset := (setPositive_cpuQuota_iff gpuRuntime config).mp hquota
    have hfree := hlaunchable.quota hsome hsmall
    omega
  · rw [memory_buildHostConfig] at hlimit
    rw [memoryReservation_buildHostConfig] at hreservation
    obtain ⟨hlarge, hset⟩ :=
      (exceeds_iff hvalid).mp ⟨limit, reservation, hlimit, hreservation, hexceeds⟩
    have hfree := hlaunchable.reservation hlarge
    omega
  · rw [memory_buildHostConfig] at hmemory
    have hne := ((memorySwap_eq_some_iff gpuRuntime config).mp hswap).1
    have hlimit := hlaunchable.swapAlone hne
    rw [positive_eq_none_iff.mp hmemory] at hlimit
    exact absurd hlimit (lt_irrefl 0)
  · rw [memory_buildHostConfig] at hlimit
    obtain ⟨-, rfl⟩ := (memorySwap_eq_some_iff gpuRuntime config).mp hswap
    obtain ⟨-, rfl⟩ := positive_eq_some_iff.mp hlimit
    have hbound : config.memory.limit.toNat < 2 ^ 64 := config.memory.limit.toNat_lt
    rw [toInt_toInt64] at hbelow
    split_ifs at hbelow with hsmall
    · have hcovers := hlaunchable.swapBelow hpositive hsmall
      omega
    · omega

/-- What is not rejected is launchable. -/
theorem launchable_of_not_rejected (hvalid : 0 < config.memory.limit.toNat →
      config.memory.reservation.toNat ≤ config.memory.limit.toNat)
    (haccepted : ¬Rejected (buildHostConfig gpuRuntime config)) :
    Launchable config.memory config.cpu where
  period hsome hsmall := by
    by_contra hset
    have hcpus := (setPositive_nanoCpus_iff gpuRuntime config).mpr ⟨hsome, hsmall⟩
    exact haccepted (.period hcpus ((setPositive_cpuPeriod_iff gpuRuntime config).mpr (by omega)))
  quota hsome hsmall := by
    by_contra hset
    have hcpus := (setPositive_nanoCpus_iff gpuRuntime config).mpr ⟨hsome, hsmall⟩
    exact haccepted (.quota hcpus ((setPositive_cpuQuota_iff gpuRuntime config).mpr (by omega)))
  reservation hlarge := by
    by_contra hset
    obtain ⟨limit, reservation, hlimit, hreservation, hexceeds⟩ :=
      (exceeds_iff hvalid).mpr ⟨hlarge, by omega⟩
    rw [← memory_buildHostConfig gpuRuntime] at hlimit
    rw [← memoryReservation_buildHostConfig gpuRuntime] at hreservation
    exact haccepted (.reservation limit reservation hlimit hreservation hexceeds)
  swapAlone hne := by
    by_contra hzero
    have hmemory : (buildHostConfig gpuRuntime config).memory = none := by
      rw [memory_buildHostConfig]
      exact positive_eq_none_iff.mpr (Nat.eq_zero_of_not_pos hzero)
    exact haccepted
      (.swapAlone _ ((memorySwap_eq_some_iff gpuRuntime config).mpr ⟨hne, rfl⟩) hmemory)
  swapBelow hpositive hsmall := by
    by_contra hbelow
    have hne : config.memory.swap ≠ 0 := by
      intro hzero
      rw [hzero] at hpositive
      exact absurd hpositive (by decide)
    have hlimit :
        (buildHostConfig gpuRuntime config).memory = some config.memory.limit.toInt64 := by
      rw [memory_buildHostConfig]
      exact positive_eq_some_iff.mpr ⟨by omega, rfl⟩
    refine haccepted (.swapBelow _ _
      ((memorySwap_eq_some_iff gpuRuntime config).mpr ⟨hne, rfl⟩) hlimit hpositive ?_)
    rw [toInt_toInt64, if_pos hsmall]
    exact not_le.mp hbelow

end Launch

/-- A configuration reserves no more memory than its limit. -/
theorem BuiltConfig.reservation_le (built : BuiltConfig overflowChecks)
    (hlimit : 0 < built.config.memory.limit.toNat) :
    built.config.memory.reservation.toNat ≤ built.config.memory.limit.toNat :=
  UInt64.le_iff_toNat_le.mp
    ((ContainerConfig.validate_eq_ok_iff.mp built.valid).2.2.2 (UInt64.lt_iff_toNat_lt.mpr hlimit))

/-- The daemon accepts a validated configuration exactly when no field of it is in the way of
another one. -/
theorem launchable_iff (gpuRuntime : Option String) (built : BuiltConfig overflowChecks) :
    ¬Rejected (buildHostConfig gpuRuntime built.config) ↔
      Launchable built.config.memory built.config.cpu :=
  ⟨launchable_of_not_rejected built.reservation_le,
    fun hlaunchable ↦ not_rejected hlaunchable built.reservation_le⟩

/-- Two CPUs and nothing else. -/
def twoCpus : BuiltConfig true where
  config := { ContainerConfig.new "job" "nginx" with cpu := .cpus 2 }
  memoryStart := .default
  memorySettings := []
  cpuStart := .cpus 2
  cpuSettings := []
  memory_built := rfl
  cpu_built := rfl
  valid := by decide

/-- The default period is in the way of a number of CPUs. -/
theorem two_cpus_rejected : Rejected (buildHostConfig none twoCpus.config) :=
  .period ((setPositive_nanoCpus_iff none twoCpus.config).mpr (by decide +kernel))
    ((setPositive_cpuPeriod_iff none twoCpus.config).mpr (by decide))

end Clawbernetes.ClawCompute
