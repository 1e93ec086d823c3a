import Clawbernetes.Library.FiniteTable
import Clawbernetes.Library.Runs
import Clawbernetes.MoltAttestation.Signing

/-!
# The state of a node

`NodeState` of `state.rs`: the registered workloads, each with the GPUs that it uses, and the flat
list of allocated GPUs. A workload is registered with any GPUs, and its removal releases them by
number. So the list covers the workloads in use exactly as long as no workload is registered with a
GPU of another one (`gpu_ownership_iff`). Allocations count the list in 32 bits, which comes out as
zero when every number is on it.

`Partitioned` is the stronger invariant of a node whose workloads are only registered with GPUs that
were allocated for them: the list is the disjoint union of the GPUs of the workloads.
-/

set_option autoImplicit false
set_option relaxedAutoImplicit false

namespace Clawbernetes.ClawNode

open Library.FiniteTable Library.Runs
open MoltAttestation (Uuid)

/-- The errors of `error.rs` that the node's state, its runtime and its handlers return. -/
inductive NodeError where
  | containerRuntime (message : String)
  | workloadExists (id : Uuid)
  | workloadNotFound (id : Uuid)
  | insufficientGpus (requested available : UInt32)
  deriving DecidableEq

/-- The display of an error. -/
def NodeError.display : NodeError → String
  | .containerRuntime message => "container runtime error: " ++ message
  | .workloadExists id => "workload already exists: " ++ id.display
  | .workloadNotFound id => "workload not found: " ++ id.display
  | .insufficientGpus requested available =>
    "insufficient GPUs: requested " ++ toString requested.toNat ++ ", available " ++
      toString available.toNat

/-- `WorkloadInfo`. -/
structure WorkloadInfo where
  id : Uuid
  image : String
  gpuIds : List UInt32
  containerId : Option String
  deriving DecidableEq

/-- `NodeState`, without the state of the connection. -/
structure NodeState where
  workloads : Table Uuid WorkloadInfo
  allocatedGpus : List UInt32
  totalGpus : UInt32

namespace NodeState

/-- `NodeState::with_gpus`. -/
def withGpus (totalGpus : UInt32) : NodeState := ⟨∅, [], totalGpus⟩

/-- `NodeState::available_gpu_count`. The length of the list is cut to 32 bits. -/
def availableGpuCount (state : NodeState) : UInt32 :=
  let allocated := UInt32.ofNat state.allocatedGpus.length
  if state.totalGpus < allocated then 0 else state.totalGpus - allocated

/-- The loop of `add_workload` over the GPUs of the workload. -/
def trackGpus (allocated gpuIds : List UInt32) : List UInt32 :=
  gpuIds.foldl (fun allocated gpu ↦ if gpu ∈ allocated then allocated else allocated ++ [gpu])
    allocated

/-- The loop that releases GPUs one after another. -/
def dropGpus (allocated gpuIds : List UInt32) : List UInt32 :=
  gpuIds.foldl (fun allocated gpu ↦ allocated.filter (· ≠ gpu)) allocated

/-- `NodeState::add_workload`. -/
def addWorkload (state : NodeState) (info : WorkloadInfo) : Except NodeError Unit × NodeState :=
  if (state.workloads.lookup info.id).isSome then (.error (.workloadExists info.id), state)
  else (.ok (), { state with
    allocatedGpus := trackGpus state.allocatedGpus info.gpuIds
    workloads := state.workloads.insert info.id info })

/-- `NodeState::remove_workload`. -/
def removeWorkload (state : NodeState) (id : Uuid) : Except NodeError WorkloadInfo × NodeState :=
  match state.workloads.lookup id with
  | none => (.error (.workloadNotFound id), state)
  | some info => (.ok info, { state with
    workloads := state.workloads.erase id
    allocatedGpus := dropGpus state.allocatedGpus info.gpuIds })

/-- The loop of `allocate_gpus` over the numbers that are left: the GPUs it picked so far and the
allocated ones. -/
def pickGpus (count : ℕ) :
    List UInt32 → List UInt32 → List UInt32 → List UInt32 × List UInt32
  | picked, allocated, [] => (picked, allocated)
  | picked, allocated, gpu :: rest =>
    if gpu ∈ allocated then pickGpus count picked allocated rest
    else if (picked ++ [gpu]).length = count then (picked ++ [gpu], allocated ++ [gpu])
    else pickGpus count (picked ++ [gpu]) (allocated ++ [gpu]) rest

/-- The numbers of the GPUs of the node, in their order. -/
def gpuNumbers (state : NodeState) : List UInt32 :=
  (List.range state.totalGpus.toNat).map UInt32.ofNat

/-- `NodeState::allocate_gpus`. -/
def allocateGpus (state : NodeState) (count : UInt32) :
    Except NodeError (List UInt32) × NodeState :=
  if count = 0 then (.ok [], state)
  else if state.availableGpuCount < count then
    (.error (.insufficientGpus count state.availableGpuCount), state)
  else
    let picked := pickGpus count.toNat [] state.allocatedGpus state.gpuNumbers
    (.ok picked.1, { state with allocatedGpus := picked.2 })

/-- `NodeState::release_gpus`. -/
def releaseGpus (state : NodeState) (gpuIds : List UInt32) : NodeState :=
  { state with allocatedGpus := dropGpus state.allocatedGpus gpuIds }

variable {state : NodeState}

/-! ### The list of allocated GPUs -/

/-- Tracking adds the GPUs of the workload. -/
theorem mem_trackGpus {allocated gpuIds : List UInt32} {gpu : UInt32} :
    gpu ∈ trackGpus allocated gpuIds ↔ gpu ∈ allocated ∨ gpu ∈ gpuIds := by
  unfold trackGpus
  induction gpuIds generalizing allocated with
  | nil => simp
  | cons first rest ih =>
    rw [List.foldl_cons, ih, List.mem_cons]
    split_ifs with hfirst
    · constructor
      · exact fun hmem ↦ hmem.imp_right .inr
      · rintro (hmem | rfl | hmem)
        · exact .inl hmem
        · exact .inl hfirst
        · exact .inr hmem
    · rw [List.mem_append, List.mem_singleton, or_assoc]

/-- Tracking keeps the list without repetitions. -/
theorem nodup_trackGpus {allocated : List UInt32} (hnodup : allocated.Nodup)
    (gpuIds : List UInt32) : (trackGpus allocated gpuIds).Nodup := by
  unfold trackGpus
  induction gpuIds generalizing allocated with
  | nil => exact hnodup
  | cons first rest ih =>
    rw [List.foldl_cons]
    split_ifs with hfirst
    · exact ih hnodup
    · rw [← List.concat_eq_append]
      exact ih (hnodup.concat hfirst)

/-- Nothing is added for GPUs that are allocated. -/
theorem trackGpus_of_subset {allocated gpuIds : List UInt32} (hsubset : gpuIds ⊆ allocated) :
    trackGpus allocated gpuIds = allocated := by
  unfold trackGpus
  induction gpuIds with
  | nil => rfl
  | cons first rest ih =>
    rw [List.cons_subset] at hsubset
    rw [List.foldl_cons, if_pos hsubset.1]
    exact ih hsubset.2

/-- The GPUs that are released are taken out. -/
theorem dropGpus_eq_filter (allocated gpuIds : List UInt32) :
    dropGpus allocated gpuIds = allocated.filter (· ∉ gpuIds) := by
  unfold dropGpus
  induction gpuIds generalizing allocated with
  | nil => simp
  | cons first rest ih =>
    rw [List.foldl_cons, ih, List.filter_filter]
    congr 1
    funext gpu
    simp [Bool.and_comm]

/-- Releasing keeps the other GPUs. -/
theorem mem_dropGpus {allocated gpuIds : List UInt32} {gpu : UInt32} :
    gpu ∈ dropGpus allocated gpuIds ↔ gpu ∈ allocated ∧ gpu ∉ gpuIds := by
  rw [dropGpus_eq_filter, List.mem_filter, decide_eq_true_iff]

/-- Releasing keeps the list without repetitions. -/
theorem nodup_dropGpus {allocated : List UInt32} (hnodup : allocated.Nodup)
    (gpuIds : List UInt32) : (dropGpus allocated gpuIds).Nodup := by
  rw [dropGpus_eq_filter]
  exact hnodup.filter _

/-- Releasing works on the parts of the list. -/
theorem dropGpus_append (first second gpuIds : List UInt32) :
    dropGpus (first ++ second) gpuIds = dropGpus first gpuIds ++ dropGpus second gpuIds := by
  simp only [dropGpus_eq_filter, List.filter_append]

/-- Nothing is left of the GPUs that are released. -/
theorem dropGpus_self (gpuIds : List UInt32) : dropGpus gpuIds gpuIds = [] := by
  rw [List.eq_nil_iff_forall_not_mem]
  intro gpu hgpu
  exact (mem_dropGpus.mp hgpu).2 (mem_dropGpus.mp hgpu).1

/-- Other GPUs are all left. -/
theorem dropGpus_of_disjoint {allocated gpuIds : List UInt32}
    (hdisjoint : allocated.Disjoint gpuIds) : dropGpus allocated gpuIds = allocated := by
  rw [dropGpus_eq_filter, List.filter_eq_self]
  exact fun gpu hgpu ↦ decide_eq_true (hdisjoint hgpu)

/-- The order of the list does not matter for what is left of it. -/
theorem dropGpus_perm {first second : List UInt32} (hperm : first.Perm second)
    (gpuIds : List UInt32) : (dropGpus first gpuIds).Perm (dropGpus second gpuIds) := by
  rw [dropGpus_eq_filter, dropGpus_eq_filter]
  exact hperm.filter _

/-- The GPUs of the node that are not allocated. -/
def freeGpus (state : NodeState) : List UInt32 :=
  state.gpuNumbers.filter (· ∉ state.allocatedGpus)

/-- The loop picks the first free GPUs, as many as are missing. The numbers that are left do not
repeat, so a picked one does not hide another. -/
theorem pickGpus_eq {count : ℕ} {picked allocated numbers : List UInt32}
    (hnumbers : numbers.Nodup) (hmissing : picked.length < count) :
    pickGpus count picked allocated numbers =
      (picked ++ (numbers.filter (· ∉ allocated)).take (count - picked.length),
        allocated ++ (numbers.filter (· ∉ allocated)).take (count - picked.length)) := by
  induction numbers generalizing picked allocated with
  | nil => simp [pickGpus]
  | cons gpu rest ih =>
    rw [List.nodup_cons] at hnumbers
    rw [pickGpus]
    by_cases hallocated : gpu ∈ allocated
    · rw [if_pos hallocated, ih hnumbers.2 hmissing,
        List.filter_cons_of_neg (by simpa using hallocated)]
    · have hrest : rest.filter (· ∉ allocated ++ [gpu]) = rest.filter (· ∉ allocated) := by
        apply List.filter_congr
        intro other hother
        have hne : other ≠ gpu := fun hsame ↦ hnumbers.1 (hsame ▸ hother)
        simp [hne]
      have htake : ∀ others : List UInt32, (gpu :: others).take (count - picked.length) =
          gpu :: others.take (count - (picked ++ [gpu]).length) := by
        intro others
        have hsucc : count - picked.length = count - (picked ++ [gpu]).length + 1 := by
          rw [List.length_append, List.length_singleton]
          omega
        rw [hsucc, List.take_succ_cons]
      rw [if_neg hallocated, List.filter_cons_of_pos (by simpa using hallocated), htake]
      split_ifs with hlast
      · rw [hlast, Nat.sub_self, List.take_zero]
      · have hlonger : (picked ++ [gpu]).length < count := by
          rw [List.length_append, List.length_singleton] at hlast ⊢
          omega
        rw [ih hnumbers.2 hlonger, hrest]
        simp only [List.append_assoc, List.singleton_append]

/-- The numbers of the GPUs do not repeat. -/
theorem nodup_gpuNumbers (state : NodeState) : state.gpuNumbers.Nodup := by
  unfold gpuNumbers
  refine List.Nodup.map_on ?_ List.nodup_range
  intro first hfirst second hsecond hsame
  have htotal := state.totalGpus.toNat_lt
  rw [List.mem_range] at hfirst hsecond
  have hnat := congrArg UInt32.toNat hsame
  rwa [UInt32.toNat_ofNat_of_lt' (hfirst.trans htotal),
    UInt32.toNat_ofNat_of_lt' (hsecond.trans htotal)] at hnat

/-- The numbers of the GPUs are those below their count. -/
theorem mem_gpuNumbers {gpu : UInt32} : gpu ∈ state.gpuNumbers ↔ gpu < state.totalGpus := by
  unfold gpuNumbers
  rw [List.mem_map, UInt32.lt_iff_toNat_lt]
  constructor
  · rintro ⟨number, hnumber, rfl⟩
    rw [List.mem_range] at hnumber
    rwa [UInt32.toNat_ofNat_of_lt' (hnumber.trans state.totalGpus.toNat_lt)]
  · exact fun hgpu ↦ ⟨gpu.toNat, List.mem_range.mpr hgpu, UInt32.ofNat_toNat⟩

/-- The free GPUs are the unallocated ones of the node. -/
theorem mem_freeGpus {gpu : UInt32} :
    gpu ∈ state.freeGpus ↔ gpu < state.totalGpus ∧ gpu ∉ state.allocatedGpus := by
  unfold freeGpus
  rw [List.mem_filter, mem_gpuNumbers, decide_eq_true_iff]

/-- What an allocation takes. -/
def taken (state : NodeState) (count : UInt32) : List UInt32 := state.freeGpus.take count.toNat

/-- What is taken does not repeat, is free and within the node. -/
theorem taken_spec (state : NodeState) (count : UInt32) :
    (state.taken count).Nodup ∧
      ∀ gpu ∈ state.taken count, gpu < state.totalGpus ∧ gpu ∉ state.allocatedGpus := by
  have hfree : state.freeGpus.Nodup := (nodup_gpuNumbers state).filter _
  refine ⟨(List.take_sublist _ _).nodup hfree, fun gpu hgpu ↦ ?_⟩
  exact mem_freeGpus.mp (List.mem_of_mem_take hgpu)

/-- The state with some GPUs allocated. -/
def withAllocated (state : NodeState) (gpuIds : List UInt32) : NodeState :=
  { state with allocatedGpus := state.allocatedGpus ++ gpuIds }

/-- An allocation of no more than the available GPUs takes the first free ones. -/
theorem allocateGpus_of_le {count : UInt32} (hcount : count ≤ state.availableGpuCount) :
    state.allocateGpus count =
      (.ok (state.taken count), state.withAllocated (state.taken count)) := by
  unfold allocateGpus
  split_ifs with hzero hmore
  · subst hzero
    simp [taken, withAllocated]
  · exact absurd hmore (UInt32.not_lt.mpr hcount)
  · have hpositive : ([] : List UInt32).length < count.toNat := by
      rw [List.length_nil, Nat.pos_iff_ne_zero]
      exact fun hnat ↦ hzero (UInt32.toNat_inj.mp hnat)
    rw [pickGpus_eq (nodup_gpuNumbers state) hpositive]
    rfl

/-- An allocation of more than the available GPUs fails. -/
theorem allocateGpus_of_lt {count : UInt32} (hcount : state.availableGpuCount < count) :
    state.allocateGpus count =
      (.error (.insufficientGpus count state.availableGpuCount), state) := by
  unfold allocateGpus
  have hzero : count ≠ 0 := by
    rintro rfl
    exact UInt32.not_lt_zero hcount
  rw [if_neg hzero, if_pos hcount]

/-- An allocation fails and changes nothing, or takes the first free GPUs. -/
theorem allocateGpus_cases (state : NodeState) (count : UInt32) :
    state.availableGpuCount < count ∧ state.allocateGpus count =
        (.error (.insufficientGpus count state.availableGpuCount), state) ∨
      count ≤ state.availableGpuCount ∧ state.allocateGpus count =
        (.ok (state.taken count), state.withAllocated (state.taken count)) := by
  by_cases hmore : state.availableGpuCount < count
  · exact .inl ⟨hmore, allocateGpus_of_lt hmore⟩
  · exact .inr ⟨UInt32.not_lt.mp hmore, allocateGpus_of_le (UInt32.not_lt.mp hmore)⟩

/-- There are no more free GPUs missing than allocated ones. -/
theorem totalGpus_le (state : NodeState) :
    state.totalGpus.toNat ≤ state.freeGpus.length + state.allocatedGpus.length := by
  have hsplit := List.length_eq_length_filter_add
    (fun gpu ↦ decide (gpu ∉ state.allocatedGpus)) (l := state.gpuNumbers)
  have htaken : (state.gpuNumbers.filter fun gpu ↦ !decide (gpu ∉ state.allocatedGpus)).length ≤
      state.allocatedGpus.length := by
    refine (List.subperm_of_subset ((nodup_gpuNumbers state).filter _) ?_).length_le
    intro gpu hgpu
    simpa using (List.mem_filter.mp hgpu).2
  have htotal : state.gpuNumbers.length = state.totalGpus.toNat := by
    unfold gpuNumbers
    rw [List.length_map, List.length_range]
  unfold freeGpus
  omega

/-- A list without repetitions has at most all numbers. -/
theorem length_le_of_nodup {gpuIds : List UInt32} (hnodup : gpuIds.Nodup) :
    gpuIds.length ≤ 2 ^ 32 := by
  have hnumbers : (gpuIds.map UInt32.toNat).Nodup :=
    hnodup.map fun _ _ hsame ↦ UInt32.toNat_inj.mp hsame
  have hsubset : gpuIds.map UInt32.toNat ⊆ List.range (2 ^ 32) := by
    intro number hnumber
    obtain ⟨gpu, -, rfl⟩ := List.mem_map.mp hnumber
    exact List.mem_range.mpr gpu.toNat_lt
  have hlength := (List.subperm_of_subset hnumbers hsubset).length_le
  rwa [List.length_map, List.length_range] at hlength

/-- A list without repetitions that leaves a number out is shorter than all numbers. -/
theorem length_lt_of_notMem {gpuIds : List UInt32} (hnodup : gpuIds.Nodup) {gpu : UInt32}
    (hgpu : gpu ∉ gpuIds) : gpuIds.length < 2 ^ 32 := by
  have hlength := length_le_of_nodup (hnodup.cons hgpu)
  rwa [List.length_cons] at hlength

/-- The count of the available GPUs is exact as long as some number is not allocated. -/
theorem availableGpuCount_toNat (hnodup : state.allocatedGpus.Nodup) {gpu : UInt32}
    (hgpu : gpu ∉ state.allocatedGpus) :
    state.availableGpuCount.toNat = state.totalGpus.toNat - state.allocatedGpus.length := by
  have hlength : (UInt32.ofNat state.allocatedGpus.length).toNat = state.allocatedGpus.length :=
    UInt32.toNat_ofNat_of_lt' (length_lt_of_notMem hnodup hgpu)
  unfold availableGpuCount
  simp only [UInt32.lt_iff_toNat_lt, hlength]
  split_ifs with hmore
  · rw [UInt32.toNat_zero]
    omega
  · rw [UInt32.toNat_sub_of_le _ _ (by rw [UInt32.le_iff_toNat_le, hlength]; omega), hlength]

/-- As long as some number is not allocated, an allocation that succeeds takes all it was asked
for. -/
theorem length_taken (hnodup : state.allocatedGpus.Nodup) {gpu : UInt32}
    (hgpu : gpu ∉ state.allocatedGpus) {count : UInt32} (hcount : count ≤ state.availableGpuCount) :
    (state.taken count).length = count.toNat := by
  have havailable := availableGpuCount_toNat hnodup hgpu
  have htotal := totalGpus_le state
  rw [UInt32.le_iff_toNat_le] at hcount
  unfold taken
  rw [List.length_take]
  omega

/-! ### Ownership -/

/-- A registered workload uses a GPU. -/
def Owns (state : NodeState) (key : Uuid) (gpu : UInt32) : Prop :=
  ∃ info, state.workloads.lookup key = some info ∧ gpu ∈ info.gpuIds

/-- No GPU belongs to two workloads, and the GPUs of all workloads are allocated. -/
def Exclusive (state : NodeState) : Prop :=
  (∀ gpu first second, state.Owns first gpu → state.Owns second gpu → first = second) ∧
    ∀ gpu key, state.Owns key gpu → gpu ∈ state.allocatedGpus

/-- A call of an operation of the state. -/
inductive Operation where
  | addWorkload (info : WorkloadInfo)
  | removeWorkload (id : Uuid)
  | allocateGpus (count : UInt32)
  | releaseGpus (gpuIds : List UInt32)

/-- The state after a call. -/
def step (state : NodeState) : Operation → NodeState
  | .addWorkload info => (state.addWorkload info).2
  | .removeWorkload id => (state.removeWorkload id).2
  | .allocateGpus count => (state.allocateGpus count).2
  | .releaseGpus gpuIds => state.releaseGpus gpuIds

/-- A call releases no GPU of a registered workload. -/
def ReleasesUnowned (state : NodeState) : Operation → Prop
  | .releaseGpus gpuIds => ∀ gpu ∈ gpuIds, ∀ key, ¬state.Owns key gpu
  | _ => True

/-- A successful allocation returns as many GPUs as it was asked for, all different, of the node,
not allocated before and not used by a workload. -/
def AllocationSound (state : NodeState) : Operation → Prop
  | .allocateGpus count => ∀ gpuIds, (state.allocateGpus count).1 = .ok gpuIds →
      gpuIds.length = count.toNat ∧ gpuIds.Nodup ∧
        ∀ gpu ∈ gpuIds, gpu < state.totalGpus ∧ gpu ∉ state.allocatedGpus ∧
          ∀ key, ¬state.Owns key gpu
  | _ => True

/-- A call does not register a new workload with a GPU of a registered one. -/
def AddsUnowned (state : NodeState) : Operation → Prop
  | .addWorkload info => (state.workloads.lookup info.id).isSome = false →
      ∀ gpu ∈ info.gpuIds, ∀ key, ¬state.Owns key gpu
  | _ => True

/-- A call does not ask for some of the node's GPUs when all `2 ^ 32` numbers are allocated. -/
def CountsAllocated (state : NodeState) : Operation → Prop
  | .allocateGpus count => 0 < count → count ≤ state.totalGpus → ∃ gpu, gpu ∉ state.allocatedGpus
  | _ => True

/-- The list of allocated GPUs never repeats a number. -/
theorem nodup_step (hnodup : state.allocatedGpus.Nodup) (operation : Operation) :
    (state.step operation).allocatedGpus.Nodup := by
  cases operation with
  | addWorkload info =>
    change (state.addWorkload info).2.allocatedGpus.Nodup
    unfold addWorkload
    split_ifs
    · exact hnodup
    · exact nodup_trackGpus hnodup info.gpuIds
  | removeWorkload id =>
    change (state.removeWorkload id).2.allocatedGpus.Nodup
    unfold removeWorkload
    cases state.workloads.lookup id with
    | none => exact hnodup
    | some info =>
      exact nodup_dropGpus hnodup info.gpuIds
  | allocateGpus count =>
    change (state.allocateGpus count).2.allocatedGpus.Nodup
    rcases allocateGpus_cases state count with ⟨-, hfails⟩ | ⟨-, htakes⟩
    · rw [hfails]
      exact hnodup
    · rw [htakes]
      obtain ⟨htaken, hfree⟩ := taken_spec state count
      exact hnodup.append htaken fun gpu hallocated hgpu ↦ (hfree gpu hgpu).2 hallocated
  | releaseGpus gpuIds => exact nodup_dropGpus hnodup gpuIds

/-- What is owned after a workload was registered under a new key. -/
theorem owns_insert_iff {info : WorkloadInfo} {allocated : List UInt32}
    (hnew : state.workloads.lookup info.id = none) {key : Uuid} {gpu : UInt32} :
    Owns { state with allocatedGpus := allocated, workloads := state.workloads.insert info.id info }
        key gpu ↔ key = info.id ∧ gpu ∈ info.gpuIds ∨ state.Owns key gpu := by
  unfold Owns
  by_cases hkey : key = info.id
  · subst hkey
    simp [AList.lookup_insert, hnew]
  · simp [AList.lookup_insert_ne hkey, hkey]

/-- What is owned after a workload was removed. -/
theorem owns_erase_iff {id : Uuid} {allocated : List UInt32} {key : Uuid} {gpu : UInt32} :
    Owns { state with workloads := state.workloads.erase id, allocatedGpus := allocated } key gpu ↔
      key ≠ id ∧ state.Owns key gpu := by
  unfold Owns
  by_cases hkey : key = id
  · subst hkey
    simp [AList.lookup_erase]
  · simp [AList.lookup_erase_ne hkey, hkey]

/-- Registering a workload keeps the GPUs exclusive exactly when it names no GPU of another one. -/
theorem exclusive_addWorkload_iff (hexclusive : state.Exclusive) (info : WorkloadInfo) :
    (state.addWorkload info).2.Exclusive ↔ state.AddsUnowned (.addWorkload info) := by
  unfold addWorkload
  split_ifs with hknown
  · exact iff_of_true hexclusive fun hunknown ↦ by rw [hknown] at hunknown; cases hunknown
  · have hnew : state.workloads.lookup info.id = none := by simpa using hknown
    have hfresh : ∀ gpu, ¬state.Owns info.id gpu := by
      rintro gpu ⟨other, hother, -⟩
      rw [hnew] at hother
      cases hother
    unfold Exclusive
    simp only [owns_insert_iff hnew]
    constructor
    · intro hafter _ gpu hgpu key howns
      have hsame := hafter.1 gpu info.id key (.inl ⟨rfl, hgpu⟩) (.inr howns)
      exact hfresh gpu (hsame ▸ howns)
    · intro hunowned
      have hothers := hunowned (by simpa using hknown)
      refine ⟨?_, ?_⟩
      · rintro gpu first second (⟨rfl, hfirst⟩ | hfirst) (⟨rfl, hsecond⟩ | hsecond)
        · rfl
        · exact absurd hsecond (hothers gpu hfirst second)
        · exact absurd hfirst (hothers gpu hsecond first)
        · exact hexclusive.1 gpu first second hfirst hsecond
      · rintro gpu key (⟨-, hgpu⟩ | howns)
        · exact mem_trackGpus.mpr (.inr hgpu)
        · exact mem_trackGpus.mpr (.inl (hexclusive.2 gpu key howns))

/-- Removing a workload keeps the GPUs exclusive. -/
theorem exclusive_removeWorkload (hexclusive : state.Exclusive) (id : Uuid) :
    (state.removeWorkload id).2.Exclusive := by
  unfold removeWorkload
  cases hlookup : state.workloads.lookup id with
  | none => exact hexclusive
  | some info =>
    change Exclusive { state with workloads := _, allocatedGpus := _ }
    unfold Exclusive
    simp only [owns_erase_iff]
    refine ⟨fun gpu first second hfirst hsecond ↦ ?_, fun gpu key howns ↦ ?_⟩
    · exact hexclusive.1 gpu first second hfirst.2 hsecond.2
    · have hkept : gpu ∉ info.gpuIds := fun hgpu ↦
        howns.1 (hexclusive.1 gpu key id howns.2 ⟨info, hlookup, hgpu⟩)
      exact mem_dropGpus.mpr ⟨hexclusive.2 gpu key howns.2, hkept⟩

/-- From exclusive GPUs, a call that releases no GPU of a workload ends with exclusive GPUs exactly
when it registers no workload with a GPU of another one. -/
theorem exclusive_step_iff (hexclusive : state.Exclusive) {operation : Operation}
    (hreleases : state.ReleasesUnowned operation) :
    (state.step operation).Exclusive ↔ state.AddsUnowned operation := by
  cases operation with
  | addWorkload info => exact exclusive_addWorkload_iff hexclusive info
  | removeWorkload id => exact iff_of_true (exclusive_removeWorkload hexclusive id) trivial
  | allocateGpus count =>
    refine iff_of_true ?_ trivial
    change (state.allocateGpus count).2.Exclusive
    rcases allocateGpus_cases state count with ⟨-, hfails⟩ | ⟨-, htakes⟩
    · rw [hfails]
      exact hexclusive
    · rw [htakes]
      exact ⟨hexclusive.1, fun gpu key howns ↦
        List.mem_append_left _ (hexclusive.2 gpu key howns)⟩
  | releaseGpus gpuIds =>
    refine iff_of_true ⟨hexclusive.1, fun gpu key howns ↦ ?_⟩ trivial
    have hkept : gpu ∉ gpuIds := fun hgpu ↦ hreleases gpu hgpu key howns
    exact mem_dropGpus.mpr ⟨hexclusive.2 gpu key howns, hkept⟩

/-- When all numbers are allocated, the count of the available GPUs comes out as all of them. -/
theorem availableGpuCount_of_full (hnodup : state.allocatedGpus.Nodup)
    (hfull : ∀ gpu, gpu ∈ state.allocatedGpus) : state.availableGpuCount = state.totalGpus := by
  have hleast : List.range (2 ^ 32) ⊆ state.allocatedGpus.map UInt32.toNat := by
    intro number hnumber
    exact List.mem_map.mpr ⟨UInt32.ofNat number, hfull _,
      UInt32.toNat_ofNat_of_lt' (List.mem_range.mp hnumber)⟩
  have hupper := length_le_of_nodup hnodup
  have hlower := (List.subperm_of_subset List.nodup_range hleast).length_le
  rw [List.length_map, List.length_range] at hlower
  have hcut : UInt32.ofNat state.allocatedGpus.length = 0 := by
    rw [Nat.le_antisymm hupper hlower]
    rfl
  unfold availableGpuCount
  rw [hcut, if_neg UInt32.not_lt_zero, UInt32.sub_zero]

/-- No more GPUs are counted as available than the node has. -/
theorem availableGpuCount_le (state : NodeState) : state.availableGpuCount ≤ state.totalGpus := by
  unfold availableGpuCount
  simp only
  split_ifs with hmore
  · exact UInt32.zero_le
  · exact UInt32.sub_le (UInt32.not_lt.mp hmore)

/-- From exclusive GPUs, a successful allocation returns what it was asked for exactly when it is
not made with all numbers allocated. -/
theorem allocationSound_iff (hexclusive : state.Exclusive) (hnodup : state.allocatedGpus.Nodup)
    (operation : Operation) :
    state.AllocationSound operation ↔ state.CountsAllocated operation := by
  cases operation with
  | addWorkload info => exact Iff.rfl
  | removeWorkload id => exact Iff.rfl
  | releaseGpus gpuIds => exact Iff.rfl
  | allocateGpus count =>
    obtain ⟨htaken, hfree⟩ := taken_spec state count
    have hunowned : ∀ gpu ∈ state.taken count, gpu < state.totalGpus ∧
        gpu ∉ state.allocatedGpus ∧ ∀ key, ¬state.Owns key gpu := fun gpu hgpu ↦
      ⟨(hfree gpu hgpu).1, (hfree gpu hgpu).2, fun key howns ↦
        (hfree gpu hgpu).2 (hexclusive.2 gpu key howns)⟩
    rcases allocateGpus_cases state count with ⟨hmore, hfails⟩ | ⟨hle, htakes⟩
    · refine iff_of_true (fun gpuIds hok ↦ by rw [hfails] at hok; cases hok)
        fun hpositive htotal ↦ ?_
      by_contra hfull
      rw [availableGpuCount_of_full hnodup (by simpa using hfull)] at hmore
      exact UInt32.not_lt.mpr htotal hmore
    · have hsound : state.AllocationSound (.allocateGpus count) ↔
          (state.taken count).length = count.toNat := by
        change (∀ gpuIds, (state.allocateGpus count).1 = _ → _) ↔ _
        rw [htakes]
        simp only [Except.ok.injEq, forall_eq']
        exact and_iff_left ⟨htaken, hunowned⟩
      rw [hsound]
      constructor
      · intro hlength hpositive _
        by_contra hfull
        have hnone : state.taken count = [] := by
          rw [List.eq_nil_iff_forall_not_mem]
          exact fun gpu hgpu ↦ hfull ⟨gpu, (hfree gpu hgpu).2⟩
        rw [hnone, List.length_nil] at hlength
        exact absurd hpositive (UInt32.not_lt.mpr (UInt32.le_iff_toNat_le.mpr (by omega)))
      · intro hcounts
        by_cases hzero : count = 0
        · subst hzero
          simp [taken]
        · have hpositive : 0 < count := UInt32.pos_iff_ne_zero.mpr hzero
          obtain ⟨gpu, hgpu⟩ := hcounts hpositive
            (UInt32.le_trans hle (availableGpuCount_le state))
          exact length_taken hnodup hgpu hle

/-- In every run that releases no GPU of a registered workload by hand: the GPUs of the workloads
are exclusive and allocated in every state and every successful allocation returns what it was asked
for, all unused, if and only if no workload is registered with a GPU of another one and no GPUs are
asked for when all `2 ^ 32` numbers are allocated. -/
theorem gpu_ownership_iff (totalGpus : UInt32) (operations : List Operation)
    (hreleases : Throughout step ReleasesUnowned (withGpus totalGpus) operations) :
    (Always step Exclusive (withGpus totalGpus) operations ∧
        Throughout step AllocationSound (withGpus totalGpus) operations) ↔
      Throughout step (fun state operation ↦ state.AddsUnowned operation ∧
        state.CountsAllocated operation) (withGpus totalGpus) operations := by
  have hnodup : Always step (fun state ↦ state.allocatedGpus.Nodup) (withGpus totalGpus)
      operations := by
    apply always_of_step
    · exact List.nodup_nil
    · intro state operation hbefore
      exact nodup_step hbefore operation
  have hstart : (withGpus totalGpus).Exclusive := by
    have hnone : ∀ key gpu, ¬(withGpus totalGpus).Owns key gpu := by
      rintro key gpu ⟨info, hinfo, -⟩
      cases hinfo
    exact ⟨fun gpu first _ hfirst ↦ absurd hfirst (hnone first gpu),
      fun gpu key howns ↦ absurd howns (hnone key gpu)⟩
  have hexclusive : Always step Exclusive (withGpus totalGpus) operations ↔
      Throughout step AddsUnowned (withGpus totalGpus) operations :=
    always_iff_throughout_along hstart fun done operation hdone hgood ↦
      exclusive_step_iff hgood (hreleases done operation hdone)
  have hsound (halways : Always step Exclusive (withGpus totalGpus) operations) :
      Throughout step AllocationSound (withGpus totalGpus) operations ↔
        Throughout step CountsAllocated (withGpus totalGpus) operations :=
    throughout_congr fun done operation hdone ↦ allocationSound_iff
      (halways done (prefix_of_concat hdone)) (hnodup done (prefix_of_concat hdone)) operation
  constructor
  · rintro ⟨halways, hallocations⟩ done operation hdone
    exact ⟨hexclusive.mp halways done operation hdone,
      (hsound halways).mp hallocations done operation hdone⟩
  · intro hboth
    have halways := hexclusive.mpr fun done operation hdone ↦ (hboth done operation hdone).1
    exact ⟨halways, (hsound halways).mpr fun done operation hdone ↦ (hboth done operation hdone).2⟩

/-- A workload of a byte with some GPUs. -/
def workloadOf (byte : UInt8) (gpuIds : List UInt32) : WorkloadInfo :=
  ⟨Uuid.ofByte byte, "nginx", gpuIds, none⟩

/-- A workload is registered, a GPU is allocated and released beside it, and the workload is
removed. -/
def besideWorkload : List Operation :=
  [.addWorkload (workloadOf 1 [0]), .allocateGpus 1, .releaseGpus [1],
    .removeWorkload (Uuid.ofByte 1)]

/-- The GPU of the workload stays its own. -/
theorem beside_workload_owned :
    Always step Exclusive (withGpus 2) besideWorkload ∧
      Throughout step AllocationSound (withGpus 2) besideWorkload := by
  have hreleases : Throughout step ReleasesUnowned (withGpus 2) besideWorkload := by
    simp only [besideWorkload, throughout_cons, ReleasesUnowned, true_and]
    refine ⟨?_, throughout_nil⟩
    rintro gpu hgpu key ⟨info, hinfo, howned⟩
    rw [List.mem_singleton.mp hgpu] at howned
    have hentry : info = workloadOf 1 [0] := by
      by_cases hkey : key = Uuid.ofByte 1
      · subst hkey
        exact (Option.some_inj.mp hinfo).symm
      · have hnone : AList.lookup key (AList.insert (Uuid.ofByte 1) (workloadOf 1 [0]) ∅ :
            Table Uuid WorkloadInfo) = none := by
          rw [AList.lookup_insert_ne hkey, AList.lookup_empty]
        exact absurd (hnone.symm.trans hinfo) (by simp)
    rw [hentry] at howned
    exact absurd howned (by decide)
  refine (gpu_ownership_iff 2 besideWorkload hreleases).mpr ?_
  simp only [besideWorkload, throughout_cons, AddsUnowned, CountsAllocated, and_true, true_and]
  refine ⟨?_, fun _ _ ↦ ⟨1, by decide⟩, throughout_nil⟩
  rintro - gpu - key ⟨info, hinfo, -⟩
  cases hinfo

/-- Two workloads are registered with one GPU, and the first one is removed. -/
def sharedGpu : List Operation :=
  [.addWorkload (workloadOf 1 [0]), .addWorkload (workloadOf 2 [0]),
    .removeWorkload (Uuid.ofByte 1)]

/-- The GPU belongs to both workloads, and the removal of one frees it: it is allocated again while
the other workload uses it. -/
theorem shared_gpu_allocated_again :
    Throughout step ReleasesUnowned (withGpus 2) sharedGpu ∧
      ¬Always step Exclusive (withGpus 2) sharedGpu ∧
      ((sharedGpu.foldl step (withGpus 2)).allocateGpus 1).1 = .ok [0] ∧
      (sharedGpu.foldl step (withGpus 2)).Owns (Uuid.ofByte 2) 0 := by
  refine ⟨?_, fun halways ↦ ?_, rfl, workloadOf 2 [0], rfl, List.mem_singleton.mpr rfl⟩
  · simp only [sharedGpu, throughout_cons, ReleasesUnowned, true_and]
    exact throughout_nil
  · have hboth := halways (sharedGpu.take 2) (List.take_prefix 2 sharedGpu)
    have hsame := hboth.1 0 (Uuid.ofByte 1) (Uuid.ofByte 2)
      ⟨workloadOf 1 [0], rfl, List.mem_singleton.mpr rfl⟩
      ⟨workloadOf 2 [0], rfl, List.mem_singleton.mpr rfl⟩
    exact absurd hsame (by decide)

/-! ### Workloads with GPUs that were allocated for them -/

/-- The GPUs of all workloads. -/
def held (state : NodeState) : List UInt32 :=
  state.workloads.entries.flatMap fun entry ↦ entry.2.gpuIds

/-- The allocated GPUs are GPUs of the node and the disjoint union of those of the workloads. -/
structure Partitioned (totalGpus : UInt32) (state : NodeState) : Prop where
  total : state.totalGpus = totalGpus
  nodup : state.allocatedGpus.Nodup
  within : ∀ gpu ∈ state.allocatedGpus, gpu < totalGpus
  union : state.allocatedGpus.Perm state.held

variable {totalGpus : UInt32}

/-- A new node has no workload and no allocated GPU. -/
theorem partitioned_withGpus (totalGpus : UInt32) : (withGpus totalGpus).Partitioned totalGpus :=
  ⟨rfl, List.nodup_nil, fun _ hgpu ↦ absurd hgpu List.not_mem_nil, List.Perm.nil⟩

/-- Releasing what was just taken gives the state back. -/
theorem releaseGpus_withAllocated (state : NodeState) (count : UInt32) :
    (state.withAllocated (state.taken count)).releaseGpus (state.taken count) = state := by
  have hdisjoint : state.allocatedGpus.Disjoint (state.taken count) := fun gpu hgpu htaken ↦
    ((taken_spec state count).2 gpu htaken).2 hgpu
  have hkept : dropGpus (state.allocatedGpus ++ state.taken count) (state.taken count) =
      state.allocatedGpus := by
    rw [dropGpus_append, dropGpus_of_disjoint hdisjoint, dropGpus_self, List.append_nil]
  unfold releaseGpus withAllocated
  rw [hkept]

/-- A new workload with GPUs that were just taken is registered. -/
theorem addWorkload_withAllocated {info : WorkloadInfo} {count : UInt32}
    (hnew : state.workloads.lookup info.id = none) (hgpus : info.gpuIds = state.taken count) :
    (state.withAllocated (state.taken count)).addWorkload info =
      (.ok (), { state.withAllocated (state.taken count) with
        workloads := state.workloads.insert info.id info }) := by
  have htracked : trackGpus (state.allocatedGpus ++ state.taken count) info.gpuIds =
      state.allocatedGpus ++ state.taken count :=
    trackGpus_of_subset (hgpus ▸ List.subset_append_right _ _)
  unfold addWorkload withAllocated
  simp only [hnew, htracked]
  rfl

/-- Such a workload keeps the partition. -/
theorem Partitioned.insert (hpartitioned : state.Partitioned totalGpus) {info : WorkloadInfo}
    {count : UInt32} (hnew : state.workloads.lookup info.id = none)
    (hgpus : info.gpuIds = state.taken count) :
    Partitioned totalGpus { state.withAllocated (state.taken count) with
      workloads := state.workloads.insert info.id info } where
  total := hpartitioned.total
  nodup := hpartitioned.nodup.append (taken_spec state count).1 fun gpu hallocated hgpu ↦
    ((taken_spec state count).2 gpu hgpu).2 hallocated
  within := by
    intro gpu hgpu
    rcases List.mem_append.mp hgpu with hold | htaken
    · exact hpartitioned.within gpu hold
    · exact hpartitioned.total ▸ ((taken_spec state count).2 gpu htaken).1
  union := by
    have hheld : held { state.withAllocated (state.taken count) with
        workloads := state.workloads.insert info.id info } = state.taken count ++ state.held := by
      unfold held
      rw [AList.entries_insert_of_notMem (AList.lookup_eq_none.mp hnew), List.flatMap_cons, hgpus]
    rw [hheld]
    exact (hpartitioned.union.append_right _).trans List.perm_append_comm

/-- Removing a workload keeps the partition. -/
theorem Partitioned.removeWorkload (hpartitioned : state.Partitioned totalGpus) (id : Uuid) :
    (state.removeWorkload id).2.Partitioned totalGpus := by
  unfold NodeState.removeWorkload
  cases hlookup : state.workloads.lookup id with
  | none => exact hpartitioned
  | some info =>
    have hsplit : state.allocatedGpus.Perm
        (info.gpuIds ++ (state.workloads.erase id).entries.flatMap fun entry ↦ entry.2.gpuIds) :=
      hpartitioned.union.trans ((perm_lookup_cons_erase hlookup).flatMap_right _)
    have hdisjoint := (List.nodup_append'.mp (hsplit.nodup_iff.mp hpartitioned.nodup)).2.2
    refine ⟨hpartitioned.total, nodup_dropGpus hpartitioned.nodup info.gpuIds,
      fun gpu hgpu ↦ ?_, ?_⟩
    · exact hpartitioned.within gpu (mem_dropGpus.mp hgpu).1
    · refine (dropGpus_perm hsplit info.gpuIds).trans ?_
      rw [dropGpus_append, dropGpus_self, List.nil_append,
        dropGpus_of_disjoint fun gpu hkept howned ↦ hdisjoint howned hkept]
      exact List.Perm.refl _

end NodeState

end Clawbernetes.ClawNode
