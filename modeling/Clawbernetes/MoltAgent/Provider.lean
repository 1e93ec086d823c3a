import Clawbernetes.Library.MachineWords
import Clawbernetes.Library.Runs
import Clawbernetes.MoltAgent.Autonomy
import Mathlib.Algebra.BigOperators.Group.List.Basic

/-!
# The capacity and the decisions of a provider

`provider.rs` has two admission checks that are written apart. `ProviderState.allocate` takes
capacity for a job, and `ProviderDecisionMaker.evaluate` decides about a job before that, with the
autonomy mode and the policy of the provider. Prices per unit are `f64` values in the source; here
they are values of any arithmetic, and no result depends on which one it is.

A run is a sequence of `allocate` and `release` calls in which a release names the amount of an
active job. `provider_accounts` is the account of every such run: the allocated capacity is the sum
of the amounts of the active jobs, within the capacity and the maximum of jobs, and in every state
the decisions agree with the allocator, refusal for refusal.
-/

set_option autoImplicit false
set_option relaxedAutoImplicit false

namespace Clawbernetes.MoltAgent

open Library.MachineWords Library.Runs

/-! ### The provider's state -/

/-- `ProviderState`, without the provider's identifier. -/
structure ProviderState where
  capacity : UInt64
  allocated : UInt64
  activeJobs : UInt32
  maxJobs : UInt32
  earnings : UInt64
  deriving DecidableEq

/-- `ProviderError`. -/
inductive ProviderError where
  | insufficientCapacity (required available : UInt64)
  | maxJobsReached (max : UInt32)
  deriving DecidableEq

namespace ProviderState

/-- `ProviderState::new`. -/
def new (capacity : UInt64) (maxJobs : UInt32) : ProviderState where
  capacity := capacity
  allocated := 0
  activeJobs := 0
  maxJobs := maxJobs
  earnings := 0

/-- `ProviderState::available_capacity`. -/
def availableCapacity (state : ProviderState) : UInt64 :=
  saturatingSub64 state.capacity state.allocated

/-- `ProviderState::allocate`. -/
def allocate (state : ProviderState) (amount : UInt64) :
    Except ProviderError Unit × ProviderState :=
  if state.availableCapacity < amount then
    (.error (.insufficientCapacity amount state.availableCapacity), state)
  else if state.maxJobs ≤ state.activeJobs then (.error (.maxJobsReached state.maxJobs), state)
  else (.ok (), { state with
    allocated := state.allocated + amount
    activeJobs := state.activeJobs + 1 })

/-- `ProviderState::release`. -/
def release (state : ProviderState) (amount payment : UInt64) : ProviderState :=
  { state with
    allocated := saturatingSub64 state.allocated amount
    activeJobs := saturatingSub32 state.activeJobs 1
    earnings := state.earnings + payment }

end ProviderState

/-! ### Decisions -/

/-- `JobSpec`, without the job's identifier. -/
structure JobSpec where
  resources : UInt64
  price : UInt64
  durationSecs : UInt64
  buyerReputation : UInt8

/-- `ProviderPolicy`. -/
structure ProviderPolicy (F : Type) where
  minPricePerUnit : F
  thresholds : DecisionThresholds

/-- `ProviderDecisionMaker`. -/
structure ProviderDecisionMaker where
  state : Option ProviderState

section Decisions

variable {F : Type} [FloatArithmetic F]

/-- `JobSpec::price_per_unit`. -/
def JobSpec.pricePerUnit (job : JobSpec) : F :=
  if job.resources = 0 then 0.0
  else FloatArithmetic.ofInt job.price.toNat / FloatArithmetic.ofInt job.resources.toNat

/-- The part of `evaluate` that does not look at the provider's state: price, reputation, duration
and the threshold of automatic approval. -/
def JobSpec.evaluateTerms (job : JobSpec) (mode : AutonomyMode) (policy : ProviderPolicy F) :
    JobDecision :=
  if FloatArithmetic.lt job.pricePerUnit policy.minPricePerUnit then
    if mode.allowsCounterOffers then
      .counterOffer (FloatArithmetic.ceilWord
        (FloatArithmetic.ofInt job.resources.toNat * policy.minPricePerUnit)) "price below minimum"
    else .reject "price below minimum"
  else if job.buyerReputation < policy.thresholds.minReputation then
    .needApproval "buyer reputation too low"
  else if policy.thresholds.maxDurationSecs < job.durationSecs then
    .needApproval "job duration exceeds threshold"
  else if policy.thresholds.maxAutoAcceptPrice < job.price then
    .needApproval "price exceeds auto-approval threshold"
  else .accept

/-- `ProviderDecisionMaker::evaluate`. -/
def ProviderDecisionMaker.evaluate (maker : ProviderDecisionMaker) (job : JobSpec)
    (mode : AutonomyMode) (policy : ProviderPolicy F) : JobDecision :=
  match maker.state with
  | none => job.evaluateTerms mode policy
  | some state =>
    if state.availableCapacity < job.resources then .reject "insufficient capacity"
    else if state.maxJobs ≤ state.activeJobs then .reject "max jobs reached"
    else job.evaluateTerms mode policy

/-- `evaluate_job_with_state`. -/
def evaluateJobWithState (job : JobSpec) (state : ProviderState) (mode : AutonomyMode)
    (policy : ProviderPolicy F) : JobDecision :=
  ProviderDecisionMaker.evaluate ⟨some state⟩ job mode policy

end Decisions

/-! ### The two admission checks -/

namespace ProviderState

variable {state : ProviderState} {amount : UInt64}

/-- The provider has the capacity for an amount, and room for another job. -/
def Admits (state : ProviderState) (amount : UInt64) : Prop :=
  amount ≤ state.availableCapacity ∧ state.activeJobs < state.maxJobs

/-- An allocation succeeds exactly for an admitted amount. -/
theorem allocate_of_admits (hadmits : Admits state amount) :
    state.allocate amount = (.ok (), { state with
      allocated := state.allocated + amount
      activeJobs := state.activeJobs + 1 }) := by
  unfold allocate
  rw [if_neg (UInt64.not_lt.mpr hadmits.1), if_neg (UInt32.not_le.mpr hadmits.2)]

/-- An allocation that is not admitted fails, and changes nothing. -/
theorem allocate_of_not_admits (hnot : ¬ Admits state amount) :
    ∃ error, state.allocate amount = (.error error, state) := by
  unfold allocate
  by_cases hcapacity : state.availableCapacity < amount
  · rw [if_pos hcapacity]
    exact ⟨_, rfl⟩
  · have hjobs : state.maxJobs ≤ state.activeJobs :=
      UInt32.not_lt.mp fun hlt ↦ hnot ⟨UInt64.not_lt.mp hcapacity, hlt⟩
    rw [if_neg hcapacity, if_pos hjobs]
    exact ⟨_, rfl⟩

/-- A failing allocation changes nothing. -/
theorem allocate_of_error {error : ProviderError}
    (hfails : (state.allocate amount).1 = .error error) : (state.allocate amount).2 = state := by
  by_cases hadmits : Admits state amount
  · rw [allocate_of_admits hadmits] at hfails
    cases hfails
  · obtain ⟨_, hcall⟩ := allocate_of_not_admits hadmits
    rw [hcall]

end ProviderState

section Agreement

variable {F : Type} [FloatArithmetic F]

/-- The terms of a job are never refused with a reason of the provider's state. -/
theorem evaluateTerms_ne_reject {job : JobSpec} {mode : AutonomyMode} {policy : ProviderPolicy F}
    {reason : String} (hreason : reason ≠ "price below minimum") :
    job.evaluateTerms mode policy ≠ .reject reason := by
  unfold JobSpec.evaluateTerms
  split_ifs
  · exact fun heq ↦ by cases heq
  · exact fun heq ↦ hreason (JobDecision.reject.inj heq).symm
  · exact fun heq ↦ by cases heq
  · exact fun heq ↦ by cases heq
  · exact fun heq ↦ by cases heq
  · exact fun heq ↦ by cases heq

/-- The decision and the allocator refuse for the same reason, and a job that is not refused can be
allocated. -/
theorem decision_agrees (job : JobSpec) (state : ProviderState) (mode : AutonomyMode)
    (policy : ProviderPolicy F) :
    (evaluateJobWithState job state mode policy = .reject "insufficient capacity" ↔
        ∃ required available,
          (state.allocate job.resources).1 = .error (.insufficientCapacity required available)) ∧
      (evaluateJobWithState job state mode policy = .reject "max jobs reached" ↔
        ∃ max, (state.allocate job.resources).1 = .error (.maxJobsReached max)) ∧
      ((evaluateJobWithState job state mode policy).isReject = false →
        (state.allocate job.resources).1 = .ok ()) := by
  have hcapacity : job.evaluateTerms mode policy ≠ .reject "insufficient capacity" :=
    evaluateTerms_ne_reject (by decide)
  have hmax : job.evaluateTerms mode policy ≠ .reject "max jobs reached" :=
    evaluateTerms_ne_reject (by decide)
  unfold evaluateJobWithState ProviderDecisionMaker.evaluate ProviderState.allocate
  by_cases hshort : state.availableCapacity < job.resources
  · simp [hshort, JobDecision.isReject]
  · by_cases hfull : state.maxJobs ≤ state.activeJobs
    · simp [hshort, hfull, JobDecision.isReject]
    · simp [hshort, hfull, hcapacity, hmax]

end Agreement

/-! ### The account of a run -/

/-- The calls on a provider's state. -/
inductive ProviderState.Call where
  | allocate (amount : UInt64)
  | release (amount payment : UInt64)
  deriving DecidableEq

/-- A provider's state beside the amounts of its active jobs and the payments it has received. -/
structure ProviderAccount where
  state : ProviderState
  active : List UInt64
  paid : ℕ
  deriving DecidableEq

namespace ProviderAccount

open ProviderState

/-- The account of a new provider. -/
def new (capacity : UInt64) (maxJobs : UInt32) : ProviderAccount :=
  ⟨.new capacity maxJobs, [], 0⟩

/-- One call: a successful allocation is an active job, and a release ends one of its amount. -/
def call (account : ProviderAccount) : Call → ProviderAccount
  | .allocate amount => ⟨(account.state.allocate amount).2,
      if (account.state.allocate amount).1.isOk then account.active ++ [amount]
      else account.active, account.paid⟩
  | .release amount payment => ⟨account.state.release amount payment,
      account.active.erase amount, account.paid + payment.toNat⟩

/-- A release names the amount of an active job, and the payments stay below `2 ^ 64`. -/
def Allowed (account : ProviderAccount) : Call → Prop
  | .allocate _ => True
  | .release amount payment => amount ∈ account.active ∧ account.paid + payment.toNat < 2 ^ 64

instance (account : ProviderAccount) : ∀ request, Decidable (Allowed account request)
  | .allocate _ => isTrue trivial
  | .release _ _ => inferInstanceAs (Decidable (_ ∧ _))

/-- The sum of the amounts of the active jobs. -/
def totalActive (account : ProviderAccount) : ℕ :=
  (account.active.map UInt64.toNat).sum

/-- The books of a provider: the allocated capacity is that of the active jobs, within the capacity,
their number is within the maximum, and the earnings are the payments. -/
structure Booked (account : ProviderAccount) : Prop where
  allocated : account.state.allocated.toNat = account.totalActive
  jobs : account.state.activeJobs.toNat = account.active.length
  withinCapacity : account.state.allocated ≤ account.state.capacity
  withinJobs : account.state.activeJobs ≤ account.state.maxJobs
  earned : account.state.earnings.toNat = account.paid

variable {account : ProviderAccount}

/-- The books of a new provider. -/
theorem booked_new (capacity : UInt64) (maxJobs : UInt32) : Booked (new capacity maxJobs) where
  allocated := rfl
  jobs := rfl
  withinCapacity := UInt64.zero_le
  withinJobs := UInt32.zero_le
  earned := rfl

/-- An allocation keeps the books. -/
theorem Booked.allocate (hbooked : Booked account) (amount : UInt64) :
    Booked (account.call (.allocate amount)) := by
  by_cases hadmits : account.state.Admits amount
  · have hcall : account.call (.allocate amount) = ⟨{ account.state with
        allocated := account.state.allocated + amount
        activeJobs := account.state.activeJobs + 1 }, account.active ++ [amount],
        account.paid⟩ := by
      rw [call, allocate_of_admits hadmits]
      rfl
    obtain ⟨hallocated, hcapacity⟩ := add64_of_le_rest hbooked.withinCapacity hadmits.1
    obtain ⟨hactive, hmaximum⟩ := succ32_of_lt hadmits.2
    rw [hcall]
    refine ⟨?_, ?_, hcapacity, hmaximum, hbooked.earned⟩
    · change (account.state.allocated + amount).toNat =
        ((account.active ++ [amount]).map UInt64.toNat).sum
      rw [hallocated, hbooked.allocated, totalActive, List.map_append, List.sum_append]
      simp
    · change (account.state.activeJobs + 1).toNat = (account.active ++ [amount]).length
      rw [hactive, hbooked.jobs, List.length_append, List.length_singleton]
  · obtain ⟨error, hfails⟩ := allocate_of_not_admits hadmits
    have hcall : account.call (.allocate amount) = account := by
      rw [call, hfails]
      rfl
    rw [hcall]
    exact hbooked

/-- The amount of an active job is part of the total. -/
theorem totalActive_erase {amount : UInt64} (hactive : amount ∈ account.active) :
    ((account.active.erase amount).map UInt64.toNat).sum + amount.toNat = account.totalActive ∧
      (account.active.erase amount).length + 1 = account.active.length := by
  have hperm := (List.perm_cons_erase hactive).map UInt64.toNat
  have hsum := hperm.sum_eq
  have hlength := (List.perm_cons_erase hactive).length_eq
  rw [List.map_cons, List.sum_cons] at hsum
  rw [List.length_cons] at hlength
  rw [totalActive]
  omega

/-- The release of an active job keeps the books. -/
theorem Booked.release (hbooked : Booked account) {amount payment : UInt64}
    (hallowed : Allowed account (.release amount payment)) :
    Booked (account.call (.release amount payment)) := by
  obtain ⟨hactive, hpaid⟩ := hallowed
  obtain ⟨hsum, hlength⟩ := totalActive_erase hactive
  have hallocated := hbooked.allocated
  have hjobs := hbooked.jobs
  have hwithin := hbooked.withinCapacity
  have hmax := hbooked.withinJobs
  rw [UInt64.le_iff_toNat_le] at hwithin
  rw [UInt32.le_iff_toNat_le] at hmax
  constructor
  · change (saturatingSub64 account.state.allocated amount).toNat =
      ((account.active.erase amount).map UInt64.toNat).sum
    rw [toNat_saturatingSub64]
    omega
  · change (saturatingSub32 account.state.activeJobs 1).toNat = (account.active.erase amount).length
    rw [toNat_saturatingSub32, UInt32.toNat_one]
    omega
  · change saturatingSub64 account.state.allocated amount ≤ account.state.capacity
    rw [UInt64.le_iff_toNat_le, toNat_saturatingSub64]
    omega
  · change saturatingSub32 account.state.activeJobs 1 ≤ account.state.maxJobs
    rw [UInt32.le_iff_toNat_le, toNat_saturatingSub32]
    omega
  · change (account.state.earnings + payment).toNat = account.paid + payment.toNat
    rw [← hbooked.earned] at hpaid ⊢
    exact toNat_add64 hpaid

/-- Every run of a provider in which releases name active jobs: the allocated capacity is the sum of
the amounts of the active jobs, within the capacity, and there are at most the maximum of them; a
failing allocation changes nothing; and a job that a decision does not refuse can be allocated,
while the refusals for capacity and for the maximum of jobs are exactly those of the allocator. -/
theorem provider_accounts {F : Type} [FloatArithmetic F] (capacity : UInt64) (maxJobs : UInt32)
    (calls : List Call)
    (hallowed : Throughout call Allowed (new capacity maxJobs) calls) :
    Always call (fun account ↦
      (account.state.allocated.toNat = account.totalActive ∧
        account.state.activeJobs.toNat = account.active.length ∧
        account.state.allocated ≤ account.state.capacity ∧
        account.state.activeJobs ≤ account.state.maxJobs ∧
        account.state.earnings.toNat = account.paid) ∧
      (∀ amount error, (account.state.allocate amount).1 = .error error →
        (account.state.allocate amount).2 = account.state) ∧
      ∀ (job : JobSpec) (mode : AutonomyMode) (policy : ProviderPolicy F),
        ((evaluateJobWithState job account.state mode policy).isReject = false →
          (account.state.allocate job.resources).1 = .ok ()) ∧
        ((evaluateJobWithState job account.state mode policy = .reject "insufficient capacity" ∨
            evaluateJobWithState job account.state mode policy = .reject "max jobs reached") ↔
          ∃ error, (account.state.allocate job.resources).1 = .error error))
      (new capacity maxJobs) calls := by
  have hbooked : Always call Booked (new capacity maxJobs) calls := by
    refine always_of_throughout (booked_new capacity maxJobs) ?_ hallowed
    intro account request hbooks hstep
    cases request with
    | allocate amount => exact hbooks.allocate amount
    | release amount payment => exact hbooks.release hstep
  intro done hdone
  have hbooks := hbooked done hdone
  refine ⟨⟨hbooks.allocated, hbooks.jobs, hbooks.withinCapacity, hbooks.withinJobs,
    hbooks.earned⟩, fun _ _ hfails ↦ allocate_of_error hfails, fun job mode policy ↦ ?_⟩
  obtain ⟨hcapacity, hmax, hadmitted⟩ :=
    decision_agrees job (done.foldl call (new capacity maxJobs)).state mode policy
  refine ⟨hadmitted, ?_⟩
  rw [hcapacity, hmax]
  constructor
  · rintro (⟨required, available, hfails⟩ | ⟨max, hfails⟩)
    · exact ⟨_, hfails⟩
    · exact ⟨_, hfails⟩
  · rintro ⟨error, hfails⟩
    cases error with
    | insufficientCapacity required available => exact Or.inl ⟨required, available, hfails⟩
    | maxJobsReached max => exact Or.inr ⟨max, hfails⟩

/-- Two jobs of the same amount, one of them released: the other one is still accounted for. -/
theorem provider_accounts_after_release :
    (List.foldl call (new 10 2) [.allocate 4, .allocate 4, .release 4 7]).state.allocated.toNat =
      (List.foldl call (new 10 2) [.allocate 4, .allocate 4, .release 4 7]).totalActive :=
  ((provider_accounts (F := Float) 10 2 [.allocate 4, .allocate 4, .release 4 7]
    (by decide)).last).1.1

end ProviderAccount

end Clawbernetes.MoltAgent
