import Clawbernetes.Library.MachineWords
import Clawbernetes.Library.Runs

/-!
# The jobs and the budget of a buyer

`BuyerState` of `buyer.rs` counts the pending and the active jobs of a buyer and what it has spent.
A submission is refused at the limit of active jobs, an activation is refused without a pending job
or without the budget for its price. The additions are those of machine words; below `2 ^ 32`
submissions none of them wraps.

The limit of active jobs is checked when a job is submitted, and used up when it is activated.
`buyer_within_limits` is the account of every run: the money is right in every state, and the active
jobs stay within their maximum exactly in the runs that never activate a pending, affordable job at
the maximum. `activations_past_the_maximum` is a run that does.
-/

set_option autoImplicit false
set_option relaxedAutoImplicit false

namespace Clawbernetes.MoltAgent

open Library.MachineWords Library.Runs

/-- `BuyerState`, without the buyer's identifier. -/
structure BuyerState where
  pendingJobs : UInt32
  activeJobs : UInt32
  maxActiveJobs : UInt32
  spent : UInt64
  budget : UInt64
  deriving DecidableEq

/-- `BuyerError`. -/
inductive BuyerError where
  | maxJobsReached (max : UInt32)
  | noPendingJobs
  | insufficientBudget (required available : UInt64)
  deriving DecidableEq

namespace BuyerState

/-- `BuyerState::new`. -/
def new (budget : UInt64) (maxActiveJobs : UInt32) : BuyerState where
  pendingJobs := 0
  activeJobs := 0
  maxActiveJobs := maxActiveJobs
  spent := 0
  budget := budget

/-- `BuyerState::remaining_budget`. -/
def remainingBudget (state : BuyerState) : UInt64 :=
  saturatingSub64 state.budget state.spent

/-- `BuyerState::submit_job`. -/
def submitJob (state : BuyerState) : Except BuyerError Unit × BuyerState :=
  if state.maxActiveJobs ≤ state.activeJobs then
    (.error (.maxJobsReached state.maxActiveJobs), state)
  else (.ok (), { state with pendingJobs := state.pendingJobs + 1 })

/-- `BuyerState::activate_job`. -/
def activateJob (state : BuyerState) (price : UInt64) : Except BuyerError Unit × BuyerState :=
  if state.pendingJobs = 0 then (.error .noPendingJobs, state)
  else if state.remainingBudget < price then
    (.error (.insufficientBudget price state.remainingBudget), state)
  else (.ok (), { state with
    pendingJobs := state.pendingJobs - 1
    activeJobs := state.activeJobs + 1
    spent := state.spent + price })

/-- `BuyerState::complete_job`. -/
def completeJob (state : BuyerState) : BuyerState :=
  { state with activeJobs := saturatingSub32 state.activeJobs 1 }

/-- `BuyerState::cancel_pending`. -/
def cancelPending (state : BuyerState) : BuyerState :=
  { state with pendingJobs := saturatingSub32 state.pendingJobs 1 }

/-- The calls on a buyer's state. -/
inductive Call where
  | submitJob
  | activateJob (price : UInt64)
  | completeJob
  | cancelPending
  deriving DecidableEq

/-- One call. The two that return nothing do not fail. -/
def call (state : BuyerState) : Call → Except BuyerError Unit × BuyerState
  | .submitJob => state.submitJob
  | .activateJob price => state.activateJob price
  | .completeJob => (.ok (), state.completeJob)
  | .cancelPending => (.ok (), state.cancelPending)

variable {state : BuyerState} {request : Call} {price : UInt64}

/-- A job that is pending, at a price within the remaining budget. -/
def Activates (state : BuyerState) (price : UInt64) : Prop :=
  state.pendingJobs ≠ 0 ∧ price ≤ state.remainingBudget

instance (state : BuyerState) (price : UInt64) : Decidable (Activates state price) :=
  inferInstanceAs (Decidable (_ ∧ _))

/-- An activation succeeds exactly for a pending job at an affordable price. -/
theorem activateJob_of_activates (hactivates : Activates state price) :
    state.activateJob price = (.ok (), { state with
      pendingJobs := state.pendingJobs - 1
      activeJobs := state.activeJobs + 1
      spent := state.spent + price }) := by
  unfold activateJob
  rw [if_neg hactivates.1, if_neg (UInt64.not_lt.mpr hactivates.2)]

/-- An activation that is not of that kind fails, and changes nothing. -/
theorem activateJob_of_not_activates (hnot : ¬ Activates state price) :
    ∃ error, state.activateJob price = (.error error, state) := by
  unfold activateJob
  by_cases hpending : state.pendingJobs = 0
  · rw [if_pos hpending]
    exact ⟨_, rfl⟩
  · have hprice : state.remainingBudget < price :=
      UInt64.not_le.mp fun hle ↦ hnot ⟨hpending, hle⟩
    rw [if_neg hpending, if_pos hprice]
    exact ⟨_, rfl⟩

/-- A failing call changes nothing. -/
theorem call_of_error (hfails : (state.call request).1.isOk = false) :
    (state.call request).2 = state := by
  cases request with
  | submitJob =>
    change state.submitJob.2 = state
    change state.submitJob.1.isOk = false at hfails
    unfold submitJob at hfails ⊢
    split_ifs at hfails ⊢
    · rfl
    · cases hfails
  | activateJob price =>
    change (state.activateJob price).2 = state
    change (state.activateJob price).1.isOk = false at hfails
    by_cases hactivates : Activates state price
    · rw [activateJob_of_activates hactivates] at hfails
      cases hfails
    · obtain ⟨error, hcall⟩ := activateJob_of_not_activates hactivates
      rw [hcall]
  | completeJob => cases hfails
  | cancelPending => cases hfails

end BuyerState

open BuyerState

/-- A buyer's state beside the number of its submissions and the prices it has paid. -/
structure BuyerAccount where
  state : BuyerState
  submissions : ℕ
  prices : List UInt64
  deriving DecidableEq

namespace BuyerAccount

/-- The account of a new buyer. -/
def new (budget : UInt64) (maxActiveJobs : UInt32) : BuyerAccount :=
  ⟨.new budget maxActiveJobs, 0, []⟩

/-- One call, with a successful submission counted and the price of a successful activation
entered. -/
def call (account : BuyerAccount) (request : Call) : BuyerAccount where
  state := (account.state.call request).2
  submissions := account.submissions +
    if request = .submitJob ∧ (account.state.call request).1.isOk = true then 1 else 0
  prices := account.prices ++
    match request, (account.state.call request).1.isOk with
    | .activateJob price, true => [price]
    | _, _ => []

/-- The sum of the prices paid. -/
def totalPaid (account : BuyerAccount) : ℕ :=
  (account.prices.map UInt64.toNat).sum

variable {account : BuyerAccount} {request : Call}

/-- What one call can do to the account: nothing, when it fails; count a submission; activate a
pending job and pay its price; complete a job; or cancel a submission. -/
theorem call_cases (account : BuyerAccount) (request : Call) :
    account.call request = account ∨
      account.call request = ⟨{ account.state with pendingJobs := account.state.pendingJobs + 1 },
        account.submissions + 1, account.prices⟩ ∨
      (∃ price, request = .activateJob price ∧ account.state.Activates price ∧
        account.call request = ⟨{ account.state with
          pendingJobs := account.state.pendingJobs - 1
          activeJobs := account.state.activeJobs + 1
          spent := account.state.spent + price }, account.submissions,
          account.prices ++ [price]⟩) ∨
      account.call request = ⟨account.state.completeJob, account.submissions, account.prices⟩ ∨
      account.call request =
        ⟨account.state.cancelPending, account.submissions, account.prices⟩ := by
  cases request with
  | submitJob =>
    by_cases hfull : account.state.maxActiveJobs ≤ account.state.activeJobs
    · left
      simp [call, BuyerState.call, submitJob, hfull, Except.isOk, Except.toBool]
    · right; left
      simp [call, BuyerState.call, submitJob, hfull, Except.isOk, Except.toBool]
  | activateJob price =>
    by_cases hactivates : account.state.Activates price
    · right; right; left
      refine ⟨price, rfl, hactivates, ?_⟩
      simp [call, BuyerState.call, activateJob_of_activates hactivates, Except.isOk, Except.toBool]
    · left
      obtain ⟨error, hcall⟩ := activateJob_of_not_activates hactivates
      simp [call, BuyerState.call, hcall, Except.isOk, Except.toBool]
  | completeJob =>
    right; right; right; left
    simp [call, BuyerState.call]
  | cancelPending =>
    right; right; right; right
    simp [call, BuyerState.call]

/-! ### The account of a run -/

/-- The books of a buyer: it has spent exactly the prices it paid, within its budget, and the jobs
it has pending or active were submitted. -/
structure Booked (account : BuyerAccount) : Prop where
  exact_sum : account.state.spent.toNat = account.totalPaid
  within : account.state.spent ≤ account.state.budget
  jobs : account.submissions < 2 ^ 32 →
    account.state.pendingJobs.toNat + account.state.activeJobs.toNat ≤ account.submissions

/-- The books of a new buyer. -/
theorem booked_new (budget : UInt64) (maxActiveJobs : UInt32) :
    Booked (new budget maxActiveJobs) where
  exact_sum := rfl
  within := UInt64.zero_le
  jobs := fun _ ↦ Nat.le_refl 0

/-- A pending job that is activated moves from the pending to the active ones. -/
theorem toNat_jobs_of_activated {state : BuyerState} (hpending : state.pendingJobs ≠ 0)
    (hjobs : state.pendingJobs.toNat + state.activeJobs.toNat < 2 ^ 32) :
    (state.pendingJobs - 1).toNat = state.pendingJobs.toNat - 1 ∧
      (state.activeJobs + 1).toNat = state.activeJobs.toNat + 1 ∧ 0 < state.pendingJobs.toNat := by
  have hpositive : 0 < state.pendingJobs.toNat := by
    rw [Ne, ← UInt32.toNat_inj, UInt32.toNat_zero] at hpending
    omega
  have hle : (1 : UInt32) ≤ state.pendingJobs := by
    rw [UInt32.le_iff_toNat_le, UInt32.toNat_one]
    omega
  refine ⟨UInt32.toNat_sub_of_le _ _ hle, ?_, hpositive⟩
  exact toNat_add32 (by rw [UInt32.toNat_one]; omega)

/-- Every call keeps the books. -/
theorem Booked.call (hbooked : Booked account) (request : Call) :
    Booked (account.call request) := by
  rcases call_cases account request with hcall | hcall | ⟨price, _, hactivates, hcall⟩ | hcall |
    hcall
  · rw [hcall]
    exact hbooked
  · rw [hcall]
    refine ⟨hbooked.exact_sum, hbooked.within, fun hfew ↦ ?_⟩
    change account.submissions + 1 < 2 ^ 32 at hfew
    change (account.state.pendingJobs + 1).toNat + account.state.activeJobs.toNat ≤
      account.submissions + 1
    have hjobs := hbooked.jobs (by omega)
    rw [toNat_add32 (by rw [UInt32.toNat_one]; omega), UInt32.toNat_one]
    omega
  · rw [hcall]
    obtain ⟨hsum, hfits⟩ := add64_of_le_rest hbooked.within hactivates.2
    refine ⟨?_, hfits, fun hfew ↦ ?_⟩
    · change (account.state.spent + price).toNat =
        ((account.prices ++ [price]).map UInt64.toNat).sum
      rw [hsum, hbooked.exact_sum, totalPaid, List.map_append, List.sum_append]
      simp
    · change account.submissions < 2 ^ 32 at hfew
      have hjobs := hbooked.jobs hfew
      obtain ⟨hpending, hactive, hpositive⟩ :=
        toNat_jobs_of_activated hactivates.1 (by omega)
      change (account.state.pendingJobs - 1).toNat + (account.state.activeJobs + 1).toNat ≤
        account.submissions
      omega
  · rw [hcall]
    refine ⟨hbooked.exact_sum, hbooked.within, fun hfew ↦ ?_⟩
    have hjobs := hbooked.jobs hfew
    change account.state.pendingJobs.toNat + (saturatingSub32 account.state.activeJobs 1).toNat ≤
      account.submissions
    rw [toNat_saturatingSub32]
    omega
  · rw [hcall]
    refine ⟨hbooked.exact_sum, hbooked.within, fun hfew ↦ ?_⟩
    have hjobs := hbooked.jobs hfew
    change (saturatingSub32 account.state.pendingJobs 1).toNat + account.state.activeJobs.toNat ≤
      account.submissions
    rw [toNat_saturatingSub32]
    omega

/-- Submissions are only counted up. -/
theorem submissions_le_foldl (account : BuyerAccount) (calls : List Call) :
    account.submissions ≤ (calls.foldl call account).submissions := by
  induction calls generalizing account with
  | nil => exact Nat.le_refl _
  | cons request calls ih => exact (Nat.le_add_right _ _).trans (ih (account.call request))

/-- What a buyer's state should always meet: the active jobs are within their maximum, the money is
within the budget and is the sum of the prices paid, and a failing call changes nothing. -/
structure WithinLimits (account : BuyerAccount) : Prop where
  jobs : account.state.activeJobs ≤ account.state.maxActiveJobs
  within : account.state.spent ≤ account.state.budget
  exact_sum : account.state.spent.toNat = account.totalPaid
  failure : ∀ request, (account.state.call request).1.isOk = false →
    (account.state.call request).2 = account.state

/-- No pending job with an affordable price is activated at the maximum of active jobs. -/
def Allowed (account : BuyerAccount) : Call → Prop
  | .activateJob price => account.state.Activates price →
      account.state.activeJobs < account.state.maxActiveJobs
  | _ => True

instance (account : BuyerAccount) : ∀ request, Decidable (Allowed account request)
  | .activateJob _ => inferInstanceAs (Decidable (_ → _))
  | .submitJob => isTrue trivial
  | .completeJob => isTrue trivial
  | .cancelPending => isTrue trivial

/-- A buyer within its books is within its limits when its active jobs are. -/
theorem Booked.withinLimits_iff (hbooked : Booked account) :
    WithinLimits account ↔ account.state.activeJobs ≤ account.state.maxActiveJobs :=
  ⟨fun hlimits ↦ hlimits.jobs, fun hjobs ↦ ⟨hjobs, hbooked.within, hbooked.exact_sum,
    fun _ hfails ↦ call_of_error hfails⟩⟩

/-- A call from a state with at most the maximum of active jobs ends in one exactly when it does
not activate a job at the maximum. -/
theorem Booked.jobs_call_iff (hbooked : Booked account) (hfew : account.submissions < 2 ^ 32)
    (hjobs : account.state.activeJobs ≤ account.state.maxActiveJobs) (request : Call) :
    (account.call request).state.activeJobs ≤ (account.call request).state.maxActiveJobs ↔
      Allowed account request := by
  cases request with
  | submitJob =>
    refine iff_of_true ?_ trivial
    change account.state.submitJob.2.activeJobs ≤ account.state.submitJob.2.maxActiveJobs
    unfold submitJob
    split_ifs <;> exact hjobs
  | activateJob price =>
    change (account.state.activateJob price).2.activeJobs ≤
        (account.state.activateJob price).2.maxActiveJobs ↔
      (account.state.Activates price → account.state.activeJobs < account.state.maxActiveJobs)
    by_cases hactivates : account.state.Activates price
    · have hsubmitted := hbooked.jobs hfew
      obtain ⟨_, hactive, _⟩ := toNat_jobs_of_activated hactivates.1 (by omega)
      rw [activateJob_of_activates hactivates, forall_prop_of_true hactivates,
        UInt32.le_iff_toNat_le, UInt32.lt_iff_toNat_lt]
      change (account.state.activeJobs + 1).toNat ≤ _ ↔ _
      rw [hactive]
      exact Nat.succ_le_iff
    · obtain ⟨error, hcall⟩ := activateJob_of_not_activates hactivates
      rw [hcall]
      exact iff_of_true hjobs fun hpending ↦ absurd hpending hactivates
  | completeJob =>
    refine iff_of_true ?_ trivial
    change saturatingSub32 account.state.activeJobs 1 ≤ account.state.maxActiveJobs
    rw [UInt32.le_iff_toNat_le] at hjobs ⊢
    rw [toNat_saturatingSub32]
    omega
  | cancelPending => exact iff_of_true hjobs trivial

/-- Every run of a buyer with fewer than `2 ^ 32` submissions: what it has spent is the sum of the
prices of its activations and within its budget, and failing calls change nothing; and it is within
all its limits in every state exactly when no pending job with an affordable price is activated at
the maximum of active jobs. -/
theorem buyer_within_limits (budget : UInt64) (maxActiveJobs : UInt32) (calls : List Call)
    (hfew : (calls.foldl call (new budget maxActiveJobs)).submissions < 2 ^ 32) :
    Always call (fun account ↦ account.state.spent ≤ account.state.budget ∧
        account.state.spent.toNat = account.totalPaid ∧
        ∀ request, (account.state.call request).1.isOk = false →
          (account.state.call request).2 = account.state) (new budget maxActiveJobs) calls ∧
      (Always call WithinLimits (new budget maxActiveJobs) calls ↔
        Throughout call Allowed (new budget maxActiveJobs) calls) := by
  have hbooked : Always call Booked (new budget maxActiveJobs) calls :=
    always_of_step (booked_new budget maxActiveJobs)
      (fun account request hbooks ↦ hbooks.call request) calls
  have hside : Always call (fun account ↦ Booked account ∧ account.submissions < 2 ^ 32)
      (new budget maxActiveJobs) calls := by
    intro done hdone
    refine ⟨hbooked done hdone, ?_⟩
    obtain ⟨rest, rfl⟩ := hdone
    rw [List.foldl_append] at hfew
    exact (submissions_le_foldl _ rest).trans_lt hfew
  constructor
  · intro done hdone
    have hbooks := hbooked done hdone
    exact ⟨hbooks.within, hbooks.exact_sum, fun _ hfails ↦ call_of_error hfails⟩
  · have hstart : WithinLimits (new budget maxActiveJobs) :=
      (booked_new budget maxActiveJobs).withinLimits_iff.mpr UInt32.zero_le
    refine always_iff_throughout_of_always hside hstart ?_
    rintro account request ⟨hbooks, hsubmitted⟩ hlimits
    rw [(hbooks.call request).withinLimits_iff]
    exact hbooks.jobs_call_iff hsubmitted hlimits.jobs request

/-- One submission after the other stays within the limits. -/
theorem buyer_within_limits_one_by_one :
    Always call WithinLimits (new 10 1) [.submitJob, .activateJob 4, .completeJob, .submitJob,
      .activateJob 6] :=
  (buyer_within_limits 10 1 _ (by decide)).2.mpr (by decide)

/-- Two submissions before the first activation pass the maximum of one active job. -/
theorem activations_past_the_maximum :
    (List.foldl call (new 10 1)
        [.submitJob, .submitJob, .activateJob 4, .activateJob 6]).state.activeJobs = 2 ∧
      ¬ Always call WithinLimits (new 10 1)
        [.submitJob, .submitJob, .activateJob 4, .activateJob 6] := by
  refine ⟨by decide, fun halways ↦ ?_⟩
  exact absurd halways.last.jobs (by decide)

end BuyerAccount

end Clawbernetes.MoltAgent
