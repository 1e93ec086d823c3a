import Clawbernetes.Library.MachineWords
import Clawbernetes.Library.Runs
import Clawbernetes.Library.WindowLedger

/-!
# The spending tracker of an agent

`SpendingTracker` of `autonomy/mod.rs` counts what an agent has spent in the current hour. The hour
is a window that restarts lazily: every call that checks or records spending first restarts it when
3600 seconds have passed since its start (`maybeResetHour`). Amounts are 64-bit words and times are
whole seconds since the epoch; the clock reading of a call is an argument.

A tracker is saved to a file and loaded again. The file is what reading and parsing it returns, so
that a file that reads back unchanged is `saveState` itself. `tryLoadState` refuses a state that has
spent more than its budget, and `loadState` then starts afresh with the default budget.

The module has two results over whole runs. `spending_within_budget` is the account of a run: the
tracker stays within its budget, it has counted exactly the spends since the start of the hour, and
with a constant budget no stretch of time up to an hour long has more spends than twice the budget.
`restart_resumes` compares a tracker with its reloaded copy: the copy is the tracker as a check at
the time of loading leaves it, and decides every later sequence of spends alike exactly when the
hour has not run out by then.
-/

set_option autoImplicit false
set_option relaxedAutoImplicit false

namespace Clawbernetes.MoltAgent

open Library.MachineWords Library.Runs Library.WindowLedger

/-- `SpendingTracker`. -/
structure SpendingTracker where
  hourlyBudget : UInt64
  spentThisHour : UInt64
  hourStartTimestamp : ℕ
  deriving DecidableEq

/-- `BudgetExceededError`. -/
structure BudgetExceededError where
  amount : UInt64
  remaining : UInt64
  deriving DecidableEq

/-- `SpendingTrackerState`, the persisted form of a tracker. -/
structure SpendingTrackerState where
  hourlyBudget : UInt64
  spentThisHour : UInt64
  hourStartTimestamp : ℕ
  schemaVersion : UInt32
  deriving DecidableEq

/-- `SpendingTrackerState::CURRENT_SCHEMA_VERSION`. -/
def SpendingTrackerState.currentSchemaVersion : UInt32 := 1

/-- `SpendingTrackerError`. -/
inductive SpendingTrackerError where
  | io (error : String)
  | json (error : String)
  | corruptState (reason : String)
  deriving DecidableEq

/-- What reading a state file and parsing it returns. -/
abbrev StateFile := Except SpendingTrackerError SpendingTrackerState

namespace SpendingTracker

/-- The seconds after which the hour window restarts. -/
def hourSeconds : ℕ := 3600

/-- `SpendingTracker::new`. -/
def new (now : ℕ) (hourlyBudget : UInt64) : SpendingTracker where
  hourlyBudget := hourlyBudget
  spentThisHour := 0
  hourStartTimestamp := now

/-- `SpendingTracker::maybe_reset_hour`. -/
def maybeResetHour (now : ℕ) (tracker : SpendingTracker) : SpendingTracker :=
  if hourSeconds ≤ now - tracker.hourStartTimestamp then
    { tracker with spentThisHour := 0, hourStartTimestamp := now }
  else tracker

/-- `SpendingTracker::remaining_budget`. -/
def remainingBudget (tracker : SpendingTracker) : UInt64 :=
  saturatingSub64 tracker.hourlyBudget tracker.spentThisHour

/-- `SpendingTracker::can_afford`. -/
def canAfford (tracker : SpendingTracker) (amount : UInt64) : Bool :=
  amount ≤ tracker.remainingBudget

/-- `SpendingTracker::spent_this_hour_checked`. -/
def spentThisHourChecked (now : ℕ) (tracker : SpendingTracker) : UInt64 × SpendingTracker :=
  let checked := tracker.maybeResetHour now
  (checked.spentThisHour, checked)

/-- `SpendingTracker::remaining_budget_checked`. -/
def remainingBudgetChecked (now : ℕ) (tracker : SpendingTracker) : UInt64 × SpendingTracker :=
  let checked := tracker.maybeResetHour now
  (saturatingSub64 checked.hourlyBudget checked.spentThisHour, checked)

/-- `SpendingTracker::can_afford_checked`. -/
def canAffordChecked (now : ℕ) (tracker : SpendingTracker) (amount : UInt64) :
    Bool × SpendingTracker :=
  let checked := tracker.maybeResetHour now
  (amount ≤ checked.remainingBudget, checked)

/-- `SpendingTracker::record_spend`. -/
def recordSpend (now : ℕ) (tracker : SpendingTracker) (amount : UInt64) :
    Except BudgetExceededError Unit × SpendingTracker :=
  let checked := tracker.maybeResetHour now
  if !checked.canAfford amount then (.error ⟨amount, checked.remainingBudget⟩, checked)
  else (.ok (), { checked with spentThisHour := saturatingAdd64 checked.spentThisHour amount })

/-- `SpendingTracker::reset_hour`. -/
def resetHour (now : ℕ) (tracker : SpendingTracker) : SpendingTracker :=
  { tracker with spentThisHour := 0, hourStartTimestamp := now }

/-- `SpendingTracker::set_hourly_budget`. -/
def setHourlyBudget (tracker : SpendingTracker) (budget : UInt64) : SpendingTracker :=
  { tracker with hourlyBudget := budget }

/-- `SpendingTracker::to_state`. -/
def toState (tracker : SpendingTracker) : SpendingTrackerState where
  hourlyBudget := tracker.hourlyBudget
  spentThisHour := tracker.spentThisHour
  hourStartTimestamp := tracker.hourStartTimestamp
  schemaVersion := SpendingTrackerState.currentSchemaVersion

/-- `SpendingTracker::from_state`. -/
def fromState (now : ℕ) (state : SpendingTrackerState) : SpendingTracker :=
  maybeResetHour now ⟨state.hourlyBudget, state.spentThisHour, state.hourStartTimestamp⟩

/-- `SpendingTracker::save_state`: the file that holds the state of the tracker. -/
def saveState (tracker : SpendingTracker) : StateFile :=
  .ok tracker.toState

/-- `SpendingTracker::try_load_state`. -/
def tryLoadState (now : ℕ) (file : StateFile) : Except SpendingTrackerError SpendingTracker := do
  let state ← file
  if state.hourlyBudget < state.spentThisHour then
    throw (.corruptState ("spent (" ++ toString state.spentThisHour ++ ") exceeds budget (" ++
      toString state.hourlyBudget ++ ")"))
  return fromState now state

/-- `SpendingTracker::load_state`. -/
def loadState (now : ℕ) (file : StateFile) (defaultBudget : UInt64) : SpendingTracker × Bool :=
  match tryLoadState now file with
  | .ok tracker => (tracker, true)
  | .error _ => (new now defaultBudget, false)

/-! ### The window of a tracker -/

variable {now : ℕ} {tracker : SpendingTracker} {amount : UInt64}

/-- The hour restarts at readings that are a whole hour after its start. -/
theorem maybeResetHour_of_over (hover : tracker.hourStartTimestamp + hourSeconds ≤ now) :
    tracker.maybeResetHour now = ⟨tracker.hourlyBudget, 0, now⟩ := by
  have helapsed : hourSeconds ≤ now - tracker.hourStartTimestamp := by omega
  unfold maybeResetHour
  rw [if_pos helapsed]

/-- A check within the hour changes nothing. -/
theorem maybeResetHour_of_lt (hopen : now < tracker.hourStartTimestamp + hourSeconds) :
    tracker.maybeResetHour now = tracker := by
  have helapsed : ¬ hourSeconds ≤ now - tracker.hourStartTimestamp := by
    have hpos : 0 < hourSeconds := by decide
    omega
  unfold maybeResetHour
  rw [if_neg helapsed]

/-- A check leaves the budget alone. -/
@[simp] theorem hourlyBudget_maybeResetHour :
    (tracker.maybeResetHour now).hourlyBudget = tracker.hourlyBudget := by
  unfold maybeResetHour
  split_ifs <;> rfl

/-- An affordable spend is recorded in the checked tracker. -/
theorem recordSpend_of_canAfford (hafford : (tracker.maybeResetHour now).canAfford amount = true) :
    recordSpend now tracker amount = (.ok (), { tracker.maybeResetHour now with
      spentThisHour := saturatingAdd64 (tracker.maybeResetHour now).spentThisHour amount }) := by
  simp [recordSpend, hafford]

/-- A spend that is not affordable leaves the checked tracker, and the error says what remains. -/
theorem recordSpend_of_not_canAfford
    (hafford : (tracker.maybeResetHour now).canAfford amount = false) :
    recordSpend now tracker amount =
      (.error ⟨amount, (tracker.maybeResetHour now).remainingBudget⟩,
        tracker.maybeResetHour now) := by
  simp [recordSpend, hafford]

/-- A spend is refused exactly when the checked tracker cannot afford it. -/
theorem recordSpend_isOk :
    (recordSpend now tracker amount).1.isOk = (tracker.maybeResetHour now).canAfford amount := by
  cases hafford : (tracker.maybeResetHour now).canAfford amount with
  | true => rw [recordSpend_of_canAfford hafford]; rfl
  | false => rw [recordSpend_of_not_canAfford hafford]; rfl

/-- A spend leaves the budget alone. -/
@[simp] theorem hourlyBudget_recordSpend :
    (recordSpend now tracker amount).2.hourlyBudget = tracker.hourlyBudget := by
  cases hafford : (tracker.maybeResetHour now).canAfford amount with
  | true =>
    rw [recordSpend_of_canAfford hafford]
    exact hourlyBudget_maybeResetHour
  | false =>
    rw [recordSpend_of_not_canAfford hafford]
    exact hourlyBudget_maybeResetHour

/-- A tracker within its budget can afford an amount exactly when the amount fits into the
budget. -/
theorem canAfford_iff (hwithin : tracker.spentThisHour ≤ tracker.hourlyBudget) :
    tracker.canAfford amount = true ↔
      tracker.spentThisHour.toNat + amount.toNat ≤ tracker.hourlyBudget.toNat := by
  rw [UInt64.le_iff_toNat_le] at hwithin
  rw [canAfford, decide_eq_true_eq, remainingBudget, UInt64.le_iff_toNat_le, toNat_saturatingSub64]
  omega

/-! ### Calls -/

/-- The calls on a tracker. `saveRestore` is `from_state(to_state)`. -/
inductive Call where
  | recordSpend (amount : UInt64)
  | spentThisHourChecked
  | remainingBudgetChecked
  | canAffordChecked (amount : UInt64)
  | saveRestore
  | resetHour
  | setHourlyBudget (budget : UInt64)
  deriving DecidableEq

/-- One call at a clock reading. -/
def call (tracker : SpendingTracker) : ℕ × Call → SpendingTracker
  | (now, .recordSpend amount) => (tracker.recordSpend now amount).2
  | (now, .spentThisHourChecked) => (tracker.spentThisHourChecked now).2
  | (now, .remainingBudgetChecked) => (tracker.remainingBudgetChecked now).2
  | (now, .canAffordChecked amount) => (tracker.canAffordChecked now amount).2
  | (now, .saveRestore) => fromState now tracker.toState
  | (now, .resetHour) => tracker.resetHour now
  | (_, .setHourlyBudget budget) => tracker.setHourlyBudget budget

/-- The spend that a call adds to the account: the amount of a `record_spend` that succeeds. -/
def spendOf (tracker : SpendingTracker) : ℕ × Call → List Entry
  | (now, .recordSpend amount) =>
    if (tracker.recordSpend now amount).1.isOk then [(now, amount.toNat)] else []
  | _ => []

end SpendingTracker

open SpendingTracker

/-- A tracker beside the reading of its last call and the successful spends so far. -/
structure SpendingAccount where
  tracker : SpendingTracker
  clock : ℕ
  spends : List Entry
  deriving DecidableEq

namespace SpendingAccount

/-- The account of a new tracker. -/
def new (now : ℕ) (hourlyBudget : UInt64) : SpendingAccount :=
  ⟨.new now hourlyBudget, now, []⟩

/-- One call, with its spend entered into the account. -/
def call (account : SpendingAccount) (input : ℕ × Call) : SpendingAccount :=
  ⟨account.tracker.call input, input.1, account.spends ++ account.tracker.spendOf input⟩

/-- The check of the hour at a reading, as part of a call. -/
def check (now : ℕ) (account : SpendingAccount) : SpendingAccount :=
  ⟨account.tracker.maybeResetHour now, now, account.spends⟩

/-- An affordable spend, as part of a call. -/
def spend (account : SpendingAccount) (amount : UInt64) : SpendingAccount where
  tracker := { account.tracker with
    spentThisHour := saturatingAdd64 account.tracker.spentThisHour amount }
  clock := account.clock
  spends := account.spends ++ [(account.clock, amount.toNat)]

/-- The clock does not go back, the hour is not reset by hand, and the budget is not lowered below
what has been spent. -/
def Allowed (account : SpendingAccount) (input : ℕ × Call) : Prop :=
  account.clock ≤ input.1 ∧ input.2 ≠ .resetHour ∧
    ∀ budget, input.2 = .setHourlyBudget budget → account.tracker.spentThisHour ≤ budget

variable {now : ℕ} {account : SpendingAccount} {input : ℕ × Call}

/-- A `record_spend` is a check of the hour, and a spend behind it when the checked tracker can
afford it. -/
theorem call_recordSpend (amount : UInt64) :
    account.call (now, .recordSpend amount) =
      if (account.check now).tracker.canAfford amount then (account.check now).spend amount
      else account.check now := by
  change (⟨(account.tracker.recordSpend now amount).2, now, account.spends ++
      if (account.tracker.recordSpend now amount).1.isOk then [(now, amount.toNat)] else []⟩ :
        SpendingAccount) =
    if (account.tracker.maybeResetHour now).canAfford amount then _ else _
  rw [recordSpend_isOk]
  split_ifs with hafford
  · rw [recordSpend_of_canAfford hafford]
    rfl
  · rw [recordSpend_of_not_canAfford (Bool.eq_false_iff.mpr hafford), List.append_nil]
    rfl

/-- A refused spend leaves the tracker as the check of the hour does, with nothing added to it and
nothing entered into the account. -/
theorem call_of_refused {amount : UInt64} {error : BudgetExceededError}
    (hfails : (account.tracker.recordSpend now amount).1 = .error error) :
    (account.tracker.recordSpend now amount).2 = account.tracker.maybeResetHour now ∧
      (account.tracker.recordSpend now amount).2.spentThisHour ≤ account.tracker.spentThisHour ∧
      (account.call (now, .recordSpend amount)).spends = account.spends := by
  have hafford : (account.tracker.maybeResetHour now).canAfford amount = false := by
    rw [← recordSpend_isOk, hfails]
    rfl
  have hspends : (account.call (now, .recordSpend amount)).spends = account.spends := by
    have hchecked : ¬ (account.check now).tracker.canAfford amount = true :=
      Bool.eq_false_iff.mp hafford
    rw [call_recordSpend, if_neg hchecked]
    rfl
  rw [recordSpend_of_not_canAfford hafford]
  refine ⟨rfl, ?_, hspends⟩
  change (account.tracker.maybeResetHour now).spentThisHour ≤ account.tracker.spentThisHour
  unfold maybeResetHour
  split_ifs
  · exact UInt64.zero_le
  · exact UInt64.le_refl _

/-- What an allowed call can do: check the hour, check it and spend an affordable amount, or set a
budget that covers what has been spent. -/
theorem call_cases (hallowed : Allowed account input) :
    account.call input = account.check input.1 ∨
      (∃ amount, (account.check input.1).tracker.canAfford amount = true ∧
        account.call input = (account.check input.1).spend amount) ∨
      ∃ budget, input.2 = .setHourlyBudget budget ∧ account.tracker.spentThisHour ≤ budget ∧
        account.call input = ⟨account.tracker.setHourlyBudget budget, input.1, account.spends⟩ := by
  obtain ⟨now, request⟩ := input
  obtain ⟨_, hreset, hbudget⟩ := hallowed
  have hquery : ∀ tracker : SpendingTracker, (⟨tracker, now, account.spends ++ []⟩ :
      SpendingAccount) = ⟨tracker, now, account.spends⟩ := by
    intro tracker
    rw [List.append_nil]
  cases request with
  | recordSpend amount =>
    rw [call_recordSpend]
    split_ifs with hafford
    · exact Or.inr (Or.inl ⟨amount, hafford, rfl⟩)
    · exact Or.inl rfl
  | spentThisHourChecked => exact Or.inl (hquery _)
  | remainingBudgetChecked => exact Or.inl (hquery _)
  | canAffordChecked amount => exact Or.inl (hquery _)
  | saveRestore => exact Or.inl (hquery _)
  | resetHour => exact absurd rfl hreset
  | setHourlyBudget budget =>
    exact Or.inr (Or.inr ⟨budget, rfl, hbudget budget rfl, hquery _⟩)

/-! ### The account of a run -/

/-- The books of a tracker: it is within its budget, it has counted exactly the spends since the
start of its hour, all spends are earlier than the end of the hour, and the hour has started. -/
structure Accounted (account : SpendingAccount) : Prop where
  within : account.tracker.spentThisHour ≤ account.tracker.hourlyBudget
  exact_sum : account.tracker.spentThisHour.toNat =
    sumSince account.tracker.hourStartTimestamp account.spends
  current : Current hourSeconds account.tracker.hourStartTimestamp account.spends
  started : account.tracker.hourStartTimestamp ≤ account.clock

/-- After a check the hour has not run out. -/
theorem clock_lt_of_check :
    (account.check now).clock < (account.check now).tracker.hourStartTimestamp + hourSeconds := by
  change now < (account.tracker.maybeResetHour now).hourStartTimestamp + hourSeconds
  have hpos : 0 < hourSeconds := by decide
  unfold maybeResetHour
  split_ifs with hover
  · change now < now + hourSeconds
    omega
  · omega

/-- The check of the hour keeps the books. -/
theorem Accounted.check (haccounted : Accounted account) (hclock : account.clock ≤ now) :
    Accounted (account.check now) := by
  by_cases hover : account.tracker.hourStartTimestamp + hourSeconds ≤ now
  · unfold SpendingAccount.check
    rw [maybeResetHour_of_over hover]
    exact ⟨UInt64.zero_le, (haccounted.current.sumSince_restart hover).symm,
      haccounted.current.restart hover, le_refl now⟩
  · unfold SpendingAccount.check
    rw [maybeResetHour_of_lt (not_le.mp hover)]
    exact ⟨haccounted.within, haccounted.exact_sum, haccounted.current,
      haccounted.started.trans hclock⟩

/-- An affordable spend before the end of the hour keeps the books. -/
theorem Accounted.spend (haccounted : Accounted account) {amount : UInt64}
    (hopen : account.clock < account.tracker.hourStartTimestamp + hourSeconds)
    (hafford : account.tracker.canAfford amount = true) : Accounted (account.spend amount) := by
  have hsum := (canAfford_iff haccounted.within).mp hafford
  have hbudget := account.tracker.hourlyBudget.toNat_lt
  have hexact : (saturatingAdd64 account.tracker.spentThisHour amount).toNat =
      account.tracker.spentThisHour.toNat + amount.toNat := toNat_saturatingAdd64 (by omega)
  constructor
  · change saturatingAdd64 account.tracker.spentThisHour amount ≤ account.tracker.hourlyBudget
    rw [UInt64.le_iff_toNat_le, hexact]
    exact hsum
  · change (saturatingAdd64 account.tracker.spentThisHour amount).toNat =
      sumSince account.tracker.hourStartTimestamp
        (account.spends ++ [(account.clock, amount.toNat)])
    rw [hexact, sumSince_concat haccounted.started, haccounted.exact_sum]
  · exact haccounted.current.record hopen
  · exact haccounted.started

/-- An allowed call keeps the books. -/
theorem Accounted.call (haccounted : Accounted account) (hallowed : Allowed account input) :
    Accounted (account.call input) := by
  have hchecked := haccounted.check hallowed.1
  rcases call_cases hallowed with hcall | ⟨amount, hafford, hcall⟩ | ⟨budget, _, hcovers, hcall⟩
  · rw [hcall]
    exact hchecked
  · rw [hcall]
    exact hchecked.spend clock_lt_of_check hafford
  · rw [hcall]
    exact ⟨hcovers, haccounted.exact_sum, haccounted.current,
      haccounted.started.trans hallowed.1⟩

/-- The books of a new tracker. -/
theorem accounted_new (opened : ℕ) (budget : UInt64) : Accounted (new opened budget) where
  within := UInt64.zero_le
  exact_sum := rfl
  current := current_nil
  started := le_refl opened

/-- The books of a tracker whose budget never changes: its hours are windows of that budget. -/
structure Steady (budget : UInt64) (account : SpendingAccount) : Prop where
  constant : account.tracker.hourlyBudget = budget
  bounded : Bounded hourSeconds budget.toNat account.tracker.hourStartTimestamp account.spends

variable {budget : UInt64}

/-- The check of the hour keeps the windows of a constant budget. -/
theorem Steady.check (hsteady : Steady budget account) : Steady budget (account.check now) := by
  by_cases hover : account.tracker.hourStartTimestamp + hourSeconds ≤ now
  · unfold SpendingAccount.check
    rw [maybeResetHour_of_over hover]
    exact ⟨hsteady.constant, hsteady.bounded.restart hover⟩
  · unfold SpendingAccount.check
    rw [maybeResetHour_of_lt (not_le.mp hover)]
    exact ⟨hsteady.constant, hsteady.bounded⟩

/-- An affordable spend before the end of the hour keeps the windows of a constant budget. -/
theorem Steady.spend (hsteady : Steady budget account) (haccounted : Accounted account)
    {amount : UInt64} (hopen : account.clock < account.tracker.hourStartTimestamp + hourSeconds)
    (hafford : account.tracker.canAfford amount = true) : Steady budget (account.spend amount) := by
  have hfits := (canAfford_iff haccounted.within).mp hafford
  rw [haccounted.exact_sum, hsteady.constant] at hfits
  exact ⟨hsteady.constant, hsteady.bounded.record haccounted.started hopen hfits⟩

/-- An allowed call that does not change the budget keeps the windows of the budget. -/
theorem Steady.call (hsteady : Steady budget account) (haccounted : Accounted account)
    (hallowed : Allowed account input)
    (hconstant : ∀ other, input.2 = .setHourlyBudget other → other = budget) :
    Steady budget (account.call input) := by
  have hchecked := haccounted.check hallowed.1
  rcases call_cases hallowed with hcall | ⟨amount, hafford, hcall⟩ | ⟨other, hset, _, hcall⟩
  · rw [hcall]
    exact hsteady.check
  · rw [hcall]
    exact hsteady.check.spend hchecked clock_lt_of_check hafford
  · rw [hcall]
    exact ⟨hconstant other hset, hsteady.bounded⟩

/-- The spends of a run with a constant budget, in any interval that is not longer than an hour. -/
theorem steady_of_run {opened : ℕ} {calls : List (ℕ × Call)}
    (hallowed : Throughout call Allowed (new opened budget) calls)
    (hconstant : ∀ input ∈ calls, ∀ other, input.2 = .setHourlyBudget other → other = budget) :
    Steady budget (calls.foldl call (new opened budget)) := by
  have hbooks : ∀ done, done <+: calls →
      Accounted (done.foldl call (new opened budget)) ∧
        Steady budget (done.foldl call (new opened budget)) := by
    intro done
    induction done using List.reverseRecOn with
    | nil => exact fun _ ↦ ⟨accounted_new opened budget, rfl, Bounded.nil⟩
    | append_singleton done input ih =>
      intro hdone
      obtain ⟨haccounted, hsteady⟩ := ih (prefix_of_concat hdone)
      have hstep := hallowed done input hdone
      have hmem : input ∈ calls := hdone.subset (by simp)
      rw [List.foldl_concat]
      exact ⟨haccounted.call hstep, hsteady.call haccounted hstep (hconstant input hmem)⟩
  exact (hbooks calls (List.prefix_refl calls)).2

/-- Every run of a tracker, at readings that do not go back and with budgets that cover what has
been spent: the tracker stays within its budget, it has counted exactly the successful spends since
the start of its hour, and a refused spend adds nothing. With a constant budget the successful
spends between two readings at most an hour apart add up to at most twice the budget. -/
theorem spending_within_budget (opened : ℕ) (budget : UInt64) (calls : List (ℕ × Call))
    (hallowed : Throughout call Allowed (new opened budget) calls) :
    Always call (fun account ↦
        account.tracker.spentThisHour ≤ account.tracker.hourlyBudget ∧
        account.tracker.spentThisHour.toNat =
          sumSince account.tracker.hourStartTimestamp account.spends ∧
        ∀ now amount error, (account.tracker.recordSpend now amount).1 = .error error →
          (account.tracker.recordSpend now amount).2 = account.tracker.maybeResetHour now ∧
          (account.tracker.recordSpend now amount).2.spentThisHour ≤
            account.tracker.spentThisHour ∧
          (account.call (now, .recordSpend amount)).spends = account.spends)
      (new opened budget) calls ∧
    ((∀ input ∈ calls, ∀ other, input.2 = .setHourlyBudget other → other = budget) →
      ∀ first last, last ≤ first + 3600 →
        sumOf (fun time ↦ first ≤ time ∧ time ≤ last)
          (calls.foldl call (new opened budget)).spends ≤ 2 * budget.toNat) := by
  constructor
  · intro done hdone
    have haccounted : Accounted (done.foldl call (new opened budget)) :=
      always_of_throughout (accounted_new opened budget)
        (fun account input hbooks hstep ↦ Accounted.call hbooks hstep) hallowed done hdone
    exact ⟨haccounted.within, haccounted.exact_sum, fun now amount error hfails ↦
      call_of_refused hfails⟩
  · intro hconstant first last hlast
    refine le_trans (sumOf_mono ?_) ((steady_of_run hallowed hconstant).bounded.sliding first)
    intro entry _ hselected
    rw [decide_eq_true_eq] at hselected ⊢
    change first ≤ entry.1 ∧ entry.1 ≤ first + 3600
    omega

/-- Two full hours of spends, one second apart. -/
theorem spending_across_a_restart :
    Throughout call Allowed (new 100 50) [(3699, .recordSpend 50), (3700, .recordSpend 50)] ∧
      sumOf (fun time ↦ 3699 ≤ time ∧ time ≤ 3700) (List.foldl call (new 100 50)
        [(3699, .recordSpend 50), (3700, .recordSpend 50)]).spends ≤ 2 * 50 := by
  have hallowed : Throughout call Allowed (new 100 50)
      [(3699, .recordSpend 50), (3700, .recordSpend 50)] := by
    simp [throughout_cons, throughout_nil, Allowed, call, new]
  exact ⟨hallowed, (spending_within_budget 100 50 _ hallowed).2 (by simp) 3699 3700 (by decide)⟩

end SpendingAccount

/-! ### Restarts -/

namespace SpendingTracker

/-- Which of a sequence of timed `record_spend` calls a tracker accepts. -/
def verdicts (tracker : SpendingTracker) : List (ℕ × UInt64) → List Bool
  | [] => []
  | (now, amount) :: later =>
    (tracker.recordSpend now amount).1.isOk :: verdicts (tracker.recordSpend now amount).2 later

/-- The readings of later calls do not go back, and none is earlier than the time of loading. -/
def InOrder (loaded : ℕ) (later : List (ℕ × UInt64)) : Prop :=
  (loaded :: later.map Prod.fst).Pairwise (· ≤ ·)

variable {loadTime : ℕ} {tracker : SpendingTracker}

/-- A state within its budget is loaded as a check at the time of loading leaves the tracker. -/
theorem loadState_saveState (hwithin : tracker.spentThisHour ≤ tracker.hourlyBudget)
    (defaultBudget : UInt64) :
    loadState loadTime tracker.saveState defaultBudget =
      (tracker.maybeResetHour loadTime, true) := by
  have hvalid : ¬ tracker.toState.hourlyBudget < tracker.toState.spentThisHour :=
    UInt64.not_lt.mpr hwithin
  have htry : tryLoadState loadTime tracker.saveState = .ok (tracker.maybeResetHour loadTime) := by
    unfold tryLoadState saveState
    change (if tracker.toState.hourlyBudget < tracker.toState.spentThisHour then _ else _) = _
    rw [if_neg hvalid]
    rfl
  unfold loadState
  rw [htry]

/-- A tracker without a budget accepts nothing but empty spends. -/
theorem verdicts_of_no_budget {later : List (ℕ × UInt64)} (hbudget : tracker.hourlyBudget = 0) :
    verdicts tracker later = later.map fun call ↦ decide (call.2 = 0) := by
  induction later generalizing tracker with
  | nil => rfl
  | cons call later ih =>
    obtain ⟨now, amount⟩ := call
    have hremaining : (tracker.maybeResetHour now).remainingBudget = 0 := by
      rw [← UInt64.toNat_inj, remainingBudget, toNat_saturatingSub64, hourlyBudget_maybeResetHour,
        hbudget, UInt64.toNat_zero, Nat.zero_sub]
    have hafford : (tracker.maybeResetHour now).canAfford amount = decide (amount = 0) := by
      rw [canAfford, hremaining]
      exact decide_eq_decide.mpr UInt64.le_zero_iff
    have hafter : (recordSpend now tracker amount).2.hourlyBudget = 0 := by
      rw [hourlyBudget_recordSpend, hbudget]
    rw [verdicts, List.map_cons, recordSpend_isOk, hafford, ih hafter]

/-- The whole budget is spent at once in an hour that has no spends yet. -/
theorem recordSpend_whole_budget {now start : ℕ} {budget : UInt64}
    (hchecked : tracker.maybeResetHour now = ⟨budget, 0, start⟩) :
    recordSpend now tracker budget = (.ok (), ⟨budget, budget, start⟩) := by
  have hafford : (tracker.maybeResetHour now).canAfford budget = true := by
    rw [hchecked, canAfford_iff UInt64.zero_le, UInt64.toNat_zero, Nat.zero_add]
  have hsum : saturatingAdd64 0 budget = budget := by
    have hlt := budget.toNat_lt
    rw [← UInt64.toNat_inj, toNat_saturatingAdd64 (by rw [UInt64.toNat_zero]; omega),
      UInt64.toNat_zero, Nat.zero_add]
  rw [recordSpend_of_canAfford hafford, hchecked, hsum]

/-- A budget that is spent affords the same spend again only when it is zero. -/
theorem recordSpend_again {now start : ℕ} {budget : UInt64} (hpositive : budget ≠ 0)
    (hchecked : tracker.maybeResetHour now = ⟨budget, budget, start⟩) :
    (recordSpend now tracker budget).1.isOk = false := by
  rw [recordSpend_isOk, hchecked, Bool.eq_false_iff, Ne, canAfford_iff (UInt64.le_refl budget)]
  change ¬ budget.toNat + budget.toNat ≤ budget.toNat
  rw [Ne, ← UInt64.toNat_inj, UInt64.toNat_zero] at hpositive
  omega

/-- Two spends of the whole budget, just after the time of loading and an hour after it, are
accepted by a window that starts at the time of loading. -/
theorem verdicts_of_fresh_window (budget : UInt64) :
    verdicts ⟨budget, 0, loadTime⟩ [(loadTime + 1, budget), (loadTime + 3600, budget)] =
      [true, true] := by
  have hfirst : recordSpend (loadTime + 1) ⟨budget, 0, loadTime⟩ budget =
      (.ok (), ⟨budget, budget, loadTime⟩) := by
    apply recordSpend_whole_budget
    apply maybeResetHour_of_lt
    change loadTime + 1 < loadTime + 3600
    omega
  have hsecond : recordSpend (loadTime + 3600) ⟨budget, budget, loadTime⟩ budget =
      (.ok (), ⟨budget, budget, loadTime + 3600⟩) := by
    apply recordSpend_whole_budget
    exact maybeResetHour_of_over (le_refl (loadTime + 3600))
  rw [verdicts, hfirst, verdicts, hsecond]
  rfl

/-- The same two spends in a tracker whose hour has run out by the time of loading: its next hour
starts with the first spend, and the second one falls into it. -/
theorem verdicts_of_lapsed_window (hpositive : tracker.hourlyBudget ≠ 0)
    (hover : tracker.hourStartTimestamp + hourSeconds ≤ loadTime) :
    verdicts tracker [(loadTime + 1, tracker.hourlyBudget),
      (loadTime + 3600, tracker.hourlyBudget)] = [true, false] := by
  have hfirst : recordSpend (loadTime + 1) tracker tracker.hourlyBudget =
      (.ok (), ⟨tracker.hourlyBudget, tracker.hourlyBudget, loadTime + 1⟩) := by
    apply recordSpend_whole_budget
    apply maybeResetHour_of_over
    omega
  have hsecond : (recordSpend (loadTime + 3600)
      ⟨tracker.hourlyBudget, tracker.hourlyBudget, loadTime + 1⟩ tracker.hourlyBudget).1.isOk =
        false := by
    apply recordSpend_again hpositive
    apply maybeResetHour_of_lt
    change loadTime + 3600 < loadTime + 1 + 3600
    omega
  rw [verdicts, hfirst, verdicts, hsecond]
  rfl

/-- A tracker within its budget that is saved and loaded again is the tracker as a check at the time
of loading leaves it, and it decides every later sequence of spends as the tracker itself would
exactly when the hour has not run out by the time of loading, or there is no budget at all. -/
theorem restart_resumes (tracker : SpendingTracker) (loadTime : ℕ) (defaultBudget : UInt64)
    (hwithin : tracker.spentThisHour ≤ tracker.hourlyBudget) :
    loadState loadTime tracker.saveState defaultBudget =
        ((tracker.spentThisHourChecked loadTime).2, true) ∧
      ((∀ later, InOrder loadTime later →
          verdicts (loadState loadTime tracker.saveState defaultBudget).1 later =
            verdicts tracker later) ↔
        loadTime < tracker.hourStartTimestamp + hourSeconds ∨ tracker.hourlyBudget = 0) := by
  refine ⟨loadState_saveState hwithin defaultBudget, ?_⟩
  rw [loadState_saveState hwithin defaultBudget]
  constructor
  · intro hsame
    by_contra hneither
    rw [not_or, not_lt] at hneither
    obtain ⟨hover, hpositive⟩ := hneither
    have hsequence := hsame
      [(loadTime + 1, tracker.hourlyBudget), (loadTime + 3600, tracker.hourlyBudget)]
      (by simp [InOrder])
    rw [maybeResetHour_of_over hover, verdicts_of_fresh_window,
      verdicts_of_lapsed_window hpositive hover] at hsequence
    exact absurd hsequence (by decide)
  · rintro (hopen | hnothing) later _
    · rw [maybeResetHour_of_lt hopen]
    · rw [verdicts_of_no_budget hnothing, verdicts_of_no_budget]
      rw [hourlyBudget_maybeResetHour, hnothing]

/-- A tracker with a running hour is loaded as it was saved. -/
theorem restart_resumes_running_hour :
    loadState 100 (saveState ⟨100, 60, 0⟩) 7 = (⟨100, 60, 0⟩, true) ∧
      verdicts (loadState 100 (saveState ⟨100, 60, 0⟩) 7).1 [(100, 40), (200, 1)] =
        verdicts ⟨100, 60, 0⟩ [(100, 40), (200, 1)] := by
  have hwithin : (60 : UInt64) ≤ 100 := by decide
  exact ⟨(restart_resumes ⟨100, 60, 0⟩ 100 7 hwithin).1,
    (restart_resumes ⟨100, 60, 0⟩ 100 7 hwithin).2.mpr (Or.inl (by decide)) _ (by simp [InOrder])⟩

/-- Restarts do grant spending. A tracker whose hour has run out by the time of loading is loaded
with an hour that starts then, not at the next spend; and a tracker whose budget was lowered below
what it has spent is not loaded at all, and the fresh tracker spends the default budget. -/
theorem restart_grants_spending :
    verdicts (loadState 3600 (saveState (new 0 10)) 10).1 [(3601, 10), (7200, 10)] =
        [true, true] ∧
      verdicts (new 0 10) [(3601, 10), (7200, 10)] = [true, false] ∧
      verdicts (loadState 2 (saveState (List.foldl call (new 0 100)
        [(1, .recordSpend 60), (1, .setHourlyBudget 50)])) 100).1 [(2, 100)] = [true] ∧
      verdicts (List.foldl call (new 0 100) [(1, .recordSpend 60), (1, .setHourlyBudget 50)])
        [(2, 100)] = [false] := by
  refine ⟨?_, ?_, ?_, ?_⟩ <;> decide

end SpendingTracker

end Clawbernetes.MoltAgent
