import Clawbernetes.MoltMarket.EscrowAccount

/-!
# What the checks of an escrow account guard

Every method of an `EscrowAccount` that can fail runs its checks and then the transition, and two
things are expected of the checks. A call that fails leaves the account as it was (`FailsClean`),
and no call but the expiry succeeds after the deadline (`RefusedWhenLate`), where the check answers
`EscrowExpired` (`GuardedWhenLate`).

Both expectations hold up to one order of statements. `dispute` writes the initiator before the
transition is tried, so a dispute that the table refuses leaves its caller in `disputedBy`
(`failsClean_iff`). The deadline is looked at only in the funded and the disputed state, so an
account that is still `created` is funded after its deadline (`refusedWhenLate_iff`). The results
over runs say exactly which calls have to be absent.
-/

set_option autoImplicit false
set_option relaxedAutoImplicit false

namespace Clawbernetes.MoltMarket

open Library.Runs

namespace EscrowAccount

/-- The result of a call, beside the account it leaves. -/
def attempt (account : EscrowAccount) : AccountCall → Except MarketError Unit × EscrowAccount
  | .fund caller now => account.fund now caller
  | .release caller now => account.release now caller
  | .refund caller now => account.refund now caller
  | .dispute caller now => account.dispute now caller
  | .expireAt atTime => account.expireAt atTime

/-- The account a call leaves is the account after it. -/
@[simp] theorem attempt_snd (account : EscrowAccount) (next : AccountCall) :
    (account.attempt next).2 = account.call next := by
  cases next <;> rfl

/-! ### Failing calls -/

/-- A call that returns an error leaves every field of the account as it was. -/
def FailsClean (account : EscrowAccount) (next : AccountCall) : Prop :=
  ∀ failure, (account.attempt next).1 = .error failure → (account.attempt next).2 = account

/-- The call is a dispute of a party that the deadline check lets through, on an account that is not
funded and does not have that party recorded yet. -/
def WritesBeforeRefusal (account : EscrowAccount) : AccountCall → Prop
  | .dispute caller now =>
    account.checkNotExpired now = .ok () ∧
      (caller = account.buyer ∨ caller = account.provider) ∧
        account.state ≠ .funded ∧ account.disputedBy ≠ some caller
  | _ => False

/-- A transition that is refused leaves the account as it was. -/
theorem transitionTo_error {account : EscrowAccount} {target : EscrowState} {failure : MarketError}
    (hfailed : (account.transitionTo target).1 = .error failure) :
    (account.transitionTo target).2 = account := by
  unfold transitionTo at hfailed ⊢
  split_ifs with hallowed
  · simp [hallowed] at hfailed
  · rfl

/-- A settling method that fails leaves the account as it was. -/
theorem settle_error {account : EscrowAccount} {now : ℤ} {caller required : String}
    {refusal failure : MarketError} {target : EscrowState}
    (hfailed : (account.settle now caller required refusal target).1 = .error failure) :
    (account.settle now caller required refusal target).2 = account := by
  unfold settle at hfailed ⊢
  split at hfailed
  · rfl
  · split_ifs at hfailed ⊢
    · rfl
    · exact transitionTo_error hfailed

/-- An expiry that fails leaves the account as it was. -/
theorem expireAt_error {account : EscrowAccount} {atTime : ℤ} {failure : MarketError}
    (hfailed : (account.expireAt atTime).1 = .error failure) :
    (account.expireAt atTime).2 = account := by
  unfold expireAt at hfailed ⊢
  split_ifs at hfailed ⊢
  · rfl
  · rfl
  · exact transitionTo_error hfailed

/-- Only a funded account can be disputed. -/
theorem canTransitionTo_disputed_iff (state : EscrowState) :
    state.canTransitionTo .disputed = true ↔ state = .funded := by
  cases state <;> decide

/-- A dispute either is refused by its checks, with the account as it was, or passes them and tries
the transition on the account with its caller written. -/
theorem dispute_cases (account : EscrowAccount) (caller : String) (now : ℤ) :
    (∃ failure, account.dispute now caller = (.error failure, account) ∧
        ¬ (account.checkNotExpired now = .ok () ∧
          (caller = account.buyer ∨ caller = account.provider))) ∨
      (account.checkNotExpired now = .ok () ∧
        (caller = account.buyer ∨ caller = account.provider) ∧
          account.dispute now caller =
            { account with disputedBy := some caller }.transitionTo .disputed) := by
  unfold dispute
  cases hcheck : account.checkNotExpired now with
  | error failure => exact Or.inl ⟨failure, rfl, nofun⟩
  | ok _ =>
    by_cases hparty : caller = account.buyer ∨ caller = account.provider
    · refine Or.inr ⟨rfl, hparty, if_neg ?_⟩
      rintro ⟨hbuyer, hprovider⟩
      exact hparty.elim hbuyer hprovider
    · exact Or.inl ⟨_, if_pos (not_or.mp hparty), fun hboth ↦ hparty hboth.2⟩

/-- Writing the caller changes nothing if and only if it is recorded already. -/
theorem disputedBy_written_iff (account : EscrowAccount) (caller : String) :
    { account with disputedBy := some caller } = account ↔ account.disputedBy = some caller := by
  constructor
  · intro hsame
    rw [← hsame]
  · intro hrecorded
    rw [← hrecorded]

/-- A dispute that fails leaves the account as it was if and only if it does not write its caller
before the table refuses it. -/
theorem dispute_failsClean_iff (account : EscrowAccount) (caller : String) (now : ℤ) :
    account.FailsClean (.dispute caller now) ↔
      ¬ account.WritesBeforeRefusal (.dispute caller now) := by
  change (∀ failure, (account.dispute now caller).1 = .error failure →
      (account.dispute now caller).2 = account) ↔ _
  rcases dispute_cases account caller now with
    ⟨refusal, hrefused, hunchecked⟩ | ⟨hcheck, hparty, htried⟩
  · rw [hrefused]
    exact iff_of_true (fun _ _ ↦ rfl) fun hwrites ↦ hunchecked ⟨hwrites.1, hwrites.2.1⟩
  · rw [htried]
    by_cases hfunded : account.state = .funded
    · refine iff_of_true (fun failure hfailed ↦ ?_) fun hwrites ↦ hwrites.2.2.1 hfunded
      simp [transitionTo, hfunded, EscrowState.canTransitionTo] at hfailed
    · have hrefused : account.state.canTransitionTo .disputed ≠ true :=
        (canTransitionTo_disputed_iff account.state).not.mpr hfunded
      rw [transitionTo, if_neg hrefused]
      constructor
      · intro hclean hwrites
        exact hwrites.2.2.2 ((disputedBy_written_iff account caller).mp (hclean _ rfl))
      · intro hnot failure _
        refine (disputedBy_written_iff account caller).mpr ?_
        by_contra hrecorded
        exact hnot ⟨hcheck, hparty, hfunded, hrecorded⟩

/-- A call that fails leaves the account as it was if and only if it is not a dispute that writes
its caller before the table refuses it. -/
theorem failsClean_iff (account : EscrowAccount) (next : AccountCall) :
    account.FailsClean next ↔ ¬ account.WritesBeforeRefusal next := by
  cases next with
  | dispute caller now => exact dispute_failsClean_iff account caller now
  | expireAt atTime => exact iff_of_true (fun _ hfailed ↦ expireAt_error hfailed) not_false
  | fund caller now | release caller now | refund caller now =>
    exact iff_of_true (fun _ hfailed ↦ settle_error hfailed) not_false

/-- Along every run of calls, the failing ones leave the account as it was if and only if no dispute
of the run writes its caller before the table refuses it. -/
theorem failing_calls_change_nothing_iff (start : EscrowAccount) (calls : List AccountCall) :
    Throughout call FailsClean start calls ↔
      Throughout call (fun account next ↦ ¬ account.WritesBeforeRefusal next) start calls :=
  throughout_congr fun _ next _ ↦ failsClean_iff _ next

/-- A dispute of an account that was never funded fails and records its caller. -/
theorem refused_dispute_is_recorded :
    ¬ Throughout call FailsClean (new 0 "job-1" "buyer" "provider" 100) [.dispute "buyer" 1] := by
  intro hclean
  have hsame := hclean [] (.dispute "buyer" 1) (List.prefix_refl _)
    (.invalidStateTransition "Created" "Disputed") (by decide)
  revert hsame
  decide

/-! ### Late calls -/

/-- The clock reading of the four calls that the deadline is to guard. -/
def guardedClock : AccountCall → Option ℤ
  | .fund _ now | .release _ now | .refund _ now | .dispute _ now => some now
  | .expireAt _ => none

/-- The call is one of the four, and its clock reads later than the deadline. -/
def IsLate (account : EscrowAccount) (next : AccountCall) : Prop :=
  ∃ now, guardedClock next = some now ∧ account.expiresAt < now

/-- A late call does not succeed. -/
def RefusedWhenLate (account : EscrowAccount) (next : AccountCall) : Prop :=
  account.IsLate next → (account.attempt next).1 ≠ .ok ()

/-- A call that makes an account funded is not late. -/
def FundedInTime (account : EscrowAccount) (next : AccountCall) : Prop :=
  account.state ≠ .funded → (account.call next).state = .funded → ¬ account.IsLate next

/-- A late call is answered with `EscrowExpired`. -/
def GuardedWhenLate (account : EscrowAccount) (next : AccountCall) : Prop :=
  account.IsLate next → (account.attempt next).1 = .error account.expiredError

/-- The buyer funds an account that is still `created`, after its deadline. -/
def LateFund (account : EscrowAccount) (next : AccountCall) : Prop :=
  ∃ now, next = .fund account.buyer now ∧ account.state = .created ∧ account.expiresAt < now

/-- The account is in one of the three states in which the deadline check does not look at the
clock. -/
def Unwatched (account : EscrowAccount) : Prop :=
  account.state = .created ∨ account.state = .released ∨ account.state = .refunded

/-- After the deadline the check fails exactly in the states it watches. -/
theorem checkNotExpired_of_late {account : EscrowAccount} {now : ℤ}
    (hlate : account.expiresAt < now) :
    (account.Unwatched ∧ account.checkNotExpired now = .ok ()) ∨
      (¬ account.Unwatched ∧ account.checkNotExpired now = .error account.expiredError) := by
  have hexpired : account.isExpiredAt now = true := by simpa [isExpiredAt, expiresAt] using hlate
  cases hstate : account.state <;> simp [Unwatched, checkNotExpired, hstate, hexpired]

/-- A settling method whose deadline check fails returns the error of the check. -/
theorem settle_fst_of_check_error {account : EscrowAccount} {now : ℤ} {failure : MarketError}
    (hcheck : account.checkNotExpired now = .error failure) (caller required : String)
    (refusal : MarketError) (target : EscrowState) :
    (account.settle now caller required refusal target).1 = .error failure := by
  simp [settle, hcheck]

/-- A guarded call whose deadline check fails returns the error of the check. -/
theorem attempt_of_check_error {account : EscrowAccount} {next : AccountCall} {now : ℤ}
    {failure : MarketError} (hclock : guardedClock next = some now)
    (hcheck : account.checkNotExpired now = .error failure) :
    (account.attempt next).1 = .error failure := by
  cases next with
  | expireAt atTime => cases hclock
  | dispute caller time =>
    obtain rfl : time = now := Option.some.inj hclock
    simp [attempt, dispute, hcheck]
  | fund caller time | release caller time | refund caller time =>
    obtain rfl : time = now := Option.some.inj hclock
    exact settle_fst_of_check_error hcheck _ _ _ _

/-- A transition never returns `EscrowExpired`, and succeeds only when the table allows it. -/
theorem transitionTo_fst (account : EscrowAccount) (target : EscrowState) :
    (account.transitionTo target).1 ≠ .error account.expiredError ∧
      ((account.transitionTo target).1 = .ok () ↔
        account.state.canTransitionTo target = true) := by
  unfold transitionTo
  split_ifs with hallowed <;> simp [hallowed, expiredError]

/-- A settling method whose deadline check passes does not return `EscrowExpired`, and succeeds if
and only if it is called in the required role and the table allows the transition. -/
theorem settle_fst_of_check_ok {account : EscrowAccount} {now : ℤ}
    (hcheck : account.checkNotExpired now = .ok ()) (caller required : String)
    {refusal : MarketError} (hrefusal : refusal ≠ account.expiredError) (target : EscrowState) :
    (account.settle now caller required refusal target).1 ≠ .error account.expiredError ∧
      ((account.settle now caller required refusal target).1 = .ok () ↔
        caller = required ∧ account.state.canTransitionTo target = true) := by
  unfold settle
  rw [hcheck]
  by_cases hcaller : caller = required
  · simpa [hcaller] using transitionTo_fst account target
  · simp [hcaller, hrefusal]

/-- An unwatched state can only become funded. -/
theorem canTransitionTo_of_unwatched {account : EscrowAccount} (hunwatched : account.Unwatched)
    {target : EscrowState} (htarget : target ≠ .funded) :
    account.state.canTransitionTo target = false := by
  revert htarget
  rcases hunwatched with hstate | hstate | hstate <;> rw [hstate] <;> cases target <;> decide

/-- In an unwatched state, a settling method other than the funding fails when its deadline check
passes, and does not return `EscrowExpired`. -/
theorem settle_fst_of_unwatched {account : EscrowAccount} {now : ℤ}
    (hunwatched : account.Unwatched) (hcheck : account.checkNotExpired now = .ok ())
    (caller required : String) {refusal : MarketError} (hrefusal : refusal ≠ account.expiredError)
    {target : EscrowState} (htarget : target ≠ .funded) :
    (account.settle now caller required refusal target).1 ≠ .error account.expiredError ∧
      (account.settle now caller required refusal target).1 ≠ .ok () := by
  have hsettle := settle_fst_of_check_ok hcheck caller required hrefusal target
  refine ⟨hsettle.1, fun hok ↦ ?_⟩
  have hallowed := (hsettle.2.mp hok).2
  rw [canTransitionTo_of_unwatched hunwatched htarget] at hallowed
  cases hallowed

/-- In an unwatched state, a late guarded call whose deadline check passes does not return
`EscrowExpired`, and succeeds only as a late funding. -/
theorem attempt_of_unwatched {account : EscrowAccount} {next : AccountCall} {now : ℤ}
    (hclock : guardedClock next = some now) (hlate : account.expiresAt < now)
    (hunwatched : account.Unwatched) (hcheck : account.checkNotExpired now = .ok ()) :
    (account.attempt next).1 ≠ .error account.expiredError ∧
      ((account.attempt next).1 = .ok () ↔ account.LateFund next) := by
  have hrole : ∀ action required role,
      MarketError.unauthorized action required role ≠ account.expiredError := fun _ _ _ ↦ nofun
  cases next with
  | expireAt atTime => cases hclock
  | fund caller time =>
    obtain rfl : time = now := Option.some.inj hclock
    have hsettle := settle_fst_of_check_ok hcheck caller account.buyer
      (hrole "fund escrow" "buyer" (if caller = account.provider then "provider" else "unknown"))
      .funded
    refine ⟨hsettle.1, hsettle.2.trans ⟨?_, ?_⟩⟩
    · rintro ⟨rfl, hallowed⟩
      refine ⟨time, rfl, ?_, hlate⟩
      revert hallowed
      cases account.state <;> decide
    · rintro ⟨other, hnext, hcreated, -⟩
      injection hnext with hcaller
      exact ⟨hcaller, by rw [hcreated]; rfl⟩
  | release caller time =>
    obtain rfl : time = now := Option.some.inj hclock
    have hreleased : EscrowState.released ≠ .funded := by decide
    have hfails := settle_fst_of_unwatched hunwatched hcheck caller account.buyer
      (hrole "release escrow" "buyer" (if caller = account.provider then "provider" else "unknown"))
      hreleased
    exact ⟨hfails.1, iff_of_false hfails.2 (by simp [LateFund])⟩
  | refund caller time =>
    obtain rfl : time = now := Option.some.inj hclock
    have hrefunded : EscrowState.refunded ≠ .funded := by decide
    have hfails := settle_fst_of_unwatched hunwatched hcheck caller account.provider
      (hrole "refund escrow" "provider" (if caller = account.buyer then "buyer" else "unknown"))
      hrefunded
    exact ⟨hfails.1, iff_of_false hfails.2 (by simp [LateFund])⟩
  | dispute caller time =>
    obtain rfl : time = now := Option.some.inj hclock
    have hdisputed : EscrowState.disputed ≠ .funded := by decide
    have hrefused := canTransitionTo_of_unwatched hunwatched hdisputed
    refine ⟨?_, iff_of_false ?_ (by simp [LateFund])⟩ <;>
      · simp only [attempt, dispute, hcheck]
        split_ifs <;> simp [transitionTo, hrefused, expiredError]

/-- A call that returns an error keeps the state of the account. -/
theorem state_call_of_error {account : EscrowAccount} {next : AccountCall} {failure : MarketError}
    (hfailed : (account.attempt next).1 = .error failure) :
    (account.call next).state = account.state := by
  cases next with
  | fund caller now | release caller now | refund caller now =>
    exact congrArg state (settle_error hfailed)
  | expireAt atTime => exact congrArg state (expireAt_error hfailed)
  | dispute caller now =>
    change (account.dispute now caller).1 = .error failure at hfailed
    change (account.dispute now caller).2.state = account.state
    rcases dispute_cases account caller now with ⟨refusal, hrefused, -⟩ | ⟨-, -, htried⟩
    · rw [hrefused]
    · rw [htried] at hfailed ⊢
      rw [transitionTo_error hfailed]

/-- A late call is refused if and only if it is not a late funding. -/
theorem refusedWhenLate_iff (account : EscrowAccount) (next : AccountCall) :
    account.RefusedWhenLate next ↔ ¬ account.LateFund next := by
  constructor
  · rintro hrefused ⟨now, rfl, hcreated, hlate⟩
    have hunwatched : account.Unwatched := Or.inl hcreated
    rcases checkNotExpired_of_late hlate with ⟨-, hcheck⟩ | ⟨hwatched, -⟩
    · exact hrefused ⟨now, rfl, hlate⟩
        ((attempt_of_unwatched rfl hlate hunwatched hcheck).2.mpr ⟨now, rfl, hcreated, hlate⟩)
    · exact hwatched hunwatched
  · rintro hfund ⟨now, hclock, hlate⟩ hok
    rcases checkNotExpired_of_late hlate with ⟨hunwatched, hcheck⟩ | ⟨-, hcheck⟩
    · exact hfund ((attempt_of_unwatched hclock hlate hunwatched hcheck).2.mp hok)
    · rw [attempt_of_check_error hclock hcheck] at hok
      cases hok

/-- A late call is answered with `EscrowExpired` if and only if the account is in a state that the
deadline check watches. -/
theorem guardedWhenLate_iff (account : EscrowAccount) (next : AccountCall) :
    account.GuardedWhenLate next ↔ ¬ (account.IsLate next ∧ account.Unwatched) := by
  constructor
  · rintro hguarded ⟨⟨now, hclock, hlate⟩, hunwatched⟩
    rcases checkNotExpired_of_late hlate with ⟨-, hcheck⟩ | ⟨hwatched, -⟩
    · exact (attempt_of_unwatched hclock hlate hunwatched hcheck).1
        (hguarded ⟨now, hclock, hlate⟩)
    · exact hwatched hunwatched
  · rintro hnone ⟨now, hclock, hlate⟩
    rcases checkNotExpired_of_late hlate with ⟨hunwatched, -⟩ | ⟨-, hcheck⟩
    · exact absurd ⟨⟨now, hclock, hlate⟩, hunwatched⟩ hnone
    · exact attempt_of_check_error hclock hcheck

/-- An account becomes funded in time if and only if the call is not a late funding. -/
theorem fundedInTime_iff (account : EscrowAccount) (next : AccountCall) :
    account.FundedInTime next ↔ ¬ account.LateFund next := by
  constructor
  · rintro hfunded ⟨now, rfl, hcreated, hlate⟩
    refine hfunded (by rw [hcreated]; decide) ?_ ⟨now, rfl, hlate⟩
    have hcheck : account.checkNotExpired now = .ok () := by simp [checkNotExpired, hcreated]
    simp [call, fund, settle, hcheck, transitionTo, hcreated, EscrowState.canTransitionTo]
  · intro hfund hbefore hafter hlate
    cases hresult : (account.attempt next).1 with
    | error failure => exact hbefore ((state_call_of_error hresult).symm.trans hafter)
    | ok _ => exact (refusedWhenLate_iff account next).mpr hfund hlate hresult

/-- Along every run of calls, no late call succeeds if and only if the buyer never funds a `created`
account after its deadline, and under the same condition no account becomes funded late. Every late
call is answered with `EscrowExpired` if and only if none is made on an account that is created,
released or refunded. -/
theorem deadline_guard_iff (start : EscrowAccount) (calls : List AccountCall) :
    (Throughout call RefusedWhenLate start calls ↔
        Throughout call (fun account next ↦ ¬ account.LateFund next) start calls) ∧
      (Throughout call FundedInTime start calls ↔
        Throughout call (fun account next ↦ ¬ account.LateFund next) start calls) ∧
      (Throughout call GuardedWhenLate start calls ↔
        Throughout call (fun account next ↦ ¬ (account.IsLate next ∧ account.Unwatched)) start
          calls) :=
  ⟨throughout_congr fun _ next _ ↦ refusedWhenLate_iff _ next,
    throughout_congr fun _ next _ ↦ fundedInTime_iff _ next,
    throughout_congr fun _ next _ ↦ guardedWhenLate_iff _ next⟩

/-- An account whose timeout is ten nanoseconds is funded twenty after its creation. -/
theorem late_fund_succeeds :
    ¬ Throughout call RefusedWhenLate (withTimeout 0 "job-1" "buyer" "provider" 100 10)
      [.fund "buyer" 20] := by
  intro hrefused
  exact hrefused [] (.fund "buyer" 20) (List.prefix_refl _) ⟨20, rfl, by decide⟩ (by decide)

end EscrowAccount

end Clawbernetes.MoltMarket
