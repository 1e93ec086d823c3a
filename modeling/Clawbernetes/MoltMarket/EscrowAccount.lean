import Clawbernetes.Library.Runs
import Mathlib.Data.Int.DivMod
import Mathlib.Tactic.Common
import Mathlib.Algebra.Group.Int.Defs

/-!
# The marketplace escrow account

`escrow.rs` of the marketplace crate. An `EscrowAccount` is funded by the buyer, settled by a
release of the buyer or a refund of the provider before its deadline, disputed by either of them,
and expired by anybody after the deadline. Three checks stand in front of every change: the
deadline (`checkNotExpired`), the caller's role, and the table of transitions
(`EscrowState.canTransitionTo`).

`fund`, `release` and `refund` are one shape with their own role, texts and target state, which is
`settle`. `dispute` writes `disputedBy` before it knows whether the transition is allowed, so it
keeps its own body. Times are nanoseconds since the epoch, the clock reading of a call is an
argument, and every method returns its `Result` beside the account after the call.

`call_cases` says what one call can do. `accountability` is the statement over whole runs: the
terms of the account never change, each final state names the call that made it, with its caller
and its time on the right side of the deadline, and a final state is final.
-/

set_option autoImplicit false
set_option relaxedAutoImplicit false

namespace Clawbernetes.MoltMarket

open Library.Runs

/-- `EscrowState` of the marketplace. -/
inductive EscrowState where
  | created
  | funded
  | released
  | refunded
  | disputed
  | expired
  deriving DecidableEq

namespace EscrowState

/-- `EscrowState::can_transition_to`. -/
def canTransitionTo : EscrowState → EscrowState → Bool
  | created, funded => true
  | funded, released | disputed, released => true
  | funded, refunded | disputed, refunded => true
  | funded, disputed => true
  | funded, expired | disputed, expired => true
  | _, _ => false

/-- The `Display` text of a state. -/
def display : EscrowState → String
  | created => "Created"
  | funded => "Funded"
  | released => "Released"
  | refunded => "Refunded"
  | disputed => "Disputed"
  | expired => "Expired"

end EscrowState

/-- The errors of the marketplace that an escrow account returns. -/
inductive MarketError where
  | escrow (message : String)
  | invalidStateTransition (source target : String)
  | unauthorized (action requiredRole callerRole : String)
  | escrowExpired (jobId : String) (timeoutDays : ℕ)
  deriving DecidableEq

/-- `EscrowAccount`. The timeout is a signed number of nanoseconds, as in `chrono`. -/
structure EscrowAccount where
  jobId : String
  buyer : String
  provider : String
  amount : UInt64
  state : EscrowState
  disputedBy : Option String
  createdAt : ℤ
  timeoutDuration : ℤ
  deriving DecidableEq

namespace EscrowAccount

/-- `DEFAULT_TIMEOUT_DAYS`. -/
def defaultTimeoutDays : ℤ := 7

/-- The nanoseconds of a day. -/
def nanosPerDay : ℤ := 86400 * 10 ^ 9

/-- `EscrowAccount::with_timeout`, with the clock reading as an argument. -/
def withTimeout (now : ℤ) (jobId buyer provider : String) (amount : UInt64) (timeout : ℤ) :
    EscrowAccount where
  jobId := jobId
  buyer := buyer
  provider := provider
  amount := amount
  state := .created
  disputedBy := none
  createdAt := now
  timeoutDuration := timeout

/-- `EscrowAccount::new`, with the default timeout. -/
def new (now : ℤ) (jobId buyer provider : String) (amount : UInt64) : EscrowAccount :=
  withTimeout now jobId buyer provider amount (defaultTimeoutDays * nanosPerDay)

/-- `EscrowAccount::transition_to`. -/
def transitionTo (account : EscrowAccount) (target : EscrowState) :
    Except MarketError Unit × EscrowAccount :=
  if account.state.canTransitionTo target then (.ok (), { account with state := target })
  else (.error (.invalidStateTransition account.state.display target.display), account)

/-- `EscrowAccount::expires_at`. -/
def expiresAt (account : EscrowAccount) : ℤ :=
  account.createdAt + account.timeoutDuration

/-- `EscrowAccount::is_expired_at`, and `is_expired` at the clock reading of the call. -/
def isExpiredAt (account : EscrowAccount) (atTime : ℤ) : Bool :=
  account.createdAt + account.timeoutDuration < atTime

/-- The `EscrowExpired` error of an account: the days of its timeout are whole days rounded
towards zero and cast to `u64`. -/
def expiredError (account : EscrowAccount) : MarketError :=
  .escrowExpired account.jobId ((account.timeoutDuration.tdiv nanosPerDay) % 2 ^ 64).toNat

/-- `EscrowAccount::expire_at`. -/
def expireAt (account : EscrowAccount) (atTime : ℤ) : Except MarketError Unit × EscrowAccount :=
  if account.state = .expired then (.error account.expiredError, account)
  else if !account.isExpiredAt atTime then
    (.error (.escrow "escrow has not timed out yet"), account)
  else account.transitionTo .expired

/-- `EscrowAccount::check_not_expired`. -/
def checkNotExpired (account : EscrowAccount) (now : ℤ) : Except MarketError Unit :=
  if account.state = .expired then .error account.expiredError
  else if account.isExpiredAt now && (account.state = .funded || account.state = .disputed) then
    .error account.expiredError
  else .ok ()

/-- The shape of `fund`, `release` and `refund`: the deadline, then the caller's role, then the
transition. -/
def settle (account : EscrowAccount) (now : ℤ) (caller required : String)
    (refusal : MarketError) (target : EscrowState) : Except MarketError Unit × EscrowAccount :=
  match account.checkNotExpired now with
  | .error failure => (.error failure, account)
  | .ok () => if caller ≠ required then (.error refusal, account) else account.transitionTo target

/-- `EscrowAccount::fund`. -/
def fund (account : EscrowAccount) (now : ℤ) (caller : String) :
    Except MarketError Unit × EscrowAccount :=
  account.settle now caller account.buyer
    (.unauthorized "fund escrow" "buyer"
      (if caller = account.provider then "provider" else "unknown"))
    .funded

/-- `EscrowAccount::release`. -/
def release (account : EscrowAccount) (now : ℤ) (caller : String) :
    Except MarketError Unit × EscrowAccount :=
  account.settle now caller account.buyer
    (.unauthorized "release escrow" "buyer"
      (if caller = account.provider then "provider" else "unknown"))
    .released

/-- `EscrowAccount::refund`. -/
def refund (account : EscrowAccount) (now : ℤ) (caller : String) :
    Except MarketError Unit × EscrowAccount :=
  account.settle now caller account.provider
    (.unauthorized "refund escrow" "provider"
      (if caller = account.buyer then "buyer" else "unknown"))
    .refunded

/-- `EscrowAccount::dispute`. The initiator is written before the transition is tried. -/
def dispute (account : EscrowAccount) (now : ℤ) (caller : String) :
    Except MarketError Unit × EscrowAccount :=
  match account.checkNotExpired now with
  | .error failure => (.error failure, account)
  | .ok () =>
    if caller ≠ account.buyer ∧ caller ≠ account.provider then
      (.error (.unauthorized "dispute escrow" "buyer or provider" "unknown"), account)
    else { account with disputedBy := some caller }.transitionTo .disputed

/-- `EscrowAccount::is_finalized`. -/
def isFinalized (account : EscrowAccount) : Bool :=
  match account.state with
  | .released | .refunded | .expired => true
  | _ => false

end EscrowAccount

/-! ### Runs of calls -/

/-- A call on an account, with its caller and its clock reading. -/
inductive AccountCall where
  | fund (caller : String) (now : ℤ)
  | release (caller : String) (now : ℤ)
  | refund (caller : String) (now : ℤ)
  | dispute (caller : String) (now : ℤ)
  | expireAt (atTime : ℤ)
  deriving DecidableEq

namespace EscrowAccount

/-- The account after a call, whether the call succeeded or failed. -/
def call (account : EscrowAccount) : AccountCall → EscrowAccount
  | .fund caller now => (account.fund now caller).2
  | .release caller now => (account.release now caller).2
  | .refund caller now => (account.refund now caller).2
  | .dispute caller now => (account.dispute now caller).2
  | .expireAt atTime => (account.expireAt atTime).2

/-- The account is live: its funds are locked and not yet settled. -/
def Live (account : EscrowAccount) : Prop :=
  account.state = .funded ∨ account.state = .disputed

/-- The two accounts have the same job, parties, amount, creation time and timeout. -/
structure SameTerms (first second : EscrowAccount) : Prop where
  jobId : second.jobId = first.jobId
  buyer : second.buyer = first.buyer
  provider : second.provider = first.provider
  amount : second.amount = first.amount
  createdAt : second.createdAt = first.createdAt
  timeoutDuration : second.timeoutDuration = first.timeoutDuration

/-- An account has its own terms. -/
theorem SameTerms.refl (account : EscrowAccount) : account.SameTerms account :=
  ⟨rfl, rfl, rfl, rfl, rfl, rfl⟩

/-- Terms compose. -/
theorem SameTerms.trans {first second third : EscrowAccount} (hfirst : first.SameTerms second)
    (hsecond : second.SameTerms third) : first.SameTerms third :=
  ⟨hsecond.jobId.trans hfirst.jobId, hsecond.buyer.trans hfirst.buyer,
    hsecond.provider.trans hfirst.provider, hsecond.amount.trans hfirst.amount,
    hsecond.createdAt.trans hfirst.createdAt,
    hsecond.timeoutDuration.trans hfirst.timeoutDuration⟩

/-- Accounts with the same terms have the same deadline. -/
theorem SameTerms.expiresAt {first second : EscrowAccount} (hterms : first.SameTerms second) :
    second.expiresAt = first.expiresAt := by
  rw [EscrowAccount.expiresAt, EscrowAccount.expiresAt, hterms.createdAt, hterms.timeoutDuration]

/-- What a call can do to the state of an account. -/
inductive Moves (account next : EscrowAccount) : AccountCall → Prop where
  | stays {call : AccountCall} (hstate : next.state = account.state) : Moves account next call
  | funds {caller : String} {now : ℤ} (hbefore : account.state = .created)
      (hafter : next.state = .funded) : Moves account next (.fund caller now)
  | releases {now : ℤ} (hlive : account.Live) (htime : now ≤ account.expiresAt)
      (hafter : next.state = .released) : Moves account next (.release account.buyer now)
  | refunds {now : ℤ} (hlive : account.Live) (htime : now ≤ account.expiresAt)
      (hafter : next.state = .refunded) : Moves account next (.refund account.provider now)
  | disputes {caller : String} {now : ℤ} (hbefore : account.state = .funded)
      (hafter : next.state = .disputed) : Moves account next (.dispute caller now)
  | expires {atTime : ℤ} (hlive : account.Live) (htime : account.expiresAt < atTime)
      (hafter : next.state = .expired) : Moves account next (.expireAt atTime)

/-! ### What one call does -/

/-- A transition keeps the terms. -/
theorem sameTerms_transitionTo (account : EscrowAccount) (target : EscrowState) :
    account.SameTerms (account.transitionTo target).2 := by
  unfold transitionTo
  split_ifs
  · exact ⟨rfl, rfl, rfl, rfl, rfl, rfl⟩
  · exact SameTerms.refl account

/-- A transition either keeps the state or is allowed and reaches its target. -/
theorem transitionTo_cases (account : EscrowAccount) (target : EscrowState) :
    (account.transitionTo target).2.state = account.state ∨
      account.state.canTransitionTo target = true ∧
        (account.transitionTo target).2.state = target := by
  unfold transitionTo
  split_ifs with hallowed
  · exact Or.inr ⟨hallowed, rfl⟩
  · exact Or.inl rfl

/-- The deadline check passes a live account only up to its deadline. -/
theorem le_expiresAt_of_checkNotExpired {account : EscrowAccount} {now : ℤ}
    (hcheck : account.checkNotExpired now = .ok ()) (hlive : account.Live) :
    now ≤ account.expiresAt := by
  by_contra hlate
  have hexpired : account.isExpiredAt now = true := by
    simpa [isExpiredAt, expiresAt] using hlate
  rcases hlive with hstate | hstate <;> simp [checkNotExpired, hstate, hexpired] at hcheck

/-- A settling method keeps the terms. -/
theorem sameTerms_settle (account : EscrowAccount) (now : ℤ) (caller required : String)
    (refusal : MarketError) (target : EscrowState) :
    account.SameTerms (account.settle now caller required refusal target).2 := by
  unfold settle
  split
  · exact SameTerms.refl account
  · split_ifs
    · exact SameTerms.refl account
    · exact sameTerms_transitionTo account target

/-- A settling method either keeps the state, or passes its deadline check, is called in the
required role, and makes an allowed transition to its target. -/
theorem settle_cases (account : EscrowAccount) (now : ℤ) (caller required : String)
    (refusal : MarketError) (target : EscrowState) :
    (account.settle now caller required refusal target).2.state = account.state ∨
      account.checkNotExpired now = .ok () ∧ caller = required ∧
        account.state.canTransitionTo target = true ∧
          (account.settle now caller required refusal target).2.state = target := by
  unfold settle
  split
  · exact Or.inl rfl
  · rename_i hcheck
    split_ifs with hcaller
    · exact Or.inl rfl
    · rcases transitionTo_cases account target with hstays | ⟨hallowed, hafter⟩
      · exact Or.inl hstays
      · exact Or.inr ⟨hcheck, not_not.mp hcaller, hallowed, hafter⟩

/-- The states with a transition to `released`, `refunded` or `expired` are the live ones. -/
theorem live_of_canTransitionTo {account : EscrowAccount} {target : EscrowState}
    (hallowed : account.state.canTransitionTo target = true)
    (htarget : target = .released ∨ target = .refunded ∨ target = .expired) : account.Live := by
  unfold Live
  revert hallowed
  rcases htarget with rfl | rfl | rfl <;> cases account.state <;> decide

/-- Every call keeps the terms. -/
theorem sameTerms_call (account : EscrowAccount) (next : AccountCall) :
    account.SameTerms (account.call next) := by
  cases next with
  | fund caller now => exact sameTerms_settle _ _ _ _ _ _
  | release caller now => exact sameTerms_settle _ _ _ _ _ _
  | refund caller now => exact sameTerms_settle _ _ _ _ _ _
  | dispute caller now =>
    simp only [call, dispute]
    split
    · exact SameTerms.refl account
    · split_ifs
      · exact SameTerms.refl account
      · have hwritten : account.SameTerms { account with disputedBy := some caller } :=
          ⟨rfl, rfl, rfl, rfl, rfl, rfl⟩
        exact hwritten.trans (sameTerms_transitionTo _ _)
  | expireAt atTime =>
    simp only [call, expireAt]
    split_ifs
    · exact SameTerms.refl account
    · exact SameTerms.refl account
    · exact sameTerms_transitionTo account .expired

/-- Every call makes one of the moves. -/
theorem call_cases (account : EscrowAccount) (next : AccountCall) :
    account.Moves (account.call next) next := by
  cases next with
  | fund caller now =>
    rcases settle_cases account now caller account.buyer _ .funded with
      hstays | ⟨_, _, hallowed, hafter⟩
    · exact .stays hstays
    · refine .funds ?_ hafter
      revert hallowed
      cases account.state <;> decide
  | release caller now =>
    rcases settle_cases account now caller account.buyer _ .released with
      hstays | ⟨hcheck, hcaller, hallowed, hafter⟩
    · exact .stays hstays
    · have hlive := live_of_canTransitionTo hallowed (Or.inl rfl)
      subst hcaller
      exact .releases hlive (le_expiresAt_of_checkNotExpired hcheck hlive) hafter
  | refund caller now =>
    rcases settle_cases account now caller account.provider _ .refunded with
      hstays | ⟨hcheck, hcaller, hallowed, hafter⟩
    · exact .stays hstays
    · have hlive := live_of_canTransitionTo hallowed (Or.inr (Or.inl rfl))
      subst hcaller
      exact .refunds hlive (le_expiresAt_of_checkNotExpired hcheck hlive) hafter
  | dispute caller now =>
    simp only [call, dispute]
    split
    · exact .stays rfl
    · split_ifs
      · exact .stays rfl
      · rcases transitionTo_cases { account with disputedBy := some caller } .disputed with
          hstays | ⟨hallowed, hafter⟩
        · exact .stays hstays
        · refine .disputes ?_ hafter
          change account.state.canTransitionTo .disputed = true at hallowed
          revert hallowed
          cases account.state <;> decide
  | expireAt atTime =>
    simp only [call, expireAt]
    split_ifs with hexpired htime
    · exact .stays rfl
    · exact .stays rfl
    · rcases transitionTo_cases account .expired with hstays | ⟨hallowed, hafter⟩
      · exact .stays hstays
      · refine .expires (live_of_canTransitionTo hallowed (Or.inr (Or.inr rfl))) ?_ hafter
        simpa [isExpiredAt, expiresAt] using htime

/-- A live account is not finalized. -/
theorem Live.isFinalized {account : EscrowAccount} (hlive : account.Live) :
    account.isFinalized = false := by
  rcases hlive with hstate | hstate <;> simp [EscrowAccount.isFinalized, hstate]

/-- No call changes the state of a finalized account. -/
theorem call_of_isFinalized {account : EscrowAccount} (hfinal : account.isFinalized = true)
    (next : AccountCall) : (account.call next).state = account.state := by
  have hnotLive : ¬ account.Live := fun hlive ↦ by simp [hlive.isFinalized] at hfinal
  cases call_cases account next with
  | stays hstate => exact hstate
  | funds hbefore _ => simp [isFinalized, hbefore] at hfinal
  | disputes hbefore _ => simp [isFinalized, hbefore] at hfinal
  | releases hlive _ _ => exact absurd hlive hnotLive
  | refunds hlive _ _ => exact absurd hlive hnotLive
  | expires hlive _ _ => exact absurd hlive hnotLive

/-! ### Accountability of whole runs -/

/-- Every run keeps the terms of the account. -/
theorem sameTerms_run (account : EscrowAccount) (calls : List AccountCall) :
    account.SameTerms (calls.foldl call account) :=
  (always_of_step (SameTerms.refl account)
    (fun reached next hterms ↦ hterms.trans (sameTerms_call reached next)) calls).last

/-- Some call of the run is the one that brought a state about: it satisfies the description, on
the account as the calls before it had left it. -/
def BroughtAbout (start : EscrowAccount) (calls : List AccountCall)
    (description : EscrowAccount → AccountCall → Prop) : Prop :=
  ∃ before next after, calls = before ++ next :: after ∧
    description (before.foldl call start) next

/-- What was brought about by the first calls of a run was brought about by the run. -/
theorem BroughtAbout.concat {start : EscrowAccount} {calls : List AccountCall}
    {description : EscrowAccount → AccountCall → Prop}
    (hearlier : BroughtAbout start calls description) (last : AccountCall) :
    BroughtAbout start (calls ++ [last]) description := by
  obtain ⟨before, next, after, hcalls, hdescription⟩ := hearlier
  exact ⟨before, next, after ++ [last], by rw [hcalls]; simp, hdescription⟩

/-- A state other than the initial one was brought about by a call that reaches it from a different
state. -/
theorem broughtAbout_state (start : EscrowAccount) (target : EscrowState)
    (hstart : start.state ≠ target) (calls : List AccountCall) :
    (calls.foldl call start).state = target →
      BroughtAbout start calls fun account next ↦
        account.state ≠ target ∧ (account.call next).state = target := by
  induction calls using List.reverseRecOn with
  | nil => intro hreached; exact absurd hreached hstart
  | append_singleton calls last ih =>
    intro hreached
    rw [List.foldl_concat] at hreached
    by_cases hbefore : (calls.foldl call start).state = target
    · exact (ih hbefore).concat last
    · exact ⟨calls, last, [], rfl, hbefore, hreached⟩

/-- The description of the call that a final state answers to, in terms of the account it was made
on: the buyer's release or the provider's refund of a live account by the deadline, and the expiry
of a live account after it. -/
def Answers (account : EscrowAccount) (next : AccountCall) : EscrowState → Prop
  | .released =>
    ∃ time, next = .release account.buyer time ∧ time ≤ account.expiresAt ∧ account.Live
  | .refunded => ∃ time, next = .refund account.provider time ∧ time ≤ account.expiresAt
  | .expired => ∃ time, next = .expireAt time ∧ account.expiresAt < time
  | _ => True

/-- A call that changes the state answers for the state it reaches. -/
theorem answers_of_call {account : EscrowAccount} {next : AccountCall}
    (hchanged : (account.call next).state ≠ account.state) :
    account.Answers next (account.call next).state := by
  have hmoves := call_cases account next
  generalize account.call next = reached at hmoves hchanged ⊢
  cases hmoves with
  | stays hstate => exact absurd hstate hchanged
  | funds _ hafter => rw [hafter]; trivial
  | disputes _ hafter => rw [hafter]; trivial
  | releases hlive htime hafter => rw [hafter]; exact ⟨_, rfl, htime, hlive⟩
  | refunds hlive htime hafter => rw [hafter]; exact ⟨_, rfl, htime⟩
  | expires hlive htime hafter => rw [hafter]; exact ⟨_, rfl, htime⟩

/-- Along every run, a state other than the initial one answers to a call of the run. -/
theorem broughtAbout_answers {start : EscrowAccount} {calls : List AccountCall}
    (hstart : start.state ≠ (calls.foldl call start).state) :
    BroughtAbout start calls fun account next ↦
      account.Answers next (calls.foldl call start).state := by
  obtain ⟨before, next, after, hcalls, hbefore, hafter⟩ :=
    broughtAbout_state start _ hstart calls rfl
  refine ⟨before, next, after, hcalls, ?_⟩
  have hchanged :
      ((before.foldl call start).call next).state ≠ (before.foldl call start).state := by
    rw [hafter]
    exact hbefore.symm
  have hanswers := answers_of_call hchanged
  rwa [hafter] at hanswers

/-- The accountability of an escrow account along every run of calls: the terms never change, a
released account was released by its buyer by the deadline while it was funded or disputed, a
refunded account was refunded by its provider by the deadline, an expired account was expired after
the deadline, and a finalized account keeps its state. -/
theorem accountability (now : ℤ) (jobId buyer provider : String) (amount : UInt64) (timeout : ℤ)
    (calls : List AccountCall) :
    let start := withTimeout now jobId buyer provider amount timeout
    let reached := calls.foldl call start
    start.SameTerms reached ∧
      (reached.state = .released → BroughtAbout start calls fun account next ↦
        ∃ time, next = .release buyer time ∧ time ≤ start.expiresAt ∧
          (account.state = .funded ∨ account.state = .disputed)) ∧
      (reached.state = .refunded → BroughtAbout start calls fun _ next ↦
        ∃ time, next = .refund provider time ∧ time ≤ start.expiresAt) ∧
      (reached.state = .expired → BroughtAbout start calls fun _ next ↦
        ∃ time, next = .expireAt time ∧ start.expiresAt < time) ∧
      Throughout call
        (fun account next ↦ account.isFinalized = true → (account.call next).state = account.state)
        start calls := by
  intro start reached
  have hcreated : start.state = .created := rfl
  refine ⟨sameTerms_run start calls, fun hreached ↦ ?_, fun hreached ↦ ?_, fun hreached ↦ ?_,
    fun done next _ hfinal ↦ call_of_isFinalized hfinal next⟩
  all_goals
    have hstart : start.state ≠ reached.state := by rw [hcreated, hreached]; decide
    obtain ⟨before, next, after, hcalls, hanswers⟩ := broughtAbout_answers hstart
    have hterms := sameTerms_run start before
    change (before.foldl call start).Answers next reached.state at hanswers
    rw [hreached] at hanswers
    refine ⟨before, next, after, hcalls, ?_⟩
  · obtain ⟨time, hnext, htime, hlive⟩ := hanswers
    exact ⟨time, by rw [hnext, hterms.buyer]; rfl, hterms.expiresAt ▸ htime, hlive⟩
  · obtain ⟨time, hnext, htime⟩ := hanswers
    exact ⟨time, by rw [hnext, hterms.provider]; rfl, hterms.expiresAt ▸ htime⟩
  · obtain ⟨time, hnext, htime⟩ := hanswers
    exact ⟨time, hnext, hterms.expiresAt ▸ htime⟩

end EscrowAccount

end Clawbernetes.MoltMarket
