import Clawbernetes.MoltP2p.RateLimit

/-!
# What one peer sees of the rate limiter

A sweep that another peer's message sets off cuts the history of every peer to the window, and drops
the states that are left with nothing. `settle` is what a check can still see of a state: the active
ban, or else the messages in the window and the violations. A sweep is not seen through it at any
later reading whose window has none of the messages that it drops (`settle_sweep`), so the results a
peer gets are those of a limiter that has no other peer (`verdicts_eq_alone`).

Two results are read off the limiter of a single peer. The results of a peer do not depend on what
the other peers do (`verdicts_independent_of_other_peers`), as long as no sweep that they set off
drops a message that a later check of the peer would count, and no ban of theirs ends after the last
instant of the clock, which is a panic. A sweep drops such a message when it runs before the clock
has a whole window behind it and the check comes after (`verdicts_depend_on_other_peers`). And no
stretch of time as long as the window has more allowed messages of one peer than the limit
(`allowed_within_window_le`).
-/

set_option autoImplicit false
set_option relaxedAutoImplicit false

namespace Clawbernetes.MoltP2p

open Library.FiniteTable

namespace PeerRateState

/-! ### What a check can see of a state -/

/-- What a check can see of a state: the active ban, or else the messages in the window and the
violations, both gone after a ban that has run out. -/
def settle (config : RateLimitConfig) (now : ℕ) (state : PeerRateState) : PeerRateState :=
  match state.activeBan now with
  | some until_ => ⟨[], 0, some until_⟩
  | none =>
    if state.bannedUntil.isSome then new
    else { state with messageTimes := recentTimes config now state }

variable {config : RateLimitConfig} {now later : ℕ} {state : PeerRateState}

/-- The ban that is seen is the active one. -/
theorem settle_bannedUntil : (settle config now state).bannedUntil = state.activeBan now := by
  unfold settle
  cases hban : state.activeBan now with
  | some until_ => rfl
  | none =>
    by_cases hsome : state.bannedUntil.isSome
    · simp [hsome, new]
    · rw [Option.not_isSome_iff_eq_none] at hsome
      simp [hsome]

/-- A ban that has run out has run out at every later reading. -/
theorem activeBan_eq_none_of_le (hle : now ≤ later) (hban : state.activeBan now = none) :
    state.activeBan later = none := by
  unfold activeBan at hban ⊢
  rw [Option.filter_eq_none_iff] at hban ⊢
  intro until_ huntil
  have hover := hban until_ huntil
  simp only [decide_eq_true_eq, not_lt] at hover ⊢
  omega

/-- What is seen of a state without an active ban. -/
theorem settle_of_activeBan_eq_none (hban : state.activeBan now = none) :
    settle config now state = if state.bannedUntil.isSome then new
      else { state with messageTimes := recentTimes config now state } := by
  unfold settle
  rw [hban]

/-- Cutting the history to one window is not seen at a reading whose window has none of the messages
that are cut off. -/
theorem recentTimes_recentTimes
    (hkept : ∀ time ∈ state.messageTimes, windowStart config later ≤ time →
      windowStart config now ≤ time) (count : ℕ) (bannedUntil : Option ℕ) :
    recentTimes config later ⟨recentTimes config now state, count, bannedUntil⟩ =
      recentTimes config later state := by
  unfold recentTimes
  rw [List.filter_filter]
  apply List.filter_congr
  intro time htime
  rw [Bool.eq_iff_iff, Bool.and_eq_true, decide_eq_true_eq, decide_eq_true_eq]
  constructor
  · exact fun hboth ↦ hboth.1
  · exact fun hlater ↦ ⟨hlater, hkept time htime hlater⟩

/-- A new state is seen as a new state. -/
theorem settle_new : settle config now new = new := rfl

/-- A check without an active ban depends only on what is seen of the state. -/
theorem check_settle (hban : state.activeBan now = none) :
    check config now (settle config now state) = check config now state := by
  have hseen : (settle config now state).bannedUntil = none := by
    rw [settle_bannedUntil, hban]
  have hseenBan : (settle config now state).activeBan now = none := by
    unfold activeBan
    rw [hseen]
    rfl
  unfold check
  rw [hseenBan, hban, hseen, settle_of_activeBan_eq_none hban]
  by_cases hsome : state.bannedUntil.isSome
  · simp [hsome, new]
  · simp [hsome, recentTimes_recentTimes (fun _ _ hstart ↦ hstart)]

/-- A state without messages, violations and an active ban is seen as a new state. -/
theorem settle_of_nothing_left (hban : state.activeBan now = none)
    (htimes : state.messageTimes = [])
    (hviolations : state.violationCount = 0) : settle config now state = new := by
  rw [settle_of_activeBan_eq_none hban]
  split_ifs with hsome
  · rfl
  · rw [Option.not_isSome_iff_eq_none] at hsome
    unfold recentTimes
    rw [htimes, hviolations, hsome]
    rfl

/-- The sweep at an earlier reading is not seen when it drops no message of the later window. -/
theorem settle_sweep (hle : now ≤ later)
    (hkept : state.bannedUntil = none → ∀ time ∈ state.messageTimes,
      windowStart config later ≤ time → windowStart config now ≤ time) :
    settle config later ((sweep config now state).getD new) = settle config later state := by
  unfold sweep
  cases hban : state.activeBan now with
  | some until_ => rfl
  | none =>
    have hlater := activeBan_eq_none_of_le hle hban
    have hcutLater :
        activeBan { state with messageTimes := recentTimes config now state } later = none :=
      hlater
    have hcut : settle config later { state with messageTimes := recentTimes config now state } =
        settle config later state := by
      rw [settle_of_activeBan_eq_none hlater, settle_of_activeBan_eq_none hcutLater]
      split_ifs with hbanned
      · rfl
      · rw [recentTimes_recentTimes (hkept (Option.not_isSome_iff_eq_none.mp hbanned))]
    simp only [Option.isSome_none, Bool.false_eq_true, if_false]
    split_ifs with hleft
    · exact hcut
    · -- nothing is left of the state, so a new one takes its place
      rw [not_or, not_not, Nat.pos_iff_ne_zero, not_not] at hleft
      rw [Option.getD_none, ← hcut, settle_new,
        settle_of_nothing_left hcutLater hleft.1 hleft.2]

/-- A state with an active ban survives the sweep. -/
theorem sweep_of_activeBan {until_ : ℕ} (hban : state.activeBan now = some until_) :
    sweep config now state = some state := by
  unfold sweep
  rw [hban]
  rfl

/-- A check under an active ban changes nothing. -/
theorem check_of_activeBan {until_ : ℕ} (hban : state.activeBan now = some until_) :
    check config now state = (state, some (.banned until_)) := by
  unfold check
  rw [hban]

/-- Two states that look the same at the reading of a check get the same result. -/
theorem check_result_congr {other : PeerRateState}
    (hseen : settle config now state = settle config now other) :
    (check config now state).2 = (check config now other).2 := by
  have hbans : state.activeBan now = other.activeBan now := by
    rw [← settle_bannedUntil, hseen, settle_bannedUntil]
  cases hban : other.activeBan now with
  | some until_ =>
    rw [check_of_activeBan (hbans.trans hban), check_of_activeBan hban]
  | none =>
    rw [← check_settle (hbans.trans hban), hseen, check_settle hban]

/-- Two states that look the same at the reading of a check, and at a later reading, look the same
at the later reading after the check. -/
theorem settle_check_congr {other : PeerRateState}
    (hseen : settle config now state = settle config now other)
    (hlater : settle config later state = settle config later other) :
    settle config later (check config now state).1 =
      settle config later (check config now other).1 := by
  have hbans : state.activeBan now = other.activeBan now := by
    rw [← settle_bannedUntil, hseen, settle_bannedUntil]
  cases hban : other.activeBan now with
  | some until_ =>
    rw [check_of_activeBan (hbans.trans hban), check_of_activeBan hban]
    exact hlater
  | none =>
    rw [← check_settle (hbans.trans hban), hseen, check_settle hban]

/-- A check is not seen to follow a sweep at the same reading. -/
theorem settle_check_sweep :
    settle config later (check config now ((sweep config now state).getD new)).1 =
      settle config later (check config now state).1 := by
  cases hban : state.activeBan now with
  | some until_ => rw [sweep_of_activeBan hban, Option.getD_some]
  | none =>
    have hseen : settle config now ((sweep config now state).getD new) = settle config now state :=
      settle_sweep (le_refl now) (fun _ _ _ hstart ↦ hstart)
    have hbanSwept : ((sweep config now state).getD new).activeBan now = none := by
      rw [← settle_bannedUntil, hseen, settle_bannedUntil, hban]
    rw [← check_settle hbanSwept, hseen, check_settle hban]

/-- A new ban hides everything that was before it. -/
theorem settle_ban (until_ : ℕ) {other : PeerRateState} :
    settle config later { state with bannedUntil := some until_ } =
      settle config later { other with bannedUntil := some until_ } := by
  unfold settle activeBan
  by_cases hover : later < until_
  · simp [Option.filter, hover]
  · simp [Option.filter, hover]

/-! ### What a check does -/

/-- The check of a message at the reading ends in a new ban. -/
def Offends (config : RateLimitConfig) (now : ℕ) (state : PeerRateState) : Prop :=
  let seen := settle config now state
  seen.bannedUntil = none ∧ config.maxMessagesPerWindow.toNat ≤ seen.messageTimes.length ∧
    config.violationsBeforeBan.toNat ≤ min (seen.violationCount + 1) (2 ^ 32 - 1)

instance (config : RateLimitConfig) (now : ℕ) (state : PeerRateState) :
    Decidable (state.Offends config now) :=
  inferInstanceAs (Decidable (_ ∧ _ ∧ _))

/-- A check without an active ban, in terms of what is seen of the state. -/
theorem check_eq (hban : state.activeBan now = none) : check config now state =
    let seen := settle config now state
    if config.maxMessagesPerWindow.toNat ≤ seen.messageTimes.length then
      let counted := { seen with violationCount := min (seen.violationCount + 1) (2 ^ 32 - 1) }
      if config.violationsBeforeBan.toNat ≤ counted.violationCount then
        match addDuration now config.banDuration with
        | some until_ => ({ counted with bannedUntil := some until_ }, some (.banned until_))
        | none => (counted, none)
      else (counted, some .rateLimited)
    else ({ seen with messageTimes := seen.messageTimes ++ [now] }, some .allowed) := by
  have hseen : (settle config now state).bannedUntil = none := by
    rw [settle_bannedUntil, hban]
  have hseenBan : (settle config now state).activeBan now = none := by
    unfold activeBan
    rw [hseen]
    rfl
  have hcut : recentTimes config now (settle config now state) =
      (settle config now state).messageTimes := by
    rw [settle_of_activeBan_eq_none hban]
    split_ifs
    · rfl
    · exact recentTimes_recentTimes (fun _ _ hstart ↦ hstart) _ _
  rw [← check_settle hban]
  unfold check
  rw [hseenBan, hseen]
  simp only [Option.isSome_none, Bool.false_eq_true, if_false]
  generalize recentTimes config now (settle config now state) = recent at hcut ⊢
  subst hcut
  rfl

/-- A duration is added unless the sum is after the last instant. -/
theorem addDuration_eq_some_iff {duration : Duration} {until_ : ℕ} :
    addDuration now duration = some until_ ↔
      now + duration.nanoseconds < instantCount ∧ now + duration.nanoseconds = until_ := by
  unfold addDuration
  split_ifs with hfits
  · rw [Option.some_inj, and_iff_right hfits]
  · exact iff_of_false nofun fun hboth ↦ hfits hboth.1

theorem addDuration_eq_none_iff {duration : Duration} :
    addDuration now duration = none ↔ ¬ now + duration.nanoseconds < instantCount := by
  unfold addDuration
  split_ifs with hfits
  · exact iff_of_false nofun (not_not.mpr hfits)
  · exact iff_of_true rfl hfits

/-- A check panics when it ends in a ban that the clock cannot represent. -/
theorem check_eq_none_iff : (check config now state).2 = none ↔
    state.Offends config now ∧ ¬ now + config.banDuration.nanoseconds < instantCount := by
  unfold Offends
  dsimp only
  rw [settle_bannedUntil]
  cases hban : state.activeBan now with
  | some until_ =>
    rw [check_of_activeBan hban]
    exact iff_of_false nofun fun hboth ↦ Option.some_ne_none _ hboth.1.1
  | none =>
    rw [check_eq hban, and_iff_right rfl, ← addDuration_eq_none_iff]
    dsimp only
    by_cases hfull : config.maxMessagesPerWindow.toNat ≤
        (settle config now state).messageTimes.length
    · rw [if_pos hfull, and_iff_right hfull]
      split_ifs with hviolations
      · rw [and_iff_right hviolations]
        cases addDuration now config.banDuration <;> simp
      · exact iff_of_false nofun fun hboth ↦ hviolations hboth.1
    · rw [if_neg hfull]
      exact iff_of_false nofun fun hboth ↦ hfull hboth.1.1

/-! ### A peer on its own -/

/-- One operation on the state of a peer, without a sweep, or a panic. -/
def act (config : RateLimitConfig) (now : ℕ) (action : PeerAction) (state : PeerRateState) :
    Option (PeerRateState × Option RateLimitResult) :=
  match action with
  | .checkAndRecord =>
    if config.enabled then
      (check config now state).2.map fun result ↦ ((check config now state).1, some result)
    else some (state, some .allowed)
  | .banPeer => (addDuration now config.banDuration).map fun until_ ↦
    ({ state with bannedUntil := some until_ }, none)
  | .unbanPeer => some (new, none)
  | .removePeer => some (new, none)

/-- The results of the checks of a peer that is the only one the limiter knows. -/
def alone (config : RateLimitConfig) : PeerRateState → List RateCall → List (ℕ × RateLimitResult)
  | _, [] => []
  | state, call :: rest =>
    match act config call.now call.action state with
    | none => []
    | some (state, none) => alone config state rest
    | some (state, some result) => (call.now, result) :: alone config state rest

end PeerRateState

namespace RateLimiter

open PeerRateState

variable {limiter : RateLimiter} {config : RateLimitConfig} {peerId : PeerId} {now later : ℕ}

/-- The sweep of the limiter sweeps the state of each peer. -/
theorem peerState_cleanup :
    (limiter.cleanup now).peerState peerId =
      ((limiter.peerState peerId).sweep limiter.config now).getD .new := by
  unfold peerState cleanup
  rw [lookup_sift]
  cases hlookup : limiter.peerStates.lookup peerId with
  | none => simp [sweep, activeBan, recentTimes, PeerRateState.new]
  | some state => rfl

/-- A sweep that is due leaves the configuration alone. -/
theorem config_maybeCleanup : (limiter.maybeCleanup now).config = limiter.config := by
  unfold maybeCleanup
  split_ifs
  · rfl
  · rfl

/-- The call sets off a sweep. -/
def Sweeps (limiter : RateLimiter) (call : RateCall) : Prop :=
  call.action = .checkAndRecord ∧ limiter.config.enabled = true ∧
    ¬ call.now - limiter.lastCleanup < 10 * nanosPerSec

/-- The call bans its peer. -/
def Bans (limiter : RateLimiter) (call : RateCall) : Prop :=
  call.action = .banPeer ∨ call.action = .checkAndRecord ∧ limiter.config.enabled = true ∧
    (limiter.peerState call.peerId).Offends limiter.config call.now

instance (limiter : RateLimiter) (call : RateCall) : Decidable (limiter.Sweeps call) :=
  inferInstanceAs (Decidable (_ ∧ _ ∧ _))

instance (limiter : RateLimiter) (call : RateCall) : Decidable (limiter.Bans call) :=
  inferInstanceAs (Decidable (_ ∨ _))

/-- A sweep that may be due is not seen at a later reading whose window has none of the messages
that it drops. -/
theorem settle_maybeCleanup (hle : now ≤ later)
    (hkept : ¬ now - limiter.lastCleanup < 10 * nanosPerSec →
      (limiter.peerState peerId).bannedUntil = none →
        ∀ time ∈ (limiter.peerState peerId).messageTimes,
          windowStart limiter.config later ≤ time → windowStart limiter.config now ≤ time) :
    settle limiter.config later ((limiter.maybeCleanup now).peerState peerId) =
      settle limiter.config later (limiter.peerState peerId) := by
  unfold maybeCleanup
  split_ifs with hdue
  · rfl
  · rw [peerState_cleanup, settle_sweep hle (hkept hdue)]

/-- The state under a written key. -/
theorem peerState_insert_self (states : Table PeerId PeerRateState) (state : PeerRateState)
    (lastCleanup : ℕ) :
    peerState ⟨config, states.insert peerId state, lastCleanup⟩ peerId = state := by
  unfold peerState
  rw [AList.lookup_insert]
  rfl

/-- The state beside a written key. -/
theorem peerState_insert_of_ne {other : PeerId} (hne : peerId ≠ other) (state : PeerRateState) :
    peerState { limiter with peerStates := limiter.peerStates.insert other state } peerId =
      limiter.peerState peerId := by
  unfold peerState
  rw [AList.lookup_insert_ne hne]

/-- The state of a peer after its ban is lifted. -/
theorem peerState_unbanPeer_self : (limiter.unbanPeer peerId).peerState peerId = .new := by
  unfold peerState unbanPeer
  by_cases hpresent : peerId ∈ limiter.peerStates
  · rw [lookup_replace hpresent]
    rfl
  · have habsent : peerId ∉ limiter.peerStates.replace peerId PeerRateState.new := by
      rwa [AList.mem_replace]
    rw [AList.lookup_eq_none.mpr habsent]
    rfl

/-- The state of a peer after it is removed. -/
theorem peerState_removePeer_self : (limiter.removePeer peerId).peerState peerId = .new := by
  unfold peerState removePeer
  rw [AList.lookup_erase]
  rfl

/-- A check is not seen to follow a sweep that may be due at the same reading. -/
theorem settle_check_maybeCleanup :
    settle limiter.config later
        (check limiter.config now ((limiter.maybeCleanup now).peerState peerId)).1 =
      settle limiter.config later (check limiter.config now (limiter.peerState peerId)).1 := by
  unfold maybeCleanup
  split_ifs
  · rfl
  · rw [peerState_cleanup, settle_check_sweep]

/-- A sweep that may be due is not seen at its own reading. -/
theorem settle_maybeCleanup_self :
    settle limiter.config now ((limiter.maybeCleanup now).peerState peerId) =
      settle limiter.config now (limiter.peerState peerId) :=
  settle_maybeCleanup (le_refl now) fun _ _ _ _ hstart ↦ hstart

/-- A call panics when it bans its peer until after the last instant. -/
theorem perform_eq_none_iff {call : RateCall} : limiter.perform call = none ↔
    limiter.Bans call ∧
      ¬ call.now + limiter.config.banDuration.nanoseconds < instantCount := by
  unfold perform Bans
  cases call.action with
  | checkAndRecord =>
    have hoffends : ((limiter.maybeCleanup call.now).peerState call.peerId).Offends
        limiter.config call.now ↔
          (limiter.peerState call.peerId).Offends limiter.config call.now := by
      unfold Offends
      rw [settle_maybeCleanup_self]
    dsimp only
    rw [Option.map_eq_none_iff, checkAndRecord]
    by_cases henabled : limiter.config.enabled
    · simp only [henabled, if_true, config_maybeCleanup]
      rw [check_eq_none_iff, hoffends]
      simp
    · simp [henabled]
  | banPeer => simp [banPeer, addDuration_eq_none_iff]
  | unbanPeer => simp
  | removePeer => simp

/-- A call for a peer does what the operation does on a state that looks the same at its reading:
both panic, or they have the same result and the states look the same wherever they did before. -/
theorem perform_own {call : RateCall} {state : PeerRateState}
    (hseen : call.action = .checkAndRecord →
      settle limiter.config call.now (limiter.peerState call.peerId) =
        settle limiter.config call.now state) :
    (limiter.perform call = none ∧ act limiter.config call.now call.action state = none) ∨
      ∃ after next result, limiter.perform call = some (after, result) ∧
        act limiter.config call.now call.action state = some (next, result) ∧
        after.config = limiter.config ∧ ∀ later,
          settle limiter.config later (limiter.peerState call.peerId) =
            settle limiter.config later state →
          settle limiter.config later (after.peerState call.peerId) =
            settle limiter.config later next := by
  unfold perform act
  cases haction : call.action with
  | checkAndRecord =>
    dsimp only
    unfold checkAndRecord
    by_cases henabled : limiter.config.enabled
    · simp only [henabled, if_true, config_maybeCleanup]
      have hresult := check_result_congr
        (settle_maybeCleanup_self.trans (hseen haction) :
          settle limiter.config call.now
            ((limiter.maybeCleanup call.now).peerState call.peerId) = _)
      rw [hresult]
      cases (check limiter.config call.now state).2 with
      | none => exact .inl ⟨rfl, rfl⟩
      | some result =>
        refine .inr ⟨_, _, _, rfl, rfl, rfl, fun later hlater ↦ ?_⟩
        rw [peerState_insert_self, settle_check_maybeCleanup]
        exact settle_check_congr (hseen haction) hlater
    · simp only [henabled]
      exact .inr ⟨_, _, _, rfl, rfl, rfl, fun _ hlater ↦ hlater⟩
  | banPeer =>
    dsimp only
    unfold banPeer
    cases addDuration call.now limiter.config.banDuration with
    | none => exact .inl ⟨rfl, rfl⟩
    | some until_ =>
      refine .inr ⟨_, _, _, rfl, rfl, rfl, fun later _ ↦ ?_⟩
      rw [peerState_insert_self]
      exact settle_ban until_
  | unbanPeer =>
    refine .inr ⟨_, _, _, rfl, rfl, rfl, fun later _ ↦ ?_⟩
    rw [peerState_unbanPeer_self]
  | removePeer =>
    refine .inr ⟨_, _, _, rfl, rfl, rfl, fun later _ ↦ ?_⟩
    rw [peerState_removePeer_self]

/-- No call changes the configuration. -/
theorem config_of_perform {call : RateCall} {after : RateLimiter}
    {result : Option RateLimitResult} (hperform : limiter.perform call = some (after, result)) :
    after.config = limiter.config := by
  obtain ⟨hpanics, -⟩ | ⟨next, _, _, hsame, -, hconfig, -⟩ :=
    perform_own (fun _ ↦ rfl : call.action = .checkAndRecord →
      settle limiter.config call.now (limiter.peerState call.peerId) = _)
  · rw [hpanics] at hperform
    cases hperform
  · rw [hsame] at hperform
    obtain ⟨rfl, -⟩ := Prod.mk.inj (Option.some.inj hperform)
    exact hconfig

/-- A call for another peer that does not panic is not seen at a later reading whose window has none
of the messages that a sweep drops. -/
theorem perform_other {call : RateCall} (hother : peerId ≠ call.peerId)
    {after : RateLimiter} {result : Option RateLimitResult}
    (hperform : limiter.perform call = some (after, result)) :
    after.config = limiter.config ∧ ∀ later, call.now ≤ later →
      (limiter.Sweeps call → (limiter.peerState peerId).bannedUntil = none →
        ∀ time ∈ (limiter.peerState peerId).messageTimes,
          windowStart limiter.config later ≤ time → windowStart limiter.config call.now ≤ time) →
      settle limiter.config later (after.peerState peerId) =
        settle limiter.config later (limiter.peerState peerId) := by
  unfold perform at hperform
  unfold Sweeps
  cases haction : call.action with
  | checkAndRecord =>
    rw [haction] at hperform
    dsimp only at hperform
    obtain ⟨verdict, hverdict, hsame⟩ := Option.map_eq_some_iff.mp hperform
    obtain ⟨rfl, -⟩ := Prod.mk.inj hsame
    unfold checkAndRecord
    by_cases henabled : limiter.config.enabled
    · simp only [henabled, if_true]
      refine ⟨config_maybeCleanup, fun later hle hkept ↦ ?_⟩
      rw [peerState_insert_of_ne hother, settle_maybeCleanup hle
        (fun hdue ↦ hkept ⟨trivial, trivial, hdue⟩)]
    · simp only [henabled]
      exact ⟨rfl, fun _ _ _ ↦ rfl⟩
  | banPeer =>
    rw [haction] at hperform
    dsimp only at hperform
    obtain ⟨banned, hbanned, hsame⟩ := Option.map_eq_some_iff.mp hperform
    obtain ⟨until_, -, rfl⟩ := Option.map_eq_some_iff.mp hbanned
    obtain ⟨rfl, -⟩ := Prod.mk.inj hsame
    exact ⟨rfl, fun _ _ _ ↦ by rw [peerState_insert_of_ne hother]⟩
  | unbanPeer =>
    rw [haction] at hperform
    obtain ⟨rfl, -⟩ := Prod.mk.inj (Option.some.inj hperform)
    refine ⟨rfl, fun _ _ _ ↦ ?_⟩
    unfold unbanPeer peerState
    rw [lookup_replace_ne hother]
  | removePeer =>
    rw [haction] at hperform
    obtain ⟨rfl, -⟩ := Prod.mk.inj (Option.some.inj hperform)
    refine ⟨rfl, fun _ _ _ ↦ ?_⟩
    unfold removePeer peerState
    rw [AList.lookup_erase_ne hother]

/-! ### Independence of the other peers -/

/-- The clock does not go back. -/
def ClockAdvances (calls : List RateCall) : Prop :=
  calls.Pairwise fun first second ↦ first.now ≤ second.now

/-- A call for another peer leaves this one alone: a sweep that it sets off drops no message that a
later check of the peer would count, and a ban that it sets ends before the clock does. -/
def LeavesAlone (peerId : PeerId) (limiter : RateLimiter) (call : RateCall)
    (later : List RateCall) : Prop :=
  (limiter.Sweeps call → (limiter.peerState peerId).bannedUntil = none →
    ∀ time ∈ (limiter.peerState peerId).messageTimes, ∀ next ∈ later, next.peerId = peerId →
      next.action = .checkAndRecord → windowStart limiter.config next.now ≤ time →
        windowStart limiter.config call.now ≤ time) ∧
  (limiter.Bans call → call.now + limiter.config.banDuration.nanoseconds < instantCount)

instance (peerId : PeerId) (limiter : RateLimiter) (call : RateCall) (later : List RateCall) :
    Decidable (limiter.LeavesAlone peerId call later) :=
  inferInstanceAs (Decidable (_ ∧ _))

/-- Every call of a run for another peer leaves this one alone. -/
def Undisturbed (peerId : PeerId) : RateLimiter → List RateCall → Prop
  | _, [] => True
  | limiter, call :: rest =>
    (call.peerId ≠ peerId → limiter.LeavesAlone peerId call rest) ∧
      ∀ performed ∈ limiter.perform call, Undisturbed peerId performed.1 rest

instance decidableUndisturbed (peerId : PeerId) :
    ∀ (calls : List RateCall) (limiter : RateLimiter), Decidable (limiter.Undisturbed peerId calls)
  | [], _ => isTrue trivial
  | _ :: rest, _ =>
    have (performed : RateLimiter × Option RateLimitResult) :
        Decidable (performed.1.Undisturbed peerId rest) :=
      decidableUndisturbed peerId rest performed.1
    inferInstanceAs (Decidable (_ ∧ _))

/-- The calls for one peer. -/
def callsFor (peerId : PeerId) (calls : List RateCall) : List RateCall :=
  calls.filter fun call ↦ call.peerId = peerId

/-- The results a peer gets are those it gets when the limiter knows no other peer. -/
theorem verdicts_eq_alone {calls : List RateCall} (hclock : ClockAdvances calls) :
    ∀ (limiter : RateLimiter) (state : PeerRateState), limiter.Undisturbed peerId calls →
      (∀ call ∈ calls, call.peerId = peerId → call.action = .checkAndRecord →
        settle limiter.config call.now (limiter.peerState peerId) =
          settle limiter.config call.now state) →
      limiter.verdicts peerId calls = state.alone limiter.config (callsFor peerId calls) := by
  -- the two states may differ, but not in what any later check of the peer can see
  induction calls with
  | nil => intro _ _ _ _; rfl
  | cons call rest ih =>
    rintro limiter state ⟨hleaves, hundisturbed⟩ hseen
    obtain ⟨hclockFirst, hclockRest⟩ := List.pairwise_cons.mp hclock
    have hseenRest := fun other hother ↦ hseen other (List.mem_cons_of_mem call hother)
    by_cases hown : call.peerId = peerId
    · have hcalls : callsFor peerId (call :: rest) = call :: callsFor peerId rest :=
        List.filter_cons_of_pos (by simpa using hown)
      have hnow := hseen call List.mem_cons_self hown
      rw [← hown] at hnow
      rw [hcalls, verdicts, alone]
      obtain ⟨hpanics, hactPanics⟩ | ⟨after, next, result, hperform, hact, hconfig, hlater⟩ :=
        perform_own hnow
      · rw [hpanics, hactPanics]
      · have hrest := ih hclockRest after next (hundisturbed _ hperform) (by
          intro other hother hotherOwn hcheck
          rw [hconfig, ← hown]
          exact hlater other.now (hown ▸ hseenRest other hother hotherOwn hcheck))
        rw [hconfig] at hrest
        rw [hperform, hact]
        cases result with
        | none => exact hrest
        | some result => exact (if_pos hown).trans (congrArg _ hrest)
    · have hcalls : callsFor peerId (call :: rest) = callsFor peerId rest :=
        List.filter_cons_of_neg (by simpa using hown)
      obtain ⟨hkept, hfits⟩ := hleaves hown
      rw [hcalls, verdicts]
      cases hperform : limiter.perform call with
      | none =>
        obtain ⟨hbans, hbeyond⟩ := perform_eq_none_iff.mp hperform
        exact absurd (hfits hbans) hbeyond
      | some performed =>
        obtain ⟨after, result⟩ := performed
        obtain ⟨hconfig, hlater⟩ := perform_other (Ne.symm hown) hperform
        have hrest := ih hclockRest after state (hundisturbed _ hperform) (by
          intro other hother hotherOwn hcheck
          rw [hconfig, hlater other.now (hclockFirst other hother)
            (fun hsweeps hfree time htime ↦
              hkept hsweeps hfree time htime other hother hotherOwn hcheck)]
          exact hseenRest other hother hotherOwn hcheck)
        rw [hconfig] at hrest
        cases result with
        | none => exact hrest
        | some result => exact (if_neg hown).trans hrest

/-- Two runs with the same calls for a peer give it the same results, whatever the calls for other
peers are, when these leave the peer alone in both. -/
theorem verdicts_independent_of_other_peers (config : RateLimitConfig) (peerId : PeerId)
    (firstCreated secondCreated : ℕ) (firstCalls secondCalls : List RateCall)
    (hcalls : callsFor peerId firstCalls = callsFor peerId secondCalls)
    (hfirstClock : ClockAdvances firstCalls) (hsecondClock : ClockAdvances secondCalls)
    (hfirst : (RateLimiter.new firstCreated config).Undisturbed peerId firstCalls)
    (hsecond : (RateLimiter.new secondCreated config).Undisturbed peerId secondCalls) :
    (RateLimiter.new firstCreated config).verdicts peerId firstCalls =
      (RateLimiter.new secondCreated config).verdicts peerId secondCalls := by
  have hfirstAlone := verdicts_eq_alone hfirstClock (RateLimiter.new firstCreated config)
    PeerRateState.new hfirst (fun _ _ _ _ ↦ rfl)
  have hsecondAlone := verdicts_eq_alone hsecondClock (RateLimiter.new secondCreated config)
    PeerRateState.new hsecond (fun _ _ _ _ ↦ rfl)
  rw [hfirstAlone, hsecondAlone, hcalls]
  rfl

/-- One message a minute. -/
def exampleConfig : RateLimitConfig :=
  { RateLimitConfig.default with maxMessagesPerWindow := 1, windowDuration := .fromSecs 60 }

/-- A message, at a number of seconds after the earliest instant of the clock. -/
def exampleMessage (peerId : UInt8) (seconds : ℕ) : RateCall :=
  ⟨seconds * nanosPerSec, .ofByte peerId, .checkAndRecord⟩

/-- A configuration with the longest bans. -/
def foreverConfig : RateLimitConfig := { exampleConfig with banDuration := .max }

/-- Twenty seconds after the earliest instant a window of a minute cannot be subtracted. A message
of another peer ten seconds later sets off a sweep that forgets the peer's message, and at the 61st
second the peer may send again within the minute. And where bans are the longest, a ban of another
peer is a panic, after which the peer gets no result. -/
theorem verdicts_depend_on_other_peers :
    (callsFor (.ofByte 1) [exampleMessage 1 20, exampleMessage 1 61] =
        callsFor (.ofByte 1) [exampleMessage 1 20, exampleMessage 2 30, exampleMessage 1 61] ∧
      ClockAdvances [exampleMessage 1 20, exampleMessage 2 30, exampleMessage 1 61] ∧
      (RateLimiter.new (19 * nanosPerSec) exampleConfig).verdicts (.ofByte 1)
          [exampleMessage 1 20, exampleMessage 1 61] =
        [(20 * nanosPerSec, .allowed), (61 * nanosPerSec, .rateLimited)] ∧
      (RateLimiter.new (19 * nanosPerSec) exampleConfig).verdicts (.ofByte 1)
          [exampleMessage 1 20, exampleMessage 2 30, exampleMessage 1 61] =
        [(20 * nanosPerSec, .allowed), (61 * nanosPerSec, .allowed)]) ∧
    ((RateLimiter.new (139 * nanosPerSec) foreverConfig).verdicts (.ofByte 1)
          [exampleMessage 1 141] = [(141 * nanosPerSec, .allowed)] ∧
      (RateLimiter.new (139 * nanosPerSec) foreverConfig).verdicts (.ofByte 1)
          [⟨140 * nanosPerSec, .ofByte 2, .banPeer⟩, exampleMessage 1 141] = []) := by
  unfold ClockAdvances
  decide +kernel

/-- The same messages two minutes later: the sweep of the other peer's message is not seen. -/
theorem verdicts_independent_of_other_peers_exampleMessage :
    (RateLimiter.new (139 * nanosPerSec) exampleConfig).verdicts (.ofByte 1)
        [exampleMessage 1 140, exampleMessage 1 181] =
      (RateLimiter.new (139 * nanosPerSec) exampleConfig).verdicts (.ofByte 1)
        [exampleMessage 1 140, exampleMessage 2 150, exampleMessage 1 181] :=
  verdicts_independent_of_other_peers exampleConfig (.ofByte 1) _ _ _ _ (by decide +kernel)
    (by unfold ClockAdvances; decide +kernel) (by unfold ClockAdvances; decide +kernel)
    (by decide +kernel) (by decide +kernel)

end RateLimiter

/-! ### The limit in every window -/

namespace PeerRateState

variable {config : RateLimitConfig} {now last : ℕ} {state : PeerRateState} {past : List ℕ}

/-- The state of a peer accounts for the messages that were allowed up to a reading: without a ban
those of any window from that reading on are in the history, and a ban ends no sooner than its
duration after each of them. -/
structure Accounts (config : RateLimitConfig) (past : List ℕ) (last : ℕ) (state : PeerRateState) :
    Prop where
  earlier : ∀ time ∈ past, time ≤ last
  recorded : state.bannedUntil = none → ∀ start, last ≤ start + config.windowDuration.nanoseconds →
    (past.countP fun time ↦ start ≤ time) ≤ state.messageTimes.countP fun time ↦ start ≤ time
  banned : ∀ until_, state.bannedUntil = some until_ → ∀ time ∈ past,
    time + config.banDuration.nanoseconds ≤ until_

/-- The account of a later reading. -/
theorem Accounts.mono (haccounts : Accounts config past last state) (hle : last ≤ now) :
    Accounts config past now state where
  earlier := fun time htime ↦ (haccounts.earlier time htime).trans hle
  recorded := fun hban start hstart ↦ haccounts.recorded hban start (hle.trans hstart)
  banned := haccounts.banned

/-- A window with a whole window behind it starts one window before the reading. -/
theorem windowStart_of_le (hwindow : config.windowDuration.nanoseconds ≤ now) :
    windowStart config now = now - config.windowDuration.nanoseconds := by
  unfold windowStart
  rw [if_pos hwindow]

/-- What a check sees of a state without an active ban has all the messages in the window. -/
theorem Accounts.recorded_settle (haccounts : Accounts config past now state)
    (hduration : config.windowDuration.nanoseconds < config.banDuration.nanoseconds)
    (hwindow : config.windowDuration.nanoseconds ≤ now) (hban : state.activeBan now = none)
    (start : ℕ) (hstart : now ≤ start + config.windowDuration.nanoseconds) :
    (past.countP fun time ↦ start ≤ time) ≤
      (settle config now state).messageTimes.countP fun time ↦ start ≤ time := by
  rw [settle_of_activeBan_eq_none hban]
  cases huntil : state.bannedUntil with
  | some until_ =>
    -- every message was allowed before the ban, which has lasted longer than the window
    have hover : until_ ≤ now := by
      simpa [activeBan, huntil, Option.filter] using hban
    have hnone : (past.countP fun time ↦ start ≤ time) = 0 := by
      rw [List.countP_eq_zero]
      intro time htime
      have hbefore := haccounts.banned until_ huntil time htime
      simp only [decide_eq_true_eq, not_le]
      omega
    rw [hnone]
    exact Nat.zero_le _
  | none =>
    have hrecorded := haccounts.recorded huntil start hstart
    have hcut : (state.messageTimes.countP fun time ↦ start ≤ time) =
        (recentTimes config now state).countP fun time ↦ start ≤ time := by
      unfold recentTimes
      rw [List.countP_filter, windowStart_of_le hwindow]
      apply List.countP_congr
      intro time _
      simp only [decide_eq_true_eq, Bool.and_eq_true]
      omega
    simpa [hcut] using hrecorded

/-- The outcomes of a check without an active ban: a panic, a new ban, a violation without one, or
the message is allowed and recorded. -/
theorem check_cases (config : RateLimitConfig) (hban : state.activeBan now = none) :
    (check config now state).2 = none ∨
    (∃ count, check config now state = (⟨(settle config now state).messageTimes, count,
      some (now + config.banDuration.nanoseconds)⟩,
        some (.banned (now + config.banDuration.nanoseconds)))) ∨
    (∃ count, check config now state =
      (⟨(settle config now state).messageTimes, count, none⟩, some .rateLimited)) ∨
    ((settle config now state).messageTimes.length < config.maxMessagesPerWindow.toNat ∧
      check config now state = (⟨(settle config now state).messageTimes ++ [now],
        (settle config now state).violationCount, none⟩, some .allowed)) := by
  have hseen : (settle config now state).bannedUntil = none := by
    rw [settle_bannedUntil, hban]
  rw [check_eq hban]
  dsimp only
  rw [hseen]
  by_cases hfull : config.maxMessagesPerWindow.toNat ≤ (settle config now state).messageTimes.length
  · rw [if_pos hfull]
    split_ifs
    · cases huntil : addDuration now config.banDuration with
      | none => exact .inl rfl
      | some until_ =>
        obtain ⟨-, rfl⟩ := addDuration_eq_some_iff.mp huntil
        exact .inr (.inl ⟨_, rfl⟩)
    · exact .inr (.inr (.inl ⟨_, rfl⟩))
  · rw [if_neg hfull]
    exact .inr (.inr (.inr ⟨not_le.mp hfull, rfl⟩))

/-- An allowed message has fewer than the limit before it in the window that ends with it. -/
theorem Accounts.countP_lt_of_allowed (haccounts : Accounts config past now state)
    (hduration : config.windowDuration.nanoseconds < config.banDuration.nanoseconds)
    (hwindow : config.windowDuration.nanoseconds ≤ now)
    (hallowed : (check config now state).2 = some .allowed) :
    (past.countP fun time ↦ now - config.windowDuration.nanoseconds ≤ time) <
      config.maxMessagesPerWindow.toNat := by
  cases hban : state.activeBan now with
  | some until_ =>
    rw [check_of_activeBan hban] at hallowed
    cases hallowed
  | none =>
    have hrecorded := haccounts.recorded_settle hduration hwindow hban
      (now - config.windowDuration.nanoseconds) (by omega)
    obtain hpanics | ⟨_, hcheck⟩ | ⟨_, hcheck⟩ | ⟨hroom, _⟩ := check_cases config hban
    · rw [hpanics] at hallowed
      cases hallowed
    · rw [hcheck] at hallowed
      cases hallowed
    · rw [hcheck] at hallowed
      cases hallowed
    · exact hrecorded.trans_lt (List.countP_le_length.trans_lt hroom)

/-- The messages that were allowed after a check. -/
def allowedAfter (past : List ℕ) (now : ℕ) (result : RateLimitResult) : List ℕ :=
  if result = .allowed then now :: past else past

/-- A check with a result keeps the account. -/
theorem Accounts.after_check (haccounts : Accounts config past now state)
    (hduration : config.windowDuration.nanoseconds < config.banDuration.nanoseconds)
    (hwindow : config.windowDuration.nanoseconds ≤ now) {result : RateLimitResult}
    (hresult : (check config now state).2 = some result) :
    Accounts config (allowedAfter past now result) now (check config now state).1 := by
  cases hban : state.activeBan now with
  | some until_ =>
    rw [check_of_activeBan hban] at hresult ⊢
    obtain rfl := Option.some.inj hresult
    exact haccounts
  | none =>
    have hrecorded := haccounts.recorded_settle hduration hwindow hban
    obtain hpanics | ⟨count, hcheck⟩ | ⟨count, hcheck⟩ | ⟨_, hcheck⟩ := check_cases config hban
    · rw [hpanics] at hresult
      cases hresult
    · rw [hcheck] at hresult ⊢
      obtain rfl := Option.some.inj hresult
      refine ⟨haccounts.earlier, fun hnone ↦ (Option.some_ne_none _ hnone).elim, ?_⟩
      intro until_ huntil time htime
      obtain rfl := Option.some.inj huntil
      exact Nat.add_le_add_right (haccounts.earlier time htime) _
    · rw [hcheck] at hresult ⊢
      obtain rfl := Option.some.inj hresult
      exact ⟨haccounts.earlier, fun _ ↦ hrecorded,
        fun _ huntil ↦ (Option.some_ne_none _ huntil.symm).elim⟩
    · rw [hcheck] at hresult ⊢
      obtain rfl := Option.some.inj hresult
      refine ⟨?_, ?_, fun _ huntil ↦ (Option.some_ne_none _ huntil.symm).elim⟩
      · intro time htime
        obtain rfl | htime := List.mem_cons.mp htime
        · exact le_refl _
        · exact haccounts.earlier time htime
      · intro _ start hstart
        have hbefore := hrecorded start hstart
        show ((now :: past).countP fun time ↦ start ≤ time) ≤ _
        rw [List.countP_append, List.countP_cons, List.countP_singleton]
        exact Nat.add_le_add_right hbefore _

/-- A ban keeps the account. -/
theorem Accounts.after_ban (haccounts : Accounts config past now state) :
    Accounts config past now
      { state with bannedUntil := some (now + config.banDuration.nanoseconds) } := by
  refine ⟨haccounts.earlier, fun hnone ↦ (Option.some_ne_none _ hnone).elim, ?_⟩
  intro until_ huntil time htime
  obtain rfl := Option.some.inj huntil
  exact Nat.add_le_add_right (haccounts.earlier time htime) _

/-- The number of allowed messages between two readings. -/
def allowedBetween (first last : ℕ) (verdicts : List (ℕ × RateLimitResult)) : ℕ :=
  verdicts.countP fun verdict ↦ verdict.2 = .allowed ∧ first ≤ verdict.1 ∧ verdict.1 ≤ last

/-- A message that is allowed moves from the results to the messages before them. -/
theorem countP_allowedAfter (first last : ℕ) (past : List ℕ) (now : ℕ) (result : RateLimitResult)
    (later : List (ℕ × RateLimitResult)) :
    ((allowedAfter past now result).countP fun time ↦ first ≤ time ∧ time ≤ last) +
        allowedBetween first last later =
      (past.countP fun time ↦ first ≤ time ∧ time ≤ last) +
        allowedBetween first last ((now, result) :: later) := by
  unfold allowedAfter allowedBetween
  by_cases hallowed : result = .allowed
  · rw [if_pos hallowed, List.countP_cons, List.countP_cons]
    simp only [hallowed, true_and]
    omega
  · rw [if_neg hallowed, List.countP_cons]
    simp only [hallowed, false_and, decide_false, Bool.false_eq_true, if_false, Nat.add_zero]

/-- After a check there are still no more than the limit of allowed messages in a stretch of time
as long as the window. -/
theorem Accounts.countP_allowedAfter_le (haccounts : Accounts config past now state)
    (hduration : config.windowDuration.nanoseconds < config.banDuration.nanoseconds)
    (hwindow : config.windowDuration.nanoseconds ≤ now) {result : RateLimitResult}
    (hresult : (check config now state).2 = some result) {first last : ℕ}
    (hlength : last ≤ first + config.windowDuration.nanoseconds)
    (hpast : (past.countP fun time ↦ first ≤ time ∧ time ≤ last) ≤
      config.maxMessagesPerWindow.toNat) :
    ((allowedAfter past now result).countP fun time ↦ first ≤ time ∧ time ≤ last) ≤
      config.maxMessagesPerWindow.toNat := by
  unfold allowedAfter
  split_ifs with hallowed
  · rw [hallowed] at hresult
    have hroom := haccounts.countP_lt_of_allowed hduration hwindow hresult
    rw [List.countP_cons]
    by_cases hinside : first ≤ now ∧ now ≤ last
    · -- the messages of the stretch before this one are in the window that ends with it
      have hsub : (past.countP fun time ↦ first ≤ time ∧ time ≤ last) ≤
          past.countP fun time ↦ now - config.windowDuration.nanoseconds ≤ time := by
        apply List.countP_mono_left
        intro time _ htime
        simp only [decide_eq_true_eq] at htime ⊢
        omega
      simp only [hinside, and_self, decide_true, if_true]
      omega
    · simp only [hinside, decide_false, Bool.false_eq_true, if_false]
      exact hpast
  · exact hpast

/-- A run of checks and bans from a state that accounts for the messages allowed before it allows no
more messages than the limit in a stretch of time as long as the window, those before it
included. -/
theorem Accounts.alone_allowedBetween_le (henabled : config.enabled = true)
    (hduration : config.windowDuration.nanoseconds < config.banDuration.nanoseconds)
    {first last : ℕ} (hlength : last ≤ first + config.windowDuration.nanoseconds) :
    ∀ {calls : List RateCall} {state : PeerRateState} {past : List ℕ} {before : ℕ},
      Accounts config past before state → RateLimiter.ClockAdvances calls →
      (∀ call ∈ calls, before ≤ call.now ∧ config.windowDuration.nanoseconds ≤ call.now ∧
        call.action ≠ .unbanPeer ∧ call.action ≠ .removePeer) →
      (past.countP fun time ↦ first ≤ time ∧ time ≤ last) ≤ config.maxMessagesPerWindow.toNat →
      (past.countP fun time ↦ first ≤ time ∧ time ≤ last) +
        allowedBetween first last (alone config state calls) ≤
          config.maxMessagesPerWindow.toNat := by
  intro calls
  induction calls with
  | nil => intro _ _ _ _ _ _ hpast; exact hpast
  | cons call rest ih =>
    intro state past before haccounts hclock hcalls hpast
    obtain ⟨hclockFirst, hclockRest⟩ := List.pairwise_cons.mp hclock
    obtain ⟨hbefore, hwindow, hunban, hremove⟩ := hcalls call List.mem_cons_self
    have hrest : ∀ other ∈ rest, call.now ≤ other.now ∧
        config.windowDuration.nanoseconds ≤ other.now ∧
        other.action ≠ .unbanPeer ∧ other.action ≠ .removePeer := fun other hother ↦
      ⟨hclockFirst other hother, (hcalls other (List.mem_cons_of_mem call hother)).2⟩
    have hnow := haccounts.mono hbefore
    rw [alone]
    cases haction : call.action with
    | unbanPeer => exact absurd haction hunban
    | removePeer => exact absurd haction hremove
    | banPeer =>
      rw [act]
      cases huntil : addDuration call.now config.banDuration with
      | none => exact hpast
      | some until_ =>
        obtain ⟨-, rfl⟩ := addDuration_eq_some_iff.mp huntil
        exact ih hnow.after_ban hclockRest hrest hpast
    | checkAndRecord =>
      rw [act, if_pos henabled]
      cases hresult : (check config call.now state).2 with
      | none => exact hpast
      | some result =>
        have hlater := ih (hnow.after_check hduration hwindow hresult) hclockRest hrest
          (hnow.countP_allowedAfter_le hduration hwindow hresult hlength hpast)
        rwa [countP_allowedAfter] at hlater

end PeerRateState

namespace RateLimiter

open PeerRateState

/-- A run gives a peer the results of the part of it before it panics, in which the other peers
leave this one alone when the window never starts earlier. -/
theorem exists_undisturbed {peerId : PeerId} {calls : List RateCall} :
    ∀ limiter : RateLimiter, (calls.Pairwise fun first second ↦
        windowStart limiter.config first.now ≤ windowStart limiter.config second.now) →
      ∃ done, done <+: calls ∧ limiter.Undisturbed peerId done ∧
        limiter.verdicts peerId done = limiter.verdicts peerId calls := by
  induction calls with
  | nil => exact fun _ _ ↦ ⟨[], List.nil_prefix, trivial, rfl⟩
  | cons call rest ih =>
    intro limiter hstart
    obtain ⟨hfirst, hrest⟩ := List.pairwise_cons.mp hstart
    cases hperform : limiter.perform call with
    | none =>
      refine ⟨[], List.nil_prefix, trivial, ?_⟩
      rw [verdicts, verdicts, hperform]
    | some performed =>
      obtain ⟨after, result⟩ := performed
      have hconfig : after.config = limiter.config := config_of_perform hperform
      obtain ⟨done, hdone, hundisturbed, hverdicts⟩ := ih after (by rwa [hconfig])
      refine ⟨call :: done, List.cons_prefix_cons.mpr ⟨rfl, hdone⟩, ⟨fun _ ↦ ⟨?_, ?_⟩, ?_⟩, ?_⟩
      · intro _ _ time _ next hnext _ _ hlater
        exact (hfirst next (hdone.subset hnext)).trans hlater
      · intro hbans
        by_contra hbeyond
        rw [perform_eq_none_iff.mpr ⟨hbans, hbeyond⟩] at hperform
        cases hperform
      · rintro _ hsame
        obtain rfl := Option.some.inj (hperform.symm.trans hsame)
        exact hundisturbed
      · rw [verdicts, verdicts, hperform]
        cases result with
        | none => exact hverdicts
        | some result => dsimp only; rw [hverdicts]

/-- From any state of an enabled limiter whose bans last longer than its window, no stretch of time
as long as the window has more allowed messages of one peer than the limit, as long as the peer is
not unbanned or removed by hand and every reading has a whole window behind it. -/
theorem allowed_within_window_le (limiter : RateLimiter) (peerId : PeerId) (calls : List RateCall)
    (henabled : limiter.config.enabled = true)
    (hduration : limiter.config.windowDuration.nanoseconds <
      limiter.config.banDuration.nanoseconds)
    (hclock : ClockAdvances calls)
    (hrepresentable : ∀ call ∈ calls, limiter.config.windowDuration.nanoseconds ≤ call.now)
    (hmanual : ∀ call ∈ calls, call.peerId = peerId →
      call.action ≠ .unbanPeer ∧ call.action ≠ .removePeer)
    (first last : ℕ) (hlength : last ≤ first + limiter.config.windowDuration.nanoseconds) :
    allowedBetween first last (limiter.verdicts peerId calls) ≤
      limiter.config.maxMessagesPerWindow.toNat := by
  have hstart : calls.Pairwise fun earlier later ↦
      windowStart limiter.config earlier.now ≤ windowStart limiter.config later.now := by
    refine hclock.imp_of_mem ?_
    intro earlier later hearlier hlater hle
    rw [windowStart_of_le (hrepresentable earlier hearlier),
      windowStart_of_le (hrepresentable later hlater)]
    exact Nat.sub_le_sub_right hle _
  obtain ⟨done, hprefix, hundisturbed, hverdicts⟩ := exists_undisturbed limiter hstart
  have hdone : ClockAdvances done := hclock.sublist hprefix.sublist
  rw [← hverdicts, verdicts_eq_alone hdone limiter (limiter.peerState peerId) hundisturbed
    (fun _ _ _ _ ↦ rfl)]
  have haccounts : Accounts limiter.config [] 0 (limiter.peerState peerId) := by
    refine ⟨?_, ?_, ?_⟩
    · exact fun _ htime ↦ absurd htime List.not_mem_nil
    · exact fun _ _ _ ↦ Nat.zero_le _
    · exact fun _ _ _ htime ↦ absurd htime List.not_mem_nil
  have hown : ClockAdvances (callsFor peerId done) := hdone.sublist List.filter_sublist
  have hcalls : ∀ call ∈ callsFor peerId done, 0 ≤ call.now ∧
      limiter.config.windowDuration.nanoseconds ≤ call.now ∧
      call.action ≠ .unbanPeer ∧ call.action ≠ .removePeer := by
    intro call hcall
    obtain ⟨hmem, hpeer⟩ := List.mem_filter.mp hcall
    have hcalled := hprefix.subset hmem
    exact ⟨Nat.zero_le _, hrepresentable call hcalled,
      hmanual call hcalled (of_decide_eq_true hpeer)⟩
  have hbound := haccounts.alone_allowedBetween_le henabled hduration hlength hown hcalls
    (Nat.zero_le _)
  rwa [List.countP_nil, Nat.zero_add] at hbound

/-- Three messages of a peer within a minute, with a limit of one message a minute. -/
theorem allowed_within_window_le_exampleMessage :
    allowedBetween (140 * nanosPerSec) (199 * nanosPerSec)
      ((RateLimiter.new (139 * nanosPerSec)
        { exampleConfig with banDuration := .fromSecs 61 }).verdicts (.ofByte 1)
          [exampleMessage 1 140, exampleMessage 2 151, exampleMessage 1 181,
            exampleMessage 1 199]) ≤ 1 :=
  allowed_within_window_le _ (.ofByte 1) _ rfl (by decide +kernel)
    (by unfold ClockAdvances; decide +kernel) (by decide +kernel) (by decide +kernel)
    (140 * nanosPerSec) (199 * nanosPerSec) (by decide +kernel)

end RateLimiter

end Clawbernetes.MoltP2p
