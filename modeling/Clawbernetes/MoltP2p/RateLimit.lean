import Clawbernetes.Library.FiniteTable
import Clawbernetes.MoltP2p.Announcement

/-!
# The rate limiter of the gossip layer

`gossip/rate_limit.rs`. Each peer has the times of its messages in the sliding window, a number of
violations and, when it is banned, the end of the ban. An `Instant` is a number of nanoseconds since
the earliest one, and every reading of the clock is an argument. A message is checked against its
own peer's state only (`checkAndRecord`), after a sweep of all the states that runs every ten
seconds (`maybeCleanup`). A ban that would end after the last `Instant` is a panic.
-/

set_option autoImplicit false
set_option relaxedAutoImplicit false

namespace Clawbernetes.MoltP2p

open Library.FiniteTable

/-- `RateLimitConfig`. -/
structure RateLimitConfig where
  maxMessagesPerWindow : UInt32
  windowDuration : Duration
  violationsBeforeBan : UInt32
  banDuration : Duration
  enabled : Bool
  deriving DecidableEq

/-- `Duration::from_secs`. -/
def Duration.fromSecs (secs : UInt64) : Duration :=
  ⟨secs.toNat * nanosPerSec, (Nat.mul_lt_mul_right (by decide)).mpr secs.toNat_lt⟩

/-- `RateLimitConfig::default`. -/
def RateLimitConfig.default : RateLimitConfig where
  maxMessagesPerWindow := 100
  windowDuration := .fromSecs 1
  violationsBeforeBan := 5
  banDuration := .fromSecs 60
  enabled := true

/-- The number of instants of the clock: seconds have 64 bits, as in a `Duration`. -/
def instantCount : ℕ := 2 ^ 64 * nanosPerSec

/-- `Instant + Duration`, which panics when the sum is after the last instant. -/
def addDuration (now : ℕ) (duration : Duration) : Option ℕ :=
  if now + duration.nanoseconds < instantCount then some (now + duration.nanoseconds) else none

/-- `RateLimitResult`. -/
inductive RateLimitResult where
  | allowed
  | rateLimited
  | banned (until_ : ℕ)
  deriving DecidableEq

/-- `PeerRateState`. The violations are a `u32`. -/
structure PeerRateState where
  messageTimes : List ℕ
  violationCount : ℕ
  bannedUntil : Option ℕ
  deriving DecidableEq

namespace PeerRateState

/-- `PeerRateState::new`. -/
def new : PeerRateState := ⟨[], 0, none⟩

/-- The end of the ban of a peer that is banned now. -/
def activeBan (state : PeerRateState) (now : ℕ) : Option ℕ :=
  state.bannedUntil.filter fun until_ ↦ now < until_

/-- The start of the window. `Instant::checked_sub` fails before the origin of the clock, and the
window then starts now. -/
def windowStart (config : RateLimitConfig) (now : ℕ) : ℕ :=
  if config.windowDuration.nanoseconds ≤ now then now - config.windowDuration.nanoseconds else now

/-- The times of messages in the window. -/
def recentTimes (config : RateLimitConfig) (now : ℕ) (state : PeerRateState) : List ℕ :=
  state.messageTimes.filter fun time ↦ windowStart config now ≤ time

/-- The part of `check_and_record` that reads and changes the state of the peer. Without a result it
panics, and the state is what it has changed until then. -/
def check (config : RateLimitConfig) (now : ℕ) (state : PeerRateState) :
    PeerRateState × Option RateLimitResult :=
  match state.activeBan now with
  | some until_ => (state, some (.banned until_))
  | none =>
    -- a ban that has run out leaves a fresh state behind
    let state := if state.bannedUntil.isSome then new else state
    let state := { state with messageTimes := recentTimes config now state }
    if config.maxMessagesPerWindow.toNat ≤ state.messageTimes.length then
      let state := { state with violationCount := min (state.violationCount + 1) (2 ^ 32 - 1) }
      if config.violationsBeforeBan.toNat ≤ state.violationCount then
        match addDuration now config.banDuration with
        | some until_ => ({ state with bannedUntil := some until_ }, some (.banned until_))
        | none => (state, none)
      else (state, some .rateLimited)
    else ({ state with messageTimes := state.messageTimes ++ [now] }, some .allowed)

/-- The closure of `cleanup`: a banned state stays as it is, another one is cut to the window and
dropped when nothing is left of it. -/
def sweep (config : RateLimitConfig) (now : ℕ) (state : PeerRateState) : Option PeerRateState :=
  if (state.activeBan now).isSome then some state
  else
    let state := { state with messageTimes := recentTimes config now state }
    if state.messageTimes ≠ [] ∨ 0 < state.violationCount then some state else none

end PeerRateState

/-- `RateLimiter`. -/
structure RateLimiter where
  config : RateLimitConfig
  peerStates : Table PeerId PeerRateState
  lastCleanup : ℕ

namespace RateLimiter

/-- `RateLimiter::new`. -/
def new (now : ℕ) (config : RateLimitConfig) : RateLimiter := ⟨config, ∅, now⟩

/-- `RateLimiter::cleanup`. -/
def cleanup (limiter : RateLimiter) (now : ℕ) : RateLimiter where
  config := limiter.config
  peerStates := sift (fun _ state ↦ state.sweep limiter.config now) limiter.peerStates
  lastCleanup := now

/-- `RateLimiter::maybe_cleanup`: a sweep every ten seconds. -/
def maybeCleanup (limiter : RateLimiter) (now : ℕ) : RateLimiter :=
  if now - limiter.lastCleanup < 10 * nanosPerSec then limiter else limiter.cleanup now

/-- The state of a peer, a new one when it has none. -/
def peerState (limiter : RateLimiter) (peerId : PeerId) : PeerRateState :=
  (limiter.peerStates.lookup peerId).getD .new

/-- `RateLimiter::check_and_record`, without a result when it panics. -/
def checkAndRecord (limiter : RateLimiter) (now : ℕ) (peerId : PeerId) :
    RateLimiter × Option RateLimitResult :=
  if limiter.config.enabled then
    let limiter := limiter.maybeCleanup now
    let (state, result) := (limiter.peerState peerId).check limiter.config now
    ({ limiter with peerStates := limiter.peerStates.insert peerId state }, result)
  else (limiter, some .allowed)

/-- `RateLimiter::ban_peer`, or a panic. -/
def banPeer (limiter : RateLimiter) (now : ℕ) (peerId : PeerId) : Option RateLimiter :=
  (addDuration now limiter.config.banDuration).map fun until_ ↦
    let state := { limiter.peerState peerId with bannedUntil := some until_ }
    { limiter with peerStates := limiter.peerStates.insert peerId state }

/-- `RateLimiter::unban_peer`: a tracked peer starts afresh. -/
def unbanPeer (limiter : RateLimiter) (peerId : PeerId) : RateLimiter :=
  { limiter with peerStates := limiter.peerStates.replace peerId .new }

/-- `RateLimiter::remove_peer`. -/
def removePeer (limiter : RateLimiter) (peerId : PeerId) : RateLimiter :=
  { limiter with peerStates := limiter.peerStates.erase peerId }

end RateLimiter

/-- The operations of the limiter that concern one peer. -/
inductive PeerAction where
  | checkAndRecord
  | banPeer
  | unbanPeer
  | removePeer
  deriving DecidableEq

/-- A call of one of the operations, with the reading of the clock it is made at. -/
structure RateCall where
  now : ℕ
  peerId : PeerId
  action : PeerAction
  deriving DecidableEq

namespace RateLimiter

/-- One call, with the result of a check, or a panic. -/
def perform (limiter : RateLimiter) (call : RateCall) :
    Option (RateLimiter × Option RateLimitResult) :=
  match call.action with
  | .checkAndRecord =>
    let (limiter, result) := limiter.checkAndRecord call.now call.peerId
    result.map fun result ↦ (limiter, some result)
  | .banPeer => (limiter.banPeer call.now call.peerId).map fun limiter ↦ (limiter, none)
  | .unbanPeer => some (limiter.unbanPeer call.peerId, none)
  | .removePeer => some (limiter.removePeer call.peerId, none)

/-- The results of the checks of one peer's messages along a run of calls, each with the reading of
the clock it was made at. A panic ends the run. -/
def verdicts (peerId : PeerId) : RateLimiter → List RateCall → List (ℕ × RateLimitResult)
  | _, [] => []
  | limiter, call :: rest =>
    match limiter.perform call with
    | none => []
    | some (limiter, none) => verdicts peerId limiter rest
    | some (limiter, some result) =>
      let later := verdicts peerId limiter rest
      if call.peerId = peerId then (call.now, result) :: later else later

end RateLimiter

end Clawbernetes.MoltP2p
