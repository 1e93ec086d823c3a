import Clawbernetes.Library.Runs
import Clawbernetes.MoltAgent.Autonomy

/-!
# Negotiations

`negotiation.rs`: bids are collected, a strategy scores them, and the best one of those that are
still valid is selected. A negotiation collects bids until it is finalized, which completes it with
a selected bid or fails it, or until it is cancelled. Times are nanoseconds since the epoch, the
clock reading of a call is an argument, and scores are values of any arithmetic.

`add_bid` and `finalize` check the phase, `cancel` checks nothing, and no method reads the deadline.
`negotiation_sound_iff` says what comes of this over whole runs: the winner belongs to the completed
phase and to the bids, the final phases are never left and no bid is late, exactly in the runs
without a cancellation of a completed or failed negotiation and without a bid that comes in late
while bids are collected.
-/

set_option autoImplicit false
set_option relaxedAutoImplicit false

namespace Clawbernetes.MoltAgent

open Library.Runs

/-- `Uuid`: an identifier of 128 bits. -/
abbrev Uuid := BitVec 128

/-- The nanoseconds of a second. -/
def nanosPerSecond : ℤ := 10 ^ 9

/-- `Bid`. -/
structure Bid where
  id : Uuid
  provider : Uuid
  price : UInt64
  availableAt : ℤ
  expiresAt : ℤ
  reputation : UInt8
  deriving DecidableEq

namespace Bid

/-- `Bid::is_expired`. -/
def isExpired (bid : Bid) (now : ℤ) : Bool :=
  bid.expiresAt ≤ now

/-- `Bid::wait_time_secs`: whole seconds, cut off at zero. -/
def waitTimeSecs (bid : Bid) (now : ℤ) : ℤ :=
  max ((bid.availableAt - now).tdiv nanosPerSecond) 0

end Bid

/-- `SelectedBid`. -/
structure SelectedBid (F : Type) where
  bid : Bid
  score : F
  reason : String

/-- `NegotiationStrategy`. -/
inductive NegotiationStrategy where
  | lowestPrice
  | highestReputation
  | fastestAvailability
  | balanced
  deriving DecidableEq

/-- `NegotiationJob`, with the fields that a negotiation reads. -/
structure NegotiationJob where
  maxPrice : UInt64
  minReputation : UInt8
  deriving DecidableEq

section Scores

variable {F : Type} [FloatArithmetic F]

open FloatArithmetic

/-- The price part of a score. -/
def priceScore (bid : Bid) (maxPrice : UInt64) : F :=
  if maxPrice = 0 then 0.0
  else 1.0 - FloatArithmetic.min (ofInt bid.price.toNat / ofInt maxPrice.toNat) 1.0

/-- The reputation part of a score. -/
def reputationScore (bid : Bid) : F :=
  ofInt bid.reputation.toNat / 100.0

/-- The availability part of a score: one hour of waiting halves it. -/
def availabilityScore (bid : Bid) (now : ℤ) : F :=
  1.0 / (1.0 + ofInt (bid.waitTimeSecs now) / 3600.0)

/-- `NegotiationStrategy::score_bid`. -/
def NegotiationStrategy.scoreBid (strategy : NegotiationStrategy) (bid : Bid) (maxPrice : UInt64)
    (now : ℤ) : F :=
  match strategy with
  | .lowestPrice => priceScore bid maxPrice
  | .highestReputation => reputationScore bid
  | .fastestAvailability => availabilityScore bid now
  | .balanced =>
    priceScore bid maxPrice * 0.4 + reputationScore bid * 0.35 + availabilityScore bid now * 0.25

/-- The reason that a strategy gives for its selection. -/
def NegotiationStrategy.reason : NegotiationStrategy → String
  | .lowestPrice => "lowest price bid"
  | .highestReputation => "highest reputation provider"
  | .fastestAvailability => "fastest availability"
  | .balanced => "best balanced score"

/-- The bids that can be selected at a reading. -/
def validBids (job : NegotiationJob) (bids : List Bid) (now : ℤ) : List Bid :=
  bids.filter fun bid ↦
    !bid.isExpired now && bid.price ≤ job.maxPrice && job.minReputation ≤ bid.reputation

/-- `negotiate_at`, and `negotiate` at the clock reading of the call. -/
def negotiateAt (job : NegotiationJob) (bids : List Bid) (strategy : NegotiationStrategy)
    (now : ℤ) : Option (SelectedBid F) :=
  let scored : List (Bid × F) :=
    (validBids job bids now).map fun bid ↦ (bid, strategy.scoreBid bid job.maxPrice now)
  (maxBy (fun best next ↦ FloatArithmetic.lt next.2 best.2) scored).map fun winner ↦
    ⟨winner.1, winner.2, strategy.reason⟩

/-- A selected bid is one of the bids, and valid at the reading. -/
theorem mem_validBids_of_negotiateAt {job : NegotiationJob} {bids : List Bid}
    {strategy : NegotiationStrategy} {now : ℤ} {selected : SelectedBid F}
    (hselected : negotiateAt job bids strategy now = some selected) :
    selected.bid ∈ validBids job bids now := by
  unfold negotiateAt at hselected
  obtain ⟨winner, hwinner, rfl⟩ := Option.map_eq_some_iff.mp hselected
  obtain ⟨bid, hbid, rfl⟩ := List.mem_map.mp (mem_of_maxBy hwinner)
  exact hbid

end Scores

/-- `NegotiationPhase`. -/
inductive NegotiationPhase where
  | collectingBids
  | evaluating
  | completed
  | failed
  | cancelled
  deriving DecidableEq

/-- The phases in which a negotiation is over. -/
def NegotiationPhase.isFinal : NegotiationPhase → Bool
  | .completed | .failed | .cancelled => true
  | .collectingBids | .evaluating => false

/-- `NegotiationError`. -/
inductive NegotiationError where
  | notCollectingBids
  | alreadyFinalized
  deriving DecidableEq

/-- `NegotiationState`, with the fields that a method reads or writes. -/
structure NegotiationState (F : Type) where
  job : NegotiationJob
  bids : List Bid
  phase : NegotiationPhase
  selected : Option (SelectedBid F)
  deadline : ℤ

namespace NegotiationState

variable {F : Type} [FloatArithmetic F]

/-- `NegotiationState::new`. -/
def new (job : NegotiationJob) (deadline : ℤ) : NegotiationState F where
  job := job
  bids := []
  phase := .collectingBids
  selected := none
  deadline := deadline

/-- `NegotiationState::add_bid`. -/
def addBid (state : NegotiationState F) (bid : Bid) :
    Except NegotiationError Unit × NegotiationState F :=
  if state.phase ≠ .collectingBids then (.error .notCollectingBids, state)
  else (.ok (), { state with bids := state.bids ++ [bid] })

/-- `NegotiationState::finalize`. -/
def finalize (now : ℤ) (state : NegotiationState F) (strategy : NegotiationStrategy) :
    Except NegotiationError (Option (SelectedBid F)) × NegotiationState F :=
  if state.phase ≠ .collectingBids then (.error .alreadyFinalized, state)
  else
    let selected := negotiateAt state.job state.bids strategy now
    (.ok selected, { state with
      selected := selected
      phase := if selected.isSome then .completed else .failed })

/-- `NegotiationState::cancel`. -/
def cancel (state : NegotiationState F) : NegotiationState F :=
  { state with phase := .cancelled }

/-- The calls on a negotiation. -/
inductive Call where
  | addBid (bid : Bid)
  | finalize (strategy : NegotiationStrategy)
  | cancel

end NegotiationState

open NegotiationState

/-- A negotiation beside its bids with the readings at which they were collected. -/
structure NegotiationAccount (F : Type) where
  state : NegotiationState F
  collected : List (ℤ × Bid)

namespace NegotiationAccount

variable {F : Type}

/-- The account of a new negotiation. -/
def new (job : NegotiationJob) (deadline : ℤ) : NegotiationAccount F :=
  ⟨.new job deadline, []⟩

/-- What a negotiation should always meet: it has a winner exactly when it is completed, the winner
is one of its bids, and no bid was collected after the deadline. -/
structure Sound (account : NegotiationAccount F) : Prop where
  winner : account.state.selected.isSome = true ↔ account.state.phase = .completed
  chosen : ∀ selected, account.state.selected = some selected → selected.bid ∈ account.state.bids
  timely : ∀ entry ∈ account.collected, entry.1 ≤ account.state.deadline

/-- A new negotiation is sound. -/
theorem sound_new (job : NegotiationJob) (deadline : ℤ) :
    Sound (new job deadline : NegotiationAccount F) where
  winner := by
    change false = true ↔ NegotiationPhase.collectingBids = .completed
    decide
  chosen := fun _ hselected ↦ by cases hselected
  timely := fun _ hentry ↦ absurd hentry List.not_mem_nil

variable [FloatArithmetic F]

/-- One call at a clock reading. -/
def call (account : NegotiationAccount F) : ℤ × Call → NegotiationAccount F
  | (now, .addBid bid) => ⟨(account.state.addBid bid).2,
      if (account.state.addBid bid).1.isOk then account.collected ++ [(now, bid)]
      else account.collected⟩
  | (now, .finalize strategy) => ⟨(account.state.finalize now strategy).2, account.collected⟩
  | (_, .cancel) => ⟨account.state.cancel, account.collected⟩

/-- The step does not leave a final phase. -/
def KeepsFinalPhase (account : NegotiationAccount F) (input : ℤ × Call) : Prop :=
  account.state.phase.isFinal = true → (account.call input).state.phase = account.state.phase

/-- No completed or failed negotiation is cancelled, and no bid comes in after the deadline while
bids are collected. -/
def Allowed (account : NegotiationAccount F) : ℤ × Call → Prop
  | (now, .addBid _) => account.state.phase = .collectingBids → now ≤ account.state.deadline
  | (_, .finalize _) => True
  | (_, .cancel) => account.state.phase ≠ .completed ∧ account.state.phase ≠ .failed

variable {account : NegotiationAccount F} {now : ℤ}

/-- A bid that comes in while bids are collected is collected. -/
theorem call_addBid_of_collecting (hphase : account.state.phase = .collectingBids) (bid : Bid) :
    account.call (now, .addBid bid) = ⟨{ account.state with bids := account.state.bids ++ [bid] },
      account.collected ++ [(now, bid)]⟩ := by
  have hadd : account.state.addBid bid =
      (.ok (), { account.state with bids := account.state.bids ++ [bid] }) := by
    unfold addBid
    rw [if_neg (not_not.mpr hphase)]
  rw [call, hadd]
  rfl

/-- A bid that comes in later is refused. -/
theorem call_addBid_of_not_collecting (hphase : account.state.phase ≠ .collectingBids) (bid : Bid) :
    account.call (now, .addBid bid) = account := by
  have hadd : account.state.addBid bid = (.error .notCollectingBids, account.state) := by
    unfold addBid
    rw [if_pos hphase]
  rw [call, hadd]
  rfl

/-- A negotiation that collects bids is finalized with the selection at the reading. -/
theorem call_finalize_of_collecting (hphase : account.state.phase = .collectingBids)
    (strategy : NegotiationStrategy) :
    account.call (now, .finalize strategy) = ⟨{ account.state with
      selected := negotiateAt account.state.job account.state.bids strategy now
      phase := if (negotiateAt account.state.job account.state.bids strategy now :
        Option (SelectedBid F)).isSome then .completed else .failed }, account.collected⟩ := by
  rw [call, finalize, if_neg (not_not.mpr hphase)]

/-- A negotiation is finalized once. -/
theorem call_finalize_of_not_collecting (hphase : account.state.phase ≠ .collectingBids)
    (strategy : NegotiationStrategy) : account.call (now, .finalize strategy) = account := by
  rw [call, finalize, if_pos hphase]

/-- An allowed step does not leave a final phase. -/
theorem keepsFinalPhase_of_allowed {input : ℤ × Call} (hallowed : Allowed account input) :
    KeepsFinalPhase account input := by
  intro hfinal
  have hphase : account.state.phase ≠ .collectingBids := by
    intro hcollecting
    rw [hcollecting] at hfinal
    cases hfinal
  obtain ⟨now, request⟩ := input
  cases request with
  | addBid bid => rw [call_addBid_of_not_collecting hphase]
  | finalize strategy => rw [call_finalize_of_not_collecting hphase]
  | cancel =>
    change NegotiationPhase.cancelled = account.state.phase
    cases hcurrent : account.state.phase with
    | collectingBids => exact absurd hcurrent hphase
    | evaluating => rw [hcurrent] at hfinal; cases hfinal
    | completed => exact absurd hcurrent hallowed.1
    | failed => exact absurd hcurrent hallowed.2
    | cancelled => rfl

/-- A cancelled negotiation that was not completed is sound. -/
theorem Sound.cancel (hsound : Sound account) (hphase : account.state.phase ≠ .completed) :
    Sound (account.call (now, .cancel)) := by
  have hnone : account.state.selected.isSome = false := by
    rw [← Bool.not_eq_true, hsound.winner]
    exact hphase
  refine ⟨?_, hsound.chosen, hsound.timely⟩
  change account.state.selected.isSome = true ↔ NegotiationPhase.cancelled = .completed
  rw [hnone]
  decide

/-- An allowed step keeps a negotiation sound. -/
theorem Sound.call (hsound : Sound account) {input : ℤ × Call} (hallowed : Allowed account input) :
    Sound (account.call input) := by
  obtain ⟨now, request⟩ := input
  cases request with
  | addBid bid =>
    by_cases hphase : account.state.phase = .collectingBids
    · rw [call_addBid_of_collecting hphase]
      refine ⟨hsound.winner, fun selected hselected ↦ ?_, fun entry hentry ↦ ?_⟩
      · exact List.mem_append_left _ (hsound.chosen selected hselected)
      · rcases List.mem_append.mp hentry with hearlier | hlast
        · exact hsound.timely entry hearlier
        · rw [List.mem_singleton.mp hlast]
          exact hallowed hphase
    · rw [call_addBid_of_not_collecting hphase]
      exact hsound
  | finalize strategy =>
    by_cases hphase : account.state.phase = .collectingBids
    · rw [call_finalize_of_collecting hphase]
      refine ⟨?_, fun selected hselected ↦ ?_, hsound.timely⟩
      · by_cases hsome : (negotiateAt account.state.job account.state.bids strategy now :
          Option (SelectedBid F)).isSome = true
        · simp [hsome]
        · simp [hsome]
      · exact List.mem_of_mem_filter (mem_validBids_of_negotiateAt hselected)
    · rw [call_finalize_of_not_collecting hphase]
      exact hsound
  | cancel => exact hsound.cancel hallowed.1

/-- A step that keeps the final phases and ends in a sound negotiation was allowed. -/
theorem allowed_of_sound_call {input : ℤ × Call} (hkeeps : KeepsFinalPhase account input)
    (hafter : Sound (account.call input)) : Allowed account input := by
  obtain ⟨now, request⟩ := input
  cases request with
  | addBid bid =>
    intro hphase
    rw [call_addBid_of_collecting hphase] at hafter
    exact hafter.timely (now, bid) (List.mem_append_right _ (List.mem_singleton_self _))
  | finalize strategy => trivial
  | cancel =>
    constructor
    · intro hcompleted
      have hkept := hkeeps (by rw [hcompleted]; rfl)
      rw [hcompleted] at hkept
      cases hkept
    · intro hfailed
      have hkept := hkeeps (by rw [hfailed]; rfl)
      rw [hfailed] at hkept
      cases hkept

/-- The runs in which a negotiation has a winner exactly when it is completed, the winner is one of
its bids, no bid is collected after the deadline and no final phase is left, are exactly the runs
that cancel no completed or failed negotiation and add no bid after the deadline while bids are
collected. -/
theorem negotiation_sound_iff (job : NegotiationJob) (deadline : ℤ)
    (calls : List (ℤ × Call)) :
    (Always call Sound (new job deadline : NegotiationAccount F) calls ∧
        Throughout call KeepsFinalPhase (new job deadline : NegotiationAccount F) calls) ↔
      Throughout call Allowed (new job deadline : NegotiationAccount F) calls := by
  constructor
  · rintro ⟨hsound, hkeeps⟩ done input hdone
    have hafter := hsound (done ++ [input]) hdone
    rw [List.foldl_concat] at hafter
    exact allowed_of_sound_call (hkeeps done input hdone) hafter
  · intro hallowed
    constructor
    · exact always_of_throughout (sound_new job deadline)
        (fun account input hsound hstep ↦ hsound.call hstep) hallowed
    · exact fun done input hdone ↦ keepsFinalPhase_of_allowed (hallowed done input hdone)

/-- A completed negotiation is cancelled and keeps its winner, and a bid is collected after the
deadline. -/
theorem cancelled_winner_and_late_bid :
    (List.foldl call (new ⟨10, 0⟩ 10 : NegotiationAccount Float)
        [(1, .addBid ⟨7, 8, 5, 0, 100, 50⟩), (2, .finalize .lowestPrice),
          (3, .cancel)]).state.phase = .cancelled ∧
      (List.foldl call (new ⟨10, 0⟩ 10 : NegotiationAccount Float)
        [(1, .addBid ⟨7, 8, 5, 0, 100, 50⟩), (2, .finalize .lowestPrice),
          (3, .cancel)]).state.selected.isSome = true ∧
      ¬ Throughout call KeepsFinalPhase (new ⟨10, 0⟩ 10 : NegotiationAccount Float)
        [(1, .addBid ⟨7, 8, 5, 0, 100, 50⟩), (2, .finalize .lowestPrice), (3, .cancel)] ∧
      ¬ Always call Sound (new ⟨10, 0⟩ 10 : NegotiationAccount Float)
        [(11, .addBid ⟨7, 8, 5, 0, 100, 50⟩)] := by
  refine ⟨rfl, by decide, fun hkeeps ↦ ?_, fun hsound ↦ ?_⟩
  · have hlast := hkeeps [(1, .addBid ⟨7, 8, 5, 0, 100, 50⟩), (2, .finalize .lowestPrice)]
      (3, .cancel) (by simp) (by decide)
    exact absurd hlast (by decide)
  · exact absurd (hsound.last.timely (11, ⟨7, 8, 5, 0, 100, 50⟩) (by decide)) (by decide)

end NegotiationAccount

end Clawbernetes.MoltAgent
