import Clawbernetes.MoltAgent.Autonomy
import Mathlib.Data.List.Basic
import Mathlib.Data.List.Induction

/-!
# Autonomy policies and their evaluation

The policies of `autonomy/mod.rs`: a mode, bounds and flags, made by a constructor and changed by
builders, and the evaluator that approves an action, or asks for approval. An action is approved
exactly when the policy does not ask for approval of everything and the action is within the bounds
that the evaluator compares it with (`evaluate_eq_approved_iff`). The evaluator reads neither the
mode nor the bounds on the spending of an hour and on the number of jobs.

The flag that asks for approval of everything is set by the constructor, and `with_mode` changes the
mode only. So a policy that was made conservative stays so whatever its mode becomes, and one that
was not approves actions although its mode is made conservative. A moderate policy approves actions
beyond its bounds when one action may spend more than an hour, or when it allows no job
(`kept_iff`).
-/

set_option autoImplicit false
set_option relaxedAutoImplicit false

namespace Clawbernetes.MoltAgent

/-! ### Thresholds, bounds and policies -/

/-- `DecisionThresholds::for_mode`. -/
def DecisionThresholds.forMode : AutonomyMode → DecisionThresholds
  | .conservative => ⟨100, 80, 600⟩
  | .moderate => ⟨10000, 50, 3600⟩
  | .aggressive => ⟨1000000, 20, 86400⟩

/-- `PolicyBounds`. -/
structure PolicyBounds where
  maxSpendPerAction : UInt64
  maxSpendPerHour : UInt64
  maxConcurrentJobs : UInt32
  maxJobDurationSecs : UInt64
  minCounterpartyReputation : UInt8
  allowNewCounterparties : Bool
  allowPriceNegotiation : Bool
  deriving DecidableEq

namespace PolicyBounds

/-- `PolicyBounds::for_mode`. -/
def forMode : AutonomyMode → PolicyBounds
  | .conservative => ⟨100, 500, 1, 600, 80, false, false⟩
  | .moderate => ⟨10000, 50000, 5, 3600, 50, true, true⟩
  | .aggressive => ⟨1000000, 10000000, 100, 86400, 20, true, true⟩

/-- `PolicyBounds::is_amount_within_bounds`. -/
def isAmountWithinBounds (bounds : PolicyBounds) (amount : UInt64) : Bool :=
  amount ≤ bounds.maxSpendPerAction

/-- `PolicyBounds::is_duration_within_bounds`. -/
def isDurationWithinBounds (bounds : PolicyBounds) (durationSecs : UInt64) : Bool :=
  durationSecs ≤ bounds.maxJobDurationSecs

/-- `PolicyBounds::is_reputation_acceptable`. -/
def isReputationAcceptable (bounds : PolicyBounds) (reputation : UInt8) : Bool :=
  bounds.minCounterpartyReputation ≤ reputation

end PolicyBounds

/-- `AutonomyPolicy`. -/
structure AutonomyPolicy where
  mode : AutonomyMode
  bounds : PolicyBounds
  requireApprovalForAll : Bool
  autoAcceptProfitableJobs : Bool
  autoOptimizePricing : Bool
  thresholds : DecisionThresholds
  deriving DecidableEq

namespace AutonomyPolicy

/-- `AutonomyPolicy::conservative`, which is also the default. -/
def conservative : AutonomyPolicy where
  mode := .conservative
  bounds := .forMode .conservative
  requireApprovalForAll := true
  autoAcceptProfitableJobs := false
  autoOptimizePricing := false
  thresholds := .forMode .conservative

/-- `AutonomyPolicy::moderate`. -/
def moderate : AutonomyPolicy where
  mode := .moderate
  bounds := .forMode .moderate
  requireApprovalForAll := false
  autoAcceptProfitableJobs := false
  autoOptimizePricing := false
  thresholds := .forMode .moderate

/-- `AutonomyPolicy::aggressive`. -/
def aggressive : AutonomyPolicy where
  mode := .aggressive
  bounds := .forMode .aggressive
  requireApprovalForAll := false
  autoAcceptProfitableJobs := true
  autoOptimizePricing := true
  thresholds := .forMode .aggressive

/-- `AutonomyPolicy::for_mode`. -/
def forMode : AutonomyMode → AutonomyPolicy
  | .conservative => conservative
  | .moderate => moderate
  | .aggressive => aggressive

/-- `AutonomyPolicy::with_bounds`. -/
def withBounds (policy : AutonomyPolicy) (bounds : PolicyBounds) : AutonomyPolicy :=
  { policy with bounds := bounds }

/-- `AutonomyPolicy::with_mode`. -/
def withMode (policy : AutonomyPolicy) (mode : AutonomyMode) : AutonomyPolicy :=
  { policy with mode := mode }

/-- `AutonomyPolicy::with_auto_accept`. -/
def withAutoAccept (policy : AutonomyPolicy) (autoAccept : Bool) : AutonomyPolicy :=
  { policy with autoAcceptProfitableJobs := autoAccept }

/-- `AutonomyPolicy::with_auto_pricing`. -/
def withAutoPricing (policy : AutonomyPolicy) (autoPricing : Bool) : AutonomyPolicy :=
  { policy with autoOptimizePricing := autoPricing }

end AutonomyPolicy

/-- The constructors of a policy. -/
inductive PolicyConstructor where
  | conservative
  | moderate
  | aggressive
  | forMode (mode : AutonomyMode)
  | default

/-- The policy of a constructor. -/
def PolicyConstructor.policy : PolicyConstructor → AutonomyPolicy
  | conservative => .conservative
  | moderate => .moderate
  | aggressive => .aggressive
  | forMode mode => .forMode mode
  | default => .conservative

/-- A call of a builder. -/
inductive PolicyBuilder where
  | withBounds (bounds : PolicyBounds)
  | withMode (mode : AutonomyMode)
  | withAutoAccept (autoAccept : Bool)
  | withAutoPricing (autoPricing : Bool)

/-- The policy after a call of a builder. -/
def AutonomyPolicy.build (policy : AutonomyPolicy) : PolicyBuilder → AutonomyPolicy
  | .withBounds bounds => policy.withBounds bounds
  | .withMode mode => policy.withMode mode
  | .withAutoAccept autoAccept => policy.withAutoAccept autoAccept
  | .withAutoPricing autoPricing => policy.withAutoPricing autoPricing

/-! ### The evaluator -/

/-- `ProposedAction`. -/
inductive ProposedAction where
  | acceptJob (price durationSecs : UInt64) (counterpartyReputation : UInt8)
  | submitBid (amount : UInt64)
  | counterOffer (originalPrice proposedPrice : UInt64)
  | acceptNewCounterparty (reputation : UInt8)
  deriving DecidableEq

/-- `EvaluationResult`. -/
inductive EvaluationResult where
  | approved
  | needsApproval (reason : String)
  | rejected (reason : String)
  deriving DecidableEq

/-- `PolicyEvaluator`. -/
structure PolicyEvaluator where
  policy : AutonomyPolicy

namespace PolicyEvaluator

/-- `PolicyEvaluator::evaluate_accept_job`. -/
def evaluateAcceptJob (evaluator : PolicyEvaluator) (price durationSecs : UInt64)
    (counterpartyReputation : UInt8) : EvaluationResult :=
  let bounds := evaluator.policy.bounds
  if !bounds.isAmountWithinBounds price then
    .needsApproval ("price " ++ toString price.toNat ++ " exceeds maximum " ++
      toString bounds.maxSpendPerAction.toNat)
  else if !bounds.isDurationWithinBounds durationSecs then
    .needsApproval ("duration " ++ toString durationSecs.toNat ++ " exceeds maximum " ++
      toString bounds.maxJobDurationSecs.toNat)
  else if !bounds.isReputationAcceptable counterpartyReputation then
    .needsApproval ("counterparty reputation " ++ toString counterpartyReputation.toNat ++
      " below minimum " ++ toString bounds.minCounterpartyReputation.toNat)
  else .approved

/-- `PolicyEvaluator::evaluate_spend`. -/
def evaluateSpend (evaluator : PolicyEvaluator) (amount : UInt64) : EvaluationResult :=
  let bounds := evaluator.policy.bounds
  if !bounds.isAmountWithinBounds amount then
    .needsApproval ("amount " ++ toString amount.toNat ++ " exceeds maximum " ++
      toString bounds.maxSpendPerAction.toNat)
  else .approved

/-- `PolicyEvaluator::evaluate`. -/
def evaluate (evaluator : PolicyEvaluator) (action : ProposedAction) : EvaluationResult :=
  let bounds := evaluator.policy.bounds
  if evaluator.policy.requireApprovalForAll then
    .needsApproval "conservative mode requires approval for all actions"
  else
    match action with
    | .acceptJob price durationSecs counterpartyReputation =>
      evaluator.evaluateAcceptJob price durationSecs counterpartyReputation
    | .submitBid amount => evaluator.evaluateSpend amount
    | .counterOffer _ proposedPrice =>
      if !bounds.allowPriceNegotiation then
        .needsApproval "price negotiation not allowed by policy"
      else evaluator.evaluateSpend proposedPrice
    | .acceptNewCounterparty reputation =>
      if !bounds.allowNewCounterparties then
        .needsApproval "new counterparties not allowed by policy"
      else if !bounds.isReputationAcceptable reputation then
        .needsApproval ("counterparty reputation " ++ toString reputation.toNat ++
          " below minimum " ++ toString bounds.minCounterpartyReputation.toNat)
      else .approved

end PolicyEvaluator

/-! ### What is approved -/

namespace ProposedAction

/-- The amount that an action spends by itself. -/
def amount : ProposedAction → UInt64
  | acceptJob price _ _ => price
  | submitBid amount => amount
  | counterOffer _ proposedPrice => proposedPrice
  | acceptNewCounterparty _ => 0

/-- The number of jobs that an action starts. -/
def startedJobs : ProposedAction → UInt32
  | acceptJob _ _ _ => 1
  | submitBid _ | counterOffer _ _ | acceptNewCounterparty _ => 0

/-- The duration of the job that an action starts. -/
def durationSecs : ProposedAction → UInt64
  | acceptJob _ durationSecs _ => durationSecs
  | submitBid _ | counterOffer _ _ | acceptNewCounterparty _ => 0

/-- The reputation of the counterparty of an action that has one. -/
def reputation : ProposedAction → Option UInt8
  | acceptJob _ _ counterpartyReputation => some counterpartyReputation
  | acceptNewCounterparty reputation => some reputation
  | submitBid _ | counterOffer _ _ => none

/-- The action is a counter-offer. -/
def negotiates : ProposedAction → Bool
  | counterOffer _ _ => true
  | acceptJob _ _ _ | submitBid _ | acceptNewCounterparty _ => false

/-- The action is about a counterparty that is new. -/
def meetsNewCounterparty : ProposedAction → Bool
  | acceptNewCounterparty _ => true
  | acceptJob _ _ _ | submitBid _ | counterOffer _ _ => false

end ProposedAction

/-- The action is within the bounds that the evaluator compares it with. -/
structure PolicyBounds.Checked (bounds : PolicyBounds) (action : ProposedAction) : Prop where
  perAction : action.amount ≤ bounds.maxSpendPerAction
  duration : action.durationSecs ≤ bounds.maxJobDurationSecs
  reputation : ∀ reputation ∈ action.reputation, bounds.minCounterpartyReputation ≤ reputation
  newCounterparty : action.meetsNewCounterparty = true → bounds.allowNewCounterparties = true
  negotiation : action.negotiates = true → bounds.allowPriceNegotiation = true

/-- The action is within all bounds, even if nothing else is spent in its hour and no other job
runs. -/
structure PolicyBounds.Permits (bounds : PolicyBounds) (action : ProposedAction) : Prop
    extends bounds.Checked action where
  perHour : action.amount ≤ bounds.maxSpendPerHour
  concurrent : action.startedJobs ≤ bounds.maxConcurrentJobs

/-- Every action that is compared with some bounds only is within all of them: one action may spend
no more than an hour, and a job is allowed. -/
structure PolicyBounds.Consistent (bounds : PolicyBounds) : Prop where
  hourly : bounds.maxSpendPerAction ≤ bounds.maxSpendPerHour
  jobs : 1 ≤ bounds.maxConcurrentJobs

/-- The checks of the evaluator keep an action within all bounds if and only if the bounds are
consistent. -/
theorem PolicyBounds.checked_permits_iff {bounds : PolicyBounds} :
    (∀ action, bounds.Checked action → bounds.Permits action) ↔ bounds.Consistent := by
  constructor
  · intro hall
    -- the dearest bid and a free job of a counterparty of the highest reputation are approved
    have hbid := hall (.submitBid bounds.maxSpendPerAction)
      ⟨UInt64.le_refl _, UInt64.zero_le, nofun, nofun, nofun⟩
    have hjob := hall (.acceptJob 0 0 255) ⟨UInt64.zero_le, UInt64.zero_le, ?_, nofun, nofun⟩
    · exact ⟨hbid.perHour, hjob.concurrent⟩
    · intro reputation hreputation
      obtain rfl := Option.some.inj hreputation
      exact UInt8.le_iff_toNat_le.mpr (Nat.le_of_lt_succ bounds.minCounterpartyReputation.toNat_lt)
  · intro hconsistent action hchecked
    refine ⟨hchecked, UInt64.le_trans hchecked.perAction hconsistent.hourly, ?_⟩
    cases action with
    | acceptJob price durationSecs counterpartyReputation => exact hconsistent.jobs
    | _ => exact UInt32.zero_le

namespace PolicyEvaluator

variable {evaluator : PolicyEvaluator}

/-- An amount is approved within its bound. -/
theorem evaluateSpend_eq_approved_iff {amount : UInt64} :
    evaluator.evaluateSpend amount = .approved ↔
      amount ≤ evaluator.policy.bounds.maxSpendPerAction := by
  unfold evaluateSpend PolicyBounds.isAmountWithinBounds
  dsimp only
  split_ifs with hamount
  · exact iff_of_false nofun (by simpa using hamount)
  · exact iff_of_true rfl (by simpa using hamount)

/-- A job is approved within the bounds of its price, duration and counterparty. -/
theorem evaluateAcceptJob_eq_approved_iff {price durationSecs : UInt64}
    {counterpartyReputation : UInt8} :
    evaluator.evaluateAcceptJob price durationSecs counterpartyReputation = .approved ↔
      price ≤ evaluator.policy.bounds.maxSpendPerAction ∧
        durationSecs ≤ evaluator.policy.bounds.maxJobDurationSecs ∧
        evaluator.policy.bounds.minCounterpartyReputation ≤ counterpartyReputation := by
  unfold evaluateAcceptJob PolicyBounds.isAmountWithinBounds PolicyBounds.isDurationWithinBounds
    PolicyBounds.isReputationAcceptable
  dsimp only
  split_ifs with hprice hduration hreputation
  · exact iff_of_false nofun fun hall ↦ by simp [hall.1] at hprice
  · exact iff_of_false nofun fun hall ↦ by simp [hall.2.1] at hduration
  · exact iff_of_false nofun fun hall ↦ by simp [hall.2.2] at hreputation
  · refine iff_of_true rfl ⟨?_, ?_, ?_⟩
    · simpa using hprice
    · simpa using hduration
    · simpa using hreputation

/-- An action is approved exactly when not everything needs approval and the action is within the
bounds that it is compared with. -/
theorem evaluate_eq_approved_iff {action : ProposedAction} :
    evaluator.evaluate action = .approved ↔
      evaluator.policy.requireApprovalForAll = false ∧
        evaluator.policy.bounds.Checked action := by
  unfold evaluate
  dsimp only
  cases hrequired : evaluator.policy.requireApprovalForAll with
  | true => exact iff_of_false nofun nofun
  | false =>
    rw [if_neg Bool.false_ne_true, and_iff_right rfl]
    cases action with
    | acceptJob price durationSecs counterpartyReputation =>
      refine evaluateAcceptJob_eq_approved_iff.trans ⟨?_, ?_⟩
      · rintro ⟨hprice, hduration, hreputation⟩
        exact ⟨hprice, hduration, fun _ hsame ↦ Option.some.inj hsame ▸ hreputation, nofun, nofun⟩
      · exact fun hchecked ↦
          ⟨hchecked.perAction, hchecked.duration, hchecked.reputation _ rfl⟩
    | submitBid amount =>
      refine evaluateSpend_eq_approved_iff.trans ⟨fun hamount ↦ ?_, fun hchecked ↦ ?_⟩
      · exact ⟨hamount, UInt64.zero_le, nofun, nofun, nofun⟩
      · exact hchecked.perAction
    | counterOffer originalPrice proposedPrice =>
      dsimp only
      split_ifs with hallowed
      · exact iff_of_false nofun fun hchecked ↦ by simp [hchecked.negotiation rfl] at hallowed
      · refine evaluateSpend_eq_approved_iff.trans ⟨fun hamount ↦ ?_, fun hchecked ↦ ?_⟩
        · exact ⟨hamount, UInt64.zero_le, nofun, nofun, fun _ ↦ by simpa using hallowed⟩
        · exact hchecked.perAction
    | acceptNewCounterparty reputation =>
      dsimp only
      split_ifs with hallowed hreputation
      · exact iff_of_false nofun fun hchecked ↦ by simp [hchecked.newCounterparty rfl] at hallowed
      · refine iff_of_false nofun fun hchecked ↦ ?_
        simp [PolicyBounds.isReputationAcceptable, hchecked.reputation _ rfl] at hreputation
      · refine iff_of_true rfl ⟨UInt64.zero_le, UInt64.zero_le, ?_, ?_, nofun⟩
        · intro _ hsame
          obtain rfl := Option.some.inj hsame
          simpa [PolicyBounds.isReputationAcceptable] using hreputation
        · exact fun _ ↦ by simpa using hallowed

end PolicyEvaluator

/-! ### What the modes promise -/

/-- What the documentation of the modes promises of a policy: in the conservative mode nothing is
approved, and in the moderate mode nothing beyond the bounds. -/
structure AutonomyPolicy.Kept (policy : AutonomyPolicy) : Prop where
  conservative : policy.mode = .conservative →
    ∀ action, PolicyEvaluator.evaluate ⟨policy⟩ action ≠ .approved
  moderate : policy.mode = .moderate →
    ∀ action, PolicyEvaluator.evaluate ⟨policy⟩ action = .approved → policy.bounds.Permits action

/-- The mode that a builder sets. -/
def PolicyBuilder.modeSet : PolicyBuilder → Option AutonomyMode
  | withMode mode => some mode
  | withBounds _ | withAutoAccept _ | withAutoPricing _ => none

/-- The mode that builders set last. -/
def lastModeSet (builders : List PolicyBuilder) : Option AutonomyMode :=
  (builders.filterMap PolicyBuilder.modeSet).getLast?

/-- The bounds that a builder sets. -/
def PolicyBuilder.boundsSet : PolicyBuilder → Option PolicyBounds
  | withBounds bounds => some bounds
  | withMode _ | withAutoAccept _ | withAutoPricing _ => none

/-- The bounds that builders set last. -/
def lastBoundsSet (builders : List PolicyBuilder) : Option PolicyBounds :=
  (builders.filterMap PolicyBuilder.boundsSet).getLast?

variable {start : AutonomyPolicy}

/-- No builder changes whether everything needs approval. -/
theorem requireApprovalForAll_foldl (builders : List PolicyBuilder) :
    (builders.foldl AutonomyPolicy.build start).requireApprovalForAll =
      start.requireApprovalForAll := by
  induction builders using List.reverseRecOn with
  | nil => rfl
  | append_singleton builders builder ih =>
    rw [List.foldl_concat, ← ih]
    cases builder <;> rfl

/-- What builders set last, when each of them sets the value or leaves it as it is. -/
theorem value_foldl {Value : Type} (value : AutonomyPolicy → Value)
    (setBy : PolicyBuilder → Option Value)
    (hbuild : ∀ policy builder, value (policy.build builder) =
      (setBy builder).getD (value policy)) (builders : List PolicyBuilder) :
    value (builders.foldl AutonomyPolicy.build start) =
      (builders.filterMap setBy).getLast?.getD (value start) := by
  induction builders using List.reverseRecOn with
  | nil => rfl
  | append_singleton builders builder ih =>
    rw [List.foldl_concat, List.filterMap_append, hbuild]
    cases hset : setBy builder with
    | none => rw [List.filterMap_cons_none hset, List.filterMap_nil, List.append_nil, ← ih]; rfl
    | some set =>
      rw [List.filterMap_cons_some hset, List.filterMap_nil, List.getLast?_concat]
      rfl

/-- The mode is the one set last, or that of the start. -/
theorem mode_foldl (builders : List PolicyBuilder) :
    (builders.foldl AutonomyPolicy.build start).mode = (lastModeSet builders).getD start.mode := by
  refine value_foldl AutonomyPolicy.mode PolicyBuilder.modeSet ?_ builders
  intro policy builder
  cases builder <;> rfl

/-- The bounds are the ones set last, or those of the start. -/
theorem bounds_foldl (builders : List PolicyBuilder) :
    (builders.foldl AutonomyPolicy.build start).bounds =
      (lastBoundsSet builders).getD start.bounds := by
  refine value_foldl AutonomyPolicy.bounds PolicyBuilder.boundsSet ?_ builders
  intro policy builder
  cases builder <;> rfl

/-- A policy keeps what its mode promises unless it is conservative by its mode only, or moderate
with bounds that are not consistent. -/
theorem AutonomyPolicy.kept_iff_flag {policy : AutonomyPolicy} :
    policy.Kept ↔ policy.requireApprovalForAll = true ∨
      policy.mode ≠ .conservative ∧ (policy.mode = .moderate → policy.bounds.Consistent) := by
  cases hflag : policy.requireApprovalForAll with
  | true =>
    have hnever : ∀ action, PolicyEvaluator.evaluate ⟨policy⟩ action ≠ .approved := by
      intro action happroved
      rw [PolicyEvaluator.evaluate_eq_approved_iff, hflag] at happroved
      exact absurd happroved.1 Bool.noConfusion
    exact iff_of_true ⟨fun _ ↦ hnever, fun _ action happroved ↦ absurd happroved (hnever action)⟩
      (.inl rfl)
  | false =>
    have happroves : ∀ action, PolicyEvaluator.evaluate ⟨policy⟩ action = .approved ↔
        policy.bounds.Checked action := fun action ↦ by
      rw [PolicyEvaluator.evaluate_eq_approved_iff, and_iff_right hflag]
    rw [← PolicyBounds.checked_permits_iff, or_iff_right Bool.false_ne_true]
    constructor
    · refine fun hkept ↦ ⟨fun hmode ↦ ?_, fun hmode action hchecked ↦ ?_⟩
      · -- nothing is too cheap to be approved
        refine hkept.conservative hmode (.submitBid 0) ((happroves _).mpr ?_)
        exact ⟨UInt64.zero_le, UInt64.zero_le, nofun, nofun, nofun⟩
      · exact hkept.moderate hmode action ((happroves action).mpr hchecked)
    · rintro ⟨hmode, hpermits⟩
      exact ⟨fun hconservative ↦ absurd hconservative hmode,
        fun hmoderate action happroved ↦
          hpermits hmoderate action ((happroves action).mp happroved)⟩

/-- The conservative constructors are the ones whose policies need approval for everything. -/
theorem PolicyConstructor.requireApprovalForAll_iff (constructor : PolicyConstructor) :
    constructor.policy.requireApprovalForAll = true ↔ constructor.policy.mode = .conservative := by
  rcases constructor with _ | _ | _ | (_ | _ | _) | _ <;> decide

/-- A policy made by any constructor and any calls of the builders keeps what its mode promises if
and only if the constructor is a conservative one, or the mode set last is not the conservative one
and a moderate policy has consistent bounds. -/
theorem kept_iff (constructor : PolicyConstructor) (builders : List PolicyBuilder) :
    (builders.foldl AutonomyPolicy.build constructor.policy).Kept ↔
      constructor.policy.mode = .conservative ∨
        lastModeSet builders ≠ some .conservative ∧
          ((lastModeSet builders).getD constructor.policy.mode = .moderate →
            ((lastBoundsSet builders).getD constructor.policy.bounds).Consistent) := by
  rw [AutonomyPolicy.kept_iff_flag, requireApprovalForAll_foldl, mode_foldl, bounds_foldl,
    constructor.requireApprovalForAll_iff]
  refine or_congr_right' fun hmode ↦ and_congr_left' ?_
  cases lastModeSet builders with
  | none => exact iff_of_true hmode nofun
  | some mode => rw [Option.getD_some, ne_eq, ne_eq, Option.some_inj]

/-- A moderate policy whose mode is made conservative. -/
def renamedPolicy : AutonomyPolicy :=
  [PolicyBuilder.withMode .conservative].foldl AutonomyPolicy.build
    PolicyConstructor.moderate.policy

/-- A moderate policy for which an hour has less than a single action. -/
def thriftyPolicy : AutonomyPolicy :=
  [PolicyBuilder.withBounds { PolicyBounds.forMode .moderate with maxSpendPerHour := 100 }].foldl
    AutonomyPolicy.build PolicyConstructor.moderate.policy

/-- Both approve a bid of 5000. -/
theorem conservative_mode_approves_bid :
    (renamedPolicy.mode = .conservative ∧
      PolicyEvaluator.evaluate ⟨renamedPolicy⟩ (.submitBid 5000) = .approved ∧
      ¬ renamedPolicy.Kept) ∧
    (thriftyPolicy.mode = .moderate ∧ thriftyPolicy.bounds.maxSpendPerHour = 100 ∧
      PolicyEvaluator.evaluate ⟨thriftyPolicy⟩ (.submitBid 5000) = .approved ∧
      ¬ thriftyPolicy.Kept) := by
  have hrenamed : PolicyEvaluator.evaluate ⟨renamedPolicy⟩ (.submitBid 5000) = .approved := by
    decide
  have hthrifty : PolicyEvaluator.evaluate ⟨thriftyPolicy⟩ (.submitBid 5000) = .approved := by
    decide
  exact ⟨⟨rfl, hrenamed, fun hkept ↦ hkept.conservative rfl _ hrenamed⟩,
    rfl, rfl, hthrifty, fun hkept ↦ absurd (hkept.moderate rfl _ hthrifty).perHour (by decide)⟩

end Clawbernetes.MoltAgent
