import Clawbernetes.MoltAgent.ExactArithmetic
import Clawbernetes.MoltAgent.Provider
import Mathlib.Order.Bounds.Basic

/-!
# Whether a counter-offer settles the price

`ProviderDecisionMaker.evaluate` answers a price per unit below the minimum with a counter-offer, in
the modes that allow it. The test divides the price by the resources, with a price per unit of zero
for a job without resources; the counter-offer multiplies the minimum by the resources and rounds
up. In exact arithmetic the two meet: the proposed price is the least one that passes the test, as
long as there are resources and the product fits into 64 bits (`counterOffers_settle_iff`). A job
without resources is asked for the price of zero again and again.
-/

set_option autoImplicit false
set_option relaxedAutoImplicit false

namespace Clawbernetes.MoltAgent

/-- The job at another price. -/
def JobSpec.atPrice (job : JobSpec) (price : UInt64) : JobSpec := { job with price := price }

namespace ProviderDecisionMaker

/-- The provider's state, if it is known, admits the job. -/
def Admits (maker : ProviderDecisionMaker) (job : JobSpec) : Prop :=
  ∀ state, maker.state = some state → state.Admits job.resources

/-- The job is answered with a counter-offer: it is admitted, the mode allows counter-offers and the
price per unit is below the minimum. -/
def Counters (maker : ProviderDecisionMaker) (job : JobSpec) (mode : AutonomyMode)
    (policy : ProviderPolicy ℚ) : Prop :=
  maker.Admits job ∧ mode.allowsCounterOffers = true ∧ job.pricePerUnit < policy.minPricePerUnit

/-- The price that a counter-offer proposes. -/
def proposedPrice (job : JobSpec) (policy : ProviderPolicy ℚ) : UInt64 :=
  FloatArithmetic.ceilWord
    (FloatArithmetic.ofInt job.resources.toNat * policy.minPricePerUnit)

/-- The price settles the job: it is higher than the price of the job, and it is the least price at
which the job is not answered with a counter-offer. -/
structure Settles (maker : ProviderDecisionMaker) (job : JobSpec) (mode : AutonomyMode)
    (policy : ProviderPolicy ℚ) (price : UInt64) : Prop where
  raises : job.price < price
  least : IsLeast {other | ∀ proposed reason,
    maker.evaluate (job.atPrice other) mode policy ≠ .counterOffer proposed reason} price

variable {maker : ProviderDecisionMaker} {job : JobSpec} {mode : AutonomyMode}
  {policy : ProviderPolicy ℚ}

/-! ### The test and the proposal -/

/-- The price per unit is a quotient. -/
theorem pricePerUnit_eq (hresources : job.resources ≠ 0) :
    job.pricePerUnit = (job.price.toNat : ℚ) / (job.resources.toNat : ℚ) := by
  unfold JobSpec.pricePerUnit
  rw [if_neg hresources]
  rfl

/-- Without resources the price per unit is zero. -/
theorem pricePerUnit_of_zero (hresources : job.resources = 0) : job.pricePerUnit = (0 : ℚ) := by
  unfold JobSpec.pricePerUnit
  rw [if_pos hresources]
  change (0.0 : ℚ) = 0
  norm_num

/-- With resources the price per unit is below the minimum when the price is below the product. -/
theorem pricePerUnit_lt_iff (hresources : job.resources ≠ 0) :
    job.pricePerUnit < policy.minPricePerUnit ↔
      (job.price.toNat : ℚ) < job.resources.toNat * policy.minPricePerUnit := by
  have hpositive : (0 : ℚ) < job.resources.toNat := by
    rw [Nat.cast_pos, Nat.pos_iff_ne_zero]
    exact fun hzero ↦ hresources (UInt64.toNat_inj.mp hzero)
  rw [pricePerUnit_eq hresources, div_lt_iff₀ hpositive, mul_comm]

/-- The terms of a job are countered when the mode allows it and the price per unit is below the
minimum. -/
theorem evaluateTerms_eq_counterOffer_iff {price : UInt64} {reason : String} :
    job.evaluateTerms mode policy = .counterOffer price reason ↔
      mode.allowsCounterOffers = true ∧ job.pricePerUnit < policy.minPricePerUnit ∧
        price = proposedPrice job policy ∧ reason = "price below minimum" := by
  unfold JobSpec.evaluateTerms proposedPrice
  by_cases hbelow : job.pricePerUnit < policy.minPricePerUnit
  · rw [if_pos (exact_lt_iff.mpr hbelow), and_iff_right hbelow]
    split_ifs with hmode
    · rw [JobDecision.counterOffer.injEq, and_iff_right hmode, eq_comm, eq_comm]
      exact and_congr_right fun _ ↦ eq_comm
    · exact iff_of_false nofun fun hall ↦ hmode hall.1
  · rw [if_neg (fun hlt ↦ hbelow (exact_lt_iff.mp hlt))]
    split_ifs
    all_goals exact iff_of_false nofun fun hall ↦ hbelow hall.2.1

/-- A job is answered with a counter-offer of the proposed price, or not at all. -/
theorem evaluate_eq_counterOffer_iff {price : UInt64} {reason : String} :
    maker.evaluate job mode policy = .counterOffer price reason ↔
      maker.Counters job mode policy ∧ price = proposedPrice job policy ∧
        reason = "price below minimum" := by
  unfold evaluate Counters Admits
  cases hstate : maker.state with
  | none =>
    have hadmits : ∀ state : ProviderState, none = some state → state.Admits job.resources := nofun
    dsimp only
    rw [evaluateTerms_eq_counterOffer_iff, and_iff_right hadmits, and_assoc]
  | some state =>
    have hadmits : (∀ other, some state = some other → other.Admits job.resources) ↔
        state.Admits job.resources := by
      simp
    dsimp only
    rw [hadmits, and_assoc, and_assoc, ProviderState.Admits]
    split_ifs with hcapacity hjobs
    · exact iff_of_false nofun fun hall ↦ UInt64.not_lt.mpr hall.1.1 hcapacity
    · exact iff_of_false nofun fun hall ↦ UInt32.not_le.mpr hall.1.2 hjobs
    · have hstate : job.resources ≤ state.availableCapacity ∧
          state.activeJobs < state.maxJobs :=
        ⟨UInt64.not_lt.mp hcapacity, UInt32.not_le.mp hjobs⟩
      rw [evaluateTerms_eq_counterOffer_iff, and_iff_right hstate]

/-- A price that is not answered with a counter-offer is one that does not pass the conditions for
it. -/
theorem forall_ne_counterOffer_iff : (∀ proposed reason,
    maker.evaluate job mode policy ≠ .counterOffer proposed reason) ↔
      ¬ maker.Counters job mode policy := by
  constructor
  · exact fun hnone hcounters ↦
      hnone _ _ (evaluate_eq_counterOffer_iff.mpr ⟨hcounters, rfl, rfl⟩)
  · exact fun hnot _ _ hcounter ↦ hnot (evaluate_eq_counterOffer_iff.mp hcounter).1

/-- Of a job that is answered with a counter-offer, another price is answered with one exactly if it
is below the product too. -/
theorem counters_atPrice_iff (hcounters : maker.Counters job mode policy)
    (hresources : job.resources ≠ 0) (price : UInt64) :
    maker.Counters (job.atPrice price) mode policy ↔
      (price.toNat : ℚ) < job.resources.toNat * policy.minPricePerUnit := by
  have hbelow : (job.atPrice price).pricePerUnit < policy.minPricePerUnit ↔
      (price.toNat : ℚ) < job.resources.toNat * policy.minPricePerUnit := by
    exact pricePerUnit_lt_iff hresources
  rw [← hbelow]
  exact ⟨fun hother ↦ hother.2.2, fun hlt ↦ ⟨hcounters.1, hcounters.2.1, hlt⟩⟩

/-! ### Settling -/

/-- A counter-offer settles a job with resources if the product fits. -/
theorem settles_of_fits (hcounters : maker.Counters job mode policy)
    (hresources : job.resources ≠ 0)
    (hfits : job.resources.toNat * policy.minPricePerUnit ≤ 2 ^ 64 - 1) :
    maker.Settles job mode policy (proposedPrice job policy) := by
  have hreaches : ∀ price : UInt64, proposedPrice job policy ≤ price ↔
      job.resources.toNat * policy.minPricePerUnit ≤ (price.toNat : ℚ) :=
    fun price ↦ ceilWord_le_iff hfits price
  have hsettled : ∀ price : UInt64, (∀ proposed reason,
      maker.evaluate (job.atPrice price) mode policy ≠ .counterOffer proposed reason) ↔
        proposedPrice job policy ≤ price := by
    intro price
    rw [forall_ne_counterOffer_iff, counters_atPrice_iff hcounters hresources, not_lt, hreaches]
  refine ⟨?_, (hsettled _).mpr (UInt64.le_refl _), fun price hprice ↦ (hsettled price).mp hprice⟩
  rw [← UInt64.not_le, hreaches, not_le]
  exact (pricePerUnit_lt_iff hresources).mp hcounters.2.2

/-- Without resources the price of zero is proposed. -/
theorem proposedPrice_of_zero (hresources : job.resources = 0) :
    proposedPrice job policy = 0 := by
  have hzero : (FloatArithmetic.ofInt (job.resources.toNat : ℤ) : ℚ) * policy.minPricePerUnit =
      0 := by
    rw [hresources]
    change ((0 : ℤ) : ℚ) * policy.minPricePerUnit = 0
    rw [Int.cast_zero, zero_mul]
  unfold proposedPrice
  rw [hzero]
  rfl

/-- If the product does not fit, the largest price is proposed, and countered again. -/
theorem not_settles_of_overflow (hcounters : maker.Counters job mode policy)
    (hresources : job.resources ≠ 0)
    (hoverflow : 2 ^ 64 - 1 < job.resources.toNat * policy.minPricePerUnit) (price : UInt64) :
    ¬ maker.Settles job mode policy price := by
  intro hsettles
  have hsettled := forall_ne_counterOffer_iff.mp hsettles.least.1
  rw [counters_atPrice_iff hcounters hresources, not_lt] at hsettled
  exact absurd (hoverflow.trans_le hsettled) (not_lt.mpr (cast_word_le price))

/-- Every counter-offer settles the job if and only if the job is not answered with one, or it has
resources and the product of the resources and the minimum price fits into 64 bits. -/
theorem counterOffers_settle_iff (maker : ProviderDecisionMaker) (job : JobSpec)
    (mode : AutonomyMode) (policy : ProviderPolicy ℚ) :
    (∀ price reason, maker.evaluate job mode policy = .counterOffer price reason →
      maker.Settles job mode policy price) ↔
    ¬ maker.Counters job mode policy ∨ job.resources ≠ 0 ∧
      job.resources.toNat * policy.minPricePerUnit ≤ 2 ^ 64 - 1 := by
  by_cases hcounters : maker.Counters job mode policy
  · rw [or_iff_right (not_not.mpr hcounters)]
    constructor
    · intro hall
      have hsettles := hall _ _ (evaluate_eq_counterOffer_iff.mpr ⟨hcounters, rfl, rfl⟩)
      have hresources : job.resources ≠ 0 := by
        intro hzero
        -- a price of zero is higher than no price
        have hraises := hsettles.raises
        rw [proposedPrice_of_zero hzero] at hraises
        exact UInt64.not_lt_zero hraises
      refine ⟨hresources, le_of_not_gt fun hoverflow ↦ ?_⟩
      exact not_settles_of_overflow hcounters hresources hoverflow _ hsettles
    · rintro ⟨hresources, hfits⟩ price reason hoffer
      obtain ⟨-, rfl, -⟩ := evaluate_eq_counterOffer_iff.mp hoffer
      exact settles_of_fits hcounters hresources hfits
  · refine iff_of_true (fun price reason hoffer ↦ ?_) (.inl hcounters)
    exact absurd (evaluate_eq_counterOffer_iff.mp hoffer).1 hcounters

/-- A job without resources is answered with the price of zero, at any price and at zero again. -/
theorem zero_is_proposed_again :
    let job : JobSpec := ⟨0, 5, 60, 90⟩
    let policy : ProviderPolicy ℚ := ⟨1, ⟨1000, 50, 3600⟩⟩
    let maker : ProviderDecisionMaker := ⟨none⟩
    maker.evaluate job .moderate policy = .counterOffer 0 "price below minimum" ∧
      maker.evaluate (job.atPrice 0) .moderate policy = .counterOffer 0 "price below minimum" ∧
      ¬ maker.Settles job .moderate policy 0 := by
  intro job policy maker
  refine ⟨?_, ?_, fun hsettles ↦ absurd hsettles.raises (by decide)⟩
  · rw [evaluate_eq_counterOffer_iff]
    refine ⟨⟨nofun, rfl, ?_⟩, (proposedPrice_of_zero rfl).symm, rfl⟩
    rw [pricePerUnit_of_zero rfl]
    exact one_pos
  · rw [evaluate_eq_counterOffer_iff]
    refine ⟨⟨nofun, rfl, ?_⟩, (proposedPrice_of_zero rfl).symm, rfl⟩
    rw [pricePerUnit_of_zero rfl]
    exact one_pos

end ProviderDecisionMaker

end Clawbernetes.MoltAgent
