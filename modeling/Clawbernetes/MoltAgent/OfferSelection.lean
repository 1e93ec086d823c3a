import Clawbernetes.MoltAgent.ExactArithmetic
import Clawbernetes.MoltAgent.Negotiation
import Clawbernetes.MoltAgent.PolicyEvaluator

/-!
# The selection of an offer

`buyer.rs`: a buyer accepts offers up to its maximum price times a flexibility, scores them by
price, duration and reputation, and selects the best one. The part of a score that the price makes
up is cut off at the maximum price, so with a flexibility above one the acceptable offers beyond the
maximum price all have the same price score.

In exact arithmetic the selection returns an acceptable offer when there is one, and a dominated one
exactly when it has to choose between such offers (`selectsWell_iff`): of two that differ in the
price only, the later one is taken. With a flexibility of one at most, as in the default policy and
the conservative one, no selected offer is dominated (`selectsWell_of_flexibility_le_one`).
-/

set_option autoImplicit false
set_option relaxedAutoImplicit false

namespace Clawbernetes.MoltAgent

open Library.LastMaximum

/-- `JobRequirements`, with the fields that offers are compared with. -/
structure JobRequirements where
  maxPrice : UInt64
  maxDurationSecs : UInt64
  minProviderReputation : UInt8

/-- `ProviderOffer`. -/
structure ProviderOffer where
  providerId : Uuid
  price : UInt64
  estimatedDurationSecs : UInt64
  providerReputation : UInt8
  expiresInSecs : UInt64
  deriving DecidableEq

/-- `BuyerPolicy`. -/
structure BuyerPolicy (F : Type) where
  priceFlexibility : F
  thresholds : DecisionThresholds
  autoAcceptBest : Bool

section Selection

variable {F : Type} [FloatArithmetic F]

open FloatArithmetic

/-- `BuyerPolicy::default`. -/
def BuyerPolicy.default : BuyerPolicy F where
  priceFlexibility := 1.0
  thresholds := ⟨1000, 50, 3600⟩
  autoAcceptBest := false

/-- `BuyerPolicy::for_mode`. -/
def BuyerPolicy.forMode (mode : AutonomyMode) : BuyerPolicy F :=
  match mode with
  | .conservative => ⟨1.0, .forMode mode, false⟩
  | .moderate => ⟨1.1, .forMode mode, true⟩
  | .aggressive => ⟨1.25, .forMode mode, true⟩

/-- `evaluate_offer`. -/
def evaluateOffer (offer : ProviderOffer) (requirements : JobRequirements)
    (policy : BuyerPolicy F) : Bool :=
  let maxAcceptable := ceilWord (ofInt requirements.maxPrice.toNat * policy.priceFlexibility)
  if maxAcceptable < offer.price then false
  else if requirements.maxDurationSecs < offer.estimatedDurationSecs then false
  else if offer.providerReputation < requirements.minProviderReputation then false
  else true

/-- `score_offer`. -/
def scoreOffer (offer : ProviderOffer) (requirements : JobRequirements) : F :=
  let priceRatio : F :=
    if 0 < requirements.maxPrice then
      1.0 - FloatArithmetic.min (ofInt offer.price.toNat / ofInt requirements.maxPrice.toNat) 1.0
    else 0.0
  let durationRatio : F :=
    if 0 < requirements.maxDurationSecs then
      1.0 - FloatArithmetic.min
        (ofInt offer.estimatedDurationSecs.toNat / ofInt requirements.maxDurationSecs.toNat) 1.0
    else 0.0
  let reputationRatio : F := ofInt offer.providerReputation.toNat / 100.0
  priceRatio * 0.5 + durationRatio * 0.2 + reputationRatio * 0.3

/-- `select_best_offer`. -/
def selectBestOffer (offers : List ProviderOffer) (requirements : JobRequirements)
    (policy : BuyerPolicy F) : Option ProviderOffer :=
  maxBy (fun best next ↦
      FloatArithmetic.lt (scoreOffer next requirements : F) (scoreOffer best requirements))
    (offers.filter fun offer ↦ evaluateOffer offer requirements policy)

end Selection

variable {offers : List ProviderOffer} {requirements : JobRequirements} {policy : BuyerPolicy ℚ}
  {offer other : ProviderOffer}

/-! ### What a selection should meet -/

/-- The other offer is cheaper, takes no longer and is from a provider of no lower reputation. -/
structure ProviderOffer.Dominates (other offer : ProviderOffer) : Prop where
  price : other.price < offer.price
  duration : other.estimatedDurationSecs ≤ offer.estimatedDurationSecs
  reputation : offer.providerReputation ≤ other.providerReputation

/-- An offer is selected exactly when one is acceptable; it is an acceptable one, and no acceptable
offer dominates it. -/
structure SelectsWell (offers : List ProviderOffer) (requirements : JobRequirements)
    (policy : BuyerPolicy ℚ) : Prop where
  selects : (selectBestOffer offers requirements policy).isSome = true ↔
    ∃ offer ∈ offers, evaluateOffer offer requirements policy = true
  acceptable : ∀ best, selectBestOffer offers requirements policy = some best →
    best ∈ offers ∧ evaluateOffer best requirements policy = true
  undominated : ∀ best, selectBestOffer offers requirements policy = some best →
    ∀ other ∈ offers, evaluateOffer other requirements policy = true → ¬ other.Dominates best

/-- The other offer is cheaper by a difference that the score does not see: it costs the maximum
price already, and nothing else differs. -/
structure ProviderOffer.Undercuts (requirements : JobRequirements) (other offer : ProviderOffer) :
    Prop where
  price : other.price < offer.price
  beyond : requirements.maxPrice ≤ other.price
  duration : other.estimatedDurationSecs = offer.estimatedDurationSecs
  reputation : other.providerReputation = offer.providerReputation

/-- What the share of the maximum price that an offer leaves counts for. -/
def ProviderOffer.savingsWorth (requirements : JobRequirements) (offer : ProviderOffer) : ℚ :=
  leftShare offer.price.toNat requirements.maxPrice.toNat * 0.5

/-- What the duration and the reputation of an offer count for. -/
def ProviderOffer.serviceWorth (requirements : JobRequirements) (offer : ProviderOffer) : ℚ :=
  leftShare offer.estimatedDurationSecs.toNat requirements.maxDurationSecs.toNat * 0.2 +
    (offer.providerReputation.toNat : ℚ) / 100.0 * 0.3

/-- Every acceptable offer that an acceptable offer undercuts, and whose price so counts for
nothing, is worth less than another one by its duration and reputation alone, or worth as much as
another one further back in the list. -/
def UndercutOffersLose (offers : List ProviderOffer) (requirements : JobRequirements)
    (policy : BuyerPolicy ℚ) : Prop :=
  ∀ before offer after, offers = before ++ offer :: after →
    evaluateOffer offer requirements policy = true →
    (∃ other ∈ offers, evaluateOffer other requirements policy = true ∧
      other.Undercuts requirements offer) →
    (∃ better ∈ offers, evaluateOffer better requirements policy = true ∧
      offer.serviceWorth requirements <
        better.savingsWorth requirements + better.serviceWorth requirements) ∨
    ∃ later ∈ after, evaluateOffer later requirements policy = true ∧
      later.savingsWorth requirements + later.serviceWorth requirements =
        offer.serviceWorth requirements

/-! ### Scores in exact arithmetic -/

/-- An exact score weighs the shares of the maximum price and of the maximum duration that are left,
and the reputation. -/
theorem scoreOffer_exact (offer : ProviderOffer) (requirements : JobRequirements) :
    (scoreOffer offer requirements : ℚ) =
      offer.savingsWorth requirements + offer.serviceWorth requirements := by
  have hratio : ∀ amount bound : UInt64, (if 0 < bound then (1.0 : ℚ) - FloatArithmetic.min
      (FloatArithmetic.ofInt amount.toNat / FloatArithmetic.ofInt bound.toNat) 1.0
      else 0.0) = leftShare amount.toNat bound.toNat := by
    intro amount bound
    rcases eq_or_ne bound 0 with rfl | hbound
    · rw [if_neg (UInt64.lt_irrefl 0), UInt64.toNat_zero, leftShare_zero]
      norm_num
    · rw [if_pos (UInt64.pos_iff_ne_zero.mpr hbound), one_sub_min_eq_leftShare hbound]
  unfold scoreOffer ProviderOffer.savingsWorth ProviderOffer.serviceWorth
  dsimp only
  rw [hratio, hratio, add_assoc]
  rfl

/-- The price of an offer from the maximum price on counts for nothing. -/
theorem scoreOffer_of_beyond (hbeyond : requirements.maxPrice ≤ offer.price) :
    (scoreOffer offer requirements : ℚ) = offer.serviceWorth requirements := by
  have hnothing := leftShare_of_le (UInt64.le_iff_toNat_le.mp hbeyond)
  rw [scoreOffer_exact, ProviderOffer.savingsWorth, hnothing, zero_mul, zero_add]

/-- A dominating offer that has no higher score than an offer within the maximum duration differs
from it by a part of the price that the score does not see. -/
theorem ProviderOffer.Dominates.undercuts (hdominates : other.Dominates offer)
    (hduration : offer.estimatedDurationSecs ≤ requirements.maxDurationSecs)
    (hscore : (scoreOffer other requirements : ℚ) ≤ scoreOffer offer requirements) :
    other.Undercuts requirements offer := by
  obtain ⟨hcheaper, hfaster, hbetter⟩ := hdominates
  rw [UInt64.lt_iff_toNat_lt] at hcheaper
  rw [UInt64.le_iff_toNat_le] at hfaster hduration
  rw [UInt8.le_iff_toNat_le] at hbetter
  rw [scoreOffer_exact, scoreOffer_exact] at hscore
  unfold ProviderOffer.savingsWorth ProviderOffer.serviceWorth at hscore
  -- no part of the score is lower for the dominating offer
  have hprices := leftShare_le hcheaper.le requirements.maxPrice.toNat
  have hdurations := leftShare_le hfaster requirements.maxDurationSecs.toNat
  have hreputations : (offer.providerReputation.toNat : ℚ) ≤ other.providerReputation.toNat :=
    Nat.cast_le.mpr hbetter
  refine ⟨UInt64.lt_iff_toNat_lt.mpr hcheaper, ?_, ?_, ?_⟩
  · by_contra hbelow
    rw [UInt64.not_le, UInt64.lt_iff_toNat_lt] at hbelow
    have hhigher := leftShare_lt hcheaper hbelow
    linarith
  · by_contra hother
    have hshorter := lt_of_le_of_ne hfaster fun hsame ↦ hother (UInt64.toNat_inj.mp hsame)
    have hhigher := leftShare_lt hshorter (hshorter.trans_le hduration)
    linarith
  · by_contra hother
    have hgreater := lt_of_le_of_ne hbetter fun hsame ↦ hother (UInt8.toNat_inj.mp hsame.symm)
    have hhigher : (offer.providerReputation.toNat : ℚ) < other.providerReputation.toNat :=
      Nat.cast_lt.mpr hgreater
    linarith

/-- An undercutting offer dominates. -/
theorem ProviderOffer.Undercuts.dominates (hundercuts : other.Undercuts requirements offer) :
    other.Dominates offer :=
  ⟨hundercuts.price, UInt64.le_of_eq hundercuts.duration, UInt8.le_of_eq hundercuts.reputation.symm⟩

/-! ### The selection in exact arithmetic -/

/-- An acceptable offer stays within the accepted price and within the maximum duration. -/
theorem evaluateOffer_eq_true_iff : evaluateOffer offer requirements policy = true ↔
    offer.price ≤ FloatArithmetic.ceilWord
        (FloatArithmetic.ofInt requirements.maxPrice.toNat * policy.priceFlexibility) ∧
      offer.estimatedDurationSecs ≤ requirements.maxDurationSecs ∧
      requirements.minProviderReputation ≤ offer.providerReputation := by
  unfold evaluateOffer
  dsimp only
  rw [← UInt64.not_lt, ← UInt64.not_lt, ← UInt8.not_lt]
  split_ifs with hprice hduration hreputation
  · exact iff_of_false nofun fun hall ↦ hall.1 hprice
  · exact iff_of_false nofun fun hall ↦ hall.2.1 hduration
  · exact iff_of_false nofun fun hall ↦ hall.2.2 hreputation
  · exact iff_of_true rfl ⟨hprice, hduration, hreputation⟩

/-- The selected offer is the last of the acceptable ones with the highest score. -/
theorem selectBestOffer_eq_some_iff {best : ProviderOffer} :
    selectBestOffer offers requirements policy = some best ↔
      IsLastMax (fun offer ↦ (scoreOffer offer requirements : ℚ))
        (offers.filter fun offer ↦ evaluateOffer offer requirements policy) best :=
  maxBy_eq_some_iff

/-- An offer is selected exactly when one is acceptable. -/
theorem selectBestOffer_isSome_iff : (selectBestOffer offers requirements policy).isSome = true ↔
    ∃ offer ∈ offers, evaluateOffer offer requirements policy = true := by
  rw [← Option.ne_none_iff_isSome, Ne, selectBestOffer, maxBy_eq_none_iff, List.filter_eq_nil_iff]
  push Not
  rfl

/-- The selected offer is an acceptable one. -/
theorem acceptable_of_selectBestOffer {best : ProviderOffer}
    (hbest : selectBestOffer offers requirements policy = some best) :
    best ∈ offers ∧ evaluateOffer best requirements policy = true :=
  List.mem_filter.mp (selectBestOffer_eq_some_iff.mp hbest).mem

/-- The selection is as it should be exactly for the lists in which the offers that are undercut
lose. -/
theorem selectsWell_iff (offers : List ProviderOffer) (requirements : JobRequirements)
    (policy : BuyerPolicy ℚ) :
    SelectsWell offers requirements policy ↔ UndercutOffersLose offers requirements policy := by
  constructor
  · rintro hwell before offer after hsplit hoffer ⟨other, hother, haccepted, hundercuts⟩
    have hworth := scoreOffer_of_beyond (UInt64.le_trans hundercuts.beyond
      (UInt64.le_of_lt hundercuts.price))
    simp only [← scoreOffer_exact, ← hworth]
    by_contra hnone
    push Not at hnone
    obtain ⟨hbest, hlast⟩ := hnone
    have hmem : ∀ later ∈ after, later ∈ offers := by
      intro later hlater
      rw [hsplit]
      exact List.mem_append_right _ (List.mem_cons_of_mem _ hlater)
    have hselected : selectBestOffer offers requirements policy = some offer := by
      rw [selectBestOffer_eq_some_iff, isLastMax_filter_iff]
      refine ⟨hoffer, before, after, hsplit, fun earlier hearlier ↦ ?_, fun later hlater hkept ↦ ?_⟩
      · refine hbest earlier ?_
        rw [hsplit]
        exact List.mem_append_left _ hearlier
      · exact lt_of_le_of_ne (hbest later (hmem later hlater) hkept) (hlast later hlater hkept)
    exact hwell.undominated offer hselected other hother haccepted hundercuts.dominates
  · intro hlose
    refine ⟨selectBestOffer_isSome_iff, fun best ↦ acceptable_of_selectBestOffer, ?_⟩
    intro best hbest other hother haccepted hdominates
    have hmax := selectBestOffer_eq_some_iff.mp hbest
    have hhighest : ∀ better ∈ offers, evaluateOffer better requirements policy = true →
        (scoreOffer better requirements : ℚ) ≤ scoreOffer best requirements :=
      fun better hbetter hkept ↦ hmax.key_le (List.mem_filter.mpr ⟨hbetter, hkept⟩)
    obtain ⟨hkept, before, after, hsplit, -, hafter⟩ := isLastMax_filter_iff.mp hmax
    have hundercuts := hdominates.undercuts (evaluateOffer_eq_true_iff.mp hkept).2.1
      (hhighest other hother haccepted)
    have hworth := scoreOffer_of_beyond (UInt64.le_trans hundercuts.beyond
      (UInt64.le_of_lt hundercuts.price))
    have hbeaten := hlose before best after hsplit hkept ⟨other, hother, haccepted, hundercuts⟩
    simp only [← scoreOffer_exact, ← hworth] at hbeaten
    rcases hbeaten with
      ⟨better, hbetter, hvalid, hhigher⟩ | ⟨later, hlater, hvalid, hsame⟩
    · exact not_le.mpr hhigher (hhighest better hbetter hvalid)
    · exact absurd hsame (hafter later hlater hvalid).ne

/-- With a flexibility of one at most no acceptable offer costs more than the maximum price. -/
theorem price_le_of_flexibility_le_one (hflexibility : policy.priceFlexibility ≤ 1)
    (hoffer : evaluateOffer offer requirements policy = true) :
    offer.price ≤ requirements.maxPrice := by
  have hproduct : (requirements.maxPrice.toNat : ℚ) * policy.priceFlexibility ≤
      requirements.maxPrice.toNat :=
    mul_le_of_le_one_right (Nat.cast_nonneg _) hflexibility
  have hfits := hproduct.trans (cast_word_le requirements.maxPrice)
  exact UInt64.le_trans (evaluateOffer_eq_true_iff.mp hoffer).1
    ((ceilWord_le_iff hfits _).mpr hproduct)

/-- With a flexibility of one at most the selection is as it should be. -/
theorem selectsWell_of_flexibility_le_one (hflexibility : policy.priceFlexibility ≤ 1) :
    SelectsWell offers requirements policy := by
  rw [selectsWell_iff]
  rintro before offer after - hoffer ⟨other, -, -, hundercuts⟩
  have hprice := price_le_of_flexibility_le_one hflexibility hoffer
  have hbelow := UInt64.lt_of_le_of_lt hundercuts.beyond hundercuts.price
  exact absurd hbelow (UInt64.not_lt.mpr hprice)

/-- Of two offers beyond the maximum price that differ in the price only, a buyer in the moderate
mode selects the dearer one if it comes later. -/
theorem dearer_offer_is_selected :
    let requirements : JobRequirements := ⟨100, 60, 0⟩
    let cheaper : ProviderOffer := ⟨1, 105, 60, 50, 0⟩
    let dearer : ProviderOffer := ⟨2, 110, 60, 50, 0⟩
    let policy : BuyerPolicy ℚ := .forMode .moderate
    1 ≤ policy.priceFlexibility ∧
      selectBestOffer [cheaper, dearer] requirements policy = some dearer ∧
      ¬ SelectsWell [cheaper, dearer] requirements policy := by
  intro requirements cheaper dearer policy
  have hselected : selectBestOffer [cheaper, dearer] requirements policy = some dearer := by
    decide +kernel
  have haccepted : evaluateOffer cheaper requirements policy = true := by decide +kernel
  refine ⟨by decide +kernel, hselected, fun hwell ↦ ?_⟩
  have hdominates : cheaper.Dominates dearer := ⟨by decide, by decide, by decide⟩
  exact hwell.undominated dearer hselected cheaper List.mem_cons_self haccepted hdominates

end Clawbernetes.MoltAgent
