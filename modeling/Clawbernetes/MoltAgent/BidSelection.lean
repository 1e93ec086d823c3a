import Clawbernetes.MoltAgent.ExactArithmetic
import Clawbernetes.MoltAgent.Negotiation

/-!
# The selection of a bid

What `negotiate_at` selects, in exact arithmetic: a bid when one is valid, and then the best one
under the strategy (`negotiateAt_sound`). A valid bid costs at most the maximum price, so the price
part of a score is never cut off, and a balanced score is higher for every bid that is better in one
respect and no worse in the others. Another order of the bids selects a bid of the same score.
-/

set_option autoImplicit false
set_option relaxedAutoImplicit false

namespace Clawbernetes.MoltAgent

open Library.LastMaximum

/-! ### What a negotiation should meet -/

/-- The job can be given to the bid: it is not expired, it costs at most the maximum price and its
provider has the reputation. -/
structure NegotiationJob.Admits (job : NegotiationJob) (now : ℤ) (bid : Bid) : Prop where
  unexpired : now < bid.expiresAt
  price : bid.price ≤ job.maxPrice
  reputation : job.minReputation ≤ bid.reputation

/-- The other bid is no worse in price, reputation and waiting time, and better in one of them. -/
structure Bid.Dominates (now : ℤ) (other bid : Bid) : Prop where
  price : other.price ≤ bid.price
  reputation : bid.reputation ≤ other.reputation
  wait : other.waitTimeSecs now ≤ bid.waitTimeSecs now
  better : other.price < bid.price ∨ bid.reputation < other.reputation ∨
    other.waitTimeSecs now < bid.waitTimeSecs now

/-- The bid is best under the strategy, in comparison with the other one. -/
def NegotiationStrategy.Prefers (strategy : NegotiationStrategy) (now : ℤ) (bid other : Bid) :
    Prop :=
  match strategy with
  | .lowestPrice => bid.price ≤ other.price
  | .highestReputation => other.reputation ≤ bid.reputation
  | .fastestAvailability => bid.waitTimeSecs now ≤ other.waitTimeSecs now
  | .balanced => ¬ other.Dominates now bid

/-- A negotiation fails exactly when no bid is admitted. It selects one of the admitted bids, with
its score, and one that the strategy prefers to every other. Another order of the bids changes the
selection at most to another bid of the same score. -/
structure NegotiatesWell (job : NegotiationJob) (bids : List Bid) (strategy : NegotiationStrategy)
    (now : ℤ) : Prop where
  fails : (negotiateAt job bids strategy now : Option (SelectedBid ℚ)) = none ↔
    ∀ bid ∈ bids, ¬ job.Admits now bid
  selects : ∀ selected : SelectedBid ℚ, negotiateAt job bids strategy now = some selected →
    selected.bid ∈ bids ∧ job.Admits now selected.bid ∧
      selected.score = strategy.scoreBid selected.bid job.maxPrice now ∧
      ∀ other ∈ bids, job.Admits now other → strategy.Prefers now selected.bid other
  reorders : ∀ others : List Bid, others.Perm bids →
    (negotiateAt job others strategy now : Option (SelectedBid ℚ)).map SelectedBid.score =
      (negotiateAt job bids strategy now).map SelectedBid.score

variable {job : NegotiationJob} {bids : List Bid} {strategy : NegotiationStrategy} {now : ℤ}
  {bid other : Bid}

/-! ### Scores in exact arithmetic -/

/-- The price part of a score is the share of the maximum price that is left. -/
theorem priceScore_exact (bid : Bid) (maxPrice : UInt64) :
    (priceScore bid maxPrice : ℚ) = leftShare bid.price.toNat maxPrice.toNat := by
  unfold priceScore
  rcases eq_or_ne maxPrice 0 with rfl | hmax
  · rw [if_pos rfl, UInt64.toNat_zero, leftShare_zero]
    norm_num
  · rw [if_neg hmax, one_sub_min_eq_leftShare hmax]

/-- The price score of a cheaper bid is no lower. -/
theorem priceScore_le (hprice : other.price ≤ bid.price) (maxPrice : UInt64) :
    (priceScore bid maxPrice : ℚ) ≤ priceScore other maxPrice := by
  rw [priceScore_exact, priceScore_exact]
  exact leftShare_le (UInt64.le_iff_toNat_le.mp hprice) maxPrice.toNat

/-- The price score of a cheaper bid is higher than that of a bid within the maximum price. -/
theorem priceScore_lt {maxPrice : UInt64} (hprice : other.price < bid.price)
    (hbid : bid.price ≤ maxPrice) :
    (priceScore bid maxPrice : ℚ) < priceScore other maxPrice := by
  have hwithin := UInt64.lt_of_lt_of_le hprice hbid
  rw [priceScore_exact, priceScore_exact]
  exact leftShare_lt (UInt64.lt_iff_toNat_lt.mp hprice) (UInt64.lt_iff_toNat_lt.mp hwithin)

/-- The reputation scores are in the order of the reputations. -/
theorem reputationScore_lt_iff :
    (reputationScore bid : ℚ) < reputationScore other ↔ bid.reputation < other.reputation := by
  have hdecimal : (0 : ℚ) < 100.0 := by norm_num
  change (bid.reputation.toNat : ℚ) / 100.0 < (other.reputation.toNat : ℚ) / 100.0 ↔ _
  rw [div_lt_div_iff_of_pos_right hdecimal, Nat.cast_lt, UInt8.lt_iff_toNat_lt]

/-- The availability scores are in the reverse order of the waiting times. -/
theorem availabilityScore_lt_iff : (availabilityScore bid now : ℚ) < availabilityScore other now ↔
    other.waitTimeSecs now < bid.waitTimeSecs now := by
  have hpositive : ∀ waiting : Bid, (0 : ℚ) < 1.0 + (waiting.waitTimeSecs now : ℚ) / 3600.0 := by
    intro waiting
    have hwait : (0 : ℚ) ≤ (waiting.waitTimeSecs now : ℚ) :=
      Int.cast_nonneg (le_max_right _ _)
    positivity
  have hhour : (0 : ℚ) < 3600.0 := by norm_num
  have hone : (0 : ℚ) < 1.0 := by norm_num
  change (1.0 : ℚ) / (1.0 + (bid.waitTimeSecs now : ℚ) / 3600.0) <
    1.0 / (1.0 + (other.waitTimeSecs now : ℚ) / 3600.0) ↔ _
  rw [div_lt_div_iff_of_pos_left hone (hpositive bid) (hpositive other), add_lt_add_iff_left,
    div_lt_div_iff_of_pos_right hhour, Int.cast_lt]

/-- A bid with the highest score of those within the maximum price is preferred. -/
theorem prefers_of_score_le (hbid : bid.price ≤ job.maxPrice)
    (hscore : (strategy.scoreBid other job.maxPrice now : ℚ) ≤
      strategy.scoreBid bid job.maxPrice now) : strategy.Prefers now bid other := by
  cases strategy with
  | lowestPrice =>
    refine UInt64.not_lt.mp fun hcheaper ↦ ?_
    exact not_lt.mpr hscore (priceScore_lt hcheaper hbid)
  | highestReputation =>
    refine UInt8.not_lt.mp fun hhigher ↦ ?_
    exact not_lt.mpr hscore (reputationScore_lt_iff.mpr hhigher)
  | fastestAvailability =>
    refine not_lt.mp fun hfaster ↦ ?_
    exact not_lt.mpr hscore (availabilityScore_lt_iff.mpr hfaster)
  | balanced =>
    intro hdominates
    have hprice := priceScore_le hdominates.price job.maxPrice
    have hreputation : (reputationScore bid : ℚ) ≤ reputationScore other := by
      rw [← not_lt, reputationScore_lt_iff]
      exact UInt8.not_lt.mpr hdominates.reputation
    have hwait : (availabilityScore bid now : ℚ) ≤ availabilityScore other now := by
      rw [← not_lt, availabilityScore_lt_iff]
      exact not_lt.mpr hdominates.wait
    change priceScore other job.maxPrice * 0.4 + reputationScore other * 0.35 +
        availabilityScore other now * 0.25 ≤
      (priceScore bid job.maxPrice * 0.4 + reputationScore bid * 0.35 +
        availabilityScore bid now * 0.25 : ℚ) at hscore
    rcases hdominates.better with hcheaper | hhigher | hfaster
    · have hbetter := priceScore_lt hcheaper hbid
      linarith
    · have hbetter := reputationScore_lt_iff.mpr hhigher
      linarith
    · have hbetter : (availabilityScore bid now : ℚ) < availabilityScore other now :=
        availabilityScore_lt_iff.mpr hfaster
      linarith

/-! ### The selection in exact arithmetic -/

/-- The valid bids are the ones that the job admits. -/
theorem mem_validBids_iff : bid ∈ validBids job bids now ↔ bid ∈ bids ∧ job.Admits now bid := by
  unfold validBids Bid.isExpired
  rw [List.mem_filter, Bool.and_eq_true, Bool.and_eq_true, Bool.not_eq_true',
    decide_eq_false_iff_not, not_le, decide_eq_true_eq, decide_eq_true_eq]
  exact and_congr_right fun _ ↦
    ⟨fun ⟨⟨hexpiry, hprice⟩, hreputation⟩ ↦ ⟨hexpiry, hprice, hreputation⟩,
      fun hadmits ↦ ⟨⟨hadmits.unexpired, hadmits.price⟩, hadmits.reputation⟩⟩

/-- The bids with their scores. -/
def scoredBids (job : NegotiationJob) (bids : List Bid) (strategy : NegotiationStrategy) (now : ℤ) :
    List (Bid × ℚ) :=
  (validBids job bids now).map fun bid ↦ (bid, strategy.scoreBid bid job.maxPrice now)

/-- The selection is the last maximum of the valid bids with their scores. -/
theorem negotiateAt_eq_some_iff {selected : SelectedBid ℚ} :
    negotiateAt job bids strategy now = some selected ↔
      IsLastMax Prod.snd (scoredBids job bids strategy now) (selected.bid, selected.score) ∧
        selected.reason = strategy.reason := by
  unfold negotiateAt
  dsimp only
  rw [Option.map_eq_some_iff]
  constructor
  · rintro ⟨winner, hwinner, rfl⟩
    exact ⟨maxBy_eq_some_iff.mp hwinner, rfl⟩
  · rintro ⟨hmax, hreason⟩
    refine ⟨(selected.bid, selected.score), maxBy_eq_some_iff.mpr hmax, ?_⟩
    rw [← hreason]

/-- A negotiation fails when there is no valid bid. -/
theorem negotiateAt_eq_none_iff :
    (negotiateAt job bids strategy now : Option (SelectedBid ℚ)) = none ↔
      validBids job bids now = [] := by
  unfold negotiateAt
  dsimp only
  rw [Option.map_eq_none_iff, maxBy_eq_none_iff, List.map_eq_nil_iff]

/-- A selected bid has its score, and no valid bid has a higher one. -/
theorem score_of_negotiateAt {selected : SelectedBid ℚ}
    (hselected : negotiateAt job bids strategy now = some selected) :
    selected.score = strategy.scoreBid selected.bid job.maxPrice now ∧
      ∀ other ∈ validBids job bids now,
        strategy.scoreBid other job.maxPrice now ≤ selected.score := by
  have hmax := (negotiateAt_eq_some_iff.mp hselected).1
  constructor
  · obtain ⟨bid, -, hbid⟩ := List.mem_map.mp hmax.mem
    obtain ⟨rfl, hscore⟩ := Prod.mk.inj hbid
    exact hscore.symm
  · exact fun other hother ↦ hmax.key_le (List.mem_map_of_mem hother)

/-- Another order of the bids selects a bid of the same score. -/
theorem score_negotiateAt_of_perm {others : List Bid} (hperm : others.Perm bids) :
    (negotiateAt job others strategy now : Option (SelectedBid ℚ)).map SelectedBid.score =
      (negotiateAt job bids strategy now).map SelectedBid.score := by
  have hvalid : (validBids job others now).Perm (validBids job bids now) := hperm.filter _
  cases hselected : (negotiateAt job bids strategy now : Option (SelectedBid ℚ)) with
  | none =>
    have hnone : (negotiateAt job others strategy now : Option (SelectedBid ℚ)) = none := by
      rw [negotiateAt_eq_none_iff] at hselected ⊢
      rw [hselected] at hvalid
      exact hvalid.eq_nil
    rw [hnone]
  | some selected =>
    cases hother : (negotiateAt job others strategy now : Option (SelectedBid ℚ)) with
    | none =>
      rw [negotiateAt_eq_none_iff] at hother
      rw [hother] at hvalid
      rw [negotiateAt_eq_none_iff.mpr hvalid.nil_eq.symm] at hselected
      cases hselected
    | some other =>
      have hmax := (negotiateAt_eq_some_iff.mp hselected).1
      have hothers := (negotiateAt_eq_some_iff.mp hother).1
      exact congrArg some (hmax.key_eq_of_perm hothers (hvalid.map _))

/-- Every negotiation, of any job and bids, under any strategy and at any time, goes well. -/
theorem negotiateAt_sound (job : NegotiationJob) (bids : List Bid)
    (strategy : NegotiationStrategy) (now : ℤ) : NegotiatesWell job bids strategy now where
  fails := by
    rw [negotiateAt_eq_none_iff, List.eq_nil_iff_forall_not_mem]
    refine forall_congr' fun bid ↦ ?_
    rw [mem_validBids_iff, not_and]
  selects := by
    intro selected hselected
    obtain ⟨hmem, hadmits⟩ := mem_validBids_iff.mp (mem_validBids_of_negotiateAt hselected)
    obtain ⟨hscore, hhighest⟩ := score_of_negotiateAt hselected
    refine ⟨hmem, hadmits, hscore, fun other hother hadmitted ↦ ?_⟩
    refine prefers_of_score_le hadmits.price ?_
    rw [← hscore]
    exact hhighest other (mem_validBids_iff.mpr ⟨hother, hadmitted⟩)
  reorders := fun _ hperm ↦ score_negotiateAt_of_perm hperm

end Clawbernetes.MoltAgent
