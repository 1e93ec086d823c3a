import Clawbernetes.MoltMarket.OrderBook

/-!
# The ranking of the matches

The matches of `find_matches` are sorted by their score, the best first. The score of an offer is
its reputation less a tenth of its hourly price, cut off at zero, and higher is better. The tenth is
narrowed from 64 to 32 bits before it is subtracted, so that a tenth of `2 ^ 32` counts as nothing.

`findMatches_ranked_iff` says when the scores are those of the unnarrowed price, and hence the
ranking never puts an offer of lower reputation and higher price before another: when the tenth of
every matched price fits into 32 bits, or its low 32 bits are still no less than the reputation.
-/

set_option autoImplicit false
set_option relaxedAutoImplicit false

namespace Clawbernetes.MoltMarket

open Library.MachineWords

/-- The score of an offer in unbounded integers, cut off at zero. -/
def exactScore (offer : CapacityOffer) : ℕ :=
  offer.reputation.toNat - offer.pricePerHour.toNat / 10

/-- A tenth of the price fits into 32 bits, or its low 32 bits are no less than the reputation. -/
def Rankable (offer : CapacityOffer) : Prop :=
  offer.pricePerHour.toNat / 10 < 2 ^ 32 ∨
    offer.reputation.toNat ≤ offer.pricePerHour.toNat / 10 % 2 ^ 32

/-- The matches are sorted by score, the scores are those of the unnarrowed prices, and an offer
with at least the reputation and at most the price of another has at least its score. -/
structure RankedByScore (book : OrderBook) (found : List OrderMatch) : Prop where
  sorted : found.Pairwise fun first second ↦ second.score ≤ first.score
  exact : ∀ item ∈ found, ∀ offer, book.getOffer item.offerId = some offer →
    item.score.toNat = exactScore offer
  monotone : ∀ better ∈ found, ∀ worse ∈ found, ∀ offer other,
    book.getOffer better.offerId = some offer → book.getOffer worse.offerId = some other →
      other.reputation ≤ offer.reputation → offer.pricePerHour ≤ other.pricePerHour →
        worse.score ≤ better.score

/-- The score of a match narrows the tenth of the price to 32 bits. -/
theorem toNat_score_matchOf (orderId : String) (offer : CapacityOffer) :
    (matchOf orderId offer).score.toNat =
      offer.reputation.toNat - offer.pricePerHour.toNat / 10 % 2 ^ 32 := by
  rw [matchOf, toNat_saturatingSub32, UInt64.toNat_toUInt32, UInt64.toNat_div]
  rfl

/-- The score of a match is exact if and only if its offer is rankable. -/
theorem score_matchOf_iff (orderId : String) (offer : CapacityOffer) :
    (matchOf orderId offer).score.toNat = exactScore offer ↔ Rankable offer := by
  have hreputation := offer.reputation.toNat_lt
  rw [toNat_score_matchOf, exactScore, Rankable]
  constructor
  · intro hscore
    by_contra hunrankable
    rw [not_or] at hunrankable
    omega
  · rintro (hfits | hlow)
    · rw [Nat.mod_eq_of_lt hfits]
    · by_cases hfits : offer.pricePerHour.toNat / 10 < 2 ^ 32
      · rw [Nat.mod_eq_of_lt hfits]
      · omega

/-- The exact score grows with the reputation and falls with the price. -/
theorem exactScore_le {offer other : CapacityOffer}
    (hreputation : other.reputation ≤ offer.reputation)
    (hprice : offer.pricePerHour ≤ other.pricePerHour) : exactScore other ≤ exactScore offer := by
  rw [UInt32.le_iff_toNat_le] at hreputation
  rw [UInt64.le_iff_toNat_le] at hprice
  have htenth : offer.pricePerHour.toNat / 10 ≤ other.pricePerHour.toNat / 10 :=
    Nat.div_le_div_right hprice
  unfold exactScore
  omega

namespace OrderBook

/-- The matches of a search are sorted by score. -/
theorem pairwise_mergeSort_score (found : List OrderMatch) :
    (found.mergeSort fun first second ↦ decide (second.score ≤ first.score)).Pairwise
      fun first second ↦ second.score ≤ first.score := by
  have htrans : ∀ first second third : OrderMatch, decide (second.score ≤ first.score) = true →
      decide (third.score ≤ second.score) = true → decide (third.score ≤ first.score) = true := by
    intro first second third hfirst hsecond
    rw [decide_eq_true_eq] at hfirst hsecond ⊢
    exact UInt32.le_trans hsecond hfirst
  have htotal : ∀ first second : OrderMatch,
      (decide (second.score ≤ first.score) || decide (first.score ≤ second.score)) = true := by
    intro first second
    rw [Bool.or_eq_true, decide_eq_true_eq, decide_eq_true_eq]
    exact UInt32.le_total _ _
  exact (List.pairwise_mergeSort htrans htotal found).imp fun hle ↦ decide_eq_true_eq.mp hle

/-- The matches of a search are a sorted arrangement of the matches of the admitted offers. -/
theorem findMatches_eq_ok {overflowChecks : Bool} {book : OrderBook} {offers : List CapacityOffer}
    {orderId : String} {order : JobOrder} {found : List OrderMatch}
    (hpresent : book.getOrder orderId = some order)
    (hfound : book.findMatches overflowChecks offers orderId = some (.ok found)) :
    found.Pairwise (fun first second ↦ second.score ≤ first.score) ∧
      found.Perm ((offers.filter fun offer ↦ admits overflowChecks order offer == some true).map
        (matchOf orderId)) := by
  unfold findMatches at hfound
  rw [hpresent] at hfound
  simp only [Option.map_eq_some_iff, Except.ok.injEq] at hfound
  obtain ⟨unsorted, hcollected, rfl⟩ := hfound
  refine ⟨pairwise_mergeSort_score unsorted, ?_⟩
  rw [← (collectMatches_eq_some hcollected).1]
  exact List.mergeSort_perm _ _

/-- In a book that stores every offer under its own identifier, the matches are the ones of the
admitted current offers. -/
theorem mem_findMatches {overflowChecks : Bool} {book : OrderBook} (hkeyed : book.Keyed)
    {offers : List CapacityOffer} (hoffers : offers.Perm book.offerValues) {orderId : String}
    {order : JobOrder} {found : List OrderMatch} (hpresent : book.getOrder orderId = some order)
    (hfound : book.findMatches overflowChecks offers orderId = some (.ok found))
    (item : OrderMatch) : item ∈ found ↔ ∃ offer, book.getOffer offer.id = some offer ∧
      admits overflowChecks order offer = some true ∧ item = matchOf orderId offer := by
  rw [(findMatches_eq_ok hpresent hfound).2.mem_iff, List.mem_map]
  simp only [List.mem_filter, hoffers.mem_iff, mem_offerValues hkeyed, beq_iff_eq, and_assoc,
    eq_comm (a := item)]

/-- For every book built by inserts, replacements and removals and every order in it, whichever way
the map of offers is gone through and whatever the build does on an overflow: the returned matches
are ranked by the exact scores if and only if every current offer that the filter admits is
rankable. -/
theorem findMatches_ranked_iff (overflowChecks : Bool) (changes : List Change)
    (offers : List CapacityOffer)
    (hoffers : offers.Perm (changes.foldl change empty).offerValues) (orderId : String)
    (order : JobOrder) (hpresent : (changes.foldl change empty).getOrder orderId = some order)
    (found : List OrderMatch)
    (hfound : (changes.foldl change empty).findMatches overflowChecks offers orderId =
      some (.ok found)) :
    RankedByScore (changes.foldl change empty) found ↔
      ∀ offerId offer, (changes.foldl change empty).getOffer offerId = some offer →
        admits overflowChecks order offer = some true → Rankable offer := by
  have hkeyed := keyed_run changes
  have hmem := mem_findMatches hkeyed hoffers hpresent hfound
  constructor
  · intro hranked offerId offer hoffer hadmitted
    obtain rfl : offer.id = offerId := hkeyed offerId offer hoffer
    have hitem := (hmem _).mpr ⟨offer, hoffer, hadmitted, rfl⟩
    exact (score_matchOf_iff orderId offer).mp (hranked.exact _ hitem offer hoffer)
  · intro hrankable
    have hexact : ∀ item ∈ found, ∀ offer,
        (changes.foldl change empty).getOffer item.offerId = some offer →
          item.score.toNat = exactScore offer := by
      intro item hitem offer hoffer
      obtain ⟨matched, hmatched, hadmitted, rfl⟩ := (hmem item).mp hitem
      obtain rfl : matched = offer := Option.some_inj.mp (hmatched.symm.trans hoffer)
      exact (score_matchOf_iff orderId matched).mpr
        (hrankable matched.id matched hmatched hadmitted)
    refine ⟨(findMatches_eq_ok hpresent hfound).1, hexact, ?_⟩
    intro better hbetter worse hworse offer other hoffer hother hreputation hprice
    rw [UInt32.le_iff_toNat_le, hexact better hbetter offer hoffer,
      hexact worse hworse other hother]
    exact exactScore_le hreputation hprice

/-- An order for one hour at any price. -/
def generousOrder : JobOrder := ⟨"order", "buyer", ⟨1, none, 0, 1⟩, UInt64.ofNat (2 ^ 64 - 1), 0⟩

/-- An offer whose tenth of the price is the largest 32-bit word. -/
def costlyOffer : CapacityOffer :=
  ⟨"costly", "provider", ⟨1, "A100", 80⟩, 42949672950, 100⟩

/-- An offer whose tenth of the price is `2 ^ 32`. -/
def costlierOffer : CapacityOffer :=
  ⟨"costlier", "provider", ⟨1, "A100", 80⟩, 42949672960, 100⟩

/-- The book with the generous order and the two offers. -/
def costly : List Change :=
  [.insertOrder generousOrder, .insertOffer costlyOffer, .insertOffer costlierOffer]

/-- The matches in the book of costly offers. -/
def costlyMatches : List OrderMatch :=
  [⟨"order", "costlier", 100⟩, ⟨"order", "costly", 0⟩]

/-- The search in the book of costly offers, which comes upon the matches in their order. -/
theorem findMatches_costly :
    (costly.foldl change empty).findMatches true [costlierOffer, costlyOffer] "order" =
      some (.ok costlyMatches) := by
  have hpresent : (costly.foldl change empty).getOrder "order" = some generousOrder := rfl
  have hcollected : collectMatches true "order" generousOrder [costlierOffer, costlyOffer] =
      some costlyMatches := by
    decide +kernel
  have hsorted : costlyMatches.Pairwise fun first second ↦
      decide (second.score ≤ first.score) = true := by
    decide
  rw [findMatches, hpresent]
  dsimp only
  rw [hcollected, Option.map_some, List.mergeSort_of_pairwise hsorted]

/-- The equivalence applies to the book of costly offers. -/
theorem findMatches_ranked_iff_costly :
    RankedByScore (costly.foldl change empty) costlyMatches ↔
      ∀ offerId offer, (costly.foldl change empty).getOffer offerId = some offer →
        admits true generousOrder offer = some true → Rankable offer :=
  findMatches_ranked_iff true costly [costlierOffer, costlyOffer] (.of_eq rfl) "order"
    generousOrder rfl costlyMatches findMatches_costly

/-- Of two offers of one reputation, the one at the higher price comes first. -/
theorem costlier_offer_outranks :
    (costly.foldl change empty).findMatches true [costlierOffer, costlyOffer] "order" =
        some (.ok costlyMatches) ∧
      ¬ RankedByScore (costly.foldl change empty) costlyMatches := by
  refine ⟨findMatches_costly, fun hranked ↦ ?_⟩
  have hworse := hranked.monotone ⟨"order", "costly", 0⟩ (by decide) ⟨"order", "costlier", 100⟩
    (by decide) costlyOffer costlierOffer rfl rfl (by decide) (by decide)
  exact absurd hworse (by decide)

end OrderBook

end Clawbernetes.MoltMarket
