import Clawbernetes.Library.FiniteTable
import Clawbernetes.Library.MachineWords
import Clawbernetes.Library.Runs
import Mathlib.Data.UInt

/-!
# The order book of the marketplace

`orderbook.rs`. A book holds two hash maps, the buyers' orders and the providers' offers, each under
the identifier its record carries. `findMatches` goes over the offers, keeps those that satisfy the
order and whose total price is within the buyer's limit, and sorts the matches by their score.

The total price is a product of a 64-bit price and a 32-bit number of hours. It leaves 64 bits, and
no profile of the workspace says what happens then: a build with overflow checks panics, a build
without them wraps. `overflowChecks` is which of the two, and the outer `Option` of a result is the
panic. The order in which a hash map is gone through is arbitrary, so it is an argument as well: any
arrangement of the values.

`findMatches_exact_iff` says of every book built by inserts and removals when its matches are
exactly those of the unbounded product.
-/

set_option autoImplicit false
set_option relaxedAutoImplicit false

namespace Clawbernetes.MoltMarket

open Library.FiniteTable Library.MachineWords Library.Runs

/-- `JobRequirements`. -/
structure JobRequirements where
  minGpus : UInt32
  gpuModel : Option String
  minMemoryGb : UInt32
  maxDurationHours : UInt32
  deriving DecidableEq

/-- `JobOrder`. -/
structure JobOrder where
  id : String
  buyer : String
  requirements : JobRequirements
  maxPrice : UInt64
  createdAt : ℤ
  deriving DecidableEq

/-- `GpuCapacity`. -/
structure GpuCapacity where
  count : UInt32
  model : String
  memoryGb : UInt32
  deriving DecidableEq

/-- `CapacityOffer`. -/
structure CapacityOffer where
  id : String
  provider : String
  gpus : GpuCapacity
  pricePerHour : UInt64
  reputation : UInt32
  deriving DecidableEq

/-- `CapacityOffer::satisfies`. -/
def CapacityOffer.satisfies (offer : CapacityOffer) (requirements : JobRequirements) : Bool :=
  if offer.gpus.count < requirements.minGpus then false
  else if requirements.gpuModel.any (offer.gpus.model ≠ ·) then false
  else if offer.gpus.memoryGb < requirements.minMemoryGb then false
  else true

/-- `OrderMatch`. -/
structure OrderMatch where
  orderId : String
  offerId : String
  score : UInt32
  deriving DecidableEq

/-- The variant of `MarketError` that the order book returns. -/
inductive OrderBookError where
  | orderNotFound (orderId : String)
  deriving DecidableEq

/-- `OrderBook`. -/
structure OrderBook where
  orders : Table String JobOrder
  offers : Table String CapacityOffer

namespace OrderBook

/-- `OrderBook::new`. -/
def empty : OrderBook := ⟨∅, ∅⟩

/-- `OrderBook::insert_order`. -/
def insertOrder (book : OrderBook) (order : JobOrder) : OrderBook :=
  { book with orders := book.orders.insert order.id order }

/-- `OrderBook::insert_offer`. -/
def insertOffer (book : OrderBook) (offer : CapacityOffer) : OrderBook :=
  { book with offers := book.offers.insert offer.id offer }

/-- `OrderBook::get_order`. -/
def getOrder (book : OrderBook) (orderId : String) : Option JobOrder :=
  book.orders.lookup orderId

/-- `OrderBook::get_offer`. -/
def getOffer (book : OrderBook) (offerId : String) : Option CapacityOffer :=
  book.offers.lookup offerId

/-- `OrderBook::remove_order`. -/
def removeOrder (book : OrderBook) (orderId : String) : OrderBook :=
  { book with orders := book.orders.erase orderId }

/-- `OrderBook::remove_offer`. -/
def removeOffer (book : OrderBook) (offerId : String) : OrderBook :=
  { book with offers := book.offers.erase offerId }

/-- The offers of a book, as `values` lists them. -/
def offerValues (book : OrderBook) : List CapacityOffer :=
  book.offers.entries.map fun entry ↦ entry.2

end OrderBook

/-! ### Matching -/

/-- The product `price_per_hour * u64::from(max_duration_hours)`: a panic on overflow in a build
with overflow checks, and the low 64 bits in a build without them. -/
def totalPrice (overflowChecks : Bool) (price : UInt64) (hours : UInt32) : Option UInt64 :=
  if overflowChecks && 2 ^ 64 ≤ price.toNat * hours.toNat then none
  else some (price * hours.toUInt64)

/-- The filter of `find_matches`. The price is computed only for an offer that satisfies the
requirements. -/
def admits (overflowChecks : Bool) (order : JobOrder) (offer : CapacityOffer) : Option Bool :=
  if offer.satisfies order.requirements then
    (totalPrice overflowChecks offer.pricePerHour order.requirements.maxDurationHours).map
      fun price ↦ decide (price ≤ order.maxPrice)
  else some false

/-- The match of an offer: its reputation less a tenth of its price, truncated to 32 bits. -/
def matchOf (orderId : String) (offer : CapacityOffer) : OrderMatch where
  orderId := orderId
  offerId := offer.id
  score := saturatingSub32 offer.reputation (offer.pricePerHour / 10).toUInt32

/-- The filtered and mapped offers of `find_matches`, in the order they are gone through. -/
def collectMatches (overflowChecks : Bool) (orderId : String) (order : JobOrder) :
    List CapacityOffer → Option (List OrderMatch)
  | [] => some []
  | offer :: rest =>
    match admits overflowChecks order offer with
    | none => none
    | some admitted =>
      (collectMatches overflowChecks orderId order rest).map fun found ↦
        if admitted then matchOf orderId offer :: found else found

/-- `OrderBook::find_matches`, where the map of offers is gone through as `offers` lists it. The
stable sort is by descending score. -/
def OrderBook.findMatches (overflowChecks : Bool) (book : OrderBook) (offers : List CapacityOffer)
    (orderId : String) : Option (Except OrderBookError (List OrderMatch)) :=
  match book.getOrder orderId with
  | none => some (.error (.orderNotFound orderId))
  | some order =>
    (collectMatches overflowChecks orderId order offers).map fun found ↦
      .ok (found.mergeSort fun first second ↦ decide (second.score ≤ first.score))

/-- The price of an offer for the whole duration of an order, in unbounded integers. -/
def exactPrice (order : JobOrder) (offer : CapacityOffer) : ℕ :=
  offer.pricePerHour.toNat * order.requirements.maxDurationHours.toNat

/-- The offer satisfies the order, and the buyer can afford it. -/
def Affordable (order : JobOrder) (offer : CapacityOffer) : Prop :=
  offer.satisfies order.requirements = true ∧ exactPrice order offer ≤ order.maxPrice.toNat

/-- The price of a satisfying offer fits into 64 bits, or its low 64 bits are above the limit too in
a build that wraps. -/
def Priceable (overflowChecks : Bool) (order : JobOrder) (offer : CapacityOffer) : Prop :=
  offer.satisfies order.requirements = true →
    exactPrice order offer < 2 ^ 64 ∨
      overflowChecks = false ∧ order.maxPrice.toNat < exactPrice order offer % 2 ^ 64

/-- The matches are exactly the affordable current offers, each once. -/
structure MatchesExactly (book : OrderBook) (orderId : String) (order : JobOrder)
    (found : List OrderMatch) : Prop where
  sound : ∀ item ∈ found, item.orderId = orderId ∧
    ∃ offer, book.getOffer item.offerId = some offer ∧ Affordable order offer
  once : ∀ offerId offer, book.getOffer offerId = some offer → Affordable order offer →
    (found.map OrderMatch.offerId).count offerId = 1

/-! ### What the filter decides -/

/-- The low 64 bits of a total price. -/
theorem toNat_price_mul (price : UInt64) (hours : UInt32) :
    (price * hours.toUInt64).toNat = price.toNat * hours.toNat % 2 ^ 64 := by
  rw [UInt64.toNat_mul, UInt32.toNat_toUInt64]

/-- A total price that fits into 64 bits is exact. -/
theorem totalPrice_of_lt (overflowChecks : Bool) {price : UInt64} {hours : UInt32}
    (hfits : price.toNat * hours.toNat < 2 ^ 64) :
    ∃ total, totalPrice overflowChecks price hours = some total ∧
      total.toNat = price.toNat * hours.toNat := by
  refine ⟨price * hours.toUInt64, ?_, ?_⟩
  · rw [totalPrice, if_neg]
    rw [decide_eq_false (Nat.not_le.mpr hfits), Bool.and_false]
    exact Bool.false_ne_true
  · rw [toNat_price_mul, Nat.mod_eq_of_lt hfits]

/-- A total price that leaves 64 bits is a panic in a build with overflow checks. -/
theorem totalPrice_panics {price : UInt64} {hours : UInt32}
    (hleaves : 2 ^ 64 ≤ price.toNat * hours.toNat) : totalPrice true price hours = none := by
  rw [totalPrice, if_pos]
  rw [decide_eq_true hleaves]
  rfl

/-- The filter decides on an offer as unbounded integers do if and only if its price is within 64
bits or wraps to one above the limit. -/
theorem admits_eq_iff (overflowChecks : Bool) (order : JobOrder) (offer : CapacityOffer)
    [Decidable (Affordable order offer)] :
    admits overflowChecks order offer = some (decide (Affordable order offer)) ↔
      Priceable overflowChecks order offer := by
  have hlimit := order.maxPrice.toNat_lt
  unfold admits Priceable
  by_cases hsatisfies : offer.satisfies order.requirements = true
  · have haffordable : Affordable order offer ↔
        exactPrice order offer ≤ order.maxPrice.toNat := and_iff_right hsatisfies
    rw [if_pos hsatisfies, forall_prop_of_true hsatisfies]
    by_cases hfits : exactPrice order offer < 2 ^ 64
    · obtain ⟨total, htotal, hexact⟩ := totalPrice_of_lt overflowChecks hfits
      refine iff_of_true ?_ (Or.inl hfits)
      rw [htotal, Option.map_some, decide_eq_decide.mpr]
      rw [haffordable, UInt64.le_iff_toNat_le, hexact]
      rfl
    · have hhigh : ¬ Affordable order offer := by rw [haffordable]; omega
      rw [decide_eq_false hhigh]
      cases overflowChecks with
      | true =>
        rw [totalPrice_panics (Nat.not_lt.mp hfits)]
        exact iff_of_false nofun fun hor ↦ hor.elim hfits fun hwraps ↦ nomatch hwraps.1
      | false =>
        change some (decide (offer.pricePerHour * order.requirements.maxDurationHours.toUInt64 ≤
          order.maxPrice)) = some false ↔ _
        rw [Option.some_inj, decide_eq_false_iff_not, UInt64.le_iff_toNat_le, toNat_price_mul,
          Nat.not_le]
        exact ⟨fun habove ↦ Or.inr ⟨rfl, habove⟩, fun hor ↦ (hor.resolve_left hfits).2⟩
  · rw [if_neg hsatisfies, decide_eq_false fun haffordable ↦ hsatisfies haffordable.1]
    exact iff_of_true rfl fun htrue ↦ absurd htrue hsatisfies

/-- An offer that the filter does not decide as unbounded integers do is beyond the buyer's means
and makes the filter panic or is admitted. -/
theorem admits_of_not_priceable {overflowChecks : Bool} {order : JobOrder} {offer : CapacityOffer}
    (hunpriceable : ¬ Priceable overflowChecks order offer) :
    ¬ Affordable order offer ∧
      (admits overflowChecks order offer = none ∨
        admits overflowChecks order offer = some true) := by
  classical
  have hhigh : ¬ Affordable order offer := by
    intro haffordable
    have hlimit := order.maxPrice.toNat_lt
    exact hunpriceable fun _ ↦ Or.inl (haffordable.2.trans_lt hlimit)
  refine ⟨hhigh, ?_⟩
  have hverdict := (admits_eq_iff overflowChecks order offer).not.mpr hunpriceable
  rw [decide_eq_false hhigh] at hverdict
  cases hadmits : admits overflowChecks order offer with
  | none => exact Or.inl rfl
  | some admitted =>
    cases admitted with
    | true => exact Or.inr rfl
    | false => exact absurd hadmits hverdict

/-! ### The collected matches -/

/-- Going through the offers without a panic collects the matches of the admitted ones. -/
theorem collectMatches_eq_some {overflowChecks : Bool} {orderId : String} {order : JobOrder}
    {offers : List CapacityOffer} {found : List OrderMatch}
    (hcollected : collectMatches overflowChecks orderId order offers = some found) :
    found = (offers.filter fun offer ↦ admits overflowChecks order offer == some true).map
        (matchOf orderId) ∧
      ∀ offer ∈ offers, admits overflowChecks order offer ≠ none := by
  induction offers generalizing found with
  | nil =>
    obtain rfl : [] = found := Option.some_inj.mp hcollected
    exact ⟨rfl, nofun⟩
  | cons offer rest ih =>
    rw [collectMatches] at hcollected
    cases hadmits : admits overflowChecks order offer with
    | none => simp [hadmits] at hcollected
    | some admitted =>
      simp only [hadmits, Option.map_eq_some_iff] at hcollected
      obtain ⟨later, hlater, rfl⟩ := hcollected
      obtain ⟨hfilter, hnone⟩ := ih hlater
      refine ⟨?_, ?_⟩
      · cases admitted <;> simp [hadmits, hfilter]
      · rw [List.forall_mem_cons]
        exact ⟨by simp [hadmits], hnone⟩

/-- Going through the offers panics only at an offer whose price is a panic. -/
theorem collectMatches_eq_none {overflowChecks : Bool} {orderId : String} {order : JobOrder}
    {offers : List CapacityOffer}
    (hpanic : collectMatches overflowChecks orderId order offers = none) :
    ∃ offer ∈ offers, admits overflowChecks order offer = none := by
  induction offers with
  | nil => cases hpanic
  | cons offer rest ih =>
    rw [collectMatches] at hpanic
    cases hadmits : admits overflowChecks order offer with
    | none => exact ⟨offer, List.mem_cons_self, hadmits⟩
    | some admitted =>
      simp only [hadmits, Option.map_eq_none_iff] at hpanic
      obtain ⟨other, hother, hnone⟩ := ih hpanic
      exact ⟨other, List.mem_cons_of_mem offer hother, hnone⟩

namespace OrderBook

/-! ### Books and their histories -/

/-- Every offer is stored under its own identifier. -/
def Keyed (book : OrderBook) : Prop :=
  ∀ offerId offer, book.getOffer offerId = some offer → offer.id = offerId

/-- A change of a book. -/
inductive Change where
  | insertOrder (order : JobOrder)
  | insertOffer (offer : CapacityOffer)
  | removeOrder (orderId : String)
  | removeOffer (offerId : String)

/-- The book after a change. -/
def change (book : OrderBook) : Change → OrderBook
  | .insertOrder order => book.insertOrder order
  | .insertOffer offer => book.insertOffer offer
  | .removeOrder orderId => book.removeOrder orderId
  | .removeOffer offerId => book.removeOffer offerId

/-- Every change keeps the offers under their own identifiers. -/
theorem keyed_change {book : OrderBook} (hkeyed : book.Keyed) (next : Change) :
    (book.change next).Keyed := by
  cases next with
  | insertOrder order | removeOrder orderId => exact hkeyed
  | insertOffer offer => exact (forall_lookup_insert_iff hkeyed).mpr rfl
  | removeOffer offerId => exact fun _ _ hfound ↦ forall_lookup_erase hkeyed offerId _ _ hfound

/-- Every history of changes keeps the offers under their own identifiers. -/
theorem keyed_run (changes : List Change) : (changes.foldl change empty).Keyed := by
  have hempty : empty.Keyed := fun offerId offer hfound ↦ by
    rw [getOffer, empty, AList.lookup_empty] at hfound
    cases hfound
  exact (always_of_step hempty (fun _ next hkeyed ↦ keyed_change hkeyed next) changes).last

/-- The values of a book are its current offers. -/
theorem mem_offerValues {book : OrderBook} (hkeyed : book.Keyed) (offer : CapacityOffer) :
    offer ∈ book.offerValues ↔ book.getOffer offer.id = some offer := by
  unfold offerValues
  rw [List.mem_map]
  constructor
  · rintro ⟨⟨offerId, value⟩, hentry, rfl⟩
    have hfound : book.getOffer offerId = some value := AList.mem_lookup_iff.mpr hentry
    rw [hkeyed offerId value hfound]
    exact hfound
  · intro hfound
    exact ⟨⟨offer.id, offer⟩, AList.mem_lookup_iff.mp hfound, rfl⟩

/-- No two current offers have the same identifier. -/
theorem nodup_offerValues {book : OrderBook} (hkeyed : book.Keyed) :
    (book.offerValues.map CapacityOffer.id).Nodup := by
  have hkeys : book.offerValues.map CapacityOffer.id = book.offers.entries.keys := by
    unfold offerValues List.keys
    rw [List.map_map]
    refine List.map_congr_left fun entry hentry ↦ ?_
    exact hkeyed entry.1 entry.2 (AList.mem_lookup_iff.mpr hentry)
  rw [hkeys]
  exact book.offers.nodupKeys

/-! ### Exact matches -/

/-- The matches of a list of offers are exact when the filter lets through the affordable ones. -/
theorem matchesExactly_of_admits {book : OrderBook} {orderId : String} {order : JobOrder}
    {offers : List CapacityOffer} {found : List OrderMatch} {admitted : CapacityOffer → Bool}
    (hkeyed : book.Keyed) (hoffers : offers.Perm book.offerValues)
    (hfound : found.Perm ((offers.filter admitted).map (matchOf orderId)))
    (hadmitted : ∀ offer ∈ offers, admitted offer = true ↔ Affordable order offer) :
    MatchesExactly book orderId order found := by
  have hcurrent : ∀ offer, offer ∈ offers ↔ book.getOffer offer.id = some offer :=
    fun offer ↦ hoffers.mem_iff.trans (mem_offerValues hkeyed offer)
  refine ⟨fun item hitem ↦ ?_, fun offerId offer hoffer haffordable ↦ ?_⟩
  · obtain ⟨offer, hfiltered, rfl⟩ := List.mem_map.mp (hfound.mem_iff.mp hitem)
    obtain ⟨hmem, htrue⟩ := List.mem_filter.mp hfiltered
    exact ⟨rfl, offer, (hcurrent offer).mp hmem, (hadmitted offer hmem).mp htrue⟩
  · obtain rfl : offer.id = offerId := hkeyed offerId offer hoffer
    have hids : ((offers.filter admitted).map CapacityOffer.id).Nodup :=
      ((hoffers.map _).nodup_iff.mpr (nodup_offerValues hkeyed)).sublist
        (List.filter_sublist.map _)
    have hmem := (hcurrent offer).mpr hoffer
    have hid : offer.id ∈ (offers.filter admitted).map CapacityOffer.id :=
      List.mem_map_of_mem (List.mem_filter.mpr ⟨hmem, (hadmitted offer hmem).mpr haffordable⟩)
    rw [(hfound.map OrderMatch.offerId).count_eq, List.map_map]
    exact List.count_eq_one_of_mem hids hid

/-- In a book that stores every offer under its own identifier, the matches of a present order are
exact if and only if every current offer is priceable. -/
theorem findMatches_iff_of_keyed (overflowChecks : Bool) {book : OrderBook} (hkeyed : book.Keyed)
    {offers : List CapacityOffer} (hoffers : offers.Perm book.offerValues) {orderId : String}
    {order : JobOrder} (hpresent : book.getOrder orderId = some order) :
    (∃ found, book.findMatches overflowChecks offers orderId = some (.ok found) ∧
        MatchesExactly book orderId order found) ↔
      ∀ offerId offer, book.getOffer offerId = some offer →
        Priceable overflowChecks order offer := by
  classical
  have hcurrent : ∀ offer, offer ∈ offers ↔ book.getOffer offer.id = some offer :=
    fun offer ↦ hoffers.mem_iff.trans (mem_offerValues hkeyed offer)
  unfold findMatches
  rw [hpresent]
  simp only [Option.map_eq_some_iff, Except.ok.injEq]
  constructor
  · rintro ⟨_, ⟨unsorted, hcollected, rfl⟩, hexact⟩ offerId offer hoffer
    obtain ⟨hfilter, hnone⟩ := collectMatches_eq_some hcollected
    obtain rfl : offer.id = offerId := hkeyed offerId offer hoffer
    have hmem := (hcurrent offer).mpr hoffer
    -- An offer that is not priceable would panic or stand among the matches.
    by_contra hunpriceable
    obtain ⟨hhigh, hpanics | hadmitted⟩ := admits_of_not_priceable hunpriceable
    · exact hnone offer hmem hpanics
    · have hitem : matchOf orderId offer ∈ unsorted.mergeSort
          fun first second ↦ decide (second.score ≤ first.score) := by
        rw [List.mem_mergeSort, hfilter]
        exact List.mem_map_of_mem (List.mem_filter.mpr ⟨hmem, by rw [hadmitted]; rfl⟩)
      obtain ⟨-, other, hother, haffordable⟩ := hexact.sound _ hitem
      obtain rfl : offer = other := Option.some_inj.mp (hoffer.symm.trans hother)
      exact hhigh haffordable
  · intro hpriceable
    have hverdict : ∀ offer ∈ offers,
        admits overflowChecks order offer = some (decide (Affordable order offer)) :=
      fun offer hmem ↦ (admits_eq_iff overflowChecks order offer).mpr
        (hpriceable offer.id offer ((hcurrent offer).mp hmem))
    cases hcollected : collectMatches overflowChecks orderId order offers with
    | none =>
      obtain ⟨offer, hmem, hpanics⟩ := collectMatches_eq_none hcollected
      cases hpanics.symm.trans (hverdict offer hmem)
    | some unsorted =>
      refine ⟨_, ⟨unsorted, rfl, rfl⟩, matchesExactly_of_admits hkeyed hoffers
        ((List.mergeSort_perm _ _).trans (.of_eq (collectMatches_eq_some hcollected).1)) ?_⟩
      intro offer hmem
      simp [hverdict offer hmem]

/-- For every book built by inserts, replacements and removals and every order in it, whichever way
the map of offers is gone through: the search returns exactly one match for each current offer that
satisfies the order at a price within the limit, and no other, if and only if the price of every
satisfying current offer fits into 64 bits, or wraps to one above the limit in a build without
overflow checks. -/
theorem findMatches_exact_iff (overflowChecks : Bool) (changes : List Change)
    (offers : List CapacityOffer)
    (hoffers : offers.Perm (changes.foldl change empty).offerValues) (orderId : String)
    (order : JobOrder) (hpresent : (changes.foldl change empty).getOrder orderId = some order) :
    (∃ found,
        (changes.foldl change empty).findMatches overflowChecks offers orderId =
            some (.ok found) ∧
          MatchesExactly (changes.foldl change empty) orderId order found) ↔
      ∀ offerId offer, (changes.foldl change empty).getOffer offerId = some offer →
        Priceable overflowChecks order offer :=
  findMatches_iff_of_keyed overflowChecks (keyed_run changes) hoffers hpresent

/-- An order for two hours and at most a hundred tokens. -/
def smallOrder : JobOrder :=
  ⟨"order", "buyer", ⟨1, none, 0, 2⟩, 100, 0⟩

/-- An offer at `2 ^ 63` tokens an hour. -/
def hugeOffer : CapacityOffer :=
  ⟨"offer", "provider", ⟨1, "A100", 80⟩, 2 ^ 63, 500⟩

/-- The book with the small order and the huge offer. -/
def overflowing : List Change := [.insertOrder smallOrder, .insertOffer hugeOffer]

/-- The equivalence applies to the book with the small order and the huge offer. -/
theorem findMatches_exact_iff_overflowing :
    (∃ found,
        (overflowing.foldl change empty).findMatches false [hugeOffer] "order" =
            some (.ok found) ∧
          MatchesExactly (overflowing.foldl change empty) "order" smallOrder found) ↔
      ∀ offerId offer, (overflowing.foldl change empty).getOffer offerId = some offer →
        Priceable false smallOrder offer :=
  findMatches_exact_iff false overflowing [hugeOffer] (.of_eq rfl) "order" smallOrder rfl

/-- Two hours at `2 ^ 63` tokens panic in a build with overflow checks, and are free of charge in a
build without them. -/
theorem huge_offer_overflows :
    (overflowing.foldl change empty).findMatches true [hugeOffer] "order" = none ∧
      ∃ item, (overflowing.foldl change empty).findMatches false [hugeOffer] "order" =
          some (.ok [item]) ∧
        ¬ MatchesExactly (overflowing.foldl change empty) "order" smallOrder [item] := by
  refine ⟨by decide +kernel, matchOf "order" hugeOffer, by decide +kernel, fun hexact ↦ ?_⟩
  obtain ⟨-, offer, hoffer, haffordable⟩ := hexact.sound _ (List.mem_singleton_self _)
  obtain rfl : hugeOffer = offer := Option.some_inj.mp hoffer
  exact absurd haffordable.2 (by decide +kernel)

end OrderBook

end Clawbernetes.MoltMarket
