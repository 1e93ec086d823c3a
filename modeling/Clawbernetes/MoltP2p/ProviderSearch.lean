import Clawbernetes.Library.CheckedWords
import Clawbernetes.Library.FiniteTable
import Clawbernetes.MoltP2p.Announcement
import Mathlib.Data.List.Infix
import Mathlib.Data.UInt

/-!
# Searching for providers

`find_providers` of `network.rs` walks the announcements that were received, in the order of a hash
map, and returns those that have not expired and match the requirements. The walk and the reading of
the wall clock for each announcement come from outside, as a `CapacityWalk`; so does the table that
`str::to_lowercase` reads.

The number of GPUs is a sum of 32-bit words over the list that the announcement brings. In a build
with overflow checks a sum that does not fit is a panic, in a build without them it wraps;
`overflowChecks` is which of the two. `Meets` is what matching should mean, with the sum in `ℕ`, and
`search_exact_iff` says for which announcements `matches_requirements` computes it, and for which
received announcements a search finds the providers it should.
-/

set_option autoImplicit false
set_option relaxedAutoImplicit false

namespace Clawbernetes.MoltP2p

open Library Library.FiniteTable

/-! ### Requirements -/

/-- `CapacityRequirements`. -/
structure CapacityRequirements where
  minVramGb : Option UInt32
  gpuModel : Option String
  minGpuCount : Option UInt32
  jobType : Option String
  maxGpuHourCents : Option UInt64
  deriving DecidableEq

/-- `CapacityRequirements::any`. -/
def CapacityRequirements.any : CapacityRequirements := ⟨none, none, none, none, none⟩

section Matching

variable (overflowChecks : Bool) (toLowercase : String → String) (ann : CapacityAnnouncement)
  (reqs : CapacityRequirements)

/-- The check of the VRAM requirement. -/
def hasSufficientVram : Bool :=
  reqs.minVramGb.all fun minVram ↦ ann.gpus.any fun gpu ↦ minVram ≤ gpu.vramGb

/-- The check of the GPU model requirement. -/
def hasModel : Bool :=
  reqs.gpuModel.all fun model ↦
    ann.gpus.any fun gpu ↦ (toLowercase model).toList <:+: (toLowercase gpu.model).toList

/-- The counts of the GPUs, as words. -/
def gpuCounts : List (BitVec 32) := ann.gpus.map fun gpu ↦ gpu.count.toBitVec

/-- The check of the GPU count requirement. The sum may panic. -/
def hasGpuCount : Option Bool :=
  match reqs.minGpuCount with
  | none => some true
  | some minCount =>
    (CheckedWords.sum overflowChecks (gpuCounts ann)).map fun totalGpus ↦
      !decide (totalGpus < minCount.toBitVec)

/-- The check of the job type requirement. -/
def hasJobType : Bool := reqs.jobType.all fun jobType ↦ ann.jobTypes.contains jobType

/-- The check of the price requirement. -/
def withinPrice : Bool :=
  reqs.maxGpuHourCents.all fun maxPrice ↦ !decide (maxPrice < ann.pricing.gpuHourCents)

/-- `matches_requirements`. -/
def matchesRequirements : Option Bool :=
  if !hasSufficientVram ann reqs then some false
  else if !hasModel toLowercase ann reqs then some false
  else (hasGpuCount overflowChecks ann reqs).map fun enough ↦
    if !enough then false else if !hasJobType ann reqs then false else withinPrice ann reqs

/-- The GPUs of an announcement. -/
def totalGpus : ℕ := (ann.gpus.map fun gpu ↦ gpu.count.toNat).sum

/-- Every requirement that is given holds of the announcement, its GPUs being counted in `ℕ`. -/
structure Meets : Prop where
  vram : ∀ minVram, reqs.minVramGb = some minVram → ∃ gpu ∈ ann.gpus, minVram ≤ gpu.vramGb
  model : ∀ model, reqs.gpuModel = some model →
    ∃ gpu ∈ ann.gpus, (toLowercase model).toList <:+: (toLowercase gpu.model).toList
  count : ∀ minCount, reqs.minGpuCount = some minCount → minCount.toNat ≤ totalGpus ann
  jobType : ∀ jobType, reqs.jobType = some jobType → jobType ∈ ann.jobTypes
  price : ∀ maxPrice, reqs.maxGpuHourCents = some maxPrice → ann.pricing.gpuHourCents ≤ maxPrice

/-- The announcement is matched without a panic, and to the right result. -/
def MatchedExactly : Prop :=
  ∃ result, matchesRequirements overflowChecks toLowercase ann reqs = some result ∧
    (result = true ↔ Meets toLowercase ann reqs)

/-- The sum of the GPUs fits into 32 bits if it is computed; or it wraps to no effect, because what
is left of it is still as much as is required or a later requirement is not met. -/
def CountFits : Prop :=
  ∀ minCount, reqs.minGpuCount = some minCount → hasSufficientVram ann reqs = true →
    hasModel toLowercase ann reqs = true →
      totalGpus ann < 2 ^ 32 ∨ overflowChecks = false ∧
        (minCount.toNat ≤ totalGpus ann % 2 ^ 32 ∨ hasJobType ann reqs = false ∨
          withinPrice ann reqs = false)

end Matching

section Exactness

variable {overflowChecks : Bool} {toLowercase : String → String} {ann : CapacityAnnouncement}
  {reqs : CapacityRequirements}

/-- The sum of the counts, in both builds. -/
theorem sum_gpuCounts : CheckedWords.sum overflowChecks (gpuCounts ann) =
    if overflowChecks && decide (2 ^ 32 ≤ totalGpus ann) then none
    else some (.ofNat 32 (totalGpus ann)) := by
  have htotal : ((gpuCounts ann).map BitVec.toNat).sum = totalGpus ann := by
    rw [gpuCounts, List.map_map]
    rfl
  rw [CheckedWords.sum_eq, htotal]

/-- A wrapped sum against the required count. -/
theorem not_lt_ofNat_iff (total : ℕ) (minCount : UInt32) :
    (!decide (BitVec.ofNat 32 total < minCount.toBitVec)) = true ↔
      minCount.toNat ≤ total % 2 ^ 32 := by
  rw [Bool.not_eq_true', decide_eq_false_iff_not, BitVec.lt_def, BitVec.toNat_ofNat,
    Nat.not_lt]
  rfl

/-- The checks other than that of the count say what they should. -/
theorem meets_iff : Meets toLowercase ann reqs ↔
    hasSufficientVram ann reqs = true ∧ hasModel toLowercase ann reqs = true ∧
      (∀ minCount, reqs.minGpuCount = some minCount → minCount.toNat ≤ totalGpus ann) ∧
      hasJobType ann reqs = true ∧ withinPrice ann reqs = true := by
  have hvram : hasSufficientVram ann reqs = true ↔
      ∀ minVram, reqs.minVramGb = some minVram → ∃ gpu ∈ ann.gpus, minVram ≤ gpu.vramGb := by
    simp only [hasSufficientVram, Option.all_eq_true, List.any_eq_true, decide_eq_true_eq]
  have hmodel : hasModel toLowercase ann reqs = true ↔ ∀ model, reqs.gpuModel = some model →
      ∃ gpu ∈ ann.gpus, (toLowercase model).toList <:+: (toLowercase gpu.model).toList := by
    simp only [hasModel, Option.all_eq_true, List.any_eq_true, decide_eq_true_eq]
  have hjobType : hasJobType ann reqs = true ↔
      ∀ jobType, reqs.jobType = some jobType → jobType ∈ ann.jobTypes := by
    simp only [hasJobType, Option.all_eq_true, List.contains_iff_mem]
  have hprice : withinPrice ann reqs = true ↔ ∀ maxPrice,
      reqs.maxGpuHourCents = some maxPrice → ann.pricing.gpuHourCents ≤ maxPrice := by
    simp only [withinPrice, Option.all_eq_true, Bool.not_eq_true', decide_eq_false_iff_not,
      UInt64.not_lt]
  rw [hvram, hmodel, hjobType, hprice]
  exact ⟨fun hmeets ↦ ⟨hmeets.vram, hmeets.model, hmeets.count, hmeets.jobType, hmeets.price⟩,
    fun ⟨hvram, hmodel, hcount, hjobType, hprice⟩ ↦ ⟨hvram, hmodel, hcount, hjobType, hprice⟩⟩

instance : Decidable (Meets toLowercase ann reqs) :=
  decidable_of_iff
    (hasSufficientVram ann reqs = true ∧ hasModel toLowercase ann reqs = true ∧
      (reqs.minGpuCount.all fun minCount ↦ decide (minCount.toNat ≤ totalGpus ann)) = true ∧
      hasJobType ann reqs = true ∧ withinPrice ann reqs = true)
    (by rw [meets_iff, Option.all_eq_true]; simp only [decide_eq_true_eq])

/-- Without a required count nothing is summed. -/
theorem matchedExactly_of_none (hnone : reqs.minGpuCount = none) :
    MatchedExactly overflowChecks toLowercase ann reqs := by
  unfold MatchedExactly
  rw [meets_iff]
  unfold matchesRequirements hasGpuCount
  rw [hnone]
  cases hasSufficientVram ann reqs <;> cases hasModel toLowercase ann reqs <;>
    cases hasJobType ann reqs <;> simp

/-- An announcement that an earlier check refuses is refused before anything is summed. -/
theorem matchedExactly_of_refused (hrefused : hasSufficientVram ann reqs = false ∨
    hasModel toLowercase ann reqs = false) :
    MatchedExactly overflowChecks toLowercase ann reqs := by
  refine ⟨false, ?_, iff_of_false Bool.false_ne_true fun hmeets ↦ ?_⟩
  · unfold matchesRequirements
    rcases hrefused with hvram | hmodel
    · rw [hvram]
      rfl
    · rw [hmodel]
      cases hasSufficientVram ann reqs <;> rfl
  · obtain ⟨hvram, hmodel, -⟩ := meets_iff.mp hmeets
    rw [hvram, hmodel] at hrefused
    rcases hrefused with hfalse | hfalse
    · cases hfalse
    · cases hfalse

/-- What is left of the check when the count is reached. -/
theorem matchesRequirements_of_reached {minCount : UInt32}
    (hcount : reqs.minGpuCount = some minCount) (hvram : hasSufficientVram ann reqs = true)
    (hmodel : hasModel toLowercase ann reqs = true) :
    matchesRequirements overflowChecks toLowercase ann reqs =
      if overflowChecks && decide (2 ^ 32 ≤ totalGpus ann) then none
      else some (decide (minCount.toNat ≤ totalGpus ann % 2 ^ 32) &&
        (hasJobType ann reqs && withinPrice ann reqs)) := by
  unfold matchesRequirements hasGpuCount
  rw [hvram, hmodel, hcount, Bool.not_true, if_neg Bool.false_ne_true, if_neg Bool.false_ne_true]
  dsimp only
  rw [sum_gpuCounts]
  by_cases hoverflow : (overflowChecks && decide (2 ^ 32 ≤ totalGpus ann)) = true
  · rw [if_pos hoverflow, if_pos hoverflow]
    rfl
  · have henough : (!decide (BitVec.ofNat 32 (totalGpus ann) < minCount.toBitVec)) =
        decide (minCount.toNat ≤ totalGpus ann % 2 ^ 32) := by
      rw [Bool.eq_iff_iff, not_lt_ofNat_iff, decide_eq_true_eq]
    rw [if_neg hoverflow, if_neg hoverflow, Option.map_some, Option.map_some, henough]
    cases decide (minCount.toNat ≤ totalGpus ann % 2 ^ 32) <;>
      cases hasJobType ann reqs <;> rfl

/-- When the count is reached, an announcement is matched exactly if and only if its GPUs fit into
32 bits, or the wrapped sum has no effect. -/
theorem matchedExactly_iff_of_reached {minCount : UInt32}
    (hcount : reqs.minGpuCount = some minCount) (hvram : hasSufficientVram ann reqs = true)
    (hmodel : hasModel toLowercase ann reqs = true) :
    MatchedExactly overflowChecks toLowercase ann reqs ↔
      totalGpus ann < 2 ^ 32 ∨ overflowChecks = false ∧
        (minCount.toNat ≤ totalGpus ann % 2 ^ 32 ∨ hasJobType ann reqs = false ∨
          withinPrice ann reqs = false) := by
  have hmeets : Meets toLowercase ann reqs ↔ minCount.toNat ≤ totalGpus ann ∧
      (hasJobType ann reqs && withinPrice ann reqs) = true := by
    rw [meets_iff, hvram, hmodel, hcount, Bool.and_eq_true]
    simp
  have hlater : (hasJobType ann reqs = false ∨ withinPrice ann reqs = false) ↔
      (hasJobType ann reqs && withinPrice ann reqs) = false := by
    rw [Bool.and_eq_false_iff]
  rw [hlater, MatchedExactly, matchesRequirements_of_reached hcount hvram hmodel, hmeets]
  by_cases hsmall : totalGpus ann < 2 ^ 32
  · rw [decide_eq_false (Nat.not_le.mpr hsmall), Bool.and_false, Nat.mod_eq_of_lt hsmall]
    refine iff_of_true ⟨_, rfl, ?_⟩ (.inl hsmall)
    rw [Bool.and_eq_true, decide_eq_true_eq]
  · rw [decide_eq_true (Nat.not_lt.mp hsmall), Bool.and_true]
    cases overflowChecks with
    | true =>
      rw [if_pos rfl]
      refine iff_of_false (fun hmatched ↦ ?_) fun hcase ↦ ?_
      · obtain ⟨result, hresult, -⟩ := hmatched
        cases hresult
      · rcases hcase with hfits | ⟨hchecks, -⟩
        · exact hsmall hfits
        · cases hchecks
    | false =>
      have hroom : minCount.toNat ≤ totalGpus ann :=
        (Nat.le_of_lt minCount.toNat_lt).trans (Nat.not_lt.mp hsmall)
      rw [if_neg Bool.false_ne_true, or_iff_right hsmall, and_iff_right rfl]
      simp only [Option.some.injEq, exists_eq_left']
      cases hasJobType ann reqs && withinPrice ann reqs
      · simp
      · simp [hroom]

/-- An announcement is matched exactly if and only if its count fits, where it is summed. -/
theorem matchedExactly_iff : MatchedExactly overflowChecks toLowercase ann reqs ↔
    CountFits overflowChecks toLowercase ann reqs := by
  cases hcount : reqs.minGpuCount with
  | none =>
    refine iff_of_true (matchedExactly_of_none hcount) fun minCount hsome ↦ ?_
    rw [hcount] at hsome
    cases hsome
  | some minCount =>
    by_cases hreached : hasSufficientVram ann reqs = true ∧ hasModel toLowercase ann reqs = true
    · obtain ⟨hvram, hmodel⟩ := hreached
      rw [matchedExactly_iff_of_reached hcount hvram hmodel]
      refine ⟨fun hcase other hother _ _ ↦ ?_, fun hfits ↦ hfits minCount hcount hvram hmodel⟩
      rw [hcount] at hother
      obtain rfl := Option.some.inj hother
      exact hcase
    · have hrefused := hreached
      rw [not_and_or, Bool.not_eq_true, Bool.not_eq_true] at hrefused
      refine iff_of_true (matchedExactly_of_refused hrefused) fun _ _ hvram hmodel ↦ ?_
      exact absurd ⟨hvram, hmodel⟩ hreached

/-- What is matched exactly meets the requirements. -/
theorem MatchedExactly.meets (hexact : MatchedExactly overflowChecks toLowercase ann reqs)
    (hmatched : matchesRequirements overflowChecks toLowercase ann reqs = some true) :
    Meets toLowercase ann reqs := by
  obtain ⟨result, hresult, hiff⟩ := hexact
  rw [hmatched] at hresult
  exact hiff.mp (Option.some.inj hresult).symm

/-- Whatever is matched meets the requirements: a wrapped sum only loses GPUs. -/
theorem meets_of_matched
    (hmatched : matchesRequirements overflowChecks toLowercase ann reqs = some true) :
    Meets toLowercase ann reqs := by
  cases hcount : reqs.minGpuCount with
  | none => exact (matchedExactly_of_none hcount).meets hmatched
  | some minCount =>
    by_cases hreached : hasSufficientVram ann reqs = true ∧ hasModel toLowercase ann reqs = true
    · obtain ⟨hvram, hmodel⟩ := hreached
      rw [matchesRequirements_of_reached hcount hvram hmodel] at hmatched
      split_ifs at hmatched
      have hall := Option.some.inj hmatched
      rw [Bool.and_eq_true, Bool.and_eq_true, decide_eq_true_eq] at hall
      obtain ⟨henough, hjobType, hprice⟩ := hall
      refine meets_iff.mpr ⟨hvram, hmodel, fun other hother ↦ ?_, hjobType, hprice⟩
      rw [hcount] at hother
      obtain rfl := Option.some.inj hother
      exact henough.trans (Nat.mod_le _ _)
    · rw [not_and_or, Bool.not_eq_true, Bool.not_eq_true] at hreached
      exact (matchedExactly_of_refused hreached).meets hmatched

end Exactness

/-! ### The search -/

/-- `NetworkState`. -/
inductive NetworkState where
  | offline
  | joining
  | online
  | leaving
  deriving DecidableEq

/-- `NetworkState::is_operational`. -/
def NetworkState.isOperational : NetworkState → Bool
  | online => true
  | offline | joining | leaving => false

/-- The debug text of a state. -/
def NetworkState.debug : NetworkState → String
  | offline => "Offline"
  | joining => "Joining"
  | online => "Online"
  | leaving => "Leaving"

/-- `MoltNetwork`, with the part of its inner state that a search reads or writes. -/
structure MoltNetwork where
  state : NetworkState
  knownCapacities : Table PeerId CapacityAnnouncement
  providerSearches : UInt64

/-- `ProviderSearchResult`. -/
structure ProviderSearchResult where
  providers : List CapacityAnnouncement
  duration : Duration
  peersQueried : ℕ
  deriving DecidableEq

namespace MoltNetwork

/-- A walk over the known announcements in some order, with the reading of the wall clock at each of
them. -/
structure CapacityWalk (network : MoltNetwork) where
  visits : List (CapacityAnnouncement × ℤ)
  perm : (visits.map Prod.fst).Perm (network.knownCapacities.entries.map Sigma.snd)

/-- The walk in the order of the table at one moment. -/
def CapacityWalk.still (network : MoltNetwork) (now : ℤ) : CapacityWalk network where
  visits := network.knownCapacities.entries.map fun entry ↦ (entry.2, now)
  perm := by
    rw [List.map_map]
    exact List.Perm.refl _

/-- `MoltNetwork::store_capacity`. -/
def storeCapacity (network : MoltNetwork) (now : ℤ) (announcement : CapacityAnnouncement) :
    MoltNetwork :=
  if announcement.isExpired now then network
  else { network with
    knownCapacities := network.knownCapacities.insert announcement.peerId announcement }

section Search

variable (overflowChecks : Bool) (toLowercase : String → String)

/-- The filter of `find_providers`. It panics when the match of an announcement does. -/
def filterMatching (reqs : CapacityRequirements) :
    List (CapacityAnnouncement × ℤ) → Option (List CapacityAnnouncement)
  | [] => some []
  | visit :: rest =>
    if visit.1.isExpired visit.2 then filterMatching reqs rest
    else
      (matchesRequirements overflowChecks toLowercase visit.1 reqs).bind fun isMatch ↦
        (filterMatching reqs rest).map fun matching ↦
          if isMatch then visit.1 :: matching else matching

/-- `MoltNetwork::find_providers`, or a panic. The time that the search took and the number of
active connections come from outside. -/
def findProviders (network : MoltNetwork) (walk : CapacityWalk network)
    (reqs : CapacityRequirements) (maxResults : ℕ) (elapsed : Duration) (activeCount : ℕ) :
    Option (Except P2pError ProviderSearchResult × MoltNetwork) :=
  if !network.state.isOperational then
    some (.error (.protocol ("Cannot search: not operational (state: " ++ network.state.debug ++
      ")")), network)
  else
    (filterMatching overflowChecks toLowercase reqs walk.visits).map fun matching ↦
      (.ok ⟨matching.take maxResults, elapsed, activeCount⟩,
        { network with providerSearches := network.providerSearches + 1 })

/-- A network that is being left refuses to search. -/
theorem findProviders_of_leaving {network : MoltNetwork} (hstate : network.state = .leaving)
    (walk : CapacityWalk network) (reqs : CapacityRequirements) (maxResults : ℕ)
    (elapsed : Duration) (activeCount : ℕ) :
    network.findProviders overflowChecks toLowercase walk reqs maxResults elapsed activeCount =
      some (.error (.protocol "Cannot search: not operational (state: Leaving)"), network) := by
  unfold findProviders
  simp only [hstate]
  rfl

/-- The providers that a search should find: those whose announcements have not expired and meet the
requirements. -/
def meetingProviders (reqs : CapacityRequirements) (visits : List (CapacityAnnouncement × ℤ)) :
    List CapacityAnnouncement :=
  (visits.filter fun visit ↦
    !visit.1.isExpired visit.2 && decide (Meets toLowercase visit.1 reqs)).map Prod.fst

/-- Whatever number of results is asked for, an operational network finds the first of the providers
it should, and one that is not operational says so. -/
def FindsExactly (network : MoltNetwork) (walk : CapacityWalk network)
    (reqs : CapacityRequirements) : Prop :=
  ∀ maxResults elapsed activeCount,
    (network.findProviders overflowChecks toLowercase walk reqs maxResults elapsed
      activeCount).map Prod.fst = some (
        if network.state.isOperational then
          .ok ⟨(meetingProviders toLowercase reqs walk.visits).take maxResults, elapsed,
            activeCount⟩
        else .error (.protocol ("Cannot search: not operational (state: " ++ network.state.debug ++
          ")")))

end Search

section Found

variable {overflowChecks : Bool} {toLowercase : String → String} {reqs : CapacityRequirements}
  {visits : List (CapacityAnnouncement × ℤ)}

/-- A provider whose announcement has expired is not looked for. -/
theorem meetingProviders_cons_of_expired {visit : CapacityAnnouncement × ℤ}
    (hexpired : visit.1.isExpired visit.2 = true) (rest : List (CapacityAnnouncement × ℤ)) :
    meetingProviders toLowercase reqs (visit :: rest) =
      meetingProviders toLowercase reqs rest := by
  unfold meetingProviders
  rw [List.filter_cons, hexpired]
  rfl

/-- A provider whose announcement has not expired is looked for if it meets the requirements. -/
theorem meetingProviders_cons_of_live {visit : CapacityAnnouncement × ℤ}
    (hlive : visit.1.isExpired visit.2 = false) (rest : List (CapacityAnnouncement × ℤ)) :
    meetingProviders toLowercase reqs (visit :: rest) =
      if Meets toLowercase visit.1 reqs then visit.1 :: meetingProviders toLowercase reqs rest
      else meetingProviders toLowercase reqs rest := by
  unfold meetingProviders
  rw [List.filter_cons, hlive, Bool.not_false, Bool.true_and]
  by_cases hmeets : Meets toLowercase visit.1 reqs
  · rw [if_pos (decide_eq_true hmeets), if_pos hmeets, List.map_cons]
  · rw [if_neg (ne_true_of_eq_false (decide_eq_false hmeets)), if_neg hmeets]

/-- Nothing is found that should not be. -/
theorem sublist_of_filterMatching {matching : List CapacityAnnouncement}
    (hmatching : filterMatching overflowChecks toLowercase reqs visits = some matching) :
    matching.Sublist (meetingProviders toLowercase reqs visits) := by
  induction visits generalizing matching with
  | nil =>
    cases hmatching
    exact List.Sublist.slnil
  | cons visit rest ih =>
    rw [filterMatching] at hmatching
    split_ifs at hmatching with hexpired
    · rw [meetingProviders_cons_of_expired hexpired]
      exact ih hmatching
    · obtain ⟨isMatch, hmatch, hrest⟩ := Option.bind_eq_some_iff.mp hmatching
      obtain ⟨found, hfound, rfl⟩ := Option.map_eq_some_iff.mp hrest
      have hsublist := ih hfound
      rw [meetingProviders_cons_of_live (eq_false_of_ne_true hexpired)]
      cases isMatch with
      | true =>
        rw [if_pos rfl, if_pos (meets_of_matched hmatch)]
        exact hsublist.cons_cons visit.1
      | false =>
        rw [if_neg Bool.false_ne_true]
        split_ifs
        · exact hsublist.cons visit.1
        · exact hsublist

/-- If what is found is as it should be, then the first announcement is matched exactly, unless it
has expired, and what is found behind it is as it should be. -/
theorem matchedExactly_of_filterMatching_cons {visit : CapacityAnnouncement × ℤ}
    {rest : List (CapacityAnnouncement × ℤ)} (hlive : visit.1.isExpired visit.2 = false)
    (hfound : filterMatching overflowChecks toLowercase reqs (visit :: rest) =
      some (meetingProviders toLowercase reqs (visit :: rest))) :
    MatchedExactly overflowChecks toLowercase visit.1 reqs ∧
      filterMatching overflowChecks toLowercase reqs rest =
        some (meetingProviders toLowercase reqs rest) := by
  rw [filterMatching, hlive, if_neg Bool.false_ne_true,
    meetingProviders_cons_of_live hlive] at hfound
  obtain ⟨isMatch, hmatch, hrest⟩ := Option.bind_eq_some_iff.mp hfound
  obtain ⟨matching, hmatching, hsame⟩ := Option.map_eq_some_iff.mp hrest
  by_cases hmeets : Meets toLowercase visit.1 reqs
  · rw [if_pos hmeets] at hsame
    cases isMatch with
    | true =>
      rw [if_pos rfl, List.cons.injEq] at hsame
      rw [hmatching, hsame.2]
      exact ⟨⟨true, hmatch, iff_of_true rfl hmeets⟩, rfl⟩
    | false =>
      -- a lost provider is missing from the length
      have hshorter := (sublist_of_filterMatching hmatching).length_le
      rw [if_neg Bool.false_ne_true] at hsame
      rw [hsame, List.length_cons] at hshorter
      omega
  · rw [if_neg hmeets] at hsame
    cases isMatch with
    | true => exact absurd (meets_of_matched hmatch) hmeets
    | false =>
      rw [if_neg Bool.false_ne_true] at hsame
      rw [hmatching, hsame]
      exact ⟨⟨false, hmatch, iff_of_false Bool.false_ne_true hmeets⟩, rfl⟩

/-- The filter finds what it should exactly if every announcement that has not expired is matched
exactly. -/
theorem filterMatching_exact_iff :
    filterMatching overflowChecks toLowercase reqs visits =
        some (meetingProviders toLowercase reqs visits) ↔
      ∀ visit ∈ visits, visit.1.isExpired visit.2 = false →
        MatchedExactly overflowChecks toLowercase visit.1 reqs := by
  induction visits with
  | nil => exact iff_of_true rfl nofun
  | cons visit rest ih =>
    rw [List.forall_mem_cons, ← ih]
    cases hexpired : visit.1.isExpired visit.2 with
    | true =>
      rw [filterMatching, hexpired, if_pos rfl, meetingProviders_cons_of_expired hexpired]
      exact (and_iff_right fun hfalse ↦ absurd hfalse Bool.noConfusion).symm
    | false =>
      constructor
      · intro hfound
        obtain ⟨hexact, hrest⟩ := matchedExactly_of_filterMatching_cons hexpired hfound
        exact ⟨fun _ ↦ hexact, hrest⟩
      · rintro ⟨hexact, hrest⟩
        obtain ⟨result, hresult, hiff⟩ := hexact rfl
        rw [filterMatching, hexpired, if_neg Bool.false_ne_true, hresult, hrest,
          meetingProviders_cons_of_live hexpired, Option.bind_some, Option.map_some]
        simp only [hiff]

/-- A search finds what it should exactly if the filter does, where the network is operational. -/
theorem findsExactly_iff_filter {network : MoltNetwork} {walk : CapacityWalk network} :
    network.FindsExactly overflowChecks toLowercase walk reqs ↔
      (network.state.isOperational = true →
        filterMatching overflowChecks toLowercase reqs walk.visits =
          some (meetingProviders toLowercase reqs walk.visits)) := by
  unfold FindsExactly findProviders
  cases network.state.isOperational with
  | false => exact iff_of_true (fun _ _ _ ↦ rfl) nofun
  | true =>
    simp only [Bool.not_true, Bool.false_eq_true, if_false, if_true]
    constructor
    · intro hfinds _
      cases hmatching : filterMatching overflowChecks toLowercase reqs walk.visits with
      | none =>
        have hnone := hfinds 0 .max 0
        rw [hmatching] at hnone
        cases hnone
      | some matching =>
        -- as many results are asked for as either list has
        have hall := hfinds (max matching.length
          (meetingProviders toLowercase reqs walk.visits).length) .max 0
        rw [hmatching, Option.map_some, Option.map_some, Option.some_inj, Except.ok.injEq,
          ProviderSearchResult.mk.injEq, List.take_of_length_le (Nat.le_max_left _ _),
          List.take_of_length_le (Nat.le_max_right _ _)] at hall
        rw [hall.1]
    · intro hfilter maxResults elapsed activeCount
      rw [hfilter trivial]
      rfl

end Found

/-- An announcement is matched, without a panic and to the result that the number of its GPUs in `ℕ`
gives, if and only if its count fits or is not needed; and a search finds the providers it should,
for every number of results, if and only if that is so for every announcement of an operational
network that has not expired. -/
theorem search_exact_iff (overflowChecks : Bool) (toLowercase : String → String)
    (reqs : CapacityRequirements) :
    (∀ ann, MatchedExactly overflowChecks toLowercase ann reqs ↔
      CountFits overflowChecks toLowercase ann reqs) ∧
    ∀ (network : MoltNetwork) (walk : CapacityWalk network),
      network.FindsExactly overflowChecks toLowercase walk reqs ↔
        (network.state.isOperational = true → ∀ visit ∈ walk.visits,
          visit.1.isExpired visit.2 = false →
            CountFits overflowChecks toLowercase visit.1 reqs) := by
  refine ⟨fun ann ↦ matchedExactly_iff, fun network walk ↦ ?_⟩
  rw [findsExactly_iff_filter, filterMatching_exact_iff]
  simp only [matchedExactly_iff]

/-- Five minutes are a duration. -/
theorem fiveMinutes_lt : 300 * 10 ^ 9 < 2 ^ 64 * nanosPerSec := by decide

/-- An announcement of two kinds of GPU, `2 ^ 31` of each. -/
def hugeAnnouncement : CapacityAnnouncement :=
  .new 0 (PeerId.ofByte 1) [⟨"A100", 80, 2 ^ 31⟩, ⟨"H100", 80, 2 ^ 31⟩] ⟨100, 10⟩ []
    ⟨300 * 10 ^ 9, fiveMinutes_lt⟩

/-- A network that has received the announcement. -/
def hugeNetwork : MoltNetwork := storeCapacity ⟨.online, ∅, 0⟩ 0 hugeAnnouncement

/-- A search for one GPU panics with overflow checks, and without them finds none of the `2 ^ 32`
GPUs that were announced. -/
theorem huge_announcement_is_lost :
    let reqs : CapacityRequirements := { CapacityRequirements.any with minGpuCount := some 1 }
    let walk := CapacityWalk.still hugeNetwork 0
    (hugeNetwork.findProviders true id walk reqs 10 .max 0).isNone = true ∧
      (hugeNetwork.findProviders false id walk reqs 10 .max 0).map Prod.fst =
        some (.ok ⟨[], .max, 0⟩) ∧
      Meets id hugeAnnouncement reqs ∧
      ∀ overflowChecks, ¬ MatchedExactly overflowChecks id hugeAnnouncement reqs ∧
        ¬ hugeNetwork.FindsExactly overflowChecks id walk reqs := by
  intro reqs walk
  have hmeets : Meets id hugeAnnouncement reqs := by decide +kernel
  have hmatched : ∀ overflowChecks, ¬ MatchedExactly overflowChecks id hugeAnnouncement reqs := by
    intro overflowChecks
    rw [matchedExactly_iff]
    intro hfits
    have hcase := hfits 1 rfl rfl rfl
    revert hcase
    cases overflowChecks <;> decide +kernel
  refine ⟨by decide +kernel, by rfl, hmeets, fun overflowChecks ↦ ⟨hmatched overflowChecks, ?_⟩⟩
  rw [findsExactly_iff_filter, filterMatching_exact_iff]
  intro hexact
  exact hmatched overflowChecks (hexact rfl (hugeAnnouncement, 0) List.mem_cons_self rfl)

end MoltNetwork

end Clawbernetes.MoltP2p
