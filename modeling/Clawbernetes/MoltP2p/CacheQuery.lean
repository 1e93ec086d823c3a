import Clawbernetes.MoltP2p.Broadcast

/-!
# Queries of the announcement cache

`query_cache` of `gossip/broadcast.rs` walks the lists of the cache, in the order of a hash map, and
each list in its own order. Every unexpired announcement that matches the filter is pushed, and the
walk ends as soon as the results are as many as were asked for. The walk and the reading of the wall
clock for each entry come from outside, as a `CacheWalk`.

The loops return the first `max 1 maxResults` matches of the walk (`queryCache_eq`), since the size
is compared only behind a push. So a query answers as it should (`Answers`) unless it asks for no
result and something matches (`answers_iff`).
-/

set_option autoImplicit false
set_option relaxedAutoImplicit false

namespace Clawbernetes.MoltP2p

open Library.FiniteTable

/-- `CapacityAnnouncement::matches_filter`. -/
def CapacityAnnouncement.matchesFilter (announcement : CapacityAnnouncement)
    (filter : QueryFilter) : Bool :=
  (filter.gpuModel.all fun model ↦ announcement.gpus.any fun gpu ↦ gpu.model = model) &&
    (filter.minVramGb.all fun minVram ↦ announcement.gpus.any fun gpu ↦ minVram ≤ gpu.vramGb) &&
    (filter.jobType.all fun jobType ↦ announcement.jobTypes.contains jobType) &&
    (filter.maxGpuHourCents.all fun maxPrice ↦ announcement.pricing.gpuHourCents ≤ maxPrice)

namespace GossipBroadcaster

/-! ### The loops -/

/-- A walk over the lists of the cache in some order, with the reading of the wall clock at each of
their entries. -/
structure CacheWalk (broadcaster : GossipBroadcaster) where
  lists : List (List (CachedAnnouncement × ℤ))
  perm : (lists.map fun list ↦ list.map Prod.fst).Perm
    (broadcaster.announcementCache.entries.map Sigma.snd)

/-- The walk in the order of the table at one moment. -/
def CacheWalk.still (broadcaster : GossipBroadcaster) (now : ℤ) : CacheWalk broadcaster where
  lists := broadcaster.announcementCache.entries.map fun entry ↦
    entry.2.map fun cached ↦ (cached, now)
  perm := by
    rw [List.map_map]
    refine List.Perm.of_eq (List.map_congr_left fun entry _ ↦ ?_)
    rw [Function.comp_apply, List.map_map]
    exact List.map_id _

/-- The announcement of an entry has not expired at its reading and matches the filter. -/
def isMatch (filter : QueryFilter) (visit : CachedAnnouncement × ℤ) : Bool :=
  !visit.1.announcement.isExpired visit.2 && visit.1.announcement.matchesFilter filter

/-- The inner loop of `query_cache`. The early return is the error. -/
def queryList (filter : QueryFilter) (maxResults : ℕ) (results : List CapacityAnnouncement) :
    List (CachedAnnouncement × ℤ) → Except (List CapacityAnnouncement) (List CapacityAnnouncement)
  | [] => .ok results
  | visit :: rest =>
    if isMatch filter visit then
      let pushed := results ++ [visit.1.announcement]
      if maxResults ≤ pushed.length then .error pushed else queryList filter maxResults pushed rest
    else queryList filter maxResults results rest

/-- The outer loop of `query_cache`. -/
def queryLists (filter : QueryFilter) (maxResults : ℕ) (results : List CapacityAnnouncement) :
    List (List (CachedAnnouncement × ℤ)) →
      Except (List CapacityAnnouncement) (List CapacityAnnouncement)
  | [] => .ok results
  | list :: rest =>
    match queryList filter maxResults results list with
    | .ok results => queryLists filter maxResults results rest
    | .error results => .error results

/-- The results of loops that end in one way or the other. -/
def returned : Except (List CapacityAnnouncement) (List CapacityAnnouncement) →
    List CapacityAnnouncement
  | .ok results => results
  | .error results => results

/-- `GossipBroadcaster::query_cache`. -/
def queryCache (broadcaster : GossipBroadcaster) (walk : CacheWalk broadcaster)
    (filter : QueryFilter) (maxResults : UInt32) : List CapacityAnnouncement :=
  returned (queryLists filter maxResults.toNat [] walk.lists)

/-! ### What the loops return -/

section Loops

variable {filter : QueryFilter} {maxResults : ℕ}

/-- The inner loop goes on in a second list where it was left by the first. -/
theorem queryList_append (results : List CapacityAnnouncement)
    (first second : List (CachedAnnouncement × ℤ)) :
    queryList filter maxResults results (first ++ second) =
      match queryList filter maxResults results first with
      | .ok results => queryList filter maxResults results second
      | .error results => .error results := by
  induction first generalizing results with
  | nil => rfl
  | cons visit rest ih =>
    rw [List.cons_append, queryList, queryList]
    split_ifs with hmatch
    · dsimp only
      split_ifs with hfull
      · rfl
      · exact ih _
    · exact ih results

/-- The two loops are one loop over all entries. -/
theorem queryLists_eq (results : List CapacityAnnouncement)
    (lists : List (List (CachedAnnouncement × ℤ))) :
    queryLists filter maxResults results lists =
      queryList filter maxResults results lists.flatten := by
  induction lists generalizing results with
  | nil => rfl
  | cons list rest ih =>
    rw [List.flatten_cons, queryList_append, queryLists]
    cases queryList filter maxResults results list with
    | ok pushed => exact ih pushed
    | error pushed => rfl

/-- The announcements that a walk over entries finds. -/
def matchesOf (filter : QueryFilter) (visits : List (CachedAnnouncement × ℤ)) :
    List CapacityAnnouncement :=
  (visits.filter fun visit ↦ isMatch filter visit).map fun visit ↦ visit.1.announcement

/-- The loop pushes the first matches, one at least, until there are enough results. -/
theorem returned_queryList (results : List CapacityAnnouncement)
    (visits : List (CachedAnnouncement × ℤ)) :
    returned (queryList filter maxResults results visits) =
      results ++ (matchesOf filter visits).take (max 1 (maxResults - results.length)) := by
  induction visits generalizing results with
  | nil => simp only [queryList, returned, matchesOf, List.filter_nil, List.map_nil, List.take_nil,
      List.append_nil]
  | cons visit rest ih =>
    rw [queryList]
    split_ifs with hmatch
    · have hpushed : matchesOf filter (visit :: rest) =
          visit.1.announcement :: matchesOf filter rest := by
        rw [matchesOf, List.filter_cons_of_pos hmatch, List.map_cons, matchesOf]
      have hlength : (results ++ [visit.1.announcement]).length = results.length + 1 := by
        rw [List.length_append, List.length_singleton]
      dsimp only
      rw [hpushed, hlength]
      split_ifs with hfull
      · have hone : max 1 (maxResults - results.length) = 1 := Nat.max_eq_left (by omega)
        rw [hone, List.take_succ_cons, List.take_zero, returned]
      · have hnext : max 1 (maxResults - results.length) =
            max 1 (maxResults - (results.length + 1)) + 1 := by
          rw [Nat.max_eq_right (by omega), Nat.max_eq_right (by omega)]
          omega
        rw [ih, hlength, hnext, List.take_succ_cons, List.append_assoc, List.singleton_append]
    · have hskipped : matchesOf filter (visit :: rest) = matchesOf filter rest := by
        rw [matchesOf, List.filter_cons_of_neg hmatch, matchesOf]
      rw [ih, hskipped]

end Loops

section Query

variable {broadcaster : GossipBroadcaster} {walk : CacheWalk broadcaster} {filter : QueryFilter}
  {maxResults : UInt32}

/-- A query returns the first matches of the walk, one at least. -/
theorem queryCache_eq : broadcaster.queryCache walk filter maxResults =
    (matchesOf filter walk.lists.flatten).take (max 1 maxResults.toNat) := by
  rw [queryCache, queryLists_eq, returned_queryList, List.nil_append, List.length_nil, Nat.sub_zero]

/-- A query answers: its results are the announcements of cached entries, none of them taken twice,
that have not expired and match the filter, at most as many as were asked for, and all of them when
they are no more than that. -/
structure Answers (broadcaster : GossipBroadcaster) (walk : CacheWalk broadcaster)
    (filter : QueryFilter) (maxResults : UInt32) : Prop where
  sound : ∃ visits : List (CachedAnnouncement × ℤ), visits.Sublist walk.lists.flatten ∧
    (∀ visit ∈ visits, visit.1.announcement.isExpired visit.2 = false ∧
      visit.1.announcement.matchesFilter filter = true) ∧
    broadcaster.queryCache walk filter maxResults =
      visits.map fun visit ↦ visit.1.announcement
  bounded : (broadcaster.queryCache walk filter maxResults).length ≤ maxResults.toNat
  complete : (matchesOf filter walk.lists.flatten).length ≤ maxResults.toNat →
    broadcaster.queryCache walk filter maxResults = matchesOf filter walk.lists.flatten

/-- A query answers exactly unless it asks for no result and some entry matches. -/
theorem answers_iff (broadcaster : GossipBroadcaster) (walk : CacheWalk broadcaster)
    (filter : QueryFilter) (maxResults : UInt32) :
    Answers broadcaster walk filter maxResults ↔
      0 < maxResults.toNat ∨ ∀ visit ∈ walk.lists.flatten, isMatch filter visit = false := by
  have hquery : broadcaster.queryCache walk filter maxResults =
      (matchesOf filter walk.lists.flatten).take (max 1 maxResults.toNat) := queryCache_eq
  constructor
  · intro hanswers
    rcases Nat.eq_zero_or_pos maxResults.toNat with hzero | hpositive
    · right
      have hbounded := hanswers.bounded
      rw [hquery, hzero, List.length_take, matchesOf, List.length_map] at hbounded
      have hnone : (walk.lists.flatten.filter fun visit ↦ isMatch filter visit).length = 0 := by
        omega
      intro visit hvisit
      rw [List.length_eq_zero_iff, List.filter_eq_nil_iff] at hnone
      exact eq_false_of_ne_true (hnone visit hvisit)
    · exact .inl hpositive
  · intro hcondition
    have hbounded : (broadcaster.queryCache walk filter maxResults).length ≤
        maxResults.toNat := by
      rw [hquery, List.length_take]
      rcases hcondition with hpositive | hnone
      · omega
      · have hempty : matchesOf filter walk.lists.flatten = [] := by
          rw [matchesOf, List.filter_eq_nil_iff.mpr fun visit hvisit ↦ ?_, List.map_nil]
          rw [hnone visit hvisit]
          decide
        rw [hempty, List.length_nil, Nat.min_zero]
        exact Nat.zero_le _
    refine ⟨?_, hbounded, fun hfew ↦ ?_⟩
    · refine ⟨(walk.lists.flatten.filter fun visit ↦ isMatch filter visit).take
        (max 1 maxResults.toNat), ?_, fun visit hvisit ↦ ?_, ?_⟩
      · exact (List.take_sublist _ _).trans List.filter_sublist
      · have hmatch := (List.mem_filter.mp (List.mem_of_mem_take hvisit)).2
        rwa [isMatch, Bool.and_eq_true, Bool.not_eq_true'] at hmatch
      · rw [hquery, matchesOf, List.map_take]
    · rw [hquery]
      exact List.take_of_length_le (hfew.trans (Nat.le_max_right _ _))

/-- One announcement is cached and no result is asked for: the query returns the announcement. -/
theorem empty_query_returns_match :
    let announcement := CapacityAnnouncement.new 0 (PeerId.ofByte 1) [] ⟨100, 10⟩ []
      (.fromSecs 300)
    let broadcaster := (GossipBroadcaster.new 0 (PeerId.ofByte 0) .default).cacheAnnouncement 0
      announcement
    broadcaster.queryCache (.still broadcaster 0) .any 0 = [announcement] ∧
      ¬ Answers broadcaster (.still broadcaster 0) .any 0 := by
  intro announcement broadcaster
  have hquery : broadcaster.queryCache (.still broadcaster 0) .any 0 = [announcement] := by
    decide +kernel
  refine ⟨hquery, fun hanswers ↦ ?_⟩
  have hbounded := hanswers.bounded
  rw [hquery] at hbounded
  exact absurd hbounded (by decide)

end Query

end GossipBroadcaster

end Clawbernetes.MoltP2p
