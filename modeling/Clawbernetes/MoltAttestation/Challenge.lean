import Mathlib.Data.Finset.Basic
import Mathlib.Data.Finset.Lattice.Lemmas
import Clawbernetes.Library.RecentHistory
import Clawbernetes.MoltAttestation.Signing

/-!
# Challenges and the cache of used nonces

`challenge.rs`: a verifier issues a challenge with a nonce, and accepts it once the node sends it
back, unless it is too old or its nonce is in the cache of used nonces. The cache holds at most
`max_size` nonces, as a set for the lookup and as a vector in the order of insertion, and evicts the
oldest ones first.

A cache is followed through any sequence of `insert`, `clear` and `verify_challenge` calls together
with the nonces that were accepted since the last `clear`. The vector is the recent end of these
nonces (`nonce_cache_recency`): this is all the cache remembers, and a nonce that was evicted is
accepted again (`evicted_nonce_accepted_again`). What a cache of that size gives is
`replays_are_spaced`: among any `nonce_cache_size + 1` acceptances in a row no nonce comes twice.

The loop that evicts the oldest nonces ends exactly with room for a nonce (`eviction_ends_iff`).
Without room there is nothing to evict and nothing else to stop at.
-/

set_option autoImplicit false
set_option relaxedAutoImplicit false

namespace Clawbernetes.MoltAttestation

open Library.Bytes Library.RecentHistory

/-- A nonce of 32 bytes. -/
@[ext] structure Nonce where
  bytes : List UInt8
  length_bytes : bytes.length = 32

/-- Nonces are compared by their bytes. -/
instance : DecidableEq Nonce := fun first second ↦
  decidable_of_iff (first.bytes = second.bytes) Nonce.ext_iff.symm

/-- The nonce of 32 equal bytes. -/
def Nonce.ofByte (byte : UInt8) : Nonce := ⟨List.replicate 32 byte, length_replicate_32 byte⟩

/-- `AttestationChallenge`. -/
structure AttestationChallenge where
  nonce : Nonce
  issuedAt : DateTime
  verifierId : String
  deriving DecidableEq

/-- `ChallengeConfig`. -/
structure ChallengeConfig where
  maxAgeSecs : ℕ
  nonceCacheSize : ℕ
  deriving DecidableEq

/-- `AttestationChallenge::age_secs`. A challenge from the future has age zero. -/
def AttestationChallenge.ageSecs (challenge : AttestationChallenge) (now : DateTime) : ℕ :=
  let duration := now.signedDurationSince challenge.issuedAt
  if duration.numSeconds < 0 then 0 else duration.numSeconds.toNat

/-- `NonceCache`. -/
@[ext] structure NonceCache where
  nonces : Finset Nonce
  order : List Nonce
  maxSize : ℕ
  deriving DecidableEq

namespace NonceCache

/-- `NonceCache::new`. -/
def new (maxSize : ℕ) : NonceCache where
  nonces := ∅
  order := []
  maxSize := maxSize

/-- `NonceCache::contains`. -/
def contains (cache : NonceCache) (nonce : Nonce) : Bool :=
  decide (nonce ∈ cache.nonces)

/-- The body of the loop of `insert`: the oldest nonce is removed, if there is one. -/
def evictOldest (cache : NonceCache) : NonceCache :=
  match cache.order with
  | [] => cache
  | oldest :: rest => { cache with nonces := cache.nonces.erase oldest, order := rest }

/-- The loop of `insert`, for a number of checks of its condition. -/
def evictRounds : ℕ → NonceCache → Option NonceCache
  | 0, _ => none
  | rounds + 1, cache =>
    if cache.order.length ≥ cache.maxSize then evictRounds rounds cache.evictOldest else some cache

/-- The loop of `insert`. When the condition still holds after all nonces are evicted, the body
changes nothing any more and the loop does not end: the result is `none`. -/
def evict (cache : NonceCache) : Option NonceCache :=
  evictRounds (cache.order.length + 1) cache

/-- `NonceCache::insert`: whether the nonce was added, and the cache afterwards. -/
def insert (cache : NonceCache) (nonce : Nonce) : Option (Bool × NonceCache) :=
  if cache.contains nonce then some (false, cache)
  else do
    let evicted ← cache.evict
    return (true, { evicted with
      nonces := Insert.insert nonce evicted.nonces, order := evicted.order ++ [nonce] })

/-- `NonceCache::clear`. -/
def clear (cache : NonceCache) : NonceCache :=
  { cache with nonces := ∅, order := [] }

end NonceCache

/-- `verify_challenge` at a time: the verdict and the cache afterwards. -/
def verifyChallenge (now : DateTime) (challenge : AttestationChallenge)
    (expectedVerifierId : String) (config : ChallengeConfig) (nonceCache : NonceCache) :
    Option (Except AttestationError Unit × NonceCache) :=
  if challenge.verifierId ≠ expectedVerifierId then
    some (.error (.verifierMismatch expectedVerifierId challenge.verifierId), nonceCache)
  else if challenge.ageSecs now > config.maxAgeSecs then
    some (.error (.challengeExpired (challenge.ageSecs now) config.maxAgeSecs), nonceCache)
  else if nonceCache.contains challenge.nonce then some (.error .nonceReplay, nonceCache)
  else do
    let (_, cache) ← nonceCache.insert challenge.nonce
    return (.ok (), cache)

/-! ### The cache of an order -/

namespace NonceCache

/-- The cache that holds the nonces of an order. -/
def ofOrder (maxSize : ℕ) (order : List Nonce) : NonceCache where
  nonces := order.toFinset
  order := order
  maxSize := maxSize

variable {maxSize capacity : ℕ} {order : List Nonce} {nonce : Nonce}

/-- The cache of an order contains the nonces of the order. -/
theorem contains_ofOrder_iff : (ofOrder maxSize order).contains nonce = true ↔ nonce ∈ order := by
  unfold contains ofOrder
  rw [decide_eq_true_iff, List.mem_toFinset]

/-- A new cache is the cache of the empty order. -/
theorem new_eq_ofOrder (maxSize : ℕ) : new maxSize = ofOrder maxSize [] := rfl

/-- A cleared cache is the cache of the empty order. -/
theorem clear_ofOrder : (ofOrder maxSize order).clear = ofOrder maxSize [] := rfl

/-- Without repetitions, the loop body leaves the cache of the rest of the order. -/
theorem evictOldest_ofOrder {oldest : Nonce} (hnodup : (oldest :: order).Nodup) :
    (ofOrder maxSize (oldest :: order)).evictOldest = ofOrder maxSize order := by
  have hfresh : oldest ∉ order.toFinset := by
    rw [List.mem_toFinset]
    exact (List.nodup_cons.mp hnodup).1
  have herase : (oldest :: order).toFinset.erase oldest = order.toFinset := by
    rw [List.toFinset_cons, Finset.erase_insert hfresh]
  exact NonceCache.ext herase rfl rfl

/-- With room for one nonce at least, the loop ends, and leaves room for one. -/
theorem evictRounds_ofOrder (hnodup : order.Nodup) :
    evictRounds (order.length + 1) (ofOrder (capacity + 1) order) =
      some (ofOrder (capacity + 1) (order.rtake capacity)) := by
  induction order with
  | nil => rw [List.rtake_nil]; rfl
  | cons oldest rest ih =>
    rw [evictRounds]
    split_ifs with hfull
    · have hlength : capacity ≤ rest.length := Nat.le_of_succ_le_succ hfull
      rw [evictOldest_ofOrder hnodup, List.length_cons, ih (List.nodup_cons.mp hnodup).2,
        rtake_cons_of_le hlength]
    · have hlength : (oldest :: rest).length ≤ capacity := Nat.le_of_lt_succ (not_le.mp hfull)
      rw [rtake_of_length_le hlength]

/-- A nonce of the order is not added. -/
theorem insert_ofOrder_of_mem (hmem : nonce ∈ order) :
    (ofOrder maxSize order).insert nonce = some (false, ofOrder maxSize order) := by
  unfold insert
  rw [if_pos (contains_ofOrder_iff.mpr hmem)]

/-- Another nonce is added at the end, behind the recent end of the order. -/
theorem insert_ofOrder_of_notMem (hnodup : order.Nodup) (hfresh : nonce ∉ order) :
    (ofOrder (capacity + 1) order).insert nonce =
      some (true, ofOrder (capacity + 1) (order.rtake capacity ++ [nonce])) := by
  have hset : Insert.insert nonce (order.rtake capacity).toFinset =
      (order.rtake capacity ++ [nonce]).toFinset := by
    rw [List.toFinset_append, Finset.union_comm]
    rfl
  unfold insert
  rw [if_neg fun hcontains ↦ hfresh (contains_ofOrder_iff.mp hcontains), evict]
  rw [show (ofOrder (capacity + 1) order).order = order from rfl, evictRounds_ofOrder hnodup]
  unfold ofOrder
  rw [← hset]
  rfl

end NonceCache

/-! ### Runs of calls -/

/-- A call on a cache of nonces, with the time at which a challenge is verified. -/
inductive CacheCall where
  | insert (nonce : Nonce)
  | clear
  | verify (now : DateTime) (expectedVerifierId : String) (config : ChallengeConfig)
      (challenge : AttestationChallenge)

/-- A cache beside the nonces that were accepted since the last `clear`, the oldest first: those of
the `insert` calls that returned `true` and of the challenges that were verified. -/
structure NonceLog where
  cache : NonceCache
  accepted : List Nonce

namespace NonceLog

/-- A new cache has accepted nothing. -/
def new (maxSize : ℕ) : NonceLog := ⟨NonceCache.new maxSize, []⟩

/-- One call. -/
def step (log : NonceLog) : CacheCall → Option NonceLog
  | .insert nonce => do
    let (added, cache) ← log.cache.insert nonce
    return ⟨cache, if added then log.accepted ++ [nonce] else log.accepted⟩
  | .clear => some ⟨log.cache.clear, []⟩
  | .verify now expectedVerifierId config challenge => do
    let (verdict, cache) ← verifyChallenge now challenge expectedVerifierId config log.cache
    return ⟨cache, if verdict.isOk then log.accepted ++ [challenge.nonce] else log.accepted⟩

/-- A sequence of calls. -/
def run (log : NonceLog) (calls : List CacheCall) : Option NonceLog :=
  calls.foldlM step log

/-- The cache holds the recent end of the accepted nonces, and these come again only after as many
others as the cache has room for. -/
structure Recent (maxSize : ℕ) (log : NonceLog) : Prop where
  cache_eq : log.cache = NonceCache.ofOrder maxSize (log.accepted.rtake maxSize)
  distinct : DistinctWithin maxSize log.accepted

variable {maxSize capacity : ℕ} {log : NonceLog} {nonce : Nonce}

/-- A new cache holds what was accepted so far. -/
theorem recent_new (maxSize : ℕ) : Recent maxSize (new maxSize) where
  cache_eq := by
    change NonceCache.new maxSize = NonceCache.ofOrder maxSize (List.rtake [] maxSize)
    rw [List.rtake_nil, NonceCache.new_eq_ofOrder]
  distinct := distinctWithin_nil

/-- A cache after a `clear` holds what was accepted since. -/
theorem Recent.clear (hrecent : Recent maxSize log) : Recent maxSize ⟨log.cache.clear, []⟩ where
  cache_eq := by
    change log.cache.clear = NonceCache.ofOrder maxSize (List.rtake [] maxSize)
    rw [hrecent.cache_eq, NonceCache.clear_ofOrder, List.rtake_nil]
  distinct := distinctWithin_nil

/-- The cache contains the recent end of the accepted nonces. -/
theorem Recent.contains_iff (hrecent : Recent maxSize log) :
    log.cache.contains nonce = true ↔ nonce ∈ log.accepted.rtake maxSize := by
  rw [hrecent.cache_eq, NonceCache.contains_ofOrder_iff]

/-- A nonce of the recent end is not added. -/
theorem Recent.insert_of_mem (hrecent : Recent maxSize log)
    (hmem : nonce ∈ log.accepted.rtake maxSize) :
    log.cache.insert nonce = some (false, log.cache) := by
  rw [hrecent.cache_eq, NonceCache.insert_ofOrder_of_mem hmem]

/-- Another nonce is added, and the cache holds the recent end of what is accepted then. -/
theorem Recent.insert_of_notMem (hrecent : Recent (capacity + 1) log)
    (hfresh : nonce ∉ log.accepted.rtake (capacity + 1)) :
    ∃ cache, log.cache.insert nonce = some (true, cache) ∧
      Recent (capacity + 1) ⟨cache, log.accepted ++ [nonce]⟩ := by
  have hinsert : (NonceCache.ofOrder (capacity + 1) (log.accepted.rtake (capacity + 1))).insert
      nonce = _ := NonceCache.insert_ofOrder_of_notMem hrecent.distinct.nodup_rtake hfresh
  rw [← hrecent.cache_eq, rtake_succ_rtake, ← List.rtake_concat_succ] at hinsert
  exact ⟨_, hinsert, rfl, distinctWithin_concat_iff.mpr ⟨hrecent.distinct, hfresh⟩⟩

/-! ### Verification -/

variable {now : DateTime} {challenge : AttestationChallenge} {expectedVerifierId : String}
  {config : ChallengeConfig}

/-- What `verify_challenge` asks for. -/
def Acceptable (now : DateTime) (challenge : AttestationChallenge) (expectedVerifierId : String)
    (config : ChallengeConfig) (used : List Nonce) : Prop :=
  challenge.verifierId = expectedVerifierId ∧ challenge.ageSecs now ≤ config.maxAgeSecs ∧
    challenge.nonce ∉ used

/-- A challenge that fails a check leaves the cache as it was. -/
theorem Recent.verify_of_not_acceptable (hrecent : Recent maxSize log)
    (hrejected : ¬Acceptable now challenge expectedVerifierId config
      (log.accepted.rtake maxSize)) :
    ∃ error, verifyChallenge now challenge expectedVerifierId config log.cache =
      some (.error error, log.cache) := by
  unfold verifyChallenge
  split_ifs with hverifier hage hreplay
  · exact ⟨_, rfl⟩
  · exact ⟨_, rfl⟩
  · exact ⟨_, rfl⟩
  · refine absurd ⟨not_not.mp hverifier, not_lt.mp hage, fun hmem ↦ ?_⟩ hrejected
    exact hreplay (hrecent.contains_iff.mpr hmem)

/-- A challenge that passes the checks is accepted, with its nonce as the newest one. -/
theorem Recent.verify_of_acceptable (hrecent : Recent (capacity + 1) log)
    (hacceptable : Acceptable now challenge expectedVerifierId config
      (log.accepted.rtake (capacity + 1))) :
    ∃ cache, verifyChallenge now challenge expectedVerifierId config log.cache =
        some (.ok (), cache) ∧
      Recent (capacity + 1) ⟨cache, log.accepted ++ [challenge.nonce]⟩ := by
  obtain ⟨hverifier, hage, hfresh⟩ := hacceptable
  obtain ⟨cache, hinsert, hafter⟩ := hrecent.insert_of_notMem hfresh
  refine ⟨cache, ?_, hafter⟩
  unfold verifyChallenge
  rw [if_neg (not_not.mpr hverifier), if_neg (not_lt.mpr hage),
    if_neg fun hcontains ↦ hfresh (hrecent.contains_iff.mp hcontains), hinsert]
  rfl

/-- Every call on a cache with room for a nonce returns, and the cache holds the recent end of what
is accepted then. -/
theorem Recent.step (hrecent : Recent (capacity + 1) log) (call : CacheCall) :
    ∃ later, log.step call = some later ∧ Recent (capacity + 1) later := by
  cases call with
  | insert nonce =>
    by_cases hmem : nonce ∈ log.accepted.rtake (capacity + 1)
    · refine ⟨log, ?_, hrecent⟩
      rw [NonceLog.step, hrecent.insert_of_mem hmem]
      rfl
    · obtain ⟨cache, hinsert, hafter⟩ := hrecent.insert_of_notMem hmem
      refine ⟨_, ?_, hafter⟩
      rw [NonceLog.step, hinsert]
      rfl
  | clear => exact ⟨_, rfl, hrecent.clear⟩
  | verify now expectedVerifierId config challenge =>
    by_cases hacceptable : Acceptable now challenge expectedVerifierId config
        (log.accepted.rtake (capacity + 1))
    · obtain ⟨cache, hverify, hafter⟩ := hrecent.verify_of_acceptable hacceptable
      refine ⟨_, ?_, hafter⟩
      rw [NonceLog.step, hverify]
      rfl
    · obtain ⟨error, hverify⟩ := hrecent.verify_of_not_acceptable hacceptable
      refine ⟨log, ?_, hrecent⟩
      rw [NonceLog.step, hverify]
      rfl

/-- Every sequence of calls on a cache with room for a nonce returns, and the cache holds the recent
end of what is accepted then. -/
theorem Recent.run (hrecent : Recent (capacity + 1) log) (calls : List CacheCall) :
    ∃ later, log.run calls = some later ∧ Recent (capacity + 1) later := by
  induction calls generalizing log with
  | nil => exact ⟨log, rfl, hrecent⟩
  | cons call calls ih =>
    obtain ⟨next, hstep, hnext⟩ := hrecent.step call
    obtain ⟨later, hrun, hlater⟩ := ih hnext
    refine ⟨later, ?_, hlater⟩
    unfold NonceLog.run
    rw [List.foldlM_cons, hstep]
    exact hrun

end NonceLog

/-! ### What the cache remembers -/

open NonceLog

/-- A verification that returns an error leaves the cache as it was. -/
theorem cache_eq_of_verifyChallenge_error {now : DateTime} {challenge : AttestationChallenge}
    {expectedVerifierId : String} {config : ChallengeConfig} {cache later : NonceCache}
    {error : AttestationError}
    (hverify : verifyChallenge now challenge expectedVerifierId config cache =
      some (.error error, later)) : later = cache := by
  have hsame {verdict : Except AttestationError Unit}
      (hpair : some (verdict, cache) = some (.error error, later)) : later = cache :=
    (congrArg Prod.snd (Option.some.inj hpair)).symm
  unfold verifyChallenge at hverify
  split_ifs at hverify with hverifier hage hreplay
  · exact hsame hverify
  · exact hsame hverify
  · exact hsame hverify
  · -- What follows the checks returns no error.
    cases hinsert : cache.insert challenge.nonce with
    | none =>
      rw [hinsert] at hverify
      cases hverify
    | some inserted =>
      rw [hinsert] at hverify
      cases hverify

/-- The set and the vector of the cache hold the same nonces, none of them twice and no more than
`max_size`, and the vector is the recent end of the accepted nonces in the order of acceptance.
Therefore a verification that fails changes nothing, and a nonce with fewer than `max_size`
acceptances after its own is rejected. -/
theorem nonce_cache_recency (maxSize : ℕ) (hsize : 1 ≤ maxSize) (calls : List CacheCall) :
    ∃ log, (NonceLog.new maxSize).run calls = some log ∧
      log.cache.nonces = log.cache.order.toFinset ∧ log.cache.order.Nodup ∧
      log.cache.order.length ≤ maxSize ∧
      log.cache.order = log.accepted.rtake (min log.accepted.length maxSize) ∧
      (∀ now challenge expectedVerifierId config error later,
        verifyChallenge now challenge expectedVerifierId config log.cache =
          some (.error error, later) → later = log.cache) ∧
      ∀ earlier nonce later, log.accepted = earlier ++ nonce :: later → later.length < maxSize →
        ∀ now challenge expectedVerifierId config, challenge.nonce = nonce →
          ∃ error, verifyChallenge now challenge expectedVerifierId config log.cache =
            some (.error error, log.cache) := by
  obtain ⟨capacity, rfl⟩ := Nat.exists_eq_add_of_le' hsize
  obtain ⟨log, hrun, hrecent⟩ := (recent_new (capacity + 1)).run calls
  have horder : log.cache.order = log.accepted.rtake (capacity + 1) :=
    congrArg NonceCache.order hrecent.cache_eq
  refine ⟨log, hrun, ?_, ?_, ?_, ?_, ?_, ?_⟩
  · rw [horder]
    exact congrArg NonceCache.nonces hrecent.cache_eq
  · rw [horder]
    exact hrecent.distinct.nodup_rtake
  · rw [horder, length_rtake]
    exact min_le_right _ _
  · rw [horder, rtake_min_length]
  · intro now challenge expectedVerifierId config error later hverify
    exact cache_eq_of_verifyChallenge_error hverify
  · intro earlier nonce later haccepted hlater now challenge expectedVerifierId config hnonce
    refine hrecent.verify_of_not_acceptable fun hacceptable ↦ hacceptable.2.2 ?_
    rw [haccepted, hnonce]
    exact mem_rtake_of_length_lt hlater

/-- A cache with room for two nonces has seen three, the second of them twice, and a `clear` before
them: it holds the last two, and the set agrees. -/
theorem nonce_cache_of_two :
    1 ≤ 2 ∧ ∃ log, (NonceLog.new 2).run [.insert (.ofByte 9), .clear, .insert (.ofByte 1),
        .insert (.ofByte 2), .insert (.ofByte 2), .insert (.ofByte 3)] = some log ∧
      log.cache.order = [.ofByte 2, .ofByte 3] ∧
      log.cache.nonces = log.cache.order.toFinset := by
  have hsize : 1 ≤ 2 := by decide
  obtain ⟨log, hrun, hnonces, -⟩ := nonce_cache_recency 2 hsize [.insert (.ofByte 9), .clear,
    .insert (.ofByte 1), .insert (.ofByte 2), .insert (.ofByte 2), .insert (.ofByte 3)]
  have horder : (((NonceLog.new 2).run [.insert (.ofByte 9), .clear, .insert (.ofByte 1),
      .insert (.ofByte 2), .insert (.ofByte 2), .insert (.ofByte 3)]).map fun log ↦
      log.cache.order) = some [.ofByte 2, .ofByte 3] := by decide
  rw [hrun] at horder
  exact ⟨hsize, log, hrun, Option.some.inj horder, hnonces⟩

/-! ### Replays -/

/-- The calls of one verifier on its own cache, each with its time. -/
def verifierRun (expectedVerifierId : String) (config : ChallengeConfig)
    (requests : List (DateTime × AttestationChallenge)) : Option NonceLog :=
  (NonceLog.new config.nonceCacheSize).run
    (requests.map fun request ↦ .verify request.1 expectedVerifierId config request.2)

/-- A challenge is accepted exactly when it is for this verifier, is not too old and has a nonce
that is not among the last `nonce_cache_size` accepted ones. Among any `nonce_cache_size + 1`
acceptances in a row no nonce comes twice. -/
theorem replays_are_spaced (expectedVerifierId : String) (config : ChallengeConfig)
    (hsize : 1 ≤ config.nonceCacheSize) (requests : List (DateTime × AttestationChallenge)) :
    ∃ log, verifierRun expectedVerifierId config requests = some log ∧
      DistinctWithin config.nonceCacheSize log.accepted ∧
      ∀ now challenge, ∃ verdict later,
        verifyChallenge now challenge expectedVerifierId config log.cache = some (verdict, later) ∧
        (verdict = .ok () ↔ Acceptable now challenge expectedVerifierId config
          (log.accepted.rtake config.nonceCacheSize)) := by
  obtain ⟨capacity, hcapacity⟩ := Nat.exists_eq_add_of_le' hsize
  unfold verifierRun
  rw [hcapacity]
  obtain ⟨log, hrun, hrecent⟩ := (recent_new (capacity + 1)).run
    (requests.map fun request ↦ .verify request.1 expectedVerifierId config request.2)
  refine ⟨log, hrun, hrecent.distinct, fun now challenge ↦ ?_⟩
  by_cases hacceptable : Acceptable now challenge expectedVerifierId config
      (log.accepted.rtake (capacity + 1))
  · obtain ⟨cache, hverify, -⟩ := hrecent.verify_of_acceptable hacceptable
    exact ⟨_, cache, hverify, iff_of_true rfl hacceptable⟩
  · obtain ⟨error, hverify⟩ := hrecent.verify_of_not_acceptable hacceptable
    exact ⟨_, log.cache, hverify, iff_of_false (fun hok ↦ by cases hok) hacceptable⟩

/-- The time of an answer. -/
def answerTime : DateTime := exampleTime

/-- A challenge of the verifier `verifier-001` with a nonce of equal bytes, answered at once. -/
def promptRequest (byte : UInt8) : DateTime × AttestationChallenge :=
  (answerTime, ⟨.ofByte byte, answerTime, "verifier-001"⟩)

/-- With room for one nonce and after two acceptances, the newest nonce is refused. -/
theorem newest_nonce_refused :
    1 ≤ (ChallengeConfig.mk 300 1).nonceCacheSize ∧
      ∃ log, verifierRun "verifier-001" ⟨300, 1⟩ [promptRequest 1, promptRequest 2] = some log ∧
        log.accepted = [.ofByte 1, .ofByte 2] ∧ DistinctWithin 1 log.accepted ∧
        ∃ verdict later, verifyChallenge answerTime (promptRequest 2).2 "verifier-001" ⟨300, 1⟩
          log.cache = some (verdict, later) ∧ verdict ≠ .ok () := by
  have hsize : 1 ≤ (ChallengeConfig.mk 300 1).nonceCacheSize := by decide
  obtain ⟨log, hrun, hdistinct, hverdict⟩ := replays_are_spaced "verifier-001" ⟨300, 1⟩ hsize
    [promptRequest 1, promptRequest 2]
  have haccepted : (verifierRun "verifier-001" ⟨300, 1⟩ [promptRequest 1, promptRequest 2]).map
      NonceLog.accepted = some [.ofByte 1, .ofByte 2] := by decide
  rw [hrun] at haccepted
  have hlog : log.accepted = [.ofByte 1, .ofByte 2] := Option.some.inj haccepted
  obtain ⟨verdict, later, hverify, hiff⟩ := hverdict answerTime (promptRequest 2).2
  refine ⟨hsize, log, hrun, hlog, hdistinct, verdict, later, hverify, fun hok ↦ ?_⟩
  have hfresh := (hiff.mp hok).2.2
  rw [hlog] at hfresh
  exact hfresh (by decide)

/-- With room for one nonce, a nonce is accepted again after one other. -/
theorem evicted_nonce_accepted_again :
    ¬∀ (expectedVerifierId : String) (config : ChallengeConfig)
        (requests : List (DateTime × AttestationChallenge)), 1 ≤ config.nonceCacheSize →
      (requests.map fun request ↦ request.1.nanoseconds).Pairwise (· ≤ ·) →
      ∀ log, verifierRun expectedVerifierId config requests = some log → log.accepted.Nodup := by
  intro hclaim
  have haccepted : (verifierRun "verifier-001" ⟨300, 1⟩
      [promptRequest 1, promptRequest 2, promptRequest 1]).map NonceLog.accepted =
        some [.ofByte 1, .ofByte 2, .ofByte 1] := by decide
  obtain ⟨log, hrun, hlog⟩ := Option.map_eq_some_iff.mp haccepted
  have hnodup := hclaim "verifier-001" ⟨300, 1⟩ _ (by decide) (by decide) log hrun
  rw [hlog] at hnodup
  exact absurd hnodup (by decide)

/-! ### The end of the eviction -/

namespace NonceCache

variable {cache : NonceCache}

/-- The loop of `insert` ends: its condition fails after some number of rounds. -/
def EvictionEnds (cache : NonceCache) : Prop := ∃ rounds, (evictRounds rounds cache).isSome = true

/-- The loop body keeps the size. -/
theorem maxSize_evictOldest (cache : NonceCache) : cache.evictOldest.maxSize = cache.maxSize := by
  unfold evictOldest
  cases cache.order <;> rfl

/-- The loop body takes the oldest nonce out of the order. -/
theorem order_evictOldest (cache : NonceCache) : cache.evictOldest.order = cache.order.tail := by
  unfold evictOldest
  cases horder : cache.order with
  | nil => exact horder
  | cons oldest rest => rfl

/-- Without room for a nonce the condition of the loop holds in every round. -/
theorem evictRounds_of_maxSize_zero (hsize : cache.maxSize = 0) (rounds : ℕ) :
    evictRounds rounds cache = none := by
  induction rounds generalizing cache with
  | zero => rfl
  | succ rounds ih =>
    rw [evictRounds, if_pos (hsize ▸ Nat.zero_le _)]
    exact ih ((maxSize_evictOldest cache).trans hsize)

/-- With room for a nonce the loop ends before it has as many rounds as there are nonces, and one
more. -/
theorem evictRounds_isSome (hsize : 1 ≤ cache.maxSize) {rounds : ℕ}
    (hrounds : cache.order.length < rounds) : (evictRounds rounds cache).isSome = true := by
  induction rounds generalizing cache with
  | zero => exact absurd hrounds (Nat.not_lt_zero _)
  | succ rounds ih =>
    rw [evictRounds]
    split_ifs with hfull
    · refine ih (hsize.trans_eq (maxSize_evictOldest cache).symm) ?_
      rw [order_evictOldest, List.length_tail]
      omega
    · rfl

/-- The loop ends exactly with room for a nonce. -/
theorem evictionEnds_iff : cache.EvictionEnds ↔ 1 ≤ cache.maxSize := by
  constructor
  · rintro ⟨rounds, hends⟩
    by_contra hzero
    rw [evictRounds_of_maxSize_zero (by omega)] at hends
    cases hends
  · exact fun hsize ↦ ⟨_, evictRounds_isSome hsize (Nat.lt_succ_self _)⟩

/-- As many rounds as there are nonces and one more decide whether the loop ends. -/
theorem evict_isSome_iff : cache.evict.isSome = true ↔ cache.EvictionEnds := by
  constructor
  · exact fun hends ↦ ⟨_, hends⟩
  · exact fun hends ↦ evictRounds_isSome (evictionEnds_iff.mp hends) (Nat.lt_succ_self _)

/-- An insertion returns exactly when the nonce is contained or the loop ends. -/
theorem insert_isSome_iff {nonce : Nonce} : (cache.insert nonce).isSome = true ↔
    cache.contains nonce = true ∨ cache.EvictionEnds := by
  unfold insert
  by_cases hcontains : cache.contains nonce = true
  · rw [if_pos hcontains]
    exact iff_of_true rfl (.inl hcontains)
  · rw [if_neg hcontains, or_iff_right hcontains, ← evict_isSome_iff]
    cases cache.evict <;> exact Iff.rfl

/-- A verification returns exactly when it does not come to the insertion or the insertion
returns. -/
theorem verifyChallenge_isSome_iff {now : DateTime} {challenge : AttestationChallenge}
    {expectedVerifierId : String} {config : ChallengeConfig} :
    (verifyChallenge now challenge expectedVerifierId config cache).isSome = true ↔
      challenge.verifierId ≠ expectedVerifierId ∨ config.maxAgeSecs < challenge.ageSecs now ∨
        (cache.insert challenge.nonce).isSome = true := by
  unfold verifyChallenge
  by_cases hverifier : challenge.verifierId = expectedVerifierId
  · rw [if_neg (not_not.mpr hverifier), or_iff_right (not_not.mpr hverifier)]
    by_cases hage : challenge.ageSecs now > config.maxAgeSecs
    · rw [if_pos hage]
      exact iff_of_true rfl (.inl hage)
    · rw [if_neg hage, or_iff_right hage]
      by_cases hreplay : cache.contains challenge.nonce = true
      · rw [if_pos hreplay]
        exact iff_of_true rfl (insert_isSome_iff.mpr (.inl hreplay))
      · rw [if_neg hreplay]
        cases cache.insert challenge.nonce <;> exact Iff.rfl
  · rw [if_pos hverifier]
    exact iff_of_true rfl (.inl hverifier)

end NonceCache

namespace NonceLog

/-- A cache without room for a nonce stays empty as long as the calls return. -/
theorem cache_step_of_zero {log later : NonceLog} (hempty : log.cache = .new 0) {call : CacheCall}
    (hstep : log.step call = some later) : later.cache = .new 0 := by
  have hinsert (nonce : Nonce) : log.cache.insert nonce = none := by
    rw [← Option.not_isSome_iff_eq_none, NonceCache.insert_isSome_iff, NonceCache.evictionEnds_iff,
      hempty]
    rintro (hcontains | hsize)
    · exact absurd (of_decide_eq_true hcontains) (Finset.notMem_empty nonce)
    · exact absurd hsize (Nat.not_succ_le_zero 0)
  cases call with
  | insert nonce =>
    rw [step, hinsert] at hstep
    cases hstep
  | clear =>
    rw [step, hempty] at hstep
    cases hstep
    rfl
  | verify now expectedVerifierId config challenge =>
    rw [step] at hstep
    obtain ⟨⟨verdict, cache⟩, hverify, hlater⟩ := Option.bind_eq_some_iff.mp hstep
    obtain rfl := Option.some.inj hlater
    cases verdict with
    | error error => exact (cache_eq_of_verifyChallenge_error hverify).trans hempty
    | ok value =>
      -- a challenge is accepted behind an insertion only
      unfold verifyChallenge at hverify
      rw [hinsert] at hverify
      split_ifs at hverify
      all_goals cases hverify

/-- In every run of calls that return, the cache keeps its size, and it is empty when there is no
room in it. -/
theorem cache_run {maxSize : ℕ} {calls : List CacheCall} {log : NonceLog}
    (hrun : (new maxSize).run calls = some log) :
    log.cache.maxSize = maxSize ∧ (maxSize = 0 → log.cache = .new 0) := by
  cases maxSize with
  | zero =>
    have hempty : log.cache = .new 0 := by
      induction calls using List.reverseRecOn generalizing log with
      | nil =>
        cases hrun
        rfl
      | append_singleton calls call ih =>
        unfold run at hrun ih
        rw [List.foldlM_append] at hrun
        obtain ⟨before, hbefore, hlast⟩ := Option.bind_eq_some_iff.mp hrun
        rw [List.foldlM_cons] at hlast
        obtain ⟨after, hstep, hafter⟩ := Option.bind_eq_some_iff.mp hlast
        cases hafter
        exact cache_step_of_zero (ih hbefore) hstep
    exact ⟨congrArg NonceCache.maxSize hempty, fun _ ↦ hempty⟩
  | succ capacity =>
    obtain ⟨later, hlater, hrecent⟩ := (recent_new (capacity + 1)).run calls
    rw [hrun] at hlater
    obtain rfl := Option.some.inj hlater
    exact ⟨congrArg NonceCache.maxSize hrecent.cache_eq,
      fun hzero ↦ absurd hzero (Nat.succ_ne_zero capacity)⟩

end NonceLog

/-- In every cache that calls lead to, the loop of `insert` ends exactly when the cache was made
with room for a nonce, an insertion of any nonce returns exactly then, and a verification returns
then and when the challenge is refused for its verifier or its age. -/
theorem eviction_ends_iff (maxSize : ℕ) (calls : List CacheCall) (log : NonceLog)
    (hrun : (NonceLog.new maxSize).run calls = some log) :
    (log.cache.EvictionEnds ↔ 1 ≤ maxSize) ∧
      (∀ nonce, (log.cache.insert nonce).isSome = true ↔ 1 ≤ maxSize) ∧
      ∀ now challenge expectedVerifierId config,
        (verifyChallenge now challenge expectedVerifierId config log.cache).isSome = true ↔
          1 ≤ maxSize ∨ challenge.verifierId ≠ expectedVerifierId ∨
            config.maxAgeSecs < challenge.ageSecs now := by
  obtain ⟨hsize, hempty⟩ := cache_run hrun
  have hends : log.cache.EvictionEnds ↔ 1 ≤ maxSize := by
    rw [NonceCache.evictionEnds_iff, hsize]
  have hinsert : ∀ nonce, (log.cache.insert nonce).isSome = true ↔ 1 ≤ maxSize := by
    intro nonce
    rw [NonceCache.insert_isSome_iff, hends]
    refine or_iff_right_of_imp fun hcontains ↦ Nat.pos_of_ne_zero fun hzero ↦ ?_
    rw [hempty hzero] at hcontains
    exact absurd (of_decide_eq_true hcontains) (Finset.notMem_empty nonce)
  refine ⟨hends, hinsert, fun now challenge expectedVerifierId config ↦ ?_⟩
  rw [NonceCache.verifyChallenge_isSome_iff, hinsert, ← or_assoc, or_comm]

/-- After an insertion into a cache for one nonce, the next insertion returns. -/
theorem eviction_ends_with_room :
    ∃ log, (NonceLog.new 1).run [.insert (.ofByte 1)] = some log ∧
      (log.cache.insert (.ofByte 2)).isSome = true := by
  obtain ⟨log, hrun⟩ : ∃ log, (NonceLog.new 1).run [.insert (.ofByte 1)] = some log := ⟨_, rfl⟩
  obtain ⟨-, hinsert, -⟩ := eviction_ends_iff 1 [.insert (.ofByte 1)] log hrun
  exact ⟨log, hrun, (hinsert _).mpr (le_refl 1)⟩

/-- Without room for a nonce, no number of rounds ends the first insertion or verification. -/
theorem eviction_without_room_never_ends :
    ¬(NonceCache.new 0).EvictionEnds ∧ (NonceCache.new 0).insert (.ofByte 1) = none ∧
      verifyChallenge answerTime (promptRequest 1).2 "verifier-001" ⟨300, 0⟩ (.new 0) = none := by
  refine ⟨fun hends ↦ ?_, by decide, by decide⟩
  exact absurd (NonceCache.evictionEnds_iff.mp hends) (Nat.not_succ_le_zero 0)

end Clawbernetes.MoltAttestation
