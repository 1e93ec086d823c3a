import Clawbernetes.Library.Runs
import Clawbernetes.MoltP2p.Message
import Clawbernetes.MoltP2p.RateLimit

/-!
# The gossip broadcaster

`gossip/broadcast.rs`. A broadcaster remembers the ids it has seen (`seenMessages`, in the order
`seenOrder`), caches announcements by peer (`announcementCache`, in the order `announcementOrder`)
and chooses the peers to which a message is passed on. Hash maps are finite tables and the queues
are lists with the oldest element first.

What a call reads from outside is an argument, an `Ambient`: every reading of the monotonic clock
and of the wall clock, the random message id, the order in which a hash set is walked and the
shuffle of the candidates. The two passes of `cleanup` over an entry read the wall clock once each,
and the readings may differ.

`perform` runs one call of the public interface. `handleMessage_cases` says once what handling a
message can do, in terms of the sweep, `markSeen`, `cacheAnnouncement` and the choice of targets,
and every later result about the broadcaster goes through it. `mem_selectAmong` and
`length_selectAmong_le` are what is known of the targets.
-/

set_option autoImplicit false
set_option relaxedAutoImplicit false

namespace Clawbernetes.MoltP2p

open Library.FiniteTable

/-! ### Configuration, entries and results -/

/-- `BroadcastConfig`. -/
structure BroadcastConfig where
  fanout : ℕ
  maxTtlHops : UInt8
  seenCacheTtl : Duration
  maxSeenCache : ℕ
  announcementCacheTtl : Duration
  maxAnnouncementsPerPeer : ℕ
  maxTotalAnnouncements : ℕ
  cleanupInterval : Duration
  rateLimit : RateLimitConfig
  deriving DecidableEq

/-- `BroadcastConfig::default`. -/
def BroadcastConfig.default : BroadcastConfig where
  fanout := 3
  maxTtlHops := 6
  seenCacheTtl := .fromSecs 300
  maxSeenCache := 10000
  announcementCacheTtl := .fromSecs 600
  maxAnnouncementsPerPeer := 5
  maxTotalAnnouncements := 10000
  cleanupInterval := .fromSecs 60
  rateLimit := .default

/-- `BroadcastResult`. -/
structure BroadcastResult where
  messageId : MessageId
  targetPeers : List PeerId
  wasDuplicate : Bool
  deriving DecidableEq

/-- `SeenEntry`. -/
structure SeenEntry where
  addedAt : ℕ
  fromPeer : PeerId
  deriving DecidableEq

/-- `AnnouncementKey`. -/
structure AnnouncementKey where
  peerId : PeerId
  seq : ℕ
  deriving DecidableEq

/-- `CachedAnnouncement`. -/
structure CachedAnnouncement where
  announcement : CapacityAnnouncement
  cachedAt : ℕ
  key : AnnouncementKey
  deriving DecidableEq

/-! ### What a call reads from outside -/

/-- A rearrangement of lists of peers, by the walk over a hash set or by a shuffle. -/
structure Arrangement where
  arrange : List PeerId → List PeerId
  perm : ∀ peers, (arrange peers).Perm peers

/-- The arrangement that leaves every list as it is. -/
def Arrangement.identity : Arrangement := ⟨id, fun peers ↦ List.Perm.refl peers⟩

/-- The clock readings of `cleanup`: the monotonic clock once, and the wall clock for every entry
when the expired entries are collected and again when the others are kept. -/
structure SweepReadings where
  now : ℕ
  collect : AnnouncementKey → ℤ
  keep : AnnouncementKey → ℤ

/-- The clock readings and random choices of one call, each named after the place that asks for
it. -/
structure Ambient where
  limiter : ℕ
  elapsed : ℕ
  sweep : SweepReadings
  expiry : ℤ
  marking : ℕ
  caching : ℕ
  messageId : MessageId
  walk : Arrangement
  shuffle : Arrangement

/-- Everything is read at one moment of both clocks and no list is rearranged. -/
def Ambient.still (now : ℕ) (messageId : MessageId) : Ambient where
  limiter := now
  elapsed := now
  sweep := ⟨now, fun _ ↦ now, fun _ ↦ now⟩
  expiry := now
  marking := now
  caching := now
  messageId := messageId
  walk := .identity
  shuffle := .identity

/-! ### The broadcaster -/

/-- `GossipBroadcaster`. -/
structure GossipBroadcaster where
  localPeerId : PeerId
  config : BroadcastConfig
  knownPeers : Table PeerId Unit
  seenMessages : Table MessageId SeenEntry
  seenOrder : List MessageId
  announcementCache : Table PeerId (List CachedAnnouncement)
  announcementOrder : List AnnouncementKey
  nextAnnouncementSeq : ℕ
  lastCleanup : ℕ
  rateLimiter : RateLimiter

namespace GossipBroadcaster

/-- `GossipBroadcaster::new`. -/
def new (now : ℕ) (localPeerId : PeerId) (config : BroadcastConfig) : GossipBroadcaster where
  localPeerId := localPeerId
  config := config
  knownPeers := ∅
  seenMessages := ∅
  seenOrder := []
  announcementCache := ∅
  announcementOrder := []
  nextAnnouncementSeq := 0
  lastCleanup := now
  rateLimiter := .new now config.rateLimit

/-- `GossipBroadcaster::add_peer`. -/
def addPeer (broadcaster : GossipBroadcaster) (peerId : PeerId) : GossipBroadcaster :=
  if peerId ≠ broadcaster.localPeerId then
    { broadcaster with knownPeers := broadcaster.knownPeers.insert peerId () }
  else broadcaster

/-- `GossipBroadcaster::remove_peer`. -/
def removePeer (broadcaster : GossipBroadcaster) (peerId : PeerId) : GossipBroadcaster :=
  { broadcaster with
    knownPeers := broadcaster.knownPeers.erase peerId
    announcementCache := broadcaster.announcementCache.erase peerId
    announcementOrder := broadcaster.announcementOrder.filter fun key ↦ key.peerId ≠ peerId }

/-- `GossipBroadcaster::has_seen`. -/
def hasSeen (broadcaster : GossipBroadcaster) (messageId : MessageId) : Bool :=
  (broadcaster.seenMessages.lookup messageId).isSome

/-- The number of announcements in a cache. -/
def countCached (cache : Table PeerId (List CachedAnnouncement)) : ℕ :=
  total List.length cache

/-- `GossipBroadcaster::cached_announcement_count`. -/
def cachedAnnouncementCount (broadcaster : GossipBroadcaster) : ℕ :=
  countCached broadcaster.announcementCache

/-! ### Choosing the targets -/

/-- The common body of the two selections: the known peers that are not excluded, in the order of
the walk when there are at most `fanout` of them and a random choice of `fanout` otherwise. -/
def selectAmong (broadcaster : GossipBroadcaster) (ambient : Ambient) (eligible : PeerId → Bool) :
    List PeerId :=
  let candidates := ambient.walk.arrange (broadcaster.knownPeers.keys.filter eligible)
  if candidates.length ≤ broadcaster.config.fanout then candidates
  else (ambient.shuffle.arrange candidates).take broadcaster.config.fanout

/-- `GossipBroadcaster::select_fanout_peers`. -/
def selectFanoutPeers (broadcaster : GossipBroadcaster) (ambient : Ambient)
    (exclude : Option PeerId) : List PeerId :=
  broadcaster.selectAmong ambient fun peer ↦ exclude.all fun excluded ↦ peer ≠ excluded

/-- `GossipBroadcaster::select_fanout_peers_excluding`. -/
def selectFanoutPeersExcluding (broadcaster : GossipBroadcaster) (ambient : Ambient)
    (exclude : List PeerId) : List PeerId :=
  broadcaster.selectAmong ambient fun peer ↦ peer ∉ exclude

/-! ### The cache of seen messages -/

/-- The eviction at the start of `mark_seen`: the oldest id leaves a full cache. -/
def evictSeen (broadcaster : GossipBroadcaster) : GossipBroadcaster :=
  if broadcaster.config.maxSeenCache ≤ broadcaster.seenMessages.keys.length then
    match broadcaster.seenOrder with
    | [] => broadcaster
    | oldest :: rest =>
      { broadcaster with
        seenMessages := broadcaster.seenMessages.erase oldest
        seenOrder := rest }
  else broadcaster

/-- `GossipBroadcaster::mark_seen`. -/
def markSeen (broadcaster : GossipBroadcaster) (now : ℕ) (messageId : MessageId)
    (fromPeer : PeerId) : GossipBroadcaster :=
  let evicted := broadcaster.evictSeen
  { evicted with
    seenMessages := evicted.seenMessages.insert messageId ⟨now, fromPeer⟩
    seenOrder := evicted.seenOrder ++ [messageId] }

/-! ### The cache of announcements -/

/-- The first block of `cache_announcement`: the entries of the peer with the creation time of the
new one leave the cache and the order. -/
def dropSameCreation (broadcaster : GossipBroadcaster) (cached : CachedAnnouncement) :
    GossipBroadcaster :=
  let entries := itemsAt broadcaster.announcementCache cached.announcement.peerId
  let same := fun entry : CachedAnnouncement ↦
    entry.announcement.createdAt = cached.announcement.createdAt
  let removedKeys := (entries.filter fun entry ↦ same entry).map CachedAnnouncement.key
  { broadcaster with
    announcementCache := broadcaster.announcementCache.insert cached.announcement.peerId
      (entries.filter fun entry ↦ ¬ same entry)
    announcementOrder := removedKeys.foldl
      (fun order removed ↦ order.filter fun key ↦ key ≠ removed) broadcaster.announcementOrder }

/-- The body of the eviction loop: the entry with the given key leaves the cache, and its peer with
the last of its entries. -/
def dropKey (cache : Table PeerId (List CachedAnnouncement)) (oldest : AnnouncementKey) :
    Table PeerId (List CachedAnnouncement) :=
  match cache.lookup oldest.peerId with
  | none => cache
  | some entries =>
    let kept := entries.filter fun entry ↦ entry.key ≠ oldest
    if kept = [] then cache.erase oldest.peerId else cache.insert oldest.peerId kept

/-- The eviction loop of `cache_announcement`: while the cache is at the total limit the oldest key
is popped and its entry dropped. The loop also ends when the order is empty. -/
def evictLoop (limit : ℕ) : List AnnouncementKey → Table PeerId (List CachedAnnouncement) →
    List AnnouncementKey × Table PeerId (List CachedAnnouncement)
  | [], cache => ([], cache)
  | oldest :: rest, cache =>
    if limit ≤ countCached cache then evictLoop limit rest (dropKey cache oldest)
    else (oldest :: rest, cache)

/-- The trimming loop of `cache_announcement`: while the peer has too many entries its first one is
removed, from its entries and from the order. -/
def trimLoop (limit : ℕ) : List CachedAnnouncement → List AnnouncementKey →
    List CachedAnnouncement × List AnnouncementKey
  | [], order => ([], order)
  | first :: rest, order =>
    if limit < (first :: rest).length then
      trimLoop limit rest (order.filter fun key ↦ key ≠ first.key)
    else (first :: rest, order)

/-- The end of `cache_announcement`: the new entry is added to its peer and to the order, and the
peer is trimmed. -/
def addCached (broadcaster : GossipBroadcaster) (cached : CachedAnnouncement) :
    GossipBroadcaster :=
  let peerId := cached.announcement.peerId
  let entries := itemsAt broadcaster.announcementCache peerId ++ [cached]
  let order := broadcaster.announcementOrder ++ [cached.key]
  let trimmed := trimLoop broadcaster.config.maxAnnouncementsPerPeer entries order
  { broadcaster with
    announcementCache := broadcaster.announcementCache.insert peerId trimmed.1
    announcementOrder := trimmed.2 }

/-- The eviction of `cache_announcement`. -/
def evictAnnouncements (broadcaster : GossipBroadcaster) : GossipBroadcaster :=
  let evicted := evictLoop broadcaster.config.maxTotalAnnouncements broadcaster.announcementOrder
    broadcaster.announcementCache
  { broadcaster with announcementOrder := evicted.1, announcementCache := evicted.2 }

/-- The entry that `cache_announcement` makes of an announcement. -/
def newEntry (broadcaster : GossipBroadcaster) (now : ℕ) (announcement : CapacityAnnouncement) :
    CachedAnnouncement :=
  ⟨announcement, now, ⟨announcement.peerId, broadcaster.nextAnnouncementSeq⟩⟩

/-- The broadcaster with the next sequence number, which wraps at `2 ^ 64`. -/
def advanceSeq (broadcaster : GossipBroadcaster) : GossipBroadcaster :=
  { broadcaster with nextAnnouncementSeq := (broadcaster.nextAnnouncementSeq + 1) % 2 ^ 64 }

/-- `GossipBroadcaster::cache_announcement`. -/
def cacheAnnouncement (broadcaster : GossipBroadcaster) (now : ℕ)
    (announcement : CapacityAnnouncement) : GossipBroadcaster :=
  let cached := broadcaster.newEntry now announcement
  ((broadcaster.advanceSeq.dropSameCreation cached).evictAnnouncements).addCached cached

/-! ### Cleanup -/

/-- The entry is older than the time to live of the cache. -/
def tooOld (config : BroadcastConfig) (now : ℕ) (entry : CachedAnnouncement) : Bool :=
  config.announcementCacheTtl.nanoseconds ≤ now - entry.cachedAt

/-- The test of the collecting pass of `cleanup`. -/
def isCollected (config : BroadcastConfig) (readings : SweepReadings)
    (entry : CachedAnnouncement) : Bool :=
  tooOld config readings.now entry || entry.announcement.isExpired (readings.collect entry.key)

/-- The test of the keeping pass of `cleanup`. -/
def isKept (config : BroadcastConfig) (readings : SweepReadings) (entry : CachedAnnouncement) :
    Bool :=
  !tooOld config readings.now entry && !entry.announcement.isExpired (readings.keep entry.key)

/-- The test of `cleanup` on a seen entry. -/
def isFresh (config : BroadcastConfig) (now : ℕ) (entry : SeenEntry) : Bool :=
  now - entry.addedAt < config.seenCacheTtl.nanoseconds

/-- The keys that the collecting pass of `cleanup` gathers. -/
def collectedKeys (config : BroadcastConfig) (readings : SweepReadings)
    (cache : Table PeerId (List CachedAnnouncement)) : List AnnouncementKey :=
  ((flatten cache).filter fun entry ↦ isCollected config readings entry).map CachedAnnouncement.key

/-- `GossipBroadcaster::cleanup`. -/
def cleanup (broadcaster : GossipBroadcaster) (readings : SweepReadings) : GossipBroadcaster :=
  let config := broadcaster.config
  let seenMessages := retain (fun _ entry ↦ isFresh config readings.now entry)
    broadcaster.seenMessages
  let removedKeys := collectedKeys config readings broadcaster.announcementCache
  { broadcaster with
    lastCleanup := readings.now
    seenMessages := seenMessages
    seenOrder := broadcaster.seenOrder.filter fun messageId ↦ messageId ∈ seenMessages.keys
    announcementCache := keepItems (fun entry ↦ isKept config readings entry)
      broadcaster.announcementCache
    announcementOrder := broadcaster.announcementOrder.filter fun key ↦ key ∉ removedKeys }

/-- The periodic sweep is due. -/
def sweepDue (broadcaster : GossipBroadcaster) (elapsed : ℕ) : Bool :=
  broadcaster.config.cleanupInterval.nanoseconds ≤ elapsed - broadcaster.lastCleanup

/-- `GossipBroadcaster::maybe_cleanup`. -/
def maybeCleanup (broadcaster : GossipBroadcaster) (ambient : Ambient) : GossipBroadcaster :=
  if broadcaster.sweepDue ambient.elapsed then broadcaster.cleanup ambient.sweep else broadcaster

/-! ### Announcing and handling messages -/

/-- `GossipBroadcaster::prepare_announce`. -/
def prepareAnnounce (broadcaster : GossipBroadcaster) (ambient : Ambient)
    (announcement : CapacityAnnouncement) : GossipBroadcaster × BroadcastResult :=
  let messageId := ambient.messageId
  let targetPeers := broadcaster.selectFanoutPeers ambient none
  let marked := broadcaster.markSeen ambient.marking messageId broadcaster.localPeerId
  (marked.cacheAnnouncement ambient.caching announcement, ⟨messageId, targetPeers, false⟩)

/-- `GossipBroadcaster::handle_announce`. -/
def handleAnnounce (scheme : SignatureScheme) (broadcaster : GossipBroadcaster) (ambient : Ambient)
    (messageId : MessageId) (announcement : CapacityAnnouncement) (ttlHops : UInt8)
    (fromPeer : PeerId) : GossipBroadcaster × Except P2pError BroadcastResult :=
  if broadcaster.hasSeen messageId then (broadcaster, .ok ⟨messageId, [], true⟩)
  else match announcement.peerId.toVerifyingKey scheme with
  | none => (broadcaster, .error (.protocol "Invalid peer ID: cannot derive verifying key"))
  | some verifyingKey =>
    match announcement.verify scheme verifyingKey with
    | .error reason => (broadcaster, .error (.gossip
        ("Announcement signature verification failed: protocol error: " ++ reason)))
    | .ok () =>
      let marked := broadcaster.markSeen ambient.marking messageId fromPeer
      let cached := marked.cacheAnnouncement ambient.caching announcement
      if ttlHops = 0 then (cached, .ok ⟨messageId, [], false⟩)
      else if announcement.isExpired ambient.expiry then
        (broadcaster, .error (.gossip "Received expired announcement"))
      else (cached, .ok ⟨messageId, cached.selectFanoutPeers ambient (some fromPeer), false⟩)

/-- `GossipBroadcaster::handle_query`. -/
def handleQuery (broadcaster : GossipBroadcaster) (ambient : Ambient) (query : GossipQuery)
    (fromPeer : PeerId) : GossipBroadcaster × Except P2pError BroadcastResult :=
  if broadcaster.hasSeen query.queryId then (broadcaster, .ok ⟨query.queryId, [], true⟩)
  else
    let marked := broadcaster.markSeen ambient.marking query.queryId fromPeer
    if query.ttlHops = 0 then (marked, .ok ⟨query.queryId, [], false⟩)
    else
      let targetPeers := marked.selectFanoutPeersExcluding ambient [fromPeer, query.fromPeer]
      (marked, .ok ⟨query.queryId, targetPeers, false⟩)

/-- The part of `handle_message` behind the rate limiter and the sweep. -/
def dispatch (scheme : SignatureScheme) (broadcaster : GossipBroadcaster) (ambient : Ambient)
    (message : GossipMessage) (fromPeer : PeerId) :
    GossipBroadcaster × Except P2pError BroadcastResult :=
  match message with
  | .announce messageId announcement ttlHops =>
    broadcaster.handleAnnounce scheme ambient messageId announcement ttlHops fromPeer
  | .query query => broadcaster.handleQuery ambient query fromPeer
  | .response queryId _ _ =>
    (broadcaster.markSeen ambient.marking queryId fromPeer, .ok ⟨queryId, [], false⟩)
  | .heartbeat _ _ | .syncRequest _ _ | .syncResponse _ =>
    (broadcaster, .ok ⟨ambient.messageId, [], false⟩)

/-- `GossipBroadcaster::handle_message`. A panic of the rate limiter unwinds out of it, which is an
error here: nothing is returned and only the rate limiter has changed. -/
def handleMessage (scheme : SignatureScheme) (broadcaster : GossipBroadcaster) (ambient : Ambient)
    (message : GossipMessage) (fromPeer : PeerId) :
    GossipBroadcaster × Except P2pError BroadcastResult :=
  let (limiter, verdict) := broadcaster.rateLimiter.checkAndRecord ambient.limiter fromPeer
  let limited := { broadcaster with rateLimiter := limiter }
  match verdict with
  | some .allowed => (limited.maybeCleanup ambient).dispatch scheme ambient message fromPeer
  | some .rateLimited => (limited, .error (.rateLimited fromPeer))
  | some (.banned _) => (limited, .error (.peerBanned fromPeer))
  | none => (limited, .error .panicked)

/-! ### What handling a message can do -/

/-- The broadcaster behind the rate limiter. -/
def limited (broadcaster : GossipBroadcaster) (ambient : Ambient) (fromPeer : PeerId) :
    GossipBroadcaster :=
  { broadcaster with
    rateLimiter := (broadcaster.rateLimiter.checkAndRecord ambient.limiter fromPeer).1 }

/-- The rate limiter lets a message of the peer through. -/
def allows (broadcaster : GossipBroadcaster) (ambient : Ambient) (fromPeer : PeerId) : Bool :=
  (broadcaster.rateLimiter.checkAndRecord ambient.limiter fromPeer).2 = some .allowed

/-- The broadcaster behind the rate limiter and the periodic sweep. -/
def swept (broadcaster : GossipBroadcaster) (ambient : Ambient) (fromPeer : PeerId) :
    GossipBroadcaster :=
  (broadcaster.limited ambient fromPeer).maybeCleanup ambient

/-- The checks an announcement has to pass before it is cached: the key of its peer decodes, the
signature verifies under it and, unless no hop remains, it has not expired. -/
def Accepts (scheme : SignatureScheme) (ambient : Ambient) (announcement : CapacityAnnouncement)
    (ttlHops : UInt8) : Prop :=
  (∃ key, announcement.peerId.toVerifyingKey scheme = some key ∧
    announcement.verify scheme key = .ok ()) ∧
    (ttlHops = 0 ∨ announcement.isExpired ambient.expiry = false)

/-- The identity, the configuration and the known peers are the same. -/
structure SamePeers (before after : GossipBroadcaster) : Prop where
  localPeerId : after.localPeerId = before.localPeerId
  config : after.config = before.config
  knownPeers : after.knownPeers = before.knownPeers

theorem SamePeers.trans {before middle after : GossipBroadcaster}
    (hfirst : before.SamePeers middle) (hsecond : middle.SamePeers after) :
    before.SamePeers after where
  localPeerId := hsecond.localPeerId.trans hfirst.localPeerId
  config := hsecond.config.trans hfirst.config
  knownPeers := hsecond.knownPeers.trans hfirst.knownPeers

/-- Eviction from the seen cache keeps the peers. -/
theorem samePeers_evictSeen (broadcaster : GossipBroadcaster) :
    broadcaster.SamePeers broadcaster.evictSeen := by
  unfold evictSeen
  split
  · split
    · exact ⟨rfl, rfl, rfl⟩
    · exact ⟨rfl, rfl, rfl⟩
  · exact ⟨rfl, rfl, rfl⟩

/-- Marking an id keeps the peers. -/
theorem samePeers_markSeen (broadcaster : GossipBroadcaster) (now : ℕ) (messageId : MessageId)
    (fromPeer : PeerId) :
    broadcaster.SamePeers (broadcaster.markSeen now messageId fromPeer) := by
  obtain ⟨hlocal, hconfig, hpeers⟩ := samePeers_evictSeen broadcaster
  exact ⟨hlocal, hconfig, hpeers⟩

/-- Caching an announcement keeps the peers. -/
theorem samePeers_cacheAnnouncement (broadcaster : GossipBroadcaster) (now : ℕ)
    (announcement : CapacityAnnouncement) :
    broadcaster.SamePeers (broadcaster.cacheAnnouncement now announcement) := by
  unfold cacheAnnouncement addCached evictAnnouncements dropSameCreation advanceSeq
  exact ⟨rfl, rfl, rfl⟩

/-- The rate limiter and the sweep keep the peers. -/
theorem samePeers_swept (broadcaster : GossipBroadcaster) (ambient : Ambient)
    (fromPeer : PeerId) : broadcaster.SamePeers (broadcaster.swept ambient fromPeer) := by
  unfold swept maybeCleanup
  split
  · exact ⟨rfl, rfl, rfl⟩
  · exact ⟨rfl, rfl, rfl⟩

/-- The targets depend on the known peers and the configuration only. -/
theorem SamePeers.selectAmong {before after : GossipBroadcaster} (hsame : before.SamePeers after)
    (ambient : Ambient) (eligible : PeerId → Bool) :
    after.selectAmong ambient eligible = before.selectAmong ambient eligible := by
  unfold GossipBroadcaster.selectAmong
  rw [hsame.config, hsame.knownPeers]

/-- `handleMessage` is the dispatch behind the rate limiter and the sweep. -/
theorem handleMessage_of_allows {scheme : SignatureScheme} {broadcaster : GossipBroadcaster}
    {ambient : Ambient} {fromPeer : PeerId}
    (hallows : broadcaster.allows ambient fromPeer = true) (message : GossipMessage) :
    broadcaster.handleMessage scheme ambient message fromPeer =
      (broadcaster.swept ambient fromPeer).dispatch scheme ambient message fromPeer := by
  have hverdict :
      (broadcaster.rateLimiter.checkAndRecord ambient.limiter fromPeer).2 = some .allowed :=
    of_decide_eq_true hallows
  unfold handleMessage
  simp only [hverdict]
  rfl

/-- A message the rate limiter does not let through fails and changes the rate limiter only. -/
theorem handleMessage_of_not_allows (scheme : SignatureScheme) {broadcaster : GossipBroadcaster}
    {ambient : Ambient} {fromPeer : PeerId}
    (hallows : broadcaster.allows ambient fromPeer = false) (message : GossipMessage) :
    ∃ error, broadcaster.handleMessage scheme ambient message fromPeer =
      (broadcaster.limited ambient fromPeer, .error error) := by
  have hverdict :
      (broadcaster.rateLimiter.checkAndRecord ambient.limiter fromPeer).2 ≠ some .allowed :=
    of_decide_eq_false hallows
  unfold handleMessage limited
  generalize broadcaster.rateLimiter.checkAndRecord ambient.limiter fromPeer = checked at *
  obtain ⟨limiter, verdict⟩ := checked
  rcases verdict with _ | (_ | _ | until_)
  · exact ⟨.panicked, rfl⟩
  · exact absurd rfl hverdict
  · exact ⟨.rateLimited fromPeer, rfl⟩
  · exact ⟨.peerBanned fromPeer, rfl⟩

/-- What `handleMessage` does to the broadcaster and what it returns. -/
inductive Handled (scheme : SignatureScheme) (broadcaster : GossipBroadcaster) (ambient : Ambient)
    (fromPeer : PeerId) (message : GossipMessage) (after : GossipBroadcaster)
    (result : Except P2pError BroadcastResult) : Prop
  | refused (error : P2pError) (hallows : broadcaster.allows ambient fromPeer = false)
      (hafter : after = broadcaster.limited ambient fromPeer) (hresult : result = .error error)
  | rejected (messageId : MessageId) (announcement : CapacityAnnouncement) (ttlHops : UInt8)
      (error : P2pError) (hallows : broadcaster.allows ambient fromPeer = true)
      (hmessage : message = .announce messageId announcement ttlHops)
      (haccepts : ¬ Accepts scheme ambient announcement ttlHops)
      (hafter : after = broadcaster.swept ambient fromPeer) (hresult : result = .error error)
  | duplicate (messageId : MessageId) (hallows : broadcaster.allows ambient fromPeer = true)
      (hid : message.messageId = some messageId) (hbroadcast : message.ttlHops?.isSome = true)
      (hseen : (broadcaster.swept ambient fromPeer).hasSeen messageId = true)
      (hafter : after = broadcaster.swept ambient fromPeer)
      (hresult : result = .ok ⟨messageId, [], true⟩)
  | announced (messageId : MessageId) (announcement : CapacityAnnouncement) (ttlHops : UInt8)
      (hallows : broadcaster.allows ambient fromPeer = true)
      (hmessage : message = .announce messageId announcement ttlHops)
      (hseen : (broadcaster.swept ambient fromPeer).hasSeen messageId = false)
      (haccepts : Accepts scheme ambient announcement ttlHops)
      (hafter : after = ((broadcaster.swept ambient fromPeer).markSeen ambient.marking messageId
        fromPeer).cacheAnnouncement ambient.caching announcement)
      (hresult : result = .ok ⟨messageId, if ttlHops = 0 then [] else
        broadcaster.selectFanoutPeers ambient (some fromPeer), false⟩)
  | queried (query : GossipQuery) (hallows : broadcaster.allows ambient fromPeer = true)
      (hmessage : message = .query query)
      (hseen : (broadcaster.swept ambient fromPeer).hasSeen query.queryId = false)
      (hafter : after =
        (broadcaster.swept ambient fromPeer).markSeen ambient.marking query.queryId fromPeer)
      (hresult : result = .ok ⟨query.queryId, if query.ttlHops = 0 then [] else
        broadcaster.selectFanoutPeersExcluding ambient [fromPeer, query.fromPeer], false⟩)
  | responded (queryId : MessageId) (responder : PeerId)
      (announcements : List CapacityAnnouncement)
      (hallows : broadcaster.allows ambient fromPeer = true)
      (hmessage : message = .response queryId responder announcements)
      (hafter : after =
        (broadcaster.swept ambient fromPeer).markSeen ambient.marking queryId fromPeer)
      (hresult : result = .ok ⟨queryId, [], false⟩)
  | ignored (hallows : broadcaster.allows ambient fromPeer = true)
      (hid : message.messageId = none) (hafter : after = broadcaster.swept ambient fromPeer)
      (hresult : result = .ok ⟨ambient.messageId, [], false⟩)

section Handling

variable {scheme : SignatureScheme} {broadcaster : GossipBroadcaster} {ambient : Ambient}
  {fromPeer : PeerId}

/-- The cases of an announcement. -/
theorem handled_handleAnnounce (hallows : broadcaster.allows ambient fromPeer = true)
    (messageId : MessageId) (announcement : CapacityAnnouncement) (ttlHops : UInt8) :
    Handled scheme broadcaster ambient fromPeer (.announce messageId announcement ttlHops)
      ((broadcaster.swept ambient fromPeer).handleAnnounce scheme ambient messageId announcement
        ttlHops fromPeer).1
      ((broadcaster.swept ambient fromPeer).handleAnnounce scheme ambient messageId announcement
        ttlHops fromPeer).2 := by
  unfold handleAnnounce
  by_cases hseen : (broadcaster.swept ambient fromPeer).hasSeen messageId = true
  · rw [if_pos hseen]
    exact .duplicate messageId hallows rfl rfl hseen rfl rfl
  rw [if_neg hseen]
  rw [Bool.not_eq_true] at hseen
  cases hkey : announcement.peerId.toVerifyingKey scheme with
  | none =>
    refine .rejected messageId announcement ttlHops _ hallows rfl ?_ rfl rfl
    rintro ⟨⟨key, hfound, -⟩, -⟩
    rw [hkey] at hfound
    cases hfound
  | some key =>
    dsimp only
    cases hverify : announcement.verify scheme key with
    | error reason =>
      refine .rejected messageId announcement ttlHops _ hallows rfl ?_ rfl rfl
      rintro ⟨⟨found, hfound, hverified⟩, -⟩
      obtain rfl : key = found := Option.some.inj (hkey.symm.trans hfound)
      rw [hverify] at hverified
      cases hverified
    | ok verified =>
      have hsigned : ∃ key, announcement.peerId.toVerifyingKey scheme = some key ∧
          announcement.verify scheme key = .ok () := ⟨key, hkey, hverify⟩
      by_cases httl : ttlHops = 0
      · refine .announced messageId announcement ttlHops hallows rfl hseen
          ⟨hsigned, .inl httl⟩ ?_ ?_
        · simp only [if_pos httl]
        · simp only [if_pos httl]
      by_cases hexpired : announcement.isExpired ambient.expiry = true
      · simp only [if_neg httl, if_pos hexpired]
        refine .rejected messageId announcement ttlHops _ hallows rfl ?_ rfl rfl
        rintro ⟨-, hzero | hlive⟩
        · exact httl hzero
        · rw [hexpired] at hlive
          cases hlive
      · have hpeers := ((samePeers_swept broadcaster ambient fromPeer).trans
          (samePeers_markSeen _ ambient.marking messageId fromPeer)).trans
          (samePeers_cacheAnnouncement _ ambient.caching announcement)
        simp only [if_neg httl, if_neg hexpired]
        refine .announced messageId announcement ttlHops hallows rfl hseen
          ⟨hsigned, .inr (eq_false_of_ne_true hexpired)⟩ rfl ?_
        rw [if_neg httl, selectFanoutPeers, hpeers.selectAmong]
        rfl

/-- The cases of a query. -/
theorem handled_handleQuery (hallows : broadcaster.allows ambient fromPeer = true)
    (query : GossipQuery) :
    Handled scheme broadcaster ambient fromPeer (.query query)
      ((broadcaster.swept ambient fromPeer).handleQuery ambient query fromPeer).1
      ((broadcaster.swept ambient fromPeer).handleQuery ambient query fromPeer).2 := by
  unfold handleQuery
  by_cases hseen : (broadcaster.swept ambient fromPeer).hasSeen query.queryId = true
  · rw [if_pos hseen]
    exact .duplicate query.queryId hallows rfl rfl hseen rfl rfl
  rw [if_neg hseen]
  rw [Bool.not_eq_true] at hseen
  by_cases httl : query.ttlHops = 0
  · simp only [if_pos httl]
    exact .queried query hallows rfl hseen rfl (by rw [if_pos httl])
  · have hpeers := (samePeers_swept broadcaster ambient fromPeer).trans
      (samePeers_markSeen _ ambient.marking query.queryId fromPeer)
    simp only [if_neg httl]
    refine .queried query hallows rfl hseen rfl ?_
    rw [if_neg httl, selectFanoutPeersExcluding, hpeers.selectAmong]
    rfl

/-- Everything that handling a message can do. -/
theorem handleMessage_cases (message : GossipMessage) :
    Handled scheme broadcaster ambient fromPeer message
      (broadcaster.handleMessage scheme ambient message fromPeer).1
      (broadcaster.handleMessage scheme ambient message fromPeer).2 := by
  cases hallows : broadcaster.allows ambient fromPeer with
  | false =>
    obtain ⟨error, hhandled⟩ := handleMessage_of_not_allows scheme hallows message
    rw [hhandled]
    exact .refused error hallows rfl rfl
  | true =>
    rw [handleMessage_of_allows hallows]
    cases message with
    | announce messageId announcement ttlHops =>
      exact handled_handleAnnounce hallows messageId announcement ttlHops
    | query query => exact handled_handleQuery hallows query
    | response queryId responder announcements =>
      exact .responded queryId responder announcements hallows rfl rfl rfl
    | heartbeat peer timestamp => exact .ignored hallows rfl rfl rfl
    | syncRequest peer since => exact .ignored hallows rfl rfl rfl
    | syncResponse announcements => exact .ignored hallows rfl rfl rfl

/-- Handling a message keeps the peers. -/
theorem samePeers_handleMessage (message : GossipMessage) :
    broadcaster.SamePeers (broadcaster.handleMessage scheme ambient message fromPeer).1 := by
  have hswept := samePeers_swept broadcaster ambient fromPeer
  have hmarked := fun messageId ↦
    hswept.trans (samePeers_markSeen _ ambient.marking messageId fromPeer)
  have hhandled : Handled scheme broadcaster ambient fromPeer message _ _ :=
    handleMessage_cases message
  generalize broadcaster.handleMessage scheme ambient message fromPeer = handled at *
  obtain ⟨after, result⟩ := handled
  rcases hhandled with ⟨_, _, rfl, _⟩ | ⟨_, _, _, _, _, _, _, rfl, _⟩ | ⟨_, _, _, _, _, rfl, _⟩ |
    ⟨messageId, announcement, _, _, _, _, _, rfl, _⟩ | ⟨query, _, _, _, rfl, _⟩ |
    ⟨queryId, _, _, _, _, rfl, _⟩ | ⟨_, _, rfl, _⟩
  · exact ⟨rfl, rfl, rfl⟩
  · exact hswept
  · exact hswept
  · exact (hmarked messageId).trans (samePeers_cacheAnnouncement _ ambient.caching announcement)
  · exact hmarked query.queryId
  · exact hmarked queryId
  · exact hswept

end Handling

/-! ### The targets -/

/-- A target is a known peer that is not excluded. -/
theorem mem_selectAmong {broadcaster : GossipBroadcaster} {ambient : Ambient}
    {eligible : PeerId → Bool} {peer : PeerId}
    (hpeer : peer ∈ broadcaster.selectAmong ambient eligible) :
    peer ∈ broadcaster.knownPeers.keys ∧ eligible peer = true := by
  rw [← List.mem_filter]
  simp only [selectAmong] at hpeer
  split at hpeer
  · exact (ambient.walk.perm _).subset hpeer
  · exact (ambient.walk.perm _).subset
      ((ambient.shuffle.perm _).subset (List.mem_of_mem_take hpeer))

/-- There are at most `fanout` targets. -/
theorem length_selectAmong_le (broadcaster : GossipBroadcaster) (ambient : Ambient)
    (eligible : PeerId → Bool) :
    (broadcaster.selectAmong ambient eligible).length ≤ broadcaster.config.fanout := by
  simp only [selectAmong]
  split
  · assumption
  · exact List.length_take_le _ _

/-- There are targets exactly when the fanout is positive and some known peer is not excluded. -/
theorem selectAmong_ne_nil_iff (broadcaster : GossipBroadcaster) (ambient : Ambient)
    (eligible : PeerId → Bool) :
    broadcaster.selectAmong ambient eligible ≠ [] ↔
      0 < broadcaster.config.fanout ∧
        ∃ peer ∈ broadcaster.knownPeers.keys, eligible peer = true := by
  have hlength : (ambient.walk.arrange (broadcaster.knownPeers.keys.filter eligible)).length =
      (broadcaster.knownPeers.keys.filter eligible).length := (ambient.walk.perm _).length_eq
  have hexists : (∃ peer ∈ broadcaster.knownPeers.keys, eligible peer = true) ↔
      0 < (broadcaster.knownPeers.keys.filter eligible).length := by
    rw [List.length_pos_iff_exists_mem]
    simp only [List.mem_filter]
  rw [hexists, ← List.length_pos_iff]
  simp only [selectAmong]
  split
  · omega
  · have hshuffled := (ambient.shuffle.perm
      (ambient.walk.arrange (broadcaster.knownPeers.keys.filter eligible))).length_eq
    rw [List.length_take]
    omega

/-! ### Runs of the broadcaster -/

/-- A call of the public interface. -/
inductive Call where
  | addPeer (peerId : PeerId)
  | removePeer (peerId : PeerId)
  | prepareAnnounce (announcement : CapacityAnnouncement)
  | handleMessage (message : GossipMessage) (fromPeer : PeerId)
  | cleanup

/-- The broadcaster after one call. -/
def perform (scheme : SignatureScheme) (broadcaster : GossipBroadcaster) :
    Call × Ambient → GossipBroadcaster
  | (.addPeer peerId, _) => broadcaster.addPeer peerId
  | (.removePeer peerId, _) => broadcaster.removePeer peerId
  | (.prepareAnnounce announcement, ambient) => (broadcaster.prepareAnnounce ambient announcement).1
  | (.handleMessage message fromPeer, ambient) =>
    (broadcaster.handleMessage scheme ambient message fromPeer).1
  | (.cleanup, ambient) => broadcaster.cleanup ambient.sweep

/-- The sweep that a call runs: the one of `cleanup`, or the periodic one of a message that the rate
limiter lets through. -/
def sweepOf (broadcaster : GossipBroadcaster) : Call × Ambient → Option SweepReadings
  | (.cleanup, ambient) => some ambient.sweep
  | (.handleMessage _ fromPeer, ambient) =>
    if broadcaster.allows ambient fromPeer && broadcaster.sweepDue ambient.elapsed then
      some ambient.sweep
    else none
  | _ => none

/-- The broadcaster does not count itself among its peers. -/
def Apart (broadcaster : GossipBroadcaster) : Prop :=
  broadcaster.localPeerId ∉ broadcaster.knownPeers.keys

/-- A change that keeps the peers keeps the broadcaster apart from them. -/
theorem SamePeers.apart {before after : GossipBroadcaster} (hsame : before.SamePeers after)
    (hapart : before.Apart) : after.Apart := by
  unfold Apart
  rw [hsame.localPeerId, hsame.knownPeers]
  exact hapart

/-- Preparing an announcement keeps the peers. -/
theorem samePeers_prepareAnnounce (broadcaster : GossipBroadcaster) (ambient : Ambient)
    (announcement : CapacityAnnouncement) :
    broadcaster.SamePeers (broadcaster.prepareAnnounce ambient announcement).1 :=
  (samePeers_markSeen broadcaster ambient.marking ambient.messageId
    broadcaster.localPeerId).trans (samePeers_cacheAnnouncement _ ambient.caching announcement)

/-- No call changes the identity or the configuration, and none makes the broadcaster its own
peer. -/
theorem identity_perform (scheme : SignatureScheme) (broadcaster : GossipBroadcaster)
    (call : Call × Ambient) :
    (broadcaster.perform scheme call).localPeerId = broadcaster.localPeerId ∧
      (broadcaster.perform scheme call).config = broadcaster.config ∧
      (broadcaster.Apart → (broadcaster.perform scheme call).Apart) := by
  obtain ⟨call, ambient⟩ := call
  cases call with
  | addPeer peerId =>
    simp only [perform, addPeer]
    split_ifs with hother
    · refine ⟨rfl, rfl, fun hapart hmem ↦ ?_⟩
      rw [AList.keys_insert, List.mem_cons] at hmem
      rcases hmem with hsame | hmem
      · exact hother hsame.symm
      · exact hapart (List.mem_of_mem_erase hmem)
    · exact ⟨rfl, rfl, id⟩
  | removePeer peerId =>
    refine ⟨rfl, rfl, fun hapart hmem ↦ ?_⟩
    simp only [perform, removePeer, AList.keys_erase] at hmem
    exact hapart (List.mem_of_mem_erase hmem)
  | prepareAnnounce announcement =>
    have hsame := samePeers_prepareAnnounce broadcaster ambient announcement
    exact ⟨hsame.localPeerId, hsame.config, hsame.apart⟩
  | handleMessage message fromPeer =>
    have hsame : broadcaster.SamePeers
      (broadcaster.handleMessage scheme ambient message fromPeer).1 :=
        samePeers_handleMessage message
    exact ⟨hsame.localPeerId, hsame.config, hsame.apart⟩
  | cleanup => exact ⟨rfl, rfl, id⟩

end GossipBroadcaster

end Clawbernetes.MoltP2p
