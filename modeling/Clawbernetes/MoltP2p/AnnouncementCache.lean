import Clawbernetes.MoltP2p.Broadcast

/-!
# The cache of announcements

The broadcaster caches announcements in one list for each peer and keeps the keys of all of them in
a queue, oldest first. Caching one announcement can drop the peer's entries with the same creation
time, evict the oldest entries of any peer while the cache is at its total limit, and trim the
peer's own list.

`Paired` is what the lists and the queue know of each other: the queue lists the keys of the entries
in the order of their sequence numbers, every entry is under its own peer, and no peer has two
entries with one creation time. Every way to drop entries is an instance of `Paired.filter`: the
lists are filtered by a test and the queue loses the keys of the entries that fail it. The loops are
related to it by `evictLoop_spec` and `trimLoop_eq`.

`cleanup` reads the wall clock twice for each entry, once to collect the keys that leave the queue
and once to decide which entries leave the lists. It keeps the two paired exactly when the two
readings agree on every entry (`paired_cleanup_iff`). In a run in which they do, the cache is in
step in every state (`Traced.inStep_of_steadySweeps`). An entry that expires between the two
readings leaves its key behind in the queue (`Traced.expiry_between_readings`).
-/

set_option autoImplicit false
set_option relaxedAutoImplicit false

namespace Clawbernetes.MoltP2p

open Library.FiniteTable Library.Runs

namespace GossipBroadcaster

/-- The cache and the queue of keys know of each other. -/
structure Paired (cache : Table PeerId (List CachedAnnouncement)) (order : List AnnouncementKey) :
    Prop where
  sorted : order.Pairwise fun earlier later ↦ earlier.seq < later.seq
  mem_order : ∀ key, key ∈ order ↔ ∃ entry ∈ itemsAt cache key.peerId, entry.key = key
  own : ∀ peerId, ∀ entry ∈ itemsAt cache peerId,
    entry.key.peerId = peerId ∧ entry.announcement.peerId = peerId
  keys : ∀ peerId, ((itemsAt cache peerId).map CachedAnnouncement.key).Nodup
  created : ∀ peerId, ((itemsAt cache peerId).map fun entry ↦ entry.announcement.createdAt).Nodup

section Pairing

variable {cache kept : Table PeerId (List CachedAnnouncement)} {order : List AnnouncementKey}

/-- The queue does not repeat a key. -/
theorem Paired.nodup (hpaired : Paired cache order) : order.Nodup :=
  hpaired.sorted.imp fun hlt hsame ↦ absurd (congrArg AnnouncementKey.seq hsame) (Nat.ne_of_lt hlt)

/-- The key of an entry is in the queue. -/
theorem Paired.key_mem (hpaired : Paired cache order) {peerId : PeerId}
    {entry : CachedAnnouncement} (hentry : entry ∈ itemsAt cache peerId) : entry.key ∈ order := by
  rw [hpaired.mem_order, (hpaired.own peerId entry hentry).1]
  exact ⟨entry, hentry, rfl⟩

/-- An entry is determined by its key. -/
theorem Paired.eq_of_key (hpaired : Paired cache order) {first second : PeerId}
    {entry other : CachedAnnouncement} (hentry : entry ∈ itemsAt cache first)
    (hother : other ∈ itemsAt cache second) (hkey : entry.key = other.key) : entry = other := by
  obtain rfl : first = second := by
    rw [← (hpaired.own first entry hentry).1, hkey, (hpaired.own second other hother).1]
  exact List.inj_on_of_nodup_map (hpaired.keys first) hentry hother hkey

/-- The queue lists the keys of all the entries. -/
theorem Paired.perm (hpaired : Paired cache order) :
    order.Perm ((flatten cache).map CachedAnnouncement.key) := by
  have hnodup : ((flatten cache).map CachedAnnouncement.key).Nodup := by
    refine nodup_map_flatten CachedAnnouncement.key hpaired.keys ?_
    intro first second hne entry hentry other hother hsame
    apply hne
    rw [← (hpaired.own first entry hentry).1, hsame, (hpaired.own second other hother).1]
  rw [List.perm_ext_iff_of_nodup hpaired.nodup hnodup]
  intro key
  rw [hpaired.mem_order, List.mem_map]
  constructor
  · rintro ⟨entry, hentry, hkey⟩
    exact ⟨entry, mem_flatten.mpr ⟨key.peerId, hentry⟩, hkey⟩
  · rintro ⟨entry, hentry, rfl⟩
    obtain ⟨peerId, hentry⟩ := mem_flatten.mp hentry
    refine ⟨entry, ?_, rfl⟩
    rw [(hpaired.own peerId entry hentry).1]
    exact hentry

/-- The queue is as long as the cache is large. -/
theorem Paired.countCached (hpaired : Paired cache order) :
    countCached cache = order.length := by
  rw [hpaired.perm.length_eq, List.length_map, length_flatten]
  rfl

/-- The empty cache and the empty queue. -/
theorem paired_empty : Paired ∅ [] where
  sorted := List.Pairwise.nil
  mem_order := fun key ↦ by simp [itemsAt]
  own := fun peerId entry hentry ↦ by simp [itemsAt] at hentry
  keys := fun peerId ↦ by simp [itemsAt]
  created := fun peerId ↦ by simp [itemsAt]

/-- Filtering the entries by a test and taking the keys of those that fail it from the queue keeps
the two paired. -/
theorem Paired.filter (hpaired : Paired cache order) (test : CachedAnnouncement → Bool)
    (hitems : ∀ peerId, itemsAt kept peerId = (itemsAt cache peerId).filter test)
    (keepKey : AnnouncementKey → Bool)
    (hkeys : ∀ peerId, ∀ entry ∈ itemsAt cache peerId, keepKey entry.key = test entry) :
    Paired kept (order.filter keepKey) where
  sorted := hpaired.sorted.filter keepKey
  mem_order := by
    intro key
    rw [List.mem_filter, hpaired.mem_order, hitems]
    constructor
    · rintro ⟨⟨entry, hentry, rfl⟩, hkeep⟩
      rw [hkeys _ entry hentry] at hkeep
      exact ⟨entry, List.mem_filter.mpr ⟨hentry, hkeep⟩, rfl⟩
    · rintro ⟨entry, hentry, rfl⟩
      obtain ⟨hentry, htest⟩ := List.mem_filter.mp hentry
      refine ⟨⟨entry, hentry, rfl⟩, ?_⟩
      rw [hkeys _ entry hentry, htest]
  own := by
    intro peerId entry hentry
    rw [hitems] at hentry
    exact hpaired.own peerId entry (List.mem_of_mem_filter hentry)
  keys := by
    intro peerId
    rw [hitems]
    exact (hpaired.keys peerId).sublist (List.filter_sublist.map _)
  created := by
    intro peerId
    rw [hitems]
    exact (hpaired.created peerId).sublist (List.filter_sublist.map _)

end Pairing

/-! ### Dropping entries -/

section Dropping

variable {cache : Table PeerId (List CachedAnnouncement)} {order : List AnnouncementKey}

/-- Forgetting a peer keeps the cache and the queue paired. -/
theorem Paired.erase (hpaired : Paired cache order) (forgotten : PeerId) :
    Paired (cache.erase forgotten) (order.filter fun key ↦ key.peerId ≠ forgotten) := by
  refine hpaired.filter (fun entry ↦ entry.key.peerId ≠ forgotten) ?_ _ fun _ _ _ ↦ rfl
  intro peerId
  by_cases hpeer : peerId = forgotten
  · subst hpeer
    rw [itemsAt_erase_self, eq_comm, List.filter_eq_nil_iff]
    intro entry hentry
    simp [(hpaired.own peerId entry hentry).1]
  · rw [itemsAt_erase_of_ne hpeer, eq_comm, List.filter_eq_self]
    intro entry hentry
    simp [(hpaired.own peerId entry hentry).1, hpeer]

/-- The entries of the peer of a key after the entry with the key has been dropped. -/
theorem itemsAt_dropKey_self (cache : Table PeerId (List CachedAnnouncement))
    (oldest : AnnouncementKey) : itemsAt (dropKey cache oldest) oldest.peerId =
      (itemsAt cache oldest.peerId).filter fun entry ↦ entry.key ≠ oldest := by
  unfold dropKey
  cases hlookup : cache.lookup oldest.peerId with
  | none => simp [itemsAt, hlookup]
  | some entries =>
    have hentries : itemsAt cache oldest.peerId = entries := by simp [itemsAt, hlookup]
    rw [hentries]
    dsimp only
    split_ifs with hempty
    · rw [itemsAt_erase_self, hempty]
    · rw [itemsAt_insert_self]

/-- The entries of the other peers are not dropped. -/
theorem itemsAt_dropKey_of_ne (cache : Table PeerId (List CachedAnnouncement))
    {oldest : AnnouncementKey} {peerId : PeerId} (hpeer : peerId ≠ oldest.peerId) :
    itemsAt (dropKey cache oldest) peerId = itemsAt cache peerId := by
  unfold dropKey
  cases hlookup : cache.lookup oldest.peerId with
  | none => rfl
  | some entries =>
    dsimp only
    split_ifs with hempty
    · exact itemsAt_erase_of_ne hpeer cache
    · exact itemsAt_insert_of_ne hpeer cache _

/-- Dropping a key adds no entry. -/
theorem itemsAt_dropKey_sublist (cache : Table PeerId (List CachedAnnouncement))
    (oldest : AnnouncementKey) (peerId : PeerId) :
    (itemsAt (dropKey cache oldest) peerId).Sublist (itemsAt cache peerId) := by
  by_cases hpeer : peerId = oldest.peerId
  · subst hpeer
    rw [itemsAt_dropKey_self]
    exact List.filter_sublist
  · rw [itemsAt_dropKey_of_ne cache hpeer]

/-- The eviction loop adds no entry. -/
theorem itemsAt_evictLoop_sublist (limit : ℕ) (order : List AnnouncementKey)
    (cache : Table PeerId (List CachedAnnouncement)) (peerId : PeerId) :
    (itemsAt (evictLoop limit order cache).2 peerId).Sublist (itemsAt cache peerId) := by
  induction order generalizing cache with
  | nil => exact List.Sublist.refl _
  | cons oldest rest ih =>
    unfold evictLoop
    split_ifs with hfull
    · exact (ih _).trans (itemsAt_dropKey_sublist cache oldest peerId)
    · exact List.Sublist.refl _

/-- The entries of every peer after the entry with one key has been dropped. -/
theorem Paired.itemsAt_dropKey (hpaired : Paired cache order) (oldest : AnnouncementKey)
    (peerId : PeerId) : itemsAt (dropKey cache oldest) peerId =
      (itemsAt cache peerId).filter fun entry ↦ entry.key ≠ oldest := by
  by_cases hpeer : peerId = oldest.peerId
  · subst hpeer
    exact itemsAt_dropKey_self cache oldest
  · rw [itemsAt_dropKey_of_ne cache hpeer, eq_comm, List.filter_eq_self]
    intro entry hentry
    rw [decide_eq_true_eq]
    rintro rfl
    exact hpeer (hpaired.own peerId entry hentry).1.symm

/-- Popping the oldest key and dropping its entry keeps the cache and the queue paired. -/
theorem Paired.dropOldest {oldest : AnnouncementKey} {rest : List AnnouncementKey}
    (hpaired : Paired cache (oldest :: rest)) : Paired (dropKey cache oldest) rest := by
  have hfiltered := hpaired.filter (fun entry ↦ entry.key ≠ oldest)
    (hpaired.itemsAt_dropKey oldest) (fun key ↦ key ≠ oldest) fun _ _ _ ↦ rfl
  have hnodup := List.nodup_cons.mp hpaired.nodup
  have hrest : (oldest :: rest).filter (fun key ↦ decide (key ≠ oldest)) = rest := by
    rw [List.filter_cons_of_neg (by simp), List.filter_eq_self]
    intro key hkey
    rw [decide_eq_true_eq]
    rintro rfl
    exact hnodup.1 hkey
  rwa [hrest] at hfiltered

/-- The eviction loop keeps the cache and the queue paired and brings the cache below a positive
limit. -/
theorem evictLoop_spec {limit : ℕ} (hlimit : 1 ≤ limit) :
    ∀ {order : List AnnouncementKey} {cache : Table PeerId (List CachedAnnouncement)},
      Paired cache order →
        Paired (evictLoop limit order cache).2 (evictLoop limit order cache).1 ∧
          (evictLoop limit order cache).1.length < limit ∧
          (evictLoop limit order cache).1.Sublist order := by
  intro order
  induction order with
  | nil =>
    intro cache hpaired
    exact ⟨hpaired, hlimit, List.Sublist.refl _⟩
  | cons oldest rest ih =>
    intro cache hpaired
    by_cases hfull : limit ≤ countCached cache
    · have hloop : evictLoop limit (oldest :: rest) cache =
          evictLoop limit rest (dropKey cache oldest) := by
        rw [evictLoop, if_pos hfull]
      obtain ⟨hkept, hlength, hsublist⟩ := ih hpaired.dropOldest
      rw [hloop]
      exact ⟨hkept, hlength, hsublist.cons oldest⟩
    · have hloop : evictLoop limit (oldest :: rest) cache = (oldest :: rest, cache) := by
        rw [evictLoop, if_neg hfull]
      rw [hpaired.countCached] at hfull
      rw [hloop]
      exact ⟨hpaired, Nat.lt_of_not_le hfull, List.Sublist.refl _⟩

/-- The eviction of a broadcaster keeps its cache and queue paired and makes room. -/
theorem evictAnnouncements_spec {broadcaster : GossipBroadcaster}
    (hlimit : 1 ≤ broadcaster.config.maxTotalAnnouncements)
    (hpaired : Paired broadcaster.announcementCache broadcaster.announcementOrder) :
    Paired broadcaster.evictAnnouncements.announcementCache
        broadcaster.evictAnnouncements.announcementOrder ∧
      broadcaster.evictAnnouncements.announcementOrder.length <
        broadcaster.config.maxTotalAnnouncements ∧
      broadcaster.evictAnnouncements.announcementOrder.Sublist broadcaster.announcementOrder :=
  evictLoop_spec hlimit hpaired

/-- Taking keys from the queue one after another is taking them at once. -/
theorem foldl_filter_eq (removedKeys order : List AnnouncementKey) :
    removedKeys.foldl (fun order removed ↦ order.filter fun key ↦ key ≠ removed) order =
      order.filter fun key ↦ key ∉ removedKeys := by
  induction removedKeys generalizing order with
  | nil => simp
  | cons removed rest ih =>
    rw [List.foldl_cons, ih, List.filter_filter]
    refine List.filter_congr fun key _ ↦ ?_
    simp [not_or, Bool.and_comm]

/-- The trimming loop drops the first entries and their keys. -/
theorem trimLoop_eq (limit : ℕ) (entries : List CachedAnnouncement)
    (order : List AnnouncementKey) :
    trimLoop limit entries order = (entries.drop (entries.length - limit),
      order.filter fun key ↦
        key ∉ (entries.take (entries.length - limit)).map CachedAnnouncement.key) := by
  induction entries generalizing order with
  | nil => simp [trimLoop]
  | cons first rest ih =>
    rw [trimLoop]
    split_ifs with hlong
    · rw [List.length_cons] at hlong ⊢
      have hcount : rest.length + 1 - limit = (rest.length - limit) + 1 := by omega
      rw [ih, hcount, List.drop_succ_cons, List.take_succ_cons, List.filter_filter]
      refine Prod.ext rfl (List.filter_congr fun key _ ↦ ?_)
      simp [not_or, Bool.and_comm]
    · have hcount : (first :: rest).length - limit = 0 := by omega
      rw [hcount]
      simp

/-- With different keys, the entries behind the first ones are those with none of their keys. -/
theorem drop_eq_filter {entries : List CachedAnnouncement}
    (hnodup : (entries.map CachedAnnouncement.key).Nodup) (count : ℕ) :
    entries.drop count = entries.filter fun entry ↦
      entry.key ∉ (entries.take count).map CachedAnnouncement.key := by
  have hsplit : entries = entries.take count ++ entries.drop count :=
    (List.take_append_drop count entries).symm
  have hdisjoint : ∀ entry ∈ entries.drop count,
      entry.key ∉ (entries.take count).map CachedAnnouncement.key := by
    rw [hsplit, List.map_append, List.nodup_append] at hnodup
    intro entry hentry hmem
    exact hnodup.2.2 entry.key hmem entry.key (List.mem_map_of_mem hentry) rfl
  conv_rhs => rw [hsplit, List.filter_append]
  rw [← hsplit, List.filter_eq_nil_iff.mpr, List.filter_eq_self.mpr, List.nil_append]
  · intro entry hentry
    rw [decide_eq_true_eq]
    exact hdisjoint entry hentry
  · intro entry hentry
    rw [decide_eq_true_eq, not_not]
    exact List.mem_map_of_mem hentry

end Dropping

/-! ### Caching an announcement -/

section Caching

variable {cache : Table PeerId (List CachedAnnouncement)} {order : List AnnouncementKey}

/-- Adding an entry with a new key and a new creation time to its peer keeps the cache and the queue
paired. -/
theorem Paired.add (hpaired : Paired cache order) {cached : CachedAnnouncement}
    (hown : cached.key.peerId = cached.announcement.peerId)
    (hseq : ∀ key ∈ order, key.seq < cached.key.seq)
    (hcreated : ∀ entry ∈ itemsAt cache cached.announcement.peerId,
      entry.announcement.createdAt ≠ cached.announcement.createdAt) :
    Paired (cache.insert cached.announcement.peerId
      (itemsAt cache cached.announcement.peerId ++ [cached])) (order ++ [cached.key]) := by
  have hfresh : ∀ peerId, ∀ entry ∈ itemsAt cache peerId, entry.key ≠ cached.key := by
    intro peerId entry hentry hsame
    have hlt := hseq entry.key (hpaired.key_mem hentry)
    rw [hsame] at hlt
    exact Nat.lt_irrefl _ hlt
  constructor
  case sorted =>
    rw [List.pairwise_append]
    refine ⟨hpaired.sorted, List.pairwise_singleton _ _, ?_⟩
    intro key hkey last hlast
    rw [List.mem_singleton] at hlast
    rw [hlast]
    exact hseq key hkey
  case mem_order =>
    intro key
    rw [List.mem_append, List.mem_singleton, hpaired.mem_order]
    by_cases hpeer : key.peerId = cached.announcement.peerId
    · rw [hpeer, itemsAt_insert_self]
      simp only [List.mem_append, List.mem_singleton, or_and_right, exists_or, exists_eq_left]
      rw [eq_comm (a := key)]
    · rw [itemsAt_insert_of_ne hpeer]
      constructor
      · rintro (hentry | rfl)
        · exact hentry
        · exact absurd hown hpeer
      · exact .inl
  case own =>
    intro peerId entry hentry
    by_cases hpeer : peerId = cached.announcement.peerId
    · subst hpeer
      rw [itemsAt_insert_self, List.mem_append, List.mem_singleton] at hentry
      rcases hentry with hentry | rfl
      · exact hpaired.own _ entry hentry
      · exact ⟨hown, rfl⟩
    · rw [itemsAt_insert_of_ne hpeer] at hentry
      exact hpaired.own peerId entry hentry
  case keys =>
    exact nodup_map_itemsAt_insert CachedAnnouncement.key hpaired.keys (hfresh _)
  case created =>
    exact nodup_map_itemsAt_insert (fun entry : CachedAnnouncement ↦ entry.announcement.createdAt)
      hpaired.created hcreated

/-- Trimming one peer keeps the cache and the queue paired. -/
theorem Paired.trim (hpaired : Paired cache order) (limit : ℕ) (peerId : PeerId)
    (kept : Table PeerId (List CachedAnnouncement))
    (hself : itemsAt kept peerId = (trimLoop limit (itemsAt cache peerId) order).1)
    (hothers : ∀ other, other ≠ peerId → itemsAt kept other = itemsAt cache other) :
    Paired kept (trimLoop limit (itemsAt cache peerId) order).2 := by
  rw [trimLoop_eq] at hself ⊢
  generalize hcount : (itemsAt cache peerId).length - limit = count at hself ⊢
  have hdrop := drop_eq_filter (hpaired.keys peerId) count
  refine hpaired.filter (fun entry ↦
    entry.key ∉ ((itemsAt cache peerId).take count).map CachedAnnouncement.key) ?_ _
      fun _ _ _ ↦ rfl
  intro other
  by_cases hother : other = peerId
  · subst hother
    exact hself.trans hdrop
  · rw [hothers other hother, eq_comm, List.filter_eq_self]
    intro entry hentry
    rw [decide_eq_true_eq, List.mem_map]
    rintro ⟨trimmed, htrimmed, hsame⟩
    have hmem := List.mem_of_mem_take htrimmed
    apply hother
    rw [← (hpaired.own other entry hentry).1, ← hsame, (hpaired.own peerId trimmed hmem).1]

/-- Dropping the entries with one creation time adds no entry. -/
theorem itemsAt_dropSameCreation_sublist (broadcaster : GossipBroadcaster)
    (cached : CachedAnnouncement) (peerId : PeerId) :
    (itemsAt (broadcaster.dropSameCreation cached).announcementCache peerId).Sublist
      (itemsAt broadcaster.announcementCache peerId) := by
  unfold dropSameCreation
  dsimp only
  by_cases hpeer : peerId = cached.announcement.peerId
  · subst hpeer
    rw [itemsAt_insert_self]
    exact List.filter_sublist
  · rw [itemsAt_insert_of_ne hpeer]

/-- Dropping the entries of the peer with the creation time of the new one keeps the cache and the
queue paired and leaves none of them. -/
theorem dropSameCreation_spec {broadcaster : GossipBroadcaster}
    (hpaired : Paired broadcaster.announcementCache broadcaster.announcementOrder)
    (cached : CachedAnnouncement) :
    Paired (broadcaster.dropSameCreation cached).announcementCache
        (broadcaster.dropSameCreation cached).announcementOrder ∧
      (∀ entry ∈ itemsAt (broadcaster.dropSameCreation cached).announcementCache
        cached.announcement.peerId,
        entry.announcement.createdAt ≠ cached.announcement.createdAt) ∧
      (broadcaster.dropSameCreation cached).announcementOrder.Sublist
        broadcaster.announcementOrder := by
  generalize hpeer : cached.announcement.peerId = owner
  generalize hmoment : cached.announcement.createdAt = moment
  simp only [dropSameCreation, hpeer, hmoment, foldl_filter_eq]
  have hitems : ∀ peerId, itemsAt (broadcaster.announcementCache.insert owner
      ((itemsAt broadcaster.announcementCache owner).filter fun entry ↦
        ¬ entry.announcement.createdAt = moment)) peerId =
      (itemsAt broadcaster.announcementCache peerId).filter fun entry ↦
        ¬ (entry.announcement.peerId = owner ∧ entry.announcement.createdAt = moment) := by
    intro peerId
    by_cases hother : peerId = owner
    · subst hother
      rw [itemsAt_insert_self]
      refine List.filter_congr fun entry hentry ↦ ?_
      simp [(hpaired.own peerId entry hentry).2]
    · rw [itemsAt_insert_of_ne hother, eq_comm, List.filter_eq_self]
      intro entry hentry
      simp [(hpaired.own peerId entry hentry).2, hother]
  refine ⟨hpaired.filter _ hitems _ ?_, ?_, List.filter_sublist⟩
  · intro peerId entry hentry
    rw [decide_eq_decide, List.mem_map, not_iff_not]
    constructor
    · rintro ⟨same, hsame, hkey⟩
      obtain ⟨hsame, htime⟩ := List.mem_filter.mp hsame
      obtain rfl := hpaired.eq_of_key hsame hentry hkey
      exact ⟨(hpaired.own owner same hsame).2, of_decide_eq_true htime⟩
    · rintro ⟨howner, htime⟩
      refine ⟨entry, List.mem_filter.mpr ⟨?_, decide_eq_true htime⟩, rfl⟩
      rw [← howner, (hpaired.own peerId entry hentry).2]
      exact hentry
  · intro entry hentry
    rw [itemsAt_insert_self] at hentry
    exact of_decide_eq_true (List.mem_filter.mp hentry).2

/-- Adding an entry to its peer and trimming the peer adds no other entry. -/
theorem mem_addCached {broadcaster : GossipBroadcaster} {cached entry : CachedAnnouncement}
    {peerId : PeerId}
    (hentry : entry ∈ itemsAt (broadcaster.addCached cached).announcementCache peerId) :
    entry ∈ itemsAt broadcaster.announcementCache peerId ∨ entry = cached := by
  unfold addCached at hentry
  dsimp only at hentry
  rw [trimLoop_eq] at hentry
  by_cases hpeer : peerId = cached.announcement.peerId
  · subst hpeer
    rw [itemsAt_insert_self] at hentry
    have hmem := List.mem_of_mem_drop hentry
    rwa [List.mem_append, List.mem_singleton] at hmem
  · rw [itemsAt_insert_of_ne hpeer] at hentry
    exact .inl hentry

/-- Adding the new entry and trimming its peer keeps the cache and the queue paired. The queue grows
by at most one key, and the peer has at most its limit. -/
theorem addCached_spec {broadcaster : GossipBroadcaster}
    (hpaired : Paired broadcaster.announcementCache broadcaster.announcementOrder)
    {cached : CachedAnnouncement} (hown : cached.key.peerId = cached.announcement.peerId)
    (hseq : ∀ key ∈ broadcaster.announcementOrder, key.seq < cached.key.seq)
    (hcreated : ∀ entry ∈ itemsAt broadcaster.announcementCache cached.announcement.peerId,
      entry.announcement.createdAt ≠ cached.announcement.createdAt) :
    Paired (broadcaster.addCached cached).announcementCache
        (broadcaster.addCached cached).announcementOrder ∧
      (broadcaster.addCached cached).announcementOrder.length ≤
        broadcaster.announcementOrder.length + 1 ∧
      (itemsAt (broadcaster.addCached cached).announcementCache
        cached.announcement.peerId).length ≤ broadcaster.config.maxAnnouncementsPerPeer ∧
      ∀ peerId, peerId ≠ cached.announcement.peerId →
        itemsAt (broadcaster.addCached cached).announcementCache peerId =
          itemsAt broadcaster.announcementCache peerId := by
  have hadded := hpaired.add hown hseq hcreated
  have hself : itemsAt (broadcaster.addCached cached).announcementCache
      cached.announcement.peerId = (trimLoop broadcaster.config.maxAnnouncementsPerPeer
        (itemsAt broadcaster.announcementCache cached.announcement.peerId ++ [cached])
        (broadcaster.announcementOrder ++ [cached.key])).1 := itemsAt_insert_self _ _ _
  have hothers : ∀ peerId, peerId ≠ cached.announcement.peerId →
      itemsAt (broadcaster.addCached cached).announcementCache peerId =
        itemsAt broadcaster.announcementCache peerId := fun peerId hne ↦
    itemsAt_insert_of_ne hne _ _
  refine ⟨?_, ?_, ?_, hothers⟩
  · have htrimmed := hadded.trim broadcaster.config.maxAnnouncementsPerPeer
      cached.announcement.peerId (broadcaster.addCached cached).announcementCache
    rw [itemsAt_insert_self] at htrimmed
    refine htrimmed hself fun peerId hne ↦ ?_
    rw [hothers peerId hne, itemsAt_insert_of_ne hne]
  · unfold addCached
    dsimp only
    rw [trimLoop_eq]
    refine (List.length_filter_le _ _).trans ?_
    rw [List.length_append, List.length_singleton]
  · rw [hself, trimLoop_eq, List.length_drop]
    omega

/-- What is in front of the new entry when an announcement is cached was cached before. -/
theorem itemsAt_evicted_sublist (broadcaster : GossipBroadcaster) (cached : CachedAnnouncement)
    (peerId : PeerId) :
    (itemsAt (broadcaster.advanceSeq.dropSameCreation
      cached).evictAnnouncements.announcementCache peerId).Sublist
        (itemsAt broadcaster.announcementCache peerId) :=
  (itemsAt_evictLoop_sublist _ _ _ peerId).trans
    (itemsAt_dropSameCreation_sublist broadcaster.advanceSeq cached peerId)

/-- The only new entry when an announcement is cached is the one made of it. -/
theorem mem_cacheAnnouncement {broadcaster : GossipBroadcaster} {now : ℕ}
    {announcement : CapacityAnnouncement} {peerId : PeerId} {entry : CachedAnnouncement}
    (hentry : entry ∈
      itemsAt (broadcaster.cacheAnnouncement now announcement).announcementCache peerId) :
    entry ∈ itemsAt broadcaster.announcementCache peerId ∨
      entry = broadcaster.newEntry now announcement :=
  (mem_addCached hentry).imp (fun hold ↦ (itemsAt_evicted_sublist _ _ peerId).subset hold) id

/-- Caching an announcement keeps the cache and the queue paired and within the total limit. The
list of a peer is within its limit or only lost entries. -/
theorem cacheAnnouncement_spec {broadcaster : GossipBroadcaster}
    (hlimit : 1 ≤ broadcaster.config.maxTotalAnnouncements)
    (hpaired : Paired broadcaster.announcementCache broadcaster.announcementOrder)
    (hseq : ∀ key ∈ broadcaster.announcementOrder, key.seq < broadcaster.nextAnnouncementSeq)
    (now : ℕ) (announcement : CapacityAnnouncement) :
    Paired (broadcaster.cacheAnnouncement now announcement).announcementCache
        (broadcaster.cacheAnnouncement now announcement).announcementOrder ∧
      (broadcaster.cacheAnnouncement now announcement).announcementOrder.length ≤
        broadcaster.config.maxTotalAnnouncements ∧
      ∀ peerId,
        (itemsAt (broadcaster.cacheAnnouncement now announcement).announcementCache
          peerId).length ≤ broadcaster.config.maxAnnouncementsPerPeer ∨
        (itemsAt (broadcaster.cacheAnnouncement now announcement).announcementCache
          peerId).Sublist (itemsAt broadcaster.announcementCache peerId) := by
  have hnumbered : Paired broadcaster.advanceSeq.announcementCache
      broadcaster.advanceSeq.announcementOrder := hpaired
  obtain ⟨hdropped, hcreated, horder⟩ :=
    dropSameCreation_spec hnumbered (broadcaster.newEntry now announcement)
  have hpositive : 1 ≤ (broadcaster.advanceSeq.dropSameCreation
      (broadcaster.newEntry now announcement)).config.maxTotalAnnouncements := hlimit
  obtain ⟨hevicted, hroom, horderEvicted⟩ := evictAnnouncements_spec hpositive hdropped
  obtain ⟨hadded, hlength, hself, hothers⟩ := addCached_spec hevicted rfl
    (fun key hkey ↦ hseq key (horder.subset (horderEvicted.subset hkey)))
    (fun entry hentry ↦ hcreated entry ((itemsAt_evictLoop_sublist _ _ _ _).subset hentry))
  refine ⟨hadded, hlength.trans hroom, fun peerId ↦ ?_⟩
  by_cases hpeer : peerId = announcement.peerId
  · subst hpeer
    exact .inl hself
  · have hsame := hothers peerId hpeer
    right
    rw [cacheAnnouncement, hsame]
    exact itemsAt_evicted_sublist _ _ peerId

end Caching

/-! ### The sweep -/

/-- The two readings of the wall clock agree on whether a cached entry has expired, unless it is too
old for the cache anyway. -/
def Steady (broadcaster : GossipBroadcaster) (readings : SweepReadings) : Prop :=
  ∀ entry ∈ flatten broadcaster.announcementCache,
    tooOld broadcaster.config readings.now entry = false →
      entry.announcement.isExpired (readings.collect entry.key) =
        entry.announcement.isExpired (readings.keep entry.key)

instance (broadcaster : GossipBroadcaster) (readings : SweepReadings) :
    Decidable (broadcaster.Steady readings) :=
  inferInstanceAs (Decidable (∀ _ ∈ _, _))

/-- The readings agree on an entry when it is collected or kept and not both. -/
theorem isCollected_eq_not_isKept_iff (config : BroadcastConfig) (readings : SweepReadings)
    (entry : CachedAnnouncement) :
    isCollected config readings entry = !isKept config readings entry ↔
      (tooOld config readings.now entry = false →
        entry.announcement.isExpired (readings.collect entry.key) =
          entry.announcement.isExpired (readings.keep entry.key)) := by
  unfold isCollected isKept
  cases tooOld config readings.now entry
  · simp
  · simp

/-- The sweep collects the key of an entry exactly when its first reading is against the entry. -/
theorem Paired.mem_collectedKeys_iff {cache : Table PeerId (List CachedAnnouncement)}
    {order : List AnnouncementKey} (hpaired : Paired cache order) (config : BroadcastConfig)
    (readings : SweepReadings) {peerId : PeerId} {entry : CachedAnnouncement}
    (hentry : entry ∈ itemsAt cache peerId) :
    entry.key ∈ collectedKeys config readings cache ↔ isCollected config readings entry = true := by
  unfold collectedKeys
  rw [List.mem_map]
  constructor
  · rintro ⟨other, hother, hkey⟩
    obtain ⟨hother, hcollected⟩ := List.mem_filter.mp hother
    obtain ⟨otherPeer, hother⟩ := mem_flatten.mp hother
    obtain rfl := hpaired.eq_of_key hother hentry hkey
    exact hcollected
  · intro hcollected
    exact ⟨entry, List.mem_filter.mpr ⟨mem_flatten.mpr ⟨peerId, hentry⟩, hcollected⟩, rfl⟩

/-- The sweep leaves the key of an entry in the queue exactly when it does not collect it. -/
theorem Paired.key_mem_cleanup_iff {broadcaster : GossipBroadcaster}
    (hpaired : Paired broadcaster.announcementCache broadcaster.announcementOrder)
    (readings : SweepReadings) {peerId : PeerId} {entry : CachedAnnouncement}
    (hentry : entry ∈ itemsAt broadcaster.announcementCache peerId) :
    entry.key ∈ (broadcaster.cleanup readings).announcementOrder ↔
      isCollected broadcaster.config readings entry = false := by
  unfold cleanup
  rw [List.mem_filter, decide_eq_true_eq, hpaired.mem_collectedKeys_iff _ _ hentry,
    Bool.not_eq_true]
  exact and_iff_right (hpaired.key_mem hentry)

/-- The sweep leaves in the cache what is kept of it. -/
theorem mem_cleanup_iff {broadcaster : GossipBroadcaster} (readings : SweepReadings)
    {peerId : PeerId} {entry : CachedAnnouncement} :
    entry ∈ itemsAt (broadcaster.cleanup readings).announcementCache peerId ↔
      entry ∈ itemsAt broadcaster.announcementCache peerId ∧
        isKept broadcaster.config readings entry = true := by
  unfold cleanup
  rw [itemsAt_keepItems, List.mem_filter]

/-- When the sweep keeps the cache and the queue paired, it collects exactly what it does not
keep. -/
theorem Paired.isCollected_eq_of_cleanup {broadcaster : GossipBroadcaster}
    (hpaired : Paired broadcaster.announcementCache broadcaster.announcementOrder)
    {readings : SweepReadings}
    (hafter : Paired (broadcaster.cleanup readings).announcementCache
      (broadcaster.cleanup readings).announcementOrder) {peerId : PeerId}
    {entry : CachedAnnouncement} (hentry : entry ∈ itemsAt broadcaster.announcementCache peerId) :
    isCollected broadcaster.config readings entry =
      !isKept broadcaster.config readings entry := by
  have hboth : entry.key ∈ (broadcaster.cleanup readings).announcementOrder ↔
      entry ∈ itemsAt (broadcaster.cleanup readings).announcementCache peerId := by
    rw [hafter.mem_order, (hpaired.own peerId entry hentry).1]
    constructor
    · rintro ⟨other, hother, hkey⟩
      obtain rfl := hpaired.eq_of_key ((mem_cleanup_iff readings).mp hother).1 hentry hkey
      exact hother
    · exact fun hkept ↦ ⟨entry, hkept, rfl⟩
  rw [hpaired.key_mem_cleanup_iff readings hentry, mem_cleanup_iff, and_iff_right hentry] at hboth
  cases hkept : isKept broadcaster.config readings entry with
  | true => exact hboth.mpr hkept
  | false =>
    refine Bool.eq_true_of_not_eq_false fun hcollected ↦ ?_
    rw [hboth.mp hcollected] at hkept
    cases hkept

/-- The sweep keeps the cache and the queue paired exactly when the two readings of the wall clock
agree on every entry. -/
theorem paired_cleanup_iff {broadcaster : GossipBroadcaster}
    (hpaired : Paired broadcaster.announcementCache broadcaster.announcementOrder)
    (readings : SweepReadings) :
    Paired (broadcaster.cleanup readings).announcementCache
        (broadcaster.cleanup readings).announcementOrder ↔ broadcaster.Steady readings := by
  constructor
  · intro hafter entry hentry
    rw [← isCollected_eq_not_isKept_iff]
    obtain ⟨peerId, hentry⟩ := mem_flatten.mp hentry
    exact hpaired.isCollected_eq_of_cleanup hafter hentry
  · intro hsteady
    refine hpaired.filter (isKept broadcaster.config readings)
      (fun peerId ↦ itemsAt_keepItems _ _ peerId) _ ?_
    intro peerId entry hentry
    have hagree := (isCollected_eq_not_isKept_iff broadcaster.config readings entry).mpr
      (hsteady entry (mem_flatten.mpr ⟨peerId, hentry⟩))
    have hkeys := hpaired.mem_collectedKeys_iff broadcaster.config readings hentry
    rw [hagree] at hkeys
    cases hkept : isKept broadcaster.config readings entry
    · rw [hkept] at hkeys
      rw [decide_eq_false_iff_not, not_not]
      exact hkeys.mpr rfl
    · rw [hkept] at hkeys
      rw [decide_eq_true_eq]
      exact fun hmem ↦ absurd (hkeys.mp hmem) (by decide)

/-! ### Runs -/

/-- The announcement that a call caches: the one it is told to announce, or the one of a message
that is handled without an error and is not a duplicate. -/
def cachedBy (scheme : SignatureScheme) (broadcaster : GossipBroadcaster) :
    Call × Ambient → Option CapacityAnnouncement
  | (.prepareAnnounce announcement, _) => some announcement
  | (.handleMessage (.announce messageId announcement ttlHops) fromPeer, ambient) =>
    match (broadcaster.handleMessage scheme ambient (.announce messageId announcement ttlHops)
      fromPeer).2 with
    | .ok result => if result.wasDuplicate then none else some announcement
    | .error _ => none
  | _ => none

/-- The readings of the sweep that a call runs agree on every entry. -/
def SteadySweep (broadcaster : GossipBroadcaster) (call : Call × Ambient) : Prop :=
  ∀ readings ∈ broadcaster.sweepOf call, broadcaster.Steady readings

instance (broadcaster : GossipBroadcaster) (call : Call × Ambient) :
    Decidable (broadcaster.SteadySweep call) :=
  inferInstanceAs (Decidable (∀ _ ∈ _, _))

/-- A broadcaster beside the announcements it has cached so far, in the order of caching. -/
structure Traced where
  broadcaster : GossipBroadcaster
  cachings : List CapacityAnnouncement

namespace Traced

/-- One call, with the announcement it caches written down. -/
def step (scheme : SignatureScheme) (traced : Traced) (call : Call × Ambient) : Traced where
  broadcaster := traced.broadcaster.perform scheme call
  cachings := traced.cachings ++ (traced.broadcaster.cachedBy scheme call).toList

/-- A new broadcaster has cached nothing. -/
def start (now : ℕ) (localPeerId : PeerId) (config : BroadcastConfig) : Traced :=
  ⟨new now localPeerId config, []⟩

/-- The cache is in step with the queue of its keys and within its limits. The queue lists the keys
of the cached announcements, each once, in the order in which they were cached: the sequence number
of an entry is the place of its announcement among the cachings. -/
structure InStep (traced : Traced) : Prop where
  order : traced.broadcaster.announcementOrder.Perm
    ((flatten traced.broadcaster.announcementCache).map CachedAnnouncement.key)
  caching : traced.broadcaster.announcementOrder.Pairwise fun earlier later ↦
    earlier.seq < later.seq
  entries : ∀ peerId, ∀ entry ∈ itemsAt traced.broadcaster.announcementCache peerId,
    entry.key.peerId = peerId ∧ entry.announcement.peerId = peerId ∧
      traced.cachings[entry.key.seq]? = some entry.announcement
  total : traced.broadcaster.cachedAnnouncementCount ≤
    traced.broadcaster.config.maxTotalAnnouncements
  perPeer : ∀ peerId, (itemsAt traced.broadcaster.announcementCache peerId).length ≤
    traced.broadcaster.config.maxAnnouncementsPerPeer
  created : ∀ peerId, ((itemsAt traced.broadcaster.announcementCache peerId).map
    fun entry ↦ entry.announcement.createdAt).Nodup

/-- What the calls preserve. -/
structure Sound (traced : Traced) : Prop where
  paired : Paired traced.broadcaster.announcementCache traced.broadcaster.announcementOrder
  numbered : ∀ peerId, ∀ entry ∈ itemsAt traced.broadcaster.announcementCache peerId,
    traced.cachings[entry.key.seq]? = some entry.announcement
  next : traced.broadcaster.nextAnnouncementSeq = traced.cachings.length % 2 ^ 64
  total : traced.broadcaster.announcementOrder.length ≤
    traced.broadcaster.config.maxTotalAnnouncements
  perPeer : ∀ peerId, (itemsAt traced.broadcaster.announcementCache peerId).length ≤
    traced.broadcaster.config.maxAnnouncementsPerPeer
  limit : 1 ≤ traced.broadcaster.config.maxTotalAnnouncements

/-- What the calls preserve contains what the cache promises. -/
theorem Sound.inStep {traced : Traced} (hsound : traced.Sound) : traced.InStep where
  order := hsound.paired.perm
  caching := hsound.paired.sorted
  entries := fun peerId entry hentry ↦
    ⟨(hsound.paired.own peerId entry hentry).1, (hsound.paired.own peerId entry hentry).2,
      hsound.numbered peerId entry hentry⟩
  total := by
    rw [cachedAnnouncementCount, hsound.paired.countCached]
    exact hsound.total
  perPeer := hsound.perPeer
  created := hsound.paired.created

/-- A new broadcaster is sound. -/
theorem sound_start (now : ℕ) (localPeerId : PeerId) {config : BroadcastConfig}
    (hlimit : 1 ≤ config.maxTotalAnnouncements) : (start now localPeerId config).Sound where
  paired := paired_empty
  numbered := fun peerId entry hentry ↦ by simp [start, new, itemsAt] at hentry
  next := rfl
  total := Nat.zero_le _
  perPeer := fun peerId ↦ by simp [start, new, itemsAt]
  limit := hlimit

section Preservation

variable {broadcaster after : GossipBroadcaster} {cachings : List CapacityAnnouncement}

/-- A change that keeps the cache and the queue paired and only drops entries is sound. -/
theorem Sound.drop (hsound : Sound ⟨broadcaster, cachings⟩)
    (hpaired : Paired after.announcementCache after.announcementOrder)
    (hconfig : after.config = broadcaster.config)
    (hnext : after.nextAnnouncementSeq = broadcaster.nextAnnouncementSeq)
    (horder : after.announcementOrder.Sublist broadcaster.announcementOrder)
    (hitems : ∀ peerId, (itemsAt after.announcementCache peerId).Sublist
      (itemsAt broadcaster.announcementCache peerId)) :
    Sound ⟨after, cachings⟩ where
  paired := hpaired
  numbered := fun peerId entry hentry ↦
    hsound.numbered peerId entry ((hitems peerId).subset hentry)
  next := hnext.trans hsound.next
  total := by
    rw [hconfig]
    exact horder.length_le.trans hsound.total
  perPeer := fun peerId ↦ by
    rw [hconfig]
    exact (hitems peerId).length_le.trans (hsound.perPeer peerId)
  limit := by
    rw [hconfig]
    exact hsound.limit

/-- A change that does not touch the announcements is sound. -/
theorem Sound.same (hsound : Sound ⟨broadcaster, cachings⟩)
    (hcache : after.announcementCache = broadcaster.announcementCache)
    (horder : after.announcementOrder = broadcaster.announcementOrder)
    (hconfig : after.config = broadcaster.config)
    (hnext : after.nextAnnouncementSeq = broadcaster.nextAnnouncementSeq) :
    Sound ⟨after, cachings⟩ := by
  refine hsound.drop ?_ hconfig hnext ?_ fun peerId ↦ ?_
  · rw [hcache, horder]
    exact hsound.paired
  · rw [horder]
  · rw [hcache]

/-- Marking an id leaves the announcements alone. -/
theorem announcements_markSeen (broadcaster : GossipBroadcaster) (now : ℕ) (messageId : MessageId)
    (fromPeer : PeerId) :
    (broadcaster.markSeen now messageId fromPeer).announcementCache =
        broadcaster.announcementCache ∧
      (broadcaster.markSeen now messageId fromPeer).announcementOrder =
        broadcaster.announcementOrder ∧
      (broadcaster.markSeen now messageId fromPeer).nextAnnouncementSeq =
        broadcaster.nextAnnouncementSeq := by
  unfold markSeen evictSeen
  dsimp only
  split
  · split
    · exact ⟨rfl, rfl, rfl⟩
    · exact ⟨rfl, rfl, rfl⟩
  · exact ⟨rfl, rfl, rfl⟩

/-- Marking an id is sound. -/
theorem Sound.markSeen (hsound : Sound ⟨broadcaster, cachings⟩) (now : ℕ)
    (messageId : MessageId) (fromPeer : PeerId) :
    Sound ⟨broadcaster.markSeen now messageId fromPeer, cachings⟩ := by
  obtain ⟨hcache, horder, hnext⟩ := announcements_markSeen broadcaster now messageId fromPeer
  exact hsound.same hcache horder (samePeers_markSeen broadcaster now messageId fromPeer).config
    hnext

/-- A sweep with steady readings is sound. -/
theorem Sound.cleanup (hsound : Sound ⟨broadcaster, cachings⟩) {readings : SweepReadings}
    (hsteady : broadcaster.Steady readings) :
    Sound ⟨broadcaster.cleanup readings, cachings⟩ := by
  refine hsound.drop ((paired_cleanup_iff hsound.paired readings).mpr hsteady) rfl rfl
    List.filter_sublist fun peerId ↦ ?_
  have hitems : itemsAt (broadcaster.cleanup readings).announcementCache peerId =
      (itemsAt broadcaster.announcementCache peerId).filter
        fun entry ↦ isKept broadcaster.config readings entry := itemsAt_keepItems _ _ _
  rw [hitems]
  exact List.filter_sublist

/-- The rate limiter and a steady periodic sweep are sound. -/
theorem Sound.swept (hsound : Sound ⟨broadcaster, cachings⟩) {ambient : Ambient}
    {fromPeer : PeerId} (hsteady : broadcaster.sweepDue ambient.elapsed = true →
      broadcaster.Steady ambient.sweep) :
    Sound ⟨broadcaster.swept ambient fromPeer, cachings⟩ := by
  have hlimited : Sound ⟨broadcaster.limited ambient fromPeer, cachings⟩ :=
    hsound.same rfl rfl rfl rfl
  unfold GossipBroadcaster.swept maybeCleanup
  split
  · rename_i hdue
    exact hlimited.cleanup (hsteady hdue)
  · exact hlimited

/-- Caching an announcement is sound while sequence numbers last. -/
theorem Sound.cacheAnnouncement (hsound : Sound ⟨broadcaster, cachings⟩)
    (hfew : cachings.length < 2 ^ 64) (now : ℕ) (announcement : CapacityAnnouncement) :
    Sound ⟨broadcaster.cacheAnnouncement now announcement, cachings ++ [announcement]⟩ := by
  have hnext : broadcaster.nextAnnouncementSeq = cachings.length := by
    have hcounted := hsound.next
    dsimp only at hcounted
    rw [hcounted, Nat.mod_eq_of_lt hfew]
  have hseq : ∀ key ∈ broadcaster.announcementOrder, key.seq < broadcaster.nextAnnouncementSeq := by
    intro key hkey
    obtain ⟨entry, hentry, rfl⟩ := (hsound.paired.mem_order key).mp hkey
    have hplace := hsound.numbered _ entry hentry
    rw [hnext]
    exact (List.getElem?_eq_some_iff.mp hplace).1
  obtain ⟨hpaired, htotal, hperPeer⟩ :=
    cacheAnnouncement_spec hsound.limit hsound.paired hseq now announcement
  constructor
  case paired => exact hpaired
  case numbered =>
    intro peerId entry hentry
    rcases mem_cacheAnnouncement hentry with hold | rfl
    · have hplace := hsound.numbered peerId entry hold
      have hlt := (List.getElem?_eq_some_iff.mp hplace).1
      dsimp only at hplace hlt ⊢
      rw [List.getElem?_append_left hlt]
      exact hplace
    · dsimp only [newEntry]
      rw [hnext, List.getElem?_append_right (Nat.le_refl _), Nat.sub_self]
      rfl
  case next =>
    change (broadcaster.nextAnnouncementSeq + 1) % 2 ^ 64 = _
    rw [hnext, List.length_append, List.length_singleton]
  case total => exact htotal
  case perPeer =>
    intro peerId
    rcases hperPeer peerId with hbounded | hsublist
    · exact hbounded
    · exact hsublist.length_le.trans (hsound.perPeer peerId)
  case limit => exact hsound.limit

/-- A call that caches nothing is sound when what it does to the broadcaster is. -/
theorem Sound.step_of_not_cached {scheme : SignatureScheme} {call : Call × Ambient}
    (hcached : broadcaster.cachedBy scheme call = none)
    (hafter : Sound ⟨broadcaster.perform scheme call, cachings⟩) :
    Sound (step scheme ⟨broadcaster, cachings⟩ call) := by
  have hquiet : step scheme ⟨broadcaster, cachings⟩ call =
      ⟨broadcaster.perform scheme call, cachings⟩ := by
    rw [step, hcached, Option.toList_none, List.append_nil]
  rw [hquiet]
  exact hafter

/-- A call that caches an announcement is sound when what it does to the broadcaster is. -/
theorem Sound.step_of_cached {scheme : SignatureScheme} {call : Call × Ambient}
    {announcement : CapacityAnnouncement}
    (hcached : broadcaster.cachedBy scheme call = some announcement)
    (hafter : Sound ⟨broadcaster.perform scheme call, cachings ++ [announcement]⟩) :
    Sound (step scheme ⟨broadcaster, cachings⟩ call) := by
  have hnoted : step scheme ⟨broadcaster, cachings⟩ call =
      ⟨broadcaster.perform scheme call, cachings ++ [announcement]⟩ := by
    rw [step, hcached, Option.toList_some]
  rw [hnoted]
  exact hafter

/-- A message that is refused, fails or is a duplicate is not cached. -/
theorem cachedBy_of_not_taken {scheme : SignatureScheme} {message : GossipMessage}
    {fromPeer : PeerId} {ambient : Ambient}
    (hnot : ∀ result, (broadcaster.handleMessage scheme ambient message fromPeer).2 = .ok result →
      result.wasDuplicate = true) :
    broadcaster.cachedBy scheme (.handleMessage message fromPeer, ambient) = none := by
  cases message with
  | announce messageId announcement ttlHops =>
    rw [cachedBy]
    split
    · next result hresult => rw [if_pos (hnot result hresult)]
    · rfl
  | _ => rfl

/-- Only announcements are cached. -/
theorem cachedBy_of_not_announce {scheme : SignatureScheme} {message : GossipMessage}
    {fromPeer : PeerId} {ambient : Ambient}
    (hother : ∀ messageId announcement ttlHops,
      message ≠ .announce messageId announcement ttlHops) :
    broadcaster.cachedBy scheme (.handleMessage message fromPeer, ambient) = none := by
  cases message with
  | announce messageId announcement ttlHops => exact absurd rfl (hother _ _ _)
  | _ => rfl

/-- Handling a message with a steady sweep is sound. -/
theorem Sound.handleMessage {scheme : SignatureScheme} (hsound : Sound ⟨broadcaster, cachings⟩)
    (hfew : cachings.length < 2 ^ 64) {message : GossipMessage} {fromPeer : PeerId}
    {ambient : Ambient}
    (hsteady : broadcaster.SteadySweep (.handleMessage message fromPeer, ambient)) :
    Sound (step scheme ⟨broadcaster, cachings⟩ (.handleMessage message fromPeer, ambient)) := by
  have hswept (hallows : broadcaster.allows ambient fromPeer = true) :
      Sound ⟨broadcaster.swept ambient fromPeer, cachings⟩ := by
    refine hsound.swept fun hdue ↦ hsteady _ ?_
    simp [sweepOf, hallows, hdue]
  have hhandled : Handled scheme broadcaster ambient fromPeer message _ _ :=
    handleMessage_cases message
  cases hhandled with
  | refused error hallows hafter hresult =>
    refine .step_of_not_cached (cachedBy_of_not_taken fun result hfound ↦ by
      cases hresult.symm.trans hfound) ?_
    rw [perform, hafter]
    exact hsound.same rfl rfl rfl rfl
  | rejected messageId announcement ttlHops error hallows hmessage haccepts hafter hresult =>
    refine .step_of_not_cached (cachedBy_of_not_taken fun result hfound ↦ by
      cases hresult.symm.trans hfound) ?_
    rw [perform, hafter]
    exact hswept hallows
  | duplicate messageId hallows hid hbroadcast hseen hafter hresult =>
    refine .step_of_not_cached (cachedBy_of_not_taken fun result hfound ↦ by
      cases hresult.symm.trans hfound; rfl) ?_
    rw [perform, hafter]
    exact hswept hallows
  | announced messageId announcement ttlHops hallows hmessage hseen haccepts hafter hresult =>
    subst hmessage
    have hcached : broadcaster.cachedBy scheme (.handleMessage (.announce messageId announcement
        ttlHops) fromPeer, ambient) = some announcement := by
      simp only [cachedBy, hresult, Bool.false_eq_true, if_false]
    refine .step_of_cached hcached ?_
    rw [perform, hafter]
    exact ((hswept hallows).markSeen _ _ _).cacheAnnouncement hfew _ _
  | queried query hallows hmessage hseen hafter hresult =>
    refine .step_of_not_cached
      (cachedBy_of_not_announce fun _ _ _ hsame ↦ by simp [hmessage] at hsame) ?_
    rw [perform, hafter]
    exact (hswept hallows).markSeen _ _ _
  | responded queryId responder announcements hallows hmessage hafter hresult =>
    refine .step_of_not_cached
      (cachedBy_of_not_announce fun _ _ _ hsame ↦ by simp [hmessage] at hsame) ?_
    rw [perform, hafter]
    exact (hswept hallows).markSeen _ _ _
  | ignored hallows hid hafter hresult =>
    refine .step_of_not_cached (cachedBy_of_not_announce fun _ _ _ hsame ↦ by
      simp [hsame, GossipMessage.messageId] at hid) ?_
    rw [perform, hafter]
    exact hswept hallows

/-- A call with steady sweeps is sound while sequence numbers last. -/
theorem Sound.step {scheme : SignatureScheme} {traced : Traced} (hsound : traced.Sound)
    (hfew : traced.cachings.length < 2 ^ 64) {call : Call × Ambient}
    (hsteady : traced.broadcaster.SteadySweep call) : (traced.step scheme call).Sound := by
  obtain ⟨broadcaster, cachings⟩ := traced
  obtain ⟨call, ambient⟩ := call
  cases call with
  | addPeer peerId =>
    refine .step_of_not_cached rfl ?_
    rw [perform, addPeer]
    split
    · exact hsound.same rfl rfl rfl rfl
    · exact hsound
  | removePeer peerId =>
    refine .step_of_not_cached rfl ?_
    rw [perform]
    refine hsound.drop (hsound.paired.erase peerId) rfl rfl List.filter_sublist fun other ↦ ?_
    by_cases hother : other = peerId
    · subst hother
      have hempty : itemsAt (broadcaster.removePeer other).announcementCache other = [] :=
        itemsAt_erase_self _ _
      rw [hempty]
      exact List.nil_sublist _
    · have hkept : itemsAt (broadcaster.removePeer peerId).announcementCache other =
          itemsAt broadcaster.announcementCache other := itemsAt_erase_of_ne hother _
      rw [hkept]
  | prepareAnnounce announcement =>
    exact .step_of_cached rfl ((hsound.markSeen _ _ _).cacheAnnouncement hfew _ _)
  | handleMessage message fromPeer => exact hsound.handleMessage hfew hsteady
  | cleanup => exact .step_of_not_cached rfl (hsound.cleanup (hsteady ambient.sweep rfl))

end Preservation

/-- A run adds to the cachings and forgets none. -/
theorem cachings_prefix_foldl (scheme : SignatureScheme) (calls : List (Call × Ambient))
    (traced : Traced) :
    traced.cachings <+: (calls.foldl (Traced.step scheme) traced).cachings := by
  induction calls generalizing traced with
  | nil => exact List.prefix_refl _
  | cons call rest ih =>
    have hfirst : traced.cachings <+: (traced.step scheme call).cachings :=
      List.prefix_append _ _
    exact hfirst.trans (ih _)

/-- In a run of fewer than `2 ^ 64` cachings whose sweeps are all steady, the announcement cache is
in step in every state. -/
theorem inStep_of_steadySweeps (scheme : SignatureScheme) (now : ℕ) (localPeerId : PeerId)
    (config : BroadcastConfig) (hlimit : 1 ≤ config.maxTotalAnnouncements)
    (calls : List (Call × Ambient))
    (hfew : (calls.foldl (Traced.step scheme) (start now localPeerId config)).cachings.length <
      2 ^ 64)
    (hsteady : Throughout (Traced.step scheme)
      (fun traced call ↦ traced.broadcaster.SteadySweep call) (start now localPeerId config)
      calls) :
    Always (Traced.step scheme) InStep (start now localPeerId config) calls := by
  have hallowed : Throughout (Traced.step scheme) (fun traced call ↦
      traced.cachings.length < 2 ^ 64 ∧ traced.broadcaster.SteadySweep call)
      (start now localPeerId config) calls := by
    intro done call hdone
    refine ⟨?_, hsteady done call hdone⟩
    obtain ⟨rest, hcalls⟩ := prefix_of_concat hdone
    rw [← hcalls, List.foldl_append] at hfew
    exact lt_of_le_of_lt (cachings_prefix_foldl scheme rest _).length_le hfew
  have hsound : Always (Traced.step scheme) Sound (start now localPeerId config) calls :=
    always_of_throughout (sound_start now localPeerId hlimit)
      (fun _ _ hsound hstep ↦ hsound.step hstep.1 hstep.2) hallowed
  exact fun done hdone ↦ (hsound done hdone).inStep

/-- A broadcaster with the default configuration, at time zero. -/
def exampleStart : Traced := start 0 (PeerId.ofByte 0) .default

/-- An announcement of time zero that lives for five minutes is cached. -/
def exampleAnnounce : Call × Ambient :=
  (.prepareAnnounce (.new 0 (PeerId.ofByte 0) [] ⟨100, 10⟩ [] (.fromSecs 300)),
    .still 0 (MessageId.ofByte 1))

/-- A sweep five minutes later, where the wall clock moves on by a nanosecond between the collecting
and the keeping pass. -/
def lateSweep : Call × Ambient :=
  let ambient := Ambient.still (300 * 10 ^ 9) (MessageId.ofByte 2)
  (.cleanup, { ambient with
    sweep := ⟨300 * 10 ^ 9, fun _ ↦ 300 * 10 ^ 9, fun _ ↦ 300 * 10 ^ 9 + 1⟩ })

/-- The announcement expires between the two readings: it leaves the cache and its key stays in the
queue. -/
theorem expiry_between_readings :
    ¬ Always (Traced.step .keyless) InStep exampleStart [exampleAnnounce, lateSweep] ∧
      (([exampleAnnounce, lateSweep].foldl (Traced.step .keyless)
        exampleStart).broadcaster.announcementOrder = [⟨PeerId.ofByte 0, 0⟩] ∧
      ([exampleAnnounce, lateSweep].foldl (Traced.step .keyless)
        exampleStart).broadcaster.cachedAnnouncementCount = 0) := by
  refine ⟨fun halways ↦ ?_, by decide +kernel⟩
  have horder := halways.last.order
  revert horder
  decide +kernel

/-- The same announcement with a periodic sweep after one minute and a steady sweep after six. -/
theorem inStep_of_steadySweeps_exampleCalls :
    Always (Traced.step .keyless) InStep exampleStart
      [exampleAnnounce,
        (.handleMessage (.heartbeat (PeerId.ofByte 1) 0) (PeerId.ofByte 1),
          .still (60 * 10 ^ 9) (MessageId.ofByte 2)),
        (.cleanup, .still (360 * 10 ^ 9) (MessageId.ofByte 3))] :=
  inStep_of_steadySweeps .keyless 0 (PeerId.ofByte 0) .default (by decide) _ (by decide +kernel)
    (by decide +kernel)

end Traced

end GossipBroadcaster

end Clawbernetes.MoltP2p
