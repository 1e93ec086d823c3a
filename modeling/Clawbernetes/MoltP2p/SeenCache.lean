import Clawbernetes.MoltP2p.Broadcast

/-!
# The cache of seen message ids

The broadcaster keeps the ids it has seen in a map and, for eviction, in a queue. The two are in
step when the queue lists the keys of the map, each once, and the map is within its bound
(`SeenInStep`).

`markSeen` does not ask whether the id is there already. Marking an id keeps the two in step exactly
when the id is new to the cache, or is the very one that the eviction of a full cache has just
dropped (`seenInStep_markSeen_iff`). Announcements and queries are tested for repetition before they
are marked; responses are not, and neither is the random id of `prepareAnnounce`. So a run keeps the
cache in step exactly when none of these marks repeats a cached id (`seenInStep_iff_marksOnce`).
After a repeated response the queue holds a second copy of its id, whose eviction later drops
nothing, and the map outgrows its bound (`repeated_response_overfills`).

An id stays in the cache while there is room and no sweep drops it (`hasSeen_perform`), whatever
else the queue has lost track of; this is what the nodes rely on to take a message once.
-/

set_option autoImplicit false
set_option relaxedAutoImplicit false

namespace Clawbernetes.MoltP2p

open Library.FiniteTable Library.Runs

namespace GossipBroadcaster

/-- The queue lists the keys of the map, which do not repeat, and the map is within its bound. -/
structure SeenInStep (broadcaster : GossipBroadcaster) : Prop where
  order : broadcaster.seenOrder.Perm broadcaster.seenMessages.keys
  bounded : broadcaster.seenMessages.keys.length ≤ broadcaster.config.maxSeenCache

instance : DecidablePred SeenInStep := fun broadcaster ↦
  decidable_of_iff (broadcaster.seenOrder.Perm broadcaster.seenMessages.keys ∧
    broadcaster.seenMessages.keys.length ≤ broadcaster.config.maxSeenCache)
    ⟨fun hboth ↦ ⟨hboth.1, hboth.2⟩, fun hstep ↦ ⟨hstep.order, hstep.bounded⟩⟩

/-- The cache of seen messages and the configuration are the same. -/
structure SameSeen (before after : GossipBroadcaster) : Prop where
  seenMessages : after.seenMessages = before.seenMessages
  seenOrder : after.seenOrder = before.seenOrder
  config : after.config = before.config

/-- Being in step is a matter of the cache and its bound. -/
theorem SameSeen.seenInStep_iff {before after : GossipBroadcaster}
    (hsame : before.SameSeen after) : after.SeenInStep ↔ before.SeenInStep := by
  constructor
  · rintro ⟨horder, hbounded⟩
    rw [hsame.seenMessages, hsame.seenOrder] at horder
    rw [hsame.seenMessages, hsame.config] at hbounded
    exact ⟨horder, hbounded⟩
  · rintro ⟨horder, hbounded⟩
    constructor
    · rw [hsame.seenMessages, hsame.seenOrder]
      exact horder
    · rw [hsame.seenMessages, hsame.config]
      exact hbounded

/-- Which ids have been seen is a matter of the cache. -/
theorem SameSeen.hasSeen {before after : GossipBroadcaster} (hsame : before.SameSeen after)
    (messageId : MessageId) : after.hasSeen messageId = before.hasSeen messageId := by
  unfold GossipBroadcaster.hasSeen
  rw [hsame.seenMessages]

/-! ### Marking an id -/

/-- Marking the id keeps the cache in step: the id is not cached, or the cache is full and the id is
the oldest, which the mark evicts. -/
def Markable (broadcaster : GossipBroadcaster) (messageId : MessageId) : Prop :=
  broadcaster.hasSeen messageId = false ∨
    (broadcaster.config.maxSeenCache ≤ broadcaster.seenMessages.keys.length ∧
      broadcaster.seenOrder.head? = some messageId)

instance (broadcaster : GossipBroadcaster) (messageId : MessageId) :
    Decidable (broadcaster.Markable messageId) :=
  inferInstanceAs (Decidable (_ ∨ _))

/-- An id has been seen when it is a key of the map. -/
theorem hasSeen_iff {broadcaster : GossipBroadcaster} {messageId : MessageId} :
    broadcaster.hasSeen messageId = true ↔ messageId ∈ broadcaster.seenMessages.keys := by
  unfold hasSeen
  rw [AList.lookup_isSome]
  rfl

/-- An id has not been seen when it is not a key of the map. -/
theorem hasSeen_eq_false_iff {broadcaster : GossipBroadcaster} {messageId : MessageId} :
    broadcaster.hasSeen messageId = false ↔ messageId ∉ broadcaster.seenMessages.keys := by
  rw [← hasSeen_iff, Bool.not_eq_true]

/-- Adding an id to the end of a queue that lists the keys lists the keys with the id exactly when
the id is not one of them. -/
theorem append_perm_keys_insert_iff {order : List MessageId} {seen : Table MessageId SeenEntry}
    (horder : order.Perm seen.keys) (messageId : MessageId) (entry : SeenEntry) :
    (order ++ [messageId]).Perm (seen.insert messageId entry).keys ↔ messageId ∉ seen.keys := by
  have hback : (order ++ [messageId]).Perm (messageId :: seen.keys) :=
    (List.perm_append_singleton messageId order).trans (horder.cons messageId)
  constructor
  · intro hperm hmem
    have hnodup := hback.nodup (hperm.symm.nodup (seen.insert messageId entry).keys_nodup)
    exact (List.nodup_cons.mp hnodup).1 hmem
  · intro hmem
    rw [AList.keys_insert, List.erase_of_not_mem hmem]
    exact hback

/-- Marking an id in a cache that is in step, after the eviction, keeps it in step exactly when the
id is not cached. -/
theorem seenInStep_markSeen_of_evicted {broadcaster evicted : GossipBroadcaster}
    (hevicted : broadcaster.evictSeen = evicted)
    (horder : evicted.seenOrder.Perm evicted.seenMessages.keys)
    (hroom : evicted.seenMessages.keys.length < evicted.config.maxSeenCache) (now : ℕ)
    (messageId : MessageId) (fromPeer : PeerId) :
    (broadcaster.markSeen now messageId fromPeer).SeenInStep ↔
      messageId ∉ evicted.seenMessages.keys := by
  subst hevicted
  constructor
  · intro hstep
    exact (append_perm_keys_insert_iff horder messageId ⟨now, fromPeer⟩).mp hstep.order
  · intro hmem
    refine ⟨(append_perm_keys_insert_iff horder messageId ⟨now, fromPeer⟩).mpr hmem, ?_⟩
    unfold markSeen
    simp only [AList.keys_insert, List.erase_of_not_mem hmem, List.length_cons]
    omega

/-- Marking an id in a cache that is in step keeps it in step exactly when the id is new or is the
oldest of a full cache. -/
theorem seenInStep_markSeen_iff {broadcaster : GossipBroadcaster}
    (hcapacity : 1 ≤ broadcaster.config.maxSeenCache) (hstep : broadcaster.SeenInStep) (now : ℕ)
    (messageId : MessageId) (fromPeer : PeerId) :
    (broadcaster.markSeen now messageId fromPeer).SeenInStep ↔ broadcaster.Markable messageId := by
  by_cases hfull : broadcaster.config.maxSeenCache ≤ broadcaster.seenMessages.keys.length
  · cases horder : broadcaster.seenOrder with
    | nil =>
      have hlength := hstep.order.length_eq
      rw [horder, List.length_nil] at hlength
      omega
    | cons oldest rest =>
      have hperm : (oldest :: rest).Perm broadcaster.seenMessages.keys := horder ▸ hstep.order
      have holdest : oldest ∈ broadcaster.seenMessages.keys := hperm.subset List.mem_cons_self
      have hevicted : broadcaster.evictSeen = { broadcaster with
          seenMessages := broadcaster.seenMessages.erase oldest, seenOrder := rest } := by
        simp only [evictSeen, if_pos hfull, horder]
      have hkeys : (broadcaster.seenMessages.erase oldest).keys =
          broadcaster.seenMessages.keys.erase oldest := AList.keys_erase oldest _
      have hrest : rest.Perm (broadcaster.seenMessages.erase oldest).keys := by
        have herased := hperm.erase oldest
        rw [List.erase_cons_head] at herased
        rw [hkeys]
        exact herased
      have hroom : (broadcaster.seenMessages.erase oldest).keys.length <
          broadcaster.config.maxSeenCache := by
        have hlength := List.length_erase_of_mem holdest
        have hbounded := hstep.bounded
        rw [hkeys]
        omega
      rw [seenInStep_markSeen_of_evicted hevicted hrest hroom, hkeys,
        broadcaster.seenMessages.keys_nodup.mem_erase_iff, Markable, hasSeen_eq_false_iff, horder,
        List.head?_cons, Option.some_inj]
      tauto
  · have hevicted : broadcaster.evictSeen = broadcaster := by
      simp only [evictSeen, if_neg hfull]
    rw [seenInStep_markSeen_of_evicted hevicted hstep.order (by omega), Markable,
      hasSeen_eq_false_iff]
    constructor
    · exact fun hmem ↦ .inl hmem
    · rintro (hmem | ⟨habsurd, -⟩)
      · exact hmem
      · exact absurd habsurd hfull

/-! ### The other operations -/

/-- The sweep keeps the cache in step. -/
theorem seenInStep_cleanup {broadcaster : GossipBroadcaster} (hstep : broadcaster.SeenInStep)
    (readings : SweepReadings) : (broadcaster.cleanup readings).SeenInStep := by
  have hsublist := keys_sift_sublist (fun _ entry ↦
    if isFresh broadcaster.config readings.now entry then some entry else none)
    broadcaster.seenMessages
  constructor
  · rw [List.perm_ext_iff_of_nodup]
    · intro messageId
      unfold cleanup
      rw [List.mem_filter, decide_eq_true_eq]
      constructor
      · exact fun hmem ↦ hmem.2
      · exact fun hmem ↦ ⟨hstep.order.symm.subset (hsublist.subset hmem), hmem⟩
    · exact (hstep.order.symm.nodup broadcaster.seenMessages.keys_nodup).filter _
    · exact AList.keys_nodup _
  · exact hsublist.length_le.trans hstep.bounded

/-- The rate limiter and the periodic sweep keep the cache in step. -/
theorem seenInStep_swept {broadcaster : GossipBroadcaster} (hstep : broadcaster.SeenInStep)
    (ambient : Ambient) (fromPeer : PeerId) :
    (broadcaster.swept ambient fromPeer).SeenInStep := by
  have hlimited : (broadcaster.limited ambient fromPeer).SeenInStep := ⟨hstep.order, hstep.bounded⟩
  unfold swept maybeCleanup
  split
  · exact seenInStep_cleanup hlimited ambient.sweep
  · exact hlimited

/-- Caching an announcement does not touch the seen messages. -/
theorem sameSeen_cacheAnnouncement (broadcaster : GossipBroadcaster) (now : ℕ)
    (announcement : CapacityAnnouncement) :
    broadcaster.SameSeen (broadcaster.cacheAnnouncement now announcement) := by
  unfold cacheAnnouncement addCached evictAnnouncements dropSameCreation advanceSeq
  exact ⟨rfl, rfl, rfl⟩

/-- Adding a peer does not touch the seen messages. -/
theorem sameSeen_addPeer (broadcaster : GossipBroadcaster) (peerId : PeerId) :
    broadcaster.SameSeen (broadcaster.addPeer peerId) := by
  unfold addPeer
  split
  · exact ⟨rfl, rfl, rfl⟩
  · exact ⟨rfl, rfl, rfl⟩

/-! ### Runs -/

/-- The ids that a call marks without a test for repetition are markable: the random id of an
announcement, and the id of a response that the rate limiter lets through, in the cache that the
periodic sweep has left. -/
def MarksOnce (broadcaster : GossipBroadcaster) : Call × Ambient → Prop
  | (.prepareAnnounce _, ambient) => broadcaster.Markable ambient.messageId
  | (.handleMessage (.response queryId _ _) fromPeer, ambient) =>
    broadcaster.allows ambient fromPeer = true →
      (broadcaster.swept ambient fromPeer).Markable queryId
  | _ => True

instance (broadcaster : GossipBroadcaster) (call : Call × Ambient) :
    Decidable (broadcaster.MarksOnce call) :=
  match call with
  | (.addPeer _, _) => isTrue trivial
  | (.removePeer _, _) => isTrue trivial
  | (.prepareAnnounce _, ambient) =>
    inferInstanceAs (Decidable (broadcaster.Markable ambient.messageId))
  | (.handleMessage (.response queryId _ _) fromPeer, ambient) =>
    inferInstanceAs (Decidable (broadcaster.allows ambient fromPeer = true →
      (broadcaster.swept ambient fromPeer).Markable queryId))
  | (.handleMessage (.announce _ _ _) _, _) => isTrue trivial
  | (.handleMessage (.query _) _, _) => isTrue trivial
  | (.handleMessage (.heartbeat _ _) _, _) => isTrue trivial
  | (.handleMessage (.syncRequest _ _) _, _) => isTrue trivial
  | (.handleMessage (.syncResponse _) _, _) => isTrue trivial
  | (.cleanup, _) => isTrue trivial

/-- Handling a message keeps the cache in step exactly when it repeats no cached id unasked. -/
theorem seenInStep_handleMessage_iff {scheme : SignatureScheme} {broadcaster : GossipBroadcaster}
    (hcapacity : 1 ≤ broadcaster.config.maxSeenCache) (hstep : broadcaster.SeenInStep)
    (message : GossipMessage) (fromPeer : PeerId) (ambient : Ambient) :
    (broadcaster.handleMessage scheme ambient message fromPeer).1.SeenInStep ↔
      broadcaster.MarksOnce (.handleMessage message fromPeer, ambient) := by
  have hswept := seenInStep_swept hstep ambient fromPeer
  have hbound : 1 ≤ (broadcaster.swept ambient fromPeer).config.maxSeenCache := by
    rw [(samePeers_swept broadcaster ambient fromPeer).config]
    exact hcapacity
  have hmark := fun messageId ↦
    seenInStep_markSeen_iff hbound hswept ambient.marking messageId fromPeer
  have hhandled : Handled scheme broadcaster ambient fromPeer message _ _ :=
    handleMessage_cases message
  generalize broadcaster.handleMessage scheme ambient message fromPeer = handled at *
  obtain ⟨after, result⟩ := handled
  cases hhandled with
  | refused error hallows hafter hresult =>
    subst hafter
    refine iff_of_true ⟨hstep.order, hstep.bounded⟩ ?_
    cases message with
    | response queryId responder announcements => simp [MarksOnce, hallows]
    | _ => trivial
  | rejected messageId announcement ttlHops error hallows hmessage haccepts hafter hresult =>
    subst hafter hmessage
    exact iff_of_true hswept trivial
  | duplicate messageId hallows hid hbroadcast hseen hafter hresult =>
    subst hafter
    refine iff_of_true hswept ?_
    cases message with
    | response queryId responder announcements => cases hbroadcast
    | _ => trivial
  | announced messageId announcement ttlHops hallows hmessage hseen haccepts hafter hresult =>
    subst hafter hmessage
    rw [(sameSeen_cacheAnnouncement _ ambient.caching announcement).seenInStep_iff, hmark]
    exact iff_of_true (.inl hseen) trivial
  | queried query hallows hmessage hseen hafter hresult =>
    subst hafter hmessage
    rw [hmark]
    exact iff_of_true (.inl hseen) trivial
  | responded queryId responder announcements hallows hmessage hafter hresult =>
    subst hafter hmessage
    rw [hmark]
    exact ⟨fun hmarkable _ ↦ hmarkable, fun hmarks ↦ hmarks hallows⟩
  | ignored hallows hid hafter hresult =>
    subst hafter
    refine iff_of_true hswept ?_
    cases message with
    | response queryId responder announcements => cases hid
    | _ => trivial

/-- A call keeps the cache in step exactly when it repeats no cached id unasked. -/
theorem seenInStep_perform_iff (scheme : SignatureScheme) {broadcaster : GossipBroadcaster}
    (hcapacity : 1 ≤ broadcaster.config.maxSeenCache) (hstep : broadcaster.SeenInStep)
    (call : Call × Ambient) :
    (broadcaster.perform scheme call).SeenInStep ↔ broadcaster.MarksOnce call := by
  obtain ⟨call, ambient⟩ := call
  cases call with
  | addPeer peerId =>
    have hadded := (sameSeen_addPeer broadcaster peerId).seenInStep_iff.mpr hstep
    exact ⟨fun _ ↦ trivial, fun _ ↦ hadded⟩
  | removePeer peerId =>
    have hremoved : (broadcaster.removePeer peerId).SeenInStep := ⟨hstep.order, hstep.bounded⟩
    exact ⟨fun _ ↦ trivial, fun _ ↦ hremoved⟩
  | prepareAnnounce announcement =>
    have hcached := (sameSeen_cacheAnnouncement (broadcaster.markSeen ambient.marking
      ambient.messageId broadcaster.localPeerId) ambient.caching announcement).seenInStep_iff
    exact hcached.trans (seenInStep_markSeen_iff hcapacity hstep ambient.marking ambient.messageId
      broadcaster.localPeerId)
  | handleMessage message fromPeer =>
    exact seenInStep_handleMessage_iff hcapacity hstep message fromPeer ambient
  | cleanup =>
    exact ⟨fun _ ↦ trivial, fun _ ↦ seenInStep_cleanup hstep ambient.sweep⟩

/-- The seen cache is in step in every state of a run exactly when every id that is marked unasked
is new to the cache at its moment, or the oldest of a full cache. -/
theorem seenInStep_iff_marksOnce (scheme : SignatureScheme) (now : ℕ) (localPeerId : PeerId)
    (config : BroadcastConfig) (hcapacity : 1 ≤ config.maxSeenCache)
    (calls : List (Call × Ambient)) :
    Always (perform scheme) SeenInStep (new now localPeerId config) calls ↔
      Throughout (perform scheme) MarksOnce (new now localPeerId config) calls := by
  have hside : 1 ≤ (new now localPeerId config).config.maxSeenCache := hcapacity
  have hkeep : ∀ (broadcaster : GossipBroadcaster) (call : Call × Ambient),
      1 ≤ broadcaster.config.maxSeenCache →
        1 ≤ (broadcaster.perform scheme call).config.maxSeenCache := by
    intro broadcaster call hbound
    rw [(identity_perform scheme broadcaster call).2.1]
    exact hbound
  have hstart : (new now localPeerId config).SeenInStep := ⟨List.Perm.refl _, Nat.zero_le _⟩
  exact always_iff_throughout_of_invariant hside hkeep hstart
    fun broadcaster call hbound hstep ↦ seenInStep_perform_iff scheme hbound hstep call

/-- A broadcaster whose seen cache holds two ids. -/
def exampleBroadcaster : GossipBroadcaster :=
  new 0 (PeerId.ofByte 0) { BroadcastConfig.default with maxSeenCache := 2 }

/-- A response with the given id, handled at time zero. -/
def exampleResponse (byte : UInt8) : Call × Ambient :=
  (.handleMessage (.response (MessageId.ofByte byte) (PeerId.ofByte 1) []) (PeerId.ofByte 1),
    .still 0 (MessageId.ofByte 0))

/-- A response arrives twice, and three others once each. -/
def repeatedResponses : List (Call × Ambient) :=
  [exampleResponse 1, exampleResponse 1, exampleResponse 2, exampleResponse 3, exampleResponse 4]

/-- Along the repeated responses the cache falls out of step: the queue holds the repeated id twice,
and at the end the map of two holds three ids. -/
theorem repeated_response_overfills :
    ¬ Always (perform .keyless) SeenInStep exampleBroadcaster repeatedResponses ∧
      ((repeatedResponses.take 2).foldl (perform .keyless) exampleBroadcaster).seenOrder =
        [MessageId.ofByte 1, MessageId.ofByte 1] ∧
      (repeatedResponses.foldl (perform .keyless) exampleBroadcaster).seenMessages.keys.length =
        3 := by
  decide +kernel

/-- The run of different responses, none of them repeated. -/
theorem seenInStep_iff_marksOnce_exampleResponses :
    Always (perform .keyless) SeenInStep exampleBroadcaster
      [exampleResponse 1, exampleResponse 2, exampleResponse 3] :=
  (seenInStep_iff_marksOnce .keyless 0 (PeerId.ofByte 0)
    { BroadcastConfig.default with maxSeenCache := 2 } (by decide) _).mpr (by decide +kernel)

/-! ### Ids that stay -/

/-- The id that a call marks: the random id of an announcement, or the id of a message that is
handled without an error and is not a duplicate. -/
def marks (scheme : SignatureScheme) (broadcaster : GossipBroadcaster) :
    Call × Ambient → Option MessageId
  | (.prepareAnnounce _, ambient) => some ambient.messageId
  | (.handleMessage message fromPeer, ambient) =>
    match (broadcaster.handleMessage scheme ambient message fromPeer).2 with
    | .ok result => if result.wasDuplicate then none else message.messageId
    | .error _ => none
  | _ => none

/-- The sweep that a call runs does not drop the id. -/
def KeepsSeen (messageId : MessageId) (broadcaster : GossipBroadcaster) (call : Call × Ambient) :
    Prop :=
  ∀ readings ∈ broadcaster.sweepOf call,
    broadcaster.hasSeen messageId = true → (broadcaster.cleanup readings).hasSeen messageId = true

instance (messageId : MessageId) (broadcaster : GossipBroadcaster) (call : Call × Ambient) :
    Decidable (broadcaster.KeepsSeen messageId call) :=
  inferInstanceAs (Decidable (∀ _ ∈ _, _))

/-- What handling a message does to the seen messages: nothing when the rate limiter refuses it, and
otherwise the sweep, behind which the id of the message may be marked. -/
theorem seen_handleMessage_cases (scheme : SignatureScheme) (broadcaster : GossipBroadcaster)
    (message : GossipMessage) (fromPeer : PeerId) (ambient : Ambient) :
    (broadcaster.allows ambient fromPeer = false ∧
        broadcaster.SameSeen (broadcaster.handleMessage scheme ambient message fromPeer).1) ∨
      (broadcaster.allows ambient fromPeer = true ∧
        (broadcaster.swept ambient fromPeer).SameSeen
          (broadcaster.handleMessage scheme ambient message fromPeer).1) ∨
      ∃ marked, broadcaster.allows ambient fromPeer = true ∧
        broadcaster.marks scheme (.handleMessage message fromPeer, ambient) = some marked ∧
        ((broadcaster.swept ambient fromPeer).markSeen ambient.marking marked fromPeer).SameSeen
          (broadcaster.handleMessage scheme ambient message fromPeer).1 := by
  have hhandled : Handled scheme broadcaster ambient fromPeer message _ _ :=
    handleMessage_cases message
  have hmarks : ∀ result, (broadcaster.handleMessage scheme ambient message fromPeer).2 =
      .ok result → result.wasDuplicate = false →
        broadcaster.marks scheme (.handleMessage message fromPeer, ambient) =
          message.messageId := by
    intro result hresult hduplicate
    simp only [marks, hresult, hduplicate, Bool.false_eq_true, if_false]
  cases hhandled with
  | refused error hallows hafter hresult =>
    rw [hafter]
    exact .inl ⟨hallows, rfl, rfl, rfl⟩
  | rejected messageId announcement ttlHops error hallows hmessage haccepts hafter hresult =>
    rw [hafter]
    exact .inr (.inl ⟨hallows, rfl, rfl, rfl⟩)
  | duplicate messageId hallows hid hbroadcast hseen hafter hresult =>
    rw [hafter]
    exact .inr (.inl ⟨hallows, rfl, rfl, rfl⟩)
  | announced messageId announcement ttlHops hallows hmessage hseen haccepts hafter hresult =>
    rw [hafter, hmarks _ hresult rfl, hmessage]
    exact .inr (.inr ⟨messageId, hallows, rfl, sameSeen_cacheAnnouncement _ _ announcement⟩)
  | queried query hallows hmessage hseen hafter hresult =>
    rw [hafter, hmarks _ hresult rfl, hmessage]
    exact .inr (.inr ⟨query.queryId, hallows, rfl, rfl, rfl, rfl⟩)
  | responded queryId responder announcements hallows hmessage hafter hresult =>
    rw [hafter, hmarks _ hresult rfl, hmessage]
    exact .inr (.inr ⟨queryId, hallows, rfl, rfl, rfl, rfl⟩)
  | ignored hallows hid hafter hresult =>
    rw [hafter]
    exact .inr (.inl ⟨hallows, rfl, rfl, rfl⟩)

section Staying

variable {scheme : SignatureScheme} {broadcaster : GossipBroadcaster} {messageId : MessageId}

/-- Marking an id adds no other id. -/
theorem keys_markSeen_subset (now : ℕ) (fromPeer : PeerId) :
    (broadcaster.markSeen now messageId fromPeer).seenMessages.keys ⊆
      messageId :: broadcaster.seenMessages.keys := by
  have hevicted : broadcaster.evictSeen.seenMessages.keys ⊆ broadcaster.seenMessages.keys := by
    unfold evictSeen
    split
    · split
      · exact List.Subset.refl _
      · simp only [AList.keys_erase]
        exact List.erase_subset
    · exact List.Subset.refl _
  unfold markSeen
  simp only [AList.keys_insert]
  exact List.cons_subset_cons _ (List.Subset.trans List.erase_subset hevicted)

/-- The rate limiter and the sweep add no id. -/
theorem keys_swept_subset (ambient : Ambient) (fromPeer : PeerId) :
    (broadcaster.swept ambient fromPeer).seenMessages.keys ⊆ broadcaster.seenMessages.keys := by
  unfold swept maybeCleanup
  split
  · exact (keys_sift_sublist _ _).subset
  · exact List.Subset.refl _

/-- The number of ids does not grow behind the rate limiter and the sweep. -/
theorem length_keys_swept_le (ambient : Ambient) (fromPeer : PeerId) :
    (broadcaster.swept ambient fromPeer).seenMessages.keys.length ≤
      broadcaster.seenMessages.keys.length :=
  List.Nodup.length_le_of_subset (AList.keys_nodup _) (keys_swept_subset ambient fromPeer)

/-- A call adds no id but the one it marks. -/
theorem keys_perform_subset (call : Call × Ambient) :
    (broadcaster.perform scheme call).seenMessages.keys ⊆
      broadcaster.seenMessages.keys ++ (broadcaster.marks scheme call).toList := by
  obtain ⟨call, ambient⟩ := call
  cases call with
  | addPeer peerId =>
    simp only [perform, marks, (sameSeen_addPeer broadcaster peerId).seenMessages]
    exact List.subset_append_left _ _
  | removePeer peerId => exact List.subset_append_left _ _
  | prepareAnnounce announcement =>
    exact List.Subset.trans (keys_markSeen_subset ambient.marking broadcaster.localPeerId)
      (List.perm_append_singleton _ _).symm.subset
  | handleMessage message fromPeer =>
    have hswept : (broadcaster.swept ambient fromPeer).seenMessages.keys ⊆
        broadcaster.seenMessages.keys := keys_swept_subset ambient fromPeer
    rcases seen_handleMessage_cases scheme broadcaster message fromPeer ambient with
      ⟨-, hsame⟩ | ⟨-, hsame⟩ | ⟨marked, -, hmarks, hsame⟩
    · rw [perform, hsame.seenMessages]
      exact List.subset_append_left _ _
    · rw [perform, hsame.seenMessages]
      exact List.Subset.trans hswept (List.subset_append_left _ _)
    · rw [perform, hsame.seenMessages, hmarks]
      have hmark := List.Subset.trans (keys_markSeen_subset ambient.marking fromPeer)
        (List.cons_subset_cons marked hswept)
      exact List.Subset.trans hmark (List.perm_append_singleton _ _).symm.subset
  | cleanup =>
    exact List.Subset.trans (keys_sift_sublist _ _).subset (List.subset_append_left _ _)

/-- A marked id has been seen. -/
theorem hasSeen_markSeen_self (now : ℕ) (fromPeer : PeerId) :
    (broadcaster.markSeen now messageId fromPeer).hasSeen messageId = true := by
  simp [hasSeen, markSeen]

/-- With room in the cache, marking an id drops no other. -/
theorem hasSeen_markSeen_of_room
    (hroom : broadcaster.seenMessages.keys.length < broadcaster.config.maxSeenCache)
    (hseen : broadcaster.hasSeen messageId = true) (now : ℕ) (marked : MessageId)
    (fromPeer : PeerId) : (broadcaster.markSeen now marked fromPeer).hasSeen messageId = true := by
  have hevicted : broadcaster.evictSeen = broadcaster := by
    simp only [evictSeen, if_neg (Nat.not_le.mpr hroom)]
  rw [hasSeen_iff] at hseen ⊢
  unfold markSeen
  simp only [hevicted, AList.keys_insert, List.mem_cons]
  by_cases hsame : messageId = marked
  · exact .inl hsame
  · exact .inr ((List.mem_erase_of_ne hsame).mpr hseen)

/-- A seen id is still seen behind the rate limiter and a sweep that does not drop it. -/
theorem hasSeen_swept {message : GossipMessage} {fromPeer : PeerId} {ambient : Ambient}
    (hkeeps : broadcaster.KeepsSeen messageId (.handleMessage message fromPeer, ambient))
    (hallows : broadcaster.allows ambient fromPeer = true)
    (hseen : broadcaster.hasSeen messageId = true) :
    (broadcaster.swept ambient fromPeer).hasSeen messageId = true := by
  unfold swept maybeCleanup
  split
  · rename_i hdue
    have hdue : broadcaster.sweepDue ambient.elapsed = true := hdue
    exact hkeeps ambient.sweep (by simp [sweepOf, hallows, hdue]) hseen
  · exact hseen

/-- With room in the cache, a seen id is still seen after a call whose sweep does not drop it. -/
theorem hasSeen_perform {call : Call × Ambient}
    (hroom : broadcaster.seenMessages.keys.length < broadcaster.config.maxSeenCache)
    (hkeeps : broadcaster.KeepsSeen messageId call)
    (hseen : broadcaster.hasSeen messageId = true) :
    (broadcaster.perform scheme call).hasSeen messageId = true := by
  obtain ⟨call, ambient⟩ := call
  cases call with
  | addPeer peerId =>
    rw [perform, (sameSeen_addPeer broadcaster peerId).hasSeen]
    exact hseen
  | removePeer peerId => exact hseen
  | prepareAnnounce announcement =>
    rw [perform, prepareAnnounce, (sameSeen_cacheAnnouncement _ _ announcement).hasSeen]
    exact hasSeen_markSeen_of_room hroom hseen ambient.marking ambient.messageId
      broadcaster.localPeerId
  | handleMessage message fromPeer =>
    rcases seen_handleMessage_cases scheme broadcaster message fromPeer ambient with
      ⟨-, hsame⟩ | ⟨hallows, hsame⟩ | ⟨marked, hallows, -, hsame⟩
    · rw [perform, hsame.hasSeen]
      exact hseen
    · rw [perform, hsame.hasSeen]
      exact hasSeen_swept hkeeps hallows hseen
    · have hroomSwept : (broadcaster.swept ambient fromPeer).seenMessages.keys.length <
          (broadcaster.swept ambient fromPeer).config.maxSeenCache := by
        rw [(samePeers_swept broadcaster ambient fromPeer).config]
        exact lt_of_le_of_lt (length_keys_swept_le ambient fromPeer) hroom
      rw [perform, hsame.hasSeen]
      exact hasSeen_markSeen_of_room hroomSwept (hasSeen_swept hkeeps hallows hseen)
        ambient.marking marked fromPeer
  | cleanup => exact hkeeps ambient.sweep rfl hseen

end Staying

end GossipBroadcaster

end Clawbernetes.MoltP2p
