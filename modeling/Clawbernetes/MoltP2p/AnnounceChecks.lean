import Clawbernetes.MoltP2p.AnnouncementCache
import Clawbernetes.MoltP2p.GossipNode

/-!
# The checks on a received announcement

`handle_announce` of `gossip/broadcast.rs` decodes the key of the announcing peer, verifies the
signature and compares the age of the announcement with its time to live. A failed check is meant to
leave everything as it was (`RefusesBad`). The branch for a message with no hop left returns before
the last of the checks, so an authentic announcement that has expired is cached and reported when
it comes with no hops (`ExpiryPassedOver`), and refused with any other number of them.

`refuses_iff` says that a message is refused exactly when `Accepts` fails, and `caches_perform` that
a call adds no announcement to the cache but the one it brings (`Brings`). `Logged` keeps the calls
that a node has made of its broadcaster. Along a run that passes over no expiry, whatever is cached
or reported was brought by one of them: the node announced it itself, or received it authentic and
not expired (`refusesBad_iff_and_vouched`).
-/

set_option autoImplicit false
set_option relaxedAutoImplicit false

namespace Clawbernetes.MoltP2p

open Library.Bytes Library.FiniteTable Library.Runs

namespace GossipBroadcaster

/-- The key of the announcing peer decodes and the signature verifies under it. -/
def Authentic (scheme : SignatureScheme) (announcement : CapacityAnnouncement) : Prop :=
  ∃ key, announcement.peerId.toVerifyingKey scheme = some key ∧
    announcement.verify scheme key = .ok ()

/-! ### One message -/

section Message

variable {scheme : SignatureScheme} {broadcaster : GossipBroadcaster} {ambient : Ambient}
  {messageId : MessageId} {announcement : CapacityAnnouncement} {ttlHops : UInt8}
  {fromPeer : PeerId}

/-- Handling the announcement fails, and only the rate limiter and the periodic sweep change the
broadcaster. -/
def Refuses (scheme : SignatureScheme) (broadcaster : GossipBroadcaster) (ambient : Ambient)
    (messageId : MessageId) (announcement : CapacityAnnouncement) (ttlHops : UInt8)
    (fromPeer : PeerId) : Prop :=
  ∃ error, broadcaster.handleMessage scheme ambient (.announce messageId announcement ttlHops)
    fromPeer = (broadcaster.swept ambient fromPeer, .error error)

/-- The announcement is refused when it is not authentic or has expired. -/
def RefusesBad (scheme : SignatureScheme) (broadcaster : GossipBroadcaster) (ambient : Ambient)
    (messageId : MessageId) (announcement : CapacityAnnouncement) (ttlHops : UInt8)
    (fromPeer : PeerId) : Prop :=
  ¬ Authentic scheme announcement ∨ announcement.isExpired ambient.expiry = true →
    broadcaster.Refuses scheme ambient messageId announcement ttlHops fromPeer

/-- A new announcement is refused exactly when it fails one of the checks that are made of it. -/
theorem refuses_iff (hallows : broadcaster.allows ambient fromPeer = true)
    (hseen : (broadcaster.swept ambient fromPeer).hasSeen messageId = false) :
    broadcaster.Refuses scheme ambient messageId announcement ttlHops fromPeer ↔
      ¬ Accepts scheme ambient announcement ttlHops := by
  have hhandled : Handled scheme broadcaster ambient fromPeer
      (.announce messageId announcement ttlHops) _ _ := handleMessage_cases _
  unfold Refuses
  cases hhandled with
  | refused error hrefused hafter hresult => cases hallows.symm.trans hrefused
  | rejected _ _ _ error _ hmessage haccepts hafter hresult =>
    cases hmessage
    exact iff_of_true ⟨error, Prod.ext hafter hresult⟩ haccepts
  | duplicate _ _ hid _ hknown hafter hresult =>
    cases hid
    cases hseen.symm.trans hknown
  | announced _ _ _ _ hmessage _ haccepts hafter hresult =>
    cases hmessage
    refine iff_of_false ?_ (not_not_intro haccepts)
    rintro ⟨error, hhandled⟩
    rw [hhandled] at hresult
    cases hresult
  | queried query _ hmessage => cases hmessage
  | responded queryId responder announcements _ hmessage => cases hmessage
  | ignored _ hid => cases hid

/-- What fails no check that is made of it although it is bad: an authentic announcement that has
expired, with no hop left. -/
theorem accepts_of_bad_iff (hbad : ¬ Authentic scheme announcement ∨
    announcement.isExpired ambient.expiry = true) :
    Accepts scheme ambient announcement ttlHops ↔
      ttlHops = 0 ∧ Authentic scheme announcement ∧
        announcement.isExpired ambient.expiry = true := by
  constructor
  · rintro ⟨hauthentic, hlive⟩
    have hexpired := hbad.resolve_left (not_not_intro hauthentic)
    refine ⟨hlive.resolve_right ?_, hauthentic, hexpired⟩
    rw [hexpired]
    decide
  · rintro ⟨hzero, hauthentic, -⟩
    exact ⟨hauthentic, .inl hzero⟩

/-- A new announcement that is bad is refused, but for the expired one with no hop left. -/
theorem refusesBad_iff (hallows : broadcaster.allows ambient fromPeer = true)
    (hseen : (broadcaster.swept ambient fromPeer).hasSeen messageId = false) :
    broadcaster.RefusesBad scheme ambient messageId announcement ttlHops fromPeer ↔
      ¬ (ttlHops = 0 ∧ Authentic scheme announcement ∧
        announcement.isExpired ambient.expiry = true) := by
  unfold RefusesBad
  rw [refuses_iff hallows hseen]
  constructor
  · intro hrefuses hpassed
    exact hrefuses (.inr hpassed.2.2) ((accepts_of_bad_iff (.inr hpassed.2.2)).mpr hpassed)
  · intro hchecked hbad haccepts
    exact hchecked ((accepts_of_bad_iff hbad).mp haccepts)

end Message

/-! ### What a call caches -/

section Caching

variable {scheme : SignatureScheme} {broadcaster : GossipBroadcaster} {ambient : Ambient}

/-- The announcement is in the cache. -/
def Caches (broadcaster : GossipBroadcaster) (announcement : CapacityAnnouncement) : Prop :=
  ∃ peerId, ∃ entry ∈ itemsAt broadcaster.announcementCache peerId,
    entry.announcement = announcement

/-- Fewer entries cache no other announcement. -/
theorem Caches.of_subset {after : GossipBroadcaster} {announcement : CapacityAnnouncement}
    (hcaches : after.Caches announcement)
    (hsubset : ∀ peerId, itemsAt after.announcementCache peerId ⊆
      itemsAt broadcaster.announcementCache peerId) : broadcaster.Caches announcement := by
  obtain ⟨peerId, entry, hentry, hannouncement⟩ := hcaches
  exact ⟨peerId, entry, hsubset peerId hentry, hannouncement⟩

/-- Caching an announcement adds no other. -/
theorem Caches.of_cacheAnnouncement {now : ℕ} {announcement found : CapacityAnnouncement}
    (hcaches : (broadcaster.cacheAnnouncement now announcement).Caches found) :
    broadcaster.Caches found ∨ found = announcement := by
  obtain ⟨peerId, entry, hentry, rfl⟩ := hcaches
  rcases mem_cacheAnnouncement hentry with hold | rfl
  · exact .inl ⟨peerId, entry, hold, rfl⟩
  · exact .inr rfl

/-- A sweep caches nothing. -/
theorem Caches.of_cleanup {readings : SweepReadings} {found : CapacityAnnouncement}
    (hcaches : (broadcaster.cleanup readings).Caches found) : broadcaster.Caches found := by
  obtain ⟨peerId, entry, hentry, hannouncement⟩ := hcaches
  exact ⟨peerId, entry, ((mem_cleanup_iff readings).mp hentry).1, hannouncement⟩

/-- The rate limiter and the periodic sweep cache nothing. -/
theorem Caches.of_swept {fromPeer : PeerId} {found : CapacityAnnouncement}
    (hcaches : (broadcaster.swept ambient fromPeer).Caches found) :
    broadcaster.Caches found := by
  unfold swept maybeCleanup at hcaches
  split at hcaches
  · exact hcaches.of_cleanup
  · exact hcaches

/-- Marking an id caches nothing. -/
theorem Caches.of_markSeen {now : ℕ} {messageId : MessageId} {fromPeer : PeerId}
    {found : CapacityAnnouncement}
    (hcaches : (broadcaster.markSeen now messageId fromPeer).Caches found) :
    broadcaster.Caches found := by
  unfold Caches at hcaches
  rwa [(Traced.announcements_markSeen _ _ _ _).1] at hcaches

/-- The call brings the announcement: it is told to announce it, or is handed a message with it
while it is authentic and has not expired. -/
def Brings (scheme : SignatureScheme) (found : CapacityAnnouncement) : Call × Ambient → Prop
  | (.prepareAnnounce announcement, _) => announcement = found
  | (.handleMessage (.announce _ announcement _) _, ambient) =>
    announcement = found ∧ Authentic scheme announcement ∧
      announcement.isExpired ambient.expiry = false
  | _ => False

/-- The check of the expiry is passed over in this call: a new message that is let through brings,
with no hop left, an authentic announcement that has expired. -/
def ExpiryPassedOver (scheme : SignatureScheme) (broadcaster : GossipBroadcaster) :
    Call × Ambient → Prop
  | (.handleMessage (.announce messageId announcement ttlHops) fromPeer, ambient) =>
    broadcaster.allows ambient fromPeer = true ∧
      (broadcaster.swept ambient fromPeer).hasSeen messageId = false ∧ ttlHops = 0 ∧
      Authentic scheme announcement ∧ announcement.isExpired ambient.expiry = true
  | _ => False

/-- A new announcement that is accepted is brought by its message, unless the check of its expiry is
passed over. -/
theorem brings_of_accepts {messageId : MessageId} {announcement : CapacityAnnouncement}
    {ttlHops : UInt8} {fromPeer : PeerId}
    (hallows : broadcaster.allows ambient fromPeer = true)
    (hseen : (broadcaster.swept ambient fromPeer).hasSeen messageId = false)
    (haccepts : Accepts scheme ambient announcement ttlHops)
    (hchecked : ¬ broadcaster.ExpiryPassedOver scheme
      (.handleMessage (.announce messageId announcement ttlHops) fromPeer, ambient)) :
    Brings scheme announcement
      (.handleMessage (.announce messageId announcement ttlHops) fromPeer, ambient) := by
  refine ⟨rfl, haccepts.1, eq_false_of_ne_true fun hexpired ↦ hchecked ?_⟩
  obtain ⟨hzero, hauthentic, hexpired⟩ := (accepts_of_bad_iff (.inr hexpired)).mp haccepts
  exact ⟨hallows, hseen, hzero, hauthentic, hexpired⟩

/-- Handling a message caches nothing but what the message brings, unless the check of the expiry is
passed over. -/
theorem caches_handleMessage {message : GossipMessage} {fromPeer : PeerId} {ambient : Ambient}
    {found : CapacityAnnouncement}
    (hchecked : ¬ broadcaster.ExpiryPassedOver scheme (.handleMessage message fromPeer, ambient))
    (hcaches : (broadcaster.handleMessage scheme ambient message fromPeer).1.Caches found) :
    broadcaster.Caches found ∨ Brings scheme found (.handleMessage message fromPeer, ambient) := by
  have hhandled : Handled scheme broadcaster ambient fromPeer message _ _ :=
    handleMessage_cases message
  cases hhandled with
  | refused error hallows hafter hresult =>
    rw [hafter] at hcaches
    exact .inl hcaches
  | rejected messageId announcement ttlHops error hallows hmessage haccepts hafter hresult =>
    rw [hafter] at hcaches
    exact .inl hcaches.of_swept
  | duplicate messageId hallows hid hbroadcast hseen hafter hresult =>
    rw [hafter] at hcaches
    exact .inl hcaches.of_swept
  | announced messageId announcement ttlHops hallows hmessage hseen haccepts hafter hresult =>
    subst hmessage
    rw [hafter] at hcaches
    rcases hcaches.of_cacheAnnouncement with hold | rfl
    · exact .inl hold.of_markSeen.of_swept
    · exact .inr (brings_of_accepts hallows hseen haccepts hchecked)
  | queried query hallows hmessage hseen hafter hresult =>
    rw [hafter] at hcaches
    exact .inl hcaches.of_markSeen.of_swept
  | responded queryId responder announcements hallows hmessage hafter hresult =>
    rw [hafter] at hcaches
    exact .inl hcaches.of_markSeen.of_swept
  | ignored hallows hid hafter hresult =>
    rw [hafter] at hcaches
    exact .inl hcaches.of_swept

/-- A call caches nothing but what it brings, unless the check of the expiry is passed over. -/
theorem caches_perform {call : Call × Ambient} {found : CapacityAnnouncement}
    (hchecked : ¬ broadcaster.ExpiryPassedOver scheme call)
    (hcaches : (broadcaster.perform scheme call).Caches found) :
    broadcaster.Caches found ∨ Brings scheme found call := by
  obtain ⟨call, ambient⟩ := call
  cases call with
  | addPeer peerId =>
    left
    rw [perform, addPeer] at hcaches
    split_ifs at hcaches with hother
    · exact hcaches
    · exact hcaches
  | removePeer peerId =>
    refine .inl (hcaches.of_subset fun other ↦ ?_)
    by_cases hother : other = peerId
    · subst hother
      rw [perform, removePeer, itemsAt_erase_self]
      exact List.nil_subset _
    · rw [perform, removePeer, itemsAt_erase_of_ne hother]
      exact List.Subset.refl _
  | prepareAnnounce announcement =>
    rcases Caches.of_cacheAnnouncement hcaches with hold | rfl
    · exact .inl hold.of_markSeen
    · exact .inr rfl
  | handleMessage message fromPeer => exact caches_handleMessage hchecked hcaches
  | cleanup => exact .inl hcaches.of_cleanup

end Caching

end GossipBroadcaster

/-! ### Runs of a node -/

namespace LocalGossipNode

open GossipBroadcaster

/-- The check of the expiry is passed over in the call that the operation makes of the
broadcaster. -/
def ExpiryPassedOver (scheme : SignatureScheme) (node : LocalGossipNode)
    (operation : Operation × Ambient) : Prop :=
  ∃ call ∈ node.asked operation.1,
    node.broadcaster.ExpiryPassedOver scheme (call, operation.2)

/-- A node beside the calls that it has made of its broadcaster. -/
structure Logged where
  node : LocalGossipNode
  calls : List (Call × Ambient)

namespace Logged

/-- One operation, with its call written down. -/
def step (scheme : SignatureScheme) (logged : Logged) (operation : Operation × Ambient) :
    Logged where
  node := logged.node.perform scheme operation
  calls := logged.calls ++
    ((logged.node.asked operation.1).map fun call ↦ (call, operation.2)).toList

/-- A new node has made no call. -/
def start (now : ℕ) (peerId : PeerId) (config : BroadcastConfig) : Logged :=
  ⟨.new now peerId config, []⟩

/-- What is cached was brought by a call, and what is reported as received was brought by a message
of the reported sender. -/
structure Vouched (scheme : SignatureScheme) (logged : Logged) : Prop where
  cached : ∀ announcement, logged.node.broadcaster.Caches announcement →
    ∃ call ∈ logged.calls, Brings scheme announcement call
  reported : ∀ announcement fromPeer,
    .announcementReceived announcement fromPeer ∈ logged.node.pendingEvents →
      ∃ messageId ttlHops ambient, ∃ call ∈ logged.calls, Brings scheme announcement call ∧
        call = (.handleMessage (.announce messageId announcement ttlHops) fromPeer, ambient)

end Logged

section Steps

variable {scheme : SignatureScheme} {node : LocalGossipNode}

/-- Handling a message reports an announcement as received only if the message brings it and is
taken. -/
theorem reported_handleMessage {message : GossipMessage} {sender fromPeer : PeerId}
    {ambient : Ambient} {announcement : CapacityAnnouncement}
    (hreported : .announcementReceived announcement fromPeer ∈
      (node.perform scheme (.handleMessage message sender, ambient)).pendingEvents) :
    .announcementReceived announcement fromPeer ∈ node.pendingEvents ∨
      ∃ messageId ttlHops result, message = .announce messageId announcement ttlHops ∧
        sender = fromPeer ∧ node.taken scheme ambient message sender = some result := by
  rw [perform, (queues_handleMessage message sender ambient).2, List.mem_append] at hreported
  refine hreported.imp id fun hevent ↦ ?_
  cases htaken : node.taken scheme ambient message sender with
  | none =>
    rw [htaken] at hevent
    cases hevent
  | some result =>
    rw [htaken, Option.map_some, Option.getD_some] at hevent
    cases message with
    | announce messageId found ttlHops =>
      cases List.mem_singleton.mp hevent
      exact ⟨messageId, ttlHops, result, rfl, rfl, rfl⟩
    | query query => cases List.mem_singleton.mp hevent
    | response queryId responder announcements => cases List.mem_singleton.mp hevent
    | heartbeat peer timestamp => cases hevent
    | syncRequest peer since => cases hevent
    | syncResponse announcements => cases hevent

/-- An announcement is reported as received only when its message is taken. -/
theorem reported_perform {operation : Operation} {ambient : Ambient}
    {announcement : CapacityAnnouncement} {fromPeer : PeerId}
    (hreported : .announcementReceived announcement fromPeer ∈
      (node.perform scheme (operation, ambient)).pendingEvents) :
    .announcementReceived announcement fromPeer ∈ node.pendingEvents ∨
      ∃ messageId ttlHops result,
        operation = .handleMessage (.announce messageId announcement ttlHops) fromPeer ∧
          node.taken scheme ambient (.announce messageId announcement ttlHops) fromPeer =
            some result := by
  cases operation with
  | handleMessage message sender =>
    refine (reported_handleMessage hreported).imp id fun hbrought ↦ ?_
    obtain ⟨messageId, ttlHops, result, rfl, rfl, htaken⟩ := hbrought
    exact ⟨messageId, ttlHops, result, rfl, htaken⟩
  | addPeer peerId =>
    rw [perform, addPeer, List.mem_append] at hreported
    refine .inl (hreported.resolve_right fun hevent ↦ ?_)
    cases List.mem_singleton.mp hevent
  | removePeer peerId =>
    rw [perform, removePeer, List.mem_append] at hreported
    refine .inl (hreported.resolve_right fun hevent ↦ ?_)
    cases List.mem_singleton.mp hevent
  | prepareAnnounce announced =>
    rw [perform, prepareAnnounce] at hreported
    split_ifs at hreported with hprocess
    · exact .inl hreported
    · exact .inl hreported
  | prepareQuery filter maxResults =>
    rw [perform, prepareQuery] at hreported
    split_ifs at hreported with hprocess
    · exact .inl hreported
    · exact .inl hreported
  | sendResponse queryId toPeer announcements =>
    rw [perform, sendResponse] at hreported
    split_ifs at hreported with hprocess
    · exact .inl hreported
    · exact .inl hreported
  | takePendingEvent => exact .inl (List.mem_of_mem_tail hreported)
  | takeAllPendingEvents => cases hreported
  | setState state => exact .inl hreported
  | takePendingSend => exact .inl hreported
  | takeAllPendingSends => exact .inl hreported
  | tick => exact .inl hreported
  | broadcasterMut call => exact .inl hreported

/-- An announcement that a node takes is brought by its message, unless the check of its expiry is
passed over. -/
theorem brings_of_taken {messageId : MessageId} {announcement : CapacityAnnouncement}
    {ttlHops : UInt8} {fromPeer : PeerId} {ambient : Ambient} {result : BroadcastResult}
    (htaken : node.taken scheme ambient (.announce messageId announcement ttlHops) fromPeer =
      some result)
    (hchecked : ¬ node.broadcaster.ExpiryPassedOver scheme
      (.handleMessage (.announce messageId announcement ttlHops) fromPeer, ambient)) :
    Brings scheme announcement
      (.handleMessage (.announce messageId announcement ttlHops) fromPeer, ambient) := by
  obtain ⟨-, hok, hnew⟩ := taken_eq_some_iff.mp htaken
  have hhandled : Handled scheme node.broadcaster ambient fromPeer
      (.announce messageId announcement ttlHops) _ _ := handleMessage_cases _
  cases hhandled with
  | refused error _ _ hresult => cases hok.symm.trans hresult
  | rejected _ _ _ error _ _ _ _ hresult => cases hok.symm.trans hresult
  | duplicate _ _ _ _ _ _ hresult =>
    cases hok.symm.trans hresult
    cases hnew
  | announced _ _ _ hallows hmessage hseen haccepts =>
    cases hmessage
    exact brings_of_accepts hallows hseen haccepts hchecked
  | queried query _ hmessage => cases hmessage
  | responded queryId responder announcements _ hmessage => cases hmessage
  | ignored _ hid => cases hid

/-- One operation that passes over no expiry keeps everything vouched for. -/
theorem Logged.Vouched.step {logged : Logged} (hvouched : logged.Vouched scheme)
    {operation : Operation × Ambient}
    (hchecked : ¬ logged.node.ExpiryPassedOver scheme operation) :
    (logged.step scheme operation).Vouched scheme := by
  obtain ⟨operation, ambient⟩ := operation
  have hkept : logged.calls ⊆ (logged.step scheme (operation, ambient)).calls :=
    List.subset_append_left _ _
  have hwritten : ∀ call, logged.node.asked operation = some call →
      (call, ambient) ∈ (logged.step scheme (operation, ambient)).calls := by
    intro call hasked
    refine List.mem_append_right _ ?_
    rw [hasked]
    exact List.mem_singleton_self _
  constructor
  case cached =>
    intro announcement hcaches
    rw [Logged.step, broadcaster_perform] at hcaches
    cases hasked : logged.node.asked operation with
    | none =>
      rw [hasked] at hcaches
      obtain ⟨call, hcall, hbrings⟩ := hvouched.cached announcement hcaches
      exact ⟨call, hkept hcall, hbrings⟩
    | some call =>
      rw [hasked] at hcaches
      have hcall : ¬ logged.node.broadcaster.ExpiryPassedOver scheme (call, ambient) :=
        fun hpassed ↦ hchecked ⟨call, hasked, hpassed⟩
      rcases caches_perform hcall hcaches with hold | hbrings
      · obtain ⟨other, hother, hbrings⟩ := hvouched.cached announcement hold
        exact ⟨other, hkept hother, hbrings⟩
      · exact ⟨(call, ambient), hwritten call hasked, hbrings⟩
  case reported =>
    intro announcement fromPeer hreported
    rcases reported_perform hreported with hold | ⟨messageId, ttlHops, result, rfl, htaken⟩
    · obtain ⟨messageId, ttlHops, received, call, hcall, hbrings, hmessage⟩ :=
        hvouched.reported announcement fromPeer hold
      exact ⟨messageId, ttlHops, received, call, hkept hcall, hbrings, hmessage⟩
    · have hasked : logged.node.asked
          (.handleMessage (.announce messageId announcement ttlHops) fromPeer) =
            some (.handleMessage (.announce messageId announcement ttlHops) fromPeer) :=
        if_pos (taken_eq_some_iff.mp htaken).1
      have hcall := brings_of_taken htaken fun hpassed ↦ hchecked ⟨_, hasked, hpassed⟩
      exact ⟨messageId, ttlHops, ambient, _, hwritten _ hasked, hcall, rfl⟩

/-- In a run that passes over no expiry, everything that is cached or reported is vouched for in
every state. -/
theorem Logged.always_vouched {now : ℕ} {peerId : PeerId} {config : BroadcastConfig}
    {operations : List (Operation × Ambient)}
    (hchecked : Throughout (Logged.step scheme)
      (fun logged operation ↦ ¬ logged.node.ExpiryPassedOver scheme operation)
      (Logged.start now peerId config) operations) :
    Always (Logged.step scheme) (Logged.Vouched scheme) (Logged.start now peerId config)
      operations := by
  refine always_of_throughout ⟨?_, ?_⟩ (fun _ _ hvouched hstep ↦ hvouched.step hstep) hchecked
  · rintro announcement ⟨peer, entry, hentry, -⟩
    cases hentry
  · intro announcement fromPeer hreported
    cases hreported

end Steps

/-- A message with a new announcement that is not authentic or has expired is refused and changes
nothing behind the rate limiter and the periodic sweep, exactly unless the announcement is
authentic, has expired and comes with no hop left. In every state of a run in which no such message
is handled, what the node has cached was announced by itself or received while it was authentic and
not expired, and so was what it reports. -/
theorem refusesBad_iff_and_vouched (scheme : SignatureScheme) :
    (∀ (broadcaster : GossipBroadcaster) (ambient : Ambient) (messageId : MessageId)
      (announcement : CapacityAnnouncement) (ttlHops : UInt8) (fromPeer : PeerId),
      broadcaster.allows ambient fromPeer = true →
      (broadcaster.swept ambient fromPeer).hasSeen messageId = false →
        (broadcaster.RefusesBad scheme ambient messageId announcement ttlHops fromPeer ↔
          ¬ (ttlHops = 0 ∧ Authentic scheme announcement ∧
            announcement.isExpired ambient.expiry = true))) ∧
      ∀ (now : ℕ) (peerId : PeerId) (config : BroadcastConfig)
        (operations : List (Operation × Ambient)),
        Throughout (Logged.step scheme)
          (fun logged operation ↦ ¬ logged.node.ExpiryPassedOver scheme operation)
          (Logged.start now peerId config) operations →
        Always (Logged.step scheme) (Logged.Vouched scheme) (Logged.start now peerId config)
          operations :=
  ⟨fun _ _ _ _ _ _ hallows hseen ↦ refusesBad_iff hallows hseen,
    fun _ _ _ _ hchecked ↦ Logged.always_vouched hchecked⟩

/-- A scheme under which every key decodes and every signature verifies. -/
def lenientScheme : SignatureScheme where
  fromBytes := fun bytes ↦ some ⟨bytes⟩
  sign := fun _ _ ↦ ⟨List.replicate 64 0, length_zeros_64⟩
  verifyStrict := fun _ _ _ ↦ .ok ()

/-- A signed announcement of time zero that lives for five minutes. -/
def signedAnnouncement : CapacityAnnouncement :=
  (CapacityAnnouncement.new 0 (PeerId.ofByte 1) [] ⟨100, 10⟩ [] (.fromSecs 300)).sign
    lenientScheme ⟨[]⟩

/-- Ten minutes later the announcement arrives with no hop left: it is neither refused nor out of
the cache. -/
theorem expired_announcement_is_cached :
    let broadcaster := GossipBroadcaster.new 0 (PeerId.ofByte 0) .default
    let ambient := Ambient.still (600 * 10 ^ 9) (MessageId.ofByte 2)
    signedAnnouncement.isExpired ambient.expiry = true ∧
      ¬ broadcaster.RefusesBad lenientScheme ambient (MessageId.ofByte 3) signedAnnouncement 0
        (PeerId.ofByte 2) ∧
      (broadcaster.handleMessage lenientScheme ambient
        (.announce (MessageId.ofByte 3) signedAnnouncement 0)
        (PeerId.ofByte 2)).1.cachedAnnouncementCount = 1 := by
  refine ⟨by decide +kernel, fun hrefuses ↦ ?_, by decide +kernel⟩
  have hauthentic : Authentic lenientScheme signedAnnouncement := ⟨⟨_⟩, rfl, rfl⟩
  refine (refusesBad_iff (by decide +kernel) (by decide +kernel)).mp hrefuses ?_
  exact ⟨rfl, hauthentic, by decide +kernel⟩

end LocalGossipNode

end Clawbernetes.MoltP2p
