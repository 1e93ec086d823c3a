import Clawbernetes.Library.Flooding
import Clawbernetes.MoltAttestation.Signing
import Clawbernetes.MoltP2p.GossipNetwork
import Mathlib.Data.Fintype.Basic

/-!
# How far an announcement gets

A node announces under an id that nothing else in the network uses, and the nodes pass the
announcement on. A node that has room for all its peers among its targets sends it to each of them
but the one it got it from, and since a message is forwarded with the hops it came with, it is never
held back for want of hops.

`Undisturbed` is what the steps of a run are asked for: the seen caches keep the id, the peers of
the nodes stay, no other message carries the id, and a node that is handed the announcement lets it
through and accepts it. `step_cases` says once what such a step does: either nothing happens to the
announcement, or it arrives at a node that has not seen it. Every other result goes through it. The
announcement spreads as `Library.Flooding` describes, so that after its copies have been delivered,
in any order and any number of times, it has been seen by exactly the nodes that the origin reaches
over known peers, each of them but the origin has reported it exactly once, and no node has sent it
to another twice (`announcement_reaches`).
-/

set_option autoImplicit false
set_option relaxedAutoImplicit false

namespace Clawbernetes.MoltP2p

open Library.Bytes Library.FiniteTable Library.Runs Library.Flooding Relation
open MoltAttestation (onceSigned)

/-! ### One node -/

namespace GossipBroadcaster

variable {broadcaster : GossipBroadcaster}

/-- No peer is selected twice. -/
theorem nodup_selectAmong (ambient : Ambient) (eligible : PeerId → Bool) :
    (broadcaster.selectAmong ambient eligible).Nodup := by
  have hcandidates : (ambient.walk.arrange (broadcaster.knownPeers.keys.filter eligible)).Nodup :=
    (ambient.walk.perm _).nodup_iff.mpr ((AList.keys_nodup _).filter _)
  simp only [selectAmong]
  split
  · exact hcandidates
  · exact ((ambient.shuffle.perm _).nodup_iff.mpr hcandidates).sublist (List.take_sublist _ _)

/-- With room for all known peers, every peer that is not excluded is selected. -/
theorem mem_selectAmong_iff
    (hfanout : broadcaster.knownPeers.keys.length ≤ broadcaster.config.fanout) {ambient : Ambient}
    {eligible : PeerId → Bool} {peer : PeerId} :
    peer ∈ broadcaster.selectAmong ambient eligible ↔
      peer ∈ broadcaster.knownPeers.keys ∧ eligible peer = true := by
  have hwalk := ambient.walk.perm (broadcaster.knownPeers.keys.filter eligible)
  have hshort : (ambient.walk.arrange (broadcaster.knownPeers.keys.filter eligible)).length ≤
      broadcaster.config.fanout := by
    rw [hwalk.length_eq]
    exact (List.length_filter_le _ _).trans hfanout
  simp only [selectAmong, if_pos hshort]
  rw [hwalk.mem_iff, List.mem_filter]

/-- What handling a message marks is its id. -/
theorem marks_handleMessage {scheme : SignatureScheme} {message : GossipMessage}
    {fromPeer : PeerId} {ambient : Ambient} {marked : MessageId}
    (hmarks : broadcaster.marks scheme (.handleMessage message fromPeer, ambient) = some marked) :
    message.messageId = some marked := by
  simp only [marks] at hmarks
  split at hmarks
  · split_ifs at hmarks
    exact hmarks
  · cases hmarks

end GossipBroadcaster

namespace LocalGossipNode

variable {scheme : SignatureScheme} {node : LocalGossipNode} {messageId : MessageId}
  {announcement : CapacityAnnouncement} {hops : UInt8} {ambient : Ambient} {fromPeer : PeerId}

/-- The node has seen the id. -/
def HasSeen (node : LocalGossipNode) (messageId : MessageId) : Prop :=
  node.broadcaster.hasSeen messageId = true

instance (messageId : MessageId) : DecidablePred fun node : LocalGossipNode ↦
    node.HasSeen messageId :=
  fun _ ↦ inferInstanceAs (Decidable (_ = true))

instance : DecidablePred Room := fun _ ↦ inferInstanceAs (Decidable (_ < _))

/-- The node is in a state to process the announcement, the rate limiter lets the peer through and
the announcement passes its checks. -/
structure Receives (scheme : SignatureScheme) (node : LocalGossipNode) (ambient : Ambient)
    (announcement : CapacityAnnouncement) (hops : UInt8) (fromPeer : PeerId) : Prop where
  canProcess : node.state.canProcess = true
  allows : node.broadcaster.allows ambient fromPeer = true
  accepts : GossipBroadcaster.Accepts scheme ambient announcement hops

/-- What the node is asked to check of an announcement, one check after the other. -/
theorem receives_iff : ((∃ key ∈ announcement.peerId.toVerifyingKey scheme,
      (announcement.verify scheme key).isOk = true) ∧
    (hops = 0 ∨ announcement.isExpired ambient.expiry = false) ∧ node.state.canProcess = true ∧
      node.broadcaster.allows ambient fromPeer = true) ↔
    node.Receives scheme ambient announcement hops fromPeer := by
  have hverified : ∀ key, (announcement.verify scheme key).isOk = true ↔
      announcement.verify scheme key = .ok () := by
    intro key
    cases announcement.verify scheme key with
    | error reason => simp [Except.isOk, Except.toBool]
    | ok verified => simp [Except.isOk, Except.toBool]
  simp only [hverified, Option.mem_def]
  constructor
  · exact fun ⟨hauthentic, hlive, hprocess, hallows⟩ ↦ ⟨hprocess, hallows, hauthentic, hlive⟩
  · exact fun ⟨hprocess, hallows, hauthentic, hlive⟩ ↦ ⟨hauthentic, hlive, hprocess, hallows⟩

instance : Decidable (node.Receives scheme ambient announcement hops fromPeer) :=
  decidable_of_iff _ receives_iff

/-- An operation that keeps the id in the cache and does not mark it leaves it as seen as it was. -/
theorem hasSeen_perform_iff (scheme : SignatureScheme) {operation : Operation × Ambient}
    (hroom : node.Room)
    (hkeeps : node.Keeps messageId operation)
    (hmarks : node.marks scheme operation ≠ some messageId) :
    (node.perform scheme operation).HasSeen messageId ↔ node.HasSeen messageId := by
  constructor
  · intro hseen
    rw [HasSeen, GossipBroadcaster.hasSeen_iff] at hseen ⊢
    rcases List.mem_append.mp (keys_foldl_subset [operation] node hseen) with hold | hmarked
    · exact hold
    · simp only [markedIds, List.append_nil, Option.mem_toList] at hmarked
      exact absurd hmarked hmarks
  · exact hasSeen_perform hroom hkeeps

/-- A node that has seen the id neither reports nor forwards a message with it. -/
theorem idle_of_hasSeen (scheme : SignatureScheme) {message : GossipMessage}
    (hkeeps : node.Keeps messageId (.handleMessage message fromPeer, ambient))
    (hbroadcast : message.ttlHops?.isSome = true) (hid : message.messageId = some messageId)
    (hseen : node.HasSeen messageId) :
    node.newSends scheme (.handleMessage message fromPeer, ambient) = [] ∧
      node.newEvents scheme (.handleMessage message fromPeer, ambient) = [] := by
  have htakes : node.takes scheme messageId (.handleMessage message fromPeer, ambient) = false :=
    takes_of_hasSeen hkeeps hseen
  have hnone : node.taken scheme ambient message fromPeer = none := by
    simpa [takes, hbroadcast, hid] using htakes
  rw [newSends_handleMessage, newEvents_handleMessage, hnone]
  exact ⟨rfl, rfl⟩

/-- A node that receives an announcement has seen its id afterwards. -/
theorem hasSeen_of_receives
    (hreceives : node.Receives scheme ambient announcement hops fromPeer) :
    (node.perform scheme (.handleMessage (.announce messageId announcement hops) fromPeer,
      ambient)).HasSeen messageId := by
  have hasked : node.asked (.handleMessage (.announce messageId announcement hops) fromPeer) =
      some (.handleMessage (.announce messageId announcement hops) fromPeer) :=
    if_pos hreceives.canProcess
  rw [HasSeen, broadcaster_perform, hasked]
  have hhandled : GossipBroadcaster.Handled scheme node.broadcaster ambient fromPeer
      (.announce messageId announcement hops) _ _ := GossipBroadcaster.handleMessage_cases _
  cases hhandled with
  | refused error hallows => exact absurd (hallows.symm.trans hreceives.allows) Bool.false_ne_true
  | rejected _ _ _ error hallows hmessage haccepts =>
    cases hmessage
    exact absurd hreceives.accepts haccepts
  | duplicate found hallows hid hbroadcast hseen hafter =>
    obtain rfl : messageId = found := Option.some.inj hid
    simpa only [Option.map_some, Option.getD_some, GossipBroadcaster.perform, hafter] using hseen
  | announced found _ _ hallows hmessage hseen haccepts hafter =>
    cases hmessage
    simp only [Option.map_some, Option.getD_some, GossipBroadcaster.perform, hafter]
    rw [(GossipBroadcaster.sameSeen_cacheAnnouncement _ _ announcement).hasSeen]
    exact GossipBroadcaster.hasSeen_markSeen_self _ _
  | queried query hallows hmessage => cases hmessage
  | responded queryId responder announcements hallows hmessage => cases hmessage
  | ignored hallows hid => cases hid

/-- A node that receives an announcement with hops to go and has not seen its id reports it and
forwards it to its targets. -/
theorem forwards_of_receives (hhops : hops ≠ 0)
    (hreceives : node.Receives scheme ambient announcement hops fromPeer)
    (hunseen : ¬ node.HasSeen messageId) :
    node.newSends scheme
        (.handleMessage (.announce messageId announcement hops) fromPeer, ambient) =
      (node.broadcaster.selectFanoutPeers ambient (some fromPeer)).map (fun peer ↦
        (peer, .announce messageId announcement hops)) ∧
    node.newEvents scheme
        (.handleMessage (.announce messageId announcement hops) fromPeer, ambient) =
      [.announcementReceived announcement fromPeer] := by
  have hhandled : GossipBroadcaster.Handled scheme node.broadcaster ambient fromPeer
      (.announce messageId announcement hops) _ _ := GossipBroadcaster.handleMessage_cases _
  cases hhandled with
  | refused error hallows => exact absurd (hallows.symm.trans hreceives.allows) Bool.false_ne_true
  | rejected _ _ _ error hallows hmessage haccepts =>
    cases hmessage
    exact absurd hreceives.accepts haccepts
  | duplicate found hallows hid hbroadcast hseen =>
    obtain rfl : messageId = found := Option.some.inj hid
    rw [GossipBroadcaster.hasSeen_iff] at hseen
    have hbefore := GossipBroadcaster.keys_swept_subset ambient fromPeer hseen
    exact absurd (GossipBroadcaster.hasSeen_iff.mpr hbefore) hunseen
  | announced found _ _ hallows hmessage hseen haccepts hafter hresult =>
    cases hmessage
    rw [if_neg hhops] at hresult
    have htaken := taken_eq_some_iff.mpr ⟨hreceives.canProcess, hresult, rfl⟩
    rw [newSends_handleMessage, newEvents_handleMessage, htaken]
    exact ⟨rfl, rfl⟩
  | queried query hallows hmessage => cases hmessage
  | responded queryId responder announcements hallows hmessage => cases hmessage
  | ignored hallows hid => cases hid

/-! ### What an operation does to the spreading -/

/-- The operation neither changes the peers of the node nor brings up the id. -/
def Avoids (messageId : MessageId) : Operation × Ambient → Prop
  | (.addPeer _, _) | (.removePeer _, _) | (.broadcasterMut _, _) => False
  | (.handleMessage message _, _) => message.messageId ≠ some messageId
  | (.prepareAnnounce _, ambient) | (.prepareQuery _ _, ambient) => ambient.messageId ≠ messageId
  | (.sendResponse queryId _ _, _) => queryId ≠ messageId
  | _ => True

instance (messageId : MessageId) : ∀ operation, Decidable (Avoids messageId operation)
  | (.addPeer _, _) | (.removePeer _, _) | (.broadcasterMut _, _) =>
    inferInstanceAs (Decidable False)
  | (.handleMessage _ _, _) | (.prepareAnnounce _, _) | (.prepareQuery _ _, _)
  | (.sendResponse _ _ _, _) => inferInstanceAs (Decidable (_ ≠ _))
  | (.setState _, _) | (.takePendingSend, _) | (.takePendingEvent, _)
  | (.takeAllPendingSends, _) | (.takeAllPendingEvents, _) | (.tick, _) =>
    inferInstanceAs (Decidable True)

/-- The operation changes neither the peers of the node nor whether it has seen the id, and it
neither sends nor reports a message with the id. -/
structure Quiet (scheme : SignatureScheme) (messageId : MessageId) (node : LocalGossipNode)
    (operation : Operation × Ambient) : Prop where
  samePeers : node.broadcaster.SamePeers (node.perform scheme operation).broadcaster
  hasSeen_iff : (node.perform scheme operation).HasSeen messageId ↔ node.HasSeen messageId
  sends : ∀ send ∈ node.newSends scheme operation, send.2.messageId ≠ some messageId
  reports : node.reports scheme messageId operation = false

/-- The operation makes the node see the id for the first time, report the announcement and send it
to its targets. -/
structure Arrives (scheme : SignatureScheme) (messageId : MessageId)
    (announcement : CapacityAnnouncement) (hops : UInt8) (fromPeer : PeerId) (ambient : Ambient)
    (node : LocalGossipNode) (operation : Operation × Ambient) : Prop where
  samePeers : node.broadcaster.SamePeers (node.perform scheme operation).broadcaster
  unseen : ¬ node.HasSeen messageId
  seen : (node.perform scheme operation).HasSeen messageId
  sends : node.newSends scheme operation =
    (node.broadcaster.selectFanoutPeers ambient (some fromPeer)).map fun peer ↦
      (peer, .announce messageId announcement hops)
  reports : node.reports scheme messageId operation = true

/-- Handling a message keeps the peers. -/
theorem samePeers_handleMessage (message : GossipMessage) :
    node.broadcaster.SamePeers
      (node.perform scheme (.handleMessage message fromPeer, ambient)).broadcaster := by
  rw [broadcaster_perform, asked]
  split_ifs
  · exact GossipBroadcaster.samePeers_handleMessage message
  · exact ⟨rfl, rfl, rfl⟩

/-- An operation that avoids the id and keeps it is quiet. -/
theorem quiet_of_avoids {operation : Operation × Ambient} (hroom : node.Room)
    (hkeeps : node.Keeps messageId operation) (havoids : Avoids messageId operation) :
    node.Quiet scheme messageId operation := by
  obtain ⟨operation, ambient⟩ := operation
  have hseen := hasSeen_perform_iff scheme hroom hkeeps
  cases operation with
  | addPeer peerId => exact havoids.elim
  | removePeer peerId => exact havoids.elim
  | broadcasterMut call => exact havoids.elim
  | handleMessage message fromPeer =>
    refine ⟨samePeers_handleMessage message, hseen ?_, ?_, ?_⟩
    · intro hmarks
      obtain ⟨call, hcall, hmarked⟩ := Option.bind_eq_some_iff.mp hmarks
      simp only [asked] at hcall
      split_ifs at hcall
      obtain rfl := Option.some.inj hcall
      exact havoids (GossipBroadcaster.marks_handleMessage hmarked)
    · intro send hsend
      rw [message_of_newSends hsend]
      exact havoids
    · simp only [Avoids] at havoids
      simp [reports, havoids]
  | prepareAnnounce announcement =>
    refine ⟨?_, hseen ?_, ?_, rfl⟩
    · rw [broadcaster_perform, asked]
      split_ifs
      · exact GossipBroadcaster.samePeers_prepareAnnounce _ _ _
      · exact ⟨rfl, rfl, rfl⟩
    · intro hmarks
      obtain ⟨call, hcall, hmarked⟩ := Option.bind_eq_some_iff.mp hmarks
      simp only [asked] at hcall
      split_ifs at hcall
      obtain rfl := Option.some.inj hcall
      exact havoids (Option.some.inj hmarked)
    · intro send hsend
      rw [newSends_prepareAnnounce] at hsend
      split_ifs at hsend
      · obtain ⟨peer, -, rfl⟩ := List.mem_map.mp hsend
        exact fun hid ↦ havoids (Option.some.inj hid)
      · cases hsend
  | prepareQuery filter maxResults =>
    refine ⟨?_, hseen (by simp [marks, asked]), ?_, rfl⟩
    · rw [broadcaster_perform]
      exact ⟨rfl, rfl, rfl⟩
    · intro send hsend
      rw [newSends_prepareQuery] at hsend
      split_ifs at hsend
      · obtain ⟨peer, -, rfl⟩ := List.mem_map.mp hsend
        exact fun hid ↦ havoids (Option.some.inj hid)
      · cases hsend
  | sendResponse queryId toPeer announcements =>
    refine ⟨?_, hseen (by simp [marks, asked]), ?_, rfl⟩
    · rw [broadcaster_perform]
      exact ⟨rfl, rfl, rfl⟩
    · intro send hsend
      simp only [newSends, perform, sendResponse] at hsend
      split_ifs at hsend
      · simp only [queueSends, List.drop_left, List.map_singleton, List.mem_singleton] at hsend
        rw [hsend]
        exact fun hid ↦ havoids (Option.some.inj hid)
      · simp at hsend
  | tick =>
    exact ⟨⟨rfl, rfl, rfl⟩, hseen (by simp [marks, asked, GossipBroadcaster.marks]),
      by simp [newSends, perform, tick], rfl⟩
  | takePendingSend =>
    have hnone : node.newSends scheme (.takePendingSend, ambient) = [] :=
      List.drop_eq_nil_of_le (by simp [perform, takePendingSend])
    exact ⟨⟨rfl, rfl, rfl⟩, hseen (by simp [marks, asked]), by simp [hnone], rfl⟩
  | _ =>
    exact ⟨⟨rfl, rfl, rfl⟩, hseen (by simp [marks, asked]), by simp [newSends, perform, setState,
      takePendingEvent, takeAllPendingSends, takeAllPendingEvents], rfl⟩

/-- A node that has seen the id and is handed the announcement again is quiet. -/
theorem quiet_of_hasSeen (hroom : node.Room)
    (hkeeps : node.Keeps messageId
      (.handleMessage (.announce messageId announcement hops) fromPeer, ambient))
    (hseen : node.HasSeen messageId) :
    node.Quiet scheme messageId
      (.handleMessage (.announce messageId announcement hops) fromPeer, ambient) := by
  obtain ⟨hsends, hevents⟩ := idle_of_hasSeen scheme hkeeps rfl rfl hseen
  refine ⟨samePeers_handleMessage _, iff_of_true (hasSeen_perform hroom hkeeps hseen) hseen, ?_, ?_⟩
  · rw [hsends]
    exact fun send hsend ↦ by cases hsend
  · rw [reports, hevents]
    simp

/-- The announcement arrives at a node that receives it and has not seen its id. -/
theorem arrives_of_receives (hhops : hops ≠ 0)
    (hreceives : node.Receives scheme ambient announcement hops fromPeer)
    (hunseen : ¬ node.HasSeen messageId) :
    node.Arrives scheme messageId announcement hops fromPeer ambient
      (.handleMessage (.announce messageId announcement hops) fromPeer, ambient) := by
  obtain ⟨hsends, hevents⟩ := forwards_of_receives hhops hreceives hunseen
  refine ⟨samePeers_handleMessage _, hunseen, hasSeen_of_receives hreceives, hsends, ?_⟩
  rw [reports, hevents]
  simp [GossipMessage.messageId, isReception]

end LocalGossipNode

/-! ### The network -/

namespace Network

variable {Site : Type} [DecidableEq Site]

/-- The node at the first site has the node at the second among its peers. -/
def Knows (network : Network Site) (site other : Site) : Prop :=
  (network.nodes other).peerId ∈ (network.nodes site).broadcaster.knownPeers.keys

/-- A copy with the id is addressed to the node at the site. -/
def Underway (network : Network Site) (messageId : MessageId) (site : Site) : Prop :=
  ∃ copy ∈ network.sent, copy.message.messageId = some messageId ∧
    copy.target = (network.nodes site).peerId

/-- The copies with the id, by sender and target. -/
def routes (network : Network Site) (messageId : MessageId) : List (PeerId × PeerId) :=
  (network.sent.filter fun copy ↦ copy.message.messageId = some messageId).map fun copy ↦
    (copy.sender, copy.target)

/-- Every copy with the id is the announcement and was sent by a node that has seen the id, none was
sent on the same way twice, the nodes have kept their peers, and the announcement spreads from the
origin. -/
structure Spreading (first : Network Site) (origin : Site) (messageId : MessageId)
    (announcement : CapacityAnnouncement) (hops : UInt8) (network : Network Site) : Prop where
  samePeers : ∀ site, (first.nodes site).broadcaster.SamePeers (network.nodes site).broadcaster
  carried : ∀ copy ∈ network.sent, copy.message.messageId = some messageId →
    copy.message = .announce messageId announcement hops ∧
      ∃ site, (first.nodes site).peerId = copy.sender ∧ (network.nodes site).HasSeen messageId
  once : (network.routes messageId).Nodup
  spread : Spread first.Knows origin (fun site ↦ (network.nodes site).HasSeen messageId)
    (network.Underway messageId)

/-- The step leaves the announcement to spread: the node has room for another id and keeps this one,
an operation on the spot avoids the id, and a node that is handed the announcement receives it. -/
def Undisturbed (scheme : SignatureScheme) (messageId : MessageId)
    (announcement : CapacityAnnouncement) (hops : UInt8) (network : Network Site) :
    NetworkStep Site → Prop
  | .operate site asked ambient =>
    (network.nodes site).Room ∧ (network.nodes site).Keeps messageId (asked.operation, ambient) ∧
      LocalGossipNode.Avoids messageId (asked.operation, ambient)
  | .deliver site index ambient => ∀ copy ∈ network.deliverable site index,
    (network.nodes site).Room ∧
      (network.nodes site).Keeps messageId (.handleMessage copy.message copy.sender, ambient) ∧
      (copy.message.messageId = some messageId →
        (network.nodes site).Receives scheme ambient announcement hops copy.sender)

instance (scheme : SignatureScheme) (messageId : MessageId) (announcement : CapacityAnnouncement)
    (hops : UInt8) (network : Network Site) :
    ∀ next, Decidable (network.Undisturbed scheme messageId announcement hops next)
  | .operate _ _ _ => inferInstanceAs (Decidable (_ ∧ _ ∧ _))
  | .deliver _ _ _ => inferInstanceAs (Decidable (∀ _ ∈ _, _))

section Acting

variable {scheme : SignatureScheme} {network : Network Site} {site : Site}
  {operation : LocalGossipNode.Operation × Ambient} {tag : Tag} {messageId : MessageId}

/-- The node that acts. -/
theorem nodes_act_self : (network.act scheme site operation tag).nodes site =
    (network.nodes site).perform scheme operation :=
  Function.update_self ..

/-- The other nodes. -/
theorem nodes_act_of_ne {other : Site} (hother : other ≠ site) :
    (network.act scheme site operation tag).nodes other = network.nodes other :=
  Function.update_of_ne hother ..

/-- An action changes no identity. -/
theorem peerId_act (other : Site) :
    ((network.act scheme site operation tag).nodes other).peerId =
      (network.nodes other).peerId := by
  by_cases hother : other = site
  · rw [hother, nodes_act_self]
    exact (LocalGossipNode.identity_perform operation).1
  · rw [nodes_act_of_ne hother]

/-- An action that keeps the peers of the node keeps the peers of all. -/
theorem samePeers_act {first : Network Site}
    (hfirst : ∀ other, (first.nodes other).broadcaster.SamePeers (network.nodes other).broadcaster)
    (hsame : (network.nodes site).broadcaster.SamePeers
      ((network.nodes site).perform scheme operation).broadcaster) (other : Site) :
    (first.nodes other).broadcaster.SamePeers
      ((network.act scheme site operation tag).nodes other).broadcaster := by
  by_cases hother : other = site
  · rw [hother, nodes_act_self]
    exact (hfirst site).trans hsame
  · rw [nodes_act_of_ne hother]
    exact hfirst other

/-- The routes after an action are the old ones and those of the new copies. -/
theorem routes_act : (network.act scheme site operation tag).routes messageId =
    network.routes messageId ++
      (((network.nodes site).newSends scheme operation).filter fun send ↦
        send.2.messageId = some messageId).map fun send ↦
          ((network.nodes site).peerId, send.1) := by
  simp only [routes, act, List.filter_append, List.map_append, List.filter_map, List.map_map]
  rfl

/-- Word is underway after an action where it was and where the new copies go. -/
theorem underway_act_iff (other : Site) :
    (network.act scheme site operation tag).Underway messageId other ↔
      network.Underway messageId other ∨
        ∃ send ∈ (network.nodes site).newSends scheme operation,
          send.2.messageId = some messageId ∧ send.1 = (network.nodes other).peerId := by
  unfold Underway
  rw [peerId_act]
  simp only [act, List.mem_append, List.mem_map]
  constructor
  · rintro ⟨copy, hold | ⟨send, hsend, rfl⟩, hid, htarget⟩
    · exact .inl ⟨copy, hold, hid, htarget⟩
    · exact .inr ⟨send, hsend, hid, htarget⟩
  · rintro (⟨copy, hold, hid, htarget⟩ | ⟨send, hsend, hid, htarget⟩)
    · exact ⟨copy, .inl hold, hid, htarget⟩
    · exact ⟨_, .inr ⟨send, hsend, rfl⟩, hid, htarget⟩

end Acting

section Spreading

variable {scheme : SignatureScheme} {first network : Network Site} {origin site : Site}
  {messageId : MessageId} {announcement : CapacityAnnouncement} {hops : UInt8} {ambient : Ambient}
  {operation : LocalGossipNode.Operation × Ambient} {tag : Tag} {fromPeer : PeerId}

/-- A quiet action keeps the announcement spreading. -/
theorem Spreading.quiet
    (hspreading : Spreading first origin messageId announcement hops network)
    (hquiet : (network.nodes site).Quiet scheme messageId operation) :
    Spreading first origin messageId announcement hops
      (network.act scheme site operation tag) := by
  have hseen : ∀ other, ((network.act scheme site operation tag).nodes other).HasSeen messageId ↔
      (network.nodes other).HasSeen messageId := by
    intro other
    by_cases hother : other = site
    · rw [hother, nodes_act_self]
      exact hquiet.hasSeen_iff
    · rw [nodes_act_of_ne hother]
  have hnone : (((network.nodes site).newSends scheme operation).filter fun send ↦
      send.2.messageId = some messageId) = [] := by
    rw [List.filter_eq_nil_iff]
    intro send hsend
    simpa using hquiet.sends send hsend
  refine ⟨samePeers_act hspreading.samePeers hquiet.samePeers, ?_, ?_, ?_⟩
  · intro copy hcopy hid
    rcases List.mem_append.mp hcopy with hold | hnew
    · obtain ⟨hmessage, sender, hsender, hsaw⟩ := hspreading.carried copy hold hid
      exact ⟨hmessage, sender, hsender, (hseen sender).mpr hsaw⟩
    · obtain ⟨send, hsend, rfl⟩ := List.mem_map.mp hnew
      exact absurd hid (hquiet.sends send hsend)
  · rw [routes_act, hnone, List.map_nil, List.append_nil]
    exact hspreading.once
  · refine hspreading.spread.quiet hseen fun other ↦ ?_
    rw [underway_act_iff]
    constructor
    · rintro (hold | ⟨send, hsend, hid, -⟩)
      · exact hold
      · exact absurd hid (hquiet.sends send hsend)
    · exact .inl

/-- The arrival of the announcement at a node that it is underway to keeps it spreading, when the
node has room for all its peers among its targets and the sender has seen the id. -/
theorem Spreading.arrive
    (hdistinct : Function.Injective fun site ↦ (first.nodes site).peerId)
    (hfanout : (first.nodes site).broadcaster.knownPeers.keys.length ≤
      (first.nodes site).broadcaster.config.fanout)
    (hspreading : Spreading first origin messageId announcement hops network)
    (hunderway : network.Underway messageId site)
    (hsender : ∃ sender, (first.nodes sender).peerId = fromPeer ∧
      (network.nodes sender).HasSeen messageId)
    (harrives : (network.nodes site).Arrives scheme messageId announcement hops fromPeer ambient
      operation) :
    Spreading first origin messageId announcement hops
      (network.act scheme site operation tag) := by
  have hpeerId : ∀ other, (network.nodes other).peerId = (first.nodes other).peerId :=
    fun other ↦ (hspreading.samePeers other).localPeerId
  have hseen : ∀ other, ((network.act scheme site operation tag).nodes other).HasSeen messageId ↔
      (network.nodes other).HasSeen messageId ∨ other = site := by
    intro other
    by_cases hother : other = site
    · rw [hother, nodes_act_self]
      exact iff_of_true harrives.seen (.inr rfl)
    · rw [nodes_act_of_ne hother]
      exact (or_iff_left hother).symm
  have htargets : ∀ peer, peer ∈ (network.nodes site).broadcaster.selectFanoutPeers ambient
      (some fromPeer) ↔
        peer ∈ (first.nodes site).broadcaster.knownPeers.keys ∧ peer ≠ fromPeer := by
    intro peer
    rw [GossipBroadcaster.selectFanoutPeers, (hspreading.samePeers site).selectAmong,
      GossipBroadcaster.mem_selectAmong_iff hfanout]
    simp
  have hsent : ∀ other, (∃ send ∈ (network.nodes site).newSends scheme operation,
      send.2.messageId = some messageId ∧ send.1 = (network.nodes other).peerId) ↔
        first.Knows site other ∧ (first.nodes other).peerId ≠ fromPeer := by
    intro other
    rw [harrives.sends, hpeerId, Knows, ← htargets]
    simp [GossipMessage.messageId]
  refine ⟨samePeers_act hspreading.samePeers harrives.samePeers, ?_, ?_, ?_⟩
  · intro copy hcopy hid
    rcases List.mem_append.mp hcopy with hold | hnew
    · obtain ⟨hmessage, sender, hname, hsaw⟩ := hspreading.carried copy hold hid
      exact ⟨hmessage, sender, hname, (hseen sender).mpr (.inl hsaw)⟩
    · rw [harrives.sends, List.map_map] at hnew
      obtain ⟨peer, -, rfl⟩ := List.mem_map.mp hnew
      exact ⟨rfl, site, (hpeerId site).symm, (hseen site).mpr (.inr rfl)⟩
  · -- the old routes start at nodes that have seen the id, which this one had not
    have hnodup : ((((network.nodes site).newSends scheme operation).filter fun send ↦
        send.2.messageId = some messageId).map fun send ↦
          ((network.nodes site).peerId, send.1)).Nodup := by
      rw [harrives.sends, List.filter_map, List.map_map]
      refine List.Nodup.map ?_ ((GossipBroadcaster.nodup_selectAmong _ _).filter _)
      exact fun peer other hsame ↦ (Prod.mk.inj hsame).2
    rw [routes_act, List.nodup_append']
    refine ⟨hspreading.once, hnodup, fun route hold hnew ↦ ?_⟩
    obtain ⟨copy, hcopy, rfl⟩ := List.mem_map.mp hold
    obtain ⟨send, -, hsame⟩ := List.mem_map.mp hnew
    rw [List.mem_filter, decide_eq_true_eq] at hcopy
    obtain ⟨-, sender, hname, hsaw⟩ := hspreading.carried copy hcopy.1 hcopy.2
    have hself : (first.nodes sender).peerId = (first.nodes site).peerId := by
      rw [hname, ← hpeerId site]
      exact (Prod.mk.inj hsame).1.symm
    obtain rfl := hdistinct hself
    exact harrives.unseen hsaw
  · refine hspreading.spread.arrive hunderway hseen ?_ ?_ ?_
    · exact fun other hold ↦ (underway_act_iff other).mpr (.inl hold)
    · intro other hother
      rcases (underway_act_iff other).mp hother with hold | hnew
      · exact .inl hold
      · exact .inr ((hsent other).mp hnew).1
    · intro other hknows
      by_cases hback : (first.nodes other).peerId = fromPeer
      · obtain ⟨sender, hname, hsaw⟩ := hsender
        obtain rfl : sender = other := hdistinct (hname.trans hback.symm)
        exact .inl hsaw
      · exact .inr ((underway_act_iff other).mpr (.inr ((hsent other).mpr ⟨hknows, hback⟩)))

end Spreading

/-! ### Runs -/

/-- The step makes the node at the site report the announcement. -/
def reportsAt (scheme : SignatureScheme) (messageId : MessageId) (site : Site)
    (network : Network Site) (next : NetworkStep Site) : Bool :=
  (network.asks site next).any fun operation ↦
    (network.nodes site).reports scheme messageId operation

/-- The delivery that a step makes, by site and number of the copy. -/
def delivery (network : Network Site) : NetworkStep Site → Option (Site × ℕ)
  | .operate _ _ _ => none
  | .deliver site index _ => (network.deliverable site index).map fun _ ↦ (site, index)

/-- The deliveries of a run. -/
def deliveries (scheme : SignatureScheme) : Network Site → List (NetworkStep Site) →
    List (Site × ℕ)
  | _, [] => []
  | network, next :: rest =>
    (network.delivery next).toList ++ deliveries scheme (network.step scheme next) rest

/-- Every copy with the id has been delivered to the nodes it is addressed to. -/
def AllDelivered (scheme : SignatureScheme) (messageId : MessageId) (network : Network Site)
    (steps : List (NetworkStep Site)) : Prop :=
  ∀ entry ∈ (steps.foldl (step scheme) network).sent.zipIdx,
    entry.1.message.messageId = some messageId →
      ∀ site, entry.1.target = ((steps.foldl (step scheme) network).nodes site).peerId →
        (site, entry.2) ∈ deliveries scheme network steps

instance [Fintype Site] (scheme : SignatureScheme) (messageId : MessageId)
    (network : Network Site) (steps : List (NetworkStep Site)) :
    Decidable (AllDelivered scheme messageId network steps) :=
  inferInstanceAs (Decidable (∀ _ ∈ _, _))

/-- What a step does to the announcement: nothing, because nothing is delivered, or what an
operation of one node does, which is quiet or the arrival of the announcement. -/
inductive Spreads (scheme : SignatureScheme) (messageId : MessageId)
    (announcement : CapacityAnnouncement) (hops : UInt8) (network : Network Site)
    (next : NetworkStep Site) : Prop
  | idle (hstep : network.step scheme next = network)
    (hasks : ∀ site, network.asks site next = none)
  | quiet (site : Site) (operation : LocalGossipNode.Operation × Ambient) (tag : Tag)
      (hstep : network.step scheme next = network.act scheme site operation tag)
      (hasks : ∀ other, network.asks other next = if site = other then some operation else none)
      (hquiet : (network.nodes site).Quiet scheme messageId operation)
  | arrival (site : Site) (copy : Copy) (ambient : Ambient) (hcopy : copy ∈ network.sent)
      (hid : copy.message.messageId = some messageId)
      (htarget : copy.target = (network.nodes site).peerId)
      (hstep : network.step scheme next = network.act scheme site
        (.handleMessage copy.message copy.sender, ambient) copy.tag.forwarded)
      (hasks : ∀ other, network.asks other next = if site = other then
        some (.handleMessage copy.message copy.sender, ambient) else none)
      (harrives : (network.nodes site).Arrives scheme messageId announcement hops copy.sender
        ambient (.handleMessage copy.message copy.sender, ambient))

section Runs

variable {scheme : SignatureScheme} {first network : Network Site} {origin : Site}
  {messageId : MessageId} {announcement : CapacityAnnouncement} {hops : UInt8}
  {next : NetworkStep Site} {steps : List (NetworkStep Site)}

/-- Everything that a step can do to a spreading announcement. -/
theorem step_cases (hhops : hops ≠ 0)
    (hspreading : Spreading first origin messageId announcement hops network)
    (hundisturbed : network.Undisturbed scheme messageId announcement hops next) :
    Spreads scheme messageId announcement hops network next := by
  cases next with
  | operate site asked ambient =>
    obtain ⟨hroom, hkeeps, havoids⟩ := hundisturbed
    exact .quiet site _ _ rfl (fun other ↦ rfl)
      (LocalGossipNode.quiet_of_avoids hroom hkeeps havoids)
  | deliver site index ambient =>
    cases hcopy : network.deliverable site index with
    | none =>
      refine .idle ?_ fun other ↦ ?_
      · rw [step, hcopy]
      · by_cases hother : site = other
        · subst hother
          simp [asks, hcopy]
        · simp [asks, hother]
    | some copy =>
      obtain ⟨hroom, hkeeps, hreceives⟩ := hundisturbed copy hcopy
      have hstep : network.step scheme (.deliver site index ambient) = network.act scheme site
          (.handleMessage copy.message copy.sender, ambient) copy.tag.forwarded := by
        rw [step, hcopy]
      have hasks : ∀ other, network.asks other (.deliver site index ambient) = if site = other then
          some (.handleMessage copy.message copy.sender, ambient) else none := by
        intro other
        by_cases hother : site = other
        · subst hother
          simp [asks, hcopy]
        · simp [asks, hother]
      by_cases hid : copy.message.messageId = some messageId
      · have hsent := mem_of_deliverable hcopy
        have htarget : copy.target = (network.nodes site).peerId := by
          simpa using (Option.filter_eq_some_iff.mp hcopy).2
        obtain ⟨hmessage, -⟩ := hspreading.carried copy hsent hid
        by_cases hseen : (network.nodes site).HasSeen messageId
        · refine .quiet site _ _ hstep hasks ?_
          rw [hmessage] at hkeeps ⊢
          exact LocalGossipNode.quiet_of_hasSeen hroom hkeeps hseen
        · refine .arrival site copy ambient hsent hid htarget hstep hasks ?_
          rw [hmessage]
          exact LocalGossipNode.arrives_of_receives hhops (hreceives hid) hseen
      · exact .quiet site _ _ hstep hasks (LocalGossipNode.quiet_of_avoids hroom hkeeps hid)

/-- A step that leaves the announcement to spread keeps it spreading. -/
theorem spreading_step (hdistinct : Function.Injective fun site ↦ (first.nodes site).peerId)
    (hfanout : ∀ site, (first.nodes site).broadcaster.knownPeers.keys.length ≤
      (first.nodes site).broadcaster.config.fanout) (hhops : hops ≠ 0)
    (hspreading : Spreading first origin messageId announcement hops network)
    (hundisturbed : network.Undisturbed scheme messageId announcement hops next) :
    Spreading first origin messageId announcement hops (network.step scheme next) := by
  cases step_cases hhops hspreading hundisturbed with
  | idle hstep hasks =>
    rw [hstep]
    exact hspreading
  | quiet site operation tag hstep hasks hquiet =>
    rw [hstep]
    exact hspreading.quiet hquiet
  | arrival site copy ambient hcopy hid htarget hstep hasks harrives =>
    rw [hstep]
    exact hspreading.arrive hdistinct (hfanout site) ⟨copy, hcopy, hid, htarget⟩
      (hspreading.carried copy hcopy hid).2 harrives

/-- A node that has seen the id has seen it after the step, and a node reports the announcement
exactly when it sees the id for the first time. -/
theorem hasSeen_step (hhops : hops ≠ 0)
    (hspreading : Spreading first origin messageId announcement hops network)
    (hundisturbed : network.Undisturbed scheme messageId announcement hops next) (site : Site) :
    ((network.nodes site).HasSeen messageId →
      ((network.step scheme next).nodes site).HasSeen messageId) ∧
    (network.reportsAt scheme messageId site next = true ↔
      ¬ (network.nodes site).HasSeen messageId ∧
        ((network.step scheme next).nodes site).HasSeen messageId) := by
  cases step_cases hhops hspreading hundisturbed with
  | idle hstep hasks =>
    rw [hstep, reportsAt, hasks]
    simp
  | quiet acting operation tag hstep hasks hquiet =>
    rw [hstep, reportsAt, hasks]
    by_cases hself : acting = site
    · subst hself
      rw [nodes_act_self, hquiet.hasSeen_iff]
      simp [hquiet.reports]
    · rw [nodes_act_of_ne (Ne.symm hself)]
      simp [hself]
  | arrival acting copy ambient hcopy hid htarget hstep hasks harrives =>
    rw [hstep, reportsAt, hasks]
    by_cases hself : acting = site
    · subst hself
      rw [nodes_act_self]
      simp [harrives.reports, harrives.unseen, harrives.seen]
    · rw [nodes_act_of_ne (Ne.symm hself)]
      simp [hself]

/-- No copy is taken back. -/
theorem sent_prefix_foldl (scheme : SignatureScheme) (steps : List (NetworkStep Site))
    (network : Network Site) :
    network.sent <+: (steps.foldl (step scheme) network).sent := by
  induction steps generalizing network with
  | nil => exact List.prefix_refl _
  | cons next rest ih =>
    refine List.IsPrefix.trans ?_ (ih _)
    cases next with
    | operate site asked ambient => exact List.prefix_append _ _
    | deliver site index ambient =>
      rw [step]
      cases network.deliverable site index with
      | none => exact List.prefix_refl _
      | some copy => exact List.prefix_append _ _

/-- A node that a copy with the id has been delivered to has seen it at the end of the run. -/
theorem hasSeen_of_mem_deliveries
    (hdistinct : Function.Injective fun site ↦ (first.nodes site).peerId)
    (hfanout : ∀ site, (first.nodes site).broadcaster.knownPeers.keys.length ≤
      (first.nodes site).broadcaster.config.fanout) (hhops : hops ≠ 0) {site : Site} {index : ℕ}
    {copy : Copy} (hid : copy.message.messageId = some messageId) :
    ∀ {network : Network Site}, Spreading first origin messageId announcement hops network →
      Throughout (step scheme) (Undisturbed scheme messageId announcement hops) network steps →
        (steps.foldl (step scheme) network).sent[index]? = some copy →
          (site, index) ∈ deliveries scheme network steps →
            ((steps.foldl (step scheme) network).nodes site).HasSeen messageId := by
  induction steps with
  | nil => exact fun _ _ _ hmem ↦ by cases hmem
  | cons next rest ih =>
    intro network hspreading hundisturbed hfound hmem
    obtain ⟨hnext, hrest⟩ := throughout_cons.mp hundisturbed
    have hafter := spreading_step hdistinct hfanout hhops hspreading hnext
    rcases List.mem_append.mp hmem with hnow | hlater
    · cases next with
      | operate acting asked ambient => cases hnow
      | deliver acting number ambient =>
        rw [Option.mem_toList, delivery] at hnow
        obtain ⟨delivered, hdelivered, hsame⟩ := Option.map_eq_some_iff.mp hnow
        obtain ⟨rfl, rfl⟩ := Prod.mk.inj hsame
        have hold : network.sent[number]? = some delivered :=
          Option.eq_some_of_filter_eq_some hdelivered
        obtain ⟨later, hlater⟩ := sent_prefix_foldl scheme
          (.deliver acting number ambient :: rest) network
        rw [← hlater, List.getElem?_append_left (List.getElem?_eq_some_iff.mp hold).1, hold]
          at hfound
        obtain rfl := Option.some.inj hfound
        obtain ⟨hroom, hkeeps, hreceives⟩ := hnext delivered hdelivered
        obtain ⟨hmessage, -⟩ := hspreading.carried delivered (mem_of_deliverable hdelivered) hid
        have hseen : ((network.step scheme (.deliver acting number ambient)).nodes
            acting).HasSeen messageId := by
          rw [step, hdelivered]
          dsimp only
          rw [nodes_act_self, hmessage]
          exact LocalGossipNode.hasSeen_of_receives (hreceives hid)
        have hlatch := latch_foldl (fun state ↦ (state.nodes acting).HasSeen messageId)
          (fun _ _ hstate hinput ↦ spreading_step hdistinct hfanout hhops hstate hinput)
          (fun _ _ hstate hinput ↦ (hasSeen_step hhops hstate hinput acting).1) hafter hseen hrest
        exact hlatch
    · exact ih hafter hrest hfound hlater

end Runs

/-- No node has seen the id and no copy carries it. -/
def Fresh (network : Network Site) (messageId : MessageId) : Prop :=
  (∀ site, ¬ (network.nodes site).HasSeen messageId) ∧
    ∀ copy ∈ network.sent, copy.message.messageId ≠ some messageId

instance [Fintype Site] (network : Network Site) (messageId : MessageId) :
    Decidable (network.Fresh messageId) :=
  inferInstanceAs (Decidable (_ ∧ _))

/-- The step by which a node announces. -/
def announces (origin : Site) (announcement : CapacityAnnouncement) (ambient : Ambient) :
    NetworkStep Site :=
  .operate origin ⟨.prepareAnnounce announcement, fun _ _ hsame ↦ by cases hsame⟩ ambient

section Announcing

variable {scheme : SignatureScheme} {network : Network Site} {origin : Site}
  {announcement : CapacityAnnouncement} {ambient : Ambient}

/-- What announcing does to the network. -/
theorem step_announces : network.step scheme (announces origin announcement ambient) =
    network.act scheme origin (.prepareAnnounce announcement, ambient)
      (introduced (network.nodes origin)) := rfl

omit [DecidableEq Site] in
/-- The broadcaster of the node that announces. -/
theorem broadcaster_announces (hprocess : (network.nodes origin).state.canProcess = true) :
    ((network.nodes origin).perform scheme (.prepareAnnounce announcement, ambient)).broadcaster =
      ((network.nodes origin).broadcaster.prepareAnnounce ambient announcement).1 := by
  rw [LocalGossipNode.broadcaster_perform, LocalGossipNode.asked, if_pos hprocess]
  rfl

/-- After an announcement under a fresh id the node that announced has seen the id. -/
theorem hasSeen_announces_iff (scheme : SignatureScheme)
    (announcement : CapacityAnnouncement) (hfresh : network.Fresh ambient.messageId)
    (hprocess : (network.nodes origin).state.canProcess = true) (site : Site) :
    ((network.step scheme (announces origin announcement ambient)).nodes site).HasSeen
      ambient.messageId ↔ site = origin := by
  rw [step_announces]
  by_cases hsite : site = origin
  · refine iff_of_true ?_ hsite
    rw [hsite, nodes_act_self, LocalGossipNode.HasSeen, broadcaster_announces hprocess,
      GossipBroadcaster.prepareAnnounce,
      (GossipBroadcaster.sameSeen_cacheAnnouncement _ _ announcement).hasSeen]
    exact GossipBroadcaster.hasSeen_markSeen_self _ _
  · rw [nodes_act_of_ne hsite]
    exact iff_of_false (hfresh.1 site) hsite

/-- An announcement under a fresh id starts to spread. -/
theorem spreading_announces
    (hfanout : (network.nodes origin).broadcaster.knownPeers.keys.length ≤
      (network.nodes origin).broadcaster.config.fanout)
    (hfresh : network.Fresh ambient.messageId)
    (hprocess : (network.nodes origin).state.canProcess = true) :
    Spreading network origin ambient.messageId announcement
      (network.nodes origin).broadcaster.config.maxTtlHops
      (network.step scheme (announces origin announcement ambient)) := by
  have hseen := hasSeen_announces_iff scheme announcement hfresh
    hprocess
  rw [step_announces] at hseen ⊢
  have hsends : (network.nodes origin).newSends scheme (.prepareAnnounce announcement, ambient) =
      ((network.nodes origin).broadcaster.selectFanoutPeers ambient none).map fun peer ↦
        (peer, .announce ambient.messageId announcement
          (network.nodes origin).broadcaster.config.maxTtlHops) := by
    rw [LocalGossipNode.newSends_prepareAnnounce, if_pos hprocess]
  have hroutes : network.routes ambient.messageId = [] := by
    rw [routes, List.map_eq_nil_iff, List.filter_eq_nil_iff]
    intro copy hcopy
    simpa using hfresh.2 copy hcopy
  have hunderway : ∀ site, (network.act scheme origin (.prepareAnnounce announcement, ambient)
      (introduced (network.nodes origin))).Underway ambient.messageId site ↔
        network.Knows origin site := by
    intro site
    have hnone : ¬ network.Underway ambient.messageId site := by
      rintro ⟨copy, hcopy, hid, -⟩
      exact hfresh.2 copy hcopy hid
    rw [underway_act_iff, or_iff_right hnone, hsends, Knows]
    simp [GossipMessage.messageId, GossipBroadcaster.selectFanoutPeers,
      GossipBroadcaster.mem_selectAmong_iff hfanout]
  refine ⟨?_, ?_, ?_, ?_⟩
  · refine samePeers_act (fun _ ↦ ⟨rfl, rfl, rfl⟩) ?_
    rw [broadcaster_announces hprocess]
    exact GossipBroadcaster.samePeers_prepareAnnounce _ _ _
  · intro copy hcopy hid
    rcases List.mem_append.mp hcopy with hold | hnew
    · exact absurd hid (hfresh.2 copy hold)
    · rw [hsends, List.map_map] at hnew
      obtain ⟨peer, -, rfl⟩ := List.mem_map.mp hnew
      exact ⟨rfl, origin, rfl, (hseen origin).mpr rfl⟩
  · rw [routes_act, hroutes, List.nil_append, hsends, List.filter_map, List.map_map]
    refine List.Nodup.map ?_ ((GossipBroadcaster.nodup_selectAmong _ _).filter _)
    exact fun peer other hsame ↦ (Prod.mk.inj hsame).2
  · refine Spread.start hseen (fun other hknows ↦ ?_) (fun other hother ↦ ?_)
    · exact .inr ((hunderway other).mpr hknows)
    · exact (hunderway other).mp hother

end Announcing

/-- A node announces under an id that is new to the network, every node has room for all its peers
among its targets, and the run that follows leaves the announcement to spread. When the run has
delivered every copy with the id, the nodes that have seen it are exactly those that the origin
reaches over known peers, each of them but the origin has reported the announcement exactly once and
no other node has, and no node has sent the announcement to another twice. -/
theorem announcement_reaches (scheme : SignatureScheme) (network : Network Site) (origin : Site)
    (announcement : CapacityAnnouncement) (ambient : Ambient) (steps : List (NetworkStep Site))
    (hdistinct : Function.Injective fun site ↦ (network.nodes site).peerId)
    (hfanout : ∀ site, (network.nodes site).broadcaster.knownPeers.keys.length ≤
      (network.nodes site).broadcaster.config.fanout)
    (hfresh : network.Fresh ambient.messageId)
    (hprocess : (network.nodes origin).state.canProcess = true)
    (hhops : (network.nodes origin).broadcaster.config.maxTtlHops ≠ 0)
    (hundisturbed : Throughout (step scheme) (Undisturbed scheme ambient.messageId announcement
      (network.nodes origin).broadcaster.config.maxTtlHops)
      (network.step scheme (announces origin announcement ambient)) steps)
    (hdelivered : AllDelivered scheme ambient.messageId
      (network.step scheme (announces origin announcement ambient)) steps) :
    (∀ site, ((((announces origin announcement ambient :: steps).foldl (step scheme)
        network).nodes site).HasSeen ambient.messageId ↔
          ReflTransGen network.Knows origin site) ∧
      (ReflTransGen network.Knows origin site → site ≠ origin →
        countSteps (step scheme) (reportsAt scheme ambient.messageId site) network
          (announces origin announcement ambient :: steps) = 1) ∧
      (¬ ReflTransGen network.Knows origin site ∨ site = origin →
        countSteps (step scheme) (reportsAt scheme ambient.messageId site) network
          (announces origin announcement ambient :: steps) = 0)) ∧
    (((announces origin announcement ambient :: steps).foldl (step scheme) network).routes
      ambient.messageId).Nodup := by
  set started := network.step scheme (announces origin announcement ambient) with hstarted
  have hspreading : Spreading network origin ambient.messageId announcement
      (network.nodes origin).broadcaster.config.maxTtlHops started :=
    spreading_announces (hfanout origin) hfresh hprocess
  have hkept : Always (step scheme) (Spreading network origin ambient.messageId announcement
      (network.nodes origin).broadcaster.config.maxTtlHops) started steps :=
    always_of_throughout hspreading
      (fun _ _ hstate hinput ↦ spreading_step hdistinct hfanout hhops hstate hinput) hundisturbed
  have harrived : ∀ site, (steps.foldl (step scheme) started).Underway ambient.messageId site →
      ((steps.foldl (step scheme) started).nodes site).HasSeen ambient.messageId := by
    rintro site ⟨copy, hcopy, hid, htarget⟩
    obtain ⟨index, hindex⟩ := List.getElem?_of_mem hcopy
    exact hasSeen_of_mem_deliveries hdistinct hfanout hhops hid hspreading hundisturbed hindex
      (hdelivered (copy, index) (List.mk_mem_zipIdx_iff_getElem?.mpr hindex) hid site htarget)
  have hinformed := fun site ↦ hkept.last.spread.informed_iff harrived site
  have hcount : ∀ site, countSteps (step scheme) (reportsAt scheme ambient.messageId site) network
      (announces origin announcement ambient :: steps) = if ¬ (started.nodes site).HasSeen
        ambient.messageId ∧ ((steps.foldl (step scheme) started).nodes site).HasSeen
          ambient.messageId then 1 else 0 := by
    intro site
    have hnone : reportsAt scheme ambient.messageId site network
        (announces origin announcement ambient) = false := by
      by_cases hsite : origin = site
      · simp [reportsAt, announces, asks, hsite, LocalGossipNode.reports]
      · simp [reportsAt, announces, asks, hsite]
    have hlater := countSteps_eq_ite (reportsAt scheme ambient.messageId site)
      (fun state ↦ (state.nodes site).HasSeen ambient.messageId)
      (fun _ _ hstate hinput ↦ spreading_step hdistinct hfanout hhops hstate hinput)
      (fun _ _ hstate hinput ↦ (hasSeen_step hhops hstate hinput site).1)
      (fun _ _ hstate hinput ↦ (hasSeen_step hhops hstate hinput site).2) hspreading hundisturbed
    rw [countSteps, hnone, ← hstarted, hlater]
    simp
  have horigin := fun site ↦ hasSeen_announces_iff scheme announcement hfresh hprocess site
  refine ⟨fun site ↦ ⟨hinformed site, fun hreached hsite ↦ ?_, fun hnot ↦ ?_⟩, hkept.last.once⟩
  · rw [hcount, if_pos ⟨mt (horigin site).mp hsite, (hinformed site).mpr hreached⟩]
  · rw [hcount, if_neg]
    rintro ⟨hunseen, hseen⟩
    rcases hnot with hnot | hsite
    · exact hnot ((hinformed site).mp hseen)
    · exact hunseen ((horigin site).mpr hsite)

/-- The key of the peer that offers its capacity. -/
def capacityKey : ℕ := 0x2cd2461469ea1e42927bbebeae764795f9c52e137b50f5be0a529ce2636c4aea

/-- Its signature of what it offers. -/
def offerSignature : ℕ :=
  0xa237cfd2faefdbd4014813e76f8ea3c9641991520a016ff498ed5ec69f8cdac * 2 ^ 256 +
    0xf503cdf9a720716c796c22823a7a9d9b5c9ff7ce111b838bc882fd34d2a15eed

/-- What the peer offers, at time zero and for five minutes, with its Ed25519 signature. -/
def capacityOffer : CapacityAnnouncement where
  peerId := ⟨leBytes 32 capacityKey, length_leBytes 32 capacityKey⟩
  gpus := []
  pricing := ⟨100, 10⟩
  jobTypes := []
  ttl := .fromSecs 300
  createdAt := 0
  signature := some ⟨leBytes 64 offerSignature, length_leBytes 64 offerSignature⟩

/-- Ed25519 on the offer. -/
def offerScheme : SignatureScheme :=
  onceSigned capacityKey capacityOffer.signingMessage offerSignature

theorem tick_ne_handleMessage (message : GossipMessage) (fromPeer : PeerId) :
    LocalGossipNode.Operation.tick ≠ .handleMessage message fromPeer := by
  intro hsame
  cases hsame

/-- The peers of a line pass the offer of the first one on to the fourth. Between the deliveries the
second peer sweeps and gets the offer again. -/
def relaySteps (second third fourth : Site) : List (NetworkStep Site) :=
  [.deliver second 0 (.still 1 (MessageId.ofByte 2)),
    .operate second ⟨.tick, tick_ne_handleMessage⟩ (.still 2 (MessageId.ofByte 3)),
    .deliver third 1 (.still 3 (MessageId.ofByte 4)),
    .deliver second 0 (.still 4 (MessageId.ofByte 5)),
    .deliver fourth 2 (.still 5 (MessageId.ofByte 6))]

/-- The last peer of the line hears of the offer exactly because the line leads to it. -/
theorem announcement_reaches_relaySteps :
    (((announces 0 capacityOffer (.still 0 (MessageId.ofByte 1)) :: relaySteps 1 2 3).foldl
        (step offerScheme) ⟨lineNode, []⟩).nodes 3).HasSeen (MessageId.ofByte 1) ↔
      ReflTransGen (Knows ⟨lineNode, []⟩) 0 3 :=
  ((announcement_reaches offerScheme ⟨lineNode, []⟩ 0 capacityOffer (.still 0 (MessageId.ofByte 1))
    (relaySteps 1 2 3) (by decide +kernel) (by decide +kernel) (by decide +kernel)
    (by decide +kernel) (by decide +kernel) (by decide +kernel) (by decide +kernel)).1 3).1

end Network

end Clawbernetes.MoltP2p
