import Clawbernetes.MoltP2p.SeenCache
import Mathlib.Data.List.Dedup

/-!
# The gossip node

`gossip/node.rs`. A node is a broadcaster with a state, a queue of messages to send and a queue of
events. A message that the broadcaster takes for the first time is reported as an event and queued,
as it was received, for the peers that the broadcaster chose.

`asked` is the call of the broadcaster that an operation of the node makes, so that the broadcaster
of a node runs as a broadcaster does (`broadcaster_perform`). `taken` is the result of a message
that the node takes, and the events and messages that handling queues are read off it
(`newEvents_handleMessage`, `newSends_handleMessage`).

Along every sequence of operations, with messages of any content from any peers, a node takes a
message id at most once, as long as fewer ids have been marked than the cache holds and no sweep has
dropped the id (`taken_once`), and what it queues goes to at most `fanout` peers, never to itself,
to the sender or to the author of a query (`courteous_perform`).
-/

set_option autoImplicit false
set_option relaxedAutoImplicit false

namespace Clawbernetes.MoltP2p

open Library.FiniteTable Library.Runs

/-- `NodeState`. -/
inductive NodeState where
  | initializing
  | running
  | syncing
  | shuttingDown
  | stopped
  deriving DecidableEq

namespace NodeState

/-- `NodeState::can_process`. -/
def canProcess : NodeState → Bool
  | running => true
  | syncing => true
  | _ => false

/-- The debug text of a state. -/
def debug : NodeState → String
  | initializing => "Initializing"
  | running => "Running"
  | syncing => "Syncing"
  | shuttingDown => "ShuttingDown"
  | stopped => "Stopped"

end NodeState

/-- `GossipEvent`. -/
inductive GossipEvent where
  | announcementReceived (announcement : CapacityAnnouncement) (fromPeer : PeerId)
  | queryReceived (queryId : MessageId) (fromPeer : PeerId) (filter : QueryFilter)
  | responseReceived (queryId : MessageId) (fromPeer : PeerId)
      (announcements : List CapacityAnnouncement)
  | peerDisconnected (peerId : PeerId)
  | peerConnected (peerId : PeerId)
  deriving DecidableEq

/-- `LocalGossipNode`. -/
structure LocalGossipNode where
  broadcaster : GossipBroadcaster
  state : NodeState
  pendingSends : List (PeerId × GossipMessage)
  pendingEvents : List GossipEvent

namespace LocalGossipNode

/-- `LocalGossipNode::new`. -/
def new (now : ℕ) (peerId : PeerId) (config : BroadcastConfig) : LocalGossipNode where
  broadcaster := .new now peerId config
  state := .initializing
  pendingSends := []
  pendingEvents := []

/-- `LocalGossipNode::peer_id`. -/
def peerId (node : LocalGossipNode) : PeerId := node.broadcaster.localPeerId

/-- `LocalGossipNode::set_state`; `start` and `stop` are its cases `Running` and `Stopped`. -/
def setState (node : LocalGossipNode) (state : NodeState) : LocalGossipNode :=
  { node with state := state }

/-- `LocalGossipNode::add_peer`. -/
def addPeer (node : LocalGossipNode) (peerId : PeerId) : LocalGossipNode :=
  { node with
    broadcaster := node.broadcaster.addPeer peerId
    pendingEvents := node.pendingEvents ++ [.peerConnected peerId] }

/-- `LocalGossipNode::remove_peer`. -/
def removePeer (node : LocalGossipNode) (peerId : PeerId) : LocalGossipNode :=
  { node with
    broadcaster := node.broadcaster.removePeer peerId
    pendingEvents := node.pendingEvents ++ [.peerDisconnected peerId] }

/-- `LocalGossipNode::queue_send` for each of a list of peers. -/
def queueSends (node : LocalGossipNode) (peers : List PeerId) (message : GossipMessage) :
    LocalGossipNode :=
  { node with pendingSends := node.pendingSends ++ peers.map fun peer ↦ (peer, message) }

/-- The event for a message that is not a duplicate. -/
def eventOf (message : GossipMessage) (sender : PeerId) : Option GossipEvent :=
  match message with
  | .announce _ announcement _ => some (.announcementReceived announcement sender)
  | .query query => some (.queryReceived query.queryId query.fromPeer query.filter)
  | .response queryId fromPeer announcements =>
    some (.responseReceived queryId fromPeer announcements)
  | .heartbeat _ _ | .syncRequest _ _ | .syncResponse _ => none

/-- `LocalGossipNode::handle_message`. -/
def handleMessage (scheme : SignatureScheme) (node : LocalGossipNode) (ambient : Ambient)
    (message : GossipMessage) (fromPeer : PeerId) :
    LocalGossipNode × Except P2pError BroadcastResult :=
  if node.state.canProcess then
    let (broadcaster, outcome) := node.broadcaster.handleMessage scheme ambient message fromPeer
    let node := { node with broadcaster := broadcaster }
    match outcome with
    | .error error => (node, .error error)
    | .ok result =>
      if result.wasDuplicate then (node, .ok result)
      else
        let node := { node with
          pendingEvents := node.pendingEvents ++ (eventOf message fromPeer).toList }
        (node.queueSends result.targetPeers message, .ok result)
  else (node, .error (.gossip
    ("Node cannot process messages in state " ++ node.state.debug)))

/-- `LocalGossipNode::prepare_announce`. -/
def prepareAnnounce (node : LocalGossipNode) (ambient : Ambient)
    (announcement : CapacityAnnouncement) : LocalGossipNode × Except P2pError BroadcastResult :=
  if node.state.canProcess then
    let (broadcaster, result) := node.broadcaster.prepareAnnounce ambient announcement
    let node := { node with broadcaster := broadcaster }
    let message := GossipMessage.announce result.messageId announcement
      node.broadcaster.config.maxTtlHops
    (node.queueSends result.targetPeers message, .ok result)
  else (node, .error (.gossip ("Node cannot announce in state " ++ node.state.debug)))

/-- `LocalGossipNode::prepare_query`. -/
def prepareQuery (node : LocalGossipNode) (ambient : Ambient) (filter : QueryFilter)
    (maxResults : UInt32) : LocalGossipNode × Except P2pError MessageId :=
  if node.state.canProcess then
    let message := GossipMessage.query (.new ambient.messageId node.peerId filter maxResults
      node.broadcaster.config.maxTtlHops)
    match message.messageId with
    | none => (node, .error (.gossip "Failed to get query ID"))
    | some queryId =>
      let peers := ambient.walk.arrange node.broadcaster.knownPeers.keys
      (node.queueSends peers message, .ok queryId)
  else (node, .error (.gossip ("Node cannot query in state " ++ node.state.debug)))

/-- `LocalGossipNode::send_response`. -/
def sendResponse (node : LocalGossipNode) (queryId : MessageId) (toPeer : PeerId)
    (announcements : List CapacityAnnouncement) : LocalGossipNode × Except P2pError Unit :=
  if node.state.canProcess then
    (node.queueSends [toPeer] (.response queryId node.peerId announcements), .ok ())
  else (node, .error (.gossip ("Node cannot respond in state " ++ node.state.debug)))

/-- `LocalGossipNode::take_pending_send`. -/
def takePendingSend (node : LocalGossipNode) :
    LocalGossipNode × Option (PeerId × GossipMessage) :=
  ({ node with pendingSends := node.pendingSends.tail }, node.pendingSends.head?)

/-- `LocalGossipNode::take_pending_event`. -/
def takePendingEvent (node : LocalGossipNode) : LocalGossipNode × Option GossipEvent :=
  ({ node with pendingEvents := node.pendingEvents.tail }, node.pendingEvents.head?)

/-- `LocalGossipNode::take_all_pending_sends`. -/
def takeAllPendingSends (node : LocalGossipNode) :
    LocalGossipNode × List (PeerId × GossipMessage) :=
  ({ node with pendingSends := [] }, node.pendingSends)

/-- `LocalGossipNode::take_all_pending_events`. -/
def takeAllPendingEvents (node : LocalGossipNode) : LocalGossipNode × List GossipEvent :=
  ({ node with pendingEvents := [] }, node.pendingEvents)

/-- `LocalGossipNode::tick`. -/
def tick (node : LocalGossipNode) (ambient : Ambient) : LocalGossipNode :=
  { node with broadcaster := node.broadcaster.cleanup ambient.sweep }

/-! ### Operations -/

/-- An operation of the public interface. `broadcasterMut` is a call made through the mutable
reference to the broadcaster. -/
inductive Operation where
  | setState (state : NodeState)
  | addPeer (peerId : PeerId)
  | removePeer (peerId : PeerId)
  | handleMessage (message : GossipMessage) (fromPeer : PeerId)
  | prepareAnnounce (announcement : CapacityAnnouncement)
  | prepareQuery (filter : QueryFilter) (maxResults : UInt32)
  | sendResponse (queryId : MessageId) (toPeer : PeerId)
      (announcements : List CapacityAnnouncement)
  | takePendingSend
  | takePendingEvent
  | takeAllPendingSends
  | takeAllPendingEvents
  | tick
  | broadcasterMut (call : GossipBroadcaster.Call)

/-- The node after one operation. -/
def perform (scheme : SignatureScheme) (node : LocalGossipNode) :
    Operation × Ambient → LocalGossipNode
  | (.setState state, _) => node.setState state
  | (.addPeer peerId, _) => node.addPeer peerId
  | (.removePeer peerId, _) => node.removePeer peerId
  | (.handleMessage message fromPeer, ambient) =>
    (node.handleMessage scheme ambient message fromPeer).1
  | (.prepareAnnounce announcement, ambient) => (node.prepareAnnounce ambient announcement).1
  | (.prepareQuery filter maxResults, ambient) => (node.prepareQuery ambient filter maxResults).1
  | (.sendResponse queryId toPeer announcements, _) =>
    (node.sendResponse queryId toPeer announcements).1
  | (.takePendingSend, _) => node.takePendingSend.1
  | (.takePendingEvent, _) => node.takePendingEvent.1
  | (.takeAllPendingSends, _) => node.takeAllPendingSends.1
  | (.takeAllPendingEvents, _) => node.takeAllPendingEvents.1
  | (.tick, ambient) => node.tick ambient
  | (.broadcasterMut call, ambient) =>
    { node with broadcaster := node.broadcaster.perform scheme (call, ambient) }

/-- The messages that an operation adds to the queue. -/
def newSends (scheme : SignatureScheme) (node : LocalGossipNode) (operation : Operation × Ambient) :
    List (PeerId × GossipMessage) :=
  (node.perform scheme operation).pendingSends.drop node.pendingSends.length

/-- The events that an operation adds to the queue. -/
def newEvents (scheme : SignatureScheme) (node : LocalGossipNode)
    (operation : Operation × Ambient) : List GossipEvent :=
  (node.perform scheme operation).pendingEvents.drop node.pendingEvents.length

/-- The call of the broadcaster that an operation of the node makes. -/
def asked (node : LocalGossipNode) : Operation → Option GossipBroadcaster.Call
  | .addPeer peerId => some (.addPeer peerId)
  | .removePeer peerId => some (.removePeer peerId)
  | .handleMessage message fromPeer =>
    if node.state.canProcess then some (.handleMessage message fromPeer) else none
  | .prepareAnnounce announcement =>
    if node.state.canProcess then some (.prepareAnnounce announcement) else none
  | .tick => some .cleanup
  | .broadcasterMut call => some call
  | _ => none

section Steps

variable {scheme : SignatureScheme} {node : LocalGossipNode}

/-- The broadcaster of a node runs as a broadcaster does. -/
theorem broadcaster_perform (operation : Operation) (ambient : Ambient) :
    (node.perform scheme (operation, ambient)).broadcaster =
      ((node.asked operation).map fun call ↦
        node.broadcaster.perform scheme (call, ambient)).getD node.broadcaster := by
  cases operation with
  | handleMessage message fromPeer =>
    simp only [perform, asked, handleMessage]
    split_ifs with hprocess
    · simp only [Option.map_some, Option.getD_some, GossipBroadcaster.perform]
      split
      · rfl
      · split_ifs
        · rfl
        · rfl
    · rfl
  | prepareAnnounce announcement =>
    simp only [perform, asked, prepareAnnounce]
    split_ifs with hprocess
    · rfl
    · rfl
  | prepareQuery filter maxResults =>
    simp only [perform, asked, prepareQuery]
    split_ifs with hprocess
    · rfl
    · rfl
  | sendResponse queryId toPeer announcements =>
    simp only [perform, asked, sendResponse]
    split_ifs with hprocess
    · rfl
    · rfl
  | _ => rfl

/-- The result of a message that a node takes: it is handled without an error and is not a
duplicate. -/
def taken (scheme : SignatureScheme) (node : LocalGossipNode) (ambient : Ambient)
    (message : GossipMessage) (fromPeer : PeerId) : Option BroadcastResult :=
  if node.state.canProcess then
    match (node.broadcaster.handleMessage scheme ambient message fromPeer).2 with
    | .ok result => if result.wasDuplicate then none else some result
    | .error _ => none
  else none

/-- When a message is taken. -/
theorem taken_eq_some_iff {ambient : Ambient} {message : GossipMessage} {fromPeer : PeerId}
    {result : BroadcastResult} :
    node.taken scheme ambient message fromPeer = some result ↔ node.state.canProcess = true ∧
      (node.broadcaster.handleMessage scheme ambient message fromPeer).2 = .ok result ∧
      result.wasDuplicate = false := by
  unfold taken
  by_cases hprocess : node.state.canProcess = true
  · rw [if_pos hprocess]
    cases houtcome : (node.broadcaster.handleMessage scheme ambient message fromPeer).2 with
    | error error => simp
    | ok found =>
      dsimp only
      constructor
      · intro htaken
        split_ifs at htaken with hduplicate
        · obtain rfl : found = result := Option.some.inj htaken
          exact ⟨hprocess, rfl, eq_false_of_ne_true hduplicate⟩
      · rintro ⟨-, hsame, hduplicate⟩
        obtain rfl : found = result := Except.ok.inj hsame
        rw [hduplicate]
        rfl
  · rw [if_neg hprocess]
    simp [hprocess]

/-- Handling a message that is taken queues it for the targets and reports its event. -/
theorem queues_handleMessage (message : GossipMessage) (fromPeer : PeerId) (ambient : Ambient) :
    (node.handleMessage scheme ambient message fromPeer).1.pendingSends = node.pendingSends ++
        ((node.taken scheme ambient message fromPeer).map fun result ↦
          result.targetPeers.map fun peer ↦ (peer, message)).getD [] ∧
      (node.handleMessage scheme ambient message fromPeer).1.pendingEvents =
        node.pendingEvents ++ ((node.taken scheme ambient message fromPeer).map fun _ ↦
          (eventOf message fromPeer).toList).getD [] := by
  unfold handleMessage taken
  by_cases hprocess : node.state.canProcess = true
  · rw [if_pos hprocess, if_pos hprocess]
    cases houtcome : (node.broadcaster.handleMessage scheme ambient message fromPeer).2 with
    | error error => simp [houtcome]
    | ok result =>
      cases hduplicate : result.wasDuplicate with
      | false => simp [houtcome, hduplicate, queueSends]
      | true => simp [houtcome, hduplicate]
  · rw [if_neg hprocess, if_neg hprocess]
    simp

/-- The messages that handling a message queues. -/
theorem newSends_handleMessage (message : GossipMessage) (fromPeer : PeerId) (ambient : Ambient) :
    node.newSends scheme (.handleMessage message fromPeer, ambient) =
      ((node.taken scheme ambient message fromPeer).map fun result ↦
        result.targetPeers.map fun peer ↦ (peer, message)).getD [] := by
  rw [newSends, perform, (queues_handleMessage message fromPeer ambient).1, List.drop_left]

/-- The events that handling a message reports. -/
theorem newEvents_handleMessage (message : GossipMessage) (fromPeer : PeerId)
    (ambient : Ambient) : node.newEvents scheme (.handleMessage message fromPeer, ambient) =
      ((node.taken scheme ambient message fromPeer).map fun _ ↦
        (eventOf message fromPeer).toList).getD [] := by
  rw [newEvents, perform, (queues_handleMessage message fromPeer ambient).2, List.drop_left]

/-- Announcing queues the announcement, with the configured hops, for the targets. -/
theorem newSends_prepareAnnounce (announcement : CapacityAnnouncement) (ambient : Ambient) :
    node.newSends scheme (.prepareAnnounce announcement, ambient) =
      if node.state.canProcess then
        (node.broadcaster.selectFanoutPeers ambient none).map fun peer ↦
          (peer, .announce ambient.messageId announcement node.broadcaster.config.maxTtlHops)
      else [] := by
  have hconfig := (GossipBroadcaster.samePeers_prepareAnnounce node.broadcaster ambient
    announcement).config
  simp only [newSends, perform, prepareAnnounce]
  split_ifs with hprocess
  · simp only [queueSends, List.drop_left, hconfig]
    rfl
  · simp

/-- Querying queues the query, with the configured hops, for all known peers. -/
theorem newSends_prepareQuery (filter : QueryFilter) (maxResults : UInt32) (ambient : Ambient) :
    node.newSends scheme (.prepareQuery filter maxResults, ambient) =
      if node.state.canProcess then
        (ambient.walk.arrange node.broadcaster.knownPeers.keys).map fun peer ↦
          (peer, .query (.new ambient.messageId node.peerId filter maxResults
            node.broadcaster.config.maxTtlHops))
      else [] := by
  simp only [newSends, perform, prepareQuery]
  split_ifs with hprocess
  · simp [queueSends, GossipMessage.messageId, GossipQuery.new]
  · simp

/-- Every message that a node queues of its own accord: an announcement or a query with the hops of
its configuration, the query in its own name and for a known peer, or a response. -/
theorem newSends_local {operation : Operation} {ambient : Ambient}
    (hlocal : ∀ message fromPeer, operation ≠ .handleMessage message fromPeer) :
    ∀ send ∈ node.newSends scheme (operation, ambient),
      (∃ messageId announcement, send.2 =
        .announce messageId announcement node.broadcaster.config.maxTtlHops) ∨
      (∃ queryId filter maxResults, send.2 = .query (.new queryId node.peerId filter maxResults
        node.broadcaster.config.maxTtlHops) ∧ send.1 ∈ node.broadcaster.knownPeers.keys) ∨
      ∃ queryId announcements, send.2 = .response queryId node.peerId announcements := by
  intro send hsend
  cases operation with
  | handleMessage message fromPeer => exact absurd rfl (hlocal _ _)
  | prepareAnnounce announcement =>
    rw [newSends_prepareAnnounce] at hsend
    split_ifs at hsend with hprocess
    · obtain ⟨peer, -, rfl⟩ := List.mem_map.mp hsend
      exact .inl ⟨_, _, rfl⟩
    · cases hsend
  | prepareQuery filter maxResults =>
    rw [newSends_prepareQuery] at hsend
    split_ifs at hsend with hprocess
    · obtain ⟨peer, hpeer, rfl⟩ := List.mem_map.mp hsend
      exact .inr (.inl ⟨_, _, _, rfl, (ambient.walk.perm _).subset hpeer⟩)
    · cases hsend
  | sendResponse queryId toPeer announcements =>
    simp only [newSends, perform, sendResponse] at hsend
    split_ifs at hsend with hprocess
    · simp only [queueSends, List.drop_left, List.map_singleton, List.mem_singleton] at hsend
      exact .inr (.inr ⟨queryId, announcements, by rw [hsend]⟩)
    · simp at hsend
  | takePendingSend =>
    have hnone : node.newSends scheme (.takePendingSend, ambient) = [] :=
      List.drop_eq_nil_of_le (by simp [perform, takePendingSend])
    simp [hnone] at hsend
  | _ => simp [newSends, perform, setState, addPeer, removePeer, takePendingEvent,
      takeAllPendingSends, takeAllPendingEvents, tick] at hsend

/-- What a node queues when it handles a message is that message. -/
theorem message_of_newSends {message : GossipMessage} {fromPeer : PeerId} {ambient : Ambient}
    {send : PeerId × GossipMessage}
    (hsend : send ∈ node.newSends scheme (.handleMessage message fromPeer, ambient)) :
    send.2 = message := by
  rw [newSends_handleMessage] at hsend
  cases htaken : node.taken scheme ambient message fromPeer with
  | none => simp [htaken] at hsend
  | some result =>
    rw [htaken] at hsend
    obtain ⟨peer, -, rfl⟩ := List.mem_map.mp hsend
    rfl

end Steps

/-! ### Taking a message once -/

/-- The id that an operation marks. -/
def marks (scheme : SignatureScheme) (node : LocalGossipNode) (operation : Operation × Ambient) :
    Option MessageId :=
  (node.asked operation.1).bind fun call ↦ node.broadcaster.marks scheme (call, operation.2)

/-- The ids that a node marks along a run. -/
def markedIds (scheme : SignatureScheme) :
    LocalGossipNode → List (Operation × Ambient) → List MessageId
  | _, [] => []
  | node, operation :: rest =>
    (node.marks scheme operation).toList ++ markedIds scheme (node.perform scheme operation) rest

/-- The sweep that an operation runs does not drop the id. -/
def Keeps (messageId : MessageId) (node : LocalGossipNode) (operation : Operation × Ambient) :
    Prop :=
  ∀ call ∈ node.asked operation.1, node.broadcaster.KeepsSeen messageId (call, operation.2)

instance (messageId : MessageId) (node : LocalGossipNode) (operation : Operation × Ambient) :
    Decidable (node.Keeps messageId operation) :=
  inferInstanceAs (Decidable (∀ _ ∈ _, _))

/-- There is room in the cache of seen messages. -/
def Room (node : LocalGossipNode) : Prop :=
  node.broadcaster.seenMessages.keys.length < node.broadcaster.config.maxSeenCache

/-- The operation makes the node take the announcement or query with the given id. -/
def takes (scheme : SignatureScheme) (messageId : MessageId) (node : LocalGossipNode) :
    Operation × Ambient → Bool
  | (.handleMessage message fromPeer, ambient) =>
    message.ttlHops?.isSome && message.messageId = some messageId &&
      (node.taken scheme ambient message fromPeer).isSome
  | _ => false

section Once

variable {scheme : SignatureScheme} {messageId : MessageId} {node : LocalGossipNode}

/-- No operation changes the identity or the configuration of a node, and none makes it its own
peer. -/
theorem identity_perform (operation : Operation × Ambient) :
    (node.perform scheme operation).peerId = node.peerId ∧
      (node.perform scheme operation).broadcaster.config = node.broadcaster.config ∧
      (node.broadcaster.Apart → (node.perform scheme operation).broadcaster.Apart) := by
  obtain ⟨operation, ambient⟩ := operation
  unfold peerId
  rw [broadcaster_perform]
  cases node.asked operation with
  | none => exact ⟨rfl, rfl, id⟩
  | some call => exact GossipBroadcaster.identity_perform scheme node.broadcaster (call, ambient)

/-- A node adds no id to its cache but those it marks. -/
theorem keys_foldl_subset (operations : List (Operation × Ambient)) (node : LocalGossipNode) :
    (operations.foldl (perform scheme) node).broadcaster.seenMessages.keys ⊆
      node.broadcaster.seenMessages.keys ++ markedIds scheme node operations := by
  induction operations generalizing node with
  | nil => exact List.subset_append_left _ _
  | cons operation rest ih =>
    have hfirst : (node.perform scheme operation).broadcaster.seenMessages.keys ⊆
        node.broadcaster.seenMessages.keys ++ (node.marks scheme operation).toList := by
      obtain ⟨operation, ambient⟩ := operation
      rw [broadcaster_perform, marks]
      cases node.asked operation with
      | none => exact List.subset_append_left _ _
      | some call => exact GossipBroadcaster.keys_perform_subset (call, ambient)
    refine List.Subset.trans (ih _) ?_
    rw [markedIds, ← List.append_assoc]
    exact List.append_subset.mpr ⟨List.Subset.trans hfirst (List.subset_append_left _ _),
      List.subset_append_right _ _⟩

/-- The ids marked along a run are those of its first part and those of the rest. -/
theorem markedIds_append (done rest : List (Operation × Ambient)) (node : LocalGossipNode) :
    markedIds scheme node (done ++ rest) =
      markedIds scheme node done ++ markedIds scheme (done.foldl (perform scheme) node) rest := by
  induction done generalizing node with
  | nil => rfl
  | cons operation done ih =>
    rw [List.cons_append, markedIds, markedIds, ih, List.append_assoc]
    rfl

/-- While fewer ids have been marked than the cache holds, every operation finds room in it. -/
theorem room_of_markedIds {now : ℕ} {peerId : PeerId} {config : BroadcastConfig}
    {operations : List (Operation × Ambient)}
    (hmarked : (markedIds scheme (new now peerId config) operations).dedup.length <
      config.maxSeenCache) :
    Always (perform scheme) Room (new now peerId config) operations := by
  have hconfig : Always (perform scheme) (fun node ↦ node.broadcaster.config = config)
      (new now peerId config) operations := by
    refine always_of_step ?_ ?_ operations
    · rfl
    · exact fun node operation hsame ↦ (identity_perform operation).2.1.trans hsame
  intro done hdone
  have hsubset : (done.foldl (perform scheme) (new now peerId config)).broadcaster.seenMessages.keys
      ⊆ (markedIds scheme (new now peerId config) operations).dedup := by
    obtain ⟨rest, rfl⟩ := hdone
    intro marked hmem
    rw [List.mem_dedup, markedIds_append]
    exact List.mem_append_left _ (keys_foldl_subset done (new now peerId config) hmem)
  have hlength := List.Nodup.length_le_of_subset (AList.keys_nodup _) hsubset
  unfold Room
  rw [hconfig done hdone]
  exact lt_of_le_of_lt hlength hmarked

/-- What it means that an operation takes the id. -/
theorem takes_eq_true {operation : Operation × Ambient}
    (htakes : node.takes scheme messageId operation = true) :
    ∃ message fromPeer ambient, operation = (.handleMessage message fromPeer, ambient) ∧
      message.ttlHops?.isSome = true ∧ message.messageId = some messageId ∧
      ∃ result, node.state.canProcess = true ∧
        (node.broadcaster.handleMessage scheme ambient message fromPeer).2 = .ok result ∧
        result.wasDuplicate = false := by
  obtain ⟨operation, ambient⟩ := operation
  cases operation with
  | handleMessage message fromPeer =>
    simp only [takes, Bool.and_eq_true, decide_eq_true_eq] at htakes
    obtain ⟨⟨hbroadcast, hid⟩, htaken⟩ := htakes
    obtain ⟨result, htaken⟩ := Option.isSome_iff_exists.mp htaken
    exact ⟨message, fromPeer, ambient, rfl, hbroadcast, hid, result, taken_eq_some_iff.mp htaken⟩
  | _ => cases htakes

/-- An announcement or query that the broadcaster handles as new was let through, was not cached
before and is cached afterwards. -/
theorem taken_broadcast {broadcaster : GossipBroadcaster} {message : GossipMessage}
    {fromPeer : PeerId} {ambient : Ambient} {result : BroadcastResult}
    (hresult : (broadcaster.handleMessage scheme ambient message fromPeer).2 = .ok result)
    (hduplicate : result.wasDuplicate = false) (hbroadcast : message.ttlHops?.isSome = true)
    (hid : message.messageId = some messageId) :
    broadcaster.allows ambient fromPeer = true ∧
      (broadcaster.swept ambient fromPeer).hasSeen messageId = false ∧
      (broadcaster.handleMessage scheme ambient message fromPeer).1.hasSeen messageId = true := by
  have hhandled : GossipBroadcaster.Handled scheme broadcaster ambient fromPeer message _ _ :=
    GossipBroadcaster.handleMessage_cases message
  cases hhandled with
  | refused error hallows hafter hfound => cases hresult.symm.trans hfound
  | rejected _ announcement ttlHops error hallows hmessage haccepts hafter hfound =>
    cases hresult.symm.trans hfound
  | duplicate _ hallows _ _ hseen hafter hfound =>
    cases hresult.symm.trans hfound
    cases hduplicate
  | announced found announcement ttlHops hallows hmessage hseen haccepts hafter hfound =>
    subst hmessage
    obtain rfl : found = messageId := Option.some.inj hid
    rw [hafter, (GossipBroadcaster.sameSeen_cacheAnnouncement _ _ announcement).hasSeen]
    exact ⟨hallows, hseen, GossipBroadcaster.hasSeen_markSeen_self ambient.marking fromPeer⟩
  | queried query hallows hmessage hseen hafter hfound =>
    subst hmessage
    obtain rfl : query.queryId = messageId := Option.some.inj hid
    rw [hafter]
    exact ⟨hallows, hseen, GossipBroadcaster.hasSeen_markSeen_self ambient.marking fromPeer⟩
  | responded queryId responder announcements hallows hmessage hafter hfound =>
    subst hmessage
    cases hbroadcast
  | ignored hallows hnone hafter hfound => cases hid.symm.trans hnone

/-- A node that has seen the id does not take it, unless the sweep of the operation drops it. -/
theorem takes_of_hasSeen {operation : Operation × Ambient} (hkeeps : node.Keeps messageId operation)
    (hseen : node.broadcaster.hasSeen messageId = true) :
    node.takes scheme messageId operation = false := by
  by_contra htakes
  rw [Bool.not_eq_false] at htakes
  obtain ⟨message, fromPeer, ambient, rfl, hbroadcast, hid, result, hprocess, hresult,
    hduplicate⟩ := takes_eq_true htakes
  have hasked : node.asked (.handleMessage message fromPeer) =
      some (.handleMessage message fromPeer) := if_pos hprocess
  have hswept := fun hallows ↦ GossipBroadcaster.hasSeen_swept (hkeeps _ hasked) hallows hseen
  rcases taken_broadcast hresult hduplicate hbroadcast hid with ⟨hallows, hunseen, -⟩
  rw [hswept hallows] at hunseen
  cases hunseen

/-- A node that takes the id has seen it. -/
theorem hasSeen_of_takes {operation : Operation × Ambient}
    (htakes : node.takes scheme messageId operation = true) :
    (node.perform scheme operation).broadcaster.hasSeen messageId = true := by
  obtain ⟨message, fromPeer, ambient, rfl, hbroadcast, hid, result, hprocess, hresult,
    hduplicate⟩ := takes_eq_true htakes
  have hasked : node.asked (.handleMessage message fromPeer) =
      some (.handleMessage message fromPeer) := if_pos hprocess
  rw [broadcaster_perform, hasked]
  exact (taken_broadcast hresult hduplicate hbroadcast hid).2.2

/-- With room in the cache, a seen id is still seen after an operation that keeps it. -/
theorem hasSeen_perform {operation : Operation × Ambient} (hroom : node.Room)
    (hkeeps : node.Keeps messageId operation)
    (hseen : node.broadcaster.hasSeen messageId = true) :
    (node.perform scheme operation).broadcaster.hasSeen messageId = true := by
  obtain ⟨operation, ambient⟩ := operation
  rw [broadcaster_perform]
  cases hasked : node.asked operation with
  | none => exact hseen
  | some call => exact GossipBroadcaster.hasSeen_perform hroom (hkeeps call hasked) hseen

/-- A run in which fewer ids are marked than the cache holds and no sweep drops the id has room and
keeps the id throughout. -/
theorem throughout_room_keeps {now : ℕ} {peerId : PeerId} {config : BroadcastConfig}
    {operations : List (Operation × Ambient)}
    (hmarked : (markedIds scheme (new now peerId config) operations).dedup.length <
      config.maxSeenCache)
    (hkeeps : Throughout (perform scheme) (Keeps messageId) (new now peerId config) operations) :
    Throughout (perform scheme) (fun node operation ↦ node.Room ∧ node.Keeps messageId operation)
      (new now peerId config) operations :=
  fun done operation hdone ↦ ⟨room_of_markedIds hmarked done (prefix_of_concat hdone),
    hkeeps done operation hdone⟩

/-- As long as fewer ids have been marked than the cache holds and no sweep has dropped the id, a
node takes an announcement or query with the id at most once. -/
theorem taken_once {now : ℕ} {peerId : PeerId} {config : BroadcastConfig}
    {operations : List (Operation × Ambient)}
    (hmarked : (markedIds scheme (new now peerId config) operations).dedup.length <
      config.maxSeenCache)
    (hkeeps : Throughout (perform scheme) (Keeps messageId) (new now peerId config) operations) :
    countSteps (perform scheme) (takes scheme messageId) (new now peerId config)
      operations ≤ 1 := by
  have hallowed := throughout_room_keeps hmarked hkeeps
  have hgood : ∀ (node : LocalGossipNode) (operation : Operation × Ambient),
      (fun _ : LocalGossipNode ↦ True) node → node.Room ∧ node.Keeps messageId operation →
        (fun _ : LocalGossipNode ↦ True) (node.perform scheme operation) := fun _ _ _ _ ↦ trivial
  exact countSteps_le_one hgood (fun _ _ hseen hstep ↦ takes_of_hasSeen hstep.2 hseen)
    (fun _ _ hseen hstep ↦ hasSeen_perform hstep.1 hstep.2 hseen)
    (fun _ _ _ _ htakes ↦ hasSeen_of_takes htakes) trivial hallowed

/-- After a node has announced under an id it does not take a message with that id, under the same
conditions. -/
theorem taken_none_of_announced {now : ℕ} {peerId : PeerId} {config : BroadcastConfig}
    {done rest : List (Operation × Ambient)} {announcement : CapacityAnnouncement}
    {ambient : Ambient}
    (hmarked : (markedIds scheme (new now peerId config)
      (done ++ (.prepareAnnounce announcement, ambient) :: rest)).dedup.length <
        config.maxSeenCache)
    (hkeeps : Throughout (perform scheme) (Keeps ambient.messageId) (new now peerId config)
      (done ++ (.prepareAnnounce announcement, ambient) :: rest))
    (hprocess : (done.foldl (perform scheme) (new now peerId config)).state.canProcess = true) :
    countSteps (perform scheme) (takes scheme ambient.messageId)
      ((done.foldl (perform scheme) (new now peerId config)).perform scheme
        (.prepareAnnounce announcement, ambient)) rest = 0 := by
  have hallowed := (throughout_cons.mp (throughout_room_keeps hmarked hkeeps).append_right).2
  have hforbid : ∀ (node : LocalGossipNode) (operation : Operation × Ambient),
      node.broadcaster.hasSeen ambient.messageId = true →
        node.Room ∧ node.Keeps ambient.messageId operation →
          node.takes scheme ambient.messageId operation = false :=
    fun _ _ hseen hstep ↦ takes_of_hasSeen hstep.2 hseen
  refine countSteps_eq_zero hforbid
    (fun _ _ hseen hstep ↦ hasSeen_perform hstep.1 hstep.2 hseen) ?_ hallowed
  rw [broadcaster_perform, asked, if_pos hprocess, Option.map_some, Option.getD_some,
    GossipBroadcaster.perform, GossipBroadcaster.prepareAnnounce,
    (GossipBroadcaster.sameSeen_cacheAnnouncement _ _ announcement).hasSeen]
  exact GossipBroadcaster.hasSeen_markSeen_self ambient.marking _

end Once

/-! ### Forwarding -/

/-- The node forwards the message: it can process it, the rate limiter lets it through, the id is
not in the cache behind the sweep, an announcement passes its checks, hops remain, the fanout is
positive and there is a peer to forward to. -/
def Forwards (scheme : SignatureScheme) (node : LocalGossipNode) (ambient : Ambient)
    (message : GossipMessage) (fromPeer : PeerId) : Prop :=
  node.state.canProcess = true ∧ node.broadcaster.allows ambient fromPeer = true ∧
    0 < node.broadcaster.config.fanout ∧
    match message with
    | .announce messageId announcement ttlHops =>
      (node.broadcaster.swept ambient fromPeer).hasSeen messageId = false ∧
        GossipBroadcaster.Accepts scheme ambient announcement ttlHops ∧ ttlHops ≠ 0 ∧
        ∃ peer ∈ node.broadcaster.knownPeers.keys, peer ≠ fromPeer
    | .query query =>
      (node.broadcaster.swept ambient fromPeer).hasSeen query.queryId = false ∧
        query.ttlHops ≠ 0 ∧ ∃ peer ∈ node.broadcaster.knownPeers.keys,
          peer ≠ fromPeer ∧ peer ≠ query.fromPeer
    | _ => False

section Forwarding

variable {scheme : SignatureScheme} {node : LocalGossipNode} {ambient : Ambient}
  {message : GossipMessage} {fromPeer : PeerId}

/-- What a node queues when the broadcaster handles the message as new. -/
theorem newSends_of_result {result : BroadcastResult} (hprocess : node.state.canProcess = true)
    (hresult : (node.broadcaster.handleMessage scheme ambient message fromPeer).2 = .ok result)
    (hduplicate : result.wasDuplicate = false) :
    node.newSends scheme (.handleMessage message fromPeer, ambient) =
      result.targetPeers.map fun peer ↦ (peer, message) := by
  have htaken := taken_eq_some_iff.mpr ⟨hprocess, hresult, hduplicate⟩
  rw [newSends_handleMessage, htaken]
  rfl

/-- A node queues nothing for a message it does not take. -/
theorem newSends_of_not_taken
    (htaken : ∀ result,
      (node.broadcaster.handleMessage scheme ambient message fromPeer).2 = .ok result →
        result.wasDuplicate = true) :
    node.newSends scheme (.handleMessage message fromPeer, ambient) = [] := by
  have hnone : node.taken scheme ambient message fromPeer = none := by
    rw [Option.eq_none_iff_forall_ne_some]
    intro result hsome
    obtain ⟨-, hresult, hduplicate⟩ := taken_eq_some_iff.mp hsome
    rw [htaken result hresult] at hduplicate
    cases hduplicate
  rw [newSends_handleMessage, hnone]
  rfl

/-- A node queues something for a new message exactly when hops remain and there is a peer to
select. -/
theorem newSends_ne_nil_of_result {messageId : MessageId} {hops : UInt8} {eligible : PeerId → Bool}
    (hprocess : node.state.canProcess = true)
    (hresult : (node.broadcaster.handleMessage scheme ambient message fromPeer).2 = .ok ⟨messageId,
      if hops = 0 then [] else node.broadcaster.selectAmong ambient eligible, false⟩) :
    node.newSends scheme (.handleMessage message fromPeer, ambient) ≠ [] ↔
      hops ≠ 0 ∧ 0 < node.broadcaster.config.fanout ∧
        ∃ peer ∈ node.broadcaster.knownPeers.keys, eligible peer = true := by
  rw [newSends_of_result hprocess hresult rfl, Ne, List.map_eq_nil_iff]
  by_cases hhops : hops = 0
  · simp [hhops]
  · rw [if_neg hhops, ← GossipBroadcaster.selectAmong_ne_nil_iff node.broadcaster ambient]
    exact (and_iff_right hhops).symm

/-- Handling a message queues something exactly when the message is forwarded. -/
theorem newSends_ne_nil_iff :
    node.newSends scheme (.handleMessage message fromPeer, ambient) ≠ [] ↔
      node.Forwards scheme ambient message fromPeer := by
  by_cases hprocess : node.state.canProcess = true
  · have hhandled : GossipBroadcaster.Handled scheme node.broadcaster ambient fromPeer message
        _ _ := GossipBroadcaster.handleMessage_cases message
    cases hhandled with
    | refused error hallows hafter hresult =>
      rw [newSends_of_not_taken fun result hfound ↦ by cases hresult.symm.trans hfound]
      simp [Forwards, hallows]
    | rejected messageId announcement ttlHops error hallows hmessage haccepts hafter hresult =>
      rw [newSends_of_not_taken fun result hfound ↦ by cases hresult.symm.trans hfound]
      simp [Forwards, hmessage, haccepts]
    | duplicate messageId hallows hid hbroadcast hseen hafter hresult =>
      rw [newSends_of_not_taken fun result hfound ↦ by cases hresult.symm.trans hfound; rfl]
      cases message with
      | announce found announcement ttlHops =>
        obtain rfl : found = messageId := Option.some.inj hid
        simp [Forwards, hseen]
      | query query =>
        obtain rfl : query.queryId = messageId := Option.some.inj hid
        simp [Forwards, hseen]
      | _ => cases hbroadcast
    | announced messageId announcement ttlHops hallows hmessage hseen haccepts hafter hresult =>
      subst hmessage
      rw [newSends_ne_nil_of_result hprocess hresult]
      simp [Forwards, hprocess, hallows, hseen, haccepts, and_left_comm]
    | queried query hallows hmessage hseen hafter hresult =>
      subst hmessage
      rw [newSends_ne_nil_of_result hprocess hresult]
      simp [Forwards, hprocess, hallows, hseen, and_left_comm]
    | responded queryId responder announcements hallows hmessage hafter hresult =>
      rw [newSends_of_result hprocess hresult rfl]
      simp [Forwards, hmessage]
    | ignored hallows hid hafter hresult =>
      rw [newSends_of_result hprocess hresult rfl]
      cases message with
      | announce messageId announcement ttlHops => cases hid
      | query query => cases hid
      | _ => simp [Forwards]
  · have hnone : node.taken scheme ambient message fromPeer = none := if_neg hprocess
    rw [newSends_handleMessage, hnone]
    simp [Forwards, hprocess]

/-- Only announcements and queries are forwarded. -/
theorem Forwards.broadcast (hforwards : node.Forwards scheme ambient message fromPeer) :
    message.ttlHops?.isSome = true := by
  cases message with
  | announce messageId announcement ttlHops => rfl
  | query query => rfl
  | _ => exact hforwards.2.2.2.elim

end Forwarding

/-- The event reports an announcement or a query. -/
def isReception : GossipEvent → Bool
  | .announcementReceived _ _ => true
  | .queryReceived _ _ _ => true
  | _ => false

/-- The operation handles a message with the given id and reports an announcement or a query. -/
def reports (scheme : SignatureScheme) (messageId : MessageId) (node : LocalGossipNode) :
    Operation × Ambient → Bool
  | (.handleMessage message fromPeer, ambient) => message.messageId = some messageId &&
    (node.newEvents scheme (.handleMessage message fromPeer, ambient)).any isReception
  | _ => false

/-- The operation handles a message with the given id and queues forwards. -/
def queuesForwards (scheme : SignatureScheme) (messageId : MessageId) (node : LocalGossipNode) :
    Operation × Ambient → Bool
  | (.handleMessage message fromPeer, ambient) => message.messageId = some messageId &&
    node.newSends scheme (.handleMessage message fromPeer, ambient) ≠ []
  | _ => false

/-- A node reports only what it takes. -/
theorem takes_of_reports {scheme : SignatureScheme} {messageId : MessageId}
    {node : LocalGossipNode} {operation : Operation × Ambient}
    (hreports : node.reports scheme messageId operation = true) :
    node.takes scheme messageId operation = true := by
  obtain ⟨operation, ambient⟩ := operation
  cases operation with
  | handleMessage message fromPeer =>
    simp only [reports, Bool.and_eq_true, decide_eq_true_eq] at hreports
    obtain ⟨hid, hevents⟩ := hreports
    rw [newEvents_handleMessage] at hevents
    simp only [takes, Bool.and_eq_true, decide_eq_true_eq]
    cases htaken : node.taken scheme ambient message fromPeer with
    | none =>
      rw [htaken] at hevents
      cases hevents
    | some result =>
      rw [htaken] at hevents
      refine ⟨⟨?_, hid⟩, rfl⟩
      cases message with
      | announce found announcement ttlHops => rfl
      | query query => rfl
      | _ => cases hevents
  | _ => cases hreports

/-- A node forwards only what it takes. -/
theorem takes_of_queuesForwards {scheme : SignatureScheme} {messageId : MessageId}
    {node : LocalGossipNode} {operation : Operation × Ambient}
    (hforwards : node.queuesForwards scheme messageId operation = true) :
    node.takes scheme messageId operation = true := by
  obtain ⟨operation, ambient⟩ := operation
  cases operation with
  | handleMessage message fromPeer =>
    simp only [queuesForwards, Bool.and_eq_true, decide_eq_true_eq] at hforwards
    obtain ⟨hid, hsends⟩ := hforwards
    have hbroadcast := (newSends_ne_nil_iff.mp hsends).broadcast
    rw [newSends_handleMessage] at hsends
    simp only [takes, Bool.and_eq_true, decide_eq_true_eq]
    refine ⟨⟨hbroadcast, hid⟩, ?_⟩
    cases htaken : node.taken scheme ambient message fromPeer with
    | none =>
      rw [htaken] at hsends
      exact absurd rfl hsends
    | some result => rfl
  | _ => cases hforwards

/-- Along the run the node reports at most one announcement or query with the id and forwards at
most once under it, and not at all after it has announced under it. -/
structure TakesOnce (scheme : SignatureScheme) (messageId : MessageId) (node : LocalGossipNode)
    (operations : List (Operation × Ambient)) : Prop where
  reported : countSteps (perform scheme) (reports scheme messageId) node operations ≤ 1
  forwarded : countSteps (perform scheme) (queuesForwards scheme messageId) node operations ≤ 1
  announced : ∀ done rest announcement ambient,
    operations = done ++ (.prepareAnnounce announcement, ambient) :: rest →
      ambient.messageId = messageId →
      (done.foldl (perform scheme) node).state.canProcess = true →
        countSteps (perform scheme) (queuesForwards scheme messageId)
          ((done.foldl (perform scheme) node).perform scheme
            (.prepareAnnounce announcement, ambient)) rest = 0

/-- As long as fewer ids have been marked than the cache holds and no sweep has dropped the id, a
node reports and forwards a message with the id at most once. -/
theorem takesOnce_of_room {scheme : SignatureScheme} {messageId : MessageId} {now : ℕ}
    {peerId : PeerId} {config : BroadcastConfig} {operations : List (Operation × Ambient)}
    (hmarked : (markedIds scheme (new now peerId config) operations).dedup.length <
      config.maxSeenCache)
    (hkeeps : Throughout (perform scheme) (Keeps messageId) (new now peerId config) operations) :
    TakesOnce scheme messageId (new now peerId config) operations where
  reported := (countSteps_le_countSteps fun _ _ ↦ takes_of_reports).trans
    (taken_once hmarked hkeeps)
  forwarded := (countSteps_le_countSteps fun _ _ ↦ takes_of_queuesForwards).trans
    (taken_once hmarked hkeeps)
  announced := by
    rintro done rest announcement ambient rfl rfl hprocess
    have hnone := taken_none_of_announced hmarked hkeeps hprocess
    rw [← Nat.le_zero, ← hnone]
    exact countSteps_le_countSteps fun _ _ ↦ takes_of_queuesForwards

/-! ### Where messages go -/

/-- An operation queues politely. Handling a message reports at most one event and queues the
message for at most `fanout` peers, none of them the node itself, the sender or the author of a
query. Announcing queues for at most `fanout` peers, and neither announcing nor querying queues for
the node itself. -/
def Courteous (scheme : SignatureScheme) (node : LocalGossipNode) :
    Operation × Ambient → Prop
  | (.handleMessage message fromPeer, ambient) =>
    (node.newEvents scheme (.handleMessage message fromPeer, ambient)).length ≤ 1 ∧
      (node.newSends scheme (.handleMessage message fromPeer, ambient)).length ≤
        node.broadcaster.config.fanout ∧
      ∀ send ∈ node.newSends scheme (.handleMessage message fromPeer, ambient),
        send.2 = message ∧ send.1 ≠ node.peerId ∧ send.1 ≠ fromPeer ∧
          ∀ query, message = .query query → send.1 ≠ query.fromPeer
  | (.prepareAnnounce announcement, ambient) =>
    (node.newSends scheme (.prepareAnnounce announcement, ambient)).length ≤
        node.broadcaster.config.fanout ∧
      ∀ send ∈ node.newSends scheme (.prepareAnnounce announcement, ambient),
        send.1 ≠ node.peerId
  | (.prepareQuery filter maxResults, ambient) =>
    ∀ send ∈ node.newSends scheme (.prepareQuery filter maxResults, ambient),
      send.1 ≠ node.peerId
  | _ => True

section Targets

variable {scheme : SignatureScheme} {node : LocalGossipNode}

/-- The targets of a message with some hops to go: at most `fanout` eligible peers, and not the
broadcaster itself. -/
theorem targets_of_hops {broadcaster : GossipBroadcaster} (hapart : broadcaster.Apart)
    (ambient : Ambient) (hops : UInt8) (eligible : PeerId → Bool) :
    (if hops = 0 then [] else broadcaster.selectAmong ambient eligible).length ≤
        broadcaster.config.fanout ∧
      ∀ peer ∈ if hops = 0 then [] else broadcaster.selectAmong ambient eligible,
        peer ≠ broadcaster.localPeerId ∧ eligible peer = true := by
  split_ifs with hhops
  · simp
  · refine ⟨GossipBroadcaster.length_selectAmong_le _ _ _, fun peer hpeer ↦ ?_⟩
    obtain ⟨hknown, heligible⟩ := GossipBroadcaster.mem_selectAmong hpeer
    refine ⟨?_, heligible⟩
    rintro rfl
    exact hapart hknown

/-- The targets of a message that the broadcaster handles as new. -/
theorem targets_of_handled {broadcaster : GossipBroadcaster} (hapart : broadcaster.Apart)
    {message : GossipMessage} {fromPeer : PeerId} {ambient : Ambient} {result : BroadcastResult}
    (hresult : (broadcaster.handleMessage scheme ambient message fromPeer).2 = .ok result) :
    result.targetPeers.length ≤ broadcaster.config.fanout ∧
      ∀ peer ∈ result.targetPeers, peer ≠ broadcaster.localPeerId ∧ peer ≠ fromPeer ∧
        ∀ query, message = .query query → peer ≠ query.fromPeer := by
  have hhandled : GossipBroadcaster.Handled scheme broadcaster ambient fromPeer message _ _ :=
    GossipBroadcaster.handleMessage_cases message
  cases hhandled with
  | refused error hallows hafter hfound => cases hresult.symm.trans hfound
  | rejected messageId announcement ttlHops error hallows hmessage haccepts hafter hfound =>
    cases hresult.symm.trans hfound
  | duplicate messageId hallows hid hbroadcast hseen hafter hfound =>
    cases hresult.symm.trans hfound
    simp
  | announced messageId announcement ttlHops hallows hmessage hseen haccepts hafter hfound =>
    cases hresult.symm.trans hfound
    subst hmessage
    obtain ⟨hlength, htargets⟩ := targets_of_hops hapart ambient ttlHops
      fun peer ↦ (some fromPeer).all fun excluded ↦ peer ≠ excluded
    refine ⟨hlength, fun peer hpeer ↦ ?_⟩
    obtain ⟨hself, heligible⟩ := htargets peer hpeer
    exact ⟨hself, by simpa using heligible, fun query hsame ↦ by cases hsame⟩
  | queried query hallows hmessage hseen hafter hfound =>
    cases hresult.symm.trans hfound
    subst hmessage
    obtain ⟨hlength, htargets⟩ := targets_of_hops hapart ambient query.ttlHops
      fun peer ↦ peer ∉ [fromPeer, query.fromPeer]
    refine ⟨hlength, fun peer hpeer ↦ ?_⟩
    obtain ⟨hself, heligible⟩ := htargets peer hpeer
    simp only [List.mem_cons, List.not_mem_nil, or_false, not_or, decide_eq_true_eq] at heligible
    refine ⟨hself, heligible.1, fun other hsame ↦ ?_⟩
    cases hsame
    exact heligible.2
  | responded queryId responder announcements hallows hmessage hafter hfound =>
    cases hresult.symm.trans hfound
    simp
  | ignored hallows hid hafter hfound =>
    cases hresult.symm.trans hfound
    simp

/-- Every operation of a node that is not its own peer queues politely. -/
theorem courteous_perform (hapart : node.broadcaster.Apart) (operation : Operation × Ambient) :
    node.Courteous scheme operation := by
  obtain ⟨operation, ambient⟩ := operation
  cases operation with
  | handleMessage message fromPeer =>
    unfold Courteous
    dsimp only
    rw [newEvents_handleMessage, newSends_handleMessage]
    cases htaken : node.taken scheme ambient message fromPeer with
    | none => simp
    | some result =>
      obtain ⟨-, hresult, -⟩ := taken_eq_some_iff.mp htaken
      obtain ⟨hlength, htargets⟩ := targets_of_handled hapart hresult
      simp only [Option.map_some, Option.getD_some, List.length_map, List.mem_map]
      refine ⟨?_, hlength, ?_⟩
      · cases eventOf message fromPeer
        · exact Nat.zero_le 1
        · exact Nat.le_refl 1
      · rintro send ⟨peer, hpeer, rfl⟩
        exact ⟨rfl, htargets peer hpeer⟩
  | prepareAnnounce announcement =>
    unfold Courteous
    dsimp only
    rw [newSends_prepareAnnounce]
    split_ifs with hprocess
    · refine ⟨?_, fun send hsend ↦ ?_⟩
      · rw [List.length_map]
        exact GossipBroadcaster.length_selectAmong_le _ _ _
      · obtain ⟨peer, hpeer, rfl⟩ := List.mem_map.mp hsend
        rintro rfl
        exact hapart (GossipBroadcaster.mem_selectAmong hpeer).1
    · simp
  | prepareQuery filter maxResults =>
    unfold Courteous
    dsimp only
    rw [newSends_prepareQuery]
    split_ifs with hprocess
    · intro send hsend
      obtain ⟨peer, hpeer, rfl⟩ := List.mem_map.mp hsend
      rintro rfl
      exact hapart ((ambient.walk.perm _).subset hpeer)
    · simp
  | _ => trivial

end Targets

end LocalGossipNode

end Clawbernetes.MoltP2p
