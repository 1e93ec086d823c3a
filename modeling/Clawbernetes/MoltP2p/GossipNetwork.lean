import Clawbernetes.MoltP2p.GossipNode

/-!
# Networks of gossip nodes

A network has a node at every site and remembers every message that a node has queued for another
peer. A step is an operation of one node, or the delivery of one of the queued copies to a node with
the address of the copy. Copies stay where they are when they are delivered, so that a run may
deliver them in any order, any number of times or never.

Every copy carries a tag that no node reads: the peer that introduced the message, the number of
hops it was introduced with and the number of times it has been forwarded since.

A message is forwarded as it was received. Its copies keep their hops and the number of times it has
been forwarded grows, so that the two add up to the hops it was introduced with exactly in the runs
in which nothing is ever forwarded (`hopBudget_iff_forwardsNothing`), and a message can travel
beyond its hops (`query_outlives_its_hops`).

`received` is what a run of the network asks of one node, and the node does what a node does on its
own (`nodes_foldl`). This gives the rules of the single node in every network: a node takes a
message once, forwards it to few peers and never to where it came from, and a query never returns to
the peer that asked it (`gossip_once`).
-/

set_option autoImplicit false
set_option relaxedAutoImplicit false

namespace Clawbernetes.MoltP2p

open Library.FiniteTable Library.Runs

/-- What is known of a copy beside its contents: the peer that introduced the message, the hops it
was introduced with and the number of times it has been forwarded. -/
structure Tag where
  origin : PeerId
  budget : ℕ
  hops : ℕ
  deriving DecidableEq

/-- The tag of a forwarded copy. -/
def Tag.forwarded (tag : Tag) : Tag := { tag with hops := tag.hops + 1 }

/-- A message that one peer has queued for another. -/
structure Copy where
  sender : PeerId
  target : PeerId
  message : GossipMessage
  tag : Tag
  deriving DecidableEq

/-- A node at every site and every copy that has been queued. -/
structure Network (Site : Type) where
  nodes : Site → LocalGossipNode
  sent : List Copy

/-- An operation that a node is asked for on the spot, anything but the handling of a message. -/
structure LocalOperation where
  operation : LocalGossipNode.Operation
  notHandling : ∀ message fromPeer, operation ≠ .handleMessage message fromPeer

/-- A step of the network. -/
inductive NetworkStep (Site : Type) where
  | operate (site : Site) (asked : LocalOperation) (ambient : Ambient)
  | deliver (site : Site) (index : ℕ) (ambient : Ambient)

namespace Network

variable {Site : Type} [DecidableEq Site]

/-- The copy with the given number, if it is addressed to the node at the site. -/
def deliverable (network : Network Site) (site : Site) (index : ℕ) : Option Copy :=
  network.sent[index]?.filter fun copy ↦ copy.target = (network.nodes site).peerId

/-- A node performs an operation, and what it queues is sent with the given tag. -/
def act (scheme : SignatureScheme) (network : Network Site) (site : Site)
    (operation : LocalGossipNode.Operation × Ambient) (tag : Tag) : Network Site where
  nodes := Function.update network.nodes site ((network.nodes site).perform scheme operation)
  sent := network.sent ++ ((network.nodes site).newSends scheme operation).map fun send ↦
    ⟨(network.nodes site).peerId, send.1, send.2, tag⟩

/-- The tag of what a node introduces. -/
def introduced (node : LocalGossipNode) : Tag :=
  ⟨node.peerId, node.broadcaster.config.maxTtlHops.toNat, 0⟩

/-- One step of the network. -/
def step (scheme : SignatureScheme) (network : Network Site) : NetworkStep Site → Network Site
  | .operate site asked ambient => network.act scheme site (asked.operation, ambient)
    (introduced (network.nodes site))
  | .deliver site index ambient =>
    match network.deliverable site index with
    | none => network
    | some copy => network.act scheme site (.handleMessage copy.message copy.sender, ambient)
      copy.tag.forwarded

omit [DecidableEq Site] in
/-- A deliverable copy has been sent. -/
theorem mem_of_deliverable {network : Network Site} {site : Site} {index : ℕ} {copy : Copy}
    (hcopy : network.deliverable site index = some copy) : copy ∈ network.sent := by
  have hfound := Option.eq_some_of_filter_eq_some hcopy
  exact List.mem_of_getElem? hfound

/-! ### The hops of a message -/

/-- Every copy of an announcement or a query has the hops it was introduced with, less the number of
times it has been forwarded. -/
def HopBudget (network : Network Site) : Prop :=
  ∀ copy ∈ network.sent, ∀ ttl ∈ copy.message.ttlHops?, ttl + copy.tag.hops = copy.tag.budget

instance (network : Network Site) : Decidable network.HopBudget :=
  inferInstanceAs (Decidable (∀ _ ∈ _, _))

/-- The step does not make a node forward a message. -/
def ForwardsNothing (scheme : SignatureScheme) (network : Network Site) : NetworkStep Site → Prop
  | .operate _ _ _ => True
  | .deliver site index ambient => ∀ copy ∈ network.deliverable site index,
    ¬ (network.nodes site).Forwards scheme ambient copy.message copy.sender

section Hops

variable {scheme : SignatureScheme} {network : Network Site}

/-- The hop budget after an action is that of the old copies and of the new ones. -/
theorem hopBudget_act_iff {site : Site} {operation : LocalGossipNode.Operation × Ambient}
    {tag : Tag} : (network.act scheme site operation tag).HopBudget ↔ network.HopBudget ∧
      ∀ send ∈ (network.nodes site).newSends scheme operation, ∀ ttl ∈ send.2.ttlHops?,
        ttl + tag.hops = tag.budget := by
  unfold HopBudget act
  simp only [List.mem_append, List.mem_map]
  constructor
  · intro hbudget
    refine ⟨fun copy hcopy ↦ hbudget copy (.inl hcopy), fun send hsend ↦ ?_⟩
    exact hbudget _ (.inr ⟨send, hsend, rfl⟩)
  · rintro ⟨hold, hnew⟩ copy (hcopy | ⟨send, hsend, rfl⟩)
    · exact hold copy hcopy
    · exact hnew send hsend

omit [DecidableEq Site] in
/-- A node introduces announcements and queries with the hops of its configuration. -/
theorem introduced_hops {node : LocalGossipNode} {asked : LocalOperation} {ambient : Ambient} :
    ∀ send ∈ node.newSends scheme (asked.operation, ambient), ∀ ttl ∈ send.2.ttlHops?,
      ttl + (introduced node).hops = (introduced node).budget := by
  intro send hsend ttl httl
  rcases LocalGossipNode.newSends_local asked.notHandling send hsend with
    ⟨messageId, announcement, hmessage⟩ | ⟨queryId, filter, maxResults, hmessage, -⟩ |
      ⟨queryId, announcements, hmessage⟩
  · rw [hmessage] at httl
    exact (Option.some.inj httl).symm
  · rw [hmessage] at httl
    exact (Option.some.inj httl).symm
  · rw [hmessage] at httl
    cases httl

/-- A step keeps the hop budget exactly when it forwards nothing. -/
theorem hopBudget_step_iff (hbudget : network.HopBudget) (next : NetworkStep Site) :
    (network.step scheme next).HopBudget ↔ network.ForwardsNothing scheme next := by
  cases next with
  | operate site asked ambient =>
    rw [step, hopBudget_act_iff]
    exact iff_of_true ⟨hbudget, introduced_hops⟩ trivial
  | deliver site index ambient =>
    cases hcopy : network.deliverable site index with
    | none => simp [step, ForwardsNothing, hcopy, hbudget]
    | some copy =>
      rw [step, hcopy]
      dsimp only
      rw [hopBudget_act_iff]
      have hforwards : network.ForwardsNothing scheme (.deliver site index ambient) ↔
          (network.nodes site).newSends scheme (.handleMessage copy.message copy.sender, ambient) =
            [] := by
        simp only [ForwardsNothing, hcopy, Option.mem_some_iff, forall_eq']
        rw [← LocalGossipNode.newSends_ne_nil_iff, Ne, not_not]
      rw [hforwards]
      constructor
      · rintro ⟨-, hnew⟩
        by_contra hsends
        obtain ⟨send, hsend⟩ := List.exists_mem_of_ne_nil _ hsends
        have hmessage := LocalGossipNode.message_of_newSends hsend
        obtain ⟨ttl, httl⟩ := Option.isSome_iff_exists.mp
          (LocalGossipNode.newSends_ne_nil_iff.mp hsends).broadcast
        have hafter := hnew send hsend ttl (by rw [hmessage]; exact httl)
        have hbefore := hbudget copy (mem_of_deliverable hcopy) ttl httl
        dsimp only [Tag.forwarded] at hafter
        omega
      · intro hsends
        rw [hsends]
        exact ⟨hbudget, fun send hsend ↦ by cases hsend⟩

/-- In every network and every run, the copies keep to the hops of their messages exactly when no
delivery is forwarded. -/
theorem hopBudget_iff_forwardsNothing (scheme : SignatureScheme) (nodes : Site → LocalGossipNode)
    (steps : List (NetworkStep Site)) :
    Always (step scheme) HopBudget ⟨nodes, []⟩ steps ↔
      Throughout (step scheme) (ForwardsNothing scheme) ⟨nodes, []⟩ steps := by
  have hstart : HopBudget (⟨nodes, []⟩ : Network Site) := fun copy hcopy ↦ by cases hcopy
  exact always_iff_throughout hstart fun _ next hbudget ↦ hopBudget_step_iff hbudget next

end Hops

/-- The peer at a site of a line of four. -/
def linePeer (site : Fin 4) : PeerId := PeerId.ofByte (UInt8.ofNat (site.val + 1))

/-- A running node of the line, with one hop for its messages, that knows its neighbours. -/
def lineNode (site : Fin 4) : LocalGossipNode :=
  let node := LocalGossipNode.new 0 (linePeer site) { BroadcastConfig.default with maxTtlHops := 1 }
  let neighbours := (List.finRange 4).filter fun other ↦
    other.val + 1 = site.val ∨ site.val + 1 = other.val
  (neighbours.map linePeer).foldl LocalGossipNode.addPeer (node.setState .running)

/-- The first peer asks, and its query is delivered to the second and from there to the third. -/
def lineSteps : List (NetworkStep (Fin 4)) :=
  [.operate 0 ⟨.prepareQuery .any 10, fun _ _ hsame ↦ by cases hsame⟩
      (.still 0 (MessageId.ofByte 1)),
    .deliver 1 0 (.still 0 (MessageId.ofByte 2)),
    .deliver 2 1 (.still 0 (MessageId.ofByte 3))]

/-- A query with one hop is forwarded twice, each time with its one hop. -/
theorem query_outlives_its_hops :
    ¬ Always (step .keyless) HopBudget ⟨lineNode, []⟩ lineSteps ∧
      ∃ copy ∈ (lineSteps.foldl (step .keyless) ⟨lineNode, []⟩).sent,
        copy.message.ttlHops? = some 1 ∧ copy.tag.budget = 1 ∧ copy.tag.hops = 2 := by
  decide +kernel

/-! ### What one node receives -/

/-- What a step asks of the node at a site. -/
def asks (network : Network Site) (site : Site) :
    NetworkStep Site → Option (LocalGossipNode.Operation × Ambient)
  | .operate other asked ambient => if other = site then some (asked.operation, ambient) else none
  | .deliver other index ambient =>
    if other = site then (network.deliverable site index).map fun copy ↦
      (.handleMessage copy.message copy.sender, ambient)
    else none

/-- What a run of the network asks of the node at a site. -/
def received (scheme : SignatureScheme) (site : Site) :
    Network Site → List (NetworkStep Site) → List (LocalGossipNode.Operation × Ambient)
  | _, [] => []
  | network, next :: rest =>
    (network.asks site next).toList ++ received scheme site (network.step scheme next) rest

section Projection

variable {scheme : SignatureScheme} {network : Network Site}

/-- A step does to each node what it asks of it. -/
theorem nodes_step (site : Site) (next : NetworkStep Site) :
    (network.step scheme next).nodes site =
      (network.asks site next).toList.foldl (LocalGossipNode.perform scheme)
        (network.nodes site) := by
  cases next with
  | operate other asked ambient =>
    by_cases hsite : other = site
    · subst hsite
      simp [step, act, asks]
    · simp [step, act, asks, hsite, Function.update_of_ne (Ne.symm hsite)]
  | deliver other index ambient =>
    by_cases hsite : other = site
    · subst hsite
      cases hcopy : network.deliverable other index with
      | none => simp [step, asks, hcopy]
      | some copy => simp [step, act, asks, hcopy]
    · cases hcopy : network.deliverable other index with
      | none => simp [step, asks, hcopy, hsite]
      | some copy => simp [step, act, asks, hcopy, hsite, Function.update_of_ne (Ne.symm hsite)]

/-- In a run of the network each node runs on what it receives. -/
theorem nodes_foldl (site : Site) (steps : List (NetworkStep Site)) :
    ∀ network : Network Site, (steps.foldl (step scheme) network).nodes site =
      (received scheme site network steps).foldl (LocalGossipNode.perform scheme)
        (network.nodes site) := by
  induction steps with
  | nil => intro network; rfl
  | cons next rest ih =>
    intro network
    rw [List.foldl_cons, ih, nodes_step, received, List.foldl_append]

end Projection

/-! ### Where messages go -/

/-- A network of new nodes with nothing sent. -/
def start (created : Site → ℕ) (peerIds : Site → PeerId) (configs : Site → BroadcastConfig) :
    Network Site :=
  ⟨fun site ↦ .new (created site) (peerIds site) (configs site), []⟩

/-- Every query names the peer that introduced it, and no copy of it is addressed to that peer. -/
def NeverReturned (network : Network Site) : Prop :=
  ∀ copy ∈ network.sent, ∀ query, copy.message = .query query →
    query.fromPeer = copy.tag.origin ∧ copy.target ≠ copy.tag.origin

section Returning

variable {scheme : SignatureScheme} {network : Network Site}

/-- A step keeps every node apart from its peers. -/
theorem apart_step (hapart : ∀ site, (network.nodes site).broadcaster.Apart)
    (next : NetworkStep Site) (site : Site) :
    ((network.step scheme next).nodes site).broadcaster.Apart := by
  rw [nodes_step]
  cases network.asks site next with
  | none => exact hapart site
  | some operation => exact (LocalGossipNode.identity_perform operation).2.2 (hapart site)

/-- What an action sends does not return when the new queries do not. -/
theorem neverReturned_act (hreturned : network.NeverReturned) {site : Site}
    {operation : LocalGossipNode.Operation × Ambient} {tag : Tag}
    (hnew : ∀ send ∈ (network.nodes site).newSends scheme operation, ∀ query,
      send.2 = .query query → query.fromPeer = tag.origin ∧ send.1 ≠ tag.origin) :
    (network.act scheme site operation tag).NeverReturned := by
  intro copy hcopy query hmessage
  rcases List.mem_append.mp hcopy with hold | hsent
  · exact hreturned copy hold query hmessage
  · obtain ⟨send, hsend, rfl⟩ := List.mem_map.mp hsent
    exact hnew send hsend query hmessage

/-- No step returns a query to the peer that introduced it. -/
theorem neverReturned_step (hapart : ∀ site, (network.nodes site).broadcaster.Apart)
    (hreturned : network.NeverReturned) (next : NetworkStep Site) :
    (network.step scheme next).NeverReturned := by
  cases next with
  | operate site asked ambient =>
    refine neverReturned_act hreturned fun send hsend query hmessage ↦ ?_
    rcases LocalGossipNode.newSends_local asked.notHandling send hsend with
      ⟨messageId, announcement, hother⟩ | ⟨queryId, filter, maxResults, hquery, hknown⟩ |
        ⟨queryId, announcements, hother⟩
    · rw [hother] at hmessage
      cases hmessage
    · rw [hquery] at hmessage
      cases hmessage
      refine ⟨rfl, ?_⟩
      intro hself
      rw [hself] at hknown
      exact hapart site hknown
    · rw [hother] at hmessage
      cases hmessage
  | deliver site index ambient =>
    cases hcopy : network.deliverable site index with
    | none =>
      rw [step, hcopy]
      exact hreturned
    | some copy =>
      rw [step, hcopy]
      refine neverReturned_act hreturned fun send hsend query hmessage ↦ ?_
      obtain ⟨-, -, hcourteous⟩ := LocalGossipNode.courteous_perform (hapart site)
        (.handleMessage copy.message copy.sender, ambient)
      obtain ⟨hsame, -, -, hauthor⟩ := hcourteous send hsend
      rw [hsame] at hmessage
      obtain ⟨horigin, -⟩ := hreturned copy (mem_of_deliverable hcopy) query hmessage
      refine ⟨horigin, ?_⟩
      have htarget := hauthor query hmessage
      rw [horigin] at htarget
      exact htarget

end Returning

/-- In every network and every run, each node runs on what it receives. While fewer ids have been
marked at a node than its cache holds and no sweep has dropped an id, the node reports a message
with that id at most once and forwards it at most once; what it queues goes to at most `fanout`
peers and never to itself, to the sender or to the author of a query; and no query is ever queued
for the peer that introduced it. -/
theorem gossip_once (scheme : SignatureScheme) (created : Site → ℕ) (peerIds : Site → PeerId)
    (configs : Site → BroadcastConfig) (steps : List (NetworkStep Site)) :
    (∀ site, (steps.foldl (step scheme) (start created peerIds configs)).nodes site =
      (received scheme site (start created peerIds configs) steps).foldl
        (LocalGossipNode.perform scheme) (.new (created site) (peerIds site) (configs site))) ∧
    (∀ site messageId,
      (LocalGossipNode.markedIds scheme (.new (created site) (peerIds site) (configs site))
        (received scheme site (start created peerIds configs) steps)).dedup.length <
          (configs site).maxSeenCache →
      Throughout (LocalGossipNode.perform scheme) (LocalGossipNode.Keeps messageId)
        (.new (created site) (peerIds site) (configs site))
        (received scheme site (start created peerIds configs) steps) →
      LocalGossipNode.TakesOnce scheme messageId
        (.new (created site) (peerIds site) (configs site))
        (received scheme site (start created peerIds configs) steps)) ∧
    (∀ site, Throughout (LocalGossipNode.perform scheme) (LocalGossipNode.Courteous scheme)
      (.new (created site) (peerIds site) (configs site))
      (received scheme site (start created peerIds configs) steps)) ∧
    Always (step scheme) NeverReturned (start created peerIds configs) steps := by
  refine ⟨fun site ↦ nodes_foldl site steps _, fun site messageId hmarked hkeeps ↦
    LocalGossipNode.takesOnce_of_room hmarked hkeeps, fun site ↦ ?_, ?_⟩
  · have hapart : Always (LocalGossipNode.perform scheme) (fun node ↦ node.broadcaster.Apart)
        (.new (created site) (peerIds site) (configs site))
        (received scheme site (start created peerIds configs) steps) := by
      refine always_of_step ?_ ?_ _
      · exact List.not_mem_nil
      · exact fun node operation hnode ↦
          (LocalGossipNode.identity_perform operation).2.2 hnode
    exact fun done operation hdone ↦ LocalGossipNode.courteous_perform
      (hapart done (prefix_of_concat hdone)) operation
  · have hproper : Always (step scheme) (fun network ↦
        (∀ site, (network.nodes site).broadcaster.Apart) ∧ network.NeverReturned)
        (start created peerIds configs) steps := by
      refine always_of_step ?_ ?_ steps
      · exact ⟨fun site ↦ List.not_mem_nil, fun copy hcopy ↦ by cases hcopy⟩
      · exact fun network next hnetwork ↦ ⟨apart_step hnetwork.1 next,
          neverReturned_step hnetwork.1 hnetwork.2 next⟩
    exact fun done hdone ↦ (hproper done hdone).2

/-- A local operation at a site, at time zero. -/
def atSite (site : Fin 4) (operation : LocalGossipNode.Operation)
    (hlocal : ∀ message fromPeer, operation ≠ .handleMessage message fromPeer) :
    NetworkStep (Fin 4) :=
  .operate site ⟨operation, hlocal⟩ (.still 0 (MessageId.ofByte 1))

/-- Three peers of the line start and learn of each other, the first one asks, and its query is
delivered twice to the second. -/
def redeliverySteps : List (NetworkStep (Fin 4)) :=
  [atSite 0 (.setState .running) (fun _ _ hsame ↦ by cases hsame),
    atSite 1 (.setState .running) (fun _ _ hsame ↦ by cases hsame),
    atSite 0 (.addPeer (linePeer 1)) (fun _ _ hsame ↦ by cases hsame),
    atSite 1 (.addPeer (linePeer 0)) (fun _ _ hsame ↦ by cases hsame),
    atSite 1 (.addPeer (linePeer 2)) (fun _ _ hsame ↦ by cases hsame),
    atSite 0 (.prepareQuery .any 10) (fun _ _ hsame ↦ by cases hsame),
    .deliver 1 0 (.still 0 (MessageId.ofByte 2)),
    .deliver 1 0 (.still 1 (MessageId.ofByte 3))]

/-- The second peer of the line takes the query once. -/
theorem gossip_once_redeliverySteps :
    LocalGossipNode.TakesOnce .keyless (MessageId.ofByte 1) (.new 0 (linePeer 1) .default)
      (received .keyless 1 (start (fun _ ↦ 0) linePeer fun _ ↦ .default) redeliverySteps) :=
  (gossip_once .keyless (fun _ ↦ 0) linePeer (fun _ ↦ .default) redeliverySteps).2.1 1
    (MessageId.ofByte 1) (by decide +kernel) (by decide +kernel)

end Network

end Clawbernetes.MoltP2p
