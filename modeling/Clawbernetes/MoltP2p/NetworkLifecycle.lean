import Clawbernetes.Library.Interleaving
import Clawbernetes.Library.Traces
import Clawbernetes.MoltP2p.Broadcast
import Clawbernetes.MoltP2p.ConnectionPool
import Clawbernetes.MoltP2p.ProviderSearch
import Clawbernetes.MoltP2p.Tunnel

/-!
# Joining and leaving the network

`network.rs`. Every call takes the lock of the inner state once, but `leave` lets it go between
setting the state to `Leaving` and setting it to `Offline`, and removes the connections one by one
under the lock of the pool in between. Any calls may run there, among them another `leave`.

At most one `leave` is on its way, exactly while the state is `Leaving`, and until it ends no call
to join, leave, broadcast or search succeeds. Joins and leaves alternate, and the time since when
the network is online is that of the last join (`network_lifecycle`). Nothing in the crate adds a
connection to the pool of a network, so a broadcast reaches no peer.

The known capacities are not protected by the state: they may be stored while the network is
`Leaving` or `Offline`, and the end of a `leave` clears those that were stored before it. What is
known at the end of any interleaving is what was stored alive and not displaced since
(`capacity_known_iff`).
-/

set_option autoImplicit false
set_option relaxedAutoImplicit false

namespace Clawbernetes.MoltP2p

open Library.FiniteTable Library.Runs Library.Interleaving

/-! ### The inner state -/

/-- A number in 64 bits. -/
def word64 : ℕ →+ UInt64 where
  toFun := UInt64.ofNat
  map_zero' := rfl
  map_add' := UInt64.ofNat_add

@[simp]
theorem word64_one : word64 1 = 1 := rfl

/-- `NetworkStats`. -/
structure NetworkStats where
  messagesSent : UInt64
  messagesReceived : UInt64
  successfulJoins : UInt64
  failedJoins : UInt64
  announcementsBroadcast : UInt64
  providerSearches : UInt64
  onlineSince : Option ℤ
  deriving DecidableEq

/-- `NetworkStats::new`. -/
def NetworkStats.new : NetworkStats := ⟨0, 0, 0, 0, 0, 0, none⟩

/-- `NetworkInner`. -/
structure NetworkInner where
  state : NetworkState
  peerTable : Table PeerId PeerInfo
  knownCapacities : Table PeerId CapacityAnnouncement
  stats : NetworkStats
  ourAnnouncement : Option CapacityAnnouncement

namespace NetworkInner

/-- `NetworkInner::new`. -/
def new : NetworkInner := ⟨.offline, ∅, ∅, .new, none⟩

/-- The part of the inner state that a search reads or writes. -/
def searched (inner : NetworkInner) : MoltNetwork :=
  ⟨inner.state, inner.knownCapacities, inner.stats.providerSearches⟩

/-- `MoltNetwork::join`. The bootstrap nodes are built and dropped. -/
def join (inner : NetworkInner) (now : ℤ) (_bootstrapNodes : List String) :
    NetworkInner × Except P2pError Unit :=
  match inner.state with
  | .online => (inner, .error (.protocol "Already online"))
  | .joining => (inner, .error (.protocol "Already joining"))
  | .leaving => (inner, .error (.protocol "Currently leaving"))
  | .offline =>
    ({ inner with
      state := .online
      stats := { inner.stats with
        onlineSince := some now
        successfulJoins := inner.stats.successfulJoins + 1 } }, .ok ())

/-- The first section of `MoltNetwork::leave`. -/
def startLeave (inner : NetworkInner) : NetworkInner × Except P2pError Unit :=
  if inner.state ≠ .online then
    (inner, .error (.protocol ("Cannot leave: not online (state: " ++ inner.state.debug ++ ")")))
  else ({ inner with state := .leaving }, .ok ())

/-- The last section of `MoltNetwork::leave`. -/
def finishLeave (inner : NetworkInner) : NetworkInner :=
  { inner with
    state := .offline
    stats := { inner.stats with onlineSince := none }
    knownCapacities := ∅ }

/-- `MoltNetwork::broadcast_capacity`, with the number of active connections. -/
def broadcastCapacity (inner : NetworkInner) (activePeers : ℕ)
    (announcement : CapacityAnnouncement) : NetworkInner × Except P2pError ℕ :=
  if !inner.state.isOperational then
    (inner, .error (.protocol ("Cannot broadcast: not operational (state: " ++ inner.state.debug ++
      ")")))
  else
    ({ inner with
      ourAnnouncement := some announcement
      stats := { inner.stats with
        announcementsBroadcast := inner.stats.announcementsBroadcast + 1
        messagesSent := inner.stats.messagesSent + .ofNat activePeers } }, .ok activePeers)

/-- The effect of `MoltNetwork::find_providers` on the inner state. The search is counted before the
announcements are matched, and so also when matching one of them panics. -/
def countSearch (inner : NetworkInner) : NetworkInner :=
  if !inner.state.isOperational then inner
  else { inner with
    stats := { inner.stats with providerSearches := inner.stats.providerSearches + 1 } }

/-- `MoltNetwork::store_capacity`. -/
def storeCapacity (inner : NetworkInner) (now : ℤ) (announcement : CapacityAnnouncement) :
    NetworkInner :=
  { inner with knownCapacities := (inner.searched.storeCapacity now announcement).knownCapacities }

/-- `MoltNetwork::cleanup_expired_capacities`, with a reading of the wall clock for every entry. -/
def cleanupExpired (inner : NetworkInner) (clock : PeerId → ℤ) : NetworkInner × ℕ :=
  let kept := retain (fun peer announcement ↦ !announcement.isExpired (clock peer))
    inner.knownCapacities
  ({ inner with knownCapacities := kept },
    inner.knownCapacities.entries.length - kept.entries.length)

/-- `MoltNetwork::add_peer`. -/
def addPeer (inner : NetworkInner) (info : PeerInfo) : NetworkInner :=
  { inner with peerTable := inner.peerTable.insert info.peerId info }

/-- `MoltNetwork::remove_peer`. -/
def removePeer (inner : NetworkInner) (peer : PeerId) : NetworkInner :=
  { inner with
    peerTable := inner.peerTable.erase peer
    knownCapacities := inner.knownCapacities.erase peer }

/-! The calls that are about the state of the network leave its tables as they are. -/

section Tables

variable (inner : NetworkInner) (now : ℤ) (bootstrapNodes : List String) (activePeers : ℕ)
  (announcement : CapacityAnnouncement)

@[simp] theorem knownCapacities_join :
    (inner.join now bootstrapNodes).1.knownCapacities = inner.knownCapacities := by
  unfold join
  split <;> rfl

@[simp] theorem peerTable_join :
    (inner.join now bootstrapNodes).1.peerTable = inner.peerTable := by
  unfold join
  split <;> rfl

@[simp] theorem knownCapacities_startLeave :
    inner.startLeave.1.knownCapacities = inner.knownCapacities := by
  unfold startLeave
  split_ifs <;> rfl

@[simp] theorem peerTable_startLeave : inner.startLeave.1.peerTable = inner.peerTable := by
  unfold startLeave
  split_ifs <;> rfl

@[simp] theorem knownCapacities_broadcastCapacity :
    (inner.broadcastCapacity activePeers announcement).1.knownCapacities =
      inner.knownCapacities := by
  unfold broadcastCapacity
  split_ifs <;> rfl

@[simp] theorem peerTable_broadcastCapacity :
    (inner.broadcastCapacity activePeers announcement).1.peerTable = inner.peerTable := by
  unfold broadcastCapacity
  split_ifs <;> rfl

@[simp] theorem knownCapacities_countSearch :
    inner.countSearch.knownCapacities = inner.knownCapacities := by
  unfold countSearch
  split_ifs <;> rfl

@[simp] theorem peerTable_countSearch : inner.countSearch.peerTable = inner.peerTable := by
  unfold countSearch
  split_ifs <;> rfl

end Tables

/-- A network that is being left refuses to be joined, left, told or searched, and stays as it
is. -/
theorem refused_of_leaving {inner : NetworkInner} (hstate : inner.state = .leaving) (now : ℤ)
    (bootstrapNodes : List String) (activePeers : ℕ) (announcement : CapacityAnnouncement) :
    inner.join now bootstrapNodes = (inner, .error (.protocol "Currently leaving")) ∧
      inner.startLeave =
        (inner, .error (.protocol "Cannot leave: not online (state: Leaving)")) ∧
      inner.broadcastCapacity activePeers announcement =
        (inner, .error (.protocol "Cannot broadcast: not operational (state: Leaving)")) ∧
      inner.countSearch = inner := by
  refine ⟨?_, ?_, ?_, ?_⟩
  · simp only [join, hstate]
  · simp only [startLeave, hstate]
    rfl
  · simp only [broadcastCapacity, hstate]
    rfl
  · simp [countSearch, hstate, NetworkState.isOperational]

end NetworkInner

/-! ### Calls and their sections -/

/-- `ConnectionPool::active_count`. -/
def ConnectionPool.activeCount (pool : ConnectionPool) : ℕ :=
  (pool.connections.entries.filter fun entry ↦ entry.2.state = .connected).length

/-- `MoltNetwork`: the pool and the inner state, each behind a lock of its own. -/
structure SharedNetwork where
  connections : ConnectionPool
  inner : NetworkInner

/-- `MoltNetwork::new`. -/
def SharedNetwork.new (maxPeers : ℕ) : SharedNetwork := ⟨.new ⟨maxPeers, .default⟩, .new⟩

/-- A call that changes the network. -/
inductive NetworkCall where
  | join (bootstrapNodes : List String) (now : ℤ)
  | leave
  | broadcastCapacity (announcement : CapacityAnnouncement)
  | findProviders
  | storeCapacity (announcement : CapacityAnnouncement) (now : ℤ)
  | cleanupExpired (clock : PeerId → ℤ)
  | addPeer (info : PeerInfo)
  | removePeer (peer : PeerId)

/-- What a `leave` still has to do: ask the pool for its peers, or remove the connections of the
peers it was told and finish. -/
inductive Departure where
  | listing
  | removing (remaining : List PeerId)
  deriving DecidableEq

namespace SharedNetwork

/-- The first section of a call. -/
def begin (network : SharedNetwork) : NetworkCall → SharedNetwork × Option Departure
  | .join bootstrapNodes now =>
    ({ network with inner := (network.inner.join now bootstrapNodes).1 }, none)
  | .leave =>
    match network.inner.startLeave with
    | (inner, .ok ()) => ({ network with inner := inner }, some .listing)
    | (inner, .error _) => ({ network with inner := inner }, none)
  | .broadcastCapacity announcement =>
    ({ network with inner :=
      (network.inner.broadcastCapacity network.connections.activeCount announcement).1 }, none)
  | .findProviders => ({ network with inner := network.inner.countSearch }, none)
  | .storeCapacity announcement now =>
    ({ network with inner := network.inner.storeCapacity now announcement }, none)
  | .cleanupExpired clock =>
    ({ network with inner := (network.inner.cleanupExpired clock).1 }, none)
  | .addPeer info => ({ network with inner := network.inner.addPeer info }, none)
  | .removePeer peer => ({ network with inner := network.inner.removePeer peer }, none)

/-- What the first section of a `leave` does to the inner state. -/
@[simp] theorem inner_begin_leave (network : SharedNetwork) :
    (network.begin .leave).1.inner = network.inner.startLeave.1 := by
  unfold begin
  rcases network.inner.startLeave with ⟨inner, _ | _⟩ <;> rfl

/-- The next section of a `leave`. The order of the peers is that of a hash map. -/
def resume (order : Arrangement) (network : SharedNetwork) :
    Departure → SharedNetwork × Option Departure
  | .listing => (network, some (.removing (order.arrange network.connections.connections.keys)))
  | .removing (peer :: remaining) =>
    ({ network with connections := (network.connections.remove peer).1 },
      some (.removing remaining))
  | .removing [] => ({ network with inner := network.inner.finishLeave }, none)

/-- The sections of the calls. -/
def protocol : Protocol SharedNetwork Departure NetworkCall Arrangement where
  begin := begin
  resume := resume

/-! ### One departure at a time -/

/-- One `leave` is on its way while the state is `Leaving` and none otherwise, the network knows
since when it is online unless it is offline, and it has neither connected to nor heard from nor
written to a peer. -/
structure Orderly (maxPeers : ℕ) (network : SharedNetwork) (departures : List Departure) :
    Prop where
  departing : network.inner.state = .leaving ∧ departures.length = 1 ∨
    (network.inner.state = .offline ∨ network.inner.state = .online) ∧ departures = []
  onlineSince : network.inner.stats.onlineSince.isSome = true ↔ network.inner.state ≠ .offline
  unconnected : network.connections = .new ⟨maxPeers, .default⟩
  silent : network.inner.stats.messagesSent = 0 ∧ network.inner.stats.messagesReceived = 0 ∧
    network.inner.stats.failedJoins = 0

section Sections

variable {maxPeers : ℕ} {network : SharedNetwork} {departures : List Departure}

/-- The state is one in which nothing is on its way. -/
theorem Orderly.quiet (horderly : Orderly maxPeers network departures)
    (hstate : network.inner.state ≠ .leaving) : departures = [] :=
  (horderly.departing.resolve_left fun hleaving ↦ hstate hleaving.1).2

/-- A `leave` that is on its way has set the state. -/
theorem Orderly.leaving {departure : Departure}
    (horderly : Orderly maxPeers network (departure :: departures)) :
    network.inner.state = .leaving ∧ departures = [] := by
  rcases horderly.departing with ⟨hstate, hlength⟩ | ⟨-, hnone⟩
  · exact ⟨hstate, List.eq_nil_of_length_eq_zero (Nat.succ.inj hlength)⟩
  · cases hnone

/-- A pool that nothing was added to has no active connection. -/
theorem Orderly.activeCount (horderly : Orderly maxPeers network departures) :
    network.connections.activeCount = 0 := by
  rw [horderly.unconnected]
  rfl

/-- The first section of a call keeps the network orderly. -/
theorem orderly_begin (horderly : Orderly maxPeers network departures) (call : NetworkCall) :
    Orderly maxPeers (network.begin call).1 ((network.begin call).2.toList ++ departures) := by
  obtain ⟨hdeparting, honline, hunconnected, hsilent⟩ := horderly
  cases call with
  | join bootstrapNodes now =>
    cases hstate : network.inner.state with
    | offline =>
      have hnone : departures = [] := by simpa [hstate] using hdeparting
      refine ⟨.inr ⟨.inr ?_, hnone⟩, ?_, hunconnected, ?_⟩
      · simp [begin, NetworkInner.join, hstate]
      · simp [begin, NetworkInner.join, hstate]
      · simpa [begin, NetworkInner.join, hstate] using hsilent
    | _ =>
      have hsame : (network.begin (.join bootstrapNodes now)).1 = network := by
        simp only [begin, NetworkInner.join, hstate]
      rw [hsame]
      exact ⟨hdeparting, honline, hunconnected, hsilent⟩
  | leave =>
    by_cases hstate : network.inner.state = .online
    · have hnone : departures = [] := by simpa [hstate] using hdeparting
      subst hnone
      refine ⟨.inl ⟨?_, ?_⟩, ?_, ?_, ?_⟩
      · simp [begin, NetworkInner.startLeave, hstate]
      · simp [begin, NetworkInner.startLeave, hstate]
      · simpa [begin, NetworkInner.startLeave, hstate] using honline
      · simpa [begin, NetworkInner.startLeave, hstate] using hunconnected
      · simpa [begin, NetworkInner.startLeave, hstate] using hsilent
    · have hsame : network.begin .leave = (network, none) := by
        simp [begin, NetworkInner.startLeave, hstate]
      rw [hsame]
      exact ⟨hdeparting, honline, hunconnected, hsilent⟩
  | broadcastCapacity announcement =>
    have hcount := Orderly.activeCount ⟨hdeparting, honline, hunconnected, hsilent⟩
    simp only [begin, NetworkInner.broadcastCapacity, hcount]
    split_ifs
    · exact ⟨hdeparting, honline, hunconnected, hsilent⟩
    · exact ⟨hdeparting, honline, hunconnected, by simpa using hsilent⟩
  | findProviders =>
    simp only [begin, NetworkInner.countSearch]
    split_ifs
    · exact ⟨hdeparting, honline, hunconnected, hsilent⟩
    · exact ⟨hdeparting, honline, hunconnected, hsilent⟩
  | storeCapacity announcement now => exact ⟨hdeparting, honline, hunconnected, hsilent⟩
  | cleanupExpired clock => exact ⟨hdeparting, honline, hunconnected, hsilent⟩
  | addPeer info => exact ⟨hdeparting, honline, hunconnected, hsilent⟩
  | removePeer peer => exact ⟨hdeparting, honline, hunconnected, hsilent⟩

/-- The next section of a `leave` keeps the network orderly. -/
theorem orderly_resume {departure : Departure}
    (horderly : Orderly maxPeers network (departure :: departures)) (order : Arrangement) :
    Orderly maxPeers (network.resume order departure).1
      ((network.resume order departure).2.toList ++ departures) := by
  obtain ⟨hstate, rfl⟩ := horderly.leaving
  obtain ⟨-, honline, hunconnected, hsilent⟩ := horderly
  cases departure with
  | listing => exact ⟨.inl ⟨hstate, rfl⟩, honline, hunconnected, hsilent⟩
  | removing remaining =>
    cases remaining with
    | nil => exact ⟨.inr ⟨.inl rfl, rfl⟩, by simp [resume, NetworkInner.finishLeave], hunconnected,
        hsilent⟩
    | cons peer remaining =>
      refine ⟨.inl ⟨hstate, rfl⟩, honline, ?_, hsilent⟩
      simp only [resume, hunconnected]
      rw [ConnectionPool.remove_of_none]
      exact AList.lookup_empty peer

/-- Every section keeps the network orderly. -/
theorem orderly_step (world : World SharedNetwork Departure)
    (move : Move NetworkCall Arrangement)
    (horderly : Orderly maxPeers world.shared world.pending) :
    Orderly maxPeers (protocol.step world move).shared (protocol.step world move).pending := by
  refine Protocol.good_step protocol (Orderly maxPeers) ?_ ?_ ?_ world move horderly
  · rintro network departures others hperm ⟨hdeparting, honline, hunconnected, hsilent⟩
    refine ⟨hdeparting.imp (And.imp_right hperm.length_eq.symm.trans) (And.imp_right ?_), honline,
      hunconnected, hsilent⟩
    rintro rfl
    exact hperm.nil_eq.symm
  · exact fun network departures call hgood ↦ orderly_begin hgood call
  · exact fun network departures departure order hgood ↦ orderly_resume hgood order

end Sections

/-! ### What the counters count -/

/-- A `join` that succeeds. -/
def joins (world : World SharedNetwork Departure) : Move NetworkCall Arrangement → Bool
  | .begin (.join _ _) => world.shared.inner.state = .offline
  | _ => false

/-- The last section of a `leave`. -/
def departs (world : World SharedNetwork Departure) : Move NetworkCall Arrangement → Bool
  | .resume index _ => world.pending[index]? = some (.removing [])
  | _ => false

/-- A broadcast that succeeds. -/
def broadcasts (world : World SharedNetwork Departure) : Move NetworkCall Arrangement → Bool
  | .begin (.broadcastCapacity _) => world.shared.inner.state.isOperational
  | _ => false

/-- A search that is let through. -/
def searches (world : World SharedNetwork Departure) : Move NetworkCall Arrangement → Bool
  | .begin .findProviders => world.shared.inner.state.isOperational
  | _ => false

/-- Whether the network has joined and not left. -/
def level (world : World SharedNetwork Departure) : ℕ :=
  if world.shared.inner.state = .offline then 0 else 1

/-- What a section does to the state and to the counters. -/
theorem counts_step (maxPeers : ℕ) (world : World SharedNetwork Departure)
    (move : Move NetworkCall Arrangement) :
    let after := (protocol.step world move).shared.inner
    let before := world.shared.inner
    after.stats.successfulJoins = before.stats.successfulJoins +
        (if joins world move then word64 1 else 0) ∧
      after.stats.announcementsBroadcast = before.stats.announcementsBroadcast +
        (if broadcasts world move then word64 1 else 0) ∧
      after.stats.providerSearches = before.stats.providerSearches +
        (if searches world move then word64 1 else 0) ∧
      (Orderly maxPeers world.shared world.pending →
        (if joins world move then 1 else 0) + level world =
          (if departs world move then 1 else 0) + level (protocol.step world move)) := by
  cases move with
  | begin call =>
    cases call with
    | join bootstrapNodes now =>
      cases hstate : world.shared.inner.state <;>
        simp [Protocol.step, protocol, begin, NetworkInner.join, joins, broadcasts, searches,
          departs, level, hstate]
    | leave =>
      by_cases hstate : world.shared.inner.state = .online
      · simp [Protocol.step, protocol, begin, NetworkInner.startLeave, joins, broadcasts, searches,
          departs, level, hstate]
      · simp [Protocol.step, protocol, begin, NetworkInner.startLeave, joins, broadcasts, searches,
          departs, level, hstate]
    | broadcastCapacity announcement =>
      cases hoperational : world.shared.inner.state.isOperational <;>
        simp [Protocol.step, protocol, begin, NetworkInner.broadcastCapacity, joins, broadcasts,
          searches, departs, level, hoperational]
    | findProviders =>
      cases hoperational : world.shared.inner.state.isOperational <;>
        simp [Protocol.step, protocol, begin, NetworkInner.countSearch, joins, broadcasts,
          searches, departs, level, hoperational]
    | _ => simp [Protocol.step, protocol, begin, NetworkInner.storeCapacity,
        NetworkInner.cleanupExpired, NetworkInner.addPeer, NetworkInner.removePeer, joins,
        broadcasts, searches, departs, level]
  | resume index order =>
    cases htask : world.pending[index]? with
    | none =>
      rw [Protocol.step_resume_of_none _ _ htask]
      simp [joins, broadcasts, searches, departs, htask]
    | some departure =>
      rw [Protocol.step_resume_of_some _ _ htask]
      rcases departure with _ | ⟨_ | ⟨peer, remaining⟩⟩
      · have hstays : departs world (.resume index order) = false := by simp [departs, htask]
        rw [hstays]
        exact ⟨(add_zero _).symm, (add_zero _).symm, (add_zero _).symm, fun _ ↦ rfl⟩
      · have hleaving : Orderly maxPeers world.shared world.pending →
            world.shared.inner.state = .leaving := by
          intro horderly
          rcases horderly.departing with ⟨hstate, -⟩ | ⟨-, hnone⟩
          · exact hstate
          · rw [hnone] at htask
            cases htask
        refine ⟨?_, ?_, ?_, fun horderly ↦ ?_⟩
        · simp [protocol, resume, NetworkInner.finishLeave, joins]
        · simp [protocol, resume, NetworkInner.finishLeave, broadcasts]
        · simp [protocol, resume, NetworkInner.finishLeave, searches]
        · simp [protocol, resume, NetworkInner.finishLeave, joins, departs, level, htask,
            hleaving horderly]
      · have hstays : departs world (.resume index order) = false := by simp [departs, htask]
        rw [hstays]
        exact ⟨(add_zero _).symm, (add_zero _).symm, (add_zero _).symm, fun _ ↦ rfl⟩

/-- The network before its first call. -/
def created (maxPeers : ℕ) : World SharedNetwork Departure := ⟨.new maxPeers, []⟩

/-- In every interleaving of calls at most one `leave` is on its way, exactly while the state is
`Leaving`; until it ends every `join`, `leave`, broadcast and search is refused and changes nothing.
The joins that have succeeded outnumber the departures by one while the network is not offline, and
then only it knows since when it is online. The counters are exact, in 64 bits. No connection is
ever made and no message counted as sent, so that a broadcast that succeeds reaches no peer. -/
theorem network_lifecycle (maxPeers : ℕ) (moves : List (Move NetworkCall Arrangement)) :
    let world := moves.foldl protocol.step (created maxPeers)
    let inner := world.shared.inner
    (inner.state = .leaving ∧ world.pending.length = 1 ∨
      (inner.state = .offline ∨ inner.state = .online) ∧ world.pending = []) ∧
    (world.pending ≠ [] → ∀ now bootstrapNodes activePeers announcement,
      inner.join now bootstrapNodes = (inner, .error (.protocol "Currently leaving")) ∧
      inner.startLeave =
        (inner, .error (.protocol "Cannot leave: not online (state: Leaving)")) ∧
      inner.broadcastCapacity activePeers announcement =
        (inner, .error (.protocol "Cannot broadcast: not operational (state: Leaving)")) ∧
      inner.countSearch = inner ∧
      ∀ overflowChecks toLowercase walk reqs maxResults elapsed activeCount,
        inner.searched.findProviders overflowChecks toLowercase walk reqs maxResults elapsed
          activeCount = some (.error (.protocol "Cannot search: not operational (state: Leaving)"),
            inner.searched)) ∧
    (inner.stats.onlineSince.isSome = true ↔ inner.state ≠ .offline) ∧
    countSteps protocol.step joins (created maxPeers) moves =
      countSteps protocol.step departs (created maxPeers) moves +
        (if inner.state = .offline then 0 else 1) ∧
    inner.stats.successfulJoins = word64 (countSteps protocol.step joins (created maxPeers) moves) ∧
    inner.stats.announcementsBroadcast =
      word64 (countSteps protocol.step broadcasts (created maxPeers) moves) ∧
    inner.stats.providerSearches =
      word64 (countSteps protocol.step searches (created maxPeers) moves) ∧
    world.shared.connections.len = 0 ∧
    inner.stats.messagesSent = 0 ∧ inner.stats.messagesReceived = 0 ∧
      inner.stats.failedJoins = 0 := by
  have hstart : Orderly maxPeers (created maxPeers).shared (created maxPeers).pending :=
    ⟨.inr ⟨.inl rfl, rfl⟩, by simp [created, new, NetworkInner.new, NetworkStats.new], rfl,
      rfl, rfl, rfl⟩
  have hkept : Always protocol.step (fun world ↦ Orderly maxPeers world.shared world.pending)
      (created maxPeers) moves := by
    refine always_of_step ?_ ?_ moves
    · exact hstart
    · exact fun world move hworld ↦ orderly_step world move hworld
  have horderly : Orderly maxPeers (moves.foldl protocol.step (created maxPeers)).shared
      (moves.foldl protocol.step (created maxPeers)).pending :=
    hkept.last
  have hkeep : ∀ (world : World SharedNetwork Departure) (move : Move NetworkCall Arrangement),
      (fun world : World SharedNetwork Departure ↦
        Orderly maxPeers world.shared world.pending) world →
      (fun world : World SharedNetwork Departure ↦
        Orderly maxPeers world.shared world.pending) (protocol.step world move) :=
    fun world move hworld ↦ orderly_step world move hworld
  have hbalance : countSteps protocol.step joins (created maxPeers) moves + 0 =
      countSteps protocol.step departs (created maxPeers) moves +
        level (moves.foldl protocol.step (created maxPeers)) :=
    countSteps_add_level joins departs level hkeep
      (fun world move hworld ↦ (counts_step maxPeers world move).2.2.2 hworld) hstart
  refine ⟨horderly.departing, fun hpending now bootstrapNodes activePeers announcement ↦ ?_,
    horderly.onlineSince, hbalance, ?_, ?_, ?_, ?_, horderly.silent⟩
  · have hstate := (horderly.departing.resolve_right fun hquiet ↦ hpending hquiet.2).1
    obtain ⟨hjoin, hleave, hbroadcast, hsearch⟩ :=
      NetworkInner.refused_of_leaving hstate now bootstrapNodes activePeers announcement
    refine ⟨hjoin, hleave, hbroadcast, hsearch, ?_⟩
    intro overflowChecks toLowercase walk reqs maxResults elapsed activeCount
    exact MoltNetwork.findProviders_of_leaving overflowChecks toLowercase hstate walk reqs
      maxResults elapsed activeCount
  · rw [tally_foldl word64 (fun world : World SharedNetwork Departure ↦
      world.shared.inner.stats.successfulJoins) joins
        (fun world move ↦ (counts_step maxPeers world move).1) moves]
    exact zero_add _
  · rw [tally_foldl word64 (fun world : World SharedNetwork Departure ↦
      world.shared.inner.stats.announcementsBroadcast) broadcasts
        (fun world move ↦ (counts_step maxPeers world move).2.1) moves]
    exact zero_add _
  · rw [tally_foldl word64 (fun world : World SharedNetwork Departure ↦
      world.shared.inner.stats.providerSearches) searches
        (fun world move ↦ (counts_step maxPeers world move).2.2.1) moves]
    exact zero_add _
  · rw [horderly.unconnected]
    rfl

/-! ### What is known -/

/-- The announcement is stored for the peer, alive. -/
def stores (peer : PeerId) (announcement : CapacityAnnouncement)
    (_world : World SharedNetwork Departure) : Move NetworkCall Arrangement → Prop
  | .begin (.storeCapacity stored now) =>
    stored = announcement ∧ announcement.peerId = peer ∧ announcement.isExpired now = false
  | _ => False

/-- The announcement of the peer is replaced, found expired, removed with the peer or cleared by the
end of a `leave`. -/
def displaces (peer : PeerId) (announcement : CapacityAnnouncement)
    (world : World SharedNetwork Departure) : Move NetworkCall Arrangement → Prop
  | .begin (.storeCapacity other now) => other.peerId = peer ∧ other.isExpired now = false
  | .begin (.cleanupExpired clock) => announcement.isExpired (clock peer) = true
  | .begin (.removePeer other) => other = peer
  | .resume index _ => world.pending[index]? = some (.removing [])
  | _ => False

/-- The peer is added with this information. -/
def adds (peer : PeerId) (info : PeerInfo) (_world : World SharedNetwork Departure) :
    Move NetworkCall Arrangement → Prop
  | .begin (.addPeer added) => added = info ∧ info.peerId = peer
  | _ => False

/-- The peer is added again or removed. -/
def drops (peer : PeerId) (_world : World SharedNetwork Departure) :
    Move NetworkCall Arrangement → Prop
  | .begin (.addPeer added) => added.peerId = peer
  | .begin (.removePeer other) => other = peer
  | _ => False

section Knowledge

variable {peer : PeerId} {announcement : CapacityAnnouncement} {info : PeerInfo}

/-- What a section does to the known capacities. -/
theorem knownCapacities_step (world : World SharedNetwork Departure)
    (move : Move NetworkCall Arrangement) :
    (protocol.step world move).shared.inner.knownCapacities.lookup peer = some announcement ↔
      stores peer announcement world move ∨
        world.shared.inner.knownCapacities.lookup peer = some announcement ∧
          ¬ displaces peer announcement world move := by
  cases move with
  | begin call =>
    cases call with
    | join bootstrapNodes now => simp [Protocol.step, protocol, begin, stores, displaces]
    | leave => simp [Protocol.step, protocol, stores, displaces]
    | broadcastCapacity other => simp [Protocol.step, protocol, begin, stores, displaces]
    | findProviders => simp [Protocol.step, protocol, begin, stores, displaces]
    | storeCapacity other now =>
      simp only [Protocol.step, protocol, begin, NetworkInner.storeCapacity,
        NetworkInner.searched, MoltNetwork.storeCapacity, stores, displaces]
      by_cases hexpired : other.isExpired now = true
      · rw [if_pos hexpired]
        constructor
        · exact fun hfound ↦ .inr ⟨hfound, fun hdisplaced ↦ by simp [hexpired] at hdisplaced⟩
        · rintro (⟨rfl, -, hlive⟩ | ⟨hfound, -⟩)
          · simp [hexpired] at hlive
          · exact hfound
      · rw [if_neg hexpired]
        rw [Bool.not_eq_true] at hexpired
        by_cases hpeer : other.peerId = peer
        · subst hpeer
          simp only [AList.lookup_insert, Option.some_inj, hexpired, and_self, not_true_eq_false,
            and_false, or_false]
          constructor
          · rintro rfl
            exact ⟨rfl, rfl, hexpired⟩
          · exact fun hsame ↦ hsame.1
        · rw [AList.lookup_insert_ne (Ne.symm hpeer)]
          constructor
          · exact fun hfound ↦ .inr ⟨hfound, fun hdisplaced ↦ hpeer hdisplaced.1⟩
          · rintro (⟨rfl, hsame, -⟩ | ⟨hfound, -⟩)
            · exact absurd hsame hpeer
            · exact hfound
    | cleanupExpired clock =>
      simp only [Protocol.step, protocol, begin, NetworkInner.cleanupExpired, stores, displaces,
        retain, lookup_sift, Option.bind_eq_some_iff, false_or]
      constructor
      · rintro ⟨found, hfound, hkept⟩
        split_ifs at hkept with hlive
        obtain rfl := Option.some.inj hkept
        exact ⟨hfound, by simpa using hlive⟩
      · rintro ⟨hfound, hlive⟩
        exact ⟨announcement, hfound, if_pos (by simpa using hlive)⟩
    | addPeer added =>
      simp [Protocol.step, protocol, begin, NetworkInner.addPeer, stores, displaces]
    | removePeer other =>
      simp only [Protocol.step, protocol, begin, NetworkInner.removePeer, stores, displaces,
        false_or]
      constructor
      · intro hfound
        obtain ⟨hne, hbefore⟩ := lookup_erase_cases hfound
        exact ⟨hbefore, hne.symm⟩
      · rintro ⟨hfound, hne⟩
        rwa [AList.lookup_erase_ne (Ne.symm hne)]
  | resume index order =>
    cases htask : world.pending[index]? with
    | none =>
      rw [Protocol.step_resume_of_none _ _ htask]
      simp [stores, displaces, htask]
    | some departure =>
      rw [Protocol.step_resume_of_some _ _ htask]
      rcases departure with _ | ⟨_ | ⟨found, remaining⟩⟩
      · simp [protocol, resume, stores, displaces, htask]
      · simp [protocol, resume, NetworkInner.finishLeave, stores, displaces, htask]
      · simp [protocol, resume, stores, displaces, htask]

/-- What a section does to the peer table. -/
theorem peerTable_step (world : World SharedNetwork Departure)
    (move : Move NetworkCall Arrangement) :
    (protocol.step world move).shared.inner.peerTable.lookup peer = some info ↔
      adds peer info world move ∨
        world.shared.inner.peerTable.lookup peer = some info ∧ ¬ drops peer world move := by
  cases move with
  | begin call =>
    cases call with
    | join bootstrapNodes now => simp [Protocol.step, protocol, begin, adds, drops]
    | leave => simp [Protocol.step, protocol, adds, drops]
    | broadcastCapacity other => simp [Protocol.step, protocol, begin, adds, drops]
    | findProviders => simp [Protocol.step, protocol, begin, adds, drops]
    | storeCapacity other now =>
      simp [Protocol.step, protocol, begin, NetworkInner.storeCapacity, adds, drops]
    | cleanupExpired clock =>
      simp [Protocol.step, protocol, begin, NetworkInner.cleanupExpired, adds, drops]
    | addPeer added =>
      simp only [Protocol.step, protocol, begin, NetworkInner.addPeer, adds, drops]
      by_cases hpeer : added.peerId = peer
      · subst hpeer
        simp only [AList.lookup_insert, Option.some_inj, not_true_eq_false, and_false, or_false]
        constructor
        · rintro rfl
          exact ⟨rfl, rfl⟩
        · exact fun hsame ↦ hsame.1
      · rw [AList.lookup_insert_ne (Ne.symm hpeer)]
        constructor
        · exact fun hfound ↦ .inr ⟨hfound, hpeer⟩
        · rintro (⟨rfl, hsame⟩ | ⟨hfound, -⟩)
          · exact absurd hsame hpeer
          · exact hfound
    | removePeer other =>
      simp only [Protocol.step, protocol, begin, NetworkInner.removePeer, adds, drops, false_or]
      constructor
      · intro hfound
        obtain ⟨hne, hbefore⟩ := lookup_erase_cases hfound
        exact ⟨hbefore, hne.symm⟩
      · rintro ⟨hfound, hne⟩
        rwa [AList.lookup_erase_ne (Ne.symm hne)]
  | resume index order =>
    cases htask : world.pending[index]? with
    | none =>
      rw [Protocol.step_resume_of_none _ _ htask]
      simp [adds, drops]
    | some departure =>
      rw [Protocol.step_resume_of_some _ _ htask]
      rcases departure with _ | ⟨_ | ⟨found, remaining⟩⟩ <;>
        simp [protocol, resume, NetworkInner.finishLeave, adds, drops]

/-- A search counts itself and returns announcements that are known, alive at the reading of the
clock and meet the requirements, or it does nothing. -/
theorem mem_of_findProviders {overflowChecks : Bool} {toLowercase : String → String}
    {inner : NetworkInner} {walk : MoltNetwork.CapacityWalk inner.searched}
    {reqs : CapacityRequirements} {maxResults activeCount : ℕ} {elapsed : Duration}
    {outcome : Except P2pError ProviderSearchResult} {after : MoltNetwork}
    (hsearch : inner.searched.findProviders overflowChecks toLowercase walk reqs maxResults elapsed
      activeCount = some (outcome, after)) :
    after = inner.countSearch.searched ∧ ∀ result, outcome = .ok result →
      result.providers.length ≤ maxResults ∧ ∀ provider ∈ result.providers,
        (∃ peer, inner.knownCapacities.lookup peer = some provider) ∧
        (∃ now, (provider, now) ∈ walk.visits ∧ provider.isExpired now = false) ∧
        Meets toLowercase provider reqs := by
  unfold MoltNetwork.findProviders at hsearch
  unfold NetworkInner.countSearch
  have hstate : inner.searched.state = inner.state := rfl
  rw [hstate] at hsearch
  split_ifs at hsearch ⊢ with hoperational
  · obtain ⟨rfl, rfl⟩ := Prod.mk.inj (Option.some.inj hsearch)
    exact ⟨rfl, fun result hresult ↦ by cases hresult⟩
  · obtain ⟨matching, hmatching, hresult⟩ := Option.map_eq_some_iff.mp hsearch
    obtain ⟨rfl, rfl⟩ := Prod.mk.inj hresult
    refine ⟨rfl, fun result hfound ↦ ?_⟩
    obtain rfl := Except.ok.inj hfound
    refine ⟨List.length_take_le _ _, fun provider hprovider ↦ ?_⟩
    have hmeeting := (MoltNetwork.sublist_of_filterMatching hmatching).subset
      (List.mem_of_mem_take hprovider)
    obtain ⟨⟨visited, now⟩, hvisit, rfl⟩ := List.mem_map.mp hmeeting
    rw [List.mem_filter, Bool.and_eq_true, Bool.not_eq_true', decide_eq_true_eq] at hvisit
    obtain ⟨hmem, hlive, hmeets⟩ := hvisit
    refine ⟨?_, ⟨now, hmem, hlive⟩, hmeets⟩
    have hknown := walk.perm.subset (List.mem_map_of_mem hmem)
    obtain ⟨⟨peer, found⟩, hentry, rfl⟩ := List.mem_map.mp hknown
    exact ⟨peer, AList.mem_lookup_iff.mpr hentry⟩

end Knowledge

/-- In every interleaving of calls, what is known of the capacity of a peer is the announcement that
was stored for it alive and has been neither replaced nor found expired nor removed nor cleared by
the end of a `leave` since; and the peers are those added and not removed since, whether or not the
network has left. A search returns only announcements with this history, each under its own peer,
alive at the reading of the clock and meeting the requirements. -/
theorem capacity_known_iff (maxPeers : ℕ) (moves : List (Move NetworkCall Arrangement)) :
    let inner := (moves.foldl protocol.step (created maxPeers)).shared.inner
    (∀ peer announcement, inner.knownCapacities.lookup peer = some announcement ↔
      Since protocol.step (stores peer announcement) (displaces peer announcement)
        (created maxPeers) moves) ∧
    (∀ peer info, inner.peerTable.lookup peer = some info ↔
      Since protocol.step (adds peer info) (drops peer) (created maxPeers) moves) ∧
    ∀ overflowChecks toLowercase walk reqs maxResults elapsed activeCount result after,
      inner.searched.findProviders overflowChecks toLowercase walk reqs maxResults elapsed
        activeCount = some (.ok result, after) →
      result.providers.length ≤ maxResults ∧ ∀ provider ∈ result.providers,
        Since protocol.step (stores provider.peerId provider)
          (displaces provider.peerId provider) (created maxPeers) moves ∧
        (∃ now, (provider, now) ∈ walk.visits ∧ provider.isExpired now = false) ∧
        Meets toLowercase provider reqs := by
  have hknown : ∀ peer announcement, (moves.foldl protocol.step
      (created maxPeers)).shared.inner.knownCapacities.lookup peer = some announcement ↔
        Since protocol.step (stores peer announcement) (displaces peer announcement)
          (created maxPeers) moves := by
    intro peer announcement
    refine holds_iff_since (fun world : World SharedNetwork Departure ↦
      world.shared.inner.knownCapacities.lookup peer = some announcement)
      (fun world move ↦ knownCapacities_step world move) ?_
    intro hfound
    cases hfound
  refine ⟨hknown, fun peer info ↦ ?_, ?_⟩
  · refine holds_iff_since (fun world : World SharedNetwork Departure ↦
      world.shared.inner.peerTable.lookup peer = some info)
      (fun world move ↦ peerTable_step world move) ?_
    intro hfound
    cases hfound
  · intro overflowChecks toLowercase walk reqs maxResults elapsed activeCount result after hsearch
    obtain ⟨-, hfound⟩ := mem_of_findProviders hsearch
    obtain ⟨hlength, hall⟩ := hfound result rfl
    refine ⟨hlength, fun provider hprovider ↦ ?_⟩
    obtain ⟨⟨peer, hlookup⟩, hlive, hmeets⟩ := hall provider hprovider
    have hsince := (hknown peer provider).mp hlookup
    have hpeer : provider.peerId = peer := by
      obtain ⟨done, move, rest, -, hstored, -⟩ := hsince
      cases move with
      | begin call =>
        cases call with
        | storeCapacity stored now => exact hstored.2.1
        | _ => exact hstored.elim
      | resume index order => exact hstored.elim
    rw [hpeer]
    exact ⟨hsince, hlive, hmeets⟩

end SharedNetwork

end Clawbernetes.MoltP2p
