import Clawbernetes.Library.Runs
import Clawbernetes.MoltP2p.Announcement
import Clawbernetes.MoltP2p.Diversity

/-!
# The connection pool

The pool of `connection.rs`: connections by peer id, with the diversity tracker of `diversity.rs`
that accepts or refuses their addresses. An addition that fails changes nothing, and in every state
of every run the pool is within its three limits (`within_limits_always`): the number of its
connections, those of one IPv4 /24 and those of one IPv6 /48. Several peers may share an IP address,
and the tracker forgets the address with the first of them that goes, so its counts may run ahead of
the pool. `Bounded` is the invariant: they never fall behind it.
-/

set_option autoImplicit false
set_option relaxedAutoImplicit false

namespace Clawbernetes.MoltP2p

open Library.FiniteTable Library.Addresses Library.Runs

/-! ### Connections -/

/-- `ConnectionState`. -/
inductive ConnectionState where
  | connecting
  | connected
  | disconnecting
  | disconnected
  | failed
  deriving DecidableEq

/-- `ConnectionState::is_terminal`. -/
def ConnectionState.isTerminal : ConnectionState → Bool
  | .disconnected | .failed => true
  | _ => false

/-- `PeerConnection`, without its health. -/
structure PeerConnection where
  peerId : PeerId
  remoteAddr : SocketAddr
  state : ConnectionState
  establishedAt : Option ℤ
  errorMessage : Option String
  deriving DecidableEq

namespace PeerConnection

/-- `PeerConnection::new`. -/
def new (peerId : PeerId) (remoteAddr : SocketAddr) : PeerConnection :=
  ⟨peerId, remoteAddr, .connecting, none, none⟩

/-- `PeerConnection::mark_connected`. -/
def markConnected (connection : PeerConnection) (now : ℤ) : PeerConnection :=
  { connection with state := .connected, establishedAt := some now, errorMessage := none }

/-- `PeerConnection::mark_disconnecting`. -/
def markDisconnecting (connection : PeerConnection) : PeerConnection :=
  if connection.state = .connected then { connection with state := .disconnecting } else connection

/-- `PeerConnection::mark_disconnected`. -/
def markDisconnected (connection : PeerConnection) : PeerConnection :=
  { connection with state := .disconnected }

/-- `PeerConnection::mark_failed`. -/
def markFailed (connection : PeerConnection) (error : String) : PeerConnection :=
  { connection with state := .failed, errorMessage := some error }

/-- The changes of state of a connection. -/
inductive Mark where
  | connected (now : ℤ)
  | disconnecting
  | disconnected
  | failed (error : String)

/-- One change of state. -/
def mark (connection : PeerConnection) : Mark → PeerConnection
  | .connected now => connection.markConnected now
  | .disconnecting => connection.markDisconnecting
  | .disconnected => connection.markDisconnected
  | .failed error => connection.markFailed error

/-- A change of state leaves the address alone. -/
@[simp] theorem remoteAddr_mark (connection : PeerConnection) (change : Mark) :
    (connection.mark change).remoteAddr = connection.remoteAddr := by
  cases change with
  | connected now => rfl
  | disconnecting =>
    show connection.markDisconnecting.remoteAddr = _
    unfold markDisconnecting
    split_ifs
    · rfl
    · rfl
  | disconnected => rfl
  | failed error => rfl

end PeerConnection

/-! ### The pool -/

/-- `ConnectionPoolConfig`, without its timeouts. -/
structure ConnectionPoolConfig where
  maxConnections : ℕ
  diversity : PeerDiversityConfig
  deriving DecidableEq

/-- The errors of the pool. -/
inductive PoolError where
  | connection (message : String)
  | diversityLimitExceeded (reason : String)
  | privateIpRejected
  deriving DecidableEq

/-- `ConnectionPool`. -/
structure ConnectionPool where
  config : ConnectionPoolConfig
  connections : Table PeerId PeerConnection
  diversityTracker : PeerDiversityTracker

namespace ConnectionPool

/-- `ConnectionPool::new`. -/
def new (config : ConnectionPoolConfig) : ConnectionPool :=
  ⟨config, ∅, .new config.diversity⟩

/-- `ConnectionPool::len`. -/
def len (pool : ConnectionPool) : ℕ := pool.connections.keys.length

/-- `ConnectionPool::is_full`. -/
def isFull (pool : ConnectionPool) : Bool := pool.config.maxConnections ≤ pool.len

/-- `ConnectionPool::add_connection_with_metadata`. The text of a peer id is its base58 encoding by
another crate. -/
def addConnectionWithMetadata (display : PeerId → String) (pool : ConnectionPool)
    (connection : PeerConnection) (asn : Option Asn) (geoRegion : Option GeoRegion) :
    ConnectionPool × Except PoolError Unit :=
  if pool.isFull then
    (pool, .error (.connection
      ("Connection pool is full (max: " ++ toString pool.config.maxConnections ++ ")")))
  else if (pool.connections.lookup connection.peerId).isSome then
    (pool, .error (.connection
      ("Connection to peer " ++ display connection.peerId ++ " already exists")))
  else
    let (tracker, result) :=
      pool.diversityTracker.checkAndAdd connection.remoteAddr.ip asn geoRegion
    let pool := { pool with diversityTracker := tracker }
    match result with
    | .accepted | .disabled =>
      ({ pool with connections := pool.connections.insert connection.peerId connection }, .ok ())
    | .rejectedPrivateIp => (pool, .error .privateIpRejected)
    | other =>
      match other.rejectionReason with
      | some reason => (pool, .error (.diversityLimitExceeded reason))
      | none => (pool, .error (.diversityLimitExceeded "unknown diversity constraint"))

/-- `ConnectionPool::add_connection`. -/
def addConnection (display : PeerId → String) (pool : ConnectionPool)
    (connection : PeerConnection) : ConnectionPool × Except PoolError Unit :=
  pool.addConnectionWithMetadata display connection none none

/-- `ConnectionPool::remove`. -/
def remove (pool : ConnectionPool) (peerId : PeerId) : ConnectionPool × Option PeerConnection :=
  match pool.connections.lookup peerId with
  | some connection =>
    ({ pool with
        connections := pool.connections.erase peerId
        diversityTracker := (pool.diversityTracker.remove connection.remoteAddr.ip).1 },
      some connection)
  | none => (pool, none)

/-- The peers of connections in a terminal state, with their addresses. -/
def toRemove (pool : ConnectionPool) : List (PeerId × IpAddr) :=
  (pool.connections.entries.filter fun entry ↦ entry.2.state.isTerminal).map
    fun entry ↦ (entry.1, entry.2.remoteAddr.ip)

/-- `ConnectionPool::cleanup_terminal`. -/
def cleanupTerminal (pool : ConnectionPool) : ConnectionPool × ℕ :=
  (pool.toRemove.foldl (fun pool gone ↦
      { pool with
        connections := pool.connections.erase gone.1
        diversityTracker := (pool.diversityTracker.remove gone.2).1 }) pool,
    pool.toRemove.length)

/-- A change of state of a connection, through `ConnectionPool::get_mut`. -/
def markConnection (pool : ConnectionPool) (peerId : PeerId) (change : PeerConnection.Mark) :
    ConnectionPool :=
  match pool.connections.lookup peerId with
  | some connection =>
    { pool with connections := pool.connections.replace peerId (connection.mark change) }
  | none => pool

end ConnectionPool

/-- The calls of the pool. -/
inductive PoolCall where
  | addConnection (connection : PeerConnection)
  | addConnectionWithMetadata (connection : PeerConnection) (asn : Option Asn)
      (geoRegion : Option GeoRegion)
  | remove (peerId : PeerId)
  | cleanupTerminal
  | markConnection (peerId : PeerId) (change : PeerConnection.Mark)

namespace ConnectionPool

/-- One call. Only an addition can fail. -/
def perform (display : PeerId → String) (pool : ConnectionPool) :
    PoolCall → ConnectionPool × Except PoolError Unit
  | .addConnection connection => pool.addConnection display connection
  | .addConnectionWithMetadata connection asn geoRegion =>
    pool.addConnectionWithMetadata display connection asn geoRegion
  | .remove peerId => ((pool.remove peerId).1, .ok ())
  | .cleanupTerminal => (pool.cleanupTerminal.1, .ok ())
  | .markConnection peerId change => (pool.markConnection peerId change, .ok ())

/-- The pool after a call. -/
def after (display : PeerId → String) (pool : ConnectionPool) (call : PoolCall) : ConnectionPool :=
  (pool.perform display call).1

variable {display : PeerId → String} {pool : ConnectionPool} {connection : PeerConnection}
  {asn : Option Asn} {geoRegion : Option GeoRegion} {peerId : PeerId}

/-- An addition fails and changes nothing, or the pool had room, did not know the peer, and the
address was accepted. -/
theorem addConnectionWithMetadata_cases (display : PeerId → String) (pool : ConnectionPool)
    (connection : PeerConnection) (asn : Option Asn) (geoRegion : Option GeoRegion) :
    ((pool.addConnectionWithMetadata display connection asn geoRegion).1 = pool ∧
      ∃ error, (pool.addConnectionWithMetadata display connection asn geoRegion).2 =
        .error error) ∨
    (pool.len < pool.config.maxConnections ∧
      pool.connections.lookup connection.peerId = none ∧
      (pool.diversityTracker.check connection.remoteAddr.ip asn).isAccepted = true ∧
      pool.addConnectionWithMetadata display connection asn geoRegion =
        ({ config := pool.config
           connections := pool.connections.insert connection.peerId connection
           diversityTracker :=
            (pool.diversityTracker.checkAndAdd connection.remoteAddr.ip asn geoRegion).1 },
          .ok ())) := by
  unfold addConnectionWithMetadata
  by_cases hfull : pool.isFull = true
  · rw [if_pos hfull]
    exact Or.inl ⟨rfl, _, rfl⟩
  rw [if_neg hfull]
  by_cases hknown : (pool.connections.lookup connection.peerId).isSome = true
  · rw [if_pos hknown]
    exact Or.inl ⟨rfl, _, rfl⟩
  rw [if_neg hknown]
  have hroom : pool.len < pool.config.maxConnections := by
    simpa [isFull] using hfull
  have habsent : pool.connections.lookup connection.peerId = none := by
    simpa using hknown
  by_cases haccepted :
      (pool.diversityTracker.check connection.remoteAddr.ip asn).isAccepted = true
  · refine Or.inr ⟨hroom, habsent, haccepted, ?_⟩
    have hresult :
        (pool.diversityTracker.checkAndAdd connection.remoteAddr.ip asn geoRegion).2 =
          pool.diversityTracker.check connection.remoteAddr.ip asn :=
      PeerDiversityTracker.checkAndAdd_result
    rcases hadd : pool.diversityTracker.checkAndAdd connection.remoteAddr.ip asn geoRegion with
      ⟨tracker, result⟩
    rw [hadd] at hresult
    rw [← hresult] at haccepted
    cases result <;> first | rfl | cases haccepted
  · rw [Bool.not_eq_true] at haccepted
    rw [PeerDiversityTracker.checkAndAdd_of_rejected haccepted]
    cases hresult : pool.diversityTracker.check connection.remoteAddr.ip asn with
    | accepted => simp [hresult, DiversityResult.isAccepted] at haccepted
    | disabled => simp [hresult, DiversityResult.isAccepted] at haccepted
    | rejectedPrivateIp => exact Or.inl ⟨rfl, _, rfl⟩
    | rejectedSubnetLimit subnet current limit => exact Or.inl ⟨rfl, _, rfl⟩
    | rejectedPrefixLimit block current limit => exact Or.inl ⟨rfl, _, rfl⟩
    | rejectedAsnLimit number current limit => exact Or.inl ⟨rfl, _, rfl⟩

/-- The connections after a removal. -/
theorem connections_remove :
    (pool.remove peerId).1.connections = pool.connections.erase peerId := by
  unfold remove
  cases hlookup : pool.connections.lookup peerId with
  | none => exact (erase_of_lookup_none hlookup).symm
  | some connection => rfl

/-- The removal of a pooled connection removes its address from the tracker. -/
theorem remove_of_some (hlookup : pool.connections.lookup peerId = some connection) :
    pool.remove peerId =
      ({ pool with
          connections := pool.connections.erase peerId
          diversityTracker := (pool.diversityTracker.remove connection.remoteAddr.ip).1 },
        some connection) := by
  unfold remove
  rw [hlookup]

/-- Removing an unknown peer changes nothing. -/
theorem remove_of_none (hlookup : pool.connections.lookup peerId = none) :
    pool.remove peerId = (pool, none) := by
  unfold remove
  rw [hlookup]

/-- The peers of connections in a terminal state. -/
def terminalPeers (pool : ConnectionPool) : List PeerId := pool.toRemove.map Prod.fst

/-- Removing several peers one by one. -/
def removeAll (pool : ConnectionPool) (peerIds : List PeerId) : ConnectionPool :=
  peerIds.foldl (fun pool peerId ↦ (pool.remove peerId).1) pool

/-- The peers of the connections that are cleaned up are different. -/
theorem nodup_terminalPeers (pool : ConnectionPool) : pool.terminalPeers.Nodup := by
  have hsublist : pool.terminalPeers.Sublist pool.connections.keys := by
    unfold terminalPeers toRemove
    rw [List.map_map]
    exact List.filter_sublist.map Sigma.fst
  exact hsublist.nodup pool.connections.keys_nodup

/-- The clean-up removes the peers of the connections in a terminal state one by one. -/
theorem cleanupTerminal_eq_removeAll :
    pool.cleanupTerminal.1 = pool.removeAll pool.terminalPeers := by
  -- the addresses were collected before the first removal, and no removal changes another peer's
  have hfold : ∀ (gone : List (PeerId × IpAddr)) (pool : ConnectionPool),
      (gone.map Prod.fst).Nodup →
      (∀ entry ∈ gone, ∃ connection, pool.connections.lookup entry.1 = some connection ∧
        connection.remoteAddr.ip = entry.2) →
      gone.foldl (fun pool gone ↦
        { pool with
          connections := pool.connections.erase gone.1
          diversityTracker := (pool.diversityTracker.remove gone.2).1 }) pool =
        pool.removeAll (gone.map Prod.fst) := by
    intro gone
    induction gone with
    | nil => intro _ _ _; rfl
    | cons entry rest ih =>
      intro pool hnodup hpooled
      rw [List.map_cons, List.nodup_cons] at hnodup
      obtain ⟨connection, hlookup, hip⟩ := hpooled entry List.mem_cons_self
      have hfirst : (pool.remove entry.1).1 =
          { pool with
            connections := pool.connections.erase entry.1
            diversityTracker := (pool.diversityTracker.remove entry.2).1 } := by
        rw [remove_of_some hlookup, hip]
      rw [List.foldl_cons, List.map_cons, removeAll, List.foldl_cons, ← hfirst]
      refine ih _ hnodup.2 ?_
      intro other hother
      obtain ⟨kept, hkept, hkeptIp⟩ := hpooled other (List.mem_cons_of_mem entry hother)
      refine ⟨kept, ?_, hkeptIp⟩
      have hne : other.1 ≠ entry.1 := by
        intro hsame
        rw [← hsame] at hnodup
        exact hnodup.1 (List.mem_map_of_mem hother)
      rw [connections_remove, AList.lookup_erase_ne hne, hkept]
  refine hfold pool.toRemove pool (nodup_terminalPeers pool) ?_
  intro entry hentry
  unfold toRemove at hentry
  obtain ⟨stored, hstored, rfl⟩ := List.mem_map.mp hentry
  exact ⟨stored.2, AList.mem_lookup_iff.mpr (List.mem_filter.mp hstored).1, rfl⟩

/-- What every removal of a peer preserves, a sequence of removals preserves. -/
theorem removeAll_induction {good : ConnectionPool → Prop}
    (hstep : ∀ pool peerId, good pool → good (pool.remove peerId).1) (peerIds : List PeerId) :
    ∀ {pool : ConnectionPool}, good pool → good (pool.removeAll peerIds) := by
  induction peerIds with
  | nil => exact fun hgood ↦ hgood
  | cons peerId rest ih => exact fun hgood ↦ ih (hstep _ peerId hgood)

/-! ### The limits -/

/-- The number of connections to addresses that pass a test. -/
def connectionsWhere (test : IpAddr → Bool) (connections : Table PeerId PeerConnection) : ℕ :=
  total (fun connection ↦ (test connection.remoteAddr.ip).toNat) connections

/-- A new connection is one more where its address passes the test. -/
theorem connectionsWhere_insert (test : IpAddr → Bool) {connections : Table PeerId PeerConnection}
    (habsent : connections.lookup peerId = none) (connection : PeerConnection) :
    connectionsWhere test (connections.insert peerId connection) =
      connectionsWhere test connections + (test connection.remoteAddr.ip).toNat :=
  total_insert_of_none _ habsent connection

/-- A pooled connection is one more than there are without it, where its address passes the
test. -/
theorem connectionsWhere_erase (test : IpAddr → Bool) {connections : Table PeerId PeerConnection}
    (hlookup : connections.lookup peerId = some connection) :
    connectionsWhere test connections =
      (test connection.remoteAddr.ip).toNat + connectionsWhere test (connections.erase peerId) :=
  total_of_lookup _ hlookup

/-- A change of state does not change the addresses. -/
theorem connectionsWhere_replace (test : IpAddr → Bool)
    {connections : Table PeerId PeerConnection}
    (hlookup : connections.lookup peerId = some connection) (change : PeerConnection.Mark) :
    connectionsWhere test (connections.replace peerId (connection.mark change)) =
      connectionsWhere test connections := by
  have hreplace := total_replace
    (fun connection : PeerConnection ↦ (test connection.remoteAddr.ip).toNat) hlookup
      (connection.mark change)
  rw [PeerConnection.remoteAddr_mark] at hreplace
  exact Nat.add_right_cancel hreplace

/-- The address is in the /24 of an IPv4 address. -/
def inIpv4Subnet (network : Ipv4Addr) : IpAddr → Bool
  | .v4 address => network.SamePrefix 24 address
  | .v6 _ => false

/-- The address is in the /48 of an IPv6 address. -/
def inIpv6Prefix (network : Ipv6Addr) : IpAddr → Bool
  | .v4 _ => false
  | .v6 address => network.SamePrefix 48 address

/-- The pool is within its limits: on all its connections, on those of one IPv4 /24 and on those of
one IPv6 /48. -/
def WithinLimits (pool : ConnectionPool) : Prop :=
  pool.len ≤ pool.config.maxConnections ∧
  (∀ network, connectionsWhere (inIpv4Subnet network) pool.connections ≤
    pool.config.diversity.maxPerIpv4Subnet) ∧
  ∀ network, connectionsWhere (inIpv6Prefix network) pool.connections ≤
    pool.config.diversity.maxPerIpv6Prefix

/-- The address is in the subnet or the prefix of another. -/
def inNetworkOf (address ip : IpAddr) : Bool :=
  PeerDiversityTracker.networkOf ip = PeerDiversityTracker.networkOf address

/-- The counts of the tracker are within the limits and do not fall behind the pool. -/
structure Bounded (config : ConnectionPoolConfig) (pool : ConnectionPool) : Prop where
  config_eq : pool.config = config
  tracker_config_eq : pool.diversityTracker.config = config.diversity
  covered : pool.diversityTracker.Covered
  len_le : pool.len ≤ config.maxConnections
  connections_le : ∀ address, connectionsWhere (inNetworkOf address) pool.connections ≤
    pool.diversityTracker.countIn (PeerDiversityTracker.networkOf address)
  count_le : ∀ address, pool.diversityTracker.countIn (PeerDiversityTracker.networkOf address) ≤
    PeerDiversityTracker.networkLimit config.diversity address

open PeerDiversityTracker

variable {config : ConnectionPoolConfig}

/-- A new pool is empty. -/
theorem bounded_new (config : ConnectionPoolConfig) : Bounded config (new config) where
  config_eq := rfl
  tracker_config_eq := rfl
  covered := covered_new config.diversity
  len_le := Nat.zero_le _
  connections_le := fun _ ↦ Nat.zero_le _
  count_le := fun address ↦ by cases address <;> exact Nat.zero_le _

/-- An addition keeps the bounds. -/
theorem Bounded.addConnectionWithMetadata (hbounded : Bounded config pool)
    (henabled : config.diversity.enabled = true) (display : PeerId → String)
    (connection : PeerConnection) (asn : Option Asn) (geoRegion : Option GeoRegion) :
    Bounded config (pool.addConnectionWithMetadata display connection asn geoRegion).1 := by
  obtain ⟨hsame, _⟩ | ⟨hroom, habsent, haccepted, hadded⟩ :=
    addConnectionWithMetadata_cases display pool connection asn geoRegion
  · rw [hsame]
    exact hbounded
  · rw [hadded]
    have hon : pool.diversityTracker.config.enabled = true := by
      rw [hbounded.tracker_config_eq, henabled]
    have hbelow := countIn_lt_of_isAccepted hon haccepted
    rw [hbounded.tracker_config_eq] at hbelow
    have hcount : ∀ address, (pool.diversityTracker.addPeerInternal connection.remoteAddr.ip asn
        geoRegion).countIn (networkOf address) =
          pool.diversityTracker.countIn (networkOf address) +
            (inNetworkOf address connection.remoteAddr.ip).toNat := by
      intro address
      rw [countIn_addPeerInternal, inGroup_networkOf]
      rfl
    simp only [checkAndAdd_of_accepted hon haccepted]
    refine ⟨hbounded.config_eq, hbounded.tracker_config_eq, hbounded.covered.addPeerInternal,
      ?_, ?_, ?_⟩
    · rw [hbounded.config_eq] at hroom
      have hlen : ConnectionPool.len ⟨pool.config,
          pool.connections.insert connection.peerId connection,
          pool.diversityTracker.addPeerInternal connection.remoteAddr.ip asn geoRegion⟩ =
            pool.len + 1 := by
        unfold len
        rw [AList.keys_insert, List.length_cons, List.erase_of_not_mem
          (AList.lookup_eq_none.mp habsent)]
      rw [hlen]
      exact hroom
    · intro address
      have hbefore := hbounded.connections_le address
      rw [hcount, connectionsWhere_insert _ habsent]
      exact Nat.add_le_add_right hbefore _
    · intro address
      have hbefore := hbounded.count_le address
      rw [hcount]
      by_cases hnetwork : networkOf connection.remoteAddr.ip = networkOf address
      · rw [← hnetwork, ← networkLimit_congr config.diversity hnetwork]
        simpa [inNetworkOf, hnetwork, Nat.succ_le_iff] using hbelow
      · simpa [inNetworkOf, hnetwork] using hbefore

/-- A removal keeps the bounds. -/
theorem Bounded.remove (hbounded : Bounded config pool) (peerId : PeerId) :
    Bounded config (pool.remove peerId).1 := by
  cases hlookup : pool.connections.lookup peerId with
  | none =>
    rw [remove_of_none hlookup]
    exact hbounded
  | some connection =>
    rw [remove_of_some hlookup]
    refine ⟨hbounded.config_eq, ?_, hbounded.covered.remove, ?_, ?_, ?_⟩
    · exact config_remove.trans hbounded.tracker_config_eq
    · refine Nat.le_trans ?_ hbounded.len_le
      show (pool.connections.erase peerId).keys.length ≤ pool.connections.keys.length
      rw [AList.keys_erase]
      exact List.length_erase_le
    · intro address
      have hbefore := hbounded.connections_le address
      rw [connectionsWhere_erase _ hlookup] at hbefore
      show connectionsWhere (inNetworkOf address) (pool.connections.erase peerId) ≤
        (pool.diversityTracker.remove connection.remoteAddr.ip).1.countIn (networkOf address)
      cases htracked : pool.diversityTracker.trackedPeers.lookup connection.remoteAddr.ip with
      | none =>
        rw [PeerDiversityTracker.remove_of_none htracked]
        exact (Nat.le_add_left _ _).trans hbefore
      | some info =>
        -- the entry is filed under the address, so it is counted in the same network
        have hip := hbounded.covered.keyed _ _ htracked
        rw [countIn_remove htracked, inGroup_networkOf, hip]
        exact Nat.le_sub_of_add_le' hbefore
    · intro address
      refine Nat.le_trans ?_ (hbounded.count_le address)
      cases htracked : pool.diversityTracker.trackedPeers.lookup connection.remoteAddr.ip with
      | none =>
        rw [PeerDiversityTracker.remove_of_none htracked]
      | some info =>
        rw [countIn_remove htracked]
        exact Nat.sub_le _ _

/-- A change of state keeps the bounds. -/
theorem Bounded.markConnection (hbounded : Bounded config pool) (peerId : PeerId)
    (change : PeerConnection.Mark) : Bounded config (pool.markConnection peerId change) := by
  unfold ConnectionPool.markConnection
  cases hlookup : pool.connections.lookup peerId with
  | none => exact hbounded
  | some connection =>
    refine ⟨hbounded.config_eq, hbounded.tracker_config_eq, hbounded.covered, ?_, ?_,
      hbounded.count_le⟩
    · refine Nat.le_trans (Nat.le_of_eq ?_) hbounded.len_le
      show (pool.connections.replace peerId (connection.mark change)).keys.length = _
      rw [AList.keys_replace]
      rfl
    · intro address
      refine Nat.le_trans (Nat.le_of_eq ?_) (hbounded.connections_le address)
      exact connectionsWhere_replace _ hlookup change

/-- Every call keeps the bounds. -/
theorem Bounded.after (hbounded : Bounded config pool)
    (henabled : config.diversity.enabled = true) (display : PeerId → String) (call : PoolCall) :
    Bounded config (pool.after display call) := by
  cases call with
  | addConnection connection =>
    exact hbounded.addConnectionWithMetadata henabled display connection none none
  | addConnectionWithMetadata connection asn geoRegion =>
    exact hbounded.addConnectionWithMetadata henabled display connection asn geoRegion
  | remove peerId => exact hbounded.remove peerId
  | cleanupTerminal =>
    show Bounded config pool.cleanupTerminal.1
    rw [cleanupTerminal_eq_removeAll]
    exact removeAll_induction (fun _ peerId hgood ↦ hgood.remove peerId) _ hbounded
  | markConnection peerId change => exact hbounded.markConnection peerId change

/-- The bounds are the limits. -/
theorem Bounded.withinLimits (hbounded : Bounded config pool) : pool.WithinLimits := by
  have hnetwork : ∀ address, connectionsWhere (inNetworkOf address) pool.connections ≤
      networkLimit pool.config.diversity address := by
    intro address
    rw [hbounded.config_eq]
    exact (hbounded.connections_le address).trans (hbounded.count_le address)
  refine ⟨?_, ?_, ?_⟩
  · rw [hbounded.config_eq]
    exact hbounded.len_le
  · intro network
    have htest : inIpv4Subnet network = inNetworkOf (.v4 network) := by
      ext ip
      cases ip with
      | v4 address =>
        simp [inIpv4Subnet, inNetworkOf, networkOf, ← Ipv4Subnet.fromAddr_eq_iff, eq_comm]
      | v6 address => simp [inIpv4Subnet, inNetworkOf, networkOf]
    rw [htest]
    exact hnetwork (.v4 network)
  · intro network
    have htest : inIpv6Prefix network = inNetworkOf (.v6 network) := by
      ext ip
      cases ip with
      | v4 address => simp [inIpv6Prefix, inNetworkOf, networkOf]
      | v6 address =>
        simp [inIpv6Prefix, inNetworkOf, networkOf, ← Ipv6Prefix.fromAddr_eq_iff, eq_comm]
    rw [htest]
    exact hnetwork (.v6 network)

/-- A call that fails changes nothing. -/
theorem after_of_error {call : PoolCall} {error : PoolError}
    (hfailed : (pool.perform display call).2 = .error error) : pool.after display call = pool := by
  have hadd : ∀ connection asn geoRegion,
      (pool.addConnectionWithMetadata display connection asn geoRegion).2 = .error error →
      (pool.addConnectionWithMetadata display connection asn geoRegion).1 = pool := by
    intro connection asn geoRegion hadd
    obtain ⟨hsame, _⟩ | ⟨_, _, _, hadded⟩ :=
      addConnectionWithMetadata_cases display pool connection asn geoRegion
    · exact hsame
    · rw [hadded] at hadd
      cases hadd
  cases call with
  | addConnection connection => exact hadd connection none none hfailed
  | addConnectionWithMetadata connection asn geoRegion =>
    exact hadd connection asn geoRegion hfailed
  | remove peerId => cases hfailed
  | cleanupTerminal => cases hfailed
  | markConnection peerId change => cases hfailed

/-- In every state of every run of a pool with diversity the pool is within its limits, and a call
that fails changes neither the connections nor the tracker. -/
theorem within_limits_always (display : PeerId → String) (config : ConnectionPoolConfig)
    (henabled : config.diversity.enabled = true) (calls : List PoolCall) :
    Always (ConnectionPool.after display) WithinLimits (ConnectionPool.new config) calls ∧
    Throughout (ConnectionPool.after display)
      (fun pool call ↦ ∀ error, (pool.perform display call).2 = .error error →
        pool.after display call = pool) (ConnectionPool.new config) calls := by
  constructor
  · have hbounded : Always (ConnectionPool.after display) (Bounded config)
        (ConnectionPool.new config) calls :=
      always_of_step (bounded_new config)
        (fun _ call hbounded ↦ hbounded.after henabled display call) calls
    exact fun done hdone ↦ (hbounded done hdone).withinLimits
  · exact fun _ _ _ _ hfailed ↦ after_of_error hfailed

/-- A connection of a peer at an address of a test network. -/
def exampleConnection (peer host : UInt8) : PeerConnection :=
  .new (.ofByte peer) ⟨.v4 ⟨203, 0, 113, host⟩, 9000⟩

/-- The third connection of a /24 is refused, and nothing changes. -/
theorem within_limits_always_exampleConnection :
    Always (ConnectionPool.after fun _ ↦ "peer") WithinLimits
      (ConnectionPool.new ⟨100, .default⟩)
        [.addConnection (exampleConnection 1 7), .addConnection (exampleConnection 2 7),
          .addConnection (exampleConnection 3 8)] ∧
    Throughout (ConnectionPool.after fun _ ↦ "peer")
      (fun pool call ↦ ∀ error, (pool.perform (fun _ ↦ "peer") call).2 = .error error →
        pool.after (fun _ ↦ "peer") call = pool) (ConnectionPool.new ⟨100, .default⟩)
        [.addConnection (exampleConnection 1 7), .addConnection (exampleConnection 2 7),
          .addConnection (exampleConnection 3 8)] :=
  within_limits_always (fun _ ↦ "peer") ⟨100, .default⟩ rfl _

end ConnectionPool

end Clawbernetes.MoltP2p
