import Clawbernetes.MoltP2p.ConnectionPool

/-!
# What removals free in the diversity tracker

The tracker is meant to count the connections of the pool by subnet, prefix, autonomous system and
region. It keeps what it was told of a peer under the peer's IP address, so peers that share an
address share one entry, the one of the last of them. The first of them that is removed takes the
entry with it, whatever it was itself added with, and the others then free nothing.

`AuditedPool` keeps beside the pool what each pooled connection was added with. The counts are exact
in every state of a run if and only if every removal of the run meets `FreesExactly`
(`counts_exact_iff_frees_exactly`): the addresses it removes are different and have entries, and the
entries carry each autonomous system and region as often as the removed connections do.
`shared_address_frees_nothing` is a run of two peers behind one address.
-/

set_option autoImplicit false
set_option relaxedAutoImplicit false

namespace Clawbernetes.MoltP2p

open Library.FiniteTable Library.Addresses Library.Runs

namespace PeerDiversityTracker

/-! ### Removing several addresses -/

/-- Removing several addresses one by one. -/
def removeAll (tracker : PeerDiversityTracker) (ips : List IpAddr) : PeerDiversityTracker :=
  ips.foldl (fun tracker ip ↦ (tracker.remove ip).1) tracker

/-- The entries that several removals take. -/
def freed (tracker : PeerDiversityTracker) : List IpAddr → List PeerDiversityInfo
  | [] => []
  | ip :: rest => (tracker.trackedPeers.lookup ip).toList ++ freed (tracker.remove ip).1 rest

/-- The entry of an address after the removal of another. -/
theorem lookup_remove_of_ne {tracker : PeerDiversityTracker} {ip other : IpAddr}
    (hother : other ≠ ip) : (tracker.remove ip).1.trackedPeers.lookup other =
      tracker.trackedPeers.lookup other := by
  rw [trackedPeers_remove, AList.lookup_erase_ne hother]

/-- What the removals count down are the groups of the entries they take. -/
theorem countIn_removeAll_add (group : DiversityGroup) :
    ∀ (ips : List IpAddr) (tracker : PeerDiversityTracker), tracker.Covered →
      (tracker.removeAll ips).countIn group +
        ((tracker.freed ips).countP fun info ↦ info.inGroup group) = tracker.countIn group := by
  intro ips
  induction ips with
  | nil => intro _ _; rfl
  | cons ip rest ih =>
    intro tracker hcovered
    have hrest := ih (tracker.remove ip).1 hcovered.remove
    rw [freed, List.countP_append]
    cases hlookup : tracker.trackedPeers.lookup ip with
    | none =>
      rw [remove_of_none hlookup] at hrest ⊢
      simpa [removeAll, remove_of_none hlookup] using hrest
    | some info =>
      have hfirst := hcovered.countIn_remove_add hlookup group
      have hsingle : ((some info).toList.countP fun info ↦ info.inGroup group) =
          (info.inGroup group).toNat := by
        cases hgroup : info.inGroup group <;> simp [hgroup]
      rw [hsingle, ← hfirst, ← hrest]
      show (removeAll (tracker.remove ip).1 rest).countIn group + _ = _
      omega

/-- Removals take at most one entry each. -/
theorem length_freed_le : ∀ (ips : List IpAddr) (tracker : PeerDiversityTracker),
    (tracker.freed ips).length ≤ ips.length := by
  intro ips
  induction ips with
  | nil => intro _; exact Nat.le_refl 0
  | cons ip rest ih =>
    intro tracker
    have hrest := ih (tracker.remove ip).1
    rw [freed, List.length_append, List.length_cons]
    cases tracker.trackedPeers.lookup ip with
    | none => simp only [Option.toList_none, List.length_nil]; omega
    | some info => simp only [Option.toList_some, List.length_singleton]; omega

/-- Removals of different addresses take the entries of those that have one. -/
theorem freed_eq_filterMap : ∀ {ips : List IpAddr} {tracker : PeerDiversityTracker},
    ips.Nodup → tracker.freed ips = ips.filterMap fun ip ↦ tracker.trackedPeers.lookup ip := by
  intro ips
  induction ips with
  | nil => intro _ _; rfl
  | cons ip rest ih =>
    intro tracker hnodup
    rw [List.nodup_cons] at hnodup
    have hrest : (rest.filterMap fun other ↦ (tracker.remove ip).1.trackedPeers.lookup other) =
        rest.filterMap fun other ↦ tracker.trackedPeers.lookup other := by
      apply List.filterMap_congr
      intro other hother
      exact lookup_remove_of_ne fun hsame ↦ hnodup.1 (hsame ▸ hother)
    rw [freed, ih hnodup.2, hrest, List.filterMap_cons]
    cases tracker.trackedPeers.lookup ip with
    | none => rfl
    | some info => rfl

/-- An address has no entry after its own removal, and the others keep theirs. -/
theorem isSome_lookup_remove_iff {tracker : PeerDiversityTracker} {ip : IpAddr}
    {ips : List IpAddr} :
    (∀ other ∈ ips, ((tracker.remove ip).1.trackedPeers.lookup other).isSome) ↔
      ip ∉ ips ∧ ∀ other ∈ ips, (tracker.trackedPeers.lookup other).isSome := by
  constructor
  · intro hall
    have habsent : ip ∉ ips := by
      intro hip
      have hsome := hall ip hip
      rw [trackedPeers_remove, AList.lookup_erase] at hsome
      cases hsome
    refine ⟨habsent, fun other hother ↦ ?_⟩
    have hne : other ≠ ip := fun hsame ↦ habsent (hsame ▸ hother)
    rw [← lookup_remove_of_ne hne]
    exact hall other hother
  · rintro ⟨habsent, hall⟩ other hother
    have hne : other ≠ ip := fun hsame ↦ habsent (hsame ▸ hother)
    rw [lookup_remove_of_ne hne]
    exact hall other hother

/-- Every removal takes an entry exactly when the addresses are different and all have one. -/
theorem length_freed_eq_iff : ∀ (ips : List IpAddr) (tracker : PeerDiversityTracker),
    (tracker.freed ips).length = ips.length ↔
      ips.Nodup ∧ ∀ ip ∈ ips, (tracker.trackedPeers.lookup ip).isSome := by
  intro ips
  induction ips with
  | nil => intro _; simp [freed]
  | cons ip rest ih =>
    intro tracker
    have hrest := ih (tracker.remove ip).1
    have hle := length_freed_le rest (tracker.remove ip).1
    rw [isSome_lookup_remove_iff] at hrest
    rw [freed, List.length_append, List.length_cons, List.nodup_cons, List.forall_mem_cons]
    cases tracker.trackedPeers.lookup ip with
    | none =>
      simp only [Option.toList_none, List.length_nil, Option.isSome_none, Bool.false_eq_true,
        false_and, and_false, iff_false]
      omega
    | some info =>
      simp only [Option.toList_some, List.length_singleton, Option.isSome_some, true_and]
      rw [Nat.add_comm 1, Nat.add_right_cancel_iff, hrest]
      tauto

/-- A peer belongs to a subnet or prefix when it is the one of its address. -/
theorem countP_inGroup_eq_count {group : DiversityGroup}
    (hgroup : ∀ info : PeerDiversityInfo, info.inGroup group = decide (networkOf info.ip = group))
    (infos : List PeerDiversityInfo) :
    (infos.countP fun info ↦ info.inGroup group) =
      (infos.map fun info ↦ networkOf info.ip).count group := by
  rw [List.count_eq_countP, List.countP_map]
  apply List.countP_congr
  intro info _
  simp [hgroup]

/-- The members of a subnet. -/
theorem inGroup_ipv4Subnet (subnet : Ipv4Subnet) (info : PeerDiversityInfo) :
    info.inGroup (.ipv4Subnet subnet) = decide (networkOf info.ip = .ipv4Subnet subnet) := by
  obtain ⟨ip, asn, geoRegion⟩ := info
  cases ip <;> simp [networkOf, PeerDiversityInfo.inGroup, eq_comm]

/-- The members of a prefix. -/
theorem inGroup_ipv6Prefix (block : Ipv6Prefix) (info : PeerDiversityInfo) :
    info.inGroup (.ipv6Prefix block) = decide (networkOf info.ip = .ipv6Prefix block) := by
  obtain ⟨ip, asn, geoRegion⟩ := info
  cases ip <;> simp [networkOf, PeerDiversityInfo.inGroup, eq_comm]

/-- No address is in an autonomous system by itself. -/
theorem count_networkOf_eq_zero {group : DiversityGroup}
    (hgroup : ∀ ip, networkOf ip ≠ group) (infos : List PeerDiversityInfo) :
    (infos.map fun info ↦ networkOf info.ip).count group = 0 := by
  rw [List.count_eq_zero]
  intro hmem
  obtain ⟨info, _, hsame⟩ := List.mem_map.mp hmem
  exact hgroup info.ip hsame

/-- Peers that are the same number in every group are the same number. -/
theorem length_eq_of_countP_inGroup {infos others : List PeerDiversityInfo}
    (hcount : ∀ group, (infos.countP fun info ↦ info.inGroup group) =
      others.countP fun info ↦ info.inGroup group) : infos.length = others.length := by
  have hperm : (infos.map fun info ↦ networkOf info.ip).Perm
      (others.map fun info ↦ networkOf info.ip) := by
    rw [List.perm_iff_count]
    intro group
    cases group with
    | ipv4Subnet subnet =>
      rw [← countP_inGroup_eq_count (inGroup_ipv4Subnet subnet),
        ← countP_inGroup_eq_count (inGroup_ipv4Subnet subnet), hcount]
    | ipv6Prefix block =>
      rw [← countP_inGroup_eq_count (inGroup_ipv6Prefix block),
        ← countP_inGroup_eq_count (inGroup_ipv6Prefix block), hcount]
    | asn number =>
      have hnever : ∀ ip, networkOf ip ≠ .asn number := by
        intro ip
        cases ip <;> exact DiversityGroup.noConfusion
      rw [count_networkOf_eq_zero hnever, count_networkOf_eq_zero hnever]
    | geoRegion region =>
      have hnever : ∀ ip, networkOf ip ≠ .geoRegion region := by
        intro ip
        cases ip <;> exact DiversityGroup.noConfusion
      rw [count_networkOf_eq_zero hnever, count_networkOf_eq_zero hnever]
  simpa using hperm.length_eq

/-- The number of peers of an autonomous system. -/
theorem countP_inGroup_asn (number : Asn) (infos : List PeerDiversityInfo) :
    (infos.countP fun info ↦ info.inGroup (.asn number)) =
      (infos.filterMap fun info ↦ info.asn).count number := by
  rw [List.count_filterMap]
  apply List.countP_congr
  intro info _
  simp [PeerDiversityInfo.inGroup]

/-- The number of peers of a region. -/
theorem countP_inGroup_geoRegion (region : GeoRegion) (infos : List PeerDiversityInfo) :
    (infos.countP fun info ↦ info.inGroup (.geoRegion region)) =
      (infos.filterMap fun info ↦ info.geoRegion).count region := by
  rw [List.count_filterMap]
  apply List.countP_congr
  intro info _
  simp [PeerDiversityInfo.inGroup]

/-- The entries kept for the addresses of several peers. -/
def entriesFor (tracker : PeerDiversityTracker) (removed : List PeerDiversityInfo) :
    List PeerDiversityInfo :=
  removed.filterMap fun info ↦ tracker.trackedPeers.lookup info.ip

/-- Removing the addresses of these peers frees what they were added with: the addresses are
different and all have entries, and the entries carry the same autonomous systems and regions as the
peers, up to order. -/
def FreesExactly (tracker : PeerDiversityTracker) (removed : List PeerDiversityInfo) : Prop :=
  (removed.map fun info ↦ info.ip).Nodup ∧
  (∀ info ∈ removed, (tracker.trackedPeers.lookup info.ip).isSome = true) ∧
  ((tracker.entriesFor removed).filterMap fun info ↦ info.asn).Perm
    (removed.filterMap fun info ↦ info.asn) ∧
  ((tracker.entriesFor removed).filterMap fun info ↦ info.geoRegion).Perm
    (removed.filterMap fun info ↦ info.geoRegion)

instance (tracker : PeerDiversityTracker) (removed : List PeerDiversityInfo) :
    Decidable (tracker.FreesExactly removed) := inferInstanceAs (Decidable (_ ∧ _))

/-- When every address has an entry, the entries have the same addresses. -/
theorem map_ip_entriesFor {tracker : PeerDiversityTracker} (hcovered : tracker.Covered) :
    ∀ {removed : List PeerDiversityInfo},
      (∀ info ∈ removed, (tracker.trackedPeers.lookup info.ip).isSome = true) →
      ((tracker.entriesFor removed).map fun info ↦ info.ip) = removed.map fun info ↦ info.ip := by
  intro removed
  induction removed with
  | nil => intro _; rfl
  | cons info rest ih =>
    intro htracked
    rw [List.forall_mem_cons] at htracked
    obtain ⟨entry, hentry⟩ := Option.isSome_iff_exists.mp htracked.1
    have hrest := ih htracked.2
    unfold entriesFor at hrest ⊢
    rw [List.filterMap_cons, hentry, List.map_cons, List.map_cons, hrest,
      hcovered.keyed _ _ hentry]

/-- The removals free as much of every group as the peers were added with exactly when they free
exactly. -/
theorem countP_freed_eq_iff {tracker : PeerDiversityTracker} (hcovered : tracker.Covered)
    (removed : List PeerDiversityInfo) :
    (∀ group, ((tracker.freed (removed.map fun info ↦ info.ip)).countP
        fun info ↦ info.inGroup group) = removed.countP fun info ↦ info.inGroup group) ↔
      tracker.FreesExactly removed := by
  have hfreed : (removed.map fun info ↦ info.ip).Nodup →
      tracker.freed (removed.map fun info ↦ info.ip) = tracker.entriesFor removed := by
    intro hnodup
    rw [freed_eq_filterMap hnodup, List.filterMap_map]
    rfl
  constructor
  · intro hcount
    have hlength := length_eq_of_countP_inGroup hcount
    obtain ⟨hnodup, htracked⟩ := (length_freed_eq_iff _ tracker).mp
      (hlength.trans (by rw [List.length_map]))
    rw [hfreed hnodup] at hcount
    refine ⟨hnodup, ?_, ?_, ?_⟩
    · intro info hinfo
      exact htracked info.ip (List.mem_map_of_mem hinfo)
    · rw [List.perm_iff_count]
      intro number
      rw [← countP_inGroup_asn, ← countP_inGroup_asn, hcount]
    · rw [List.perm_iff_count]
      intro region
      rw [← countP_inGroup_geoRegion, ← countP_inGroup_geoRegion, hcount]
  · rintro ⟨hnodup, htracked, hasns, hregions⟩ group
    have hnetworks : ((tracker.entriesFor removed).map fun info ↦ networkOf info.ip) =
        removed.map fun info ↦ networkOf info.ip := by
      have hips := congrArg (List.map networkOf) (map_ip_entriesFor hcovered htracked)
      simpa only [List.map_map, Function.comp_def] using hips
    rw [hfreed hnodup]
    cases group with
    | ipv4Subnet subnet =>
      rw [countP_inGroup_eq_count (inGroup_ipv4Subnet subnet),
        countP_inGroup_eq_count (inGroup_ipv4Subnet subnet), hnetworks]
    | ipv6Prefix block =>
      rw [countP_inGroup_eq_count (inGroup_ipv6Prefix block),
        countP_inGroup_eq_count (inGroup_ipv6Prefix block), hnetworks]
    | asn number => rw [countP_inGroup_asn, countP_inGroup_asn, hasns.count_eq]
    | geoRegion region =>
      rw [countP_inGroup_geoRegion, countP_inGroup_geoRegion, hregions.count_eq]

end PeerDiversityTracker

/-! ### What the pooled connections were added with -/

/-- The pool, with what each pooled connection was added with. -/
structure AuditedPool where
  pool : ConnectionPool
  added : Table PeerId PeerDiversityInfo

/-- What a call tells the tracker of the peer it adds. -/
def PoolCall.addition : PoolCall → Option (PeerId × PeerDiversityInfo)
  | .addConnection connection =>
    some (connection.peerId, ⟨connection.remoteAddr.ip, none, none⟩)
  | .addConnectionWithMetadata connection asn geoRegion =>
    some (connection.peerId, ⟨connection.remoteAddr.ip, asn, geoRegion⟩)
  | _ => none

/-- The peers that a call removes from a pool. -/
def PoolCall.removedPeers (pool : ConnectionPool) : PoolCall → List PeerId
  | .remove peerId => [peerId]
  | .cleanupTerminal => pool.terminalPeers
  | _ => []

namespace AuditedPool

/-- A new pool. -/
def new (config : ConnectionPoolConfig) : AuditedPool := ⟨.new config, ∅⟩

/-- One call. -/
def after (display : PeerId → String) (state : AuditedPool) (call : PoolCall) : AuditedPool where
  pool := state.pool.after display call
  added :=
    match call.addition, (state.pool.perform display call).2 with
    | some (peerId, info), .ok () => state.added.insert peerId info
    | _, _ => (call.removedPeers state.pool).foldl (fun added peerId ↦ added.erase peerId)
      state.added

/-- What the connections that a call removes were added with. -/
def removedBy (state : AuditedPool) (call : PoolCall) : List PeerDiversityInfo :=
  (call.removedPeers state.pool).filterMap fun peerId ↦ state.added.lookup peerId

/-- For every subnet, prefix, autonomous system and region, the tracker counts the pooled
connections that were added with it. -/
def CountsExact (state : AuditedPool) : Prop :=
  ∀ group, state.pool.diversityTracker.countIn group =
    total (fun info ↦ (info.inGroup group).toNat) state.added

/-- The removals of a call free what the removed connections were added with. -/
def FreesExactly (state : AuditedPool) (call : PoolCall) : Prop :=
  state.pool.diversityTracker.FreesExactly (state.removedBy call)

instance (state : AuditedPool) (call : PoolCall) : Decidable (state.FreesExactly call) :=
  inferInstanceAs (Decidable (PeerDiversityTracker.FreesExactly _ _))

/-- The audit is of the pooled connections and knows their addresses, the tracker is enabled and its
entries are covered. -/
structure InStep (state : AuditedPool) : Prop where
  addresses : ∀ peerId, (state.added.lookup peerId).map (fun info ↦ info.ip) =
    (state.pool.connections.lookup peerId).map fun connection ↦ connection.remoteAddr.ip
  enabled : state.pool.diversityTracker.config.enabled = true
  covered : state.pool.diversityTracker.Covered

/-- A new pool is in step. -/
theorem inStep_new {config : ConnectionPoolConfig} (henabled : config.diversity.enabled = true) :
    InStep (new config) where
  addresses := fun _ ↦ rfl
  enabled := henabled
  covered := PeerDiversityTracker.covered_new config.diversity

/-- The counts of a new pool are exact. -/
theorem countsExact_new (config : ConnectionPoolConfig) : CountsExact (new config) := by
  intro group
  cases group <;> rfl

variable {display : PeerId → String} {state : AuditedPool}

/-! ### Additions -/

/-- An addition through the pool, with what the tracker is told of the peer. -/
def add (display : PeerId → String) (state : AuditedPool) (connection : PeerConnection)
    (asn : Option Asn) (geoRegion : Option GeoRegion) : AuditedPool where
  pool := (state.pool.addConnectionWithMetadata display connection asn geoRegion).1
  added :=
    match (state.pool.addConnectionWithMetadata display connection asn geoRegion).2 with
    | .ok () => state.added.insert connection.peerId ⟨connection.remoteAddr.ip, asn, geoRegion⟩
    | .error _ => state.added

/-- An addition keeps the audit in step. -/
theorem InStep.add (hstep : InStep state) (connection : PeerConnection) (asn : Option Asn)
    (geoRegion : Option GeoRegion) :
    InStep (state.add display connection asn geoRegion) := by
  unfold AuditedPool.add
  obtain ⟨hsame, error, hfailed⟩ | ⟨_, habsent, haccepted, hadded⟩ :=
    state.pool.addConnectionWithMetadata_cases display connection asn geoRegion
  · rw [hsame, hfailed]
    exact hstep
  · rw [hadded]
    have htracker : (state.pool.diversityTracker.checkAndAdd connection.remoteAddr.ip asn
        geoRegion).1 =
          state.pool.diversityTracker.addPeerInternal connection.remoteAddr.ip asn geoRegion :=
      PeerDiversityTracker.checkAndAdd_of_accepted hstep.enabled haccepted
    refine ⟨?_, ?_, ?_⟩
    · intro peerId
      by_cases hpeer : peerId = connection.peerId
      · subst hpeer
        simp only [AList.lookup_insert]
        rfl
      · simp [AList.lookup_insert_ne hpeer, hstep.addresses]
    · rw [htracker]
      exact hstep.enabled
    · rw [htracker]
      exact hstep.covered.addPeerInternal

/-- An addition keeps the counts exact. -/
theorem CountsExact.add (hexact : CountsExact state) (hstep : InStep state)
    (connection : PeerConnection) (asn : Option Asn) (geoRegion : Option GeoRegion) :
    CountsExact (state.add display connection asn geoRegion) := by
  unfold AuditedPool.add
  obtain ⟨hsame, error, hfailed⟩ | ⟨_, habsent, haccepted, hadded⟩ :=
    state.pool.addConnectionWithMetadata_cases display connection asn geoRegion
  · rw [hsame, hfailed]
    exact hexact
  · rw [hadded]
    have hnew : state.added.lookup connection.peerId = none := by
      have haddress := hstep.addresses connection.peerId
      rw [habsent] at haddress
      simpa using haddress
    intro group
    show (state.pool.diversityTracker.checkAndAdd _ asn geoRegion).1.countIn group =
      total _ (state.added.insert connection.peerId _)
    rw [PeerDiversityTracker.checkAndAdd_of_accepted hstep.enabled haccepted,
      PeerDiversityTracker.countIn_addPeerInternal, total_insert_of_none _ hnew, hexact group]

/-! ### Removals -/

/-- Removing several peers one by one. -/
def removePeers (state : AuditedPool) (peerIds : List PeerId) : AuditedPool where
  pool := state.pool.removeAll peerIds
  added := peerIds.foldl (fun added peerId ↦ added.erase peerId) state.added

/-- One removal keeps the audit in step. -/
theorem InStep.remove (hstep : InStep state) (peerId : PeerId) :
    InStep ⟨(state.pool.remove peerId).1, state.added.erase peerId⟩ := by
  have haddresses : ∀ other, ((state.added.erase peerId).lookup other).map (fun info ↦ info.ip) =
      ((state.pool.remove peerId).1.connections.lookup other).map
        fun connection ↦ connection.remoteAddr.ip := by
    intro other
    rw [ConnectionPool.connections_remove]
    by_cases hother : other = peerId
    · rw [hother, AList.lookup_erase, AList.lookup_erase]
      rfl
    · rw [AList.lookup_erase_ne hother, AList.lookup_erase_ne hother]
      exact hstep.addresses other
  refine ⟨haddresses, ?_, ?_⟩
  · cases hlookup : state.pool.connections.lookup peerId with
    | none =>
      rw [ConnectionPool.remove_of_none hlookup]
      exact hstep.enabled
    | some connection =>
      rw [ConnectionPool.remove_of_some hlookup]
      show (state.pool.diversityTracker.remove _).1.config.enabled = true
      rw [PeerDiversityTracker.config_remove]
      exact hstep.enabled
  · cases hlookup : state.pool.connections.lookup peerId with
    | none =>
      rw [ConnectionPool.remove_of_none hlookup]
      exact hstep.covered
    | some connection =>
      rw [ConnectionPool.remove_of_some hlookup]
      exact hstep.covered.remove

/-- Removals keep the audit in step. -/
theorem InStep.removePeers (peerIds : List PeerId) :
    ∀ {state : AuditedPool}, InStep state → InStep (state.removePeers peerIds) := by
  induction peerIds with
  | nil => exact fun hstep ↦ hstep
  | cons peerId rest ih =>
    intro state hstep
    exact ih (hstep.remove peerId)

/-- Removing different peers removes the addresses of those that are pooled from the tracker. -/
theorem diversityTracker_removeAll (peerIds : List PeerId) :
    ∀ {pool : ConnectionPool}, peerIds.Nodup →
      (pool.removeAll peerIds).diversityTracker = pool.diversityTracker.removeAll
        (peerIds.filterMap fun peerId ↦ (pool.connections.lookup peerId).map
          fun connection ↦ connection.remoteAddr.ip) := by
  induction peerIds with
  | nil => intro _ _; rfl
  | cons peerId rest ih =>
    intro pool hnodup
    rw [List.nodup_cons] at hnodup
    have hothers : (rest.filterMap fun other ↦ ((pool.remove peerId).1.connections.lookup other).map
        fun connection ↦ connection.remoteAddr.ip) =
          rest.filterMap fun other ↦ (pool.connections.lookup other).map
            fun connection ↦ connection.remoteAddr.ip := by
      apply List.filterMap_congr
      intro other hother
      have hne : other ≠ peerId := fun hsame ↦ hnodup.1 (hsame ▸ hother)
      rw [ConnectionPool.connections_remove, AList.lookup_erase_ne hne]
    have hrest := @ih (pool.remove peerId).1 hnodup.2
    rw [hothers] at hrest
    rw [List.filterMap_cons]
    show ((pool.remove peerId).1.removeAll rest).diversityTracker = _
    rw [hrest]
    cases hlookup : pool.connections.lookup peerId with
    | none =>
      rw [ConnectionPool.remove_of_none hlookup]
      rfl
    | some connection =>
      rw [ConnectionPool.remove_of_some hlookup]
      rfl

/-- From exact counts, removals of different peers end in exact counts if and only if they free
exactly. -/
theorem countsExact_removePeers_iff (hexact : CountsExact state) (hstep : InStep state)
    {peerIds : List PeerId} (hnodup : peerIds.Nodup) :
    CountsExact (state.removePeers peerIds) ↔ state.pool.diversityTracker.FreesExactly
      (peerIds.filterMap fun peerId ↦ state.added.lookup peerId) := by
  have hips : (peerIds.filterMap fun peerId ↦ (state.pool.connections.lookup peerId).map
      fun connection ↦ connection.remoteAddr.ip) =
        (peerIds.filterMap fun peerId ↦ state.added.lookup peerId).map fun info ↦ info.ip := by
    rw [List.map_filterMap]
    apply List.filterMap_congr
    intro peerId _
    exact (hstep.addresses peerId).symm
  rw [← PeerDiversityTracker.countP_freed_eq_iff hstep.covered]
  apply forall_congr'
  intro group
  have htracker := PeerDiversityTracker.countIn_removeAll_add group
    ((peerIds.filterMap fun peerId ↦ state.added.lookup peerId).map fun info ↦ info.ip)
    state.pool.diversityTracker hstep.covered
  have hadded : total (fun info ↦ (info.inGroup group).toNat)
      (peerIds.foldl (fun added peerId ↦ added.erase peerId) state.added) +
        (peerIds.filterMap fun peerId ↦ state.added.lookup peerId).countP
          (fun info ↦ info.inGroup group) =
            total (fun info ↦ (info.inGroup group).toNat) state.added :=
    total_foldl_erase_add (fun info : PeerDiversityInfo ↦ info.inGroup group) peerIds hnodup
  have hbefore := hexact group
  show (state.pool.removeAll peerIds).diversityTracker.countIn group =
    total _ (peerIds.foldl (fun added peerId ↦ added.erase peerId) state.added) ↔ _
  rw [diversityTracker_removeAll peerIds hnodup, hips]
  omega

/-! ### Runs -/

/-- A call adds a peer, removes different peers, or changes the state of a connection. -/
theorem after_cases (display : PeerId → String) (state : AuditedPool) (call : PoolCall) :
    (∃ connection asn geoRegion, call.removedPeers state.pool = [] ∧
      state.after display call = state.add display connection asn geoRegion) ∨
    ((call.removedPeers state.pool).Nodup ∧
      state.after display call = state.removePeers (call.removedPeers state.pool)) ∨
    (∃ peerId change, call.removedPeers state.pool = [] ∧
      state.after display call = ⟨state.pool.markConnection peerId change, state.added⟩) := by
  have hadd : ∀ (connection : PeerConnection) (asn : Option Asn) (geoRegion : Option GeoRegion),
      (⟨(state.pool.addConnectionWithMetadata display connection asn geoRegion).1,
        match some (connection.peerId,
            (⟨connection.remoteAddr.ip, asn, geoRegion⟩ : PeerDiversityInfo)),
          (state.pool.addConnectionWithMetadata display connection asn geoRegion).2 with
        | some (peerId, info), .ok () => state.added.insert peerId info
        | _, _ => state.added⟩ : AuditedPool) = state.add display connection asn geoRegion := by
    intro connection asn geoRegion
    unfold AuditedPool.add
    cases (state.pool.addConnectionWithMetadata display connection asn geoRegion).2 with
    | ok value => rfl
    | error error => rfl
  cases call with
  | addConnection connection =>
    exact Or.inl ⟨connection, none, none, rfl, hadd connection none none⟩
  | addConnectionWithMetadata connection asn geoRegion =>
    exact Or.inl ⟨connection, asn, geoRegion, rfl, hadd connection asn geoRegion⟩
  | remove peerId => exact Or.inr (Or.inl ⟨List.nodup_singleton peerId, rfl⟩)
  | cleanupTerminal =>
    refine Or.inr (Or.inl ⟨state.pool.nodup_terminalPeers, ?_⟩)
    show AuditedPool.mk state.pool.cleanupTerminal.1 _ = _
    rw [ConnectionPool.cleanupTerminal_eq_removeAll]
    rfl
  | markConnection peerId change => exact Or.inr (Or.inr ⟨peerId, change, rfl, rfl⟩)

/-- Every call keeps the audit in step. -/
theorem InStep.after (hstep : InStep state) (display : PeerId → String) (call : PoolCall) :
    InStep (state.after display call) := by
  obtain ⟨connection, asn, geoRegion, _, hafter⟩ | ⟨_, hafter⟩ | ⟨peerId, change, _, hafter⟩ :=
    after_cases display state call
  · rw [hafter]
    exact hstep.add connection asn geoRegion
  · rw [hafter]
    exact hstep.removePeers _
  · rw [hafter]
    unfold ConnectionPool.markConnection
    cases hlookup : state.pool.connections.lookup peerId with
    | none => exact hstep
    | some connection =>
      have hpresent : peerId ∈ state.pool.connections :=
        AList.lookup_isSome.mp (by rw [hlookup]; rfl)
      refine ⟨?_, hstep.enabled, hstep.covered⟩
      intro other
      have haddress := hstep.addresses other
      show _ = ((state.pool.connections.replace peerId (connection.mark change)).lookup other).map _
      by_cases hother : other = peerId
      · subst hother
        rw [lookup_replace hpresent]
        rw [hlookup] at haddress
        simpa using haddress
      · rw [lookup_replace_ne hother]
        exact haddress

/-- From exact counts, a call ends in exact counts if and only if its removals free exactly. -/
theorem countsExact_after_iff (hstep : InStep state) (hexact : CountsExact state)
    (display : PeerId → String) (call : PoolCall) :
    CountsExact (state.after display call) ↔ state.FreesExactly call := by
  have hnothing : call.removedPeers state.pool = [] → state.FreesExactly call := by
    intro hnone
    have hremoved : state.removedBy call = [] := by
      unfold removedBy
      rw [hnone]
      rfl
    unfold FreesExactly
    rw [hremoved]
    simp [PeerDiversityTracker.FreesExactly, PeerDiversityTracker.entriesFor]
  obtain ⟨connection, asn, geoRegion, hnone, hafter⟩ | ⟨hnodup, hafter⟩ |
    ⟨peerId, change, hnone, hafter⟩ := after_cases display state call
  · rw [hafter]
    exact iff_of_true (hexact.add hstep connection asn geoRegion) (hnothing hnone)
  · rw [hafter]
    exact countsExact_removePeers_iff hexact hstep hnodup
  · rw [hafter]
    refine iff_of_true ?_ (hnothing hnone)
    unfold ConnectionPool.markConnection
    cases state.pool.connections.lookup peerId with
    | none => exact hexact
    | some connection => exact hexact

/-- The tracker counts exactly the pooled connections in every state of a run if and only if every
removal of the run frees exactly. -/
theorem counts_exact_iff_frees_exactly (display : PeerId → String) (config : ConnectionPoolConfig)
    (henabled : config.diversity.enabled = true) (calls : List PoolCall) :
    Always (AuditedPool.after display) CountsExact (AuditedPool.new config) calls ↔
      Throughout (AuditedPool.after display) FreesExactly (AuditedPool.new config) calls :=
  always_iff_throughout_of_invariant (inStep_new henabled)
    (fun _ call hstep ↦ hstep.after display call) (countsExact_new config)
    (fun _ call hstep hexact ↦ countsExact_after_iff hstep hexact display call)

/-- Two peers behind one address are added and removed again: the pool is empty, and the tracker
still counts one of them. -/
theorem shared_address_frees_nothing :
    ¬ Always (AuditedPool.after fun _ ↦ "peer") CountsExact (AuditedPool.new ⟨100, .default⟩)
      [.addConnection (ConnectionPool.exampleConnection 1 7),
        .addConnection (ConnectionPool.exampleConnection 2 7),
        .remove (.ofByte 1), .remove (.ofByte 2)] := by
  intro halways
  have hcount := halways.last (.ipv4Subnet (.fromAddr ⟨203, 0, 113, 7⟩))
  revert hcount
  decide +kernel

/-- Two peers of one subnet, at different addresses, are added and removed again. -/
theorem counts_exact_iff_frees_exactly_exampleConnection :
    Always (AuditedPool.after fun _ ↦ "peer") CountsExact (AuditedPool.new ⟨100, .default⟩)
      [.addConnection (ConnectionPool.exampleConnection 1 7),
        .addConnection (ConnectionPool.exampleConnection 2 8),
        .remove (.ofByte 1), .remove (.ofByte 2)] :=
  (counts_exact_iff_frees_exactly (fun _ ↦ "peer") ⟨100, .default⟩ rfl _).mpr (by decide +kernel)

end AuditedPool

end Clawbernetes.MoltP2p
