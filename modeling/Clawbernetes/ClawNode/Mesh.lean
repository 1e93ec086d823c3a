import Clawbernetes.Library.FiniteTable

/-!
# Synchronising the peers of the mesh

The peers that a node has in the mesh, from `mesh.rs` of `clawnode`. `sync_peers` compares the
active peers with the nodes that the gateway knows, and the two loops go by ids: the first removes
the peers whose id is not known, the second inserts the known nodes whose id is not active. Both
sets are hash maps, so the orders of the loops come from outside, as a `SyncWalk`.

The ids come out right from every state (`ids_partitioned`), and what is known after one
synchronisation stays at the next one (`second_sync_idle`). The data of a peer whose id is known and
active is not looked at: the entry stays as it is and is counted as unchanged
(`lookup_syncLoops`), where `add_remote_peer` would replace it. So the active peers are the known
nodes afterwards exactly when no peer that stays had other data before (`synchronised_iff`), as in
every run in which no node changes its data (`synchronised_after_run`).
-/

set_option autoImplicit false
set_option relaxedAutoImplicit false

namespace Clawbernetes.ClawNode

open Library.FiniteTable

/-! ### The peers of a node -/

/-- `PeerInfo`. -/
structure PeerInfo where
  nodeId : String
  publicKey : String
  meshIp : String
  endpoint : Option String
  workloadSubnet : Option String
  region : String
  deriving DecidableEq

/-- A peer has the public key, the endpoint, the mesh address and the workload subnet of a node. -/
def PeerInfo.AgreesWith (peer node : PeerInfo) : Prop :=
  peer.publicKey = node.publicKey ∧ peer.endpoint = node.endpoint ∧ peer.meshIp = node.meshIp ∧
    peer.workloadSubnet = node.workloadSubnet

/-- `SyncResult`. The ids are in the order of the loops. -/
structure SyncResult where
  added : List String
  removed : List String
  unchanged : ℕ
  deriving DecidableEq

/-- `SyncResult::default`. -/
def SyncResult.default : SyncResult := ⟨[], [], 0⟩

/-- The part of `MeshManager` that knows the peers: the id of the node as text, and the active peers
under their own ids. -/
structure MeshManager where
  nodeId : String
  activePeers : Table String PeerInfo
  keyed : ∀ id peer, activePeers.lookup id = some peer → peer.nodeId = id

namespace MeshManager

/-- `MeshManager::init`, from the id that is drawn. -/
def init (nodeId : String) : MeshManager where
  nodeId := nodeId
  activePeers := ∅
  keyed := by
    intro id peer hlookup
    cases hlookup

/-- `MeshManager::add_remote_peer`. A peer with the same id is replaced. -/
def addRemotePeer (manager : MeshManager) (peer : PeerInfo) : MeshManager where
  nodeId := manager.nodeId
  activePeers := manager.activePeers.insert peer.nodeId peer
  keyed := (forall_lookup_insert_iff manager.keyed).mpr rfl

/-- `MeshManager::remove_remote_peer`. -/
def removeRemotePeer (manager : MeshManager) (nodeId : String) : Except String MeshManager :=
  if nodeId ∈ manager.activePeers then
    .ok { manager with
      activePeers := manager.activePeers.erase nodeId
      keyed := forall_lookup_erase manager.keyed nodeId }
  else .error ("peer '" ++ nodeId ++ "' not found")

/-- The map of the known nodes but this one. -/
def known (manager : MeshManager) (knownNodes : List PeerInfo) : Table String PeerInfo :=
  collect ((knownNodes.filter fun node ↦ node.nodeId ≠ manager.nodeId).map fun node ↦
    (node.nodeId, node))

/-- What the loops of `sync_peers` change: the active peers and the result. -/
abbrev SyncState := Table String PeerInfo × SyncResult

/-- One turn of the loop that removes peers. -/
def removePeer (state : SyncState) (id : String) : SyncState :=
  (state.1.erase id, { state.2 with removed := state.2.removed ++ [id] })

/-- One turn of the loop over the known nodes. -/
def addPeer (state : SyncState) (node : Sigma fun _ : String ↦ PeerInfo) : SyncState :=
  if node.1 ∈ state.1 then (state.1, { state.2 with unchanged := state.2.unchanged + 1 })
  else (state.1.insert node.1 node.2, { state.2 with added := state.2.added ++ [node.1] })

/-- The orders in which the active peers and the known nodes are gone through. -/
structure SyncWalk (manager : MeshManager) (knownNodes : List PeerInfo) where
  ids : List String
  nodes : List (Sigma fun _ : String ↦ PeerInfo)
  ids_perm : ids.Perm manager.activePeers.keys
  nodes_perm : nodes.Perm (manager.known knownNodes).entries

/-- The walk in the orders of the tables. -/
def SyncWalk.inOrder (manager : MeshManager) (knownNodes : List PeerInfo) :
    SyncWalk manager knownNodes :=
  ⟨_, _, List.Perm.refl _, List.Perm.refl _⟩

variable {manager : MeshManager} {knownNodes : List PeerInfo}

/-- The active peers whose ids are not known. -/
def toRemove (walk : SyncWalk manager knownNodes) : List String :=
  walk.ids.filter fun id ↦ id ∉ manager.known knownNodes

/-- The two loops of `sync_peers`. -/
def syncLoops (walk : SyncWalk manager knownNodes) : SyncState :=
  walk.nodes.foldl addPeer ((toRemove walk).foldl removePeer (manager.activePeers, .default))

/-! ### What the loops leave -/

/-- The first loop erases the ids and lists them. -/
theorem foldl_removePeer (ids : List String) (state : SyncState) :
    ids.foldl removePeer state =
      (ids.foldl (fun peers id ↦ peers.erase id) state.1,
        { state.2 with removed := state.2.removed ++ ids }) := by
  induction ids generalizing state with
  | nil => rw [List.append_nil]; rfl
  | cons id rest ih =>
    rw [List.foldl_cons, List.foldl_cons, ih, removePeer]
    simp only [List.append_assoc, List.singleton_append]

/-- The second loop keeps the peers that it finds, and inserts the nodes that it does not find. -/
theorem lookup_foldl_addPeer (nodes : List (Sigma fun _ : String ↦ PeerInfo)) (state : SyncState)
    (id : String) :
    (nodes.foldl addPeer state).1.lookup id = (state.1.lookup id).or (nodes.dlookup id) := by
  induction nodes generalizing state with
  | nil => rw [List.foldl_nil, List.dlookup_nil, Option.or_none]
  | cons node rest ih =>
    rw [List.foldl_cons, ih, addPeer]
    by_cases hid : id = node.1
    · subst hid
      rw [List.dlookup_cons_eq]
      split_ifs with hactive
      · obtain ⟨peer, hpeer⟩ := Option.isSome_iff_exists.mp (AList.lookup_isSome.mpr hactive)
        rw [hpeer, Option.some_or, Option.some_or]
      · rw [AList.lookup_insert, AList.lookup_eq_none.mpr hactive, Option.some_or, Option.none_or]
    · rw [List.dlookup_cons_ne rest node hid]
      split_ifs
      · rfl
      · rw [AList.lookup_insert_ne hid]

/-- Which of some ids are active depends only on those ids. -/
theorem filter_ids_congr {ids : List String} {first second : Table String PeerInfo}
    (hsame : ∀ id ∈ ids, id ∈ first ↔ id ∈ second) :
    (ids.filter fun id ↦ id ∉ first) = (ids.filter fun id ↦ id ∉ second) ∧
      (ids.filter fun id ↦ id ∈ first) = ids.filter fun id ↦ id ∈ second :=
  ⟨List.filter_congr fun id hid ↦ by simp only [hsame id hid],
    List.filter_congr fun id hid ↦ by simp only [hsame id hid]⟩

/-- The second loop lists the ids that were not active and counts those that were. -/
theorem result_foldl_addPeer (nodes : List (Sigma fun _ : String ↦ PeerInfo)) (state : SyncState)
    (hnodup : nodes.NodupKeys) :
    (nodes.foldl addPeer state).2 =
      { state.2 with
        added := state.2.added ++ nodes.keys.filter fun id ↦ id ∉ state.1
        unchanged := state.2.unchanged + (nodes.keys.filter fun id ↦ id ∈ state.1).length } := by
  induction nodes generalizing state with
  | nil => simp
  | cons node rest ih =>
    rw [List.nodupKeys_cons] at hnodup
    rw [List.foldl_cons, ih _ hnodup.2, addPeer, List.keys_cons]
    split_ifs with hactive
    · simp [hactive, Nat.add_assoc, Nat.add_comm 1]
    · have hothers : ∀ id ∈ rest.keys, id ∈ state.1.insert node.1 node.2 ↔ id ∈ state.1 := by
        intro id hid
        rw [AList.mem_insert]
        exact or_iff_right fun hsame ↦ hnodup.1 (hsame ▸ hid)
      obtain ⟨hadded, hunchanged⟩ := filter_ids_congr hothers
      rw [List.filter_cons_of_pos (by simpa using hactive),
        List.filter_cons_of_neg (by simpa using hactive)]
      simp only [hadded, hunchanged, List.append_assoc, List.singleton_append]

/-- The first loop removes the peers that are not known. -/
theorem mem_toRemove {walk : SyncWalk manager knownNodes} {id : String} :
    id ∈ toRemove walk ↔ id ∈ manager.activePeers ∧ id ∉ manager.known knownNodes := by
  simp only [toRemove, List.mem_filter, walk.ids_perm.mem_iff, AList.mem_keys, decide_eq_true_iff]

/-- The nodes of the walk have different ids. -/
theorem SyncWalk.nodes_nodupKeys (walk : SyncWalk manager knownNodes) : walk.nodes.NodupKeys :=
  (List.perm_nodupKeys walk.nodes_perm).mpr (manager.known knownNodes).nodupKeys

/-- The ids of the nodes of the walk are the known ones. -/
theorem SyncWalk.keys_perm (walk : SyncWalk manager knownNodes) :
    walk.nodes.keys.Perm (manager.known knownNodes).keys :=
  walk.nodes_perm.map Sigma.fst

/-- After the loops the active peers have the known ids. A peer that was active is as it was, and
the others are as in the list. -/
theorem lookup_syncLoops (walk : SyncWalk manager knownNodes) (id : String) :
    (syncLoops walk).1.lookup id = ((manager.known knownNodes).lookup id).map fun node ↦
      (manager.activePeers.lookup id).getD node := by
  have hnodes : walk.nodes.dlookup id = (manager.known knownNodes).lookup id :=
    List.perm_dlookup id walk.nodes_nodupKeys walk.nodes_perm
  rw [syncLoops, lookup_foldl_addPeer, hnodes, foldl_removePeer, lookup_foldl_erase]
  cases hknown : (manager.known knownNodes).lookup id with
  | none =>
    rw [Option.or_none, Option.map_none]
    split_ifs with hremoved
    · rfl
    · rw [AList.lookup_eq_none]
      intro hactive
      exact hremoved (mem_toRemove.mpr ⟨hactive, AList.lookup_eq_none.mp hknown⟩)
  | some node =>
    have hmem : id ∈ manager.known knownNodes :=
      AList.lookup_isSome.mp (Option.isSome_iff_exists.mpr ⟨node, hknown⟩)
    rw [if_neg fun hremoved ↦ (mem_toRemove.mp hremoved).2 hmem, Option.map_some]
    cases manager.activePeers.lookup id <;> rfl

/-- The result of the loops goes by the ids. -/
theorem result_syncLoops (walk : SyncWalk manager knownNodes) :
    (syncLoops walk).2 =
      { added := walk.nodes.keys.filter fun id ↦ id ∉ manager.activePeers
        removed := toRemove walk
        unchanged := (walk.nodes.keys.filter fun id ↦ id ∈ manager.activePeers).length } := by
  have hsame : ∀ id ∈ walk.nodes.keys,
      id ∈ (toRemove walk).foldl (fun peers id ↦ peers.erase id) manager.activePeers ↔
        id ∈ manager.activePeers := by
    intro id hid
    have hknown : id ∈ manager.known knownNodes := walk.keys_perm.mem_iff.mp hid
    rw [← AList.lookup_isSome, lookup_foldl_erase,
      if_neg fun hremoved ↦ (mem_toRemove.mp hremoved).2 hknown, AList.lookup_isSome]
  rw [syncLoops, result_foldl_addPeer _ _ walk.nodes_nodupKeys, foldl_removePeer]
  obtain ⟨hadded, hunchanged⟩ := filter_ids_congr hsame
  simp only [SyncResult.default, hadded, hunchanged, List.nil_append, Nat.zero_add]

/-- The known nodes stand under their own ids. -/
theorem keyed_known {id : String} {node : PeerInfo}
    (hlookup : (manager.known knownNodes).lookup id = some node) : node.nodeId = id := by
  obtain ⟨other, -, hsame⟩ := List.mem_map.mp (mem_of_lookup_collect hlookup)
  cases hsame
  rfl

/-- The known nodes are nodes of the list. -/
theorem mem_of_lookup_known {id : String} {node : PeerInfo}
    (hlookup : (manager.known knownNodes).lookup id = some node) : node ∈ knownNodes := by
  obtain ⟨other, hother, hsame⟩ := List.mem_map.mp (mem_of_lookup_collect hlookup)
  cases hsame
  exact List.mem_of_mem_filter hother

/-- After the loops the active peers stand under their own ids. -/
theorem keyed_syncLoops (walk : SyncWalk manager knownNodes) (id : String) (peer : PeerInfo)
    (hlookup : (syncLoops walk).1.lookup id = some peer) : peer.nodeId = id := by
  rw [lookup_syncLoops] at hlookup
  obtain ⟨node, hnode, hpeer⟩ := Option.map_eq_some_iff.mp hlookup
  cases hactive : manager.activePeers.lookup id with
  | none =>
    rw [hactive, Option.getD_none] at hpeer
    exact hpeer ▸ keyed_known hnode
  | some active =>
    rw [hactive, Option.getD_some] at hpeer
    exact hpeer ▸ manager.keyed id active hactive

/-- `MeshManager::sync_peers`. -/
def syncPeers (manager : MeshManager) (knownNodes : List PeerInfo)
    (walk : SyncWalk manager knownNodes) : SyncResult × MeshManager :=
  ((syncLoops walk).2,
    { manager with
      activePeers := (syncLoops walk).1
      keyed := keyed_syncLoops walk })

/-! ### What a synchronisation is for -/

/-- The active peers are the known nodes other than this node. -/
structure Mirrors (manager : MeshManager) (knownNodes : List PeerInfo) : Prop where
  known : ∀ id peer, manager.activePeers.lookup id = some peer →
    ∃ node ∈ knownNodes, node.nodeId ≠ manager.nodeId ∧ node.nodeId = id ∧ peer.AgreesWith node
  active : ∀ node ∈ knownNodes, node.nodeId ≠ manager.nodeId →
    ∃ peer, manager.activePeers.lookup node.nodeId = some peer ∧ peer.AgreesWith node

/-- The result splits the old ids into the removed and the unchanged ones, and the new ids into the
added and the unchanged ones. -/
structure Partitions (result : SyncResult) (before after : MeshManager) : Prop where
  split : ∃ kept : List String, kept.length = result.unchanged ∧
    before.activePeers.keys.Perm (result.removed ++ kept) ∧
    after.activePeers.keys.Perm (result.added ++ kept)
  added_new : ∀ id ∈ result.added, id ∉ before.activePeers
  removed_gone : ∀ id ∈ result.removed, id ∉ after.activePeers

/-- A synchronisation that ends in the known nodes, says which ids came and went, and leaves nothing
to add or remove for another one with the same list. -/
structure Synchronised (manager : MeshManager) (knownNodes : List PeerInfo)
    (synced : SyncResult × MeshManager) : Prop where
  mirrors : synced.2.Mirrors knownNodes
  partitions : Partitions synced.1 manager synced.2
  idle : ∀ again : SyncWalk synced.2 knownNodes,
    (synced.2.syncPeers knownNodes again).1.added = [] ∧
      (synced.2.syncPeers knownNodes again).1.removed = []

/-- The ids that are active after a synchronisation are the known ones. -/
theorem mem_syncPeers (walk : SyncWalk manager knownNodes) {id : String} :
    id ∈ (manager.syncPeers knownNodes walk).2.activePeers ↔ id ∈ manager.known knownNodes := by
  rw [← AList.lookup_isSome, ← AList.lookup_isSome, syncPeers, lookup_syncLoops, Option.isSome_map]

/-- The ids that were active are the removed and the kept ones. -/
theorem keys_perm_removed (walk : SyncWalk manager knownNodes) :
    manager.activePeers.keys.Perm
      (toRemove walk ++ walk.nodes.keys.filter fun id ↦ id ∈ manager.activePeers) := by
  have hids : (toRemove walk).Nodup :=
    (walk.ids_perm.nodup_iff.mpr manager.activePeers.keys_nodup).filter _
  have hkept : (walk.nodes.keys.filter fun id ↦ id ∈ manager.activePeers).Nodup :=
    List.Nodup.filter _ walk.nodes_nodupKeys
  have hdisjoint : (toRemove walk).Disjoint
      (walk.nodes.keys.filter fun id ↦ id ∈ manager.activePeers) := by
    intro id hremoved hkept
    exact (mem_toRemove.mp hremoved).2 (walk.keys_perm.mem_iff.mp (List.mem_filter.mp hkept).1)
  rw [List.perm_ext_iff_of_nodup manager.activePeers.keys_nodup (hids.append hkept hdisjoint)]
  intro id
  have hknown : id ∈ walk.nodes.keys ↔ id ∈ manager.known knownNodes := walk.keys_perm.mem_iff
  rw [← AList.mem_keys, List.mem_append, mem_toRemove, List.mem_filter, hknown,
    decide_eq_true_iff]
  tauto

/-- The ids that are active afterwards are the added and the kept ones. -/
theorem keys_perm_added (walk : SyncWalk manager knownNodes) :
    (manager.syncPeers knownNodes walk).2.activePeers.keys.Perm
      ((walk.nodes.keys.filter fun id ↦ id ∉ manager.activePeers) ++
        walk.nodes.keys.filter fun id ↦ id ∈ manager.activePeers) := by
  have hafter : (manager.syncPeers knownNodes walk).2.activePeers.keys.Perm walk.nodes.keys := by
    rw [List.perm_ext_iff_of_nodup (AList.keys_nodup _) walk.nodes_nodupKeys]
    intro id
    rw [← AList.mem_keys, mem_syncPeers]
    exact walk.keys_perm.mem_iff.symm
  have hsplit := List.filter_append_perm (fun id ↦ decide (id ∈ manager.activePeers))
    walk.nodes.keys
  simp only [← decide_not] at hsplit
  exact hafter.trans (hsplit.symm.trans List.perm_append_comm)

/-- The result of a synchronisation always goes by the ids. -/
theorem ids_partitioned (walk : SyncWalk manager knownNodes) :
    Partitions (manager.syncPeers knownNodes walk).1 manager
      (manager.syncPeers knownNodes walk).2 := by
  have hresult : (manager.syncPeers knownNodes walk).1 = _ := result_syncLoops walk
  rw [hresult]
  constructor
  · exact ⟨_, rfl, keys_perm_removed walk, keys_perm_added walk⟩
  · intro id hid
    exact of_decide_eq_true (List.mem_filter.mp hid).2
  · intro id hid
    rw [mem_syncPeers]
    exact (mem_toRemove.mp hid).2

/-- A second synchronisation with the same list adds and removes nothing. -/
theorem second_sync_idle (walk : SyncWalk manager knownNodes)
    (again : SyncWalk (manager.syncPeers knownNodes walk).2 knownNodes) :
    ((manager.syncPeers knownNodes walk).2.syncPeers knownNodes again).1.added = [] ∧
      ((manager.syncPeers knownNodes walk).2.syncPeers knownNodes again).1.removed = [] := by
  have hresult : ((manager.syncPeers knownNodes walk).2.syncPeers knownNodes again).1 = _ :=
    result_syncLoops again
  rw [hresult]
  constructor
  · rw [List.filter_eq_nil_iff]
    intro id hid
    have hknown : id ∈ manager.known knownNodes := again.keys_perm.mem_iff.mp hid
    simpa using (mem_syncPeers walk).mpr hknown
  · rw [List.eq_nil_iff_forall_not_mem]
    intro id hid
    obtain ⟨hactive, hunknown⟩ := mem_toRemove.mp hid
    exact hunknown ((mem_syncPeers walk).mp hactive)

/-- Of nodes with different ids every one but this node is known. -/
theorem lookup_known (hdistinct : (knownNodes.map PeerInfo.nodeId).Nodup) {id : String}
    {node : PeerInfo} :
    (manager.known knownNodes).lookup id = some node ↔
      node ∈ knownNodes ∧ node.nodeId ≠ manager.nodeId ∧ node.nodeId = id := by
  have hkeys : ((((knownNodes.filter fun node ↦ node.nodeId ≠ manager.nodeId).map fun node ↦
      (node.nodeId, node)).map Prod.fst)).Nodup := by
    rw [List.map_map]
    exact hdistinct.sublist (List.filter_sublist.map PeerInfo.nodeId)
  rw [known, lookup_collect_of_nodup hkeys, List.mem_map]
  constructor
  · rintro ⟨other, hother, hsame⟩
    cases hsame
    obtain ⟨hmem, hself⟩ := List.mem_filter.mp hother
    exact ⟨hmem, of_decide_eq_true hself, rfl⟩
  · rintro ⟨hmem, hself, rfl⟩
    exact ⟨node, List.mem_filter.mpr ⟨hmem, decide_eq_true hself⟩, rfl⟩

/-- For nodes with different ids, the active peers are the known nodes after a synchronisation when
every peer that was active under a known id agreed with its node before it. -/
theorem mirrors_syncPeers (hdistinct : (knownNodes.map PeerInfo.nodeId).Nodup)
    (walk : SyncWalk manager knownNodes)
    (hagree : ∀ node ∈ knownNodes, node.nodeId ≠ manager.nodeId →
      ∀ peer, manager.activePeers.lookup node.nodeId = some peer → peer.AgreesWith node) :
    (manager.syncPeers knownNodes walk).2.Mirrors knownNodes := by
  have hgetD : ∀ node ∈ knownNodes, node.nodeId ≠ manager.nodeId →
      ((manager.activePeers.lookup node.nodeId).getD node).AgreesWith node := by
    intro node hnode hself
    cases hactive : manager.activePeers.lookup node.nodeId with
    | none => exact ⟨rfl, rfl, rfl, rfl⟩
    | some peer => exact hagree node hnode hself peer hactive
  constructor
  · intro id peer hpeer
    rw [syncPeers, lookup_syncLoops] at hpeer
    obtain ⟨node, hnode, rfl⟩ := Option.map_eq_some_iff.mp hpeer
    obtain ⟨hmem, hself, rfl⟩ := (lookup_known hdistinct).mp hnode
    exact ⟨node, hmem, hself, rfl, hgetD node hmem hself⟩
  · intro node hmem hself
    refine ⟨_, ?_, hgetD node hmem hself⟩
    have hnode : (manager.known knownNodes).lookup node.nodeId = some node :=
      (lookup_known hdistinct).mpr ⟨hmem, hself, rfl⟩
    rw [syncPeers, lookup_syncLoops, hnode, Option.map_some]

/-- A synchronisation is right when every peer that was active under a known id agreed with its
node. -/
theorem synchronised_of_agree (hdistinct : (knownNodes.map PeerInfo.nodeId).Nodup)
    (walk : SyncWalk manager knownNodes)
    (hagree : ∀ node ∈ knownNodes, node.nodeId ≠ manager.nodeId →
      ∀ peer, manager.activePeers.lookup node.nodeId = some peer → peer.AgreesWith node) :
    Synchronised manager knownNodes (manager.syncPeers knownNodes walk) where
  mirrors := mirrors_syncPeers hdistinct walk hagree
  partitions := ids_partitioned walk
  idle := second_sync_idle walk

/-- For nodes with different ids, a synchronisation brings the active peers, the result and a second
synchronisation to what the list says exactly when every peer that is active under the id of a known
node has the public key, the endpoint, the mesh address and the workload subnet of that node. -/
theorem synchronised_iff (manager : MeshManager) (knownNodes : List PeerInfo)
    (walk : SyncWalk manager knownNodes)
    (hdistinct : (knownNodes.map PeerInfo.nodeId).Nodup) :
    Synchronised manager knownNodes (manager.syncPeers knownNodes walk) ↔
      ∀ node ∈ knownNodes, node.nodeId ≠ manager.nodeId →
        ∀ peer, manager.activePeers.lookup node.nodeId = some peer → peer.AgreesWith node := by
  constructor
  · rintro hsynced node hmem hself peer hactive
    have hafter : (manager.syncPeers knownNodes walk).2.activePeers.lookup node.nodeId =
        some peer := by
      rw [syncPeers, lookup_syncLoops, (lookup_known hdistinct).mpr ⟨hmem, hself, rfl⟩, hactive,
        Option.map_some, Option.getD_some]
    obtain ⟨other, hother, -, hid, hagree⟩ := hsynced.mirrors.known node.nodeId peer hafter
    exact List.inj_on_of_nodup_map hdistinct hother hmem hid ▸ hagree
  · exact synchronised_of_agree hdistinct walk

/-- The nodes of a cluster of two, the second one with a given key. -/
def pairOfNodes (key : String) : List PeerInfo :=
  [⟨"node-a", "key-a", "10.100.16.1", none, some "10.200.1.0/24", "us-west"⟩,
    ⟨"node-b", key, "10.100.32.1", some "1.2.3.4:51820", some "10.200.2.0/24", "us-east"⟩]

/-- The first of them with the second one as its only peer. -/
def firstOfPair (key : String) : MeshManager :=
  ((pairOfNodes key).drop 1).foldl addRemotePeer (init "node-a")

/-- A peer that agrees with the list stays, and the synchronisation is right. -/
theorem same_key_synchronised :
    Synchronised (firstOfPair "key-b") (pairOfNodes "key-b")
      ((firstOfPair "key-b").syncPeers (pairOfNodes "key-b") (.inOrder _ _)) := by
  refine (synchronised_iff _ _ _ (by decide)).mpr ?_
  intro node hnode hself peer hpeer
  have hsecond : node = (pairOfNodes "key-b").getLast (by decide) := by
    rcases List.mem_pair.mp hnode with rfl | rfl
    · exact absurd rfl hself
    · rfl
  subst hsecond
  cases hpeer
  exact ⟨rfl, rfl, rfl, rfl⟩

/-- A peer whose key is another one in the list keeps the old key and is counted as unchanged, where
`add_remote_peer` would give it the new one. -/
theorem rotated_key_not_synchronised :
    ((pairOfNodes "new-key").map PeerInfo.nodeId).Nodup ∧
      ((firstOfPair "key-b").syncPeers (pairOfNodes "new-key") (.inOrder _ _)).1 =
        { added := [], removed := [], unchanged := 1 } ∧
      (((firstOfPair "key-b").syncPeers (pairOfNodes "new-key")
        (.inOrder _ _)).2.activePeers.lookup "node-b").map PeerInfo.publicKey = some "key-b" ∧
      ¬Synchronised (firstOfPair "key-b") (pairOfNodes "new-key")
        ((firstOfPair "key-b").syncPeers (pairOfNodes "new-key") (.inOrder _ _)) := by
  refine ⟨by decide, by decide +kernel, by decide +kernel, ?_⟩
  intro hsynced
  obtain ⟨node, hnode, -, hid, hkey, -⟩ := hsynced.mirrors.known "node-b" _ rfl
  rcases List.mem_pair.mp hnode with rfl | rfl
  · exact absurd hid (by decide)
  · exact absurd hkey (by decide)

/-! ### Runs -/

/-- An operation on the peers. The orders of a synchronisation are those of the state it meets. -/
inductive Call where
  | addRemotePeer (peer : PeerInfo)
  | removeRemotePeer (nodeId : String)
  | syncPeers (knownNodes : List PeerInfo)
      (walk : (manager : MeshManager) → SyncWalk manager knownNodes)

namespace Call

/-- The peers that come in with a call. -/
def peers : Call → List PeerInfo
  | addRemotePeer peer => [peer]
  | removeRemotePeer _ => []
  | syncPeers knownNodes _ => knownNodes

/-- The state after a call. A peer that is not found is not removed. -/
def handle (manager : MeshManager) : Call → MeshManager
  | addRemotePeer peer => manager.addRemotePeer peer
  | removeRemotePeer nodeId =>
    match manager.removeRemotePeer nodeId with
    | .ok after => after
    | .error _ => manager
  | syncPeers knownNodes walk => (manager.syncPeers knownNodes (walk manager)).2

/-- A peer that is active after a call was active before it, or has come in with it. -/
theorem lookup_handle {call : Call} {id : String} {peer : PeerInfo}
    (hpeer : (handle manager call).activePeers.lookup id = some peer) :
    manager.activePeers.lookup id = some peer ∨ peer ∈ call.peers := by
  cases call with
  | addRemotePeer added =>
    by_cases hid : id = added.nodeId
    · subst hid
      rw [handle, MeshManager.addRemotePeer, AList.lookup_insert] at hpeer
      exact .inr (List.mem_singleton.mpr (Option.some_inj.mp hpeer).symm)
    · rw [handle, MeshManager.addRemotePeer, AList.lookup_insert_ne hid] at hpeer
      exact .inl hpeer
  | removeRemotePeer nodeId =>
    rw [handle, MeshManager.removeRemotePeer] at hpeer
    split_ifs at hpeer
    · exact .inl (lookup_erase_cases hpeer).2
    · exact .inl hpeer
  | syncPeers knownNodes walk =>
    rw [handle, MeshManager.syncPeers, lookup_syncLoops] at hpeer
    obtain ⟨node, hnode, hactive⟩ := Option.map_eq_some_iff.mp hpeer
    cases hlookup : manager.activePeers.lookup id with
    | none =>
      rw [hlookup, Option.getD_none] at hactive
      exact .inr (hactive ▸ mem_of_lookup_known hnode)
    | some active =>
      rw [hlookup, Option.getD_some] at hactive
      exact .inl (congrArg some hactive)

/-- In a run from the start every active peer has come in with a call. -/
theorem peers_of_run (nodeId : String) (calls : List Call) {id : String} {peer : PeerInfo}
    (hpeer : (calls.foldl handle (init nodeId)).activePeers.lookup id = some peer) :
    ∃ call ∈ calls, peer ∈ call.peers := by
  induction calls using List.reverseRecOn with
  | nil => cases hpeer
  | append_singleton calls call ih =>
    rw [List.foldl_concat] at hpeer
    rcases lookup_handle hpeer with hbefore | hcame
    · obtain ⟨earlier, hearlier, hmem⟩ := ih hbefore
      exact ⟨earlier, List.mem_append_left _ hearlier, hmem⟩
    · exact ⟨call, List.mem_append_right _ List.mem_cons_self, hcame⟩

end Call

/-- Along every run of additions, removals and synchronisations, the next synchronisation is right
as long as no node has come in with other data than it has in the list. -/
theorem synchronised_after_run (nodeId : String) (calls : List Call)
    (hdistinct : (knownNodes.map PeerInfo.nodeId).Nodup)
    (walk : SyncWalk (calls.foldl Call.handle (init nodeId)) knownNodes)
    (hstable : ∀ call ∈ calls, ∀ peer ∈ call.peers, ∀ node ∈ knownNodes,
      peer.nodeId = node.nodeId → peer.AgreesWith node) :
    Synchronised (calls.foldl Call.handle (init nodeId)) knownNodes
      ((calls.foldl Call.handle (init nodeId)).syncPeers knownNodes walk) := by
  refine synchronised_of_agree hdistinct walk ?_
  intro node hnode _ peer hpeer
  obtain ⟨call, hcall, hmem⟩ := Call.peers_of_run nodeId calls hpeer
  exact hstable call hcall peer hmem node hnode (MeshManager.keyed _ _ _ hpeer)

end MeshManager

end Clawbernetes.ClawNode
