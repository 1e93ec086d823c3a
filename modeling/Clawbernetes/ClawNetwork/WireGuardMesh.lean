import Clawbernetes.ClawNetwork.IpAllocator

/-!
# The registry of mesh nodes

`WireGuardMesh` keeps the nodes of the overlay under their identifiers. Registration looks at the
identifier alone: a node may be registered with the address, the subnet or the key of another one
(`clashing_nodes_registered`).

The nodes are registered under their own identifiers and a call that fails changes nothing. Any two
of them are apart in address, subnet and key throughout a run if and only if every registration of
a new identifier brings a node that is apart from those registered then (`apart_iff_brought_apart`).
-/

set_option autoImplicit false
set_option relaxedAutoImplicit false

namespace Clawbernetes.ClawNetwork

open Library.FiniteTable Library.Addresses Library.Runs

/-! ### Nodes and the mesh -/

/-- `WireGuardKey`: the text of a public key. -/
structure WireGuardKey where
  text : String
  deriving DecidableEq

/-- `MeshNode`. -/
structure MeshNode where
  nodeId : NodeId
  meshIp : IpAddr
  workloadSubnet : IpNet
  wireguardKey : WireGuardKey
  region : Region
  endpoint : Option SocketAddr
  deriving DecidableEq

/-- `MeshConfig`. -/
structure MeshConfig where
  meshCidr : String
  workloadCidr : String

/-- `MeshConfig::default`. -/
def MeshConfig.default : MeshConfig := ⟨"10.100.0.0/16", "10.200.0.0/16"⟩

/-- `WireGuardMesh`. -/
structure WireGuardMesh where
  config : MeshConfig
  allocator : IpAllocator
  nodes : Mutex (Table NodeId MeshNode)

namespace WireGuardMesh

/-- `WireGuardMesh::new`, which does not fail. -/
def new (config : MeshConfig) : WireGuardMesh := ⟨config, IpAllocator.new, ⟨∅, false⟩⟩

/-- `WireGuardMesh::add_node`. -/
def addNode (mesh : WireGuardMesh) (node : MeshNode) : WireGuardMesh × Except String Unit :=
  match mesh.nodes.lock with
  | .error message => (mesh, .error message)
  | .ok nodes =>
    if node.nodeId ∈ nodes then
      (mesh, .error ("node " ++ node.nodeId.display ++ " already registered"))
    else ({ mesh with nodes := ⟨nodes.insert node.nodeId node, false⟩ }, .ok ())

/-- `WireGuardMesh::remove_node`. -/
def removeNode (mesh : WireGuardMesh) (nodeId : NodeId) : WireGuardMesh × Except String Unit :=
  match mesh.nodes.lock with
  | .error message => (mesh, .error message)
  | .ok nodes =>
    match nodes.lookup nodeId with
    | none => (mesh, .error ("node " ++ nodeId.display ++ " not found"))
    | some _ => ({ mesh with nodes := ⟨nodes.erase nodeId, false⟩ }, .ok ())

/-- `WireGuardMesh::get_node`. -/
def getNode (mesh : WireGuardMesh) (nodeId : NodeId) : Option MeshNode :=
  match mesh.nodes.lock with
  | .error _ => none
  | .ok nodes => nodes.lookup nodeId

end WireGuardMesh

/-- A call that changes the registry. -/
inductive MeshCall where
  | addNode (node : MeshNode)
  | removeNode (nodeId : NodeId)

namespace WireGuardMesh

/-- One call and its result. -/
def perform (mesh : WireGuardMesh) : MeshCall → WireGuardMesh × Except String Unit
  | .addNode node => mesh.addNode node
  | .removeNode nodeId => mesh.removeNode nodeId

/-- The mesh after one call. -/
def step (mesh : WireGuardMesh) (call : MeshCall) : WireGuardMesh := (mesh.perform call).1

end WireGuardMesh

/-! ### Nodes that are apart -/

/-- The nodes have different mesh addresses, disjoint workload subnets and different keys. -/
def MeshNode.Apart (node other : MeshNode) : Prop :=
  node.meshIp ≠ other.meshIp ∧ node.workloadSubnet.Disjoint other.workloadSubnet ∧
    node.wireguardKey ≠ other.wireguardKey

/-- Being apart is symmetric. -/
theorem MeshNode.Apart.symm {node other : MeshNode} (hapart : node.Apart other) :
    other.Apart node := by
  obtain ⟨hip, hsubnet, hkey⟩ := hapart
  refine ⟨hip.symm, ?_, hkey.symm⟩
  intro address hother hnode
  exact hsubnet address hnode hother

namespace WireGuardMesh

/-- Any two registered nodes with different identifiers are apart. -/
def NodesApart (mesh : WireGuardMesh) : Prop :=
  ∀ nodeId otherId node other, mesh.getNode nodeId = some node →
    mesh.getNode otherId = some other → node.nodeId ≠ other.nodeId → node.Apart other

/-- A call that would register a node brings one that is apart from every registered node. -/
def BringsApart (mesh : WireGuardMesh) : MeshCall → Prop
  | .addNode node => mesh.getNode node.nodeId = none →
      ∀ otherId other, mesh.getNode otherId = some other → node.Apart other
  | .removeNode _ => True

/-- The lock is not poisoned, and every node is registered under its own identifier. -/
structure Keyed (mesh : WireGuardMesh) : Prop where
  healthy : mesh.nodes.poisoned = false
  own_id : ∀ nodeId node, mesh.getNode nodeId = some node → node.nodeId = nodeId

/-- The registered nodes are those of the table while the lock is not poisoned. -/
theorem getNode_of_healthy {mesh : WireGuardMesh} (hhealthy : mesh.nodes.poisoned = false)
    (nodeId : NodeId) : mesh.getNode nodeId = mesh.nodes.value.lookup nodeId := by
  unfold getNode Mutex.lock
  rw [hhealthy]
  rfl

/-- The mesh with a node registered. -/
def withNode (mesh : WireGuardMesh) (node : MeshNode) : WireGuardMesh :=
  { mesh with nodes := ⟨mesh.nodes.value.insert node.nodeId node, false⟩ }

/-- The mesh without a node. -/
def withoutNode (mesh : WireGuardMesh) (nodeId : NodeId) : WireGuardMesh :=
  { mesh with nodes := ⟨mesh.nodes.value.erase nodeId, false⟩ }

/-- The registered nodes after a registration. -/
theorem getNode_withNode {mesh : WireGuardMesh} (hhealthy : mesh.nodes.poisoned = false)
    (node : MeshNode) (nodeId : NodeId) :
    (mesh.withNode node).getNode nodeId =
      if nodeId = node.nodeId then some node else mesh.getNode nodeId := by
  rw [getNode_of_healthy rfl, getNode_of_healthy hhealthy]
  unfold withNode
  by_cases hid : nodeId = node.nodeId
  · rw [if_pos hid, hid]
    exact AList.lookup_insert _
  · rw [if_neg hid]
    exact AList.lookup_insert_ne hid

/-- The registered nodes after a removal. -/
theorem getNode_withoutNode {mesh : WireGuardMesh} (hhealthy : mesh.nodes.poisoned = false)
    (removed nodeId : NodeId) :
    (mesh.withoutNode removed).getNode nodeId =
      if nodeId = removed then none else mesh.getNode nodeId := by
  rw [getNode_of_healthy rfl, getNode_of_healthy hhealthy]
  unfold withoutNode
  by_cases hid : nodeId = removed
  · rw [if_pos hid, hid]
    exact AList.lookup_erase _ _
  · rw [if_neg hid]
    exact AList.lookup_erase_ne hid

/-- A call registers a node of a new identifier, removes a registered one, or fails without a
change. -/
theorem perform_cases {mesh : WireGuardMesh} (hhealthy : mesh.nodes.poisoned = false)
    (call : MeshCall) :
    (∃ node, call = .addNode node ∧ mesh.getNode node.nodeId = none ∧
        mesh.perform call = (mesh.withNode node, .ok ())) ∨
      (∃ nodeId, call = .removeNode nodeId ∧ (∃ node, mesh.getNode nodeId = some node) ∧
        mesh.perform call = (mesh.withoutNode nodeId, .ok ())) ∨
      ((∀ node, call = .addNode node → ∃ other, mesh.getNode node.nodeId = some other) ∧
        ∃ message, mesh.perform call = (mesh, .error message)) := by
  have hlock : mesh.nodes.lock = .ok mesh.nodes.value := by
    unfold Mutex.lock
    rw [hhealthy]
    rfl
  cases call with
  | addNode node =>
    simp only [perform, addNode, hlock]
    by_cases hpresent : node.nodeId ∈ mesh.nodes.value
    · right; right
      rw [if_pos hpresent]
      refine ⟨?_, _, rfl⟩
      rintro _ ⟨⟩
      rw [getNode_of_healthy hhealthy]
      exact Option.isSome_iff_exists.mp (AList.lookup_isSome.mpr hpresent)
    · left
      rw [if_neg hpresent]
      refine ⟨node, rfl, ?_, rfl⟩
      rw [getNode_of_healthy hhealthy]
      exact AList.lookup_eq_none.mpr hpresent
  | removeNode nodeId =>
    simp only [perform, removeNode, hlock]
    cases hlookup : mesh.nodes.value.lookup nodeId with
    | none =>
      right; right
      exact ⟨fun _ hcall ↦ MeshCall.noConfusion hcall, _, rfl⟩
    | some node =>
      right; left
      refine ⟨nodeId, rfl, ⟨node, ?_⟩, rfl⟩
      rw [getNode_of_healthy hhealthy, hlookup]

/-- Every call keeps the nodes under their own identifiers. -/
theorem keyed_step {mesh : WireGuardMesh} (hkeyed : mesh.Keyed) (call : MeshCall) :
    (mesh.step call).Keyed := by
  unfold step
  obtain ⟨added, -, -, hperform⟩ | ⟨removed, -, -, hperform⟩ | ⟨-, message, hperform⟩ :=
    perform_cases hkeyed.healthy call
  · rw [hperform]
    refine ⟨rfl, fun nodeId node hnode ↦ ?_⟩
    rw [getNode_withNode hkeyed.healthy] at hnode
    split_ifs at hnode with hid
    · rw [← Option.some.inj hnode, hid]
    · exact hkeyed.own_id nodeId node hnode
  · rw [hperform]
    refine ⟨rfl, fun nodeId node hnode ↦ ?_⟩
    rw [getNode_withoutNode hkeyed.healthy] at hnode
    split_ifs at hnode with hid
    exact hkeyed.own_id nodeId node hnode
  · rw [hperform]
    exact hkeyed

/-- A call that fails changes nothing. -/
theorem step_of_failed {mesh : WireGuardMesh} (hkeyed : mesh.Keyed) {call : MeshCall}
    {message : String} (hfailed : (mesh.perform call).2 = .error message) :
    mesh.step call = mesh := by
  unfold step
  obtain ⟨node, -, -, hperform⟩ | ⟨nodeId, -, -, hperform⟩ | ⟨-, other, hperform⟩ :=
    perform_cases hkeyed.healthy call
  · rw [hperform] at hfailed
    cases hfailed
  · rw [hperform] at hfailed
    cases hfailed
  · rw [hperform]

/-- A new mesh has no nodes. -/
theorem getNode_new (config : MeshConfig) (nodeId : NodeId) :
    (new config).getNode nodeId = none := by
  rw [getNode_of_healthy rfl]
  exact AList.lookup_empty nodeId

/-- A new mesh is keyed. -/
theorem keyed_new (config : MeshConfig) : (new config).Keyed := by
  refine ⟨rfl, fun nodeId node hnode ↦ ?_⟩
  rw [getNode_new] at hnode
  cases hnode

/-- The nodes of a new mesh are apart. -/
theorem nodesApart_new (config : MeshConfig) : (new config).NodesApart := by
  intro nodeId otherId node other hnode
  rw [getNode_new] at hnode
  cases hnode

/-- Registering a new identifier keeps the nodes apart if and only if the node is apart from the
registered ones. -/
theorem nodesApart_withNode_iff {mesh : WireGuardMesh} (hkeyed : mesh.Keyed)
    (hnodes : mesh.NodesApart) {node : MeshNode} (habsent : mesh.getNode node.nodeId = none) :
    (mesh.withNode node).NodesApart ↔
      ∀ otherId other, mesh.getNode otherId = some other → node.Apart other := by
  have hget := getNode_withNode hkeyed.healthy node
  have hself : (mesh.withNode node).getNode node.nodeId = some node := by rw [hget, if_pos rfl]
  have hdiffers {otherId : NodeId} {other : MeshNode} (hother : mesh.getNode otherId = some other) :
      otherId ≠ node.nodeId := by
    intro hid
    rw [hid, habsent] at hother
    cases hother
  constructor
  · intro hafter otherId other hother
    have hne := hdiffers hother
    apply hafter node.nodeId otherId node other hself
    · rw [hget, if_neg hne]
      exact hother
    · rw [hkeyed.own_id otherId other hother]
      exact hne.symm
  · intro hnode firstId secondId first second hfirst hsecond hids
    rw [hget] at hfirst hsecond
    split_ifs at hfirst hsecond with hfirstId hsecondId hsecondId
    · rw [← Option.some.inj hfirst, ← Option.some.inj hsecond] at hids
      exact absurd rfl hids
    · rw [← Option.some.inj hfirst]
      exact hnode secondId second hsecond
    · rw [← Option.some.inj hsecond]
      exact (hnode firstId first hfirst).symm
    · exact hnodes firstId secondId first second hfirst hsecond hids

/-- Removing a node keeps the others apart. -/
theorem nodesApart_withoutNode {mesh : WireGuardMesh} (hkeyed : mesh.Keyed)
    (hnodes : mesh.NodesApart) (removed : NodeId) : (mesh.withoutNode removed).NodesApart := by
  intro firstId secondId first second hfirst hsecond hids
  rw [getNode_withoutNode hkeyed.healthy] at hfirst hsecond
  split_ifs at hfirst hsecond
  exact hnodes firstId secondId first second hfirst hsecond hids

/-- A call keeps the nodes apart if and only if it brings no node that clashes. -/
theorem nodesApart_step_iff {mesh : WireGuardMesh} (hkeyed : mesh.Keyed)
    (hnodes : mesh.NodesApart) (call : MeshCall) :
    (mesh.step call).NodesApart ↔ mesh.BringsApart call := by
  unfold step
  obtain ⟨node, rfl, habsent, hperform⟩ | ⟨nodeId, rfl, -, hperform⟩ |
    ⟨hpresent, message, hperform⟩ := perform_cases hkeyed.healthy call
  · rw [hperform, nodesApart_withNode_iff hkeyed hnodes habsent]
    exact ⟨fun hnode _ ↦ hnode, fun hbrings ↦ hbrings habsent⟩
  · rw [hperform]
    exact iff_of_true (nodesApart_withoutNode hkeyed hnodes nodeId) trivial
  · rw [hperform]
    apply iff_of_true hnodes
    cases call with
    | removeNode nodeId => exact trivial
    | addNode node =>
      intro habsent
      obtain ⟨other, hother⟩ := hpresent node rfl
      rw [habsent] at hother
      cases hother

/-- In every run of registrations and removals, every node is registered under its own identifier,
a further call that fails changes nothing, and the registered nodes have pairwise different
addresses, disjoint subnets and different keys in every state of the run if and only if every call
that registers a new identifier brings a node that is apart from the nodes registered then. -/
theorem apart_iff_brought_apart (config : MeshConfig) (calls : List MeshCall) :
    (∀ nodeId node, (calls.foldl step (new config)).getNode nodeId = some node →
        node.nodeId = nodeId) ∧
      (∀ call message, ((calls.foldl step (new config)).perform call).2 = .error message →
        (calls.foldl step (new config)).step call = calls.foldl step (new config)) ∧
      (Always step NodesApart (new config) calls ↔
        Throughout step BringsApart (new config) calls) := by
  have hkeyed : (calls.foldl step (new config)).Keyed :=
    (always_of_step (keyed_new config) (fun _ call hkeyed ↦ keyed_step hkeyed call) calls).last
  refine ⟨hkeyed.own_id, ?_, ?_⟩
  · intro call message hfailed
    exact step_of_failed hkeyed hfailed
  · apply always_iff_throughout_of_invariant (keyed_new config)
    · exact fun _ call hkeyed ↦ keyed_step hkeyed call
    · exact nodesApart_new config
    · exact fun _ call hkeyed hnodes ↦ nodesApart_step_iff hkeyed hnodes call

/-- A node with the address, the subnet and the key of the test nodes. -/
def sampleNode (nodeId : NodeId) : MeshNode where
  nodeId := nodeId
  meshIp := .v4 ⟨10, 100, 16, 1⟩
  workloadSubnet := .v4 (workloadNet 0)
  wireguardKey := ⟨"AQEBAQEBAQEBAQEBAQEBAQEBAQEBAQEBAQEBAQEBAQE="⟩
  region := .usWest
  endpoint := none

/-- Two nodes with different identifiers and everything else the same are both registered. -/
theorem clashing_nodes_registered :
    ¬ (([.addNode (sampleNode ⟨1⟩), .addNode (sampleNode ⟨2⟩)] : List MeshCall).foldl step
      (new .default)).NodesApart := by
  intro hnodes
  have hapart := hnodes ⟨1⟩ ⟨2⟩ (sampleNode ⟨1⟩) (sampleNode ⟨2⟩) (by decide) (by decide)
    (by decide)
  exact hapart.1 rfl

end WireGuardMesh

end Clawbernetes.ClawNetwork
