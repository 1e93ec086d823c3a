import Clawbernetes.ClawNode.NetPolicy
import Clawbernetes.ClawNode.ServiceDiscovery
import Clawbernetes.ClawNode.Stores
import Clawbernetes.Library.Interleaving

/-!
# Services and network policies of a node

`service.create`, `service.delete`, `network.policy.create` and `network.policy.delete` of
`network_cmd.rs`. Each command changes the store of services and policies under its lock, gives the
lock back, and then changes the service discovery or the policy engine under another one. The second
half of a creation fails when the name is still registered, and that of a deletion when it is not
registered; a deletion ignores this.

What is registered for a name is decided by the second half that runs last, and what is stored by
the first half that runs last. `names_mirrored_iff` says exactly in which interleavings the two
agree for every name that no command is working on, and so for all names when no command is.
-/

set_option autoImplicit false
set_option relaxedAutoImplicit false

namespace Clawbernetes.ClawNode

open Library.FiniteTable Library.Runs Library.Interleaving

/-- `ServiceEntry`. -/
structure ServiceEntry where
  name : String
  selector : Table String String
  port : UInt16
  protocol : String
  endpoints : List String
  createdAt : ℤ

/-- `NetworkPolicyEntry`. -/
structure NetworkPolicyEntry where
  name : String
  selector : Table String String
  ingressRules : List Value
  egressRules : List Value
  createdAt : ℤ

/-- `ServiceCreateParams`. -/
structure ServiceCreateParams where
  name : String
  selector : Table String String := ∅
  port : UInt16
  protocol : String := "tcp"

/-- `NetworkPolicyCreateParams`. -/
structure NetworkPolicyCreateParams where
  name : String
  selector : Table String String := ∅
  ingress : List Value := []
  egress : List Value := []

/-- `ServiceStore`, as far as services and network policies go. -/
structure ServiceStore where
  services : Table String ServiceEntry
  policies : Table String NetworkPolicyEntry

namespace NetworkCommands

/-- `ServiceStore::create_service`, with the entry that `handle_service_create` makes. -/
def createService (params : ServiceCreateParams) (now : ℤ) (store : ServiceStore) :
    Except String Unit × ServiceStore :=
  let (reply, services) := createRecord "service" store.services params.name
    ⟨params.name, params.selector, params.port, params.protocol, [], now⟩
  (reply, { store with services := services })

/-- `ServiceStore::delete_service`. -/
def deleteService (name : String) (store : ServiceStore) : Except String Unit × ServiceStore :=
  let (reply, services) := deleteRecord "service" store.services name
  (reply, { store with services := services })

/-- `ServiceStore::create_network_policy`, with the entry that `handle_network_policy_create`
makes. -/
def createNetworkPolicy (params : NetworkPolicyCreateParams) (now : ℤ) (store : ServiceStore) :
    Except String Unit × ServiceStore :=
  let (reply, policies) := createRecord "network policy" store.policies params.name
    ⟨params.name, params.selector, params.ingress, params.egress, now⟩
  (reply, { store with policies := policies })

/-- `ServiceStore::delete_network_policy`. -/
def deleteNetworkPolicy (name : String) (store : ServiceStore) :
    Except String Unit × ServiceStore :=
  let (reply, policies) := deleteRecord "network policy" store.policies name
  (reply, { store with policies := policies })

/-- What the commands share: the store, and the service discovery and the policy engine with their
chains. -/
structure Network where
  store : ServiceStore
  discovery : ServiceDiscovery
  serviceChain : List Rule
  engine : PolicyEngine
  policyChain : List PolicyRule

/-- A command, with the clock reading of a creation. -/
inductive Command where
  | serviceCreate (params : ServiceCreateParams) (now : ℤ)
  | serviceDelete (name : String)
  | networkPolicyCreate (params : NetworkPolicyCreateParams) (now : ℤ)
  | networkPolicyDelete (name : String)

/-- The second half of a command whose first half succeeded. -/
inductive SecondHalf where
  | registerService (params : ServiceCreateParams)
  | removeService (name : String)
  | addPolicy (params : NetworkPolicyCreateParams)
  | removePolicy (name : String)

/-- The first half of a command: the store under its lock. A command that fails here ends. -/
def firstHalf (network : Network) : Command → Network × Option SecondHalf
  | .serviceCreate params now => endOrGoOn (createService params now network.store)
      (.registerService params)
  | .serviceDelete name => endOrGoOn (deleteService name network.store) (.removeService name)
  | .networkPolicyCreate params now => endOrGoOn (createNetworkPolicy params now network.store)
      (.addPolicy params)
  | .networkPolicyDelete name => endOrGoOn (deleteNetworkPolicy name network.store)
      (.removePolicy name)
where
  endOrGoOn (result : Except String Unit × ServiceStore) (next : SecondHalf) :
      Network × Option SecondHalf :=
    ({ network with store := result.2 }, result.1.toOption.map fun _ ↦ next)

/-- The second half of a command: the service discovery or the policy engine under its lock. A new
policy is enforced for no workloads. -/
def secondHalf (iptables : Iptables) (network : Network) : SecondHalf → Network
  | .registerService params => { network with
      discovery := (network.discovery.registerService params.name params.port params.protocol
        params.selector).2 }
  | .removeService name =>
    let (_, discovery, chain) := network.discovery.removeService network.serviceChain name
    { network with discovery := discovery, serviceChain := chain }
  | .addPolicy params =>
    let (_, engine, chain) := network.engine.addPolicy iptables network.policyChain params.name
      params.selector params.ingress params.egress []
    { network with engine := engine, policyChain := chain }
  | .removePolicy name =>
    let (_, engine, chain) := network.engine.removePolicy iptables network.policyChain name
    { network with engine := engine, policyChain := chain }

/-- The two halves of the commands. -/
def protocol (iptables : Iptables) : Protocol Network SecondHalf Command Unit where
  begin := firstHalf
  resume _ network task := (secondHalf iptables network task, none)

/-- Nothing stored or registered, with both components there and with or without `iptables`. -/
def start (iptablesAvailable : Bool) : World Network SecondHalf :=
  ⟨⟨⟨∅, ∅⟩, ServiceDiscovery.new iptablesAvailable, [], PolicyEngine.new iptablesAvailable, []⟩, []⟩

/-! ### What is stored and what is registered -/

/-- The name of a service or of a network policy. -/
inductive Key where
  | service (name : String)
  | policy (name : String)
  deriving DecidableEq

/-- What a command or its second half is about. -/
def SecondHalf.key : SecondHalf → Key
  | .registerService params => .service params.name
  | .removeService name => .service name
  | .addPolicy params => .policy params.name
  | .removePolicy name => .policy name

/-- The name is in the store. -/
def Stored (network : Network) : Key → Prop
  | .service name => (network.store.services.lookup name).isSome
  | .policy name => (network.store.policies.lookup name).isSome

/-- The name is registered in the service discovery or the policy engine. -/
def Registered (network : Network) : Key → Prop
  | .service name => (network.discovery.services.lookup name).isSome
  | .policy name => name ∈ network.engine.names

/-- Every name that no command is working on is stored exactly when it is registered. -/
def Mirrored (network : Network) (tasks : List SecondHalf) : Prop :=
  ∀ key, (∀ task ∈ tasks, task.key ≠ key) → (Stored network key ↔ Registered network key)

/-- A second half leaves the name registered: it adds a policy, or registers a service that is
registered already or for which there is a virtual address. -/
def Registers (network : Network) : SecondHalf → Prop
  | .registerService params =>
    (network.discovery.services.lookup params.name).isSome ∨ network.discovery.nextVip < 65534
  | .removeService _ => False
  | .addPolicy _ => True
  | .removePolicy _ => False

/-- When no other command is working on the name, the second half leaves the name registered exactly
when it is stored. -/
def LastAgrees (network : Network) (others : List SecondHalf) (task : SecondHalf) (_ : Unit) :
    Prop :=
  (∀ other ∈ others, other.key ≠ task.key) → (Stored network task.key ↔ Registers network task)

/-! ### What a half does -/

variable {iptables : Iptables} {network : Network}

/-- A change of a table fails and leaves the table, or leaves all names but one. -/
def ChangesOnly {Record : Type*} (records : Table String Record) (name : String)
    (result : Except String Unit × Table String Record) : Prop :=
  (result.1.toOption = none ∧ result.2 = records) ∨
    (result.1.toOption = some () ∧
      ∀ other, other ≠ name → (result.2.lookup other).isSome = (records.lookup other).isSome)

/-- A creation changes one name only. -/
theorem changesOnly_createRecord {Record : Type*} (kind : String) (records : Table String Record)
    (name : String) (record : Record) :
    ChangesOnly records name (createRecord kind records name record) := by
  rcases createRecord_cases kind records name record with ⟨-, hfails⟩ | ⟨-, hcreates⟩
  · rw [hfails]
    exact .inl ⟨rfl, rfl⟩
  · rw [hcreates]
    exact .inr ⟨rfl, fun other hother ↦ by rw [AList.lookup_insert_ne hother]⟩

/-- A deletion changes one name only. -/
theorem changesOnly_deleteRecord {Record : Type*} (kind : String) (records : Table String Record)
    (name : String) : ChangesOnly records name (deleteRecord kind records name) := by
  unfold deleteRecord
  cases records.lookup name with
  | none => exact .inl ⟨rfl, rfl⟩
  | some record => exact .inr ⟨rfl, fun other hother ↦ by rw [AList.lookup_erase_ne hother]⟩

/-- What a first half may do: it leaves what is registered, and ends the command with nothing
changed, or leaves the other names in the store. -/
def FirstHalfSpec (network : Network) (result : Network × Option SecondHalf) : Prop :=
  (result.1.discovery = network.discovery ∧ result.1.engine = network.engine) ∧
    (result = (network, none) ∨ ∃ task, result.2 = some task ∧
      ∀ key, key ≠ task.key → (Stored result.1 key ↔ Stored network key))

/-- A first half that changes one service. -/
theorem firstHalfSpec_services {name : String} {task : SecondHalf}
    {result : Except String Unit × Table String ServiceEntry}
    (hchanges : ChangesOnly network.store.services name result) (hkey : task.key = .service name) :
    FirstHalfSpec network
      (⟨⟨result.2, network.store.policies⟩, network.discovery, network.serviceChain, network.engine,
        network.policyChain⟩, result.1.toOption.map fun _ ↦ task) := by
  refine ⟨⟨rfl, rfl⟩, ?_⟩
  rcases hchanges with ⟨hreply, hsame⟩ | ⟨hreply, hothers⟩
  · rw [hreply, hsame]
    exact .inl rfl
  · rw [hreply]
    refine .inr ⟨task, rfl, fun key hne ↦ ?_⟩
    cases key with
    | service other =>
      have hother : other ≠ name := fun hsame ↦ hne (by rw [hkey, hsame])
      simp only [Stored, hothers other hother]
    | policy other => rfl

/-- A first half that changes one network policy. -/
theorem firstHalfSpec_policies {name : String} {task : SecondHalf}
    {result : Except String Unit × Table String NetworkPolicyEntry}
    (hchanges : ChangesOnly network.store.policies name result) (hkey : task.key = .policy name) :
    FirstHalfSpec network
      (⟨⟨network.store.services, result.2⟩, network.discovery, network.serviceChain, network.engine,
        network.policyChain⟩, result.1.toOption.map fun _ ↦ task) := by
  refine ⟨⟨rfl, rfl⟩, ?_⟩
  rcases hchanges with ⟨hreply, hsame⟩ | ⟨hreply, hothers⟩
  · rw [hreply, hsame]
    exact .inl rfl
  · rw [hreply]
    refine .inr ⟨task, rfl, fun key hne ↦ ?_⟩
    cases key with
    | service other => rfl
    | policy other =>
      have hother : other ≠ name := fun hsame ↦ hne (by rw [hkey, hsame])
      simp only [Stored, hothers other hother]

/-- Every first half does what it may do. -/
theorem firstHalf_spec (network : Network) (command : Command) :
    FirstHalfSpec network (firstHalf network command) := by
  cases command with
  | serviceCreate params now =>
    exact firstHalfSpec_services (changesOnly_createRecord "service" _ params.name _) rfl
  | serviceDelete name =>
    exact firstHalfSpec_services (changesOnly_deleteRecord "service" _ name) rfl
  | networkPolicyCreate params now =>
    exact firstHalfSpec_policies (changesOnly_createRecord "network policy" _ params.name _) rfl
  | networkPolicyDelete name =>
    exact firstHalfSpec_policies (changesOnly_deleteRecord "network policy" _ name) rfl

/-- The services after a registration. -/
theorem isSome_registerService (registry : ServiceDiscovery) (name : String) (port : UInt16)
    (protocol : String) (selector : Table String String) (other : String) :
    ((registry.registerService name port protocol selector).2.services.lookup other).isSome ↔
      if other = name then (registry.services.lookup name).isSome ∨ registry.nextVip < 65534
      else (registry.services.lookup other).isSome := by
  rcases registry.registerService_cases name port protocol selector with
    ⟨⟨error, hfails⟩, hwhy⟩ | ⟨hnew, hroom, hgives⟩
  · rw [hfails]
    split_ifs with hother
    · rw [hother]
      constructor
      · exact .inl
      · rintro (hknown | hroom)
        · exact hknown
        · exact hwhy.resolve_right (by omega)
    · rfl
  · rw [hgives]
    split_ifs with hother
    · rw [hother, AList.lookup_insert]
      exact iff_of_true rfl (.inr hroom)
    · rw [AList.lookup_insert_ne hother]

/-- The services after a removal. -/
theorem lookup_removeService (registry : ServiceDiscovery) (chain : List Rule)
    (name other : String) :
    (registry.removeService chain name).2.1.services.lookup other =
      if other = name then none else registry.services.lookup other := by
  unfold ServiceDiscovery.removeService
  by_cases hother : other = name
  · rw [if_pos hother, hother]
    cases hlookup : registry.services.lookup name with
    | none => exact hlookup
    | some record => exact AList.lookup_erase name registry.services
  · rw [if_neg hother]
    cases registry.services.lookup name with
    | none => rfl
    | some record => exact AList.lookup_erase_ne hother

/-- An addition leaves the names of the policies different, with the name among them. -/
theorem addPolicy_names (engine : PolicyEngine) (hnames : engine.names.Nodup)
    (chain : List PolicyRule) (name : String) (selector : Table String String)
    (ingress egress : List Value) (workloads : List LabelledWorkload) :
    (engine.addPolicy iptables chain name selector ingress egress workloads).2.1.names.Nodup ∧
      ∀ other, other ∈ (engine.addPolicy iptables chain name selector ingress egress
        workloads).2.1.names ↔ other = name ∨ other ∈ engine.names := by
  rw [engine.names_addPolicy]
  split_ifs with htaken
  · refine ⟨hnames, fun other ↦ ⟨.inr, ?_⟩⟩
    rintro (rfl | hother)
    · exact htaken
    · exact hother
  · rw [List.nodup_append_comm]
    refine ⟨List.nodup_cons.mpr ⟨htaken, hnames⟩, fun other ↦ ?_⟩
    rw [List.mem_append, List.mem_singleton, or_comm]

/-- A removal leaves the names of the policies different, without the name. -/
theorem removePolicy_names (engine : PolicyEngine) (hnames : engine.names.Nodup)
    (chain : List PolicyRule) (name : String) :
    (engine.removePolicy iptables chain name).2.1.names.Nodup ∧
      ∀ other, other ∈ (engine.removePolicy iptables chain name).2.1.names ↔
        other ≠ name ∧ other ∈ engine.names := by
  rw [engine.names_removePolicy]
  exact ⟨hnames.erase name, fun other ↦ hnames.mem_erase_iff⟩

/-- A second half leaves the store and the names of policies different, and decides whether its name
is registered. -/
theorem secondHalf_spec (iptables : Iptables) (hnames : network.engine.names.Nodup)
    (task : SecondHalf) :
    (secondHalf iptables network task).store = network.store ∧
      (secondHalf iptables network task).engine.names.Nodup ∧
      ∀ key, Registered (secondHalf iptables network task) key ↔
        if key = task.key then Registers network task else Registered network key := by
  cases task with
  | registerService params =>
    refine ⟨rfl, hnames, fun key ↦ ?_⟩
    cases key with
    | service other =>
      simp only [SecondHalf.key, Key.service.injEq]
      exact isSome_registerService network.discovery params.name params.port params.protocol
        params.selector other
    | policy other => simp [SecondHalf.key, Registered, secondHalf]
  | removeService name =>
    refine ⟨rfl, hnames, fun key ↦ ?_⟩
    cases key with
    | service other =>
      simp only [SecondHalf.key, Key.service.injEq, Registered, Registers, secondHalf,
        lookup_removeService]
      split_ifs with hother <;> simp
    | policy other => simp [SecondHalf.key, Registered, secondHalf]
  | addPolicy params =>
    obtain ⟨hnodup, hmem⟩ := addPolicy_names network.engine hnames network.policyChain params.name
      params.selector params.ingress params.egress []
    refine ⟨rfl, hnodup, fun key ↦ ?_⟩
    cases key with
    | service other => simp [SecondHalf.key, Registered, secondHalf]
    | policy other =>
      refine (hmem other).trans ?_
      simp only [SecondHalf.key, Key.policy.injEq, Registered, Registers]
      by_cases hother : other = params.name <;> simp [hother]
  | removePolicy name =>
    obtain ⟨hnodup, hmem⟩ := removePolicy_names network.engine hnames network.policyChain name
    refine ⟨rfl, hnodup, fun key ↦ ?_⟩
    cases key with
    | service other => simp [SecondHalf.key, Registered, secondHalf]
    | policy other =>
      refine (hmem other).trans ?_
      simp only [SecondHalf.key, Key.policy.injEq, Registered, Registers]
      by_cases hother : other = name <;> simp [hother]

/-! ### Interleavings -/

/-- A first half keeps the names mirrored: it works on the one name that it may change. -/
theorem mirrored_firstHalf {tasks : List SecondHalf} (hmirrored : Mirrored network tasks)
    (command : Command) :
    Mirrored (firstHalf network command).1 ((firstHalf network command).2.toList ++ tasks) := by
  obtain ⟨⟨hdiscovery, hengine⟩, hends | ⟨task, htask, hothers⟩⟩ := firstHalf_spec network command
  · rw [hends]
    exact hmirrored
  · intro key hfree
    rw [htask] at hfree
    have hne : key ≠ task.key := (hfree task (List.mem_append_left tasks (by simp))).symm
    have hregistered : Registered (firstHalf network command).1 key ↔ Registered network key := by
      cases key with
      | service name => simp only [Registered, hdiscovery]
      | policy name => simp only [Registered, hengine]
    have hbefore := hmirrored key fun other hother ↦ hfree other (List.mem_append_right _ hother)
    exact (hothers key hne).trans (hbefore.trans hregistered.symm)

/-- A second half leaves the names mirrored exactly when it agrees with the store or another command
is working on the name. -/
theorem mirrored_secondHalf_iff {tasks : List SecondHalf} {task : SecondHalf}
    (hnames : network.engine.names.Nodup) (hmirrored : Mirrored network (task :: tasks)) :
    Mirrored (secondHalf iptables network task) tasks ↔ LastAgrees network tasks task () := by
  obtain ⟨hstore, -, hregistered⟩ := secondHalf_spec iptables hnames task
  have hstored : ∀ key, Stored (secondHalf iptables network task) key ↔ Stored network key := by
    intro key
    cases key <;> simp only [Stored, hstore]
  constructor
  · intro hafter hfree
    have hkey := hafter task.key hfree
    rwa [hstored, hregistered, if_pos rfl] at hkey
  · intro hagrees key hfree
    rw [hstored, hregistered]
    split_ifs with hkey
    · rw [hkey] at hfree ⊢
      exact hagrees hfree
    · refine hmirrored key fun other hother ↦ ?_
      rcases List.mem_cons.mp hother with rfl | hother
      · exact fun hsame ↦ hkey hsame.symm
      · exact hfree other hother

/-- Every half leaves the names of the policies different. -/
theorem nodup_names_step (iptables : Iptables) (world : World Network SecondHalf)
    (move : Move Command Unit) (hnames : world.shared.engine.names.Nodup) :
    ((protocol iptables).step world move).shared.engine.names.Nodup := by
  refine (protocol iptables).shared_step (fun network ↦ network.engine.names.Nodup) ?_ ?_ world move
    hnames
  · intro network command hbefore
    change (firstHalf network command).1.engine.names.Nodup
    rw [(firstHalf_spec network command).1.2]
    exact hbefore
  · exact fun network task _ hbefore ↦ (secondHalf_spec iptables hbefore task).2.1

/-- A half leaves the names mirrored exactly when it is a first half or a second half that
agrees. -/
theorem mirrored_step_iff (world : World Network SecondHalf) (move : Move Command Unit)
    (hnames : world.shared.engine.names.Nodup)
    (hmirrored : Mirrored world.shared world.pending) :
    Mirrored ((protocol iptables).step world move).shared
        ((protocol iptables).step world move).pending ↔
      Protocol.Allowed (fun _ _ _ ↦ True) LastAgrees world move := by
  have hafter := nodup_names_step iptables world move hnames
  refine (and_iff_right hafter).symm.trans ?_
  refine (protocol iptables).good_step_iff
    (fun network tasks ↦ network.engine.names.Nodup ∧ Mirrored network tasks) ?_ ?_ ?_ world move
    ⟨hnames, hmirrored⟩
  · rintro network first second hperm ⟨hdistinct, hbefore⟩
    exact ⟨hdistinct, fun key hfree ↦ hbefore key fun task htask ↦ hfree task (hperm.subset htask)⟩
  · rintro network tasks command ⟨hdistinct, hbefore⟩
    refine iff_of_true ⟨?_, mirrored_firstHalf hbefore command⟩ trivial
    change (firstHalf network command).1.engine.names.Nodup
    rw [(firstHalf_spec network command).1.2]
    exact hdistinct
  · rintro network tasks task choice ⟨hdistinct, hbefore⟩
    exact (and_iff_right (secondHalf_spec iptables hdistinct task).2.1).trans
      (mirrored_secondHalf_iff hdistinct hbefore)

/-- In an interleaving of commands every name that no command is working on is stored exactly when
it is registered, at all times, if and only if every second half that runs with no other command
working on its name registers a name that is stored or removes one that is not. Then all names agree
whenever no command is on its way. -/
theorem names_mirrored_iff (iptables : Iptables) (iptablesAvailable : Bool)
    (moves : List (Move Command Unit)) :
    (Always (protocol iptables).step (fun world ↦ Mirrored world.shared world.pending)
        (start iptablesAvailable) moves ↔
      Throughout (protocol iptables).step (Protocol.Allowed (fun _ _ _ ↦ True) LastAgrees)
        (start iptablesAvailable) moves) ∧
    (Throughout (protocol iptables).step (Protocol.Allowed (fun _ _ _ ↦ True) LastAgrees)
        (start iptablesAvailable) moves →
      Always (protocol iptables).step (fun world ↦ Protocol.Quiescent world →
        ∀ key, Stored world.shared key ↔ Registered world.shared key)
        (start iptablesAvailable) moves) := by
  have hiff : Always (protocol iptables).step (fun world ↦ Mirrored world.shared world.pending)
      (start iptablesAvailable) moves ↔
        Throughout (protocol iptables).step (Protocol.Allowed (fun _ _ _ ↦ True) LastAgrees)
          (start iptablesAvailable) moves := by
    have hnames : (start iptablesAvailable).shared.engine.names.Nodup := List.nodup_nil
    refine always_iff_throughout_of_invariant hnames (nodup_names_step iptables) ?_
      mirrored_step_iff
    intro key _
    cases key <;> simp [Stored, Registered, start, ServiceDiscovery.new, PolicyEngine.new,
      PolicyEngine.names]
  refine ⟨hiff, fun hallowed done hdone hquiescent key ↦ ?_⟩
  refine hiff.mpr hallowed done hdone key fun task htask ↦ ?_
  rw [hquiescent] at htask
  cases htask

/-- A creation and a deletion of one service whose second halves run in the other order than their
first halves leave a service registered that is not stored. -/
theorem deleted_service_registered :
    let moves : List (Move Command Unit) := [.begin (.serviceCreate ⟨"web", ∅, 80, "tcp"⟩ 0),
      .begin (.serviceDelete "web"), .resume 1 (), .resume 0 ()]
    let after := moves.foldl (protocol plainIptables).step (start true)
    Protocol.Quiescent after ∧ ¬Stored after.shared (.service "web") ∧
      Registered after.shared (.service "web") := by
  intro moves after
  refine ⟨rfl, ?_, rfl⟩
  exact Bool.false_ne_true

end NetworkCommands

end Clawbernetes.ClawNode
