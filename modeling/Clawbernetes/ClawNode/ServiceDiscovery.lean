import Clawbernetes.ClawNode.DnatRules
import Clawbernetes.Library.FiniteTable
import Clawbernetes.Library.Runs

/-!
# Service discovery

`ServiceDiscovery` of `service_discovery.rs`: services with a virtual address each, from a counter,
and with endpoints, for whose healthy ones rules are written into the nat chain. The state is the
registry together with the chain.

The table of addresses is the inverse of the table of services, and no address is given out twice
(`registry_consistent`). The price is that no address comes back: registrations are used up after
`65533` of them, whatever was removed (`fails_only_when_full_iff`).
-/

set_option autoImplicit false
set_option relaxedAutoImplicit false

namespace Clawbernetes.ClawNode

open Library.Addresses Library.FiniteTable Library.Runs

/-- `Endpoint`. -/
structure Endpoint where
  ip : Ipv4Addr
  port : UInt16
  containerId : String
  healthy : Bool
  deriving DecidableEq

/-- `ServiceRecord`. -/
structure ServiceRecord where
  name : String
  clusterIp : Ipv4Addr
  port : UInt16
  protocol : String
  selector : Table String String
  endpoints : List Endpoint

/-- The healthy endpoints, as `update_endpoints` writes them into rules. -/
def backends (endpoints : List Endpoint) : List (Ipv4Addr × UInt16) :=
  (endpoints.filter (·.healthy)).map fun endpoint ↦ (endpoint.ip, endpoint.port)

/-- The rules that the healthy endpoints of a service give. -/
def ServiceRecord.rules (record : ServiceRecord) : List Rule :=
  dnatRules record.clusterIp record.port record.protocol (backends record.endpoints)

/-- A running workload, as `refresh_all_endpoints` gets it. -/
structure Workload where
  containerId : String
  ip : Ipv4Addr
  port : UInt16
  labels : Table String String

/-- `matches_selector`. -/
def matchesSelector (labels selector : Table String String) : Bool :=
  if selector.entries = [] then false
  else selector.entries.all fun entry ↦ decide (labels.lookup entry.1 = some entry.2)

/-- The address of a number in `10.201.0.0/16`, as `allocate_vip` makes it. -/
def vipAddress (number : ℕ) : Ipv4Addr :=
  ⟨10, 201, UInt8.ofNat (number >>> 8), UInt8.ofNat (number &&& 0xff)⟩

/-- `ServiceDiscovery`. -/
structure ServiceDiscovery where
  services : Table String ServiceRecord
  vipToService : Table Ipv4Addr String
  nextVip : ℕ
  iptablesAvailable : Bool

namespace ServiceDiscovery

/-- `ServiceDiscovery::new`, with or without `iptables`. -/
def new (iptablesAvailable : Bool) : ServiceDiscovery := ⟨∅, ∅, 1, iptablesAvailable⟩

/-- `ServiceDiscovery::allocate_vip`. -/
def allocateVip (registry : ServiceDiscovery) : Except String Ipv4Addr × ServiceDiscovery :=
  if 65534 ≤ registry.nextVip then (.error "ClusterIP range exhausted", registry)
  else (.ok (vipAddress registry.nextVip), { registry with nextVip := registry.nextVip + 1 })

/-- `ServiceDiscovery::register_service`. -/
def registerService (registry : ServiceDiscovery) (name : String) (port : UInt16)
    (protocol : String) (selector : Table String String) :
    Except String Ipv4Addr × ServiceDiscovery :=
  if (registry.services.lookup name).isSome then
    (.error ("service '" ++ name ++ "' already exists"), registry)
  else
    match registry.allocateVip with
    | (.error error, registry) => (.error error, registry)
    | (.ok vip, registry) => (.ok vip, { registry with
        vipToService := registry.vipToService.insert vip name
        services := registry.services.insert name ⟨name, vip, port, protocol, selector, []⟩ })

/-- `ServiceDiscovery::update_endpoints`, on the registry and the chain. -/
def updateEndpoints (registry : ServiceDiscovery) (chain : List Rule) (name : String)
    (endpoints : List Endpoint) : Except String Unit × ServiceDiscovery × List Rule :=
  match registry.services.lookup name with
  | none => (.error ("service '" ++ name ++ "' not found"), registry, chain)
  | some record =>
    (.ok (), { registry with
        services := registry.services.replace name { record with endpoints := endpoints } },
      if registry.iptablesAvailable then
        applyDnatRules record.clusterIp record.port record.protocol (backends endpoints) chain
      else chain)

/-- `ServiceDiscovery::remove_service`, on the registry and the chain. -/
def removeService (registry : ServiceDiscovery) (chain : List Rule) (name : String) :
    Except String Ipv4Addr × ServiceDiscovery × List Rule :=
  match registry.services.lookup name with
  | none => (.error ("service '" ++ name ++ "' not found"), registry, chain)
  | some record =>
    (.ok record.clusterIp, { registry with
        services := registry.services.erase name
        vipToService := registry.vipToService.erase record.clusterIp },
      if registry.iptablesAvailable then removeDnatRules record.clusterIp chain else chain)

/-- The endpoints of a service among the running workloads. -/
def matchingEndpoints (workloads : List Workload) (record : ServiceRecord) : List Endpoint :=
  (workloads.filter fun workload ↦ matchesSelector workload.labels record.selector).map
    fun workload ↦ ⟨workload.ip, record.port, workload.containerId, true⟩

/-- The round of `refresh_all_endpoints` for one service. Its name is one of the keys, so it is
found. -/
def refreshEndpoints (workloads : List Workload) (state : ServiceDiscovery × List Rule)
    (name : String) : ServiceDiscovery × List Rule :=
  match state.1.services.lookup name with
  | none => state
  | some record => (state.1.updateEndpoints state.2 name (matchingEndpoints workloads record)).2

/-- `ServiceDiscovery::refresh_all_endpoints`, on the registry and the chain. -/
def refreshAllEndpoints (registry : ServiceDiscovery) (chain : List Rule)
    (workloads : List Workload) : ServiceDiscovery × List Rule :=
  registry.services.keys.foldl (refreshEndpoints workloads) (registry, chain)

/-- A call of an operation. -/
inductive Call where
  | registerService (name : String) (port : UInt16) (protocol : String)
      (selector : Table String String)
  | updateEndpoints (name : String) (endpoints : List Endpoint)
  | removeService (name : String)
  | refreshAllEndpoints (workloads : List Workload)

/-- The reply to a call, with the address of the service that was registered or removed, and the
registry and the chain after it. -/
def call (state : ServiceDiscovery × List Rule) :
    Call → Except String (Option Ipv4Addr) × ServiceDiscovery × List Rule
  | .registerService name port protocol selector =>
    let (reply, registry) := state.1.registerService name port protocol selector
    (reply.map some, registry, state.2)
  | .updateEndpoints name endpoints =>
    let (reply, after) := state.1.updateEndpoints state.2 name endpoints
    (reply.map fun _ ↦ none, after)
  | .removeService name =>
    let (reply, after) := state.1.removeService state.2 name
    (reply.map some, after)
  | .refreshAllEndpoints workloads => (.ok none, state.1.refreshAllEndpoints state.2 workloads)

/-- The registry and the chain after a call. -/
def step (state : ServiceDiscovery × List Rule) (request : Call) : ServiceDiscovery × List Rule :=
  (call state request).2

variable {registry : ServiceDiscovery} {chain : List Rule} {name : String}

/-! ### Addresses -/

/-- The number of an address of a service. -/
theorem toNat_vipAddress {number : ℕ} (hnumber : number < 2 ^ 16) :
    (vipAddress number).toNat = 10 * 2 ^ 24 + 201 * 2 ^ 16 + number := by
  have hlow : number &&& 0xff = number % 2 ^ 8 := Nat.and_two_pow_sub_one_eq_mod number 8
  have hfirst : (10 : UInt8).toNat = 10 := rfl
  have hsecond : (201 : UInt8).toNat = 201 := rfl
  unfold vipAddress Ipv4Addr.toNat
  simp only [hlow, Nat.shiftRight_eq_div_pow, UInt8.toNat_ofNat', hfirst, hsecond]
  omega

/-- Different numbers give different addresses. -/
theorem vipAddress_inj {first second : ℕ} (hfirst : first < 2 ^ 16) (hsecond : second < 2 ^ 16)
    (hsame : vipAddress first = vipAddress second) : first = second := by
  have hnumber := congrArg Ipv4Addr.toNat hsame
  rw [toNat_vipAddress hfirst, toNat_vipAddress hsecond] at hnumber
  omega

/-- The network of the virtual addresses. -/
def serviceNet : Ipv4Net := ⟨⟨10, 201, 0, 0⟩, 16, Ipv4Net.sixteen_le⟩

/-- The addresses that are given out are hosts of the network. -/
theorem isHost_vipAddress {number : ℕ} (hpositive : 1 ≤ number) (hnumber : number < 65535) :
    serviceNet.IsHost (vipAddress number) := by
  have hnetwork : serviceNet.network.toNat = 10 * 2 ^ 24 + 201 * 2 ^ 16 := by decide
  have hsize : serviceNet.size = 2 ^ 16 := rfl
  refine Ipv4Net.isHost_of_toNat ?_ hpositive (by rw [hsize]; omega)
  rw [hnetwork, toNat_vipAddress (by omega)]

/-! ### The registry -/

/-- The address of a registered service. -/
def vipOf (registry : ServiceDiscovery) (name : String) : Option Ipv4Addr :=
  (registry.services.lookup name).map ServiceRecord.clusterIp

/-- The invariant: the table of addresses is the inverse of the addresses of the services, and these
are addresses that the counter has passed. -/
structure Registered (registry : ServiceDiscovery) : Prop where
  inverse : ∀ vip name, registry.vipToService.lookup vip = some name ↔
    registry.vipOf name = some vip
  passed : ∀ name vip, registry.vipOf name = some vip →
    ∃ number, 1 ≤ number ∧ number < registry.nextVip ∧ vip = vipAddress number
  one_le : 1 ≤ registry.nextVip
  le_max : registry.nextVip ≤ 65534

/-- A new registry is empty. -/
theorem registered_new (iptablesAvailable : Bool) : (new iptablesAvailable).Registered where
  inverse := by
    intro vip name
    constructor
    · intro hfound
      cases hfound
    · intro hfound
      cases hfound
  passed := by
    intro name vip hvip
    cases hvip
  one_le := le_refl 1
  le_max := show 1 ≤ 65534 by decide

/-- A registration fails and changes nothing, or it gives the next address to a new name. -/
theorem registerService_cases (registry : ServiceDiscovery) (name : String) (port : UInt16)
    (protocol : String) (selector : Table String String) :
    ((∃ error, registry.registerService name port protocol selector = (.error error, registry)) ∧
        ((registry.services.lookup name).isSome ∨ 65534 ≤ registry.nextVip)) ∨
      registry.services.lookup name = none ∧ registry.nextVip < 65534 ∧
        registry.registerService name port protocol selector =
          (.ok (vipAddress registry.nextVip), { registry with
            nextVip := registry.nextVip + 1
            vipToService := registry.vipToService.insert (vipAddress registry.nextVip) name
            services := registry.services.insert name
              ⟨name, vipAddress registry.nextVip, port, protocol, selector, []⟩ }) := by
  unfold registerService allocateVip
  split_ifs with hknown hexhausted
  · exact .inl ⟨⟨_, rfl⟩, .inl hknown⟩
  · exact .inl ⟨⟨_, rfl⟩, .inr hexhausted⟩
  · exact .inr ⟨by simpa using hknown, Nat.lt_of_not_le hexhausted, rfl⟩

/-- The addresses that the counter has not passed are not in use. -/
theorem Registered.vipOf_ne (hregistered : registry.Registered) {number : ℕ}
    (hahead : registry.nextVip ≤ number) (hnumber : number < 2 ^ 16) (name : String) :
    registry.vipOf name ≠ some (vipAddress number) := by
  intro hvip
  obtain ⟨passed, -, hpassed, hsame⟩ := hregistered.passed name _ hvip
  have hsame := vipAddress_inj hnumber (by omega) hsame
  omega

/-- The addresses of the services when one is added. -/
theorem vipOf_insert (registry : ServiceDiscovery) (vips : Table Ipv4Addr String) (next : ℕ)
    (record : ServiceRecord) :
    vipOf { registry with
      nextVip := next
      vipToService := vips
      services := registry.services.insert name record } =
      Function.update registry.vipOf name (some record.clusterIp) := by
  funext other
  unfold vipOf
  by_cases hother : other = name
  · subst hother
    rw [AList.lookup_insert, Function.update_self]
    rfl
  · rw [AList.lookup_insert_ne hother, Function.update_of_ne hother]

/-- The addresses of the services when one is removed. -/
theorem vipOf_erase (registry : ServiceDiscovery) (vips : Table Ipv4Addr String) :
    vipOf { registry with
      services := registry.services.erase name
      vipToService := vips } = Function.update registry.vipOf name none := by
  funext other
  unfold vipOf
  by_cases hother : other = name
  · subst hother
    rw [AList.lookup_erase, Function.update_self]
    rfl
  · rw [AList.lookup_erase_ne hother, Function.update_of_ne hother]

/-- A registration keeps the invariant. -/
theorem Registered.registerService (hregistered : registry.Registered) (name : String)
    (port : UInt16) (protocol : String) (selector : Table String String) :
    (registry.registerService name port protocol selector).2.Registered := by
  have hmax := hregistered.le_max
  rcases registerService_cases registry name port protocol selector with
    ⟨⟨error, hfails⟩, -⟩ | ⟨hnew, hroom, hgives⟩
  · rw [hfails]
    exact hregistered
  · have hfresh := hregistered.vipOf_ne (Nat.le_refl _) (by omega)
    have hunknown : registry.vipOf name = none := by
      rw [vipOf, hnew]
      rfl
    have hinverts : Inverts registry.vipToService registry.vipOf := hregistered.inverse
    rw [hgives]
    refine ⟨?_, fun other vip hvip ↦ ?_, Nat.le_add_left _ _, hroom⟩
    · rw [vipOf_insert]
      exact hinverts.insert hunknown hfresh
    · rw [vipOf_insert] at hvip
      change ∃ number, 1 ≤ number ∧ number < registry.nextVip + 1 ∧ vip = vipAddress number
      by_cases hother : other = name
      · rw [hother, Function.update_self] at hvip
        exact ⟨registry.nextVip, hregistered.one_le, Nat.lt_succ_self _,
          (Option.some_inj.mp hvip).symm⟩
      · rw [Function.update_of_ne hother] at hvip
        obtain ⟨number, hpositive, hpassed, hsame⟩ := hregistered.passed other vip hvip
        exact ⟨number, hpositive, Nat.lt_succ_of_lt hpassed, hsame⟩

/-- Registries with the same tables and counter, up to endpoints, are alike. -/
theorem Registered.congr (hregistered : registry.Registered) {other : ServiceDiscovery}
    (hvips : other.vipToService = registry.vipToService)
    (hvipOf : ∀ name, other.vipOf name = registry.vipOf name)
    (hnext : other.nextVip = registry.nextVip) : other.Registered where
  inverse := fun vip name ↦ by
    rw [hvips, hvipOf]
    exact hregistered.inverse vip name
  passed := fun name vip hvip ↦ by
    rw [hvipOf] at hvip
    rw [hnext]
    exact hregistered.passed name vip hvip
  one_le := hnext ▸ hregistered.one_le
  le_max := hnext ▸ hregistered.le_max

/-- The registries before and after differ in endpoints of services only, which a change gives. -/
structure EndpointsChanged (change : String → ServiceRecord → List Endpoint)
    (before after : ServiceDiscovery) : Prop where
  services : ∀ name, after.services.lookup name =
    (before.services.lookup name).map fun record ↦
      { record with endpoints := change name record }
  vipToService : after.vipToService = before.vipToService
  nextVip : after.nextVip = before.nextVip
  iptablesAvailable : after.iptablesAvailable = before.iptablesAvailable

/-- A change of endpoints keeps the invariant. -/
theorem EndpointsChanged.registered {change : String → ServiceRecord → List Endpoint}
    {after : ServiceDiscovery} (hchanged : EndpointsChanged change registry after)
    (hregistered : registry.Registered) : after.Registered := by
  refine hregistered.congr hchanged.vipToService (fun name ↦ ?_) hchanged.nextVip
  unfold vipOf
  rw [hchanged.services, Option.map_map]
  rfl

/-- An update of a service changes the endpoints of this one only. -/
theorem endpointsChanged_updateEndpoints {record : ServiceRecord}
    (hlookup : registry.services.lookup name = some record) (chain : List Rule)
    (endpoints : List Endpoint) :
    EndpointsChanged (fun other old ↦ if other = name then endpoints else old.endpoints) registry
      (registry.updateEndpoints chain name endpoints).2.1 := by
  unfold updateEndpoints
  rw [hlookup]
  refine ⟨fun other ↦ ?_, rfl, rfl, rfl⟩
  change (registry.services.replace name { record with endpoints := endpoints }).lookup other = _
  by_cases hother : other = name
  · subst hother
    have hpresent : other ∈ registry.services := AList.lookup_isSome.mp (by rw [hlookup]; rfl)
    rw [lookup_replace hpresent, hlookup]
    simp
  · rw [lookup_replace_ne hother]
    simp [hother]

/-- A removal keeps the invariant. -/
theorem Registered.removeService (hregistered : registry.Registered) (chain : List Rule)
    (name : String) : (registry.removeService chain name).2.1.Registered := by
  unfold ServiceDiscovery.removeService
  cases hlookup : registry.services.lookup name with
  | none => exact hregistered
  | some record =>
    have hknown : registry.vipOf name = some record.clusterIp := by
      rw [vipOf, hlookup]
      rfl
    have hinverts : Inverts registry.vipToService registry.vipOf := hregistered.inverse
    refine ⟨?_, fun other vip hvip ↦ ?_, hregistered.one_le, hregistered.le_max⟩
    · rw [vipOf_erase]
      exact hinverts.erase hknown
    · rw [vipOf_erase] at hvip
      by_cases hother : other = name
      · rw [hother, Function.update_self] at hvip
        cases hvip
      · rw [Function.update_of_ne hother] at hvip
        exact hregistered.passed other vip hvip

/-! ### The refresh of all endpoints -/

/-- Two changes of endpoints after one another. -/
theorem EndpointsChanged.trans {first second : String → ServiceRecord → List Endpoint}
    {middle after : ServiceDiscovery} (hfirst : EndpointsChanged first registry middle)
    (hsecond : EndpointsChanged second middle after) :
    EndpointsChanged (fun name record ↦
      second name { record with endpoints := first name record }) registry after where
  services := fun name ↦ by
    rw [hsecond.services, hfirst.services, Option.map_map]
    rfl
  vipToService := hsecond.vipToService.trans hfirst.vipToService
  nextVip := hsecond.nextVip.trans hfirst.nextVip
  iptablesAvailable := hsecond.iptablesAvailable.trans hfirst.iptablesAvailable

/-- The round of one service sets the endpoints of this one to the matching workloads. -/
theorem endpointsChanged_refreshEndpoints (workloads : List Workload)
    (state : ServiceDiscovery × List Rule) (name : String) :
    EndpointsChanged (fun other record ↦
      if other = name then matchingEndpoints workloads record else record.endpoints) state.1
      (refreshEndpoints workloads state name).1 := by
  unfold refreshEndpoints
  cases hlookup : state.1.services.lookup name with
  | none =>
    refine ⟨fun other ↦ ?_, rfl, rfl, rfl⟩
    by_cases hother : other = name
    · rw [hother, hlookup]
      rfl
    · simp [hother]
  | some record =>
    have hchanged := endpointsChanged_updateEndpoints hlookup state.2
      (matchingEndpoints workloads record)
    refine ⟨fun other ↦ ?_, hchanged.vipToService, hchanged.nextVip, hchanged.iptablesAvailable⟩
    rw [hchanged.services]
    by_cases hother : other = name
    · rw [hother, hlookup]
      simp
    · simp [hother]

/-- The rounds for some services set their endpoints. The matching workloads of a service do not
depend on its endpoints, so the rounds do not disturb each other. -/
theorem endpointsChanged_foldl (workloads : List Workload) (names : List String) :
    ∀ state : ServiceDiscovery × List Rule,
      EndpointsChanged (fun other record ↦
        if other ∈ names then matchingEndpoints workloads record else record.endpoints) state.1
        (names.foldl (refreshEndpoints workloads) state).1 := by
  induction names with
  | nil => exact fun state ↦ ⟨fun other ↦ by simp, rfl, rfl, rfl⟩
  | cons name rest ih =>
    intro state
    have hboth := (endpointsChanged_refreshEndpoints workloads state name).trans
      (ih (refreshEndpoints workloads state name))
    refine ⟨fun other ↦ ?_, hboth.vipToService, hboth.nextVip, hboth.iptablesAvailable⟩
    rw [List.foldl_cons, hboth.services]
    congr 1
    funext record
    have hmatching : matchingEndpoints workloads { record with
        endpoints := if other = name then matchingEndpoints workloads record
          else record.endpoints } = matchingEndpoints workloads record := rfl
    rw [hmatching]
    by_cases hrest : other ∈ rest
    · simp [hrest]
    · by_cases hname : other = name
      · simp [hname]
      · simp [hrest, hname]

/-- A refresh sets the endpoints of every service to its matching workloads, and changes nothing
else of the registry. -/
theorem endpointsChanged_refreshAllEndpoints (registry : ServiceDiscovery) (chain : List Rule)
    (workloads : List Workload) :
    EndpointsChanged (fun _ record ↦ matchingEndpoints workloads record) registry
      (registry.refreshAllEndpoints chain workloads).1 := by
  have hchanged := endpointsChanged_foldl workloads registry.services.keys (registry, chain)
  refine ⟨fun name ↦ ?_, hchanged.vipToService, hchanged.nextVip, hchanged.iptablesAvailable⟩
  unfold refreshAllEndpoints
  rw [hchanged.services]
  cases hlookup : registry.services.lookup name with
  | none => rfl
  | some record =>
    have hkey : name ∈ registry.services.keys :=
      AList.mem_keys.mp (AList.lookup_isSome.mp (by rw [hlookup]; rfl))
    simp [hkey]

/-- A selector matches when it is not empty and all its labels are there. -/
theorem matchesSelector_iff {labels selector : Table String String} :
    matchesSelector labels selector = true ↔ selector.entries ≠ [] ∧
      ∀ key value, selector.lookup key = some value → labels.lookup key = some value := by
  unfold matchesSelector
  split_ifs with hempty
  · exact iff_of_false (fun hfalse ↦ by cases hfalse) fun hboth ↦ hboth.1 hempty
  · rw [and_iff_right hempty, List.all_eq_true]
    constructor
    · intro hall key value hlookup
      have hentry := hall ⟨key, value⟩ (AList.mem_lookup_iff.mp hlookup)
      simpa using hentry
    · intro hall entry hentry
      have hlookup : selector.lookup entry.1 = some entry.2 := AList.mem_lookup_iff.mpr hentry
      simpa using hall entry.1 entry.2 hlookup

/-! ### Runs -/

/-- Every call keeps the invariant. -/
theorem Registered.step {state : ServiceDiscovery × List Rule}
    (hregistered : state.1.Registered) (request : Call) :
    (ServiceDiscovery.step state request).1.Registered := by
  cases request with
  | registerService name port protocol selector =>
    exact hregistered.registerService name port protocol selector
  | updateEndpoints name endpoints =>
    cases hlookup : state.1.services.lookup name with
    | none =>
      simp only [ServiceDiscovery.step, call, updateEndpoints, hlookup]
      exact hregistered
    | some record =>
      exact (endpointsChanged_updateEndpoints hlookup state.2 endpoints).registered hregistered
  | removeService name => exact hregistered.removeService state.2 name
  | refreshAllEndpoints workloads =>
    exact (endpointsChanged_refreshAllEndpoints state.1 state.2 workloads).registered hregistered

/-- In every state of a run the invariant holds. -/
theorem registered_foldl (iptablesAvailable : Bool) (chain : List Rule) (calls : List Call) :
    (calls.foldl step (new iptablesAvailable, chain)).1.Registered := by
  have halways : Always step (fun state ↦ state.1.Registered) (new iptablesAvailable, chain)
      calls := by
    refine always_of_step ?_ (fun state request hregistered ↦ ?_) calls
    · exact registered_new iptablesAvailable
    · exact hregistered.step request
  exact halways.last

/-- A call registers a name that is not registered. -/
def registersNew (state : ServiceDiscovery × List Rule) : Call → Bool
  | .registerService name _ _ _ => (state.1.services.lookup name).isNone
  | _ => false

/-- The address that a call gives to a service. -/
def given (state : ServiceDiscovery × List Rule) : Call → Option Ipv4Addr
  | .registerService name port protocol selector =>
    (state.1.registerService name port protocol selector).1.toOption
  | _ => none

/-- The addresses that a run gives to services. -/
def issued : ServiceDiscovery × List Rule → List Call → List Ipv4Addr
  | _, [] => []
  | state, request :: rest => (given state request).toList ++ issued (step state request) rest

/-- A registration of a new name takes the next address as long as there is one, and no other call
touches the counter. -/
theorem given_cases (state : ServiceDiscovery × List Rule) (request : Call) :
    (registersNew state request = true ∧ state.1.nextVip < 65534 ∧
        given state request = some (vipAddress state.1.nextVip) ∧
        (step state request).1.nextVip = state.1.nextVip + 1) ∨
      (registersNew state request = true → 65534 ≤ state.1.nextVip) ∧
        given state request = none ∧ (step state request).1.nextVip = state.1.nextVip := by
  cases request with
  | registerService name port protocol selector =>
    simp only [registersNew, given, step, call]
    rcases registerService_cases state.1 name port protocol selector with
      ⟨⟨error, hfails⟩, hreason⟩ | ⟨hnew, hroom, hgives⟩
    · rw [hfails]
      refine .inr ⟨fun hnew ↦ hreason.resolve_left ?_, rfl, rfl⟩
      simpa using hnew
    · rw [hgives]
      exact .inl ⟨by rw [hnew]; rfl, hroom, rfl, rfl⟩
  | updateEndpoints name endpoints =>
    refine .inr ⟨fun hnew ↦ absurd hnew Bool.false_ne_true, rfl, ?_⟩
    simp only [step, call, updateEndpoints]
    split <;> rfl
  | removeService name =>
    refine .inr ⟨fun hnew ↦ absurd hnew Bool.false_ne_true, rfl, ?_⟩
    simp only [step, call, removeService]
    split <;> rfl
  | refreshAllEndpoints workloads =>
    refine .inr ⟨fun hnew ↦ absurd hnew Bool.false_ne_true, rfl, ?_⟩
    exact (endpointsChanged_refreshAllEndpoints state.1 state.2 workloads).nextVip

/-- A run gives addresses from its counter on. -/
theorem mem_issued {calls : List Call} {vip : Ipv4Addr} :
    ∀ {state : ServiceDiscovery × List Rule}, vip ∈ issued state calls →
      ∃ number, state.1.nextVip ≤ number ∧ number < 65534 ∧ vip = vipAddress number := by
  induction calls with
  | nil => intro state hvip; cases hvip
  | cons request rest ih =>
    intro state hvip
    rw [issued, List.mem_append] at hvip
    rcases given_cases state request with ⟨-, hroom, hgiven, hnext⟩ | ⟨-, hgiven, hnext⟩
    · rw [hgiven] at hvip
      rcases hvip with hfirst | hrest
      · exact ⟨state.1.nextVip, le_rfl, hroom, by simpa using hfirst⟩
      · obtain ⟨number, hle, hlt, hsame⟩ := ih hrest
        exact ⟨number, by omega, hlt, hsame⟩
    · rw [hgiven] at hvip
      obtain ⟨number, hle, hlt, hsame⟩ := ih (hvip.resolve_left List.not_mem_nil)
      exact ⟨number, by omega, hlt, hsame⟩

/-- No address is given twice along a run. -/
theorem nodup_issued (calls : List Call) :
    ∀ state : ServiceDiscovery × List Rule, (issued state calls).Nodup := by
  induction calls with
  | nil => intro state; exact List.nodup_nil
  | cons request rest ih =>
    intro state
    rw [issued]
    rcases given_cases state request with ⟨-, hroom, hgiven, hnext⟩ | ⟨-, hgiven, hnext⟩
    · rw [hgiven]
      refine List.nodup_cons.mpr ⟨fun hagain ↦ ?_, ih _⟩
      obtain ⟨number, hle, hlt, hsame⟩ := mem_issued hagain
      have hnumber := vipAddress_inj (by omega) (by omega) hsame
      omega
    · rw [hgiven]
      exact ih _

/-- A call that fails changes neither the registry nor the chain. -/
theorem call_eq_of_error {state : ServiceDiscovery × List Rule} {request : Call} {error : String}
    (hfails : (call state request).1 = .error error) : (call state request).2 = state := by
  cases request with
  | registerService name port protocol selector =>
    simp only [call] at hfails ⊢
    rcases registerService_cases state.1 name port protocol selector with
      ⟨⟨message, hmessage⟩, -⟩ | ⟨-, -, hgives⟩
    · rw [hmessage]
    · rw [hgives] at hfails
      cases hfails
  | updateEndpoints name endpoints =>
    simp only [call, updateEndpoints] at hfails ⊢
    split at hfails
    · rfl
    · cases hfails
  | removeService name =>
    simp only [call, removeService] at hfails ⊢
    split at hfails
    · rfl
    · cases hfails
  | refreshAllEndpoints workloads => cases hfails

/-- A registration of a name that is not registered fails only when every host of the network is the
address of a registered service. -/
def FailsOnlyFull (state : ServiceDiscovery × List Rule) (request : Call) : Prop :=
  registersNew state request = true → (∃ error, (call state request).1 = .error error) →
    ∀ vip, serviceNet.IsHost vip → ∃ name, state.1.vipOf name = some vip

/-- A registration of a new name fails when the counter is at the end. -/
theorem fails_of_exhausted {state : ServiceDiscovery × List Rule} {request : Call}
    (hnew : registersNew state request = true) (hexhausted : 65534 ≤ state.1.nextVip) :
    (call state request).1 = .error "ClusterIP range exhausted" := by
  cases request with
  | registerService name port protocol selector =>
    have hunknown : ¬ (state.1.services.lookup name).isSome = true := by
      simpa [registersNew] using hnew
    simp only [call, registerService, allocateVip, if_neg hunknown, if_pos hexhausted]
    rfl
  | updateEndpoints name endpoints => cases hnew
  | removeService name => cases hnew
  | refreshAllEndpoints workloads => cases hnew

/-- Since the network is never full, a registration of a new name has to have a next address. -/
theorem failsOnlyFull_iff {state : ServiceDiscovery × List Rule} {request : Call}
    (hregistered : state.1.Registered) :
    FailsOnlyFull state request ↔
      (registersNew state request = true → state.1.nextVip < 65534) := by
  refine forall_congr' fun hnew ↦ ?_
  constructor
  · intro hfull
    by_contra hexhausted
    have hfails := fails_of_exhausted hnew (Nat.le_of_not_lt hexhausted)
    obtain ⟨name, hname⟩ := hfull ⟨_, hfails⟩ (vipAddress 65534)
      (isHost_vipAddress (by omega) (by omega))
    -- The last host of the network is never given out.
    exact hregistered.vipOf_ne hregistered.le_max (by omega) name hname
  · rintro hroom ⟨error, hfails⟩
    have hunchanged := call_eq_of_error hfails
    rcases given_cases state request with ⟨-, -, -, hnext⟩ | ⟨hexhausted, -⟩
    · rw [step, hunchanged] at hnext
      omega
    · exact absurd (hexhausted hnew) (Nat.not_le_of_lt hroom)

/-- The registrations of new names in a run fit into what the counter leaves exactly when none of
them fails, since each of them advances the counter. -/
theorem throughout_failsOnlyFull_iff {calls : List Call} :
    ∀ {state : ServiceDiscovery × List Rule}, state.1.Registered →
      (Throughout step FailsOnlyFull state calls ↔
        state.1.nextVip + countSteps step registersNew state calls ≤ 65534) := by
  induction calls with
  | nil => exact fun hregistered ↦ iff_of_true throughout_nil hregistered.le_max
  | cons request rest ih =>
    intro state hregistered
    rw [throughout_cons, failsOnlyFull_iff hregistered, ih (hregistered.step request), countSteps]
    rcases given_cases state request with ⟨hnew, hroom, -, hnext⟩ | ⟨hexhausted, -, hnext⟩
    · rw [hnext, if_pos hnew, and_iff_right fun _ ↦ hroom]
      omega
    · rw [hnext]
      by_cases hnew : registersNew state request = true
      · have hend := hexhausted hnew
        rw [if_pos hnew]
        refine iff_of_false (fun hboth ↦ ?_) (by omega)
        exact absurd (hboth.1 hnew) (Nat.not_lt_of_le hend)
      · rw [if_neg hnew, Nat.zero_add, and_iff_right fun hagain ↦ absurd hagain hnew]

/-- Along a run a registration of a new name fails only for want of a free address exactly when the
run makes at most `65533` such registrations, whatever it removes. -/
theorem fails_only_when_full_iff (iptablesAvailable : Bool) (chain : List Rule)
    (calls : List Call) :
    Throughout step FailsOnlyFull (new iptablesAvailable, chain) calls ↔
      countSteps step registersNew (new iptablesAvailable, chain) calls ≤ 65533 := by
  rw [throughout_failsOnlyFull_iff (registered_new iptablesAvailable)]
  change 1 + _ ≤ 65534 ↔ _
  omega

/-- A service that is registered and removed, so many times. -/
def churn (name : String) : ℕ → List Call
  | 0 => []
  | rounds + 1 => churn name rounds ++ [.registerService name 80 "tcp" ∅, .removeService name]

/-- Rounds of a service leave nothing but the counter. -/
theorem foldl_churn (name : String) {rounds : ℕ} (hrounds : rounds ≤ 65533) :
    (churn name rounds).foldl step (new true, []) = (⟨∅, ∅, rounds + 1, true⟩, []) := by
  induction rounds with
  | zero => rfl
  | succ rounds ih =>
    have hroom : ¬ 65534 ≤ rounds + 1 := by omega
    let record : ServiceRecord := ⟨name, vipAddress (rounds + 1), 80, "tcp", ∅, []⟩
    let registered : ServiceDiscovery := ⟨AList.singleton name record,
      AList.singleton record.clusterIp name, rounds + 2, true⟩
    have hcomes : step (⟨∅, ∅, rounds + 1, true⟩, []) (.registerService name 80 "tcp" ∅) =
        (registered, []) := by
      simp [step, call, registerService, allocateVip, hroom, registered, record]
    have hlookup : registered.services.lookup name = some record :=
      AList.lookup_insert ∅
    have hgoes : step (registered, []) (.removeService name) = (⟨∅, ∅, rounds + 2, true⟩, []) := by
      simp only [step, call, removeService, hlookup]
      simp only [registered, erase_singleton]
      rfl
    rw [churn, List.foldl_append, ih (by omega), List.foldl_cons, List.foldl_cons, hcomes, hgoes]
    rfl

/-- One service that comes and goes uses up the network: nothing is registered, and yet nothing can
be registered any more. -/
theorem churned_registry_exhausted :
    ((churn "job" 65533).foldl step (new true, [])).1.services = ∅ ∧
      ¬ Throughout step FailsOnlyFull (new true, [])
        (churn "job" 65533 ++ [.registerService "web" 80 "tcp" ∅]) := by
  have hchurn := foldl_churn "job" (Nat.le_refl 65533)
  refine ⟨by rw [hchurn], fun hthroughout ↦ ?_⟩
  have hfull := hthroughout _ _ (List.prefix_refl _)
  have hregistered := registered_foldl true [] (churn "job" 65533)
  have hroom := (failsOnlyFull_iff hregistered).mp hfull (by rw [hchurn]; rfl)
  rw [hchurn] at hroom
  exact absurd hroom (by decide)

end ServiceDiscovery

end Clawbernetes.ClawNode
