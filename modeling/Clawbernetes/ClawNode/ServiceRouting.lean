import Clawbernetes.ClawNode.ServiceDiscovery

/-!
# The routes of services

What `ServiceDiscovery` leaves in the nat chain. The rules of a service are rewritten by appending,
since the removal of the old ones has no effect: a service with healthy endpoints that is updated
has its old rules in front of the new ones, and one that is removed leaves its rules behind. So the
chain is right as long as only services without healthy endpoints are updated or removed
(`routed_iff`).

`Rewritten` says what both an update and a refresh do, and is what the rounds of a refresh compose
by.
-/

set_option autoImplicit false
set_option relaxedAutoImplicit false

namespace Clawbernetes.ClawNode.ServiceDiscovery

open Library.Addresses Library.FiniteTable Library.Runs

variable {registry : ServiceDiscovery} {state after : ServiceDiscovery × List Rule}
  {name : String} {names : List String} {change : ServiceRecord → List Endpoint}

/-! ### The chain -/

/-- The rules of a chain for an address. -/
def rulesFor (chain : List Rule) (vip : Ipv4Addr) : List Rule :=
  chain.filter fun rule ↦ rule.destination = vip

/-- The rules of two parts of a chain. -/
theorem rulesFor_append (chain other : List Rule) (vip : Ipv4Addr) :
    rulesFor (chain ++ other) vip = rulesFor chain vip ++ rulesFor other vip :=
  List.filter_append chain other

/-- The rules of a service are all for its address. -/
theorem rulesFor_rules_self (record : ServiceRecord) :
    rulesFor record.rules record.clusterIp = record.rules :=
  List.filter_eq_self.mpr fun _ hrule ↦ decide_eq_true (dnatRules_spec hrule).1

/-- The rules of a service are for no other address. -/
theorem rulesFor_rules_of_ne {record : ServiceRecord} {vip : Ipv4Addr}
    (hvip : vip ≠ record.clusterIp) : rulesFor record.rules vip = [] := by
  refine List.filter_eq_nil_iff.mpr fun rule hrule hdestination ↦ ?_
  exact hvip ((of_decide_eq_true hdestination).symm.trans (dnatRules_spec hrule).1)

/-- A service has rules exactly when it has a healthy endpoint. -/
theorem ServiceRecord.rules_eq_nil_iff {record : ServiceRecord} :
    record.rules = [] ↔ backends record.endpoints = [] :=
  dnatRules_eq_nil_iff

/-- The chain has the rules of the healthy endpoints of every service for its address, and none for
other addresses. -/
structure Routed (state : ServiceDiscovery × List Rule) : Prop where
  services : ∀ name record, state.1.services.lookup name = some record →
    rulesFor state.2 record.clusterIp = record.rules
  others : ∀ vip, (∀ name, state.1.vipOf name ≠ some vip) → rulesFor state.2 vip = []

/-- What holds of the chain in every run, whether it is right or not: `iptables` is there, and every
rule has a target. -/
structure Programmed (state : ServiceDiscovery × List Rule) : Prop where
  registered : state.1.Registered
  available : state.1.iptablesAvailable = true
  targets : ∀ rule ∈ state.2, rule.toDestination.isSome

/-- Some services got endpoints, and their rules were appended to the chain. -/
structure Rewritten (names : List String) (change : ServiceRecord → List Endpoint)
    (before after : ServiceDiscovery × List Rule) : Prop where
  registry : EndpointsChanged (fun name record ↦
    if name ∈ names then change record else record.endpoints) before.1 after.1
  services : ∀ name record, before.1.services.lookup name = some record →
    rulesFor after.2 record.clusterIp = rulesFor before.2 record.clusterIp ++
      if name ∈ names then { record with endpoints := change record }.rules else []
  others : ∀ vip, (∀ name, before.1.vipOf name ≠ some vip) →
    rulesFor after.2 vip = rulesFor before.2 vip
  targets : ∀ rule ∈ after.2, rule.toDestination.isSome

/-- The address of a service with its record. -/
theorem vipOf_of_lookup {record : ServiceRecord}
    (hlookup : registry.services.lookup name = some record) :
    registry.vipOf name = some record.clusterIp := by
  rw [vipOf, hlookup]
  rfl

/-- Different services have different addresses. -/
theorem Registered.clusterIp_ne (hregistered : registry.Registered) {other : String}
    {record otherRecord : ServiceRecord} (hlookup : registry.services.lookup name = some record)
    (hother : registry.services.lookup other = some otherRecord) (hne : other ≠ name) :
    otherRecord.clusterIp ≠ record.clusterIp := by
  have hinverts : Inverts registry.vipToService registry.vipOf := hregistered.inverse
  intro hsame
  have hvip := vipOf_of_lookup hother
  rw [hsame] at hvip
  exact hne (hinverts.key_unique hvip (vipOf_of_lookup hlookup))

/-- What holds of the chain stays when services are rewritten. -/
theorem Rewritten.programmed (hrewritten : Rewritten names change state after)
    (hprogrammed : Programmed state) : Programmed after where
  registered := hrewritten.registry.registered hprogrammed.registered
  available := hrewritten.registry.iptablesAvailable.trans hprogrammed.available
  targets := hrewritten.targets

/-- An update rewrites its service: the removal of the old rules has no effect. -/
theorem rewritten_updateEndpoints (hprogrammed : Programmed state) {record : ServiceRecord}
    (hlookup : state.1.services.lookup name = some record)
    (change : ServiceRecord → List Endpoint) :
    Rewritten [name] change state
      (state.1.updateEndpoints state.2 name (change record)).2 := by
  have hchain : (state.1.updateEndpoints state.2 name (change record)).2.2 =
      state.2 ++ { record with endpoints := change record }.rules := by
    simp only [updateEndpoints, hlookup, hprogrammed.available, if_true]
    rw [applyDnatRules_eq, removeDnatRules_of_targets hprogrammed.targets]
    rfl
  have hregistry := endpointsChanged_updateEndpoints hlookup state.2 (change record)
  refine ⟨⟨fun other ↦ ?_, hregistry.vipToService, hregistry.nextVip,
    hregistry.iptablesAvailable⟩, fun other otherRecord hother ↦ ?_, fun vip hvip ↦ ?_,
    fun rule hrule ↦ ?_⟩
  · rw [hregistry.services]
    by_cases hname : other = name
    · rw [hname, hlookup]
      simp
    · simp [hname]
  · rw [hchain, rulesFor_append]
    by_cases hname : other = name
    · subst hname
      rw [hlookup] at hother
      obtain rfl := Option.some_inj.mp hother
      simp only [List.mem_singleton, if_true]
      exact congrArg _ (rulesFor_rules_self { record with endpoints := change record })
    · have hne := hprogrammed.registered.clusterIp_ne hlookup hother hname
      simp only [List.mem_singleton, if_neg hname]
      exact congrArg _ (rulesFor_rules_of_ne hne)
  · have hne : vip ≠ record.clusterIp := fun hsame ↦
      hvip name (hsame ▸ vipOf_of_lookup hlookup)
    have hnone : rulesFor { record with endpoints := change record }.rules vip = [] :=
      rulesFor_rules_of_ne hne
    rw [hchain, rulesFor_append, hnone, List.append_nil]
  · rw [hchain, List.mem_append] at hrule
    rcases hrule with hold | hnew
    · exact hprogrammed.targets rule hold
    · exact (dnatRules_spec hnew).2

/-- Services that are rewritten after one another, each once. -/
theorem Rewritten.append {middle : ServiceDiscovery × List Rule} {others : List String}
    (hchange : ∀ record endpoints, change { record with endpoints := endpoints } = change record)
    (hdisjoint : ∀ name ∈ others, name ∉ names) (hfirst : Rewritten names change state middle)
    (hsecond : Rewritten others change middle after) :
    Rewritten (names ++ others) change state after := by
  have hboth := hfirst.registry.trans hsecond.registry
  refine ⟨⟨fun name ↦ ?_, hboth.vipToService, hboth.nextVip, hboth.iptablesAvailable⟩,
    fun name record hlookup ↦ ?_, fun vip hvip ↦ ?_, hsecond.targets⟩
  · rw [hboth.services]
    congr 1
    funext record
    rw [hchange]
    by_cases hother : name ∈ others
    · simp [hother]
    · simp [hother]
  · have hmiddle := hfirst.registry.services name
    rw [hlookup] at hmiddle
    have hrules := hsecond.services name _ hmiddle
    rw [hchange] at hrules
    rw [hrules, hfirst.services name record hlookup]
    by_cases hother : name ∈ others
    · simp [hother, hdisjoint name hother]
    · simp [hother]
  · have hmiddle : ∀ name, middle.1.vipOf name ≠ some vip := by
      intro name
      rw [vipOf, hfirst.registry.services, Option.map_map]
      exact hvip name
    rw [hsecond.others vip hmiddle, hfirst.others vip hvip]

/-- The rounds of a refresh rewrite their services. -/
theorem rewritten_foldl (workloads : List Workload) :
    ∀ {names : List String} {state : ServiceDiscovery × List Rule}, names.Nodup →
      (∀ name ∈ names, (state.1.services.lookup name).isSome) → Programmed state →
      Rewritten names (matchingEndpoints workloads) state
        (names.foldl (refreshEndpoints workloads) state) := by
  intro names
  induction names with
  | nil =>
    intro state _ _ hprogrammed
    exact ⟨⟨fun name ↦ by simp, rfl, rfl, rfl⟩, fun name record _ ↦ by simp, fun _ _ ↦ rfl,
      hprogrammed.targets⟩
  | cons name rest ih =>
    intro state hnodup hknown hprogrammed
    obtain ⟨record, hlookup⟩ := Option.isSome_iff_exists.mp (hknown name List.mem_cons_self)
    have hfirst := rewritten_updateEndpoints hprogrammed hlookup (matchingEndpoints workloads)
    have hround : refreshEndpoints workloads state name =
        (state.1.updateEndpoints state.2 name (matchingEndpoints workloads record)).2 := by
      rw [refreshEndpoints, hlookup]
    rw [← hround] at hfirst
    have hrest : ∀ other ∈ rest,
        ((refreshEndpoints workloads state name).1.services.lookup other).isSome := by
      intro other hother
      rw [hfirst.registry.services, Option.isSome_map]
      exact hknown other (List.mem_cons_of_mem name hother)
    have hsecond := ih (List.nodup_cons.mp hnodup).2 hrest (hfirst.programmed hprogrammed)
    rw [List.foldl_cons]
    refine Rewritten.append (fun _ _ ↦ rfl) (fun other hother hname ↦ ?_) hfirst hsecond
    rw [List.mem_singleton] at hname
    exact (List.nodup_cons.mp hnodup).1 (hname ▸ hother)

/-- Rewriting services keeps the chain right exactly when they had no rules: their old rules stay in
front of the new ones. -/
theorem Rewritten.routed_after_iff (hrewritten : Rewritten names change state after)
    (hrouted : Routed state) :
    Routed after ↔ ∀ name ∈ names, ∀ record, state.1.services.lookup name = some record →
      backends record.endpoints = [] := by
  have hafter : ∀ name record, state.1.services.lookup name = some record →
      after.1.services.lookup name = some { record with
        endpoints := if name ∈ names then change record else record.endpoints } := by
    intro name record hlookup
    rw [hrewritten.registry.services, hlookup]
    rfl
  constructor
  · intro hgood name hname record hlookup
    have hrules := hgood.services name _ (hafter name record hlookup)
    have happended := hrewritten.services name record hlookup
    rw [if_pos hname, hrouted.services name record hlookup] at happended
    simp only [if_pos hname] at hrules
    rw [happended] at hrules
    exact ServiceRecord.rules_eq_nil_iff.mp (List.append_left_eq_self.mp hrules)
  · intro hidle
    refine ⟨fun name updated hupdated ↦ ?_, fun vip hvip ↦ ?_⟩
    · rw [hrewritten.registry.services] at hupdated
      obtain ⟨record, hlookup, rfl⟩ := Option.map_eq_some_iff.mp hupdated
      have happended := hrewritten.services name record hlookup
      rw [hrouted.services name record hlookup] at happended
      change rulesFor after.2 record.clusterIp = _
      rw [happended]
      split_ifs with hname
      · rw [ServiceRecord.rules_eq_nil_iff.mpr (hidle name hname record hlookup), List.nil_append]
      · exact List.append_nil _
    · have hbefore : ∀ name, state.1.vipOf name ≠ some vip := by
        intro name hname
        refine hvip name ?_
        rw [vipOf, hrewritten.registry.services, Option.map_map]
        exact hname
      rw [hrewritten.others vip hbefore, hrouted.others vip hbefore]

/-- The services that a call updates or removes. -/
def touched (state : ServiceDiscovery × List Rule) : Call → List String
  | .registerService _ _ _ _ => []
  | .updateEndpoints name _ => [name]
  | .removeService name => [name]
  | .refreshAllEndpoints _ => state.1.services.keys

/-- The services that a call updates or removes have no healthy endpoints. -/
def TouchesIdle (state : ServiceDiscovery × List Rule) (request : Call) : Prop :=
  ∀ name ∈ touched state request, ∀ record, state.1.services.lookup name = some record →
    backends record.endpoints = []

/-- The services of a refresh are rewritten. -/
theorem rewritten_refreshAllEndpoints (hprogrammed : Programmed state)
    (workloads : List Workload) :
    Rewritten state.1.services.keys (matchingEndpoints workloads) state
      (state.1.refreshAllEndpoints state.2 workloads) := by
  refine rewritten_foldl workloads state.1.services.keys_nodup (fun name hname ↦ ?_) hprogrammed
  exact AList.lookup_isSome.mpr (AList.mem_keys.mpr hname)

/-- A removal leaves the chain as it is. -/
theorem removeService_eq (hprogrammed : Programmed state) {record : ServiceRecord}
    (hlookup : state.1.services.lookup name = some record) :
    (state.1.removeService state.2 name).2 = ({ state.1 with
      services := state.1.services.erase name
      vipToService := state.1.vipToService.erase record.clusterIp }, state.2) := by
  simp only [removeService, hlookup, hprogrammed.available, if_true,
    removeDnatRules_of_targets hprogrammed.targets]

/-- Every call keeps what holds of the chain. -/
theorem Programmed.step (hprogrammed : Programmed state) (request : Call) :
    Programmed (ServiceDiscovery.step state request) := by
  cases request with
  | registerService name port protocol selector =>
    refine ⟨hprogrammed.registered.step _, ?_, hprogrammed.targets⟩
    simp only [ServiceDiscovery.step, call]
    rcases registerService_cases state.1 name port protocol selector with
      ⟨⟨error, hfails⟩, -⟩ | ⟨-, -, hgives⟩
    · rw [hfails]
      exact hprogrammed.available
    · rw [hgives]
      exact hprogrammed.available
  | updateEndpoints name endpoints =>
    cases hlookup : state.1.services.lookup name with
    | none =>
      simp only [ServiceDiscovery.step, call, updateEndpoints, hlookup]
      exact hprogrammed
    | some record =>
      exact (rewritten_updateEndpoints hprogrammed hlookup fun _ ↦ endpoints).programmed
        hprogrammed
  | removeService name =>
    cases hlookup : state.1.services.lookup name with
    | none =>
      simp only [ServiceDiscovery.step, call, removeService, hlookup]
      exact hprogrammed
    | some record =>
      refine ⟨hprogrammed.registered.step _, ?_, ?_⟩
      · simp only [ServiceDiscovery.step, call]
        rw [removeService_eq hprogrammed hlookup]
        exact hprogrammed.available
      · simp only [ServiceDiscovery.step, call]
        rw [removeService_eq hprogrammed hlookup]
        exact hprogrammed.targets
  | refreshAllEndpoints workloads =>
    exact (rewritten_refreshAllEndpoints hprogrammed workloads).programmed hprogrammed

/-- A registration keeps the chain right: a new service has no endpoints, and there is no rule for
its address. -/
theorem Routed.registerService (hrouted : Routed state) (hregistered : state.1.Registered)
    (port : UInt16) (protocol : String) (selector : Table String String) :
    Routed ((state.1.registerService name port protocol selector).2, state.2) := by
  have hmax := hregistered.le_max
  rcases registerService_cases state.1 name port protocol selector with
    ⟨⟨error, hfails⟩, -⟩ | ⟨hnew, -, hgives⟩
  · rw [hfails]
    exact hrouted
  · rw [hgives]
    refine ⟨?_, fun vip hvip ↦ hrouted.others vip fun other hother ↦ ?_⟩
    · refine (forall_lookup_insert_iff hrouted.services).mpr ?_
      exact hrouted.others _ (hregistered.vipOf_ne (Nat.le_refl _) (by omega))
    · have hne : other ≠ name := by
        rintro rfl
        rw [vipOf, hnew] at hother
        cases hother
      refine hvip other ?_
      rw [vipOf, AList.lookup_insert_ne hne]
      exact hother

/-- A removal keeps the chain right exactly when the service had no rules: they stay. -/
theorem routed_removeService_iff (hprogrammed : Programmed state) (hrouted : Routed state)
    {record : ServiceRecord} (hlookup : state.1.services.lookup name = some record) :
    Routed (state.1.removeService state.2 name).2 ↔ backends record.endpoints = [] := by
  rw [removeService_eq hprogrammed hlookup]
  constructor
  · intro hgood
    have hnone := hgood.others record.clusterIp fun other hother ↦ ?_
    · rw [← ServiceRecord.rules_eq_nil_iff, ← hrouted.services name record hlookup]
      exact hnone
    · rw [vipOf_erase] at hother
      by_cases hname : other = name
      · rw [hname, Function.update_self] at hother
        cases hother
      · rw [Function.update_of_ne hname] at hother
        obtain ⟨otherRecord, hotherLookup, hsame⟩ := Option.map_eq_some_iff.mp hother
        exact hprogrammed.registered.clusterIp_ne hlookup hotherLookup hname hsame
  · intro hidle
    refine ⟨forall_lookup_erase hrouted.services name, fun vip hvip ↦ ?_⟩
    · by_cases hsame : vip = record.clusterIp
      · subst hsame
        exact (hrouted.services name record hlookup).trans
          (ServiceRecord.rules_eq_nil_iff.mpr hidle)
      · refine hrouted.others vip fun other hother ↦ hvip other ?_
        rw [vipOf_erase, Function.update_of_ne, hother]
        rintro rfl
        rw [vipOf_of_lookup hlookup] at hother
        exact hsame (Option.some_inj.mp hother).symm

/-- A call keeps the chain right exactly when the services that it touches have no healthy
endpoints. -/
theorem routed_step_iff (hprogrammed : Programmed state) (hrouted : Routed state)
    (request : Call) : Routed (step state request) ↔ TouchesIdle state request := by
  cases request with
  | registerService name port protocol selector =>
    refine iff_of_true (hrouted.registerService hprogrammed.registered port protocol selector) ?_
    intro other hother
    cases hother
  | updateEndpoints name endpoints =>
    cases hlookup : state.1.services.lookup name with
    | none =>
      simp only [step, call, updateEndpoints, TouchesIdle, touched, hlookup, List.mem_singleton,
        forall_eq]
      exact iff_of_true hrouted fun record hsome ↦ by cases hsome
    | some record =>
      exact (rewritten_updateEndpoints hprogrammed hlookup fun _ ↦
        endpoints).routed_after_iff hrouted
  | removeService name =>
    cases hlookup : state.1.services.lookup name with
    | none =>
      simp only [step, call, removeService, TouchesIdle, touched, hlookup, List.mem_singleton,
        forall_eq]
      exact iff_of_true hrouted fun record hsome ↦ by cases hsome
    | some record =>
      refine (routed_removeService_iff hprogrammed hrouted hlookup).trans ?_
      simp only [TouchesIdle, touched, List.mem_singleton, forall_eq, hlookup, Option.some.injEq]
      exact ⟨fun hidle other hother ↦ hother ▸ hidle, fun hidle ↦ hidle record rfl⟩
  | refreshAllEndpoints workloads =>
    exact (rewritten_refreshAllEndpoints hprogrammed workloads).routed_after_iff hrouted

/-- With `iptables` the chain is right after every call of a run exactly when the run updates and
removes only services that have no healthy endpoints at that time. -/
theorem routed_iff (calls : List Call) :
    Always step Routed (new true, []) calls ↔ Throughout step TouchesIdle (new true, []) calls := by
  have hstart : Programmed (new true, []) :=
    ⟨registered_new true, rfl, fun rule hrule ↦ absurd hrule List.not_mem_nil⟩
  have hempty : Routed (new true, []) :=
    ⟨fun name record hlookup ↦ (by cases hlookup), fun _ _ ↦ rfl⟩
  exact always_iff_throughout_of_invariant hstart
    (fun _ request hprogrammed ↦ hprogrammed.step request) hempty
    fun _ request hprogrammed hrouted ↦ routed_step_iff hprogrammed hrouted request

/-- The backend of a service that was removed still gets its traffic. -/
theorem removed_backend_still_routed :
    let backend : Endpoint := ⟨⟨10, 200, 0, 2⟩, 8080, "c1", true⟩
    let calls : List Call := [.registerService "web" 80 "tcp" ∅, .updateEndpoints "web" [backend],
      .removeService "web"]
    (calls.foldl step (new true, [])).2 = [⟨⟨10, 201, 0, 1⟩, some "tcp", some 80, none,
        some (⟨10, 200, 0, 2⟩, 8080)⟩] ∧
      ¬ Always step Routed (new true, []) calls := by
  intro backend calls
  have hchain : (calls.foldl step (new true, [])).2 = [⟨⟨10, 201, 0, 1⟩, some "tcp", some 80, none,
      some (⟨10, 200, 0, 2⟩, 8080)⟩] := by decide
  refine ⟨hchain, fun halways ↦ ?_⟩
  have hnone := halways.last.others ⟨10, 201, 0, 1⟩ fun name hname ↦ by cases hname
  rw [hchain] at hnone
  exact absurd hnone (by decide)

end Clawbernetes.ClawNode.ServiceDiscovery
