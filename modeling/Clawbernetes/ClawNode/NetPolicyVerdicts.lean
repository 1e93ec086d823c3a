import Clawbernetes.ClawNode.NetPolicy

/-!
# What the rules of policies do with a packet

The chain that `refresh_all` builds is the rules of all policies one after the other, and the first
rule that applies to a packet decides. So a packet is decided by the first policy that has an
appended rule for it, and there by the first ingress rule that lets it pass, unless the policy
denies the source of the packet before it comes to its destination (`accepted_iff`).

Two things are lost on the way. An `ACCEPT` is written without the protocol when an ingress rule
names no port, and `ingress_isolated_iff` says exactly which packets to selected workloads are
dropped or let pass by an ingress rule they meet. The outbound rules stand in the same chain as the
inbound ones of other policies, and egress rules are not written at all; `egress_isolated_iff` says
exactly which packets from selected workloads are kept to their egress rules.
-/

set_option autoImplicit false
set_option relaxedAutoImplicit false

namespace Clawbernetes.ClawNode

open Library.Addresses Library.FiniteTable

/-- A packet, with a port if its protocol has ports. -/
structure Packet where
  source : Ipv4Addr
  destination : Ipv4Addr
  protocol : UInt8
  dport : Option UInt16

namespace NetPolicy

variable (iptables : Iptables)

/-- The source of a packet is one that `-s` names. -/
def names (packet : Packet) : SourceFilter → Bool
  | .host ip => packet.source = ip
  | .cidr text => iptables.inCidr text packet.source

/-- A packet has a protocol and port. -/
def hasPort (packet : Packet) (protocol : String) (port : UInt16) : Bool :=
  iptables.isProtocol protocol packet.protocol && packet.dport = some port

/-- A rule applies to a packet. -/
def applies (packet : Packet) (rule : PolicyRule) : Bool :=
  (rule.destination.all fun ip ↦ packet.destination = ip) &&
    rule.source.all (names iptables packet) &&
    rule.dport.all fun (protocol, port) ↦ hasPort iptables packet protocol port

/-- The rule of a chain that decides about a packet: the first that applies. -/
def verdict (packet : Packet) (chain : List PolicyRule) : Option PolicyRule :=
  chain.find? (applies iptables packet)

/-! ### The conditions of an ingress rule -/

variable (workloads : List LabelledWorkload) (packet : Packet)

/-- The source of the packet is in the network of the rule, or else among the workloads that its
selector finds. -/
def SourceMet (rule : CompiledRule) : Prop :=
  match rule.cidr, rule.fromSelector with
  | some cidr, _ => iptables.inCidr cidr packet.source = true
  | none, some selector => packet.source ∈ findMatchingIps workloads selector
  | none, none => True

/-- The packet has the port of the rule, with its protocol or else with TCP. -/
def PortMet (rule : CompiledRule) : Prop :=
  ∀ port, rule.port = some port →
    hasPort iptables packet (rule.protocol.getD "tcp") port = true

/-- The packet has the protocol of the rule. -/
def ProtocolMet (rule : CompiledRule) : Prop :=
  ∀ protocol, rule.protocol = some protocol → iptables.isProtocol protocol packet.protocol = true

/-- The packet meets all conditions of a rule. -/
def Meets (rule : CompiledRule) : Prop :=
  SourceMet iptables workloads packet rule ∧ PortMet iptables packet rule ∧
    ProtocolMet iptables packet rule

/-! ### The rules of one policy -/

/-- The policy selects the workload of an address. -/
def selects (policy : CompiledPolicy) (ip : Ipv4Addr) : Bool :=
  ip ∈ findMatchingIps workloads policy.selector

/-- A rule is appended and applies to the packet. -/
def reached (rule : PolicyRule) : Bool :=
  iptables.appends rule.arguments && applies iptables packet rule

/-- The rules that are written for an ingress rule let the packet pass. -/
def admits (policy : CompiledPolicy) (rule : CompiledRule) : Bool :=
  (acceptRules policy workloads packet.destination rule).any (reached iptables packet)

/-- The policy denies what is not let pass to the destination of the packet. -/
def deniesInbound (policy : CompiledPolicy) : Bool :=
  iptables.appends (denyInbound (denyComment policy) packet.destination).arguments

/-- The policy has no egress rules, and denies everything from the source of the packet. -/
def deniesOutbound (policy : CompiledPolicy) : Bool :=
  policy.egressRules.isEmpty &&
    iptables.appends (denyOutbound (policyComment policy.name) packet.source).arguments

/-- The policy has an appended rule that applies to the packet. -/
def decides (policy : CompiledPolicy) : Bool :=
  selects workloads policy packet.destination &&
      (policy.ingressRules.any (admits iptables workloads packet policy) ||
        deniesInbound iptables packet policy) ||
    selects workloads policy packet.source && deniesOutbound iptables packet policy

/-- The policy denies everything from the source of the packet before it comes to its
destination. -/
def preempts (policy : CompiledPolicy) : Bool :=
  deniesOutbound iptables packet policy &&
    packet.source ∈ (findMatchingIps workloads policy.selector).takeWhile (· ≠ packet.destination)

/-- A policy lets the packet pass by an ingress rule: it selects the destination, does not deny the
source before, and the rule is the first that lets the packet pass. -/
def LetsPass (policy : CompiledPolicy) (rule : CompiledRule) : Prop :=
  selects workloads policy packet.destination = true ∧
    preempts iptables workloads packet policy = false ∧
    policy.ingressRules.find? (admits iptables workloads packet policy) = some rule

/-- The rule of a policy that decides about the packet, before the other policies are looked at. -/
def policyVerdict (policy : CompiledPolicy) : Option PolicyRule :=
  (policyRules policy (findMatchingIps workloads policy.selector) workloads).find?
    (reached iptables packet)

variable {iptables workloads packet} {policy : CompiledPolicy} {ip : Ipv4Addr}

/-- The first result of a search is that of the first element which has one. -/
theorem findSome?_eq_some_iff_find? {Element Result : Type*} {search : Element → Option Result}
    {elements : List Element} {result : Result} :
    elements.findSome? search = some result ↔
      ∃ element, elements.find? (fun element ↦ (search element).isSome) = some element ∧
        search element = some result := by
  induction elements with
  | nil => simp
  | cons first rest ih =>
    cases hfirst : search first with
    | none => simp [hfirst, ih]
    | some found => simp [hfirst]

/-- The ingress rules for another address do not apply. -/
theorem find?_ingressRulesFor_of_ne (hne : packet.destination ≠ ip) :
    (ingressRulesFor policy workloads ip).find? (reached iptables packet) = none := by
  have hdestination : ∀ rule ∈ ingressRulesFor policy workloads ip,
      rule.destination = some ip := by
    intro rule hrule
    simp only [ingressRulesFor, policy.ingress_specified, if_true] at hrule
    split_ifs at hrule
    · rw [List.mem_singleton.mp hrule]
      rfl
    · rcases List.mem_append.mp hrule with haccept | hlast
      · obtain ⟨ingressRule, -, haccept⟩ := List.mem_flatMap.mp haccept
        obtain ⟨source, -, rfl⟩ := List.mem_map.mp haccept
        rfl
      · rw [List.mem_singleton.mp hlast]
        rfl
  refine List.find?_eq_none.mpr fun rule hrule ↦ ?_
  simp [reached, applies, hdestination rule hrule, hne]

/-- The ingress rules for the destination let the packet pass by the first of them that does, and
drop it otherwise. -/
theorem find?_ingressRulesFor :
    (ingressRulesFor policy workloads packet.destination).find? (reached iptables packet) =
      (policy.ingressRules.findSome? fun rule ↦
        (acceptRules policy workloads packet.destination rule).find?
          (reached iptables packet)).or
        (if deniesInbound iptables packet policy then
          some (denyInbound (denyComment policy) packet.destination) else none) := by
  have hdeny : [denyInbound (denyComment policy) packet.destination].find?
      (reached iptables packet) = if deniesInbound iptables packet policy then
        some (denyInbound (denyComment policy) packet.destination) else none := by
    have hreached : reached iptables packet
        (denyInbound (denyComment policy) packet.destination) =
          deniesInbound iptables packet policy := by
      simp [reached, applies, denyInbound, deniesInbound]
    rw [List.find?_cons, hreached]
    cases deniesInbound iptables packet policy <;> rfl
  simp only [ingressRulesFor, policy.ingress_specified, if_true]
  rw [← hdeny]
  split_ifs with hempty
  · simp only [denyComment, hempty, if_true, List.findSome?_nil, Option.none_or]
  · simp only [denyComment, hempty, if_false, List.find?_append, List.find?_flatMap]

/-- The egress rule for an address drops the packet when it is from there and the policy denies
it. -/
theorem find?_egressRulesFor :
    (egressRulesFor policy ip).find? (reached iptables packet) =
      if ip = packet.source ∧ deniesOutbound iptables packet policy then
        some (denyOutbound (policyComment policy.name) packet.source) else none := by
  by_cases hempty : policy.egressRules = []
  · have hreached : reached iptables packet (denyOutbound (policyComment policy.name) ip) =
        decide (ip = packet.source ∧ deniesOutbound iptables packet policy) := by
      by_cases hsource : ip = packet.source
      · simp [reached, applies, names, denyOutbound, deniesOutbound, hempty, hsource]
      · have hne : packet.source ≠ ip := fun hsame ↦ hsource hsame.symm
        simp [reached, applies, names, denyOutbound, hsource, hne]
    simp only [egressRulesFor, policy.egress_specified, hempty, and_self, if_true]
    rw [List.find?_cons, hreached]
    split_ifs with hdenies
    · rw [decide_eq_true hdenies, hdenies.1]
    · rw [decide_eq_false hdenies]
      rfl
  · simp [egressRulesFor, hempty, deniesOutbound]

/-- A policy decides about a packet at the first of its addresses that does. -/
theorem policyVerdict_eq :
    policyVerdict iptables workloads packet policy =
      (findMatchingIps workloads policy.selector).findSome? fun ip ↦
        ((ingressRulesFor policy workloads ip).find? (reached iptables packet)).or
          ((egressRulesFor policy ip).find? (reached iptables packet)) := by
  simp only [policyVerdict, policyRules, List.find?_flatMap, List.find?_append]

/-- An ingress rule lets the packet pass when one of the rules that are written for it does. -/
theorem isSome_find?_acceptRules (rule : CompiledRule) :
    ((acceptRules policy workloads packet.destination rule).find?
      (reached iptables packet)).isSome = admits iptables workloads packet policy rule := by
  rw [List.isSome_find?]
  rfl

/-- The ingress rules for the destination decide about the packet when one lets it pass or they deny
the rest. -/
theorem isSome_find?_ingressRulesFor :
    ((ingressRulesFor policy workloads packet.destination).find?
      (reached iptables packet)).isSome =
        (policy.ingressRules.any (admits iptables workloads packet policy) ||
          deniesInbound iptables packet policy) := by
  rw [find?_ingressRulesFor, Option.isSome_or, List.isSome_findSome?]
  simp only [isSome_find?_acceptRules]
  cases deniesInbound iptables packet policy <;> rfl

/-- A policy decides about exactly the packets that it has an appended rule for. -/
theorem isSome_policyVerdict :
    (policyVerdict iptables workloads packet policy).isSome =
      decides iptables workloads packet policy := by
  rw [Bool.eq_iff_iff, policyVerdict_eq, List.findSome?_isSome_iff]
  simp only [Option.isSome_or, Bool.or_eq_true, find?_egressRulesFor, decides, Bool.and_eq_true,
    selects, decide_eq_true_eq]
  constructor
  · rintro ⟨ip, htarget, hingress | hegress⟩
    · have hip : packet.destination = ip := by
        by_contra hne
        rw [find?_ingressRulesFor_of_ne hne] at hingress
        cases hingress
      subst hip
      rw [isSome_find?_ingressRulesFor, Bool.or_eq_true] at hingress
      exact .inl ⟨htarget, hingress⟩
    · split_ifs at hegress with hdenies
      · exact .inr ⟨hdenies.1 ▸ htarget, hdenies.2⟩
      · cases hegress
  · rintro (⟨htarget, hingress⟩ | ⟨htarget, hdenies⟩)
    · rw [← Bool.or_eq_true, ← isSome_find?_ingressRulesFor] at hingress
      exact ⟨packet.destination, htarget, .inl hingress⟩
    · exact ⟨packet.source, htarget, .inr (by rw [if_pos ⟨rfl, hdenies⟩]; rfl)⟩

/-- The rules that are written for an ingress rule accept, and remember it. -/
theorem acceptRules_spec {rule : CompiledRule} {written : PolicyRule}
    (hwritten : written ∈ acceptRules policy workloads ip rule) :
    written.target = .accept ∧ written.origin = some (policy, rule) := by
  obtain ⟨source, -, rfl⟩ := List.mem_map.mp hwritten
  exact ⟨rfl, rfl⟩

/-- A packet has the source of an ingress rule when it has one that rules are written for. -/
theorem sourceMet_iff {rule : CompiledRule} :
    SourceMet iptables workloads packet rule ↔
      ∃ source ∈ sourceFilters workloads rule, source.all (names iptables packet) = true := by
  unfold SourceMet sourceFilters
  cases hcidr : rule.cidr with
  | some cidr => simp [names]
  | none =>
    cases hselector : rule.fromSelector with
    | some selector => simp [names]
    | none => simp

/-- A packet that a rule written for an ingress rule applies to has the source and the port of the
ingress rule. -/
theorem met_of_reached {rule : CompiledRule} {written : PolicyRule}
    (hwritten : written ∈ acceptRules policy workloads ip rule)
    (hreached : reached iptables packet written = true) :
    SourceMet iptables workloads packet rule ∧ PortMet iptables packet rule := by
  obtain ⟨source, hsource, rfl⟩ := List.mem_map.mp hwritten
  simp only [reached, applies, Bool.and_eq_true] at hreached
  obtain ⟨-, ⟨-, hnames⟩, hport⟩ := hreached
  refine ⟨sourceMet_iff.mpr ⟨source, hsource, hnames⟩, fun port hrule ↦ ?_⟩
  simpa [hrule] using hport

/-- When every rule is appended, the rules for an ingress rule let pass what has its source and its
port. -/
theorem admits_iff_of_appends (happends : ∀ arguments, iptables.appends arguments = true)
    {rule : CompiledRule} :
    admits iptables workloads packet policy rule = true ↔
      SourceMet iptables workloads packet rule ∧ PortMet iptables packet rule := by
  rw [admits, List.any_eq_true]
  constructor
  · rintro ⟨written, hwritten, hreached⟩
    exact met_of_reached hwritten hreached
  · rintro ⟨hsource, hport⟩
    obtain ⟨source, hfilter, hnames⟩ := sourceMet_iff.mp hsource
    refine ⟨_, List.mem_map_of_mem hfilter, ?_⟩
    rw [reached, happends, Bool.true_and, applies, hnames, Bool.and_true, Option.all_some,
      decide_eq_true rfl, Bool.true_and]
    cases hnamed : rule.port with
    | none => rfl
    | some port => exact hport port hnamed

/-- The ingress rules for the destination accept a packet by the first ingress rule that lets it
pass. -/
theorem find?_ingressRulesFor_accept_iff {written : PolicyRule} :
    ((ingressRulesFor policy workloads packet.destination).find? (reached iptables packet) =
        some written ∧ written.target = .accept) ↔
      ∃ rule, policy.ingressRules.find? (admits iptables workloads packet policy) = some rule ∧
        (acceptRules policy workloads packet.destination rule).find? (reached iptables packet) =
          some written := by
  rw [find?_ingressRulesFor, Option.or_eq_some_iff, findSome?_eq_some_iff_find?]
  simp only [isSome_find?_acceptRules]
  constructor
  · rintro ⟨hpass | ⟨-, hdenied⟩, haccept⟩
    · exact hpass
    · split_ifs at hdenied
      rw [← Option.some_inj.mp hdenied] at haccept
      cases haccept
  · rintro ⟨rule, hrule, hwritten⟩
    have hmem := List.mem_of_find?_eq_some hwritten
    exact ⟨.inl ⟨rule, hrule, hwritten⟩, (acceptRules_spec hmem).1⟩

/-- The addresses before the first occurrence of one. -/
theorem takeWhile_ne_append {before after : List Ipv4Addr} (hbefore : ip ∉ before) :
    (before ++ ip :: after).takeWhile (· ≠ ip) = before := by
  rw [List.takeWhile_append_of_pos]
  · simp
  · intro other hother
    exact decide_eq_true fun hsame ↦ hbefore (hsame ▸ hother)

/-- A policy accepts a packet exactly when it lets it pass by an ingress rule. -/
theorem policyVerdict_accept_iff {written : PolicyRule} :
    (policyVerdict iptables workloads packet policy = some written ∧ written.target = .accept) ↔
      ∃ rule, LetsPass iptables workloads packet policy rule ∧
        (acceptRules policy workloads packet.destination rule).find? (reached iptables packet) =
          some written := by
  rw [policyVerdict_eq, List.findSome?_eq_some_iff]
  constructor
  · rintro ⟨⟨before, ip, after, htargets, hverdict, hearlier⟩, haccept⟩
    rw [find?_egressRulesFor, Option.or_eq_some_iff] at hverdict
    rcases hverdict with hingress | ⟨-, hegress⟩
    · have hip : packet.destination = ip := by
        by_contra hne
        rw [find?_ingressRulesFor_of_ne hne] at hingress
        cases hingress
      subst hip
      obtain ⟨rule, hrule, hwritten⟩ := find?_ingressRulesFor_accept_iff.mp ⟨hingress, haccept⟩
      have hfirst : packet.destination ∉ before := by
        intro hmem
        have hnone := hearlier _ hmem
        rw [hingress] at hnone
        cases hnone
      refine ⟨rule, ⟨?_, ?_, hrule⟩, hwritten⟩
      · simp [selects, htargets]
      · rw [Bool.eq_false_iff]
        intro hpreempts
        simp only [preempts, htargets, takeWhile_ne_append hfirst, Bool.and_eq_true,
          decide_eq_true_eq] at hpreempts
        have hnone := hearlier _ hpreempts.2
        rw [find?_egressRulesFor, if_pos ⟨rfl, hpreempts.1⟩] at hnone
        simp at hnone
    · split_ifs at hegress
      rw [← Option.some_inj.mp hegress] at haccept
      cases haccept
  · rintro ⟨rule, ⟨hselects, hpreempts, hrule⟩, hwritten⟩
    obtain ⟨hingress, haccept⟩ := find?_ingressRulesFor_accept_iff.mpr ⟨rule, hrule, hwritten⟩
    obtain ⟨before, after, htargets, hfirst⟩ :=
      List.eq_append_cons_of_mem (of_decide_eq_true hselects)
    refine ⟨⟨before, packet.destination, after, htargets, by rw [hingress]; rfl, ?_⟩, haccept⟩
    intro ip hip
    have hne : packet.destination ≠ ip := fun hsame ↦ hfirst (hsame ▸ hip)
    rw [find?_ingressRulesFor_of_ne hne, Option.none_or, find?_egressRulesFor, if_neg]
    rintro ⟨rfl, hdenies⟩
    simp only [preempts, hdenies, htargets, takeWhile_ne_append hfirst,
      decide_eq_true hip] at hpreempts
    cases hpreempts

/-! ### The whole chain -/

/-- The chain after `refresh_all`, when there is `iptables`. -/
def refreshed (iptables : Iptables) (policies : List CompiledPolicy)
    (workloads : List LabelledWorkload) (chain : List PolicyRule) : List PolicyRule :=
  PolicyEngine.refreshAll iptables ⟨policies, true⟩ workloads chain

variable {policies : List CompiledPolicy} {chain : List PolicyRule} {written : PolicyRule}

/-- The chain is made of the rules of the policies. -/
theorem refreshed_eq :
    refreshed iptables policies workloads chain =
      policies.flatMap (appendedRules iptables workloads) := by
  have hfold : ∀ start, policies.foldl (fun chain policy ↦ applyPolicyRules iptables policy
      (findMatchingIps workloads policy.selector) workloads chain) start =
        start ++ policies.flatMap (appendedRules iptables workloads) := by
    induction policies with
    | nil => simp
    | cons policy rest ih =>
      intro start
      rw [List.foldl_cons, ih, applyPolicyRules_eq, List.append_assoc, List.flatMap_cons]
  exact hfold []

/-- The first policy that decides about a packet decides it in the chain. -/
theorem verdict_refreshed_iff :
    verdict iptables packet (refreshed iptables policies workloads chain) = some written ↔
      ∃ policy, policies.find? (decides iptables workloads packet) = some policy ∧
        policyVerdict iptables workloads packet policy = some written := by
  have hpolicy : ∀ policy, (appendedRules iptables workloads policy).find?
      (applies iptables packet) = policyVerdict iptables workloads packet policy := by
    intro policy
    simp only [appendedRules, policyVerdict, List.find?_filter, Bool.decide_and,
      Bool.decide_eq_true]
    rfl
  rw [verdict, refreshed_eq, List.find?_flatMap]
  simp only [hpolicy]
  rw [findSome?_eq_some_iff_find?]
  simp only [isSome_policyVerdict]

/-- The chain accepts a packet exactly when the first policy that decides about it lets it pass by
an ingress rule. -/
theorem accepted_iff :
    (verdict iptables packet (refreshed iptables policies workloads chain) = some written ∧
        written.target = .accept) ↔
      ∃ policy rule, policies.find? (decides iptables workloads packet) = some policy ∧
        LetsPass iptables workloads packet policy rule ∧
        (acceptRules policy workloads packet.destination rule).find? (reached iptables packet) =
          some written := by
  rw [verdict_refreshed_iff]
  constructor
  · rintro ⟨⟨policy, hpolicy, hverdict⟩, haccept⟩
    obtain ⟨rule, hrule⟩ := policyVerdict_accept_iff.mp ⟨hverdict, haccept⟩
    exact ⟨policy, rule, hpolicy, hrule⟩
  · rintro ⟨policy, rule, hpolicy, hrule⟩
    obtain ⟨hverdict, haccept⟩ := policyVerdict_accept_iff.mpr ⟨rule, hrule⟩
    exact ⟨⟨policy, hpolicy, hverdict⟩, haccept⟩

/-- A policy that lets a packet pass has a rule written for the ingress rule that decides. -/
theorem LetsPass.exists_written {rule : CompiledRule}
    (hpass : LetsPass iptables workloads packet policy rule) :
    ∃ written, (acceptRules policy workloads packet.destination rule).find?
      (reached iptables packet) = some written := by
  have hadmits := List.find?_some hpass.2.2
  rw [← isSome_find?_acceptRules] at hadmits
  exact Option.isSome_iff_exists.mp hadmits

/-! ### Ingress -/

/-- A packet to a selected workload is dropped, or accepted by a rule that is written for an ingress
rule of a policy that selects the workload, with all conditions of the ingress rule met. -/
def IngressIsolated (iptables : Iptables) (policies : List CompiledPolicy)
    (workloads : List LabelledWorkload) (chain : List PolicyRule) (packet : Packet) : Prop :=
  (∃ policy ∈ policies, selects workloads policy packet.destination = true) →
    ∃ written, verdict iptables packet (refreshed iptables policies workloads chain) =
        some written ∧
      (written.target = .drop ∨
        ∃ policy ∈ policies, ∃ rule ∈ policy.ingressRules,
          written.origin = some (policy, rule) ∧
            selects workloads policy packet.destination = true ∧
            Meets iptables workloads packet rule)

/-- A packet to a selected workload is decided by some policy, and when the first that does lets it
pass by an ingress rule that names no port, the packet has the protocol that the ingress rule
names. -/
def ProtocolKept (iptables : Iptables) (policies : List CompiledPolicy)
    (workloads : List LabelledWorkload) (packet : Packet) : Prop :=
  (∃ policy ∈ policies, selects workloads policy packet.destination = true) →
    ∃ policy, policies.find? (decides iptables workloads packet) = some policy ∧
      ∀ rule, LetsPass iptables workloads packet policy rule → rule.port = none →
        ProtocolMet iptables packet rule

/-- A packet that meets the port of an ingress rule meets its protocol, when there is a port. -/
theorem protocolMet_of_portMet {rule : CompiledRule} (hport : PortMet iptables packet rule)
    (hnamed : rule.port ≠ none) : ProtocolMet iptables packet rule := by
  obtain ⟨port, hrule⟩ := Option.ne_none_iff_exists'.mp hnamed
  intro protocol hprotocol
  have hmet := hport port hrule
  simp only [hasPort, hprotocol, Option.getD_some, Bool.and_eq_true] at hmet
  exact hmet.1

/-- A packet to a selected workload is dropped, or accepted by a rule for an ingress rule that it
meets, if and only if some policy decides about it and the ingress rule by which the first one lets
it pass does not name another protocol without a port. -/
theorem ingress_isolated_iff (iptables : Iptables) (policies : List CompiledPolicy)
    (workloads : List LabelledWorkload) (chain : List PolicyRule) (packet : Packet) :
    IngressIsolated iptables policies workloads chain packet ↔
      ProtocolKept iptables policies workloads packet := by
  refine imp_congr_right fun _ ↦ ?_
  constructor
  · rintro ⟨written, hverdict, hgood⟩
    obtain ⟨policy, hpolicy, hdecided⟩ := verdict_refreshed_iff.mp hverdict
    refine ⟨policy, hpolicy, fun rule hpass _ ↦ ?_⟩
    obtain ⟨other, hother⟩ := hpass.exists_written
    obtain ⟨hsame, -⟩ := policyVerdict_accept_iff.mpr ⟨rule, hpass, hother⟩
    rw [hdecided, Option.some_inj] at hsame
    subst hsame
    obtain ⟨haccept, horigin⟩ := acceptRules_spec (List.mem_of_find?_eq_some hother)
    rcases hgood with hdrop | ⟨found, -, foundRule, -, hfound, -, hmeets⟩
    · rw [haccept] at hdrop
      cases hdrop
    · rw [horigin, Option.some_inj] at hfound
      obtain ⟨-, rfl⟩ := Prod.mk.inj hfound
      exact hmeets.2.2
  · rintro ⟨policy, hpolicy, hkept⟩
    have hdecides := List.find?_some hpolicy
    rw [← isSome_policyVerdict] at hdecides
    obtain ⟨written, hdecided⟩ := Option.isSome_iff_exists.mp hdecides
    refine ⟨written, verdict_refreshed_iff.mpr ⟨policy, hpolicy, hdecided⟩, ?_⟩
    cases htarget : written.target with
    | drop => exact .inl rfl
    | accept =>
      obtain ⟨rule, hpass, hwritten⟩ := policyVerdict_accept_iff.mp ⟨hdecided, htarget⟩
      have hmem := List.mem_of_find?_eq_some hwritten
      obtain ⟨hsource, hport⟩ := met_of_reached hmem (List.find?_some hwritten)
      refine .inr ⟨policy, List.mem_of_find?_eq_some hpolicy, rule,
        List.mem_of_find?_eq_some hpass.2.2, (acceptRules_spec hmem).2, hpass.1, hsource, hport, ?_⟩
      by_cases hnamed : rule.port = none
      · exact hkept rule hpass hnamed
      · exact protocolMet_of_portMet hport hnamed

/-- A packet of UDP is accepted by an ingress rule for TCP. -/
theorem other_protocol_accepted :
    let selector : Table String String := AList.singleton "app" "web"
    let policy : CompiledPolicy :=
      ⟨"web", selector, [⟨none, none, some "tcp", none⟩], [], true, true, rfl, rfl⟩
    let workloads : List LabelledWorkload := [(⟨10, 200, 1, 2⟩, selector)]
    let packet : Packet := ⟨⟨10, 0, 0, 1⟩, ⟨10, 200, 1, 2⟩, 17, some 53⟩
    ¬IngressIsolated plainIptables [policy] workloads [] packet := by
  intro selector policy workloads packet hisolated
  have hselects : selects workloads policy packet.destination = true := by decide +kernel
  have hdecided : (verdict plainIptables packet (refreshed plainIptables [policy] workloads [])).map
      (fun rule ↦ (rule.target, rule.origin.map (·.2.protocol))) =
        some (.accept, some (some "tcp")) := by
    decide +kernel
  obtain ⟨written, hverdict, hgood⟩ :=
    hisolated ⟨policy, List.mem_singleton_self policy, hselects⟩
  rw [hverdict] at hdecided
  simp only [Option.map_some, Option.some_inj, Prod.mk.injEq] at hdecided
  rcases hgood with hdrop | ⟨found, -, rule, -, horigin, -, hmeets⟩
  · rw [hdecided.1] at hdrop
    cases hdrop
  · rw [horigin, Option.map_some, Option.some_inj] at hdecided
    have hprotocol := hmeets.2.2 "tcp" hdecided.2
    revert hprotocol
    decide

/-! ### Egress -/

/-- A packet that is accepted matches an egress rule of every policy that selects its source; so
none of these has an empty list. No egress rule is ever written, so what it is to match one is left
open. -/
def EgressIsolated (iptables : Iptables) (matching : CompiledRule → Packet → Prop)
    (policies : List CompiledPolicy) (workloads : List LabelledWorkload) (chain : List PolicyRule)
    (packet : Packet) : Prop :=
  ∀ written, verdict iptables packet (refreshed iptables policies workloads chain) =
      some written → written.target = .accept →
    ∀ policy ∈ policies, selects workloads policy packet.source = true →
      ∃ rule ∈ policy.egressRules, matching rule packet

/-- The packet matches an egress rule of every policy that selects its source, when the first policy
that decides about it lets it pass by an ingress rule. -/
def PassesOutbound (iptables : Iptables) (matching : CompiledRule → Packet → Prop)
    (policies : List CompiledPolicy) (workloads : List LabelledWorkload) (packet : Packet) : Prop :=
  ∀ policy rule, policies.find? (decides iptables workloads packet) = some policy →
    LetsPass iptables workloads packet policy rule →
      ∀ other ∈ policies, selects workloads other packet.source = true →
        ∃ egressRule ∈ other.egressRules, matching egressRule packet

/-- A packet is kept to the egress rules of the policies that select its source, if and only if it
matches one of each or the first policy that decides about it does not let it pass. -/
theorem egress_isolated_iff (iptables : Iptables) (matching : CompiledRule → Packet → Prop)
    (policies : List CompiledPolicy) (workloads : List LabelledWorkload) (chain : List PolicyRule)
    (packet : Packet) :
    EgressIsolated iptables matching policies workloads chain packet ↔
      PassesOutbound iptables matching policies workloads packet := by
  constructor
  · intro hisolated policy rule hpolicy hpass
    obtain ⟨written, hwritten⟩ := hpass.exists_written
    obtain ⟨hverdict, haccept⟩ := accepted_iff.mpr ⟨policy, rule, hpolicy, hpass, hwritten⟩
    exact hisolated written hverdict haccept
  · intro hpasses written hverdict haccept
    obtain ⟨policy, rule, hpolicy, hpass, -⟩ := accepted_iff.mp ⟨hverdict, haccept⟩
    exact hpasses policy rule hpolicy hpass

/-- Packets are accepted from a workload whose policy has no egress rules, and from one whose policy
has an egress rule for another port. -/
theorem outbound_accepted :
    let web : Table String String := AList.singleton "app" "web"
    let job : Table String String := AList.singleton "app" "job"
    let inbound : CompiledPolicy :=
      ⟨"inbound", web, [⟨none, none, none, none⟩], [], true, true, rfl, rfl⟩
    let denied : CompiledPolicy := ⟨"outbound", job, [], [], true, true, rfl, rfl⟩
    let other : CompiledPolicy :=
      ⟨"outbound", job, [], [⟨none, some 443, some "tcp", none⟩], true, true, rfl, rfl⟩
    let workloads : List LabelledWorkload := [(⟨10, 200, 1, 2⟩, web), (⟨10, 200, 1, 3⟩, job)]
    let packet : Packet := ⟨⟨10, 200, 1, 3⟩, ⟨10, 200, 1, 2⟩, 6, some 80⟩
    let matching : CompiledRule → Packet → Prop :=
      fun rule packet ↦ PortMet plainIptables packet rule
    ¬EgressIsolated plainIptables matching [inbound, denied] workloads [] packet ∧
      ¬EgressIsolated plainIptables matching [inbound, other] workloads [] packet := by
  intro web job inbound denied other workloads packet matching
  have haccepted : ∀ policy ∈ [denied, other], (verdict plainIptables packet
      (refreshed plainIptables [inbound, policy] workloads [])).map (·.target) = some .accept := by
    decide +kernel
  constructor
  · intro hisolated
    obtain ⟨written, hverdict, haccept⟩ :=
      Option.map_eq_some_iff.mp (haccepted denied (by simp))
    obtain ⟨rule, hrule, -⟩ :=
      hisolated written hverdict haccept denied (by simp) (by decide +kernel)
    cases hrule
  · intro hisolated
    obtain ⟨written, hverdict, haccept⟩ :=
      Option.map_eq_some_iff.mp (haccepted other (by simp))
    obtain ⟨rule, hrule, hmatches⟩ :=
      hisolated written hverdict haccept other (by simp) (by decide +kernel)
    rw [List.mem_singleton.mp hrule] at hmatches
    have hport := hmatches 443 rfl
    revert hport
    decide +kernel

end NetPolicy

end Clawbernetes.ClawNode
