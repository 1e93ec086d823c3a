import Clawbernetes.ClawNode.NetPolicyVerdicts

/-!
# The two writers of the rules of a policy

`apply_policy_rules` of `netpolicy.rs` appends the rules of a policy, and `generate_policy_rules`
returns rules for the same policy, which the tests look at. Both are one definition (`writeRules`),
with the comments of their rules and the sources that an `ACCEPT` is written for: the second one
does not get the workloads, and leaves the selector of an ingress rule out.

Both are taken for a policy with whatever its public fields hold, and as lists of rules that are all
appended. `same_decision_iff` says for which packets they decide the same.
-/

set_option autoImplicit false
set_option relaxedAutoImplicit false

namespace Clawbernetes.ClawNode

open Library.Addresses Library.FiniteTable

/-- A rule as it is written, with or without a comment. -/
structure WrittenRule where
  destination : Option Ipv4Addr
  source : Option SourceFilter
  dport : Option (String × UInt16)
  comment : Option String
  target : Target

/-- The arguments of `iptables` that append a rule. -/
def WrittenRule.arguments (rule : WrittenRule) : List String :=
  ["-A", policyChain] ++
    (rule.destination.elim [] fun ip ↦ ["-d", ip.display ++ "/32"]) ++
    (rule.source.elim [] fun source ↦ ["-s", source.display]) ++
    (rule.dport.elim [] fun (protocol, port) ↦ ["-p", protocol, "--dport", toString port.toNat]) ++
    (rule.comment.elim [] fun comment ↦ ["-m", "comment", "--comment", comment]) ++
    ["-j", rule.target.display]

/-- `CompiledPolicy`, whatever its fields hold. -/
structure PolicyFields where
  name : String
  selector : Table String String
  ingressRules : List CompiledRule
  egressRules : List CompiledRule
  hasIngress : Bool
  hasEgress : Bool

namespace NetPolicy

/-- The `ACCEPT` rules of an ingress rule for an address, one for each source. -/
def writeAccepts (sources : CompiledRule → List (Option SourceFilter)) (comment : Option String)
    (ip : Ipv4Addr) (rule : CompiledRule) : List WrittenRule :=
  (sources rule).map fun source ↦
    ⟨some ip, source, rule.port.map fun port ↦ (rule.protocol.getD "tcp", port), comment, .accept⟩

/-- The ingress rules of a policy for an address. -/
def writeIngress (sources : CompiledRule → List (Option SourceFilter))
    (comment defaultDeny : Option String) (policy : PolicyFields) (ip : Ipv4Addr) :
    List WrittenRule :=
  if policy.hasIngress then
    if policy.ingressRules = [] then [⟨some ip, none, none, comment, .drop⟩]
    else policy.ingressRules.flatMap (writeAccepts sources comment ip) ++
      [⟨some ip, none, none, defaultDeny, .drop⟩]
  else []

/-- The egress rules of a policy for an address. -/
def writeEgress (comment : Option String) (policy : PolicyFields) (ip : Ipv4Addr) :
    List WrittenRule :=
  if policy.hasEgress ∧ policy.egressRules = [] then
    [⟨none, some (.host ip), none, comment, .drop⟩]
  else []

/-- The rules of a policy for some addresses, with the sources of an ingress rule, the comment of
the rules, and that of the rule behind ingress rules. -/
def writeRules (sources : CompiledRule → List (Option SourceFilter))
    (comment defaultDeny : Option String) (policy : PolicyFields) (targets : List Ipv4Addr) :
    List WrittenRule :=
  targets.flatMap fun ip ↦
    writeIngress sources comment defaultDeny policy ip ++ writeEgress comment policy ip

/-- The rules that `apply_policy_rules` appends. -/
def appendedPolicyRules (policy : PolicyFields) (targets : List Ipv4Addr)
    (workloads : List LabelledWorkload) : List WrittenRule :=
  writeRules (sourceFilters workloads) (some (policyComment policy.name))
    (some (defaultDenyComment policy.name)) policy targets

/-- `generate_policy_rules`. An `ACCEPT` has the network of its ingress rule as the source, if there
is one. -/
def generatePolicyRules (policy : PolicyFields) (targets : List Ipv4Addr) : List WrittenRule :=
  writeRules (fun rule ↦ [rule.cidr.map .cidr]) none none policy targets

/-! ### The rules of a compiled policy -/

/-- A rule of the chain, as it is written. -/
def written (rule : PolicyRule) : WrittenRule :=
  ⟨rule.destination, rule.source, rule.dport, some rule.comment, rule.target⟩

/-- The fields of a compiled policy. -/
def fields (policy : CompiledPolicy) : PolicyFields where
  name := policy.name
  selector := policy.selector
  ingressRules := policy.ingressRules
  egressRules := policy.egressRules
  hasIngress := policy.hasIngress
  hasEgress := policy.hasEgress

/-- A rule of the chain is written with its arguments. -/
theorem arguments_written (rule : PolicyRule) : (written rule).arguments = rule.arguments := by
  simp [WrittenRule.arguments, PolicyRule.arguments, written]

/-- The ingress rules of a compiled policy are those that are written for its fields. -/
theorem map_written_ingressRulesFor (policy : CompiledPolicy) (workloads : List LabelledWorkload)
    (ip : Ipv4Addr) :
    (ingressRulesFor policy workloads ip).map written =
      writeIngress (sourceFilters workloads) (some (policyComment policy.name))
        (some (defaultDenyComment policy.name)) (fields policy) ip := by
  have hfields : (fields policy).hasIngress = true := policy.ingress_specified
  rw [ingressRulesFor, if_pos policy.ingress_specified, writeIngress, if_pos hfields]
  by_cases hempty : policy.ingressRules = []
  · have hnone : (fields policy).ingressRules = [] := hempty
    rw [if_pos hempty, if_pos hnone]
    rfl
  · have hsome : (fields policy).ingressRules ≠ [] := hempty
    rw [if_neg hempty, if_neg hsome, List.map_append, List.map_flatMap]
    refine congrArg₂ _ (List.flatMap_congr fun rule _ ↦ ?_) rfl
    rw [acceptRules, writeAccepts, List.map_map]
    rfl

/-- The egress rules of a compiled policy are those that are written for its fields. -/
theorem map_written_egressRulesFor (policy : CompiledPolicy) (ip : Ipv4Addr) :
    (egressRulesFor policy ip).map written =
      writeEgress (some (policyComment policy.name)) (fields policy) ip := by
  by_cases hdenies : policy.hasEgress = true ∧ policy.egressRules = []
  · have hfields : (fields policy).hasEgress = true ∧ (fields policy).egressRules = [] := hdenies
    rw [egressRulesFor, if_pos hdenies, writeEgress, if_pos hfields]
    rfl
  · have hfields : ¬((fields policy).hasEgress = true ∧ (fields policy).egressRules = []) := hdenies
    rw [egressRulesFor, if_neg hdenies, writeEgress, if_neg hfields]
    rfl

/-- The rules of a compiled policy are those that are appended for its fields. -/
theorem map_written_policyRules (policy : CompiledPolicy) (targets : List Ipv4Addr)
    (workloads : List LabelledWorkload) :
    (policyRules policy targets workloads).map written =
      appendedPolicyRules (fields policy) targets workloads := by
  rw [policyRules, appendedPolicyRules, writeRules, List.map_flatMap]
  refine List.flatMap_congr fun ip _ ↦ ?_
  rw [List.map_append, map_written_ingressRulesFor, map_written_egressRulesFor]
  rfl

/-! ### Decisions -/

/-- A rule applies to a packet. -/
def appliesTo (iptables : Iptables) (packet : Packet) (rule : WrittenRule) : Bool :=
  (rule.destination.all fun ip ↦ packet.destination = ip) &&
    rule.source.all (names iptables packet) &&
    rule.dport.all fun (protocol, port) ↦ hasPort iptables packet protocol port

/-- What the first rule that applies to a packet does with it. -/
def decision (iptables : Iptables) (packet : Packet) (rules : List WrittenRule) : Option Target :=
  (rules.find? (appliesTo iptables packet)).map (·.target)

/-- The policy denies everything from its addresses. -/
def deniesEgress (policy : PolicyFields) : Bool := policy.hasEgress && policy.egressRules.isEmpty

/-- The packet comes to the ingress rules for its destination: these are written, and its source is
not denied before. -/
def reachesIngress (packet : Packet) (policy : PolicyFields) (targets : List Ipv4Addr) : Bool :=
  policy.hasIngress && decide (packet.destination ∈ targets) &&
    !(deniesEgress policy &&
      decide (packet.source ∈ targets.takeWhile (· ≠ packet.destination)))

/-- An ingress rule is written for the source of the packet and has its port. -/
def letsIn (iptables : Iptables) (sources : CompiledRule → List (Option SourceFilter))
    (packet : Packet) (rule : CompiledRule) : Bool :=
  (sources rule).any (fun source ↦ source.all (names iptables packet)) &&
    rule.port.all fun port ↦ hasPort iptables packet (rule.protocol.getD "tcp") port

variable {iptables : Iptables} {packet : Packet} {policy : PolicyFields}
  {sources : CompiledRule → List (Option SourceFilter)} {comment defaultDeny : Option String}
  {ip : Ipv4Addr} {targets : List Ipv4Addr} {first second rules : List WrittenRule}

/-- The first of two parts of a chain that has a rule for the packet decides. -/
theorem decision_append :
    decision iptables packet (first ++ second) =
      (decision iptables packet first).or (decision iptables packet second) := by
  rw [decision, List.find?_append, Option.map_or]
  rfl

/-- Rules with one target decide for what one of them applies to. -/
theorem decision_of_target {target : Target} (htarget : ∀ rule ∈ rules, rule.target = target) :
    decision iptables packet rules =
      if rules.any (appliesTo iptables packet) then some target else none := by
  rw [decision, ← List.isSome_find?]
  cases hfind : rules.find? (appliesTo iptables packet) with
  | none => rfl
  | some rule => exact congrArg some (htarget rule (List.mem_of_find?_eq_some hfind))

/-- The `ACCEPT` rules of ingress rules for the destination accept what one of these lets in. -/
theorem decision_writeAccepts (ingressRules : List CompiledRule) :
    decision iptables packet
        (ingressRules.flatMap (writeAccepts sources comment packet.destination)) =
      if ingressRules.any (letsIn iptables sources packet) then some .accept else none := by
  have hany (rule : CompiledRule) :
      (writeAccepts sources comment packet.destination rule).any (appliesTo iptables packet) =
        letsIn iptables sources packet rule := by
    rw [writeAccepts, List.any_map, letsIn, List.and_any_distrib_right]
    refine congrArg (sources rule).any (funext fun source ↦ ?_)
    change (decide (packet.destination = packet.destination) && _ &&
      Option.all _ (rule.port.map _)) = _
    rw [decide_eq_true rfl, Bool.true_and, Option.all_map]
  have htarget : ∀ rule ∈ ingressRules.flatMap (writeAccepts sources comment packet.destination),
      rule.target = .accept := by
    intro rule hrule
    obtain ⟨ingressRule, -, hwritten⟩ := List.mem_flatMap.mp hrule
    obtain ⟨source, -, rfl⟩ := List.mem_map.mp hwritten
    rfl
  rw [decision_of_target htarget, List.any_flatMap]
  simp only [hany]

/-- The ingress rules for another address do not decide. -/
theorem decision_writeIngress_of_ne (hne : packet.destination ≠ ip) :
    decision iptables packet (writeIngress sources comment defaultDeny policy ip) = none := by
  have hdestination : ∀ rule ∈ writeIngress sources comment defaultDeny policy ip,
      rule.destination = some ip := by
    intro rule hrule
    unfold writeIngress at hrule
    split_ifs at hrule
    · rw [List.mem_singleton.mp hrule]
    · rcases List.mem_append.mp hrule with haccept | hlast
      · obtain ⟨ingressRule, -, hwritten⟩ := List.mem_flatMap.mp haccept
        obtain ⟨source, -, rfl⟩ := List.mem_map.mp hwritten
        rfl
      · rw [List.mem_singleton.mp hlast]
    · cases hrule
  have hnone : (writeIngress sources comment defaultDeny policy ip).find?
      (appliesTo iptables packet) = none := by
    refine List.find?_eq_none.mpr fun rule hrule ↦ ?_
    simp [appliesTo, hdestination rule hrule, hne]
  rw [decision, hnone]
  rfl

/-- The ingress rules for the destination accept what is let in and drop the rest. -/
theorem decision_writeIngress_self (hspecified : policy.hasIngress = true) :
    decision iptables packet
        (writeIngress sources comment defaultDeny policy packet.destination) =
      some (if policy.ingressRules.any (letsIn iptables sources packet) then .accept
        else .drop) := by
  have hdrop (comment : Option String) : decision iptables packet
      [⟨some packet.destination, none, none, comment, .drop⟩] = some .drop := by
    simp [decision, appliesTo]
  rw [writeIngress, if_pos hspecified]
  split_ifs with hempty hpasses hpasses
  · rw [hempty] at hpasses
    cases hpasses
  · exact hdrop comment
  · rw [decision_append, decision_writeAccepts, if_pos hpasses]
    rfl
  · rw [decision_append, decision_writeAccepts, if_neg hpasses, hdrop]
    rfl

/-- The egress rules for an address drop what comes from there when the policy denies it. -/
theorem decision_writeEgress :
    decision iptables packet (writeEgress comment policy ip) =
      if deniesEgress policy && decide (packet.source = ip) then some .drop else none := by
  have hdenies : deniesEgress policy = true ↔
      policy.hasEgress = true ∧ policy.egressRules = [] := by
    rw [deniesEgress, Bool.and_eq_true, List.isEmpty_iff]
  by_cases hwritten : policy.hasEgress = true ∧ policy.egressRules = []
  · have hdrop : ∀ rule ∈ writeEgress comment policy ip, rule.target = .drop := by
      rw [writeEgress, if_pos hwritten]
      simp
    rw [decision_of_target hdrop, hdenies.mpr hwritten, writeEgress, if_pos hwritten]
    simp [appliesTo, names]
  · rw [writeEgress, if_neg hwritten,
      Bool.eq_false_iff.mpr fun hegress ↦ hwritten (hdenies.mp hegress)]
    rfl

/-- At its destination a packet comes to the ingress rules, when there are any. -/
theorem reachesIngress_cons_self :
    reachesIngress packet policy (packet.destination :: targets) = policy.hasIngress := by
  simp [reachesIngress]

/-- At another address a packet passes on to the next one, unless it is denied there. -/
theorem reachesIngress_cons_of_ne (hne : packet.destination ≠ ip) :
    reachesIngress packet policy (ip :: targets) =
      (!(deniesEgress policy && decide (packet.source = ip)) &&
        reachesIngress packet policy targets) := by
  have hother : ip ≠ packet.destination := hne.symm
  simp only [reachesIngress, List.mem_cons, hne, false_or, List.takeWhile_cons, hother, ne_eq,
    not_false_eq_true, decide_true, if_true, Bool.decide_or]
  cases deniesEgress policy <;> cases decide (packet.source = ip) <;> simp

/-- The rules for the first address decide first. -/
theorem decision_writeRules_cons :
    decision iptables packet (writeRules sources comment defaultDeny policy (ip :: targets)) =
      ((decision iptables packet (writeIngress sources comment defaultDeny policy ip)).or
        (decision iptables packet (writeEgress comment policy ip))).or
          (decision iptables packet (writeRules sources comment defaultDeny policy targets)) := by
  rw [writeRules, List.flatMap_cons, decision_append, decision_append]
  rfl

/-- What the rules of a policy do with a packet. The induction is on the addresses. -/
theorem decision_writeRules :
    decision iptables packet (writeRules sources comment defaultDeny policy targets) =
      if reachesIngress packet policy targets then
        some (if policy.ingressRules.any (letsIn iptables sources packet) then .accept else .drop)
      else if deniesEgress policy && decide (packet.source ∈ targets) then some .drop
      else none := by
  induction targets with
  | nil => simp [writeRules, decision, reachesIngress]
  | cons ip rest ih =>
    have hdenied : (deniesEgress policy && decide (packet.source ∈ ip :: rest)) =
        (deniesEgress policy && decide (packet.source = ip) ||
          deniesEgress policy && decide (packet.source ∈ rest)) := by
      rw [← Bool.and_or_distrib_left]
      simp only [List.mem_cons, Bool.decide_or]
    rw [decision_writeRules_cons, ih, decision_writeEgress, hdenied]
    by_cases hself : packet.destination = ip
    · subst hself
      rw [reachesIngress_cons_self]
      cases hspecified : policy.hasIngress with
      | true =>
        rw [decision_writeIngress_self hspecified]
        rfl
      | false =>
        have hnone : writeIngress sources comment defaultDeny policy packet.destination = [] :=
          if_neg (by simp [hspecified])
        have hpasses : reachesIngress packet policy rest = false := by
          simp [reachesIngress, hspecified]
        rw [hnone, hpasses]
        cases deniesEgress policy && decide (packet.source = packet.destination) <;> rfl
    · rw [decision_writeIngress_of_ne hself, Option.none_or, reachesIngress_cons_of_ne hself]
      cases deniesEgress policy && decide (packet.source = ip) <;> rfl

/-! ### What both decide -/

variable {workloads : List LabelledWorkload} {rule : CompiledRule}

/-- The port of a rule is asked for as a list of options. -/
theorem portMet_iff : PortMet iptables packet rule ↔
    (rule.port.all fun port ↦ hasPort iptables packet (rule.protocol.getD "tcp") port) = true := by
  rw [Option.all_eq_true]
  rfl

/-- An appended `ACCEPT` lets in what has the source and the port of the ingress rule. -/
theorem letsIn_sourceFilters_iff :
    letsIn iptables (sourceFilters workloads) packet rule = true ↔
      SourceMet iptables workloads packet rule ∧ PortMet iptables packet rule := by
  rw [letsIn, Bool.and_eq_true, List.any_eq_true, sourceMet_iff, portMet_iff]

/-- A returned `ACCEPT` lets in what has the port of the ingress rule, and its source, or any source
when there is only a selector. -/
theorem letsIn_generated_iff (workloads : List LabelledWorkload) :
    letsIn iptables (fun rule ↦ [rule.cidr.map .cidr]) packet rule = true ↔
      (SourceMet iptables workloads packet rule ∨
        rule.cidr = none ∧ rule.fromSelector.isSome = true) ∧ PortMet iptables packet rule := by
  rw [letsIn, Bool.and_eq_true, List.any_eq_true, portMet_iff]
  refine and_congr_left fun _ ↦ ?_
  unfold SourceMet
  cases hcidr : rule.cidr with
  | some cidr => simp [names]
  | none => cases rule.fromSelector <;> simp

/-- A packet that comes to the ingress rules, and has the port of one whose source is a selector,
meets one of the ingress rules. -/
def SelectorsMet (iptables : Iptables) (packet : Packet) (policy : PolicyFields)
    (targets : List Ipv4Addr) (workloads : List LabelledWorkload) : Prop :=
  reachesIngress packet policy targets = true →
    (∃ rule ∈ policy.ingressRules, rule.cidr = none ∧ rule.fromSelector.isSome = true ∧
      PortMet iptables packet rule) →
    ∃ rule ∈ policy.ingressRules,
      SourceMet iptables workloads packet rule ∧ PortMet iptables packet rule

/-- An appended `ACCEPT` for the destination lets the packet in when it meets an ingress rule. -/
theorem any_letsIn_sourceFilters_iff {ingressRules : List CompiledRule} :
    ingressRules.any (letsIn iptables (sourceFilters workloads) packet) = true ↔
      ∃ rule ∈ ingressRules,
        SourceMet iptables workloads packet rule ∧ PortMet iptables packet rule := by
  simp only [List.any_eq_true, letsIn_sourceFilters_iff]

/-- A returned `ACCEPT` for the destination lets the packet in then, and when it has the port of an
ingress rule whose source is a selector. -/
theorem any_letsIn_generated_iff (workloads : List LabelledWorkload)
    (ingressRules : List CompiledRule) :
    ingressRules.any (letsIn iptables (fun rule ↦ [rule.cidr.map .cidr]) packet) = true ↔
      (∃ rule ∈ ingressRules,
        SourceMet iptables workloads packet rule ∧ PortMet iptables packet rule) ∨
      ∃ rule ∈ ingressRules, rule.cidr = none ∧ rule.fromSelector.isSome = true ∧
        PortMet iptables packet rule := by
  simp only [List.any_eq_true, letsIn_generated_iff workloads, or_and_right,
    and_or_left, exists_or, and_assoc]

/-- The rules that are appended for a policy and those that are returned for it decide the same
about a packet exactly when the packet does not pass for the lack of a selector only. -/
theorem same_decision_iff (iptables : Iptables) (packet : Packet) (policy : PolicyFields)
    (targets : List Ipv4Addr) (workloads : List LabelledWorkload) :
    decision iptables packet (appendedPolicyRules policy targets workloads) =
        decision iptables packet (generatePolicyRules policy targets) ↔
      SelectorsMet iptables packet policy targets workloads := by
  rw [appendedPolicyRules, generatePolicyRules, decision_writeRules, decision_writeRules]
  unfold SelectorsMet
  rw [← any_letsIn_sourceFilters_iff]
  cases reachesIngress packet policy targets with
  | false => exact iff_of_true rfl fun hfalse ↦ by cases hfalse
  | true =>
    have hgenerated : policy.ingressRules.any
        (letsIn iptables (fun rule ↦ [rule.cidr.map .cidr]) packet) = true ↔ _ :=
      any_letsIn_generated_iff workloads policy.ingressRules
    rw [← any_letsIn_sourceFilters_iff] at hgenerated
    rw [if_pos rfl, if_pos rfl]
    cases happended :
        policy.ingressRules.any (letsIn iptables (sourceFilters workloads) packet) with
    | true =>
      rw [hgenerated.mpr (.inl happended)]
      exact iff_of_true rfl fun _ _ ↦ rfl
    | false =>
      rw [happended, or_iff_right Bool.false_ne_true] at hgenerated
      rw [← hgenerated]
      cases policy.ingressRules.any (letsIn iptables (fun rule ↦ [rule.cidr.map .cidr]) packet) with
      | true => exact iff_of_false (fun hsame ↦ by cases hsame) fun hmet ↦ by cases hmet rfl rfl
      | false => exact iff_of_true rfl fun _ hmet ↦ hmet

/-- A policy with an ingress rule for the workloads that a selector finds. -/
def frontendOnly : PolicyFields where
  name := "web"
  selector := AList.insert "app" "api" ∅
  ingressRules := [⟨some (AList.insert "app" "frontend" ∅), some 8080, none, none⟩]
  egressRules := []
  hasIngress := true
  hasEgress := true

/-- A packet to its port from a workload that is not found is dropped by the rules that are
appended, and accepted by those that are returned. -/
theorem other_source_accepted :
    let packet : Packet := ⟨⟨10, 200, 1, 9⟩, ⟨10, 200, 1, 3⟩, 6, some 8080⟩
    decision plainIptables packet
        (appendedPolicyRules frontendOnly [⟨10, 200, 1, 3⟩] []) = some .drop ∧
      decision plainIptables packet
        (generatePolicyRules frontendOnly [⟨10, 200, 1, 3⟩]) = some .accept := by
  exact ⟨rfl, rfl⟩

end NetPolicy

end Clawbernetes.ClawNode
