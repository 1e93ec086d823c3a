import Clawbernetes.Library.Addresses
import Clawbernetes.Library.FiniteTable
import Clawbernetes.Library.Runs

/-!
# Network policies

`netpolicy.rs`: policies are compiled from JSON and written into the chain `CLAW-NETPOL` of
`iptables`, for the workloads that they select. The chain is a list of rules. Every rule remembers
the ingress rule that it is written for, which `iptables` does not get to see. What `iptables` makes
of the arguments of a rule, and the line that it lists the rule as, are parameters (`Iptables`).

A policy is removed by searching the listing for its comment. So a removal takes the rules of every
policy whose lines have the comment of the removed one as a part, and `removals_exact_iff` says in
which runs the chain is made of the rules of the registered policies at all times.
-/

set_option autoImplicit false
set_option relaxedAutoImplicit false

namespace Clawbernetes.ClawNode

open Library.Addresses Library.FiniteTable Library.Runs

/-! ### The compilation of policies -/

/-- `serde_json::Value`. -/
inductive Value where
  | null
  | bool (value : Bool)
  | posInt (value : UInt64)
  | negInt (value : Int64)
  | float (value : Float)
  | string (value : String)
  | array (items : List Value)
  | object (entries : List (String × Value))

namespace Value

/-- `Value::get` with a key. -/
def get (key : String) : Value → Option Value
  | .object entries => entries.lookup key
  | _ => none

/-- `Value::as_u64`. -/
def asU64 : Value → Option UInt64
  | .posInt value => some value
  | _ => none

/-- `Value::as_str`. -/
def asStr : Value → Option String
  | .string value => some value
  | _ => none

/-- `serde_json::from_value` to a map of strings. -/
def toStringMap : Value → Option (Table String String)
  | .object entries => entries.foldlM (fun table entry ↦ entry.2.asStr.map (table.insert entry.1)) ∅
  | _ => none

end Value

/-- `CompiledRule`. -/
structure CompiledRule where
  fromSelector : Option (Table String String)
  port : Option UInt16
  protocol : Option String
  cidr : Option String

/-- `CompiledPolicy`. Policies are only compiled, so ingress and egress are always specified. -/
structure CompiledPolicy where
  name : String
  selector : Table String String
  ingressRules : List CompiledRule
  egressRules : List CompiledRule
  hasIngress : Bool
  hasEgress : Bool
  ingress_specified : hasIngress = true
  egress_specified : hasEgress = true

/-- `compile_rule`. The port loses the bits above the lowest sixteen. -/
def compileRule (rule : Value) : Except String CompiledRule :=
  .ok {
    fromSelector := ((rule.get "from").bind (·.get "selector")).bind (·.toStringMap)
    port := ((rule.get "port").bind (·.asU64)).map (·.toUInt16)
    protocol := (rule.get "protocol").bind (·.asStr)
    cidr := ((rule.get "from").bind (·.get "cidr")).bind (·.asStr) }

/-- `compile_policy`. -/
def compilePolicy (name : String) (selector : Table String String) (ingress egress : List Value) :
    Except String CompiledPolicy :=
  .ok {
    name := name
    selector := selector
    ingressRules := ingress.filterMap fun rule ↦ (compileRule rule).toOption
    egressRules := egress.filterMap fun rule ↦ (compileRule rule).toOption
    hasIngress := true
    hasEgress := !egress.isEmpty || egress.isEmpty
    ingress_specified := rfl
    egress_specified := Bool.not_or_self egress.isEmpty }

/-! ### The rules of a policy -/

/-- What a rule does with a packet. -/
inductive Target where
  | accept
  | drop
  deriving DecidableEq

/-- The name of a target. -/
def Target.display : Target → String
  | .accept => "ACCEPT"
  | .drop => "DROP"

/-- The argument of the option `-s`: one address, or a text from a policy. -/
inductive SourceFilter where
  | host (ip : Ipv4Addr)
  | cidr (text : String)

/-- A rule of the chain, with the options that the source uses. -/
structure PolicyRule where
  destination : Option Ipv4Addr
  source : Option SourceFilter
  /-- The options `-p` and `--dport`. -/
  dport : Option (String × UInt16)
  comment : String
  target : Target
  /-- The policy and its ingress rule that an `ACCEPT` is written for. -/
  origin : Option (CompiledPolicy × CompiledRule)

/-- `POLICY_CHAIN`. -/
def policyChain : String := "CLAW-NETPOL"

/-- The text of the argument of `-s`. -/
def SourceFilter.display : SourceFilter → String
  | .host ip => ip.display ++ "/32"
  | .cidr text => text

/-- The arguments of `iptables` that append a rule. -/
def PolicyRule.arguments (rule : PolicyRule) : List String :=
  ["-A", policyChain] ++
    (rule.destination.elim [] fun ip ↦ ["-d", ip.display ++ "/32"]) ++
    (rule.source.elim [] fun source ↦ ["-s", source.display]) ++
    (rule.dport.elim [] fun (protocol, port) ↦ ["-p", protocol, "--dport", toString port.toNat]) ++
    ["-m", "comment", "--comment", rule.comment, "-j", rule.target.display]

/-- The comment of the rules of a policy. -/
def policyComment (name : String) : String := "claw-policy:" ++ name

/-- The comment of the last rule after ingress rules. -/
def defaultDenyComment (name : String) : String := policyComment name ++ ":default-deny"

/-- A running workload, with its labels. -/
abbrev LabelledWorkload := Ipv4Addr × Table String String

/-- `find_matching_ips`. -/
def findMatchingIps (workloads : List LabelledWorkload) (selector : Table String String) :
    List Ipv4Addr :=
  if selector.entries = [] then []
  else (workloads.filter fun workload ↦
    selector.entries.all fun entry ↦ decide (workload.2.lookup entry.1 = some entry.2)).map Prod.fst

/-- The sources that the rules of an ingress rule are written for: what `-s` gets, if anything. -/
def sourceFilters (workloads : List LabelledWorkload) (rule : CompiledRule) :
    List (Option SourceFilter) :=
  match rule.cidr, rule.fromSelector with
  | some cidr, _ => [some (.cidr cidr)]
  | none, some selector => (findMatchingIps workloads selector).map fun ip ↦ some (.host ip)
  | none, none => [none]

/-- The `ACCEPT` rules of one ingress rule of a policy, for one address. A protocol without a port
is not written. -/
def acceptRules (policy : CompiledPolicy) (workloads : List LabelledWorkload) (ip : Ipv4Addr)
    (rule : CompiledRule) : List PolicyRule :=
  (sourceFilters workloads rule).map fun source ↦ {
    destination := some ip
    source := source
    dport := rule.port.map fun port ↦ (rule.protocol.getD "tcp", port)
    comment := policyComment policy.name
    target := .accept
    origin := some (policy, rule) }

/-- The `DROP` rule for the packets to an address. -/
def denyInbound (comment : String) (ip : Ipv4Addr) : PolicyRule :=
  ⟨some ip, none, none, comment, .drop, none⟩

/-- The `DROP` rule for the packets from an address. -/
def denyOutbound (comment : String) (ip : Ipv4Addr) : PolicyRule :=
  ⟨none, some (.host ip), none, comment, .drop, none⟩

/-- The comment of the rule that denies what the ingress rules did not accept. -/
def denyComment (policy : CompiledPolicy) : String :=
  if policy.ingressRules = [] then policyComment policy.name else defaultDenyComment policy.name

/-- The ingress rules of a policy for one address. -/
def ingressRulesFor (policy : CompiledPolicy) (workloads : List LabelledWorkload)
    (ip : Ipv4Addr) : List PolicyRule :=
  if policy.hasIngress then
    if policy.ingressRules = [] then [denyInbound (policyComment policy.name) ip]
    else policy.ingressRules.flatMap (acceptRules policy workloads ip) ++
      [denyInbound (defaultDenyComment policy.name) ip]
  else []

/-- The egress rules of a policy for one address. Only an empty list of egress rules is written. -/
def egressRulesFor (policy : CompiledPolicy) (ip : Ipv4Addr) : List PolicyRule :=
  if policy.hasEgress ∧ policy.egressRules = [] then [denyOutbound (policyComment policy.name) ip]
  else []

/-- The rules that `apply_policy_rules` writes for a policy, in their order. -/
def policyRules (policy : CompiledPolicy) (targets : List Ipv4Addr)
    (workloads : List LabelledWorkload) : List PolicyRule :=
  targets.flatMap fun ip ↦ ingressRulesFor policy workloads ip ++ egressRulesFor policy ip

/-! ### The chain -/

/-- What `iptables` does with arguments: whether it appends the rule, the line that it lists it as
after the number, and which addresses and protocols the texts from policies name. One rule is one
line, so the names of policies are taken to have no line feeds, and the line has the comment of the
rule. -/
structure Iptables where
  appends : List String → Bool
  line : List String → String
  inCidr : String → Ipv4Addr → Bool
  isProtocol : String → UInt8 → Bool
  comment_infix_line : ∀ rule : PolicyRule,
    rule.comment.toList <:+: (line rule.arguments).toList

variable (iptables : Iptables)

/-- `add_iptables_rule`. -/
def addIptablesRule (chain : List PolicyRule) (rule : PolicyRule) : List PolicyRule :=
  if iptables.appends rule.arguments then chain ++ [rule] else chain

/-- `apply_policy_rules`. -/
def applyPolicyRules (policy : CompiledPolicy) (targets : List Ipv4Addr)
    (workloads : List LabelledWorkload) (chain : List PolicyRule) : List PolicyRule :=
  (policyRules policy targets workloads).foldl (addIptablesRule iptables) chain

/-- The lines of `iptables -L CLAW-NETPOL --line-numbers -n` after the two of the head, which have
no comment. Every rule is listed as one line, which it is when its comment has no line feed. -/
def listing (chain : List PolicyRule) : List (ℕ × String) :=
  chain.mapIdx fun index rule ↦ (index + 1, iptables.line rule.arguments)

/-- `str::contains`. -/
def hasText (text line : String) : Bool := decide (text.toList <:+: line.toList)

/-- The number of the first line that has a text, as a round of `remove_policy_rules` finds it. -/
def ruleNum (text : String) (chain : List PolicyRule) : Option ℕ :=
  ((listing iptables chain).find? fun line ↦ hasText text line.2).map Prod.fst

/-- `iptables -D CLAW-NETPOL` with a number. -/
def deleteNumber (number : ℕ) (chain : List PolicyRule) : List PolicyRule :=
  chain.eraseIdx (number - 1)

/-- The loop of `remove_policy_rules`. Every round but the last deletes a rule. -/
def removeLines (text : String) : ℕ → List PolicyRule → List PolicyRule
  | 0, chain => chain
  | rounds + 1, chain =>
    match ruleNum iptables text chain with
    | none => chain
    | some number => removeLines text rounds (deleteNumber number chain)

/-- `remove_policy_rules`. -/
def removePolicyRules (name : String) (chain : List PolicyRule) : List PolicyRule :=
  removeLines iptables (policyComment name) (chain.length + 1) chain

/-- `PolicyEngine`. -/
structure PolicyEngine where
  policies : List CompiledPolicy
  iptablesAvailable : Bool

namespace PolicyEngine

/-- `PolicyEngine::new`, with or without `iptables`. -/
def new (iptablesAvailable : Bool) : PolicyEngine := ⟨[], iptablesAvailable⟩

/-- `PolicyEngine::add_policy`, on the engine and the chain. -/
def addPolicy (engine : PolicyEngine) (chain : List PolicyRule) (name : String)
    (selector : Table String String) (ingress egress : List Value)
    (workloads : List LabelledWorkload) : Except String Unit × PolicyEngine × List PolicyRule :=
  if engine.policies.any fun policy ↦ policy.name = name then
    (.error ("policy '" ++ name ++ "' already exists"), engine, chain)
  else
    match compilePolicy name selector ingress egress with
    | .error error => (.error error, engine, chain)
    | .ok compiled =>
      (.ok (), { engine with policies := engine.policies ++ [compiled] },
        if engine.iptablesAvailable then
          applyPolicyRules iptables compiled (findMatchingIps workloads compiled.selector) workloads
            chain
        else chain)

/-- `PolicyEngine::remove_policy`, on the engine and the chain. -/
def removePolicy (engine : PolicyEngine) (chain : List PolicyRule) (name : String) :
    Except String Unit × PolicyEngine × List PolicyRule :=
  match engine.policies.findIdx? fun policy ↦ policy.name = name with
  | none => (.error ("policy '" ++ name ++ "' not found"), engine, chain)
  | some index =>
    (.ok (), { engine with policies := engine.policies.eraseIdx index },
      if engine.iptablesAvailable then removePolicyRules iptables name chain else chain)

/-- `PolicyEngine::refresh_all`, on the chain, which is flushed first. -/
def refreshAll (engine : PolicyEngine) (workloads : List LabelledWorkload)
    (chain : List PolicyRule) : List PolicyRule :=
  if engine.iptablesAvailable then
    engine.policies.foldl (fun chain policy ↦ applyPolicyRules iptables policy
      (findMatchingIps workloads policy.selector) workloads chain) []
  else chain

end PolicyEngine

/-! ### The names of the registered policies -/

/-- The names of the registered policies. -/
def PolicyEngine.names (engine : PolicyEngine) : List String := engine.policies.map (·.name)

namespace PolicyEngine

/-- An addition adds the name unless it is taken. -/
theorem names_addPolicy (engine : PolicyEngine) (chain : List PolicyRule) (name : String)
    (selector : Table String String) (ingress egress : List Value)
    (workloads : List LabelledWorkload) :
    (engine.addPolicy iptables chain name selector ingress egress workloads).2.1.names =
      if name ∈ engine.names then engine.names else engine.names ++ [name] := by
  have htaken :
      (engine.policies.any fun policy ↦ policy.name = name) = decide (name ∈ engine.names) := by
    rw [Bool.eq_iff_iff, List.any_eq_true, decide_eq_true_eq, names, List.mem_map]
    simp only [decide_eq_true_eq]
  unfold addPolicy
  rw [htaken]
  by_cases hname : name ∈ engine.names
  · simp only [hname, decide_true, if_true]
  · simp only [hname, decide_false, Bool.false_eq_true, if_false]
    exact List.map_append

/-- A removal takes out the first occurrence of the name. -/
theorem names_removePolicy (engine : PolicyEngine) (chain : List PolicyRule) (name : String) :
    (engine.removePolicy iptables chain name).2.1.names = engine.names.erase name := by
  have herase : engine.names.erase name =
      (engine.policies.eraseP fun policy ↦ policy.name = name).map (·.name) := by
    rw [names, List.erase_eq_eraseP, List.eraseP_map]
    congr 2
    funext policy
    exact Bool.eq_iff_iff.mpr (beq_iff_eq.trans (eq_comm.trans decide_eq_true_iff.symm))
  rw [herase, List.eraseP_eq_eraseIdx]
  unfold removePolicy
  cases engine.policies.findIdx? fun policy ↦ policy.name = name <;> rfl

end PolicyEngine

/-! ### What is appended and removed -/

/-- The rules of a policy that `iptables` appends. -/
def appendedRules (workloads : List LabelledWorkload) (policy : CompiledPolicy) :
    List PolicyRule :=
  (policyRules policy (findMatchingIps workloads policy.selector) workloads).filter
    fun rule ↦ iptables.appends rule.arguments

/-- The line of a rule has a text. -/
def listedWith (text : String) (rule : PolicyRule) : Bool :=
  hasText text (iptables.line rule.arguments)

variable {iptables} {workloads : List LabelledWorkload} {policy : CompiledPolicy} {name : String}

/-- The rules of a policy are appended behind the chain, without those that `iptables` rejects. -/
theorem applyPolicyRules_eq (chain : List PolicyRule) :
    applyPolicyRules iptables policy (findMatchingIps workloads policy.selector) workloads chain =
      chain ++ appendedRules iptables workloads policy := by
  unfold applyPolicyRules appendedRules
  generalize policyRules policy (findMatchingIps workloads policy.selector) workloads = rules
  induction rules generalizing chain with
  | nil => simp
  | cons rule rest ih =>
    rw [List.foldl_cons, ih, addIptablesRule]
    by_cases happends : iptables.appends rule.arguments
    · rw [if_pos happends, List.filter_cons, if_pos happends, List.append_assoc]
      rfl
    · rw [if_neg happends, List.filter_cons, if_neg happends]

/-- A round finds the first rule whose line has the text, and the numbers count from one. -/
theorem ruleNum_eq (text : String) (chain : List PolicyRule) :
    ruleNum iptables text chain = (chain.findIdx? (listedWith iptables text)).map (· + 1) := by
  unfold ruleNum listing
  rw [List.mapIdx_eq_zipIdx_map, List.find?_map, List.findIdx?_eq_fst_find?_zipIdx, Option.map_map,
    Option.map_map]
  rfl

/-- A round deletes the first rule whose line has the text. -/
theorem removeLines_succ (text : String) (rounds : ℕ) (chain : List PolicyRule) :
    removeLines iptables text (rounds + 1) chain =
      if chain.any (listedWith iptables text) then
        removeLines iptables text rounds (chain.eraseP (listedWith iptables text))
      else chain := by
  rw [removeLines, ruleNum_eq, List.eraseP_eq_eraseIdx]
  cases hindex : chain.findIdx? (listedWith iptables text) with
  | none =>
    rw [if_neg]
    · rfl
    · simpa [List.findIdx?_eq_none_iff] using hindex
  | some index =>
    have hany : chain.any (listedWith iptables text) = true := by
      obtain ⟨hbound, hlisted, -⟩ := List.findIdx?_eq_some_iff_getElem.mp hindex
      exact List.any_eq_true.mpr ⟨_, List.getElem_mem hbound, hlisted⟩
    rw [if_pos hany]
    rfl

/-- With a round for each rule and one more the loop ends with all rules removed whose line has the
text. -/
theorem removeLines_eq_filter (text : String) {rounds : ℕ} {chain : List PolicyRule}
    (hrounds : chain.length < rounds) :
    removeLines iptables text rounds chain =
      chain.filter fun rule ↦ !listedWith iptables text rule := by
  induction rounds generalizing chain with
  | zero => omega
  | succ rounds ih =>
    rw [removeLines_succ]
    split_ifs with hany
    · obtain ⟨rule, hrule, hlisted⟩ := List.any_eq_true.mp hany
      obtain ⟨found, before, after, -, hfound, hchain, herase⟩ :=
        List.exists_of_eraseP hrule hlisted
      have hshorter : (chain.eraseP (listedWith iptables text)).length < rounds := by
        rw [List.length_eraseP_of_mem hrule hlisted]
        have hpositive := List.length_pos_of_mem hrule
        omega
      rw [ih hshorter, herase, hchain, List.filter_append, List.filter_append,
        List.filter_cons_of_neg (by simp [hfound])]
    · refine (List.filter_eq_self.mpr fun rule hrule ↦ ?_).symm
      have hnot := fun hlisted ↦ hany (List.any_eq_true.mpr ⟨rule, hrule, hlisted⟩)
      simpa using hnot

/-- A removal takes the rules whose lines have the comment of the policy. -/
theorem removePolicyRules_eq (name : String) (chain : List PolicyRule) :
    removePolicyRules iptables name chain =
      chain.filter fun rule ↦ !listedWith iptables (policyComment name) rule :=
  removeLines_eq_filter _ (Nat.lt_succ_self _)

/-- The comment of every rule of a policy begins with that of the policy. -/
theorem comment_of_mem_policyRules {targets : List Ipv4Addr} {rule : PolicyRule}
    (hrule : rule ∈ policyRules policy targets workloads) :
    (policyComment policy.name).toList <+: rule.comment.toList := by
  obtain ⟨ip, -, hrule⟩ := List.mem_flatMap.mp hrule
  have hdeny : (policyComment policy.name).toList <+: (defaultDenyComment policy.name).toList := by
    rw [defaultDenyComment, String.toList_append]
    exact List.prefix_append _ _
  rcases List.mem_append.mp hrule with hingress | hegress
  · simp only [ingressRulesFor, policy.ingress_specified, if_true] at hingress
    split_ifs at hingress
    · rw [List.mem_singleton.mp hingress]
      exact List.prefix_refl _
    · rcases List.mem_append.mp hingress with haccept | hlast
      · obtain ⟨ingressRule, -, haccept⟩ := List.mem_flatMap.mp haccept
        obtain ⟨source, -, rfl⟩ := List.mem_map.mp haccept
        exact List.prefix_refl _
      · rw [List.mem_singleton.mp hlast]
        exact hdeny
  · unfold egressRulesFor at hegress
    split_ifs at hegress
    · rw [List.mem_singleton.mp hegress]
      exact List.prefix_refl _
    · cases hegress

/-- The lines of the rules of a policy have its comment. -/
theorem listedWith_of_mem_appendedRules {rule : PolicyRule}
    (hrule : rule ∈ appendedRules iptables workloads policy) :
    listedWith iptables (policyComment policy.name) rule = true := by
  have hcomment := comment_of_mem_policyRules (List.mem_filter.mp hrule).1
  exact decide_eq_true (hcomment.isInfix.trans (iptables.comment_infix_line rule))

/-- An `iptables` that appends every rule, lists its target and comment, knows two protocols and
takes every address to be in every network. -/
def plainIptables : Iptables where
  appends _ := true
  line arguments :=
    match arguments.reverse with
    | target :: _ :: comment :: _ => target ++ "  all  --  /* " ++ comment ++ " */"
    | _ => ""
  inCidr _ _ := true
  isProtocol text number := text == "tcp" && number == 6 || text == "udp" && number == 17
  comment_infix_line rule := by
    simp only [PolicyRule.arguments, List.reverse_append, List.reverse_cons, List.reverse_nil,
      List.nil_append, List.cons_append, String.toList_append]
    exact ⟨_, _, rfl⟩

/-! ### Runs of additions and removals -/

namespace PolicyEngine

/-- A call that adds or removes a policy. -/
inductive Call where
  | addPolicy (name : String) (selector : Table String String) (ingress egress : List Value)
  | removePolicy (name : String)

/-- The engine and the chain after a call, with the same workloads each time. -/
def step (iptables : Iptables) (workloads : List LabelledWorkload)
    (state : PolicyEngine × List PolicyRule) : Call → PolicyEngine × List PolicyRule
  | .addPolicy name selector ingress egress =>
    (state.1.addPolicy iptables state.2 name selector ingress egress workloads).2
  | .removePolicy name => (state.1.removePolicy iptables state.2 name).2

/-- The chain is made of the rules of the registered policies, in the order of their addition. -/
def Exact (iptables : Iptables) (workloads : List LabelledWorkload)
    (state : PolicyEngine × List PolicyRule) : Prop :=
  state.2 = state.1.policies.flatMap (appendedRules iptables workloads)

/-- A removal of a registered policy finds its comment in the lines of no other policy. -/
def RemovesOwn (iptables : Iptables) (workloads : List LabelledWorkload)
    (state : PolicyEngine × List PolicyRule) : Call → Prop
  | .addPolicy _ _ _ _ => True
  | .removePolicy name => name ∈ state.1.policies.map (·.name) →
      ∀ policy ∈ state.1.policies, policy.name ≠ name →
        ∀ rule ∈ appendedRules iptables workloads policy,
          listedWith iptables (policyComment name) rule = false

/-- There is `iptables`, and no two policies have one name. -/
def Running (state : PolicyEngine × List PolicyRule) : Prop :=
  state.1.iptablesAvailable = true ∧ (state.1.policies.map (·.name)).Nodup

variable {engine : PolicyEngine} {chain : List PolicyRule}

/-- An addition changes nothing when the name is taken, and registers the compiled policy
otherwise. -/
theorem addPolicy_cases (selector : Table String String) (ingress egress : List Value)
    (havailable : engine.iptablesAvailable = true) :
    name ∈ engine.policies.map (·.name) ∧ (engine.addPolicy iptables chain name selector ingress
        egress workloads).2 = (engine, chain) ∨
      ∃ policy, policy.name = name ∧ name ∉ engine.policies.map (·.name) ∧
        (engine.addPolicy iptables chain name selector ingress egress workloads).2 =
          ({ engine with policies := engine.policies ++ [policy] },
            chain ++ appendedRules iptables workloads policy) := by
  unfold addPolicy
  split_ifs with htaken
  · refine .inl ⟨?_, rfl⟩
    obtain ⟨policy, hpolicy, hname⟩ := List.any_eq_true.mp htaken
    exact List.mem_map.mpr ⟨policy, hpolicy, of_decide_eq_true hname⟩
  · refine .inr ⟨_, ?_, fun hmem ↦ ?_, Prod.ext rfl (applyPolicyRules_eq chain)⟩
    · rfl
    · obtain ⟨policy, hpolicy, hname⟩ := List.mem_map.mp hmem
      exact htaken (List.any_eq_true.mpr ⟨policy, hpolicy, decide_eq_true hname⟩)

/-- A removal changes nothing when there is no policy of the name, and takes the first one out of
the list otherwise. -/
theorem removePolicy_cases (havailable : engine.iptablesAvailable = true) (name : String) :
    name ∉ engine.policies.map (·.name) ∧
        (engine.removePolicy iptables chain name).2 = (engine, chain) ∨
      ∃ before policy after, engine.policies = before ++ policy :: after ∧ policy.name = name ∧
        (engine.removePolicy iptables chain name).2 =
          ({ engine with policies := before ++ after },
            chain.filter fun rule ↦ !listedWith iptables (policyComment name) rule) := by
  unfold removePolicy
  cases hindex : engine.policies.findIdx? fun policy ↦ policy.name = name with
  | none =>
    refine .inl ⟨fun hmem ↦ ?_, rfl⟩
    obtain ⟨policy, hpolicy, hname⟩ := List.mem_map.mp hmem
    exact absurd hname (by simpa using List.findIdx?_eq_none_iff.mp hindex policy hpolicy)
  | some index =>
    obtain ⟨hbound, hname, -⟩ := List.findIdx?_eq_some_iff_getElem.mp hindex
    refine .inr ⟨engine.policies.take index, engine.policies[index],
      engine.policies.drop (index + 1), ?_, of_decide_eq_true hname, ?_⟩
    · rw [List.getElem_cons_drop, List.take_append_drop]
    · simp only [havailable, if_true, removePolicyRules_eq, List.eraseIdx_eq_take_drop_succ]

/-- Every call leaves the names different. -/
theorem running_step (call : Call) {state : PolicyEngine × List PolicyRule}
    (hrunning : Running state) : Running (step iptables workloads state call) := by
  obtain ⟨havailable, hnames⟩ := hrunning
  cases call with
  | addPolicy name selector ingress egress =>
    simp only [step]
    rcases addPolicy_cases selector ingress egress havailable with ⟨-, hsame⟩ |
      ⟨policy, hname, hfresh, hafter⟩
    · rw [hsame]
      exact ⟨havailable, hnames⟩
    · rw [hafter]
      refine ⟨havailable, ?_⟩
      rw [List.map_append, List.map_singleton, List.nodup_append_comm, hname]
      exact List.nodup_cons.mpr ⟨hfresh, hnames⟩
  | removePolicy name =>
    simp only [step]
    rcases removePolicy_cases havailable name with ⟨-, hsame⟩ |
      ⟨before, policy, after, hpolicies, -, hafter⟩
    · rw [hsame]
      exact ⟨havailable, hnames⟩
    · rw [hafter]
      refine ⟨havailable, hnames.sublist ?_⟩
      rw [hpolicies]
      exact (List.Sublist.append_left (List.sublist_cons_self policy after) before).map _

/-- A removal takes the rules of the policy itself. -/
theorem filter_appendedRules (policy : CompiledPolicy) :
    (appendedRules iptables workloads policy).filter
      (fun rule ↦ !listedWith iptables (policyComment policy.name) rule) = [] := by
  rw [List.filter_eq_nil_iff]
  intro rule hrule
  simp [listedWith_of_mem_appendedRules hrule]

/-- The policies beside one are those with another name. -/
theorem mem_others_iff {before after : List CompiledPolicy} {policy other : CompiledPolicy}
    (hnames : ((before ++ policy :: after).map (·.name)).Nodup) :
    other ∈ before ++ after ↔ other ∈ before ++ policy :: after ∧ other.name ≠ policy.name := by
  constructor
  · intro hother
    refine ⟨(List.Sublist.append_left (List.sublist_cons_self policy after) before).subset hother,
      fun hsame ↦ ?_⟩
    rw [List.map_append, List.map_cons, List.nodup_middle, ← List.map_append] at hnames
    exact (List.nodup_cons.mp hnames).1 (List.mem_map.mpr ⟨other, hother, hsame⟩)
  · rintro ⟨hother, hne⟩
    rcases List.mem_append.mp hother with hbefore | hrest
    · exact List.mem_append_left after hbefore
    · rcases List.mem_cons.mp hrest with rfl | hafter
      · exact absurd rfl hne
      · exact List.mem_append_right before hafter

/-- A removal leaves the rules of the registered policies exactly when it does not remove rules of
another policy. -/
theorem exact_removePolicy_iff (name : String) {state : PolicyEngine × List PolicyRule}
    (hrunning : Running state) (hexact : Exact iptables workloads state) :
    Exact iptables workloads (step iptables workloads state (.removePolicy name)) ↔
      RemovesOwn iptables workloads state (.removePolicy name) := by
  obtain ⟨havailable, hnames⟩ := hrunning
  unfold Exact at hexact
  simp only [step, Exact, RemovesOwn]
  rcases removePolicy_cases havailable name with ⟨hnone, hsame⟩ |
    ⟨before, policy, after, hpolicies, rfl, hafter⟩
  · rw [hsame]
    exact iff_of_true hexact fun hmem ↦ absurd hmem hnone
  · -- The rules of the policy itself are all removed; the question is what else is.
    rw [hpolicies] at hnames
    rw [hafter, hexact, hpolicies, List.flatMap_append, List.flatMap_cons, List.filter_append,
      List.filter_append, filter_appendedRules policy, List.nil_append, ← List.filter_append,
      ← List.flatMap_append, List.filter_eq_self]
    constructor
    · intro hkept _ other hother hne rule hrule
      have hmem := (mem_others_iff hnames).mpr ⟨hother, hne⟩
      simpa using hkept rule (List.mem_flatMap.mpr ⟨other, hmem, hrule⟩)
    · intro hremoves rule hrule
      obtain ⟨other, hother, hrule⟩ := List.mem_flatMap.mp hrule
      obtain ⟨hmem, hne⟩ := (mem_others_iff hnames).mp hother
      have hregistered : policy.name ∈ (before ++ policy :: after).map (·.name) :=
        List.mem_map_of_mem (List.mem_append_right before (List.mem_cons_self ..))
      simpa using hremoves hregistered other hmem hne rule hrule

/-- A call leaves the rules of the registered policies exactly when it does not remove rules of
another policy. -/
theorem exact_step_iff (call : Call) {state : PolicyEngine × List PolicyRule}
    (hrunning : Running state) (hexact : Exact iptables workloads state) :
    Exact iptables workloads (step iptables workloads state call) ↔
      RemovesOwn iptables workloads state call := by
  cases call with
  | addPolicy name selector ingress egress =>
    refine iff_of_true ?_ trivial
    unfold Exact at hexact
    simp only [step, Exact]
    rcases addPolicy_cases selector ingress egress hrunning.1 with ⟨-, hsame⟩ |
      ⟨policy, -, -, hafter⟩
    · rw [hsame]
      exact hexact
    · rw [hafter, hexact, List.flatMap_append, List.flatMap_singleton]
  | removePolicy name => exact exact_removePolicy_iff name hrunning hexact

/-- In a run of additions and removals the chain is made of the rules of the registered policies at
all times, if and only if every removal of a registered policy finds its comment in the lines of no
other registered policy. -/
theorem removals_exact_iff (iptables : Iptables) (workloads : List LabelledWorkload)
    (calls : List Call) :
    Always (step iptables workloads) (Exact iptables workloads) (new true, []) calls ↔
      Throughout (step iptables workloads) (RemovesOwn iptables workloads) (new true, [])
        calls := by
  have hstart : Running (new true, []) := ⟨rfl, List.nodup_nil⟩
  exact always_iff_throughout_of_invariant hstart
    (fun _ call hrunning ↦ running_step call hrunning) rfl
    fun _ call hrunning hexact ↦ exact_step_iff call hrunning hexact

/-- The removal of the policy `web` takes the rules of the policy `web-api`. -/
theorem removal_takes_other_rules :
    let selector : Table String String := AList.singleton "app" "web"
    ¬Always (step plainIptables [(⟨10, 200, 1, 2⟩, selector)])
      (Exact plainIptables [(⟨10, 200, 1, 2⟩, selector)]) (new true, [])
      [.addPolicy "web" selector [] [], .addPolicy "web-api" selector [] [],
        .removePolicy "web"] := by
  intro selector halways
  have hlength := congrArg List.length halways.last
  revert hlength
  decide +kernel

end PolicyEngine

end Clawbernetes.ClawNode
