import Clawbernetes.ClawNode.DnatRules
import Clawbernetes.Library.NthCounters

/-!
# The turns of the backends of a service

What the rules of `generate_dnat_rule_args` do with the connections to a service. `iptables` goes
along the rules to the first one that matches. A rule in mode `nth` has a counter of its own: it
counts the packets that its other matches accept, and matches those whose count has the given
remainder.

The other matches are those of the service in every rule, so the rule at an index counts the
connections that the rules before it let through, and the periods of the rules are as many as there
are backends, then one fewer with every rule. `round_robin_fair` says that the backends take turns:
every connection to the service goes to one backend, and as many consecutive ones as there are
backends go to each of them once, whatever other traffic passes in between.
-/

set_option autoImplicit false
set_option relaxedAutoImplicit false

namespace Clawbernetes.ClawNode

open Library.Addresses Library.NthCounters

/-- The matches of a rule beside the statistic one, with the first packet of a connection. -/
def Matches (Packet : Type*) := Ipv4Addr → Option String → Option UInt16 → Packet → Bool

/-- A rule of the kernel with the counter of its statistic match. -/
structure CountedRule where
  rule : Rule
  counter : ℕ
  deriving DecidableEq

variable {Packet : Type*} {accepts : Matches Packet}

namespace CountedRule

/-- The rule as it is appended. -/
def fresh (rule : Rule) : CountedRule := ⟨rule, 0⟩

/-- The matches of the rule beside the statistic one accept a packet. -/
def accepted (accepts : Matches Packet) (counted : CountedRule) (packet : Packet) : Bool :=
  accepts counted.rule.destination counted.rule.protocol counted.rule.dport packet

/-- Whether the rule matches a packet, and the rule after it. The statistic match is asked when the
others accept the packet. -/
def evaluate (accepts : Matches Packet) (packet : Packet) (counted : CountedRule) :
    Bool × CountedRule :=
  if counted.accepted accepts packet then
    match counted.rule.statistic with
    | none => (true, counted)
    | some (every, remainder) =>
      (counted.counter % every = remainder, { counted with counter := counted.counter + 1 })
  else (false, counted)

end CountedRule

/-- The position of the first rule that matches a packet, and the rules after it. The rules behind
the first one that matches do not see the packet. -/
def evaluateRules (accepts : Matches Packet) (packet : Packet) :
    List CountedRule → Option ℕ × List CountedRule
  | [] => (none, [])
  | counted :: rest =>
    let (matched, after) := counted.evaluate accepts packet
    if matched then (some 0, after :: rest)
    else
      let (position, later) := evaluateRules accepts packet rest
      (position.map (· + 1), after :: later)

/-- The rules after some packets. -/
def rulesAfter (accepts : Matches Packet) (rules : List CountedRule) (packets : List Packet) :
    List CountedRule :=
  packets.foldl (fun rules packet ↦ (evaluateRules accepts packet rules).2) rules

/-- The positions of the rules that match some packets, one after the other, for the packets that a
rule matches. -/
def positions (accepts : Matches Packet) : List CountedRule → List Packet → List ℕ
  | _, [] => []
  | rules, packet :: rest =>
    (evaluateRules accepts packet rules).1.toList ++
      positions accepts (evaluateRules accepts packet rules).2 rest

/-! ### The rules of a service -/

variable {vip : Ipv4Addr} {port : UInt16} {protocol : String}
  {backends : List (Ipv4Addr × UInt16)} {packet : Packet}

/-- A rule with the matches of the service beside the statistic one. -/
def ForService (vip : Ipv4Addr) (port : UInt16) (protocol : String) (rule : Rule) : Prop :=
  rule.destination = vip ∧ rule.protocol = some protocol ∧ rule.dport = some port

/-- The rules of a service have its matches. -/
theorem forService_of_mem {rule : Rule} (hrule : rule ∈ dnatRules vip port protocol backends) :
    ForService vip port protocol rule := by
  obtain ⟨index, hindex, rfl⟩ := List.mem_mapIdx.mp hrule
  exact ⟨rfl, rfl, rfl⟩

/-- Such a rule accepts what is for the service. -/
theorem ForService.accepted_eq {counted : CountedRule}
    (hservice : ForService vip port protocol counted.rule) :
    counted.accepted accepts packet = accepts vip (some protocol) (some port) packet := by
  obtain ⟨hdestination, hprotocol, hport⟩ := hservice
  rw [CountedRule.accepted, hdestination, hprotocol, hport]

/-- The rules with the counters of their periods. -/
def withCounters (rules : List Rule) (periods : List (ℕ × ℕ)) : List CountedRule :=
  List.zipWith (fun rule period ↦ ⟨rule, period.2⟩) rules periods

/-- A packet to something else passes the rules of a service, and is not counted. -/
theorem evaluateRules_of_rejected {rules : List CountedRule}
    (hservice : ∀ counted ∈ rules, ForService vip port protocol counted.rule)
    (hrejected : accepts vip (some protocol) (some port) packet = false) :
    evaluateRules accepts packet rules = (none, rules) := by
  induction rules with
  | nil => rfl
  | cons counted rest ih =>
    rw [List.forall_mem_cons] at hservice
    have hpasses : counted.evaluate accepts packet = (false, counted) := by
      rw [CountedRule.evaluate, hservice.1.accepted_eq, hrejected]
      rfl
    rw [evaluateRules, hpasses, ih hservice.2]
    rfl

/-- A packet to the service is matched like an item by the periods and counters of the rules. -/
theorem evaluateRules_of_accepted {rules : List Rule} {periods : List (ℕ × ℕ)}
    (hperiods : List.Forall₂ (fun rule period ↦ rule.statistic = some (period.1, 0)) rules periods)
    (hservice : ∀ rule ∈ rules, ForService vip port protocol rule)
    (haccepted : accepts vip (some protocol) (some port) packet = true) :
    evaluateRules accepts packet (withCounters rules periods) =
      ((pick periods).1, withCounters rules (pick periods).2) := by
  induction hperiods with
  | nil => rfl
  | @cons rule period rest later hperiod hrest ih =>
    rw [List.forall_mem_cons] at hservice
    obtain ⟨every, counter⟩ := period
    have hcounts : CountedRule.evaluate accepts packet ⟨rule, counter⟩ =
        (decide (counter % every = 0), ⟨rule, counter + 1⟩) := by
      have haccepts : CountedRule.accepted accepts ⟨rule, counter⟩ packet = true :=
        hservice.1.accepted_eq.trans haccepted
      rw [CountedRule.evaluate, if_pos haccepts, hperiod]
    rw [withCounters, List.zipWith_cons_cons, ← withCounters, evaluateRules, hcounts, ih hservice.2,
      pick]
    simp only [decide_eq_true_eq]
    split_ifs <;> rfl

/-- The statistic matches of several rules have the periods of the turns. -/
theorem forall₂_statistic (hseveral : 1 < backends.length) (connections : ℕ) :
    List.Forall₂ (fun rule period ↦ rule.statistic = some (period.1, 0))
      (dnatRules vip port protocol backends) (counters backends.length connections) := by
  rw [List.forall₂_iff_get]
  refine ⟨by simp [dnatRules, counters, countersFrom], fun index hrule hperiod ↦ ?_⟩
  simp [dnatRules, counters, countersFrom, hseveral]

/-- The rules of a service after some connections to it. A single rule has no statistic match. -/
def served (vip : Ipv4Addr) (port : UInt16) (protocol : String)
    (backends : List (Ipv4Addr × UInt16)) (connections : ℕ) : List CountedRule :=
  if 1 < backends.length then
    withCounters (dnatRules vip port protocol backends) (counters backends.length connections)
  else (dnatRules vip port protocol backends).map .fresh

/-- Before the first connection the rules are as they are appended. -/
theorem served_zero : served vip port protocol backends 0 =
    (dnatRules vip port protocol backends).map .fresh := by
  unfold served
  split_ifs
  · refine List.ext_getElem (by simp [withCounters, dnatRules, counters_zero]) fun index _ _ ↦ ?_
    simp [withCounters, counters_zero, CountedRule.fresh]
  · rfl

/-- The rules keep their matches. -/
theorem forService_of_served {connections : ℕ} {counted : CountedRule}
    (hcounted : counted ∈ served vip port protocol backends connections) :
    ForService vip port protocol counted.rule := by
  unfold served at hcounted
  split_ifs at hcounted
  · obtain ⟨index, hindex, rfl⟩ := List.mem_iff_getElem.mp hcounted
    simp only [withCounters, List.getElem_zipWith]
    exact forService_of_mem (List.getElem_mem _)
  · obtain ⟨rule, hrule, rfl⟩ := List.mem_map.mp hcounted
    exact forService_of_mem hrule

/-- The connection behind some others goes to the backend whose turn it is. -/
theorem evaluateRules_served (hbackends : backends ≠ []) (connections : ℕ)
    (haccepted : accepts vip (some protocol) (some port) packet = true) :
    evaluateRules accepts packet (served vip port protocol backends connections) =
      (some (connections % backends.length),
        served vip port protocol backends (connections + 1)) := by
  have hpositive := List.length_pos_iff.mpr hbackends
  unfold served
  split_ifs with hseveral
  · rw [evaluateRules_of_accepted (forall₂_statistic hseveral connections)
      (fun rule hrule ↦ forService_of_mem hrule) haccepted, pick_counters hpositive]
  -- A single rule has no statistic match, and matches every connection.
  · obtain ⟨backend, rfl⟩ := List.length_eq_one_iff.mp
      (Nat.le_antisymm (not_lt.mp hseveral) hpositive)
    have hmatches : CountedRule.evaluate accepts packet
        (.fresh ⟨vip, some protocol, some port, none, some backend⟩) =
          (true, .fresh ⟨vip, some protocol, some port, none, some backend⟩) := if_pos haccepted
    change evaluateRules accepts packet
      [.fresh ⟨vip, some protocol, some port, none, some backend⟩] = _
    rw [evaluateRules, hmatches, List.length_singleton, Nat.mod_one]
    rfl

/-! ### Traffic -/

/-- Of some packets, those to the service are counted. -/
theorem rulesAfter_served (hbackends : backends ≠ []) (connections : ℕ) (packets : List Packet) :
    rulesAfter accepts (served vip port protocol backends connections) packets =
      served vip port protocol backends
        (connections + packets.countP (accepts vip (some protocol) (some port))) := by
  induction packets generalizing connections with
  | nil => rfl
  | cons packet rest ih =>
    rw [rulesAfter, List.foldl_cons, ← rulesAfter]
    cases haccepted : accepts vip (some protocol) (some port) packet with
    | true =>
      rw [evaluateRules_served hbackends connections haccepted, ih,
        List.countP_cons_of_pos haccepted, Nat.add_assoc, Nat.add_comm 1]
    | false =>
      rw [evaluateRules_of_rejected (fun _ ↦ forService_of_served) haccepted, ih,
        List.countP_cons_of_neg (by simp [haccepted])]

/-- Of some packets, those to the service take turns. -/
theorem positions_served (hbackends : backends ≠ []) (connections : ℕ) (packets : List Packet) :
    positions accepts (served vip port protocol backends connections) packets =
      (List.range (packets.countP (accepts vip (some protocol) (some port)))).map
        fun later ↦ (connections + later) % backends.length := by
  induction packets generalizing connections with
  | nil => rfl
  | cons packet rest ih =>
    rw [positions]
    cases haccepted : accepts vip (some protocol) (some port) packet with
    | true =>
      rw [evaluateRules_served hbackends connections haccepted, ih,
        List.countP_cons_of_pos haccepted, List.range_succ_eq_map, List.map_cons, List.map_map]
      refine congrArg (List.cons _) (List.map_congr_left fun later _ ↦ ?_)
      change (connections + 1 + later) % _ = (connections + (later + 1)) % _
      rw [Nat.add_assoc, Nat.add_comm 1]
    | false =>
      rw [evaluateRules_of_rejected (fun _ ↦ forService_of_served) haccepted, ih,
        List.countP_cons_of_neg (by simp [haccepted])]
      rfl

/-- The rule at a position sends its connections to the backend at the position. -/
theorem toDestination_dnatRules {position : ℕ} (hposition : position < backends.length) :
    ((dnatRules vip port protocol backends)[position]?).bind Rule.toDestination =
      some backends[position] := by
  simp [dnatRules, hposition]

/-- The backends of a service take turns under the rules that the arguments of
`generate_dnat_rule_args` append. After any traffic, a connection to the service is matched by one
rule, which sends it to the backend at its position; and of any further traffic with as many
connections to the service as there are backends, each position gets one. -/
theorem round_robin_fair (accepts : Matches Packet) (vip : Ipv4Addr) (port : UInt16)
    (protocol : String) (backends : List (Ipv4Addr × UInt16)) (hbackends : backends ≠ [])
    (chain : List Rule) (hchain : chain.map Rule.appendArguments =
      generateDnatRuleArgs vip port protocol backends)
    (before : List Packet) :
    let rules := rulesAfter accepts (chain.map .fresh) before
    (∀ packet, accepts vip (some protocol) (some port) packet = true →
      ∃ position backend, (evaluateRules accepts packet rules).1 = some position ∧
        backends[position]? = some backend ∧
        chain[position]?.bind Rule.toDestination = some backend) ∧
    ∀ packets, packets.countP (accepts vip (some protocol) (some port)) = backends.length →
      (positions accepts rules packets).Perm (List.range backends.length) := by
  obtain rfl := eq_dnatRules_of_arguments hchain
  intro rules
  obtain ⟨connections, hrules⟩ :
      ∃ connections, rules = served vip port protocol backends connections := by
    refine ⟨0 + before.countP (accepts vip (some protocol) (some port)), ?_⟩
    change rulesAfter accepts ((dnatRules vip port protocol backends).map .fresh) before = _
    rw [← served_zero]
    exact rulesAfter_served hbackends 0 before
  rw [hrules]
  constructor
  · intro packet haccepted
    have hturn := Nat.mod_lt connections (List.length_pos_iff.mpr hbackends)
    rw [evaluateRules_served hbackends connections haccepted]
    exact ⟨_, _, rfl, List.getElem?_eq_getElem hturn, toDestination_dnatRules hturn⟩
  · intro packets hcount
    rw [positions_served hbackends, hcount]
    exact turns_perm_range backends.length connections

/-- The matches of a rule with packets that are given by their destination, protocol and port. -/
def sameTarget : Matches (Ipv4Addr × String × UInt16) := fun destination protocol dport packet ↦
  destination = packet.1 ∧ protocol = some packet.2.1 ∧ dport = some packet.2.2

/-- The addresses and ports of three backends. -/
def threeBackends : List (Ipv4Addr × UInt16) :=
  [(⟨10, 200, 1, 2⟩, 8080), (⟨10, 200, 1, 3⟩, 8080), (⟨10, 200, 1, 4⟩, 8080)]

/-- After one connection, three more connections with a packet to another port in between go to the
second, the third and the first backend. -/
theorem three_backends_take_turns :
    let toService : Ipv4Addr × String × UInt16 := (⟨10, 201, 0, 1⟩, "tcp", 8080)
    let toOther : Ipv4Addr × String × UInt16 := (⟨10, 201, 0, 1⟩, "tcp", 9090)
    let rules := rulesAfter sameTarget
      ((dnatRules ⟨10, 201, 0, 1⟩ 8080 "tcp" threeBackends).map .fresh) [toService]
    positions sameTarget rules [toService, toOther, toService, toService] = [1, 2, 0] ∧
      (positions sameTarget rules [toService, toOther, toService, toService]).Perm
        (List.range 3) := by
  obtain ⟨-, hturns⟩ := round_robin_fair sameTarget ⟨10, 201, 0, 1⟩ 8080 "tcp" threeBackends
    (List.cons_ne_nil _ _) _ rfl [(⟨10, 201, 0, 1⟩, "tcp", 8080)]
  exact ⟨by decide, hturns _ (by decide)⟩

end Clawbernetes.ClawNode
