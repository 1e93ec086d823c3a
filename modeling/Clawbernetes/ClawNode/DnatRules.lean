import Clawbernetes.Library.Addresses
import Mathlib.Data.List.Basic

/-!
# The rules of services in the nat chain

The part of `service_discovery.rs` that writes the chain `CLAW-SERVICES` of `iptables`. The chain is
a list of rules. `iptables -A` appends a rule and `iptables -D` deletes the first rule whose whole
specification is the given one, and fails when there is none. A rule is read back from the arguments
that specify it (`Rule.arguments_injective`), so that the arguments of `generate_dnat_rule_args`
stand for the rules of the service and no others.

`remove_dnat_rules` deletes with a specification that names the destination only, until `iptables`
fails. Every rule that `apply_dnat_rules` appends has a target, so none of them is ever deleted
(`removeDnatRules_of_targets`).
-/

set_option autoImplicit false
set_option relaxedAutoImplicit false

namespace Clawbernetes.ClawNode

open Library.Addresses Library.Bytes

/-- The specification of a rule of the chain, with the options that the source uses. -/
structure Rule where
  destination : Ipv4Addr
  protocol : Option String
  dport : Option UInt16
  /-- The options `--every` and `--packet` of the statistic match in mode `nth`. -/
  statistic : Option (ℕ × ℕ)
  toDestination : Option (Ipv4Addr × UInt16)
  deriving DecidableEq

/-- The arguments of an option with a flag in front, when it is given. -/
def flagged {Value : Type} (flag : String) (arguments : Value → List String)
    (value : Option Value) : List String :=
  value.elim [] fun value ↦ flag :: arguments value

/-- The arguments of the statistic match behind its flag. -/
def statisticArguments (counter : ℕ × ℕ) : List String :=
  ["statistic", "--mode", "nth", "--every", toString counter.1, "--packet", toString counter.2]

/-- The arguments of the target behind its flag. -/
def targetArguments (target : Ipv4Addr × UInt16) : List String :=
  ["DNAT", "--to-destination", target.1.display ++ ":" ++ toString target.2.toNat]

/-- The arguments of `iptables` that specify a rule. -/
def Rule.arguments (rule : Rule) : List String :=
  ["-d", rule.destination.display ++ "/32"] ++
    (flagged "-p" (fun protocol ↦ [protocol]) rule.protocol ++
      (flagged "--dport" (fun port ↦ [toString port.toNat]) rule.dport ++
        (flagged "-m" statisticArguments rule.statistic ++
          flagged "-j" targetArguments rule.toDestination)))

/-- `iptables -t nat -A CLAW-SERVICES`. -/
def appendRule (chain : List Rule) (rule : Rule) : List Rule := chain ++ [rule]

/-- `iptables -t nat -D CLAW-SERVICES`, which fails when no rule has the specification. -/
def deleteRule (chain : List Rule) (rule : Rule) : Option (List Rule) :=
  if rule ∈ chain then some (chain.erase rule) else none

/-- The rules of a service, one for each backend. With several backends the rule at an index matches
every so many of the packets that reach it. -/
def dnatRules (vip : Ipv4Addr) (port : UInt16) (protocol : String)
    (backends : List (Ipv4Addr × UInt16)) : List Rule :=
  backends.mapIdx fun index backend ↦ ⟨vip, some protocol, some port,
    if 1 < backends.length then some (backends.length - index, 0) else none, some backend⟩

/-- The arguments of `iptables` that append a rule. -/
def Rule.appendArguments (rule : Rule) : List String :=
  ["-t", "nat", "-A", "CLAW-SERVICES"] ++ rule.arguments

/-- `generate_dnat_rule_args`: the arguments with which `apply_dnat_rules` runs `iptables`. -/
def generateDnatRuleArgs (vip : Ipv4Addr) (port : UInt16) (protocol : String)
    (backends : List (Ipv4Addr × UInt16)) : List (List String) :=
  (dnatRules vip port protocol backends).map Rule.appendArguments

/-- The loop of `remove_dnat_rules`. Every round but the last deletes a rule. -/
def deleteAll (rule : Rule) : ℕ → List Rule → List Rule
  | 0, chain => chain
  | rounds + 1, chain =>
    match deleteRule chain rule with
    | none => chain
    | some rest => deleteAll rule rounds rest

/-- `remove_dnat_rules`: the specification has the destination only. -/
def removeDnatRules (vip : Ipv4Addr) (chain : List Rule) : List Rule :=
  deleteAll ⟨vip, none, none, none, none⟩ (chain.length + 1) chain

/-- `apply_dnat_rules`. -/
def applyDnatRules (vip : Ipv4Addr) (port : UInt16) (protocol : String)
    (backends : List (Ipv4Addr × UInt16)) (chain : List Rule) : List Rule :=
  (dnatRules vip port protocol backends).foldl appendRule (removeDnatRules vip chain)

/-! ### Rules and their arguments -/

/-- What does not begin with a flag does not do so behind an option with another flag. -/
theorem head?_flagged_append_ne {Value : Type} {flag other : String}
    {arguments : Value → List String} {rest : List String} (hflags : flag ≠ other)
    (hrest : rest.head? ≠ some other) (value : Option Value) :
    (flagged flag arguments value ++ rest).head? ≠ some other := by
  cases value with
  | none => exact hrest
  | some value => exact fun hhead ↦ hflags (Option.some.inj hhead)

/-- An option is read back from the front of arguments that do not go on with its flag. -/
theorem flagged_append_inj {Value : Type} {flag : String} {arguments : Value → List String}
    (hinjective : Function.Injective arguments) {first second : Option Value}
    {rest other : List String} (hrest : rest.head? ≠ some flag) (hother : other.head? ≠ some flag)
    (hsame : flagged flag arguments first ++ rest = flagged flag arguments second ++ other)
    (hlength : ∀ value found, (arguments value).length = (arguments found).length) :
    first = second ∧ rest = other := by
  cases first with
  | none =>
    cases second with
    | none => exact ⟨rfl, hsame⟩
    | some value => exact absurd (congrArg List.head? hsame) hrest
  | some value =>
    cases second with
    | none => exact absurd (congrArg List.head? hsame.symm) hother
    | some found =>
      obtain ⟨hvalue, htail⟩ :=
        List.append_inj (List.tail_eq_of_cons_eq hsame) (hlength value found)
      exact ⟨congrArg some (hinjective hvalue), htail⟩

/-- A counter is read back from its arguments. -/
theorem statisticArguments_injective : Function.Injective statisticArguments := by
  intro counter other hsame
  simp only [statisticArguments, List.cons.injEq, true_and, and_true] at hsame
  exact Prod.ext (decimal_inj hsame.1) (decimal_inj hsame.2)

/-- A target is read back from its arguments. -/
theorem targetArguments_injective : Function.Injective targetArguments := by
  have hcolon : ∀ address : Ipv4Addr, ':' ∉ address.display.toList :=
    Ipv4Addr.not_mem_display rfl (by decide)
  intro target other hsame
  simp only [targetArguments, List.cons.injEq, true_and, and_true] at hsame
  obtain ⟨hip, hport⟩ := join_inj (hcolon target.1) (hcolon other.1) hsame
  exact Prod.ext (Ipv4Addr.display_injective hip) (UInt16.toNat_inj.mp (decimal_inj hport))

/-- The last option is read back. -/
theorem flagged_injective {Value : Type} {flag : String} {arguments : Value → List String}
    (hinjective : Function.Injective arguments) : Function.Injective (flagged flag arguments) := by
  intro first second hsame
  cases first <;> cases second
  · rfl
  · cases hsame
  · cases hsame
  · exact congrArg some (hinjective (List.tail_eq_of_cons_eq hsame))

/-- The options of a rule are read back one after the other, each from the front of the arguments
that are left. -/
theorem Rule.arguments_injective : Function.Injective Rule.arguments := by
  have htext : Function.Injective fun text : String ↦ [text] :=
    fun _ _ hsame ↦ List.head_eq_of_cons_eq hsame
  have hport : Function.Injective fun port : UInt16 ↦ [toString port.toNat] :=
    fun _ _ hsame ↦ UInt16.toNat_inj.mp (decimal_inj (htext hsame))
  -- no option is followed by its own flag
  have hbehindCounter : ∀ (rule : Rule) (flag : String), "-j" ≠ flag →
      (flagged "-j" targetArguments rule.toDestination).head? ≠ some flag := by
    rintro ⟨-, -, -, -, _ | target⟩ flag hflag
    · exact nofun
    · exact fun hhead ↦ hflag (Option.some.inj hhead)
  have hbehindPort : ∀ (rule : Rule) (flag : String), "-m" ≠ flag → "-j" ≠ flag →
      (flagged "-m" statisticArguments rule.statistic ++
        flagged "-j" targetArguments rule.toDestination).head? ≠ some flag :=
    fun rule flag hcounter htarget ↦ head?_flagged_append_ne hcounter
      (hbehindCounter rule flag htarget) rule.statistic
  have hbehindProtocol : ∀ rule : Rule,
      (flagged "--dport" (fun port ↦ [toString port.toNat]) rule.dport ++
        (flagged "-m" statisticArguments rule.statistic ++
          flagged "-j" targetArguments rule.toDestination)).head? ≠ some "-p" :=
    fun rule ↦ head?_flagged_append_ne (by decide)
      (hbehindPort rule "-p" (by decide) (by decide)) rule.dport
  intro rule other hsame
  simp only [Rule.arguments, List.cons_append, List.nil_append, List.cons.injEq, true_and] at hsame
  obtain ⟨hnetwork, hsame⟩ := hsame
  have hdestination : rule.destination = other.destination :=
    Ipv4Addr.display_injective ((String.append_left_inj _).mp hnetwork)
  obtain ⟨hprotocol, hsame⟩ := flagged_append_inj htext (hbehindProtocol rule)
    (hbehindProtocol other) hsame fun _ _ ↦ rfl
  obtain ⟨hdport, hsame⟩ := flagged_append_inj hport
    (hbehindPort rule "--dport" (by decide) (by decide))
    (hbehindPort other "--dport" (by decide) (by decide)) hsame fun _ _ ↦ rfl
  obtain ⟨hstatistic, hsame⟩ := flagged_append_inj statisticArguments_injective
    (hbehindCounter rule "-m" (by decide)) (hbehindCounter other "-m" (by decide)) hsame
    fun _ _ ↦ rfl
  have htarget := flagged_injective targetArguments_injective hsame
  cases rule
  cases other
  simp_all only

/-- The rules that are appended with the arguments of `generate_dnat_rule_args` are the rules of the
service. -/
theorem eq_dnatRules_of_arguments {vip : Ipv4Addr} {port : UInt16} {protocol : String}
    {backends : List (Ipv4Addr × UInt16)} {rules : List Rule}
    (harguments : rules.map Rule.appendArguments =
      generateDnatRuleArgs vip port protocol backends) :
    rules = dnatRules vip port protocol backends := by
  refine List.map_injective_iff.mpr (fun rule other hsame ↦ ?_) harguments
  exact Rule.arguments_injective (List.append_cancel_left hsame)

/-- With a round for each rule and one more the loop ends with all rules of the specification
deleted. -/
theorem deleteAll_eq_filter (rule : Rule) :
    ∀ {rounds : ℕ} {chain : List Rule}, chain.length < rounds →
      deleteAll rule rounds chain = chain.filter (· ≠ rule) := by
  intro rounds
  induction rounds with
  | zero => intro chain hrounds; omega
  | succ rounds ih =>
    intro chain hrounds
    rw [deleteAll, deleteRule]
    split_ifs with hmem
    · have hshorter : (chain.erase rule).length < rounds := by
        have hpositive := List.length_pos_of_mem hmem
        rw [List.length_erase_of_mem hmem]
        omega
      change deleteAll rule rounds (chain.erase rule) = _
      obtain ⟨before, after, -, hchain, herase⟩ := List.exists_erase_eq hmem
      rw [ih hshorter, herase, hchain, List.filter_append, List.filter_append,
        List.filter_cons_of_neg (by simp)]
    · change chain = _
      rw [List.filter_eq_self.mpr fun other hother ↦ ?_]
      have hne : other ≠ rule := fun hsame ↦ hmem (hsame ▸ hother)
      simpa using hne

/-- In a chain of rules with a target nothing is removed. -/
theorem removeDnatRules_of_targets {chain : List Rule}
    (htargets : ∀ rule ∈ chain, rule.toDestination.isSome) (vip : Ipv4Addr) :
    removeDnatRules vip chain = chain := by
  unfold removeDnatRules
  rw [deleteAll_eq_filter _ (Nat.lt_succ_self _), List.filter_eq_self]
  intro rule hrule
  have hne : rule ≠ ⟨vip, none, none, none, none⟩ := by
    rintro rfl
    exact absurd (htargets _ hrule) (by simp)
  simpa using hne

/-- The rules are appended behind what the removal leaves. -/
theorem applyDnatRules_eq (vip : Ipv4Addr) (port : UInt16) (protocol : String)
    (backends : List (Ipv4Addr × UInt16)) (chain : List Rule) :
    applyDnatRules vip port protocol backends chain =
      removeDnatRules vip chain ++ dnatRules vip port protocol backends := by
  unfold applyDnatRules
  generalize dnatRules vip port protocol backends = rules
  generalize removeDnatRules vip chain = start
  induction rules generalizing start with
  | nil => simp
  | cons rule rest ih => rw [List.foldl_cons, ih, appendRule, List.append_assoc]; rfl

/-- The rules of a service are for its address and have a target. -/
theorem dnatRules_spec {vip : Ipv4Addr} {port : UInt16} {protocol : String}
    {backends : List (Ipv4Addr × UInt16)} {rule : Rule}
    (hrule : rule ∈ dnatRules vip port protocol backends) :
    rule.destination = vip ∧ rule.toDestination.isSome := by
  unfold dnatRules at hrule
  obtain ⟨index, hindex, rfl⟩ := List.mem_mapIdx.mp hrule
  exact ⟨rfl, rfl⟩

/-- There are rules exactly when there is a backend. -/
theorem dnatRules_eq_nil_iff {vip : Ipv4Addr} {port : UInt16} {protocol : String}
    {backends : List (Ipv4Addr × UInt16)} :
    dnatRules vip port protocol backends = [] ↔ backends = [] :=
  List.mapIdx_eq_nil_iff

end Clawbernetes.ClawNode
