import Clawbernetes.ClawNode.NetPolicyVerdicts

/-!
# What a compiled rule keeps of its JSON

A JSON rule can write four constraints: a port, a protocol, and in `from` a network and a selector
of workloads. `compile_rule` of `netpolicy.rs` never fails. It drops a constraint that has the wrong
type, and cuts a port to sixteen bits. The rules that are written for the result have a protocol
only beside a port, and a selector only when there is no network.

So a packet that they accept does not always satisfy what the JSON says. `never_widens_iff` says
for which rules it does: when the constraints are well formed and none of them is lost in the
writing, or when nothing is written, because the selector is empty.
-/

set_option autoImplicit false
set_option relaxedAutoImplicit false

namespace Clawbernetes.ClawNode.NetPolicy

open Library.Addresses Library.FiniteTable

/-! ### The constraints of a rule -/

/-- The constraint `port`, as it is written. -/
def writtenPort (rule : Value) : Option Value := rule.get "port"

/-- The constraint `protocol`. -/
def writtenProtocol (rule : Value) : Option Value := rule.get "protocol"

/-- The constraint `from.cidr`. -/
def writtenCidr (rule : Value) : Option Value := (rule.get "from").bind (·.get "cidr")

/-- The constraint `from.selector`. -/
def writtenSelector (rule : Value) : Option Value := (rule.get "from").bind (·.get "selector")

/-- The port that a value names: an integer of sixteen bits. -/
def portOf (value : Value) : Option UInt16 :=
  value.asU64.bind fun port ↦ if port.toNat ≤ 65535 then some port.toUInt16 else none

/-- The packet satisfies every constraint that is written in a rule. A constraint that is not well
formed is not satisfied by any packet. -/
def Satisfies (iptables : Iptables) (workloads : List LabelledWorkload) (packet : Packet)
    (rule : Value) : Prop :=
  (∀ value ∈ writtenPort rule, ∃ port, portOf value = some port ∧ packet.dport = some port) ∧
  (∀ value ∈ writtenProtocol rule, ∃ protocol, value.asStr = some protocol ∧
    iptables.isProtocol protocol packet.protocol = true) ∧
  (∀ value ∈ writtenCidr rule, ∃ cidr, value.asStr = some cidr ∧
    iptables.inCidr cidr packet.source = true) ∧
  ∀ value ∈ writtenSelector rule, ∃ selector, value.toStringMap = some selector ∧
    packet.source ∈ findMatchingIps workloads selector

/-- The rules that are written for a JSON rule accept only packets that satisfy it. -/
def NeverWidens (rule : Value) : Prop :=
  ∀ (iptables : Iptables) (workloads : List LabelledWorkload) (packet : Packet)
    (policy : CompiledPolicy) (compiled : CompiledRule), compileRule rule = .ok compiled →
      admits iptables workloads packet policy compiled = true →
        Satisfies iptables workloads packet rule

/-- Every constraint that is written is well formed. -/
def WellFormed (rule : Value) : Prop :=
  (∀ value ∈ writtenPort rule, (portOf value).isSome = true) ∧
  (∀ value ∈ writtenProtocol rule, value.asStr.isSome = true) ∧
  (∀ value ∈ writtenCidr rule, value.asStr.isSome = true) ∧
  ∀ value ∈ writtenSelector rule, value.toStringMap.isSome = true

/-- No rule is ever written: the selector is an empty map, which finds no workload, and there is no
network that would come before it. -/
def NothingWritten (rule : Value) : Prop :=
  (∀ value ∈ writtenCidr rule, value.asStr = none) ∧
    ∃ value ∈ writtenSelector rule, ∃ selector, value.toStringMap = some selector ∧
      selector.entries = []

/-- A protocol is written beside a port only, and a network or a selector but not both. -/
def Kept (rule : Value) : Prop :=
  ((writtenProtocol rule).isSome = true → (writtenPort rule).isSome = true) ∧
    ¬((writtenCidr rule).isSome = true ∧ (writtenSelector rule).isSome = true)

variable {iptables : Iptables} {workloads : List LabelledWorkload} {packet : Packet}
  {policy : CompiledPolicy} {rule : Value} {compiled : CompiledRule}

/-! ### Rules that are kept -/

/-- The port of a well formed constraint is the compiled one. -/
theorem port_of_portOf {value : Value} {port : UInt16} (hvalue : value ∈ writtenPort rule)
    (hport : portOf value = some port) (hcompiled : compileRule rule = .ok compiled) :
    compiled.port = some port := by
  cases hcompiled
  obtain ⟨number, hnumber, hcut⟩ := Option.bind_eq_some_iff.mp hport
  split_ifs at hcut
  change ((writtenPort rule).bind Value.asU64).map UInt64.toUInt16 = some port
  rw [Option.mem_def.mp hvalue, Option.bind_some, hnumber, Option.map_some, hcut]

/-- A network that is a text is compiled, and so is nothing else. -/
theorem cidr_of_compileRule (hcompiled : compileRule rule = .ok compiled) :
    compiled.cidr = (writtenCidr rule).bind Value.asStr := by
  cases hcompiled
  rfl

/-- A selector that is a map of texts is compiled, and so is nothing else. -/
theorem fromSelector_of_compileRule (hcompiled : compileRule rule = .ok compiled) :
    compiled.fromSelector = (writtenSelector rule).bind Value.toStringMap := by
  cases hcompiled
  rfl

/-- A protocol that is a text is compiled, and so is nothing else. -/
theorem protocol_of_compileRule (hcompiled : compileRule rule = .ok compiled) :
    compiled.protocol = (writtenProtocol rule).bind Value.asStr := by
  cases hcompiled
  rfl

/-- Nothing is written for a rule whose selector is compiled to an empty map, without a network. -/
theorem nothingWritten_iff (hcompiled : compileRule rule = .ok compiled) :
    NothingWritten rule ↔ compiled.cidr = none ∧
      ∃ selector, compiled.fromSelector = some selector ∧ selector.entries = [] := by
  rw [cidr_of_compileRule hcompiled, fromSelector_of_compileRule hcompiled,
    Option.bind_eq_none_iff]
  simp only [NothingWritten, Option.mem_def, Option.bind_eq_some_iff]
  refine and_congr_right fun _ ↦ ⟨?_, ?_⟩
  · rintro ⟨value, hvalue, selector, hselector, hempty⟩
    exact ⟨selector, ⟨value, hvalue, hselector⟩, hempty⟩
  · rintro ⟨selector, ⟨value, hvalue, hselector⟩, hempty⟩
    exact ⟨value, hvalue, selector, hselector, hempty⟩

/-- Where nothing is written, no packet is let pass. -/
theorem NothingWritten.admits_eq_false (hnothing : NothingWritten rule)
    (hcompiled : compileRule rule = .ok compiled) :
    admits iptables workloads packet policy compiled = false := by
  obtain ⟨hcidr, selector, hselector, hempty⟩ := (nothingWritten_iff hcompiled).mp hnothing
  have hnone : acceptRules policy workloads packet.destination compiled = [] := by
    simp [acceptRules, sourceFilters, hcidr, hselector, findMatchingIps, hempty]
  rw [admits, hnone]
  rfl

/-- A packet that the rules of a kept, well formed rule let pass satisfies it. -/
theorem satisfies_of_admits (hformed : WellFormed rule) (hkept : Kept rule)
    (hcompiled : compileRule rule = .ok compiled)
    (hadmits : admits iptables workloads packet policy compiled = true) :
    Satisfies iptables workloads packet rule := by
  obtain ⟨written, hwritten, hreached⟩ := List.any_eq_true.mp hadmits
  obtain ⟨hsource, hport⟩ := met_of_reached hwritten hreached
  obtain ⟨hports, hprotocols, hcidrs, hselectors⟩ := hformed
  refine ⟨fun value hvalue ↦ ?_, fun value hvalue ↦ ?_, fun value hvalue ↦ ?_,
    fun value hvalue ↦ ?_⟩
  · obtain ⟨port, hnamed⟩ := Option.isSome_iff_exists.mp (hports value hvalue)
    have hmet := hport port (port_of_portOf hvalue hnamed hcompiled)
    exact ⟨port, hnamed, of_decide_eq_true (Bool.and_eq_true_iff.mp hmet).2⟩
  -- The protocol is asked for beside the port.
  · obtain ⟨protocol, hnamed⟩ := Option.isSome_iff_exists.mp (hprotocols value hvalue)
    obtain ⟨portValue, hportValue⟩ :=
      Option.isSome_iff_exists.mp (hkept.1 (Option.isSome_of_mem hvalue))
    obtain ⟨port, hportNamed⟩ := Option.isSome_iff_exists.mp (hports portValue hportValue)
    have hmet := hport port (port_of_portOf hportValue hportNamed hcompiled)
    rw [protocol_of_compileRule hcompiled, Option.mem_def.mp hvalue, Option.bind_some, hnamed,
      Option.getD_some] at hmet
    exact ⟨protocol, hnamed, (Bool.and_eq_true_iff.mp hmet).1⟩
  · obtain ⟨cidr, hnamed⟩ := Option.isSome_iff_exists.mp (hcidrs value hvalue)
    rw [SourceMet, cidr_of_compileRule hcompiled, Option.mem_def.mp hvalue, Option.bind_some,
      hnamed] at hsource
    exact ⟨cidr, hnamed, hsource⟩
  · obtain ⟨selector, hnamed⟩ := Option.isSome_iff_exists.mp (hselectors value hvalue)
    have hwithout : writtenCidr rule = none := Option.not_isSome_iff_eq_none.mp fun hcidr ↦
      hkept.2 ⟨hcidr, Option.isSome_of_mem hvalue⟩
    rw [SourceMet, cidr_of_compileRule hcompiled, hwithout, Option.bind_none,
      fromSelector_of_compileRule hcompiled, Option.mem_def.mp hvalue, Option.bind_some,
      hnamed] at hsource
    exact ⟨selector, hnamed, hsource⟩

/-! ### Rules that are widened -/

/-- An `iptables` that appends every rule, takes every address to be in every network, and gives
the same answer for every protocol. -/
def lenientIptables (answer : Bool) : Iptables :=
  { plainIptables with isProtocol := fun _ _ ↦ answer }

/-- A policy without rules. -/
def somePolicy : CompiledPolicy := ⟨"web", ∅, [], [], true, true, rfl, rfl⟩

/-- Its rules let pass what has the source and the port of an ingress rule. -/
theorem admits_lenient_iff {answer : Bool} :
    admits (lenientIptables answer) workloads packet policy compiled = true ↔
      SourceMet (lenientIptables answer) workloads packet compiled ∧
        PortMet (lenientIptables answer) packet compiled :=
  admits_iff_of_appends fun _ ↦ rfl

/-- A workload with the labels of a selector is found. -/
theorem findMatchingIps_self {selector : Table String String} (hselector : selector.entries ≠ [])
    (ip : Ipv4Addr) : findMatchingIps [(ip, selector)] selector = [ip] := by
  have hall : (selector.entries.all fun entry ↦
      decide (selector.lookup entry.1 = some entry.2)) = true :=
    List.all_eq_true.mpr fun entry hentry ↦ decide_eq_true (AList.mem_lookup_iff.mpr hentry)
  rw [findMatchingIps, if_neg hselector]
  simp only [List.filter_cons, hall, if_true, List.filter_nil, List.map_cons, List.map_nil]

/-- A packet to the port of a rule meets it, when every protocol is taken for that of the packet. -/
theorem portMet_lenient (hport : ∀ port, compiled.port = some port → packet.dport = some port) :
    PortMet (lenientIptables true) packet compiled :=
  fun port hnamed ↦ decide_eq_true (hport port hnamed)

/-- A packet from an address to the port of a rule. -/
def packetTo (compiled : CompiledRule) : Packet where
  source := ⟨10, 200, 1, 2⟩
  destination := ⟨10, 200, 1, 3⟩
  protocol := 6
  dport := compiled.port

/-- Unless nothing is written, there are workloads with which a packet has the source of a rule. -/
theorem exists_sourceMet (hwritten : ¬NothingWritten rule)
    (hcompiled : compileRule rule = .ok compiled) (answer : Bool) :
    ∃ workloads, SourceMet (lenientIptables answer) workloads (packetTo compiled) compiled := by
  rw [nothingWritten_iff hcompiled] at hwritten
  unfold SourceMet
  cases hcidr : compiled.cidr with
  | some cidr => exact ⟨[], rfl⟩
  | none =>
    cases hselector : compiled.fromSelector with
    | none => exact ⟨[], trivial⟩
    | some selector =>
      have hnonempty : selector.entries ≠ [] := fun hempty ↦
        hwritten ⟨hcidr, selector, hselector, hempty⟩
      refine ⟨[((packetTo compiled).source, selector)], ?_⟩
      dsimp only
      rw [findMatchingIps_self hnonempty]
      exact List.mem_singleton.mpr rfl

/-- A rule that is never widened, and for which something is written, is well formed. -/
theorem wellFormed_of_neverWidens (hnever : NeverWidens rule) (hwritten : ¬NothingWritten rule) :
    WellFormed rule := by
  obtain ⟨workloads, hsource⟩ := exists_sourceMet hwritten rfl true
  obtain ⟨hport, hprotocol, hcidr, hselector⟩ := hnever (lenientIptables true) workloads _
    somePolicy _ rfl (admits_lenient_iff.mpr ⟨hsource, portMet_lenient fun _ hnamed ↦ hnamed⟩)
  refine ⟨fun value hvalue ↦ ?_, fun value hvalue ↦ ?_, fun value hvalue ↦ ?_,
    fun value hvalue ↦ ?_⟩
  · obtain ⟨port, hnamed, -⟩ := hport value hvalue
    exact Option.isSome_of_mem hnamed
  · obtain ⟨protocol, hnamed, -⟩ := hprotocol value hvalue
    exact Option.isSome_of_mem hnamed
  · obtain ⟨cidr, hnamed, -⟩ := hcidr value hvalue
    exact Option.isSome_of_mem hnamed
  · obtain ⟨selector, hnamed, -⟩ := hselector value hvalue
    exact Option.isSome_of_mem hnamed

/-- A rule that is never widened, and for which something is written, is kept. -/
theorem kept_of_neverWidens (hnever : NeverWidens rule) (hwritten : ¬NothingWritten rule) :
    Kept rule := by
  refine ⟨fun hprotocol ↦ ?_, fun ⟨hcidr, hselector⟩ ↦ ?_⟩
  -- Without a port nothing is asked of the protocol, which no packet has here.
  · by_contra hport
    obtain ⟨value, hvalue⟩ := Option.isSome_iff_exists.mp hprotocol
    obtain ⟨workloads, hsource⟩ := exists_sourceMet hwritten rfl false
    have hportless : ((writtenPort rule).bind Value.asU64).map UInt64.toUInt16 = none := by
      rw [Option.not_isSome_iff_eq_none.mp hport]
      rfl
    obtain ⟨-, hmet, -⟩ := hnever (lenientIptables false) workloads _ somePolicy _ rfl
      (admits_lenient_iff.mpr ⟨hsource, fun port hnamed ↦ by
        cases hportless.symm.trans hnamed⟩)
    obtain ⟨protocol, -, hanswer⟩ := hmet value hvalue
    cases hanswer
  -- Beside a network nothing is asked of the selector, which finds no workload here.
  · obtain ⟨value, hvalue⟩ := Option.isSome_iff_exists.mp hcidr
    obtain ⟨other, hother⟩ := Option.isSome_iff_exists.mp hselector
    obtain ⟨cidr, hnamed⟩ :=
      Option.isSome_iff_exists.mp ((wellFormed_of_neverWidens hnever hwritten).2.2.1 value hvalue)
    obtain ⟨compiled, hcompiled⟩ : ∃ compiled, compileRule rule = .ok compiled := ⟨_, rfl⟩
    have hsource : SourceMet (lenientIptables true) [] (packetTo compiled) compiled := by
      rw [SourceMet, cidr_of_compileRule hcompiled, hvalue, Option.bind_some, hnamed]
      rfl
    obtain ⟨-, -, -, hmet⟩ := hnever (lenientIptables true) [] _ somePolicy compiled hcompiled
      (admits_lenient_iff.mpr ⟨hsource, portMet_lenient fun _ hport ↦ hport⟩)
    obtain ⟨selector, -, hfound⟩ := hmet other hother
    have hnone : findMatchingIps [] selector = [] := by
      unfold findMatchingIps
      split_ifs <;> rfl
    rw [hnone] at hfound
    cases hfound

/-- The rules that are written for a JSON rule never let a packet pass that does not satisfy it,
exactly when nothing is written, or when its constraints are well formed and all of them are
kept. -/
theorem never_widens_iff (rule : Value) :
    NeverWidens rule ↔ NothingWritten rule ∨ WellFormed rule ∧ Kept rule := by
  constructor
  · intro hnever
    by_cases hwritten : NothingWritten rule
    · exact .inl hwritten
    · exact .inr ⟨wellFormed_of_neverWidens hnever hwritten, kept_of_neverWidens hnever hwritten⟩
  · rintro (hnothing | ⟨hformed, hkept⟩) iptables workloads packet policy compiled hcompiled hadmits
    · rw [hnothing.admits_eq_false hcompiled] at hadmits
      cases hadmits
    · exact satisfies_of_admits hformed hkept hcompiled hadmits

/-- A rule for a port that is too large. -/
def largePort : Value := .object [("port", .posInt 65616)]

/-- Its rules accept a packet to the port 80. -/
theorem large_port_widened : ¬NeverWidens largePort := by
  intro hnever
  have hadmits : admits plainIptables [] ⟨⟨10, 200, 1, 2⟩, ⟨10, 200, 1, 3⟩, 6, some 80⟩ somePolicy
      ⟨none, some 80, none, none⟩ = true := by rfl
  obtain ⟨hport, -⟩ := hnever _ _ _ _ _ rfl hadmits
  obtain ⟨port, hnamed, -⟩ := hport (.posInt 65616) rfl
  cases hnamed

end Clawbernetes.ClawNode.NetPolicy
