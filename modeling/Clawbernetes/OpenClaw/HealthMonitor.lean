import Clawbernetes.Library.Traces
import Clawbernetes.OpenClaw.Placement
import Mathlib.Data.List.Chain
import Mathlib.Data.List.DropRight

/-!
# The fleet health monitor

`health-monitor.ts`: from time to time the monitor asks the gateway for the nodes and the nodes for
their health. It remembers every node it has seen and writes down each change of its health. Between
the two questions and the answers other checks may run, so a check is two steps, and a run is any
order of such steps. A check that fails stays unanswered.

A step is made of marks on a journal: a node is lost, a node is checked, the journal is cut. In
every run, what has been written down of a node begins with its discovery and goes on from the
health that it has led to (`transitions_chain`), and a node counts as healthy exactly when it has
answered so since it was last missed or answered otherwise (`healthy_iff_since`).
-/

set_option autoImplicit false
set_option relaxedAutoImplicit false

namespace Clawbernetes.OpenClaw

open Library.Runs

/-! ### The journal -/

/-- What a transition leads from and to. -/
inductive NodeLabel where
  | unknown
  | healthy
  | unhealthy
  | disconnected
  deriving DecidableEq

/-- An element of `recentTransitions`. -/
structure Transition where
  nodeId : String
  source : NodeLabel
  target : NodeLabel
  at_ : ℕ
  deriving DecidableEq

/-- `NodeHealthState`. -/
structure NodeHealthState where
  nodeId : String
  healthy : Bool
  lastSeen : ℕ
  consecutiveFailures : ℕ
  deriving DecidableEq

/-- The entry of a node in a map, whose entries stand in the order in which they were added. -/
def entryOf (nodes : List NodeHealthState) (nodeId : String) : Option NodeHealthState :=
  nodes.find? (·.nodeId = nodeId)

/-- `Map.set`: an entry keeps its place. -/
def setEntry (nodes : List NodeHealthState) (state : NodeHealthState) : List NodeHealthState :=
  if (entryOf nodes state.nodeId).isSome then
    nodes.map fun other ↦ if other.nodeId = state.nodeId then state else other
  else nodes ++ [state]

/-- `knownNodes` and `cachedStatus.recentTransitions`. -/
structure Journal where
  knownNodes : List NodeHealthState
  recentTransitions : List Transition
  deriving DecidableEq

/-- `isHealthyResult`. -/
def isHealthyResult : Option (InvokeResult Health) → Bool
  | none => false
  | some result => result.ok && (result.payload.map Health.isHealthy).getD false

namespace Journal

/-- The transitions that are kept, and those that are kept at the end of a check. -/
def maxTransitions : ℕ := 50

/-- The transitions that the end of a check leaves. -/
def publishedTransitions : ℕ := 20

/-- `addTransition`. -/
def addTransition (journal : Journal) (transition : Transition) : Journal :=
  let pushed := journal.recentTransitions ++ [transition]
  { journal with
    recentTransitions := if maxTransitions < pushed.length then pushed.rtake maxTransitions
      else pushed }

/-- The body of the loop over the nodes that are no longer listed. -/
def lose (now : ℕ) (journal : Journal) (nodeId : String) : Journal :=
  match entryOf journal.knownNodes nodeId with
  | none => journal
  | some state =>
    if state.healthy then
      let noted := journal.addTransition ⟨nodeId, .healthy, .disconnected, now⟩
      { noted with knownNodes := setEntry noted.knownNodes { state with healthy := false } }
    else journal

/-- The body of the loop over the nodes whose health was asked for. -/
def check (now : ℕ) (journal : Journal) (nodeId : String) (isHealthy : Bool) : Journal :=
  let prev := entryOf journal.knownNodes nodeId
  let noted := match prev with
    | none => journal.addTransition
        ⟨nodeId, .unknown, if isHealthy then .healthy else .unhealthy, now⟩
    | some prev =>
      if prev.healthy && !isHealthy then
        journal.addTransition ⟨nodeId, .healthy, .unhealthy, now⟩
      else if !prev.healthy && isHealthy then
        journal.addTransition ⟨nodeId, .unhealthy, .healthy, now⟩
      else journal
  { noted with
    knownNodes := setEntry noted.knownNodes ⟨nodeId, isHealthy, now,
      if isHealthy then 0 else (prev.map NodeHealthState.consecutiveFailures).getD 0 + 1⟩ }

/-- `recentTransitions.slice(-20)`. -/
def cut (journal : Journal) : Journal :=
  { journal with recentTransitions := journal.recentTransitions.rtake publishedTransitions }

end Journal

/-! ### Checks of the fleet -/

/-- A check that waits for the health of the nodes. -/
structure Check where
  now : ℕ
  nodeIds : List String
  disconnected : List String

/-- `CachedFleetStatus` without the transitions. -/
structure FleetStatus where
  timestamp : ℕ
  nodes : ℕ
  healthy : ℕ
  unhealthy : ℕ
  disconnected : List String

/-- The monitor, and the checks that are on their way. -/
structure HealthMonitor where
  journal : Journal
  cachedStatus : FleetStatus
  waiting : List Check

/-- What happens to the monitor: the gateway has listed the nodes, or the nodes of a check have been
asked for their health. -/
inductive MonitorEvent where
  | listed (nodeIds : List String) (now : ℕ)
  | answered (index : ℕ) (healthResults : String → Option (InvokeResult Health))

namespace HealthMonitor

/-- The monitor knows nothing. -/
def start : HealthMonitor := ⟨⟨[], []⟩, ⟨0, 0, 0, 0, []⟩, []⟩

/-- The known nodes that are not listed. -/
def missing (monitor : HealthMonitor) (nodeIds : List String) : List String :=
  (monitor.journal.knownNodes.map NodeHealthState.nodeId).filter (· ∉ nodeIds)

/-- The loop over the nodes that were asked, with the two counts. -/
def checkNodes (now : ℕ) (healthResults : String → Option (InvokeResult Health))
    (counted : Journal × ℕ × ℕ) (nodeId : String) : Journal × ℕ × ℕ :=
  let isHealthy := isHealthyResult (healthResults nodeId)
  (counted.1.check now nodeId isHealthy,
    if isHealthy then (counted.2.1 + 1, counted.2.2) else (counted.2.1, counted.2.2 + 1))

/-- `checkFleetHealth`, up to the question to the nodes and from their answers on. -/
def step (monitor : HealthMonitor) : MonitorEvent → HealthMonitor
  | .listed nodeIds now =>
    let disconnected := monitor.missing nodeIds
    let journal := disconnected.foldl (Journal.lose now) monitor.journal
    if nodeIds = [] then
      { monitor with journal := journal.cut, cachedStatus := ⟨now, 0, 0, 0, disconnected⟩ }
    else
      { monitor with
        journal := journal
        waiting := monitor.waiting ++ [⟨now, nodeIds, disconnected⟩] }
  | .answered index healthResults =>
    match monitor.waiting[index]? with
    | none => monitor
    | some check =>
      let (journal, healthyCount, unhealthyCount) :=
        check.nodeIds.foldl (checkNodes check.now healthResults) (monitor.journal, 0, 0)
      { journal := journal.cut
        cachedStatus :=
          ⟨check.now, check.nodeIds.length, healthyCount, unhealthyCount, check.disconnected⟩
        waiting := monitor.waiting.eraseIdx index }

end HealthMonitor

/-! ### Marks -/

/-- What a step does to the journal: a node is lost, a node is checked, the journal is cut. -/
inductive Mark where
  | lost (nodeId : String) (now : ℕ)
  | checked (nodeId : String) (isHealthy : Bool) (now : ℕ)
  | cut

namespace Journal

/-- A mark is made. -/
def apply (journal : Journal) : Mark → Journal
  | .lost nodeId now => journal.lose now nodeId
  | .checked nodeId isHealthy now => journal.check now nodeId isHealthy
  | .cut => journal.cut

/-- The transition that a mark writes down. -/
def noted (journal : Journal) : Mark → List Transition
  | .lost nodeId now =>
    match entryOf journal.knownNodes nodeId with
    | some state => if state.healthy then [⟨nodeId, .healthy, .disconnected, now⟩] else []
    | none => []
  | .checked nodeId isHealthy now =>
    match entryOf journal.knownNodes nodeId with
    | none => [⟨nodeId, .unknown, if isHealthy then .healthy else .unhealthy, now⟩]
    | some prev =>
      if prev.healthy = isHealthy then []
      else if isHealthy then [⟨nodeId, .unhealthy, .healthy, now⟩]
      else [⟨nodeId, .healthy, .unhealthy, now⟩]
  | .cut => []

end Journal

/-- What a mark makes of the entry of a node. -/
def markEntry (nodeId : String) (entry : Option NodeHealthState) :
    Mark → Option NodeHealthState
  | .lost other _ =>
    if other = nodeId then entry.map fun state ↦ { state with healthy := false } else entry
  | .checked other isHealthy now =>
    if other = nodeId then some ⟨nodeId, isHealthy, now,
      if isHealthy then 0 else (entry.map NodeHealthState.consecutiveFailures).getD 0 + 1⟩
    else entry
  | .cut => entry

/-- The entry that has been set is found, and the others are as they were. -/
theorem entryOf_setEntry (nodes : List NodeHealthState) (state : NodeHealthState)
    (nodeId : String) :
    entryOf (setEntry nodes state) nodeId =
      if state.nodeId = nodeId then some state else entryOf nodes nodeId := by
  unfold setEntry
  split_ifs with hpresent hsame hsame
  · subst hsame
    unfold entryOf at hpresent ⊢
    induction nodes with
    | nil => simp at hpresent
    | cons first rest ih =>
      by_cases hfirst : first.nodeId = state.nodeId
      · simp [hfirst]
      · simp only [List.find?_cons, hfirst, decide_false] at hpresent
        simpa [hfirst] using ih hpresent
  · clear hpresent
    unfold entryOf
    induction nodes with
    | nil => rfl
    | cons first rest ih =>
      by_cases hfirst : first.nodeId = state.nodeId
      · simpa [hfirst, hsame] using ih
      · by_cases hnode : first.nodeId = nodeId
        · simp [hnode, Ne.symm hsame]
        · simpa [hfirst, hnode] using ih
  · subst hsame
    rw [Option.not_isSome_iff_eq_none] at hpresent
    unfold entryOf at hpresent ⊢
    simp [List.find?_append, hpresent]
  · unfold entryOf
    simp [List.find?_append, hsame]

/-- An entry is the one of its node. -/
theorem nodeId_of_entryOf {nodes : List NodeHealthState} {nodeId : String} {state : NodeHealthState}
    (hentry : entryOf nodes nodeId = some state) : state.nodeId = nodeId := by
  simpa using List.find?_some hentry

/-- A node has an entry exactly when it is known. -/
theorem mem_map_nodeId_iff (nodes : List NodeHealthState) (nodeId : String) :
    nodeId ∈ nodes.map NodeHealthState.nodeId ↔ (entryOf nodes nodeId).isSome = true := by
  simp [entryOf, List.find?_isSome]

namespace Journal

/-- A mark changes the entry of a node in its own way, whatever the other nodes are. -/
theorem entryOf_apply (journal : Journal) (mark : Mark) (nodeId : String) :
    entryOf (journal.apply mark).knownNodes nodeId =
      markEntry nodeId (entryOf journal.knownNodes nodeId) mark := by
  cases mark with
  | cut => rfl
  | lost other now =>
    simp only [apply, lose, markEntry]
    cases hentry : entryOf journal.knownNodes other with
    | none =>
      split_ifs with hsame
      · subst hsame
        rw [hentry]
        rfl
      · rfl
    | some state =>
      have hid := nodeId_of_entryOf hentry
      dsimp only
      split_ifs with hhealthy hsame hsame
      · subst hsame
        simp [addTransition, entryOf_setEntry, hid, hentry]
      · simp [addTransition, entryOf_setEntry, hid, hsame]
      · subst hsame
        obtain ⟨id, healthy, lastSeen, failures⟩ := state
        obtain rfl : healthy = false := by simpa using hhealthy
        rw [hentry]
        rfl
      · rfl
  | checked other isHealthy now =>
    have hnoted : (match entryOf journal.knownNodes other with
        | none => journal.addTransition
          ⟨other, .unknown, if isHealthy then .healthy else .unhealthy, now⟩
        | some prev =>
          if prev.healthy && !isHealthy then
            journal.addTransition ⟨other, .healthy, .unhealthy, now⟩
          else if !prev.healthy && isHealthy then
            journal.addTransition ⟨other, .unhealthy, .healthy, now⟩
          else journal).knownNodes = journal.knownNodes := by
      cases entryOf journal.knownNodes other with
      | none => rfl
      | some prev =>
        dsimp only
        split_ifs <;> rfl
    by_cases hsame : other = nodeId
    · subst hsame
      simp only [apply, check, markEntry, entryOf_setEntry, if_true]
    · simp only [apply, check, markEntry, entryOf_setEntry, hnoted, if_neg hsame]

/-- What a mark writes down is added to the transitions, which are then cut to their bound, and the
mark that ends a check cuts them further. -/
theorem recentTransitions_apply (journal : Journal) (mark : Mark) :
    ((journal.apply mark).recentTransitions = journal.recentTransitions ∧ journal.noted mark = []) ∨
      (∃ transition, journal.noted mark = [transition] ∧
        (journal.apply mark).recentTransitions =
          (journal.addTransition transition).recentTransitions) ∨
      (journal.noted mark = [] ∧ (journal.apply mark).recentTransitions =
        journal.recentTransitions.rtake publishedTransitions) := by
  cases mark with
  | cut => exact .inr (.inr ⟨rfl, rfl⟩)
  | lost nodeId now =>
    simp only [apply, lose, noted]
    cases entryOf journal.knownNodes nodeId with
    | none => exact .inl ⟨rfl, rfl⟩
    | some state =>
      dsimp only
      split_ifs with hhealthy
      · exact .inr (.inl ⟨_, rfl, rfl⟩)
      · exact .inl ⟨rfl, rfl⟩
  | checked nodeId isHealthy now =>
    simp only [apply, check, noted]
    cases entryOf journal.knownNodes nodeId with
    | none => exact .inr (.inl ⟨_, rfl, rfl⟩)
    | some prev =>
      dsimp only
      cases prev.healthy <;> cases isHealthy
      · exact .inl ⟨rfl, rfl⟩
      · exact .inr (.inl ⟨_, rfl, rfl⟩)
      · exact .inr (.inl ⟨_, rfl, rfl⟩)
      · exact .inl ⟨rfl, rfl⟩

/-- Whether a node is healthy, as far as it is known. -/
def healthOf (journal : Journal) (nodeId : String) : Option Bool :=
  (entryOf journal.knownNodes nodeId).map NodeHealthState.healthy

/-- A mark writes down a transition of a node exactly when it changes what is known of its health,
and the transition says from what to what. -/
theorem noted_cases (journal : Journal) (mark : Mark) (nodeId : String) :
    let noted := (journal.noted mark).filter (·.nodeId = nodeId)
    (noted = [] ∧ (journal.apply mark).healthOf nodeId = journal.healthOf nodeId) ∨
      ∃ transition, noted = [transition] ∧
        (journal.apply mark).healthOf nodeId = some (decide (transition.target = .healthy)) ∧
        match journal.healthOf nodeId with
        | none => transition.source = .unknown
        | some healthy => transition.source ≠ .unknown ∧
            (transition.source = .healthy ↔ healthy = true) ∧
            (transition.target = .healthy ↔ healthy = false) := by
  simp only [healthOf, entryOf_apply]
  cases mark with
  | cut => exact .inl ⟨rfl, rfl⟩
  | lost other now =>
    by_cases hsame : other = nodeId
    · subst hsame
      simp only [noted, markEntry, if_true]
      cases entryOf journal.knownNodes other with
      | none => exact .inl ⟨rfl, rfl⟩
      | some state =>
        cases hhealthy : state.healthy with
        | true => exact .inr ⟨⟨other, .healthy, .disconnected, now⟩, by simp [hhealthy]⟩
        | false => exact .inl (by simp [hhealthy])
    · refine .inl ⟨?_, by simp only [markEntry, if_neg hsame]⟩
      simp only [noted]
      cases entryOf journal.knownNodes other with
      | none => rfl
      | some state =>
        dsimp only
        split_ifs <;> simp [hsame]
  | checked other isHealthy now =>
    by_cases hsame : other = nodeId
    · subst hsame
      simp only [noted, markEntry, if_true]
      cases entryOf journal.knownNodes other with
      | none =>
        refine .inr ⟨⟨other, .unknown, if isHealthy then .healthy else .unhealthy, now⟩, ?_⟩
        cases isHealthy <;> simp
      | some state =>
        cases hhealthy : state.healthy <;> cases isHealthy
        · exact .inl (by simp [hhealthy])
        · exact .inr ⟨⟨other, .unhealthy, .healthy, now⟩, by simp [hhealthy]⟩
        · exact .inr ⟨⟨other, .healthy, .unhealthy, now⟩, by simp [hhealthy]⟩
        · exact .inl (by simp [hhealthy])
    · refine .inl ⟨?_, by simp only [markEntry, if_neg hsame]⟩
      simp only [noted]
      cases entryOf journal.knownNodes other with
      | none => simp [hsame]
      | some state =>
        dsimp only
        split_ifs <;> simp [hsame]

end Journal

/-! ### What the transitions tell -/

/-- A transition comes right after another one of the node: it leads away from the health that the
other one led to. -/
def Transition.Follows (earlier later : Transition) : Prop :=
  later.source ≠ .unknown ∧ (later.source = .healthy ↔ earlier.target = .healthy) ∧
    (later.target = .healthy ↔ earlier.target ≠ .healthy)

namespace Journal

/-- The transitions of a node tell how it came to its health. -/
structure Tells (journal : Journal) (nodeId : String) (told : List Transition) : Prop where
  discovered : ∀ transition ∈ told.head?, transition.source = .unknown
  chain : told.IsChain Transition.Follows
  health : journal.healthOf nodeId = told.getLast?.map fun last ↦ decide (last.target = .healthy)

/-- The transitions that are kept are the last ones, never more than the bound, and as many as the
end of a check leaves, if there have been so many. -/
structure Keeps (journal : Journal) (told : List Transition) : Prop where
  suffix : journal.recentTransitions <:+ told
  enough : min publishedTransitions told.length ≤ journal.recentTransitions.length
  bound : journal.recentTransitions.length ≤ maxTransitions

/-- A mark adds to the story of a node what it writes down of it. -/
theorem Tells.apply {journal : Journal} {nodeId : String} {told : List Transition}
    (htells : journal.Tells nodeId told) (mark : Mark) :
    (journal.apply mark).Tells nodeId
      (told ++ (journal.noted mark).filter (·.nodeId = nodeId)) := by
  rcases journal.noted_cases mark nodeId with ⟨hnone, hsame⟩ | ⟨transition, hone, hafter, hfrom⟩
  · rw [hnone, List.append_nil]
    exact ⟨htells.discovered, htells.chain, hsame.trans htells.health⟩
  · rw [hone]
    rw [htells.health] at hfrom
    rcases List.eq_nil_or_concat' told with rfl | ⟨before, last, rfl⟩
    · refine ⟨?_, List.isChain_singleton transition, hafter⟩
      simpa using hfrom
    · rw [List.getLast?_concat] at hfrom
      simp only [Option.map_some, decide_eq_true_eq, decide_eq_false_iff_not] at hfrom
      refine ⟨?_, ?_, ?_⟩
      · have hdiscovered := htells.discovered
        cases before with
        | nil => simpa using hdiscovered
        | cons first rest => simpa using hdiscovered
      · refine htells.chain.append (List.isChain_singleton transition) ?_
        simpa [Transition.Follows] using hfrom
      · rw [hafter, List.getLast?_concat]
        rfl

/-- A mark keeps the last transitions. -/
theorem Keeps.apply {journal : Journal} {told : List Transition} (hkeeps : journal.Keeps told)
    (mark : Mark) : (journal.apply mark).Keeps (told ++ journal.noted mark) := by
  obtain ⟨hsuffix, henough, hbound⟩ := hkeeps
  simp only [publishedTransitions, maxTransitions] at henough hbound
  rcases journal.recentTransitions_apply mark with
    ⟨hrecent, hnone⟩ | ⟨transition, hone, hrecent⟩ | ⟨hnone, hrecent⟩
  · rw [hnone, List.append_nil]
    exact ⟨hrecent ▸ hsuffix, hrecent ▸ henough, hrecent ▸ hbound⟩
  · have hpushed : journal.recentTransitions ++ [transition] <:+ told ++ [transition] := by
      obtain ⟨dropped, rfl⟩ := hsuffix
      exact ⟨dropped, by simp⟩
    rw [hone]
    refine ⟨?_, ?_, ?_⟩
    all_goals
      rw [hrecent]
      simp only [addTransition, publishedTransitions, maxTransitions, List.rtake,
        List.length_append, List.length_singleton]
      split_ifs with hlong
    · exact (List.drop_suffix _ _).trans hpushed
    · exact hpushed
    · simp only [List.length_drop, List.length_append, List.length_singleton]
      omega
    · simp only [List.length_append, List.length_singleton]
      omega
    · simp only [List.length_drop, List.length_append, List.length_singleton]
      omega
    · simp only [List.length_append, List.length_singleton]
      omega
  · rw [hnone, List.append_nil]
    refine ⟨?_, ?_, ?_⟩
    all_goals
      rw [hrecent]
      simp only [publishedTransitions, maxTransitions, List.rtake]
    · exact (List.drop_suffix _ _).trans hsuffix
    · rw [List.length_drop]
      omega
    · rw [List.length_drop]
      omega

end Journal

/-! ### Runs of the monitor -/

namespace HealthMonitor

/-- The marks that a step makes. -/
def marks (monitor : HealthMonitor) : MonitorEvent → List Mark
  | .listed nodeIds now =>
    (monitor.missing nodeIds).map (.lost · now) ++ if nodeIds = [] then [.cut] else []
  | .answered index healthResults =>
    match monitor.waiting[index]? with
    | none => []
    | some check => check.nodeIds.map (fun nodeId ↦
        .checked nodeId (isHealthyResult (healthResults nodeId)) check.now) ++ [.cut]

/-- The loop over the nodes checks them and counts what they answered. -/
theorem foldl_checkNodes (now : ℕ) (healthResults : String → Option (InvokeResult Health))
    (nodeIds : List String) (counted : Journal × ℕ × ℕ) :
    nodeIds.foldl (checkNodes now healthResults) counted =
      ((nodeIds.map fun nodeId ↦
          Mark.checked nodeId (isHealthyResult (healthResults nodeId)) now).foldl Journal.apply
          counted.1,
        counted.2.1 + nodeIds.countP (fun nodeId ↦ isHealthyResult (healthResults nodeId)),
        counted.2.2 + nodeIds.countP (fun nodeId ↦ !isHealthyResult (healthResults nodeId))) := by
  induction nodeIds generalizing counted with
  | nil => rfl
  | cons nodeId rest ih =>
    rw [List.foldl_cons, ih, List.countP_cons, List.countP_cons]
    simp only [checkNodes]
    cases hanswer : isHealthyResult (healthResults nodeId) with
    | true => simp [Journal.apply, hanswer, Nat.add_assoc, Nat.add_comm 1]
    | false => simp [Journal.apply, hanswer, Nat.add_assoc, Nat.add_comm 1]

/-- A step does to the journal what its marks do. -/
theorem journal_step (monitor : HealthMonitor) (event : MonitorEvent) :
    (monitor.step event).journal = (monitor.marks event).foldl Journal.apply monitor.journal := by
  cases event with
  | listed nodeIds now =>
    simp only [step, marks, List.foldl_append, List.foldl_map]
    split_ifs <;> rfl
  | answered index healthResults =>
    simp only [step, marks]
    cases monitor.waiting[index]? with
    | none => rfl
    | some check => simp only [foldl_checkNodes, List.foldl_append]; rfl

/-- The two counts of the status are those of the nodes that were asked. -/
theorem counts_step {monitor : HealthMonitor}
    (hcounts : monitor.cachedStatus.healthy + monitor.cachedStatus.unhealthy =
      monitor.cachedStatus.nodes) (event : MonitorEvent) :
    (monitor.step event).cachedStatus.healthy + (monitor.step event).cachedStatus.unhealthy =
      (monitor.step event).cachedStatus.nodes := by
  cases event with
  | listed nodeIds now =>
    simp only [step]
    split_ifs
    · rfl
    · exact hcounts
  | answered index healthResults =>
    simp only [step]
    cases monitor.waiting[index]? with
    | none => exact hcounts
    | some check =>
      simp only [foldl_checkNodes, Nat.zero_add]
      have hsplit := List.length_eq_countP_add_countP
        (fun nodeId ↦ isHealthyResult (healthResults nodeId)) (l := check.nodeIds)
      simpa using hsplit.symm

end HealthMonitor

/-- In every run, whatever checks overlap, the transitions that are kept are the last ones of those
that have been written down, at most fifty and as many as twenty if there have been so many. Those
that have been written down of one node begin with its discovery, each of the others leads from the
health that the one before led to, to the other one, and the last one says how the node is. -/
theorem transitions_chain (events : List MonitorEvent) :
    let monitor := events.foldl HealthMonitor.step .start
    let told := outputs Journal.apply Journal.noted ⟨[], []⟩
      (outputs HealthMonitor.step HealthMonitor.marks .start events)
    monitor.journal.Keeps told ∧
      (∀ nodeId, monitor.journal.Tells nodeId (told.filter (·.nodeId = nodeId))) ∧
      monitor.cachedStatus.healthy + monitor.cachedStatus.unhealthy =
        monitor.cachedStatus.nodes := by
  have hjournal := view_foldl HealthMonitor.journal Journal.apply HealthMonitor.marks
    HealthMonitor.journal_step events .start
  have hcounts : Always HealthMonitor.step (fun monitor ↦
      monitor.cachedStatus.healthy + monitor.cachedStatus.unhealthy =
        monitor.cachedStatus.nodes) .start events := by
    refine always_of_step ?_ ?_ events
    · rfl
    · exact fun monitor event hbefore ↦ HealthMonitor.counts_step hbefore event
  dsimp only
  rw [hjournal]
  refine ⟨invariant_outputs Journal.Keeps Journal.noted ?_ ?_ _, fun nodeId ↦ ?_, hcounts.last⟩
  · exact ⟨List.nil_suffix, Nat.zero_le _, Nat.zero_le _⟩
  · exact fun journal told mark hkeeps ↦ hkeeps.apply mark
  · refine invariant_outputs (fun journal told ↦
      journal.Tells nodeId (told.filter (·.nodeId = nodeId))) Journal.noted ?_ ?_ _
    · exact ⟨fun transition hnone ↦ (nomatch hnone), List.isChain_nil, rfl⟩
    · intro journal told mark htells
      rw [List.filter_append]
      exact htells.apply mark

/-! ### The health of one node -/

namespace Journal

variable (journal : Journal) (nodeId : String)

/-- What is known of the health of a node after a mark. -/
theorem healthOf_apply (mark : Mark) :
    (journal.apply mark).healthOf nodeId = match mark with
      | .lost other _ => if other = nodeId then (journal.healthOf nodeId).map fun _ ↦ false
          else journal.healthOf nodeId
      | .checked other isHealthy _ => if other = nodeId then some isHealthy
          else journal.healthOf nodeId
      | .cut => journal.healthOf nodeId := by
  simp only [healthOf, entryOf_apply]
  cases mark with
  | cut => rfl
  | lost other now =>
    simp only [markEntry]
    split_ifs
    · rw [Option.map_map, Option.map_map]
      rfl
    · rfl
  | checked other isHealthy now =>
    simp only [markEntry]
    split_ifs <;> rfl

/-- Nodes that are lost are not healthy, as far as they are known. -/
theorem healthOf_foldl_lost (now : ℕ) (lost : List String) :
    ((lost.map (.lost · now)).foldl apply journal).healthOf nodeId =
      if nodeId ∈ lost then (journal.healthOf nodeId).map fun _ ↦ false
      else journal.healthOf nodeId := by
  induction lost generalizing journal with
  | nil => rfl
  | cons first rest ih =>
    rw [List.map_cons, List.foldl_cons, ih, healthOf_apply]
    by_cases hfirst : first = nodeId
    · simp [hfirst]
    · simp [hfirst, Ne.symm hfirst]

/-- Nodes that are checked are as they answer. -/
theorem healthOf_foldl_checked (now : ℕ) (isHealthy : String → Bool) (asked : List String) :
    ((asked.map fun other ↦ Mark.checked other (isHealthy other) now).foldl apply
        journal).healthOf nodeId =
      if nodeId ∈ asked then some (isHealthy nodeId) else journal.healthOf nodeId := by
  induction asked generalizing journal with
  | nil => rfl
  | cons first rest ih =>
    rw [List.map_cons, List.foldl_cons, ih, healthOf_apply]
    by_cases hfirst : first = nodeId
    · simp [hfirst]
    · simp [hfirst, Ne.symm hfirst]

end Journal

/-- What a mark says of the answers of a node. -/
def Mark.answers (nodeId : String) : Mark → List Bool
  | .checked other isHealthy _ => if other = nodeId then [isHealthy] else []
  | .lost _ _ | .cut => []

namespace HealthMonitor

/-- The check that an event answers, when it asks for the health of a node. -/
def asksNode (monitor : HealthMonitor) (nodeId : String) (index : ℕ) : Prop :=
  ∃ check, monitor.waiting[index]? = some check ∧ nodeId ∈ check.nodeIds

/-- The node answers that it is healthy. -/
def AnswersHealthy (nodeId : String) (monitor : HealthMonitor) : MonitorEvent → Prop
  | .listed _ _ => False
  | .answered index healthResults =>
    monitor.asksNode nodeId index ∧ isHealthyResult (healthResults nodeId) = true

/-- The node is not listed, or does not answer that it is healthy. -/
def Fails (nodeId : String) (monitor : HealthMonitor) : MonitorEvent → Prop
  | .listed nodeIds _ => nodeId ∉ nodeIds
  | .answered index healthResults =>
    monitor.asksNode nodeId index ∧ isHealthyResult (healthResults nodeId) = false

/-- After a step a node is healthy exactly when it answered so, or was so and did not fail. -/
theorem healthy_step_iff (nodeId : String) (monitor : HealthMonitor) (event : MonitorEvent) :
    (monitor.step event).journal.healthOf nodeId = some true ↔
      AnswersHealthy nodeId monitor event ∨
        monitor.journal.healthOf nodeId = some true ∧ ¬ Fails nodeId monitor event := by
  rw [journal_step]
  cases event with
  | listed nodeIds now =>
    have hcut : ((monitor.marks (.listed nodeIds now)).foldl Journal.apply
        monitor.journal).healthOf nodeId =
          (((monitor.missing nodeIds).map (.lost · now)).foldl Journal.apply
            monitor.journal).healthOf nodeId := by
      simp only [marks, List.foldl_append]
      split_ifs <;> rfl
    rw [hcut, Journal.healthOf_foldl_lost]
    simp only [AnswersHealthy, Fails, false_or, not_not]
    by_cases hlisted : nodeId ∈ nodeIds
    · have hkept : nodeId ∉ monitor.missing nodeIds := by
        simp [missing, hlisted]
      rw [if_neg hkept]
      exact (and_iff_left hlisted).symm
    · refine iff_of_false ?_ (fun hboth ↦ hlisted hboth.2)
      split_ifs with hmissing
      · simp
      · intro hhealthy
        refine hmissing (List.mem_filter.mpr ⟨?_, by simpa using hlisted⟩)
        rw [mem_map_nodeId_iff]
        exact Option.isSome_map.symm.trans (congrArg Option.isSome hhealthy)
  | answered index healthResults =>
    simp only [marks, AnswersHealthy, Fails, asksNode]
    cases monitor.waiting[index]? with
    | none => simp
    | some check =>
      have hcut : ((check.nodeIds.map (fun other ↦ Mark.checked other
          (isHealthyResult (healthResults other)) check.now) ++ [Mark.cut]).foldl Journal.apply
            monitor.journal).healthOf nodeId =
          ((check.nodeIds.map fun other ↦ Mark.checked other
            (isHealthyResult (healthResults other)) check.now).foldl Journal.apply
              monitor.journal).healthOf nodeId := by
        rw [List.foldl_append]
        rfl
      dsimp only
      rw [hcut, Journal.healthOf_foldl_checked monitor.journal nodeId check.now
        (fun other ↦ isHealthyResult (healthResults other))]
      by_cases hasked : nodeId ∈ check.nodeIds
      · simp [hasked]
      · simp [hasked]

end HealthMonitor

/-- In every run, a node counts as healthy exactly when, in one of the checks, it answered that it
is, and since then it was in every list of the gateway and never answered otherwise. The failures
that are counted for it are the answers since the last one that said it is healthy. -/
theorem healthy_iff_since (nodeId : String) (events : List MonitorEvent) :
    let monitor := events.foldl HealthMonitor.step .start
    let answers := (outputs HealthMonitor.step HealthMonitor.marks .start events).flatMap
      (Mark.answers nodeId)
    (monitor.journal.healthOf nodeId = some true ↔ Since HealthMonitor.step
      (HealthMonitor.AnswersHealthy nodeId) (HealthMonitor.Fails nodeId) .start events) ∧
    ((entryOf monitor.journal.knownNodes nodeId).map
        NodeHealthState.consecutiveFailures).getD 0 =
      (answers.rtakeWhile (!·)).length := by
  refine ⟨holds_iff_since (fun monitor : HealthMonitor ↦
    monitor.journal.healthOf nodeId = some true) (HealthMonitor.healthy_step_iff nodeId) nofun, ?_⟩
  have hjournal := view_foldl HealthMonitor.journal Journal.apply HealthMonitor.marks
    HealthMonitor.journal_step events .start
  rw [hjournal]
  generalize outputs HealthMonitor.step HealthMonitor.marks .start events = made
  induction made using List.reverseRecOn with
  | nil => rfl
  | append_singleton done last ih =>
    rw [List.foldl_concat, Journal.entryOf_apply, List.flatMap_append, List.flatMap_singleton]
    cases last with
    | cut => simpa [markEntry, Mark.answers] using ih
    | lost other now =>
      simp only [markEntry, Mark.answers, List.append_nil]
      split_ifs with hsame
      · rw [Option.map_map]
        exact ih
      · exact ih
    | checked other isHealthy now =>
      simp only [markEntry, Mark.answers]
      split_ifs with hsame hhealthy
      · simp [hhealthy]
      · simp [hhealthy, ih]
      · simpa using ih

end Clawbernetes.OpenClaw
