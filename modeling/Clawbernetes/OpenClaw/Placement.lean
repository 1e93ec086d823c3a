import Clawbernetes.Library.SortedInsert
import Mathlib.Algebra.Order.Field.Rat
import Mathlib.Tactic.Linarith

/-!
# Placing a workload in the fleet

`claw_deploy` of `deploy.ts`: every node of the fleet is asked for its capabilities and its health,
the nodes that can take the workload are scored, and the first one of those with the highest score
is chosen. Scores are exact rationals here. The score adds numbers of different scales: a GPU counts
for a hundred, a mebibyte of memory for one, and the preference for ten thousand.

`clawDeploy_cases` is what the tool does. `honours_request_iff` says that it does what is asked of a
placement exactly when no other node is ahead of the preferred one by more than the preference.
-/

set_option autoImplicit false
set_option relaxedAutoImplicit false

namespace Clawbernetes.OpenClaw

open Library.SortedInsert

/-! ### Scoring -/

/-- `InvokeResult`. -/
structure InvokeResult (Payload : Type*) where
  ok : Bool
  payload : Option Payload

/-- The numbers in the payload of `node.capabilities`, where they are numbers. -/
structure Capabilities where
  gpuAvailable : Option ℕ := none
  memoryAvailable : Option ℕ := none
  workloadCount : Option ℕ := none

/-- The payload of `node.health`. -/
structure Health where
  healthy : Option Bool := none
  status : Option String := none

/-- The nodes of the fleet, and what they reply. -/
structure Fleet where
  nodeIds : List String
  capsResults : String → Option (InvokeResult Capabilities)
  healthResults : String → Option (InvokeResult Health)

/-- The arguments of `claw_deploy` that the placement reads. -/
structure DeployArgs where
  gpus : Option ℚ := none
  preferNode : Option String := none

/-- `NodeScore`. -/
structure NodeScore where
  nodeId : String
  score : ℚ
  gpuAvailable : ℕ
  memoryAvailable : ℕ
  healthy : Bool
  workloadCount : ℕ

/-- The number of GPUs that the workload needs. -/
def DeployArgs.gpusNeeded (args : DeployArgs) : ℚ := args.gpus.getD 1

/-- The bonus of the preferred node. An empty preference is none. -/
def DeployArgs.bonus (args : DeployArgs) (nodeId : String) : ℚ :=
  match args.preferNode with
  | none => 0
  | some preferNode => if preferNode ≠ "" ∧ nodeId = preferNode then 10000 else 0

/-- Whether a node says that it is healthy. -/
def Health.isHealthy (health : Health) : Bool :=
  health.healthy = some true || health.status = some "healthy" || health.status = some "ok"

/-- The score of available GPUs, available memory in bytes and running workloads. -/
def baseScore (gpuAvailable memoryAvailable workloadCount : ℕ) : ℚ :=
  gpuAvailable * 100 + memoryAvailable / (1024 * 1024) - workloadCount * 50

/-- The score of a node, unless it did not reply, cannot take the workload or is not healthy. -/
def scoreNode (args : DeployArgs) (fleet : Fleet) (nodeId : String) : Option NodeScore :=
  match fleet.capsResults nodeId, fleet.healthResults nodeId with
  | some caps, some health =>
    if !caps.ok || !health.ok then none
    else
      let cp := caps.payload.getD {}
      let hp := health.payload.getD {}
      let gpuAvailable := cp.gpuAvailable.getD 0
      let memoryAvailable := cp.memoryAvailable.getD 0
      let workloadCount := cp.workloadCount.getD 0
      if gpuAvailable < args.gpusNeeded then none
      else if !hp.isHealthy then none
      else some ⟨nodeId, baseScore gpuAvailable memoryAvailable workloadCount + args.bonus nodeId,
        gpuAvailable, memoryAvailable, hp.isHealthy, workloadCount⟩
  | _, _ => none

/-- The reasons for which no node is chosen. -/
inductive PlacementError where
  | noNodes
  | noneFits (gpusNeeded : ℚ)

/-- The text of an error, in which a number is displayed. -/
def PlacementError.display (displayNumber : ℚ → String) : PlacementError → String
  | noNodes => "No nodes connected to the fleet"
  | noneFits gpusNeeded => "No node has " ++ displayNumber gpusNeeded ++
      " available GPU(s). Check fleet status with claw_fleet_status."

/-- The choice of `claw_deploy`: the scores are sorted from the highest on, which is stable, and the
first is taken. -/
def clawDeploy (args : DeployArgs) (fleet : Fleet) : Except PlacementError NodeScore :=
  if fleet.nodeIds = [] then .error .noNodes
  else
    match (stableSort (fun score : NodeScore ↦ -score.score)
        (fleet.nodeIds.filterMap (scoreNode args fleet))).head? with
    | none => .error (.noneFits args.gpusNeeded)
    | some best => .ok best

/-! ### The nodes that can be chosen -/

namespace Fleet

variable (fleet : Fleet) (nodeId : String)

/-- The capabilities that a node replied with. -/
def capabilities : Capabilities := ((fleet.capsResults nodeId).bind (·.payload)).getD {}

/-- The available GPUs of a node. -/
def gpus : ℕ := (fleet.capabilities nodeId).gpuAvailable.getD 0

/-- The available memory of a node. -/
def memory : ℕ := (fleet.capabilities nodeId).memoryAvailable.getD 0

/-- The workloads of a node. -/
def workloads : ℕ := (fleet.capabilities nodeId).workloadCount.getD 0

/-- The score of a node without a preference. -/
def base : ℚ := baseScore (fleet.gpus nodeId) (fleet.memory nodeId) (fleet.workloads nodeId)

end Fleet

/-- A node replied to both queries, is healthy and has the GPUs that are needed. -/
structure Qualifies (args : DeployArgs) (fleet : Fleet) (nodeId : String) : Prop where
  caps : ∃ caps, fleet.capsResults nodeId = some caps ∧ caps.ok = true
  health : ∃ health, fleet.healthResults nodeId = some health ∧ health.ok = true ∧
    (health.payload.getD {}).isHealthy = true
  gpus : args.gpusNeeded ≤ fleet.gpus nodeId

variable {args : DeployArgs} {fleet : Fleet} {nodeId : String}

/-- The score of a node that qualifies. -/
def nodeScore (args : DeployArgs) (fleet : Fleet) (nodeId : String) : NodeScore where
  nodeId := nodeId
  score := fleet.base nodeId + args.bonus nodeId
  gpuAvailable := fleet.gpus nodeId
  memoryAvailable := fleet.memory nodeId
  healthy := true
  workloadCount := fleet.workloads nodeId

/-- A node that qualifies is scored. -/
theorem scoreNode_of_qualifies (hqualifies : Qualifies args fleet nodeId) :
    scoreNode args fleet nodeId = some (nodeScore args fleet nodeId) := by
  obtain ⟨⟨caps, hcaps, hcapsOk⟩, ⟨health, hhealth, hhealthOk, hhealthy⟩, hgpus⟩ := hqualifies
  have hpayload : caps.payload.getD {} = fleet.capabilities nodeId := by
    rw [Fleet.capabilities, hcaps, Option.bind_some]
  have henough : ¬((fleet.capabilities nodeId).gpuAvailable.getD 0 : ℚ) < args.gpusNeeded :=
    not_lt.mpr hgpus
  unfold scoreNode
  rw [hcaps, hhealth]
  simp only [hcapsOk, hhealthOk, Bool.not_true, Bool.or_self, Bool.false_eq_true, if_false,
    hpayload]
  rw [if_neg henough, hhealthy]
  rfl

/-- Only nodes that qualify are scored. -/
theorem qualifies_of_scoreNode {score : NodeScore}
    (hscore : scoreNode args fleet nodeId = some score) :
    Qualifies args fleet nodeId := by
  unfold scoreNode at hscore
  cases hcaps : fleet.capsResults nodeId with
  | none => simp only [hcaps, reduceCtorEq] at hscore
  | some caps =>
    cases hhealth : fleet.healthResults nodeId with
    | none => simp only [hcaps, hhealth, reduceCtorEq] at hscore
    | some health =>
      have hpayload : caps.payload.getD {} = fleet.capabilities nodeId := by
        rw [Fleet.capabilities, hcaps, Option.bind_some]
      simp only [hcaps, hhealth, hpayload] at hscore
      split_ifs at hscore with hok hgpus hhealthy
      rw [Bool.or_eq_true, not_or] at hok
      refine ⟨⟨caps, hcaps, ?_⟩, ⟨health, hhealth, ?_, ?_⟩, not_lt.mp hgpus⟩
      · simpa using hok.1
      · simpa using hok.2
      · simpa using hhealthy

/-- The nodes that qualify are scored, and no others. -/
theorem scoreNode_eq_some_iff {score : NodeScore} : scoreNode args fleet nodeId = some score ↔
    Qualifies args fleet nodeId ∧ nodeScore args fleet nodeId = score := by
  constructor
  · intro hscore
    have hqualifies := qualifies_of_scoreNode hscore
    rw [scoreNode_of_qualifies hqualifies] at hscore
    exact ⟨hqualifies, Option.some_inj.mp hscore⟩
  · rintro ⟨hqualifies, rfl⟩
    exact scoreNode_of_qualifies hqualifies

/-- A node of the fleet qualifies. -/
def Eligible (args : DeployArgs) (fleet : Fleet) (nodeId : String) : Prop :=
  nodeId ∈ fleet.nodeIds ∧ Qualifies args fleet nodeId

/-- A node of the fleet is the first of those with the highest score. -/
structure Chosen (args : DeployArgs) (fleet : Fleet) (nodeId : String)
    (before after : List String) : Prop where
  split : fleet.nodeIds = before ++ nodeId :: after
  qualifies : Qualifies args fleet nodeId
  ahead : ∀ other ∈ before, Qualifies args fleet other →
    fleet.base other + args.bonus other < fleet.base nodeId + args.bonus nodeId
  behind : ∀ other ∈ after, Qualifies args fleet other →
    fleet.base other + args.bonus other ≤ fleet.base nodeId + args.bonus nodeId

/-- A chosen node is eligible. -/
theorem Chosen.eligible {before after : List String}
    (hchosen : Chosen args fleet nodeId before after) :
    Eligible args fleet nodeId :=
  ⟨hchosen.split ▸ List.mem_append_right _ List.mem_cons_self, hchosen.qualifies⟩

/-- The tool fails when no node is eligible, and chooses the first of the eligible nodes with the
highest score otherwise. -/
theorem clawDeploy_cases (args : DeployArgs) (fleet : Fleet) :
    (∃ error, clawDeploy args fleet = .error error) ∧ (∀ nodeId, ¬Eligible args fleet nodeId) ∨
      ∃ nodeId before after, clawDeploy args fleet = .ok (nodeScore args fleet nodeId) ∧
        Chosen args fleet nodeId before after := by
  unfold clawDeploy
  split_ifs with hnodes
  · refine .inl ⟨⟨_, rfl⟩, fun nodeId heligible ↦ ?_⟩
    have hmem := heligible.1
    rw [hnodes] at hmem
    cases hmem
  · cases hhead : (stableSort (fun score : NodeScore ↦ -score.score)
        (fleet.nodeIds.filterMap (scoreNode args fleet))).head? with
    | none =>
      refine .inl ⟨⟨_, rfl⟩, fun nodeId heligible ↦ ?_⟩
      have hscores := List.filterMap_eq_nil_iff.mp (head_stableSort_eq_none_iff.mp hhead) nodeId
        heligible.1
      rw [scoreNode_of_qualifies heligible.2] at hscores
      cases hscores
    | some best =>
      obtain ⟨above, below, hsplit, habove, hbelow⟩ := isFirstMin_of_head_stableSort hhead
      obtain ⟨before, rest, hnodeIds, rfl, hrest⟩ := List.filterMap_eq_append_iff.mp hsplit
      obtain ⟨skipped, nodeId, after, rfl, hskipped, hbest, rfl⟩ :=
        List.filterMap_eq_cons_iff.mp hrest
      obtain ⟨hqualifies, rfl⟩ := scoreNode_eq_some_iff.mp hbest
      refine .inr ⟨nodeId, before ++ skipped, after, rfl, ?_, hqualifies, ?_, ?_⟩
      · rw [hnodeIds, List.append_assoc]
      · intro other hother hqualified
        rcases List.mem_append.mp hother with hbefore | hskip
        · have hscored := List.mem_filterMap.mpr ⟨other, hbefore, scoreNode_of_qualifies hqualified⟩
          exact neg_lt_neg_iff.mp (habove _ hscored)
        · have hnone := hskipped other hskip
          rw [scoreNode_of_qualifies hqualified] at hnone
          cases hnone
      · intro other hother hqualified
        have hscored := List.mem_filterMap.mpr ⟨other, hother, scoreNode_of_qualifies hqualified⟩
        exact neg_le_neg_iff.mp (hbelow _ hscored)

/-! ### What is asked of a placement -/

/-- Another node has as many GPUs and as much memory and no more workloads, and one of these is
better. -/
structure Fleet.Dominates (fleet : Fleet) (other nodeId : String) : Prop where
  gpus : fleet.gpus nodeId ≤ fleet.gpus other
  memory : fleet.memory nodeId ≤ fleet.memory other
  workloads : fleet.workloads other ≤ fleet.workloads nodeId
  better : fleet.gpus nodeId < fleet.gpus other ∨ fleet.memory nodeId < fleet.memory other ∨
    fleet.workloads other < fleet.workloads nodeId

/-- A node that dominates another one has a higher score. -/
theorem Fleet.Dominates.base_lt {other : String} (hdominates : fleet.Dominates other nodeId) :
    fleet.base nodeId < fleet.base other := by
  have hgpus : (fleet.gpus nodeId : ℚ) ≤ fleet.gpus other := Nat.cast_le.mpr hdominates.gpus
  have hmemory : (fleet.memory nodeId : ℚ) ≤ fleet.memory other := Nat.cast_le.mpr hdominates.memory
  have hworkloads : (fleet.workloads other : ℚ) ≤ fleet.workloads nodeId :=
    Nat.cast_le.mpr hdominates.workloads
  unfold Fleet.base baseScore
  rcases hdominates.better with hbetter | hbetter | hbetter
  · have hstrict : (fleet.gpus nodeId : ℚ) < fleet.gpus other := Nat.cast_lt.mpr hbetter
    linarith
  · have hstrict : (fleet.memory nodeId : ℚ) < fleet.memory other := Nat.cast_lt.mpr hbetter
    linarith
  · have hstrict : (fleet.workloads other : ℚ) < fleet.workloads nodeId := Nat.cast_lt.mpr hbetter
    linarith

/-- The placement does what is asked of it: it chooses an eligible node, none only if there is none,
the preferred one if it is eligible, and without a preference none that another one dominates. -/
structure HonoursRequest (args : DeployArgs) (fleet : Fleet) : Prop where
  eligible : ∀ best, clawDeploy args fleet = .ok best → Eligible args fleet best.nodeId
  none_iff : (∃ error, clawDeploy args fleet = .error error) ↔ ∀ nodeId, ¬Eligible args fleet nodeId
  preferred : ∀ nodeId, args.preferNode = some nodeId → Eligible args fleet nodeId →
    ∃ best, clawDeploy args fleet = .ok best ∧ best.nodeId = nodeId
  undominated : args.preferNode = none → ∀ best, clawDeploy args fleet = .ok best →
    ∀ other, Eligible args fleet other → ¬fleet.Dominates other best.nodeId

/-- No other node that qualifies is ahead of a node by more than its bonus, and none before it in
the list by as much. -/
def BonusSuffices (args : DeployArgs) (fleet : Fleet) (nodeId : String) : Prop :=
  ∃ before after, fleet.nodeIds = before ++ nodeId :: after ∧
    (∀ other ∈ before, Qualifies args fleet other → other ≠ nodeId →
      fleet.base other < fleet.base nodeId + args.bonus nodeId) ∧
    ∀ other ∈ after, Qualifies args fleet other → other ≠ nodeId →
      fleet.base other ≤ fleet.base nodeId + args.bonus nodeId

/-- Only the preferred node has a bonus. -/
theorem bonus_of_ne {other : String} (hprefer : args.preferNode = some nodeId)
    (hother : other ≠ nodeId) : args.bonus other = 0 := by
  rw [DeployArgs.bonus, hprefer]
  exact if_neg fun hpreferred ↦ hother hpreferred.2

/-- Without a preference no node has a bonus. -/
theorem bonus_of_none (hprefer : args.preferNode = none) (nodeId : String) :
    args.bonus nodeId = 0 := by
  rw [DeployArgs.bonus, hprefer]

/-- No eligible node scores higher than the chosen one. -/
theorem Chosen.score_le {before after : List String}
    (hchosen : Chosen args fleet nodeId before after) {other : String}
    (hother : Eligible args fleet other) :
    fleet.base other + args.bonus other ≤ fleet.base nodeId + args.bonus nodeId := by
  have hmem := hother.1
  rw [hchosen.split] at hmem
  rcases List.mem_append.mp hmem with hbefore | hrest
  · exact (hchosen.ahead other hbefore hother.2).le
  · rcases List.mem_cons.mp hrest with rfl | hafter
    · exact le_refl _
    · exact hchosen.behind other hafter hother.2

/-- Two entries of a list, neither of which has the other before it, are the same. -/
theorem eq_of_first {first second : String} {before after front back : List String}
    (hplaces : before ++ first :: after = front ++ second :: back) (hfirst : first ∉ front)
    (hsecond : second ∉ before) : first = second := by
  induction before generalizing front with
  | nil =>
    cases front with
    | nil => exact (List.cons.inj hplaces).1
    | cons other front =>
      obtain ⟨rfl, -⟩ := List.cons.inj hplaces
      exact absurd List.mem_cons_self hfirst
  | cons other before ih =>
    cases front with
    | nil =>
      obtain ⟨rfl, -⟩ := List.cons.inj hplaces
      exact absurd List.mem_cons_self hsecond
    | cons another front =>
      exact ih (List.cons.inj hplaces).2 (fun hmem ↦ hfirst (List.mem_cons_of_mem _ hmem))
        fun hmem ↦ hsecond (List.mem_cons_of_mem _ hmem)

/-- The preferred node is the chosen one exactly when its bonus suffices. -/
theorem Chosen.preferred_iff {preferred : String} {before after : List String}
    (hchosen : Chosen args fleet nodeId before after) (hprefer : args.preferNode = some preferred)
    (heligible : Eligible args fleet preferred) :
    nodeId = preferred ↔ BonusSuffices args fleet preferred := by
  constructor
  · rintro rfl
    refine ⟨before, after, hchosen.split, fun other hother hqualifies hne ↦ ?_,
      fun other hother hqualifies hne ↦ ?_⟩
    · have hlt := hchosen.ahead other hother hqualifies
      rwa [bonus_of_ne hprefer hne, add_zero] at hlt
    · have hle := hchosen.behind other hother hqualifies
      rwa [bonus_of_ne hprefer hne, add_zero] at hle
  · rintro ⟨front, back, hsplit, hfront, hback⟩
    by_contra hne
    have hbest := hchosen.score_le heligible
    rw [bonus_of_ne hprefer hne, add_zero] at hbest
    have hplaces : before ++ nodeId :: after = front ++ preferred :: back :=
      hchosen.split.symm.trans hsplit
    -- a node in front of the preferred one would have to be below the score that it reaches
    have hnotFront : nodeId ∉ front := fun hmem ↦
      absurd (hfront nodeId hmem hchosen.qualifies hne) (not_lt.mpr hbest)
    have hback : fleet.base nodeId ≤ fleet.base preferred + args.bonus preferred := by
      have hmem := hchosen.eligible.1
      rw [hsplit] at hmem
      rcases List.mem_cons.mp ((List.mem_append.mp hmem).resolve_left hnotFront) with hsame | hmem
      · exact absurd hsame hne
      · exact hback nodeId hmem hchosen.qualifies hne
    have hnotBefore : preferred ∉ before := by
      intro hmem
      have hlt := hchosen.ahead preferred hmem heligible.2
      rw [bonus_of_ne hprefer hne, add_zero] at hlt
      exact absurd hlt (not_lt.mpr hback)
    exact hne (eq_of_first hplaces hnotFront hnotBefore)

/-- The placement does what is asked of it exactly when the bonus of the preferred node suffices,
where it is eligible. -/
theorem honours_request_iff (args : DeployArgs) (fleet : Fleet) : HonoursRequest args fleet ↔
    ∀ nodeId, args.preferNode = some nodeId → Eligible args fleet nodeId →
      BonusSuffices args fleet nodeId := by
  rcases clawDeploy_cases args fleet with ⟨⟨error, hfails⟩, hnone⟩ |
    ⟨chosen, before, after, hresult, hchosen⟩
  · refine iff_of_true ⟨fun best hbest ↦ ?_, iff_of_true ⟨error, hfails⟩ hnone,
      fun nodeId _ heligible ↦ absurd heligible (hnone nodeId), fun _ best hbest ↦ ?_⟩
      fun nodeId _ heligible ↦ absurd heligible (hnone nodeId)
    · cases hfails.symm.trans hbest
    · cases hfails.symm.trans hbest
  · have hbestIs : ∀ best, clawDeploy args fleet = .ok best → best.nodeId = chosen := by
      intro best hbest
      obtain rfl := Except.ok.inj (hresult.symm.trans hbest)
      rfl
    constructor
    · intro hhonours nodeId hprefer heligible
      obtain ⟨best, hbest, hpreferred⟩ := hhonours.preferred nodeId hprefer heligible
      exact (hchosen.preferred_iff hprefer heligible).mp
        ((hbestIs best hbest).symm.trans hpreferred)
    · intro hsuffices
      refine ⟨fun best hbest ↦ ?_, iff_of_false ?_ ?_, fun nodeId hprefer heligible ↦ ?_,
        fun hprefer best hbest other hother hdominates ↦ ?_⟩
      · exact hbestIs best hbest ▸ hchosen.eligible
      · rintro ⟨error, hfails⟩
        cases hfails.symm.trans hresult
      · exact fun hnone ↦ hnone chosen hchosen.eligible
      · exact ⟨_, hresult,
          (hchosen.preferred_iff hprefer heligible).mpr (hsuffices nodeId hprefer heligible)⟩
      · have hle := hchosen.score_le hother
        rw [bonus_of_none hprefer, bonus_of_none hprefer, add_zero, add_zero] at hle
        rw [hbestIs best hbest] at hdominates
        exact absurd hdominates.base_lt (not_lt.mpr hle)

/-- Two healthy nodes with a GPU, of which the second has more than ten gibibytes of memory more. -/
def largeAndSmall : Fleet where
  nodeIds := ["small", "large"]
  capsResults nodeId := some ⟨true, some { gpuAvailable := some 1
                                           memoryAvailable :=
                                            some (if nodeId = "large" then 68719476736 else 0) }⟩
  healthResults _ := some ⟨true, some { healthy := some true }⟩

/-- The small node is preferred, and the large one is chosen. -/
theorem preferred_node_is_passed_over :
    (∃ best, clawDeploy { preferNode := some "small" } largeAndSmall = .ok best ∧
        best.nodeId = "large") ∧
      ¬HonoursRequest { preferNode := some "small" } largeAndSmall := by
  have heligible : ∀ nodeId ∈ largeAndSmall.nodeIds,
      Eligible { preferNode := some "small" } largeAndSmall nodeId := fun nodeId hmem ↦
    ⟨hmem, ⟨_, rfl, rfl⟩, ⟨_, rfl, rfl, rfl⟩, le_refl (1 : ℚ)⟩
  rcases clawDeploy_cases { preferNode := some "small" } largeAndSmall with ⟨-, hnone⟩ |
    ⟨chosen, before, after, hresult, hchosen⟩
  · exact absurd (heligible "small" List.mem_cons_self) (hnone "small")
  · have hlarge : chosen = "large" := by
      have hbest := hchosen.score_le (heligible "large" (List.mem_cons_of_mem _ List.mem_cons_self))
      rcases List.mem_cons.mp hchosen.eligible.1 with rfl | hmem
      · exact absurd hbest (by decide +kernel)
      · exact List.mem_singleton.mp hmem
    subst hlarge
    refine ⟨⟨_, hresult, rfl⟩, fun hhonours ↦ ?_⟩
    obtain ⟨best, hbest, hsmall⟩ :=
      hhonours.preferred "small" rfl (heligible "small" List.mem_cons_self)
    obtain rfl := Except.ok.inj (hresult.symm.trans hbest)
    exact absurd hsmall (by decide)

end Clawbernetes.OpenClaw
