import Clawbernetes.ClawNode.Stores
import Clawbernetes.Library.Runs

/-!
# Autoscaling policies

`autoscale.create`, `autoscale.adjust` and `autoscale.delete` of `autoscale_cmd.rs`, on the policies
of `claw-autoscaler`. A policy is created with its replicas at the minimum, and only the creation
checks that the minimum is not above the maximum. An adjustment sets the two bounds one after the
other and clamps the replicas, when it is given some, between what came out. `u32::clamp` panics for
bounds in the wrong order, with the new bounds already in the record.

`replicas_bounded_iff` says exactly for which runs all policies stay within their bounds and no
command panics.
-/

set_option autoImplicit false
set_option relaxedAutoImplicit false

namespace Clawbernetes.ClawNode

open Library.FiniteTable Library.Runs

/-- The state of an autoscaling policy. -/
inductive AutoscaleState where
  | active
  | disabled
  deriving DecidableEq

/-- `AutoscaleRecord`. -/
structure AutoscaleRecord where
  name : String
  target : String
  minReplicas : UInt32
  maxReplicas : UInt32
  currentReplicas : UInt32
  policyType : String
  metric : Option String
  threshold : Option Float
  state : AutoscaleState
  createdAt : ℤ
  updatedAt : ℤ

/-- `AutoscaleCreateParams`. -/
structure AutoscaleCreateParams where
  name : String
  target : String
  minReplicas : UInt32 := 1
  maxReplicas : UInt32 := 10
  policyType : String := "target_utilization"
  metric : Option String
  threshold : Option Float

/-- `AutoscaleAdjustParams`. -/
structure AutoscaleAdjustParams where
  name : String
  replicas : Option UInt32
  minReplicas : Option UInt32
  maxReplicas : Option UInt32
  enabled : Option Bool

/-- How a command ends. -/
inductive Ending where
  | ok
  | error (message : String)
  | panic
  deriving DecidableEq

namespace Autoscale

/-- The policies by name. -/
abbrev Store := Table String AutoscaleRecord

/-- `u32::clamp`, which panics when the bounds are in the wrong order. -/
def clamp (value low high : UInt32) : Option UInt32 :=
  if low ≤ high then some (if value < low then low else if high < value then high else value)
  else none

/-- `handle_autoscale_create`. -/
def handleAutoscaleCreate (store : Store) (params : AutoscaleCreateParams) (now : ℤ) :
    Ending × Store :=
  if params.maxReplicas < params.minReplicas then
    (.error "minReplicas cannot exceed maxReplicas", store)
  else
    match createRecord "policy" store params.name ⟨params.name, params.target, params.minReplicas,
        params.maxReplicas, params.minReplicas, params.policyType, params.metric, params.threshold,
        .active, now, now⟩ with
    | (.error message, store) => (.error message, store)
    | (.ok (), store) => (.ok, store)

/-- The record after the bounds of an adjustment were set. -/
def withBounds (params : AutoscaleAdjustParams) (record : AutoscaleRecord) : AutoscaleRecord :=
  { record with
    minReplicas := params.minReplicas.getD record.minReplicas
    maxReplicas := params.maxReplicas.getD record.maxReplicas }

/-- The record after an adjustment. -/
def adjusted (params : AutoscaleAdjustParams) (now : ℤ) (replicas : UInt32)
    (record : AutoscaleRecord) : AutoscaleRecord :=
  { withBounds params record with
    currentReplicas := replicas
    state := params.enabled.elim record.state fun enabled ↦ if enabled then .active else .disabled
    updatedAt := now }

/-- `handle_autoscale_adjust`. A panic leaves the new bounds in the record. -/
def handleAutoscaleAdjust (store : Store) (params : AutoscaleAdjustParams) (now : ℤ) :
    Ending × Store :=
  match store.lookup params.name with
  | none => (.error (notFound "autoscale policy" params.name), store)
  | some record =>
    let bounded := withBounds params record
    let replicas := params.replicas.elim (some record.currentReplicas) fun replicas ↦
      clamp replicas bounded.minReplicas bounded.maxReplicas
    match replicas with
    | none => (.panic, store.replace params.name bounded)
    | some replicas => (.ok, store.replace params.name (adjusted params now replicas record))

/-- `handle_autoscale_delete`. -/
def handleAutoscaleDelete (store : Store) (name : String) : Ending × Store :=
  match store.lookup name with
  | none => (.error (notFound "autoscale policy" name), store)
  | some _ => (.ok, store.erase name)

/-- A command, with the reading of the clock. -/
inductive Command where
  | create (params : AutoscaleCreateParams) (now : ℤ)
  | adjust (params : AutoscaleAdjustParams) (now : ℤ)
  | delete (name : String)

/-- `handle_autoscale_command`. -/
def handleAutoscaleCommand (store : Store) : Command → Ending × Store
  | .create params now => handleAutoscaleCreate store params now
  | .adjust params now => handleAutoscaleAdjust store params now
  | .delete name => handleAutoscaleDelete store name

/-- The policies after a command. -/
def step (store : Store) (command : Command) : Store := (handleAutoscaleCommand store command).2

/-! ### Bounds -/

/-- The replicas of a policy are within its bounds. -/
def Within (record : AutoscaleRecord) : Prop :=
  record.minReplicas ≤ record.currentReplicas ∧ record.currentReplicas ≤ record.maxReplicas

/-- All policies are within their bounds. -/
def Bounded (store : Store) : Prop :=
  ∀ name record, store.lookup name = some record → Within record

/-- A command does not panic, and changes nothing when it does not succeed. -/
def EndsWell (store : Store) (command : Command) : Prop :=
  (handleAutoscaleCommand store command).1 ≠ .panic ∧
    ((handleAutoscaleCommand store command).1 ≠ .ok → step store command = store)

/-- An adjustment of a policy sets bounds in the right order, and gives replicas or leaves the
current ones within the bounds. -/
def AdjustsWithin (store : Store) : Command → Prop
  | .create _ _ => True
  | .adjust params _ => ∀ record, store.lookup params.name = some record →
      (withBounds params record).minReplicas ≤ (withBounds params record).maxReplicas ∧
        (params.replicas = none → Within (withBounds params record))
  | .delete _ => True

variable {store : Store}

/-- A clamped value is between the bounds. -/
theorem clamp_spec {value low high replicas : UInt32}
    (hclamp : clamp value low high = some replicas) : low ≤ replicas ∧ replicas ≤ high := by
  unfold clamp at hclamp
  split_ifs at hclamp with horder hlow hhigh
  · obtain rfl := Option.some_inj.mp hclamp
    exact ⟨UInt32.le_refl _, horder⟩
  · obtain rfl := Option.some_inj.mp hclamp
    exact ⟨horder, UInt32.le_refl _⟩
  · obtain rfl := Option.some_inj.mp hclamp
    exact ⟨UInt32.not_lt.mp hlow, UInt32.not_lt.mp hhigh⟩

/-- The clamping panics exactly when the bounds are in the wrong order. -/
theorem clamp_eq_none_iff {value low high : UInt32} :
    clamp value low high = none ↔ ¬low ≤ high := by
  unfold clamp
  by_cases horder : low ≤ high
  · rw [if_pos horder]
    exact iff_of_false (Option.some_ne_none _) (not_not_intro horder)
  · rw [if_neg horder]
    exact iff_of_true rfl horder

/-- A new record under a name keeps the policies within their bounds exactly when it is. -/
theorem bounded_insert_iff (hbounded : Bounded store) {name : String} {record : AutoscaleRecord} :
    Bounded (store.insert name record) ↔ Within record :=
  forall_lookup_insert_iff hbounded

/-- A changed record keeps the policies within their bounds exactly when it is. -/
theorem bounded_replace_iff (hbounded : Bounded store) {name : String}
    {record changed : AutoscaleRecord} (hlookup : store.lookup name = some record) :
    Bounded (store.replace name changed) ↔ Within changed :=
  forall_lookup_replace_iff hlookup hbounded

/-! ### What a command does -/

/-- A creation keeps the policies within their bounds and ends well. -/
theorem create_spec (hbounded : Bounded store) (params : AutoscaleCreateParams) (now : ℤ) :
    Bounded (step store (.create params now)) ∧ EndsWell store (.create params now) := by
  simp only [step, EndsWell, handleAutoscaleCommand, handleAutoscaleCreate]
  split_ifs with horder
  · exact ⟨hbounded, by simp, fun _ ↦ rfl⟩
  · rcases createRecord_cases "policy" store params.name ⟨params.name, params.target,
        params.minReplicas, params.maxReplicas, params.minReplicas, params.policyType,
        params.metric, params.threshold, .active, now, now⟩ with ⟨-, hfails⟩ | ⟨-, hcreates⟩
    · rw [hfails]
      exact ⟨hbounded, by simp, fun _ ↦ rfl⟩
    · rw [hcreates]
      refine ⟨(bounded_insert_iff hbounded).mpr ?_, by simp, fun hok ↦ absurd rfl hok⟩
      exact ⟨UInt32.le_refl _, UInt32.not_lt.mp horder⟩

/-- A deletion keeps the policies within their bounds and ends well. -/
theorem delete_spec (hbounded : Bounded store) (name : String) :
    Bounded (step store (.delete name)) ∧ EndsWell store (.delete name) := by
  simp only [step, EndsWell, handleAutoscaleCommand, handleAutoscaleDelete]
  cases hlookup : store.lookup name with
  | none => exact ⟨hbounded, by simp, fun _ ↦ rfl⟩
  | some record =>
    exact ⟨forall_lookup_erase hbounded name, by simp, fun hok ↦ absurd rfl hok⟩

/-- What an adjustment of a policy does: the current replicas stay, are clamped, or the command
panics and leaves the bounds in the wrong order. -/
theorem adjust_cases {params : AutoscaleAdjustParams} {record : AutoscaleRecord}
    (hlookup : store.lookup params.name = some record) (now : ℤ) :
    (params.replicas = none ∧ handleAutoscaleCommand store (.adjust params now) =
        (.ok, store.replace params.name (adjusted params now record.currentReplicas record))) ∨
      (∃ value replicas, params.replicas = some value ∧
        clamp value (withBounds params record).minReplicas (withBounds params record).maxReplicas =
          some replicas ∧
        handleAutoscaleCommand store (.adjust params now) =
          (.ok, store.replace params.name (adjusted params now replicas record))) ∨
      ¬(withBounds params record).minReplicas ≤ (withBounds params record).maxReplicas ∧
        handleAutoscaleCommand store (.adjust params now) =
          (.panic, store.replace params.name (withBounds params record)) := by
  simp only [handleAutoscaleCommand, handleAutoscaleAdjust, hlookup]
  cases hreplicas : params.replicas with
  | none => exact .inl ⟨rfl, rfl⟩
  | some value =>
    simp only [Option.elim_some]
    cases hclamp : clamp value (withBounds params record).minReplicas
        (withBounds params record).maxReplicas with
    | none => exact .inr (.inr ⟨clamp_eq_none_iff.mp hclamp, rfl⟩)
    | some replicas => exact .inr (.inl ⟨value, replicas, rfl, hclamp, rfl⟩)

/-- An adjustment keeps the policies within their bounds exactly when it adjusts within. -/
theorem bounded_adjust_iff (hbounded : Bounded store) (params : AutoscaleAdjustParams) (now : ℤ) :
    Bounded (step store (.adjust params now)) ↔ AdjustsWithin store (.adjust params now) := by
  cases hlookup : store.lookup params.name with
  | none =>
    refine iff_of_true ?_ fun record hrecord ↦ ?_
    · simp only [step, handleAutoscaleCommand, handleAutoscaleAdjust, hlookup]
      exact hbounded
    · rw [hlookup] at hrecord
      cases hrecord
  | some record =>
    simp only [AdjustsWithin, hlookup, Option.some_inj, forall_eq']
    rw [step]
    rcases adjust_cases hlookup now with
      ⟨hnone, heffect⟩ | ⟨value, replicas, hvalue, hclamp, heffect⟩ | ⟨horder, heffect⟩
    · rw [heffect, bounded_replace_iff hbounded hlookup]
      constructor
      · intro hwithin
        exact ⟨UInt32.le_trans hwithin.1 hwithin.2, fun _ ↦ hwithin⟩
      · exact fun hadjusts ↦ hadjusts.2 hnone
    · obtain ⟨hlow, hhigh⟩ := clamp_spec hclamp
      rw [heffect, bounded_replace_iff hbounded hlookup]
      refine iff_of_true ⟨hlow, hhigh⟩ ⟨UInt32.le_trans hlow hhigh, fun hnone ↦ ?_⟩
      rw [hvalue] at hnone
      cases hnone
    · rw [heffect, bounded_replace_iff hbounded hlookup]
      refine iff_of_false (fun hwithin ↦ ?_) fun hadjusts ↦ horder hadjusts.1
      exact horder (UInt32.le_trans hwithin.1 hwithin.2)

/-- An adjustment within the bounds ends well. -/
theorem endsWell_adjust {params : AutoscaleAdjustParams} {now : ℤ}
    (hadjusts : AdjustsWithin store (.adjust params now)) :
    EndsWell store (.adjust params now) := by
  unfold EndsWell
  cases hlookup : store.lookup params.name with
  | none =>
    simp only [step, handleAutoscaleCommand, handleAutoscaleAdjust, hlookup]
    exact ⟨by simp, fun _ ↦ trivial⟩
  | some record =>
    rcases adjust_cases hlookup now with
      ⟨-, heffect⟩ | ⟨_, _, -, -, heffect⟩ | ⟨horder, -⟩
    · rw [heffect]
      exact ⟨by simp, fun hok ↦ absurd rfl hok⟩
    · rw [heffect]
      exact ⟨by simp, fun hok ↦ absurd rfl hok⟩
    · exact absurd (hadjusts record hlookup).1 horder

/-- From policies within their bounds, a command ends with policies within their bounds exactly when
it adjusts within. -/
theorem bounded_step_iff (hbounded : Bounded store) (command : Command) :
    Bounded (step store command) ↔ AdjustsWithin store command := by
  cases command with
  | create params now => exact iff_of_true (create_spec hbounded params now).1 trivial
  | adjust params now => exact bounded_adjust_iff hbounded params now
  | delete name => exact iff_of_true (delete_spec hbounded name).1 trivial

/-- In a run of commands from no policies, all policies are within their bounds at all times, no
command panics and none that fails changes a policy, if and only if every adjustment sets bounds in
the right order, and gives replicas or leaves the current ones within the bounds. -/
theorem replicas_bounded_iff (commands : List Command) :
    (Always step Bounded ∅ commands ∧ Throughout step EndsWell ∅ commands) ↔
      Throughout step AdjustsWithin ∅ commands := by
  have hstart : Bounded ∅ := by
    intro name record hlookup
    cases hlookup
  have hiff : Always step Bounded ∅ commands ↔ Throughout step AdjustsWithin ∅ commands :=
    always_iff_throughout hstart fun _ command hbounded ↦ bounded_step_iff hbounded command
  refine ⟨fun hboth ↦ hiff.mp hboth.1, fun hadjusts ↦ ⟨hiff.mpr hadjusts, ?_⟩⟩
  intro done command hdone
  have hbounded := hiff.mpr hadjusts done (prefix_of_concat hdone)
  have hadjusted := hadjusts done command hdone
  cases command with
  | create params now => exact (create_spec hbounded params now).2
  | adjust params now => exact endsWell_adjust hadjusted
  | delete name => exact (delete_spec hbounded name).2

/-- A minimum above the maximum is stored, and the next adjustment of the replicas panics. -/
theorem inverted_bounds_panic :
    let commands : List Command := [
      .create ⟨"web", "app", 1, 10, "target_utilization", none, none⟩ 0,
      .adjust ⟨"web", none, some 20, none, none⟩ 1]
    (handleAutoscaleCommand (commands.foldl step ∅)
        (.adjust ⟨"web", some 5, none, none, none⟩ 2)).1 = .panic ∧
      ¬Always step Bounded ∅ commands := by
  intro commands
  refine ⟨rfl, fun halways ↦ ?_⟩
  have hwithin := halways.last "web" _ rfl
  exact absurd hwithin.1 (by decide)

end Autoscale

end Clawbernetes.ClawNode
