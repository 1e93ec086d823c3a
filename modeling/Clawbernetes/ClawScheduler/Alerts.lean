import Clawbernetes.ClawScheduler.SnapshotStore
import Clawbernetes.Library.Runs

/-!
# Alert rules

`AlertStore` of `claw-scheduler`. A rule compares metric values with a threshold and is `ok`,
`firing` or `acknowledged`. `evaluate` decides with a test of two values, whether the rule was
firing: an acknowledged rule was not. A value that breaches its threshold therefore makes it fire
again, and a value that does not leaves it acknowledged.

Values are of any linearly ordered type. `state_call` says what a call makes of the state of one
rule, and `lifecycle_iff` which runs of evaluations and acknowledgements keep what a rule promises:
it is `ok` after an evaluation exactly when the value does not breach, and an acknowledgement lasts
for as long as the values breach.
-/

set_option autoImplicit false
set_option relaxedAutoImplicit false

namespace Clawbernetes.ClawScheduler

open Library.FiniteTable Library.Runs ClawNode

/-- The states of an alert rule. The source has a text there, and writes only these three. -/
inductive AlertState where
  | ok
  | firing
  | acknowledged
  deriving DecidableEq

/-- The text of a state. -/
def AlertState.text : AlertState → String
  | ok => "ok"
  | firing => "firing"
  | acknowledged => "acknowledged"

/-- `AlertRule`. -/
structure AlertRule (Value : Type*) where
  name : String
  metric : String
  condition : String
  threshold : Value
  state : AlertState
  createdAt : ℤ
  updatedAt : ℤ
  deriving DecidableEq

variable {Value : Type*} [LinearOrder Value]

/-- The comparison of `evaluate`. A condition other than the two never breaches. -/
def AlertRule.isFiring (rule : AlertRule Value) (value : Value) : Bool :=
  match rule.condition with
  | "above" => decide (rule.threshold < value)
  | "below" => decide (value < rule.threshold)
  | _ => false

/-- `AlertStore`. -/
abbrev AlertStore (Value : Type*) := SnapshotStore (AlertRule Value)

namespace AlertStore

/-- `AlertStore::create`, whose save succeeds. -/
def create (store : AlertStore Value) (rule : AlertRule Value) :
    Except String Unit × AlertStore Value :=
  SnapshotStore.create true "alert" store rule.name rule

/-- The new state of a rule is written at a clock reading and a snapshot is saved. -/
def enter (store : AlertStore Value) (name : String) (rule : AlertRule Value) (state : AlertState)
    (now : ℤ) : AlertStore Value :=
  let changed : AlertRule Value := { rule with state := state, updatedAt := now }
  { store with records := store.records.replace name changed }.snapshot true

/-- `AlertStore::evaluate`, with the clock reading as an argument. -/
def evaluate (store : AlertStore Value) (name : String) (value : Value) (now : ℤ) :
    Option (AlertRule Value) × AlertStore Value :=
  match store.get name with
  | none => (none, store)
  | some rule =>
    let wasFiring := decide (rule.state = .firing)
    let after :=
      if rule.isFiring value && !wasFiring then enter store name rule .firing now
      else if !rule.isFiring value && wasFiring then enter store name rule .ok now
      else store
    (after.get name, after)

/-- `AlertStore::acknowledge`. -/
def acknowledge (store : AlertStore Value) (name : String) (now : ℤ) :
    Except String Unit × AlertStore Value :=
  match store.get name with
  | none => (.error (notFound "alert" name), store)
  | some rule =>
    if rule.state ≠ .firing then
      (.error ("alert '" ++ name ++ "' is not firing (state: " ++ rule.state.text ++ ")"), store)
    else (.ok (), enter store name rule .acknowledged now)

end AlertStore

/-- A call of `evaluate` or `acknowledge`. -/
inductive AlertCall (Value : Type*) where
  | evaluate (name : String) (value : Value) (now : ℤ)
  | acknowledge (name : String) (now : ℤ)

namespace AlertStore

/-- The name of the rule that a call is about. -/
def target : AlertCall Value → String
  | .evaluate name _ _ | .acknowledge name _ => name

/-- The store after a call. -/
def call (store : AlertStore Value) : AlertCall Value → AlertStore Value
  | .evaluate name value now => (evaluate store name value now).2
  | .acknowledge name now => (acknowledge store name now).2

/-- The state of a rule in a store. -/
def stateOf (store : AlertStore Value) (name : String) : Option AlertState :=
  (store.get name).map AlertRule.state

/-! ### What one call makes of a rule -/

/-- The state that an evaluation makes of a state. -/
def stateAfter (state : AlertState) (isFiring : Bool) : AlertState :=
  if isFiring then .firing else if state = .firing then .ok else state

/-- The state that a call about a rule makes of its state. -/
def stateAfterCall (rule : AlertRule Value) (state : AlertState) : AlertCall Value → AlertState
  | .evaluate _ value _ => stateAfter state (rule.isFiring value)
  | .acknowledge _ _ => if state = .firing then .acknowledged else state

/-- The rule is in the store in a state, with the name, the condition and the threshold it was
created with. -/
def Holds (store : AlertStore Value) (rule : AlertRule Value) (state : AlertState) : Prop :=
  ∃ current, store.get rule.name = some current ∧ current.condition = rule.condition ∧
    current.threshold = rule.threshold ∧ current.state = state

omit [LinearOrder Value] in
/-- The state of a rule that is held. -/
theorem Holds.stateOf {store : AlertStore Value} {rule : AlertRule Value} {state : AlertState}
    (hholds : Holds store rule state) : stateOf store rule.name = some state := by
  obtain ⟨current, hcurrent, -, -, rfl⟩ := hholds
  rw [AlertStore.stateOf, hcurrent]
  rfl

omit [LinearOrder Value] in
/-- A state that is entered is held. -/
theorem holds_enter {store : AlertStore Value} {rule current : AlertRule Value}
    (hcurrent : store.get rule.name = some current)
    (hcondition : current.condition = rule.condition)
    (hthreshold : current.threshold = rule.threshold) (state : AlertState) (now : ℤ) :
    Holds (enter store rule.name current state now) rule state := by
  have hmem : rule.name ∈ store.records := AList.lookup_isSome.mp (by
    change (store.get rule.name).isSome = true
    rw [hcurrent]
    rfl)
  exact ⟨_, lookup_replace hmem _, hcondition, hthreshold, rfl⟩

omit [LinearOrder Value] in
/-- Entering a state of another rule is not seen. -/
theorem get_enter_ne {store : AlertStore Value} {name other : String} (hother : other ≠ name)
    (rule : AlertRule Value) (state : AlertState) (now : ℤ) :
    (enter store name rule state now).get other = store.get other :=
  lookup_replace_ne hother _

/-- The comparison depends on the condition and the threshold only. -/
theorem isFiring_congr {first second : AlertRule Value}
    (hcondition : first.condition = second.condition)
    (hthreshold : first.threshold = second.threshold) (value : Value) :
    first.isFiring value = second.isFiring value := by
  unfold AlertRule.isFiring
  rw [hcondition, hthreshold]

/-- A call about another rule is not seen. -/
theorem get_call_ne {store : AlertStore Value} {next : AlertCall Value} {other : String}
    (hother : other ≠ target next) : (call store next).get other = store.get other := by
  cases next with
  | evaluate name value now =>
    simp only [call, evaluate]
    cases store.get name with
    | none => rfl
    | some rule =>
      dsimp only
      split_ifs
      · exact get_enter_ne hother rule _ now
      · exact get_enter_ne hother rule _ now
      · rfl
  | acknowledge name now =>
    simp only [call, acknowledge]
    cases store.get name with
    | none => rfl
    | some rule =>
      dsimp only
      split_ifs
      · rfl
      · exact get_enter_ne hother rule _ now

/-- A call about another rule keeps a rule in its state. -/
theorem holds_call_ne {store : AlertStore Value} {rule : AlertRule Value} {state : AlertState}
    (hholds : Holds store rule state) {next : AlertCall Value} (hother : rule.name ≠ target next) :
    Holds (call store next) rule state := by
  obtain ⟨current, hcurrent, hterms⟩ := hholds
  exact ⟨current, (get_call_ne hother).trans hcurrent, hterms⟩

/-- What a call about a rule makes of it. -/
theorem holds_call_self {store : AlertStore Value} {rule : AlertRule Value} {state : AlertState}
    (hholds : Holds store rule state) {next : AlertCall Value} (hself : target next = rule.name) :
    Holds (call store next) rule (stateAfterCall rule state next) := by
  obtain ⟨current, hcurrent, hcondition, hthreshold, hstate⟩ := hholds
  have hsame : Holds store rule state := ⟨current, hcurrent, hcondition, hthreshold, hstate⟩
  have henter := fun state now ↦ holds_enter hcurrent hcondition hthreshold state now
  cases next with
  | evaluate name value now =>
    obtain rfl : name = rule.name := hself
    have hfiring := isFiring_congr hcondition hthreshold value
    simp only [call, evaluate, hcurrent, stateAfterCall, stateAfter, hfiring, hstate]
    cases rule.isFiring value with
    | true => cases state with
      | firing => exact hsame
      | ok | acknowledged => exact henter .firing now
    | false => cases state with
      | firing => exact henter .ok now
      | ok | acknowledged => exact hsame
  | acknowledge name now =>
    obtain rfl : name = rule.name := hself
    simp only [call, acknowledge, hcurrent, stateAfterCall, hstate]
    cases state with
    | firing => exact henter .acknowledged now
    | ok | acknowledged => exact hsame

/-- What an evaluation of a rule makes of it. -/
theorem holds_evaluate {store : AlertStore Value} {rule : AlertRule Value} {state : AlertState}
    (hholds : Holds store rule state) (value : Value) (now : ℤ) :
    Holds (call store (.evaluate rule.name value now)) rule
      (stateAfter state (rule.isFiring value)) :=
  holds_call_self hholds rfl

/-- The rule is in the store, in some state. -/
def Held (rule : AlertRule Value) (store : AlertStore Value) : Prop :=
  ∃ state, Holds store rule state

/-- A rule that is in the store stays there. -/
theorem held_run {store : AlertStore Value} {rule : AlertRule Value} (hheld : Held rule store)
    (calls : List (AlertCall Value)) : Always call (Held rule) store calls := by
  refine always_of_step hheld (fun reached next hbefore ↦ ?_) calls
  obtain ⟨state, hstate⟩ := hbefore
  by_cases hself : target next = rule.name
  · exact ⟨_, holds_call_self hstate hself⟩
  · exact ⟨state, holds_call_ne hstate (Ne.symm hself)⟩

/-! ### The life of a rule -/

/-- The value breaches the threshold of the rule. -/
def Breaches (rule : AlertRule Value) (value : Value) : Prop :=
  rule.condition = "above" ∧ rule.threshold < value ∨
    rule.condition = "below" ∧ value < rule.threshold

/-- The comparison of the code is the breach, for rules with one of the two conditions. -/
theorem isFiring_iff {rule : AlertRule Value}
    (hcondition : rule.condition = "above" ∨ rule.condition = "below") (value : Value) :
    rule.isFiring value = true ↔ Breaches rule value := by
  unfold AlertRule.isFiring Breaches
  rcases hcondition with hcondition | hcondition <;> simp [hcondition]

/-- After every evaluation of the rule, it is ok exactly when the value does not breach. -/
def OkUnlessBreached (rule : AlertRule Value) (start : AlertStore Value)
    (calls : List (AlertCall Value)) : Prop :=
  Throughout call
    (fun store next ↦ ∀ value now, next = .evaluate rule.name value now →
      (stateOf (call store next) rule.name = some .ok ↔ ¬ Breaches rule value))
    start calls

/-- Once acknowledged, the rule stays acknowledged as long as every value it is evaluated on
breaches. -/
def AcknowledgementLasts (rule : AlertRule Value) (start : AlertStore Value)
    (calls : List (AlertCall Value)) : Prop :=
  ∀ before middle, before ++ middle <+: calls →
    stateOf (before.foldl call start) rule.name = some .acknowledged →
      (∀ next ∈ middle, ∀ value now, next = .evaluate rule.name value now →
        Breaches rule value) →
        stateOf ((before ++ middle).foldl call start) rule.name = some .acknowledged

/-- The rule is never evaluated while it is acknowledged. -/
def UntouchedWhileAcknowledged (rule : AlertRule Value) (start : AlertStore Value)
    (calls : List (AlertCall Value)) : Prop :=
  Throughout call
    (fun store next ↦ ∀ value now, next = .evaluate rule.name value now →
      stateOf store rule.name ≠ some .acknowledged)
    start calls

/-- An evaluation leaves a rule ok exactly when the value does not breach, unless the rule was
acknowledged. -/
theorem stateAfter_eq_ok_iff {state : AlertState} (hstate : state ≠ .acknowledged)
    (isFiring : Bool) : stateAfter state isFiring = .ok ↔ isFiring = false := by
  cases state with
  | acknowledged => exact absurd rfl hstate
  | ok | firing => cases isFiring <;> decide

/-- Where a rule is never evaluated while it is acknowledged, it stays acknowledged. -/
theorem acknowledgementLasts_of_untouched {rule : AlertRule Value} {start : AlertStore Value}
    {calls : List (AlertCall Value)} (hheld : Held rule start)
    (huntouched : UntouchedWhileAcknowledged rule start calls) :
    AcknowledgementLasts rule start calls := by
  intro before middle
  induction middle using List.reverseRecOn with
  | nil => intro _ hbefore _; rwa [List.append_nil]
  | append_singleton middle next ih =>
    intro hdone hbefore hbreaches
    rw [← List.append_assoc] at hdone ⊢
    have hreached := ih (prefix_of_concat hdone) hbefore fun other hother ↦
      hbreaches other (List.mem_append_left [next] hother)
    obtain ⟨state, hstate⟩ := held_run hheld calls _ (prefix_of_concat hdone)
    obtain rfl : state = .acknowledged :=
      Option.some_inj.mp (hstate.stateOf.symm.trans hreached)
    rw [List.foldl_concat]
    by_cases hself : target next = rule.name
    · have hafter := holds_call_self hstate hself
      cases next with
      | evaluate name value now =>
        obtain rfl : name = rule.name := hself
        exact absurd hreached (huntouched _ _ hdone value now rfl)
      | acknowledge name now => exact hafter.stateOf
    · exact (holds_call_ne hstate (Ne.symm hself)).stateOf

/-- Along every run of evaluations and acknowledgements in a store that holds a rule with one of the
two conditions, the rule keeps its two promises if and only if it is never evaluated while it is
acknowledged. -/
theorem promises_iff_of_held {rule : AlertRule Value} {start : AlertStore Value}
    (hcondition : rule.condition = "above" ∨ rule.condition = "below") (hheld : Held rule start)
    (calls : List (AlertCall Value)) :
    OkUnlessBreached rule start calls ∧ AcknowledgementLasts rule start calls ↔
      UntouchedWhileAcknowledged rule start calls := by
  constructor
  · rintro ⟨hok, hlasts⟩ done next hdone value now rfl hacknowledged
    obtain ⟨state, hstate⟩ := held_run hheld calls done (prefix_of_concat hdone)
    obtain rfl : state = .acknowledged :=
      Option.some_inj.mp (hstate.stateOf.symm.trans hacknowledged)
    have hafter := (holds_evaluate hstate value now).stateOf
    by_cases hbreach : Breaches rule value
    · -- The acknowledgement does not last: the rule fires again.
      have hlasting := hlasts done [.evaluate rule.name value now] hdone hacknowledged (by
        rintro next hnext other time rfl
        obtain rfl : other = value := by
          have hsame := List.mem_singleton.mp hnext
          injection hsame
        exact hbreach)
      rw [List.foldl_concat, hafter, stateAfter,
        if_pos ((isFiring_iff hcondition value).mpr hbreach)] at hlasting
      cases hlasting
    · -- The rule is not ok: it stays acknowledged.
      have hcleared := (hok done _ hdone value now rfl).mpr hbreach
      rw [hafter, stateAfter,
        if_neg ((isFiring_iff hcondition value).not.mpr hbreach)] at hcleared
      cases hcleared
  · intro huntouched
    refine ⟨?_, acknowledgementLasts_of_untouched hheld huntouched⟩
    rintro done next hdone value now rfl
    obtain ⟨state, hstate⟩ := held_run hheld calls done (prefix_of_concat hdone)
    have hnot : state ≠ .acknowledged := by
      rintro rfl
      exact huntouched done _ hdone value now rfl hstate.stateOf
    have hafter := (holds_evaluate hstate value now).stateOf
    rw [hafter, Option.some_inj, stateAfter_eq_ok_iff hnot,
      ← isFiring_iff hcondition value, Bool.not_eq_true]

omit [LinearOrder Value] in
/-- A rule that was created is held in the state it was created in. -/
theorem holds_create {store : AlertStore Value} {rule : AlertRule Value}
    (hcreated : (create store rule).1 = .ok ()) :
    Holds (create store rule).2 rule rule.state := by
  unfold create SnapshotStore.create at hcreated ⊢
  rcases createRecord_cases "alert" store.records rule.name rule with
    ⟨-, hresult⟩ | ⟨-, hresult⟩
  · rw [hresult] at hcreated
    cases hcreated
  · rw [hresult]
    exact ⟨rule, AList.lookup_insert store.records, rfl, rfl, rfl⟩

/-- For every rule with condition `above` or `below` that is created in state ok, in any store, and
every run of evaluations and acknowledgements after it: the rule is ok after an evaluation exactly
when the value does not breach, and stays acknowledged as long as the values breach, if and only if
it is never evaluated while it is acknowledged. -/
theorem alert_promises_iff (store : AlertStore Value) (rule : AlertRule Value)
    (hcondition : rule.condition = "above" ∨ rule.condition = "below") (hstate : rule.state = .ok)
    (hcreated : (create store rule).1 = .ok ()) (calls : List (AlertCall Value)) :
    stateOf (create store rule).2 rule.name = some .ok ∧
      (OkUnlessBreached rule (create store rule).2 calls ∧
          AcknowledgementLasts rule (create store rule).2 calls ↔
        UntouchedWhileAcknowledged rule (create store rule).2 calls) := by
  have hholds := holds_create hcreated
  refine ⟨?_, promises_iff_of_held hcondition ⟨rule.state, hholds⟩ calls⟩
  rw [hholds.stateOf, hstate]

/-- A rule that fires above ten. -/
def aboveTen : AlertRule ℕ :=
  ⟨"high-cpu", "cpu", "above", 10, .ok, 0, 0⟩

/-- The equivalence applies to a rule created in a fresh store. -/
theorem alert_promises_iff_aboveTen :
    let start := (create SnapshotStore.fresh aboveTen).2
    let calls : List (AlertCall ℕ) :=
      [.evaluate "high-cpu" 15 1, .acknowledge "high-cpu" 2, .evaluate "high-cpu" 20 3]
    stateOf start "high-cpu" = some .ok ∧
      (OkUnlessBreached aboveTen start calls ∧ AcknowledgementLasts aboveTen start calls ↔
        UntouchedWhileAcknowledged aboveTen start calls) :=
  alert_promises_iff SnapshotStore.fresh aboveTen (Or.inl rfl) rfl rfl _

/-- An acknowledged rule fires again on the next value that breaches, and is not ok after a value
that does not. -/
theorem acknowledgement_is_lost :
    let start := (create SnapshotStore.fresh aboveTen).2
    ¬ AcknowledgementLasts aboveTen start
        [.evaluate "high-cpu" 15 1, .acknowledge "high-cpu" 2, .evaluate "high-cpu" 20 3] ∧
      ¬ OkUnlessBreached aboveTen start
        [.evaluate "high-cpu" 15 1, .acknowledge "high-cpu" 2, .evaluate "high-cpu" 5 3] := by
  refine ⟨fun hlasts ↦ ?_, fun hok ↦ ?_⟩
  · have hstays := hlasts [.evaluate "high-cpu" 15 1, .acknowledge "high-cpu" 2]
      [.evaluate "high-cpu" 20 3] (List.prefix_refl _) (by decide +kernel) (by
        rintro next hnext value now rfl
        obtain rfl : value = 20 := by
          have hsame := List.mem_singleton.mp hnext
          injection hsame
        exact Or.inl ⟨rfl, by decide⟩)
    exact absurd hstays (by decide +kernel)
  · have hcleared := (hok [.evaluate "high-cpu" 15 1, .acknowledge "high-cpu" 2]
      (.evaluate "high-cpu" 5 3) (List.prefix_refl _) 5 3 rfl).mpr (by
        rintro (⟨-, habove⟩ | ⟨hbelow, -⟩)
        · exact absurd habove (by decide)
        · exact absurd hbelow (by decide))
    exact absurd hcleared (by decide +kernel)

end AlertStore

end Clawbernetes.ClawScheduler
