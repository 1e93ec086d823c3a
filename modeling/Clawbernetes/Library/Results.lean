import Mathlib.Data.List.Forall2
import Mathlib.Tactic.SplitIfs

/-!
# Results and their errors

When a computation in `Except` that is put together from steps succeeds: every step does
(`bind_eq_ok_iff`), the renaming of an error changes nothing (`mapError_eq_ok_iff`), a check that
ends in an error is passed (`check_eq_ok_iff`), and a step for each item of a list succeeds for all
of them (`mapM_eq_ok_iff`).
-/

set_option autoImplicit false
set_option relaxedAutoImplicit false

namespace Library.Results

variable {Value Next : Type} {Error Other : Type*}

/-- What follows a step that succeeded. -/
theorem ok_bind {Failure : Type} (value : Value) (next : Value → Except Failure Next) :
    (Except.ok value >>= next) = next value := rfl

/-- A sequence succeeds when its first step does and what follows does. -/
theorem bind_eq_ok_iff {Failure : Type} {first : Except Failure Value}
    {next : Value → Except Failure Next} {result : Next} :
    (first >>= next) = .ok result ↔ ∃ value, first = .ok value ∧ next value = .ok result := by
  cases first with
  | error failure => exact iff_of_false nofun (by rintro ⟨value, hvalue, -⟩; cases hvalue)
  | ok found =>
    rw [ok_bind]
    constructor
    · exact fun hnext ↦ ⟨found, rfl, hnext⟩
    · rintro ⟨value, hvalue, hnext⟩
      rwa [Except.ok.inj hvalue]

/-- A step succeeds with the same values when its errors are renamed. -/
theorem mapError_eq_ok_iff {first : Except Error Value} {rename : Error → Other} {value : Value} :
    first.mapError rename = .ok value ↔ first = .ok value := by
  cases first with
  | error failure => exact iff_of_false nofun nofun
  | ok found =>
    constructor
    · exact fun hok ↦ congrArg _ (Except.ok.inj hok)
    · exact fun hok ↦ congrArg _ (Except.ok.inj hok)

/-- A check that ends in an error is passed when its condition does not hold. -/
theorem check_eq_ok_iff {condition : Prop} [Decidable condition] {failure : Error}
    {rest : Except Error Value} {value : Value} :
    (if condition then .error failure else rest) = .ok value ↔ ¬ condition ∧ rest = .ok value := by
  split_ifs with hcondition
  · exact iff_of_false nofun fun hboth ↦ hboth.1 hcondition
  · exact (and_iff_right hcondition).symm

/-- A step for each item succeeds with the values of all items. -/
theorem mapM_eq_ok_iff {Item Failure : Type} {step : Item → Except Failure Value}
    {items : List Item} {values : List Value} :
    items.mapM step = .ok values ↔
      List.Forall₂ (fun item value ↦ step item = .ok value) items values := by
  induction items generalizing values with
  | nil =>
    rw [List.mapM_nil, List.forall₂_nil_left_iff]
    exact ⟨fun hok ↦ (Except.ok.inj hok).symm, fun hnil ↦ hnil ▸ rfl⟩
  | cons item rest ih =>
    rw [List.mapM_cons, bind_eq_ok_iff, List.forall₂_cons_left_iff]
    simp only [bind_eq_ok_iff, ih]
    constructor
    · rintro ⟨value, hvalue, others, hothers, hlist⟩
      exact ⟨value, others, hvalue, hothers, (Except.ok.inj hlist).symm⟩
    · rintro ⟨value, others, hvalue, hothers, rfl⟩
      exact ⟨value, hvalue, others, hothers, rfl⟩

/-- Every item of a list has a value exactly when the list has values. -/
theorem exists_forall₂_iff {Item : Type*} {relation : Item → Value → Prop} {items : List Item} :
    (∃ values, List.Forall₂ relation items values) ↔
      ∀ item ∈ items, ∃ value, relation item value := by
  induction items with
  | nil => exact iff_of_true ⟨[], .nil⟩ fun item hitem ↦ absurd hitem List.not_mem_nil
  | cons item rest ih =>
    rw [List.forall_mem_cons, ← ih]
    constructor
    · rintro ⟨_, _ | ⟨hvalue, hrest⟩⟩
      exact ⟨⟨_, hvalue⟩, _, hrest⟩
    · rintro ⟨⟨value, hvalue⟩, values, hrest⟩
      exact ⟨value :: values, .cons hvalue hrest⟩

end Library.Results
