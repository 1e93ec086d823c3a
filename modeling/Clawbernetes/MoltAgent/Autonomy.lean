import Mathlib.Algebra.Order.Ring.Nat
import Mathlib.Tactic.Common

/-!
# Autonomy modes, decisions and their arithmetic

The part of `autonomy/mod.rs` that the decisions of providers and buyers share: the autonomy mode,
the outcome of a decision and the thresholds of automatic decisions.

Decisions are computed in `f64`. `FloatArithmetic` lists the operations that the crate uses, so that
a decision is one definition for every arithmetic: `Float` is the arithmetic of the source, and a
statement that holds for every arithmetic does not depend on rounding.
-/

set_option autoImplicit false
set_option relaxedAutoImplicit false

namespace Clawbernetes.MoltAgent

/-- The operations on `f64` values that the crate uses. -/
class FloatArithmetic (F : Type) extends Add F, Sub F, Mul F, Div F, OfScientific F where
  /-- The conversion `as f64` of an integer. -/
  ofInt : ℤ → F
  /-- The comparison `<`, which is `partial_cmp` returning `Less`. -/
  lt : F → F → Bool
  /-- `f64::min`. -/
  min : F → F → F
  /-- `f64::ceil` followed by `as u64`. -/
  ceilWord : F → UInt64

/-- The arithmetic of the source. -/
instance : FloatArithmetic Float where
  ofInt := Float.ofInt
  lt := fun first second ↦ decide (first < second)
  min := fun first second ↦
    if first.isNaN then second
    else if second.isNaN then first
    else if second < first then second
    else first
  ceilWord := fun value ↦ value.ceil.toUInt64

/-- `AutonomyMode`. -/
inductive AutonomyMode where
  | conservative
  | moderate
  | aggressive
  deriving DecidableEq

/-- `AutonomyMode::allows_counter_offers`. -/
def AutonomyMode.allowsCounterOffers : AutonomyMode → Bool
  | .conservative => false
  | .moderate => true
  | .aggressive => true

/-- `JobDecision`. -/
inductive JobDecision where
  | accept
  | reject (reason : String)
  | needApproval (reason : String)
  | counterOffer (proposedPrice : UInt64) (reason : String)
  deriving DecidableEq

/-- `JobDecision::is_reject`. -/
def JobDecision.isReject : JobDecision → Bool
  | .reject _ => true
  | _ => false

/-- `DecisionThresholds`. -/
structure DecisionThresholds where
  maxAutoAcceptPrice : UInt64
  minReputation : UInt8
  maxDurationSecs : UInt64
  deriving DecidableEq

/-! ### Selection -/

/-- `Iterator::max_by` with a comparison that is `Greater` exactly when `greater` says so: of two
elements of which neither is greater, the later one is kept. -/
def maxBy {Item : Type} (greater : Item → Item → Bool) : List Item → Option Item
  | [] => none
  | first :: rest =>
    some (rest.foldl (fun best next ↦ if greater best next then best else next) first)

/-- The selected element is one of the list. -/
theorem mem_of_maxBy {Item : Type} {greater : Item → Item → Bool} {items : List Item} {item : Item}
    (hmax : maxBy greater items = some item) : item ∈ items := by
  cases items with
  | nil => cases hmax
  | cons first rest =>
    obtain rfl : rest.foldl (fun best next ↦ if greater best next then best else next) first =
      item := Option.some.inj hmax
    induction rest generalizing first with
    | nil => exact List.mem_singleton_self first
    | cons next rest ih =>
      rw [List.foldl_cons]
      split_ifs
      · rcases List.mem_cons.mp (ih first rfl) with hfirst | hrest
        · rw [hfirst]
          exact List.mem_cons_self
        · exact List.mem_cons_of_mem _ (List.mem_cons_of_mem _ hrest)
      · exact List.mem_cons_of_mem _ (ih next rfl)

end Clawbernetes.MoltAgent
