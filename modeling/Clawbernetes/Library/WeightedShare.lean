import Mathlib.Algebra.BigOperators.Group.List.Basic
import Mathlib.Algebra.BigOperators.Intervals
import Mathlib.Algebra.BigOperators.Ring.Finset
import Mathlib.Algebra.Order.Field.Basic
import Mathlib.Algebra.Order.BigOperators.Group.Finset

/-!
# The weighted share of successes in a history

Every position of a history of successes and failures has a weight. The share of a history is the
weight of its successes out of the weight of all its positions, and it is zero for the history
without positions.

With positive weights the share is between zero and one, and one exactly when there are only
successes. A success at the end never lowers the share and a failure at the end never raises it
(`share_le_concat`, `share_concat_le`), whatever the weight of the new position. With weights that
do not decrease along the history a later success counts no less than an earlier one
(`share_le_swap`).
-/

set_option autoImplicit false
set_option relaxedAutoImplicit false

namespace Library.WeightedShare

variable {K : Type*} [Field K]

/-- The weight of the successes of a history, by the weights of the positions. -/
def passedWeight : (ℕ → K) → List Bool → K
  | _, [] => 0
  | weight, passed :: rest =>
    (if passed then weight 0 else 0) + passedWeight (fun position ↦ weight (position + 1)) rest

/-- The weight of the first positions. -/
def totalWeight (weight : ℕ → K) (count : ℕ) : K :=
  ∑ position ∈ Finset.range count, weight position

/-- The share of the successes in the weight of a history. -/
def share (weight : ℕ → K) (history : List Bool) : K :=
  passedWeight weight history / totalWeight weight history.length

/-! ### Sums -/

variable {weight : ℕ → K} {history : List Bool}

/-- The share of the history without positions. -/
theorem share_nil (weight : ℕ → K) : share weight [] = 0 := zero_div _

/-- The weight of one more position. -/
theorem totalWeight_succ (weight : ℕ → K) (count : ℕ) :
    totalWeight weight (count + 1) = totalWeight weight count + weight count :=
  Finset.sum_range_succ weight count

/-- The weight of two parts of a history. The positions of the second part come behind the first. -/
theorem passedWeight_append (weight : ℕ → K) (first second : List Bool) :
    passedWeight weight (first ++ second) = passedWeight weight first +
      passedWeight (fun position ↦ weight (first.length + position)) second := by
  induction first generalizing weight with
  | nil => simp [passedWeight]
  | cons passed rest ih =>
    simp only [List.cons_append, passedWeight, ih, List.length_cons, add_assoc]
    simp only [add_comm, add_left_comm]

/-- The weight of a history with one more outcome. -/
theorem passedWeight_concat (weight : ℕ → K) (history : List Bool) (passed : Bool) :
    passedWeight weight (history ++ [passed]) =
      passedWeight weight history + if passed then weight history.length else 0 := by
  rw [passedWeight_append, passedWeight, passedWeight, add_zero, add_zero]

/-- Weights with a common factor. -/
theorem passedWeight_mul (weight : ℕ → K) (factor : K) (history : List Bool) :
    passedWeight (fun position ↦ weight position * factor) history =
      passedWeight weight history * factor := by
  induction history generalizing weight with
  | nil => exact (zero_mul factor).symm
  | cons passed rest ih =>
    rw [passedWeight, passedWeight, ih, add_mul, ite_mul, zero_mul]

/-- A common factor of the weights does not change the share. -/
theorem share_mul {factor : K} (hfactor : factor ≠ 0) (weight : ℕ → K) (history : List Bool) :
    share (fun position ↦ weight position * factor) history = share weight history := by
  rw [share, passedWeight_mul, totalWeight, ← Finset.sum_mul, mul_div_mul_right _ _ hfactor]
  rfl

/-- Weights that are listed along a history. -/
theorem sum_map_zipIdx (weight : ℕ → K) (history : List Bool) (start : ℕ) :
    ((history.zipIdx start).map fun entry ↦ if entry.1 then weight entry.2 else 0).sum =
      passedWeight (fun position ↦ weight (start + position)) history := by
  induction history generalizing start with
  | nil => rfl
  | cons passed rest ih =>
    have hshift (position : ℕ) : start + 1 + position = start + (position + 1) := by omega
    rw [List.zipIdx_cons, List.map_cons, List.sum_cons, ih, passedWeight]
    simp only [add_zero, hshift]

/-- Weights that are listed for the first positions, counted from one. -/
theorem sum_map_range' (weight : ℕ → K) (count : ℕ) :
    ((List.range' 1 count).map weight).sum =
      totalWeight (fun position ↦ weight (position + 1)) count := by
  induction count with
  | zero => rfl
  | succ count ih =>
    rw [List.range'_concat, List.map_append, List.sum_append, ih, totalWeight_succ,
      List.map_singleton, List.sum_singleton, one_mul, Nat.add_comm 1]

/-- With the weight one at every position, the successes are counted. -/
theorem passedWeight_one (history : List Bool) :
    passedWeight (fun _ ↦ (1 : K)) history = (history.count true : ℕ) := by
  induction history with
  | nil => exact Nat.cast_zero.symm
  | cons passed rest ih =>
    rw [passedWeight, ih, List.count_cons, Nat.cast_add, add_comm]
    cases passed <;> simp

/-- With the weight one at every position, the positions are counted. -/
theorem totalWeight_one (count : ℕ) : totalWeight (fun _ ↦ (1 : K)) count = (count : ℕ) := by
  rw [totalWeight, Finset.sum_const, Finset.card_range, nsmul_one]

/-! ### Bounds -/

variable [LinearOrder K] [IsStrictOrderedRing K]

/-- The successes have no negative weight. -/
theorem passedWeight_nonneg (hweight : ∀ position, 0 ≤ weight position) (history : List Bool) :
    0 ≤ passedWeight weight history := by
  induction history generalizing weight with
  | nil => exact le_rfl
  | cons passed rest ih =>
    refine add_nonneg ?_ (ih fun position ↦ hweight (position + 1))
    split_ifs
    · exact hweight 0
    · exact le_rfl

/-- The successes have no more weight than all positions. -/
theorem passedWeight_le (hweight : ∀ position, 0 ≤ weight position) (history : List Bool) :
    passedWeight weight history ≤ totalWeight weight history.length := by
  induction history generalizing weight with
  | nil => exact le_rfl
  | cons passed rest ih =>
    rw [passedWeight, totalWeight, List.length_cons, Finset.sum_range_succ', add_comm]
    refine add_le_add (ih fun position ↦ hweight (position + 1)) ?_
    split_ifs
    · exact le_rfl
    · exact hweight 0

/-- The successes have all the weight exactly when there is no failure. -/
theorem passedWeight_eq_iff (hweight : ∀ position, 0 < weight position) (history : List Bool) :
    passedWeight weight history = totalWeight weight history.length ↔
      ∀ passed ∈ history, passed = true := by
  induction history generalizing weight with
  | nil => exact iff_of_true rfl fun passed hpassed ↦ (List.not_mem_nil hpassed).elim
  | cons passed rest ih =>
    have hrest := ih fun position ↦ hweight (position + 1)
    rw [List.forall_mem_cons, ← hrest, passedWeight, totalWeight, List.length_cons,
      Finset.sum_range_succ', add_comm]
    cases passed with
    | true => exact (add_left_inj _).trans (and_iff_right rfl).symm
    | false =>
      refine iff_of_false (ne_of_lt ?_) fun hboth ↦ Bool.false_ne_true hboth.1
      exact add_lt_add_of_le_of_lt
        (passedWeight_le (fun position ↦ (hweight (position + 1)).le) rest) (hweight 0)

/-- Positions with positive weights have a positive weight together. -/
theorem totalWeight_pos (hweight : ∀ position, 0 < weight position) {count : ℕ}
    (hcount : 0 < count) : 0 < totalWeight weight count :=
  Finset.sum_pos (fun position _ ↦ hweight position) (Finset.nonempty_range_iff.mpr hcount.ne')

/-! ### The share -/

/-- The share is not negative. -/
theorem share_nonneg (hweight : ∀ position, 0 ≤ weight position) (history : List Bool) :
    0 ≤ share weight history :=
  div_nonneg (passedWeight_nonneg hweight history)
    (Finset.sum_nonneg fun position _ ↦ hweight position)

/-- The share is at most one. -/
theorem share_le_one (hweight : ∀ position, 0 ≤ weight position) (history : List Bool) :
    share weight history ≤ 1 :=
  div_le_one_of_le₀ (passedWeight_le hweight history)
    (Finset.sum_nonneg fun position _ ↦ hweight position)

/-- The share is one exactly for the histories of successes only. -/
theorem share_eq_one_iff (hweight : ∀ position, 0 < weight position) :
    share weight history = 1 ↔ history ≠ [] ∧ ∀ passed ∈ history, passed = true := by
  rcases history.eq_nil_or_concat with rfl | ⟨before, last, rfl⟩
  · exact iff_of_false (by simp [share_nil]) fun hboth ↦ hboth.1 rfl
  · rw [and_iff_right (by simp), share,
      div_eq_one_iff_eq (totalWeight_pos hweight (by simp)).ne', passedWeight_eq_iff hweight]

/-- A success at the end of a history does not lower the share. -/
theorem share_le_concat (hweight : ∀ position, 0 < weight position) (history : List Bool) :
    share weight history ≤ share weight (history ++ [true]) := by
  have hpassed := passedWeight_nonneg (fun position ↦ (hweight position).le) history
  have hbound := passedWeight_le (fun position ↦ (hweight position).le) history
  have hnew := hweight history.length
  have hlonger : share weight (history ++ [true]) =
      (passedWeight weight history + weight history.length) /
        (totalWeight weight history.length + weight history.length) := by
    rw [share, passedWeight_concat, if_pos rfl, List.length_append, List.length_singleton,
      totalWeight_succ]
  rw [hlonger, share]
  rcases (hpassed.trans hbound).eq_or_lt with hzero | htotal
  · rw [← hzero, div_zero]
    exact div_nonneg (add_nonneg hpassed hnew.le) (add_nonneg le_rfl hnew.le)
  · rw [div_le_div_iff₀ htotal (add_pos htotal hnew), mul_add, add_mul, add_le_add_iff_left,
      mul_comm]
    exact mul_le_mul_of_nonneg_left hbound hnew.le

/-- A failure at the end of a history does not raise the share. -/
theorem share_concat_le (hweight : ∀ position, 0 < weight position) (history : List Bool) :
    share weight (history ++ [false]) ≤ share weight history := by
  have hpassed := passedWeight_nonneg (fun position ↦ (hweight position).le) history
  have hbound := passedWeight_le (fun position ↦ (hweight position).le) history
  have hnew := hweight history.length
  have hlonger : share weight (history ++ [false]) =
      passedWeight weight history /
        (totalWeight weight history.length + weight history.length) := by
    rw [share, passedWeight_concat, if_neg Bool.false_ne_true, add_zero, List.length_append,
      List.length_singleton, totalWeight_succ]
  rw [hlonger, share]
  rcases (hpassed.trans hbound).eq_or_lt with hzero | htotal
  · rw [hpassed.antisymm' (hbound.trans hzero.ge), zero_div, zero_div]
  · exact div_le_div_of_nonneg_left hpassed htotal (le_add_of_nonneg_right hnew.le)

/-- A success that changes places with the failure behind it does not lower the share, when the
weights do not decrease along the history. -/
theorem share_le_swap (hweight : ∀ position, 0 ≤ weight position) (hmonotone : Monotone weight)
    (before after : List Bool) :
    share weight (before ++ true :: false :: after) ≤
      share weight (before ++ false :: true :: after) := by
  have hlength : (before ++ true :: false :: after).length =
      (before ++ false :: true :: after).length := by simp
  rw [share, share, hlength]
  refine div_le_div_of_nonneg_right ?_ (Finset.sum_nonneg fun position _ ↦ hweight position)
  rw [passedWeight_append, passedWeight_append]
  refine add_le_add le_rfl ?_
  simp only [passedWeight, if_true, Bool.false_eq_true, if_false, zero_add]
  exact add_le_add (hmonotone (Nat.le_succ _)) le_rfl

end Library.WeightedShare
