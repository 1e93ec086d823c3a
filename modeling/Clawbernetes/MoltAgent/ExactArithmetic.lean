import Clawbernetes.Library.LastMaximum
import Clawbernetes.MoltAgent.Autonomy
import Mathlib.Algebra.Order.Floor.Semiring
import Mathlib.Data.Rat.Floor

/-!
# The decisions in exact arithmetic

The arithmetic of the decisions with rational numbers in place of `f64` values. What a decision
comes to there is what it says apart from rounding. The conversion of a number to a word still stops
at the largest word (`ceilWord_le_iff`).

The scores weigh the shares of a bound that an amount leaves (`leftShare_lt`, `leftShare_le`), and a
selection by an exact score is the last maximum of the score (`maxBy_eq_some_iff`).
-/

set_option autoImplicit false
set_option relaxedAutoImplicit false

namespace Clawbernetes.MoltAgent

open Library.LastMaximum

/-- The arithmetic of exact numbers. -/
instance : FloatArithmetic ℚ where
  ofInt := fun value ↦ (value : ℚ)
  lt := fun first second ↦ decide (first < second)
  min := fun first second ↦ if second < first then second else first
  ceilWord := fun value ↦ UInt64.ofNat (Nat.min ⌈value⌉.toNat (2 ^ 64 - 1))

/-- The comparison is that of the numbers. -/
theorem exact_lt_iff {first second : ℚ} : FloatArithmetic.lt first second = true ↔ first < second :=
  decide_eq_true_iff

/-- The smaller of two numbers. -/
theorem exact_min (first second : ℚ) : FloatArithmetic.min first second = min first second := by
  change (if second < first then second else first) = min first second
  split_ifs with hlt
  · exact (min_eq_right hlt.le).symm
  · exact (min_eq_left (not_lt.mp hlt)).symm

/-- The number of a word is not too large. -/
theorem cast_word_le (word : UInt64) : (word.toNat : ℚ) ≤ 2 ^ 64 - 1 := by
  have hword : word.toNat ≤ 2 ^ 64 - 1 := Nat.le_sub_one_of_lt word.toNat_lt
  calc (word.toNat : ℚ) ≤ ((2 ^ 64 - 1 : ℕ) : ℚ) := Nat.cast_le.mpr hword
    _ = 2 ^ 64 - 1 := by norm_num

/-- The word of a number that is not too large is the least word that reaches it. -/
theorem ceilWord_le_iff {value : ℚ} (hvalue : value ≤ 2 ^ 64 - 1) (word : UInt64) :
    FloatArithmetic.ceilWord value ≤ word ↔ value ≤ (word.toNat : ℚ) := by
  have hceil : ⌈value⌉.toNat ≤ 2 ^ 64 - 1 := by
    rw [Int.toNat_le, Int.ceil_le]
    exact hvalue.trans (by norm_num)
  have hword : (FloatArithmetic.ceilWord value).toNat = ⌈value⌉.toNat := by
    change (UInt64.ofNat (min ⌈value⌉.toNat (2 ^ 64 - 1))).toNat = ⌈value⌉.toNat
    rw [UInt64.toNat_ofNat', Nat.min_eq_left hceil]
    omega
  rw [UInt64.le_iff_toNat_le, hword, Int.toNat_le, Int.ceil_le]
  norm_cast

/-! ### Shares of a bound -/

/-- The share of a bound that an amount leaves: all of it for an amount of zero, nothing from the
bound on, and nothing of a bound of zero. -/
def leftShare (amount bound : ℕ) : ℚ :=
  if bound = 0 then 0 else 1 - min ((amount : ℚ) / bound) 1

/-- From the bound on nothing is left. -/
theorem leftShare_of_le {amount bound : ℕ} (hbound : bound ≤ amount) :
    leftShare amount bound = 0 := by
  unfold leftShare
  split_ifs with hzero
  · rfl
  · have hpositive : (0 : ℚ) < bound := Nat.cast_pos.mpr (Nat.pos_of_ne_zero hzero)
    have hratio : 1 ≤ (amount : ℚ) / bound := by
      rw [one_le_div hpositive]
      exact Nat.cast_le.mpr hbound
    rw [min_eq_right hratio, sub_self]

/-- Within the bound the share that is left is a difference. -/
theorem leftShare_of_lt {amount bound : ℕ} (hbound : amount < bound) :
    leftShare amount bound = 1 - (amount : ℚ) / bound := by
  have hpositive : (0 : ℚ) < bound := Nat.cast_pos.mpr (Nat.zero_lt_of_lt hbound)
  have hratio : (amount : ℚ) / bound ≤ 1 := by
    rw [div_le_one hpositive]
    exact Nat.cast_le.mpr hbound.le
  rw [leftShare, if_neg (Nat.ne_zero_of_lt hbound), min_eq_left hratio]

/-- Nothing is left at the bound only. -/
theorem leftShare_pos {amount bound : ℕ} (hbound : amount < bound) :
    0 < leftShare amount bound := by
  have hpositive : (0 : ℚ) < bound := Nat.cast_pos.mpr (Nat.zero_lt_of_lt hbound)
  rw [leftShare_of_lt hbound, sub_pos, div_lt_one hpositive]
  exact Nat.cast_lt.mpr hbound

/-- A smaller amount that is within the bound leaves a greater share. -/
theorem leftShare_lt {smaller greater bound : ℕ} (hlt : smaller < greater)
    (hbound : smaller < bound) : leftShare greater bound < leftShare smaller bound := by
  rcases Nat.lt_or_ge greater bound with hgreater | hgreater
  · have hpositive : (0 : ℚ) < bound := Nat.cast_pos.mpr (Nat.zero_lt_of_lt hbound)
    rw [leftShare_of_lt hgreater, leftShare_of_lt hbound]
    exact sub_lt_sub_left (div_lt_div_of_pos_right (Nat.cast_lt.mpr hlt) hpositive) 1
  · rw [leftShare_of_le hgreater]
    exact leftShare_pos hbound

/-- A smaller amount leaves no smaller share. -/
theorem leftShare_le {smaller greater : ℕ} (hle : smaller ≤ greater) (bound : ℕ) :
    leftShare greater bound ≤ leftShare smaller bound := by
  rcases Nat.lt_or_ge smaller bound with hbound | hbound
  · rcases hle.lt_or_eq with hlt | rfl
    · exact (leftShare_lt hlt hbound).le
    · exact le_refl _
  · rw [leftShare_of_le hbound, leftShare_of_le (hbound.trans hle)]

/-- Nothing is left of a bound of zero. -/
theorem leftShare_zero (amount : ℕ) : leftShare amount 0 = 0 :=
  leftShare_of_le (Nat.zero_le amount)

/-- The ratios of the scores are shares of a bound. -/
theorem one_sub_min_eq_leftShare {bound : UInt64} (hbound : bound ≠ 0) (amount : UInt64) :
    (1.0 : ℚ) - FloatArithmetic.min
        (FloatArithmetic.ofInt amount.toNat / FloatArithmetic.ofInt bound.toNat) 1.0 =
      leftShare amount.toNat bound.toNat := by
  have hone : (1.0 : ℚ) = 1 := by norm_num
  have hnat : bound.toNat ≠ 0 := fun hzero ↦ hbound (UInt64.toNat_inj.mp hzero)
  rw [exact_min, hone, leftShare, if_neg hnat]
  rfl

/-! ### Selections -/

variable {Item : Type} {score : Item → ℚ} {items : List Item}

/-- A selection by an exact score is the last of the items with the greatest score. -/
theorem maxBy_eq_some_iff {item : Item} :
    maxBy (fun best next ↦ FloatArithmetic.lt (score next) (score best)) items = some item ↔
      IsLastMax score items item := by
  cases items with
  | nil => exact iff_of_false nofun fun hmax ↦ absurd hmax.mem List.not_mem_nil
  | cons first rest =>
    have hloop : IsLastMax score (first :: rest) _ := isLastMax_foldl first rest
    rw [maxBy, Option.some_inj]
    simp only [exact_lt_iff]
    constructor
    · rintro rfl
      exact hloop
    · exact hloop.unique

/-- A selection fails only when there is nothing to select from. -/
theorem maxBy_eq_none_iff {greater : Item → Item → Bool} :
    maxBy greater items = none ↔ items = [] := by
  cases items with
  | nil => exact iff_of_true rfl rfl
  | cons first rest => exact iff_of_false nofun (List.cons_ne_nil first rest)

end Clawbernetes.MoltAgent
