import Mathlib.Algebra.Order.Ring.Nat
import Mathlib.Tactic.Common

/-!
# Saturating arithmetic of machine words

The saturating operations of unsigned 32-bit and 64-bit words, each with the equation that reads it
in `ℕ`. A proof about words is a proof about their values: `toNat_saturatingSub64`,
`toNat_saturatingAdd64` and `toNat_saturatingSub32` turn the operations into arithmetic that `omega`
decides, and `toNat_add64` and `toNat_add32` say when a wrapping addition is exact. An addition
that was checked against what is left of a total stays within the total (`add64_of_le_rest`), and so
does a count below its maximum (`succ32_of_lt`).
-/

set_option autoImplicit false
set_option relaxedAutoImplicit false

namespace Library.MachineWords

/-- The difference of two words, cut off at zero. -/
def saturatingSub64 (first second : UInt64) : UInt64 :=
  if second ≤ first then first - second else 0

/-- The sum of two words, cut off at the largest word. -/
def saturatingAdd64 (first second : UInt64) : UInt64 :=
  if first.toNat + second.toNat < 2 ^ 64 then first + second else UInt64.ofNat (2 ^ 64 - 1)

/-- The difference of two 32-bit words, cut off at zero. -/
def saturatingSub32 (first second : UInt32) : UInt32 :=
  if second ≤ first then first - second else 0

/-- The smaller of two words. -/
def min64 (first second : UInt64) : UInt64 := if second < first then second else first

/-- Saturating subtraction is truncated subtraction of values. -/
@[simp] theorem toNat_saturatingSub64 (first second : UInt64) :
    (saturatingSub64 first second).toNat = first.toNat - second.toNat := by
  unfold saturatingSub64
  split_ifs with hle
  · exact UInt64.toNat_sub_of_le _ _ hle
  · rw [UInt64.le_iff_toNat_le] at hle
    rw [UInt64.toNat_zero]
    omega

/-- Saturating subtraction of 32-bit words is truncated subtraction of values. -/
@[simp] theorem toNat_saturatingSub32 (first second : UInt32) :
    (saturatingSub32 first second).toNat = first.toNat - second.toNat := by
  unfold saturatingSub32
  split_ifs with hle
  · exact UInt32.toNat_sub_of_le _ _ hle
  · rw [UInt32.le_iff_toNat_le] at hle
    rw [UInt32.toNat_zero]
    omega

/-- The smaller of two words is the one with the smaller value. -/
@[simp] theorem toNat_min64 (first second : UInt64) :
    (min64 first second).toNat = min first.toNat second.toNat := by
  unfold min64
  split_ifs with hlt
  · rw [UInt64.lt_iff_toNat_lt] at hlt
    rw [min_eq_right (Nat.le_of_lt hlt)]
  · rw [UInt64.lt_iff_toNat_lt, Nat.not_lt] at hlt
    rw [min_eq_left hlt]

/-- A wrapping sum that fits into 64 bits is exact. -/
theorem toNat_add64 {first second : UInt64} (hfits : first.toNat + second.toNat < 2 ^ 64) :
    (first + second).toNat = first.toNat + second.toNat := by
  rw [UInt64.toNat_add, Nat.mod_eq_of_lt hfits]

/-- A wrapping sum that fits into 32 bits is exact. -/
theorem toNat_add32 {first second : UInt32} (hfits : first.toNat + second.toNat < 2 ^ 32) :
    (first + second).toNat = first.toNat + second.toNat := by
  rw [UInt32.toNat_add, Nat.mod_eq_of_lt hfits]

/-- A saturating sum that fits into 64 bits is exact. -/
theorem toNat_saturatingAdd64 {first second : UInt64}
    (hfits : first.toNat + second.toNat < 2 ^ 64) :
    (saturatingAdd64 first second).toNat = first.toNat + second.toNat := by
  unfold saturatingAdd64
  rw [if_pos hfits, toNat_add64 hfits]

/-- An amount that is no more than what a part leaves of the total can be added to the part. -/
theorem add64_of_le_rest {part total amount : UInt64} (hpart : part ≤ total)
    (hamount : amount ≤ saturatingSub64 total part) :
    (part + amount).toNat = part.toNat + amount.toNat ∧ part + amount ≤ total := by
  rw [UInt64.le_iff_toNat_le] at hpart
  rw [UInt64.le_iff_toNat_le, toNat_saturatingSub64] at hamount
  have htotal := total.toNat_lt
  have hexact : (part + amount).toNat = part.toNat + amount.toNat := toNat_add64 (by omega)
  refine ⟨hexact, ?_⟩
  rw [UInt64.le_iff_toNat_le, hexact]
  omega

/-- A count below its maximum can be increased. -/
theorem succ32_of_lt {count maximum : UInt32} (hcount : count < maximum) :
    (count + 1).toNat = count.toNat + 1 ∧ count + 1 ≤ maximum := by
  rw [UInt32.lt_iff_toNat_lt] at hcount
  have hmaximum := maximum.toNat_lt
  have hexact : (count + 1).toNat = count.toNat + 1 :=
    toNat_add32 (by rw [UInt32.toNat_one]; omega)
  refine ⟨hexact, ?_⟩
  rw [UInt32.le_iff_toNat_le, hexact]
  omega

end Library.MachineWords
