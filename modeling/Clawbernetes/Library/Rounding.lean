import Mathlib.Algebra.Order.Floor.Semiring
import Mathlib.Algebra.Order.Field.Basic
import Mathlib.Data.Int.Log
import Mathlib.Data.Rat.Floor
import Mathlib.Tactic.Linarith

/-!
# Rounding

Integer code rounds a quotient up by adding the divisor less one before it divides.
`ceil_natCast_div` says that this is the ceiling of the exact quotient, and `ceil_add_ceil_le` what
rounding two parts instead of their sum can add: at most one unit. The other direction, that the
parts never lose anything, is `Nat.ceil_add_le` of the library.

An operation on floating-point numbers rounds its exact result to the nearest number with so many
binary digits (`roundBinary`), which leaves the natural numbers alone that have no more of them
(`roundBinary_natCast`). Overflow and underflow are left to what the result is used for.
-/

set_option autoImplicit false
set_option relaxedAutoImplicit false

namespace Library.Rounding

variable {K : Type*} [Field K] [LinearOrder K] [IsStrictOrderedRing K] [FloorSemiring K]

/-- Adding the divisor less one before dividing rounds the quotient up. -/
theorem ceil_natCast_div (value : ℕ) {unit : ℕ} (hunit : 0 < unit) :
    ⌈(value : K) / unit⌉₊ = (value + unit - 1) / unit := by
  have hpositive : (0 : K) < unit := Nat.cast_pos.mpr hunit
  apply le_antisymm
  · rw [Nat.ceil_le, div_le_iff₀ hpositive]
    have hbelow : value ≤ (value + unit - 1) / unit * unit := by
      have hrest := Nat.div_add_mod' (value + unit - 1) unit
      have hmod := Nat.mod_lt (value + unit - 1) hunit
      omega
    exact_mod_cast hbelow
  · rw [Nat.div_le_iff_le_mul_add_pred hunit]
    have habove : (value : K) ≤ ⌈(value : K) / unit⌉₊ * unit :=
      (div_le_iff₀ hpositive).mp (Nat.le_ceil _)
    have hexact : value ≤ ⌈(value : K) / unit⌉₊ * unit := by exact_mod_cast habove
    rw [Nat.mul_comm] at hexact
    omega

/-- Rounding two parts up adds at most one unit to their rounded sum. -/
theorem ceil_add_ceil_le {first second : K} (hfirst : 0 ≤ first) (hsecond : 0 ≤ second) :
    ⌈first⌉₊ + ⌈second⌉₊ ≤ ⌈first + second⌉₊ + 1 := by
  have hbelow : (⌈first⌉₊ : K) < first + 1 := Nat.ceil_lt_add_one hfirst
  have hother : (⌈second⌉₊ : K) < second + 1 := Nat.ceil_lt_add_one hsecond
  have hsum : first + second ≤ ⌈first + second⌉₊ := Nat.le_ceil _
  have hlt : ((⌈first⌉₊ + ⌈second⌉₊ : ℕ) : K) < (⌈first + second⌉₊ + 1 + 1 : ℕ) := by
    push_cast
    linarith
  exact Nat.lt_succ_iff.mp (Nat.cast_lt.mp hlt)

/-! ### Binary digits -/

/-- The nearest integer, and of two nearest ones the even one. -/
def roundEven (number : ℚ) : ℤ :=
  if Int.fract number < 1 / 2 then ⌊number⌋
  else if 1 / 2 < Int.fract number then ⌊number⌋ + 1
  else if Even ⌊number⌋ then ⌊number⌋ else ⌊number⌋ + 1

/-- The nearest number with this many binary digits. -/
def roundBinary (digits : ℕ) (number : ℚ) : ℚ :=
  let unit : ℚ := 2 ^ (Int.log 2 |number| + 1 - digits)
  roundEven (number / unit) * unit

/-- An integer is the nearest one to itself. -/
theorem roundEven_intCast (number : ℤ) : roundEven number = number := by
  rw [roundEven, Int.fract_intCast, Int.floor_intCast, if_pos (by norm_num)]

/-- A natural number that needs no more digits is not rounded. -/
theorem roundBinary_natCast {digits number : ℕ} (hdigits : number < 2 ^ digits) :
    roundBinary digits number = number := by
  unfold roundBinary
  rw [Nat.abs_cast, Int.log_natCast]
  rcases Nat.eq_zero_or_pos number with rfl | hpositive
  · have hzero : roundEven 0 = 0 := by simpa using roundEven_intCast 0
    simp [hzero]
  · have hlog : Nat.log 2 number < digits := Nat.log_lt_of_lt_pow hpositive.ne' hdigits
    -- the unit of the last digit is a fraction of one, so the number is a multiple of it
    obtain ⟨places, hplaces⟩ := Nat.exists_eq_add_of_lt hlog
    have hunit : (2 : ℚ) ^ ((Nat.log 2 number : ℤ) + 1 - digits) = ((2 : ℚ) ^ places)⁻¹ := by
      rw [hplaces, ← zpow_natCast, ← zpow_neg]
      congr 1
      push_cast
      ring
    have hmultiple : (number : ℚ) / ((2 : ℚ) ^ places)⁻¹ = ((number * 2 ^ places : ℤ) : ℚ) := by
      rw [div_inv_eq_mul]
      push_cast
      rfl
    simp only [hunit]
    rw [hmultiple, roundEven_intCast]
    push_cast
    exact mul_inv_cancel_right₀ (pow_ne_zero _ two_ne_zero) _

end Library.Rounding
