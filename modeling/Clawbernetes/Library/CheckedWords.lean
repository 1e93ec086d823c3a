import Mathlib.Algebra.BigOperators.Group.List.Basic
import Mathlib.Algebra.Order.Ring.Nat
import Mathlib.Tactic.Common

/-!
# Machine words with and without overflow checks

The arithmetic of machine words in a language whose compiler decides what an overflow does. A build
with overflow checks stops the program, which is `none`; a build without them wraps, as the
operations of `BitVec` do. `overflowChecks` is which of the two.

An operation whose exact result fits into the width is exact in both builds (`add_of_lt`,
`sub_of_le`, `mul_of_lt`, `subSigned_of_fits`), so that a computation that never panics with the
checks has no overflow in any step. A sum of many words panics exactly if the exact sum does not fit
(`sum_eq`), and a product with a power likewise (`scale_of_lt`, `lt_of_scale_eq_some`). A difference
of signed words that is read back as an unsigned word is exact even when it wraps
(`toNat_sub_of_toInt_le`).

`signed` is the same for signed words that are kept as integers. Its result in a build with overflow
checks is the exact one, which fits (`signed_true_eq_some_iff`).
-/

set_option autoImplicit false
set_option relaxedAutoImplicit false

namespace Library.CheckedWords

variable {width : ℕ}

/-- The sum of two unsigned words. -/
def add (overflowChecks : Bool) (first second : BitVec width) : Option (BitVec width) :=
  if overflowChecks && BitVec.uaddOverflow first second then none else some (first + second)

/-- The difference of two unsigned words. -/
def sub (overflowChecks : Bool) (first second : BitVec width) : Option (BitVec width) :=
  if overflowChecks && BitVec.usubOverflow first second then none else some (first - second)

/-- The product of two unsigned words. -/
def mul (overflowChecks : Bool) (first second : BitVec width) : Option (BitVec width) :=
  if overflowChecks && BitVec.umulOverflow first second then none else some (first * second)

/-- The difference of two signed words. -/
def subSigned (overflowChecks : Bool) (first second : BitVec width) : Option (BitVec width) :=
  if overflowChecks && BitVec.ssubOverflow first second then none else some (first - second)

/-- The integer is the value of a signed word. -/
def FitsSigned (width : ℕ) (exact : ℤ) : Prop := -2 ^ width ≤ 2 * exact ∧ 2 * exact < 2 ^ width

instance (width : ℕ) (exact : ℤ) : Decidable (FitsSigned width exact) :=
  inferInstanceAs (Decidable (_ ∧ _))

/-- The signed word for the exact result of an operation. -/
def signed (overflowChecks : Bool) (width : ℕ) (exact : ℤ) : Option ℤ :=
  if overflowChecks && !decide (FitsSigned width exact) then none
  else some (exact.bmod (2 ^ width))

/-- The sum of a list of unsigned words, from the front. -/
def sum (overflowChecks : Bool) (words : List (BitVec width)) : Option (BitVec width) :=
  words.foldlM (add overflowChecks) 0

/-- A word times a factor, as often as the power says. -/
def scale (overflowChecks : Bool) (factor : BitVec width) :
    (power : ℕ) → (number : BitVec width) → Option (BitVec width)
  | 0, number => some number
  | power + 1, number => (mul overflowChecks number factor).bind (scale overflowChecks factor power)

variable (overflowChecks : Bool) {first second : BitVec width}

/-- A sum that fits into the width is exact. -/
theorem add_of_lt (hfits : first.toNat + second.toNat < 2 ^ width) :
    ∃ sum, add overflowChecks first second = some sum ∧
      sum.toNat = first.toNat + second.toNat := by
  refine ⟨first + second, ?_, ?_⟩
  · rw [add, if_neg]
    simp [BitVec.uaddOverflow, hfits]
  · rw [BitVec.toNat_add, Nat.mod_eq_of_lt hfits]

/-- A sum is computed in a build without overflow checks, and in one with them if it fits. -/
theorem add_eq (first second : BitVec width) : add overflowChecks first second =
    if overflowChecks && decide (2 ^ width ≤ first.toNat + second.toNat) then none
    else some (first + second) := rfl

/-- A sum of many words, from any start, is the exact sum modulo the width, unless the exact sum
does not fit and overflow is checked. -/
theorem foldlM_add_eq (words : List (BitVec width)) (start : BitVec width) :
    words.foldlM (add overflowChecks) start =
      if overflowChecks && decide (2 ^ width ≤ start.toNat + (words.map BitVec.toNat).sum) then none
      else some (.ofNat width (start.toNat + (words.map BitVec.toNat).sum)) := by
  induction words generalizing start with
  | nil =>
    have hfits : decide (2 ^ width ≤ start.toNat + 0) = false :=
      decide_eq_false (Nat.not_le.mpr start.isLt)
    rw [List.map_nil, List.sum_nil, hfits, Bool.and_false, if_neg Bool.false_ne_true,
      Nat.add_zero, BitVec.ofNat_toNat, BitVec.setWidth_eq]
    rfl
  | cons word rest ih =>
    rw [List.foldlM_cons, add_eq, List.map_cons, List.sum_cons]
    cases overflowChecks with
    | false =>
      simp only [Bool.false_and, Bool.false_eq_true, if_false]
      change (some (start + word) >>= fun total ↦ rest.foldlM (add false) total) = _
      rw [Option.bind_eq_bind, Option.bind_some, ih, Bool.false_and, if_neg Bool.false_ne_true,
        Option.some_inj]
      apply BitVec.eq_of_toNat_eq
      rw [BitVec.toNat_ofNat, BitVec.toNat_ofNat, BitVec.toNat_add, Nat.mod_add_mod, Nat.add_assoc]
    | true =>
      simp only [Bool.true_and, decide_eq_true_eq]
      by_cases hfits : start.toNat + word.toNat < 2 ^ width
      · rw [if_neg (Nat.not_le.mpr hfits), Option.bind_eq_bind, Option.bind_some, ih,
          BitVec.toNat_add, Nat.mod_eq_of_lt hfits, Nat.add_assoc]
        simp only [Bool.true_and, decide_eq_true_eq]
      · -- the rest can only add to what does not fit
        rw [if_pos (Nat.not_lt.mp hfits), if_pos (by omega)]
        rfl

/-- The sum of a list is the exact sum modulo the width, unless the exact sum does not fit and
overflow is checked. -/
theorem sum_eq (words : List (BitVec width)) : sum overflowChecks words =
    if overflowChecks && decide (2 ^ width ≤ (words.map BitVec.toNat).sum) then none
    else some (.ofNat width (words.map BitVec.toNat).sum) := by
  rw [sum, foldlM_add_eq]
  simp only [BitVec.ofNat_eq_ofNat, BitVec.toNat_ofNat, Nat.zero_mod, Nat.zero_add]

/-- A difference that is not negative is exact. -/
theorem sub_of_le (hle : second.toNat ≤ first.toNat) :
    ∃ difference, sub overflowChecks first second = some difference ∧
      difference.toNat = first.toNat - second.toNat := by
  refine ⟨first - second, ?_, ?_⟩
  · rw [sub, if_neg]
    simp [BitVec.usubOverflow, hle]
  · exact BitVec.toNat_sub_of_le hle

/-- A product that fits into the width is exact. -/
theorem mul_of_lt (hfits : first.toNat * second.toNat < 2 ^ width) :
    ∃ product, mul overflowChecks first second = some product ∧
      product.toNat = first.toNat * second.toNat := by
  refine ⟨first * second, ?_, ?_⟩
  · rw [mul, if_neg]
    simp [BitVec.umulOverflow, hfits]
  · rw [BitVec.toNat_mul, Nat.mod_eq_of_lt hfits]

/-- With overflow checks, a product that is computed is exact. -/
theorem toNat_of_mul_eq_some {product : BitVec width}
    (hproduct : mul true first second = some product) :
    product.toNat = first.toNat * second.toNat := by
  rw [mul, Bool.true_and] at hproduct
  split_ifs at hproduct with hoverflow
  obtain rfl := Option.some_inj.mp hproduct
  have hfits : first.toNat * second.toNat < 2 ^ width := by
    simpa [BitVec.umulOverflow] using hoverflow
  rw [BitVec.toNat_mul, Nat.mod_eq_of_lt hfits]

/-- A product that is computed is at most the exact one. -/
theorem toNat_le_of_mul_eq_some {product : BitVec width}
    (hproduct : mul overflowChecks first second = some product) :
    product.toNat ≤ first.toNat * second.toNat := by
  rw [mul] at hproduct
  split_ifs at hproduct
  obtain rfl := Option.some_inj.mp hproduct
  rw [BitVec.toNat_mul]
  exact Nat.mod_le _ _

/-- A product with a power that fits is computed in both builds. -/
theorem scale_of_lt {factor number : BitVec width} (hfactor : 0 < factor.toNat) {power : ℕ}
    (hfits : number.toNat * factor.toNat ^ power < 2 ^ width) :
    ∃ product, scale overflowChecks factor power number = some product ∧
      product.toNat = number.toNat * factor.toNat ^ power := by
  induction power generalizing number with
  | zero => exact ⟨number, rfl, (Nat.mul_one _).symm⟩
  | succ power ih =>
    have hsplit : number.toNat * factor.toNat ^ (power + 1) =
        number.toNat * factor.toNat * factor.toNat ^ power := by
      rw [pow_succ']
      exact (Nat.mul_assoc _ _ _).symm
    rw [hsplit] at hfits ⊢
    have hstep : number.toNat * factor.toNat < 2 ^ width :=
      lt_of_le_of_lt (Nat.le_mul_of_pos_right _ (Nat.pow_pos hfactor)) hfits
    obtain ⟨product, hproduct, hexact⟩ := mul_of_lt overflowChecks hstep
    rw [scale, hproduct, Option.bind_some]
    rw [← hexact] at hfits ⊢
    exact ih hfits

/-- With overflow checks, a product with a power that does not fit is a panic. -/
theorem lt_of_scale_eq_some {factor : BitVec width} {power : ℕ} {number product : BitVec width}
    (hproduct : scale true factor power number = some product) :
    number.toNat * factor.toNat ^ power < 2 ^ width := by
  induction power generalizing number with
  | zero =>
    rw [Nat.pow_zero, Nat.mul_one]
    exact number.isLt
  | succ power ih =>
    rw [scale] at hproduct
    obtain ⟨next, hnext, hrest⟩ := Option.bind_eq_some_iff.mp hproduct
    have hfits := ih hrest
    rw [toNat_of_mul_eq_some hnext, Nat.mul_assoc] at hfits
    rw [pow_succ']
    exact hfits

/-- A difference within the signed range is computed in both builds. -/
theorem subSigned_of_fits (hfits : BitVec.ssubOverflow first second = false) :
    subSigned overflowChecks first second = some (first - second) := by
  rw [subSigned, hfits, Bool.and_false]
  rfl

/-- A difference outside the signed range is a panic in a build with overflow checks. -/
theorem subSigned_panics (hoverflow : BitVec.ssubOverflow first second = true) :
    subSigned true first second = none := by
  rw [subSigned, hoverflow]
  rfl

/-- The difference of two signed words that is not negative is exact when its bits are read as an
unsigned word, whether or not it leaves the signed range. -/
theorem toNat_sub_of_toInt_le (hle : second.toInt ≤ first.toInt) :
    ((first - second).toNat : ℤ) = first.toInt - second.toInt := by
  have hfirst : 2 * first.toInt < 2 ^ width := BitVec.two_mul_toInt_lt
  have hsecond : -2 ^ width ≤ 2 * second.toInt := BitVec.le_two_mul_toInt
  have hexact : BitVec.ofInt width (first.toInt - second.toInt) = first - second := by
    rw [Int.sub_eq_add_neg, BitVec.ofInt_add, BitVec.ofInt_neg, BitVec.ofInt_toInt,
      BitVec.ofInt_toInt, BitVec.sub_eq_add_neg]
  have hrange : (first.toInt - second.toInt) % ((2 ^ width : ℕ) : ℤ) =
      first.toInt - second.toInt := by
    push_cast
    exact Int.emod_eq_of_lt (by omega) (by omega)
  rw [← hexact, BitVec.toNat_ofInt, hrange]
  omega

/-- A signed word is its own residue. -/
theorem FitsSigned.bmod_eq {exact : ℤ} (hfits : FitsSigned width exact) :
    exact.bmod (2 ^ width) = exact := by
  obtain ⟨hleast, hgreatest⟩ := hfits
  apply Int.bmod_eq_of_le_mul_two
  · push_cast
    omega
  · push_cast
    omega

/-- A signed result that fits is exact in both builds. -/
theorem signed_of_fits {exact : ℤ} (hfits : FitsSigned width exact) :
    signed overflowChecks width exact = some exact := by
  rw [signed, decide_eq_true hfits, Bool.not_true, Bool.and_false, if_neg Bool.false_ne_true,
    hfits.bmod_eq]

/-- With overflow checks, a signed result is computed exactly if it fits. -/
theorem signed_true_eq_some_iff {exact result : ℤ} :
    signed true width exact = some result ↔ FitsSigned width exact ∧ exact = result := by
  constructor
  · intro hresult
    by_cases hfits : FitsSigned width exact
    · rw [signed_of_fits true hfits] at hresult
      exact ⟨hfits, Option.some_inj.mp hresult⟩
    · rw [signed, decide_eq_false hfits, Bool.not_false, Bool.and_true, if_pos rfl] at hresult
      cases hresult
  · rintro ⟨hfits, rfl⟩
    exact signed_of_fits true hfits

end Library.CheckedWords
