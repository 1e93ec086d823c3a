import Clawbernetes.Library.MachineWords
import Clawbernetes.MoltToken.Escrow
import Mathlib.Data.Rat.Floor

/-!
# The fee and the payout of an escrow

`calculate_fee_and_payout` of the token crate's `escrow.rs` splits an amount into the fee at a rate
in basis points and the payout, which is the rest by saturating subtraction. `Escrow::with_fee_rate`
refuses rates above one hundred percent, but the rate of an escrow is a public field that is
deserialized as it comes, and the split takes every 32-bit rate.

The two parts stay within the amount, with a fee that survives the cast back to 64 bits, exactly
when the excess of the rate over one hundred percent is worth less than one unit
(`calculateFeeAndPayout_iff`). At a rate of at most one hundred percent this is always so, and the
parts then add up to the amount.
-/

set_option autoImplicit false
set_option relaxedAutoImplicit false

namespace Clawbernetes.MoltToken

open Library.MachineWords

/-- `calculate_fee_and_payout`. -/
def calculateFeeAndPayout (amountLamports : UInt64) (feeRateBps : UInt32) : UInt64 × UInt64 :=
  let fee := UInt64.ofNat (calculateFeeLamports amountLamports.toNat feeRateBps)
  (fee, saturatingSub64 amountLamports fee)

/-- The fee of `calculate_fee_and_payout`. -/
def feeOf (amountLamports : UInt64) (feeRateBps : UInt32) : ℕ :=
  (calculateFeeAndPayout amountLamports feeRateBps).1.toNat

/-- The payout of `calculate_fee_and_payout`. -/
def payoutOf (amountLamports : UInt64) (feeRateBps : UInt32) : ℕ :=
  (calculateFeeAndPayout amountLamports feeRateBps).2.toNat

/-- The fee is the share of the amount rounded down, unharmed by the cast to 64 bits, and the two
parts stay within the amount. At a rate of at most one hundred percent they add up to it. -/
structure SharesAmount (amountLamports : UInt64) (feeRateBps : UInt32) : Prop where
  fee : feeOf amountLamports feeRateBps =
    ⌊(amountLamports.toNat * feeRateBps.toNat : ℚ) / maxFeeRateBps⌋₊
  within : feeOf amountLamports feeRateBps + payoutOf amountLamports feeRateBps ≤
    amountLamports.toNat
  whole : feeRateBps.toNat ≤ maxFeeRateBps →
    feeOf amountLamports feeRateBps + payoutOf amountLamports feeRateBps = amountLamports.toNat

/-- The share of an amount rounded down. -/
theorem floor_share (amountLamports : UInt64) (feeRateBps : UInt32) :
    ⌊(amountLamports.toNat * feeRateBps.toNat : ℚ) / maxFeeRateBps⌋₊ =
      amountLamports.toNat * feeRateBps.toNat / maxFeeRateBps := by
  rw [← Rat.natFloor_natCast_div_natCast]
  push_cast
  rfl

/-- The fee as a number. -/
theorem feeOf_eq (amountLamports : UInt64) (feeRateBps : UInt32) :
    feeOf amountLamports feeRateBps =
      amountLamports.toNat * feeRateBps.toNat / maxFeeRateBps % 2 ^ 64 := by
  have hlt := calculateFeeLamports_lt amountLamports.toNat feeRateBps
  rw [feeOf, calculateFeeAndPayout, UInt64.toNat_ofNat', Nat.mod_eq_of_lt hlt,
    calculateFeeLamports]

/-- The payout as a number. -/
theorem payoutOf_eq (amountLamports : UInt64) (feeRateBps : UInt32) :
    payoutOf amountLamports feeRateBps =
      amountLamports.toNat - feeOf amountLamports feeRateBps := by
  rw [payoutOf, calculateFeeAndPayout, toNat_saturatingSub64]
  rfl

/-- A share rounded down is within the amount exactly when the excess of the rate over one hundred
percent is worth less than one unit. -/
theorem share_le_iff (amount rate : ℕ) :
    amount * rate / maxFeeRateBps ≤ amount ↔
      amount * (rate - maxFeeRateBps) < maxFeeRateBps := by
  have hpositive : 0 < maxFeeRateBps := by decide
  rw [← Nat.lt_succ_iff, Nat.div_lt_iff_lt_mul hpositive, Nat.succ_mul, Nat.mul_sub]
  rcases Nat.le_total rate maxFeeRateBps with hrate | hrate
  · have hproduct := Nat.mul_le_mul_left amount hrate
    omega
  · have hproduct := Nat.mul_le_mul_left amount hrate
    omega

/-- At a rate of at most one hundred percent there is no excess. -/
theorem no_excess {amount rate : ℕ} (hrate : rate ≤ maxFeeRateBps) :
    amount * (rate - maxFeeRateBps) < maxFeeRateBps := by
  rw [Nat.sub_eq_zero_of_le hrate, Nat.mul_zero]
  decide

/-- The split shares the amount exactly when the excess is worth less than one unit. -/
theorem sharesAmount_iff (amountLamports : UInt64) (feeRateBps : UInt32) :
    SharesAmount amountLamports feeRateBps ↔
      amountLamports.toNat * (feeRateBps.toNat - maxFeeRateBps) < maxFeeRateBps := by
  have hamount := amountLamports.toNat_lt
  rw [← share_le_iff]
  constructor
  · intro hshares
    have hwithin := hshares.within
    rw [hshares.fee, floor_share] at hwithin
    omega
  · intro hshare
    have hfee : feeOf amountLamports feeRateBps =
        amountLamports.toNat * feeRateBps.toNat / maxFeeRateBps := by
      rw [feeOf_eq, Nat.mod_eq_of_lt (by omega)]
    have hsum : feeOf amountLamports feeRateBps + payoutOf amountLamports feeRateBps =
        amountLamports.toNat := by
      rw [payoutOf_eq]
      omega
    exact ⟨by rw [hfee, floor_share], hsum.le, fun _ ↦ hsum⟩

/-- For every amount and every rate, the fee is exact and the parts stay within the amount if and
only if the excess of the rate over one hundred percent is worth less than one unit, as it is at
every rate of at most one hundred percent. There the fee grows with the amount and with the rate. -/
theorem calculateFeeAndPayout_iff (amountLamports : UInt64) (feeRateBps : UInt32) :
    (SharesAmount amountLamports feeRateBps ↔
      amountLamports.toNat * (feeRateBps.toNat - maxFeeRateBps) < maxFeeRateBps) ∧
      (feeRateBps.toNat ≤ maxFeeRateBps → SharesAmount amountLamports feeRateBps) ∧
      ∀ largerAmount largerRate, amountLamports ≤ largerAmount → feeRateBps ≤ largerRate →
        largerRate.toNat ≤ maxFeeRateBps →
          feeOf amountLamports feeRateBps ≤ feeOf largerAmount largerRate := by
  have hvalid : ∀ amount rate, rate.toNat ≤ maxFeeRateBps → SharesAmount amount rate :=
    fun amount rate hrate ↦ (sharesAmount_iff amount rate).mpr (no_excess hrate)
  refine ⟨sharesAmount_iff _ _, hvalid _ _, ?_⟩
  intro largerAmount largerRate hamount hrate hmax
  rw [UInt64.le_iff_toNat_le] at hamount
  rw [UInt32.le_iff_toNat_le] at hrate
  rw [(hvalid amountLamports feeRateBps (hrate.trans hmax)).fee,
    (hvalid largerAmount largerRate hmax).fee, floor_share, floor_share]
  exact Nat.div_le_div_right (Nat.mul_le_mul hamount hrate)

/-- At two hundred percent the fee is twice the amount, and at the largest rate the cast takes the
high part from the fee of the largest amount. -/
theorem double_fee_overpays :
    (calculateFeeAndPayout 100 20000 = (200, 0) ∧ ¬ SharesAmount 100 20000) ∧
      feeOf (UInt64.ofNat (2 ^ 64 - 1)) (UInt32.ofNat (2 ^ 32 - 1)) <
        (2 ^ 64 - 1) * (2 ^ 32 - 1) / maxFeeRateBps := by
  refine ⟨⟨by decide +kernel, fun hshares ↦ ?_⟩, by decide +kernel⟩
  exact absurd ((sharesAmount_iff 100 20000).mp hshares) (by decide)

end Clawbernetes.MoltToken
