import Clawbernetes.Library.CheckedWords
import Clawbernetes.Library.MachineWords
import Clawbernetes.Library.Rounding
import Mathlib.Algebra.Order.Ring.Rat
import Mathlib.Data.Rat.Floor

/-!
# Settling a job

`settlement.rs`. The payment for a job is its duration times the hourly rate, divided by 3600 and
rounded up, and at most `u64::MAX`. The product is taken in 128 bits. A job is settled at that
payment, cut off at the amount in escrow.

The arithmetic is the one of `Library.CheckedWords`: `overflowChecks` is whether the build stops at
an overflow, and `none` is the panic. No step of `calculatePayment` overflows
(`calculatePayment_spec`), so both builds pay the ceiling of the exact quotient, and
`calculatePayment_laws` compares the payment for a whole job with the payments for its parts.

`settleJob` also subtracts two timestamps as signed words. The difference need not fit into a signed
word: then a build with overflow checks panics, and a build without them wraps to bits that are the
right duration when they are read as an unsigned word. `settleJob_exact_iff` is the account of both.
-/

set_option autoImplicit false
set_option relaxedAutoImplicit false

namespace Clawbernetes.MoltMarket

open Library Library.MachineWords Library.Rounding

/-- `JobSettlementInput`. -/
structure JobSettlementInput where
  jobId : String
  startTime : Int64
  endTime : Int64
  ratePerHour : UInt64
  escrowAmount : UInt64
  deriving DecidableEq

/-- `SettlementResult`. -/
structure SettlementResult where
  jobId : String
  amountPaid : UInt64
  durationSeconds : UInt64
  success : Bool
  deriving DecidableEq

/-- The variant of `MarketError` that settling returns. -/
inductive SettlementError where
  | settlement (message : String)
  deriving DecidableEq

/-! ### Payments -/

/-- A 64-bit word as a 128-bit word. -/
def wide (word : UInt64) : BitVec 128 := word.toBitVec.setWidth 128

/-- `SECONDS_PER_HOUR`. -/
def secondsPerHour : BitVec 128 := 3600

/-- A 128-bit payment as a 64-bit word, cut off at `u64::MAX`. -/
def saturate (payment : BitVec 128) : UInt64 :=
  if wide (UInt64.ofNat (2 ^ 64 - 1)) < payment then UInt64.ofNat (2 ^ 64 - 1)
  else UInt64.ofBitVec (payment.setWidth 64)

/-- The division by the seconds of an hour that rounds up. -/
def divideUp (overflowChecks : Bool) (numerator : BitVec 128) : Option (BitVec 128) := do
  let raised ← CheckedWords.add overflowChecks numerator secondsPerHour
  let raised ← CheckedWords.sub overflowChecks raised 1
  some (raised / secondsPerHour)

/-- `calculate_payment`. -/
def calculatePayment (overflowChecks : Bool) (durationSeconds ratePerHour : UInt64) :
    Option UInt64 :=
  if durationSeconds = 0 ∨ ratePerHour = 0 then some 0
  else do
    let numerator ← CheckedWords.mul overflowChecks (wide durationSeconds) (wide ratePerHour)
    let payment ← divideUp overflowChecks numerator
    some (saturate payment)

/-- `calculate_payment_with_rounding`. -/
def calculatePaymentWithRounding (overflowChecks : Bool) (durationSeconds ratePerHour : UInt64)
    (roundUp : Bool) : Option UInt64 :=
  if durationSeconds = 0 ∨ ratePerHour = 0 then some 0
  else do
    let numerator ← CheckedWords.mul overflowChecks (wide durationSeconds) (wide ratePerHour)
    let payment ← if roundUp then divideUp overflowChecks numerator
      else some (numerator / secondsPerHour)
    some (saturate payment)

/-- The exact price of a duration at an hourly rate. -/
def exactPayment (durationSeconds ratePerHour : ℕ) : ℚ :=
  (durationSeconds * ratePerHour : ℚ) / 3600

@[simp] theorem toNat_wide (word : UInt64) : (wide word).toNat = word.toNat := by
  have hlt := word.toNat_lt
  rw [wide, BitVec.toNat_setWidth, UInt64.toNat_toBitVec, Nat.mod_eq_of_lt (by omega)]

/-- Saturating to 64 bits cuts a value off at the largest word. -/
theorem toNat_saturate (payment : BitVec 128) :
    (saturate payment).toNat = min payment.toNat (2 ^ 64 - 1) := by
  have hmax : (UInt64.ofNat (2 ^ 64 - 1)).toNat = 2 ^ 64 - 1 := rfl
  unfold saturate
  split_ifs with habove
  · rw [BitVec.lt_def, toNat_wide, hmax] at habove
    rw [hmax, Nat.min_eq_right (Nat.le_of_lt habove)]
  · rw [BitVec.lt_def, toNat_wide, hmax] at habove
    rw [UInt64.toNat_ofBitVec, BitVec.toNat_setWidth, Nat.mod_eq_of_lt (by omega),
      Nat.min_eq_left (by omega)]

/-- The exact price is the exact quotient. -/
theorem exactPayment_eq (durationSeconds ratePerHour : ℕ) :
    exactPayment durationSeconds ratePerHour =
      ((durationSeconds * ratePerHour : ℕ) : ℚ) / (3600 : ℕ) := by
  unfold exactPayment
  push_cast
  rfl

/-- Rounding up the price of a numerator that leaves room for the seconds of an hour. -/
theorem divideUp_spec (overflowChecks : Bool) {numerator : BitVec 128}
    (hroom : numerator.toNat + 3600 < 2 ^ 128) :
    ∃ payment, divideUp overflowChecks numerator = some payment ∧
      payment.toNat = (numerator.toNat + 3600 - 1) / 3600 := by
  have hhour : secondsPerHour.toNat = 3600 := rfl
  have hfits : numerator.toNat + secondsPerHour.toNat < 2 ^ 128 := by rwa [hhour]
  obtain ⟨raised, hadd, hraised⟩ := CheckedWords.add_of_lt overflowChecks hfits
  have hone : (1 : BitVec 128).toNat ≤ raised.toNat := by
    rw [hraised, hhour]
    change 1 ≤ _
    omega
  obtain ⟨lowered, hsub, hlowered⟩ := CheckedWords.sub_of_le overflowChecks hone
  refine ⟨lowered / secondsPerHour, ?_, ?_⟩
  · rw [divideUp, hadd, Option.bind_eq_bind, Option.bind_some, hsub]
    rfl
  · rw [BitVec.toNat_udiv, hlowered, hraised, hhour]
    rfl

/-- The numerator of a payment leaves room for the seconds of an hour. -/
theorem numerator_fits (durationSeconds ratePerHour : UInt64) :
    durationSeconds.toNat * ratePerHour.toNat + 3600 < 2 ^ 128 := by
  have hduration := durationSeconds.toNat_lt
  have hrate := ratePerHour.toNat_lt
  have hproduct : durationSeconds.toNat * ratePerHour.toNat ≤ (2 ^ 64 - 1) * (2 ^ 64 - 1) :=
    Nat.mul_le_mul (by omega) (by omega)
  omega

/-- Every payment is computed without an overflow, and is the exact price rounded up and cut off at
the largest word. -/
theorem calculatePayment_spec (overflowChecks : Bool) (durationSeconds ratePerHour : UInt64) :
    ∃ payment, calculatePayment overflowChecks durationSeconds ratePerHour = some payment ∧
      payment.toNat =
        min ⌈exactPayment durationSeconds.toNat ratePerHour.toNat⌉₊ (2 ^ 64 - 1) := by
  rw [exactPayment_eq, ceil_natCast_div _ (by decide)]
  by_cases hzero : durationSeconds = 0 ∨ ratePerHour = 0
  · have hproduct : durationSeconds.toNat * ratePerHour.toNat = 0 := by
      rcases hzero with rfl | rfl
      · exact Nat.zero_mul _
      · exact Nat.mul_zero _
    refine ⟨0, if_pos hzero, ?_⟩
    rw [hproduct]
    rfl
  · have hroom := numerator_fits durationSeconds ratePerHour
    have hfits : (wide durationSeconds).toNat * (wide ratePerHour).toNat < 2 ^ 128 := by
      rw [toNat_wide, toNat_wide]
      omega
    obtain ⟨numerator, hmul, hnumerator⟩ := CheckedWords.mul_of_lt overflowChecks hfits
    rw [toNat_wide, toNat_wide] at hnumerator
    rw [← hnumerator] at hroom
    obtain ⟨payment, hdivide, hpayment⟩ := divideUp_spec overflowChecks hroom
    refine ⟨saturate payment, ?_, ?_⟩
    · rw [calculatePayment, if_neg hzero, hmul, Option.bind_eq_bind, Option.bind_some, hdivide]
      rfl
    · rw [toNat_saturate, hpayment, hnumerator]

/-- The exact price of a whole job is the sum of the exact prices of its parts. -/
theorem exactPayment_add (first second ratePerHour : ℕ) :
    exactPayment (first + second) ratePerHour =
      exactPayment first ratePerHour + exactPayment second ratePerHour := by
  unfold exactPayment
  push_cast
  ring

/-- An exact price is not negative. -/
theorem exactPayment_nonneg (durationSeconds ratePerHour : ℕ) :
    0 ≤ exactPayment durationSeconds ratePerHour := by
  unfold exactPayment
  positivity

/-- Every payment is the exact price rounded up and cut off at `u64::MAX`, no step of it overflows,
and it is the payment with explicit rounding up. Where the payment for a whole job is not cut off,
splitting the job never pays less and pays at most one token more. -/
theorem calculatePayment_laws (overflowChecks : Bool) :
    (∀ durationSeconds ratePerHour : UInt64, ∃ payment,
      calculatePayment overflowChecks durationSeconds ratePerHour = some payment ∧
        payment.toNat =
          min ⌈exactPayment durationSeconds.toNat ratePerHour.toNat⌉₊ (2 ^ 64 - 1) ∧
        calculatePaymentWithRounding overflowChecks durationSeconds ratePerHour true =
          some payment) ∧
      ∀ first second ratePerHour : UInt64, first.toNat + second.toNat < 2 ^ 64 →
        ⌈exactPayment (first.toNat + second.toNat) ratePerHour.toNat⌉₊ ≤ 2 ^ 64 - 1 →
          ∃ whole left right, calculatePayment overflowChecks (first + second) ratePerHour =
              some whole ∧
            calculatePayment overflowChecks first ratePerHour = some left ∧
            calculatePayment overflowChecks second ratePerHour = some right ∧
            whole.toNat ≤ left.toNat + right.toNat ∧
            left.toNat + right.toNat ≤ whole.toNat + 1 := by
  refine ⟨fun durationSeconds ratePerHour ↦ ?_, fun first second ratePerHour hsum hfits ↦ ?_⟩
  · obtain ⟨payment, hpayment, hexact⟩ :=
      calculatePayment_spec overflowChecks durationSeconds ratePerHour
    exact ⟨payment, hpayment, hexact, hpayment⟩
  · obtain ⟨whole, hwhole, hexact⟩ :=
      calculatePayment_spec overflowChecks (first + second) ratePerHour
    obtain ⟨left, hleft, hexactLeft⟩ := calculatePayment_spec overflowChecks first ratePerHour
    obtain ⟨right, hright, hexactRight⟩ := calculatePayment_spec overflowChecks second ratePerHour
    refine ⟨whole, left, right, hwhole, hleft, hright, ?_⟩
    rw [toNat_add64 hsum, exactPayment_add] at hexact
    rw [exactPayment_add] at hfits
    have hlower := Nat.ceil_add_le (exactPayment first.toNat ratePerHour.toNat)
      (exactPayment second.toNat ratePerHour.toNat)
    have hupper := ceil_add_ceil_le (exactPayment_nonneg first.toNat ratePerHour.toNat)
      (exactPayment_nonneg second.toNat ratePerHour.toNat)
    omega

/-! ### Settlement -/

/-- `settle_job`. The difference of the timestamps is one of signed words, cast to an unsigned
one. -/
def settleJob (overflowChecks : Bool) (input : JobSettlementInput) :
    Option (Except SettlementError SettlementResult) :=
  if input.endTime < input.startTime then
    some (.error (.settlement "end time cannot be before start time"))
  else do
    let difference ← CheckedWords.subSigned overflowChecks input.endTime.toBitVec
      input.startTime.toBitVec
    let durationSeconds := UInt64.ofBitVec difference
    let calculatedPayment ← calculatePayment overflowChecks durationSeconds input.ratePerHour
    some (.ok
      { jobId := input.jobId
        amountPaid := min64 calculatedPayment input.escrowAmount
        durationSeconds := durationSeconds
        success := true })

/-- The job is refused exactly when it ends before it starts, and is otherwise settled for its exact
duration at the exact price rounded up, or at the amount in escrow if that is less. -/
structure SettlesExactly (overflowChecks : Bool) (input : JobSettlementInput) : Prop where
  refused : (∃ error, settleJob overflowChecks input = some (.error error)) ↔
    input.endTime.toInt < input.startTime.toInt
  settled : input.startTime.toInt ≤ input.endTime.toInt → ∃ result,
    settleJob overflowChecks input = some (.ok result) ∧
      (result.durationSeconds.toNat : ℤ) = input.endTime.toInt - input.startTime.toInt ∧
      result.amountPaid.toNat = min
        ⌈exactPayment result.durationSeconds.toNat input.ratePerHour.toNat⌉₊
        input.escrowAmount.toNat

/-- The difference of the timestamps overflows as a signed word. -/
theorem ssubOverflow_iff {input : JobSettlementInput}
    (hordered : input.startTime.toInt ≤ input.endTime.toInt) :
    BitVec.ssubOverflow input.endTime.toBitVec input.startTime.toBitVec = true ↔
      2 ^ 63 ≤ input.endTime.toInt - input.startTime.toInt := by
  have hend : input.endTime.toBitVec.toInt = input.endTime.toInt := rfl
  have hstart : input.startTime.toBitVec.toInt = input.startTime.toInt := rfl
  rw [BitVec.ssubOverflow, hend, hstart, Bool.or_eq_true, decide_eq_true_eq, decide_eq_true_eq]
  constructor
  · rintro (habove | hbelow)
    · exact habove
    · omega
  · exact Or.inl

/-- A job that ends before it starts is refused in both builds. -/
theorem settlesExactly_of_lt (overflowChecks : Bool) {input : JobSettlementInput}
    (hbackwards : input.endTime.toInt < input.startTime.toInt) :
    SettlesExactly overflowChecks input where
  refused := by
    refine iff_of_true ⟨.settlement "end time cannot be before start time", ?_⟩ hbackwards
    rw [settleJob, if_pos (Int64.lt_iff_toInt_lt.mpr hbackwards)]
  settled := fun hordered ↦ absurd hbackwards (Int.not_lt.mpr hordered)

/-- A job whose difference is computed is settled exactly, whether or not the difference wraps. -/
theorem settlesExactly_of_subSigned {overflowChecks : Bool} {input : JobSettlementInput}
    (hordered : input.startTime.toInt ≤ input.endTime.toInt)
    (hdifference : CheckedWords.subSigned overflowChecks input.endTime.toBitVec
      input.startTime.toBitVec = some (input.endTime.toBitVec - input.startTime.toBitVec)) :
    SettlesExactly overflowChecks input := by
  have hforwards : ¬ input.endTime < input.startTime := by
    rw [Int64.lt_iff_toInt_lt]
    exact Int.not_lt.mpr hordered
  have hduration : (((UInt64.ofBitVec (input.endTime.toBitVec - input.startTime.toBitVec)).toNat :
      ℕ) : ℤ) = input.endTime.toInt - input.startTime.toInt :=
    CheckedWords.toNat_sub_of_toInt_le hordered
  obtain ⟨payment, hpayment, hexact⟩ := calculatePayment_spec overflowChecks
    (UInt64.ofBitVec (input.endTime.toBitVec - input.startTime.toBitVec)) input.ratePerHour
  have hsettled : settleJob overflowChecks input = some (.ok
      { jobId := input.jobId
        amountPaid := min64 payment input.escrowAmount
        durationSeconds := UInt64.ofBitVec (input.endTime.toBitVec - input.startTime.toBitVec)
        success := true }) := by
    rw [settleJob, if_neg hforwards, hdifference, Option.bind_eq_bind, Option.bind_some]
    dsimp only
    rw [hpayment]
    rfl
  constructor
  · rw [hsettled]
    exact iff_of_false (fun ⟨_, herror⟩ ↦ by cases herror) (Int.not_lt.mpr hordered)
  · intro _
    refine ⟨_, hsettled, hduration, ?_⟩
    have hescrow : input.escrowAmount.toNat ≤ 2 ^ 64 - 1 :=
      Nat.le_sub_one_of_lt input.escrowAmount.toNat_lt
    rw [toNat_min64, hexact, min_assoc, min_eq_right hescrow]

/-- Both builds settle a job exactly, without an overflow in any step, if and only if the difference
of its timestamps is below `2 ^ 63`. The wrapping build settles every job exactly. -/
theorem settleJob_exact_iff (input : JobSettlementInput) :
    ((∀ overflowChecks, SettlesExactly overflowChecks input) ↔
      input.endTime.toInt - input.startTime.toInt < 2 ^ 63) ∧
      SettlesExactly false input := by
  rcases Int.lt_or_le input.endTime.toInt input.startTime.toInt with hbackwards | hordered
  · have hrefused := fun overflowChecks ↦ settlesExactly_of_lt overflowChecks hbackwards
    exact ⟨iff_of_true hrefused (by omega), hrefused false⟩
  have hwrapping : SettlesExactly false input := settlesExactly_of_subSigned hordered rfl
  refine ⟨⟨fun hexact ↦ ?_, fun hfits overflowChecks ↦ ?_⟩, hwrapping⟩
  · by_contra hleaves
    have hoverflow := (ssubOverflow_iff hordered).mpr (Int.not_lt.mp hleaves)
    obtain ⟨result, hresult, -⟩ := (hexact true).settled hordered
    rw [settleJob, if_neg (by rw [Int64.lt_iff_toInt_lt]; omega),
      CheckedWords.subSigned_panics hoverflow] at hresult
    cases hresult
  · refine settlesExactly_of_subSigned hordered (CheckedWords.subSigned_of_fits overflowChecks ?_)
    rw [← Bool.not_eq_true, ssubOverflow_iff hordered]
    exact Int.not_le.mpr hfits

/-- A job from the smallest timestamp to the largest. -/
def endlessJob : JobSettlementInput := ⟨"job", Int64.minValue, Int64.maxValue, 1, 1⟩

/-- Settling a job from the smallest timestamp to the largest panics in a build with overflow
checks. -/
theorem endlessJob_overflows :
    settleJob true endlessJob = none ∧ ¬ SettlesExactly true endlessJob := by
  have hpanic : settleJob true endlessJob = none := by decide
  refine ⟨hpanic, fun hexact ↦ ?_⟩
  obtain ⟨result, hresult, -⟩ := hexact.settled (by decide)
  rw [hpanic] at hresult
  cases hresult

end Clawbernetes.MoltMarket
