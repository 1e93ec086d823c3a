import Mathlib.Algebra.Order.Ring.Nat
import Mathlib.Tactic.Common

/-!
# Amounts of MOLT and the errors of the token crate

`amount.rs` stores an amount as a `u64` number of lamports. `Amount` carries the bound as a field,
so the two saturating operations are the only places where it is used. The sums of a ledger are
taken in `ℕ`, where they cannot wrap, and `lamports_saturatingAdd` and `lamports_saturatingSub` say
when the machine operations agree with them.

`MoltError` has the variants of `error.rs` that the modelled calls return. The source shows the two
amounts of `InsufficientBalance` as floating-point MOLT; here they are kept as the amounts they are
computed from.
-/

set_option autoImplicit false
set_option relaxedAutoImplicit false

namespace Clawbernetes.MoltToken

/-- An amount of MOLT in lamports, below `2 ^ 64`. -/
@[ext] structure Amount where
  lamports : ℕ
  lamports_lt : lamports < 2 ^ 64

/-- Amounts are compared by their lamports. -/
instance : DecidableEq Amount := fun first second ↦
  decidable_of_iff (first.lamports = second.lamports) Amount.ext_iff.symm

namespace Amount

/-- `Amount::ZERO`. -/
def zero : Amount := ⟨0, by decide⟩

/-- `Amount::MAX`, that is `u64::MAX` lamports. -/
def max : Amount := ⟨2 ^ 64 - 1, by decide⟩

/-- `Amount::saturating_add`: the sum, cut off at `u64::MAX`. -/
def saturatingAdd (first second : Amount) : Amount :=
  ⟨min (first.lamports + second.lamports) (2 ^ 64 - 1), by omega⟩

/-- `Amount::saturating_sub`: the difference, cut off at zero. -/
def saturatingSub (first second : Amount) : Amount :=
  ⟨first.lamports - second.lamports, lt_of_le_of_lt (Nat.sub_le _ _) first.lamports_lt⟩

/-- The derived `PartialOrd` of the one field. -/
instance : LT Amount := ⟨fun first second ↦ first.lamports < second.lamports⟩

instance (first second : Amount) : Decidable (first < second) :=
  inferInstanceAs (Decidable (first.lamports < second.lamports))

/-- The comparison of amounts is the comparison of their lamports. -/
theorem lt_iff (first second : Amount) : first < second ↔ first.lamports < second.lamports :=
  Iff.rfl

@[simp] theorem lamports_zero : zero.lamports = 0 :=
  rfl

/-- Saturating subtraction is truncated subtraction of lamports. -/
@[simp] theorem lamports_saturatingSub (first second : Amount) :
    (first.saturatingSub second).lamports = first.lamports - second.lamports :=
  rfl

/-- Saturating addition never exceeds the exact sum. -/
theorem lamports_saturatingAdd_le (first second : Amount) :
    (first.saturatingAdd second).lamports ≤ first.lamports + second.lamports :=
  min_le_left _ _

/-- Saturating addition is exact when the sum fits into 64 bits. -/
theorem lamports_saturatingAdd {first second : Amount}
    (hfits : first.lamports + second.lamports < 2 ^ 64) :
    (first.saturatingAdd second).lamports = first.lamports + second.lamports :=
  min_eq_left (by omega)

end Amount

/-- The errors of `error.rs` that escrows and the client return. -/
inductive MoltError where
  | insufficientBalance (held need : Amount)
  | escrowError (message : String)
  | escrowNotFound (id : String)
  | escrowFinalized (id state : String)
  | networkError (message : String)
  deriving DecidableEq

/-- `wallet.rs`: a base58 address. -/
structure Address where
  base58 : String
  deriving DecidableEq

/-- `Address::as_str`. -/
def Address.asStr (address : Address) : String :=
  address.base58

/-- A wallet as the client reads it, by its address. The client never signs with the key. -/
structure Wallet where
  address : Address
  deriving DecidableEq

end Clawbernetes.MoltToken
