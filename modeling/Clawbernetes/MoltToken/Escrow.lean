import Clawbernetes.MoltToken.Amount
import Clawbernetes.Library.Runs

/-!
# The token escrow and its state machine

`escrow.rs` of the token crate. An `Escrow` holds a buyer's funds for a job and moves through the
eight states of `EscrowState`. Every method that changes it is a guard, an error for the calls the
guard refuses and an update for the calls it lets through; `advance` is that shape, and the methods
are its instances. `markExpired` has no guard.

A method that takes `&mut self` is modelled by a function returning its `Result` beside the escrow
after the call, so that what a failing call leaves behind is part of the model. `Utc::now()` is an
argument, in nanoseconds since the epoch, and the random identifier of `Escrow::new` is another.

The main result is about whole runs. `call_cases` says once what a call can do to the state and the
two signatures, `signaturesAgree_call` derives from it that a release signature and a refund
signature exclude each other, and `finality_iff_no_late_expiry` says exactly which runs keep a
terminal state: those in which `markExpired` is never called on a released or refunded escrow.
-/

set_option autoImplicit false
set_option relaxedAutoImplicit false

namespace Clawbernetes.MoltToken

open Library.Runs

/-! ### Fees -/

/-- `MAX_FEE_RATE_BPS`: one hundred percent in basis points. -/
def maxFeeRateBps : ℕ := 10000

/-- `calculate_fee_lamports`: the fee in 128-bit arithmetic, cast back to 64 bits. -/
def calculateFeeLamports (amountLamports : ℕ) (feeRateBps : UInt32) : ℕ :=
  amountLamports * feeRateBps.toNat / maxFeeRateBps % 2 ^ 64

/-- The cast of the fee back to 64 bits is below `2 ^ 64`. -/
theorem calculateFeeLamports_lt (amountLamports : ℕ) (feeRateBps : UInt32) :
    calculateFeeLamports amountLamports feeRateBps < 2 ^ 64 :=
  Nat.mod_lt _ (by decide)

/-- The fee never exceeds the amount at a rate of at most one hundred percent. -/
theorem calculateFeeLamports_le {amountLamports : ℕ} {feeRateBps : UInt32}
    (hrate : feeRateBps.toNat ≤ maxFeeRateBps) :
    calculateFeeLamports amountLamports feeRateBps ≤ amountLamports := by
  have hproduct : amountLamports * feeRateBps.toNat ≤ amountLamports * maxFeeRateBps :=
    Nat.mul_le_mul_left amountLamports hrate
  calc calculateFeeLamports amountLamports feeRateBps
      ≤ amountLamports * feeRateBps.toNat / maxFeeRateBps := Nat.mod_le _ _
    _ ≤ amountLamports * maxFeeRateBps / maxFeeRateBps := Nat.div_le_div_right hproduct
    _ = amountLamports := Nat.mul_div_cancel amountLamports (by decide)

/-! ### The escrow and its states -/

/-- `EscrowState`. -/
inductive EscrowState where
  | creating
  | active
  | releasing
  | released
  | refunding
  | refunded
  | disputed
  | expired
  deriving DecidableEq

namespace EscrowState

/-- `EscrowState::is_terminal`. -/
def isTerminal : EscrowState → Bool
  | released | refunded | expired => true
  | _ => false

/-- `EscrowState::can_release`. -/
def canRelease : EscrowState → Bool
  | active => true
  | _ => false

/-- `EscrowState::can_refund`. -/
def canRefund : EscrowState → Bool
  | active | disputed => true
  | _ => false

/-- `EscrowState::can_dispute`. -/
def canDispute : EscrowState → Bool
  | active | releasing | refunding => true
  | _ => false

/-- The `Display` text of a state. -/
def display : EscrowState → String
  | creating => "creating"
  | active => "active"
  | releasing => "releasing"
  | released => "released"
  | refunding => "refunding"
  | refunded => "refunded"
  | disputed => "disputed"
  | expired => "expired"

end EscrowState

/-- `Escrow`. Times are in nanoseconds since the epoch. -/
structure Escrow where
  id : String
  buyer : Address
  provider : Address
  amount : Amount
  feeRateBps : UInt32
  state : EscrowState
  jobId : String
  createdAt : ℤ
  updatedAt : ℤ
  expiresAt : ℤ
  releaseSignature : Option String
  refundSignature : Option String
  disputeReason : Option String
  deriving DecidableEq

namespace Escrow

/-- `Escrow::DEFAULT_DURATION_HOURS`. -/
def defaultDurationHours : ℤ := 24

/-- `Escrow::DEFAULT_FEE_RATE_BPS`. -/
def defaultFeeRateBps : UInt32 := 500

/-- `chrono::Duration::hours`, in nanoseconds. -/
def hours (count : ℤ) : ℤ := count * 3600 * 10 ^ 9

/-- `Escrow::new`, with the generated identifier and the clock reading as arguments. -/
def new (id : String) (now : ℤ) (buyer provider : Address) (amount : Amount) (jobId : String)
    (durationHours : Option ℤ) : Escrow where
  id := id
  buyer := buyer
  provider := provider
  amount := amount
  feeRateBps := defaultFeeRateBps
  state := .creating
  jobId := jobId
  createdAt := now
  updatedAt := now
  expiresAt := now + hours (durationHours.getD defaultDurationHours)
  releaseSignature := none
  refundSignature := none
  disputeReason := none

/-- `Escrow::network_fee`. -/
def networkFee (escrow : Escrow) : Amount :=
  ⟨calculateFeeLamports escrow.amount.lamports escrow.feeRateBps, calculateFeeLamports_lt _ _⟩

/-- `Escrow::provider_payout`: the amount less the fee, by saturating subtraction. -/
def providerPayout (escrow : Escrow) : Amount :=
  escrow.amount.saturatingSub escrow.networkFee

/-- At a rate of at most one hundred percent the fee and the payout share the amount. -/
theorem networkFee_add_providerPayout {escrow : Escrow}
    (hrate : escrow.feeRateBps.toNat ≤ maxFeeRateBps) :
    escrow.networkFee.lamports + escrow.providerPayout.lamports = escrow.amount.lamports := by
  have hfee : escrow.networkFee.lamports ≤ escrow.amount.lamports := calculateFeeLamports_le hrate
  rw [providerPayout, Amount.lamports_saturatingSub]
  omega

/-- The payout never exceeds the amount. -/
theorem providerPayout_le (escrow : Escrow) :
    escrow.providerPayout.lamports ≤ escrow.amount.lamports :=
  Nat.sub_le _ _

/-! ### The methods -/

/-- The shape of every guarded method: the updated escrow when the guard lets the call through, and
otherwise the error and the escrow as it was. -/
def advance (escrow : Escrow) (guard : Bool) (refusal : MoltError) (updated : Escrow) :
    Except MoltError Unit × Escrow :=
  if guard then (.ok (), updated) else (.error refusal, escrow)

/-- A guarded method leaves either the escrow as it was or, behind its guard, the update. -/
theorem advance_snd_cases (escrow : Escrow) (guard : Bool) (refusal : MoltError)
    (updated : Escrow) :
    (escrow.advance guard refusal updated).2 = escrow ∨
      guard = true ∧ (escrow.advance guard refusal updated).2 = updated := by
  cases guard with
  | false => exact Or.inl rfl
  | true => exact Or.inr ⟨rfl, rfl⟩

/-- `Escrow::activate`. -/
def activate (escrow : Escrow) (now : ℤ) : Except MoltError Unit × Escrow :=
  escrow.advance (escrow.state == .creating)
    (.escrowError ("cannot activate escrow in state " ++ escrow.state.display))
    { escrow with state := .active, updatedAt := now }

/-- `Escrow::start_release`. -/
def startRelease (escrow : Escrow) (now : ℤ) : Except MoltError Unit × Escrow :=
  escrow.advance escrow.state.canRelease
    (.escrowFinalized escrow.id escrow.state.display)
    { escrow with state := .releasing, updatedAt := now }

/-- `Escrow::complete_release`. -/
def completeRelease (escrow : Escrow) (signature : String) (now : ℤ) :
    Except MoltError Unit × Escrow :=
  escrow.advance (escrow.state == .releasing)
    (.escrowError ("cannot complete release in state " ++ escrow.state.display))
    { escrow with state := .released, releaseSignature := some signature, updatedAt := now }

/-- `Escrow::start_refund`. -/
def startRefund (escrow : Escrow) (now : ℤ) : Except MoltError Unit × Escrow :=
  escrow.advance escrow.state.canRefund
    (.escrowFinalized escrow.id escrow.state.display)
    { escrow with state := .refunding, updatedAt := now }

/-- `Escrow::complete_refund`. -/
def completeRefund (escrow : Escrow) (signature : String) (now : ℤ) :
    Except MoltError Unit × Escrow :=
  escrow.advance (escrow.state == .refunding)
    (.escrowError ("cannot complete refund in state " ++ escrow.state.display))
    { escrow with state := .refunded, refundSignature := some signature, updatedAt := now }

/-- `Escrow::dispute`. -/
def dispute (escrow : Escrow) (reason : String) (now : ℤ) : Except MoltError Unit × Escrow :=
  escrow.advance escrow.state.canDispute
    (.escrowError ("cannot dispute escrow in state " ++ escrow.state.display))
    { escrow with state := .disputed, disputeReason := some reason, updatedAt := now }

/-- `Escrow::mark_expired`, the one method without a guard. -/
def markExpired (escrow : Escrow) (now : ℤ) : Escrow :=
  { escrow with state := .expired, updatedAt := now }

end Escrow

/-! ### Runs of method calls -/

/-- A call of one of the methods, with its arguments and its clock reading. -/
inductive EscrowCall where
  | activate (now : ℤ)
  | startRelease (now : ℤ)
  | completeRelease (signature : String) (now : ℤ)
  | startRefund (now : ℤ)
  | completeRefund (signature : String) (now : ℤ)
  | dispute (reason : String) (now : ℤ)
  | markExpired (now : ℤ)
  deriving DecidableEq

namespace Escrow

/-- The escrow after a call, whether the call succeeded or failed. -/
def call (escrow : Escrow) : EscrowCall → Escrow
  | .activate now => (escrow.activate now).2
  | .startRelease now => (escrow.startRelease now).2
  | .completeRelease signature now => (escrow.completeRelease signature now).2
  | .startRefund now => (escrow.startRefund now).2
  | .completeRefund signature now => (escrow.completeRefund signature now).2
  | .dispute reason now => (escrow.dispute reason now).2
  | .markExpired now => escrow.markExpired now

/-- What a call can do to the state and the two signatures: nothing, a move between two states that
are not terminal, a completed release, a completed refund, or an expiry from any state. -/
inductive Moves (escrow next : Escrow) : Prop where
  | stays (hnext : next = escrow)
  | opens (hbefore : escrow.state.isTerminal = false) (hafter : next.state.isTerminal = false)
      (hrelease : next.releaseSignature = escrow.releaseSignature)
      (hrefund : next.refundSignature = escrow.refundSignature)
  | releases (hbefore : escrow.state = .releasing) (hafter : next.state = .released)
      (hrefund : next.refundSignature = escrow.refundSignature)
  | refunds (hbefore : escrow.state = .refunding) (hafter : next.state = .refunded)
      (hrelease : next.releaseSignature = escrow.releaseSignature)
  | expires (hafter : next.state = .expired)
      (hrelease : next.releaseSignature = escrow.releaseSignature)
      (hrefund : next.refundSignature = escrow.refundSignature)

/-- A guarded method whose update is one of the moves makes one of the moves. -/
theorem Moves.of_advance {escrow updated : Escrow} {guard : Bool} (refusal : MoltError)
    (hmoves : guard = true → escrow.Moves updated) :
    escrow.Moves (escrow.advance guard refusal updated).2 := by
  obtain hstays | ⟨hguard, hupdated⟩ := advance_snd_cases escrow guard refusal updated
  · exact .stays hstays
  · rw [hupdated]
    exact hmoves hguard

/-- Every call makes one of the moves. -/
theorem call_cases (escrow : Escrow) (call : EscrowCall) : escrow.Moves (escrow.call call) := by
  cases call with
  | activate now =>
    refine Moves.of_advance _ fun hguard ↦ .opens ?_ rfl rfl rfl
    rw [beq_iff_eq.mp hguard]
    rfl
  | startRelease now =>
    refine Moves.of_advance _ fun hguard ↦ .opens ?_ rfl rfl rfl
    revert hguard
    cases escrow.state <;> decide
  | completeRelease signature now =>
    exact Moves.of_advance _ fun hguard ↦ .releases (beq_iff_eq.mp hguard) rfl rfl
  | startRefund now =>
    refine Moves.of_advance _ fun hguard ↦ .opens ?_ rfl rfl rfl
    revert hguard
    cases escrow.state <;> decide
  | completeRefund signature now =>
    exact Moves.of_advance _ fun hguard ↦ .refunds (beq_iff_eq.mp hguard) rfl rfl
  | dispute reason now =>
    refine Moves.of_advance _ fun hguard ↦ .opens ?_ rfl rfl rfl
    revert hguard
    cases escrow.state <;> decide
  | markExpired now => exact .expires rfl rfl rfl

/-- A call other than `markExpired` leaves a terminal state alone. -/
theorem call_terminal {escrow : Escrow} {call : EscrowCall}
    (hterminal : escrow.state.isTerminal = true) (hcall : ∀ now, call ≠ .markExpired now) :
    (escrow.call call).state = escrow.state := by
  revert hterminal
  cases call with
  | markExpired now => exact absurd rfl (hcall now)
  | _ =>
    simp only [Escrow.call, activate, startRelease, completeRelease, startRefund, completeRefund,
      dispute, advance]
    cases hstate : escrow.state <;>
      simp [EscrowState.isTerminal, EscrowState.canRelease, EscrowState.canRefund,
        EscrowState.canDispute, hstate]

/-! ### Signatures -/

/-- A release signature is found only on a released or later expired escrow, a refund signature
only on a refunded or later expired one, and never both. -/
structure SignaturesAgree (escrow : Escrow) : Prop where
  release : escrow.releaseSignature.isSome = true →
    escrow.state = .released ∨ escrow.state = .expired
  refund : escrow.refundSignature.isSome = true →
    escrow.state = .refunded ∨ escrow.state = .expired
  exclusive : ¬ (escrow.releaseSignature.isSome = true ∧ escrow.refundSignature.isSome = true)

/-- A new escrow carries no signature. -/
theorem signaturesAgree_new (id : String) (now : ℤ) (buyer provider : Address) (amount : Amount)
    (jobId : String) (durationHours : Option ℤ) :
    (new id now buyer provider amount jobId durationHours).SignaturesAgree :=
  ⟨nofun, nofun, nofun⟩

/-- An escrow in a state that is not terminal carries no signature. -/
theorem SignaturesAgree.unsigned {escrow : Escrow} (hagree : escrow.SignaturesAgree)
    (hopen : escrow.state.isTerminal = false) :
    ¬ escrow.releaseSignature.isSome = true ∧ ¬ escrow.refundSignature.isSome = true := by
  constructor
  · intro hsigned
    obtain hstate | hstate := hagree.release hsigned <;>
      simp [hstate, EscrowState.isTerminal] at hopen
  · intro hsigned
    obtain hstate | hstate := hagree.refund hsigned <;>
      simp [hstate, EscrowState.isTerminal] at hopen

/-- Every call keeps the signatures in agreement with the state. -/
theorem signaturesAgree_call {escrow : Escrow} (hagree : escrow.SignaturesAgree)
    (call : EscrowCall) : (escrow.call call).SignaturesAgree := by
  generalize hnext : escrow.call call = next
  have hmoves : escrow.Moves next := hnext ▸ call_cases escrow call
  cases hmoves with
  | stays hsame => rw [hsame]; exact hagree
  | opens hbefore hafter hrelease hrefund =>
    have hunsigned := hagree.unsigned hbefore
    rw [← hrelease, ← hrefund] at hunsigned
    exact ⟨fun h ↦ absurd h hunsigned.1, fun h ↦ absurd h hunsigned.2,
      fun h ↦ absurd h.1 hunsigned.1⟩
  | releases hbefore hafter hrefund =>
    have hunsigned := (hagree.unsigned (by rw [hbefore]; rfl)).2
    rw [← hrefund] at hunsigned
    exact ⟨fun _ ↦ Or.inl hafter, fun h ↦ absurd h hunsigned, fun h ↦ absurd h.2 hunsigned⟩
  | refunds hbefore hafter hrelease =>
    have hunsigned := (hagree.unsigned (by rw [hbefore]; rfl)).1
    rw [← hrelease] at hunsigned
    exact ⟨fun h ↦ absurd h hunsigned, fun _ ↦ Or.inl hafter, fun h ↦ absurd h.1 hunsigned⟩
  | expires hafter hrelease hrefund =>
    refine ⟨fun _ ↦ Or.inr hafter, fun _ ↦ Or.inr hafter, ?_⟩
    rw [hrelease, hrefund]
    exact hagree.exclusive

/-! ### Finality -/

/-- The promise of finality along a run of calls: no call changes a terminal state, and no state of
the run carries both signatures. -/
def Finality (start : Escrow) (calls : List EscrowCall) : Prop :=
  Throughout call
      (fun escrow next ↦ escrow.state.isTerminal = true → (escrow.call next).state = escrow.state)
      start calls ∧
    Always call
      (fun escrow ↦
        ¬ (escrow.releaseSignature.isSome = true ∧ escrow.refundSignature.isSome = true))
      start calls

/-- No call of the run is a `markExpired` on a released or refunded escrow. -/
def NoLateExpiry (start : Escrow) (calls : List EscrowCall) : Prop :=
  Throughout call
    (fun escrow next ↦ ∀ now, next = .markExpired now →
      escrow.state ≠ .released ∧ escrow.state ≠ .refunded)
    start calls

/-- One call keeps a terminal state if and only if it is not a late expiry. -/
theorem call_keeps_terminal_iff (escrow : Escrow) (next : EscrowCall) :
    (escrow.state.isTerminal = true → (escrow.call next).state = escrow.state) ↔
      ∀ now, next = .markExpired now → escrow.state ≠ .released ∧ escrow.state ≠ .refunded := by
  constructor
  · intro hkeeps now hnext
    subst hnext
    have hkept : escrow.state.isTerminal = true → EscrowState.expired = escrow.state := hkeeps
    revert hkept
    cases escrow.state <;> decide
  · intro hlate hterminal
    by_cases hexpiry : ∃ now, next = .markExpired now
    · obtain ⟨now, rfl⟩ := hexpiry
      have hnot := hlate now rfl
      change EscrowState.expired = escrow.state
      revert hnot hterminal
      cases escrow.state <;> decide
    · exact call_terminal hterminal fun now hnext ↦ hexpiry ⟨now, hnext⟩

/-- A run from a new escrow keeps terminal states final and its two signatures exclusive if and
only if it never marks a released or refunded escrow as expired. -/
theorem finality_iff_no_late_expiry (id : String) (now : ℤ) (buyer provider : Address)
    (amount : Amount) (jobId : String) (durationHours : Option ℤ) (calls : List EscrowCall) :
    Finality (new id now buyer provider amount jobId durationHours) calls ↔
      NoLateExpiry (new id now buyer provider amount jobId durationHours) calls := by
  have hagree : Always call SignaturesAgree
      (new id now buyer provider amount jobId durationHours) calls :=
    always_of_step (signaturesAgree_new id now buyer provider amount jobId durationHours)
      (fun _ next hbefore ↦ signaturesAgree_call hbefore next) calls
  constructor
  · intro hfinal done next hdone
    exact (call_keeps_terminal_iff _ _).mp (hfinal.1 done next hdone)
  · intro hlate
    refine ⟨fun done next hdone ↦ ?_, fun done hdone ↦ (hagree done hdone).exclusive⟩
    exact (call_keeps_terminal_iff _ _).mpr (hlate done next hdone)

/-- A released escrow that is then marked as expired loses its outcome. -/
theorem markExpired_undoes_release :
    ¬ Finality (new "escrow-1" 0 ⟨"buyer"⟩ ⟨"provider"⟩ ⟨100, by decide⟩ "job-1" none)
      [.activate 1, .startRelease 2, .completeRelease "sig" 3, .markExpired 4] := by
  intro hfinal
  have hkept := hfinal.1 [.activate 1, .startRelease 2, .completeRelease "sig" 3] (.markExpired 4)
    (List.prefix_refl _)
  revert hkept
  decide

end Escrow

end Clawbernetes.MoltToken
