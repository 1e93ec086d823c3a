import Clawbernetes.MoltToken.Client

/-!
# The books of the token client

What the client is for, as an account book: lamports enter by airdrops, and afterwards each of them
is in a balance, held by an active escrow, or kept as the network fee of a released one. `totalHeld`
and `totalFees` are the second and third columns beside `totalBalance`.

The first part says what each half of each method does to the columns, under the invariant
`Orderly` that the stored escrows are active, released or refunded and carry the default fee rate.
The second part runs whole, non-overlapping calls: `Ledger.call` is the client beside the running
total of its airdrops, and `balanced_throughout` is the identity of the books in every state of
every such run, with fresh escrow identifiers and airdrops that stay below `2 ^ 64`.
-/

set_option autoImplicit false
set_option relaxedAutoImplicit false

namespace Clawbernetes.MoltToken

open Library.FiniteTable Library.Runs

/-! ### The columns of the books -/

/-- What an escrow holds: its amount while it is active. -/
def heldWeight (escrow : Escrow) : ℕ :=
  if escrow.state = .active then escrow.amount.lamports else 0

/-- What an escrow has paid to the network: its fee once it is released. -/
def feeWeight (escrow : Escrow) : ℕ :=
  if escrow.state = .released then escrow.networkFee.lamports else 0

/-- The sum of the amounts of the active escrows. -/
def totalHeld (escrows : Table String Escrow) : ℕ :=
  total heldWeight escrows

/-- The sum of the network fees of the released escrows. -/
def totalFees (escrows : Table String Escrow) : ℕ :=
  total feeWeight escrows

/-- An escrow as the client stores it. -/
structure ClientEscrow (escrow : Escrow) : Prop where
  state : escrow.state = .active ∨ escrow.state = .released ∨ escrow.state = .refunded
  rate : escrow.feeRateBps = Escrow.defaultFeeRateBps

/-- The stored escrows are active, released or refunded, at the default fee rate. -/
def Orderly (escrows : Table String Escrow) : Prop :=
  ∀ id escrow, escrows.lookup id = some escrow → ClientEscrow escrow

/-- The empty client is orderly. -/
theorem orderly_empty : Orderly SimulatedState.empty.escrows := by
  intro id escrow hstored
  simp [SimulatedState.empty] at hstored

/-- Tables that agree outside one key, where the value is one the client stores, are orderly
together. -/
theorem Orderly.update {escrows updated : Table String Escrow} (horderly : Orderly escrows)
    {id : String} {value : Escrow} (hvalue : ClientEscrow value)
    (hid : updated.lookup id = some value)
    (hothers : ∀ other, other ≠ id → updated.lookup other = escrows.lookup other) :
    Orderly updated := by
  intro other escrow hstored
  by_cases hother : other = id
  · rw [hother, hid, Option.some_inj] at hstored
    exact hstored ▸ hvalue
  · rw [hothers other hother] at hstored
    exact horderly other escrow hstored

/-- Exchanging a stored escrow for one that the client stores keeps the client orderly. -/
theorem Orderly.rewrite {escrows updated : Table String Escrow} (horderly : Orderly escrows)
    {id : String} {old value : Escrow} (hvalue : ClientEscrow value)
    (hrewrites : Rewrites escrows updated id old value) : Orderly updated :=
  horderly.update hvalue hrewrites.after hrewrites.others

/-- An escrow that the client stores divides its amount into the fee and the payout. -/
theorem ClientEscrow.fee_add_payout {escrow : Escrow} (hclient : ClientEscrow escrow) :
    escrow.networkFee.lamports + escrow.providerPayout.lamports = escrow.amount.lamports := by
  refine Escrow.networkFee_add_providerPayout ?_
  rw [hclient.rate]
  decide

/-! ### What the halves of the calls do to the columns -/

section Columns

variable {escrow : Escrow}

/-- A new escrow is stored as one that the client stores. -/
theorem clientEscrow_activated (hrate : escrow.feeRateBps = Escrow.defaultFeeRateBps) (now : ℤ) :
    ClientEscrow (SimulatedState.activated now escrow) :=
  ⟨Or.inl rfl, hrate⟩

/-- Storing an activated escrow keeps the client orderly. -/
theorem Orderly.insert_activated {escrows : Table String Escrow} (horderly : Orderly escrows)
    (hrate : escrow.feeRateBps = Escrow.defaultFeeRateBps) (now : ℤ) :
    Orderly (escrows.insert escrow.id (SimulatedState.activated now escrow)) :=
  horderly.update (clientEscrow_activated hrate now) (AList.lookup_insert _)
    fun _ hother ↦ AList.lookup_insert_ne hother

/-- Storing an activated escrow under a fresh identifier adds its amount to the held column. -/
theorem activated_columns {escrows : Table String Escrow}
    (hfresh : escrows.lookup escrow.id = none) (now : ℤ) :
    totalHeld (escrows.insert escrow.id (SimulatedState.activated now escrow)) =
        totalHeld escrows + escrow.amount.lamports ∧
      totalFees (escrows.insert escrow.id (SimulatedState.activated now escrow)) =
        totalFees escrows := by
  constructor
  · exact total_insert_of_none heldWeight hfresh _
  · exact total_insert_of_none feeWeight hfresh _

/-- The escrow of a successful release was active, and releasing it moves its amount out of the
held column and its fee into the fee column. -/
theorem release_columns {id : String} {completed : ℤ} {escrows updated : Table String Escrow}
    (horderly : Orderly escrows) (hactive : escrow.state = .active)
    (hrewrites : Rewrites escrows updated id escrow (SimulatedState.released id completed escrow)) :
    Orderly updated ∧ totalHeld updated + escrow.amount.lamports = totalHeld escrows ∧
      totalFees updated = totalFees escrows + escrow.networkFee.lamports := by
  have hclient := horderly id escrow hrewrites.before
  have hreleased : ClientEscrow (SimulatedState.released id completed escrow) :=
    ⟨Or.inr (Or.inl rfl), hclient.rate⟩
  refine ⟨horderly.rewrite hreleased hrewrites, ?_, ?_⟩
  · have hheld := hrewrites.total heldWeight
    unfold totalHeld
    simpa [heldWeight, SimulatedState.released, hactive] using hheld
  · have hfees := hrewrites.total feeWeight
    have hfee : feeWeight (SimulatedState.released id completed escrow) =
        escrow.networkFee.lamports := rfl
    rw [hfee] at hfees
    unfold totalFees
    simpa [feeWeight, hactive] using hfees

/-- The escrow of a successful refund was active, and refunding it moves its amount out of the held
column. -/
theorem refund_columns {id : String} {completed : ℤ} {escrows updated : Table String Escrow}
    (horderly : Orderly escrows) (hopen : escrow.state = .active ∨ escrow.state = .disputed)
    (hrewrites : Rewrites escrows updated id escrow (SimulatedState.refunded id completed escrow)) :
    Orderly updated ∧ totalHeld updated + escrow.amount.lamports = totalHeld escrows ∧
      totalFees updated = totalFees escrows := by
  have hclient := horderly id escrow hrewrites.before
  have hactive : escrow.state = .active := by
    rcases hopen with hstate | hstate
    · exact hstate
    · rcases hclient.state with hother | hother | hother <;> simp [hother] at hstate
  have hrefunded : ClientEscrow (SimulatedState.refunded id completed escrow) :=
    ⟨Or.inr (Or.inr rfl), hclient.rate⟩
  refine ⟨horderly.rewrite hrefunded hrewrites, ?_, ?_⟩
  · have hheld := hrewrites.total heldWeight
    unfold totalHeld
    simpa [heldWeight, SimulatedState.refunded, hactive] using hheld
  · have hfees := hrewrites.total feeWeight
    unfold totalFees
    simpa [feeWeight, SimulatedState.refunded, hactive] using hfees

end Columns

/-! ### Runs of whole calls -/

/-- A complete call of the client with its arguments, generated identifier and clock readings. -/
inductive ClientCall where
  | airdrop (address : Address) (amount : Amount)
  | transfer (sender : Wallet) (recipient : Address) (amount : Amount) (id : String)
      (created submitted finalized : ℤ)
  | createEscrow (buyer : Wallet) (provider : Address) (amount : Amount) (jobId id : String)
      (created activated : ℤ)
  | releaseEscrow (id : String) (started completed : ℤ)
  | refundEscrow (id : String) (started completed : ℤ)
  deriving DecidableEq

/-- The client beside the total of its successful airdrops. -/
structure Ledger where
  state : SimulatedState
  airdropped : ℕ

namespace Ledger

/-- The empty client, before any airdrop. -/
def start : Ledger := ⟨SimulatedState.empty, 0⟩

/-- The ledger after a call, whether the call succeeded or failed. -/
def call (network : Network) (ledger : Ledger) : ClientCall → Ledger
  | .airdrop address amount =>
    match SimulatedState.airdrop network ledger.state address amount with
    | (.ok (), next) => ⟨next, ledger.airdropped + amount.lamports⟩
    | (.error _, next) => ⟨next, ledger.airdropped⟩
  | .transfer sender recipient amount id created submitted finalized =>
    ⟨(ledger.state.transfer sender recipient amount id created submitted finalized).2,
      ledger.airdropped⟩
  | .createEscrow buyer provider amount jobId id created activated =>
    ⟨(ledger.state.createEscrow buyer provider amount jobId id created activated).2,
      ledger.airdropped⟩
  | .releaseEscrow id started completed =>
    ⟨(ledger.state.releaseEscrow id started completed).2, ledger.airdropped⟩
  | .refundEscrow id started completed =>
    ⟨(ledger.state.refundEscrow id started completed).2, ledger.airdropped⟩

/-- The identifier that a call generates for a new escrow is not in use. -/
def FreshId (ledger : Ledger) : ClientCall → Prop
  | .createEscrow _ _ _ _ id _ _ => ledger.state.escrows.lookup id = none
  | _ => True

/-- The identity of the books: every airdropped lamport is in a balance, held by an active escrow,
or the fee of a released one. -/
def Balanced (ledger : Ledger) : Prop :=
  ledger.airdropped = totalBalance ledger.state.accounts + totalHeld ledger.state.escrows +
    totalFees ledger.state.escrows

/-- What a run of whole calls preserves. -/
structure Kept (ledger : Ledger) : Prop where
  orderly : Orderly ledger.state.escrows
  balanced : ledger.Balanced

variable {ledger : Ledger}

/-- A transfer moves an amount that the sender covers from one balance to another. -/
theorem kept_transfer (hkept : ledger.Kept) (hfits : ledger.airdropped < 2 ^ 64) (sender : Wallet)
    (recipient : Address) (amount : Amount) (id : String) (created submitted finalized : ℤ) :
    Kept ⟨(ledger.state.transfer sender recipient amount id created submitted finalized).2,
      ledger.airdropped⟩ := by
  unfold SimulatedState.transfer
  cases hcheck : ledger.state.checkBalance sender.address amount with
  | error failure => exact hkept
  | ok _ =>
    have hcovered := SimulatedState.covered_of_checkBalance hcheck
    have hdebit := totalBalance_debit hcovered
    have hbalanced := hkept.balanced
    unfold Balanced at hbalanced
    have hdeducted : totalBalance (debit ledger.state.accounts sender.address.asStr amount) +
        amount.lamports < 2 ^ 64 := by omega
    have hcredit := totalBalance_credit hdeducted recipient.asStr
    refine ⟨hkept.orderly, ?_⟩
    simp only [Balanced, SimulatedState.commitTransfer]
    omega

/-- Creating an escrow moves an amount that the buyer covers from a balance into the held column. -/
theorem kept_createEscrow (hkept : ledger.Kept) (buyer : Wallet) (provider : Address)
    (amount : Amount) (jobId id : String) (created activated : ℤ)
    (hfresh : ledger.state.escrows.lookup id = none) :
    Kept ⟨(ledger.state.createEscrow buyer provider amount jobId id created activated).2,
      ledger.airdropped⟩ := by
  unfold SimulatedState.createEscrow
  cases hcheck : ledger.state.checkBalance buyer.address amount with
  | error failure => exact hkept
  | ok _ =>
    have hcovered := SimulatedState.covered_of_checkBalance hcheck
    have hdebit := totalBalance_debit hcovered
    have hbalanced := hkept.balanced
    unfold Balanced at hbalanced
    rw [SimulatedState.commitEscrow_of_creating ledger.state rfl activated]
    refine ⟨hkept.orderly.insert_activated rfl activated, ?_⟩
    have hnew : ledger.state.escrows.lookup
        (Escrow.new id created buyer.address provider amount jobId none).id = none := hfresh
    obtain ⟨hheld, hfees⟩ := activated_columns hnew activated
    unfold Balanced
    dsimp only
    rw [hheld, hfees]
    change ledger.airdropped =
      totalBalance (debit ledger.state.accounts buyer.address.asStr amount) +
      (totalHeld ledger.state.escrows + amount.lamports) + totalFees ledger.state.escrows
    omega

/-- A release pays the payout out of the held column and leaves the fee in the fee column. -/
theorem kept_releaseEscrow (hkept : ledger.Kept) (hfits : ledger.airdropped < 2 ^ 64) (id : String)
    (started completed : ℤ) :
    Kept ⟨(ledger.state.releaseEscrow id started completed).2, ledger.airdropped⟩ := by
  have hsettled := SimulatedState.releaseEscrow_cases ledger.state id started completed
  generalize ledger.state.releaseEscrow id started completed = outcome at hsettled
  cases hsettled with
  | failed failure => exact hkept
  | paid hactive hrewrites =>
    rename_i escrow updated
    obtain ⟨horderly, hheld, hfees⟩ := release_columns hkept.orderly hactive hrewrites
    have hsplit := (hkept.orderly id escrow hrewrites.before).fee_add_payout
    have hbalanced := hkept.balanced
    unfold Balanced at hbalanced
    have hroom : totalBalance ledger.state.accounts + escrow.providerPayout.lamports < 2 ^ 64 := by
      omega
    have hcredit := totalBalance_credit hroom escrow.provider.asStr
    refine ⟨horderly, ?_⟩
    unfold Balanced
    dsimp only
    omega

/-- A refund pays the amount out of the held column. -/
theorem kept_refundEscrow (hkept : ledger.Kept) (hfits : ledger.airdropped < 2 ^ 64) (id : String)
    (started completed : ℤ) :
    Kept ⟨(ledger.state.refundEscrow id started completed).2, ledger.airdropped⟩ := by
  have hsettled := SimulatedState.refundEscrow_cases ledger.state id started completed
  generalize ledger.state.refundEscrow id started completed = outcome at hsettled
  cases hsettled with
  | failed failure => exact hkept
  | paid hopen hrewrites =>
    rename_i escrow updated
    obtain ⟨horderly, hheld, hfees⟩ := refund_columns hkept.orderly hopen hrewrites
    have hbalanced := hkept.balanced
    unfold Balanced at hbalanced
    have hroom : totalBalance ledger.state.accounts + escrow.amount.lamports < 2 ^ 64 := by
      omega
    have hcredit := totalBalance_credit hroom escrow.buyer.asStr
    refine ⟨horderly, ?_⟩
    unfold Balanced
    dsimp only
    omega

/-- An airdrop puts its amount into a balance, or fails on the main network. -/
theorem kept_airdrop (hkept : ledger.Kept) (network : Network) (address : Address)
    (amount : Amount)
    (hfits : (ledger.call network (.airdrop address amount)).airdropped < 2 ^ 64) :
    Kept (ledger.call network (.airdrop address amount)) := by
  unfold call SimulatedState.airdrop at hfits ⊢
  split_ifs at hfits ⊢ with hmainnet
  · exact hkept
  · have hbalanced := hkept.balanced
    unfold Balanced at hbalanced
    dsimp only at hfits
    have hroom : totalBalance ledger.state.accounts + amount.lamports < 2 ^ 64 := by omega
    have hcredit := totalBalance_credit hroom address.asStr
    refine ⟨hkept.orderly, ?_⟩
    unfold Balanced
    dsimp only
    omega

/-- A call with a fresh identifier keeps the books while the airdrops fit into 64 bits. -/
theorem kept_call {network : Network} {next : ClientCall} (hkept : ledger.Kept)
    (hbefore : ledger.airdropped < 2 ^ 64) (hfresh : ledger.FreshId next)
    (hafter : (ledger.call network next).airdropped < 2 ^ 64) :
    (ledger.call network next).Kept := by
  cases next with
  | airdrop address amount => exact kept_airdrop hkept network address amount hafter
  | transfer sender recipient amount id created submitted finalized =>
    exact kept_transfer hkept hbefore sender recipient amount id created submitted finalized
  | createEscrow buyer provider amount jobId id created activated =>
    exact kept_createEscrow hkept buyer provider amount jobId id created activated hfresh
  | releaseEscrow id started completed =>
    exact kept_releaseEscrow hkept hbefore id started completed
  | refundEscrow id started completed => exact kept_refundEscrow hkept hbefore id started completed

/-- The identity of the books holds after every call of every run of whole calls from the empty
client, succeeding and failing ones alike, when the generated escrow identifiers are fresh and the
airdropped total stays below `2 ^ 64`. -/
theorem balanced_throughout (network : Network) (calls : List ClientCall)
    (hfresh : Throughout (call network) FreshId start calls)
    (hfits : Always (call network) (fun ledger ↦ ledger.airdropped < 2 ^ 64) start calls) :
    Always (call network) Balanced start calls := by
  have hstart : start.Kept := ⟨orderly_empty, rfl⟩
  have hallowed : Throughout (call network)
      (fun ledger next ↦ ledger.airdropped < 2 ^ 64 ∧ ledger.FreshId next ∧
        (ledger.call network next).airdropped < 2 ^ 64) start calls := by
    intro done next hdone
    refine ⟨hfits done (prefix_of_concat hdone), hfresh done next hdone, ?_⟩
    have hafter := hfits (done ++ [next]) hdone
    rwa [List.foldl_concat] at hafter
  have hkept := always_of_throughout hstart
    (fun ledger next hbefore hstep ↦ kept_call hbefore hstep.1 hstep.2.1 hstep.2.2) hallowed
  exact fun done hdone ↦ (hkept done hdone).balanced

instance (ledger : Ledger) : ∀ next : ClientCall, Decidable (ledger.FreshId next)
  | .airdrop _ _ => isTrue trivial
  | .transfer _ _ _ _ _ _ _ => isTrue trivial
  | .createEscrow _ _ _ _ id _ _ =>
    inferInstanceAs (Decidable (ledger.state.escrows.lookup id = none))
  | .releaseEscrow _ _ _ => isTrue trivial
  | .refundEscrow _ _ _ => isTrue trivial

/-- A run with an airdrop, a transfer to oneself, a transfer that is too large, an escrow between a
wallet and itself that is released, one that is refunded, and a second release that fails. -/
def exampleCalls : List ClientCall :=
  [.airdrop ⟨"alice"⟩ ⟨1000, by decide⟩,
    .transfer ⟨⟨"alice"⟩⟩ ⟨"alice"⟩ ⟨400, by decide⟩ "tx-1" 1 2 3,
    .transfer ⟨⟨"bob"⟩⟩ ⟨"alice"⟩ ⟨1, by decide⟩ "tx-2" 4 5 6,
    .createEscrow ⟨⟨"alice"⟩⟩ ⟨"alice"⟩ ⟨100, by decide⟩ "job-1" "escrow-1" 7 8,
    .releaseEscrow "escrow-1" 9 10,
    .createEscrow ⟨⟨"alice"⟩⟩ ⟨"bob"⟩ ⟨50, by decide⟩ "job-2" "escrow-2" 11 12,
    .refundEscrow "escrow-2" 13 14,
    .releaseEscrow "escrow-1" 15 16]

/-- The books balance along the example run. -/
theorem balanced_throughout_exampleCalls :
    Throughout (call .devnet) FreshId start exampleCalls ∧
      Always (call .devnet) Balanced start exampleCalls :=
  ⟨by decide +kernel,
    balanced_throughout .devnet exampleCalls (by decide +kernel) (by decide +kernel)⟩

end Ledger

end Clawbernetes.MoltToken
