import Clawbernetes.MoltToken.Escrow
import Clawbernetes.Library.FiniteTable

/-!
# The token client

`client.rs` over its simulated backend. `SimulatedState` has the three hash maps of the source, and
each method is a function of the state it finds under the lock. `transfer` and `createEscrow` take
the lock twice in the source, once for the balance check and once for the block that moves funds;
the two halves are separate functions here (`checkBalance`, and `commitTransfer` or
`commitEscrow`), so that other calls can be placed between them. `releaseEscrow` and
`refundEscrow` hold the lock throughout and share the shape `settleEscrow`.

`settleEscrow_cases` is the specification of that shape: a settlement either fails and leaves the
state exactly as it was, or credits one payee once and moves one escrow to its final state.
-/

set_option autoImplicit false
set_option relaxedAutoImplicit false

namespace Clawbernetes.MoltToken

open Library.FiniteTable

/-- `Network`. -/
inductive Network where
  | mainnet
  | devnet
  | testnet
  | localnet
  deriving DecidableEq

/-- `TransactionStatus`. -/
inductive TransactionStatus where
  | pending
  | submitted
  | processing
  | confirmed
  | finalized
  | failed
  deriving DecidableEq

/-- `TransactionType`. -/
inductive TransactionType where
  | transfer
  | escrowCreate
  | escrowRelease
  | escrowRefund
  | deposit
  | withdraw
  deriving DecidableEq

/-- `Transaction`. The source's `from` and `to` are `sender` and `recipient`. -/
structure Transaction where
  id : String
  txType : TransactionType
  sender : Address
  recipient : Option Address
  amount : Amount
  status : TransactionStatus
  signature : Option String
  createdAt : ℤ
  updatedAt : ℤ
  error : Option String
  escrowId : Option String
  deriving DecidableEq

namespace Transaction

/-- `Transaction::transfer`, with the generated identifier and the clock reading as arguments. -/
def transfer (id : String) (now : ℤ) (sender recipient : Address) (amount : Amount) :
    Transaction where
  id := id
  txType := .transfer
  sender := sender
  recipient := some recipient
  amount := amount
  status := .pending
  signature := none
  createdAt := now
  updatedAt := now
  error := none
  escrowId := none

/-- `Transaction::mark_submitted`. -/
def markSubmitted (tx : Transaction) (signature : String) (now : ℤ) : Transaction :=
  { tx with status := .submitted, signature := some signature, updatedAt := now }

/-- `Transaction::mark_finalized`. -/
def markFinalized (tx : Transaction) (now : ℤ) : Transaction :=
  { tx with status := .finalized, updatedAt := now }

end Transaction

/-- `SimulatedAccount`. -/
structure SimulatedAccount where
  balance : Amount
  deriving DecidableEq

/-- The accounts of the simulated backend, by address text. -/
abbrev Accounts := Table String SimulatedAccount

/-- `SimulatedState`. -/
structure SimulatedState where
  accounts : Accounts
  transactions : Table String Transaction
  escrows : Table String Escrow

/-! ### Accounts -/

/-- The balance of an account, zero where there is none. -/
def balanceOf (accounts : Accounts) (key : String) : Amount :=
  (accounts.lookup key).elim Amount.zero SimulatedAccount.balance

/-- The source's `entry(key).or_insert(ZERO)` followed by a saturating addition. -/
def credit (accounts : Accounts) (key : String) (amount : Amount) : Accounts :=
  accounts.insert key ⟨(balanceOf accounts key).saturatingAdd amount⟩

/-- The source's `get_mut(key)` followed, where the account exists, by a saturating
subtraction. -/
def debit (accounts : Accounts) (key : String) (amount : Amount) : Accounts :=
  match accounts.lookup key with
  | none => accounts
  | some account => accounts.replace key ⟨account.balance.saturatingSub amount⟩

/-- The sum of all balances. -/
def totalBalance (accounts : Accounts) : ℕ :=
  total (fun account ↦ account.balance.lamports) accounts

/-- A single balance is at most the sum of all balances. -/
theorem balanceOf_le_totalBalance (accounts : Accounts) (key : String) :
    (balanceOf accounts key).lamports ≤ totalBalance accounts := by
  unfold balanceOf
  cases hlookup : accounts.lookup key with
  | none => exact Nat.zero_le _
  | some account => exact weight_le_total (fun account ↦ account.balance.lamports) hlookup

/-- Crediting exchanges the old balance for the saturated new one. -/
theorem totalBalance_credit_exchange (accounts : Accounts) (key : String) (amount : Amount) :
    totalBalance (credit accounts key amount) + (balanceOf accounts key).lamports =
      totalBalance accounts + ((balanceOf accounts key).saturatingAdd amount).lamports := by
  unfold credit totalBalance balanceOf
  cases hlookup : accounts.lookup key with
  | none => simp [total_insert_of_none _ hlookup]
  | some account =>
    exact total_insert_of_some (fun account ↦ account.balance.lamports) hlookup _

/-- Crediting adds at most the credited amount. -/
theorem totalBalance_credit_le (accounts : Accounts) (key : String) (amount : Amount) :
    totalBalance (credit accounts key amount) ≤ totalBalance accounts + amount.lamports := by
  have hexchange := totalBalance_credit_exchange accounts key amount
  have hle := Amount.lamports_saturatingAdd_le (balanceOf accounts key) amount
  omega

/-- Crediting adds exactly the credited amount while the sum of all balances fits into 64 bits. -/
theorem totalBalance_credit {accounts : Accounts} {amount : Amount}
    (hfits : totalBalance accounts + amount.lamports < 2 ^ 64) (key : String) :
    totalBalance (credit accounts key amount) = totalBalance accounts + amount.lamports := by
  have hexchange := totalBalance_credit_exchange accounts key amount
  have hle := balanceOf_le_totalBalance accounts key
  have hexact : ((balanceOf accounts key).saturatingAdd amount).lamports =
      (balanceOf accounts key).lamports + amount.lamports :=
    Amount.lamports_saturatingAdd (by omega)
  omega

/-- Debiting an amount that the account covers removes exactly that amount. -/
theorem totalBalance_debit {accounts : Accounts} {key : String} {amount : Amount}
    (hcovered : amount.lamports ≤ (balanceOf accounts key).lamports) :
    totalBalance (debit accounts key amount) + amount.lamports = totalBalance accounts := by
  unfold debit totalBalance
  unfold balanceOf at hcovered
  cases hlookup : accounts.lookup key with
  | none =>
    simp only [hlookup, Option.elim_none, Amount.lamports_zero] at hcovered ⊢
    omega
  | some account =>
    simp only [hlookup, Option.elim_some] at hcovered ⊢
    have hexchange := total_replace (fun account ↦ account.balance.lamports) hlookup
      ⟨account.balance.saturatingSub amount⟩
    simp only [Amount.lamports_saturatingSub] at hexchange
    omega

/-- The credited account holds the saturated sum. -/
theorem balanceOf_credit_self (accounts : Accounts) (key : String) (amount : Amount) :
    balanceOf (credit accounts key amount) key = (balanceOf accounts key).saturatingAdd amount := by
  rw [balanceOf, credit, AList.lookup_insert]
  rfl

/-- Crediting one account is not seen at another. -/
theorem balanceOf_credit_of_ne {key other : String} (hne : other ≠ key) (accounts : Accounts)
    (amount : Amount) :
    balanceOf (credit accounts key amount) other = balanceOf accounts other := by
  rw [balanceOf, credit, AList.lookup_insert_ne hne, balanceOf]

namespace SimulatedState

/-- `SimulatedState::default`. -/
def empty : SimulatedState := ⟨∅, ∅, ∅⟩

/-! ### The methods of the client -/

/-- `MoltClient::balance`. -/
def balance (state : SimulatedState) (address : Address) : Amount :=
  balanceOf state.accounts address.asStr

/-- `MoltClient::airdrop`. -/
def airdrop (network : Network) (state : SimulatedState) (address : Address) (amount : Amount) :
    Except MoltError Unit × SimulatedState :=
  if network = .mainnet then (.error (.networkError "airdrop not available on mainnet"), state)
  else (.ok (), { state with accounts := credit state.accounts address.asStr amount })

/-- The balance check that opens `transfer` and `create_escrow`, under its own lock. -/
def checkBalance (state : SimulatedState) (address : Address) (amount : Amount) :
    Except MoltError Unit :=
  if state.balance address < amount then
    .error (.insufficientBalance (state.balance address) amount)
  else .ok ()

/-- The block of `MoltClient::transfer` under the second lock: deduct from the sender, add to the
recipient, finalize and store the transaction. -/
def commitTransfer (state : SimulatedState) (sender recipient : Address) (amount : Amount)
    (tx : Transaction) (submitted finalized : ℤ) : Transaction × SimulatedState :=
  let deducted := debit state.accounts sender.asStr amount
  let done := (tx.markSubmitted ("sig_" ++ tx.id) submitted).markFinalized finalized
  (done, { state with
    accounts := credit deducted recipient.asStr amount
    transactions := state.transactions.insert done.id done })

/-- `MoltClient::transfer` when no other call comes between its two locks. -/
def transfer (state : SimulatedState) (sender : Wallet) (recipient : Address) (amount : Amount)
    (id : String) (created submitted finalized : ℤ) :
    Except MoltError Transaction × SimulatedState :=
  match state.checkBalance sender.address amount with
  | .error failure => (.error failure, state)
  | .ok () =>
    let tx := Transaction.transfer id created sender.address recipient amount
    let done := state.commitTransfer sender.address recipient amount tx submitted finalized
    (.ok done.1, done.2)

/-- The block of `MoltClient::create_escrow` under the second lock: deduct from the buyer, activate
the escrow and store it. -/
def commitEscrow (state : SimulatedState) (escrow : Escrow) (activated : ℤ) :
    Except MoltError Escrow × SimulatedState :=
  let deducted := debit state.accounts escrow.buyer.asStr escrow.amount
  match escrow.activate activated with
  | (.error failure, _) => (.error failure, { state with accounts := deducted })
  | (.ok (), stored) =>
    (.ok stored, { state with
      accounts := deducted
      escrows := state.escrows.insert stored.id stored })

/-- `MoltClient::create_escrow` when no other call comes between its two locks. -/
def createEscrow (state : SimulatedState) (buyer : Wallet) (provider : Address) (amount : Amount)
    (jobId id : String) (created activated : ℤ) : Except MoltError Escrow × SimulatedState :=
  match state.checkBalance buyer.address amount with
  | .error failure => (.error failure, state)
  | .ok () =>
    state.commitEscrow (Escrow.new id created buyer.address provider amount jobId none) activated

/-- The shape of `release_escrow` and `refund_escrow`: start the settlement on the stored escrow,
pay its amount to its payee, and complete the settlement on the stored escrow. -/
def settleEscrow (state : SimulatedState) (id : String)
    (start : Escrow → Except MoltError Unit × Escrow) (payment : Escrow → Amount)
    (payee : Escrow → Address) (complete : Escrow → Except MoltError Unit × Escrow) :
    Except MoltError Escrow × SimulatedState :=
  match state.escrows.lookup id with
  | none => (.error (.escrowNotFound id), state)
  | some escrow =>
    match start escrow with
    | (.error failure, kept) =>
      (.error failure, { state with escrows := state.escrows.replace id kept })
    | (.ok (), started) =>
      let paid : SimulatedState := { state with
        accounts := credit state.accounts (payee started).asStr (payment started)
        escrows := state.escrows.replace id started }
      match paid.escrows.lookup id with
      | none => (.error (.escrowNotFound id), paid)
      | some stored =>
        match complete stored with
        | (.error failure, kept) =>
          (.error failure, { paid with escrows := paid.escrows.replace id kept })
        | (.ok (), completed) =>
          (.ok completed, { paid with escrows := paid.escrows.replace id completed })

/-- `MoltClient::release_escrow`. -/
def releaseEscrow (state : SimulatedState) (id : String) (started completed : ℤ) :
    Except MoltError Escrow × SimulatedState :=
  state.settleEscrow id (fun escrow ↦ escrow.startRelease started) Escrow.providerPayout
    Escrow.provider (fun escrow ↦ escrow.completeRelease ("release_" ++ id) completed)

/-- `MoltClient::refund_escrow`. -/
def refundEscrow (state : SimulatedState) (id : String) (started completed : ℤ) :
    Except MoltError Escrow × SimulatedState :=
  state.settleEscrow id (fun escrow ↦ escrow.startRefund started) Escrow.amount
    Escrow.buyer (fun escrow ↦ escrow.completeRefund ("refund_" ++ id) completed)

/-! ### What the methods do -/

/-- A passed balance check means that the account covers the amount. -/
theorem covered_of_checkBalance {state : SimulatedState} {address : Address} {amount : Amount}
    (hcheck : state.checkBalance address amount = .ok ()) :
    amount.lamports ≤ (balanceOf state.accounts address.asStr).lamports := by
  unfold checkBalance at hcheck
  split_ifs at hcheck with hshort
  exact not_lt.mp fun hlt ↦ hshort ((Amount.lt_iff _ _).mpr hlt)

/-- What settling an escrow came to: a failure that left the state exactly as it was, or the one
credit of the payment and the settled escrow in the place of the old one. -/
inductive Settled (state : SimulatedState) (id : String) (opens : Escrow → Prop)
    (payment : Escrow → Amount) (payee : Escrow → Address) (final : Escrow → Escrow) :
    Except MoltError Escrow × SimulatedState → Prop where
  | failed (failure : MoltError) :
      Settled state id opens payment payee final (.error failure, state)
  | paid {escrow : Escrow} {escrows : Table String Escrow}
      (hopens : opens escrow)
      (hrewrites : Rewrites state.escrows escrows id escrow (final escrow)) :
      Settled state id opens payment payee final
        (.ok (final escrow), { state with
          accounts := credit state.accounts (payee escrow).asStr (payment escrow)
          escrows := escrows })

/-- The specification of a settlement whose first half refuses an escrow without changing it, and
otherwise leaves the payment and the payee alone and hands over an escrow that the second half
accepts. -/
theorem settleEscrow_cases (state : SimulatedState) (id : String)
    {start : Escrow → Except MoltError Unit × Escrow} {payment : Escrow → Amount}
    {payee : Escrow → Address} {complete : Escrow → Except MoltError Unit × Escrow}
    {opens : Escrow → Prop} {final : Escrow → Escrow}
    (hrefuse : ∀ escrow, ¬ opens escrow → ∃ failure, start escrow = (.error failure, escrow))
    (hsettle : ∀ escrow, opens escrow → ∃ started, start escrow = (.ok (), started) ∧
      payment started = payment escrow ∧ payee started = payee escrow ∧
        complete started = (.ok (), final escrow)) :
    Settled state id opens payment payee final
      (state.settleEscrow id start payment payee complete) := by
  unfold settleEscrow
  cases hstored : state.escrows.lookup id with
  | none => exact .failed _
  | some escrow =>
    by_cases hopens : opens escrow
    · obtain ⟨started, hstart, hpayment, hpayee, hcomplete⟩ := hsettle escrow hopens
      have hfirst := rewrites_replace hstored started
      simp only [hstart, hfirst.after, hcomplete, hpayment, hpayee]
      exact .paid hopens (hfirst.trans (rewrites_replace hfirst.after (final escrow)))
    · obtain ⟨failure, hstart⟩ := hrefuse escrow hopens
      simp only [hstart, replace_self hstored]
      exact .failed failure

/-- A completed release of an escrow. -/
def released (id : String) (completed : ℤ) (escrow : Escrow) : Escrow :=
  { escrow with
    state := .released
    releaseSignature := some ("release_" ++ id)
    updatedAt := completed }

/-- A completed refund of an escrow. -/
def refunded (id : String) (completed : ℤ) (escrow : Escrow) : Escrow :=
  { escrow with
    state := .refunded
    refundSignature := some ("refund_" ++ id)
    updatedAt := completed }

/-- `release_escrow` pays the provider's payout of an active escrow and releases it, or fails
without a trace. -/
theorem releaseEscrow_cases (state : SimulatedState) (id : String) (started completed : ℤ) :
    Settled state id (fun escrow ↦ escrow.state = .active) Escrow.providerPayout Escrow.provider
      (released id completed) (state.releaseEscrow id started completed) := by
  refine settleEscrow_cases state id (fun escrow hclosed ↦ ?_) fun escrow hactive ↦ ?_
  · have hguard : escrow.state.canRelease = false := by
      revert hclosed
      cases escrow.state <;> decide
    simp [Escrow.startRelease, Escrow.advance, hguard]
  · refine ⟨{ escrow with state := .releasing, updatedAt := started }, ?_, rfl, rfl, ?_⟩
    · simp [Escrow.startRelease, Escrow.advance, EscrowState.canRelease, hactive]
    · simp [Escrow.completeRelease, Escrow.advance, released]

/-- `refund_escrow` pays the full amount of an active or disputed escrow back to the buyer and
refunds it, or fails without a trace. -/
theorem refundEscrow_cases (state : SimulatedState) (id : String) (started completed : ℤ) :
    Settled state id (fun escrow ↦ escrow.state = .active ∨ escrow.state = .disputed)
      Escrow.amount Escrow.buyer (refunded id completed)
      (state.refundEscrow id started completed) := by
  refine settleEscrow_cases state id (fun escrow hclosed ↦ ?_) fun escrow hopen ↦ ?_
  · have hguard : escrow.state.canRefund = false := by
      revert hclosed
      cases escrow.state <;> decide
    simp [Escrow.startRefund, Escrow.advance, hguard]
  · refine ⟨{ escrow with state := .refunding, updatedAt := started }, ?_, rfl, rfl, ?_⟩
    · rcases hopen with hstate | hstate <;>
        simp [Escrow.startRefund, Escrow.advance, EscrowState.canRefund, hstate]
    · simp [Escrow.completeRefund, Escrow.advance, refunded]

/-- The escrow as `create_escrow` stores it. -/
def activated (now : ℤ) (escrow : Escrow) : Escrow :=
  { escrow with state := .active, updatedAt := now }

/-- The second half of `create_escrow` on a new escrow stores it as active. -/
theorem commitEscrow_of_creating (state : SimulatedState) {escrow : Escrow}
    (hcreating : escrow.state = .creating) (now : ℤ) :
    state.commitEscrow escrow now =
      (.ok (activated now escrow), { state with
        accounts := debit state.accounts escrow.buyer.asStr escrow.amount
        escrows := state.escrows.insert escrow.id (activated now escrow) }) := by
  simp [commitEscrow, Escrow.activate, Escrow.advance, hcreating, activated]

end SimulatedState

end Clawbernetes.MoltToken
