import Clawbernetes.MoltToken.Ledger

/-!
# Interleaved calls of the token client

Any number of calls of the client run at once. A `transfer` or `create_escrow` takes the lock
twice: it checks the balance in one step and moves the funds in a later one, and every other call
may come between. `World` is the backend beside the calls that have passed their check and not yet
moved funds, and `ClientStep` has the lock sections as its steps, so that a run of `World.step` is
an interleaving of calls. A call in flight may also never finish.

The check and the deduction do not see the same balance, and the deduction saturates, so two calls
in flight can spend one balance twice (`double_spend`). `solvent_of_covered` is what the code does
guarantee: as long as every deduction finds its amount still in the account, balances and active
escrows together never exceed what was airdropped.

`settlement_once` is about `release_escrow` and `refund_escrow`, which hold the lock throughout: at
most one of them succeeds for each escrow, the success credits its payee once, and a call that
fails leaves no trace. The credit saturates at `u64::MAX` (`release_into_full_account`).
-/

set_option autoImplicit false
set_option relaxedAutoImplicit false

namespace Clawbernetes.MoltToken

open Library.FiniteTable Library.Runs

/-- A call that has passed its balance check and has not yet taken the lock again. -/
inductive PendingCall where
  | transfer (sender recipient : Address) (amount : Amount) (tx : Transaction)
  | createEscrow (escrow : Escrow)
  deriving DecidableEq

namespace PendingCall

/-- The account that the call is going to deduct from. -/
def payer : PendingCall → Address
  | transfer sender _ _ _ => sender
  | createEscrow escrow => escrow.buyer

/-- The amount that the call is going to deduct. -/
def amount : PendingCall → Amount
  | transfer _ _ amount _ => amount
  | createEscrow escrow => escrow.amount

end PendingCall

/-- A lock section of a call. `beginTransfer` and `beginCreateEscrow` are the balance checks, and
`finish` is the second lock section of a call in flight, with its clock readings. -/
inductive ClientStep where
  | airdrop (address : Address) (amount : Amount)
  | beginTransfer (sender : Wallet) (recipient : Address) (amount : Amount) (id : String)
      (created : ℤ)
  | beginCreateEscrow (buyer : Wallet) (provider : Address) (amount : Amount) (jobId id : String)
      (created : ℤ)
  | finish (index : ℕ) (first second : ℤ)
  | releaseEscrow (id : String) (started completed : ℤ)
  | refundEscrow (id : String) (started completed : ℤ)
  deriving DecidableEq

/-- The backend, the calls in flight, and the total of the successful airdrops so far. -/
structure World where
  state : SimulatedState
  pending : List PendingCall
  airdropped : ℕ

namespace World

/-- The empty client with no call in flight. -/
def start : World := ⟨SimulatedState.empty, [], 0⟩

/-- The result of one lock section and the world after it. -/
def perform (network : Network) (world : World) : ClientStep → Except MoltError Unit × World
  | .airdrop address amount =>
    match SimulatedState.airdrop network world.state address amount with
    | (.ok (), next) =>
      (.ok (), { world with state := next, airdropped := world.airdropped + amount.lamports })
    | (.error failure, next) => (.error failure, { world with state := next })
  | .beginTransfer sender recipient amount id created =>
    match world.state.checkBalance sender.address amount with
    | .error failure => (.error failure, world)
    | .ok () =>
      let tx := Transaction.transfer id created sender.address recipient amount
      (.ok (), { world with
        pending := world.pending ++ [.transfer sender.address recipient amount tx] })
  | .beginCreateEscrow buyer provider amount jobId id created =>
    match world.state.checkBalance buyer.address amount with
    | .error failure => (.error failure, world)
    | .ok () =>
      let escrow := Escrow.new id created buyer.address provider amount jobId none
      (.ok (), { world with pending := world.pending ++ [.createEscrow escrow] })
  | .finish index first second =>
    match world.pending[index]? with
    | none => (.ok (), world)
    | some (.transfer sender recipient amount tx) =>
      (.ok (), { world with
        state := (world.state.commitTransfer sender recipient amount tx first second).2
        pending := world.pending.eraseIdx index })
    | some (.createEscrow escrow) =>
      let done := world.state.commitEscrow escrow first
      (done.1.map fun _ ↦ (), { world with
        state := done.2
        pending := world.pending.eraseIdx index })
  | .releaseEscrow id started completed =>
    let done := world.state.releaseEscrow id started completed
    (done.1.map fun _ ↦ (), { world with state := done.2 })
  | .refundEscrow id started completed =>
    let done := world.state.refundEscrow id started completed
    (done.1.map fun _ ↦ (), { world with state := done.2 })

/-- The world after one lock section. -/
def step (network : Network) (world : World) (next : ClientStep) : World :=
  (world.perform network next).2

/-! ### Calls in flight -/

/-- The escrows in flight are as `Escrow::new` made them. -/
def PendingNew (world : World) : Prop :=
  ∀ escrow, .createEscrow escrow ∈ world.pending →
    escrow.state = .creating ∧ escrow.feeRateBps = Escrow.defaultFeeRateBps

/-- What every interleaving preserves: the stored escrows are orderly and the escrows in flight are
new. -/
structure Sound (world : World) : Prop where
  orderly : Orderly world.state.escrows
  pendingNew : world.PendingNew

/-- The empty client is sound. -/
theorem sound_start : start.Sound :=
  ⟨orderly_empty, fun _ hpending ↦ absurd hpending List.not_mem_nil⟩

variable {network : Network} {world : World}

/-- What one lock section can do, with its result: fail without a trace, find no call to finish,
credit an airdrop, put a call into flight after its balance check, finish a call in flight, or
settle an escrow. -/
inductive Effect (network : Network) (world : World) :
    ClientStep → Except MoltError Unit × World → Prop where
  | failed {next : ClientStep} (failure : MoltError) :
      Effect network world next (.error failure, world)
  | idle {index : ℕ} {first second : ℤ} (hnone : world.pending[index]? = none) :
      Effect network world (.finish index first second) (.ok (), world)
  | airdropped {address : Address} {amount : Amount} :
      Effect network world (.airdrop address amount) (.ok (), { world with
        state := { world.state with
          accounts := credit world.state.accounts address.asStr amount }
        airdropped := world.airdropped + amount.lamports })
  | beganTransfer {sender : Wallet} {recipient : Address} {amount : Amount} {id : String}
      {created : ℤ} :
      Effect network world (.beginTransfer sender recipient amount id created) (.ok (), { world with
        pending := world.pending ++ [.transfer sender.address recipient amount
          (Transaction.transfer id created sender.address recipient amount)] })
  | beganCreateEscrow {buyer : Wallet} {provider : Address} {amount : Amount} {jobId id : String}
      {created : ℤ} :
      Effect network world (.beginCreateEscrow buyer provider amount jobId id created)
        (.ok (), { world with
          pending := world.pending ++ [.createEscrow
            (Escrow.new id created buyer.address provider amount jobId none)] })
  | transferred {index : ℕ} {first second : ℤ} {sender recipient : Address} {amount : Amount}
      {tx : Transaction}
      (hcall : world.pending[index]? = some (.transfer sender recipient amount tx)) :
      Effect network world (.finish index first second) (.ok (), { world with
        state := (world.state.commitTransfer sender recipient amount tx first second).2
        pending := world.pending.eraseIdx index })
  | createdEscrow {index : ℕ} {first second : ℤ} {escrow : Escrow}
      (hcall : world.pending[index]? = some (.createEscrow escrow))
      (hrate : escrow.feeRateBps = Escrow.defaultFeeRateBps) :
      Effect network world (.finish index first second) (.ok (), { world with
        state := { world.state with
          accounts := debit world.state.accounts escrow.buyer.asStr escrow.amount
          escrows := world.state.escrows.insert escrow.id
            (SimulatedState.activated first escrow) }
        pending := world.pending.eraseIdx index })
  | released {id : String} {started completed : ℤ} {escrow : Escrow}
      {escrows : Table String Escrow} (hactive : escrow.state = .active)
      (hrewrites : Rewrites world.state.escrows escrows id escrow
        (SimulatedState.released id completed escrow)) :
      Effect network world (.releaseEscrow id started completed) (.ok (), { world with
        state := { world.state with
          accounts := credit world.state.accounts escrow.provider.asStr escrow.providerPayout
          escrows := escrows } })
  | refunded {id : String} {started completed : ℤ} {escrow : Escrow}
      {escrows : Table String Escrow}
      (hopen : escrow.state = .active ∨ escrow.state = .disputed)
      (hrewrites : Rewrites world.state.escrows escrows id escrow
        (SimulatedState.refunded id completed escrow)) :
      Effect network world (.refundEscrow id started completed) (.ok (), { world with
        state := { world.state with
          accounts := credit world.state.accounts escrow.buyer.asStr escrow.amount
          escrows := escrows } })

/-- Every lock section has one of the effects. -/
theorem perform_cases (network : Network) {world : World} (hpending : world.PendingNew)
    (next : ClientStep) : Effect network world next (world.perform network next) := by
  cases next with
  | airdrop address amount =>
    simp only [perform, SimulatedState.airdrop]
    split_ifs
    · exact .failed _
    · exact .airdropped
  | beginTransfer sender recipient amount id created =>
    simp only [perform]
    cases world.state.checkBalance sender.address amount with
    | error failure => exact .failed failure
    | ok _ => exact .beganTransfer
  | beginCreateEscrow buyer provider amount jobId id created =>
    simp only [perform]
    cases world.state.checkBalance buyer.address amount with
    | error failure => exact .failed failure
    | ok _ => exact .beganCreateEscrow
  | finish index first second =>
    simp only [perform]
    cases hcall : world.pending[index]? with
    | none => exact .idle hcall
    | some call =>
      cases call with
      | transfer sender recipient amount tx => exact .transferred hcall
      | createEscrow escrow =>
        obtain ⟨hcreating, hrate⟩ := hpending escrow (List.mem_of_getElem? hcall)
        simp only [SimulatedState.commitEscrow_of_creating world.state hcreating first]
        exact .createdEscrow hcall hrate
  | releaseEscrow id started completed =>
    have hsettled := SimulatedState.releaseEscrow_cases world.state id started completed
    simp only [perform]
    generalize world.state.releaseEscrow id started completed = outcome at hsettled
    cases hsettled with
    | failed failure => exact .failed failure
    | paid hactive hrewrites => exact .released hactive hrewrites
  | refundEscrow id started completed =>
    have hsettled := SimulatedState.refundEscrow_cases world.state id started completed
    simp only [perform]
    generalize world.state.refundEscrow id started completed = outcome at hsettled
    cases hsettled with
    | failed failure => exact .failed failure
    | paid hopen hrewrites => exact .refunded hopen hrewrites

/-- Dropping a call in flight keeps the escrows in flight new. -/
theorem PendingNew.eraseIdx (hpending : world.PendingNew) (index : ℕ) (state : SimulatedState) :
    PendingNew { world with state := state, pending := world.pending.eraseIdx index } :=
  fun escrow hescrow ↦ hpending escrow (List.mem_of_mem_eraseIdx hescrow)

/-- Every step keeps the client orderly and the escrows in flight new. -/
theorem sound_step (hsound : world.Sound) (next : ClientStep) :
    (world.step network next).Sound := by
  obtain ⟨horderly, hpending⟩ := hsound
  have heffect := perform_cases network hpending next
  unfold step
  generalize world.perform network next = outcome at heffect
  cases heffect with
  | failed failure => exact ⟨horderly, hpending⟩
  | idle hnone => exact ⟨horderly, hpending⟩
  | airdropped => exact ⟨horderly, hpending⟩
  | beganTransfer =>
    refine ⟨horderly, fun escrow hescrow ↦ hpending escrow ?_⟩
    simpa using hescrow
  | beganCreateEscrow =>
    refine ⟨horderly, fun escrow hescrow ↦ ?_⟩
    rcases List.mem_append.mp hescrow with hold | hnew
    · exact hpending escrow hold
    · rw [List.mem_singleton, PendingCall.createEscrow.injEq] at hnew
      rw [hnew]
      exact ⟨rfl, rfl⟩
  | transferred hcall => exact ⟨horderly, hpending.eraseIdx _ _⟩
  | createdEscrow hcall hrate =>
    exact ⟨horderly.insert_activated hrate _, hpending.eraseIdx _ _⟩
  | released hactive hrewrites => exact ⟨(release_columns horderly hactive hrewrites).1, hpending⟩
  | refunded hopen hrewrites => exact ⟨(refund_columns horderly hopen hrewrites).1, hpending⟩

/-! ### Solvency -/

/-- No lamport is created: the balances and the amounts of the active escrows together do not exceed
the airdrops so far. -/
def Solvent (world : World) : Prop :=
  totalBalance world.state.accounts + totalHeld world.state.escrows ≤ world.airdropped

instance : DecidablePred Solvent := fun world ↦
  inferInstanceAs (Decidable
    (totalBalance world.state.accounts + totalHeld world.state.escrows ≤ world.airdropped))

/-- A step that finishes a call finds the call's amount still in the payer's account. -/
def Covered (world : World) : ClientStep → Prop
  | .finish index _ _ => ∀ call ∈ world.pending[index]?,
      call.amount.lamports ≤ (world.state.balance call.payer).lamports
  | _ => True

/-- A step that finds its amount covered keeps the client solvent. -/
theorem solvent_step (hsound : world.Sound) (hsolvent : world.Solvent) {next : ClientStep}
    (hcovered : world.Covered next) : (world.step network next).Solvent := by
  unfold Solvent at hsolvent
  have heffect := perform_cases network hsound.pendingNew next
  unfold step
  generalize world.perform network next = outcome at heffect
  cases heffect with
  | failed failure => exact hsolvent
  | idle hnone => exact hsolvent
  | airdropped =>
    rename_i address amount
    have hcredit := totalBalance_credit_le world.state.accounts address.asStr amount
    unfold Solvent
    dsimp only
    omega
  | beganTransfer => exact hsolvent
  | beganCreateEscrow => exact hsolvent
  | transferred hcall =>
    rename_i index first second sender recipient amount tx
    have hdebit : totalBalance (debit world.state.accounts sender.asStr amount) + amount.lamports =
        totalBalance world.state.accounts :=
      totalBalance_debit (hcovered _ hcall)
    have hcredit := totalBalance_credit_le (debit world.state.accounts sender.asStr amount)
      recipient.asStr amount
    unfold Solvent SimulatedState.commitTransfer
    dsimp only
    omega
  | createdEscrow hcall hrate =>
    rename_i index first second escrow
    have hdebit : totalBalance (debit world.state.accounts escrow.buyer.asStr escrow.amount) +
        escrow.amount.lamports = totalBalance world.state.accounts :=
      totalBalance_debit (hcovered _ hcall)
    have hheld : totalHeld (world.state.escrows.insert escrow.id
        (SimulatedState.activated first escrow)) ≤
          totalHeld world.state.escrows + escrow.amount.lamports :=
      total_insert_le heldWeight world.state.escrows escrow.id _
    unfold Solvent
    dsimp only
    omega
  | released hactive hrewrites =>
    rename_i id started completed escrow escrows
    have hheld := (release_columns hsound.orderly hactive hrewrites).2.1
    have hcredit := totalBalance_credit_le world.state.accounts escrow.provider.asStr
      escrow.providerPayout
    have hpayout := escrow.providerPayout_le
    unfold Solvent
    dsimp only
    omega
  | refunded hopen hrewrites =>
    rename_i id started completed escrow escrows
    have hheld := (refund_columns hsound.orderly hopen hrewrites).2.1
    have hcredit := totalBalance_credit_le world.state.accounts escrow.buyer.asStr escrow.amount
    unfold Solvent
    dsimp only
    omega

/-- Along every interleaving in which each finishing call finds its amount still in the payer's
account, the balances and the active escrows never exceed the airdrops so far. -/
theorem solvent_of_covered (network : Network) (steps : List ClientStep)
    (hcovered : Throughout (step network) Covered start steps) :
    Always (step network) Solvent start steps := by
  have hstart : start.Sound ∧ start.Solvent := ⟨sound_start, by decide⟩
  have hkept : Always (step network) (fun world ↦ world.Sound ∧ world.Solvent) start steps :=
    always_of_throughout hstart
      (fun world next hbefore hstep ↦
        ⟨sound_step hbefore.1 next, solvent_step hbefore.1 hbefore.2 hstep⟩) hcovered
  exact fun done hdone ↦ (hkept done hdone).2

instance (world : World) : ∀ next : ClientStep, Decidable (world.Covered next)
  | .airdrop _ _ => isTrue trivial
  | .beginTransfer _ _ _ _ _ => isTrue trivial
  | .beginCreateEscrow _ _ _ _ _ _ => isTrue trivial
  | .finish index _ _ => inferInstanceAs (Decidable (∀ call ∈ world.pending[index]?,
      call.amount.lamports ≤ (world.state.balance call.payer).lamports))
  | .releaseEscrow _ _ _ => isTrue trivial
  | .refundEscrow _ _ _ => isTrue trivial

/-- Two calls in flight at once that their payers cover together: a transfer and an escrow whose
lock sections interleave. -/
def coveredSteps : List ClientStep :=
  [.airdrop ⟨"alice"⟩ ⟨10, by decide⟩,
    .beginTransfer ⟨⟨"alice"⟩⟩ ⟨"bob"⟩ ⟨4, by decide⟩ "tx-1" 1,
    .beginCreateEscrow ⟨⟨"alice"⟩⟩ ⟨"carol"⟩ ⟨6, by decide⟩ "job-1" "escrow-1" 2,
    .finish 1 3 3,
    .finish 0 4 5,
    .releaseEscrow "escrow-1" 6 7]

/-- The client stays solvent along the interleaving of two covered calls. -/
theorem solvent_of_covered_coveredSteps :
    Throughout (step .devnet) Covered start coveredSteps ∧
      Always (step .devnet) Solvent start coveredSteps :=
  ⟨by decide +kernel, solvent_of_covered .devnet coveredSteps (by decide +kernel)⟩

/-- Two transfers of the whole balance that both pass their check before either deducts. -/
def doubleSpendSteps : List ClientStep :=
  [.airdrop ⟨"alice"⟩ ⟨10, by decide⟩,
    .beginTransfer ⟨⟨"alice"⟩⟩ ⟨"bob"⟩ ⟨10, by decide⟩ "tx-1" 1,
    .beginTransfer ⟨⟨"alice"⟩⟩ ⟨"carol"⟩ ⟨10, by decide⟩ "tx-2" 2,
    .finish 0 3 4,
    .finish 0 5 6]

/-- One balance is spent twice: after two interleaved transfers the balances exceed the only
airdrop, which is far below `2 ^ 64`. -/
theorem double_spend :
    (doubleSpendSteps.foldl (step .devnet) start).airdropped < 2 ^ 64 ∧
      ¬ Always (step .devnet) Solvent start doubleSpendSteps := by
  decide +kernel

/-! ### Settlement of an escrow -/

/-- The step is a release or a refund of the escrow. -/
def targets (id : String) : ClientStep → Bool
  | .releaseEscrow target _ _ => target == id
  | .refundEscrow target _ _ => target == id
  | _ => false

/-- The step releases or refunds the escrow and succeeds. -/
def settles (network : Network) (id : String) (world : World) (next : ClientStep) : Bool :=
  targets id next && (world.perform network next).1.isOk

/-- A call that stores a new escrow stores it under an identifier not in use. -/
def FreshCommit (world : World) : ClientStep → Prop
  | .finish index _ _ => ∀ call ∈ world.pending[index]?, ∀ escrow, call = .createEscrow escrow →
      world.state.escrows.lookup escrow.id = none
  | _ => True

/-- One account is credited by a saturating addition, which is exact while the balance has room,
and nothing else changes among the accounts and transactions. -/
structure Credited (before after : SimulatedState) (address : Address) (amount : Amount) :
    Prop where
  balance : after.balance address = (before.balance address).saturatingAdd amount
  exact : (before.balance address).lamports + amount.lamports < 2 ^ 64 →
    (after.balance address).lamports = (before.balance address).lamports + amount.lamports
  others : ∀ other : Address, other.asStr ≠ address.asStr →
    after.balance other = before.balance other
  transactions : after.transactions = before.transactions

/-- A successful settlement of a stored escrow credits one account and changes only that escrow,
into its final state. -/
def SettledTo (before after : SimulatedState) (id : String) (final : EscrowState)
    (payment : Escrow → Amount) (payee : Escrow → Address) : Prop :=
  ∃ escrow, before.escrows.lookup id = some escrow ∧ escrow.state.isTerminal = false ∧
    Credited before after (payee escrow) (payment escrow) ∧
    (∃ settled, after.escrows.lookup id = some settled ∧ settled.state = final) ∧
    ∀ other, other ≠ id → after.escrows.lookup other = before.escrows.lookup other

/-- What a step accounts for: a failing call leaves accounts, transactions and escrows exactly as
they were, a successful release pays the provider's payout, and a successful refund pays the amount
back to the buyer. -/
structure Accounted (network : Network) (world : World) (next : ClientStep) : Prop where
  failed : ∀ failure, (world.perform network next).1 = .error failure →
    (world.step network next).state = world.state
  released : ∀ id started completed, next = .releaseEscrow id started completed →
    (world.perform network next).1 = .ok () →
      SettledTo world.state (world.step network next).state id .released Escrow.providerPayout
        Escrow.provider
  refunded : ∀ id started completed, next = .refundEscrow id started completed →
    (world.perform network next).1 = .ok () →
      SettledTo world.state (world.step network next).state id .refunded Escrow.amount Escrow.buyer

/-- Crediting an account of the state credits that account and no other. -/
theorem credited_credit (state : SimulatedState) (address : Address) (amount : Amount)
    (escrows : Table String Escrow) :
    Credited state { state with
      accounts := credit state.accounts address.asStr amount
      escrows := escrows } address amount where
  balance := balanceOf_credit_self _ _ _
  exact := fun hroom ↦ by
    have hbalance := balanceOf_credit_self state.accounts address.asStr amount
    rw [SimulatedState.balance, hbalance]
    exact Amount.lamports_saturatingAdd hroom
  others := fun _ hother ↦ balanceOf_credit_of_ne hother _ _
  transactions := rfl

/-- Every step of a sound world is accounted for. -/
theorem accounted_of_sound (hsound : world.Sound) (next : ClientStep) :
    Accounted network world next := by
  have heffect := perform_cases network hsound.pendingNew next
  refine ⟨fun failure hfailed ↦ ?_, fun id started completed hnext hok ↦ ?_,
    fun id started completed hnext hok ↦ ?_⟩
  · unfold step
    generalize world.perform network next = outcome at heffect hfailed
    cases heffect with
    | failed failure => rfl
    | _ => cases hfailed
  · subst hnext
    unfold step
    generalize world.perform network _ = outcome at heffect hok
    cases heffect with
    | failed failure => cases hok
    | released hactive hrewrites =>
      refine ⟨_, hrewrites.before, ?_, credited_credit _ _ _ _, ⟨_, hrewrites.after, rfl⟩,
        hrewrites.others⟩
      rw [hactive]
      rfl
  · subst hnext
    unfold step
    generalize world.perform network _ = outcome at heffect hok
    cases heffect with
    | failed failure => cases hok
    | refunded hopen hrewrites =>
      refine ⟨_, hrewrites.before, ?_, credited_credit _ _ _ _, ⟨_, hrewrites.after, rfl⟩,
        hrewrites.others⟩
      rcases hopen with hstate | hstate <;> rw [hstate] <;> rfl

/-- The escrow has been released or refunded. -/
def Closed (id : String) (world : World) : Prop :=
  world.Sound ∧ ∃ escrow, world.state.escrows.lookup id = some escrow ∧
    (escrow.state = .released ∨ escrow.state = .refunded)

/-- An escrow that can still be settled is not the closed one. -/
theorem Closed.ne_of_open {id target : String} (hclosed : Closed id world) {escrow : Escrow}
    (hstored : world.state.escrows.lookup target = some escrow)
    (hopen : escrow.state = .active ∨ escrow.state = .disputed) : target ≠ id := by
  rintro rfl
  obtain ⟨-, closed, hfound, hstate⟩ := hclosed
  obtain rfl : escrow = closed := Option.some.inj (hstored.symm.trans hfound)
  rcases hopen with hopen | hopen <;> simp [hopen] at hstate

/-- A closed escrow is neither released nor refunded again. -/
theorem settles_of_closed {id : String} (hclosed : Closed id world) (next : ClientStep) :
    settles network id world next = false := by
  have heffect := perform_cases network hclosed.1.pendingNew next
  unfold settles
  generalize world.perform network next = outcome at heffect
  cases heffect with
  | failed failure => simp [Except.isOk, Except.toBool]
  | released hactive hrewrites =>
    simp [targets, hclosed.ne_of_open hrewrites.before (.inl hactive)]
  | refunded hopen hrewrites =>
    simp [targets, hclosed.ne_of_open hrewrites.before hopen]
  | _ => rfl

/-- A closed escrow stays closed under every step that stores new escrows under fresh
identifiers. -/
theorem closed_step {id : String} (hclosed : Closed id world) {next : ClientStep}
    (hfresh : world.FreshCommit next) : Closed id (world.step network next) := by
  have ⟨hsound, escrow, hstored, hstate⟩ := hclosed
  refine ⟨sound_step hsound next, escrow, ?_, hstate⟩
  have heffect := perform_cases network hsound.pendingNew next
  unfold step
  generalize world.perform network next = outcome at heffect
  cases heffect with
  | failed failure => exact hstored
  | idle hnone => exact hstored
  | airdropped => exact hstored
  | beganTransfer => exact hstored
  | beganCreateEscrow => exact hstored
  | transferred hcall => exact hstored
  | createdEscrow hcall hrate =>
    have habsent := hfresh _ hcall _ rfl
    have hne : id ≠ _ := fun heq ↦ by rw [heq, habsent] at hstored; cases hstored
    exact (AList.lookup_insert_ne hne).trans hstored
  | released hactive hrewrites =>
    have htarget := hclosed.ne_of_open hrewrites.before (.inl hactive)
    exact (hrewrites.others id htarget.symm).trans hstored
  | refunded hopen hrewrites =>
    have htarget := hclosed.ne_of_open hrewrites.before hopen
    exact (hrewrites.others id htarget.symm).trans hstored

/-- A successful release or refund closes its escrow. -/
theorem closed_of_settles {id : String} (hsound : world.Sound) {next : ClientStep}
    (hsettles : settles network id world next = true) : Closed id (world.step network next) := by
  refine ⟨sound_step hsound next, ?_⟩
  have heffect := perform_cases network hsound.pendingNew next
  unfold settles at hsettles
  unfold step
  generalize world.perform network next = outcome at heffect hsettles
  cases heffect with
  | released hactive hrewrites =>
    rename_i target started completed other escrows
    obtain rfl : target = id := by simpa [targets, Except.isOk, Except.toBool] using hsettles
    exact ⟨_, hrewrites.after, Or.inl rfl⟩
  | refunded hopen hrewrites =>
    rename_i target started completed other escrows
    obtain rfl : target = id := by simpa [targets, Except.isOk, Except.toBool] using hsettles
    exact ⟨_, hrewrites.after, Or.inr rfl⟩
  | failed failure => simp [Except.isOk, Except.toBool] at hsettles
  | _ => simp [targets] at hsettles

/-- Along every interleaving with fresh escrow identifiers, at most one release or refund of each
escrow succeeds, a success credits its payee once by a saturating addition, and a failing call
changes nothing. -/
theorem settlement_once (network : Network) (steps : List ClientStep)
    (hfresh : Throughout (step network) FreshCommit start steps) :
    (∀ id, countSteps (step network) (settles network id) start steps ≤ 1) ∧
      Throughout (step network) (Accounted network) start steps := by
  constructor
  · intro id
    have hkeep : ∀ (world : World) next, Closed id world → world.FreshCommit next →
        Closed id (world.step network next) :=
      fun _ _ hclosed hstep ↦ closed_step hclosed hstep
    have hgood : ∀ (world : World) next, world.Sound → world.FreshCommit next →
        (world.step network next).Sound :=
      fun _ next hsound _ ↦ sound_step hsound next
    exact countSteps_le_one hgood (fun _ next hclosed _ ↦ settles_of_closed hclosed next) hkeep
      (fun _ _ hsound _ hsettles ↦ closed_of_settles hsound hsettles) sound_start hfresh
  · intro done next _
    have hsound : Always (step network) Sound start done :=
      always_of_step sound_start (fun _ next hbefore ↦ sound_step hbefore next) done
    exact accounted_of_sound hsound.last next

/-- One hundred lamports are an amount. -/
theorem hundred_lt : 100 < 2 ^ 64 := by decide

/-- A provider whose account is full, and an escrow for it. -/
def fullAccountSteps : List ClientStep :=
  [.airdrop ⟨"provider"⟩ Amount.max,
    .airdrop ⟨"buyer"⟩ ⟨100, hundred_lt⟩,
    .beginCreateEscrow ⟨⟨"buyer"⟩⟩ ⟨"provider"⟩ ⟨100, hundred_lt⟩ "job-1" "escrow-1" 1,
    .finish 0 2 2]

/-- A release into a full account succeeds and credits nothing of the payout. -/
theorem release_into_full_account :
    let world := fullAccountSteps.foldl (step .devnet) start
    let outcome := world.perform .devnet (.releaseEscrow "escrow-1" 3 4)
    outcome.1 = .ok () ∧
      ∃ escrow ∈ world.state.escrows.lookup "escrow-1",
        (outcome.2.state.balance escrow.provider).lamports ≠
          (world.state.balance escrow.provider).lamports + escrow.providerPayout.lamports := by
  decide +kernel

instance (world : World) : ∀ next : ClientStep, Decidable (world.FreshCommit next)
  | .airdrop _ _ => isTrue trivial
  | .beginTransfer _ _ _ _ _ => isTrue trivial
  | .beginCreateEscrow _ _ _ _ _ _ => isTrue trivial
  | .finish index _ _ =>
    match hcall : world.pending[index]? with
    | some (.createEscrow escrow) =>
      decidable_of_iff (world.state.escrows.lookup escrow.id = none) (by simp [FreshCommit, hcall])
    | some (.transfer _ _ _ _) => isTrue (by simp [FreshCommit, hcall])
    | none => isTrue (by simp [FreshCommit, hcall])
  | .releaseEscrow _ _ _ => isTrue trivial
  | .refundEscrow _ _ _ => isTrue trivial

/-- The settlement rules hold along an interleaving with a release and a late refund. -/
theorem settlement_once_coveredSteps :
    Throughout (step .devnet) FreshCommit start (coveredSteps ++ [.refundEscrow "escrow-1" 8 9]) ∧
      countSteps (step .devnet) (settles .devnet "escrow-1") start
        (coveredSteps ++ [.refundEscrow "escrow-1" 8 9]) ≤ 1 :=
  ⟨by decide +kernel, (settlement_once .devnet _ (by decide +kernel)).1 "escrow-1"⟩

end World

end Clawbernetes.MoltToken
