import Clawbernetes.MoltMarket.EscrowAccount
import Clawbernetes.MoltToken.Escrow

/-!
# The marketplace view of a token escrow

`payment.rs` of the marketplace crate. A `TokenEscrow` is the marketplace's copy of an escrow of the
token crate, taken by `fromTokenEscrow`: the eight states of the token crate are projected onto the
six of the marketplace (`EscrowState.ofToken`), and `toEscrowAccount` turns the copy into an
`EscrowAccount`. The copy carries the projected state, and `toEscrowAccount` does not read it: it
builds a new account, which is always `created`.

The projection is a simulation when every call of the token escrow is a step of the marketplace
table or none at all. `followsTable_call_iff` says which single calls are, and
`tokenView_simulates_iff` which runs are, beside the runs along which the converted account agrees
with the projected state.
-/

set_option autoImplicit false
set_option relaxedAutoImplicit false

namespace Clawbernetes.MoltMarket

open Library.Runs
open MoltToken (Escrow EscrowCall Address Amount)

/-- `From<molt_token::EscrowState> for EscrowState`. The transient states of the token escrow are
funded in the marketplace, and its expired state is refunded. -/
def EscrowState.ofToken : MoltToken.EscrowState → EscrowState
  | .creating => .created
  | .active => .funded
  | .releasing => .funded
  | .released => .released
  | .refunding => .funded
  | .refunded => .refunded
  | .disputed => .disputed
  | .expired => .refunded

/-- `TokenEscrow`, the marketplace's copy of an escrow of the token crate. -/
structure TokenEscrow where
  id : String
  jobId : String
  buyer : Address
  provider : Address
  amount : Amount
  state : EscrowState
  deriving DecidableEq

namespace TokenEscrow

/-- `TokenEscrow::from_token_escrow`. -/
def fromTokenEscrow (escrow : Escrow) : TokenEscrow where
  id := escrow.id
  jobId := escrow.jobId
  buyer := escrow.buyer
  provider := escrow.provider
  amount := escrow.amount
  state := EscrowState.ofToken escrow.state

/-- `TokenEscrow::to_escrow_account`, with the clock reading of `EscrowAccount::new` as an
argument. -/
def toEscrowAccount (copy : TokenEscrow) (now : ℤ) : EscrowAccount :=
  EscrowAccount.new now copy.jobId copy.buyer.asStr copy.provider.asStr
    (UInt64.ofNat copy.amount.lamports)

/-- The account made from a copy has the job, the parties and the amount of the escrow. -/
structure SameParties (account : EscrowAccount) (escrow : Escrow) : Prop where
  jobId : account.jobId = escrow.jobId
  buyer : account.buyer = escrow.buyer.asStr
  provider : account.provider = escrow.provider.asStr
  amount : account.amount.toNat = escrow.amount.lamports

/-- The conversion keeps the job, the parties and the amount at any clock reading. -/
theorem sameParties_toEscrowAccount (escrow : Escrow) (now : ℤ) :
    SameParties ((fromTokenEscrow escrow).toEscrowAccount now) escrow := by
  refine ⟨rfl, rfl, rfl, ?_⟩
  change (UInt64.ofNat escrow.amount.lamports).toNat = escrow.amount.lamports
  rw [UInt64.toNat_ofNat']
  exact Nat.mod_eq_of_lt escrow.amount.lamports_lt

/-- Every converted account is new, whatever the state of the escrow. -/
theorem state_toEscrowAccount (escrow : Escrow) (now : ℤ) :
    ((fromTokenEscrow escrow).toEscrowAccount now).state = .created :=
  rfl

/-! ### One call in the view -/

/-- The step from one marketplace state to another is none at all or one of the table. -/
def FollowsTable (before after : EscrowState) : Prop :=
  after = before ∨ before.canTransitionTo after = true

instance (before after : EscrowState) : Decidable (FollowsTable before after) :=
  inferInstanceAs (Decidable (_ ∨ _))

/-- The call is a step that the projection hides from the table: a refund started on a disputed
escrow, which is funded again in the view, or the expiry of an escrow that was never funded or is
already released. -/
def LeavesTable (escrow : Escrow) : EscrowCall → Prop
  | .startRefund _ => escrow.state = .disputed
  | .markExpired _ => escrow.state = .creating ∨ escrow.state = .released
  | _ => False

/-- A guarded method makes a step of the table when its update does so behind the guard. -/
theorem followsTable_advance_iff (escrow updated : Escrow) (guard : Bool)
    (refusal : MoltToken.MoltError) :
    FollowsTable (.ofToken escrow.state)
        (.ofToken (escrow.advance guard refusal updated).2.state) ↔
      (guard = true → FollowsTable (.ofToken escrow.state) (.ofToken updated.state)) := by
  cases guard with
  | false => simp [Escrow.advance, FollowsTable]
  | true => simp [Escrow.advance]

/-- A call of the token escrow is a step of the marketplace table, or none, if and only if it is
not one of the three that leave it. -/
theorem followsTable_call_iff (escrow : Escrow) (next : EscrowCall) :
    FollowsTable (.ofToken escrow.state) (.ofToken (escrow.call next).state) ↔
      ¬ LeavesTable escrow next := by
  cases next with
  | markExpired now =>
    change FollowsTable (.ofToken escrow.state) .refunded ↔
      ¬ (escrow.state = .creating ∨ escrow.state = .released)
    cases escrow.state <;> decide
  | startRefund now =>
    refine (followsTable_advance_iff escrow _ _ _).trans ?_
    change (escrow.state.canRefund = true → FollowsTable (.ofToken escrow.state) .funded) ↔
      ¬ escrow.state = .disputed
    cases escrow.state <;> decide
  | activate now | startRelease now | completeRelease signature now | completeRefund signature now
  | dispute reason now =>
    refine (followsTable_advance_iff escrow _ _ _).trans (iff_of_true ?_ not_false)
    dsimp only
    cases escrow.state <;> decide

/-! ### Whole runs -/

/-- Every two consecutive states of the run, seen from the marketplace, are equal or allowed by its
table. -/
def ViewFollowsTable (start : Escrow) (calls : List EscrowCall) : Prop :=
  Throughout Escrow.call
    (fun escrow next ↦ FollowsTable (.ofToken escrow.state) (.ofToken (escrow.call next).state))
    start calls

/-- At every point of the run the converted account is in the projected state, with the job, the
parties and the amount of the escrow, at any clock reading. -/
def AccountFollows (start : Escrow) (calls : List EscrowCall) : Prop :=
  Always Escrow.call
    (fun escrow ↦ ∀ now,
      ((fromTokenEscrow escrow).toEscrowAccount now).state = .ofToken escrow.state ∧
        SameParties ((fromTokenEscrow escrow).toEscrowAccount now) escrow)
    start calls

/-- The call moves an escrow that is being created: an activation or an expiry. -/
def Opens : EscrowCall → Prop
  | .activate _ | .markExpired _ => True
  | _ => False

/-- The projected state is `created` exactly while the escrow is being created. -/
theorem ofToken_eq_created_iff (state : MoltToken.EscrowState) :
    EscrowState.ofToken state = .created ↔ state = .creating := by
  cases state <;> decide

/-- An escrow that is being created stays so if and only if the call is neither an activation nor an
expiry. -/
theorem call_creating_iff {escrow : Escrow} (hcreating : escrow.state = .creating)
    (next : EscrowCall) : (escrow.call next).state = .creating ↔ ¬ Opens next := by
  cases next <;>
    simp [Escrow.call, Escrow.activate, Escrow.startRelease, Escrow.completeRelease,
      Escrow.startRefund, Escrow.completeRefund, Escrow.dispute, Escrow.markExpired,
      Escrow.advance, MoltToken.EscrowState.canRelease, MoltToken.EscrowState.canRefund,
      MoltToken.EscrowState.canDispute, hcreating, Opens]

/-- The converted account agrees with the projection exactly while the escrow is being created. -/
theorem accountFollows_iff_always (start : Escrow) (calls : List EscrowCall) :
    AccountFollows start calls ↔
      Always Escrow.call (fun escrow ↦ escrow.state = .creating) start calls := by
  refine forall_congr' fun done ↦ forall_congr' fun _ ↦ ?_
  constructor
  · intro hfollows
    have hstate := (hfollows 0).1
    rw [state_toEscrowAccount] at hstate
    exact (ofToken_eq_created_iff _).mp hstate.symm
  · intro hcreating now
    refine ⟨?_, sameParties_toEscrowAccount _ now⟩
    rw [state_toEscrowAccount, hcreating]
    rfl

/-- From a new escrow, the view of a run follows the marketplace table if and only if the run never
starts a refund on a disputed escrow and never expires an escrow that is being created or already
released. The converted account follows the view if and only if the run neither activates nor
expires the escrow, and both hold together under that condition. The job, the parties and the
amount of the converted account are always those of the escrow. -/
theorem tokenView_simulates_iff (id : String) (now : ℤ) (buyer provider : Address)
    (amount : Amount) (jobId : String) (durationHours : Option ℤ) (calls : List EscrowCall) :
    let start := Escrow.new id now buyer provider amount jobId durationHours
    (ViewFollowsTable start calls ↔
        Throughout Escrow.call (fun escrow next ↦ ¬ LeavesTable escrow next) start calls) ∧
      (AccountFollows start calls ↔ ∀ next ∈ calls, ¬ Opens next) ∧
      (ViewFollowsTable start calls ∧ AccountFollows start calls ↔
        ∀ next ∈ calls, ¬ Opens next) ∧
      Always Escrow.call
        (fun escrow ↦ ∀ time, SameParties ((fromTokenEscrow escrow).toEscrowAccount time) escrow)
        start calls := by
  intro start
  have hview : ViewFollowsTable start calls ↔
      Throughout Escrow.call (fun escrow next ↦ ¬ LeavesTable escrow next) start calls :=
    throughout_congr fun _ next _ ↦ followsTable_call_iff _ next
  have hstart : start.state = .creating := rfl
  have hstays : Always Escrow.call (fun escrow ↦ escrow.state = .creating) start calls ↔
      Throughout Escrow.call (fun _ next ↦ ¬ Opens next) start calls :=
    always_iff_throughout hstart fun _ next hstate ↦ call_creating_iff hstate next
  have hcreating := hstays.trans throughout_input_iff
  have haccount : AccountFollows start calls ↔ ∀ next ∈ calls, ¬ Opens next :=
    (accountFollows_iff_always start calls).trans hcreating
  refine ⟨hview, haccount, ⟨fun hboth ↦ haccount.mp hboth.2, fun hquiet ↦ ?_⟩,
    fun _ _ time ↦ sameParties_toEscrowAccount _ time⟩
  refine ⟨hview.mpr fun done next hdone hleaves ↦ ?_, haccount.mpr hquiet⟩
  -- The escrow is still being created, so only an expiry could leave the table.
  have hstate := hcreating.mpr hquiet done (prefix_of_concat hdone)
  have hnext := hquiet next (hdone.subset (by simp))
  cases next with
  | markExpired time => exact hnext trivial
  | startRefund time => exact absurd (hstate.symm.trans hleaves) (by decide)
  | _ => exact hleaves

/-- A refund started on a disputed escrow takes the view from disputed back to funded, and the
converted account of an activated escrow is not funded. -/
theorem tokenView_not_simulated :
    let start := Escrow.new "escrow-1" 0 ⟨"buyer"⟩ ⟨"provider"⟩ ⟨100, by decide⟩ "job-1" none
    let calls : List EscrowCall := [.activate 1, .dispute "late" 2, .startRefund 3]
    ¬ ViewFollowsTable start calls ∧ ¬ AccountFollows start calls := by
  refine ⟨fun hview ↦ ?_, fun haccount ↦ ?_⟩
  · exact absurd (hview [.activate 1, .dispute "late" 2] (.startRefund 3) (List.prefix_refl _))
      (by decide)
  · exact absurd (haccount [.activate 1] (by decide) 0).1 (by decide)

end TokenEscrow

end Clawbernetes.MoltMarket
