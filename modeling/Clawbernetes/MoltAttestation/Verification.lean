import Clawbernetes.MoltAttestation.Execution

/-!
# Verification of execution attestations

The verification functions of `verification.rs` for execution attestations. A verifier compares the
sequence numbers of the checkpoints with their positions and checks the signature; with the original
data it also recomputes the chain of hashes.

`create_and_sign` asks for at least one checkpoint, with sequence numbers from zero on. The
verifiers ask for the sequence numbers only, and whoever holds a key can sign an attestation that
`create_and_sign` refuses. `verifier_enforces_iff` says exactly when a verifier enforces what the
creator promises: for every attestation with a checkpoint, and for no attestation without one whose
signature is good.
-/

set_option autoImplicit false
set_option relaxedAutoImplicit false

namespace Clawbernetes.MoltAttestation

open MoltP2p (SignatureScheme SigningKey VerifyingKey)

/-- `VerificationDetails` of an execution attestation. -/
structure ExecutionDetails where
  checkpointCount : ℕ
  finalHash : Option Digest
  deriving DecidableEq

/-- `VerificationResult` of an execution attestation. -/
structure VerificationResult where
  valid : Bool
  details : ExecutionDetails
  deriving DecidableEq

/-- The result of a verification that succeeds. -/
def ExecutionAttestation.verified (attestation : ExecutionAttestation) : VerificationResult where
  valid := true
  details := ⟨attestation.checkpointCount, attestation.finalCheckpointHash⟩

/-- `verify_execution_attestation`. -/
def verifyExecutionAttestation (blake3 : Blake3) (scheme : SignatureScheme)
    (attestation : ExecutionAttestation) (publicKey : VerifyingKey) :
    Except AttestationError VerificationResult := do
  Checkpoint.checkSequence (fun index sequence ↦ "checkpoint sequence mismatch at index " ++
    toString index ++ ": expected " ++ toString index ++ ", got " ++ toString sequence) 0
    attestation.checkpoints
  attestation.verifySignature blake3 scheme publicKey
  return attestation.verified

/-- The loop of `verify_execution_with_data` behind the first checkpoint. -/
def checkChain (blake3 : Blake3) :
    ℕ → Checkpoint → List Checkpoint → List (List UInt8) → Except AttestationError Unit
  | index, previous, checkpoint :: rest, data :: later =>
    if checkpoint.verifyChain blake3 previous data then
      checkChain blake3 (index + 1) checkpoint rest later
    else .error (.checkpointVerification
      ("checkpoint chain verification failed at index " ++ toString index))
  | _, _, _, _ => .ok ()

/-- The hashes of `verify_execution_with_data`, for as many data blocks as checkpoints. -/
def checkHashes (blake3 : Blake3) :
    List Checkpoint → List (List UInt8) → Except AttestationError Unit
  | first :: rest, data :: later =>
    if first.hash ≠ blake3 data then
      .error (.checkpointVerification "first checkpoint hash mismatch")
    else checkChain blake3 1 first rest later
  | _, _ => .ok ()

/-- `verify_execution_with_data`. -/
def verifyExecutionWithData (blake3 : Blake3) (scheme : SignatureScheme)
    (attestation : ExecutionAttestation) (publicKey : VerifyingKey)
    (checkpointData : List (List UInt8)) : Except AttestationError VerificationResult := do
  let _ ← verifyExecutionAttestation blake3 scheme attestation publicKey
  if checkpointData.length ≠ attestation.checkpoints.length then
    throw (.checkpointVerification ("checkpoint data count mismatch: expected " ++
      toString attestation.checkpoints.length ++ ", got " ++ toString checkpointData.length))
  checkHashes blake3 attestation.checkpoints checkpointData
  return attestation.verified

/-! ### What is enforced -/

open ExecutionAttestation Checkpoint

variable {blake3 : Blake3} {scheme : SignatureScheme} {attestation : ExecutionAttestation}
  {publicKey : VerifyingKey}

/-- A check before the rest of a computation has to succeed, and so has the rest. -/
theorem isOk_bind_iff {Value : Type} {check : Except AttestationError Unit}
    {rest : Unit → Except AttestationError Value} :
    (check >>= rest).isOk = true ↔ check = .ok () ∧ (rest ()).isOk = true := by
  cases check with
  | error error => exact iff_of_false Bool.false_ne_true fun hboth ↦ by cases hboth.1
  | ok value => exact ⟨fun hrest ↦ ⟨rfl, hrest⟩, fun hboth ↦ hboth.2⟩

/-- The creator accepts at least one checkpoint, with sequence numbers from zero on, and nothing
else. -/
theorem createAndSign_isOk_iff {now : DateTime} {jobId : Uuid} {checkpoints : List Checkpoint}
    {duration : TimeDelta} {metrics : ExecutionMetrics} {signingKey : SigningKey} :
    (createAndSign blake3 scheme now jobId checkpoints duration metrics signingKey).isOk = true ↔
      checkpoints ≠ [] ∧ InSequence checkpoints := by
  cases checkpoints with
  | nil => exact iff_of_false Bool.false_ne_true fun hboth ↦ hboth.1 rfl
  | cons first rest =>
    change (checkSequence _ 0 (first :: rest) >>= fun _ ↦ Except.ok _).isOk = true ↔ _
    rw [isOk_bind_iff, checkSequence_zero_iff]
    exact ⟨fun hboth ↦ ⟨List.cons_ne_nil first rest, hboth.1⟩, fun hboth ↦ ⟨hboth.2, rfl⟩⟩

/-- The verifier accepts sequence numbers from zero on under a good signature, and nothing else. -/
theorem verifyExecutionAttestation_isOk_iff :
    (verifyExecutionAttestation blake3 scheme attestation publicKey).isOk = true ↔
      InSequence attestation.checkpoints ∧
        attestation.verifySignature blake3 scheme publicKey = .ok () := by
  unfold verifyExecutionAttestation
  rw [isOk_bind_iff, checkSequence_zero_iff, isOk_bind_iff]
  exact ⟨fun hall ↦ ⟨hall.1, hall.2.1⟩, fun hboth ↦ ⟨hboth.1, hboth.2, rfl⟩⟩

/-- The verifier with data accepts no more than the verifier without. -/
theorem isOk_of_verifyExecutionWithData {data : List (List UInt8)}
    (haccepted : (verifyExecutionWithData blake3 scheme attestation publicKey data).isOk = true) :
    (verifyExecutionAttestation blake3 scheme attestation publicKey).isOk = true := by
  unfold verifyExecutionWithData at haccepted
  cases hbasic : verifyExecutionAttestation blake3 scheme attestation publicKey with
  | error error =>
    rw [hbasic] at haccepted
    cases haccepted
  | ok result => rfl

/-- The verifiers enforce what the creator promises, at least one checkpoint and sequence numbers
from zero on, exactly on the attestations that have a checkpoint or a signature that is not good.
Both conditions are all that the creator asks for. -/
theorem verifier_enforces_iff (blake3 : Blake3) (scheme : SignatureScheme)
    (attestation : ExecutionAttestation) (publicKey : VerifyingKey) :
    (∀ now jobId duration metrics signingKey,
      (createAndSign blake3 scheme now jobId attestation.checkpoints duration metrics
        signingKey).isOk = true ↔
          attestation.checkpoints ≠ [] ∧ InSequence attestation.checkpoints) ∧
    (((verifyExecutionAttestation blake3 scheme attestation publicKey).isOk = true ∨
        (∃ data, (verifyExecutionWithData blake3 scheme attestation publicKey data).isOk = true) →
          attestation.checkpoints ≠ [] ∧ InSequence attestation.checkpoints) ↔
      (attestation.checkpoints ≠ [] ∨
        attestation.verifySignature blake3 scheme publicKey ≠ .ok ())) := by
  have haccepted : ((verifyExecutionAttestation blake3 scheme attestation publicKey).isOk = true ∨
      ∃ data, (verifyExecutionWithData blake3 scheme attestation publicKey data).isOk = true) ↔
        InSequence attestation.checkpoints ∧
          attestation.verifySignature blake3 scheme publicKey = .ok () := by
    rw [← verifyExecutionAttestation_isOk_iff]
    constructor
    · rintro (hbasic | ⟨data, hdata⟩)
      · exact hbasic
      · exact isOk_of_verifyExecutionWithData hdata
    · exact Or.inl
  refine ⟨fun _ _ _ _ _ ↦ createAndSign_isOk_iff, ?_⟩
  rw [haccepted]
  constructor
  · intro henforced
    by_contra hneither
    rw [not_or, not_not, not_not] at hneither
    obtain ⟨hempty, hsigned⟩ := hneither
    have hsequence : InSequence attestation.checkpoints := by
      rw [hempty]
      rfl
    exact (henforced ⟨hsequence, hsigned⟩).1 hempty
  · rintro hcondition ⟨hsequence, hsigned⟩
    rcases hcondition with hsome | hunsigned
    · exact ⟨hsome, hsequence⟩
    · exact absurd hsigned hunsigned

/-- An attestation without checkpoints, with an Ed25519 signature of its message. -/
def signedWithoutCheckpoints : ExecutionAttestation :=
  { oneJob [] with signature := ⟨Library.Bytes.leBytes 64
      (0xb838b2bc00d4cc5d800c05ccaf74a7f7a2ff8e5b12e2fffc159b54206f39a4c * 2 ^ 256 +
          0x3edd137b247adfee6adecf0ef594ea3ad9a28e8a3312f713a55809ed5ff0247a),
    Library.Bytes.length_leBytes 64 _⟩ }

/-- The scheme of that signature. -/
def jobSignature : SignatureScheme :=
  onceSigned 0x2cd2461469ea1e42927bbebeae764795f9c52e137b50f5be0a529ce2636c4aea
    ((oneJob []).message (.ofTable jobDigests))
    (0xb838b2bc00d4cc5d800c05ccaf74a7f7a2ff8e5b12e2fffc159b54206f39a4c * 2 ^ 256 +
        0x3edd137b247adfee6adecf0ef594ea3ad9a28e8a3312f713a55809ed5ff0247a)

/-- The key of that signature. -/
def jobKey : VerifyingKey :=
  ⟨Library.Bytes.leBytes 32 0x2cd2461469ea1e42927bbebeae764795f9c52e137b50f5be0a529ce2636c4aea⟩

/-- Both verifiers accept an attestation without checkpoints that is signed with its key. -/
theorem accepted_without_checkpoints :
    signedWithoutCheckpoints.checkpoints = [] ∧
      (verifyExecutionAttestation (.ofTable jobDigests) jobSignature signedWithoutCheckpoints
        jobKey).isOk = true ∧
      (verifyExecutionWithData (.ofTable jobDigests) jobSignature signedWithoutCheckpoints jobKey
        []).isOk = true := by
  refine ⟨rfl, ?_, ?_⟩ <;> decide

end Clawbernetes.MoltAttestation
