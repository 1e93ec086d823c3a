import Clawbernetes.Library.HashChain
import Clawbernetes.MoltAttestation.Verification
import Mathlib.Data.List.Range

/-!
# Checkpoints and the data they are made of

`CheckpointChain` of `execution.rs` builds the checkpoints of a job: the hash of the first one
covers the first data block, and the hash of every other one covers the hash before it and its data
block. `verify_execution_with_data` recomputes these hashes.

`Covers` says that checkpoints have the positions as sequence numbers and the hashes of some data.
Every chain that is built covers its data (`covers_built`), and an attestation is accepted with data
exactly when it covers it and its signature is good (`verifyExecutionWithData_isOk_iff`). So what is
built and signed is accepted, and without a collision of BLAKE3 no other data is accepted for it
(`verified_data_exact`).
-/

set_option autoImplicit false
set_option relaxedAutoImplicit false

namespace Clawbernetes.MoltAttestation

open Library.HashChain
open MoltP2p (SignatureScheme SigningKey VerifyingKey)

/-- `CheckpointChain`. It always has a checkpoint. -/
structure CheckpointChain where
  checkpoints : List Checkpoint
  nonempty : checkpoints ≠ []

namespace CheckpointChain

/-- `CheckpointChain::new`, with the clock reading as an argument. -/
def new (blake3 : Blake3) (now : DateTime) (initialData : List UInt8) : CheckpointChain where
  checkpoints := [Checkpoint.new blake3 now 0 initialData]
  nonempty := List.cons_ne_nil _ _

/-- `CheckpointChain::add_checkpoint`. -/
def addCheckpoint (blake3 : Blake3) (now : DateTime) (chain : CheckpointChain)
    (data : List UInt8) : CheckpointChain where
  checkpoints := chain.checkpoints ++
    [Checkpoint.chainFrom blake3 now (chain.checkpoints.getLast chain.nonempty) data]
  nonempty := List.append_ne_nil_of_right_ne_nil _ (List.cons_ne_nil _ _)

/-- `CheckpointChain::into_checkpoints`. -/
def intoCheckpoints (chain : CheckpointChain) : List Checkpoint := chain.checkpoints

end CheckpointChain

/-- A data block with the reading of the clock at its checkpoint. -/
abbrev TimedBlock := DateTime × List UInt8

/-- The checkpoints that are built of data blocks, from the first block on. Without a block there is
no chain. -/
def builtCheckpoints (blake3 : Blake3) : List TimedBlock → List Checkpoint
  | [] => []
  | first :: rest =>
    (rest.foldl (fun chain block ↦ chain.addCheckpoint blake3 block.1 block.2)
      (CheckpointChain.new blake3 first.1 first.2)).intoCheckpoints

/-- The sequence number and the hash of a checkpoint. -/
def Checkpoint.mark (checkpoint : Checkpoint) : UInt64 × Digest :=
  (checkpoint.sequence, checkpoint.hash)

/-- The bytes that are hashed for a data block behind the hash before it. -/
def joinBlock (prior : Option Digest) (data : List UInt8) : List UInt8 :=
  prior.elim data fun digest ↦ digest.bytes ++ data

/-- The byte strings that are hashed for data blocks. -/
def hashedInputs (blake3 : Blake3) (data : List (List UInt8)) : List (List UInt8) :=
  chainedInputs blake3 joinBlock none data

/-- The checkpoints have the positions as sequence numbers, and the hashes of the data. -/
structure Covers (blake3 : Blake3) (data : List (List UInt8)) (checkpoints : List Checkpoint) :
    Prop where
  inSequence : Checkpoint.InSequence checkpoints
  hashes : checkpoints.map Checkpoint.hash = (hashedInputs blake3 data).map blake3

/-! ### What is built -/

variable {blake3 : Blake3} {data : List (List UInt8)} {checkpoints : List Checkpoint}

/-- A joined block is determined by the bytes and the hash before it. -/
theorem joinBlock_injective (prior : Option Digest) : Function.Injective (joinBlock prior) := by
  intro first second hbytes
  cases prior with
  | none => exact hbytes
  | some digest => exact List.append_cancel_left hbytes

/-- One checkpoint more is in sequence when its number is the next position. -/
theorem Checkpoint.inSequence_concat_iff {checkpoint : Checkpoint} :
    InSequence (checkpoints ++ [checkpoint]) ↔
      InSequence checkpoints ∧ checkpoint.sequence = .ofNat checkpoints.length := by
  unfold InSequence
  rw [List.length_append, List.length_singleton, List.range_succ, List.map_append, List.map_append]
  constructor
  · intro hsame
    obtain ⟨hbefore, hlast⟩ := List.append_inj' hsame rfl
    exact ⟨hbefore, List.singleton_inj.mp hlast⟩
  · rintro ⟨hbefore, hlast⟩
    rw [hbefore, List.map_singleton, List.map_singleton, hlast]

/-- The number behind that of the last checkpoint is the next position. -/
theorem Checkpoint.InSequence.sequence_getLast (hsequence : InSequence checkpoints)
    (hnonempty : checkpoints ≠ []) :
    (checkpoints.getLast hnonempty).sequence + 1 = .ofNat checkpoints.length := by
  obtain hempty | ⟨before, last, rfl⟩ := List.eq_nil_or_concat checkpoints
  · exact absurd hempty hnonempty
  · simp only [List.concat_eq_append] at hsequence ⊢
    rw [List.getLast_concat, List.length_append, List.length_singleton, UInt64.ofNat_add,
      (Checkpoint.inSequence_concat_iff.mp hsequence).2]
    rfl

/-- Every checkpoint in a sequence has the number behind the one before it. -/
theorem Checkpoint.InSequence.isChain (hsequence : InSequence checkpoints) :
    checkpoints.IsChain fun earlier later ↦ later.sequence = earlier.sequence + 1 := by
  have hnumbers : ((List.range checkpoints.length).map UInt64.ofNat).IsChain fun earlier later ↦
      later = earlier + 1 := by
    rw [List.isChain_map, List.isChain_range]
    exact fun index _ ↦ UInt64.ofNat_add index 1
  rw [← hsequence, List.isChain_map] at hnumbers
  exact hnumbers

/-- There are as many checkpoints as data blocks that they cover. -/
theorem Covers.length_eq (hcovers : Covers blake3 data checkpoints) :
    checkpoints.length = data.length := by
  have hlength := congrArg List.length hcovers.hashes
  rwa [List.length_map, List.length_map, hashedInputs, length_chainedInputs] at hlength

/-- The next digest is joined with the hash of the last checkpoint. -/
theorem Covers.headDigest_eq (hcovers : Covers blake3 data checkpoints)
    (hnonempty : checkpoints ≠ []) :
    headDigest blake3 none (hashedInputs blake3 data) =
      some (checkpoints.getLast hnonempty).hash := by
  unfold headDigest
  rw [← List.getLast?_map, ← hcovers.hashes, List.getLast?_map,
    List.getLast?_eq_some_getLast hnonempty, Option.map_some, Option.or_none]

/-- A checkpoint that is chained from the last one covers one block more. -/
theorem Covers.chainFrom (hcovers : Covers blake3 data checkpoints) (hnonempty : checkpoints ≠ [])
    (now : DateTime) (block : List UInt8) :
    Covers blake3 (data ++ [block])
      (checkpoints ++ [Checkpoint.chainFrom blake3 now (checkpoints.getLast hnonempty) block]) where
  inSequence :=
    Checkpoint.inSequence_concat_iff.mpr
      ⟨hcovers.inSequence, hcovers.inSequence.sequence_getLast hnonempty⟩
  hashes := by
    have hinputs : hashedInputs blake3 (data ++ [block]) = hashedInputs blake3 data ++
        [joinBlock (headDigest blake3 none (hashedInputs blake3 data)) block] :=
      chainedInputs_concat none data block
    rw [hinputs, hcovers.headDigest_eq hnonempty, List.map_append, List.map_append, hcovers.hashes]
    rfl

/-- The checkpoints that are built of data blocks cover them. -/
theorem covers_built (blake3 : Blake3) (blocks : List TimedBlock) :
    Covers blake3 (blocks.map Prod.snd) (builtCheckpoints blake3 blocks) := by
  cases blocks with
  | nil => exact ⟨rfl, rfl⟩
  | cons first rest =>
    induction rest using List.reverseRecOn with
    | nil => exact ⟨rfl, rfl⟩
    | append_singleton rest block ih =>
      have hstep : builtCheckpoints blake3 (first :: (rest ++ [block])) = _ :=
        congrArg CheckpointChain.intoCheckpoints (List.foldl_concat ..)
      rw [hstep, ← List.cons_append, List.map_append]
      exact ih.chainFrom _ block.1 block.2

/-! ### What is accepted -/

/-- The loop behind the first checkpoint recomputes the hashes from there on. -/
theorem checkChain_eq_ok_iff {index : ℕ} {previous : Checkpoint} {rest : List Checkpoint}
    {later : List (List UInt8)} (hlength : later.length = rest.length)
    (hsequence : (previous :: rest).IsChain fun earlier next ↦
      next.sequence = earlier.sequence + 1) :
    checkChain blake3 index previous rest later = .ok () ↔
      rest.map Checkpoint.hash =
        (chainedInputs blake3 joinBlock (some previous.hash) later).map blake3 := by
  induction rest generalizing index previous later with
  | nil =>
    obtain rfl := List.eq_nil_of_length_eq_zero hlength
    exact iff_of_true rfl rfl
  | cons checkpoint rest ih =>
    cases later with
    | nil => cases hlength
    | cons block later =>
      obtain ⟨hnumber, hsequence⟩ := List.isChain_cons_cons.mp hsequence
      have hverify : checkpoint.verifyChain blake3 previous block =
          decide (checkpoint.hash = blake3 (joinBlock (some previous.hash) block)) := by
        rw [Checkpoint.verifyChain, if_neg (not_not.mpr hnumber)]
        rfl
      rw [checkChain, hverify, chainedInputs, List.map_cons, List.map_cons, List.cons.injEq]
      by_cases hhash : checkpoint.hash = blake3 (joinBlock (some previous.hash) block)
      · rw [if_pos (decide_eq_true hhash), and_iff_right hhash, ← hhash]
        exact ih (Nat.succ.inj hlength) hsequence
      · rw [if_neg (ne_true_of_eq_false (decide_eq_false hhash))]
        exact iff_of_false (fun herror ↦ by cases herror) fun hboth ↦ hhash hboth.1

/-- For as many data blocks as checkpoints in sequence, the hashes are accepted exactly when they
are those of the data. -/
theorem checkHashes_eq_ok_iff (hlength : data.length = checkpoints.length)
    (hsequence : Checkpoint.InSequence checkpoints) :
    checkHashes blake3 checkpoints data = .ok () ↔
      checkpoints.map Checkpoint.hash = (hashedInputs blake3 data).map blake3 := by
  cases checkpoints with
  | nil =>
    obtain rfl := List.eq_nil_of_length_eq_zero hlength
    exact iff_of_true rfl rfl
  | cons first rest =>
    cases data with
    | nil => cases hlength
    | cons block later =>
      rw [checkHashes, hashedInputs, chainedInputs, List.map_cons, List.map_cons, List.cons.injEq]
      by_cases hhash : first.hash = blake3 block
      · rw [if_neg (not_not.mpr hhash), checkChain_eq_ok_iff (Nat.succ.inj hlength)
          hsequence.isChain, hhash]
        exact (and_iff_right rfl).symm
      · rw [if_pos hhash]
        exact iff_of_false (fun herror ↦ by cases herror) fun hboth ↦ hhash hboth.1

variable {scheme : SignatureScheme} {attestation : ExecutionAttestation}
  {publicKey : VerifyingKey}

/-- A signature is good when the scheme accepts it for the message of the attestation. -/
theorem verifySignature_eq_ok_iff :
    attestation.verifySignature blake3 scheme publicKey = .ok () ↔
      scheme.verifyStrict publicKey (attestation.message blake3) attestation.signature =
        .ok () := by
  unfold ExecutionAttestation.verifySignature
  cases scheme.verifyStrict publicKey (attestation.message blake3) attestation.signature with
  | ok value => exact iff_of_true rfl rfl
  | error reason => exact iff_of_false (fun herror ↦ by cases herror) fun herror ↦ by cases herror

/-- The verifier with data compares the number of blocks and the hashes once the attestation is
accepted without. -/
theorem verifyExecutionWithData_of_isOk
    (hbasic : (verifyExecutionAttestation blake3 scheme attestation publicKey).isOk = true) :
    (verifyExecutionWithData blake3 scheme attestation publicKey data).isOk = true ↔
      data.length = attestation.checkpoints.length ∧
        checkHashes blake3 attestation.checkpoints data = .ok () := by
  unfold verifyExecutionWithData
  cases hverified : verifyExecutionAttestation blake3 scheme attestation publicKey with
  | error error =>
    rw [hverified] at hbasic
    cases hbasic
  | ok result =>
    by_cases hlength : data.length = attestation.checkpoints.length
    · rw [if_neg (not_not.mpr hlength), and_iff_right hlength]
      change (checkHashes _ _ _ >>= fun _ ↦ Except.ok _).isOk = true ↔ _
      rw [isOk_bind_iff]
      exact and_iff_left rfl
    · rw [if_pos hlength]
      exact iff_of_false Bool.false_ne_true fun hboth ↦ hlength hboth.1

/-- The verifier with data accepts exactly the attestations whose checkpoints cover the data and
whose signature is good. -/
theorem verifyExecutionWithData_isOk_iff :
    (verifyExecutionWithData blake3 scheme attestation publicKey data).isOk = true ↔
      Covers blake3 data attestation.checkpoints ∧
        attestation.verifySignature blake3 scheme publicKey = .ok () := by
  constructor
  · intro haccepted
    have hbasic := isOk_of_verifyExecutionWithData haccepted
    obtain ⟨hlength, hhashes⟩ := (verifyExecutionWithData_of_isOk hbasic).mp haccepted
    obtain ⟨hsequence, hsigned⟩ := verifyExecutionAttestation_isOk_iff.mp hbasic
    exact ⟨⟨hsequence, (checkHashes_eq_ok_iff hlength hsequence).mp hhashes⟩, hsigned⟩
  · rintro ⟨hcovers, hsigned⟩
    have hbasic := verifyExecutionAttestation_isOk_iff.mpr ⟨hcovers.inSequence, hsigned⟩
    have hlength := hcovers.length_eq.symm
    exact (verifyExecutionWithData_of_isOk hbasic).mpr
      ⟨hlength, (checkHashes_eq_ok_iff hlength hcovers.inSequence).mpr hcovers.hashes⟩

/-- The marks of checkpoints are determined by the data that they cover. -/
theorem Covers.map_mark_eq {others : List Checkpoint} (hcovers : Covers blake3 data checkpoints)
    (hothers : Covers blake3 data others) :
    checkpoints.map Checkpoint.mark = others.map Checkpoint.mark := by
  have hsequences : checkpoints.map Checkpoint.sequence = others.map Checkpoint.sequence := by
    rw [hcovers.inSequence, hothers.inSequence, hcovers.length_eq, hothers.length_eq]
  have hzip (list : List Checkpoint) : list.map Checkpoint.mark =
      (list.map Checkpoint.sequence).zip (list.map Checkpoint.hash) :=
    List.zip_map'.symm
  rw [hzip, hzip, hsequences, hcovers.hashes, hothers.hashes]

/-- There is no collision between the byte strings that are hashed at one place for two lists of
data. -/
def SeparatesData (blake3 : Blake3) (data other : List (List UInt8)) : Prop :=
  ∀ pair ∈ (hashedInputs blake3 data).zip (hashedInputs blake3 other),
    blake3.Separates pair.1 pair.2

/-- Without a collision the data that checkpoints cover is determined. -/
theorem Covers.data_eq {other : List (List UInt8)} (hcovers : Covers blake3 data checkpoints)
    (hother : Covers blake3 other checkpoints) (hseparated : SeparatesData blake3 data other) :
    data = other :=
  eq_of_map_chainedInputs_eq joinBlock_injective hseparated
    (hcovers.hashes.symm.trans hother.hashes)

/-- The signature of a key for a message is accepted under the other key. -/
def VerifiesSigned (scheme : SignatureScheme) (signer : SigningKey) (verifier : VerifyingKey)
    (message : List UInt8) : Prop :=
  scheme.verifyStrict verifier message (scheme.sign signer message) = .ok ()

/-- What is built of a block and more is signed as it is. -/
theorem createAndSign_built {blocks : List TimedBlock} (hblocks : blocks ≠ [])
    (scheme : SignatureScheme) (now : DateTime) (jobId : Uuid) (duration : TimeDelta)
    (metrics : ExecutionMetrics) (signingKey : SigningKey) :
    ExecutionAttestation.createAndSign blake3 scheme now jobId (builtCheckpoints blake3 blocks)
        duration metrics signingKey =
      .ok ⟨jobId, builtCheckpoints blake3 blocks, duration, metrics, now,
        scheme.sign signingKey (ExecutionAttestation.createSigningMessage blake3 jobId
          (builtCheckpoints blake3 blocks) duration metrics now)⟩ := by
  have hcovers := covers_built blake3 blocks
  have hnonempty : (builtCheckpoints blake3 blocks).isEmpty = false := by
    rw [List.isEmpty_eq_false_iff, ← List.length_pos_iff, hcovers.length_eq, List.length_map]
    exact List.length_pos_iff.mpr hblocks
  unfold ExecutionAttestation.createAndSign
  rw [hnonempty, Checkpoint.checkSequence_zero_iff.mpr hcovers.inSequence]
  rfl

/-- The checkpoints of a list of data blocks that is not empty are signed, and where the signature
of the message verifies, the attestation is accepted with the data. An attestation is accepted only
with data from which its sequence numbers and hashes are built, and with no two lists of data that
BLAKE3 tells apart. -/
theorem verified_data_exact (blake3 : Blake3) (scheme : SignatureScheme) :
    (∀ (blocks : List TimedBlock) (signingKey : SigningKey) (publicKey : VerifyingKey)
        (now : DateTime) (jobId : Uuid) (duration : TimeDelta) (metrics : ExecutionMetrics),
      blocks ≠ [] →
      VerifiesSigned scheme signingKey publicKey (ExecutionAttestation.createSigningMessage blake3
        jobId (builtCheckpoints blake3 blocks) duration metrics now) →
      ∃ attestation, ExecutionAttestation.createAndSign blake3 scheme now jobId
          (builtCheckpoints blake3 blocks) duration metrics signingKey = .ok attestation ∧
        (verifyExecutionWithData blake3 scheme attestation publicKey
          (blocks.map Prod.snd)).isOk = true) ∧
    (∀ (attestation : ExecutionAttestation) (publicKey : VerifyingKey) (blocks : List TimedBlock),
      (verifyExecutionWithData blake3 scheme attestation publicKey
        (blocks.map Prod.snd)).isOk = true →
      attestation.checkpoints.map Checkpoint.mark =
        (builtCheckpoints blake3 blocks).map Checkpoint.mark) ∧
    ∀ (attestation : ExecutionAttestation) (firstKey secondKey : VerifyingKey)
      (data other : List (List UInt8)), SeparatesData blake3 data other →
      (verifyExecutionWithData blake3 scheme attestation firstKey data).isOk = true →
      (verifyExecutionWithData blake3 scheme attestation secondKey other).isOk = true →
      data = other := by
  refine ⟨?_, ?_, ?_⟩
  · intro blocks signingKey publicKey now jobId duration metrics hnonempty hverifies
    refine ⟨_, createAndSign_built hnonempty scheme now jobId duration metrics signingKey, ?_⟩
    exact verifyExecutionWithData_isOk_iff.mpr
      ⟨covers_built blake3 blocks, verifySignature_eq_ok_iff.mpr hverifies⟩
  · intro attestation publicKey blocks haccepted
    exact (verifyExecutionWithData_isOk_iff.mp haccepted).1.map_mark_eq (covers_built blake3 blocks)
  · intro attestation firstKey secondKey data other hseparated hdata hother
    exact (verifyExecutionWithData_isOk_iff.mp hdata).1.data_eq
      (verifyExecutionWithData_isOk_iff.mp hother).1 hseparated

end Clawbernetes.MoltAttestation
