import Clawbernetes.MoltAttestation.Signing

/-!
# Execution attestations and what their signatures bind

`execution.rs`: a provider attests the checkpoints of a job, its duration and its metrics, and signs
a BLAKE3 digest of them. Every checkpoint is hashed as 48 bytes, the sequence number, the hash and
the seconds, without a count before the list; the 40 bytes of the duration, the metrics and the time
follow.

All parts have fixed widths, so the number of checkpoints is known from the length of the hashed
bytes, and no byte of a checkpoint can be read as one of the metrics. `execution_message_eq_iff`
says that without a collision of BLAKE3 the signed message determines the attestation, with times to
the second and the duration to the millisecond.
-/

set_option autoImplicit false
set_option relaxedAutoImplicit false

namespace Clawbernetes.MoltAttestation

open Library.Bytes
open MoltP2p (Signature SignatureScheme SigningKey VerifyingKey)

/-- `Checkpoint`. -/
structure Checkpoint where
  sequence : UInt64
  hash : Digest
  timestamp : DateTime
  deriving DecidableEq

namespace Checkpoint

/-- `Checkpoint::new`, with the clock reading as an argument. -/
def new (blake3 : Blake3) (now : DateTime) (sequence : UInt64) (data : List UInt8) : Checkpoint :=
  ⟨sequence, blake3 data, now⟩

/-- `Checkpoint::chain_from`. -/
def chainFrom (blake3 : Blake3) (now : DateTime) (previous : Checkpoint) (data : List UInt8) :
    Checkpoint :=
  ⟨previous.sequence + 1, blake3 (previous.hash.bytes ++ data), now⟩

/-- `Checkpoint::verify_chain`. -/
def verifyChain (blake3 : Blake3) (checkpoint previous : Checkpoint) (data : List UInt8) : Bool :=
  if checkpoint.sequence ≠ previous.sequence + 1 then false
  else checkpoint.hash = blake3 (previous.hash.bytes ++ data)

/-- The loop that compares the sequence numbers with the positions, from a position on, with the
text of its error. -/
def checkSequence (mismatch : ℕ → UInt64 → String) :
    ℕ → List Checkpoint → Except AttestationError Unit
  | _, [] => .ok ()
  | index, checkpoint :: rest =>
    if checkpoint.sequence ≠ UInt64.ofNat index then
      .error (.checkpointVerification (mismatch index checkpoint.sequence))
    else checkSequence mismatch (index + 1) rest

/-- The sequence numbers are the positions, as `u64`. -/
def InSequence (checkpoints : List Checkpoint) : Prop :=
  checkpoints.map sequence = (List.range checkpoints.length).map UInt64.ofNat

instance (checkpoints : List Checkpoint) : Decidable (InSequence checkpoints) :=
  inferInstanceAs (Decidable (_ = _))

/-- The loop succeeds exactly when the sequence numbers are the positions. -/
theorem checkSequence_eq_ok_iff {mismatch : ℕ → UInt64 → String} {index : ℕ}
    {checkpoints : List Checkpoint} :
    checkSequence mismatch index checkpoints = .ok () ↔
      checkpoints.map sequence =
        (List.range' index checkpoints.length).map UInt64.ofNat := by
  induction checkpoints generalizing index with
  | nil => exact iff_of_true rfl rfl
  | cons checkpoint rest ih =>
    rw [checkSequence, List.map_cons, List.length_cons, List.range'_succ, List.map_cons,
      List.cons.injEq]
    split_ifs with hmismatch
    · exact iff_of_false (fun heq ↦ by cases heq) fun hsame ↦ hmismatch hsame.1
    · rw [ih]
      exact ⟨fun hrest ↦ ⟨not_not.mp hmismatch, hrest⟩, fun hboth ↦ hboth.2⟩

/-- From the first checkpoint on, the loop checks that the checkpoints are in sequence. -/
theorem checkSequence_zero_iff {mismatch : ℕ → UInt64 → String} {checkpoints : List Checkpoint} :
    checkSequence mismatch 0 checkpoints = .ok () ↔ InSequence checkpoints := by
  rw [checkSequence_eq_ok_iff, InSequence, List.range_eq_range']

end Checkpoint

/-- `ExecutionMetrics`, with the utilization as the bit pattern of an `f64`. -/
@[ext] structure ExecutionMetrics where
  gpuUtilization : UInt64
  memoryUsedMb : UInt64
  computeOps : UInt64
  deriving DecidableEq

/-- `ExecutionAttestation`. -/
structure ExecutionAttestation where
  jobId : Uuid
  checkpoints : List Checkpoint
  duration : TimeDelta
  metrics : ExecutionMetrics
  timestamp : DateTime
  signature : Signature
  deriving DecidableEq

namespace ExecutionAttestation

/-- The bytes of a checkpoint that are hashed. -/
def checkpointBytes (checkpoint : Checkpoint) : List UInt8 :=
  leBytes 8 checkpoint.sequence.toNat ++ checkpoint.hash.bytes ++
    leBytesInt 8 checkpoint.timestamp.timestamp

/-- The bytes of the metrics that are hashed. -/
def metricsBytes (metrics : ExecutionMetrics) : List UInt8 :=
  leBytes 8 metrics.gpuUtilization.toNat ++ leBytes 8 metrics.memoryUsedMb.toNat ++
    leBytes 8 metrics.computeOps.toNat

/-- The bytes that are hashed for signing. -/
def signingInput (jobId : Uuid) (checkpoints : List Checkpoint) (duration : TimeDelta)
    (metrics : ExecutionMetrics) (timestamp : DateTime) : List UInt8 :=
  utf8Bytes "execution_attestation_v1" ++ jobId.bytes ++ checkpoints.flatMap checkpointBytes ++
    leBytesInt 8 duration.numMilliseconds ++ metricsBytes metrics ++
    leBytesInt 8 timestamp.timestamp

/-- `ExecutionAttestation::create_signing_message`. -/
def createSigningMessage (blake3 : Blake3) (jobId : Uuid) (checkpoints : List Checkpoint)
    (duration : TimeDelta) (metrics : ExecutionMetrics) (timestamp : DateTime) : List UInt8 :=
  (blake3 (signingInput jobId checkpoints duration metrics timestamp)).bytes

/-- `ExecutionAttestation::create_and_sign`, with the clock reading as an argument. -/
def createAndSign (blake3 : Blake3) (scheme : SignatureScheme) (now : DateTime) (jobId : Uuid)
    (checkpoints : List Checkpoint) (duration : TimeDelta) (metrics : ExecutionMetrics)
    (signingKey : SigningKey) : Except AttestationError ExecutionAttestation := do
  if checkpoints.isEmpty then
    throw (.invalidExecutionProof "at least one checkpoint is required")
  Checkpoint.checkSequence (fun index sequence ↦ "checkpoint sequence mismatch: expected " ++
    toString index ++ ", got " ++ toString sequence) 0 checkpoints
  return {
    jobId := jobId
    checkpoints := checkpoints
    duration := duration
    metrics := metrics
    timestamp := now
    signature := scheme.sign signingKey
      (createSigningMessage blake3 jobId checkpoints duration metrics now) }

/-- The bytes that are hashed for the signature of an attestation. -/
def input (attestation : ExecutionAttestation) : List UInt8 :=
  signingInput attestation.jobId attestation.checkpoints attestation.duration attestation.metrics
    attestation.timestamp

/-- The message that the signature of an attestation is made for. -/
def message (blake3 : Blake3) (attestation : ExecutionAttestation) : List UInt8 :=
  createSigningMessage blake3 attestation.jobId attestation.checkpoints attestation.duration
    attestation.metrics attestation.timestamp

/-- `ExecutionAttestation::verify_signature`. -/
def verifySignature (blake3 : Blake3) (scheme : SignatureScheme)
    (attestation : ExecutionAttestation) (publicKey : VerifyingKey) :
    Except AttestationError Unit :=
  match scheme.verifyStrict publicKey (attestation.message blake3) attestation.signature with
  | .ok () => .ok ()
  | .error _ => .error .signatureVerification

/-- `ExecutionAttestation::final_checkpoint_hash`. -/
def finalCheckpointHash (attestation : ExecutionAttestation) : Option Digest :=
  attestation.checkpoints.getLast?.map Checkpoint.hash

/-- `ExecutionAttestation::checkpoint_count`. -/
def checkpointCount (attestation : ExecutionAttestation) : ℕ :=
  attestation.checkpoints.length

/-! ### What the hashed bytes determine -/

/-- What the hashed bytes say of a checkpoint: its sequence number, its hash and its seconds. -/
def checkpointContents (checkpoint : Checkpoint) : UInt64 × Digest × ℤ :=
  (checkpoint.sequence, checkpoint.hash, checkpoint.timestamp.timestamp)

/-- Everything an attestation says, with its times to the second and its duration to the
millisecond, without its signature. -/
def contents (attestation : ExecutionAttestation) :
    Uuid × List (UInt64 × Digest × ℤ) × ℤ × ExecutionMetrics × ℤ :=
  (attestation.jobId, attestation.checkpoints.map checkpointContents,
    attestation.duration.numMilliseconds, attestation.metrics, attestation.timestamp.timestamp)

/-- A checkpoint is hashed as 48 bytes. -/
theorem length_checkpointBytes (checkpoint : Checkpoint) :
    (checkpointBytes checkpoint).length = 48 := by
  simp [checkpointBytes, checkpoint.hash.length_bytes]

/-- The metrics are hashed as 24 bytes. -/
@[simp] theorem length_metricsBytes (metrics : ExecutionMetrics) :
    (metricsBytes metrics).length = 24 := by
  simp [metricsBytes]

/-- The bytes of a checkpoint determine its contents. -/
theorem checkpointContents_of_bytes {first second : Checkpoint}
    (hbytes : checkpointBytes first = checkpointBytes second) :
    checkpointContents first = checkpointContents second := by
  unfold checkpointBytes at hbytes
  rw [List.append_assoc, List.append_assoc] at hbytes
  obtain ⟨hsequence, hbytes⟩ :=
    leBytes_append_inj first.sequence.toNat_lt second.sequence.toNat_lt hbytes
  obtain ⟨hhash, hseconds⟩ := List.append_inj hbytes
    (by rw [first.hash.length_bytes, second.hash.length_bytes])
  have htime := (leBytesInt_append_inj first.timestamp.timestamp_range
    second.timestamp.timestamp_range (congrArg (· ++ []) hseconds)).1
  unfold checkpointContents
  rw [UInt64.toNat_inj.mp hsequence, Digest.ext hhash, htime]

/-- The bytes of the metrics are read back from the front of a byte string. -/
theorem metricsBytes_append_inj {first second : ExecutionMetrics}
    {firstRest secondRest : List UInt8}
    (hbytes : metricsBytes first ++ firstRest = metricsBytes second ++ secondRest) :
    first = second ∧ firstRest = secondRest := by
  unfold metricsBytes at hbytes
  simp only [List.append_assoc] at hbytes
  obtain ⟨hutilization, hbytes⟩ :=
    leBytes_append_inj first.gpuUtilization.toNat_lt second.gpuUtilization.toNat_lt hbytes
  obtain ⟨hmemory, hbytes⟩ :=
    leBytes_append_inj first.memoryUsedMb.toNat_lt second.memoryUsedMb.toNat_lt hbytes
  obtain ⟨hops, hrest⟩ :=
    leBytes_append_inj first.computeOps.toNat_lt second.computeOps.toNat_lt hbytes
  exact ⟨ExecutionMetrics.ext (UInt64.toNat_inj.mp hutilization) (UInt64.toNat_inj.mp hmemory)
    (UInt64.toNat_inj.mp hops), hrest⟩

/-- The contents determine the hashed bytes. -/
theorem input_of_contents {first second : ExecutionAttestation}
    (hcontents : first.contents = second.contents) : first.input = second.input := by
  have hflat : ∀ checkpoints : List Checkpoint, checkpoints.flatMap checkpointBytes =
      (checkpoints.map checkpointContents).flatMap fun parts ↦
        leBytes 8 parts.1.toNat ++ parts.2.1.bytes ++ leBytesInt 8 parts.2.2 := by
    intro checkpoints
    rw [List.flatMap_map]
    rfl
  simp only [contents, Prod.mk.injEq] at hcontents
  obtain ⟨hjob, hcheckpoints, hduration, hmetrics, hstamp⟩ := hcontents
  unfold input signingInput
  rw [hjob, hduration, hmetrics, hstamp, hflat, hflat, hcheckpoints]

/-- The hashed bytes determine the contents: the job and the five numbers at the end have fixed
widths, so the bytes between them are the checkpoints, 48 each. -/
theorem contents_of_input {first second : ExecutionAttestation}
    (hinput : first.input = second.input) : first.contents = second.contents := by
  unfold input signingInput at hinput
  simp only [List.append_assoc] at hinput
  obtain ⟨hjob, hinput⟩ := List.append_inj (List.append_cancel_left hinput)
    (by rw [first.jobId.length_bytes, second.jobId.length_bytes])
  obtain ⟨hcheckpoints, hinput⟩ := flatMap_append_view_inj_of_width checkpointBytes
    checkpointContents (by decide) length_checkpointBytes
    (fun _ _ ↦ checkpointContents_of_bytes) (by simp) hinput
  obtain ⟨hduration, hinput⟩ := leBytesInt_append_inj first.duration.numMilliseconds_range
    second.duration.numMilliseconds_range hinput
  obtain ⟨hmetrics, hinput⟩ := metricsBytes_append_inj hinput
  have hstamp := (leBytesInt_append_inj first.timestamp.timestamp_range
    second.timestamp.timestamp_range (congrArg (· ++ []) hinput)).1
  unfold contents
  rw [Uuid.ext hjob, hcheckpoints, hduration, hmetrics, hstamp]

/-- Without a collision of BLAKE3 between the two, the signed messages of two attestations are equal
exactly when the jobs, the whole lists of checkpoints, the durations, the metrics and the times
are. -/
theorem execution_message_eq_iff (blake3 : Blake3) (first second : ExecutionAttestation)
    (hhash : blake3.Separates first.input second.input) :
    first.message blake3 = second.message blake3 ↔ first.contents = second.contents := by
  constructor
  · exact fun hmessage ↦ contents_of_input (hhash (Digest.ext hmessage))
  · exact fun hcontents ↦ congrArg (fun bytes ↦ (blake3 bytes).bytes) (input_of_contents hcontents)

/-- The checkpoint of the data `abc`. -/
def exampleCheckpoint : Checkpoint where
  sequence := 0
  hash := .ofNat 0x859dbdd56c9c35fd03db795d4658c548b58d3a27753bb6ff33514638acb33764
  timestamp := exampleTime

/-- An attestation of one job with some checkpoints, with a signature of no meaning. -/
def oneJob (checkpoints : List Checkpoint) : ExecutionAttestation where
  jobId := Uuid.ofByte 2
  checkpoints := checkpoints
  duration := ⟨1500 * nanosPerMilli, by decide, by decide⟩
  metrics := ⟨0x4055400000000000, 8192, 1000000⟩
  timestamp := ⟨1700000100 * nanosPerSecond, by decide, by decide⟩
  signature := ⟨List.replicate 64 0, length_zeros_64⟩

/-- The BLAKE3 digests of the attestations with one checkpoint and with none. -/
def jobDigests : List (List UInt8 × Digest) :=
  [((oneJob [exampleCheckpoint]).input,
      .ofNat 0x29328ec0dea1803da1294407617f86b70929d3e88d2f84255ec17a174f5578a4),
    ((oneJob []).input,
      .ofNat 0x379e1c6f52aa722d222b9b31e327b66bc8a566ae8efbb5a3df22bd94f9a9d118)]

/-- An attestation and the one without its checkpoint are signed as different messages. -/
theorem execution_messages_differ :
    (oneJob [exampleCheckpoint]).message (.ofTable jobDigests) ≠
      (oneJob []).message (.ofTable jobDigests) := by
  have hhash : (Blake3.ofTable jobDigests).Separates (oneJob [exampleCheckpoint]).input
      (oneJob []).input := by
    intro hdigest
    exact absurd hdigest (by decide)
  exact (execution_message_eq_iff _ _ _ hhash).not.mpr (by decide)

end ExecutionAttestation

end Clawbernetes.MoltAttestation
