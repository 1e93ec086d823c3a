import Clawbernetes.Library.Bytes
import Clawbernetes.MoltP2p.Announcement

/-!
# What attestations are signed with

The values that all attestations share: identifiers, times and durations of `chrono`, BLAKE3 digests
and the errors of `error.rs`. BLAKE3 is a parameter of the model, a function from byte strings to
digests, and so is Ed25519 with its `SignatureScheme`. No function into 32 bytes tells all byte
strings apart, so a result that needs BLAKE3 to be free of collisions says so of the byte strings it
is about.

A `DateTime` carries the range of `chrono`, so that its seconds fit in an `i64` and are determined
by their eight bytes; a `TimeDelta` carries its range for the same reason.
-/

set_option autoImplicit false
set_option relaxedAutoImplicit false

namespace Clawbernetes.MoltAttestation

open Library.Bytes
open MoltP2p (Signature SignatureScheme SigningKey VerifyingKey)

/-- `Uuid`, by its 16 bytes. -/
@[ext] structure Uuid where
  bytes : List UInt8
  length_bytes : bytes.length = 16
  deriving DecidableEq

/-- The identifier of sixteen equal bytes. -/
def Uuid.ofByte (byte : UInt8) : Uuid := ⟨List.replicate 16 byte, length_replicate_16 byte⟩

/-- `Uuid` as a text: the bytes in hexadecimal, with hyphens behind the fourth, the sixth, the
eighth and the tenth. -/
def Uuid.display (uuid : Uuid) : String :=
  let hex (part : List UInt8) : String := String.ofList (part.flatMap fun byte ↦
    [Nat.digitChar (byte.toNat / 16), Nat.digitChar (byte.toNat % 16)])
  String.intercalate "-" [hex (uuid.bytes.take 4), hex ((uuid.bytes.drop 4).take 2),
    hex ((uuid.bytes.drop 6).take 2), hex ((uuid.bytes.drop 8).take 2), hex (uuid.bytes.drop 10)]

/-- A BLAKE3 digest. -/
@[ext] structure Digest where
  bytes : List UInt8
  length_bytes : bytes.length = 32

/-- Digests are compared by their bytes. -/
instance : DecidableEq Digest := fun first second ↦
  decidable_of_iff (first.bytes = second.bytes) Digest.ext_iff.symm

/-- `blake3::hash`, also as a `Hasher` that is updated with the parts of its input. -/
abbrev Blake3 := List UInt8 → Digest

/-- There is no collision between two byte strings. -/
def Blake3.Separates (blake3 : Blake3) (first second : List UInt8) : Prop :=
  blake3 first = blake3 second → first = second

/-- A signature of the one message is accepted for the other only when they are the same. -/
def AcceptsOnlySigned (scheme : SignatureScheme) (message other : List UInt8) : Prop :=
  ∀ signer verifier,
    scheme.verifyStrict verifier other (scheme.sign signer message) = .ok () → other = message

/-- The digest whose bytes are those of a number. -/
def Digest.ofNat (value : ℕ) : Digest := ⟨leBytes 32 value, length_leBytes 32 value⟩

/-- BLAKE3 as far as a table knows it. -/
def Blake3.ofTable (table : List (List UInt8 × Digest)) : Blake3 :=
  fun input ↦ (table.lookup input).getD (Digest.ofNat 0)

/-- Ed25519 as far as one signature shows it: the key, the message and the signature that belong
together, as the bytes of three numbers. -/
def onceSigned (key : ℕ) (message : List UInt8) (signature : ℕ) : SignatureScheme where
  fromBytes := fun bytes ↦ some ⟨bytes⟩
  sign := fun _ _ ↦ ⟨leBytes 64 signature, length_leBytes 64 signature⟩
  verifyStrict := fun verifier text candidate ↦
    if verifier.bytes = leBytes 32 key ∧ text = message ∧
      candidate.bytes = leBytes 64 signature then
      .ok ()
    else .error "signature error: Verification equation was not satisfied"

/-- The one signature is accepted for its message only. -/
theorem acceptsOnlySigned_onceSigned (key : ℕ) (message other : List UInt8) (signature : ℕ) :
    AcceptsOnlySigned (onceSigned key message signature) message other := by
  intro signer verifier haccepted
  simp only [onceSigned] at haccepted
  split_ifs at haccepted with hbelong
  exact hbelong.2.1

/-- The nanoseconds of a second. -/
def nanosPerSecond : ℤ := 10 ^ 9

/-- The nanoseconds of a millisecond. -/
def nanosPerMilli : ℤ := 10 ^ 6

/-- `chrono::DateTime<Utc>`: nanoseconds since the epoch, between `MIN_UTC` and `MAX_UTC`. -/
@[ext] structure DateTime where
  nanoseconds : ℤ
  min_le : -8334601228800 * nanosPerSecond ≤ nanoseconds
  lt_max : nanoseconds < 8210266876800 * nanosPerSecond
  deriving DecidableEq

/-- The time of the examples. -/
def exampleTime : DateTime := ⟨1700000000 * nanosPerSecond, by decide, by decide⟩

/-- `DateTime::timestamp`: whole seconds since the epoch. -/
def DateTime.timestamp (time : DateTime) : ℤ :=
  time.nanoseconds / nanosPerSecond

/-- The seconds of a time are in the range of `i64`. -/
theorem DateTime.timestamp_range (time : DateTime) :
    -2 ^ 63 ≤ time.timestamp ∧ time.timestamp < 2 ^ 63 := by
  have hmin := time.min_le
  have hmax := time.lt_max
  unfold DateTime.timestamp nanosPerSecond at *
  omega

/-- `chrono::Duration`: signed nanoseconds, within `i64::MAX` milliseconds. -/
@[ext] structure TimeDelta where
  nanoseconds : ℤ
  min_le : -(2 ^ 63 - 1) * nanosPerMilli ≤ nanoseconds
  le_max : nanoseconds ≤ (2 ^ 63 - 1) * nanosPerMilli
  deriving DecidableEq

/-- `Duration::num_milliseconds`: whole milliseconds, rounded towards zero. -/
def TimeDelta.numMilliseconds (duration : TimeDelta) : ℤ :=
  duration.nanoseconds.tdiv nanosPerMilli

/-- The milliseconds of a duration are in the range of `i64`. -/
theorem TimeDelta.numMilliseconds_range (duration : TimeDelta) :
    -2 ^ 63 ≤ duration.numMilliseconds ∧ duration.numMilliseconds < 2 ^ 63 := by
  have hmin := duration.min_le
  have hmax := duration.le_max
  unfold TimeDelta.numMilliseconds nanosPerMilli at *
  have hsign : Int.sign (10 ^ 6) = 1 := by decide
  rw [Int.tdiv_eq_ediv, hsign]
  split_ifs
  · omega
  · omega

/-- `Duration::num_seconds`: whole seconds, rounded towards zero. -/
def TimeDelta.numSeconds (duration : TimeDelta) : ℤ :=
  duration.nanoseconds.tdiv nanosPerSecond

/-- The duration of some nanoseconds, where it is in range. -/
def TimeDelta.ofNanoseconds (nanoseconds : ℤ) : Option TimeDelta :=
  if hrange : -(2 ^ 63 - 1) * nanosPerMilli ≤ nanoseconds ∧
      nanoseconds ≤ (2 ^ 63 - 1) * nanosPerMilli then
    some ⟨nanoseconds, hrange.1, hrange.2⟩
  else none

/-- `Duration::seconds`, which panics out of range. -/
def TimeDelta.seconds (seconds : ℤ) : Option TimeDelta :=
  ofNanoseconds (seconds * nanosPerSecond)

/-- The difference of two durations. The operator `-` panics out of range. -/
def TimeDelta.checkedSub (duration other : TimeDelta) : Option TimeDelta :=
  ofNanoseconds (duration.nanoseconds - other.nanoseconds)

/-- `DateTime::signed_duration_since`. The difference of two times is always a duration. -/
def DateTime.signedDurationSince (time earlier : DateTime) : TimeDelta where
  nanoseconds := time.nanoseconds - earlier.nanoseconds
  min_le := by
    have hmin := time.min_le
    have hmax := earlier.lt_max
    unfold nanosPerSecond at hmin hmax
    unfold nanosPerMilli
    omega
  le_max := by
    have hmin := earlier.min_le
    have hmax := time.lt_max
    unfold nanosPerSecond at hmin hmax
    unfold nanosPerMilli
    omega

/-- The sum of a time and a duration, where it is a time. The operator `+` panics where it is
not. -/
def DateTime.checkedAdd (time : DateTime) (duration : TimeDelta) : Option DateTime :=
  if hrange : -8334601228800 * nanosPerSecond ≤ time.nanoseconds + duration.nanoseconds ∧
      time.nanoseconds + duration.nanoseconds < 8210266876800 * nanosPerSecond then
    some ⟨time.nanoseconds + duration.nanoseconds, hrange.1, hrange.2⟩
  else none

/-- The errors of `error.rs` that signing, verifying, challenges and chains return. -/
inductive AttestationError where
  | hardwareVerification (reason : String)
  | invalidExecutionProof (reason : String)
  | checkpointVerification (reason : String)
  | signatureVerification
  | expired
  | challengeExpired (ageSecs maxAgeSecs : ℕ)
  | nonceReplay
  | verifierMismatch (expected actual : String)
  | rateLimitExceeded (remainingSecs : ℕ)
  | cooldownActive (remainingSecs : ℕ)
  deriving DecidableEq

end Clawbernetes.MoltAttestation
