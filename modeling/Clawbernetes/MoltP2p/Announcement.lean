import Clawbernetes.Library.Bytes

/-!
# Capacity announcements and what their signatures cover

`announcement.rs`, with the identifiers of `protocol.rs`. A provider announces its GPUs, prices and
job types, and signs the byte string of `signingMessage`. Ed25519 is a parameter of the model: a
`SignatureScheme` has the operations of the library that the code calls, and nothing is assumed of
them here.

The signed bytes do not determine the announcement. The lists are concatenated without lengths or
counts, and the two times are cut to whole seconds. Two announcements are told apart exactly by the
peer, by the whole seconds of the two times and by the undelimited concatenation of the rest, and
every announcement shares its signed bytes with others that list different job types, live for a
different time or were created at a different moment, so that a signature moves between them
(`binding_iff_distinguished`). What the bytes do determine is the announcement among those of one
layout: the same number of GPUs and job types, with names of the same lengths, and the same
fractions of a second (`contents_eq_of_sameLayout`).
-/

set_option autoImplicit false
set_option relaxedAutoImplicit false

namespace Clawbernetes.MoltP2p

open Library.Bytes

/-! ### Identifiers, durations and errors -/

/-- `PeerId`: the 32 bytes of a public key. -/
@[ext] structure PeerId where
  bytes : List UInt8
  length_bytes : bytes.length = 32
  deriving DecidableEq

/-- The peer of thirty-two equal bytes. -/
def PeerId.ofByte (byte : UInt8) : PeerId := ⟨List.replicate 32 byte, length_replicate_32 byte⟩

/-- `ed25519_dalek::Signature`: 64 bytes. -/
@[ext] structure Signature where
  bytes : List UInt8
  length_bytes : bytes.length = 64
  deriving DecidableEq

/-- `ed25519_dalek::VerifyingKey`, by its compressed bytes. -/
structure VerifyingKey where
  bytes : List UInt8
  deriving DecidableEq

/-- `ed25519_dalek::SigningKey`, by its secret bytes. -/
structure SigningKey where
  bytes : List UInt8
  deriving DecidableEq

/-- The operations of `ed25519_dalek` that the code calls: decoding a public key, signing, and the
strict verification with the text of its error. -/
structure SignatureScheme where
  fromBytes : List UInt8 → Option VerifyingKey
  sign : SigningKey → List UInt8 → Signature
  verifyStrict : VerifyingKey → List UInt8 → Signature → Except String Unit

/-- The scheme under which no key decodes, for runs that verify nothing. -/
def SignatureScheme.keyless : SignatureScheme where
  fromBytes := fun _ ↦ none
  sign := fun _ _ ↦ ⟨List.replicate 64 0, length_zeros_64⟩
  verifyStrict := fun _ _ _ ↦ .error "no key decodes"

/-- The nanoseconds of a second. -/
def nanosPerSec : ℕ := 10 ^ 9

/-- `std::time::Duration`: 64 bits of whole seconds and a fraction, as nanoseconds. -/
@[ext] structure Duration where
  nanoseconds : ℕ
  nanoseconds_lt : nanoseconds < 2 ^ 64 * nanosPerSec
  deriving DecidableEq

/-- `Duration::MAX`. -/
def Duration.max : Duration := ⟨2 ^ 64 * nanosPerSec - 1, by decide⟩

/-- `Duration::as_secs`. -/
def Duration.asSecs (duration : Duration) : ℕ :=
  duration.nanoseconds / nanosPerSec

/-- Another duration within the same second. -/
def Duration.neighbour (duration : Duration) : Duration :=
  if hwhole : duration.nanoseconds % nanosPerSec = 0 then
    ⟨duration.nanoseconds + 1, by
      have hlt := duration.nanoseconds_lt
      unfold nanosPerSec at *
      omega⟩
  else ⟨duration.nanoseconds - 1, lt_of_le_of_lt (Nat.sub_le _ _) duration.nanoseconds_lt⟩

/-- The neighbour of a duration differs from it and has the same whole seconds. -/
theorem Duration.neighbour_spec (duration : Duration) :
    Duration.neighbour duration ≠ duration ∧
      (Duration.neighbour duration).asSecs = duration.asSecs := by
  unfold Duration.neighbour
  split_ifs with hwhole
  · refine ⟨fun hsame ↦ ?_, ?_⟩
    · have hnanos := congrArg Duration.nanoseconds hsame
      dsimp only at hnanos
      omega
    · unfold Duration.asSecs nanosPerSec at *
      dsimp only
      omega
  · refine ⟨fun hsame ↦ ?_, ?_⟩
    · have hnanos := congrArg Duration.nanoseconds hsame
      dsimp only at hnanos
      unfold nanosPerSec at hwhole
      omega
    · unfold Duration.asSecs nanosPerSec at *
      dsimp only
      omega

/-- A duration is determined by its whole seconds and the fraction of a second. -/
theorem Duration.eq_of_asSecs {first second : Duration} (hsecs : first.asSecs = second.asSecs)
    (hfraction : first.nanoseconds % nanosPerSec = second.nanoseconds % nanosPerSec) :
    first = second := by
  have hnanos : first.nanoseconds = second.nanoseconds := by
    rw [← Nat.div_add_mod first.nanoseconds nanosPerSec,
      ← Nat.div_add_mod second.nanoseconds nanosPerSec, hfraction]
    exact congrArg (fun secs ↦ nanosPerSec * secs + _) hsecs
  exact Duration.ext hnanos

/-- The errors of the gossip protocol. A call that panics returns none of them, which is
`panicked`. -/
inductive P2pError where
  | gossip (message : String)
  | protocol (message : String)
  | rateLimited (peerId : PeerId)
  | peerBanned (peerId : PeerId)
  | panicked
  deriving DecidableEq

/-- `PeerId::to_verifying_key`. -/
def PeerId.toVerifyingKey (scheme : SignatureScheme) (peerId : PeerId) : Option VerifyingKey :=
  scheme.fromBytes peerId.bytes

/-! ### The announcement -/

/-- `GpuInfo`. -/
structure GpuInfo where
  model : String
  vramGb : UInt32
  count : UInt32
  deriving DecidableEq

/-- `Pricing`. -/
@[ext] structure Pricing where
  gpuHourCents : UInt64
  cpuHourCents : UInt64
  deriving DecidableEq

/-- `CapacityAnnouncement`. The creation time is in nanoseconds since the epoch. -/
structure CapacityAnnouncement where
  peerId : PeerId
  gpus : List GpuInfo
  pricing : Pricing
  jobTypes : List String
  ttl : Duration
  createdAt : ℤ
  signature : Option Signature
  deriving DecidableEq

namespace CapacityAnnouncement

/-- `CapacityAnnouncement::new`, with the clock reading as an argument. -/
def new (now : ℤ) (peerId : PeerId) (gpus : List GpuInfo) (pricing : Pricing)
    (jobTypes : List String) (ttl : Duration) : CapacityAnnouncement where
  peerId := peerId
  gpus := gpus
  pricing := pricing
  jobTypes := jobTypes
  ttl := ttl
  createdAt := now
  signature := none

/-- `CapacityAnnouncement::is_expired` at a reading of the wall clock. A creation time in the future
counts as the longest possible age. -/
def isExpired (announcement : CapacityAnnouncement) (now : ℤ) : Bool :=
  let elapsed := if announcement.createdAt ≤ now then (now - announcement.createdAt).toNat
    else Duration.max.nanoseconds
  announcement.ttl.nanoseconds < elapsed

/-- The creation time in whole seconds since the epoch, `chrono`'s `timestamp`. -/
def timestamp (announcement : CapacityAnnouncement) : ℤ :=
  announcement.createdAt / nanosPerSec

/-- The bytes of a GPU in the signed message. -/
def gpuBytes (gpu : GpuInfo) : List UInt8 :=
  utf8Bytes gpu.model ++ leBytes 4 gpu.vramGb.toNat ++ leBytes 4 gpu.count.toNat

/-- The bytes of the prices in the signed message. -/
def pricingBytes (pricing : Pricing) : List UInt8 :=
  leBytes 8 pricing.gpuHourCents.toNat ++ leBytes 8 pricing.cpuHourCents.toNat

/-- `CapacityAnnouncement::signing_message`. The timestamp is an `i64` in two's complement. -/
def signingMessage (announcement : CapacityAnnouncement) : List UInt8 :=
  announcement.peerId.bytes ++ leBytes 8 announcement.ttl.asSecs ++
    leBytes 8 (announcement.timestamp % 2 ^ 64).toNat ++ announcement.gpus.flatMap gpuBytes ++
    pricingBytes announcement.pricing ++ announcement.jobTypes.flatMap utf8Bytes

/-- `CapacityAnnouncement::sign`. -/
def sign (scheme : SignatureScheme) (announcement : CapacityAnnouncement) (key : SigningKey) :
    CapacityAnnouncement :=
  { announcement with signature := some (scheme.sign key announcement.signingMessage) }

/-- `CapacityAnnouncement::verify`. Its error is a `P2pError::Protocol`, given by its text. -/
def verify (scheme : SignatureScheme) (announcement : CapacityAnnouncement)
    (key : VerifyingKey) : Except String Unit :=
  match announcement.signature with
  | none => .error "Missing signature"
  | some signature =>
    match scheme.verifyStrict key announcement.signingMessage signature with
    | .ok () => .ok ()
    | .error reason => .error ("Invalid signature: " ++ reason)

/-! ### Announcements with the same signed bytes -/

/-- Everything an announcement says, without its signature. -/
def contents (announcement : CapacityAnnouncement) :
    PeerId × List GpuInfo × Pricing × List String × Duration × ℤ :=
  (announcement.peerId, announcement.gpus, announcement.pricing, announcement.jobTypes,
    announcement.ttl, announcement.createdAt)

/-- The other announcement says something else and is signed as the same bytes, so that a signature
made for the one verifies for the other exactly when it verifies for the one. -/
structure SharesSignature (announcement other : CapacityAnnouncement) : Prop where
  contents : other.contents ≠ announcement.contents
  message : other.signingMessage = announcement.signingMessage
  verify : ∀ (scheme : SignatureScheme) (signer : SigningKey) (verifier : VerifyingKey),
    verify scheme { other with signature := (announcement.sign scheme signer).signature } verifier =
      verify scheme (announcement.sign scheme signer) verifier

/-- An announcement that says something else in the same signed bytes shares the signature. -/
theorem SharesSignature.of_message {announcement other : CapacityAnnouncement}
    (hcontents : other.contents ≠ announcement.contents)
    (hmessage : other.signingMessage = announcement.signingMessage) :
    announcement.SharesSignature other := by
  refine ⟨hcontents, hmessage, fun scheme signer verifier ↦ ?_⟩
  have hmoved : signingMessage { other with
      signature := (announcement.sign scheme signer).signature } =
        (announcement.sign scheme signer).signingMessage := hmessage
  simp only [CapacityAnnouncement.verify, hmoved]

/-- Another moment within the same second. -/
def momentNeighbour (moment : ℤ) : ℤ :=
  if moment % nanosPerSec = 0 then moment + 1 else moment - 1

/-- The neighbour of a moment differs from it and has the same whole seconds. -/
theorem momentNeighbour_spec (moment : ℤ) :
    momentNeighbour moment ≠ moment ∧
      momentNeighbour moment / (nanosPerSec : ℤ) = moment / (nanosPerSec : ℤ) := by
  unfold momentNeighbour nanosPerSec
  push_cast
  split_ifs with hwhole
  · constructor
    · omega
    · omega
  · constructor
    · omega
    · omega

/-- The part of the signed message behind the peer and the two times. -/
def listedBytes (announcement : CapacityAnnouncement) : List UInt8 :=
  announcement.gpus.flatMap gpuBytes ++ pricingBytes announcement.pricing ++
    announcement.jobTypes.flatMap utf8Bytes

/-- What the signed bytes can tell apart: the peers, the whole seconds of the lifetimes, the whole
seconds of the creation times as 64-bit words, and the lists and prices run together. -/
def Distinguished (first second : CapacityAnnouncement) : Prop :=
  first.peerId ≠ second.peerId ∨ first.ttl.asSecs ≠ second.ttl.asSecs ∨
    first.timestamp % 2 ^ 64 ≠ second.timestamp % 2 ^ 64 ∨ first.listedBytes ≠ second.listedBytes

/-- The whole seconds of a duration fit in 64 bits. -/
theorem asSecs_lt (duration : Duration) : duration.asSecs < 256 ^ 8 := by
  have hlt := duration.nanoseconds_lt
  unfold Duration.asSecs nanosPerSec at *
  omega

/-- The signed message is the peer, the two times and the lists. -/
theorem signingMessage_eq (announcement : CapacityAnnouncement) :
    announcement.signingMessage = announcement.peerId.bytes ++ (leBytes 8 announcement.ttl.asSecs ++
      (leBytes 8 (announcement.timestamp % 2 ^ 64).toNat ++ announcement.listedBytes)) := by
  simp only [signingMessage, listedBytes, List.append_assoc]

/-- Equal signed bytes have the same peer, the same words for the two times and the same lists run
together. -/
theorem parts_of_signingMessage {first second : CapacityAnnouncement}
    (hmessage : first.signingMessage = second.signingMessage) :
    first.peerId = second.peerId ∧ first.ttl.asSecs = second.ttl.asSecs ∧
      (first.timestamp % 2 ^ 64).toNat = (second.timestamp % 2 ^ 64).toNat ∧
        first.listedBytes = second.listedBytes := by
  rw [signingMessage_eq, signingMessage_eq] at hmessage
  obtain ⟨hpeer, hmessage⟩ := List.append_inj hmessage
    (by rw [first.peerId.length_bytes, second.peerId.length_bytes])
  obtain ⟨httl, hmessage⟩ := leBytes_append_inj (asSecs_lt _) (asSecs_lt _) hmessage
  obtain ⟨hstamp, hlisted⟩ := leBytes_append_inj (by omega) (by omega) hmessage
  exact ⟨PeerId.ext hpeer, httl, hstamp, hlisted⟩

/-- The signed bytes of two announcements differ exactly when one of their parts does. -/
theorem signingMessage_ne_iff (first second : CapacityAnnouncement) :
    first.signingMessage ≠ second.signingMessage ↔ first.Distinguished second := by
  constructor
  · intro hmessage
    by_contra hsame
    simp only [Distinguished, not_or, not_not] at hsame
    obtain ⟨hpeer, httl, hstamp, hlisted⟩ := hsame
    apply hmessage
    rw [signingMessage_eq, signingMessage_eq, hpeer, httl, hstamp, hlisted]
  · intro hdistinguished hmessage
    obtain ⟨hpeer, httl, hstamp, hlisted⟩ := parts_of_signingMessage hmessage
    rcases hdistinguished with hne | hne | hne | hne
    · exact hne hpeer
    · exact hne httl
    · exact hne (by omega)
    · exact hne hlisted

/-- No announcement is the only one signed as its bytes. For every announcement there is one with
other job types, one with another time to live and one with another creation time, all else equal,
to which its signature can be moved. -/
theorem signature_transfers (announcement : CapacityAnnouncement) :
    (∃ jobTypes, announcement.SharesSignature { announcement with jobTypes := jobTypes }) ∧
      (∃ ttl, announcement.SharesSignature { announcement with ttl := ttl }) ∧
      (∃ createdAt, announcement.SharesSignature { announcement with createdAt := createdAt }) := by
  refine ⟨⟨announcement.jobTypes ++ [""], .of_message ?_ ?_⟩,
    ⟨Duration.neighbour announcement.ttl, .of_message ?_ ?_⟩,
    ⟨momentNeighbour announcement.createdAt, .of_message ?_ ?_⟩⟩
  · simp [contents]
  · have hempty : utf8Bytes "" = [] := rfl
    simp [signingMessage, timestamp, hempty]
  · simp [contents, (Duration.neighbour_spec announcement.ttl).1]
  · simp only [signingMessage, timestamp, (Duration.neighbour_spec announcement.ttl).2]
  · simp [contents, (momentNeighbour_spec announcement.createdAt).1]
  · simp only [signingMessage, timestamp, (momentNeighbour_spec announcement.createdAt).2]

/-- What a signature binds. Two announcements that say different things are signed as different
bytes exactly when the peer, the whole seconds of a time or the lists run together differ. No
announcement is told apart from all others in this way: it shares its signature with one that has
other job types, with one that lives for another time and with one created at another moment. -/
theorem binding_iff_distinguished (first : CapacityAnnouncement) :
    (∀ second : CapacityAnnouncement,
      (first.contents ≠ second.contents → first.signingMessage ≠ second.signingMessage) ↔
        (first.contents = second.contents ∨ first.Distinguished second)) ∧
      (∃ jobTypes, first.SharesSignature { first with jobTypes := jobTypes }) ∧
      (∃ ttl, first.SharesSignature { first with ttl := ttl }) ∧
      (∃ createdAt, first.SharesSignature { first with createdAt := createdAt }) := by
  refine ⟨fun second ↦ ?_, signature_transfers first⟩
  rw [signingMessage_ne_iff, ← or_iff_not_imp_left]

/-- Two announcements of one GPU whose job types are the same letters grouped differently. -/
def regrouped (jobTypes : List String) : CapacityAnnouncement :=
  new 0 (PeerId.ofByte 1) [⟨"RTX 4090", 24, 2⟩] ⟨100, 10⟩ jobTypes ⟨300 * 10 ^ 9, by decide⟩

/-- Regrouped job types are signed as the same bytes. -/
theorem regrouped_jobTypes_share_signature :
    ¬ ∀ first second : CapacityAnnouncement,
      first.contents ≠ second.contents → first.signingMessage ≠ second.signingMessage := by
  intro hinjective
  exact hinjective (regrouped ["ab", "c"]) (regrouped ["a", "bc"]) (by decide) (by decide)

/-! ### Announcements of one layout -/

/-- The two announcements have as many GPUs and job types, with names of the same lengths, and the
same fractions of a second, and their timestamps are in the range of `i64`. -/
structure SameLayout (first second : CapacityAnnouncement) : Prop where
  gpus : first.gpus.map (fun gpu ↦ (utf8Bytes gpu.model).length) =
    second.gpus.map (fun gpu ↦ (utf8Bytes gpu.model).length)
  jobTypes : first.jobTypes.map (fun text ↦ (utf8Bytes text).length) =
    second.jobTypes.map (fun text ↦ (utf8Bytes text).length)
  ttl : first.ttl.nanoseconds % nanosPerSec = second.ttl.nanoseconds % nanosPerSec
  createdAt : first.createdAt % nanosPerSec = second.createdAt % nanosPerSec
  firstRange : -2 ^ 63 ≤ first.timestamp ∧ first.timestamp < 2 ^ 63
  secondRange : -2 ^ 63 ≤ second.timestamp ∧ second.timestamp < 2 ^ 63

/-- A GPU is determined by its bytes among those with names of the same length. -/
theorem gpuBytes_inj {first second : GpuInfo} (hbytes : gpuBytes first = gpuBytes second) :
    first = second := by
  have hlength := congrArg List.length hbytes
  simp only [gpuBytes, List.length_append, length_leBytes] at hlength
  unfold gpuBytes at hbytes
  rw [List.append_assoc, List.append_assoc] at hbytes
  obtain ⟨hmodel, hnumbers⟩ := List.append_inj hbytes (by omega)
  obtain ⟨hvram, hcount⟩ := leBytes_append_inj first.vramGb.toNat_lt second.vramGb.toNat_lt hnumbers
  have hcounts := leBytes_inj first.count.toNat_lt second.count.toNat_lt hcount
  obtain ⟨firstModel, firstVram, firstCount⟩ := first
  obtain ⟨secondModel, secondVram, secondCount⟩ := second
  simp only [GpuInfo.mk.injEq]
  exact ⟨utf8Bytes_inj hmodel, UInt32.toNat_inj.mp hvram, UInt32.toNat_inj.mp hcounts⟩

/-- A creation time is determined by its timestamp in the range of `i64` and the fraction of a
second. -/
theorem moment_eq_of_timestamp {first second : CapacityAnnouncement}
    (hfirst : -2 ^ 63 ≤ first.timestamp ∧ first.timestamp < 2 ^ 63)
    (hsecond : -2 ^ 63 ≤ second.timestamp ∧ second.timestamp < 2 ^ 63)
    (hstamp : (first.timestamp % 2 ^ 64).toNat = (second.timestamp % 2 ^ 64).toNat)
    (hfraction : first.createdAt % nanosPerSec = second.createdAt % nanosPerSec) :
    first.createdAt = second.createdAt := by
  have htimestamps : first.timestamp = second.timestamp := by
    omega
  unfold timestamp nanosPerSec at *
  push_cast at *
  omega

/-- Among announcements of one layout, the signed bytes determine the contents. -/
theorem contents_eq_of_sameLayout {first second : CapacityAnnouncement}
    (hlayout : first.SameLayout second) (hmessage : first.signingMessage = second.signingMessage) :
    first.contents = second.contents := by
  have hgpuLengths : first.gpus.map (fun gpu ↦ (gpuBytes gpu).length) =
      second.gpus.map (fun gpu ↦ (gpuBytes gpu).length) := by
    have hlengths := congrArg (List.map (· + 8)) hlayout.gpus
    simpa [gpuBytes, List.map_map, Function.comp_def, Nat.add_assoc] using hlengths
  obtain ⟨hpeer, httl, hstamp, hmessage⟩ := parts_of_signingMessage hmessage
  unfold listedBytes at hmessage
  simp only [List.append_assoc] at hmessage
  obtain ⟨hgpus, hmessage⟩ :=
    flatMap_append_inj gpuBytes (fun _ _ ↦ gpuBytes_inj) hgpuLengths hmessage
  unfold pricingBytes at hmessage
  simp only [List.append_assoc] at hmessage
  obtain ⟨hgpuPrice, hmessage⟩ := leBytes_append_inj first.pricing.gpuHourCents.toNat_lt
    second.pricing.gpuHourCents.toNat_lt hmessage
  obtain ⟨hcpuPrice, hmessage⟩ := leBytes_append_inj first.pricing.cpuHourCents.toNat_lt
    second.pricing.cpuHourCents.toNat_lt hmessage
  have hjobs : first.jobTypes.flatMap utf8Bytes ++ [] =
      second.jobTypes.flatMap utf8Bytes ++ [] := by
    simpa using hmessage
  obtain ⟨hjobTypes, -⟩ :=
    flatMap_append_inj utf8Bytes (fun _ _ ↦ utf8Bytes_inj) hlayout.jobTypes hjobs
  have hpricing : first.pricing = second.pricing :=
    Pricing.ext (UInt64.toNat_inj.mp hgpuPrice) (UInt64.toNat_inj.mp hcpuPrice)
  have hlives : first.ttl = second.ttl := Duration.eq_of_asSecs httl hlayout.ttl
  have hmoment : first.createdAt = second.createdAt :=
    moment_eq_of_timestamp hlayout.firstRange hlayout.secondRange hstamp hlayout.createdAt
  simp only [contents, hpeer, hgpus, hpricing, hjobTypes, hlives, hmoment]

end CapacityAnnouncement

end Clawbernetes.MoltP2p
