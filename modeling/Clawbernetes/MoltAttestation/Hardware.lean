import Clawbernetes.MoltAttestation.Signing

/-!
# Hardware attestations and what their signatures bind

`hardware.rs`: a node attests its GPUs until a time of expiry, and signs a BLAKE3 digest of the
attestation. The digest is taken of the node, the GPUs and the two times in whole seconds. A GPU is
hashed as its vendor, its model, eight bytes of memory size and its compute capability, with no
length before a text and no count before the list.

The node and the two times are read back from the hashed bytes, but the GPUs are not: bytes move
between a model and the memory size behind it, and between the memory size and the capability behind
that. `hardware_binding_iff` says for every pair of attestations when a signature binds the
contents, and that every attestation of a GPU with an ordinary model name shares its signature with
an attestation of a different GPU.
-/

set_option autoImplicit false
set_option relaxedAutoImplicit false

namespace Clawbernetes.MoltAttestation

open Library.Bytes
open MoltP2p (Signature SignatureScheme SigningKey VerifyingKey)

/-- `GpuVendor`. -/
inductive GpuVendor where
  | nvidia
  | amd
  | intel
  | apple
  | unknown
  deriving DecidableEq

/-- `GpuVendor::as_str`. -/
def GpuVendor.asStr : GpuVendor → String
  | .nvidia => "nvidia"
  | .amd => "amd"
  | .intel => "intel"
  | .apple => "apple"
  | .unknown => "unknown"

/-- `GpuInfo` of an attestation. -/
@[ext] structure GpuInfo where
  vendor : GpuVendor
  model : String
  vramMb : UInt64
  computeCapability : String
  deriving DecidableEq

/-- `HardwareAttestation`. -/
structure HardwareAttestation where
  nodeId : Uuid
  gpus : List GpuInfo
  timestamp : DateTime
  expiresAt : DateTime
  signature : Signature
  deriving DecidableEq

namespace HardwareAttestation

/-- The bytes of a GPU that are hashed. -/
def gpuBytes (gpu : GpuInfo) : List UInt8 :=
  utf8Bytes gpu.vendor.asStr ++ utf8Bytes gpu.model ++ leBytes 8 gpu.vramMb.toNat ++
    utf8Bytes gpu.computeCapability

/-- The bytes that are hashed for signing. -/
def signingInput (nodeId : Uuid) (gpus : List GpuInfo) (timestamp expiresAt : DateTime) :
    List UInt8 :=
  utf8Bytes "hardware_attestation_v1" ++ nodeId.bytes ++ gpus.flatMap gpuBytes ++
    leBytesInt 8 timestamp.timestamp ++ leBytesInt 8 expiresAt.timestamp

/-- `HardwareAttestation::create_signing_message`. -/
def createSigningMessage (blake3 : Blake3) (nodeId : Uuid) (gpus : List GpuInfo)
    (timestamp expiresAt : DateTime) : List UInt8 :=
  (blake3 (signingInput nodeId gpus timestamp expiresAt)).bytes

/-- `HardwareAttestation::create_and_sign`, with the clock reading as an argument. There is no
attestation where the time of expiry would be out of range. -/
def createAndSign (blake3 : Blake3) (scheme : SignatureScheme) (now : DateTime) (nodeId : Uuid)
    (gpus : List GpuInfo) (validityDuration : TimeDelta) (signingKey : SigningKey) :
    Option HardwareAttestation :=
  (now.checkedAdd validityDuration).map fun expiresAt ↦
    { nodeId := nodeId
      gpus := gpus
      timestamp := now
      expiresAt := expiresAt
      signature := scheme.sign signingKey (createSigningMessage blake3 nodeId gpus now expiresAt) }

/-- The bytes that are hashed for the signature of an attestation. -/
def input (attestation : HardwareAttestation) : List UInt8 :=
  signingInput attestation.nodeId attestation.gpus attestation.timestamp attestation.expiresAt

/-- The message that the signature of an attestation is made for. -/
def message (blake3 : Blake3) (attestation : HardwareAttestation) : List UInt8 :=
  createSigningMessage blake3 attestation.nodeId attestation.gpus attestation.timestamp
    attestation.expiresAt

/-- `HardwareAttestation::verify_signature`. -/
def verifySignature (blake3 : Blake3) (scheme : SignatureScheme)
    (attestation : HardwareAttestation) (publicKey : VerifyingKey) :
    Except AttestationError Unit :=
  match scheme.verifyStrict publicKey (attestation.message blake3) attestation.signature with
  | .ok () => .ok ()
  | .error _ => .error .signatureVerification

/-- `HardwareAttestation::is_expired` at a clock reading. -/
def isExpired (attestation : HardwareAttestation) (now : DateTime) : Bool :=
  attestation.expiresAt.nanoseconds < now.nanoseconds

/-- `HardwareAttestation::verify`. -/
def verify (blake3 : Blake3) (scheme : SignatureScheme) (now : DateTime)
    (attestation : HardwareAttestation) (publicKey : VerifyingKey) :
    Except AttestationError Unit :=
  if attestation.isExpired now then .error .expired
  else attestation.verifySignature blake3 scheme publicKey

/-! ### What the hashed bytes determine -/

/-- Everything an attestation says, with its times to the second, without its signature. -/
def contents (attestation : HardwareAttestation) : Uuid × List GpuInfo × ℤ × ℤ :=
  (attestation.nodeId, attestation.gpus, attestation.timestamp.timestamp,
    attestation.expiresAt.timestamp)

/-- What the hashed bytes can tell apart: the nodes, the seconds of the two times, and the bytes of
the GPUs run together. -/
def Distinguished (first second : HardwareAttestation) : Prop :=
  first.nodeId ≠ second.nodeId ∨ first.timestamp.timestamp ≠ second.timestamp.timestamp ∨
    first.expiresAt.timestamp ≠ second.expiresAt.timestamp ∨
    first.gpus.flatMap gpuBytes ≠ second.gpus.flatMap gpuBytes

/-- Equal hashed bytes have the same node, the same GPUs run together and the same seconds. -/
theorem parts_of_input {first second : HardwareAttestation} (hinput : first.input = second.input) :
    first.nodeId = second.nodeId ∧
      first.gpus.flatMap gpuBytes = second.gpus.flatMap gpuBytes ∧
      first.timestamp.timestamp = second.timestamp.timestamp ∧
      first.expiresAt.timestamp = second.expiresAt.timestamp := by
  unfold input signingInput at hinput
  obtain ⟨hinput, hexpires⟩ := List.append_inj' hinput (by simp)
  obtain ⟨hinput, hstamp⟩ := List.append_inj' hinput (by simp)
  rw [List.append_assoc, List.append_assoc] at hinput
  obtain ⟨hnode, hgpus⟩ := List.append_inj (List.append_cancel_left hinput)
    (by rw [first.nodeId.length_bytes, second.nodeId.length_bytes])
  have hread : ∀ {one other : DateTime},
      leBytesInt 8 one.timestamp = leBytesInt 8 other.timestamp →
        one.timestamp = other.timestamp := by
    intro one other hbytes
    exact (leBytesInt_append_inj one.timestamp_range other.timestamp_range
      (congrArg (· ++ []) hbytes)).1
  exact ⟨Uuid.ext hnode, hgpus, hread hstamp, hread hexpires⟩

/-- The hashed bytes of two attestations differ exactly when one of their parts does. -/
theorem input_ne_iff (first second : HardwareAttestation) :
    first.input ≠ second.input ↔ first.Distinguished second := by
  constructor
  · intro hinput
    by_contra hsame
    simp only [Distinguished, not_or, not_not] at hsame
    obtain ⟨hnode, hstamp, hexpires, hgpus⟩ := hsame
    apply hinput
    rw [input, input, signingInput, signingInput, hnode, hgpus, hstamp, hexpires]
  · intro hdistinguished hinput
    obtain ⟨hnode, hgpus, hstamp, hexpires⟩ := parts_of_input hinput
    rcases hdistinguished with hne | hne | hne | hne
    · exact hne hnode
    · exact hne hstamp
    · exact hne hexpires
    · exact hne hgpus

/-! ### GPUs that are hashed as the same bytes -/

/-- A GPU with the last letter of the model moved into the memory size, and the highest byte of the
memory size moved into the compute capability. -/
def shifted (gpu : GpuInfo) (name : String) (letter : Char) : GpuInfo where
  vendor := gpu.vendor
  model := name
  vramMb := UInt64.ofNat (letter.toNat + 256 * gpu.vramMb.toNat)
  computeCapability :=
    String.singleton (Char.ofNat (gpu.vramMb.toNat / 256 ^ 7)) ++ gpu.computeCapability

/-- The shifted GPU is hashed as the same bytes, when the letter is in the ASCII range and the
memory size leaves its highest bit unused. -/
theorem gpuBytes_shifted {gpu : GpuInfo} {name : String} {letter : Char}
    (hmodel : gpu.model = name ++ String.singleton letter) (hascii : letter.toNat < 128)
    (hvram : gpu.vramMb.toNat < 2 ^ 63) : gpuBytes (shifted gpu name letter) = gpuBytes gpu := by
  have hmoved : leBytes 8 (shifted gpu name letter).vramMb.toNat =
      UInt8.ofNat letter.toNat :: leBytes 7 gpu.vramMb.toNat := by
    have hlow : (letter.toNat + 256 * gpu.vramMb.toNat) % 256 = letter.toNat := by omega
    have hrest : (letter.toNat + 256 * gpu.vramMb.toNat) / 256 = gpu.vramMb.toNat := by omega
    change leBytes 8 (UInt64.ofNat (letter.toNat + 256 * gpu.vramMb.toNat)).toNat = _
    rw [UInt64.toNat_ofNat', show 2 ^ 64 = 256 ^ 8 from rfl, leBytes_mod, leBytes, hlow, hrest]
  have hcapability : utf8Bytes (shifted gpu name letter).computeCapability =
      UInt8.ofNat (gpu.vramMb.toNat / 256 ^ 7) :: utf8Bytes gpu.computeCapability := by
    change utf8Bytes (String.singleton _ ++ gpu.computeCapability) = _
    rw [utf8Bytes_append, utf8Bytes_singleton_ofNat (by omega)]
    rfl
  have hlast : gpu.vramMb.toNat / 256 ^ 7 % 256 = gpu.vramMb.toNat / 256 ^ 7 := by omega
  unfold gpuBytes
  rw [hmoved, hcapability, hmodel, utf8Bytes_append, utf8Bytes_singleton hascii,
    leBytes_succ_last 7, hlast]
  simp [shifted]

/-- The shifted GPU has another model. -/
theorem shifted_ne {gpu : GpuInfo} {name : String} {letter : Char}
    (hmodel : gpu.model = name ++ String.singleton letter) (hascii : letter.toNat < 128) :
    shifted gpu name letter ≠ gpu := by
  intro hsame
  have hname : name = gpu.model := congrArg GpuInfo.model hsame
  have hlength := congrArg (fun text ↦ (utf8Bytes text).length) (hname.trans hmodel)
  rw [utf8Bytes_append, utf8Bytes_singleton hascii, List.length_append, List.length_singleton]
    at hlength
  omega

/-! ### What a signature binds -/

variable {blake3 : Blake3} {scheme : SignatureScheme} {first second : HardwareAttestation}

/-- The two attestations are signed as different messages, and no signature of the first verifies
on the second. -/
structure Bound (blake3 : Blake3) (scheme : SignatureScheme) (first second : HardwareAttestation) :
    Prop where
  message : first.message blake3 ≠ second.message blake3
  signature : ∀ signer verifier, verifySignature blake3 scheme
    { second with signature := scheme.sign signer (first.message blake3) } verifier ≠ .ok ()

/-- Without a collision the messages are the same exactly when the hashed bytes are. -/
theorem message_eq_iff (hhash : blake3.Separates first.input second.input) :
    first.message blake3 = second.message blake3 ↔ first.input = second.input := by
  constructor
  · exact fun hmessage ↦ hhash (Digest.ext hmessage)
  · exact fun hinput ↦ congrArg (fun bytes ↦ (blake3 bytes).bytes) hinput

/-- A signature that verifies has been accepted for the message. -/
theorem verifyStrict_of_verifySignature {attestation : HardwareAttestation} {key : VerifyingKey}
    (hverified : attestation.verifySignature blake3 scheme key = .ok ()) :
    scheme.verifyStrict key (attestation.message blake3) attestation.signature = .ok () := by
  unfold verifySignature at hverified
  split at hverified
  · assumption
  · cases hverified

/-- Attestations are bound exactly when their hashed bytes differ, without a collision and with
signatures that are accepted only for the message that was signed. -/
theorem bound_iff (hhash : blake3.Separates first.input second.input)
    (hscheme : AcceptsOnlySigned scheme (first.message blake3) (second.message blake3)) :
    Bound blake3 scheme first second ↔ first.Distinguished second := by
  rw [← input_ne_iff, Ne, ← message_eq_iff hhash]
  constructor
  · exact fun hbound ↦ hbound.message
  · intro hmessage
    refine ⟨hmessage, fun signer verifier hverified ↦ ?_⟩
    have haccepted := verifyStrict_of_verifySignature hverified
    exact hmessage (hscheme signer verifier haccepted).symm

/-- What a signature binds, for a hash without a collision on the two attestations and signatures
that are accepted only for the message that was signed. Two attestations that say different things
are signed as different messages, and no signature of the one verifies on the other, exactly when
the nodes, the seconds of a time or the bytes of the GPUs run together differ. An attestation of a
GPU whose model ends in an ASCII letter, with the highest bit of its memory size unused, is verified
like an attestation of another GPU with the same signature. -/
theorem hardware_binding_iff (blake3 : Blake3) (scheme : SignatureScheme)
    (first second : HardwareAttestation) (hhash : blake3.Separates first.input second.input)
    (hscheme : AcceptsOnlySigned scheme (first.message blake3) (second.message blake3)) :
    ((first.contents ≠ second.contents → Bound blake3 scheme first second) ↔
        (first.contents = second.contents ∨ first.Distinguished second)) ∧
      ∀ before gpu after name letter, first.gpus = before ++ gpu :: after →
        gpu.model = name ++ String.singleton letter → letter.toNat < 128 →
        gpu.vramMb.toNat < 2 ^ 63 →
        ∃ gpus, gpus ≠ first.gpus ∧ message blake3 { first with gpus := gpus } =
            first.message blake3 ∧
          ∀ verifier, verifySignature blake3 scheme { first with gpus := gpus } verifier =
            first.verifySignature blake3 scheme verifier := by
  constructor
  · rw [bound_iff hhash hscheme, ← or_iff_not_imp_left]
  · intro before gpu after name letter hgpus hmodel hascii hvram
    refine ⟨before ++ shifted gpu name letter :: after, ?_, ?_⟩
    · rw [hgpus, Ne, List.append_cancel_left_eq, List.cons.injEq]
      exact fun hsame ↦ shifted_ne hmodel hascii hsame.1
    · have hmessage : message blake3
          { first with gpus := before ++ shifted gpu name letter :: after } =
            first.message blake3 := by
        unfold message createSigningMessage signingInput
        rw [hgpus, List.flatMap_append, List.flatMap_append, List.flatMap_cons, List.flatMap_cons,
          gpuBytes_shifted hmodel hascii hvram]
      refine ⟨hmessage, fun verifier ↦ ?_⟩
      unfold verifySignature
      rw [hmessage]

/-- An attestation of one card for an hour, with a signature of no meaning. -/
def oneCard (model : String) (vramMb : UInt64) (computeCapability : String) :
    HardwareAttestation where
  nodeId := Uuid.ofByte 1
  gpus := [⟨.nvidia, model, vramMb, computeCapability⟩]
  timestamp := exampleTime
  expiresAt := ⟨1700003600 * nanosPerSecond, by decide, by decide⟩
  signature := ⟨List.replicate 64 0, length_zeros_64⟩

/-- The BLAKE3 digests of two attestations that differ in the memory size. -/
def cardDigests : List (List UInt8 × Digest) :=
  [((oneCard "RTX 4090" 24576 "8.9").input,
      .ofNat 0x6233c8130cd85a5a9bb7724e46f041f556e3bc69d945880616f56eb68dd19abc),
    ((oneCard "RTX 4090" 49152 "8.9").input,
      .ofNat 0x143d2f1f31c29326715e540bdada2aaf004106a08e67ae0d66139bec2ea11cff)]

/-- An Ed25519 signature of the first of the two. -/
def cardSignature : SignatureScheme :=
  onceSigned 0x2cd2461469ea1e42927bbebeae764795f9c52e137b50f5be0a529ce2636c4aea
    ((oneCard "RTX 4090" 24576 "8.9").message (.ofTable cardDigests))
    (0x1fc91f36a7421b8263ef921ab7b6fb1ff9133e77fff98127a88eedd2c5d7691 * 2 ^ 256 +
        0xf3cb5873f20f094ab0d1e8b7d7e5e5655880f2c6f7f1dc26ef1e7371b99b5ca0)

/-- A signature on one memory size does not verify on another. -/
theorem hardware_bound_on_memory :
    Bound (.ofTable cardDigests) cardSignature (oneCard "RTX 4090" 24576 "8.9")
      (oneCard "RTX 4090" 49152 "8.9") := by
  have hhash : (Blake3.ofTable cardDigests).Separates (oneCard "RTX 4090" 24576 "8.9").input
      (oneCard "RTX 4090" 49152 "8.9").input := by
    intro hdigest
    exact absurd hdigest (by decide)
  refine (hardware_binding_iff _ _ _ _ hhash
    (acceptsOnlySigned_onceSigned _ _ _ _)).1.mpr (Or.inr ?_) (by decide)
  exact Or.inr (Or.inr (Or.inr (by decide)))

/-- The last letter of a model moved into the memory size: two attestations of different GPUs are
signed as the same message under every hash, and every signature is verified alike on both. -/
theorem shifted_model_shares_signature :
    (oneCard "RTX 4090" 24576 "8.9").contents ≠ (oneCard "RTX 409" 6291504 "\x008.9").contents ∧
      ∀ (blake3 : Blake3) (scheme : SignatureScheme) (verifier : VerifyingKey),
        (oneCard "RTX 4090" 24576 "8.9").message blake3 =
            (oneCard "RTX 409" 6291504 "\x008.9").message blake3 ∧
          (oneCard "RTX 4090" 24576 "8.9").verifySignature blake3 scheme verifier =
            (oneCard "RTX 409" 6291504 "\x008.9").verifySignature blake3 scheme verifier := by
  have hinput : (oneCard "RTX 4090" 24576 "8.9").input =
      (oneCard "RTX 409" 6291504 "\x008.9").input := by decide
  refine ⟨by decide, fun blake3 scheme verifier ↦ ?_⟩
  have hmessage : (oneCard "RTX 4090" 24576 "8.9").message blake3 =
      (oneCard "RTX 409" 6291504 "\x008.9").message blake3 :=
    congrArg (fun bytes ↦ (blake3 bytes).bytes) hinput
  refine ⟨hmessage, ?_⟩
  unfold verifySignature
  rw [hmessage]
  rfl

end HardwareAttestation

end Clawbernetes.MoltAttestation
