import Clawbernetes.Library.HashChain
import Clawbernetes.Library.Runs
import Clawbernetes.MoltAttestation.Hardware
import Mathlib.Data.List.Chain

/-!
# The chain of attestation verifications

`AttestationChain` of `hardware.rs`: the verifications of one node, each entry with the hash of the
entry before it, and two limits on how often a verification may be added.

Every chain that was built by adding verifications passes `verify_integrity`. An altered chain of
the same length with the same latest hash is rejected exactly when it differs in something that the
hash of an entry covers (`altered_chain_rejected_iff`). The GPUs of an attestation and the time of
its expiry are not covered: they can be altered in every chain that has an entry.

The limits remember the last entry and the last failure only. `rate_limited` is what this gives over
every run at advancing times: consecutive entries are the minimal interval apart, and every entry
comes the cooldown after every earlier failure.
-/

set_option autoImplicit false
set_option relaxedAutoImplicit false

namespace Clawbernetes.MoltAttestation

open Library.Bytes Library.HashChain
open MoltP2p (Signature)

/-- `AttestationEntry`. -/
structure AttestationEntry where
  attestation : HardwareAttestation
  previousHash : Option Digest
  verifiedAt : DateTime
  verificationPassed : Bool
  deriving DecidableEq

namespace AttestationEntry

/-- The bytes that `compute_hash` hashes. -/
def input (entry : AttestationEntry) : List UInt8 :=
  utf8Bytes "attestation_entry_v1" ++ entry.attestation.nodeId.bytes ++
    leBytesInt 8 entry.attestation.timestamp.timestamp ++ entry.attestation.signature.bytes ++
    (entry.previousHash.elim [] Digest.bytes) ++ leBytesInt 8 entry.verifiedAt.timestamp ++
    [if entry.verificationPassed then 1 else 0]

/-- `AttestationEntry::compute_hash`. -/
def computeHash (blake3 : Blake3) (entry : AttestationEntry) : Digest := blake3 entry.input

end AttestationEntry

/-- `RateLimitConfig`. -/
structure RateLimitConfig where
  minVerificationIntervalSecs : UInt64
  failedVerificationCooldownSecs : UInt64
  deriving DecidableEq

/-- `AttestationChain`. -/
structure AttestationChain where
  nodeId : Uuid
  entries : List AttestationEntry
  rateLimitConfig : RateLimitConfig
  lastFailedVerification : Option DateTime
  deriving DecidableEq

namespace AttestationChain

/-- `AttestationChain::with_rate_limit`. -/
def withRateLimit (nodeId : Uuid) (config : RateLimitConfig) : AttestationChain where
  nodeId := nodeId
  entries := []
  rateLimitConfig := config
  lastFailedVerification := none

/-- `AttestationChain::latest_hash`. -/
def latestHash (blake3 : Blake3) (chain : AttestationChain) : Option Digest :=
  chain.entries.getLast?.map (AttestationEntry.computeHash blake3)

/-- `AttestationChain::last_verification_time`. -/
def lastVerificationTime (chain : AttestationChain) : Option DateTime :=
  chain.entries.getLast?.map AttestationEntry.verifiedAt

/-- The seconds that are left of a limit at a time, when it is not over since the last event. The
limit is converted to `i64`, cut off at its maximum, and then to a duration. The outer `none` is a
panic of a duration out of range. -/
def remainingSecs (limitSecs : UInt64) (now : DateTime) : Option DateTime → Option (Option ℕ)
  | none => some none
  | some last => do
    let elapsed := now.signedDurationSince last
    let limit ← TimeDelta.seconds (min (limitSecs.toNat : ℤ) (2 ^ 63 - 1))
    if elapsed.nanoseconds < limit.nanoseconds then
      let remaining ← limit.checkedSub elapsed
      return some (max remaining.numSeconds 0).toNat
    else return none

/-- `AttestationChain::check_rate_limit` at a time. The cooldown comes first. -/
def checkRateLimit (now : DateTime) (chain : AttestationChain) :
    Option (Except AttestationError Unit) := do
  match ← remainingSecs chain.rateLimitConfig.failedVerificationCooldownSecs now
      chain.lastFailedVerification with
  | some remaining => return .error (.cooldownActive remaining)
  | none =>
    match ← remainingSecs chain.rateLimitConfig.minVerificationIntervalSecs now
        chain.lastVerificationTime with
    | some remaining => return .error (.rateLimitExceeded remaining)
    | none => return .ok ()

/-- The chain with an entry for a verification. A failed one starts the cooldown. -/
def record (blake3 : Blake3) (verifiedAt : DateTime) (chain : AttestationChain)
    (attestation : HardwareAttestation) (verificationPassed : Bool) : AttestationChain :=
  { chain with
    entries := chain.entries ++
      [⟨attestation, chain.latestHash blake3, verifiedAt, verificationPassed⟩]
    lastFailedVerification :=
      if verificationPassed then chain.lastFailedVerification else some verifiedAt }

/-- `AttestationChain::add_attestation_unchecked` at a time. -/
def addAttestationUnchecked (blake3 : Blake3) (verifiedAt : DateTime) (chain : AttestationChain)
    (attestation : HardwareAttestation) (verificationPassed : Bool) :
    Except AttestationError Unit × AttestationChain :=
  if attestation.nodeId ≠ chain.nodeId then
    (.error (.hardwareVerification ("attestation node_id " ++ attestation.nodeId.display ++
      " does not match chain node_id " ++ chain.nodeId.display)), chain)
  else (.ok (), chain.record blake3 verifiedAt attestation verificationPassed)

/-- `AttestationChain::add_attestation`: the limits are checked at one reading of the clock, and the
entry is made at a second one. -/
def addAttestation (blake3 : Blake3) (now verifiedAt : DateTime) (chain : AttestationChain)
    (attestation : HardwareAttestation) (verificationPassed : Bool) :
    Option (Except AttestationError Unit × AttestationChain) := do
  match ← chain.checkRateLimit now with
  | .error error => return (.error error, chain)
  | .ok () => return chain.addAttestationUnchecked blake3 verifiedAt attestation verificationPassed

/-- The checks of `verify_integrity` on the entry at an index, behind the entry before it. -/
def checkEntry (blake3 : Blake3) (nodeId : Uuid) (index : ℕ) (previous : Option AttestationEntry)
    (entry : AttestationEntry) : Except AttestationError Unit :=
  if entry.attestation.nodeId ≠ nodeId then
    .error (.hardwareVerification ("entry " ++ toString index ++ " has wrong node_id"))
  else match previous, entry.previousHash with
    | none, none => .ok ()
    | none, some _ => .error (.hardwareVerification "genesis entry should have no previous hash")
    | some before, some hash =>
      if hash = before.computeHash blake3 then .ok ()
      else .error (.hardwareVerification
        ("entry " ++ toString index ++ " has incorrect previous hash"))
    | some _, none => .error (.hardwareVerification
        ("entry " ++ toString index ++ " missing previous hash"))

/-- The loop of `verify_integrity`, from an index on. -/
def checkEntries (blake3 : Blake3) (nodeId : Uuid) :
    ℕ → Option AttestationEntry → List AttestationEntry → Except AttestationError Unit
  | _, _, [] => .ok ()
  | index, previous, entry :: rest => do
    checkEntry blake3 nodeId index previous entry
    checkEntries blake3 nodeId (index + 1) (some entry) rest

/-- `AttestationChain::verify_integrity`. -/
def verifyIntegrity (blake3 : Blake3) (chain : AttestationChain) : Except AttestationError Unit :=
  checkEntries blake3 chain.nodeId 0 none chain.entries

/-! ### Integrity -/

variable {blake3 : Blake3} {chain : AttestationChain}

/-- What the integrity check looks at: all entries are of the node and linked by their hashes. -/
def Intact (blake3 : Blake3) (chain : AttestationChain) : Prop :=
  (∀ entry ∈ chain.entries, entry.attestation.nodeId = chain.nodeId) ∧
    Linked (AttestationEntry.computeHash blake3) AttestationEntry.previousHash none chain.entries

/-- An entry passes its checks exactly when it is of the node and names the hash of the entry
before. -/
theorem checkEntry_eq_ok_iff {nodeId : Uuid} {index : ℕ} {previous : Option AttestationEntry}
    {entry : AttestationEntry} :
    checkEntry blake3 nodeId index previous entry = .ok () ↔
      entry.attestation.nodeId = nodeId ∧
        entry.previousHash = previous.map (AttestationEntry.computeHash blake3) := by
  unfold checkEntry
  split_ifs with hnode
  · exact iff_of_false (fun herror ↦ by cases herror) fun hboth ↦ hnode hboth.1
  · rw [and_iff_right (not_not.mp hnode)]
    cases previous with
    | none => cases entry.previousHash <;> simp
    | some before =>
      cases entry.previousHash with
      | none => simp
      | some hash => simp

/-- The loop succeeds exactly for entries of the node that are linked behind the entry before. -/
theorem checkEntries_eq_ok_iff {nodeId : Uuid} {index : ℕ} {previous : Option AttestationEntry}
    {entries : List AttestationEntry} :
    checkEntries blake3 nodeId index previous entries = .ok () ↔
      (∀ entry ∈ entries, entry.attestation.nodeId = nodeId) ∧
        Linked (AttestationEntry.computeHash blake3) AttestationEntry.previousHash
          (previous.map (AttestationEntry.computeHash blake3)) entries := by
  induction entries generalizing index previous with
  | nil => exact iff_of_true rfl ⟨fun entry hentry ↦ (List.not_mem_nil hentry).elim, trivial⟩
  | cons entry rest ih =>
    have hstep : checkEntries blake3 nodeId index previous (entry :: rest) = .ok () ↔
        checkEntry blake3 nodeId index previous entry = .ok () ∧
          checkEntries blake3 nodeId (index + 1) (some entry) rest = .ok () := by
      rw [checkEntries]
      cases checkEntry blake3 nodeId index previous entry with
      | error error =>
        exact iff_of_false (fun herror ↦ by cases herror) fun hboth ↦ by cases hboth.1
      | ok value => exact ⟨fun hrest ↦ ⟨rfl, hrest⟩, fun hboth ↦ hboth.2⟩
    rw [hstep, checkEntry_eq_ok_iff, ih, List.forall_mem_cons, Linked]
    exact and_and_and_comm

/-- `verify_integrity` accepts exactly the intact chains. -/
theorem verifyIntegrity_eq_ok_iff : chain.verifyIntegrity blake3 = .ok () ↔ chain.Intact blake3 :=
  checkEntries_eq_ok_iff

/-- An entry of the node keeps a chain intact. -/
theorem Intact.record (hintact : chain.Intact blake3) (verifiedAt : DateTime)
    {attestation : HardwareAttestation} (hnode : attestation.nodeId = chain.nodeId)
    (verificationPassed : Bool) :
    (chain.record blake3 verifiedAt attestation verificationPassed).Intact blake3 := by
  refine ⟨fun entry hentry ↦ ?_, linked_concat_iff.mpr ⟨hintact.2, ?_⟩⟩
  · rcases List.mem_append.mp hentry with hold | hnew
    · exact hintact.1 entry hold
    · rw [List.mem_singleton.mp hnew]
      exact hnode
  · unfold headDigest
    rw [Option.or_none]
    rfl

/-- Adding a verification keeps a chain intact. -/
theorem Intact.addAttestationUnchecked (hintact : chain.Intact blake3) (verifiedAt : DateTime)
    (attestation : HardwareAttestation) (verificationPassed : Bool) :
    (chain.addAttestationUnchecked blake3 verifiedAt attestation verificationPassed).2.Intact
      blake3 := by
  unfold AttestationChain.addAttestationUnchecked
  split_ifs with hnode
  · exact hintact
  · exact hintact.record verifiedAt (not_not.mp hnode) verificationPassed

/-! ### Runs -/

/-- A call that adds a verification, with the readings of the clock. -/
inductive Call where
  | addAttestation (now verifiedAt : DateTime) (attestation : HardwareAttestation)
      (verificationPassed : Bool)
  | addAttestationUnchecked (verifiedAt : DateTime) (attestation : HardwareAttestation)
      (verificationPassed : Bool)

/-- The chain after a call. A panic comes before any change. -/
def call (blake3 : Blake3) (chain : AttestationChain) : Call → AttestationChain
  | .addAttestation now verifiedAt attestation verificationPassed =>
    ((chain.addAttestation blake3 now verifiedAt attestation verificationPassed).map
      Prod.snd).getD chain
  | .addAttestationUnchecked verifiedAt attestation verificationPassed =>
    (chain.addAttestationUnchecked blake3 verifiedAt attestation verificationPassed).2

/-- Every call keeps a chain intact. -/
theorem Intact.call (hintact : chain.Intact blake3) (request : Call) :
    (chain.call blake3 request).Intact blake3 := by
  cases request with
  | addAttestationUnchecked verifiedAt attestation verificationPassed =>
    exact hintact.addAttestationUnchecked verifiedAt attestation verificationPassed
  | addAttestation now verifiedAt attestation verificationPassed =>
    rw [AttestationChain.call, AttestationChain.addAttestation]
    cases chain.checkRateLimit now with
    | none => exact hintact
    | some checked =>
      cases checked with
      | error error => exact hintact
      | ok value => exact hintact.addAttestationUnchecked verifiedAt attestation verificationPassed

/-- Every chain that calls build is intact. -/
theorem intact_of_calls (blake3 : Blake3) (nodeId : Uuid) (config : RateLimitConfig)
    (calls : List Call) :
    (calls.foldl (call blake3) (withRateLimit nodeId config)).Intact blake3 := by
  have hnew : (withRateLimit nodeId config).Intact blake3 :=
    ⟨fun entry hentry ↦ (List.not_mem_nil hentry).elim, trivial⟩
  exact (Library.Runs.always_of_step hnew (fun chain request hintact ↦ hintact.call request)
    calls).last

/-! ### Alterations -/

end AttestationChain

/-- What the hash of an entry covers, the times to the second. -/
structure CoveredParts where
  nodeId : Uuid
  timestamp : ℤ
  signature : Signature
  previousHash : Option Digest
  verifiedAt : ℤ
  verificationPassed : Bool
  deriving DecidableEq

/-- All that an entry says, the times to the second. -/
structure EntryContents where
  covered : CoveredParts
  gpus : List GpuInfo
  expiresAt : ℤ
  deriving DecidableEq

namespace AttestationEntry

/-- The parts of an entry that its hash covers. -/
def covered (entry : AttestationEntry) : CoveredParts where
  nodeId := entry.attestation.nodeId
  timestamp := entry.attestation.timestamp.timestamp
  signature := entry.attestation.signature
  previousHash := entry.previousHash
  verifiedAt := entry.verifiedAt.timestamp
  verificationPassed := entry.verificationPassed

/-- The contents of an entry. -/
def contents (entry : AttestationEntry) : EntryContents where
  covered := entry.covered
  gpus := entry.attestation.gpus
  expiresAt := entry.attestation.expiresAt.timestamp

/-- The bytes of a link determine it: there are 32 of them or none. -/
theorem link_of_bytes {first second : Option Digest}
    (hbytes : first.elim [] Digest.bytes = second.elim [] Digest.bytes) : first = second := by
  have hnonempty (digest : Digest) : digest.bytes ≠ [] :=
    List.ne_nil_of_length_pos (by rw [digest.length_bytes]; decide)
  cases first with
  | none =>
    cases second with
    | none => rfl
    | some digest => exact absurd hbytes.symm (hnonempty digest)
  | some digest =>
    cases second with
    | none => exact absurd hbytes (hnonempty digest)
    | some other => exact congrArg some (Digest.ext hbytes)

/-- The byte of a verdict determines it. -/
theorem verdict_of_byte {first second : Bool}
    (hbyte : (if first then 1 else 0 : UInt8) = if second then 1 else 0) : first = second := by
  cases first <;> cases second <;> first | rfl | cases hbyte

/-- The hashed bytes of an entry determine what the hash covers. What follows the link has a fixed
length, so the link is told apart from it. -/
theorem covered_of_input {first second : AttestationEntry} (hinput : first.input = second.input) :
    first.covered = second.covered := by
  unfold input at hinput
  simp only [List.append_assoc] at hinput
  obtain ⟨hnode, hinput⟩ := List.append_inj (List.append_cancel_left hinput)
    (by rw [first.attestation.nodeId.length_bytes, second.attestation.nodeId.length_bytes])
  obtain ⟨hstamp, hinput⟩ := leBytesInt_append_inj first.attestation.timestamp.timestamp_range
    second.attestation.timestamp.timestamp_range hinput
  obtain ⟨hsignature, hinput⟩ := List.append_inj hinput
    (by rw [first.attestation.signature.length_bytes, second.attestation.signature.length_bytes])
  obtain ⟨hlink, hinput⟩ := List.append_inj' hinput (by simp)
  obtain ⟨hverified, hinput⟩ := leBytesInt_append_inj first.verifiedAt.timestamp_range
    second.verifiedAt.timestamp_range hinput
  unfold covered
  rw [Uuid.ext hnode, hstamp, Signature.ext hsignature, link_of_bytes hlink, hverified,
    verdict_of_byte (List.singleton_inj.mp hinput)]

/-- The link of an entry is covered. -/
theorem previousHash_of_covered {first second : AttestationEntry}
    (hcovered : first.covered = second.covered) : first.previousHash = second.previousHash :=
  congrArg CoveredParts.previousHash hcovered

/-- The hash covers the covered parts only. -/
theorem input_of_covered {first second : AttestationEntry}
    (hcovered : first.covered = second.covered) : first.input = second.input := by
  simp only [covered, CoveredParts.mk.injEq] at hcovered
  obtain ⟨hnode, hstamp, hsignature, hlink, hverified, hpassed⟩ := hcovered
  unfold input
  rw [hnode, hstamp, hsignature, hlink, hverified, hpassed]

end AttestationEntry

namespace AttestationChain

/-- What the hashes of a chain and the check of its node cover. -/
def covered (chain : AttestationChain) : Uuid × List CoveredParts :=
  (chain.nodeId, chain.entries.map AttestationEntry.covered)

/-- All that the entries of a chain say. -/
def contents (chain : AttestationChain) : List EntryContents :=
  chain.entries.map AttestationEntry.contents

variable {blake3 : Blake3} {first second : AttestationChain}

/-- There is no collision between entries at the same place of two chains. -/
def Separated (blake3 : Blake3) (first second : AttestationChain) : Prop :=
  ∀ pair ∈ first.entries.zip second.entries, blake3.Separates pair.1.input pair.2.input

/-- Two intact chains of one length with the same latest hash agree in all that the hashes cover. -/
theorem map_covered_eq_of_intact (hseparated : Separated blake3 first second)
    (hlength : first.entries.length = second.entries.length)
    (hlatest : first.latestHash blake3 = second.latestHash blake3)
    (hfirst : first.Intact blake3) (hsecond : second.Intact blake3) :
    first.entries.map AttestationEntry.covered = second.entries.map AttestationEntry.covered := by
  refine map_view_eq_of_linked hlength hfirst.2 hsecond.2 hlatest fun pair hpair hdigest ↦ ?_
  have hcovered := AttestationEntry.covered_of_input (hseparated pair hpair hdigest)
  exact ⟨hcovered, AttestationEntry.previousHash_of_covered hcovered⟩

/-- Two intact chains with entries that agree in what the hashes cover are of one node. -/
theorem nodeId_eq_of_intact (hfirst : first.Intact blake3) (hsecond : second.Intact blake3)
    (hentries : first.entries.map AttestationEntry.covered =
      second.entries.map AttestationEntry.covered) (hnonempty : first.entries ≠ []) :
    first.nodeId = second.nodeId := by
  obtain ⟨entry, hentry⟩ := List.exists_mem_of_ne_nil _ hnonempty
  have hmem : entry.covered ∈ second.entries.map AttestationEntry.covered := by
    rw [← hentries]
    exact List.mem_map_of_mem hentry
  obtain ⟨other, hother, hsame⟩ := List.mem_map.mp hmem
  rw [← hfirst.1 entry hentry, ← hsecond.1 other hother]
  exact (congrArg CoveredParts.nodeId hsame).symm

/-- A chain that agrees with an intact chain in what the hashes cover is intact and has the same
latest hash. -/
theorem Intact.of_covered_eq (hfirst : first.Intact blake3)
    (hcovered : second.covered = first.covered) :
    second.Intact blake3 ∧ second.latestHash blake3 = first.latestHash blake3 := by
  obtain ⟨hnode, hentries⟩ := Prod.ext_iff.mp hcovered
  have hnodes := map_eq_of_map_view_eq (fun _ _ ↦ congrArg CoveredParts.nodeId) hentries
  have hdigests : second.entries.map (AttestationEntry.computeHash blake3) =
      first.entries.map (AttestationEntry.computeHash blake3) :=
    map_eq_of_map_view_eq
      (fun _ _ hsame ↦ congrArg blake3 (AttestationEntry.input_of_covered hsame)) hentries
  have hlinks := map_eq_of_map_view_eq
    (fun _ _ ↦ AttestationEntry.previousHash_of_covered) hentries
  refine ⟨⟨fun entry hentry ↦ ?_, linked_of_map_eq hdigests.symm hlinks.symm hfirst.2⟩, ?_⟩
  · have hmem : entry.attestation.nodeId ∈ first.entries.map fun entry ↦ entry.covered.nodeId := by
      rw [← hnodes]
      exact List.mem_map_of_mem hentry
    obtain ⟨other, hother, hsame⟩ := List.mem_map.mp hmem
    rw [← hsame]
    exact (hfirst.1 other hother).trans hnode.symm
  · unfold latestHash
    rw [← List.getLast?_map, ← List.getLast?_map, hdigests]

/-- The chain with other GPUs in every attestation. -/
def withOtherGpus (chain : AttestationChain) : AttestationChain :=
  { chain with entries := chain.entries.map fun entry ↦ { entry with
      attestation := { entry.attestation with
        gpus := ⟨.unknown, "", 0, ""⟩ :: entry.attestation.gpus } } }

/-- Other GPUs do not touch what the hashes cover. -/
theorem covered_withOtherGpus (chain : AttestationChain) :
    chain.withOtherGpus.covered = chain.covered := by
  unfold covered withOtherGpus
  rw [List.map_map]
  rfl

/-- Other GPUs are other contents of a chain with an entry. -/
theorem contents_withOtherGpus_ne {chain : AttestationChain} (hentries : chain.entries ≠ []) :
    chain.withOtherGpus.contents ≠ chain.contents := by
  unfold contents withOtherGpus
  cases hlist : chain.entries with
  | nil => exact absurd hlist hentries
  | cons entry rest =>
    rw [List.map_cons, List.map_cons, List.map_cons, Ne, List.cons.injEq]
    intro hsame
    exact List.cons_ne_self _ _ (congrArg EntryContents.gpus hsame.1)

/-- Every chain that was built passes the integrity check. A chain of the same length and with the
same latest hash as an intact one, but with other contents, is rejected exactly when it differs in
something that the hashes cover, for a hash without a collision between the entries of the two. In
every intact chain with an entry the GPUs can be altered without being rejected. -/
theorem altered_chain_rejected_iff (blake3 : Blake3) (first second : AttestationChain)
    (hseparated : Separated blake3 second first) (hintact : first.verifyIntegrity blake3 = .ok ())
    (hlength : second.entries.length = first.entries.length)
    (hlatest : second.latestHash blake3 = first.latestHash blake3)
    (haltered : second.contents ≠ first.contents) :
    (second.verifyIntegrity blake3 ≠ .ok () ↔ second.covered ≠ first.covered) ∧
      (∀ nodeId config calls,
        (List.foldl (call blake3) (withRateLimit nodeId config) calls).verifyIntegrity blake3 =
          .ok ()) ∧
      ∀ chain : AttestationChain, chain.verifyIntegrity blake3 = .ok () → chain.entries ≠ [] →
        ∃ other : AttestationChain, other.contents ≠ chain.contents ∧
          other.entries.length = chain.entries.length ∧
          other.latestHash blake3 = chain.latestHash blake3 ∧
          other.verifyIntegrity blake3 = .ok () := by
  refine ⟨not_congr ?_, ?_, ?_⟩
  · rw [verifyIntegrity_eq_ok_iff] at hintact ⊢
    constructor
    · intro hsecond
      have hentries := map_covered_eq_of_intact hseparated hlength hlatest hsecond hintact
      have hnonempty : second.entries ≠ [] := by
        intro hempty
        rw [hempty, List.length_nil] at hlength
        unfold contents at haltered
        rw [hempty, List.eq_nil_of_length_eq_zero hlength.symm] at haltered
        exact haltered rfl
      exact Prod.ext (nodeId_eq_of_intact hsecond hintact hentries hnonempty) hentries
    · exact fun hcovered ↦ (hintact.of_covered_eq hcovered).1
  · exact fun nodeId config calls ↦
      verifyIntegrity_eq_ok_iff.mpr (intact_of_calls blake3 nodeId config calls)
  · intro chain hchain hentries
    obtain ⟨hother, hhash⟩ := (verifyIntegrity_eq_ok_iff.mp hchain).of_covered_eq
      (covered_withOtherGpus chain)
    exact ⟨chain.withOtherGpus, contents_withOtherGpus_ne hentries, List.length_map _, hhash,
      verifyIntegrity_eq_ok_iff.mpr hother⟩

/-- A chain with one verification of a card. -/
def cardChain (model : String) : AttestationChain where
  nodeId := Uuid.ofByte 1
  entries := [⟨HardwareAttestation.oneCard model 24576 "8.9", none,
    ⟨1700000001 * nanosPerSecond, by decide, by decide⟩, true⟩]
  rateLimitConfig := ⟨3600, 7200⟩
  lastFailedVerification := none

/-- A chain with another model in its attestation is accepted. -/
theorem altered_model_accepted :
    Separated (.ofTable []) (cardChain "H100") (cardChain "RTX 4090") ∧
      (cardChain "H100").contents ≠ (cardChain "RTX 4090").contents ∧
      (cardChain "H100").verifyIntegrity (.ofTable []) = .ok () := by
  have hseparated : Separated (.ofTable []) (cardChain "H100") (cardChain "RTX 4090") := by
    intro pair hpair _
    rw [List.mem_singleton.mp hpair]
    rfl
  have haltered : (cardChain "H100").contents ≠ (cardChain "RTX 4090").contents := by decide
  have hiff := (altered_chain_rejected_iff _ (cardChain "RTX 4090") (cardChain "H100") hseparated
    rfl rfl rfl haltered).1
  exact ⟨hseparated, haltered, not_not.mp (hiff.not.mpr fun hcovered ↦ hcovered rfl)⟩

/-- The GPUs of an entry can be exchanged: under every hash both chains are intact, of one length
and have the same latest hash. -/
theorem altered_model_undetected :
    (cardChain "H100").contents ≠ (cardChain "RTX 4090").contents ∧
      (cardChain "H100").entries.length = (cardChain "RTX 4090").entries.length ∧
      ∀ blake3 : Blake3, (cardChain "RTX 4090").verifyIntegrity blake3 = .ok () ∧
        (cardChain "H100").latestHash blake3 = (cardChain "RTX 4090").latestHash blake3 ∧
        (cardChain "H100").verifyIntegrity blake3 = .ok () :=
  ⟨by decide, rfl, fun _ ↦ ⟨rfl, rfl, rfl⟩⟩

end AttestationChain

/-! ### The limits -/

/-- Both limits are at most `10 ^ 9` seconds. -/
def RateLimitConfig.Moderate (config : RateLimitConfig) : Prop :=
  config.minVerificationIntervalSecs.toNat ≤ 10 ^ 9 ∧
    config.failedVerificationCooldownSecs.toNat ≤ 10 ^ 9

namespace AttestationChain

variable {chain : AttestationChain}

/-- The last event, if there is one, is the limit ago. -/
def Waited (limitSecs : UInt64) (now : DateTime) (last : Option DateTime) : Prop :=
  ∀ time ∈ last, time.nanoseconds + limitSecs.toNat * nanosPerSecond ≤ now.nanoseconds

/-- A duration of at most `10 ^ 9` seconds is in range. -/
theorem seconds_eq_some {limitSecs : UInt64} (hlimit : limitSecs.toNat ≤ 10 ^ 9) :
    ∃ limit : TimeDelta, TimeDelta.seconds (min (limitSecs.toNat : ℤ) (2 ^ 63 - 1)) = some limit ∧
      limit.nanoseconds = limitSecs.toNat * nanosPerSecond := by
  have hmin : min (limitSecs.toNat : ℤ) (2 ^ 63 - 1) = limitSecs.toNat := by omega
  have hrange : -(2 ^ 63 - 1) * nanosPerMilli ≤ limitSecs.toNat * nanosPerSecond ∧
      limitSecs.toNat * nanosPerSecond ≤ (2 ^ 63 - 1) * nanosPerMilli := by
    unfold nanosPerMilli nanosPerSecond
    omega
  rw [hmin, TimeDelta.seconds, TimeDelta.ofNanoseconds, dif_pos hrange]
  exact ⟨_, rfl, rfl⟩

/-- The time since an event can be subtracted from such a duration. -/
theorem checkedSub_eq_some {limitSecs : UInt64} (hlimit : limitSecs.toNat ≤ 10 ^ 9)
    {limit : TimeDelta} (hnanoseconds : limit.nanoseconds = limitSecs.toNat * nanosPerSecond)
    (now last : DateTime) : ∃ remaining, limit.checkedSub (now.signedDurationSince last) =
      some remaining := by
  have hnow := now.min_le
  have hnowMax := now.lt_max
  have hlast := last.min_le
  have hlastMax := last.lt_max
  have hrange : -(2 ^ 63 - 1) * nanosPerMilli ≤
        limit.nanoseconds - (now.signedDurationSince last).nanoseconds ∧
      limit.nanoseconds - (now.signedDurationSince last).nanoseconds ≤
        (2 ^ 63 - 1) * nanosPerMilli := by
    rw [hnanoseconds]
    change _ ≤ _ - (now.nanoseconds - last.nanoseconds) ∧
      _ - (now.nanoseconds - last.nanoseconds) ≤ _
    unfold nanosPerMilli
    unfold nanosPerSecond at *
    omega
  rw [TimeDelta.checkedSub, TimeDelta.ofNanoseconds, dif_pos hrange]
  exact ⟨_, rfl⟩

/-- A limit of at most `10 ^ 9` seconds leaves no time exactly when it was waited for. -/
theorem remainingSecs_spec {limitSecs : UInt64} (hlimit : limitSecs.toNat ≤ 10 ^ 9)
    (now : DateTime) (last : Option DateTime) :
    ∃ remaining, remainingSecs limitSecs now last = some remaining ∧
      (remaining = none ↔ Waited limitSecs now last) := by
  cases last with
  | none => exact ⟨none, rfl, iff_of_true rfl fun time htime ↦ by cases htime⟩
  | some last =>
    obtain ⟨limit, hseconds, hnanoseconds⟩ := seconds_eq_some hlimit
    obtain ⟨remaining, hsub⟩ := checkedSub_eq_some hlimit hnanoseconds now last
    have hwaited : Waited limitSecs now (some last) ↔
        ¬(now.signedDurationSince last).nanoseconds < limit.nanoseconds := by
      rw [hnanoseconds]
      simp only [Waited, Option.mem_def, Option.some.injEq, forall_eq']
      change _ ↔ ¬now.nanoseconds - last.nanoseconds < _
      omega
    rw [hwaited, remainingSecs, hseconds]
    by_cases hopen : (now.signedDurationSince last).nanoseconds < limit.nanoseconds
    · refine ⟨some (max remaining.numSeconds 0).toNat, ?_, iff_of_false (fun hnone ↦ by cases hnone)
        (not_not.mpr hopen)⟩
      change (if _ then _ else _) = _
      rw [if_pos hopen, hsub]
      rfl
    · refine ⟨none, ?_, iff_of_true rfl hopen⟩
      change (if _ then _ else _) = _
      rw [if_neg hopen]
      rfl

/-- Under a moderate configuration the check returns, and it succeeds exactly when the cooldown was
waited for since the last failure and the interval since the last entry. -/
theorem checkRateLimit_spec (hmoderate : chain.rateLimitConfig.Moderate) (now : DateTime) :
    ∃ result, chain.checkRateLimit now = some result ∧ (result = .ok () ↔
      Waited chain.rateLimitConfig.failedVerificationCooldownSecs now
          chain.lastFailedVerification ∧
        Waited chain.rateLimitConfig.minVerificationIntervalSecs now
          chain.lastVerificationTime) := by
  obtain ⟨cooldown, hcooldown, hcooled⟩ :=
    remainingSecs_spec hmoderate.2 now chain.lastFailedVerification
  obtain ⟨interval, hinterval, hpaced⟩ :=
    remainingSecs_spec hmoderate.1 now chain.lastVerificationTime
  rw [← hcooled, ← hpaced, checkRateLimit, hcooldown, hinterval]
  cases cooldown with
  | some remaining => exact ⟨_, rfl, iff_of_false (fun hok ↦ by cases hok) fun hnone ↦ by
      cases hnone.1⟩
  | none =>
    cases interval with
    | some remaining => exact ⟨_, rfl, iff_of_false (fun hok ↦ by cases hok) fun hnone ↦ by
        cases hnone.2⟩
    | none => exact ⟨_, rfl, iff_of_true rfl ⟨rfl, rfl⟩⟩

/-- A call of `add_attestation`: its two readings of the clock and its arguments. -/
structure Attempt where
  now : DateTime
  verifiedAt : DateTime
  attestation : HardwareAttestation
  verificationPassed : Bool

/-- The readings of the clock of a call, in their order. -/
def Attempt.readings (attempt : Attempt) : List DateTime := [attempt.now, attempt.verifiedAt]

/-- The call on a chain. -/
def attempt (blake3 : Blake3) (chain : AttestationChain) (attempt : Attempt) :
    Option (Except AttestationError Unit × AttestationChain) :=
  chain.addAttestation blake3 attempt.now attempt.verifiedAt attempt.attestation
    attempt.verificationPassed

/-- The chain after some calls, where none of them panics. -/
def run (blake3 : Blake3) (chain : AttestationChain) (attempts : List Attempt) :
    Option AttestationChain :=
  attempts.foldlM (fun chain request ↦ (chain.attempt blake3 request).map Prod.snd) chain

/-- A call under a moderate configuration either leaves the chain as it is, or it succeeds, when
both limits were waited for, and records the verification. -/
theorem attempt_cases (hmoderate : chain.rateLimitConfig.Moderate) (blake3 : Blake3)
    (request : Attempt) :
    (∃ error, chain.attempt blake3 request = some (.error error, chain)) ∨
      Waited chain.rateLimitConfig.failedVerificationCooldownSecs request.now
          chain.lastFailedVerification ∧
        Waited chain.rateLimitConfig.minVerificationIntervalSecs request.now
          chain.lastVerificationTime ∧
        chain.attempt blake3 request = some (.ok (), chain.record blake3 request.verifiedAt
          request.attestation request.verificationPassed) := by
  obtain ⟨result, hchecked, hresult⟩ := checkRateLimit_spec hmoderate request.now
  unfold attempt addAttestation
  rw [hchecked]
  cases result with
  | error error => exact .inl ⟨error, rfl⟩
  | ok value =>
    obtain ⟨hcooled, hpaced⟩ := hresult.mp rfl
    by_cases hnode : request.attestation.nodeId = chain.nodeId
    · refine .inr ⟨hcooled, hpaced, ?_⟩
      change some (chain.addAttestationUnchecked _ _ _ _) = _
      rw [addAttestationUnchecked, if_neg (not_not.mpr hnode)]
    · refine .inl ?_
      change ∃ error, some (chain.addAttestationUnchecked _ _ _ _) = some (.error error, chain)
      rw [addAttestationUnchecked, if_pos hnode]
      exact ⟨_, rfl⟩

/-- The later of two entries comes a limit after the earlier one. -/
def Apart (limitSecs : UInt64) (earlier later : AttestationEntry) : Prop :=
  earlier.verifiedAt.nanoseconds + limitSecs.toNat * nanosPerSecond ≤ later.verifiedAt.nanoseconds

/-- The invariant of a chain, with the readings of the clock so far. The last failure stands for all
failures, since none of them is later. -/
structure Paced (config : RateLimitConfig) (readings : List DateTime) (chain : AttestationChain) :
    Prop where
  config_eq : chain.rateLimitConfig = config
  interval : chain.entries.IsChain (Apart config.minVerificationIntervalSecs)
  cooldown : chain.entries.Pairwise fun earlier later ↦ earlier.verificationPassed = false →
    Apart config.failedVerificationCooldownSecs earlier later
  failed : ∀ entry ∈ chain.entries, entry.verificationPassed = false →
    ∃ last ∈ chain.lastFailedVerification, entry.verifiedAt.nanoseconds ≤ last.nanoseconds
  recorded : ∀ entry ∈ chain.entries, entry.verifiedAt ∈ readings

/-- Later readings keep the invariant. -/
theorem Paced.mono {config : RateLimitConfig} {readings later : List DateTime}
    (hpaced : chain.Paced config readings) (hsubset : readings ⊆ later) :
    chain.Paced config later :=
  { hpaced with recorded := fun entry hentry ↦ hsubset (hpaced.recorded entry hentry) }

/-- A verification that waited for both limits keeps the invariant when the clock did not go
back. -/
theorem Paced.record {config : RateLimitConfig} {readings : List DateTime}
    (hpaced : chain.Paced config readings) (blake3 : Blake3) {request : Attempt}
    (hpast : ∀ reading ∈ readings, reading.nanoseconds ≤ request.verifiedAt.nanoseconds)
    (hclock : request.now.nanoseconds ≤ request.verifiedAt.nanoseconds)
    (hcooled : Waited config.failedVerificationCooldownSecs request.now
      chain.lastFailedVerification)
    (hwaited : Waited config.minVerificationIntervalSecs request.now chain.lastVerificationTime) :
    (chain.record blake3 request.verifiedAt request.attestation request.verificationPassed).Paced
      config (readings ++ request.readings) where
  config_eq := hpaced.config_eq
  interval := by
    refine List.isChain_append.mpr ⟨hpaced.interval, List.isChain_singleton _, ?_⟩
    intro last hlast entry hentry
    obtain rfl := Option.some_inj.mp hentry
    have hgap := hwaited last.verifiedAt (by rw [lastVerificationTime, hlast]; rfl)
    exact hgap.trans hclock
  cooldown := by
    refine List.pairwise_append.mpr ⟨hpaced.cooldown, List.pairwise_singleton _ _, ?_⟩
    intro earlier hearlier entry hentry hfailed
    obtain rfl := List.mem_singleton.mp hentry
    obtain ⟨last, hlast, hbefore⟩ := hpaced.failed earlier hearlier hfailed
    have hgap := hcooled last hlast
    unfold Apart
    change _ ≤ request.verifiedAt.nanoseconds
    omega
  failed := by
    intro entry hentry hfailed
    rcases List.mem_append.mp hentry with hold | hnew
    · cases hpassed : request.verificationPassed with
      | true => exact hpaced.failed entry hold hfailed
      | false => exact ⟨request.verifiedAt, rfl, hpast _ (hpaced.recorded entry hold)⟩
    · obtain rfl := List.mem_singleton.mp hnew
      refine ⟨request.verifiedAt, ?_, le_refl _⟩
      change (if _ then _ else _) = _
      rw [if_neg (Bool.not_eq_true _ ▸ hfailed)]
  recorded := by
    intro entry hentry
    rcases List.mem_append.mp hentry with hold | hnew
    · exact List.mem_append_left _ (hpaced.recorded entry hold)
    · obtain rfl := List.mem_singleton.mp hnew
      exact List.mem_append_right _ (List.mem_cons_of_mem _ List.mem_cons_self)

/-- Calls at advancing times keep the invariant, and none of them panics. -/
theorem paced_run {config : RateLimitConfig} (hmoderate : config.Moderate) (blake3 : Blake3)
    (nodeId : Uuid) (attempts : List Attempt)
    (hclock : (attempts.flatMap Attempt.readings).Pairwise fun earlier later ↦
      earlier.nanoseconds ≤ later.nanoseconds) :
    ∃ chain : AttestationChain, run blake3 (withRateLimit nodeId config) attempts = some chain ∧
      chain.Paced config (attempts.flatMap Attempt.readings) := by
  induction attempts using List.reverseRecOn with
  | nil =>
    refine ⟨withRateLimit nodeId config, rfl, rfl, List.isChain_nil, List.Pairwise.nil, ?_, ?_⟩
    · exact fun entry hentry ↦ (List.not_mem_nil hentry).elim
    · exact fun entry hentry ↦ (List.not_mem_nil hentry).elim
  | append_singleton attempts request ih =>
    rw [List.flatMap_append, List.flatMap_singleton] at hclock ⊢
    obtain ⟨hbefore, hreadings, hpast⟩ := List.pairwise_append.mp hclock
    obtain ⟨chain, hrun, hpaced⟩ := ih hbefore
    have hconfig : chain.rateLimitConfig.Moderate := by
      rw [hpaced.config_eq]
      exact hmoderate
    have hstep : run blake3 (withRateLimit nodeId config) (attempts ++ [request]) =
        (chain.attempt blake3 request).map Prod.snd := by
      unfold run at hrun ⊢
      rw [List.foldlM_append, hrun]
      exact Option.bind_fun_some _
    rw [hstep]
    rcases attempt_cases hconfig blake3 request with ⟨error, hfails⟩ | ⟨hcooled, hwaited, hadds⟩
    · rw [hfails]
      exact ⟨chain, rfl, hpaced.mono (List.subset_append_left _ _)⟩
    · rw [hadds]
      rw [hpaced.config_eq] at hcooled hwaited
      refine ⟨_, rfl, hpaced.record blake3 (fun reading hreading ↦ ?_) ?_ hcooled hwaited⟩
      · exact hpast reading hreading _ (List.mem_cons_of_mem _ List.mem_cons_self)
      · exact (List.pairwise_cons.mp hreadings).1 _ List.mem_cons_self

/-- Over every sequence of calls at advancing times, under a configuration with values of at most
`10 ^ 9` seconds: no call panics, consecutive entries are the minimal interval apart, every entry
comes the cooldown after every earlier failed one, and a call that returns an error leaves the chain
as it was. -/
theorem rate_limited (blake3 : Blake3) (nodeId : Uuid) (config : RateLimitConfig)
    (hmoderate : config.Moderate) (attempts : List Attempt)
    (hclock : (attempts.flatMap Attempt.readings).Pairwise fun earlier later ↦
      earlier.nanoseconds ≤ later.nanoseconds) :
    ∃ chain : AttestationChain, run blake3 (withRateLimit nodeId config) attempts = some chain ∧
      chain.entries.IsChain (Apart config.minVerificationIntervalSecs) ∧
      (chain.entries.Pairwise fun earlier later ↦ earlier.verificationPassed = false →
        Apart config.failedVerificationCooldownSecs earlier later) ∧
      ∀ request, ∃ result after, chain.attempt blake3 request = some (result, after) ∧
        ∀ error, result = .error error → after = chain := by
  obtain ⟨chain, hrun, hpaced⟩ := paced_run hmoderate blake3 nodeId attempts hclock
  refine ⟨chain, hrun, hpaced.interval, hpaced.cooldown, fun request ↦ ?_⟩
  have hconfig : chain.rateLimitConfig.Moderate := by
    rw [hpaced.config_eq]
    exact hmoderate
  rcases attempt_cases hconfig blake3 request with ⟨error, hfails⟩ | ⟨-, -, hadds⟩
  · exact ⟨_, _, hfails, fun _ _ ↦ rfl⟩
  · exact ⟨_, _, hadds, fun error herror ↦ by cases herror⟩

/-- The time of some seconds since the epoch. -/
def timeAt (seconds : ℕ) (hseconds : seconds < 2 ^ 32) : DateTime :=
  ⟨seconds * nanosPerSecond, by unfold nanosPerSecond; omega, by unfold nanosPerSecond; omega⟩

/-- The seconds of the examples. -/
theorem exampleSeconds_lt : 1700000000 < 2 ^ 32 := by decide

/-- A failed verification at one time, and two more ones half an hour and two hours later. -/
def threeAttempts : List Attempt :=
  let card := HardwareAttestation.oneCard "H100" 81920 "9.0"
  let first := timeAt 1700000000 exampleSeconds_lt
  let second := timeAt 1700001800 (by decide)
  let third := timeAt 1700007200 (by decide)
  [⟨first, first, card, false⟩, ⟨second, second, card, true⟩, ⟨third, third, card, true⟩]

/-- Of the three verifications the second one comes too early. -/
theorem three_attempts_limited :
    ∃ chain : AttestationChain,
      run (.ofTable []) (withRateLimit (Uuid.ofByte 1) ⟨3600, 7200⟩) threeAttempts = some chain ∧
        chain.entries.length = 2 ∧ chain.entries.IsChain (Apart 3600) := by
  obtain ⟨chain, hrun, hinterval, -, -⟩ := rate_limited (.ofTable []) (Uuid.ofByte 1) ⟨3600, 7200⟩
    (by unfold RateLimitConfig.Moderate; decide) threeAttempts (by decide)
  have hcount : (run (.ofTable []) (withRateLimit (Uuid.ofByte 1) ⟨3600, 7200⟩) threeAttempts).map
      (fun chain ↦ chain.entries.length) = some 2 := by rfl
  rw [hrun] at hcount
  exact ⟨chain, hrun, Option.some_inj.mp hcount, hinterval⟩

end AttestationChain

end Clawbernetes.MoltAttestation
