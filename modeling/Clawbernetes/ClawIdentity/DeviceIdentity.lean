import Clawbernetes.Library.Fields
import Clawbernetes.Library.Runs
import Clawbernetes.Library.TextEncodings
import Clawbernetes.MoltP2p.Announcement

/-!
# Device identities

`claw-identity`. A device has an Ed25519 key, and its id is the digest of the public key. The key is
kept in a file: the first start creates it and later starts load it. Ed25519 and SHA-256 are a
`DeviceCrypto`.

What a device signs when it connects is one text, its fields with a bar between them. The text
determines the fields as long as those in front of the token do not have a bar; of the token and the
nonce it determines only what they are together (`authPayload_eq_iff`), and the list of scopes only
as a text.

A file is loaded exactly when the version, the key and the id fit together (`load_eq_ok_iff`); the
public key in the file is not read. Once a start has loaded or written the file, every later start
that can read it has the same identity, and one that cannot read it runs under a new identity that
is not kept (`identity_kept`).
-/

set_option autoImplicit false
set_option relaxedAutoImplicit false

namespace Clawbernetes.ClawIdentity

open Library.Bytes Library.Runs Library.TextEncodings
open MoltP2p (Signature SignatureScheme SigningKey VerifyingKey)

/-! ### Identities -/

/-- What the crate takes from others: Ed25519 with the public key of a secret key, SHA-256, and the
texts of the errors of base64. -/
structure DeviceCrypto where
  scheme : SignatureScheme
  verifyingKey : SigningKey → VerifyingKey
  sha256 : List UInt8 → List UInt8
  decodeError : String → String

/-- What a key signs verifies under its public key. -/
def DeviceCrypto.Verifies (crypto : DeviceCrypto) : Prop :=
  ∀ key message, crypto.scheme.verifyStrict (crypto.verifyingKey key) message
    (crypto.scheme.sign key message) = .ok ()

/-- No digit is a bar. -/
theorem bar_not_mem_hexEncode (bytes : List UInt8) : '|' ∉ (hexEncode bytes).toList := by
  have hdigits : ∀ digit < 16, '|' ≠ Nat.digitChar digit := by decide
  intro hmem
  obtain ⟨digit, hlt, hbar⟩ := mem_hexEncode hmem
  exact hdigits digit hlt hbar

/-- `DeviceIdentity`. The public key and the id belong to the secret key of 32 bytes. -/
structure DeviceIdentity (crypto : DeviceCrypto) where
  deviceId : String
  publicKeyRaw : List UInt8
  signingKey : SigningKey
  length_signingKey : signingKey.bytes.length = 32
  publicKeyRaw_eq : publicKeyRaw = (crypto.verifyingKey signingKey).bytes
  deviceId_eq : deviceId = hexEncode (crypto.sha256 publicKeyRaw)

variable {crypto : DeviceCrypto}

/-- An identity is determined by its secret key. -/
@[ext] theorem DeviceIdentity.ext {first second : DeviceIdentity crypto}
    (hkey : first.signingKey = second.signingKey) : first = second := by
  obtain ⟨id, raw, key, hlength, hraw, hid⟩ := first
  obtain ⟨otherId, otherRaw, other, hotherLength, hotherRaw, hotherId⟩ := second
  obtain rfl : key = other := hkey
  obtain rfl := hraw.trans hotherRaw.symm
  obtain rfl := hid.trans hotherId.symm
  rfl

namespace DeviceIdentity

/-- The identity of a secret key. -/
def ofKey (crypto : DeviceCrypto) (key : SigningKey) (hlength : key.bytes.length = 32) :
    DeviceIdentity crypto where
  deviceId := hexEncode (crypto.sha256 (crypto.verifyingKey key).bytes)
  publicKeyRaw := (crypto.verifyingKey key).bytes
  signingKey := key
  length_signingKey := hlength
  publicKeyRaw_eq := rfl
  deviceId_eq := rfl

/-- `DeviceIdentity::public_key_base64url`. -/
def publicKeyBase64url (identity : DeviceIdentity crypto) : String :=
  base64Encode identity.publicKeyRaw

/-- `DeviceIdentity::sign`. -/
def sign (identity : DeviceIdentity crypto) (payload : String) : String :=
  base64Encode (crypto.scheme.sign identity.signingKey (utf8Bytes payload)).bytes

end DeviceIdentity

/-! ### What is signed -/

/-- The arguments of `build_auth_payload`. -/
structure AuthRequest where
  clientId : String
  clientMode : String
  role : String
  scopes : List String
  signedAtMs : UInt64
  token : Option String
  nonce : Option String

namespace AuthRequest

/-- The version of the payload. -/
def version (request : AuthRequest) : String := if request.nonce.isSome then "v2" else "v1"

/-- The fields in front of the token. -/
def fields (request : AuthRequest) (deviceId : String) : List String :=
  [request.version, deviceId, request.clientId, request.clientMode, request.role,
    ",".intercalate request.scopes, toString request.signedAtMs.toNat]

/-- The token and the nonce as the payload has them. -/
def credential (request : AuthRequest) : String :=
  match request.nonce with
  | none => request.token.getD ""
  | some nonce => request.token.getD "" ++ "|" ++ nonce

/-- No field that comes from outside and stands in front of the token has a bar. -/
def Barless (request : AuthRequest) : Prop :=
  '|' ∉ request.clientId.toList ∧ '|' ∉ request.clientMode.toList ∧ '|' ∉ request.role.toList ∧
    '|' ∉ (",".intercalate request.scopes).toList

instance (request : AuthRequest) : Decidable request.Barless :=
  inferInstanceAs (Decidable (_ ∧ _))

end AuthRequest

namespace DeviceIdentity

/-- `DeviceIdentity::build_auth_payload`. -/
def buildAuthPayload (identity : DeviceIdentity crypto) (request : AuthRequest) : String :=
  let parts := [request.version, identity.deviceId, request.clientId, request.clientMode,
    request.role, ",".intercalate request.scopes, toString request.signedAtMs.toNat,
    request.token.getD ""]
  "|".intercalate (if request.version = "v2" then parts ++ [request.nonce.getD ""] else parts)

/-- `DeviceParams`. -/
structure DeviceParams where
  id : String
  publicKey : String
  signature : String
  signedAt : UInt64
  nonce : Option String
  deriving DecidableEq

/-- `DeviceIdentity::device_params`, with the reading of the clock in the request. -/
def deviceParams (identity : DeviceIdentity crypto) (request : AuthRequest) : DeviceParams where
  id := identity.deviceId
  publicKey := identity.publicKeyBase64url
  signature := identity.sign (identity.buildAuthPayload request)
  signedAt := request.signedAtMs
  nonce := request.nonce

/-- The payload is its fields and what stands for the token and the nonce. -/
theorem buildAuthPayload_eq (identity : DeviceIdentity crypto) (request : AuthRequest) :
    identity.buildAuthPayload request =
      joined '|' (request.fields identity.deviceId ++ [request.credential]) := by
  unfold buildAuthPayload AuthRequest.fields AuthRequest.credential AuthRequest.version
  cases request.nonce with
  | none => rfl
  | some nonce =>
    have hjoin := joined_concat '|' [(if (some nonce).isSome = true then "v2" else "v1"),
      identity.deviceId, request.clientId, request.clientMode, request.role,
      ",".intercalate request.scopes, toString request.signedAtMs.toNat]
      (request.token.getD "") nonce
    exact hjoin

/-- The fields in front of the token have no bar. -/
theorem bar_not_mem_fields (identity : DeviceIdentity crypto)
    {request : AuthRequest} (hbarless : request.Barless) :
    ∀ field ∈ request.fields identity.deviceId, '|' ∉ field.toList := by
  obtain ⟨hclient, hmode, hrole, hscopes⟩ := hbarless
  have hversion : '|' ∉ request.version.toList := by
    unfold AuthRequest.version
    split_ifs
    · decide
    · decide
  have hid : '|' ∉ identity.deviceId.toList := by
    rw [identity.deviceId_eq]
    exact bar_not_mem_hexEncode _
  have hsignedAt : '|' ∉ (toString request.signedAtMs.toNat).toList := by
    intro hmem
    exact absurd (isDigit_of_mem_decimal hmem) (by decide)
  simp only [AuthRequest.fields, List.forall_mem_cons]
  exact ⟨hversion, hid, hclient, hmode, hrole, hscopes, hsignedAt, List.forall_mem_nil _⟩

/-- Payloads are the same when their fields are, and what stands for the token and the nonce. -/
theorem buildAuthPayload_inj (identity other : DeviceIdentity crypto)
    {request asked : AuthRequest} (hrequest : request.Barless) (hasked : asked.Barless) :
    identity.buildAuthPayload request = other.buildAuthPayload asked ↔
      request.fields identity.deviceId = asked.fields other.deviceId ∧
        request.credential = asked.credential := by
  have hlength : (request.fields identity.deviceId).length =
      (asked.fields other.deviceId).length := rfl
  rw [buildAuthPayload_eq, buildAuthPayload_eq,
    joined_inj hlength (bar_not_mem_fields identity hrequest) (bar_not_mem_fields other hasked)]

/-- The versions tell whether there is a nonce. -/
theorem version_eq_iff (request asked : AuthRequest) :
    request.version = asked.version ↔ request.nonce.isSome = asked.nonce.isSome := by
  unfold AuthRequest.version
  cases request.nonce.isSome <;> cases asked.nonce.isSome <;> decide

/-- Two devices sign the same payload exactly when they agree in the version, the id, the client,
the mode, the role, the text of the scopes, the time, and the token and nonce taken together. -/
theorem authPayload_eq_iff (identity other : DeviceIdentity crypto)
    {request asked : AuthRequest} (hrequest : request.Barless) (hasked : asked.Barless) :
    identity.buildAuthPayload request = other.buildAuthPayload asked ↔
      (request.nonce.isSome = asked.nonce.isSome ∧ identity.deviceId = other.deviceId ∧
        request.clientId = asked.clientId ∧ request.clientMode = asked.clientMode ∧
        request.role = asked.role ∧
        ",".intercalate request.scopes = ",".intercalate asked.scopes ∧
        request.signedAtMs = asked.signedAtMs) ∧
      request.credential = asked.credential := by
  have hsignedAt : toString request.signedAtMs.toNat = toString asked.signedAtMs.toNat ↔
      request.signedAtMs = asked.signedAtMs := by
    constructor
    · exact fun htext ↦ UInt64.toNat_inj.mp (decimal_inj htext)
    · rintro hsame
      rw [hsame]
  rw [buildAuthPayload_inj identity other hrequest hasked]
  simp only [AuthRequest.fields, List.cons.injEq, and_true, version_eq_iff, hsignedAt]

/-- Ed25519 and SHA-256 as far as the key of thirty-two sevens shows them. -/
def sevensCrypto (scheme : SignatureScheme) : DeviceCrypto where
  scheme := scheme
  verifyingKey := fun _ ↦
    ⟨leBytes 32 0x2cd2461469ea1e42927bbebeae764795f9c52e137b50f5be0a529ce2636c4aea⟩
  sha256 := fun _ ↦ leBytes 32 0x89382652f57fef52e233fb43ef111bcb06f952c39ab65dace64cabf3122c81fe
  decodeError := fun _ ↦ "Invalid input length: 1"

/-- The identity of the key of thirty-two sevens. -/
def sevensIdentity (scheme : SignatureScheme) : DeviceIdentity (sevensCrypto scheme) :=
  ofKey _ ⟨List.replicate 32 7⟩ rfl

/-- What a node signs when it connects. -/
def nodeRequest (signedAtMs : UInt64) (token nonce : Option String) : AuthRequest :=
  ⟨"node-host", "node", "node", ["node"], signedAtMs, token, nonce⟩

/-- What a node asks for has no bar. -/
theorem barless_nodeRequest (signedAtMs : UInt64) (token nonce : Option String) :
    (nodeRequest signedAtMs token nonce).Barless := by
  have hbarless : '|' ∉ "node-host".toList ∧ '|' ∉ "node".toList ∧ '|' ∉ "node".toList ∧
      '|' ∉ (",".intercalate ["node"]).toList := by decide
  exact hbarless

/-- A bar moves from the nonce to the token without a trace in the payload. -/
theorem authPayload_eq_iff_moved_bar :
    (sevensIdentity .keyless).buildAuthPayload (nodeRequest 5 (some "t") (some "a|b")) =
        (sevensIdentity .keyless).buildAuthPayload (nodeRequest 5 (some "t|a") (some "b")) :=
  (authPayload_eq_iff _ _ (barless_nodeRequest 5 (some "t") (some "a|b"))
    (barless_nodeRequest 5 (some "t|a") (some "b"))).mpr
      ⟨⟨rfl, rfl, rfl, rfl, rfl, rfl, rfl⟩, by decide⟩

/-- What a device signs for one challenge it signs for no other, when its tokens have no bar. -/
theorem nonce_eq_of_authPayload_eq (identity other : DeviceIdentity crypto)
    {request asked : AuthRequest} (hrequest : request.Barless) (hasked : asked.Barless)
    (htoken : '|' ∉ (request.token.getD "").toList) (hother : '|' ∉ (asked.token.getD "").toList)
    (hsame : identity.buildAuthPayload request = other.buildAuthPayload asked) :
    request.nonce = asked.nonce := by
  obtain ⟨hfields, hcredential⟩ :=
    (buildAuthPayload_inj identity other hrequest hasked).mp hsame
  have hversion : request.nonce.isSome = asked.nonce.isSome :=
    (version_eq_iff request asked).mp (List.cons.inj hfields).1
  unfold AuthRequest.credential at hcredential
  cases hfirst : request.nonce with
  | none =>
    rw [hfirst] at hversion
    exact (Option.isNone_iff_eq_none.mp (by simpa using hversion.symm)).symm
  | some nonce =>
    rw [hfirst] at hversion hcredential
    obtain ⟨found, hfound⟩ := Option.isSome_iff_exists.mp hversion.symm
    rw [hfound] at hcredential ⊢
    rw [(join_inj htoken hother hcredential).2]

/-- The signature of the parameters verifies under the public key for the payload. -/
theorem verify_deviceParams (hverifies : crypto.Verifies) (identity : DeviceIdentity crypto)
    (request : AuthRequest) :
    ∃ signature : Signature,
      base64Decode (identity.deviceParams request).signature = some signature.bytes ∧
      base64Decode (identity.deviceParams request).publicKey = some identity.publicKeyRaw ∧
      crypto.scheme.verifyStrict ⟨identity.publicKeyRaw⟩
        (utf8Bytes (identity.buildAuthPayload request)) signature = .ok () := by
  refine ⟨crypto.scheme.sign identity.signingKey (utf8Bytes (identity.buildAuthPayload request)),
    base64Decode_base64Encode _, base64Decode_base64Encode _, ?_⟩
  rw [identity.publicKeyRaw_eq]
  exact hverifies _ _

end DeviceIdentity

/-! ### The identity in its file -/

/-- `StoredIdentity`. -/
structure StoredIdentity where
  version : UInt8
  deviceId : String
  publicKey : String
  secretKey : String
  createdAtMs : UInt64
  deriving DecidableEq

/-- The file at a path: absent, or with a content that `serde_json` reads or does not. -/
abbrev File := Option (Except String StoredIdentity)

/-- What the file system does to a start: whether the file can be read, whether writing it succeeds
or fails and leaves something behind, and the clock. -/
structure Disk where
  reading : Except String Unit
  saving : Except (String × File) Unit
  nowMs : UInt64

namespace DeviceIdentity

/-- What `save` writes. -/
def stored (identity : DeviceIdentity crypto) (nowMs : UInt64) : StoredIdentity where
  version := 1
  deviceId := identity.deviceId
  publicKey := base64Encode identity.publicKeyRaw
  secretKey := base64Encode identity.signingKey.bytes
  createdAtMs := nowMs

/-- `DeviceIdentity::save`. -/
def save (identity : DeviceIdentity crypto) (disk : Disk) : File × Except String Unit :=
  match disk.saving with
  | .ok () => (some (.ok (identity.stored disk.nowMs)), .ok ())
  | .error (error, left) => (left, .error error)

/-- The part of `load_or_create` that loads. -/
def load (crypto : DeviceCrypto) (content : Except String StoredIdentity) :
    Except String (DeviceIdentity crypto) :=
  match content with
  | .error error => .error error
  | .ok stored =>
    if stored.version ≠ 1 then
      .error ("unsupported identity version: " ++ toString stored.version.toNat)
    else match base64Decode stored.secretKey with
    | none => .error (crypto.decodeError stored.secretKey)
    | some secretBytes =>
      if hlength : secretBytes.length = 32 then
        let identity := ofKey crypto ⟨secretBytes⟩ hlength
        if identity.deviceId ≠ stored.deviceId then .error "device ID mismatch" else .ok identity
      else .error "invalid secret key length"

/-- `DeviceIdentity::load_or_create`, with the key that `generate` would draw. -/
def loadOrCreate (disk : Disk) (generated : DeviceIdentity crypto) (file : File) :
    File × Except String (DeviceIdentity crypto) :=
  match file with
  | some content =>
    match disk.reading with
    | .error error => (file, .error error)
    | .ok () => (file, load crypto content)
  | none =>
    match generated.save disk with
    | (after, .ok ()) => (after, .ok generated)
    | (after, .error error) => (after, .error error)

/-- `GatewayClient::new`: a start that cannot load runs under a generated identity. The source draws
a key in `load_or_create` and, after that failed, another one. A start uses one of the two draws,
and `generated` is the identity of the draw that is used. -/
def start (disk : Disk) (generated : DeviceIdentity crypto) (file : File) :
    DeviceIdentity crypto :=
  match (loadOrCreate disk generated file).2 with
  | .ok identity => identity
  | .error _ => generated

/-- What is loaded is the identity of the stored secret key, with the stored id; the stored public
key and the time of creation may be anything. -/
theorem load_eq_ok_iff {content : Except String StoredIdentity} {identity : DeviceIdentity crypto} :
    load crypto content = .ok identity ↔ ∃ stored, content = .ok stored ∧ stored.version = 1 ∧
      base64Decode stored.secretKey = some identity.signingKey.bytes ∧
      stored.deviceId = identity.deviceId := by
  unfold load
  constructor
  · intro hload
    split at hload
    · cases hload
    · rename_i stored
      split_ifs at hload with hversion
      · split at hload
        · cases hload
        · rename_i secretBytes hdecode
          split_ifs at hload with hlength
          dsimp only at hload
          split_ifs at hload with hid
          obtain rfl := Except.ok.inj hload
          exact ⟨stored, rfl, not_not.mp hversion, hdecode, (not_not.mp hid).symm⟩
  · rintro ⟨stored, rfl, hversion, hdecode, hid⟩
    have hsame : ofKey crypto ⟨identity.signingKey.bytes⟩ identity.length_signingKey = identity :=
      DeviceIdentity.ext rfl
    dsimp only
    rw [if_neg (not_not.mpr hversion), hdecode]
    dsimp only
    rw [dif_pos identity.length_signingKey, hsame, if_neg (not_not.mpr hid.symm)]

/-- What is saved is loaded. -/
theorem load_stored (identity : DeviceIdentity crypto) (nowMs : UInt64) :
    load crypto (.ok (identity.stored nowMs)) = .ok identity :=
  load_eq_ok_iff.mpr ⟨_, rfl, rfl, base64Decode_base64Encode _, rfl⟩

/-- After a start that has loaded or written an identity, the file holds it. -/
theorem load_of_loadOrCreate {disk : Disk}
    {generated identity : DeviceIdentity crypto} {file : File}
    (hfirst : (loadOrCreate disk generated file).2 = .ok identity) :
    ∃ content, (loadOrCreate disk generated file).1 = some content ∧
      load crypto content = .ok identity := by
  unfold loadOrCreate at hfirst ⊢
  cases file with
  | some content =>
    cases hreading : disk.reading with
    | error error => simp [hreading] at hfirst
    | ok done =>
      simp only [hreading] at hfirst ⊢
      exact ⟨content, rfl, hfirst⟩
  | none =>
    cases hsaving : disk.saving with
    | error failure => simp [save, hsaving] at hfirst
    | ok done =>
      simp only [save, hsaving] at hfirst ⊢
      obtain rfl := Except.ok.inj hfirst
      exact ⟨_, rfl, load_stored _ _⟩

/-- A start that finds a file leaves it as it is. -/
theorem loadOrCreate_some (disk : Disk) (generated : DeviceIdentity crypto)
    (content : Except String StoredIdentity) :
    loadOrCreate disk generated (some content) =
      (some content, match disk.reading with
        | .error error => .error error
        | .ok () => load crypto content) := by
  unfold loadOrCreate
  cases disk.reading with
  | error error => rfl
  | ok done => rfl

/-- Once a start has loaded or written an identity, whatever starts follow, the file stays as that
start left it, every start that can read it has the same identity, and one that cannot read it runs
under the identity that it draws. -/
theorem identity_kept {disk : Disk}
    {generated identity : DeviceIdentity crypto} {file : File}
    (hfirst : (loadOrCreate disk generated file).2 = .ok identity)
    (starts : List (Disk × DeviceIdentity crypto)) :
    let held := (loadOrCreate disk generated file).1
    Always (fun file next ↦ (loadOrCreate next.1 next.2 file).1) (· = held) held starts ∧
      Throughout (fun file next ↦ (loadOrCreate next.1 next.2 file).1)
        (fun file next ↦ start next.1 next.2 file = match next.1.reading with
          | .ok () => identity
          | .error _ => next.2) held starts := by
  obtain ⟨content, hheld, hload⟩ := load_of_loadOrCreate hfirst
  simp only [hheld]
  have hkept : Always (fun file (next : Disk × DeviceIdentity crypto) ↦
      (loadOrCreate next.1 next.2 file).1) (· = some content) (some content) starts := by
    refine always_of_step ?_ ?_ starts
    · rfl
    · rintro file next rfl
      exact congrArg Prod.fst (loadOrCreate_some next.1 next.2 content)
  refine ⟨hkept, fun done next hdone ↦ ?_⟩
  have hfile := hkept done (prefix_of_concat hdone)
  dsimp only at hfile ⊢
  rw [hfile, start, loadOrCreate_some]
  cases next.1.reading with
  | error error => rfl
  | ok read => simp only [hload]

/-- A disk that can be read and written. -/
def workingDisk (nowMs : UInt64) : Disk := ⟨.ok (), .ok (), nowMs⟩

/-- The first start writes the key of thirty-two sevens, the second one cannot read the file, and
the third one has the identity again. -/
theorem identity_kept_unreadable :
    let starts : List (Disk × DeviceIdentity (sevensCrypto .keyless)) :=
      [({ workingDisk 2 with reading := .error "Permission denied (os error 13)" },
          sevensIdentity .keyless), (workingDisk 3, sevensIdentity .keyless)]
    let held := (loadOrCreate (workingDisk 1) (sevensIdentity .keyless) none).1
    Always (fun file next ↦ (loadOrCreate next.1 next.2 file).1) (· = held) held starts :=
  have hfirst : (loadOrCreate (workingDisk 1) (sevensIdentity .keyless) none).2 =
      .ok (sevensIdentity .keyless) := rfl
  (identity_kept hfirst _).1

end DeviceIdentity

end Clawbernetes.ClawIdentity
