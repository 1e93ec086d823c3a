import Clawbernetes.ClawNode.Stores
import Clawbernetes.Library.Bytes
import Clawbernetes.Library.Interleaving

/-!
# Secrets

`secret.create`, `secret.get`, `secret.delete` and `secret.rotate` of `secrets_cmd.rs`, on the
secrets of `claw-secrets`. The data of a secret is serialised and encrypted. A rotation with new
data stores it under a new nonce. A rotation without data reads and decrypts what is stored, gives
the lock back, and stores the same data again; any command may come between. `SecretStore::update`
stores the entry as it is given, so the time of creation that the comment of the rotation says it
keeps is overwritten as well.

Serialisation, encoding and encryption come from outside and are assumed to be inverted by their
counterparts (`Primitives`). `secrets_current_iff` says exactly in which interleavings every secret
has the data that was committed last and keeps its time of creation.
-/

set_option autoImplicit false
set_option relaxedAutoImplicit false

namespace Clawbernetes.ClawNode

open Library.FiniteTable Library.Runs Library.Interleaving Library.Bytes

/-- A nonce of AES-GCM. -/
abbrev Nonce := { bytes : List UInt8 // bytes.length = 12 }

/-- AES-256-GCM, base64 and the serialisation of the data of a secret. -/
structure Primitives (Key Data : Type*) where
  sealPlain : Key → Nonce → List UInt8 → Option (List UInt8)
  openSealed : Key → Nonce → List UInt8 → Option (List UInt8)
  encode : List UInt8 → String
  decode : String → Option (List UInt8)
  toVec : Data → List UInt8
  fromSlice : List UInt8 → Option Data
  openSealed_of_sealPlain :
    ∀ key nonce plaintext ciphertext, sealPlain key nonce plaintext = some ciphertext →
    openSealed key nonce ciphertext = some plaintext
  decode_encode : ∀ bytes, decode (encode bytes) = some bytes
  fromSlice_toVec : ∀ data, fromSlice (toVec data) = some data

/-- `SecretEntry`. -/
structure SecretEntry where
  name : String
  encryptedData : String
  nonce : String
  keyVersion : UInt32
  createdAt : ℤ
  rotatedAt : ℤ
  deriving DecidableEq

namespace Secrets

variable {Key Data : Type*}

/-- `KEY_VERSION`. -/
def keyVersion : UInt32 := 1

/-- `encrypt`, with the nonce that the random generator gives or not. -/
def encrypt (primitives : Primitives Key Data) (key : Key) (random : Option Nonce)
    (plaintext : List UInt8) : Except String (String × String) :=
  match random with
  | none => .error "failed to generate nonce"
  | some nonce =>
    match primitives.sealPlain key nonce plaintext with
    | none => .error "encryption failed"
    | some ciphertext => .ok (primitives.encode ciphertext, primitives.encode nonce.1)

/-- `decrypt`. -/
def decrypt (primitives : Primitives Key Data) (key : Key) (ciphertextB64 nonceB64 : String) :
    Except String (List UInt8) :=
  match primitives.decode ciphertextB64, primitives.decode nonceB64 with
  | none, _ => .error "invalid ciphertext encoding"
  | some _, none => .error "invalid nonce encoding"
  | some ciphertext, some bytes =>
    if hlength : bytes.length = 12 then
      match primitives.openSealed key ⟨bytes, hlength⟩ ciphertext with
      | none => .error "decryption failed (wrong key or corrupted data)"
      | some plaintext => .ok plaintext
    else .error "invalid nonce length"

/-- The secrets by name. -/
abbrev Store := Table String SecretEntry

/-- `SecretStore::update`, which stores the entry as it is. -/
def update (secrets : Store) (name : String) (entry : SecretEntry) : Except String Unit × Store :=
  if (secrets.lookup name).isSome then (.ok (), secrets.insert name entry)
  else (.error (notFound "secret" name), secrets)

/-- `handle_secret_create`. -/
def handleSecretCreate (primitives : Primitives Key Data) (key : Key) (name : String) (data : Data)
    (random : Option Nonce) (now : ℤ) (secrets : Store) : Except String Unit × Store :=
  match encrypt primitives key random (primitives.toVec data) with
  | .error error => (.error error, secrets)
  | .ok (encrypted, nonce) =>
    createRecord "secret" secrets name ⟨name, encrypted, nonce, keyVersion, now, now⟩

/-- `handle_secret_get`: the entry and its data. -/
def handleSecretGet (primitives : Primitives Key Data) (key : Key) (name : String)
    (secrets : Store) : Except String (SecretEntry × Data) :=
  match secrets.lookup name with
  | none => .error (notFound "secret" name)
  | some entry =>
    match decrypt primitives key entry.encryptedData entry.nonce with
    | .error error => .error error
    | .ok plaintext =>
      match primitives.fromSlice plaintext with
      | none => .error "failed to deserialize secret data"
      | some data => .ok (entry, data)

/-- `handle_secret_delete`. -/
def handleSecretDelete (name : String) (secrets : Store) : Except String Unit × Store :=
  deleteRecord "secret" secrets name

/-- The first section of `handle_secret_rotate` without data. -/
def readPlaintext (primitives : Primitives Key Data) (key : Key) (name : String)
    (secrets : Store) : Except String (List UInt8) :=
  match secrets.lookup name with
  | none => .error (notFound "secret" name)
  | some entry => decrypt primitives key entry.encryptedData entry.nonce

/-- The rest of `handle_secret_rotate`. -/
def storeRotated (primitives : Primitives Key Data) (key : Key) (name : String)
    (plaintext : List UInt8) (random : Option Nonce) (now : ℤ) (secrets : Store) :
    Except String Unit × Store :=
  match encrypt primitives key random plaintext with
  | .error error => (.error error, secrets)
  | .ok (encrypted, nonce) =>
    update secrets name ⟨name, encrypted, nonce, keyVersion, now, now⟩

/-- A command, with what the random generator and the clock give it. -/
inductive Command (Data : Type*) where
  | create (name : String) (data : Data) (random : Option Nonce) (now : ℤ)
  | delete (name : String)
  | rotateTo (name : String) (data : Data) (random : Option Nonce) (now : ℤ)
  | rotate (name : String)

/-- A rotation without data that has read what is stored. -/
structure Rotation where
  name : String
  plaintext : List UInt8
  deriving DecidableEq

/-- The secrets, beside the data that was last committed for each and not deleted since. -/
structure Ledger (Data : Type*) where
  secrets : Store
  committed : Table String Data

/-- The ledger after a command that commits data when it succeeds. -/
def commit (name : String) (data : Data) (committed : Table String Data) :
    Except String Unit × Store → Ledger Data
  | (.ok (), secrets) => ⟨secrets, committed.insert name data⟩
  | (.error _, secrets) => ⟨secrets, committed⟩

/-- The sections of the commands. A rotation without data stores with what the random generator and
the clock give then. -/
def protocol (primitives : Primitives Key Data) (key : Key) :
    Protocol (Ledger Data) Rotation (Command Data) (Option Nonce × ℤ) where
  begin ledger
    | .create name data random now => (commit name data ledger.committed
        (handleSecretCreate primitives key name data random now ledger.secrets), none)
    | .delete name =>
      (⟨(handleSecretDelete name ledger.secrets).2, ledger.committed.erase name⟩, none)
    | .rotateTo name data random now => (commit name data ledger.committed
        (storeRotated primitives key name (primitives.toVec data) random now ledger.secrets), none)
    | .rotate name =>
      match readPlaintext primitives key name ledger.secrets with
      | .error _ => (ledger, none)
      | .ok plaintext => (ledger, some ⟨name, plaintext⟩)
  resume choice ledger rotation :=
    ({ ledger with secrets := (storeRotated primitives key rotation.name rotation.plaintext choice.1
        choice.2 ledger.secrets).2 }, none)

/-- No secrets, and no command on its way. -/
def start : World (Ledger Data) Rotation := ⟨⟨∅, ∅⟩, []⟩

/-! ### What is claimed of an interleaving -/

/-- Every secret has the data that was committed last, and there are no others. -/
def Current (primitives : Primitives Key Data) (key : Key) (ledger : Ledger Data) : Prop :=
  ∀ name, match ledger.committed.lookup name with
    | none => ledger.secrets.lookup name = none
    | some data => ∃ entry, handleSecretGet primitives key name ledger.secrets = .ok (entry, data)

/-- The entry of a name keeps its time of creation. -/
def CreationKept (name : String) (before after : Store) : Prop :=
  ∀ entry changed, before.lookup name = some entry → after.lookup name = some changed →
    changed.createdAt = entry.createdAt

/-- A rotation with data keeps the time of creation. -/
def BeginsKept (primitives : Primitives Key Data) (key : Key) (ledger : Ledger Data)
    (_ : List Rotation) (command : Command Data) : Prop :=
  match command with
  | .rotateTo name _ _ _ => CreationKept name ledger.secrets
      ((protocol primitives key).begin ledger command).1.secrets
  | _ => True

/-- A rotation without data keeps the time of creation. -/
def ResumesKept (primitives : Primitives Key Data) (key : Key) (ledger : Ledger Data)
    (_ : List Rotation) (rotation : Rotation) (choice : Option Nonce × ℤ) : Prop :=
  CreationKept rotation.name ledger.secrets
    ((protocol primitives key).resume choice ledger rotation).1.secrets

/-- A rotation with data that can be encrypted stores a secret at the time of its creation. -/
def RotatesAtCreation (primitives : Primitives Key Data) (key : Key) (ledger : Ledger Data)
    (_ : List Rotation) : Command Data → Prop
  | .rotateTo name data random now => ∀ entry, ledger.secrets.lookup name = some entry →
      (∃ stored, encrypt primitives key random (primitives.toVec data) = .ok stored) →
      now = entry.createdAt
  | _ => True

/-- A rotation without data that can be encrypted stores a secret at the time of its creation, and
with the data that was committed last. -/
def StoresCommitted (primitives : Primitives Key Data) (key : Key) (ledger : Ledger Data)
    (_ : List Rotation) (rotation : Rotation) (choice : Option Nonce × ℤ) : Prop :=
  ∀ entry, ledger.secrets.lookup rotation.name = some entry →
    (∃ stored, encrypt primitives key choice.1 rotation.plaintext = .ok stored) →
    choice.2 = entry.createdAt ∧
      primitives.fromSlice rotation.plaintext = ledger.committed.lookup rotation.name

/-! ### What a section does -/

variable {primitives : Primitives Key Data} {key : Key} {ledger : Ledger Data} {name : String}

/-- What was encrypted is decrypted. -/
theorem decrypt_of_encrypt {random : Option Nonce} {plaintext : List UInt8}
    {encrypted nonce : String}
    (hencrypt : encrypt primitives key random plaintext = .ok (encrypted, nonce)) :
    decrypt primitives key encrypted nonce = .ok plaintext := by
  unfold encrypt at hencrypt
  cases random with
  | none => cases hencrypt
  | some bytes =>
    cases hseal : primitives.sealPlain key bytes plaintext with
    | none =>
      simp only [hseal] at hencrypt
      cases hencrypt
    | some ciphertext =>
      simp only [hseal] at hencrypt
      cases hencrypt
      have hopen := primitives.openSealed_of_sealPlain key bytes plaintext ciphertext hseal
      simp only [decrypt, primitives.decode_encode, bytes.2, dif_pos]
      change (match primitives.openSealed key bytes ciphertext with
        | none => _
        | some plaintext => _) = _
      rw [hopen]

/-- What a secret with a plaintext is read as. -/
theorem handleSecretGet_of_decrypt {secrets : Store} {entry : SecretEntry} {plaintext : List UInt8}
    (hlookup : secrets.lookup name = some entry)
    (hdecrypt : decrypt primitives key entry.encryptedData entry.nonce = .ok plaintext)
    (data : Data) : (∃ found, handleSecretGet primitives key name secrets = .ok (found, data)) ↔
      primitives.fromSlice plaintext = some data := by
  simp only [handleSecretGet, hlookup, hdecrypt]
  cases primitives.fromSlice plaintext with
  | none => exact iff_of_false (by rintro ⟨found, hfound⟩; cases hfound) (by simp)
  | some other =>
    constructor
    · rintro ⟨found, hfound⟩
      exact congrArg some (Prod.ext_iff.mp (Except.ok.inj hfound)).2
    · intro hdata
      exact ⟨entry, by rw [Option.some_inj.mp hdata]⟩

/-- The other secrets are read as before. -/
theorem handleSecretGet_congr {secrets after : Store}
    (hlookup : after.lookup name = secrets.lookup name) :
    handleSecretGet primitives key name after = handleSecretGet primitives key name secrets := by
  simp only [handleSecretGet, hlookup]

/-- When one secret is stored with a plaintext, all have the data that was committed last exactly
when this one has. -/
theorem current_insert_iff (hcurrent : Current primitives key ledger) (name : String)
    {entry : SecretEntry} {plaintext : List UInt8} {committed : Table String Data}
    (hdecrypt : decrypt primitives key entry.encryptedData entry.nonce = .ok plaintext)
    (hothers : ∀ other, other ≠ name → committed.lookup other = ledger.committed.lookup other) :
    Current primitives key ⟨ledger.secrets.insert name entry, committed⟩ ↔
      ∃ data, committed.lookup name = some data ∧ primitives.fromSlice plaintext = some data := by
  have hstored : (ledger.secrets.insert name entry).lookup name = some entry :=
    AList.lookup_insert ledger.secrets
  have hread := handleSecretGet_of_decrypt hstored hdecrypt
  constructor
  · intro hafter
    have hname := hafter name
    cases hdata : committed.lookup name with
    | none =>
      simp only [hdata, AList.lookup_insert] at hname
      cases hname
    | some data =>
      simp only [hdata] at hname
      exact ⟨data, rfl, (hread data).mp hname⟩
  · rintro ⟨data, hdata, hplaintext⟩ other
    by_cases hother : other = name
    · subst hother
      simp only [hdata]
      exact (hread data).mpr hplaintext
    · have hsame : (ledger.secrets.insert name entry).lookup other = ledger.secrets.lookup other :=
        AList.lookup_insert_ne hother
      have hbefore := hcurrent other
      simp only [hothers other hother, hsame, handleSecretGet_congr hsame]
      exact hbefore

/-- Data that is committed and stored leaves all secrets with the data that was committed last. -/
theorem current_commit (hcurrent : Current primitives key ledger) (name : String) {data : Data}
    {random : Option Nonce} {encrypted nonce : String} (now : ℤ)
    (hencrypt : encrypt primitives key random (primitives.toVec data) = .ok (encrypted, nonce)) :
    Current primitives key
      ⟨ledger.secrets.insert name ⟨name, encrypted, nonce, keyVersion, now, now⟩,
        ledger.committed.insert name data⟩ := by
  have hdecrypt := decrypt_of_encrypt hencrypt
  refine (current_insert_iff hcurrent name hdecrypt fun other hother ↦ ?_).mpr
    ⟨data, AList.lookup_insert ledger.committed, primitives.fromSlice_toVec data⟩
  exact AList.lookup_insert_ne hother

/-- A stored secret was committed. -/
theorem Current.committed_of_lookup (hcurrent : Current primitives key ledger)
    {entry : SecretEntry} (hlookup : ledger.secrets.lookup name = some entry) :
    ∃ data, ledger.committed.lookup name = some data := by
  have hname := hcurrent name
  cases hdata : ledger.committed.lookup name with
  | none =>
    simp only [hdata] at hname
    rw [hname] at hlookup
    cases hlookup
  | some data => exact ⟨data, rfl⟩

/-- A secret is read as the data that was committed last. -/
theorem Current.read_of_committed (hcurrent : Current primitives key ledger) {data : Data}
    (hdata : ledger.committed.lookup name = some data) :
    (handleSecretGet primitives key name ledger.secrets).toOption.map Prod.snd = some data := by
  have hname := hcurrent name
  simp only [hdata] at hname
  obtain ⟨entry, hread⟩ := hname
  rw [hread]
  rfl

/-- A rotation fails and stores nothing when there is no secret or the data is not encrypted, and
stores an entry of its own otherwise. -/
theorem storeRotated_cases (primitives : Primitives Key Data) (key : Key) (name : String)
    (plaintext : List UInt8) (random : Option Nonce) (now : ℤ) (secrets : Store) :
    (∃ error, storeRotated primitives key name plaintext random now secrets =
          (.error error, secrets)) ∧
        (∀ entry, secrets.lookup name = some entry →
          ¬∃ stored, encrypt primitives key random plaintext = .ok stored) ∨
      ∃ entry encrypted nonce, secrets.lookup name = some entry ∧
        encrypt primitives key random plaintext = .ok (encrypted, nonce) ∧
        storeRotated primitives key name plaintext random now secrets = (.ok (),
          secrets.insert name ⟨name, encrypted, nonce, keyVersion, now, now⟩) := by
  unfold storeRotated
  cases hencrypt : encrypt primitives key random plaintext with
  | error error =>
    refine .inl ⟨⟨error, rfl⟩, fun entry _ hstored ↦ ?_⟩
    obtain ⟨stored, hstored⟩ := hstored
    cases hstored
  | ok stored =>
    obtain ⟨encrypted, nonce⟩ := stored
    cases hlookup : secrets.lookup name with
    | none =>
      refine .inl ⟨⟨notFound "secret" name, ?_⟩, fun entry hentry ↦ ?_⟩
      · simp [update, hlookup]
      · cases hentry
    | some entry =>
      refine .inr ⟨entry, encrypted, nonce, rfl, rfl, ?_⟩
      simp [update, hlookup]

/-- An entry that is stored for another keeps its time of creation exactly when it has the same. -/
theorem creationKept_insert_iff {secrets : Store} {entry : SecretEntry} (changed : SecretEntry)
    (hlookup : secrets.lookup name = some entry) :
    CreationKept name secrets (secrets.insert name changed) ↔
      changed.createdAt = entry.createdAt := by
  constructor
  · exact fun hkept ↦ hkept entry changed hlookup (AList.lookup_insert secrets)
  · intro hsame old new hold hnew
    rw [hlookup, Option.some_inj] at hold
    rw [AList.lookup_insert, Option.some_inj] at hnew
    rw [← hold, ← hnew]
    exact hsame

/-- A store that is not changed keeps every time of creation. -/
theorem creationKept_refl (name : String) (secrets : Store) :
    CreationKept name secrets secrets := by
  intro old new hold hnew
  rw [Option.some_inj.mp (hold.symm.trans hnew)]

/-- A creation leaves every secret with the data that was committed last. -/
theorem current_begin_create (hcurrent : Current primitives key ledger) (name : String)
    (data : Data) (random : Option Nonce) (now : ℤ) :
    Current primitives key
      ((protocol primitives key).begin ledger (.create name data random now)).1 := by
  simp only [protocol, handleSecretCreate]
  cases hencrypt : encrypt primitives key random (primitives.toVec data) with
  | error error => exact hcurrent
  | ok stored =>
    rcases createRecord_cases "secret" ledger.secrets name
        ⟨name, stored.1, stored.2, keyVersion, now, now⟩ with ⟨-, hafter⟩ | ⟨-, hafter⟩
    · simp only [hafter]
      exact hcurrent
    · simp only [hafter]
      exact current_commit hcurrent name now hencrypt

/-- A deletion leaves every other secret with the data that was committed last. -/
theorem current_begin_delete (hcurrent : Current primitives key ledger) (name : String) :
    Current primitives key ((protocol primitives key).begin ledger (.delete name)).1 := by
  intro other
  simp only [protocol, handleSecretDelete]
  have hlookup := lookup_deleteRecord "secret" ledger.secrets name other
  by_cases hsame : other = name
  · rw [if_pos hsame] at hlookup
    subst hsame
    simp only [AList.lookup_erase]
    exact hlookup
  · rw [if_neg hsame] at hlookup
    have hother := hcurrent other
    simp only [AList.lookup_erase_ne hsame, hlookup, handleSecretGet_congr hlookup]
    exact hother

/-- The first section of a command leaves every secret with the data that was committed last and
with its time of creation, exactly when it does not rotate a secret at another time. -/
theorem current_begin_iff (hcurrent : Current primitives key ledger) (rotations : List Rotation)
    (command : Command Data) :
    Current primitives key ((protocol primitives key).begin ledger command).1 ∧
        BeginsKept primitives key ledger rotations command ↔
      RotatesAtCreation primitives key ledger rotations command := by
  cases command with
  | create name data random now =>
    exact iff_of_true ⟨current_begin_create hcurrent name data random now, trivial⟩ trivial
  | delete name => exact iff_of_true ⟨current_begin_delete hcurrent name, trivial⟩ trivial
  | rotateTo name data random now =>
    simp only [protocol, BeginsKept, RotatesAtCreation]
    rcases storeRotated_cases primitives key name (primitives.toVec data) random now
        ledger.secrets with ⟨⟨error, hafter⟩, hfails⟩ |
        ⟨entry, encrypted, nonce, hlookup, hencrypt, hafter⟩
    · simp only [hafter]
      exact iff_of_true ⟨hcurrent, creationKept_refl name ledger.secrets⟩
        fun entry hlookup hstored ↦ absurd hstored (hfails entry hlookup)
    · simp only [hafter]
      have hcommitted := current_commit hcurrent name now hencrypt
      refine (and_iff_right hcommitted).trans ((creationKept_insert_iff _ hlookup).trans ?_)
      constructor
      · intro hsame other hother _
        rw [hlookup, Option.some_inj] at hother
        exact hother ▸ hsame
      · exact fun hrotates ↦ hrotates entry hlookup ⟨_, hencrypt⟩
  | rotate name =>
    refine iff_of_true ⟨?_, trivial⟩ trivial
    simp only [protocol]
    cases readPlaintext primitives key name ledger.secrets with
    | error error => exact hcurrent
    | ok plaintext => exact hcurrent

/-- The second section of a rotation without data leaves every secret with the data that was
committed last and with its time of creation, exactly when what it read is still the data that was
committed last and it stores it at the time of creation. -/
theorem current_resume_iff (hcurrent : Current primitives key ledger) (rotations : List Rotation)
    (rotation : Rotation) (choice : Option Nonce × ℤ) :
    Current primitives key ((protocol primitives key).resume choice ledger rotation).1 ∧
        ResumesKept primitives key ledger rotations rotation choice ↔
      StoresCommitted primitives key ledger rotations rotation choice := by
  simp only [protocol, ResumesKept, StoresCommitted]
  rcases storeRotated_cases primitives key rotation.name rotation.plaintext choice.1 choice.2
      ledger.secrets with ⟨⟨error, hafter⟩, hfails⟩ |
      ⟨entry, encrypted, nonce, hlookup, hencrypt, hafter⟩
  · simp only [hafter]
    exact iff_of_true ⟨hcurrent, creationKept_refl rotation.name ledger.secrets⟩
      fun entry hlookup hstored ↦ absurd hstored (hfails entry hlookup)
  · simp only [hafter]
    obtain ⟨data, hdata⟩ := hcurrent.committed_of_lookup hlookup
    have hdecrypt := decrypt_of_encrypt hencrypt
    rw [current_insert_iff hcurrent rotation.name hdecrypt fun _ _ ↦ rfl,
      creationKept_insert_iff _ hlookup, hdata]
    constructor
    · rintro ⟨⟨found, hfound, hplaintext⟩, hsame⟩ other hother _
      rw [hlookup, Option.some_inj] at hother
      exact ⟨hother ▸ hsame, hplaintext.trans hfound.symm⟩
    · intro hstores
      obtain ⟨hsame, hplaintext⟩ := hstores entry hlookup ⟨_, hencrypt⟩
      exact ⟨⟨data, rfl, hplaintext⟩, hsame⟩

/-- In an interleaving of commands every secret has the data that was committed last and no rotation
changes a time of creation, if and only if no rotation stores a secret at another time than that of
its creation, and what a rotation without data read is still the data that was committed last when
it is stored. -/
theorem secrets_current_iff (primitives : Primitives Key Data) (key : Key)
    (moves : List (Move (Command Data) (Option Nonce × ℤ))) :
    (Always (protocol primitives key).step
        (fun world ↦ Current primitives key world.shared) start moves ∧
      Throughout (protocol primitives key).step
        (Protocol.Allowed (BeginsKept primitives key) (ResumesKept primitives key)) start moves) ↔
      Throughout (protocol primitives key).step
        (Protocol.Allowed (RotatesAtCreation primitives key) (StoresCommitted primitives key))
        start moves := by
  refine always_and_throughout_iff (fun name ↦ ?_) fun world move hcurrent ↦ ?_
  · rfl
  · exact (protocol primitives key).shared_step_iff (Current primitives key)
      (fun ledger rotations command hbefore ↦ current_begin_iff hbefore rotations command)
      (fun ledger rotations rotation choice hbefore ↦
        current_resume_iff hbefore rotations rotation choice) world move hcurrent

/-- Primitives that hide nothing. -/
def plainPrimitives : Primitives Unit (List UInt8) where
  sealPlain _ _ plaintext := some plaintext
  openSealed _ _ ciphertext := some ciphertext
  encode bytes := String.ofList (bytes.map Char.ofUInt8)
  decode text := some (text.toList.map Char.toUInt8)
  toVec data := data
  fromSlice bytes := some bytes
  openSealed_of_sealPlain _ _ _ _ hseal := hseal.symm
  decode_encode bytes := by
    have hchar : Char.toUInt8 ∘ Char.ofUInt8 = id := by
      funext byte
      exact UInt8.toUInt8_toUInt32 byte
    simp [hchar]
  fromSlice_toVec _ := rfl

/-- A rotation without data stores what it read after other data was committed, and a rotation with
data changes the time of creation. -/
theorem rotation_overwrites :
    let nonce : Nonce := ⟨List.replicate 12 0, rfl⟩
    let create : Move (Command (List UInt8)) (Option Nonce × ℤ) :=
      .begin (.create "db" [1] (some nonce) 0)
    let after := [create, .begin (.rotate "db"), .begin (.rotateTo "db" [2] (some nonce) 0),
      .resume 0 (some nonce, 0)].foldl (protocol plainPrimitives ()).step start
    (Protocol.Quiescent after ∧ ¬Current plainPrimitives () after.shared) ∧
      ¬Throughout (protocol plainPrimitives ()).step
        (Protocol.Allowed (BeginsKept plainPrimitives ()) (ResumesKept plainPrimitives ())) start
        [create, .begin (.rotateTo "db" [2] (some nonce) 1)] := by
  intro nonce create after
  refine ⟨⟨?_, ?_⟩, ?_⟩
  · unfold Protocol.Quiescent
    decide +kernel
  · intro hcurrent
    have hcommitted : after.shared.committed.lookup "db" = some [2] := by decide +kernel
    have hread := hcurrent.read_of_committed hcommitted
    have hstored : (handleSecretGet plainPrimitives () "db" after.shared.secrets).toOption.map
        Prod.snd = some [1] := by
      decide +kernel
    rw [hread] at hstored
    cases hstored
  · intro hthroughout
    have hkept := hthroughout [create] _ (List.prefix_refl _) _ _ rfl rfl
    cases hkept

end Secrets

end Clawbernetes.ClawNode
