import Clawbernetes.Library.FiniteTable
import Clawbernetes.Library.Interleaving
import Clawbernetes.Library.SortedInsert
import Clawbernetes.Library.TextEncodings
import Clawbernetes.Library.Bytes
import Clawbernetes.Library.Traces

/-!
# API keys and the audit log

The stores of `claw-auth` and the commands of `auth_cmd.rs`. A key is stored with the digest of its
secret, and the secret is handed out once. Creating and revoking a key take the lock of the keys
first and that of the audit log afterwards, so other commands may come in between: a command is two
sections.

In every interleaving, the digest of a secret is found exactly when a key with it has been created
and not been revoked since (`found_iff_since`), and the audit log has one entry for each key that
has been created or revoked, but for those whose command is still on its way (`audit_complete`).
-/

set_option autoImplicit false
set_option relaxedAutoImplicit false

namespace Clawbernetes.ClawNode

open Library.Bytes Library.FiniteTable Library.Interleaving Library.Runs Library.SortedInsert
  Library.TextEncodings

/-! ### The stores -/

/-- `ApiKeyRecord`. -/
structure ApiKeyRecord where
  keyId : String
  name : String
  secretHash : String
  scopes : List String
  role : String
  active : Bool
  createdAt : ℤ
  lastUsed : Option ℤ

/-- What an entry of the audit log says. -/
structure AuditEvent where
  actor : String
  action : String
  resource : String
  resourceId : Option String
  result : String
  details : Option String
  deriving DecidableEq

/-- `AuditLogEntry`. -/
structure AuditLogEntry extends AuditEvent where
  id : String
  timestamp : ℤ
  deriving DecidableEq

/-- The keys of `ApiKeyStore`. -/
abbrev ApiKeys := Table String ApiKeyRecord

/-- The entries of `AuditLogStore`. -/
abbrev AuditLog := Table String AuditLogEntry

namespace ApiKeys

/-- `ApiKeyStore::create`. -/
def create (keys : ApiKeys) (record : ApiKeyRecord) : Except String ApiKeys :=
  if (keys.lookup record.keyId).isSome then .error ("key '" ++ record.keyId ++ "' already exists")
  else .ok (keys.insert record.keyId record)

/-- `ApiKeyStore::find_by_hash`. -/
def findByHash (keys : ApiKeys) (secretHash : String) : Option ApiKeyRecord :=
  (keys.entries.map Sigma.snd).find? fun record ↦ record.secretHash = secretHash && record.active

/-- `ApiKeyStore::revoke`. -/
def revoke (keys : ApiKeys) (keyId : String) : Except String ApiKeys :=
  match keys.lookup keyId with
  | none => .error ("key '" ++ keyId ++ "' not found")
  | some record => .ok (keys.insert keyId { record with active := false })

end ApiKeys

namespace AuditLog

/-- The entries in some order. -/
def values (log : AuditLog) : List AuditLogEntry := log.entries.map Sigma.snd

/-- `AuditLogStore::append`. -/
def append (log : AuditLog) (entry : AuditLogEntry) : AuditLog := log.insert entry.id entry

/-- The filters of a query. -/
def selects (actor action : Option String) (entry : AuditLogEntry) : Bool :=
  (match actor with
    | none => true
    | some actor => entry.actor = actor) &&
  match action with
    | none => true
    | some action => entry.action = action

/-- `AuditLogStore::query`: the newest entries first. -/
def query (log : AuditLog) (actor action : Option String) (limit : ℕ) : List AuditLogEntry :=
  (stableSort (fun entry : AuditLogEntry ↦ -entry.timestamp)
    (log.values.filter (selects actor action))).take limit

end AuditLog

/-! ### The commands -/

/-- `CreateKeyParams`. -/
structure CreateKeyParams where
  name : String
  role : Option String
  scopes : List String

/-- `default_role`. -/
def defaultRole : String := "viewer"

/-- `generate_api_secret`, from the bytes that are drawn. -/
def generateApiSecret (random : Option (List UInt8)) : Except String String :=
  match random with
  | none => .error "failed to generate random bytes"
  | some bytes => .ok (hexEncode bytes)

/-- `hash_secret`. -/
def hashSecret (sha256 : List UInt8 → List UInt8) (secret : String) : String :=
  hexEncode (sha256 (utf8Bytes secret))

/-- The id of a key shows the beginning of its secret. -/
def keyIdOf (secret : String) : String := "claw-" ++ String.ofList (secret.toList.take 12)

/-- The commands that change the keys, with the random bytes and the clock. -/
inductive AuthCommand where
  | createKey (params : CreateKeyParams) (random : Option (List UInt8)) (now : ℤ)
  | revokeKey (keyId : String)

/-- What a command has done to the keys, and has still to write into the audit log. -/
inductive AuthTask where
  | created (keyId name role secret : String) (scopes : List String)
  | revoked (keyId : String)

/-- What an entry says of a task. -/
def AuthTask.event : AuthTask → AuditEvent
  | .created keyId name role _ _ => ⟨"system", "auth.create_key", "api_key", some keyId, "success",
      some ("role=" ++ role ++ ", name=" ++ name)⟩
  | .revoked keyId => ⟨"system", "auth.revoke_key", "api_key", some keyId, "success", none⟩

/-- The two stores. -/
structure AuthState where
  apiKeys : ApiKeys
  auditLog : AuditLog

namespace AuthState

/-- The first sections of `handle_create_key` and `handle_revoke_key`. -/
def begin_ (sha256 : List UInt8 → List UInt8) (state : AuthState) :
    AuthCommand → AuthState × Except String AuthTask
  | .createKey params random now =>
    match generateApiSecret random with
    | .error error => (state, .error error)
    | .ok secret =>
      let role := params.role.getD defaultRole
      let record : ApiKeyRecord := ⟨keyIdOf secret, params.name, hashSecret sha256 secret,
        params.scopes, role, true, now, none⟩
      match state.apiKeys.create record with
      | .error error => (state, .error error)
      | .ok apiKeys => ({ state with apiKeys := apiKeys },
          .ok (.created record.keyId params.name role secret params.scopes))
  | .revokeKey keyId =>
    match state.apiKeys.revoke keyId with
    | .error error => (state, .error error)
    | .ok apiKeys => ({ state with apiKeys := apiKeys }, .ok (.revoked keyId))

/-- The second section, with the id and the time of the entry. -/
def audit (state : AuthState) (task : AuthTask) (entry : String × ℤ) : AuthState :=
  { state with
    auditLog := state.auditLog.append { task.event with id := entry.1, timestamp := entry.2 } }

/-- No key has been created. -/
def start : World AuthState AuthTask := ⟨⟨∅, ∅⟩, []⟩

/-- The sections of the commands. -/
def protocol (sha256 : List UInt8 → List UInt8) :
    Protocol AuthState AuthTask AuthCommand (String × ℤ) where
  begin := fun state command ↦
    let (after, outcome) := state.begin_ sha256 command
    (after, outcome.toOption)
  resume := fun entry state task ↦ (state.audit task entry, none)

/-! ### Which secrets are accepted -/

section Accepted

variable (sha256 : List UInt8 → List UInt8) (keyId secretHash : String)

/-- A key can be found by the digest of its secret. -/
def Accepts (world : World AuthState AuthTask) : Prop :=
  ∃ record, world.shared.apiKeys.lookup keyId = some record ∧ record.secretHash = secretHash ∧
    record.active = true

/-- A key with a new id is created, with a secret of that digest. -/
def Creates (world : World AuthState AuthTask) : Move AuthCommand (String × ℤ) → Prop
  | .begin (.createKey _ (some bytes) _) => keyIdOf (hexEncode bytes) = keyId ∧
      hashSecret sha256 (hexEncode bytes) = secretHash ∧ world.shared.apiKeys.lookup keyId = none
  | _ => False

/-- A key is revoked. -/
def Revokes (_ : World AuthState AuthTask) : Move AuthCommand (String × ℤ) → Prop
  | .begin (.revokeKey other) => other = keyId
  | _ => False

variable {sha256 keyId secretHash}

/-- A section makes a key acceptable by creating it, and ends this by revoking it. -/
theorem accepts_step_iff (world : World AuthState AuthTask)
    (move : Move AuthCommand (String × ℤ)) :
    Accepts keyId secretHash ((protocol sha256).step world move) ↔
      Creates sha256 keyId secretHash world move ∨
        Accepts keyId secretHash world ∧ ¬ Revokes keyId world move := by
  cases move with
  | resume index entry =>
    have hsame : ((protocol sha256).step world (.resume index entry)).shared.apiKeys =
        world.shared.apiKeys := by
      cases htask : world.pending[index]? with
      | none => rw [Protocol.step_resume_of_none _ entry htask]
      | some task => rw [Protocol.step_resume_of_some _ entry htask]; rfl
    simp [Accepts, Creates, Revokes, hsame]
  | begin command =>
    cases command with
    | createKey params random now =>
      cases random with
      | none => simp [Accepts, Creates, Revokes, Protocol.step, protocol, begin_, generateApiSecret]
      | some bytes =>
        simp only [Accepts, Creates, Revokes, Protocol.step, protocol, begin_, generateApiSecret,
          ApiKeys.create, not_false_eq_true, and_true]
        cases hother : world.shared.apiKeys.lookup (keyIdOf (hexEncode bytes)) with
        | some taken =>
          simp only [Option.isSome_some, if_true]
          refine (or_iff_right ?_).symm
          rintro ⟨rfl, -, hnone⟩
          rw [hother] at hnone
          cases hnone
        | none =>
          simp only [Option.isSome_none, Bool.false_eq_true, if_false]
          by_cases hkey : keyId = keyIdOf (hexEncode bytes)
          · subst hkey
            simp [hother]
          · rw [AList.lookup_insert_ne hkey]
            exact (or_iff_right fun hcreates ↦ hkey hcreates.1.symm).symm
    | revokeKey other =>
      simp only [Accepts, Creates, Revokes, Protocol.step, protocol, begin_, ApiKeys.revoke,
        false_or]
      cases hother : world.shared.apiKeys.lookup other with
      | none =>
        refine (and_iff_left_of_imp ?_).symm
        rintro ⟨record, hrecord, -⟩ rfl
        rw [hother] at hrecord
        cases hrecord
      | some record =>
        dsimp only
        by_cases hkey : keyId = other
        · subst hkey
          simp
        · rw [AList.lookup_insert_ne hkey]
          exact (and_iff_left (Ne.symm hkey)).symm

/-- A digest is found exactly when some key can be found by it. -/
theorem findByHash_isSome_iff (keys : ApiKeys) :
    (keys.findByHash secretHash).isSome = true ↔ ∃ keyId record,
      keys.lookup keyId = some record ∧ record.secretHash = secretHash ∧ record.active = true := by
  simp only [ApiKeys.findByHash, List.find?_isSome, List.mem_map, Bool.and_eq_true,
    decide_eq_true_eq]
  constructor
  · rintro ⟨record, ⟨⟨keyId, found⟩, hmem, rfl⟩, hhash, hactive⟩
    exact ⟨keyId, found, AList.mem_lookup_iff.mpr hmem, hhash, hactive⟩
  · rintro ⟨keyId, record, hlookup, hhash, hactive⟩
    exact ⟨record, ⟨⟨keyId, record⟩, AList.mem_lookup_iff.mp hlookup, rfl⟩, hhash, hactive⟩

end Accepted

/-- In every interleaving, the digest of a secret is found exactly when a key with that digest has
been created, under an id that was free, and not been revoked since. What is found is an active key
with the digest. -/
theorem found_iff_since (sha256 : List UInt8 → List UInt8) (secretHash : String)
    (moves : List (Move AuthCommand (String × ℤ))) :
    let keys := (moves.foldl (protocol sha256).step start).shared.apiKeys
    ((keys.findByHash secretHash).isSome = true ↔ ∃ keyId, Since (protocol sha256).step
      (Creates sha256 keyId secretHash) (Revokes keyId) start moves) ∧
    ∀ record, keys.findByHash secretHash = some record →
      record.secretHash = secretHash ∧ record.active = true := by
  refine ⟨(findByHash_isSome_iff _).trans (exists_congr fun keyId ↦ ?_), fun record hfound ↦ ?_⟩
  · refine holds_iff_since (Accepts keyId secretHash) accepts_step_iff ?_
    rintro ⟨record, hrecord, -⟩
    cases hrecord
  · simpa using List.find?_some hfound

/-! ### The audit log -/

/-- What a section has done to the keys. -/
def changes (sha256 : List UInt8 → List UInt8) (world : World AuthState AuthTask) :
    Move AuthCommand (String × ℤ) → List AuditEvent
  | .begin command => ((world.shared.begin_ sha256 command).2.toOption.map AuthTask.event).toList
  | .resume _ _ => []

/-- The id that is drawn for an entry is new to the log. -/
def Fresh (world : World AuthState AuthTask) : Move AuthCommand (String × ℤ) → Prop
  | .begin _ => True
  | .resume _ entry => world.shared.auditLog.lookup entry.1 = none

instance (world : World AuthState AuthTask) :
    (move : Move AuthCommand (String × ℤ)) → Decidable (Fresh world move)
  | .begin _ => isTrue trivial
  | .resume _ _ => inferInstanceAs (Decidable (_ = none))

/-- What the log says, beside what has still to be written into it. -/
def Accounts (world : World AuthState AuthTask) (done : List AuditEvent) : Prop :=
  (world.shared.auditLog.values.map AuditLogEntry.toAuditEvent ++
    world.pending.map AuthTask.event).Perm done

/-- A new entry is one more. -/
theorem values_append {log : AuditLog} {entry : AuditLogEntry} (hnew : log.lookup entry.id = none) :
    (log.append entry).values = entry :: log.values := by
  have hentries : (log.insert entry.id entry).entries = ⟨entry.id, entry⟩ :: log.entries :=
    AList.entries_insert_of_notMem (AList.lookup_eq_none.mp hnew)
  rw [AuditLog.append, AuditLog.values, hentries]
  rfl

/-- A section that draws new ids accounts for what it does to the keys. -/
theorem accounts_step {sha256 : List UInt8 → List UInt8} {world : World AuthState AuthTask}
    {done : List AuditEvent} {move : Move AuthCommand (String × ℤ)}
    (haccounts : Accounts world done) (hfresh : Fresh world move) :
    Accounts ((protocol sha256).step world move) (done ++ changes sha256 world move) := by
  cases move with
  | begin command =>
    have hlog : (world.shared.begin_ sha256 command).1.auditLog = world.shared.auditLog := by
      cases command with
      | createKey params random now =>
        simp only [begin_]
        cases generateApiSecret random with
        | error error => rfl
        | ok secret =>
          dsimp only
          split <;> rfl
      | revokeKey keyId =>
        simp only [begin_]
        split <;> rfl
    simp only [Accounts, Protocol.step, protocol, changes, hlog]
    cases (world.shared.begin_ sha256 command).2.toOption with
    | none => simpa [Accounts] using haccounts
    | some task =>
      simp only [Option.toList_some, List.map_append, List.map_cons, List.map_nil, Option.map_some]
      rw [← List.append_assoc]
      exact haccounts.append_right _
  | resume index entry =>
    rw [changes, List.append_nil]
    cases htask : world.pending[index]? with
    | none =>
      rw [Protocol.step_resume_of_none _ entry htask]
      exact haccounts
    | some task =>
      rw [Protocol.step_resume_of_some _ entry htask]
      simp only [Accounts, protocol, audit, Option.toList_none, List.append_nil]
      have hnew : world.shared.auditLog.lookup
          (AuditLogEntry.mk task.event entry.1 entry.2).id = none := hfresh
      rw [values_append hnew, List.map_cons, List.cons_append]
      refine List.Perm.trans ?_ haccounts
      refine List.perm_middle.symm.trans (List.Perm.append_left _ ?_)
      exact (Protocol.perm_cons_eraseIdx htask).map AuthTask.event

/-- When the ids that are drawn are new, the audit log has one entry for each key that has been
created or revoked, and no other, but for those whose command has still to write it: when no command
is on its way, the log tells exactly what has been done. -/
theorem audit_complete (sha256 : List UInt8 → List UInt8)
    (moves : List (Move AuthCommand (String × ℤ)))
    (hfresh : Throughout (protocol sha256).step Fresh start moves) :
    let world := moves.foldl (protocol sha256).step start
    (world.shared.auditLog.values.map AuditLogEntry.toAuditEvent ++
        world.pending.map AuthTask.event).Perm
      (outputs (protocol sha256).step (changes sha256) start moves) :=
  invariant_outputs_of_throughout Accounts (changes sha256) (List.Perm.refl _)
    (fun _ _ _ haccounts hmove ↦ accounts_step haccounts hmove) hfresh

/-- SHA-256 of the secret of thirty-two sevens. -/
def sevensDigest (_ : List UInt8) : List UInt8 :=
  leBytes 32 0x5499dd8bda82f3415a6fc2ac055531ed41859f4a1f3b8d61f2b8d0aefdc06719

/-- A key is created and revoked before the audit log hears of either; a second key with the same
secret is refused, since it would have the same id. -/
def overtakenMoves : List (Move AuthCommand (String × ℤ)) :=
  let create := AuthCommand.createKey ⟨"ci", none, []⟩ (some (List.replicate 32 7))
  [.begin (create 1), .begin (create 2), .begin (.revokeKey "claw-070707070707"),
    .resume 1 ("a", 3), .resume 0 ("b", 4)]

/-- The log tells of one creation and one revocation. -/
theorem audit_complete_overtaken :
    let world := overtakenMoves.foldl (protocol sevensDigest).step start
    (world.shared.auditLog.values.map AuditLogEntry.toAuditEvent ++
        world.pending.map AuthTask.event).Perm
      (outputs (protocol sevensDigest).step (changes sevensDigest) start overtakenMoves) :=
  audit_complete sevensDigest overtakenMoves (by decide +kernel)

end AuthState

/-! ### Queries -/

/-- A query gives as many of the entries that it selects as its limit admits, the newest first, and
none that it does not give is newer than one that it gives. -/
theorem query_newest (log : AuditLog) (actor action : Option String) (limit : ℕ) :
    let results := log.query actor action limit
    let selected := log.values.filter (AuditLog.selects actor action)
    results.length = min limit selected.length ∧
      results.Pairwise (fun first second ↦ second.timestamp ≤ first.timestamp) ∧
      ∃ rest, (results ++ rest).Perm selected ∧
        ∀ given ∈ results, ∀ other ∈ rest, other.timestamp ≤ given.timestamp := by
  intro results selected
  let sorted := stableSort (fun entry : AuditLogEntry ↦ -entry.timestamp) selected
  have hperm : sorted.Perm selected := perm_stableSort selected
  have hresults : results = sorted.take limit := rfl
  have hsorted : sorted.Pairwise fun first second ↦ second.timestamp ≤ first.timestamp := by
    have hkeys : SortedBy (fun entry : AuditLogEntry ↦ -entry.timestamp) sorted :=
      sortedBy_stableSort selected
    exact hkeys.imp fun hle ↦ neg_le_neg_iff.mp hle
  rw [← List.take_append_drop limit sorted, List.pairwise_append] at hsorted
  refine ⟨?_, hsorted.1, sorted.drop limit, ?_, hsorted.2.2⟩
  · rw [hresults, List.length_take, hperm.length_eq]
  · rw [hresults, List.take_append_drop]
    exact hperm

end Clawbernetes.ClawNode
