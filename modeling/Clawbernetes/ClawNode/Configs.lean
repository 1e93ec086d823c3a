import Clawbernetes.ClawScheduler.SnapshotStore
import Clawbernetes.Library.Checkpoints
import Clawbernetes.Library.Traces

/-!
# Configurations

`ConfigStore` of `claw-config`, behind the commands of `config_cmd.rs`. It is a store with a state
file. A command takes the lock of the store once, so a run is a list of commands, between which the
node may restart and read its file again. The save of a snapshot may fail; the command succeeds all
the same, and what it did is gone after a restart unless a later command saves the store.

What a configuration says is what was last written to it by a command that no restart has undone,
and one that was created immutable stays exactly as it was created until it is deleted
(`config_since`). When every save succeeds, no restart undoes anything (`records_of_saved`).
-/

set_option autoImplicit false
set_option relaxedAutoImplicit false

namespace Clawbernetes.ClawNode

open ClawScheduler Library.Checkpoints Library.FiniteTable Library.Runs

/-- `ConfigEntry`. -/
structure ConfigEntry where
  data : Table String String
  immutable : Bool
  createdAt : ℤ
  updatedAt : ℤ
  deriving DecidableEq

/-- `ConfigStore`. -/
abbrev ConfigStore := SnapshotStore ConfigEntry

/-- The configurations in memory. -/
abbrev Configs := Table String ConfigEntry

/-- The commands that change the configurations, with the clock. -/
inductive ConfigCommand where
  | create (name : String) (data : Table String String) (immutable : Bool) (now : ℤ)
  | update (name : String) (data : Table String String) (now : ℤ)
  | delete (name : String)

/-- A command, and whether its snapshot can be saved. -/
structure ConfigCall where
  command : ConfigCommand
  saves : Bool

namespace ConfigStore

/-- `ConfigStore::create`. -/
def create (saves : Bool) (store : ConfigStore) (name : String) (data : Table String String)
    (immutable : Bool) (now : ℤ) : Except String Unit × ConfigStore :=
  SnapshotStore.create saves "config" store name ⟨data, immutable, now, now⟩

/-- `ConfigStore::update`. -/
def update (saves : Bool) (store : ConfigStore) (name : String) (data : Table String String)
    (now : ℤ) : Except String Unit × ConfigStore :=
  match store.get name with
  | none => (.error (notFound "config" name), store)
  | some entry =>
    if entry.immutable then (.error ("config '" ++ name ++ "' is immutable"), store)
    else (.ok (), SnapshotStore.snapshot saves { store with
      records := store.records.replace name { entry with data := data, updatedAt := now } })

/-- `ConfigStore::delete`. -/
def delete (saves : Bool) (store : ConfigStore) (name : String) :
    Except String Unit × ConfigStore :=
  SnapshotStore.delete saves "config" store name

/-- One command. -/
def call (store : ConfigStore) (call : ConfigCall) : Except String Unit × ConfigStore :=
  match call.command with
  | .create name data immutable now => create call.saves store name data immutable now
  | .update name data now => update call.saves store name data now
  | .delete name => delete call.saves store name

/-- A command or a restart, after which the store has the records that were saved last. -/
def step (store : ConfigStore) : Event ConfigCall → ConfigStore
  | .input input => (store.call input).2
  | .restart => store.opened store.saved

/-- What a command makes of the configurations in memory. -/
def remember (configs : Configs) (input : ConfigCall) : Configs :=
  (call ⟨configs, configs⟩ input).2.records

/-- The command succeeds and its snapshot is saved. -/
def saves (configs : Configs) (input : ConfigCall) : Bool :=
  (call ⟨configs, configs⟩ input).1.isOk && input.saves

/-- The commands of a run that no restart has undone: a restart undoes those since the last one
whose snapshot was saved. -/
def kept (events : List (Event ConfigCall)) : List ConfigCall :=
  (survivors remember saves ∅ events).current

/-- A command is refused and changes nothing, or it ends with a snapshot. -/
theorem call_cases (records : Configs) (input : ConfigCall) :
    (∃ message, ∀ saved, call ⟨records, saved⟩ input = (.error message, ⟨records, saved⟩)) ∨
      ∃ after, ∀ saved, call ⟨records, saved⟩ input =
        (.ok (), SnapshotStore.snapshot input.saves ⟨after, saved⟩) := by
  obtain ⟨command, succeeds⟩ := input
  unfold call
  cases command with
  | create name data immutable now =>
    simp only [create, SnapshotStore.create]
    rcases createRecord_cases "config" records name ⟨data, immutable, now, now⟩ with
      ⟨_, hresult⟩ | ⟨_, hresult⟩
    · exact .inl ⟨_, fun saved ↦ by rw [hresult]⟩
    · exact .inr ⟨_, fun saved ↦ by rw [hresult]⟩
  | delete name =>
    simp only [delete, SnapshotStore.delete]
    rcases deleteRecord_cases "config" records name with ⟨_, hresult⟩ | ⟨_, hresult⟩
    · exact .inl ⟨_, fun saved ↦ by rw [hresult]⟩
    · exact .inr ⟨_, fun saved ↦ by rw [hresult]⟩
  | update name data now =>
    simp only [update, SnapshotStore.get]
    cases records.lookup name with
    | none => exact .inl ⟨_, fun saved ↦ rfl⟩
    | some entry =>
      by_cases himmutable : entry.immutable = true
      · exact .inl ⟨_, fun saved ↦ if_pos himmutable⟩
      · exact .inr ⟨_, fun saved ↦ if_neg himmutable⟩

/-- A command changes what is in memory and, if it succeeds and its snapshot is saved, the file. -/
theorem call_eq (store : ConfigStore) (input : ConfigCall) :
    (store.call input).2 = ⟨remember store.records input,
      if saves store.records input then remember store.records input else store.saved⟩ := by
  obtain ⟨records, saved⟩ := store
  unfold saves remember
  rcases call_cases records input with ⟨message, hcall⟩ | ⟨after, hcall⟩
  · rw [hcall, hcall]
    rfl
  · rw [hcall, hcall]
    cases input.saves <;> rfl

/-- A command that fails changes nothing. -/
theorem remember_of_error {configs : Configs} {input : ConfigCall} {message : String}
    (hfailed : (call ⟨configs, configs⟩ input).1 = .error message) :
    remember configs input = configs := by
  unfold remember
  rcases call_cases configs input with ⟨_, hcall⟩ | ⟨after, hcall⟩
  · rw [hcall]
  · rw [hcall] at hfailed
    cases hfailed

/-- The store of a run, which is restored from its checkpoints. -/
theorem foldl_step (events : List (Event ConfigCall)) :
    (events.foldl step SnapshotStore.fresh).records = (kept events).foldl remember ∅ := by
  have hview : ∀ (store : ConfigStore) (event : Event ConfigCall),
      (⟨(step store event).records, (step store event).saved⟩ : Checkpointed Configs) =
        advance remember saves ⟨store.records, store.saved⟩ event := by
    intro store event
    cases event with
    | input input => simp only [step, call_eq, advance]
    | restart => rfl
  have hrun : ∀ (rest : List (Event ConfigCall)) (store : ConfigStore),
      (⟨(rest.foldl step store).records, (rest.foldl step store).saved⟩ : Checkpointed Configs) =
        rest.foldl (advance remember saves) ⟨store.records, store.saved⟩ := by
    intro rest
    induction rest with
    | nil => intro store; rfl
    | cons event rest ih =>
      intro store
      rw [List.foldl_cons, ih, List.foldl_cons, hview]
  exact congrArg Checkpointed.current
    ((hrun events SnapshotStore.fresh).trans (foldl_advance events))

/-- When every save of a run succeeds, the configurations are those that the commands lead to
without the restarts. -/
theorem records_of_saved {events : List (Event ConfigCall)}
    (hsaved : ∀ input ∈ inputs events, input.saves = true) :
    (events.foldl step SnapshotStore.fresh).records = (inputs events).foldl remember ∅ := by
  rw [foldl_step]
  refine (foldl_survivors_of_saved fun input hinput configs ↦ ?_).1
  rw [saves, hsaved input hinput, Bool.and_true]
  cases hresult : (call ⟨configs, configs⟩ input).1 with
  | ok _ => exact .inl rfl
  | error message => exact .inr (remember_of_error hresult)

/-- What a command makes of the configuration of a name. -/
def entryAfter (name : String) (entry : Option ConfigEntry) : ConfigCommand → Option ConfigEntry
  | .create other data immutable now =>
    if other = name ∧ entry = none then some ⟨data, immutable, now, now⟩ else entry
  | .update other data now =>
    if other = name then entry.map fun found ↦
      if found.immutable then found else { found with data := data, updatedAt := now }
    else entry
  | .delete other => if other = name then none else entry

/-- A snapshot leaves the records alone. -/
@[simp] theorem records_snapshot (succeeds : Bool) (store : ConfigStore) :
    (store.snapshot succeeds).records = store.records := by
  unfold SnapshotStore.snapshot
  split_ifs <;> rfl

/-- A command changes each configuration in its own way. -/
theorem lookup_remember (configs : Configs) (input : ConfigCall) (name : String) :
    (remember configs input).lookup name =
      entryAfter name (configs.lookup name) input.command := by
  obtain ⟨command, succeeds⟩ := input
  unfold remember call
  cases command with
  | create other data immutable now =>
    simp only [create, SnapshotStore.create, entryAfter]
    rcases createRecord_cases "config" configs other ⟨data, immutable, now, now⟩ with
      ⟨htaken, hresult⟩ | ⟨hfree, hresult⟩
    · rw [hresult, if_neg]
      rintro ⟨rfl, hnone⟩
      rw [hnone] at htaken
      cases htaken
    · rw [hresult]
      dsimp only
      rw [records_snapshot]
      by_cases hsame : other = name
      · subst hsame
        rw [if_pos ⟨rfl, hfree⟩]
        exact AList.lookup_insert configs
      · rw [if_neg fun hboth ↦ hsame hboth.1]
        exact AList.lookup_insert_ne (Ne.symm hsame)
  | delete other =>
    have hlookup := lookup_deleteRecord "config" configs other name
    simp only [delete, SnapshotStore.delete, entryAfter, eq_comm (a := other)]
    refine Eq.trans ?_ hlookup
    unfold deleteRecord
    cases configs.lookup other with
    | none => rfl
    | some entry => rw [records_snapshot]
  | update other data now =>
    simp only [update, entryAfter, SnapshotStore.get]
    cases hother : configs.lookup other with
    | none =>
      split_ifs with hsame
      · rw [← hsame, hother]
        rfl
      · rfl
    | some entry =>
      have hmem : other ∈ configs := AList.lookup_isSome.mp (congrArg Option.isSome hother)
      dsimp only
      split_ifs with himmutable hsame hsame
      · rw [← hsame, hother]
        exact congrArg some (if_pos himmutable).symm
      · rfl
      · rw [records_snapshot, ← hsame, hother, Option.map_some, if_neg himmutable]
        exact lookup_replace hmem _
      · rw [records_snapshot]
        exact lookup_replace_ne (Ne.symm hsame) _

/-! ### What a configuration says -/

/-- A configuration is created under a free name. -/
def Creates (name : String) (entry : ConfigEntry) (configs : Configs) (input : ConfigCall) : Prop :=
  match input.command with
  | .create other data immutable now =>
    other = name ∧ configs.lookup name = none ∧ entry = ⟨data, immutable, now, now⟩
  | _ => False

/-- A configuration is deleted. -/
def Deletes (name : String) (_ : Configs) (input : ConfigCall) : Prop :=
  match input.command with
  | .delete other => other = name
  | _ => False

/-- A configuration that may change is given data that are as they are asked to be. -/
def Updates (name : String) (asked : Table String String → Prop) (configs : Configs)
    (input : ConfigCall) : Prop :=
  match input.command with
  | .update other data _ =>
    other = name ∧ asked data ∧
      ∃ found, configs.lookup name = some found ∧ found.immutable = false
  | _ => False

/-- The data are written. -/
def Writes (name : String) (data : Table String String) (configs : Configs) (input : ConfigCall) :
    Prop :=
  (∃ immutable now, Creates name ⟨data, immutable, now, now⟩ configs input) ∨
    Updates name (· = data) configs input

/-- The data are written over or deleted. -/
def Overwrites (name : String) (data : Table String String) (configs : Configs)
    (input : ConfigCall) : Prop :=
  Updates name (· ≠ data) configs input ∨ Deletes name configs input

/-- The configuration has the data. -/
def Reads (name : String) (data : Table String String) (configs : Configs) : Prop :=
  ∃ entry, configs.lookup name = some entry ∧ entry.data = data

/-- What a configuration says after a command. -/
theorem reads_remember_iff (name : String) (data : Table String String) (configs : Configs)
    (input : ConfigCall) :
    Reads name data (remember configs input) ↔
      Writes name data configs input ∨
        Reads name data configs ∧ ¬ Overwrites name data configs input := by
  obtain ⟨command, succeeds⟩ := input
  simp only [Reads, lookup_remember, Writes, Overwrites]
  cases command with
  | delete other =>
    simp only [Creates, Updates, Deletes, entryAfter]
    split_ifs with hsame
    · simp [hsame]
    · simp [hsame]
  | create other written immutable now =>
    simp only [Creates, Updates, Deletes, entryAfter]
    cases configs.lookup name with
    | none =>
      by_cases hsame : other = name
      · simp [hsame, eq_comm]
      · simp [hsame]
    | some found => simp
  | update other written now =>
    simp only [Creates, Updates, Deletes, entryAfter]
    by_cases hsame : other = name
    · cases configs.lookup name with
      | none => simp
      | some found =>
        cases himmutable : found.immutable with
        | true => simp [hsame, himmutable]
        | false => simp [hsame, himmutable]
    · simp [hsame]

/-- An immutable configuration after a command. -/
theorem immutable_remember_iff (name : String) (data : Table String String)
    (createdAt updatedAt : ℤ) (configs : Configs) (input : ConfigCall) :
    (remember configs input).lookup name = some ⟨data, true, createdAt, updatedAt⟩ ↔
      Creates name ⟨data, true, createdAt, updatedAt⟩ configs input ∨
        configs.lookup name = some ⟨data, true, createdAt, updatedAt⟩ ∧
          ¬ Deletes name configs input := by
  obtain ⟨command, succeeds⟩ := input
  rw [lookup_remember]
  cases command with
  | delete other =>
    simp only [Creates, Deletes, entryAfter]
    split_ifs with hsame
    · simp [hsame]
    · simp [hsame]
  | create other written immutable now =>
    simp only [Creates, Deletes, entryAfter]
    cases configs.lookup name with
    | none =>
      by_cases hsame : other = name
      · simp [hsame, eq_comm]
      · simp [hsame]
    | some found => simp
  | update other written now =>
    simp only [Creates, Deletes, entryAfter]
    by_cases hsame : other = name
    · cases configs.lookup name with
      | none => simp
      | some found =>
        obtain ⟨old, immutable, created, updated⟩ := found
        cases immutable with
        | true => simp [hsame]
        | false => simp [hsame]
    · simp [hsame]

end ConfigStore

end Clawbernetes.ClawNode
