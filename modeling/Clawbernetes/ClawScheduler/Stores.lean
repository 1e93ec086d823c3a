import Clawbernetes.ClawScheduler.SnapshotStore
import Clawbernetes.Library.Bytes
import Clawbernetes.Library.SortedInsert

/-!
# Jobs, crons, namespaces and the audit log

The other stores of `claw-scheduler`. `JobStore` and `CronStore` are stores with a state file and
nothing else. `NamespaceStore` keeps the taints of the node beside its namespaces, in memory only:
`new` starts with none. `AuditStore` keeps a list and saves it as a map from positions to entries;
`new` throws the positions away and sorts the entries by their timestamps.

`NamespaceStore.transparent_iff` and `AuditStore.transparent_iff` say when a store opened from the
file cannot be told from the one that was closed.
-/

set_option autoImplicit false
set_option relaxedAutoImplicit false

namespace Clawbernetes.ClawScheduler

open Library.Bytes Library.FiniteTable Library.SortedInsert ClawPersist

/-- `JobEntry`. -/
structure JobEntry where
  name : String
  image : String
  command : List String
  completions : UInt32
  completed : UInt32
  failed : UInt32
  parallelism : UInt32
  backoffLimit : UInt32
  containerIds : List String
  state : String
  createdAt : ℤ
  finishedAt : Option ℤ
  deriving DecidableEq

/-- `JobStore`. -/
abbrev JobStore := SnapshotStore JobEntry

/-- `CronEntry`. -/
structure CronEntry where
  name : String
  schedule : String
  image : String
  command : List String
  suspended : Bool
  lastRun : Option ℤ
  nextRun : Option ℤ
  createdAt : ℤ
  deriving DecidableEq

/-- `CronStore`. -/
abbrev CronStore := SnapshotStore CronEntry

/-- `ResourceQuota`. -/
structure ResourceQuota where
  maxCpu : Option ℚ
  maxMemoryMb : Option UInt64
  maxGpus : Option UInt32
  maxStorageGb : Option UInt64
  deriving DecidableEq

/-- `NamespaceEntry`. -/
structure NamespaceEntry where
  name : String
  quotas : ResourceQuota
  labels : Table String String
  createdAt : ℤ

/-- `TaintEntry`. -/
structure TaintEntry where
  key : String
  value : String
  effect : String
  deriving DecidableEq

/-! ### Namespaces and taints -/

/-- `NamespaceStore`. -/
structure NamespaceStore where
  namespaces : SnapshotStore NamespaceEntry
  taints : List TaintEntry

namespace NamespaceStore

/-- `NamespaceStore::new`: the store opened from the state file of another. -/
def opened (store : NamespaceStore) (loaded : Table String NamespaceEntry) : NamespaceStore where
  namespaces := store.namespaces.opened loaded
  taints := []

/-- Every store opened from the state file has the namespaces and the taints of the store. -/
def Transparent (store : NamespaceStore) : Prop :=
  ∀ loaded, SameRecords loaded store.namespaces.saved →
    (∀ name, (store.opened loaded).namespaces.get name = store.namespaces.get name) ∧
      (store.opened loaded).taints = store.taints

/-- The namespaces survive a restart as in every store, and no taint survives. -/
theorem transparent_iff (store : NamespaceStore) :
    store.Transparent ↔ store.namespaces.Transparent ∧ store.taints = [] := by
  constructor
  · intro htransparent
    exact ⟨fun loaded hsame ↦ (htransparent loaded hsame).1,
      (htransparent store.namespaces.saved (List.Perm.refl _)).2.symm⟩
  · rintro ⟨hnamespaces, htaints⟩ loaded hsame
    exact ⟨hnamespaces loaded hsame, htaints.symm⟩

end NamespaceStore

/-! ### The audit log -/

/-- `AuditEntry`. -/
structure AuditEntry where
  principal : String
  action : String
  resource : String
  result : String
  timestamp : ℤ
  deriving DecidableEq

/-- `AuditStore`: the entries in memory, beside the map of the last snapshot. -/
structure AuditStore where
  entries : List AuditEntry
  saved : Table String AuditEntry

namespace AuditStore

/-- The values of the saved map. -/
def savedValues (store : AuditStore) : List AuditEntry :=
  store.saved.entries.map fun entry ↦ entry.2

/-- `AuditStore::new`: the store opened from the state file of another, when `values` is the order
in which the loaded map is gone through. -/
def opened (store : AuditStore) (values : List AuditEntry) : AuditStore :=
  { store with entries := stableSort AuditEntry.timestamp values }

/-- `AuditStore::snapshot`, when the save succeeds: the entries under the decimal texts of their
positions. -/
def snapshot (store : AuditStore) : AuditStore :=
  { store with
    saved := collect (store.entries.zipIdx.map fun item ↦ (toString item.2, item.1)) }

/-- `AuditStore::record`. -/
def record (store : AuditStore) (entry : AuditEntry) : AuditStore :=
  { store with entries := store.entries ++ [entry] }.snapshot

/-- Every store opened from the state file has the entries of the store in their order, whichever
way the loaded map is gone through. -/
def Transparent (store : AuditStore) : Prop :=
  ∀ values : List AuditEntry, values.Perm store.savedValues →
    (store.opened values).entries = store.entries

/-- The entries are in the order of their timestamps, and no two different ones share theirs. -/
def InOrder (entries : List AuditEntry) : Prop :=
  SortedBy AuditEntry.timestamp entries ∧
    ∀ first ∈ entries, ∀ second ∈ entries, first.timestamp = second.timestamp → first = second

/-- A snapshot saves all entries. -/
theorem perm_savedValues_snapshot (store : AuditStore) :
    store.snapshot.savedValues.Perm store.entries := by
  have hkeys : ((store.entries.zipIdx.map fun item ↦ (toString item.2, item.1)).map
      Prod.fst).Nodup := by
    rw [List.map_map]
    change (store.entries.zipIdx.map fun item ↦ toString item.2).Nodup
    rw [show (fun item : AuditEntry × ℕ ↦ toString item.2) = toString ∘ Prod.snd from rfl,
      ← List.map_map, List.zipIdx_map_snd]
    exact List.Nodup.map (fun _ _ hsame ↦ decimal_inj hsame) List.nodup_range'
  have hperm := (perm_entries_collect hkeys).map fun entry ↦ entry.2
  rw [List.map_map, List.map_map] at hperm
  refine hperm.trans (.of_eq ?_)
  change store.entries.zipIdx.map Prod.fst = store.entries
  exact List.zipIdx_map_fst 0 store.entries

/-- A store is transparent if and only if its file has its entries and they are in the order of
their timestamps, without ties between different ones. -/
theorem transparent_iff (store : AuditStore) :
    store.Transparent ↔ store.savedValues.Perm store.entries ∧ InOrder store.entries := by
  constructor
  · intro htransparent
    have hsaved : store.savedValues.Perm store.entries := by
      rw [← htransparent store.savedValues (List.Perm.refl _)]
      exact (perm_stableSort store.savedValues).symm
    exact ⟨hsaved, stableSort_arrangements_iff.mp fun values hvalues ↦
      htransparent values (hvalues.trans hsaved.symm)⟩
  · rintro ⟨hsaved, horder⟩ values hvalues
    exact stableSort_arrangements_iff.mpr horder values (hvalues.trans hsaved)

/-- A store that was never written to is transparent. -/
theorem transparent_empty : (⟨[], ∅⟩ : AuditStore).Transparent :=
  (transparent_iff _).mpr ⟨List.Perm.refl _, List.Pairwise.nil, nofun⟩

/-- An entry continues a log: no entry of the log is later, and one of the same time is the same. -/
def Continues (entries : List AuditEntry) (entry : AuditEntry) : Prop :=
  ∀ earlier ∈ entries, earlier.timestamp ≤ entry.timestamp ∧
    (earlier.timestamp = entry.timestamp → earlier = entry)

/-- A log with one entry more is in order if and only if the log was and the entry continues it. -/
theorem inOrder_concat_iff (entries : List AuditEntry) (entry : AuditEntry) :
    InOrder (entries ++ [entry]) ↔ InOrder entries ∧ Continues entries entry := by
  unfold InOrder SortedBy
  rw [List.pairwise_append]
  constructor
  · rintro ⟨⟨hsorted, -, hlast⟩, hties⟩
    have hold : ∀ earlier ∈ entries, earlier ∈ entries ++ [entry] :=
      fun earlier hmem ↦ List.mem_append_left [entry] hmem
    have hnew : entry ∈ entries ++ [entry] := by simp
    refine ⟨⟨hsorted, fun first hfirst second hsecond ↦
      hties first (hold first hfirst) second (hold second hsecond)⟩, fun earlier hearlier ↦ ?_⟩
    exact ⟨hlast earlier hearlier entry (List.mem_singleton_self entry),
      hties earlier (hold earlier hearlier) entry hnew⟩
  · rintro ⟨⟨hsorted, hties⟩, hcontinues⟩
    refine ⟨⟨hsorted, List.pairwise_singleton _ _, fun earlier hearlier last hlast ↦ ?_⟩, ?_⟩
    · obtain rfl := List.mem_singleton.mp hlast
      exact (hcontinues earlier hearlier).1
    · intro first hfirst second hsecond hsame
      rw [List.mem_append, List.mem_singleton] at hfirst hsecond
      rcases hfirst with hfirst | rfl <;> rcases hsecond with hsecond | rfl
      · exact hties first hfirst second hsecond hsame
      · exact (hcontinues first hfirst).2 hsame
      · exact ((hcontinues second hsecond).2 hsame.symm).symm
      · rfl

/-- A transparent store stays transparent if and only if the recorded entry continues the log. -/
theorem transparent_record_iff {store : AuditStore} (htransparent : store.Transparent)
    (entry : AuditEntry) :
    (store.record entry).Transparent ↔ Continues store.entries entry := by
  have horder := ((transparent_iff store).mp htransparent).2
  rw [transparent_iff]
  change _ ∧ InOrder (store.entries ++ [entry]) ↔ _
  rw [inOrder_concat_iff]
  constructor
  · exact fun hafter ↦ hafter.2.2
  · exact fun hcontinues ↦ ⟨perm_savedValues_snapshot _, horder, hcontinues⟩

end AuditStore

end Clawbernetes.ClawScheduler
