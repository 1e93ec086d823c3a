import Clawbernetes.ClawNode.Stores
import Clawbernetes.ClawPersist.JsonStore

/-!
# Stores with a state file

The stores of `claw-scheduler` keep records by name in memory and write the whole map to their state
file by `snapshot`, which `create`, `delete` and `update` call. `get_mut` hands out a reference
instead, and what is written through it reaches the file with the next snapshot only.

A save may fail, which is logged and leaves the file as it was. The file is represented by the map
that was saved last: what `JsonStore::load` reads back is that map up to the order of its entries
(`ClawPersist.load_complete`), and `opened` is the store `new` makes of it. A store is `Transparent`
when every store that can be opened from its file has the records it has.
-/

set_option autoImplicit false
set_option relaxedAutoImplicit false

namespace Clawbernetes.ClawScheduler

open Library.FiniteTable ClawNode ClawPersist

/-- The records of a store in memory, beside the map of its last snapshot. -/
structure SnapshotStore (Record : Type*) where
  records : Table String Record
  saved : Table String Record

namespace SnapshotStore

variable {Record : Type*}

/-- A store whose state file does not exist yet. -/
def fresh : SnapshotStore Record := ⟨∅, ∅⟩

/-- `new`: the store opened from the state file of another, when `loaded` is what is read. -/
def opened (store : SnapshotStore Record) (loaded : Table String Record) : SnapshotStore Record :=
  { store with records := loaded }

/-- `get`. -/
def get (store : SnapshotStore Record) (name : String) : Option Record :=
  store.records.lookup name

/-- `snapshot`, and `update`, which is a snapshot after a mutation from outside, when the save
succeeds or not. -/
def snapshot (saves : Bool) (store : SnapshotStore Record) : SnapshotStore Record :=
  if saves then { store with saved := store.records } else store

/-- `create`, for records of a kind. -/
def create (saves : Bool) (kind : String) (store : SnapshotStore Record) (name : String)
    (record : Record) : Except String Unit × SnapshotStore Record :=
  match createRecord kind store.records name record with
  | (.error message, _) => (.error message, store)
  | (.ok (), records) => (.ok (), { store with records := records }.snapshot saves)

/-- `delete`, for records of a kind. -/
def delete (saves : Bool) (kind : String) (store : SnapshotStore Record) (name : String) :
    Except String Unit × SnapshotStore Record :=
  match deleteRecord kind store.records name with
  | (.error message, _) => (.error message, store)
  | (.ok (), records) => (.ok (), { store with records := records }.snapshot saves)

/-- What is written through the reference that `get_mut` hands out. -/
def mutate (store : SnapshotStore Record) (name : String) (change : Record → Record) :
    SnapshotStore Record :=
  match store.get name with
  | none => store
  | some record => { store with records := store.records.replace name (change record) }

/-- Every store opened from the state file has the records of the store. -/
def Transparent (store : SnapshotStore Record) : Prop :=
  ∀ loaded, SameRecords loaded store.saved → ∀ name, (store.opened loaded).get name = store.get name

/-! ### When a store is transparent -/

/-- A store is transparent if and only if its last snapshot has its records. -/
theorem transparent_iff (store : SnapshotStore Record) :
    store.Transparent ↔ ∀ name, store.saved.lookup name = store.get name := by
  constructor
  · intro htransparent
    exact htransparent store.saved (List.Perm.refl _)
  · intro hsaved loaded hsame name
    have hlookup : loaded.lookup name = store.saved.lookup name := AList.perm_lookup hsame
    exact hlookup.trans (hsaved name)

/-- A store is transparent after a snapshot that was saved. -/
theorem transparent_snapshot (store : SnapshotStore Record) : (store.snapshot true).Transparent :=
  (transparent_iff _).mpr fun _ ↦ rfl

/-- A store without a state file is transparent. -/
theorem transparent_fresh : (fresh : SnapshotStore Record).Transparent :=
  (transparent_iff _).mpr fun _ ↦ rfl

/-- A creation ends with a snapshot or changes nothing, so the store stays transparent when the save
succeeds. -/
theorem transparent_create {store : SnapshotStore Record} (htransparent : store.Transparent)
    (kind name : String) (record : Record) :
    (store.create true kind name record).2.Transparent := by
  unfold create
  rcases createRecord_cases kind store.records name record with
    ⟨_, hresult⟩ | ⟨_, hresult⟩ <;> rw [hresult]
  · exact htransparent
  · exact transparent_snapshot _

/-- A store that a creation returned is transparent. -/
theorem transparent_of_create {store after : SnapshotStore Record}
    (htransparent : store.Transparent) {kind name : String} {record : Record}
    {result : Except String Unit}
    (hcreated : store.create true kind name record = (result, after)) :
    after.Transparent := by
  have hcreate := transparent_create htransparent kind name record
  rwa [hcreated] at hcreate

/-- A deletion ends with a snapshot or changes nothing, so the store stays transparent when the save
succeeds. -/
theorem transparent_delete {store : SnapshotStore Record} (htransparent : store.Transparent)
    (kind name : String) : (store.delete true kind name).2.Transparent := by
  unfold delete deleteRecord
  cases store.records.lookup name with
  | none => exact htransparent
  | some record => exact transparent_snapshot _

/-- A mutation does not reach the state file: the store stays transparent if and only if the record
is left as it was. -/
theorem transparent_mutate_iff {store : SnapshotStore Record} (htransparent : store.Transparent)
    (name : String) (change : Record → Record) :
    (store.mutate name change).Transparent ↔
      ∀ record, store.get name = some record → change record = record := by
  unfold mutate
  cases hfound : store.get name with
  | none => exact iff_of_true htransparent nofun
  | some record =>
    have hmem : name ∈ store.records := AList.lookup_isSome.mp (by
      change (store.get name).isSome = true
      rw [hfound]
      rfl)
    rw [transparent_iff] at htransparent ⊢
    constructor
    · intro hafter _ hsame
      obtain rfl := Option.some_inj.mp hsame
      have hnow := (htransparent name).symm.trans (hafter name)
      change store.get name = (store.records.replace name (change record)).lookup name at hnow
      rw [lookup_replace hmem, hfound] at hnow
      exact (Option.some_inj.mp hnow).symm
    · intro hunchanged other
      change store.saved.lookup other =
        (store.records.replace name (change record)).lookup other
      rw [hunchanged record rfl, replace_self hfound]
      exact htransparent other

end SnapshotStore

end Clawbernetes.ClawScheduler
