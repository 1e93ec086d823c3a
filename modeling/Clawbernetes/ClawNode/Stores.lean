import Clawbernetes.Library.FiniteTable

/-!
# The stores of a node

What the stores of `claw-persist`, `claw-deploy`, `claw-autoscaler`, `claw-storage`, `claw-secrets`
and `claw-ingress` have in common: records by name, which are created under a name that is not
taken, found by name and deleted. Every change is written to a file; an error of that is only
logged, so the file is not part of the state.
-/

set_option autoImplicit false
set_option relaxedAutoImplicit false

namespace Clawbernetes.ClawNode

open Library.FiniteTable

variable {Record : Type*}

/-- The error of a store for a name that is taken. -/
def alreadyExists (kind name : String) : String := kind ++ " '" ++ name ++ "' already exists"

/-- The error of a command for a name that is not in the store. -/
def notFound (kind name : String) : String := kind ++ " '" ++ name ++ "' not found"

/-- `create` of a store, for records of a kind. -/
def createRecord (kind : String) (records : Table String Record) (name : String)
    (record : Record) : Except String Unit × Table String Record :=
  if (records.lookup name).isSome then (.error (alreadyExists kind name), records)
  else (.ok (), records.insert name record)

/-- A record is not created when its name is taken, and stored under a new name. -/
theorem createRecord_cases (kind : String) (records : Table String Record) (name : String)
    (record : Record) :
    (records.lookup name).isSome ∧
        createRecord kind records name record = (.error (alreadyExists kind name), records) ∨
      records.lookup name = none ∧
        createRecord kind records name record = (.ok (), records.insert name record) := by
  unfold createRecord
  split_ifs with hknown
  · exact .inl ⟨hknown, rfl⟩
  · exact .inr ⟨by simpa using hknown, rfl⟩

/-- `delete` of a store, for records of a kind. -/
def deleteRecord (kind : String) (records : Table String Record) (name : String) :
    Except String Unit × Table String Record :=
  match records.lookup name with
  | none => (.error (notFound kind name), records)
  | some _ => (.ok (), records.erase name)

/-- A record is not deleted when there is none, and erased when there is one. -/
theorem deleteRecord_cases (kind : String) (records : Table String Record) (name : String) :
    records.lookup name = none ∧
        deleteRecord kind records name = (.error (notFound kind name), records) ∨
      (records.lookup name).isSome ∧
        deleteRecord kind records name = (.ok (), records.erase name) := by
  unfold deleteRecord
  cases records.lookup name with
  | none => exact .inl ⟨rfl, rfl⟩
  | some record => exact .inr ⟨rfl, rfl⟩

/-- A record is deleted when there is one, and the others stay. -/
theorem lookup_deleteRecord (kind : String) (records : Table String Record) (name other : String) :
    (deleteRecord kind records name).2.lookup other =
      if other = name then none else records.lookup other := by
  unfold deleteRecord
  by_cases hother : other = name
  · subst hother
    rw [if_pos rfl]
    cases hlookup : records.lookup other with
    | none => exact hlookup
    | some record => exact AList.lookup_erase other records
  · rw [if_neg hother]
    cases records.lookup name with
    | none => rfl
    | some record => exact AList.lookup_erase_ne hother

end Clawbernetes.ClawNode
