import Clawbernetes.ClawNode.Stores
import Clawbernetes.Library.Interleaving

/-!
# Volumes

`volume.create`, `volume.mount`, `volume.unmount` and `volume.delete` of `storage_cmd.rs`, on the
volumes of `claw-storage`. The first three hold the lock of the store throughout. A deletion checks
under the read lock that the volume is not bound, and removes it under the write lock; any command
may come between.

The state of a volume agrees with its container and mount path at all times. So no bound volume is
removed exactly as long as every removal finds its volume without a container and a mount path, and
it does as long as no volume is mounted that a deletion is about to remove (`bound_volumes_kept`).
-/

set_option autoImplicit false
set_option relaxedAutoImplicit false

namespace Clawbernetes.ClawNode

open Library.FiniteTable Library.Runs Library.Interleaving

/-- The state of a volume. -/
inductive VolumeState where
  | available
  | bound
  | released
  deriving DecidableEq

/-- `VolumeRecord`. -/
structure VolumeRecord where
  name : String
  volumeType : String
  hostPath : Option String
  size : Option String
  state : VolumeState
  boundTo : Option String
  mountPath : Option String
  createdAt : ℤ
  deriving DecidableEq

/-- `VolumeCreateParams`. -/
structure VolumeCreateParams where
  name : String
  volumeType : String := "emptydir"
  hostPath : Option String
  size : Option String

/-- `VolumeMountParams`. -/
structure VolumeMountParams where
  name : String
  containerId : String
  mountPath : String

/-- What a creation uses of the file system: the directory of an empty volume, and whether
directories can be made. -/
structure Directories where
  volumePath : String → String
  createDirAll : String → Except String Unit

namespace Volumes

/-- The volumes by name. -/
abbrev Store := Table String VolumeRecord

/-- The directory of a new volume. -/
def createdPath (directories : Directories) (params : VolumeCreateParams) :
    Except String (Option String) :=
  if params.volumeType = "hostpath" then
    match params.hostPath with
    | none => .error "hostPath required for hostpath volume type"
    | some path =>
      match directories.createDirAll path with
      | .error error => .error ("failed to create host path " ++ path ++ ": " ++ error)
      | .ok () => .ok (some path)
  else if params.volumeType = "emptydir" then
    match directories.createDirAll (directories.volumePath params.name) with
    | .error error => .error ("failed to create volume dir: " ++ error)
    | .ok () => .ok (some (directories.volumePath params.name))
  else .ok params.hostPath

/-- `handle_volume_create`. -/
def handleVolumeCreate (directories : Directories) (now : ℤ) (params : VolumeCreateParams)
    (store : Store) : Except String Unit × Store :=
  match createdPath directories params with
  | .error error => (.error error, store)
  | .ok hostPath => createRecord "volume" store params.name
      ⟨params.name, params.volumeType, hostPath, params.size, .available, none, none, now⟩

/-- `handle_volume_mount`. -/
def handleVolumeMount (params : VolumeMountParams) (store : Store) : Except String Unit × Store :=
  match store.lookup params.name with
  | none => (.error (notFound "volume" params.name), store)
  | some record =>
    if record.state = .bound then
      (.error ("volume '" ++ params.name ++ "' already bound to " ++
        record.boundTo.getD "unknown"), store)
    else (.ok (), store.replace params.name { record with
      state := .bound
      boundTo := some params.containerId
      mountPath := some params.mountPath })

/-- `handle_volume_unmount`. -/
def handleVolumeUnmount (name : String) (store : Store) : Except String Unit × Store :=
  match store.lookup name with
  | none => (.error (notFound "volume" name), store)
  | some record => (.ok (), store.replace name { record with
      state := .available
      boundTo := none
      mountPath := none })

/-- The first section of `handle_volume_delete`, under the read lock. -/
def checkNotBound (name : String) (store : Store) : Except String Unit :=
  match store.lookup name with
  | none => .ok ()
  | some record =>
    if record.state = .bound then
      .error ("volume '" ++ name ++ "' is currently bound, unmount first")
    else .ok ()

/-- The second section of `handle_volume_delete`, under the write lock. -/
def removeVolume (name : String) (store : Store) : Except String Unit × Store :=
  deleteRecord "volume" store name

/-- A command. -/
inductive Command where
  | create (params : VolumeCreateParams) (now : ℤ)
  | mount (params : VolumeMountParams)
  | unmount (name : String)
  | delete (name : String)

/-- The deletion of a volume that was not bound when it was checked. -/
structure Deletion where
  name : String
  deriving DecidableEq

/-- The sections of the commands. -/
def protocol (directories : Directories) : Protocol Store Deletion Command Unit where
  begin store
    | .create params now => ((handleVolumeCreate directories now params store).2, none)
    | .mount params => ((handleVolumeMount params store).2, none)
    | .unmount name => ((handleVolumeUnmount name store).2, none)
    | .delete name =>
      match checkNotBound name store with
      | .error _ => (store, none)
      | .ok () => (store, some ⟨name⟩)
  resume _ store deletion := ((removeVolume deletion.name store).2, none)

/-- No volumes, and no command on its way. -/
def start : World Store Deletion := ⟨∅, []⟩

/-! ### The fields of a volume -/

/-- The state of a volume agrees with its container and mount path. -/
def Agrees (record : VolumeRecord) : Prop :=
  (record.state = .bound ↔ record.boundTo.isSome) ∧
    (record.state = .bound ↔ record.mountPath.isSome)

/-- All volumes agree. -/
def Consistent (store : Store) : Prop :=
  ∀ name record, store.lookup name = some record → Agrees record

variable {directories : Directories} {store : Store} {name : String} {record : VolumeRecord}

/-- A mount fails and changes nothing, or binds a volume that is not bound. -/
theorem handleVolumeMount_cases (params : VolumeMountParams) (store : Store) :
    (handleVolumeMount params store).2 = store ∨
      ∃ record, store.lookup params.name = some record ∧ record.state ≠ .bound ∧
        (handleVolumeMount params store).2 = store.replace params.name { record with
          state := .bound
          boundTo := some params.containerId
          mountPath := some params.mountPath } := by
  unfold handleVolumeMount
  cases hlookup : store.lookup params.name with
  | none => exact .inl rfl
  | some record =>
    by_cases hbound : record.state = .bound
    · simp only [if_pos hbound]
      exact .inl trivial
    · simp only [if_neg hbound]
      exact .inr ⟨record, rfl, hbound, rfl⟩

/-- A creation fails and changes nothing, or stores an available volume under a new name. -/
theorem handleVolumeCreate_cases (directories : Directories) (now : ℤ)
    (params : VolumeCreateParams) (store : Store) :
    (handleVolumeCreate directories now params store).2 = store ∨
      ∃ hostPath, store.lookup params.name = none ∧
        (handleVolumeCreate directories now params store).2 = store.insert params.name
          ⟨params.name, params.volumeType, hostPath, params.size, .available, none, none, now⟩ := by
  unfold handleVolumeCreate
  cases createdPath directories params with
  | error error => exact .inl rfl
  | ok hostPath =>
    rcases createRecord_cases "volume" store params.name
        ⟨params.name, params.volumeType, hostPath, params.size, .available, none, none, now⟩ with
      ⟨-, hfails⟩ | ⟨hnew, hcreates⟩
    · exact .inl (congrArg Prod.snd hfails)
    · exact .inr ⟨hostPath, hnew, congrArg Prod.snd hcreates⟩

/-- The first section of every command keeps the volumes consistent. -/
theorem consistent_begin (hconsistent : Consistent store) (command : Command) :
    Consistent ((protocol directories).begin store command).1 := by
  cases command with
  | create params now =>
    change Consistent (handleVolumeCreate directories now params store).2
    rcases handleVolumeCreate_cases directories now params store with hsame | ⟨hostPath, -, hafter⟩
    · rw [hsame]
      exact hconsistent
    · rw [hafter]
      exact (forall_lookup_insert_iff hconsistent).mpr (by simp [Agrees])
  | mount params =>
    change Consistent (handleVolumeMount params store).2
    rcases handleVolumeMount_cases params store with hsame | ⟨record, hlookup, -, hafter⟩
    · rw [hsame]
      exact hconsistent
    · rw [hafter]
      exact (forall_lookup_replace_iff hlookup hconsistent).mpr (by simp [Agrees])
  | unmount name =>
    change Consistent (handleVolumeUnmount name store).2
    unfold handleVolumeUnmount
    cases hlookup : store.lookup name with
    | none => exact hconsistent
    | some record => exact (forall_lookup_replace_iff hlookup hconsistent).mpr (by simp [Agrees])
  | delete name =>
    simp only [protocol]
    cases checkNotBound name store with
    | error error => exact hconsistent
    | ok done => exact hconsistent

/-- The second section of a deletion keeps the volumes consistent. -/
theorem consistent_resume (hconsistent : Consistent store) (deletion : Deletion) :
    Consistent ((protocol directories).resume () store deletion).1 := by
  intro other found hfound
  change (removeVolume deletion.name store).2.lookup other = some found at hfound
  rw [removeVolume, lookup_deleteRecord] at hfound
  split_ifs at hfound
  exact hconsistent other found hfound

/-! ### Deletions and mounts -/

/-- No volume that a deletion is about to remove is bound. -/
def Unbound (store : Store) (deletions : List Deletion) : Prop :=
  ∀ deletion ∈ deletions, ∀ record, store.lookup deletion.name = some record → record.state ≠ .bound

/-- A mount of a volume that is not bound finds no deletion about to remove it. -/
def MountsKept (store : Store) (deletions : List Deletion) : Command → Prop
  | .mount params => ∀ record, store.lookup params.name = some record → record.state ≠ .bound →
      ⟨params.name⟩ ∉ deletions
  | .create _ _ => True
  | .unmount _ => True
  | .delete _ => True

/-- A deletion removes no bound volume. -/
def RemovesUnbound (store : Store) (_ : List Deletion) (deletion : Deletion) (_ : Unit) : Prop :=
  ∀ record, store.lookup deletion.name = some record → record.state ≠ .bound

/-- A deletion finds its volume without a container and a mount path when it removes it. -/
def FindsUnmounted (store : Store) (_ : List Deletion) (deletion : Deletion) (_ : Unit) : Prop :=
  ∀ record, store.lookup deletion.name = some record →
    record.boundTo = none ∧ record.mountPath = none

/-- A volume whose state agrees with its fields is not bound exactly when they are empty. -/
theorem Agrees.ne_bound_iff (hagrees : Agrees record) :
    record.state ≠ .bound ↔ record.boundTo = none ∧ record.mountPath = none := by
  have hcontainer := not_congr hagrees.1
  have hpath := not_congr hagrees.2
  rw [Option.not_isSome_iff_eq_none] at hcontainer hpath
  rw [← hcontainer, ← hpath, and_self]

/-- In a consistent store a removal is of a volume that is not bound exactly when it finds the
volume unmounted. -/
theorem removesUnbound_iff (hconsistent : Consistent store) (deletions : List Deletion)
    (deletion : Deletion) (choice : Unit) :
    RemovesUnbound store deletions deletion choice ↔
      FindsUnmounted store deletions deletion choice :=
  forall_congr' fun record ↦ forall_congr' fun hlookup ↦
    (hconsistent deletion.name record hlookup).ne_bound_iff

/-- The volumes that are about to be removed, volume by volume. -/
theorem unbound_iff_forall {deletions : List Deletion} :
    Unbound store deletions ↔ ∀ name record, store.lookup name = some record →
      (⟨name⟩ : Deletion) ∈ deletions → record.state ≠ .bound :=
  ⟨fun hunbound name record hlookup hpending ↦ hunbound ⟨name⟩ hpending record hlookup,
    fun hall deletion hpending record hlookup ↦ hall deletion.name record hlookup hpending⟩

variable {deletions : List Deletion}

/-- A new volume keeps them unbound exactly when it is, or is not about to be removed. -/
theorem unbound_insert_iff (hunbound : Unbound store deletions) :
    Unbound (store.insert name record) deletions ↔
      ((⟨name⟩ : Deletion) ∈ deletions → record.state ≠ .bound) :=
  unbound_iff_forall.trans (forall_lookup_insert_iff (unbound_iff_forall.mp hunbound))

/-- A changed volume keeps them unbound exactly when it is, or is not about to be removed. -/
theorem unbound_replace_iff (hunbound : Unbound store deletions)
    (hlookup : store.lookup name = some record) {changed : VolumeRecord} :
    Unbound (store.replace name changed) deletions ↔
      ((⟨name⟩ : Deletion) ∈ deletions → changed.state ≠ .bound) :=
  unbound_iff_forall.trans (forall_lookup_replace_iff hlookup (unbound_iff_forall.mp hunbound))

/-- A mount keeps the volumes unbound that are about to be removed exactly when it mounts none of
them. -/
theorem unbound_mount_iff (hunbound : Unbound store deletions) (params : VolumeMountParams) :
    Unbound (handleVolumeMount params store).2 deletions ↔
      MountsKept store deletions (.mount params) := by
  cases hlookup : store.lookup params.name with
  | none =>
    simp only [handleVolumeMount, hlookup]
    refine iff_of_true hunbound fun record hrecord ↦ ?_
    rw [hlookup] at hrecord
    cases hrecord
  | some record =>
    simp only [MountsKept, hlookup, Option.some_inj, forall_eq']
    by_cases hbound : record.state = .bound
    · simp only [handleVolumeMount, hlookup, if_pos hbound]
      exact iff_of_true hunbound fun hother ↦ absurd hbound hother
    · simp only [handleVolumeMount, hlookup, if_neg hbound]
      rw [unbound_replace_iff hunbound hlookup]
      exact ⟨fun hafter _ hpending ↦ hafter hpending rfl,
        fun hkept hpending ↦ absurd hpending (hkept hbound)⟩

/-- A deletion that begins is about to remove a volume that is not bound. -/
theorem unbound_delete (hunbound : Unbound store deletions) (name : String) :
    Unbound ((protocol directories).begin store (.delete name)).1
      (((protocol directories).begin store (.delete name)).2.toList ++ deletions) := by
  simp only [protocol, checkNotBound]
  cases hlookup : store.lookup name with
  | none =>
    intro deletion hdeletion found hfound
    rcases List.mem_cons.mp hdeletion with rfl | hold
    · rw [hlookup] at hfound
      cases hfound
    · exact hunbound deletion hold found hfound
  | some record =>
    by_cases hbound : record.state = .bound
    · simp only [if_pos hbound]
      exact hunbound
    · simp only [if_neg hbound]
      intro deletion hdeletion found hfound
      rcases List.mem_cons.mp hdeletion with rfl | hold
      · rw [hlookup] at hfound
        exact Option.some_inj.mp hfound ▸ hbound
      · exact hunbound deletion hold found hfound

/-- The first section of a command keeps the volumes unbound that are about to be removed, exactly
when it mounts none of them. -/
theorem unbound_begin_iff (hunbound : Unbound store deletions) (command : Command) :
    Unbound ((protocol directories).begin store command).1
        (((protocol directories).begin store command).2.toList ++ deletions) ↔
      MountsKept store deletions command := by
  cases command with
  | create params now =>
    refine iff_of_true ?_ trivial
    change Unbound (handleVolumeCreate directories now params store).2 deletions
    rcases handleVolumeCreate_cases directories now params store with hsame | ⟨hostPath, -, hafter⟩
    · rw [hsame]
      exact hunbound
    · rw [hafter, unbound_insert_iff hunbound]
      exact fun _ hbound ↦ VolumeState.noConfusion hbound
  | mount params => exact unbound_mount_iff hunbound params
  | unmount name =>
    refine iff_of_true ?_ trivial
    change Unbound (handleVolumeUnmount name store).2 deletions
    unfold handleVolumeUnmount
    cases hlookup : store.lookup name with
    | none => exact hunbound
    | some record =>
      refine (unbound_replace_iff hunbound hlookup).mpr fun _ hbound ↦ ?_
      exact VolumeState.noConfusion hbound
  | delete name => exact iff_of_true (unbound_delete hunbound name) trivial

/-- A removal keeps the other volumes unbound that are about to be removed. -/
theorem unbound_resume {deletion : Deletion}
    (hunbound : Unbound store (deletion :: deletions)) :
    Unbound ((protocol directories).resume () store deletion).1 deletions := by
  intro other hother found hfound
  change (removeVolume deletion.name store).2.lookup other.name = some found at hfound
  rw [removeVolume, lookup_deleteRecord] at hfound
  split_ifs at hfound
  exact hunbound other (List.mem_cons_of_mem deletion hother) found hfound

/-- In every interleaving of commands the state of every volume agrees with its container and mount
path, and no bound volume is removed if and only if every removal finds its volume unmounted. No
volume is mounted that a deletion is about to remove if and only if no volume is ever bound that a
deletion is about to remove, and then no bound volume is removed. -/
theorem bound_volumes_kept (directories : Directories) (moves : List (Move Command Unit)) :
    Always (protocol directories).step (fun world ↦ Consistent world.shared) start moves ∧
      (Throughout (protocol directories).step
          (Protocol.Allowed (fun _ _ _ ↦ True) RemovesUnbound) start moves ↔
        Throughout (protocol directories).step
          (Protocol.Allowed (fun _ _ _ ↦ True) FindsUnmounted) start moves) ∧
      (Throughout (protocol directories).step (Protocol.Allowed MountsKept fun _ _ _ _ ↦ True) start
          moves ↔
        Always (protocol directories).step (fun world ↦ Unbound world.shared world.pending) start
          moves) ∧
      (Throughout (protocol directories).step (Protocol.Allowed MountsKept fun _ _ _ _ ↦ True) start
          moves →
        Throughout (protocol directories).step
          (Protocol.Allowed (fun _ _ _ ↦ True) RemovesUnbound) start moves) := by
  have hconsistent : Always (protocol directories).step (fun world ↦ Consistent world.shared) start
      moves := by
    refine always_of_step (fun name record hlookup ↦ ?_) (fun world move hbefore ↦ ?_) moves
    · cases hlookup
    · exact (protocol directories).shared_step Consistent
        (fun _ command hkept ↦ consistent_begin hkept command)
        (fun _ deletion _ hkept ↦ consistent_resume hkept deletion) world move hbefore
  have hunbound : Always (protocol directories).step
      (fun world ↦ Unbound world.shared world.pending) start moves ↔
        Throughout (protocol directories).step (Protocol.Allowed MountsKept fun _ _ _ _ ↦ True)
          start moves := by
    refine always_iff_throughout (fun deletion hdeletion ↦ ?_) fun world move hbefore ↦ ?_
    · cases hdeletion
    · refine (protocol directories).good_step_iff Unbound (fun store first second hperm hgood ↦ ?_)
        (fun _ _ command hgood ↦ unbound_begin_iff hgood command)
        (fun _ _ _ _ hgood ↦ iff_of_true (unbound_resume hgood) trivial) world move hbefore
      exact fun deletion hdeletion ↦ hgood deletion (hperm.symm.subset hdeletion)
  refine ⟨hconsistent, throughout_congr fun done move hdone ↦ ?_, hunbound.symm,
    fun hkept done move hdone ↦ ?_⟩
  · have hbefore := hconsistent done (prefix_of_concat hdone)
    cases move with
    | begin command => exact Iff.rfl
    | resume index choice =>
      exact forall_congr' fun deletion ↦ forall_congr' fun _ ↦
        removesUnbound_iff hbefore _ deletion choice
  have hbefore := hunbound.mpr hkept done (prefix_of_concat hdone)
  cases move with
  | begin command => trivial
  | resume index choice =>
    intro deletion hdeletion
    exact hbefore deletion (List.mem_of_getElem? hdeletion)

/-- A volume is deleted that was mounted between the check and the removal. -/
theorem mounted_volume_removed :
    let directories : Directories := ⟨fun name ↦ "/var/lib/claw/volumes/" ++ name, fun _ ↦ .ok ()⟩
    let moves : List (Move Command Unit) := [.begin (.create ⟨"data", "emptydir", none, none⟩ 0),
      .begin (.delete "data"), .begin (.mount ⟨"data", "c1", "/data"⟩), .resume 0 ()]
    ¬Throughout (protocol directories).step (Protocol.Allowed (fun _ _ _ ↦ True) RemovesUnbound)
      start moves := by
  intro directories moves hthroughout
  have hremoves := hthroughout (moves.take 3) (.resume 0 ()) (List.prefix_refl moves) ⟨"data"⟩ rfl
  exact hremoves _ rfl rfl

end Volumes

end Clawbernetes.ClawNode
