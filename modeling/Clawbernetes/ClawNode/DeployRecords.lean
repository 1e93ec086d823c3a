import Clawbernetes.ClawNode.Deploy
import Clawbernetes.Library.Runs

/-!
# Deployments and their containers

Commands on deployments that do not overlap. A rollout either fails, and leaves the records and the
running containers, or it goes through and writes the record (`rollOut_cases`). So the records,
their histories and the containers stay in step in every run, whatever the runtime fails
(`deployments_consistent`).
-/

set_option autoImplicit false
set_option relaxedAutoImplicit false

namespace Clawbernetes.ClawNode.Deploy

open Library.FiniteTable Library.Runs

variable {ids : ContainerIds} {spec : ReplicaSpec}

/-! ### Records, histories and containers -/

/-- The revision and the history of a record are in step: the entries are numbered from one, as far
as the numbers go, and the last one is of the current image and replicas. -/
structure HistoryKept (record : DeployRecord) : Prop where
  revision : record.revision = UInt32.ofNat record.history.length
  numbers : record.history.map (·.revision) =
    (List.range' 1 record.history.length).map UInt32.ofNat
  last : ∃ entry, record.history.getLast? = some entry ∧ entry.image = record.image ∧
    entry.replicas = record.replicas

/-- The containers of a record are as many as its replicas, and all are running its image. -/
structure ContainersKept (running : List Replica) (record : DeployRecord) : Prop where
  length : record.containerIds.length = record.replicas.toNat
  nodup : record.containerIds.Nodup
  runs : ∀ id ∈ record.containerIds, ∃ replica ∈ running, replica.id = id ∧
    replica.deployName = record.name ∧ replica.image = record.image

/-- The invariant: the ids of the running containers were given and are different, and every record
is in step with its history and its containers. -/
structure Consistent (ids : ContainerIds) (node : Node) : Prop where
  given : ∀ replica ∈ node.runtime.running, ∃ number < node.runtime.given,
    replica.id = ids.id number
  nodup : (node.runtime.running.map (·.id)).Nodup
  named : ∀ name record, node.deployments.lookup name = some record → record.name = name
  history : ∀ name record, node.deployments.lookup name = some record → HistoryKept record
  containers : ∀ name record, node.deployments.lookup name = some record →
    ContainersKept node.runtime.running record

variable {node : Node} {record : DeployRecord} {name : String}

/-- The ids that the runtime gives next are those of no running container. -/
theorem Consistent.not_mem_newIds (hconsistent : Consistent ids node) {replica : Replica}
    (hreplica : replica ∈ node.runtime.running) (count : ℕ) :
    replica.id ∉ newIds ids node.runtime.given count := by
  intro hmem
  obtain ⟨number, hlt, hnumber⟩ := hconsistent.given replica hreplica
  obtain ⟨other, hle, -, hother⟩ := mem_newIds.mp hmem
  have hsame := ids.injective (hnumber.symm.trans hother)
  omega

/-- Containers of different deployments are different. -/
theorem Consistent.name_unique (hconsistent : Consistent ids node) {other : DeployRecord}
    {otherName id : String} (hrecord : node.deployments.lookup name = some record)
    (hother : node.deployments.lookup otherName = some other) (hid : id ∈ record.containerIds)
    (hsame : id ∈ other.containerIds) : name = otherName := by
  obtain ⟨first, hfirst, hfirstId, hfirstName, -⟩ :=
    (hconsistent.containers name record hrecord).runs id hid
  obtain ⟨second, hsecond, hsecondId, hsecondName, -⟩ :=
    (hconsistent.containers otherName other hother).runs id hsame
  have hequal := List.inj_on_of_nodup_map hconsistent.nodup hfirst hsecond
    (hfirstId.trans hsecondId.symm)
  rw [← hconsistent.named name record hrecord, ← hconsistent.named otherName other hother,
    ← hfirstName, ← hsecondName, hequal]

/-- A record whose containers stay is in step with them. -/
theorem ContainersKept.stays {running after : List Replica}
    (hbefore : ContainersKept running record)
    (hstays : ∀ replica ∈ running, replica.id ∈ record.containerIds → replica ∈ after) :
    ContainersKept after record := by
  refine ⟨hbefore.length, hbefore.nodup, fun id hid ↦ ?_⟩
  obtain ⟨replica, hreplica, hsame, hspec⟩ := hbefore.runs id hid
  exact ⟨replica, hstays replica hreplica (hsame ▸ hid), hsame, hspec⟩

/-- A record that lists new replicas is in step with them. -/
theorem containersKept_new {after : List Replica} {given count : ℕ}
    (hcount : record.replicas.toNat = count) (hname : spec.name = record.name)
    (himage : record.image = spec.image) (hids : record.containerIds = newIds ids given count)
    (hstarted : ∀ replica ∈ newReplicas ids spec given 0 count, replica ∈ after) :
    ContainersKept after record := by
  refine ⟨by rw [hids, length_newIds, hcount], hids ▸ nodup_newIds _ _, fun id hid ↦ ?_⟩
  rw [hids] at hid
  obtain ⟨replica, hreplica, rfl⟩ := (mem_newIds_iff_replica spec 0).mp hid
  obtain ⟨hreplicaName, hreplicaImage⟩ := newReplicas_spec hreplica
  exact ⟨replica, hstarted replica hreplica, rfl, by rw [hreplicaName, hname],
    by rw [hreplicaImage, himage]⟩

/-- A record of a deployment whose containers are stopped is in step with the containers that were
started for it, and the other records stay in step. -/
theorem Consistent.rolled_out (hconsistent : Consistent ids node)
    {deployments : Table String DeployRecord} {stops : List String} {count : ℕ}
    (hcount : record.replicas.toNat = count)
    (hstops : ∀ id ∈ stops, ∃ old, node.deployments.lookup name = some old ∧ id ∈ old.containerIds)
    (hname : deployments.lookup name = some record)
    (hothers : ∀ other, other ≠ name → deployments.lookup other = node.deployments.lookup other)
    (hrecordName : record.name = name) (hspecName : spec.name = name)
    (himage : record.image = spec.image)
    (hids : record.containerIds = newIds ids node.runtime.given count)
    (hhistory : HistoryKept record) :
    Consistent ids ⟨deployments, stops.foldl removeContainer
      ⟨node.runtime.running ++ newReplicas ids spec node.runtime.given 0 count,
        node.runtime.given + count⟩⟩ := by
  rw [foldl_removeContainer]
  refine ⟨?_, ?_, forall_lookup_of_changed hconsistent.named hname hothers hrecordName,
    forall_lookup_of_changed hconsistent.history hname hothers hhistory, ?_⟩
  · intro replica hreplica
    rcases List.mem_append.mp (List.mem_filter.mp hreplica).1 with hold | hnew
    · obtain ⟨number, hlt, hnumber⟩ := hconsistent.given replica hold
      exact ⟨number, Nat.lt_add_right count hlt, hnumber⟩
    · have hmem := (mem_newIds_iff_replica spec 0).mpr ⟨replica, hnew, rfl⟩
      obtain ⟨number, -, hlt, hnumber⟩ := mem_newIds.mp hmem
      exact ⟨number, hlt, hnumber⟩
  · refine List.Nodup.sublist (List.filter_sublist.map Replica.id) ?_
    rw [List.map_append, map_id_newReplicas]
    refine List.nodup_append'.mpr ⟨hconsistent.nodup, nodup_newIds _ _, fun id hold hnew ↦ ?_⟩
    obtain ⟨replica, hreplica, rfl⟩ := List.mem_map.mp hold
    exact hconsistent.not_mem_newIds hreplica count hnew
  · intro other found hfound
    by_cases hother : other = name
    · rw [hother, hname, Option.some_inj] at hfound
      subst hfound
      refine containersKept_new hcount (hspecName.trans hrecordName.symm) himage hids
        fun replica hreplica ↦ ?_
      refine List.mem_filter.mpr ⟨List.mem_append_right _ hreplica, decide_eq_true fun hstop ↦ ?_⟩
      obtain ⟨old, hold, hmem⟩ := hstops replica.id hstop
      obtain ⟨running, hrunning, hsame, -⟩ := (hconsistent.containers name old hold).runs _ hmem
      refine hconsistent.not_mem_newIds hrunning count (hsame ▸ ?_)
      exact (mem_newIds_iff_replica spec 0).mpr ⟨replica, hreplica, rfl⟩
    · rw [hothers other hother] at hfound
      refine (hconsistent.containers other found hfound).stays fun replica hreplica hid ↦ ?_
      refine List.mem_filter.mpr ⟨List.mem_append_left _ hreplica, decide_eq_true fun hstop ↦ ?_⟩
      obtain ⟨old, hold, hmem⟩ := hstops replica.id hstop
      exact hother (hconsistent.name_unique hfound hold hid hmem)

/-! ### What a command does -/

/-- The runtime lets a rollout go through: the pull, if there is one, and the start of every
replica. -/
def Completes (answers : Answers) (rollout : Rollout) : Prop :=
  (rollout.pulls = true → answers.pull = .ok ()) ∧
    ∀ index, index < rollout.replicas.toNat → answers.start index = .ok ()

/-- The node when the replicas of a rollout are started and the others stopped. -/
def Node.rolled (node : Node) (ids : ContainerIds) (rollout : Rollout) : Node :=
  ⟨node.deployments, rollout.stops.foldl removeContainer
    ⟨node.runtime.running ++
      newReplicas ids rollout.spec node.runtime.given 0 rollout.replicas.toNat,
      node.runtime.given + rollout.replicas.toNat⟩⟩

/-- The ids that a rollout gets for its replicas. -/
def Node.nextIds (node : Node) (ids : ContainerIds) (rollout : Rollout) : List String :=
  newIds ids node.runtime.given rollout.replicas.toNat

/-- The containers are the same, and no id was given back. -/
def OnlyGiven (node after : Node) : Prop :=
  after.deployments = node.deployments ∧ after.runtime.running = node.runtime.running ∧
    node.runtime.given ≤ after.runtime.given

/-- A rollout that does not go through fails and leaves the records and the containers, and one that
does writes the record at the end. -/
theorem runRollout_cases (hconsistent : Consistent ids node) (answers : Answers) (now later : ℤ)
    (rollout : Rollout) :
    (¬Completes answers rollout ∧
      ∃ error after, runRollout ids answers now later node rollout = (.error error, after) ∧
        OnlyGiven node after) ∨
      (Completes answers rollout ∧ runRollout ids answers now later node rollout =
        commit rollout (node.nextIds ids rollout) now later (node.rolled ids rollout)) := by
  unfold runRollout
  cases hpull : if rollout.pulls then answers.pull else Except.ok () with
  | error error =>
    refine .inl ⟨fun hcompletes ↦ ?_, error, node, rfl, rfl, rfl, le_refl _⟩
    split_ifs at hpull with hpulls
    rw [hcompletes.1 hpulls] at hpull
    cases hpull
  | ok done =>
    rcases startReplicas_cases ids rollout.spec answers.start 0 rollout.replicas.toNat []
        node.runtime with
      ⟨count, error, hcount, herror, hresult⟩ | ⟨hall, hresult⟩
    · refine .inl ⟨fun hcompletes ↦ ?_, ?_⟩
      · rw [Nat.zero_add, hcompletes.2 count hcount] at herror
        cases herror
      · simp only [hresult]
        refine ⟨_, _, rfl, rfl, ?_, Nat.le_add_right _ count⟩
        refine List.filter_eq_self.mpr fun replica hreplica ↦ decide_eq_true ?_
        exact hconsistent.not_mem_newIds hreplica count
    · refine .inr ⟨⟨fun hpulls ↦ ?_, fun index hindex ↦ ?_⟩, ?_⟩
      · rw [if_pos hpulls] at hpull
        exact hpull
      · simpa using hall index hindex
      · simp only [hresult]
        rfl

/-- Ids that are given without a container change nothing. -/
theorem Consistent.only_given (hconsistent : Consistent ids node) {after : Node}
    (honly : OnlyGiven node after) : Consistent ids after := by
  obtain ⟨hdeployments, hrunning, hgiven⟩ := honly
  refine ⟨?_, ?_, ?_, ?_, ?_⟩
  · intro replica hreplica
    rw [hrunning] at hreplica
    obtain ⟨number, hlt, hnumber⟩ := hconsistent.given replica hreplica
    exact ⟨number, by omega, hnumber⟩
  · rw [hrunning]
    exact hconsistent.nodup
  · rw [hdeployments]
    exact hconsistent.named
  · rw [hdeployments]
    exact hconsistent.history
  · rw [hdeployments, hrunning]
    exact hconsistent.containers

/-- The history of a new record. -/
theorem historyKept_created (rollout : Rollout) (strategy : String) (started : List String)
    (now : ℤ) : HistoryKept (rollout.created strategy started now) :=
  ⟨rfl, rfl, _, rfl, rfl, rfl⟩

/-- The history of a revised record. -/
theorem HistoryKept.revised (hhistory : HistoryKept record) (rollout : Rollout) (previous : String)
    (reason : String) (started : List String) (now later : ℤ) :
    HistoryKept (rollout.revised previous rollout.replicas reason started now later record) := by
  have hrevision : record.revision + 1 = UInt32.ofNat (record.history.length + 1) := by
    rw [hhistory.revision, UInt32.ofNat_add]
    rfl
  refine ⟨?_, ?_, _, List.getLast?_concat, rfl, rfl⟩
  · simp only [Rollout.revised, List.length_append, List.length_singleton, hrevision]
  · simp only [Rollout.revised, List.length_append, List.length_singleton, hrevision,
      List.map_append, List.map_cons, List.map_nil, hhistory.numbers]
    rw [List.range'_1_concat, List.map_append, Nat.add_comm 1]
    rfl

/-- What a command knows of the record when it starts a rollout: a creation that there is none, and
the others whose containers they stop. -/
def Read (node : Node) (rollout : Rollout) : Prop :=
  match rollout.kind with
  | .create _ => node.deployments.lookup rollout.spec.name = none ∧ rollout.stops = []
  | .update _ => ∃ record, node.deployments.lookup rollout.spec.name = some record ∧
      rollout.stops = record.containerIds
  | .rollback _ => ∃ record, node.deployments.lookup rollout.spec.name = some record ∧
      rollout.stops = record.containerIds ∧ rollout.replicas = record.replicas

/-- A creation knows that there is no record. -/
theorem readCreate_ok {params : DeployCreateParams} {rollout : Rollout}
    (hread : readCreate params node = .ok rollout) :
    node.deployments.lookup params.name = none ∧
      rollout = ⟨.create (params.strategy.getD "rolling"), ⟨params.name, params.image,
        params.gpus.getD 0, params.memory, params.cpu⟩, params.replicas, []⟩ := by
  unfold readCreate at hread
  split at hread
  · cases hread
  · next hlookup => exact ⟨hlookup, (Except.ok.inj hread).symm⟩

/-- An update knows the record, which is not paused. -/
theorem readUpdate_ok {params : DeployUpdateParams} {rollout : Rollout}
    (hread : readUpdate params node = .ok rollout) :
    ∃ record, node.deployments.lookup params.name = some record ∧ record.state ≠ .paused ∧
      rollout = ⟨.update record.image, ⟨params.name, params.image.getD record.image,
        record.gpusPerReplica, record.memory, record.cpu⟩, params.replicas.getD record.replicas,
        record.containerIds⟩ := by
  unfold readUpdate at hread
  split at hread
  · cases hread
  · next record hlookup =>
    split_ifs at hread with hpaused
    exact ⟨record, hlookup, hpaused, (Except.ok.inj hread).symm⟩

/-- A rollback knows the record and its previous image. -/
theorem readRollback_ok {params : RollbackParams} {rollout : Rollout}
    (hread : readRollback params node = .ok rollout) :
    ∃ record previous, node.deployments.lookup params.name = some record ∧
      record.previousImage = some previous ∧
      rollout = ⟨.rollback (params.reason.getD "manual rollback"),
        ⟨params.name, previous, record.gpusPerReplica, record.memory, record.cpu⟩, record.replicas,
        record.containerIds⟩ := by
  unfold readRollback at hread
  split at hread
  · cases hread
  · next record hlookup =>
    split at hread
    · cases hread
    · next previous hprevious =>
      exact ⟨record, previous, hlookup, hprevious, (Except.ok.inj hread).symm⟩

/-- The record that a rollout leaves for its deployment. -/
structure Written (deployments after : Table String DeployRecord) (rollout : Rollout)
    (started : List String) (record : DeployRecord) : Prop where
  lookup : after.lookup rollout.spec.name = some record
  others : ∀ other, other ≠ rollout.spec.name → after.lookup other = deployments.lookup other
  name : record.name = rollout.spec.name
  image : record.image = rollout.spec.image
  replicas : record.replicas = rollout.replicas
  containerIds : record.containerIds = started
  history : HistoryKept record

/-- A record that is found is written over. -/
theorem written_replace (hconsistent : Consistent ids node) {rollout : Rollout}
    (hlookup : node.deployments.lookup rollout.spec.name = some record) (previous reason : String)
    (started : List String) (now later : ℤ) :
    Written node.deployments (node.deployments.replace rollout.spec.name
        (rollout.revised previous rollout.replicas reason started now later record)) rollout started
      (rollout.revised previous rollout.replicas reason started now later record) := by
  have hpresent : rollout.spec.name ∈ node.deployments :=
    AList.lookup_isSome.mp (by rw [hlookup]; rfl)
  exact ⟨lookup_replace hpresent _, fun other hother ↦ lookup_replace_ne hother _,
    hconsistent.named _ record hlookup, rfl, rfl, rfl,
    (hconsistent.history _ record hlookup).revised rollout previous reason started now later⟩

/-- A rollout that was read at the same node is written. -/
theorem commit_spec (hconsistent : Consistent ids node) {rollout : Rollout}
    (hread : Read node rollout) (started : List String) (now later : ℤ) (runtime : Runtime) :
    ∃ deployments record,
      commit rollout started now later ⟨node.deployments, runtime⟩ =
        (.ok (), ⟨deployments, runtime⟩) ∧
      Written node.deployments deployments rollout started record := by
  unfold Read at hread
  unfold commit
  cases hkind : rollout.kind with
  | create strategy =>
    simp only [hkind] at hread
    refine ⟨_, rollout.created strategy started now, ?_, AList.lookup_insert node.deployments,
      fun other hother ↦ AList.lookup_insert_ne hother, rfl, rfl, rfl, rfl,
      historyKept_created rollout strategy started now⟩
    simp only [createRecord, hread.1]
    rfl
  | update oldImage =>
    simp only [hkind] at hread
    obtain ⟨record, hlookup, -⟩ := hread
    refine ⟨_, _, ?_, written_replace hconsistent hlookup oldImage "update" started now later⟩
    simp only [commit.revise, hlookup]
  | rollback reason =>
    simp only [hkind] at hread
    obtain ⟨record, hlookup, -, hreplicas⟩ := hread
    refine ⟨_, _, ?_, written_replace hconsistent hlookup record.image ("rollback: " ++ reason)
      started now later⟩
    simp only [commit.revise, hlookup, hreplicas]

/-- A rollout fails, with the records and the containers left, or goes through and is written. -/
theorem rollOut_cases (hconsistent : Consistent ids node) (answers : Answers) (now later : ℤ)
    {read : Except String Rollout} (hread : ∀ rollout, read = .ok rollout → Read node rollout) :
    ((∀ rollout, read = .ok rollout → ¬Completes answers rollout) ∧
      ∃ error after, rollOut ids answers now later node read = (.error error, after) ∧
        OnlyGiven node after) ∨
      ∃ rollout deployments record, read = .ok rollout ∧ Completes answers rollout ∧
        rollOut ids answers now later node read =
          (.ok (), ⟨deployments, (node.rolled ids rollout).runtime⟩) ∧
        Written node.deployments deployments rollout (node.nextIds ids rollout) record := by
  cases hresult : read with
  | error error =>
    refine .inl ⟨fun rollout hrollout ↦ ?_, error, node, rfl, rfl, rfl, le_refl _⟩
    cases hrollout
  | ok rollout =>
    rcases runRollout_cases hconsistent answers now later rollout with
      ⟨hfails, hafter⟩ | ⟨hcompletes, hafter⟩
    · refine .inl ⟨fun other hother ↦ ?_, hafter⟩
      rw [← Except.ok.inj hother]
      exact hfails
    · obtain ⟨deployments, record, hcommit, hwritten⟩ := commit_spec hconsistent
        (hread rollout hresult) (node.nextIds ids rollout) now later
          (node.rolled ids rollout).runtime
      exact .inr ⟨rollout, deployments, record, rfl, hcompletes, hafter.trans hcommit, hwritten⟩

/-- The containers that a rollout stops are those of the record. -/
theorem Read.stops_mem {rollout : Rollout} (hread : Read node rollout) {id : String}
    (hid : id ∈ rollout.stops) :
    ∃ record, node.deployments.lookup rollout.spec.name = some record ∧
      id ∈ record.containerIds := by
  unfold Read at hread
  split at hread
  · rw [hread.2] at hid
    cases hid
  · obtain ⟨record, hlookup, hstops⟩ := hread
    exact ⟨record, hlookup, hstops ▸ hid⟩
  · obtain ⟨record, hlookup, hstops, -⟩ := hread
    exact ⟨record, hlookup, hstops ▸ hid⟩

/-- A rollout keeps the invariant. -/
theorem Consistent.rollOut (hconsistent : Consistent ids node) (answers : Answers) (now later : ℤ)
    {read : Except String Rollout} (hread : ∀ rollout, read = .ok rollout → Read node rollout) :
    Consistent ids (rollOut ids answers now later node read).2 := by
  rcases rollOut_cases hconsistent answers now later hread with
    ⟨-, error, after, hafter, honly⟩ | ⟨rollout, deployments, record, hrollout, -, hafter, hwritten⟩
  · rw [hafter]
    exact hconsistent.only_given honly
  · rw [hafter]
    exact hconsistent.rolled_out (by rw [hwritten.replicas])
      (fun id hid ↦ (hread rollout hrollout).stops_mem hid) hwritten.lookup hwritten.others
      hwritten.name rfl hwritten.image hwritten.containerIds hwritten.history

/-- A change of a record that leaves its containers and its history keeps the invariant. -/
theorem Consistent.changeRecord (hconsistent : Consistent ids node) (name : String)
    {change : DeployRecord → DeployRecord}
    (hname : ∀ record, (change record).name = record.name)
    (himage : ∀ record, (change record).image = record.image)
    (hreplicas : ∀ record, (change record).replicas = record.replicas)
    (hids : ∀ record, (change record).containerIds = record.containerIds)
    (hrevision : ∀ record, (change record).revision = record.revision)
    (hhistory : ∀ record, (change record).history = record.history) :
    Consistent ids (changeRecord name change node).2 := by
  unfold Deploy.changeRecord
  cases hlookup : node.deployments.lookup name with
  | none => exact hconsistent
  | some record =>
    refine ⟨hconsistent.given, hconsistent.nodup,
      (forall_lookup_replace_iff hlookup hconsistent.named).mpr ?_,
      (forall_lookup_replace_iff hlookup hconsistent.history).mpr ?_,
      (forall_lookup_replace_iff hlookup hconsistent.containers).mpr ?_⟩
    · rw [hname]
      exact hconsistent.named name record hlookup
    · obtain ⟨hold, hnumbers, hlast⟩ := hconsistent.history name record hlookup
      exact ⟨by rw [hrevision, hhistory, hold], by rw [hhistory, hnumbers],
        by rw [hhistory, himage, hreplicas]; exact hlast⟩
    · obtain ⟨hlength, hnodup, hruns⟩ := hconsistent.containers name record hlookup
      exact ⟨by rw [hids, hreplicas, hlength], by rw [hids]; exact hnodup,
        by rw [hids, hname, himage]; exact hruns⟩

/-- A deletion keeps the invariant: the containers that it removes are of no other deployment. -/
theorem Consistent.delete (hconsistent : Consistent ids node) (name : String) :
    Consistent ids (handleDeployDelete name node).2 := by
  unfold handleDeployDelete
  cases hlookup : node.deployments.lookup name with
  | none => exact hconsistent
  | some record =>
    simp only [foldl_removeContainer]
    refine ⟨fun replica hreplica ↦ ?_, ?_, forall_lookup_erase hconsistent.named name,
      forall_lookup_erase hconsistent.history name, fun other found hfound ↦ ?_⟩
    · exact hconsistent.given replica (List.mem_filter.mp hreplica).1
    · exact hconsistent.nodup.sublist (List.filter_sublist.map Replica.id)
    · obtain ⟨hne, hold⟩ := lookup_erase_cases hfound
      refine (hconsistent.containers other found hold).stays fun replica hreplica hid ↦ ?_
      refine List.mem_filter.mpr ⟨hreplica, decide_eq_true fun hstop ↦ ?_⟩
      exact hne (hconsistent.name_unique hold hlookup hid hstop)

/-- What a creation reads before a rollout. -/
theorem read_of_readCreate {params : DeployCreateParams} {rollout : Rollout}
    (hread : readCreate params node = .ok rollout) : Read node rollout := by
  obtain ⟨hlookup, rfl⟩ := readCreate_ok hread
  exact ⟨hlookup, rfl⟩

/-- What an update reads before a rollout. -/
theorem read_of_readUpdate {params : DeployUpdateParams} {rollout : Rollout}
    (hread : readUpdate params node = .ok rollout) : Read node rollout := by
  obtain ⟨record, hlookup, -, rfl⟩ := readUpdate_ok hread
  exact ⟨record, hlookup, rfl⟩

/-- What a rollback reads before a rollout. -/
theorem read_of_readRollback {params : RollbackParams} {rollout : Rollout}
    (hread : readRollback params node = .ok rollout) : Read node rollout := by
  obtain ⟨record, previous, hlookup, -, rfl⟩ := readRollback_ok hread
  exact ⟨record, hlookup, rfl, rfl⟩

/-- Every command keeps the invariant. -/
theorem consistent_step (hconsistent : Consistent ids node) (command : Command) :
    Consistent ids (step ids node command) := by
  cases command with
  | create params answers now =>
    exact hconsistent.rollOut answers now now fun _ ↦ read_of_readCreate
  | update params answers now later =>
    exact hconsistent.rollOut answers now later fun _ ↦ read_of_readUpdate
  | rollback params answers now later =>
    exact hconsistent.rollOut answers now later fun _ ↦ read_of_readRollback
  | promote name now =>
    exact hconsistent.changeRecord name (fun _ ↦ rfl) (fun _ ↦ rfl) (fun _ ↦ rfl) (fun _ ↦ rfl)
      (fun _ ↦ rfl) fun _ ↦ rfl
  | pause name now =>
    exact hconsistent.changeRecord name (fun _ ↦ rfl) (fun _ ↦ rfl) (fun _ ↦ rfl) (fun _ ↦ rfl)
      (fun _ ↦ rfl) fun _ ↦ rfl
  | delete name => exact hconsistent.delete name

/-! ### Runs of commands -/

/-- Every record has as its revision the number of its history, whose entries are numbered from one
to it as long as there are fewer than `2 ^ 32`. The last entry has its image and replicas, and it
has one container for each replica, all running its image. -/
def InStep (node : Node) : Prop :=
  ∀ name record, node.deployments.lookup name = some record →
    (record.history.length < 2 ^ 32 → record.revision.toNat = record.history.length ∧
      record.history.map (·.revision.toNat) = List.range' 1 record.revision.toNat) ∧
    (∃ entry, record.history.getLast? = some entry ∧ entry.image = record.image ∧
      entry.replicas = record.replicas) ∧
    record.containerIds.length = record.replicas.toNat ∧
    ∀ id ∈ record.containerIds, ∃ replica ∈ node.runtime.running, replica.id = id ∧
      replica.image = record.image

/-- A command that fails leaves the records and the running containers. -/
def FailsClean (ids : ContainerIds) (node : Node) (command : Command) : Prop :=
  ∀ error, (handleDeployCommand ids node command).1 = .error error →
    (step ids node command).deployments = node.deployments ∧
      (step ids node command).runtime.running = node.runtime.running

/-- The numbers of a history that fits into them. -/
theorem HistoryKept.numbers_toNat (hhistory : HistoryKept record)
    (hfits : record.history.length < 2 ^ 32) :
    record.revision.toNat = record.history.length ∧
      record.history.map (·.revision.toNat) = List.range' 1 record.revision.toNat := by
  have hrevision : record.revision.toNat = record.history.length := by
    rw [hhistory.revision, UInt32.toNat_ofNat', Nat.mod_eq_of_lt hfits]
  refine ⟨hrevision, ?_⟩
  have hnumbers := congrArg (List.map UInt32.toNat) hhistory.numbers
  rw [List.map_map, List.map_map] at hnumbers
  rw [hrevision]
  refine hnumbers.trans ?_
  conv_rhs => rw [← List.map_id (List.range' 1 record.history.length)]
  refine List.map_congr_left fun number hnumber ↦ ?_
  have hbound := List.mem_range'_1.mp hnumber
  change (UInt32.ofNat number).toNat = number
  rw [UInt32.toNat_ofNat', Nat.mod_eq_of_lt (by omega)]

/-- The invariant says that all records are in step. -/
theorem Consistent.inStep (hconsistent : Consistent ids node) : InStep node := by
  intro name record hlookup
  have hhistory := hconsistent.history name record hlookup
  have hcontainers := hconsistent.containers name record hlookup
  refine ⟨hhistory.numbers_toNat, hhistory.last, hcontainers.length, fun id hid ↦ ?_⟩
  obtain ⟨replica, hreplica, hsame, -, himage⟩ := hcontainers.runs id hid
  exact ⟨replica, hreplica, hsame, himage⟩

/-- A rollout that fails is clean. -/
theorem rollOut_failsClean (hconsistent : Consistent ids node) (answers : Answers) (now later : ℤ)
    {read : Except String Rollout} (hread : ∀ rollout, read = .ok rollout → Read node rollout)
    {error : String} (herror : (rollOut ids answers now later node read).1 = .error error) :
    (rollOut ids answers now later node read).2.deployments = node.deployments ∧
      (rollOut ids answers now later node read).2.runtime.running = node.runtime.running := by
  rcases rollOut_cases hconsistent answers now later hread with
    ⟨-, failure, after, hafter, honly⟩ | ⟨rollout, deployments, record, -, -, hafter, -⟩
  · rw [hafter]
    exact ⟨honly.1, honly.2.1⟩
  · rw [hafter] at herror
    cases herror

/-- A change of a record that fails is clean. -/
theorem changeRecord_failsClean {change : DeployRecord → DeployRecord} {error : String}
    (herror : (changeRecord name change node).1 = .error error) :
    (changeRecord name change node).2.deployments = node.deployments ∧
      (changeRecord name change node).2.runtime.running = node.runtime.running := by
  unfold changeRecord at herror ⊢
  cases hlookup : node.deployments.lookup name with
  | none => exact ⟨rfl, rfl⟩
  | some record =>
    simp only [hlookup] at herror
    cases herror

/-- Every command that fails is clean. -/
theorem failsClean_of_consistent (hconsistent : Consistent ids node) (command : Command) :
    FailsClean ids node command := by
  intro error herror
  cases command with
  | create params answers now =>
    exact rollOut_failsClean hconsistent answers now now (fun _ ↦ read_of_readCreate) herror
  | update params answers now later =>
    exact rollOut_failsClean hconsistent answers now later (fun _ ↦ read_of_readUpdate) herror
  | rollback params answers now later =>
    exact rollOut_failsClean hconsistent answers now later (fun _ ↦ read_of_readRollback) herror
  | promote name now => exact changeRecord_failsClean herror
  | pause name now => exact changeRecord_failsClean herror
  | delete name =>
    simp only [step, handleDeployCommand, handleDeployDelete] at herror ⊢
    cases hlookup : node.deployments.lookup name with
    | none => exact ⟨rfl, rfl⟩
    | some record =>
      simp only [hlookup] at herror
      cases herror

/-- No deployments and no containers are in step. -/
theorem consistent_empty (ids : ContainerIds) : Consistent ids empty := by
  refine ⟨fun replica hreplica ↦ ?_, List.nodup_nil, fun name record hlookup ↦ ?_,
    fun name record hlookup ↦ ?_, fun name record hlookup ↦ ?_⟩
  · cases hreplica
  · cases hlookup
  · cases hlookup
  · cases hlookup

/-- In every run of commands that do not overlap, with a runtime that may fail every pull and every
start, all records are in step with their histories and containers at all times, and every command
that fails leaves the records and the running containers as they were. -/
theorem deployments_consistent (ids : ContainerIds) (commands : List Command) :
    Always (step ids) InStep empty commands ∧
      Throughout (step ids) (FailsClean ids) empty commands := by
  have halways : Always (step ids) (Consistent ids) empty commands :=
    always_of_step (consistent_empty ids) (fun _ command hbefore ↦ consistent_step hbefore command)
      commands
  exact ⟨fun done hdone ↦ (halways done hdone).inStep, fun done command hdone ↦
    failsClean_of_consistent (halways done (prefix_of_concat hdone)) command⟩

end Clawbernetes.ClawNode.Deploy
