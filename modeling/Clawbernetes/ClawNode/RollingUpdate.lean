import Clawbernetes.ClawNode.DeployRecords
import Clawbernetes.Library.Bytes

/-!
# Updates of a running deployment

`start_replica` names the container of a replica after its deployment and its index, and the runtime
does not start a container under a name that another one has. An update and a rollback start the new
replicas, from index zero on, before they remove the old ones.

In every run the containers of a deployment have the names of their places (`named_step`). So as
soon as a deployment has a replica, the first start of every update and rollback meets its name
(`ChecksNames.not_completes`), and none of them ever goes through (`rolling_update_never_works`).
-/

set_option autoImplicit false
set_option relaxedAutoImplicit false

namespace Clawbernetes.ClawNode.Deploy

open Library.FiniteTable Library.Runs

/-! ### The names of the containers -/

/-- The name of the container for the replica of an index. -/
def replicaName (name : String) (index : ℕ) : String :=
  "claw-deploy-" ++ name ++ "-" ++ toString index

/-- The containers of a record are running, and have the names of their places. -/
def Named (running : List Replica) (record : DeployRecord) : Prop :=
  ∀ index id, record.containerIds[index]? = some id →
    ∃ replica ∈ running, replica.id = id ∧ replica.containerName = replicaName record.name index

/-- All records have containers with the names of their places. -/
def AllNamed (node : Node) : Prop :=
  ∀ name record, node.deployments.lookup name = some record → Named node.runtime.running record

variable {ids : ContainerIds} {spec : ReplicaSpec} {node after : Node} {record : DeployRecord}
  {name : String}

/-- The new replicas have the names of their places. -/
theorem newReplicas_named (given index count place : ℕ) {id : String}
    (hplace : (newIds ids given count)[place]? = some id) :
    ∃ replica ∈ newReplicas ids spec given index count, replica.id = id ∧
      replica.containerName = replicaName spec.name (index + place) := by
  induction count generalizing given index place with
  | zero => cases hplace
  | succ count ih =>
    cases place with
    | zero =>
      obtain rfl := Option.some_inj.mp hplace
      exact ⟨_, List.mem_cons_self, rfl, rfl⟩
    | succ place =>
      obtain ⟨replica, hreplica, hid, hname⟩ := ih (given + 1) (index + 1) place hplace
      rw [Nat.add_right_comm, Nat.add_assoc] at hname
      exact ⟨replica, List.mem_cons_of_mem _ hreplica, hid, hname⟩

/-- No other container is running under the id of one that was. -/
def KeptIds (node after : Node) : Prop :=
  ∀ replica ∈ node.runtime.running, ∀ other ∈ after.runtime.running,
    replica.id = other.id → replica = other

/-- Containers stay the same when only new replicas are started. -/
theorem keptIds_of_subset (hconsistent : Consistent ids node) {count : ℕ}
    (hsubset : ∀ replica ∈ after.runtime.running, replica ∈ node.runtime.running ∨
      replica ∈ newReplicas ids spec node.runtime.given 0 count) : KeptIds node after := by
  intro replica hreplica other hother hid
  rcases hsubset other hother with hbefore | hnew
  · exact List.inj_on_of_nodup_map hconsistent.nodup hreplica hbefore hid
  · exact absurd ((mem_newIds_iff_replica spec 0).mpr ⟨other, hnew, hid.symm⟩)
      (hconsistent.not_mem_newIds hreplica count)

/-- Records keep the names of their containers when they are as before, or have new ones. -/
theorem AllNamed.of_records (hnamed : AllNamed node) (hconsistent : Consistent ids after)
    (hsame : KeptIds node after)
    (hrecords : ∀ name found, after.deployments.lookup name = some found →
      (∃ old, node.deployments.lookup name = some old ∧ old.containerIds = found.containerIds ∧
        old.name = found.name) ∨ Named after.runtime.running found) : AllNamed after := by
  intro name found hfound
  rcases hrecords name found hfound with ⟨old, hold, hids, hname⟩ | hnew
  · intro index id hid
    obtain ⟨replica, hreplica, hreplicaId, hreplicaName⟩ :=
      hnamed name old hold index id (hids ▸ hid)
    obtain ⟨other, hother, hotherId, -⟩ :=
      (hconsistent.containers name found hfound).runs id (List.mem_of_getElem? hid)
    obtain rfl := hsame replica hreplica other hother (hreplicaId.trans hotherId.symm)
    exact ⟨replica, hother, hreplicaId, hname ▸ hreplicaName⟩
  · exact hnew

/-! ### The commands -/

/-- A rollout keeps the names. The containers that it starts are all left, since it stops others. -/
theorem AllNamed.rollOut (hnamed : AllNamed node) (hconsistent : Consistent ids node)
    (answers : Answers) (now later : ℤ) {read : Except String Rollout}
    (hread : ∀ rollout, read = .ok rollout → Read node rollout) :
    AllNamed (rollOut ids answers now later node read).2 := by
  have hafter := hconsistent.rollOut answers now later hread
  rcases rollOut_cases hconsistent answers now later hread with
    ⟨-, error, failed, hresult, honly⟩ | ⟨rollout, deployments, record, -, -, hresult, hwritten⟩
  · rw [hresult]
    intro name found hfound
    rw [honly.1] at hfound
    rw [honly.2.1]
    exact hnamed name found hfound
  · rw [hresult] at hafter ⊢
    have hsubset : ∀ replica ∈ (node.rolled ids rollout).runtime.running,
        replica ∈ node.runtime.running ∨
          replica ∈ newReplicas ids rollout.spec node.runtime.given 0 rollout.replicas.toNat := by
      intro replica hreplica
      rw [Node.rolled, foldl_removeContainer] at hreplica
      exact List.mem_append.mp (List.mem_filter.mp hreplica).1
    refine hnamed.of_records hafter (keptIds_of_subset hconsistent hsubset) ?_
    intro name found hfound
    by_cases hname : name = rollout.spec.name
    · subst hname
      obtain rfl := Option.some_inj.mp (hfound.symm.trans hwritten.lookup)
      refine .inr fun index id hid ↦ ?_
      rw [hwritten.containerIds] at hid
      obtain ⟨replica, hreplica, hreplicaId, hreplicaName⟩ :=
        newReplicas_named node.runtime.given 0 rollout.replicas.toNat index hid
      obtain ⟨other, hother, hotherId, -⟩ := (hafter.containers _ found hfound).runs id
        (hwritten.containerIds ▸ List.mem_of_getElem? hid)
      -- the container with the new id can only be the new replica
      have hnew : replica = other := by
        rcases hsubset other hother with hbefore | hnew
        · exact absurd (hotherId ▸ List.mem_of_getElem? hid)
            (hconsistent.not_mem_newIds hbefore rollout.replicas.toNat)
        · refine List.inj_on_of_nodup_map ?_ hreplica hnew (hreplicaId.trans hotherId.symm)
          rw [map_id_newReplicas]
          exact nodup_newIds _ _
      rw [Nat.zero_add] at hreplicaName
      exact ⟨other, hother, hotherId, by rw [← hnew, hwritten.name, hreplicaName]⟩
    · rw [hwritten.others name hname] at hfound
      exact .inl ⟨found, hfound, rfl, rfl⟩

/-- A change of a record that leaves its name and containers keeps the names. -/
theorem AllNamed.changeRecord (hnamed : AllNamed node) {change : DeployRecord → DeployRecord}
    (hname : ∀ record, (change record).name = record.name)
    (hids : ∀ record, (change record).containerIds = record.containerIds) :
    AllNamed (changeRecord name change node).2 := by
  unfold Deploy.changeRecord
  cases hlookup : node.deployments.lookup name with
  | none => exact hnamed
  | some record =>
    refine (forall_lookup_replace_iff hlookup hnamed).mpr fun index id hid ↦ ?_
    rw [hids] at hid
    rw [hname]
    exact hnamed name record hlookup index id hid

/-- A deletion keeps the names. -/
theorem AllNamed.delete (hnamed : AllNamed node) (hconsistent : Consistent ids node)
    (name : String) : AllNamed (handleDeployDelete name node).2 := by
  have hafter := hconsistent.delete name
  unfold handleDeployDelete at hafter ⊢
  cases hlookup : node.deployments.lookup name with
  | none => exact hnamed
  | some record =>
    simp only [hlookup] at hafter
    refine hnamed.of_records hafter ?_ fun other found hfound ↦
      .inl ⟨found, (lookup_erase_cases hfound).2, rfl, rfl⟩
    intro replica hreplica other hother hid
    change other ∈ (record.containerIds.foldl removeContainer node.runtime).running at hother
    rw [foldl_removeContainer] at hother
    exact List.inj_on_of_nodup_map hconsistent.nodup hreplica (List.mem_filter.mp hother).1 hid

/-- Every command keeps the names. -/
theorem named_step (hconsistent : Consistent ids node) (hnamed : AllNamed node)
    (command : Command) : AllNamed (step ids node command) := by
  cases command with
  | create params answers now =>
    exact hnamed.rollOut hconsistent answers now now fun _ ↦ read_of_readCreate
  | update params answers now later =>
    exact hnamed.rollOut hconsistent answers now later fun _ ↦ read_of_readUpdate
  | rollback params answers now later =>
    exact hnamed.rollOut hconsistent answers now later fun _ ↦ read_of_readRollback
  | promote name now => exact hnamed.changeRecord (fun _ ↦ rfl) fun _ ↦ rfl
  | pause name now => exact hnamed.changeRecord (fun _ ↦ rfl) fun _ ↦ rfl
  | delete name => exact hnamed.delete hconsistent name

/-- In every run the containers of all records have the names of their places. -/
theorem named_run (ids : ContainerIds) (commands : List Command) :
    Consistent ids (commands.foldl (step ids) empty) ∧
      AllNamed (commands.foldl (step ids) empty) := by
  induction commands using List.reverseRecOn with
  | nil =>
    refine ⟨consistent_empty ids, fun name record hlookup ↦ ?_⟩
    cases hlookup
  | append_singleton commands command ih =>
    rw [List.foldl_concat]
    exact ⟨consistent_step ih.1 command, named_step ih.1 ih.2 command⟩

/-! ### Rolling updates -/

/-- A container of a name exists. -/
def NameTaken (running : List Replica) (containerName : String) : Prop :=
  ∃ replica ∈ running, replica.containerName = containerName

/-- The runtime after the first starts of a rollout. -/
def afterStarts (ids : ContainerIds) (spec : ReplicaSpec) (count : ℕ) (runtime : Runtime) :
    Runtime :=
  (List.range count).foldl (fun runtime index ↦ (startReplica ids spec index runtime).2) runtime

/-- The answers to a rollout of a runtime in which the start of a container fails exactly when one
of its name exists at that moment, and everything else succeeds. -/
structure ChecksNames (ids : ContainerIds) (runtime : Runtime) (rollout : Rollout)
    (answers : Answers) : Prop where
  pull : answers.pull = .ok ()
  start : ∀ index, index < rollout.replicas.toNat →
    (∀ earlier, earlier < index → answers.start earlier = .ok ()) →
      (answers.start index ≠ .ok () ↔ NameTaken (afterStarts ids rollout.spec index runtime).running
        (replicaName rollout.spec.name index))

/-- A rolling update of a deployment: the command succeeds, and leaves so many containers of the
deployment, all running the image and none of them an old one. -/
def RollsOver (ids : ContainerIds) (node : Node) (command : Command) (name image : String)
    (count : ℕ) : Prop :=
  let (answer, after) := handleDeployCommand ids node command
  let left := after.runtime.running.filter (·.deployName = name)
  answer = .ok () ∧ left.length = count ∧ (∀ replica ∈ left, replica.image = image) ∧
    ∀ old ∈ node.runtime.running, old.deployName = name → ∀ replica ∈ left, replica.id ≠ old.id

/-- A command that rolls over succeeds. -/
theorem RollsOver.succeeds {command : Command} {image : String} {count : ℕ}
    (hrolls : RollsOver ids node command name image count) :
    (handleDeployCommand ids node command).1 = .ok () :=
  hrolls.1

/-- A rollout for a deployment that has a replica does not go through. -/
theorem ChecksNames.not_completes {answers : Answers} {rollout : Rollout}
    (hchecks : ChecksNames ids node.runtime rollout answers)
    (hnamed : Named node.runtime.running record)
    (hname : record.name = rollout.spec.name) (hold : record.containerIds ≠ [])
    (hrequested : 1 ≤ rollout.replicas.toNat) : ¬Completes answers rollout := by
  intro hcompletes
  obtain ⟨id, rest, hids⟩ := List.exists_cons_of_ne_nil hold
  obtain ⟨replica, hreplica, -, hreplicaName⟩ := hnamed 0 id (by rw [hids]; rfl)
  have hfirst := hchecks.start 0 hrequested fun earlier hearlier ↦
    absurd hearlier earlier.not_lt_zero
  exact hfirst.mpr ⟨replica, hreplica, hname ▸ hreplicaName⟩ (hcompletes.2 0 hrequested)

/-- A rollout that does not go through is an error. -/
theorem rollOut_ne_ok (hconsistent : Consistent ids node) {answers : Answers} {rollout : Rollout}
    (hfails : ¬Completes answers rollout) (now later : ℤ) :
    (rollOut ids answers now later node (.ok rollout)).1 ≠ .ok () := by
  rcases runRollout_cases hconsistent answers now later rollout with
    ⟨-, error, after, hresult, -⟩ | ⟨hcompletes, -⟩
  · rw [rollOut, hresult]
    exact nofun
  · exact absurd hcompletes hfails

/-- Rolling updates never work: in every state that commands lead to, in a runtime that starts no
two containers of one name, no update of an active deployment that has a replica to one replica or
more goes through, and no rollback. -/
theorem rolling_update_never_works (ids : ContainerIds) (commands : List Command) (name : String)
    (record : DeployRecord)
    (hrecord : (commands.foldl (step ids) empty).deployments.lookup name = some record)
    (hactive : record.state = .active) (hrunning : 1 ≤ record.replicas.toNat) :
    let node := commands.foldl (step ids) empty
    (∀ (image : Option String) (replicas : Option UInt32) (answers : Answers) (now later : ℤ),
      1 ≤ (replicas.getD record.replicas).toNat →
      (∀ rollout, readUpdate ⟨name, image, replicas⟩ node = .ok rollout →
        ChecksNames ids node.runtime rollout answers) →
      ¬RollsOver ids node (.update ⟨name, image, replicas⟩ answers now later) name
        (image.getD record.image) (replicas.getD record.replicas).toNat) ∧
    ∀ (reason : Option String) (previous : String) (answers : Answers) (now later : ℤ),
      record.previousImage = some previous →
      (∀ rollout, readRollback ⟨name, reason⟩ node = .ok rollout →
        ChecksNames ids node.runtime rollout answers) →
      ¬RollsOver ids node (.rollback ⟨name, reason⟩ answers now later) name previous
        record.replicas.toNat := by
  intro node
  obtain ⟨hconsistent, hnamed⟩ := named_run ids commands
  have hold : record.containerIds ≠ [] := by
    intro hnone
    have hlength := (hconsistent.containers name record hrecord).length
    rw [hnone, List.length_nil] at hlength
    omega
  have hrecordName := hconsistent.named name record hrecord
  have hfails : ∀ {rollout : Rollout} {answers : Answers} (now later : ℤ),
      rollout.spec.name = name → 1 ≤ rollout.replicas.toNat →
      ChecksNames ids node.runtime rollout answers →
      (rollOut ids answers now later node (.ok rollout)).1 ≠ .ok () := by
    intro rollout answers now later hname hrequested hchecks
    exact rollOut_ne_ok hconsistent (hchecks.not_completes (hnamed name record hrecord)
      (hrecordName.trans hname.symm) hold hrequested) now later
  constructor
  · intro image replicas answers now later hrequested hchecks hrolls
    have hread : readUpdate ⟨name, image, replicas⟩ node = .ok ⟨.update record.image,
        ⟨name, image.getD record.image, record.gpusPerReplica, record.memory, record.cpu⟩,
        replicas.getD record.replicas, record.containerIds⟩ := by
      simp [readUpdate, node, hrecord, hactive]
    have hanswer :
        (rollOut ids answers now later node (readUpdate ⟨name, image, replicas⟩ node)).1 =
        .ok () := hrolls.succeeds
    rw [hread] at hanswer
    exact hfails now later rfl hrequested (hchecks _ hread) hanswer
  · intro reason previous answers now later hprevious hchecks hrolls
    have hread : readRollback ⟨name, reason⟩ node = .ok
        ⟨.rollback (reason.getD "manual rollback"),
        ⟨name, previous, record.gpusPerReplica, record.memory, record.cpu⟩, record.replicas,
        record.containerIds⟩ := by
      simp [readRollback, node, hrecord, hprevious]
    have hanswer : (rollOut ids answers now later node (readRollback ⟨name, reason⟩ node)).1 =
        .ok () := hrolls.succeeds
    rw [hread] at hanswer
    exact hfails now later rfl hrunning (hchecks _ hread) hanswer

/-- The answers of a runtime that looks at the names of the containers before a rollout. -/
def byName (running : List Replica) (name : String) : Answers where
  pull := .ok ()
  start index := if running.any (·.containerName = replicaName name index) then
      .error ("the container name " ++ replicaName name index ++ " is already in use")
    else .ok ()

/-- The containers after some starts. -/
theorem running_afterStarts (count : ℕ) (runtime : Runtime) :
    (afterStarts ids spec count runtime).running =
      runtime.running ++ (List.range count).map fun index ↦
        spec.replica (ids.id (runtime.given + index)) index := by
  have hall : afterStarts ids spec count runtime = ⟨runtime.running ++ (List.range count).map
      fun index ↦ spec.replica (ids.id (runtime.given + index)) index, runtime.given + count⟩ := by
    induction count with
    | zero => simp [afterStarts]
    | succ count ih =>
      rw [afterStarts, List.range_succ, List.foldl_concat, ← afterStarts, ih, startReplica,
        List.map_append, ← List.append_assoc]
      rfl
  rw [hall]

/-- The replicas of a deployment have different names. -/
theorem replicaName_inj {first second : ℕ}
    (hname : replicaName name first = replicaName name second) :
    first = second := by
  have hlists := congrArg String.toList hname
  simp only [replicaName, String.toList_append, List.append_cancel_left_eq] at hlists
  exact Library.Bytes.decimal_inj (String.toList_injective hlists)

/-- The containers that a rollout starts have different names, so such a runtime checks names. -/
theorem checksNames_byName (runtime : Runtime) (rollout : Rollout) :
    ChecksNames ids runtime rollout (byName runtime.running rollout.spec.name) := by
  refine ⟨rfl, fun index _ _ ↦ ?_⟩
  rw [NameTaken, running_afterStarts]
  have hnew : ∀ replica ∈ (List.range index).map fun earlier ↦
      rollout.spec.replica (ids.id (runtime.given + earlier)) earlier,
      replica.containerName ≠ replicaName rollout.spec.name index := by
    intro replica hreplica hname
    obtain ⟨earlier, hearlier, rfl⟩ := List.mem_map.mp hreplica
    exact absurd (replicaName_inj hname) (List.mem_range.mp hearlier).ne
  unfold byName
  simp only
  split_ifs with htaken
  · obtain ⟨replica, hreplica, hname⟩ := List.any_eq_true.mp htaken
    exact iff_of_true nofun
      ⟨replica, List.mem_append_left _ hreplica, of_decide_eq_true hname⟩
  · refine iff_of_false (fun hne ↦ hne rfl) ?_
    rintro ⟨replica, hreplica, hname⟩
    rcases List.mem_append.mp hreplica with hbefore | hstarted
    · exact htaken (List.any_eq_true.mpr ⟨replica, hbefore, decide_eq_true hname⟩)
    · exact hnew replica hstarted hname

/-- A deployment with one replica. -/
def oneReplica : List Command := [.create ⟨"web", "nginx:1", 1, none, none, none, none⟩ allOk 0]

/-- The runtime after it was created. -/
def webRuntime : Runtime := (oneReplica.foldl (step plainIds) empty).runtime

/-- Neither its update to two replicas goes through nor one that names nothing new. -/
theorem one_replica_never_updated :
    ¬RollsOver plainIds (oneReplica.foldl (step plainIds) empty)
        (.update ⟨"web", some "nginx:2", some 2⟩ (byName webRuntime.running "web") 1 2) "web"
        "nginx:2" 2 ∧
      ¬RollsOver plainIds (oneReplica.foldl (step plainIds) empty)
        (.update ⟨"web", none, none⟩ (byName webRuntime.running "web") 1 2) "web" "nginx:1" 1 := by
  obtain ⟨hupdates, -⟩ := rolling_update_never_works plainIds oneReplica "web" _ rfl rfl (by decide)
  constructor
  · refine hupdates (some "nginx:2") (some 2) _ 1 2 (by decide) fun rollout hread ↦ ?_
    cases hread
    exact checksNames_byName _ _
  · refine hupdates none none _ 1 2 (by decide) fun rollout hread ↦ ?_
    cases hread
    exact checksNames_byName _ _

/-- The update of a deployment to another image fails at its first replica, since the old one still
has the name. -/
theorem update_meets_old_name :
    (∀ rollout, readUpdate ⟨"web", some "nginx:2", some 1⟩
        (oneReplica.foldl (step plainIds) empty) = .ok rollout →
      ChecksNames plainIds webRuntime rollout (byName webRuntime.running "web")) ∧
    (handleDeployCommand plainIds (oneReplica.foldl (step plainIds) empty)
      (.update ⟨"web", some "nginx:2", some 1⟩ (byName webRuntime.running "web") 1 2)).1 =
        .error ("update failed at replica 0: " ++
          "the container name claw-deploy-web-0 is already in use") ∧
    ¬RollsOver plainIds (oneReplica.foldl (step plainIds) empty)
      (.update ⟨"web", some "nginx:2", some 1⟩ (byName webRuntime.running "web") 1 2) "web"
      "nginx:2" 1 := by
  have hanswer : (handleDeployCommand plainIds (oneReplica.foldl (step plainIds) empty)
      (.update ⟨"web", some "nginx:2", some 1⟩ (byName webRuntime.running "web") 1 2)).1 =
        .error ("update failed at replica 0: " ++
          "the container name claw-deploy-web-0 is already in use") :=
    rfl
  refine ⟨fun rollout hread ↦ ?_, hanswer, fun hrolls ↦ ?_⟩
  · cases hread
    exact checksNames_byName _ _
  · have hok := hanswer.symm.trans hrolls.succeeds
    cases hok

end Clawbernetes.ClawNode.Deploy
