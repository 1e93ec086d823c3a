import Clawbernetes.ClawNode.DeployInterleaving
import Clawbernetes.ClawNode.DeployRecords
import Clawbernetes.Library.Custody

/-!
# Containers that no record lists

Every container that a command starts is held by it until the record is written or the container is
removed again. What a command stops are containers that were listed when it read the record. Two
things are true in every interleaving: the containers that are held are running and not listed, and
the containers that are listed are running or being stopped (`Sound`, by the library `Custody`). A
container becomes an orphan when a record that lists it is overwritten or deleted while it is
running, or when there is no record to write to any more. `orphanFree_iff` says exactly when no
interleaving of sections leaves one behind, and `updated_while_deleted` is one that does.
-/

set_option autoImplicit false
set_option relaxedAutoImplicit false

namespace Clawbernetes.ClawNode.Deploy

open Library.FiniteTable Library.Runs Library.Interleaving Library.Custody

/-! ### Who accounts for a container -/

/-- The ids of the running containers. -/
def runningIds (node : Node) : List String := node.runtime.running.map (·.id)

/-- The ids that the record of the deployment lists. -/
def listedIds (node : Node) (name : String) : List String :=
  (node.deployments.lookup name).elim [] DeployRecord.containerIds

/-- The containers that a command has started and not given away. -/
def Task.held : Task → List String
  | .pulling _ => []
  | .starting _ started => started
  | .cleaning started => started
  | .stopping _ started _ => started
  | .deleting _ _ => []

/-- The containers that a command stops, or will. -/
def Task.stops : Task → List String
  | .pulling rollout => rollout.stops
  | .starting rollout _ => rollout.stops
  | .cleaning _ => []
  | .stopping rollout _ _ => rollout.stops
  | .deleting stops _ => stops

/-- The containers that a command is stopping, or has stopped. -/
def Task.stopped : Task → List String
  | .stopping rollout _ _ => rollout.stops
  | .deleting stops _ => stops
  | _ => []

/-- The containers of a deployment, by who accounts for them. -/
def custody (name : String) (node : Node) (tasks : List Task) : Resources String where
  live := runningIds node
  listed := listedIds node name
  held := tasks.flatMap Task.held
  retires := tasks.flatMap Task.stops
  retiring := tasks.flatMap Task.stopped

/-- No container is an orphan: every running one is listed or held by a command. -/
def OrphanFree (name : String) (node : Node) (tasks : List Task) : Prop :=
  (custody name node tasks).OrphanFree

/-- The containers that are labelled with the deployment are those that its record lists. -/
def Accounted (name : String) (node : Node) : Prop :=
  ∀ id, id ∈ (node.runtime.running.filter (·.deployName = name)).map (·.id) ↔
    id ∈ listedIds node name

/-- Whether the write of a rollout takes effect: that of a creation when there is no record, and the
others when there is one. -/
def Takes (name : String) (node : Node) (rollout : Rollout) : Prop :=
  match rollout.kind with
  | .create _ => node.deployments.lookup name = none
  | _ => (node.deployments.lookup name).isSome

/-- No container that is listed is running. -/
def NoneListedRuns (name : String) (node : Node) : Prop :=
  ∀ id ∈ listedIds node name, id ∉ runningIds node

/-- A record is written or deleted when no container that it lists is running, and a command that
cannot write its record has started nothing. -/
def WritesClean (name : String) (node : Node) (_ : List Task) (task : Task) (_ : Outside) : Prop :=
  match task with
  | .stopping rollout started [] =>
    (Takes name node rollout → NoneListedRuns name node) ∧ (¬Takes name node rollout → started = [])
  | .deleting _ [] => NoneListedRuns name node
  | _ => True

/-! ### What holds in every interleaving -/

/-- A rollout is of the deployment, and a creation stops nothing. -/
def Rollout.On (name : String) (rollout : Rollout) : Prop :=
  rollout.spec.name = name ∧ ∀ strategy, rollout.kind = .create strategy → rollout.stops = []

/-- A task is of the deployment, and has only to stop what it stops. -/
def Task.On (name : String) : Task → Prop
  | .pulling rollout => rollout.On name
  | .starting rollout _ => rollout.On name
  | .cleaning _ => True
  | .stopping rollout _ left => rollout.On name ∧ left ⊆ rollout.stops
  | .deleting stops left => left ⊆ stops

/-- An id was given by the runtime. -/
def Given (ids : ContainerIds) (node : Node) (id : String) : Prop :=
  ∃ number < node.runtime.given, id = ids.id number

/-- What holds in every interleaving. -/
structure Sound (ids : ContainerIds) (name : String) (node : Node) (tasks : List Task) : Prop where
  labelled : ∀ replica ∈ node.runtime.running, replica.deployName = name
  on_deployment : ∀ task ∈ tasks, task.On name
  custody : (custody name node tasks).Sound (Given ids node)

variable {ids : ContainerIds} {name : String} {node : Node} {rollout : Rollout} {task : Task}
  {tasks : List Task}

/-- The containers of a task and of the others. -/
theorem custody_cons (task : Task) (tasks : List Task) :
    custody name node (task :: tasks) = ⟨runningIds node, listedIds node name,
      task.held ++ tasks.flatMap Task.held, task.stops ++ tasks.flatMap Task.stops,
      task.stopped ++ tasks.flatMap Task.stopped⟩ := rfl

/-- A rollout goes on with the same containers. -/
theorem proceed_spec (hrollout : rollout.On name) (started : List String) :
    (proceed rollout started).On name ∧ (proceed rollout started).held = started ∧
      (proceed rollout started).stops = rollout.stops := by
  unfold proceed
  split_ifs
  · exact ⟨hrollout, rfl, rfl⟩
  · exact ⟨⟨hrollout, List.Subset.refl _⟩, rfl, rfl⟩

/-- A container that is removed is not running any more. -/
theorem mem_runningIds_remove (id other : String) :
    other ∈ runningIds ⟨node.deployments, removeContainer node.runtime id⟩ ↔
      other ∈ runningIds node ∧ other ≠ id := by
  simp only [runningIds, removeContainer, List.mem_map, List.mem_filter, decide_eq_true_eq]
  constructor
  · rintro ⟨replica, ⟨hreplica, hne⟩, rfl⟩
    exact ⟨⟨replica, hreplica, rfl⟩, hne⟩
  · rintro ⟨⟨replica, hreplica, rfl⟩, hne⟩
    exact ⟨replica, ⟨hreplica, hne⟩, rfl⟩

/-- The write of a rollout changes no container. -/
theorem runtime_commit (rollout : Rollout) (started : List String) (now later : ℤ) (node : Node) :
    (commit rollout started now later node).2.runtime = node.runtime := by
  unfold commit
  cases rollout.kind with
  | create strategy => rfl
  | update oldImage =>
    simp only [commit.revise]
    cases node.deployments.lookup rollout.spec.name <;> rfl
  | rollback reason =>
    simp only [commit.revise]
    cases node.deployments.lookup rollout.spec.name <;> rfl

/-- The write of a revised record lists the new containers when there is a record. -/
theorem listedIds_revise (hname : rollout.spec.name = name) {change : DeployRecord → DeployRecord}
    {started : List String} (hchange : ∀ record, (change record).containerIds = started) :
    ((node.deployments.lookup name).isSome →
        listedIds (commit.revise rollout node change) name = started) ∧
      (¬(node.deployments.lookup name).isSome →
        listedIds (commit.revise rollout node change) name = listedIds node name) := by
  unfold commit.revise
  rw [hname]
  cases hlookup : node.deployments.lookup name with
  | none => exact ⟨fun hsome ↦ absurd hsome Bool.false_ne_true, fun _ ↦ rfl⟩
  | some record =>
    refine ⟨fun _ ↦ ?_, fun hnone ↦ (hnone (by simp)).elim⟩
    have hpresent : name ∈ node.deployments := AList.lookup_isSome.mp (by rw [hlookup]; rfl)
    simp only [listedIds, lookup_replace hpresent, Option.elim_some, hchange]

/-- The write of a rollout lists its containers when it takes effect, and changes nothing
otherwise. -/
theorem listedIds_commit (hrollout : rollout.On name) (started : List String) (now later : ℤ) :
    (Takes name node rollout →
        listedIds (commit rollout started now later node).2 name = started) ∧
      (¬Takes name node rollout →
        listedIds (commit rollout started now later node).2 name = listedIds node name) := by
  have hname := hrollout.1
  unfold Takes commit
  cases rollout.kind with
  | create strategy =>
    subst hname
    rcases createRecord_cases "deployment" node.deployments rollout.spec.name
        (rollout.created strategy started now) with ⟨hknown, hresult⟩ | ⟨hnew, hresult⟩
    · simp only [hresult]
      refine ⟨fun hnone ↦ ?_, fun _ ↦ trivial⟩
      rw [hnone] at hknown
      cases hknown
    · simp only [hresult]
      refine ⟨fun _ ↦ ?_, fun hsome ↦ absurd hnew hsome⟩
      simp only [listedIds, AList.lookup_insert, Option.elim_some]
      rfl
  | update oldImage => exact listedIds_revise hname fun record ↦ rfl
  | rollback reason => exact listedIds_revise hname fun record ↦ rfl

/-- What a section of a task does: it keeps what holds in every interleaving, and leaves no orphan
behind exactly when it writes clean. -/
def GoesOn (ids : ContainerIds) (name : String) (outside : Outside) (node : Node) (task : Task)
    (tasks : List Task) : Prop :=
  Sound ids name (resumeTask ids name outside node task).1
      ((resumeTask ids name outside node task).2.toList ++ tasks) ∧
    (OrphanFree name node (task :: tasks) →
      (OrphanFree name (resumeTask ids name outside node task).1
          ((resumeTask ids name outside node task).2.toList ++ tasks) ↔
        WritesClean name node tasks task outside))

variable {outside : Outside}

/-- The containers of what a task goes on with and of the others. -/
theorem custody_next (next : Option Task) :
    custody name node (next.toList ++ tasks) =
      ⟨runningIds node, listedIds node name,
        next.toList.flatMap Task.held ++ tasks.flatMap Task.held,
        next.toList.flatMap Task.stops ++ tasks.flatMap Task.stops,
        next.toList.flatMap Task.stopped ++ tasks.flatMap Task.stopped⟩ := by
  simp only [custody, List.flatMap_append]

/-- What a task goes on with is of the deployment, and so are the others. -/
theorem on_next (hothers : ∀ other ∈ tasks, other.On name) {next : Option Task}
    (hnext : ∀ other ∈ next, other.On name) : ∀ other ∈ next.toList ++ tasks, other.On name := by
  intro other hother
  rcases List.mem_append.mp hother with hnew | hold
  · exact hnext other (Option.mem_toList.mp hnew)
  · exact hothers other hold

/-- The other tasks are of the deployment. -/
theorem Sound.on_others (hsound : Sound ids name node (task :: tasks)) :
    ∀ other ∈ tasks, other.On name := fun other hother ↦
  hsound.on_deployment other (List.mem_cons_of_mem task hother)

/-- A section that changes no container and leaves them with the command, which stops no others. -/
theorem goesOn_of_same (next : Option Task) (hsound : Sound ids name node (task :: tasks))
    (hresult : resumeTask ids name outside node task = (node, next))
    (hclean : WritesClean name node tasks task outside)
    (hon : ∀ other ∈ next, other.On name) (hheld : next.toList.flatMap Task.held = task.held)
    (hstops : next.toList.flatMap Task.stops ⊆ task.stops) (hstopped : task.stopped = []) :
    GoesOn ids name outside node task tasks := by
  have hcustody : custody name node (next.toList ++ tasks) = _ := custody_next next
  rw [hheld] at hcustody
  unfold GoesOn
  rw [hresult]
  refine ⟨⟨hsound.labelled, on_next hsound.on_others hon, ?_⟩, fun hfree ↦ iff_of_true ?_ hclean⟩
  · have hbefore := hsound.custody
    rw [custody_cons, hstopped] at hbefore
    rw [hcustody]
    exact hbefore.retask (List.append_subset.mpr
      ⟨List.subset_append_of_subset_left _ hstops, List.subset_append_right _ _⟩)
      (List.subset_append_right _ _)
  · unfold OrphanFree at hfree ⊢
    rw [hcustody]
    exact hfree

/-- The answer to a pull ends a command or lets it go on. -/
theorem goesOn_pulling (hsound : Sound ids name node (.pulling rollout :: tasks)) :
    GoesOn ids name outside node (.pulling rollout) tasks := by
  have hon : rollout.On name := hsound.on_deployment _ (List.mem_cons_self ..)
  cases hanswer : outside.answer with
  | error error =>
    refine goesOn_of_same none hsound ?_ trivial (fun other hother ↦ ?_) rfl
      (List.nil_subset _) rfl
    · simp only [resumeTask, hanswer]
    · cases hother
  | ok done =>
    obtain ⟨hproceed, hheld, hstops⟩ := proceed_spec hon []
    refine goesOn_of_same (some (proceed rollout [])) hsound ?_ trivial
      (fun other hother ↦ ?_) ?_ ?_ rfl
    · simp only [resumeTask, hanswer]
    · rwa [← Option.some_inj.mp hother]
    · rw [Option.toList_some, List.flatMap_singleton, hheld]
      rfl
    · rw [Option.toList_some, List.flatMap_singleton, hstops]
      exact List.Subset.refl _

/-- A rollout whose next replica does not start goes on to remove the others. -/
theorem goesOn_start_failed {started : List String} {error : String}
    (hsound : Sound ids name node (.starting rollout started :: tasks))
    (hanswer : outside.answer = .error error) :
    GoesOn ids name outside node (.starting rollout started) tasks := by
  have hresult : resumeTask ids name outside node (.starting rollout started) =
      (node, cleanUp started) := by
    simp only [resumeTask, hanswer]
  refine goesOn_of_same (cleanUp started) hsound hresult trivial (fun other hother ↦ ?_) ?_ ?_ rfl
  · cases started with
    | nil => cases hother
    | cons id rest =>
      rw [← Option.some_inj.mp hother]
      trivial
  · cases started <;> simp [cleanUp, Task.held]
  · cases started <;> simp [cleanUp, Task.stops]

/-- A rollout that starts its next replica holds its container, whose id is new. -/
theorem goesOn_started {started : List String}
    (hsound : Sound ids name node (.starting rollout started :: tasks))
    (hanswer : outside.answer = .ok ()) :
    GoesOn ids name outside node (.starting rollout started) tasks := by
  have hon : rollout.On name := hsound.on_deployment _ (List.mem_cons_self ..)
  let next := proceed rollout (started ++ [ids.id node.runtime.given])
  let after : Node := ⟨node.deployments, (startReplica ids rollout.spec started.length
    node.runtime).2⟩
  obtain ⟨hproceed, hheld, hstops⟩ : next.On name ∧ next.held = _ ∧ next.stops = _ :=
    proceed_spec hon (started ++ [ids.id node.runtime.given])
  have hresult : resumeTask ids name outside node (.starting rollout started) =
      (after, some next) := by
    simp only [resumeTask, hanswer]
    rfl
  have hcustody : custody name after (next :: tasks) =
      ⟨runningIds node ++ [ids.id node.runtime.given], listedIds node name,
        started ++ [ids.id node.runtime.given] ++ tasks.flatMap Task.held,
        rollout.stops ++ tasks.flatMap Task.stops, next.stopped ++ tasks.flatMap Task.stopped⟩ := by
    rw [custody_cons, hheld, hstops]
    simp only [after, runningIds, startReplica, List.map_append]
    rfl
  unfold GoesOn
  rw [hresult]
  refine ⟨⟨fun replica hreplica ↦ ?_, on_next hsound.on_others fun other hother ↦ ?_, ?_⟩,
    fun hfree ↦ iff_of_true ?_ trivial⟩
  · rcases List.mem_append.mp hreplica with hold | hnew
    · exact hsound.labelled replica hold
    · rw [List.mem_singleton.mp hnew]
      exact hon.1
  · rwa [← Option.some_inj.mp hother]
  · change (custody name after (next :: tasks)).Sound _
    rw [hcustody]
    refine Resources.Sound.acquire hsound.custody (fun id hid ↦ ?_) ?_ ?_ ?_
    · obtain ⟨number, hlt, hnumber⟩ := hid
      exact ⟨number, Nat.lt_succ_of_lt hlt, hnumber⟩
    · exact ⟨node.runtime.given, Nat.lt_succ_self _, rfl⟩
    · rintro ⟨number, hlt, hnumber⟩
      exact Nat.ne_of_gt hlt (ids.injective hnumber)
    · exact List.subset_append_right _ _
  · change (custody name after (next :: tasks)).OrphanFree
    rw [hcustody]
    exact Resources.OrphanFree.acquire hfree _

/-- A section that removes a container which the command does not hold afterwards, and which is
being stopped if it is listed. -/
theorem goesOn_of_remove {id : String} (next : Option Task)
    (hsound : Sound ids name node (task :: tasks))
    (hresult : resumeTask ids name outside node task =
      (⟨node.deployments, removeContainer node.runtime id⟩, next))
    (hclean : WritesClean name node tasks task outside) (hon : ∀ other ∈ next, other.On name)
    (hstops : next.toList.flatMap Task.stops = task.stops)
    (hstopped : next.toList.flatMap Task.stopped = task.stopped)
    (hheld : (next.toList.flatMap Task.held).Sublist task.held)
    (hrest : ∀ other ∈ task.held, other ≠ id → other ∈ next.toList.flatMap Task.held)
    (hid : id ∉ next.toList.flatMap Task.held ++ tasks.flatMap Task.held)
    (hretired : id ∈ listedIds node name → id ∈ task.stopped) :
    GoesOn ids name outside node task tasks := by
  have hcustody : custody name ⟨node.deployments, removeContainer node.runtime id⟩
      (next.toList ++ tasks) = ⟨runningIds ⟨node.deployments, removeContainer node.runtime id⟩,
        listedIds node name, next.toList.flatMap Task.held ++ tasks.flatMap Task.held,
        task.stops ++ tasks.flatMap Task.stops, task.stopped ++ tasks.flatMap Task.stopped⟩ := by
    rw [custody_next, hstops, hstopped]
    rfl
  unfold GoesOn
  rw [hresult]
  refine ⟨⟨fun replica hreplica ↦ ?_, on_next hsound.on_others hon, ?_⟩,
    fun hfree ↦ iff_of_true ?_ hclean⟩
  · exact hsound.labelled replica (List.mem_filter.mp hreplica).1
  · rw [hcustody]
    exact Resources.Sound.remove hsound.custody (mem_runningIds_remove id)
      (hheld.append (List.Sublist.refl _)) hid fun hlisted ↦
        List.mem_append_left _ (hretired hlisted)
  · unfold OrphanFree at hfree ⊢
    rw [hcustody]
    refine Resources.OrphanFree.remove hfree (mem_runningIds_remove id) fun other hother hne ↦ ?_
    rcases List.mem_append.mp hother with hown | hothers
    · exact List.mem_append_left _ (hrest other hown hne)
    · exact List.mem_append_right _ hothers

/-- A section that stops a container: no command holds it. -/
theorem goesOn_of_stop {id : String} (next : Task) (hsound : Sound ids name node (task :: tasks))
    (hresult : resumeTask ids name outside node task =
      (⟨node.deployments, removeContainer node.runtime id⟩, some next))
    (hclean : WritesClean name node tasks task outside) (hon : next.On name)
    (hheld : next.held = task.held) (hstops : next.stops = task.stops)
    (hstopped : next.stopped = task.stopped) (hid : id ∈ task.stops)
    (hstopping : id ∈ task.stopped) : GoesOn ids name outside node task tasks := by
  have hsame : (some next).toList.flatMap Task.held = task.held := by
    rw [Option.toList_some, List.flatMap_singleton, hheld]
  refine goesOn_of_remove (some next) hsound hresult hclean (fun other hother ↦ ?_) ?_ ?_ ?_ ?_ ?_
    fun _ ↦ hstopping
  · rwa [← Option.some_inj.mp hother]
  · rw [Option.toList_some, List.flatMap_singleton, hstops]
  · rw [Option.toList_some, List.flatMap_singleton, hstopped]
  · rw [hsame]
  · rw [hsame]
    exact fun other hother _ ↦ hother
  · rw [hsame]
    exact fun hmem ↦ hsound.custody.held_not_retires id hmem (List.mem_append_left _ hid)

/-- A section that gives back a container that the command holds: it is not listed. -/
theorem goesOn_of_giveBack {id : String} (next : Option Task)
    (hsound : Sound ids name node (task :: tasks))
    (hresult : resumeTask ids name outside node task =
      (⟨node.deployments, removeContainer node.runtime id⟩, next))
    (hclean : WritesClean name node tasks task outside) (hon : ∀ other ∈ next, other.On name)
    (hheld : task.held = id :: next.toList.flatMap Task.held)
    (hstops : next.toList.flatMap Task.stops = task.stops)
    (hstopped : next.toList.flatMap Task.stopped = task.stopped) :
    GoesOn ids name outside node task tasks := by
  have hbefore := hsound.custody
  rw [custody_cons, hheld] at hbefore
  refine goesOn_of_remove next hsound hresult hclean hon hstops hstopped ?_ ?_ ?_ fun hlisted ↦ ?_
  · rw [hheld]
    exact List.sublist_cons_self id _
  · intro other hother hne
    rw [hheld] at hother
    exact (List.mem_cons.mp hother).resolve_left hne
  · exact (List.nodup_cons.mp hbefore.nodup_held).1
  · exact absurd hlisted (hbefore.held_not_listed id (List.mem_cons_self ..))

/-- A failed rollout removes a container that it holds. -/
theorem goesOn_cleaning {started : List String}
    (hsound : Sound ids name node (.cleaning started :: tasks)) :
    GoesOn ids name outside node (.cleaning started) tasks := by
  cases started with
  | nil =>
    refine goesOn_of_same none hsound rfl trivial (fun other hother ↦ ?_) rfl
      (List.nil_subset _) rfl
    cases hother
  | cons id rest =>
    refine goesOn_of_giveBack (cleanUp rest) hsound rfl trivial (fun other hother ↦ ?_) ?_ ?_ ?_
    · cases rest with
      | nil => cases hother
      | cons next rest =>
        rw [← Option.some_inj.mp hother]
        trivial
    · cases rest <;> simp [cleanUp, Task.held]
    · cases rest <;> simp [cleanUp, Task.stops]
    · cases rest <;> simp [cleanUp, Task.stopped]

/-- A command that ends, with what is listed afterwards. -/
theorem sound_of_settle {after : Node} (hsound : Sound ids name node (task :: tasks))
    (hruntime : after.runtime = node.runtime)
    (hlisted : ∀ id ∈ listedIds after name, id ∈ task.held ∨ id ∈ listedIds node name ∧
      (id ∈ runningIds node ∨ id ∈ tasks.flatMap Task.stopped)) :
    Sound ids name after tasks := by
  refine ⟨?_, hsound.on_others, ?_⟩
  · rw [hruntime]
    exact hsound.labelled
  · have hgiven : Given ids after = Given ids node := by
      unfold Given
      rw [hruntime]
    have hrunning : runningIds after = runningIds node := by rw [runningIds, hruntime, runningIds]
    have hbefore := hsound.custody
    rw [custody_cons] at hbefore
    rw [hgiven, custody, hrunning]
    exact hbefore.settle (List.subset_append_right _ _) hlisted

/-- The containers when only the record has changed. -/
theorem custody_of_runtime {after : Node} (hruntime : after.runtime = node.runtime) :
    custody name after tasks = ⟨runningIds node, listedIds after name, tasks.flatMap Task.held,
      tasks.flatMap Task.stops, tasks.flatMap Task.stopped⟩ := by
  simp only [custody, runningIds, hruntime]

/-- A command that ends by listing what it holds leaves an orphan if a container that was listed is
running. -/
theorem goesOn_of_publish {after : Node} (hsound : Sound ids name node (task :: tasks))
    (hresult : resumeTask ids name outside node task = (after, none))
    (hruntime : after.runtime = node.runtime) (hlisted : listedIds after name = task.held)
    (hclean : WritesClean name node tasks task outside ↔ NoneListedRuns name node) :
    GoesOn ids name outside node task tasks := by
  unfold GoesOn
  rw [hresult, hclean]
  refine ⟨sound_of_settle hsound hruntime fun id hid ↦ .inl (hlisted ▸ hid), fun hfree ↦ ?_⟩
  change (custody name after tasks).OrphanFree ↔ _
  rw [custody_of_runtime hruntime, hlisted]
  exact Resources.orphanFree_publish_iff hsound.custody hfree

/-- A command that ends without a record to write leaves an orphan if it holds a container. -/
theorem goesOn_of_forget {after : Node} (hsound : Sound ids name node (task :: tasks))
    (hresult : resumeTask ids name outside node task = (after, none))
    (hruntime : after.runtime = node.runtime)
    (hlisted : listedIds after name = listedIds node name)
    (hstopped : ∀ id ∈ listedIds node name, id ∉ task.stopped)
    (hclean : WritesClean name node tasks task outside ↔ task.held = []) :
    GoesOn ids name outside node task tasks := by
  unfold GoesOn
  rw [hresult, hclean]
  refine ⟨sound_of_settle hsound hruntime fun id hid ↦ .inr ?_, fun hfree ↦ ?_⟩
  · rw [hlisted] at hid
    refine ⟨hid, (hsound.custody.listed_live id hid).imp_right fun hretired ↦ ?_⟩
    exact (List.mem_append.mp hretired).resolve_left (hstopped id hid)
  · change (custody name after tasks).OrphanFree ↔ _
    rw [custody_of_runtime hruntime, hlisted]
    exact Resources.orphanFree_forget_iff hsound.custody hfree

/-- A rollout whose write does not take effect stops nothing that is listed. -/
theorem stops_of_not_takes (hrollout : rollout.On name) (hmisses : ¬Takes name node rollout)
    {id : String} (hid : id ∈ listedIds node name) : id ∉ rollout.stops := by
  unfold Takes at hmisses
  split at hmisses
  case h_1 strategy hkind =>
    rw [hrollout.2 strategy hkind]
    exact List.not_mem_nil
  case h_2 hkind =>
    rw [Option.not_isSome_iff_eq_none] at hmisses
    rw [listedIds, hmisses] at hid
    cases hid

/-- A rollout stops the next container, or writes its record. -/
theorem goesOn_stopping {started left : List String}
    (hsound : Sound ids name node (.stopping rollout started left :: tasks)) :
    GoesOn ids name outside node (.stopping rollout started left) tasks := by
  obtain ⟨hon, hleft⟩ : rollout.On name ∧ left ⊆ rollout.stops :=
    hsound.on_deployment _ (List.mem_cons_self ..)
  cases left with
  | nil =>
    have hruntime := runtime_commit rollout started outside.now outside.later node
    obtain ⟨htaken, hmissed⟩ := listedIds_commit hon started outside.now outside.later
    by_cases htakes : Takes name node rollout
    · refine goesOn_of_publish hsound rfl hruntime (htaken htakes) ?_
      exact ⟨fun hclean ↦ hclean.1 htakes,
        fun hnone ↦ ⟨fun _ ↦ hnone, fun hnot ↦ absurd htakes hnot⟩⟩
    · refine goesOn_of_forget hsound rfl hruntime (hmissed htakes)
        (fun id hid ↦ stops_of_not_takes hon htakes hid) ?_
      exact ⟨fun hclean ↦ hclean.2 htakes,
        fun hnone ↦ ⟨fun hnow ↦ absurd hnow htakes, fun _ ↦ hnone⟩⟩
  | cons id rest =>
    have hid : id ∈ rollout.stops := hleft (List.mem_cons_self ..)
    exact goesOn_of_stop (.stopping rollout started rest) hsound rfl trivial
      ⟨hon, List.Subset.trans (List.subset_cons_self id rest) hleft⟩ rfl rfl rfl hid hid

/-- A deletion removes the next container, or the record. -/
theorem goesOn_deleting {stops left : List String}
    (hsound : Sound ids name node (.deleting stops left :: tasks)) :
    GoesOn ids name outside node (.deleting stops left) tasks := by
  have hleft : left ⊆ stops := hsound.on_deployment _ (List.mem_cons_self ..)
  cases left with
  | nil =>
    refine goesOn_of_publish hsound rfl rfl ?_ Iff.rfl
    simp only [listedIds, AList.lookup_erase]
    rfl
  | cons id rest =>
    have hid : id ∈ stops := hleft (List.mem_cons_self ..)
    exact goesOn_of_stop (.deleting stops rest) hsound rfl trivial
      (List.Subset.trans (List.subset_cons_self id rest) hleft) rfl rfl rfl hid hid

/-- Every section of a command. -/
theorem goesOn (outside : Outside) (hsound : Sound ids name node (task :: tasks)) :
    GoesOn ids name outside node task tasks := by
  cases task with
  | pulling rollout => exact goesOn_pulling hsound
  | starting rollout started =>
    cases hanswer : outside.answer with
    | error error => exact goesOn_start_failed hsound hanswer
    | ok done => exact goesOn_started hsound hanswer
  | cleaning started => exact goesOn_cleaning hsound
  | stopping rollout started left => exact goesOn_stopping hsound
  | deleting stops left => exact goesOn_deleting hsound

/-! ### How commands begin -/

/-- What is read before a rollout is of the deployment, and what it will stop is listed. -/
theorem Read.on (hread : Read node rollout) (hname : rollout.spec.name = name) :
    rollout.On name ∧ rollout.stops ⊆ listedIds node name := by
  refine ⟨⟨hname, fun strategy hkind ↦ ?_⟩, fun id hid ↦ ?_⟩
  · unfold Read at hread
    rw [hkind] at hread
    exact hread.2
  · obtain ⟨record, hlookup, hlisted⟩ := hread.stops_mem hid
    rw [hname] at hlookup
    rw [listedIds, hlookup]
    exact hlisted

/-- The first task of a rollout has started nothing. -/
theorem firstTask_spec (hrollout : rollout.On name) :
    (firstTask rollout).On name ∧ (firstTask rollout).held = [] ∧
      (firstTask rollout).stops = rollout.stops := by
  unfold firstTask
  split_ifs
  · exact ⟨hrollout, rfl, rfl⟩
  · exact proceed_spec hrollout []

/-- The first task of a command has started nothing, and what it will stop is listed. -/
def Begins (name : String) (node : Node) (task : Task) : Prop :=
  task.On name ∧ task.held = [] ∧ task.stops ⊆ listedIds node name

/-- The first task of a command that reads a rollout. -/
theorem begins_of_read {read : Except String Rollout}
    (hread : ∀ rollout, read = .ok rollout → Read node rollout ∧ rollout.spec.name = name)
    (htask : read.toOption.map firstTask = some task) : Begins name node task := by
  cases hresult : read with
  | error error =>
    rw [hresult] at htask
    cases htask
  | ok rollout =>
    rw [hresult] at htask
    obtain rfl : firstTask rollout = task := Option.some_inj.mp htask
    obtain ⟨hrollout, hlisted⟩ := (hread rollout hresult).1.on (hread rollout hresult).2
    obtain ⟨hon, hheld, hstops⟩ := firstTask_spec hrollout
    exact ⟨hon, hheld, hstops ▸ hlisted⟩

/-- The first task of a command. -/
theorem begins_of_beginRequest {request : Request} (hname : request.name = name)
    (htask : beginRequest node request = some task) : Begins name node task := by
  subst hname
  cases request with
  | create params =>
    refine begins_of_read (fun rollout hread ↦ ⟨read_of_readCreate hread, ?_⟩) htask
    obtain ⟨-, rfl⟩ := readCreate_ok hread
    rfl
  | update params =>
    refine begins_of_read (fun rollout hread ↦ ⟨read_of_readUpdate hread, ?_⟩) htask
    obtain ⟨record, -, -, rfl⟩ := readUpdate_ok hread
    rfl
  | rollback params =>
    refine begins_of_read (fun rollout hread ↦ ⟨read_of_readRollback hread, ?_⟩) htask
    obtain ⟨record, previous, -, -, rfl⟩ := readRollback_ok hread
    rfl
  | delete deployment =>
    obtain ⟨record, hlookup, rfl⟩ := Option.map_eq_some_iff.mp htask
    refine ⟨List.Subset.refl _, rfl, fun id hid ↦ ?_⟩
    change id ∈ listedIds node deployment
    rw [listedIds, hlookup]
    exact hid

/-- A command that begins keeps what holds in every interleaving. -/
theorem Sound.begin (hsound : Sound ids name node tasks) {request : Request}
    (hname : request.name = name) :
    Sound ids name node ((beginRequest node request).toList ++ tasks) := by
  cases htask : beginRequest node request with
  | none => exact hsound
  | some task =>
    obtain ⟨hon, hheld, hlisted⟩ := begins_of_beginRequest hname htask
    refine ⟨hsound.labelled, on_next hsound.on_deployment fun other hother ↦ ?_, ?_⟩
    · rwa [← Option.some_inj.mp hother]
    · change (Deploy.custody name node (task :: tasks)).Sound _
      rw [custody_cons, hheld]
      exact Resources.Sound.refer hsound.custody hlisted (List.subset_append_right _ _)

/-- A command that begins makes no orphan. -/
theorem orphanFree_begin_iff {request : Request} (hname : request.name = name) :
    OrphanFree name node ((beginRequest node request).toList ++ tasks) ↔
      OrphanFree name node tasks := by
  cases htask : beginRequest node request with
  | none => exact Iff.rfl
  | some task =>
    obtain ⟨-, hheld, -⟩ := begins_of_beginRequest hname htask
    change (custody name node (task :: tasks)).OrphanFree ↔ _
    rw [custody_cons, hheld]
    exact Iff.rfl

/-! ### Runs -/

/-- The order of the tasks means nothing. -/
theorem Sound.perm {others : List Task} (hperm : tasks.Perm others)
    (hsound : Sound ids name node tasks) : Sound ids name node others := by
  have hheld : (tasks.flatMap Task.held).Perm (others.flatMap Task.held) := hperm.flatMap_right _
  have hstops : (tasks.flatMap Task.stops).Perm (others.flatMap Task.stops) := hperm.flatMap_right _
  have hstopped : (tasks.flatMap Task.stopped).Perm (others.flatMap Task.stopped) :=
    hperm.flatMap_right _
  exact ⟨hsound.labelled, fun task htask ↦ hsound.on_deployment task (hperm.mem_iff.mpr htask),
    hsound.custody.perm hheld hstops hstopped⟩

/-- The order of the tasks means nothing for orphans. -/
theorem OrphanFree.perm {others : List Task} (hperm : tasks.Perm others)
    (hfree : OrphanFree name node tasks) : OrphanFree name node others := fun id hid ↦
  (hfree id hid).imp_right (hperm.flatMap_right Task.held).mem_iff.mp

/-- No deployments and no commands. -/
theorem sound_start (ids : ContainerIds) (name : String) : Sound ids name empty [] := by
  refine ⟨fun replica hreplica ↦ ?_, fun task htask ↦ ?_, ?_⟩
  · cases hreplica
  · cases htask
  · exact Resources.sound_empty _

/-- Every section keeps what holds in every interleaving. -/
theorem sound_step (world : World Node Task) (move : Move (RequestOn name) Outside)
    (hsound : Sound ids name world.shared world.pending) :
    Sound ids name ((protocol ids name).step world move).shared
      ((protocol ids name).step world move).pending := by
  exact (protocol ids name).good_step (Sound ids name) (fun _ _ _ hperm ↦ Sound.perm hperm)
    (fun _ _ request hbefore ↦ hbefore.begin request.2)
    (fun _ _ _ outside hbefore ↦ (goesOn outside hbefore).1) world move hsound

/-- A section leaves no orphan behind if and only if it writes clean. -/
theorem orphanFree_step_iff (world : World Node Task) (move : Move (RequestOn name) Outside)
    (hsound : Sound ids name world.shared world.pending)
    (hfree : OrphanFree name world.shared world.pending) :
    OrphanFree name ((protocol ids name).step world move).shared
        ((protocol ids name).step world move).pending ↔
      Protocol.Allowed (fun _ _ _ ↦ True) (WritesClean name) world move := by
  have hexact := (protocol ids name).good_step_iff
    (fun node tasks ↦ Sound ids name node tasks ∧ OrphanFree name node tasks)
    (fun _ _ _ hperm hbefore ↦ ⟨hbefore.1.perm hperm, hbefore.2.perm hperm⟩)
    (fun _ _ request hbefore ↦ iff_true_intro
      ⟨hbefore.1.begin request.2, (orphanFree_begin_iff request.2).mpr hbefore.2⟩)
    (fun _ _ _ outside hbefore ↦ (and_iff_right (goesOn outside hbefore.1).1).trans
      ((goesOn outside hbefore.1).2 hbefore.2)) world move ⟨hsound, hfree⟩
  rwa [and_iff_right (sound_step world move hsound)] at hexact

/-- When no command is on its way, the containers are accounted for if there is no orphan. -/
theorem Sound.accounted (hsound : Sound ids name node []) (hfree : OrphanFree name node []) :
    Accounted name node := by
  intro id
  have hall : node.runtime.running.filter (·.deployName = name) = node.runtime.running :=
    List.filter_eq_self.mpr fun replica hreplica ↦ decide_eq_true (hsound.labelled replica hreplica)
  rw [hall]
  constructor
  · exact fun hid ↦ (hfree id hid).resolve_right List.not_mem_nil
  · exact fun hid ↦ (hsound.custody.listed_live id hid).resolve_right List.not_mem_nil

/-- In a run of overlapping commands on a deployment, every running container is listed or held by a
command at all times, if and only if every record is written or deleted when none of the containers
that it lists is running, and every command that has started containers can write its record.
In such a run, the containers of the deployment are those that its record lists whenever no command
is on its way. -/
theorem orphanFree_iff (ids : ContainerIds) (name : String)
    (moves : List (Move (RequestOn name) Outside)) :
    (Always (protocol ids name).step (fun world ↦ OrphanFree name world.shared world.pending) start
        moves ↔
      Throughout (protocol ids name).step
        (Protocol.Allowed (fun _ _ _ ↦ True) (WritesClean name)) start moves) ∧
    (Throughout (protocol ids name).step (Protocol.Allowed (fun _ _ _ ↦ True) (WritesClean name))
      start moves →
      Always (protocol ids name).step
        (fun world ↦ Protocol.Quiescent world → Accounted name world.shared) start moves) := by
  have hsound : Always (protocol ids name).step
      (fun world ↦ Sound ids name world.shared world.pending) start moves :=
    by
    refine always_of_step ?_ sound_step moves
    exact sound_start ids name
  have hstart : OrphanFree name start.shared start.pending :=
    fun id hid ↦ absurd hid List.not_mem_nil
  have hfree := always_iff_throughout_of_always hsound hstart orphanFree_step_iff
  refine ⟨hfree, fun hclean done hdone hquiescent ↦ ?_⟩
  have hdone_sound : Sound ids name _ _ := hsound done hdone
  have hdone_free : OrphanFree name _ _ := hfree.mpr hclean done hdone
  unfold Protocol.Quiescent at hquiescent
  rw [hquiescent] at hdone_sound hdone_free
  exact hdone_sound.accounted hdone_free

/-- An update outlives a deletion: it starts its container when the record is gone. -/
theorem updated_while_deleted :
    let moves : List (Move (RequestOn "web") Outside) := [
      .begin ⟨.create ⟨"web", "app:1", 1, none, none, none, none⟩, rfl⟩,
      .resume 0 quiet, .resume 0 quiet, .resume 0 quiet,
      .begin ⟨.update ⟨"web", some "app:2", none⟩, rfl⟩,
      .begin ⟨.delete "web", rfl⟩,
      .resume 1 quiet, .resume 1 quiet,
      .resume 0 quiet, .resume 0 quiet, .resume 0 quiet, .resume 0 quiet]
    ¬Always (protocol plainIds "web").step
      (fun world ↦ Protocol.Quiescent world → Accounted "web" world.shared) start moves := by
  intro moves halways
  have hquiescent : (moves.foldl (protocol plainIds "web").step start).pending = [] := by
    decide +kernel
  have haccounted := halways moves (List.prefix_refl moves) hquiescent
  have hrunning : ((moves.foldl (protocol plainIds "web").step start).shared.runtime.running.filter
      (·.deployName = "web")).map (·.id) = ["c"] := by
    decide +kernel
  have hlisted :
      listedIds (moves.foldl (protocol plainIds "web").step start).shared "web" = [] := by
    decide +kernel
  have hmem := (haccounted "c").mp (hrunning ▸ List.mem_singleton_self "c")
  rw [hlisted] at hmem
  cases hmem

end Clawbernetes.ClawNode.Deploy
