import Clawbernetes.ClawNode.DeployRecords

/-!
# Paused deployments

A paused deployment is to be left alone until it is promoted or deleted. An update refuses to go on
for a paused deployment, but a rollback does not ask, and makes it active again. `paused_kept_iff`
says exactly in which runs paused deployments are left alone.
-/

set_option autoImplicit false
set_option relaxedAutoImplicit false

namespace Clawbernetes.ClawNode.Deploy

open Library.FiniteTable Library.Runs

variable {ids : ContainerIds} {node : Node} {record : DeployRecord} {name : String}

/-- A node, beside the deployments that were paused and neither promoted nor deleted since. -/
structure Watched where
  node : Node
  held : List String

/-- The node and the deployments that are held after a command. -/
def watchedStep (ids : ContainerIds) (state : Watched) (command : Command) : Watched where
  node := step ids state.node command
  held :=
    match command with
    | .pause name _ =>
      if (state.node.deployments.lookup name).isSome then name :: state.held else state.held
    | .promote name _ => state.held.filter (· ≠ name)
    | .delete name => state.held.filter (· ≠ name)
    | _ => state.held

/-- The name of the deployment that a command deletes. -/
def Command.deletes : Command → Option String
  | .delete name => some name
  | _ => none

/-- A record has the same image, replicas and containers. -/
def SameContainers (record after : DeployRecord) : Prop :=
  after.image = record.image ∧ after.replicas = record.replicas ∧
    after.containerIds = record.containerIds

/-- A command leaves the image, the replicas and the containers of every held deployment, unless it
deletes it. -/
def LeavesHeld (ids : ContainerIds) (state : Watched) (command : Command) : Prop :=
  ∀ name ∈ state.held, command.deletes ≠ some name →
    ∀ record, state.node.deployments.lookup name = some record →
      ∃ after, (step ids state.node command).deployments.lookup name = some after ∧
        SameContainers record after

/-- A rollout of a held deployment does not go through, unless it has the same image and there are
no replicas before and after. -/
def HeldBack (state : Watched) (answers : Answers) (read : Except String Rollout) : Prop :=
  ∀ rollout record, read = .ok rollout → rollout.spec.name ∈ state.held →
    state.node.deployments.lookup rollout.spec.name = some record → Completes answers rollout →
    rollout.spec.image = record.image ∧ rollout.replicas = 0 ∧ record.replicas = 0

/-- No rollback goes through for a held deployment, nor does an update that finds it active
again. -/
def HoldsBack (state : Watched) : Command → Prop
  | .update params answers _ _ => HeldBack state answers (readUpdate params state.node)
  | .rollback params answers _ _ => HeldBack state answers (readRollback params state.node)
  | _ => True

variable {state : Watched}

/-- A rollout gets the ids that a record has only when there are none. -/
theorem Consistent.nextIds_eq_iff (hconsistent : Consistent ids node) (rollout : Rollout)
    (hlookup : node.deployments.lookup name = some record) :
    node.nextIds ids rollout = record.containerIds ↔
      rollout.replicas = 0 ∧ record.replicas = 0 := by
  have hcontainers := hconsistent.containers name record hlookup
  have hlength : (node.nextIds ids rollout).length = rollout.replicas.toNat := length_newIds _ _
  constructor
  · intro hsame
    have hnone : node.nextIds ids rollout = [] := by
      refine List.eq_nil_iff_forall_not_mem.mpr fun id hid ↦ ?_
      obtain ⟨replica, hreplica, rfl, -⟩ := hcontainers.runs id (hsame ▸ hid)
      exact hconsistent.not_mem_newIds hreplica _ hid
    have hrecord := hcontainers.length
    rw [← hsame, hnone] at hrecord
    rw [hnone] at hlength
    exact ⟨UInt32.toNat_inj.mp hlength.symm, UInt32.toNat_inj.mp hrecord.symm⟩
  · rintro ⟨hnone, hrecord⟩
    have hempty := hcontainers.length
    rw [hnone] at hlength
    rw [hrecord] at hempty
    rw [List.length_eq_zero_iff.mp hlength, List.length_eq_zero_iff.mp hempty]

/-- A rollout leaves the held deployments exactly when it is held back. -/
theorem leavesHeld_rollOut_iff (hconsistent : Consistent ids state.node) (answers : Answers)
    (now later : ℤ) {read : Except String Rollout}
    (hread : ∀ rollout, read = .ok rollout → Read state.node rollout) :
    (∀ name ∈ state.held, ∀ record, state.node.deployments.lookup name = some record →
      ∃ after, (rollOut ids answers now later state.node read).2.deployments.lookup name =
        some after ∧ SameContainers record after) ↔
      HeldBack state answers read := by
  rcases rollOut_cases hconsistent answers now later hread with
    ⟨hfails, error, after, hafter, honly, -⟩ |
    ⟨rollout, deployments, written, hrollout, hcompletes, hafter, hwritten⟩
  · rw [hafter, honly]
    refine iff_of_true (fun name _ record hlookup ↦ ⟨record, hlookup, rfl, rfl, rfl⟩) ?_
    exact fun rollout _ hrollout _ _ hcompletes ↦ absurd hcompletes (hfails rollout hrollout)
  · rw [hafter]
    constructor
    · intro hleaves other record hother hheld hlookup _
      obtain rfl : rollout = other := Except.ok.inj (hrollout.symm.trans hother)
      obtain ⟨found, hfound, himage, -, hids⟩ := hleaves _ hheld record hlookup
      rw [hwritten.lookup, Option.some_inj] at hfound
      rw [← hfound, hwritten.containerIds, hconsistent.nextIds_eq_iff rollout hlookup] at hids
      exact ⟨by rw [← himage, ← hfound, hwritten.image], hids⟩
    · intro hback name hheld record hlookup
      by_cases hname : name = rollout.spec.name
      · subst hname
        obtain ⟨himage, hnone⟩ := hback rollout record hrollout hheld hlookup hcompletes
        refine ⟨written, hwritten.lookup, by rw [hwritten.image, himage], ?_, ?_⟩
        · rw [hwritten.replicas, hnone.1, hnone.2]
        · rw [hwritten.containerIds]
          exact (hconsistent.nextIds_eq_iff rollout hlookup).mpr hnone
      · exact ⟨record, (hwritten.others name hname).trans hlookup, rfl, rfl, rfl⟩

/-- A change of a record leaves the containers of all records when it leaves those of its own. -/
theorem changeRecord_leaves {change : DeployRecord → DeployRecord} (target : String)
    (hsame : ∀ record, SameContainers record (change record))
    (hlookup : node.deployments.lookup name = some record) :
    ∃ after, (changeRecord target change node).2.deployments.lookup name = some after ∧
      SameContainers record after := by
  unfold changeRecord
  cases htarget : node.deployments.lookup target with
  | none => exact ⟨record, hlookup, rfl, rfl, rfl⟩
  | some found =>
    by_cases hname : name = target
    · subst hname
      obtain rfl : record = found := Option.some_inj.mp (hlookup.symm.trans htarget)
      have hpresent : name ∈ node.deployments := AList.lookup_isSome.mp (by rw [hlookup]; rfl)
      exact ⟨change record, lookup_replace hpresent _, hsame record⟩
    · exact ⟨record, (lookup_replace_ne hname _).trans hlookup, rfl, rfl, rfl⟩

/-- A command leaves the held deployments exactly when it is held back. -/
theorem leavesHeld_iff (hconsistent : Consistent ids state.node) (command : Command) :
    LeavesHeld ids state command ↔ HoldsBack state command := by
  unfold LeavesHeld
  cases command with
  | create params answers now =>
    -- A creation is of a deployment that is not there yet, so it is not one of the held ones.
    refine iff_of_true (fun name hheld _ record hlookup ↦ ?_) trivial
    have hnew : HeldBack state answers (readCreate params state.node) := by
      intro rollout found hrollout _ hfound
      obtain ⟨hnone, rfl⟩ := readCreate_ok hrollout
      rw [hnone] at hfound
      cases hfound
    exact (leavesHeld_rollOut_iff hconsistent answers now now
      fun _ ↦ read_of_readCreate).mpr hnew name hheld record hlookup
  | update params answers now later =>
    simp only [Command.deletes, ne_eq, reduceCtorEq, not_false_eq_true, true_implies]
    exact leavesHeld_rollOut_iff hconsistent answers now later fun _ ↦ read_of_readUpdate
  | rollback params answers now later =>
    simp only [Command.deletes, ne_eq, reduceCtorEq, not_false_eq_true, true_implies]
    exact leavesHeld_rollOut_iff hconsistent answers now later fun _ ↦ read_of_readRollback
  | promote target now =>
    refine iff_of_true (fun name _ _ record hlookup ↦ ?_) trivial
    exact changeRecord_leaves target (fun _ ↦ ⟨rfl, rfl, rfl⟩) hlookup
  | pause target now =>
    refine iff_of_true (fun name _ _ record hlookup ↦ ?_) trivial
    exact changeRecord_leaves target (fun _ ↦ ⟨rfl, rfl, rfl⟩) hlookup
  | delete target =>
    refine iff_of_true (fun name _ hother record hlookup ↦ ?_) trivial
    have hname : name ≠ target := fun hsame ↦ hother (by rw [hsame]; rfl)
    refine ⟨record, ?_, rfl, rfl, rfl⟩
    simp only [step, handleDeployCommand, handleDeployDelete]
    cases state.node.deployments.lookup target with
    | none => exact hlookup
    | some found => exact (AList.lookup_erase_ne hname).trans hlookup

/-- No rollback of a held deployment goes through. -/
def NoRollback (state : Watched) : Command → Prop
  | .rollback params answers _ _ => params.name ∈ state.held →
      ∀ rollout, readRollback params state.node = .ok rollout → ¬Completes answers rollout
  | _ => True

/-- The held deployments are paused. -/
def HeldPaused (state : Watched) : Prop :=
  ∀ name ∈ state.held, ∃ record, state.node.deployments.lookup name = some record ∧
    record.state = .paused

/-- Updates of paused deployments are refused, so only rollbacks have to be held back. -/
theorem holdsBack_of_noRollback (hpaused : HeldPaused state) {command : Command}
    (hno : NoRollback state command) : HoldsBack state command := by
  cases command with
  | update params answers now later =>
    intro rollout record hrollout hheld hlookup _
    obtain ⟨found, hfound, hactive, rfl⟩ := readUpdate_ok hrollout
    obtain ⟨held, hheld, hstate⟩ := hpaused _ hheld
    rw [Option.some_inj.mp (hfound.symm.trans hheld)] at hactive
    exact absurd hstate hactive
  | rollback params answers now later =>
    intro rollout record hrollout hheld hlookup hcompletes
    obtain ⟨found, previous, hfound, -, rfl⟩ := readRollback_ok hrollout
    exact absurd hcompletes (hno hheld _ hrollout)
  | create params answers now => trivial
  | promote name now => trivial
  | pause name now => trivial
  | delete name => trivial

/-- A rollout that does not go through for a deployment leaves its record. -/
theorem rollOut_lookup (hconsistent : Consistent ids node) (answers : Answers) (now later : ℤ)
    {read : Except String Rollout} (hread : ∀ rollout, read = .ok rollout → Read node rollout)
    (hnot : ∀ rollout, read = .ok rollout → Completes answers rollout → rollout.spec.name ≠ name) :
    (rollOut ids answers now later node read).2.deployments.lookup name =
      node.deployments.lookup name := by
  rcases rollOut_cases hconsistent answers now later hread with
    ⟨-, error, after, hafter, honly, -⟩ |
    ⟨rollout, deployments, written, hrollout, hcompletes, hafter, hwritten⟩
  · rw [hafter, honly]
  · rw [hafter]
    exact hwritten.others name (hnot rollout hrollout hcompletes).symm

/-- A change of a record leaves the other records. -/
theorem changeRecord_lookup {change : DeployRecord → DeployRecord} {target : String}
    (hname : name ≠ target) :
    (changeRecord target change node).2.deployments.lookup name = node.deployments.lookup name := by
  unfold changeRecord
  cases node.deployments.lookup target with
  | none => rfl
  | some record => exact lookup_replace_ne hname _

/-- A pause leaves the held deployments paused, and the one that it holds as well. -/
theorem heldPaused_pause (hpaused : HeldPaused state) (target : String) (now : ℤ) :
    HeldPaused (watchedStep ids state (.pause target now)) := by
  intro name hheld
  by_cases hname : name = target
  · -- The deployment that is paused now is there, since it was held or is held now.
    subst hname
    have hpresent : (state.node.deployments.lookup name).isSome := by
      by_contra hnone
      simp only [watchedStep, if_neg hnone] at hheld
      obtain ⟨record, hlookup, -⟩ := hpaused name hheld
      exact hnone (by rw [hlookup]; rfl)
    obtain ⟨record, hlookup⟩ := Option.isSome_iff_exists.mp hpresent
    refine ⟨{ record with state := .paused, updatedAt := now }, ?_, rfl⟩
    simp only [watchedStep, step, handleDeployCommand, handleDeployPause, changeRecord, hlookup]
    exact lookup_replace (AList.lookup_isSome.mp hpresent) _
  · have hold : name ∈ state.held := by
      simp only [watchedStep] at hheld
      split_ifs at hheld
      · exact (List.mem_cons.mp hheld).resolve_left hname
      · exact hheld
    obtain ⟨record, hlookup, hstate⟩ := hpaused name hold
    exact ⟨record, (changeRecord_lookup hname).trans hlookup, hstate⟩

/-- The held deployments stay paused while no rollback of them goes through. -/
theorem heldPaused_step (hconsistent : Consistent ids state.node) (hpaused : HeldPaused state)
    {command : Command} (hno : NoRollback state command) :
    HeldPaused (watchedStep ids state command) := by
  intro name hheld
  cases command with
  | create params answers now =>
    obtain ⟨record, hlookup, hstate⟩ := hpaused name hheld
    refine ⟨record, (rollOut_lookup hconsistent answers now now (fun _ ↦ read_of_readCreate)
      fun rollout hrollout _ hname ↦ ?_).trans hlookup, hstate⟩
    obtain ⟨hnone, rfl⟩ := readCreate_ok hrollout
    rw [show params.name = name from hname, hlookup] at hnone
    cases hnone
  | update params answers now later =>
    obtain ⟨record, hlookup, hstate⟩ := hpaused name hheld
    refine ⟨record, (rollOut_lookup hconsistent answers now later (fun _ ↦ read_of_readUpdate)
      fun rollout hrollout _ hname ↦ ?_).trans hlookup, hstate⟩
    obtain ⟨found, hfound, hactive, rfl⟩ := readUpdate_ok hrollout
    rw [show params.name = name from hname, hlookup, Option.some_inj] at hfound
    exact hactive (hfound ▸ hstate)
  | rollback params answers now later =>
    obtain ⟨record, hlookup, hstate⟩ := hpaused name hheld
    refine ⟨record, (rollOut_lookup hconsistent answers now later (fun _ ↦ read_of_readRollback)
      fun rollout hrollout hcompletes hname ↦ ?_).trans hlookup, hstate⟩
    obtain ⟨found, previous, hfound, -, rfl⟩ := readRollback_ok hrollout
    rw [← show params.name = name from hname] at hheld
    exact hno hheld _ hrollout hcompletes
  | promote target now =>
    obtain ⟨hheld, hname⟩ := List.mem_filter.mp hheld
    obtain ⟨record, hlookup, hstate⟩ := hpaused name hheld
    exact ⟨record, (changeRecord_lookup (of_decide_eq_true hname)).trans hlookup, hstate⟩
  | pause target now => exact heldPaused_pause hpaused target now name hheld
  | delete target =>
    obtain ⟨hheld, hname⟩ := List.mem_filter.mp hheld
    obtain ⟨record, hlookup, hstate⟩ := hpaused name hheld
    refine ⟨record, ?_, hstate⟩
    simp only [watchedStep, step, handleDeployCommand, handleDeployDelete]
    cases state.node.deployments.lookup target with
    | none => exact hlookup
    | some found => exact (AList.lookup_erase_ne (of_decide_eq_true hname)).trans hlookup

/-- No deployment is held at first. -/
def watchedEmpty : Watched := ⟨empty, []⟩

/-- In a run of commands the image, the replicas and the containers of deployments that are paused
and neither promoted nor deleted since are left alone, if and only if no rollback of one goes
through, nor an update that finds one active again, other than from no replicas to no replicas of
the same image. It is enough that no rollback goes through. -/
theorem paused_kept_iff (ids : ContainerIds) (commands : List Command) :
    (Throughout (watchedStep ids) (LeavesHeld ids) watchedEmpty commands ↔
        Throughout (watchedStep ids) HoldsBack watchedEmpty commands) ∧
      (Throughout (watchedStep ids) NoRollback watchedEmpty commands →
        Throughout (watchedStep ids) HoldsBack watchedEmpty commands) := by
  have hconsistent : Always (watchedStep ids) (fun state ↦ Consistent ids state.node) watchedEmpty
      commands := by
    refine always_of_step ?_ (fun state command hbefore ↦ ?_) commands
    · exact consistent_empty ids
    · exact consistent_step hbefore command
  constructor
  · exact throughout_congr fun done command hdone ↦
      leavesHeld_iff (hconsistent done (prefix_of_concat hdone)) command
  · intro hno
    have hpaused : Always (watchedStep ids)
        (fun state ↦ Consistent ids state.node ∧ HeldPaused state) watchedEmpty commands := by
      refine always_of_throughout ⟨consistent_empty ids, fun name hheld ↦ ?_⟩
        (fun state command hbefore hallowed ↦ ?_) hno
      · cases hheld
      · exact ⟨consistent_step hbefore.1 command, heldPaused_step hbefore.1 hbefore.2 hallowed⟩
    exact fun done command hdone ↦ holdsBack_of_noRollback
      (hpaused done (prefix_of_concat hdone)).2 (hno done command hdone)

/-- A paused deployment is rolled back. It has no replicas, so that none of its containers is in the
way of a new one of the same name. -/
theorem paused_deployment_rolled_back :
    let commands : List Command := [
      .create ⟨"web", "app:1", 0, none, none, none, none⟩ allOk 0,
      .update ⟨"web", some "app:2", none⟩ allOk 1 1,
      .pause "web" 2,
      .rollback ⟨"web", none⟩ allOk 3 3]
    ¬Throughout (watchedStep plainIds) (LeavesHeld plainIds) watchedEmpty commands := by
  intro commands hleaves
  let before := (commands.take 3).foldl (watchedStep plainIds) watchedEmpty
  let rollback : Command := .rollback ⟨"web", none⟩ allOk 3 3
  have hpaused : (before.node.deployments.lookup "web").map (·.image) = some "app:2" := by
    decide +kernel
  have hrolled : ((step plainIds before.node rollback).deployments.lookup "web").map (·.image) =
      some "app:1" := by
    decide +kernel
  obtain ⟨record, hrecord, himage⟩ := Option.map_eq_some_iff.mp hpaused
  obtain ⟨after, hafter, hsame, -⟩ := hleaves (commands.take 3) rollback (List.prefix_refl commands)
    "web" (by decide +kernel) (by decide) record hrecord
  rw [hafter, Option.map_some, hsame, himage] at hrolled
  revert hrolled
  decide

end Clawbernetes.ClawNode.Deploy
