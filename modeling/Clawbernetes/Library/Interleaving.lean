import Clawbernetes.Library.Runs
import Mathlib.Data.List.Perm.Basic

/-!
# Interleaved commands

Commands that take a lock several times run at once on a shared state. The first section of a
command either finishes it or leaves a task, which is what the command still has to do and what it
remembers; each further section resumes a task, and finishes it or leaves the next one. A `World` is
the shared state beside the tasks on their way, and a run of `Protocol.step` is an interleaving of
sections: every command may begin at every time, every task may be resumed next, and a task may also
never be resumed. What a section gets from outside is the choice that it is resumed with.

The order of the tasks means nothing. A property of the shared state and the tasks that does not
depend on it is kept by every section when it is kept by the beginning of a command beside the tasks
and by resuming the first task: `good_step` is this rule, and `good_step_iff` its exact form for
sections under a condition.
-/

set_option autoImplicit false
set_option relaxedAutoImplicit false

namespace Library.Interleaving

open Library.Runs

/-- The shared state and the tasks on their way. -/
structure World (Shared Task : Type*) where
  shared : Shared
  pending : List Task

/-- A command begins, or the task at an index is resumed. -/
inductive Move (Command Choice : Type*) where
  | begin (command : Command)
  | resume (index : ℕ) (choice : Choice)

/-- The sections of commands: what the first one does, and what resuming a task does. -/
structure Protocol (Shared Task Command Choice : Type*) where
  begin : Shared → Command → Shared × Option Task
  resume : Choice → Shared → Task → Shared × Option Task

variable {Shared Task Command Choice : Type*}

namespace Protocol

/-- One section. -/
def step (protocol : Protocol Shared Task Command Choice) (world : World Shared Task) :
    Move Command Choice → World Shared Task
  | .begin command =>
    let (shared, task) := protocol.begin world.shared command
    ⟨shared, world.pending ++ task.toList⟩
  | .resume index choice =>
    match world.pending[index]? with
    | none => world
    | some task =>
      let (shared, next) := protocol.resume choice world.shared task
      ⟨shared, world.pending.eraseIdx index ++ next.toList⟩

/-- A condition on sections: of a beginning on the shared state and the tasks on their way, and of
resuming a task on the shared state and the other tasks. -/
def Allowed (begins : Shared → List Task → Command → Prop)
    (resumes : Shared → List Task → Task → Choice → Prop) (world : World Shared Task) :
    Move Command Choice → Prop
  | .begin command => begins world.shared world.pending command
  | .resume index choice => ∀ task, world.pending[index]? = some task →
      resumes world.shared (world.pending.eraseIdx index) task choice

/-- No command is on its way. -/
def Quiescent (world : World Shared Task) : Prop := world.pending = []

/-- Resuming no task does nothing. -/
theorem step_resume_of_none (protocol : Protocol Shared Task Command Choice)
    {world : World Shared Task} {index : ℕ} (choice : Choice)
    (hnone : world.pending[index]? = none) :
    protocol.step world (.resume index choice) = world := by
  simp only [step, hnone]

/-- Resuming a task. -/
theorem step_resume_of_some (protocol : Protocol Shared Task Command Choice)
    {world : World Shared Task} {index : ℕ} {task : Task} (choice : Choice)
    (htask : world.pending[index]? = some task) :
    protocol.step world (.resume index choice) =
      ⟨(protocol.resume choice world.shared task).1,
        world.pending.eraseIdx index ++ (protocol.resume choice world.shared task).2.toList⟩ := by
  simp only [step, htask]

/-- A task that is resumed is taken out of the tasks on their way. -/
theorem perm_cons_eraseIdx {tasks : List Task} {index : ℕ} {task : Task}
    (htask : tasks[index]? = some task) : (task :: tasks.eraseIdx index).Perm tasks := by
  obtain ⟨hindex, rfl⟩ := List.getElem?_eq_some_iff.mp htask
  exact List.getElem_cons_eraseIdx_perm hindex

variable (protocol : Protocol Shared Task Command Choice) (good : Shared → List Task → Prop)
  {begins : Shared → List Task → Command → Prop}
  {resumes : Shared → List Task → Task → Choice → Prop}

/-- The exact rule for sections: a section from a good world ends in a good world if and only if it
was allowed. -/
theorem good_step_iff
    (hperm : ∀ shared tasks others, tasks.Perm others → good shared tasks → good shared others)
    (hbegin : ∀ shared tasks command, good shared tasks →
      (good (protocol.begin shared command).1
        ((protocol.begin shared command).2.toList ++ tasks) ↔ begins shared tasks command))
    (hresume : ∀ shared tasks task choice, good shared (task :: tasks) →
      (good (protocol.resume choice shared task).1
        ((protocol.resume choice shared task).2.toList ++ tasks) ↔
          resumes shared tasks task choice))
    (world : World Shared Task) (move : Move Command Choice)
    (hgood : good world.shared world.pending) :
    good (protocol.step world move).shared (protocol.step world move).pending ↔
      Allowed begins resumes world move := by
  have hcomm : ∀ shared (first second : List Task),
      good shared (first ++ second) ↔ good shared (second ++ first) := fun shared first second ↦
    ⟨hperm shared _ _ List.perm_append_comm, hperm shared _ _ List.perm_append_comm⟩
  cases move with
  | begin command =>
    refine (hcomm _ _ _).trans ?_
    exact hbegin world.shared world.pending command hgood
  | resume index choice =>
    cases htask : world.pending[index]? with
    | none =>
      rw [step_resume_of_none protocol choice htask]
      refine iff_of_true hgood fun task hsome ↦ ?_
      rw [htask] at hsome
      cases hsome
    | some task =>
      have hsplit := hperm _ _ _ (perm_cons_eraseIdx htask).symm hgood
      rw [step_resume_of_some protocol choice htask]
      refine (hcomm _ _ _).trans ((hresume _ _ task choice hsplit).trans ?_)
      constructor
      · intro hallowed other hother
        rw [htask] at hother
        obtain rfl := Option.some_inj.mp hother
        exact hallowed
      · exact fun hallowed ↦ hallowed task htask

/-- The rule for sections: a section from a good world ends in a good world. -/
theorem good_step
    (hperm : ∀ shared tasks others, tasks.Perm others → good shared tasks → good shared others)
    (hbegin : ∀ shared tasks command, good shared tasks →
      good (protocol.begin shared command).1
        ((protocol.begin shared command).2.toList ++ tasks))
    (hresume : ∀ shared tasks task choice, good shared (task :: tasks) →
      good (protocol.resume choice shared task).1
        ((protocol.resume choice shared task).2.toList ++ tasks))
    (world : World Shared Task) (move : Move Command Choice)
    (hgood : good world.shared world.pending) :
    good (protocol.step world move).shared (protocol.step world move).pending := by
  have hexact := protocol.good_step_iff good hperm
    (fun shared tasks command hbefore ↦ iff_true_intro (hbegin shared tasks command hbefore))
    (fun shared tasks task choice hbefore ↦
      iff_true_intro (hresume shared tasks task choice hbefore))
    world move hgood
  refine hexact.mpr ?_
  cases move with
  | begin command => trivial
  | resume index choice => exact fun _ _ ↦ trivial

/-- A property of the shared state that every section keeps is kept by every step. -/
theorem shared_step (kept : Shared → Prop)
    (hbegin : ∀ shared command, kept shared → kept (protocol.begin shared command).1)
    (hresume : ∀ shared task choice, kept shared → kept (protocol.resume choice shared task).1)
    (world : World Shared Task) (move : Move Command Choice) (hkept : kept world.shared) :
    kept (protocol.step world move).shared := by
  cases move with
  | begin command => exact hbegin world.shared command hkept
  | resume index choice =>
    cases htask : world.pending[index]? with
    | none =>
      rw [step_resume_of_none protocol choice htask]
      exact hkept
    | some task =>
      rw [step_resume_of_some protocol choice htask]
      exact hresume world.shared task choice hkept

/-- The exact rule for a property of the shared state beside a property of the sections: a section
from a good state ends in a good state and has the property if and only if it was allowed. -/
theorem shared_step_iff (kept : Shared → Prop) {beginsWell : Shared → List Task → Command → Prop}
    {resumesWell : Shared → List Task → Task → Choice → Prop}
    (hbegin : ∀ shared tasks command, kept shared →
      (kept (protocol.begin shared command).1 ∧ beginsWell shared tasks command ↔
        begins shared tasks command))
    (hresume : ∀ shared tasks task choice, kept shared →
      (kept (protocol.resume choice shared task).1 ∧ resumesWell shared tasks task choice ↔
        resumes shared tasks task choice))
    (world : World Shared Task) (move : Move Command Choice) (hkept : kept world.shared) :
    kept (protocol.step world move).shared ∧ Allowed beginsWell resumesWell world move ↔
      Allowed begins resumes world move := by
  cases move with
  | begin command => exact hbegin world.shared world.pending command hkept
  | resume index choice =>
    unfold Allowed
    cases htask : world.pending[index]? with
    | none =>
      rw [step_resume_of_none protocol choice htask]
      simp only [htask, reduceCtorEq, false_implies, implies_true, and_true]
      exact iff_of_true hkept trivial
    | some task =>
      rw [step_resume_of_some protocol choice htask]
      simp only [htask, Option.some_inj, forall_eq']
      exact hresume world.shared _ task choice hkept

end Protocol

end Library.Interleaving
