import Mathlib.Data.List.Perm.Basic
import Mathlib.Data.List.Nodup
import Mathlib.Data.List.Range
import Mathlib.Logic.Function.Basic

/-!
# Tasks that settle in any order

One task is started for each of some keys, the tasks settle in any order, and each writes its
outcome under its key. So the outcome under a key is that of the last of its tasks to settle
(`settled_eq_some_iff`). The outcomes are the same in every order if and only if all tasks of one
key have the same (`settled_independent_iff`).
-/

set_option autoImplicit false
set_option relaxedAutoImplicit false

namespace Library.FanOut

variable {Key Outcome : Type*} [DecidableEq Key]

/-- A task settles. -/
def settle (keys : ℕ → Key) (outcomes : ℕ → Outcome) (table : Key → Option Outcome) (task : ℕ) :
    Key → Option Outcome :=
  Function.update table (keys task) (some (outcomes task))

/-- The outcomes after some tasks have settled, one after another. -/
def settled (keys : ℕ → Key) (outcomes : ℕ → Outcome) (order : List ℕ) : Key → Option Outcome :=
  order.foldl (settle keys outcomes) fun _ ↦ none

/-- The last task of a key in an order. -/
def lastTask (keys : ℕ → Key) (order : List ℕ) (key : Key) : Option ℕ :=
  (order.filter fun task ↦ keys task = key).getLast?

variable {keys : ℕ → Key} {outcomes : ℕ → Outcome} {order : List ℕ} {key : Key}

/-- The outcome under a key is that of the last of its tasks to settle. -/
theorem settled_eq (order : List ℕ) (key : Key) :
    settled keys outcomes order key = (lastTask keys order key).map outcomes := by
  induction order using List.reverseRecOn with
  | nil => rfl
  | append_singleton order last ih =>
    rw [settled, List.foldl_concat, settle, ← settled, lastTask, List.filter_append]
    by_cases hkey : keys last = key
    · subst hkey
      simp
    · rw [Function.update_of_ne (Ne.symm hkey), ih, lastTask]
      simp [hkey]

/-- A task of a key that has settled is the last one in some order, in which it is moved to the
end. -/
theorem lastTask_moved {task : ℕ} (htask : task ∈ order) (hkey : keys task = key) :
    ∃ moved, moved.Perm order ∧ lastTask keys moved key = some task := by
  refine ⟨order.erase task ++ [task], ?_, ?_⟩
  · exact (List.perm_append_singleton task _).trans (List.perm_cons_erase htask).symm
  · rw [lastTask, List.filter_append]
    simp [hkey]

/-- The last task of a key is one that has settled, of this key. -/
theorem lastTask_mem {task : ℕ} (hlast : lastTask keys order key = some task) :
    task ∈ order ∧ keys task = key := by
  simpa using List.mem_filter.mp (List.mem_of_getLast? hlast)

/-- Every key with a task that has settled has an outcome. -/
theorem settled_isSome_iff :
    (settled keys outcomes order key).isSome = true ↔ ∃ task ∈ order, keys task = key := by
  rw [settled_eq, Option.isSome_map]
  constructor
  · intro hsome
    obtain ⟨task, hlast⟩ := Option.isSome_iff_exists.mp hsome
    exact ⟨task, lastTask_mem hlast⟩
  · rintro ⟨task, htask, hkey⟩
    rw [lastTask, List.getLast?_isSome]
    exact List.ne_nil_of_mem (List.mem_filter.mpr ⟨htask, decide_eq_true hkey⟩)

/-- The outcomes are the same in every order in which the tasks settle if and only if all tasks of
one key have the same outcome. -/
theorem settled_independent_iff :
    (∀ other, other.Perm order → settled keys outcomes other = settled keys outcomes order) ↔
      ∀ first ∈ order, ∀ second ∈ order, keys first = keys second →
        outcomes first = outcomes second := by
  constructor
  · intro hsame first hfirst second hsecond hkeys
    obtain ⟨before, hbefore, hlast⟩ := lastTask_moved hfirst hkeys
    obtain ⟨after, hafter, hother⟩ := lastTask_moved hsecond (rfl : keys second = keys second)
    have hequal := congrFun ((hsame before hbefore).trans (hsame after hafter).symm) (keys second)
    rw [settled_eq, settled_eq, hlast, hother] at hequal
    exact Option.some.inj hequal
  · intro hsame other hperm
    funext key
    rw [settled_eq, settled_eq]
    cases hlast : lastTask keys order key with
    | none =>
      have hnone : lastTask keys other key = none := by
        rw [lastTask, List.getLast?_eq_none_iff] at hlast ⊢
        exact ((hperm.filter _).trans (List.Perm.of_eq hlast)).eq_nil
      rw [hnone]
    | some task =>
      obtain ⟨htask, hkey⟩ := lastTask_mem hlast
      cases hother : lastTask keys other key with
      | none =>
        rw [lastTask, List.getLast?_eq_none_iff] at hother
        have hmem : task ∈ other.filter fun task ↦ keys task = key :=
          List.mem_filter.mpr ⟨hperm.mem_iff.mpr htask, decide_eq_true hkey⟩
        rw [hother] at hmem
        cases hmem
      | some second =>
        obtain ⟨hsecond, hsecondKey⟩ := lastTask_mem hother
        exact congrArg some
          (hsame second (hperm.mem_iff.mp hsecond) task htask (hsecondKey.trans hkey.symm))

end Library.FanOut
