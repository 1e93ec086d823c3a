import Mathlib.Data.List.Basic
import Mathlib.Data.List.Induction

/-!
# State that is restored from its last checkpoint

A component keeps its state in memory and writes a checkpoint of it with some of its inputs. A
restart takes the state back to the last checkpoint, so it undoes the inputs since then. The inputs
that no restart has undone are the ones that survive, and `foldl_advance` is that the component is
in the state that they alone lead to.
-/

set_option autoImplicit false
set_option relaxedAutoImplicit false

namespace Library.Checkpoints

variable {State Input : Type*}

/-- A state in memory, beside the last checkpoint. -/
structure Checkpointed (State : Type*) where
  current : State
  saved : State

/-- An input, or a restart. -/
inductive Event (Input : Type*) where
  | input (input : Input)
  | restart

/-- The state after an event, when `saves` says which inputs write a checkpoint. -/
def advance (step : State → Input → State) (saves : State → Input → Bool)
    (state : Checkpointed State) : Event Input → Checkpointed State
  | .input input =>
    let next := step state.current input
    ⟨next, if saves state.current input then next else state.saved⟩
  | .restart => ⟨state.saved, state.saved⟩

/-- The inputs that no restart has undone, beside those that no restart can undo any more. -/
def survivors (step : State → Input → State) (saves : State → Input → Bool) (start : State)
    (events : List (Event Input)) : Checkpointed (List Input) :=
  events.foldl
    (advance (fun inputs input ↦ inputs ++ [input])
      fun inputs input ↦ saves (inputs.foldl step start) input)
    ⟨[], []⟩

variable {step : State → Input → State} {saves : State → Input → Bool} {start : State}

/-- One event more. -/
theorem survivors_concat (events : List (Event Input)) (event : Event Input) :
    survivors step saves start (events ++ [event]) =
      advance (fun inputs input ↦ inputs ++ [input])
        (fun inputs input ↦ saves (inputs.foldl step start) input)
        (survivors step saves start events) event :=
  List.foldl_concat _ _ _ _

/-- The component is in the state that the surviving inputs lead to, and so is its checkpoint. -/
theorem foldl_advance (events : List (Event Input)) :
    events.foldl (advance step saves) ⟨start, start⟩ =
      ⟨(survivors step saves start events).current.foldl step start,
        (survivors step saves start events).saved.foldl step start⟩ := by
  induction events using List.reverseRecOn with
  | nil => rfl
  | append_singleton events event ih =>
    rw [List.foldl_concat, ih, survivors_concat]
    cases event with
    | restart => rfl
    | input input =>
      simp only [advance, List.foldl_concat]
      split_ifs
      · rw [List.foldl_concat]
      · rfl

/-- The inputs of a run, without its restarts. -/
def inputs (events : List (Event Input)) : List Input :=
  events.filterMap fun event ↦ match event with
    | .input input => some input
    | .restart => none

/-- One event more. -/
theorem inputs_concat (events : List (Event Input)) (event : Event Input) :
    inputs (events ++ [event]) = inputs events ++ inputs [event] :=
  List.filterMap_append

/-- When every input of a run writes a checkpoint unless it changes nothing, the restarts change
nothing either. -/
theorem foldl_survivors_of_saved {events : List (Event Input)}
    (hsaves : ∀ input ∈ inputs events, ∀ state,
      saves state input = true ∨ step state input = state) :
    (survivors step saves start events).current.foldl step start =
        (inputs events).foldl step start ∧
      (survivors step saves start events).saved.foldl step start =
        (inputs events).foldl step start := by
  induction events using List.reverseRecOn with
  | nil => exact ⟨rfl, rfl⟩
  | append_singleton events event ih =>
    rw [inputs_concat] at hsaves ⊢
    have hbefore := ih fun input hinput ↦ hsaves input (List.mem_append_left _ hinput)
    rw [survivors_concat, List.foldl_append]
    cases event with
    | restart => exact ⟨hbefore.2, hbefore.2⟩
    | input input =>
      have hlast := hsaves input (List.mem_append_right _ (List.mem_singleton_self _))
      have hnext : (inputs [Event.input input]).foldl step ((inputs events).foldl step start) =
          step ((inputs events).foldl step start) input := rfl
      rw [hnext]
      simp only [advance]
      refine ⟨by rw [List.foldl_concat, hbefore.1], ?_⟩
      rw [hbefore.1]
      split_ifs with hsaved
      · rw [List.foldl_concat, hbefore.1]
      · rw [hbefore.2, (hlast _).resolve_left hsaved]

end Library.Checkpoints
