import Mathlib.Data.List.Basic
import Mathlib.Data.List.Infix

/-!
# Runs of a deterministic step function

A component that reads one input after another is a step function `step : State → Input → State`,
and a run of it is `inputs.foldl step start`. Two properties of runs are used throughout. `Always`
says that a property of states holds in every state the run passes through, the first and the last
included. `Throughout` says that every step of the run is taken in a state where the input is
allowed, and speaks only of the state before the step.

`always_of_throughout` is the invariant rule: what one allowed step preserves, a run of allowed
steps preserves. `always_iff_throughout` is its exact form: when a step from a good state ends in a
good state if and only if the step was allowed, the good runs are exactly the runs of allowed steps;
`always_iff_throughout_along` asks this of the steps of the run only,
`always_iff_throughout_of_always` proves it beside a condition that holds along the run,
`always_iff_throughout_of_invariant` beside an invariant of every step, and
`always_and_throughout_iff` beside a property of the steps themselves. `countSteps`
counts the steps of a run that do something in the state they are taken in, and `countSteps_le_one`
is the rule for events that happen at most once: the first one closes a latch that no later step
opens. `countSteps_eq_ite` counts exactly the events that close such a latch, and
`countSteps_add_level` compares the counts of two events that raise and lower a level.
-/

set_option autoImplicit false
set_option relaxedAutoImplicit false

namespace Library.Runs

variable {State Input : Type*}

/-- The property holds in every state the run passes through. -/
def Always (step : State → Input → State) (good : State → Prop) (start : State)
    (inputs : List Input) : Prop :=
  ∀ done, done <+: inputs → good (done.foldl step start)

/-- Every step of the run is taken in a state where its input is allowed. -/
def Throughout (step : State → Input → State) (allowed : State → Input → Prop) (start : State)
    (inputs : List Input) : Prop :=
  ∀ done input, done ++ [input] <+: inputs → allowed (done.foldl step start) input

variable {step : State → Input → State} {good : State → Prop} {allowed : State → Input → Prop}
  {start : State} {inputs : List Input}

/-- The state before a step of a run is passed through by the run. -/
theorem prefix_of_concat {done : List Input} {input : Input}
    (hdone : done ++ [input] <+: inputs) : done <+: inputs :=
  (List.prefix_append done [input]).trans hdone

/-- The invariant rule: a property that holds at the start and is preserved by every allowed step
holds in every state of a run of allowed steps. -/
theorem always_of_throughout (hstart : good start)
    (hstep : ∀ state input, good state → allowed state input → good (step state input))
    (hallowed : Throughout step allowed start inputs) : Always step good start inputs := by
  intro done
  induction done using List.reverseRecOn with
  | nil => intro _; exact hstart
  | append_singleton done input ih =>
    intro hdone
    rw [List.foldl_concat]
    exact hstep _ _ (ih (prefix_of_concat hdone)) (hallowed done input hdone)

/-- The exact invariant rule along one run: when every step of it that starts in a good state ends
in a good state if and only if it was allowed, a run that starts well is good throughout if and only
if all its steps were allowed. -/
theorem always_iff_throughout_along (hstart : good start)
    (hstep : Throughout step (fun state input ↦ good state →
      (good (step state input) ↔ allowed state input)) start inputs) :
    Always step good start inputs ↔ Throughout step allowed start inputs := by
  constructor
  · intro halways done input hdone
    have hafter := halways (done ++ [input]) hdone
    rw [List.foldl_concat] at hafter
    exact (hstep done input hdone (halways done (prefix_of_concat hdone))).mp hafter
  · intro hallowed done
    induction done using List.reverseRecOn with
    | nil => intro _; exact hstart
    | append_singleton done input ih =>
      intro hdone
      rw [List.foldl_concat]
      exact (hstep done input hdone (ih (prefix_of_concat hdone))).mpr (hallowed done input hdone)

/-- The exact invariant rule along a run with a side condition: when the side condition holds in
every state of the run, and a step from a good state is good if and only if it was allowed, a run
that starts well is good throughout if and only if all its steps were allowed. -/
theorem always_iff_throughout_of_always {side : State → Prop}
    (hside : Always step side start inputs) (hstart : good start)
    (hstep : ∀ state input, side state → good state →
      (good (step state input) ↔ allowed state input)) :
    Always step good start inputs ↔ Throughout step allowed start inputs :=
  always_iff_throughout_along hstart fun done _ hdone ↦
    hstep _ _ (hside done (prefix_of_concat hdone))

/-- Two conditions on steps that agree at every step of a run hold throughout it together. -/
theorem throughout_congr {other : State → Input → Prop}
    (hsame : Throughout step (fun state input ↦ allowed state input ↔ other state input) start
      inputs) :
    Throughout step allowed start inputs ↔ Throughout step other start inputs :=
  forall_congr' fun done ↦ forall_congr' fun input ↦ forall_congr' fun hdone ↦
    hsame done input hdone

/-- An invariant of every step holds in every state of every run. -/
theorem always_of_step (hstart : good start)
    (hstep : ∀ state input, good state → good (step state input)) (inputs : List Input) :
    Always step good start inputs := by
  have hallowed : Throughout step (fun _ _ ↦ True) start inputs := fun _ _ _ ↦ trivial
  exact always_of_throughout hstart (fun state input hgood _ ↦ hstep state input hgood) hallowed

/-- The exact invariant rule beside an invariant of every step: when a step from a good state is
good if and only if it was allowed, a run that starts well is good throughout if and only if all its
steps were allowed. -/
theorem always_iff_throughout_of_invariant {side : State → Prop} (hside : side start)
    (hkeep : ∀ state input, side state → side (step state input)) (hstart : good start)
    (hstep : ∀ state input, side state → good state →
      (good (step state input) ↔ allowed state input)) :
    Always step good start inputs ↔ Throughout step allowed start inputs :=
  always_iff_throughout_of_always (always_of_step hside hkeep inputs) hstart hstep

/-- The exact invariant rule: when a step from a good state is good if and only if it was allowed,
a run that starts well is good throughout if and only if all its steps were allowed. -/
theorem always_iff_throughout (hstart : good start)
    (hstep : ∀ state input, good state → (good (step state input) ↔ allowed state input)) :
    Always step good start inputs ↔ Throughout step allowed start inputs := by
  have hkeep : ∀ (state : State) (input : Input), (fun _ : State ↦ True) state →
      (fun _ : State ↦ True) (step state input) := fun _ _ _ ↦ trivial
  exact always_iff_throughout_of_invariant trivial hkeep hstart fun state input _ ↦
    hstep state input

/-- The exact invariant rule beside a property of the steps: when a step from a good state is good
and has the property if and only if it was allowed, a run that starts well is good throughout with
all its steps having the property if and only if all its steps were allowed. -/
theorem always_and_throughout_iff {holds : State → Input → Prop} (hstart : good start)
    (hstep : ∀ state input, good state →
      (good (step state input) ∧ holds state input ↔ allowed state input)) :
    (Always step good start inputs ∧ Throughout step holds start inputs) ↔
      Throughout step allowed start inputs := by
  constructor
  · rintro ⟨halways, hholds⟩ done input hdone
    have hafter := halways (done ++ [input]) hdone
    rw [List.foldl_concat] at hafter
    exact (hstep _ input (halways done (prefix_of_concat hdone))).mp
      ⟨hafter, hholds done input hdone⟩
  · intro hallowed
    have halways : Always step good start inputs :=
      always_of_throughout hstart
        (fun state input hgood hinput ↦ ((hstep state input hgood).mpr hinput).1) hallowed
    exact ⟨halways, fun done input hdone ↦
      ((hstep _ input (halways done (prefix_of_concat hdone))).mpr (hallowed done input hdone)).2⟩

/-- A run that is good throughout is good at its end. -/
theorem Always.last (halways : Always step good start inputs) : good (inputs.foldl step start) :=
  halways inputs (List.prefix_refl inputs)

/-! ### Runs step by step -/

/-- The empty run takes no step. -/
theorem throughout_nil : Throughout step allowed start [] := by
  intro done input hdone
  simp at hdone

/-- The steps of a run are its first step and the steps of the rest. -/
theorem throughout_cons {first : Input} {rest : List Input} :
    Throughout step allowed start (first :: rest) ↔
      allowed start first ∧ Throughout step allowed (step start first) rest := by
  constructor
  · intro hallowed
    refine ⟨hallowed [] first (by simp), fun done input hdone ↦ ?_⟩
    exact hallowed (first :: done) input ((List.prefix_cons_inj first).mpr hdone)
  · rintro ⟨hfirst, hrest⟩ done input hdone
    cases done with
    | nil =>
      obtain rfl : input = first := by simpa using hdone
      exact hfirst
    | cons head done =>
      rw [List.cons_append, List.cons_prefix_cons] at hdone
      obtain ⟨rfl, hdone⟩ := hdone
      exact hrest done input hdone

/-- The steps of the second part of a run are taken from where the first part ends. -/
theorem Throughout.append_right {done rest : List Input}
    (hallowed : Throughout step allowed start (done ++ rest)) :
    Throughout step allowed (done.foldl step start) rest := by
  intro later input hlater
  have hboth := hallowed (done ++ later) input (by
    rw [List.append_assoc]
    exact (List.prefix_append_right_inj done).mpr hlater)
  rwa [List.foldl_append] at hboth

/-- The empty run passes through its start. -/
theorem always_nil : Always step good start [] ↔ good start := by
  constructor
  · exact fun halways ↦ halways.last
  · intro hstart done hdone
    rw [List.prefix_nil.mp hdone]
    exact hstart

/-- A run with one more input holds the property when the shorter run does and it ends well. -/
theorem always_concat {input : Input} :
    Always step good start (inputs ++ [input]) ↔
      Always step good start inputs ∧ good ((inputs ++ [input]).foldl step start) := by
  constructor
  · intro halways
    exact ⟨fun done hdone ↦ halways done (hdone.trans (List.prefix_append _ _)), halways.last⟩
  · rintro ⟨halways, hlast⟩ done hdone
    rcases List.prefix_concat_iff.mp hdone with rfl | hearlier
    · exact hlast
    · exact halways done hearlier

/-- The states of a run are its start and the states of the rest. -/
theorem always_cons {first : Input} {rest : List Input} :
    Always step good start (first :: rest) ↔
      good start ∧ Always step good (step start first) rest := by
  constructor
  · intro halways
    refine ⟨halways [] (List.nil_prefix), fun done hdone ↦ ?_⟩
    exact halways (first :: done) ((List.prefix_cons_inj first).mpr hdone)
  · rintro ⟨hstart, hrest⟩ done hdone
    cases done with
    | nil => exact hstart
    | cons head done =>
      rw [List.cons_prefix_cons] at hdone
      obtain ⟨rfl, hdone⟩ := hdone
      exact hrest done hdone

/-- A condition on the inputs alone holds throughout a run if and only if it holds of every input
of it. -/
theorem throughout_input_iff {allowed : Input → Prop} :
    Throughout step (fun _ input ↦ allowed input) start inputs ↔
      ∀ input ∈ inputs, allowed input := by
  induction inputs generalizing start with
  | nil => simp [throughout_nil]
  | cons first rest ih => rw [throughout_cons, ih, List.forall_mem_cons]

/-- Whether a run takes only allowed steps is decided by running it. -/
instance decidableThroughout (step : State → Input → State) (allowed : State → Input → Prop)
    [∀ state input, Decidable (allowed state input)] :
    ∀ (start : State) (inputs : List Input), Decidable (Throughout step allowed start inputs)
  | _, [] => isTrue throughout_nil
  | start, first :: rest =>
    haveI := decidableThroughout step allowed (step start first) rest
    decidable_of_iff (allowed start first ∧ Throughout step allowed (step start first) rest)
      throughout_cons.symm

/-- Whether a run is good throughout is decided by running it. -/
instance decidableAlways (step : State → Input → State) (good : State → Prop)
    [DecidablePred good] :
    ∀ (start : State) (inputs : List Input), Decidable (Always step good start inputs)
  | start, [] => decidable_of_iff (good start) always_nil.symm
  | start, first :: rest =>
    haveI := decidableAlways step good (step start first) rest
    decidable_of_iff (good start ∧ Always step good (step start first) rest) always_cons.symm

/-! ### Events that happen at most once -/

/-- The number of steps of a run at which `event` is true of the state before the step and its
input. -/
def countSteps (step : State → Input → State) (event : State → Input → Bool) :
    State → List Input → ℕ
  | _, [] => 0
  | state, input :: rest =>
    (if event state input then 1 else 0) + countSteps step event (step state input) rest

/-- An event that happens only together with another does not happen more often. -/
theorem countSteps_le_countSteps {event other : State → Input → Bool}
    (himplies : ∀ state input, event state input = true → other state input = true) :
    ∀ {inputs : List Input} {start : State},
      countSteps step event start inputs ≤ countSteps step other start inputs := by
  intro inputs
  induction inputs with
  | nil => intro _; exact Nat.le_refl 0
  | cons input rest ih =>
    intro start
    have hrest := @ih (step start input)
    rw [countSteps, countSteps]
    by_cases hevent : event start input = true
    · rw [if_pos hevent, if_pos (himplies start input hevent)]
      omega
    · rw [if_neg hevent]
      omega

/-- Behind a latch that forbids the event and that every allowed step keeps, the event does not
happen. -/
theorem countSteps_eq_zero {event : State → Input → Bool} {latch : State → Prop}
    (hforbid : ∀ state input, latch state → allowed state input → event state input = false)
    (hkeep : ∀ state input, latch state → allowed state input → latch (step state input)) :
    ∀ {inputs : List Input} {start : State}, latch start →
      Throughout step allowed start inputs → countSteps step event start inputs = 0 := by
  intro inputs
  induction inputs with
  | nil => intro _ _ _; rfl
  | cons input rest ih =>
    intro start hlatch hallowed
    obtain ⟨hfirst, hrest⟩ := throughout_cons.mp hallowed
    rw [countSteps, hforbid start input hlatch hfirst, ih (hkeep start input hlatch hfirst) hrest]
    rfl

/-- An event that closes a latch, where the latch forbids the event and every allowed step keeps
it closed, happens at most once along a run of allowed steps. The latch is closed under an
invariant of the run. -/
theorem countSteps_le_one {event : State → Input → Bool} {latch : State → Prop}
    (hgood : ∀ state input, good state → allowed state input → good (step state input))
    (hforbid : ∀ state input, latch state → allowed state input → event state input = false)
    (hkeep : ∀ state input, latch state → allowed state input → latch (step state input))
    (hclose : ∀ state input, good state → allowed state input → event state input = true →
      latch (step state input)) :
    ∀ {inputs : List Input} {start : State}, good start →
      Throughout step allowed start inputs → countSteps step event start inputs ≤ 1 := by
  intro inputs
  induction inputs with
  | nil => intro _ _ _; exact Nat.zero_le 1
  | cons input rest ih =>
    intro start hstart hallowed
    obtain ⟨hfirst, hrest⟩ := throughout_cons.mp hallowed
    rw [countSteps]
    split_ifs with hevent
    · rw [countSteps_eq_zero hforbid hkeep (hclose start input hstart hfirst hevent) hrest]
    · rw [Nat.zero_add]
      exact ih (hgood start input hstart hfirst) hrest

/-- When every step raises a level exactly by what it counts to one side and lowers it exactly by
what it counts to the other, the level at the end of a run makes up the difference of the counts. -/
theorem countSteps_add_level (gain loss : State → Input → Bool) (level : State → ℕ)
    (hgood : ∀ state input, good state → good (step state input))
    (hstep : ∀ state input, good state → (if gain state input then 1 else 0) + level state =
      (if loss state input then 1 else 0) + level (step state input)) :
    ∀ {inputs : List Input} {start : State}, good start →
      countSteps step gain start inputs + level start =
        countSteps step loss start inputs + level (inputs.foldl step start) := by
  intro inputs
  induction inputs with
  | nil => intro start _; rfl
  | cons input rest ih =>
    intro start hstart
    have hfirst := hstep start input hstart
    have hrest := ih (hgood start input hstart)
    rw [countSteps, countSteps, List.foldl_cons]
    omega

/-- A latch that every allowed step keeps closed is closed at the end of a run that starts with it
closed. -/
theorem latch_foldl (latch : State → Prop)
    (hgood : ∀ state input, good state → allowed state input → good (step state input))
    (hkeep : ∀ state input, good state → allowed state input → latch state →
      latch (step state input))
    (hstart : good start) (hlatch : latch start) (hallowed : Throughout step allowed start inputs) :
    latch (inputs.foldl step start) := by
  have halways : Always step (fun state ↦ good state ∧ latch state) start inputs := by
    refine always_of_throughout ⟨hstart, hlatch⟩ ?_ hallowed
    rintro state input ⟨hstate, hclosed⟩ hinput
    exact ⟨hgood state input hstate hinput, hkeep state input hstate hinput hclosed⟩
  exact halways.last.2

/-- An event that happens exactly when a latch closes, where every allowed step keeps it closed,
happens once along a run of allowed steps that closes it and not at all along any other. -/
theorem countSteps_eq_ite (event : State → Input → Bool) (latch : State → Prop)
    [DecidablePred latch]
    (hgood : ∀ state input, good state → allowed state input → good (step state input))
    (hkeep : ∀ state input, good state → allowed state input → latch state →
      latch (step state input))
    (hevent : ∀ state input, good state → allowed state input →
      (event state input = true ↔ ¬ latch state ∧ latch (step state input))) :
    ∀ {inputs : List Input} {start : State}, good start →
      Throughout step allowed start inputs →
        countSteps step event start inputs =
          if ¬ latch start ∧ latch (inputs.foldl step start) then 1 else 0 := by
  intro inputs
  induction inputs with
  | nil => intro start _ _; simp [countSteps]
  | cons input rest ih =>
    intro start hstart hallowed
    obtain ⟨hfirst, hrest⟩ := throughout_cons.mp hallowed
    have hnext := hgood start input hstart hfirst
    rw [countSteps, ih hnext hrest, List.foldl_cons]
    by_cases hbefore : latch start
    · have hafter := hkeep start input hstart hfirst hbefore
      have hnone : ¬ event start input = true := by simp [hevent start input hstart hfirst, hbefore]
      simp [hnone, hbefore, hafter]
    by_cases hafter : latch (step start input)
    · have hsome := (hevent start input hstart hfirst).mpr ⟨hbefore, hafter⟩
      have hlast := latch_foldl latch hgood hkeep hnext hafter hrest
      simp [hsome, hbefore, hafter, hlast]
    · have hnone : ¬ event start input = true := by simp [hevent start input hstart hfirst, hafter]
      simp [hnone, hbefore, hafter]

end Library.Runs
