import Clawbernetes.Library.Runs
import Mathlib.Algebra.Group.Hom.Defs
import Mathlib.Algebra.Group.Nat.Defs

/-!
# What a run leaves behind

A table entry is there because some input put it there and no later input took it out. `Since` says
this of a run: an input establishes something that no input after it ends. A property of states that
each step establishes, ends or keeps holds at the end of a run exactly when it has held since one of
the inputs (`holds_iff_since`), or, when it may hold at the start, when no input has ended it either
(`holds_iff_since_or_kept`).

What is seen of a state may follow what the steps give out (`view_foldl`), as a record does that
holds it in their order (`record_foldl`). An invariant may tie the state to all that has been given
out (`invariant_outputs`). A counter shows how often something has happened: when every step adds
what it counts, the counter has grown by the number of the steps that were counted (`tally_foldl`).
What it counts in may be machine words, which wrap.
-/

set_option autoImplicit false
set_option relaxedAutoImplicit false

namespace Library.Runs

variable {State Input : Type*}

/-- An input of the run establishes something that no later input ends. -/
def Since (step : State → Input → State) (establishes ends : State → Input → Prop) (start : State)
    (inputs : List Input) : Prop :=
  ∃ done input rest, inputs = done ++ input :: rest ∧ establishes (done.foldl step start) input ∧
    Throughout step (fun state later ↦ ¬ ends state later)
      (step (done.foldl step start) input) rest

variable {step : State → Input → State} {establishes ends : State → Input → Prop} {start : State}
  {inputs : List Input}

/-- One input more is taken. -/
theorem Throughout.concat {allowed : State → Input → Prop} {last : Input}
    (hallowed : Throughout step allowed start inputs)
    (hlast : allowed (inputs.foldl step start) last) :
    Throughout step allowed start (inputs ++ [last]) := by
  intro done input hdone
  rcases List.prefix_concat_iff.mp hdone with hsame | hprefix
  · obtain ⟨rfl, hlasts⟩ := List.append_inj' hsame rfl
    obtain rfl := List.singleton_inj.mp hlasts
    exact hlast
  · exact hallowed done input hprefix

/-- A property that a step establishes, ends or keeps, under an invariant of the steps, holds at the
end of a run exactly when it has held since an input of the run, or since the start. -/
theorem holds_iff_since_or_kept (good holds : State → Prop)
    (hgood : ∀ state input, good state → good (step state input))
    (hstep : ∀ state input, good state →
      (holds (step state input) ↔ establishes state input ∨ holds state ∧ ¬ ends state input))
    (hstart : good start) :
    holds (inputs.foldl step start) ↔ Since step establishes ends start inputs ∨
      holds start ∧ Throughout step (fun state input ↦ ¬ ends state input) start inputs := by
  have hkeeps : ∀ {from_ : State} {rest : List Input}, good from_ → holds from_ →
      Throughout step (fun state input ↦ ¬ ends state input) from_ rest →
        holds (rest.foldl step from_) := by
    intro from_ rest hfrom hholds hrest
    exact latch_foldl holds (fun state input hstate _ ↦ hgood state input hstate)
      (fun state input hstate hinput hbefore ↦
        (hstep state input hstate).mpr (.inr ⟨hbefore, hinput⟩)) hfrom hholds hrest
  have hreaches : ∀ done : List Input, good (done.foldl step start) := fun done ↦
    (always_of_step hstart hgood done).last
  constructor
  · intro hholds
    induction inputs using List.reverseRecOn with
    | nil => exact .inr ⟨hholds, throughout_nil⟩
    | append_singleton done last ih =>
      rw [List.foldl_concat] at hholds
      rcases (hstep _ last (hreaches done)).mp hholds with hnow | ⟨hbefore, hnot⟩
      · exact .inl ⟨done, last, [], rfl, hnow, throughout_nil⟩
      · rcases ih hbefore with hsince | ⟨hfirst, hkept⟩
        · obtain ⟨before, input, rest, rfl, hinput, hrest⟩ := hsince
          refine .inl ⟨before, input, rest ++ [last], by simp, hinput, hrest.concat ?_⟩
          rwa [List.foldl_append] at hnot
        · exact .inr ⟨hfirst, hkept.concat hnot⟩
  · rintro (⟨done, input, rest, rfl, hinput, hrest⟩ | ⟨hfirst, hkept⟩)
    · rw [List.foldl_append, List.foldl_cons]
      have hwritten := (hstep _ input (hreaches done)).mpr (.inl hinput)
      exact hkeeps (hgood _ input (hreaches done)) hwritten hrest
    · exact hkeeps hstart hfirst hkept

/-- A property that does not hold at the start holds at the end of a run exactly when it has held
since an input of the run. -/
theorem holds_iff_since (holds : State → Prop)
    (hstep : ∀ state input,
      holds (step state input) ↔ establishes state input ∨ holds state ∧ ¬ ends state input)
    (hnot : ¬ holds start) :
    holds (inputs.foldl step start) ↔ Since step establishes ends start inputs := by
  have hgood : ∀ state input, (fun _ : State ↦ True) state →
      (fun _ : State ↦ True) (step state input) := fun _ _ _ ↦ trivial
  rw [holds_iff_since_or_kept (fun _ ↦ True) holds hgood (fun state input _ ↦ hstep state input)
    trivial]
  exact or_iff_left fun hfirst ↦ hnot hfirst.1

/-- What the steps of a run give out, in order. -/
def outputs {Output : Type*} (step : State → Input → State) (emit : State → Input → List Output) :
    State → List Input → List Output
  | _, [] => []
  | state, input :: rest => emit state input ++ outputs step emit (step state input) rest

/-- What is seen of a state, when every step changes it by what it gives out, is at the end of a run
changed by what the run gives out. -/
theorem view_foldl {Output View : Type*} (view : State → View) (change : View → Output → View)
    (emit : State → Input → List Output)
    (hstep : ∀ state input,
      view (step state input) = (emit state input).foldl change (view state)) :
    ∀ (inputs : List Input) (start : State),
      view (inputs.foldl step start) =
        (outputs step emit start inputs).foldl change (view start) := by
  intro inputs
  induction inputs with
  | nil => intro start; rfl
  | cons input rest ih =>
    intro start
    rw [List.foldl_cons, ih, hstep, outputs, List.foldl_append]

/-- A record to whose end every step adds what it gives out ends with what the run gives out. -/
theorem record_foldl {Output : Type*} (record : State → List Output)
    (emit : State → Input → List Output)
    (hstep : ∀ state input, record (step state input) = record state ++ emit state input) :
    ∀ (inputs : List Input) (start : State),
      record (inputs.foldl step start) = record start ++ outputs step emit start inputs := by
  intro inputs
  induction inputs with
  | nil => intro start; simp [outputs]
  | cons input rest ih =>
    intro start
    rw [List.foldl_cons, ih, hstep, outputs, List.append_assoc]

/-- One step more gives out what is given out in it. -/
theorem outputs_concat {Output : Type*} (emit : State → Input → List Output) (last : Input) :
    ∀ (inputs : List Input) (start : State),
      outputs step emit start (inputs ++ [last]) =
        outputs step emit start inputs ++ emit (inputs.foldl step start) last := by
  intro inputs
  induction inputs with
  | nil => intro start; simp [outputs]
  | cons input rest ih =>
    intro start
    rw [List.cons_append, outputs, ih, outputs, List.append_assoc, List.foldl_cons]

/-- The invariant rule for the state and what has been given out on the way to it: what every
allowed step keeps holds at the end of a run of allowed steps. -/
theorem invariant_outputs_of_throughout {Output : Type*} {allowed : State → Input → Prop}
    (good : State → List Output → Prop) (emit : State → Input → List Output)
    (hstart : good start []) (hstep : ∀ state past input, good state past → allowed state input →
      good (step state input) (past ++ emit state input))
    (hallowed : Throughout step allowed start inputs) :
    good (inputs.foldl step start) (outputs step emit start inputs) := by
  induction inputs using List.reverseRecOn with
  | nil => exact hstart
  | append_singleton done last ih =>
    rw [List.foldl_concat, outputs_concat]
    refine hstep _ _ last (ih fun before input hbefore ↦ ?_)
      (hallowed done last (List.prefix_refl _))
    exact hallowed before input (hbefore.trans (List.prefix_append _ _))

/-- The same for an invariant that every step keeps. -/
theorem invariant_outputs {Output : Type*} (good : State → List Output → Prop)
    (emit : State → Input → List Output) (hstart : good start [])
    (hstep : ∀ state past input, good state past →
      good (step state input) (past ++ emit state input)) (inputs : List Input) :
    good (inputs.foldl step start) (outputs step emit start inputs) := by
  have hallowed : Throughout step (fun _ _ ↦ True) start inputs := fun _ _ _ ↦ trivial
  exact invariant_outputs_of_throughout good emit hstart
    (fun state past input hgood _ ↦ hstep state past input hgood) hallowed

/-- A counter to which every step adds what it counts has grown by the number of the steps that
count. -/
theorem tally_foldl {Count : Type*} [AddMonoid Count] (count : ℕ →+ Count)
    (tally : State → Count) (event : State → Input → Bool)
    (hstep : ∀ state input,
      tally (step state input) = tally state + if event state input then count 1 else 0) :
    ∀ (inputs : List Input) (start : State),
      tally (inputs.foldl step start) =
        tally start + count (countSteps step event start inputs) := by
  intro inputs
  induction inputs with
  | nil => intro start; simp [countSteps]
  | cons input rest ih =>
    intro start
    rw [List.foldl_cons, ih, hstep, countSteps, map_add, add_assoc]
    congr 1
    split_ifs
    · rfl
    · rw [map_zero]

end Library.Runs
