import Mathlib.Data.List.Induction
import Mathlib.Data.List.Infix

/-!
# The backlog of a queue

Every input brings an item to a queue, takes one from it, or does neither, and nothing is taken from
an empty queue. The backlog is what has been brought and not taken. It depends on the order of the
inputs: what is taken too early does not make room for what is brought later. `backlog_le_iff` says
how: the backlog is at most a bound exactly when no stretch of inputs up to the last one brings more
than it takes and the bound.
-/

set_option autoImplicit false
set_option relaxedAutoImplicit false

namespace Library.Backlog

variable {Input : Type*} (brings takes : Input → Bool)

/-- The backlog after one more input. -/
def count (items : ℕ) (input : Input) : ℕ :=
  if brings input then items + 1 else if takes input then items - 1 else items

/-- The backlog after inputs to an empty queue. -/
def backlog (inputs : List Input) : ℕ := inputs.foldl (count brings takes) 0

/-- No stretch of inputs up to the last one brings more than it takes and the bound. -/
def Bounded (bound : ℕ) (inputs : List Input) : Prop :=
  ∀ before stretch, inputs = before ++ stretch →
    stretch.countP brings ≤ stretch.countP takes + bound

variable {brings takes}

/-- The stretches of a longer list are the empty one and those of the shorter with the last
input. -/
theorem bounded_concat_iff {bound : ℕ} {inputs : List Input} {input : Input} :
    Bounded brings takes bound (inputs ++ [input]) ↔
      ∀ before stretch, inputs = before ++ stretch →
        stretch.countP brings + (if brings input then 1 else 0) ≤
          stretch.countP takes + (if takes input then 1 else 0) + bound := by
  have hcount : ∀ (holds : Input → Bool) (stretch : List Input),
      (stretch ++ [input]).countP holds = stretch.countP holds + if holds input then 1 else 0 := by
    intro holds stretch
    rw [List.countP_append, List.countP_singleton]
  constructor
  · rintro hbounded before stretch rfl
    have hstretch := hbounded before (stretch ++ [input]) (List.append_assoc _ _ _)
    rwa [hcount, hcount] at hstretch
  · intro hbounded before stretch hsame
    rcases List.eq_nil_or_concat stretch with rfl | ⟨front, last, rfl⟩
    · exact Nat.zero_le _
    · rw [List.concat_eq_append, ← List.append_assoc] at hsame
      obtain ⟨rfl, hlast⟩ := List.append_inj' hsame rfl
      obtain rfl := List.head_eq_of_cons_eq hlast
      rw [List.concat_eq_append, hcount, hcount]
      exact hbounded before front rfl

/-- The backlog is at most a bound exactly when no stretch of inputs up to the last one brings more
than it takes and the bound. -/
theorem backlog_le_iff (hapart : ∀ input, brings input = true → takes input = false)
    {inputs : List Input} : ∀ {bound : ℕ},
      backlog brings takes inputs ≤ bound ↔ Bounded brings takes bound inputs := by
  induction inputs using List.reverseRecOn with
  | nil =>
    intro bound
    refine iff_of_true (Nat.zero_le _) fun before stretch hsame ↦ ?_
    rw [(List.append_eq_nil_iff.mp hsame.symm).2]
    exact Nat.zero_le _
  | append_singleton inputs input ih =>
    intro bound
    have hstep : backlog brings takes (inputs ++ [input]) =
        count brings takes (backlog brings takes inputs) input := List.foldl_concat _ _ _ _
    rw [hstep, bounded_concat_iff]
    unfold count
    cases hbrings : brings input with
    | true =>
      -- one place less for the inputs before, of which the empty stretch asks that there is one
      rw [hapart input hbrings]
      cases bound with
      | zero =>
        refine iff_of_false (Nat.not_succ_le_zero _) fun hbounded ↦ ?_
        have hempty := hbounded inputs [] (List.append_nil _).symm
        simp at hempty
      | succ bound =>
        rw [if_pos rfl, Nat.add_le_add_iff_right, ih]
        refine forall₃_congr fun before stretch _ ↦ ?_
        simp only [if_true, Bool.false_eq_true, if_false]
        omega
    | false =>
      cases takes input with
      | true =>
        rw [if_neg Bool.false_ne_true, if_pos rfl, Nat.sub_le_iff_le_add, ih]
        refine forall₃_congr fun before stretch _ ↦ ?_
        simp only [if_true, Bool.false_eq_true, if_false]
        omega
      | false =>
        rw [if_neg Bool.false_ne_true, if_neg Bool.false_ne_true, ih]
        rfl

end Library.Backlog
