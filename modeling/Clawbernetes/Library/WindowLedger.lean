import Mathlib.Algebra.BigOperators.Group.List.Basic
import Mathlib.Algebra.Order.Ring.Nat
import Mathlib.Tactic.Common

/-!
# Entries in a window that restarts

A ledger is a list of entries, each with a time and an amount, and `sumOf` adds up the amounts of
the entries at selected times. A window of a fixed period counts the entries since its start, and
restarts at some later time once the period is over. Two facts are kept by recording an entry in
the window and by restarting it.

`Current` says that the entries of the ledger are earlier than the end of the window, so that a
restarted window counts nothing. `Bounded` adds a bound on each window, and from it the bound on
sliding intervals: because two starts are at least a period apart, an interval no longer than the
period meets at most two windows, and its entries add up to at most twice the bound
(`Bounded.sliding`).
-/

set_option autoImplicit false
set_option relaxedAutoImplicit false

namespace Library.WindowLedger

/-- An entry is a time and an amount. -/
abbrev Entry := ℕ × ℕ

/-- The sum of the amounts at the selected times. -/
def sumOf (selected : ℕ → Bool) (entries : List Entry) : ℕ :=
  ((entries.filter fun entry ↦ selected entry.1).map Prod.snd).sum

variable {selected other third : ℕ → Bool} {entries : List Entry}

@[simp] theorem sumOf_nil : sumOf selected [] = 0 :=
  rfl

/-- The first entry counts when its time is selected. -/
theorem sumOf_cons (entry : Entry) :
    sumOf selected (entry :: entries) =
      (if selected entry.1 then entry.2 else 0) + sumOf selected entries := by
  unfold sumOf
  by_cases hselected : selected entry.1
  · simp [hselected]
  · simp [hselected]

/-- The last entry counts when its time is selected. -/
theorem sumOf_concat (time amount : ℕ) :
    sumOf selected (entries ++ [(time, amount)]) =
      sumOf selected entries + if selected time then amount else 0 := by
  unfold sumOf
  by_cases hselected : selected time
  · simp [hselected]
  · simp [hselected]

/-- Entries at selected times that are all selected by one of two others add up to at most the two
sums. -/
theorem sumOf_le_add (hcover : ∀ entry ∈ entries, selected entry.1 = true →
    other entry.1 = true ∨ third entry.1 = true) :
    sumOf selected entries ≤ sumOf other entries + sumOf third entries := by
  induction entries with
  | nil => exact Nat.zero_le _
  | cons entry entries ih =>
    have hrest := ih fun later hlater ↦ hcover later (List.mem_cons_of_mem entry hlater)
    have hfirst := hcover entry List.mem_cons_self
    rw [sumOf_cons, sumOf_cons, sumOf_cons]
    by_cases hselected : selected entry.1 = true
    · rcases hfirst hselected with hother | hthird
      · rw [if_pos hselected, if_pos hother]
        omega
      · rw [if_pos hselected, if_pos hthird]
        omega
    · rw [if_neg hselected]
      omega

/-- No selected entry, no sum. -/
theorem sumOf_eq_zero (hnone : ∀ entry ∈ entries, selected entry.1 = false) :
    sumOf selected entries = 0 := by
  unfold sumOf
  rw [List.filter_eq_nil_iff.mpr fun entry hentry ↦ by rw [hnone entry hentry]; decide]
  rfl

/-- Selecting more entries does not make the sum smaller. -/
theorem sumOf_mono (hcover : ∀ entry ∈ entries, selected entry.1 = true →
    other entry.1 = true) : sumOf selected entries ≤ sumOf other entries := by
  have hle : sumOf selected entries ≤ sumOf other entries + sumOf (fun _ ↦ false) entries :=
    sumOf_le_add fun entry hentry hselected ↦ Or.inl (hcover entry hentry hselected)
  have hzero : sumOf (fun _ ↦ false) entries = 0 := sumOf_eq_zero fun _ _ ↦ rfl
  omega

/-! ### One window -/

/-- The sum of the entries since the start of the window. -/
def sumSince (start : ℕ) (entries : List Entry) : ℕ :=
  sumOf (fun time ↦ start ≤ time) entries

/-- Every entry is earlier than the end of the window. -/
def Current (period start : ℕ) (entries : List Entry) : Prop :=
  ∀ entry ∈ entries, entry.1 < start + period

variable {period start now amount bound : ℕ}

/-- The empty ledger ends before every window does. -/
theorem current_nil : Current period start [] := by
  intro entry hentry
  exact absurd hentry List.not_mem_nil

/-- An entry in the window is counted. -/
theorem sumSince_concat (hstart : start ≤ now) :
    sumSince start (entries ++ [(now, amount)]) = sumSince start entries + amount := by
  unfold sumSince
  rw [sumOf_concat, if_pos (by simpa using hstart)]

/-- A window that restarts counts nothing. -/
theorem Current.sumSince_restart (hcurrent : Current period start entries)
    (hover : start + period ≤ now) : sumSince now entries = 0 := by
  apply sumOf_eq_zero
  intro entry hentry
  have hearlier := hcurrent entry hentry
  rw [decide_eq_false_iff_not]
  omega

/-- A restart keeps the entries before the end of the window. -/
theorem Current.restart (hcurrent : Current period start entries) (hover : start + period ≤ now) :
    Current period now entries := by
  intro entry hentry
  have hearlier := hcurrent entry hentry
  omega

/-- An entry before the end of the window keeps the entries before it. -/
theorem Current.record (hcurrent : Current period start entries) (hopen : now < start + period) :
    Current period start (entries ++ [(now, amount)]) := by
  intro entry hentry
  rcases List.mem_append.mp hentry with hearlier | hlast
  · exact hcurrent entry hearlier
  · rw [List.mem_singleton.mp hlast]
    exact hopen

/-! ### The bound on sliding intervals -/

/-- The window and the one before it stay within the bound: the entries since the start do, and so
do the earlier entries of every interval of the period's length that reaches the start. Then every
interval of that length stays within twice the bound. -/
structure Bounded (period bound start : ℕ) (entries : List Entry) : Prop where
  current : Current period start entries
  window : sumSince start entries ≤ bound
  before : ∀ first, start ≤ first + period →
    sumOf (fun time ↦ first ≤ time ∧ time < start) entries ≤ bound
  sliding : ∀ first,
    sumOf (fun time ↦ first ≤ time ∧ time ≤ first + period) entries ≤ 2 * bound

/-- The empty ledger is bounded. -/
theorem Bounded.nil : Bounded period bound start [] where
  current := current_nil
  window := Nat.zero_le bound
  before := fun _ _ ↦ Nat.zero_le bound
  sliding := fun _ ↦ Nat.zero_le _

/-- A restart keeps the bounds: what an interval that reaches the new start has seen before it lies
in the window that just ended. -/
theorem Bounded.restart (hbounded : Bounded period bound start entries)
    (hover : start + period ≤ now) : Bounded period bound now entries where
  current := hbounded.current.restart hover
  window := by
    rw [hbounded.current.sumSince_restart hover]
    exact Nat.zero_le bound
  before := by
    intro first hreach
    refine le_trans (sumOf_mono ?_) hbounded.window
    intro entry _ hselected
    rw [decide_eq_true_eq] at hselected ⊢
    omega
  sliding := hbounded.sliding

/-- An entry that the window still holds keeps the bounds: an interval that contains it sees only
this window and the one before. -/
theorem Bounded.record (hbounded : Bounded period bound start entries) (hstart : start ≤ now)
    (hopen : now < start + period) (hfits : sumSince start entries + amount ≤ bound) :
    Bounded period bound start (entries ++ [(now, amount)]) where
  current := hbounded.current.record hopen
  window := by
    rw [sumSince_concat hstart]
    exact hfits
  before := by
    intro first hreach
    rw [sumOf_concat, if_neg (by simpa using fun _ ↦ hstart)]
    exact hbounded.before first hreach
  sliding := by
    intro first
    rw [sumOf_concat]
    split_ifs with hinside
    · rw [decide_eq_true_eq] at hinside
      have hbefore := hbounded.before first (by omega)
      have hcover : sumOf (fun time ↦ first ≤ time ∧ time ≤ first + period) entries ≤
          sumOf (fun time ↦ first ≤ time ∧ time < start) entries + sumSince start entries := by
        apply sumOf_le_add
        intro entry _ hselected
        rw [decide_eq_true_eq] at hselected
        rw [decide_eq_true_eq, decide_eq_true_eq]
        omega
      omega
    · exact hbounded.sliding first

end Library.WindowLedger
