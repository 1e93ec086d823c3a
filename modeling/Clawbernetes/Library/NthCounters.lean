import Mathlib.Data.List.Nodup
import Mathlib.Data.List.Perm.Subperm
import Mathlib.Data.List.Range
import Mathlib.Data.Nat.ModEq

/-!
# Rules that match every so many times

A rule with a period and a counter matches when the counter is divisible by the period, and counts
every item that it looks at. An item goes along a list of such rules to the first one that matches,
so a rule counts only what the rules before it let through.

With the periods `n, n - 1, …, 1` the items take turns: the item behind `k` others is matched by the
rule at `k % n` (`pick_counters`), so `n` consecutive items are matched by `n` different rules
(`turns_perm_range`).
-/

set_option autoImplicit false
set_option relaxedAutoImplicit false

namespace Library.NthCounters

/-- The rule that matches an item, by its place in a list of periods with counters, and the counters
after it. -/
def pick : List (ℕ × ℕ) → Option ℕ × List (ℕ × ℕ)
  | [] => (none, [])
  | (every, counter) :: rest =>
    if counter % every = 0 then (some 0, (every, counter + 1) :: rest)
    else ((pick rest).1.map (· + 1), (every, counter + 1) :: (pick rest).2)

/-- How many of the first items get to a rule, when the items take turns. -/
def passes (rules items place : ℕ) : ℕ :=
  items / rules * (rules - place) + (items % rules - place)

/-- The counters of the rules from a place on, after some items. -/
def countersFrom (rules items place : ℕ) : List (ℕ × ℕ) :=
  (List.range' place (rules - place)).map fun later ↦ (rules - later, passes rules items later)

/-- The counters of all rules. -/
def counters (rules items : ℕ) : List (ℕ × ℕ) := countersFrom rules items 0

variable {rules items place : ℕ}

/-- Whole turns and a part of a turn: of a whole turn all items from the place on get to a rule. The
part may be a whole turn too. -/
theorem passes_turns (turns : ℕ) {part : ℕ} (hpart : part ≤ rules) (place : ℕ) :
    passes rules (rules * turns + part) place = turns * (rules - place) + (part - place) := by
  unfold passes
  rcases hpart.lt_or_eq with hless | rfl
  · rw [Nat.mul_add_div (Nat.zero_lt_of_lt hless), Nat.mul_add_mod, Nat.div_eq_of_lt hless,
      Nat.mod_eq_of_lt hless, Nat.add_zero]
  · rcases part.eq_zero_or_pos with rfl | hpositive
    · simp
    · rw [← Nat.mul_succ, Nat.mul_div_cancel_left _ hpositive, Nat.mul_mod_right, Nat.succ_mul,
        Nat.zero_sub, Nat.add_zero]

/-- The next item gets to the rules up to the one whose turn it is. -/
theorem passes_succ (hrules : 0 < rules) (items place : ℕ) :
    passes rules (items + 1) place =
      passes rules items place + if place ≤ items % rules then 1 else 0 := by
  have hpart := Nat.mod_lt items hrules
  have hsplit := Nat.div_add_mod items rules
  have hnext : passes rules (items + 1) place =
      items / rules * (rules - place) + (items % rules + 1 - place) := by
    have hturns : passes rules (rules * (items / rules) + (items % rules + 1)) place = _ :=
      passes_turns (items / rules) hpart place
    rwa [← Nat.add_assoc, hsplit] at hturns
  rw [hnext, passes, Nat.add_assoc]
  split_ifs <;> omega

/-- A rule up to the one whose turn it is matches exactly when it is its turn. -/
theorem passes_mod_eq_zero_iff (hrules : 0 < rules) (hplace : place ≤ items % rules) :
    passes rules items place % (rules - place) = 0 ↔ place = items % rules := by
  have hpart := Nat.mod_lt items hrules
  rw [passes, Nat.mul_add_mod_self_right, Nat.mod_eq_of_lt (by omega)]
  omega

/-- The first of the counters from a place on. -/
theorem countersFrom_cons (hplace : place < rules) :
    countersFrom rules items place =
      (rules - place, passes rules items place) :: countersFrom rules items (place + 1) := by
  have hsucc : rules - place = rules - (place + 1) + 1 := by omega
  rw [countersFrom, hsucc, List.range'_succ, List.map_cons, ← hsucc]
  rfl

/-- Behind the rule whose turn it is nothing is counted. -/
theorem countersFrom_succ_of_lt (hrules : 0 < rules) (hplace : items % rules < place) :
    countersFrom rules (items + 1) place = countersFrom rules items place := by
  refine List.map_congr_left fun later hlater ↦ ?_
  have hbehind := (List.mem_range'_1.mp hlater).1
  rw [passes_succ hrules, if_neg (by omega), Nat.add_zero]

/-- From a place up to the rule whose turn it is, an item is matched by that rule. The induction is
on the rules in between. -/
theorem pick_countersFrom (hrules : 0 < rules) (hplace : place ≤ items % rules) :
    pick (countersFrom rules items place) =
      (some (items % rules - place), countersFrom rules (items + 1) place) := by
  have hpart := Nat.mod_lt items hrules
  obtain ⟨between, hbetween⟩ := Nat.exists_eq_add_of_le hplace
  induction between generalizing place with
  | zero =>
    have hturn : place = items % rules := hbetween.symm
    rw [countersFrom_cons (hplace.trans_lt hpart), pick,
      if_pos ((passes_mod_eq_zero_iff hrules hplace).mpr hturn),
      countersFrom_cons (hplace.trans_lt hpart), passes_succ hrules, if_pos hplace,
      countersFrom_succ_of_lt hrules (by omega), hturn, Nat.sub_self]
  | succ between ih =>
    have hlater : place + 1 ≤ items % rules := by omega
    have hnot : ¬passes rules items place % (rules - place) = 0 := fun hzero ↦ by
      have hturn := (passes_mod_eq_zero_iff hrules hplace).mp hzero
      omega
    rw [countersFrom_cons (hplace.trans_lt hpart), pick, if_neg hnot, ih hlater (by omega),
      countersFrom_cons (hplace.trans_lt hpart), passes_succ hrules, if_pos hplace, Option.map_some]
    have hcount : items % rules - (place + 1) + 1 = items % rules - place := by omega
    rw [hcount]

/-- The items take turns. -/
theorem pick_counters (hrules : 0 < rules) (items : ℕ) :
    pick (counters rules items) = (some (items % rules), counters rules (items + 1)) :=
  pick_countersFrom hrules (Nat.zero_le _)

/-- Before the first item all counters are zero. -/
theorem counters_zero (rules : ℕ) :
    counters rules 0 = (List.range rules).map fun place ↦ (rules - place, 0) := by
  unfold counters countersFrom passes
  rw [Nat.sub_zero, ← List.range_eq_range']
  simp

/-- The turns of as many consecutive items as there are rules. -/
theorem turns_perm_range (rules items : ℕ) :
    ((List.range rules).map fun later ↦ (items + later) % rules).Perm (List.range rules) := by
  have hnodup : ((List.range rules).map fun later ↦ (items + later) % rules).Nodup := by
    refine List.Nodup.map_on ?_ List.nodup_range
    intro first hfirst second hsecond hsame
    rw [List.mem_range] at hfirst hsecond
    have hcancel := Nat.ModEq.add_left_cancel' items hsame
    rwa [Nat.ModEq, Nat.mod_eq_of_lt hfirst, Nat.mod_eq_of_lt hsecond] at hcancel
  have hsubset : ((List.range rules).map fun later ↦ (items + later) % rules) ⊆
      List.range rules := by
    intro turn hturn
    obtain ⟨later, hlater, rfl⟩ := List.mem_map.mp hturn
    exact List.mem_range.mpr (Nat.mod_lt _ (Nat.zero_lt_of_lt (List.mem_range.mp hlater)))
  exact (List.subperm_of_subset hnodup hsubset).perm_of_length_le (by simp)

end Library.NthCounters
