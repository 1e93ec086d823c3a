import Clawbernetes.Library.WeightedShare
import Clawbernetes.MoltAttestation.AttestationChain
import Mathlib.Algebra.Order.Ring.Rat
import Mathlib.Tactic.Linarith

/-!
# The trust score of a chain

`trust_score` of `hardware.rs`, with the `f64` values read as exact rationals. The score is the mean
of two shares of the verifications that passed: every entry counts the same in the first, and the
later entries count more in the second.

`trust_score_laws` collects what this gives for every chain: the bounds, when the score is one, what
a further entry does to it, and what a pass does to it that comes one entry later.
-/

set_option autoImplicit false
set_option relaxedAutoImplicit false

namespace Clawbernetes.MoltAttestation.AttestationChain

open Library.WeightedShare

/-- `AttestationChain::successful_verification_count`. -/
def successfulVerificationCount (chain : AttestationChain) : ℕ :=
  (chain.entries.filter AttestationEntry.verificationPassed).length

/-- `AttestationChain::trust_score`, in exact arithmetic. -/
def trustScore (chain : AttestationChain) : ℚ :=
  if chain.entries.isEmpty then 0
  else
    let total : ℚ := chain.entries.length
    let successful : ℚ := chain.successfulVerificationCount
    let baseScore := successful / total
    let weightedSum := (chain.entries.zipIdx.map fun (entry, i) ↦
      let weight := ((i + 1 : ℕ) : ℚ) / total
      if entry.verificationPassed then weight else 0).sum
    let maxWeighted := ((List.range' 1 chain.entries.length).map fun i : ℕ ↦ (i : ℚ) / total).sum
    let recencyScore := if 0 < maxWeighted then weightedSum / maxWeighted else 0
    (baseScore + recencyScore) / 2

/-- The outcomes of the verifications of a chain, in their order. -/
def outcomes (chain : AttestationChain) : List Bool :=
  chain.entries.map AttestationEntry.verificationPassed

/-- The weight of an entry in the base score. -/
def baseWeight : ℕ → ℚ := fun _ ↦ 1

/-- The weight of an entry in the recency score, up to the factor that all entries have in
common. -/
def recencyWeight : ℕ → ℚ := fun index ↦ ((index + 1 : ℕ) : ℚ)

/-- All entries count the same in the base score, and they count. -/
theorem baseWeight_pos (index : ℕ) : 0 < baseWeight index := one_pos

/-- Every entry counts in the recency score. -/
theorem recencyWeight_pos (index : ℕ) : 0 < recencyWeight index := Nat.cast_pos.mpr index.succ_pos

/-- Later entries count more in the recency score. -/
theorem recencyWeight_monotone : Monotone recencyWeight := fun _ _ hle ↦
  Nat.cast_le.mpr (Nat.succ_le_succ hle)

/-- The base score is the share of the passes when all entries count the same. -/
theorem baseScore_eq (chain : AttestationChain) :
    (chain.successfulVerificationCount : ℚ) / chain.entries.length =
      share baseWeight chain.outcomes := by
  have hcount : chain.outcomes.count true = chain.successfulVerificationCount := by
    rw [outcomes, successfulVerificationCount, List.count_eq_length_filter, List.filter_map,
      List.length_map]
    exact congrArg List.length (List.filter_congr fun entry _ ↦ beq_true entry.verificationPassed)
  unfold baseWeight
  rw [share, passedWeight_one, totalWeight_one, hcount, outcomes, List.length_map]

/-- The recency score is the share of the passes when later entries count more. The weights are
divided by the number of entries, which all of them have in common. -/
theorem recencyScore_eq {chain : AttestationChain} (hentries : chain.entries ≠ []) :
    (chain.entries.zipIdx.map fun (entry, i) ↦
        if entry.verificationPassed then ((i + 1 : ℕ) : ℚ) / chain.entries.length else 0).sum /
      ((List.range' 1 chain.entries.length).map fun i : ℕ ↦ (i : ℚ) / chain.entries.length).sum =
        share recencyWeight chain.outcomes := by
  have hfactor : (chain.entries.length : ℚ)⁻¹ ≠ 0 :=
    inv_ne_zero (Nat.cast_ne_zero.mpr (List.length_pos_iff.mpr hentries).ne')
  have hpassed : (chain.entries.zipIdx.map fun (entry, i) ↦
      if entry.verificationPassed then ((i + 1 : ℕ) : ℚ) / chain.entries.length else 0).sum =
        passedWeight (fun index ↦ recencyWeight index * (chain.entries.length : ℚ)⁻¹)
          chain.outcomes := by
    have hlisted := sum_map_zipIdx
      (fun index ↦ recencyWeight index * (chain.entries.length : ℚ)⁻¹) chain.outcomes 0
    simp only [Nat.zero_add] at hlisted
    rw [← hlisted, outcomes, List.zipIdx_map, List.map_map]
    rfl
  rw [hpassed, sum_map_range' fun i : ℕ ↦ (i : ℚ) / chain.entries.length,
    ← share_mul hfactor recencyWeight, share, outcomes, List.length_map]
  rfl

/-- The weights of the entries of a chain with entries are positive together. -/
theorem maxWeighted_pos {chain : AttestationChain} (hentries : chain.entries ≠ []) :
    0 < ((List.range' 1 chain.entries.length).map
      fun i : ℕ ↦ (i : ℚ) / chain.entries.length).sum := by
  have hlength := List.length_pos_iff.mpr hentries
  rw [sum_map_range' fun i : ℕ ↦ (i : ℚ) / chain.entries.length]
  exact totalWeight_pos (fun position ↦ div_pos (Nat.cast_pos.mpr position.succ_pos)
    (Nat.cast_pos.mpr hlength)) hlength

/-- The score of a chain is the mean of its two shares. -/
theorem trustScore_eq (chain : AttestationChain) :
    chain.trustScore =
      (share baseWeight chain.outcomes + share recencyWeight chain.outcomes) / 2 := by
  unfold trustScore
  split_ifs with hempty
  · have hnone : chain.outcomes = [] := by
      rw [outcomes, List.isEmpty_iff.mp hempty, List.map_nil]
    rw [hnone, share_nil, share_nil, add_zero, zero_div]
  · have hentries : chain.entries ≠ [] := fun hnil ↦ hempty (List.isEmpty_iff.mpr hnil)
    rw [← baseScore_eq, ← recencyScore_eq hentries]
    dsimp only
    rw [if_pos (maxWeighted_pos hentries)]

/-! ### Laws -/

/-- The score is between zero and one. -/
theorem trustScore_mem (chain : AttestationChain) :
    0 ≤ chain.trustScore ∧ chain.trustScore ≤ 1 := by
  have hbase := share_nonneg (fun index ↦ (baseWeight_pos index).le) chain.outcomes
  have hrecency := share_nonneg (fun index ↦ (recencyWeight_pos index).le) chain.outcomes
  have hbaseLe := share_le_one (fun index ↦ (baseWeight_pos index).le) chain.outcomes
  have hrecencyLe := share_le_one (fun index ↦ (recencyWeight_pos index).le) chain.outcomes
  rw [trustScore_eq]
  constructor
  · linarith
  · linarith

/-- The score is one exactly when both shares are. -/
theorem trustScore_eq_one_iff (chain : AttestationChain) :
    chain.trustScore = 1 ↔
      chain.entries ≠ [] ∧ ∀ entry ∈ chain.entries, entry.verificationPassed = true := by
  have houtcomes : (chain.entries ≠ [] ∧
      ∀ entry ∈ chain.entries, entry.verificationPassed = true) ↔
        chain.outcomes ≠ [] ∧ ∀ passed ∈ chain.outcomes, passed = true := by
    rw [outcomes, List.forall_mem_map, ne_eq, ne_eq, List.map_eq_nil_iff]
  have hbase := share_le_one (fun index ↦ (baseWeight_pos index).le) chain.outcomes
  have hrecency := share_le_one (fun index ↦ (recencyWeight_pos index).le) chain.outcomes
  rw [houtcomes, trustScore_eq]
  constructor
  · intro hone
    exact (share_eq_one_iff baseWeight_pos).mp (by linarith)
  · intro hall
    rw [(share_eq_one_iff baseWeight_pos).mpr hall, (share_eq_one_iff recencyWeight_pos).mpr hall]
    norm_num

/-- A score is no higher than another one when both shares are no higher. -/
theorem trustScore_le {first second : AttestationChain}
    (hbase : share baseWeight first.outcomes ≤ share baseWeight second.outcomes)
    (hrecency : share recencyWeight first.outcomes ≤ share recencyWeight second.outcomes) :
    first.trustScore ≤ second.trustScore := by
  rw [trustScore_eq, trustScore_eq]
  linarith

/-- The score of every chain is between zero and one, and one exactly when the chain has entries and
all of them passed. A pass at the end does not lower the score, a failure at the end does not raise
it, and a pass that changes places with the failure behind it does not lower it. -/
theorem trust_score_laws :
    (∀ chain : AttestationChain, 0 ≤ chain.trustScore ∧ chain.trustScore ≤ 1) ∧
    (∀ chain : AttestationChain, chain.trustScore = 1 ↔
      chain.entries ≠ [] ∧ ∀ entry ∈ chain.entries, entry.verificationPassed = true) ∧
    (∀ chain longer : AttestationChain, longer.outcomes = chain.outcomes ++ [true] →
      chain.trustScore ≤ longer.trustScore) ∧
    (∀ chain longer : AttestationChain, longer.outcomes = chain.outcomes ++ [false] →
      longer.trustScore ≤ chain.trustScore) ∧
    ∀ (chain moved : AttestationChain) (before after : List Bool),
      chain.outcomes = before ++ true :: false :: after →
      moved.outcomes = before ++ false :: true :: after →
        chain.trustScore ≤ moved.trustScore := by
  refine ⟨trustScore_mem, trustScore_eq_one_iff, ?_, ?_, ?_⟩
  · intro chain longer hlonger
    refine trustScore_le ?_ ?_
    · rw [hlonger]
      exact share_le_concat baseWeight_pos chain.outcomes
    · rw [hlonger]
      exact share_le_concat recencyWeight_pos chain.outcomes
  · intro chain longer hlonger
    refine trustScore_le ?_ ?_
    · rw [hlonger]
      exact share_concat_le baseWeight_pos chain.outcomes
    · rw [hlonger]
      exact share_concat_le recencyWeight_pos chain.outcomes
  · intro chain moved before after hchain hmoved
    refine trustScore_le ?_ ?_
    · rw [hchain, hmoved]
      exact share_le_swap (fun index ↦ (baseWeight_pos index).le) monotone_const before after
    · rw [hchain, hmoved]
      exact share_le_swap (fun index ↦ (recencyWeight_pos index).le) recencyWeight_monotone
        before after

end Clawbernetes.MoltAttestation.AttestationChain
