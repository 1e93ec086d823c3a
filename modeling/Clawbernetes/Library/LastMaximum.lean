import Mathlib.Data.List.Induction
import Mathlib.Data.List.Sort

/-!
# The last of the greatest elements

An element of a list is its last maximum under a key when no element before it has a greater key and
every element behind it has a smaller one. A loop that replaces its best element unless the next one
is smaller returns it (`isLastMax_foldl`), and it is the last element of a list that is sorted by
the key (`isLastMax_of_sorted`). There is no other (`IsLastMax.unique`).

Two lists that hold the same elements under the greatest key, in the same order, have the same last
maximum (`isLastMax_iff`). Lists that are rearrangements of one another have last maxima of one key
(`IsLastMax.key_eq_of_perm`).
-/

set_option autoImplicit false
set_option relaxedAutoImplicit false

namespace Library.LastMaximum

variable {Item Key : Type*} [LinearOrder Key] {key : Item → Key} {items : List Item} {item : Item}

/-- The element is the last of those with the greatest key. -/
def IsLastMax (key : Item → Key) (items : List Item) (item : Item) : Prop :=
  ∃ before after, items = before ++ item :: after ∧
    (∀ earlier ∈ before, key earlier ≤ key item) ∧ ∀ later ∈ after, key later < key item

/-- A last maximum is an element of the list. -/
theorem IsLastMax.mem (hmax : IsLastMax key items item) : item ∈ items := by
  obtain ⟨before, after, rfl, -⟩ := hmax
  exact List.mem_append_right _ List.mem_cons_self

/-- No key is greater than that of a last maximum. -/
theorem IsLastMax.key_le (hmax : IsLastMax key items item) {other : Item} (hother : other ∈ items) :
    key other ≤ key item := by
  obtain ⟨before, after, rfl, hbefore, hafter⟩ := hmax
  rcases List.mem_append.mp hother with hearlier | hlater
  · exact hbefore other hearlier
  · rcases List.mem_cons.mp hlater with rfl | hlater
    · exact le_refl _
    · exact (hafter other hlater).le

/-- A last maximum is the last of the elements with its key, and no element has a greater one. -/
theorem isLastMax_iff : IsLastMax key items item ↔
    (∀ other ∈ items, key other ≤ key item) ∧
      (items.filter fun other ↦ key other = key item).getLast? = some item := by
  constructor
  · intro hmax
    refine ⟨fun other hother ↦ hmax.key_le hother, ?_⟩
    obtain ⟨before, after, rfl, -, hafter⟩ := hmax
    have hnone : (after.filter fun other ↦ key other = key item) = [] := by
      rw [List.filter_eq_nil_iff]
      intro later hlater
      rw [decide_eq_true_eq]
      exact (hafter later hlater).ne
    rw [List.filter_append, List.filter_cons, if_pos (decide_eq_true rfl), hnone,
      List.getLast?_concat]
  · rintro ⟨hgreatest, hlast⟩
    obtain ⟨front, hfront⟩ := List.getLast?_eq_some_iff.mp hlast
    -- the list is cut behind the last element with the key
    obtain ⟨before, behind, rfl, hbefore, hbehind⟩ := List.filter_eq_append_iff.mp hfront
    obtain ⟨skipped, after, rfl, hskipped, hitem, hafter⟩ := List.filter_eq_cons_iff.mp hbehind
    refine ⟨before ++ skipped, after, ?_, ?_, ?_⟩
    · rw [List.append_assoc]
    · intro earlier hearlier
      refine hgreatest earlier ?_
      rw [← List.append_assoc]
      exact List.mem_append_left _ hearlier
    · intro later hlater
      have hmem : later ∈ before ++ (skipped ++ item :: after) :=
        List.mem_append_right _ (List.mem_append_right _ (List.mem_cons_of_mem _ hlater))
      refine lt_of_le_of_ne (hgreatest later hmem) fun hsame ↦ ?_
      have hnone := List.filter_eq_nil_iff.mp hafter later hlater
      exact hnone (decide_eq_true hsame)

/-- The last maximum of the elements with a property has the property, no greater key among those
before it, and a greater key than those behind it. -/
theorem isLastMax_filter_iff {property : Item → Bool} :
    IsLastMax key (items.filter property) item ↔ property item = true ∧
      ∃ before after, items = before ++ item :: after ∧
        (∀ earlier ∈ before, property earlier = true → key earlier ≤ key item) ∧
        ∀ later ∈ after, property later = true → key later < key item := by
  constructor
  · rintro ⟨kept, behind, hsplit, hkept, hbehind⟩
    obtain ⟨before, rest, rfl, rfl, hrest⟩ := List.filter_eq_append_iff.mp hsplit
    obtain ⟨skipped, after, rfl, hskipped, hitem, rfl⟩ := List.filter_eq_cons_iff.mp hrest
    refine ⟨hitem, before ++ skipped, after, ?_, fun earlier hearlier hproperty ↦ ?_,
      fun later hlater hproperty ↦ ?_⟩
    · rw [List.append_assoc]
    · rcases List.mem_append.mp hearlier with hbefore | hskip
      · exact hkept earlier (List.mem_filter.mpr ⟨hbefore, hproperty⟩)
      · exact absurd hproperty (hskipped earlier hskip)
    · exact hbehind later (List.mem_filter.mpr ⟨hlater, hproperty⟩)
  · rintro ⟨hitem, before, after, rfl, hbefore, hafter⟩
    refine ⟨before.filter property, after.filter property, ?_, fun earlier hearlier ↦ ?_,
      fun later hlater ↦ ?_⟩
    · rw [List.filter_append, List.filter_cons_of_pos hitem]
    · obtain ⟨hmem, hproperty⟩ := List.mem_filter.mp hearlier
      exact hbefore earlier hmem hproperty
    · obtain ⟨hmem, hproperty⟩ := List.mem_filter.mp hlater
      exact hafter later hmem hproperty

/-- The loop that keeps the later of two elements unless it is smaller returns a last maximum. -/
theorem isLastMax_foldl (first : Item) (rest : List Item) :
    IsLastMax key (first :: rest)
      (rest.foldl (fun best next ↦ if key next < key best then best else next) first) := by
  induction rest using List.reverseRecOn with
  | nil => exact ⟨[], [], rfl, nofun, nofun⟩
  | append_singleton rest next ih =>
    rw [List.foldl_concat]
    set best := rest.foldl (fun best next ↦ if key next < key best then best else next) first
    split_ifs with hsmaller
    · obtain ⟨before, after, hsplit, hbefore, hafter⟩ := ih
      refine ⟨before, after ++ [next], ?_, hbefore, ?_⟩
      · rw [← List.cons_append, hsplit, List.append_assoc, List.cons_append]
      · intro later hlater
        rcases List.mem_append.mp hlater with hold | hnew
        · exact hafter later hold
        · rw [List.mem_singleton.mp hnew]
          exact hsmaller
    · refine ⟨first :: rest, [], rfl, fun earlier hearlier ↦ ?_, nofun⟩
      exact (ih.key_le hearlier).trans (not_lt.mp hsmaller)

/-- The last element of a list that is sorted by the key is its last maximum. -/
theorem isLastMax_of_sorted (hsorted : items.Pairwise fun first second ↦ key first ≤ key second)
    (hlast : items.getLast? = some item) : IsLastMax key items item := by
  obtain ⟨before, rfl⟩ := List.getLast?_eq_some_iff.mp hlast
  refine ⟨before, [], rfl, fun earlier hearlier ↦ ?_, nofun⟩
  exact (List.pairwise_append.mp hsorted).2.2 earlier hearlier item (List.mem_singleton_self item)

/-- A list has at most one last maximum. -/
theorem IsLastMax.unique {other : Item} (hmax : IsLastMax key items item)
    (hother : IsLastMax key items other) : item = other := by
  have hkeys : key item = key other :=
    le_antisymm (hother.key_le hmax.mem) (hmax.key_le hother.mem)
  have hlast := (isLastMax_iff.mp hmax).2
  rw [hkeys, (isLastMax_iff.mp hother).2] at hlast
  exact (Option.some.inj hlast).symm

/-- The last maxima of two arrangements of one list have the same key. -/
theorem IsLastMax.key_eq_of_perm {others : List Item} {other : Item}
    (hmax : IsLastMax key items item) (hother : IsLastMax key others other)
    (hperm : others.Perm items) : key other = key item :=
  le_antisymm (hmax.key_le (hperm.mem_iff.mp hother.mem))
    (hother.key_le (hperm.mem_iff.mpr hmax.mem))

end Library.LastMaximum
