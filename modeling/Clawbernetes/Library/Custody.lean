import Mathlib.Data.List.Nodup

/-!
# Resources in custody

Tasks acquire resources and hold them until they are put on a public list or given back, and they
retire resources that were on the list when they looked. `Resources` is what there is at one time:
the live resources, the listed ones, those that tasks hold, those that tasks mean to retire, and
those that they are retiring.

`Resources.Sound` is what no order of steps can break, as long as resources are given out once: held
resources are live, are held once and are neither listed nor meant to be retired, and listed
resources are live or being retired. `Resources.OrphanFree` says that every live resource is listed
or held, and this is broken only when a task settles: `orphanFree_settle_iff` says exactly when.
-/

set_option autoImplicit false
set_option relaxedAutoImplicit false

namespace Library.Custody

variable {Id : Type*}

/-- The resources at one time, by who accounts for them. -/
structure Resources (Id : Type*) where
  live : List Id
  listed : List Id
  held : List Id
  retires : List Id
  retiring : List Id

namespace Resources

/-- What holds in every order of steps, for the resources that were given out. -/
structure Sound (given : Id → Prop) (resources : Resources Id) : Prop where
  given_live : ∀ id ∈ resources.live, given id
  given_listed : ∀ id ∈ resources.listed, given id
  given_retires : ∀ id ∈ resources.retires, given id
  held_live : ∀ id ∈ resources.held, id ∈ resources.live
  nodup_held : resources.held.Nodup
  held_not_listed : ∀ id ∈ resources.held, id ∉ resources.listed
  held_not_retires : ∀ id ∈ resources.held, id ∉ resources.retires
  listed_live : ∀ id ∈ resources.listed, id ∈ resources.live ∨ id ∈ resources.retiring

/-- Every live resource is listed or held. -/
def OrphanFree (resources : Resources Id) : Prop :=
  ∀ id ∈ resources.live, id ∈ resources.listed ∨ id ∈ resources.held

variable {given : Id → Prop} {live listed held first others retires retiring : List Id}

/-- No resources at all. -/
theorem sound_empty (given : Id → Prop) : Sound given ⟨[], [], [], [], []⟩ := by
  refine ⟨?_, ?_, ?_, ?_, List.nodup_nil, ?_, ?_, ?_⟩ <;>
    exact fun id hid ↦ absurd hid List.not_mem_nil

/-- The order of the tasks means nothing. -/
theorem Sound.perm (hsound : Sound given ⟨live, listed, held, retires, retiring⟩)
    {otherHeld otherRetires otherRetiring : List Id} (hheld : held.Perm otherHeld)
    (hretires : retires.Perm otherRetires) (hretiring : retiring.Perm otherRetiring) :
    Sound given ⟨live, listed, otherHeld, otherRetires, otherRetiring⟩ where
  given_live := hsound.given_live
  given_listed := hsound.given_listed
  given_retires id hid := hsound.given_retires id (hretires.mem_iff.mpr hid)
  held_live id hid := hsound.held_live id (hheld.mem_iff.mpr hid)
  nodup_held := hheld.nodup_iff.mp hsound.nodup_held
  held_not_listed id hid := hsound.held_not_listed id (hheld.mem_iff.mpr hid)
  held_not_retires id hid hretired :=
    hsound.held_not_retires id (hheld.mem_iff.mpr hid) (hretires.mem_iff.mpr hretired)
  listed_live id hid := (hsound.listed_live id hid).imp_right hretiring.mem_iff.mp

/-- A task that means to retire fewer resources, and is retiring more of them. -/
theorem Sound.retask (hsound : Sound given ⟨live, listed, held, retires, retiring⟩)
    {lessRetires moreRetiring : List Id} (hretires : lessRetires ⊆ retires)
    (hretiring : retiring ⊆ moreRetiring) :
    Sound given ⟨live, listed, held, lessRetires, moreRetiring⟩ where
  given_live := hsound.given_live
  given_listed := hsound.given_listed
  given_retires id hid := hsound.given_retires id (hretires hid)
  held_live := hsound.held_live
  nodup_held := hsound.nodup_held
  held_not_listed := hsound.held_not_listed
  held_not_retires id hid hretired := hsound.held_not_retires id hid (hretires hretired)
  listed_live id hid := (hsound.listed_live id hid).imp_right fun hretired ↦ hretiring hretired

/-- A task that means to retire resources from the list. -/
theorem Sound.refer (hsound : Sound given ⟨live, listed, held, retires, retiring⟩)
    {taken moreRetiring : List Id} (htaken : taken ⊆ listed) (hretiring : retiring ⊆ moreRetiring) :
    Sound given ⟨live, listed, held, taken ++ retires, moreRetiring⟩ where
  given_live := hsound.given_live
  given_listed := hsound.given_listed
  given_retires id hid := by
    rcases List.mem_append.mp hid with hnew | hold
    · exact hsound.given_listed id (htaken hnew)
    · exact hsound.given_retires id hold
  held_live := hsound.held_live
  nodup_held := hsound.nodup_held
  held_not_listed := hsound.held_not_listed
  held_not_retires id hid hretired := by
    rcases List.mem_append.mp hretired with hnew | hold
    · exact hsound.held_not_listed id hid (htaken hnew)
    · exact hsound.held_not_retires id hid hold
  listed_live id hid := (hsound.listed_live id hid).imp_right fun hretired ↦ hretiring hretired

/-- A task acquires a resource that was not given out before. -/
theorem Sound.acquire (hsound : Sound given ⟨live, listed, first ++ others, retires, retiring⟩)
    {id : Id} {moreGiven : Id → Prop} (hmore : ∀ other, given other → moreGiven other)
    (hid : moreGiven id) (hfresh : ¬given id) {moreRetiring : List Id}
    (hretiring : retiring ⊆ moreRetiring) :
    Sound moreGiven ⟨live ++ [id], listed, first ++ [id] ++ others, retires, moreRetiring⟩ := by
  have hmem : ∀ other, other ∈ first ++ [id] ++ others ↔ other = id ∨ other ∈ first ++ others := by
    intro other
    simp only [List.mem_append, List.mem_singleton]
    tauto
  refine ⟨?_, ?_, ?_, ?_, ?_, ?_, ?_, ?_⟩
  · intro other hother
    rcases List.mem_append.mp hother with hold | hnew
    · exact hmore other (hsound.given_live other hold)
    · exact List.mem_singleton.mp hnew ▸ hid
  · exact fun other hother ↦ hmore other (hsound.given_listed other hother)
  · exact fun other hother ↦ hmore other (hsound.given_retires other hother)
  · intro other hother
    rcases (hmem other).mp hother with rfl | hold
    · exact List.mem_append_right live (List.mem_singleton_self other)
    · exact List.mem_append_left [id] (hsound.held_live other hold)
  · have hnew : id ∉ first ++ others := fun hheld ↦
      hfresh (hsound.given_live id (hsound.held_live id hheld))
    have hperm : (first ++ [id] ++ others).Perm (id :: (first ++ others)) := by
      rw [List.append_assoc]
      exact List.perm_middle
    exact hperm.nodup_iff.mpr (List.nodup_cons.mpr ⟨hnew, hsound.nodup_held⟩)
  · intro other hother hlisted
    rcases (hmem other).mp hother with rfl | hold
    · exact hfresh (hsound.given_listed other hlisted)
    · exact hsound.held_not_listed other hold hlisted
  · intro other hother hretired
    rcases (hmem other).mp hother with rfl | hold
    · exact hfresh (hsound.given_retires other hretired)
    · exact hsound.held_not_retires other hold hretired
  · intro other hother
    rcases hsound.listed_live other hother with hold | hretired
    · exact .inl (List.mem_append_left [id] hold)
    · exact .inr (hretiring hretired)

/-- A task retires a resource that it means to retire, or gives one back that it holds. -/
theorem Sound.remove (hsound : Sound given ⟨live, listed, held, retires, retiring⟩) {id : Id}
    {left kept : List Id} (hleft : ∀ other, other ∈ left ↔ other ∈ live ∧ other ≠ id)
    (hkept : kept.Sublist held) (hid : id ∉ kept) (hretired : id ∈ listed → id ∈ retiring) :
    Sound given ⟨left, listed, kept, retires, retiring⟩ where
  given_live other hother := hsound.given_live other ((hleft other).mp hother).1
  given_listed := hsound.given_listed
  given_retires := hsound.given_retires
  held_live other hother := (hleft other).mpr
    ⟨hsound.held_live other (hkept.subset hother), fun hsame ↦ hid (hsame ▸ hother)⟩
  nodup_held := hsound.nodup_held.sublist hkept
  held_not_listed other hother := hsound.held_not_listed other (hkept.subset hother)
  held_not_retires other hother := hsound.held_not_retires other (hkept.subset hother)
  listed_live other hother := by
    by_cases hsame : other = id
    · subst hsame
      exact .inr (hretired hother)
    · exact (hsound.listed_live other hother).imp_left fun hlive ↦ (hleft other).mpr ⟨hlive, hsame⟩

/-- A task ends, and what it holds is listed or forgotten. What is listed afterwards was held by it,
or was listed before and is live or being retired by another task. -/
theorem Sound.settle (hsound : Sound given ⟨live, listed, first ++ others, retires, retiring⟩)
    {after lessRetires lessRetiring : List Id} (hretires : lessRetires ⊆ retires)
    (hafter : ∀ id ∈ after, id ∈ first ∨
      id ∈ listed ∧ (id ∈ live ∨ id ∈ lessRetiring)) :
    Sound given ⟨live, after, others, lessRetires, lessRetiring⟩ where
  given_live := hsound.given_live
  given_listed id hid := by
    rcases hafter id hid with hfirst | ⟨hlisted, -⟩
    · exact hsound.given_live id (hsound.held_live id (List.mem_append_left others hfirst))
    · exact hsound.given_listed id hlisted
  given_retires id hid := hsound.given_retires id (hretires hid)
  held_live id hid := hsound.held_live id (List.mem_append_right first hid)
  nodup_held := hsound.nodup_held.sublist (List.sublist_append_right first others)
  held_not_listed id hid hlisted := by
    rcases hafter id hlisted with hfirst | ⟨hbefore, -⟩
    · exact List.disjoint_of_nodup_append hsound.nodup_held hfirst hid
    · exact hsound.held_not_listed id (List.mem_append_right first hid) hbefore
  held_not_retires id hid hretired :=
    hsound.held_not_retires id (List.mem_append_right first hid) (hretires hretired)
  listed_live id hid := by
    rcases hafter id hid with hfirst | ⟨-, hlive⟩
    · exact .inl (hsound.held_live id (List.mem_append_left others hfirst))
    · exact hlive

/-- A task that acquires a resource leaves no orphan. -/
theorem OrphanFree.acquire {id : Id}
    (hfree : OrphanFree ⟨live, listed, first ++ others, retires, retiring⟩)
    (moreRetiring : List Id) :
    OrphanFree ⟨live ++ [id], listed, first ++ [id] ++ others, retires, moreRetiring⟩ := by
  intro other hother
  rcases List.mem_append.mp hother with hold | hnew
  · refine (hfree other hold).imp_right fun hheld ↦ ?_
    rcases List.mem_append.mp hheld with hfirst | hothers
    · exact List.mem_append_left others (List.mem_append_left [id] hfirst)
    · exact List.mem_append_right _ hothers
  · exact .inr (List.mem_append_left others (List.mem_append_right first hnew))

/-- A task that retires a resource, or gives one back, leaves no orphan when the others stay
held. -/
theorem OrphanFree.remove (hfree : OrphanFree ⟨live, listed, held, retires, retiring⟩) {id : Id}
    {left kept : List Id} (hleft : ∀ other, other ∈ left ↔ other ∈ live ∧ other ≠ id)
    (hkept : ∀ other ∈ held, other ≠ id → other ∈ kept) :
    OrphanFree ⟨left, listed, kept, retires, retiring⟩ := by
  intro other hother
  obtain ⟨hlive, hne⟩ := (hleft other).mp hother
  exact (hfree other hlive).imp_right fun hheld ↦ hkept other hheld hne

/-- A task that ends leaves no orphan exactly when every live resource that it held or that was
listed is listed afterwards. -/
theorem orphanFree_settle_iff
    (hsound : Sound given ⟨live, listed, first ++ others, retires, retiring⟩)
    (hfree : OrphanFree ⟨live, listed, first ++ others, retires, retiring⟩)
    {after lessRetires lessRetiring : List Id} :
    OrphanFree ⟨live, after, others, lessRetires, lessRetiring⟩ ↔
      ∀ id ∈ live, id ∈ first ∨ id ∈ listed → id ∈ after := by
  constructor
  · intro hafter id hlive hbefore
    refine (hafter id hlive).resolve_right fun hother ↦ ?_
    rcases hbefore with hfirst | hlisted
    · exact List.disjoint_of_nodup_append hsound.nodup_held hfirst hother
    · exact hsound.held_not_listed id (List.mem_append_right first hother) hlisted
  · intro hkept id hlive
    rcases hfree id hlive with hlisted | hheld
    · exact .inl (hkept id hlive (.inr hlisted))
    · rcases List.mem_append.mp hheld with hfirst | hothers
      · exact .inl (hkept id hlive (.inl hfirst))
      · exact .inr hothers

/-- Putting what a task holds in place of what is listed leaves no orphan exactly when nothing that
is listed is live. -/
theorem orphanFree_publish_iff
    (hsound : Sound given ⟨live, listed, first ++ others, retires, retiring⟩)
    (hfree : OrphanFree ⟨live, listed, first ++ others, retires, retiring⟩)
    {lessRetires lessRetiring : List Id} :
    OrphanFree ⟨live, first, others, lessRetires, lessRetiring⟩ ↔ ∀ id ∈ listed, id ∉ live := by
  rw [orphanFree_settle_iff hsound hfree]
  constructor
  · intro hkept id hlisted hlive
    have hfirst := hkept id hlive (.inr hlisted)
    exact hsound.held_not_listed id (List.mem_append_left others hfirst) hlisted
  · rintro hnone id hlive (hfirst | hlisted)
    · exact hfirst
    · exact absurd hlive (hnone id hlisted)

/-- Forgetting what a task holds leaves no orphan exactly when it holds nothing. -/
theorem orphanFree_forget_iff
    (hsound : Sound given ⟨live, listed, first ++ others, retires, retiring⟩)
    (hfree : OrphanFree ⟨live, listed, first ++ others, retires, retiring⟩)
    {lessRetires lessRetiring : List Id} :
    OrphanFree ⟨live, listed, others, lessRetires, lessRetiring⟩ ↔ first = [] := by
  rw [orphanFree_settle_iff hsound hfree]
  constructor
  · intro hkept
    refine List.eq_nil_iff_forall_not_mem.mpr fun id hfirst ↦ ?_
    have hheld := List.mem_append_left others hfirst
    exact hsound.held_not_listed id hheld (hkept id (hsound.held_live id hheld) (.inl hfirst))
  · rintro rfl id - (hfirst | hlisted)
    · cases hfirst
    · exact hlisted

end Resources

end Library.Custody
