import Mathlib.Logic.Relation

/-!
# Flooding a graph

Word of something starts at one site of a directed graph. A site that word arrives at is informed
and sends word on to its neighbours, and it may leave out those that are informed already. At each
moment some sites are informed and word is underway to some sites.

`Spread` is the invariant: the origin is informed, every neighbour of an informed site is informed
or has word underway to it, and word has come to no site that the origin does not reach. It is kept
by every change that neither informs nor sends (`Spread.quiet`) and by every arrival
(`Spread.arrive`). When word has arrived wherever it was underway to, the informed sites are exactly
those that the origin reaches (`Spread.informed_iff`).
-/

set_option autoImplicit false
set_option relaxedAutoImplicit false

namespace Library.Flooding

open Relation

variable {Site : Type*}

/-- Word spreads from the origin: the neighbours of informed sites are informed or have word
underway to them, and word has come to reachable sites only. -/
structure Spread (neighbour : Site → Site → Prop) (origin : Site)
    (informed underway : Site → Prop) : Prop where
  origin_informed : informed origin
  covered : ∀ site other, informed site → neighbour site other → informed other ∨ underway other
  informed_reached : ∀ site, informed site → ReflTransGen neighbour origin site
  underway_reached : ∀ site, underway site → ReflTransGen neighbour origin site

namespace Spread

variable {neighbour : Site → Site → Prop} {origin : Site}
  {informed underway informedAfter underwayAfter : Site → Prop}

/-- Word that is sent by the origin spreads from it. -/
theorem start (horigin : ∀ site, informed site ↔ site = origin)
    (hcovered : ∀ other, neighbour origin other → informed other ∨ underway other)
    (hunderway : ∀ site, underway site → neighbour origin site) :
    Spread neighbour origin informed underway where
  origin_informed := (horigin origin).mpr rfl
  covered := by
    intro site other hsite hneighbour
    obtain rfl := (horigin site).mp hsite
    exact hcovered other hneighbour
  informed_reached := by
    intro site hsite
    obtain rfl := (horigin site).mp hsite
    exact .refl
  underway_reached := fun site hsite ↦ .single (hunderway site hsite)

/-- A change that informs no site and sends no word keeps word spreading. -/
theorem quiet (hspread : Spread neighbour origin informed underway)
    (hinformed : ∀ site, informedAfter site ↔ informed site)
    (hunderway : ∀ site, underwayAfter site ↔ underway site) :
    Spread neighbour origin informedAfter underwayAfter where
  origin_informed := (hinformed origin).mpr hspread.origin_informed
  covered := by
    intro site other hsite hneighbour
    rw [hinformed] at hsite ⊢
    rw [hunderway]
    exact hspread.covered site other hsite hneighbour
  informed_reached := fun site hsite ↦ hspread.informed_reached site ((hinformed site).mp hsite)
  underway_reached := fun site hsite ↦ hspread.underway_reached site ((hunderway site).mp hsite)

/-- Word arrives at a site, which sends it on to its neighbours that are not informed. -/
theorem arrive (hspread : Spread neighbour origin informed underway) {target : Site}
    (htarget : underway target)
    (hinformed : ∀ site, informedAfter site ↔ informed site ∨ site = target)
    (hkept : ∀ site, underway site → underwayAfter site)
    (hsent : ∀ site, underwayAfter site → underway site ∨ neighbour target site)
    (hcovered : ∀ other, neighbour target other → informed other ∨ underwayAfter other) :
    Spread neighbour origin informedAfter underwayAfter where
  origin_informed := (hinformed origin).mpr (.inl hspread.origin_informed)
  covered := by
    intro site other hsite hneighbour
    rw [hinformed] at hsite ⊢
    rcases hsite with hsite | rfl
    · rcases hspread.covered site other hsite hneighbour with hother | hother
      · exact .inl (.inl hother)
      · exact .inr (hkept other hother)
    · rcases hcovered other hneighbour with hother | hother
      · exact .inl (.inl hother)
      · exact .inr hother
  informed_reached := by
    intro site hsite
    rcases (hinformed site).mp hsite with hsite | rfl
    · exact hspread.informed_reached site hsite
    · exact hspread.underway_reached site htarget
  underway_reached := by
    intro site hsite
    rcases hsent site hsite with hsite | hneighbour
    · exact hspread.underway_reached site hsite
    · exact (hspread.underway_reached target htarget).tail hneighbour

/-- When word has arrived wherever it was underway to, exactly the reachable sites are informed. -/
theorem informed_iff (hspread : Spread neighbour origin informed underway)
    (harrived : ∀ site, underway site → informed site) (site : Site) :
    informed site ↔ ReflTransGen neighbour origin site := by
  constructor
  · exact hspread.informed_reached site
  · intro hreached
    induction hreached with
    | refl => exact hspread.origin_informed
    | tail _ hneighbour hinformed =>
      rcases hspread.covered _ _ hinformed hneighbour with hother | hother
      · exact hother
      · exact harrived _ hother

end Spread

end Library.Flooding
