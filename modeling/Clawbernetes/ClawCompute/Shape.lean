import Mathlib.Data.List.Forall2
import Mathlib.Data.List.GetD
import Mathlib.Data.UInt

/-!
# Shapes of tensors

`Shape` of `tensor.rs` and its check of broadcasting, which compares the dimensions of two shapes
from the last one on. A missing dimension is meant to count as one. But the index behind the first
dimension of the shorter shape saturates at zero, so every further dimension of the longer shape is
compared with the first one of the shorter.

`isBroadcastableWith_iff` is what the check asks for, and `broadcasts_exactly_iff` says for which
shapes it is the rule of broadcasting (`Broadcastable`).
-/

set_option autoImplicit false
set_option relaxedAutoImplicit false

namespace Clawbernetes.ClawCompute

/-- `Shape`. -/
@[ext] structure Shape where
  dims : List UInt64
  deriving DecidableEq

namespace Shape

/-- `Shape::scalar`. -/
def scalar : Shape := ⟨[]⟩

/-- `Shape::ndim`. -/
def ndim (shape : Shape) : ℕ := shape.dims.length

/-- The dimension that `is_broadcastable_with` reads at a distance from the last one. The index
saturates at zero. -/
def readDim (shape : Shape) (i : ℕ) : UInt64 := shape.dims[shape.ndim - (i + 1)]?.getD 1

/-- `Shape::is_broadcastable_with`. -/
def isBroadcastableWith (shape other : Shape) : Bool :=
  (List.range (max shape.ndim other.ndim)).all fun i ↦
    ¬(shape.readDim i ≠ other.readDim i ∧ shape.readDim i ≠ 1 ∧ other.readDim i ≠ 1)

/-! ### The rule of broadcasting -/

/-- Two dimensions are equal, or one of them is one. -/
def Compatible (first second : UInt64) : Prop := first = second ∨ first = 1 ∨ second = 1

instance (first second : UInt64) : Decidable (Compatible first second) :=
  inferInstanceAs (Decidable (_ ∨ _ ∨ _))

/-- The dimensions with ones in front, up to a rank. -/
def padded (rank : ℕ) (shape : Shape) : List UInt64 :=
  List.replicate (rank - shape.ndim) 1 ++ shape.dims

/-- Corresponding dimensions are compatible, after the shorter shape is padded with ones in front.
-/
def Broadcastable (shape other : Shape) : Prop :=
  List.Forall₂ Compatible (shape.padded (max shape.ndim other.ndim))
    (other.padded (max shape.ndim other.ndim))

/-- The dimension at a distance from the last one, which is one where it is missing. -/
def fromEnd (shape : Shape) (i : ℕ) : UInt64 := shape.dims.reverse.getD i 1

/-- The dimensions that both shapes have are compatible. -/
def Aligned (shape other : Shape) : Prop :=
  ∀ i, i < shape.ndim → i < other.ndim → Compatible (shape.fromEnd i) (other.fromEnd i)

/-- The dimensions that only the first shape has are compatible with the first dimension of the
other. -/
def ExtraFits (shape other : Shape) : Prop :=
  ∀ dim ∈ shape.dims.take (shape.ndim - other.ndim), Compatible dim (other.dims.headD 1)

variable {shape other : Shape}

/-- Compatibility has no direction. -/
theorem Compatible.symm {first second : UInt64} (hcompatible : Compatible first second) :
    Compatible second first := by
  rcases hcompatible with hsame | hfirst | hsecond
  · exact .inl hsame.symm
  · exact .inr (.inr hfirst)
  · exact .inr (.inl hsecond)

/-- Nor has that of the common dimensions. -/
theorem Aligned.symm (haligned : Aligned shape other) : Aligned other shape :=
  fun i hother hshape ↦ (haligned i hshape hother).symm

/-- A missing dimension is one. -/
theorem fromEnd_of_le {i : ℕ} (hmissing : shape.ndim ≤ i) : shape.fromEnd i = 1 := by
  rw [fromEnd, List.getD_eq_default]
  rw [List.length_reverse]
  exact hmissing

/-- A dimension counts from the last one as it is stored. -/
theorem fromEnd_of_lt {i : ℕ} (hpresent : i < shape.ndim) :
    ∃ hindex : shape.ndim - 1 - i < shape.dims.length,
      shape.fromEnd i = shape.dims[shape.ndim - 1 - i] := by
  have hlength : shape.dims.length = shape.ndim := rfl
  have hindex : shape.ndim - 1 - i < shape.dims.length := by omega
  refine ⟨hindex, ?_⟩
  rw [fromEnd, List.getD_eq_getElem?_getD, List.getElem?_reverse hpresent, hlength,
    List.getElem?_eq_getElem hindex, Option.getD_some]

/-- The padded dimensions, from the last one on, are the dimensions and ones for the missing. -/
theorem getD_reverse_padded (rank i : ℕ) (shape : Shape) :
    (shape.padded rank).reverse.getD i 1 = shape.fromEnd i := by
  rw [padded, List.reverse_append, List.reverse_replicate, fromEnd]
  by_cases hwithin : i < shape.dims.reverse.length
  · rw [List.getD_append _ _ _ _ hwithin]
  · rw [not_lt] at hwithin
    rw [List.getD_append_right _ _ _ _ hwithin, List.getD_eq_default _ _ hwithin]
    by_cases hreplicated : i - shape.dims.reverse.length < rank - shape.ndim
    · exact List.getD_replicate _ hreplicated
    · exact List.getD_eq_default _ _ (by rw [List.length_replicate]; exact not_lt.mp hreplicated)

/-- Two lists of one length are related when their entries are. -/
theorem forall₂_iff_getD {relation : UInt64 → UInt64 → Prop} {first second : List UInt64}
    (hlength : first.length = second.length) : List.Forall₂ relation first second ↔
      ∀ i, i < first.length → relation (first.getD i 1) (second.getD i 1) := by
  rw [List.forall₂_iff_get]
  constructor
  · rintro ⟨-, hentries⟩ i hi
    rw [List.getD_eq_getElem _ _ hi, List.getD_eq_getElem _ _ (hlength ▸ hi)]
    exact hentries i hi (hlength ▸ hi)
  · intro hentries
    refine ⟨hlength, fun i hfirst hsecond ↦ ?_⟩
    have hi := hentries i hfirst
    rw [List.getD_eq_getElem _ _ hfirst, List.getD_eq_getElem _ _ hsecond] at hi
    exact hi

/-- The padded dimensions are as many as the rank. -/
theorem length_padded {rank : ℕ} (hrank : shape.ndim ≤ rank) :
    (shape.padded rank).length = rank := by
  rw [padded, List.length_append, List.length_replicate]
  exact Nat.sub_add_cancel hrank

/-- Only the dimensions that both shapes have decide whether they are broadcastable. -/
theorem broadcastable_iff : Broadcastable shape other ↔ Aligned shape other := by
  have hshape := length_padded (le_max_left shape.ndim other.ndim)
  have hother := length_padded (le_max_right shape.ndim other.ndim)
  have hlength : (shape.padded (max shape.ndim other.ndim)).reverse.length =
      (other.padded (max shape.ndim other.ndim)).reverse.length := by
    rw [List.length_reverse, List.length_reverse, hshape, hother]
  rw [Broadcastable, ← List.forall₂_reverse_iff, forall₂_iff_getD hlength, List.length_reverse,
    hshape]
  simp only [getD_reverse_padded]
  constructor
  · exact fun hall i hpresent _ ↦ hall i (lt_max_of_lt_left hpresent)
  · intro haligned i _
    by_cases hpresent : i < shape.ndim
    · by_cases hfound : i < other.ndim
      · exact haligned i hpresent hfound
      · exact .inr (.inr (fromEnd_of_le (not_lt.mp hfound)))
    · exact .inr (.inl (fromEnd_of_le (not_lt.mp hpresent)))

/-! ### What the check asks for -/

/-- Within the rank the check reads the dimensions from the last one on. -/
theorem readDim_of_lt {i : ℕ} (hpresent : i < shape.ndim) : shape.readDim i = shape.fromEnd i := by
  obtain ⟨hindex, hvalue⟩ := fromEnd_of_lt hpresent
  rw [hvalue, readDim, Nat.add_comm i 1, ← Nat.sub_sub, List.getElem?_eq_getElem hindex,
    Option.getD_some]

/-- Beyond the rank the check reads the first dimension again. -/
theorem readDim_of_le {i : ℕ} (hmissing : shape.ndim ≤ i) :
    shape.readDim i = shape.dims.headD 1 := by
  rw [readDim, Nat.sub_eq_zero_of_le (Nat.le_succ_of_le hmissing)]
  cases shape.dims with
  | nil => rfl
  | cons first rest => rfl

/-- The further dimensions, counted from the last one. -/
theorem extraFits_iff : ExtraFits shape other ↔ ∀ i, other.ndim ≤ i → i < shape.ndim →
    Compatible (shape.fromEnd i) (other.dims.headD 1) := by
  constructor
  · intro hextra i hbeyond hpresent
    obtain ⟨hindex, hvalue⟩ := fromEnd_of_lt hpresent
    rw [hvalue]
    refine hextra _ (List.mem_take_iff_getElem.mpr ⟨shape.ndim - 1 - i, ?_, rfl⟩)
    exact lt_min (by omega) hindex
  · intro hall dim hdim
    obtain ⟨index, hindex, rfl⟩ := List.mem_take_iff_getElem.mp hdim
    have hwithin : index < shape.ndim := lt_of_lt_of_le hindex (min_le_right _ _)
    have hextra : index < shape.ndim - other.ndim := lt_of_lt_of_le hindex (min_le_left _ _)
    have hcompatible := hall (shape.ndim - 1 - index) (by omega) (by omega)
    obtain ⟨hback, hvalue⟩ := fromEnd_of_lt (show shape.ndim - 1 - index < shape.ndim by omega)
    have hsame : shape.ndim - 1 - (shape.ndim - 1 - index) = index := by omega
    simp only [hsame] at hvalue
    rw [hvalue] at hcompatible
    exact hcompatible

/-- The check asks for compatible dimensions where both shapes have them, and beyond that for
dimensions that are compatible with the first one of the shorter shape. -/
theorem isBroadcastableWith_iff : shape.isBroadcastableWith other = true ↔
    Aligned shape other ∧ ExtraFits shape other ∧ ExtraFits other shape := by
  have hread : shape.isBroadcastableWith other = true ↔ ∀ i, i < max shape.ndim other.ndim →
      Compatible (shape.readDim i) (other.readDim i) := by
    rw [isBroadcastableWith, List.all_eq_true]
    refine forall_congr' fun i ↦ ?_
    rw [List.mem_range, decide_eq_true_eq, Compatible]
    tauto
  rw [hread, extraFits_iff, extraFits_iff]
  constructor
  · intro hall
    refine ⟨fun i hshape hother ↦ ?_, fun i hbeyond hpresent ↦ ?_, fun i hbeyond hpresent ↦ ?_⟩
    · have hcompatible := hall i (lt_max_of_lt_left hshape)
      rwa [readDim_of_lt hshape, readDim_of_lt hother] at hcompatible
    · have hcompatible := hall i (lt_max_of_lt_left hpresent)
      rwa [readDim_of_lt hpresent, readDim_of_le hbeyond] at hcompatible
    · have hcompatible := hall i (lt_max_of_lt_right hpresent)
      rw [readDim_of_lt hpresent, readDim_of_le hbeyond] at hcompatible
      exact hcompatible.symm
  · rintro ⟨haligned, hshape, hother⟩ i hwithin
    by_cases hfirst : i < shape.ndim
    · by_cases hsecond : i < other.ndim
      · rw [readDim_of_lt hfirst, readDim_of_lt hsecond]
        exact haligned i hfirst hsecond
      · rw [not_lt] at hsecond
        rw [readDim_of_lt hfirst, readDim_of_le hsecond]
        exact hshape i hsecond hfirst
    · rw [not_lt] at hfirst
      have hsecond : i < other.ndim := (lt_max_iff.mp hwithin).resolve_left (not_lt.mpr hfirst)
      rw [readDim_of_le hfirst, readDim_of_lt hsecond]
      exact (hother i hfirst hsecond).symm

/-! ### When the check is the rule -/

/-- The check is symmetric. -/
theorem isBroadcastableWith_comm (shape other : Shape) :
    shape.isBroadcastableWith other = other.isBroadcastableWith shape := by
  rw [Bool.eq_iff_iff, isBroadcastableWith_iff, isBroadcastableWith_iff]
  constructor
  · exact fun ⟨haligned, hshape, hother⟩ ↦ ⟨haligned.symm, hother, hshape⟩
  · exact fun ⟨haligned, hother, hshape⟩ ↦ ⟨haligned.symm, hshape, hother⟩

/-- A scalar passes the check with every shape. -/
theorem scalar_isBroadcastableWith (other : Shape) : scalar.isBroadcastableWith other = true := by
  refine isBroadcastableWith_iff.mpr ⟨fun i hnone ↦ absurd hnone (Nat.not_lt_zero i), ?_, ?_⟩
  · intro dim hdim
    cases List.mem_of_mem_take hdim
  · exact fun dim _ ↦ .inr (.inr rfl)

/-- A shape with further dimensions in front. -/
def prepend (front : List UInt64) (shape : Shape) : Shape := ⟨front ++ shape.dims⟩

/-- Dimensions in front leave the others where they are from the last one on. -/
theorem fromEnd_prepend (front : List UInt64) {i : ℕ} (hpresent : i < shape.ndim) :
    (shape.prepend front).fromEnd i = shape.fromEnd i := by
  rw [fromEnd, prepend, List.reverse_append,
    List.getD_append _ _ _ _ (by rwa [List.length_reverse])]
  rfl

/-- Dimensions that are put in front of a shape beyond the rank of the other have to be compatible
with the first dimension of the other. -/
theorem prepend_isBroadcastableWith_iff (front : List UInt64) (hrank : other.ndim ≤ shape.ndim)
    (hpasses : shape.isBroadcastableWith other = true) :
    (shape.prepend front).isBroadcastableWith other = true ↔
      ∀ dim ∈ front, Compatible dim (other.dims.headD 1) := by
  obtain ⟨haligned, hextra, -⟩ := isBroadcastableWith_iff.mp hpasses
  have hndim : (shape.prepend front).ndim = front.length + shape.ndim := List.length_append
  have hfurther : (shape.prepend front).dims.take ((shape.prepend front).ndim - other.ndim) =
      front ++ shape.dims.take (shape.ndim - other.ndim) := by
    rw [hndim, Nat.add_sub_assoc hrank, prepend, List.take_length_add_append]
  rw [isBroadcastableWith_iff, ExtraFits, hfurther, List.forall_mem_append]
  constructor
  · exact fun ⟨_, ⟨hfront, _⟩, _⟩ ↦ hfront
  · intro hfront
    refine ⟨fun i _ hother ↦ ?_, ⟨hfront, hextra⟩, fun dim hdim ↦ ?_⟩
    · have hpresent := lt_of_lt_of_le hother hrank
      rw [fromEnd_prepend front hpresent]
      exact haligned i hpresent hother
    · rw [Nat.sub_eq_zero_of_le (by omega), List.take_zero] at hdim
      cases hdim

/-- The check of a shape is the rule of broadcasting: it is symmetric, scalars pass it, and a shape
that passes it does so with dimensions in front beyond the rank of the other. -/
structure BroadcastsExactly (shape other : Shape) (front : List UInt64) : Prop where
  exact : shape.isBroadcastableWith other = true ↔ Broadcastable shape other
  symm : shape.isBroadcastableWith other = other.isBroadcastableWith shape
  scalar : Shape.scalar.isBroadcastableWith other = true
  prepend : other.ndim ≤ shape.ndim → shape.isBroadcastableWith other = true →
    (shape.prepend front).isBroadcastableWith other = true

/-- The check is the rule of broadcasting exactly for shapes whose common dimensions clash, or whose
further dimensions, those in front among them, are compatible with the first dimension of the
shorter shape. -/
theorem broadcasts_exactly_iff (shape other : Shape) (front : List UInt64) :
    BroadcastsExactly shape other front ↔
      (Aligned shape other → ExtraFits shape other ∧ ExtraFits other shape ∧
        (other.ndim ≤ shape.ndim → ∀ dim ∈ front, Compatible dim (other.dims.headD 1))) := by
  constructor
  · rintro ⟨hexact, -, -, hprepend⟩ haligned
    have hpasses := hexact.mpr (broadcastable_iff.mpr haligned)
    obtain ⟨-, hshape, hother⟩ := isBroadcastableWith_iff.mp hpasses
    exact ⟨hshape, hother, fun hrank ↦
      (prepend_isBroadcastableWith_iff front hrank hpasses).mp (hprepend hrank hpasses)⟩
  · intro hfits
    refine ⟨?_, isBroadcastableWith_comm shape other, scalar_isBroadcastableWith other, ?_⟩
    · rw [isBroadcastableWith_iff, broadcastable_iff]
      exact ⟨fun hpasses ↦ hpasses.1,
        fun haligned ↦ ⟨haligned, (hfits haligned).1, (hfits haligned).2.1⟩⟩
    · intro hrank hpasses
      have haligned := (isBroadcastableWith_iff.mp hpasses).1
      exact (prepend_isBroadcastableWith_iff front hrank hpasses).mpr ((hfits haligned).2.2 hrank)

/-- A matrix is refused beside a row of its width. -/
theorem matrix_refused_beside_row :
    (Shape.mk [3, 4]).isBroadcastableWith ⟨[4]⟩ = false ∧ ¬BroadcastsExactly ⟨[3, 4]⟩ ⟨[4]⟩ [] := by
  have hrefused : (Shape.mk [3, 4]).isBroadcastableWith ⟨[4]⟩ = false := by decide
  refine ⟨hrefused, fun hexact ↦ ?_⟩
  have hbroadcastable : Broadcastable ⟨[3, 4]⟩ ⟨[4]⟩ :=
    .cons (.inr (.inr rfl)) (.cons (.inl rfl) .nil)
  rw [hexact.exact.mpr hbroadcastable] at hrefused
  cases hrefused

end Shape

end Clawbernetes.ClawCompute
