import Mathlib.Data.List.DropRight
import Mathlib.Data.List.Infix
import Mathlib.Data.List.Nodup

/-!
# The recent end of a history

A history is a list of entries, the oldest first, and `history.rtake size` is its recent end: the
last `size` entries, or all of them while there are fewer. `DistinctWithin size history` says that
an entry comes again only after `size` others. A history that grows at its end keeps this property
exactly as long as each new entry is absent from the recent end (`distinctWithin_concat_iff`), which
is what a memory of `size` entries can check.
-/

set_option autoImplicit false
set_option relaxedAutoImplicit false

namespace Library.RecentHistory

variable {Entry : Type*} {size : ℕ} {history : List Entry} {entry : Entry}

/-- Any `size + 1` entries in a row are distinct. -/
def DistinctWithin (size : ℕ) (history : List Entry) : Prop :=
  ∀ window, window <:+: history → window.length ≤ size + 1 → window.Nodup

/-! ### The recent end -/

/-- The recent end is at the end of the history. -/
theorem rtake_suffix (size : ℕ) (history : List Entry) : history.rtake size <:+ history :=
  List.drop_suffix (history.length - size) history

/-- The recent end has as many entries as there are, up to the size. -/
theorem length_rtake (size : ℕ) (history : List Entry) :
    (history.rtake size).length = min history.length size := by
  unfold List.rtake
  rw [List.length_drop]
  omega

/-- A history no longer than the size is its own recent end. -/
theorem rtake_of_length_le (hlength : history.length ≤ size) : history.rtake size = history := by
  unfold List.rtake
  rw [Nat.sub_eq_zero_of_le hlength, List.drop_zero]

/-- A size above the length of the history is no different from the length. -/
theorem rtake_min_length (size : ℕ) (history : List Entry) :
    history.rtake (min history.length size) = history.rtake size := by
  unfold List.rtake
  congr 1
  omega

/-- The recent end of a recent end, one entry smaller. -/
theorem rtake_succ_rtake (size : ℕ) (history : List Entry) :
    (history.rtake (size + 1)).rtake size = history.rtake size := by
  unfold List.rtake
  rw [List.drop_drop, List.length_drop]
  congr 1
  omega

/-- The oldest entry is not in the recent end of a longer history. -/
theorem rtake_cons_of_le (hlength : size ≤ history.length) :
    (entry :: history).rtake size = history.rtake size := by
  unfold List.rtake
  rw [List.length_cons, Nat.succ_sub hlength, List.drop_succ_cons]

/-- A suffix of a history that is no longer than the size lies in the recent end. -/
theorem suffix_rtake_of_length_le {window : List Entry} (hsuffix : window <:+ history)
    (hlength : window.length ≤ size) : window <:+ history.rtake size := by
  refine List.suffix_of_suffix_length_le hsuffix (rtake_suffix size history) ?_
  rw [length_rtake]
  exact le_min hsuffix.length_le hlength

/-- An entry with fewer than `size` entries behind it is in the recent end. -/
theorem mem_rtake_of_length_lt {earlier later : List Entry} (hlater : later.length < size) :
    entry ∈ (earlier ++ entry :: later).rtake size := by
  have hsuffix : entry :: later <:+ (earlier ++ entry :: later).rtake size :=
    suffix_rtake_of_length_le (List.suffix_append earlier (entry :: later)) hlater
  exact hsuffix.subset List.mem_cons_self

/-! ### Distinct entries -/

/-- The empty history repeats nothing. -/
theorem distinctWithin_nil : DistinctWithin size ([] : List Entry) := by
  intro window hwithin _
  rw [List.eq_nil_of_infix_nil hwithin]
  exact List.nodup_nil

/-- The recent end repeats nothing. -/
theorem DistinctWithin.nodup_rtake (hdistinct : DistinctWithin size history) :
    (history.rtake size).Nodup := by
  refine hdistinct _ (rtake_suffix size history).isInfix ?_
  rw [length_rtake]
  omega

/-- A history that grows keeps its entries distinct exactly when the new entry is absent from the
recent end. -/
theorem distinctWithin_concat_iff :
    DistinctWithin size (history ++ [entry]) ↔
      DistinctWithin size history ∧ entry ∉ history.rtake size := by
  constructor
  · intro hdistinct
    have hgrows : history <:+: history ++ [entry] := (List.prefix_append history [entry]).isInfix
    refine ⟨fun window hwithin ↦ hdistinct window (hwithin.trans hgrows), ?_⟩
    have hwithin : history.rtake size ++ [entry] <:+: history ++ [entry] :=
      (List.suffix_append_self_iff.mpr (rtake_suffix size history)).isInfix
    have hwindow := hdistinct _ hwithin (by
      rw [List.length_append, length_rtake, List.length_singleton]
      omega)
    rw [← List.concat_eq_append, List.nodup_concat] at hwindow
    exact hwindow.1
  · rintro ⟨hdistinct, hfresh⟩ window hwithin hlength
    rcases List.infix_concat_iff.mp hwithin with hsuffix | hwithin
    · rcases List.suffix_concat_iff.mp hsuffix with rfl | ⟨front, rfl, hfront⟩
      · exact List.nodup_nil
      · rw [List.length_append, List.length_singleton] at hlength
        have hrecent := suffix_rtake_of_length_le hfront (Nat.le_of_succ_le_succ hlength)
        have hnew : entry ∉ front := fun hmem ↦ hfresh (hrecent.subset hmem)
        have hold := hdistinct front hfront.isInfix (by omega)
        rw [← List.concat_eq_append]
        exact List.Nodup.concat hnew hold
    · exact hdistinct window hwithin hlength

end Library.RecentHistory
