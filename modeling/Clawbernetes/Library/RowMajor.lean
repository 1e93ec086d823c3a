import Mathlib.Algebra.Order.Ring.Nat
import Mathlib.Data.List.Range
import Mathlib.Tactic.Common

/-!
# Matrices as lists, row after row

A matrix with a fixed number of columns is kept as one list, row after row, so that its entry at a
row and a column stands at `row * cols + col`. `fill` is the nested loop that writes such a list
into one of the same length, entry by entry. The place of an entry is computed in machine words,
which may fail or wrap, but is right below some bound (`ExactBelow`). A write outside the list, a
place or an entry that cannot be computed stops the loop.

When every entry can be computed and the list has room, it is written in full (`fill_eq`). When the
loop gets to its end, every entry was computed and the list had room for all of them, whatever the
places of the entries beyond the bound are (`reached_of_fill`, `mul_le_of_reached`).
-/

set_option autoImplicit false
set_option relaxedAutoImplicit false

namespace Library.RowMajor

variable {Value : Type}

/-! ### Lists of entries -/

/-- The entries, row after row. -/
def rowMajor (rows cols : ℕ) (entry : ℕ → ℕ → Value) : List Value :=
  (List.range (rows * cols)).map fun index ↦ entry (index / cols) (index % cols)

/-- There are as many entries as rows times columns. -/
@[simp] theorem length_rowMajor (rows cols : ℕ) (entry : ℕ → ℕ → Value) :
    (rowMajor rows cols entry).length = rows * cols := by
  rw [rowMajor, List.length_map, List.length_range]

/-- The index of an entry is within the list. -/
theorem index_lt {rows cols row col : ℕ} (hrow : row < rows) (hcol : col < cols) :
    row * cols + col < rows * cols :=
  calc row * cols + col < row * cols + cols := Nat.add_lt_add_left hcol _
    _ = (row + 1) * cols := (Nat.succ_mul row cols).symm
    _ ≤ rows * cols := Nat.mul_le_mul_right cols hrow

/-- One row more. -/
theorem rowMajor_succ (rows cols : ℕ) (entry : ℕ → ℕ → Value) :
    rowMajor (rows + 1) cols entry =
      rowMajor rows cols entry ++ (List.range cols).map (entry rows) := by
  rw [rowMajor, rowMajor, Nat.succ_mul, List.range_add, List.map_append, List.map_map]
  refine congrArg _ (List.map_congr_left fun col hcol ↦ ?_)
  have hlt : col < cols := List.mem_range.mp hcol
  have hpos : 0 < cols := Nat.zero_lt_of_lt hlt
  rw [Function.comp_apply, Nat.mul_comm rows cols, Nat.mul_add_div hpos, Nat.mul_add_mod,
    Nat.div_eq_of_lt hlt, Nat.mod_eq_of_lt hlt, Nat.add_zero]

/-! ### Places -/

/-- The places of the entries, as far as they are below the bound. -/
def ExactBelow (bound cols : ℕ) (place : ℕ → ℕ → Option ℕ) : Prop :=
  ∀ row col, row * cols + col < bound → place row col = some (row * cols + col)

/-- When the place of every entry is within some length, all entries are. A place beyond the bound
does not count for it, since one before it is missing first. -/
theorem mul_le_of_reached {bound rows cols length : ℕ} {place : ℕ → ℕ → Option ℕ}
    (hexact : ExactBelow bound cols place) (hlength : length < bound)
    (hreached : ∀ row < rows, ∀ col < cols, ∃ index, place row col = some index ∧ index < length) :
    rows * cols ≤ length := by
  by_contra hlt
  have hlt : length < rows * cols := Nat.not_le.mp hlt
  have hcols : 0 < cols := Nat.pos_of_mul_pos_left (Nat.zero_lt_of_lt hlt)
  have hsplit : length / cols * cols + length % cols = length := Nat.div_add_mod' length cols
  -- the first entry that is missing is the one at `length`
  obtain ⟨index, hplace, hindex⟩ := hreached (length / cols)
    (Nat.div_lt_of_lt_mul (by rwa [Nat.mul_comm] at hlt)) (length % cols) (Nat.mod_lt length hcols)
  rw [hexact _ _ (by omega), hsplit] at hplace
  obtain rfl := Option.some.inj hplace
  exact Nat.lt_irrefl _ hindex

/-! ### The loop that writes the entries -/

/-- The loop over the columns of a row. -/
def fillRow (cols : ℕ) (place : ℕ → ℕ → Option ℕ) (value : ℕ → ℕ → Option Value) (row : ℕ)
    (output : List Value) : Option (List Value) :=
  (List.range cols).foldlM (fun output col ↦ do
    let entry ← value row col
    let index ← place row col
    if index < output.length then some (output.set index entry) else none)
    output

/-- The loop over the rows. -/
def fill (rows cols : ℕ) (place : ℕ → ℕ → Option ℕ) (value : ℕ → ℕ → Option Value)
    (output : List Value) : Option (List Value) :=
  (List.range rows).foldlM (fun output row ↦ fillRow cols place value row output) output

/-- Writing at the first place that has not been written. -/
theorem set_append_drop {front output : List Value} {index : ℕ} (hfront : front.length = index)
    (hindex : index < output.length) (entry : Value) :
    (front ++ output.drop index).set index entry =
      (front ++ [entry]) ++ output.drop (index + 1) := by
  rw [List.drop_eq_getElem_cons hindex, List.set_append_right _ _ hfront.le, hfront, Nat.sub_self,
    List.set_cons_zero, List.append_assoc, List.singleton_append]

section Written

variable {cols : ℕ} {place : ℕ → ℕ → Option ℕ} {value : ℕ → ℕ → Option Value}
  {output : List Value}

/-- A row is written behind what has been written. -/
theorem fillRow_eq {row : ℕ} {entry : ℕ → Value} {front : List Value}
    (hplace : ∀ col < cols, place row col = some (row * cols + col))
    (hvalue : ∀ col < cols, value row col = some (entry col))
    (hfront : front.length = row * cols) (hlength : row * cols + cols ≤ output.length) :
    fillRow cols place value row (front ++ output.drop (row * cols)) =
      some (front ++ (List.range cols).map entry ++ output.drop (row * cols + cols)) := by
  have hcount : ∀ count ≤ cols, (List.range count).foldlM (fun output col ↦ do
        let found ← value row col
        let index ← place row col
        if index < output.length then some (output.set index found) else none)
        (front ++ output.drop (row * cols)) =
      some (front ++ (List.range count).map entry ++ output.drop (row * cols + count)) := by
    intro count
    induction count with
    | zero => intro _; simp
    | succ count ih =>
      intro hcount
      have hwritten : (front ++ (List.range count).map entry).length = row * cols + count := by
        rw [List.length_append, List.length_map, List.length_range, hfront]
      have hwithin : row * cols + count < output.length := by omega
      have hroom : row * cols + count < (front ++ (List.range count).map entry ++
          output.drop (row * cols + count)).length := by
        rw [List.length_append, hwritten, List.length_drop]
        omega
      rw [List.range_succ, List.foldlM_append, ih (by omega)]
      simp only [Option.bind_eq_bind, Option.bind_some, List.foldlM_cons, List.foldlM_nil,
        hvalue count hcount, hplace count hcount, if_pos hroom, List.map_append, List.map_cons,
        List.map_nil]
      rw [set_append_drop hwritten hwithin, List.append_assoc front]
      rfl
  exact hcount cols (le_refl cols)

/-- When every entry can be computed and the list has room for all, the loops write them all. -/
theorem fill_eq {bound rows : ℕ} {entry : ℕ → ℕ → Value} (hexact : ExactBelow bound cols place)
    (hbound : output.length < bound)
    (hvalue : ∀ row < rows, ∀ col < cols, value row col = some (entry row col))
    (hlength : output.length = rows * cols) :
    fill rows cols place value output = some (rowMajor rows cols entry) := by
  have hrows : ∀ count ≤ rows, fill count cols place value output =
      some (rowMajor count cols entry ++ output.drop (count * cols)) := by
    intro count
    induction count with
    | zero => intro _; simp [fill, rowMajor]
    | succ count ih =>
      intro hcount
      have hplace : ∀ col < cols, place count col = some (count * cols + col) := by
        intro col hcol
        have hindex : count * cols + col < rows * cols := index_lt hcount hcol
        exact hexact count col (by omega)
      have hroom : count * cols + cols ≤ output.length := by
        rw [hlength, ← Nat.succ_mul]
        exact Nat.mul_le_mul_right cols hcount
      have hrow := fillRow_eq hplace (hvalue count hcount) (length_rowMajor count cols entry) hroom
      rw [← rowMajor_succ, ← Nat.succ_mul] at hrow
      rw [fill, List.range_succ, List.foldlM_append, ← fill, ih (by omega)]
      simp only [Option.bind_eq_bind, Option.bind_some, List.foldlM_cons, List.foldlM_nil, hrow]
      rfl
  rw [hrows rows (le_refl rows), ← hlength, List.drop_length, List.append_nil]

end Written

/-! ### Loops that get to their end -/

/-- When a loop whose steps keep a property gets to its end, each step was taken from a state with
the property. -/
theorem steps_of_foldlM {State Index : Type} {step : State → Index → Option State}
    (kept : State → Prop)
    (hkept : ∀ state index next, kept state → step state index = some next → kept next)
    (indices : List Index) {start last : State} (hstart : kept start)
    (hrun : indices.foldlM step start = some last) :
    kept last ∧ ∀ index ∈ indices, ∃ state next, kept state ∧ step state index = some next := by
  induction indices generalizing start with
  | nil =>
    rw [List.foldlM_nil] at hrun
    obtain rfl := Option.some.inj hrun
    exact ⟨hstart, fun index hindex ↦ absurd hindex List.not_mem_nil⟩
  | cons index rest ih =>
    rw [List.foldlM_cons, Option.bind_eq_bind, Option.bind_eq_some_iff] at hrun
    obtain ⟨next, hstep, hrest⟩ := hrun
    obtain ⟨hlast, hsteps⟩ := ih (hkept start index next hstart hstep) hrest
    refine ⟨hlast, ?_⟩
    rintro other (_ | ⟨_, hother⟩)
    · exact ⟨start, next, hstart, hstep⟩
    · exact hsteps other hother

/-- When the loops get to their end, every entry was computed, and its place was within the list. -/
theorem reached_of_fill {rows cols : ℕ} {place : ℕ → ℕ → Option ℕ}
    {value : ℕ → ℕ → Option Value} {output result : List Value}
    (hfill : fill rows cols place value output = some result) :
    ∀ row < rows, ∀ col < cols, (∃ entry, value row col = some entry) ∧
      ∃ index, place row col = some index ∧ index < output.length := by
  have hcolumns : ∀ {row : ℕ} {state next : List Value}, state.length = output.length →
      fillRow cols place value row state = some next → next.length = output.length ∧
        ∀ col ∈ List.range cols, ∃ state next : List Value, state.length = output.length ∧
          ((value row col).bind fun entry ↦ (place row col).bind fun index ↦
            if index < state.length then some (state.set index entry) else none) = some next := by
    intro row state next hstate hrow
    refine steps_of_foldlM (fun state : List Value ↦ state.length = output.length)
      (fun state col next hstate hstep ↦ ?_) (List.range cols) hstate hrow
    simp only [Option.bind_eq_some_iff] at hstep
    obtain ⟨entry, -, index, -, hset⟩ := hstep
    split_ifs at hset
    obtain rfl := Option.some.inj hset
    rw [List.length_set, hstate]
  obtain ⟨-, hrows⟩ := steps_of_foldlM (fun state : List Value ↦ state.length = output.length)
    (fun state row next hstate hstep ↦ (hcolumns hstate hstep).1) (List.range rows) rfl hfill
  intro row hrow col hcol
  obtain ⟨state, next, hstate, hstep⟩ := hrows row (List.mem_range.mpr hrow)
  obtain ⟨before, after, hbefore, hwrite⟩ :=
    (hcolumns hstate hstep).2 col (List.mem_range.mpr hcol)
  simp only [Option.bind_eq_some_iff] at hwrite
  obtain ⟨entry, hvalue, index, hplace, hset⟩ := hwrite
  split_ifs at hset with hindex
  exact ⟨⟨entry, hvalue⟩, index, hplace, hbefore ▸ hindex⟩

end Library.RowMajor
