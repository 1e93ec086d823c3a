import Mathlib.Data.List.Range
import Mathlib.Data.List.TakeDrop
import Mathlib.Tactic.Common

/-!
# A mailbox that is read in turns

Items arrive in a mailbox and wait in order. A reader has one turn after another: in a turn items
may arrive, and the reader takes the first item that waits, if it reads at all and there is one.

So the items that were taken are the first that arrived (`filterMap_heard`), and a turn takes the
item whose number is the number of turns before that took one (`heard_eq_some_iff`), whatever the
turn is about.
-/

set_option autoImplicit false
set_option relaxedAutoImplicit false

namespace Library.Mailbox

/-- A turn: whether the reader reads, and what arrives. -/
structure Turn (Item : Type*) where
  reads : Bool
  arrivals : List Item

variable {Item : Type*}

/-- What a turn takes from the items that wait, and what it leaves. -/
def Turn.take (turn : Turn Item) (waiting : List Item) : Option Item × List Item :=
  if turn.reads then ((waiting ++ turn.arrivals).head?, (waiting ++ turn.arrivals).tail)
  else (none, waiting ++ turn.arrivals)

/-- The items that wait before a turn. -/
def waiting (turns : ℕ → Turn Item) : ℕ → List Item
  | 0 => []
  | number + 1 => ((turns number).take (waiting turns number)).2

/-- What a turn takes. -/
def heard (turns : ℕ → Turn Item) (number : ℕ) : Option Item :=
  ((turns number).take (waiting turns number)).1

/-- The items that have arrived before a turn. -/
def arrived (turns : ℕ → Turn Item) (number : ℕ) : List Item :=
  (List.range number).flatMap fun earlier ↦ (turns earlier).arrivals

/-- The number of turns before a turn that took an item. -/
def readCount (turns : ℕ → Turn Item) (number : ℕ) : ℕ :=
  ((List.range number).filterMap (heard turns)).length

variable {turns : ℕ → Turn Item}

/-- The items of one turn more. -/
theorem arrived_succ (number : ℕ) :
    arrived turns (number + 1) = arrived turns number ++ (turns number).arrivals := by
  rw [arrived, List.range_succ, List.flatMap_append, List.flatMap_singleton, arrived]

/-- The items that were taken and those that wait are those that have arrived, in order. -/
theorem filterMap_heard_append_waiting (number : ℕ) :
    (List.range number).filterMap (heard turns) ++ waiting turns number = arrived turns number := by
  induction number with
  | zero => rfl
  | succ number ih =>
    rw [arrived_succ, ← ih, List.range_succ, List.filterMap_append, List.append_assoc,
      List.append_assoc]
    congr 1
    rw [waiting, Turn.take]
    cases hreads : (turns number).reads with
    | false => simp [heard, Turn.take, hreads]
    | true =>
      cases hitems : waiting turns number ++ (turns number).arrivals with
      | nil => simp [heard, Turn.take, hreads, hitems]
      | cons item rest => simp [heard, Turn.take, hreads, hitems]

/-- The items that were taken are the first that arrived. -/
theorem filterMap_heard (number : ℕ) : (List.range number).filterMap (heard turns) =
    (arrived turns number).take (readCount turns number) := by
  rw [← filterMap_heard_append_waiting, readCount, List.take_left]

/-- A turn takes the item whose number is the number of turns before that took one. -/
theorem heard_eq_some_iff {number : ℕ} {item : Item} : heard turns number = some item ↔
    (turns number).reads = true ∧
      (arrived turns (number + 1))[readCount turns number]? = some item := by
  have harrived : (arrived turns (number + 1))[readCount turns number]? =
      (waiting turns number ++ (turns number).arrivals).head? := by
    rw [arrived_succ, ← filterMap_heard_append_waiting, List.append_assoc, readCount,
      List.getElem?_append_right (le_refl _), Nat.sub_self, List.head?_eq_getElem?]
  rw [harrived, heard, Turn.take]
  cases hreads : (turns number).reads <;> simp

/-- No more items were taken than there were turns. -/
theorem readCount_le (turns : ℕ → Turn Item) (number : ℕ) : readCount turns number ≤ number := by
  have hlength : readCount turns number ≤ (List.range number).length :=
    List.length_filterMap_le _ _
  rwa [List.length_range] at hlength

/-- Every turn so far has taken an item if and only if as many items were taken. -/
theorem readCount_eq_iff {number : ℕ} : readCount turns number = number ↔
    ∀ earlier < number, (heard turns earlier).isSome = true := by
  have hcount : readCount turns number =
      (List.range number).countP fun earlier ↦ (heard turns earlier).isSome :=
    List.length_filterMap_eq_countP
  have hall : readCount turns number = (List.range number).length ↔
      ∀ earlier ∈ List.range number, (heard turns earlier).isSome = true := by
    rw [hcount]
    exact List.countP_eq_length
  rw [List.length_range] at hall
  simpa only [List.mem_range] using hall

end Library.Mailbox
