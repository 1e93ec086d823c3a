import Clawbernetes.Library.Bytes

/-!
# Fields joined by a separator

A record is written as one text by putting a separator between its fields. When the fields do not
have the separator, but for the last one, which may, the text determines them (`joined_inj`), and a
last field that is itself joined is joined on (`joined_concat`).
-/

set_option autoImplicit false
set_option relaxedAutoImplicit false

namespace Library.Bytes

/-- The fields with the separator between them. -/
def joined (separator : Char) (fields : List String) : String :=
  (String.singleton separator).intercalate fields

@[simp] theorem joined_singleton (separator : Char) (field : String) :
    joined separator [field] = field :=
  String.intercalate_singleton

/-- The first field stands before the first separator. -/
theorem joined_cons {separator : Char} {rest : List String} (hrest : rest ≠ []) (field : String) :
    joined separator (field :: rest) =
      field ++ String.singleton separator ++ joined separator rest := by
  obtain ⟨next, rest, rfl⟩ := List.exists_cons_of_ne_nil hrest
  exact String.intercalate_cons_cons

/-- The last two fields may be joined first. -/
theorem joined_concat (separator : Char) (fields : List String) (field last : String) :
    joined separator (fields ++ [field, last]) =
      joined separator (fields ++ [field ++ String.singleton separator ++ last]) := by
  induction fields with
  | nil => rw [List.nil_append, List.nil_append, joined_cons (List.cons_ne_nil _ _),
      joined_singleton, joined_singleton]
  | cons first rest ih =>
    rw [List.cons_append, List.cons_append, joined_cons (by simp), joined_cons (by simp), ih]

/-- Fields without the separator and a last field of any content are determined by the text. -/
theorem joined_inj {separator : Char} {fields : List String} :
    ∀ {others : List String} {last lastOther : String}, fields.length = others.length →
      (∀ field ∈ fields, separator ∉ field.toList) →
      (∀ field ∈ others, separator ∉ field.toList) →
      (joined separator (fields ++ [last]) = joined separator (others ++ [lastOther]) ↔
        fields = others ∧ last = lastOther) := by
  induction fields with
  | nil =>
    intro others last lastOther hlength _ _
    obtain rfl := List.eq_nil_of_length_eq_zero hlength.symm
    simp
  | cons field fields ih =>
    intro others last lastOther hlength hfields hothers
    obtain ⟨other, others, rfl⟩ := List.exists_cons_of_length_eq_add_one hlength.symm
    rw [List.forall_mem_cons] at hfields hothers
    have hrest := @ih others last lastOther (Nat.succ.inj hlength) hfields.2 hothers.2
    rw [List.cons_append, List.cons_append, joined_cons (by simp), joined_cons (by simp),
      List.cons.injEq, and_assoc, ← hrest]
    constructor
    · exact join_inj hfields.1 hothers.1
    · rintro ⟨rfl, hsame⟩
      rw [hsame]

end Library.Bytes
