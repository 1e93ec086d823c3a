import Mathlib.Data.List.DropRight
import Mathlib.Data.List.Infix
import Mathlib.Tactic.Common

/-!
# Parts between separators

A text of parts with a separator of two different symbols between them, such as a comma and a blank,
is cut at each separator. Cutting is the inverse of joining: whatever is cut is joined again
(`joinPair_splitPair`), and the parts are read back when the separator is in none of them
(`splitPair_joinPair`), as it is in no part that was cut (`not_infix_of_mem_splitPair`).

The lines of a text end in a line feed, or a carriage return and a line feed, but for the last one,
which may end with the text. Lines that have no line feed and do not end in a carriage return are
read back (`lines_flatMap`), and no line that was cut has a line feed (`not_mem_of_mem_lines`).
-/

set_option autoImplicit false
set_option relaxedAutoImplicit false

namespace Library.Separators

variable {Symbol : Type} {first second : Symbol}

/-! ### Separators of two symbols -/

/-- The parts with the separator between them. -/
def joinPair (first second : Symbol) : List (List Symbol) → List Symbol
  | [] => []
  | [part] => part
  | part :: rest => part ++ first :: second :: joinPair first second rest

/-- More than one part begins with the first of them. -/
theorem joinPair_cons {rest : List (List Symbol)} (hrest : rest ≠ []) (part : List Symbol) :
    joinPair first second (part :: rest) =
      part ++ first :: second :: joinPair first second rest := by
  cases rest with
  | nil => exact absurd rfl hrest
  | cons next others => rfl

/-- A symbol in front of the text is a symbol in front of the first part. -/
theorem joinPair_modifyHead {parts : List (List Symbol)} (hparts : parts ≠ []) (symbol : Symbol) :
    joinPair first second (parts.modifyHead (symbol :: ·)) =
      symbol :: joinPair first second parts := by
  match parts, hparts with
  | [part], _ => rfl
  | part :: next :: rest, _ => rfl

/-- A part stands in the text that is joined from it. -/
theorem infix_joinPair_of_mem {parts : List (List Symbol)} {part : List Symbol}
    (hpart : part ∈ parts) : part <:+: joinPair first second parts := by
  induction parts with
  | nil => cases hpart
  | cons head rest ih =>
    cases rest with
    | nil => rw [List.mem_singleton.mp hpart]; exact List.infix_refl _
    | cons next others =>
      rw [joinPair_cons (List.cons_ne_nil next others)]
      rcases List.mem_cons.mp hpart with rfl | hrest
      · exact ⟨[], _, rfl⟩
      · exact (ih hrest).trans ⟨head ++ [first, second], [], by simp⟩

/-- A symbol of the text is one of the separator or of a part. -/
theorem mem_joinPair {parts : List (List Symbol)} {symbol : Symbol}
    (hsymbol : symbol ∈ joinPair first second parts) :
    symbol = first ∨ symbol = second ∨ ∃ part ∈ parts, symbol ∈ part := by
  induction parts with
  | nil => cases hsymbol
  | cons head rest ih =>
    cases rest with
    | nil => exact .inr (.inr ⟨head, List.mem_cons_self, hsymbol⟩)
    | cons next others =>
      rw [joinPair_cons (List.cons_ne_nil next others), List.mem_append, List.mem_cons,
        List.mem_cons] at hsymbol
      rcases hsymbol with hhead | hfirst | hsecond | hrest
      · exact .inr (.inr ⟨head, List.mem_cons_self, hhead⟩)
      · exact .inl hfirst
      · exact .inr (.inl hsecond)
      · refine (ih hrest).imp_right (Or.imp_right ?_)
        rintro ⟨part, hpart, hmem⟩
        exact ⟨part, List.mem_cons_of_mem _ hpart, hmem⟩

/-- The last symbol of the text is that of the separator or of a part. -/
theorem getLast?_joinPair {parts : List (List Symbol)} {symbol : Symbol}
    (hsymbol : (joinPair first second parts).getLast? = some symbol) :
    symbol = second ∨ ∃ part ∈ parts, part.getLast? = some symbol := by
  induction parts with
  | nil => cases hsymbol
  | cons head rest ih =>
    cases rest with
    | nil => exact .inr ⟨head, List.mem_cons_self, hsymbol⟩
    | cons next others =>
      rw [joinPair_cons (List.cons_ne_nil next others), List.getLast?_append,
        List.getLast?_cons_cons, List.getLast?_cons] at hsymbol
      cases hlast : (joinPair first second (next :: others)).getLast? with
      | none =>
        rw [hlast] at hsymbol
        exact .inl (Option.some.inj hsymbol).symm
      | some last =>
        rw [hlast] at hsymbol
        refine (ih (hlast.trans hsymbol)).imp_right ?_
        rintro ⟨part, hpart, hmem⟩
        exact ⟨part, List.mem_cons_of_mem _ hpart, hmem⟩

variable [DecidableEq Symbol]

/-- `str::split` at a pattern of two symbols. -/
def splitPair (first second : Symbol) : List Symbol → List (List Symbol)
  | [] => [[]]
  | [symbol] => [[symbol]]
  | symbol :: next :: rest =>
    if symbol = first ∧ next = second then [] :: splitPair first second rest
    else (splitPair first second (next :: rest)).modifyHead (symbol :: ·)

/-- A text has at least one part. -/
theorem splitPair_ne_nil (text : List Symbol) : splitPair first second text ≠ [] := by
  fun_induction splitPair first second text with
  | case1 => simp
  | case2 symbol => simp
  | case3 symbol next rest hpair ih => simp
  | case4 symbol next rest hpair ih => simpa using ih

/-- What is cut is joined again. -/
theorem joinPair_splitPair (text : List Symbol) :
    joinPair first second (splitPair first second text) = text := by
  fun_induction splitPair first second text with
  | case1 => rfl
  | case2 symbol => rfl
  | case3 symbol next rest hpair ih =>
    rw [joinPair_cons (splitPair_ne_nil rest), ih, hpair.1, hpair.2, List.nil_append]
  | case4 symbol next rest hpair ih =>
    rw [joinPair_modifyHead (splitPair_ne_nil _), ih]

/-- The first part of a text is in front of the text. -/
theorem head_splitPair_prefix {text part : List Symbol}
    (hpart : part ∈ (splitPair first second text).head?) : part <+: text := by
  obtain ⟨rest, hparts⟩ := List.head?_eq_some_iff.mp hpart
  have hjoin : joinPair first second (splitPair first second text) = text :=
    joinPair_splitPair text
  rw [hparts] at hjoin
  cases rest with
  | nil => exact ⟨[], by rw [List.append_nil, ← hjoin]; rfl⟩
  | cons next others => exact ⟨_, hjoin⟩

/-- The separator is in no part that was cut. -/
theorem not_infix_of_mem_splitPair {text : List Symbol} :
    ∀ part ∈ splitPair first second text, ¬ [first, second] <:+: part := by
  fun_induction splitPair first second text with
  | case1 => simp
  | case2 symbol =>
    intro part hpart hinfix
    rw [List.mem_singleton.mp hpart] at hinfix
    exact absurd hinfix.length_le (by simp)
  | case3 symbol next rest hpair ih =>
    rintro part (_ | ⟨_, hpart⟩)
    · simp
    · exact ih part hpart
  | case4 symbol next rest hpair ih =>
    have hne : splitPair first second (next :: rest) ≠ [] := splitPair_ne_nil _
    obtain ⟨front, others, hparts⟩ := List.exists_cons_of_ne_nil hne
    rw [hparts] at ih ⊢
    rintro part (_ | ⟨_, hpart⟩)
    · intro hinfix
      rcases List.infix_cons_iff.mp hinfix with hprefix | hinner
      · -- the separator would begin at the first symbol of the text
        obtain ⟨behind, hbehind⟩ := hprefix
        rw [List.cons_append, List.cons.injEq] at hbehind
        obtain ⟨rfl, hfront⟩ := hbehind
        have hprefix : front <+: next :: rest := head_splitPair_prefix (by rw [hparts]; rfl)
        rw [← hfront, List.cons_append, List.nil_append, List.cons_prefix_cons] at hprefix
        exact hpair ⟨rfl, hprefix.1.symm⟩
      · exact ih front List.mem_cons_self hinner
    · exact ih part (List.mem_cons_of_mem _ hpart)

/-- A text without the separator is one part. -/
theorem splitPair_of_not_infix {text : List Symbol} (htext : ¬ [first, second] <:+: text) :
    splitPair first second text = [text] := by
  fun_induction splitPair first second text with
  | case1 => rfl
  | case2 symbol => rfl
  | case3 symbol next rest hpair ih =>
    obtain ⟨rfl, rfl⟩ := hpair
    exact absurd ⟨[], rest, rfl⟩ htext
  | case4 symbol next rest hpair ih =>
    rw [ih fun hinfix ↦ htext (List.infix_cons hinfix)]
    rfl

/-- A text is cut behind a part without the separator, which cannot begin in the part. -/
theorem splitPair_append (hne : first ≠ second) {part : List Symbol}
    (hpart : ¬ [first, second] <:+: part) (rest : List Symbol) :
    splitPair first second (part ++ first :: second :: rest) =
      part :: splitPair first second rest := by
  induction part with
  | nil => rw [List.nil_append, splitPair, if_pos ⟨rfl, rfl⟩]
  | cons symbol part ih =>
    have hrest := ih fun hinfix ↦ hpart (List.infix_cons hinfix)
    cases part with
    | nil =>
      rw [List.cons_append, List.nil_append, splitPair, if_neg fun hpair ↦ hne hpair.2]
      rw [List.nil_append] at hrest
      rw [hrest]
      rfl
    | cons next part =>
      have hnot : ¬ (symbol = first ∧ next = second) := by
        rintro ⟨rfl, rfl⟩
        exact hpart ⟨[], part, rfl⟩
      rw [List.cons_append, List.cons_append, splitPair, if_neg hnot, ← List.cons_append, hrest]
      rfl

/-- Parts without the separator are read back. -/
theorem splitPair_joinPair (hne : first ≠ second) {parts : List (List Symbol)} (hparts : parts ≠ [])
    (hclean : ∀ part ∈ parts, ¬ [first, second] <:+: part) :
    splitPair first second (joinPair first second parts) = parts := by
  induction parts with
  | nil => exact absurd rfl hparts
  | cons part rest ih =>
    obtain ⟨hpart, hrest⟩ := List.forall_mem_cons.mp hclean
    cases rest with
    | nil => exact splitPair_of_not_infix hpart
    | cons next others =>
      rw [joinPair_cons (List.cons_ne_nil next others), splitPair_append hne hpart,
        ih (List.cons_ne_nil next others) hrest]

/-! ### Lines -/

/-- A line without the carriage return at its end. -/
def withoutReturn (line : List Char) : List Char :=
  if line.getLast? = some (Char.ofNat 13) then line.dropLast else line

/-- The line feed. -/
def lineFeed : Char := Char.ofNat 10

/-- `str::lines`. The last line may have no line feed behind it, and keeps its carriage return
then. -/
def lines (text : List Char) : List (List Char) :=
  let parts := text.splitOn lineFeed
  parts.dropLast.map withoutReturn ++ parts.getLast?.toList.filter (· ≠ [])

/-- A part between line feeds has none. -/
theorem not_mem_of_mem_splitOn {text : List Char} :
    ∀ part ∈ text.splitOn lineFeed, lineFeed ∉ part := by
  induction text with
  | nil => simp
  | cons character rest ih =>
    rw [List.splitOn_cons_eq_if_modifyHead]
    split_ifs with hfeed
    · rintro part (_ | ⟨_, hpart⟩)
      · exact List.not_mem_nil
      · exact ih part hpart
    · obtain ⟨front, others, hparts⟩ :=
        List.exists_cons_of_ne_nil (List.splitOn_ne_nil lineFeed rest)
      rw [hparts] at ih ⊢
      rintro part (_ | ⟨_, hpart⟩)
      · rw [List.mem_cons, not_or]
        exact ⟨fun hsame ↦ hfeed (by simp [hsame]), ih front List.mem_cons_self⟩
      · exact ih part (List.mem_cons_of_mem _ hpart)

/-- A line has no line feed. -/
theorem not_mem_of_mem_lines {text : List Char} : ∀ line ∈ lines text, lineFeed ∉ line := by
  intro line hline
  rcases List.mem_append.mp hline with hended | hlast
  · obtain ⟨part, hpart, rfl⟩ := List.mem_map.mp hended
    have hnot := not_mem_of_mem_splitOn part ((List.dropLast_sublist _).subset hpart)
    unfold withoutReturn
    split_ifs
    · exact fun hmem ↦ hnot ((List.dropLast_sublist part).subset hmem)
    · exact hnot
  · have hmem : line ∈ (text.splitOn lineFeed).getLast? :=
      Option.mem_toList.mp (List.mem_of_mem_filter hlast)
    exact not_mem_of_mem_splitOn line (List.mem_of_getLast? hmem)

/-- Lines that end in a line feed are read back. -/
theorem lines_flatMap (written : List (List Char))
    (hwritten : ∀ line ∈ written, lineFeed ∉ line ∧ withoutReturn line = line) :
    lines (written.flatMap fun line ↦ line ++ [lineFeed]) = written := by
  have hparts : (written.flatMap fun line ↦ line ++ [lineFeed]).splitOn lineFeed =
      written ++ [[]] := by
    induction written with
    | nil => rfl
    | cons line rest ih =>
      obtain ⟨hline, hrest⟩ := List.forall_mem_cons.mp hwritten
      rw [List.flatMap_cons, List.append_assoc, List.singleton_append,
        List.splitOn_append_cons_self_of_not_mem hline.1, ih hrest, List.cons_append]
  have hmap : written.map withoutReturn = written :=
    (List.map_congr_left fun line hline ↦ (hwritten line hline).2).trans (List.map_id written)
  rw [lines, hparts, List.dropLast_concat, List.getLast?_concat, hmap]
  simp

end Library.Separators
