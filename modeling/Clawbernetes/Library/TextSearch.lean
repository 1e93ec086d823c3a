import Mathlib.Data.List.DropRight

/-!
# Searching and trimming texts

When a word occurs in a text that is put together from pieces. A gap of symbols that are foreign to
the word separates the pieces (`infix_gap_iff`), and foreign symbols around a piece hide nothing and
add nothing (`infix_within_iff`).

A text is cut at the first symbol that meets a condition in one way (`append_cons_inj_of_first`,
`forall_or_exists_first`). `upTo` is what is in front of the first occurrence of a mark.

`Begins` and `Ends` are about the first and the last symbol of a text. What is taken or dropped at
the ends of a text while a condition holds is found from a symbol that does not meet it
(`rtakeWhile_append_cons`, `trimmed_of_begins_of_ends`).
-/

set_option autoImplicit false
set_option relaxedAutoImplicit false

namespace Library.TextSearch

variable {Symbol : Type*} {word front middle behind text gap : List Symbol}

/-- A condition on the symbols of a given text can be evaluated symbol by symbol. -/
theorem forall_mem_of_all {condition : Symbol → Prop} [DecidablePred condition]
    (hall : (text.all fun symbol ↦ condition symbol) = true) :
    ∀ symbol ∈ text, condition symbol :=
  fun symbol hsymbol ↦ of_decide_eq_true (List.all_eq_true.mp hall symbol hsymbol)

/-! ### Occurrences -/

/-- A word does not occur among symbols that are foreign to it. -/
theorem not_infix_of_foreign (hword : word ≠ []) (hforeign : ∀ symbol ∈ text, symbol ∉ word) :
    ¬ word <:+: text := by
  intro hoccurs
  obtain ⟨symbol, hsymbol⟩ := List.exists_mem_of_ne_nil word hword
  exact hforeign symbol (hoccurs.subset hsymbol) hsymbol

/-- A word does not reach over the border to symbols that are foreign to it. -/
theorem infix_append_iff_of_begins_foreign {symbol : Symbol} (hsymbol : symbol ∉ word) :
    word <:+: front ++ symbol :: behind ↔ word <:+: front ∨ word <:+: symbol :: behind := by
  rw [List.infix_append_iff_ne_nil]
  refine or_congr_right (or_iff_left ?_)
  rintro ⟨left, right, -, hright, rfl, -, hprefix⟩
  obtain ⟨first, rest, rfl⟩ := List.exists_cons_of_ne_nil hright
  obtain ⟨rfl, -⟩ := List.cons_prefix_cons.mp hprefix
  exact hsymbol (List.mem_append_right _ List.mem_cons_self)

/-- A foreign symbol at the front hides nothing and adds nothing. -/
theorem infix_cons_iff_of_foreign (hword : word ≠ []) {symbol : Symbol} (hsymbol : symbol ∉ word) :
    word <:+: symbol :: text ↔ word <:+: text := by
  rw [List.infix_cons_iff]
  refine or_iff_right fun hprefix ↦ ?_
  obtain ⟨first, rest, rfl⟩ := List.exists_cons_of_ne_nil hword
  obtain ⟨rfl, -⟩ := List.cons_prefix_cons.mp hprefix
  exact hsymbol List.mem_cons_self

/-- Foreign symbols in front hide nothing and add nothing. -/
theorem infix_foreign_append_iff (hword : word ≠ []) (hfront : ∀ symbol ∈ front, symbol ∉ word) :
    word <:+: front ++ text ↔ word <:+: text := by
  induction front with
  | nil => rw [List.nil_append]
  | cons symbol front ih =>
    rw [List.forall_mem_cons] at hfront
    rw [List.cons_append, infix_cons_iff_of_foreign hword hfront.1, ih hfront.2]

/-- A gap of foreign symbols separates what is before it from what is behind it. -/
theorem infix_gap_iff (hword : word ≠ []) (hgap : gap ≠ [])
    (hforeign : ∀ symbol ∈ gap, symbol ∉ word) :
    word <:+: front ++ (gap ++ behind) ↔ word <:+: front ∨ word <:+: behind := by
  obtain ⟨first, rest, rfl⟩ := List.exists_cons_of_ne_nil hgap
  rw [List.cons_append, infix_append_iff_of_begins_foreign (hforeign first List.mem_cons_self),
    ← List.cons_append, infix_foreign_append_iff hword hforeign]

/-- Foreign symbols behind hide nothing and add nothing. -/
theorem infix_append_foreign_iff (hword : word ≠ [])
    (hbehind : ∀ symbol ∈ behind, symbol ∉ word) : word <:+: text ++ behind ↔ word <:+: text := by
  rcases eq_or_ne behind [] with rfl | hne
  · rw [List.append_nil]
  · have hgap : word <:+: text ++ (behind ++ []) ↔ word <:+: text ∨ word <:+: [] :=
      infix_gap_iff hword hne hbehind
    rwa [List.append_nil, List.infix_nil, or_iff_left hword] at hgap

/-- Foreign symbols around hide nothing and add nothing. -/
theorem infix_within_iff (hword : word ≠ []) (hfront : ∀ symbol ∈ front, symbol ∉ word)
    (hbehind : ∀ symbol ∈ behind, symbol ∉ word) :
    word <:+: front ++ (middle ++ behind) ↔ word <:+: middle := by
  rw [infix_foreign_append_iff hword hfront, infix_append_foreign_iff hword hbehind]

/-! ### First and last symbols -/

/-- The text has a first symbol, and it meets the condition. -/
def Begins (condition : Symbol → Prop) (text : List Symbol) : Prop :=
  ∃ first rest, text = first :: rest ∧ condition first

/-- The text has a last symbol, and it meets the condition. -/
def Ends (condition : Symbol → Prop) (text : List Symbol) : Prop :=
  ∃ rest last, text = rest ++ [last] ∧ condition last

variable {condition : Symbol → Prop}

theorem Begins.append (hbegins : Begins condition front) (behind : List Symbol) :
    Begins condition (front ++ behind) := by
  obtain ⟨first, rest, rfl, hfirst⟩ := hbegins
  exact ⟨first, rest ++ behind, rfl, hfirst⟩

theorem Ends.append (hends : Ends condition behind) (front : List Symbol) :
    Ends condition (front ++ behind) := by
  obtain ⟨rest, last, rfl, hlast⟩ := hends
  exact ⟨front ++ rest, last, (List.append_assoc _ _ _).symm, hlast⟩

theorem Ends.mono {weaker : Symbol → Prop} (hends : Ends condition text)
    (hweaker : ∀ symbol, condition symbol → weaker symbol) : Ends weaker text := by
  obtain ⟨rest, last, htext, hlast⟩ := hends
  exact ⟨rest, last, htext, hweaker last hlast⟩

/-- A text of symbols that meet the condition ends in one if it is not empty. -/
theorem ends_of_forall (hne : text ≠ []) (hall : ∀ symbol ∈ text, condition symbol) :
    Ends condition text :=
  ⟨text.dropLast, text.getLast hne, (List.dropLast_append_getLast hne).symm,
    hall _ (List.getLast_mem hne)⟩

/-- Symbols that meet the condition may follow. -/
theorem Ends.append_of_forall (hends : Ends condition front)
    (hbehind : ∀ symbol ∈ behind, condition symbol) : Ends condition (front ++ behind) := by
  rcases eq_or_ne behind [] with rfl | hne
  · rwa [List.append_nil]
  · exact (ends_of_forall hne hbehind).append front

/-- The last symbol is not one that does not meet the condition. -/
theorem Ends.ne_concat (hends : Ends condition text) {symbol : Symbol}
    (hsymbol : ¬ condition symbol) (rest : List Symbol) : text ≠ rest ++ [symbol] := by
  rintro rfl
  obtain ⟨other, last, htext, hlast⟩ := hends
  obtain ⟨-, hsame⟩ := List.append_inj' htext rfl
  rw [List.cons.inj hsame |>.1] at hsymbol
  exact hsymbol hlast

/-! ### Taking and dropping at the ends -/

variable {holds : Symbol → Bool}

/-- Up to a symbol that does not meet the condition, all symbols that do are taken. -/
theorem takeWhile_append_cons {symbol : Symbol} (hsymbol : holds symbol = false)
    (hall : ∀ other ∈ front, holds other = true) :
    (front ++ symbol :: behind).takeWhile holds = front := by
  rw [List.takeWhile_append_of_pos hall,
    List.takeWhile_cons_of_neg (ne_true_of_eq_false hsymbol), List.append_nil]

/-- There is one way only to cut a text at the first symbol that meets a condition. -/
theorem append_cons_inj_of_first {before after : List Symbol} {first second : Symbol}
    (hsame : front ++ first :: behind = before ++ second :: after)
    (hfirst : holds first = true) (hfront : ∀ symbol ∈ front, holds symbol = false)
    (hsecond : holds second = true) (hbefore : ∀ symbol ∈ before, holds symbol = false) :
    front = before ∧ first = second ∧ behind = after := by
  have hcut : ∀ {front behind : List Symbol} {first : Symbol}, holds first = true →
      (∀ symbol ∈ front, holds symbol = false) →
        (front ++ first :: behind).takeWhile (fun symbol ↦ !holds symbol) = front := by
    intro front behind first hfirst hfront
    refine takeWhile_append_cons ?_ fun symbol hsymbol ↦ ?_
    · rw [hfirst]
      rfl
    · rw [hfront symbol hsymbol]
      rfl
  have htaken := congrArg (List.takeWhile fun symbol ↦ !holds symbol) hsame
  rw [hcut hfirst hfront, hcut hsecond hbefore] at htaken
  obtain rfl := htaken
  exact ⟨rfl, List.cons.inj (List.append_cancel_left hsame)⟩

/-- A text has no symbol that meets a condition, or it is cut at the first one. -/
theorem forall_or_exists_first (holds : Symbol → Bool) (text : List Symbol) :
    (∀ symbol ∈ text, holds symbol = false) ∨
      ∃ front first behind, text = front ++ first :: behind ∧ holds first = true ∧
        ∀ symbol ∈ front, holds symbol = false := by
  cases hfind : text.find? holds with
  | none =>
    exact .inl fun symbol hsymbol ↦ eq_false_of_ne_true (List.find?_eq_none.mp hfind symbol hsymbol)
  | some first =>
    obtain ⟨hfirst, front, behind, htext, hfront⟩ := List.find?_eq_some_iff_append.mp hfind
    exact .inr ⟨front, first, behind, htext, hfirst, fun symbol hsymbol ↦
      Bool.not_eq_true' _ |>.mp (hfront symbol hsymbol)⟩

section UpTo

variable [DecidableEq Symbol]

/-- The text in front of the first occurrence of a mark. -/
def upTo (mark : Symbol) (text : List Symbol) : Option (List Symbol) :=
  if mark ∈ text then some (text.takeWhile (· ≠ mark)) else none

/-- The text in front of a mark has no such mark and is followed by one. -/
theorem upTo_eq_some_iff {mark : Symbol} :
    upTo mark text = some front ↔ mark ∉ front ∧ ∃ behind, text = front ++ mark :: behind := by
  have hsplit : ∀ {front behind : List Symbol}, mark ∉ front →
      (front ++ mark :: behind).takeWhile (· ≠ mark) = front := fun hfront ↦
    takeWhile_append_cons (decide_eq_false (not_not_intro rfl)) fun other hother ↦
      decide_eq_true (ne_of_mem_of_not_mem hother hfront)
  constructor
  · intro hfront
    by_cases hmark : mark ∈ text
    · obtain ⟨before, behind, rfl, hbefore⟩ := List.eq_append_cons_of_mem hmark
      rw [upTo, if_pos hmark, hsplit hbefore, Option.some_inj] at hfront
      subst hfront
      exact ⟨hbefore, behind, rfl⟩
    · rw [upTo, if_neg hmark] at hfront
      cases hfront
  · rintro ⟨hfront, behind, rfl⟩
    rw [upTo, if_pos (List.mem_append_right _ List.mem_cons_self), hsplit hfront]

/-- Nothing is in front of a mark that does not occur. -/
theorem upTo_eq_none_iff {mark : Symbol} : upTo mark text = none ↔ mark ∉ text := by
  unfold upTo
  split_ifs with hmark
  · exact ⟨nofun, fun habsent ↦ absurd hmark habsent⟩
  · exact ⟨fun _ ↦ hmark, fun _ ↦ rfl⟩

end UpTo

/-- Behind a symbol that does not meet the condition, all symbols that do are taken. -/
theorem rtakeWhile_append_cons {symbol : Symbol} (hsymbol : holds symbol = false)
    (hall : ∀ other ∈ behind, holds other = true) :
    (front ++ symbol :: behind).rtakeWhile holds = behind := by
  rw [List.rtakeWhile, List.reverse_append, List.reverse_cons, List.append_assoc,
    List.takeWhile_append_of_pos fun other hother ↦ hall other (List.mem_reverse.mp hother),
    List.singleton_append, List.takeWhile_cons_of_neg (ne_true_of_eq_false hsymbol),
    List.append_nil, List.reverse_reverse]

/-- Nothing is taken from a text whose last symbol does not meet the condition. -/
theorem rtakeWhile_of_ends (hends : Ends (fun symbol ↦ holds symbol = false) text) :
    text.rtakeWhile holds = [] := by
  obtain ⟨rest, last, rfl, hlast⟩ := hends
  exact List.rtakeWhile_concat_neg _ _ _ (ne_true_of_eq_false hlast)

/-- Symbols behind that meet the condition are dropped. -/
theorem rdropWhile_append_of_forall (hbehind : ∀ symbol ∈ behind, holds symbol = true) :
    (text ++ behind).rdropWhile holds = text.rdropWhile holds := by
  rw [List.rdropWhile, List.reverse_append,
    List.dropWhile_append_of_pos fun symbol hsymbol ↦ hbehind symbol (List.mem_reverse.mp hsymbol)]
  rfl

/-- Trimming does not depend on what is trimmed around the text. -/
theorem trimmed_append (hfront : ∀ symbol ∈ front, holds symbol = true)
    (hbehind : ∀ symbol ∈ behind, holds symbol = true) :
    ((front ++ (text ++ behind)).dropWhile holds).rdropWhile holds =
      (text.dropWhile holds).rdropWhile holds := by
  rw [List.dropWhile_append_of_pos hfront, List.dropWhile_append]
  split_ifs with hempty
  · rw [List.isEmpty_iff] at hempty
    rw [hempty, List.rdropWhile_nil, List.rdropWhile_eq_nil_iff]
    exact fun symbol hsymbol ↦ hbehind symbol ((List.dropWhile_suffix holds).subset hsymbol)
  · exact rdropWhile_append_of_forall hbehind

/-- What is trimmed stands in the text. -/
theorem trimmed_infix (holds : Symbol → Bool) (text : List Symbol) :
    (text.dropWhile holds).rdropWhile holds <:+: text :=
  (List.rdropWhile_prefix holds _).isInfix.trans (List.dropWhile_suffix holds).isInfix

/-- Nothing is trimmed from what has been trimmed. -/
theorem trimmed_trimmed (holds : Symbol → Bool) (text : List Symbol) :
    (((text.dropWhile holds).rdropWhile holds).dropWhile holds).rdropWhile holds =
      (text.dropWhile holds).rdropWhile holds := by
  have hfront : ((text.dropWhile holds).rdropWhile holds).dropWhile holds =
      (text.dropWhile holds).rdropWhile holds := by
    cases htrimmed : (text.dropWhile holds).rdropWhile holds with
    | nil => rfl
    | cons first rest =>
      have hprefix : first :: rest <+: text.dropWhile holds := by
        rw [← htrimmed]
        exact List.rdropWhile_prefix holds _
      obtain ⟨behind, hbehind⟩ := hprefix
      have hhead := List.head?_dropWhile_not holds text
      rw [← hbehind, List.cons_append, List.head?_cons] at hhead
      exact List.dropWhile_cons_of_neg (by simpa using hhead)
  rw [hfront, List.rdropWhile_idempotent]

/-- The last symbol of what has been trimmed does not meet the condition. -/
theorem not_of_getLast?_trimmed {symbol : Symbol}
    (hlast : ((text.dropWhile holds).rdropWhile holds).getLast? = some symbol) :
    holds symbol = false := by
  obtain ⟨hne, rfl⟩ := List.mem_getLast?_eq_getLast hlast
  exact eq_false_of_ne_true (List.rdropWhile_last_not holds _ hne)

/-- Nothing is trimmed from a text whose first and last symbol do not meet the condition. -/
theorem trimmed_of_begins_of_ends (hbegins : Begins (fun symbol ↦ holds symbol = false) text)
    (hends : Ends (fun symbol ↦ holds symbol = false) text) :
    (text.dropWhile holds).rdropWhile holds = text := by
  have hfront : text.dropWhile holds = text := by
    obtain ⟨first, rest, rfl, hfirst⟩ := hbegins
    exact List.dropWhile_cons_of_neg (ne_true_of_eq_false hfirst)
  obtain ⟨rest, last, rfl, hlast⟩ := hends
  rw [hfront, List.rdropWhile_concat_neg _ _ _ (ne_true_of_eq_false hlast)]

end Library.TextSearch
