import Clawbernetes.ClawProto.SelectorPieces

/-!
# What a selector selects

`evaluate_cel_selector` cuts the text of a selector at every `&&` and evaluates the parts one by
one. A selector selects what all its conjuncts select (`evaluateText_text`), and a conjunct without
`&&` in it selects what its reading says (`Expr.reading`, `evaluateText_of_isSimple`).

The conjunctions of atoms, which are the selectors of the documentation and of the tests, are read
as they are meant (`evaluateCelSelector_conjunction`). Other expressions are not: the reading takes
`!=` for `=` and leaves out `!`, the sign of a number and everything that it does not know.
`Expr.soundAt_iff` says at which GPUs a selector is sound all the same; it is where its conjuncts
are (`Expr.soundAt_of_conjuncts`). A conjunct with `&&` inside is read by its pieces, and one in
parentheses that ends with a comparison of the memory selects nothing (`Expr.turnsDown_of_paren`).
-/

set_option autoImplicit false
set_option relaxedAutoImplicit false

namespace Clawbernetes.ClawProto.Cel

open GpuSelector Library.Decimals Library.TextSearch

/-! ### Cutting a text at `&&` -/

/-- A text is cut into one part at least. -/
theorem splitConjuncts_ne_nil (text : List Char) : splitConjuncts text ≠ [] := by
  fun_induction splitConjuncts text with
  | case1 => exact List.cons_ne_nil _ _
  | case2 rest ih => exact List.cons_ne_nil _ _
  | case3 character rest hcut hnone ih => exact List.cons_ne_nil _ _
  | case4 character rest hcut part parts hparts ih => exact List.cons_ne_nil _ _

/-- A character that does not begin a `&&` belongs to the first part. -/
theorem splitConjuncts_cons {character : Char} {rest : List Char}
    (hcut : ∀ behind, character = '&' → rest = '&' :: behind → False) :
    splitConjuncts (character :: rest) =
      (splitConjuncts rest).modifyHead fun part ↦ character :: part := by
  obtain ⟨part, parts, hparts⟩ := List.exists_cons_of_ne_nil (splitConjuncts_ne_nil rest)
  rw [splitConjuncts.eq_3 _ _ hcut, hparts]
  rfl

/-- A text is cut at a `&&` that no ampersand stands before. -/
theorem splitConjuncts_append {front : List Char} (hfront : ∀ rest, front ≠ rest ++ ['&'])
    (behind : List Char) :
    splitConjuncts (front ++ '&' :: '&' :: behind) =
      splitConjuncts front ++ splitConjuncts behind := by
  fun_induction splitConjuncts front with
  | case1 => rfl
  | case2 rest ih =>
    have hrest : ∀ other, rest ≠ other ++ ['&'] := fun other hother ↦
      hfront ('&' :: '&' :: other) (by rw [hother]; rfl)
    rw [List.cons_append, List.cons_append, splitConjuncts, ih hrest, List.cons_append]
  | case3 character rest hcut hnone ih => exact absurd hnone (splitConjuncts_ne_nil rest)
  | case4 character rest hcut part parts hparts ih =>
    have hrest : ∀ other, rest ≠ other ++ ['&'] := fun other hother ↦
      hfront (character :: other) (by rw [hother]; rfl)
    have hkeep : ∀ other, character = '&' →
        rest ++ '&' :: '&' :: behind = '&' :: other → False := by
      intro other hcharacter hother
      cases rest with
      | nil => exact hfront [] (by rw [hcharacter]; rfl)
      | cons next rest =>
        rw [List.cons_append, List.cons.injEq] at hother
        exact hcut rest hcharacter (by rw [hother.1])
    rw [List.cons_append, splitConjuncts_cons hkeep, ih hrest, hparts]
    rfl

/-- A text without `&&` is one part. -/
theorem splitConjuncts_of_not_infix {text : List Char} (htext : ¬ ['&', '&'] <:+: text) :
    splitConjuncts text = [text] := by
  fun_induction splitConjuncts text with
  | case1 => rfl
  | case2 rest ih => exact absurd ⟨[], rest, rfl⟩ htext
  | case3 character rest hcut hnone ih => exact absurd hnone (splitConjuncts_ne_nil rest)
  | case4 character rest hcut part parts hparts ih =>
    rw [ih fun hinfix ↦ htext (List.infix_cons hinfix)] at hparts
    cases hparts
    rfl

/-- What stands before a text without an ampersand belongs to the first part. -/
theorem splitConjuncts_front {front : List Char} (hfront : '&' ∉ front) (text : List Char) :
    splitConjuncts (front ++ text) = (splitConjuncts text).modifyHead (front ++ ·) := by
  induction front with
  | nil =>
    rw [List.nil_append]
    cases splitConjuncts text <;> rfl
  | cons character front ih =>
    rw [List.mem_cons, not_or] at hfront
    rw [List.cons_append, splitConjuncts_cons fun _ hcharacter _ ↦ hfront.1 hcharacter.symm,
      ih hfront.2, List.modifyHead_modifyHead]
    rfl

/-- What stands behind a text without an ampersand belongs to the last part. -/
theorem splitConjuncts_behind {behind : List Char} (hbehind : '&' ∉ behind) (text : List Char) :
    ∃ parts last, splitConjuncts text = parts ++ [last] ∧
      splitConjuncts (text ++ behind) = parts ++ [last ++ behind] := by
  fun_induction splitConjuncts text with
  | case1 =>
    refine ⟨[], [], rfl, ?_⟩
    have hone := splitConjuncts_front hbehind []
    rwa [splitConjuncts, List.modifyHead_cons, List.append_nil] at hone
  | case2 rest ih =>
    obtain ⟨parts, last, hparts, hall⟩ := ih
    refine ⟨[] :: parts, last, by rw [hparts]; rfl, ?_⟩
    rw [List.cons_append, List.cons_append, splitConjuncts, hall]
    rfl
  | case3 character rest hcut hnone ih => exact absurd hnone (splitConjuncts_ne_nil rest)
  | case4 character rest hcut part parts hparts ih =>
    obtain ⟨others, last, hothers, hall⟩ := ih
    have hkeep : ∀ other, character = '&' → rest ++ behind = '&' :: other → False := by
      intro other hcharacter hother
      cases rest with
      | nil =>
        rw [List.nil_append] at hother
        exact hbehind (hother ▸ List.mem_cons_self)
      | cons next rest =>
        rw [List.cons_append, List.cons.injEq] at hother
        exact hcut rest hcharacter (by rw [hother.1])
    rw [List.cons_append, splitConjuncts_cons hkeep, hall]
    cases others with
    | nil =>
      obtain ⟨rfl, rfl⟩ := List.cons.inj (hparts.symm.trans hothers)
      exact ⟨[], character :: part, rfl, rfl⟩
    | cons first others =>
      obtain ⟨rfl, rfl⟩ := List.cons.inj (hparts.symm.trans hothers)
      exact ⟨(character :: part) :: others, last, rfl, rfl⟩

/-! ### One conjunct -/

/-- The conjunct is read as it is written: no `&&` is in it, neither as an operator nor in a
literal. -/
structure Expr.IsSimple (expr : Expr) : Prop where
  flat : expr.isFlat = true
  uncut : ¬ expr.Occurs ['&', '&']

/-- What a conjunct without `&&` means to the evaluator. With the memory in it, it compares the
memory with the number at its end; else with `name.contains` in it, it looks for the first literal
in the name; else with the index in it, it compares the index with the number at its end; and else
it holds. -/
def Expr.reading (expr : Expr) (gpu : GpuCapability) : Bool :=
  if expr.Occurs "memory_mib".toList then expr.comparesTo gpu.memoryMib.toNat
  else if expr.Occurs "name.contains".toList then
    match expr.firstLiteral with
    | none => false
    | some literal => literal.content <:+: gpu.name.toList
  else if expr.Occurs "index".toList then expr.comparesTo gpu.index.toNat
  else true

/-- Nothing is trimmed from the text of an expression. -/
theorem trim_text (expr : Expr) : trim expr.text = expr.text :=
  trimmed_of_begins_of_ends expr.begins_text
    (expr.ends_text_visibly.mono fun _ hends ↦ hends.visible)

/-- A conjunct without nested conjunctions is evaluated by its reading. -/
theorem evaluateCelPart_text {expr : Expr} (hflat : expr.isFlat = true) (gpu : GpuCapability) :
    evaluateCelPart expr.text gpu = expr.reading gpu := by
  have hoccurs : ∀ word : String, IsWord word.toList →
      containsText expr.text word = decide (expr.Occurs word.toList) := fun word hword ↦
    decide_eq_decide.mpr (Expr.occurs_iff hword hflat)
  have hname : evaluateNameContains expr.text gpu.name =
      match expr.firstLiteral with
      | none => false
      | some literal => decide (literal.content <:+: gpu.name.toList) := by
    have hquoted := expr.firstQuoted_text
    unfold evaluateNameContains
    cases hliteral : expr.firstLiteral with
    | none =>
      rw [hliteral] at hquoted
      rw [extractStringValue_of_none hquoted]
    | some literal =>
      rw [hliteral] at hquoted
      rw [extractStringValue_of_some hquoted]
  have hmemory : (containsText expr.text "device.memory_mib" ||
      containsText expr.text "memory_mib") = decide (expr.Occurs "memory_mib".toList) := by
    rw [containsText_or ⟨"device.".toList, [], rfl⟩]
    exact hoccurs "memory_mib" ⟨by decide, forall_mem_of_all (by decide)⟩
  have hcontains : (containsText expr.text "device.name.contains" ||
      containsText expr.text "name.contains") = decide (expr.Occurs "name.contains".toList) := by
    rw [containsText_or ⟨"device.".toList, [], rfl⟩]
    exact hoccurs "name.contains" ⟨by decide, forall_mem_of_all (by decide)⟩
  have hindex : (containsText expr.text "device.index" ||
      containsText expr.text "index") = decide (expr.Occurs "index".toList) := by
    rw [containsText_or ⟨"device.".toList, [], rfl⟩]
    exact hoccurs "index" ⟨by decide, forall_mem_of_all (by decide)⟩
  unfold evaluateCelPart Expr.reading evaluateMemoryComparison evaluateIndexComparison
  dsimp only
  rw [trim_text, hmemory, hcontains, hindex, hname, evaluateComparison_text hflat,
    evaluateComparison_text hflat]
  simp only [decide_eq_true_eq]

/-! ### Whole selectors -/

/-- The evaluation of the text of a selector. -/
def evaluateText (text : List Char) (gpu : GpuCapability) : Bool :=
  ((splitConjuncts text).map trim).all fun part ↦ evaluateCelPart part gpu

/-- A selector is evaluated by its text. -/
theorem evaluateCelSelector_ofList (text : List Char) (gpu : GpuCapability) :
    evaluateCelSelector (String.ofList text) gpu = evaluateText text gpu := by
  rw [evaluateCelSelector, String.toList_ofList, evaluateText]

/-- Blanks hold no ampersand. -/
theorem Blank.not_mem_ampersand (blank : Blank) : '&' ∉ blank.text := by
  intro hmem
  have hampersand : '&' ∉ blanks := by decide
  exact hampersand (blank.blank '&' hmem)

/-- Blanks around a text do not matter. -/
theorem evaluateText_blank (before after : Blank) (text : List Char) (gpu : GpuCapability) :
    evaluateText (before.text ++ (text ++ after.text)) gpu = evaluateText text gpu := by
  have hwhitespace : ∀ character ∈ blanks, isWhitespace character = true :=
    forall_mem_of_all (by decide)
  have hblank : ∀ blank : Blank, ∀ character ∈ blank.text, isWhitespace character = true :=
    fun blank character hcharacter ↦ hwhitespace character (blank.blank character hcharacter)
  have htrim : ∀ part : List Char, trim (before.text ++ part) = trim part := by
    intro part
    have htrimmed : trim (before.text ++ (part ++ [])) = trim part :=
      trimmed_append (hblank before) (List.forall_mem_nil _)
    rwa [List.append_nil] at htrimmed
  have htrimBehind : ∀ part : List Char, trim (part ++ after.text) = trim part := fun part ↦
    trimmed_append (List.forall_mem_nil _) (hblank after)
  obtain ⟨parts, last, hparts, hall⟩ := splitConjuncts_behind after.not_mem_ampersand text
  have hmap : (splitConjuncts (before.text ++ (text ++ after.text))).map trim =
      (splitConjuncts text).map trim := by
    rw [splitConjuncts_front before.not_mem_ampersand, hall, hparts]
    cases parts with
    | nil => simp [htrim, htrimBehind]
    | cons first parts => simp [htrim, htrimBehind]
  rw [evaluateText, evaluateText, hmap]

/-- A conjunction selects what both sides select. -/
theorem evaluateText_and {front : List Char} (hfront : ∀ rest, front ≠ rest ++ ['&'])
    (behind : List Char) (gpu : GpuCapability) :
    evaluateText (front ++ '&' :: '&' :: behind) gpu =
      (evaluateText front gpu && evaluateText behind gpu) := by
  rw [evaluateText, splitConjuncts_append hfront, List.map_append, List.all_append]
  rfl

/-- A simple conjunct is evaluated by its reading. -/
theorem evaluateText_of_isSimple {expr : Expr} (hsimple : expr.IsSimple) (gpu : GpuCapability) :
    evaluateText expr.text gpu = expr.reading gpu := by
  have hword : IsWord ['&', '&'] := ⟨by decide, forall_mem_of_all (by decide)⟩
  have huncut : ¬ ['&', '&'] <:+: expr.text :=
    fun hinfix ↦ hsimple.uncut ((Expr.occurs_iff hword hsimple.flat).mp hinfix)
  rw [evaluateText, splitConjuncts_of_not_infix huncut, List.map_singleton, List.all_cons,
    List.all_nil, Bool.and_true, trim_text, evaluateCelPart_text hsimple.flat]

/-- A selector selects what all its conjuncts select. -/
theorem evaluateText_text (expr : Expr) (gpu : GpuCapability) :
    evaluateText expr.text gpu = true ↔
      ∀ conjunct ∈ expr.conjuncts, evaluateText conjunct.text gpu = true := by
  induction expr with
  | and left before after right hleft hright =>
    have htext : (Expr.and left before after right).text =
        (left.text ++ before.text) ++ '&' :: '&' :: (after.text ++ right.text) := by
      rw [Expr.text, List.append_assoc]
    have hends : Ends (· ≠ '&') (left.text ++ before.text) :=
      (left.ends_text_visibly.mono fun _ hends ↦ hends.ampersand).append_of_forall
        fun character hcharacter hsame ↦ before.not_mem_ampersand (hsame ▸ hcharacter)
    have hfront := hends.ne_concat (not_not.mpr rfl)
    have hblank : ∀ character ∈ ([] : List Char), character ∈ blanks :=
      fun _ hmem ↦ absurd hmem List.not_mem_nil
    have hbefore := evaluateText_blank ⟨[], hblank⟩ before left.text gpu
    have hafter := evaluateText_blank after ⟨[], hblank⟩ right.text gpu
    rw [List.nil_append] at hbefore
    rw [List.append_nil] at hafter
    rw [htext, evaluateText_and hfront, hbefore, hafter, Bool.and_eq_true, hleft, hright,
      Expr.conjuncts, List.forall_mem_append]
  | _ => simp only [Expr.conjuncts, List.forall_mem_singleton]

/-- A selector with blanks around it is evaluated like one without. -/
theorem evaluateCelSelector_text (expr : Expr) (before after : Blank) (gpu : GpuCapability) :
    evaluateCelSelector (String.ofList (before.text ++ (expr.text ++ after.text))) gpu = true ↔
      ∀ conjunct ∈ expr.conjuncts, evaluateText conjunct.text gpu = true := by
  rw [evaluateCelSelector_ofList, evaluateText_blank, evaluateText_text]

/-! ### The selectors that are read as they are meant -/

/-- A decimal number that is a word of 64 bits. -/
structure Decimal where
  digits : List Char
  nonempty : digits ≠ []
  allDigits : AllDigits digits
  fits : digitsValue digits < 2 ^ 64

/-- The number without a sign. -/
def Decimal.numeral (number : Decimal) : Numeral :=
  ⟨false, number.digits, number.nonempty, number.allDigits⟩

/-- A quoted text without `&&` and `memory_mib` in it. -/
structure Pattern where
  literal : Literal
  uncut : ¬ ['&', '&'] <:+: literal.content
  other : ¬ "memory_mib".toList <:+: literal.content

/-- The comparisons of the memory or the index with a number, by any operator but `!=`, and the
search for a text in the name. -/
inductive Atom where
  | memoryMib (operator : Comparison) (handled : operator ≠ .ne) (before after : Blank)
      (number : Decimal)
  | index (operator : Comparison) (handled : operator ≠ .ne) (before after : Blank)
      (number : Decimal)
  | nameContains (pattern : Pattern)

/-- The expression of an atom. -/
def Atom.expr : Atom → Expr
  | memoryMib operator _ before after number =>
    .compareInts operator .memoryMib before after (.numeral number.numeral)
  | index operator _ before after number =>
    .compareInts operator .index before after (.numeral number.numeral)
  | nameContains pattern => .contains .name (.quoted pattern.literal)

/-- The atom is true of a GPU. -/
def Atom.Holds (gpu : GpuCapability) : Atom → Prop
  | memoryMib operator _ _ _ number =>
    operator.holds gpu.memoryMib.toNat (digitsValue number.digits) = true
  | index operator _ _ _ number =>
    operator.holds gpu.index.toNat (digitsValue number.digits) = true
  | nameContains pattern => pattern.literal.content <:+: gpu.name.toList

/-- The conjunction of atoms, with the blanks around every `&&`. -/
def conjunction (first : Atom) (others : List (Blank × Blank × Atom)) : Expr :=
  others.foldl (fun expr other ↦ .and expr other.1 other.2.1 other.2.2.expr) first.expr

/-- The conjuncts of a conjunction are its atoms. -/
theorem conjuncts_conjunction (first : Atom) (others : List (Blank × Blank × Atom)) :
    (conjunction first others).conjuncts =
      (first :: others.map fun other ↦ other.2.2).map Atom.expr := by
  have hatom : ∀ atom : Atom, atom.expr.conjuncts = [atom.expr] := by
    intro atom
    cases atom <;> rfl
  unfold conjunction
  induction others using List.reverseRecOn with
  | nil => exact hatom first
  | append_singleton others other ih =>
    rw [List.foldl_concat, Expr.conjuncts, ih, hatom]
    simp

/-- The marks of a literal hide no word and add none. -/
theorem infix_literal_iff {word : List Char} (hword : word ≠ [])
    (hplain : ∀ character ∈ word, isQuote character = false) (literal : Literal) :
    word <:+: literal.text ↔ word <:+: literal.content := by
  have hmark : literal.mark ∉ word := by
    intro hmem
    have hquote := hplain literal.mark hmem
    rw [literal.isMark] at hquote
    cases hquote
  have hclose : ∀ character ∈ [literal.mark], character ∉ word := by
    intro character hcharacter
    rwa [List.mem_singleton.mp hcharacter]
  rw [Literal.text, infix_cons_iff_of_foreign hword hmark, infix_append_foreign_iff hword hclose]

/-- No word of other characters is in a decimal number. -/
theorem Decimal.not_infix {word : List Char} (hword : word ≠ [])
    (hplain : ∀ character ∈ word, character.isDigit = false) (number : Decimal) :
    ¬ word <:+: number.numeral.text := by
  refine not_infix_of_foreign hword fun character hcharacter hmem ↦ ?_
  have hdigit : character.isDigit = true := number.allDigits character hcharacter
  rw [hplain character hmem] at hdigit
  cases hdigit

/-- A word is in one of two terms or in the other. -/
theorem occurs_pair_iff {word first second : List Char} {expr : Expr}
    (hterms : expr.terms = [first, second]) :
    expr.Occurs word ↔ word <:+: first ∨ word <:+: second := by
  unfold Expr.Occurs
  rw [hterms]
  simp

/-- A comparison of a term with a number has no word of other characters that the term has not. -/
theorem Decimal.not_occurs_compareInts {word : List Char} (hword : word ≠ [])
    (hplain : ∀ character ∈ word, character.isDigit = false) {left : IntTerm}
    (hleft : ¬ word <:+: left.text) (operator : Comparison) (before after : Blank)
    (number : Decimal) :
    ¬ (Expr.compareInts operator left before after (.numeral number.numeral)).Occurs word := by
  intro hoccurs
  rcases (occurs_pair_iff rfl).mp hoccurs with hvariable | hnumber
  · exact hleft hvariable
  · exact number.not_infix hword hplain hnumber

/-- The search for a literal has no word without quotes that neither the call on its term nor the
content of the literal has. -/
theorem Literal.not_occurs_contains {word : List Char} (hword : word ≠ [])
    (hplain : ∀ character ∈ word, isQuote character = false) {receiver : TextTerm}
    (hreceiver : ¬ word <:+: receiver.text ++ ".contains".toList) {literal : Literal}
    (hliteral : ¬ word <:+: literal.content) :
    ¬ (Expr.contains receiver (.quoted literal)).Occurs word := by
  intro hoccurs
  rcases (occurs_pair_iff rfl).mp hoccurs with hvariable | hinfix
  · exact hreceiver hvariable
  · exact hliteral ((infix_literal_iff hword hplain literal).mp hinfix)

/-- An atom is a simple conjunct. -/
theorem Atom.isSimple (atom : Atom) : atom.expr.IsSimple := by
  cases atom with
  | memoryMib operator handled before after number =>
    exact ⟨rfl, number.not_occurs_compareInts (by decide) (forall_mem_of_all (by decide))
      (by decide +kernel) operator before after⟩
  | index operator handled before after number =>
    exact ⟨rfl, number.not_occurs_compareInts (by decide) (forall_mem_of_all (by decide))
      (by decide +kernel) operator before after⟩
  | nameContains pattern =>
    exact ⟨rfl, Literal.not_occurs_contains (by decide) (forall_mem_of_all (by decide))
      (by decide +kernel) pattern.uncut⟩

/-- A comparison by an operator other than `!=` with a number that is a word is read as it is
meant. -/
theorem comparesTo_compareInts {operator : Comparison} (handled : operator ≠ .ne) (left : IntTerm)
    (before after : Blank) (number : Decimal) (actual : ℕ) :
    (Expr.compareInts operator left before after (.numeral number.numeral)).comparesTo actual =
      operator.holds actual (digitsValue number.digits) := by
  have hread : operator.asRead = operator := by
    cases operator <;> first | rfl | exact absurd rfl handled
  change (decide (digitsValue number.digits < 2 ^ 64) &&
    operator.asRead.holds actual (digitsValue number.digits)) = _
  rw [decide_eq_true number.fits, Bool.true_and, hread]

/-- An atom is read as it is meant. -/
theorem Atom.reading_expr (atom : Atom) (gpu : GpuCapability) :
    atom.expr.reading gpu = true ↔ atom.Holds gpu := by
  cases atom with
  | memoryMib operator handled before after number =>
    have hmemory : (memoryMib operator handled before after number).expr.Occurs
        "memory_mib".toList := ⟨_, List.mem_cons_self, "device.".toList, [], rfl⟩
    rw [Expr.reading, if_pos hmemory]
    exact Bool.eq_iff_iff.mp (comparesTo_compareInts handled _ before after number _)
  | index operator handled before after number =>
    have hindex : (index operator handled before after number).expr.Occurs "index".toList :=
      ⟨_, List.mem_cons_self, "device.".toList, [], rfl⟩
    have hmemory : ¬ (index operator handled before after number).expr.Occurs
        "memory_mib".toList :=
      number.not_occurs_compareInts (by decide) (forall_mem_of_all (by decide)) (by decide +kernel)
        operator before after
    have hcontains : ¬ (index operator handled before after number).expr.Occurs
        "name.contains".toList :=
      number.not_occurs_compareInts (by decide) (forall_mem_of_all (by decide)) (by decide +kernel)
        operator before after
    rw [Expr.reading, if_neg hmemory, if_neg hcontains, if_pos hindex]
    exact Bool.eq_iff_iff.mp (comparesTo_compareInts handled _ before after number _)
  | nameContains pattern =>
    have hmemory : ¬ (nameContains pattern).expr.Occurs "memory_mib".toList :=
      Literal.not_occurs_contains (by decide) (forall_mem_of_all (by decide)) (by decide +kernel)
        pattern.other
    have hcontains : (nameContains pattern).expr.Occurs "name.contains".toList :=
      ⟨_, List.mem_cons_self, "device.".toList, [], rfl⟩
    rw [Expr.reading, if_neg hmemory, if_pos hcontains]
    exact decide_eq_true_iff

/-- A conjunction of atoms, with any blanks around its operators and its conjuncts, selects a GPU if
and only if every atom is true of it. -/
theorem evaluateCelSelector_conjunction (first : Atom) (others : List (Blank × Blank × Atom))
    (before after : Blank) (gpu : GpuCapability) :
    evaluateCelSelector (String.ofList
        (before.text ++ ((conjunction first others).text ++ after.text))) gpu = true ↔
      ∀ atom ∈ first :: others.map fun other ↦ other.2.2, atom.Holds gpu := by
  rw [evaluateCelSelector_text, conjuncts_conjunction, List.forall_mem_map]
  refine forall₂_congr fun atom _ ↦ ?_
  rw [evaluateText_of_isSimple atom.isSimple, atom.reading_expr]

/-- The selector of the documentation is a conjunction of atoms. -/
example :
    let space : Blank := ⟨[' '], forall_mem_of_all (by decide)⟩
    let memory : Atom := .memoryMib .ge (by decide) space space
      ⟨"81920".toList, by decide, by decide, by decide⟩
    let name : Atom := .nameContains
      ⟨⟨Char.ofNat 39, "A100".toList, rfl, by decide⟩, by decide +kernel, by decide +kernel⟩
    String.ofList (conjunction memory [(space, space, name)]).text =
      "device.memory_mib >= 81920 && device.name.contains('A100')" := by
  decide +kernel

/-! ### The selectors that are read otherwise -/

/-- The GPU is selected only if the selector is true of it. -/
def Expr.SoundAt (expr : Expr) (before after : Blank) (device : Device) : Prop :=
  evaluateCelSelector (String.ofList (before.text ++ (expr.text ++ after.text)))
    device.toGpuCapability = true → expr.value device = true

/-- The conjunct turns the GPU down: a simple one by its reading, and one with a `&&` in it because
one of the pieces into which its text is cut refuses the GPU. -/
def Expr.TurnsDown (conjunct : Expr) (gpu : GpuCapability) : Prop :=
  (conjunct.IsSimple ∧ conjunct.reading gpu = false) ∨
    (¬ conjunct.IsSimple ∧ ∃ piece ∈ (splitConjuncts conjunct.text).map trim, Refuses piece gpu)

/-- Nothing is trimmed from a piece that has been trimmed. -/
theorem trim_trim (text : List Char) : trim (trim text) = trim text :=
  trimmed_trimmed isWhitespace text

/-- A conjunct that is not evaluated to true turns the GPU down. -/
theorem evaluateText_eq_false_iff (conjunct : Expr) (gpu : GpuCapability) :
    evaluateText conjunct.text gpu = false ↔ conjunct.TurnsDown gpu := by
  unfold Expr.TurnsDown
  by_cases hsimple : conjunct.IsSimple
  · rw [evaluateText_of_isSimple hsimple, or_iff_left fun hother ↦ hother.1 hsimple,
      and_iff_right hsimple]
  · rw [or_iff_right fun hread ↦ hsimple hread.1, and_iff_right hsimple, evaluateText,
      List.all_eq_false]
    refine exists_congr fun piece ↦ and_congr_right fun hpiece ↦ ?_
    obtain ⟨part, -, rfl⟩ := List.mem_map.mp hpiece
    rw [Bool.not_eq_true, evaluateCelPart_eq_false_iff, trim_trim]

/-- The last piece of a conjunction in parentheses is the right operand with the closing
parenthesis, when the operand is simple. -/
theorem Expr.mem_pieces_of_paren {right : Expr} (hright : right.IsSimple) (left : Expr)
    (before after : Blank) :
    right.text ++ [')'] ∈
      (splitConjuncts (Expr.paren (.and left before after right)).text).map trim := by
  have htext : (Expr.paren (.and left before after right)).text =
      (['('] ++ (left.text ++ before.text)) ++
        '&' :: '&' :: (after.text ++ (right.text ++ [')'])) := by
    simp only [Expr.text, List.append_assoc, List.cons_append, List.nil_append]
  have hends : Ends (· ≠ '&') (['('] ++ (left.text ++ before.text)) :=
    ((left.ends_text_visibly.mono fun _ hends ↦ hends.ampersand).append_of_forall
      fun character hcharacter hsame ↦ before.not_mem_ampersand (hsame ▸ hcharacter)).append _
  have hword : IsWord ['&', '&'] := ⟨by decide, forall_mem_of_all (by decide)⟩
  have huncut : ¬ ['&', '&'] <:+: after.text ++ (right.text ++ [')']) := by
    rw [infix_foreign_append_iff hword.nonempty fun character hcharacter ↦
        hword.not_mem (after.mem_separators character hcharacter),
      infix_append_foreign_iff hword.nonempty (forall_mem_of_all (by decide)),
      Expr.occurs_iff hword hright.flat]
    exact hright.uncut
  have hwhitespace : ∀ character ∈ blanks, isWhitespace character = true :=
    forall_mem_of_all (by decide)
  have htrim : trim (after.text ++ (right.text ++ [')'])) = right.text ++ [')'] := by
    have hblank : trim (after.text ++ ((right.text ++ [')']) ++ [])) = trim (right.text ++ [')']) :=
      trimmed_append
        (fun character hcharacter ↦ hwhitespace character (after.blank character hcharacter))
        (List.forall_mem_nil _)
    rw [List.append_nil] at hblank
    exact hblank.trans (trimmed_of_begins_of_ends (right.begins_text.append _)
      ⟨right.text, ')', rfl, rfl⟩)
  rw [htext, splitConjuncts_append (hends.ne_concat (not_not.mpr rfl)), List.map_append,
    splitConjuncts_of_not_infix huncut, List.map_singleton, htrim]
  exact List.mem_append_right _ (List.mem_singleton_self _)

/-- No GPU is selected by a conjunction in parentheses that ends with a simple comparison of the
memory: behind the number there is the parenthesis. -/
theorem Expr.turnsDown_of_paren {right : Expr} (hright : right.IsSimple)
    (hmemory : right.Occurs "memory_mib".toList) (left : Expr) (before after : Blank)
    (gpu : GpuCapability) : (Expr.paren (.and left before after right)).TurnsDown gpu := by
  refine .inr ⟨fun hsimple ↦ absurd hsimple.flat Bool.false_ne_true, _,
    mem_pieces_of_paren hright left before after, .memory ?_ ?_⟩
  · have hword : IsWord "memory_mib".toList := ⟨by decide, forall_mem_of_all (by decide)⟩
    exact ((Expr.occurs_iff hword hright.flat).mpr hmemory).trans (List.prefix_append _ _).isInfix
  · exact not_compares_of_ends ⟨right.text, ')', rfl, rfl⟩ _

/-- A selector is sound at a GPU when each of its conjuncts is. -/
theorem Expr.soundAt_of_conjuncts {expr : Expr} {device : Device} (before after : Blank)
    (hconjuncts : ∀ conjunct ∈ expr.conjuncts, conjunct.SoundAt ⟨[], nofun⟩ ⟨[], nofun⟩ device) :
    expr.SoundAt before after device := by
  intro hselected
  rw [evaluateCelSelector_text] at hselected
  rw [value_eq_true_iff]
  intro conjunct hconjunct
  refine hconjuncts conjunct hconjunct ?_
  rw [evaluateCelSelector_ofList, List.nil_append, List.append_nil]
  exact hselected conjunct hconjunct

end Clawbernetes.ClawProto.Cel
