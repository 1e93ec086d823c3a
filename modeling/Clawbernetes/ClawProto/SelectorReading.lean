import Clawbernetes.ClawProto.CelExpression
import Clawbernetes.ClawProto.QuotedText

/-!
# How the evaluator reads a selector expression

The evaluator of `selector.rs` looks for words and for digits in the text of an expression. What it
finds there can be said of the expression itself. A word without blanks, parentheses and operator
signs occurs in the text when it occurs in one of the terms (`occurs_iff`), the number at the end of
the text is the right operand of a comparison (`extractNumericValue_text`), and the first quoted
text is the first literal (`extractStringValue_of_some`).

`Expr.reading` is what a conjunct means to the evaluator, and `evaluateText_text` that a selector
selects the GPUs that all its conjuncts select.
-/

set_option autoImplicit false
set_option relaxedAutoImplicit false

namespace Clawbernetes.ClawProto.Cel

open GpuSelector Library.Decimals Library.TextSearch

/-! ### Characters -/

/-- The characters between the terms of an expression: the blanks, the parentheses and the parts of
the operators other than `&&`. -/
def separators : List Char := blanks ++ ['=', '!', '<', '>', '(', ')']

/-- A text that is looked for inside the terms: it is not empty and has no separator. -/
structure IsWord (word : List Char) : Prop where
  nonempty : word ≠ []
  foreign : ∀ character ∈ word, character ∉ separators

/-- A separator is not in a word. -/
theorem IsWord.not_mem {word : List Char} (hword : IsWord word) {character : Char}
    (hseparator : character ∈ separators) : character ∉ word :=
  fun hmem ↦ hword.foreign character hmem hseparator

/-- All characters of blanks are separators. -/
theorem Blank.mem_separators (blank : Blank) : ∀ character ∈ blank.text, character ∈ separators :=
  fun character hcharacter ↦ List.mem_append_left _ (blank.blank character hcharacter)

/-- All characters of an operator are separators. -/
theorem Comparison.mem_separators (operator : Comparison) :
    ∀ character ∈ operator.text, character ∈ separators := by
  cases operator <;> exact forall_mem_of_all (by decide)

/-- The gap between two operands is not empty. -/
theorem Comparison.between_ne_nil (operator : Comparison) (before after : Blank) :
    operator.between before after ≠ [] := by
  cases operator <;> simp [between, text]

/-- All characters between two operands are separators. -/
theorem Comparison.between_mem_separators (operator : Comparison) (before after : Blank) :
    ∀ character ∈ operator.between before after, character ∈ separators := by
  intro character hcharacter
  rw [between, List.mem_append, List.mem_append] at hcharacter
  rcases hcharacter with hbefore | hoperator | hafter
  · exact before.mem_separators character hbefore
  · exact operator.mem_separators character hoperator
  · exact after.mem_separators character hafter

/-! ### Words in a text -/

namespace Expr

/-- No conjunction is nested in the expression. -/
def isFlat : Expr → Bool
  | constant _ | compareInts .. | compareTexts .. | contains _ _ => true
  | compareBools _ left _ _ right => left.isFlat && right.isFlat
  | not operand => operand.isFlat
  | and .. => false
  | paren inner => inner.isFlat

/-- The texts of the terms of an expression. -/
def terms : Expr → List (List Char)
  | constant value => [constantText value]
  | compareInts _ left _ _ right => [left.text, right.text]
  | compareTexts _ left _ _ right => [left.text, right.text]
  | compareBools _ left _ _ right => left.terms ++ right.terms
  | contains receiver argument => [receiver.text ++ ".contains".toList, argument.text]
  | not operand => operand.terms
  | and left _ _ right => left.terms ++ right.terms
  | paren inner => inner.terms

/-- The word occurs in a term of the expression. -/
def Occurs (word : List Char) (expr : Expr) : Prop := ∃ term ∈ expr.terms, word <:+: term

instance (word : List Char) (expr : Expr) : Decidable (Occurs word expr) :=
  inferInstanceAs (Decidable (∃ term ∈ expr.terms, word <:+: term))

variable {word : List Char}

/-- Parentheses hide no word and add none. -/
theorem infix_enclose_iff (hword : IsWord word) (atomic : Bool) (text : List Char) :
    word <:+: enclose atomic text ↔ word <:+: text := by
  unfold enclose
  split_ifs
  · rfl
  · have hclose : ∀ character ∈ [')'], character ∉ word := by
      intro character hcharacter
      rw [List.mem_singleton.mp hcharacter]
      exact hword.not_mem (by decide)
    rw [infix_cons_iff_of_foreign hword.nonempty (hword.not_mem (by decide)),
      infix_append_foreign_iff hword.nonempty hclose]

/-- An operator separates the words of its operands. -/
theorem infix_between_iff (hword : IsWord word) (operator : Comparison) (before after : Blank)
    (left right : List Char) :
    word <:+: left ++ (operator.between before after ++ right) ↔
      word <:+: left ∨ word <:+: right :=
  infix_gap_iff hword.nonempty (operator.between_ne_nil before after) fun character hcharacter ↦
    hword.not_mem (operator.between_mem_separators before after character hcharacter)

/-- A word occurs in the text of an expression without nested conjunctions when it occurs in one of
the terms. -/
theorem occurs_iff (hword : IsWord word) {expr : Expr} (hflat : expr.isFlat = true) :
    word <:+: expr.text ↔ expr.Occurs word := by
  have hpair : ∀ first second : List Char,
      (∃ term ∈ [first, second], word <:+: term) ↔ word <:+: first ∨ word <:+: second := by
    simp
  unfold Occurs
  induction expr with
  | constant value => simp [text, terms]
  | compareInts operator left before after right =>
    rw [text, terms, infix_between_iff hword, hpair]
  | compareTexts operator left before after right =>
    rw [text, terms, infix_between_iff hword, hpair]
  | compareBools operator left before after right hleft hright =>
    rw [isFlat, Bool.and_eq_true] at hflat
    have hboth : (∃ term ∈ left.terms ++ right.terms, word <:+: term) ↔
        (∃ term ∈ left.terms, word <:+: term) ∨ ∃ term ∈ right.terms, word <:+: term := by
      simp only [List.mem_append, or_and_right, exists_or]
    rw [text, terms, infix_between_iff hword, infix_enclose_iff hword, infix_enclose_iff hword,
      hboth]
    exact or_congr (hleft hflat.1) (hright hflat.2)
  | contains receiver argument =>
    have hopen := infix_enclose_iff hword false argument.text
    rw [text, terms, hpair, infix_append_iff_of_begins_foreign (hword.not_mem (by decide))]
    exact or_congr_right hopen
  | not operand ih =>
    rw [text, terms, infix_cons_iff_of_foreign hword.nonempty (hword.not_mem (by decide)),
      infix_enclose_iff hword]
    exact ih hflat
  | and left before after right => cases hflat
  | paren inner ih =>
    rw [text, terms]
    exact (infix_enclose_iff hword false inner.text).trans (ih hflat)

end Expr

/-! ### The ends of a text -/

/-- A digit is no whitespace. -/
theorem isWhitespace_of_isDigit {character : Char} (hdigit : character.isDigit = true) :
    isWhitespace character = false := by
  rw [Char.isDigit, Bool.and_eq_true, decide_eq_true_eq, decide_eq_true_eq] at hdigit
  have hlow : 48 ≤ character.toNat := UInt32.le_iff_toNat_le.mp hdigit.1
  have hhigh : character.toNat ≤ 57 := UInt32.le_iff_toNat_le.mp hdigit.2
  unfold isWhitespace
  rw [decide_eq_false_iff_not]
  omega

/-- A quotation mark is one of two characters. -/
theorem isQuote_cases {character : Char} (hquote : isQuote character = true) :
    character = Char.ofNat 39 ∨ character = Char.ofNat 34 := by
  simpa only [isQuote, Bool.or_eq_true, decide_eq_true_eq] using hquote

/-- A character at the end of an expression, unless that is a number. -/
structure Closes (character : Char) : Prop where
  visible : isWhitespace character = false
  ampersand : character ≠ '&'
  digit : character.isDigit = false

/-- A character at the end of an expression. -/
structure ClosesOrDigit (character : Char) : Prop where
  visible : isWhitespace character = false
  ampersand : character ≠ '&'

/-- A digit may be at the end of an expression. -/
theorem closesOrDigit_of_isDigit {character : Char} (hdigit : character.isDigit = true) :
    ClosesOrDigit character := by
  refine ⟨isWhitespace_of_isDigit hdigit, ?_⟩
  rintro rfl
  cases hdigit

/-- A quoted text ends with its mark. -/
theorem Literal.ends_text (literal : Literal) : Ends Closes literal.text := by
  refine ⟨literal.mark :: literal.content, literal.mark, rfl, ?_⟩
  rcases isQuote_cases literal.isMark with hmark | hmark
  · rw [hmark]
    exact ⟨rfl, by decide, rfl⟩
  · rw [hmark]
    exact ⟨rfl, by decide, rfl⟩

/-- A quoted text begins with its mark. -/
theorem Literal.begins_text (literal : Literal) :
    Begins (fun character ↦ isWhitespace character = false) literal.text := by
  refine ⟨literal.mark, literal.content ++ [literal.mark], rfl, ?_⟩
  rcases isQuote_cases literal.isMark with hmark | hmark
  · rw [hmark]
    rfl
  · rw [hmark]
    rfl

/-- A number ends with a digit. -/
theorem Numeral.ends_text (number : Numeral) :
    Ends (fun character ↦ character.isDigit = true) number.text :=
  (ends_of_forall number.nonempty number.allDigits).append _

/-- A number begins with a sign or a digit. -/
theorem Numeral.begins_text (number : Numeral) :
    Begins (fun character ↦ isWhitespace character = false) number.text := by
  unfold text
  split_ifs
  · exact ⟨'-', number.digits, rfl, rfl⟩
  · obtain ⟨first, rest, hdigits⟩ := List.exists_cons_of_ne_nil number.nonempty
    refine ⟨first, rest, hdigits, isWhitespace_of_isDigit ?_⟩
    exact number.allDigits first (hdigits ▸ List.mem_cons_self)

/-- A term for a text begins visibly. -/
theorem TextTerm.begins_text (term : TextTerm) :
    Begins (fun character ↦ isWhitespace character = false) term.text := by
  cases term with
  | name => exact ⟨'d', "evice.name".toList, rfl, rfl⟩
  | uuid => exact ⟨'d', "evice.uuid".toList, rfl, rfl⟩
  | quoted literal => exact literal.begins_text

/-- A term for a text does not end with a digit. -/
theorem TextTerm.ends_text (term : TextTerm) : Ends Closes term.text := by
  cases term with
  | name => exact ⟨"device.nam".toList, 'e', rfl, rfl, by decide, rfl⟩
  | uuid => exact ⟨"device.uui".toList, 'd', rfl, rfl, by decide, rfl⟩
  | quoted literal => exact literal.ends_text

/-- A term for a number begins visibly. -/
theorem IntTerm.begins_text (term : IntTerm) :
    Begins (fun character ↦ isWhitespace character = false) term.text := by
  cases term with
  | index => exact ⟨'d', "evice.index".toList, rfl, rfl⟩
  | memoryMib => exact ⟨'d', "evice.memory_mib".toList, rfl, rfl⟩
  | numeral number => exact number.begins_text

/-- The number of a term that is one. -/
def IntTerm.number : IntTerm → Option Numeral
  | index | memoryMib => none
  | numeral number => some number

/-- A term for a number does not end with a digit unless it is a number. -/
theorem IntTerm.ends_text {term : IntTerm} (hterm : term.number = none) :
    Ends Closes term.text := by
  cases term with
  | index => exact ⟨"device.inde".toList, 'x', rfl, rfl, by decide, rfl⟩
  | memoryMib => exact ⟨"device.memory_mi".toList, 'b', rfl, rfl, by decide, rfl⟩
  | numeral number => cases hterm

namespace Expr

/-- The comparison with the number that the expression ends with. -/
def rightNumber : Expr → Option (Comparison × Numeral)
  | compareInts operator _ _ _ right => right.number.map (operator, ·)
  | and _ _ _ right => right.rightNumber
  | _ => none

/-- An atomic expression does not end with a number. -/
theorem rightNumber_of_isAtomic {expr : Expr} (hatomic : expr.isAtomic = true) :
    expr.rightNumber = none := by
  cases expr <;> first | rfl | cases hatomic

/-- An expression begins visibly. -/
theorem begins_text (expr : Expr) :
    Begins (fun character ↦ isWhitespace character = false) expr.text := by
  induction expr with
  | constant value =>
    cases value
    · exact ⟨'f', "alse".toList, rfl, rfl⟩
    · exact ⟨'t', "rue".toList, rfl, rfl⟩
  | compareInts operator left before after right => exact left.begins_text.append _
  | compareTexts operator left before after right => exact left.begins_text.append _
  | compareBools operator left before after right hleft hright =>
    rw [text, enclose]
    split_ifs
    · exact hleft.append _
    · exact ⟨'(', _, rfl, rfl⟩
  | contains receiver argument => exact (receiver.begins_text.append _).append _
  | not operand ih => exact ⟨'!', _, rfl, rfl⟩
  | and left before after right hleft hright => exact hleft.append _
  | paren inner ih => exact ⟨'(', _, rfl, rfl⟩

/-- A text in parentheses ends with one. -/
theorem ends_enclose {atomic : Bool} {text : List Char}
    (hatomic : atomic = true → Ends Closes text) : Ends Closes (enclose atomic text) := by
  unfold enclose
  split_ifs with hcase
  · exact hatomic hcase
  · exact ⟨'(' :: text, ')', rfl, rfl, by decide, rfl⟩

/-- An expression that does not end with a number does not end with a digit. -/
theorem ends_text {expr : Expr} (hnone : expr.rightNumber = none) : Ends Closes expr.text := by
  induction expr with
  | constant value =>
    cases value
    · exact ⟨"fals".toList, 'e', rfl, rfl, by decide, rfl⟩
    · exact ⟨"tru".toList, 'e', rfl, rfl, by decide, rfl⟩
  | compareInts operator left before after right =>
    exact ((IntTerm.ends_text (Option.map_eq_none_iff.mp hnone)).append _).append _
  | compareTexts operator left before after right => exact (right.ends_text.append _).append _
  | compareBools operator left before after right hleft hright =>
    have hends := ends_enclose fun hatomic ↦ hright (rightNumber_of_isAtomic hatomic)
    exact (hends.append _).append _
  | contains receiver argument =>
    have hends : Ends Closes (enclose false argument.text) := ends_enclose nofun
    exact hends.append _
  | not operand ih =>
    exact (ends_enclose fun hatomic ↦ ih (rightNumber_of_isAtomic hatomic)).append ['!']
  | and left before after right hleft hright =>
    have hends := ((hright hnone).append after.text).append ['&', '&']
    exact (hends.append _).append _
  | paren inner ih =>
    have hends : Ends Closes (enclose false inner.text) := ends_enclose nofun
    exact hends

/-- An expression ends visibly, and not with an ampersand. -/
theorem ends_text_visibly (expr : Expr) : Ends ClosesOrDigit expr.text := by
  induction expr with
  | compareInts operator left before after right =>
    cases hright : right with
    | numeral number =>
      have hends := number.ends_text.mono fun character ↦ closesOrDigit_of_isDigit
      exact (hends.append _).append _
    | _ =>
      have hends : Ends Closes (compareInts operator left before after right).text :=
        ends_text (by rw [hright]; rfl)
      rw [← hright]
      exact hends.mono fun character hcloses ↦ ⟨hcloses.visible, hcloses.ampersand⟩
  | and left before after right hleft hright =>
    have hends := (hright.append after.text).append ['&', '&']
    exact (hends.append _).append _
  | _ =>
    exact (ends_text rfl).mono fun character hcloses ↦ ⟨hcloses.visible, hcloses.ampersand⟩

end Expr

/-! ### Numbers and operators -/

/-- The operator as the evaluator takes it: `!=` is found as `=`. -/
def Comparison.asRead : Comparison → Comparison
  | ne => eq
  | operator => operator

/-- The value is in the relation to the number at the end of the expression, as the evaluator takes
it: the sign of the number is left out, and so is a number beyond the word. -/
def Expr.comparesTo (expr : Expr) (actual : ℕ) : Bool :=
  match expr.rightNumber with
  | none => false
  | some (operator, number) =>
    number.magnitude < 2 ^ 64 && operator.asRead.holds actual number.magnitude

/-- The characters that operators consist of. -/
def isSign (character : Char) : Bool := character ∈ ['=', '!', '<', '>']

/-- A digit is no sign. -/
theorem isSign_of_isDigit {character : Char} (hdigit : character.isDigit = true) :
    isSign character = false := by
  unfold isSign
  rw [decide_eq_false_iff_not]
  intro hsign
  simp only [List.mem_cons, List.not_mem_nil, or_false] at hsign
  rcases hsign with rfl | rfl | rfl | rfl <;> cases hdigit

/-- The terms for numbers hold no sign. -/
theorem IntTerm.isSign_of_mem_text (term : IntTerm) :
    ∀ character ∈ term.text, isSign character = false := by
  cases term with
  | index => exact forall_mem_of_all (by decide)
  | memoryMib => exact forall_mem_of_all (by decide)
  | numeral number =>
    intro character hcharacter
    rcases List.mem_append.mp hcharacter with hminus | hdigit
    · cases hnegative : number.negative with
      | false =>
        rw [hnegative] at hminus
        cases hminus
      | true =>
        rw [hnegative] at hminus
        rw [List.mem_singleton.mp hminus]
        rfl
    · exact isSign_of_isDigit (number.allDigits character hdigit)

/-- The signs of a comparison are those of its operator. -/
theorem containsText_compareInts (operator : Comparison) (left : IntTerm) (before after : Blank)
    (right : IntTerm) {pattern : String} (hpattern : pattern.toList ≠ [])
    (hsigns : ∀ character ∈ pattern.toList, isSign character = true) :
    containsText (Expr.compareInts operator left before after right).text pattern =
      containsText operator.text pattern := by
  have hforeign : ∀ character, isSign character = false → character ∉ pattern.toList := by
    intro character hsign hmem
    rw [hsigns character hmem] at hsign
    cases hsign
  have hblanks : ∀ character ∈ blanks, isSign character = false :=
    forall_mem_of_all (by decide)
  have hblank : ∀ blank : Blank, ∀ character ∈ blank.text, character ∉ pattern.toList :=
    fun blank character hcharacter ↦
      hforeign character (hblanks character (blank.blank character hcharacter))
  have hterm : ∀ term : IntTerm, ∀ character ∈ term.text, character ∉ pattern.toList :=
    fun term character hcharacter ↦
      hforeign character (term.isSign_of_mem_text character hcharacter)
  have htext : (Expr.compareInts operator left before after right).text =
      (left.text ++ before.text) ++ (operator.text ++ (after.text ++ right.text)) := by
    simp only [Expr.text, Comparison.between, List.append_assoc]
  unfold containsText
  rw [htext, decide_eq_decide]
  exact infix_within_iff hpattern (List.forall_mem_append.mpr ⟨hterm left, hblank before⟩)
    (List.forall_mem_append.mpr ⟨hblank after, hterm right⟩)

/-- A flat expression that ends with a number is a comparison with it. -/
theorem Expr.eq_compareInts_of_rightNumber {expr : Expr} (hflat : expr.isFlat = true)
    {operator : Comparison} {number : Numeral}
    (hright : expr.rightNumber = some (operator, number)) :
    ∃ left before after, expr = .compareInts operator left before after (.numeral number) := by
  cases expr with
  | compareInts sign left before after right =>
    cases right with
    | numeral other =>
      cases hright
      exact ⟨left, before, after, rfl⟩
    | _ => cases hright
  | and left before after right => cases hflat
  | _ => cases hright

/-- The digits at the end of an expression are those of the number that it ends with. -/
theorem extractNumericValue_text {expr : Expr} (hflat : expr.isFlat = true) :
    extractNumericValue expr.text = expr.rightNumber.bind fun compared ↦
      if compared.2.magnitude < 2 ^ 64 then some compared.2.magnitude else none := by
  unfold extractNumericValue
  cases hright : expr.rightNumber with
  | none =>
    rw [rtakeWhile_of_ends ((Expr.ends_text hright).mono fun _ hcloses ↦ hcloses.digit)]
    rfl
  | some compared =>
    obtain ⟨operator, number⟩ := compared
    obtain ⟨left, before, after, rfl⟩ := Expr.eq_compareInts_of_rightNumber hflat hright
    -- the digits stand behind a minus sign, a blank or the operator
    have hgap : Ends (fun character ↦ character.isDigit = false)
        (operator.between before after ++ if number.negative then ['-'] else []) := by
      split_ifs
      · exact ⟨_, '-', rfl, rfl⟩
      · rw [List.append_nil]
        refine ends_of_forall (operator.between_ne_nil before after) fun character hcharacter ↦ ?_
        have hdigits : ∀ separator ∈ separators, separator.isDigit = false :=
          forall_mem_of_all (by decide)
        exact hdigits _ (operator.between_mem_separators before after character hcharacter)
    obtain ⟨front, last, hfront, hlast⟩ := hgap
    have htext : (Expr.compareInts operator left before after (.numeral number)).text =
        (left.text ++ front) ++ last :: number.digits := by
      calc left.text ++ (operator.between before after ++ number.text)
          = left.text ++ ((operator.between before after ++
              if number.negative then ['-'] else []) ++ number.digits) := by
            rw [Numeral.text, List.append_assoc]
        _ = (left.text ++ front) ++ last :: number.digits := by
            rw [hfront, List.append_assoc, List.append_assoc, List.singleton_append]
    rw [htext, rtakeWhile_append_cons hlast number.allDigits, Option.bind_some]
    unfold parseUnsigned
    rw [number.allDigits.withoutPlus_eq]
    have hall : (number.digits ≠ [] ∧ AllDigits number.digits ∧
        digitsValue number.digits < 2 ^ 64) ↔ number.magnitude < 2 ^ 64 := by
      rw [and_iff_right number.nonempty, and_iff_right number.allDigits, Numeral.magnitude]
    exact if_congr hall rfl rfl

/-- The comparison that is chosen by the signs of an operator. -/
theorem holds_asRead (operator : Comparison) (value actual : ℕ) :
    (if containsText operator.text ">=" then decide (value ≤ actual)
      else if containsText operator.text "<=" then decide (actual ≤ value)
      else if containsText operator.text ">" then decide (value < actual)
      else if containsText operator.text "<" then decide (actual < value)
      else if containsText operator.text "==" || containsText operator.text "=" then
        decide (actual = value)
      else false) = operator.asRead.holds actual value := by
  cases operator <;> rfl

/-- A comparison of an expression with a value is the one with the number at its end. -/
theorem evaluateComparison_text {expr : Expr} (hflat : expr.isFlat = true) (actual : ℕ) :
    evaluateComparison expr.text actual = expr.comparesTo actual := by
  unfold evaluateComparison Expr.comparesTo
  rw [extractNumericValue_text hflat]
  cases hright : expr.rightNumber with
  | none => rfl
  | some compared =>
    obtain ⟨operator, number⟩ := compared
    obtain ⟨left, before, after, rfl⟩ := Expr.eq_compareInts_of_rightNumber hflat hright
    have hsign : ∀ pattern : String, pattern.toList ≠ [] →
        pattern.toList.all isSign = true →
        containsText (Expr.compareInts operator left before after (.numeral number)).text pattern =
          containsText operator.text pattern := fun _ hne hall ↦
      containsText_compareInts _ _ _ _ _ hne (List.all_eq_true.mp hall)
    rw [Option.bind_some]
    by_cases hfits : number.magnitude < 2 ^ 64
    · rw [if_pos hfits]
      dsimp only
      rw [decide_eq_true hfits, Bool.true_and]
      rw [hsign ">=" (by decide) rfl, hsign "<=" (by decide) rfl, hsign ">" (by decide) rfl,
        hsign "<" (by decide) rfl, hsign "==" (by decide) rfl, hsign "=" (by decide) rfl]
      exact holds_asRead operator number.magnitude actual
    · rw [if_neg hfits]
      dsimp only
      rw [decide_eq_false hfits, Bool.false_and]

/-! ### Quoted texts -/

/-- The character is no quotation mark, and one byte long. -/
structure IsPlain (character : Char) : Prop where
  unquoted : isQuote character = false
  short : character.utf8Size = 1

instance (character : Char) : Decidable (IsPlain character) :=
  decidable_of_iff (isQuote character = false ∧ character.utf8Size = 1)
    ⟨fun hplain ↦ ⟨hplain.1, hplain.2⟩, fun hplain ↦ ⟨hplain.unquoted, hplain.short⟩⟩

/-- The literal is the first quoted text, behind plain characters; without a literal all characters
are plain. -/
def FirstQuoted (text : List Char) : Option Literal → Prop
  | none => ∀ character ∈ text, IsPlain character
  | some literal => ∃ front behind, (∀ character ∈ front, IsPlain character) ∧
      text = front ++ (literal.text ++ behind)

/-- A separator is plain. -/
theorem isPlain_of_mem_separators : ∀ character ∈ separators, IsPlain character :=
  forall_mem_of_all (by decide)

/-- A digit is plain. -/
theorem isPlain_of_isDigit {character : Char} (hdigit : character.isDigit = true) :
    IsPlain character := by
  refine ⟨?_, utf8Size_of_isDigit hdigit⟩
  rw [← Bool.not_eq_true]
  intro hquote
  rcases isQuote_cases hquote with rfl | rfl <;> cases hdigit

/-- The first quoted text of two texts is that of the first one, if it has any. -/
theorem FirstQuoted.append {front behind : List Char} {first second : Option Literal}
    (hfirst : FirstQuoted front first) (hsecond : FirstQuoted behind second) :
    FirstQuoted (front ++ behind) (first.or second) := by
  cases first with
  | some literal =>
    obtain ⟨before, rest, hbefore, rfl⟩ := hfirst
    exact ⟨before, rest ++ behind, hbefore, by simp only [List.append_assoc]⟩
  | none =>
    cases second with
    | none => exact List.forall_mem_append.mpr ⟨hfirst, hsecond⟩
    | some literal =>
      obtain ⟨before, rest, hbefore, rfl⟩ := hsecond
      exact ⟨front ++ before, rest, List.forall_mem_append.mpr ⟨hfirst, hbefore⟩,
        (List.append_assoc _ _ _).symm⟩

/-- The literal that a term for a text is. -/
def TextTerm.literal : TextTerm → Option Literal
  | name | uuid => none
  | quoted literal => some literal

/-- The first literal of an expression. -/
def Expr.firstLiteral : Expr → Option Literal
  | constant _ | compareInts .. => none
  | compareTexts _ left _ _ right => left.literal.or right.literal
  | compareBools _ left _ _ right => left.firstLiteral.or right.firstLiteral
  | contains receiver argument => receiver.literal.or argument.literal
  | not operand => operand.firstLiteral
  | and left _ _ right => left.firstLiteral.or right.firstLiteral
  | paren inner => inner.firstLiteral

/-- The quoted text of a term is its literal. -/
theorem TextTerm.firstQuoted_text (term : TextTerm) : FirstQuoted term.text term.literal := by
  cases term with
  | name => exact forall_mem_of_all (by decide)
  | uuid => exact forall_mem_of_all (by decide)
  | quoted literal => exact ⟨[], [], nofun, (List.append_nil _).symm⟩

/-- A term for a number has no quoted text. -/
theorem IntTerm.isPlain_of_mem_text (term : IntTerm) :
    ∀ character ∈ term.text, IsPlain character := by
  cases term with
  | index => exact forall_mem_of_all (by decide)
  | memoryMib => exact forall_mem_of_all (by decide)
  | numeral number =>
    intro character hcharacter
    rcases List.mem_append.mp hcharacter with hminus | hdigit
    · cases hnegative : number.negative with
      | false =>
        rw [hnegative] at hminus
        cases hminus
      | true =>
        rw [hnegative] at hminus
        rw [List.mem_singleton.mp hminus]
        decide
    · exact isPlain_of_isDigit (number.allDigits character hdigit)

/-- Operators have no quoted text. -/
theorem Comparison.firstQuoted_between (operator : Comparison) (before after : Blank) :
    FirstQuoted (operator.between before after) none :=
  fun character hcharacter ↦
    isPlain_of_mem_separators _ (operator.between_mem_separators before after character hcharacter)

/-- Parentheses do not change the first quoted text. -/
theorem FirstQuoted.enclose {text : List Char} {literal : Option Literal}
    (hquoted : FirstQuoted text literal) (atomic : Bool) :
    FirstQuoted (Expr.enclose atomic text) literal := by
  unfold Expr.enclose
  split_ifs
  · exact hquoted
  · have hopen : FirstQuoted ['('] none := forall_mem_of_all (by decide)
    have hclose : FirstQuoted [')'] none := forall_mem_of_all (by decide)
    have hall := hopen.append (hquoted.append hclose)
    rwa [Option.or_none] at hall

/-- The first quoted text of an expression is its first literal. -/
theorem Expr.firstQuoted_text (expr : Expr) : FirstQuoted expr.text expr.firstLiteral := by
  induction expr with
  | constant value => cases value <;> exact forall_mem_of_all (by decide)
  | compareInts operator left before after right =>
    have hright : FirstQuoted right.text none := right.isPlain_of_mem_text
    have hleft : FirstQuoted left.text none := left.isPlain_of_mem_text
    exact hleft.append ((operator.firstQuoted_between before after).append hright)
  | compareTexts operator left before after right =>
    exact left.firstQuoted_text.append
      ((operator.firstQuoted_between before after).append right.firstQuoted_text)
  | compareBools operator left before after right hleft hright =>
    exact (hleft.enclose _).append
      ((operator.firstQuoted_between before after).append (hright.enclose _))
  | contains receiver argument =>
    have hname : FirstQuoted ".contains".toList none := forall_mem_of_all (by decide)
    have hreceiver := receiver.firstQuoted_text.append hname
    rw [Option.or_none] at hreceiver
    exact hreceiver.append (argument.firstQuoted_text.enclose false)
  | not operand ih =>
    have hnot : FirstQuoted ['!'] none := forall_mem_of_all (by decide)
    exact hnot.append (ih.enclose _)
  | and left before after right hleft hright =>
    have hblank : ∀ blank : Blank, FirstQuoted blank.text none :=
      fun blank character hcharacter ↦
        isPlain_of_mem_separators _ (blank.mem_separators character hcharacter)
    have hsign : FirstQuoted ['&', '&'] none := forall_mem_of_all (by decide)
    exact hleft.append ((hblank before).append (hsign.append ((hblank after).append hright)))
  | paren inner ih => exact ih.enclose false

/-- The byte index of plain characters is their number. -/
theorem byteLength_of_isPlain {front : List Char}
    (hfront : ∀ character ∈ front, IsPlain character) :
    byteLength front = front.length := by
  induction front with
  | nil => rfl
  | cons character front ih =>
    rw [List.forall_mem_cons] at hfront
    rw [byteLength_cons, hfront.1.short, ih hfront.2, List.length_cons, Nat.add_comm]

/-- Without a quoted text there is none to extract. -/
theorem extractStringValue_of_none {text : List Char} (hquoted : FirstQuoted text none) :
    extractStringValue text = none :=
  extractStringValue_of_unquoted fun character hcharacter ↦
    (hquoted character hcharacter).unquoted

/-- The first quoted text is the one that is extracted. -/
theorem extractStringValue_of_some {text : List Char} {literal : Literal}
    (hquoted : FirstQuoted text (some literal)) :
    extractStringValue text = some literal.content := by
  obtain ⟨front, behind, hfront, rfl⟩ := hquoted
  have htext : front ++ (literal.text ++ behind) =
      front ++ literal.mark :: (literal.content ++ literal.mark :: behind) := by
    simp only [Literal.text, List.cons_append, List.append_assoc, List.nil_append]
  have hbytes : extraBytes front = 0 := by
    rw [extraBytes, byteLength_of_isPlain hfront, Nat.sub_self]
  rw [htext, extractStringValue_of_first literal.isMark fun character hcharacter ↦
    (hfront character hcharacter).unquoted, hbytes, List.getElem?_cons_zero, Option.bind_some]
  exact upTo_eq_some_iff.mpr ⟨literal.closed, behind, rfl⟩

end Clawbernetes.ClawProto.Cel
