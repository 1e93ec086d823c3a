import Clawbernetes.ClawProto.SelectorReading

/-!
# What a piece of a selector says

`evaluate_cel_selector` cuts a text at every `&&`, also inside parentheses and inside quoted texts,
so a piece need not be an expression. `Refuses` says what a piece asks for all the same, by the
words that occur in it (`Names`), the relation that its signs state (`States`), the decimal number
at its end (`EndsWithNumber`) and the text behind its first quotation mark (`IsExtracted`).
`evaluateCelPart_eq_false_iff` is that the evaluator turns a GPU down where the piece refuses it.
-/

set_option autoImplicit false
set_option relaxedAutoImplicit false

namespace Clawbernetes.ClawProto.Cel

open GpuSelector Library.Decimals Library.TextSearch

/-! ### The parts of a piece -/

/-- The word occurs in the text. -/
def Names (text : List Char) (word : String) : Prop := word.toList <:+: text

instance (text : List Char) (word : String) : Decidable (Names text word) :=
  inferInstanceAs (Decidable (word.toList <:+: text))

/-- The signs of the relations, in the order in which they are looked for. The last one is also the
end of `!=`. -/
def relationSigns : List (String × Comparison) :=
  [(">=", .ge), ("<=", .le), (">", .gt), ("<", .lt), ("=", .eq)]

/-- The text states the relation: its sign occurs, and no sign that is looked for before it. -/
def States (text : List Char) (operator : Comparison) : Prop :=
  ∃ before sign after, relationSigns = before ++ (sign, operator) :: after ∧ Names text sign ∧
    ∀ other ∈ before, ¬ Names text other.1

/-- The text ends with the decimal number, which takes all digits at the end. -/
def EndsWithNumber (text : List Char) (number : ℕ) : Prop :=
  ∃ front digits, text = front ++ digits ∧ digits ≠ [] ∧ AllDigits digits ∧
    (∀ other last, front = other ++ [last] → last.isDigit = false) ∧ number = digitsValue digits

/-- The value is in the relation that the text states to the number at its end, which is a word of
64 bits. -/
def Compares (text : List Char) (actual : ℕ) : Prop :=
  ∃ operator number, States text operator ∧ EndsWithNumber text number ∧ number < 2 ^ 64 ∧
    operator.holds actual number = true

/-- The pattern stands behind the first quotation mark and before the next occurrence of the closing
character. That is the mark itself, unless characters of several bytes are before it: then it is the
character that is as far behind the mark as they have bytes more than one. -/
def IsExtracted (text pattern : List Char) : Prop :=
  ∃ before quote rest closing after, text = before ++ quote :: rest ∧ isQuote quote = true ∧
    (∀ character ∈ before, isQuote character = false) ∧
    (quote :: rest)[extraBytes before]? = some closing ∧
    closing ∉ pattern ∧ rest = pattern ++ closing :: after

/-- The piece refuses the GPU, by the first of three words that occurs in it: the memory is not in
the relation that the piece asks for, the name does not have the quoted text, or the index is not in
the relation. Without any of the words nothing is refused. -/
inductive Refuses (piece : List Char) (gpu : GpuCapability) : Prop
  | memory (memoryMib : Names piece "memory_mib")
      (other : ¬ Compares piece gpu.memoryMib.toNat)
  | name (withoutMemory : ¬ Names piece "memory_mib") (name : Names piece "name.contains")
      (absent : ∀ pattern, IsExtracted piece pattern → ¬ pattern <:+: gpu.name.toList)
  | index (withoutMemory : ¬ Names piece "memory_mib")
      (withoutName : ¬ Names piece "name.contains") (index : Names piece "index")
      (other : ¬ Compares piece gpu.index.toNat)

/-! ### The evaluation of a piece -/

/-- The digits at the end of a text are those behind its last character that is none. -/
theorem endsWithNumber_iff {text : List Char} {number : ℕ} :
    EndsWithNumber text number ↔
      text.rtakeWhile Char.isDigit ≠ [] ∧ number = digitsValue (text.rtakeWhile Char.isDigit) := by
  constructor
  · rintro ⟨front, digits, rfl, hne, hdigits, hfront, rfl⟩
    have htaken : (front ++ digits).rtakeWhile Char.isDigit = digits := by
      rcases List.eq_nil_or_concat front with rfl | ⟨other, last, rfl⟩
      · exact List.rtakeWhile_eq_self_iff.mpr hdigits
      · rw [List.concat_eq_append, List.append_assoc, List.singleton_append]
        exact rtakeWhile_append_cons (hfront other last (List.concat_eq_append ..)) hdigits
    rw [htaken]
    exact ⟨hne, rfl⟩
  · rintro ⟨hne, rfl⟩
    refine ⟨text.rdropWhile Char.isDigit, _, (List.rdropWhile_append_rtakeWhile ..).symm, hne,
      fun _ hmem ↦ List.mem_rtakeWhile_imp hmem, fun other last hfront ↦ ?_, rfl⟩
    have hne : text.rdropWhile Char.isDigit ≠ [] := by
      rw [hfront]
      exact List.append_ne_nil_of_right_ne_nil _ (List.cons_ne_nil _ _)
    have hlast := List.rdropWhile_last_not Char.isDigit text hne
    simp only [hfront, List.getLast_append_singleton] at hlast
    exact eq_false_of_ne_true hlast

/-- A text with no digit at its end compares nothing. -/
theorem not_compares_of_ends {text : List Char}
    (hends : Ends (fun character ↦ character.isDigit = false) text) (actual : ℕ) :
    ¬ Compares text actual := by
  rintro ⟨operator, number, -, hnumber, -, -⟩
  exact (endsWithNumber_iff.mp hnumber).1 (rtakeWhile_of_ends hends)

/-- The number that is extracted is the one at the end of the text, when it fits. -/
theorem extractNumericValue_eq_some_iff {text : List Char} {number : ℕ} :
    extractNumericValue text = some number ↔ EndsWithNumber text number ∧ number < 2 ^ 64 := by
  have hdigits : AllDigits (text.rtakeWhile Char.isDigit) := fun _ hmem ↦
    List.mem_rtakeWhile_imp hmem
  unfold extractNumericValue parseUnsigned
  rw [hdigits.withoutPlus_eq, endsWithNumber_iff]
  constructor
  · intro hparse
    split_ifs at hparse with haccepted
    obtain rfl := Option.some_inj.mp hparse
    exact ⟨⟨haccepted.1, rfl⟩, haccepted.2.2⟩
  · rintro ⟨⟨hne, rfl⟩, hfits⟩
    exact if_pos ⟨hne, hdigits, hfits⟩

/-- The relation that a text states is that of the first sign that occurs in it. -/
theorem states_iff {text : List Char} {operator : Comparison} :
    States text operator ↔ ∃ sign, relationSigns.find? (fun relation ↦
      containsText text relation.1) = some (sign, operator) := by
  unfold States Names containsText
  simp only [List.find?_eq_some_iff_append, decide_eq_true_eq, Bool.not_eq_true',
    decide_eq_false_iff_not]
  constructor
  · rintro ⟨before, sign, after, hsigns, hnamed, hbefore⟩
    exact ⟨sign, hnamed, before, after, hsigns, hbefore⟩
  · rintro ⟨sign, hnamed, before, after, hsigns, hbefore⟩
    exact ⟨before, sign, after, hsigns, hnamed, hbefore⟩

/-- A text that is looked for beside a longer one that has it is what matters. -/
theorem containsText_or {text : List Char} {longer shorter : String}
    (hlonger : shorter.toList <:+: longer.toList) :
    (containsText text longer || containsText text shorter) = containsText text shorter := by
  unfold containsText
  by_cases hshorter : shorter.toList <:+: text
  · rw [decide_eq_true hshorter, Bool.or_true]
  · have hnot : ¬ longer.toList <:+: text := fun hinfix ↦ hshorter (hlonger.trans hinfix)
    rw [decide_eq_false hshorter, decide_eq_false hnot, Bool.or_false]

/-- A text with `==` in it has `=` in it. -/
theorem containsText_eq (text : List Char) :
    (containsText text "==" || containsText text "=") = containsText text "=" :=
  containsText_or ⟨[], ['='], rfl⟩

/-- With a number at its end, a text compares by the relation that it states. -/
theorem evaluateComparison_of_number {text : List Char} {number : ℕ}
    (hnumber : extractNumericValue text = some number) (actual : ℕ) :
    evaluateComparison text actual = true ↔
      ∃ operator, States text operator ∧ operator.holds actual number = true := by
  simp only [states_iff]
  unfold evaluateComparison relationSigns
  rw [hnumber]
  dsimp only
  rw [containsText_eq]
  simp only [List.find?]
  cases containsText text ">=" with
  | true => simp [Comparison.holds]
  | false =>
  cases containsText text "<=" with
  | true => simp [Comparison.holds]
  | false =>
  cases containsText text ">" with
  | true => simp [Comparison.holds]
  | false =>
  cases containsText text "<" with
  | true => simp [Comparison.holds]
  | false =>
  cases containsText text "=" with
  | true => simp [Comparison.holds]
  | false => simp

/-- A piece is evaluated to a comparison with the number at its end. -/
theorem evaluateComparison_iff (text : List Char) (actual : ℕ) :
    evaluateComparison text actual = true ↔ Compares text actual := by
  unfold Compares
  cases hnumber : extractNumericValue text with
  | none =>
    have hnone : ¬ ∃ number, EndsWithNumber text number ∧ number < 2 ^ 64 := by
      rintro ⟨number, hends⟩
      rw [extractNumericValue_eq_some_iff.mpr hends] at hnumber
      cases hnumber
    rw [evaluateComparison, hnumber]
    refine iff_of_false nofun ?_
    rintro ⟨operator, number, -, hends, hfits, -⟩
    exact hnone ⟨number, hends, hfits⟩
  | some number =>
    rw [evaluateComparison_of_number hnumber]
    constructor
    · rintro ⟨operator, hstates, hholds⟩
      obtain ⟨hends, hfits⟩ := extractNumericValue_eq_some_iff.mp hnumber
      exact ⟨operator, number, hstates, hends, hfits, hholds⟩
    · rintro ⟨operator, other, hstates, hends, hfits, hholds⟩
      have hsame := extractNumericValue_eq_some_iff.mpr ⟨hends, hfits⟩
      rw [hnumber] at hsame
      cases hsame
      exact ⟨operator, hstates, hholds⟩

/-- The text that is extracted. -/
theorem extractStringValue_eq_some_iff {text pattern : List Char} :
    extractStringValue text = some pattern ↔ IsExtracted text pattern := by
  obtain hunquoted | ⟨before, quote, rest, rfl, hquote, hbefore⟩ :=
    forall_or_exists_first isQuote text
  · rw [extractStringValue_of_unquoted hunquoted]
    refine iff_of_false nofun ?_
    rintro ⟨before, quote, rest, closing, after, rfl, hquote, -⟩
    rw [hunquoted quote (List.mem_append_right _ List.mem_cons_self)] at hquote
    cases hquote
  · rw [extractStringValue_of_first hquote hbefore, Option.bind_eq_some_iff]
    constructor
    · rintro ⟨closing, hclosing, hpattern⟩
      obtain ⟨habsent, after, hrest⟩ := upTo_eq_some_iff.mp hpattern
      exact ⟨before, quote, rest, closing, after, rfl, hquote, hbefore, hclosing, habsent, hrest⟩
    · rintro ⟨front, mark, behind, closing, after, hsame, hmark, hfront, hclosing, habsent, hbehind⟩
      obtain ⟨rfl, rfl, rfl⟩ := append_cons_inj_of_first hsame hquote hbefore hmark hfront
      exact ⟨closing, hclosing, upTo_eq_some_iff.mpr ⟨habsent, after, hbehind⟩⟩

/-- A piece is evaluated to whether the name has the extracted text. -/
theorem evaluateNameContains_iff (text : List Char) (name : String) :
    evaluateNameContains text name = true ↔
      ∃ pattern, IsExtracted text pattern ∧ pattern <:+: name.toList := by
  unfold evaluateNameContains
  simp only [← extractStringValue_eq_some_iff]
  cases extractStringValue text with
  | none => simp
  | some pattern => simp

/-- The evaluator turns a GPU down if and only if the piece refuses it. -/
theorem evaluateCelPart_eq_false_iff (part : List Char) (gpu : GpuCapability) :
    evaluateCelPart part gpu = false ↔ Refuses (trim part) gpu := by
  have hnames : ∀ word, containsText (trim part) word = true ↔ Names (trim part) word := fun word ↦
    decide_eq_true_iff
  rw [← Bool.not_eq_true]
  unfold evaluateCelPart evaluateMemoryComparison evaluateIndexComparison
  dsimp only
  rw [containsText_or ⟨"device.".toList, [], rfl⟩, containsText_or ⟨"device.".toList, [], rfl⟩,
    containsText_or ⟨"device.".toList, [], rfl⟩]
  simp only [hnames]
  split_ifs with hmemory hname hindex
  · rw [evaluateComparison_iff]
    refine ⟨.memory hmemory, fun hrefuses ↦ ?_⟩
    cases hrefuses with
    | memory _ hother => exact hother
    | name hwithout => exact absurd hmemory hwithout
    | index hwithout => exact absurd hmemory hwithout
  · rw [evaluateNameContains_iff]
    refine ⟨fun habsent ↦ .name hmemory hname fun pattern hpattern hinfix ↦
      habsent ⟨pattern, hpattern, hinfix⟩, fun hrefuses ↦ ?_⟩
    cases hrefuses with
    | memory hnamed => exact absurd hnamed hmemory
    | name _ _ habsent => exact fun ⟨pattern, hpattern, hinfix⟩ ↦ habsent pattern hpattern hinfix
    | index _ hwithout => exact absurd hname hwithout
  · rw [evaluateComparison_iff]
    refine ⟨.index hmemory hname hindex, fun hrefuses ↦ ?_⟩
    cases hrefuses with
    | memory hnamed => exact absurd hnamed hmemory
    | name _ hnamed => exact absurd hnamed hname
    | index _ _ _ hother => exact hother
  · refine iff_of_false (not_not.mpr rfl) fun hrefuses ↦ ?_
    cases hrefuses with
    | memory hnamed => exact hmemory hnamed
    | name _ hnamed => exact hname hnamed
    | index _ _ hnamed => exact hindex hnamed

end Clawbernetes.ClawProto.Cel
