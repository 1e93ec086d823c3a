import Clawbernetes.ClawProto.Selector
import Clawbernetes.Library.TextSearch

/-!
# The quoted text of a selector expression

`extract_string_value` of `selector.rs`. The expression is searched for a quotation mark, which
gives a byte index, and the mark is then looked up at the character with that index. The two agree
where nothing but ASCII is in front of the mark. Elsewhere the character is one behind the mark, and
the text up to its next occurrence is taken.

`extractStringValueBytes` is the function with its byte indices and its slices, of which none ever
cuts a character (`extractStringValueBytes_eq`). `extracts_quoted_iff` says for which expressions
the text extracted is the one between the first mark and its next occurrence.
-/

set_option autoImplicit false
set_option relaxedAutoImplicit false

namespace Clawbernetes.ClawProto.GpuSelector

open Library.Decimals Library.TextSearch

/-! ### Extraction by bytes -/

/-- The slice of a text between two byte indices, which is a panic where one cuts a character. -/
def sliceBytes (start stop : ℕ) (text : List Char) : Option (List Char) :=
  (dropBytes start text).bind (takeBytes (stop - start))

/-- `extract_string_value` with its byte indices, `none` when a slice panics. -/
def extractStringValueBytes (expr : List Char) : Option (Option (List Char)) :=
  match findByte isQuote expr with
  | none => some none
  | some start =>
    match expr[start]? with
    | none => some none
    | some quoteChar =>
      (dropBytes (start + 1) expr).bind fun rest ↦
        match findByte (· = quoteChar) rest with
        | none => some none
        | some stop => (sliceBytes (start + 1) (start + 1 + stop) expr).map some

/-- A quotation mark is one byte. -/
theorem utf8Size_of_isQuote {character : Char} (hquote : isQuote character = true) :
    character.utf8Size = 1 := by
  rw [isQuote, Bool.or_eq_true, decide_eq_true_eq, decide_eq_true_eq] at hquote
  rcases hquote with rfl | rfl <;> rfl

/-- The number of bytes that a text has beyond its characters. -/
def extraBytes (text : List Char) : ℕ := byteLength text - text.length

section Split

variable {before rest : List Char} {quote : Char}

/-- The character looked up is found by the extra bytes in front of the first mark. -/
theorem getElem?_byteLength (before : List Char) (quote : Char) (rest : List Char) :
    (before ++ quote :: rest)[byteLength before]? = (quote :: rest)[extraBytes before]? :=
  List.getElem?_append_right (length_le_byteLength before)

/-- What is extracted behind the first mark. -/
theorem extractStringValue_of_first (hquote : isQuote quote = true)
    (hbefore : ∀ character ∈ before, isQuote character = false) :
    extractStringValue (before ++ quote :: rest) =
      (quote :: rest)[extraBytes before]?.bind fun quoteChar ↦ upTo quoteChar rest := by
  have htaken : (before ++ quote :: rest).takeWhile (fun character ↦ ¬ isQuote character) =
      before := by
    refine takeWhile_append_cons ?_ fun character hcharacter ↦ ?_
    · rw [hquote]
      rfl
    · rw [hbefore character hcharacter]
      rfl
  have hdropped : (before ++ quote :: rest).drop (before.length + 1) = rest := by
    rw [← List.drop_drop, List.drop_left, List.drop_one, List.tail_cons]
  have hlength : before.length ≠ (before ++ quote :: rest).length := by
    rw [List.length_append, List.length_cons]
    omega
  unfold extractStringValue
  dsimp only
  rw [htaken, if_neg hlength, getElem?_byteLength, hdropped]
  rfl

/-- The same behind the first mark by bytes, where no slice cuts a character. -/
theorem extractStringValueBytes_of_first (hquote : isQuote quote = true)
    (hbefore : ∀ character ∈ before, isQuote character = false) :
    extractStringValueBytes (before ++ quote :: rest) =
      some ((quote :: rest)[extraBytes before]?.bind fun quoteChar ↦ upTo quoteChar rest) := by
  have hdropped : dropBytes (byteLength before + 1) (before ++ quote :: rest) = some rest := by
    have hmark : byteLength (before ++ [quote]) = byteLength before + 1 := by
      rw [byteLength_append, byteLength_cons, utf8Size_of_isQuote hquote, byteLength_nil]
    have hslice := dropBytes_append (before ++ [quote]) rest
    rwa [List.append_assoc, List.singleton_append, hmark] at hslice
  unfold extractStringValueBytes
  rw [findByte_append_cons hquote hbefore]
  dsimp only
  rw [getElem?_byteLength]
  cases (quote :: rest)[extraBytes before]? with
  | none => rfl
  | some quoteChar =>
    dsimp only
    rw [hdropped, Option.bind_some, Option.bind_some]
    cases hpattern : upTo quoteChar rest with
    | none =>
      rw [upTo_eq_none_iff] at hpattern
      rw [findByte_eq_none fun character hcharacter ↦
        decide_eq_false (ne_of_mem_of_not_mem hcharacter hpattern)]
    | some pattern =>
      obtain ⟨habsent, after, rfl⟩ := upTo_eq_some_iff.mp hpattern
      rw [findByte_append_cons (decide_eq_true rfl) fun character hcharacter ↦
        decide_eq_false (ne_of_mem_of_not_mem hcharacter habsent)]
      dsimp only
      rw [sliceBytes, hdropped, Option.bind_some, Nat.add_sub_cancel_left, takeBytes_append,
        Option.map_some]

end Split

/-- Without a mark nothing is extracted. -/
theorem extractStringValue_of_unquoted {expr : List Char}
    (hunquoted : ∀ character ∈ expr, isQuote character = false) :
    extractStringValue expr = none := by
  have hall : (expr.takeWhile fun character ↦ ¬ isQuote character) = expr := by
    rw [List.takeWhile_eq_self_iff]
    intro character hcharacter
    rw [hunquoted character hcharacter]
    rfl
  unfold extractStringValue
  dsimp only
  rw [hall, if_pos rfl]

/-- No slice panics, for any expression, and the function is the one over characters. -/
theorem extractStringValueBytes_eq (expr : List Char) :
    extractStringValueBytes expr = some (extractStringValue expr) := by
  obtain hunquoted | ⟨before, quote, rest, rfl, hquote, hbefore⟩ :=
    forall_or_exists_first isQuote expr
  · rw [extractStringValue_of_unquoted hunquoted, extractStringValueBytes,
      findByte_eq_none hunquoted]
  · rw [extractStringValueBytes_of_first hquote hbefore,
      extractStringValue_of_first hquote hbefore]

/-! ### The text between two marks -/

/-- The expression has the text between its first quotation mark and the next occurrence of the same
mark. -/
def IsQuotedText (expr pattern : List Char) : Prop :=
  ∃ before quote after, expr = before ++ quote :: (pattern ++ quote :: after) ∧
    isQuote quote = true ∧ (∀ character ∈ before, isQuote character = false) ∧ quote ∉ pattern

/-- No slice cuts a character, and the quoted text is extracted, if there is one. -/
structure ExtractsQuoted (expr : List Char) : Prop where
  never_panics : (extractStringValueBytes expr).isSome
  some_iff : ∀ pattern, extractStringValueBytes expr = some (some pattern) ↔
    IsQuotedText expr pattern
  none_iff : extractStringValueBytes expr = some none ↔ ¬ ∃ pattern, IsQuotedText expr pattern

/-- As many characters behind the first mark as there are extra bytes in front of it, there is the
same mark, which is the first itself when there are none; or the expression ends before that and the
mark does not occur again. -/
def MarkRepeats (expr : List Char) : Prop :=
  ∀ before quote rest, expr = before ++ quote :: rest → isQuote quote = true →
    (∀ character ∈ before, isQuote character = false) →
      (quote :: rest)[extraBytes before]? = some quote ∨
        (quote :: rest)[extraBytes before]? = none ∧ quote ∉ rest

/-- Behind the first mark, the quoted text goes up to the same mark. -/
theorem isQuotedText_iff {before rest pattern : List Char} {quote : Char}
    (hquote : isQuote quote = true) (hbefore : ∀ character ∈ before, isQuote character = false) :
    IsQuotedText (before ++ quote :: rest) pattern ↔ upTo quote rest = some pattern := by
  rw [upTo_eq_some_iff]
  constructor
  · rintro ⟨front, mark, after, hsame, hmark, hfront, habsent⟩
    obtain ⟨rfl, rfl, rfl⟩ := append_cons_inj_of_first hsame hquote hbefore hmark hfront
    exact ⟨habsent, after, rfl⟩
  · rintro ⟨habsent, after, rfl⟩
    exact ⟨before, quote, after, rfl, hquote, hbefore, habsent⟩

/-- An expression is cut at its first mark in one way only. -/
theorem markRepeats_iff {before rest : List Char} {quote : Char} (hquote : isQuote quote = true)
    (hbefore : ∀ character ∈ before, isQuote character = false) :
    MarkRepeats (before ++ quote :: rest) ↔
      (quote :: rest)[extraBytes before]? = some quote ∨
        (quote :: rest)[extraBytes before]? = none ∧ quote ∉ rest := by
  constructor
  · exact fun hrepeats ↦ hrepeats before quote rest rfl hquote hbefore
  · rintro hfound front mark behind hsame hmark hfront
    obtain ⟨rfl, rfl, rfl⟩ := append_cons_inj_of_first hsame hquote hbefore hmark hfront
    exact hfound

/-- The text up to a character that was looked up behind a mark is the one up to the mark only if
the character is the mark, or if there is neither. -/
theorem bind_upTo_eq_iff {quote : Char} {rest : List Char} (index : ℕ) :
    (quote :: rest)[index]?.bind (fun quoteChar ↦ upTo quoteChar rest) = upTo quote rest ↔
      (quote :: rest)[index]? = some quote ∨ (quote :: rest)[index]? = none ∧ quote ∉ rest := by
  cases hfound : (quote :: rest)[index]? with
  | none =>
    rw [Option.bind_none, eq_comm, upTo_eq_none_iff]
    exact ⟨fun habsent ↦ .inr ⟨rfl, habsent⟩, fun hor ↦ hor.elim nofun And.right⟩
  | some quoteChar =>
    rw [Option.bind_some, Option.some_inj]
    constructor
    · intro hsame
      obtain rfl | hmem := List.mem_cons.mp (List.mem_of_getElem? hfound)
      · exact .inl rfl
      · -- the two texts are the same and are followed by two marks
        cases hpattern : upTo quoteChar rest with
        | none => exact absurd hmem (upTo_eq_none_iff.mp hpattern)
        | some pattern =>
          obtain ⟨-, after, htext⟩ := upTo_eq_some_iff.mp hpattern
          obtain ⟨-, behind, hother⟩ := upTo_eq_some_iff.mp (hsame.symm.trans hpattern)
          have hmarks := List.append_cancel_left (htext.symm.trans hother)
          exact .inl (List.cons.inj hmarks).1
    · rintro (rfl | ⟨hnone, -⟩)
      · rfl
      · cases hnone

/-- The text that is extracted is the one between the first mark and its next occurrence, and none
where there is no such text, if and only if the character at the byte index of the mark is the
mark. -/
theorem extracts_quoted_iff (expr : List Char) : ExtractsQuoted expr ↔ MarkRepeats expr := by
  obtain hunquoted | ⟨before, quote, rest, rfl, hquote, hbefore⟩ :=
    forall_or_exists_first isQuote expr
  · have hnever : ∀ pattern, ¬ IsQuotedText expr pattern := by
      rintro pattern ⟨before, quote, after, rfl, hquote, -⟩
      rw [hunquoted quote (List.mem_append_right _ List.mem_cons_self)] at hquote
      cases hquote
    have hnone : extractStringValueBytes expr = some none := by
      rw [extractStringValueBytes_eq, extractStringValue_of_unquoted hunquoted]
    refine iff_of_true ⟨by rw [hnone]; rfl, fun pattern ↦ ?_, ?_⟩ ?_
    · rw [hnone]
      exact iff_of_false nofun (hnever pattern)
    · exact iff_of_true hnone fun ⟨pattern, hpattern⟩ ↦ hnever pattern hpattern
    · rintro before quote rest rfl hquote -
      rw [hunquoted quote (List.mem_append_right _ List.mem_cons_self)] at hquote
      cases hquote
  · have hvalue : extractStringValueBytes (before ++ quote :: rest) = some _ :=
      extractStringValueBytes_of_first hquote hbefore
    have hquoted : ∀ pattern, IsQuotedText (before ++ quote :: rest) pattern ↔
        upTo quote rest = some pattern := fun pattern ↦ isQuotedText_iff hquote hbefore
    rw [markRepeats_iff hquote hbefore, ← bind_upTo_eq_iff]
    constructor
    · intro hexact
      refine Option.some_inj.mp (hvalue.symm.trans ?_)
      cases hexpected : upTo quote rest with
      | none =>
        refine hexact.none_iff.mpr fun ⟨pattern, hpattern⟩ ↦ ?_
        rw [hquoted, hexpected] at hpattern
        cases hpattern
      | some pattern => exact (hexact.some_iff pattern).mpr ((hquoted pattern).mpr hexpected)
    · intro hsame
      rw [hsame] at hvalue
      refine ⟨by rw [hvalue]; rfl, fun pattern ↦ ?_, ?_⟩
      · rw [hvalue, hquoted, Option.some_inj]
      · rw [hvalue, Option.some_inj, Option.eq_none_iff_forall_ne_some, not_exists]
        exact forall_congr' fun pattern ↦ not_congr (hquoted pattern).symm

/-- A blank of two bytes in front of the mark: the text up to the next letter `A` is extracted,
which is empty, and every GPU is selected. -/
theorem wide_blank_selects_all :
    let expr := "device.name.contains(\u00a0'A100')".toList
    extractStringValueBytes expr = some (some []) ∧ IsQuotedText expr "A100".toList ∧
      evaluateCelSelector (.ofList expr) ⟨0, "T4", 16384⟩ = true ∧ ¬ ExtractsQuoted expr := by
  intro expr
  have hvalue : extractStringValueBytes expr = some (some []) := by decide +kernel
  have hquoted : IsQuotedText expr "A100".toList :=
    ⟨"device.name.contains(\u00a0".toList, Char.ofNat 39, [')'], by decide +kernel,
      by decide +kernel, forall_mem_of_all (by decide +kernel), by decide +kernel⟩
  refine ⟨hvalue, hquoted, by decide +kernel, fun hexact ↦ ?_⟩
  have hextracted := (hexact.some_iff _).mpr hquoted
  rw [hvalue] at hextracted
  exact absurd hextracted (by decide +kernel)

end Clawbernetes.ClawProto.GpuSelector
