import Clawbernetes.Library.Decimals
import Clawbernetes.Library.Results

/-!
# Amounts and their decimal texts

`amount.rs` of the core crate. An amount is a 64-bit number of nano-MOLT, nine decimal places below
one MOLT. It is written as a decimal text without trailing zeros (`Amount.serialize`) and read from
one (`Amount.fromStr`). A text is cut at its points; the whole part and the fraction are read by the
parser for `u64`, the fraction after zeros have been added behind it and it has been cut to nine
bytes. The outer `Option` of a result is the panic of a slice that cuts a character.

`fromStr_eq_ok_iff` says which texts are read, and as what: numerals of at most nine places that are
below `2 ^ 64` nano-MOLT, and a few texts that are no numerals. The parser for `u64` takes a plus
sign, which stands for nothing in front of a whole part and for a zero in front of a fraction, and
the lone point is read as zero (`Slip`). `fromStr_exact_iff` is that account for each text, and
`serialize_roundTrip` shows that what is written is always read back.
-/

set_option autoImplicit false
set_option relaxedAutoImplicit false

namespace Clawbernetes.MoltCore

open Library.Decimals Library.Results

/-- `DECIMALS`. -/
def decimals : ℕ := 9

/-- `NANO_PER_MOLT`. -/
def nanoPerMolt : ℕ := 1000000000

/-- The variant of `MoltError` that amounts return. -/
inductive MoltError where
  | invalidAmount (message : String)
  deriving DecidableEq

/-- `Amount`, in nano-MOLT. -/
@[ext] structure Amount where
  nano : ℕ
  nano_lt : nano < 2 ^ 64
  deriving DecidableEq

namespace Amount

/-! ### Reading and writing -/

/-- The result of `checked_mul` and `checked_add` with the error for an overflow. -/
def checked (value : ℕ) : Except MoltError Amount :=
  if hlt : value < 2 ^ 64 then .ok ⟨value, hlt⟩ else .error (.invalidAmount "overflow")

/-- A part of the text by `str::parse` for `u64`, with the error that names the part. -/
def parsePart (part : List Char) (description text : String) : Except MoltError ℕ :=
  match parseUnsigned (2 ^ 64) part with
  | some value => .ok value
  | none => .error (.invalidAmount (description ++ ": " ++ text))

/-- A text without a point. -/
def fromWhole (text : String) (part : List Char) : Except MoltError Amount := do
  let whole ← parsePart part "invalid number" text
  checked (whole * nanoPerMolt)

/-- The whole part of a text with a point, which may be empty. -/
def wholeOf (text : String) (part : List Char) : Except MoltError ℕ :=
  if part = [] then .ok 0 else parsePart part "invalid whole part" text

/-- The amount of a whole part and a padded fraction. -/
def fromPadded (text : String) (whole : ℕ) (padded : List Char) : Except MoltError Amount := do
  let fraction ← parsePart padded "invalid fractional part" text
  let wholeNano ← checked (whole * nanoPerMolt)
  checked (wholeNano.nano + fraction)

/-- A text with one point. -/
def fromParts (text : String) (wholePart fractionPart : List Char) :
    Option (Except MoltError Amount) :=
  match wholeOf text wholePart with
  | .error error => some (.error error)
  | .ok whole =>
    if decimals < byteLength fractionPart then
      some (.error (.invalidAmount "too many decimal places"))
    else (takeBytes 9 (fractionPart.rightpad 9 '0')).map (fromPadded text whole)

/-- `Amount::from_str`. -/
def fromStr (text : String) : Option (Except MoltError Amount) :=
  if ['-'] <+: text.toList then some (.error (.invalidAmount "negative values not allowed"))
  else match text.toList.splitOn '.' with
  | [part] => some (fromWhole text part)
  | [wholePart, fractionPart] => fromParts text wholePart fractionPart
  | _ => some (.error (.invalidAmount ("invalid format: " ++ text)))

/-- The text that `Amount::serialize` hands to the serializer. -/
def serialize (amount : Amount) : String :=
  let whole := amount.nano / nanoPerMolt
  let fraction := amount.nano % nanoPerMolt
  if fraction = 0 then toString whole
  else toString whole ++ "." ++
    String.ofList (trimZeros ((Nat.toDigits 10 fraction).leftpad 9 '0'))

/-! ### What the parts are read as -/

/-- A whole part is its digits, with or without a plus sign in front of at least one of them. -/
def WholeSpelled (part whole : List Char) : Prop :=
  part = whole ∨ (whole ≠ [] ∧ part = '+' :: whole)

/-- A fraction is its digits, the first of which may be a zero that is written as a plus sign. -/
def FractionSpelled (part fraction : List Char) : Prop :=
  part = fraction ∨ ∃ rest, fraction = '0' :: rest ∧ part = '+' :: rest

/-- A checked value is the amount of it, when there is one. -/
theorem checked_eq_ok_iff {value : ℕ} {amount : Amount} :
    checked value = .ok amount ↔ amount.nano = value := by
  unfold checked
  constructor
  · intro hchecked
    split_ifs at hchecked
    obtain rfl := Except.ok.inj hchecked
    rfl
  · rintro rfl
    exact dif_pos amount.nano_lt

/-- A part is parsed exactly when the parser accepts it. -/
theorem parsePart_eq_ok_iff {part : List Char} {description text : String} {value : ℕ} :
    parsePart part description text = .ok value ↔ parseUnsigned (2 ^ 64) part = some value := by
  unfold parsePart
  split
  · next parsed hparsed => rw [hparsed, Except.ok.injEq, Option.some_inj]
  · next hparsed =>
    rw [hparsed]
    exact iff_of_false nofun nofun

/-- What a text without a point is read as. -/
theorem fromWhole_eq_ok_iff {text : String} {part : List Char} {amount : Amount} :
    fromWhole text part = .ok amount ↔ ∃ whole, whole ≠ [] ∧ WholeSpelled part whole ∧
      AllDigits whole ∧ amount.nano = digitsValue whole * nanoPerMolt := by
  have hlt := amount.nano_lt
  rw [fromWhole, bind_eq_ok_iff]
  constructor
  · rintro ⟨value, hpart, hchecked⟩
    obtain ⟨whole, hspelled, hne, hdigits, rfl, -⟩ :=
      parseUnsigned_eq_some_iff.mp (parsePart_eq_ok_iff.mp hpart)
    refine ⟨whole, hne, ?_, hdigits, checked_eq_ok_iff.mp hchecked⟩
    exact hspelled.imp id fun hplus ↦ ⟨hne, hplus⟩
  · rintro ⟨whole, hne, hspelled, hdigits, hnano⟩
    have hbound : digitsValue whole < 2 ^ 64 := by
      have hle := Nat.le_mul_of_pos_right (digitsValue whole) (show 0 < nanoPerMolt by decide)
      omega
    have hpart : parsePart part "invalid number" text = .ok (digitsValue whole) :=
      parsePart_eq_ok_iff.mpr (parseUnsigned_eq_some_iff.mpr
        ⟨whole, hspelled.imp id And.right, hne, hdigits, rfl, hbound⟩)
    exact ⟨digitsValue whole, hpart, checked_eq_ok_iff.mpr hnano⟩

/-- What the whole part of a text with a point is read as. -/
theorem wholeOf_eq_ok_iff {text : String} {part : List Char} {value : ℕ} :
    wholeOf text part = .ok value ↔ ∃ whole, WholeSpelled part whole ∧ AllDigits whole ∧
      value = digitsValue whole ∧ value < 2 ^ 64 := by
  unfold wholeOf
  split_ifs with hempty
  · subst hempty
    constructor
    · intro hzero
      obtain rfl := Except.ok.inj hzero
      exact ⟨[], .inl rfl, allDigits_nil, rfl, by decide⟩
    · rintro ⟨whole, hspelled | ⟨-, hplus⟩, -, rfl, -⟩
      · rw [← hspelled]
        rfl
      · cases hplus
  · rw [parsePart_eq_ok_iff, parseUnsigned_eq_some_iff]
    constructor
    · rintro ⟨whole, hspelled, hne, hdigits, hvalue⟩
      exact ⟨whole, hspelled.imp id fun hplus ↦ ⟨hne, hplus⟩, hdigits, hvalue⟩
    · rintro ⟨whole, hspelled, hdigits, hvalue⟩
      refine ⟨whole, hspelled.imp id And.right, ?_, hdigits, hvalue⟩
      rcases hspelled with rfl | ⟨hne, -⟩
      · exact hempty
      · exact hne

/-- A fraction of at most nine bytes is padded to nine without a panic. -/
theorem takeBytes_padded {part : List Char} (hshort : byteLength part ≤ 9) :
    takeBytes 9 (part.rightpad 9 '0') =
      some (part ++ List.replicate (9 - byteLength part) '0') := by
  have hlength := length_le_byteLength part
  exact takeBytes_append_zeros hshort (by omega)

/-- A spelled fraction has as many bytes as digits. -/
theorem FractionSpelled.byteLength_eq {part fraction : List Char}
    (hspelled : FractionSpelled part fraction) (hdigits : AllDigits fraction) :
    byteLength part = fraction.length := by
  rcases hspelled with rfl | ⟨rest, rfl, rfl⟩
  · exact hdigits.byteLength_eq
  · have hplus : ('+' : Char).utf8Size = 1 := rfl
    rw [byteLength_cons, hplus, (allDigits_cons.mp hdigits).2.byteLength_eq, List.length_cons,
      Nat.add_comm]

/-- What a padded fraction is read as. -/
theorem parseUnsigned_padded_iff {part : List Char} (hshort : byteLength part ≤ 9) {value : ℕ} :
    parseUnsigned (2 ^ 64) (part ++ List.replicate (9 - byteLength part) '0') = some value ↔
      ∃ fraction, FractionSpelled part fraction ∧ AllDigits fraction ∧
        value = digitsValue fraction * 10 ^ (9 - fraction.length) := by
  rw [parseUnsigned_eq_some_iff]
  constructor
  · rintro ⟨digits, hspelled | hspelled, -, hdigits, rfl, -⟩
    · subst hspelled
      have hpart := (allDigits_append.mp hdigits).1
      refine ⟨part, .inl rfl, hpart, ?_⟩
      rw [digitsValue_append_zeros, hpart.byteLength_eq]
    · cases part with
      | nil => cases hspelled
      | cons first rest =>
        rw [List.cons_append, List.cons.injEq] at hspelled
        obtain ⟨rfl, rfl⟩ := hspelled
        have hrest := (allDigits_append.mp hdigits).1
        have hfraction : FractionSpelled ('+' :: rest) ('0' :: rest) := .inr ⟨rest, rfl, rfl⟩
        have hzero : AllDigits ('0' :: rest) := allDigits_cons.mpr ⟨rfl, hrest⟩
        refine ⟨'0' :: rest, hfraction, hzero, ?_⟩
        rw [digitsValue_append_zeros, hfraction.byteLength_eq hzero, digitsValue_zero_cons]
  · rintro ⟨fraction, hspelled, hdigits, rfl⟩
    have hbytes := hspelled.byteLength_eq hdigits
    have hlong : fraction.length ≤ 9 := hbytes ▸ hshort
    have hvalue := hdigits.digitsValue_lt
    have hpadded : AllDigits (fraction ++ List.replicate (9 - fraction.length) '0') :=
      allDigits_append.mpr ⟨hdigits, allDigits_zeros _⟩
    have hbound := hpadded.digitsValue_lt
    rw [digitsValue_append_zeros, List.length_append, List.length_replicate,
      Nat.add_sub_cancel' hlong] at hbound
    rw [hbytes]
    rcases hspelled with rfl | ⟨rest, rfl, rfl⟩
    · refine ⟨_, .inl rfl, ?_, hpadded, (digitsValue_append_zeros _ _).symm, by omega⟩
      rw [← List.length_pos_iff, List.length_append, List.length_replicate]
      omega
    · refine ⟨rest ++ List.replicate (9 - (rest.length + 1)) '0', .inr rfl, ?_,
        (allDigits_cons.mp hpadded).2, ?_, by omega⟩
      · rw [← List.length_pos_iff, List.length_append, List.length_replicate]
        omega
      · rw [digitsValue_append_zeros, digitsValue_zero_cons, List.length_cons]

/-- What a whole part and a padded fraction are read as. -/
theorem fromPadded_eq_ok_iff {text : String} {whole : ℕ} {padded : List Char} {amount : Amount} :
    fromPadded text whole padded = .ok amount ↔ ∃ fraction,
      parseUnsigned (2 ^ 64) padded = some fraction ∧
        amount.nano = whole * nanoPerMolt + fraction := by
  have hlt := amount.nano_lt
  rw [fromPadded, bind_eq_ok_iff]
  refine exists_congr fun fraction ↦ and_congr parsePart_eq_ok_iff ?_
  rw [bind_eq_ok_iff]
  constructor
  · rintro ⟨wholeNano, hwhole, hsum⟩
    rw [checked_eq_ok_iff.mp hsum, checked_eq_ok_iff.mp hwhole]
  · intro hnano
    have hfits : whole * nanoPerMolt < 2 ^ 64 := by omega
    exact ⟨⟨whole * nanoPerMolt, hfits⟩, checked_eq_ok_iff.mpr rfl, checked_eq_ok_iff.mpr hnano⟩

/-- One MOLT is the units of nine places. -/
theorem nanoPerMolt_eq : nanoPerMolt = 10 ^ 9 := by decide

/-- A scaled value is the whole part and the padded fraction in nano-MOLT. -/
theorem scaledValue_eq (whole fraction : List Char) :
    scaledValue 9 whole fraction =
      digitsValue whole * nanoPerMolt + digitsValue fraction * 10 ^ (9 - fraction.length) := by
  rw [nanoPerMolt_eq, scaledValue]

/-- What a text with one point is read as. -/
theorem fromParts_eq_ok_iff {text : String} {wholePart fractionPart : List Char}
    {amount : Amount} :
    fromParts text wholePart fractionPart = some (.ok amount) ↔ ∃ whole fraction,
      WholeSpelled wholePart whole ∧ FractionSpelled fractionPart fraction ∧ AllDigits whole ∧
        AllDigits fraction ∧ fraction.length ≤ 9 ∧
          amount.nano = scaledValue 9 whole fraction := by
  unfold fromParts
  constructor
  · intro hread
    split at hread
    · cases hread
    · next value hwhole =>
      split_ifs at hread with hlong
      · cases hread
      · have hshort : byteLength fractionPart ≤ 9 := Nat.le_of_not_lt hlong
        rw [takeBytes_padded hshort, Option.map_some, Option.some_inj,
          fromPadded_eq_ok_iff] at hread
        obtain ⟨parsed, hparsed, hnano⟩ := hread
        obtain ⟨whole, hspelled, hdigits, rfl, -⟩ := wholeOf_eq_ok_iff.mp hwhole
        obtain ⟨fraction, hfraction, hfractionDigits, rfl⟩ :=
          (parseUnsigned_padded_iff hshort).mp hparsed
        refine ⟨whole, fraction, hspelled, hfraction, hdigits, hfractionDigits, ?_, ?_⟩
        · rw [← hfraction.byteLength_eq hfractionDigits]
          exact hshort
        · rw [hnano, scaledValue_eq]
  · rintro ⟨whole, fraction, hspelled, hfraction, hdigits, hfractionDigits, hplaces, hnano⟩
    have hlt := amount.nano_lt
    rw [scaledValue_eq] at hnano
    have hbound : digitsValue whole < 2 ^ 64 := by
      have hle := Nat.le_mul_of_pos_right (digitsValue whole) (show 0 < nanoPerMolt by decide)
      omega
    have hwhole : wholeOf text wholePart = .ok (digitsValue whole) :=
      wholeOf_eq_ok_iff.mpr ⟨whole, hspelled, hdigits, rfl, hbound⟩
    have hshort : byteLength fractionPart ≤ 9 := by
      rwa [hfraction.byteLength_eq hfractionDigits]
    have hdecimals : ¬ decimals < byteLength fractionPart := Nat.not_lt.mpr hshort
    have hparsed := (parseUnsigned_padded_iff hshort).mpr
      ⟨fraction, hfraction, hfractionDigits, rfl⟩
    rw [hwhole]
    simp only []
    rw [if_neg hdecimals, takeBytes_padded hshort, Option.map_some, Option.some_inj]
    exact fromPadded_eq_ok_iff.mpr ⟨_, hparsed, hnano⟩

/-- A text with one point is read without a panic. -/
theorem fromParts_ne_none (text : String) (wholePart fractionPart : List Char) :
    fromParts text wholePart fractionPart ≠ none := by
  unfold fromParts
  split
  · nofun
  · split_ifs with hlong
    · nofun
    · rw [takeBytes_padded (Nat.le_of_not_lt hlong)]
      nofun

/-- No text is read with a panic. -/
theorem fromStr_ne_none (text : String) : fromStr text ≠ none := by
  unfold fromStr
  split_ifs
  · nofun
  · split
    · nofun
    · exact fromParts_ne_none text _ _
    · nofun

/-! ### Which texts are read -/

/-- The text spells a whole part and a fraction of at most nine places the way the parser takes
them. -/
structure Spells (text whole fraction : List Char) : Prop where
  spelled : (whole ≠ [] ∧ fraction = [] ∧ WholeSpelled text whole) ∨
    ∃ wholePart fractionPart, text = wholePart ++ '.' :: fractionPart ∧
      WholeSpelled wholePart whole ∧ FractionSpelled fractionPart fraction
  wholeDigits : AllDigits whole
  fractionDigits : AllDigits fraction
  precision : fraction.length ≤ 9

/-- A character that is neither a digit nor a plus sign does not stand in a whole part. -/
theorem WholeSpelled.not_mem {part whole : List Char} (hspelled : WholeSpelled part whole)
    (hdigits : AllDigits whole) {character : Char} (hother : character.isDigit = false)
    (hplus : character ≠ '+') : character ∉ part := by
  rcases hspelled with rfl | ⟨-, rfl⟩
  · exact hdigits.not_mem hother
  · rw [List.mem_cons, not_or]
    exact ⟨hplus, hdigits.not_mem hother⟩

/-- A character that is neither a digit nor a plus sign does not stand in a fraction. -/
theorem FractionSpelled.not_mem {part fraction : List Char}
    (hspelled : FractionSpelled part fraction) (hdigits : AllDigits fraction) {character : Char}
    (hother : character.isDigit = false) (hplus : character ≠ '+') : character ∉ part := by
  rcases hspelled with rfl | ⟨rest, rfl, rfl⟩
  · exact hdigits.not_mem hother
  · rw [List.mem_cons, not_or]
    exact ⟨hplus, (allDigits_cons.mp hdigits).2.not_mem hother⟩

/-- A text that is spelled as the parser takes it has no minus sign. -/
theorem Spells.not_negative {text whole fraction : List Char}
    (hspells : Spells text whole fraction) : ¬ ['-'] <+: text := by
  intro hprefix
  have hmem : '-' ∈ text := hprefix.subset List.mem_cons_self
  rcases hspells.spelled with ⟨-, -, hwhole⟩ | ⟨wholePart, fractionPart, rfl, hwhole, hfraction⟩
  · exact hwhole.not_mem hspells.wholeDigits rfl (by decide) hmem
  · rcases List.mem_append.mp hmem with hmem | hmem
    · exact hwhole.not_mem hspells.wholeDigits rfl (by decide) hmem
    · rw [List.mem_cons] at hmem
      have hmem := hmem.resolve_left (by decide)
      exact hfraction.not_mem hspells.fractionDigits rfl (by decide) hmem

/-- The parser reads the texts that are spelled as it takes them, while their value fits. -/
theorem fromStr_eq_ok_iff_spells {text : String} {amount : Amount} :
    fromStr text = some (.ok amount) ↔ ∃ whole fraction,
      Spells text.toList whole fraction ∧ amount.nano = scaledValue 9 whole fraction := by
  constructor
  · intro hread
    unfold fromStr at hread
    split_ifs at hread with hnegative
    · cases hread
    · have htext : ['.'].intercalate (text.toList.splitOn '.') = text.toList :=
        List.intercalate_splitOn '.'
      split at hread
      · next part hsplit =>
        rw [hsplit, List.intercalate_singleton] at htext
        rw [Option.some_inj, fromWhole_eq_ok_iff] at hread
        obtain ⟨whole, hne, hspelled, hdigits, hnano⟩ := hread
        refine ⟨whole, [], ⟨.inl ⟨hne, rfl, htext ▸ hspelled⟩, hdigits, allDigits_nil,
          Nat.zero_le 9⟩, ?_⟩
        rw [hnano, scaledValue_eq, digitsValue_nil, Nat.zero_mul, Nat.add_zero]
      · next wholePart fractionPart hsplit =>
        rw [hsplit, List.intercalate_cons_cons, List.intercalate_singleton, List.append_assoc,
          List.singleton_append] at htext
        rw [fromParts_eq_ok_iff] at hread
        obtain ⟨whole, fraction, hwhole, hfraction, hdigits, hfractionDigits, hplaces, hnano⟩ :=
          hread
        exact ⟨whole, fraction, ⟨.inr ⟨wholePart, fractionPart, htext.symm, hwhole, hfraction⟩,
          hdigits, hfractionDigits, hplaces⟩, hnano⟩
      · cases hread
  · rintro ⟨whole, fraction, hspells, hnano⟩
    have hdigit : ('.' : Char).isDigit = false := rfl
    unfold fromStr
    rw [if_neg hspells.not_negative]
    rcases hspells.spelled with ⟨hne, rfl, hwhole⟩ |
      ⟨wholePart, fractionPart, htext, hwhole, hfraction⟩
    · have hpoint := hwhole.not_mem hspells.wholeDigits hdigit (by decide)
      rw [List.splitOn_eq_singleton hpoint]
      refine congrArg some (fromWhole_eq_ok_iff.mpr ⟨whole, hne, hwhole, hspells.wholeDigits, ?_⟩)
      rw [hnano, scaledValue_eq, digitsValue_nil, Nat.zero_mul, Nat.add_zero]
    · have hpoint := hwhole.not_mem hspells.wholeDigits hdigit (by decide)
      have hnext := hfraction.not_mem hspells.fractionDigits hdigit (by decide)
      rw [htext, List.splitOn_append_cons_self_of_not_mem hpoint,
        List.splitOn_eq_singleton hnext]
      exact fromParts_eq_ok_iff.mpr ⟨whole, fraction, hwhole, hfraction, hspells.wholeDigits,
        hspells.fractionDigits, hspells.precision, hnano⟩

/-- The spellings that are no numerals, with the digits they are taken for: the lone point, and
digits with a plus sign in front of the whole part, in the place of a zero that begins the fraction,
or at both of these places. -/
inductive Slip : List Char → List Char → List Char → Prop where
  | point : Slip ['.'] [] []
  | number {whole : List Char} (hne : whole ≠ []) : Slip ('+' :: whole) whole []
  | whole {whole fraction : List Char} (hne : whole ≠ []) :
      Slip ('+' :: whole ++ '.' :: fraction) whole fraction
  | fraction {whole rest : List Char} : Slip (whole ++ '.' :: '+' :: rest) whole ('0' :: rest)
  | both {whole rest : List Char} (hne : whole ≠ []) :
      Slip ('+' :: whole ++ '.' :: '+' :: rest) whole ('0' :: rest)

/-- The text is no numeral, but is taken for one of at most nine places. -/
structure Misread (text whole fraction : List Char) : Prop where
  slip : Slip text whole fraction
  wholeDigits : AllDigits whole
  fractionDigits : AllDigits fraction
  precision : fraction.length ≤ 9

/-- A slip is no numeral. -/
theorem Slip.not_isNumeral {text whole fraction otherWhole otherFraction : List Char}
    (hslip : Slip text whole fraction) : ¬ IsNumeral 9 text otherWhole otherFraction := by
  intro hnumeral
  have hplus := hnumeral.not_mem (rfl : ('+' : Char).isDigit = false) (by decide)
  cases hslip with
  | point => exact not_isNumeral_point hnumeral
  | number => exact hplus List.mem_cons_self
  | whole => exact hplus List.mem_cons_self
  | fraction =>
    exact hplus (List.mem_append_right _ (List.mem_cons_of_mem _ List.mem_cons_self))
  | both => exact hplus List.mem_cons_self

/-- What the parser takes is a numeral or a slip. -/
theorem spells_iff {text whole fraction : List Char} :
    Spells text whole fraction ↔
      IsNumeral 9 text whole fraction ∨ Misread text whole fraction := by
  constructor
  · rintro ⟨hspelled, hdigits, hfractionDigits, hplaces⟩
    rcases hspelled with ⟨hne, rfl, rfl | ⟨-, rfl⟩⟩ |
      ⟨wholePart, fractionPart, rfl, rfl | ⟨hne, rfl⟩, rfl | ⟨rest, rfl, rfl⟩⟩
    · refine .inl ⟨.inl ⟨rfl, rfl⟩, hdigits, hfractionDigits, ?_, hplaces⟩
      rwa [List.append_nil]
    · exact .inr ⟨.number hne, hdigits, hfractionDigits, hplaces⟩
    · by_cases hempty : wholePart ++ fractionPart = []
      · obtain ⟨rfl, rfl⟩ := List.append_eq_nil_iff.mp hempty
        exact .inr ⟨.point, hdigits, hfractionDigits, hplaces⟩
      · exact .inl ⟨.inr rfl, hdigits, hfractionDigits, hempty, hplaces⟩
    · exact .inr ⟨.fraction, hdigits, hfractionDigits, hplaces⟩
    · exact .inr ⟨.whole hne, hdigits, hfractionDigits, hplaces⟩
    · exact .inr ⟨.both hne, hdigits, hfractionDigits, hplaces⟩
  · rintro (⟨hspelled, hdigits, hfractionDigits, hne, hplaces⟩ |
      ⟨hslip, hdigits, hfractionDigits, hplaces⟩)
    · refine ⟨?_, hdigits, hfractionDigits, hplaces⟩
      rcases hspelled with ⟨rfl, rfl⟩ | rfl
      · rw [List.append_nil] at hne
        exact .inl ⟨hne, rfl, .inl rfl⟩
      · exact .inr ⟨whole, fraction, rfl, .inl rfl, .inl rfl⟩
    · refine ⟨?_, hdigits, hfractionDigits, hplaces⟩
      cases hslip with
      | point => exact .inr ⟨[], [], rfl, .inl rfl, .inl rfl⟩
      | number hne => exact .inl ⟨hne, rfl, .inr ⟨hne, rfl⟩⟩
      | whole hne => exact .inr ⟨_, _, rfl, .inr ⟨hne, rfl⟩, .inl rfl⟩
      | fraction => exact .inr ⟨_, _, rfl, .inl rfl, .inr ⟨_, rfl, rfl⟩⟩
      | both hne => exact .inr ⟨_, _, rfl, .inr ⟨hne, rfl⟩, .inr ⟨_, rfl, rfl⟩⟩

/-- The texts that are read, and the amount they are read as. -/
theorem fromStr_eq_ok_iff {text : String} {amount : Amount} :
    fromStr text = some (.ok amount) ↔ ∃ whole fraction,
      (IsNumeral 9 text.toList whole fraction ∨ Misread text.toList whole fraction) ∧
        amount.nano = scaledValue 9 whole fraction := by
  rw [fromStr_eq_ok_iff_spells]
  exact exists_congr fun whole ↦ exists_congr fun fraction ↦ and_congr_left' spells_iff

/-- The parser is exact on a text: it accepts the text if and only if this is a numeral of at most
nine places below `2 ^ 64` nano-MOLT, and then the amount is the number that the numeral denotes. -/
structure ParsesExactly (text : String) : Prop where
  accepts : (∃ amount, fromStr text = some (.ok amount)) ↔ ∃ whole fraction,
    IsNumeral 9 text.toList whole fraction ∧ decimalValue whole fraction * 10 ^ 9 < 2 ^ 64
  exact : ∀ amount whole fraction, fromStr text = some (.ok amount) →
    IsNumeral 9 text.toList whole fraction →
      (amount.nano : ℚ) = decimalValue whole fraction * 10 ^ 9

/-- The exact value of a numeral is in range when the scaled one is. -/
theorem decimalValue_lt_iff {text whole fraction : List Char}
    (hnumeral : IsNumeral 9 text whole fraction) :
    decimalValue whole fraction * 10 ^ 9 < 2 ^ 64 ↔ scaledValue 9 whole fraction < 2 ^ 64 := by
  rw [← cast_scaledValue hnumeral.precision]
  exact_mod_cast Iff.rfl

/-- The parser is not exact on a text that is misread as a number in range. -/
theorem Misread.not_parsesExactly {text : String} {whole fraction : List Char}
    (hmisread : Misread text.toList whole fraction)
    (hrange : scaledValue 9 whole fraction < 2 ^ 64) : ¬ ParsesExactly text := by
  intro hexact
  have hread : fromStr text = some (.ok ⟨scaledValue 9 whole fraction, hrange⟩) :=
    fromStr_eq_ok_iff.mpr ⟨whole, fraction, .inr hmisread, rfl⟩
  obtain ⟨_, _, hnumeral, -⟩ := hexact.accepts.mp ⟨_, hread⟩
  exact hmisread.slip.not_isNumeral hnumeral

/-- No text is read with a panic, and the parser is exact on all texts but those that are misread as
a number in range. -/
theorem fromStr_exact_iff (text : String) :
    fromStr text ≠ none ∧
      (ParsesExactly text ↔ ¬ ∃ whole fraction,
        Misread text.toList whole fraction ∧ scaledValue 9 whole fraction < 2 ^ 64) := by
  refine ⟨fromStr_ne_none text, ?_, ?_⟩
  · rintro hexact ⟨whole, fraction, hmisread, hrange⟩
    exact hmisread.not_parsesExactly hrange hexact
  · intro hnone
    have hnumeral : ∀ {amount : Amount}, fromStr text = some (.ok amount) → ∃ whole fraction,
        IsNumeral 9 text.toList whole fraction ∧ amount.nano = scaledValue 9 whole fraction := by
      intro amount hread
      obtain ⟨whole, fraction, hnumeral | hmisread, hnano⟩ := fromStr_eq_ok_iff.mp hread
      · exact ⟨whole, fraction, hnumeral, hnano⟩
      · exact absurd ⟨whole, fraction, hmisread, hnano ▸ amount.nano_lt⟩ hnone
    constructor
    · constructor
      · rintro ⟨amount, hread⟩
        obtain ⟨whole, fraction, hnumeral, hnano⟩ := hnumeral hread
        exact ⟨whole, fraction, hnumeral,
          (decimalValue_lt_iff hnumeral).mpr (hnano ▸ amount.nano_lt)⟩
      · rintro ⟨whole, fraction, hnumeral, hrange⟩
        exact ⟨⟨scaledValue 9 whole fraction, (decimalValue_lt_iff hnumeral).mp hrange⟩,
          fromStr_eq_ok_iff.mpr ⟨whole, fraction, .inl hnumeral, rfl⟩⟩
    · intro amount whole fraction hread hother
      obtain ⟨_, _, hnumeral, hnano⟩ := hnumeral hread
      obtain ⟨rfl, rfl⟩ := hnumeral.unique hother
      rw [hnano, cast_scaledValue hother.precision]

/-- A plus sign behind the point is read as a zero: `1.+5` is taken for `1.05`. -/
theorem signed_fraction_is_read :
    fromStr "1.+5" = some (.ok ⟨1050000000, by decide⟩) ∧ ¬ ParsesExactly "1.+5" := by
  have hmisread : Misread "1.+5".toList ['1'] ['0', '5'] :=
    ⟨@Slip.fraction ['1'] ['5'], by decide, by decide, by decide⟩
  have hvalue : scaledValue 9 ['1'] ['0', '5'] = 1050000000 := by decide +kernel
  refine ⟨fromStr_eq_ok_iff.mpr ⟨_, _, .inr hmisread, hvalue.symm⟩,
    hmisread.not_parsesExactly ?_⟩
  rw [hvalue]
  decide

/-! ### Reading back what was written -/

/-- The fraction as it is written: nine digits without the zeros at their end. -/
def writtenFraction (fraction : ℕ) : List Char :=
  trimZeros ((Nat.toDigits 10 fraction).leftpad 9 '0')

/-- A fraction is written in at most nine digits, which stand for it once zeros are added. -/
theorem writtenFraction_spec {fraction : ℕ} (hlt : fraction < nanoPerMolt) :
    AllDigits (writtenFraction fraction) ∧ (writtenFraction fraction).length ≤ 9 ∧
      digitsValue (writtenFraction fraction) * 10 ^ (9 - (writtenFraction fraction).length) =
        fraction := by
  have hshort : (Nat.toDigits 10 fraction).length ≤ 9 :=
    (Nat.length_toDigits_le_iff (by decide) (by decide)).mpr (nanoPerMolt_eq ▸ hlt)
  obtain ⟨count, hcount⟩ := trimZeros_spec ((Nat.toDigits 10 fraction).leftpad 9 '0')
  have hpadded : (Nat.toDigits 10 fraction).leftpad 9 '0' =
      List.replicate (9 - (Nat.toDigits 10 fraction).length) '0' ++ Nat.toDigits 10 fraction := rfl
  have hlength : (writtenFraction fraction).length + count = 9 := by
    have htotal := congrArg List.length hcount
    rw [List.length_append, List.length_replicate, List.length_leftpad,
      Nat.max_eq_left hshort] at htotal
    exact htotal.symm
  have hdigits : AllDigits (writtenFraction fraction ++ List.replicate count '0') := by
    rw [writtenFraction, ← hcount, hpadded, allDigits_append]
    exact ⟨allDigits_zeros _, allDigits_toDigits fraction⟩
  have hvalue : digitsValue (writtenFraction fraction) * 10 ^ count = fraction := by
    rw [← digitsValue_append_zeros, writtenFraction, ← hcount, hpadded, digitsValue_zeros_append,
      digitsValue_toDigits]
  refine ⟨(allDigits_append.mp hdigits).1, by omega, ?_⟩
  rwa [show 9 - (writtenFraction fraction).length = count by omega]

/-- A number is written in its digits. -/
theorem toList_toString (number : ℕ) : (toString number).toList = Nat.toDigits 10 number :=
  Nat.toList_repr

/-- What is written is a numeral, and denotes the amount. -/
theorem serialize_isNumeral (amount : Amount) : ∃ whole fraction,
    IsNumeral 9 (serialize amount).toList whole fraction ∧
      amount.nano = scaledValue 9 whole fraction := by
  have hnano := Nat.div_add_mod' amount.nano nanoPerMolt
  have hne : Nat.toDigits 10 (amount.nano / nanoPerMolt) ≠ [] := Nat.toDigits_ne_nil
  unfold serialize
  simp only []
  split_ifs with hzero
  · refine ⟨Nat.toDigits 10 (amount.nano / nanoPerMolt), [],
      ⟨.inl ⟨toList_toString _, rfl⟩, allDigits_toDigits _, allDigits_nil, ?_, Nat.zero_le 9⟩, ?_⟩
    · rwa [List.append_nil]
    · rw [scaledValue_eq, digitsValue_toDigits, digitsValue_nil, Nat.zero_mul]
      omega
  · have hlt : amount.nano % nanoPerMolt < nanoPerMolt := Nat.mod_lt _ (by decide)
    obtain ⟨hdigits, hplaces, hvalue⟩ := writtenFraction_spec hlt
    refine ⟨Nat.toDigits 10 (amount.nano / nanoPerMolt),
      writtenFraction (amount.nano % nanoPerMolt),
      ⟨.inr ?_, allDigits_toDigits _, hdigits, ?_, hplaces⟩, ?_⟩
    · have hpoint : ".".toList = ['.'] := rfl
      rw [String.toList_append, String.toList_append, toList_toString, hpoint,
        String.toList_ofList, List.append_assoc]
      rfl
    · exact fun hempty ↦ hne (List.append_eq_nil_iff.mp hempty).1
    · rw [scaledValue_eq, digitsValue_toDigits, hvalue, hnano]

/-- What is written for an amount is read back as it. -/
theorem fromStr_serialize (amount : Amount) : fromStr (serialize amount) = some (.ok amount) := by
  obtain ⟨whole, fraction, hnumeral, hnano⟩ := serialize_isNumeral amount
  exact fromStr_eq_ok_iff.mpr ⟨whole, fraction, .inl hnumeral, hnano⟩

/-- Every amount is read back from its text, and different amounts have different texts. -/
theorem serialize_roundTrip :
    (∀ amount, fromStr (serialize amount) = some (.ok amount)) ∧ Function.Injective serialize := by
  refine ⟨fromStr_serialize, fun first second hsame ↦ ?_⟩
  have hread := fromStr_serialize first
  rw [hsame, fromStr_serialize second] at hread
  exact (Except.ok.inj (Option.some_inj.mp hread)).symm

end Amount

end Clawbernetes.MoltCore
