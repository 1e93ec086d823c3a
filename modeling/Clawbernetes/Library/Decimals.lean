import Mathlib.Algebra.Order.Ring.Nat
import Mathlib.Algebra.Order.Ring.Rat
import Mathlib.Data.List.DropRight
import Mathlib.Tactic.FieldSimp
import Mathlib.Tactic.Ring

/-!
# Decimal numerals of fixed precision

Reading and writing numbers as decimal digits, on lists of characters. `digitsValue` is the number
that digits stand for, and `parseUnsigned` is the parser of the standard library for an unsigned
type: digits, with one plus sign allowed in front of them, that stay below the bound of the type
(`parseUnsigned_eq_some_iff`).

A numeral (`IsNumeral`) is a whole part and a fraction with a point between them, of which one may
be missing. `decimalValue` is the rational number it denotes; in units of `10 ^ places` it is the
natural number `scaledValue`. Zeros that are added to the end of a fraction, or taken from it, do
not change the value (`digitsValue_append_zeros`, `trimZeros_spec`).

A text is measured in characters and in bytes. `takeBytes` is the slice of the first bytes, which
exists only where a character ends; padding with zeros keeps it on such a place
(`takeBytes_append_zeros`). `dropBytes` is the slice behind it, and `findByte` finds a place where
both exist (`takeBytes_append`, `dropBytes_append`).
-/

set_option autoImplicit false
set_option relaxedAutoImplicit false

namespace Library.Decimals

/-! ### Digits -/

/-- The characters are decimal digits. -/
def AllDigits (digits : List Char) : Prop := ∀ character ∈ digits, character.isDigit = true

instance (digits : List Char) : Decidable (AllDigits digits) :=
  decidable_of_iff (digits.all Char.isDigit = true) List.all_eq_true

/-- The number that digits stand for. -/
def digitsValue (digits : List Char) : ℕ := Nat.ofDigitChars 10 digits 0

@[simp] theorem digitsValue_nil : digitsValue [] = 0 := rfl

theorem allDigits_nil : AllDigits [] := fun _ hmem ↦ absurd hmem List.not_mem_nil

theorem allDigits_append {first second : List Char} :
    AllDigits (first ++ second) ↔ AllDigits first ∧ AllDigits second :=
  List.forall_mem_append

theorem allDigits_cons {character : Char} {rest : List Char} :
    AllDigits (character :: rest) ↔ character.isDigit = true ∧ AllDigits rest :=
  List.forall_mem_cons

theorem allDigits_zeros (count : ℕ) : AllDigits (List.replicate count '0') := by
  intro character hmem
  obtain rfl := List.eq_of_mem_replicate hmem
  rfl

/-- The digits of a number. -/
theorem allDigits_toDigits (number : ℕ) : AllDigits (Nat.toDigits 10 number) :=
  fun _ hmem ↦ Nat.isDigit_of_mem_toDigits (by decide) (le_refl 10) hmem

/-- The digits of a number stand for it. -/
@[simp] theorem digitsValue_toDigits (number : ℕ) :
    digitsValue (Nat.toDigits 10 number) = number :=
  Nat.ofDigitChars_ten_toDigits

/-- A character that is no digit does not stand among digits. -/
theorem AllDigits.not_mem {digits : List Char} (hdigits : AllDigits digits) {character : Char}
    (hother : character.isDigit = false) : character ∉ digits := by
  intro hmem
  rw [hdigits character hmem] at hother
  cases hother

/-- Digits in front of others count for more by their number. -/
theorem digitsValue_append (first second : List Char) :
    digitsValue (first ++ second) =
      digitsValue first * 10 ^ second.length + digitsValue second := by
  unfold digitsValue
  rw [Nat.ofDigitChars_append, Nat.ofDigitChars_eq_ofDigitChars_zero, Nat.mul_comm]

/-- Zeros in front of digits change nothing. -/
@[simp] theorem digitsValue_zeros_append (count : ℕ) (digits : List Char) :
    digitsValue (List.replicate count '0' ++ digits) = digitsValue digits := by
  unfold digitsValue
  rw [Nat.ofDigitChars_append, Nat.ofDigitChars_replicate_zero, Nat.mul_zero]

/-- A zero in front of digits changes nothing. -/
@[simp] theorem digitsValue_zero_cons (digits : List Char) :
    digitsValue ('0' :: digits) = digitsValue digits :=
  digitsValue_zeros_append 1 digits

/-- Zeros behind digits multiply by powers of ten. -/
theorem digitsValue_append_zeros (digits : List Char) (count : ℕ) :
    digitsValue (digits ++ List.replicate count '0') = digitsValue digits * 10 ^ count := by
  have hzeros : digitsValue (List.replicate count '0') = 0 := by
    have hvalue := digitsValue_zeros_append count []
    rwa [List.append_nil, digitsValue_nil] at hvalue
  rw [digitsValue_append, hzeros, List.length_replicate, Nat.add_zero]

/-- A digit is worth at most nine. -/
theorem digit_le_nine {character : Char} (hdigit : character.isDigit = true) :
    character.toNat - 48 ≤ 9 := by
  rw [Char.isDigit, Bool.and_eq_true, decide_eq_true_eq, decide_eq_true_eq] at hdigit
  have hvalue : character.toNat ≤ 57 := UInt32.le_iff_toNat_le.mp hdigit.2
  omega

/-- Digits stand for a number below the power of ten of their length. -/
theorem AllDigits.digitsValue_lt {digits : List Char} (hdigits : AllDigits digits) :
    digitsValue digits < 10 ^ digits.length := by
  induction digits with
  | nil => exact Nat.one_pos
  | cons character rest ih =>
    rw [allDigits_cons] at hdigits
    have hhead : digitsValue [character] = character.toNat - 48 := by
      rw [digitsValue, Nat.ofDigitChars_cons, Nat.ofDigitChars_nil, Nat.mul_zero, Nat.zero_add]
      rfl
    have hnine := digit_le_nine hdigits.1
    have hrest := ih hdigits.2
    have hscaled : digitsValue [character] * 10 ^ rest.length ≤ 9 * 10 ^ rest.length :=
      Nat.mul_le_mul_right _ (hhead ▸ hnine)
    rw [← List.singleton_append, digitsValue_append, List.singleton_append, List.length_cons,
      pow_succ]
    omega

/-- The digits without the zeros at their end, `str::trim_end_matches('0')`. -/
def trimZeros (digits : List Char) : List Char := digits.rdropWhile (· == '0')

/-- What is trimmed from the end is zeros. -/
theorem trimZeros_spec (digits : List Char) :
    ∃ count, digits = trimZeros digits ++ List.replicate count '0' := by
  refine ⟨(digits.rtakeWhile (· == '0')).length, ?_⟩
  have hzeros : digits.rtakeWhile (· == '0') =
      List.replicate (digits.rtakeWhile (· == '0')).length '0' := by
    rw [List.eq_replicate_iff]
    refine ⟨rfl, fun character hmem ↦ ?_⟩
    exact beq_iff_eq.mp (List.mem_rtakeWhile_imp (p := (· == '0')) hmem)
  rw [← hzeros]
  exact List.rdropWhile_append_rtakeWhile.symm

/-! ### Parsing an unsigned number -/

/-- The text without a plus sign at its front. -/
def withoutPlus : List Char → List Char
  | '+' :: rest => rest
  | text => text

/-- A text is what is left of it, or that behind a plus sign. -/
theorem withoutPlus_cases (text : List Char) :
    text = withoutPlus text ∨ text = '+' :: withoutPlus text := by
  unfold withoutPlus
  split
  · exact .inr rfl
  · exact .inl rfl

/-- Digits have no plus sign at their front. -/
theorem AllDigits.withoutPlus_eq {digits : List Char} (hdigits : AllDigits digits) :
    withoutPlus digits = digits := by
  unfold withoutPlus
  split
  · exact absurd List.mem_cons_self (hdigits.not_mem rfl)
  · rfl

/-- `str::parse` for an unsigned type whose values are below the bound: digits, of which there is at
least one, behind at most one plus sign. -/
def parseUnsigned (bound : ℕ) (text : List Char) : Option ℕ :=
  if withoutPlus text ≠ [] ∧ AllDigits (withoutPlus text) ∧
      digitsValue (withoutPlus text) < bound then
    some (digitsValue (withoutPlus text))
  else none

/-- What the parser accepts, and with which value. -/
theorem parseUnsigned_eq_some_iff {bound value : ℕ} {text : List Char} :
    parseUnsigned bound text = some value ↔ ∃ digits, (text = digits ∨ text = '+' :: digits) ∧
      digits ≠ [] ∧ AllDigits digits ∧ value = digitsValue digits ∧ value < bound := by
  have haccepts : ∀ digits, withoutPlus text = digits → (parseUnsigned bound text = some value ↔
      digits ≠ [] ∧ AllDigits digits ∧ value = digitsValue digits ∧ value < bound) := by
    rintro digits rfl
    unfold parseUnsigned
    constructor
    · intro hparse
      split_ifs at hparse with htext
      obtain rfl := Option.some_inj.mp hparse
      exact ⟨htext.1, htext.2.1, rfl, htext.2.2⟩
    · rintro ⟨hne, hdigits, rfl, hbound⟩
      exact if_pos ⟨hne, hdigits, hbound⟩
  constructor
  · intro hparse
    exact ⟨withoutPlus text, withoutPlus_cases text, (haccepts _ rfl).mp hparse⟩
  · rintro ⟨digits, hspelled, hparsed⟩
    refine (haccepts digits ?_).mpr hparsed
    rcases hspelled with rfl | rfl
    · exact hparsed.2.1.withoutPlus_eq
    · rfl

/-! ### Numerals -/

/-- The text is a whole part and a fraction in decimal digits, at least one of them and at most
`places` behind the point, which is left out where there is no fraction. -/
structure IsNumeral (places : ℕ) (text whole fraction : List Char) : Prop where
  spelled : (text = whole ∧ fraction = []) ∨ text = whole ++ '.' :: fraction
  wholeDigits : AllDigits whole
  fractionDigits : AllDigits fraction
  nonempty : whole ++ fraction ≠ []
  precision : fraction.length ≤ places

/-- The number that a whole part and a fraction denote. -/
def decimalValue (whole fraction : List Char) : ℚ :=
  digitsValue whole + digitsValue fraction / 10 ^ fraction.length

/-- The number in units of which there are `10 ^ places` to one. -/
def scaledValue (places : ℕ) (whole fraction : List Char) : ℕ :=
  digitsValue whole * 10 ^ places + digitsValue fraction * 10 ^ (places - fraction.length)

/-- The scaled value is the exact value in its units. -/
theorem cast_scaledValue {places : ℕ} {whole fraction : List Char}
    (hplaces : fraction.length ≤ places) :
    (scaledValue places whole fraction : ℚ) = decimalValue whole fraction * 10 ^ places := by
  have hpow : (10 : ℚ) ^ places = 10 ^ fraction.length * 10 ^ (places - fraction.length) := by
    rw [← pow_add, Nat.add_sub_cancel' hplaces]
  have hne : (10 : ℚ) ^ fraction.length ≠ 0 := pow_ne_zero _ (by norm_num)
  unfold scaledValue decimalValue
  push_cast
  rw [hpow]
  field_simp

/-- A numeral is read in one way only. -/
theorem IsNumeral.unique {places : ℕ} {text whole fraction otherWhole otherFraction : List Char}
    (hnumeral : IsNumeral places text whole fraction)
    (hother : IsNumeral places text otherWhole otherFraction) :
    whole = otherWhole ∧ fraction = otherFraction := by
  have hpoint : ('.' : Char).isDigit = false := rfl
  rcases hnumeral.spelled with ⟨rfl, rfl⟩ | rfl
  · rcases hother.spelled with ⟨hsame, rfl⟩ | hsame
    · exact ⟨hsame, rfl⟩
    · have hmem : '.' ∈ text := hsame ▸ List.mem_append_right _ List.mem_cons_self
      exact absurd hmem (hnumeral.wholeDigits.not_mem hpoint)
  · rcases hother.spelled with ⟨hsame, rfl⟩ | hsame
    · have hmem : '.' ∈ otherWhole := hsame ▸ List.mem_append_right _ List.mem_cons_self
      exact absurd hmem (hother.wholeDigits.not_mem hpoint)
    · have hparts := congrArg (List.splitOn '.') hsame
      rw [List.splitOn_append_cons_self_of_not_mem (hnumeral.wholeDigits.not_mem hpoint),
        List.splitOn_append_cons_self_of_not_mem (hother.wholeDigits.not_mem hpoint),
        List.splitOn_eq_singleton (hnumeral.fractionDigits.not_mem hpoint),
        List.splitOn_eq_singleton (hother.fractionDigits.not_mem hpoint)] at hparts
      simpa using hparts

/-- A numeral has no other characters than digits and the point. -/
theorem IsNumeral.not_mem {places : ℕ} {text whole fraction : List Char}
    (hnumeral : IsNumeral places text whole fraction) {character : Char}
    (hother : character.isDigit = false) (hpoint : character ≠ '.') : character ∉ text := by
  rcases hnumeral.spelled with ⟨rfl, -⟩ | rfl
  · exact hnumeral.wholeDigits.not_mem hother
  · rw [List.mem_append, List.mem_cons, not_or, not_or]
    exact ⟨hnumeral.wholeDigits.not_mem hother, hpoint, hnumeral.fractionDigits.not_mem hother⟩

/-- The lone point is no numeral. -/
theorem not_isNumeral_point {places : ℕ} {whole fraction : List Char} :
    ¬ IsNumeral places ['.'] whole fraction := by
  intro hnumeral
  rcases hnumeral.spelled with ⟨rfl, -⟩ | htext
  · have hpoint : ('.' : Char).isDigit = false := rfl
    exact absurd List.mem_cons_self (hnumeral.wholeDigits.not_mem hpoint)
  · have hlength := congrArg List.length htext
    rw [List.length_singleton, List.length_append, List.length_cons] at hlength
    refine hnumeral.nonempty (List.append_eq_nil_iff.mpr ⟨?_, ?_⟩)
    · exact List.eq_nil_of_length_eq_zero (by omega)
    · exact List.eq_nil_of_length_eq_zero (by omega)

/-! ### Bytes and characters -/

/-- `str::len`: the number of bytes. -/
def byteLength (text : List Char) : ℕ := (text.map Char.utf8Size).sum

/-- The slice of the first bytes of a text, which is a panic where no character ends. -/
def takeBytes : ℕ → List Char → Option (List Char)
  | 0, _ => some []
  | _ + 1, [] => none
  | count + 1, character :: rest =>
    if character.utf8Size ≤ count + 1 then
      (takeBytes (count + 1 - character.utf8Size) rest).map (character :: ·)
    else none

/-- The slice of a text from a byte on, which is a panic where no character ends. -/
def dropBytes : ℕ → List Char → Option (List Char)
  | 0, text => some text
  | _ + 1, [] => none
  | count + 1, character :: rest =>
    if character.utf8Size ≤ count + 1 then dropBytes (count + 1 - character.utf8Size) rest
    else none

/-- `str::find`: the index of the first byte of the first character that passes the test. -/
def findByte (test : Char → Bool) (text : List Char) : Option ℕ :=
  if text.any test then some (byteLength (text.takeWhile fun character ↦ !test character))
  else none

@[simp] theorem byteLength_nil : byteLength [] = 0 := rfl

@[simp] theorem byteLength_cons (character : Char) (rest : List Char) :
    byteLength (character :: rest) = character.utf8Size + byteLength rest := by
  rw [byteLength, List.map_cons, List.sum_cons]
  rfl

/-- A text has at least as many bytes as characters. -/
theorem length_le_byteLength (text : List Char) : text.length ≤ byteLength text := by
  induction text with
  | nil => exact le_refl 0
  | cons character rest ih =>
    have hpositive := character.utf8Size_pos
    rw [List.length_cons, byteLength_cons]
    omega

/-- A digit is one byte. -/
theorem utf8Size_of_isDigit {character : Char} (hdigit : character.isDigit = true) :
    character.utf8Size = 1 := by
  rw [Char.isDigit, Bool.and_eq_true, decide_eq_true_eq, decide_eq_true_eq] at hdigit
  unfold Char.utf8Size
  exact if_pos (UInt32.le_trans hdigit.2 (by decide))

/-- Digits are as many bytes as characters. -/
theorem AllDigits.byteLength_eq {digits : List Char} (hdigits : AllDigits digits) :
    byteLength digits = digits.length := by
  induction digits with
  | nil => rfl
  | cons character rest ih =>
    rw [allDigits_cons] at hdigits
    rw [byteLength_cons, utf8Size_of_isDigit hdigits.1, ih hdigits.2, List.length_cons,
      Nat.add_comm]

/-- The first bytes of a text of zeros. -/
theorem takeBytes_zeros {count available : ℕ} (henough : count ≤ available) :
    takeBytes count (List.replicate available '0') = some (List.replicate count '0') := by
  induction count generalizing available with
  | zero => rw [takeBytes, List.replicate_zero]
  | succ count ih =>
    cases available with
    | zero => omega
    | succ available =>
      have hsize : ('0' : Char).utf8Size = 1 := rfl
      rw [List.replicate_succ, takeBytes, hsize, if_pos (by omega), Nat.add_sub_cancel,
        ih (by omega)]
      rfl

/-- The first bytes of a text with zeros behind it, where the text itself is no longer than that:
the text and as many zeros as are left. -/
theorem takeBytes_append_zeros {count available : ℕ} {text : List Char}
    (hshort : byteLength text ≤ count) (henough : count - byteLength text ≤ available) :
    takeBytes count (text ++ List.replicate available '0') =
      some (text ++ List.replicate (count - byteLength text) '0') := by
  induction text generalizing count with
  | nil => exact takeBytes_zeros henough
  | cons character rest ih =>
    rw [byteLength_cons] at hshort henough
    have hpositive := character.utf8Size_pos
    cases count with
    | zero => omega
    | succ count =>
      rw [List.cons_append, takeBytes, if_pos (by omega), ih (by omega) (by omega), byteLength_cons,
        Nat.sub_sub]
      rfl

/-- The bytes of two texts add up. -/
theorem byteLength_append (front behind : List Char) :
    byteLength (front ++ behind) = byteLength front + byteLength behind := by
  rw [byteLength, List.map_append, List.sum_append]
  rfl

/-- A character behind others that do not pass the test is found at their bytes. -/
theorem findByte_append_cons {test : Char → Bool} {front : List Char} {character : Char}
    (hcharacter : test character = true) (hfront : ∀ other ∈ front, test other = false)
    (behind : List Char) :
    findByte test (front ++ character :: behind) = some (byteLength front) := by
  have hany : (front ++ character :: behind).any test = true :=
    List.any_eq_true.mpr ⟨character, List.mem_append_right _ List.mem_cons_self, hcharacter⟩
  rw [findByte, if_pos hany, List.takeWhile_append_of_pos, List.takeWhile_cons_of_neg,
    List.append_nil]
  · rw [hcharacter]
    exact Bool.false_ne_true
  · intro other hother
    rw [hfront other hother]
    rfl

/-- Where no character passes the test none is found. -/
theorem findByte_eq_none {test : Char → Bool} {text : List Char}
    (hnone : ∀ character ∈ text, test character = false) : findByte test text = none := by
  rw [findByte, List.any_eq_false.mpr fun character hcharacter ↦
    ne_true_of_eq_false (hnone character hcharacter), if_neg Bool.false_ne_true]

/-- The first bytes of a text are its first character and the bytes behind it. -/
theorem takeBytes_cons (character : Char) (count : ℕ) (rest : List Char) :
    takeBytes (character.utf8Size + count) (character :: rest) =
      (takeBytes count rest).map (character :: ·) := by
  obtain ⟨before, hbefore⟩ := Nat.exists_eq_succ_of_ne_zero (Nat.ne_of_gt character.utf8Size_pos)
  have hsize : character.utf8Size + count = before + count + 1 := by omega
  have hrest : before + count + 1 - character.utf8Size = count := by omega
  rw [hsize, takeBytes, if_pos (by omega), hrest]

/-- A text from a byte on is what is left of it behind its first character. -/
theorem dropBytes_cons (character : Char) (count : ℕ) (rest : List Char) :
    dropBytes (character.utf8Size + count) (character :: rest) = dropBytes count rest := by
  obtain ⟨before, hbefore⟩ := Nat.exists_eq_succ_of_ne_zero (Nat.ne_of_gt character.utf8Size_pos)
  have hsize : character.utf8Size + count = before + count + 1 := by omega
  have hrest : before + count + 1 - character.utf8Size = count := by omega
  rw [hsize, dropBytes, if_pos (by omega), hrest]

/-- The bytes of a front part are that part. -/
theorem takeBytes_append (front behind : List Char) :
    takeBytes (byteLength front) (front ++ behind) = some front := by
  induction front with
  | nil => rw [byteLength_nil, takeBytes]
  | cons character front ih =>
    rw [byteLength_cons, List.cons_append, takeBytes_cons, ih]
    rfl

/-- Behind the bytes of a front part is the rest. -/
theorem dropBytes_append (front behind : List Char) :
    dropBytes (byteLength front) (front ++ behind) = some behind := by
  induction front with
  | nil => rw [byteLength_nil, List.nil_append, dropBytes]
  | cons character front ih => rw [byteLength_cons, List.cons_append, dropBytes_cons, ih]

end Library.Decimals
