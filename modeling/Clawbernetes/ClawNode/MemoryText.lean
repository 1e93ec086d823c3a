import Clawbernetes.ClawProto.Selector
import Clawbernetes.Library.CheckedWords
import Clawbernetes.Library.TextSearch

/-!
# Memory sizes as texts

`parse_memory_string` of `commands.rs` reads the memory limit of a workload: a number with one of
the units `g`, `m` and `k`, or their two-letter forms, or with none. `str::to_lowercase` is a
parameter. A failed read is not reported; the workload then runs without a limit.

The number is read by the parser of the standard library, which takes a plus sign, and multiplied by
1024 up to three times without a check. `parses_exactly_iff` says for which texts the result is the
exact product in every build.
-/

set_option autoImplicit false
set_option relaxedAutoImplicit false

namespace Clawbernetes.ClawNode.MemoryText

open Library.CheckedWords Library.Decimals Library.TextSearch
open ClawProto.GpuSelector (trim)

/-- The units that end in a letter, in the order of the branches, with the power of 1024 that each
stands for. -/
def memoryUnits : List (List Char × ℕ) :=
  [(['g'], 3), (['g', 'b'], 3), (['m'], 2), (['m', 'b'], 2), (['k'], 1), (['k', 'b'], 1)]

/-- What is left of a text without the first unit that it ends in, and the power of the unit. -/
def splitUnit (text : List Char) : List Char × ℕ :=
  (memoryUnits.findSome? fun unit ↦ (text.dropSuffix? unit.1).map (·, unit.2)).getD (text, 0)

/-- `parse_memory_string`, which is `none` when it panics. -/
def parseMemoryString (overflowChecks : Bool) (toLowercase : List Char → List Char)
    (text : List Char) : Option (Option (BitVec 64)) :=
  let (number, power) := splitUnit (toLowercase (trim text))
  match parseUnsigned (2 ^ 64) number with
  | none => some none
  | some value => (scale overflowChecks 1024 power (.ofNat 64 value)).map some

/-! ### Splitting off the unit -/

/-- A suffix is stripped exactly from the texts that end in it. -/
theorem dropSuffix_eq_some_iff {text suffix number : List Char} :
    text.dropSuffix? suffix = some number ↔ text = number ++ suffix := by
  simp [List.dropSuffix?_eq_some_iff]

/-- The units, and no unit. -/
def allUnits : List (List Char × ℕ) := memoryUnits ++ [([], 0)]

/-- No unit has a digit in it. -/
theorem not_digit_of_mem_allUnits :
    ∀ unit ∈ allUnits, ∀ letter ∈ unit.1, letter.isDigit = false := by
  intro unit hunit
  apply forall_mem_of_all
  revert unit
  decide

/-- No unit is the end of another one, except for none. -/
theorem eq_of_suffix_unit : ∀ first ∈ allUnits, ∀ second ∈ allUnits,
    first.1 <:+ second.1 → first.1 = [] ∨ first.1 = second.1 := by
  decide

/-- A unit stands for one power. -/
theorem power_eq_of_unit_eq : ∀ first ∈ allUnits, ∀ second ∈ allUnits,
    first.1 = second.1 → first.2 = second.2 := by
  decide

/-- A text is what is left of it with one of the units behind, and with none only if it does not end
in one. -/
theorem splitUnit_spec (text : List Char) :
    ∃ suffix, (suffix, (splitUnit text).2) ∈ allUnits ∧ text = (splitUnit text).1 ++ suffix ∧
      (suffix = [] → ∀ unit ∈ memoryUnits, ¬unit.1 <:+ text) := by
  unfold splitUnit
  cases hfound : memoryUnits.findSome? fun unit ↦ (text.dropSuffix? unit.1).map (·, unit.2) with
  | none =>
    refine ⟨[], List.mem_append_right _ List.mem_cons_self, (List.append_nil text).symm, ?_⟩
    rintro - unit hunit ⟨number, hnumber⟩
    have hnone := List.findSome?_eq_none_iff.mp hfound unit hunit
    rw [dropSuffix_eq_some_iff.mpr hnumber.symm] at hnone
    cases hnone
  | some split =>
    obtain ⟨unit, hunit, hsplit⟩ := List.exists_of_findSome?_eq_some hfound
    obtain ⟨number, hnumber, rfl⟩ := Option.map_eq_some_iff.mp hsplit
    refine ⟨unit.1, List.mem_append_left _ hunit, dropSuffix_eq_some_iff.mp hnumber, fun hnil ↦ ?_⟩
    have hsome : ∀ unit ∈ memoryUnits, unit.1 ≠ [] := by decide
    exact absurd hnil (hsome unit hunit)

/-- An end of a text without the digit before its last part is an end of that part. -/
theorem suffix_of_not_mem {front back suffix : List Char} {digit : Char} (hdigit : digit ∉ suffix)
    (hsuffix : suffix <:+ front ++ digit :: back) : suffix <:+ back := by
  rcases List.suffix_or_suffix_of_suffix hsuffix (List.suffix_append front (digit :: back)) with
    hwithin | hbeyond
  · rcases List.suffix_cons_iff.mp hwithin with rfl | hback
    · exact absurd List.mem_cons_self hdigit
    · exact hback
  · exact absurd (hbeyond.mem List.mem_cons_self) hdigit

/-- A number that ends in a digit is what is left of it with any unit behind. -/
theorem splitUnit_append {front : List Char} {digit : Char} (hdigit : digit.isDigit = true)
    {suffix : List Char} {power : ℕ} (hunit : (suffix, power) ∈ allUnits) :
    splitUnit ((front ++ [digit]) ++ suffix) = (front ++ [digit], power) := by
  obtain ⟨found, hfound, htext, hnone⟩ := splitUnit_spec ((front ++ [digit]) ++ suffix)
  have hfresh : digit ∉ found := by
    intro hmem
    rw [not_digit_of_mem_allUnits _ hfound digit hmem] at hdigit
    cases hdigit
  have hends : found <:+ front ++ digit :: suffix :=
    ⟨_, by rw [← htext, List.append_assoc, List.singleton_append]⟩
  have hsame : found = suffix := by
    rcases eq_of_suffix_unit _ hfound _ hunit (suffix_of_not_mem hfresh hends) with hnil | hsame
    · rcases List.mem_append.mp hunit with hmemory | hempty
      · exact absurd (List.suffix_append _ suffix) (hnone hnil _ hmemory)
      · obtain ⟨rfl, -⟩ := Prod.mk.inj (List.mem_singleton.mp hempty)
        exact hnil
    · exact hsame
  subst hsame
  have hpower := power_eq_of_unit_eq _ hfound _ hunit rfl
  exact Prod.ext (List.append_cancel_right htext).symm hpower

/-! ### What is parsed -/

/-- A text is decimal digits with a unit behind, and an amount of bytes below 2 ^ 64. -/
def IsMemoryAmount (text : List Char) (bytes : ℕ) : Prop :=
  ∃ digits suffix power, (suffix, power) ∈ allUnits ∧ text = digits ++ suffix ∧ digits ≠ [] ∧
    AllDigits digits ∧ bytes = digitsValue digits * 1024 ^ power ∧ bytes < 2 ^ 64

/-- Every build reads the trimmed and lower-cased text as the amount of bytes that it stands for, or
as none. -/
def ParsesExactly (toLowercase : List Char → List Char) (text : List Char) : Prop :=
  ∀ overflowChecks, ∃ result, parseMemoryString overflowChecks toLowercase text = some result ∧
    ∀ bytes, result.map BitVec.toNat = some bytes ↔
      IsMemoryAmount (toLowercase (trim text)) bytes

/-- A number that the parser takes is what is left of it with any unit behind. -/
theorem splitUnit_of_parse {number suffix : List Char} {power value : ℕ}
    (hvalue : parseUnsigned (2 ^ 64) number = some value) (hunit : (suffix, power) ∈ allUnits) :
    splitUnit (number ++ suffix) = (number, power) := by
  obtain ⟨digits, hspelled, hne, hdigits, -⟩ := parseUnsigned_eq_some_iff.mp hvalue
  obtain ⟨front, last, rfl⟩ := (List.eq_nil_or_concat' digits).resolve_left hne
  have hlast : last.isDigit = true := hdigits last (by simp)
  rcases hspelled with rfl | rfl
  · exact splitUnit_append hlast hunit
  · rw [← List.cons_append]
    exact splitUnit_append hlast hunit

/-- Digits that stand for less than the bound are parsed. -/
theorem parseUnsigned_of_digits {bound : ℕ} {digits : List Char} (hne : digits ≠ [])
    (hdigits : AllDigits digits) (hbound : digitsValue digits < bound) :
    parseUnsigned bound digits = some (digitsValue digits) :=
  parseUnsigned_eq_some_iff.mpr ⟨digits, .inl rfl, hne, hdigits, rfl, hbound⟩

/-- The digits and the power of an amount are what the text is split into, and the parser takes
them. -/
theorem IsMemoryAmount.split {text : List Char} {bytes : ℕ} (hamount : IsMemoryAmount text bytes) :
    AllDigits (splitUnit text).1 ∧
      parseUnsigned (2 ^ 64) (splitUnit text).1 = some (digitsValue (splitUnit text).1) ∧
      bytes = digitsValue (splitUnit text).1 * 1024 ^ (splitUnit text).2 := by
  obtain ⟨digits, suffix, power, hunit, rfl, hne, hdigits, rfl, hbound⟩ := hamount
  have hsmall : digitsValue digits < 2 ^ 64 :=
    lt_of_le_of_lt (Nat.le_mul_of_pos_right _ (Nat.pow_pos (by decide))) hbound
  have hparse := parseUnsigned_of_digits hne hdigits hsmall
  rw [splitUnit_of_parse hparse hunit]
  exact ⟨hdigits, hparse, rfl⟩

/-- The number that is left of a text without its unit, when it is a `u64`, has no plus sign and is
not too large for the unit. -/
def NumberFits (text : List Char) : Prop :=
  ∀ number suffix power value, (suffix, power) ∈ allUnits → text = number ++ suffix →
    parseUnsigned (2 ^ 64) number = some value →
      number.head? ≠ some '+' ∧ value * 1024 ^ power < 2 ^ 64

/-- A text is read as the amount of bytes that it stands for exactly when its number has no plus
sign and is not too large for its unit. -/
theorem parses_exactly_iff (toLowercase : List Char → List Char) (text : List Char) :
    ParsesExactly toLowercase text ↔ NumberFits (toLowercase (trim text)) := by
  unfold ParsesExactly parseMemoryString
  generalize toLowercase (trim text) = text
  constructor
  · rintro hexact number suffix power value hunit rfl hvalue
    obtain ⟨result, hresult, hamount⟩ := hexact true
    have hsplit := splitUnit_of_parse hvalue hunit
    simp only [hsplit, hvalue] at hresult
    obtain ⟨product, hproduct, rfl⟩ := Option.map_eq_some_iff.mp hresult
    have hbound : value < 2 ^ 64 := (parseUnsigned_eq_some_iff.mp hvalue).choose_spec.2.2.2.2
    have hfits : (BitVec.ofNat 64 value).toNat * 1024 ^ power < 2 ^ 64 :=
      lt_of_scale_eq_some hproduct
    rw [BitVec.toNat_ofNat, Nat.mod_eq_of_lt hbound] at hfits
    have hdigits := ((hamount product.toNat).mp rfl).split.1
    rw [hsplit] at hdigits
    refine ⟨fun hplus ↦ ?_, hfits⟩
    exact absurd (List.mem_of_head? hplus) (hdigits.not_mem rfl)
  · intro hfits overflowChecks
    obtain ⟨suffix, hunit, htext, -⟩ := splitUnit_spec text
    cases hvalue : parseUnsigned (2 ^ 64) (splitUnit text).1 with
    | none =>
      refine ⟨none, by simp only [hvalue], fun bytes ↦ ?_⟩
      refine iff_of_false (fun hbytes ↦ by cases hbytes) fun hamount ↦ ?_
      cases hvalue.symm.trans hamount.split.2.1
    | some value =>
      obtain ⟨hplus, hsmall⟩ := hfits _ suffix _ value hunit htext hvalue
      obtain ⟨digits, hspelled, hne, hdigits, rfl, hbound⟩ := parseUnsigned_eq_some_iff.mp hvalue
      have hnumber : (splitUnit text).1 = digits := by
        rcases hspelled with hplain | hsigned
        · exact hplain
        · rw [hsigned] at hplus
          exact absurd rfl hplus
      have hword : (BitVec.ofNat 64 (digitsValue digits)).toNat = digitsValue digits := by
        rw [BitVec.toNat_ofNat, Nat.mod_eq_of_lt hbound]
      have hscaled : (BitVec.ofNat 64 (digitsValue digits)).toNat *
          (1024 : BitVec 64).toNat ^ (splitUnit text).2 < 2 ^ 64 := by
        rw [hword]
        exact hsmall
      obtain ⟨product, hproduct, hexact⟩ := scale_of_lt overflowChecks (by decide) hscaled
      rw [hword] at hexact
      refine ⟨some product, by simp only [hvalue, hproduct, Option.map_some], fun bytes ↦ ?_⟩
      rw [Option.map_some, Option.some_inj, hexact]
      constructor
      · rintro rfl
        exact ⟨digits, suffix, _, hunit, hnumber ▸ htext, hne, hdigits, rfl, hsmall⟩
      · intro hamount
        have hbytes := hamount.split.2.2
        rw [hnumber] at hbytes
        exact hbytes.symm

/-- A number of gigabytes that is 2 ^ 64 bytes stops one build and is no limit in the other. -/
theorem gigabytes_overflow :
    parseMemoryString false (·.map Char.toLower) "17179869184g".toList = some (some 0) ∧
      ¬ParsesExactly (·.map Char.toLower) "17179869184g".toList := by
  refine ⟨by decide +kernel, fun hexact ↦ ?_⟩
  obtain ⟨result, hresult, -⟩ := hexact true
  have hpanics : parseMemoryString true (·.map Char.toLower) "17179869184g".toList = none := by
    decide +kernel
  rw [hpanics] at hresult
  cases hresult

end Clawbernetes.ClawNode.MemoryText
