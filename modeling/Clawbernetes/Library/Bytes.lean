import Mathlib.Algebra.Order.Ring.Nat
import Mathlib.Tactic.Common

/-!
# Byte strings of fixed-width numbers

The little-endian bytes of a natural number or of a signed number at a fixed width, and the UTF-8
bytes of a text. A fixed-width number is read back from the front of a byte string
(`leBytes_append_inj`, `leBytesInt_append_inj`), while texts that follow each other without lengths
are not: only the lengths of the parts make a concatenation readable (`flatMap_append_inj`). Parts
of one fixed width need no count before a rest of known length
(`flatMap_append_view_inj_of_width`). Two texts joined with a separator are read back when the first
one does not have it (`splitOnce_join`).
-/

set_option autoImplicit false
set_option relaxedAutoImplicit false

namespace Library.Bytes

/-- The little-endian bytes of a number, cut to a width. -/
def leBytes : ℕ → ℕ → List UInt8
  | 0, _ => []
  | width + 1, value => UInt8.ofNat (value % 256) :: leBytes width (value / 256)

/-- The bytes of a number have the chosen width. -/
@[simp] theorem length_leBytes (width value : ℕ) : (leBytes width value).length = width := by
  induction width generalizing value with
  | zero => rfl
  | succ width ih => rw [leBytes, List.length_cons, ih]

/-- Sixteen equal bytes. -/
theorem length_replicate_16 (byte : UInt8) : (List.replicate 16 byte).length = 16 :=
  List.length_replicate

/-- Thirty-two equal bytes. -/
theorem length_replicate_32 (byte : UInt8) : (List.replicate 32 byte).length = 32 :=
  List.length_replicate

/-- Sixty-four zeros. -/
theorem length_zeros_64 : (List.replicate 64 (0 : UInt8)).length = 64 := List.length_replicate

/-- A number below the range of the width is determined by its bytes. -/
theorem leBytes_inj {width first second : ℕ} (hfirst : first < 256 ^ width)
    (hsecond : second < 256 ^ width) (hbytes : leBytes width first = leBytes width second) :
    first = second := by
  induction width generalizing first second with
  | zero =>
    rw [pow_zero, Nat.lt_one_iff] at hfirst hsecond
    rw [hfirst, hsecond]
  | succ width ih =>
    rw [leBytes, leBytes, List.cons.injEq] at hbytes
    obtain ⟨hlow, hhigh⟩ := hbytes
    have hmod : first % 256 = second % 256 := by
      have htoNat := congrArg UInt8.toNat hlow
      simpa using htoNat
    have hdiv : first / 256 = second / 256 := by
      refine ih ?_ ?_ hhigh
      · rw [pow_succ] at hfirst
        omega
      · rw [pow_succ] at hsecond
        omega
    omega

/-- The bytes of a number are read back from the front of a byte string. -/
theorem leBytes_append_inj {width first second : ℕ} {firstRest secondRest : List UInt8}
    (hfirst : first < 256 ^ width) (hsecond : second < 256 ^ width)
    (hbytes : leBytes width first ++ firstRest = leBytes width second ++ secondRest) :
    first = second ∧ firstRest = secondRest := by
  obtain ⟨hnumber, hrest⟩ := List.append_inj hbytes (by simp)
  exact ⟨leBytes_inj hfirst hsecond hnumber, hrest⟩

/-- What lies above the width is not seen in the bytes. -/
theorem leBytes_mod (width value : ℕ) :
    leBytes width (value % 256 ^ width) = leBytes width value := by
  induction width generalizing value with
  | zero => rfl
  | succ width ih =>
    have hlow : value % 256 ^ (width + 1) % 256 = value % 256 :=
      Nat.mod_mod_of_dvd value (dvd_pow_self 256 (Nat.succ_ne_zero width))
    have hhigh : value % 256 ^ (width + 1) / 256 = value / 256 % 256 ^ width := by
      rw [pow_succ', Nat.mod_mul_right_div_self]
    rw [leBytes, leBytes, hlow, hhigh, ih]

/-- The last byte of a number is what the others leave of it. -/
theorem leBytes_succ_last (width value : ℕ) :
    leBytes (width + 1) value =
      leBytes width value ++ [UInt8.ofNat (value / 256 ^ width % 256)] := by
  induction width generalizing value with
  | zero => rw [pow_zero, Nat.div_one]; rfl
  | succ width ih =>
    rw [leBytes, ih, leBytes, List.cons_append, Nat.div_div_eq_div_mul, ← pow_succ']

/-- The little-endian bytes of a signed number in two's complement, cut to a width. -/
def leBytesInt (width : ℕ) (value : ℤ) : List UInt8 :=
  leBytes width (value % 256 ^ width).toNat

/-- The bytes of a signed number have the chosen width. -/
@[simp] theorem length_leBytesInt (width : ℕ) (value : ℤ) :
    (leBytesInt width value).length = width :=
  length_leBytes width _

/-- Two signed numbers of 64 bits are read back from the front of a byte string. -/
theorem leBytesInt_append_inj {first second : ℤ} {firstRest secondRest : List UInt8}
    (hfirst : -2 ^ 63 ≤ first ∧ first < 2 ^ 63) (hsecond : -2 ^ 63 ≤ second ∧ second < 2 ^ 63)
    (hbytes : leBytesInt 8 first ++ firstRest = leBytesInt 8 second ++ secondRest) :
    first = second ∧ firstRest = secondRest := by
  obtain ⟨hword, hrest⟩ := leBytes_append_inj (by omega) (by omega) hbytes
  have hpow : (256 : ℤ) ^ 8 = 2 ^ 64 := by decide
  rw [hpow] at hword
  exact ⟨by omega, hrest⟩

/-- The UTF-8 bytes of a text. -/
def utf8Bytes (text : String) : List UInt8 :=
  text.toUTF8.data.toList

/-- A text is determined by its bytes. -/
theorem utf8Bytes_inj {first second : String} (hbytes : utf8Bytes first = utf8Bytes second) :
    first = second := by
  have hdata : first.toUTF8.data = second.toUTF8.data := Array.toList_inj.mp hbytes
  exact String.toByteArray_inj.mp (ByteArray.ext hdata)

/-- The bytes of a text that is written behind another follow its bytes. -/
@[simp] theorem utf8Bytes_append (first second : String) :
    utf8Bytes (first ++ second) = utf8Bytes first ++ utf8Bytes second := by
  unfold utf8Bytes
  rw [String.toUTF8_eq_toByteArray, String.toByteArray_append]
  simp

/-- The text of one character of the ASCII range is one byte, its code. -/
theorem utf8Bytes_singleton {letter : Char} (hascii : letter.toNat < 128) :
    utf8Bytes (String.singleton letter) = [UInt8.ofNat letter.toNat] := by
  have hencode : String.utf8EncodeChar letter = [UInt8.ofNat letter.toNat] := by
    unfold String.utf8EncodeChar
    exact if_pos (by change letter.toNat ≤ 127; omega)
  unfold utf8Bytes
  rw [String.toUTF8_eq_toByteArray, String.toByteArray_singleton, List.utf8Encode_singleton,
    hencode]
  rfl

/-- The byte of the ASCII range that is the text of its character. -/
theorem utf8Bytes_singleton_ofNat {code : ℕ} (hascii : code < 128) :
    utf8Bytes (String.singleton (Char.ofNat code)) = [UInt8.ofNat code] := by
  have hcode : (Char.ofNat code).toNat = code := by
    rw [Char.ofNat, dif_pos (Or.inl (by omega))]
    rfl
  rw [utf8Bytes_singleton (by rw [hcode]; exact hascii), hcode]

/-- A natural number is determined by its decimal text. -/
theorem decimal_inj {first second : ℕ} (htext : toString first = toString second) :
    first = second := by
  have hdigits : Nat.toDigits 10 first = Nat.toDigits 10 second := by
    rw [← Nat.toList_repr, ← Nat.toList_repr]
    exact congrArg String.toList htext
  calc first = Nat.ofDigitChars 10 (Nat.toDigits 10 first) 0 := Nat.ofDigitChars_ten_toDigits.symm
    _ = second := by rw [hdigits, Nat.ofDigitChars_ten_toDigits]

/-- A decimal text consists of digits. -/
theorem isDigit_of_mem_decimal {number : ℕ} {character : Char}
    (hmem : character ∈ (toString number).toList) : character.isDigit := by
  have hdigits : (toString number).toList = Nat.toDigits 10 number := Nat.toList_repr
  rw [hdigits] at hmem
  exact Nat.isDigit_of_mem_toDigits (by decide) (le_refl 10) hmem

/-- A character that is no digit is in no decimal text. -/
theorem not_mem_decimal {character : Char} (hdigit : character.isDigit = false) (number : ℕ) :
    character ∉ (toString number).toList :=
  fun hmem ↦ absurd (isDigit_of_mem_decimal hmem) (by simp [hdigit])

/-- `str::split_once` at a character: the text before its first occurrence and the text behind
it. -/
def splitOnce (separator : Char) (text : String) : Option (String × String) :=
  if separator ∈ text.toList then
    some (String.ofList (text.toList.takeWhile (· ≠ separator)),
      String.ofList ((text.toList.dropWhile (· ≠ separator)).drop 1))
  else none

/-- What two texts are joined from is read back when the first one does not have the separator. -/
theorem splitOnce_join {separator : Char} {first : String} (hfirst : separator ∉ first.toList)
    (second : String) :
    splitOnce separator (first ++ String.singleton separator ++ second) = some (first, second) := by
  have htext : (first ++ String.singleton separator ++ second).toList =
      first.toList ++ separator :: second.toList := by
    rw [String.toList_append, String.toList_append, String.toList_singleton, List.append_assoc]
    rfl
  have hbefore : ∀ character ∈ first.toList, (decide (character ≠ separator)) = true := by
    intro character hcharacter
    exact decide_eq_true fun hsame ↦ hfirst (hsame ▸ hcharacter)
  unfold splitOnce
  rw [htext, if_pos (List.mem_append_right _ List.mem_cons_self),
    List.takeWhile_append_of_pos hbefore, List.dropWhile_append_of_pos hbefore]
  simp

/-- Joined texts are equal only when their parts are. -/
theorem join_inj {separator : Char} {first other : String} (hfirst : separator ∉ first.toList)
    (hother : separator ∉ other.toList) {second last : String}
    (hjoin : first ++ String.singleton separator ++ second =
      other ++ String.singleton separator ++ last) : first = other ∧ second = last := by
  have hsplit := splitOnce_join hfirst second
  rw [hjoin, splitOnce_join hother last] at hsplit
  simpa [eq_comm] using hsplit

/-- Concatenations of the same number of parts are equal, with the same rest behind them, only when
the parts agree in what their bytes determine of them, provided that corresponding parts have
corresponding lengths. -/
theorem flatMap_append_view_inj {Part View : Type*} (encode : Part → List UInt8)
    (view : Part → View) {firstRest secondRest : List UInt8}
    (hencode : ∀ first second, encode first = encode second → view first = view second) :
    ∀ {firsts seconds : List Part},
      firsts.map (fun part ↦ (encode part).length) = seconds.map (fun part ↦ (encode part).length) →
      firsts.flatMap encode ++ firstRest = seconds.flatMap encode ++ secondRest →
        firsts.map view = seconds.map view ∧ firstRest = secondRest := by
  intro firsts
  induction firsts with
  | nil =>
    intro seconds hlengths hbytes
    obtain rfl : seconds = [] := List.map_eq_nil_iff.mp hlengths.symm
    exact ⟨rfl, hbytes⟩
  | cons first firsts ih =>
    intro seconds hlengths hbytes
    cases seconds with
    | nil => cases hlengths
    | cons second seconds =>
      rw [List.map_cons, List.map_cons, List.cons.injEq] at hlengths
      rw [List.flatMap_cons, List.flatMap_cons, List.append_assoc, List.append_assoc] at hbytes
      obtain ⟨hhead, htail⟩ := List.append_inj hbytes hlengths.1
      obtain ⟨hrest, hbehind⟩ := ih hlengths.2 htail
      exact ⟨by rw [List.map_cons, List.map_cons, hencode first second hhead, hrest], hbehind⟩

/-- Concatenations of the same number of parts are equal, with the same rest behind them, only when
the parts are, provided that corresponding parts have corresponding lengths. -/
theorem flatMap_append_inj {Part : Type*} (encode : Part → List UInt8) {firstRest secondRest :
    List UInt8} (hencode : ∀ first second, encode first = encode second → first = second)
    {firsts seconds : List Part} (hlengths : firsts.map (fun part ↦ (encode part).length) =
      seconds.map (fun part ↦ (encode part).length))
    (hbytes : firsts.flatMap encode ++ firstRest = seconds.flatMap encode ++ secondRest) :
    firsts = seconds ∧ firstRest = secondRest := by
  simpa using flatMap_append_view_inj encode id hencode hlengths hbytes

/-- The length of a concatenation of parts of one width. -/
theorem length_flatMap_of_width {Part : Type*} (encode : Part → List UInt8) {width : ℕ}
    (hwidth : ∀ part, (encode part).length = width) (parts : List Part) :
    (parts.flatMap encode).length = parts.length * width := by
  induction parts with
  | nil => rw [List.flatMap_nil, List.length_nil, List.length_nil, Nat.zero_mul]
  | cons part parts ih =>
    rw [List.flatMap_cons, List.length_append, hwidth, ih, List.length_cons, Nat.succ_mul,
      Nat.add_comm]

/-- Parts of one width that are followed by rests of one length need no count: equal concatenations
have equal rests, and parts that agree in what their bytes determine of them. -/
theorem flatMap_append_view_inj_of_width {Part View : Type*} (encode : Part → List UInt8)
    (view : Part → View) {width : ℕ} {firstRest secondRest : List UInt8}
    {firsts seconds : List Part} (hpositive : 0 < width)
    (hwidth : ∀ part, (encode part).length = width)
    (hencode : ∀ first second, encode first = encode second → view first = view second)
    (hrests : firstRest.length = secondRest.length)
    (hbytes : firsts.flatMap encode ++ firstRest = seconds.flatMap encode ++ secondRest) :
    firsts.map view = seconds.map view ∧ firstRest = secondRest := by
  have hcount : firsts.length = seconds.length := by
    have hlengths := congrArg List.length hbytes
    rw [List.length_append, List.length_append, length_flatMap_of_width encode hwidth,
      length_flatMap_of_width encode hwidth, hrests] at hlengths
    exact Nat.eq_of_mul_eq_mul_right hpositive (by omega)
  apply flatMap_append_view_inj encode view hencode _ hbytes
  rw [funext hwidth, List.map_const', List.map_const', hcount]

end Library.Bytes
