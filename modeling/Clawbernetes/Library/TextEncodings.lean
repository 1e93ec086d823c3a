import Mathlib.Data.List.Basic
import Mathlib.Data.Nat.Notation

/-!
# Bytes as texts

Two encodings of byte strings as ASCII texts. In hexadecimal every byte is two digits. In base64, in
its alphabet for URLs and without padding, three bytes are four digits of six bits, and one or two
bytes left over are two or three digits, the last one filled up with zeros.

Base64 is decoded strictly: a text of an impossible length, with a foreign character or with a
filled-up digit that is not filled with zeros stands for nothing. What is encoded is decoded again
(`base64Decode_base64Encode`).

These are the documented functions of two crates: `hexEncode` is `hex::encode`, and `base64Encode`
and `base64Decode` are `encode` and `decode` of the engine `URL_SAFE_NO_PAD` of `base64`, without
the descriptions of its errors.
-/

set_option autoImplicit false
set_option relaxedAutoImplicit false

namespace Library.TextEncodings

/-! ### Hexadecimal -/

/-- The bytes in hexadecimal, in lower case. -/
def hexEncode (bytes : List UInt8) : String :=
  String.ofList (bytes.flatMap fun byte ↦
    [Nat.digitChar (byte.toNat / 16), Nat.digitChar (byte.toNat % 16)])

/-- Every character of a hexadecimal text is a digit. -/
theorem mem_hexEncode {bytes : List UInt8} {character : Char}
    (hmem : character ∈ (hexEncode bytes).toList) :
    ∃ digit < 16, character = Nat.digitChar digit := by
  rw [hexEncode, String.toList_ofList, List.mem_flatMap] at hmem
  obtain ⟨byte, -, hdigit⟩ := hmem
  have hbyte : byte.toNat < 256 := byte.toNat_lt
  rcases List.mem_pair.mp hdigit with rfl | rfl
  · exact ⟨byte.toNat / 16, by omega, rfl⟩
  · exact ⟨byte.toNat % 16, Nat.mod_lt _ (by omega), rfl⟩

/-! ### Base64 -/

/-- The alphabet for URLs. -/
def alphabet : List Char :=
  "ABCDEFGHIJKLMNOPQRSTUVWXYZabcdefghijklmnopqrstuvwxyz0123456789-_".toList

/-- The character of a digit. -/
def base64Char (digit : ℕ) : Char := alphabet[digit]?.getD 'A'

/-- The digit of a character. -/
def base64Digit (character : Char) : Option ℕ :=
  if character ∈ alphabet then some (alphabet.idxOf character) else none

/-- Every digit is read back from its character. -/
theorem base64Digit_base64Char : ∀ digit < 64, base64Digit (base64Char digit) = some digit := by
  decide

/-- The digits of the bytes. -/
def sextets : List UInt8 → List ℕ
  | [] => []
  | [a] => [a.toNat / 4, a.toNat % 4 * 16]
  | [a, b] => [a.toNat / 4, a.toNat % 4 * 16 + b.toNat / 16, b.toNat % 16 * 4]
  | a :: b :: c :: rest => a.toNat / 4 :: (a.toNat % 4 * 16 + b.toNat / 16) ::
      (b.toNat % 16 * 4 + c.toNat / 64) :: c.toNat % 64 :: sextets rest

/-- The bytes of the digits. -/
def octets : List ℕ → Option (List UInt8)
  | [] => some []
  | [_] => none
  | [s, t] => if t % 16 = 0 then some [.ofNat (s * 4 + t / 16)] else none
  | [s, t, u] =>
    if u % 4 = 0 then some [.ofNat (s * 4 + t / 16), .ofNat (t % 16 * 16 + u / 4)] else none
  | s :: t :: u :: v :: rest => (octets rest).map fun bytes ↦
      .ofNat (s * 4 + t / 16) :: .ofNat (t % 16 * 16 + u / 4) :: .ofNat (u % 4 * 64 + v) :: bytes

/-- The bytes in base64. -/
def base64Encode (bytes : List UInt8) : String :=
  String.ofList ((sextets bytes).map base64Char)

/-- What a base64 text stands for. -/
def base64Decode (text : String) : Option (List UInt8) :=
  (text.toList.mapM base64Digit).bind octets

/-- Every digit has six bits. -/
theorem sextets_lt (bytes : List UInt8) : ∀ digit ∈ sextets bytes, digit < 64 := by
  induction bytes using sextets.induct with
  | case1 => simp [sextets]
  | case2 a =>
    have ha : a.toNat < 256 := a.toNat_lt
    simp only [sextets, List.forall_mem_cons]
    exact ⟨by omega, by omega, List.forall_mem_nil _⟩
  | case3 a b =>
    have ha : a.toNat < 256 := a.toNat_lt
    have hb : b.toNat < 256 := b.toNat_lt
    simp only [sextets, List.forall_mem_cons]
    exact ⟨by omega, by omega, by omega, List.forall_mem_nil _⟩
  | case4 a b c rest ih =>
    have ha : a.toNat < 256 := a.toNat_lt
    have hb : b.toNat < 256 := b.toNat_lt
    have hc : c.toNat < 256 := c.toNat_lt
    simp only [sextets, List.forall_mem_cons]
    exact ⟨by omega, by omega, by omega, by omega, ih⟩

/-- A byte that is put together again. -/
theorem ofNat_eq {value : ℕ} (byte : UInt8) (hvalue : value = byte.toNat) :
    UInt8.ofNat value = byte := by
  rw [hvalue, UInt8.ofNat_toNat]

/-- The bytes are read back from their digits. -/
theorem octets_sextets (bytes : List UInt8) : octets (sextets bytes) = some bytes := by
  induction bytes using sextets.induct with
  | case1 => rfl
  | case2 a =>
    simp only [sextets, octets]
    rw [if_pos (by omega), ofNat_eq a (by omega)]
  | case3 a b =>
    have hb : b.toNat < 256 := b.toNat_lt
    simp only [sextets, octets]
    rw [if_pos (by omega), ofNat_eq a (by omega), ofNat_eq b (by omega)]
  | case4 a b c rest ih =>
    have hb : b.toNat < 256 := b.toNat_lt
    have hc : c.toNat < 256 := c.toNat_lt
    simp only [sextets, octets, ih, Option.map_some]
    rw [ofNat_eq a (by omega), ofNat_eq b (by omega),
      ofNat_eq c (by omega)]

/-- Digits are read back from their characters. -/
theorem mapM_base64Digit {digits : List ℕ} (hdigits : ∀ digit ∈ digits, digit < 64) :
    (digits.map base64Char).mapM base64Digit = some digits := by
  induction digits with
  | nil => rfl
  | cons digit rest ih =>
    rw [List.forall_mem_cons] at hdigits
    rw [List.map_cons, List.mapM_cons, base64Digit_base64Char digit hdigits.1, ih hdigits.2]
    rfl

/-- What is encoded is decoded again. -/
@[simp] theorem base64Decode_base64Encode (bytes : List UInt8) :
    base64Decode (base64Encode bytes) = some bytes := by
  rw [base64Decode, base64Encode, String.toList_ofList, mapM_base64Digit (sextets_lt bytes)]
  exact octets_sextets bytes

end Library.TextEncodings
