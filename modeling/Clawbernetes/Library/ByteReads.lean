import Clawbernetes.Library.Bytes

/-!
# Reading byte strings in network order

The big-endian bytes of a natural number, and reads of a byte string that are `none` where they
would leave it: the bytes between two positions (`slice`) and the number that is written at a
position (`readBe`). What a byte string was put together from is read back at the place of the part
(`slice_append`, `readBe_append`).
-/

set_option autoImplicit false
set_option relaxedAutoImplicit false

namespace Library.ByteReads

open Library.Bytes

/-! ### Big-endian numbers -/

/-- The big-endian bytes of a number, cut to a width. -/
def beBytes (width value : ℕ) : List UInt8 := (leBytes width value).reverse

/-- The number that bytes stand for, the first one leading. -/
def beValue (bytes : List UInt8) : ℕ := bytes.foldl (fun value byte ↦ value * 256 + byte.toNat) 0

/-- The bytes of a number have the chosen width. -/
@[simp] theorem length_beBytes (width value : ℕ) : (beBytes width value).length = width := by
  rw [beBytes, List.length_reverse, length_leBytes]

/-- The bytes of a number below the range of the width stand for it. -/
theorem beValue_beBytes {width value : ℕ} (hvalue : value < 256 ^ width) :
    beValue (beBytes width value) = value := by
  induction width generalizing value with
  | zero =>
    rw [pow_zero, Nat.lt_one_iff] at hvalue
    rw [hvalue]
    rfl
  | succ width ih =>
    rw [pow_succ] at hvalue
    have hhigh : beValue (beBytes width (value / 256)) = value / 256 :=
      ih (Nat.div_lt_of_lt_mul (by omega))
    have hlow : (UInt8.ofNat (value % 256)).toNat = value % 256 := by simp
    unfold beValue beBytes at hhigh ⊢
    rw [leBytes, List.reverse_cons, List.foldl_append, hhigh, List.foldl_cons, List.foldl_nil, hlow]
    omega

/-! ### Reads -/

/-- The bytes between two positions. -/
def slice (bytes : List UInt8) (start stop : ℕ) : Option (List UInt8) :=
  if start ≤ stop ∧ stop ≤ bytes.length then some ((bytes.drop start).take (stop - start)) else none

/-- The number that is written in some bytes from a position on. -/
def readBe (width : ℕ) (bytes : List UInt8) (start : ℕ) : Option ℕ :=
  (slice bytes start (start + width)).map beValue

/-- Between two positions within a byte string there are as many bytes as the positions say. -/
theorem slice_of_le {bytes : List UInt8} {start stop : ℕ} (horder : start ≤ stop)
    (hstop : stop ≤ bytes.length) :
    ∃ part, slice bytes start stop = some part ∧ part.length = stop - start := by
  refine ⟨_, if_pos ⟨horder, hstop⟩, ?_⟩
  rw [List.length_take, List.length_drop]
  omega

/-- A number is read within a byte string. -/
theorem readBe_of_le {width start : ℕ} {bytes : List UInt8} (hfits : start + width ≤ bytes.length) :
    ∃ value, readBe width bytes start = some value := by
  obtain ⟨part, hpart, -⟩ := slice_of_le (Nat.le_add_right start width) hfits
  exact ⟨beValue part, by rw [readBe, hpart, Option.map_some]⟩

/-- A part of a byte string is read back at its place. -/
theorem slice_append (front part rest : List UInt8) :
    slice (front ++ (part ++ rest)) front.length (front.length + part.length) = some part := by
  have hfits : front.length + part.length ≤ (front ++ (part ++ rest)).length := by
    rw [List.length_append, List.length_append]
    omega
  rw [slice, if_pos ⟨Nat.le_add_right _ _, hfits⟩, List.drop_left, Nat.add_sub_cancel_left,
    List.take_left]

/-- A number is read back at its place. -/
theorem readBe_append {width value : ℕ} (front rest : List UInt8) (hvalue : value < 256 ^ width) :
    readBe width (front ++ (beBytes width value ++ rest)) front.length = some value := by
  have hslice := slice_append front (beBytes width value) rest
  rw [length_beBytes] at hslice
  rw [readBe, hslice, Option.map_some, beValue_beBytes hvalue]

end Library.ByteReads
