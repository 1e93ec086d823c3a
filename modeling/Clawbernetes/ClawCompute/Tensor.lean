import Clawbernetes.ClawCompute.Shape
import Clawbernetes.Library.ByteReads
import Clawbernetes.Library.CheckedWords
import Clawbernetes.Library.RowMajor

/-!
# Tensors and kernels

`CpuTensor` of `tensor.rs` and the kernels of `kernels.rs` that add and multiply. A tensor is a
shape, a type of elements and bytes, whose fields are public, so that nothing says that there are as
many bytes as the shape asks for. What the kernels compute with are the elements of `F32` tensors;
here these are of any type with the operations, whose four bytes are `LeBytes`, and no law of
arithmetic is asked of them. A kernel that panics gives `none`. `overflowChecks` is whether the
build panics at the overflow of an index or wraps.

`matmul_outcome` is what `matmul` does with any two tensors. In both builds it panics exactly when
the product cannot be allocated or an entry that a sum needs is missing; an index that wraps never
makes it read an entry in the place of another.
-/

set_option autoImplicit false
set_option relaxedAutoImplicit false

namespace Clawbernetes.ClawCompute

open Library Library.RowMajor

/-! ### Tensors -/

/-- `DType`. -/
inductive DType where
  | f32
  | f16
  | bf16
  | f64
  | i32
  | i64
  deriving DecidableEq

/-- `Shape::d2`. -/
def Shape.d2 (rows cols : UInt64) : Shape := ⟨[rows, cols]⟩

/-- `Shape::numel`. -/
def Shape.numel (overflowChecks : Bool) (shape : Shape) : Option (BitVec 64) :=
  if shape.dims.isEmpty then some 1
  else shape.dims.foldlM (fun product dim ↦ CheckedWords.mul overflowChecks product dim.toBitVec) 1

/-- `TensorMeta`. -/
structure TensorMeta where
  shape : Shape
  dtype : DType
  deriving DecidableEq

/-- A vector of so many elements of four bytes can be allocated. -/
def Allocatable (count : ℕ) : Prop := count * 4 < 2 ^ 63

instance (count : ℕ) : Decidable (Allocatable count) := inferInstanceAs (Decidable (_ < _))

/-- `CpuTensor`. -/
structure CpuTensor extends TensorMeta where
  data : List UInt8
  length_data_lt : data.length < 2 ^ 63
  deriving DecidableEq

/-- `ComputeError`, as far as the kernels return it. -/
inductive ComputeError where
  | invalidShape (expected actual : List UInt64)
  | unsupportedOperation (platform operation : String)
  deriving DecidableEq

/-- `to_le_bytes` and `from_le_bytes` of a type of elements. -/
structure LeBytes (Element : Type) where
  toLeBytes : Element → List UInt8
  fromLeBytes : List UInt8 → Element
  length_toLeBytes : ∀ element, (toLeBytes element).length = 4
  fromLeBytes_toLeBytes : ∀ element, fromLeBytes (toLeBytes element) = element

/-- The bytes of a word give the word back. -/
theorem ofNat_beValue_reverse_leBytes (word : UInt32) :
    UInt32.ofNat (ByteReads.beValue (Bytes.leBytes 4 word.toNat).reverse) = word := by
  have hvalue : ByteReads.beValue (ByteReads.beBytes 4 word.toNat) = word.toNat :=
    ByteReads.beValue_beBytes word.toNat_lt
  rw [ByteReads.beBytes] at hvalue
  rw [hvalue, UInt32.ofNat_toNat]

/-- Words of 32 bits, whose arithmetic wraps. -/
def leWord : LeBytes UInt32 where
  toLeBytes word := Bytes.leBytes 4 word.toNat
  fromLeBytes bytes := UInt32.ofNat (ByteReads.beValue bytes.reverse)
  length_toLeBytes word := Bytes.length_leBytes 4 word.toNat
  fromLeBytes_toLeBytes := ofNat_beValue_reverse_leBytes

/-- `chunks_exact(4)`. -/
def chunksExact4 : List UInt8 → List (List UInt8)
  | a :: b :: c :: d :: rest => [a, b, c, d] :: chunksExact4 rest
  | _ => []

/-- Four bytes in front are the first chunk. -/
theorem chunksExact4_append {chunk : List UInt8} (hchunk : chunk.length = 4) (rest : List UInt8) :
    chunksExact4 (chunk ++ rest) = chunk :: chunksExact4 rest := by
  match chunk, hchunk with
  | [a, b, c, d], _ => rfl

/-- There are as many chunks as a quarter of the bytes. -/
theorem length_chunksExact4 (bytes : List UInt8) :
    (chunksExact4 bytes).length = bytes.length / 4 := by
  fun_induction chunksExact4 bytes with
  | case1 a b c d rest ih =>
    rw [List.length_cons, ih]
    simp only [List.length_cons]
    omega
  | case2 bytes hshort =>
    match bytes, hshort with
    | [], _ | [_], _ | [_, _], _ | [_, _, _], _ => simp
    | a :: b :: c :: d :: rest, hshort => exact absurd rfl (hshort a b c d rest)

namespace CpuTensor

variable {Element : Type} (codec : LeBytes Element)

/-- The bytes of the elements. -/
theorem length_flatMap_toLeBytes (elements : List Element) :
    (elements.flatMap codec.toLeBytes).length = elements.length * 4 := by
  rw [List.length_flatMap]
  simp [codec.length_toLeBytes]

/-- The bytes of the elements can be allocated. -/
theorem length_bytes_lt {elements : List Element} (hallocatable : Allocatable elements.length) :
    (elements.flatMap codec.toLeBytes).length < 2 ^ 63 := by
  rw [length_flatMap_toLeBytes]
  exact hallocatable

/-- The `F32` tensor of a shape and some elements. -/
def ofElements (shape : Shape) (elements : List Element)
    (hallocatable : Allocatable elements.length) : CpuTensor :=
  ⟨⟨shape, .f32⟩, elements.flatMap codec.toLeBytes, length_bytes_lt codec hallocatable⟩

/-- `CpuTensor::from_f32`, which panics when the number of the elements is not that of the shape. -/
def fromF32 (overflowChecks : Bool) (shape : Shape) (elements : List Element) : Option CpuTensor :=
  if hfits : (shape.numel overflowChecks).map BitVec.toNat = some elements.length ∧
      Allocatable elements.length then
    some (ofElements codec shape elements hfits.2)
  else none

/-- The elements of the bytes. -/
def elements (tensor : CpuTensor) : List Element :=
  (chunksExact4 tensor.data).map codec.fromLeBytes

/-- `CpuTensor::as_f32`. -/
def asF32 (tensor : CpuTensor) : Except ComputeError (List Element) :=
  if tensor.dtype ≠ .f32 then .error (.invalidShape [] []) else .ok (tensor.elements codec)

/-- The elements that a tensor is made of are read back from it. -/
theorem elements_ofElements {shape : Shape} {elements : List Element}
    (hallocatable : Allocatable elements.length) :
    (ofElements codec shape elements hallocatable).elements codec = elements := by
  have hread : (chunksExact4 (elements.flatMap codec.toLeBytes)).map codec.fromLeBytes =
      elements := by
    clear hallocatable
    induction elements with
    | nil => rfl
    | cons element rest ih =>
      rw [List.flatMap_cons, chunksExact4_append (codec.length_toLeBytes element), List.map_cons,
        ih, codec.fromLeBytes_toLeBytes]
  exact hread

/-- The number of the elements of a tensor. -/
theorem length_elements (tensor : CpuTensor) :
    (tensor.elements codec).length = tensor.data.length / 4 := by
  rw [elements, List.length_map, length_chunksExact4]

end CpuTensor

/-! ### Kernels -/

/-- `row * cols + col`, as the kernels index a matrix. -/
def indexAt (overflowChecks : Bool) (cols : UInt64) (row col : ℕ) : Option ℕ := do
  let start ← CheckedWords.mul overflowChecks (BitVec.ofNat 64 row) cols.toBitVec
  let index ← CheckedWords.add overflowChecks start (BitVec.ofNat 64 col)
  some index.toNat

/-- An index that is a word is right. -/
theorem exactBelow_indexAt (overflowChecks : Bool) (cols : UInt64) :
    ExactBelow (2 ^ 64) cols.toNat (indexAt overflowChecks cols) := by
  intro row col hindex
  have hcol : (BitVec.ofNat 64 col).toNat = col := by
    rw [BitVec.toNat_ofNat, Nat.mod_eq_of_lt (by omega)]
  have hrow : (BitVec.ofNat 64 row).toNat * cols.toBitVec.toNat = row * cols.toNat := by
    change (BitVec.ofNat 64 row).toNat * cols.toNat = row * cols.toNat
    rcases Nat.eq_zero_or_pos cols.toNat with hzero | hpos
    · rw [hzero, Nat.mul_zero, Nat.mul_zero]
    · have hle : row ≤ row * cols.toNat := Nat.le_mul_of_pos_right row hpos
      rw [BitVec.toNat_ofNat, Nat.mod_eq_of_lt (by omega)]
  have hstartFits : (BitVec.ofNat 64 row).toNat * cols.toBitVec.toNat < 2 ^ 64 := by omega
  obtain ⟨start, hstart, hstartNat⟩ := CheckedWords.mul_of_lt overflowChecks hstartFits
  have hindexFits : start.toNat + (BitVec.ofNat 64 col).toNat < 2 ^ 64 := by omega
  obtain ⟨index, hadd, hindexNat⟩ := CheckedWords.add_of_lt overflowChecks hindexFits
  have hexact : index.toNat = row * cols.toNat + col := by omega
  simp only [indexAt, hstart, hadd, Option.bind_eq_bind, Option.bind_some, hexact]

namespace CpuTensor

variable {Element : Type} (codec : LeBytes Element) (overflowChecks : Bool)

/-- A kernel that computes each element from one of the input. -/
def mapKernel (function : Element → Element) (input : CpuTensor) :
    Option (Except ComputeError CpuTensor) :=
  match input.asF32 codec with
  | .error error => some (.error error)
  | .ok data => (fromF32 codec overflowChecks input.shape (data.map function)).map .ok

/-- A kernel that computes each element from those at the same place of two inputs. -/
def zipKernel (function : Element → Element → Element) (a b : CpuTensor) :
    Option (Except ComputeError CpuTensor) :=
  if a.shape ≠ b.shape then some (.error (.invalidShape a.shape.dims b.shape.dims))
  else match a.asF32 codec, b.asF32 codec with
  | .error error, _ => some (.error error)
  | .ok _, .error error => some (.error error)
  | .ok aData, .ok bData =>
    (fromF32 codec overflowChecks a.shape (List.zipWith function aData bData)).map .ok

/-- `relu`. -/
def relu [Zero Element] [Max Element] (input : CpuTensor) :
    Option (Except ComputeError CpuTensor) :=
  mapKernel codec overflowChecks (fun x ↦ max x 0) input

/-- `scale`. -/
def scale [Mul Element] (input : CpuTensor) (scalar : Element) :
    Option (Except ComputeError CpuTensor) :=
  mapKernel codec overflowChecks (· * scalar) input

/-- `add`. -/
def add [Add Element] (a b : CpuTensor) : Option (Except ComputeError CpuTensor) :=
  zipKernel codec overflowChecks (· + ·) a b

/-- `mul`. -/
def mul [Mul Element] (a b : CpuTensor) : Option (Except ComputeError CpuTensor) :=
  zipKernel codec overflowChecks (· * ·) a b

section Elementwise

variable {codec overflowChecks} {shape : Shape} {out : CpuTensor}

/-- The tensor has the shape and, read as `F32`, the elements. -/
structure HasElements (codec : LeBytes Element) (tensor : CpuTensor) (shape : Shape)
    (elements : List Element) : Prop where
  shape : tensor.shape = shape
  asF32 : tensor.asF32 codec = .ok elements

/-- A tensor that is made of a shape and elements has them. -/
theorem hasElements_of_fromF32 {elements : List Element}
    (hout : fromF32 codec overflowChecks shape elements = some out) :
    HasElements codec out shape elements := by
  unfold fromF32 at hout
  split_ifs at hout with hfits
  obtain rfl := Option.some_inj.mp hout
  exact ⟨rfl, congrArg Except.ok (elements_ofElements codec hfits.2)⟩

/-- The output of an elementwise kernel has the shape of the input, and its elements are computed
from those of the input one by one. -/
theorem hasElements_of_mapKernel {function : Element → Element} {input : CpuTensor}
    (hout : mapKernel codec overflowChecks function input = some (.ok out)) :
    ∃ data, HasElements codec input input.shape data ∧
      HasElements codec out input.shape (data.map function) := by
  unfold mapKernel at hout
  cases hdata : input.asF32 codec with
  | error error =>
    rw [hdata] at hout
    cases hout
  | ok data =>
    rw [hdata] at hout
    obtain ⟨made, hmade, hsame⟩ := Option.map_eq_some_iff.mp hout
    obtain rfl := Except.ok.inj hsame
    exact ⟨data, ⟨rfl, hdata⟩, hasElements_of_fromF32 hmade⟩

/-- The output of a kernel of two inputs has their shape, and its elements are computed from those
at the same place, as far as both inputs have them. -/
theorem hasElements_of_zipKernel {function : Element → Element → Element} {a b : CpuTensor}
    (hout : zipKernel codec overflowChecks function a b = some (.ok out)) :
    ∃ aData bData, HasElements codec a a.shape aData ∧ HasElements codec b a.shape bData ∧
      HasElements codec out a.shape (List.zipWith function aData bData) := by
  unfold zipKernel at hout
  split_ifs at hout with hshape
  · cases hout
  · cases haData : a.asF32 codec with
    | error error =>
      rw [haData] at hout
      cases hout
    | ok aData =>
      cases hbData : b.asF32 codec with
      | error error =>
        rw [haData, hbData] at hout
        cases hout
      | ok bData =>
        rw [haData, hbData] at hout
        obtain ⟨made, hmade, hsame⟩ := Option.map_eq_some_iff.mp hout
        obtain rfl := Except.ok.inj hsame
        exact ⟨aData, bData, ⟨rfl, haData⟩, ⟨(not_not.mp hshape).symm, hbData⟩,
          hasElements_of_fromF32 hmade⟩

/-- The order of the inputs of a commutative kernel, as `add` and `mul` are, does not matter. -/
theorem zipKernel_comm {function : Element → Element → Element}
    (hcomm : ∀ x y, function x y = function y x) {a b : CpuTensor}
    (hout : zipKernel codec overflowChecks function a b = some (.ok out)) :
    zipKernel codec overflowChecks function b a = some (.ok out) := by
  obtain ⟨aData, bData, ha, hb, -⟩ := hasElements_of_zipKernel hout
  have hshape : a.shape = b.shape := hb.shape.symm
  unfold zipKernel at hout ⊢
  rw [if_neg (not_not.mpr hshape), ha.asF32, hb.asF32] at hout
  rw [if_neg (not_not.mpr hshape.symm), ha.asF32, hb.asF32, ← hshape]
  dsimp only at hout ⊢
  rw [List.zipWith_comm_of_comm hcomm]
  exact hout

/-- `relu` leaves no element below zero, and applied again it changes nothing. -/
theorem hasElements_of_relu [Zero Element] [LinearOrder Element] {input : CpuTensor}
    (hout : relu codec overflowChecks input = some (.ok out)) :
    ∃ data, HasElements codec out input.shape data ∧ (∀ x ∈ data, 0 ≤ x) ∧
      data.map (fun x ↦ max x 0) = data := by
  obtain ⟨data, -, houtput⟩ := hasElements_of_mapKernel hout
  refine ⟨_, houtput, ?_, ?_⟩
  · intro x hx
    obtain ⟨y, -, rfl⟩ := List.mem_map.mp hx
    exact le_max_right y 0
  · rw [List.map_map]
    exact List.map_congr_left fun x _ ↦ max_eq_left (le_max_right x 0)

end Elementwise

/-! ### Products of matrices -/

/-- The tensor is the matrix of some entries. -/
structure IsMatrix (tensor : CpuTensor) (rows cols : UInt64) (entry : ℕ → ℕ → Element) : Prop where
  shape : tensor.shape = .d2 rows cols
  dtype : tensor.dtype = .f32
  data : tensor.data = (rowMajor rows.toNat cols.toNat entry).flatMap codec.toLeBytes

section Matrices

variable {codec overflowChecks} {out : CpuTensor} {rows cols : UInt64}

/-- A tensor is the matrix of one list of entries only. -/
theorem IsMatrix.eq {other : CpuTensor} {entry : ℕ → ℕ → Element}
    (htensor : IsMatrix codec out rows cols entry) (hother : IsMatrix codec other rows cols entry) :
    out = other := by
  obtain ⟨⟨shape, dtype⟩, data, _⟩ := out
  obtain ⟨⟨otherShape, otherDtype⟩, otherData, _⟩ := other
  obtain ⟨rfl, rfl, rfl⟩ := htensor
  obtain ⟨rfl, rfl, rfl⟩ := hother
  rfl

/-- A product of two dimensions that is a word is the number of the elements of a matrix. -/
theorem numel_d2 (hfits : rows.toNat * cols.toNat < 2 ^ 64) :
    ((Shape.d2 rows cols).numel overflowChecks).map BitVec.toNat =
      some (rows.toNat * cols.toNat) := by
  have hone : (1 : BitVec 64).toNat * rows.toBitVec.toNat < 2 ^ 64 := by
    have hrows := rows.toBitVec.isLt
    change 1 * rows.toBitVec.toNat < 2 ^ 64
    omega
  obtain ⟨front, hfront, hfrontNat⟩ := CheckedWords.mul_of_lt overflowChecks hone
  have hfrontRows : front.toNat = rows.toNat := hfrontNat.trans (Nat.one_mul _)
  have hproduct : front.toNat * cols.toBitVec.toNat < 2 ^ 64 := by
    rw [hfrontRows]
    exact hfits
  obtain ⟨product, hmul, hmulNat⟩ := CheckedWords.mul_of_lt overflowChecks hproduct
  have hnumel : (Shape.d2 rows cols).numel overflowChecks = some product := by
    simp only [Shape.numel, Shape.d2, List.isEmpty_cons, Bool.false_eq_true, if_false,
      List.foldlM_cons, List.foldlM_nil, hfront, hmul, Option.bind_eq_bind, Option.bind_some]
    rfl
  rw [hnumel, Option.map_some, hmulNat, hfrontRows]
  rfl

/-- The matrix of the entries can be made when it can be allocated. -/
theorem isMatrix_fromF32 (codec : LeBytes Element) (overflowChecks : Bool)
    (hallocatable : Allocatable (rows.toNat * cols.toNat)) (entry : ℕ → ℕ → Element) :
    ∃ out, fromF32 codec overflowChecks (.d2 rows cols) (rowMajor rows.toNat cols.toNat entry) =
      some out ∧ IsMatrix codec out rows cols entry := by
  have hfits : rows.toNat * cols.toNat < 2 ^ 64 := by
    unfold Allocatable at hallocatable
    omega
  have hlength := length_rowMajor rows.toNat cols.toNat entry
  have hsame : Allocatable (rowMajor rows.toNat cols.toNat entry).length := by rwa [hlength]
  refine ⟨_, dif_pos ⟨?_, hsame⟩, rfl, rfl, rfl⟩
  rw [numel_d2 hfits, hlength]

end Matrices

section Matmul

variable [Zero Element] [Add Element] [Mul Element]

/-- The innermost loop of `matmul`. Reading outside of the data panics. -/
def dotAt (lhsData rhsData : List Element) (inner cols : UInt64) (row col : ℕ) : Option Element :=
  (List.range inner.toNat).foldlM (fun sum idx ↦ do
    let lhsIndex ← indexAt overflowChecks inner row idx
    let left ← lhsData[lhsIndex]?
    let rhsIndex ← indexAt overflowChecks cols idx col
    let right ← rhsData[rhsIndex]?
    some (sum + left * right)) 0

/-- `matmul`. The output must be allocated, and its entries are written one after the other. -/
def matmul (lhs rhs : CpuTensor) : Option (Except ComputeError CpuTensor) :=
  match lhs.shape.dims, rhs.shape.dims with
  | [rows, inner], [inner2, cols] =>
    if inner ≠ inner2 then some (.error (.invalidShape [inner, cols] [inner2, cols]))
    else match lhs.asF32 codec, rhs.asF32 codec with
    | .error error, _ => some (.error error)
    | .ok _, .error error => some (.error error)
    | .ok lhsData, .ok rhsData => do
      let count ← CheckedWords.mul overflowChecks rows.toBitVec cols.toBitVec
      if ¬ Allocatable count.toNat then none
      let output ← fill rows.toNat cols.toNat (indexAt overflowChecks cols)
        (dotAt overflowChecks lhsData rhsData inner cols)
        (List.replicate count.toNat (0 : Element))
      (fromF32 codec overflowChecks (.d2 rows cols) output).map .ok
  | _, _ => some (.error (.unsupportedOperation "CPU" "matmul requires 2D tensors"))

/-- The entry of a matrix with so many columns. -/
def entry (tensor : CpuTensor) (cols row col : ℕ) : Element :=
  ((tensor.elements codec)[row * cols + col]?).getD 0

/-- The sum of the products of a row and a column, from the left. -/
def dot (inner : ℕ) (left right : ℕ → ℕ → Element) (row col : ℕ) : Element :=
  (List.range inner).foldl (fun sum index ↦ sum + left row index * right index col) 0

variable {codec overflowChecks} {lhs rhs : CpuTensor} {rows inner cols : UInt64}

/-- The matrices fit together. -/
structure Fit (lhs rhs : CpuTensor) (rows inner cols : UInt64) : Prop where
  lhsShape : lhs.shape = .d2 rows inner
  rhsShape : rhs.shape = .d2 inner cols
  lhsDtype : lhs.dtype = .f32
  rhsDtype : rhs.dtype = .f32

/-- The product can be allocated, and no entry is missing that one of its sums needs. -/
structure Covered (lhs rhs : CpuTensor) (rows inner cols : UInt64) : Prop where
  allocatable : Allocatable (rows.toNat * cols.toNat)
  lhsData : cols = 0 ∨ rows.toNat * inner.toNat ≤ lhs.data.length / 4
  rhsData : rows = 0 ∨ inner.toNat * cols.toNat ≤ rhs.data.length / 4

/-- `matmul` of matrices that fit together. -/
theorem matmul_of_fit (hfit : Fit lhs rhs rows inner cols) :
    lhs.matmul codec overflowChecks rhs =
      (CheckedWords.mul overflowChecks rows.toBitVec cols.toBitVec).bind fun count ↦
        if ¬ Allocatable count.toNat then none
        else (fill rows.toNat cols.toNat (indexAt overflowChecks cols)
            (dotAt overflowChecks (lhs.elements codec) (rhs.elements codec) inner cols)
            (List.replicate count.toNat (0 : Element))).bind fun output ↦
          (fromF32 codec overflowChecks (.d2 rows cols) output).map .ok := by
  have hlhsData : lhs.asF32 codec = .ok (lhs.elements codec) := if_neg (not_not.mpr hfit.lhsDtype)
  have hrhsData : rhs.asF32 codec = .ok (rhs.elements codec) := if_neg (not_not.mpr hfit.rhsDtype)
  have hlhsDims : lhs.shape.dims = [rows, inner] := congrArg Shape.dims hfit.lhsShape
  have hrhsDims : rhs.shape.dims = [inner, cols] := congrArg Shape.dims hfit.rhsShape
  simp only [matmul, hlhsDims, hrhsDims, hlhsData, hrhsData, ne_eq, not_true_eq_false, if_false]
  rfl

/-- The innermost loop reads within the data, and adds up from the left. -/
theorem dotAt_eq {row col : ℕ} (hrow : row < rows.toNat) (hcol : col < cols.toNat)
    (hlhs : rows.toNat * inner.toNat ≤ lhs.data.length / 4)
    (hrhs : inner.toNat * cols.toNat ≤ rhs.data.length / 4) :
    dotAt overflowChecks (lhs.elements codec) (rhs.elements codec) inner cols row col =
      some (dot inner.toNat (lhs.entry codec inner.toNat) (rhs.entry codec cols.toNat)
        row col) := by
  have hread : ∀ (tensor : CpuTensor) (height width : UInt64) (row col : ℕ), row < height.toNat →
      col < width.toNat → height.toNat * width.toNat ≤ tensor.data.length / 4 →
      indexAt overflowChecks width row col = some (row * width.toNat + col) ∧
        (tensor.elements codec)[row * width.toNat + col]? =
          some (tensor.entry codec width.toNat row col) := by
    intro tensor height width row col hrow hcol hcovered
    have hindex := index_lt hrow hcol
    have hbound := tensor.length_data_lt
    have hlt : row * width.toNat + col < (tensor.elements codec).length := by
      rw [length_elements]
      omega
    refine ⟨exactBelow_indexAt overflowChecks width row col (by omega), ?_⟩
    rw [entry, List.getElem?_eq_getElem hlt, Option.getD_some]
  have hcount : ∀ count ≤ inner.toNat, (List.range count).foldlM (fun sum idx ↦ do
      let lhsIndex ← indexAt overflowChecks inner row idx
      let left ← (lhs.elements codec)[lhsIndex]?
      let rhsIndex ← indexAt overflowChecks cols idx col
      let right ← (rhs.elements codec)[rhsIndex]?
      some (sum + left * right)) (0 : Element) = some ((List.range count).foldl (fun sum index ↦
        sum + lhs.entry codec inner.toNat row index * rhs.entry codec cols.toNat index col) 0) := by
    intro count
    induction count with
    | zero => intro _; rfl
    | succ count ih =>
      intro hle
      obtain ⟨hleftIndex, hleft⟩ := hread lhs rows inner row count hrow hle hlhs
      obtain ⟨hrightIndex, hright⟩ := hread rhs inner cols count col hle hcol hrhs
      rw [List.range_succ, List.foldlM_append, ih (by omega), List.foldl_concat]
      simp only [Option.bind_eq_bind, Option.bind_some, List.foldlM_cons, List.foldlM_nil, hleft,
        hright, hleftIndex, hrightIndex]
      rfl
  exact hcount inner.toNat (le_refl _)

/-- When the sum of an entry is computed, everything it needs is within the data. -/
theorem reads_of_dotAt {lhsData rhsData : List Element} {row col : ℕ} {sum : Element}
    (hsum : dotAt overflowChecks lhsData rhsData inner cols row col = some sum) :
    ∀ idx < inner.toNat,
      (∃ index, indexAt overflowChecks inner row idx = some index ∧ index < lhsData.length) ∧
      ∃ index, indexAt overflowChecks cols idx col = some index ∧ index < rhsData.length := by
  obtain ⟨-, hsteps⟩ := steps_of_foldlM (fun _ : Element ↦ True) (fun _ _ _ _ _ ↦ trivial)
    (List.range inner.toNat) trivial hsum
  intro idx hidx
  obtain ⟨state, next, -, hstep⟩ := hsteps idx (List.mem_range.mpr hidx)
  simp only [Option.bind_eq_bind, Option.bind_eq_some_iff] at hstep
  obtain ⟨lhsIndex, hlhsIndex, left, hleft, rhsIndex, hrhsIndex, right, hright, -⟩ := hstep
  exact ⟨⟨lhsIndex, hlhsIndex, (List.getElem?_eq_some_iff.mp hleft).1⟩,
    rhsIndex, hrhsIndex, (List.getElem?_eq_some_iff.mp hright).1⟩

/-- Matrices that fit together and are covered are multiplied. -/
theorem matmul_of_covered (codec : LeBytes Element) (overflowChecks : Bool)
    (hfit : Fit lhs rhs rows inner cols) (hcovered : Covered lhs rhs rows inner cols) :
    ∃ out, lhs.matmul codec overflowChecks rhs = some (.ok out) ∧ IsMatrix codec out rows cols
      (dot inner.toNat (lhs.entry codec inner.toNat) (rhs.entry codec cols.toNat)) := by
  have hallocatable := hcovered.allocatable
  have hsmall : rows.toNat * cols.toNat < 2 ^ 64 := by
    unfold Allocatable at hallocatable
    omega
  obtain ⟨count, hcount, hcountNat⟩ : ∃ count,
      CheckedWords.mul overflowChecks rows.toBitVec cols.toBitVec = some count ∧
        count.toNat = rows.toNat * cols.toNat :=
    CheckedWords.mul_of_lt overflowChecks hsmall
  have hvalue : ∀ row < rows.toNat, ∀ col < cols.toNat,
      dotAt overflowChecks (lhs.elements codec) (rhs.elements codec) inner cols row col =
        some (dot inner.toNat (lhs.entry codec inner.toNat) (rhs.entry codec cols.toNat)
          row col) := by
    intro row hrow col hcol
    refine dotAt_eq hrow hcol (hcovered.lhsData.resolve_left ?_) (hcovered.rhsData.resolve_left ?_)
    · rintro rfl
      exact Nat.not_lt_zero col hcol
    · rintro rfl
      exact Nat.not_lt_zero row hrow
  have hlength : (List.replicate count.toNat (0 : Element)).length = rows.toNat * cols.toNat := by
    rw [List.length_replicate, hcountNat]
  have hfill := fill_eq (exactBelow_indexAt overflowChecks cols) (by omega) hvalue hlength
  obtain ⟨out, hout, hmatrix⟩ := isMatrix_fromF32 codec overflowChecks hallocatable
    (dot inner.toNat (lhs.entry codec inner.toNat) (rhs.entry codec cols.toNat))
  refine ⟨out, ?_, hmatrix⟩
  rw [matmul_of_fit hfit, hcount, Option.bind_some, hcountNat, if_neg (not_not.mpr hallocatable),
    ← hcountNat, hfill, Option.bind_some, hout, Option.map_some]

/-- Matrices that fit together are covered when they are multiplied. -/
theorem covered_of_matmul (hfit : Fit lhs rhs rows inner cols)
    {result : Except ComputeError CpuTensor}
    (hresult : lhs.matmul codec overflowChecks rhs = some result) :
    Covered lhs rhs rows inner cols := by
  rw [matmul_of_fit hfit, Option.bind_eq_some_iff] at hresult
  obtain ⟨count, hcount, hresult⟩ := hresult
  split_ifs at hresult with hallocatable
  rw [Option.bind_eq_some_iff] at hresult
  obtain ⟨output, hfill, -⟩ := hresult
  have hreached := reached_of_fill hfill
  rw [List.length_replicate] at hreached
  -- a product that wraps leaves too little room, and the loop does not get to its end
  have hroom : rows.toNat * cols.toNat ≤ count.toNat :=
    mul_le_of_reached (exactBelow_indexAt overflowChecks cols) count.isLt
      fun row hrow col hcol ↦ (hreached row hrow col hcol).2
  have hle : count.toNat ≤ rows.toNat * cols.toNat :=
    CheckedWords.toNat_le_of_mul_eq_some overflowChecks hcount
  have hbound : ∀ tensor : CpuTensor, (tensor.elements codec).length < 2 ^ 64 := by
    intro tensor
    have hlt := tensor.length_data_lt
    rw [length_elements]
    omega
  constructor
  · rwa [Nat.le_antisymm hroom hle]
  · rw [← length_elements codec]
    refine or_iff_not_imp_left.mpr fun hcols ↦ mul_le_of_reached
      (exactBelow_indexAt overflowChecks inner) (hbound lhs) fun row hrow idx hidx ↦ ?_
    have hpos : 0 < cols.toNat := Nat.pos_of_ne_zero fun hzero ↦ hcols (UInt64.toNat_inj.mp hzero)
    obtain ⟨⟨sum, hsum⟩, -⟩ := hreached row hrow 0 hpos
    exact (reads_of_dotAt hsum idx hidx).1
  · rw [← length_elements codec]
    refine or_iff_not_imp_left.mpr fun hrows ↦ mul_le_of_reached
      (exactBelow_indexAt overflowChecks cols) (hbound rhs) fun idx hidx col hcol ↦ ?_
    have hpos : 0 < rows.toNat := Nat.pos_of_ne_zero fun hzero ↦ hrows (UInt64.toNat_inj.mp hzero)
    obtain ⟨⟨sum, hsum⟩, -⟩ := hreached 0 hpos col hcol
    exact (reads_of_dotAt hsum idx hidx).2

/-- What does not fit together is an error. -/
theorem matmul_error_or_fit (codec : LeBytes Element) (overflowChecks : Bool)
    (lhs rhs : CpuTensor) :
    (∃ error, lhs.matmul codec overflowChecks rhs = some (.error error)) ∨
      ∃ rows inner cols, Fit lhs rhs rows inner cols := by
  unfold matmul
  split
  · rename_i rows inner inner2 cols hlhsDims hrhsDims
    by_cases hinner : inner = inner2
    · subst hinner
      by_cases hlhs : lhs.dtype = .f32
      · by_cases hrhs : rhs.dtype = .f32
        · exact .inr ⟨rows, inner, cols, Shape.ext hlhsDims, Shape.ext hrhsDims, hlhs, hrhs⟩
        · refine .inl ⟨.invalidShape [] [], ?_⟩
          simp only [asF32, ne_eq, hlhs, hrhs, not_true_eq_false, not_false_eq_true, if_true,
            if_false]
      · refine .inl ⟨.invalidShape [] [], ?_⟩
        simp only [asF32, ne_eq, hlhs, not_true_eq_false, not_false_eq_true, if_true, if_false]
    · exact .inl ⟨_, if_pos hinner⟩
  · exact .inl ⟨_, rfl⟩

/-- `matmul` multiplies exactly the `F32` matrices that fit together, have every entry that a sum
needs and whose product can be allocated, and the entries of the product are the sums of the
products, from the left. It panics exactly when the matrices fit together but something is missing.
Both are the same in a build with overflow checks and in one without. -/
theorem matmul_outcome (codec : LeBytes Element) (overflowChecks : Bool) (lhs rhs : CpuTensor) :
    (∀ out, lhs.matmul codec overflowChecks rhs = some (.ok out) ↔ ∃ rows inner cols,
      Fit lhs rhs rows inner cols ∧ Covered lhs rhs rows inner cols ∧ IsMatrix codec out rows cols
        (dot inner.toNat (lhs.entry codec inner.toNat) (rhs.entry codec cols.toNat))) ∧
    (lhs.matmul codec overflowChecks rhs = none ↔ ∃ rows inner cols,
      Fit lhs rhs rows inner cols ∧ ¬ Covered lhs rhs rows inner cols) := by
  constructor
  · intro out
    constructor
    · intro hout
      rcases matmul_error_or_fit codec overflowChecks lhs rhs with
        ⟨error, herror⟩ | ⟨rows, inner, cols, hfit⟩
      · rw [herror] at hout
        cases hout
      · have hcovered := covered_of_matmul hfit hout
        obtain ⟨found, hfound, hmatrix⟩ :=
          matmul_of_covered codec overflowChecks hfit hcovered
        obtain rfl := Except.ok.inj (Option.some.inj (hfound.symm.trans hout))
        exact ⟨rows, inner, cols, hfit, hcovered, hmatrix⟩
    · rintro ⟨rows, inner, cols, hfit, hcovered, hmatrix⟩
      obtain ⟨found, hfound, hother⟩ :=
        matmul_of_covered codec overflowChecks hfit hcovered
      rw [hfound, hmatrix.eq hother]
  · constructor
    · intro hnone
      rcases matmul_error_or_fit codec overflowChecks lhs rhs with
        ⟨error, herror⟩ | ⟨rows, inner, cols, hfit⟩
      · rw [herror] at hnone
        cases hnone
      · refine ⟨rows, inner, cols, hfit, fun hcovered ↦ ?_⟩
        obtain ⟨found, hfound, -⟩ :=
          matmul_of_covered codec overflowChecks hfit hcovered
        rw [hfound] at hnone
        cases hnone
    · rintro ⟨rows, inner, cols, hfit, hmissing⟩
      refine Option.eq_none_iff_forall_not_mem.mpr fun result hresult ↦ ?_
      exact hmissing (covered_of_matmul hfit hresult)

/-- Four words can be allocated. -/
theorem allocatable_four : Allocatable 4 := by decide

/-- The matrix of two rows of two words. -/
def wordMatrix (a b c d : UInt32) : CpuTensor :=
  ofElements leWord (.d2 2 2) [a, b, c, d] allocatable_four

/-- The outcome at two matrices of words. -/
theorem matmul_outcome_wordMatrix :
    (wordMatrix 1 2 3 4).matmul leWord true (wordMatrix 5 6 7 8) =
      some (.ok (wordMatrix 19 22 43 50)) := by
  have hlength : ∀ a b c d, (wordMatrix a b c d).data.length / 4 = 4 := by
    intro a b c d
    rw [← length_elements leWord, wordMatrix, elements_ofElements]
    rfl
  refine ((matmul_outcome leWord true _ _).1 _).mpr ⟨2, 2, 2, ⟨rfl, rfl, rfl, rfl⟩,
    ⟨allocatable_four, .inr ?_, .inr ?_⟩, rfl, rfl, by decide +kernel⟩
  · rw [hlength]
    decide
  · rw [hlength]
    decide

end Matmul

end CpuTensor

end Clawbernetes.ClawCompute
