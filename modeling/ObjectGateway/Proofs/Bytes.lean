import Mathlib.Data.Nat.Basic
import Mathlib.Order.Basic
import ObjectGateway.Bytes
/-!
# Pieces of a byte string

Cutting a byte string loses nothing, and every piece but the last one has the full size.
-/
namespace ObjectGateway.Bytes

/-- The bytes from `offset` on: as many as are asked for, or all that are left. -/
def window (bytes : Bytes) (offset : Nat) : Option Nat → Bytes
  | none => bytes.drop offset
  | some length => bytes.slice offset length

/-- A window ends where the bytes do at the latest, and has no bytes if it starts there. -/
theorem length_window (bytes : Bytes) (offset : Nat) (length : Option Nat) :
    (bytes.window offset length).length =
      min (offset + length.getD bytes.length) bytes.length - offset := by
  cases length with
  | none =>
    simp only [window, List.length_drop, Option.getD_none]
    omega
  | some length =>
    simp only [window, slice, List.length_take, List.length_drop, Option.getD_some]
    omega

/-- Where the length of a window is known, it may be given. -/
theorem slice_length_window (bytes : Bytes) (offset : Nat) (length : Option Nat) :
    bytes.slice offset (bytes.window offset length).length = bytes.window offset length := by
  cases length with
  | none => exact List.take_length
  | some length =>
    simp only [window, slice, List.length_take, List.take_eq_take_iff]
    omega

/-- The size of the pieces that are cut: at least one byte. -/
def pieceSize (size : Nat) : Nat := max size 1

theorem pieceSize_pos (size : Nat) : 0 < pieceSize size :=
  Nat.le_max_right size 1

variable {size bound : Nat} {bytes : Bytes}

theorem flatten_cutFrom (hsize : 0 < size) (hbound : bytes.length ≤ bound) :
    (cutFrom size bound bytes).flatten = bytes := by
  induction bound generalizing bytes with
  | zero =>
    rw [List.eq_nil_of_length_eq_zero (Nat.le_zero.mp hbound)]
    rfl
  | succ bound ih =>
    cases bytes with
    | nil => rfl
    | cons x xs =>
      have hrest : ((x :: xs).drop size).length ≤ bound := by
        rw [List.length_drop]
        omega
      rw [cutFrom, List.flatten_cons, ih hrest, List.take_append_drop]
      exact List.cons_ne_nil x xs

theorem getElem?_cutFrom (hsize : 0 < size) (hbound : bytes.length ≤ bound) (i : Nat) :
    (cutFrom size bound bytes)[i]? =
      if i * size < bytes.length then some (bytes.slice (i * size) size) else none := by
  induction bound generalizing bytes i with
  | zero =>
    rw [List.eq_nil_of_length_eq_zero (Nat.le_zero.mp hbound)]
    rfl
  | succ bound ih =>
    cases bytes with
    | nil => rfl
    | cons x xs =>
      rw [cutFrom]
      · cases i with
        | zero => simp [slice]
        | succ i =>
          have hrest : ((x :: xs).drop size).length ≤ bound := by
            rw [List.length_drop]
            omega
          have hplace : i * size < ((x :: xs).drop size).length ↔
              (i + 1) * size < (x :: xs).length := by
            rw [List.length_drop, Nat.succ_mul]
            omega
          rw [List.getElem?_cons_succ, ih hrest]
          simp only [hplace, slice, List.drop_drop, Nat.succ_mul, Nat.add_comm size]
      · exact List.cons_ne_nil x xs

/-- As often as the size goes into the length, rounded up. -/
def pieceCount (size length : Nat) : Nat := (length + size - 1) / size

/-- What fits into one piece is one piece, unless it is nothing. -/
theorem pieceCount_of_le {length : Nat} (hsize : 0 < size) (h : length ≤ size) :
    pieceCount size length = min 1 length := by
  obtain rfl | hsome := Nat.eq_zero_or_pos length
  · exact Nat.div_eq_of_lt (by omega)
  · rw [Nat.min_eq_left hsome]
    exact Nat.div_eq_of_lt_le (by omega) (by omega)

/-- One piece is cut off, and something is left. -/
theorem pieceCount_of_lt {length : Nat} (hsize : 0 < size) (h : size < length) :
    pieceCount size length = pieceCount size (length - size) + 1 ∧
      0 < pieceCount size (length - size) := by
  refine ⟨?_, Nat.div_pos (by omega) hsize⟩
  rw [pieceCount, pieceCount, ← Nat.add_div_right _ hsize]
  refine congrArg (· / size) ?_
  omega

theorem pieceCount_le (hsize : 0 < size) (length : Nat) : pieceCount size length ≤ length := by
  rw [pieceCount, Nat.div_le_iff_le_mul_add_pred hsize]
  have hgrows := Nat.le_mul_of_pos_left length hsize
  omega

/-- The pieces joined are what was cut. -/
theorem flatten_pieces (size : Nat) (bytes : Bytes) : (pieces size bytes).flatten = bytes :=
  flatten_cutFrom (pieceSize_pos size) (Nat.le_refl _)

/-- The piece number `i` begins where `i` pieces of the full size end. -/
theorem getElem?_pieces (size : Nat) (bytes : Bytes) (i : Nat) :
    (pieces size bytes)[i]? =
      if i * pieceSize size < bytes.length then
        some (bytes.slice (i * pieceSize size) (pieceSize size))
      else none :=
  getElem?_cutFrom (pieceSize_pos size) (Nat.le_refl _) i

theorem lt_length_pieces {i : Nat} :
    i < (pieces size bytes).length ↔ i * pieceSize size < bytes.length := by
  have hplace := getElem?_pieces size bytes i
  constructor
  · intro h
    rw [List.getElem?_eq_getElem h] at hplace
    by_contra hlong
    simp [hlong] at hplace
  · intro h
    rw [if_pos h] at hplace
    exact (List.getElem?_eq_some_iff.mp hplace).1

/-- There are as many pieces as the size goes into the length, rounded up. -/
theorem length_pieces (size : Nat) (bytes : Bytes) :
    (pieces size bytes).length = (bytes.length + pieceSize size - 1) / pieceSize size := by
  apply eq_of_forall_lt_iff
  intro i
  rw [lt_length_pieces, ← Nat.succ_le_iff (m := i), Nat.le_div_iff_mul_le (pieceSize_pos size),
    Nat.succ_mul]
  have hpos := pieceSize_pos size
  omega

theorem getElem_pieces {i : Nat} (h : i < (pieces size bytes).length) :
    (pieces size bytes)[i] = bytes.slice (i * pieceSize size) (pieceSize size) := by
  have hplace := getElem?_pieces size bytes i
  rw [List.getElem?_eq_getElem h, if_pos (lt_length_pieces.mp h)] at hplace
  exact Option.some.inj hplace

/-- Every piece with another one behind it has the full size. -/
theorem length_getElem_pieces {i : Nat} (h : i + 1 < (pieces size bytes).length) :
    (pieces size bytes)[i].length = pieceSize size := by
  have hlong := lt_length_pieces.mp h
  rw [Nat.succ_mul] at hlong
  rw [getElem_pieces]
  simp only [slice, List.length_take, List.length_drop]
  omega

/-- The chunks are the content in pieces of exactly `size` bytes, but for the last one. -/
structure CutInto (size : Nat) (content : Bytes) (chunks : List Bytes) : Prop where
  joined : chunks.flatten = content
  count : chunks.length = (content.length + size - 1) / size
  full : ∀ i (h : i + 1 < chunks.length), chunks[i].length = size
  small : ∀ chunk ∈ chunks, 0 < chunk.length ∧ chunk.length ≤ size

theorem cutInto_pieces (size : Nat) (bytes : Bytes) :
    CutInto (max size 1) bytes (pieces size bytes) where
  joined := flatten_pieces size bytes
  count := length_pieces size bytes
  full i h := length_getElem_pieces h
  small chunk hchunk := by
    obtain ⟨i, hi, rfl⟩ := List.getElem_of_mem hchunk
    have hplace := lt_length_pieces.mp hi
    have hpos := pieceSize_pos size
    rw [getElem_pieces, slice, List.length_take, List.length_drop]
    unfold pieceSize at *
    omega

end ObjectGateway.Bytes
