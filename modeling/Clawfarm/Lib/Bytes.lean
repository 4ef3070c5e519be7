import Mathlib.Data.List.Basic

/-!
# Bytes — slices of byte strings

`Slice d o n b` says that the `n` bytes of `d` from offset `o` on are inside `d` and equal `b`.  The
reads that panic out of bounds are `index` and `range`, with `none` for a panic; a checked read does
not panic (`range_of_le`, `index_of_lt`), and what it reads is a `Slice`.
-/

namespace Bytes

variable {d a b b' c : List UInt8} {o n : ℕ}

/-- The `n` bytes of `d` from `o` on are there and equal `b`. -/
def Slice (d : List UInt8) (o n : ℕ) (b : List UInt8) : Prop :=
  o + n ≤ d.length ∧ (d.drop o).take n = b

instance : Decidable (Slice d o n b) := inferInstanceAs (Decidable (_ ∧ _))

theorem Slice.length (h : Slice d o n b) : b.length = n := by
  rw [← h.2, List.length_take, List.length_drop]
  have := h.1
  omega

/-- A slice is determined by where it is. -/
theorem Slice.unique (h : Slice d o n b) (h' : Slice d o n b') : b = b' := h.2.symm.trans h'.2

theorem slice_append (a b c : List UInt8) : Slice (a ++ (b ++ c)) a.length b.length b := by
  refine ⟨by simp only [List.length_append]; omega, ?_⟩
  rw [List.drop_left, List.take_left]

/-! ## Reads that panic out of bounds -/

/-- `d[i]` -/
def index (d : List UInt8) (i : ℕ) : Option UInt8 := d[i]?

/-- `d[first..last]` -/
def range (d : List UInt8) (first last : ℕ) : Option (List UInt8) :=
  if first ≤ last ∧ last ≤ d.length then some ((d.drop first).take (last - first)) else none

theorem index_of_lt {i : ℕ} (h : i < d.length) : index d i = some (d.getD i 0) := by
  rw [index, List.getD_eq_getElem?_getD, List.getElem?_eq_getElem h, Option.getD_some]

theorem range_of_le (h : o + n ≤ d.length) : range d o (o + n) = some ((d.drop o).take n) := by
  rw [range, if_pos ⟨Nat.le_add_right o n, h⟩, Nat.add_sub_cancel_left]

/-! ## Little-endian words -/

/-- The `u16` at an offset. -/
def u16At (d : List UInt8) (o : ℕ) : ℕ := (d.getD o 0).toNat + 256 * (d.getD (o + 1) 0).toNat

theorem getD_slice {i : ℕ} (hi : i < n) : ((d.drop o).take n).getD i 0 = d.getD (o + i) 0 := by
  rw [List.getD_eq_getElem?_getD, List.getD_eq_getElem?_getD, List.getElem?_take_of_lt hi,
    List.getElem?_drop]

theorem u16At_slice (hn : 2 ≤ n) : u16At ((d.drop o).take n) 0 = u16At d o := by
  rw [u16At, u16At, getD_slice (by omega), getD_slice (by omega), Nat.add_zero]

end Bytes
