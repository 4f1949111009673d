import Mathlib.Data.List.TakeDrop
import Mathlib.Data.List.Range

namespace Slice

variable {α : Type*}

def slice (list : List α) (offset width : Nat) : List α :=
  (list.drop offset).take width

theorem slice_length {list : List α} {offset width : Nat}
    (fits : offset + width ≤ list.length) : (slice list offset width).length = width := by
  simp only [slice, List.length_take, List.length_drop]
  omega

@[simp] theorem slice_zero (list : List α) (offset : Nat) : slice list offset 0 = [] := by
  simp [slice]

theorem slice_append_left {front back : List α} {offset width : Nat}
    (fits : offset + width ≤ front.length) :
    slice (front ++ back) offset width = slice front offset width := by
  have start : offset ≤ front.length := by omega
  rw [slice, slice, List.drop_append_of_le_length start, List.take_append_of_le_length]
  simp only [List.length_drop]
  omega

theorem slice_append_right {front back : List α} {offset width : Nat}
    (past : front.length ≤ offset) :
    slice (front ++ back) offset width = slice back (offset - front.length) width := by
  rw [slice, slice, List.drop_append, List.drop_eq_nil_of_le past, List.nil_append]

theorem slice_front {field back : List α} {width : Nat} (size : field.length = width) :
    slice (field ++ back) 0 width = field := by
  subst size
  rw [slice_append_left (by omega)]
  simp [slice]

theorem slice_field {front field back : List α} {offset width : Nat}
    (start : front.length = offset) (size : field.length = width) :
    slice (front ++ (field ++ back)) offset width = field := by
  subst start size
  rw [slice_append_right (Nat.le_refl _), Nat.sub_self, slice_front rfl]

theorem slice_congr {left right : List α} {offset width common : Nat}
    (same : left.take common = right.take common) (fits : offset + width ≤ common) :
    slice left offset width = slice right offset width := by
  have cut (list : List α) : slice list offset width = slice (list.take common) offset width := by
    simp only [slice, List.drop_take, List.take_take]
    rw [Nat.min_eq_left (by omega)]
  rw [cut left, cut right, same]

theorem slice_append_slice {list : List α} {offset first next second : Nat}
    (joined : offset + first = next) :
    slice list offset first ++ slice list next second = slice list offset (first + second) := by
  subst joined
  rw [slice, slice, slice, List.take_add, List.drop_drop]

theorem slice_start (list : List α) (width : Nat) : slice list 0 width = list.take width := by
  rw [slice, List.drop_zero]

/-- Neighbouring ranges of one width, put end to end, are the range that they cover. -/
theorem flatten_slices (list : List α) (offset width count : Nat) :
    ((List.range count).map fun i => slice list (offset + i * width) width).flatten =
      slice list offset (count * width) := by
  induction count with
  | zero => simp
  | succ count ih =>
    rw [List.range_succ, List.map_append, List.flatten_append, ih, List.map_singleton,
      List.flatten_singleton, slice_append_slice rfl, Nat.succ_mul]

/-- Blocks of one width, laid end to end, are cut back out by their indices. -/
theorem slice_flatten {blocks : List (List α)} {width : Nat} (back : List α)
    (uniform : ∀ block ∈ blocks, block.length = width) :
    (List.range blocks.length).map (fun i => slice (blocks.flatten ++ back) (i * width) width) =
      blocks := by
  induction blocks with
  | nil => rfl
  | cons block blocks ih =>
    have size : block.length = width := uniform block (by simp)
    have rest := ih fun block member => uniform block (List.mem_cons_of_mem _ member)
    have first : slice ((block :: blocks).flatten ++ back) 0 width = block := by
      rw [List.flatten_cons, List.append_assoc]
      exact slice_front size
    have next (i : Nat) : slice ((block :: blocks).flatten ++ back) ((i + 1) * width) width =
        slice (blocks.flatten ++ back) (i * width) width := by
      rw [List.flatten_cons, List.append_assoc, slice_append_right (by rw [size, Nat.succ_mul]; omega),
        size, Nat.succ_mul, Nat.add_sub_cancel]
    rw [List.length_cons, List.range_succ_eq_map, List.map_cons, List.map_map, Nat.zero_mul, first]
    congr 1
    exact (List.map_congr_left fun i _ => next i).trans rest

end Slice
