import Mathlib.Data.Nat.Notation
import Mathlib.Data.List.Basic
import Mathlib.Data.List.GetD
import Mathlib.Tactic.TypeStar

/-!
# Blocks of memory

A block is the list of its cells. A write into it has no result when it leaves the block, and
resizing keeps the cells up to the smaller size.
-/

namespace Buffer

variable {α : Type*}

/-- Write cells from an offset on. -/
def write (block : List α) (offset : ℕ) (cells : List α) : Option (List α) :=
  if offset + cells.length ≤ block.length then
    some (block.take offset ++ cells ++ block.drop (offset + cells.length))
  else none

/-- Change the size; `fill` is what new cells hold. -/
def resize (block : List α) (size : ℕ) (fill : ℕ → α) : List α :=
  (List.range size).map fun i => block.getD i (fill i)

/-- A write inside the block keeps its size, and what is in front of it. -/
theorem write_of_le {block cells : List α} {offset : ℕ} (h : offset + cells.length ≤ block.length) :
    ∃ written, write block offset cells = some written ∧ written.length = block.length ∧
      ∀ n, n ≤ cells.length → written.take (offset + n) = block.take offset ++ cells.take n := by
  have hfront : (block.take offset).length = offset := List.length_take_of_le (by omega)
  refine ⟨_, if_pos h, ?_, fun n hn => ?_⟩
  · rw [List.length_append, List.length_append, hfront, List.length_drop]
    omega
  · have hadd : offset + n = (block.take offset).length + n := by rw [hfront]
    rw [List.append_assoc, hadd, List.take_length_add_append, List.take_append_of_le_length hn]

@[simp] theorem length_resize (block : List α) (size : ℕ) (fill : ℕ → α) :
    (resize block size fill).length = size := by
  rw [resize, List.length_map, List.length_range]

/-- The cells that both sizes have are kept. -/
theorem take_resize {block : List α} {size n : ℕ} (hblock : n ≤ block.length) (hsize : n ≤ size)
    (fill : ℕ → α) : (resize block size fill).take n = block.take n := by
  apply List.ext_getElem
  · rw [List.length_take_of_le hblock, List.length_take_of_le (by rw [length_resize]; exact hsize)]
  · intro i hi hi'
    have hlt : i < block.length := by
      rw [List.length_take] at hi'
      omega
    rw [List.getElem_take, List.getElem_take]
    simp only [resize, List.getElem_map, List.getElem_range]
    rw [List.getD_eq_getElem _ _ hlt]

end Buffer
