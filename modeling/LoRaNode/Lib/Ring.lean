import Mathlib.Data.Nat.ModEq
import Mathlib.Logic.Function.Basic

namespace ring

variable {α : Type*} {size : Nat}

/-- The `count` cells behind the cell `start`. -/
def contents (size : Nat) (cells : Nat → α) (start count : Nat) : List α :=
  (List.range count).map fun i => cells ((start + 1 + i) % size)

@[simp] theorem length_contents (cells : Nat → α) (start count : Nat) :
    (contents size cells start count).length = count := by
  simp [contents]

@[simp] theorem contents_zero (cells : Nat → α) (start : Nat) :
    contents size cells start 0 = [] := rfl

/-- One cell more at the end. -/
theorem contents_succ (cells : Nat → α) (start count : Nat) :
    contents size cells start (count + 1) =
      contents size cells start count ++ [cells ((start + 1 + count) % size)] := by
  simp [contents, List.range_succ]

/-- The first cell, and those behind it. -/
theorem contents_eq_cons (cells : Nat → α) (start count : Nat) :
    contents size cells start (count + 1) =
      cells ((start + 1) % size) :: contents size cells ((start + 1) % size) count := by
  unfold contents
  rw [List.range_succ_eq_map, List.map_cons, List.map_map, Nat.add_zero]
  refine congrArg _ (List.map_congr_left fun i _ => ?_)
  have hindex : start + 1 + (i + 1) ≡ (start + 1) % size + 1 + i [MOD size] := by
    rw [Nat.add_comm i 1, Nat.add_assoc ((start + 1) % size)]
    exact (Nat.mod_modEq (start + 1) size).symm.add_right (1 + i)
  exact congrArg cells hindex

/-- Different cells of one turn are different cells of the ring. -/
theorem index_ne {start i j : Nat} (hij : i < j) (hj : j < size) :
    (start + i) % size ≠ (start + j) % size := by
  intro heq
  have hmod : i ≡ j [MOD size] := Nat.ModEq.add_left_cancel' start heq
  rw [Nat.ModEq, Nat.mod_eq_of_lt (hij.trans hj), Nat.mod_eq_of_lt hj] at hmod
  exact absurd hmod hij.ne

/-- The cell behind the contents can be written. -/
theorem contents_update (cells : Nat → α) (start : Nat) {count : Nat} (hcount : count < size)
    (a : α) : contents size (Function.update cells ((start + 1 + count) % size) a) start count =
      contents size cells start count := by
  refine List.map_congr_left fun i hi => ?_
  exact Function.update_of_ne (index_ne (List.mem_range.mp hi) hcount) _ _

end ring
