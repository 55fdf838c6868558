import Mathlib.Data.List.Range
import Mathlib.Data.Nat.ModEq
import Mathlib.Logic.Function.Basic

/-!
# Windows of a circular buffer

The cells of a circular buffer from a start position on, as many as wanted, are a list.
Taking the first cell, adding one at the end and writing a cell outside the window are the
steps of a queue that is kept in such a buffer.
-/

namespace CircularBuffer

universe u

variable {Item : Type u} {size : ℕ} {buffer : ℕ → Item} {start count index : ℕ}

theorem succ_mod (indexLt : index < size) :
    (index + 1) % size = if index + 1 = size then 0 else index + 1 := by
  split_ifs with last
  · rw [last, Nat.mod_self]
  · apply Nat.mod_eq_of_lt
    omega

/-- The items in `count` cells from position `start` on. -/
def window (size : ℕ) (buffer : ℕ → Item) (start count : ℕ) : List Item :=
  (List.range count).map fun offset => buffer ((start + offset) % size)

@[simp]
theorem window_length : (window size buffer start count).length = count := by
  simp [window]

@[simp]
theorem window_zero : window size buffer start 0 = [] := rfl

theorem window_mod : window size buffer (start % size) count = window size buffer start count := by
  simp only [window, Nat.mod_add_mod]

theorem window_cons : window size buffer start (count + 1) =
    buffer (start % size) :: window size buffer (start + 1) count := by
  simp only [window, List.range_succ_eq_map, List.map_cons, List.map_map, Nat.add_zero]
  congr 1
  apply List.map_congr_left
  intro offset _
  simp only [Function.comp_apply, Nat.succ_eq_add_one]
  congr 2
  omega

theorem window_concat : window size buffer start (count + 1) =
    window size buffer start count ++ [buffer ((start + count) % size)] := by
  simp only [window, List.range_succ, List.map_append, List.map_cons, List.map_nil]

/-- The cell behind a window is not in it, unless the window is the whole buffer. -/
theorem window_update (room : count < size) (item : Item) :
    window size (Function.update buffer ((start + count) % size) item) start count =
      window size buffer start count := by
  apply List.map_congr_left
  intro offset offsetMem
  have offsetLt : offset < count := List.mem_range.mp offsetMem
  apply Function.update_of_ne
  intro same
  have congruent : start + offset ≡ start + count [MOD size] := same
  have equal := (Nat.ModEq.add_left_cancel' start congruent).eq_of_lt_of_lt (by omega) room
  omega

/-- An item that is written behind a window is the last one of the larger window. -/
theorem window_append (room : count < size) (item : Item) :
    window size (Function.update buffer ((start + count) % size) item) start (count + 1) =
      window size buffer start count ++ [item] := by
  rw [window_concat, window_update room, Function.update_self]

end CircularBuffer
