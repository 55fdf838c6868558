import Mathlib.Data.List.FinRange
import Mathlib.Logic.Function.Basic

/-!
# Priority queues as arrays of lists

What a scheduler with a fixed number of priorities is meant to be: one first-in first-out
list for each level. An element is put at the end of the list of its level, and the one
that is taken is the first of the lowest level that has any.
-/

namespace PriorityLists

universe u

abbrev Levels (count : ℕ) (Elem : Type u) := Fin count → List Elem

inductive Op (count : ℕ) (Elem : Type u) where
  | put (level : Fin count) (elem : Elem)
  | get

variable {count : ℕ} {Elem : Type u}

def empty : Levels count Elem := fun _ => []

def put (levels : Levels count Elem) (level : Fin count) (elem : Elem) : Levels count Elem :=
  Function.update levels level (levels level ++ [elem])

/-- The lowest level that has an element. -/
def lowest (levels : Levels count Elem) : Option (Fin count) :=
  (List.finRange count).find? fun level => !(levels level).isEmpty

/-- The element that was put first among those of the lowest level, and the lists without it. -/
def get (levels : Levels count Elem) : Option Elem × Levels count Elem :=
  match lowest levels with
  | none => (none, levels)
  | some level => ((levels level).head?, Function.update levels level (levels level).tail)

/-- What the calls of `get` return in a sequence of operations, and the lists at its end. -/
def run (levels : Levels count Elem) : List (Op count Elem) → List (Option Elem) × Levels count Elem
  | [] => ([], levels)
  | .put level elem :: ops => run (put levels level elem) ops
  | .get :: ops =>
      let (ret, levels) := get levels
      let (rets, levels) := run levels ops
      (ret :: rets, levels)

theorem lowest_eq_none_iff {levels : Levels count Elem} :
    lowest levels = none ↔ ∀ level, levels level = [] := by
  simp [lowest, List.find?_eq_none]

theorem lowest_eq_some {levels : Levels count Elem} {level : Fin count}
    (nonempty : levels level ≠ []) (lower : ∀ other < level, levels other = []) :
    lowest levels = some level := by
  rw [lowest, List.find?_eq_some_iff_getElem]
  refine ⟨by simpa using nonempty, level, by simp, by simp, ?_⟩
  intro index indexLt
  have isEmpty := lower ⟨index, indexLt.trans level.isLt⟩ indexLt
  simpa using isEmpty

theorem get_empty {levels : Levels count Elem} (isEmpty : ∀ level, levels level = []) :
    get levels = (none, levels) := by
  rw [get, lowest_eq_none_iff.mpr isEmpty]

theorem get_lowest {levels : Levels count Elem} {level : Fin count} {elem : Elem}
    {rest : List Elem} (shape : levels level = elem :: rest)
    (lower : ∀ other < level, levels other = []) :
    get levels = (some elem, Function.update levels level rest) := by
  rw [get, lowest_eq_some (by simp [shape]) lower]
  simp [shape]

end PriorityLists
