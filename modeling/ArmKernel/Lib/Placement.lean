import Mathlib.Data.List.Nodup
import Mathlib.Data.List.Count
import Mathlib.Logic.Function.Basic

/-!
# Placements: families of lists without repetition

A family of lists `lists : Key → List Elem` is a placement when every element has at
most one position in the whole family. This is the shape of any system that moves
items between queues: an item that is nowhere may be put into one list, and an item
that is taken out of its list is nowhere afterwards.

Every operation on one list of a placement is an instance of two rules: `Placed.insert`
(the new list is a permutation of the old one with an absent element in front) and
`Placed.sublist` (elements are only dropped).
-/

namespace Placement

universe u v w

variable {Key : Type u} {Elem : Type v}

/-- Every element has at most one position in the family. -/
structure Placed (lists : Key → List Elem) : Prop where
  nodup : ∀ key, (lists key).Nodup
  unique : ∀ {key key' elem}, elem ∈ lists key → elem ∈ lists key' → key = key'

/-- The element is in no list of the family. -/
def Absent (lists : Key → List Elem) (elem : Elem) : Prop := ∀ key, elem ∉ lists key

/-- The element is in the list `key` exactly once and in no other list. -/
def OnlyAt [DecidableEq Elem] (lists : Key → List Elem) (elem : Elem) (home : Key) : Prop :=
  (lists home).count elem = 1 ∧ ∀ key, key ≠ home → elem ∉ lists key

theorem placed_empty : Placed (fun _ : Key => ([] : List Elem)) :=
  ⟨fun _ => List.nodup_nil, fun memLeft => by simp at memLeft⟩

theorem absent_empty (elem : Elem) : Absent (fun _ : Key => []) elem := fun _ => List.not_mem_nil

theorem Placed.onlyAt [DecidableEq Elem] {lists : Key → List Elem} {elem : Elem} {home : Key}
    (placed : Placed lists) (elemMem : elem ∈ lists home) : OnlyAt lists elem home := by
  refine ⟨List.count_eq_one_of_mem (placed.nodup home) elemMem, ?_⟩
  intro key keyNe otherMem
  exact keyNe (placed.unique otherMem elemMem)

theorem OnlyAt.mem [DecidableEq Elem] {lists : Key → List Elem} {elem : Elem} {home : Key}
    (only : OnlyAt lists elem home) : elem ∈ lists home :=
  List.count_pos_iff.mp (by have := only.1; omega)

section Updates

variable [DecidableEq Key] {lists : Key → List Elem} {key : Key} {elem : Elem}

/-- Putting an absent element anywhere into one list keeps a placement. -/
theorem Placed.insert {inserted : List Elem} (placed : Placed lists) (absent : Absent lists elem)
    (perm : inserted.Perm (elem :: lists key)) :
    Placed (Function.update lists key inserted) := by
  have mem_inserted : ∀ {other}, other ∈ inserted → other = elem ∨ other ∈ lists key :=
    fun otherMem => by simpa using perm.mem_iff.mp otherMem
  constructor
  · intro key'
    rcases eq_or_ne key' key with rfl | keyNe
    · rw [Function.update_self, perm.nodup_iff, List.nodup_cons]
      exact ⟨absent key', placed.nodup key'⟩
    · rw [Function.update_of_ne keyNe]
      exact placed.nodup key'
  · intro left right other leftMem rightMem
    by_cases leftEq : left = key <;> by_cases rightEq : right = key
    · rw [leftEq, rightEq]
    · rw [leftEq, Function.update_self] at leftMem
      rw [Function.update_of_ne rightEq] at rightMem
      rcases mem_inserted leftMem with rfl | oldMem
      · exact absurd rightMem (absent right)
      · rw [leftEq]
        exact placed.unique oldMem rightMem
    · rw [rightEq, Function.update_self] at rightMem
      rw [Function.update_of_ne leftEq] at leftMem
      rcases mem_inserted rightMem with rfl | oldMem
      · exact absurd leftMem (absent left)
      · rw [rightEq]
        exact placed.unique leftMem oldMem
    · rw [Function.update_of_ne leftEq] at leftMem
      rw [Function.update_of_ne rightEq] at rightMem
      exact placed.unique leftMem rightMem

theorem Placed.append (placed : Placed lists) (absent : Absent lists elem) :
    Placed (Function.update lists key (lists key ++ [elem])) :=
  placed.insert absent (List.perm_append_singleton elem (lists key))

/-- Dropping elements from one list keeps a placement. -/
theorem Placed.sublist {kept : List Elem} (placed : Placed lists)
    (sub : kept.Sublist (lists key)) : Placed (Function.update lists key kept) := by
  have mem_update : ∀ {key' other}, other ∈ Function.update lists key kept key' →
      other ∈ lists key' := by
    intro key' other otherMem
    rcases eq_or_ne key' key with rfl | keyNe
    · rw [Function.update_self] at otherMem
      exact sub.subset otherMem
    · rwa [Function.update_of_ne keyNe] at otherMem
  constructor
  · intro key'
    rcases eq_or_ne key' key with rfl | keyNe
    · rw [Function.update_self]
      exact (placed.nodup key').sublist sub
    · rw [Function.update_of_ne keyNe]
      exact placed.nodup key'
  · exact fun leftMem rightMem => placed.unique (mem_update leftMem) (mem_update rightMem)

theorem Placed.tail {rest : List Elem} (placed : Placed lists)
    (shape : lists key = elem :: rest) : Placed (Function.update lists key rest) :=
  placed.sublist (by rw [shape]; exact List.sublist_cons_self elem rest)

/-- An element taken from the front of its list is absent afterwards. -/
theorem Placed.absent_tail {rest : List Elem} (placed : Placed lists)
    (shape : lists key = elem :: rest) : Absent (Function.update lists key rest) elem := by
  intro key'
  rcases eq_or_ne key' key with rfl | keyNe
  · have nodup := placed.nodup key'
    rw [shape, List.nodup_cons] at nodup
    rw [Function.update_self]
    exact nodup.1
  · rw [Function.update_of_ne keyNe]
    intro elemMem
    exact keyNe (placed.unique elemMem (by rw [shape]; simp))

theorem Absent.append {other : Elem} (absent : Absent lists other) (otherNe : other ≠ elem) :
    Absent (Function.update lists key (lists key ++ [elem])) other := by
  intro key'
  rcases eq_or_ne key' key with rfl | keyNe
  · rw [Function.update_self]
    simp [absent key', otherNe]
  · rw [Function.update_of_ne keyNe]
    exact absent key'

theorem Absent.sublist {kept : List Elem} (absent : Absent lists elem)
    (sub : kept.Sublist (lists key)) : Absent (Function.update lists key kept) elem := by
  intro key'
  rcases eq_or_ne key' key with rfl | keyNe
  · rw [Function.update_self]
    exact fun elemMem => absent key' (sub.subset elemMem)
  · rw [Function.update_of_ne keyNe]
    exact absent key'

end Updates

section Maps

variable {Elem' : Type w} {lists : Key → List Elem} {embed : Key → Elem → Elem'}

/-- Renaming the elements of a placement list by list, without identifying any two. -/
theorem Placed.map (placed : Placed lists)
    (injective : ∀ {key key' elem elem'}, embed key elem = embed key' elem' → elem = elem') :
    Placed (fun key => (lists key).map (embed key)) := by
  constructor
  · intro key
    exact (placed.nodup key).map fun _ _ same => injective same
  · intro left right image leftMem rightMem
    rcases List.mem_map.mp leftMem with ⟨elem, elemMem, rfl⟩
    rcases List.mem_map.mp rightMem with ⟨elem', elemMem', same⟩
    rw [injective same] at elemMem'
    exact placed.unique elemMem elemMem'

end Maps

end Placement
