import Mathlib.Data.List.Basic

/-!
# Bounded queues

A first-in first-out queue that holds at most `capacity` items. An item that does not fit is
refused, several items are taken together or not at all, and the oldest item is the first to
leave. That the bound holds is a field, so every operation keeps it.
-/

universe u

structure BoundedFifo (Item : Type u) (capacity : ℕ) where
  /-- The items, oldest first. -/
  items : List Item
  bounded : items.length ≤ capacity

namespace BoundedFifo

variable {Item : Type u} {capacity : ℕ}

def empty (Item : Type u) (capacity : ℕ) : BoundedFifo Item capacity := ⟨[], Nat.zero_le capacity⟩

/-- Add items if all of them fit. -/
def putn (fifo : BoundedFifo Item capacity) (added : List Item) :
    Bool × BoundedFifo Item capacity :=
  if room : fifo.items.length + added.length ≤ capacity then
    (true, ⟨fifo.items ++ added, by rwa [List.length_append]⟩)
  else
    (false, fifo)

def put (fifo : BoundedFifo Item capacity) (item : Item) : Bool × BoundedFifo Item capacity :=
  fifo.putn [item]

def get (fifo : BoundedFifo Item capacity) : Option Item × BoundedFifo Item capacity :=
  (fifo.items.head?, ⟨fifo.items.tail,
    Nat.le_trans (List.tail_sublist fifo.items).length_le fifo.bounded⟩)

variable {fifo : BoundedFifo Item capacity} {added : List Item} {item : Item}

theorem putn_eq_true_iff :
    (fifo.putn added).1 = true ↔ fifo.items.length + added.length ≤ capacity := by
  simp only [putn]
  split_ifs with room <;> simp [room]

theorem putn_items (room : fifo.items.length + added.length ≤ capacity) :
    (fifo.putn added).2.items = fifo.items ++ added := by
  simp only [putn, dif_pos room]

theorem putn_unchanged (refused : (fifo.putn added).1 = false) : (fifo.putn added).2 = fifo := by
  have noRoom : ¬fifo.items.length + added.length ≤ capacity := by
    rw [← putn_eq_true_iff, refused]
    exact Bool.false_ne_true
  simp only [putn, dif_neg noRoom]

theorem put_eq_true_iff : (fifo.put item).1 = true ↔ fifo.items.length < capacity := by
  simp only [put, putn_eq_true_iff, List.length_singleton, Nat.add_one_le_iff]

theorem put_items (room : fifo.items.length < capacity) :
    (fifo.put item).2.items = fifo.items ++ [item] := putn_items room

theorem put_unchanged (refused : (fifo.put item).1 = false) : (fifo.put item).2 = fifo :=
  putn_unchanged refused

theorem get_items {oldest : Item} {others : List Item} (nonempty : fifo.items = oldest :: others) :
    fifo.get.1 = some oldest ∧ fifo.get.2.items = others := by
  simp only [get, nonempty, List.head?_cons, List.tail_cons, and_self]

theorem get_empty (isEmpty : fifo.items = []) : fifo.get.1 = none ∧ fifo.get.2.items = [] := by
  simp only [get, isEmpty, List.head?_nil, List.tail_nil, and_self]

end BoundedFifo
