import ArmKernel.Queue.Shape

/-!
# Moving a node to the front

queue.h promises that `queue_mtf` moves the node behind `parent` to the front of the queue. The
function links that node to `parent`, which is the next node of the new order only if `parent`
was the first; otherwise all nodes before `parent` drop out of the chain. Nor does it write the
back pointer, which is wrong when the node that moves was the last. The only call, in
`name_map_find`, is commented out as broken.
-/

namespace ArmKernel

open LinkedChain QueueHeap

universe u

variable {Q N D : Type u} [DecidableEq Q] [DecidableEq N] {heap : QueueHeap Q N D} {ctx : Q}
  {front rest : List N} {parent successor : N}

/-- The function succeeds, and the chain goes on from the node that has moved to its former
parent and to what was behind both. The count of the nodes and the back pointer are as before. -/
theorem queueMtf_chain (isQueue : heap.IsQueue ctx (front ++ parent :: successor :: rest)) :
    ∃ heap', queueMtf heap ctx (some parent) = (0, heap') ∧
      IsChain heap'.next (heap'.queue ctx).front (successor :: parent :: rest) ∧
      (heap'.queue ctx).elements = (heap.queue ctx).elements ∧
      (heap'.queue ctx).back = (heap.queue ctx).back := by
  have hasNext : (heap.node parent).next = some successor :=
    (isChain_cons.mp isQueue.chain.of_append).1
  have nonempty : queueEmpty heap ctx = false := by
    rw [Bool.eq_false_iff, ne_eq, isQueue.queueEmpty_iff]
    simp
  have chain : IsChain (Function.update (Function.update heap.next parent
      (heap.node successor).next) successor (some parent)) (some successor)
      (successor :: parent :: rest) := isQueue.chain.swap
  refine ⟨_, by simp only [queueMtf, hasNext, nonempty]; rfl, ?_, ?_, ?_⟩
  · simpa using chain
  · simp
  · simp

/-- It keeps the queue, with the successor of `parent` in front of all others, if and only if
`parent` is the first node and its successor not the last. -/
theorem queueMtf_isQueue_iff
    (isQueue : heap.IsQueue ctx (front ++ parent :: successor :: rest)) :
    (queueMtf heap ctx (some parent)).1 = 0 ∧
        (queueMtf heap ctx (some parent)).2.IsQueue ctx (successor :: (front ++ parent :: rest)) ↔
      front = [] ∧ rest ≠ [] := by
  rcases queueMtf_chain isQueue with ⟨heap', moved, chain, elements, back⟩
  have nodup := isQueue.chain.nodup
  rw [moved]
  constructor
  · rintro ⟨-, keeps⟩
    have sameNodes := keeps.chain.unique chain
    have noneBefore : front = [] := by
      have lengths := congrArg List.length sameNodes
      simp only [List.length_cons, List.length_append] at lengths
      exact List.length_eq_zero_iff.mp (by omega)
    refine ⟨noneBefore, ?_⟩
    -- with nothing behind the successor, `back` still points to it
    rintro rfl
    subst noneBefore
    have oldBack := isQueue.back trivial successor (by simp)
    have newBack := keeps.back trivial parent (by simp)
    rw [back, oldBack] at newBack
    have same : successor = parent := Option.some.inj newBack
    simp [same] at nodup
  · rintro ⟨rfl, restNonempty⟩
    refine ⟨rfl, chain, ?_, ?_⟩
    · rw [elements, isQueue.elements]
      rfl
    · intro _ last lastMem
      rcases List.exists_cons_of_ne_nil restNonempty with ⟨second, others, rfl⟩
      rw [back]
      exact isQueue.back trivial last lastMem

/-- The queue of the nodes 0, 1 and 2. -/
def threeNodes : QueueHeap Unit (Fin 3) Unit where
  queue _ := ⟨some 0, some 2, 3⟩
  node node := ⟨none, if node = 0 then some 1 else if node = 1 then some 2 else none⟩

theorem threeNodes_isQueue : threeNodes.IsQueue () [0, 1, 2] where
  chain := by simp [threeNodes, QueueHeap.next]
  elements := rfl
  back := by simp [threeNodes]

/-- The last of three nodes is moved to the front: the first of them is lost. -/
theorem queueMtf_loses_first : ¬∀ (heap : QueueHeap Unit (Fin 3) Unit) (front rest : List (Fin 3))
    (parent successor : Fin 3), heap.IsQueue () (front ++ parent :: successor :: rest) →
    (queueMtf heap () (some parent)).1 = 0 ∧
      (queueMtf heap () (some parent)).2.IsQueue () (successor :: (front ++ parent :: rest)) := by
  intro keeps
  have kept := (keeps threeNodes [0] [] 1 2 threeNodes_isQueue).2
  have elements := kept.walk_eq
  revert elements
  decide

/-- The second of three nodes is moved to the front. -/
theorem queueMtf_isQueue_iff_second :
    (queueMtf threeNodes () (some 0)).2.IsQueue () [1, 0, 2] :=
  ((@queueMtf_isQueue_iff Unit (Fin 3) Unit _ _ threeNodes () [] [2] 0 1 threeNodes_isQueue).mpr
    ⟨rfl, by simp⟩).2

end ArmKernel
