import ArmKernel.Lib.Chain
import ArmKernel.Lib.Placement
import ArmKernel.Queue
import Mathlib.Data.Fintype.Card

/-!
# The shape of queues

`heap.Stores ctx backed nodes` states that a queue holds the nodes: the chain from `front`
visits exactly these and ends in NULL, `elements` is their number and, where the back pointer
is maintained, it is the last of them when there is one. Nothing is said about the data of the
nodes, nor about the links of the nodes that are in no queue.

Each operation of queue.c acts on the list of one queue, and `Written` says what it writes.
Queues that share no node are `Linked`, and an operation on one of them leaves the lists of the
others alone. `back` is stale while a queue is empty; this is sound because every operation
tests `elements`.
-/

namespace ArmKernel

open LinkedChain Placement

universe u

variable {Q N D : Type u}

namespace QueueHeap

structure Stores (heap : QueueHeap Q N D) (ctx : Q) (backed : Prop) (nodes : List N) :
    Prop where
  chain : IsChain heap.next (heap.queue ctx).front nodes
  elements : (heap.queue ctx).elements.toNat = nodes.length
  back : backed → ∀ node ∈ nodes.getLast?, (heap.queue ctx).back = some node

/-- The queue is well-formed and holds the nodes: all that the operations of queue.c rely on. -/
def IsQueue (heap : QueueHeap Q N D) (ctx : Q) (nodes : List N) : Prop :=
  heap.Stores ctx True nodes

/-- Of the queues one was written, and of the nodes only the links of those in its old or its new
list. The nodes that have left it are linked to none. -/
structure Written (heap heap' : QueueHeap Q N D) (ctx : Q) (old new : List N) : Prop where
  others : ∀ other, other ≠ ctx → heap'.queue other = heap.queue other
  sameData : ∀ node, (heap'.node node).data = (heap.node node).data
  outside : ∀ node, node ∉ old → node ∉ new → heap'.next node = heap.next node
  removed : ∀ node ∈ old, node ∉ new → heap'.next node = none

/-- The queues that are in use hold the nodes, and no node is in two of them. -/
structure Linked (heap : QueueHeap Q N D) (live backed : Q → Prop) (lists : Q → List N) :
    Prop where
  placed : Placed lists
  stores : ∀ ctx, live ctx → heap.Stores ctx (backed ctx) (lists ctx)
  dead : ∀ ctx, ¬live ctx → lists ctx = []

/-- All queues are well-formed and hold the nodes, and no node is in two of them. -/
structure IsFamily (heap : QueueHeap Q N D) (lists : Q → List N) : Prop where
  placed : Placed lists
  queues : ∀ ctx, heap.IsQueue ctx (lists ctx)

section OneQueue

variable {heap : QueueHeap Q N D} {ctx : Q} {backed : Prop} {nodes rest : List N} {node : N}

theorem Stores.elements_eq_zero_iff (stores : heap.Stores ctx backed nodes) :
    (heap.queue ctx).elements = 0 ↔ nodes = [] := by
  rw [← List.length_eq_zero_iff, ← stores.elements, ← BitVec.toNat_inj]
  rfl

theorem Stores.queueEmpty_iff (stores : heap.Stores ctx backed nodes) :
    queueEmpty heap ctx = true ↔ nodes = [] := by
  rw [← stores.elements_eq_zero_iff, queueEmpty, queueSize, beq_iff_eq]

theorem Stores.queueEmpty_cons (stores : heap.Stores ctx backed (node :: rest)) :
    queueEmpty heap ctx = false := by
  rw [Bool.eq_false_iff, ne_eq, stores.queueEmpty_iff]
  exact List.cons_ne_nil _ _

/-- The nodes that a walk over the queue visits are those that it holds. -/
theorem Stores.walk_eq (stores : heap.Stores ctx backed nodes) :
    walk heap.next (heap.queue ctx).elements.toNat (heap.queue ctx).front = nodes := by
  rw [stores.elements]
  exact stores.chain.walk_eq

theorem Stores.queuePeek (stores : heap.Stores ctx backed (node :: rest)) :
    queuePeek heap ctx = some (heap.node node).data := by
  have front : (heap.queue ctx).front = some node := stores.chain.1
  simp only [ArmKernel.queuePeek, stores.queueEmpty_cons, front]
  rfl

/-- `queue_get` returns NULL on an empty queue and changes nothing. -/
theorem Stores.queueGet_nil [DecidableEq Q] [DecidableEq N] (stores : heap.Stores ctx backed []) :
    queueGet heap ctx = some (none, heap) := by
  rw [queueGet, if_pos (stores.queueEmpty_iff.mpr rfl)]

/-- A queue that `queue_init` has set up holds nothing. -/
theorem queueInit_stores [DecidableEq Q] (heap : QueueHeap Q N D) (ctx : Q) (backed : Prop) :
    (queueInit heap ctx).Stores ctx backed [] := by
  refine ⟨?_, ?_, ?_⟩
  · simp [queueInit]
  · simp [queueInit]
  · simp

theorem toNat_elements_succ {elements : Word} {count : ℕ} (counted : elements.toNat = count)
    (room : count + 1 < 2 ^ 32) : (elements + 1).toNat = count + 1 := by
  rw [BitVec.toNat_add, counted]
  exact Nat.mod_eq_of_lt room

variable [DecidableEq Q] [DecidableEq N]

/-- `queue_put` appends a node. -/
theorem Stores.queuePut (stores : heap.Stores ctx backed nodes) (isBacked : backed)
    (fresh : node ∉ nodes) (room : nodes.length + 1 < 2 ^ 32) :
    ∃ heap', queuePut heap ctx (some node) = some (0, heap') ∧
      heap'.Stores ctx backed (nodes ++ [node]) ∧
      heap.Written heap' ctx nodes (nodes ++ [node]) := by
  have count := toNat_elements_succ stores.elements room
  have outside : ∀ other, other ∉ nodes ++ [node] → other ≠ node := by
    rintro other notChanged rfl
    apply notChanged
    exact List.mem_append_right _ List.mem_cons_self
  rcases List.eq_nil_or_concat nodes with rfl | ⟨front, last, shape⟩
  · have noElements := stores.elements_eq_zero_iff.mpr rfl
    refine ⟨_, by simp only [ArmKernel.queuePut, noElements]; rfl, ⟨?_, ?_, ?_⟩, ?_⟩
    · simp
    · simp
    · simp
    · refine ⟨?_, ?_, ?_, ?_⟩
      · intro other otherNe
        simp [otherNe]
      · simp
      · intro other _ notChanged
        simp [outside other notChanged]
      · simp
  · rw [List.concat_eq_append] at shape
    subst shape
    have hasElements : (heap.queue ctx).elements ≠ 0 := by
      rw [ne_eq, stores.elements_eq_zero_iff]
      simp
    have back : (heap.queue ctx).back = some last := stores.back isBacked last (by simp)
    refine ⟨_, by simp only [ArmKernel.queuePut, hasElements, back]; rfl, ⟨?_, ?_, ?_⟩, ?_⟩
    · simpa using stores.chain.append_fresh fresh
    · simpa using count
    · simp
    · refine ⟨?_, ?_, ?_, ?_⟩
      · intro other otherNe
        simp [otherNe]
      · simp
      · intro other notOld notChanged
        have otherNeLast : other ≠ last := by
          rintro rfl
          simp at notOld
        simp [outside other notChanged, otherNeLast]
      · intro other oldMem notChanged
        exact absurd (List.mem_append_left [node] oldMem) notChanged

/-- `queue_put_front` prepends a node. -/
theorem Stores.queuePutFront (stores : heap.Stores ctx backed nodes) (fresh : node ∉ nodes)
    (room : nodes.length + 1 < 2 ^ 32) :
    ∃ heap', queuePutFront heap ctx (some node) = (0, heap') ∧
      heap'.Stores ctx backed (node :: nodes) ∧
      heap.Written heap' ctx nodes (node :: nodes) := by
  have count := toNat_elements_succ stores.elements room
  have outside : ∀ other, other ∉ node :: nodes → other ≠ node := by
    rintro other notChanged rfl
    exact notChanged List.mem_cons_self
  cases nodes with
  | nil =>
      have noElements := stores.elements_eq_zero_iff.mpr rfl
      refine ⟨_, by simp only [ArmKernel.queuePutFront, noElements]; rfl, ⟨?_, ?_, ?_⟩, ?_⟩
      · simp
      · simp
      · simp
      · refine ⟨?_, ?_, ?_, ?_⟩
        · intro other otherNe
          simp [otherNe]
        · simp
        · intro other _ notChanged
          simp [outside other notChanged]
        · simp
  | cons first others =>
      have hasElements : (heap.queue ctx).elements ≠ 0 := by
        rw [ne_eq, stores.elements_eq_zero_iff]
        simp
      have chain : IsChain (Function.update heap.next node (heap.queue ctx).front)
          (heap.queue ctx).front (first :: others) := stores.chain.update fresh
      refine ⟨_, by simp only [ArmKernel.queuePutFront, hasElements]; rfl, ⟨?_, ?_, ?_⟩, ?_⟩
      · simpa using chain
      · simpa using count
      · intro isBacked last lastMem
        rw [List.getLast?_cons_cons] at lastMem
        simpa using stores.back isBacked last lastMem
      · refine ⟨?_, ?_, ?_, ?_⟩
        · intro other otherNe
          simp [otherNe]
        · simp
        · intro other _ notChanged
          simp [outside other notChanged]
        · intro other oldMem notChanged
          exact absurd (List.mem_cons_of_mem node oldMem) notChanged

/-- `queue_get` removes the first node and returns its data. -/
theorem Stores.queueGet_cons (stores : heap.Stores ctx backed (node :: rest)) :
    ∃ heap', queueGet heap ctx = some ((heap.node node).data, heap') ∧
      heap'.Stores ctx backed rest ∧ heap.Written heap' ctx (node :: rest) rest := by
  have front : (heap.queue ctx).front = some node := stores.chain.1
  have nonempty := stores.queueEmpty_cons
  have elements := stores.elements
  have chain : IsChain (Function.update heap.next node none) (heap.node node).next rest :=
    stores.chain.tail_update
  refine ⟨_, by simp only [queueGet, nonempty, front]; simp; rfl, ⟨?_, ?_, ?_⟩, ?_⟩
  · simpa using chain
  · have countLt := (heap.queue ctx).elements.isLt
    rw [List.length_cons] at elements
    simp only [setQueue_queue, Function.update_self, BitVec.toNat_sub]
    simp
    omega
  · intro isBacked last lastMem
    cases rest with
    | nil => simp at lastMem
    | cons second others =>
        have back := stores.back isBacked last
        rw [List.getLast?_cons_cons] at back
        simpa using back lastMem
  · refine ⟨?_, ?_, ?_, ?_⟩
    · intro other otherNe
      simp [otherNe]
    · simp
    · intro other notOld _
      have otherNe : other ≠ node := by
        rintro rfl
        exact notOld List.mem_cons_self
      simp [otherNe]
    · intro other oldMem notChanged
      rcases List.mem_cons.mp oldMem with rfl | kept
      · simp
      · exact absurd kept notChanged

/-- A node that is linked behind another by hand goes there. The back pointer is not written, so if
it is maintained that must not be the end. -/
theorem Stores.insert_after {fresh : N} {front : List N}
    (stores : heap.Stores ctx backed (front ++ node :: rest))
    (isFresh : fresh ∉ front ++ node :: rest)
    (room : (front ++ node :: rest).length + 1 < 2 ^ 32) (notLast : backed → rest ≠ []) :
    let heap' := ((heap.setNext fresh (heap.node node).next).setNext node (some fresh)).setQueue
      ctx { heap.queue ctx with elements := (heap.queue ctx).elements + 1 }
    heap'.Stores ctx backed (front ++ node :: fresh :: rest) ∧
      heap.Written heap' ctx (front ++ node :: rest) (front ++ node :: fresh :: rest) := by
  intro heap'
  have count := toNat_elements_succ stores.elements room
  have chain : IsChain (Function.update (Function.update heap.next fresh (heap.node node).next)
      node (some fresh)) (heap.queue ctx).front (front ++ node :: fresh :: rest) :=
    stores.chain.insert_after isFresh
  refine ⟨⟨?_, ?_, ?_⟩, ?_⟩
  · simpa [heap'] using chain
  · simpa [heap', add_assoc] using count
  · intro isBacked last lastMem
    rcases List.exists_cons_of_ne_nil (notLast isBacked) with ⟨second, others, rfl⟩
    have back := stores.back isBacked last
    simp only [List.getLast?_append, List.getLast?_cons_cons] at back lastMem
    simpa [heap'] using back lastMem
  · refine ⟨?_, ?_, ?_, ?_⟩
    · intro other otherNe
      simp [heap', otherNe]
    · simp [heap']
    · intro other notOld notChanged
      have otherNe : other ≠ fresh := by
        rintro rfl
        simp at notChanged
      have otherNeNode : other ≠ node := by
        rintro rfl
        simp at notOld
      simp [heap', otherNe, otherNeNode]
    · intro other oldMem notChanged
      simp only [List.mem_append, List.mem_cons] at oldMem notChanged
      tauto

end OneQueue

section Families

variable {heap heap' : QueueHeap Q N D} {live backed : Q → Prop} {lists : Q → List N} {ctx : Q}

/-- If one queue is written, every other queue still holds its nodes. -/
theorem Linked.replace [DecidableEq Q] {changed : List N} (linked : heap.Linked live backed lists)
    (isLive : live ctx) (placed : Placed (Function.update lists ctx changed))
    (stores : heap'.Stores ctx (backed ctx) changed)
    (written : heap.Written heap' ctx (lists ctx) changed) :
    heap'.Linked live backed (Function.update lists ctx changed) := by
  refine ⟨placed, ?_, ?_⟩
  · intro other otherLive
    rcases eq_or_ne other ctx with rfl | otherNe
    · rwa [Function.update_self]
    · rw [Function.update_of_ne otherNe]
      have before := linked.stores other otherLive
      refine ⟨?_, ?_, ?_⟩
      · rw [written.others other otherNe]
        apply before.chain.congr
        intro node nodeMem
        apply written.outside
        · exact fun ctxMem => otherNe (linked.placed.unique nodeMem ctxMem)
        · intro changedMem
          apply otherNe
          have oldMem : node ∈ Function.update lists ctx changed other := by
            rwa [Function.update_of_ne otherNe]
          have newMem : node ∈ Function.update lists ctx changed ctx := by
            rwa [Function.update_self]
          exact placed.unique oldMem newMem
      · rw [written.others other otherNe]
        exact before.elements
      · rw [written.others other otherNe]
        exact before.back
  · intro other otherDead
    rcases eq_or_ne other ctx with rfl | otherNe
    · exact absurd isLive otherDead
    · rw [Function.update_of_ne otherNe]
      exact linked.dead other otherDead

theorem isFamily_iff :
    heap.IsFamily lists ↔ heap.Linked (fun _ => True) (fun _ => True) lists := by
  constructor
  · intro family
    exact ⟨family.placed, fun ctx _ => family.queues ctx, fun _ isDead => absurd trivial isDead⟩
  · intro linked
    exact ⟨linked.placed, fun ctx => linked.stores ctx trivial⟩

theorem IsFamily.replace [DecidableEq Q] {changed : List N} (family : heap.IsFamily lists)
    (placed : Placed (Function.update lists ctx changed)) (isQueue : heap'.IsQueue ctx changed)
    (written : heap.Written heap' ctx (lists ctx) changed) :
    heap'.IsFamily (Function.update lists ctx changed) := by
  apply isFamily_iff.mpr
  exact (isFamily_iff.mp family).replace trivial placed isQueue written

/-- A node that is in no queue leaves room for it in each of them. -/
theorem room_of_absent [Fintype N] (placed : Placed lists) (small : Fintype.card N < 2 ^ 32)
    {node : N} (absent : Absent lists node) (ctx : Q) : (lists ctx).length + 1 < 2 ^ 32 := by
  have nodup : (node :: lists ctx).Nodup :=
    List.nodup_cons.mpr ⟨absent ctx, placed.nodup ctx⟩
  have bound := nodup.length_le_card
  rw [List.length_cons] at bound
  omega

end Families

end QueueHeap

end ArmKernel
