import ArmKernel.Queue.Shape

/-!
# Queues as lists of nodes

`heap.Models family lists` states that the queues of a heap that are in use are
well-formed and hold the nodes `lists`: the chain from `front` visits exactly these nodes
and ends in NULL, `elements` is their number and `back` is the last of them when there
is one. The lists form a placement, so no node is in two queues. A node that was
initialised carries its payload, and its link is NULL while it is in no queue.

Each operation of queue.c then acts on one list and leaves the others alone. `back` is
stale while a queue is empty; this is sound because every operation tests `elements`.
-/

namespace ArmKernel

open LinkedChain Placement

universe u

variable {Q N D : Type u}

/-- Which queues and nodes of a heap are in use, and the data pointers of the nodes. -/
structure QueueFamily (Q N D : Type u) where
  live : Q → Prop
  /-- The queues whose `back` is maintained, as `queue_put` needs it. -/
  backed : Q → Prop
  inited : N → Prop
  payload : N → D

/-- The family with one more queue. -/
def QueueFamily.addQueue (family : QueueFamily Q N D) (ctx : Q) : QueueFamily Q N D :=
  { family with live := fun other => family.live other ∨ other = ctx }

/-- The family with one more initialised node. -/
def QueueFamily.addNode (family : QueueFamily Q N D) (node : N) : QueueFamily Q N D :=
  { family with inited := fun other => family.inited other ∨ other = node }

structure QueueHeap.Models (heap : QueueHeap Q N D) (family : QueueFamily Q N D)
    (lists : Q → List N) : Prop where
  placed : Placed lists
  chain : ∀ ctx, family.live ctx → IsChain heap.next (heap.queue ctx).front (lists ctx)
  elements : ∀ ctx, family.live ctx → (heap.queue ctx).elements.toNat = (lists ctx).length
  back : ∀ ctx, family.live ctx → family.backed ctx →
    ∀ node ∈ (lists ctx).getLast?, (heap.queue ctx).back = some node
  dead : ∀ ctx, ¬family.live ctx → lists ctx = []
  member : ∀ ctx, ∀ node ∈ lists ctx, family.inited node
  data : ∀ node, family.inited node → (heap.node node).data = some (family.payload node)
  unlinked : ∀ node, family.inited node → Absent lists node → heap.next node = none

namespace QueueHeap

variable {heap heap' : QueueHeap Q N D} {family : QueueFamily Q N D} {lists : Q → List N}
  {ctx : Q} {node : N}

theorem Models.linked (models : heap.Models family lists) :
    heap.Linked family.live family.backed lists :=
  ⟨models.placed,
    fun ctx isLive => ⟨models.chain ctx isLive, models.elements ctx isLive, models.back ctx isLive⟩,
    models.dead⟩

theorem Models.stores (models : heap.Models family lists) (isLive : family.live ctx) :
    heap.Stores ctx (family.backed ctx) (lists ctx) := models.linked.stores ctx isLive

theorem Models.queueEmpty_iff (models : heap.Models family lists)
    (isLive : family.live ctx) : queueEmpty heap ctx = true ↔ lists ctx = [] :=
  (models.stores isLive).queueEmpty_iff

/-- The nodes that a walk over the queue visits are the list it models. -/
theorem Models.walk_eq (models : heap.Models family lists) (isLive : family.live ctx) :
    walk heap.next (heap.queue ctx).elements.toNat (heap.queue ctx).front = lists ctx :=
  (models.stores isLive).walk_eq

/-- Two heaps that hold the same nodes in the same queues have the same queues, but for the
back pointers of those that are empty. -/
theorem Models.queue_eq (models : heap.Models family lists) (models' : heap'.Models family lists)
    (isLive : family.live ctx) :
    (heap'.queue ctx).front = (heap.queue ctx).front ∧
      (heap'.queue ctx).elements = (heap.queue ctx).elements ∧
      (family.backed ctx → lists ctx ≠ [] → (heap'.queue ctx).back = (heap.queue ctx).back) := by
  have chain := models.chain ctx isLive
  have chain' := models'.chain ctx isLive
  have elements := models.elements ctx isLive
  have elements' := models'.elements ctx isLive
  refine ⟨(chain.links chain').1, BitVec.toNat_inj.mp (elements'.trans elements.symm), ?_⟩
  intro isBacked nonempty
  have lastMem := List.getLast?_eq_some_getLast nonempty
  rw [models.back ctx isLive isBacked _ lastMem, models'.back ctx isLive isBacked _ lastMem]

theorem Models.node_eq (models : heap.Models family lists) (models' : heap'.Models family lists)
    (isInited : family.inited node) : heap'.node node = heap.node node := by
  have sameData : (heap'.node node).data = (heap.node node).data := by
    rw [models.data node isInited, models'.data node isInited]
  have sameNext : heap'.next node = heap.next node := by
    by_cases absent : Absent lists node
    · rw [models.unlinked node isInited absent, models'.unlinked node isInited absent]
    · rcases not_forall_not.mp absent with ⟨ctx, nodeMem⟩
      by_cases isLive : family.live ctx
      · exact ((models.chain ctx isLive).links (models'.chain ctx isLive)).2 node nodeMem
      · simp [models.dead ctx isLive] at nodeMem
  exact QueueNode.ext sameData sameNext

/-- What is inserted into a queue is initialised, if the inserted node is. -/
theorem Models.members_insert {changed : List N} (models : heap.Models family lists)
    (isInited : family.inited node) (perm : changed.Perm (node :: lists ctx)) :
    ∀ other ∈ changed, family.inited other := by
  intro other otherMem
  rcases List.mem_cons.mp (perm.mem_iff.mp otherMem) with rfl | oldMem
  · exact isInited
  · exact models.member ctx other oldMem

variable [DecidableEq Q]

/--
The rule for all operations on one queue: if only this queue is written, and its new nodes are
initialised, every queue still holds its nodes.
-/
theorem Models.replace {changed : List N} (models : heap.Models family lists)
    (isLive : family.live ctx)
    (placed : Placed (Function.update lists ctx changed))
    (members : ∀ node ∈ changed, family.inited node)
    (stores : heap'.Stores ctx (family.backed ctx) changed)
    (written : heap.Written heap' ctx (lists ctx) changed) :
    heap'.Models family (Function.update lists ctx changed) := by
  have linked := models.linked.replace isLive placed stores written
  refine ⟨placed, ?_, ?_, ?_, linked.dead, ?_, ?_, ?_⟩
  · exact fun other otherLive => (linked.stores other otherLive).chain
  · exact fun other otherLive => (linked.stores other otherLive).elements
  · exact fun other otherLive => (linked.stores other otherLive).back
  · intro other node nodeMem
    rcases eq_or_ne other ctx with rfl | otherNe
    · rw [Function.update_self] at nodeMem
      exact members node nodeMem
    · rw [Function.update_of_ne otherNe] at nodeMem
      exact models.member other node nodeMem
  · intro node nodeInited
    rw [written.sameData]
    exact models.data node nodeInited
  · intro node nodeInited absent
    have notChanged : node ∉ changed := by simpa using absent ctx
    by_cases nodeMem : node ∈ lists ctx
    · exact written.removed node nodeMem notChanged
    · rw [written.outside node nodeMem notChanged]
      apply models.unlinked node nodeInited
      intro other otherMem
      rcases eq_or_ne other ctx with rfl | otherNe
      · exact nodeMem otherMem
      · exact absent other (by rwa [Function.update_of_ne otherNe])

theorem Models.queueInit (models : heap.Models family lists) (ctx : Q)
    (isDead : ¬family.live ctx) :
    (queueInit heap ctx).Models (family.addQueue ctx) lists where
  placed := models.placed
  chain := by
    intro other otherLive
    rcases eq_or_ne other ctx with rfl | otherNe
    · simp [ArmKernel.queueInit, models.dead other isDead]
    · simpa [ArmKernel.queueInit, otherNe] using
        models.chain other (otherLive.resolve_right otherNe)
  elements := by
    intro other otherLive
    rcases eq_or_ne other ctx with rfl | otherNe
    · simp [ArmKernel.queueInit, models.dead other isDead]
    · simpa [ArmKernel.queueInit, otherNe] using
        models.elements other (otherLive.resolve_right otherNe)
  back := by
    intro other otherLive otherBacked
    rcases eq_or_ne other ctx with rfl | otherNe
    · simp [models.dead other isDead]
    · simpa [ArmKernel.queueInit, otherNe] using
        models.back other (otherLive.resolve_right otherNe) otherBacked
  dead := fun other otherDead => models.dead other fun isLive => otherDead (Or.inl isLive)
  member := models.member
  data := models.data
  unlinked := models.unlinked

variable [DecidableEq N]

omit [DecidableEq Q] in
/-- Initialising an unused node gives it its payload and no link. -/
theorem Models.queueNodeInit (models : heap.Models family lists) (node : N)
    (unused : ¬family.inited node) :
    (queueNodeInit heap node (some (family.payload node))).Models (family.addNode node)
      lists where
  placed := models.placed
  chain := by
    intro ctx isLive
    have outside : node ∉ lists ctx := fun nodeMem => unused (models.member ctx node nodeMem)
    simpa [ArmKernel.queueNodeInit] using (models.chain ctx isLive).update outside
  elements := models.elements
  back := models.back
  dead := models.dead
  member := fun ctx other otherMem => Or.inl (models.member ctx other otherMem)
  data := by
    intro other otherInited
    rcases eq_or_ne other node with rfl | otherNe
    · simp [ArmKernel.queueNodeInit, setNode, QueueFamily.addNode]
    · simpa [ArmKernel.queueNodeInit, setNode, QueueFamily.addNode, otherNe] using
        models.data other (otherInited.resolve_right otherNe)
  unlinked := by
    intro other otherInited absent
    rcases eq_or_ne other node with rfl | otherNe
    · simp [ArmKernel.queueNodeInit]
    · simpa [ArmKernel.queueNodeInit, otherNe] using
        models.unlinked other (otherInited.resolve_right otherNe) absent

section Operations

variable [Fintype N]

/-- `queue_put` appends a node that is in no queue. -/
theorem Models.queuePut (models : heap.Models family lists) (isLive : family.live ctx)
    (isBacked : family.backed ctx) (isInited : family.inited node)
    (absent : Absent lists node) (small : Fintype.card N < 2 ^ 32) :
    ∃ heap', queuePut heap ctx (some node) = some (0, heap') ∧
      heap'.Models family (Function.update lists ctx (lists ctx ++ [node])) := by
  have room := room_of_absent models.placed small absent ctx
  have members := models.members_insert isInited (List.perm_append_singleton node (lists ctx))
  rcases (models.stores isLive).queuePut isBacked (absent ctx) room with
    ⟨heap', put, stores, written⟩
  exact ⟨heap', put,
    models.replace isLive (models.placed.append absent) members stores written⟩

/-- `queue_put_front` prepends a node that is in no queue. -/
theorem Models.queuePutFront (models : heap.Models family lists) (isLive : family.live ctx)
    (isInited : family.inited node) (absent : Absent lists node)
    (small : Fintype.card N < 2 ^ 32) :
    ∃ heap', queuePutFront heap ctx (some node) = (0, heap') ∧
      heap'.Models family (Function.update lists ctx (node :: lists ctx)) := by
  have room := room_of_absent models.placed small absent ctx
  have perm := List.Perm.refl (node :: lists ctx)
  rcases (models.stores isLive).queuePutFront (absent ctx) room with
    ⟨heap', put, stores, written⟩
  exact ⟨heap', put, models.replace isLive (models.placed.insert absent perm)
    (models.members_insert isInited perm) stores written⟩

/-- A node that is linked behind another by hand goes there. If `back` is maintained, that is not
the end. -/
theorem Models.insert_after {fresh : N} {front rest : List N} (models : heap.Models family lists)
    (isLive : family.live ctx) (notLast : family.backed ctx → rest ≠ [])
    (isInited : family.inited fresh) (absent : Absent lists fresh)
    (small : Fintype.card N < 2 ^ 32) (shape : lists ctx = front ++ node :: rest) :
    (((heap.setNext fresh (heap.node node).next).setNext node (some fresh)).setQueue ctx
        { heap.queue ctx with elements := (heap.queue ctx).elements + 1 }).Models family
      (Function.update lists ctx (front ++ node :: fresh :: rest)) := by
  have perm : (front ++ node :: fresh :: rest).Perm (fresh :: lists ctx) := by
    rw [shape, List.append_cons]
    exact List.perm_middle.trans (by rw [List.append_assoc, List.singleton_append])
  have room := room_of_absent models.placed small absent ctx
  have isFresh := absent ctx
  have stores := models.stores isLive
  rw [shape] at room isFresh stores
  rcases stores.insert_after isFresh room notLast with ⟨inserted, written⟩
  rw [← shape] at written
  exact models.replace isLive (models.placed.insert absent perm)
    (models.members_insert isInited perm) inserted written

end Operations

omit [DecidableEq Q] [DecidableEq N] in
theorem Models.queuePeek (models : heap.Models family lists) (isLive : family.live ctx)
    {rest : List N} (shape : lists ctx = node :: rest) :
    queuePeek heap ctx = some (some (family.payload node)) := by
  have stores := models.stores isLive
  rw [shape] at stores
  rw [stores.queuePeek, models.data node (models.member ctx node (by simp [shape]))]

/-- `queue_get` returns NULL on an empty queue and changes nothing. -/
theorem Models.queueGet_nil (models : heap.Models family lists) (isLive : family.live ctx)
    (shape : lists ctx = []) : queueGet heap ctx = some (none, heap) := by
  have stores := models.stores isLive
  rw [shape] at stores
  exact stores.queueGet_nil

/-- `queue_get` removes the first node and returns its data. -/
theorem Models.queueGet_cons (models : heap.Models family lists) (isLive : family.live ctx)
    {rest : List N} (shape : lists ctx = node :: rest) :
    ∃ heap', queueGet heap ctx = some (some (family.payload node), heap') ∧
      heap'.Models family (Function.update lists ctx rest) := by
  have data := models.data node (models.member ctx node (by simp [shape]))
  have stores := models.stores isLive
  rw [shape] at stores
  rcases stores.queueGet_cons with ⟨heap', got, kept, written⟩
  rw [data] at got
  rw [← shape] at written
  refine ⟨heap', got, models.replace isLive (models.placed.tail shape) ?_ kept written⟩
  exact fun other otherMem => models.member ctx other (by simp [shape, otherMem])

end QueueHeap

end ArmKernel
