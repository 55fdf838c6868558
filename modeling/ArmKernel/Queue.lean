import ArmKernel.Memory

/-!
# Intrusive queues

The operations of queue.c on a memory that holds `queue_t` and `queue_node_t` objects.
Pointers to queues are the type `Q`, pointers to nodes the type `N`, and `void *data`
points into the type `D`; the null pointer is `none`.

An operation that follows a null pointer has no defined result, so the operations that
can do so are partial: `none` stands for such a fault. Each one takes the queue and the
node by reference, as in the source, and returns its result with the new memory.
-/

namespace ArmKernel

universe u

/-- `queue_node_t` -/
@[ext]
structure QueueNode (N D : Type u) where
  data : Option D
  next : Option N

/-- `queue_t` -/
structure Queue (N : Type u) where
  front : Option N
  back : Option N
  elements : Word

/-- A memory of queues and of the nodes linked into them. -/
structure QueueHeap (Q N D : Type u) where
  queue : Q → Queue N
  node : N → QueueNode N D

namespace QueueHeap

variable {Q N D : Type u}

/-- The links between the nodes. -/
def next (heap : QueueHeap Q N D) (node : N) : Option N := (heap.node node).next

section Queues

variable [DecidableEq Q]

def setQueue (heap : QueueHeap Q N D) (ctx : Q) (queue : Queue N) : QueueHeap Q N D :=
  { heap with queue := Function.update heap.queue ctx queue }

@[simp]
theorem setQueue_queue (heap : QueueHeap Q N D) (ctx : Q) (queue : Queue N) :
    (heap.setQueue ctx queue).queue = Function.update heap.queue ctx queue := rfl

@[simp]
theorem setQueue_node (heap : QueueHeap Q N D) (ctx : Q) (queue : Queue N) :
    (heap.setQueue ctx queue).node = heap.node := rfl

@[simp]
theorem setQueue_next (heap : QueueHeap Q N D) (ctx : Q) (queue : Queue N) :
    (heap.setQueue ctx queue).next = heap.next := rfl

end Queues

section Nodes

variable [DecidableEq N]

def setNode (heap : QueueHeap Q N D) (ctx : N) (node : QueueNode N D) : QueueHeap Q N D :=
  { heap with node := Function.update heap.node ctx node }

/-- The assignment `node->next = target`. -/
def setNext (heap : QueueHeap Q N D) (node : N) (target : Option N) : QueueHeap Q N D :=
  heap.setNode node { heap.node node with next := target }

@[simp]
theorem setNode_queue (heap : QueueHeap Q N D) (ctx : N) (node : QueueNode N D) :
    (heap.setNode ctx node).queue = heap.queue := rfl

@[simp]
theorem setNext_queue (heap : QueueHeap Q N D) (node : N) (target : Option N) :
    (heap.setNext node target).queue = heap.queue := rfl

@[simp]
theorem setNode_next (heap : QueueHeap Q N D) (ctx : N) (node : QueueNode N D) :
    (heap.setNode ctx node).next = Function.update heap.next ctx node.next := by
  funext other
  rcases eq_or_ne other ctx with rfl | otherNe
  · simp [QueueHeap.next, setNode]
  · simp [QueueHeap.next, setNode, otherNe]

@[simp]
theorem setNext_next (heap : QueueHeap Q N D) (node : N) (target : Option N) :
    (heap.setNext node target).next = Function.update heap.next node target := by
  simp [setNext]

@[simp]
theorem setNext_data (heap : QueueHeap Q N D) (node other : N) (target : Option N) :
    ((heap.setNext node target).node other).data = (heap.node other).data := by
  rcases eq_or_ne other node with rfl | otherNe
  · simp [setNext, setNode]
  · simp [setNext, setNode, otherNe]

end Nodes

end QueueHeap

variable {Q N D : Type u}

def queueNodeInit [DecidableEq N] (heap : QueueHeap Q N D) (ctx : N) (data : Option D) :
    QueueHeap Q N D :=
  heap.setNode ctx { data := data, next := none }

def queueInit [DecidableEq Q] (heap : QueueHeap Q N D) (ctx : Q) : QueueHeap Q N D :=
  heap.setQueue ctx { front := none, back := none, elements := 0 }

def queueSize (heap : QueueHeap Q N D) (ctx : Q) : Word := (heap.queue ctx).elements

def queueEmpty (heap : QueueHeap Q N D) (ctx : Q) : Bool := queueSize heap ctx == 0

def queuePeek (heap : QueueHeap Q N D) (ctx : Q) : Option (Option D) :=
  if queueEmpty heap ctx then
    some none
  else do
    let front ← (heap.queue ctx).front
    some (heap.node front).data

variable [DecidableEq Q] [DecidableEq N]

def queuePut (heap : QueueHeap Q N D) (ctx : Q) (node : Option N) :
    Option (Byte × QueueHeap Q N D) :=
  match node with
  | none => some (1, heap)
  | some node => do
      let queue := heap.queue ctx
      let heap ←
        if queue.elements = 0 then
          some (heap.setQueue ctx { queue with front := some node })
        else do
          let back ← queue.back
          some (heap.setNext back (some node))
      let queue := heap.queue ctx
      let heap := heap.setQueue ctx { queue with back := some node }
      let heap := heap.setNext node none
      let queue := heap.queue ctx
      some (0, heap.setQueue ctx { queue with elements := queue.elements + 1 })

def queuePutFront (heap : QueueHeap Q N D) (ctx : Q) (node : Option N) :
    Byte × QueueHeap Q N D :=
  match node with
  | none => (1, heap)
  | some node =>
      let queue := heap.queue ctx
      let heap :=
        if queue.elements = 0 then
          (heap.setQueue ctx { queue with back := some node }).setNext node none
        else
          heap.setNext node queue.front
      let queue := heap.queue ctx
      (0, heap.setQueue ctx
        { queue with front := some node, elements := queue.elements + 1 })

/-- The data pointer of the first node (`none` for NULL), which is removed. -/
def queueGet (heap : QueueHeap Q N D) (ctx : Q) : Option (Option D × QueueHeap Q N D) :=
  if queueEmpty heap ctx then
    some (none, heap)
  else do
    let queue := heap.queue ctx
    let old ← queue.front
    let ret := (heap.node old).data
    let heap := heap.setQueue ctx { queue with front := (heap.node old).next }
    let heap := heap.setNext old none
    let queue := heap.queue ctx
    some (ret, heap.setQueue ctx { queue with elements := queue.elements - 1 })

/-- Moves the successor of `parent` to the front. -/
def queueMtf (heap : QueueHeap Q N D) (ctx : Q) (parent : Option N) :
    Byte × QueueHeap Q N D :=
  match parent with
  | none => (0, heap)
  | some parent =>
      match (heap.node parent).next with
      | none => (1, heap)
      | some newFront =>
          if queueEmpty heap ctx then
            (1, heap)
          else
            let heap := heap.setNext parent (heap.node newFront).next
            let heap := heap.setNext newFront (some parent)
            (0, heap.setQueue ctx { heap.queue ctx with front := some newFront })

end ArmKernel
