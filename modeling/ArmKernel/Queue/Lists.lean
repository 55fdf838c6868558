import ArmKernel.Queue.Shape

/-!
# Queues behave as lists

Any sequence of calls of the functions of queue.c, on any queues of a heap, is followed by the
same calls on lists of nodes: `queue_put` appends, `queue_put_front` prepends and `queue_get`
removes the first. What the callers see is the same, and the queues stay well-formed and hold the
lists, as long as a node is inserted only while it is in no queue. No queue may be written by
other means in between, but what the links of a node are while it is in no queue plays no part.
-/

namespace ArmKernel

open Placement QueueHeap

universe u

variable {Q N D : Type u}

/-- A call of one of the functions of queue.c. -/
inductive QueueOp (Q N : Type u) where
  | put (ctx : Q) (node : Option N)
  | putFront (ctx : Q) (node : Option N)
  | get (ctx : Q)
  | peek (ctx : Q)
  | size (ctx : Q)
  | empty (ctx : Q)

/-- What the function returns. -/
inductive QueueAnswer (D : Type u) where
  | status (code : Byte)
  | data (pointer : Option D)
  | size (elements : ℕ)
  | empty (isEmpty : Bool)

namespace QueueOp

/-- The queue that the function is called with. -/
def queue : QueueOp Q N → Q
  | put ctx _ | putFront ctx _ | get ctx | peek ctx | size ctx | empty ctx => ctx

/-- The node that it inserts. -/
def inserted : QueueOp Q N → Option N
  | put _ node | putFront _ node => node
  | get _ | peek _ | size _ | empty _ => none

variable [DecidableEq Q]

/-- What the call does to the lists. -/
def onLists (lists : Q → List N) : QueueOp Q N → Q → List N
  | put ctx (some node) => Function.update lists ctx (lists ctx ++ [node])
  | putFront ctx (some node) => Function.update lists ctx (node :: lists ctx)
  | get ctx => Function.update lists ctx (lists ctx).tail
  | put _ none | putFront _ none | peek _ | size _ | empty _ => lists

omit [DecidableEq Q] in
/-- What it is meant to return. -/
def answer (data : N → Option D) (lists : Q → List N) : QueueOp Q N → QueueAnswer D
  | put _ node | putFront _ node => .status (if node.isSome then 0 else 1)
  | get ctx | peek ctx => .data ((lists ctx).head?.bind data)
  | size ctx => .size (lists ctx).length
  | empty ctx => .empty (lists ctx).isEmpty

/-- What a sequence of calls is meant to return. -/
def answers (data : N → Option D) : (Q → List N) → List (QueueOp Q N) → List (QueueAnswer D)
  | _, [] => []
  | lists, op :: ops => op.answer data lists :: answers data (op.onLists lists) ops

/-- Every node is inserted while it is in no queue. -/
def Allowed : (Q → List N) → List (QueueOp Q N) → Prop
  | _, [] => True
  | lists, op :: ops => (∀ node ∈ op.inserted, Absent lists node) ∧ Allowed (op.onLists lists) ops

variable [DecidableEq N]

/-- The call in the code. -/
def call (heap : QueueHeap Q N D) :
    QueueOp Q N → Option (QueueAnswer D × QueueHeap Q N D)
  | put ctx node => (queuePut heap ctx node).map (Prod.map .status id)
  | putFront ctx node => some ((queuePutFront heap ctx node).map .status id)
  | get ctx => (queueGet heap ctx).map (Prod.map .data id)
  | peek ctx => (queuePeek heap ctx).map fun data => (.data data, heap)
  | size ctx => some (.size (queueSize heap ctx).toNat, heap)
  | empty ctx => some (.empty (queueEmpty heap ctx), heap)

/-- One call after the other: what they return, and the heap afterwards. -/
def run : QueueHeap Q N D → List (QueueOp Q N) → Option (List (QueueAnswer D) × QueueHeap Q N D)
  | heap, [] => some ([], heap)
  | heap, op :: ops => do
      let (answer, heap) ← op.call heap
      let (answers, heap) ← run heap ops
      some (answer :: answers, heap)

end QueueOp

/-- The data pointers of the nodes. -/
def QueueHeap.data (heap : QueueHeap Q N D) (node : N) : Option D := (heap.node node).data

namespace QueueHeap

variable {heap heap' : QueueHeap Q N D} {lists : Q → List N} {ctx : Q}

theorem Written.data_eq {old new : List N} (written : heap.Written heap' ctx old new) :
    heap'.data = heap.data :=
  funext written.sameData

theorem IsFamily.queuePeek (family : heap.IsFamily lists) (ctx : Q) :
    ArmKernel.queuePeek heap ctx = some ((lists ctx).head?.bind heap.data) := by
  have isQueue := family.queues ctx
  cases shape : lists ctx with
  | nil =>
      rw [shape] at isQueue
      rw [ArmKernel.queuePeek, if_pos (isQueue.queueEmpty_iff.mpr rfl)]
      rfl
  | cons node rest =>
      rw [shape] at isQueue
      exact isQueue.queuePeek

theorem IsFamily.queueEmpty (family : heap.IsFamily lists) (ctx : Q) :
    ArmKernel.queueEmpty heap ctx = (lists ctx).isEmpty := by
  rw [Bool.eq_iff_iff, (family.queues ctx).queueEmpty_iff, List.isEmpty_iff]

variable [DecidableEq Q]

/-- The queues of any memory are well-formed and empty when `queue_init` has set them up. -/
theorem foldl_queueInit_isFamily {queues : List Q} (heap : QueueHeap Q N D)
    (all : ∀ ctx, ctx ∈ queues) : (queues.foldl queueInit heap).IsFamily fun _ => [] := by
  refine ⟨placed_empty, ?_⟩
  have kept : ∀ (queues : List Q) (heap : QueueHeap Q N D) (ctx : Q),
      heap.IsQueue ctx [] ∨ ctx ∈ queues → (queues.foldl queueInit heap).IsQueue ctx [] := by
    intro queues
    induction queues with
    | nil => simp
    | cons first rest ih =>
        intro heap ctx either
        apply ih
        rcases eq_or_ne ctx first with rfl | ctxNe
        · exact .inl (queueInit_stores heap ctx True)
        · rcases either with already | ctxMem
          · left
            refine ⟨?_, ?_, ?_⟩
            · simpa [queueInit, ctxNe] using already.chain
            · simpa [queueInit, ctxNe] using already.elements
            · simp
          · exact .inr ((List.mem_cons.mp ctxMem).resolve_left ctxNe)
  exact fun ctx => kept queues heap ctx (.inr (all ctx))

variable [DecidableEq N]

theorem IsFamily.queueGet (family : heap.IsFamily lists) (ctx : Q) :
    ∃ heap', ArmKernel.queueGet heap ctx = some ((lists ctx).head?.bind heap.data, heap') ∧
      heap'.IsFamily (Function.update lists ctx (lists ctx).tail) ∧ heap'.data = heap.data := by
  have isQueue := family.queues ctx
  cases shape : lists ctx with
  | nil =>
      rw [shape] at isQueue
      refine ⟨heap, isQueue.queueGet_nil, ?_, rfl⟩
      rwa [List.tail_nil, ← shape, Function.update_eq_self]
  | cons node rest =>
      rw [shape] at isQueue
      rcases isQueue.queueGet_cons with ⟨heap', got, stores, written⟩
      refine ⟨heap', got, ?_, written.data_eq⟩
      rw [← shape] at written
      exact family.replace (family.placed.tail shape) stores written

end QueueHeap

namespace QueueOp

variable [DecidableEq Q] {lists : Q → List N}

theorem onLists_of_ne {op : QueueOp Q N} {other : Q} (otherNe : op.queue ≠ other) :
    op.onLists lists other = lists other := by
  cases op with
  | put ctx node | putFront ctx node =>
      cases node with
      | none => rfl
      | some node => exact Function.update_of_ne otherNe.symm _ _
  | get ctx => exact Function.update_of_ne otherNe.symm _ _
  | peek ctx | size ctx | empty ctx => rfl

theorem foldl_onLists_of_ne {ops : List (QueueOp Q N)} {other : Q}
    (otherNe : ∀ op ∈ ops, op.queue ≠ other) : ops.foldl onLists lists other = lists other := by
  induction ops generalizing lists with
  | nil => rfl
  | cons op ops ih =>
      rcases List.forall_mem_cons.mp otherNe with ⟨firstNe, restNe⟩
      rw [List.foldl_cons, ih restNe, onLists_of_ne firstNe]

variable [DecidableEq N] [Fintype N] {heap : QueueHeap Q N D}

theorem call_isFamily (small : Fintype.card N < 2 ^ 32) (family : heap.IsFamily lists)
    (op : QueueOp Q N) (allowed : ∀ node ∈ op.inserted, Absent lists node) :
    ∃ heap', op.call heap = some (op.answer heap.data lists, heap') ∧
      heap'.IsFamily (op.onLists lists) ∧ heap'.data = heap.data := by
  cases op with
  | put ctx node =>
      cases node with
      | none => exact ⟨heap, rfl, family, rfl⟩
      | some node =>
          have absent := allowed node rfl
          have room := room_of_absent family.placed small absent ctx
          rcases (family.queues ctx).queuePut trivial (absent ctx) room with
            ⟨heap', put, isQueue, written⟩
          refine ⟨heap', ?_, ?_, written.data_eq⟩
          · rw [call, put]
            rfl
          · exact family.replace (family.placed.append absent) isQueue written
  | putFront ctx node =>
      cases node with
      | none => exact ⟨heap, rfl, family, rfl⟩
      | some node =>
          have absent := allowed node rfl
          have room := room_of_absent family.placed small absent ctx
          rcases (family.queues ctx).queuePutFront (absent ctx) room with
            ⟨heap', put, isQueue, written⟩
          refine ⟨heap', ?_, ?_, written.data_eq⟩
          · rw [call, put]
            rfl
          · exact family.replace (family.placed.insert absent (List.Perm.refl _)) isQueue written
  | get ctx =>
      rcases family.queueGet ctx with ⟨heap', got, family', sameData⟩
      refine ⟨heap', ?_, family', sameData⟩
      rw [call, got]
      rfl
  | peek ctx =>
      refine ⟨heap, ?_, family, rfl⟩
      rw [call, family.queuePeek]
      rfl
  | size ctx =>
      refine ⟨heap, ?_, family, rfl⟩
      rw [call, queueSize, (family.queues ctx).elements]
      rfl
  | empty ctx =>
      refine ⟨heap, ?_, family, rfl⟩
      rw [call, family.queueEmpty]
      rfl

theorem run_isFamily (small : Fintype.card N < 2 ^ 32) (family : heap.IsFamily lists)
    {ops : List (QueueOp Q N)} (allowed : Allowed lists ops) :
    ∃ heap', run heap ops = some (answers heap.data lists ops, heap') ∧
      heap'.IsFamily (ops.foldl onLists lists) ∧ heap'.data = heap.data := by
  induction ops generalizing heap lists with
  | nil => exact ⟨heap, rfl, family, rfl⟩
  | cons op ops ih =>
      rcases allowed with ⟨firstAllowed, restAllowed⟩
      rcases call_isFamily small family op firstAllowed with
        ⟨middle, called, middleFamily, middleData⟩
      rcases ih middleFamily restAllowed with ⟨heap', rest, family', sameData⟩
      refine ⟨heap', ?_, family', sameData.trans middleData⟩
      rw [middleData] at rest
      simp only [run, called, rest, Option.bind_eq_bind, Option.bind_some]
      rfl

end QueueOp

/-- Queues that `queue_init` has set up in any memory are a family of empty lists. From there, and
from every family, each sequence of calls that inserts a node only while it is in no queue has
the answers that the lists give, ends in a family that holds the lists, and leaves the lists of
the queues that it does not name as they were. -/
theorem queueOps_run_lists [DecidableEq Q] [DecidableEq N] [Fintype N]
    (small : Fintype.card N < 2 ^ 32) :
    (∀ (heap : QueueHeap Q N D) (queues : List Q), (∀ ctx, ctx ∈ queues) →
      (queues.foldl queueInit heap).IsFamily fun _ => []) ∧
    ∀ (heap : QueueHeap Q N D) (lists : Q → List N), heap.IsFamily lists →
      ∀ ops : List (QueueOp Q N), QueueOp.Allowed lists ops →
        ∃ heap', QueueOp.run heap ops = some (QueueOp.answers heap.data lists ops, heap') ∧
          heap'.IsFamily (ops.foldl QueueOp.onLists lists) ∧
          ∀ other, (∀ op ∈ ops, op.queue ≠ other) →
            ops.foldl QueueOp.onLists lists other = lists other := by
  refine ⟨fun heap queues all => foldl_queueInit_isFamily heap all, ?_⟩
  intro heap lists family ops allowed
  rcases QueueOp.run_isFamily small family allowed with ⟨heap', ran, family', -⟩
  exact ⟨heap', ran, family', fun other otherNe => QueueOp.foldl_onLists_of_ne otherNe⟩

/-- Two nodes go through two queues of a memory that held other links before. The first queue is
empty in between, and its back pointer stale. -/
theorem queueOps_run_lists_twoQueues :
    let memory : QueueHeap Bool (Fin 3) (Fin 3) :=
      ⟨fun _ => ⟨some 2, some 2, 7⟩, fun node => ⟨some node, some 0⟩⟩
    let ops : List (QueueOp Bool (Fin 3)) :=
      [.put false (some 0), .put false (some 1), .get false, .putFront true (some 0), .get false,
        .get false, .put false (some 1), .peek true, .size false]
    ∃ heap', QueueOp.run ([false, true].foldl queueInit memory) ops =
        some ([.status 0, .status 0, .data (some 0), .status 0, .data (some 1), .data none,
          .status 0, .data (some 0), .size 1], heap') ∧
      heap'.IsQueue false [1] ∧ heap'.IsQueue true [0] := by
  intro memory ops
  have small : Fintype.card (Fin 3) < 2 ^ 32 := by decide
  rcases @queueOps_run_lists Bool (Fin 3) (Fin 3) _ _ _ small with ⟨initialised, runs⟩
  have family := initialised memory [false, true] (by decide)
  have allowed : QueueOp.Allowed (fun _ => []) ops := by
    simp [QueueOp.Allowed, ops, QueueOp.inserted, QueueOp.onLists, Absent]
  rcases runs _ _ family ops allowed with ⟨heap', ran, family', -⟩
  exact ⟨heap', ran, family'.queues false, family'.queues true⟩

end ArmKernel
