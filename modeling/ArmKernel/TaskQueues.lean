import ArmKernel.QueueFamily
import ArmKernel.TaskDescriptor

/-!
# The queues of the kernel as lists of tasks

A ready queue links the ready nodes of tasks, a send queue their send nodes and an event
queue their await nodes, and the data pointer of each node is its own descriptor. So the
queues of the kernel are lists of tasks: `heap.Holds live created lists` says that the
queues in use hold exactly the tasks `lists`, where the nodes of the tasks that satisfy
`created` have been initialised.
-/

namespace ArmKernel

open Placement

/-- The queues in use and the initialised nodes of the kernel. -/
def kernelFamily (live : QueueRef → Prop) (created : Tid → Prop) :
    QueueFamily QueueRef NodeRef Tid where
  live := live
  backed := fun _ => True
  inited := fun node => created node.task
  payload := NodeRef.task

/-- The nodes linked by each queue, given its tasks. -/
def nodesOf (lists : QueueRef → List Tid) (ctx : QueueRef) : List NodeRef :=
  (lists ctx).map ctx.node

def QueueHeap.Holds (heap : QueueHeap QueueRef NodeRef Tid) (live : QueueRef → Prop)
    (created : Tid → Prop) (lists : QueueRef → List Tid) : Prop :=
  heap.Models (kernelFamily live created) (nodesOf lists)

/-- The tasks in a queue, found by walking from its `front` over `elements` nodes. -/
def queueTasks (heap : QueueHeap QueueRef NodeRef Tid) (ctx : QueueRef) : List Tid :=
  (LinkedChain.walk heap.next (heap.queue ctx).elements.toNat (heap.queue ctx).front).map
    NodeRef.task

@[simp]
theorem QueueRef.node_task (ctx : QueueRef) (task : Tid) : (ctx.node task).task = task := by
  cases ctx <;> rfl

theorem QueueRef.node_injective {ctx ctx' : QueueRef} {task task' : Tid}
    (same : ctx.node task = ctx'.node task') : task = task' := by
  simpa using congrArg NodeRef.task same

theorem nodesOf_update (lists : QueueRef → List Tid) (ctx : QueueRef) (tasks : List Tid) :
    nodesOf (Function.update lists ctx tasks) =
      Function.update (nodesOf lists) ctx (tasks.map ctx.node) := by
  funext other
  rcases eq_or_ne other ctx with rfl | otherNe
  · simp [nodesOf]
  · simp [nodesOf, otherNe]

theorem placed_nodesOf {lists : QueueRef → List Tid} (placed : Placed lists) :
    Placed (nodesOf lists) :=
  placed.map QueueRef.node_injective

theorem absent_nodesOf {lists : QueueRef → List Tid} {task : Tid} (absent : Absent lists task)
    (kind : NodeKind) : Absent (nodesOf lists) ⟨kind, task⟩ := by
  intro ctx nodeMem
  rcases List.mem_map.mp nodeMem with ⟨other, otherMem, same⟩
  have sameTask : other = task := by simpa using congrArg NodeRef.task same
  exact absent ctx (sameTask ▸ otherMem)

namespace QueueHeap

variable {heap : QueueHeap QueueRef NodeRef Tid} {live : QueueRef → Prop}
  {created : Tid → Prop} {lists : QueueRef → List Tid} {ctx : QueueRef} {task : Tid}

theorem Holds.queueTasks_eq (holds : heap.Holds live created lists) (isLive : live ctx) :
    queueTasks heap ctx = lists ctx := by
  have walked : LinkedChain.walk heap.next (heap.queue ctx).elements.toNat
      (heap.queue ctx).front = nodesOf lists ctx := Models.walk_eq holds isLive
  rw [queueTasks, walked, nodesOf, List.map_map]
  have taskOf : NodeRef.task ∘ ctx.node = id := funext ctx.node_task
  rw [taskOf, List.map_id]

theorem Holds.queueEmpty_iff (holds : heap.Holds live created lists) (isLive : live ctx) :
    queueEmpty heap ctx = true ↔ lists ctx = [] := by
  have empty : queueEmpty heap ctx = true ↔ nodesOf lists ctx = [] :=
    Models.queueEmpty_iff holds isLive
  rw [empty, nodesOf, List.map_eq_nil_iff]

theorem Holds.queuePut (holds : heap.Holds live created lists) (isLive : live ctx)
    (isCreated : created task) (absent : Absent lists task) :
    ∃ heap', queuePut heap ctx (some (ctx.node task)) = some (0, heap') ∧
      heap'.Holds live created (Function.update lists ctx (lists ctx ++ [task])) := by
  have inited : (kernelFamily live created).inited (ctx.node task) := by
    simpa [kernelFamily] using isCreated
  have absentNode : Absent (nodesOf lists) (ctx.node task) := by
    have := absent_nodesOf absent (ctx.node task).kind
    rwa [show (⟨(ctx.node task).kind, task⟩ : NodeRef) = ctx.node task by
      cases ctx <;> rfl] at this
  obtain ⟨heap', done, models⟩ :=
    Models.queuePut holds isLive trivial inited absentNode card_nodeRef_lt
  refine ⟨heap', done, ?_⟩
  rw [Holds, nodesOf_update, List.map_append]
  exact models

theorem Holds.queueGet_cons (holds : heap.Holds live created lists) (isLive : live ctx)
    {rest : List Tid} (shape : lists ctx = task :: rest) :
    ∃ heap', queueGet heap ctx = some (some task, heap') ∧
      heap'.Holds live created (Function.update lists ctx rest) := by
  have nodeShape : nodesOf lists ctx = ctx.node task :: rest.map ctx.node := by
    simp [nodesOf, shape]
  rcases Models.queueGet_cons holds isLive nodeShape with ⟨heap', done, models⟩
  refine ⟨heap', by simpa [kernelFamily] using done, ?_⟩
  rw [Holds, nodesOf_update]
  exact models

/-- Nothing is known of a memory in which no queue and no node was initialised. -/
theorem holds_empty (heap : QueueHeap QueueRef NodeRef Tid) :
    heap.Holds (fun _ => False) (fun _ => False) fun _ => [] where
  placed := placed_nodesOf placed_empty
  chain _ isLive := isLive.elim
  elements _ isLive := isLive.elim
  back _ isLive := isLive.elim
  dead _ _ := rfl
  member _ node nodeMem := by simp [nodesOf] at nodeMem
  data _ isInited := isInited.elim
  unlinked _ isInited := isInited.elim

/-- Initialising a list of unused queues makes them live and empty. -/
theorem Holds.queueInits (holds : heap.Holds live created lists) (index : ℕ → QueueRef)
    (indices : List ℕ) (nodup : (indices.map index).Nodup)
    (isDead : ∀ ctx ∈ indices.map index, ¬live ctx) :
    (indices.foldl (fun heap i => queueInit heap (index i)) heap).Holds
      (fun ctx => live ctx ∨ ctx ∈ indices.map index) created lists := by
  induction indices generalizing heap live with
  | nil => simpa using holds
  | cons first rest ih =>
      rw [List.map_cons, List.nodup_cons] at nodup
      have one : (queueInit heap (index first)).Holds (fun ctx => live ctx ∨ ctx = index first)
          created lists :=
        Models.queueInit holds (index first) (isDead _ (by simp))
      have othersDead : ∀ ctx ∈ rest.map index, ¬(live ctx ∨ ctx = index first) := by
        rintro ctx ctxMem (old | rfl)
        · exact isDead ctx (List.mem_cons_of_mem _ ctxMem) old
        · exact nodup.1 ctxMem
      have others := ih one nodup.2 othersDead
      simpa only [List.foldl_cons, List.map_cons, List.mem_cons, or_assoc] using others

/-- Creating a task adds its send queue, which is empty, and its three nodes. -/
theorem Holds.taskDescriptorInitQueues (holds : heap.Holds live created lists) (task : Tid)
    (isDead : ¬live (.sendQ task)) (unused : ¬created task) :
    (taskDescriptorInitQueues heap task).Holds (fun other => live other ∨ other = .sendQ task)
      (fun other => created other ∨ other = task) lists := by
  have withReady := Models.queueNodeInit holds (NodeRef.mk .readyNode task) unused
  have withSend := withReady.queueNodeInit (NodeRef.mk .sendNode task)
    (by simpa [kernelFamily, QueueFamily.addNode] using unused)
  have withAwait := withSend.queueNodeInit (NodeRef.mk .awaitNode task)
    (by simpa [kernelFamily, QueueFamily.addNode] using unused)
  have withQueue := withAwait.queueInit (QueueRef.sendQ task)
    (by simpa [kernelFamily, QueueFamily.addNode] using isDead)
  have sameNodes : ∀ node : NodeRef,
      (((created node.task ∨ node = ⟨.readyNode, task⟩) ∨ node = ⟨.sendNode, task⟩) ∨
        node = ⟨.awaitNode, task⟩) = (created node.task ∨ node.task = task) := by
    rintro ⟨kind, other⟩
    cases kind <;> simp
  simp only [kernelFamily, QueueFamily.addNode, QueueFamily.addQueue, sameNodes] at withQueue
  exact withQueue

end QueueHeap

end ArmKernel
