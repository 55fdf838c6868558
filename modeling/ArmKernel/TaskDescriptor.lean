import ArmKernel.Queue
import Mathlib.Data.Fintype.Prod

/-!
# Task descriptors and the kernel context

The kernel keeps its data in one table of descriptors, the scheduler, the event handler
and a few counters (`kernel_context_t`). Tasks are referred to by the index of their
descriptor, which a tid of type `uint8_t` selects; only the first 64 entries belong to
the table, and only those below `nextFreeTd` were initialised. What the other entries
hold is whatever memory contained, so nothing is assumed of them.

The queues of the kernel (64 ready queues, a send queue in each descriptor, 16 event
queues) and the three nodes embedded in each descriptor form one `QueueHeap`. All other
data is `KernelData`; it is shared by the model of the code and by the model of the
kernel as lists of tasks.

The registers of a task that is not running are saved on its own stack, at its `sp`.
These frames are kept apart from `mem`, the memory that tasks write to and that buffers are
in. On the target both are one memory, so the model is that of tasks whose stores and buffers
spare the frames of others, and whose own buffers do not lie below their stack pointers. The
code does not enforce this; where a result is about the frames, it is stated as a condition.
-/

namespace ArmKernel

/-- A task id, and the index of a descriptor in the table. -/
abbrev Tid := Byte

/-- `enum task_state_t` -/
inductive TaskState where
  | ready
  | active
  | exited
  | sendBlocked
  | receiveBlocked
  | replyBlocked
  | eventBlocked
  deriving DecidableEq, Repr

structure MessageParams where
  tid : Addr
  msg : Addr
  msgLen : Word
  rep : Addr
  repLen : Word

/-- `task_descriptor_t`, without the nodes and the queue embedded in it. -/
structure TaskDescriptor where
  tid : Byte
  priority : Byte
  parent : Option Tid
  state : TaskState
  sp : Addr
  svcLr : Addr
  spsr : Word
  messageParams : MessageParams

inductive NodeKind where
  | readyNode
  | sendNode
  | awaitNode
  deriving DecidableEq

/-- A pointer to a node: one of the three nodes of a descriptor. -/
structure NodeRef where
  kind : NodeKind
  task : Tid
  deriving DecidableEq

inductive QueueRef where
  /-- `sch->priority_qs[priority]` -/
  | priorityQ (priority : Byte)
  /-- `td->send_q` -/
  | sendQ (task : Tid)
  /-- `eh->await_qs[event]` -/
  | awaitQ (event : Word)
  deriving DecidableEq

/-- The saved registers r0 to r12 and lr, in the order they lie at `sp`. -/
abbrev Frame := Fin 14 → Word

instance frameSlots_ne_zero : NeZero 14 := ⟨by decide⟩

structure KernelData where
  tds : Tid → TaskDescriptor
  /-- The frames at the `sp` of the tasks, apart from `mem`. -/
  frames : Tid → Frame
  /-- `sch->bitmap` -/
  bitmap : BitVec 64
  nextFreeTd : ℕ
  /-- `metrics.last_idle_time` -/
  lastIdleTime : Word
  mem : Mem
  /-- The control registers of the two UARTs. -/
  uart1Ctlr : Word
  uart2Ctlr : Word

structure Kernel extends KernelData where
  heap : QueueHeap QueueRef NodeRef Tid

def taskDescriptorMaxTasks : ℕ := 64

def schedulerPriorityCount : ℕ := 64

def eventHandlerMaxEvents : ℕ := 16

/-- `_stack_start` of the linker script. -/
def memKernelStackStart : Addr := 0x1FDD000

def memKernelStackSize : Word := 0x2000

def memTaskStackSize : Word := 0x2000

def memTaskStackStart (taskNum : Byte) : Addr :=
  (memKernelStackStart - memKernelStackSize) - memTaskStackSize * taskNum.setWidth 32

def QueueRef.node : QueueRef → Tid → NodeRef
  | .priorityQ _, task => ⟨.readyNode, task⟩
  | .sendQ _, task => ⟨.sendNode, task⟩
  | .awaitQ _, task => ⟨.awaitNode, task⟩

namespace KernelData

def modifyTd (data : KernelData) (task : Tid) (change : TaskDescriptor → TaskDescriptor) :
    KernelData :=
  { data with tds := Function.update data.tds task (change (data.tds task)) }

def setState (data : KernelData) (task : Tid) (state : TaskState) : KernelData :=
  data.modifyTd task fun td => { td with state := state }

def setMessageParams (data : KernelData) (task : Tid)
    (change : MessageParams → MessageParams) : KernelData :=
  data.modifyTd task fun td => { td with messageParams := change td.messageParams }

def setMem (data : KernelData) (mem : Mem) : KernelData := { data with mem := mem }

/-- The assignment `((int *)td->sp)[slot] = value`. -/
def setFrameSlot (data : KernelData) (task : Tid) (slot : Fin 14) (value : Word) : KernelData :=
  { data with
    frames := Function.update data.frames task (Function.update (data.frames task) slot value) }

end KernelData

def taskDescriptorSetReturnValue (data : KernelData) (ctx : Tid) (ret : ℤ) : KernelData :=
  data.setFrameSlot ctx 0 (BitVec.ofInt 32 ret)

/-- The part of `task_descriptor_init` that is not about queues. -/
def taskDescriptorInitData (data : KernelData) (ctx : Tid) (tid priority : Byte)
    (parent : Option Tid) (code : Addr) : KernelData :=
  let data := data.modifyTd ctx fun td =>
    { td with
      tid := tid
      priority := priority
      parent := parent
      sp := memTaskStackStart tid - 14 * 4
      spsr := 0x50
      svcLr := code }
  let data := taskDescriptorSetReturnValue data ctx 0
  let data := data.setFrameSlot ctx 13 (memTaskStackStart tid)
  data.setState ctx .ready

/-- The part of `task_descriptor_init` that initialises the embedded nodes and queue. -/
def taskDescriptorInitQueues (heap : QueueHeap QueueRef NodeRef Tid) (ctx : Tid) :
    QueueHeap QueueRef NodeRef Tid :=
  let heap := queueNodeInit heap ⟨.readyNode, ctx⟩ (some ctx)
  let heap := queueNodeInit heap ⟨.sendNode, ctx⟩ (some ctx)
  let heap := queueNodeInit heap ⟨.awaitNode, ctx⟩ (some ctx)
  queueInit heap (.sendQ ctx)

namespace Kernel

def modify (kernel : Kernel) (change : KernelData → KernelData) : Kernel :=
  { kernel with toKernelData := change kernel.toKernelData }

@[simp]
theorem modify_data (kernel : Kernel) (change : KernelData → KernelData) :
    (kernel.modify change).toKernelData = change kernel.toKernelData := rfl

@[simp]
theorem modify_heap (kernel : Kernel) (change : KernelData → KernelData) :
    (kernel.modify change).heap = kernel.heap := rfl

end Kernel

def taskDescriptorInit (kernel : Kernel) (ctx : Tid) (tid priority : Byte)
    (parent : Option Tid) (code : Addr) : Kernel :=
  { toKernelData := taskDescriptorInitData kernel.toKernelData ctx tid priority parent code
    heap := taskDescriptorInitQueues kernel.heap ctx }

instance : Fintype NodeKind :=
  ⟨{.readyNode, .sendNode, .awaitNode}, fun kind => by cases kind <;> simp⟩

instance : Fintype NodeRef :=
  Fintype.ofEquiv (NodeKind × Fin (2 ^ 8))
    { toFun := fun pair => ⟨pair.1, BitVec.ofFin pair.2⟩
      invFun := fun node => (node.kind, node.task.toFin)
      left_inv := fun _ => rfl
      right_inv := fun _ => rfl }

theorem card_nodeRef_lt : Fintype.card NodeRef < 2 ^ 32 := by
  have card : Fintype.card NodeRef = Fintype.card (NodeKind × Fin (2 ^ 8)) :=
    Fintype.ofEquiv_card _
  have kinds : Fintype.card NodeKind = 3 := rfl
  rw [card, Fintype.card_prod, Fintype.card_fin, kinds]
  decide

namespace KernelData

variable {data : KernelData} {task other : Tid}

@[simp]
theorem setFrameSlot_tds (slot : Fin 14) (value : Word) :
    (data.setFrameSlot task slot value).tds = data.tds := rfl

@[simp]
theorem setReturnValue_tds (ret : ℤ) :
    (taskDescriptorSetReturnValue data task ret).tds = data.tds := rfl

@[simp]
theorem setReturnValue_frames (ret : ℤ) :
    (taskDescriptorSetReturnValue data task ret).frames =
      Function.update data.frames task
        (Function.update (data.frames task) 0 (BitVec.ofInt 32 ret)) := rfl

@[simp]
theorem setReturnValue_mem (ret : ℤ) :
    (taskDescriptorSetReturnValue data task ret).mem = data.mem := rfl

@[simp]
theorem setReturnValue_bitmap (ret : ℤ) :
    (taskDescriptorSetReturnValue data task ret).bitmap = data.bitmap := rfl

@[simp]
theorem modifyTd_bitmap (change : TaskDescriptor → TaskDescriptor) :
    (data.modifyTd task change).bitmap = data.bitmap := rfl

@[simp]
theorem modifyTd_frames (change : TaskDescriptor → TaskDescriptor) :
    (data.modifyTd task change).frames = data.frames := rfl

@[simp]
theorem modifyTd_mem (change : TaskDescriptor → TaskDescriptor) :
    (data.modifyTd task change).mem = data.mem := rfl

@[simp]
theorem setMem_tds (mem : Mem) : (data.setMem mem).tds = data.tds := rfl

@[simp]
theorem modifyTd_self (data : KernelData) (task : Tid)
    (change : TaskDescriptor → TaskDescriptor) :
    (data.modifyTd task change).tds task = change (data.tds task) := by
  simp [modifyTd]

theorem modifyTd_of_ne (otherNe : other ≠ task) (change : TaskDescriptor → TaskDescriptor) :
    (data.modifyTd task change).tds other = data.tds other := by
  simp [modifyTd, otherNe]

theorem modifyTd_field {Value : Type} (field : TaskDescriptor → Value)
    (change : TaskDescriptor → TaskDescriptor) (keeps : ∀ td, field (change td) = field td)
    (data : KernelData) (task other : Tid) :
    field ((data.modifyTd task change).tds other) = field (data.tds other) := by
  rcases eq_or_ne other task with rfl | otherNe
  · rw [modifyTd_self, keeps]
  · rw [modifyTd_of_ne otherNe]

theorem setState_self (state : TaskState) :
    ((data.setState task state).tds task).state = state := by
  rw [setState, modifyTd_self]

theorem setState_of_ne (otherNe : other ≠ task) (state : TaskState) :
    (data.setState task state).tds other = data.tds other :=
  modifyTd_of_ne otherNe _

theorem setState_tid (state : TaskState) :
    ((data.setState task state).tds other).tid = (data.tds other).tid :=
  modifyTd_field TaskDescriptor.tid (fun td => { td with state := state }) (fun _ => rfl) data
    task other

theorem setState_priority (state : TaskState) :
    ((data.setState task state).tds other).priority = (data.tds other).priority :=
  modifyTd_field TaskDescriptor.priority (fun td => { td with state := state }) (fun _ => rfl)
    data task other

theorem setState_parent (state : TaskState) :
    ((data.setState task state).tds other).parent = (data.tds other).parent :=
  modifyTd_field TaskDescriptor.parent (fun td => { td with state := state }) (fun _ => rfl)
    data task other

end KernelData

section Initialisation

variable {data : KernelData} {ctx other : Tid} {tid priority : Byte} {parent : Option Tid}
  {code : Addr}

theorem taskDescriptorInitData_of_ne (otherNe : other ≠ ctx) :
    (taskDescriptorInitData data ctx tid priority parent code).tds other = data.tds other := by
  rw [taskDescriptorInitData, KernelData.setState_of_ne otherNe]
  simp [KernelData.modifyTd_of_ne otherNe]

@[simp]
theorem taskDescriptorInitData_tid :
    ((taskDescriptorInitData data ctx tid priority parent code).tds ctx).tid = tid := by
  simp [taskDescriptorInitData, KernelData.setState]

@[simp]
theorem taskDescriptorInitData_priority :
    ((taskDescriptorInitData data ctx tid priority parent code).tds ctx).priority = priority := by
  simp [taskDescriptorInitData, KernelData.setState]

@[simp]
theorem taskDescriptorInitData_state :
    ((taskDescriptorInitData data ctx tid priority parent code).tds ctx).state = .ready :=
  KernelData.setState_self _

end Initialisation

end ArmKernel
