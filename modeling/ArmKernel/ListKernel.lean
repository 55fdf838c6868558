import ArmKernel.Kernel.Main

/-!
# The kernel as lists of tasks

What the kernel is for: every queue is a list of tasks, a task waits in at most one of
them, and each system call and interrupt moves tasks between the lists. `ListKernel` has
the data of the kernel but lists in place of its heap of nodes, and its operations are
total: there are no pointers to follow.

The operations are stated for any contents of the lists. `Sound` collects what holds of
them whenever `scheduler_get` is called, and `Safe` which inputs keep it.
-/

namespace ArmKernel

open Placement

structure ListKernel extends KernelData where
  lists : QueueRef → List Tid

/-- The task of the descriptor has been created. -/
def Created (nextFreeTd : ℕ) (task : Tid) : Prop := task.toNat < nextFreeTd

instance (nextFreeTd : ℕ) (task : Tid) : Decidable (Created nextFreeTd task) :=
  inferInstanceAs (Decidable (task.toNat < nextFreeTd))

/-- The queue exists: it is in bounds, and belongs to a created task if to any. -/
def Live (nextFreeTd : ℕ) : QueueRef → Prop
  | .priorityQ priority => priority.toNat < schedulerPriorityCount
  | .sendQ task => Created nextFreeTd task
  | .awaitQ event => event.toNat < eventHandlerMaxEvents

instance (nextFreeTd : ℕ) (ctx : QueueRef) : Decidable (Live nextFreeTd ctx) :=
  match ctx with
  | .priorityQ priority => inferInstanceAs (Decidable (priority.toNat < schedulerPriorityCount))
  | .sendQ task => inferInstanceAs (Decidable (Created nextFreeTd task))
  | .awaitQ event => inferInstanceAs (Decidable (event.toNat < eventHandlerMaxEvents))

/-- The state of the tasks in a queue. -/
def QueueRef.state : QueueRef → TaskState
  | .priorityQ _ => .ready
  | .sendQ _ => .receiveBlocked
  | .awaitQ _ => .eventBlocked

namespace KernelData

/-- The message of `sender` is handed to `receiver`, which waits in `Receive`. -/
def deliver (data : KernelData) (sender receiver : Tid) (msg : Addr) (msgLen : Word) :
    KernelData :=
  let params := (data.tds receiver).messageParams
  let mem := storeByte (memcpy data.mem params.msg msg msgLen) params.tid (data.tds sender).tid
  taskDescriptorSetReturnValue (data.setMem mem) receiver (data.tds sender).tid.toNat

/-- The message at the head of a send queue is handed to the task that receives it. -/
def fetch (data : KernelData) (sender : Tid) (tid msg : Addr) (msgLen : Word) : KernelData :=
  let params := (data.tds sender).messageParams
  data.setMem (storeByte (memcpy data.mem msg params.msg msgLen) tid (data.tds sender).tid)

/-- The reply of a task is handed to the task that waits for it. -/
def answer (data : KernelData) (receiver : Tid) (rep : Addr) (repLen : Word) : KernelData :=
  let params := (data.tds receiver).messageParams
  taskDescriptorSetReturnValue (data.setMem (memcpy data.mem params.rep rep repLen)) receiver 0

/-- Where a sender wants its reply. -/
def recordReply (data : KernelData) (sender : Tid) (rep : Addr) (repLen : Word) : KernelData :=
  data.setMessageParams sender fun params => { params with rep := rep, repLen := repLen }

/-- The message that a sender leaves to be fetched. -/
def recordMessage (data : KernelData) (sender : Tid) (msg : Addr) (msgLen : Word) :
    KernelData :=
  data.setMessageParams sender fun params => { params with msg := msg, msgLen := msgLen }

/-- Where a receiver wants its message. -/
def recordReceive (data : KernelData) (receiver : Tid) (tid msg : Addr) (msgLen : Word) :
    KernelData :=
  data.setMessageParams receiver fun params =>
    { params with tid := tid, msg := msg, msgLen := msgLen }

/-- The interrupts that a UART may raise are restricted to the bits kept. -/
def maskInterrupts (data : KernelData) (keep1 keep2 : Word) : KernelData :=
  { data with
    uart1Ctlr := data.uart1Ctlr &&& keep1
    uart2Ctlr := data.uart2Ctlr &&& keep2 }

section Fields

variable (data : KernelData) (task other : Tid) (msg : Addr) (msgLen : Word)

@[simp]
theorem markReady_tds : (data.markReady task).tds = (data.setState task .ready).tds := rfl

@[simp]
theorem markReady_frames : (data.markReady task).frames = data.frames := rfl

@[simp]
theorem markReady_mem : (data.markReady task).mem = data.mem := rfl

@[simp]
theorem markReady_bitmap : (data.markReady task).bitmap =
    data.bitmap ||| (1#64 <<< (data.tds task).priority.toNat) := rfl

@[simp]
theorem deliver_tds : (data.deliver task other msg msgLen).tds = data.tds := rfl

@[simp]
theorem deliver_frames : (data.deliver task other msg msgLen).frames =
    (taskDescriptorSetReturnValue data other (data.tds task).tid.toNat).frames := rfl

@[simp]
theorem deliver_mem : (data.deliver task other msg msgLen).mem =
    storeByte (memcpy data.mem (data.tds other).messageParams.msg msg msgLen)
      (data.tds other).messageParams.tid (data.tds task).tid := rfl

@[simp]
theorem deliver_bitmap : (data.deliver task other msg msgLen).bitmap = data.bitmap := rfl

@[simp]
theorem fetch_tds (cell : Addr) : (data.fetch task cell msg msgLen).tds = data.tds := rfl

@[simp]
theorem fetch_frames (cell : Addr) : (data.fetch task cell msg msgLen).frames = data.frames := rfl

@[simp]
theorem fetch_mem (cell : Addr) : (data.fetch task cell msg msgLen).mem =
    storeByte (memcpy data.mem msg (data.tds task).messageParams.msg msgLen) cell
      (data.tds task).tid := rfl

@[simp]
theorem fetch_bitmap (cell : Addr) :
    (data.fetch task cell msg msgLen).bitmap = data.bitmap := rfl

@[simp]
theorem answer_tds : (data.answer task msg msgLen).tds = data.tds := rfl

@[simp]
theorem answer_frames : (data.answer task msg msgLen).frames =
    (taskDescriptorSetReturnValue data task 0).frames := rfl

@[simp]
theorem answer_mem : (data.answer task msg msgLen).mem =
    memcpy data.mem (data.tds task).messageParams.rep msg msgLen := rfl

end Fields

@[simp]
theorem maskInterrupts_allOnes (data : KernelData) :
    data.maskInterrupts (BitVec.allOnes 32) (BitVec.allOnes 32) = data := by
  simp only [maskInterrupts, BitVec.and_allOnes]

/-- What happens between `scheduler_get` and `handle`, given the exit flag for the idle task. -/
def enter (data : KernelData) (isExit : Byte) (active : Tid) (activation : Activation) :
    KernelData :=
  let isIdle := (data.tds active).tid = idleTaskTid
  let data :=
    if isIdle then
      let mem := storeByte data.mem idleTaskExitAddr isExit
      let nonIdleTime := loadWord mem idleTaskNonIdleTimeAddr +
        (activation.clockBefore - data.lastIdleTime)
      data.setMem (storeWord mem idleTaskNonIdleTimeAddr nonIdleTime)
    else
      data
  let data := activate data active activation
  if isIdle then endIdleTask data activation.clockAfter else data

theorem enter_tds_of_ne {data : KernelData} {active other : Tid} (otherNe : other ≠ active)
    (isExit : Byte) (activation : Activation) :
    (data.enter isExit active activation).tds other = data.tds other := by
  simp only [enter]
  split_ifs <;> simp [activate, endIdleTask, modifyTd, setMem, otherNe]

theorem enter_frames_of_ne {data : KernelData} {active other : Tid} (otherNe : other ≠ active)
    (isExit : Byte) (activation : Activation) :
    (data.enter isExit active activation).frames other = data.frames other := by
  simp only [enter]
  split_ifs <;> simp [activate, endIdleTask, modifyTd, setMem, otherNe]

@[simp]
theorem enter_nextFreeTd (data : KernelData) (isExit : Byte) (active : Tid)
    (activation : Activation) :
    (data.enter isExit active activation).nextFreeTd = data.nextFreeTd := by
  simp only [enter]
  split_ifs <;> rfl

end KernelData

namespace ListKernel

def modify (kernel : ListKernel) (change : KernelData → KernelData) : ListKernel :=
  { kernel with toKernelData := change kernel.toKernelData }

def setList (kernel : ListKernel) (ctx : QueueRef) (tasks : List Tid) : ListKernel :=
  { kernel with lists := Function.update kernel.lists ctx tasks }

@[simp]
theorem modify_data (kernel : ListKernel) (change : KernelData → KernelData) :
    (kernel.modify change).toKernelData = change kernel.toKernelData := rfl

@[simp]
theorem modify_lists (kernel : ListKernel) (change : KernelData → KernelData) :
    (kernel.modify change).lists = kernel.lists := rfl

@[simp]
theorem setList_data (kernel : ListKernel) (ctx : QueueRef) (tasks : List Tid) :
    (kernel.setList ctx tasks).toKernelData = kernel.toKernelData := rfl

@[simp]
theorem setList_lists (kernel : ListKernel) (ctx : QueueRef) (tasks : List Tid) :
    (kernel.setList ctx tasks).lists = Function.update kernel.lists ctx tasks := rfl

/-- The task waits at the end of a queue. -/
def enqueue (kernel : ListKernel) (ctx : QueueRef) (td : Tid) : ListKernel :=
  kernel.setList ctx (kernel.lists ctx ++ [td])

@[simp]
theorem enqueue_data (kernel : ListKernel) (ctx : QueueRef) (td : Tid) :
    (kernel.enqueue ctx td).toKernelData = kernel.toKernelData := rfl

@[simp]
theorem enqueue_lists (kernel : ListKernel) (ctx : QueueRef) (td : Tid) :
    (kernel.enqueue ctx td).lists =
      Function.update kernel.lists ctx (kernel.lists ctx ++ [td]) := rfl

/-- The task becomes ready. -/
def put (kernel : ListKernel) (td : Tid) : ListKernel :=
  (kernel.enqueue (.priorityQ (kernel.tds td).priority) td).modify (·.markReady td)

@[simp]
theorem put_data (kernel : ListKernel) (td : Tid) :
    (kernel.put td).toKernelData = kernel.toKernelData.markReady td := rfl

@[simp]
theorem put_bitmap (kernel : ListKernel) (td : Tid) : (kernel.put td).bitmap =
    kernel.bitmap ||| (1#64 <<< (kernel.tds td).priority.toNat) := rfl

@[simp]
theorem put_lists (kernel : ListKernel) (td : Tid) : (kernel.put td).lists =
    Function.update kernel.lists (.priorityQ (kernel.tds td).priority)
      (kernel.lists (.priorityQ (kernel.tds td).priority) ++ [td]) := rfl

@[simp]
theorem put_nextFreeTd (kernel : ListKernel) (td : Tid) :
    (kernel.put td).nextFreeTd = kernel.nextFreeTd := rfl

theorem mem_put (kernel : ListKernel) (td : Tid) :
    td ∈ (kernel.put td).lists (.priorityQ (kernel.tds td).priority) := by
  simp

theorem mem_put_of_mem {kernel : ListKernel} {td task : Tid} {ctx : QueueRef}
    (taskMem : task ∈ kernel.lists ctx) : task ∈ (kernel.put td).lists ctx := by
  rw [put_lists]
  rcases eq_or_ne ctx (.priorityQ (kernel.tds td).priority) with rfl | ctxNe
  · rw [Function.update_self]
    exact List.mem_append_left [td] taskMem
  · rwa [Function.update_of_ne ctxNe]

/-- The first task of a ready queue leaves it, and `rest` stay. -/
def take (kernel : ListKernel) (idx : Byte) (rest : List Tid) : ListKernel :=
  { kernel with
    bitmap := if rest = [] then kernel.bitmap &&& ~~~(1#64 <<< idx.toNat) else kernel.bitmap
    lists := Function.update kernel.lists (.priorityQ idx) rest }

/-- The task that runs next is the first one of the priority that the bitmap selects. -/
def get (kernel : ListKernel) : Option (Tid × ListKernel) :=
  if schedulerEmpty kernel.toKernelData then
    none
  else
    let idx := bitmapLeadingzeroes kernel.bitmap
    match kernel.lists (.priorityQ idx) with
    | [] => none
    | task :: rest => some (task, kernel.take idx rest)

/-- The task that `scheduler_get` selects was the first of the queue of its priority. -/
theorem get_eq {kernel kernel' : ListKernel} {task : Tid}
    (got : kernel.get = some (task, kernel')) :
    ∃ rest, schedulerEmpty kernel.toKernelData = false ∧
      kernel.lists (.priorityQ (bitmapLeadingzeroes kernel.bitmap)) = task :: rest ∧
      kernel' = kernel.take (bitmapLeadingzeroes kernel.bitmap) rest := by
  rw [get] at got
  split_ifs at got with empty
  cases shape : kernel.lists (.priorityQ (bitmapLeadingzeroes kernel.bitmap)) with
  | nil => simp [shape] at got
  | cons first rest =>
      simp only [shape, Option.some.injEq, Prod.mk.injEq] at got
      rcases got with ⟨rfl, rfl⟩
      exact ⟨rest, by simpa using empty, rfl, rfl⟩

def setReturnValue (kernel : ListKernel) (td : Tid) (ret : ℤ) : ListKernel :=
  kernel.modify (taskDescriptorSetReturnValue · td ret)

@[simp]
theorem setReturnValue_data (kernel : ListKernel) (td : Tid) (ret : ℤ) :
    (kernel.setReturnValue td ret).toKernelData =
      taskDescriptorSetReturnValue kernel.toKernelData td ret := rfl

@[simp]
theorem setReturnValue_lists (kernel : ListKernel) (td : Tid) (ret : ℤ) :
    (kernel.setReturnValue td ret).lists = kernel.lists := rfl

/-- All tasks waiting for an event become ready with its value, in their order. -/
def wake (kernel : ListKernel) (event : Word) (ret : ℤ) : List Tid → ListKernel
  | [] => kernel
  | task :: rest =>
      (((kernel.setList (.awaitQ event) rest).setReturnValue task ret).put task).wake event ret
        rest

def handleEvent (kernel : ListKernel) (event : Word) (ret : ℤ) : ListKernel :=
  kernel.wake event ret (kernel.lists (.awaitQ event))

theorem wake_rest (kernel : ListKernel) (event : Word) (ret : ℤ) (task : Tid) (rest : List Tid) :
    (((kernel.setList (.awaitQ event) rest).setReturnValue task ret).put task).lists
      (.awaitQ event) = rest := by
  simp [setReturnValue, setList, modify]

@[simp]
theorem wake_nextFreeTd (kernel : ListKernel) (event : Word) (ret : ℤ) (tasks : List Tid) :
    (kernel.wake event ret tasks).nextFreeTd = kernel.nextFreeTd := by
  induction tasks generalizing kernel with
  | nil => rfl
  | cons task rest ih => exact ih _

@[simp]
theorem handleEvent_nextFreeTd (kernel : ListKernel) (event : Word) (ret : ℤ) :
    (kernel.handleEvent event ret).nextFreeTd = kernel.nextFreeTd :=
  wake_nextFreeTd kernel event ret _

/-- A new task and its parent are ready. -/
def create (kernel : ListKernel) (active : Tid) (priority : ℤ) (code : Addr) : ℤ × ListKernel :=
  if priority < 0 ∨ priority > 63 then
    (-1, kernel)
  else if kernel.nextFreeTd ≥ taskDescriptorMaxTasks then
    (-2, kernel)
  else
    let newTask : Tid := BitVec.ofNat 8 kernel.nextFreeTd
    let kernel := kernel.modify
      (taskDescriptorInitData · newTask newTask (BitVec.ofInt 8 priority) (some active) code)
    let kernel := (kernel.put newTask).put active
    (newTask.toNat, { kernel with nextFreeTd := kernel.nextFreeTd + 1 })

def parenttid (kernel : ListKernel) (active : Tid) : ℤ × ListKernel :=
  match (kernel.tds active).parent with
  | none => (-1, kernel.put active)
  | some parent => (((kernel.put active).tds parent).tid.toNat, kernel.put active)

def send (kernel : ListKernel) (active : Tid) (tid : Byte) (msg : Addr) (msgLen : Word)
    (rep : Addr) (repLen : Word) : ℤ × ListKernel :=
  if (kernel.tds tid).tid ≠ tid then
    (-1, kernel.put active)
  else if (kernel.tds tid).state = .sendBlocked then
    if (kernel.tds tid).messageParams.msgLen ≠ msgLen then
      (-2, kernel.put active)
    else
      (0, ((kernel.modify (·.deliver active tid msg msgLen)).put tid).modify fun data =>
        (data.setState active .replyBlocked).recordReply active rep repLen)
  else
    (0, (kernel.enqueue (.sendQ tid) active).modify fun data =>
      ((data.setState active .receiveBlocked).recordMessage active msg msgLen).recordReply
        active rep repLen)

def receive (kernel : ListKernel) (active : Tid) (tid msg : Addr) (msgLen : Word) :
    ℤ × ListKernel :=
  match kernel.lists (.sendQ active) with
  | [] => (0, kernel.modify fun data =>
      (data.setState active .sendBlocked).recordReceive active tid msg msgLen)
  | sender :: rest =>
      let kernel := kernel.setList (.sendQ active) rest
      if (kernel.tds sender).messageParams.msgLen ≠ msgLen then
        (-1, kernel.put active)
      else
        ((kernel.tds sender).tid.toNat,
          ((kernel.modify (·.fetch sender tid msg msgLen)).put active).modify
            (·.setState sender .replyBlocked))

def reply (kernel : ListKernel) (active : Tid) (tid : Byte) (rep : Addr) (repLen : Word) :
    ℤ × ListKernel :=
  if (kernel.tds tid).tid ≠ tid then
    (-1, kernel.put active)
  else if (kernel.tds tid).messageParams.repLen ≠ repLen then
    (-2, kernel.put active)
  else
    (0, ((kernel.modify (·.answer tid rep repLen)).put tid).put active)

def awaitEvent (kernel : ListKernel) (active : Tid) (event : Word) : ℤ × ListKernel :=
  if event.toNat ≥ eventHandlerMaxEvents then
    (-1, kernel.put active)
  else
    (0, (kernel.enqueue (.awaitQ event) active).modify fun data =>
      (enableInterrupt data event).setState active .eventBlocked)

section NextFreeTd

variable (kernel : ListKernel) (active : Tid)

@[simp]
theorem parenttid_nextFreeTd : (kernel.parenttid active).2.nextFreeTd = kernel.nextFreeTd := by
  rw [parenttid]
  split <;> rfl

@[simp]
theorem send_nextFreeTd (tid : Byte) (msg : Addr) (msgLen : Word) (rep : Addr) (repLen : Word) :
    (kernel.send active tid msg msgLen rep repLen).2.nextFreeTd = kernel.nextFreeTd := by
  rw [send]
  split_ifs <;> rfl

@[simp]
theorem receive_nextFreeTd (tid msg : Addr) (msgLen : Word) :
    (kernel.receive active tid msg msgLen).2.nextFreeTd = kernel.nextFreeTd := by
  rw [receive]
  split
  · rfl
  · dsimp only
    split_ifs <;> rfl

@[simp]
theorem reply_nextFreeTd (tid : Byte) (rep : Addr) (repLen : Word) :
    (kernel.reply active tid rep repLen).2.nextFreeTd = kernel.nextFreeTd := by
  rw [reply]
  split_ifs <;> rfl

@[simp]
theorem awaitEvent_nextFreeTd (event : Word) :
    (kernel.awaitEvent active event).2.nextFreeTd = kernel.nextFreeTd := by
  rw [awaitEvent]
  split_ifs
  · rfl
  · exact enableInterrupt_nextFreeTd kernel.toKernelData event

end NextFreeTd

def panic (kernel : ListKernel) : ListKernel := { kernel with bitmap := 0 }

/-- A system call of the active task; the result is whether the kernel stops. -/
def sysCall (kernel : ListKernel) (active : Tid) (call : SysCall) : Bool × ListKernel :=
  let finish (result : ℤ × ListKernel) : Bool × ListKernel :=
    (false, result.2.setReturnValue active result.1)
  match call with
  | .pass => finish (0, kernel.put active)
  | .create priority code => finish (kernel.create active priority code)
  | .mytid => finish ((kernel.tds active).tid.toNat, kernel.put active)
  | .parenttid => finish (kernel.parenttid active)
  | .send tid msg msgLen rep repLen => finish (kernel.send active tid msg msgLen rep repLen)
  | .receive tid msg msgLen => finish (kernel.receive active tid msg msgLen)
  | .reply tid rep repLen => finish (kernel.reply active tid rep repLen)
  | .awaitEvent event => finish (kernel.awaitEvent active event)
  | .panic => finish (0, kernel.panic)
  | .exit =>
      let kernel := kernel.modify (·.setState active .exited)
      (schedulerEmpty kernel.toKernelData, kernel)
  | .quit => (true, kernel)
  | .unknown => finish (0, kernel.panic)

theorem nextFreeTd_le_sysCall (kernel : ListKernel) (active : Tid) (call : SysCall) :
    kernel.nextFreeTd ≤ (kernel.sysCall active call).2.nextFreeTd := by
  cases call with
  | create priority code =>
      change kernel.nextFreeTd ≤ (kernel.create active priority code).2.nextFreeTd
      rw [create]
      split_ifs
      · exact le_refl _
      · exact le_refl _
      · exact Nat.le_succ kernel.nextFreeTd
  | parenttid => exact (parenttid_nextFreeTd kernel active).ge
  | send tid msg msgLen rep repLen =>
      exact (send_nextFreeTd kernel active tid msg msgLen rep repLen).ge
  | receive tid msg msgLen => exact (receive_nextFreeTd kernel active tid msg msgLen).ge
  | reply tid rep repLen => exact (reply_nextFreeTd kernel active tid rep repLen).ge
  | awaitEvent event => exact (awaitEvent_nextFreeTd kernel active event).ge
  | _ => exact le_refl _

/-- An interrupt is one of the events that tasks wait for, or a panic. -/
inductive Interrupt where
  /-- The event, its value, and the interrupt enable bits left set on each UART. -/
  | event (event : Word) (ret : ℤ) (keep1 keep2 : Word)
  /-- A UART interrupt without a known cause is taken for the timer. -/
  | spurious
  | unexpected

/-- The event whose tasks an interrupt wakes. -/
def Interrupt.served : Interrupt → Option Word
  | .event awaited _ _ _ => some awaited
  | .spurious => some sysCallEventTimer
  | .unexpected => none

def decodeInterrupt (regs : InterruptRegs) : Interrupt :=
  let status1 : Byte := regs.uart1Intr.setWidth 8
  let status2 : Byte := regs.uart2Intr.setWidth 8
  let all : Word := BitVec.allOnes 32
  if regs.vicVecAddr = sysCallEventTimer then
    .event sysCallEventTimer 0 all all
  else if regs.vicVecAddr = sysCallEventUart1 then
    if status1 &&& risMask ≠ 0 then
      .event sysCallEventUart1Rx (regs.uart1Data &&& dataMask).toInt all all
    else if status1 &&& misMask ≠ 0 then
      .event sysCallEventUart1Ms regs.uart1Flag.toInt (~~~msienMask) all
    else if status1 &&& tisMask ≠ 0 then
      .event sysCallEventUart1Tx 0 (~~~tienMask) all
    else
      .spurious
  else if regs.vicVecAddr = sysCallEventUart2 then
    if status2 &&& risMask ≠ 0 then
      .event sysCallEventUart2Rx (regs.uart2Data &&& dataMask).toInt all all
    else if status2 &&& tisMask ≠ 0 then
      .event sysCallEventUart2Tx 0 all (~~~tienMask)
    else
      .spurious
  else
    .unexpected

def interrupt (kernel : ListKernel) (active : Tid) (interrupt : Interrupt) : ListKernel :=
  match interrupt with
  | .event event ret keep1 keep2 =>
      ((kernel.modify (·.maskInterrupts keep1 keep2)).handleEvent event ret).put active
  | .spurious => (kernel.panic.handleEvent sysCallEventTimer 0).put active
  | .unexpected => kernel.panic.put active

@[simp]
theorem interrupt_nextFreeTd (kernel : ListKernel) (active : Tid) (cause : Interrupt) :
    (kernel.interrupt active cause).nextFreeTd = kernel.nextFreeTd := by
  cases cause with
  | event event ret keep1 keep2 => exact handleEvent_nextFreeTd _ event ret
  | spurious => exact handleEvent_nextFreeTd _ sysCallEventTimer 0
  | unexpected => rfl

def handle (kernel : ListKernel) (active : Tid) (trap : Trap) : Bool × ListKernel :=
  match trap with
  | .swi req => kernel.sysCall active (decodeSysCall kernel.toKernelData active req)
  | .irq regs => (false, kernel.interrupt active (decodeInterrupt regs))

theorem handle_of_call {kernel : ListKernel} {active : Tid} {trap : Trap} {call : SysCall}
    (isCall : trap.call kernel.toKernelData active = some call) :
    kernel.handle active trap = kernel.sysCall active call := by
  cases trap with
  | swi req =>
      rcases Option.some.inj isCall with rfl
      rfl
  | irq regs => simp [Trap.call] at isCall

/-- No task waits for an event. -/
def noEventWaited (kernel : ListKernel) : Bool :=
  (List.range eventHandlerMaxEvents).all fun index =>
    (kernel.lists (.awaitQ (BitVec.ofNat 32 index))).isEmpty

def enterKernel (kernel : ListKernel) (active : Tid) (activation : Activation) : ListKernel :=
  kernel.modify (·.enter (if kernel.noEventWaited then 1 else 0) active activation)

/-- The first task and the idle task, not yet in their ready queues. -/
def start (boot : KernelData) (userMain idleMain : Addr) : ListKernel :=
  let data := taskDescriptorInitData boot 0 0 1 none userMain
  let data := taskDescriptorInitData data idleTaskTid idleTaskTid 28 (some 0) idleMain
  { data with bitmap := 0, lists := fun _ => [] }

/-- The kernel before its first task runs. -/
def init (boot : KernelData) (userMain idleMain : Addr) : ListKernel :=
  let kernel := ((start boot userMain idleMain).put 0).put idleTaskTid
  let kernel := { kernel with nextFreeTd := 2, lastIdleTime := 0 }
  let mem := storeByte kernel.mem idleTaskExitAddr 0
  kernel.modify (·.setMem (storeWord mem idleTaskNonIdleTimeAddr 0))

/-- The task that runs next, and the kernel when it has trapped. -/
def entry (kernel : ListKernel) (activation : Activation) : Option (Tid × ListKernel) :=
  kernel.get.map fun (active, kernel) => (active, kernel.enterKernel active activation)

/-- One iteration of the main loop; the result is whether it ends. -/
def step (kernel : ListKernel) (activation : Activation) : Bool × ListKernel :=
  match kernel.entry activation with
  | none => (true, kernel)
  | some (active, entered) => entered.handle active activation.trap

/-- The task that runs was selected, and what it did left the tasks in the table. -/
theorem entry_eq {kernel entered : ListKernel} {activation : Activation} {active : Tid}
    (runs : kernel.entry activation = some (active, entered)) :
    ∃ taken, kernel.get = some (active, taken) ∧ entered = taken.enterKernel active activation ∧
      entered.nextFreeTd = kernel.nextFreeTd := by
  rcases Option.map_eq_some_iff.mp runs with ⟨⟨task, taken⟩, got, same⟩
  simp only [Prod.mk.injEq] at same
  rcases same with ⟨rfl, rfl⟩
  rcases get_eq got with ⟨rest, -, -, rfl⟩
  exact ⟨_, got, rfl, KernelData.enter_nextFreeTd _ _ _ _⟩

theorem entry_nextFreeTd {kernel entered : ListKernel} {activation : Activation} {active : Tid}
    (runs : kernel.entry activation = some (active, entered)) :
    entered.nextFreeTd = kernel.nextFreeTd := by
  rcases entry_eq runs with ⟨-, -, -, sameNext⟩
  exact sameNext

/-- Running a task leaves the queues of the tasks that are not ready. -/
theorem entry_lists {kernel entered : ListKernel} {activation : Activation} {active : Tid}
    {ctx : QueueRef} (runs : kernel.entry activation = some (active, entered))
    (notReady : ∀ priority, ctx ≠ .priorityQ priority) :
    entered.lists ctx = kernel.lists ctx := by
  rcases entry_eq runs with ⟨taken, got, rfl, -⟩
  rcases get_eq got with ⟨rest, -, -, rfl⟩
  exact Function.update_of_ne (notReady _) _ _

theorem nextFreeTd_le_step (kernel : ListKernel) (activation : Activation) :
    kernel.nextFreeTd ≤ (kernel.step activation).2.nextFreeTd := by
  cases runs : kernel.entry activation with
  | none => simp [step, runs]
  | some result =>
      rw [← entry_nextFreeTd runs, step, runs]
      simp only [handle]
      split
      · exact nextFreeTd_le_sysCall _ _ _
      · rw [interrupt_nextFreeTd]

theorem step_of_entry {kernel : ListKernel} {activation : Activation} {active : Tid}
    {entered : ListKernel} (runs : kernel.entry activation = some (active, entered)) :
    kernel.step activation = entered.handle active activation.trap := by
  rw [step, runs]

theorem entry_of_step {kernel : ListKernel} {activation : Activation}
    (goesOn : (kernel.step activation).1 = false) :
    ∃ active entered, kernel.entry activation = some (active, entered) := by
  cases runs : kernel.entry activation with
  | none => simp [step, runs] at goesOn
  | some result => exact ⟨result.1, result.2, rfl⟩

end ListKernel

end ArmKernel
