import ArmKernel.EventHandler

/-!
# The system calls

The functions of main.c that `handle` dispatches to. Each takes the descriptor of the
calling task and the arguments of the call, and returns the value for the caller.
-/

namespace ArmKernel

/-- The numbers of `event_t` that the kernel itself uses. -/
def sysCallEventTimer : Word := 0
def sysCallEventUart1 : Word := 1
def sysCallEventUart1Ms : Word := 2
def sysCallEventUart1Rx : Word := 3
def sysCallEventUart1Tx : Word := 5
def sysCallEventUart2 : Word := 6
def sysCallEventUart2Rx : Word := 7
def sysCallEventUart2Tx : Word := 9

/-- The interrupt enable bits of a UART control register. -/
def msienMask : Word := 0x8
def rienMask : Word := 0x10
def tienMask : Word := 0x20

def kernelCreate (kernel : Kernel) (active : Tid) (priority : ℤ) (code : Addr) :
    Option (ℤ × Kernel) :=
  if priority < 0 ∨ priority > 63 then
    some (-1, kernel)
  else if kernel.nextFreeTd ≥ taskDescriptorMaxTasks then
    some (-2, kernel)
  else do
    let newTask : Tid := BitVec.ofNat 8 kernel.nextFreeTd
    let kernel := taskDescriptorInit kernel newTask (BitVec.ofNat 8 kernel.nextFreeTd)
      (BitVec.ofInt 8 priority) (some active) code
    -- Add new task to priority queue
    let (_, kernel) ← schedulerPut kernel newTask
    let (_, kernel) ← schedulerPut kernel active
    let kernel := { kernel with nextFreeTd := kernel.nextFreeTd + 1 }
    some ((kernel.tds newTask).tid.toNat, kernel)

def kernelExit (kernel : Kernel) (active : Tid) : Bool × Kernel :=
  let kernel := kernel.modify (·.setState active .exited)
  (schedulerEmpty kernel.toKernelData, kernel)

def kernelPass (kernel : Kernel) (active : Tid) : Option Kernel := do
  let (_, kernel) ← schedulerPut kernel active
  some kernel

def kernelMytid (kernel : Kernel) (active : Tid) : Option (ℤ × Kernel) := do
  let (_, kernel) ← schedulerPut kernel active
  some ((kernel.tds active).tid.toNat, kernel)

def kernelParenttid (kernel : Kernel) (active : Tid) : Option (ℤ × Kernel) := do
  let (_, kernel) ← schedulerPut kernel active
  match (kernel.tds active).parent with
  | none => some (-1, kernel)
  | some parent => some ((kernel.tds parent).tid.toNat, kernel)

def kernelSend (kernel : Kernel) (active : Tid) (tid : Byte) (msg : Addr) (msgLen : Word)
    (rep : Addr) (repLen : Word) : Option (ℤ × Kernel) :=
  let receiver : Tid := tid
  if (kernel.tds receiver).tid ≠ tid then do
    -- Bad tid
    let (_, kernel) ← schedulerPut kernel active
    some (-1, kernel)
  else if (kernel.tds receiver).state = .sendBlocked then
    let params := (kernel.tds receiver).messageParams
    if params.msgLen ≠ msgLen then do
      let (_, kernel) ← schedulerPut kernel active
      some (-2, kernel)
    else do
      let kernel := kernel.modify fun data =>
        data.setMem (memcpy data.mem params.msg msg msgLen)
      let kernel := kernel.modify fun data =>
        data.setMem (storeByte data.mem params.tid (data.tds active).tid)
      let kernel := kernel.modify
        (taskDescriptorSetReturnValue · receiver (kernel.tds active).tid.toNat)
      let (_, kernel) ← schedulerPut kernel receiver
      let kernel := kernel.modify (·.setState active .replyBlocked)
      let kernel := kernel.modify
        (·.setMessageParams active fun params => { params with rep := rep, repLen := repLen })
      some (0, kernel)
  else do
    let (_, heap) ← queuePut kernel.heap (.sendQ receiver) (some ⟨.sendNode, active⟩)
    let kernel := { kernel with heap := heap }
    let kernel := kernel.modify (·.setState active .receiveBlocked)
    let kernel := kernel.modify
      (·.setMessageParams active fun params => { params with msg := msg, msgLen := msgLen })
    let kernel := kernel.modify
      (·.setMessageParams active fun params => { params with rep := rep, repLen := repLen })
    some (0, kernel)

def kernelReceive (kernel : Kernel) (active : Tid) (tid msg : Addr) (msgLen : Word) :
    Option (ℤ × Kernel) :=
  if !queueEmpty kernel.heap (.sendQ active) then do
    let (sender, heap) ← queueGet kernel.heap (.sendQ active)
    let sender ← sender
    let kernel := { kernel with heap := heap }
    let params := (kernel.tds sender).messageParams
    if params.msgLen ≠ msgLen then do
      let (_, kernel) ← schedulerPut kernel active
      some (-1, kernel)
    else do
      let kernel := kernel.modify fun data =>
        data.setMem (memcpy data.mem msg params.msg msgLen)
      let kernel := kernel.modify fun data =>
        data.setMem (storeByte data.mem tid (data.tds sender).tid)
      let (_, kernel) ← schedulerPut kernel active
      let kernel := kernel.modify (·.setState sender .replyBlocked)
      some ((kernel.mem tid).toNat, kernel)
  else
    let kernel := kernel.modify (·.setState active .sendBlocked)
    let kernel := kernel.modify (·.setMessageParams active fun params =>
      { params with tid := tid, msg := msg, msgLen := msgLen })
    some (0, kernel)

def kernelReply (kernel : Kernel) (active : Tid) (tid : Byte) (rep : Addr) (repLen : Word) :
    Option (ℤ × Kernel) :=
  let replyReceiver : Tid := tid
  if (kernel.tds replyReceiver).tid ≠ tid then do
    -- Bad tid
    let (_, kernel) ← schedulerPut kernel active
    some (-1, kernel)
  else
    let params := (kernel.tds replyReceiver).messageParams
    if params.repLen ≠ repLen then do
      let (_, kernel) ← schedulerPut kernel active
      some (-2, kernel)
    else do
      let kernel := kernel.modify fun data =>
        data.setMem (memcpy data.mem params.rep rep repLen)
      let kernel := kernel.modify (taskDescriptorSetReturnValue · replyReceiver 0)
      let (_, kernel) ← schedulerPut kernel replyReceiver
      let (_, kernel) ← schedulerPut kernel active
      some (0, kernel)

/-- The UART interrupt that awaiting an event enables. -/
def enableInterrupt (data : KernelData) (event : Word) : KernelData :=
  if event = sysCallEventUart1Tx then { data with uart1Ctlr := data.uart1Ctlr ||| tienMask }
  else if event = sysCallEventUart2Tx then { data with uart2Ctlr := data.uart2Ctlr ||| tienMask }
  else if event = sysCallEventUart1Rx then { data with uart1Ctlr := data.uart1Ctlr ||| rienMask }
  else if event = sysCallEventUart2Rx then { data with uart2Ctlr := data.uart2Ctlr ||| rienMask }
  else if event = sysCallEventUart1Ms then { data with uart1Ctlr := data.uart1Ctlr ||| msienMask }
  else data

@[simp]
theorem enableInterrupt_nextFreeTd (data : KernelData) (event : Word) :
    (enableInterrupt data event).nextFreeTd = data.nextFreeTd := by
  rw [enableInterrupt]
  split_ifs <;> rfl

@[simp]
theorem enableInterrupt_tds (data : KernelData) (event : Word) :
    (enableInterrupt data event).tds = data.tds := by
  rw [enableInterrupt]
  split_ifs <;> rfl

@[simp]
theorem enableInterrupt_frames (data : KernelData) (event : Word) :
    (enableInterrupt data event).frames = data.frames := by
  rw [enableInterrupt]
  split_ifs <;> rfl

def kernelAwaitEvent (kernel : Kernel) (active : Tid) (event : Word) : Option (ℤ × Kernel) :=
  if event.toNat ≥ eventHandlerMaxEvents then do
    let (_, kernel) ← schedulerPut kernel active
    some (-1, kernel)
  else do
    let kernel := kernel.modify (enableInterrupt · event)
    let (_, kernel) ← eventHandlerAddTask kernel event active
    some (0, kernel)

/-- The message that the source prints on COM2 is not modelled. -/
def kernelPanic (kernel : Kernel) : Kernel :=
  kernel.modify fun data => { data with bitmap := 0 }

end ArmKernel
