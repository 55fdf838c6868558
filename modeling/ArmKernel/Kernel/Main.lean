import ArmKernel.Kernel.SysCalls

/-!
# The main loop

`init`, `handle` and the loop of `main` in main.c. One iteration of the loop takes the
next task from the scheduler, lets it run until it traps, and handles the trap. What the
task does meanwhile is the input of the iteration (`Activation`): it may change user
memory in any way and leaves any saved registers behind.

Writes to device registers that the kernel never reads back, and its output on COM2, are
left out.
-/

namespace ArmKernel

def idleTaskTid : Byte := 1

/-- `*is_exit`, in the stack of the idle task. -/
def idleTaskExitAddr : Addr := memTaskStackStart idleTaskTid - 0x100

/-- `*non_idle_time`, in the stack of the idle task. -/
def idleTaskNonIdleTimeAddr : Addr := memTaskStackStart idleTaskTid - 0x104

structure InterruptRegs where
  vicVecAddr : Word
  uart1Intr : Word
  uart2Intr : Word
  uart1Data : Word
  uart2Data : Word
  uart1Flag : Word

inductive Trap where
  | swi (req : Word)
  | irq (regs : InterruptRegs)

/-- What a task does between two entries of the kernel. -/
structure Activation where
  /-- `clock()` as read before and after the activation of the idle task. -/
  clockBefore : Word
  clockAfter : Word
  /-- The effect of the task on user memory. -/
  effect : Mem → Mem
  /-- The registers saved when the task trapped. -/
  frame : Frame
  sp : Addr
  svcLr : Addr
  spsr : Word
  trap : Trap

def misMask : Byte := 0x1
def risMask : Byte := 0x2
def tisMask : Byte := 0x4
def dataMask : Word := 0xff

inductive SysCall where
  | exit
  | pass
  | create (priority : ℤ) (code : Addr)
  | mytid
  | parenttid
  | send (tid : Byte) (msg : Addr) (msgLen : Word) (rep : Addr) (repLen : Word)
  | receive (tid msg : Addr) (msgLen : Word)
  | reply (tid : Byte) (rep : Addr) (repLen : Word)
  | awaitEvent (event : Word)
  | panic
  | quit
  | unknown
  deriving DecidableEq

/-- The call requested by a software interrupt. Arguments are in the saved registers r0 to
r2 of the caller; those of `Send` are in a `send_params_t` that r0 points to. -/
def decodeSysCall (data : KernelData) (active : Tid) (req : Word) : SysCall :=
  let arg0 := data.frames active 0
  let arg1 := data.frames active 1
  let arg2 := data.frames active 2
  match req.toNat with
  | 0 => .exit
  | 1 => .pass
  | 2 => .create arg0.toInt arg1
  | 3 => .mytid
  | 4 => .parenttid
  | 5 => .send (data.mem arg0) (loadWord data.mem (arg0 + 4)) (loadWord data.mem (arg0 + 8))
      (loadWord data.mem (arg0 + 12)) (loadWord data.mem (arg0 + 16))
  | 6 => .receive arg0 arg1 arg2
  | 7 => .reply (arg0.setWidth 8) arg1 arg2
  | 8 => .awaitEvent arg0
  | 9 => .panic
  | 10 => .quit
  | _ => .unknown

/-- The part of `handle` for software interrupts; the result is whether the kernel stops. -/
def handleSysCall (kernel : Kernel) (active : Tid) (call : SysCall) : Option (Bool × Kernel) :=
  let finish (ret : ℤ) (kernel : Kernel) : Option (Bool × Kernel) :=
    some (false, kernel.modify (taskDescriptorSetReturnValue · active ret))
  match call with
  | .pass => do
      let kernel ← kernelPass kernel active
      finish 0 kernel
  | .create priority code => do
      let (ret, kernel) ← kernelCreate kernel active priority code
      finish ret kernel
  | .mytid => do
      let (ret, kernel) ← kernelMytid kernel active
      finish ret kernel
  | .parenttid => do
      let (ret, kernel) ← kernelParenttid kernel active
      finish ret kernel
  | .send tid msg msgLen rep repLen => do
      let (ret, kernel) ← kernelSend kernel active tid msg msgLen rep repLen
      finish ret kernel
  | .receive tid msg msgLen => do
      let (ret, kernel) ← kernelReceive kernel active tid msg msgLen
      finish ret kernel
  | .reply tid rep repLen => do
      let (ret, kernel) ← kernelReply kernel active tid rep repLen
      finish ret kernel
  | .awaitEvent event => do
      let (ret, kernel) ← kernelAwaitEvent kernel active event
      finish ret kernel
  | .panic => finish 0 (kernelPanic kernel)
  | .exit => some (kernelExit kernel active)
  | .quit => some (true, kernel)
  | .unknown => finish 0 (kernelPanic kernel)

/-- The event that a UART1 interrupt denotes, the value for the tasks that await it, and
the kernel after the interrupt was cleared. -/
def decodeUart1 (kernel : Kernel) (regs : InterruptRegs) : Word × ℤ × Kernel :=
  let status : Byte := regs.uart1Intr.setWidth 8
  -- responded to in priority order
  if status &&& risMask ≠ 0 then
    (sysCallEventUart1Rx, (regs.uart1Data &&& dataMask).toInt, kernel)
  else if status &&& misMask ≠ 0 then
    (sysCallEventUart1Ms, regs.uart1Flag.toInt,
      kernel.modify fun data => { data with uart1Ctlr := data.uart1Ctlr &&& ~~~msienMask })
  else if status &&& tisMask ≠ 0 then
    (sysCallEventUart1Tx, 0,
      kernel.modify fun data => { data with uart1Ctlr := data.uart1Ctlr &&& ~~~tienMask })
  else
    -- `single_event` keeps its initial value
    (sysCallEventTimer, 0, kernelPanic kernel)

def decodeUart2 (kernel : Kernel) (regs : InterruptRegs) : Word × ℤ × Kernel :=
  let status : Byte := regs.uart2Intr.setWidth 8
  -- responded to in priority order
  if status &&& risMask ≠ 0 then
    (sysCallEventUart2Rx, (regs.uart2Data &&& dataMask).toInt, kernel)
  else if status &&& tisMask ≠ 0 then
    (sysCallEventUart2Tx, 0,
      kernel.modify fun data => { data with uart2Ctlr := data.uart2Ctlr &&& ~~~tienMask })
  else
    (sysCallEventTimer, 0, kernelPanic kernel)

def handleInterrupt (kernel : Kernel) (active : Tid) (regs : InterruptRegs) :
    Option (Bool × Kernel) := do
  let event := regs.vicVecAddr
  let kernel ←
    if event = sysCallEventTimer then do
      let (_, kernel) ← eventHandlerHandleEvent kernel event 0
      some kernel
    else if event = sysCallEventUart1 then do
      let (singleEvent, retVal, kernel) := decodeUart1 kernel regs
      let (_, kernel) ← eventHandlerHandleEvent kernel singleEvent retVal
      some kernel
    else if event = sysCallEventUart2 then do
      let (singleEvent, retVal, kernel) := decodeUart2 kernel regs
      let (_, kernel) ← eventHandlerHandleEvent kernel singleEvent retVal
      some kernel
    else
      some (kernelPanic kernel)
  let (_, kernel) ← schedulerPut kernel active
  some (false, kernel)

def handle (kernel : Kernel) (active : Tid) (trap : Trap) : Option (Bool × Kernel) :=
  match trap with
  | .swi req => handleSysCall kernel active (decodeSysCall kernel.toKernelData active req)
  | .irq regs => handleInterrupt kernel active regs

def updateIdleTask (kernel : Kernel) (curTime : Word) : Kernel :=
  let isExit : Byte := if eventHandlerEmpty kernel.heap then 1 else 0
  kernel.modify fun data =>
    let mem := storeByte data.mem idleTaskExitAddr isExit
    let nonIdleTime := loadWord mem idleTaskNonIdleTimeAddr
    data.setMem
      (storeWord mem idleTaskNonIdleTimeAddr (nonIdleTime + (curTime - data.lastIdleTime)))

def endIdleTask (data : KernelData) (curTime : Word) : KernelData :=
  { data with lastIdleTime := curTime }

/-- The task runs until it traps; then its registers are saved on its stack. -/
def activate (data : KernelData) (td : Tid) (activation : Activation) : KernelData :=
  let data := data.modifyTd td fun descriptor =>
    { descriptor with
      sp := activation.sp
      svcLr := activation.svcLr
      spsr := activation.spsr }
  { data with
    mem := activation.effect data.mem
    frames := Function.update data.frames td activation.frame }

/-- The kernel when `handle` is called for the active task. -/
def enterKernel (kernel : Kernel) (active : Tid) (activation : Activation) : Kernel :=
  let isIdle := (kernel.tds active).tid = idleTaskTid
  let kernel := if isIdle then updateIdleTask kernel activation.clockBefore else kernel
  let kernel := kernel.modify (activate · active activation)
  if isIdle then kernel.modify (endIdleTask · activation.clockAfter) else kernel

/-- The task that runs next, and the kernel when `handle` is called for it. -/
def kernelEntry (kernel : Kernel) (activation : Activation) : Option (Tid × Kernel) := do
  let (active, kernel) ← schedulerGet kernel
  let active ← active
  some (active, enterKernel kernel active activation)

def Trap.call (trap : Trap) (data : KernelData) (active : Tid) : Option SysCall :=
  match trap with
  | .swi req => some (decodeSysCall data active req)
  | .irq _ => none

/-- The system call that an iteration handles, with its caller and the kernel that handles it. -/
def callOf (kernel : Kernel) (activation : Activation) : Option (Tid × Kernel × SysCall) := do
  let (active, entered) ← kernelEntry kernel activation
  let call ← activation.trap.call entered.toKernelData active
  some (active, entered, call)

/-- One iteration of the loop of `main`; the result is whether the loop ends. -/
def loopBody (kernel : Kernel) (activation : Activation) : Option (Bool × Kernel) := do
  let (active, kernel) ← schedulerGet kernel
  match active with
  | none => some (true, kernel)
  | some active => handle (enterKernel kernel active activation) active activation.trap

/-- The loop from one call of `scheduler_get` to the next. -/
def mainStep (kernel : Kernel) (activation : Activation) : Option Kernel := do
  let (stop, kernel) ← loopBody kernel activation
  if stop then none else some kernel

/-- `init`, from whatever the memory holds when the kernel is started. -/
def init (boot : Kernel) (userMain idleMain : Addr) : Option Kernel := do
  -- init first task
  let kernel := taskDescriptorInit boot 0 0 1 none userMain
  let kernel := taskDescriptorInit kernel idleTaskTid idleTaskTid 28 (some 0) idleMain
  -- init priority queues
  let kernel := schedulerInit kernel
  let (_, kernel) ← schedulerPut kernel 0
  let (_, kernel) ← schedulerPut kernel idleTaskTid
  let kernel := eventHandlerInit kernel
  let kernel := { kernel with nextFreeTd := 2, lastIdleTime := 0 }
  let mem := storeByte kernel.mem idleTaskExitAddr 0
  some (kernel.modify (·.setMem (storeWord mem idleTaskNonIdleTimeAddr 0)))

theorem handle_of_call {kernel : Kernel} {active : Tid} {trap : Trap} {call : SysCall}
    (isCall : trap.call kernel.toKernelData active = some call) :
    handle kernel active trap = handleSysCall kernel active call := by
  cases trap with
  | swi req =>
      rcases Option.some.inj isCall with rfl
      rfl
  | irq regs => simp [Trap.call] at isCall

theorem callOf_eq_some {kernel entered : Kernel} {activation : Activation} {active : Tid}
    {call : SysCall} : callOf kernel activation = some (active, entered, call) ↔
      kernelEntry kernel activation = some (active, entered) ∧
        activation.trap.call entered.toKernelData active = some call := by
  simp only [callOf, Option.bind_eq_bind, Option.bind_eq_some_iff, Option.some.injEq,
    Prod.mk.injEq]
  constructor
  · rintro ⟨⟨active', entered'⟩, enters, call', isCall, rfl, rfl, rfl⟩
    exact ⟨enters, isCall⟩
  · rintro ⟨enters, isCall⟩
    exact ⟨(active, entered), enters, call, isCall, rfl, rfl, rfl⟩

/-- A machine whose memory is all zero when the kernel is started. -/
def zeroedBoot : Kernel where
  tds := fun _ =>
    { tid := 0, priority := 0, parent := none, state := .ready, sp := 0, svcLr := 0, spsr := 0
      messageParams := { tid := 0, msg := 0, msgLen := 0, rep := 0, repLen := 0 } }
  frames := fun _ _ => 0
  bitmap := 0
  nextFreeTd := 0
  lastIdleTime := 0
  mem := fun _ => 0
  uart1Ctlr := 0
  uart2Ctlr := 0
  heap :=
    { queue := fun _ => { front := none, back := none, elements := 0 }
      node := fun _ => { data := none, next := none } }

def zeroedStart : Kernel := (init zeroedBoot 0 0).getD zeroedBoot

def enteredKernel (kernel : Kernel) (activation : Activation) : Kernel :=
  ((kernelEntry kernel activation).getD (0, kernel)).2

theorem kernelEntry_of_active {kernel : Kernel} {activation : Activation} {active : Tid}
    (runs : (kernelEntry kernel activation).map Prod.fst = some active) :
    kernelEntry kernel activation = some (active, enteredKernel kernel activation) := by
  rcases Option.map_eq_some_iff.mp runs with ⟨entry, enters, rfl⟩
  rw [enteredKernel, enters]
  rfl

def stepped (kernel : Kernel) (activation : Activation) : Kernel :=
  (mainStep kernel activation).getD kernel

theorem mainStep_stepped {kernel : Kernel} {activation : Activation}
    (goesOn : (mainStep kernel activation).isSome) :
    mainStep kernel activation = some (stepped kernel activation) := by
  rw [stepped, Option.getD_of_ne_none (Option.isSome_iff_ne_none.mp goesOn)]

/-- The active task makes a system call with arguments in r0 to r2. -/
def callActivation (req arg0 arg1 arg2 : Word) : Activation where
  clockBefore := 0
  clockAfter := 0
  effect := id
  frame := fun slot =>
    if slot = 0 then arg0 else if slot = 1 then arg1 else if slot = 2 then arg2 else 0
  sp := 0
  svcLr := 0
  spsr := 0
  trap := .swi req

end ArmKernel
