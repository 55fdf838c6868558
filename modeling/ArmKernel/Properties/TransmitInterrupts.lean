import ArmKernel.Properties.EventWakeUp
import ArmKernel.Properties.InterruptIsolation

/-!
# Transmit and modem status interrupts

These interrupts are enabled by `AwaitEvent` and disabled when they are handled, so their
enable bits in the control registers of the UARTs show whether some task awaits them. A
step changes a bit and the queue of its event together: the caller of `AwaitEvent` joins
the queue and sets the bit, and an interrupt that clears the bit empties the queue.
-/

namespace ArmKernel

open PartialMachine

/-- The event is one of those whose interrupt is disabled when it is handled. -/
def HandledOnce (event : Word) : Prop :=
  event = sysCallEventUart1Tx ∨ event = sysCallEventUart2Tx ∨ event = sysCallEventUart1Ms

instance (event : Word) : Decidable (HandledOnce event) := by
  unfold HandledOnce
  infer_instance

/-- The interrupt of the event is enabled. -/
def Enabled (data : KernelData) (event : Word) : Prop :=
  if event = sysCallEventUart1Tx then data.uart1Ctlr &&& tienMask ≠ 0
  else if event = sysCallEventUart2Tx then data.uart2Ctlr &&& tienMask ≠ 0
  else data.uart1Ctlr &&& msienMask ≠ 0

theorem HandledOnce.inRange {event : Word} (once : HandledOnce event) :
    event.toNat < eventHandlerMaxEvents := by
  rcases once with rfl | rfl | rfl <;> decide

section Registers

variable {data : KernelData} {event : Word}

theorem or_and_eq_zero_iff (ctlr set mask : Word) :
    (ctlr ||| set) &&& mask = 0 ↔ ctlr &&& mask = 0 ∧ set &&& mask = 0 := by
  rw [BitVec.and_or_distrib_right]
  exact BitVec.or_eq_zero_iff

theorem set_and_ne_zero {mask : Word} (nonzero : mask ≠ 0) (ctlr : Word) :
    (ctlr ||| mask) &&& mask ≠ 0 := by
  intro zero
  apply nonzero
  have own := ((or_and_eq_zero_iff ctlr mask mask).mp zero).2
  rwa [BitVec.and_self] at own

/-- `AwaitEvent` sets the bit of its own event. -/
theorem enabled_enableInterrupt_self (once : HandledOnce event) :
    Enabled (enableInterrupt data event) event := by
  have tx1 : sysCallEventUart2Tx ≠ sysCallEventUart1Tx := by decide
  have ms1 : sysCallEventUart1Ms ≠ sysCallEventUart1Tx := by decide
  have ms2 : sysCallEventUart1Ms ≠ sysCallEventUart2Tx := by decide
  have ms3 : sysCallEventUart1Ms ≠ sysCallEventUart1Rx := by decide
  have ms4 : sysCallEventUart1Ms ≠ sysCallEventUart2Rx := by decide
  rcases once with rfl | rfl | rfl <;>
    simp only [Enabled, enableInterrupt, tx1, ms1, ms2, ms3, ms4, if_true, if_false]
  · exact set_and_ne_zero (by decide) _
  · exact set_and_ne_zero (by decide) _
  · exact set_and_ne_zero (by decide) _

theorem enabled_enableInterrupt_of_ne (once : HandledOnce event) {awaited : Word}
    (awaitedNe : awaited ≠ event) :
    Enabled (enableInterrupt data awaited) event ↔ Enabled data event := by
  have rienTien : rienMask &&& tienMask = 0 := by decide
  have rienMsien : rienMask &&& msienMask = 0 := by decide
  have tienMsien : tienMask &&& msienMask = 0 := by decide
  have msienTien : msienMask &&& tienMask = 0 := by decide
  have tx1 : sysCallEventUart2Tx ≠ sysCallEventUart1Tx := by decide
  have ms1 : sysCallEventUart1Ms ≠ sysCallEventUart1Tx := by decide
  have ms2 : sysCallEventUart1Ms ≠ sysCallEventUart2Tx := by decide
  rcases once with rfl | rfl | rfl <;> simp only [Enabled, enableInterrupt, awaitedNe, if_false,
    if_true, tx1, ms1, ms2] <;> split_ifs <;>
    simp only [ne_eq, or_and_eq_zero_iff, rienTien, rienMsien, tienMsien, msienTien, and_true]

theorem enabled_congr {data' : KernelData} (same1 : data'.uart1Ctlr = data.uart1Ctlr)
    (same2 : data'.uart2Ctlr = data.uart2Ctlr) : Enabled data' event ↔ Enabled data event := by
  simp only [Enabled, same1, same2]

/-- An interrupt clears the bit of its own event, and leaves the others. -/
theorem enabled_maskInterrupts {regs : InterruptRegs} {served : Word} {ret : ℤ}
    {keep1 keep2 : Word} (once : HandledOnce event)
    (decoded : ListKernel.decodeInterrupt regs = .event served ret keep1 keep2) :
    Enabled (data.maskInterrupts keep1 keep2) event ↔ Enabled data event ∧ served ≠ event := by
  have allTien : BitVec.allOnes 32 &&& tienMask = tienMask := by decide
  have allMsien : BitVec.allOnes 32 &&& msienMask = msienMask := by decide
  have tienTien : ~~~tienMask &&& tienMask = 0#32 := by decide
  have tienMsien : ~~~tienMask &&& msienMask = msienMask := by decide
  have msienTien : ~~~msienMask &&& tienMask = tienMask := by decide
  have msienMsien : ~~~msienMask &&& msienMask = 0#32 := by decide
  simp only [ListKernel.decodeInterrupt] at decoded
  split_ifs at decoded <;>
    rcases ListKernel.Interrupt.event.inj decoded with ⟨rfl, -, rfl, rfl⟩ <;>
    rcases once with rfl | rfl | rfl <;>
    simp +decide only [Enabled, KernelData.maskInterrupts, BitVec.and_assoc, allTien, allMsien,
      tienTien, tienMsien, msienTien, msienMsien, BitVec.and_zero, if_true, if_false, and_true,
      and_false, ne_eq]

@[simp]
theorem KernelData.enter_uart1Ctlr (data : KernelData) (isExit : Byte) (active : Tid)
    (activation : Activation) :
    (data.enter isExit active activation).uart1Ctlr = data.uart1Ctlr := by
  simp only [KernelData.enter]
  split_ifs <;> rfl

@[simp]
theorem KernelData.enter_uart2Ctlr (data : KernelData) (isExit : Byte) (active : Tid)
    (activation : Activation) :
    (data.enter isExit active activation).uart2Ctlr = data.uart2Ctlr := by
  simp only [KernelData.enter]
  split_ifs <;> rfl

end Registers

namespace ListKernel

variable {kernel : ListKernel} {active : Tid} {event : Word}

theorem sysCall_enabled (once : HandledOnce event) (call : SysCall) :
    Enabled (kernel.sysCall active call).2.toKernelData event ↔
      call = .awaitEvent event ∨ Enabled kernel.toKernelData event := by
  have inRange := once.inRange
  cases call with
  | awaitEvent awaited =>
      simp only [sysCall, awaitEvent, SysCall.awaitEvent.injEq]
      split_ifs with outside
      · have awaitedNe : awaited ≠ event := by
          rintro rfl
          omega
        simp only [awaitedNe, false_or]
        exact enabled_congr rfl rfl
      · refine Iff.trans (enabled_congr rfl rfl)
          (?_ : Enabled (enableInterrupt kernel.toKernelData awaited) event ↔ _)
        by_cases same : awaited = event
        · simp only [same, enabled_enableInterrupt_self once, true_or]
        · rw [enabled_enableInterrupt_of_ne once same]
          simp only [same, false_or]
  | create priority code =>
      simp only [sysCall, create, reduceCtorEq, false_or]
      split_ifs <;> exact enabled_congr rfl rfl
  | parenttid =>
      simp only [sysCall, parenttid, reduceCtorEq, false_or]
      split <;> exact enabled_congr rfl rfl
  | send tid msg msgLen rep repLen =>
      simp only [sysCall, send, reduceCtorEq, false_or]
      split_ifs <;> exact enabled_congr rfl rfl
  | receive tid msg msgLen =>
      simp only [sysCall, receive, reduceCtorEq, false_or]
      split
      · exact enabled_congr rfl rfl
      · split_ifs <;> exact enabled_congr rfl rfl
  | reply tid rep repLen =>
      simp only [sysCall, reply, reduceCtorEq, false_or]
      split_ifs <;> exact enabled_congr rfl rfl
  | exit | pass | mytid | panic | quit | unknown =>
      simp only [reduceCtorEq, false_or]
      exact enabled_congr rfl rfl

theorem wake_enabled (kernel : ListKernel) (awaited : Word) (ret : ℤ) (tasks : List Tid) :
    Enabled (kernel.wake awaited ret tasks).toKernelData event ↔
      Enabled kernel.toKernelData event := by
  apply enabled_congr
  · rw [wake_data]
  · rw [wake_data]

theorem interrupt_enabled (once : HandledOnce event) (regs : InterruptRegs) :
    Enabled (kernel.interrupt active (decodeInterrupt regs)).toKernelData event ↔
      Enabled kernel.toKernelData event ∧ (decodeInterrupt regs).served ≠ some event := by
  cases decoded : decodeInterrupt regs with
  | event served ret keep1 keep2 =>
      refine Iff.trans (wake_enabled (kernel.modify (·.maskInterrupts keep1 keep2)) served ret _) ?_
      refine (enabled_maskInterrupts once decoded).trans ?_
      simp only [Interrupt.served, ne_eq, Option.some.injEq]
  | spurious =>
      refine Iff.trans (wake_enabled kernel.panic sysCallEventTimer 0 _) ?_
      have notTimer : sysCallEventTimer ≠ event := by
        rcases once with rfl | rfl | rfl <;> decide
      simp only [Interrupt.served, ne_eq, Option.some.injEq, notTimer, not_false_eq_true, and_true]
      exact enabled_congr rfl rfl
  | unexpected =>
      simp only [Interrupt.served, ne_eq, reduceCtorEq, not_false_eq_true, and_true]
      exact enabled_congr rfl rfl

/-- The interrupt of an event is enabled exactly while some task awaits the event. -/
def EnabledWhenAwaited (kernel : ListKernel) : Prop :=
  ∀ event, HandledOnce event →
    (Enabled kernel.toKernelData event ↔ kernel.lists (.awaitQ event) ≠ [])

theorem EnabledWhenAwaited.sysCall (awaited : EnabledWhenAwaited kernel) (call : SysCall) :
    EnabledWhenAwaited (kernel.sysCall active call).2 := by
  intro event once
  rw [sysCall_enabled once, awaited event once, sysCall_awaitQ _ _ _ once.inRange]
  split_ifs with isCall <;> simp [isCall]

theorem EnabledWhenAwaited.interrupt (awaited : EnabledWhenAwaited kernel)
    (regs : InterruptRegs) :
    EnabledWhenAwaited (kernel.interrupt active (decodeInterrupt regs)) := by
  intro event once
  rw [interrupt_enabled once, awaited event once, interrupt_awaitQ]
  split_ifs with served <;> simp [served]

/-- Running a task changes neither the control registers nor the queues of the events. -/
theorem EnabledWhenAwaited.entry (awaited : EnabledWhenAwaited kernel) {activation : Activation}
    {entered : ListKernel} (runs : kernel.entry activation = some (active, entered)) :
    EnabledWhenAwaited entered := by
  intro event once
  rw [entry_lists runs (by simp), ← awaited event once]
  rcases entry_eq runs with ⟨taken, got, rfl, -⟩
  rcases get_eq got with ⟨rest, -, -, rfl⟩
  apply enabled_congr
  · exact KernelData.enter_uart1Ctlr _ _ _ _
  · exact KernelData.enter_uart2Ctlr _ _ _ _

theorem EnabledWhenAwaited.step (awaited : EnabledWhenAwaited kernel) (activation : Activation) :
    EnabledWhenAwaited (kernel.step activation).2 := by
  cases runs : kernel.entry activation with
  | none =>
      rw [ListKernel.step, runs]
      exact awaited
  | some result =>
      rcases result with ⟨active, entered⟩
      have awaitedEntered := awaited.entry runs
      rw [step_of_entry runs]
      cases trap : activation.trap with
      | swi req => exact awaitedEntered.sysCall _
      | irq regs => exact awaitedEntered.interrupt regs

end ListKernel

/-- The enable bits of the transmit and modem status interrupts show who is queued. -/
structure EnabledIffAwaited (kernel : Kernel) : Prop where
  tien1 : kernel.uart1Ctlr &&& tienMask ≠ 0 ↔
    queueTasks kernel.heap (.awaitQ sysCallEventUart1Tx) ≠ []
  tien2 : kernel.uart2Ctlr &&& tienMask ≠ 0 ↔
    queueTasks kernel.heap (.awaitQ sysCallEventUart2Tx) ≠ []
  msien1 : kernel.uart1Ctlr &&& msienMask ≠ 0 ↔
    queueTasks kernel.heap (.awaitQ sysCallEventUart1Ms) ≠ []

/-- The UARTs raise these interrupts only while they are enabled. -/
structure RaisedWhileEnabled (data : KernelData) (regs : InterruptRegs) : Prop where
  tis1 : regs.uart1Intr.setWidth 8 &&& tisMask ≠ 0 → data.uart1Ctlr &&& tienMask ≠ 0
  mis1 : regs.uart1Intr.setWidth 8 &&& misMask ≠ 0 → data.uart1Ctlr &&& msienMask ≠ 0
  tis2 : regs.uart2Intr.setWidth 8 &&& tisMask ≠ 0 → data.uart2Ctlr &&& tienMask ≠ 0

/-- The interrupt makes a task ready that awaited the event. -/
def WakesSomebody (entered after : Kernel) (event : Word) : Prop :=
  ∃ task ∈ queueTasks entered.heap (.awaitQ event),
    (entered.tds task).state = .eventBlocked ∧ (after.tds task).state = .ready

theorem RaisedWhileEnabled.enabled {data : KernelData} {regs : InterruptRegs} {event : Word}
    (raised : RaisedWhileEnabled data regs) (once : HandledOnce event)
    (denoted : denotedEvent regs = some event) : Enabled data event := by
  simp only [denotedEvent] at denoted
  split_ifs at denoted with timer uart1 ris1 mis1 tis1 uart2 ris2 tis2 <;>
    rcases Option.some.inj denoted with rfl
  · exact absurd once (by decide)
  · exact absurd once (by decide)
  · exact raised.mis1 mis1
  · exact raised.tis1 tis1
  · exact absurd once (by decide)
  · exact raised.tis2 tis2

section Steps

variable {kernel : Kernel} {model : ListKernel} {activation : Activation}

theorem Matched.enabledIffAwaited (isMatched : Matched kernel model)
    (awaited : model.EnabledWhenAwaited) : EnabledIffAwaited kernel := by
  have onHeap (event : Word) (once : HandledOnce event) : Enabled kernel.toKernelData event ↔
      queueTasks kernel.heap (.awaitQ event) ≠ [] := by
    have isLive : Live model.nextFreeTd (.awaitQ event) := once.inRange
    rw [isMatched.refines.queueTasks_eq _ isLive, isMatched.refines.data]
    exact awaited event once
  exact ⟨onHeap _ (.inl rfl), onHeap _ (.inr (.inl rfl)), onHeap _ (.inr (.inr rfl))⟩

/-- An interrupt that is raised while it is enabled finds a task that awaits it. -/
theorem Matched.wakesSomebody {active : Tid} {entered : Kernel} {regs : InterruptRegs}
    {event : Word} (isMatched : Matched kernel model) (awaited : model.EnabledWhenAwaited)
    (enters : ArmKernel.kernelEntry kernel activation = some (active, entered))
    (isIrq : activation.trap = .irq regs) (raised : RaisedWhileEnabled entered.toKernelData regs)
    (once : HandledOnce event) (denoted : denotedEvent regs = some event) :
    ∃ after, ArmKernel.loopBody kernel activation = some (false, after) ∧
      WakesSomebody entered after event := by
  rcases isMatched.entered enters with ⟨model', runs, body, refines, running⟩
  rcases refines.handleInterrupt running regs with ⟨after, done, refines'⟩
  rw [isIrq, handle] at body
  refine ⟨after, body.trans done, ?_⟩
  have isLive : Live model'.nextFreeTd (.awaitQ event) := once.inRange
  have enabled := raised.enabled once denoted
  rw [refines.data, (awaited.entry runs) event once] at enabled
  rcases List.exists_mem_of_ne_nil _ enabled with ⟨task, taskMem⟩
  have served : (ListKernel.decodeInterrupt regs).served = some event := by
    rw [served_eq, denoted]
  refine ⟨task, ?_, ?_, ?_⟩
  · rwa [refines.queueTasks_eq _ isLive]
  · rw [refines.sameTds]
    exact running.sound.state taskMem
  · rw [refines'.sameTds]
    exact ListKernel.ready_of_served served taskMem

end Steps

/--
Transmit and modem status interrupts are never spent on nobody: in every safe run from
cleared enable bits they are enabled exactly while some task awaits them, and one that is
raised while it is enabled wakes a task.
-/
theorem run_enabledIffAwaited {boot start final : Kernel} {userMain idleMain : Addr}
    {trace : List (Transition Kernel Activation)}
    (booted : init boot userMain idleMain = some start)
    (tien1 : boot.uart1Ctlr &&& tienMask = 0) (tien2 : boot.uart2Ctlr &&& tienMask = 0)
    (msien1 : boot.uart1Ctlr &&& msienMask = 0) (run : Run mainStep start trace final)
    (safe : ∀ transition ∈ trace, Safe transition.before transition.input) :
    EnabledIffAwaited final ∧
      ∀ activation active entered regs event,
        kernelEntry final activation = some (active, entered) → activation.trap = .irq regs →
        RaisedWhileEnabled entered.toKernelData regs → HandledOnce event →
        denotedEvent regs = some event →
        ∃ after, loopBody final activation = some (false, after) ∧
          WakesSomebody entered after event := by
  have initially : (ListKernel.init boot.toKernelData userMain idleMain).EnabledWhenAwaited := by
    intro event once
    have nobody : (ListKernel.init boot.toKernelData userMain idleMain).lists (.awaitQ event) =
        [] := by
      simp [ListKernel.init, ListKernel.start, ListKernel.modify]
    have disabled : ¬Enabled boot.toKernelData event := by
      rcases once with rfl | rfl | rfl <;>
        simp +decide only [Enabled, tien1, tien2, msien1, if_true, if_false, ne_eq,
          not_false_eq_true]
    simp only [nobody, ne_eq, not_true_eq_false, iff_false]
    exact disabled
  rcases run_abstracts ListKernel.EnabledWhenAwaited booted run safe (fun _ isSafe => isSafe)
    initially (fun transition _ _ _ _ awaited => awaited.step transition.input)
    with ⟨model, isMatched, awaited⟩
  refine ⟨isMatched.enabledIffAwaited awaited, ?_⟩
  intro activation active entered regs event enters isIrq raised once denoted
  exact isMatched.wakesSomebody awaited enters isIrq raised once denoted

/-- The first task awaits the transmit interrupt of UART1. -/
def transmitAwaited : Kernel :=
  finalOf mainStep zeroedStart [callActivation 8 sysCallEventUart1Tx 0 0]

/-- The interrupt comes while the idle task runs. -/
def transmitInterrupt : Activation :=
  { callActivation 0 0 0 0 with trap := .irq ⟨sysCallEventUart1, 4, 0, 0, 0, 0⟩ }

theorem run_enabledIffAwaited_transmit : EnabledIffAwaited transmitAwaited ∧
    ∃ after, loopBody transmitAwaited transmitInterrupt = some (false, after) ∧
      WakesSomebody (enteredKernel transmitAwaited transmitInterrupt) after
        sysCallEventUart1Tx := by
  have booted : init zeroedBoot 0 0 = some zeroedStart := rfl
  have runs : (record mainStep zeroedStart
      [callActivation 8 sysCallEventUart1Tx 0 0]).isSome := by decide +kernel
  have enters : kernelEntry transmitAwaited transmitInterrupt =
      some (idleTaskTid, enteredKernel transmitAwaited transmitInterrupt) :=
    kernelEntry_of_active (by decide +kernel)
  rcases run_enabledIffAwaited booted rfl rfl rfl (.of_isSome runs) (by decide +kernel)
    with ⟨shows, wakes⟩
  refine ⟨shows, wakes _ _ _ _ _ enters rfl ⟨?_, ?_, ?_⟩ (by decide) (by decide)⟩
  · decide +kernel
  · decide +kernel
  · decide +kernel

end ArmKernel
