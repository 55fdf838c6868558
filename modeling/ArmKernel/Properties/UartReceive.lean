import ArmKernel.MainLoop

/-!
# Bytes received by the UARTs

A receive interrupt reads the data register of its UART, which takes the byte out of the
device, and hands the byte to the tasks that await the event. Unlike the transmit and
modem interrupts it is not disabled when it is handled. So it may come again before any
task awaits it, and then nobody gets the byte. In a safe run a byte is delivered exactly
if some task has begun to await the event since the byte before it was read.
-/

namespace ArmKernel

open PartialMachine Placement

/-- The event of the UART whose data register an interrupt reads, and the byte read. -/
def byteRead : Trap → Option (Word × Word)
  | .swi _ => none
  | .irq regs =>
      if regs.vicVecAddr = sysCallEventUart1 ∧ regs.uart1Intr.setWidth 8 &&& risMask ≠ 0 then
        some (sysCallEventUart1Rx, regs.uart1Data &&& dataMask)
      else if regs.vicVecAddr = sysCallEventUart2 ∧ regs.uart2Intr.setWidth 8 &&& risMask ≠ 0 then
        some (sysCallEventUart2Rx, regs.uart2Data &&& dataMask)
      else
        none

/-- The receive interrupt of the UART is enabled. -/
def RxEnabled (data : KernelData) (event : Word) : Prop :=
  if event = sysCallEventUart1Rx then data.uart1Ctlr &&& rienMask ≠ 0
  else data.uart2Ctlr &&& rienMask ≠ 0

instance (data : KernelData) (event : Word) : Decidable (RxEnabled data event) := by
  unfold RxEnabled
  infer_instance

/-- A UART raises its receive interrupt only while the interrupt is enabled. -/
def RaisedEnabled (kernel : Kernel) (activation : Activation) : Prop :=
  ∀ entry ∈ kernelEntry kernel activation, ∀ read ∈ byteRead activation.trap,
    RxEnabled entry.2.toKernelData read.1

instance (kernel : Kernel) (activation : Activation) :
    Decidable (RaisedEnabled kernel activation) :=
  -- over the one value there may be, not over all pairs of words
  @Option.decidableForallMem _ _ (fun _ => Option.decidableForallMem _) _

/-- A task that awaited the event is ready, with the byte as its return value. -/
def ByteDelivered (entered after : Kernel) (event byte : Word) : Prop :=
  ∃ task, task ∈ queueTasks entered.heap (.awaitQ event) ∧
    (entered.tds task).state = .eventBlocked ∧ (after.tds task).state = .ready ∧
    task ∈ queueTasks after.heap (.priorityQ (after.tds task).priority) ∧
    after.frames task 0 = byte

/-- The step is a call of `AwaitEvent` for the event. -/
def Awaits (event : Word) (transition : Transition Kernel Activation) : Prop :=
  ∃ active entered, kernelEntry transition.before transition.input = some (active, entered) ∧
    transition.input.trap.call entered.toKernelData active = some (.awaitEvent event)

/-- The step is an interrupt that reads a byte of the UART of the event. -/
def ReadsByte (event : Word) (transition : Transition Kernel Activation) : Prop :=
  ∃ byte, byteRead transition.input.trap = some (event, byte)

section Decoding

variable {regs : InterruptRegs} {event byte : Word}

theorem irq_of_byteRead {trap : Trap} (reads : byteRead trap = some (event, byte)) :
    ∃ regs, trap = .irq regs := by
  cases trap with
  | swi req => simp [byteRead] at reads
  | irq regs => exact ⟨regs, rfl⟩

/-- An interrupt that reads a byte is handled as the event of that UART. -/
theorem decode_of_byteRead (reads : byteRead (.irq regs) = some (event, byte)) :
    event.toNat < eventHandlerMaxEvents ∧
      ListKernel.decodeInterrupt regs =
        .event event byte.toInt (BitVec.allOnes 32) (BitVec.allOnes 32) := by
  rw [byteRead] at reads
  split_ifs at reads with uart1 uart2
  · rcases uart1 with ⟨uart1, ris⟩
    rcases Prod.mk.inj (Option.some.inj reads) with ⟨rfl, rfl⟩
    refine ⟨by decide, ?_⟩
    rw [ListKernel.decodeInterrupt, if_neg (by rw [uart1]; decide), if_pos uart1, if_pos ris]
  · rcases uart2 with ⟨uart2, ris⟩
    rcases Prod.mk.inj (Option.some.inj reads) with ⟨rfl, rfl⟩
    refine ⟨by decide, ?_⟩
    rw [ListKernel.decodeInterrupt, if_neg (by rw [uart2]; decide),
      if_neg (by rw [uart2]; decide), if_pos uart2, if_pos ris]

theorem rx_of_byteRead (reads : byteRead (.irq regs) = some (event, byte)) :
    event = sysCallEventUart1Rx ∨ event = sysCallEventUart2Rx := by
  rw [byteRead] at reads
  split_ifs at reads
  · exact Or.inl (Prod.mk.inj (Option.some.inj reads)).1.symm
  · exact Or.inr (Prod.mk.inj (Option.some.inj reads)).1.symm

/-- Every interrupt that is handled as a receive event reads a byte. -/
theorem byteRead_of_decode {ret : ℤ} {keep1 keep2 : Word}
    (isRx : event = sysCallEventUart1Rx ∨ event = sysCallEventUart2Rx)
    (decoded : ListKernel.decodeInterrupt regs = .event event ret keep1 keep2) :
    ∃ byte, byteRead (.irq regs) = some (event, byte) := by
  simp only [ListKernel.decodeInterrupt] at decoded
  split_ifs at decoded with timer uart1 ris1 mis tis1 uart2 ris2 tis2 <;>
    rcases ListKernel.Interrupt.event.inj decoded with ⟨rfl, -⟩
  · exact absurd isRx (by decide)
  · exact ⟨_, if_pos ⟨uart1, ris1⟩⟩
  · exact absurd isRx (by decide)
  · exact absurd isRx (by decide)
  · exact ⟨_, (if_neg fun both => uart1 both.1).trans (if_pos ⟨uart2, ris2⟩)⟩
  · exact absurd isRx (by decide)

end Decoding

namespace ListKernel

variable {kernel : ListKernel} {active task other : Tid} {event : Word} {ret : ℤ}

/-- The task is ready with the return value. -/
structure Woken (kernel : ListKernel) (task : Tid) (ret : ℤ) : Prop where
  state : (kernel.tds task).state = .ready
  queued : task ∈ kernel.lists (.priorityQ (kernel.tds task).priority)
  value : kernel.frames task 0 = BitVec.ofInt 32 ret

theorem Woken.put (woken : Woken kernel task ret) (other : Tid) :
    Woken (kernel.put other) task ret where
  state := by
    rcases eq_or_ne task other with rfl | taskNe
    · exact KernelData.setState_self _
    · exact (congrArg TaskDescriptor.state (KernelData.setState_of_ne taskNe _)).trans woken.state
  queued := by
    have samePriority : ((kernel.put other).tds task).priority = (kernel.tds task).priority :=
      KernelData.setState_priority _
    rw [samePriority]
    exact mem_put_of_mem woken.queued
  value := woken.value

theorem woken_put (value : kernel.frames task 0 = BitVec.ofInt 32 ret) :
    Woken (kernel.put task) task ret where
  state := KernelData.setState_self _
  queued := by
    have samePriority : ((kernel.put task).tds task).priority = (kernel.tds task).priority :=
      KernelData.setState_priority _
    rw [samePriority]
    exact mem_put kernel task
  value := value

/-- A task that was woken stays so while others are woken with the same value. -/
theorem Woken.wakeNext (woken : Woken kernel task ret) (rest : List Tid) :
    Woken (((kernel.setList (.awaitQ event) rest).setReturnValue other ret).put other) task
      ret := by
  apply Woken.put
  refine ⟨woken.state, ?_, ?_⟩
  · have sameList : ((kernel.setList (.awaitQ event) rest).setReturnValue other ret).lists
        (.priorityQ (kernel.tds task).priority) =
        kernel.lists (.priorityQ (kernel.tds task).priority) := by
      simp [setReturnValue, setList, modify]
    exact sameList ▸ woken.queued
  · rcases eq_or_ne task other with rfl | taskNe
    · exact (congrFun (Function.update_self task _ kernel.frames) 0).trans
        (Function.update_self 0 _ (kernel.frames task))
    · exact (congrFun (Function.update_of_ne taskNe _ kernel.frames) 0).trans woken.value

theorem wake_woken {tasks : List Tid} (woken : task ∈ tasks ∨ Woken kernel task ret) :
    Woken (kernel.wake event ret tasks) task ret := by
  induction tasks generalizing kernel with
  | nil => exact woken.resolve_left List.not_mem_nil
  | cons first rest ih =>
      apply ih
      rcases woken with taskMem | woken
      · rcases List.mem_cons.mp taskMem with rfl | restMem
        · apply Or.inr
          apply woken_put
          exact (congrFun (Function.update_self task _ kernel.frames) 0).trans
            (Function.update_self 0 _ (kernel.frames task))
        · exact Or.inl restMem
      · exact Or.inr (woken.wakeNext rest)

@[simp]
theorem put_awaitQ (kernel : ListKernel) (td : Tid) (event : Word) :
    (kernel.put td).lists (.awaitQ event) = kernel.lists (.awaitQ event) := by
  simp

theorem wake_awaitQ {tasks : List Tid} (shape : kernel.lists (.awaitQ event) = tasks)
    (awaited : Word) : (kernel.wake event ret tasks).lists (.awaitQ awaited) =
      if event = awaited then [] else kernel.lists (.awaitQ awaited) := by
  induction tasks generalizing kernel with
  | nil =>
      split_ifs with same
      · exact same ▸ shape
      · rfl
  | cons first rest ih =>
      refine (ih (wake_rest kernel event ret first rest)).trans ?_
      split_ifs with same
      · rfl
      · simp [setReturnValue, setList, modify, Ne.symm same]

theorem interrupt_awaitQ (kernel : ListKernel) (active : Tid) (cause : Interrupt) (event : Word) :
    (kernel.interrupt active cause).lists (.awaitQ event) =
      if cause.served = some event then [] else kernel.lists (.awaitQ event) := by
  cases cause with
  | event served ret keep1 keep2 =>
      refine (put_awaitQ _ active event).trans ((wake_awaitQ rfl event).trans ?_)
      simp only [Interrupt.served, Option.some.injEq, modify]
  | spurious =>
      refine (put_awaitQ _ active event).trans ((wake_awaitQ rfl event).trans ?_)
      simp only [Interrupt.served, Option.some.injEq, panic]
  | unexpected =>
      exact put_awaitQ _ active event

/-- The only system call that concerns the tasks awaiting an event is `AwaitEvent`. -/
theorem sysCall_awaitQ (kernel : ListKernel) (active : Tid) (call : SysCall)
    (inRange : event.toNat < eventHandlerMaxEvents) :
    (kernel.sysCall active call).2.lists (.awaitQ event) =
      kernel.lists (.awaitQ event) ++ if call = .awaitEvent event then [active] else [] := by
  cases call with
  | create priority code =>
      simp only [reduceCtorEq, if_false, List.append_nil, sysCall, create]
      split_ifs <;> simp [setReturnValue, modify]
  | parenttid =>
      simp only [reduceCtorEq, if_false, List.append_nil, sysCall, parenttid]
      split <;> simp [setReturnValue, modify]
  | send tid msg msgLen rep repLen =>
      simp only [reduceCtorEq, if_false, List.append_nil, sysCall, send]
      split_ifs <;> simp [setReturnValue, modify, enqueue, setList]
  | receive tid msg msgLen =>
      simp only [reduceCtorEq, if_false, List.append_nil, sysCall, receive]
      split
      · simp [setReturnValue, modify]
      · split_ifs <;> simp [setReturnValue, modify, setList]
  | reply tid rep repLen =>
      simp only [reduceCtorEq, if_false, List.append_nil, sysCall, reply]
      split_ifs <;> simp [setReturnValue, modify]
  | awaitEvent awaited =>
      simp only [sysCall, awaitEvent]
      split_ifs with outside same
      · rw [SysCall.awaitEvent.inj same] at outside
        omega
      · simp [setReturnValue, modify]
      · rename_i same
        simp [SysCall.awaitEvent.inj same, setReturnValue, modify, enqueue, setList]
      · rename_i other
        have awaitedNe : event ≠ awaited :=
          fun same => other (congrArg SysCall.awaitEvent same.symm)
        simp [setReturnValue, modify, enqueue, setList, awaitedNe]
  | pass => simp [sysCall, setReturnValue, modify]
  | mytid => simp [sysCall, setReturnValue, modify]
  | exit => simp [sysCall, modify]
  | panic => simp [sysCall, setReturnValue, modify, panic]
  | quit => simp [sysCall]
  | unknown => simp [sysCall, setReturnValue, modify, panic]

end ListKernel

/-- An interrupt wakes the tasks that await a byte exactly if it reads one. -/
theorem served_iff {regs : InterruptRegs} {event : Word}
    (isRx : event = sysCallEventUart1Rx ∨ event = sysCallEventUart2Rx) :
    (ListKernel.decodeInterrupt regs).served = some event ↔
      ∃ byte, byteRead (.irq regs) = some (event, byte) := by
  constructor
  · intro served
    cases decoded : ListKernel.decodeInterrupt regs with
    | event awaited ret keep1 keep2 =>
        rw [decoded] at served
        rcases Option.some.inj served with rfl
        exact byteRead_of_decode isRx decoded
    | spurious =>
        rw [decoded] at served
        rcases Option.some.inj served with rfl
        exact absurd isRx (by decide)
    | unexpected => simp [decoded, ListKernel.Interrupt.served] at served
  · rintro ⟨byte, reads⟩
    rw [(decode_of_byteRead reads).2]
    rfl

section Steps

variable {kernel kernel' : Kernel} {model : ListKernel} {activation : Activation} {event : Word}

/-- After a step some task awaits the byte if the step is its call of `AwaitEvent`, or if
one did before and the step reads no byte. -/
theorem Matched.awaited_iff (isMatched : Matched kernel model)
    (stepped : ArmKernel.mainStep kernel activation = some kernel')
    (safe : ArmKernel.Safe kernel activation)
    (isRx : event = sysCallEventUart1Rx ∨ event = sysCallEventUart2Rx) :
    queueTasks kernel'.heap (.awaitQ event) ≠ [] ↔ Awaits event ⟨kernel, activation, kernel'⟩ ∨
      queueTasks kernel.heap (.awaitQ event) ≠ [] ∧
        ¬ReadsByte event ⟨kernel, activation, kernel'⟩ := by
  have inRange : event.toNat < eventHandlerMaxEvents := by rcases isRx with rfl | rfl <;> decide
  have isLive : ∀ count, Live count (.awaitQ event) := fun _ => inRange
  rcases isMatched.mainStep stepped safe with ⟨goesOn, isMatched'⟩
  rcases ListKernel.entry_of_step goesOn with ⟨active, entered, runs⟩
  rcases isMatched.kernelEntry runs with ⟨kernel'', enters, -, refines, -⟩
  rw [isMatched'.refines.queueTasks_eq _ (isLive _), isMatched.refines.queueTasks_eq _ (isLive _),
    ListKernel.step_of_entry runs, ← ListKernel.entry_lists runs (by simp)]
  cases trap : activation.trap with
  | swi req =>
      have noByte : ¬ReadsByte event ⟨kernel, activation, kernel'⟩ := by
        rintro ⟨byte, reads⟩
        simp [trap, byteRead] at reads
      have isCall : Awaits event ⟨kernel, activation, kernel'⟩ ↔
          decodeSysCall entered.toKernelData active req = .awaitEvent event := by
        constructor
        · rintro ⟨active', entered', enters', call⟩
          rcases Prod.mk.inj (Option.some.inj (enters.symm.trans enters')) with ⟨rfl, rfl⟩
          rw [trap, refines.data] at call
          exact Option.some.inj call
        · intro call
          exact ⟨active, kernel'', enters, by rw [trap, refines.data]; exact congrArg some call⟩
      rw [isCall, ListKernel.handle, ListKernel.sysCall_awaitQ _ _ _ inRange]
      split_ifs with awaits
      · simp [awaits]
      · simp [awaits, noByte]
  | irq regs =>
      have noCall : ¬Awaits event ⟨kernel, activation, kernel'⟩ := by
        rintro ⟨active', entered', -, call⟩
        simp [trap, Trap.call] at call
      have isRead : ReadsByte event ⟨kernel, activation, kernel'⟩ ↔
          (ListKernel.decodeInterrupt regs).served = some event := by
        rw [served_iff isRx, ReadsByte, trap]
      rw [isRead, ListKernel.handle, ListKernel.interrupt_awaitQ]
      split_ifs with served
      · simp [noCall, served]
      · simp [noCall, served]

/-- The byte that an interrupt reads is delivered exactly if some task awaits it. -/
theorem Matched.byteDelivered_iff {active : Tid} {entered : Kernel} {byte : Word}
    (isMatched : Matched kernel model)
    (enters : ArmKernel.kernelEntry kernel activation = some (active, entered))
    (reads : byteRead activation.trap = some (event, byte)) :
    ∃ after, ArmKernel.loopBody kernel activation = some (false, after) ∧
      (ByteDelivered entered after event byte ↔
        queueTasks kernel.heap (.awaitQ event) ≠ []) := by
  rcases irq_of_byteRead reads with ⟨regs, isIrq⟩
  rw [isIrq] at reads
  rcases decode_of_byteRead reads with ⟨inRange, decoded⟩
  rcases isMatched.entered enters with ⟨model', runs, body, refines, running⟩
  rcases refines.handleInterrupt running regs with ⟨after, done, refines'⟩
  rw [isIrq, handle] at body
  refine ⟨after, body.trans done, ?_⟩
  have isLive : ∀ count, Live count (.awaitQ event) := fun _ => inRange
  rw [isMatched.refines.queueTasks_eq _ (isLive _), ← ListKernel.entry_lists runs (by simp),
    ByteDelivered, refines.queueTasks_eq _ (isLive _)]
  constructor
  · rintro ⟨task, taskMem, -⟩
    exact List.ne_nil_of_mem taskMem
  · intro nonempty
    rcases List.exists_mem_of_ne_nil _ nonempty with ⟨task, taskMem⟩
    have woken : (model'.interrupt active (ListKernel.decodeInterrupt regs)).Woken task
        byte.toInt := by
      rw [decoded]
      simp only [ListKernel.interrupt, KernelData.maskInterrupts_allOnes]
      exact (ListKernel.wake_woken (.inl taskMem)).put active
    have queued := woken.queued
    have sound := running.interrupt (ListKernel.decodeInterrupt regs)
    rw [ListKernel.interrupt_nextFreeTd] at sound
    refine ⟨task, taskMem, ?_, ?_, ?_, ?_⟩
    · rw [refines.sameTds]
      exact running.sound.state taskMem
    · rw [refines'.sameTds]
      exact woken.state
    · rw [refines'.sameTds, refines'.queueTasks_eq _ (sound.live queued)]
      exact queued
    · rw [refines'.data]
      simpa using woken.value

end Steps

/--
In every safe run, the byte that an interrupt reads is delivered exactly if some task has
called `AwaitEvent` for it since the last byte of this UART was read.
-/
theorem run_byteDelivered_iff {boot start final entered : Kernel} {userMain idleMain : Addr}
    {trace : List (Transition Kernel Activation)} {activation : Activation} {active : Tid}
    {event byte : Word}
    (booted : init boot userMain idleMain = some start) (run : Run mainStep start trace final)
    (safe : ∀ transition ∈ trace, Safe transition.before transition.input)
    (enters : kernelEntry final activation = some (active, entered))
    (reads : byteRead activation.trap = some (event, byte)) :
    ∃ after, loopBody final activation = some (false, after) ∧
      (ByteDelivered entered after event byte ↔
        SinceLast (Awaits event) (ReadsByte event) trace) := by
  rcases init_matched boot userMain idleMain with ⟨first, started, isMatched⟩
  rcases Option.some.inj (started.symm.trans booted) with rfl
  rcases run_matched booted run safe with ⟨model, isMatched'⟩
  rcases isMatched'.byteDelivered_iff enters reads with ⟨after, body, delivered⟩
  refine ⟨after, body, delivered.trans ?_⟩
  rcases irq_of_byteRead reads with ⟨regs, isIrq⟩
  rw [isIrq] at reads
  rcases decode_of_byteRead reads with ⟨inRange, decoded⟩
  have isRx := rx_of_byteRead reads
  have nobodyFirst : queueTasks first.heap (.awaitQ event) = [] := by
    rw [isMatched.refines.queueTasks_eq (.awaitQ event) inRange]
    simp [ListKernel.init, ListKernel.start, ListKernel.modify]
  have switched : ∀ transition : Transition Kernel Activation,
      mainStep transition.before transition.input = some transition.after →
      Safe transition.before transition.input → transition.before.IsSound →
      (queueTasks transition.after.heap (.awaitQ event) ≠ [] ↔ Awaits event transition ∨
        queueTasks transition.before.heap (.awaitQ event) ≠ [] ∧ ¬ReadsByte event transition) := by
    rintro transition stepped isSafe ⟨_, isMatched⟩
    exact isMatched.awaited_iff stepped isSafe isRx
  have flagged := run.flag_iff Kernel.IsSound
    (fun kernel => queueTasks kernel.heap (.awaitQ event) ≠ [])
    (fun _ stepped isSafe isSound => isSound.mainStep stepped isSafe) switched safe
    ⟨_, isMatched⟩
  simpa [nobodyFirst] using flagged

/-- The first task awaits a byte of UART2, which an interrupt reads while the idle task runs. -/
def byteActivations : List Activation :=
  [callActivation 8 7 0 0,
    { callActivation 0 0 0 0 with trap := .irq ⟨sysCallEventUart2, 0, 2, 0, 0x61, 0⟩ }]

/-- The kernel after these activations. -/
def byteHandled : Kernel := finalOf mainStep zeroedStart byteActivations

/-- The next byte is read before the first task awaits it. -/
def nextByte : Activation :=
  { callActivation 0 0 0 0 with trap := .irq ⟨sysCallEventUart2, 0, 2, 0, 0x62, 0⟩ }

theorem run_byteDelivered_iff_nextByte : ∃ after,
    loopBody byteHandled nextByte = some (false, after) ∧
      (ByteDelivered (enteredKernel byteHandled nextByte) after sysCallEventUart2Rx 0x62 ↔
        SinceLast (Awaits sysCallEventUart2Rx) (ReadsByte sysCallEventUart2Rx)
          (traceOf mainStep zeroedStart byteActivations)) := by
  have booted : init zeroedBoot 0 0 = some zeroedStart := rfl
  have runs : (record mainStep zeroedStart byteActivations).isSome := by decide +kernel
  have enters : kernelEntry byteHandled nextByte = some (0, enteredKernel byteHandled nextByte) :=
    kernelEntry_of_active (by decide +kernel)
  exact run_byteDelivered_iff booted (.of_isSome runs) (by decide +kernel) enters rfl

/-- The next byte reaches nobody, although the interrupts were enabled when they came. -/
theorem byte_lost : ¬∀ (boot start final entered after : Kernel) (userMain idleMain : Addr)
    (trace : List (Transition Kernel Activation)) (activation : Activation) (active : Tid)
    (event byte : Word),
    boot.uart1Ctlr &&& rienMask = 0 → boot.uart2Ctlr &&& rienMask = 0 →
    init boot userMain idleMain = some start → Run mainStep start trace final →
    (∀ transition ∈ trace, RaisedEnabled transition.before transition.input) →
    RaisedEnabled final activation →
    kernelEntry final activation = some (active, entered) →
    byteRead activation.trap = some (event, byte) →
    loopBody final activation = some (false, after) → ByteDelivered entered after event byte := by
  intro claimed
  have booted : init zeroedBoot 0 0 = some zeroedStart := rfl
  have runs : (record mainStep zeroedStart byteActivations).isSome := by decide +kernel
  have enters : kernelEntry byteHandled nextByte = some (0, enteredKernel byteHandled nextByte) :=
    kernelEntry_of_active (by decide +kernel)
  rcases run_matched booted (.of_isSome runs) (by decide +kernel) with ⟨model, isMatched⟩
  rcases isMatched.byteDelivered_iff enters rfl with ⟨after, body, -⟩
  obtain ⟨task, taskMem, -⟩ := claimed _ _ _ _ _ _ _ _ nextByte 0 sysCallEventUart2Rx 0x62 rfl rfl
    booted (.of_isSome runs) (by decide +kernel) (by decide +kernel) enters rfl body
  have nobody : queueTasks (enteredKernel byteHandled nextByte).heap
    (.awaitQ sysCallEventUart2Rx) = [] := by decide +kernel
  simp [nobody] at taskMem

end ArmKernel
