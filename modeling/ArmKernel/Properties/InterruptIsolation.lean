import ArmKernel.Properties.UartReceive

/-!
# Interrupts and the tasks that they wake

Each interrupt denotes one event, found from its vector and the status of its UART, and
should wake the tasks that await this event and no others. `single_event` starts with the
number of the timer, so a UART interrupt without a known cause wakes the tasks that await
the timer. Where no interrupt does so, a task that awaits the timer is woken by timer
interrupts only, and the notifier of the clock server sends at most one message for each.
-/

namespace ArmKernel

open PartialMachine Placement

/-- The event that an interrupt denotes, if it is one that the kernel expects. -/
def denotedEvent (regs : InterruptRegs) : Option Word :=
  let status1 : Byte := regs.uart1Intr.setWidth 8
  let status2 : Byte := regs.uart2Intr.setWidth 8
  if regs.vicVecAddr = sysCallEventTimer then some sysCallEventTimer
  else if regs.vicVecAddr = sysCallEventUart1 then
    if status1 &&& risMask ≠ 0 then some sysCallEventUart1Rx
    else if status1 &&& misMask ≠ 0 then some sysCallEventUart1Ms
    else if status1 &&& tisMask ≠ 0 then some sysCallEventUart1Tx
    else none
  else if regs.vicVecAddr = sysCallEventUart2 then
    if status2 &&& risMask ≠ 0 then some sysCallEventUart2Rx
    else if status2 &&& tisMask ≠ 0 then some sysCallEventUart2Tx
    else none
  else none

/-- Every task that the interrupt makes ready awaited the event that it denotes. -/
def Isolated (entered after : Kernel) (regs : InterruptRegs) : Prop :=
  ∀ task, Created entered.nextFreeTd task → (entered.tds task).state = .eventBlocked →
    (after.tds task).state = .ready →
    ∃ event, denotedEvent regs = some event ∧ task ∈ queueTasks entered.heap (.awaitQ event)

/-- If a UART interrupt has no known cause, no task awaits the timer. -/
def Attributable (entered : Kernel) (regs : InterruptRegs) : Prop :=
  denotedEvent regs = none →
    regs.vicVecAddr = sysCallEventUart1 ∨ regs.vicVecAddr = sysCallEventUart2 →
    queueTasks entered.heap (.awaitQ sysCallEventTimer) = []

instance (entered : Kernel) (regs : InterruptRegs) : Decidable (Attributable entered regs) := by
  unfold Attributable
  infer_instance

/-- The event served is the one denoted, or the timer if a UART interrupt denotes none. -/
theorem served_eq (regs : InterruptRegs) : (ListKernel.decodeInterrupt regs).served =
    match denotedEvent regs with
    | some event => some event
    | none =>
        if regs.vicVecAddr = sysCallEventUart1 ∨ regs.vicVecAddr = sysCallEventUart2 then
          some sysCallEventTimer
        else none := by
  have uart1Ne : sysCallEventUart1 ≠ sysCallEventTimer := by decide
  have uart2Ne : sysCallEventUart2 ≠ sysCallEventTimer := by decide
  simp only [ListKernel.decodeInterrupt, denotedEvent]
  split_ifs with timer uart1 ris1 mis1 tis1 uart2 ris2 tis2 <;>
    simp_all [ListKernel.Interrupt.served]

section Steps

variable {kernel : Kernel} {model : ListKernel} {active : Tid} {regs : InterruptRegs}

/-- An interrupt makes only tasks ready that await the event that it serves. -/
theorem Running.served_of_ready {task : Tid} (running : Running model.nextFreeTd active model)
    (blocked : (model.tds task).state = .eventBlocked)
    (ready : ((model.interrupt active (ListKernel.decodeInterrupt regs)).tds task).state = .ready) :
    ∃ event, (ListKernel.decodeInterrupt regs).served = some event ∧
      task ∈ model.lists (.awaitQ event) := by
  by_contra notServed
  obtain ⟨others, isOther⟩ : ∃ others : Tid → Prop, ∀ other, others other ↔ other ≠ task :=
    ⟨(· ≠ task), fun _ => Iff.rfl⟩
  have activeNe : active ≠ task := by
    rintro rfl
    simp [running.ready] at blocked
  have untouched :
      Untouched task model (model.interrupt active (ListKernel.decodeInterrupt regs)) := by
    apply interrupt_touches ((isOther active).mpr activeNe) _ task
    · exact fun touched => (isOther task).mp touched rfl
    · intro event served other otherMem
      rw [isOther]
      rintro rfl
      exact notServed ⟨event, served, otherMem⟩
  rw [untouched.td, blocked] at ready
  cases ready

theorem ListKernel.ready_of_served {task : Tid} {event : Word} {cause : ListKernel.Interrupt}
    (served : cause.served = some event) (taskMem : task ∈ model.lists (.awaitQ event)) :
    ((model.interrupt active cause).tds task).state = .ready := by
  cases cause with
  | event awaited ret keep1 keep2 =>
      rcases Option.some.inj served with rfl
      exact ((ListKernel.wake_woken (.inl taskMem)).put active).state
  | spurious =>
      rcases Option.some.inj served with rfl
      exact ((ListKernel.wake_woken (.inl taskMem)).put active).state
  | unexpected => cases served

/-- An interrupt wakes other tasks than it should exactly if it has no known cause and some
task awaits the timer. -/
theorem Refines.isolated_iff (refines : Refines model.nextFreeTd kernel model)
    (running : Running model.nextFreeTd active model) :
    ∃ after, ArmKernel.handleInterrupt kernel active regs = some (false, after) ∧
      (Isolated kernel after regs ↔ Attributable kernel regs) := by
  rcases refines.handleInterrupt running regs with ⟨after, done, refines'⟩
  refine ⟨after, done, ?_⟩
  have next : kernel.nextFreeTd = model.nextFreeTd := congrArg KernelData.nextFreeTd refines.data
  have timerLive : Live model.nextFreeTd (.awaitQ sysCallEventTimer) := by
    rw [Live]
    decide
  have served := served_eq regs
  constructor
  · intro isolated unknown isUart
    rw [refines.queueTasks_eq _ timerLive]
    apply List.eq_nil_iff_forall_not_mem.mpr
    intro task taskMem
    rw [unknown] at served
    simp only [if_pos isUart] at served
    have blocked : (model.tds task).state = .eventBlocked := running.sound.state taskMem
    have ready : ((model.interrupt active (ListKernel.decodeInterrupt regs)).tds task).state =
        .ready := ListKernel.ready_of_served served taskMem
    rw [← refines.sameTds] at blocked
    rw [← refines'.sameTds] at ready
    rcases isolated task (next ▸ running.sound.created taskMem) blocked ready with
      ⟨event, denoted, -⟩
    rw [unknown] at denoted
    cases denoted
  · intro attributable task isCreated blocked ready
    rw [refines.sameTds] at blocked
    rw [refines'.sameTds] at ready
    rcases running.served_of_ready blocked ready with ⟨event, isServed, taskMem⟩
    cases denoted : denotedEvent regs with
    | some expected =>
        rw [served, denoted] at isServed
        rcases Option.some.inj isServed with rfl
        exact ⟨expected, rfl, by rwa [refines.queueTasks_eq _ (running.sound.live taskMem)]⟩
    | none =>
        rw [served, denoted] at isServed
        dsimp only at isServed
        split_ifs at isServed with isUart
        rcases Option.some.inj isServed with rfl
        have nobody := attributable denoted isUart
        rw [refines.queueTasks_eq _ timerLive] at nobody
        rw [nobody] at taskMem
        cases taskMem

end Steps

/-! ## The notifier of the clock server -/

/-- The notifier sends a message to the clock server. -/
def isTick (notifier server : Tid) (transition : Transition Kernel Activation) : Bool :=
  match callOf transition.before transition.input with
  | some (active, _, .send tid _ _ _ _) => active == notifier && tid == server
  | _ => false

/-- The notifier calls `AwaitEvent(TICK_EVENT)`. -/
def awaitsTick (notifier : Tid) (transition : Transition Kernel Activation) : Bool :=
  match callOf transition.before transition.input with
  | some (active, _, .awaitEvent event) => active == notifier && event == sysCallEventTimer
  | _ => false

/-- The kernel handles an interrupt of the timer. -/
def isTimerInterrupt (transition : Transition Kernel Activation) : Bool :=
  match kernelEntry transition.before transition.input, transition.input.trap with
  | some _, .irq regs => regs.vicVecAddr == sysCallEventTimer
  | _, _ => false

/-- The calls are those of the loop of `clock_server_notifier_main`: `AwaitEvent` comes before
each `Send` to the clock server. The flag is whether it was called after the last one. -/
def Notifies (notifier server : Tid) : Bool → List (Transition Kernel Activation) → Prop
  | _, [] => True
  | awaited, transition :: trace =>
      (isTick notifier server transition = true → awaited = true) ∧
        Notifies notifier server
          (awaitsTick notifier transition || awaited && !isTick notifier server transition) trace

instance (notifier server : Tid) : ∀ (awaited : Bool) (trace : List (Transition Kernel Activation)),
    Decidable (Notifies notifier server awaited trace)
  | _, [] => .isTrue trivial
  | awaited, transition :: trace =>
      have := instDecidableNotifies notifier server
        (awaitsTick notifier transition || awaited && !isTick notifier server transition) trace
      inferInstanceAs (Decidable (_ ∧ _))

/-- The registers that the kernel reads if the trap is an interrupt. -/
def interruptRegs : Trap → Option InterruptRegs
  | .swi _ => none
  | .irq regs => some regs

/-- An interrupt handled in the transition has a known cause, or wakes nobody. -/
def AttributableAt (transition : Transition Kernel Activation) : Prop :=
  ∀ entry ∈ kernelEntry transition.before transition.input,
    ∀ regs ∈ interruptRegs transition.input.trap, Attributable entry.2 regs

instance (transition : Transition Kernel Activation) : Decidable (AttributableAt transition) := by
  unfold AttributableAt
  infer_instance

theorem denotedEvent_timer {regs : InterruptRegs} :
    denotedEvent regs = some sysCallEventTimer ↔ regs.vicVecAddr = sysCallEventTimer := by
  simp only [denotedEvent]
  split_ifs with timer uart1 ris1 mis1 tis1 uart2 ris2 tis2 <;>
    first
      | exact ⟨fun _ => timer, fun _ => rfl⟩
      | exact ⟨fun denoted => absurd denoted (by decide), fun same => absurd same timer⟩

section Ticks

variable {model : ListKernel} {notifier server active : Tid} {awaited : Bool}
  {transition : Transition Kernel Activation}

/-- The notifier owes no interrupt for a message that it may send before it awaits again. -/
def credit (model : ListKernel) (notifier : Tid) (awaited : Bool) : ℕ :=
  if awaited = true ∧ notifier ∉ model.lists (.awaitQ sysCallEventTimer) then 1 else 0

theorem credit_le_one : credit model notifier awaited ≤ 1 := by
  rw [credit]
  split_ifs <;> omega

theorem credit_le_of_mem {model' : ListKernel}
    (stays : notifier ∈ model.lists (.awaitQ sysCallEventTimer) →
      notifier ∈ model'.lists (.awaitQ sysCallEventTimer)) :
    credit model' notifier awaited ≤ credit model notifier awaited := by
  simp only [credit]
  split_ifs with after before
  · exact le_refl 1
  · exact absurd ⟨after.1, mt stays after.2⟩ before
  · exact Nat.zero_le 1
  · exact le_refl 0

/-- A system call of the notifier that sends a tick uses up the credit that the interrupt
gave it. -/
theorem credit_sysCall {entered : Kernel} {call : SysCall}
    (calls : callOf transition.before transition.input = some (active, entered, call))
    (absent : active ∉ model.lists (.awaitQ sysCallEventTimer))
    (ordered : isTick notifier server transition = true → awaited = true) :
    (isTick notifier server transition).toNat +
        credit (model.sysCall active call).2 notifier
          (awaitsTick notifier transition || awaited && !isTick notifier server transition) ≤
      credit model notifier awaited := by
  have queue := ListKernel.sysCall_awaitQ model active call
    (by decide : sysCallEventTimer.toNat < eventHandlerMaxEvents)
  have stays : notifier ∈ model.lists (.awaitQ sysCallEventTimer) →
      notifier ∈ (model.sysCall active call).2.lists (.awaitQ sysCallEventTimer) := by
    rw [queue]
    exact List.mem_append_left _
  cases ticks : isTick notifier server transition with
  | true =>
      have noAwait : awaitsTick notifier transition = false := by
        simp only [isTick, calls] at ticks
        simp only [awaitsTick, calls]
        split at ticks <;> simp_all
      have isNotifier : active = notifier := by
        simp only [isTick, calls] at ticks
        split at ticks <;> simp_all
      have before : credit model notifier awaited = 1 := by
        rw [credit, if_pos ⟨ordered ticks, isNotifier ▸ absent⟩]
      rw [noAwait, before]
      simp [credit]
  | false =>
      cases awaits : awaitsTick notifier transition with
      | true =>
          have isAwait : call = .awaitEvent sysCallEventTimer ∧ active = notifier := by
            simp only [awaitsTick, calls] at awaits
            split at awaits <;> simp_all
          have after : credit (model.sysCall active call).2 notifier true = 0 := by
            rw [credit, if_neg]
            rintro ⟨-, outside⟩
            rw [queue, if_pos isAwait.1, isAwait.2] at outside
            simp at outside
          simp [after]
      | false => simpa using credit_le_of_mem stays

/-- An interrupt gives the notifier a credit only if it is one of the timer. -/
theorem credit_interrupt {regs : InterruptRegs}
    (attributable : denotedEvent regs = none →
      regs.vicVecAddr = sysCallEventUart1 ∨ regs.vicVecAddr = sysCallEventUart2 →
      model.lists (.awaitQ sysCallEventTimer) = []) :
    credit (model.interrupt active (ListKernel.decodeInterrupt regs)) notifier awaited ≤
      (regs.vicVecAddr == sysCallEventTimer).toNat + credit model notifier awaited := by
  rcases eq_or_ne regs.vicVecAddr sysCallEventTimer with timer | notTimer
  · simp only [timer, beq_self_eq_true, Bool.toNat_true]
    have after := @credit_le_one (model.interrupt active (ListKernel.decodeInterrupt regs))
      notifier awaited
    omega
  · apply le_trans _ (Nat.le_add_left _ _)
    apply credit_le_of_mem
    intro awaits
    rw [ListKernel.interrupt_awaitQ, if_neg]
    · exact awaits
    · intro served
      rw [served_eq] at served
      cases denoted : denotedEvent regs with
      | some event =>
          rw [denoted] at served
          exact notTimer (denotedEvent_timer.mp (denoted.trans served))
      | none =>
          rw [denoted] at served
          dsimp only at served
          split_ifs at served with isUart
          rw [attributable denoted isUart] at awaits
          cases awaits

/-- One step of the kernel sends no more ticks than its interrupts and the credit allow. -/
theorem Matched.credit_step (isMatched : Matched transition.before model)
    (stepped : ArmKernel.mainStep transition.before transition.input = some transition.after)
    (safe : ArmKernel.Safe transition.before transition.input)
    (attributable : AttributableAt transition)
    (ordered : isTick notifier server transition = true → awaited = true) :
    (isTick notifier server transition).toNat +
        credit (model.step transition.input).2 notifier
          (awaitsTick notifier transition || awaited && !isTick notifier server transition) ≤
      (isTimerInterrupt transition).toNat + credit model notifier awaited := by
  rcases isMatched.mainStep stepped safe with ⟨goesOn, -⟩
  rcases ListKernel.entry_of_step goesOn with ⟨active, entered, runs⟩
  rcases isMatched.kernelEntry runs with ⟨kernel, enters, -, refines, running⟩
  have sameQueue : entered.lists (.awaitQ sysCallEventTimer) =
      model.lists (.awaitQ sysCallEventTimer) := ListKernel.entry_lists runs (by simp)
  have sameCredit : credit model notifier awaited = credit entered notifier awaited := by
    rw [credit, credit, sameQueue]
  rw [sameCredit, ListKernel.step_of_entry runs]
  cases trap : transition.input.trap with
  | swi req =>
      have calls : callOf transition.before transition.input =
          some (active, kernel, decodeSysCall entered.toKernelData active req) := by
        rw [callOf_eq_some, trap, ← refines.data]
        exact ⟨enters, rfl⟩
      apply le_trans (credit_sysCall calls (running.absent _) ordered)
      omega
  | irq regs =>
      have noCall : callOf transition.before transition.input = none := by
        simp [callOf, enters, trap, Trap.call]
      have isTimer : isTimerInterrupt transition =
          (regs.vicVecAddr == sysCallEventTimer) := by
        simp [isTimerInterrupt, enters, trap]
      have timerLive : Live entered.nextFreeTd (.awaitQ sysCallEventTimer) := by
        rw [Live]
        decide
      have nobody : denotedEvent regs = none →
          regs.vicVecAddr = sysCallEventUart1 ∨ regs.vicVecAddr = sysCallEventUart2 →
          entered.lists (.awaitQ sysCallEventTimer) = [] := by
        rw [← refines.queueTasks_eq _ timerLive]
        exact attributable (active, kernel) enters regs (by simp [trap, interruptRegs])
      have bound := @credit_interrupt _ notifier active awaited regs nobody
      simpa [isTick, awaitsTick, noCall, isTimer, ListKernel.handle] using bound

/-- In every run whose interrupts are attributable, the notifier sends no more ticks than the
timer interrupts and its credit at the start allow. -/
theorem Matched.ticks_le {start final : Kernel} {trace : List (Transition Kernel Activation)}
    (isMatched : Matched start model) (run : Run ArmKernel.mainStep start trace final)
    (safe : ∀ transition ∈ trace, ArmKernel.Safe transition.before transition.input)
    (attributable : ∀ transition ∈ trace, AttributableAt transition)
    (notifies : Notifies notifier server awaited trace) :
    trace.countP (isTick notifier server) ≤
      trace.countP isTimerInterrupt + credit model notifier awaited := by
  induction run generalizing model awaited with
  | nil => simp
  | cons first rest ih =>
      rename_i begun middle final input trace
      have firstSafe := safe _ List.mem_cons_self
      have step := isMatched.credit_step first firstSafe
        (attributable _ List.mem_cons_self) notifies.1
      have later := ih (isMatched.mainStep first firstSafe).2
        (fun transition transitionMem => safe transition (by simp [transitionMem]))
        (fun transition transitionMem => attributable transition (by simp [transitionMem]))
        notifies.2
      simp only [List.countP_cons]
      simp only [Bool.toNat, Bool.cond_eq_ite] at step
      omega

end Ticks

/--
In every state that a safe run reaches, an interrupt is handled, and it makes no other tasks
ready than those that await the event it denotes exactly if it has a known cause or no task
awaits the timer. If all interrupts of the run were so, the notifier of the clock server
sent at most one message for each timer interrupt.
-/
theorem run_interrupt_isolated {boot start final : Kernel} {userMain idleMain : Addr}
    {trace : List (Transition Kernel Activation)}
    (booted : init boot userMain idleMain = some start) (run : Run mainStep start trace final)
    (safe : ∀ transition ∈ trace, Safe transition.before transition.input) :
    (∀ activation active entered regs, kernelEntry final activation = some (active, entered) →
      activation.trap = .irq regs →
      ∃ after, loopBody final activation = some (false, after) ∧
        (Isolated entered after regs ↔ Attributable entered regs)) ∧
    ((∀ transition ∈ trace, AttributableAt transition) →
      ∀ notifier server, Notifies notifier server false trace →
        trace.countP (isTick notifier server) ≤ trace.countP isTimerInterrupt) := by
  constructor
  · intro activation active entered regs enters trap
    rcases run_matched booted run safe with ⟨model, isMatched⟩
    rcases isMatched.entered enters with ⟨model', -, body, refines, running⟩
    rcases refines.isolated_iff running with ⟨after, done, isolated⟩
    refine ⟨after, ?_, isolated⟩
    rw [body, trap, handle, done]
  · intro attributable notifier server notifies
    rcases init_matched boot userMain idleMain with ⟨kernel, started, isMatched⟩
    rcases Option.some.inj (started.symm.trans booted) with rfl
    have bound := isMatched.ticks_le run safe attributable notifies
    simpa [credit] using bound

/-- An interrupt of UART 1 without a known cause. -/
def strayInterrupt : InterruptRegs := ⟨sysCallEventUart1, 0, 0, 0, 0, 0⟩

/-- The running task is interrupted. -/
def interrupted (regs : InterruptRegs) : Activation :=
  { callActivation 0 0 0 0 with trap := .irq regs }

/-- The first task awaits the timer. -/
def awaitsTimer : Activation := callActivation 8 sysCallEventTimer 0 0

/-- The first task awaits the timer, is woken by it and sends to the idle task. -/
def tickInputs : List Activation :=
  [awaitsTimer, interrupted ⟨sysCallEventTimer, 0, 0, 0, 0, 0⟩,
    { callActivation 5 0x100 0 0 with effect := fun mem => storeWord mem 0x100 1 }]

theorem tickInputs_run : (record mainStep zeroedStart tickInputs).isSome := by decide +kernel

theorem run_interrupt_isolated_tick :
    (∃ after, loopBody (finalOf mainStep zeroedStart tickInputs) (interrupted strayInterrupt) =
        some (false, after) ∧
      Isolated (enteredKernel (finalOf mainStep zeroedStart tickInputs)
        (interrupted strayInterrupt)) after strayInterrupt) ∧
    (traceOf mainStep zeroedStart tickInputs).countP (isTick 0 idleTaskTid) ≤ 1 := by
  have booted : init zeroedBoot 0 0 = some zeroedStart := rfl
  rcases run_interrupt_isolated booted (Run.of_isSome tickInputs_run) (by decide +kernel) with
    ⟨interrupts, ticks⟩
  constructor
  · have enters : kernelEntry (finalOf mainStep zeroedStart tickInputs)
        (interrupted strayInterrupt) = some (idleTaskTid, enteredKernel _ _) :=
      kernelEntry_of_active (by decide +kernel)
    rcases interrupts _ _ _ strayInterrupt enters rfl with ⟨after, done, isolated⟩
    exact ⟨after, done, isolated.mpr (by decide +kernel)⟩
  · apply le_trans (ticks (by decide +kernel) 0 idleTaskTid (by decide +kernel))
    decide +kernel

/-- An interrupt of a UART without a known cause wakes a task that awaits the timer. -/
theorem interrupt_not_isolated : ¬∀ (boot start final entered after : Kernel)
    (userMain idleMain : Addr) (trace : List (Transition Kernel Activation))
    (activation : Activation) (active : Tid) (regs : InterruptRegs),
    init boot userMain idleMain = some start → Run mainStep start trace final →
    kernelEntry final activation = some (active, entered) → activation.trap = .irq regs →
    loopBody final activation = some (false, after) → Isolated entered after regs := by
  intro claimed
  have runs : (record mainStep zeroedStart [awaitsTimer]).isSome := by decide +kernel
  have booted : init zeroedBoot 0 0 = some zeroedStart := rfl
  have enters : kernelEntry (finalOf mainStep zeroedStart [awaitsTimer])
      (interrupted strayInterrupt) = some (idleTaskTid, enteredKernel _ _) :=
    kernelEntry_of_active (by decide +kernel)
  rcases run_matched booted (Run.of_isSome runs) (by decide +kernel) with ⟨model, isMatched⟩
  rcases isMatched.entered enters with ⟨model', -, body, refines, running⟩
  rcases refines.isolated_iff running with ⟨after, done, isolated⟩
  have attributable := isolated.mp (claimed _ _ _ _ after _ _ _ _ _ strayInterrupt booted
    (Run.of_isSome runs) enters rfl (body.trans done))
  exact absurd attributable (by decide +kernel)

end ArmKernel
