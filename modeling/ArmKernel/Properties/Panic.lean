import ArmKernel.Properties.TaskLocation

/-!
# Panics

`kernel_panic` stops the kernel by clearing the bitmap of the scheduler. The system calls
that panic end there, so the next `scheduler_get` finds no task. An interrupt that panics
goes on: `handle` then puts the active task back into its ready queue, whose bit is set
again, so the kernel does not stop.
-/

namespace ArmKernel

open LowestBit PartialMachine Placement

/-- Handling the trap calls `kernel_panic`. -/
def CallsPanic (data : KernelData) (active : Tid) : Trap → Prop
  | .swi req => decodeSysCall data active req = .panic ∨ decodeSysCall data active req = .unknown
  | .irq regs => ¬Recognised regs

/-- The loop ends at the next call of `scheduler_get`, which returns NULL. -/
def Stopped (kernel : Kernel) : Prop :=
  schedulerGet kernel = some (none, kernel) ∧
    ∀ activation, loopBody kernel activation = some (true, kernel)

theorem stopped_of_empty {kernel : Kernel} (empty : schedulerEmpty kernel.toKernelData = true) :
    Stopped kernel := by
  have got : schedulerGet kernel = some (none, kernel) := by simp [schedulerGet, empty]
  exact ⟨got, fun activation => by simp [loopBody, got]⟩

theorem decode_of_not_recognised {regs : InterruptRegs} (unknown : ¬Recognised regs) :
    ListKernel.decodeInterrupt regs = .spurious ∨
      ListKernel.decodeInterrupt regs = .unexpected := by
  simp only [ListKernel.decodeInterrupt]
  split_ifs with timer uart1 ris1 mis1 tis1 uart2 ris2 tis2
  · exact absurd (.inl timer) unknown
  · exact absurd (.inr (.inl ⟨uart1, .inl ris1⟩)) unknown
  · exact absurd (.inr (.inl ⟨uart1, .inr (.inl mis1)⟩)) unknown
  · exact absurd (.inr (.inl ⟨uart1, .inr (.inr tis1)⟩)) unknown
  · exact .inl rfl
  · exact absurd (.inr (.inr ⟨uart2, .inl ris2⟩)) unknown
  · exact absurd (.inr (.inr ⟨uart2, .inr tis2⟩)) unknown
  · exact .inl rfl
  · exact .inr rfl

section Panics

variable {kernel : Kernel} {model : ListKernel} {active : Tid} {trap : Trap}

/-- After a task was put into its ready queue, the bitmap is not zero. -/
theorem ListKernel.put_nonempty (model : ListKernel) {task : Tid}
    (inRange : (model.tds task).priority.toNat < schedulerPriorityCount) :
    schedulerEmpty (model.put task).toKernelData = false := by
  have bit : (model.put task).bitmap.getLsbD (model.tds task).priority.toNat = true := by
    rw [ListKernel.put_bitmap, getLsbD_setBit _ _ inRange]
    simp
  have nonzero : (model.put task).bitmap ≠ 0 := by
    intro zero
    rw [zero] at bit
    simp at bit
  simpa [schedulerEmpty] using nonzero

theorem handle_panic_swi {req : Word} (panics : CallsPanic kernel.toKernelData active (.swi req)) :
    ∃ after, handle kernel active (.swi req) = some (false, after) ∧ Stopped after := by
  refine ⟨(kernelPanic kernel).modify (taskDescriptorSetReturnValue · active 0), ?_,
    stopped_of_empty rfl⟩
  rcases panics with isPanic | isUnknown
  · rw [handle, isPanic, handleSysCall]
  · rw [handle, isUnknown, handleSysCall]

theorem Refines.interrupt_not_stopped (refines : Refines model.nextFreeTd kernel model)
    (running : Running model.nextFreeTd active model) {regs : InterruptRegs}
    (panics : ¬Recognised regs) :
    ∃ after, handle kernel active (.irq regs) = some (false, after) ∧
      ∃ task kernel', ArmKernel.schedulerGet after = some (some task, kernel') := by
  rcases refines.handleInterrupt running regs with ⟨after, done, refines'⟩
  refine ⟨after, done, ?_⟩
  have sound := running.interrupt (ListKernel.decodeInterrupt regs)
  rw [ListKernel.interrupt_nextFreeTd] at sound
  have nonempty : schedulerEmpty
      (model.interrupt active (ListKernel.decodeInterrupt regs)).toKernelData = false := by
    rcases decode_of_not_recognised panics with spurious | unexpected
    · have woken := running.panic.handleEvent sysCallEventTimer 0
      rw [spurious]
      exact ListKernel.put_nonempty _ (woken.sound.inRange woken.isCreated)
    · rw [unexpected]
      exact ListKernel.put_nonempty _ (running.sound.inRange running.isCreated)
  rcases sound.get_isSome nonempty with ⟨task, model', got⟩
  rcases refines'.schedulerGet got sound with ⟨kernel', done', -⟩
  exact ⟨task, kernel', done'⟩

end Panics

/--
In every state that a safe run reaches: a step that panics is handled, and the kernel then
stops exactly if the step is a system call.
-/
theorem run_panic_stops_iff {boot start final entered : Kernel} {userMain idleMain : Addr}
    {trace : List (Transition Kernel Activation)} {activation : Activation} {active : Tid}
    (booted : init boot userMain idleMain = some start) (run : Run mainStep start trace final)
    (safe : ∀ transition ∈ trace, Safe transition.before transition.input)
    (enters : kernelEntry final activation = some (active, entered))
    (panics : CallsPanic entered.toKernelData active activation.trap) :
    ∃ after, loopBody final activation = some (false, after) ∧
      (Stopped after ↔ ∃ req, activation.trap = .swi req) := by
  rcases run_matched booted run safe with ⟨model, isMatched⟩
  rcases isMatched.entered enters with ⟨model', -, body, refines, running⟩
  rw [body]
  cases trap : activation.trap with
  | swi req =>
      rw [trap] at panics
      rcases handle_panic_swi panics with ⟨after, done, stopped⟩
      exact ⟨after, done, by simp [stopped]⟩
  | irq regs =>
      rw [trap] at panics
      rcases refines.interrupt_not_stopped running panics with ⟨after, done, task, next, got⟩
      refine ⟨after, done, ?_⟩
      simp [Stopped, got]

/-- An interrupt of a vector that the kernel does not know, while the first task runs. -/
def unknownInterrupt : Activation :=
  { callActivation 0 0 0 0 with trap := .irq ⟨42, 0, 0, 0, 0, 0⟩ }

/-- The first task calls `panic`. -/
def panicCall : Activation := callActivation 9 0 0 0

theorem run_panic_stops_iff_swi : ∃ after, loopBody zeroedStart panicCall = some (false, after) ∧
    (Stopped after ↔ ∃ req, panicCall.trap = .swi req) := by
  have booted : init zeroedBoot 0 0 = some zeroedStart := rfl
  have enters : kernelEntry zeroedStart panicCall = some (0, enteredKernel zeroedStart panicCall) :=
    kernelEntry_of_active (by decide +kernel)
  exact run_panic_stops_iff booted (.nil zeroedStart) (by simp) enters
    (.inl (by decide +kernel))

/-- The kernel goes on after an interrupt that it does not know. -/
theorem panic_not_stopped : ¬∀ (boot start final entered after : Kernel)
    (userMain idleMain : Addr) (trace : List (Transition Kernel Activation))
    (activation : Activation) (active : Tid),
    init boot userMain idleMain = some start → Run mainStep start trace final →
    kernelEntry final activation = some (active, entered) →
    CallsPanic entered.toKernelData active activation.trap →
    loopBody final activation = some (false, after) → Stopped after := by
  intro claimed
  have booted : init zeroedBoot 0 0 = some zeroedStart := rfl
  have enters : kernelEntry zeroedStart unknownInterrupt =
    some (0, enteredKernel zeroedStart unknownInterrupt) :=
    kernelEntry_of_active (by decide +kernel)
  have panics : CallsPanic (enteredKernel zeroedStart unknownInterrupt).toKernelData 0
    unknownInterrupt.trap := (by decide : ¬Recognised ⟨42, 0, 0, 0, 0, 0⟩)
  rcases init_matched zeroedBoot 0 0 with ⟨_, started, isMatched⟩
  rcases Option.some.inj (started.symm.trans booted) with rfl
  rcases isMatched.entered enters with ⟨model, -, body, refines, running⟩
  rcases refines.interrupt_not_stopped running panics with ⟨after, done, task, next, got⟩
  have stopped := claimed _ _ _ _ after _ _ _ unknownInterrupt 0 booted (.nil zeroedStart) enters
    panics (body.trans done)
  simp [Stopped, got] at stopped

end ArmKernel
