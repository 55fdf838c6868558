import ArmKernel.ContextSwitch.Entering

/-!
# A task does not notice the kernel

The kernel activates a task, the task runs in user mode until it traps, and the kernel is entered:
it goes on with its registers as they were, and holds the whole context of the task. When it
activates the task again with what it holds, the task goes on exactly where it was.

What a task does in user mode is any run of the machine that keeps the banks of the exceptions and
the control bits; it must leave the words alone at which the kernel waits.
-/

namespace ArmKernel.Asm

open Arm Function

section Startup

variable {machine : Machine}

theorem setMode_mode (word mode : Word) :
    (Psr.ofWord (word &&& ~~~0x1F ||| mode)).mode = mode.extractLsb' 0 5 := by
  have cleared : (~~~0x1F : Word).extractLsb' 0 5 = 0 := by decide
  rw [Psr.ofWord_mode, BitVec.extractLsb'_or, BitVec.extractLsb'_and, cleared]
  simp

/-- `init` sets the stack pointer of the interrupt mode, and nothing else that is not scratch. -/
theorem exec_setUpIrqStack {irqSp : Fin 13} (notScratch : irqSp ≠ 0)
    (svc : machine.cpsr.mode = svcMode) :
    ∃ ready, exec (setUpIrqStack irqSp) none machine = some ready ∧
      ready.cpsr.mode = svcMode ∧ ready.sp = update machine.sp .irq (machine.r irqSp) ∧
      (∀ index, index ≠ 0 → ready.r index = machine.r index) ∧ ready.mem = machine.mem := by
  have privileged : machine.cpsr.mode ≠ userMode := by rw [svc]; decide
  have irq : ∀ word : Word, (Psr.ofWord (word &&& ~~~0x1F ||| 0x12)).mode = irqMode := fun word =>
    setMode_mode word 0x12
  have irqBank : ∀ word : Word, (Psr.ofWord (word &&& ~~~0x1F ||| 0x12)).bank = .irq := fun word =>
    Psr.bank_of_exception (by decide) (by decide) (irq word)
  have irqPrivileged : ∀ word : Word,
      (Psr.ofWord (word &&& ~~~0x1F ||| 0x12)).mode ≠ userMode := fun word => by
    rw [irq]
    decide
  have scratchNe : (0 : Fin 13) ≠ irqSp := notScratch.symm
  simp only [setUpIrqStack, exec, Instr.exec, Machine.get, Machine.set, Machine.setCpsr,
    Operand.eval, r, Option.bind_some, update_self, update_idem, Psr.write_of_ne privileged,
    irqBank, Psr.write_of_ne (irqPrivileged _), update_of_ne notScratch, Option.some.injEq,
    exists_eq_left']
  refine ⟨setMode_mode _ 0x13, trivial, fun index indexNe => ?_, trivial⟩
  rw [update_of_ne indexNe]

end Startup

section MemoryMap

theorem memTaskStackStart_toNat {task : Byte} (inTable : task.toNat < taskDescriptorMaxTasks) :
    (memTaskStackStart task).toNat = 0x1FDB000 - 0x2000 * task.toNat := by
  have small : task.toNat < 64 := inTable
  have base : (memKernelStackStart - memKernelStackSize).toNat = 0x1FDB000 := rfl
  have size : memTaskStackSize.toNat = 0x2000 := rfl
  rw [memTaskStackStart, BitVec.toNat_sub, BitVec.toNat_mul, BitVec.toNat_setWidth, base, size]
  omega

/-- On the memory map of the kernel the stacks are apart, as long as the stack pointers are within
their stacks and the interrupt stack is below those of the tasks. -/
theorem layout_of_map {task : Byte} {kernelSp irqSp frameSp : Word}
    (inTable : task.toNat < taskDescriptorMaxTasks)
    (aligned : Aligned kernelSp ∧ Aligned irqSp ∧ Aligned frameSp)
    (kernelStack : 0x1FDB000 + 44 ≤ kernelSp.toNat ∧ kernelSp.toNat ≤ memKernelStackStart.toNat)
    (irqStack : 12 ≤ irqSp.toNat ∧ irqSp.toNat + 4 ≤ (memTaskStackStart 63).toNat - 0x2000)
    (taskStack : (memTaskStackStart task).toNat - 0x2000 ≤ frameSp.toNat ∧
      frameSp.toNat + 56 ≤ (memTaskStackStart task).toNat) :
    Layout kernelSp irqSp frameSp := by
  have small : task.toNat < 64 := inTable
  rw [memTaskStackStart_toNat inTable] at taskStack
  rw [memTaskStackStart_toNat (by decide)] at irqStack
  have last : (63 : Byte).toNat = 63 := rfl
  have top : memKernelStackStart.toNat = 0x1FDD000 := rfl
  have kernelWords : (kernelSp - 44#32).toNat = kernelSp.toNat - 44 := by
    rw [BitVec.toNat_sub, BitVec.toNat_ofNat]
    omega
  have irqWords : (irqSp - 12#32).toNat = irqSp.toNat - 12 := by
    rw [BitVec.toNat_sub, BitVec.toNat_ofNat]
    omega
  refine ⟨aligned.1, aligned.2.1, aligned.2.2, fun addr inKernel inIrq => ?_,
    fun slot slotLt isSwitch => ?_⟩
  · have := inKernel.toNat (by omega)
    have := inIrq.toNat (by omega)
    omega
  · have inFrame : Within frameSp 14 (wordAddr frameSp slot) := ⟨slot, slotLt, rfl⟩
    have := inFrame.toNat (by omega)
    rcases isSwitch with inKernel | inIrq
    · have := inKernel.toNat (by omega)
      omega
    · have := inIrq.toNat (by omega)
      omega

end MemoryMap

/-- What the task did since it was activated: it stayed in user mode, and did not write to the words
at which the kernel waits. -/
structure UserRun (kernel start task : Machine) : Prop where
  confined : Confined start task
  mem : ∀ addr, SwitchWord (kernel.sp .svc) (kernel.r 4) addr → task.mem addr = start.mem addr

theorem Suspended.userRun {kernel start task : Machine} (suspended : Suspended kernel start)
    (userRun : UserRun kernel start task) : Suspended kernel task := by
  have bottom : kernel.r 4 = wordAddr (kernel.r 4 - 12#32) 3 := (sub_add_cancel _ _).symm
  refine ⟨⟨?_, ?_, ?_⟩, ?_, ?_⟩
  · exact (userRun.confined.sp svcMode).trans suspended.sp
  · intro index isSaved
    rw [userRun.mem _ (.inl ⟨index - 3, by omega, rfl⟩)]
    exact suspended.registers index isSaved
  · rw [userRun.mem _ (.inl ⟨10, by decide, rfl⟩)]
    exact suspended.link
  · exact (userRun.confined.sp irqMode).trans suspended.irqSp
  · rw [userRun.mem _ (.inr ⟨3, by decide, bottom⟩)]
    exact suspended.marker

/--
A task runs with the context that the kernel holds, and whatever it does in user mode, its next trap
brings the kernel back to where it was, with the whole context of the task at that moment.
-/
theorem activation_returns {kernel : Machine} (svc : kernel.cpsr.mode = svcMode)
    (irqSp : kernel.sp .irq = kernel.r 4)
    (layout : Layout (kernel.sp .svc) (kernel.r 4) (kernel.r 0)) :
    ∃ start, exec activate none kernel = some start ∧
      context start = savedContext (frameAt kernel.mem (kernel.r 0)) (kernel.r 0) (kernel.r 3)
        (kernel.r 1) ∧
      ∀ task, UserRun kernel start task →
        Layout (kernel.sp .svc) (kernel.r 4) (task.sp .user - 56#32) →
        (Aligned task.pc → ∃ entered, enterBySwi task = some entered ∧ Entered kernel task entered ∧
          entered.r 2 = entered.mem (task.pc - 4#32) &&& ~~~0xFF000000) ∧
        (task.pc ≠ 0 →
          ∃ entered, enterByIrq task = some entered ∧ Entered kernel task entered) := by
  rcases activate_installs_context svc irqSp layout with ⟨start, activated, installs, waits, -⟩
  refine ⟨start, activated, installs, fun task userRun taskLayout => ⟨fun alignedPc => ?_, ?_⟩⟩
  · exact swi_saves_context (waits.userRun userRun) taskLayout alignedPc
  · exact interrupt_saves_context (waits.userRun userRun) taskLayout

/-- The kernel about to activate the first task for the first time. -/
def firstActivation : Machine where
  r := update (update (update (update (fun _ => 0) 0 (memTaskStackStart 0 - 56#32)) 1 0x50) 3
    0x218000) 4 0x300000
  sp := update (update (fun _ => 0) .svc 0x1FDC000) .irq 0x300000
  lr := fun _ => 0
  spsr := fun _ => .ofWord 0
  cpsr := .ofWord 0x93
  pc := 0
  mem := fun _ => 0

theorem firstActivation_layout :
    Layout (firstActivation.sp .svc) (firstActivation.r 4) (firstActivation.r 0) :=
  layout_of_map (show (0 : Byte).toNat < taskDescriptorMaxTasks by decide) (by decide)
    (by decide) (by decide) (by decide)

/-- An interrupt comes before the first instruction. -/
theorem activation_returns_first : ∃ start entered,
    exec activate none firstActivation = some start ∧ enterByIrq start = some entered ∧
      Entered firstActivation start entered := by
  have svc : firstActivation.cpsr.mode = svcMode := by decide
  have irqSp : firstActivation.sp .irq = firstActivation.r 4 := by decide
  rcases activation_returns svc irqSp firstActivation_layout with
    ⟨start, activated, installs, returns⟩
  have pc : start.pc = 0x218000 := congrArg TaskContext.pc installs
  have sp : start.sp .user - 56#32 = firstActivation.r 0 := by
    have same := congrArg TaskContext.sp installs
    exact (congrArg (· - 56#32) same).trans (add_sub_cancel_right _ _)
  have stays : UserRun firstActivation start start := ⟨.refl start, fun _ _ => rfl⟩
  rcases (returns start stays (sp ▸ firstActivation_layout)).2 (by rw [pc]; decide) with
    ⟨entered, entering, wasEntered⟩
  exact ⟨start, entered, activated, entering, wasEntered⟩

/--
The kernel was entered from a task, and activates it again from wherever its stack pointer is then,
with what it got in r0, r1 and r3 and with `value` in the slot of r0: the task goes on where it was,
with `value` in r0 and every other register as it was.
-/
theorem activate_resumes {kernel task entered again : Machine} {value : Word}
    (wasEntered : Entered kernel task entered) (svc : again.cpsr.mode = svcMode)
    (irqSp : again.sp .irq = again.r 4)
    (layout : Layout (again.sp .svc) (again.r 4) (entered.r 0))
    (sameSp : again.r 0 = entered.r 0) (sameSpsr : again.r 1 = entered.r 1)
    (sameSvcLr : again.r 3 = entered.r 3)
    (frame : frameAt again.mem (entered.r 0) =
      update (frameAt entered.mem (entered.r 0)) 0 value) :
    ∃ resumed, exec activate none again = some resumed ∧ Suspended again resumed ∧
      context resumed = { context task with r := update task.r 0 value } := by
  rcases activate_installs_context svc irqSp (sameSp ▸ layout) with
    ⟨resumed, activated, installs, waits, -⟩
  refine ⟨resumed, activated, waits, ?_⟩
  rw [installs, sameSp, sameSpsr, sameSvcLr, frame, savedContext_update, wasEntered.saved]
  rfl

/-- The first task is activated again right after that interrupt. -/
theorem activate_resumes_first : ∃ task entered resumed, Entered firstActivation task entered ∧
    exec activate none entered = some resumed ∧
      context resumed = { context task with r := update task.r 0 (entered.mem (entered.r 0)) } := by
  have svc : firstActivation.cpsr.mode = svcMode := by decide
  have irqSp : firstActivation.sp .irq = firstActivation.r 4 := by decide
  rcases activate_installs_context svc irqSp firstActivation_layout with
    ⟨task, -, installs, suspended, -⟩
  have pc : task.pc = 0x218000 := congrArg TaskContext.pc installs
  have sp : task.sp .user - 56#32 = firstActivation.r 0 := by
    have same := congrArg TaskContext.sp installs
    exact (congrArg (· - 56#32) same).trans (add_sub_cancel_right _ _)
  rcases interrupt_saves_context suspended (sp ▸ firstActivation_layout) (by rw [pc]; decide) with
    ⟨entered, -, wasEntered⟩
  have r4 : entered.r 4 = firstActivation.r 4 := wasEntered.registers 4 (by decide)
  have layout : Layout (entered.sp .svc) (entered.r 4) (entered.r 0) := by
    rw [wasEntered.sp, r4, wasEntered.activeSp, sp]
    exact firstActivation_layout
  have frame : frameAt entered.mem (entered.r 0) =
      update (frameAt entered.mem (entered.r 0)) 0 (entered.mem (entered.r 0)) := by
    have slot : frameAt entered.mem (entered.r 0) 0 = entered.mem (entered.r 0) :=
      congrArg entered.mem (wordAddr_zero _)
    rw [← slot, update_eq_self]
  rcases activate_resumes wasEntered wasEntered.mode (wasEntered.irqSp.trans r4.symm) layout rfl
    rfl rfl frame with ⟨resumed, activated, -, context⟩
  exact ⟨task, entered, resumed, wasEntered, activated, context⟩

end ArmKernel.Asm
