import ArmKernel.Kernel.Main
import ArmKernel.Lib.Arm

/-!
# The context switch

The assembly of `activate` and of the two entry points of the kernel in main.c, in the order in
which it stands there, and that of `init`. The compiler keeps `active_sp`, `active_spsr`, `sys_code`
and `active_svc_lr` in r0 to r3 and `irq_sp` in r4, as they are declared.

The kernel is left by the return from an exception, and entered through the vectors of the software
interrupt and of the hardware interrupt. An interrupt leaves the address at which the task is to go
on at the bottom of the interrupt stack, where `activate` has stored a zero.

What a task is for the kernel is its `TaskContext`. While a task runs, the kernel is `Suspended`:
its registers are on its own stack, right below its stack pointer.
-/

namespace ArmKernel.Asm

open Arm Function

inductive Label where
  | swiLabel
  | swiLabelEnd
  deriving DecidableEq

def r (index : Fin 13) : Reg := .r index

def r2ToR12 : List Reg := [r 2, r 3, r 4, r 5, r 6, r 7, r 8, r 9, r 10, r 11, r 12]

def r4ToR12 : List Reg := [r 4, r 5, r 6, r 7, r 8, r 9, r 10, r 11, r 12]

def r0ToR12 : List Reg := r 0 :: r 1 :: r2ToR12

/-- From the kernel to the active task. -/
def activate : List (Item Label) :=
  [ -- Step 1: Save kernel state
    .instr (.stmfd .sp (r4ToR12 ++ [.lr])),
    -- Step 2: Install active state
    .instr (.msrSpsr (r 1)),
    .instr (.mov .lr (.reg (r 3))),
    .instr (.mrsCpsr (r 1)),
    .instr (.orr (r 1) (r 1) 0x1F),
    .instr (.msrCpsr (r 1)),
    .instr (.bic (r 1) (r 1) 0xC),
    .instr (.mov .sp (.reg (r 0))),
    .instr (.mov (r 0) (.imm 0)),
    .instr (.str (r 0) (r 4) 0),
    .instr (.sub (r 0) (r 4) 4),
    .instr (.ldmfdWriteback .sp [r 2, r 3]),
    .instr (.stmfd (r 0) [r 2, r 3]),
    .instr (.ldmfdWriteback .sp (r2ToR12 ++ [.lr])),
    .instr (.msrCpsr (r 1)),
    .instr (.ldmfd (r 0) [r 0, r 1]),
    .movsPcLr]

def irqEntry : List (Item Label) :=
  [ .instr (.sub .lr .lr 4),
    .instr (.str .lr .sp 0),
    .instr (.mrsSpsr .lr),
    .instr (.str .lr .sp (-4)),
    .instr (.mrsCpsr .lr),
    .instr (.orr .lr .lr 0x1),
    .instr (.msrCpsr .lr)]

/-- From a task to the kernel. An interrupt goes on to here from `irq_entry`. -/
def kernelEntry : List (Item Label) :=
  [ .instr (.strPre .lr .sp (-4)),
    -- Step 2: Save active task state
    .instr (.mrsCpsr .lr),
    .instr (.orr .lr .lr 0x1F),
    .instr (.msrCpsr .lr),
    .instr (.stmfd .sp (r0ToR12 ++ [.lr])),
    .instr (.mov (r 0) (.reg .sp)),
    .instr (.mrsCpsr (r 1)),
    .instr (.bic (r 1) (r 1) 0xC),
    .instr (.msrCpsr (r 1)),
    .instr (.ldrPost .lr .sp 4),
    .instr (.ldmfdWriteback .sp r4ToR12),
    .instr (.ldr (r 3) (r 4) 0),
    .instr (.cmp (r 3) 0),
    .beq .swiLabel,
    .instr (.ldr (r 1) (r 4) (-4)),
    .b .swiLabelEnd,
    .label .swiLabel,
    .instr (.mrsSpsr (r 1)),
    -- Step 3: Get swi code
    .instr (.ldr (r 2) .lr (-4)),
    .instr (.bic (r 2) (r 2) 0xFF000000),
    .instr (.mov (r 3) (.reg .lr)),
    .label .swiLabelEnd,
    .instr (.ldrPost .lr .sp 4)]

/-- `init` gives the interrupt mode its stack; the address is in some register. -/
def setUpIrqStack (irqSp : Fin 13) : List (Item Label) :=
  [ .instr (.mrsCpsr (r 0)),
    .instr (.bic (r 0) (r 0) 0x1F),
    .instr (.orr (r 0) (r 0) 0x12),
    .instr (.msrCpsr (r 0)),
    .instr (.mov .sp (.reg (r irqSp))),
    .instr (.bic (r 0) (r 0) 0x1F),
    .instr (.orr (r 0) (r 0) 0x13),
    .instr (.msrCpsr (r 0))]

/-- The kernel when a trap of a task has been taken: for a hardware interrupt, `irq_entry` goes on
to `kernel_entry`. -/
def enterBySwi (task : Machine) : Option Machine := exec kernelEntry none task.softwareInterrupt

def enterByIrq (task : Machine) : Option Machine :=
  exec (irqEntry ++ kernelEntry) none task.interrupt

@[ext]
structure TaskContext where
  r : Fin 13 → Word
  sp : Word
  lr : Word
  pc : Word
  cpsr : Psr

def context (machine : Machine) : TaskContext :=
  ⟨machine.r, machine.sp .user, machine.lr .user, machine.pc, machine.cpsr⟩

/-- The context that a frame at `sp` and the other saved registers stand for. -/
def savedContext (frame : Frame) (sp svcLr spsr : Word) : TaskContext where
  r index := frame index.castSucc
  sp := wordAddr sp 14
  lr := frame 13
  pc := svcLr
  cpsr := .ofWord spsr

def frameAt (mem : Word → Word) (sp : Word) : Frame := fun slot => mem (wordAddr sp slot)

/-- The words at which the kernel keeps what it needs while a task runs: below its stack pointer,
and at the bottom of the interrupt stack. -/
def SwitchWord (kernelSp irqSp addr : Word) : Prop :=
  Within (kernelSp - 44#32) 11 addr ∨ Within (irqSp - 12#32) 4 addr

/-- The stacks are apart from each other where the context switch uses them. -/
structure Layout (kernelSp irqSp frameSp : Word) : Prop where
  kernel : Aligned kernelSp
  irq : Aligned irqSp
  task : Aligned frameSp
  apart : ∀ addr, Within (kernelSp - 44#32) 11 addr → ¬Within (irqSp - 12#32) 4 addr
  frame : ∀ slot < 14, ¬SwitchWord kernelSp irqSp (wordAddr frameSp slot)

structure Stacked (kernel task : Machine) : Prop where
  sp : task.sp .svc = wordAddr (kernel.sp .svc - 44#32) 1
  registers : ∀ index : Fin 13, 4 ≤ index →
    task.mem (wordAddr (kernel.sp .svc - 44#32) (index - 3)) = kernel.r index
  link : task.mem (wordAddr (kernel.sp .svc - 44#32) 10) = kernel.lr .svc

/-- The kernel waits to be entered. -/
structure Suspended (kernel task : Machine) : Prop extends Stacked kernel task where
  irqSp : task.sp .irq = kernel.r 4
  marker : task.mem (kernel.r 4) = 0

/-- The kernel has been entered: it goes on as it was, and r0, r1 and r3 say where the context of
the task is. -/
structure Entered (kernel task entered : Machine) : Prop where
  registers : ∀ index : Fin 13, 4 ≤ index → entered.r index = kernel.r index
  sp : entered.sp .svc = kernel.sp .svc
  irqSp : entered.sp .irq = kernel.r 4
  link : entered.lr .svc = kernel.lr .svc
  mode : entered.cpsr.mode = svcMode
  activeSp : entered.r 0 = task.sp .user - 56#32
  saved : savedContext (frameAt entered.mem (entered.r 0)) (entered.r 0) (entered.r 3)
    (entered.r 1) = context task
  mem : ∀ addr, ¬SwitchWord (kernel.sp .svc) (kernel.r 4) addr →
    ¬Within (task.sp .user - 56#32) 14 addr → entered.mem addr = task.mem addr

/-- The registers that belong in the frame of a task. -/
def frameOf (machine : Machine) : Frame := Fin.snoc machine.r (machine.lr .user)

theorem frameOf_register (machine : Machine) (index : Fin 13) :
    frameOf machine index.castSucc = machine.r index :=
  Fin.snoc_castSucc _ _ _

theorem frameOf_link (machine : Machine) : frameOf machine 13 = machine.lr .user :=
  Fin.snoc_last _ _

/-- A trap that stores these has stored the whole context. -/
theorem savedContext_frameOf {task : Machine} {frame : Frame} {sp svcLr spsr : Word}
    (isFrame : frame = frameOf task) (isSp : sp = task.sp .user - 56#32) (isPc : svcLr = task.pc)
    (isPsr : spsr = task.cpsr.word) : savedContext frame sp svcLr spsr = context task := by
  subst isFrame isSp isPc isPsr
  apply TaskContext.ext
  · funext index
    exact frameOf_register task index
  · exact sub_add_cancel _ _
  · exact frameOf_link task
  · rfl
  · exact Psr.ofWord_word _

theorem savedContext_update (frame : Frame) (value sp svcLr spsr : Word) :
    savedContext (update frame 0 value) sp svcLr spsr =
      { savedContext frame sp svcLr spsr with
        r := update (savedContext frame sp svcLr spsr).r 0 value } := by
  apply TaskContext.ext
  · funext index
    change update frame 0 value index.castSucc =
      update (fun other : Fin 13 => frame other.castSucc) 0 value index
    rcases eq_or_ne index 0 with rfl | indexNe
    · rw [Fin.castSucc_zero, update_self, update_self]
    · have slotNe : index.castSucc ≠ 0 := fun same => indexNe (Fin.castSucc_eq_zero_iff.mp same)
      rw [update_of_ne slotNe, update_of_ne indexNe]
  · rfl
  · have lastNe : (13 : Fin 14) ≠ 0 := by decide
    exact update_of_ne lastNe value frame
  · rfl
  · rfl

end ArmKernel.Asm
