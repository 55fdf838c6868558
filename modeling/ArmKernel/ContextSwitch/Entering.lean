import ArmKernel.ContextSwitch.Leaving
import Mathlib.Data.Fin.SuccPred
import Mathlib.Data.List.OfFn

/-!
# Entering the kernel

`kernel_entry` stores the registers of the task on its stack and restores those of the kernel; then
the word at the bottom of the interrupt stack says what kind of trap it was. `AtBranch` describes
the kernel there, for both kinds. A hardware interrupt has come through `irq_entry` first.
-/

namespace ArmKernel.Asm

open Arm Function

variable {machine : Machine}

def saveTask : List Instr :=
  [ .strPre .lr .sp (-4),
    .mrsCpsr .lr,
    .orr .lr .lr 0x1F,
    .msrCpsr .lr,
    .stmfd .sp (r0ToR12 ++ [.lr])]

def restoreKernel : List Instr :=
  [ .mov (r 0) (.reg .sp),
    .mrsCpsr (r 1),
    .bic (r 1) (r 1) 0xC,
    .msrCpsr (r 1),
    .ldrPost .lr .sp 4,
    .ldmfdWriteback .sp r4ToR12]

def readMarker : List Instr :=
  [ .ldr (r 3) (r 4) 0,
    .cmp (r 3) 0]

def finishIrq : List Instr :=
  [ .ldr (r 1) (r 4) (-4)]

def finishSwi : List Instr :=
  [ .mrsSpsr (r 1),
    .ldr (r 2) .lr (-4),
    .bic (r 2) (r 2) 0xFF000000,
    .mov (r 3) (.reg .lr)]

def restoreLink : List Instr := [.ldrPost .lr .sp 4]

def noteInterrupt : List Instr :=
  [ .sub .lr .lr 4,
    .str .lr .sp 0,
    .mrsSpsr .lr,
    .str .lr .sp (-4),
    .mrsCpsr .lr,
    .orr .lr .lr 0x1,
    .msrCpsr .lr]

theorem irqEntry_eq : irqEntry = noteInterrupt.map .instr := rfl

theorem kernelEntry_eq : kernelEntry = saveTask.map .instr ++ (restoreKernel.map .instr ++
    (readMarker.map .instr ++ (.beq .swiLabel :: (finishIrq.map .instr ++ (.b .swiLabelEnd ::
      .label .swiLabel :: (finishSwi.map .instr ++ (.label .swiLabelEnd ::
        restoreLink.map .instr))))))) := rfl


def fromSwi : List (Item Label) :=
  finishSwi.map .instr ++ (.label .swiLabelEnd :: restoreLink.map .instr)

def fromIrq : List (Item Label) :=
  finishIrq.map .instr ++ (.b .swiLabelEnd :: .label .swiLabel :: fromSwi)

def branches : List (Item Label) := .beq .swiLabel :: fromIrq

theorem exec_all (instrs : List Instr) :
    exec (instrs.map (@Item.instr Label)) none machine = Instr.run machine instrs := by
  have all := exec_instrs instrs ([] : List (Item Label)) machine
  rw [List.append_nil] at all
  rw [all]
  cases Instr.run machine instrs <;> rfl

theorem exec_fromSwi : exec fromSwi none machine =
    (Instr.run machine finishSwi).bind fun next => Instr.run next restoreLink := by
  rw [fromSwi, exec_instrs]
  simp only [exec, exec_all]

theorem exec_branches_swi (isZero : machine.cpsr.zero = true) :
    exec branches none machine =
      (Instr.run machine finishSwi).bind fun next => Instr.run next restoreLink := by
  rw [← exec_fromSwi]
  simp only [branches, fromIrq, exec, isZero, if_true, finishIrq, List.map_cons, List.map_nil,
    List.cons_append, List.nil_append]

theorem exec_branches_irq (notZero : machine.cpsr.zero = false) :
    exec branches none machine =
      (Instr.run machine finishIrq).bind fun next => Instr.run next restoreLink := by
  have notEnd : ¬Label.swiLabel = Label.swiLabelEnd := by decide
  have straight : exec branches none machine = exec fromIrq none machine := by
    simp only [branches, exec, notZero, Bool.false_eq_true, if_false]
  rw [straight, fromIrq, exec_instrs]
  simp only [exec, if_neg notEnd, fromSwi, finishSwi, List.map_cons, List.map_nil,
    List.cons_append, List.nil_append, if_true, exec_all]

def taskSaved (machine : Machine) : Machine :=
  { machine with
    sp := update (update machine.sp .svc (machine.sp .svc - 4#32)) .user (machine.sp .user - 56#32)
    lr := update machine.lr .svc (machine.cpsr.word ||| 0x1F)
    cpsr := .ofWord (machine.cpsr.word ||| 0x1F)
    mem := storeWords (update machine.mem (machine.sp .svc - 4#32) (machine.lr .svc))
      (machine.sp .user - 56#32)
      (List.ofFn machine.r ++ [machine.lr .user]) }

def kernelRestored (machine : Machine) : Machine :=
  { machine with
    r := fun index =>
      if index = 0 then machine.sp .user
      else if index = 1 then machine.cpsr.word &&& ~~~0xC
      else if index < 4 then machine.r index
      else machine.mem (wordAddr (machine.sp .svc) (index - 3))
    sp := update machine.sp .svc (wordAddr (machine.sp .svc) 10)
    lr := update machine.lr .svc (machine.mem (machine.sp .svc))
    cpsr := .ofWord (machine.cpsr.word &&& ~~~0xC) }

theorem kernelRestored_active (machine : Machine) : 
    (kernelRestored machine).r 0 = machine.sp .user := rfl

theorem kernelRestored_register {index : Fin 13} (isSaved : 4 ≤ index) :
    (kernelRestored machine).r index = machine.mem (wordAddr (machine.sp .svc) (index - 3)) := by
  have notActive : index ≠ 0 := by omega
  have notScratch : index ≠ 1 := by omega
  simp only [kernelRestored, if_neg notActive, if_neg notScratch, if_neg (not_lt.mpr isSaved)]

theorem kernelRestored_sp (machine : Machine) :
    (kernelRestored machine).sp .svc = wordAddr (machine.sp .svc) 10 := by
  simp only [kernelRestored, update_self]

theorem kernelRestored_irqSp (machine : Machine) :
    (kernelRestored machine).sp .irq = machine.sp .irq := by
  have notSvc : Bank.irq ≠ .svc := by decide
  simp only [kernelRestored, update_of_ne notSvc]

theorem kernelRestored_lr (machine : Machine) :
    (kernelRestored machine).lr .svc = machine.mem (machine.sp .svc) := by
  simp only [kernelRestored, update_self]

theorem frameRegs_map (user : machine.cpsr.bank = .user) :
    (r0ToR12 ++ [Reg.lr]).map machine.get = List.ofFn machine.r ++ [machine.lr .user] := by
  rw [List.map_append, List.map_singleton, Machine.get, user]
  rfl

theorem run_saveTask (svc : machine.cpsr.mode = svcMode)
    (aligned : Aligned (machine.sp .svc - 4#32))
    (aligned' : Aligned (machine.sp .user - 56#32)) :
    Instr.run machine saveTask = some (taskSaved machine) := by
  have bank : machine.cpsr.bank = .svc := Psr.bank_of_exception (by decide) (by decide) svc
  have privileged : machine.cpsr.mode ≠ userMode := by rw [svc]; decide
  have system : (Psr.ofWord (machine.cpsr.word ||| 0x1F)).bank = .user :=
    Psr.bank_of_system (toSystem_mode _)
  have length : 4 * (r0ToR12 ++ [Reg.lr]).length = 56 := rfl
  simp only [saveTask, Instr.run, Instr.exec, Machine.get, Machine.set, Machine.setMem,
    Machine.setCpsr, bank, add_neg_four, length, system, if_pos aligned, if_pos aligned',
    Option.bind_some, reduceCtorEq, update_self, Psr.write_of_ne privileged, update_idem, ne_eq,
    not_false_eq_true, update_of_ne]
  rw [frameRegs_map]
  · simp only [ne_eq, not_false_eq_true, update_of_ne, reduceCtorEq, taskSaved]
  · exact system

theorem run_restoreKernel (sys : machine.cpsr.mode = systemMode)
    (aligned : Aligned (machine.sp .svc)) :
    Instr.run machine restoreKernel = some (kernelRestored machine) := by
  have bank : machine.cpsr.bank = .user := Psr.bank_of_system sys
  have privileged : machine.cpsr.mode ≠ userMode := by rw [sys]; decide
  have svc : (Psr.ofWord (machine.cpsr.word &&& ~~~0xC)).bank = .svc :=
    Psr.bank_of_exception (by decide) (by decide) (toSvc_mode sys)
  have nodup : r4ToR12.Nodup := by decide
  have aligned' : Aligned (machine.sp .svc + 4) := aligned_wordAddr aligned 1
  have above : wordAddr (machine.sp .svc + 4) r4ToR12.length = wordAddr (machine.sp .svc) 10 :=
    wordAddr_succ _ _
  simp only [restoreKernel, Instr.run, Instr.exec, Machine.get, Machine.set, Machine.setCpsr,
    Operand.eval, r, bank, svc, if_pos aligned, if_pos aligned', Option.bind_some, update_self,
    Psr.write_of_ne privileged, update_idem, above]
  congr 1
  apply Machine.ext
  · funext index
    rw [Machine.loadRegs_r nodup]
    fin_cases index <;> simp [r4ToR12, r, wordAddr, add_assoc, kernelRestored]
  · exact Machine.loadRegs_sp (by decide)
  · exact (Machine.loadRegs_lr nodup).trans (if_neg (by decide))
  · exact Machine.loadRegs_spsr _ _
  · exact Machine.loadRegs_cpsr _ _
  · exact Machine.loadRegs_pc _ _
  · exact Machine.loadRegs_mem _ _

def interruptNoted (machine : Machine) : Machine :=
  { machine with
    lr := update machine.lr .irq (machine.cpsr.word ||| 0x1)
    cpsr := .ofWord (machine.cpsr.word ||| 0x1)
    mem := update (update machine.mem (machine.sp .irq) (machine.lr .irq - 4))
      (machine.sp .irq - 4#32)
      (machine.spsr .irq).word }

def markerRead (machine : Machine) : Machine :=
  { machine with
    r := update machine.r 3 (machine.mem (machine.r 4))
    cpsr := machine.cpsr.compare (machine.mem (machine.r 4)) 0 }

theorem markerRead_marker (machine : Machine) :
    (markerRead machine).r 3 = machine.mem (machine.r 4) := by
  simp only [markerRead, update_self]

theorem markerRead_register {index : Fin 13} (notMarker : index ≠ 3) :
    (markerRead machine).r index = machine.r index := by
  simp only [markerRead, update_of_ne notMarker]

theorem run_readMarker (aligned : Aligned (machine.r 4)) :
    Instr.run machine readMarker = some (markerRead machine) := by
  simp only [markerRead, readMarker, Instr.run, Instr.exec, Machine.get, Machine.set,
    Machine.setCpsr, r, add_zero, if_pos aligned, Option.bind_some, update_self]

theorem run_finishIrq (machine : Machine) (aligned : Aligned (machine.r 4 - 4#32)) :
    Instr.run machine finishIrq = some
      { machine with r := update machine.r 1 (machine.mem (machine.r 4 - 4#32)) } := by
  simp only [finishIrq, Instr.run, Instr.exec, Machine.get, Machine.set, r, add_neg_four,
    if_pos aligned, Option.bind_some]

theorem run_finishSwi (bank : machine.cpsr.bank = .svc)
    (aligned : Aligned (machine.lr .svc - 4#32)) :
    Instr.run machine finishSwi = some
      { machine with
        r := update (update (update machine.r 1 (machine.spsr .svc).word) 2
          (machine.mem (machine.lr .svc - 4#32) &&& ~~~0xFF000000)) 3 (machine.lr .svc) } := by
  simp only [finishSwi, Instr.run, Instr.exec, Machine.get, Machine.set, r, add_neg_four, bank,
    Operand.eval, if_pos aligned, Option.bind_some, reduceCtorEq, if_false, update_self,
    update_idem]

theorem run_noteInterrupt (irq : machine.cpsr.mode = irqMode)
    (aligned : Aligned (machine.sp .irq)) :
    Instr.run machine noteInterrupt = some (interruptNoted machine) := by
  have bank : machine.cpsr.bank = .irq := Psr.bank_of_exception (by decide) (by decide) irq
  have privileged : machine.cpsr.mode ≠ userMode := by rw [irq]; decide
  have aligned' : Aligned (machine.sp .irq - 4#32) := aligned_sub aligned 1
  simp only [noteInterrupt, Instr.run, Instr.exec, Machine.get, Machine.set, Machine.setMem,
    Machine.setCpsr, bank, add_zero, add_neg_four, if_pos aligned, if_pos aligned',
    Option.bind_some, reduceCtorEq, if_false, update_self, update_idem,
    Psr.write_of_ne privileged, interruptNoted]

def linkRestored (machine : Machine) : Machine :=
  { machine with
    sp := update machine.sp .svc (wordAddr (machine.sp .svc) 1)
    lr := update machine.lr .svc (machine.mem (machine.sp .svc)) }

theorem run_restoreLink (machine : Machine) (bank : machine.cpsr.bank = .svc)
    (aligned : Aligned (machine.sp .svc)) :
    Instr.run machine restoreLink = some (linkRestored machine) := by
  simp only [restoreLink, Instr.run, Instr.exec, Machine.get, Machine.set, bank, if_pos aligned,
    Option.bind_some]
  rfl


theorem frameOf_getElem? (machine : Machine) (slot : Fin 14) :
    (List.ofFn machine.r ++ [machine.lr .user])[slot.val]? = some (frameOf machine slot) := by
  induction slot using Fin.lastCases with
  | last =>
      rw [List.getElem?_append_right (by simp), frameOf, Fin.snoc_last]
      simp
  | cast index =>
      rw [List.getElem?_append_left (by simp), Fin.val_castSucc, List.getElem?_ofFn,
        dif_pos index.isLt, frameOf_register]

theorem taskSaved_sp (machine : Machine) :
    (taskSaved machine).sp .svc = machine.sp .svc - 4#32 := by
  have notUser : Bank.svc ≠ .user := by decide
  simp only [taskSaved, update_of_ne notUser, update_self]

theorem taskSaved_irqSp (machine : Machine) : (taskSaved machine).sp .irq = machine.sp .irq := by
  have notUser : Bank.irq ≠ .user := by decide
  have notSvc : Bank.irq ≠ .svc := by decide
  simp only [taskSaved, update_of_ne notUser, update_of_ne notSvc]

theorem taskSaved_active (machine : Machine) :
    (taskSaved machine).sp .user = machine.sp .user - 56#32 := by
  simp only [taskSaved, update_self]

theorem taskSaved_frame (machine : Machine) :
    frameAt (taskSaved machine).mem (machine.sp .user - 56#32) = frameOf machine := by
  funext slot
  exact storeWords_inside (Nat.le_of_ble_eq_true rfl) (frameOf_getElem? machine slot)

theorem taskSaved_mem {addr : Word} (notLink : addr ≠ machine.sp .svc - 4#32)
    (outside : ¬Within (machine.sp .user - 56#32) 14 addr) :
    (taskSaved machine).mem addr = machine.mem addr :=
  (storeWords_outside outside).trans (update_of_ne notLink _ _)

theorem taskSaved_link (outside : ¬Within (machine.sp .user - 56#32) 14 (machine.sp .svc - 4#32)) :
    (taskSaved machine).mem (machine.sp .svc - 4#32) = machine.lr .svc :=
  (storeWords_outside outside).trans (update_self _ _ _)

/-- The kernel where it finds out why it was entered. -/
structure AtBranch (kernel machine branch : Machine) : Prop where
  activeSp : branch.r 0 = machine.sp .user - 56#32
  marker : branch.r 3 = machine.mem (kernel.r 4)
  registers : ∀ index : Fin 13, 4 ≤ index → branch.r index = kernel.r index
  sp : branch.sp .svc = wordAddr (kernel.sp .svc - 44#32) 10
  irqSp : branch.sp .irq = machine.sp .irq
  lr : branch.lr .svc = machine.lr .svc
  link : branch.mem (wordAddr (kernel.sp .svc - 44#32) 10) = kernel.lr .svc
  spsr : branch.spsr = machine.spsr
  mode : branch.cpsr.mode = svcMode
  zero : branch.cpsr.zero = decide (machine.mem (kernel.r 4) = 0)
  frame : frameAt branch.mem (machine.sp .user - 56#32) = frameOf machine
  mem : ∀ addr, addr ≠ kernel.sp .svc - 44#32 → ¬Within (machine.sp .user - 56#32) 14 addr →
    branch.mem addr = machine.mem addr

theorem exec_untilBranch {kernel : Machine} (svc : machine.cpsr.mode = svcMode)
    (stacked : Stacked kernel machine)
    (layout : Layout (kernel.sp .svc) (kernel.r 4) (machine.sp .user - 56#32)) :
    ∃ branch, exec kernelEntry none machine = exec branches none branch ∧
      AtBranch kernel machine branch := by
  have notFrame : ∀ {addr}, SwitchWord (kernel.sp .svc) (kernel.r 4) addr →
      ¬Within (machine.sp .user - 56#32) 14 addr := by
    rintro addr isSwitch ⟨slot, slotLt, rfl⟩
    exact layout.frame slot slotLt isSwitch
  have alignedBottom : Aligned (kernel.sp .svc - 44#32) := aligned_sub layout.kernel 11
  have pushed : machine.sp .svc - 4#32 = kernel.sp .svc - 44#32 := by
    rw [stacked.sp]
    exact add_sub_cancel_right _ _
  have saves : Instr.run machine saveTask = some (taskSaved machine) :=
    run_saveTask svc (by rw [pushed]; exact alignedBottom) layout.task
  have sp : (taskSaved machine).sp .svc = kernel.sp .svc - 44#32 :=
    (taskSaved_sp machine).trans pushed
  have mode : (taskSaved machine).cpsr.mode = systemMode := toSystem_mode _
  have active := taskSaved_active machine
  have frame := taskSaved_frame machine
  have spsr : (taskSaved machine).spsr = machine.spsr := rfl
  have irqSp := taskSaved_irqSp machine
  have link : (taskSaved machine).mem (kernel.sp .svc - 44#32) = machine.lr .svc := by
    rw [← pushed]
    apply taskSaved_link
    rw [pushed]
    exact notFrame (.inl ⟨0, by decide, (wordAddr_zero _).symm⟩)
  have mem : ∀ addr, addr ≠ kernel.sp .svc - 44#32 → ¬Within (machine.sp .user - 56#32) 14 addr →
      (taskSaved machine).mem addr = machine.mem addr := fun addr notLink outside =>
    taskSaved_mem (by rw [pushed]; exact notLink) outside
  generalize taskSaved machine = stored at *
  have restores : Instr.run stored restoreKernel = some (kernelRestored stored) :=
    run_restoreKernel mode (by rw [sp]; exact alignedBottom)
  have stackMem : ∀ slot, 1 ≤ slot → slot < 11 →
      stored.mem (wordAddr (kernel.sp .svc - 44#32) slot) =
        machine.mem (wordAddr (kernel.sp .svc - 44#32) slot) := by
    intro slot positive slotLt
    apply mem _ _ (notFrame (.inl ⟨slot, slotLt, rfl⟩))
    intro same
    rw [← wordAddr_zero (kernel.sp .svc - 44#32), wordAddr_wordAddr] at same
    have := wordAddr_injective (by omega) (by omega) same
    omega
  have registers : ∀ index : Fin 13, 4 ≤ index →
      (kernelRestored stored).r index = kernel.r index := by
    intro index isSaved
    have lower : 4 ≤ index.val := isSaved
    rw [kernelRestored_register isSaved, sp, ← stacked.registers index isSaved]
    exact stackMem (index - 3) (by omega) (by omega)
  have restoredMode : (kernelRestored stored).cpsr.mode = svcMode := toSvc_mode mode
  have restoredMem : (kernelRestored stored).mem = stored.mem := rfl
  have restoredSpsr : (kernelRestored stored).spsr = stored.spsr := rfl
  have restoredActive := kernelRestored_active stored
  have restoredSp := kernelRestored_sp stored
  have restoredIrqSp := kernelRestored_irqSp stored
  have restoredLr := kernelRestored_lr stored
  generalize kernelRestored stored = restored at *
  have marker : restored.mem (restored.r 4) = machine.mem (kernel.r 4) := by
    have isMarker : kernel.r 4 = wordAddr (kernel.r 4 - 12#32) 3 := (sub_add_cancel _ _).symm
    have notLink : kernel.r 4 ≠ kernel.sp .svc - 44#32 := by
      intro same
      apply layout.apart (kernel.r 4) ⟨0, by decide, ?_⟩ ⟨3, by decide, isMarker⟩
      rw [same, wordAddr_zero]
    rw [registers 4 le_rfl, restoredMem]
    exact mem (kernel.r 4) notLink (notFrame (.inr ⟨3, by decide, isMarker⟩))
  have reads : Instr.run restored readMarker = some (markerRead restored) :=
    run_readMarker (by rw [registers 4 le_rfl]; exact layout.irq)
  refine ⟨markerRead restored, ?_, ?_⟩
  · rw [kernelEntry_eq, exec_instrs, saves, Option.bind_some, exec_instrs, restores,
      Option.bind_some, exec_instrs, reads, Option.bind_some, branches, fromIrq, fromSwi]
  · refine ⟨?_, (markerRead_marker restored).trans marker, ?_, ?_, ?_, ?_, ?_, ?_, ?_, ?_, ?_, ?_⟩
    · rw [markerRead_register (by decide), restoredActive, active]
    · intro index isSaved
      rw [markerRead_register (by omega), registers index isSaved]
    · exact restoredSp.trans (by rw [sp])
    · exact restoredIrqSp.trans irqSp
    · exact restoredLr.trans (by rw [sp, link])
    · exact (congrFun restoredMem _).trans
        ((stackMem 10 (by decide) (by decide)).trans stacked.link)
    · exact restoredSpsr.trans spsr
    · exact (Psr.compare_mode _ _ _).trans restoredMode
    · rw [← marker]
      exact Psr.compare_zero _ _ _
    · exact restoredMem ▸ frame
    · exact restoredMem ▸ mem

theorem AtBranch.entered {kernel task branch : Machine} (atBranch : AtBranch kernel machine branch)
    (frame : frameOf machine = frameOf task) (sp : machine.sp .user = task.sp .user)
    (irqSp : machine.sp .irq = kernel.r 4)
    (mem : ∀ addr, ¬SwitchWord (kernel.sp .svc) (kernel.r 4) addr →
      machine.mem addr = task.mem addr)
    {regs : Fin 13 → Word} (kept : ∀ index, index = 0 ∨ 4 ≤ index → regs index = branch.r index)
    (spsr : regs 1 = task.cpsr.word) (pc : regs 3 = task.pc) :
    Entered kernel task (linkRestored { branch with r := regs }) := by
  have notSvc : Bank.irq ≠ .svc := by decide
  have activeSp : regs 0 = task.sp .user - 56#32 := by
    rw [kept 0 (.inl rfl), atBranch.activeSp, sp]
  refine ⟨?_, ?_, ?_, ?_, atBranch.mode, activeSp, ?_, ?_⟩
  · exact fun index isSaved => (kept index (.inr isSaved)).trans (atBranch.registers index isSaved)
  · simp only [linkRestored, update_self, atBranch.sp, wordAddr_wordAddr]
    exact sub_add_cancel _ _
  · simp only [linkRestored, update_of_ne notSvc, atBranch.irqSp, irqSp]
  · simp only [linkRestored, update_self, atBranch.sp, atBranch.link]
  · have isFrame : frameAt branch.mem (regs 0) = frameOf task := by
      rw [activeSp, ← sp, atBranch.frame, frame]
    exact savedContext_frameOf isFrame activeSp pc spsr
  · intro addr outside notInFrame
    have notLink : addr ≠ kernel.sp .svc - 44#32 := by
      rintro rfl
      exact outside (.inl ⟨0, by decide, (wordAddr_zero _).symm⟩)
    exact (atBranch.mem addr notLink (by rw [sp]; exact notInFrame)).trans (mem addr outside)

/--
A software interrupt saves the whole context of the task, and the kernel goes on where it was, with
the comment field of the instruction in r2.
-/
theorem swi_saves_context {kernel task : Machine} (suspended : Suspended kernel task)
    (layout : Layout (kernel.sp .svc) (kernel.r 4) (task.sp .user - 56#32))
    (alignedPc : Aligned task.pc) :
    ∃ entered, enterBySwi task = some entered ∧ Entered kernel task entered ∧
      entered.r 2 = entered.mem (task.pc - 4#32) &&& ~~~0xFF000000 := by
  have svc : task.softwareInterrupt.cpsr.mode = svcMode := Psr.enter_mode _ _
  have stacked : Stacked kernel task.softwareInterrupt :=
    ⟨suspended.sp, suspended.registers, suspended.link⟩
  rcases exec_untilBranch svc stacked layout with ⟨branch, entering, atBranch⟩
  have lr : branch.lr .svc = task.pc := by
    rw [atBranch.lr]
    simp only [Machine.softwareInterrupt, update_self]
  have spsr : branch.spsr .svc = task.cpsr := by
    rw [atBranch.spsr]
    simp only [Machine.softwareInterrupt, update_self]
  have userSp : task.softwareInterrupt.sp .user = task.sp .user := rfl
  have isZero : branch.cpsr.zero = true := by
    rw [atBranch.zero]
    exact decide_eq_true suspended.marker
  have bank : branch.cpsr.bank = .svc :=
    Psr.bank_of_exception (by decide) (by decide) atBranch.mode
  have finishes := run_finishSwi bank (by rw [lr]; exact aligned_sub alignedPc 1)
  rw [lr, spsr] at finishes
  obtain ⟨regs, isRegs⟩ : ∃ regs, regs = update (update (update branch.r 1 task.cpsr.word) 2
      (branch.mem (task.pc - 4#32) &&& ~~~0xFF000000)) 3 task.pc := ⟨_, rfl⟩
  rw [← isRegs] at finishes
  have restores := run_restoreLink { branch with r := regs } bank
    (by rw [atBranch.sp]; exact aligned_wordAddr (aligned_sub layout.kernel 11) 10)
  refine ⟨linkRestored { branch with r := regs }, ?_, ?_, ?_⟩
  · rw [enterBySwi, entering, exec_branches_swi isZero, finishes, Option.bind_some, restores]
  · apply atBranch.entered _ userSp suspended.irqSp fun _ _ => rfl
    · intro index isKept
      have notOne : index ≠ 1 := by omega
      have notTwo : index ≠ 2 := by omega
      have notThree : index ≠ 3 := by omega
      rw [isRegs, update_of_ne notThree, update_of_ne notTwo, update_of_ne notOne]
    · simp [isRegs]
    · simp [isRegs]
    · have notSvc : Bank.user ≠ .svc := by decide
      simp only [frameOf, Machine.softwareInterrupt, update_of_ne notSvc]
  · change regs 2 = branch.mem (task.pc - 4#32) &&& _
    simp [isRegs]

/-- A hardware interrupt saves the whole context of the task, and the kernel goes on where it
was. -/
theorem interrupt_saves_context {kernel task : Machine} (suspended : Suspended kernel task)
    (layout : Layout (kernel.sp .svc) (kernel.r 4) (task.sp .user - 56#32))
    (notNull : task.pc ≠ 0) :
    ∃ entered, enterByIrq task = some entered ∧ Entered kernel task entered := by
  have irq : task.interrupt.cpsr.mode = irqMode := Psr.enter_mode _ _
  have irqSp : task.interrupt.sp .irq = kernel.r 4 := suspended.irqSp
  have notes := run_noteInterrupt irq (by rw [irqSp]; exact layout.irq)
  have bottom : kernel.r 4 = wordAddr (kernel.r 4 - 12#32) 3 := (sub_add_cancel _ _).symm
  have next : kernel.r 4 - 4#32 = wordAddr (kernel.r 4 - 12#32) 2 :=
    sub_eq_wordAddr _ 1 3 (by decide)
  have apart : kernel.r 4 ≠ kernel.r 4 - 4#32 := by bv_omega
  obtain ⟨noted, isNoted⟩ : ∃ noted, noted = interruptNoted task.interrupt := ⟨_, rfl⟩
  rw [← isNoted] at notes
  have notedMem : noted.mem = update (update task.mem (kernel.r 4) task.pc) (kernel.r 4 - 4#32)
      task.cpsr.word := by
    simp only [isNoted, interruptNoted, Machine.interrupt, update_self, suspended.irqSp,
      add_sub_cancel_right]
  have mem : ∀ addr, ¬Within (kernel.r 4 - 12#32) 4 addr → noted.mem addr = task.mem addr := by
    intro addr outside
    rw [notedMem, update_of_ne, update_of_ne]
    · rintro rfl
      exact outside ⟨3, by decide, bottom⟩
    · rintro rfl
      exact outside ⟨2, by decide, next⟩
  have marker : noted.mem (kernel.r 4) = task.pc := by
    rw [notedMem, update_of_ne apart, update_self]
  have spsr : noted.mem (kernel.r 4 - 4#32) = task.cpsr.word := by
    rw [notedMem, update_self]
  have stackMem : ∀ slot < 11, noted.mem (wordAddr (kernel.sp .svc - 44#32) slot) =
      task.mem (wordAddr (kernel.sp .svc - 44#32) slot) := fun slot slotLt =>
    mem _ (layout.apart _ ⟨slot, slotLt, rfl⟩)
  have stacked : Stacked kernel noted := by
    refine ⟨?_, ?_, ?_⟩
    · rw [isNoted]
      exact suspended.sp
    · intro index isSaved
      rw [stackMem _ (by omega)]
      exact suspended.registers index isSaved
    · rw [stackMem 10 (by decide)]
      exact suspended.link
  have svc : noted.cpsr.mode = svcMode := by
    have bits : (0x1 : Word).extractLsb' 0 5 = 0x1 := by decide
    rw [isNoted, interruptNoted, Psr.ofWord_mode, BitVec.extractLsb'_or, bits, ← Psr.mode, irq]
    rfl
  have userSp : noted.sp .user = task.sp .user := by rw [isNoted]; rfl
  rcases exec_untilBranch svc stacked (userSp ▸ layout) with ⟨branch, entering, atBranch⟩
  have isMarker : branch.r 3 = task.pc := atBranch.marker.trans marker
  have notZero : branch.cpsr.zero = false := by
    rw [atBranch.zero, marker]
    exact decide_eq_false notNull
  have bank : branch.cpsr.bank = .svc :=
    Psr.bank_of_exception (by decide) (by decide) atBranch.mode
  have savedSpsr : branch.mem (kernel.r 4 - 4#32) = task.cpsr.word := by
    rw [atBranch.mem, spsr]
    · intro same
      exact layout.apart _ ⟨0, by decide, same.trans (wordAddr_zero _).symm⟩ ⟨2, by decide, next⟩
    · rw [userSp]
      rintro ⟨slot, slotLt, same⟩
      exact layout.frame slot slotLt (.inr ⟨2, by decide, same ▸ next⟩)
  have finishes := run_finishIrq branch
    (by rw [atBranch.registers 4 le_rfl]; exact aligned_sub layout.irq 1)
  rw [atBranch.registers 4 le_rfl, savedSpsr] at finishes
  obtain ⟨regs, isRegs⟩ : ∃ regs, regs = update branch.r 1 task.cpsr.word := ⟨_, rfl⟩
  rw [← isRegs] at finishes
  have restores := run_restoreLink { branch with r := regs } bank
    (by rw [atBranch.sp]; exact aligned_wordAddr (aligned_sub layout.kernel 11) 10)
  refine ⟨linkRestored { branch with r := regs }, ?_, ?_⟩
  · rw [enterByIrq, irqEntry_eq, exec_instrs, notes, Option.bind_some, entering,
      exec_branches_irq notZero, finishes, Option.bind_some, restores]
  · apply atBranch.entered _ userSp _ fun addr outside => mem addr (mt .inr outside)
    · intro index isKept
      have notOne : index ≠ 1 := by omega
      rw [isRegs, update_of_ne notOne]
    · simp [isRegs]
    · simp [isRegs, isMarker]
    · have notIrq : Bank.user ≠ .irq := by decide
      simp only [isNoted, frameOf, interruptNoted, Machine.interrupt, update_of_ne notIrq]
    · rw [isNoted]
      exact suspended.irqSp

end ArmKernel.Asm
