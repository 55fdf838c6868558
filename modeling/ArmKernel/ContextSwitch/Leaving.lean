import ArmKernel.Kernel.ContextSwitch
import Mathlib.Tactic.FinCases

/-!
# Leaving the kernel

`activate` in three parts: the registers of the kernel go to its stack, two registers of the task
are parked on the interrupt stack while r0 and r1 are still needed, and all registers of the task
are loaded. Each part has a machine that says what it does; together they install the context that
the frame holds, and leave the kernel suspended.
-/

namespace ArmKernel.Asm

open Arm Function

def saveKernel : List Instr :=
  [ .stmfd .sp (r4ToR12 ++ [.lr]),
    .msrSpsr (r 1),
    .mov .lr (.reg (r 3)),
    .mrsCpsr (r 1),
    .orr (r 1) (r 1) 0x1F,
    .msrCpsr (r 1),
    .bic (r 1) (r 1) 0xC]

def parkTwoRegisters : List Instr :=
  [ .mov .sp (.reg (r 0)),
    .mov (r 0) (.imm 0),
    .str (r 0) (r 4) 0,
    .sub (r 0) (r 4) 4,
    .ldmfdWriteback .sp [r 2, r 3],
    .stmfd (r 0) [r 2, r 3]]

def loadTask : List Instr :=
  [ .ldmfdWriteback .sp (r2ToR12 ++ [.lr]),
    .msrCpsr (r 1),
    .ldmfd (r 0) [r 0, r 1]]

/-- The exception return comes after the three parts. -/
theorem activate_eq : activate = saveKernel.map .instr ++ (parkTwoRegisters.map .instr ++
    (loadTask.map .instr ++ [.movsPcLr])) := rfl

variable {machine : Machine}

def kernelSaved (machine : Machine) : Machine :=
  { machine with
    r := update machine.r 1 ((machine.cpsr.word ||| 0x1F) &&& ~~~0xC)
    sp := update machine.sp .svc (machine.sp .svc - 40#32)
    lr := update machine.lr .svc (machine.r 3)
    spsr := update machine.spsr .svc (.ofWord (machine.r 1))
    cpsr := .ofWord (machine.cpsr.word ||| 0x1F)
    mem := storeWords machine.mem (machine.sp .svc - 40#32)
      ((r4ToR12 ++ [Reg.lr]).map machine.get) }

def registersParked (machine : Machine) : Machine :=
  { machine with
    r := update (update (update machine.r 2 (machine.mem (machine.r 0))) 3
      (machine.mem (machine.r 0 + 4))) 0 (machine.r 4 - 12#32)
    sp := update machine.sp .user (wordAddr (machine.r 0) 2)
    mem := storeWords (update machine.mem (machine.r 4) 0) (machine.r 4 - 12#32)
      [machine.mem (machine.r 0), machine.mem (machine.r 0 + 4)] }

def taskLoaded (machine : Machine) : Machine :=
  { machine with
    r := fun index =>
      if index = 0 then machine.mem (machine.r 0)
      else if index = 1 then machine.mem (machine.r 0 + 4)
      else machine.mem (wordAddr (machine.sp .user) (index - 2))
    sp := update machine.sp .user (wordAddr (machine.sp .user) 12)
    lr := update machine.lr .user (machine.mem (wordAddr (machine.sp .user) 11))
    cpsr := .ofWord (machine.r 1) }

theorem toSystem_bits (word : Word) : (word ||| 0x1F).extractLsb' 0 5 = systemMode := by
  have set : (0x1F : Word).extractLsb' 0 5 = BitVec.allOnes 5 := by decide
  rw [BitVec.extractLsb'_or, set, BitVec.or_allOnes]
  rfl

theorem toSystem_mode (word : Word) : (Psr.ofWord (word ||| 0x1F)).mode = systemMode :=
  (Psr.ofWord_mode _).trans (toSystem_bits word)

theorem toSvc_mode {word : Word} (sys : word.extractLsb' 0 5 = systemMode) :
    (Psr.ofWord (word &&& ~~~0xC)).mode = svcMode := by
  have cleared : (~~~0xC : Word).extractLsb' 0 5 = svcMode := by decide
  rw [Psr.ofWord_mode, BitVec.extractLsb'_and, cleared, sys]
  rfl

theorem run_saveKernel (svc : machine.cpsr.mode = svcMode)
    (aligned : Aligned (machine.sp .svc - 40#32)) :
    Instr.run machine saveKernel = some (kernelSaved machine) := by
  have bank : machine.cpsr.bank = .svc := Psr.bank_of_exception (by decide) (by decide) svc
  have privileged : machine.cpsr.mode ≠ userMode := by rw [svc]; decide
  have length : 4 * (r4ToR12 ++ [Reg.lr]).length = 40 := rfl
  simp only [saveKernel, Instr.run, Instr.exec, Machine.get, Machine.set, Machine.setMem,
    Machine.setSpsr, Machine.setCpsr, bank, length, if_pos aligned, Option.bind_some, Operand.eval,
    r, reduceCtorEq, if_false, update_self, Psr.write_of_ne privileged, update_idem,
    kernelSaved]

theorem run_parkTwoRegisters (bank : machine.cpsr.bank = .user) (irq : Aligned (machine.r 4))
    (parking : Aligned (machine.r 4 - 12#32)) (task : Aligned (machine.r 0))
    (notFirst : machine.r 0 ≠ machine.r 4) (notSecond : machine.r 0 + 4 ≠ machine.r 4) :
    Instr.run machine parkTwoRegisters = some (registersParked machine) := by
  have bottom : machine.r 4 - 4 - 8#32 = machine.r 4 - 12#32 := by bv_omega
  simp only [parkTwoRegisters, Instr.run, Instr.exec, Machine.get, Machine.set, Machine.setMem,
    Machine.loadRegs, bank, add_zero, if_pos irq, if_pos parking, if_pos task, Option.bind_some,
    Operand.eval, r, update_self, update_idem, update_of_ne, ne_eq, not_false_eq_true,
    Fin.reduceEq, notFirst, notSecond, List.length_cons, List.length_nil, Nat.reduceAdd,
    Nat.reduceMul, bottom, List.map_cons, List.map_nil, registersParked]
  congr 2
  funext index
  by_cases isFirst : index = 0
  · simp [isFirst]
  · simp [isFirst, update_apply]

/-- The registers that are loaded come from two blocks of words. -/
theorem run_loadTask (sys : machine.cpsr.mode = systemMode) (aligned : Aligned (machine.sp .user))
    (parking : Aligned (machine.r 0)) :
    Instr.run machine loadTask = some (taskLoaded machine) := by
  have bank : machine.cpsr.bank = .user := Psr.bank_of_system sys
  have privileged : machine.cpsr.mode ≠ userMode := by rw [sys]; decide
  have nodup : (r2ToR12 ++ [Reg.lr]).Nodup := by decide
  let loaded := (machine.set .sp (wordAddr (machine.sp .user) 12)).loadRegs (machine.sp .user)
    (r2ToR12 ++ [Reg.lr])
  have loadedMem : loaded.mem = machine.mem := by
    simp only [loaded, Machine.loadRegs_mem, Machine.set_mem]
  have loadedR : ∀ index, index = 0 ∨ index = 1 → loaded.r index = machine.r index := by
    rintro index (rfl | rfl)
    · exact (Machine.loadRegs_r nodup 0).trans (if_neg (by decide))
    · exact (Machine.loadRegs_r nodup 1).trans (if_neg (by decide))
  have first : (Instr.ldmfdWriteback .sp (r2ToR12 ++ [.lr])).exec machine = some loaded := by
    simp only [Instr.exec, Machine.get, bank, if_pos aligned]
    rfl
  let switched := loaded.setCpsr (.ofWord (machine.r 1))
  have second : (Instr.msrCpsr (r 1)).exec loaded = some switched := by
    have same : loaded.get (r 1) = machine.r 1 := loadedR 1 (.inr rfl)
    have cpsr : loaded.cpsr = machine.cpsr := by
      simp only [loaded, Machine.loadRegs_cpsr, Machine.set_cpsr]
    simp only [Instr.exec, cpsr, Psr.write_of_ne privileged, same, switched]
  have third : (Instr.ldmfd (r 0) [r 0, r 1]).exec switched =
      some (switched.loadRegs (machine.r 0) [r 0, r 1]) := by
    have same : switched.get (r 0) = machine.r 0 := loadedR 0 (.inl rfl)
    simp only [Instr.exec, same, if_pos parking]
  simp only [loadTask, Instr.run, first, second, third, Option.bind_some]
  congr 1
  have switchedMem : switched.mem = machine.mem := loadedMem
  apply Machine.ext
  · funext index
    rw [Machine.loadRegs_r (by decide), switchedMem]
    change (if _ then _ else loaded.r index) = _
    rw [Machine.loadRegs_r nodup, Machine.set_mem]
    fin_cases index <;> simp [r2ToR12, r, wordAddr, taskLoaded]
  · rw [Machine.loadRegs_sp (by decide)]
    change loaded.sp = _
    rw [Machine.loadRegs_sp (by decide)]
    simp only [Machine.set, bank, taskLoaded]
  · rw [Machine.loadRegs_lr (by decide), if_neg (by decide)]
    change loaded.lr = _
    rw [Machine.loadRegs_lr nodup, if_pos (by decide), Machine.set_mem, Machine.set_cpsr, bank]
    rfl
  · rw [Machine.loadRegs_spsr]
    simp only [switched, loaded, Machine.setCpsr, Machine.loadRegs_spsr, Machine.set_spsr,
      taskLoaded]
  · rw [Machine.loadRegs_cpsr]
    rfl
  · rw [Machine.loadRegs_pc]
    simp only [switched, loaded, Machine.setCpsr, Machine.loadRegs_pc, Machine.set_pc, taskLoaded]
  · rw [Machine.loadRegs_mem, switchedMem]
    rfl


theorem kernelRegs_getElem? (machine : Machine) (index : Fin 13) (saved : 4 ≤ index) :
    ((r4ToR12 ++ [Reg.lr]).map machine.get)[index.val - 4]? = some (machine.r index) := by
  revert saved
  fin_cases index <;> simp [r4ToR12, r, Machine.get]

theorem kernelLink_getElem? (machine : Machine) (svc : machine.cpsr.bank = .svc) :
    ((r4ToR12 ++ [Reg.lr]).map machine.get)[9]? = some (machine.lr .svc) := by
  simp [r4ToR12, Machine.get, svc]

section Memory

variable (machine : Machine) {addr : Word}

theorem kernelSaved_mem (outside : ¬Within (machine.sp .svc - 44#32) 11 addr) :
    (kernelSaved machine).mem addr = machine.mem addr := by
  apply storeWords_outside
  intro within
  have block : machine.sp .svc - 40#32 = wordAddr (machine.sp .svc - 44#32) 1 :=
    sub_eq_wordAddr _ 10 11 (by decide)
  rw [block] at within
  exact outside (within.mono (Nat.le_of_ble_eq_true rfl))

theorem registersParked_mem (outside : ¬Within (machine.r 4 - 12#32) 4 addr) :
    (registersParked machine).mem addr = machine.mem addr := by
  have bottom : machine.r 4 = wordAddr (machine.r 4 - 12#32) 3 := (sub_add_cancel _ _).symm
  refine (storeWords_outside ?_).trans (update_of_ne ?_ _ _)
  rotate_left
  · rintro rfl
    exact outside ⟨3, by decide, bottom⟩
  · rintro ⟨index, indexLt, same⟩
    have indexLt' : index < 2 := indexLt
    exact outside ⟨index, indexLt'.trans (by decide), same⟩

theorem registersParked_marker : (registersParked machine).mem (machine.r 4) = 0 := by
  have bottom : machine.r 4 = wordAddr (machine.r 4 - 12#32) 3 := (sub_add_cancel _ _).symm
  refine (storeWords_outside ?_).trans (update_self _ _ _)
  · rintro ⟨index, indexLt, same⟩
    have indexLt' : index < 2 := indexLt
    have isThree := wordAddr_injective (by decide) (by omega) (bottom.symm.trans same)
    omega

theorem registersParked_word {index : ℕ} (indexLt : index < 2) :
    (registersParked machine).mem (wordAddr (machine.r 4 - 12#32) index) =
      machine.mem (wordAddr (machine.r 0) index) := by
  apply storeWords_inside (Nat.le_of_ble_eq_true rfl)
  have isWord : index = 0 ∨ index = 1 := by omega
  rcases isWord with rfl | rfl
  · rw [wordAddr_zero]
    rfl
  · rfl

theorem kernelSaved_register (index : Fin 13) (isSaved : 4 ≤ index) :
    (kernelSaved machine).mem (wordAddr (machine.sp .svc - 44#32) (index - 3)) =
      machine.r index := by
  have block : wordAddr (machine.sp .svc - 44#32) (index - 3) =
      wordAddr (machine.sp .svc - 40#32) (index - 4) := by
    have four : 4 ≤ index.val := isSaved
    rw [sub_eq_wordAddr (machine.sp .svc) 10 11 (by decide), wordAddr_wordAddr]
    congr 1
    omega
  rw [block]
  exact storeWords_inside (Nat.le_of_ble_eq_true rfl) (kernelRegs_getElem? machine index isSaved)

theorem kernelSaved_link (svc : machine.cpsr.bank = .svc) :
    (kernelSaved machine).mem (wordAddr (machine.sp .svc - 44#32) 10) = machine.lr .svc := by
  have block : wordAddr (machine.sp .svc - 44#32) 10 = wordAddr (machine.sp .svc - 40#32) 9 := by
    rw [sub_eq_wordAddr (machine.sp .svc) 10 11 (by decide), wordAddr_wordAddr]
  rw [block]
  exact storeWords_inside (Nat.le_of_ble_eq_true rfl) (kernelLink_getElem? machine svc)

end Memory

/--
Activating a task installs exactly the context that its frame and the words in r0, r1 and r3 stand
for, leaves the kernel suspended, and changes no other memory.
-/
theorem activate_installs_context (svc : machine.cpsr.mode = svcMode)
    (irqSp : machine.sp .irq = machine.r 4)
    (layout : Layout (machine.sp .svc) (machine.r 4) (machine.r 0)) :
    ∃ task, exec activate none machine = some task ∧
      context task = savedContext (frameAt machine.mem (machine.r 0)) (machine.r 0) (machine.r 3)
        (machine.r 1) ∧
      Suspended machine task ∧
      ∀ addr, ¬SwitchWord (machine.sp .svc) (machine.r 4) addr →
        task.mem addr = machine.mem addr := by
  have bank : machine.cpsr.bank = .svc := Psr.bank_of_exception (by decide) (by decide) svc
  let saved := kernelSaved machine
  let parked := registersParked saved
  let loaded := taskLoaded parked
  have saves : Instr.run machine saveKernel = some saved :=
    run_saveKernel svc (aligned_sub layout.kernel 10)
  have notMarker : ∀ slot < 14, wordAddr (machine.r 0) slot ≠ machine.r 4 := by
    intro slot slotLt same
    exact layout.frame slot slotLt (.inr ⟨3, by decide, same.trans (sub_add_cancel _ _).symm⟩)
  have notFirst : machine.r 0 ≠ machine.r 4 := by
    rw [← wordAddr_zero (machine.r 0)]
    exact notMarker 0 (by decide)
  have parks : Instr.run saved parkTwoRegisters = some parked :=
    run_parkTwoRegisters (Psr.bank_of_system (toSystem_mode _)) layout.irq
      (aligned_sub layout.irq 3) layout.task
      notFirst (notMarker 1 (by decide))
  have loads : Instr.run parked loadTask = some loaded :=
    run_loadTask (toSystem_mode _) (aligned_wordAddr layout.task 2) (aligned_sub layout.irq 3)
  have mode : loaded.cpsr.bank = .svc :=
    Psr.bank_of_exception (by decide) (by decide) (toSvc_mode (toSystem_bits _))
  have savedFrame : ∀ slot < 14, saved.mem (wordAddr (machine.r 0) slot) =
      machine.mem (wordAddr (machine.r 0) slot) :=
    fun slot slotLt => kernelSaved_mem machine fun within => layout.frame slot slotLt (.inl within)
  have parkedFrame : ∀ slot < 14, parked.mem (wordAddr (machine.r 0) slot) =
      machine.mem (wordAddr (machine.r 0) slot) :=
    fun slot slotLt => (registersParked_mem saved fun within =>
      layout.frame slot slotLt (.inr within)).trans (savedFrame slot slotLt)
  refine ⟨{ loaded with pc := machine.r 3, cpsr := .ofWord (machine.r 1) }, ?_, ?_, ?_, ?_⟩
  · simp only [activate_eq, exec_instrs, saves, parks, loads, Option.bind_some, exec,
      Machine.exceptionReturn, mode, Machine.get]
    rfl
  · apply TaskContext.ext
    · funext index
      have parkedWord : ∀ slot < 2, parked.mem (wordAddr (machine.r 4 - 12#32) slot) =
          machine.mem (wordAddr (machine.r 0) slot) := fun slot slotLt =>
        (registersParked_word saved slotLt).trans (savedFrame slot (by omega))
      change (if index = 0 then parked.mem (machine.r 4 - 12#32) else
        if index = 1 then parked.mem (machine.r 4 - 12#32 + 4) else
          parked.mem (wordAddr (wordAddr (machine.r 0) 2) (index - 2))) =
        machine.mem (wordAddr (machine.r 0) index)
      split_ifs with isFirst isSecond
      · rw [isFirst, ← wordAddr_zero (machine.r 4 - 12#32)]
        exact parkedWord 0 (by decide)
      · rw [isSecond]
        exact parkedWord 1 (by decide)
      · rw [wordAddr_wordAddr]
        have two : 2 + (index.val - 2) = index.val := by omega
        rw [two]
        exact parkedFrame index (by omega)
    · change wordAddr (wordAddr (machine.r 0) 2) 12 = _
      exact wordAddr_wordAddr _ _ _
    · change parked.mem (wordAddr (wordAddr (machine.r 0) 2) 11) = _
      rw [wordAddr_wordAddr]
      exact parkedFrame 13 (by decide)
    · rfl
    · rfl
  · have kept : ∀ addr, Within (machine.sp .svc - 44#32) 11 addr →
        parked.mem addr = saved.mem addr :=
      fun addr within => registersParked_mem saved (layout.apart addr within)
    refine ⟨⟨?_, ?_, ?_⟩, irqSp, ?_⟩
    · exact sub_eq_wordAddr _ 10 11 (by decide)
    · intro index isSaved
      exact (kept _ ⟨index - 3, by omega, rfl⟩).trans
        (kernelSaved_register machine index isSaved)
    · exact (kept _ ⟨10, by decide, rfl⟩).trans (kernelSaved_link machine bank)
    · exact registersParked_marker saved
  · intro addr outside
    rcases not_or.mp outside with ⟨notKernel, notIrq⟩
    exact (registersParked_mem saved notIrq).trans (kernelSaved_mem machine notKernel)

end ArmKernel.Asm
