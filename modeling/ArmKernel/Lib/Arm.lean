import Mathlib.Data.BitVec
import Mathlib.Data.List.Basic
import Mathlib.Logic.Function.Basic

/-!
# A small ARM machine

The part of the ARMv4 architecture that code needs which enters and leaves exceptions: the
registers with the banks of the processor modes, the status registers, words in memory, and the
instructions that move all these. Fast interrupts, which have more banked registers, are left out.

A sequence of instructions is a list with labels, and branches go forward. It ends at its last
item, or where it returns from an exception. A step is undefined where the architecture leaves it
undefined, and for addresses that are not aligned.
-/

namespace Arm

abbrev Word := BitVec 32

/-- The bits of a status register that exist: the flags, the interrupt masks and the mode. -/
def psrBits : Word := 0xF00000FF

/-- A program status register. -/
@[ext]
structure Psr where
  word : Word
  implemented : word &&& psrBits = word
  deriving DecidableEq

/-- What a status register holds after a word has been written to it. -/
def Psr.ofWord (word : Word) : Psr :=
  ⟨word &&& psrBits, by rw [BitVec.and_assoc, BitVec.and_self]⟩

def Psr.mode (psr : Psr) : BitVec 5 := psr.word.extractLsb' 0 5

def userMode : BitVec 5 := 0x10
def irqMode : BitVec 5 := 0x12
def svcMode : BitVec 5 := 0x13
def systemMode : BitVec 5 := 0x1F

/-- The stack pointer, the link register and the saved status register belong to a mode. User and
system mode share theirs, and have no saved status register. -/
inductive Bank where
  | user
  | exception (mode : BitVec 5)
  deriving DecidableEq

def Psr.bank (psr : Psr) : Bank :=
  if psr.mode = userMode ∨ psr.mode = systemMode then .user else .exception psr.mode

abbrev Bank.irq : Bank := .exception irqMode
abbrev Bank.svc : Bank := .exception svcMode

instance registers_ne_zero : NeZero 13 := ⟨by decide⟩

/-- The registers that instructions name; the program counter is apart. -/
inductive Reg where
  | r (index : Fin 13)
  | sp
  | lr
  deriving DecidableEq

@[ext]
structure Machine where
  r : Fin 13 → Word
  sp : Bank → Word
  lr : Bank → Word
  spsr : Bank → Psr
  cpsr : Psr
  pc : Word
  /-- The words at the aligned addresses. -/
  mem : Word → Word

inductive Operand where
  | imm (value : Word)
  | reg (source : Reg)

inductive Instr where
  | mov (rd : Reg) (op : Operand)
  | orr (rd rn : Reg) (value : Word)
  | bic (rd rn : Reg) (value : Word)
  | sub (rd rn : Reg) (value : Word)
  | cmp (rn : Reg) (value : Word)
  | mrsCpsr (rd : Reg)
  | mrsSpsr (rd : Reg)
  | msrCpsr (rs : Reg)
  | msrSpsr (rs : Reg)
  /-- `ldr rd, [rn, #offset]` -/
  | ldr (rd rn : Reg) (offset : Word)
  /-- `ldr rd, [rn], #offset` -/
  | ldrPost (rd rn : Reg) (offset : Word)
  /-- `str rd, [rn, #offset]` -/
  | str (rd rn : Reg) (offset : Word)
  /-- `str rd, [rn, #offset]!` -/
  | strPre (rd rn : Reg) (offset : Word)
  /-- `stmfd rn!, {regs}` -/
  | stmfd (rn : Reg) (regs : List Reg)
  /-- `ldmfd rn, {regs}` -/
  | ldmfd (rn : Reg) (regs : List Reg)
  /-- `ldmfd rn!, {regs}` -/
  | ldmfdWriteback (rn : Reg) (regs : List Reg)

inductive Item (Label : Type) where
  | instr (instr : Instr)
  | label (name : Label)
  | b (target : Label)
  | beq (target : Label)
  /-- `movs pc, lr`, the return from an exception. -/
  | movsPcLr

def Aligned (addr : Word) : Prop := addr.toNat % 4 = 0

instance (addr : Word) : Decidable (Aligned addr) := inferInstanceAs (Decidable (_ = _))

/-- The address of a word in a block that begins at `addr`. -/
def wordAddr (addr : Word) (index : ℕ) : Word := addr + BitVec.ofNat 32 (4 * index)

def storeWords (mem : Word → Word) (addr : Word) : List Word → Word → Word
  | [] => mem
  | value :: values => storeWords (Function.update mem addr value) (addr + 4) values

namespace Machine

def get (machine : Machine) : Reg → Word
  | .r index => machine.r index
  | .sp => machine.sp machine.cpsr.bank
  | .lr => machine.lr machine.cpsr.bank

def set (machine : Machine) (reg : Reg) (value : Word) : Machine :=
  match reg with
  | .r index => { machine with r := Function.update machine.r index value }
  | .sp => { machine with sp := Function.update machine.sp machine.cpsr.bank value }
  | .lr => { machine with lr := Function.update machine.lr machine.cpsr.bank value }

def setMem (machine : Machine) (mem : Word → Word) : Machine := { machine with mem := mem }

def setCpsr (machine : Machine) (cpsr : Psr) : Machine := { machine with cpsr := cpsr }

def setSpsr (machine : Machine) (spsr : Psr) : Machine :=
  { machine with spsr := Function.update machine.spsr machine.cpsr.bank spsr }

/-- Registers are loaded from consecutive words. -/
def loadRegs (machine : Machine) (addr : Word) : List Reg → Machine
  | [] => machine
  | reg :: regs => (machine.set reg (machine.mem addr)).loadRegs (addr + 4) regs

end Machine

def Operand.eval (machine : Machine) : Operand → Word
  | .imm value => value
  | .reg source => machine.get source

/-- The flags after the comparison of two words: their difference is negative, is zero, needed no
borrow, is out of the range of the signed words. -/
def compareFlags (left right : Word) : Word :=
  let diff := left - right
  (if diff.msb then 0x80000000 else 0) ||| (if diff = 0 then 0x40000000 else 0) |||
    (if right ≤ left then 0x20000000 else 0) |||
    (if diff.toInt ≠ left.toInt - right.toInt then 0x10000000 else 0)

def Psr.compare (psr : Psr) (left right : Word) : Psr :=
  .ofWord (psr.word &&& 0x0FFFFFFF ||| compareFlags left right)

def Psr.zero (psr : Psr) : Bool := psr.word.getLsbD 30

/-- In user mode an instruction changes nothing but the flags. -/
def Psr.write (psr : Psr) (word : Word) : Psr :=
  if psr.mode = userMode then .ofWord (psr.word &&& 0x0FFFFFFF ||| word &&& 0xF0000000)
  else .ofWord word

def Instr.exec (machine : Machine) : Instr → Option Machine
  | .mov rd op => some (machine.set rd (op.eval machine))
  | .orr rd rn value => some (machine.set rd (machine.get rn ||| value))
  | .bic rd rn value => some (machine.set rd (machine.get rn &&& ~~~value))
  | .sub rd rn value => some (machine.set rd (machine.get rn - value))
  | .cmp rn value => some (machine.setCpsr (machine.cpsr.compare (machine.get rn) value))
  | .mrsCpsr rd => some (machine.set rd machine.cpsr.word)
  | .mrsSpsr rd =>
      if machine.cpsr.bank = .user then none
      else some (machine.set rd (machine.spsr machine.cpsr.bank).word)
  | .msrCpsr rs => some (machine.setCpsr (machine.cpsr.write (machine.get rs)))
  | .msrSpsr rs =>
      if machine.cpsr.bank = .user then none
      else some (machine.setSpsr (.ofWord (machine.get rs)))
  | .ldr rd rn offset =>
      let addr := machine.get rn + offset
      if Aligned addr then some (machine.set rd (machine.mem addr)) else none
  | .ldrPost rd rn offset =>
      let addr := machine.get rn
      if Aligned addr then
        some ((machine.set rn (addr + offset)).set rd (machine.mem addr))
      else
        none
  | .str rd rn offset =>
      let addr := machine.get rn + offset
      if Aligned addr then
        some (machine.setMem (Function.update machine.mem addr (machine.get rd)))
      else
        none
  | .strPre rd rn offset =>
      let addr := machine.get rn + offset
      if Aligned addr then
        some ((machine.setMem (Function.update machine.mem addr (machine.get rd))).set rn addr)
      else
        none
  | .stmfd rn regs =>
      let addr := machine.get rn - BitVec.ofNat 32 (4 * regs.length)
      if Aligned addr then
        some ((machine.setMem (storeWords machine.mem addr (regs.map machine.get))).set rn addr)
      else
        none
  | .ldmfd rn regs =>
      let addr := machine.get rn
      if Aligned addr then some (machine.loadRegs addr regs) else none
  | .ldmfdWriteback rn regs =>
      let addr := machine.get rn
      if Aligned addr then
        some ((machine.set rn (wordAddr addr regs.length)).loadRegs addr regs)
      else
        none

/-- Execute instructions one after the other. -/
def Instr.run (machine : Machine) : List Instr → Option Machine
  | [] => some machine
  | instr :: rest => (instr.exec machine).bind fun next => Instr.run next rest

/-- The return from an exception: the mode of the exception gives way to the one that was saved. -/
def Machine.exceptionReturn (machine : Machine) : Option Machine :=
  if machine.cpsr.bank = .user then none
  else some { machine with pc := machine.get .lr, cpsr := machine.spsr machine.cpsr.bank }

/-- Execute a sequence; after a branch its items are skipped up to the label. -/
def exec {Label : Type} [DecidableEq Label] :
    List (Item Label) → Option Label → Machine → Option Machine
  | [], none, machine => some machine
  | [], some _, _ => none
  | .label name :: rest, some target, machine =>
      exec rest (if name = target then none else some target) machine
  | .instr _ :: rest, some target, machine => exec rest (some target) machine
  | .b _ :: rest, some target, machine => exec rest (some target) machine
  | .beq _ :: rest, some target, machine => exec rest (some target) machine
  | .movsPcLr :: rest, some target, machine => exec rest (some target) machine
  | .label _ :: rest, none, machine => exec rest none machine
  | .instr instr :: rest, none, machine => (instr.exec machine).bind (exec rest none)
  | .b target :: rest, none, machine => exec rest (some target) machine
  | .beq target :: rest, none, machine =>
      exec rest (if machine.cpsr.zero then some target else none) machine
  | .movsPcLr :: _, none, machine => machine.exceptionReturn

/-- The status register when an exception is taken: its mode, with interrupts masked. -/
def Psr.enter (psr : Psr) (mode : BitVec 5) : Psr :=
  .ofWord (psr.word &&& 0xFFFFFF40 ||| 0x80 ||| mode.setWidth 32)

/-- `swi`, where `pc` is the address of the next instruction. -/
def Machine.softwareInterrupt (machine : Machine) : Machine :=
  { machine with
    lr := Function.update machine.lr .svc machine.pc
    spsr := Function.update machine.spsr .svc machine.cpsr
    cpsr := machine.cpsr.enter svcMode
    pc := 0x8 }

/-- A hardware interrupt before the instruction at `pc`. -/
def Machine.interrupt (machine : Machine) : Machine :=
  { machine with
    lr := Function.update machine.lr .irq (machine.pc + 4)
    spsr := Function.update machine.spsr .irq machine.cpsr
    cpsr := machine.cpsr.enter irqMode
    pc := 0x18 }

/-- The second machine may come from the first by executing in user mode: the banks of the
exceptions and all control bits are the same. -/
structure Confined (before after : Machine) : Prop where
  sp : ∀ mode, after.sp (.exception mode) = before.sp (.exception mode)
  lr : ∀ mode, after.lr (.exception mode) = before.lr (.exception mode)
  spsr : ∀ mode, after.spsr (.exception mode) = before.spsr (.exception mode)
  control : after.cpsr.word.extractLsb' 0 8 = before.cpsr.word.extractLsb' 0 8

theorem exec_instrs {Label : Type} [DecidableEq Label] (instrs : List Instr)
    (rest : List (Item Label)) (machine : Machine) :
    exec (instrs.map .instr ++ rest) none machine =
      (Instr.run machine instrs).bind (exec rest none) := by
  induction instrs generalizing machine with
  | nil => rfl
  | cons instr instrs ih =>
      simp only [List.map_cons, List.cons_append, exec, Instr.run, Option.bind_assoc, ih]

section StatusRegisters

variable {psr : Psr} {word : Word}

@[simp]
theorem Psr.ofWord_word (psr : Psr) : Psr.ofWord psr.word = psr := Psr.ext psr.implemented

theorem Psr.ofWord_mode (word : Word) : (Psr.ofWord word).mode = word.extractLsb' 0 5 := by
  have kept : psrBits.extractLsb' 0 5 = BitVec.allOnes 5 := by decide
  rw [Psr.mode, Psr.ofWord, BitVec.extractLsb'_and, kept, BitVec.and_allOnes]

theorem Psr.write_of_ne (privileged : psr.mode ≠ userMode) (word : Word) :
    psr.write word = .ofWord word := if_neg privileged

theorem Psr.enter_mode (psr : Psr) (mode : BitVec 5) : (psr.enter mode).mode = mode := by
  have cleared : (0xFFFFFF40 : Word).extractLsb' 0 5 = 0 := by decide
  have masked : (0x80 : Word).extractLsb' 0 5 = 0 := by decide
  have kept : (mode.setWidth 32).extractLsb' 0 5 = mode := by
    apply BitVec.eq_of_getLsbD_eq
    intro index indexLt
    simp [BitVec.getLsbD_setWidth, indexLt]
    omega
  rw [Psr.enter, Psr.ofWord_mode, BitVec.extractLsb'_or, BitVec.extractLsb'_or,
    BitVec.extractLsb'_and, cleared, masked, kept]
  simp

theorem Psr.bank_of_exception {mode : BitVec 5} (notUser : mode ≠ userMode)
    (notSystem : mode ≠ systemMode) (isMode : psr.mode = mode) : psr.bank = .exception mode := by
  rw [Psr.bank, isMode, if_neg (not_or.mpr ⟨notUser, notSystem⟩)]

theorem Psr.bank_of_user (isUser : psr.mode = userMode) : psr.bank = .user :=
  if_pos (.inl isUser)

theorem Psr.bank_of_system (isSystem : psr.mode = systemMode) : psr.bank = .user :=
  if_pos (.inr isSystem)

theorem compareFlags_mode (left right : Word) :
    (compareFlags left right).extractLsb' 0 5 = 0 := by
  simp only [compareFlags]
  split_ifs <;> decide

theorem compareFlags_zero (left right : Word) :
    (compareFlags left right).getLsbD 30 = decide (left = right) := by
  simp only [compareFlags, sub_eq_zero]
  by_cases same : left = right
  · simp only [if_pos same, decide_eq_true same]
    split_ifs <;> rfl
  · simp only [if_neg same, decide_eq_false same]
    split_ifs <;> rfl

/-- Comparing leaves the mode. -/
theorem Psr.compare_mode (psr : Psr) (left right : Word) :
    (psr.compare left right).mode = psr.mode := by
  have kept : (0x0FFFFFFF : Word).extractLsb' 0 5 = BitVec.allOnes 5 := by decide
  rw [Psr.compare, Psr.ofWord_mode, Psr.mode, BitVec.extractLsb'_or, BitVec.extractLsb'_and, kept,
    compareFlags_mode, BitVec.and_allOnes]
  exact BitVec.or_zero

theorem Psr.compare_zero (psr : Psr) (left right : Word) :
    (psr.compare left right).zero = decide (left = right) := by
  have kept : (0x0FFFFFFF : Word).getLsbD 30 = false := by decide
  have implemented : psrBits.getLsbD 30 = true := by decide
  simp only [Psr.zero, Psr.compare, Psr.ofWord, BitVec.getLsbD_and, BitVec.getLsbD_or,
    compareFlags_zero, kept, implemented, Bool.and_false, Bool.false_or, Bool.and_true]

end StatusRegisters

section Blocks

variable {mem : Word → Word} {addr other : Word} {values : List Word} {index count : ℕ}

/-- The address is one of those of `count` consecutive words. -/
def Within (addr : Word) (count : ℕ) (other : Word) : Prop :=
  ∃ index < count, other = wordAddr addr index

theorem wordAddr_zero (addr : Word) : wordAddr addr 0 = addr := by simp [wordAddr]

theorem wordAddr_succ (addr : Word) (index : ℕ) :
    wordAddr (addr + 4) index = wordAddr addr (index + 1) := by
  simp only [wordAddr]
  bv_omega

theorem wordAddr_injective {left right : ℕ} (leftLt : left < 2 ^ 30) (rightLt : right < 2 ^ 30)
    (same : wordAddr addr left = wordAddr addr right) : left = right := by
  have offsets : BitVec.ofNat 32 (4 * left) = BitVec.ofNat 32 (4 * right) := by
    simpa [wordAddr] using same
  have values := congrArg BitVec.toNat offsets
  rw [BitVec.toNat_ofNat, BitVec.toNat_ofNat, Nat.mod_eq_of_lt (by omega),
    Nat.mod_eq_of_lt (by omega)] at values
  omega

theorem Within.toNat (within : Within addr count other) (fits : addr.toNat + 4 * count ≤ 2 ^ 32) :
    addr.toNat ≤ other.toNat ∧ other.toNat < addr.toNat + 4 * count := by
  rcases within with ⟨index, indexLt, rfl⟩
  rw [wordAddr, BitVec.toNat_add, BitVec.toNat_ofNat]
  omega

theorem Within.succ (within : Within (addr + 4) count other) : Within addr (count + 1) other := by
  rcases within with ⟨index, indexLt, rfl⟩
  exact ⟨index + 1, by omega, wordAddr_succ addr index⟩

theorem storeWords_outside (outside : ¬Within addr values.length other) :
    storeWords mem addr values other = mem other := by
  induction values generalizing mem addr with
  | nil => rfl
  | cons value values ih =>
      rw [storeWords, ih fun within => outside within.succ, Function.update_of_ne]
      rintro rfl
      exact outside ⟨0, Nat.succ_pos _, (wordAddr_zero _).symm⟩

theorem storeWords_inside {value : Word} (fits : values.length ≤ 2 ^ 30)
    (isWord : values[index]? = some value) :
    storeWords mem addr values (wordAddr addr index) = value := by
  induction values generalizing mem addr index with
  | nil => simp at isWord
  | cons first values ih =>
      rw [List.length_cons] at fits
      cases index with
      | zero =>
          rw [storeWords, wordAddr_zero, storeWords_outside, Function.update_self]
          · exact Option.some.inj isWord
          · rintro ⟨later, laterLt, same⟩
            rw [wordAddr_succ] at same
            nth_rewrite 1 [← wordAddr_zero addr] at same
            have := wordAddr_injective (by omega) (by omega) same
            omega
      | succ index =>
          rw [storeWords, ← wordAddr_succ]
          exact ih (by omega) isWord

theorem wordAddr_wordAddr (addr : Word) (first second : ℕ) :
    wordAddr (wordAddr addr first) second = wordAddr addr (first + second) := by
  rw [wordAddr, wordAddr, wordAddr, Nat.mul_add, BitVec.ofNat_add, BitVec.add_assoc]

/-- A block within a block. -/
theorem Within.mono {first total : ℕ} (within : Within (wordAddr addr first) count other)
    (fits : first + count ≤ total) : Within addr total other := by
  rcases within with ⟨index, indexLt, rfl⟩
  exact ⟨first + index, by omega, wordAddr_wordAddr addr first index⟩

theorem aligned_wordAddr (aligned : Aligned addr) (index : ℕ) : Aligned (wordAddr addr index) := by
  rw [Aligned] at aligned ⊢
  rw [wordAddr, BitVec.toNat_add, BitVec.toNat_ofNat]
  omega

theorem aligned_sub (aligned : Aligned addr) (words : ℕ) :
    Aligned (addr - BitVec.ofNat 32 (4 * words)) := by
  rw [Aligned] at aligned ⊢
  rw [BitVec.toNat_sub, BitVec.toNat_ofNat]
  omega

/-- A word below an address, counted from the bottom of a block below it. -/
theorem sub_eq_wordAddr (addr : Word) (words total : ℕ) (le : words ≤ total) :
    addr - BitVec.ofNat 32 (4 * words) =
      wordAddr (addr - BitVec.ofNat 32 (4 * total)) (total - words) := by
  have split : 4 * total = 4 * words + 4 * (total - words) := by omega
  rw [wordAddr, split, BitVec.ofNat_add, sub_add_eq_sub_sub, sub_add_cancel]

theorem add_neg_four (addr : Word) : addr + -4 = addr - 4#32 := (sub_eq_add_neg addr 4).symm

end Blocks

namespace Machine

variable {machine : Machine} {addr : Word} {regs : List Reg}

@[simp]
theorem set_mem (reg : Reg) (value : Word) : (machine.set reg value).mem = machine.mem := by
  cases reg <;> rfl

@[simp]
theorem set_cpsr (reg : Reg) (value : Word) : (machine.set reg value).cpsr = machine.cpsr := by
  cases reg <;> rfl

@[simp]
theorem set_spsr (reg : Reg) (value : Word) : (machine.set reg value).spsr = machine.spsr := by
  cases reg <;> rfl

@[simp]
theorem set_pc (reg : Reg) (value : Word) : (machine.set reg value).pc = machine.pc := by
  cases reg <;> rfl

@[simp]
theorem loadRegs_mem (addr : Word) (regs : List Reg) :
    (machine.loadRegs addr regs).mem = machine.mem := by
  induction regs generalizing machine addr with
  | nil => rfl
  | cons reg regs ih => rw [loadRegs, ih, set_mem]

@[simp]
theorem loadRegs_cpsr (addr : Word) (regs : List Reg) :
    (machine.loadRegs addr regs).cpsr = machine.cpsr := by
  induction regs generalizing machine addr with
  | nil => rfl
  | cons reg regs ih => rw [loadRegs, ih, set_cpsr]

@[simp]
theorem loadRegs_spsr (addr : Word) (regs : List Reg) :
    (machine.loadRegs addr regs).spsr = machine.spsr := by
  induction regs generalizing machine addr with
  | nil => rfl
  | cons reg regs ih => rw [loadRegs, ih, set_spsr]

@[simp]
theorem loadRegs_pc (addr : Word) (regs : List Reg) :
    (machine.loadRegs addr regs).pc = machine.pc := by
  induction regs generalizing machine addr with
  | nil => rfl
  | cons reg regs ih => rw [loadRegs, ih, set_pc]

theorem loadRegs_sp (notListed : .sp ∉ regs) : (machine.loadRegs addr regs).sp = machine.sp := by
  induction regs generalizing machine addr with
  | nil => rfl
  | cons reg regs ih =>
      rcases not_or.mp (mt List.mem_cons.mpr notListed) with ⟨regNe, restNot⟩
      rw [loadRegs, ih restNot]
      cases reg with
      | sp => exact absurd rfl regNe
      | r index => rfl
      | lr => rfl

/-- Each register gets the word at its place in the list. -/
theorem loadRegs_r (nodup : regs.Nodup) (index : Fin 13) :
    (machine.loadRegs addr regs).r index =
      if .r index ∈ regs then machine.mem (wordAddr addr (regs.idxOf (.r index)))
      else machine.r index := by
  induction regs generalizing machine addr with
  | nil => rfl
  | cons reg regs ih =>
      rcases List.nodup_cons.mp nodup with ⟨regNotMem, restNodup⟩
      rw [loadRegs, ih restNodup, set_mem]
      by_cases isFirst : reg = .r index
      · subst isFirst
        rw [if_neg regNotMem, if_pos List.mem_cons_self, List.idxOf_cons_self, wordAddr_zero]
        exact Function.update_self _ _ _
      · have unchanged : (machine.set reg (machine.mem addr)).r index = machine.r index := by
          cases reg with
          | r other =>
              apply Function.update_of_ne
              rintro rfl
              exact isFirst rfl
          | sp => rfl
          | lr => rfl
        have idxOf : (reg :: regs).idxOf (.r index) = regs.idxOf (.r index) + 1 :=
          List.idxOf_cons_ne regs isFirst
        have listed : .r index ∈ reg :: regs ↔ .r index ∈ regs := by
          rw [List.mem_cons, or_iff_right (Ne.symm isFirst)]
        simp only [unchanged, listed, idxOf, wordAddr_succ]

theorem loadRegs_lr (nodup : regs.Nodup) :
    (machine.loadRegs addr regs).lr =
      if .lr ∈ regs then
        Function.update machine.lr machine.cpsr.bank
          (machine.mem (wordAddr addr (regs.idxOf .lr)))
      else
        machine.lr := by
  induction regs generalizing machine addr with
  | nil => rfl
  | cons reg regs ih =>
      rcases List.nodup_cons.mp nodup with ⟨regNotMem, restNodup⟩
      rw [loadRegs, ih restNodup, set_mem, set_cpsr]
      by_cases isFirst : reg = .lr
      · subst isFirst
        rw [if_neg regNotMem, if_pos List.mem_cons_self, List.idxOf_cons_self, wordAddr_zero]
        rfl
      · have unchanged : (machine.set reg (machine.mem addr)).lr = machine.lr := by
          cases reg with
          | r other => rfl
          | sp => rfl
          | lr => exact absurd rfl isFirst
        have idxOf : (reg :: regs).idxOf .lr = regs.idxOf .lr + 1 :=
          List.idxOf_cons_ne regs isFirst
        have listed : .lr ∈ reg :: regs ↔ .lr ∈ regs := by
          rw [List.mem_cons, or_iff_right (Ne.symm isFirst)]
        simp only [unchanged, listed, idxOf, wordAddr_succ]

end Machine

section UserMode

theorem Psr.mode_of_control {psr psr' : Psr}
    (control : psr.word.extractLsb' 0 8 = psr'.word.extractLsb' 0 8) : psr.mode = psr'.mode := by
  have low : ∀ word : Word, (word.extractLsb' 0 8).extractLsb' 0 5 = word.extractLsb' 0 5 := by
    intro word
    rw [BitVec.extractLsb'_extractLsb'_of_le (by decide)]
  rw [Psr.mode, Psr.mode, ← low, control, low]

theorem Psr.ofWord_control (word : Word) :
    (Psr.ofWord word).word.extractLsb' 0 8 = word.extractLsb' 0 8 := by
  have kept : psrBits.extractLsb' 0 8 = BitVec.allOnes 8 := by decide
  rw [Psr.ofWord, BitVec.extractLsb'_and, kept, BitVec.and_allOnes]

/-- A status register gets new flags. -/
theorem Psr.flags_control (psr : Psr) {flags : Word} (isFlags : flags.extractLsb' 0 8 = 0) :
    (Psr.ofWord (psr.word &&& 0x0FFFFFFF ||| flags)).word.extractLsb' 0 8 =
      psr.word.extractLsb' 0 8 := by
  have kept : (0x0FFFFFFF : Word).extractLsb' 0 8 = BitVec.allOnes 8 := by decide
  rw [Psr.ofWord_control, BitVec.extractLsb'_or, BitVec.extractLsb'_and, kept, isFlags,
    BitVec.and_allOnes]
  exact BitVec.or_zero

theorem Psr.compare_control (psr : Psr) (left right : Word) :
    (psr.compare left right).word.extractLsb' 0 8 = psr.word.extractLsb' 0 8 := by
  apply Psr.flags_control
  simp only [compareFlags]
  split_ifs <;> decide

theorem Psr.write_control {psr : Psr} (user : psr.mode = userMode) (word : Word) :
    (psr.write word).word.extractLsb' 0 8 = psr.word.extractLsb' 0 8 := by
  rw [Psr.write, if_pos user]
  apply Psr.flags_control
  have cleared : (0xF0000000 : Word).extractLsb' 0 8 = 0 := by decide
  rw [BitVec.extractLsb'_and, cleared]
  exact BitVec.and_zero

namespace Confined

variable {before middle after : Machine}

theorem refl (machine : Machine) : Confined machine machine :=
  ⟨fun _ => rfl, fun _ => rfl, fun _ => rfl, rfl⟩

theorem trans (first : Confined before middle) (second : Confined middle after) :
    Confined before after where
  sp mode := (second.sp mode).trans (first.sp mode)
  lr mode := (second.lr mode).trans (first.lr mode)
  spsr mode := (second.spsr mode).trans (first.spsr mode)
  control := second.control.trans first.control

theorem mode (confined : Confined before after) : after.cpsr.mode = before.cpsr.mode :=
  Psr.mode_of_control confined.control

theorem setMem (machine : Machine) (mem : Word → Word) : Confined machine (machine.setMem mem) :=
  ⟨fun _ => rfl, fun _ => rfl, fun _ => rfl, rfl⟩

theorem set {machine : Machine} (user : machine.cpsr.mode = userMode) (reg : Reg) (value : Word) :
    Confined machine (machine.set reg value) := by
  have bank : machine.cpsr.bank = .user := Psr.bank_of_user user
  have notUser : ∀ mode, Bank.exception mode ≠ .user := fun mode => by simp
  cases reg with
  | r index => exact ⟨fun _ => rfl, fun _ => rfl, fun _ => rfl, rfl⟩
  | sp =>
      refine ⟨fun mode => ?_, fun _ => rfl, fun _ => rfl, rfl⟩
      simp only [Machine.set, bank]
      exact Function.update_of_ne (notUser mode) _ _
  | lr =>
      refine ⟨fun _ => rfl, fun mode => ?_, fun _ => rfl, rfl⟩
      simp only [Machine.set, bank]
      exact Function.update_of_ne (notUser mode) _ _

theorem loadRegs {machine : Machine} (user : machine.cpsr.mode = userMode) (addr : Word)
    (regs : List Reg) : Confined machine (machine.loadRegs addr regs) := by
  induction regs generalizing machine addr with
  | nil => exact refl machine
  | cons reg regs ih =>
      have first := set user reg (machine.mem addr)
      exact first.trans (ih (by rw [Machine.set_cpsr]; exact user) _)

end Confined

/-- No instruction leads out of user mode, or touches what belongs to an exception. -/
theorem Instr.exec_confined {machine next : Machine} {instr : Instr}
    (user : machine.cpsr.mode = userMode) (done : instr.exec machine = some next) :
    Confined machine next := by
  have bank : machine.cpsr.bank = .user := Psr.bank_of_user user
  have ofSet : ∀ reg value, machine.set reg value = next → Confined machine next := by
    rintro reg value rfl
    exact .set user reg value
  have ofCpsr : ∀ {psr : Psr}, psr.word.extractLsb' 0 8 = machine.cpsr.word.extractLsb' 0 8 →
      machine.setCpsr psr = next → Confined machine next := by
    rintro psr control rfl
    exact ⟨fun _ => rfl, fun _ => rfl, fun _ => rfl, control⟩
  have ofSetMem : ∀ mem reg value, (machine.setMem mem).set reg value = next →
      Confined machine next := by
    rintro mem reg value rfl
    have same : (machine.setMem mem).cpsr.mode = userMode := user
    exact (Confined.setMem machine mem).trans (.set same reg value)
  cases instr with
  | mov rd op => exact ofSet _ _ (Option.some.inj done)
  | orr rd rn value => exact ofSet _ _ (Option.some.inj done)
  | bic rd rn value => exact ofSet _ _ (Option.some.inj done)
  | sub rd rn value => exact ofSet _ _ (Option.some.inj done)
  | cmp rn value => exact ofCpsr (Psr.compare_control _ _ _) (Option.some.inj done)
  | mrsCpsr rd => exact ofSet _ _ (Option.some.inj done)
  | mrsSpsr rd => simp [Instr.exec, bank] at done
  | msrCpsr rs => exact ofCpsr (Psr.write_control user _) (Option.some.inj done)
  | msrSpsr rs => simp [Instr.exec, bank] at done
  | ldr rd rn offset =>
      simp only [Instr.exec, Option.ite_none_right_eq_some, Option.some.injEq] at done
      exact ofSet _ _ done.2
  | ldrPost rd rn offset =>
      simp only [Instr.exec, Option.ite_none_right_eq_some, Option.some.injEq] at done
      rcases done with ⟨-, rfl⟩
      have first := Confined.set user rn (machine.get rn + offset)
      exact first.trans (.set (by rw [Machine.set_cpsr]; exact user) rd _)
  | str rd rn offset =>
      simp only [Instr.exec, Option.ite_none_right_eq_some, Option.some.injEq] at done
      rcases done with ⟨-, rfl⟩
      exact .setMem machine _
  | strPre rd rn offset =>
      simp only [Instr.exec, Option.ite_none_right_eq_some, Option.some.injEq] at done
      exact ofSetMem _ _ _ done.2
  | stmfd rn regs =>
      simp only [Instr.exec, Option.ite_none_right_eq_some, Option.some.injEq] at done
      exact ofSetMem _ _ _ done.2
  | ldmfd rn regs =>
      simp only [Instr.exec, Option.ite_none_right_eq_some, Option.some.injEq] at done
      rcases done with ⟨-, rfl⟩
      exact .loadRegs user _ regs
  | ldmfdWriteback rn regs =>
      simp only [Instr.exec, Option.ite_none_right_eq_some, Option.some.injEq] at done
      rcases done with ⟨-, rfl⟩
      have first := Confined.set user rn (wordAddr (machine.get rn) regs.length)
      exact first.trans (.loadRegs (by rw [Machine.set_cpsr]; exact user) _ regs)

/-- No run of instructions leads out of user mode. -/
theorem Instr.run_confined {machine final : Machine} {instrs : List Instr}
    (user : machine.cpsr.mode = userMode) (done : Instr.run machine instrs = some final) :
    Confined machine final := by
  induction instrs generalizing machine with
  | nil =>
      rcases Option.some.inj done with rfl
      exact .refl machine
  | cons instr instrs ih =>
      rcases Option.bind_eq_some_iff.mp done with ⟨next, first, rest⟩
      have confined := Instr.exec_confined user first
      exact confined.trans (ih (confined.mode.trans user) rest)

end UserMode

end Arm
