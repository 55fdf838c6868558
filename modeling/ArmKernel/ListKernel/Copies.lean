import ArmKernel.MainLoop

/-!
# What the kernel copies

The kernel writes to the memory of tasks when it hands over a message or a reply, and only then:
it fills the buffer that a task lent to it from the buffer of another one, and the cell for the tid
of a sender.
-/

namespace ArmKernel

open PartialMachine Placement

structure Copy where
  dest : Addr
  src : Addr
  len : Word
  /-- Where the tid of the sender goes, if this is a message. -/
  cell : Option Addr

/-- What the kernel copies in the call, if anything. -/
def copyOf (data : KernelData) (queues : QueueRef → List Tid) (active : Tid) :
    SysCall → Option Copy
  | .send tid msg msgLen _ _ =>
      let params := (data.tds tid).messageParams
      if (data.tds tid).tid = tid ∧ (data.tds tid).state = .sendBlocked ∧
          params.msgLen = msgLen then
        some ⟨params.msg, msg, msgLen, some params.tid⟩
      else
        none
  | .receive tid msg msgLen => do
      let sender ← (queues (.sendQ active)).head?
      let params := (data.tds sender).messageParams
      if params.msgLen = msgLen then some ⟨msg, params.msg, msgLen, some tid⟩ else none
  | .reply tid rep repLen =>
      let params := (data.tds tid).messageParams
      if (data.tds tid).tid = tid ∧ params.repLen = repLen then
        some ⟨params.rep, rep, repLen, none⟩
      else
        none
  | _ => none

namespace Copy

variable {copy : Copy} {mem : Mem} {addr : Addr}

def Fills (copy : Copy) (addr : Addr) : Prop :=
  addr ∈ copy.cell ∨ ¬Outside addr copy.dest copy.len

/-- The cell for the tid, if there is one, is none of the bytes of the buffer. -/
def CellOutside (copy : Copy) (addr : Addr) (length : Word) : Prop :=
  copy.cell.all fun cell => Outside cell addr length

instance (copy : Copy) (addr : Addr) (length : Word) : Decidable (copy.CellOutside addr length) :=
  inferInstanceAs (Decidable (_ = true))

theorem CellOutside.outside {cell : Addr} {length : Word}
    (cellOutside : copy.CellOutside addr length) (isCell : cell ∈ copy.cell) :
    Outside cell addr length := by
  rw [CellOutside, Option.mem_def.mp isCell] at cellOutside
  exact of_decide_eq_true cellOutside

/-- No byte of the buffer is written. -/
def LeavesAlone (copy : Copy) (addr : Addr) (length : Word) : Prop :=
  Apart copy.dest copy.len addr length ∧ copy.CellOutside addr length

instance (copy : Copy) (addr : Addr) (length : Word) :
    Decidable (copy.LeavesAlone addr length) := by
  unfold LeavesAlone
  infer_instance

/-- The buffer that is filled has no byte in common with the one it is filled from, nor with the
cell for the tid. -/
def Separate (copy : Copy) : Prop :=
  Apart copy.dest copy.len copy.src copy.len ∧ copy.CellOutside copy.dest copy.len

instance (copy : Copy) : Decidable copy.Separate := by
  unfold Separate
  infer_instance

theorem LeavesAlone.not_fills {length : Word} (alone : copy.LeavesAlone addr length) {index : ℕ}
    (indexLt : index < length.toNat) : ¬copy.Fills (byteAddr addr index) := by
  rintro (isCell | inside)
  · exact alone.2.outside isCell index indexLt rfl
  · apply inside
    exact fun own ownLt same => alone.1 own ownLt index indexLt same.symm

theorem fills_of_memcpy (written : memcpy mem copy.dest copy.src copy.len addr ≠ mem addr) :
    copy.Fills addr :=
  .inr fun outside => written (memcpyLoop_outside outside)

theorem fills_of_message {sender : Byte} {cell : Addr} (isCell : cell ∈ copy.cell)
    (written : storeByte (memcpy mem copy.dest copy.src copy.len) cell sender addr ≠ mem addr) :
    copy.Fills addr := by
  rcases eq_or_ne addr cell with rfl | notCell
  · exact .inl isCell
  · rw [storeByte_of_ne notCell] at written
    exact fills_of_memcpy written

end Copy

theorem enableInterrupt_mem (data : KernelData) (event : Word) :
    (enableInterrupt data event).mem = data.mem := by
  rw [enableInterrupt]
  split_ifs <;> rfl

namespace ListKernel

variable {kernel : ListKernel} {active : Tid} {addr : Addr}

/-- A call writes only what it copies. -/
theorem sysCall_fills {call : SysCall}
    (written : (kernel.sysCall active call).2.mem addr ≠ kernel.mem addr) :
    ∃ copy ∈ copyOf kernel.toKernelData kernel.lists active call, copy.Fills addr := by
  cases call with
  | send tid msg msgLen rep repLen =>
      change (kernel.send active tid msg msgLen rep repLen).2.mem addr ≠ _ at written
      rw [send] at written
      split_ifs at written with badTid waits mismatch
      · exact absurd rfl written
      · exact absurd rfl written
      · have sameLen := not_not.mp mismatch
        refine ⟨_, if_pos ⟨not_not.mp badTid, waits, sameLen⟩, ?_⟩
        exact Copy.fills_of_message rfl written
      · exact absurd rfl written
  | receive tid msg msgLen =>
      change (kernel.receive active tid msg msgLen).2.mem addr ≠ _ at written
      rw [receive] at written
      cases queue : kernel.lists (.sendQ active) with
      | nil =>
          rw [queue] at written
          exact absurd rfl written
      | cons sender rest =>
          rw [queue] at written
          dsimp only at written
          split_ifs at written with mismatch
          · exact absurd rfl written
          · have sameLen : (kernel.tds sender).messageParams.msgLen = msgLen := not_not.mp mismatch
            refine ⟨⟨msg, (kernel.tds sender).messageParams.msg, msgLen, some tid⟩, ?_, ?_⟩
            · simp [copyOf, queue, sameLen]
            · exact Copy.fills_of_message rfl written
  | reply tid rep repLen =>
      change (kernel.reply active tid rep repLen).2.mem addr ≠ _ at written
      rw [reply] at written
      split_ifs at written with badTid mismatch
      · exact absurd rfl written
      · exact absurd rfl written
      · refine ⟨_, if_pos ⟨not_not.mp badTid, not_not.mp mismatch⟩, ?_⟩
        exact Copy.fills_of_memcpy written
  | create priority code =>
      change (kernel.create active priority code).2.mem addr ≠ _ at written
      rw [create] at written
      split_ifs at written <;> exact absurd rfl written
  | parenttid =>
      change (kernel.parenttid active).2.mem addr ≠ _ at written
      rw [parenttid] at written
      split at written <;> exact absurd rfl written
  | awaitEvent event =>
      change (kernel.awaitEvent active event).2.mem addr ≠ _ at written
      rw [awaitEvent] at written
      split_ifs at written
      · exact absurd rfl written
      · exact absurd (congrFun (enableInterrupt_mem _ _) addr) written
  | _ => exact absurd rfl written

theorem wake_mem (kernel : ListKernel) (event : Word) (ret : ℤ) (tasks : List Tid) :
    (kernel.wake event ret tasks).mem = kernel.mem := by
  induction tasks generalizing kernel with
  | nil => rfl
  | cons first rest ih => exact ih _

theorem interrupt_mem (kernel : ListKernel) (active : Tid) (cause : Interrupt) :
    (kernel.interrupt active cause).mem = kernel.mem := by
  cases cause with
  | event event ret keep1 keep2 => exact wake_mem _ event ret _
  | spurious => exact wake_mem _ sysCallEventTimer 0 _
  | unexpected => rfl

end ListKernel

/-- What the kernel copies in this step, if anything. -/
def copied (transition : Transition Kernel Activation) : Option Copy := do
  let (active, entered, call) ← callOf transition.before transition.input
  copyOf entered.toKernelData (queueTasks entered.heap) active call

section Steps

variable {kernel kernel' entered : Kernel} {model model' : ListKernel} {activation : Activation}
  {active : Tid} {call : SysCall}

theorem Refines.copyOf_eq {count : ℕ} (refines : Refines count entered model')
    (isLive : Live count (.sendQ active)) :
    copyOf entered.toKernelData (queueTasks entered.heap) active call =
      copyOf model'.toKernelData model'.lists active call := by
  cases call with
  | receive tid msg msgLen =>
      simp only [copyOf, refines.queueTasks_eq _ isLive, refines.sameTds]
  | _ => simp only [copyOf, refines.sameTds]

theorem copied_eq (calls : callOf kernel activation = some (active, entered, call)) :
    copied ⟨kernel, activation, kernel'⟩ =
      copyOf entered.toKernelData (queueTasks entered.heap) active call := by
  rw [copied, calls]
  rfl

/-- While a trap is handled, only what the kernel copies is written. -/
theorem Matched.copied_of_written (isMatched : Matched kernel model)
    (isMatched' : Matched kernel' (model.step activation).2)
    (enters : ArmKernel.kernelEntry kernel activation = some (active, entered)) {addr : Addr}
    (written : kernel'.mem addr ≠ entered.mem addr) :
    ∃ copy ∈ copied ⟨kernel, activation, kernel'⟩, copy.Fills addr := by
  rcases isMatched.entered enters with ⟨model', runs, -, refines, running⟩
  rw [isMatched'.refines.data, refines.data, ListKernel.step_of_entry runs] at written
  cases trap : activation.trap with
  | irq regs =>
      rw [trap, ListKernel.handle, ListKernel.interrupt_mem] at written
      exact absurd rfl written
  | swi req =>
      have calls : callOf kernel activation =
          some (active, entered, decodeSysCall entered.toKernelData active req) := by
        apply callOf_eq_some.mpr
        rw [trap]
        exact ⟨enters, rfl⟩
      rw [copied_eq calls, refines.copyOf_eq running.isCreated, refines.data]
      rw [trap] at written
      exact ListKernel.sysCall_fills written

/-- A buffer that nothing is copied to keeps its contents while a trap is handled. -/
theorem Matched.bytesAt_handled (isMatched : Matched kernel model)
    (isMatched' : Matched kernel' (model.step activation).2)
    (enters : ArmKernel.kernelEntry kernel activation = some (active, entered)) {addr : Addr}
    {length : Word}
    (alone : ∀ copy ∈ copied ⟨kernel, activation, kernel'⟩, copy.LeavesAlone addr length) :
    bytesAt kernel'.mem addr length = bytesAt entered.mem addr length := by
  apply List.map_congr_left
  intro index indexMem
  by_contra written
  rcases isMatched.copied_of_written isMatched' enters written with ⟨copy, isCopied, fills⟩
  exact (alone copy isCopied).not_fills (List.mem_range.mp indexMem) fills

/-- A buffer that is written neither before the trap nor while it is handled. -/
theorem Matched.bytesAt_step (isMatched : Matched kernel model)
    (isMatched' : Matched kernel' (model.step activation).2) {addr : Addr} {length : Word}
    (stores : ∀ entry ∈ ArmKernel.kernelEntry kernel activation,
      bytesAt entry.2.mem addr length = bytesAt kernel.mem addr length)
    (buffers : ∀ copy ∈ copied ⟨kernel, activation, kernel'⟩, copy.LeavesAlone addr length) :
    bytesAt kernel'.mem addr length = bytesAt kernel.mem addr length := by
  cases runs : model.entry activation with
  | none =>
      have same := isMatched'.refines.data
      rw [ListKernel.step, runs] at same
      rw [congrArg KernelData.mem (same.trans isMatched.refines.data.symm)]
  | some result =>
      rcases isMatched.kernelEntry runs with ⟨entered, enters, -⟩
      exact (isMatched.bytesAt_handled isMatched' enters buffers).trans (stores _ enters)

end Steps

end ArmKernel
