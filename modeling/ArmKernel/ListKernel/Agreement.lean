import ArmKernel.ListKernel

/-!
# States that agree but for scratch fields

`message_params` holds the buffer of a task that waits for a message, or the message of a
task that waits to send it. Its fields `tid`, `msg` and `msg_len` are scratch: they matter
only while the task waits, and are stale afterwards. Two states agree if they differ at
most in the scratch fields of some tasks. A reply reads none of these fields, so an
iteration that handles one preserves agreement.
-/

namespace ArmKernel

/-- The descriptor with its scratch fields erased. -/
def TaskDescriptor.withoutScratch (td : TaskDescriptor) : TaskDescriptor :=
  { td with messageParams := { td.messageParams with tid := 0, msg := 0, msgLen := 0 } }

/-- The data differ at most in the scratch fields of the tasks `exempt`. -/
structure KernelData.Agree (exempt : Tid → Prop) (data data' : KernelData) : Prop where
  erased : ∀ task, (data'.tds task).withoutScratch = (data.tds task).withoutScratch
  others : ∀ task, ¬exempt task → data'.tds task = data.tds task
  rest : { data' with tds := data.tds } = data

/-- The states differ at most in the scratch fields of the tasks `exempt`. -/
structure ListKernel.Agree (exempt : Tid → Prop) (kernel kernel' : ListKernel) : Prop where
  lists : kernel'.lists = kernel.lists
  data : KernelData.Agree exempt kernel.toKernelData kernel'.toKernelData

theorem KernelData.rest_of_fields {data data' : KernelData} (frames : data'.frames = data.frames)
    (bitmap : data'.bitmap = data.bitmap) (nextFreeTd : data'.nextFreeTd = data.nextFreeTd)
    (lastIdleTime : data'.lastIdleTime = data.lastIdleTime) (mem : data'.mem = data.mem)
    (uart1Ctlr : data'.uart1Ctlr = data.uart1Ctlr) (uart2Ctlr : data'.uart2Ctlr = data.uart2Ctlr) :
    { data' with tds := data.tds } = data := by
  rw [frames, bitmap, nextFreeTd, lastIdleTime, mem, uart1Ctlr, uart2Ctlr]

namespace KernelData.Agree

variable {exempt : Tid → Prop} {data data' : KernelData}

theorem field {Value : Type} (agree : Agree exempt data data') (field : TaskDescriptor → Value)
    (keeps : ∀ td, field td.withoutScratch = field td) (task : Tid) :
    field (data'.tds task) = field (data.tds task) := by
  rw [← keeps, agree.erased, keeps]

theorem tid (agree : Agree exempt data data') (task : Tid) :
    (data'.tds task).tid = (data.tds task).tid :=
  agree.field TaskDescriptor.tid (fun _ => rfl) task

theorem priority (agree : Agree exempt data data') (task : Tid) :
    (data'.tds task).priority = (data.tds task).priority :=
  agree.field TaskDescriptor.priority (fun _ => rfl) task

theorem rep (agree : Agree exempt data data') (task : Tid) :
    (data'.tds task).messageParams.rep = (data.tds task).messageParams.rep :=
  agree.field (fun td => td.messageParams.rep) (fun _ => rfl) task

theorem repLen (agree : Agree exempt data data') (task : Tid) :
    (data'.tds task).messageParams.repLen = (data.tds task).messageParams.repLen :=
  agree.field (fun td => td.messageParams.repLen) (fun _ => rfl) task

theorem bitmap (agree : Agree exempt data data') : data'.bitmap = data.bitmap := by
  have same := congrArg KernelData.bitmap agree.rest
  exact same

theorem nextFreeTd (agree : Agree exempt data data') : data'.nextFreeTd = data.nextFreeTd := by
  have same := congrArg KernelData.nextFreeTd agree.rest
  exact same

/-- A change of a descriptor that does not concern its scratch fields. -/
theorem modifyTd (agree : Agree exempt data data') (task : Tid)
    (change : TaskDescriptor → TaskDescriptor)
    (commutes : ∀ td, (change td).withoutScratch = change td.withoutScratch) :
    Agree exempt (data.modifyTd task change) (data'.modifyTd task change) where
  erased other := by
    rcases eq_or_ne other task with rfl | otherNe
    · rw [modifyTd_self, modifyTd_self, commutes, commutes, agree.erased]
    · rw [modifyTd_of_ne otherNe, modifyTd_of_ne otherNe, agree.erased]
  others other notExempt := by
    rcases eq_or_ne other task with rfl | otherNe
    · rw [modifyTd_self, modifyTd_self, agree.others other notExempt]
    · rw [modifyTd_of_ne otherNe, modifyTd_of_ne otherNe, agree.others other notExempt]
  rest := congrArg (fun data' : KernelData =>
    { data' with tds := Function.update data.tds task (change (data.tds task)) }) agree.rest

/-- A change of the data that has nothing to do with the descriptors. -/
theorem modifyRest (agree : Agree exempt data data') (change : KernelData → KernelData)
    (keeps : ∀ data, (change data).tds = data.tds)
    (commutes : ∀ data tds, { change data with tds := tds } = change { data with tds := tds }) :
    Agree exempt (change data) (change data') where
  erased task := by rw [keeps, keeps, agree.erased]
  others task notExempt := by rw [keeps, keeps, agree.others task notExempt]
  rest := by rw [keeps, commutes, agree.rest]

theorem decodeSysCall_eq (agree : Agree exempt data data') (active : Tid) (req : Word) :
    decodeSysCall data' active req = decodeSysCall data active req := by
  rw [← agree.rest]
  rfl

theorem setReturnValue (agree : Agree exempt data data') (task : Tid) (ret : ℤ) :
    Agree exempt (taskDescriptorSetReturnValue data task ret)
      (taskDescriptorSetReturnValue data' task ret) :=
  agree.modifyRest (taskDescriptorSetReturnValue · task ret) (fun _ => rfl) fun _ _ => rfl

theorem markReady (agree : Agree exempt data data') (task : Tid) :
    Agree exempt (data.markReady task) (data'.markReady task) := by
  have marked := agree.modifyRest (fun data' =>
    { data' with bitmap := data'.bitmap ||| (1#64 <<< (data.tds task).priority.toNat) })
    (fun _ => rfl) fun _ _ => rfl
  have ready := marked.modifyTd task (fun td => { td with state := .ready }) fun _ => rfl
  rw [KernelData.markReady, KernelData.markReady, agree.priority]
  exact ready

theorem answer (agree : Agree exempt data data') (receiver : Tid) (rep : Addr) (repLen : Word) :
    Agree exempt (data.answer receiver rep repLen) (data'.answer receiver rep repLen) := by
  have copied := agree.modifyRest (fun data' =>
    data'.setMem (memcpy data'.mem (data.tds receiver).messageParams.rep rep repLen))
    (fun _ => rfl) fun _ _ => rfl
  have answered := copied.setReturnValue receiver 0
  rw [KernelData.answer, KernelData.answer, agree.rep]
  exact answered

/-- What a task does until it traps does not depend on scratch fields. -/
theorem enter (agree : Agree exempt data data') (isExit : Byte) (active : Tid)
    (activation : Activation) :
    Agree exempt (data.enter isExit active activation) (data'.enter isExit active activation) := by
  have ran : ∀ {data data' : KernelData}, Agree exempt data data' →
      Agree exempt (activate data active activation) (activate data' active activation) := by
    intro data data' agree
    have saved := agree.modifyTd active (fun descriptor =>
      { descriptor with
        sp := activation.sp
        svcLr := activation.svcLr
        spsr := activation.spsr }) fun _ => rfl
    exact saved.modifyRest (fun data =>
      { data with
        mem := activation.effect data.mem
        frames := Function.update data.frames active activation.frame }) (fun _ => rfl)
      fun _ _ => rfl
  rw [KernelData.enter, KernelData.enter, agree.tid]
  split_ifs
  · have updated := agree.modifyRest (fun data =>
      let mem := storeByte data.mem idleTaskExitAddr isExit
      let nonIdleTime := loadWord mem idleTaskNonIdleTimeAddr +
        (activation.clockBefore - data.lastIdleTime)
      data.setMem (storeWord mem idleTaskNonIdleTimeAddr nonIdleTime)) (fun _ => rfl) fun _ _ => rfl
    exact (ran updated).modifyRest (endIdleTask · activation.clockAfter) (fun _ => rfl)
      fun _ _ => rfl
  · exact ran agree

end KernelData.Agree

namespace ListKernel.Agree

variable {exempt : Tid → Prop} {kernel kernel' : ListKernel}

theorem setReturnValue (agree : Agree exempt kernel kernel') (task : Tid) (ret : ℤ) :
    Agree exempt (kernel.setReturnValue task ret) (kernel'.setReturnValue task ret) :=
  ⟨agree.lists, agree.data.setReturnValue task ret⟩

theorem put (agree : Agree exempt kernel kernel') (task : Tid) :
    Agree exempt (kernel.put task) (kernel'.put task) := by
  refine ⟨?_, agree.data.markReady task⟩
  rw [put_lists, put_lists, agree.lists, agree.data.priority]

theorem reply (agree : Agree exempt kernel kernel') (active : Tid) (tid : Byte) (rep : Addr)
    (repLen : Word) :
    (kernel'.reply active tid rep repLen).1 = (kernel.reply active tid rep repLen).1 ∧
      Agree exempt (kernel.reply active tid rep repLen).2
        (kernel'.reply active tid rep repLen).2 := by
  rw [ListKernel.reply, ListKernel.reply, agree.data.tid, agree.data.repLen]
  split_ifs
  · exact ⟨rfl, agree.put active⟩
  · exact ⟨rfl, agree.put active⟩
  · have answered : Agree exempt (kernel.modify (·.answer tid rep repLen))
        (kernel'.modify (·.answer tid rep repLen)) :=
      ⟨agree.lists, agree.data.answer tid rep repLen⟩
    exact ⟨rfl, (answered.put tid).put active⟩

theorem entry {active : Tid} {entered : ListKernel} {activation : Activation}
    (agree : Agree exempt kernel kernel')
    (runs : kernel.entry activation = some (active, entered)) :
    ∃ entered', kernel'.entry activation = some (active, entered') ∧
      Agree exempt entered entered' := by
  rcases entry_eq runs with ⟨taken, got, rfl, -⟩
  rcases get_eq got with ⟨rest, nonempty, shape, rfl⟩
  have got' : kernel'.get =
      some (active, kernel'.take (bitmapLeadingzeroes kernel.bitmap) rest) := by
    have nonempty' : schedulerEmpty kernel'.toKernelData = false := by
      rwa [schedulerEmpty, agree.data.bitmap]
    simp [get, nonempty', agree.data.bitmap, agree.lists, shape]
  have taken : Agree exempt (kernel.take (bitmapLeadingzeroes kernel.bitmap) rest)
      (kernel'.take (bitmapLeadingzeroes kernel.bitmap) rest) := by
    refine ⟨by rw [take, take, agree.lists], ?_⟩
    exact agree.data.modifyRest (fun data =>
      { data with
        bitmap := if rest = [] then
            data.bitmap &&& ~~~(1#64 <<< (bitmapLeadingzeroes kernel.bitmap).toNat)
          else
            data.bitmap })
      (fun _ => rfl) fun _ _ => rfl
  refine ⟨(kernel'.take (bitmapLeadingzeroes kernel.bitmap) rest).enterKernel active activation,
    by rw [ListKernel.entry, got']; rfl, taken.lists, ?_⟩
  simp only [enterKernel, modify, noEventWaited, taken.lists]
  exact taken.data.enter _ active activation

theorem call_eq (agree : Agree exempt kernel kernel') (trap : Trap) (active : Tid) :
    trap.call kernel'.toKernelData active = trap.call kernel.toKernelData active := by
  cases trap with
  | swi req => exact congrArg some (agree.data.decodeSysCall_eq active req)
  | irq regs => rfl

theorem step {active : Tid} {entered : ListKernel} {activation : Activation} {tid : Byte}
    {rep : Addr} {repLen : Word} (agree : Agree exempt kernel kernel')
    (runs : kernel.entry activation = some (active, entered))
    (isReply : activation.trap.call entered.toKernelData active = some (.reply tid rep repLen)) :
    (kernel'.step activation).1 = (kernel.step activation).1 ∧
      Agree exempt (kernel.step activation).2 (kernel'.step activation).2 := by
  rcases agree.entry runs with ⟨entered', runs', agree'⟩
  have isReply' := (agree'.call_eq activation.trap active).trans isReply
  rcases agree'.reply active tid rep repLen with ⟨sameRet, replied⟩
  rw [step_of_entry runs, step_of_entry runs', handle_of_call isReply, handle_of_call isReply']
  refine ⟨rfl, ?_⟩
  rw [sysCall, sysCall]
  dsimp only
  rw [sameRet]
  exact replied.setReturnValue active _

end ListKernel.Agree

end ArmKernel
