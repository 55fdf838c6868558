import ArmKernel.Properties.Panic

/-!
# The end of the main loop

The loop of `main` ends when no task is ready. The idle task is ready until it calls `Exit`,
which it does once `update_idle_task` has told it that no task awaits an event. It is told so
without regard to the tasks that are ready. So a task that is ready when the idle task is told
may await an event afterwards, and the loop then ends under it. This cannot happen if no other
task is ready whenever the idle task is told to exit.
-/

namespace ArmKernel

open LowestBit PartialMachine Placement

/-- The priority that `init` gives the idle task. -/
def idleTaskPriority : Byte := 28

/-- The kernel and the input of each iteration of the loop, up to the last one. -/
def iterations (trace : List (Transition Kernel Activation)) (final : Kernel)
    (activation : Activation) : List (Kernel × Activation) :=
  trace.map (fun transition => (transition.before, transition.input)) ++ [(final, activation)]

/-- The idle task runs and `update_idle_task` has set its exit flag. -/
def exitFlag (kernel : Kernel) (activation : Activation) : Bool :=
  match schedulerGet kernel with
  | some (some active, taken) => active == idleTaskTid &&
      (updateIdleTask taken activation.clockBefore).mem idleTaskExitAddr != 0
  | _ => false

/-- The only system call of the idle task is `Exit`, and it is made only after the idle task
has run with its exit flag set. The Boolean is whether it has before the first iteration. -/
def IdleSpins : Bool → List (Kernel × Activation) → Prop
  | _, [] => True
  | told, (kernel, activation) :: later =>
      (∀ entered call, callOf kernel activation = some (idleTaskTid, entered, call) →
        call = .exit ∧ (told || exitFlag kernel activation) = true) ∧
      IdleSpins (told || exitFlag kernel activation) later

/-- The iteration handles no `Quit`, and does not panic. -/
def Continues (kernel : Kernel) (activation : Activation) : Prop :=
  ∀ entry ∈ kernelEntry kernel activation,
    ¬CallsPanic entry.2.toKernelData entry.1 activation.trap ∧
      activation.trap.call entry.2.toKernelData entry.1 ≠ some .quit

/-- When the idle task is told to exit, no other task is ready. -/
def AloneWhenTold (kernel : Kernel) (activation : Activation) : Prop :=
  exitFlag kernel activation = true → ∀ entry ∈ kernelEntry kernel activation,
    schedulerEmpty entry.2.toKernelData = true

instance (kernel : Kernel) (activation : Activation) : Decidable (Continues kernel activation) := by
  unfold Continues
  cases activation.trap <;> unfold CallsPanic <;> infer_instance

instance (kernel : Kernel) (activation : Activation) :
    Decidable (AloneWhenTold kernel activation) := by
  unfold AloneWhenTold
  infer_instance

theorem updateIdleTask_exit (kernel : Kernel) (curTime : Word) :
    (updateIdleTask kernel curTime).mem idleTaskExitAddr =
      if eventHandlerEmpty kernel.heap then 1 else 0 := by
  have ne0 : idleTaskExitAddr ≠ idleTaskNonIdleTimeAddr := by decide
  have ne1 : idleTaskExitAddr ≠ idleTaskNonIdleTimeAddr + 1 := by decide
  have ne2 : idleTaskExitAddr ≠ idleTaskNonIdleTimeAddr + 2 := by decide
  have ne3 : idleTaskExitAddr ≠ idleTaskNonIdleTimeAddr + 3 := by decide
  simp only [updateIdleTask, Kernel.modify_data, KernelData.setMem, storeWord,
    storeByte_of_ne ne0, storeByte_of_ne ne1, storeByte_of_ne ne2, storeByte_of_ne ne3,
    storeByte_self]

theorem ListKernel.wake_priority (kernel : ListKernel) (event : Word) (ret : ℤ)
    (tasks : List Tid) (task : Tid) :
    ((kernel.wake event ret tasks).tds task).priority = (kernel.tds task).priority := by
  induction tasks generalizing kernel with
  | nil => rfl
  | cons first rest ih => exact (ih _).trans (KernelData.setState_priority _)

/-- The task is in the ready queue of the priority, and the bitmap shows it. -/
def InReady (kernel : ListKernel) (task : Tid) (priority : Byte) : Prop :=
  task ∈ kernel.lists (.priorityQ priority) ∧ kernel.bitmap.getLsbD priority.toNat = true

namespace InReady

variable {kernel : ListKernel} {active task other : Tid} {priority : Byte}

theorem modify (ready : InReady kernel task priority) {change : KernelData → KernelData}
    (sameBitmap : (change kernel.toKernelData).bitmap = kernel.bitmap) :
    InReady (kernel.modify change) task priority :=
  ⟨ready.1, (congrArg (·.getLsbD priority.toNat) sameBitmap).trans ready.2⟩

theorem put (ready : InReady kernel task priority) (other : Tid) :
    InReady (kernel.put other) task priority := by
  refine ⟨ListKernel.mem_put_of_mem ready.1, ?_⟩
  rw [ListKernel.put_bitmap, BitVec.getLsbD_or, ready.2, Bool.true_or]

/-- Changes of the queues that are not ready queues do not matter. -/
theorem setList (ready : InReady kernel task priority) {ctx : QueueRef} (tasks : List Tid)
    (notReady : QueueRef.priorityQ priority ≠ ctx) :
    InReady (kernel.setList ctx tasks) task priority := by
  refine ⟨?_, ready.2⟩
  rw [ListKernel.setList_lists, Function.update_of_ne notReady]
  exact ready.1

theorem wake (ready : InReady kernel task priority) (event : Word) (ret : ℤ) (tasks : List Tid) :
    InReady (kernel.wake event ret tasks) task priority := by
  induction tasks generalizing kernel with
  | nil => exact ready
  | cons first rest ih =>
      apply ih
      apply InReady.put
      apply (ready.setList rest (by simp)).modify
      rfl

theorem create (ready : InReady kernel task priority) (requested : ℤ) (code : Addr) :
    InReady (kernel.create active requested code).2 task priority := by
  rw [ListKernel.create]
  split_ifs with outside full
  · exact ready
  · exact ready
  · have inited : InReady (kernel.modify (taskDescriptorInitData ·
      (BitVec.ofNat 8 kernel.nextFreeTd) (BitVec.ofNat 8 kernel.nextFreeTd)
      (BitVec.ofInt 8 requested) (some active) code))
      task priority := ready.modify rfl
    exact (inited.put _).put active

theorem send (ready : InReady kernel task priority) (tid : Byte) (msg : Addr) (msgLen : Word)
    (rep : Addr) (repLen : Word) :
    InReady (kernel.send active tid msg msgLen rep repLen).2 task priority := by
  rw [ListKernel.send]
  split_ifs with badTid waits mismatch
  · exact ready.put active
  · exact ready.put active
  · have delivered : InReady (kernel.modify (·.deliver active tid msg msgLen)) task priority :=
      ready.modify rfl
    exact (delivered.put tid).modify rfl
  · exact (ready.setList _ (by simp)).modify rfl

theorem receive (ready : InReady kernel task priority) (tid msg : Addr) (msgLen : Word) :
    InReady (kernel.receive active tid msg msgLen).2 task priority := by
  rw [ListKernel.receive]
  split
  · exact ready.modify rfl
  · rename_i sender rest shape
    have left : InReady (kernel.setList (.sendQ active) rest) task priority :=
      ready.setList rest (by simp)
    dsimp only
    split_ifs with mismatch
    · exact left.put active
    · have fetched : InReady ((kernel.setList (.sendQ active) rest).modify
          (·.fetch sender tid msg msgLen)) task priority := left.modify rfl
      exact (fetched.put active).modify rfl

theorem reply (ready : InReady kernel task priority) (tid : Byte) (rep : Addr) (repLen : Word) :
    InReady (kernel.reply active tid rep repLen).2 task priority := by
  rw [ListKernel.reply]
  split_ifs with badTid mismatch
  · exact ready.put active
  · exact ready.put active
  · have answered : InReady (kernel.modify (·.answer tid rep repLen)) task priority :=
      ready.modify rfl
    exact (answered.put tid).put active

/-- A system call that does not panic leaves every ready task in its queue. -/
theorem sysCall (ready : InReady kernel task priority) {call : SysCall}
    (noPanic : ¬(call = .panic ∨ call = .unknown)) :
    InReady (kernel.sysCall active call).2 task priority := by
  have finish : ∀ {result : ℤ × ListKernel}, InReady result.2 task priority →
      InReady (result.2.setReturnValue active result.1) task priority :=
    fun ready => ready.modify rfl
  cases call with
  | exit => exact ready.modify rfl
  | pass => exact finish (ready.put active)
  | create requested code => exact finish (ready.create requested code)
  | mytid => exact finish (ready.put active)
  | parenttid =>
      apply finish
      rw [ListKernel.parenttid]
      split <;> exact ready.put active
  | send tid msg msgLen rep repLen => exact finish (ready.send tid msg msgLen rep repLen)
  | receive tid msg msgLen => exact finish (ready.receive tid msg msgLen)
  | reply tid rep repLen => exact finish (ready.reply tid rep repLen)
  | awaitEvent event =>
      apply finish
      rw [ListKernel.awaitEvent]
      split_ifs with outside
      · exact ready.put active
      · apply (ready.setList _ (by simp)).modify
        exact (KernelData.enableInterrupt_sameTasks event).bitmap
  | panic => exact absurd (.inl rfl) noPanic
  | quit => exact ready
  | unknown => exact absurd (.inr rfl) noPanic

theorem interrupt (ready : InReady kernel task priority) {regs : InterruptRegs}
    (recognised : Recognised regs) :
    InReady (kernel.interrupt active (ListKernel.decodeInterrupt regs)) task priority := by
  rcases recognised.decode with ⟨event, ret, keep1, keep2, decoded⟩
  rw [decoded]
  have masked : InReady (kernel.modify (·.maskInterrupts keep1 keep2)) task priority :=
    ready.modify rfl
  exact (masked.wake event ret _).put active

theorem interrupted {count : ℕ} (running : Running count active kernel) {regs : InterruptRegs}
    (recognised : Recognised regs) :
    InReady (kernel.interrupt active (ListKernel.decodeInterrupt regs)) active
      (kernel.tds active).priority := by
  rcases recognised.decode with ⟨event, ret, keep1, keep2, decoded⟩
  have samePriority : (((kernel.modify (·.maskInterrupts keep1 keep2)).handleEvent event ret).tds
      active).priority = (kernel.tds active).priority := ListKernel.wake_priority _ event ret _ _
  have inRange := running.sound.inRange running.isCreated
  rw [decoded, ListKernel.interrupt]
  refine ⟨?_, ?_⟩
  · rw [← samePriority]
    exact ListKernel.mem_put _ active
  · rw [ListKernel.put_bitmap, samePriority, getLsbD_setBit _ _ inRange]
    simp

theorem get {taken : ListKernel} (ready : InReady kernel task priority)
    (got : kernel.get = some (active, taken)) (activeNe : active ≠ task) :
    InReady taken task priority := by
  rcases ListKernel.get_eq got with ⟨rest, -, shape, rfl⟩
  rcases ready with ⟨taskMem, bit⟩
  rcases eq_or_ne priority (bitmapLeadingzeroes kernel.bitmap) with rfl | priorityNe
  · rw [shape] at taskMem
    have restMem : task ∈ rest := (List.mem_cons.mp taskMem).resolve_left activeNe.symm
    have nonempty : rest ≠ [] := List.ne_nil_of_mem restMem
    refine ⟨?_, ?_⟩
    · simpa [ListKernel.take] using restMem
    · simpa [ListKernel.take, nonempty] using bit
  · have ctxNe : QueueRef.priorityQ priority ≠ .priorityQ (bitmapLeadingzeroes kernel.bitmap) :=
      fun same => priorityNe (QueueRef.priorityQ.inj same)
    refine ⟨?_, ?_⟩
    · simpa [ListKernel.take, ctxNe] using taskMem
    · simp only [ListKernel.take]
      split_ifs with last
      · have inRange : priority.toNat < 64 := by
          by_contra outside
          rw [BitVec.getLsbD_of_ge _ _ (by omega)] at bit
          cases bit
        have toNatNe : priority.toNat ≠ (bitmapLeadingzeroes kernel.bitmap).toNat :=
          fun same => priorityNe (BitVec.eq_of_toNat_eq same)
        rw [getLsbD_clearBit _ _ inRange, bit]
        simpa using toNatNe
      · exact bit

end InReady

theorem Sound.awaitQ_eq_nil {model : ListKernel} {count : ℕ} (sound : Sound count model)
    (nobody : model.noEventWaited = true) (event : Word) : model.lists (.awaitQ event) = [] := by
  apply List.eq_nil_iff_forall_not_mem.mpr
  intro task taskMem
  have inRange : event.toNat < eventHandlerMaxEvents := sound.live taskMem
  have empty := List.all_eq_true.mp nobody event.toNat (List.mem_range.mpr inRange)
  rw [BitVec.ofNat_toNat, BitVec.setWidth_eq, List.isEmpty_iff] at empty
  rw [empty] at taskMem
  cases taskMem

/-- Only the idle task is ready, and no task awaits an event. -/
structure IdleAlone (model : ListKernel) : Prop where
  queue : model.lists (.priorityQ idleTaskPriority) = [idleTaskTid]
  bitmap : model.bitmap = 1#64 <<< idleTaskPriority.toNat
  nobody : model.noEventWaited = true

/-- What holds whenever `scheduler_get` is called: the idle task is ready, and alone after it
was told to exit; and no task that awaits an event is lost. -/
structure IdleInvariant (told : Bool) (model : ListKernel) : Prop where
  ready : InReady model idleTaskTid idleTaskPriority
  located : Located model.nextFreeTd (· = .eventBlocked) (fun _ => False) model
  alone : told = true → IdleAlone model

section Steps

variable {kernel kernel' : Kernel} {model entered : ListKernel} {activation : Activation}
  {active : Tid} {told : Bool}

theorem ListKernel.entry_bitmap (runs : model.entry activation = some (active, entered)) :
    ∃ taken, model.get = some (active, taken) ∧ entered.lists = taken.lists ∧
      entered.bitmap = taken.bitmap := by
  rcases ListKernel.entry_eq runs with ⟨taken, got, rfl, -⟩
  exact ⟨taken, got, rfl, (ListKernel.enterKernel_sameTasks taken active activation).bitmap⟩

theorem ListKernel.entry_priority (runs : model.entry activation = some (active, entered))
    (task : Tid) : (entered.tds task).priority = (model.tds task).priority := by
  rcases ListKernel.entry_eq runs with ⟨taken, got, rfl, -⟩
  rcases ListKernel.get_eq got with ⟨rest, -, -, rfl⟩
  exact (ListKernel.enterKernel_sameTasks _ active activation).priority task

/-- The exit flag is set if the idle task runs and no task awaits an event. -/
theorem Matched.exitFlag_eq (isMatched : Matched kernel model)
    (runs : model.entry activation = some (active, entered)) :
    exitFlag kernel activation = (active == idleTaskTid && entered.noEventWaited) := by
  rcases ListKernel.entry_eq runs with ⟨taken, got, rfl, -⟩
  rcases isMatched.refines.schedulerGet got isMatched.sound with ⟨kernel', done, refines⟩
  have sameWaited : (taken.enterKernel active activation).noEventWaited = taken.noEventWaited :=
    rfl
  rw [exitFlag, done]
  dsimp only
  rw [updateIdleTask_exit, refines.eventHandlerEmpty_eq, sameWaited]
  cases taken.noEventWaited <;> simp

/-- An idle task that is alone is the one that runs, and no other is ready then. -/
theorem IdleAlone.entry (alone : IdleAlone model)
    (runs : model.entry activation = some (active, entered)) :
    active = idleTaskTid ∧ schedulerEmpty entered.toKernelData = true ∧
      entered.noEventWaited = true := by
  rcases ListKernel.entry_bitmap runs with ⟨taken, got, sameLists, sameBitmap⟩
  rcases ListKernel.get_eq got with ⟨rest, -, shape, rfl⟩
  have lowest : bitmapLeadingzeroes model.bitmap = idleTaskPriority := by
    rw [alone.bitmap]
    decide
  rw [lowest, alone.queue] at shape
  rcases List.cons.inj shape with ⟨rfl, rfl⟩
  refine ⟨rfl, ?_, ?_⟩
  · rw [schedulerEmpty, sameBitmap]
    simp only [ListKernel.take, if_true, alone.bitmap]
    decide
  · rw [← alone.nobody, ListKernel.noEventWaited, ListKernel.noEventWaited]
    congr 1
    funext index
    rw [ListKernel.entry_lists runs (by simp)]

/-- If the bitmap is zero while the idle task runs, its ready queue is empty. -/
theorem InReady.queue_empty {kernel taken : ListKernel} {task : Tid} {priority : Byte}
    (ready : InReady kernel task priority) (got : kernel.get = some (task, taken))
    (ownPriority : priority = bitmapLeadingzeroes kernel.bitmap)
    (empty : taken.bitmap = 0) : taken.lists (.priorityQ priority) = [] := by
  rcases ListKernel.get_eq got with ⟨rest, -, shape, rfl⟩
  subst ownPriority
  simp only [ListKernel.take] at empty ⊢
  split_ifs at empty with last
  · simp [last]
  · have bit := ready.2
    rw [empty] at bit
    simp at bit

/-- An interrupt during the idle task puts it back; if no other task was ready and none
awaited an event, it is alone. -/
theorem IdleAlone.interrupt {regs : InterruptRegs}
    (running : Running entered.nextFreeTd idleTaskTid entered)
    (ownPriority : (entered.tds idleTaskTid).priority = idleTaskPriority)
    (empty : schedulerEmpty entered.toKernelData = true)
    (queue : entered.lists (.priorityQ idleTaskPriority) = [])
    (nobody : entered.noEventWaited = true) (recognised : Recognised regs) :
    IdleAlone (entered.interrupt idleTaskTid (ListKernel.decodeInterrupt regs)) := by
  rcases recognised.decode with ⟨event, ret, keep1, keep2, decoded⟩
  have noWaiter := running.sound.awaitQ_eq_nil nobody event
  have zero : entered.bitmap = 0 := by simpa [schedulerEmpty] using empty
  have nothing : (entered.modify (·.maskInterrupts keep1 keep2)).handleEvent event ret =
      entered.modify (·.maskInterrupts keep1 keep2) := by
    rw [ListKernel.handleEvent, ListKernel.modify_lists, noWaiter]
    rfl
  have samePriority : ((entered.modify (·.maskInterrupts keep1 keep2)).tds idleTaskTid).priority =
      idleTaskPriority := ownPriority
  have sameBitmap : (entered.modify (·.maskInterrupts keep1 keep2)).bitmap = 0 := zero
  rw [decoded, ListKernel.interrupt, nothing]
  refine ⟨?_, ?_, ?_⟩
  · rw [ListKernel.put_lists, samePriority]
    simp [queue]
  · rw [ListKernel.put_bitmap, samePriority, sameBitmap]
    decide
  · rw [← nobody, ListKernel.noEventWaited, ListKernel.noEventWaited]
    simp

/-- A system call ends the loop only if it is `Quit`, or an `Exit` when no task is ready. -/
theorem ListKernel.sysCall_stops {kernel : ListKernel} {call : SysCall}
    (stops : (kernel.sysCall active call).1 = true) :
    call = .quit ∨ call = .exit ∧ schedulerEmpty kernel.toKernelData = true := by
  cases call with
  | exit => exact .inr ⟨rfl, stops⟩
  | quit => exact .inl rfl
  | _ => cases stops

/-- A call that is safe and does not panic loses no task that awaits an event. -/
theorem keeping_eventBlocked {call : SysCall} (safe : SafeCall entered.toKernelData call) :
    KeepingCall (· = .eventBlocked) entered active call := by
  refine ⟨safe, ?_⟩
  cases call with
  | create priority code => exact fun ready => nomatch ready
  | receive tid msg msgLen => exact fun receiveBlocked => nomatch receiveBlocked
  | panic => exact fun ready => nomatch ready
  | quit => exact fun ready => nomatch ready
  | unknown => exact fun ready => nomatch ready
  | _ => trivial

/-- What is assumed of an iteration. -/
structure Iterates (told : Bool) (kernel : Kernel) (activation : Activation) : Prop where
  safe : Safe kernel activation
  continues : Continues kernel activation
  alone : AloneWhenTold kernel activation
  idle : ∀ entered call, callOf kernel activation = some (idleTaskTid, entered, call) →
    call = .exit ∧ (told || exitFlag kernel activation) = true

theorem Iterates.keeping (iterates : Iterates told kernel activation)
    (isMatched : Matched kernel model) : model.Keeping (· = .eventBlocked) activation := by
  intro active entered runs
  rcases isMatched.kernelEntry runs with ⟨kernel', enters, -, refines, -⟩
  have safe := iterates.safe active kernel'
  cases trap : activation.trap with
  | swi req =>
      have safeCall := safe _ enters (by rw [trap]; rfl)
      rw [refines.data] at safeCall
      exact keeping_eventBlocked safeCall
  | irq regs => exact fun ready => nomatch ready

/-- When the idle task has been told to exit, it runs alone and no task awaits an event. -/
theorem IdleInvariant.runsAlone (invariant : IdleInvariant told model)
    (isMatched : Matched kernel model) (iterates : Iterates told kernel activation)
    (runs : model.entry activation = some (active, entered))
    (isTold : (told || exitFlag kernel activation) = true) :
    active = idleTaskTid ∧ schedulerEmpty entered.toKernelData = true ∧
      entered.noEventWaited = true ∧ entered.lists (.priorityQ idleTaskPriority) = [] := by
  have flag := isMatched.exitFlag_eq runs
  have alone : active = idleTaskTid ∧ schedulerEmpty entered.toKernelData = true ∧
      entered.noEventWaited = true := by
    cases before : told with
    | true => exact (invariant.alone before).entry runs
    | false =>
        rw [before, Bool.false_or] at isTold
        rcases isMatched.kernelEntry runs with ⟨kernel', enters, -, refines, -⟩
        have empty := iterates.alone isTold (active, kernel') enters
        rw [refines.data] at empty
        rw [flag, Bool.and_eq_true, beq_iff_eq] at isTold
        exact ⟨isTold.1, empty, isTold.2⟩
  rcases alone with ⟨rfl, empty, nobody⟩
  refine ⟨rfl, empty, nobody, ?_⟩
  rcases ListKernel.entry_bitmap runs with ⟨taken, got, sameLists, sameBitmap⟩
  have zero : taken.bitmap = 0 := by
    rw [← sameBitmap]
    simpa [schedulerEmpty] using empty
  rcases ListKernel.get_eq got with ⟨rest, -, shape, -⟩
  have idleMem : idleTaskTid ∈ model.lists (.priorityQ (bitmapLeadingzeroes model.bitmap)) := by
    rw [shape]
    exact List.mem_cons_self
  have ownPriority : idleTaskPriority = bitmapLeadingzeroes model.bitmap :=
    (isMatched.sound.priority invariant.ready.1).symm.trans (isMatched.sound.priority idleMem)
  rw [sameLists]
  exact invariant.ready.queue_empty got ownPriority zero

/-- An iteration after which the loop goes on keeps the invariant. -/
theorem IdleInvariant.step (invariant : IdleInvariant told model)
    (isMatched : Matched kernel model) (iterates : Iterates told kernel activation)
    (goesOn : (model.step activation).1 = false) :
    IdleInvariant (told || exitFlag kernel activation) (model.step activation).2 := by
  have located := Located.step isMatched.sound invariant.located (iterates.keeping isMatched)
  rcases ListKernel.entry_of_step goesOn with ⟨active, entered, runs⟩
  rcases isMatched.kernelEntry runs with ⟨kernel', enters, -, refines, running⟩
  have ownPriority : (entered.tds idleTaskTid).priority = idleTaskPriority :=
    (ListKernel.entry_priority runs idleTaskTid).trans
      (isMatched.sound.priority invariant.ready.1)
  have continues := iterates.continues (active, kernel') enters
  have whenTold := invariant.runsAlone isMatched iterates runs
  rw [ListKernel.step_of_entry runs] at goesOn located ⊢
  cases trap : activation.trap with
  | swi req =>
      have isCall : activation.trap.call kernel'.toKernelData active =
          some (decodeSysCall entered.toKernelData active req) := by
        rw [trap, refines.data]
        rfl
      have calls := callOf_eq_some.mpr ⟨enters, isCall⟩
      have noPanic : ¬(decodeSysCall entered.toKernelData active req = .panic ∨
          decodeSysCall entered.toKernelData active req = .unknown) := by
        rw [trap, refines.data] at continues
        exact continues.1
      rw [trap] at goesOn located
      rcases eq_or_ne active idleTaskTid with rfl | activeNe
      · -- the idle task exits only when it is alone, and this ends the loop
        rcases iterates.idle _ _ calls with ⟨isExit, isTold⟩
        rcases whenTold isTold with ⟨-, empty, -, -⟩
        rw [ListKernel.handle, isExit] at goesOn
        exact absurd (goesOn.symm.trans empty) (by decide)
      · refine ⟨?_, located, fun isTold => absurd (whenTold isTold).1 activeNe⟩
        rcases ListKernel.entry_eq runs with ⟨taken, got, rfl, -⟩
        apply InReady.sysCall _ noPanic
        apply (invariant.ready.get got activeNe).modify
        exact (ListKernel.enterKernel_sameTasks taken active activation).bitmap
  | irq regs =>
      have recognised : Recognised regs := by
        rw [trap] at continues
        exact not_not.mp continues.1
      rw [trap] at located
      rcases eq_or_ne active idleTaskTid with rfl | activeNe
      · refine ⟨?_, located, fun isTold => ?_⟩
        · rw [← ownPriority]
          exact InReady.interrupted running recognised
        · rcases whenTold isTold with ⟨-, empty, nobody, queue⟩
          exact IdleAlone.interrupt running ownPriority empty queue nobody recognised
      · refine ⟨?_, located, fun isTold => absurd (whenTold isTold).1 activeNe⟩
        rcases ListKernel.entry_eq runs with ⟨taken, got, rfl, -⟩
        apply InReady.interrupt _ recognised
        apply (invariant.ready.get got activeNe).modify
        exact (ListKernel.enterKernel_sameTasks taken active activation).bitmap

/-- An iteration that ends the loop leaves no task that awaits an event. -/
theorem IdleInvariant.ends (invariant : IdleInvariant told model)
    (isMatched : Matched kernel model) (iterates : Iterates told kernel activation)
    (stops : (model.step activation).1 = true) {task : Tid}
    (isCreated : Created (model.step activation).2.nextFreeTd task) :
    ((model.step activation).2.tds task).state ≠ .eventBlocked := by
  intro blocked
  have located := Located.step isMatched.sound invariant.located (iterates.keeping isMatched)
  have homed := located.homed task isCreated id blocked
  have nonempty : ∀ {kernel : ListKernel}, InReady kernel idleTaskTid idleTaskPriority →
      schedulerEmpty kernel.toKernelData ≠ true := by
    intro kernel ready empty
    have zero : kernel.bitmap = 0 := by simpa [schedulerEmpty] using empty
    have bit := ready.2
    simp [zero] at bit
  cases runs : model.entry activation with
  | none =>
      rcases isMatched.sound.get_isSome (Bool.eq_false_iff.mpr (nonempty invariant.ready)) with
        ⟨active, taken, got⟩
      simp [ListKernel.entry, got] at runs
  | some result =>
      rcases result with ⟨active, entered⟩
      rcases isMatched.kernelEntry runs with ⟨kernel', enters, -, refines, running⟩
      have continues := iterates.continues (active, kernel') enters
      have whenTold := invariant.runsAlone isMatched iterates runs
      rw [ListKernel.step_of_entry runs] at stops homed blocked
      cases trap : activation.trap with
      | irq regs =>
          rw [trap] at stops
          cases stops
      | swi req =>
          have isCall : activation.trap.call kernel'.toKernelData active =
              some (decodeSysCall entered.toKernelData active req) := by
            rw [trap, refines.data]
            rfl
          rw [trap] at stops homed blocked
          rcases ListKernel.sysCall_stops stops with isQuit | ⟨isExit, empty⟩
          · exact continues.2 (isCall.trans (congrArg some isQuit))
          rcases eq_or_ne active idleTaskTid with rfl | activeNe
          · rcases iterates.idle _ _ (callOf_eq_some.mpr ⟨enters, isCall⟩) with ⟨-, isTold⟩
            rcases whenTold isTold with ⟨-, -, nobody, -⟩
            unfold Homed at homed
            rw [blocked] at homed
            rcases homed with ⟨event, taskMem⟩
            rw [ListKernel.handle, isExit] at taskMem
            have noWaiter := running.sound.awaitQ_eq_nil nobody event
            have waits : task ∈ entered.lists (.awaitQ event) := taskMem
            rw [noWaiter] at waits
            cases waits
          · rcases ListKernel.entry_eq runs with ⟨taken, got, rfl, -⟩
            apply nonempty _ empty
            apply (invariant.ready.get got activeNe).modify
            exact (ListKernel.enterKernel_sameTasks taken active activation).bitmap

end Steps

section Runs

variable {start final stopped : Kernel} {trace : List (Transition Kernel Activation)}
  {activation : Activation}

/-- From every state that satisfies the invariant, the loop ends only when no task awaits an
event. -/
theorem IdleInvariant.run {model : ListKernel} {told : Bool}
    (run : Run mainStep start trace final) (isMatched : Matched start model)
    (invariant : IdleInvariant told model)
    (allowed : ∀ iteration ∈ iterations trace final activation, Safe iteration.1 iteration.2 ∧
      Continues iteration.1 iteration.2 ∧ AloneWhenTold iteration.1 iteration.2)
    (idle : IdleSpins told (iterations trace final activation))
    (ends : loopBody final activation = some (true, stopped)) {task : Tid}
    (isCreated : Created stopped.nextFreeTd task) :
    (stopped.tds task).state ≠ .eventBlocked := by
  induction run generalizing model told with
  | nil start =>
      rcases allowed (start, activation) (by simp [iterations]) with ⟨safe, continues, alone⟩
      have iterates : Iterates told start activation := ⟨safe, continues, alone, idle.1⟩
      rcases isMatched.loopBody safe with ⟨kernel, done, isMatched'⟩
      rcases Prod.mk.inj (Option.some.inj (done.symm.trans ends)) with ⟨stops, rfl⟩
      rw [congrArg KernelData.nextFreeTd isMatched'.refines.data] at isCreated
      rw [isMatched'.refines.sameTds]
      exact invariant.ends isMatched iterates stops isCreated
  | cons first rest ih =>
      rename_i start middle final input trace
      rcases allowed (start, input) (by simp [iterations]) with ⟨safe, continues, alone⟩
      have iterates : Iterates told start input := ⟨safe, continues, alone, idle.1⟩
      rcases isMatched.mainStep first safe with ⟨goesOn, isMatched'⟩
      apply ih isMatched' (invariant.step isMatched iterates goesOn) _ idle.2 ends
      intro iteration iterationMem
      exact allowed iteration (List.mem_cons_of_mem _ iterationMem)

theorem idleInvariant_init (boot : KernelData) (userMain idleMain : Addr) :
    IdleInvariant false (ListKernel.init boot userMain idleMain) where
  ready := by
    have located := init_located boot userMain idleMain fun _ => True
    have isCreated : Created (ListKernel.init boot userMain idleMain).nextFreeTd idleTaskTid :=
      created_two.mpr (.inr rfl)
    have idleReady : idleTaskTid ∈ (ListKernel.init boot userMain idleMain).lists
        (.priorityQ idleTaskPriority) := located.homed idleTaskTid isCreated id trivial
    exact ⟨idleReady, located.complete trivial _ (List.ne_nil_of_mem idleReady)⟩
  located := init_located boot userMain idleMain _
  alone told := nomatch told

/--
If the main loop ends in a run without `Quit` and panics, no task is EVENT_BLOCKED then,
provided that no other task is ready whenever the idle task is told to exit.
-/
theorem run_ends_unawaited {boot : Kernel} {userMain idleMain : Addr}
    (booted : init boot userMain idleMain = some start) (run : Run mainStep start trace final)
    (ends : loopBody final activation = some (true, stopped))
    (safe : ∀ iteration ∈ iterations trace final activation, Safe iteration.1 iteration.2)
    (continues : ∀ iteration ∈ iterations trace final activation,
      Continues iteration.1 iteration.2)
    (idle : IdleSpins false (iterations trace final activation))
    (alone : ∀ iteration ∈ iterations trace final activation,
      AloneWhenTold iteration.1 iteration.2) :
    ∀ task, Created stopped.nextFreeTd task → (stopped.tds task).state ≠ .eventBlocked := by
  intro task isCreated
  rcases init_matched boot userMain idleMain with ⟨kernel, started, isMatched⟩
  rcases Option.some.inj (started.symm.trans booted) with rfl
  exact (idleInvariant_init boot.toKernelData userMain idleMain).run run isMatched
    (fun iteration iterationMem => ⟨safe iteration iterationMem, continues iteration iterationMem,
      alone iteration iterationMem⟩) idle ends isCreated

end Runs

instance : ∀ (told : Bool) (visited : List (Kernel × Activation)),
    Decidable (IdleSpins told visited)
  | _, [] => .isTrue trivial
  | told, (kernel, activation) :: later =>
      have := instDecidableIdleSpins (told || exitFlag kernel activation) later
      have : Decidable (∀ entered call,
          callOf kernel activation = some (idleTaskTid, entered, call) →
          call = .exit ∧ (told || exitFlag kernel activation) = true) :=
        decidable_of_iff (∀ called ∈ callOf kernel activation, called.1 = idleTaskTid →
            called.2.2 = .exit ∧ (told || exitFlag kernel activation) = true)
          ⟨fun all entered call calls => all _ calls rfl,
            fun all ⟨active, entered, call⟩ calls isIdle => all entered call (by
              rw [← isIdle]
              exact calls)⟩
      inferInstanceAs (Decidable (_ ∧ _))

/-- The task that runs calls `Exit`. -/
def exitCall : Activation := callActivation 0 0 0 0

/-- The kernel when the loop ends, if it does. -/
def ended (kernel : Kernel) (activation : Activation) : Kernel :=
  ((loopBody kernel activation).getD (true, kernel)).2

theorem loopBody_ended {kernel : Kernel} {activation : Activation}
    (ends : (loopBody kernel activation).map Prod.fst = some true) :
    loopBody kernel activation = some (true, ended kernel activation) := by
  rcases Option.map_eq_some_iff.mp ends with ⟨⟨stop, kernel'⟩, done, rfl⟩
  rw [ended, done]
  rfl

/-- The first task creates a task, which awaits the timer, and exits. The idle task is interrupted
by the timer, and the task that is woken exits. -/
def awaitThenExit : List Activation :=
  [callActivation 2 0 0 0, callActivation 8 sysCallEventTimer 0 0, exitCall,
    { callActivation 0 0 0 0 with trap := .irq ⟨sysCallEventTimer, 0, 0, 0, 0, 0⟩ }, exitCall]

theorem run_ends_unawaited_woken :
    ((finalOf mainStep zeroedStart (awaitThenExit.take 3)).tds 2).state = .eventBlocked ∧
    ∀ task, Created (ended (finalOf mainStep zeroedStart awaitThenExit) exitCall).nextFreeTd task →
      ((ended (finalOf mainStep zeroedStart awaitThenExit) exitCall).tds task).state ≠
        .eventBlocked := by
  have runs : (record mainStep zeroedStart awaitThenExit).isSome := by decide +kernel
  have booted : init zeroedBoot 0 0 = some zeroedStart := rfl
  refine ⟨by decide +kernel, ?_⟩
  exact run_ends_unawaited booted (Run.of_isSome runs) (loopBody_ended (by decide +kernel))
    (by decide +kernel) (by decide +kernel) (by decide +kernel) (by decide +kernel)

/-- The first task creates a task of the priority of the idle task and exits; the idle task
exits; the new task awaits the timer. -/
def lateAwait : List Activation :=
  [callActivation 2 28 0 0, exitCall, exitCall, callActivation 8 sysCallEventTimer 0 0]

/-- The kernel stops although a task awaits the timer. -/
theorem ends_awaited : ¬∀ (boot start final stopped : Kernel) (userMain idleMain : Addr)
    (trace : List (Transition Kernel Activation)) (activation : Activation),
    init boot userMain idleMain = some start → Run mainStep start trace final →
    loopBody final activation = some (true, stopped) →
    (∀ iteration ∈ iterations trace final activation, Safe iteration.1 iteration.2) →
    (∀ iteration ∈ iterations trace final activation, Continues iteration.1 iteration.2) →
    IdleSpins false (iterations trace final activation) →
    ∀ task, Created stopped.nextFreeTd task → (stopped.tds task).state ≠ .eventBlocked := by
  intro claimed
  have runs : (record mainStep zeroedStart lateAwait).isSome := by decide +kernel
  have booted : init zeroedBoot 0 0 = some zeroedStart := rfl
  exact claimed _ _ _ _ _ _ _ exitCall booted (Run.of_isSome runs)
    (loopBody_ended (by decide +kernel)) (by decide +kernel) (by decide +kernel)
    (by decide +kernel) 2 (by decide +kernel) (by decide +kernel)

end ArmKernel
