import ArmKernel.ListKernel.Frame

/-!
# What every handler keeps of a task

Handling a trap changes the state of tasks, where they wait, and the return values in slot 0 of
their frames. What a task is (its tid, its priority and its parent) and the rest of its context stay
as they are, whatever the trap and whoever is concerned by it.
-/

namespace ArmKernel

open Placement

/-- What the handlers keep of a task. -/
structure KeepsTask (task : Tid) (data data' : KernelData) : Prop where
  tid : (data'.tds task).tid = (data.tds task).tid
  priority : (data'.tds task).priority = (data.tds task).priority
  parent : (data'.tds task).parent = (data.tds task).parent
  sp : (data'.tds task).sp = (data.tds task).sp
  svcLr : (data'.tds task).svcLr = (data.tds task).svcLr
  spsr : (data'.tds task).spsr = (data.tds task).spsr
  frame : ∀ slot, slot ≠ 0 → data'.frames task slot = data.frames task slot

namespace KeepsTask

variable {task other : Tid} {data data' data'' : KernelData}

theorem refl (data : KernelData) : KeepsTask task data data :=
  ⟨rfl, rfl, rfl, rfl, rfl, rfl, fun _ _ => rfl⟩

theorem trans (first : KeepsTask task data data') (second : KeepsTask task data' data'') :
    KeepsTask task data data'' where
  tid := second.tid.trans first.tid
  priority := second.priority.trans first.priority
  parent := second.parent.trans first.parent
  sp := second.sp.trans first.sp
  svcLr := second.svcLr.trans first.svcLr
  spsr := second.spsr.trans first.spsr
  frame slot notReturn := (second.frame slot notReturn).trans (first.frame slot notReturn)

/-- The tables of tasks and of frames are the same. -/
theorem of_same (tds : data'.tds = data.tds) (frames : data'.frames = data.frames) :
    KeepsTask task data data' := by
  refine ⟨?_, ?_, ?_, ?_, ?_, ?_, ?_⟩ <;> simp [tds, frames]

theorem of_untouched {kernel kernel' : ListKernel} (untouched : Untouched task kernel kernel') :
    KeepsTask task kernel.toKernelData kernel'.toKernelData := by
  refine ⟨?_, ?_, ?_, ?_, ?_, ?_, ?_⟩ <;> simp [untouched.td, untouched.frame]

theorem modifyTd (data : KernelData) (other : Tid) {change : TaskDescriptor → TaskDescriptor}
    (tid : ∀ td, (change td).tid = td.tid) (priority : ∀ td, (change td).priority = td.priority)
    (parent : ∀ td, (change td).parent = td.parent) (sp : ∀ td, (change td).sp = td.sp)
    (svcLr : ∀ td, (change td).svcLr = td.svcLr) (spsr : ∀ td, (change td).spsr = td.spsr) :
    KeepsTask task data (data.modifyTd other change) where
  tid := KernelData.modifyTd_field TaskDescriptor.tid change tid data other task
  priority := KernelData.modifyTd_field TaskDescriptor.priority change priority data other task
  parent := KernelData.modifyTd_field TaskDescriptor.parent change parent data other task
  sp := KernelData.modifyTd_field TaskDescriptor.sp change sp data other task
  svcLr := KernelData.modifyTd_field TaskDescriptor.svcLr change svcLr data other task
  spsr := KernelData.modifyTd_field TaskDescriptor.spsr change spsr data other task
  frame _ _ := rfl

theorem setState (data : KernelData) (other : Tid) (state : TaskState) :
    KeepsTask task data (data.setState other state) :=
  modifyTd data other (fun _ => rfl) (fun _ => rfl) (fun _ => rfl) (fun _ => rfl) (fun _ => rfl)
    fun _ => rfl

theorem setMessageParams (data : KernelData) (other : Tid)
    (change : MessageParams → MessageParams) :
    KeepsTask task data (data.setMessageParams other change) :=
  modifyTd data other (fun _ => rfl) (fun _ => rfl) (fun _ => rfl) (fun _ => rfl) (fun _ => rfl)
    fun _ => rfl

theorem setReturnValue (data : KernelData) (other : Tid) (ret : ℤ) :
    KeepsTask task data (taskDescriptorSetReturnValue data other ret) := by
  refine ⟨rfl, rfl, rfl, rfl, rfl, rfl, fun slot notReturn => ?_⟩
  rw [KernelData.setReturnValue_frames]
  rcases eq_or_ne task other with rfl | otherNe
  · rw [Function.update_self, Function.update_of_ne notReturn]
  · rw [Function.update_of_ne otherNe]

end KeepsTask

section Handlers

variable {kernel : ListKernel} {active task : Tid}

/-- Handling keeps the task in the data of the kernel. -/
abbrev ListKernel.Keeps (kernel : ListKernel) (task : Tid) (kernel' : ListKernel) : Prop :=
  KeepsTask task kernel.toKernelData kernel'.toKernelData

theorem put_keeps (kernel : ListKernel) (td : Tid) : kernel.Keeps task (kernel.put td) := by
  have marked : KeepsTask task (kernel.setState td .ready) (kernel.put td).toKernelData :=
    .of_same rfl rfl
  exact (KeepsTask.setState kernel.toKernelData td .ready).trans marked

theorem panic_keeps (kernel : ListKernel) : kernel.Keeps task kernel.panic := .of_same rfl rfl

theorem setReturnValue_keeps (kernel : ListKernel) (td : Tid) (ret : ℤ) :
    kernel.Keeps task (kernel.setReturnValue td ret) :=
  .setReturnValue kernel.toKernelData td ret

theorem deliver_keeps (data : KernelData) (sender receiver : Tid) (msg : Addr) (msgLen : Word) :
    KeepsTask task data (data.deliver sender receiver msg msgLen) := by
  have returned : KeepsTask task data _ := .setReturnValue data receiver (data.tds sender).tid.toNat
  refine ⟨rfl, rfl, rfl, rfl, rfl, rfl, fun slot notReturn => ?_⟩
  rw [KernelData.deliver_frames]
  exact returned.frame slot notReturn

theorem answer_keeps (data : KernelData) (receiver : Tid) (rep : Addr) (repLen : Word) :
    KeepsTask task data (data.answer receiver rep repLen) := by
  have returned : KeepsTask task data _ := .setReturnValue data receiver 0
  refine ⟨rfl, rfl, rfl, rfl, rfl, rfl, fun slot notReturn => ?_⟩
  rw [KernelData.answer_frames]
  exact returned.frame slot notReturn

theorem fetch_keeps (data : KernelData) (sender : Tid) (tid msg : Addr) (msgLen : Word) :
    KeepsTask task data (data.fetch sender tid msg msgLen) := .of_same rfl rfl

theorem recordReply_keeps (data : KernelData) (sender : Tid) (rep : Addr) (repLen : Word) :
    KeepsTask task data (data.recordReply sender rep repLen) := .setMessageParams data sender _

theorem recordMessage_keeps (data : KernelData) (sender : Tid) (msg : Addr) (msgLen : Word) :
    KeepsTask task data (data.recordMessage sender msg msgLen) := .setMessageParams data sender _

theorem recordReceive_keeps (data : KernelData) (receiver : Tid) (tid msg : Addr)
    (msgLen : Word) : KeepsTask task data (data.recordReceive receiver tid msg msgLen) :=
  .setMessageParams data receiver _

/-- The task has been created, so it is not the one that is created now. -/
theorem create_keeps {priority : ℤ} {code : Addr} (isCreated : Created kernel.nextFreeTd task)
    (bounded : kernel.nextFreeTd ≤ taskDescriptorMaxTasks) :
    kernel.Keeps task (kernel.create active priority code).2 := by
  rw [ListKernel.create]
  split_ifs with rejected full
  · exact .refl _
  · exact .refl _
  · obtain ⟨touched, isTouched⟩ : ∃ touched : Tid → Prop, ∀ other, touched other ↔
        other = BitVec.ofNat 8 kernel.nextFreeTd := ⟨_, fun _ => Iff.rfl⟩
    have notNew : ¬touched task := by
      rw [isTouched]
      rintro rfl
      exact not_created_next bounded isCreated
    have filled := Touches.init kernel ((isTouched _).mpr rfl) (BitVec.ofNat 8 kernel.nextFreeTd)
      (BitVec.ofInt 8 priority) (some active) code task notNew
    have ready := ((KeepsTask.of_untouched filled).trans
      (put_keeps _ (BitVec.ofNat 8 kernel.nextFreeTd))).trans (put_keeps _ active)
    exact ready.trans (.of_same rfl rfl)

theorem parenttid_keeps : kernel.Keeps task (kernel.parenttid active).2 := by
  rw [ListKernel.parenttid]
  split <;> exact put_keeps kernel active

theorem send_keeps {tid : Byte} {msg : Addr} {msgLen : Word} {rep : Addr} {repLen : Word} :
    kernel.Keeps task (kernel.send active tid msg msgLen rep repLen).2 := by
  rw [ListKernel.send]
  split_ifs
  · exact put_keeps kernel active
  · exact put_keeps kernel active
  · have delivered : kernel.Keeps task (kernel.modify (·.deliver active tid msg msgLen)) :=
      deliver_keeps _ active tid msg msgLen
    exact ((delivered.trans (put_keeps _ tid)).trans (.setState _ active .replyBlocked)).trans
      (recordReply_keeps _ active rep repLen)
  · have blocked : KeepsTask task kernel.toKernelData _ := .setState _ active .receiveBlocked
    exact (blocked.trans (recordMessage_keeps _ active msg msgLen)).trans
      (recordReply_keeps _ active rep repLen)

theorem receive_keeps {tid msg : Addr} {msgLen : Word} :
    kernel.Keeps task (kernel.receive active tid msg msgLen).2 := by
  rw [ListKernel.receive]
  cases kernel.lists (.sendQ active) with
  | nil =>
      exact (KeepsTask.setState kernel.toKernelData active .sendBlocked).trans
        (recordReceive_keeps _ active tid msg msgLen)
  | cons sender rest =>
      dsimp only
      split_ifs
      · exact put_keeps (kernel.setList (.sendQ active) rest) active
      · have fetched : kernel.Keeps task ((kernel.setList (.sendQ active) rest).modify
            (·.fetch sender tid msg msgLen)) := fetch_keeps _ sender tid msg msgLen
        exact (fetched.trans (put_keeps _ active)).trans (.setState _ sender .replyBlocked)

theorem reply_keeps {tid : Byte} {rep : Addr} {repLen : Word} :
    kernel.Keeps task (kernel.reply active tid rep repLen).2 := by
  rw [ListKernel.reply]
  split_ifs
  · exact put_keeps kernel active
  · exact put_keeps kernel active
  · have answered : kernel.Keeps task (kernel.modify (·.answer tid rep repLen)) :=
      answer_keeps _ tid rep repLen
    exact (answered.trans (put_keeps _ tid)).trans (put_keeps _ active)

theorem awaitEvent_keeps {event : Word} :
    kernel.Keeps task (kernel.awaitEvent active event).2 := by
  rw [ListKernel.awaitEvent]
  split_ifs
  · exact put_keeps kernel active
  · have enabled : KeepsTask task kernel.toKernelData
        (enableInterrupt kernel.toKernelData event) :=
      .of_same (enableInterrupt_tds _ _) (enableInterrupt_frames _ _)
    exact enabled.trans (.setState _ active .eventBlocked)

theorem sysCall_keeps (isCreated : Created kernel.nextFreeTd task)
    (bounded : kernel.nextFreeTd ≤ taskDescriptorMaxTasks) (call : SysCall) :
    kernel.Keeps task (kernel.sysCall active call).2 := by
  have finish : ∀ {result : ℤ × ListKernel}, kernel.Keeps task result.2 →
      kernel.Keeps task (result.2.setReturnValue active result.1) :=
    fun keeps => keeps.trans (setReturnValue_keeps _ active _)
  cases call with
  | exit => exact .setState kernel.toKernelData active .exited
  | pass => exact finish (put_keeps kernel active)
  | create priority code => exact finish (create_keeps isCreated bounded)
  | mytid => exact finish (put_keeps kernel active)
  | parenttid => exact finish parenttid_keeps
  | send tid msg msgLen rep repLen => exact finish send_keeps
  | receive tid msg msgLen => exact finish receive_keeps
  | reply tid rep repLen => exact finish reply_keeps
  | awaitEvent event => exact finish awaitEvent_keeps
  | panic => exact (panic_keeps kernel).trans (setReturnValue_keeps _ active 0)
  | quit => exact .refl _
  | unknown => exact (panic_keeps kernel).trans (setReturnValue_keeps _ active 0)

theorem wake_keeps (kernel : ListKernel) (event : Word) (ret : ℤ) (tasks : List Tid) :
    kernel.Keeps task (kernel.wake event ret tasks) := by
  induction tasks generalizing kernel with
  | nil => exact .refl _
  | cons first rest ih =>
      have left : kernel.Keeps task (kernel.setList (.awaitQ event) rest) := .of_same rfl rfl
      exact ((left.trans (setReturnValue_keeps _ first ret)).trans (put_keeps _ first)).trans (ih _)

theorem interrupt_keeps (kernel : ListKernel) (active : Tid) (cause : ListKernel.Interrupt) :
    kernel.Keeps task (kernel.interrupt active cause) := by
  cases cause with
  | event event ret keep1 keep2 =>
      have masked : kernel.Keeps task (kernel.modify (·.maskInterrupts keep1 keep2)) :=
        .of_same rfl rfl
      exact (masked.trans (wake_keeps _ event ret _)).trans (put_keeps _ active)
  | spurious =>
      have woken : kernel.Keeps task (kernel.panic.handleEvent sysCallEventTimer 0) :=
        (panic_keeps kernel).trans (wake_keeps _ sysCallEventTimer 0 _)
      exact woken.trans (put_keeps _ active)
  | unexpected =>
      exact (panic_keeps kernel).trans (put_keeps _ active)

/-- Whatever the trap, the handler keeps every task that has been created. -/
theorem handle_keeps (isCreated : Created kernel.nextFreeTd task)
    (bounded : kernel.nextFreeTd ≤ taskDescriptorMaxTasks) (trap : Trap) :
    kernel.Keeps task (kernel.handle active trap).2 := by
  cases trap with
  | swi req => exact sysCall_keeps isCreated bounded _
  | irq regs => exact interrupt_keeps kernel active _

/-- A task is created by a call only if it is the new task of an accepted `Create`. -/
theorem created_sysCall {call : SysCall}
    (isCreated : Created (kernel.sysCall active call).2.nextFreeTd task) :
    Created kernel.nextFreeTd task ∨ ∃ priority code, call = .create priority code ∧
      ¬(priority < 0 ∨ priority > 63) ∧ ¬kernel.nextFreeTd ≥ taskDescriptorMaxTasks ∧
      task = BitVec.ofNat 8 kernel.nextFreeTd := by
  cases call with
  | create priority code =>
      change Created (kernel.create active priority code).2.nextFreeTd task at isCreated
      rw [ListKernel.create] at isCreated
      split_ifs at isCreated with rejected full
      · exact .inl isCreated
      · exact .inl isCreated
      · rcases (created_succ (not_le.mp full)).mp isCreated with old | isNew
        · exact .inl old
        · exact .inr ⟨priority, code, rfl, rejected, full, isNew⟩
  | parenttid => exact .inl (ListKernel.parenttid_nextFreeTd kernel active ▸ isCreated)
  | send tid msg msgLen rep repLen =>
      exact .inl (ListKernel.send_nextFreeTd kernel active tid msg msgLen rep repLen ▸ isCreated)
  | receive tid msg msgLen =>
      exact .inl (ListKernel.receive_nextFreeTd kernel active tid msg msgLen ▸ isCreated)
  | reply tid rep repLen =>
      exact .inl (ListKernel.reply_nextFreeTd kernel active tid rep repLen ▸ isCreated)
  | awaitEvent event =>
      exact .inl (ListKernel.awaitEvent_nextFreeTd kernel active event ▸ isCreated)
  | _ => exact .inl isCreated

theorem created_new {priority : ℤ} {code : Addr} (accepted : ¬(priority < 0 ∨ priority > 63))
    (room : ¬kernel.nextFreeTd ≥ taskDescriptorMaxTasks)
    (isNew : task = BitVec.ofNat 8 kernel.nextFreeTd) :
    Created (kernel.sysCall active (.create priority code)).2.nextFreeTd task := by
  have counted : (kernel.sysCall active (.create priority code)).2.nextFreeTd =
      kernel.nextFreeTd + 1 := by
    simp only [ListKernel.sysCall, ListKernel.create, if_neg accepted, if_neg room]
    rfl
  rw [counted]
  exact (created_succ (not_le.mp room)).mpr (.inr isNew)

/-- The new task is as `task_descriptor_init` left it. -/
theorem create_keeps_new {priority : ℤ} {code : Addr} (accepted : ¬(priority < 0 ∨ priority > 63))
    (room : ¬kernel.nextFreeTd ≥ taskDescriptorMaxTasks)
    (isNew : task = BitVec.ofNat 8 kernel.nextFreeTd) :
    KeepsTask task (taskDescriptorInitData kernel.toKernelData task task
        (BitVec.ofInt 8 priority) (some active) code)
      (kernel.sysCall active (.create priority code)).2.toKernelData := by
  let filled := kernel.modify (taskDescriptorInitData · task task (BitVec.ofInt 8 priority)
    (some active) code)
  have queued : filled.Keeps task ((filled.put task).put active) :=
    (put_keeps filled task).trans (put_keeps _ active)
  have counted : ((filled.put task).put active).Keeps task
      { (filled.put task).put active with
        nextFreeTd := ((filled.put task).put active).nextFreeTd + 1 } := .of_same rfl rfl
  have finished := (queued.trans counted).trans (setReturnValue_keeps _ active task.toNat)
  simp only [ListKernel.sysCall, ListKernel.create, if_neg accepted, if_neg room, ← isNew]
  exact finished

/-- What the handlers keep, and what holds of a new task, holds of every task after a trap. -/
theorem handle_forall_created {fact : KernelData → Tid → Prop}
    (kept : ∀ {data data' task}, KeepsTask task data data' → fact data task → fact data' task)
    (fresh : ∀ priority code, ¬(priority < 0 ∨ priority > 63) →
      fact (taskDescriptorInitData kernel.toKernelData (BitVec.ofNat 8 kernel.nextFreeTd)
        (BitVec.ofNat 8 kernel.nextFreeTd) (BitVec.ofInt 8 priority) (some active) code)
        (BitVec.ofNat 8 kernel.nextFreeTd))
    (bounded : kernel.nextFreeTd ≤ taskDescriptorMaxTasks)
    (before : ∀ task, Created kernel.nextFreeTd task → fact kernel.toKernelData task)
    (trap : Trap) (isCreated : Created (kernel.handle active trap).2.nextFreeTd task) :
    fact (kernel.handle active trap).2.toKernelData task := by
  have old : Created kernel.nextFreeTd task →
      fact (kernel.handle active trap).2.toKernelData task := fun wasCreated =>
    kept (handle_keeps wasCreated bounded trap) (before task wasCreated)
  cases trap with
  | irq regs => exact old (ListKernel.interrupt_nextFreeTd kernel active _ ▸ isCreated)
  | swi req =>
      rcases created_sysCall isCreated with wasCreated |
        ⟨priority, code, isCreate, accepted, room, isNew⟩
      · exact old wasCreated
      · subst isNew
        rw [ListKernel.handle, isCreate]
        exact kept (create_keeps_new accepted room rfl) (fresh priority code accepted)

end Handlers

/-- `init` queues the two tasks as `task_descriptor_init` left them. -/
theorem start_keeps_init (boot : KernelData) (userMain idleMain : Addr) (task : Tid) :
    (ListKernel.start boot userMain idleMain).Keeps task
      (ListKernel.init boot userMain idleMain) := by
  have queued : (ListKernel.start boot userMain idleMain).Keeps task
      (((ListKernel.start boot userMain idleMain).put 0).put idleTaskTid) :=
    (put_keeps _ 0).trans (put_keeps _ idleTaskTid)
  exact queued.trans (.of_same rfl rfl)

end ArmKernel
