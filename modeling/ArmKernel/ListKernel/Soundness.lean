import ArmKernel.ListKernel

/-!
# Soundness of the queues

What holds of the lists of tasks whenever `scheduler_get` is called, whatever the tasks
did before: a task is in at most one queue and then in the state that the queue is for,
in the ready queue of its own priority; descriptors carry their own index as tid; the
send queue of a task that waits in `Receive` is empty; a bit of the bitmap is set only
for a ready queue that has a task. A task that is in no queue may be in any state: that
every task is where its state says needs more than soundness.

`Sound` is stated for the first `count` descriptors, which is `nextFreeTd` except within
`Create`. It is kept by every system call that is `Safe` and by every interrupt.
-/

namespace ArmKernel

open LowestBit Placement

/-- The two states agree on everything that decides in which queue a task may be. -/
structure KernelData.SameTasks (data data' : KernelData) : Prop where
  tid : ∀ task, (data'.tds task).tid = (data.tds task).tid
  priority : ∀ task, (data'.tds task).priority = (data.tds task).priority
  state : ∀ task, (data'.tds task).state = (data.tds task).state
  bitmap : data'.bitmap = data.bitmap

/-- The call is answered or acts on a task that can take part in it: a target that passes
the check of its tid has been created, and a reply that passes the check of its length is
for a task that waits for one. -/
def SafeCall (data : KernelData) : SysCall → Prop
  | .send tid _ _ _ _ => (data.tds tid).tid = tid → Created data.nextFreeTd tid
  | .reply tid _ repLen => (data.tds tid).tid = tid → Created data.nextFreeTd tid ∧
      ((data.tds tid).messageParams.repLen = repLen → (data.tds tid).state = .replyBlocked)
  | _ => True

instance (data : KernelData) (call : SysCall) : Decidable (SafeCall data call) := by
  cases call <;> unfold SafeCall <;> infer_instance

namespace KernelData

variable {data data' : KernelData} {task other : Tid}

theorem SameTasks.refl (data : KernelData) : SameTasks data data :=
  ⟨fun _ => rfl, fun _ => rfl, fun _ => rfl, rfl⟩

theorem SameTasks.trans {data'' : KernelData} (first : SameTasks data data')
    (second : SameTasks data' data'') : SameTasks data data'' where
  tid task := (second.tid task).trans (first.tid task)
  priority task := (second.priority task).trans (first.priority task)
  state task := (second.state task).trans (first.state task)
  bitmap := second.bitmap.trans first.bitmap

theorem modifyTd_sameTasks (data : KernelData) (task : Tid)
    (change : TaskDescriptor → TaskDescriptor)
    (tid : ∀ td, (change td).tid = td.tid) (priority : ∀ td, (change td).priority = td.priority)
    (state : ∀ td, (change td).state = td.state) : SameTasks data (data.modifyTd task change) :=
  ⟨modifyTd_field _ change tid data task, modifyTd_field _ change priority data task,
    modifyTd_field _ change state data task, rfl⟩

theorem setReturnValue_sameTasks {ret : ℤ} :
    SameTasks data (taskDescriptorSetReturnValue data task ret) :=
  ⟨fun _ => rfl, fun _ => rfl, fun _ => rfl, rfl⟩

theorem setMessageParams_sameTasks (change : MessageParams → MessageParams) :
    SameTasks data (data.setMessageParams task change) :=
  modifyTd_sameTasks data task _ (fun _ => rfl) (fun _ => rfl) fun _ => rfl

theorem recordReply_sameTasks (rep : Addr) (repLen : Word) :
    SameTasks data (data.recordReply task rep repLen) :=
  setMessageParams_sameTasks _

theorem recordMessage_sameTasks (msg : Addr) (msgLen : Word) :
    SameTasks data (data.recordMessage task msg msgLen) :=
  setMessageParams_sameTasks _

theorem recordReceive_sameTasks (tid msg : Addr) (msgLen : Word) :
    SameTasks data (data.recordReceive task tid msg msgLen) :=
  setMessageParams_sameTasks _

/-- What a task does until it traps leaves all tasks where they are. -/
theorem enter_sameTasks (isExit : Byte) (activation : Activation) :
    SameTasks data (data.enter isExit task activation) := by
  have ran : ∀ data : KernelData, SameTasks data (activate data task activation) := fun data =>
    have saved := modifyTd_sameTasks data task (fun descriptor =>
      { descriptor with
        sp := activation.sp
        svcLr := activation.svcLr
        spsr := activation.spsr }) (fun _ => rfl) (fun _ => rfl) fun _ => rfl
    ⟨saved.tid, saved.priority, saved.state, rfl⟩
  by_cases isIdle : (data.tds task).tid = idleTaskTid
  · simp only [enter, isIdle, if_true]
    have same := ran (data.setMem (storeWord (storeByte data.mem idleTaskExitAddr isExit)
      idleTaskNonIdleTimeAddr (loadWord (storeByte data.mem idleTaskExitAddr isExit)
        idleTaskNonIdleTimeAddr + (activation.clockBefore - data.lastIdleTime))))
    exact ⟨same.tid, same.priority, same.state, same.bitmap⟩
  · simp only [enter, isIdle, if_false]
    exact ran data

theorem enableInterrupt_sameTasks (event : Word) : SameTasks data (enableInterrupt data event) := by
  simp only [enableInterrupt]
  split_ifs <;> exact ⟨fun _ => rfl, fun _ => rfl, fun _ => rfl, rfl⟩

end KernelData

theorem ListKernel.enterKernel_sameTasks (kernel : ListKernel) (active : Tid)
    (activation : Activation) :
    KernelData.SameTasks kernel.toKernelData (kernel.enterKernel active activation).toKernelData :=
  KernelData.enter_sameTasks _ activation

/-- Running a task leaves all tasks in the state that they are in. -/
theorem ListKernel.entry_state {kernel entered : ListKernel} {activation : Activation}
    {active : Tid} (runs : kernel.entry activation = some (active, entered)) (task : Tid) :
    (entered.tds task).state = (kernel.tds task).state := by
  rcases ListKernel.entry_eq runs with ⟨taken, got, rfl, -⟩
  rcases ListKernel.get_eq got with ⟨rest, -, -, rfl⟩
  exact (ListKernel.enterKernel_sameTasks _ active activation).state task

namespace ListKernel

theorem setState_state (data : KernelData) (task other : Tid) (state : TaskState) :
    ((data.setState task state).tds other).state =
      if other = task then state else (data.tds other).state := by
  split_ifs with same
  · rw [same, KernelData.setState_self]
  · rw [KernelData.setState_of_ne same]

theorem setMessageParams_state (data : KernelData) (task other : Tid)
    (change : MessageParams → MessageParams) :
    ((data.setMessageParams task change).tds other).state = (data.tds other).state :=
  (KernelData.setMessageParams_sameTasks change).state other

theorem put_state (kernel : ListKernel) (td other : Tid) :
    ((kernel.put td).tds other).state =
      if other = td then .ready else (kernel.tds other).state :=
  setState_state kernel.toKernelData td other .ready

end ListKernel

structure Sound (count : ℕ) (kernel : ListKernel) : Prop where
  placed : Placed kernel.lists
  live : ∀ {ctx task}, task ∈ kernel.lists ctx → Live count ctx
  created : ∀ {ctx task}, task ∈ kernel.lists ctx → Created count task
  state : ∀ {ctx task}, task ∈ kernel.lists ctx → (kernel.tds task).state = ctx.state
  priority : ∀ {priority task}, task ∈ kernel.lists (.priorityQ priority) →
    (kernel.tds task).priority = priority
  inRange : ∀ {task}, Created count task →
    (kernel.tds task).priority.toNat < schedulerPriorityCount
  tid : ∀ {task}, Created count task → (kernel.tds task).tid = task
  waiting : ∀ {task}, Created count task → (kernel.tds task).state = .sendBlocked →
    kernel.lists (.sendQ task) = []
  bitmap : ∀ {index}, index < schedulerPriorityCount → kernel.bitmap.getLsbD index = true →
    kernel.lists (.priorityQ (BitVec.ofNat 8 index)) ≠ []
  bounded : count ≤ taskDescriptorMaxTasks

/-- Soundness while a task is active: it was READY and has left its ready queue. -/
structure Running (count : ℕ) (active : Tid) (kernel : ListKernel) : Prop where
  sound : Sound count kernel
  isCreated : Created count active
  absent : Absent kernel.lists active
  ready : (kernel.tds active).state = .ready

namespace Sound

variable {count : ℕ} {kernel kernel' : ListKernel} {task : Tid} {ctx : QueueRef}

theorem absent_of_state (sound : Sound count kernel)
    (unqueued : ∀ ctx : QueueRef, (kernel.tds task).state ≠ ctx.state) :
    Absent kernel.lists task :=
  fun ctx taskMem => unqueued ctx (sound.state taskMem)

theorem absent_of_sendBlocked (sound : Sound count kernel)
    (blocked : (kernel.tds task).state = .sendBlocked) : Absent kernel.lists task :=
  sound.absent_of_state fun ctx => by rw [blocked]; cases ctx <;> simp [QueueRef.state]

theorem absent_of_replyBlocked (sound : Sound count kernel)
    (blocked : (kernel.tds task).state = .replyBlocked) : Absent kernel.lists task :=
  sound.absent_of_state fun ctx => by rw [blocked]; cases ctx <;> simp [QueueRef.state]

theorem absent_of_exited (sound : Sound count kernel)
    (exited : (kernel.tds task).state = .exited) : Absent kernel.lists task :=
  sound.absent_of_state fun ctx => by rw [exited]; cases ctx <;> simp [QueueRef.state]

theorem sameTasks (sound : Sound count kernel) (lists : kernel'.lists = kernel.lists)
    (same : KernelData.SameTasks kernel.toKernelData kernel'.toKernelData) :
    Sound count kernel' where
  placed := lists ▸ sound.placed
  live := by
    rw [lists]
    exact sound.live
  created := by
    rw [lists]
    exact sound.created
  state := by
    intro ctx task taskMem
    rw [same.state]
    exact sound.state (lists ▸ taskMem)
  priority := by
    intro priority task taskMem
    rw [same.priority]
    exact sound.priority (lists ▸ taskMem)
  inRange := by
    intro task isCreated
    rw [same.priority]
    exact sound.inRange isCreated
  tid := by
    intro task isCreated
    rw [same.tid]
    exact sound.tid isCreated
  waiting := by
    intro task isCreated blocked
    rw [same.state] at blocked
    rw [lists]
    exact sound.waiting isCreated blocked
  bitmap := by
    rw [same.bitmap, lists]
    exact sound.bitmap
  bounded := sound.bounded

theorem modify (sound : Sound count kernel) {change : KernelData → KernelData}
    (same : KernelData.SameTasks kernel.toKernelData (change kernel.toKernelData)) :
    Sound count (kernel.modify change) :=
  sound.sameTasks rfl same

theorem panic (sound : Sound count kernel) : Sound count kernel.panic :=
  { sound with bitmap := by simp [ListKernel.panic] }

/-- The task joins the end of a queue and is in the state that the queue is for. -/
theorem join (sound : Sound count kernel) (isLive : Live count ctx)
    (isCreated : Created count task) (absent : Absent kernel.lists task)
    (own : ∀ priority, ctx = .priorityQ priority → (kernel.tds task).priority = priority)
    (receiver : ∀ other, ctx = .sendQ other → (kernel.tds other).state ≠ .sendBlocked)
    (lists : kernel'.lists = Function.update kernel.lists ctx (kernel.lists ctx ++ [task]))
    (tds : kernel'.tds = (kernel.setState task ctx.state).tds)
    (bits : ∀ index < schedulerPriorityCount, kernel'.bitmap.getLsbD index = true →
      kernel.bitmap.getLsbD index = true ∨ ctx = .priorityQ (BitVec.ofNat 8 index)) :
    Sound count kernel' := by
  have mem_lists : ∀ {other key}, other ∈ kernel'.lists key →
      (key = ctx ∧ other = task) ∨ (other ∈ kernel.lists key ∧ other ≠ task) := by
    intro other key otherMem
    rw [lists] at otherMem
    by_cases keyEq : key = ctx
    · rw [keyEq, Function.update_self, List.mem_append, List.mem_singleton] at otherMem
      rcases otherMem with oldMem | rfl
      · rw [keyEq]
        exact Or.inr ⟨oldMem, fun same => absent ctx (same ▸ oldMem)⟩
      · exact Or.inl ⟨keyEq, rfl⟩
    · rw [Function.update_of_ne keyEq] at otherMem
      exact Or.inr ⟨otherMem, fun same => absent key (same ▸ otherMem)⟩
  refine
    { placed := lists ▸ sound.placed.append absent
      live := ?_
      created := ?_
      state := ?_
      priority := ?_
      inRange := ?_
      tid := ?_
      waiting := ?_
      bitmap := ?_
      bounded := sound.bounded }
  · intro key other otherMem
    rcases mem_lists otherMem with ⟨rfl, -⟩ | ⟨oldMem, -⟩
    · exact isLive
    · exact sound.live oldMem
  · intro key other otherMem
    rcases mem_lists otherMem with ⟨-, rfl⟩ | ⟨oldMem, -⟩
    · exact isCreated
    · exact sound.created oldMem
  · intro key other otherMem
    rw [tds]
    rcases mem_lists otherMem with ⟨rfl, rfl⟩ | ⟨oldMem, otherNe⟩
    · exact KernelData.setState_self _
    · rw [KernelData.setState_of_ne otherNe]
      exact sound.state oldMem
  · intro priority other otherMem
    rw [tds, KernelData.setState_priority]
    rcases mem_lists otherMem with ⟨keyEq, rfl⟩ | ⟨oldMem, -⟩
    · exact own priority keyEq.symm
    · exact sound.priority oldMem
  · intro other otherCreated
    rw [tds, KernelData.setState_priority]
    exact sound.inRange otherCreated
  · intro other otherCreated
    rw [tds, KernelData.setState_tid]
    exact sound.tid otherCreated
  · intro other otherCreated blocked
    rw [tds] at blocked
    have otherNe : other ≠ task := by
      rintro rfl
      rw [KernelData.setState_self] at blocked
      cases ctx <;> simp [QueueRef.state] at blocked
    rw [KernelData.setState_of_ne otherNe] at blocked
    rw [lists, Function.update_of_ne, sound.waiting otherCreated blocked]
    rintro rfl
    exact receiver other rfl blocked
  · intro index indexLt bit
    rw [lists]
    by_cases keyEq : ctx = .priorityQ (BitVec.ofNat 8 index)
    · simp [keyEq]
    · rw [Function.update_of_ne (Ne.symm keyEq)]
      exact sound.bitmap indexLt ((bits index indexLt bit).resolve_right keyEq)

/-- The first task of a queue leaves it; the bit of a ready queue that it leaves empty
must be cleared. -/
theorem leave {rest : List Tid} (sound : Sound count kernel)
    (shape : kernel.lists ctx = task :: rest)
    (lists : kernel'.lists = Function.update kernel.lists ctx rest)
    (tds : kernel'.tds = kernel.tds)
    (bits : ∀ index < schedulerPriorityCount, kernel'.bitmap.getLsbD index = true →
      kernel.bitmap.getLsbD index = true ∧
        (ctx = .priorityQ (BitVec.ofNat 8 index) → rest ≠ [])) :
    Sound count kernel' := by
  have mem_lists : ∀ {other key}, other ∈ kernel'.lists key → other ∈ kernel.lists key := by
    intro other key otherMem
    rw [lists] at otherMem
    rcases eq_or_ne key ctx with rfl | keyNe
    · rw [Function.update_self] at otherMem
      rw [shape]
      exact List.mem_cons_of_mem task otherMem
    · rwa [Function.update_of_ne keyNe] at otherMem
  refine
    { placed := lists ▸ sound.placed.tail shape
      live := fun otherMem => sound.live (mem_lists otherMem)
      created := fun otherMem => sound.created (mem_lists otherMem)
      state := fun otherMem => tds ▸ sound.state (mem_lists otherMem)
      priority := fun otherMem => tds ▸ sound.priority (mem_lists otherMem)
      inRange := fun isCreated => tds ▸ sound.inRange isCreated
      tid := fun isCreated => tds ▸ sound.tid isCreated
      waiting := ?_
      bitmap := ?_
      bounded := sound.bounded }
  · intro other otherCreated blocked
    have empty := sound.waiting otherCreated (tds ▸ blocked)
    exact List.eq_nil_iff_forall_not_mem.mpr fun member memberMem => by
      have := mem_lists memberMem
      simp [empty] at this
  · intro index indexLt bit
    rcases bits index indexLt bit with ⟨oldBit, nonempty⟩
    rw [lists]
    rcases eq_or_ne ctx (.priorityQ (BitVec.ofNat 8 index)) with rfl | keyNe
    · rw [Function.update_self]
      exact nonempty rfl
    · rw [Function.update_of_ne (Ne.symm keyNe)]
      exact sound.bitmap indexLt oldBit

/-- A task that is in no queue may be set to any state, if its own send queue allows it. -/
theorem setState (state : TaskState) (sound : Sound count kernel)
    (absent : Absent kernel.lists task)
    (waiting : state = .sendBlocked → kernel.lists (.sendQ task) = []) :
    Sound count (kernel.modify (·.setState task state)) := by
  refine
    { placed := sound.placed
      live := sound.live
      created := sound.created
      state := ?_
      priority := ?_
      inRange := ?_
      tid := ?_
      waiting := ?_
      bitmap := sound.bitmap
      bounded := sound.bounded }
  · intro ctx other otherMem
    have otherNe : other ≠ task := fun same => absent ctx (same ▸ otherMem)
    exact (congrArg TaskDescriptor.state (KernelData.setState_of_ne otherNe state)).trans
      (sound.state otherMem)
  · exact fun otherMem => (KernelData.setState_priority state).trans (sound.priority otherMem)
  · intro other otherCreated
    simp only [ListKernel.modify, KernelData.setState_priority]
    exact sound.inRange otherCreated
  · exact fun otherCreated => (KernelData.setState_tid state).trans (sound.tid otherCreated)
  · intro other otherCreated blocked
    simp only [ListKernel.modify] at blocked ⊢
    rcases eq_or_ne other task with rfl | otherNe
    · rw [KernelData.setState_self] at blocked
      exact waiting blocked
    · rw [KernelData.setState_of_ne otherNe] at blocked
      exact sound.waiting otherCreated blocked

theorem put (sound : Sound count kernel) (isCreated : Created count task)
    (absent : Absent kernel.lists task) : Sound count (kernel.put task) := by
  have isLive : Live count (.priorityQ (kernel.tds task).priority) := sound.inRange isCreated
  apply sound.join isLive isCreated absent
  · intro priority same
    exact QueueRef.priorityQ.inj same
  · intro other same
    simp at same
  · rfl
  · rfl
  · intro index indexLt bit
    have raised : kernel.bitmap.getLsbD index = true ∨
        index = (kernel.tds task).priority.toNat := by
      rw [ListKernel.put_bitmap, getLsbD_setBit _ _ indexLt] at bit
      simpa using bit
    rcases raised with oldBit | rfl
    · exact Or.inl oldBit
    · exact Or.inr (by simp)

/-- The first task of a queue other than a ready queue leaves it. -/
theorem leaveBlocked {rest : List Tid} (sound : Sound count kernel)
    (shape : kernel.lists ctx = task :: rest)
    (notReady : ∀ priority, ctx ≠ .priorityQ priority) : Sound count (kernel.setList ctx rest) :=
  sound.leave shape rfl rfl fun _ _ bit => ⟨bit, fun isReady => absurd isReady (notReady _)⟩

theorem wakeFirst {event : Word} {ret : ℤ} {rest : List Tid} (sound : Sound count kernel)
    (shape : kernel.lists (.awaitQ event) = task :: rest) :
    Sound count (((kernel.setList (.awaitQ event) rest).setReturnValue task ret).put task) := by
  have taskMem : task ∈ kernel.lists (.awaitQ event) := by
    rw [shape]
    exact List.mem_cons_self
  have left := sound.leaveBlocked shape (by simp)
  exact (left.modify KernelData.setReturnValue_sameTasks).put (sound.created taskMem)
    (sound.placed.absent_tail shape)

theorem wake {event : Word} {ret : ℤ} {tasks : List Tid} (sound : Sound count kernel)
    (shape : kernel.lists (.awaitQ event) = tasks) : Sound count (kernel.wake event ret tasks) := by
  induction tasks generalizing kernel with
  | nil => exact sound
  | cons first rest ih => exact ih (sound.wakeFirst shape) (ListKernel.wake_rest _ _ _ _ _)

theorem get_isSome (sound : Sound count kernel)
    (set : schedulerEmpty kernel.toKernelData = false) :
    ∃ task kernel', kernel.get = some (task, kernel') := by
  have nonzero : kernel.bitmap ≠ 0 := by simpa [schedulerEmpty] using set
  have lowest := bitmapLeadingzeroes_isLowestBit nonzero
  have nonempty := sound.bitmap lowest.lt_width lowest.1
  rw [BitVec.ofNat_toNat, BitVec.setWidth_eq] at nonempty
  cases shape : kernel.lists (.priorityQ (bitmapLeadingzeroes kernel.bitmap)) with
  | nil => exact absurd shape nonempty
  | cons task rest => exact ⟨task, _, by simp [ListKernel.get, set, shape]; rfl⟩

theorem get (sound : Sound count kernel) (got : kernel.get = some (task, kernel')) :
    Running count task kernel' := by
  rcases ListKernel.get_eq got with ⟨rest, -, shape, rfl⟩
  have taskMem : task ∈ kernel.lists (.priorityQ (bitmapLeadingzeroes kernel.bitmap)) := by
    rw [shape]
    exact List.mem_cons_self
  have bits : ∀ index < schedulerPriorityCount,
      (kernel.take (bitmapLeadingzeroes kernel.bitmap) rest).bitmap.getLsbD index = true →
      kernel.bitmap.getLsbD index = true ∧
        (QueueRef.priorityQ (bitmapLeadingzeroes kernel.bitmap) =
          .priorityQ (BitVec.ofNat 8 index) → rest ≠ []) := by
    intro index indexLt bit
    by_cases last : rest = []
    · simp only [ListKernel.take, last, if_true] at bit
      rw [getLsbD_clearBit _ _ indexLt, Bool.and_eq_true, decide_eq_true_eq] at bit
      refine ⟨bit.1, fun same => absurd ?_ bit.2⟩
      have value := congrArg BitVec.toNat (QueueRef.priorityQ.inj same)
      rw [value, BitVec.toNat_ofNat, Nat.mod_eq_of_lt]
      exact lt_trans indexLt (by decide)
    · exact ⟨by simpa [ListKernel.take, last] using bit, fun _ => last⟩
  exact ⟨sound.leave shape rfl rfl bits, sound.created taskMem, sound.placed.absent_tail shape,
    sound.state taskMem⟩

end Sound

namespace Running

variable {count : ℕ} {kernel kernel' : ListKernel} {active task : Tid} {ctx : QueueRef}

theorem sameTasks (running : Running count active kernel) (lists : kernel'.lists = kernel.lists)
    (same : KernelData.SameTasks kernel.toKernelData kernel'.toKernelData) :
    Running count active kernel' where
  sound := running.sound.sameTasks lists same
  isCreated := running.isCreated
  absent := lists ▸ running.absent
  ready := by
    rw [same.state]
    exact running.ready

theorem modify (running : Running count active kernel) {change : KernelData → KernelData}
    (same : KernelData.SameTasks kernel.toKernelData (change kernel.toKernelData)) :
    Running count active (kernel.modify change) :=
  running.sameTasks rfl same

/-- The task that the scheduler selects is running when it traps. -/
theorem of_entry {activation : Activation} {entered : ListKernel}
    (sound : Sound kernel.nextFreeTd kernel)
    (runs : kernel.entry activation = some (active, entered)) :
    Running entered.nextFreeTd active entered := by
  rcases ListKernel.entry_eq runs with ⟨taken, got, rfl, sameNext⟩
  rw [sameNext]
  exact (sound.get got).sameTasks rfl (ListKernel.enterKernel_sameTasks taken active activation)

theorem put (running : Running count active kernel) : Sound count (kernel.put active) :=
  running.sound.put running.isCreated running.absent

theorem panic (running : Running count active kernel) : Running count active kernel.panic :=
  ⟨running.sound.panic, running.isCreated, running.absent, running.ready⟩

theorem putOther (running : Running count active kernel) (isCreated : Created count task)
    (absent : Absent kernel.lists task) (taskNe : task ≠ active) :
    Running count active (kernel.put task) where
  sound := running.sound.put isCreated absent
  isCreated := running.isCreated
  absent := running.absent.append taskNe.symm
  ready := (congrArg TaskDescriptor.state (KernelData.setState_of_ne taskNe.symm _)).trans
    running.ready

/-- The first task of a queue other than a ready queue leaves it. -/
theorem leave {rest : List Tid} (running : Running count active kernel)
    (shape : kernel.lists ctx = task :: rest)
    (notReady : ∀ priority, ctx ≠ .priorityQ priority) :
    Running count active (kernel.setList ctx rest) where
  sound := running.sound.leaveBlocked shape notReady
  isCreated := running.isCreated
  absent := running.absent.sublist (by rw [shape]; exact List.sublist_cons_self task rest)
  ready := running.ready

theorem enqueue (running : Running count active kernel) (ctx : QueueRef) (isLive : Live count ctx)
    (notReady : ∀ priority, ctx ≠ .priorityQ priority)
    (receiver : ∀ other, ctx = .sendQ other → (kernel.tds other).state ≠ .sendBlocked) :
    Sound count ((kernel.enqueue ctx active).modify (·.setState active ctx.state)) :=
  running.sound.join isLive running.isCreated running.absent
    (fun priority isReady => absurd isReady (notReady priority)) receiver rfl rfl
    fun _ _ bit => Or.inl bit

theorem wakeFirst {event : Word} {ret : ℤ} {rest : List Tid}
    (running : Running count active kernel)
    (shape : kernel.lists (.awaitQ event) = task :: rest) :
    Running count active
      (((kernel.setList (.awaitQ event) rest).setReturnValue task ret).put task) := by
  have taskMem : task ∈ kernel.lists (.awaitQ event) := by
    rw [shape]
    exact List.mem_cons_self
  have taskNe : task ≠ active := fun same => running.absent _ (same ▸ taskMem)
  have answered : Running count active
      ((kernel.setList (.awaitQ event) rest).setReturnValue task ret) :=
    (running.leave shape (by simp)).modify KernelData.setReturnValue_sameTasks
  exact answered.putOther (running.sound.created taskMem)
    (running.sound.placed.absent_tail shape) taskNe

theorem wake {event : Word} {ret : ℤ} {tasks : List Tid} (running : Running count active kernel)
    (shape : kernel.lists (.awaitQ event) = tasks) :
    Running count active (kernel.wake event ret tasks) := by
  induction tasks generalizing kernel with
  | nil => exact running
  | cons first rest ih => exact ih (running.wakeFirst shape) (ListKernel.wake_rest _ _ _ _ _)

theorem handleEvent (running : Running count active kernel) (event : Word) (ret : ℤ) :
    Running count active (kernel.handleEvent event ret) :=
  running.wake rfl

end Running

end ArmKernel
