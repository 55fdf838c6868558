import ArmKernel.ListKernel.SafeSteps

/-!
# Every task is where its state says

Soundness leaves out one direction: a task whose state names a queue may have been lost
from it. `Located` is this direction for the tasks in a state that satisfies `kept`,
together with the completeness of the bitmap if the ready tasks are among them. The tasks
in `away` are exempt: while a task runs, or has been taken from one queue and not yet put
into another, it is nowhere.

The operations on the queues move tasks in and out of `away`. `KeepingCall` and
`KeepingInterrupt` exclude the steps that lose a task in a kept state.
-/

namespace ArmKernel

open Placement

/-- The task is in the queue that its state names. -/
def Homed (kernel : ListKernel) (task : Tid) : Prop :=
  match (kernel.tds task).state with
  | .ready => task ∈ kernel.lists (.priorityQ (kernel.tds task).priority)
  | .receiveBlocked => ∃ receiver, task ∈ kernel.lists (.sendQ receiver)
  | .eventBlocked => ∃ event, task ∈ kernel.lists (.awaitQ event)
  | .active => False
  | .exited | .sendBlocked | .replyBlocked => True

structure Located (count : ℕ) (kept : TaskState → Prop) (away : Tid → Prop)
    (kernel : ListKernel) : Prop where
  homed : ∀ task, Created count task → ¬away task → kept (kernel.tds task).state →
    Homed kernel task
  complete : kept .ready → ∀ priority, kernel.lists (.priorityQ priority) ≠ [] →
    kernel.bitmap.getLsbD priority.toNat = true

/-- Besides being safe, the call loses no task in a kept state: a rejected `Create` loses
its caller, who is READY, and a `Receive` that asks for another number of bytes loses the
sender at the head of the queue. -/
def KeepingCall (kept : TaskState → Prop) (kernel : ListKernel) (active : Tid)
    (call : SysCall) : Prop :=
  SafeCall kernel.toKernelData call ∧
    match call with
    | .create priority _ => kept .ready →
        0 ≤ priority ∧ priority ≤ 63 ∧ kernel.nextFreeTd < taskDescriptorMaxTasks
    | .receive _ _ msgLen => kept .receiveBlocked →
        ∀ sender ∈ (kernel.lists (.sendQ active)).head?,
          (kernel.tds sender).messageParams.msgLen = msgLen
    | .panic | .quit | .unknown => ¬kept .ready
    | _ => True

/-- Every interrupt puts the active task back, but a panic clears the bitmap. -/
def KeepingInterrupt (kept : TaskState → Prop) (cause : ListKernel.Interrupt) : Prop :=
  kept .ready → ∃ event ret keep1 keep2, cause = .event event ret keep1 keep2

section Homes

variable {kernel kernel' : ListKernel} {task : Tid} {ctx : QueueRef}

/-- A task that stays in its queues and in its state stays at home. -/
theorem Homed.mono (homed : Homed kernel task)
    (state : (kernel'.tds task).state = (kernel.tds task).state)
    (priority : (kernel'.tds task).priority = (kernel.tds task).priority)
    (kept : ∀ ctx, task ∈ kernel.lists ctx → task ∈ kernel'.lists ctx) : Homed kernel' task := by
  unfold Homed at *
  rw [state, priority]
  split at homed
  · exact kept _ homed
  · exact homed.imp fun _ => kept _
  · exact homed.imp fun _ => kept _
  · exact homed
  · trivial
  · trivial
  · trivial

theorem homed_of_mem (ctx : QueueRef) (state : (kernel.tds task).state = ctx.state)
    (own : ∀ priority, ctx = .priorityQ priority → (kernel.tds task).priority = priority)
    (taskMem : task ∈ kernel.lists ctx) : Homed kernel task := by
  unfold Homed
  rw [state]
  cases ctx with
  | priorityQ priority => simpa [QueueRef.state, own priority rfl] using taskMem
  | sendQ receiver => exact ⟨receiver, taskMem⟩
  | awaitQ event => exact ⟨event, taskMem⟩

end Homes

namespace Located

variable {count : ℕ} {kept : TaskState → Prop} {away away' : Tid → Prop}
  {kernel kernel' : ListKernel} {task : Tid} {ctx : QueueRef}

theorem mono (located : Located count kept away kernel) (more : ∀ task, away task → away' task) :
    Located count kept away' kernel :=
  ⟨fun task isCreated notAway => located.homed task isCreated (mt (more task) notAway),
    located.complete⟩

/-- It does not matter whether a task that was never created is away. -/
theorem restrict (located : Located count kept away kernel)
    (none : ∀ task, Created count task → ¬away task) : Located count kept (fun _ => False) kernel :=
  ⟨fun task isCreated _ => located.homed task isCreated (none task isCreated),
    located.complete⟩

theorem sameTasks (located : Located count kept away kernel) (lists : kernel'.lists = kernel.lists)
    (same : KernelData.SameTasks kernel.toKernelData kernel'.toKernelData) :
    Located count kept away kernel' where
  homed task isCreated notAway isKept := by
    rw [same.state] at isKept
    exact (located.homed task isCreated notAway isKept).mono (same.state task)
      (same.priority task) fun ctx taskMem => lists ▸ taskMem
  complete := by
    rw [lists, same.bitmap]
    exact located.complete

theorem modify (located : Located count kept away kernel) {change : KernelData → KernelData}
    (same : KernelData.SameTasks kernel.toKernelData (change kernel.toKernelData)) :
    Located count kept away (kernel.modify change) :=
  located.sameTasks rfl same

theorem join (located : Located count kept away kernel) (ctx : QueueRef)
    (own : ∀ priority, ctx = .priorityQ priority → (kernel.tds task).priority = priority)
    (lists : kernel'.lists = Function.update kernel.lists ctx (kernel.lists ctx ++ [task]))
    (tds : kernel'.tds = (kernel.setState task ctx.state).tds)
    (bits : ∀ priority, ctx = .priorityQ priority ∨
      kernel.bitmap.getLsbD priority.toNat = true → kernel'.bitmap.getLsbD priority.toNat = true) :
    Located count kept (fun other => away other ∧ other ≠ task) kernel' where
  homed := by
    intro other isCreated notAway isKept
    by_cases same : other = task
    · subst same
      apply homed_of_mem ctx
      · rw [tds]
        exact KernelData.setState_self _
      · intro priority isReady
        rw [tds, KernelData.setState_priority]
        exact own priority isReady
      · rw [lists, Function.update_self]
        simp
    · rw [tds, KernelData.setState_of_ne same] at isKept
      have stays := located.homed other isCreated (fun isAway => notAway ⟨isAway, same⟩) isKept
      apply stays.mono
      · rw [tds, KernelData.setState_of_ne same]
      · rw [tds, KernelData.setState_priority]
      · intro key otherMem
        rw [lists]
        by_cases keyEq : key = ctx
        · rw [keyEq, Function.update_self, ← keyEq]
          exact List.mem_append_left [task] otherMem
        · rwa [Function.update_of_ne keyEq]
  complete := by
    intro isKept priority nonempty
    apply bits
    rw [lists] at nonempty
    by_cases keyEq : ctx = .priorityQ priority
    · exact Or.inl keyEq
    · rw [Function.update_of_ne (Ne.symm keyEq)] at nonempty
      exact Or.inr (located.complete isKept priority nonempty)

theorem put (located : Located count kept away kernel)
    (inRange : (kernel.tds task).priority.toNat < schedulerPriorityCount) :
    Located count kept (fun other => away other ∧ other ≠ task) (kernel.put task) := by
  refine located.join (.priorityQ (kernel.tds task).priority)
    (fun priority same => QueueRef.priorityQ.inj same) rfl rfl ?_
  rintro priority (same | bit)
  · rw [← QueueRef.priorityQ.inj same, ListKernel.put_bitmap, getLsbD_setBit _ _ inRange]
    simp
  · have indexLt : priority.toNat < 64 := by
      by_contra outside
      simp [BitVec.getLsbD_of_ge _ _ (Nat.le_of_not_lt outside)] at bit
    rw [ListKernel.put_bitmap, getLsbD_setBit _ _ indexLt, bit, Bool.true_or]

theorem enqueue (located : Located count kept away kernel) (ctx : QueueRef)
    (notReady : ∀ priority, ctx ≠ .priorityQ priority) :
    Located count kept (fun other => away other ∧ other ≠ task)
      ((kernel.enqueue ctx task).modify (·.setState task ctx.state)) :=
  located.join ctx (fun priority isReady => absurd isReady (notReady priority)) rfl rfl
    fun priority given => given.resolve_left (notReady priority)

theorem leave {rest : List Tid} (located : Located count kept away kernel)
    (shape : kernel.lists ctx = task :: rest)
    (lists : kernel'.lists = Function.update kernel.lists ctx rest)
    (tds : kernel'.tds = kernel.tds)
    (bits : ∀ priority, kernel.bitmap.getLsbD priority.toNat = true →
      (ctx = .priorityQ priority → rest ≠ []) → kernel'.bitmap.getLsbD priority.toNat = true) :
    Located count kept (fun other => away other ∨ other = task) kernel' where
  homed := by
    intro other isCreated notAway isKept
    rw [not_or] at notAway
    rw [tds] at isKept
    apply (located.homed other isCreated notAway.1 isKept).mono (by rw [tds]) (by rw [tds])
    intro key otherMem
    rw [lists]
    by_cases keyEq : key = ctx
    · rw [keyEq, shape] at otherMem
      rw [keyEq, Function.update_self]
      exact (List.mem_cons.mp otherMem).resolve_left notAway.2
    · rwa [Function.update_of_ne keyEq]
  complete := by
    intro isKept priority nonempty
    rw [lists] at nonempty
    by_cases keyEq : ctx = .priorityQ priority
    · subst keyEq
      rw [Function.update_self] at nonempty
      exact bits priority (located.complete isKept priority (by rw [shape]; simp))
        fun _ => nonempty
    · rw [Function.update_of_ne (Ne.symm keyEq)] at nonempty
      exact bits priority (located.complete isKept priority nonempty)
        fun same => absurd same keyEq

theorem setList {rest : List Tid} (located : Located count kept away kernel)
    (shape : kernel.lists ctx = task :: rest) :
    Located count kept (fun other => away other ∨ other = task) (kernel.setList ctx rest) :=
  located.leave shape rfl rfl fun _ bit _ => bit

theorem get (located : Located count kept away kernel) (got : kernel.get = some (task, kernel')) :
    Located count kept (fun other => away other ∨ other = task) kernel' := by
  rcases ListKernel.get_eq got with ⟨rest, -, shape, rfl⟩
  refine located.leave shape rfl rfl fun priority bit last => ?_
  by_cases empty : rest = []
  · have otherBit : QueueRef.priorityQ (bitmapLeadingzeroes kernel.bitmap) ≠
        .priorityQ priority := fun same => last same empty
    have indexLt : priority.toNat < 64 := by
      by_contra outside
      simp [BitVec.getLsbD_of_ge _ _ (Nat.le_of_not_lt outside)] at bit
    simp only [ListKernel.take, empty, if_true]
    rw [getLsbD_clearBit _ _ indexLt, bit, Bool.true_and, decide_eq_true_eq]
    intro same
    exact otherBit (congrArg QueueRef.priorityQ (BitVec.eq_of_toNat_eq same.symm))
  · simpa [ListKernel.take, empty] using bit

theorem setState (located : Located count kept away kernel) (state : TaskState)
    (unqueued : state = .exited ∨ state = .sendBlocked ∨ state = .replyBlocked) :
    Located count kept (fun other => away other ∧ other ≠ task)
      (kernel.modify (·.setState task state)) where
  homed := by
    intro other isCreated notAway isKept
    by_cases same : other = task
    · subst same
      unfold Homed
      simp only [ListKernel.modify, KernelData.setState_self]
      rcases unqueued with rfl | rfl | rfl <;> trivial
    · simp only [ListKernel.modify, KernelData.setState_of_ne same] at isKept
      have stays := located.homed other isCreated (fun isAway => notAway ⟨isAway, same⟩) isKept
      exact stays.mono (congrArg TaskDescriptor.state (KernelData.setState_of_ne same state))
        (KernelData.setState_priority state) fun _ taskMem => taskMem
  complete := located.complete

/-- The next descriptor belongs to a task that is in no queue yet. -/
theorem init (located : Located count kept away kernel) (room : count < taskDescriptorMaxTasks)
    (priority : Byte) (parent : Option Tid) (code : Addr) :
    Located (count + 1) kept (fun other => away other ∨ other = BitVec.ofNat 8 count)
      (kernel.modify (taskDescriptorInitData · (BitVec.ofNat 8 count) (BitVec.ofNat 8 count)
        priority parent code)) where
  homed := by
    intro other isCreated notAway isKept
    rw [not_or] at notAway
    simp only [ListKernel.modify, taskDescriptorInitData_of_ne notAway.2] at isKept
    have old := ((created_succ room).mp isCreated).resolve_right notAway.2
    apply (located.homed other old notAway.1 isKept).mono
    · simp only [ListKernel.modify, taskDescriptorInitData_of_ne notAway.2]
    · simp only [ListKernel.modify, taskDescriptorInitData_of_ne notAway.2]
    · exact fun _ otherMem => otherMem
  complete := located.complete

end Located

section Steps

variable {count : ℕ} {kept : TaskState → Prop} {kernel : ListKernel} {active : Tid}

theorem Located.settle {away : Tid → Prop} (located : Located count kept away kernel)
    (none : ∀ task, ¬away task) : Located count kept (fun _ => False) kernel :=
  located.mono none

theorem Located.forget (located : Located count kept (· = active) kernel)
    (running : Running count active kernel) (notKept : ¬kept .ready) :
    Located count kept (fun _ => False) kernel where
  homed task isCreated _ isKept := by
    apply located.homed task isCreated _ isKept
    rintro rfl
    rw [running.ready] at isKept
    exact notKept isKept
  complete := located.complete

theorem Located.panic (located : Located count kept (· = active) kernel)
    (notKept : ¬kept .ready) : Located count kept (· = active) kernel.panic :=
  ⟨located.homed, fun isKept => absurd isKept notKept⟩

theorem Located.requeue (located : Located count kept (· = active) kernel)
    (running : Running count active kernel) :
    Located count kept (fun _ => False) (kernel.put active) :=
  (located.put (running.sound.inRange running.isCreated)).settle fun _ isAway =>
    isAway.2 isAway.1

theorem Located.wake {away : Tid → Prop} {event : Word} {ret : ℤ} {tasks : List Tid}
    (located : Located count kept away kernel) (sound : Sound count kernel)
    (shape : kernel.lists (.awaitQ event) = tasks) :
    Located count kept away (kernel.wake event ret tasks) := by
  induction tasks generalizing kernel with
  | nil => exact located
  | cons first rest ih =>
      have firstMem : first ∈ kernel.lists (.awaitQ event) := by
        rw [shape]
        exact List.mem_cons_self
      have answered : Located count kept (fun other => away other ∨ other = first)
          ((kernel.setList (.awaitQ event) rest).setReturnValue first ret) :=
        (located.setList shape).modify KernelData.setReturnValue_sameTasks
      have woken := (answered.put (sound.inRange (sound.created firstMem))).mono
        fun other isAway => isAway.1.resolve_right isAway.2
      exact ih woken (sound.wakeFirst shape) (ListKernel.wake_rest _ _ _ _ _)

theorem Located.handleEvent (located : Located count kept (· = active) kernel)
    (running : Running count active kernel) (event : Word) (ret : ℤ) :
    Located count kept (fun _ => False) ((kernel.handleEvent event ret).put active) :=
  (located.wake running.sound rfl).requeue (running.handleEvent event ret)

theorem Located.create (located : Located kernel.nextFreeTd kept (· = active) kernel)
    (running : Running kernel.nextFreeTd active kernel) {priority : ℤ} (code : Addr)
    (accepted : kept .ready →
      0 ≤ priority ∧ priority ≤ 63 ∧ kernel.nextFreeTd < taskDescriptorMaxTasks) :
    Located (kernel.create active priority code).2.nextFreeTd kept (fun _ => False)
      (kernel.create active priority code).2 := by
  rw [ListKernel.create]
  split_ifs with rejected full
  · exact located.forget running fun isKept => by have := accepted isKept; omega
  · exact located.forget running fun isKept => by have := accepted isKept; omega
  · have room : kernel.nextFreeTd < taskDescriptorMaxTasks := by omega
    have newCreated : Created (kernel.nextFreeTd + 1) (BitVec.ofNat 8 kernel.nextFreeTd) :=
      (created_succ room).mpr (Or.inr rfl)
    have running' := running.init room (priority_of_accepted rejected).2 (some active) code
    have initialised := located.init room (BitVec.ofInt 8 priority) (some active) code
    have queued := initialised.put (running'.sound.inRange newCreated)
    have activeInRange : ((((kernel.modify (taskDescriptorInitData · (BitVec.ofNat 8
        kernel.nextFreeTd) (BitVec.ofNat 8 kernel.nextFreeTd) (BitVec.ofInt 8 priority)
        (some active) code)).put (BitVec.ofNat 8 kernel.nextFreeTd)).tds active).priority).toNat <
          schedulerPriorityCount := by
      refine lt_of_eq_of_lt ?_ (running'.sound.inRange running'.isCreated)
      exact congrArg BitVec.toNat (KernelData.setState_priority _)
    have both := (queued.put activeInRange).settle fun task isAway => by
      rcases isAway.1.1 with isActive | isNew
      · exact isAway.2 isActive
      · exact isAway.1.2 isNew
    exact both.sameTasks rfl ⟨fun _ => rfl, fun _ => rfl, fun _ => rfl, rfl⟩

theorem Located.send (located : Located count kept (· = active) kernel)
    (running : Running count active kernel) {tid : Byte}
    (safe : (kernel.tds tid).tid = tid → Created count tid) (msg : Addr) (msgLen : Word)
    (rep : Addr) (repLen : Word) :
    Located count kept (fun _ => False) (kernel.send active tid msg msgLen rep repLen).2 := by
  rw [ListKernel.send]
  split_ifs with badTid blocked mismatch
  · exact located.requeue running
  · exact located.requeue running
  · have isCreated := safe (not_not.mp badTid)
    have delivered : Located count kept (· = active)
        (kernel.modify (·.deliver active tid msg msgLen)) :=
      located.modify ⟨fun _ => rfl, fun _ => rfl, fun _ => rfl, rfl⟩
    have woken := delivered.put (running.sound.inRange isCreated)
    have waits := (woken.setState .replyBlocked (by simp)).settle fun task isAway =>
      isAway.2 isAway.1.1
    exact waits.sameTasks rfl (KernelData.recordReply_sameTasks rep repLen)
  · have queued := (located.enqueue (.sendQ tid) (by simp)).settle fun task isAway =>
      isAway.2 isAway.1
    exact queued.sameTasks rfl ((KernelData.recordMessage_sameTasks msg msgLen).trans
      (KernelData.recordReply_sameTasks rep repLen))

theorem Located.receive (located : Located count kept (· = active) kernel)
    (running : Running count active kernel) {msgLen : Word}
    (sameLen : kept .receiveBlocked → ∀ sender ∈ (kernel.lists (.sendQ active)).head?,
      (kernel.tds sender).messageParams.msgLen = msgLen) (tid msg : Addr) :
    Located count kept (fun _ => False) (kernel.receive active tid msg msgLen).2 := by
  rw [ListKernel.receive]
  cases shape : kernel.lists (.sendQ active) with
  | nil =>
      have waits := (located.setState .sendBlocked (by simp)).settle fun task isAway =>
        isAway.2 isAway.1
      exact waits.sameTasks rfl (KernelData.recordReceive_sameTasks tid msg msgLen)
  | cons sender rest =>
      have left := located.setList shape
      dsimp only
      split_ifs with mismatch
      · -- the sender is lost, so receive-blocked tasks need not be kept
        have notKept : ¬kept .receiveBlocked := fun isKept =>
          mismatch (sameLen isKept sender (by simp [shape]))
        have senderMem : sender ∈ kernel.lists (.sendQ active) := by
          rw [shape]
          exact List.mem_cons_self
        have lost : Located count kept (· = active) (kernel.setList (.sendQ active) rest) := by
          refine ⟨fun task isCreated notActive isKept => ?_, left.complete⟩
          refine left.homed task isCreated ?_ isKept
          rintro (isActive | rfl)
          · exact notActive isActive
          · have blocked : (kernel.tds task).state = .receiveBlocked :=
              running.sound.state senderMem
            exact notKept (blocked ▸ isKept)
        exact lost.requeue (running.leave shape (by simp))
      · have fetched : Located count kept (fun other => other = active ∨ other = sender)
            ((kernel.setList (.sendQ active) rest).modify (·.fetch sender tid msg msgLen)) :=
          left.modify ⟨fun _ => rfl, fun _ => rfl, fun _ => rfl, rfl⟩
        have woken := fetched.put (running.sound.inRange running.isCreated)
        refine (woken.setState .replyBlocked (by simp)).settle fun task isAway => ?_
        exact isAway.2 (isAway.1.1.resolve_left isAway.1.2)

theorem Located.reply (located : Located count kept (· = active) kernel)
    (running : Running count active kernel) {tid : Byte} {repLen : Word}
    (safe : (kernel.tds tid).tid = tid → Created count tid ∧
      ((kernel.tds tid).messageParams.repLen = repLen → (kernel.tds tid).state = .replyBlocked))
    (rep : Addr) :
    Located count kept (fun _ => False) (kernel.reply active tid rep repLen).2 := by
  rw [ListKernel.reply]
  split_ifs with badTid mismatch
  · exact located.requeue running
  · exact located.requeue running
  · rcases safe (not_not.mp badTid) with ⟨isCreated, -⟩
    have answered : Located count kept (· = active) (kernel.modify (·.answer tid rep repLen)) :=
      located.modify ⟨fun _ => rfl, fun _ => rfl, fun _ => rfl, rfl⟩
    have woken := answered.put (running.sound.inRange isCreated)
    have activeInRange : (((kernel.modify (·.answer tid rep repLen)).put tid).tds
        active).priority.toNat < schedulerPriorityCount := by
      refine lt_of_eq_of_lt ?_ (running.sound.inRange running.isCreated)
      exact congrArg BitVec.toNat (KernelData.setState_priority _)
    exact (woken.put activeInRange).settle fun task isAway => isAway.2 isAway.1.1

theorem Located.awaitEvent (located : Located count kept (· = active) kernel)
    (running : Running count active kernel) (event : Word) :
    Located count kept (fun _ => False) (kernel.awaitEvent active event).2 := by
  rw [ListKernel.awaitEvent]
  split_ifs with outside
  · exact located.requeue running
  · have enabled : Located count kept (· = active) (kernel.modify (enableInterrupt · event)) :=
      located.modify (KernelData.enableInterrupt_sameTasks event)
    exact (enabled.enqueue (.awaitQ event) (by simp)).settle fun task isAway =>
      isAway.2 isAway.1

theorem Located.parenttid (located : Located count kept (· = active) kernel)
    (running : Running count active kernel) :
    Located count kept (fun _ => False) (kernel.parenttid active).2 := by
  rw [ListKernel.parenttid]
  split <;> exact located.requeue running

/-- A call that keeps the tasks leaves every one where its state says. -/
theorem Located.sysCall (located : Located kernel.nextFreeTd kept (· = active) kernel)
    (running : Running kernel.nextFreeTd active kernel) {call : SysCall}
    (keeping : KeepingCall kept kernel active call) :
    Located (kernel.sysCall active call).2.nextFreeTd kept (fun _ => False)
      (kernel.sysCall active call).2 := by
  have finish : ∀ {count : ℕ} {result : ℤ × ListKernel},
      Located count kept (fun _ => False) result.2 →
      Located count kept (fun _ => False) (result.2.setReturnValue active result.1) :=
    fun located => located.modify KernelData.setReturnValue_sameTasks
  rcases keeping with ⟨safe, keeping⟩
  cases call with
  | exit =>
      exact (located.setState .exited (by simp)).settle fun task isAway => isAway.2 isAway.1
  | pass => exact finish (located.requeue running)
  | create priority code => exact finish (located.create running code keeping)
  | mytid => exact finish (located.requeue running)
  | parenttid =>
      have done := finish (located.parenttid running)
      rwa [← kernel.parenttid_nextFreeTd active] at done
  | send tid msg msgLen rep repLen =>
      have done := finish (located.send running safe msg msgLen rep repLen)
      rwa [← kernel.send_nextFreeTd active tid msg msgLen rep repLen] at done
  | receive tid msg msgLen =>
      have done := finish (located.receive running keeping tid msg)
      rwa [← kernel.receive_nextFreeTd active tid msg msgLen] at done
  | reply tid rep repLen =>
      have done := finish (located.reply running safe rep)
      rwa [← kernel.reply_nextFreeTd active tid rep repLen] at done
  | awaitEvent event =>
      have done := finish (located.awaitEvent running event)
      rwa [← kernel.awaitEvent_nextFreeTd active event] at done
  | panic => exact finish ((located.panic keeping).forget running.panic keeping)
  | quit => exact located.forget running keeping
  | unknown => exact finish ((located.panic keeping).forget running.panic keeping)

/-- An interrupt that keeps the tasks leaves every one where its state says. -/
theorem Located.interrupt (located : Located kernel.nextFreeTd kept (· = active) kernel)
    (running : Running kernel.nextFreeTd active kernel) {cause : ListKernel.Interrupt}
    (keeping : KeepingInterrupt kept cause) :
    Located (kernel.interrupt active cause).nextFreeTd kept (fun _ => False)
      (kernel.interrupt active cause) := by
  have noPanic : (∀ event ret keep1 keep2, cause ≠ .event event ret keep1 keep2) →
      ¬kept .ready := by
    intro other isKept
    rcases keeping isKept with ⟨event, ret, keep1, keep2, same⟩
    exact other event ret keep1 keep2 same
  rw [ListKernel.interrupt_nextFreeTd]
  cases cause with
  | event event ret keep1 keep2 =>
      have masked : KernelData.SameTasks kernel.toKernelData
          (kernel.maskInterrupts keep1 keep2) :=
        ⟨fun _ => rfl, fun _ => rfl, fun _ => rfl, rfl⟩
      exact (located.modify masked).handleEvent (running.modify masked) event ret
  | spurious =>
      exact (located.panic (noPanic (by simp))).handleEvent running.panic sysCallEventTimer 0
  | unexpected => exact (located.panic (noPanic (by simp))).requeue running.panic

/-- The iteration handles a trap that keeps the tasks. -/
def ListKernel.Keeping (kept : TaskState → Prop) (kernel : ListKernel)
    (activation : Activation) : Prop :=
  ∀ active entered, kernel.entry activation = some (active, entered) →
    match activation.trap with
    | .swi req => KeepingCall kept entered active (decodeSysCall entered.toKernelData active req)
    | .irq regs => KeepingInterrupt kept (ListKernel.decodeInterrupt regs)

theorem Located.entry {activation : Activation} {entered : ListKernel}
    (located : Located kernel.nextFreeTd kept (fun _ => False) kernel)
    (runs : kernel.entry activation = some (active, entered)) :
    Located entered.nextFreeTd kept (· = active) entered := by
  rcases ListKernel.entry_eq runs with ⟨taken, got, rfl, sameNext⟩
  rw [sameNext]
  have left := (located.get got).mono fun other isAway => isAway.resolve_left id
  exact left.sameTasks rfl (ListKernel.enterKernel_sameTasks taken active activation)

/-- An iteration that keeps the tasks leaves every one where its state says. -/
theorem Located.step {activation : Activation} (sound : Sound kernel.nextFreeTd kernel)
    (located : Located kernel.nextFreeTd kept (fun _ => False) kernel)
    (keeping : kernel.Keeping kept activation) :
    Located (kernel.step activation).2.nextFreeTd kept (fun _ => False)
      (kernel.step activation).2 := by
  cases runs : kernel.entry activation with
  | none =>
      rw [ListKernel.step, runs]
      exact located
  | some result =>
      rcases result with ⟨active, entered⟩
      have running := Running.of_entry sound runs
      have allowed := keeping active entered runs
      have away := located.entry runs
      rw [ListKernel.step_of_entry runs]
      cases trap : activation.trap with
      | swi req =>
          rw [trap] at allowed
          exact away.sysCall running allowed
      | irq regs =>
          rw [trap] at allowed
          exact away.interrupt running allowed

end Steps

end ArmKernel
