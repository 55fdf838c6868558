import ArmKernel.ListKernel.Soundness

/-!
# Safe steps keep the queues sound

One rule for each system call of the active task: if it was `Running`, the kernel is
`Sound` again after the call. Each rule follows the call through the operations on the
queues that it is made of.
-/

namespace ArmKernel

open Placement

theorem created_succ {count : ℕ} (room : count < taskDescriptorMaxTasks) {task : Tid} :
    Created (count + 1) task ↔ Created count task ∨ task = BitVec.ofNat 8 count := by
  have value : (BitVec.ofNat 8 count).toNat = count := by
    rw [BitVec.toNat_ofNat]
    exact Nat.mod_eq_of_lt (lt_trans room (by decide))
  rw [Created, Created, ← BitVec.toNat_inj, value]
  omega

theorem live_succ {count : ℕ} (room : count < taskDescriptorMaxTasks) {ctx : QueueRef} :
    Live (count + 1) ctx ↔ Live count ctx ∨ ctx = .sendQ (BitVec.ofNat 8 count) := by
  cases ctx with
  | priorityQ priority => simp [Live]
  | sendQ task => simp [Live, created_succ room]
  | awaitQ event => simp [Live]

theorem not_created_next {count : ℕ} (bounded : count ≤ taskDescriptorMaxTasks) :
    ¬Created count (BitVec.ofNat 8 count) := by
  rw [Created, BitVec.toNat_ofNat, Nat.mod_eq_of_lt (lt_of_le_of_lt bounded (by decide))]
  exact lt_irrefl count

theorem priority_of_accepted {priority : ℤ} (accepted : ¬(priority < 0 ∨ priority > 63)) :
    (BitVec.ofInt 8 priority).toNat = priority.toNat ∧
      (BitVec.ofInt 8 priority).toNat < schedulerPriorityCount := by
  have value : (BitVec.ofInt 8 priority).toNat = priority.toNat := by
    rw [BitVec.toNat_ofInt]
    omega
  refine ⟨value, ?_⟩
  rw [value, schedulerPriorityCount]
  omega

variable {count : ℕ} {kernel : ListKernel} {active : Tid}

/-- Initialising the next descriptor adds a task that is in no queue yet. -/
theorem Sound.init (sound : Sound count kernel) (room : count < taskDescriptorMaxTasks)
    {priority : Byte} (inRange : priority.toNat < schedulerPriorityCount) (parent : Option Tid)
    (code : Addr) :
    Sound (count + 1) (kernel.modify (taskDescriptorInitData · (BitVec.ofNat 8 count)
      (BitVec.ofNat 8 count) priority parent code)) := by
  have old : ∀ {task}, Created count task → task ≠ BitVec.ofNat 8 count := by
    rintro task isCreated rfl
    exact not_created_next room.le isCreated
  refine
    { placed := sound.placed
      live := fun taskMem => (live_succ room).mpr (Or.inl (sound.live taskMem))
      created := fun taskMem => (created_succ room).mpr (Or.inl (sound.created taskMem))
      state := ?_
      priority := ?_
      inRange := ?_
      tid := ?_
      waiting := ?_
      bitmap := sound.bitmap
      bounded := room }
  · intro ctx task taskMem
    simp only [ListKernel.modify, taskDescriptorInitData_of_ne (old (sound.created taskMem))]
    exact sound.state taskMem
  · intro priority task taskMem
    simp only [ListKernel.modify, taskDescriptorInitData_of_ne (old (sound.created taskMem))]
    exact sound.priority taskMem
  · intro task isCreated
    simp only [ListKernel.modify]
    rcases (created_succ room).mp isCreated with oldTask | rfl
    · rw [taskDescriptorInitData_of_ne (old oldTask)]
      exact sound.inRange oldTask
    · rwa [taskDescriptorInitData_priority]
  · intro task isCreated
    simp only [ListKernel.modify]
    rcases (created_succ room).mp isCreated with oldTask | rfl
    · rw [taskDescriptorInitData_of_ne (old oldTask)]
      exact sound.tid oldTask
    · exact taskDescriptorInitData_tid
  · intro task isCreated blocked
    simp only [ListKernel.modify] at blocked ⊢
    rcases (created_succ room).mp isCreated with oldTask | rfl
    · rw [taskDescriptorInitData_of_ne (old oldTask)] at blocked
      exact sound.waiting oldTask blocked
    · simp at blocked

namespace Running

theorem init (running : Running count active kernel) (room : count < taskDescriptorMaxTasks)
    {priority : Byte} (inRange : priority.toNat < schedulerPriorityCount) (parent : Option Tid)
    (code : Addr) :
    Running (count + 1) active (kernel.modify (taskDescriptorInitData · (BitVec.ofNat 8 count)
      (BitVec.ofNat 8 count) priority parent code)) where
  sound := running.sound.init room inRange parent code
  isCreated := (created_succ room).mpr (Or.inl running.isCreated)
  absent := running.absent
  ready := by
    have activeNe : active ≠ BitVec.ofNat 8 count := by
      rintro rfl
      exact not_created_next room.le running.isCreated
    simp only [ListKernel.modify, taskDescriptorInitData_of_ne activeNe]
    exact running.ready

theorem create (running : Running kernel.nextFreeTd active kernel) (priority : ℤ) (code : Addr) :
    Sound (kernel.create active priority code).2.nextFreeTd
      (kernel.create active priority code).2 := by
  rw [ListKernel.create]
  split_ifs with rejected full
  · exact running.sound
  · exact running.sound
  · have room : kernel.nextFreeTd < taskDescriptorMaxTasks := by omega
    have newNe : BitVec.ofNat 8 kernel.nextFreeTd ≠ active := by
      rintro same
      exact not_created_next room.le (same ▸ running.isCreated)
    have newAbsent : Absent kernel.lists (BitVec.ofNat 8 kernel.nextFreeTd) :=
      fun ctx newMem => not_created_next room.le (running.sound.created newMem)
    have initialised := running.init room (priority_of_accepted rejected).2 (some active) code
    have queued := initialised.putOther ((created_succ room).mpr (Or.inr rfl)) newAbsent newNe
    exact queued.put.sameTasks rfl ⟨fun _ => rfl, fun _ => rfl, fun _ => rfl, rfl⟩

theorem send (running : Running kernel.nextFreeTd active kernel) {tid : Byte}
    (safe : (kernel.tds tid).tid = tid → Created kernel.nextFreeTd tid) (msg : Addr) (msgLen : Word)
    (rep : Addr) (repLen : Word) :
    Sound (kernel.send active tid msg msgLen rep repLen).2.nextFreeTd
      (kernel.send active tid msg msgLen rep repLen).2 := by
  rw [ListKernel.send]
  split_ifs with badTid blocked mismatch
  · exact running.put
  · exact running.put
  · -- the message goes to a task that waits for it
    have isCreated := safe (not_not.mp badTid)
    have tidNe : tid ≠ active := by
      rintro rfl
      simp [running.ready] at blocked
    have delivered : Running kernel.nextFreeTd active
        (kernel.modify (·.deliver active tid msg msgLen)) :=
      running.modify ⟨fun _ => rfl, fun _ => rfl, fun _ => rfl, rfl⟩
    have woken := delivered.putOther isCreated (running.sound.absent_of_sendBlocked blocked) tidNe
    have waits := woken.sound.setState .replyBlocked woken.absent (by simp)
    exact waits.sameTasks rfl (KernelData.recordReply_sameTasks rep repLen)
  · -- the message waits for its receiver
    have isCreated := safe (not_not.mp badTid)
    have queued := running.enqueue (.sendQ tid) isCreated (by simp) (by simpa using blocked)
    exact queued.sameTasks rfl ((KernelData.recordMessage_sameTasks msg msgLen).trans
      (KernelData.recordReply_sameTasks rep repLen))

theorem receive (running : Running kernel.nextFreeTd active kernel) (tid msg : Addr)
    (msgLen : Word) :
    Sound (kernel.receive active tid msg msgLen).2.nextFreeTd
      (kernel.receive active tid msg msgLen).2 := by
  rw [ListKernel.receive]
  cases shape : kernel.lists (.sendQ active) with
  | nil =>
      have waits := running.sound.setState .sendBlocked running.absent fun _ => shape
      exact waits.sameTasks rfl (KernelData.recordReceive_sameTasks tid msg msgLen)
  | cons sender rest =>
      have senderMem : sender ∈ kernel.lists (.sendQ active) := by
        rw [shape]
        exact List.mem_cons_self
      have left := running.leave shape (by simp)
      have senderAbsent := running.sound.placed.absent_tail shape
      have senderNe : sender ≠ active := fun same => running.absent _ (same ▸ senderMem)
      dsimp only
      split_ifs with mismatch
      · exact left.put
      · have fetched : Running kernel.nextFreeTd active
            ((kernel.setList (.sendQ active) rest).modify (·.fetch sender tid msg msgLen)) :=
          left.modify ⟨fun _ => rfl, fun _ => rfl, fun _ => rfl, rfl⟩
        exact fetched.put.setState .replyBlocked (senderAbsent.append senderNe) (by simp)

theorem reply (running : Running kernel.nextFreeTd active kernel) {tid : Byte} {repLen : Word}
    (safe : (kernel.tds tid).tid = tid → Created kernel.nextFreeTd tid ∧
      ((kernel.tds tid).messageParams.repLen = repLen → (kernel.tds tid).state = .replyBlocked))
    (rep : Addr) : Sound (kernel.reply active tid rep repLen).2.nextFreeTd
      (kernel.reply active tid rep repLen).2 := by
  rw [ListKernel.reply]
  split_ifs with badTid mismatch
  · exact running.put
  · exact running.put
  · rcases safe (not_not.mp badTid) with ⟨isCreated, waits⟩
    have blocked := waits (not_not.mp mismatch)
    have tidNe : tid ≠ active := by
      rintro rfl
      simp [running.ready] at blocked
    have answered : Running kernel.nextFreeTd active (kernel.modify (·.answer tid rep repLen)) :=
      running.modify ⟨fun _ => rfl, fun _ => rfl, fun _ => rfl, rfl⟩
    exact (answered.putOther isCreated (running.sound.absent_of_replyBlocked blocked) tidNe).put

theorem awaitEvent (running : Running kernel.nextFreeTd active kernel) (event : Word) :
    Sound (kernel.awaitEvent active event).2.nextFreeTd
      (kernel.awaitEvent active event).2 := by
  rw [ListKernel.awaitEvent]
  split_ifs with outside
  · exact running.put
  · have isLive : Live kernel.nextFreeTd (.awaitQ event) := by
      rw [Live]
      omega
    have enabled : Running kernel.nextFreeTd active (kernel.modify (enableInterrupt · event)) :=
      running.modify (KernelData.enableInterrupt_sameTasks event)
    have queued := enabled.enqueue (.awaitQ event) isLive (by simp) (by simp)
    rw [← enableInterrupt_nextFreeTd kernel.toKernelData event] at queued
    exact queued

theorem parenttid (running : Running kernel.nextFreeTd active kernel) :
    Sound (kernel.parenttid active).2.nextFreeTd
      (kernel.parenttid active).2 := by
  rw [ListKernel.parenttid]
  split <;> exact running.put

/-- Every safe system call of the active task keeps the queues sound. -/
theorem sysCall (running : Running kernel.nextFreeTd active kernel) {call : SysCall}
    (safe : SafeCall kernel.toKernelData call) :
    Sound (kernel.sysCall active call).2.nextFreeTd (kernel.sysCall active call).2 := by
  have finish : ∀ {result : ℤ × ListKernel}, Sound result.2.nextFreeTd result.2 →
      Sound result.2.nextFreeTd (result.2.setReturnValue active result.1) :=
    fun sound => sound.modify KernelData.setReturnValue_sameTasks
  cases call with
  | exit => exact running.sound.setState .exited running.absent (by simp)
  | pass => exact finish running.put
  | create priority code => exact finish (running.create priority code)
  | mytid => exact finish running.put
  | parenttid => exact finish running.parenttid
  | send tid msg msgLen rep repLen => exact finish (running.send safe msg msgLen rep repLen)
  | receive tid msg msgLen => exact finish (running.receive tid msg msgLen)
  | reply tid rep repLen => exact finish (running.reply safe rep)
  | awaitEvent event => exact finish (running.awaitEvent event)
  | panic => exact finish running.sound.panic
  | quit => exact running.sound
  | unknown => exact finish running.sound.panic

theorem interrupt (running : Running kernel.nextFreeTd active kernel)
    (interrupt : ListKernel.Interrupt) :
    Sound (kernel.interrupt active interrupt).nextFreeTd (kernel.interrupt active interrupt) := by
  cases interrupt with
  | event event ret keep1 keep2 =>
      have cleared : Running kernel.nextFreeTd active 
          (kernel.modify (·.maskInterrupts keep1 keep2)) :=
        running.modify ⟨fun _ => rfl, fun _ => rfl, fun _ => rfl, rfl⟩
      have handled : Running kernel.nextFreeTd active _ := cleared.handleEvent event ret
      rw [ListKernel.interrupt, ListKernel.put_nextFreeTd, ListKernel.handleEvent_nextFreeTd]
      exact handled.put
  | spurious =>
      have handled := running.panic.handleEvent sysCallEventTimer 0
      rw [ListKernel.interrupt, ListKernel.put_nextFreeTd, ListKernel.handleEvent_nextFreeTd]
      exact handled.put
  | unexpected => exact running.panic.put

end Running

end ArmKernel
