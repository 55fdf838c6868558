import ArmKernel.ListKernel.SafeSteps

/-!
# The kernel refines the kernel as lists

`Refines count kernel model` relates the kernel with its heap of nodes to the kernel as
lists of tasks: the data is the same, and the queues of the heap hold the lists. Each
operation of the source is then shown to return, from related states, what the operation
on lists returns, in related states. As a fault of the source has no result, this
includes that no operation follows a null pointer.

The operations on lists are total, so this needs the queues to be sound: a task that is
put into a queue must not be in one.
-/

namespace ArmKernel

open Placement

structure Refines (count : ℕ) (kernel : Kernel) (model : ListKernel) : Prop where
  data : kernel.toKernelData = model.toKernelData
  holds : kernel.heap.Holds (Live count) (Created count) model.lists

/-- The operation returns the expected result in a state that refines the expected one. -/
def Realizes {Result : Type} (count : ℕ) (actual : Option (Result × Kernel))
    (expected : Result × ListKernel) : Prop :=
  ∃ kernel, actual = some (expected.1, kernel) ∧ Refines count kernel expected.2

/-- An operation is followed by one that starts from the refined state. -/
theorem Realizes.bind {First Result : Type} {count count' : ℕ}
    {actual : Option (First × Kernel)} {middle : First × ListKernel}
    {rest : First × Kernel → Option (Result × Kernel)} {expected : Result × ListKernel}
    (first : Realizes count actual middle)
    (next : ∀ kernel, Refines count kernel middle.2 →
      Realizes count' (rest (middle.1, kernel)) expected) :
    Realizes count' (actual >>= rest) expected := by
  rcases first with ⟨kernel, rfl, refines⟩
  exact next kernel refines

theorem Realizes.result {Result : Type} {count : ℕ} {actual : Option (Result × Kernel)}
    {expected : Result × ListKernel} (realizes : Realizes count actual expected) :
    actual.map Prod.fst = some expected.1 := by
  rcases realizes with ⟨kernel, rfl, -⟩
  rfl

theorem Refines.returns {Result : Type} {count : ℕ} {kernel : Kernel} {model : ListKernel}
    (refines : Refines count kernel model) (result : Result) :
    Realizes count (some (result, kernel)) (result, model) :=
  ⟨kernel, rfl, refines⟩

namespace Refines

variable {count : ℕ} {kernel : Kernel} {model : ListKernel} {active task : Tid}
  {ctx : QueueRef}

theorem modify (refines : Refines count kernel model) (change : KernelData → KernelData) :
    Refines count (kernel.modify change) (model.modify change) :=
  ⟨congrArg change refines.data, refines.holds⟩

theorem queueEmpty_iff (refines : Refines count kernel model) (isLive : Live count ctx) :
    queueEmpty kernel.heap ctx = true ↔ model.lists ctx = [] :=
  refines.holds.queueEmpty_iff isLive

theorem queueTasks_eq (refines : Refines count kernel model) (ctx : QueueRef)
    (isLive : Live count ctx) :
    queueTasks kernel.heap ctx = model.lists ctx :=
  refines.holds.queueTasks_eq isLive

theorem enqueue (refines : Refines count kernel model) (ctx : QueueRef)
    (isLive : Live count ctx) (isCreated : Created count task)
    (absent : Absent model.lists task) :
    ∃ heap, queuePut kernel.heap ctx (some (ctx.node task)) = some (0, heap) ∧
      Refines count { kernel with heap := heap } (model.enqueue ctx task) := by
  rcases refines.holds.queuePut isLive isCreated absent with ⟨heap, done, holds⟩
  exact ⟨heap, done, refines.data, holds⟩

theorem dequeue (refines : Refines count kernel model) (isLive : Live count ctx)
    {rest : List Tid} (shape : model.lists ctx = task :: rest) :
    ∃ heap, queueGet kernel.heap ctx = some (some task, heap) ∧
      Refines count { kernel with heap := heap } (model.setList ctx rest) := by
  rcases refines.holds.queueGet_cons isLive shape with ⟨heap, done, holds⟩
  exact ⟨heap, done, refines.data, holds⟩

theorem schedulerPut (refines : Refines count kernel model) (sound : Sound count model)
    (isCreated : Created count task) (absent : Absent model.lists task) :
    Realizes count (schedulerPut kernel task) (0, model.put task) := by
  have inRange := sound.inRange isCreated
  have sameTds : kernel.tds = model.tds := congrArg KernelData.tds refines.data
  rw [← sameTds] at inRange
  obtain ⟨heap, done, holds⟩ :=
    schedulerPut_holds refines.holds inRange inRange isCreated absent
  refine ⟨_, done, congrArg (·.markReady task) refines.data, ?_⟩
  rw [sameTds] at holds
  exact holds

theorem schedulerGet_none (refines : Refines count kernel model)
    (empty : schedulerEmpty model.toKernelData = true) :
    schedulerGet kernel = some (none, kernel) :=
  ArmKernel.schedulerGet_none (refines.data ▸ empty)

theorem schedulerGet {model' : ListKernel} (refines : Refines count kernel model)
    (got : model.get = some (task, model')) (sound : Sound count model) :
    ∃ kernel', schedulerGet kernel = some (some task, kernel') ∧
      Refines count kernel' model' := by
  rcases ListKernel.get_eq got with ⟨rest, set, shape, rfl⟩
  have sameBitmap : kernel.bitmap = model.bitmap := congrArg KernelData.bitmap refines.data
  have isLive : Live count (.priorityQ (bitmapLeadingzeroes kernel.bitmap)) := by
    have taskMem : task ∈ model.lists (.priorityQ (bitmapLeadingzeroes model.bitmap)) := by
      rw [shape]
      exact List.mem_cons_self
    rw [sameBitmap]
    exact sound.live taskMem
  rw [← sameBitmap] at shape
  obtain ⟨heap, done, holds⟩ :=
    schedulerGet_holds refines.holds (refines.data ▸ set) isLive shape
  refine ⟨_, done, ?_, ?_⟩
  · simp only [ListKernel.take, ← sameBitmap, refines.data]
  · rw [sameBitmap] at holds
    exact holds

/-- The loop of the event handler wakes the tasks of the queue in their order. -/
theorem eventHandlerLoop {event : Word} {tasks : List Tid} (ret : ℤ)
    (refines : Refines count kernel model) (sound : Sound count model)
    (isLive : Live count (.awaitQ event)) (shape : model.lists (.awaitQ event) = tasks) :
    ∃ kernel', eventHandlerLoop event ret tasks.length kernel = some kernel' ∧
      Refines count kernel' (model.wake event ret tasks) := by
  induction tasks generalizing kernel model with
  | nil =>
      have empty := (refines.queueEmpty_iff isLive).mpr shape
      exact ⟨kernel, by simp [ArmKernel.eventHandlerLoop, empty], refines⟩
  | cons first rest ih =>
      have nonempty : queueEmpty kernel.heap (.awaitQ event) = false := by
        rw [Bool.eq_false_iff, ne_eq, refines.queueEmpty_iff isLive, shape]
        simp
      have firstMem : first ∈ model.lists (.awaitQ event) := by
        rw [shape]
        exact List.mem_cons_self
      rcases refines.dequeue isLive shape with ⟨heap, taken, left⟩
      have answered := left.modify (taskDescriptorSetReturnValue · first ret)
      have answeredSound : Sound count
          ((model.setList (.awaitQ event) rest).setReturnValue first ret) :=
        (sound.leaveBlocked shape (by simp)).modify KernelData.setReturnValue_sameTasks
      obtain ⟨kernel', done, woken⟩ := answered.schedulerPut answeredSound
        (sound.created firstMem) (sound.placed.absent_tail shape)
      obtain ⟨kernel'', finished, refines'⟩ := ih woken (sound.wakeFirst shape)
        (ListKernel.wake_rest _ _ _ _ _)
      refine ⟨kernel'', ?_, refines'⟩
      rw [List.length_cons, ArmKernel.eventHandlerLoop, nonempty, taken]
      simp [done, finished]

theorem eventHandlerHandleEvent (refines : Refines count kernel model)
    (sound : Sound count model) (event : Word) (ret : ℤ)
    (inRange : event.toNat < eventHandlerMaxEvents) :
    Realizes count (eventHandlerHandleEvent kernel event ret)
      (0, model.handleEvent event ret) := by
  have isLive : Live count (.awaitQ event) := inRange
  have fuel : (queueSize kernel.heap (.awaitQ event)).toNat =
      (model.lists (.awaitQ event)).length := by
    have elements := refines.holds.elements (.awaitQ event) isLive
    rw [nodesOf, List.length_map] at elements
    exact elements
  rcases refines.eventHandlerLoop ret sound isLive rfl with ⟨kernel', done, refines'⟩
  refine ⟨kernel', ?_, refines'⟩
  have notOutside : ¬event.toNat ≥ eventHandlerMaxEvents := by omega
  simp [ArmKernel.eventHandlerHandleEvent, notOutside, fuel, done]

section SystemCalls

theorem sameTds (refines : Refines count kernel model) : kernel.tds = model.tds :=
  congrArg KernelData.tds refines.data

/-- The active task is put back into its ready queue and the call returns. -/
theorem requeue (refines : Refines count kernel model) (running : Running count active model)
    (result : ℤ) :
    Realizes count (do
      let (_, kernel) ← ArmKernel.schedulerPut kernel active
      some (result, kernel)) (result, model.put active) :=
  (refines.schedulerPut running.sound running.isCreated running.absent).bind
    fun _ refines' => refines'.returns result

theorem kernelMytid (refines : Refines count kernel model)
    (running : Running count active model) :
    Realizes count (kernelMytid kernel active)
      ((model.tds active).tid.toNat, model.put active) := by
  refine (refines.schedulerPut running.sound running.isCreated running.absent).bind
    fun kernel' refines' => ?_
  have sameTid : (kernel'.tds active).tid = (model.tds active).tid := by
    rw [refines'.sameTds]
    exact KernelData.setState_tid _
  simp only [sameTid]
  exact refines'.returns _

theorem kernelParenttid (refines : Refines count kernel model)
    (running : Running count active model) :
    Realizes count (kernelParenttid kernel active) (model.parenttid active) := by
  refine (refines.schedulerPut running.sound running.isCreated running.absent).bind
    fun kernel' refines' => ?_
  have sameParent : (kernel'.tds active).parent = (model.tds active).parent := by
    rw [refines'.sameTds]
    exact KernelData.setState_parent _
  simp only [sameParent, ListKernel.parenttid]
  cases (model.tds active).parent with
  | none => exact refines'.returns _
  | some parent =>
      simp only [refines'.sameTds]
      exact refines'.returns _

theorem kernelSend {tid : Byte} (refines : Refines count kernel model)
    (running : Running count active model)
    (safe : (model.tds tid).tid = tid → Created count tid) (msg : Addr) (msgLen : Word)
    (rep : Addr) (repLen : Word) :
    Realizes count (kernelSend kernel active tid msg msgLen rep repLen)
      (model.send active tid msg msgLen rep repLen) := by
  simp only [ArmKernel.kernelSend, ListKernel.send, refines.sameTds, Kernel.modify_data,
    KernelData.setMem_tds]
  split_ifs with badTid blocked mismatch
  · exact refines.requeue running _
  · exact refines.requeue running _
  · have isCreated := safe (not_not.mp badTid)
    have sound : Sound count (model.modify (·.deliver active tid msg msgLen)) :=
      running.sound.modify ⟨fun _ => rfl, fun _ => rfl, fun _ => rfl, rfl⟩
    have absent := running.sound.absent_of_sendBlocked blocked
    have copied := refines.modify fun data =>
      data.setMem (memcpy data.mem (model.tds tid).messageParams.msg msg msgLen)
    have named := copied.modify fun data =>
      data.setMem (storeByte data.mem (model.tds tid).messageParams.tid (data.tds active).tid)
    have delivered := named.modify
      (taskDescriptorSetReturnValue · tid (model.tds active).tid.toNat)
    exact (delivered.schedulerPut sound isCreated absent).bind fun kernel' woken =>
      ((woken.modify _).modify _).returns _
  · have isCreated := safe (not_not.mp badTid)
    obtain ⟨heap, done, queued⟩ := refines.enqueue (.sendQ tid) isCreated
      running.isCreated running.absent
    rw [QueueRef.node] at done
    rw [done]
    exact (((queued.modify _).modify _).modify _).returns _

theorem kernelReceive (refines : Refines count kernel model)
    (running : Running count active model) (tid msg : Addr) (msgLen : Word) :
    Realizes count (kernelReceive kernel active tid msg msgLen)
      (model.receive active tid msg msgLen) := by
  have isLive : Live count (.sendQ active) := running.isCreated
  have emptyIff := refines.queueEmpty_iff isLive
  rw [ArmKernel.kernelReceive, ListKernel.receive]
  cases shape : model.lists (.sendQ active) with
  | nil =>
      rw [emptyIff.mpr shape]
      exact ((refines.modify _).modify _).returns _
  | cons sender rest =>
      have nonempty : queueEmpty kernel.heap (.sendQ active) = false := by
        rw [Bool.eq_false_iff, ne_eq, emptyIff, shape]
        simp
      rcases refines.dequeue isLive shape with ⟨heap, taken, left⟩
      have leftRunning := running.leave shape (by simp)
      have leftTds : kernel.tds = (model.setList (.sendQ active) rest).tds := left.sameTds
      simp only [nonempty, taken, leftTds, Bool.not_false, if_true, Option.bind_eq_bind,
        Option.bind_some]
      split_ifs with mismatch
      · exact left.requeue leftRunning _
      · have copied := left.modify fun data =>
          data.setMem (memcpy data.mem msg (model.tds sender).messageParams.msg msgLen)
        have fetched := copied.modify fun data =>
          data.setMem (storeByte data.mem tid (data.tds sender).tid)
        have fetchedRunning : Running count active
            ((model.setList (.sendQ active) rest).modify (·.fetch sender tid msg msgLen)) :=
          leftRunning.modify ⟨fun _ => rfl, fun _ => rfl, fun _ => rfl, rfl⟩
        refine (fetched.schedulerPut fetchedRunning.sound running.isCreated
          fetchedRunning.absent).bind fun kernel' woken => ?_
        have returned : kernel'.mem tid = (model.tds sender).tid := by
          rw [woken.data]
          exact storeByte_self _ _ _
        simp only [Kernel.modify_data]
        rw [show (kernel'.setState sender .replyBlocked).mem tid = kernel'.mem tid from rfl,
          returned]
        exact (woken.modify _).returns _

theorem kernelReply {tid : Byte} {repLen : Word} (refines : Refines count kernel model)
    (running : Running count active model)
    (safe : (model.tds tid).tid = tid → Created count tid ∧
      ((model.tds tid).messageParams.repLen = repLen → (model.tds tid).state = .replyBlocked))
    (rep : Addr) :
    Realizes count (kernelReply kernel active tid rep repLen)
      (model.reply active tid rep repLen) := by
  simp only [ArmKernel.kernelReply, ListKernel.reply, refines.sameTds]
  split_ifs with badTid mismatch
  · exact refines.requeue running _
  · exact refines.requeue running _
  · rcases safe (not_not.mp badTid) with ⟨isCreated, waits⟩
    have blocked := waits (not_not.mp mismatch)
    have tidNe : tid ≠ active := by
      rintro rfl
      simp [running.ready] at blocked
    have answeredRunning : Running count active (model.modify (·.answer tid rep repLen)) :=
      running.modify ⟨fun _ => rfl, fun _ => rfl, fun _ => rfl, rfl⟩
    have absent := running.sound.absent_of_replyBlocked blocked
    have copied := refines.modify fun data =>
      data.setMem (memcpy data.mem (model.tds tid).messageParams.rep rep repLen)
    have answered := copied.modify (taskDescriptorSetReturnValue · tid 0)
    exact (answered.schedulerPut answeredRunning.sound isCreated absent).bind fun _ woken =>
      woken.requeue (answeredRunning.putOther isCreated absent tidNe) 0

theorem kernelAwaitEvent (refines : Refines count kernel model)
    (running : Running count active model) (event : Word) :
    Realizes count (kernelAwaitEvent kernel active event) (model.awaitEvent active event) := by
  rw [ArmKernel.kernelAwaitEvent, ListKernel.awaitEvent]
  split_ifs with outside
  · exact refines.requeue running _
  · have isLive : Live count (.awaitQ event) := by
      rw [Live]
      omega
    have enabled := refines.modify (enableInterrupt · event)
    have blocked := enabled.modify (·.setState active .eventBlocked)
    obtain ⟨heap, done, queued⟩ :=
      blocked.enqueue (.awaitQ event) isLive running.isCreated running.absent
    rw [QueueRef.node] at done
    simp only [eventHandlerAddTask, outside, if_false, done]
    exact queued.returns _

theorem taskDescriptorInit (refines : Refines count kernel model)
    (room : count < taskDescriptorMaxTasks) (priority : Byte) (parent : Option Tid)
    (code : Addr) :
    Refines (count + 1)
      (taskDescriptorInit kernel (BitVec.ofNat 8 count) (BitVec.ofNat 8 count) priority parent
        code)
      (model.modify (taskDescriptorInitData · (BitVec.ofNat 8 count) (BitVec.ofNat 8 count)
        priority parent code)) := by
  refine ⟨congrArg (taskDescriptorInitData · (BitVec.ofNat 8 count) (BitVec.ofNat 8 count)
    priority parent code) refines.data, ?_⟩
  have unused := not_created_next room.le
  have isDead : ¬Live count (.sendQ (BitVec.ofNat 8 count)) := unused
  have holds := refines.holds.taskDescriptorInitQueues (BitVec.ofNat 8 count) isDead unused
  have sameLive : (fun ctx => Live count ctx ∨ ctx = .sendQ (BitVec.ofNat 8 count)) =
      Live (count + 1) := funext fun ctx => propext (live_succ room).symm
  have sameCreated : (fun task => Created count task ∨ task = BitVec.ofNat 8 count) =
      Created (count + 1) := funext fun task => propext (created_succ room).symm
  rw [sameLive, sameCreated] at holds
  exact holds

theorem kernelCreate (refines : Refines model.nextFreeTd kernel model)
    (running : Running model.nextFreeTd active model) (priority : ℤ) (code : Addr) :
    Realizes (model.create active priority code).2.nextFreeTd
      (kernelCreate kernel active priority code) (model.create active priority code) := by
  have sameNext : kernel.nextFreeTd = model.nextFreeTd :=
    congrArg KernelData.nextFreeTd refines.data
  simp only [ArmKernel.kernelCreate, ListKernel.create, sameNext]
  split_ifs with rejected full
  · exact refines.returns _
  · exact refines.returns _
  · have room : model.nextFreeTd < taskDescriptorMaxTasks := by omega
    have inRange := (priority_of_accepted rejected).2
    have newNe : BitVec.ofNat 8 model.nextFreeTd ≠ active := by
      rintro same
      exact not_created_next room.le (same ▸ running.isCreated)
    have newAbsent : Absent model.lists (BitVec.ofNat 8 model.nextFreeTd) :=
      fun ctx newMem => not_created_next room.le (running.sound.created newMem)
    have newCreated : Created (model.nextFreeTd + 1) (BitVec.ofNat 8 model.nextFreeTd) :=
      (created_succ room).mpr (Or.inr rfl)
    have initialised := refines.taskDescriptorInit room (BitVec.ofInt 8 priority) (some active)
      code
    have running' := running.init room inRange (some active) code
    have queued := running'.putOther newCreated newAbsent newNe
    refine (initialised.schedulerPut running'.sound newCreated newAbsent).bind
      fun kernel' woken => ?_
    refine (woken.schedulerPut queued.sound queued.isCreated queued.absent).bind
      fun kernel'' both => ?_
    have tid : (kernel''.tds (BitVec.ofNat 8 model.nextFreeTd)).tid =
        BitVec.ofNat 8 model.nextFreeTd := by
      rw [both.sameTds]
      exact queued.put.tid newCreated
    simp only [tid]
    refine ⟨_, rfl, ?_, both.holds⟩
    simp only [both.data]

theorem finish {actual : Option (ℤ × Kernel)} {expected : ℤ × ListKernel}
    (realizes : Realizes count actual expected) (active : Tid) :
    Realizes count (do
      let (ret, kernel) ← actual
      some (false, kernel.modify (taskDescriptorSetReturnValue · active ret)))
      (false, expected.2.setReturnValue active expected.1) :=
  realizes.bind fun _ refines => (refines.modify _).returns _

theorem handleSysCall (refines : Refines model.nextFreeTd kernel model)
    (running : Running model.nextFreeTd active model) {call : SysCall}
    (safe : SafeCall model.toKernelData call) :
    Realizes (model.sysCall active call).2.nextFreeTd (handleSysCall kernel active call)
      (model.sysCall active call) := by
  have sameBitmap : kernel.bitmap = model.bitmap := congrArg KernelData.bitmap refines.data
  cases call with
  | exit =>
      refine ⟨kernel.modify (·.setState active .exited), ?_, refines.modify _⟩
      exact congrArg (fun bitmap : BitVec 64 =>
        some (bitmap == 0, kernel.modify (·.setState active .exited))) sameBitmap
  | pass =>
      obtain ⟨kernel', put, woken⟩ :=
        refines.schedulerPut running.sound running.isCreated running.absent
      refine ⟨kernel'.modify (taskDescriptorSetReturnValue · active 0), ?_, woken.modify _⟩
      simp [ArmKernel.handleSysCall, kernelPass, put, ListKernel.sysCall]
  | create priority code => exact finish (refines.kernelCreate running priority code) active
  | mytid => exact finish (refines.kernelMytid running) active
  | parenttid =>
      have done := finish (refines.kernelParenttid running) active
      rwa [← model.parenttid_nextFreeTd active] at done
  | send tid msg msgLen rep repLen =>
      have done := finish (refines.kernelSend running safe msg msgLen rep repLen) active
      rwa [← model.send_nextFreeTd active tid msg msgLen rep repLen] at done
  | receive tid msg msgLen =>
      have done := finish (refines.kernelReceive running tid msg msgLen) active
      rwa [← model.receive_nextFreeTd active tid msg msgLen] at done
  | reply tid rep repLen =>
      have done := finish (refines.kernelReply running safe rep) active
      rwa [← model.reply_nextFreeTd active tid rep repLen] at done
  | awaitEvent event =>
      have done := finish (refines.kernelAwaitEvent running event) active
      rwa [← model.awaitEvent_nextFreeTd active event] at done
  | panic => exact ((refines.modify _).modify _).returns _
  | quit => exact refines.returns _
  | unknown => exact ((refines.modify _).modify _).returns _

end SystemCalls

end Refines

end ArmKernel
