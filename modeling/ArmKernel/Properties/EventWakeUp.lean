import ArmKernel.ListKernel.SendQueues
import ArmKernel.Properties.TaskLocation
import ArmKernel.Properties.UartReceive

/-!
# The tasks that an event wakes

The event handler takes the tasks that await an event out of its queue one by one, and puts
each into the ready queue of its own priority. `ListKernel.wake_*` say in closed form what
the lists and the data are after the whole loop; `EventHandled` says it of the kernel.

The tasks need to be where their states say, except for some that may be away from every
queue: nobody at a call of `scheduler_get`, and the active task when a trap is handled.
-/

namespace ArmKernel

open PartialMachine Placement

namespace ListKernel

variable {kernel : ListKernel} {event : Word} {ret : ℤ} {tasks : List Tid}

/-- Each task becomes READY, and nothing else of a descriptor changes. -/
theorem wake_tds (kernel : ListKernel) (event : Word) (ret : ℤ) (tasks : List Tid) (task : Tid) :
    (kernel.wake event ret tasks).tds task =
      if task ∈ tasks then { kernel.tds task with state := .ready } else kernel.tds task := by
  induction tasks generalizing kernel with
  | nil => rfl
  | cons first rest ih =>
      have next : (((kernel.setList (.awaitQ event) rest).setReturnValue first ret).put
          first).tds task =
          if task = first then { kernel.tds task with state := .ready } else kernel.tds task := by
        split_ifs with isFirst
        · subst isFirst
          exact Function.update_self task _ kernel.tds
        · exact KernelData.setState_of_ne isFirst _
      refine (ih _).trans ?_
      rw [next]
      by_cases isFirst : task = first <;> by_cases inRest : task ∈ rest <;>
        simp [isFirst, inRest]

/-- Each task finds the value in r0, and nothing else of a frame changes. -/
theorem wake_frames (kernel : ListKernel) (event : Word) (ret : ℤ) (tasks : List Tid)
    (task : Tid) : (kernel.wake event ret tasks).frames task =
      if task ∈ tasks then Function.update (kernel.frames task) 0 (BitVec.ofInt 32 ret)
      else kernel.frames task := by
  induction tasks generalizing kernel with
  | nil => rfl
  | cons first rest ih =>
      have next : (((kernel.setList (.awaitQ event) rest).setReturnValue first ret).put
          first).frames task =
          if task = first then Function.update (kernel.frames task) 0 (BitVec.ofInt 32 ret)
          else kernel.frames task := by
        split_ifs with isFirst
        · subst isFirst
          exact Function.update_self task _ kernel.frames
        · exact Function.update_of_ne isFirst _ kernel.frames
      refine (ih _).trans ?_
      rw [next]
      by_cases isFirst : task = first <;> by_cases inRest : task ∈ rest <;>
        simp [isFirst, inRest]

/-- Each task joins the end of the ready queue of its priority, in the order of the tasks. -/
theorem wake_priorityQ (kernel : ListKernel) (event : Word) (ret : ℤ) (tasks : List Tid)
    (priority : Byte) : (kernel.wake event ret tasks).lists (.priorityQ priority) =
      kernel.lists (.priorityQ priority) ++
        tasks.filter fun task => (kernel.tds task).priority = priority := by
  induction tasks generalizing kernel with
  | nil => simp [wake]
  | cons first rest ih =>
      have samePriority (task : Tid) : ((((kernel.setList (.awaitQ event) rest).setReturnValue
          first ret).put first).tds task).priority = (kernel.tds task).priority :=
        KernelData.setState_priority _
      have next : (((kernel.setList (.awaitQ event) rest).setReturnValue first ret).put
          first).lists (.priorityQ priority) = kernel.lists (.priorityQ priority) ++
            if (kernel.tds first).priority = priority then [first] else [] := by
        split_ifs with own
        · subst own
          simp
        · simp [Ne.symm own]
      refine (ih _).trans ?_
      simp only [samePriority, next, List.filter_cons, decide_eq_true_eq]
      split_ifs <;> simp

theorem wake_bitmap (kernel : ListKernel) (event : Word) (ret : ℤ) (tasks : List Tid)
    {priority : ℕ} (inRange : priority < schedulerPriorityCount) :
    (kernel.wake event ret tasks).bitmap.getLsbD priority =
      (kernel.bitmap.getLsbD priority ||
        tasks.any fun task => priority = (kernel.tds task).priority.toNat) := by
  induction tasks generalizing kernel with
  | nil => simp [wake]
  | cons first rest ih =>
      have samePriority (task : Tid) : ((((kernel.setList (.awaitQ event) rest).setReturnValue
          first ret).put first).tds task).priority = (kernel.tds task).priority :=
        KernelData.setState_priority _
      have next : (((kernel.setList (.awaitQ event) rest).setReturnValue first ret).put
          first).bitmap.getLsbD priority = (kernel.bitmap.getLsbD priority ||
            decide (priority = (kernel.tds first).priority.toNat)) :=
        getLsbD_setBit _ _ inRange
      refine (ih _).trans ?_
      simp only [samePriority, next, List.any_cons, Bool.or_assoc]

theorem wake_data (kernel : ListKernel) (event : Word) (ret : ℤ) (tasks : List Tid) :
    (kernel.wake event ret tasks).toKernelData =
      { kernel.toKernelData with
        tds := (kernel.wake event ret tasks).tds
        frames := (kernel.wake event ret tasks).frames
        bitmap := (kernel.wake event ret tasks).bitmap } := by
  induction tasks generalizing kernel with
  | nil => rfl
  | cons first rest ih => exact ih _

end ListKernel

/-- What the kernel is after all tasks that await the event have been woken. -/
structure EventHandled (kernel after : Kernel) (event : Word) (ret : ℤ) : Prop where
  emptied : queueEmpty after.heap (.awaitQ event) = true
  woken : ∀ task ∈ queueTasks kernel.heap (.awaitQ event),
    after.tds task = { kernel.tds task with state := .ready } ∧
      after.frames task = Function.update (kernel.frames task) 0 (BitVec.ofInt 32 ret) ∧
      OnlyIn after (.priorityQ (kernel.tds task).priority) task
  ready : ∀ priority : Byte, priority.toNat < schedulerPriorityCount →
    queueTasks after.heap (.priorityQ priority) = queueTasks kernel.heap (.priorityQ priority) ++
      (queueTasks kernel.heap (.awaitQ event)).filter fun task =>
        (kernel.tds task).priority = priority
  bitmap : ∀ priority < schedulerPriorityCount, after.bitmap.getLsbD priority =
    (kernel.bitmap.getLsbD priority || (queueTasks kernel.heap (.awaitQ event)).any fun task =>
      priority = (kernel.tds task).priority.toNat)
  queues : ∀ ctx, Live kernel.nextFreeTd ctx → ctx ≠ .awaitQ event →
    (∀ priority, ctx ≠ .priorityQ priority) →
    queueTasks after.heap ctx = queueTasks kernel.heap ctx
  tasks : ∀ task, task ∉ queueTasks kernel.heap (.awaitQ event) →
    after.tds task = kernel.tds task ∧ after.frames task = kernel.frames task
  data : after.toKernelData = { kernel.toKernelData with
    tds := after.tds
    frames := after.frames
    bitmap := after.bitmap }

/-- The task-location invariant, but for tasks that may be away from every queue. -/
def LocatedExcept (away : Tid → Prop) : Kernel → Prop :=
  Abstracts fun model => Located model.nextFreeTd (fun _ => True) away model

theorem Matched.eventHandled {kernel : Kernel} {model : ListKernel} {event : Word}
    (isMatched : Matched kernel model) (inRange : event.toNat < eventHandlerMaxEvents) (ret : ℤ) :
    ∃ after, eventHandlerHandleEvent kernel event ret = some (0, after) ∧
      Matched after (model.handleEvent event ret) ∧ EventHandled kernel after event ret := by
  rcases isMatched with ⟨refines, sound⟩
  rcases refines.eventHandlerHandleEvent sound event ret inRange with ⟨after, done, refines'⟩
  have sound' : Sound model.nextFreeTd (model.handleEvent event ret) := sound.wake rfl
  have sameNext : (model.handleEvent event ret).nextFreeTd = model.nextFreeTd :=
    model.handleEvent_nextFreeTd event ret
  have next : kernel.nextFreeTd = model.nextFreeTd := congrArg KernelData.nextFreeTd refines.data
  have isLive : Live model.nextFreeTd (.awaitQ event) := inRange
  have awaiting := refines.queueTasks_eq (.awaitQ event) isLive
  have isMatched' : Matched after (model.handleEvent event ret) :=
    ⟨by rwa [sameNext], by rwa [sameNext]⟩
  have tds (task : Tid) : after.tds task = _ := (congrFun refines'.sameTds task).trans
    (model.wake_tds event ret _ task)
  have frames (task : Tid) : after.frames task = _ :=
    (congrFun (congrArg KernelData.frames refines'.data) task).trans
      (model.wake_frames event ret _ task)
  have bitmap : after.bitmap = (model.handleEvent event ret).bitmap :=
    congrArg KernelData.bitmap refines'.data
  have sameFrames : kernel.frames = model.frames := congrArg KernelData.frames refines.data
  have sameBitmap : kernel.bitmap = model.bitmap := congrArg KernelData.bitmap refines.data
  have readyQ (priority : Byte) : (model.handleEvent event ret).lists (.priorityQ priority) = _ :=
    model.wake_priorityQ event ret _ priority
  refine ⟨after, done, isMatched', ?_⟩
  rw [← refines.sameTds] at tds readyQ
  exact {
    emptied := by
      rw [refines'.queueEmpty_iff isLive]
      exact (ListKernel.wake_awaitQ rfl event).trans (if_pos rfl)
    woken := by
      intro task taskMem
      rw [awaiting] at taskMem
      refine ⟨(tds task).trans (if_pos taskMem), ?_, ?_⟩
      · rw [sameFrames]
        exact (frames task).trans (if_pos taskMem)
      · rw [isMatched'.onlyIn_iff, readyQ]
        apply List.mem_append_right
        exact List.mem_filter.mpr ⟨taskMem, decide_eq_true rfl⟩
    ready := by
      intro priority priorityLt
      have isReadyQ : Live model.nextFreeTd (.priorityQ priority) := priorityLt
      rw [refines'.queueTasks_eq _ isReadyQ, refines.queueTasks_eq _ isReadyQ, awaiting, readyQ]
    bitmap := by
      intro priority priorityLt
      rw [bitmap, sameBitmap, awaiting, refines.sameTds]
      exact model.wake_bitmap event ret _ priorityLt
    queues := by
      intro ctx ctxLive notAwaited notReady
      rw [next] at ctxLive
      rw [refines'.queueTasks_eq ctx ctxLive, refines.queueTasks_eq ctx ctxLive]
      cases ctx with
      | priorityQ priority => exact absurd rfl (notReady priority)
      | sendQ receiver => exact model.wake_sendQ event ret _ receiver
      | awaitQ other =>
          have otherNe : event ≠ other := fun same => notAwaited (same ▸ rfl)
          exact (ListKernel.wake_awaitQ rfl other).trans (if_neg otherNe)
    tasks := by
      intro task outside
      rw [awaiting] at outside
      rw [sameFrames]
      exact ⟨(tds task).trans (if_neg outside), (frames task).trans (if_neg outside)⟩
    data := by
      rw [refines'.data, refines.data]
      exact model.wake_data event ret _ }

/-- What `Create` sets in the descriptors of tasks, and what the queues keep of them. -/
structure Descriptors (kernel : Kernel) : Prop where
  bounded : kernel.nextFreeTd ≤ taskDescriptorMaxTasks
  priority : ∀ task, Created kernel.nextFreeTd task →
    (kernel.tds task).priority.toNat < schedulerPriorityCount
  state : ∀ task, Created kernel.nextFreeTd task → (kernel.tds task).state ≠ .active
  data : ∀ node : NodeRef, Created kernel.nextFreeTd node.task →
    (kernel.heap.node node).data = some node.task
  unlinked : ∀ node : NodeRef, Created kernel.nextFreeTd node.task →
    (∀ ctx, Live kernel.nextFreeTd ctx → node ∉ (queueTasks kernel.heap ctx).map ctx.node) →
    kernel.heap.next node = none

/-- The lists of tasks, read off the queues. -/
def Kernel.lists (kernel : Kernel) : ListKernel :=
  { toKernelData := kernel.toKernelData
    lists := fun ctx => if Live kernel.nextFreeTd ctx then queueTasks kernel.heap ctx else [] }

section Reading

variable {kernel : Kernel} {ctx : QueueRef} {task : Tid}

/-- A task in a queue is in the state that the queue is for, and nowhere else. -/
theorem TaskLocation.of_mem (located : TaskLocation kernel) (descriptors : Descriptors kernel)
    (isLive : Live kernel.nextFreeTd ctx) (taskMem : task ∈ queueTasks kernel.heap ctx) :
    OnlyIn kernel ctx task ∧ (kernel.tds task).state = ctx.state ∧
      ∀ priority, ctx = .priorityQ priority → (kernel.tds task).priority = priority := by
  have isCreated := located.created ctx isLive task taskMem
  have here {home : QueueRef} (only : OnlyIn kernel home task) : home = ctx := by
    by_contra otherNe
    exact only.2.2 ctx isLive (Ne.symm otherNe) taskMem
  cases state : (kernel.tds task).state with
  | ready =>
      have only := (located.ready task isCreated).mp state
      rcases here only with rfl
      exact ⟨only, rfl, fun priority same => QueueRef.priorityQ.inj same⟩
  | receiveBlocked =>
      rcases (located.receiveBlocked task isCreated).mp state with ⟨receiver, only⟩
      rcases here only with rfl
      exact ⟨only, rfl, by simp⟩
  | eventBlocked =>
      rcases (located.eventBlocked task isCreated).mp state with ⟨event, only⟩
      rcases here only with rfl
      exact ⟨only, rfl, by simp⟩
  | active => exact absurd state (descriptors.state task isCreated)
  | sendBlocked =>
      have outside := (located.unqueued task isCreated).mp (.inl state)
      exact absurd taskMem (outside ctx isLive)
  | replyBlocked =>
      have outside := (located.unqueued task isCreated).mp (.inr (.inl state))
      exact absurd taskMem (outside ctx isLive)
  | exited =>
      have outside := (located.unqueued task isCreated).mp (.inr (.inr state))
      exact absurd taskMem (outside ctx isLive)

theorem Kernel.lists_of_live (isLive : Live kernel.nextFreeTd ctx) :
    kernel.lists.lists ctx = queueTasks kernel.heap ctx := if_pos isLive

theorem Kernel.live_of_mem (taskMem : task ∈ kernel.lists.lists ctx) :
    Live kernel.nextFreeTd ctx ∧ task ∈ queueTasks kernel.heap ctx := by
  by_cases isLive : Live kernel.nextFreeTd ctx
  · rw [Kernel.lists_of_live isLive] at taskMem
    exact ⟨isLive, taskMem⟩
  · have nobody : kernel.lists.lists ctx = [] := if_neg isLive
    simp [nobody] at taskMem

theorem TaskLocation.placed (located : TaskLocation kernel) (descriptors : Descriptors kernel) :
    Placed kernel.lists.lists := by
  constructor
  · intro ctx
    by_cases isLive : Live kernel.nextFreeTd ctx
    · rw [Kernel.lists_of_live isLive, List.nodup_iff_count_eq_one]
      intro task taskMem
      exact (located.of_mem descriptors isLive taskMem).1.2.1
    · rw [show kernel.lists.lists ctx = [] from if_neg isLive]
      exact List.nodup_nil
  · intro ctx ctx' task taskMem taskMem'
    rcases Kernel.live_of_mem taskMem with ⟨isLive, inQueue⟩
    rcases Kernel.live_of_mem taskMem' with ⟨isLive', inQueue'⟩
    have only := (located.of_mem descriptors isLive' inQueue').1
    by_contra otherNe
    exact only.2.2 ctx isLive otherNe inQueue

theorem TaskLocation.holds (located : TaskLocation kernel) (descriptors : Descriptors kernel) :
    kernel.heap.Holds (Live kernel.nextFreeTd) (Created kernel.nextFreeTd) kernel.lists.lists := by
  have nodes (ctx : QueueRef) (isLive : Live kernel.nextFreeTd ctx) :
      nodesOf kernel.lists.lists ctx = (queueTasks kernel.heap ctx).map ctx.node := by
    rw [nodesOf, Kernel.lists_of_live isLive]
  exact {
    placed := placed_nodesOf (located.placed descriptors)
    chain := by
      intro ctx isLive
      rw [nodes ctx isLive]
      exact (located.wellFormed ctx isLive).chain
    elements := by
      intro ctx isLive
      rw [nodes ctx isLive, List.length_map]
      exact (located.wellFormed ctx isLive).elements
    back := by
      intro ctx isLive _ node nodeMem
      rw [nodes ctx isLive, List.getLast?_map] at nodeMem
      rcases Option.mem_map.mp nodeMem with ⟨last, lastMem, rfl⟩
      exact (located.wellFormed ctx isLive).back last lastMem
    dead := by
      intro ctx notLive
      rw [nodesOf, show kernel.lists.lists ctx = [] from if_neg notLive, List.map_nil]
    member := by
      intro ctx node nodeMem
      rcases List.mem_map.mp nodeMem with ⟨task, taskMem, rfl⟩
      rcases Kernel.live_of_mem taskMem with ⟨isLive, inQueue⟩
      change Created kernel.nextFreeTd (ctx.node task).task
      rw [QueueRef.node_task]
      exact located.created ctx isLive task inQueue
    data := descriptors.data
    unlinked := by
      intro node isCreated absent
      apply descriptors.unlinked node isCreated
      intro ctx isLive
      rw [← nodes ctx isLive]
      exact absent ctx }

/-- Where every task is in its place, the kernel refines the lists that are read off it. -/
theorem TaskLocation.matched (located : TaskLocation kernel) (descriptors : Descriptors kernel) :
    Matched kernel kernel.lists := by
  refine ⟨⟨rfl, located.holds descriptors⟩, ?_⟩
  have inQueue {ctx : QueueRef} {task : Tid} (taskMem : task ∈ kernel.lists.lists ctx) :=
    located.of_mem descriptors (Kernel.live_of_mem taskMem).1 (Kernel.live_of_mem taskMem).2
  exact {
    placed := located.placed descriptors
    live := fun taskMem => (Kernel.live_of_mem taskMem).1
    created := fun taskMem => located.created _ (Kernel.live_of_mem taskMem).1 _
      (Kernel.live_of_mem taskMem).2
    state := fun taskMem => (inQueue taskMem).2.1
    priority := fun taskMem => (inQueue taskMem).2.2 _ rfl
    inRange := fun isCreated => descriptors.priority _ isCreated
    tid := fun isCreated => located.tid _ isCreated
    waiting := by
      intro task isCreated blocked
      have isLive : Live kernel.nextFreeTd (.sendQ task) := isCreated
      rw [Kernel.lists_of_live isLive]
      exact located.waiting task isCreated blocked
    bitmap := by
      intro index indexLt bit
      have value : (BitVec.ofNat 8 index).toNat = index := by
        rw [BitVec.toNat_ofNat]
        exact Nat.mod_eq_of_lt (lt_trans indexLt (by decide))
      have isLive : Live kernel.nextFreeTd (.priorityQ (BitVec.ofNat 8 index)) := by
        change (BitVec.ofNat 8 index).toNat < schedulerPriorityCount
        rwa [value]
      rw [Kernel.lists_of_live isLive]
      apply (located.bitmap _ isLive).mp
      rwa [value]
    bounded := descriptors.bounded }

/-- What the invariant with nobody away says about the descriptors. -/
theorem Matched.descriptors {model : ListKernel} (isMatched : Matched kernel model)
    (located : Located model.nextFreeTd (fun _ => True) (fun _ => False) model) :
    Descriptors kernel := by
  rcases isMatched with ⟨refines, sound⟩
  have next : kernel.nextFreeTd = model.nextFreeTd := congrArg KernelData.nextFreeTd refines.data
  exact {
    bounded := next ▸ sound.bounded
    priority := by
      intro task isCreated
      rw [next] at isCreated
      rw [refines.sameTds]
      exact sound.inRange isCreated
    state := by
      intro task isCreated state
      rw [next] at isCreated
      rw [refines.sameTds] at state
      have homed := located.homed task isCreated id trivial
      rw [Homed, state] at homed
      exact homed
    data := by
      intro node isCreated
      rw [next] at isCreated
      exact refines.holds.data node isCreated
    unlinked := by
      intro node isCreated outside
      rw [next] at isCreated outside
      apply refines.holds.unlinked node isCreated
      intro ctx
      by_cases isLive : Live model.nextFreeTd ctx
      · have outside := outside ctx isLive
        rwa [refines.queueTasks_eq ctx isLive] at outside
      · rw [refines.holds.dead ctx isLive]
        exact List.not_mem_nil }

/-- The invariant with nobody away is the task-location invariant, in tables of tasks that
have been initialised. -/
theorem locatedExcept_iff : LocatedExcept (fun _ => False) kernel ↔
    TaskLocation kernel ∧ Descriptors kernel := by
  constructor
  · rintro ⟨model, isMatched, located⟩
    exact ⟨located.taskLocation isMatched, isMatched.descriptors located⟩
  · rintro ⟨located, descriptors⟩
    refine ⟨kernel.lists, located.matched descriptors, ?_, ?_⟩
    · intro task isCreated _ _
      have inList {ctx : QueueRef} (only : OnlyIn kernel ctx task) :
          task ∈ kernel.lists.lists ctx := (located.matched descriptors).onlyIn_iff.mp only
      have sameTds : kernel.lists.tds = kernel.tds := rfl
      cases state : (kernel.tds task).state with
      | ready =>
          simp only [Homed, sameTds, state]
          exact inList ((located.ready task isCreated).mp state)
      | receiveBlocked =>
          rcases (located.receiveBlocked task isCreated).mp state with ⟨receiver, only⟩
          simp only [Homed, sameTds, state]
          exact ⟨receiver, inList only⟩
      | eventBlocked =>
          rcases (located.eventBlocked task isCreated).mp state with ⟨event, only⟩
          simp only [Homed, sameTds, state]
          exact ⟨event, inList only⟩
      | active => exact absurd state (descriptors.state task isCreated)
      | sendBlocked | replyBlocked | exited => simp only [Homed, sameTds, state]
    · intro _ priority nonempty
      have isLive : Live kernel.nextFreeTd (.priorityQ priority) := by
        by_contra notLive
        exact nonempty (if_neg notLive)
      apply (located.bitmap priority isLive).mpr
      rwa [← Kernel.lists_of_live isLive]

end Reading

/-- A task that runs is away, and all others stay where they were. -/
theorem LocatedExcept.entered {kernel entered : Kernel} {active : Tid} {activation : Activation}
    (located : LocatedExcept (fun _ => False) kernel)
    (enters : kernelEntry kernel activation = some (active, entered)) :
    LocatedExcept (· = active) entered := by
  rcases located with ⟨model, isMatched, located⟩
  rcases isMatched.entered enters with ⟨model', runs, -, refines, running⟩
  exact ⟨model', ⟨refines, running.sound⟩, located.entry runs⟩

/-- Event wake-up is complete and local: wherever the tasks are where their states say, the
handler ends, and it wakes the tasks that await the event and nobody else. -/
theorem eventHandlerHandleEvent_wakesAll {away : Tid → Prop} {kernel : Kernel} {event : Word}
    (located : LocatedExcept away kernel) (inRange : event.toNat < eventHandlerMaxEvents)
    (ret : ℤ) : ∃ after, eventHandlerHandleEvent kernel event ret = some (0, after) ∧
      EventHandled kernel after event ret ∧ LocatedExcept away after := by
  rcases located with ⟨model, isMatched, located⟩
  rcases isMatched.eventHandled inRange ret with ⟨after, done, isMatched', handled⟩
  have located' : Located (model.handleEvent event ret).nextFreeTd (fun _ => True) away
      (model.handleEvent event ret) := by
    rw [model.handleEvent_nextFreeTd event ret]
    exact located.wake isMatched.sound rfl
  exact ⟨after, done, handled, _, isMatched', located'⟩

/-- The first task creates a task of a higher priority; both await the timer. -/
def timerAwaited : Kernel :=
  finalOf mainStep zeroedStart
    [callActivation 2 0 0 0, callActivation 8 sysCallEventTimer 0 0,
      callActivation 8 sysCallEventTimer 0 0]

/-- The two tasks go to two ready queues, in a legal run. -/
theorem eventHandlerHandleEvent_wakesAll_timer :
    queueTasks timerAwaited.heap (.awaitQ sysCallEventTimer) = [2, 0] ∧
      ∃ after, eventHandlerHandleEvent timerAwaited sysCallEventTimer 7 = some (0, after) ∧
        EventHandled timerAwaited after sysCallEventTimer 7 ∧
        LocatedExcept (fun _ => False) after := by
  have booted : init zeroedBoot 0 0 = some zeroedStart := rfl
  have runs : (record mainStep zeroedStart [callActivation 2 0 0 0,
      callActivation 8 sysCallEventTimer 0 0,
      callActivation 8 sysCallEventTimer 0 0]).isSome := by decide +kernel
  have located := run_located booted (.of_isSome runs) (by decide +kernel)
  exact ⟨by decide +kernel, eventHandlerHandleEvent_wakesAll located (by decide) 7⟩

end ArmKernel
