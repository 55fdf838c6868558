import ArmKernel.Lib.PriorityLists
import ArmKernel.Kernel.Main

/-!
# The scheduler is an array of lists

From `scheduler_init` on, any sequence of calls of `scheduler_put` and `scheduler_get`
returns what the same operations on 64 lists return, and leaves the ready queues with the
contents of these lists, as long as a task is put only while it is in no ready queue.
-/

namespace ArmKernel

open LowestBit Placement PriorityLists

/-- A call of the scheduler. -/
inductive SchedulerOp where
  | put (td : Tid)
  | get

/-- What the calls of `scheduler_get` return in a sequence of calls, and the kernel then. -/
def schedulerRun (kernel : Kernel) : List SchedulerOp → Option (List (Option Tid) × Kernel)
  | [] => some ([], kernel)
  | .put td :: ops => do
      let (_, kernel) ← schedulerPut kernel td
      schedulerRun kernel ops
  | .get :: ops => do
      let (ret, kernel) ← schedulerGet kernel
      let (rets, kernel) ← schedulerRun kernel ops
      some (ret :: rets, kernel)

/-- The nodes of the task are as `task_descriptor_init` leaves them. -/
def NodesInited (kernel : Kernel) (td : Tid) : Prop :=
  ∀ kind, kernel.heap.node ⟨kind, td⟩ = { data := some td, next := none }

theorem nodesInited_taskDescriptorInit {kernel : Kernel} {ctx td : Tid} {tid priority : Byte}
    {parent : Option Tid} {code : Addr} (inited : td = ctx ∨ NodesInited kernel td) :
    NodesInited (taskDescriptorInit kernel ctx tid priority parent code) td := by
  intro kind
  simp only [taskDescriptorInit, taskDescriptorInitQueues, queueNodeInit, queueInit,
    QueueHeap.setNode]
  rcases eq_or_ne td ctx with rfl | tdNe
  · cases kind <;> simp
  · have old := (inited.resolve_left tdNe) kind
    cases kind <;> simp [tdNe, old]

/-- The lists of the scheduler: a level is a priority. -/
abbrev ReadyLists := Levels schedulerPriorityCount Tid

def levelOf (data : KernelData) (td : Tid) : Fin schedulerPriorityCount :=
  ⟨(data.tds td).priority.toNat % schedulerPriorityCount, Nat.mod_lt _ (by decide)⟩

def levelQueue (level : Fin schedulerPriorityCount) : QueueRef := .priorityQ (BitVec.ofNat 8 level)

/-- The call on lists that a call of the scheduler is. -/
def SchedulerOp.onLists (data : KernelData) : SchedulerOp → Op schedulerPriorityCount Tid
  | .put td => .put (levelOf data td) td
  | .get => .get

/-- Every task is put while it is in no ready queue, and has a priority of at most 63. -/
def PutsAbsent (kernel : Kernel) (lists : ReadyLists) : List SchedulerOp → Prop
  | [] => True
  | .put td :: ops =>
      (NodesInited kernel td ∧ (kernel.tds td).priority.toNat ≤ 63 ∧ ∀ level, td ∉ lists level) ∧
        PutsAbsent kernel (put lists (levelOf kernel.toKernelData td) td) ops
  | .get :: ops => PutsAbsent kernel (get lists).2 ops

/-- The ready queues have the contents of the lists, and the bitmap shows which are empty. -/
structure ShowsLists (kernel : Kernel) (lists : ReadyLists) : Prop where
  tasks : ∀ level, queueTasks kernel.heap (levelQueue level) = lists level
  bitmap : ∀ level : Fin schedulerPriorityCount,
    kernel.bitmap.getLsbD level = true ↔ queueTasks kernel.heap (levelQueue level) ≠ []
  empty : schedulerEmpty kernel.toKernelData = true ↔ ∀ level, lists level = []
  picked : schedulerEmpty kernel.toKernelData = false →
    queueTasks kernel.heap (.priorityQ (bitmapLeadingzeroes kernel.bitmap)) ≠ []

/-- The queues of the scheduler. -/
def IsReadyQueue (ctx : QueueRef) : Prop := ∃ level, ctx = levelQueue level

/-- The lists as contents of the queues. -/
def queuesOf (lists : ReadyLists) : QueueRef → List Tid
  | .priorityQ priority =>
      if inRange : priority.toNat < schedulerPriorityCount then lists ⟨priority.toNat, inRange⟩
      else []
  | _ => []

section Levels

variable {lists : ReadyLists} {level other : Fin schedulerPriorityCount} {priority : Byte}

theorem toNat_level (level : Fin schedulerPriorityCount) :
    (BitVec.ofNat 8 level : Byte).toNat = level := by
  have levelLt : (level : ℕ) < 64 := level.isLt
  rw [BitVec.toNat_ofNat]
  omega

theorem levelQueue_injective (same : levelQueue other = levelQueue level) : other = level := by
  have values := congrArg BitVec.toNat (QueueRef.priorityQ.inj same)
  rw [toNat_level, toNat_level] at values
  exact Fin.ext values

theorem priorityQ_eq (inRange : priority.toNat < schedulerPriorityCount) :
    QueueRef.priorityQ priority = levelQueue ⟨priority.toNat, inRange⟩ := by
  simp [levelQueue]

theorem levelOf_eq {data : KernelData} {td : Tid}
    (inRange : (data.tds td).priority.toNat < schedulerPriorityCount) :
    QueueRef.priorityQ (data.tds td).priority = levelQueue (levelOf data td) := by
  rw [priorityQ_eq inRange]
  exact congrArg levelQueue (Fin.ext (Nat.mod_eq_of_lt inRange).symm)

@[simp]
theorem queuesOf_levelQueue (lists : ReadyLists) (level : Fin schedulerPriorityCount) :
    queuesOf lists (levelQueue level) = lists level := by
  simp only [levelQueue, queuesOf, toNat_level]
  exact dif_pos level.isLt

theorem queuesOf_other {ctx : QueueRef} (outside : ¬IsReadyQueue ctx) :
    queuesOf lists ctx = [] := by
  cases ctx with
  | priorityQ priority =>
      exact dif_neg fun inRange => outside ⟨_, priorityQ_eq inRange⟩
  | sendQ task => rfl
  | awaitQ event => rfl

theorem queuesOf_update (lists : ReadyLists) (level : Fin schedulerPriorityCount)
    (tasks : List Tid) :
    queuesOf (Function.update lists level tasks) =
      Function.update (queuesOf lists) (levelQueue level) tasks := by
  funext ctx
  by_cases isReady : IsReadyQueue ctx
  · rcases isReady with ⟨other, rfl⟩
    rw [queuesOf_levelQueue]
    rcases eq_or_ne other level with rfl | otherNe
    · simp
    · rw [Function.update_of_ne otherNe, Function.update_of_ne (mt levelQueue_injective otherNe),
        queuesOf_levelQueue]
  · have ctxNe : ctx ≠ levelQueue level := fun same => isReady ⟨level, same⟩
    rw [queuesOf_other isReady, Function.update_of_ne ctxNe, queuesOf_other isReady]

theorem absent_queuesOf {td : Tid} (absent : ∀ level, td ∉ lists level) :
    Absent (queuesOf lists) td := by
  intro ctx taskMem
  by_cases isReady : IsReadyQueue ctx
  · rcases isReady with ⟨level, rfl⟩
    rw [queuesOf_levelQueue] at taskMem
    exact absent level taskMem
  · simp [queuesOf_other isReady] at taskMem

end Levels

/-- The ready queues hold the lists, in a kernel that was started with the data of `start`. -/
structure Schedules (start kernel : Kernel) (lists : ReadyLists) : Prop where
  holds : kernel.heap.Holds IsReadyQueue (NodesInited start) (queuesOf lists)
  bitmap : ∀ level : Fin schedulerPriorityCount,
    kernel.bitmap.getLsbD level = true ↔ lists level ≠ []
  priority : ∀ td, (kernel.tds td).priority = (start.tds td).priority

namespace Schedules

variable {start kernel : Kernel} {lists : ReadyLists} {td : Tid}

theorem init (start : Kernel) : Schedules start (schedulerInit start) empty where
  holds := by
    have unused : start.heap.Holds (fun _ => False) (NodesInited start) fun _ => [] :=
      { placed := placed_nodesOf placed_empty
        chain := fun _ isLive => isLive.elim
        elements := fun _ isLive => isLive.elim
        back := fun _ isLive => isLive.elim
        dead := fun _ _ => rfl
        member := fun _ node nodeMem => by simp [nodesOf] at nodeMem
        data := fun node inited => by rw [inited node.kind]; rfl
        unlinked := fun node inited _ => by rw [QueueHeap.next, inited node.kind] }
    have ready := unused.queueInits (fun index => .priorityQ (BitVec.ofNat 8 index))
      (List.range schedulerPriorityCount) (by decide) (by simp)
    have sameLive : (fun ctx => False ∨ ctx ∈ (List.range schedulerPriorityCount).map
        fun index => QueueRef.priorityQ (BitVec.ofNat 8 index)) = IsReadyQueue := by
      funext ctx
      simp only [false_or, List.mem_map, List.mem_range, IsReadyQueue, levelQueue, eq_iff_iff]
      constructor
      · rintro ⟨index, indexLt, rfl⟩
        exact ⟨⟨index, indexLt⟩, rfl⟩
      · rintro ⟨level, rfl⟩
        exact ⟨level, level.isLt, rfl⟩
    have noTasks : queuesOf empty = fun _ => [] := by
      funext ctx
      cases ctx <;> simp [queuesOf, empty]
    rw [sameLive] at ready
    rw [noTasks]
    exact ready
  bitmap level := by simp [schedulerInit, empty]
  priority _ := rfl

theorem levelOf_eq (schedules : Schedules start kernel lists) (td : Tid) :
    levelOf kernel.toKernelData td = levelOf start.toKernelData td := by
  simp only [levelOf, schedules.priority]

theorem lowest_level (schedules : Schedules start kernel lists)
    (nonempty : schedulerEmpty kernel.toKernelData = false) :
    ∃ level, QueueRef.priorityQ (bitmapLeadingzeroes kernel.bitmap) = levelQueue level ∧
      lists level ≠ [] ∧ (∀ other < level, lists other = []) := by
  have nonzero : kernel.bitmap ≠ 0 := by simpa [schedulerEmpty] using nonempty
  rcases bitmapLeadingzeroes_isLowestBit nonzero with ⟨set, lower⟩
  have inRange : (bitmapLeadingzeroes kernel.bitmap).toNat < schedulerPriorityCount :=
    (bitmapLeadingzeroes_isLowestBit nonzero).lt_width
  refine ⟨⟨_, inRange⟩, priorityQ_eq inRange, (schedules.bitmap ⟨_, inRange⟩).mp set, ?_⟩
  intro other otherLt
  by_contra nonempty
  have clear := lower other otherLt
  rw [(schedules.bitmap other).mpr nonempty] at clear
  simp at clear

theorem empty_iff (schedules : Schedules start kernel lists) :
    schedulerEmpty kernel.toKernelData = true ↔ ∀ level, lists level = [] := by
  constructor
  · intro isEmpty level
    by_contra nonempty
    have zero : kernel.bitmap = 0 := by simpa [schedulerEmpty] using isEmpty
    have set := (schedules.bitmap level).mpr nonempty
    simp [zero] at set
  · intro allEmpty
    by_contra isSet
    rcases schedules.lowest_level (Bool.eq_false_iff.mpr isSet) with ⟨level, -, nonempty, -⟩
    exact nonempty (allEmpty level)

theorem showsLists (schedules : Schedules start kernel lists) : ShowsLists kernel lists where
  tasks level := by rw [schedules.holds.queueTasks_eq ⟨level, rfl⟩, queuesOf_levelQueue]
  bitmap level := by
    rw [schedules.holds.queueTasks_eq ⟨level, rfl⟩, queuesOf_levelQueue, schedules.bitmap]
  empty := schedules.empty_iff
  picked nonempty := by
    rcases schedules.lowest_level nonempty with ⟨level, same, hasTask, -⟩
    rwa [same, schedules.holds.queueTasks_eq ⟨level, rfl⟩, queuesOf_levelQueue]

/-- A task that is in no ready queue is put at the end of the one of its priority. -/
theorem put (schedules : Schedules start kernel lists) (inited : NodesInited start td)
    (le63 : (start.tds td).priority.toNat ≤ 63) (absent : ∀ level, td ∉ lists level) :
    ∃ kernel', schedulerPut kernel td = some (0, kernel') ∧
      Schedules start kernel' (PriorityLists.put lists (levelOf start.toKernelData td) td) := by
  have inRange : (kernel.tds td).priority.toNat < schedulerPriorityCount := by
    rw [schedules.priority]
    exact Nat.lt_succ_of_le le63
  have home := ArmKernel.levelOf_eq inRange
  rw [schedules.levelOf_eq] at home
  obtain ⟨heap', done, holds⟩ := schedulerPut_holds schedules.holds ⟨_, home⟩ inRange inited
    (absent_queuesOf absent)
  refine ⟨_, done, ?_, ?_, ?_⟩
  · rw [home, queuesOf_levelQueue, ← queuesOf_update] at holds
    exact holds
  · intro level
    have value : (kernel.tds td).priority.toNat = levelOf start.toKernelData td := by
      rw [← toNat_level, QueueRef.priorityQ.inj home]
    have bit := getLsbD_setBit kernel.bitmap (kernel.tds td).priority.toNat level.isLt
    change (kernel.bitmap ||| (1#64 <<< (kernel.tds td).priority.toNat)).getLsbD level = true ↔ _
    rw [bit, value, Bool.or_eq_true, schedules.bitmap, decide_eq_true_eq, PriorityLists.put]
    rcases eq_or_ne level (levelOf start.toKernelData td) with rfl | levelNe
    · simp
    · simp [Function.update_of_ne levelNe, Fin.val_ne_of_ne levelNe]
  · intro other
    exact (KernelData.setState_priority _).trans (schedules.priority other)

theorem get (schedules : Schedules start kernel lists) :
    ∃ kernel', schedulerGet kernel = some ((PriorityLists.get lists).1, kernel') ∧
      Schedules start kernel' (PriorityLists.get lists).2 := by
  cases isEmpty : schedulerEmpty kernel.toKernelData with
  | true =>
      rw [get_empty (schedules.empty_iff.mp isEmpty)]
      exact ⟨kernel, schedulerGet_none isEmpty, schedules⟩
  | false =>
      rcases schedules.lowest_level isEmpty with ⟨level, home, nonempty, lower⟩
      rcases List.exists_cons_of_ne_nil nonempty with ⟨task, rest, shape⟩
      have value : (bitmapLeadingzeroes kernel.bitmap).toNat = level := by
        rw [← toNat_level, QueueRef.priorityQ.inj home]
      obtain ⟨heap', done, holds⟩ := schedulerGet_holds schedules.holds isEmpty ⟨_, home⟩
        (by rw [home, queuesOf_levelQueue, shape])
      rw [get_lowest shape lower]
      refine ⟨_, done, ?_, ?_, schedules.priority⟩
      · rwa [home, ← queuesOf_update] at holds
      · intro other
        have bit := getLsbD_clearBit kernel.bitmap (bitmapLeadingzeroes kernel.bitmap).toNat
          other.isLt
        have old := schedules.bitmap other
        dsimp only
        rcases eq_or_ne other level with rfl | otherNe
        · rw [Function.update_self]
          by_cases last : rest = []
          · rw [if_pos last, bit]
            simp [last, value]
          · simpa [last, shape] using old
        · rw [Function.update_of_ne otherNe, ← old]
          by_cases last : rest = []
          · rw [if_pos last, bit]
            simp [value, Fin.val_ne_of_ne otherNe]
          · simp [last]

theorem run (schedules : Schedules start kernel lists) (ops : List SchedulerOp)
    (allowed : PutsAbsent start lists ops) :
    ∃ final, schedulerRun kernel ops =
        some ((PriorityLists.run lists (ops.map (·.onLists start.toKernelData))).1, final) ∧
      Schedules start final
        (PriorityLists.run lists (ops.map (·.onLists start.toKernelData))).2 := by
  induction ops generalizing kernel lists with
  | nil => exact ⟨kernel, rfl, schedules⟩
  | cons op ops ih =>
      cases op with
      | put td =>
          rcases allowed with ⟨⟨inited, le63, absent⟩, others⟩
          rcases schedules.put inited le63 absent with ⟨kernel', done, schedules'⟩
          rcases ih schedules' others with ⟨final, finished, schedules''⟩
          refine ⟨final, ?_, schedules''⟩
          simp only [schedulerRun, done]
          exact finished
      | get =>
          rcases schedules.get with ⟨kernel', done, schedules'⟩
          rcases ih schedules' allowed with ⟨final, finished, schedules''⟩
          refine ⟨final, ?_, schedules''⟩
          simp [schedulerRun, done, finished, PriorityLists.run, SchedulerOp.onLists]

end Schedules

/--
The scheduler refines an array of lists: a sequence of calls from `scheduler_init` on, in
which every task is put while it is in no ready queue, returns what it returns on lists and
shows these lists in the end. The search for the lowest set bit is right for every bitmap.
-/
theorem schedulerRun_refines (kernel : Kernel) (ops : List SchedulerOp)
    (allowed : PutsAbsent kernel empty ops) :
    (∃ final, schedulerRun (schedulerInit kernel) ops =
        some ((PriorityLists.run empty (ops.map (·.onLists kernel.toKernelData))).1, final) ∧
      ShowsLists final
        (PriorityLists.run empty (ops.map (·.onLists kernel.toKernelData))).2) ∧
    ∀ bitmap : BitVec 64, bitmap ≠ 0 → IsLowestBit bitmap (bitmapLeadingzeroes bitmap).toNat := by
  rcases (Schedules.init kernel).run ops allowed with ⟨final, done, schedules⟩
  exact ⟨⟨final, done, schedules.showsLists⟩, fun _ => bitmapLeadingzeroes_isLowestBit⟩

/-- The first task and the idle task, before the scheduler is initialised. -/
def twoTasks : Kernel :=
  taskDescriptorInit (taskDescriptorInit zeroedBoot 0 0 1 none 0) idleTaskTid idleTaskTid 28
    (some 0) 0

theorem schedulerRun_refines_twoTasks :
    ∃ final, schedulerRun (schedulerInit twoTasks) [.put idleTaskTid, .put 0, .get, .get, .get] =
      some ([some 0, some idleTaskTid, none], final) := by
  have idleInited : NodesInited twoTasks idleTaskTid := nodesInited_taskDescriptorInit (.inl rfl)
  have firstInited : NodesInited twoTasks 0 :=
    nodesInited_taskDescriptorInit (.inr (nodesInited_taskDescriptorInit (.inl rfl)))
  have allowed : PutsAbsent twoTasks empty [.put idleTaskTid, .put 0, .get, .get, .get] :=
    ⟨⟨idleInited, by decide, by decide⟩, ⟨firstInited, by decide, by decide⟩, trivial⟩
  rcases schedulerRun_refines twoTasks _ allowed with ⟨⟨final, done, -⟩, -⟩
  exact ⟨final, done⟩

end ArmKernel
