import ArmKernel.MainLoop

/-!
# The task-location invariant

In every run of the main loop whose steps are legal, each call of `scheduler_get` finds
every created task in exactly the one place that its state says. `TaskLocation` states
this of the kernel itself, with the tasks of a queue found by walking over its nodes.
-/

namespace ArmKernel

open LinkedChain PartialMachine Placement

/-- The task is in the queue exactly once and in no other queue of the kernel. -/
def OnlyIn (kernel : Kernel) (ctx : QueueRef) (task : Tid) : Prop :=
  Live kernel.nextFreeTd ctx ∧ (queueTasks kernel.heap ctx).count task = 1 ∧
    ∀ other, Live kernel.nextFreeTd other → other ≠ ctx → task ∉ queueTasks kernel.heap other

/-- The fields of a queue agree with the tasks found by walking over it. -/
structure WellFormed (heap : QueueHeap QueueRef NodeRef Tid) (ctx : QueueRef) : Prop where
  chain : IsChain heap.next (heap.queue ctx).front ((queueTasks heap ctx).map ctx.node)
  elements : (heap.queue ctx).elements.toNat = (queueTasks heap ctx).length
  back : ∀ last ∈ (queueTasks heap ctx).getLast?, (heap.queue ctx).back = some (ctx.node last)

/-- Every created task is in exactly one place, the one that its state says. -/
structure TaskLocation (kernel : Kernel) : Prop where
  tid : ∀ task, Created kernel.nextFreeTd task → (kernel.tds task).tid = task
  ready : ∀ task, Created kernel.nextFreeTd task →
    ((kernel.tds task).state = .ready ↔ OnlyIn kernel (.priorityQ (kernel.tds task).priority) task)
  receiveBlocked : ∀ task, Created kernel.nextFreeTd task →
    ((kernel.tds task).state = .receiveBlocked ↔ ∃ receiver, OnlyIn kernel (.sendQ receiver) task)
  eventBlocked : ∀ task, Created kernel.nextFreeTd task →
    ((kernel.tds task).state = .eventBlocked ↔ ∃ event, OnlyIn kernel (.awaitQ event) task)
  unqueued : ∀ task, Created kernel.nextFreeTd task →
    ((kernel.tds task).state = .sendBlocked ∨ (kernel.tds task).state = .replyBlocked ∨
      (kernel.tds task).state = .exited ↔ Unqueued kernel task)
  waiting : ∀ task, Created kernel.nextFreeTd task → (kernel.tds task).state = .sendBlocked →
    queueTasks kernel.heap (.sendQ task) = []
  bitmap : ∀ priority : Byte, priority.toNat < schedulerPriorityCount →
    (kernel.bitmap.getLsbD priority.toNat = true ↔
      queueTasks kernel.heap (.priorityQ priority) ≠ [])
  wellFormed : ∀ ctx, Live kernel.nextFreeTd ctx → WellFormed kernel.heap ctx
  created : ∀ ctx, Live kernel.nextFreeTd ctx → ∀ task ∈ queueTasks kernel.heap ctx,
    Created kernel.nextFreeTd task

/-- Besides being safe, the call loses no task: a `Create` is accepted, and a `Receive`
asks for as many bytes as the sender at the head of the queue has. -/
def LegalCall (data : KernelData) (queues : QueueRef → List Tid) (active : Tid)
    (call : SysCall) : Prop :=
  SafeCall data call ∧
    match call with
    | .create priority _ => 0 ≤ priority ∧ priority ≤ 63 ∧ data.nextFreeTd < taskDescriptorMaxTasks
    | .receive _ _ msgLen => ∀ sender ∈ (queues (.sendQ active)).head?,
        (data.tds sender).messageParams.msgLen = msgLen
    | .panic | .quit | .unknown => False
    | _ => True

instance (data : KernelData) (queues : QueueRef → List Tid) (active : Tid) (call : SysCall) :
    Decidable (LegalCall data queues active call) :=
  match call with
  | .create priority code =>
      inferInstanceAs (Decidable (SafeCall data (.create priority code) ∧
        0 ≤ priority ∧ priority ≤ 63 ∧ data.nextFreeTd < taskDescriptorMaxTasks))
  | .receive tid msg msgLen =>
      inferInstanceAs (Decidable (SafeCall data (.receive tid msg msgLen) ∧
        ∀ sender ∈ (queues (.sendQ active)).head?,
          (data.tds sender).messageParams.msgLen = msgLen))
  | .panic | .quit | .unknown => inferInstanceAs (Decidable (SafeCall data _ ∧ False))
  | .exit | .pass | .mytid | .parenttid | .send .. | .reply .. | .awaitEvent .. =>
      inferInstanceAs (Decidable (SafeCall data _ ∧ True))

/-- The interrupt has a cause that the kernel handles. -/
def Recognised (regs : InterruptRegs) : Prop :=
  regs.vicVecAddr = sysCallEventTimer ∨
    (regs.vicVecAddr = sysCallEventUart1 ∧ (regs.uart1Intr.setWidth 8 &&& risMask ≠ 0 ∨
      regs.uart1Intr.setWidth 8 &&& misMask ≠ 0 ∨ regs.uart1Intr.setWidth 8 &&& tisMask ≠ 0)) ∨
    (regs.vicVecAddr = sysCallEventUart2 ∧ (regs.uart2Intr.setWidth 8 &&& risMask ≠ 0 ∨
      regs.uart2Intr.setWidth 8 &&& tisMask ≠ 0))

instance (regs : InterruptRegs) : Decidable (Recognised regs) := by
  unfold Recognised
  infer_instance

theorem Recognised.decode {regs : InterruptRegs} (recognised : Recognised regs) :
    ∃ event ret keep1 keep2,
      ListKernel.decodeInterrupt regs = .event event ret keep1 keep2 := by
  simp only [ListKernel.decodeInterrupt]
  rcases recognised with timer | ⟨uart1, cause⟩ | ⟨uart2, cause⟩
  · exact ⟨_, _, _, _, if_pos timer⟩
  · have notTimer : regs.vicVecAddr ≠ sysCallEventTimer := by
      rw [uart1]
      decide
    rw [if_neg notTimer, if_pos uart1]
    split_ifs with ris mis tis
    · exact ⟨_, _, _, _, rfl⟩
    · exact ⟨_, _, _, _, rfl⟩
    · exact ⟨_, _, _, _, rfl⟩
    · simp_all
  · have notTimer : regs.vicVecAddr ≠ sysCallEventTimer := by
      rw [uart2]
      decide
    have notUart1 : regs.vicVecAddr ≠ sysCallEventUart1 := by
      rw [uart2]
      decide
    rw [if_neg notTimer, if_neg notUart1, if_pos uart2]
    split_ifs with ris tis
    · exact ⟨_, _, _, _, rfl⟩
    · exact ⟨_, _, _, _, rfl⟩
    · simp_all

/-- The trap is a legal system call, or an interrupt with a known cause. -/
def LegalTrap (entered : Kernel) (active : Tid) : Trap → Prop
  | .swi req => LegalCall entered.toKernelData (queueTasks entered.heap) active
      (decodeSysCall entered.toKernelData active req)
  | .irq regs => Recognised regs

instance (entered : Kernel) (active : Tid) (trap : Trap) :
    Decidable (LegalTrap entered active trap) := by
  cases trap <;> unfold LegalTrap <;> infer_instance

def Legal (kernel : Kernel) (activation : Activation) : Prop :=
  ∀ entry ∈ kernelEntry kernel activation, LegalTrap entry.2 entry.1 activation.trap

instance (kernel : Kernel) (activation : Activation) : Decidable (Legal kernel activation) := by
  unfold Legal
  infer_instance

theorem Legal.safe {kernel : Kernel} {activation : Activation} (legal : Legal kernel activation) :
    Safe kernel activation := by
  intro active entered call enters isCall
  have allowed := legal (active, entered) enters
  cases trap : activation.trap with
  | swi req =>
      rw [trap] at isCall allowed
      rcases Option.some.inj isCall with rfl
      exact allowed.1
  | irq regs => simp [trap, Trap.call] at isCall

section Located

variable {kernel : Kernel} {model : ListKernel} {activation : Activation}

theorem LegalCall.keeping {data : KernelData} {queues : QueueRef → List Tid} {active : Tid}
    {call : SysCall} (legal : LegalCall data queues active call)
    (sameData : data = model.toKernelData)
    (sameQueue : queues (.sendQ active) = model.lists (.sendQ active)) :
    KeepingCall (fun _ => True) model active call := by
  subst sameData
  rcases legal with ⟨safe, legal⟩
  refine ⟨safe, ?_⟩
  cases call with
  | create priority code => exact fun _ => legal
  | receive tid msg msgLen =>
      intro _
      rw [← sameQueue]
      exact legal
  | panic => exact legal.elim
  | quit => exact legal.elim
  | unknown => exact legal.elim
  | _ => trivial

theorem Matched.keeping (isMatched : Matched kernel model) (legal : Legal kernel activation) :
    model.Keeping (fun _ => True) activation := by
  intro active entered runs
  rcases isMatched.kernelEntry runs with ⟨kernel', enters, -, refines, running⟩
  have allowed := legal (active, kernel') enters
  cases trap : activation.trap with
  | swi req =>
      rw [trap] at allowed
      rw [← refines.data]
      exact allowed.keeping refines.data (refines.queueTasks_eq (.sendQ active) running.isCreated)
  | irq regs =>
      rw [trap] at allowed
      exact fun _ => allowed.decode

/-- A task is in exactly one queue of the kernel if it is in its list. -/
theorem Matched.onlyIn_iff {ctx : QueueRef} {task : Tid} (isMatched : Matched kernel model) :
    OnlyIn kernel ctx task ↔ task ∈ model.lists ctx := by
  rcases isMatched with ⟨refines, sound⟩
  have next : kernel.nextFreeTd = model.nextFreeTd := congrArg KernelData.nextFreeTd refines.data
  rw [OnlyIn, next]
  constructor
  · rintro ⟨isLive, once, -⟩
    rw [refines.queueTasks_eq _ isLive] at once
    exact List.count_pos_iff.mp (by omega)
  · intro taskMem
    have only := sound.placed.onlyAt taskMem
    refine ⟨sound.live taskMem, ?_, fun other isLive otherNe => ?_⟩
    · rw [refines.queueTasks_eq _ (sound.live taskMem)]
      exact only.1
    · rw [refines.queueTasks_eq _ isLive]
      exact only.2 other otherNe

/-- A task that is at home is in no list if and only if its state names none. -/
theorem Sound.absent_iff {count : ℕ} {task : Tid} (sound : Sound count model)
    (homed : Homed model task) :
    ((model.tds task).state = .sendBlocked ∨ (model.tds task).state = .replyBlocked ∨
      (model.tds task).state = .exited) ↔ Absent model.lists task := by
  constructor
  · intro states
    apply sound.absent_of_state
    intro ctx same
    rw [same] at states
    cases ctx <;> simp [QueueRef.state] at states
  · intro absent
    rw [Homed] at homed
    cases state : (model.tds task).state with
    | ready =>
        rw [state] at homed
        exact absurd homed (absent _)
    | receiveBlocked =>
        rw [state] at homed
        rcases homed with ⟨receiver, taskMem⟩
        exact absurd taskMem (absent _)
    | eventBlocked =>
        rw [state] at homed
        rcases homed with ⟨event, taskMem⟩
        exact absurd taskMem (absent _)
    | active =>
        rw [state] at homed
        exact homed.elim
    | sendBlocked => exact .inl rfl
    | replyBlocked => exact .inr (.inl rfl)
    | exited => exact .inr (.inr rfl)

/-- In lists that are sound and located, every task is in exactly one place. -/
theorem Located.taskLocation
    (located : Located model.nextFreeTd (fun _ => True) (fun _ => False) model)
    (isMatched : Matched kernel model) : TaskLocation kernel := by
  have refines := isMatched.refines
  have sound := isMatched.sound
  have tds := refines.sameTds
  have next : kernel.nextFreeTd = model.nextFreeTd := congrArg KernelData.nextFreeTd refines.data
  have bitmap : kernel.bitmap = model.bitmap := congrArg KernelData.bitmap refines.data
  have tasks : ∀ {ctx}, Live model.nextFreeTd ctx → queueTasks kernel.heap ctx = model.lists ctx :=
    fun isLive => refines.queueTasks_eq _ isLive
  have onlyIn : ∀ {ctx task}, OnlyIn kernel ctx task ↔ task ∈ model.lists ctx :=
    isMatched.onlyIn_iff
  have unqueued : ∀ {task}, Unqueued kernel task ↔ Absent model.lists task :=
    refines.unqueued_iff sound
  refine
    { tid := ?_
      ready := ?_
      receiveBlocked := ?_
      eventBlocked := ?_
      unqueued := ?_
      waiting := ?_
      bitmap := ?_
      wellFormed := ?_
      created := ?_ }
  · intro task isCreated
    rw [tds]
    exact sound.tid (next ▸ isCreated)
  · intro task isCreated
    have homed := located.homed task (next ▸ isCreated) id trivial
    rw [tds, onlyIn]
    constructor
    · intro ready
      simpa only [Homed, ready] using homed
    · exact fun taskMem => sound.state taskMem
  · intro task isCreated
    have homed := located.homed task (next ▸ isCreated) id trivial
    simp only [tds, onlyIn]
    constructor
    · intro blocked
      simpa only [Homed, blocked] using homed
    · exact fun ⟨receiver, taskMem⟩ => sound.state taskMem
  · intro task isCreated
    have homed := located.homed task (next ▸ isCreated) id trivial
    simp only [tds, onlyIn]
    constructor
    · intro blocked
      simpa only [Homed, blocked] using homed
    · exact fun ⟨event, taskMem⟩ => sound.state taskMem
  · intro task isCreated
    have homed := located.homed task (next ▸ isCreated) id trivial
    rw [tds, unqueued]
    exact sound.absent_iff homed
  · intro task isCreated blocked
    rw [tds] at blocked
    rw [next] at isCreated
    rw [tasks (show Live _ (.sendQ task) from isCreated)]
    exact sound.waiting isCreated blocked
  · intro priority inRange
    rw [bitmap, tasks (show Live _ (.priorityQ priority) from inRange)]
    refine ⟨fun bit => ?_, located.complete trivial priority⟩
    simpa using sound.bitmap inRange bit
  · intro ctx isLive
    rw [next] at isLive
    have chain := refines.holds.chain ctx isLive
    have elements := refines.holds.elements ctx isLive
    have back := refines.holds.back ctx isLive trivial
    rw [nodesOf, ← tasks isLive] at chain elements back
    refine ⟨chain, by rwa [List.length_map] at elements, fun last lastMem => ?_⟩
    exact back _ (by simpa using ⟨last, lastMem, rfl⟩)
  · intro ctx isLive task taskMem
    rw [next] at isLive ⊢
    rw [tasks isLive] at taskMem
    exact sound.created taskMem

end Located

/-- In every legal run the tasks are located at every call of `scheduler_get`. -/
theorem run_located {boot start final : Kernel} {userMain idleMain : Addr}
    {trace : List (Transition Kernel Activation)}
    (booted : init boot userMain idleMain = some start) (run : Run mainStep start trace final)
    (legal : ∀ transition ∈ trace, Legal transition.before transition.input) :
    Abstracts (fun model =>
      Located model.nextFreeTd (fun _ => True) (fun _ => False) model) final := by
  apply run_abstracts _ booted run legal (fun _ isLegal => isLegal.safe)
  · exact init_located boot.toKernelData userMain idleMain _
  · intro _ _ isMatched _ isLegal located
    exact Located.step isMatched.sound located (isMatched.keeping isLegal)

/--
The task-location invariant of the main loop: it holds at every call of `scheduler_get` in
every legal run from `init`, and the next legal iteration does not fault.
-/
theorem run_taskLocation {boot start final : Kernel} {userMain idleMain : Addr}
    {trace : List (Transition Kernel Activation)}
    (booted : init boot userMain idleMain = some start) (run : Run mainStep start trace final)
    (legal : ∀ transition ∈ trace, Legal transition.before transition.input) :
    TaskLocation final ∧ ∀ activation, Legal final activation →
      (loopBody final activation).isSome := by
  rcases run_located booted run legal with ⟨model, isMatched, located⟩
  refine ⟨located.taskLocation isMatched, fun activation isLegal => ?_⟩
  rcases isMatched.loopBody isLegal.safe with ⟨kernel, done, -⟩
  simp [done]

/-- The first task creates a task, which waits for the message that the first task then
sends it; a timer interrupt follows. -/
def rendezvousActivations : List Activation :=
  [callActivation 2 0 0 0, callActivation 6 0x200 0x204 0,
    { callActivation 5 0x100 0 0 with effect := fun mem => storeByte mem 0x100 2 },
    { callActivation 0 0 0 0 with trap := .irq ⟨sysCallEventTimer, 0, 0, 0, 0, 0⟩ }]

theorem run_taskLocation_rendezvous :
    TaskLocation (finalOf mainStep zeroedStart rendezvousActivations) := by
  have booted : init zeroedBoot 0 0 = some zeroedStart := rfl
  have runs : (record mainStep zeroedStart rendezvousActivations).isSome := by decide +kernel
  exact (run_taskLocation booted (.of_isSome runs) (by decide +kernel)).1

end ArmKernel
