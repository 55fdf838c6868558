import ArmKernel.Kernel.ContextSwitch
import ArmKernel.ListKernel.Copies
import ArmKernel.ListKernel.Kept

/-!
# The context of a task between two activations

While a task does not run, the kernel holds its context in its descriptor and in the frame on its
stack. However long that takes, as long as nobody else writes to the frame, the task gets back the
context with which it trapped, except for the return value in r0; after an interrupt it gets back r0
as well.

Nothing in the code protects a frame from the stores of other tasks or from the copies that the
kernel makes for them, while the model holds frames apart from the memory that both write to. The
condition that a step spares a frame (`SparesFrame`) is therefore one on this memory, and keeps it
as it was when the frame was saved there.
-/

namespace ArmKernel

open PartialMachine Placement

/-- The context with which the kernel activates a task next. -/
def KernelData.taskContext (data : KernelData) (task : Tid) : Asm.TaskContext :=
  Asm.savedContext (data.frames task) (data.tds task).sp (data.tds task).svcLr
    (data.tds task).spsr

/-- The context of the task when it trapped. -/
def Activation.context (activation : Activation) : Asm.TaskContext :=
  Asm.savedContext activation.frame activation.sp activation.svcLr activation.spsr

/-- A task that has not run yet begins at its code, with an empty stack and zero in r0, in user mode
and with interrupts enabled. It would return to the bottom of its stack. -/
structure FreshContext (tid : Byte) (code : Addr) (context : Asm.TaskContext) : Prop where
  r0 : context.r 0 = 0
  sp : context.sp = memTaskStackStart tid
  lr : context.lr = memTaskStackStart tid
  pc : context.pc = code
  cpsr : context.cpsr = .ofWord 0x50

/-- The task does not run in this iteration of the main loop. -/
def Passive (task : Tid) (transition : Transition Kernel Activation) : Prop :=
  ∀ entered, kernelEntry transition.before transition.input ≠ some (task, entered)

instance (task : Tid) (transition : Transition Kernel Activation) :
    Decidable (Passive task transition) :=
  decidable_of_iff ((kernelEntry transition.before transition.input).map Prod.fst ≠ some task) <| by
    simp [Passive, Option.map_eq_some_iff]

/-- The length of a saved frame in bytes. -/
def frameSize : Word := 14 * 4

/--
Nobody writes to the frame that lies at `sp`: neither the task that runs by its stores, nor the
kernel through the buffers that it fills.
-/
structure SparesFrame (sp : Addr) (transition : Transition Kernel Activation) : Prop where
  stores : ∀ entry ∈ kernelEntry transition.before transition.input,
    bytesAt entry.2.mem sp frameSize = bytesAt transition.before.mem sp frameSize
  buffers : ∀ copy ∈ copied transition, copy.LeavesAlone sp frameSize

instance (sp : Addr) (transition : Transition Kernel Activation) :
    Decidable (SparesFrame sp transition) :=
  decidable_of_iff ((∀ entry ∈ kernelEntry transition.before transition.input,
        bytesAt entry.2.mem sp frameSize = bytesAt transition.before.mem sp frameSize) ∧
      ∀ copy ∈ copied transition, copy.LeavesAlone sp frameSize)
    ⟨fun ⟨stores, buffers⟩ => ⟨stores, buffers⟩, fun ⟨stores, buffers⟩ => ⟨stores, buffers⟩⟩

/-- A safe step in which the task does not run and nobody writes to its frame at `sp`. -/
structure LeavesTask (task : Tid) (sp : Addr) (transition : Transition Kernel Activation) :
    Prop where
  safe : Safe transition.before transition.input
  passive : Passive task transition
  spares : SparesFrame sp transition

instance (task : Tid) (sp : Addr) (transition : Transition Kernel Activation) :
    Decidable (LeavesTask task sp transition) :=
  decidable_of_iff (Safe transition.before transition.input ∧ Passive task transition ∧
      SparesFrame sp transition)
    ⟨fun ⟨safe, passive, spares⟩ => ⟨safe, passive, spares⟩,
      fun ⟨safe, passive, spares⟩ => ⟨safe, passive, spares⟩⟩

theorem KeepsTask.taskContext {task : Tid} {data data' : KernelData}
    (keeps : KeepsTask task data data') :
    data'.taskContext task =
      { data.taskContext task with
        r := Function.update (data.taskContext task).r 0 (data'.frames task 0) } := by
  have frame : data'.frames task = Function.update (data.frames task) 0 (data'.frames task 0) := by
    funext slot
    rcases eq_or_ne slot 0 with rfl | slotNe
    · rw [Function.update_self]
    · rw [Function.update_of_ne slotNe, keeps.frame slot slotNe]
  rw [KernelData.taskContext, frame, keeps.sp, keeps.svcLr, keeps.spsr,
    Asm.savedContext_update, Function.update_self]
  rfl

theorem Untouched.taskContext {task : Tid} {kernel kernel' : ListKernel}
    (untouched : Untouched task kernel kernel') :
    kernel'.taskContext task = kernel.taskContext task := by
  rw [KernelData.taskContext, untouched.td, untouched.frame]
  rfl

theorem taskDescriptorInitData_fresh (data : KernelData) (ctx : Tid) (tid priority : Byte)
    (parent : Option Tid) (code : Addr) :
    FreshContext tid code
      ((taskDescriptorInitData data ctx tid priority parent code).taskContext ctx) := by
  have lastNe : (0 : Fin 14) ≠ 13 := by decide
  refine ⟨?_, ?_, ?_, ?_, ?_⟩
  · simp [KernelData.taskContext, Asm.savedContext, taskDescriptorInitData, KernelData.setState,
      KernelData.setFrameSlot, lastNe]
  · simp only [KernelData.taskContext, Asm.savedContext, taskDescriptorInitData,
      KernelData.setState, KernelData.modifyTd_self, KernelData.setFrameSlot_tds,
      KernelData.setReturnValue_tds]
    exact sub_add_cancel _ _
  · simp [KernelData.taskContext, Asm.savedContext, taskDescriptorInitData, KernelData.setState,
      KernelData.setFrameSlot]
  · simp [KernelData.taskContext, Asm.savedContext, taskDescriptorInitData, KernelData.setState]
  · simp [KernelData.taskContext, Asm.savedContext, taskDescriptorInitData, KernelData.setState]

section Steps

variable {kernel entered : ListKernel} {activation : Activation} {active task : Tid}

theorem enter_taskContext (data : KernelData) (isExit : Byte) (active : Tid)
    (activation : Activation) :
    (data.enter isExit active activation).taskContext active = activation.context := by
  simp only [KernelData.enter]
  split_ifs <;>
    simp [KernelData.taskContext, Activation.context, activate, endIdleTask, KernelData.modifyTd,
      KernelData.setMem]

theorem entry_taskContext (runs : kernel.entry activation = some (active, entered)) :
    entered.taskContext active = activation.context := by
  rcases ListKernel.entry_eq runs with ⟨taken, got, rfl, -⟩
  exact enter_taskContext _ _ active activation

/-- A step keeps every task that does not run. -/
theorem step_keeps (sound : Sound kernel.nextFreeTd kernel)
    (isCreated : Created kernel.nextFreeTd task)
    (passive : ∀ entered, kernel.entry activation ≠ some (task, entered)) :
    kernel.Keeps task (kernel.step activation).2 := by
  cases runs : kernel.entry activation with
  | none =>
      rw [ListKernel.step, runs]
      exact .refl _
  | some result =>
      rcases result with ⟨active, entered⟩
      have activeNe : active ≠ task := by
        rintro rfl
        exact passive entered runs
      rw [ListKernel.step_of_entry runs]
      have entering := KeepsTask.of_untouched (entry_untouched runs activeNe)
      rw [← ListKernel.entry_nextFreeTd runs] at isCreated
      have bounded := (Running.of_entry sound runs).sound.bounded
      exact entering.trans (handle_keeps isCreated bounded activation.trap)

/-- A safe trap of another task does not touch a ready task. -/
theorem handle_ready_untouched {trap : Trap} (running : Running kernel.nextFreeTd active kernel)
    (safe : ∀ call, trap.call kernel.toKernelData active = some call →
      SafeCall kernel.toKernelData call)
    (taskNe : task ≠ active) (isCreated : Created kernel.nextFreeTd task)
    (ready : (kernel.tds task).state = .ready) :
    Untouched task kernel (kernel.handle active trap).2 := by
  apply handle_untouched taskNe
  · intro event taskMem
    exact absurd (ready.symm.trans (running.sound.state taskMem)) (by simp [QueueRef.state])
  · intro call isCall
    have safeCall := safe call isCall
    apply not_partner running.sound isCreated
    · intro msg msgLen rep repLen _ blocked
      exact absurd (ready.symm.trans blocked) (by decide)
    · rintro rep repLen rfl sameLen
      have waits := (safeCall (running.sound.tid isCreated)).2 sameLen
      exact absurd (ready.symm.trans waits) (by decide)
    · intro cell msg msgLen _ isHead
      exact absurd (ready.symm.trans (running.sound.state (List.mem_of_head? isHead)))
        (by simp [QueueRef.state])

/-- A safe step does not touch a ready task that does not run. -/
theorem step_ready_untouched (sound : Sound kernel.nextFreeTd kernel)
    (safe : kernel.Safe activation) (isCreated : Created kernel.nextFreeTd task)
    (ready : (kernel.tds task).state = .ready)
    (passive : ∀ entered, kernel.entry activation ≠ some (task, entered)) :
    Untouched task kernel (kernel.step activation).2 := by
  cases runs : kernel.entry activation with
  | none =>
      rw [ListKernel.step, runs]
      exact ⟨rfl, rfl, fun _ => Iff.rfl⟩
  | some result =>
      rcases result with ⟨active, entered⟩
      have activeNe : active ≠ task := by
        rintro rfl
        exact passive entered runs
      have first := entry_untouched runs activeNe
      rw [← first.td] at ready
      rw [← ListKernel.entry_nextFreeTd runs] at isCreated
      rw [ListKernel.step_of_entry runs]
      exact first.trans (handle_ready_untouched (Running.of_entry sound runs)
        (fun call isCall => safe active entered call runs isCall) activeNe.symm isCreated ready)

theorem put_taskContext (kernel : ListKernel) (td task : Tid) :
    (kernel.put td).taskContext task = kernel.taskContext task := by
  have keeps : kernel.Keeps task (kernel.put td) := put_keeps kernel td
  rw [keeps.taskContext]
  have unchanged : (kernel.put td).frames task 0 = (kernel.taskContext task).r 0 := rfl
  rw [unchanged, Function.update_eq_self]

/-- An interrupt leaves the interrupted task ready, with its whole context. -/
theorem interrupt_context {count : ℕ} (running : Running count active kernel)
    (cause : ListKernel.Interrupt) :
    (kernel.interrupt active cause).taskContext active = kernel.taskContext active ∧
      ((kernel.interrupt active cause).tds active).state = .ready := by
  have putBack : ∀ woken : ListKernel, woken.taskContext active = kernel.taskContext active →
      (woken.put active).taskContext active = kernel.taskContext active ∧
        ((woken.put active).tds active).state = .ready := fun woken same =>
    ⟨(put_taskContext woken active active).trans same, KernelData.setState_self .ready⟩
  have handled : ∀ (other : ListKernel) (event : Word) (ret : ℤ),
      Absent other.lists active → other.taskContext active = kernel.taskContext active →
      (other.handleEvent event ret).taskContext active = kernel.taskContext active := by
    intro other event ret absent same
    rw [← same]
    exact (Touches.handleEvent event ret active (absent _)).taskContext
  cases cause with
  | event event ret keep1 keep2 => exact putBack _ (handled _ event ret running.absent rfl)
  | spurious => exact putBack _ (handled _ sysCallEventTimer 0 running.absent rfl)
  | unexpected => exact putBack _ rfl

theorem setReturnValue_taskContext (data : KernelData) (taskNe : task ≠ active) (ret : ℤ) :
    (taskDescriptorSetReturnValue data active ret).taskContext task = data.taskContext task := by
  rw [KernelData.taskContext, KernelData.setReturnValue_frames, Function.update_of_ne taskNe]
  rfl

/-- An accepted `Create` leaves the new task ready, with a fresh context. -/
theorem create_fresh (running : Running kernel.nextFreeTd active kernel) {priority : ℤ}
    (inRange : ¬(priority < 0 ∨ priority > 63))
    (room : ¬kernel.nextFreeTd ≥ taskDescriptorMaxTasks) (code : Addr)
    (isNew : task = BitVec.ofNat 8 kernel.nextFreeTd) :
    FreshContext task code
        ((kernel.sysCall active (.create priority code)).2.taskContext task) ∧
      ((kernel.sysCall active (.create priority code)).2.tds task).state = .ready := by
  have taskNe : task ≠ active := by
    rintro rfl
    exact not_created_next running.sound.bounded (isNew ▸ running.isCreated)
  let filled := kernel.modify (taskDescriptorInitData · task task (BitVec.ofInt 8 priority)
    (some active) code)
  let queued := (filled.put task).put active
  have result : (kernel.sysCall active (.create priority code)).2 =
      ({ queued with nextFreeTd := queued.nextFreeTd + 1 } : ListKernel).setReturnValue active
        task.toNat := by
    simp only [ListKernel.sysCall, ListKernel.create, if_neg inRange, if_neg room, ← isNew]
    rfl
  have context : queued.taskContext task = filled.taskContext task :=
    (put_taskContext _ _ _).trans (put_taskContext _ _ _)
  have state : (queued.tds task).state = .ready := by
    have putBack : queued.tds task = (filled.put task).tds task :=
      KernelData.setState_of_ne taskNe .ready
    rw [putBack]
    exact KernelData.setState_self .ready
  rw [result]
  refine ⟨?_, state⟩
  rw [ListKernel.setReturnValue_data, setReturnValue_taskContext _ taskNe]
  change FreshContext task code (queued.taskContext task)
  rw [context]
  exact taskDescriptorInitData_fresh kernel.toKernelData task task _ _ code

end Steps

section Runs

variable {kernel entered after final : Kernel} {activation : Activation} {task : Tid} {sp : Addr}
  {trace : List (Transition Kernel Activation)}

theorem Matched.passive {model : ListKernel} {transition : Transition Kernel Activation}
    (isMatched : Matched transition.before model) (passive : Passive task transition) :
    ∀ entered, model.entry transition.input ≠ some (task, entered) := by
  intro entered runs
  rcases isMatched.kernelEntry runs with ⟨kernel', enters, -⟩
  exact passive kernel' enters

/-- While a task does not run, its context is kept. -/
theorem Matched.run_keeps {model : ListKernel} (isMatched : Matched kernel model)
    (run : Run ArmKernel.mainStep kernel trace final)
    (leaves : ∀ transition ∈ trace, LeavesTask task sp transition)
    (isCreated : Created kernel.nextFreeTd task) :
    KeepsTask task kernel.toKernelData final.toKernelData := by
  let property : ListKernel → Prop := fun other =>
    Created other.nextFreeTd task ∧ model.Keeps task other
  have sameNext : model.nextFreeTd = kernel.nextFreeTd :=
    congrArg KernelData.nextFreeTd isMatched.refines.data.symm
  rcases isMatched.run_abstracts property run leaves (fun _ => LeavesTask.safe)
      ⟨sameNext ▸ isCreated, .refl _⟩ (fun transition other otherMatched _ isLeft holds =>
        ⟨lt_of_lt_of_le holds.1 (ListKernel.nextFreeTd_le_step other transition.input),
          holds.2.trans (step_keeps otherMatched.sound holds.1
            (otherMatched.passive isLeft.passive))⟩) with ⟨last, lastMatched, -, keeps⟩
  rw [isMatched.refines.data, lastMatched.refines.data]
  exact keeps

/-- While a ready task does not run, it is not touched at all. -/
theorem Matched.run_ready {model : ListKernel} (isMatched : Matched kernel model)
    (run : Run ArmKernel.mainStep kernel trace final)
    (leaves : ∀ transition ∈ trace, LeavesTask task sp transition)
    (isCreated : Created kernel.nextFreeTd task) (ready : (kernel.tds task).state = .ready) :
    final.taskContext task = kernel.taskContext task := by
  let property : ListKernel → Prop := fun other =>
    Created other.nextFreeTd task ∧ (other.tds task).state = .ready ∧
      other.taskContext task = model.taskContext task
  have same := isMatched.refines.data
  rw [same] at isCreated ready
  rcases isMatched.run_abstracts property run leaves (fun _ => LeavesTask.safe)
      ⟨isCreated, ready, rfl⟩ (fun transition other otherMatched _ isLeft holds => by
        rcases holds with ⟨otherCreated, otherReady, sameContext⟩
        have untouched := step_ready_untouched otherMatched.sound
          (otherMatched.safe isLeft.safe) otherCreated otherReady
          (otherMatched.passive isLeft.passive)
        refine ⟨otherCreated.trans_le (ListKernel.nextFreeTd_le_step other transition.input), ?_,
          untouched.taskContext.trans sameContext⟩
        rw [untouched.td, otherReady]) with ⟨last, lastMatched, -, -, sameContext⟩
  rw [same, lastMatched.refines.data, sameContext]

/-- The memory in which the frame of a task lies stays as it was. -/
theorem Kernel.IsSound.run_frame (isSound : kernel.IsSound)
    (run : Run ArmKernel.mainStep kernel trace final)
    (leaves : ∀ transition ∈ trace, LeavesTask task sp transition) :
    bytesAt final.mem sp frameSize = bytesAt kernel.mem sp frameSize := by
  let spared : Kernel → Prop := fun other =>
    other.IsSound ∧ bytesAt other.mem sp frameSize = bytesAt kernel.mem sp frameSize
  have kept : ∀ transition : Transition Kernel Activation,
      ArmKernel.mainStep transition.before transition.input = some transition.after →
      LeavesTask task sp transition → spared transition.before → spared transition.after := by
    rintro transition stepped isLeft ⟨⟨model, isMatched⟩, same⟩
    rcases isMatched.mainStep stepped isLeft.safe with ⟨-, isMatched'⟩
    refine ⟨⟨_, isMatched'⟩, Eq.trans ?_ same⟩
    exact isMatched.bytesAt_step isMatched' isLeft.spares.stores isLeft.spares.buffers
  have initially : spared kernel := ⟨isSound, rfl⟩
  exact (run.invariant kept leaves initially).2

/-- The first task creates one of priority 0, which passes and exits before the first goes on. -/
def createFirst : Activation :=
  { callActivation 2 0 0 0 with sp := memTaskStackStart 0 - 0x100 }

def passThenExit : List Activation := [callActivation 1 0 0 0, callActivation 0 0 0 0]

/-- Where the frame of a new task lies. -/
def firstFrame (task : Tid) : Addr := memTaskStackStart task - frameSize

/-- The first task creates one of priority 3, and goes on itself. -/
def createLater : Activation := callActivation 2 3 0x8000 0

end Runs

section UserMode

/-- The control bits that a task is activated with: user mode, and interrupts enabled. -/
def RunsAsUser (data : KernelData) (task : Tid) : Prop :=
  (data.tds task).spsr.extractLsb' 0 8 = 0x50

/-- The control bits of the task that runs are the same when it traps: in user mode it cannot change
them. -/
def KeepsControl (transition : Transition Kernel Activation) : Prop :=
  ∀ active entered, kernelEntry transition.before transition.input = some (active, entered) →
    transition.input.spsr.extractLsb' 0 8 = (transition.before.tds active).spsr.extractLsb' 0 8

instance (transition : Transition Kernel Activation) : Decidable (KeepsControl transition) :=
  decidable_of_iff (∀ entry ∈ kernelEntry transition.before transition.input,
      transition.input.spsr.extractLsb' 0 8 =
        (transition.before.tds entry.1).spsr.extractLsb' 0 8)
    ⟨fun kept active entered enters => kept (active, entered) enters,
      fun kept entry enters => kept entry.1 entry.2 enters⟩

theorem RunsAsUser.kept {data data' : KernelData} {task : Tid}
    (keeps : KeepsTask task data data') (asUser : RunsAsUser data task) :
    RunsAsUser data' task := by
  rw [RunsAsUser, keeps.spsr]
  exact asUser

theorem taskDescriptorInitData_runsAsUser (data : KernelData) (ctx : Tid) (tid priority : Byte)
    (parent : Option Tid) (code : Addr) :
    RunsAsUser (taskDescriptorInitData data ctx tid priority parent code) ctx := by
  simp [RunsAsUser, taskDescriptorInitData, KernelData.setState]

theorem enter_spsr (data : KernelData) (isExit : Byte) (active : Tid) (activation : Activation) :
    ((data.enter isExit active activation).tds active).spsr = activation.spsr := by
  simp only [KernelData.enter]
  split_ifs <;> simp [activate, endIdleTask, KernelData.modifyTd, KernelData.setMem]

theorem init_runsAsUser (boot : KernelData) (userMain idleMain : Addr) {task : Tid}
    (isCreated : Created 2 task) :
    RunsAsUser (ListKernel.init boot userMain idleMain).toKernelData task := by
  have started : RunsAsUser (ListKernel.start boot userMain idleMain).toKernelData task := by
    rcases created_two.mp isCreated with rfl | rfl
    · have first := taskDescriptorInitData_runsAsUser boot 0 0 1 none userMain
      rw [RunsAsUser, ListKernel.start, taskDescriptorInitData_of_ne (by decide)]
      exact first
    · exact taskDescriptorInitData_runsAsUser _ idleTaskTid idleTaskTid 28 (some 0) idleMain
  exact started.kept (start_keeps_init boot userMain idleMain task)

theorem step_runsAsUser {model : ListKernel} {activation : Activation}
    (sound : Sound model.nextFreeTd model)
    (control : ∀ active entered, model.entry activation = some (active, entered) →
      activation.spsr.extractLsb' 0 8 = (model.tds active).spsr.extractLsb' 0 8)
    (before : ∀ task, Created model.nextFreeTd task → RunsAsUser model.toKernelData task)
    {task : Tid} (isCreated : Created (model.step activation).2.nextFreeTd task) :
    RunsAsUser (model.step activation).2.toKernelData task := by
  cases runs : model.entry activation with
  | none =>
      rw [ListKernel.step, runs] at isCreated ⊢
      exact before task isCreated
  | some result =>
      rcases result with ⟨active, entered⟩
      have running := Running.of_entry sound runs
      have sameNext := ListKernel.entry_nextFreeTd runs
      rw [ListKernel.step_of_entry runs] at isCreated ⊢
      apply handle_forall_created RunsAsUser.kept _ running.sound.bounded _ activation.trap
        isCreated
      · intro priority code _
        exact taskDescriptorInitData_runsAsUser _ _ _ _ _ code
      · intro other otherCreated
        rw [sameNext] at otherCreated
        rcases eq_or_ne active other with rfl | activeNe
        · rcases ListKernel.entry_eq runs with ⟨taken, got, rfl, -⟩
          change ((taken.toKernelData.enter _ active activation).tds
            active).spsr.extractLsb' 0 8 = _
          rw [enter_spsr, control active _ runs]
          exact before active otherCreated
        · exact (before other otherCreated).kept
            (.of_untouched (entry_untouched runs activeNe))

/--
In every safe run, every task that the kernel may activate runs in user mode with interrupts
enabled, as no task can change its control bits itself.
-/
theorem run_user_mode {boot start final : Kernel} {userMain idleMain : Addr} {task : Tid}
    {trace : List (Transition Kernel Activation)}
    (booted : init boot userMain idleMain = some start) (run : Run mainStep start trace final)
    (allowed : ∀ transition ∈ trace,
      Safe transition.before transition.input ∧ KeepsControl transition)
    (isCreated : Created final.nextFreeTd task) :
    (final.taskContext task).cpsr.mode = Arm.userMode ∧
      (final.taskContext task).cpsr.word.getLsbD 7 = false := by
  let property : ListKernel → Prop := fun model =>
    ∀ other, Created model.nextFreeTd other → RunsAsUser model.toKernelData other
  rcases run_abstracts property booted run allowed (fun _ => And.left)
      (fun other => init_runsAsUser boot.toKernelData userMain idleMain)
      (fun transition model isMatched _ isAllowed before other => by
        apply step_runsAsUser isMatched.sound _ before
        intro active entered runs
        rcases isMatched.kernelEntry runs with ⟨kernel', enters, -⟩
        rw [isAllowed.2 active kernel' enters, isMatched.refines.data]) with
    ⟨last, lastMatched, asUser⟩
  rw [lastMatched.refines.data] at isCreated ⊢
  have control : (last.taskContext task).cpsr.word.extractLsb' 0 8 = 0x50 :=
    (Arm.Psr.ofWord_control _).trans (asUser task isCreated)
  constructor
  · have user : (Arm.Psr.ofWord 0x50).mode = Arm.userMode := by decide
    rw [← user]
    exact Arm.Psr.mode_of_control (control.trans (by decide))
  · have bit : ((last.taskContext task).cpsr.word.extractLsb' 0 8).getLsbD 7 = false := by
      rw [control]
      decide
    simpa [BitVec.getLsbD_extractLsb'] using bit

/-- A task with negative and zero flags set creates another. -/
def createInUserMode : Activation := { callActivation 2 3 0 0 with spsr := 0xC0000050 }

theorem run_user_mode_created :
    ((stepped zeroedStart createInUserMode).taskContext 2).cpsr.mode = Arm.userMode ∧
      ((stepped zeroedStart createInUserMode).taskContext 2).cpsr.word.getLsbD 7 = false := by
  have booted : init zeroedBoot 0 0 = some zeroedStart := rfl
  have handled : mainStep zeroedStart createInUserMode =
      some (stepped zeroedStart createInUserMode) := mainStep_stepped (by decide +kernel)
  exact run_user_mode booted (.cons handled (.nil _)) (by decide +kernel) (by decide +kernel)

end UserMode

end ArmKernel
