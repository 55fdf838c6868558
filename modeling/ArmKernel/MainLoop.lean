import ArmKernel.ListKernel.Frame
import ArmKernel.ListKernel.Location
import ArmKernel.Refinement
import ArmKernel.Lib.Run

/-!
# Runs of the main loop

One iteration of the loop of `main` is one step of the kernel as lists, so every run of
the kernel from `init` in which all steps are safe is matched by the lists of tasks, and
the queues are sound in every state that it reaches. `Matched` is this invariant; what
is proved about sound lists then holds of the kernel itself.
-/

namespace ArmKernel

open PartialMachine Placement

/-- The end of an interrupt with a known event. -/
def finishInterrupt (kernel : Kernel) (active : Tid) (event : Word) (ret : ℤ) :
    Option (Bool × Kernel) := do
  let (_, kernel) ← eventHandlerHandleEvent kernel event ret
  let (_, kernel) ← schedulerPut kernel active
  some (false, kernel)

section Interrupts

variable {kernel : Kernel} {active : Tid} {regs : InterruptRegs}

theorem handleInterrupt_timer (timer : regs.vicVecAddr = sysCallEventTimer) :
    handleInterrupt kernel active regs =
      finishInterrupt kernel active sysCallEventTimer 0 := by
  simp [handleInterrupt, finishInterrupt, timer]

theorem handleInterrupt_uart1 (uart1 : regs.vicVecAddr = sysCallEventUart1) :
    handleInterrupt kernel active regs =
      finishInterrupt (decodeUart1 kernel regs).2.2 active (decodeUart1 kernel regs).1
        (decodeUart1 kernel regs).2.1 := by
  have notTimer : sysCallEventUart1 ≠ sysCallEventTimer := by decide
  simp [handleInterrupt, finishInterrupt, uart1, notTimer]

theorem handleInterrupt_uart2 (uart2 : regs.vicVecAddr = sysCallEventUart2) :
    handleInterrupt kernel active regs =
      finishInterrupt (decodeUart2 kernel regs).2.2 active (decodeUart2 kernel regs).1
        (decodeUart2 kernel regs).2.1 := by
  have notTimer : sysCallEventUart2 ≠ sysCallEventTimer := by decide
  have notUart1 : sysCallEventUart2 ≠ sysCallEventUart1 := by decide
  simp [handleInterrupt, finishInterrupt, uart2, notTimer, notUart1]

end Interrupts

namespace Refines

variable {count : ℕ} {kernel : Kernel} {model : ListKernel} {active : Tid}

/-- The tasks that await the event are woken, and the active task is put back. -/
theorem finishInterrupt (refines : Refines count kernel model)
    (running : Running count active model) (event : Word) (ret : ℤ)
    (inRange : event.toNat < eventHandlerMaxEvents) :
    Realizes count (finishInterrupt kernel active event ret)
      (false, (model.handleEvent event ret).put active) := by
  refine (refines.eventHandlerHandleEvent running.sound event ret inRange).bind fun _ woken => ?_
  have handled := running.handleEvent event ret
  exact (woken.schedulerPut handled.sound handled.isCreated handled.absent).bind
    fun _ refines' => refines'.returns _

theorem maskUart1 (refines : Refines count kernel model) (keep : Word) :
    Refines count (kernel.modify fun data => { data with uart1Ctlr := data.uart1Ctlr &&& keep })
      (model.modify (·.maskInterrupts keep (BitVec.allOnes 32))) := by
  have masked := refines.modify (·.maskInterrupts keep (BitVec.allOnes 32))
  simpa only [KernelData.maskInterrupts, BitVec.and_allOnes] using masked

theorem maskUart2 (refines : Refines count kernel model) (keep : Word) :
    Refines count (kernel.modify fun data => { data with uart2Ctlr := data.uart2Ctlr &&& keep })
      (model.modify (·.maskInterrupts (BitVec.allOnes 32) keep)) := by
  have masked := refines.modify (·.maskInterrupts (BitVec.allOnes 32) keep)
  simpa only [KernelData.maskInterrupts, BitVec.and_allOnes] using masked

theorem handleInterrupt (refines : Refines count kernel model)
    (running : Running count active model) (regs : InterruptRegs) :
    Realizes count (handleInterrupt kernel active regs)
      (false, model.interrupt active (ListKernel.decodeInterrupt regs)) := by
  have masked : ∀ keep1 keep2, Running count active
      (model.modify (·.maskInterrupts keep1 keep2)) := fun _ _ =>
    running.modify ⟨fun _ => rfl, fun _ => rfl, fun _ => rfl, rfl⟩
  have unmasked : model.modify (·.maskInterrupts (BitVec.allOnes 32) (BitVec.allOnes 32)) =
      model := by
    simp only [ListKernel.modify, KernelData.maskInterrupts_allOnes]
  have panicked : Refines count (kernelPanic kernel) model.panic := refines.modify _
  rw [ListKernel.decodeInterrupt]
  by_cases timer : regs.vicVecAddr = sysCallEventTimer
  · simp only [handleInterrupt_timer timer, if_pos timer, ListKernel.interrupt, unmasked]
    exact refines.finishInterrupt running sysCallEventTimer 0 (by decide)
  by_cases uart1 : regs.vicVecAddr = sysCallEventUart1
  · simp only [handleInterrupt_uart1 uart1, decodeUart1, if_neg timer, if_pos uart1]
    split_ifs with ris mis tis
    · simp only [ListKernel.interrupt, unmasked]
      exact refines.finishInterrupt running sysCallEventUart1Rx _ (by decide)
    · exact (refines.maskUart1 (~~~msienMask)).finishInterrupt (masked _ _) sysCallEventUart1Ms _
        (by decide)
    · exact (refines.maskUart1 (~~~tienMask)).finishInterrupt (masked _ _) sysCallEventUart1Tx _
        (by decide)
    · exact panicked.finishInterrupt running.panic sysCallEventTimer 0 (by decide)
  by_cases uart2 : regs.vicVecAddr = sysCallEventUart2
  · simp only [handleInterrupt_uart2 uart2, decodeUart2, if_neg timer, if_neg uart1, if_pos uart2]
    split_ifs with ris tis
    · simp only [ListKernel.interrupt, unmasked]
      exact refines.finishInterrupt running sysCallEventUart2Rx _ (by decide)
    · exact (refines.maskUart2 (~~~tienMask)).finishInterrupt (masked _ _) sysCallEventUart2Tx _
        (by decide)
    · exact panicked.finishInterrupt running.panic sysCallEventTimer 0 (by decide)
  · simp only [ArmKernel.handleInterrupt, if_neg timer, if_neg uart1, if_neg uart2]
    exact (panicked.schedulerPut running.sound.panic running.isCreated running.absent).bind
      fun _ refines' => refines'.returns _

theorem eventHandlerEmpty_eq (refines : Refines count kernel model) :
    eventHandlerEmpty kernel.heap = model.noEventWaited := by
  rw [eventHandlerEmpty, ListKernel.noEventWaited, Bool.eq_iff_iff, List.all_eq_true,
    List.all_eq_true]
  refine forall₂_congr fun index indexMem => ?_
  have indexLt := List.mem_range.mp indexMem
  have isLive : Live count (.awaitQ (BitVec.ofNat 32 index)) := by
    rw [Live, BitVec.toNat_ofNat, Nat.mod_eq_of_lt (lt_trans indexLt (by decide))]
    exact indexLt
  rw [refines.queueEmpty_iff isLive, List.isEmpty_iff]

theorem enterKernel (refines : Refines count kernel model) (activation : Activation) :
    Refines count (enterKernel kernel active activation)
      (model.enterKernel active activation) := by
  refine ⟨?_, ?_⟩
  · simp only [ArmKernel.enterKernel, updateIdleTask, ListKernel.enterKernel, ListKernel.modify,
      KernelData.enter, refines.eventHandlerEmpty_eq, refines.sameTds]
    split_ifs <;> simp only [Kernel.modify_data, refines.data]
  · simp only [ArmKernel.enterKernel, updateIdleTask]
    split_ifs <;> exact refines.holds

end Refines

/-- The task is in no queue of the kernel. -/
def Unqueued (kernel : Kernel) (task : Tid) : Prop :=
  ∀ ctx, Live kernel.nextFreeTd ctx → task ∉ queueTasks kernel.heap ctx

theorem Refines.unqueued_iff {kernel : Kernel} {model : ListKernel} {task : Tid}
    (refines : Refines model.nextFreeTd kernel model) (sound : Sound model.nextFreeTd model) :
    Unqueued kernel task ↔ Absent model.lists task := by
  rw [Unqueued, congrArg KernelData.nextFreeTd refines.data]
  constructor
  · intro outside ctx taskMem
    have isLive := sound.live taskMem
    exact outside ctx isLive (by rwa [refines.queueTasks_eq _ isLive])
  · intro absent ctx isLive
    rw [refines.queueTasks_eq _ isLive]
    exact absent ctx

/-- The lists of the kernel match its queues and are sound. -/
structure Matched (kernel : Kernel) (model : ListKernel) : Prop where
  refines : Refines model.nextFreeTd kernel model
  sound : Sound model.nextFreeTd model

/-- If the iteration handles a system call, it is a safe one. -/
def Safe (kernel : Kernel) (activation : Activation) : Prop :=
  ∀ active entered call, kernelEntry kernel activation = some (active, entered) →
    activation.trap.call entered.toKernelData active = some call →
    SafeCall entered.toKernelData call

instance (kernel : Kernel) (activation : Activation) : Decidable (Safe kernel activation) :=
  decidable_of_iff (∀ entry ∈ kernelEntry kernel activation,
      ∀ call ∈ activation.trap.call entry.2.toKernelData entry.1,
        SafeCall entry.2.toKernelData call)
    ⟨fun safe active entered call enters isCall => safe (active, entered) enters call isCall,
      fun safe entry enters call isCall => safe entry.1 entry.2 call enters isCall⟩

namespace Matched

variable {kernel : Kernel} {model : ListKernel} {activation : Activation}

theorem kernelEntry_none (isMatched : Matched kernel model) (ends : model.entry activation = none) :
    kernelEntry kernel activation = none ∧ loopBody kernel activation = some (true, kernel) := by
  have got : model.get = none := by simpa [ListKernel.entry] using ends
  have empty : schedulerEmpty model.toKernelData = true := by
    by_contra nonempty
    rcases isMatched.sound.get_isSome (Bool.eq_false_iff.mpr nonempty) with ⟨task, model', some⟩
    simp [got] at some
  have none := isMatched.refines.schedulerGet_none empty
  simp [kernelEntry, loopBody, none]

theorem kernelEntry {active : Tid} {entered : ListKernel} (isMatched : Matched kernel model)
    (runs : model.entry activation = some (active, entered)) :
    ∃ kernel', kernelEntry kernel activation = some (active, kernel') ∧
      loopBody kernel activation = handle kernel' active activation.trap ∧
      Refines entered.nextFreeTd kernel' entered ∧ Running entered.nextFreeTd active entered := by
  have running := Running.of_entry isMatched.sound runs
  rcases ListKernel.entry_eq runs with ⟨taken, got, rfl, sameNext⟩
  rcases isMatched.refines.schedulerGet got isMatched.sound with ⟨kernel', done, refines⟩
  rw [sameNext] at running ⊢
  exact ⟨ArmKernel.enterKernel kernel' active activation, by simp [ArmKernel.kernelEntry, done],
    by simp [loopBody, done], refines.enterKernel activation, running⟩

theorem safe (isMatched : Matched kernel model) (isSafe : Safe kernel activation) :
    model.Safe activation := by
  intro active entered call runs isCall
  rcases isMatched.kernelEntry runs with ⟨kernel', enters, -, refines, -⟩
  rw [← refines.data] at isCall ⊢
  exact isSafe active kernel' call enters isCall

theorem entered {active : Tid} {kernel' : Kernel} (isMatched : Matched kernel model)
    (enters : ArmKernel.kernelEntry kernel activation = some (active, kernel')) :
    ∃ model', model.entry activation = some (active, model') ∧
      ArmKernel.loopBody kernel activation = handle kernel' active activation.trap ∧
      Refines model'.nextFreeTd kernel' model' ∧ Running model'.nextFreeTd active model' := by
  cases runs : model.entry activation with
  | none => simp [(isMatched.kernelEntry_none runs).1] at enters
  | some result =>
      rcases isMatched.kernelEntry runs with ⟨kernel'', enters', body, refines, running⟩
      rcases Prod.mk.inj (Option.some.inj (enters.symm.trans enters')) with ⟨rfl, rfl⟩
      exact ⟨_, rfl, body, refines, running⟩

/-- A system call is handled on the lists as it is on the kernel. -/
theorem called {active : Tid} {entered : Kernel} {call : SysCall} (isMatched : Matched kernel model)
    (isSafe : Safe kernel activation)
    (calls : callOf kernel activation = some (active, entered, call)) :
    ∃ model', model.entry activation = some (active, model') ∧
      Refines model'.nextFreeTd entered model' ∧ Running model'.nextFreeTd active model' ∧
      SafeCall model'.toKernelData call ∧
      activation.trap.call model'.toKernelData active = some call ∧
      model.step activation = model'.sysCall active call := by
  rcases callOf_eq_some.mp calls with ⟨enters, isCall⟩
  rcases isMatched.entered enters with ⟨model', runs, -, refines, running⟩
  have safeCall := isSafe active entered call enters isCall
  rw [refines.data] at isCall safeCall
  refine ⟨model', runs, refines, running, safeCall, isCall, ?_⟩
  rw [ListKernel.step_of_entry runs, ListKernel.handle_of_call isCall]

/-- Every safe iteration does on the kernel what it does on lists. -/
theorem loopBody (isMatched : Matched kernel model) (safe : Safe kernel activation) :
    ∃ kernel', loopBody kernel activation = some ((model.step activation).1, kernel') ∧
      Matched kernel' (model.step activation).2 := by
  cases runs : model.entry activation with
  | none =>
      refine ⟨kernel, ?_, ?_⟩
      · simpa [ListKernel.step, runs] using (isMatched.kernelEntry_none runs).2
      · simpa [ListKernel.step, runs] using isMatched
  | some result =>
      rcases result with ⟨active, entered⟩
      rcases isMatched.kernelEntry runs with ⟨kernel', enters, body, refines, running⟩
      have handled : Realizes (entered.handle active activation.trap).2.nextFreeTd
          (handle kernel' active activation.trap) (entered.handle active activation.trap) ∧
          Sound (entered.handle active activation.trap).2.nextFreeTd
            (entered.handle active activation.trap).2 := by
        have safe' := safe active kernel'
        cases trap : activation.trap with
        | swi req =>
            have safeCall := safe' _ enters (by rw [trap]; rfl)
            rw [refines.data] at safeCall
            rw [ArmKernel.handle, ListKernel.handle, refines.data]
            exact ⟨refines.handleSysCall running safeCall, running.sysCall safeCall⟩
        | irq regs =>
            have sound := running.interrupt (ListKernel.decodeInterrupt regs)
            refine ⟨?_, sound⟩
            have done := refines.handleInterrupt running regs
            rwa [← ListKernel.interrupt_nextFreeTd entered active
              (ListKernel.decodeInterrupt regs)] at done
      rcases handled with ⟨⟨kernel'', done, refines'⟩, sound⟩
      simp only [ListKernel.step, runs]
      exact ⟨kernel'', body.trans done, refines', sound⟩

theorem mainStep {kernel' : Kernel} (isMatched : Matched kernel model)
    (stepped : mainStep kernel activation = some kernel') (safe : Safe kernel activation) :
    (model.step activation).1 = false ∧ Matched kernel' (model.step activation).2 := by
  rcases isMatched.loopBody safe with ⟨next, done, isMatched'⟩
  rw [ArmKernel.mainStep, done] at stepped
  cases stops : (model.step activation).1 with
  | true => simp [stops] at stepped
  | false =>
      simp only [stops, Option.bind_eq_bind, Option.bind_some, Bool.false_eq_true, if_false,
        Option.some.injEq] at stepped
      exact ⟨rfl, stepped ▸ isMatched'⟩

end Matched

/-- The queues of the kernel match lists that are sound. -/
def Kernel.IsSound (kernel : Kernel) : Prop := ∃ model, Matched kernel model

theorem Kernel.IsSound.mainStep {kernel kernel' : Kernel} {activation : Activation}
    (isSound : kernel.IsSound) (stepped : mainStep kernel activation = some kernel')
    (safe : Safe kernel activation) : kernel'.IsSound := by
  rcases isSound with ⟨model, isMatched⟩
  exact ⟨_, (isMatched.mainStep stepped safe).2⟩

section Startup

theorem created_two {task : Tid} : Created 2 task ↔ task = 0 ∨ task = idleTaskTid := by
  rw [Created, ← BitVec.toNat_inj, ← BitVec.toNat_inj]
  change task.toNat < 2 ↔ task.toNat = 0 ∨ task.toNat = 1
  omega

theorem live_two {ctx : QueueRef} : Live 2 ctx ↔
    ((((False ∨ ctx = .sendQ 0) ∨ ctx = .sendQ idleTaskTid) ∨
      ctx ∈ (List.range schedulerPriorityCount).map
        (fun index => QueueRef.priorityQ (BitVec.ofNat 8 index))) ∨
      ctx ∈ (List.range eventHandlerMaxEvents).map
        (fun index => QueueRef.awaitQ (BitVec.ofNat 32 index))) := by
  cases ctx with
  | priorityQ priority =>
      simp only [Live, List.mem_map, List.mem_range, reduceCtorEq, false_or, or_false, and_false,
        exists_false, QueueRef.priorityQ.injEq]
      constructor
      · exact fun inRange => ⟨priority.toNat, inRange, by simp⟩
      · rintro ⟨index, indexLt, rfl⟩
        rwa [BitVec.toNat_ofNat, Nat.mod_eq_of_lt (lt_trans indexLt (by decide))]
  | sendQ task => simp [Live, created_two]
  | awaitQ event =>
      simp only [Live, List.mem_map, List.mem_range, reduceCtorEq, false_or, or_false, and_false,
        exists_false, QueueRef.awaitQ.injEq]
      constructor
      · exact fun inRange => ⟨event.toNat, inRange, by simp⟩
      · rintro ⟨index, indexLt, rfl⟩
        rwa [BitVec.toNat_ofNat, Nat.mod_eq_of_lt (lt_trans indexLt (by decide))]

theorem start_sound (boot : KernelData) (userMain idleMain : Addr) :
    Sound 2 (ListKernel.start boot userMain idleMain) where
  placed := placed_empty
  live taskMem := by simp [ListKernel.start] at taskMem
  created taskMem := by simp [ListKernel.start] at taskMem
  state taskMem := by simp [ListKernel.start] at taskMem
  priority taskMem := by simp [ListKernel.start] at taskMem
  inRange isCreated := by
    rcases created_two.mp isCreated with rfl | rfl
    · rw [ListKernel.start, taskDescriptorInitData_of_ne (by decide),
        taskDescriptorInitData_priority]
      decide
    · rw [ListKernel.start, taskDescriptorInitData_priority]
      decide
  tid isCreated := by
    rcases created_two.mp isCreated with rfl | rfl
    · rw [ListKernel.start, taskDescriptorInitData_of_ne (by decide), taskDescriptorInitData_tid]
    · rw [ListKernel.start, taskDescriptorInitData_tid]
  waiting _ _ := rfl
  bitmap _ bit := by simp [ListKernel.start] at bit
  bounded := by decide

/-- The two tasks of the initial lists are in their ready queues. -/
theorem init_located (boot : KernelData) (userMain idleMain : Addr)
    (kept : TaskState → Prop) :
    Located (ListKernel.init boot userMain idleMain).nextFreeTd kept (fun _ => False)
      (ListKernel.init boot userMain idleMain) := by
  have sound := start_sound boot userMain idleMain
  have firstCreated : Created 2 0 := created_two.mpr (Or.inl rfl)
  have idleCreated : Created 2 idleTaskTid := created_two.mpr (Or.inr rfl)
  have outside : Located 2 kept (fun _ => True)
      (ListKernel.start boot userMain idleMain) :=
    ⟨fun _ _ notAway => absurd trivial notAway, fun _ _ nonempty => absurd rfl nonempty⟩
  have first := outside.put (sound.inRange firstCreated)
  have both := first.put ((sound.put firstCreated (absent_empty 0)).inRange idleCreated)
  have settled : Located 2 kept (fun _ => False) _ := both.restrict fun task isCreated isAway => by
    rcases created_two.mp isCreated with rfl | rfl
    · exact isAway.1.2 rfl
    · exact isAway.2 rfl
  exact settled.sameTasks rfl ⟨fun _ => rfl, fun _ => rfl, fun _ => rfl, rfl⟩

/-- `init` returns a state that matches the initial lists. -/
theorem init_matched (boot : Kernel) (userMain idleMain : Addr) :
    ∃ kernel, init boot userMain idleMain = some kernel ∧
      Matched kernel (ListKernel.init boot.toKernelData userMain idleMain) := by
  have idleNe : idleTaskTid ≠ 0 := by decide
  have sound := start_sound boot.toKernelData userMain idleMain
  have firstCreated : Created 2 0 := created_two.mpr (Or.inl rfl)
  have idleCreated : Created 2 idleTaskTid := created_two.mpr (Or.inr rfl)
  have firstAbsent : Absent (ListKernel.start boot.toKernelData userMain idleMain).lists 0 :=
    absent_empty 0
  have firstPut := sound.put firstCreated firstAbsent
  have idleAbsent : Absent ((ListKernel.start boot.toKernelData userMain idleMain).put 0).lists
      idleTaskTid :=
    Absent.append (absent_empty idleTaskTid) idleNe
  have bothPut := firstPut.put idleCreated idleAbsent
  -- the queues
  have first := (QueueHeap.holds_empty boot.heap).taskDescriptorInitQueues 0 id id
  have idle := first.taskDescriptorInitQueues idleTaskTid
    (fun isLive => idleNe (QueueRef.sendQ.inj (isLive.resolve_left id)))
    (fun isCreated => idleNe (isCreated.resolve_left id))
  have ready := idle.queueInits (fun index => .priorityQ (BitVec.ofNat 8 index))
    (List.range schedulerPriorityCount) (by decide) (by simp)
  have readyLive : ∀ priority : Byte, priority.toNat < schedulerPriorityCount →
      QueueRef.priorityQ priority ∈ (List.range schedulerPriorityCount).map
        fun index => QueueRef.priorityQ (BitVec.ofNat 8 index) := fun priority inRange =>
    List.mem_map.mpr ⟨priority.toNat, List.mem_range.mpr inRange, by simp⟩
  let kernel : Kernel := schedulerInit (taskDescriptorInit
    (taskDescriptorInit boot 0 0 1 none userMain) idleTaskTid idleTaskTid 28 (some 0) idleMain)
  have readyHolds : kernel.heap.Holds _ _ _ := ready
  obtain ⟨heap, firstDone, firstHolds⟩ := schedulerPut_holds readyHolds
    (Or.inr (readyLive _ (sound.inRange firstCreated))) (sound.inRange firstCreated)
    (Or.inl (Or.inr rfl)) firstAbsent
  have firstHolds' : ({ kernel.markReady 0 with heap := heap } : Kernel).heap.Holds _ _ _ :=
    firstHolds
  obtain ⟨heap', idleDone, idleHolds⟩ := schedulerPut_holds firstHolds'
    (Or.inr (readyLive _ (firstPut.inRange idleCreated))) (firstPut.inRange idleCreated)
    (Or.inr rfl) idleAbsent
  have waiting := idleHolds.queueInits (fun index => .awaitQ (BitVec.ofNat 32 index))
    (List.range eventHandlerMaxEvents) (by decide) (by simp)
  have sameCreated : (fun task => (False ∨ task = 0) ∨ task = idleTaskTid) = Created 2 :=
    funext fun task => propext (by rw [false_or, created_two])
  have sameLive := funext fun ctx => propext (@live_two ctx).symm
  rw [sameCreated, sameLive] at waiting
  refine ⟨⟨(ListKernel.init boot.toKernelData userMain idleMain).toKernelData,
    (List.range eventHandlerMaxEvents).foldl
      (fun heap index => queueInit heap (.awaitQ (BitVec.ofNat 32 index))) heap'⟩,
    ?_, ⟨rfl, ?_⟩, ?_⟩
  · change (schedulerPut kernel 0 >>= _) = _
    rw [firstDone]
    change (schedulerPut ({ kernel.markReady 0 with heap := heap } : Kernel) idleTaskTid >>= _) = _
    rw [idleDone]
    rfl
  · exact waiting
  · exact bothPut.sameTasks rfl ⟨fun _ => rfl, fun _ => rfl, fun _ => rfl, rfl⟩

end Startup

section Runs

variable {boot start final : Kernel} {userMain idleMain : Addr}
  {trace : List (Transition Kernel Activation)} {permitted : Transition Kernel Activation → Prop}

/-- The lists that the kernel matches have a property. -/
def Abstracts (property : ListKernel → Prop) (kernel : Kernel) : Prop :=
  ∃ model, Matched kernel model ∧ property model

/-- The invariant rule for the lists: what holds of them at first and is kept by every
permitted step, all of them safe, holds of the lists in every state reached. -/
theorem Matched.run_abstracts {model : ListKernel} (property : ListKernel → Prop)
    (isMatched : Matched start model) (run : Run ArmKernel.mainStep start trace final)
    (allowed : ∀ transition ∈ trace, permitted transition)
    (safe : ∀ transition, permitted transition → Safe transition.before transition.input)
    (initially : property model)
    (preserved : ∀ transition model, Matched transition.before model →
      ArmKernel.mainStep transition.before transition.input = some transition.after →
      permitted transition → property model → property (model.step transition.input).2) :
    Abstracts property final := by
  have kept : ∀ transition : Transition Kernel Activation,
      ArmKernel.mainStep transition.before transition.input = some transition.after →
      permitted transition → Abstracts property transition.before →
      Abstracts property transition.after := by
    rintro transition stepped isPermitted ⟨model, isMatched, holds⟩
    rcases isMatched.mainStep stepped (safe transition isPermitted) with ⟨-, isMatched'⟩
    exact ⟨_, isMatched', preserved transition model isMatched stepped isPermitted holds⟩
  exact run.invariant kept allowed ⟨model, isMatched, initially⟩

/-- The invariant rule for runs from `init`. -/
theorem run_abstracts (property : ListKernel → Prop)
    (booted : init boot userMain idleMain = some start) (run : Run mainStep start trace final)
    (allowed : ∀ transition ∈ trace, permitted transition)
    (safe : ∀ transition, permitted transition → Safe transition.before transition.input)
    (initially : property (ListKernel.init boot.toKernelData userMain idleMain))
    (preserved : ∀ transition model, Matched transition.before model →
      mainStep transition.before transition.input = some transition.after →
      permitted transition → property model → property (model.step transition.input).2) :
    Abstracts property final := by
  rcases init_matched boot userMain idleMain with ⟨kernel, done, isMatched⟩
  rcases Option.some.inj (done.symm.trans booted) with rfl
  exact isMatched.run_abstracts property run allowed safe initially preserved

/-- In every safe run the queues are sound. -/
theorem run_matched (booted : init boot userMain idleMain = some start)
    (run : Run mainStep start trace final)
    (safe : ∀ transition ∈ trace, Safe transition.before transition.input) :
    final.IsSound := by
  obtain ⟨model, isMatched, -⟩ := run_abstracts (fun _ => True) booted run safe
    (fun _ => id) trivial fun _ _ _ _ _ _ => trivial
  exact ⟨model, isMatched⟩

end Runs

end ArmKernel
