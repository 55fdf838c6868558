import ArmKernel.Properties.SavedContext
import ArmKernel.Properties.TaskLocation

/-!
# Taking turns

A ready task waits behind those that were made ready before it at its priority. While it waits, no
task of a lower priority runs, and the tasks of its own priority that run are those ahead of it, in
their order and each of them once. So nobody of its priority overtakes it, however often the others
are preempted, woken or put back, and whatever arrives meanwhile.
-/

namespace ArmKernel

open PartialMachine Placement

/-- Nobody leaves a ready queue, and those who come go to its end. -/
def OnlyAppends (kernel kernel' : ListKernel) : Prop :=
  ∀ priority, kernel.lists (.priorityQ priority) <+: kernel'.lists (.priorityQ priority)

namespace OnlyAppends

variable {kernel kernel' kernel'' : ListKernel} {active : Tid}

theorem of_same (lists : kernel'.lists = kernel.lists) : OnlyAppends kernel kernel' := by
  intro priority
  rw [lists]

theorem trans (first : OnlyAppends kernel kernel') (second : OnlyAppends kernel' kernel'') :
    OnlyAppends kernel kernel'' :=
  fun priority => (first priority).trans (second priority)

theorem put (kernel : ListKernel) (td : Tid) : OnlyAppends kernel (kernel.put td) := by
  intro priority
  rw [ListKernel.put_lists]
  rcases eq_or_ne (QueueRef.priorityQ priority) (.priorityQ (kernel.tds td).priority) with
    same | ctxNe
  · rw [same, Function.update_self]
    exact List.prefix_append _ _
  · rw [Function.update_of_ne ctxNe]

theorem setList (kernel : ListKernel) {ctx : QueueRef} (tasks : List Tid)
    (notReady : ∀ priority, ctx ≠ .priorityQ priority) :
    OnlyAppends kernel (kernel.setList ctx tasks) := by
  intro priority
  rw [ListKernel.setList_lists, Function.update_of_ne (notReady priority).symm]

theorem wake (kernel : ListKernel) (event : Word) (ret : ℤ) (tasks : List Tid) :
    OnlyAppends kernel (kernel.wake event ret tasks) := by
  induction tasks generalizing kernel with
  | nil => exact of_same rfl
  | cons first rest ih =>
      have left : OnlyAppends kernel (kernel.setList (.awaitQ event) rest) :=
        setList kernel rest (by simp)
      have returned : OnlyAppends (kernel.setList (.awaitQ event) rest)
          ((kernel.setList (.awaitQ event) rest).setReturnValue first ret) := of_same rfl
      exact ((left.trans returned).trans (put _ first)).trans (ih _)

theorem create (priority : ℤ) (code : Addr) :
    OnlyAppends kernel (kernel.create active priority code).2 := by
  rw [ListKernel.create]
  split_ifs
  · exact of_same rfl
  · exact of_same rfl
  · have filled : OnlyAppends kernel (kernel.modify (taskDescriptorInitData ·
        (BitVec.ofNat 8 kernel.nextFreeTd) (BitVec.ofNat 8 kernel.nextFreeTd)
        (BitVec.ofInt 8 priority) (some active) code)) := of_same rfl
    exact ((filled.trans (put _ _)).trans (put _ active)).trans (of_same rfl)

theorem parenttid : OnlyAppends kernel (kernel.parenttid active).2 := by
  rw [ListKernel.parenttid]
  split <;> exact put kernel active

theorem send (tid : Byte) (msg : Addr) (msgLen : Word) (rep : Addr) (repLen : Word) :
    OnlyAppends kernel (kernel.send active tid msg msgLen rep repLen).2 := by
  rw [ListKernel.send]
  split_ifs
  · exact put kernel active
  · exact put kernel active
  · have delivered : OnlyAppends kernel (kernel.modify (·.deliver active tid msg msgLen)) :=
      of_same rfl
    exact (delivered.trans (put _ tid)).trans (of_same rfl)
  · exact (setList kernel _ (by simp)).trans (of_same rfl)

theorem receive (tid msg : Addr) (msgLen : Word) :
    OnlyAppends kernel (kernel.receive active tid msg msgLen).2 := by
  rw [ListKernel.receive]
  cases kernel.lists (.sendQ active) with
  | nil => exact of_same rfl
  | cons sender rest =>
      have left : OnlyAppends kernel (kernel.setList (.sendQ active) rest) :=
        setList kernel rest (by simp)
      dsimp only
      split_ifs
      · exact left.trans (put _ active)
      · have fetched : OnlyAppends kernel ((kernel.setList (.sendQ active) rest).modify
            (·.fetch sender tid msg msgLen)) := left.trans (of_same rfl)
        exact (fetched.trans (put _ active)).trans (of_same rfl)

theorem reply (tid : Byte) (rep : Addr) (repLen : Word) :
    OnlyAppends kernel (kernel.reply active tid rep repLen).2 := by
  rw [ListKernel.reply]
  split_ifs
  · exact put kernel active
  · exact put kernel active
  · have answered : OnlyAppends kernel (kernel.modify (·.answer tid rep repLen)) := of_same rfl
    exact (answered.trans (put _ tid)).trans (put _ active)

theorem awaitEvent (event : Word) : OnlyAppends kernel (kernel.awaitEvent active event).2 := by
  rw [ListKernel.awaitEvent]
  split_ifs
  · exact put kernel active
  · exact (setList kernel _ (by simp)).trans (of_same rfl)

theorem sysCall (kernel : ListKernel) (active : Tid) (call : SysCall) :
    OnlyAppends kernel (kernel.sysCall active call).2 := by
  have finish : ∀ {result : ℤ × ListKernel}, OnlyAppends kernel result.2 →
      OnlyAppends kernel (result.2.setReturnValue active result.1) :=
    fun appends => appends.trans (of_same rfl)
  cases call with
  | exit => exact of_same rfl
  | pass => exact finish (put kernel active)
  | create priority code => exact finish (create priority code)
  | mytid => exact finish (put kernel active)
  | parenttid => exact finish parenttid
  | send tid msg msgLen rep repLen => exact finish (send tid msg msgLen rep repLen)
  | receive tid msg msgLen => exact finish (receive tid msg msgLen)
  | reply tid rep repLen => exact finish (reply tid rep repLen)
  | awaitEvent event => exact finish (awaitEvent event)
  | panic => exact of_same rfl
  | quit => exact of_same rfl
  | unknown => exact of_same rfl

theorem interrupt (kernel : ListKernel) (active : Tid) (cause : ListKernel.Interrupt) :
    OnlyAppends kernel (kernel.interrupt active cause) := by
  cases cause with
  | event event ret keep1 keep2 =>
      have masked : OnlyAppends kernel (kernel.modify (·.maskInterrupts keep1 keep2)) :=
        of_same rfl
      exact (masked.trans (wake _ event ret _)).trans (put _ active)
  | spurious =>
      have panicked : OnlyAppends kernel kernel.panic := of_same rfl
      exact (panicked.trans (wake _ sysCallEventTimer 0 _)).trans (put _ active)
  | unexpected =>
      have panicked : OnlyAppends kernel kernel.panic := of_same rfl
      exact panicked.trans (put _ active)

/-- Whatever the trap, those who are ready keep their places. -/
theorem handle (kernel : ListKernel) (active : Tid) (trap : Trap) :
    OnlyAppends kernel (kernel.handle active trap).2 := by
  cases trap with
  | swi req => exact sysCall kernel active _
  | irq regs => exact interrupt kernel active _

end OnlyAppends

/-- Nothing that comes later changes what is ahead of an element. -/
theorem takeWhile_append_of_mem {task : Tid} {tasks tasks' : List Tid} (taskMem : task ∈ tasks)
    (appended : tasks <+: tasks') :
    tasks'.takeWhile (· ≠ task) = tasks.takeWhile (· ≠ task) := by
  rcases appended with ⟨more, rfl⟩
  induction tasks with
  | nil => cases taskMem
  | cons first rest ih =>
      rcases eq_or_ne first task with rfl | firstNe
      · simp
      · have restMem := (List.mem_cons.mp taskMem).resolve_left firstNe.symm
        simpa [firstNe] using ih restMem

section Steps

variable {kernel entered : ListKernel} {activation : Activation} {active task : Tid}
  {priority : Byte}

/-- The task that runs was the first of its priority. -/
theorem entry_queue (sound : Sound kernel.nextFreeTd kernel)
    (runs : kernel.entry activation = some (active, entered)) :
    ∃ rest, kernel.lists (.priorityQ (kernel.tds active).priority) = active :: rest ∧
      entered.lists =
        Function.update kernel.lists (.priorityQ (kernel.tds active).priority) rest ∧
      kernel.bitmap ≠ 0 ∧ (kernel.tds active).priority = bitmapLeadingzeroes kernel.bitmap := by
  rcases ListKernel.entry_eq runs with ⟨taken, got, rfl, -⟩
  rcases ListKernel.get_eq got with ⟨rest, notEmpty, queue, rfl⟩
  have own := sound.priority (queue ▸ List.mem_cons_self : active ∈ _)
  rw [own]
  exact ⟨rest, queue, rfl, by simpa [schedulerEmpty] using notEmpty, rfl⟩

/-- The task that runs has the highest priority of all that are ready. -/
theorem entry_highest (sound : Sound kernel.nextFreeTd kernel)
    (located : Located kernel.nextFreeTd (fun _ => True) (fun _ => False) kernel)
    (runs : kernel.entry activation = some (active, entered))
    (taskMem : task ∈ kernel.lists (.priorityQ priority)) :
    (kernel.tds active).priority.toNat ≤ priority.toNat := by
  rcases entry_queue sound runs with ⟨rest, -, -, nonzero, isLowest⟩
  rw [isLowest]
  by_contra lower
  have set := located.complete trivial priority (List.ne_nil_of_mem taskMem)
  have clear := (bitmapLeadingzeroes_isLowestBit nonzero).2 priority.toNat (not_le.mp lower)
  rw [set] at clear
  cases clear

/-- A step takes at most one task from ahead of one that waits, the first of its priority. -/
theorem step_turn (sound : Sound kernel.nextFreeTd kernel)
    (runs : kernel.entry activation = some (active, entered)) (activeNe : active ≠ task)
    (taskMem : task ∈ kernel.lists (.priorityQ priority)) :
    task ∈ (kernel.step activation).2.lists (.priorityQ priority) ∧
      (kernel.lists (.priorityQ priority)).takeWhile (· ≠ task) =
        (if (kernel.tds active).priority = priority then [active] else []) ++
          ((kernel.step activation).2.lists (.priorityQ priority)).takeWhile (· ≠ task) := by
  rcases entry_queue sound runs with ⟨rest, queue, lists, -⟩
  have appended := OnlyAppends.handle entered active activation.trap priority
  rw [ListKernel.step_of_entry runs]
  have waits : task ∈ entered.lists (.priorityQ priority) ∧
      (kernel.lists (.priorityQ priority)).takeWhile (· ≠ task) =
        (if (kernel.tds active).priority = priority then [active] else []) ++
          (entered.lists (.priorityQ priority)).takeWhile (· ≠ task) := by
    rw [lists]
    rcases eq_or_ne (kernel.tds active).priority priority with rfl | priorityNe
    · rw [queue] at taskMem ⊢
      have restMem := (List.mem_cons.mp taskMem).resolve_left activeNe.symm
      simp [restMem, activeNe]
    · have ctxNe : QueueRef.priorityQ priority ≠ .priorityQ (kernel.tds active).priority :=
        fun same => priorityNe (QueueRef.priorityQ.inj same).symm
      rw [Function.update_of_ne ctxNe, if_neg priorityNe]
      exact ⟨taskMem, rfl⟩
  rw [takeWhile_append_of_mem waits.1 appended]
  exact ⟨appended.subset waits.1, waits.2⟩

end Steps

section Runs

variable {boot start kernel final : Kernel} {userMain idleMain : Addr}
  {front trace : List (Transition Kernel Activation)} {task : Tid}

/-- The tasks that are to run before `task` at its priority. -/
def ahead (kernel : Kernel) (task : Tid) : List Tid :=
  (queueTasks kernel.heap (.priorityQ (kernel.tds task).priority)).takeWhile (· ≠ task)

/-- The task that runs, if it is of the priority. -/
def turn (priority : Byte) (transition : Transition Kernel Activation) : List Tid :=
  match kernelEntry transition.before transition.input with
  | some (active, _) => if (transition.before.tds active).priority = priority then [active] else []
  | none => []

/-- The tasks are located, and `task` waits for its turn at the priority. -/
def WaitsAt (task : Tid) (priority : Byte) (model : ListKernel) : Prop :=
  Located model.nextFreeTd (fun _ => True) (fun _ => False) model ∧
    task ∈ model.lists (.priorityQ priority)

theorem Matched.ahead {model : ListKernel} {priority : Byte} (isMatched : Matched kernel model)
    (waits : WaitsAt task priority model) :
    ahead kernel task = (model.lists (.priorityQ priority)).takeWhile (· ≠ task) := by
  have isLive := isMatched.sound.live waits.2
  rw [ArmKernel.ahead, isMatched.refines.data, isMatched.sound.priority waits.2,
    isMatched.refines.queueTasks_eq _ isLive]

/-- What one iteration does to a task that waits for its turn. -/
theorem Matched.turn {model : ListKernel} {priority : Byte}
    {transition : Transition Kernel Activation} (isMatched : Matched transition.before model)
    (stepped : ArmKernel.mainStep transition.before transition.input = some transition.after)
    (legal : Legal transition.before transition.input) (passive : Passive task transition)
    (waits : WaitsAt task priority model) :
    WaitsAt task priority (model.step transition.input).2 ∧
      (∀ active entered, ArmKernel.kernelEntry transition.before transition.input =
          some (active, entered) →
        (transition.before.tds active).priority.toNat ≤ priority.toNat) ∧
      ArmKernel.ahead transition.before task =
        ArmKernel.turn priority transition ++ ArmKernel.ahead transition.after task := by
  rcases isMatched.mainStep stepped legal.safe with ⟨goesOn, afterMatched⟩
  rcases ListKernel.entry_of_step goesOn with ⟨active, entered, runs⟩
  rcases isMatched.kernelEntry runs with ⟨kernel', enters, -⟩
  have activeNe : active ≠ task := by
    rintro rfl
    exact passive kernel' enters
  rcases step_turn isMatched.sound runs activeNe waits.2 with ⟨staysMem, taken⟩
  have stays : WaitsAt task priority (model.step transition.input).2 :=
    ⟨Located.step isMatched.sound waits.1 (isMatched.keeping legal), staysMem⟩
  refine ⟨stays, ?_, ?_⟩
  · intro active' entered' enters'
    rcases Prod.mk.inj (Option.some.inj (enters'.symm.trans enters)) with ⟨rfl, -⟩
    rw [isMatched.refines.data]
    exact entry_highest isMatched.sound waits.1 runs waits.2
  · rw [isMatched.ahead waits, afterMatched.ahead stays, taken, ArmKernel.turn, enters,
      isMatched.refines.data]

/-- A ready task is in its ready queue at every call of `scheduler_get`. -/
theorem run_waitsAt (booted : init boot userMain idleMain = some start)
    (run : Run mainStep start front kernel)
    (legal : ∀ transition ∈ front, Legal transition.before transition.input)
    (isCreated : Created kernel.nextFreeTd task) (ready : (kernel.tds task).state = .ready) :
    Abstracts (WaitsAt task (kernel.tds task).priority) kernel := by
  rcases run_located booted run legal with ⟨model, isMatched, located⟩
  refine ⟨model, isMatched, located, ?_⟩
  rw [isMatched.refines.data] at isCreated ready ⊢
  have home := located.homed task isCreated id trivial
  rwa [Homed, ready] at home

/--
In every legal run, while a ready task waits for its turn, only tasks of its priority or a higher
one run, and those of its priority are the ones ahead of it when it began to wait, in order: nobody
overtakes it, and nobody of its priority runs twice.
-/
theorem run_turns (booted : init boot userMain idleMain = some start)
    (before : Run mainStep start front kernel)
    (wasLegal : ∀ transition ∈ front, Legal transition.before transition.input)
    (isCreated : Created kernel.nextFreeTd task) (ready : (kernel.tds task).state = .ready)
    (run : Run mainStep kernel trace final)
    (allowed : ∀ transition ∈ trace,
      Legal transition.before transition.input ∧ Passive task transition) :
    ahead kernel task = trace.flatMap (turn (kernel.tds task).priority) ++ ahead final task ∧
      (trace.flatMap (turn (kernel.tds task).priority)).Nodup ∧
      ∀ transition ∈ trace, ∀ active entered,
        kernelEntry transition.before transition.input = some (active, entered) →
        (transition.before.tds active).priority.toNat ≤ (kernel.tds task).priority.toNat := by
  have waits := run_waitsAt booted before wasLegal isCreated ready
  have preserved : ∀ transition : Transition Kernel Activation,
      mainStep transition.before transition.input = some transition.after →
      Legal transition.before transition.input ∧ Passive task transition →
      Abstracts (WaitsAt task (kernel.tds task).priority) transition.before →
      Abstracts (WaitsAt task (kernel.tds task).priority) transition.after := by
    rintro transition stepped ⟨legal, passive⟩ ⟨model, isMatched, waits⟩
    exact ⟨_, (isMatched.mainStep stepped legal.safe).2,
      (isMatched.turn stepped legal passive waits).1⟩
  have order : ahead kernel task =
      trace.flatMap (turn (kernel.tds task).priority) ++ ahead final task := by
    have conserved := run.conserved (Abstracts (WaitsAt task (kernel.tds task).priority))
      (ahead · task) (fun _ => []) (turn (kernel.tds task).priority) preserved
      (by
        rintro transition stepped ⟨legal, passive⟩ ⟨model, isMatched, waits⟩
        rw [List.append_nil]
        exact (isMatched.turn stepped legal passive waits).2.2) allowed waits
    rwa [List.flatMap_eq_nil_iff.mpr (fun _ _ => rfl), List.append_nil] at conserved
  refine ⟨order, ?_, ?_⟩
  · rcases waits with ⟨model, isMatched, waits⟩
    have distinct : (ahead kernel task).Nodup := by
      rw [isMatched.ahead waits]
      exact (isMatched.sound.placed.nodup _).sublist (List.takeWhile_sublist _)
    rw [order] at distinct
    exact distinct.of_append_left
  · intro transition transitionMem active entered enters
    rcases run.split_at transitionMem with ⟨earlier, later, rfl, toBefore, -⟩
    rcases toBefore.invariant preserved
      (fun other otherMem => allowed other (by simp [otherMem])) waits with
      ⟨model, isMatched, waits⟩
    rcases allowed transition transitionMem with ⟨legal, passive⟩
    exact (isMatched.turn (run.step_of_mem transitionMem) legal passive waits).2.1 active entered
      enters

/-- The first task creates one of its own priority, which runs before it. -/
def createPeer : Activation := callActivation 2 1 0 0

theorem run_turns_peer :
    ahead (stepped zeroedStart createPeer) 0 =
      (traceOf mainStep (stepped zeroedStart createPeer) [callActivation 1 0 0 0]).flatMap
          (turn ((stepped zeroedStart createPeer).tds 0).priority) ++
        ahead (finalOf mainStep (stepped zeroedStart createPeer) [callActivation 1 0 0 0]) 0 := by
  have booted : init zeroedBoot 0 0 = some zeroedStart := rfl
  have created : mainStep zeroedStart createPeer = some (stepped zeroedStart createPeer) :=
    mainStep_stepped (by decide +kernel)
  have runs : (record mainStep (stepped zeroedStart createPeer)
      [callActivation 1 0 0 0]).isSome := by decide +kernel
  exact (run_turns booted (.cons created (.nil _)) (by decide +kernel) (by decide +kernel)
    (by decide +kernel) (.of_isSome runs) (by decide +kernel)).1

end Runs

end ArmKernel
