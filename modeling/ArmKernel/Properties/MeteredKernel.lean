import ArmKernel.MainLoop
import ArmKernel.Properties.NonIdleTime

/-!
# The accounting in the kernel

In a run of the kernel `ctx.metrics` is written by `end_idle_task` only. The word in the stack of
the idle task lies in user memory, where tasks write and where messages are copied to. As long as
none of this hits the word, the accounting goes through the same values as that of the loop alone,
and so what `main` prints after its loop is right under the same condition.
-/

namespace ArmKernel

open PartialMachine TimeSpans

/-- The calls leave `ctx.metrics` alone. -/
def KeepsMetrics {Result : Type} (kernel : Kernel) (actual : Option (Result × Kernel)) : Prop :=
  ∀ result kernel', actual = some (result, kernel') → kernel'.lastIdleTime = kernel.lastIdleTime

namespace KeepsMetrics

section Rules

variable {First Result : Type} {kernel : Kernel}

theorem done {kernel' : Kernel} (same : kernel'.lastIdleTime = kernel.lastIdleTime)
    (result : Result) : KeepsMetrics kernel (some (result, kernel')) := by
  rintro _ _ ⟨⟩
  exact same

theorem of_same {kernel' : Kernel} {actual : Option (Result × Kernel)}
    (same : kernel'.lastIdleTime = kernel.lastIdleTime) (keeps : KeepsMetrics kernel' actual) :
    KeepsMetrics kernel actual :=
  fun result final ends => (keeps result final ends).trans same

theorem fails : KeepsMetrics kernel (none : Option (Result × Kernel)) := by
  intro _ _ ends
  cases ends

theorem bind {first : Option (First × Kernel)} {next : First × Kernel → Option (Result × Kernel)}
    (keepsFirst : KeepsMetrics kernel first)
    (keepsNext : ∀ result kernel', KeepsMetrics kernel' (next (result, kernel'))) :
    KeepsMetrics kernel (first.bind next) := by
  intro result kernel' ends
  rcases Option.bind_eq_some_iff.mp ends with ⟨⟨middle, kernel''⟩, firstDone, nextDone⟩
  exact (keepsNext middle kernel'' result kernel' nextDone).trans
    (keepsFirst middle kernel'' firstDone)

theorem bindVoid {first : Option Kernel} {next : Kernel → Option (Result × Kernel)}
    (keepsFirst : KeepsMetrics kernel (first.map fun kernel' => ((), kernel')))
    (keepsNext : ∀ kernel', KeepsMetrics kernel' (next kernel')) :
    KeepsMetrics kernel (first.bind next) := by
  intro result kernel' ends
  rcases Option.bind_eq_some_iff.mp ends with ⟨kernel'', firstDone, nextDone⟩
  have same := keepsFirst () kernel'' (by rw [firstDone, Option.map_some])
  exact (keepsNext kernel'' result kernel' nextDone).trans same

/-- The first part gives no kernel: it works on the queues alone. -/
theorem bindValue {Value : Type} {value : Option Value} {next : Value → Option (Result × Kernel)}
    (keepsNext : ∀ value, KeepsMetrics kernel (next value)) :
    KeepsMetrics kernel (value.bind next) := by
  intro result kernel' ends
  rcases Option.bind_eq_some_iff.mp ends with ⟨middle, -, nextDone⟩
  exact keepsNext middle result kernel' nextDone

end Rules

section Calls

variable {kernel : Kernel} {active : Tid}

theorem schedulerGet (kernel : Kernel) : KeepsMetrics kernel (schedulerGet kernel) := by
  rw [ArmKernel.schedulerGet]
  dsimp only
  split_ifs
  · exact done rfl none
  · apply bindValue
    rintro ⟨ret, heap⟩
    dsimp only
    split_ifs
    · exact done rfl ret
    · exact done rfl ret
  · exact fails

theorem schedulerPut (kernel : Kernel) (td : Tid) :
    KeepsMetrics kernel (schedulerPut kernel td) := by
  rw [ArmKernel.schedulerPut]
  dsimp only
  split_ifs
  · apply bindValue
    rintro ⟨err, heap⟩
    dsimp only
    split_ifs
    · exact done rfl err
    · exact done rfl err
  · exact fails

theorem putThen {Result : Type} {next : Byte × Kernel → Option (Result × Kernel)} (td : Tid)
    (keepsNext : ∀ result kernel', KeepsMetrics kernel' (next (result, kernel'))) :
    KeepsMetrics kernel ((ArmKernel.schedulerPut kernel td).bind next) :=
  (schedulerPut kernel td).bind keepsNext

theorem eventHandlerLoop (event : Word) (ret : ℤ) (fuel : ℕ) (kernel : Kernel) :
    KeepsMetrics kernel
      ((eventHandlerLoop event ret fuel kernel).map fun kernel' => ((), kernel')) := by
  induction fuel generalizing kernel with
  | zero =>
      rw [ArmKernel.eventHandlerLoop]
      split_ifs
      · exact done rfl ()
      · exact fails
  | succ fuel ih =>
      rw [ArmKernel.eventHandlerLoop]
      split_ifs
      · exact done rfl ()
      · rintro _ _ ends
        simp only [Option.bind_eq_bind, Option.map_eq_some_iff, Option.bind_eq_some_iff,
          Prod.mk.injEq] at ends
        rcases ends with ⟨last, ⟨⟨_, heap⟩, -, td, -, ⟨_, put⟩, isPut, rest⟩, -, rfl⟩
        have sameRest := ih put () last (by rw [rest, Option.map_some])
        have samePut := schedulerPut
          (Kernel.modify { kernel with heap := heap } (taskDescriptorSetReturnValue · td ret)) td
          _ put isPut
        exact sameRest.trans samePut

theorem eventHandlerHandleEvent (kernel : Kernel) (event : Word) (ret : ℤ) :
    KeepsMetrics kernel (eventHandlerHandleEvent kernel event ret) := by
  rw [ArmKernel.eventHandlerHandleEvent]
  split_ifs
  · exact done rfl (-1)
  · apply bindVoid (eventHandlerLoop event ret _ kernel)
    exact fun kernel' => done rfl 0

theorem kernelCreate (priority : ℤ) (code : Addr) :
    KeepsMetrics kernel (kernelCreate kernel active priority code) := by
  rw [ArmKernel.kernelCreate]
  split_ifs
  · exact done rfl (-1)
  · exact done rfl (-2)
  · apply putThen
    intro _ _
    apply putThen
    exact fun _ _ => done rfl _

theorem kernelPass :
    KeepsMetrics kernel ((kernelPass kernel active).map fun kernel' => ((), kernel')) := by
  rintro _ _ ends
  simp only [ArmKernel.kernelPass, Option.bind_eq_bind, Option.map_eq_some_iff,
    Option.bind_eq_some_iff, Option.some.injEq, Prod.mk.injEq] at ends
  rcases ends with ⟨_, ⟨⟨err, put⟩, isPut, rfl⟩, -, rfl⟩
  exact schedulerPut kernel active err put isPut

theorem kernelMytid : KeepsMetrics kernel (kernelMytid kernel active) :=
  putThen active fun _ _ => done rfl _

theorem kernelParenttid : KeepsMetrics kernel (kernelParenttid kernel active) := by
  apply putThen
  intro _ kernel'
  dsimp only
  split
  · exact done rfl (-1)
  · exact done rfl _

theorem kernelSend (tid : Byte) (msg : Addr) (msgLen : Word) (rep : Addr) (repLen : Word) :
    KeepsMetrics kernel (kernelSend kernel active tid msg msgLen rep repLen) := by
  rw [ArmKernel.kernelSend]
  dsimp only
  split_ifs
  · apply putThen
    exact fun _ _ => done rfl (-1)
  · apply putThen
    exact fun _ _ => done rfl (-2)
  · apply putThen
    exact fun _ _ => done rfl 0
  · apply bindValue
    exact fun _ => done rfl 0

theorem kernelReceive (tid msg : Addr) (msgLen : Word) :
    KeepsMetrics kernel (kernelReceive kernel active tid msg msgLen) := by
  rw [ArmKernel.kernelReceive]
  split_ifs
  · apply bindValue
    rintro ⟨sender, heap⟩
    apply bindValue
    intro sender
    dsimp only
    split_ifs
    · apply putThen
      exact fun _ _ => done rfl (-1)
    · apply putThen
      exact fun _ _ => done rfl _
  · exact done rfl 0

theorem kernelReply (tid : Byte) (rep : Addr) (repLen : Word) :
    KeepsMetrics kernel (kernelReply kernel active tid rep repLen) := by
  rw [ArmKernel.kernelReply]
  dsimp only
  split_ifs
  · apply putThen
    exact fun _ _ => done rfl (-1)
  · apply putThen
    exact fun _ _ => done rfl (-2)
  · apply putThen
    intro _ _
    apply putThen
    exact fun _ _ => done rfl 0

theorem eventHandlerAddTask (event : Word) (td : Tid) :
    KeepsMetrics kernel (eventHandlerAddTask kernel event td) := by
  rw [ArmKernel.eventHandlerAddTask]
  split_ifs
  · exact done rfl (-1)
  · apply bindValue
    rintro ⟨err, heap⟩
    dsimp only
    split_ifs
    · exact done rfl 0
    · exact done rfl (-2)

theorem kernelAwaitEvent (event : Word) :
    KeepsMetrics kernel (kernelAwaitEvent kernel active event) := by
  rw [ArmKernel.kernelAwaitEvent]
  split_ifs
  · apply putThen
    exact fun _ _ => done rfl (-1)
  · have enabled : (kernel.modify (enableInterrupt · event)).lastIdleTime =
        kernel.lastIdleTime := by
      rw [Kernel.modify_data, enableInterrupt]
      split_ifs <;> rfl
    apply of_same enabled
    exact (eventHandlerAddTask event active).bind fun _ _ => done rfl 0

theorem finish {actual : Option (ℤ × Kernel)} (keeps : KeepsMetrics kernel actual) :
    KeepsMetrics kernel (actual.bind fun returned =>
      some (false, returned.2.modify (taskDescriptorSetReturnValue · active returned.1))) :=
  keeps.bind fun _ _ => done rfl false

theorem handleSysCall (call : SysCall) :
    KeepsMetrics kernel (handleSysCall kernel active call) := by
  cases call with
  | exit => exact done rfl _
  | pass => exact kernelPass.bindVoid fun _ => done rfl false
  | create priority code => exact (kernelCreate priority code).finish
  | mytid => exact kernelMytid.finish
  | parenttid => exact kernelParenttid.finish
  | send tid msg msgLen rep repLen => exact (kernelSend tid msg msgLen rep repLen).finish
  | receive tid msg msgLen => exact (kernelReceive tid msg msgLen).finish
  | reply tid rep repLen => exact (kernelReply tid rep repLen).finish
  | awaitEvent event => exact (kernelAwaitEvent event).finish
  | panic | quit | unknown => exact done rfl _

theorem finishInterrupt (event : Word) (ret : ℤ) :
    KeepsMetrics kernel (finishInterrupt kernel active event ret) := by
  apply (eventHandlerHandleEvent kernel event ret).bind
  intro _ _
  apply putThen
  exact fun _ _ => done rfl false

theorem handleInterrupt (regs : InterruptRegs) :
    KeepsMetrics kernel (handleInterrupt kernel active regs) := by
  have decoded1 : (decodeUart1 kernel regs).2.2.lastIdleTime = kernel.lastIdleTime := by
    rw [decodeUart1]
    split_ifs <;> rfl
  have decoded2 : (decodeUart2 kernel regs).2.2.lastIdleTime = kernel.lastIdleTime := by
    rw [decodeUart2]
    split_ifs <;> rfl
  by_cases timer : regs.vicVecAddr = sysCallEventTimer
  · rw [handleInterrupt_timer timer]
    exact finishInterrupt _ _
  by_cases uart1 : regs.vicVecAddr = sysCallEventUart1
  · rw [handleInterrupt_uart1 uart1]
    exact of_same decoded1 (finishInterrupt _ _)
  by_cases uart2 : regs.vicVecAddr = sysCallEventUart2
  · rw [handleInterrupt_uart2 uart2]
    exact of_same decoded2 (finishInterrupt _ _)
  · simp only [ArmKernel.handleInterrupt, if_neg timer, if_neg uart1, if_neg uart2]
    exact putThen active fun _ _ => done rfl false

theorem handle (trap : Trap) : KeepsMetrics kernel (handle kernel active trap) := by
  cases trap with
  | swi req => exact handleSysCall _
  | irq regs => exact handleInterrupt regs

end Calls

end KeepsMetrics

section Words

theorem bytes_append (value : Word) :
    value.extractLsb' 24 8 ++ value.extractLsb' 16 8 ++ value.extractLsb' 8 8 ++
      value.extractLsb' 0 8 = value := by
  apply BitVec.eq_of_getLsbD_eq
  intro index indexLt
  simp only [BitVec.getLsbD_append, BitVec.getLsbD_extractLsb']
  grind

theorem loadWord_storeWord (mem : Mem) (addr : Addr) (value : Word) :
    loadWord (storeWord mem addr value) addr = value := by
  have apart : ∀ left right : Addr, left ≠ right → addr + left ≠ addr + right := by
    intro left right different same
    exact different (add_left_cancel same)
  have first : ∀ right : Addr, right ≠ 0 → addr ≠ addr + right := by
    intro right nonzero same
    exact nonzero (left_eq_add.mp same)
  rw [loadWord, storeWord, storeByte_self, storeByte_of_ne (apart 2 3 (by decide)),
    storeByte_self, storeByte_of_ne (apart 1 3 (by decide)),
    storeByte_of_ne (apart 1 2 (by decide)), storeByte_self,
    storeByte_of_ne (first 3 (by decide)), storeByte_of_ne (first 2 (by decide)),
    storeByte_of_ne (first 1 (by decide)), storeByte_self]
  exact bytes_append value

end Words

/-- `*non_idle_time` -/
def Kernel.nonIdleTime (kernel : Kernel) : Word := loadWord kernel.mem idleTaskNonIdleTimeAddr

/-- An iteration of the loop, with what `clock()` returns before and after the activation. -/
structure TimedActivation where
  activation : Activation
  entered : ℕ
  left : ℕ

/-- The kernel keeps the low bits of the clock. -/
def TimedActivation.input (timed : TimedActivation) : Activation :=
  { timed.activation with
    clockBefore := BitVec.ofNat 32 timed.entered
    clockAfter := BitVec.ofNat 32 timed.left }

/-- An iteration that begins at the given time or later. -/
def timedStep (state : Kernel × ℕ) (timed : TimedActivation) : Option (Kernel × ℕ) :=
  if state.2 ≤ timed.entered ∧ timed.entered ≤ timed.left then
    (mainStep state.1 timed.input).map fun kernel => (kernel, timed.left)
  else
    none

/-- The task that runs next is the idle task. -/
def idleRuns (kernel : Kernel) : Bool :=
  match schedulerGet kernel with
  | some (some active, taken) => (taken.tds active).tid == idleTaskTid
  | _ => false

/-- The time that the iteration spends in the idle task. -/
def idleSpan (kernel : Kernel) (timed : TimedActivation) : List Span :=
  if idleRuns kernel then [⟨timed.entered, timed.left⟩] else []

/-- In the iteration nothing but `update_idle_task` writes to `*non_idle_time`. -/
def KeepsNonIdleTime (kernel : Kernel) (timed : TimedActivation) (kernel' : Kernel) : Prop :=
  ∀ active taken, schedulerGet kernel = some (some active, taken) →
    kernel'.nonIdleTime =
      if idleRuns kernel then
        (updateIdleTask taken (BitVec.ofNat 32 timed.entered)).nonIdleTime
      else
        taken.nonIdleTime

/-- The variables of the loop are those of the kernel, between two iterations. -/
structure Kernel.Metered (kernel : Kernel) (loop : MeteredLoop) : Prop where
  phase : loop.phase = .kernel
  lastIdleTime : loop.lastIdleTime = kernel.lastIdleTime
  nonIdleTime : loop.nonIdleTime = kernel.nonIdleTime

section Steps

variable {kernel kernel' taken : Kernel} {loop : MeteredLoop} {timed : TimedActivation}
  {active : Tid} {ret : Option Tid} {stop : Bool}

theorem schedulerGet_mem (got : schedulerGet kernel = some (ret, taken)) :
    taken.mem = kernel.mem := by
  rw [schedulerGet] at got
  split_ifs at got
  · rw [← (Prod.mk.inj (Option.some.inj got)).2]
  · rcases Option.ite_none_right_eq_some.mp got with ⟨-, found⟩
    rcases Option.bind_eq_some_iff.mp found with ⟨⟨_, heap⟩, -, rest⟩
    dsimp only at rest
    split_ifs at rest
    · rw [← (Prod.mk.inj (Option.some.inj rest)).2]
    · rw [← (Prod.mk.inj (Option.some.inj rest)).2]

theorem updateIdleTask_nonIdleTime (kernel : Kernel) (curTime : Word) :
    (updateIdleTask kernel curTime).nonIdleTime =
      kernel.nonIdleTime + (curTime - kernel.lastIdleTime) := by
  have ne0 : idleTaskNonIdleTimeAddr ≠ idleTaskExitAddr := by decide
  have ne1 : idleTaskNonIdleTimeAddr + 1 ≠ idleTaskExitAddr := by decide
  have ne2 : idleTaskNonIdleTimeAddr + 2 ≠ idleTaskExitAddr := by decide
  have ne3 : idleTaskNonIdleTimeAddr + 3 ≠ idleTaskExitAddr := by decide
  simp only [Kernel.nonIdleTime, updateIdleTask, Kernel.modify_data, KernelData.setMem,
    loadWord_storeWord]
  simp only [loadWord, storeByte_of_ne ne0, storeByte_of_ne ne1, storeByte_of_ne ne2,
    storeByte_of_ne ne3]

theorem enterKernel_lastIdleTime (kernel : Kernel) (active : Tid) (activation : Activation) :
    (enterKernel kernel active activation).lastIdleTime =
      if (kernel.tds active).tid = idleTaskTid then activation.clockAfter
      else kernel.lastIdleTime := by
  rw [enterKernel]
  split_ifs <;> rfl

/-- An iteration in which a task runs is an activation in the loop and its return. -/
theorem Kernel.Metered.activation (metered : kernel.Metered loop) (later : loop.now ≤ timed.entered)
    (passes : timed.entered ≤ timed.left)
    (got : schedulerGet kernel = some (some active, taken))
    (handled : handle (enterKernel taken active timed.input) active timed.input.trap =
      some (stop, kernel'))
    (kept : KeepsNonIdleTime kernel timed kernel') :
    ∃ trace loop', Run MeteredLoop.step loop trace loop' ∧ kernel'.Metered loop' ∧
      loop'.now ≤ timed.left ∧ loop'.spans = idleSpan kernel timed ++ loop.spans := by
  have sameMetrics := KeepsMetrics.schedulerGet kernel (some active) taken got
  have sameWord : taken.nonIdleTime = kernel.nonIdleTime := by
    rw [Kernel.nonIdleTime, schedulerGet_mem got, Kernel.nonIdleTime]
  have keptMetrics := KeepsMetrics.handle timed.input.trap stop kernel' handled
  have keptWord := kept active taken got
  rw [enterKernel_lastIdleTime] at keptMetrics
  have first := MeteredLoop.step_activate metered.phase later (taken.tds active).tid
    (eventHandlerEmpty taken.heap)
  by_cases isIdle : (taken.tds active).tid = idleTaskTid
  · have runs : idleRuns kernel = true := by
      rw [idleRuns, got]
      exact beq_iff_eq.mpr isIdle
    refine ⟨_, _, .cons first (.cons (MeteredLoop.step_trap rfl passes) (.nil _)),
      ⟨rfl, ?_, ?_⟩, le_rfl, ?_⟩
    · rw [keptMetrics, if_pos isIdle]
      simp only [if_pos isIdle]
      rfl
    · rw [keptWord, if_pos runs, updateIdleTask_nonIdleTime, sameMetrics, sameWord,
        ← metered.lastIdleTime, ← metered.nonIdleTime]
      simp only [if_pos isIdle]
      rfl
    · rw [idleSpan, if_pos runs]
      simp only [if_pos isIdle]
      rfl
  · have rests : ¬idleRuns kernel = true := by
      rw [idleRuns, got]
      exact fun runs => isIdle (beq_iff_eq.mp runs)
    refine ⟨_, _, .cons first (.cons (MeteredLoop.step_trap rfl passes) (.nil _)),
      ⟨rfl, ?_, ?_⟩, le_rfl, ?_⟩
    · rw [keptMetrics, if_neg isIdle, sameMetrics]
      simp only [if_neg isIdle]
      exact metered.lastIdleTime
    · rw [keptWord, if_neg rests, sameWord]
      simp only [if_neg isIdle]
      exact metered.nonIdleTime
    · rw [idleSpan, if_neg rests]
      simp only [if_neg isIdle]
      rfl

/-- The iteration in which the loop ends may be one without an activation. -/
theorem Kernel.Metered.loopBody (metered : kernel.Metered loop) (later : loop.now ≤ timed.entered)
    (passes : timed.entered ≤ timed.left)
    (done : loopBody kernel timed.input = some (stop, kernel'))
    (kept : KeepsNonIdleTime kernel timed kernel') :
    ∃ trace loop', Run MeteredLoop.step loop trace loop' ∧ kernel'.Metered loop' ∧
      loop'.now ≤ timed.left ∧ loop'.spans = idleSpan kernel timed ++ loop.spans := by
  rcases Option.bind_eq_some_iff.mp done with ⟨⟨ret, taken⟩, got, rest⟩
  cases ret with
  | some active => exact metered.activation later passes got rest kept
  | none =>
      obtain rfl : taken = kernel' := congrArg Prod.snd (Option.some.inj rest)
      have sameMetrics := KeepsMetrics.schedulerGet kernel none taken got
      have rests : idleSpan kernel timed = [] := by
        simp only [idleSpan, idleRuns, got, Bool.false_eq_true, if_false]
      refine ⟨[], loop, .nil _, ⟨metered.phase, ?_, ?_⟩, later.trans passes, ?_⟩
      · rw [metered.lastIdleTime, sameMetrics]
      · rw [metered.nonIdleTime, Kernel.nonIdleTime, Kernel.nonIdleTime, schedulerGet_mem got]
      · rw [rests, List.nil_append]

end Steps

/-- The activations of the idle task up to the end of the trace, the last one first. -/
def idleSpansOf (trace : List (Transition (Kernel × ℕ) TimedActivation)) (spans : List Span) :
    List Span :=
  trace.foldl (fun spans transition => idleSpan transition.before.1 transition.input ++ spans) spans

section Runs

variable {boot start kernel kernel' : Kernel} {loop : MeteredLoop} {timed : TimedActivation}
  {userMain idleMain : Addr} {now reading : ℕ}
  {trace : List (Transition (Kernel × ℕ) TimedActivation)}

theorem init_metered (booted : init boot userMain idleMain = some start) :
    start.Metered .start := by
  simp only [init, Option.bind_eq_bind, Option.bind_eq_some_iff] at booted
  rcases booted with ⟨_, -, _, -, same⟩
  rw [← Option.some.inj same]
  refine ⟨rfl, rfl, ?_⟩
  rw [Kernel.nonIdleTime]
  exact (loadWord_storeWord _ _ _).symm

/-- The iterations between `init` and the one that ends the loop. -/
theorem Kernel.Metered.run {state state' : Kernel × ℕ} (run : Run timedStep state trace state')
    (metered : state.1.Metered loop) (later : loop.now ≤ state.2)
    (kept : ∀ transition ∈ trace,
      KeepsNonIdleTime transition.before.1 transition.input transition.after.1) :
    ∃ trace' loop', Run MeteredLoop.step loop trace' loop' ∧ state'.1.Metered loop' ∧
      loop'.now ≤ state'.2 ∧ loop'.spans = idleSpansOf trace loop.spans := by
  induction run generalizing loop with
  | nil state => exact ⟨[], loop, .nil _, metered, later, rfl⟩
  | cons first rest ih =>
      rcases Option.ite_none_right_eq_some.mp first with ⟨⟨enteredLater, passes⟩, stepped⟩
      rcases Option.map_eq_some_iff.mp stepped with ⟨kernel', stepDone, rfl⟩
      rcases Option.bind_eq_some_iff.mp stepDone with ⟨⟨stop, next⟩, done, continues⟩
      rcases Option.ite_none_left_eq_some.mp continues with ⟨-, same⟩
      obtain rfl : next = kernel' := Option.some.inj same
      have keptFirst := kept _ List.mem_cons_self
      rcases metered.loopBody (later.trans enteredLater) passes done keptFirst with
        ⟨trace1, loop1, run1, metered1, later1, spans1⟩
      have keptRest := fun transition transitionMem =>
        kept transition (List.mem_cons_of_mem _ transitionMem)
      rcases ih metered1 later1 keptRest with
        ⟨trace2, loop2, run2, metered2, later2, spans2⟩
      refine ⟨trace1 ++ trace2, loop2, run1.append run2, metered2, later2, ?_⟩
      rw [spans2, spans1, idleSpansOf, idleSpansOf, List.foldl_cons]

/-- What `main` prints when the loop of the kernel has ended is right under the same condition as
in the loop alone. -/
theorem main_nonIdleTime_iff (booted : init boot userMain idleMain = some start)
    (run : Run timedStep (start, 0) trace (kernel, now))
    (kept : ∀ transition ∈ trace,
      KeepsNonIdleTime transition.before.1 transition.input transition.after.1)
    (later : now ≤ timed.entered) (passes : timed.entered ≤ timed.left)
    (ends : loopBody kernel timed.input = some (true, kernel'))
    (keptLast : KeepsNonIdleTime kernel timed kernel') (read : timed.left ≤ reading) :
    let spans := idleSpan kernel timed ++ idleSpansOf trace []
    NonIdlePrint.Accurate ⟨kernel'.nonIdleTime, reading⟩ spans ↔
      2 ^ 32 ∣ reading - lastStop spans := by
  intro spans
  rcases (init_metered booted).run run le_rfl kept with
    ⟨trace1, loop1, run1, metered1, later1, spans1⟩
  rcases metered1.loopBody (later1.trans later) passes ends keptLast with
    ⟨trace2, loop2, run2, metered2, later2, spans2⟩
  have sameSpans : loop2.idleSpans reading = spans := by
    rw [MeteredLoop.idleSpans, metered2.phase, spans2, spans1]
    rfl
  have consistent : loop2.Consistent := run_consistent (run1.append run2)
  have accurate := consistent.accurate_finish (later2.trans read) metered2.phase
  rw [sameSpans, metered2.nonIdleTime] at accurate
  rw [accurate, ← sameSpans, MeteredLoop.idleSpans, metered2.phase]

end Runs

end ArmKernel
