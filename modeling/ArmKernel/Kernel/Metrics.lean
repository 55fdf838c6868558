import ArmKernel.Kernel.Main
import ArmKernel.Lib.Run
import ArmKernel.Lib.Spans

/-!
# The accounting of the non-idle time

`update_idle_task` and `end_idle_task` read the clock around each activation of the idle task. They
keep the low 32 bits, in `ctx.metrics.last_idle_time` and in a word in the stack of the idle task
that adds up the time in between. `idle_main` prints this word when it is told to exit, and `main`
when its loop has ended.

The steps are those of the loop of `main` and, while the idle task is active, those of
`idle_main`. Any task may be activated next, and the loop may end whenever none is active: because
no task is ready, or because `handle` says so. The clock never runs backwards. The variables are
written by nobody else.
-/

namespace ArmKernel

open PartialMachine TimeSpans

inductive IdleMain where
  | spinning
  | told
  /-- `cur_time` holds the low bits of the reading. -/
  | timed (reading : ℕ)
  | printed
  deriving DecidableEq

inductive LoopPhase where
  | kernel
  | task (tid : Byte) (since : ℕ)
  | ended
  deriving DecidableEq

/-- The variables of the accounting. The code reads neither `now` nor `spans`: they record the time
and the activations of the idle task that are over. -/
structure MeteredLoop where
  phase : LoopPhase
  lastIdleTime : Word
  nonIdleTime : Word
  isExit : Bool
  idleMain : IdleMain
  now : ℕ
  spans : List Span

/-- A line `Non-idle time: value/reading`, where the reading is a `uint32_t` too. -/
structure NonIdlePrint where
  value : Word
  reading : ℕ

inductive LoopEvent where
  | activate (tid : Byte) (handlerEmpty : Bool)
  | idleMain
  | trap
  | finish
  deriving DecidableEq

/-- An event, and what `clock()` returns if it is called. -/
structure LoopInput where
  time : ℕ
  event : LoopEvent

namespace MeteredLoop

def updateIdleTask (loop : MeteredLoop) (handlerEmpty : Bool) (time : ℕ) : MeteredLoop :=
  let curTime : Word := BitVec.ofNat 32 time
  { loop with
    isExit := handlerEmpty
    nonIdleTime := loop.nonIdleTime + (curTime - loop.lastIdleTime) }

def endIdleTask (loop : MeteredLoop) (time : ℕ) : MeteredLoop :=
  { loop with lastIdleTime := BitVec.ofNat 32 time }

def stepIdleMain (loop : MeteredLoop) (time : ℕ) : MeteredLoop × List NonIdlePrint :=
  match loop.idleMain with
  | .spinning => (if loop.isExit then { loop with idleMain := .told } else loop, [])
  | .told => ({ loop with idleMain := .timed time }, [])
  | .timed reading => ({ loop with idleMain := .printed }, [⟨loop.nonIdleTime, reading⟩])
  | .printed => (loop, [])

def advance (loop : MeteredLoop) (input : LoopInput) :
    Option (MeteredLoop × List NonIdlePrint) :=
  match loop.phase, input.event with
  | .kernel, .activate tid handlerEmpty =>
      let loop :=
        if tid = idleTaskTid then loop.updateIdleTask handlerEmpty input.time else loop
      some ({ loop with phase := .task tid input.time }, [])
  | .task tid _, .idleMain =>
      if tid = idleTaskTid then some (loop.stepIdleMain input.time) else none
  | .task tid since, .trap =>
      let loop :=
        if tid = idleTaskTid then
          { loop.endIdleTask input.time with spans := ⟨since, input.time⟩ :: loop.spans }
        else
          loop
      some ({ loop with phase := .kernel }, [])
  | .kernel, .finish => some ({ loop with phase := .ended }, [⟨loop.nonIdleTime, input.time⟩])
  | _, _ => none

def stepPrints (loop : MeteredLoop) (input : LoopInput) :
    Option (MeteredLoop × List NonIdlePrint) :=
  if loop.now ≤ input.time then
    (loop.advance input).map fun next => ({ next.1 with now := input.time }, next.2)
  else
    none

def step (loop : MeteredLoop) (input : LoopInput) : Option MeteredLoop :=
  (loop.stepPrints input).map Prod.fst

def start : MeteredLoop where
  phase := .kernel
  lastIdleTime := 0
  nonIdleTime := 0
  isExit := false
  idleMain := .spinning
  now := 0
  spans := []

/-- The activations of the idle task up to now; one that is not over yet is cut off at the time. -/
def idleSpans (loop : MeteredLoop) (time : ℕ) : List Span :=
  match loop.phase with
  | .task tid since => if tid = idleTaskTid then ⟨since, time⟩ :: loop.spans else loop.spans
  | .kernel | .ended => loop.spans

/-- The time outside the idle task by which the value that is printed and the reading beside it are
apart. For `idle_main` it has passed since the clock was read; for `main`, since the idle task was
last active. -/
def missed (loop : MeteredLoop) (input : LoopInput) : ℕ :=
  match loop.phase, loop.idleMain with
  | .task _ _, .timed reading =>
      outside (loop.idleSpans input.time) input.time - outside (loop.idleSpans input.time) reading
  | _, _ => input.time - lastStop loop.spans

end MeteredLoop

/-- The value is the time up to the reading that was not spent in activations of the idle task,
modulo 2^32. -/
def NonIdlePrint.Accurate (print : NonIdlePrint) (idle : List Span) : Prop :=
  print.value = BitVec.ofNat 32 (outside idle print.reading)

instance (print : NonIdlePrint) (idle : List Span) : Decidable (print.Accurate idle) :=
  inferInstanceAs (Decidable (_ = _))

abbrev MeteredTransition := Transition MeteredLoop LoopInput

namespace MeteredTransition

def prints (transition : MeteredTransition) : List NonIdlePrint :=
  ((transition.before.stepPrints transition.input).map Prod.snd).getD []

def PrintsAccurately (transition : MeteredTransition) : Prop :=
  ∀ print ∈ prints transition,
    print.Accurate (transition.before.idleSpans transition.input.time)

instance (transition : MeteredTransition) : Decidable (PrintsAccurately transition) :=
  inferInstanceAs (Decidable (∀ _ ∈ _, _))

end MeteredTransition

end ArmKernel
