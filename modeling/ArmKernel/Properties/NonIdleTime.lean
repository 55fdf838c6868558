import ArmKernel.Kernel.Metrics

/-!
# The non-idle time that is printed

The word that `update_idle_task` adds up holds all time outside the idle task up to the beginning
of its last activation. While the idle task is active no such time passes, so `idle_main` prints
the right value if it reads the clock and the word in one activation. If it is interrupted in
between, its next activation adds time that is later than the reading. And nothing adds the time
since the last activation when `main` prints the word beside the time at its end.
-/

namespace ArmKernel

open PartialMachine TimeSpans

section Words

variable {sum earlier later : ℕ}

theorem ofNat_add_sub (passes : earlier ≤ later) :
    BitVec.ofNat 32 sum + (BitVec.ofNat 32 later - BitVec.ofNat 32 earlier) =
      BitVec.ofNat 32 (sum + (later - earlier)) := by
  apply BitVec.eq_of_toNat_eq
  simp only [BitVec.toNat_add, BitVec.toNat_sub, BitVec.toNat_ofNat]
  omega

theorem ofNat_eq_iff_dvd (passes : earlier ≤ later) :
    BitVec.ofNat 32 later = BitVec.ofNat 32 earlier ↔ 2 ^ 32 ∣ later - earlier := by
  rw [← BitVec.toNat_inj, BitVec.toNat_ofNat, BitVec.toNat_ofNat]
  omega

end Words

/-- Holds in every state: what the variables are in terms of the activations of the idle task. -/
structure MeteredLoop.Consistent (loop : MeteredLoop) : Prop where
  successive : Successive loop.spans
  past : lastStop loop.spans ≤ loop.now
  since : ∀ tid since, loop.phase = .task tid since →
    lastStop loop.spans ≤ since ∧ since ≤ loop.now
  lastIdleTime : loop.lastIdleTime = BitVec.ofNat 32 (lastStop loop.spans)
  nonIdleTime : loop.nonIdleTime = BitVec.ofNat 32 (gaps (loop.idleSpans loop.now))
  reading : ∀ reading, loop.idleMain = .timed reading → reading ≤ loop.now

namespace MeteredLoop

variable {loop after : MeteredLoop} {input : LoopInput} {prints : List NonIdlePrint} {time : ℕ}

theorem start_consistent : start.Consistent := by
  refine ⟨trivial, le_rfl, ?_, rfl, rfl, ?_⟩
  · intro tid since active
    cases active
  · intro reading isTimed
    cases isTimed

/-- The gaps do not depend on where an activation that is not over is cut off. -/
theorem gaps_idleSpans (time time' : ℕ) :
    gaps (loop.idleSpans time) = gaps (loop.idleSpans time') := by
  rw [idleSpans, idleSpans]
  split
  · split_ifs <;> rfl
  · rfl
  · rfl

theorem step_activate (isKernel : loop.phase = .kernel) (later : loop.now ≤ time) (tid : Byte)
    (handlerEmpty : Bool) : loop.step ⟨time, .activate tid handlerEmpty⟩ =
      some { (if tid = idleTaskTid then loop.updateIdleTask handlerEmpty time else loop) with
        phase := .task tid time, now := time } := by
  simp only [step, stepPrints, if_pos later, advance, isKernel, Option.map_some]

theorem step_trap {tid : Byte} {since : ℕ} (isActive : loop.phase = .task tid since)
    (later : loop.now ≤ time) : loop.step ⟨time, .trap⟩ =
      some { (if tid = idleTaskTid then
          { loop.endIdleTask time with spans := ⟨since, time⟩ :: loop.spans } else loop) with
        phase := .kernel, now := time } := by
  simp only [step, stepPrints, if_pos later, advance, isActive, Option.map_some]

theorem Consistent.activate (consistent : loop.Consistent) (later : loop.now ≤ time)
    (isKernel : loop.phase = .kernel) (tid : Byte) (handlerEmpty : Bool) :
    ({ (if tid = idleTaskTid then loop.updateIdleTask handlerEmpty time else loop) with
      phase := .task tid time, now := time } : MeteredLoop).Consistent := by
  have nonIdleTime := consistent.nonIdleTime
  rw [idleSpans, isKernel] at nonIdleTime
  have past := consistent.past.trans later
  split_ifs with isIdle
  · refine ⟨consistent.successive, past, ?_, consistent.lastIdleTime, ?_, ?_⟩
    · rintro _ _ ⟨⟩
      exact ⟨past, le_rfl⟩
    · have added := @ofNat_add_sub (gaps loop.spans) _ _ past
      simp only [updateIdleTask, idleSpans, isIdle, if_true, gaps, nonIdleTime,
        consistent.lastIdleTime, added]
    · exact fun reading isTimed => (consistent.reading reading isTimed).trans later
  · refine ⟨consistent.successive, past, ?_, consistent.lastIdleTime, ?_, ?_⟩
    · rintro _ _ ⟨⟩
      exact ⟨past, le_rfl⟩
    · simp only [idleSpans, isIdle, if_false, nonIdleTime]
    · exact fun reading isTimed => (consistent.reading reading isTimed).trans later

/-- Time passes, and `idle_main` may move on. -/
theorem Consistent.wait (consistent : loop.Consistent) (later : loop.now ≤ time)
    {idleMain : IdleMain} (reading : ∀ reading, idleMain = .timed reading → reading ≤ time) :
    ({ loop with idleMain := idleMain, now := time } : MeteredLoop).Consistent := by
  refine ⟨consistent.successive, consistent.past.trans later, ?_, consistent.lastIdleTime, ?_,
    reading⟩
  · intro tid since active
    rcases consistent.since tid since active with ⟨startsAfter, started⟩
    exact ⟨startsAfter, started.trans later⟩
  · rw [consistent.nonIdleTime, gaps_idleSpans loop.now time]
    rfl

theorem Consistent.stepIdleMain (consistent : loop.Consistent) (later : loop.now ≤ time) :
    ({ (loop.stepIdleMain time).1 with now := time } : MeteredLoop).Consistent := by
  have before : ∀ reading, loop.idleMain = .timed reading → reading ≤ time :=
    fun reading isTimed => (consistent.reading reading isTimed).trans later
  cases at' : loop.idleMain with
  | spinning =>
      simp only [MeteredLoop.stepIdleMain, at']
      split_ifs
      · exact consistent.wait later (by simp)
      · exact consistent.wait later before
  | told =>
      simp only [MeteredLoop.stepIdleMain, at']
      apply consistent.wait later
      rintro _ ⟨⟩
      exact le_rfl
  | timed reading =>
      simp only [MeteredLoop.stepIdleMain, at']
      exact consistent.wait later (by simp)
  | printed =>
      simp only [MeteredLoop.stepIdleMain, at']
      exact consistent.wait later (by simp)

theorem Consistent.trap (consistent : loop.Consistent) (later : loop.now ≤ time) {tid : Byte}
    {since : ℕ} (isActive : loop.phase = .task tid since) :
    ({ (if tid = idleTaskTid then
          { loop.endIdleTask time with spans := ⟨since, time⟩ :: loop.spans } else loop) with
      phase := .kernel, now := time } : MeteredLoop).Consistent := by
  have nonIdleTime := consistent.nonIdleTime
  rw [idleSpans, isActive] at nonIdleTime
  rcases consistent.since tid since isActive with ⟨startsAfter, started⟩
  have before : ∀ reading, loop.idleMain = .timed reading → reading ≤ time :=
    fun reading isTimed => (consistent.reading reading isTimed).trans later
  split_ifs with isIdle
  · refine ⟨⟨startsAfter, started.trans later, consistent.successive⟩, le_rfl, by simp, rfl, ?_,
      before⟩
    simp only [isIdle, if_true] at nonIdleTime
    exact nonIdleTime
  · refine ⟨consistent.successive, consistent.past.trans later, by simp, consistent.lastIdleTime,
      ?_, before⟩
    simp only [isIdle, if_false] at nonIdleTime
    exact nonIdleTime

theorem Consistent.finish (consistent : loop.Consistent) (later : loop.now ≤ time)
    (isKernel : loop.phase = .kernel) :
    ({ loop with phase := .ended, now := time } : MeteredLoop).Consistent := by
  refine ⟨consistent.successive, consistent.past.trans later, by simp, consistent.lastIdleTime,
    ?_, ?_⟩
  · have nonIdleTime := consistent.nonIdleTime
    rw [idleSpans, isKernel] at nonIdleTime
    exact nonIdleTime
  · exact fun reading isTimed => (consistent.reading reading isTimed).trans later

theorem stepPrints_eq_some : loop.stepPrints input = some (after, prints) ↔
    loop.now ≤ input.time ∧ ∃ next, loop.advance input = some (next, prints) ∧
      after = { next with now := input.time } := by
  rw [stepPrints, Option.ite_none_right_eq_some, Option.map_eq_some_iff]
  apply and_congr_right
  intro _
  constructor
  · rintro ⟨⟨next, _⟩, advanced, same⟩
    rcases Prod.mk.inj same with ⟨rfl, rfl⟩
    exact ⟨next, advanced, rfl⟩
  · rintro ⟨next, advanced, rfl⟩
    exact ⟨(next, prints), advanced, rfl⟩

theorem Consistent.stepPrints (consistent : loop.Consistent)
    (done : loop.stepPrints input = some (after, prints)) : after.Consistent := by
  rcases stepPrints_eq_some.mp done with ⟨later, next, advanced, rfl⟩
  rw [advance] at advanced
  split at advanced
  · rename_i tid handlerEmpty isKernel _
    rcases Prod.mk.inj (Option.some.inj advanced) with ⟨rfl, -⟩
    exact consistent.activate later isKernel tid handlerEmpty
  · rcases Option.ite_none_right_eq_some.mp advanced with ⟨-, same⟩
    obtain rfl : (loop.stepIdleMain input.time).1 = next :=
      congrArg Prod.fst (Option.some.inj same)
    exact consistent.stepIdleMain later
  · rename_i tid since isActive _
    rcases Prod.mk.inj (Option.some.inj advanced) with ⟨rfl, -⟩
    exact consistent.trap later isActive
  · rename_i isKernel _
    rcases Prod.mk.inj (Option.some.inj advanced) with ⟨rfl, -⟩
    exact consistent.finish later isKernel
  · cases advanced

end MeteredLoop

section Prints

variable {loop : MeteredLoop} {time : ℕ}

/-- What `idle_main` prints holds the time outside the idle task up to now. -/
theorem MeteredLoop.Consistent.accurate_idleMain (consistent : loop.Consistent)
    (later : loop.now ≤ time) {since reading : ℕ} (isActive : loop.phase = .task idleTaskTid since)
    (isTimed : loop.idleMain = .timed reading) :
    NonIdlePrint.Accurate ⟨loop.nonIdleTime, reading⟩ (loop.idleSpans time) ↔
      2 ^ 32 ∣ outside (loop.idleSpans time) time - outside (loop.idleSpans time) reading := by
  have spans : loop.idleSpans time = ⟨since, time⟩ :: loop.spans := by
    rw [MeteredLoop.idleSpans, isActive]
    rfl
  rcases consistent.since _ _ isActive with ⟨startsAfter, started⟩
  have successive : Successive (loop.idleSpans time) := by
    rw [spans]
    exact ⟨startsAfter, started.trans later, consistent.successive⟩
  have untilNow : outside (loop.idleSpans time) time = gaps (loop.idleSpans time) := by
    have areOver : lastStop (loop.idleSpans time) = time := by rw [spans, lastStop]
    rw [outside_of_lastStop_le successive areOver.le, areOver]
    omega
  have passes := outside_mono successive ((consistent.reading reading isTimed).trans later)
  rw [NonIdlePrint.Accurate, consistent.nonIdleTime, MeteredLoop.gaps_idleSpans _ time, ← untilNow,
    ofNat_eq_iff_dvd passes]

/-- If `idle_main` is not interrupted after it has read the clock, it misses nothing. -/
theorem MeteredLoop.Consistent.missed_uninterrupted {input : LoopInput}
    (consistent : loop.Consistent) (later : loop.now ≤ input.time) {since reading : ℕ}
    (isActive : loop.phase = .task idleTaskTid since) (isTimed : loop.idleMain = .timed reading)
    (sameActivation : since ≤ reading) : loop.missed input = 0 := by
  rcases consistent.since _ _ isActive with ⟨startsAfter, started⟩
  have readBefore := (consistent.reading reading isTimed).trans later
  have successive : Successive (⟨since, input.time⟩ :: loop.spans) :=
    ⟨startsAfter, started.trans later, consistent.successive⟩
  have untilNow := outside_within successive (started.trans later) le_rfl
  have untilReading := outside_within successive sameActivation readBefore
  simp only [MeteredLoop.missed, MeteredLoop.idleSpans, isActive, isTimed, if_true, untilNow,
    untilReading, Nat.sub_self]

/-- What `main` prints lacks the time since the idle task was last active. -/
theorem MeteredLoop.Consistent.accurate_finish (consistent : loop.Consistent)
    (later : loop.now ≤ time) (isKernel : loop.phase = .kernel) :
    NonIdlePrint.Accurate ⟨loop.nonIdleTime, time⟩ (loop.idleSpans time) ↔
      2 ^ 32 ∣ time - lastStop loop.spans := by
  have spans : ∀ time, loop.idleSpans time = loop.spans := by
    intro time
    rw [MeteredLoop.idleSpans, isKernel]
  have untilNow := outside_of_lastStop_le consistent.successive (consistent.past.trans later)
  have nonIdleTime := consistent.nonIdleTime
  rw [spans] at nonIdleTime
  rw [NonIdlePrint.Accurate, nonIdleTime, spans, untilNow, eq_comm,
    ofNat_eq_iff_dvd (Nat.le_add_right _ _), Nat.add_sub_cancel_left]

theorem MeteredLoop.Consistent.accurate_iff {input : LoopInput} {after : MeteredLoop}
    {prints : List NonIdlePrint} (consistent : loop.Consistent)
    (done : loop.stepPrints input = some (after, prints)) :
    ∀ print ∈ prints,
      (print.Accurate (loop.idleSpans input.time) ↔ 2 ^ 32 ∣ loop.missed input) := by
  intro print printMem
  rcases stepPrints_eq_some.mp done with ⟨later, next, advanced, -⟩
  rw [advance] at advanced
  split at advanced
  · rcases Prod.mk.inj (Option.some.inj advanced) with ⟨-, rfl⟩
    cases printMem
  · rename_i tid since isActive _
    rcases Option.ite_none_right_eq_some.mp advanced with ⟨rfl, same⟩
    obtain rfl : (loop.stepIdleMain input.time).2 = prints :=
      congrArg Prod.snd (Option.some.inj same)
    cases at' : loop.idleMain with
    | timed reading =>
        simp only [MeteredLoop.stepIdleMain, at', List.mem_singleton] at printMem
        subst printMem
        simpa only [missed, isActive, at'] using
          consistent.accurate_idleMain later isActive at'
    | spinning | told | printed =>
        simp only [MeteredLoop.stepIdleMain, at'] at printMem
        cases printMem
  · rcases Prod.mk.inj (Option.some.inj advanced) with ⟨-, rfl⟩
    cases printMem
  · rename_i isKernel _
    rcases Prod.mk.inj (Option.some.inj advanced) with ⟨-, rfl⟩
    rcases List.mem_singleton.mp printMem with rfl
    simpa only [missed, isKernel] using consistent.accurate_finish later isKernel
  · cases advanced

end Prints

section Runs

variable {trace : List MeteredTransition} {final : MeteredLoop}

theorem step_consistent (transition : MeteredTransition)
    (taken : transition.before.step transition.input = some transition.after)
    (consistent : transition.before.Consistent) : transition.after.Consistent := by
  rcases Option.map_eq_some_iff.mp taken with ⟨next, done, same⟩
  rw [← same]
  exact consistent.stepPrints done

theorem run_consistent (run : Run MeteredLoop.step .start trace final) : final.Consistent :=
  run.invariant (fun transition taken (_ : True) => step_consistent transition taken)
    (fun _ _ => trivial) MeteredLoop.start_consistent

theorem run_consistent_before (run : Run MeteredLoop.step .start trace final) :
    ∀ transition ∈ trace, transition.before.Consistent :=
  fun _ => run.invariant_before MeteredLoop.Consistent
    (fun transition taken (_ : True) => step_consistent transition taken)
    (fun _ _ => trivial) MeteredLoop.start_consistent

/-- A value that is printed in a run is accurate if and only if the time outside the idle task that
it misses, or has too much, is a multiple of 2^32. -/
theorem run_nonIdleTime_iff (run : Run MeteredLoop.step .start trace final) :
    ∀ transition ∈ trace, ∀ print ∈ transition.prints,
      (print.Accurate (transition.before.idleSpans transition.input.time) ↔
        2 ^ 32 ∣ transition.before.missed transition.input) := by
  intro transition transitionMem print printMem
  have consistent := run_consistent_before run transition transitionMem
  rcases Option.map_eq_some_iff.mp (run.step_of_mem transitionMem) with ⟨next, done, -⟩
  rw [MeteredTransition.prints, done] at printMem
  exact consistent.accurate_iff done print printMem

/-- A task runs for five ticks and stops the kernel. -/
def neverIdle : List LoopInput :=
  [⟨0, .activate 0 false⟩, ⟨5, .trap⟩, ⟨5, .finish⟩]

/-- The idle task is told to exit, reads the clock, and is interrupted. The task that runs then
takes five ticks. -/
def idleInterrupted : List LoopInput :=
  [⟨1, .activate 1 true⟩, ⟨1, .idleMain⟩, ⟨2, .idleMain⟩, ⟨3, .trap⟩, ⟨3, .activate 0 false⟩,
    ⟨8, .trap⟩, ⟨8, .activate 1 true⟩, ⟨9, .idleMain⟩, ⟨9, .trap⟩, ⟨9, .finish⟩]

/-- `idle_main` prints 6/2: it has five ticks too many. -/
theorem run_nonIdleTime_iff_idleInterrupted :
    ∃ transition ∈ traceOf MeteredLoop.step .start idleInterrupted,
      ∃ print ∈ MeteredTransition.prints transition, print.value = 6 ∧ print.reading = 2 ∧
        transition.before.missed transition.input = 5 ∧
        ¬print.Accurate (transition.before.idleSpans transition.input.time) := by
  have printed : ∃ transition ∈ traceOf MeteredLoop.step .start idleInterrupted,
      ∃ print ∈ MeteredTransition.prints transition, print.value = 6 ∧ print.reading = 2 ∧
        transition.before.missed transition.input = 5 := by
    decide
  rcases printed with ⟨transition, transitionMem, print, printMem, value, reading, missed⟩
  have accurate_iff :=
    run_nonIdleTime_iff (.of_isSome rfl) transition transitionMem print printMem
  refine ⟨transition, transitionMem, print, printMem, value, reading, missed, ?_⟩
  rw [accurate_iff, missed]
  decide

/-- Neither `main` nor `idle_main` always prints the right value. -/
theorem nonIdleTime_not_accurate :
    (¬∀ (trace : List MeteredTransition) (final : MeteredLoop),
      Run MeteredLoop.step .start trace final → ∀ transition ∈ trace,
        transition.input.event = .finish → transition.PrintsAccurately) ∧
    ¬∀ (trace : List MeteredTransition) (final : MeteredLoop),
      Run MeteredLoop.step .start trace final → ∀ transition ∈ trace,
        transition.input.event = .idleMain → transition.PrintsAccurately := by
  constructor
  · intro claimed
    have wrong : ∃ transition ∈ traceOf MeteredLoop.step .start neverIdle,
        transition.input.event = .finish ∧ ¬MeteredTransition.PrintsAccurately transition := by
      decide
    rcases wrong with ⟨transition, transitionMem, isFinish, inaccurate⟩
    exact inaccurate (claimed _ _ (.of_isSome rfl) transition transitionMem isFinish)
  · intro claimed
    have wrong : ∃ transition ∈ traceOf MeteredLoop.step .start idleInterrupted,
        transition.input.event = .idleMain ∧ ¬MeteredTransition.PrintsAccurately transition := by
      decide
    rcases wrong with ⟨transition, transitionMem, isIdleMain, inaccurate⟩
    exact inaccurate (claimed _ _ (.of_isSome rfl) transition transitionMem isIdleMain)

end Runs

end ArmKernel
