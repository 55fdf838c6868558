import ArmKernel.MainLoop

/-!
# Replies to tasks that do not wait for one

`kernel_reply` does not test the state of its target: it compares the length of the reply
with the length that the target recorded in its last `Send`, or with whatever its memory
held if it never sent. So a reply to a task that does not wait for one is refused exactly
when the lengths differ; otherwise the target is put into a ready queue whatever its
state, and may then be in two queues, or in one queue twice.
-/

namespace ArmKernel

open PartialMachine Placement

/-- The reply had no effect but that the caller is ready again, and knows of the failure. -/
structure ReplyRefused (before after : Kernel) (active : Tid) (ret : ℤ) : Prop where
  negative : ret < 0
  requeued : queueTasks after.heap (.priorityQ (before.tds active).priority) =
    queueTasks before.heap (.priorityQ (before.tds active).priority) ++ [active]
  queues : ∀ ctx, Live before.nextFreeTd ctx → ctx ≠ .priorityQ (before.tds active).priority →
    queueTasks after.heap ctx = queueTasks before.heap ctx
  state : ∀ task, (after.tds task).state = (before.tds task).state
  frames : after.frames = before.frames
  mem : after.mem = before.mem

section Reply

variable {kernel : Kernel} {model : ListKernel} {active : Tid} {tid : Byte} {rep : Addr}
  {repLen : Word}

theorem Refines.requeue_refused {after : Kernel} {ret : ℤ}
    (refines : Refines model.nextFreeTd kernel model)
    (running : Running model.nextFreeTd active model)
    (refines' : Refines model.nextFreeTd after (model.put active)) (negative : ret < 0) :
    ReplyRefused kernel after active ret := by
  have inRange := running.sound.inRange running.isCreated
  refine
    { negative := negative
      requeued := ?_
      queues := ?_
      state := ?_
      frames := ?_
      mem := ?_ }
  · have isLive : Live model.nextFreeTd (.priorityQ (model.tds active).priority) := inRange
    rw [refines.sameTds, refines.queueTasks_eq _ isLive, refines'.queueTasks_eq _ isLive,
      ListKernel.put_lists, Function.update_self]
  · intro ctx isLive ctxNe
    rw [congrArg KernelData.nextFreeTd refines.data] at isLive
    rw [refines.sameTds] at ctxNe
    rw [refines.queueTasks_eq _ isLive, refines'.queueTasks_eq _ isLive, ListKernel.put_lists,
      Function.update_of_ne ctxNe]
  · intro task
    rw [refines.sameTds, refines'.sameTds]
    rcases eq_or_ne task active with rfl | taskNe
    · exact (KernelData.setState_self _).trans running.ready.symm
    · exact congrArg TaskDescriptor.state (KernelData.setState_of_ne taskNe .ready)
  · rw [refines.data, refines'.data]
    rfl
  · rw [refines.data, refines'.data]
    rfl

theorem kernelReply_accepted {after : Kernel} {ret : ℤ} (sameTid : (kernel.tds tid).tid = tid)
    (sameLen : (kernel.tds tid).messageParams.repLen = repLen)
    (done : kernelReply kernel active tid rep repLen = some (ret, after)) : ret = 0 := by
  rw [kernelReply, if_neg (not_not.mpr sameTid), if_neg (not_not.mpr sameLen)] at done
  rcases Option.bind_eq_some_iff.mp done with ⟨_, -, done⟩
  rcases Option.bind_eq_some_iff.mp done with ⟨_, -, done⟩
  exact (Prod.mk.inj (Option.some.inj done)).1.symm

/-- A reply to a created task that does not wait for one is refused exactly if its length
differs from the one recorded. -/
theorem kernelReply_refused_iff (refines : Refines model.nextFreeTd kernel model)
    (running : Running model.nextFreeTd active model)
    (isCreated : Created kernel.nextFreeTd tid) :
    (∃ ret after, kernelReply kernel active tid rep repLen = some (ret, after) ∧
      ReplyRefused kernel after active ret) ↔
      (kernel.tds tid).messageParams.repLen ≠ repLen := by
  have sameTid : (kernel.tds tid).tid = tid := by
    rw [congrArg KernelData.nextFreeTd refines.data] at isCreated
    rw [refines.sameTds]
    exact running.sound.tid isCreated
  constructor
  · rintro ⟨ret, after, done, refused⟩ sameLen
    have negative := refused.negative
    rw [kernelReply_accepted sameTid sameLen done] at negative
    exact absurd negative (lt_irrefl 0)
  · intro mismatch
    rcases refines.requeue running (-2) with ⟨after, done, refines'⟩
    refine ⟨-2, after, ?_, refines.requeue_refused running refines' (by decide)⟩
    rwa [kernelReply, if_neg (not_not.mpr sameTid), if_pos mismatch]

end Reply

/-- In a safe run a task that has exited is never touched again. -/
theorem run_exited {middle final : Kernel} {model : ListKernel}
    {trace : List (Transition Kernel Activation)} {task : Tid}
    (isMatched : Matched middle model) (run : Run mainStep middle trace final)
    (safe : ∀ transition ∈ trace, Safe transition.before transition.input)
    (isCreated : Created middle.nextFreeTd task) (exited : (middle.tds task).state = .exited) :
    (final.tds task).state = .exited := by
  rw [congrArg KernelData.nextFreeTd isMatched.refines.data] at isCreated
  rw [isMatched.refines.sameTds] at exited
  obtain ⟨model', isMatched', -, exited'⟩ := isMatched.run_abstracts
    (fun model => Created model.nextFreeTd task ∧ (model.tds task).state = .exited) run safe
    (fun _ => id) ⟨isCreated, exited⟩ (by
      intro transition model isMatched _ isSafe ⟨isCreated, exited⟩
      have absent := isMatched.sound.absent_of_exited exited
      have untouched := step_untouched isMatched.sound (isMatched.safe isSafe) isCreated absent
        (by simp [exited]) (by simp [exited])
      exact ⟨lt_of_lt_of_le isCreated (model.nextFreeTd_le_step _), by rw [untouched.td, exited]⟩)
  rw [isMatched'.refines.sameTds]
  exact exited'

/--
In every safe run: a task that has exited stays so; no task is in a queue twice; and a reply
to a created task that does not wait for one is refused, with no effect on the task, exactly
if its length differs from the length that the task recorded.
-/
theorem run_reply_refused {boot start final : Kernel} {userMain idleMain : Addr}
    {trace : List (Transition Kernel Activation)}
    (booted : init boot userMain idleMain = some start) (run : Run mainStep start trace final)
    (safe : ∀ transition ∈ trace, Safe transition.before transition.input) :
    (∀ transition ∈ trace, ∀ task, Created transition.before.nextFreeTd task →
      (transition.before.tds task).state = .exited → (final.tds task).state = .exited) ∧
    (∀ ctx, Live final.nextFreeTd ctx → (queueTasks final.heap ctx).Nodup ∧
      ∀ task ∈ queueTasks final.heap ctx, ∀ ctx', Live final.nextFreeTd ctx' →
        task ∈ queueTasks final.heap ctx' → ctx' = ctx) ∧
    ∀ activation active entered tid rep repLen,
      kernelEntry final activation = some (active, entered) →
      activation.trap.call entered.toKernelData active = some (.reply tid rep repLen) →
      Created entered.nextFreeTd tid → (entered.tds tid).state ≠ .replyBlocked →
      ((∃ ret after, kernelReply entered active tid rep repLen = some (ret, after) ∧
          ReplyRefused entered after active ret) ↔
        (entered.tds tid).messageParams.repLen ≠ repLen) := by
  rcases run_matched booted run safe with ⟨model, isMatched⟩
  refine ⟨?_, ?_, ?_⟩
  · intro transition transitionMem task isCreated exited
    rcases run.split_at transitionMem with ⟨front, back, rfl, before, after⟩
    have stepped := run.step_of_mem transitionMem
    obtain ⟨model', isMatched'⟩ := run_matched booted before fun earlier earlierMem =>
      safe earlier (List.mem_append_left _ earlierMem)
    exact run_exited isMatched' (.cons stepped after)
      (fun later laterMem => safe later (List.mem_append_right _ laterMem)) isCreated exited
  · intro ctx isLive
    rw [congrArg KernelData.nextFreeTd isMatched.refines.data] at isLive ⊢
    rw [isMatched.refines.queueTasks_eq _ isLive]
    refine ⟨isMatched.sound.placed.nodup ctx, fun task taskMem ctx' isLive' taskMem' => ?_⟩
    rw [isMatched.refines.queueTasks_eq _ isLive'] at taskMem'
    exact isMatched.sound.placed.unique taskMem' taskMem
  · intro activation active entered tid rep repLen enters _ isCreated _
    rcases isMatched.entered enters with ⟨model', -, -, refines, running⟩
    exact kernelReply_refused_iff refines running isCreated

/-- The first task answers a task that it has created, which then awaits an event. -/
def answeredActivations : List Activation :=
  [callActivation 2 0 0 0,
    { callActivation 5 0x100 0 0 with effect := fun mem => storeWord mem 0x110 4 },
    callActivation 6 0x200 0x204 0, callActivation 7 2 0x208 4, callActivation 8 0 0 0]

/-- The kernel after these activations. -/
def answered : Kernel := finalOf mainStep zeroedStart answeredActivations

/-- The first task answers the same message once more. -/
def answerAgain : Activation := callActivation 7 2 0x208 4

/-- The kernel when this answer is handled. -/
def answeredAgain : Kernel := enteredKernel answered answerAgain

theorem run_reply_refused_answered :
    ¬∃ ret after, kernelReply answeredAgain 0 2 0x208 4 = some (ret, after) ∧
      ReplyRefused answeredAgain after 0 ret := by
  have booted : init zeroedBoot 0 0 = some zeroedStart := rfl
  have runs : (record mainStep zeroedStart answeredActivations).isSome := by decide +kernel
  rcases run_reply_refused booted (.of_isSome runs) (by decide +kernel) with ⟨-, -, refused⟩
  have enters : kernelEntry answered answerAgain = some (0, answeredAgain) :=
    kernelEntry_of_active (by decide +kernel)
  have isMismatch := refused answerAgain 0 answeredAgain 2 0x208 4 enters (by decide +kernel)
    (by decide +kernel) (by decide +kernel)
  exact isMismatch.not.mpr (by decide +kernel)

/-- A second answer of the same length is accepted while the task awaits an event. -/
theorem reply_not_refused : ¬∀ (boot start final entered : Kernel) (userMain idleMain : Addr)
    (trace : List (Transition Kernel Activation)) (activation : Activation) (active : Tid)
    (tid : Byte) (rep : Addr) (repLen : Word),
    init boot userMain idleMain = some start → Run mainStep start trace final →
    kernelEntry final activation = some (active, entered) →
    activation.trap.call entered.toKernelData active = some (.reply tid rep repLen) →
    Created entered.nextFreeTd tid → (entered.tds tid).state ≠ .replyBlocked →
    ∃ ret after, kernelReply entered active tid rep repLen = some (ret, after) ∧
      ReplyRefused entered after active ret := by
  intro claimed
  have booted : init zeroedBoot 0 0 = some zeroedStart := rfl
  have runs : (record mainStep zeroedStart answeredActivations).isSome := by decide +kernel
  have enters : kernelEntry answered answerAgain = some (0, answeredAgain) :=
    kernelEntry_of_active (by decide +kernel)
  obtain ⟨ret, after, done, refused⟩ := claimed _ _ _ answeredAgain _ _ _ answerAgain 0 2 0x208 4
    booted (.of_isSome runs) enters (by decide +kernel) (by decide +kernel) (by decide +kernel)
  have accepted := kernelReply_accepted (by decide +kernel) (by decide +kernel) done
  exact absurd refused.negative (by simp [accepted])

end ArmKernel
