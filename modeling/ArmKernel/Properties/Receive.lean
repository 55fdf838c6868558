import ArmKernel.ListKernel.Messages
import ArmKernel.MainLoop

/-!
# Receives of the wrong length

`kernel_receive` takes the sender from the head of the send queue before it compares the
lengths of the message and of the buffer. If they differ it returns an error, but the
sender is not put back: it stays RECEIVE_BLOCKED, is in no queue, and nothing can reach it
any more. In a safe run this is the only way to lose a sender.
-/

namespace ArmKernel

open PartialMachine Placement

/-- What a failed `Receive` promises. -/
structure ReceivePromise (before after : Kernel) (active sender : Tid) (ret : ℤ) : Prop where
  negative : ret < 0
  runnable : (after.tds active).state = .ready ∧
    active ∈ queueTasks after.heap (.priorityQ (before.tds active).priority)
  /-- The sender keeps its place, or its `Send` fails. -/
  kept : queueTasks after.heap (.sendQ active) = queueTasks before.heap (.sendQ active) ∨
    (after.tds sender).state = .ready ∧
      sender ∈ queueTasks after.heap (.priorityQ (before.tds sender).priority) ∧
      (after.frames sender 0).toInt < 0

/-- A `Receive` that finds a sender asks for as many bytes as the first one has. -/
def ReceiveMatches (kernel : Kernel) (activation : Activation) : Prop :=
  ∀ active entered tid msg msgLen, kernelEntry kernel activation = some (active, entered) →
    activation.trap.call entered.toKernelData active = some (.receive tid msg msgLen) →
    ∀ sender ∈ (queueTasks entered.heap (.sendQ active)).head?,
      (entered.tds sender).messageParams.msgLen = msgLen

/-- The call is not a `Receive` of another length than that of the message it finds. -/
def MatchingCall (data : KernelData) (queues : QueueRef → List Tid) (active : Tid) :
    SysCall → Prop
  | .receive _ _ msgLen => ∀ sender ∈ (queues (.sendQ active)).head?,
      (data.tds sender).messageParams.msgLen = msgLen
  | _ => True

instance (data : KernelData) (queues : QueueRef → List Tid) (active : Tid) (call : SysCall) :
    Decidable (MatchingCall data queues active call) :=
  match call with
  | .receive _ _ msgLen =>
      inferInstanceAs (Decidable (∀ sender ∈ (queues (.sendQ active)).head?,
        (data.tds sender).messageParams.msgLen = msgLen))
  | .exit | .pass | .create .. | .mytid | .parenttid | .send .. | .reply .. | .awaitEvent ..
  | .panic | .quit | .unknown => inferInstanceAs (Decidable True)

theorem receiveMatches_iff {kernel : Kernel} {activation : Activation} :
    ReceiveMatches kernel activation ↔ ∀ entry ∈ kernelEntry kernel activation,
      ∀ call ∈ activation.trap.call entry.2.toKernelData entry.1,
        MatchingCall entry.2.toKernelData (queueTasks entry.2.heap) entry.1 call := by
  constructor
  · intro isMatch entry enters call isCall
    cases call with
    | receive tid msg msgLen => exact isMatch entry.1 entry.2 tid msg msgLen enters isCall
    | _ => trivial
  · intro all active entered tid msg msgLen enters isReceive
    exact all (active, entered) enters _ isReceive

instance (kernel : Kernel) (activation : Activation) :
    Decidable (ReceiveMatches kernel activation) :=
  decidable_of_iff _ receiveMatches_iff.symm

/-- A `Receive` that finds a sender with a message of another length keeps its promise. -/
def KeepsSender (kernel : Kernel) (activation : Activation) : Prop :=
  ∀ active entered tid msg msgLen, kernelEntry kernel activation = some (active, entered) →
    activation.trap.call entered.toKernelData active = some (.receive tid msg msgLen) →
    ∀ sender ∈ (queueTasks entered.heap (.sendQ active)).head?,
      (entered.tds sender).messageParams.msgLen ≠ msgLen →
      ∃ ret after, kernelReceive entered active tid msg msgLen = some (ret, after) ∧
        ReceivePromise entered after active sender ret

/-- Every RECEIVE_BLOCKED task is in the send queue of some task. -/
def NobodyLost (kernel : Kernel) : Prop :=
  ∀ task, Created kernel.nextFreeTd task → (kernel.tds task).state = .receiveBlocked →
    ∃ receiver, Created kernel.nextFreeTd receiver ∧
      task ∈ queueTasks kernel.heap (.sendQ receiver)

/-- The task waits in `Send` but is in no queue. -/
structure Lost (task : Tid) (model : ListKernel) : Prop where
  isCreated : Created model.nextFreeTd task
  blocked : (model.tds task).state = .receiveBlocked
  absent : Absent model.lists task

section Receive

variable {kernel kernel' : Kernel} {model : ListKernel} {activation : Activation}
  {active sender : Tid}

theorem Lost.step {task : Tid} (lost : Lost task model) (isMatched : Matched kernel model)
    (safe : Safe kernel activation) : Lost task (model.step activation).2 := by
  have untouched := step_untouched isMatched.sound (isMatched.safe safe) lost.isCreated lost.absent
    (by simp [lost.blocked]) (by simp [lost.blocked])
  exact ⟨lt_of_lt_of_le lost.isCreated (model.nextFreeTd_le_step _),
    by rw [untouched.td, lost.blocked], untouched.absent lost.absent⟩

theorem Lost.not_nobodyLost {task : Tid} (lost : Lost task model)
    (isMatched : Matched kernel model) : ¬NobodyLost kernel := by
  intro nobody
  rcases isMatched with ⟨refines, sound⟩
  have next : kernel.nextFreeTd = model.nextFreeTd := congrArg KernelData.nextFreeTd refines.data
  obtain ⟨receiver, isCreated, taskMem⟩ := nobody task (next ▸ lost.isCreated)
    (by rw [refines.sameTds, lost.blocked])
  rw [next] at isCreated
  rw [refines.queueTasks_eq (.sendQ receiver) isCreated] at taskMem
  exact lost.absent _ taskMem

/-- A `Receive` of the wrong length loses the sender. -/
theorem receive_mismatch (tid msg : Addr) {msgLen : Word} {rest : List Tid}
    (running : Running model.nextFreeTd active model)
    (shape : model.lists (.sendQ active) = sender :: rest)
    (mismatch : (model.tds sender).messageParams.msgLen ≠ msgLen) :
    (model.receive active tid msg msgLen).1 = -1 ∧
      Lost sender (model.receive active tid msg msgLen).2 ∧
      (model.receive active tid msg msgLen).2.lists (.sendQ active) = rest := by
  have senderMem : sender ∈ model.lists (.sendQ active) := by
    rw [shape]
    exact List.mem_cons_self
  have senderNe : sender ≠ active := fun same => running.absent _ (same ▸ senderMem)
  rw [ListKernel.receive_refuses shape mismatch]
  refine ⟨rfl, ⟨running.sound.created senderMem, ?_, ?_⟩, ?_⟩
  · refine (congrArg TaskDescriptor.state (KernelData.setState_of_ne senderNe _)).trans ?_
    exact running.sound.state senderMem
  · exact (running.sound.placed.absent_tail shape).append senderNe
  · simp [ListKernel.setList]

/-- The step of a `Receive` of the wrong length loses the sender. -/
theorem Matched.lost_of_mismatch {entered : Kernel} {tid msg : Addr} {msgLen : Word}
    (isMatched : Matched kernel model)
    (enters : ArmKernel.kernelEntry kernel activation = some (active, entered))
    (isReceive : activation.trap.call entered.toKernelData active =
      some (.receive tid msg msgLen))
    (isHead : sender ∈ (queueTasks entered.heap (.sendQ active)).head?)
    (mismatch : (entered.tds sender).messageParams.msgLen ≠ msgLen) :
    Lost sender (model.step activation).2 := by
  rcases isMatched.entered enters with ⟨model', runs, -, refines, running⟩
  rw [refines.queueTasks_eq (.sendQ active) running.isCreated] at isHead
  rcases List.head?_eq_some_iff.mp isHead with ⟨rest, shape⟩
  rw [refines.sameTds] at mismatch
  rw [refines.data] at isReceive
  rcases receive_mismatch tid msg running shape mismatch with ⟨-, lost, -⟩
  rw [ListKernel.step_of_entry runs, ListKernel.handle_of_call isReceive]
  exact ⟨lost.isCreated, lost.blocked, lost.absent⟩

/-- A `Receive` of the wrong length breaks its promise. -/
theorem Matched.keepsSender_iff (isMatched : Matched kernel model) :
    KeepsSender kernel activation ↔ ReceiveMatches kernel activation := by
  constructor
  · intro keeps active entered tid msg msgLen enters isReceive sender isHead
    by_contra mismatch
    obtain ⟨ret, after, done, promise⟩ := keeps active entered tid msg msgLen enters isReceive
      sender isHead mismatch
    rcases isMatched.entered enters with ⟨model', -, -, refines, running⟩
    have isLive : Live model'.nextFreeTd (.sendQ active) := running.isCreated
    rcases refines.kernelReceive running tid msg msgLen with ⟨after', done', refines'⟩
    rcases Prod.mk.inj (Option.some.inj (done.symm.trans done')) with ⟨rfl, rfl⟩
    have kept := promise.kept
    rw [refines.queueTasks_eq _ isLive] at isHead kept
    rcases List.head?_eq_some_iff.mp isHead with ⟨rest, shape⟩
    rw [refines.sameTds] at mismatch
    rcases receive_mismatch tid msg running shape mismatch with ⟨-, lost, left⟩
    rcases kept with same | ⟨ready, -⟩
    · rw [refines'.queueTasks_eq _ isLive, left, shape] at same
      exact List.cons_ne_self _ _ same.symm
    · rw [refines'.sameTds, lost.blocked] at ready
      simp at ready
  · intro isMatch active entered tid msg msgLen enters isReceive sender isHead mismatch
    exact absurd (isMatch active entered tid msg msgLen enters isReceive sender isHead) mismatch

/-- A safe step without a `Receive` of the wrong length loses no sender. -/
theorem Matched.keeping_senders (isMatched : Matched kernel model)
    (safe : Safe kernel activation) (isMatch : ReceiveMatches kernel activation) :
    model.Keeping (· = .receiveBlocked) activation := by
  intro active entered runs
  rcases isMatched.kernelEntry runs with ⟨kernel', enters, -, refines, running⟩
  have safeCall := isMatched.safe safe active entered
  have sameLen := isMatch active kernel'
  rw [refines.data, refines.queueTasks_eq (.sendQ active) running.isCreated] at sameLen
  cases trap : activation.trap with
  | irq regs => exact fun isReady => absurd isReady (by decide)
  | swi req =>
      rw [trap] at safeCall sameLen
      refine ⟨safeCall _ runs rfl, ?_⟩
      cases call : decodeSysCall entered.toKernelData active req with
      | receive tid msg msgLen =>
          exact fun _ => sameLen tid msg msgLen enters (congrArg some call)
      | create priority code => exact fun isReady => absurd isReady (by decide)
      | panic => exact (by decide : ¬TaskState.ready = .receiveBlocked)
      | quit => exact (by decide : ¬TaskState.ready = .receiveBlocked)
      | unknown => exact (by decide : ¬TaskState.ready = .receiveBlocked)
      | _ => trivial

theorem Located.nobodyLost
    (located : Located model.nextFreeTd (· = .receiveBlocked) (fun _ => False) model)
    (isMatched : Matched kernel model) : NobodyLost kernel := by
  intro task isCreated blocked
  rcases isMatched with ⟨refines, sound⟩
  rw [congrArg KernelData.nextFreeTd refines.data] at isCreated ⊢
  rw [refines.sameTds] at blocked
  have homed := located.homed task isCreated id blocked
  simp only [Homed, blocked] at homed
  rcases homed with ⟨receiver, taskMem⟩
  refine ⟨receiver, sound.live taskMem, ?_⟩
  rwa [refines.queueTasks_eq _ (sound.live taskMem)]

end Receive

/--
In every safe run: some task waits in `Send` without being in a send queue exactly if a
`Receive` asked for another length than that of the message it found; and only such a
`Receive` fails its promise.
-/
theorem run_receive_iff {boot start final : Kernel} {userMain idleMain : Addr}
    {trace : List (Transition Kernel Activation)}
    (booted : init boot userMain idleMain = some start) (run : Run mainStep start trace final)
    (safe : ∀ transition ∈ trace, Safe transition.before transition.input) :
    (NobodyLost final ↔
      ∀ transition ∈ trace, ReceiveMatches transition.before transition.input) ∧
    ∀ activation, KeepsSender final activation ↔ ReceiveMatches final activation := by
  rcases run_matched booted run safe with ⟨model, isMatched⟩
  refine ⟨⟨?_, ?_⟩, fun activation => isMatched.keepsSender_iff⟩
  · intro nobody transition transitionMem active entered tid msg msgLen enters isReceive sender
      isHead
    by_contra mismatch
    rcases run.split_at transitionMem with ⟨front, back, rfl, before, after⟩
    obtain ⟨earlier, isMatched'⟩ := run_matched booted before fun transition' frontMem =>
      safe transition' (List.mem_append_left _ frontMem)
    have lost := isMatched'.lost_of_mismatch enters isReceive isHead mismatch
    obtain ⟨-, stepped⟩ := isMatched'.mainStep (run.step_of_mem transitionMem)
      (safe transition transitionMem)
    obtain ⟨model', matched', lost'⟩ := stepped.run_abstracts (Lost sender) after
      (fun later laterMem => safe later (List.mem_append_right _ (List.mem_cons_of_mem _ laterMem)))
      (fun _ => id) lost fun _ _ isMatched _ isSafe lost => lost.step isMatched isSafe
    exact lost'.not_nobodyLost matched' nobody
  · intro isMatch
    obtain ⟨model', isMatched', located⟩ := run_abstracts
      (fun model => Located model.nextFreeTd (· = .receiveBlocked) (fun _ => False) model)
      booted run (fun transition transitionMem =>
        And.intro (safe transition transitionMem) (isMatch transition transitionMem))
      (fun _ permitted => permitted.1) (init_located boot.toKernelData userMain idleMain _)
      fun _ _ isMatched _ permitted located =>
        Located.step isMatched.sound located (isMatched.keeping_senders permitted.1 permitted.2)
    exact located.nobodyLost isMatched'

/-- A task that the first task has created sends it four bytes. -/
def senderActivations : List Activation :=
  [callActivation 2 0 0 0,
    { callActivation 5 0x100 0 0 with effect := fun mem => storeWord mem 0x108 4 }]

/-- The kernel after these activations. -/
def senderWaits : Kernel := finalOf mainStep zeroedStart senderActivations

/-- The first task asks for eight bytes. -/
def receiveEight : Activation := callActivation 6 0x200 0x204 8

theorem not_receiveMatches_eight : ¬ReceiveMatches senderWaits receiveEight := by
  intro isMatch
  have sameLen := isMatch 0 (enteredKernel senderWaits receiveEight) 0x200 0x204 8
    (kernelEntry_of_active (by decide +kernel)) (by decide +kernel) 2 (by decide +kernel)
  exact absurd sameLen (by decide +kernel)

theorem run_receive_iff_sender : ¬KeepsSender senderWaits receiveEight := by
  have booted : init zeroedBoot 0 0 = some zeroedStart := rfl
  have runs : (record mainStep zeroedStart senderActivations).isSome := by decide +kernel
  rcases run_receive_iff booted (.of_isSome runs) (by decide +kernel) with ⟨-, keeps⟩
  exact (keeps receiveEight).not.mpr not_receiveMatches_eight

/-- The `Receive` of eight bytes loses the sender of four. -/
theorem receive_not_kept : ¬∀ (boot start final : Kernel) (userMain idleMain : Addr)
    (trace : List (Transition Kernel Activation)),
    init boot userMain idleMain = some start → Run mainStep start trace final →
    NobodyLost final ∧ ∀ activation, KeepsSender final activation := by
  intro claimed
  have booted : init zeroedBoot 0 0 = some zeroedStart := rfl
  have runs : (record mainStep zeroedStart senderActivations).isSome := by decide +kernel
  rcases run_matched booted (.of_isSome runs) (by decide +kernel) with ⟨model, isMatched⟩
  rcases claimed _ _ _ _ _ _ booted (.of_isSome runs) with ⟨-, keeps⟩
  exact not_receiveMatches_eight (isMatched.keepsSender_iff.mp (keeps receiveEight))

end ArmKernel
