import ArmKernel.ListKernel.Copies
import ArmKernel.ListKernel.SendQueues
import ArmKernel.Properties.Receive

/-!
# Delivery of messages

A message is handed over by its sender if the receiver waits, and by the receiver
otherwise. In every run in which nobody interferes with messages that wait, both ways
together deliver to each receiver exactly the messages accepted for it, in the order in
which they were accepted, but for those still in its send queue: a receiver that waits has
an empty send queue, so no message that is handed over at once overtakes another one. Each
sender is blocked from its `Send` until a `Reply` to it.
-/

namespace ArmKernel

open PartialMachine Placement

structure Message where
  sender : Tid
  bytes : List Byte
  deriving DecidableEq

/-- The message that a task in `Send` has left to be fetched. -/
def messageOf (data : KernelData) (sender : Tid) : Message :=
  let params := (data.tds sender).messageParams
  ⟨sender, bytesAt data.mem params.msg params.msgLen⟩

/-- The messages in the send queue of a task. -/
def pending (kernel : Kernel) (receiver : Tid) : List Message :=
  if Created kernel.nextFreeTd receiver then
    (queueTasks kernel.heap (.sendQ receiver)).map (messageOf kernel.toKernelData)
  else
    []

/-- The message that the kernel accepts for the receiver in this step, if any. -/
def accepted (receiver : Tid) (transition : Transition Kernel Activation) : List Message :=
  match callOf transition.before transition.input with
  | some (active, entered, .send tid msg msgLen rep repLen) =>
      if tid = receiver ∧
          (kernelSend entered active tid msg msgLen rep repLen).map Prod.fst = some 0 then
        [⟨active, bytesAt entered.mem msg msgLen⟩]
      else
        []
  | _ => []

/-- The message with which a `Receive` of the receiver ends in this step, if any: what is in
the memory that the `Receive` names once the receiver is ready again. -/
def yielded (receiver : Tid) (transition : Transition Kernel Activation) : List Message :=
  let after := transition.after
  let waiter := transition.before.tds receiver
  if Created transition.before.nextFreeTd receiver ∧ waiter.state = .sendBlocked then
    let params := waiter.messageParams
    if (after.tds receiver).state = .ready then
      [⟨after.mem params.tid, bytesAt after.mem params.msg params.msgLen⟩]
    else
      []
  else
    match callOf transition.before transition.input with
    | some (active, _, .receive tid msg msgLen) =>
        if active = receiver ∧ (after.tds receiver).state = .ready then
          [⟨after.mem tid, bytesAt after.mem msg msgLen⟩]
        else
          []
    | _ => []

/-- The kernel accepts a `Send` of the task, which wants its reply in the given buffer. -/
def SendAccepted (sender : Tid) (rep : Addr) (repLen : Word)
    (transition : Transition Kernel Activation) : Prop :=
  ∃ entered receiver msg msgLen, callOf transition.before transition.input =
      some (sender, entered, .send receiver msg msgLen rep repLen) ∧
    (kernelSend entered sender receiver msg msgLen rep repLen).map Prod.fst = some 0

/-- The kernel accepts a `Reply` to the task. -/
def Answers (sender : Tid) (transition : Transition Kernel Activation) : Prop :=
  ∃ active entered rep repLen, callOf transition.before transition.input =
      some (active, entered, .reply sender rep repLen) ∧
    (kernelReply entered active sender rep repLen).map Prod.fst = some 0

/-- The task waits to be received or to be answered. -/
def InSend (kernel : Kernel) (sender : Tid) : Prop :=
  (kernel.tds sender).state = .receiveBlocked ∨ (kernel.tds sender).state = .replyBlocked

/-- The `Send` of the task ends in this step: it returns 0, with the reply in the buffer. -/
structure SendReturns (sender : Tid) (rep : Addr) (repLen : Word)
    (transition : Transition Kernel Activation) : Prop where
  waited : (transition.before.tds sender).state = .replyBlocked
  ready : (transition.after.tds sender).state = .ready
  queued : sender ∈ queueTasks transition.after.heap
    (.priorityQ (transition.before.tds sender).priority)
  returned : transition.after.frames sender 0 = 0
  bytes : ∀ active entered answer answerLen, callOf transition.before transition.input =
      some (active, entered, .reply sender answer answerLen) →
    bytesAt transition.after.mem rep repLen = bytesAt entered.mem answer answerLen

/-- The messages of the tasks that wait to be received are the same in another memory. -/
def MessagesKept (data : KernelData) (mem : Mem) : Prop :=
  ∀ task, Created data.nextFreeTd task → (data.tds task).state = .receiveBlocked →
    bytesAt mem (data.tds task).messageParams.msg (data.tds task).messageParams.msgLen =
      bytesAt data.mem (data.tds task).messageParams.msg (data.tds task).messageParams.msgLen

instance (data : KernelData) (mem : Mem) : Decidable (MessagesKept data mem) := by
  unfold MessagesKept
  infer_instance

/-- The copy does not write to the messages of the tasks that wait to be received. -/
def MessagesApart (data : KernelData) (copy : Copy) : Prop :=
  ∀ task, Created data.nextFreeTd task → (data.tds task).state = .receiveBlocked →
    copy.LeavesAlone (data.tds task).messageParams.msg (data.tds task).messageParams.msgLen

instance (data : KernelData) (copy : Copy) : Decidable (MessagesApart data copy) := by
  unfold MessagesApart
  infer_instance

/--
No `Receive` meets a message of another length, and nobody writes to a message that waits: not by
the stores of the task that runs, and not through the buffers that the kernel fills.
-/
structure Undisturbed (transition : Transition Kernel Activation) : Prop where
  receives : ReceiveMatches transition.before transition.input
  stores : ∀ entry ∈ kernelEntry transition.before transition.input,
    MessagesKept transition.before.toKernelData entry.2.mem
  buffers : ∀ copy ∈ copied transition, MessagesApart transition.before.toKernelData copy

/-- The step is safe as well, and what the kernel copies does not overlap itself. -/
structure Orderly (transition : Transition Kernel Activation) : Prop
    extends Undisturbed transition where
  safe : Safe transition.before transition.input
  separate : ∀ copy ∈ copied transition, copy.Separate

instance (transition : Transition Kernel Activation) : Decidable (Undisturbed transition) :=
  decidable_of_iff (ReceiveMatches transition.before transition.input ∧
      (∀ entry ∈ kernelEntry transition.before transition.input,
        MessagesKept transition.before.toKernelData entry.2.mem) ∧
      ∀ copy ∈ copied transition, MessagesApart transition.before.toKernelData copy)
    ⟨fun ⟨receives, stores, buffers⟩ => ⟨receives, stores, buffers⟩,
      fun ⟨receives, stores, buffers⟩ => ⟨receives, stores, buffers⟩⟩

instance (transition : Transition Kernel Activation) : Decidable (Orderly transition) :=
  decidable_of_iff (Undisturbed transition ∧ Safe transition.before transition.input ∧
      ∀ copy ∈ copied transition, copy.Separate)
    ⟨fun ⟨undisturbed, safe, separate⟩ => ⟨undisturbed, safe, separate⟩,
      fun ⟨undisturbed, safe, separate⟩ => ⟨undisturbed, safe, separate⟩⟩

/-- What a step yields to the receiver and what stays pending is what was pending and what the
step accepts, in order; and the `Receive` returns the tid of the sender. -/
structure HandsOver (receiver : Tid) (transition : Transition Kernel Activation) : Prop where
  balance : pending transition.before receiver ++ accepted receiver transition =
    yielded receiver transition ++ pending transition.after receiver
  returned : ∀ message ∈ yielded receiver transition,
    transition.after.frames receiver 0 = message.sender.setWidth 32

theorem bytesAt_handedOver {mem : Mem} {cell buffer msg : Addr} {msgLen : Word}
    (separate : Copy.Separate ⟨buffer, msg, msgLen, some cell⟩) (sender : Byte) :
    bytesAt (storeByte (memcpy mem buffer msg msgLen) cell sender) buffer msgLen =
      bytesAt mem msg msgLen :=
  (bytesAt_storeByte (separate.2.outside rfl)).trans (bytesAt_memcpy separate.1)

section Steps

variable {kernel kernel' entered : Kernel} {model : ListKernel} {activation : Activation}
  {active receiver task : Tid} {call : SysCall} {cell msg rep : Addr} {msgLen repLen : Word}

theorem Matched.pending_eq (isMatched : Matched kernel model) (receiver : Tid) :
    pending kernel receiver =
      (model.lists (.sendQ receiver)).map (messageOf kernel.toKernelData) := by
  rw [pending, congrArg KernelData.nextFreeTd isMatched.refines.data]
  split_ifs with isCreated
  · have isLive : Live model.nextFreeTd (.sendQ receiver) := isCreated
    rw [isMatched.refines.queueTasks_eq _ isLive]
  · have empty : model.lists (.sendQ receiver) = [] := by
      apply List.eq_nil_iff_forall_not_mem.mpr
      exact fun task taskMem => isCreated (isMatched.sound.live taskMem)
    rw [empty, List.map_nil]

/-- A created task that neither runs nor awaits an event is left alone, unless the call hands
it a message or a reply, or fetches its message. -/
theorem Matched.untouched (isMatched : Matched kernel model)
    (isCreated : Created model.nextFreeTd task) (notReady : (model.tds task).state ≠ .ready)
    (notEvent : (model.tds task).state ≠ .eventBlocked)
    (notSend : ∀ active entered msg msgLen rep repLen, callOf kernel activation =
        some (active, entered, .send task msg msgLen rep repLen) →
      (model.tds task).state = .sendBlocked → (model.tds task).messageParams.msgLen ≠ msgLen)
    (notReply : ∀ active entered rep repLen, callOf kernel activation =
        some (active, entered, .reply task rep repLen) →
      (model.tds task).messageParams.repLen ≠ repLen)
    (notHead : ∀ active entered cell msg msgLen, callOf kernel activation =
        some (active, entered, .receive cell msg msgLen) →
      (model.lists (.sendQ active)).head? ≠ some task) :
    Untouched task model (model.step activation).2 := by
  apply step_untouched_of
  · intro event taskMem
    exact notEvent (isMatched.sound.state taskMem)
  · intro active model' runs
    have activeNe : active ≠ task := entry_ne_of_state runs isMatched.sound notReady
    refine ⟨activeNe, fun call isCall => ?_⟩
    rcases isMatched.kernelEntry runs with ⟨entered, enters, -, refines, running⟩
    have calls : callOf kernel activation = some (active, entered, call) := by
      apply callOf_eq_some.mpr
      rw [refines.data]
      exact ⟨enters, isCall⟩
    have same := entry_untouched runs activeNe
    rw [← ListKernel.entry_nextFreeTd runs] at isCreated
    apply not_partner running.sound isCreated
    · rintro msg msgLen rep repLen rfl
      rw [same.td]
      exact notSend active entered msg msgLen rep repLen calls
    · rintro rep repLen rfl
      rw [same.td]
      exact notReply active entered rep repLen calls
    · rintro cell msg msgLen rfl
      rw [ListKernel.entry_lists runs (by simp)]
      exact notHead active entered cell msg msgLen calls

/-- A reply of the recorded length to a task that does not wait for one is not safe. -/
theorem Matched.notReply_of_state (isMatched : Matched kernel model)
    (safe : Safe kernel activation) (isCreated : Created model.nextFreeTd task)
    (notReady : (model.tds task).state ≠ .ready)
    (notReply : (model.tds task).state ≠ .replyBlocked)
    (calls : callOf kernel activation = some (active, entered, .reply task rep repLen)) :
    (model.tds task).messageParams.repLen ≠ repLen := by
  rcases isMatched.called safe calls with ⟨model', runs, -, running, safeCall, -⟩
  have same := entry_untouched runs (entry_ne_of_state runs isMatched.sound notReady)
  rw [← ListKernel.entry_nextFreeTd runs] at isCreated
  rw [← same.td] at notReply ⊢
  exact fun sameLen => notReply ((safeCall (running.sound.tid isCreated)).2 sameLen)

/-- A `Receive` that finds a sender fetches its message, which has the length asked for. -/
theorem Matched.fetched {sender : Tid} {model' : ListKernel} (isMatched : Matched kernel model)
    (orderly : Orderly ⟨kernel, activation, kernel'⟩)
    (calls : callOf kernel activation = some (active, entered, .receive cell msg msgLen))
    (runs : model.entry activation = some (active, model'))
    (refines : Refines model'.nextFreeTd entered model')
    (isHead : (model.lists (.sendQ active)).head? = some sender) :
    ∃ rest, model.lists (.sendQ active) = sender :: rest ∧ Untouched sender model model' ∧
      (model'.tds sender).messageParams.msgLen = msgLen ∧
      Copy.Separate ⟨msg, (model'.tds sender).messageParams.msg, msgLen, some cell⟩ ∧
      ListKernel.Fetched model' (model.step activation).2 active sender cell msg msgLen rest := by
  rcases callOf_eq_some.mp calls with ⟨enters, isCall⟩
  rcases isMatched.called orderly.safe calls with ⟨_, runs', -, running, -, -, steps⟩
  rcases (Prod.mk.inj (Option.some.inj (runs.symm.trans runs'))).2 with rfl
  rcases List.head?_eq_some_iff.mp isHead with ⟨rest, shape⟩
  have blocked : (model.tds sender).state = .receiveBlocked :=
    isMatched.sound.state (List.mem_of_head? isHead)
  have activeNe : active ≠ sender :=
    entry_ne_of_state runs isMatched.sound (by simp [blocked])
  have isLive : Live model'.nextFreeTd (.sendQ active) := running.isCreated
  have isHead' : sender ∈ (queueTasks entered.heap (.sendQ active)).head? := by
    rwa [refines.queueTasks_eq _ isLive, ListKernel.entry_lists runs (by simp)]
  have sameLen := orderly.receives active entered cell msg msgLen enters isCall sender isHead'
  rw [refines.sameTds] at sameLen
  have isCopied : ⟨msg, (model'.tds sender).messageParams.msg, msgLen, some cell⟩ ∈
      copied ⟨kernel, activation, kernel'⟩ := by
    rw [copied_eq calls, refines.copyOf_eq isLive]
    rw [refines.queueTasks_eq _ isLive] at isHead'
    simp [copyOf, Option.mem_def.mp isHead', sameLen]
  refine ⟨rest, shape, entry_untouched runs activeNe, sameLen, orderly.separate _ isCopied, ?_⟩
  rw [← ListKernel.entry_lists runs (by simp)] at shape
  rw [steps]
  exact ListKernel.sysCall_fetches activeNe.symm shape sameLen

/-- Nobody writes to a message that waits. -/
theorem Matched.message_unwritten (isMatched : Matched kernel model)
    (isMatched' : Matched kernel' (model.step activation).2)
    (undisturbed : Undisturbed ⟨kernel, activation, kernel'⟩)
    (isCreated : Created kernel.nextFreeTd task)
    (blocked : (kernel.tds task).state = .receiveBlocked) :
    bytesAt kernel'.mem (kernel.tds task).messageParams.msg (kernel.tds task).messageParams.msgLen =
      bytesAt kernel.mem (kernel.tds task).messageParams.msg
        (kernel.tds task).messageParams.msgLen := by
  apply isMatched.bytesAt_step isMatched'
  · exact fun entry isEntry => undisturbed.stores entry isEntry task isCreated blocked
  · exact fun copy isCopied => undisturbed.buffers copy isCopied task isCreated blocked

/-- A message that is still in the queue after a step is the same as before. -/
theorem Matched.message_kept (isMatched : Matched kernel model)
    (isMatched' : Matched kernel' (model.step activation).2)
    (orderly : Orderly ⟨kernel, activation, kernel'⟩)
    (taskMem : task ∈ model.lists (.sendQ receiver))
    (stays : task ∈ (model.step activation).2.lists (.sendQ receiver)) :
    messageOf kernel'.toKernelData task = messageOf kernel.toKernelData task := by
  have isCreated := isMatched.sound.created taskMem
  have blocked : (model.tds task).state = .receiveBlocked := isMatched.sound.state taskMem
  have blocked' : ((model.step activation).2.tds task).state = .receiveBlocked :=
    isMatched'.sound.state stays
  have untouched : Untouched task model (model.step activation).2 := by
    apply isMatched.untouched isCreated (by simp [blocked]) (by simp [blocked])
    · intro _ _ _ _ _ _ _ waits
      simp [blocked] at waits
    · intro _ _ _ _ calls
      exact isMatched.notReply_of_state orderly.safe isCreated (by simp [blocked])
        (by simp [blocked]) calls
    · intro _ _ _ _ _ calls isHead
      rcases isMatched.called orderly.safe calls with ⟨_, runs, refines, -⟩
      rcases isMatched.fetched orderly calls runs refines isHead with ⟨_, -, -, -, -, fetched⟩
      simp [fetched.state] at blocked'
  have sameTd : kernel'.tds task = kernel.tds task := by
    rw [isMatched.refines.sameTds, isMatched'.refines.sameTds, untouched.td]
  rw [← isMatched.refines.sameTds] at blocked
  rw [← congrArg KernelData.nextFreeTd isMatched.refines.data] at isCreated
  simp only [messageOf, sameTd,
    isMatched.message_unwritten isMatched' orderly.toUndisturbed isCreated blocked]

/-- If nobody joins or leaves the queue, the messages in it stay. -/
theorem Matched.pending_kept (isMatched : Matched kernel model)
    (isMatched' : Matched kernel' (model.step activation).2)
    (orderly : Orderly ⟨kernel, activation, kernel'⟩)
    (sameQueue : (model.step activation).2.lists (.sendQ receiver) =
      model.lists (.sendQ receiver)) :
    pending kernel' receiver = pending kernel receiver := by
  rw [isMatched'.pending_eq, isMatched.pending_eq, sameQueue]
  apply List.map_congr_left
  intro task taskMem
  exact isMatched.message_kept isMatched' orderly taskMem (sameQueue ▸ taskMem)

/-- A receiver that waits still waits if the step hands it no message. -/
theorem Matched.still_waits (isMatched : Matched kernel model)
    (isMatched' : Matched kernel' (model.step activation).2) (safe : Safe kernel activation)
    (isCreated : Created kernel.nextFreeTd receiver)
    (waits : (kernel.tds receiver).state = .sendBlocked)
    (refused : ∀ active entered msg msgLen rep repLen, callOf kernel activation =
        some (active, entered, .send receiver msg msgLen rep repLen) →
      (kernel.tds receiver).messageParams.msgLen ≠ msgLen) :
    (kernel'.tds receiver).state = .sendBlocked := by
  rw [congrArg KernelData.nextFreeTd isMatched.refines.data] at isCreated
  rw [isMatched.refines.sameTds] at waits refused
  rw [isMatched'.refines.sameTds]
  have untouched : Untouched receiver model (model.step activation).2 := by
    apply isMatched.untouched isCreated (by simp [waits]) (by simp [waits])
    · exact fun active entered msg msgLen rep repLen calls _ =>
        refused active entered msg msgLen rep repLen calls
    · intro _ _ _ _ calls
      exact isMatched.notReply_of_state safe isCreated (by simp [waits]) (by simp [waits]) calls
    · intro _ _ _ _ _ _ isHead
      have blocked := isMatched.sound.state (List.mem_of_head? isHead)
      simp [waits, QueueRef.state] at blocked
  rw [untouched.td, waits]

/-- A step that is neither a `Send` to the receiver nor its `Receive` hands nothing over. -/
theorem Matched.handsOver_of_unrelated (isMatched : Matched kernel model)
    (isMatched' : Matched kernel' (model.step activation).2)
    (orderly : Orderly ⟨kernel, activation, kernel'⟩)
    (unrelated : ∀ active entered call, callOf kernel activation = some (active, entered, call) →
      ¬ListKernel.Concerns receiver active call) :
    HandsOver receiver ⟨kernel, activation, kernel'⟩ := by
  have sameQueue : (model.step activation).2.lists (.sendQ receiver) =
      model.lists (.sendQ receiver) := by
    cases runs : model.entry activation with
    | none => rw [ListKernel.step, runs]
    | some result =>
        rcases isMatched.kernelEntry runs with ⟨entered, enters, -, refines, -⟩
        rw [ListKernel.step_of_entry runs, ← ListKernel.entry_lists runs (by simp)]
        cases trap : activation.trap with
        | irq regs => exact ListKernel.interrupt_sendQ _ _ _ _
        | swi req =>
            apply ListKernel.sysCall_sendQ
            apply unrelated result.1 entered
            apply callOf_eq_some.mpr
            rw [trap, refines.data]
            exact ⟨enters, rfl⟩
  have nothingAccepted : accepted receiver ⟨kernel, activation, kernel'⟩ = [] := by
    simp only [accepted]
    split
    · rename_i calls
      rw [if_neg fun both => unrelated _ _ _ calls both.1]
    · rfl
  have nothingYielded : yielded receiver ⟨kernel, activation, kernel'⟩ = [] := by
    simp only [yielded]
    split_ifs with waits isReady
    · have waits' := isMatched.still_waits isMatched' orderly.safe waits.1 waits.2
        fun _ _ _ _ _ _ calls => absurd rfl (unrelated _ _ _ calls)
      simp [waits'] at isReady
    · rfl
    · split
      · rename_i calls
        rw [if_neg fun both => unrelated _ _ _ calls both.1]
      · rfl
  refine ⟨?_, by simp [nothingYielded]⟩
  simp [nothingAccepted, nothingYielded, isMatched.pending_kept isMatched' orderly sameQueue]

theorem accepted_of_send {ret : ℤ} (calls : callOf kernel activation =
      some (active, entered, .send receiver msg msgLen rep repLen))
    (result : (kernelSend entered active receiver msg msgLen rep repLen).map Prod.fst = some ret) :
    accepted receiver ⟨kernel, activation, kernel'⟩ =
      if ret = 0 then [⟨active, bytesAt entered.mem msg msgLen⟩] else [] := by
  simp [accepted, calls, result]

theorem yielded_of_waiting (isCreated : Created kernel.nextFreeTd receiver)
    (waits : (kernel.tds receiver).state = .sendBlocked) :
    yielded receiver ⟨kernel, activation, kernel'⟩ =
      if (kernel'.tds receiver).state = .ready then
        [⟨kernel'.mem (kernel.tds receiver).messageParams.tid,
          bytesAt kernel'.mem (kernel.tds receiver).messageParams.msg
            (kernel.tds receiver).messageParams.msgLen⟩]
      else [] :=
  if_pos ⟨isCreated, waits⟩

theorem yielded_of_send
    (busy : Created kernel.nextFreeTd receiver → (kernel.tds receiver).state ≠ .sendBlocked)
    (calls : callOf kernel activation =
      some (active, entered, .send task msg msgLen rep repLen)) :
    yielded receiver ⟨kernel, activation, kernel'⟩ = [] := by
  rw [yielded, if_neg fun waits => busy waits.1 waits.2]
  simp only [calls]

theorem yielded_of_receive (busy : (kernel.tds active).state ≠ .sendBlocked)
    (calls : callOf kernel activation = some (active, entered, .receive cell msg msgLen)) :
    yielded active ⟨kernel, activation, kernel'⟩ =
      if (kernel'.tds active).state = .ready then
        [⟨kernel'.mem cell, bytesAt kernel'.mem msg msgLen⟩]
      else [] := by
  simp [yielded, busy, calls]

/-- A `Send` to a receiver that waits hands its message over at once; no other message
waits. -/
theorem Matched.handsOver_of_waiting (isMatched : Matched kernel model)
    (isMatched' : Matched kernel' (model.step activation).2)
    (orderly : Orderly ⟨kernel, activation, kernel'⟩)
    (calls : callOf kernel activation =
      some (active, entered, .send receiver msg msgLen rep repLen))
    (isCreated : Created model.nextFreeTd receiver)
    (waits : (model.tds receiver).state = .sendBlocked)
    (sameLen : (model.tds receiver).messageParams.msgLen = msgLen) :
    HandsOver receiver ⟨kernel, activation, kernel'⟩ := by
  rcases isMatched.called orderly.safe calls with ⟨model', runs, refines, running, safe, -, steps⟩
  have activeNe : active ≠ receiver :=
    entry_ne_of_state runs isMatched.sound (by simp [waits])
  have sameTd := (entry_untouched runs activeNe).td
  have sameTid := isMatched.sound.tid isCreated
  have activeTid := running.sound.tid running.isCreated
  have noSender := isMatched.sound.waiting isCreated waits
  have result := (refines.kernelSend running safe msg msgLen rep repLen).result
  rw [← sameTd] at waits sameLen sameTid
  have isAccepted : (model'.send active receiver msg msgLen rep repLen).1 = 0 :=
    ListKernel.send_accepted_iff.mpr ⟨sameTid, fun _ => sameLen⟩
  have delivered : ListKernel.Delivered model' (model.step activation).2 active receiver msg
      msgLen rep repLen := by
    rw [steps]
    exact ListKernel.sysCall_delivers activeNe.symm sameTid waits sameLen
  have isCopied : ⟨(model'.tds receiver).messageParams.msg, msg, msgLen,
      some (model'.tds receiver).messageParams.tid⟩ ∈ copied ⟨kernel, activation, kernel'⟩ := by
    rw [copied_eq calls, refines.copyOf_eq running.isCreated]
    exact if_pos ⟨sameTid, waits, sameLen⟩
  have arrives := @bytesAt_handedOver model'.mem _ _ _ _ (orderly.separate _ isCopied) active
  have accepts : accepted receiver ⟨kernel, activation, kernel'⟩ =
      [⟨active, bytesAt model'.mem msg msgLen⟩] := by
    rw [accepted_of_send calls result, if_pos isAccepted, refines.data]
  have sameTd' : kernel.tds receiver = model'.tds receiver := by
    rw [isMatched.refines.sameTds, sameTd]
  have ready : (kernel'.tds receiver).state = .ready := by
    rw [isMatched'.refines.sameTds, delivered.ready]
  have sameMem : kernel'.mem = _ :=
    (congrArg KernelData.mem isMatched'.refines.data).trans delivered.mem
  have yields : yielded receiver ⟨kernel, activation, kernel'⟩ =
      [⟨active, bytesAt model'.mem msg msgLen⟩] := by
    rw [← congrArg KernelData.nextFreeTd isMatched.refines.data] at isCreated
    rw [yielded_of_waiting isCreated (by rw [sameTd', waits]), if_pos ready, sameTd', sameMem,
      sameLen, activeTid, storeByte_self, arrives]
  have queue' : (model.step activation).2.lists (.sendQ receiver) = [] := by
    rw [delivered.queue, ListKernel.entry_lists runs (by simp), noSender]
  refine ⟨?_, ?_⟩
  · rw [isMatched.pending_eq, isMatched'.pending_eq, noSender, queue', accepts, yields]
    rfl
  · intro message messageMem
    rw [yields, List.mem_singleton] at messageMem
    rw [messageMem, isMatched'.refines.data, delivered.returned, activeTid]

/-- The message of a `Send` to a receiver that does not wait joins those that wait. -/
theorem Matched.handsOver_of_busy (isMatched : Matched kernel model)
    (isMatched' : Matched kernel' (model.step activation).2)
    (orderly : Orderly ⟨kernel, activation, kernel'⟩)
    (calls : callOf kernel activation =
      some (active, entered, .send receiver msg msgLen rep repLen))
    (isCreated : Created model.nextFreeTd receiver)
    (busy : (model.tds receiver).state ≠ .sendBlocked) :
    HandsOver receiver ⟨kernel, activation, kernel'⟩ := by
  rcases isMatched.called orderly.safe calls with ⟨model', runs, refines, running, safe, -, steps⟩
  have sameState := ListKernel.entry_state runs receiver
  rw [← ListKernel.entry_nextFreeTd runs] at isCreated
  have sameTid := running.sound.tid isCreated
  rw [← sameState] at busy
  have result := (refines.kernelSend running safe msg msgLen rep repLen).result
  have isAccepted : (model'.send active receiver msg msgLen rep repLen).1 = 0 :=
    ListKernel.send_accepted_iff.mpr ⟨sameTid, fun waits => absurd waits busy⟩
  have queued : ListKernel.Queued model' (model.step activation).2 active receiver msg msgLen rep
      repLen := by
    rw [steps]
    exact ListKernel.sysCall_queues sameTid busy
  have accepts : accepted receiver ⟨kernel, activation, kernel'⟩ =
      [⟨active, bytesAt model'.mem msg msgLen⟩] := by
    rw [accepted_of_send calls result, if_pos isAccepted, refines.data]
  have joins : messageOf kernel'.toKernelData active = ⟨active, bytesAt model'.mem msg msgLen⟩ := by
    rw [isMatched'.refines.data]
    simp only [messageOf, queued.params, queued.mem]
  have stay : ∀ task ∈ model.lists (.sendQ receiver),
      messageOf kernel'.toKernelData task = messageOf kernel.toKernelData task := by
    intro task taskMem
    apply isMatched.message_kept isMatched' orderly taskMem
    rw [queued.queue, ListKernel.entry_lists runs (by simp)]
    exact List.mem_append_left [active] taskMem
  have yields : yielded receiver ⟨kernel, activation, kernel'⟩ = [] := by
    rw [sameState, ← isMatched.refines.sameTds] at busy
    exact yielded_of_send (fun _ => busy) calls
  refine ⟨?_, by simp [yields]⟩
  rw [isMatched.pending_eq, isMatched'.pending_eq, queued.queue,
    ListKernel.entry_lists runs (by simp), accepts, yields, List.map_append, List.map_singleton,
    joins, List.map_congr_left stay, List.nil_append]

/-- A `Send` that is refused hands nothing over. -/
theorem Matched.handsOver_of_refused (isMatched : Matched kernel model)
    (isMatched' : Matched kernel' (model.step activation).2)
    (orderly : Orderly ⟨kernel, activation, kernel'⟩)
    (calls : callOf kernel activation =
      some (active, entered, .send receiver msg msgLen rep repLen))
    (refused : Created model.nextFreeTd receiver → (model.tds receiver).state = .sendBlocked ∧
      (model.tds receiver).messageParams.msgLen ≠ msgLen) :
    HandsOver receiver ⟨kernel, activation, kernel'⟩ := by
  rcases isMatched.called orderly.safe calls with ⟨model', runs, refines, running, safe, -, steps⟩
  have result := (refines.kernelSend running safe msg msgLen rep repLen).result
  have next : kernel.nextFreeTd = model.nextFreeTd :=
    congrArg KernelData.nextFreeTd isMatched.refines.data
  have isRefused : (model'.send active receiver msg msgLen rep repLen).1 ≠ 0 := by
    intro isAccepted
    rcases ListKernel.send_accepted_iff.mp isAccepted with ⟨sameTid, sameLen⟩
    have isCreated := safe sameTid
    rw [ListKernel.entry_nextFreeTd runs] at isCreated
    rcases refused isCreated with ⟨waits, mismatch⟩
    have activeNe : active ≠ receiver :=
      entry_ne_of_state runs isMatched.sound (by simp [waits])
    rw [← (entry_untouched runs activeNe).td] at waits mismatch
    exact mismatch (sameLen waits)
  have sameQueue : (model.step activation).2.lists (.sendQ receiver) =
      model.lists (.sendQ receiver) := by
    rw [steps, ListKernel.sysCall_refuses isRefused, ListKernel.entry_lists runs (by simp)]
  have yields : yielded receiver ⟨kernel, activation, kernel'⟩ = [] := by
    by_cases isCreated : Created kernel.nextFreeTd receiver
    · rcases refused (next ▸ isCreated) with ⟨waits, mismatch⟩
      rw [← isMatched.refines.sameTds] at waits mismatch
      have waits' := isMatched.still_waits isMatched' orderly.safe isCreated waits (by
        intro _ _ _ _ _ _ calls'
        simp only [calls, Option.some.injEq, Prod.mk.injEq, SysCall.send.injEq] at calls'
        rcases calls' with ⟨-, -, -, -, rfl, -⟩
        exact mismatch)
      rw [yielded_of_waiting isCreated waits, waits']
      rfl
    · exact yielded_of_send (fun created => absurd created isCreated) calls
  refine ⟨?_, by simp [yields]⟩
  rw [accepted_of_send calls result, if_neg isRefused, yields, List.append_nil, List.nil_append,
    isMatched.pending_kept isMatched' orderly sameQueue]

theorem Matched.handsOver_of_send (isMatched : Matched kernel model)
    (isMatched' : Matched kernel' (model.step activation).2)
    (orderly : Orderly ⟨kernel, activation, kernel'⟩)
    (calls : callOf kernel activation =
      some (active, entered, .send receiver msg msgLen rep repLen)) :
    HandsOver receiver ⟨kernel, activation, kernel'⟩ := by
  by_cases isCreated : Created model.nextFreeTd receiver
  · by_cases waits : (model.tds receiver).state = .sendBlocked
    · by_cases sameLen : (model.tds receiver).messageParams.msgLen = msgLen
      · exact isMatched.handsOver_of_waiting isMatched' orderly calls isCreated waits sameLen
      · exact isMatched.handsOver_of_refused isMatched' orderly calls fun _ => ⟨waits, sameLen⟩
    · exact isMatched.handsOver_of_busy isMatched' orderly calls isCreated waits
  · exact isMatched.handsOver_of_refused isMatched' orderly calls
      fun created => absurd created isCreated

/-- A `Receive` yields the message that waits first, or none. -/
theorem Matched.handsOver_of_receive (isMatched : Matched kernel model)
    (isMatched' : Matched kernel' (model.step activation).2)
    (orderly : Orderly ⟨kernel, activation, kernel'⟩)
    (calls : callOf kernel activation = some (active, entered, .receive cell msg msgLen)) :
    HandsOver active ⟨kernel, activation, kernel'⟩ := by
  rcases isMatched.called orderly.safe calls with ⟨model', runs, refines, running, -, -, steps⟩
  have busy : (kernel.tds active).state ≠ .sendBlocked := by
    rw [isMatched.refines.sameTds, ← ListKernel.entry_state runs, running.ready]
    simp
  have accepts : accepted active ⟨kernel, activation, kernel'⟩ = [] := by
    simp only [accepted, calls]
  cases head : (model.lists (.sendQ active)).head? with
  | none =>
      have noSender : model.lists (.sendQ active) = [] := List.head?_eq_none_iff.mp head
      have noSender' := noSender
      rw [← ListKernel.entry_lists runs (by simp)] at noSender'
      rcases ListKernel.sysCall_waits noSender' with ⟨waits, stillNone⟩
      rw [← steps] at waits stillNone
      rw [← isMatched'.refines.sameTds] at waits
      have yields : yielded active ⟨kernel, activation, kernel'⟩ = [] := by
        rw [yielded_of_receive busy calls, waits]
        rfl
      refine ⟨?_, by simp [yields]⟩
      rw [isMatched.pending_eq, isMatched'.pending_eq, noSender, stillNone, accepts, yields]
      rfl
  | some sender =>
      rcases isMatched.fetched orderly calls runs refines head with
        ⟨rest, shape, same, sameLen, separate, fetched⟩
      have senderMem : sender ∈ model.lists (.sendQ active) := List.mem_of_head? head
      have isCreated := isMatched.sound.created senderMem
      have senderTid : (model'.tds sender).tid = sender := by
        rw [same.td, isMatched.sound.tid isCreated]
      have blocked : (model.tds sender).state = .receiveBlocked :=
        isMatched.sound.state senderMem
      have sameTd : kernel.tds sender = model'.tds sender := by
        rw [isMatched.refines.sameTds, same.td]
      -- the message is as it was when the sender left it
      have unchanged := orderly.stores (active, entered) (callOf_eq_some.mp calls).1 sender
        (by rwa [congrArg KernelData.nextFreeTd isMatched.refines.data])
        (by rwa [isMatched.refines.sameTds])
      have isFirst : messageOf kernel.toKernelData sender =
          ⟨sender, bytesAt entered.mem (model'.tds sender).messageParams.msg msgLen⟩ := by
        rw [← sameLen, ← sameTd]
        exact congrArg (Message.mk sender) unchanged.symm
      have ready : (kernel'.tds active).state = .ready := by
        rw [isMatched'.refines.sameTds, fetched.ready]
      have sameMem : kernel'.mem = _ :=
        (congrArg KernelData.mem isMatched'.refines.data).trans fetched.mem
      have yields : yielded active ⟨kernel, activation, kernel'⟩ =
          [messageOf kernel.toKernelData sender] := by
        rw [yielded_of_receive busy calls, if_pos ready, isFirst, sameMem, senderTid,
          storeByte_self, ← congrArg KernelData.mem refines.data, bytesAt_handedOver separate]
      have stay : ∀ task ∈ rest,
          messageOf kernel'.toKernelData task = messageOf kernel.toKernelData task := by
        intro task taskMem
        have waited : task ∈ model.lists (.sendQ active) := by
          rw [shape]
          exact List.mem_cons_of_mem sender taskMem
        apply isMatched.message_kept isMatched' orderly waited
        rwa [fetched.queue]
      refine ⟨?_, ?_⟩
      · rw [isMatched.pending_eq, isMatched'.pending_eq, fetched.queue, shape, accepts, yields,
          List.map_cons, List.map_congr_left stay, List.append_nil, List.singleton_append]
      · intro message messageMem
        rw [yields, List.mem_singleton] at messageMem
        rw [messageMem, isMatched'.refines.data, fetched.returned, senderTid]
        rfl

theorem Matched.handsOver (isMatched : Matched kernel model)
    (isMatched' : Matched kernel' (model.step activation).2)
    (orderly : Orderly ⟨kernel, activation, kernel'⟩) (receiver : Tid) :
    HandsOver receiver ⟨kernel, activation, kernel'⟩ := by
  by_cases related : ∃ active entered call,
      callOf kernel activation = some (active, entered, call) ∧
        ListKernel.Concerns receiver active call
  · rcases related with ⟨active, entered, call, calls, concerns⟩
    cases call with
    | send tid msg msgLen rep repLen =>
        rcases concerns with rfl
        exact isMatched.handsOver_of_send isMatched' orderly calls
    | receive cell msg msgLen =>
        rcases concerns with rfl
        exact isMatched.handsOver_of_receive isMatched' orderly calls
    | _ => exact concerns.elim
  · apply isMatched.handsOver_of_unrelated isMatched' orderly
    exact fun active entered call calls concerns => related ⟨active, entered, call, calls, concerns⟩

end Steps

/-- The task is in a `Send` that wants its reply in the given buffer. -/
structure WaitsInSend (sender : Tid) (rep : Addr) (repLen : Word) (model : ListKernel) : Prop where
  isCreated : Created model.nextFreeTd sender
  blocked : (model.tds sender).state = .receiveBlocked ∨ (model.tds sender).state = .replyBlocked
  rep : (model.tds sender).messageParams.rep = rep
  repLen : (model.tds sender).messageParams.repLen = repLen

section Senders

variable {kernel kernel' : Kernel} {model : ListKernel} {activation : Activation}
  {sender : Tid} {rep : Addr} {repLen : Word}

theorem WaitsInSend.notReady (waits : WaitsInSend sender rep repLen model) :
    (model.tds sender).state ≠ .ready := by
  rcases waits.blocked with blocked | blocked <;> simp [blocked]

/-- A sender is blocked once its `Send` was accepted. -/
theorem Matched.waits_of_accepted (isMatched : Matched kernel model)
    (safe : Safe kernel activation)
    (isAccepted : SendAccepted sender rep repLen ⟨kernel, activation, kernel'⟩) :
    WaitsInSend sender rep repLen (model.step activation).2 := by
  rcases isAccepted with ⟨entered, receiver, msg, msgLen, calls, result⟩
  rcases isMatched.called safe calls with ⟨model', runs, refines, running, safeCall, -, steps⟩
  rw [(refines.kernelSend running safeCall msg msgLen rep repLen).result,
    Option.some.injEq] at result
  rcases ListKernel.send_accepted_iff.mp result with ⟨sameTid, sameLen⟩
  have isCreated : Created (model.step activation).2.nextFreeTd sender := by
    rw [steps]
    exact lt_of_lt_of_le running.isCreated (ListKernel.nextFreeTd_le_sysCall _ _ _)
  rw [steps] at isCreated ⊢
  by_cases waits : (model'.tds receiver).state = .sendBlocked
  · have receiverNe : receiver ≠ sender := by
      rintro rfl
      simp [running.ready] at waits
    have delivered : ListKernel.Delivered model' _ sender receiver msg msgLen rep repLen :=
      ListKernel.sysCall_delivers receiverNe sameTid waits (sameLen waits)
    exact ⟨isCreated, .inr delivered.state, by rw [delivered.params], by rw [delivered.params]⟩
  · have queued : ListKernel.Queued model' _ sender receiver msg msgLen rep repLen :=
      ListKernel.sysCall_queues sameTid waits
    exact ⟨isCreated, .inl queued.state, by rw [queued.params], by rw [queued.params]⟩

/-- A sender stays blocked while no `Reply` to it is accepted. -/
theorem WaitsInSend.step (waits : WaitsInSend sender rep repLen model)
    (isMatched : Matched kernel model) (orderly : Orderly ⟨kernel, activation, kernel'⟩)
    (noAnswer : ¬Answers sender ⟨kernel, activation, kernel'⟩) :
    WaitsInSend sender rep repLen (model.step activation).2 := by
  have isCreated : Created (model.step activation).2.nextFreeTd sender :=
    lt_of_lt_of_le waits.isCreated (model.nextFreeTd_le_step activation)
  by_cases fetches : ∃ active entered cell msg msgLen, callOf kernel activation =
      some (active, entered, .receive cell msg msgLen) ∧
        (model.lists (.sendQ active)).head? = some sender
  · rcases fetches with ⟨active, entered, cell, msg, msgLen, calls, isHead⟩
    rcases isMatched.called orderly.safe calls with ⟨model', runs, refines, -⟩
    rcases isMatched.fetched orderly calls runs refines isHead with ⟨rest, -, same, -, -, fetched⟩
    refine ⟨isCreated, .inr fetched.state, ?_, ?_⟩
    · rw [fetched.params, same.td, waits.rep]
    · rw [fetched.params, same.td, waits.repLen]
  · have untouched : Untouched sender model (model.step activation).2 := by
      apply isMatched.untouched waits.isCreated waits.notReady
      · rcases waits.blocked with blocked | blocked <;> simp [blocked]
      · intro _ _ _ _ _ _ _ waitsToo
        rcases waits.blocked with blocked | blocked <;> simp [blocked] at waitsToo
      · intro active entered answer answerLen calls sameLen
        apply noAnswer
        refine ⟨active, entered, answer, answerLen, calls, ?_⟩
        rcases isMatched.called orderly.safe calls with ⟨model', runs, refines, running, safe, -⟩
        have activeNe : active ≠ sender :=
          entry_ne_of_state runs isMatched.sound waits.notReady
        have sameTd := (entry_untouched runs activeNe).td
        rw [(refines.kernelReply running safe answer).result, Option.some.injEq]
        apply ListKernel.reply_accepted_iff.mpr
        rw [sameTd]
        exact ⟨isMatched.sound.tid waits.isCreated, sameLen⟩
      · exact fun active entered cell msg msgLen calls isHead =>
          fetches ⟨active, entered, cell, msg, msgLen, calls, isHead⟩
    exact ⟨isCreated, untouched.td ▸ waits.blocked, untouched.td ▸ waits.rep,
      untouched.td ▸ waits.repLen⟩

/-- A `Send` returns when a `Reply` to its task is accepted. -/
theorem WaitsInSend.returns (waits : WaitsInSend sender rep repLen model)
    (isMatched : Matched kernel model) (isMatched' : Matched kernel' (model.step activation).2)
    (orderly : Orderly ⟨kernel, activation, kernel'⟩)
    (answers : Answers sender ⟨kernel, activation, kernel'⟩) :
    SendReturns sender rep repLen ⟨kernel, activation, kernel'⟩ := by
  rcases answers with ⟨active, entered, answer, answerLen, calls, result⟩
  rcases isMatched.called orderly.safe calls with ⟨model', runs, refines, running, safe, -, steps⟩
  have activeNe : active ≠ sender :=
    entry_ne_of_state runs isMatched.sound waits.notReady
  have sameTd := (entry_untouched runs activeNe).td
  rw [(refines.kernelReply running safe answer).result, Option.some.injEq] at result
  rcases ListKernel.reply_accepted_iff.mp result with ⟨sameTid, sameLen⟩
  have waited := (safe sameTid).2 sameLen
  have answered : ListKernel.Answered model' (model.step activation).2 sender answer answerLen := by
    rw [steps]
    exact ListKernel.sysCall_answers activeNe.symm sameTid sameLen
  have isCopied : ⟨(model'.tds sender).messageParams.rep, answer, answerLen, none⟩ ∈
      copied ⟨kernel, activation, kernel'⟩ := by
    rw [copied_eq calls, refines.copyOf_eq running.isCreated]
    exact if_pos ⟨sameTid, sameLen⟩
  have apart := (orderly.separate _ isCopied).1
  refine
    { waited := ?_
      ready := ?_
      queued := ?_
      returned := ?_
      bytes := ?_ }
  · rwa [isMatched.refines.sameTds, ← sameTd]
  · rw [isMatched'.refines.sameTds, answered.ready]
  · have queue := answered.queue
    rw [sameTd, ← isMatched.refines.sameTds] at queue
    rwa [isMatched'.refines.queueTasks_eq _ (isMatched'.sound.live queue)]
  · rw [isMatched'.refines.data, answered.returned]
  · intro _ _ _ _ calls'
    simp only [calls, Option.some.injEq, Prod.mk.injEq, SysCall.reply.injEq] at calls'
    rcases calls' with ⟨rfl, rfl, -, rfl, rfl⟩
    have sameMem : kernel'.mem = _ :=
      (congrArg KernelData.mem isMatched'.refines.data).trans answered.mem
    have sameRep : (model'.tds sender).messageParams.rep = rep := by rw [sameTd, waits.rep]
    have sameLen' : answerLen = repLen := by rw [← sameLen, sameTd, waits.repLen]
    rw [sameRep] at sameMem apart
    rw [sameMem, ← sameLen', refines.data]
    exact bytesAt_memcpy apart

theorem WaitsInSend.inSend (waits : WaitsInSend sender rep repLen model)
    (isMatched : Matched kernel model) : InSend kernel sender := by
  rw [InSend, isMatched.refines.sameTds]
  exact waits.blocked

end Senders

section Runs

variable {start final : Kernel} {trace : List (Transition Kernel Activation)}
  {sender : Tid} {rep : Addr} {repLen : Word}

/-- A sender is blocked in every state of a run in which no `Reply` to it is accepted. -/
theorem WaitsInSend.run {model : ListKernel} (waits : WaitsInSend sender rep repLen model)
    (isMatched : Matched start model) (run : Run mainStep start trace final)
    (orderly : ∀ transition ∈ trace, Orderly transition)
    (noAnswer : ∀ transition ∈ trace, ¬Answers sender transition) :
    Abstracts (WaitsInSend sender rep repLen) final ∧
      ∀ transition ∈ trace, InSend transition.after sender := by
  induction run generalizing model with
  | nil => exact ⟨⟨model, isMatched, waits⟩, by simp⟩
  | cons first _ ih =>
      have firstOrderly := orderly _ List.mem_cons_self
      have waits' := waits.step isMatched firstOrderly (noAnswer _ List.mem_cons_self)
      rcases isMatched.mainStep first firstOrderly.safe with ⟨-, isMatched'⟩
      rcases ih waits' isMatched' (fun transition restMem => orderly transition (.tail _ restMem))
        (fun transition restMem => noAnswer transition (.tail _ restMem)) with ⟨ends, blocked⟩
      exact ⟨ends, List.forall_mem_cons.mpr ⟨waits'.inSend isMatched', blocked⟩⟩

/--
In every orderly run from `init`: the messages that each receiver gets are those accepted for
it, in this order, but for those that still wait; its `Receive` returns the tid of the sender;
and each sender is blocked until a `Reply` to it is accepted, when its `Send` returns 0 with
the reply in its buffer.
-/
theorem run_delivery {boot : Kernel} {userMain idleMain : Addr}
    (booted : init boot userMain idleMain = some start) (run : Run mainStep start trace final)
    (orderly : ∀ transition ∈ trace, Orderly transition) :
    (∀ receiver, trace.flatMap (accepted receiver) =
      trace.flatMap (yielded receiver) ++ pending final receiver) ∧
    (∀ receiver, ∀ transition ∈ trace, ∀ message ∈ yielded receiver transition,
      transition.after.frames receiver 0 = message.sender.setWidth 32) ∧
    ∀ front sends waits rest sender rep repLen, trace = front ++ sends :: (waits ++ rest) →
      SendAccepted sender rep repLen sends → (∀ later ∈ waits, ¬Answers sender later) →
      (∀ later ∈ sends :: waits, InSend later.after sender) ∧
        ∀ reply ∈ rest.head?, Answers sender reply → SendReturns sender rep repLen reply := by
  rcases init_matched boot userMain idleMain with ⟨first, started, isMatched⟩
  rcases Option.some.inj (started.symm.trans booted) with rfl
  have isSound : first.IsSound := ⟨_, isMatched⟩
  have kept : ∀ transition : Transition Kernel Activation,
      mainStep transition.before transition.input = some transition.after →
      Orderly transition → transition.before.IsSound → transition.after.IsSound :=
    fun _ stepped isOrderly isSound => isSound.mainStep stepped isOrderly.safe
  have handsOver : ∀ receiver, ∀ transition : Transition Kernel Activation,
      mainStep transition.before transition.input = some transition.after →
      Orderly transition → transition.before.IsSound → HandsOver receiver transition := by
    rintro receiver transition stepped isOrderly ⟨model, isMatched⟩
    exact isMatched.handsOver (isMatched.mainStep stepped isOrderly.safe).2 isOrderly receiver
  refine ⟨fun receiver => ?_, ?_, ?_⟩
  · have conserved := run.conserved Kernel.IsSound (pending · receiver) (accepted receiver)
      (yielded receiver) kept (fun transition stepped isOrderly isSound =>
        (handsOver receiver transition stepped isOrderly isSound).balance) orderly isSound
    have nothing : pending first receiver = [] := by
      rw [isMatched.pending_eq]
      rfl
    rwa [nothing, List.nil_append] at conserved
  · intro receiver transition transitionMem
    have soundBefore := run.invariant_before Kernel.IsSound kept orderly isSound transitionMem
    exact (handsOver receiver transition (run.step_of_mem transitionMem)
      (orderly transition transitionMem) soundBefore).returned
  · rintro front sends waits rest sender rep repLen rfl isAccepted noAnswer
    rcases run.split with ⟨middle, before, after⟩
    rcases before.invariant kept (fun earlier earlierMem => orderly earlier (by simp [earlierMem]))
      isSound with ⟨model, isMatched⟩
    cases after with
    | cons sent after =>
        rcases after.split with ⟨last, waiting, ending⟩
        have sendsOrderly := orderly _ (List.mem_append_right front List.mem_cons_self)
        have waits := isMatched.waits_of_accepted sendsOrderly.safe isAccepted
        rcases isMatched.mainStep sent sendsOrderly.safe with ⟨-, afterSend⟩
        rcases waits.run afterSend waiting
          (fun later laterMem => orderly later (by simp [laterMem])) noAnswer with
          ⟨⟨model', beforeReply, waits'⟩, blocked⟩
        refine ⟨List.forall_mem_cons.mpr ⟨waits.inSend afterSend, blocked⟩, ?_⟩
        intro reply isNext answers
        have replyOrderly := orderly reply (by simp [List.mem_of_head? isNext])
        cases ending with
        | nil => simp at isNext
        | cons replies _ =>
            rcases Option.some.inj isNext with rfl
            rcases beforeReply.mainStep replies replyOrderly.safe with ⟨-, afterReply⟩
            exact waits'.returns beforeReply afterReply replyOrderly answers

end Runs

namespace TwoSends

/-- A `Send` of four bytes to the first task; all its buffers are near one address. -/
def send (params value : Word) : Activation :=
  { callActivation 5 params 0 0 with
    effect := fun mem => storeWord (storeWord (storeWord (storeWord (storeWord mem
      (params + 4) (params + 0x20)) (params + 8) 4) (params + 12) (params + 0x28))
      (params + 16) 4) (params + 0x20) value }

def receive : Activation := callActivation 6 0x300 0x304 4

def reply : Activation :=
  { callActivation 7 2 0x308 4 with effect := fun mem => storeWord mem 0x308 0x63 }

/-- The first task has created a task, which sends, is answered, and sends again. -/
def created : Kernel := stepped zeroedStart (callActivation 2 0 0 0)
def sent : Kernel := stepped created (send 0x100 0x61)
def received : Kernel := stepped sent receive
def replied : Kernel := stepped received reply
def sentAgain : Kernel := stepped replied (send 0x100 0x64)

def trace : List (Transition Kernel Activation) :=
  [⟨zeroedStart, callActivation 2 0 0 0, created⟩, ⟨created, send 0x100 0x61, sent⟩,
    ⟨sent, receive, received⟩, ⟨received, reply, replied⟩,
    ⟨replied, send 0x100 0x64, sentAgain⟩]

theorem run : Run mainStep zeroedStart trace sentAgain := by
  apply Run.cons (mainStep_stepped (by decide +kernel))
  apply Run.cons (mainStep_stepped (by decide +kernel))
  apply Run.cons (mainStep_stepped (by decide +kernel))
  apply Run.cons (mainStep_stepped (by decide +kernel))
  apply Run.cons (mainStep_stepped (by decide +kernel))
  exact Run.nil sentAgain

theorem sendAccepted : SendAccepted 2 0x128 4 ⟨created, send 0x100 0x61, sent⟩ :=
  ⟨enteredKernel created (send 0x100 0x61), 0, 0x120, 4,
    callOf_eq_some.mpr ⟨kernelEntry_of_active (by decide +kernel), by decide +kernel⟩,
    by decide +kernel⟩

set_option maxRecDepth 2048 in
theorem answers : Answers 2 ⟨received, reply, replied⟩ :=
  ⟨0, enteredKernel received reply, 0x308, 4,
    callOf_eq_some.mpr ⟨kernelEntry_of_active (by decide +kernel), by decide +kernel⟩,
    by decide +kernel⟩

set_option maxRecDepth 2048 in
theorem noAnswer : ¬Answers 2 ⟨sent, receive, received⟩ := by
  rintro ⟨active, entered, rep, repLen, calls, -⟩
  rcases callOf_eq_some.mp calls with ⟨enters, isReply⟩
  have enters' : kernelEntry sent receive = some (0, enteredKernel sent receive) :=
    kernelEntry_of_active (by decide +kernel)
  rcases Prod.mk.inj (Option.some.inj (enters'.symm.trans enters)) with ⟨rfl, rfl⟩
  have isReceive : receive.trap.call (enteredKernel sent receive).toKernelData 0 =
    some (.receive 0x300 0x304 4) := by decide +kernel
  rw [isReceive] at isReply
  simp at isReply

end TwoSends

theorem run_delivery_twoSends :
    TwoSends.trace.flatMap (yielded 0) ++ pending TwoSends.sentAgain 0 =
      [⟨2, [0x61, 0, 0, 0]⟩, ⟨2, [0x64, 0, 0, 0]⟩] ∧
    SendReturns 2 0x128 4 ⟨TwoSends.received, TwoSends.reply, TwoSends.replied⟩ := by
  have booted : init zeroedBoot 0 0 = some zeroedStart := rfl
  rcases run_delivery booted TwoSends.run (by decide +kernel) with ⟨order, -, senders⟩
  refine ⟨(order 0).symm.trans (by decide +kernel), ?_⟩
  have blocks := senders [_] _ [_] [_, _] 2 0x128 4 rfl TwoSends.sendAccepted
    (List.forall_mem_singleton.mpr TwoSends.noAnswer)
  exact blocks.2 _ rfl TwoSends.answers

/-- The task that the call replies to, if any. -/
def replyTarget : SysCall → Option Tid
  | .reply tid _ _ => some tid
  | _ => none

/-- No `Reply` is to a task that does not wait for one. -/
def RepliesAwaited (transition : Transition Kernel Activation) : Prop :=
  ∀ called ∈ callOf transition.before transition.input, ∀ tid ∈ replyTarget called.2.2,
    (called.2.1.tds tid).state = .replyBlocked

instance (transition : Transition Kernel Activation) : Decidable (RepliesAwaited transition) := by
  unfold RepliesAwaited
  infer_instance

/-- In every run whose steps meet the condition, all receivers get their messages in order. -/
def DeliversIf (condition : Transition Kernel Activation → Prop) : Prop :=
  ∀ (boot start final : Kernel) (userMain idleMain : Addr)
    (trace : List (Transition Kernel Activation)), init boot userMain idleMain = some start →
    Run mainStep start trace final → (∀ transition ∈ trace, condition transition) →
    ∀ receiver, trace.flatMap (accepted receiver) =
      trace.flatMap (yielded receiver) ++ pending final receiver

/-- The first task receives four bytes, and the tid of their sender into the first of them. -/
def receiveOverTid : List Activation :=
  [callActivation 2 0 0 0, TwoSends.send 0x100 0x61, callActivation 6 0x304 0x304 4]

/-- Sending like in `TwoSends`, to another task. -/
def sendTo (tid : Byte) (value : Word) : Activation :=
  { TwoSends.send 0x100 value with
    effect := fun mem => storeByte ((TwoSends.send 0x100 value).effect mem) 0x100 tid }

/-- Task 2 waits with a buffer that begins at the second byte of what the first task then sends. -/
def receiveOverMessage : List Activation :=
  [callActivation 2 0 0 0, callActivation 6 0x300 0x121 4, sendTo 2 0x64636261]

/-- A machine whose memory still holds the descriptor of a task 3. -/
def thirdBoot : Kernel := zeroedBoot.modify (·.modifyTd 3 fun td => { td with tid := 3 })

def thirdStart : Kernel := (init thirdBoot 0 0).getD thirdBoot

/-- Task 2 sends to task 3 before it is created. -/
def sendThenCreate : List Activation :=
  [callActivation 2 0 0 0, sendTo 3 0x61, callActivation 2 0 0 0]

/--
A message is lost if the tid is stored into its buffer, if it is copied over itself, or if it is
sent to a task that does not exist yet, although nobody disturbs any message.
-/
theorem delivery_not_in_order :
    (¬DeliversIf fun transition => Undisturbed transition ∧ RepliesAwaited transition ∧
      Safe transition.before transition.input ∧
      ∀ copy ∈ copied transition, Apart copy.dest copy.len copy.src copy.len) ∧
    (¬DeliversIf fun transition => Undisturbed transition ∧ RepliesAwaited transition ∧
      Safe transition.before transition.input ∧
      ∀ copy ∈ copied transition, copy.CellOutside copy.dest copy.len) ∧
    ¬DeliversIf fun transition => Undisturbed transition ∧ RepliesAwaited transition ∧
      ∀ copy ∈ copied transition, copy.Separate := by
  refine ⟨?_, ?_, ?_⟩
  · intro claimed
    have booted : init zeroedBoot 0 0 = some zeroedStart := rfl
    have runs : (record mainStep zeroedStart receiveOverTid).isSome := by decide +kernel
    have order := claimed _ _ _ _ _ _ booted (.of_isSome runs) (by decide +kernel) 0
    exact absurd order (by decide +kernel)
  · intro claimed
    have booted : init zeroedBoot 0 0 = some zeroedStart := rfl
    have runs : (record mainStep zeroedStart receiveOverMessage).isSome := by decide +kernel
    have order := claimed _ _ _ _ _ _ booted (.of_isSome runs) (by decide +kernel) 2
    exact absurd order (by decide +kernel)
  · intro claimed
    have booted : init thirdBoot 0 0 = some thirdStart := rfl
    have runs : (record mainStep thirdStart sendThenCreate).isSome := by decide +kernel
    have order := claimed _ _ _ _ _ _ booted (.of_isSome runs) (by decide +kernel) 3
    exact absurd order (by decide +kernel)

end ArmKernel
