import ArmKernel.ListKernel.Frame
import ArmKernel.ListKernel.Messages

/-!
# The send queues

A send queue changes in two ways only: the sender of a message that cannot be handed over
yet joins its end, and a `Receive` of its owner takes the sender at its head. Each of the
four ways in which a `Send` or a `Receive` succeeds is followed here to its end.
-/

namespace ArmKernel

open Placement

namespace ListKernel

variable {kernel : ListKernel} {active sender receiver task : Tid} {call : SysCall}
  {cell msg rep : Addr} {msgLen repLen : Word} {rest : List Tid}

theorem wake_sendQ (kernel : ListKernel) (event : Word) (ret : ℤ) (tasks : List Tid)
    (receiver : Tid) :
    (kernel.wake event ret tasks).lists (.sendQ receiver) = kernel.lists (.sendQ receiver) := by
  induction tasks generalizing kernel with
  | nil => rfl
  | cons first rest ih =>
      apply (ih _).trans
      simp

theorem interrupt_sendQ (kernel : ListKernel) (active : Tid) (cause : Interrupt)
    (receiver : Tid) : (kernel.interrupt active cause).lists (.sendQ receiver) =
      kernel.lists (.sendQ receiver) := by
  cases cause with
  | event event ret keep1 keep2 => simp [interrupt, handleEvent, wake_sendQ]
  | spurious => simp [interrupt, handleEvent, wake_sendQ, panic]
  | unexpected => simp [interrupt, panic]

/-- The call sends to the receiver, or is a `Receive` of the receiver. -/
def Concerns (receiver active : Tid) : SysCall → Prop
  | .send tid _ _ _ _ => tid = receiver
  | .receive _ _ _ => active = receiver
  | _ => False

theorem sysCall_sendQ (unrelated : ¬Concerns receiver active call) :
    (kernel.sysCall active call).2.lists (.sendQ receiver) = kernel.lists (.sendQ receiver) := by
  cases call with
  | create priority code =>
      simp only [sysCall, create]
      split_ifs <;> simp
  | parenttid =>
      simp only [sysCall, parenttid]
      split <;> simp
  | send tid msg msgLen rep repLen =>
      have receiverNe : receiver ≠ tid := fun same => unrelated same.symm
      simp only [sysCall, send]
      split_ifs <;> simp [receiverNe]
  | receive tid msg msgLen =>
      have receiverNe : receiver ≠ active := fun same => unrelated same.symm
      simp only [sysCall, receive]
      split
      · simp
      · split_ifs <;> simp [receiverNe]
  | reply tid rep repLen =>
      simp only [sysCall, reply]
      split_ifs <;> simp
  | awaitEvent event =>
      simp only [sysCall, awaitEvent]
      split_ifs <;> simp
  | pass => simp [sysCall]
  | mytid => simp [sysCall]
  | exit => simp [sysCall]
  | panic => simp [sysCall, panic]
  | quit => simp [sysCall]
  | unknown => simp [sysCall, panic]

/-- A `Send` is accepted unless the receiver does not exist or waits for another length. -/
theorem send_accepted_iff : (kernel.send active receiver msg msgLen rep repLen).1 = 0 ↔
    (kernel.tds receiver).tid = receiver ∧ ((kernel.tds receiver).state = .sendBlocked →
      (kernel.tds receiver).messageParams.msgLen = msgLen) := by
  rw [send]
  split_ifs with badTid waits mismatch
  · simp [badTid]
  · simp [waits, mismatch]
  · simp [not_not.mp badTid, not_not.mp mismatch]
  · simp [not_not.mp badTid, waits]

/-- A `Send` that is refused leaves the send queues. -/
theorem sysCall_refuses
    (refused : (kernel.send active receiver msg msgLen rep repLen).1 ≠ 0) (owner : Tid) :
    (kernel.sysCall active (.send receiver msg msgLen rep repLen)).2.lists (.sendQ owner) =
      kernel.lists (.sendQ owner) := by
  simp only [sysCall]
  rw [send] at refused ⊢
  split_ifs at refused ⊢ <;> simp at refused ⊢

/-- A `Reply` is accepted if the target exists and recorded the same length. -/
theorem reply_accepted_iff : (kernel.reply active task rep repLen).1 = 0 ↔
    (kernel.tds task).tid = task ∧ (kernel.tds task).messageParams.repLen = repLen := by
  rw [reply]
  split_ifs with badTid mismatch
  · simp [badTid]
  · simp [mismatch]
  · simp [not_not.mp badTid, not_not.mp mismatch]

/-- The message of a `Send` waits in the queue. -/
structure Queued (before after : ListKernel) (sender receiver : Tid) (msg : Addr)
    (msgLen : Word) (rep : Addr) (repLen : Word) : Prop where
  queue : after.lists (.sendQ receiver) = before.lists (.sendQ receiver) ++ [sender]
  mem : after.mem = before.mem
  state : (after.tds sender).state = .receiveBlocked
  params : (after.tds sender).messageParams =
    { (before.tds sender).messageParams with
      msg := msg, msgLen := msgLen, rep := rep, repLen := repLen }

theorem sysCall_queues (sameTid : (kernel.tds receiver).tid = receiver)
    (busy : (kernel.tds receiver).state ≠ .sendBlocked) :
    Queued kernel (kernel.sysCall active (.send receiver msg msgLen rep repLen)).2 active receiver
      msg msgLen rep repLen := by
  simp only [sysCall, send_queues sameTid busy, queued, KernelData.recordReply,
    KernelData.recordMessage, KernelData.setMessageParams, KernelData.setState]
  constructor <;> simp

/-- The message of a `Send` has been handed to the receiver, which waited for it. -/
structure Delivered (before after : ListKernel) (sender receiver : Tid) (msg : Addr)
    (msgLen : Word) (rep : Addr) (repLen : Word) : Prop where
  queue : after.lists (.sendQ receiver) = before.lists (.sendQ receiver)
  mem : after.mem = storeByte (memcpy before.mem (before.tds receiver).messageParams.msg msg msgLen)
    (before.tds receiver).messageParams.tid (before.tds sender).tid
  ready : (after.tds receiver).state = .ready
  returned : after.frames receiver 0 = (before.tds sender).tid.setWidth 32
  state : (after.tds sender).state = .replyBlocked
  params : (after.tds sender).messageParams =
    { (before.tds sender).messageParams with rep := rep, repLen := repLen }

theorem sysCall_delivers (receiverNe : receiver ≠ active)
    (sameTid : (kernel.tds receiver).tid = receiver)
    (waits : (kernel.tds receiver).state = .sendBlocked)
    (sameLen : (kernel.tds receiver).messageParams.msgLen = msgLen) :
    Delivered kernel (kernel.sysCall active (.send receiver msg msgLen rep repLen)).2 active
      receiver msg msgLen rep repLen := by
  simp only [sysCall, send_delivers sameTid waits sameLen, delivered, KernelData.recordReply,
    KernelData.setMessageParams, KernelData.setState]
  constructor <;> simp [receiverNe, receiverNe.symm, KernelData.modifyTd_of_ne, KernelData.setState]

/-- A `Receive` has taken the message of the first sender. -/
structure Fetched (before after : ListKernel) (receiver sender : Tid) (cell msg : Addr)
    (msgLen : Word) (rest : List Tid) : Prop where
  queue : after.lists (.sendQ receiver) = rest
  mem : after.mem = storeByte (memcpy before.mem msg (before.tds sender).messageParams.msg msgLen)
    cell (before.tds sender).tid
  ready : (after.tds receiver).state = .ready
  returned : after.frames receiver 0 = (before.tds sender).tid.setWidth 32
  state : (after.tds sender).state = .replyBlocked
  params : (after.tds sender).messageParams = (before.tds sender).messageParams

theorem sysCall_fetches (senderNe : sender ≠ active)
    (shape : kernel.lists (.sendQ active) = sender :: rest)
    (sameLen : (kernel.tds sender).messageParams.msgLen = msgLen) :
    Fetched kernel (kernel.sysCall active (.receive cell msg msgLen)).2 active sender cell msg
      msgLen rest := by
  simp only [sysCall, receive_fetches shape sameLen, fetched, KernelData.setState]
  constructor <;> simp [senderNe, senderNe.symm, KernelData.modifyTd_of_ne, KernelData.setState]

/-- A `Receive` that finds no sender waits. -/
theorem sysCall_waits (noSender : kernel.lists (.sendQ active) = []) :
    ((kernel.sysCall active (.receive cell msg msgLen)).2.tds active).state = .sendBlocked ∧
      (kernel.sysCall active (.receive cell msg msgLen)).2.lists (.sendQ active) = [] := by
  simp only [sysCall, receive_waits noSender, waiting, KernelData.recordReceive,
    KernelData.setMessageParams, KernelData.setState]
  constructor <;> simp [noSender]

/-- A reply has been handed to the task that waited for it. -/
structure Answered (before after : ListKernel) (target : Tid) (rep : Addr) (repLen : Word) :
    Prop where
  mem : after.mem = memcpy before.mem (before.tds target).messageParams.rep rep repLen
  ready : (after.tds target).state = .ready
  queue : target ∈ after.lists (.priorityQ (before.tds target).priority)
  returned : after.frames target 0 = 0

theorem sysCall_answers (targetNe : task ≠ active) (sameTid : (kernel.tds task).tid = task)
    (sameLen : (kernel.tds task).messageParams.repLen = repLen) :
    Answered kernel (kernel.sysCall active (.reply task rep repLen)).2 task rep repLen := by
  have answers : kernel.reply active task rep repLen =
      (0, ((kernel.modify (·.answer task rep repLen)).put task).put active) := by
    rw [reply, if_neg (not_not.mpr sameTid), if_neg (not_not.mpr sameLen)]
  simp only [sysCall, answers]
  constructor
  · simp
  · simp [KernelData.setState, KernelData.modifyTd_of_ne, targetNe]
  · rw [setReturnValue_lists]
    apply mem_put_of_mem
    exact mem_put (kernel.modify (·.answer task rep repLen)) task
  · simp [targetNe]

end ListKernel

end ArmKernel
