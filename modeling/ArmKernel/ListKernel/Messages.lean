import ArmKernel.ListKernel

/-!
# Sends and receives by cases

A message is handed over by whichever of `Send` and `Receive` comes second; the one that
comes first blocks its task. The equations of this file state what each call does in each
of these cases.
-/

namespace ArmKernel

namespace ListKernel

section Outcomes

variable (kernel : ListKernel) (active : Tid) (tid : Byte) (cell msg : Addr) (msgLen : Word)
  (rep : Addr) (repLen : Word)

/-- The sender has joined the send queue of the receiver. -/
def queued : ListKernel :=
  (kernel.enqueue (.sendQ tid) active).modify fun data =>
    ((data.setState active .receiveBlocked).recordMessage active msg msgLen).recordReply active
      rep repLen

/-- The message has been handed to the receiver, which waited for it. -/
def delivered : ListKernel :=
  ((kernel.modify (·.deliver active tid msg msgLen)).put tid).modify fun data =>
    (data.setState active .replyBlocked).recordReply active rep repLen

def waiting : ListKernel :=
  kernel.modify fun data =>
    (data.setState active .sendBlocked).recordReceive active cell msg msgLen

def fetched (sender : Tid) (rest : List Tid) : ListKernel :=
  (((kernel.setList (.sendQ active) rest).modify (·.fetch sender cell msg msgLen)).put
    active).modify (·.setState sender .replyBlocked)

end Outcomes

variable {kernel : ListKernel} {active sender : Tid} {tid : Byte} {cell msg rep : Addr}
  {msgLen repLen : Word} {rest : List Tid}

theorem send_queues (sameTid : (kernel.tds tid).tid = tid)
    (busy : (kernel.tds tid).state ≠ .sendBlocked) :
    kernel.send active tid msg msgLen rep repLen =
      (0, kernel.queued active tid msg msgLen rep repLen) := by
  rw [send, if_neg (not_not.mpr sameTid), if_neg busy, queued]

theorem send_delivers (sameTid : (kernel.tds tid).tid = tid)
    (waits : (kernel.tds tid).state = .sendBlocked)
    (sameLen : (kernel.tds tid).messageParams.msgLen = msgLen) :
    kernel.send active tid msg msgLen rep repLen =
      (0, kernel.delivered active tid msg msgLen rep repLen) := by
  rw [send, if_neg (not_not.mpr sameTid), if_pos waits, if_neg (not_not.mpr sameLen), delivered]

theorem receive_waits (noSender : kernel.lists (.sendQ active) = []) :
    kernel.receive active cell msg msgLen = (0, kernel.waiting active cell msg msgLen) := by
  rw [receive, noSender, waiting]

theorem receive_fetches (shape : kernel.lists (.sendQ active) = sender :: rest)
    (sameLen : (kernel.tds sender).messageParams.msgLen = msgLen) :
    kernel.receive active cell msg msgLen =
      (((kernel.tds sender).tid.toNat : ℤ),
        kernel.fetched active cell msg msgLen sender rest) := by
  simp only [receive, shape]
  exact if_neg (not_not.mpr sameLen)

/-- The first sender has a message of another length, and drops out of the queue. -/
theorem receive_refuses (shape : kernel.lists (.sendQ active) = sender :: rest)
    (mismatch : (kernel.tds sender).messageParams.msgLen ≠ msgLen) :
    kernel.receive active cell msg msgLen =
      (-1, (kernel.setList (.sendQ active) rest).put active) := by
  simp only [receive, shape]
  exact if_pos mismatch

end ListKernel

end ArmKernel
