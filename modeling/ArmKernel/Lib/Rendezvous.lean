import Mathlib.Logic.Function.Basic

/-!
# Rendezvous

Tasks that pass messages by `send`, `receive` and `reply`. A message is handed over when its
sender has sent it and its receiver receives, whichever comes second, and whoever comes first
waits. The sender waits on until it is answered, so it has one message under way at a time.

What the messages say is left out. An operation is called by a task that is ready.
-/

universe u

/-- What a task waits for, named as its state is: it is blocked until another task sends to it,
receives its message or replies to it. -/
inductive Rendezvous.Status where
  | ready
  | sendBlocked
  | receiveBlocked
  | replyBlocked
  deriving DecidableEq

/-- The state of the tasks, for each the senders whose messages it has not received, in order,
and the sender whose message was handed to it last. -/
structure Rendezvous (Task : Type u) where
  status : Task → Rendezvous.Status
  sendQ : Task → List Task
  source : Task → Option Task

namespace Rendezvous

variable {Task : Type u}

/-- Nothing has been sent. -/
def idle : Rendezvous Task where
  status _ := .ready
  sendQ _ := []
  source _ := none

variable [DecidableEq Task]

def setStatus (rendezvous : Rendezvous Task) (task : Task) (status : Status) : Rendezvous Task :=
  { rendezvous with status := Function.update rendezvous.status task status }

def setSendQ (rendezvous : Rendezvous Task) (receiver : Task) (senders : List Task) :
    Rendezvous Task :=
  { rendezvous with sendQ := Function.update rendezvous.sendQ receiver senders }

/-- The message of `sender` is handed to `receiver`. -/
def handOver (rendezvous : Rendezvous Task) (sender receiver : Task) : Rendezvous Task :=
  { (rendezvous.setStatus receiver .ready).setStatus sender .replyBlocked with
    source := Function.update rendezvous.source receiver (some sender) }

def send (rendezvous : Rendezvous Task) (sender receiver : Task) : Rendezvous Task :=
  if rendezvous.status receiver = .sendBlocked then
    rendezvous.handOver sender receiver
  else
    (rendezvous.setSendQ receiver (rendezvous.sendQ receiver ++ [sender])).setStatus sender
      .receiveBlocked

def receive (rendezvous : Rendezvous Task) (receiver : Task) : Rendezvous Task :=
  match rendezvous.sendQ receiver with
  | [] => rendezvous.setStatus receiver .sendBlocked
  | sender :: rest => (rendezvous.setSendQ receiver rest).handOver sender receiver

def reply (rendezvous : Rendezvous Task) (target : Task) : Rendezvous Task :=
  rendezvous.setStatus target .ready

section Fields

variable (rendezvous : Rendezvous Task) (task peer : Task)

@[simp]
theorem setStatus_status (status : Status) :
    (rendezvous.setStatus task status).status = Function.update rendezvous.status task status :=
  rfl

@[simp]
theorem setSendQ_sendQ (senders : List Task) :
    (rendezvous.setSendQ task senders).sendQ = Function.update rendezvous.sendQ task senders := rfl

@[simp]
theorem handOver_status : (rendezvous.handOver task peer).status =
    Function.update (Function.update rendezvous.status peer .ready) task .replyBlocked := rfl

end Fields

variable {rendezvous : Rendezvous Task} {task peer : Task} {rest : List Task}

theorem send_of_waiting (waits : rendezvous.status peer = .sendBlocked) :
    rendezvous.send task peer = rendezvous.handOver task peer :=
  if_pos waits

theorem send_of_busy (busy : rendezvous.status peer ≠ .sendBlocked) :
    rendezvous.send task peer = (rendezvous.setSendQ peer
      (rendezvous.sendQ peer ++ [task])).setStatus task .receiveBlocked :=
  if_neg busy

theorem receive_of_nil (noSender : rendezvous.sendQ task = []) :
    rendezvous.receive task = rendezvous.setStatus task .sendBlocked := by
  rw [receive, noSender]

theorem receive_of_cons (shape : rendezvous.sendQ task = peer :: rest) :
    rendezvous.receive task = (rendezvous.setSendQ task rest).handOver peer task := by
  simp only [receive, shape]

/-- The states of two tasks and their queues. -/
structure Pair (rendezvous : Rendezvous Task) (task peer : Task) (status peerStatus : Status)
    (senders peerSenders : List Task) : Prop where
  distinct : task ≠ peer
  status : rendezvous.status task = status
  peerStatus : rendezvous.status peer = peerStatus
  sendQ : rendezvous.sendQ task = senders
  peerSendQ : rendezvous.sendQ peer = peerSenders

namespace Pair

variable {status peerStatus : Status} {senders peerSenders : List Task}

omit [DecidableEq Task] in
theorem swap (pair : rendezvous.Pair task peer status peerStatus senders peerSenders) :
    rendezvous.Pair peer task peerStatus status peerSenders senders :=
  ⟨pair.distinct.symm, pair.peerStatus, pair.status, pair.peerSendQ, pair.sendQ⟩

theorem setStatus (pair : rendezvous.Pair task peer status peerStatus senders peerSenders)
    (status' : Status) :
    (rendezvous.setStatus task status').Pair task peer status' peerStatus senders peerSenders where
  distinct := pair.distinct
  status := Function.update_self _ _ _
  peerStatus := (Function.update_of_ne pair.distinct.symm _ _).trans pair.peerStatus
  sendQ := pair.sendQ
  peerSendQ := pair.peerSendQ

theorem setSendQ (pair : rendezvous.Pair task peer status peerStatus senders peerSenders)
    (senders' : List Task) :
    (rendezvous.setSendQ task senders').Pair task peer status peerStatus senders' peerSenders where
  distinct := pair.distinct
  status := pair.status
  peerStatus := pair.peerStatus
  sendQ := Function.update_self _ _ _
  peerSendQ := (Function.update_of_ne pair.distinct.symm _ _).trans pair.peerSendQ

/-- The message of the first task is handed to the second one. -/
theorem handOver (pair : rendezvous.Pair task peer status peerStatus senders peerSenders) :
    (rendezvous.handOver task peer).Pair task peer .replyBlocked .ready senders peerSenders := by
  have handed := (pair.swap.setStatus .ready).swap.setStatus .replyBlocked
  exact ⟨handed.distinct, handed.status, handed.peerStatus, handed.sendQ, handed.peerSendQ⟩

theorem send_waiting (pair : rendezvous.Pair task peer status .sendBlocked senders peerSenders) :
    (rendezvous.send task peer).Pair task peer .replyBlocked .ready senders peerSenders := by
  rw [send_of_waiting pair.peerStatus]
  exact pair.handOver

theorem send_busy (pair : rendezvous.Pair task peer status peerStatus senders peerSenders)
    (busy : peerStatus ≠ .sendBlocked) :
    (rendezvous.send task peer).Pair task peer .receiveBlocked peerStatus senders
      (peerSenders ++ [task]) := by
  have notWaiting : rendezvous.status peer ≠ .sendBlocked := by rwa [pair.peerStatus]
  rw [send_of_busy notWaiting, pair.peerSendQ]
  exact (pair.swap.setSendQ (peerSenders ++ [task])).swap.setStatus .receiveBlocked

theorem receive_waits (pair : rendezvous.Pair task peer status peerStatus [] peerSenders) :
    (rendezvous.receive task).Pair task peer .sendBlocked peerStatus [] peerSenders := by
  rw [receive_of_nil pair.sendQ]
  exact pair.setStatus .sendBlocked

theorem receive_takes
    (pair : rendezvous.Pair task peer status peerStatus (peer :: senders) peerSenders) :
    (rendezvous.receive task).Pair task peer .ready .replyBlocked senders peerSenders := by
  rw [receive_of_cons pair.sendQ]
  exact (pair.setSendQ senders).swap.handOver.swap

theorem reply (pair : rendezvous.Pair task peer status peerStatus senders peerSenders) :
    (rendezvous.reply peer).Pair task peer status .ready senders peerSenders :=
  (pair.swap.setStatus .ready).swap

end Pair

/-- The receiver is told who sent the message. -/
theorem source_of_send (waits : rendezvous.status peer = .sendBlocked) :
    (rendezvous.send task peer).source peer = some task := by
  rw [send_of_waiting waits]
  exact Function.update_self _ _ _

theorem source_of_receive (shape : rendezvous.sendQ task = peer :: rest) :
    (rendezvous.receive task).source task = some peer := by
  rw [receive_of_cons shape]
  exact Function.update_self _ _ _

end Rendezvous
