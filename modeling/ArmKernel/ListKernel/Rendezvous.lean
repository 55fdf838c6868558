import ArmKernel.Lib.Rendezvous
import ArmKernel.ListKernel.SendQueues

/-!
# The rendezvous of the kernel

`Send`, `Receive` and `Reply`, when the kernel accepts them, are the operations of a
`Rendezvous` on the states of the tasks and their send queues: a task may be told about
another one, and what another task does, in these terms alone.
-/

namespace ArmKernel

/-- What a task in the state waits for in the rendezvous. -/
def TaskState.inRendezvous : TaskState → Rendezvous.Status
  | .sendBlocked => .sendBlocked
  | .receiveBlocked => .receiveBlocked
  | .replyBlocked => .replyBlocked
  | .ready | .active | .exited | .eventBlocked => .ready

/-- The states of the tasks and their send queues are those of the rendezvous. -/
structure ShowsRendezvous (kernel : ListKernel) (rendezvous : Rendezvous Tid) : Prop where
  status : ∀ task, rendezvous.status task = (kernel.tds task).state.inRendezvous
  sendQ : ∀ task, rendezvous.sendQ task = kernel.lists (.sendQ task)

namespace ShowsRendezvous

open ListKernel

variable {kernel kernel' : ListKernel} {rendezvous : Rendezvous Tid}
  {active receiver sender target : Tid} {cell msg rep : Addr} {msgLen repLen : Word}
  {rest : List Tid}

theorem sendBlocked_iff (shows : ShowsRendezvous kernel rendezvous) (task : Tid) :
    rendezvous.status task = .sendBlocked ↔ (kernel.tds task).state = .sendBlocked := by
  rw [shows.status]
  cases (kernel.tds task).state <;> simp [TaskState.inRendezvous]

theorem setStatus (shows : ShowsRendezvous kernel rendezvous) (task : Tid) (state : TaskState)
    (states : ∀ other, (kernel'.tds other).state =
      if other = task then state else (kernel.tds other).state)
    (sendQ : ∀ other, kernel'.lists (.sendQ other) = kernel.lists (.sendQ other)) :
    ShowsRendezvous kernel' (rendezvous.setStatus task state.inRendezvous) where
  status other := by
    simp only [states, Rendezvous.setStatus_status, Function.update_apply]
    split_ifs
    · rfl
    · exact shows.status other
  sendQ other := (shows.sendQ other).trans (sendQ other).symm

theorem setSendQ (shows : ShowsRendezvous kernel rendezvous) (owner : Tid) (senders : List Tid) :
    ShowsRendezvous (kernel.setList (.sendQ owner) senders)
      (rendezvous.setSendQ owner senders) where
  status := shows.status
  sendQ other := by
    simp only [setList_lists, Rendezvous.setSendQ_sendQ, Function.update_apply,
      QueueRef.sendQ.injEq]
    split_ifs
    · rfl
    · exact shows.sendQ other

theorem handOver (shows : ShowsRendezvous kernel rendezvous)
    (states : ∀ other, (kernel'.tds other).state = if other = sender then .replyBlocked else
      if other = receiver then .ready else (kernel.tds other).state)
    (sendQ : ∀ other, kernel'.lists (.sendQ other) = kernel.lists (.sendQ other)) :
    ShowsRendezvous kernel' (rendezvous.handOver sender receiver) where
  status other := by
    simp only [states, Rendezvous.handOver_status, Function.update_apply]
    split_ifs
    · rfl
    · rfl
    · exact shows.status other
  sendQ other := (shows.sendQ other).trans (sendQ other).symm

/-- `Send`. A sender that joins the queue of the receiver does so before its state changes. -/
theorem send (shows : ShowsRendezvous kernel rendezvous)
    (accepted : (kernel.send active receiver msg msgLen rep repLen).1 = 0) :
    ShowsRendezvous (kernel.sysCall active (.send receiver msg msgLen rep repLen)).2
      (rendezvous.send active receiver) := by
  rcases send_accepted_iff.mp accepted with ⟨sameTid, sameLen⟩
  by_cases waits : (kernel.tds receiver).state = .sendBlocked
  · rw [Rendezvous.send_of_waiting ((shows.sendBlocked_iff receiver).mpr waits)]
    simp only [sysCall, send_delivers sameTid waits (sameLen waits), delivered]
    apply shows.handOver
    · intro other
      simp only [setReturnValue_data, KernelData.setReturnValue_tds, modify_data,
        KernelData.recordReply, setMessageParams_state, setState_state, put_state,
        KernelData.deliver_tds]
    · intro other
      simp
  · rw [Rendezvous.send_of_busy (mt (shows.sendBlocked_iff receiver).mp waits), shows.sendQ]
    simp only [sysCall, send_queues sameTid waits, queued]
    have joins := shows.setSendQ receiver (kernel.lists (.sendQ receiver) ++ [active])
    apply joins.setStatus active .receiveBlocked
    · intro other
      simp only [setReturnValue_data, KernelData.setReturnValue_tds, modify_data,
        KernelData.recordReply, KernelData.recordMessage, setMessageParams_state, setState_state,
        enqueue_data, setList_data]
    · intro other
      rfl

/-- `Receive` -/
theorem receive (shows : ShowsRendezvous kernel rendezvous)
    (accepted : ∀ sender rest, kernel.lists (.sendQ active) = sender :: rest →
      (kernel.tds sender).messageParams.msgLen = msgLen) :
    ShowsRendezvous (kernel.sysCall active (.receive cell msg msgLen)).2
      (rendezvous.receive active) := by
  cases shape : kernel.lists (.sendQ active) with
  | nil =>
      rw [Rendezvous.receive_of_nil ((shows.sendQ active).trans shape)]
      simp only [sysCall, receive_waits shape, waiting]
      apply shows.setStatus active .sendBlocked
      · intro other
        simp only [setReturnValue_data, KernelData.setReturnValue_tds, modify_data,
          KernelData.recordReceive, setMessageParams_state, setState_state]
      · intro other
        rfl
  | cons sender rest =>
      rw [Rendezvous.receive_of_cons ((shows.sendQ active).trans shape)]
      simp only [sysCall, receive_fetches shape (accepted sender rest shape), fetched]
      apply (shows.setSendQ active rest).handOver
      · intro other
        simp only [setReturnValue_data, KernelData.setReturnValue_tds, modify_data, put_state,
          setState_state, KernelData.fetch_tds, setList_data]
      · intro other
        simp

/-- `Reply` -/
theorem reply (shows : ShowsRendezvous kernel rendezvous)
    (activeReady : (kernel.tds active).state = .ready)
    (accepted : (kernel.reply active target rep repLen).1 = 0) :
    ShowsRendezvous (kernel.sysCall active (.reply target rep repLen)).2
      (rendezvous.reply target) := by
  rcases reply_accepted_iff.mp accepted with ⟨sameTid, sameLen⟩
  have answers : kernel.reply active target rep repLen =
      (0, ((kernel.modify (·.answer target rep repLen)).put target).put active) := by
    rw [ListKernel.reply, if_neg (not_not.mpr sameTid), if_neg (not_not.mpr sameLen)]
  simp only [sysCall, answers]
  apply shows.setStatus target .ready
  · intro other
    simp only [setReturnValue_data, KernelData.setReturnValue_tds, put_state, modify_data,
      KernelData.answer_tds]
    split_ifs with isActive
    · rfl
    · rw [isActive, activeReady]
    · rfl
    · rfl
  · intro other
    simp

/-- A receiver that waits is told the tid of the task that sends to it. -/
theorem told_of_send (shows : ShowsRendezvous kernel rendezvous) (receiverNe : receiver ≠ active)
    (waits : rendezvous.status receiver = .sendBlocked)
    (accepted : (kernel.send active receiver msg msgLen rep repLen).1 = 0) :
    ∃ source ∈ (rendezvous.send active receiver).source receiver,
      (kernel.sysCall active (.send receiver msg msgLen rep repLen)).2.frames receiver 0 =
        (kernel.tds source).tid.setWidth 32 := by
  rcases send_accepted_iff.mp accepted with ⟨sameTid, sameLen⟩
  have isBlocked := (shows.sendBlocked_iff receiver).mp waits
  refine ⟨active, Rendezvous.source_of_send waits, ?_⟩
  exact (sysCall_delivers receiverNe sameTid isBlocked (sameLen isBlocked)).returned

/-- A receiver that takes a message is told the tid of its sender. -/
theorem told_of_receive (shows : ShowsRendezvous kernel rendezvous) (senderNe : sender ≠ active)
    (shape : rendezvous.sendQ active = sender :: rest)
    (sameLen : (kernel.tds sender).messageParams.msgLen = msgLen) :
    ∃ source ∈ (rendezvous.receive active).source active,
      (kernel.sysCall active (.receive cell msg msgLen)).2.frames active 0 =
        (kernel.tds source).tid.setWidth 32 := by
  have isHead : kernel.lists (.sendQ active) = sender :: rest :=
    (shows.sendQ active).symm.trans shape
  refine ⟨sender, Rendezvous.source_of_receive shape, ?_⟩
  exact (sysCall_fetches senderNe isHead sameLen).returned

end ShowsRendezvous

end ArmKernel
