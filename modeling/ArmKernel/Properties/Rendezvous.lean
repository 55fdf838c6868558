import ArmKernel.ListKernel.Agreement
import ArmKernel.ListKernel.Messages
import ArmKernel.MainLoop

/-!
# The two orders of a rendezvous

A message is copied by `Receive` if its sender came first and by `Send` if its receiver
did. `Met` says what a rendezvous is meant to do; either order does this, and so the two
resulting states agree but for scratch fields. The queues of the kernel then differ at
most in the back pointers of empty ones.
-/

namespace ArmKernel

open LinkedChain PartialMachine Placement

/-- A message that one task sends and another receives. -/
structure Exchange where
  sender : Tid
  receiver : Tid
  msg : Addr
  msgLen : Word
  rep : Addr
  repLen : Word
  /-- Where the receiver wants the tid of the sender and the message. -/
  cell : Addr
  buffer : Addr

namespace Exchange

def send (exchange : Exchange) : SysCall :=
  .send exchange.receiver exchange.msg exchange.msgLen exchange.rep exchange.repLen

def receive (exchange : Exchange) : SysCall :=
  .receive exchange.cell exchange.buffer exchange.msgLen

def party (exchange : Exchange) (task : Tid) : Prop :=
  task = exchange.sender ∨ task = exchange.receiver

end Exchange

/-- What a rendezvous does to the data of the kernel. -/
structure Met (exchange : Exchange) (before after : KernelData) : Prop where
  /-- The message and the tid of the sender are in the memory of the receiver. -/
  mem : after.mem = storeByte (memcpy before.mem exchange.buffer exchange.msg exchange.msgLen)
    exchange.cell (before.tds exchange.sender).tid
  /-- `Receive` returns the tid of the sender, and `Send` will return 0. -/
  received : after.frames exchange.receiver = Function.update (before.frames exchange.receiver) 0
    ((before.tds exchange.sender).tid.setWidth 32)
  sent : after.frames exchange.sender = Function.update (before.frames exchange.sender) 0 0
  /-- The receiver is ready, and the sender waits for the reply. -/
  receiver : (after.tds exchange.receiver).withoutScratch =
    { before.tds exchange.receiver with state := .ready }.withoutScratch
  sender : (after.tds exchange.sender).withoutScratch =
    { before.tds exchange.sender with
      state := .replyBlocked
      messageParams := { (before.tds exchange.sender).messageParams with
        rep := exchange.rep
        repLen := exchange.repLen } }.withoutScratch
  bitmap : after.bitmap =
    before.bitmap ||| (1#64 <<< (before.tds exchange.receiver).priority.toNat)
  /-- Every other task and everything else is as before. -/
  tds : ∀ task, ¬exchange.party task → after.tds task = before.tds task
  frames : ∀ task, ¬exchange.party task → after.frames task = before.frames task
  nextFreeTd : after.nextFreeTd = before.nextFreeTd
  lastIdleTime : after.lastIdleTime = before.lastIdleTime
  uart1Ctlr : after.uart1Ctlr = before.uart1Ctlr
  uart2Ctlr : after.uart2Ctlr = before.uart2Ctlr

theorem Met.agree {exchange : Exchange} {before after after' : KernelData}
    (met : Met exchange before after) (met' : Met exchange before after') :
    KernelData.Agree exchange.party after after' where
  erased task := by
    by_cases isParty : exchange.party task
    · rcases isParty with rfl | rfl
      · rw [met.sender, met'.sender]
      · rw [met.receiver, met'.receiver]
    · rw [met.tds task isParty, met'.tds task isParty]
  others task notParty := by rw [met.tds task notParty, met'.tds task notParty]
  rest := by
    apply KernelData.rest_of_fields
    · funext task
      by_cases isParty : exchange.party task
      · rcases isParty with rfl | rfl
        · rw [met.sent, met'.sent]
        · rw [met.received, met'.received]
      · rw [met.frames task isParty, met'.frames task isParty]
    · rw [met.bitmap, met'.bitmap]
    · rw [met.nextFreeTd, met'.nextFreeTd]
    · rw [met.lastIdleTime, met'.lastIdleTime]
    · rw [met.mem, met'.mem]
    · rw [met.uart1Ctlr, met'.uart1Ctlr]
    · rw [met.uart2Ctlr, met'.uart2Ctlr]

section Orders

variable {kernel : ListKernel} {exchange : Exchange}

/-- The sender joins the queue of the receiver, which then takes its message. -/
theorem fetched_met (distinct : exchange.sender ≠ exchange.receiver) :
    Met exchange kernel.toKernelData
      ((((kernel.queued exchange.sender exchange.receiver exchange.msg exchange.msgLen exchange.rep
        exchange.repLen).setReturnValue exchange.sender 0).fetched exchange.receiver exchange.cell
          exchange.buffer exchange.msgLen exchange.sender []).setReturnValue exchange.receiver
            (kernel.tds exchange.sender).tid.toNat).toKernelData := by
  have distinct' := distinct.symm
  simp only [ListKernel.queued, ListKernel.fetched, KernelData.recordReply,
    KernelData.recordMessage, KernelData.setMessageParams, KernelData.setState]
  constructor
  case tds =>
    intro task notParty
    rcases not_or.mp notParty with ⟨notSender, notReceiver⟩
    simp [KernelData.modifyTd_of_ne, notSender, notReceiver, KernelData.setState]
  case frames =>
    intro task notParty
    rcases not_or.mp notParty with ⟨notSender, notReceiver⟩
    simp [notSender, notReceiver]
  case nextFreeTd => rfl
  case lastIdleTime => rfl
  case uart1Ctlr => rfl
  case uart2Ctlr => rfl
  all_goals simp [KernelData.modifyTd, KernelData.setState, TaskDescriptor.withoutScratch,
    distinct, distinct']

theorem delivered_met (distinct : exchange.sender ≠ exchange.receiver) :
    Met exchange kernel.toKernelData
      ((((kernel.waiting exchange.receiver exchange.cell exchange.buffer
        exchange.msgLen).setReturnValue exchange.receiver 0).delivered exchange.sender
          exchange.receiver exchange.msg exchange.msgLen exchange.rep
            exchange.repLen).setReturnValue exchange.sender 0).toKernelData := by
  have distinct' := distinct.symm
  simp only [ListKernel.waiting, ListKernel.delivered, KernelData.recordReply,
    KernelData.recordReceive, KernelData.setMessageParams, KernelData.setState]
  constructor
  case tds =>
    intro task notParty
    rcases not_or.mp notParty with ⟨notSender, notReceiver⟩
    simp [KernelData.modifyTd_of_ne, notSender, notReceiver, KernelData.setState]
  case frames =>
    intro task notParty
    rcases not_or.mp notParty with ⟨notSender, notReceiver⟩
    simp [notSender, notReceiver]
  case nextFreeTd => rfl
  case lastIdleTime => rfl
  case uart1Ctlr => rfl
  case uart2Ctlr => rfl
  all_goals simp [KernelData.modifyTd, KernelData.setState, TaskDescriptor.withoutScratch,
    distinct, distinct']

/-- If the sender comes first, it joins the empty queue of the receiver, which then takes it. -/
theorem send_receive_met (distinct : exchange.sender ≠ exchange.receiver)
    (receiverTid : (kernel.tds exchange.receiver).tid = exchange.receiver)
    (ready : (kernel.tds exchange.receiver).state = .ready)
    (noSender : kernel.lists (.sendQ exchange.receiver) = []) :
    Met exchange kernel.toKernelData ((kernel.sysCall exchange.sender exchange.send).2.sysCall
        exchange.receiver exchange.receive).2.toKernelData ∧
      ((kernel.sysCall exchange.sender exchange.send).2.sysCall
        exchange.receiver exchange.receive).2.lists = (kernel.put exchange.receiver).lists := by
  have busy : (kernel.tds exchange.receiver).state ≠ .sendBlocked := by simp [ready]
  obtain ⟨sent, isSent⟩ : ∃ sent, sent = (kernel.queued exchange.sender exchange.receiver
      exchange.msg exchange.msgLen exchange.rep exchange.repLen).setReturnValue exchange.sender 0 :=
    ⟨_, rfl⟩
  have sends : (kernel.sysCall exchange.sender exchange.send).2 = sent := by
    rw [isSent, Exchange.send, ListKernel.sysCall, ListKernel.send_queues receiverTid busy]
  have shape : sent.lists (.sendQ exchange.receiver) = exchange.sender :: [] := by
    simp [isSent, ListKernel.queued, noSender]
  have sameLen : (sent.tds exchange.sender).messageParams.msgLen = exchange.msgLen := by
    simp [isSent, ListKernel.queued, KernelData.recordReply, KernelData.recordMessage,
      KernelData.setMessageParams]
  have sameTid : (sent.tds exchange.sender).tid = (kernel.tds exchange.sender).tid := by
    simp [isSent, ListKernel.queued, KernelData.recordReply, KernelData.recordMessage,
      KernelData.setMessageParams, KernelData.setState_tid]
  rw [sends, Exchange.receive, ListKernel.sysCall, ListKernel.receive_fetches shape sameLen,
    sameTid, isSent]
  have sameLists : Function.update kernel.lists (.sendQ exchange.receiver) [] = kernel.lists := by
    rw [← noSender, Function.update_eq_self]
  refine ⟨fetched_met distinct, ?_⟩
  simp [ListKernel.queued, ListKernel.fetched, KernelData.recordReply, KernelData.recordMessage,
    KernelData.setMessageParams, KernelData.setState, KernelData.modifyTd_of_ne distinct.symm,
    sameLists]

/-- If the receiver comes first, it waits, and the sender hands it the message. -/
theorem receive_send_met (distinct : exchange.sender ≠ exchange.receiver)
    (receiverTid : (kernel.tds exchange.receiver).tid = exchange.receiver)
    (noSender : kernel.lists (.sendQ exchange.receiver) = []) :
    Met exchange kernel.toKernelData ((kernel.sysCall exchange.receiver exchange.receive).2.sysCall
        exchange.sender exchange.send).2.toKernelData ∧
      ((kernel.sysCall exchange.receiver exchange.receive).2.sysCall
        exchange.sender exchange.send).2.lists = (kernel.put exchange.receiver).lists := by
  obtain ⟨waits, isWaits⟩ : ∃ waits, waits = (kernel.waiting exchange.receiver exchange.cell
      exchange.buffer exchange.msgLen).setReturnValue exchange.receiver 0 := ⟨_, rfl⟩
  have receives : (kernel.sysCall exchange.receiver exchange.receive).2 = waits := by
    rw [isWaits, Exchange.receive, ListKernel.sysCall, ListKernel.receive_waits noSender]
  have td : waits.tds exchange.receiver = { kernel.tds exchange.receiver with
      state := .sendBlocked
      messageParams := { (kernel.tds exchange.receiver).messageParams with
        tid := exchange.cell
        msg := exchange.buffer
        msgLen := exchange.msgLen } } := by
    simp [isWaits, ListKernel.waiting, KernelData.recordReceive, KernelData.setMessageParams,
      KernelData.setState]
  rw [receives, Exchange.send, ListKernel.sysCall, ListKernel.send_delivers
    (by rw [td]; exact receiverTid) (by rw [td]) (by rw [td]), isWaits]
  refine ⟨delivered_met distinct, ?_⟩
  simp [ListKernel.waiting, ListKernel.delivered, KernelData.recordReceive,
    KernelData.setMessageParams, KernelData.setState]

end Orders

/-- A task that runs, in no queue, and is about to make a call. -/
structure AboutToCall (kernel : Kernel) (task : Tid) (req : Word) (call : SysCall) : Prop where
  isCreated : Created kernel.nextFreeTd task
  ready : (kernel.tds task).state = .ready
  unqueued : Unqueued kernel task
  decoded : decodeSysCall kernel.toKernelData task req = call

/-- The two kernels differ at most in scratch fields of the parties and in the back pointers
of empty queues. -/
structure Kernel.Agree (exempt : Tid → Prop) (kernel kernel' : Kernel) : Prop where
  data : KernelData.Agree exempt kernel.toKernelData kernel'.toKernelData
  tasks : ∀ ctx, Live kernel.nextFreeTd ctx →
    queueTasks kernel'.heap ctx = queueTasks kernel.heap ctx
  queue : ∀ ctx, Live kernel.nextFreeTd ctx →
    (kernel'.heap.queue ctx).front = (kernel.heap.queue ctx).front ∧
      (kernel'.heap.queue ctx).elements = (kernel.heap.queue ctx).elements ∧
      (queueTasks kernel.heap ctx ≠ [] →
        (kernel'.heap.queue ctx).back = (kernel.heap.queue ctx).back)
  node : ∀ kind task, Created kernel.nextFreeTd task →
    kernel'.heap.node ⟨kind, task⟩ = kernel.heap.node ⟨kind, task⟩

section Kernels

variable {kernel kernel' : Kernel} {model model' : ListKernel} {exempt : Tid → Prop}
  {active waiter task : Tid} {call : SysCall} {req : Word}

theorem Refines.agree (refines : Refines model.nextFreeTd kernel model)
    (refines' : Refines model.nextFreeTd kernel' model') (agree : model.Agree exempt model') :
    kernel.Agree exempt kernel' := by
  have next : kernel.nextFreeTd = model.nextFreeTd := congrArg KernelData.nextFreeTd refines.data
  have holds' := refines'.holds
  rw [agree.lists] at holds'
  refine ⟨?_, ?_, ?_, ?_⟩
  · rw [refines.data, refines'.data]
    exact agree.data
  · intro ctx isLive
    rw [next] at isLive
    rw [refines.queueTasks_eq ctx isLive, holds'.queueTasks_eq isLive]
  · intro ctx isLive
    rw [next] at isLive
    rcases QueueHeap.Models.queue_eq refines.holds holds' isLive with ⟨front, elements, back⟩
    rw [refines.queueTasks_eq ctx isLive]
    exact ⟨front, elements, fun nonempty => back trivial (by simpa [nodesOf] using nonempty)⟩
  · intro kind task isCreated
    rw [next] at isCreated
    exact QueueHeap.Models.node_eq refines.holds holds' isCreated

theorem AboutToCall.running (about : AboutToCall kernel task req call)
    (isMatched : Matched kernel model) : Running model.nextFreeTd task model := by
  rcases isMatched with ⟨refines, sound⟩
  refine ⟨sound, ?_, (refines.unqueued_iff sound).mp about.unqueued, ?_⟩
  · rw [← congrArg KernelData.nextFreeTd refines.data]
    exact about.isCreated
  · rw [← refines.sameTds]
    exact about.ready

/-- The call of one task leaves another one that is about to make a call. -/
theorem Refines.handle_call (refines : Refines model.nextFreeTd kernel model)
    (running : Running model.nextFreeTd active model)
    (other : Running model.nextFreeTd waiter model) (waiterNe : waiter ≠ active)
    (isCall : decodeSysCall kernel.toKernelData active req = call)
    (safe : SafeCall model.toKernelData call) (noPartner : ¬partner model active call waiter)
    (sameNext : (model.sysCall active call).2.nextFreeTd = model.nextFreeTd) :
    ∃ kernel', handle kernel active (.swi req) = some ((model.sysCall active call).1, kernel') ∧
      Refines model.nextFreeTd kernel' (model.sysCall active call).2 ∧
      Running model.nextFreeTd waiter (model.sysCall active call).2 ∧
      (model.sysCall active call).2.frames waiter = model.frames waiter := by
  rcases refines.handleSysCall running safe with ⟨kernel', done, refines'⟩
  have sound := running.sysCall safe
  rw [sameNext] at refines' sound
  obtain ⟨touched, isTouched⟩ : ∃ touched : Tid → Prop, ∀ task, touched task ↔ task ≠ waiter :=
    ⟨(· ≠ waiter), fun _ => Iff.rfl⟩
  have partners : ∀ task, partner model active call task → touched task := by
    intro task isPartner
    rw [isTouched]
    rintro rfl
    exact noPartner isPartner
  have untouched := sysCall_touches ((isTouched active).mpr waiterNe.symm) partners waiter
    fun isWaiter => (isTouched waiter).mp isWaiter rfl
  refine ⟨kernel', ?_, refines', other.untouched untouched sound, untouched.frame⟩
  rw [handle, isCall]
  exact done

theorem decodeSysCall_congr {data data' : KernelData} (frame : data'.frames task = data.frames task)
    (mem : data'.mem = data.mem) (req : Word) :
    decodeSysCall data' task req = decodeSysCall data task req := by
  simp only [decodeSysCall, frame, mem]

end Kernels

/-- The next task that runs answers the sender. -/
def AnswersNext (kernel : Kernel) (activation : Activation) (sender : Tid) : Prop :=
  ∃ active entered rep repLen, kernelEntry kernel activation = some (active, entered) ∧
    activation.trap.call entered.toKernelData active = some (.reply sender rep repLen)

section Answers

variable {kernel kernel' : Kernel} {model model' : ListKernel} {exempt : Tid → Prop}
  {activation : Activation} {sender : Tid}

theorem Matched.safe_of_answers (isMatched : Matched kernel model)
    (isCreated : Created model.nextFreeTd sender)
    (blocked : (model.tds sender).state = .replyBlocked)
    (answers : AnswersNext kernel activation sender) : ArmKernel.Safe kernel activation := by
  rcases answers with ⟨active, entered, rep, repLen, enters, isReply⟩
  intro active' entered' call enters' isCall
  rcases Prod.mk.inj (Option.some.inj (enters.symm.trans enters')) with ⟨rfl, rfl⟩
  rcases Option.some.inj (isReply.symm.trans isCall) with rfl
  rcases isMatched.entered enters with ⟨entered', runs, -, refines, -⟩
  have sameNext := ListKernel.entry_nextFreeTd runs
  have activeNe : active ≠ sender := entry_ne_of_state runs isMatched.sound (by simp [blocked])
  have untouched := entry_untouched runs activeNe
  rw [refines.data]
  refine fun _ => ⟨?_, fun _ => ?_⟩
  · rwa [sameNext]
  · rw [untouched.td, blocked]

theorem Matched.answers_agree (isMatched : Matched kernel model)
    (isMatched' : Matched kernel' model') (agree : model.Agree exempt model')
    (isCreated : Created model.nextFreeTd sender)
    (blocked : (model.tds sender).state = .replyBlocked)
    (answers : AnswersNext kernel activation sender) :
    ∃ answered answered', ArmKernel.loopBody kernel activation = some (false, answered) ∧
      ArmKernel.loopBody kernel' activation = some (false, answered') ∧
      answered.Agree exempt answered' := by
  have safe := isMatched.safe_of_answers isCreated blocked answers
  rcases answers with ⟨active, entered, rep, repLen, enters, isReply⟩
  rcases isMatched.entered enters with ⟨entered₁, runs, -, refines, -⟩
  rw [refines.data] at isReply
  rcases agree.entry runs with ⟨entered₂, runs', agree'⟩
  have answers' : AnswersNext kernel' activation sender := by
    rcases isMatched'.kernelEntry runs' with ⟨kernel'', enters', -, refines', -⟩
    refine ⟨active, kernel'', rep, repLen, enters', ?_⟩
    rw [refines'.data, agree'.call_eq, isReply]
  have blocked' : (model'.tds sender).state = .replyBlocked :=
    (agree.data.field TaskDescriptor.state (fun _ => rfl) sender).trans blocked
  have safe' := isMatched'.safe_of_answers (agree.data.nextFreeTd ▸ isCreated) blocked' answers'
  rcases agree.step runs isReply with ⟨sameStop, agree''⟩
  have goesOn : (model.step activation).1 = false := by
    rw [ListKernel.step_of_entry runs, ListKernel.handle_of_call isReply]
    rfl
  rcases isMatched.loopBody safe with ⟨answered, done, answeredMatched⟩
  rcases isMatched'.loopBody safe' with ⟨answered', done', answeredMatched'⟩
  rw [goesOn] at done sameStop
  rw [sameStop] at done'
  have refines' := answeredMatched'.refines
  rw [agree''.data.nextFreeTd] at refines'
  exact ⟨answered, answered', done, done', answeredMatched.refines.agree refines' agree''⟩

end Answers

section Handling

variable {kernel : Kernel} {model : ListKernel} {exchange : Exchange} {sendReq receiveReq : Word}

theorem Refines.send_receive (refines : Refines model.nextFreeTd kernel model)
    (senderRuns : Running model.nextFreeTd exchange.sender model)
    (receiverRuns : Running model.nextFreeTd exchange.receiver model)
    (distinct : exchange.sender ≠ exchange.receiver)
    (sends : decodeSysCall model.toKernelData exchange.sender sendReq = exchange.send)
    (receives : decodeSysCall model.toKernelData exchange.receiver receiveReq = exchange.receive) :
    ∃ sent first, handle kernel exchange.sender (.swi sendReq) = some (false, sent) ∧
      handle sent exchange.receiver (.swi receiveReq) = some (false, first) ∧
      Matched first ((model.sysCall exchange.sender exchange.send).2.sysCall
        exchange.receiver exchange.receive).2 := by
  have receiverTid := receiverRuns.sound.tid receiverRuns.isCreated
  have busy : (model.tds exchange.receiver).state ≠ .sendBlocked := by simp [receiverRuns.ready]
  have sentNext : (model.sysCall exchange.sender exchange.send).2.nextFreeTd = model.nextFreeTd :=
    ListKernel.send_nextFreeTd model _ _ _ _ _ _
  have sentMem : (model.sysCall exchange.sender exchange.send).2.mem = model.mem := by
    rw [Exchange.send, ListKernel.sysCall, ListKernel.send_queues receiverTid busy]
    rfl
  have safeSend : SafeCall model.toKernelData exchange.send := fun _ => receiverRuns.isCreated
  have noPartner : ¬partner model exchange.sender exchange.send exchange.receiver :=
    fun isPartner => busy isPartner.2.2.1
  rw [← refines.data] at sends
  obtain ⟨sent, sendDone, sentRefines, receiverRuns', receiverFrame⟩ :=
    refines.handle_call senderRuns receiverRuns distinct.symm sends safeSend noPartner sentNext
  rw [← sentNext] at sentRefines receiverRuns'
  have safe : SafeCall (model.sysCall exchange.sender exchange.send).2.toKernelData
    exchange.receive := trivial
  rcases sentRefines.handleSysCall receiverRuns' safe with ⟨first, done, firstRefines⟩
  refine ⟨sent, first, sendDone, ?_, firstRefines, receiverRuns'.sysCall safe⟩
  rw [handle, sentRefines.data, decodeSysCall_congr receiverFrame sentMem, receives]
  exact done

theorem Refines.receive_send (refines : Refines model.nextFreeTd kernel model)
    (senderRuns : Running model.nextFreeTd exchange.sender model)
    (receiverRuns : Running model.nextFreeTd exchange.receiver model)
    (distinct : exchange.sender ≠ exchange.receiver)
    (noSender : model.lists (.sendQ exchange.receiver) = [])
    (sends : decodeSysCall model.toKernelData exchange.sender sendReq = exchange.send)
    (receives : decodeSysCall model.toKernelData exchange.receiver receiveReq = exchange.receive) :
    ∃ waits second, handle kernel exchange.receiver (.swi receiveReq) = some (false, waits) ∧
      handle waits exchange.sender (.swi sendReq) = some (false, second) ∧
      Matched second ((model.sysCall exchange.receiver exchange.receive).2.sysCall
        exchange.sender exchange.send).2 := by
  have waitsNext : (model.sysCall exchange.receiver exchange.receive).2.nextFreeTd =
      model.nextFreeTd := ListKernel.receive_nextFreeTd model _ _ _ _
  have waitsMem : (model.sysCall exchange.receiver exchange.receive).2.mem = model.mem := by
    rw [Exchange.receive, ListKernel.sysCall, ListKernel.receive_waits noSender]
    rfl
  have safeReceive : SafeCall model.toKernelData exchange.receive := trivial
  have noPartner : ¬partner model exchange.receiver exchange.receive exchange.sender :=
    fun isPartner => senderRuns.absent _ (List.mem_of_head? isPartner)
  rw [← refines.data] at receives
  obtain ⟨waits, waitsDone, waitsRefines, senderRuns', senderFrame⟩ :=
    refines.handle_call receiverRuns senderRuns distinct receives safeReceive noPartner waitsNext
  rw [← waitsNext] at waitsRefines senderRuns'
  have safe : SafeCall (model.sysCall exchange.receiver exchange.receive).2.toKernelData
      exchange.send := fun _ => by
    rw [waitsNext]
    exact receiverRuns.isCreated
  rcases waitsRefines.handleSysCall senderRuns' safe with ⟨second, done, secondRefines⟩
  refine ⟨waits, second, waitsDone, ?_, secondRefines, senderRuns'.sysCall safe⟩
  rw [handle, waitsRefines.data, decodeSysCall_congr senderFrame waitsMem, sends]
  exact done

end Handling

/--
The two orders of a rendezvous agree: both do what a rendezvous is meant to do, the
receiver is the last task of its ready queue, and the results differ at most in scratch
fields and in back pointers of empty queues. A reply that follows preserves this.
-/
theorem rendezvous_orders_agree {kernel : Kernel} {model : ListKernel} {exchange : Exchange}
    {sendReq receiveReq : Word} (isMatched : Matched kernel model)
    (distinct : exchange.sender ≠ exchange.receiver)
    (sender : AboutToCall kernel exchange.sender sendReq exchange.send)
    (receiver : AboutToCall kernel exchange.receiver receiveReq exchange.receive)
    (noSender : queueTasks kernel.heap (.sendQ exchange.receiver) = []) :
    ∃ sent first waits second,
      handle kernel exchange.sender (.swi sendReq) = some (false, sent) ∧
      handle sent exchange.receiver (.swi receiveReq) = some (false, first) ∧
      handle kernel exchange.receiver (.swi receiveReq) = some (false, waits) ∧
      handle waits exchange.sender (.swi sendReq) = some (false, second) ∧
      Met exchange kernel.toKernelData first.toKernelData ∧
      Met exchange kernel.toKernelData second.toKernelData ∧
      queueTasks first.heap (.priorityQ (kernel.tds exchange.receiver).priority) =
        queueTasks kernel.heap (.priorityQ (kernel.tds exchange.receiver).priority) ++
          [exchange.receiver] ∧
      (∀ ctx, Live kernel.nextFreeTd ctx →
        ctx ≠ .priorityQ (kernel.tds exchange.receiver).priority →
        queueTasks first.heap ctx = queueTasks kernel.heap ctx) ∧
      first.Agree exchange.party second ∧
      ∀ activation, AnswersNext first activation exchange.sender →
        ∃ answered answered', loopBody first activation = some (false, answered) ∧
          loopBody second activation = some (false, answered') ∧
          answered.Agree exchange.party answered' := by
  rcases isMatched with ⟨refines, sound⟩
  have senderRuns := sender.running ⟨refines, sound⟩
  have receiverRuns := receiver.running ⟨refines, sound⟩
  have receiverTid := sound.tid receiverRuns.isCreated
  have isLive : Live model.nextFreeTd (.sendQ exchange.receiver) := receiverRuns.isCreated
  rw [refines.queueTasks_eq _ isLive] at noSender
  have sends := sender.decoded
  have receives := receiver.decoded
  rw [refines.data] at sends receives
  obtain ⟨sent, first, sendDone, firstDone, firstMatched⟩ :=
    refines.send_receive senderRuns receiverRuns distinct sends receives
  obtain ⟨waits, second, waitsDone, secondDone, secondMatched⟩ :=
    refines.receive_send senderRuns receiverRuns distinct noSender sends receives
  obtain ⟨firstMet, firstLists⟩ :=
    send_receive_met distinct receiverTid receiverRuns.ready noSender
  rcases receive_send_met distinct receiverTid noSender with ⟨secondMet, secondLists⟩
  have agree := firstMet.agree secondMet
  have agree : ListKernel.Agree exchange.party
      ((model.sysCall exchange.sender exchange.send).2.sysCall exchange.receiver exchange.receive).2
      ((model.sysCall exchange.receiver exchange.receive).2.sysCall exchange.sender
        exchange.send).2 := ⟨secondLists.trans firstLists.symm, firstMet.agree secondMet⟩
  have secondRefines := secondMatched.refines
  rw [agree.data.nextFreeTd] at secondRefines
  have firstTasks : ∀ ctx, Live model.nextFreeTd ctx →
      queueTasks first.heap ctx = (model.put exchange.receiver).lists ctx := by
    intro ctx isLive
    rw [← firstLists]
    exact firstMatched.refines.queueTasks_eq ctx (firstMet.nextFreeTd ▸ isLive)
  have next : kernel.nextFreeTd = model.nextFreeTd := congrArg KernelData.nextFreeTd refines.data
  refine ⟨sent, first, waits, second, sendDone, firstDone, waitsDone, secondDone, ?_, ?_, ?_, ?_,
    firstMatched.refines.agree secondRefines agree, fun activation answers => ?_⟩
  · rw [refines.data, firstMatched.refines.data]
    exact firstMet
  · rw [refines.data, secondRefines.data]
    exact secondMet
  · have readyLive : Live model.nextFreeTd (.priorityQ (model.tds exchange.receiver).priority) :=
      sound.inRange receiverRuns.isCreated
    rw [refines.sameTds, firstTasks _ readyLive, refines.queueTasks_eq _ readyLive,
      ListKernel.put_lists, Function.update_self]
  · intro ctx ctxLive ctxNe
    rw [next] at ctxLive
    rw [refines.sameTds] at ctxNe
    rw [firstTasks _ ctxLive, refines.queueTasks_eq _ ctxLive, ListKernel.put_lists,
      Function.update_of_ne ctxNe]
  · have blocked := congrArg TaskDescriptor.state firstMet.sender
    exact firstMatched.answers_agree secondMatched agree
      (firstMet.nextFreeTd ▸ senderRuns.isCreated) blocked answers

/-- A machine that has the arguments of a `Send` of four bytes at address 0, and those of a
`Receive` where the saved registers r1 and r2 of the first tasks will be. -/
def exchangeBoot : Kernel :=
  { zeroedBoot with
    frames := fun _ slot => if slot = 1 then 0x300 else if slot = 2 then 4 else 0
    mem := storeWord (storeWord (fun _ => 0) 4 0x200) 8 4 }

def fourBytes : Exchange where
  sender := idleTaskTid
  receiver := 0
  msg := 0x200
  msgLen := 4
  rep := 0
  repLen := 0
  cell := 0
  buffer := 0x300

/-- The lists after `scheduler_get` has returned both tasks. -/
def bothTaken : ListKernel :=
  ((ListKernel.init exchangeBoot.toKernelData 0 0).take 1 []).take 28 []

theorem rendezvous_orders_agree_fourBytes : ∃ kernel first second : Kernel,
    Met fourBytes kernel.toKernelData first.toKernelData ∧
    Met fourBytes kernel.toKernelData second.toKernelData ∧ first.Agree fourBytes.party second := by
  rcases init_matched exchangeBoot 0 0 with ⟨start, -, isMatched⟩
  have gotFirst : (ListKernel.init exchangeBoot.toKernelData 0 0).get = some (0, _) := rfl
  rcases isMatched.refines.schedulerGet gotFirst isMatched.sound with ⟨_, -, refines⟩
  have firstRuns := isMatched.sound.get gotFirst
  have gotIdle : ((ListKernel.init exchangeBoot.toKernelData 0 0).take 1 []).get =
    some (idleTaskTid, bothTaken) := rfl
  rcases refines.schedulerGet gotIdle firstRuns.sound with ⟨kernel, -, refines'⟩
  have idleRuns := firstRuns.sound.get gotIdle
  have noFirst : Absent bothTaken.lists 0 := firstRuns.absent.sublist (List.nil_sublist _)
  have next : kernel.nextFreeTd = 2 := congrArg KernelData.nextFreeTd refines'.data
  have sends : AboutToCall kernel fourBytes.sender 5 fourBytes.send :=
    { isCreated := by rw [next]; decide
      ready := by rw [refines'.sameTds]; exact idleRuns.ready
      unqueued := (refines'.unqueued_iff idleRuns.sound).mpr idleRuns.absent
      decoded := by rw [refines'.data]; decide +kernel }
  have receives : AboutToCall kernel fourBytes.receiver 6 fourBytes.receive :=
    { isCreated := by rw [next]; decide
      ready := by rw [refines'.sameTds]; rfl
      unqueued := (refines'.unqueued_iff idleRuns.sound).mpr noFirst
      decoded := by rw [refines'.data]; decide +kernel }
  have noSender : queueTasks kernel.heap (.sendQ fourBytes.receiver) = [] := by
    have isLive : Live 2 (.sendQ fourBytes.receiver) := (by decide : Created 2 0)
    rw [refines'.queueTasks_eq _ isLive]
    decide +kernel
  have isMatched' : Matched kernel bothTaken := ⟨refines', idleRuns.sound⟩
  obtain ⟨_, first, _, second, -, -, -, -, firstMet, secondMet, -, -, agree, -⟩ :=
    rendezvous_orders_agree isMatched' (by decide) sends receives noSender
  exact ⟨kernel, first, second, firstMet, secondMet, agree⟩

end ArmKernel
