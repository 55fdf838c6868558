import ArmKernel.IoServer.Output

/-!
# The input of the IO server

A byte that the RX notifier sends goes to the reader that waits, or into the ring buffer
until a reader asks for it. In every run up to the first byte that does not fit, the bytes
that readers were sent and those that are still in the ring buffer are those that arrived.

The server records one reader only. A second one that finds no input displaces the first,
which then waits for ever; as long as no reader comes while another one is recorded, none
is forgotten.
-/

namespace ArmKernel

open PartialMachine

/-- The byte that the RX notifier sends. -/
def arrivedBytes (transition : IoTransition) : List Byte :=
  match transition.input with
  | .rx data => [data 0]
  | _ => []

/-- The request that a task waits for an answer to when the server replies. -/
def requestOf (transition : IoTransition) (tid : Tid) : Option IoServerMsg :=
  match transition.input with
  | .client sender msg => if sender = tid then some msg else transition.before.pending tid
  | _ => transition.before.pending tid

/-- The replies to read requests. -/
def readReplies (transition : IoTransition) : List Reply :=
  transition.replies.filter fun reply => decide (¬transition.before.IsNotifier reply.tid) &&
    (requestOf transition reply.tid).any (·.type == .clientRead)

def readBytes (transition : IoTransition) : List Byte :=
  (readReplies transition).flatMap (·.msg.bytes)

/-- A read asks for at least one byte, and for no more than fit into a message. -/
def IoEvent.ReadsSome : IoEvent → Prop
  | .client _ msg => msg.type = .clientRead → 1 ≤ msg.len ∧ msg.len ≤ ioServerMsgMaxDataLen
  | _ => True

instance (event : IoEvent) : Decidable event.ReadsSome := by
  cases event <;> unfold IoEvent.ReadsSome <;> infer_instance

section Steps

variable {before after : IoSystem} {event : IoEvent} {replies : List Reply}

/-- The replies of a step that answer reads. -/
def toReaders (before : IoSystem) (event : IoEvent) (replies : List Reply) : List Reply :=
  replies.filter fun reply => decide (¬before.IsNotifier reply.tid) &&
    (requestOf ⟨before, event, before⟩ reply.tid).any (·.type == .clientRead)

@[simp]
theorem toReaders_nil : toReaders before event [] = [] := rfl

theorem toReaders_notifier {tid : Tid} (msg : IoServerMsg) (rest : List Reply)
    (isNotifier : before.IsNotifier tid) :
    toReaders before event (⟨tid, msg⟩ :: rest) = toReaders before event rest := by
  simp [toReaders, isNotifier]

theorem toReaders_read {tid : Tid} {request : IoServerMsg} (msg : IoServerMsg) (rest : List Reply)
    (isClient : ¬before.IsNotifier tid)
    (requested : requestOf ⟨before, event, before⟩ tid = some request)
    (isRead : request.type = .clientRead) :
    toReaders before event (⟨tid, msg⟩ :: rest) = ⟨tid, msg⟩ :: toReaders before event rest := by
  simp [toReaders, isClient, requested, isRead]

theorem toReaders_write {tid : Tid} {request : IoServerMsg} (msg : IoServerMsg) (rest : List Reply)
    (requested : requestOf ⟨before, event, before⟩ tid = some request)
    (isWrite : request.type = .clientWrite) :
    toReaders before event (⟨tid, msg⟩ :: rest) = toReaders before event rest := by
  simp [toReaders, requested, isWrite]

theorem requestOf_sender {sender : Tid} {msg : IoServerMsg} :
    requestOf ⟨before, .client sender msg, before⟩ sender = some msg := if_pos rfl

/-- What arrived before and in the step is read in the step or stays in the buffer. -/
theorem Serves.arrived (serves : Serves before event after replies) (serving : Serving before) :
    before.server.rbIn.contents ++ arrivedBytes ⟨before, event, after⟩ =
      (toReaders before event replies).flatMap (·.msg.bytes) ++ after.server.rbIn.contents := by
  have txNotifier : before.IsNotifier before.server.txNotifierTid := .inl rfl
  have rxNotifier : before.IsNotifier before.server.rxNotifierTid := .inr rfl
  cases serves with
  | park isRead isClient free empty => simp [arrivedBytes]
  | fetch isRead isClient free nonempty moved len size =>
      simp [arrivedBytes, toReaders_read _ _ isClient requestOf_sender isRead, moved]
  | write isWrite isClient free busy put size len =>
      simp [arrivedBytes, toReaders_write _ _ requestOf_sender isWrite]
  | push isWrite isClient free ready bytes outLen empty size len =>
      simp [arrivedBytes, toReaders_notifier _ _ txNotifier,
        toReaders_write _ _ requestOf_sender isWrite]
  | take nobody put size len => simp [arrivedBytes, toReaders_notifier _ _ rxNotifier, put]
  | @hand data out reply rbIn isReady bytes empty size len =>
      rcases serving.parked isReady with ⟨nothing, waits⟩
      rcases Option.isSome_iff_exists.mp waits with ⟨request, isPending⟩
      rcases serving.reads _ _ isPending with ⟨isClient, isRead⟩
      have requested : requestOf ⟨before, .rx data, before⟩ before.server.clientTid =
        some request := isPending
      simp [arrivedBytes, toReaders_read _ _ isClient requested isRead,
        toReaders_notifier _ _ rxNotifier, nothing, bytes, empty]
  | pull done all moved outLen size => simp [arrivedBytes, toReaders_notifier _ _ txNotifier]
  | await done all empty empty' size => simp [arrivedBytes]
  | store transmits next => simp [arrivedBytes]

/-- The reads that wait ask for at least one byte. -/
def PendingSome (system : IoSystem) : Prop :=
  ∀ tid request, system.pending tid = some request →
    1 ≤ request.len ∧ request.len ≤ ioServerMsgMaxDataLen

/-- The reply answers a read with at least one byte, and no more than it asked for. -/
def AnswersRead (transition : IoTransition) (reply : Reply) : Prop :=
  ∃ request, requestOf transition reply.tid = some request ∧ 1 ≤ reply.msg.len ∧
    reply.msg.len ≤ request.len ∧ reply.msg.len ≤ ioServerMsgMaxDataLen

theorem Serves.pendingSome (serves : Serves before event after replies)
    (readsSome : event.ReadsSome) (some : PendingSome before) : PendingSome after := by
  intro tid request isPending
  cases serves with
  | @park sender msg isRead isClient free empty =>
      dsimp only at isPending
      rcases eq_or_ne tid sender with rfl | tidNe
      · rw [Function.update_self, Option.some.injEq] at isPending
        exact isPending ▸ readsSome isRead
      · rw [Function.update_of_ne tidNe] at isPending
        exact some tid request isPending
  | hand isReady bytes empty size len =>
      dsimp only at isPending
      rcases eq_or_ne tid before.server.clientTid with rfl | tidNe
      · rw [Function.update_self] at isPending
        cases isPending
      · rw [Function.update_of_ne tidNe] at isPending
        exact some tid request isPending
  | _ => exact some tid request isPending

/-- Every reply to a read carries between one byte and the number requested. -/
theorem Serves.answersRead (serves : Serves before event after replies) (serving : Serving before)
    (readsSome : event.ReadsSome) (some : PendingSome before) :
    ∀ reply ∈ toReaders before event replies, AnswersRead ⟨before, event, after⟩ reply := by
  have txNotifier : before.IsNotifier before.server.txNotifierTid := .inl rfl
  have rxNotifier : before.IsNotifier before.server.rxNotifierTid := .inr rfl
  cases serves with
  | park isRead isClient free empty => exact List.forall_mem_nil _
  | @fetch sender msg reply rbIn isRead isClient free nonempty moved len size =>
      rw [toReaders_read _ _ isClient requestOf_sender isRead, toReaders_nil]
      rcases readsSome isRead with ⟨atLeast, atMost⟩
      have available : 0 < before.server.rbIn.contents.length := List.length_pos_iff.mpr nonempty
      intro answer answerMem
      rcases List.mem_singleton.mp answerMem with rfl
      refine ⟨msg, if_pos rfl, ?_, ?_, ?_⟩ <;> dsimp only <;> omega
  | write isWrite isClient free busy put size len =>
      rw [toReaders_write _ _ requestOf_sender isWrite]
      exact List.forall_mem_nil _
  | push isWrite isClient free ready bytes outLen empty size len =>
      rw [toReaders_notifier _ _ txNotifier, toReaders_write _ _ requestOf_sender isWrite]
      exact List.forall_mem_nil _
  | take nobody put size len =>
      rw [toReaders_notifier _ _ rxNotifier]
      exact List.forall_mem_nil _
  | @hand data out reply rbIn isReady bytes empty size len =>
      rcases Option.isSome_iff_exists.mp (serving.parked isReady).2 with ⟨request, isPending⟩
      rcases serving.reads _ _ isPending with ⟨isClient, isRead⟩
      have requested : requestOf ⟨before, .rx data, before⟩ before.server.clientTid =
        .some request := isPending
      rw [toReaders_read _ _ isClient requested isRead, toReaders_notifier _ _ rxNotifier,
        toReaders_nil]
      rcases some _ _ isPending with ⟨atLeast, atMost⟩
      have one : out.len = 1 := by
        have length := congrArg List.length bytes
        simpa [IoServerMsg.bytes] using length
      intro answer answerMem
      rcases List.mem_singleton.mp answerMem with rfl
      refine ⟨request, isPending, ?_, ?_, ?_⟩ <;> dsimp only <;> omega
  | pull done all moved outLen size =>
      rw [toReaders_notifier _ _ txNotifier]
      exact List.forall_mem_nil _
  | await done all empty empty' size => exact List.forall_mem_nil _
  | store transmits next => exact List.forall_mem_nil _

theorem Serves.rx_answered {data : ℕ → Byte} (serves : Serves before (.rx data) after replies)
    (serving : Serving before) :
    (replies.filter fun reply => reply.tid == before.server.rxNotifierTid).length = 1 := by
  cases serves with
  | take nobody put size len => simp
  | hand isReady bytes empty size len =>
      rcases Option.isSome_iff_exists.mp (serving.parked isReady).2 with ⟨request, isPending⟩
      have notRx : before.server.clientTid ≠ before.server.rxNotifierTid :=
        (not_or.mp (serving.reads _ _ isPending).1).2
      simp [notRx]

end Steps

/-! ## Readers -/

/-- The server has recorded that the task waits for a byte. -/
def Recorded (system : IoSystem) (tid : Tid) : Prop :=
  system.server.clientReady = true ∧ system.server.clientTid = tid

/-- Every client whose request is unanswered is recorded. -/
def NoneForgotten (system : IoSystem) : Prop :=
  ∀ tid, (system.pending tid).isSome → Recorded system tid

/-- No byte waits in the ring buffer while a reader waits for an answer. -/
def NoByteWaits (system : IoSystem) : Prop :=
  ∀ tid, (system.pending tid).isSome → system.server.rbIn.contents = []

theorem NoneForgotten.noByteWaits {system : IoSystem} (none : NoneForgotten system)
    (serving : Serving system) : NoByteWaits system :=
  fun tid waits => (serving.parked (none tid waits).1).1

/-- The event is a request to read. -/
def IoEvent.isRead : IoEvent → Bool
  | .client _ msg => msg.type == .clientRead
  | _ => false

/-- A read that finds no input finds no other reader recorded. -/
def ReadsUnrecorded (transition : IoTransition) : Prop :=
  transition.input.isRead = true → transition.before.server.rbIn.contents = [] →
    transition.before.server.clientReady = false

instance (transition : IoTransition) : Decidable (ReadsUnrecorded transition) := by
  unfold ReadsUnrecorded
  infer_instance

theorem Recorded.released {system : IoSystem} {tid : Tid} (recorded : Recorded system tid)
    (serving : Serving system) (data : ℕ → Byte) :
    ∃ system', system.step (.rx data) = some system' ∧ system'.pending tid = none := by
  rcases recorded with ⟨isReady, rfl⟩
  have room : system.server.rbIn.contents.length + 1 < ioServerBufferSize := by
    rw [(serving.parked isReady).1]
    decide
  rcases @Serving.notifRx _ data serving room with ⟨system', replies, done, serves⟩
  refine ⟨system', by rw [IoSystem.step, done]; rfl, ?_⟩
  cases serves with
  | take nobody put size len => simp [isReady] at nobody
  | hand isReady bytes empty size len => exact Function.update_self _ _ _

/-- If no reader was forgotten before a step, one is forgotten in it exactly if it is a read
that finds another reader recorded. -/
theorem Serves.noneForgotten_iff {before after : IoSystem} {event : IoEvent}
    {replies : List Reply} (serves : Serves before event after replies) (serving : Serving before)
    (none : NoneForgotten before) :
    NoneForgotten after ↔ ReadsUnrecorded ⟨before, event, after⟩ := by
  cases serves with
  | @park sender msg isRead isClient free empty =>
      constructor
      · intro noneAfter _ _
        rw [Bool.eq_false_iff]
        intro isReady
        have waits := (serving.parked isReady).2
        have clientNe : before.server.clientTid ≠ sender := by
          rintro isSender
          rw [isSender, free] at waits
          cases waits
        have stillWaits : (Function.update before.pending sender (some msg)
            before.server.clientTid).isSome := by
          rwa [Function.update_of_ne clientNe]
        exact clientNe (noneAfter _ stillWaits).2.symm
      · intro unrecorded tid waits
        have nobody : before.server.clientReady = false :=
          unrecorded (by simp [IoEvent.isRead, isRead]) empty
        dsimp only at waits
        rcases eq_or_ne tid sender with rfl | tidNe
        · exact ⟨rfl, rfl⟩
        · rw [Function.update_of_ne tidNe] at waits
          have isReady := (none tid waits).1
          rw [nobody] at isReady
          cases isReady
  | hand isReady bytes empty size len =>
      refine ⟨fun _ => nofun, fun _ tid waits => ?_⟩
      dsimp only at waits
      rcases eq_or_ne tid before.server.clientTid with rfl | tidNe
      · rw [Function.update_self] at waits
        cases waits
      · rw [Function.update_of_ne tidNe] at waits
        exact absurd (none tid waits).2.symm tidNe
  | fetch isRead isClient free nonempty moved len size =>
      exact ⟨fun _ _ empty => absurd empty nonempty, fun _ => none⟩
  | write isWrite isClient free busy put size len =>
      refine ⟨fun _ isRead => ?_, fun _ => none⟩
      simp [IoEvent.isRead, isWrite] at isRead
  | push isWrite isClient free ready bytes outLen empty size len =>
      refine ⟨fun _ isRead => ?_, fun _ => none⟩
      simp [IoEvent.isRead, isWrite] at isRead
  | take nobody put size len => exact ⟨fun _ => nofun, fun _ => none⟩
  | pull done all moved outLen size => exact ⟨fun _ => nofun, fun _ => none⟩
  | await done all empty empty' size => exact ⟨fun _ => nofun, fun _ => none⟩
  | store transmits next => exact ⟨fun _ => nofun, fun _ => none⟩

theorem noneForgotten_start (tx rx : Tid) (inBuf outBuf : ℕ → Byte) (rep : IoServerMsg) :
    NoneForgotten (IoSystem.start tx rx inBuf outBuf rep) := nofun

theorem Serving.run_answers_iff {start final : IoSystem} {trace : List IoTransition}
    (serving : Serving start) (none : NoneForgotten start)
    (run : Run IoSystem.step start trace final)
    (noExit : ∀ transition ∈ trace, transition.input.isExit = false) :
    (∀ transition ∈ trace, NoneForgotten transition.after) ↔
      ∀ transition ∈ trace, ReadsUnrecorded transition := by
  induction run with
  | nil => simp
  | cons first rest ih =>
      rename_i begun middle final event trace
      have serves := serving.serves_transition first (noExit _ List.mem_cons_self)
      have step := serves.noneForgotten_iff serving none
      rw [List.forall_mem_cons, List.forall_mem_cons, step]
      apply and_congr_right
      intro unrecorded
      exact ih (serves.serving serving) (step.mpr unrecorded)
        fun transition transitionMem => noExit transition (by simp [transitionMem])

/--
In every run from the start of the main loop: after each message no reader is forgotten, and
the next byte releases the one that is recorded, exactly if no read finds another reader
recorded.
-/
theorem run_noneForgotten_iff {final : IoSystem} {trace : List IoTransition} {tx rx : Tid}
    {inBuf outBuf : ℕ → Byte} {rep : IoServerMsg} (tidsNe : tx ≠ rx)
    (run : Run IoSystem.step (IoSystem.start tx rx inBuf outBuf rep) trace final)
    (noExit : ∀ transition ∈ trace, transition.input.isExit = false) :
    (∀ transition ∈ trace, NoneForgotten transition.after ∧
      ∀ tid, Recorded transition.after tid → ∀ data, ∃ released,
        transition.after.step (.rx data) = some released ∧ released.pending tid = none) ↔
    ∀ transition ∈ trace, ReadsUnrecorded transition := by
  have initially := serving_start tidsNe inBuf outBuf rep
  rw [← initially.run_answers_iff (noneForgotten_start _ _ _ _ _) run noExit]
  refine ⟨fun all transition transitionMem => (all transition transitionMem).1,
    fun all transition transitionMem => ⟨all transition transitionMem, ?_⟩⟩
  intro tid recorded data
  have before := run.invariant_before Serving serving_preserved noExit initially transitionMem
  exact recorded.released (before.step (run.step_of_mem transitionMem)
    (noExit transition transitionMem)) data

/-- A request of a client to read bytes. -/
def readRequest (len : ℕ) : IoServerMsg := { type := .clientRead, data := fun _ => 0, len := len }

/-- One reader waits, gets a byte, and another one comes. -/
def readerEvents : List IoEvent :=
  [.client 5 (readRequest 1), .rx fun _ => 0x61, .client 6 (readRequest 1)]

theorem run_noneForgotten_iff_readers :
    NoneForgotten
      ((traceOf IoSystem.step zeroedIo readerEvents).getLast (by decide +kernel)).after := by
  have runs : (record IoSystem.step zeroedIo readerEvents).isSome := by decide +kernel
  have tidsNe : (2 : Tid) ≠ 3 := by decide
  refine ((run_noneForgotten_iff tidsNe (Run.of_isSome runs) (by decide +kernel)).mpr ?_ _
    (List.getLast_mem _)).1
  decide +kernel

/-- Two readers come while there is no input: the first one is forgotten. -/
theorem reader_forgotten : ¬∀ (tx rx : Tid) (inBuf outBuf : ℕ → Byte) (rep : IoServerMsg)
    (final : IoSystem) (trace : List IoTransition), tx ≠ rx →
    Run IoSystem.step (IoSystem.start tx rx inBuf outBuf rep) trace final →
    (∀ transition ∈ trace, transition.input.isExit = false) →
    ∀ transition ∈ trace, NoneForgotten transition.after := by
  intro claimed
  have runs : (record IoSystem.step zeroedIo
    [.client 5 (readRequest 1), .client 6 (readRequest 1)]).isSome := by decide +kernel
  have tidsNe : (2 : Tid) ≠ 3 := by decide
  have none := claimed 2 3 _ _ _ _ _ tidsNe (Run.of_isSome runs) (by decide +kernel)
  have recorded := none _ (List.getLast_mem (by decide +kernel)) 5 (by decide +kernel)
  exact absurd recorded.2 (by decide +kernel)

section Runs

variable {final : IoSystem} {trace : List IoTransition} {tx rx : Tid} {inBuf outBuf : ℕ → Byte}
  {rep : IoServerMsg}

/--
In every run from the start of the main loop up to the first byte that does not fit: what
arrived is what readers were sent and what is still in the ring buffer; while a reader is
recorded the buffer is empty; each reader gets between one byte and the number it asked
for; and each NOTIF_RX is answered once. The run can go on with every byte that fits and
with every read. After each message every unanswered reader is recorded, and no byte waits
while a reader does, exactly if no read finds another reader recorded.
-/
theorem run_input_iff (tidsNe : tx ≠ rx)
    (run : Run IoSystem.step (IoSystem.start tx rx inBuf outBuf rep) trace final)
    (noExit : ∀ transition ∈ trace, transition.input.isExit = false)
    (readsSome : ∀ transition ∈ trace, transition.input.ReadsSome) :
    trace.flatMap arrivedBytes = trace.flatMap readBytes ++ final.server.rbIn.contents ∧
    (final.server.clientReady = true → final.server.rbIn.contents = []) ∧
    (∀ transition ∈ trace, ∀ reply ∈ readReplies transition, AnswersRead transition reply) ∧
    (∀ transition ∈ trace,
      (∀ data, transition.input = .rx data →
        (transition.repliesTo transition.before.server.rxNotifierTid).length = 1) ∧
      ∀ reply ∈ transition.replies, WaitsForReply transition reply.tid) ∧
    (∀ data, (final.step (.rx data)).isSome ↔
      final.server.rbIn.contents.length + 1 < ioServerBufferSize) ∧
    (∀ sender msg, ¬final.IsNotifier sender → final.pending sender = none →
      msg.type = .clientRead → msg.len ≤ ioServerMsgMaxDataLen →
      (final.step (.client sender msg)).isSome) ∧
    ((∀ transition ∈ trace, NoneForgotten transition.after ∧ NoByteWaits transition.after) ↔
      ∀ transition ∈ trace, ReadsUnrecorded transition) := by
  have initially : Serving (IoSystem.start tx rx inBuf outBuf rep) ∧
      PendingSome (IoSystem.start tx rx inBuf outBuf rep) := by
    refine ⟨serving_start tidsNe inBuf outBuf rep, ?_⟩
    intro tid request isPending
    simp [IoSystem.start] at isPending
  have allowed : ∀ transition ∈ trace, transition.input.isExit = false ∧
      transition.input.ReadsSome := fun transition transitionMem =>
    ⟨noExit transition transitionMem, readsSome transition transitionMem⟩
  have preserved : ∀ transition : IoTransition,
      transition.before.step transition.input = some transition.after →
      transition.input.isExit = false ∧ transition.input.ReadsSome →
      Serving transition.before ∧ PendingSome transition.before →
      Serving transition.after ∧ PendingSome transition.after := by
    rintro transition stepped ⟨isServing, readsSome⟩ ⟨serving, some⟩
    have serves := serving.serves_transition stepped isServing
    exact ⟨serves.serving serving, serves.pendingSome readsSome some⟩
  let invariant : IoSystem → Prop := fun system => Serving system ∧ PendingSome system
  have atEnd : invariant final := run.invariant preserved allowed initially
  have serving := atEnd.1
  have served : ∀ transition ∈ trace, Serving transition.before ∧ PendingSome transition.before ∧
      Serves transition.before transition.input transition.after transition.replies := by
    intro transition transitionMem
    rcases run.invariant_before invariant preserved allowed initially transitionMem with
      ⟨before, some⟩
    exact ⟨before, some, before.serves_transition (run.step_of_mem transitionMem)
      (noExit transition transitionMem)⟩
  refine ⟨?_, fun isReady => (serving.parked isReady).1, ?_, ?_, ?_, ?_, ?_⟩
  · have conserved := run.conserved invariant (·.server.rbIn.contents) arrivedBytes readBytes
      preserved (fun transition stepped isAllowed before =>
        (before.1.serves_transition stepped isAllowed.1).arrived before.1) allowed initially
    exact conserved
  · intro transition transitionMem
    rcases served transition transitionMem with ⟨before, some, serves⟩
    exact serves.answersRead before (readsSome transition transitionMem) some
  · intro transition transitionMem
    rcases served transition transitionMem with ⟨before, some, serves⟩
    refine ⟨fun data same => ?_, serves.awaited before⟩
    rw [same] at serves
    exact serves.rx_answered before
  · intro data
    rw [IoSystem.step, Option.isSome_map]
    exact serving.rx_isSome_iff
  · intro sender msg isClient free isRead inMessage
    rw [IoSystem.step, Option.isSome_map, serving.clientRead_isSome_iff isClient free isRead]
    exact (Nat.min_le_left _ _).trans inMessage
  · rw [← initially.1.run_answers_iff (noneForgotten_start _ _ _ _ _) run noExit]
    refine ⟨fun all transition transitionMem => (all transition transitionMem).1, ?_⟩
    intro all transition transitionMem
    rcases served transition transitionMem with ⟨before, -, serves⟩
    have none := all transition transitionMem
    exact ⟨none, none.noByteWaits (serves.serving before)⟩

/-- A reader waits and is handed a byte; two more bytes arrive, and one of them is read. -/
def inputEvents : List IoEvent :=
  [.client 5 (readRequest 1), .rx fun _ => 0x61, .rx fun _ => 0x62, .rx fun _ => 0x63,
    .client 5 (readRequest 1)]

theorem run_input_iff_hand :
    (traceOf IoSystem.step zeroedIo inputEvents).flatMap readBytes ++
      (finalOf IoSystem.step zeroedIo inputEvents).server.rbIn.contents = [0x61, 0x62, 0x63] ∧
    ∀ transition ∈ traceOf IoSystem.step zeroedIo inputEvents,
      NoneForgotten transition.after ∧ NoByteWaits transition.after := by
  have runs : (record IoSystem.step zeroedIo inputEvents).isSome := by decide +kernel
  have tidsNe : (2 : Tid) ≠ 3 := by decide
  rcases run_input_iff tidsNe (Run.of_isSome runs) (by decide +kernel) (by decide +kernel) with
    ⟨arrived, -, -, -, -, -, answers⟩
  exact ⟨arrived.symm.trans (by decide +kernel), answers.mpr (by decide +kernel)⟩

/-- Two readers come while there is no input, and then two bytes: the second byte waits, and so does
the first reader. -/
theorem byte_waits : ¬∀ (tx rx : Tid) (inBuf outBuf : ℕ → Byte) (rep : IoServerMsg)
    (final : IoSystem) (trace : List IoTransition), tx ≠ rx →
    Run IoSystem.step (IoSystem.start tx rx inBuf outBuf rep) trace final →
    (∀ transition ∈ trace, transition.input.isExit = false) →
    (∀ transition ∈ trace, transition.input.ReadsSome) →
    ∀ transition ∈ trace, NoByteWaits transition.after := by
  intro claimed
  have runs : (record IoSystem.step zeroedIo [.client 5 (readRequest 1), .client 6 (readRequest 1),
    .rx fun _ => 0x61, .rx fun _ => 0x62]).isSome := by decide +kernel
  have tidsNe : (2 : Tid) ≠ 3 := by decide
  have noneWaits := claimed 2 3 _ _ _ _ _ tidsNe (Run.of_isSome runs) (by decide +kernel)
    (by decide +kernel)
  have empty := noneWaits _ (List.getLast_mem (by decide +kernel)) 5 (by decide +kernel)
  exact absurd empty (by decide +kernel)

end Runs

end ArmKernel
