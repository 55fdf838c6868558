import ArmKernel.IoServer.Serving

/-!
# The output of the IO server

The bytes of the writes reach the TX notifier by two ways: it asks for them, or a write
finds it waiting. In every run up to the first write that does not fit, the bytes that it
was sent and those that are still in the ring buffer are those of the writes, in their
order, and the bytes that it stored to the data register are those that it was sent.
-/

namespace ArmKernel

open PartialMachine

/-- The bytes of the write that is taken in. -/
def writtenBytes (transition : IoTransition) : List Byte :=
  match transition.input with
  | .client _ msg => if msg.type = .clientWrite then msg.bytes else []
  | _ => []

/-- The replies to the TX notifier. -/
def repliesToTx (transition : IoTransition) : List Reply :=
  transition.repliesTo transition.before.server.txNotifierTid

def sentBytes (transition : IoTransition) : List Byte :=
  (repliesToTx transition).flatMap (·.msg.bytes)

/-- The byte that the TX notifier stores to the data register. -/
def storedBytes (transition : IoTransition) : List Byte :=
  match transition.input, transition.before.tx with
  | .store, .transmitting rep i => [rep.data i]
  | _, _ => []

/-- The bytes that the TX notifier was sent and has not yet stored. -/
def TxNotifier.remaining : TxNotifier → List Byte
  | .transmitting rep i => rep.bytes.drop i
  | _ => []

/-- The server receives a NOTIF_TX. -/
def isNotifTx (transition : IoTransition) : Bool :=
  match transition.input with
  | .tx _ => true
  | _ => false

/-- The task waits for a reply when the server replies. -/
def WaitsForReply (transition : IoTransition) (tid : Tid) : Prop :=
  if tid = transition.before.server.txNotifierTid then
    transition.before.tx = .blocked ∨ isNotifTx transition = true
  else if tid = transition.before.server.rxNotifierTid then
    ∃ data, transition.input = .rx data
  else
    (transition.before.pending tid).isSome ∨ ∃ msg, transition.input = .client tid msg

theorem waitsForReply_client {transition : IoTransition} {tid : Tid}
    (isClient : ¬transition.before.IsNotifier tid) : WaitsForReply transition tid ↔
      (transition.before.pending tid).isSome ∨ ∃ msg, transition.input = .client tid msg := by
  rcases not_or.mp isClient with ⟨notTx, notRx⟩
  rw [WaitsForReply, if_neg notTx, if_neg notRx]

section Steps

variable {before after : IoSystem} {event : IoEvent} {replies : List Reply}

/-- The replies that a step sends to the TX notifier. -/
def toTx (before : IoSystem) (replies : List Reply) : List Reply :=
  replies.filter fun reply => reply.tid == before.server.txNotifierTid

@[simp]
theorem toTx_nil : toTx before [] = [] := rfl

theorem toTx_rx (msg : IoServerMsg) (rest : List Reply)
    (tidsNe : before.server.txNotifierTid ≠ before.server.rxNotifierTid) :
    toTx before (⟨before.server.rxNotifierTid, msg⟩ :: rest) = toTx before rest := by
  simp [toTx, tidsNe.symm]

theorem toTx_client {tid : Tid} (msg : IoServerMsg) (rest : List Reply)
    (isClient : ¬before.IsNotifier tid) : toTx before (⟨tid, msg⟩ :: rest) = toTx before rest := by
  have notTx : tid ≠ before.server.txNotifierTid := (not_or.mp isClient).1
  simp [toTx, notTx]

theorem toTx_tx (msg : IoServerMsg) (rest : List Reply) :
    toTx before (⟨before.server.txNotifierTid, msg⟩ :: rest) =
      ⟨before.server.txNotifierTid, msg⟩ :: toTx before rest := by
  simp [toTx]

/-- What was written before and in the step is sent in the step or stays in the buffer. -/
theorem Serves.written (serves : Serves before event after replies) (serving : Serving before) :
    before.server.rbOut.contents ++ writtenBytes ⟨before, event, after⟩ =
      (toTx before replies).flatMap (·.msg.bytes) ++ after.server.rbOut.contents := by
  cases serves with
  | park isRead isClient free empty => simp [writtenBytes, isRead]
  | fetch isRead isClient free nonempty moved len size =>
      simp [writtenBytes, isRead, toTx_client _ _ isClient]
  | write isWrite isClient free busy put size len =>
      simp [writtenBytes, isWrite, toTx_client _ _ isClient, put]
  | push isWrite isClient free ready bytes outLen empty size len =>
      simp [writtenBytes, isWrite, toTx_tx, toTx_client _ _ isClient, serving.idle ready,
        bytes, empty]
  | take nobody put size len => simp [writtenBytes, toTx_rx _ _ serving.tids_ne]
  | hand isReady bytes empty size len =>
      rcases Option.isSome_iff_exists.mp (serving.parked isReady).2 with ⟨request, isPending⟩
      have isClient := (serving.reads _ _ isPending).1
      simp [writtenBytes, toTx_client _ _ isClient, toTx_rx _ _ serving.tids_ne]
  | pull done all moved outLen size => simp [writtenBytes, toTx_tx, moved]
  | await done all empty empty' size => simp [writtenBytes, empty, empty']
  | store transmits next => simp [writtenBytes]

/-- What was sent before and in the step is stored in the step or remains to be stored. -/
theorem Serves.stored (serves : Serves before event after replies) (serving : Serving before) :
    before.tx.remaining ++ (toTx before replies).flatMap (·.msg.bytes) =
      storedBytes ⟨before, event, after⟩ ++ after.tx.remaining := by
  cases serves with
  | park isRead isClient free empty => simp [storedBytes]
  | fetch isRead isClient free nonempty moved len size =>
      simp [storedBytes, toTx_client _ _ isClient]
  | write isWrite isClient free busy put size len =>
      simp [storedBytes, toTx_client _ _ isClient]
  | push isWrite isClient free ready bytes outLen empty size len =>
      have blocked := serving.ready_iff.mp ready
      simp [storedBytes, toTx_tx, toTx_client _ _ isClient, blocked, TxNotifier.remaining]
  | take nobody put size len => simp [storedBytes, toTx_rx _ _ serving.tids_ne]
  | hand isReady bytes empty size len =>
      rcases Option.isSome_iff_exists.mp (serving.parked isReady).2 with ⟨request, isPending⟩
      have isClient := (serving.reads _ _ isPending).1
      simp [storedBytes, toTx_client _ _ isClient, toTx_rx _ _ serving.tids_ne]
  | pull done all moved outLen size =>
      simp [storedBytes, toTx_tx, done, TxNotifier.remaining, IoServerMsg.bytes, all]
  | await done all empty empty' size =>
      simp [storedBytes, done, TxNotifier.remaining, IoServerMsg.bytes, all]
  | @store rep i transmits next =>
      have inBytes : i < rep.bytes.length := by simpa [IoServerMsg.bytes] using next
      have first : rep.bytes[i] = rep.data i := by simp [IoServerMsg.bytes]
      simp only [storedBytes, toTx_nil, transmits, TxNotifier.remaining, List.flatMap_nil,
        List.append_nil]
      rw [List.drop_eq_getElem_cons inBytes, first]
      rfl

/-- A NOTIF_TX is answered at once or leaves the TX notifier ready; a reply to a TX notifier
that was ready ends this. -/
theorem Serves.notified (serves : Serves before event after replies) (serving : Serving before) :
    (isNotifTx ⟨before, event, after⟩).toNat + before.server.txReady.toNat =
      (toTx before replies).length + after.server.txReady.toNat ∧
    ∀ reply ∈ toTx before replies, reply.msg.len ≤ ioServerMsgMaxDataLen := by
  have notReady : ∀ {rep : IoServerMsg} {i : ℕ}, before.tx = .transmitting rep i →
      before.server.txReady = false := by
    intro rep i transmits
    rw [Bool.eq_false_iff, ne_eq, serving.ready_iff, transmits]
    exact nofun
  cases serves with
  | park isRead isClient free empty => simp [isNotifTx]
  | fetch isRead isClient free nonempty moved len size =>
      simp [isNotifTx, toTx_client _ _ isClient]
  | write isWrite isClient free busy put size len => simp [isNotifTx, toTx_client _ _ isClient]
  | push isWrite isClient free ready bytes outLen empty size len =>
      simp [isNotifTx, toTx_tx, toTx_client _ _ isClient, ready, outLen]
  | take nobody put size len => simp [isNotifTx, toTx_rx _ _ serving.tids_ne]
  | hand isReady bytes empty size len =>
      rcases Option.isSome_iff_exists.mp (serving.parked isReady).2 with ⟨request, isPending⟩
      have isClient := (serving.reads _ _ isPending).1
      simp [isNotifTx, toTx_client _ _ isClient, toTx_rx _ _ serving.tids_ne]
  | pull done all moved outLen size => simp [isNotifTx, toTx_tx, notReady done, outLen]
  | await done all empty empty' size => simp [isNotifTx, notReady done]
  | store transmits next => simp [isNotifTx]

theorem Serves.busy (serves : Serves before event after replies) (serving : Serving before)
    (notifies : isNotifTx ⟨before, event, after⟩ = true) : before.server.txReady = false := by
  rw [Bool.eq_false_iff, ne_eq, serving.ready_iff]
  cases serves with
  | pull done all moved outLen size => simp [done]
  | await done all empty empty' size => simp [done]
  | _ => cases notifies

/-- In each step the TX notifier becomes or stays ready exactly if it gets no reply. -/
theorem Serves.ready_iff (serves : Serves before event after replies) (serving : Serving before) :
    after.server.txReady = true ↔
      (isNotifTx ⟨before, event, after⟩ = true ∧ toTx before replies = []) ∨
        before.server.txReady = true ∧ ¬toTx before replies ≠ [] := by
  have counts := (serves.notified serving).1
  have busy := serves.busy serving
  rw [not_not, ← List.length_eq_zero_iff]
  generalize (toTx before replies).length = sent at counts ⊢
  cases notifies : isNotifTx ⟨before, event, after⟩ <;>
    cases wasReady : before.server.txReady <;> cases isReady : after.server.txReady <;>
      simp_all <;> omega

theorem Serves.write_answered {sender : Tid} {msg : IoServerMsg}
    (serves : Serves before (.client sender msg) after replies)
    (isWrite : msg.type = .clientWrite) :
    (replies.filter fun reply => reply.tid == sender).length = 1 ∧ after.pending sender = none := by
  cases serves with
  | park isRead isClient free empty => simp [isWrite] at isRead
  | fetch isRead isClient free nonempty moved len size => simp [isWrite] at isRead
  | write isWrite isClient free busy put size len => exact ⟨by simp, free⟩
  | push isWrite isClient free ready bytes outLen empty size len =>
      have notTx : before.server.txNotifierTid ≠ sender := Ne.symm (not_or.mp isClient).1
      exact ⟨by simp [notTx], free⟩

theorem Serves.awaited (serves : Serves before event after replies) (serving : Serving before) :
    ∀ reply ∈ replies, WaitsForReply ⟨before, event, after⟩ reply.tid := by
  have rxWaits : ∀ {data after'}, WaitsForReply ⟨before, .rx data, after'⟩
      before.server.rxNotifierTid := by
    intro data after'
    rw [WaitsForReply, if_neg serving.tids_ne.symm, if_pos rfl]
    exact ⟨data, rfl⟩
  have clientWaits : ∀ {sender msg after'}, ¬before.IsNotifier sender →
      WaitsForReply ⟨before, .client sender msg, after'⟩ sender := by
    intro sender msg after' isClient
    exact (waitsForReply_client isClient).mpr (.inr ⟨msg, rfl⟩)
  cases serves with
  | park isRead isClient free empty => exact nofun
  | fetch isRead isClient free nonempty moved len size =>
      exact List.forall_mem_singleton.mpr (clientWaits isClient)
  | write isWrite isClient free busy put size len =>
      exact List.forall_mem_singleton.mpr (clientWaits isClient)
  | push isWrite isClient free ready bytes outLen empty size len =>
      refine List.forall_mem_cons.mpr ⟨?_, List.forall_mem_singleton.mpr (clientWaits isClient)⟩
      rw [WaitsForReply, if_pos rfl]
      exact .inl (serving.ready_iff.mp ready)
  | take nobody put size len => exact List.forall_mem_singleton.mpr rxWaits
  | hand isReady bytes empty size len =>
      have waits := (serving.parked isReady).2
      rcases Option.isSome_iff_exists.mp waits with ⟨request, isPending⟩
      have isClient := (serving.reads _ _ isPending).1
      refine List.forall_mem_cons.mpr ⟨?_, List.forall_mem_singleton.mpr rxWaits⟩
      exact (waitsForReply_client isClient).mpr (.inl waits)
  | pull done all moved outLen size =>
      intro reply replyMem
      rcases List.mem_singleton.mp replyMem with rfl
      rw [WaitsForReply, if_pos rfl]
      exact .inr rfl
  | await done all empty empty' size => exact nofun
  | store transmits next => exact nofun

end Steps

section Runs

variable {start final : IoSystem} {trace : List IoTransition}

/-- In every run each NOTIF_TX has got one reply, but for the last one if the TX notifier is
ready. -/
theorem Serving.run_notified (serving : Serving start)
    (run : Run IoSystem.step start trace final)
    (noExit : ∀ transition ∈ trace, transition.input.isExit = false) :
    trace.countP isNotifTx + start.server.txReady.toNat =
      (trace.flatMap repliesToTx).length + final.server.txReady.toNat := by
  induction run with
  | nil => simp
  | cons first rest ih =>
      rename_i begun middle final event trace
      have served := serving.serves_transition first (noExit _ List.mem_cons_self)
      have later := ih (served.serving serving)
        fun transition transitionMem => noExit transition (by simp [transitionMem])
      have step := (served.notified serving).1
      simp only [List.countP_cons, List.flatMap_cons, List.length_append]
      simp only [Bool.toNat, Bool.cond_eq_ite] at step later ⊢
      simp only [repliesToTx, IoTransition.repliesTo, toTx] at step later ⊢
      omega

/--
In every run from the start of the main loop up to the first write that does not fit: what
was written is what was sent to the TX notifier and what is still in the ring buffer; the
TX notifier is ready exactly if its last NOTIF_TX is unanswered, and then the buffer is
empty; it gets at most one reply for each NOTIF_TX, of at most 31 bytes; each write is
answered once, and no task that does not wait for a reply gets one; and the TX notifier
stores the bytes that it was sent. The run can go on with every write that fits.
-/
theorem run_output {tx rx : Tid} {inBuf outBuf : ℕ → Byte} {rep : IoServerMsg} (tidsNe : tx ≠ rx)
    (run : Run IoSystem.step (IoSystem.start tx rx inBuf outBuf rep) trace final)
    (noExit : ∀ transition ∈ trace, transition.input.isExit = false) :
    trace.flatMap writtenBytes = trace.flatMap sentBytes ++ final.server.rbOut.contents ∧
    (final.server.txReady = true ↔ SinceLast
      (fun transition => isNotifTx transition = true ∧ repliesToTx transition = [])
      (fun transition => repliesToTx transition ≠ []) trace) ∧
    (final.server.txReady = true → final.server.rbOut.contents = []) ∧
    (trace.countP isNotifTx =
        (trace.flatMap repliesToTx).length + final.server.txReady.toNat ∧
      ∀ transition ∈ trace, (repliesToTx transition).length ≤ 1 ∧
        ∀ reply ∈ repliesToTx transition, reply.msg.len ≤ ioServerMsgMaxDataLen) ∧
    (∀ transition ∈ trace,
      (∀ sender msg, transition.input = .client sender msg → msg.type = .clientWrite →
        (transition.repliesTo sender).length = 1 ∧ transition.after.pending sender = none) ∧
      ∀ reply ∈ transition.replies, WaitsForReply transition reply.tid) ∧
    trace.flatMap sentBytes = trace.flatMap storedBytes ++ final.tx.remaining ∧
    (∀ sender msg, ¬final.IsNotifier sender → final.pending sender = none →
      msg.type = .clientWrite → ((final.step (.client sender msg)).isSome ↔
        msg.len ≤ ioServerMsgMaxDataLen ∧
        final.server.rbOut.contents.length + msg.len < ioServerBufferSize)) := by
  have initially := serving_start tidsNe inBuf outBuf rep
  have serving := run.invariant serving_preserved noExit initially
  have served : ∀ transition ∈ trace, Serving transition.before ∧
      Serves transition.before transition.input transition.after transition.replies := by
    intro transition transitionMem
    have before := run.invariant_before Serving serving_preserved noExit initially transitionMem
    exact ⟨before, before.serves_transition (run.step_of_mem transitionMem)
      (noExit transition transitionMem)⟩
  refine ⟨?_, ?_, serving.idle, ⟨?_, ?_⟩, ?_, ?_, ?_⟩
  · have conserved := run.conserved Serving (·.server.rbOut.contents) writtenBytes sentBytes
      serving_preserved (fun transition stepped isServing before =>
        (before.serves_transition stepped isServing).written before) noExit initially
    exact conserved
  · have switched : ∀ transition : IoTransition,
        transition.before.step transition.input = some transition.after →
        transition.input.isExit = false → Serving transition.before →
        (transition.after.server.txReady = true ↔
          (isNotifTx transition = true ∧ repliesToTx transition = []) ∨
            transition.before.server.txReady = true ∧ ¬repliesToTx transition ≠ []) :=
      fun transition stepped isServing before =>
        (before.serves_transition stepped isServing).ready_iff before
    rw [run.flag_iff Serving (·.server.txReady = true) serving_preserved switched noExit initially]
    simp [IoSystem.start]
  · have counted := initially.run_notified run noExit
    exact counted
  · intro transition transitionMem
    rcases served transition transitionMem with ⟨before, serves⟩
    rcases serves.notified before with ⟨counts, lens⟩
    refine ⟨?_, lens⟩
    have busy := serves.busy before
    have atMost : (toTx transition.before transition.replies).length ≤ 1 := by
      cases notifies : isNotifTx transition <;>
        cases wasReady : transition.before.server.txReady <;> simp_all
      omega
    exact atMost
  · intro transition transitionMem
    rcases served transition transitionMem with ⟨before, serves⟩
    refine ⟨fun sender msg same isWrite => ?_, serves.awaited before⟩
    rw [same] at serves
    exact serves.write_answered isWrite
  · have conserved := run.conserved Serving (·.tx.remaining) sentBytes storedBytes serving_preserved
      (fun transition stepped isServing before =>
        (before.serves_transition stepped isServing).stored before) noExit initially
    exact conserved
  · intro sender msg isClient free isWrite
    rw [IoSystem.step, Option.isSome_map]
    exact serving.clientWrite_isSome_iff isClient free isWrite

end Runs

/-- A server whose notifiers are the tasks 2 and 3, on a machine whose memory is zero. -/
def zeroedIo : IoSystem :=
  IoSystem.start 2 3 (fun _ => 0) (fun _ => 0) { type := .exit, data := fun _ => 0, len := 0 }

/-- A request of a client to write the bytes. -/
def writeRequest (bytes : List Byte) : IoServerMsg :=
  { type := .clientWrite, data := fun index => bytes.getD index 0, len := bytes.length }

/-- The TX notifier waits, is handed two bytes and stores one; then another is written. -/
def outputEvents : List IoEvent :=
  [.tx fun _ => 0, .client 5 (writeRequest [0x61, 0x62]), .store,
    .client 6 (writeRequest [0x63])]

theorem run_output_push :
    (traceOf IoSystem.step zeroedIo outputEvents).flatMap sentBytes ++
        (finalOf IoSystem.step zeroedIo outputEvents).server.rbOut.contents = [0x61, 0x62, 0x63] ∧
    (traceOf IoSystem.step zeroedIo outputEvents).flatMap storedBytes ++
        (finalOf IoSystem.step zeroedIo outputEvents).tx.remaining = [0x61, 0x62] := by
  have runs : (record IoSystem.step zeroedIo outputEvents).isSome := by decide +kernel
  have tidsNe : (2 : Tid) ≠ 3 := by decide
  rcases run_output tidsNe (Run.of_isSome runs) (by decide +kernel) with
    ⟨written, -, -, -, -, stored, -⟩
  exact ⟨written.symm.trans (by decide +kernel), stored.symm.trans (by decide +kernel)⟩

end ArmKernel
