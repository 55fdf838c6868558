import ArmKernel.IoServer.Shutdown

/-!
# `Putstr`

The wrapper copies a string into one message, which has room for 31 bytes, and reports success
when the server has taken in the message. So what is appended to the output is the string if it
is not longer than that, and else its first 31 bytes.
-/

namespace ArmKernel

open PartialMachine

/-- `Send` to a task with a message of the IO server: the result and the reply. -/
abbrev IoSend := Byte → IoServerMsg → ℤ × IoServerMsg

namespace IoClient

/-- `memcpy` of the first bytes of the string to the data of the message. -/
def copyData (data str : ℕ → Byte) (len : ℕ) : ℕ → Byte :=
  fun index => if index < len then str index else data index

/-- The message of `Putstr`; `data` is what is in the variable before. -/
def putstrMsg (data str : ℕ → Byte) (len : ℕ) : IoServerMsg :=
  let msgLen := if len < ioServerMsgMaxDataLen then len else ioServerMsgMaxDataLen
  { type := .clientWrite, data := copyData data str msgLen, len := msgLen }

/-- `Putstr`. Its parameter `uart` is not used. -/
def putstr (send : IoSend) (data : ℕ → Byte) (tid : Word) (str : ℕ → Byte) (len : ℕ) : ℤ :=
  let (res, _rep) := send (tid.setWidth 8) (putstrMsg data str len)
  if res < 0 then -2 else 0

theorem putstrMsg_bytes (data str : ℕ → Byte) (len : ℕ) :
    (putstrMsg data str len).bytes = (List.range (min len ioServerMsgMaxDataLen)).map str := by
  have isMin : (putstrMsg data str len).len = min len ioServerMsgMaxDataLen := by
    change (if len < ioServerMsgMaxDataLen then len else ioServerMsgMaxDataLen) = _
    split_ifs <;> omega
  rw [IoServerMsg.bytes, isMin]
  apply List.map_congr_left
  intro index indexMem
  have inMessage := List.mem_range.mp indexMem
  rw [← isMin] at inMessage
  exact if_pos inMessage

end IoClient

/-- All bytes that the clients have written: those in the data register, those that the TX
notifier still has to store there and those in the ring buffer. -/
def outputStream (trace : List IoTransition) (system : IoSystem) : List Byte :=
  trace.flatMap storedBytes ++ system.tx.remaining ++ system.server.rbOut.contents

/-- A call of `Putstr` that returns 0 has appended the string to the output. -/
def PutstrAppends (send : IoSend) (data : ℕ → Byte) (tid : Word) (str : ℕ → Byte) (len : ℕ)
    (front : List IoTransition) (transition : IoTransition) : Prop :=
  IoClient.putstr send data tid str len = 0 →
    outputStream (front ++ [transition]) transition.after =
      outputStream front transition.before ++ (List.range len).map str

section Steps

variable {system after : IoSystem} {server server' : IoServer} {event : IoEvent}
  {replies : List Reply} {sender : Tid} {msg : IoServerMsg}

theorem Serves.outputStream_eq {front : List IoTransition}
    (serves : Serves system event after replies) (serving : Serving system) :
    outputStream (front ++ [⟨system, event, after⟩]) after =
      outputStream front system ++ writtenBytes ⟨system, event, after⟩ := by
  have written := serves.written serving
  have stored := serves.stored serving
  calc outputStream (front ++ [⟨system, event, after⟩]) after
      = front.flatMap storedBytes ++
          ((storedBytes ⟨system, event, after⟩ ++ after.tx.remaining) ++
            after.server.rbOut.contents) := by
        simp only [outputStream, List.flatMap_append, List.flatMap_singleton, List.append_assoc]
    _ = front.flatMap storedBytes ++ (system.tx.remaining ++
          (system.server.rbOut.contents ++ writtenBytes ⟨system, event, after⟩)) := by
        rw [← stored, written, List.append_assoc]
    _ = outputStream front system ++ writtenBytes ⟨system, event, after⟩ := by
        simp only [outputStream, List.append_assoc]

/-- After EXIT the server does not go back to its main loop, and does not answer writes. -/
theorem IoServer.receive_ended (ended : server.phase ≠ .serving)
    (done : server.receive sender msg = some (server', replies)) :
    server'.phase ≠ .serving ∧ (msg.type = .clientWrite → replies = []) := by
  rw [receive] at done
  cases phase : server.phase with
  | serving => exact absurd phase ended
  | exiting count =>
      simp only [phase, Option.some.injEq, exitNotifier] at done
      split at done
      · rename_i isRx
        rcases Prod.mk.inj done with ⟨rfl, rfl⟩
        refine ⟨?_, by simp [isRx]⟩
        simp only
        split_ifs <;> simp
      · rename_i isTx
        rcases Prod.mk.inj done with ⟨rfl, rfl⟩
        refine ⟨?_, by simp [isTx]⟩
        simp only
        split_ifs <;> simp
      · rcases Prod.mk.inj done with ⟨rfl, rfl⟩
        exact ⟨ended, fun _ => rfl⟩
  | exited =>
      simp only [phase] at done
      cases done

theorem IoSystem.foldl_deliver_server :
    (replies.foldl IoSystem.deliver system).server = system.server := by
  induction replies generalizing system with
  | nil => rfl
  | cons reply replies ih =>
      rw [List.foldl_cons, ih, deliver]
      split_ifs <;> rfl

theorem IoSystem.receive_server (done : system.receive sender msg = some (after, replies))
    (isServer : system.server = server) :
    server.receive sender msg = some (after.server, replies) := by
  subst isServer
  simp only [receive, Option.bind_eq_bind, Option.bind_eq_some_iff, Option.some.injEq,
    Prod.mk.injEq] at done
  rcases done with ⟨⟨server, sent⟩, received, rfl, rfl⟩
  rw [foldl_deliver_server]
  exact received

theorem IoSystem.stepReplies_ended (ended : system.server.phase ≠ .serving)
    (done : system.stepReplies event = some (after, replies)) :
    after.server.phase ≠ .serving ∧
      ∀ sender msg, event = .client sender msg → msg.type = .clientWrite → replies = [] := by
  cases event with
  | client sender msg =>
      rw [stepReplies] at done
      split_ifs at done
      rcases IoServer.receive_ended ended (receive_server done rfl) with ⟨stillEnded, noReply⟩
      refine ⟨stillEnded, ?_⟩
      rintro _ _ ⟨rfl, rfl⟩
      exact noReply
  | rx data =>
      rw [stepReplies] at done
      split at done
      · refine ⟨(IoServer.receive_ended ended (receive_server done rfl)).1, ?_⟩
        intro _ _ isClient
        cases isClient
      · cases done
  | tx data =>
      rw [stepReplies] at done
      split at done
      · split_ifs at done
        refine ⟨(IoServer.receive_ended ended (receive_server done rfl)).1, ?_⟩
        intro _ _ isClient
        cases isClient
      · cases done
  | store =>
      rw [stepReplies] at done
      split at done
      · split_ifs at done
        rcases Prod.mk.inj (Option.some.inj done) with ⟨rfl, rfl⟩
        refine ⟨ended, ?_⟩
        intro _ _ isClient
        cases isClient
      · cases done

end Steps

section Runs

variable {tx rx sender : Tid} {inBuf outBuf data str : ℕ → Byte} {rep reply : IoServerMsg}
  {final : IoSystem} {front back : List IoTransition} {transition : IoTransition} {send : IoSend}
  {tid : Word} {len : ℕ}

/-- The invariant holds until EXIT in every run. -/
theorem run_serving (tidsNe : tx ≠ rx) {trace : List IoTransition}
    (run : Run IoSystem.step (IoSystem.start tx rx inBuf outBuf rep) trace final) :
    final.server.phase = .serving → Serving final := by
  let invariant : IoSystem → Prop := fun system =>
    system.server.phase = .serving → Serving system
  have preserved : ∀ transition : IoTransition,
      transition.before.step transition.input = some transition.after →
      True → invariant transition.before → invariant transition.after := by
    intro transition taken _ before stillServing
    by_cases serving : transition.before.server.phase = .serving
    · cases isExit : transition.input.isExit with
      | false => exact (before serving).step taken isExit
      | true =>
          cases isInput : transition.input with
          | client sender msg =>
              rw [isInput] at taken isExit
              have exiting := (before serving).exit (beq_iff_eq.mp isExit) taken
              rw [exiting.phase] at stillServing
              cases stillServing
          | rx | tx | store => simp [isInput, IoEvent.isExit] at isExit
    · rcases Option.map_eq_some_iff.mp taken with ⟨⟨after, replies⟩, done, isAfter⟩
      obtain rfl : after = transition.after := isAfter
      exact absurd stillServing (IoSystem.stepReplies_ended serving done).1
  have initially : invariant (IoSystem.start tx rx inBuf outBuf rep) :=
    fun _ => serving_start tidsNe inBuf outBuf rep
  have atEnd : invariant final := run.invariant preserved (fun _ _ => trivial) initially
  exact atEnd

/-- A call of `Putstr` that is answered has appended its message to the output. -/
theorem run_putstr_appends (tidsNe : tx ≠ rx)
    (run : Run IoSystem.step (IoSystem.start tx rx inBuf outBuf rep) (front ++ transition :: back)
      final)
    (calls : transition.input = .client sender (IoClient.putstrMsg data str len))
    (answered : ⟨sender, reply⟩ ∈ transition.replies) :
    outputStream (front ++ [transition]) transition.after =
      outputStream front transition.before ++
        (List.range (min len ioServerMsgMaxDataLen)).map str := by
  rcases transition with ⟨system, event, after⟩
  have isEvent : event = .client sender (IoClient.putstrMsg data str len) := calls
  rcases run.split with ⟨_, before, rest⟩
  cases rest with
  | cons taken _ =>
      rcases Option.map_eq_some_iff.mp taken with ⟨⟨next, replies⟩, done, isAfter⟩
      obtain rfl : next = after := isAfter
      by_cases serving : system.server.phase = .serving
      · have isServing := run_serving tidsNe before serving
        have noExit : event.isExit = false := by
          rw [isEvent]
          rfl
        have serves := @Serving.serves_transition ⟨system, event, next⟩ isServing taken noExit
        rw [serves.outputStream_eq isServing, ← IoClient.putstrMsg_bytes data]
        simp only [writtenBytes, isEvent]
        rfl
      · have noReply := (IoSystem.stepReplies_ended serving done).2 _ _ isEvent rfl
        have sameReplies : IoTransition.replies ⟨system, event, next⟩ = replies := by
          rw [IoTransition.replies, done]
          rfl
        rw [sameReplies, noReply] at answered
        cases answered

/-- A call of `Putstr` that is answered has appended the string if and only if the string is not
longer than the message. -/
theorem run_putstr_iff (tidsNe : tx ≠ rx)
    (run : Run IoSystem.step (IoSystem.start tx rx inBuf outBuf rep) (front ++ transition :: back)
      final)
    (calls : transition.input = .client sender (IoClient.putstrMsg data str len))
    (answered : ⟨sender, reply⟩ ∈ transition.replies)
    (sent : send (tid.setWidth 8) (IoClient.putstrMsg data str len) = (0, reply)) :
    PutstrAppends send data tid str len front transition ↔ len ≤ ioServerMsgMaxDataLen := by
  have appended := run_putstr_appends tidsNe run calls answered
  have success : IoClient.putstr send data tid str len = 0 := by
    simp [IoClient.putstr, sent]
  constructor
  · intro appends
    have lengths := congrArg List.length (appended.symm.trans (appends success))
    simp only [List.length_append, List.length_map, List.length_range] at lengths
    omega
  · intro fits _
    rw [appended, Nat.min_eq_left fits]

end Runs

/-- A client calls `Putstr` with a string of as many letters a. -/
def putstrEvent (len : ℕ) : IoEvent :=
  .client 5 (IoClient.putstrMsg (fun _ => 0) (fun _ => 0x61) len)

def putstrTransition (len : ℕ) : IoTransition :=
  ⟨zeroedIo, putstrEvent len, zeroedIo.next (putstrEvent len)⟩

theorem putstr_answered {len : ℕ} (stepped : (zeroedIo.step (putstrEvent len)).isSome) :
    Run IoSystem.step zeroedIo ([] ++ [putstrTransition len])
        (zeroedIo.next (putstrEvent len)) ∧
      ∃ reply, ⟨5, reply⟩ ∈ (putstrTransition len).replies := by
  have taken := IoSystem.step_next stepped
  have tidsNe : (2 : Tid) ≠ 3 := by decide
  have serving : Serving zeroedIo := serving_start tidsNe _ _ _
  have serves := @Serving.serves_transition (putstrTransition len) serving taken rfl
  have once := (serves.write_answered rfl).1
  rcases List.length_eq_one_iff.mp once with ⟨⟨tid, reply⟩, isOnly⟩
  have replyMem := isOnly ▸ List.mem_singleton_self _
  rcases List.mem_filter.mp replyMem with ⟨sent, isSender⟩
  obtain rfl : tid = 5 := beq_iff_eq.mp isSender
  exact ⟨.cons taken (.nil _), reply, sent⟩

/-- Of 32 bytes only 31 are appended. -/
theorem putstr_truncates : ¬∀ (tx rx sender : Tid) (inBuf outBuf data str : ℕ → Byte)
    (rep reply : IoServerMsg) (final : IoSystem) (front back : List IoTransition)
    (transition : IoTransition) (send : IoSend) (tid : Word) (len : ℕ), tx ≠ rx →
    Run IoSystem.step (IoSystem.start tx rx inBuf outBuf rep) (front ++ transition :: back)
      final →
    transition.input = .client sender (IoClient.putstrMsg data str len) →
    ⟨sender, reply⟩ ∈ transition.replies →
    send (tid.setWidth 8) (IoClient.putstrMsg data str len) = (0, reply) →
    PutstrAppends send data tid str len front transition := by
  intro claimed
  have tidsNe : (2 : Tid) ≠ 3 := by decide
  rcases @putstr_answered 32 (by decide +kernel) with ⟨run, reply, answered⟩
  have appends := claimed _ _ _ _ _ _ _ _ _ _ _ _ _ (fun _ _ => (0, reply)) 7 _ tidsNe run rfl
    answered rfl rfl
  have appended := run_putstr_appends tidsNe run rfl answered
  have lengths := congrArg List.length (appended.symm.trans appends)
  simp [ioServerMsgMaxDataLen] at lengths

theorem run_putstr_iff_two : ∃ reply,
    PutstrAppends (fun _ _ => (0, reply)) (fun _ => 0) 7 (fun _ => 0x61) 2 [] (putstrTransition 2) ↔
      2 ≤ ioServerMsgMaxDataLen := by
  have tidsNe : (2 : Tid) ≠ 3 := by decide
  rcases @putstr_answered 2 (by decide +kernel) with ⟨run, reply, answered⟩
  exact ⟨reply, run_putstr_iff tidsNe run rfl answered rfl⟩

end ArmKernel
