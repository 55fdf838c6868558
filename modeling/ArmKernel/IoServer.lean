import ArmKernel.Lib.Run
import ArmKernel.RingBuffer

/-!
# The IO server

io_server.c: a server between the clients of a UART and two notifiers. The RX notifier
sends it each byte that arrives; the TX notifier asks it for bytes to transmit. The server
keeps the bytes in two ring buffers. It leaves one reader waiting when there is no input,
and the TX notifier when there is no output.

The messages come through the kernel: a task that has sent one waits for its reply, and
does not send another before. `IoSystem` is the server with the tasks around it.

Starting the server, its output on COM2 and the rendezvous of the TX notifier with the CTS
notifier, which carries no data, are left out here. `panic` ends everything, so a step that
panics has no result, as one that leaves an array has none.
-/

namespace ArmKernel

open PartialMachine

def ioServerMsgMaxDataLen : ℕ := 31
def ioServerBufferSize : ℕ := 128

/-- `io_server_msg_type_t`. Other values of `msg.type` are handled as `notifCts` is. -/
inductive IoServerMsgType where
  | exit
  | clientRead
  | clientWrite
  | notifRx
  | notifTx
  | notifCts
  deriving DecidableEq

/-- `io_server_msg_t`. Only the first 31 bytes of the data are in the message. -/
structure IoServerMsg where
  type : IoServerMsgType
  data : ℕ → Byte
  len : ℕ

def IoServerMsg.bytes (msg : IoServerMsg) : List Byte := (List.range msg.len).map msg.data

def setData (data : ℕ → Byte) (index : ℕ) (byte : Byte) : Option (ℕ → Byte) :=
  if index < ioServerMsgMaxDataLen then some (Function.update data index byte) else none

structure Reply where
  tid : Tid
  msg : IoServerMsg

/-- The two loops of `io_server_main`, and its end. -/
inductive IoServerPhase where
  | serving
  | exiting (notifierExitCount : ℕ)
  | exited
  deriving DecidableEq

structure IoServer where
  txNotifierTid : Tid
  rxNotifierTid : Tid
  rbIn : RingBuffer
  rbOut : RingBuffer
  txReady : Bool
  clientReady : Bool
  clientTid : Tid
  phase : IoServerPhase

/-- The loops that move bytes from a ring buffer into `msg.data` from index `len` on. The
result is the new `len`, the data and the ring buffer. -/
def flushLoop : ℕ → RingBuffer → (ℕ → Byte) → ℕ → Option (ℕ × (ℕ → Byte) × RingBuffer)
  | 0, rb, data, len => some (len, data, rb)
  | remaining + 1, rb, data, len =>
      if ringbufferEmpty rb then
        some (len, data, rb)
      else do
        let (byte, rb) := ringbufferGet rb
        let data ← setData data len (← byte)
        flushLoop remaining rb data (len + 1)

def flush (rb : RingBuffer) (data : ℕ → Byte) (limit : ℕ) :
    Option (ℕ × (ℕ → Byte) × RingBuffer) := flushLoop limit rb data 0

namespace IoServer

def clientRead (server : IoServer) (senderTid : Tid) (msg : IoServerMsg) :
    Option (IoServer × List Reply) :=
  if ringbufferEmpty server.rbIn then
    -- add ready client
    some ({ server with clientReady := true, clientTid := senderTid }, [])
  else do
    -- flush buffer contents to receiving client
    let (len, data, rbIn) ← flush server.rbIn msg.data msg.len
    some ({ server with rbIn := rbIn }, [⟨senderTid, { msg with data := data, len := len }⟩])

/-- A write that does not fit into the ring buffer is a panic; one of more than 31 bytes
reads behind `msg.data`. -/
def clientWrite (server : IoServer) (senderTid : Tid) (msg : IoServerMsg) :
    Option (IoServer × List Reply) :=
  let (done, rbOut) := ringbufferPutn server.rbOut msg.data msg.len
  if !done || decide (msg.len > ioServerMsgMaxDataLen) then
    none
  else if server.txReady then do
    -- send to TX notifier if ready
    let (len, data, rbOut) ← flush rbOut msg.data ioServerMsgMaxDataLen
    let msg := { msg with data := data, len := len }
    some ({ server with rbOut := rbOut, txReady := false },
      [⟨server.txNotifierTid, msg⟩, ⟨senderTid, { msg with len := 0 }⟩])
  else
    some ({ server with rbOut := rbOut }, [⟨senderTid, { msg with len := 0 }⟩])

def notifRx (server : IoServer) (senderTid : Tid) (msg : IoServerMsg) :
    Option (IoServer × List Reply) :=
  let (done, rbIn) := ringbufferPut server.rbIn (msg.data 0)
  if !done then
    none
  else if server.clientReady then do
    let (byte, rbIn) := ringbufferGet rbIn
    let data ← setData msg.data 0 (← byte)
    let msg := { msg with data := data, len := 1 }
    some ({ server with rbIn := rbIn, clientReady := false },
      [⟨server.clientTid, msg⟩, ⟨senderTid, { msg with len := 0 }⟩])
  else
    some ({ server with rbIn := rbIn }, [⟨senderTid, { msg with len := 0 }⟩])

def notifTx (server : IoServer) (senderTid : Tid) (msg : IoServerMsg) :
    Option (IoServer × List Reply) := do
  let (len, data, rbOut) ← flush server.rbOut msg.data ioServerMsgMaxDataLen
  if len > 0 then
    some ({ server with rbOut := rbOut }, [⟨senderTid, { msg with data := data, len := len }⟩])
  else
    some ({ server with rbOut := rbOut, txReady := true }, [])

def exitNotifier (server : IoServer) (notifierExitCount : ℕ) (senderTid : Tid)
    (msg : IoServerMsg) : IoServer × List Reply :=
  match msg.type with
  | .notifRx | .notifTx =>
      ({ server with
          phase :=
            if notifierExitCount + 1 < 2 then .exiting (notifierExitCount + 1) else .exited },
        [⟨senderTid, { msg with type := .exit }⟩])
  | _ => (server, [])

def receive (server : IoServer) (senderTid : Tid) (msg : IoServerMsg) :
    Option (IoServer × List Reply) :=
  match server.phase with
  | .serving =>
      match msg.type with
      | .clientRead => server.clientRead senderTid msg
      | .clientWrite => server.clientWrite senderTid msg
      | .notifRx => server.notifRx senderTid msg
      | .notifTx => server.notifTx senderTid msg
      | .exit => some ({ server with phase := .exiting 0 }, [])
      | .notifCts => none
  | .exiting notifierExitCount => some (server.exitNotifier notifierExitCount senderTid msg)
  | .exited => none

end IoServer

/-- `io_server_notifier_tx_main`: it stores the bytes of its last reply, from index `i` on,
or waits for its next reply. -/
inductive TxNotifier where
  | transmitting (rep : IoServerMsg) (i : ℕ)
  | blocked
  | exited

/-- `io_server_notifier_rx_main`: it awaits a byte, or waits for a reply. -/
inductive RxNotifier where
  | awaiting
  | blocked
  | exited
  deriving DecidableEq

/-- The server, its notifiers, and the request of each client that waits for its reply. -/
structure IoSystem where
  server : IoServer
  tx : TxNotifier
  rx : RxNotifier
  pending : Tid → Option IoServerMsg

inductive IoEvent where
  /-- The server receives the request of a client. -/
  | client (sender : Tid) (msg : IoServerMsg)
  /-- It receives a byte, the first of the data, from the RX notifier. -/
  | rx (data : ℕ → Byte)
  /-- It receives the TX notifier's request for bytes; what is in its data does not matter. -/
  | tx (data : ℕ → Byte)
  /-- The TX notifier stores its next byte to the data register. -/
  | store

namespace IoSystem

def IsNotifier (system : IoSystem) (tid : Tid) : Prop :=
  tid = system.server.txNotifierTid ∨ tid = system.server.rxNotifierTid

instance (system : IoSystem) (tid : Tid) : Decidable (system.IsNotifier tid) :=
  inferInstanceAs (Decidable (_ ∨ _))

def deliver (system : IoSystem) (reply : Reply) : IoSystem :=
  if reply.tid = system.server.txNotifierTid then
    { system with
      tx := if reply.msg.type = .exit then .exited else .transmitting reply.msg 0 }
  else if reply.tid = system.server.rxNotifierTid then
    { system with rx := if reply.msg.type = .exit then .exited else .awaiting }
  else
    { system with pending := Function.update system.pending reply.tid none }

def receive (system : IoSystem) (sender : Tid) (msg : IoServerMsg) :
    Option (IoSystem × List Reply) := do
  let (server, replies) ← system.server.receive sender msg
  some (replies.foldl deliver { system with server := server }, replies)

def stepReplies (system : IoSystem) : IoEvent → Option (IoSystem × List Reply)
  | .client sender msg =>
      if system.IsNotifier sender ∨ msg.type = .notifRx ∨ msg.type = .notifTx ∨
          (system.pending sender).isSome then
        none
      else
        { system with pending := Function.update system.pending sender (some msg) }.receive
          sender msg
  | .rx data =>
      match system.rx with
      | .awaiting => { system with rx := .blocked }.receive system.server.rxNotifierTid
          { type := .notifRx, data := data, len := 1 }
      | _ => none
  | .tx data =>
      match system.tx with
      | .transmitting rep i =>
          if i < rep.len then
            none
          else
            { system with tx := .blocked }.receive system.server.txNotifierTid
              { type := .notifTx, data := data, len := 0 }
      | _ => none
  | .store =>
      match system.tx with
      | .transmitting rep i =>
          if i < rep.len then
            some ({ system with tx := .transmitting rep (i + 1) }, [])
          else
            none
      | _ => none

def step (system : IoSystem) (event : IoEvent) : Option IoSystem :=
  (system.stepReplies event).map Prod.fst

/-- The system when the main loop of the server begins. Of the TX notifier's variable `rep`
only the length is set by then, and the contents of the buffers are what they happen to be. -/
def start (txNotifierTid rxNotifierTid : Tid) (inBuf outBuf : ℕ → Byte) (rep : IoServerMsg) :
    IoSystem where
  server :=
    { txNotifierTid := txNotifierTid
      rxNotifierTid := rxNotifierTid
      rbIn := ringbufferInit inBuf ioServerBufferSize (by decide)
      rbOut := ringbufferInit outBuf ioServerBufferSize (by decide)
      txReady := false
      clientReady := false
      clientTid := 0
      phase := .serving }
  tx := .transmitting { rep with len := 0 } 0
  rx := .awaiting
  pending := fun _ => none

end IoSystem

abbrev IoTransition := Transition IoSystem IoEvent

def IoTransition.replies (transition : IoTransition) : List Reply :=
  ((transition.before.stepReplies transition.input).map Prod.snd).getD []

section Flush

variable {rb : RingBuffer} {data : ℕ → Byte} {len limit remaining : ℕ}

theorem setData_eq (inBounds : len < ioServerMsgMaxDataLen) (byte : Byte) :
    setData data len byte = some (Function.update data len byte) := if_pos inBounds

theorem flushLoop_eq
    (inBounds : len + min remaining rb.contents.length ≤ ioServerMsgMaxDataLen) :
    ∃ data' rb', flushLoop remaining rb data len =
        some (len + min remaining rb.contents.length, data', rb') ∧
      rb.contents = (List.range' len (min remaining rb.contents.length)).map data' ++ rb'.contents ∧
      (∀ index < len, data' index = data index) ∧ rb'.size = rb.size := by
  induction remaining generalizing rb data len with
  | zero => exact ⟨data, rb, by simp [flushLoop], by simp, fun _ _ => rfl, rfl⟩
  | succ remaining ih =>
      cases isEmpty : ringbufferEmpty rb with
      | true =>
          have nothing := rb.empty_iff.mp isEmpty
          exact ⟨data, rb, by simp [flushLoop, isEmpty, nothing], by simp [nothing],
            fun _ _ => rfl, rfl⟩
      | false =>
          rcases RingBuffer.contents_get isEmpty with ⟨byte, got, contents, sameSize⟩
          have count : min (remaining + 1) rb.contents.length =
              min remaining (ringbufferGet rb).2.contents.length + 1 := by
            rw [contents, List.length_cons]
            omega
          rw [count] at inBounds ⊢
          rcases @ih (ringbufferGet rb).2 (Function.update data len byte) (len + 1) (by omega) with
            ⟨data', rb', loop, moved, kept, sameSize'⟩
          refine ⟨data', rb', ?_, ?_, ?_, sameSize'.trans sameSize⟩
          · rw [flushLoop, isEmpty]
            have step : setData data len byte = some (Function.update data len byte) :=
              setData_eq (by omega) byte
            simp only [Bool.false_eq_true, if_false, got, Option.bind_eq_bind, Option.bind_some,
              step, loop]
            congr 2
            omega
          · have first : data' len = byte := by
              rw [kept len (by omega), Function.update_self]
            rw [List.range'_succ, List.map_cons, first, List.cons_append, ← moved, contents]
          · intro index indexLt
            rw [kept index (by omega), Function.update_of_ne (by omega)]

theorem flush_eq (inBounds : min limit rb.contents.length ≤ ioServerMsgMaxDataLen) :
    ∃ data' rb', flush rb data limit = some (min limit rb.contents.length, data', rb') ∧
      rb.contents = (List.range (min limit rb.contents.length)).map data' ++ rb'.contents ∧
      rb'.size = rb.size := by
  rcases @flushLoop_eq rb data 0 limit (by omega) with ⟨data', rb', loop, moved, -, sameSize⟩
  refine ⟨data', rb', ?_, ?_, sameSize⟩
  · rw [flush, loop, Nat.zero_add]
  · rw [List.range_eq_range']
    exact moved

/-- More bytes than the message has room for are not moved: the loop leaves the array. -/
theorem flushLoop_none (inside : len ≤ ioServerMsgMaxDataLen)
    (outside : ioServerMsgMaxDataLen < len + min remaining rb.contents.length) :
    flushLoop remaining rb data len = none := by
  induction remaining generalizing rb data len with
  | zero => omega
  | succ remaining ih =>
      cases isEmpty : ringbufferEmpty rb with
      | true =>
          rw [rb.empty_iff.mp isEmpty, List.length_nil] at outside
          omega
      | false =>
          rcases RingBuffer.contents_get isEmpty with ⟨byte, got, contents, -⟩
          rw [contents, List.length_cons] at outside
          rw [flushLoop, isEmpty]
          simp only [Bool.false_eq_true, if_false, got, Option.bind_eq_bind, Option.bind_some]
          rcases Nat.lt_or_ge len ioServerMsgMaxDataLen with below | atEnd
          · rw [setData_eq below, Option.bind_some]
            exact ih below (by omega)
          · rw [setData, if_neg (by omega), Option.bind_none]

theorem flush_isSome_iff : (flush rb data limit).isSome ↔
    min limit rb.contents.length ≤ ioServerMsgMaxDataLen := by
  rcases Nat.lt_or_ge ioServerMsgMaxDataLen (min limit rb.contents.length) with outside | inside
  · rw [flush, flushLoop_none (Nat.zero_le _) (by omega), Option.isSome_none]
    simp only [Bool.false_eq_true, false_iff]
    omega
  · rcases flush_eq inside with ⟨data', rb', done, -, -⟩
    rw [done]
    simpa using inside

end Flush

end ArmKernel
