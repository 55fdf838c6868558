import ArmKernel.IoServer

/-!
# What the IO server does with a message

While the server has not been told to exit, a step of the system is one of nine (`Serves`):
a read is parked or answered from the input, a write waits in the output or is handed to the
TX notifier that waits for it, and so on. `Serving` is the invariant of these steps. The
results about the output, the input and the readers are all derived from this list.
-/

namespace ArmKernel

open PartialMachine

/-- Whenever the server receives: the TX notifier waits exactly if the server knows that it
is ready, and then there is no output; a recorded reader waits, and then there is no input;
and no other client waits. -/
structure Serving (system : IoSystem) : Prop where
  phase : system.server.phase = .serving
  tids_ne : system.server.txNotifierTid ≠ system.server.rxNotifierTid
  inSize : system.server.rbIn.size = ioServerBufferSize
  outSize : system.server.rbOut.size = ioServerBufferSize
  rx : system.rx = .awaiting
  tx : system.tx ≠ .exited
  ready_iff : system.server.txReady = true ↔ system.tx = .blocked
  idle : system.server.txReady = true → system.server.rbOut.contents = []
  transmitted : ∀ rep i, system.tx = .transmitting rep i → rep.len ≤ ioServerMsgMaxDataLen
  parked : system.server.clientReady = true → system.server.rbIn.contents = [] ∧
    (system.pending system.server.clientTid).isSome
  reads : ∀ tid msg, system.pending tid = some msg →
    ¬system.IsNotifier tid ∧ msg.type = .clientRead

/-- The nine steps, with their replies. -/
inductive Serves (system : IoSystem) : IoEvent → IoSystem → List Reply → Prop where
  /-- A reader finds no input and is recorded. -/
  | park {sender : Tid} {msg : IoServerMsg} (isRead : msg.type = .clientRead)
      (isClient : ¬system.IsNotifier sender) (free : system.pending sender = none)
      (empty : system.server.rbIn.contents = []) :
      Serves system (.client sender msg)
        { system with
          server := { system.server with clientReady := true, clientTid := sender }
          pending := Function.update system.pending sender (some msg) } []
  /-- A reader gets what there is, up to the number of bytes requested. -/
  | fetch {sender : Tid} {msg reply : IoServerMsg} {rbIn : RingBuffer}
      (isRead : msg.type = .clientRead) (isClient : ¬system.IsNotifier sender)
      (free : system.pending sender = none) (nonempty : system.server.rbIn.contents ≠ [])
      (moved : system.server.rbIn.contents = reply.bytes ++ rbIn.contents)
      (len : reply.len = min msg.len system.server.rbIn.contents.length)
      (size : rbIn.size = system.server.rbIn.size) :
      Serves system (.client sender msg)
        { system with server := { system.server with rbIn := rbIn } } [⟨sender, reply⟩]
  /-- What is written waits for the TX notifier. -/
  | write {sender : Tid} {msg reply : IoServerMsg} {rbOut : RingBuffer}
      (isWrite : msg.type = .clientWrite) (isClient : ¬system.IsNotifier sender)
      (free : system.pending sender = none) (busy : system.server.txReady = false)
      (put : rbOut.contents = system.server.rbOut.contents ++ msg.bytes)
      (size : rbOut.size = system.server.rbOut.size) (len : reply.len = 0) :
      Serves system (.client sender msg)
        { system with server := { system.server with rbOut := rbOut } } [⟨sender, reply⟩]
  /-- What is written is handed to the TX notifier. -/
  | push {sender : Tid} {msg out reply : IoServerMsg} {rbOut : RingBuffer}
      (isWrite : msg.type = .clientWrite) (isClient : ¬system.IsNotifier sender)
      (free : system.pending sender = none) (ready : system.server.txReady = true)
      (bytes : out.bytes = msg.bytes) (outLen : out.len ≤ ioServerMsgMaxDataLen)
      (empty : rbOut.contents = []) (size : rbOut.size = system.server.rbOut.size)
      (len : reply.len = 0) :
      Serves system (.client sender msg)
        { system with
          server := { system.server with rbOut := rbOut, txReady := false }
          tx := .transmitting out 0 }
        [⟨system.server.txNotifierTid, out⟩, ⟨sender, reply⟩]
  /-- A byte that arrives waits for a reader. -/
  | take {data : ℕ → Byte} {reply : IoServerMsg} {rbIn : RingBuffer}
      (nobody : system.server.clientReady = false)
      (put : rbIn.contents = system.server.rbIn.contents ++ [data 0])
      (size : rbIn.size = system.server.rbIn.size) (len : reply.len = 0) :
      Serves system (.rx data) { system with server := { system.server with rbIn := rbIn } }
        [⟨system.server.rxNotifierTid, reply⟩]
  /-- A byte that arrives is handed to the reader that is recorded. -/
  | hand {data : ℕ → Byte} {out reply : IoServerMsg} {rbIn : RingBuffer}
      (parked : system.server.clientReady = true) (bytes : out.bytes = [data 0])
      (empty : rbIn.contents = []) (size : rbIn.size = system.server.rbIn.size)
      (len : reply.len = 0) :
      Serves system (.rx data)
        { system with
          server := { system.server with rbIn := rbIn, clientReady := false }
          pending := Function.update system.pending system.server.clientTid none }
        [⟨system.server.clientTid, out⟩, ⟨system.server.rxNotifierTid, reply⟩]
  /-- The TX notifier gets what there is, up to 31 bytes. -/
  | pull {data : ℕ → Byte} {rep out : IoServerMsg} {i : ℕ} {rbOut : RingBuffer}
      (done : system.tx = .transmitting rep i) (all : rep.len ≤ i)
      (moved : system.server.rbOut.contents = out.bytes ++ rbOut.contents)
      (outLen : out.len ≤ ioServerMsgMaxDataLen)
      (size : rbOut.size = system.server.rbOut.size) :
      Serves system (.tx data)
        { system with
          server := { system.server with rbOut := rbOut }
          tx := .transmitting out 0 }
        [⟨system.server.txNotifierTid, out⟩]
  /-- The TX notifier finds no output and waits. -/
  | await {data : ℕ → Byte} {rep : IoServerMsg} {i : ℕ} {rbOut : RingBuffer}
      (done : system.tx = .transmitting rep i) (all : rep.len ≤ i)
      (empty : system.server.rbOut.contents = []) (empty' : rbOut.contents = [])
      (size : rbOut.size = system.server.rbOut.size) :
      Serves system (.tx data)
        { system with
          server := { system.server with rbOut := rbOut, txReady := true }
          tx := .blocked } []
  /-- The TX notifier stores its next byte. -/
  | store {rep : IoServerMsg} {i : ℕ} (transmits : system.tx = .transmitting rep i)
      (next : i < rep.len) :
      Serves system .store { system with tx := .transmitting rep (i + 1) } []

section Deliver

variable {system : IoSystem} {reply : Reply}

theorem deliver_tx (isTx : reply.tid = system.server.txNotifierTid)
    (goesOn : reply.msg.type ≠ .exit) :
    system.deliver reply = { system with tx := .transmitting reply.msg 0 } := by
  rw [IoSystem.deliver, if_pos isTx, if_neg goesOn]

theorem deliver_rx (notTx : reply.tid ≠ system.server.txNotifierTid)
    (isRx : reply.tid = system.server.rxNotifierTid) (goesOn : reply.msg.type ≠ .exit) :
    system.deliver reply = { system with rx := .awaiting } := by
  rw [IoSystem.deliver, if_neg notTx, if_pos isRx, if_neg goesOn]

theorem deliver_client (isClient : ¬system.IsNotifier reply.tid) :
    system.deliver reply =
      { system with pending := Function.update system.pending reply.tid none } := by
  rw [IoSystem.IsNotifier, not_or] at isClient
  rw [IoSystem.deliver, if_neg isClient.1, if_neg isClient.2]

theorem pending_answered {pending : Tid → Option IoServerMsg} {sender : Tid} {msg : IoServerMsg}
    (free : pending sender = none) :
    Function.update (Function.update pending sender (some msg)) sender none = pending := by
  rw [Function.update_idem, ← free, Function.update_eq_self]

end Deliver

section Events

variable {system : IoSystem} {sender : Tid} {msg : IoServerMsg} {data : ℕ → Byte}

theorem stepReplies_client (isClient : ¬system.IsNotifier sender)
    (free : system.pending sender = none) (notRx : msg.type ≠ .notifRx)
    (notTx : msg.type ≠ .notifTx) :
    system.stepReplies (.client sender msg) =
      ({ system with pending := Function.update system.pending sender (some msg) } :
        IoSystem).receive sender msg := by
  apply if_neg
  simp [isClient, free, notRx, notTx]

namespace Serving

theorem clientRead (serving : Serving system) (isClient : ¬system.IsNotifier sender)
    (free : system.pending sender = none) (isRead : msg.type = .clientRead)
    (inBounds : min msg.len system.server.rbIn.contents.length ≤ ioServerMsgMaxDataLen) :
    ∃ system' replies, system.stepReplies (.client sender msg) = some (system', replies) ∧
      Serves system (.client sender msg) system' replies := by
  rw [stepReplies_client isClient free (by simp [isRead]) (by simp [isRead])]
  have handled : system.server.receive sender msg = system.server.clientRead sender msg := by
    simp only [IoServer.receive, serving.phase, isRead]
  rw [IoSystem.receive, handled, IoServer.clientRead]
  cases isEmpty : ringbufferEmpty system.server.rbIn with
  | true =>
      exact ⟨_, _, rfl, .park isRead isClient free ((RingBuffer.empty_iff _).mp isEmpty)⟩
  | false =>
      have nonempty : system.server.rbIn.contents ≠ [] := by
        rw [ne_eq, ← RingBuffer.empty_iff, isEmpty]
        exact Bool.false_ne_true
      rcases @flush_eq _ msg.data _ inBounds with ⟨data', rbIn, done, moved, size⟩
      let reply : IoServerMsg :=
        { msg with data := data', len := min msg.len system.server.rbIn.contents.length }
      have moved' : system.server.rbIn.contents = reply.bytes ++ rbIn.contents := moved
      refine ⟨_, _, ?_, .fetch isRead isClient free nonempty moved' rfl size⟩
      simp only [Bool.false_eq_true, if_false, done, Option.bind_eq_bind, Option.bind_some,
        List.foldl_cons, List.foldl_nil]
      rw [deliver_client isClient, pending_answered free]

theorem clientWrite (serving : Serving system) (isClient : ¬system.IsNotifier sender)
    (free : system.pending sender = none) (isWrite : msg.type = .clientWrite)
    (inMessage : msg.len ≤ ioServerMsgMaxDataLen)
    (room : system.server.rbOut.contents.length + msg.len < ioServerBufferSize) :
    ∃ system' replies, system.stepReplies (.client sender msg) = some (system', replies) ∧
      Serves system (.client sender msg) system' replies := by
  rw [stepReplies_client isClient free (by simp [isWrite]) (by simp [isWrite])]
  have handled : system.server.receive sender msg = system.server.clientWrite sender msg := by
    simp only [IoServer.receive, serving.phase, isWrite]
  rw [IoSystem.receive, handled, IoServer.clientWrite]
  have outSize := serving.outSize
  have fits : system.server.rbOut.contents.length + msg.len ≤ system.server.rbOut.size - 1 := by
    omega
  have done : (ringbufferPutn system.server.rbOut msg.data msg.len).1 = true :=
    RingBuffer.putn_eq_true_iff.mpr fits
  rcases @RingBuffer.contents_putn _ msg.data _ fits with ⟨put, size⟩
  have taken : (!(ringbufferPutn system.server.rbOut msg.data msg.len).1 ||
      decide (msg.len > ioServerMsgMaxDataLen)) = false := by
    simp only [done, Bool.not_true, Bool.false_or, decide_eq_false_iff_not]
    omega
  by_cases isReady : system.server.txReady = true
  case neg =>
      refine ⟨_, _, ?_, .write isWrite isClient free (Bool.eq_false_iff.mpr isReady) put size
        (rfl : ({ msg with len := 0 } : IoServerMsg).len = 0)⟩
      simp only [taken, if_neg isReady, Bool.false_eq_true, if_false, Option.bind_eq_bind,
        Option.bind_some, List.foldl_cons, List.foldl_nil]
      rw [deliver_client isClient, pending_answered free]
  case pos =>
      rw [serving.idle isReady, List.nil_append] at put
      have count : min ioServerMsgMaxDataLen
          (ringbufferPutn system.server.rbOut msg.data msg.len).2.contents.length = msg.len := by
        rw [put, List.length_map, List.length_range]
        omega
      rcases @flush_eq _ msg.data _ (count.trans_le inMessage) with
        ⟨data', rbOut, flushed, moved, size'⟩
      rw [count] at flushed moved
      rw [put] at moved
      have lengths := congrArg List.length moved
      simp only [List.length_append, List.length_map, List.length_range] at lengths
      have empty : rbOut.contents = [] := List.eq_nil_of_length_eq_zero (by omega)
      rw [empty, List.append_nil] at moved
      let out : IoServerMsg := { msg with data := data', len := msg.len }
      have bytes : out.bytes = msg.bytes := moved.symm
      refine ⟨_, _, ?_, .push isWrite isClient free isReady bytes inMessage empty
        (size'.trans size) (rfl : ({ out with len := 0 } : IoServerMsg).len = 0)⟩
      simp only [taken, if_pos isReady, Bool.false_eq_true, if_false, flushed,
        Option.bind_eq_bind, Option.bind_some, List.foldl_cons, List.foldl_nil]
      rcases not_or.mp isClient with ⟨notTx, notRx⟩
      simp only [IoSystem.deliver, if_true, isWrite, reduceCtorEq, if_neg notTx, if_neg notRx,
        if_false, pending_answered free, out]

theorem notifRx (serving : Serving system)
    (room : system.server.rbIn.contents.length + 1 < ioServerBufferSize) :
    ∃ system' replies, system.stepReplies (.rx data) = some (system', replies) ∧
      Serves system (.rx data) system' replies := by
  let msg : IoServerMsg := { type := .notifRx, data := data, len := 1 }
  have handled : system.server.receive system.server.rxNotifierTid msg =
      system.server.notifRx system.server.rxNotifierTid msg := by
    simp only [IoServer.receive, serving.phase, msg]
  have stepped : system.stepReplies (.rx data) = ({ system with rx := .blocked } :
      IoSystem).receive system.server.rxNotifierTid msg := by
    rw [IoSystem.stepReplies, serving.rx]
  rw [stepped, IoSystem.receive, handled, IoServer.notifRx]
  have inSize := serving.inSize
  have fits : system.server.rbIn.contents.length < system.server.rbIn.size - 1 := by
    omega
  have done : (ringbufferPut system.server.rbIn (data 0)).1 = true :=
    RingBuffer.put_eq_true_iff.mpr fits
  have put := @RingBuffer.contents_put _ (data 0) fits
  have size := @RingBuffer.size_put system.server.rbIn (data 0)
  by_cases isReady : system.server.clientReady = true
  case neg =>
      refine ⟨_, _, ?_, .take (Bool.eq_false_iff.mpr isReady) put size
        (rfl : ({ msg with len := 0 } : IoServerMsg).len = 0)⟩
      simp only [msg, done, if_neg isReady, Bool.not_true, Bool.false_eq_true, if_false,
        Option.bind_eq_bind, Option.bind_some, List.foldl_cons, List.foldl_nil]
      rw [deliver_rx serving.tids_ne.symm rfl (by simp)]
      simp only [serving.rx]
  case pos =>
      rcases serving.parked isReady with ⟨nothing, waits⟩
      rcases Option.isSome_iff_exists.mp waits with ⟨request, isPending⟩
      have isClient := (serving.reads _ _ isPending).1
      rw [nothing, List.nil_append] at put
      have nonempty : ringbufferEmpty (ringbufferPut system.server.rbIn (data 0)).2 = false := by
        rw [Bool.eq_false_iff, ne_eq, RingBuffer.empty_iff, put]
        exact List.cons_ne_nil _ _
      rcases RingBuffer.contents_get nonempty with ⟨byte, got, contents, size'⟩
      rw [put] at contents
      rcases List.cons.inj contents with ⟨rfl, empty⟩
      let out : IoServerMsg := { msg with data := Function.update data 0 (data 0), len := 1 }
      have bytes : out.bytes = [data 0] := by simp [IoServerMsg.bytes, out]
      refine ⟨_, _, ?_, .hand isReady bytes empty.symm (size'.trans size)
        (rfl : ({ out with len := 0 } : IoServerMsg).len = 0)⟩
      have wrote : setData data 0 (data 0) = some (Function.update data 0 (data 0)) :=
        setData_eq (by decide) _
      simp only [msg, done, got, wrote, if_pos isReady, Bool.not_true, Bool.false_eq_true,
        if_false, Option.bind_eq_bind, Option.bind_some, List.foldl_cons, List.foldl_nil]
      rcases not_or.mp isClient with ⟨notTx, notRx⟩
      simp only [IoSystem.deliver, if_true, reduceCtorEq, if_neg notTx, if_neg notRx,
        if_neg serving.tids_ne.symm, if_false, serving.rx, msg, out]

theorem notifTx {rep : IoServerMsg} {i : ℕ} (serving : Serving system)
    (done : system.tx = .transmitting rep i) (all : rep.len ≤ i) :
    ∃ system' replies, system.stepReplies (.tx data) = some (system', replies) ∧
      Serves system (.tx data) system' replies := by
  let msg : IoServerMsg := { type := .notifTx, data := data, len := 0 }
  have handled : system.server.receive system.server.txNotifierTid msg =
      system.server.notifTx system.server.txNotifierTid msg := by
    simp only [IoServer.receive, serving.phase, msg]
  have stepped : system.stepReplies (.tx data) = ({ system with tx := .blocked } :
      IoSystem).receive system.server.txNotifierTid msg := by
    rw [IoSystem.stepReplies, done]
    exact if_neg (by omega)
  rw [stepped, IoSystem.receive, handled, IoServer.notifTx]
  have inBounds : min ioServerMsgMaxDataLen system.server.rbOut.contents.length ≤
      ioServerMsgMaxDataLen := Nat.min_le_left _ _
  rcases @flush_eq _ data _ inBounds with ⟨data', rbOut, flushed, moved, size⟩
  have lengths := congrArg List.length moved
  simp only [List.length_append, List.length_map, List.length_range] at lengths
  simp only [msg, flushed, Option.bind_eq_bind, Option.bind_some]
  split_ifs with some
  · let out : IoServerMsg :=
      { msg with
        data := data'
        len := min ioServerMsgMaxDataLen system.server.rbOut.contents.length }
    have moved' : system.server.rbOut.contents = out.bytes ++ rbOut.contents := moved
    refine ⟨_, _, ?_, .pull done all moved' inBounds size⟩
    simp only [Option.bind_some, List.foldl_cons, List.foldl_nil]
    rw [deliver_tx rfl (by simp)]
  · have nothing : system.server.rbOut.contents = [] := by
      apply List.eq_nil_of_length_eq_zero
      simp only [ioServerMsgMaxDataLen] at some
      omega
    have nothing' : rbOut.contents = [] := by
      apply List.eq_nil_of_length_eq_zero
      rw [nothing, List.length_nil] at lengths
      omega
    exact ⟨_, _, rfl, .await done all nothing nothing' size⟩

/-- A read is handled unless it asks for more bytes than fit into a message, and gets them. -/
theorem clientRead_isSome_iff (serving : Serving system) (isClient : ¬system.IsNotifier sender)
    (free : system.pending sender = none) (isRead : msg.type = .clientRead) :
    (system.stepReplies (.client sender msg)).isSome ↔
      min msg.len system.server.rbIn.contents.length ≤ ioServerMsgMaxDataLen := by
  constructor
  · intro handles
    by_contra outside
    have noFlush : flush system.server.rbIn msg.data msg.len = none := by
      rw [← Option.not_isSome_iff_eq_none, flush_isSome_iff]
      exact outside
    have nonempty : ringbufferEmpty system.server.rbIn = false := by
      rw [Bool.eq_false_iff, ne_eq, RingBuffer.empty_iff]
      intro nothing
      rw [nothing, List.length_nil] at outside
      omega
    rw [stepReplies_client isClient free (by simp [isRead]) (by simp [isRead])] at handles
    simp [IoSystem.receive, IoServer.receive, serving.phase, isRead, IoServer.clientRead, nonempty,
      noFlush] at handles
  · intro inBounds
    rcases serving.clientRead isClient free isRead inBounds with ⟨system', replies, done, -⟩
    rw [done]
    rfl

theorem clientWrite_isSome_iff (serving : Serving system) (isClient : ¬system.IsNotifier sender)
    (free : system.pending sender = none) (isWrite : msg.type = .clientWrite) :
    (system.stepReplies (.client sender msg)).isSome ↔ msg.len ≤ ioServerMsgMaxDataLen ∧
      system.server.rbOut.contents.length + msg.len < ioServerBufferSize := by
  constructor
  · intro handles
    have outSize := serving.outSize
    have size_lt := system.server.rbOut.size_lt
    rw [stepReplies_client isClient free (by simp [isWrite]) (by simp [isWrite])] at handles
    by_contra refused
    have stops : (!(ringbufferPutn system.server.rbOut msg.data msg.len).1 ||
        decide (msg.len > ioServerMsgMaxDataLen)) = true := by
      rw [Bool.or_eq_true, Bool.not_eq_true', decide_eq_true_iff, Bool.eq_false_iff, ne_eq,
        RingBuffer.putn_eq_true_iff]
      omega
    simp only [IoSystem.receive, IoServer.receive, serving.phase, isWrite, IoServer.clientWrite,
      stops, if_true] at handles
    cases handles
  · rintro ⟨inMessage, room⟩
    rcases serving.clientWrite isClient free isWrite inMessage room with ⟨system', replies, done, -⟩
    rw [done]
    rfl

/-- A byte that arrives is handled exactly if there is room for it. -/
theorem rx_isSome_iff (serving : Serving system) : (system.stepReplies (.rx data)).isSome ↔
    system.server.rbIn.contents.length + 1 < ioServerBufferSize := by
  constructor
  · intro handles
    have inSize := serving.inSize
    by_contra refused
    have stops : (ringbufferPut system.server.rbIn (data 0)).1 = false := by
      rw [Bool.eq_false_iff, ne_eq, RingBuffer.put_eq_true_iff]
      omega
    simp only [IoSystem.stepReplies, serving.rx, IoSystem.receive, IoServer.receive, serving.phase,
      IoServer.notifRx, stops] at handles
    cases handles
  · intro room
    rcases @notifRx _ data serving room with ⟨system', replies, done, -⟩
    rw [done]
    rfl

/-- Every step but the last, an EXIT, is one of the nine. -/
theorem serves {event : IoEvent} {system' : IoSystem} {replies : List Reply}
    (serving : Serving system) (stepped : system.stepReplies event = some (system', replies))
    (noExit : ∀ sender msg, event = .client sender msg → msg.type ≠ .exit) :
    Serves system event system' replies := by
  have same : ∀ {system'' replies''}, system.stepReplies event = some (system'', replies'') →
      Serves system event system'' replies'' → Serves system event system' replies := by
    intro system'' replies'' done serves
    rcases Prod.mk.inj (Option.some.inj (done.symm.trans stepped)) with ⟨rfl, rfl⟩
    exact serves
  have handles : (system.stepReplies event).isSome := by
    rw [stepped]
    rfl
  cases event with
  | client sender msg =>
      by_cases guards : system.IsNotifier sender ∨ msg.type = .notifRx ∨ msg.type = .notifTx ∨
          (system.pending sender).isSome
      · rw [IoSystem.stepReplies, if_pos guards] at stepped
        cases stepped
      · simp only [not_or, Option.not_isSome_iff_eq_none] at guards
        rcases guards with ⟨isClient, notRx, notTx, free⟩
        cases type : msg.type with
        | clientRead =>
            have inBounds := (serving.clientRead_isSome_iff isClient free type).mp handles
            rcases serving.clientRead isClient free type inBounds with ⟨_, _, done, serves⟩
            exact same done serves
        | clientWrite =>
            rcases (serving.clientWrite_isSome_iff isClient free type).mp handles with
              ⟨inMessage, room⟩
            rcases serving.clientWrite isClient free type inMessage room with
              ⟨_, _, done, serves⟩
            exact same done serves
        | exit => exact absurd type (noExit sender msg rfl)
        | notifRx => exact absurd type notRx
        | notifTx => exact absurd type notTx
        | notifCts =>
            rw [stepReplies_client isClient free notRx notTx, IoSystem.receive] at stepped
            simp [IoServer.receive, serving.phase, type] at stepped
  | rx data =>
      rcases @notifRx _ data serving (serving.rx_isSome_iff.mp handles) with ⟨_, _, done, serves⟩
      exact same done serves
  | tx data =>
      cases tx : system.tx with
      | transmitting rep i =>
          by_cases busy : i < rep.len
          · simp [IoSystem.stepReplies, tx, busy] at stepped
          · rcases @notifTx _ data rep i serving tx (by omega) with ⟨_, _, done, serves⟩
            exact same done serves
      | blocked => simp [IoSystem.stepReplies, tx] at stepped
      | exited => simp [IoSystem.stepReplies, tx] at stepped
  | store =>
      cases tx : system.tx with
      | transmitting rep i =>
          by_cases next : i < rep.len
          · have done : system.stepReplies .store =
                some ({ system with tx := .transmitting rep (i + 1) }, []) := by
              simp [IoSystem.stepReplies, tx, next]
            exact same done (.store tx next)
          · simp [IoSystem.stepReplies, tx, next] at stepped
      | blocked => simp [IoSystem.stepReplies, tx] at stepped
      | exited => simp [IoSystem.stepReplies, tx] at stepped

end Serving

/-- The nine steps keep the invariant. -/
theorem Serves.serving {event : IoEvent} {system' : IoSystem} {replies : List Reply}
    (serves : Serves system event system' replies) (serving : Serving system) :
    Serving system' := by
  rcases serving with ⟨phase, tids_ne, inSize, outSize, rx, tx, ready_iff, idle, transmitted,
    parked, reads⟩
  cases serves with
  | @park sender msg isRead isClient free empty =>
      refine ⟨phase, tids_ne, inSize, outSize, rx, tx, ready_iff, idle, transmitted, ?_, ?_⟩
      · exact fun _ => ⟨empty, by simp⟩
      · intro tid request isPending
        dsimp only at isPending
        rcases eq_or_ne tid sender with rfl | tidNe
        · rw [Function.update_self, Option.some.injEq] at isPending
          exact ⟨isClient, isPending ▸ isRead⟩
        · rw [Function.update_of_ne tidNe] at isPending
          exact reads tid request isPending
  | fetch isRead isClient free nonempty moved len size =>
      refine ⟨phase, tids_ne, size.trans inSize, outSize, rx, tx, ready_iff, idle, transmitted, ?_,
        reads⟩
      exact fun isReady => absurd (parked isReady).1 nonempty
  | write isWrite isClient free busy put size len =>
      refine ⟨phase, tids_ne, inSize, size.trans outSize, rx, tx, ready_iff, ?_, transmitted,
        parked, reads⟩
      intro isReady
      rw [busy] at isReady
      cases isReady
  | push isWrite isClient free ready bytes outLen empty size len =>
      refine ⟨phase, tids_ne, inSize, size.trans outSize, rx, nofun, ?_, nofun, ?_, parked, reads⟩
      · simp
      · rintro rep i same
        rcases TxNotifier.transmitting.inj same with ⟨rfl, -⟩
        exact outLen
  | take nobody put size len =>
      refine ⟨phase, tids_ne, size.trans inSize, outSize, rx, tx, ready_iff, idle, transmitted, ?_,
        reads⟩
      intro isReady
      rw [nobody] at isReady
      cases isReady
  | hand isReady bytes empty size len =>
      refine ⟨phase, tids_ne, size.trans inSize, outSize, rx, tx, ready_iff, idle, transmitted,
        nofun, ?_⟩
      intro tid request isPending
      dsimp only at isPending
      rcases eq_or_ne tid system.server.clientTid with rfl | tidNe
      · rw [Function.update_self] at isPending
        cases isPending
      · rw [Function.update_of_ne tidNe] at isPending
        exact reads tid request isPending
  | pull done all moved outLen size =>
      refine ⟨phase, tids_ne, inSize, size.trans outSize, rx, nofun, ?_, ?_, ?_, parked, reads⟩
      · have busy : system.server.txReady ≠ true := by
          rw [ne_eq, ready_iff, done]
          exact nofun
        simp [busy]
      · intro isReady
        rw [ready_iff, done] at isReady
        cases isReady
      · rintro rep' i' same
        rcases TxNotifier.transmitting.inj same with ⟨rfl, -⟩
        exact outLen
  | await done all empty empty' size =>
      exact ⟨phase, tids_ne, inSize, size.trans outSize, rx, nofun, by simp, fun _ => empty', nofun,
        parked, reads⟩
  | @store rep i transmits next =>
      refine ⟨phase, tids_ne, inSize, outSize, rx, nofun, ?_, idle, ?_, parked, reads⟩
      · rw [ready_iff, transmits]
        simp
      · rintro rep' i' same
        rcases TxNotifier.transmitting.inj same with ⟨rfl, -⟩
        exact transmitted rep i transmits

end Events

section Transitions

variable {transition : IoTransition}

/-- The event is the request of a client that the server shuts down. -/
def IoEvent.isExit : IoEvent → Bool
  | .client _ msg => msg.type == .exit
  | _ => false

theorem Serving.serves_transition (serving : Serving transition.before)
    (stepped : transition.before.step transition.input = some transition.after)
    (noExit : transition.input.isExit = false) :
    Serves transition.before transition.input transition.after transition.replies := by
  rcases Option.map_eq_some_iff.mp stepped with ⟨⟨after, replies⟩, done, rfl⟩
  have sameReplies : transition.replies = replies := by
    rw [IoTransition.replies, done]
    rfl
  rw [sameReplies]
  apply serving.serves done
  rintro sender msg same isExit
  simp [same, IoEvent.isExit, isExit] at noExit

theorem serving_start {tx rx : Tid} (tidsNe : tx ≠ rx) (inBuf outBuf : ℕ → Byte)
    (rep : IoServerMsg) : Serving (IoSystem.start tx rx inBuf outBuf rep) where
  phase := rfl
  tids_ne := tidsNe
  inSize := rfl
  outSize := rfl
  rx := rfl
  tx := nofun
  ready_iff := by simp [IoSystem.start]
  idle := nofun
  transmitted := by
    rintro rep' i same
    rcases TxNotifier.transmitting.inj same with ⟨rfl, -⟩
    exact Nat.zero_le _
  parked := nofun
  reads := nofun

theorem Serving.step (serving : Serving transition.before)
    (stepped : transition.before.step transition.input = some transition.after)
    (noExit : transition.input.isExit = false) : Serving transition.after :=
  (serving.serves_transition stepped noExit).serving serving

/-- Every step of the main loop preserves that the server is in it. -/
theorem serving_preserved (transition : IoTransition)
    (stepped : transition.before.step transition.input = some transition.after)
    (noExit : transition.input.isExit = false) (serving : Serving transition.before) :
    Serving transition.after := serving.step stepped noExit

/-- The replies of a step that go to a task. -/
def IoTransition.repliesTo (transition : IoTransition) (tid : Tid) : List Reply :=
  transition.replies.filter fun reply => reply.tid == tid

end Transitions

end ArmKernel
