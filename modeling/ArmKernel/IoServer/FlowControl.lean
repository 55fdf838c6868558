import ArmKernel.IoServer
import ArmKernel.Lib.Rendezvous

/-!
# Flow control on COM1

io_server.c: the TX notifier of COM1 writes the bytes that the IO server gives it to the data
register of UART1. Before each byte it receives a message from the CTS notifier, which sends
one after a modem status interrupt when the UART shows that the other side takes bytes.

`FlowControl` is the two notifiers and the rendezvous between them. The rest of the system is
what their calls return: `AwaitEvent` when the kernel has handled an interrupt, `Create`,
`WhoIs`, `Time` and `DelayUntil`, and a `Send` to the IO server. It can be anything at any time.
Nobody else sends to the TX notifier after it was given its COM number, and nobody but the TX
notifier knows the CTS notifier. That the calls of the kernel are those of a `Rendezvous` is
proved for the kernel as lists of tasks.

The messages between the notifiers are empty. `panic` ends everything, so a step that panics
has no result, as one that leaves an array has none. The notifiers of COM2 and what is printed
are left out.
-/

namespace ArmKernel

open PartialMachine

def uart1Base : Addr := 0x808c0000
def uartDataOffset : Word := 0x0
def uartFlagOffset : Word := 0x18
def ctsMask : Word := 0x1

/-- The address of `REG(base, offset)` of main.c. -/
def reg (base : Addr) (offset : Word) : Addr := base + offset

/-- `uart_base + index`, where `uart_base` points to words of four bytes. -/
def wordAt (base : Addr) (index : Word) : Addr := base + 4 * index

inductive Notifier where
  | tx
  | cts
  deriving DecidableEq

/-- Where `io_server_notifier_tx_main` is. Between the call of `Receive`, or of a `Send` to the
CTS notifier, and its return it is `receiving` or `greeting`. -/
inductive TxPhase where
  | start
  | create
  | greet
  | greeting
  | whoIs
  | awaitEvent
  | receive
  | receiving
  | reply
  | write
  | request
  | exited
  deriving DecidableEq

/-- The variables of `io_server_notifier_tx_main`. -/
structure TxMain where
  phase : TxPhase
  /-- `none` if it is the tid of no task. -/
  ctsNotifierTid : Option Notifier
  rep : IoServerMsg
  i : ℕ
  res : ℤ

/-- The head of the loop over the bytes of `rep`. -/
def TxMain.next (tx : TxMain) : TxMain :=
  { tx with phase := if tx.i < tx.rep.len then .awaitEvent else .request }

/-- Where `io_server_notifier_cts_main` is; `absent` before it is created. -/
inductive CtsPhase where
  | absent
  | whoIs
  | receive
  | receiving
  | reply
  | send
  | sending
  | time
  | awaitEvent
  | delayUntil
  deriving DecidableEq

structure CtsMain where
  phase : CtsPhase
  txNotifierTid : Option Notifier
  curTime : Word

structure FlowControl where
  tx : TxMain
  cts : CtsMain
  rendezvous : Rendezvous Notifier

/-- The steps of the TX notifier: its calls, with what they return. -/
inductive TxEvent where
  /-- `Receive(&sender_tid, &com_num, …)` gives it COM1, and it replies. -/
  | comNum (res : ℤ)
  | create (created : Bool)
  | greet
  | greeted
  | whoIs
  | awaitEvent (res : ℤ)
  | receive
  | received
  | reply
  | write
  /-- `Send(io_server_tid, …)` returns. Its result is a variable of its own. -/
  | request (res : ℤ) (rep : IoServerMsg)

inductive CtsEvent where
  | whoIs
  | receive
  | received
  | reply
  | send
  | sent
  | time (curTime : Word)
  /-- `AwaitEvent(SYS_CALL_EVENT_UART1_MS)` returns, and `uart` is what is read then. -/
  | awaitEvent (res : ℤ) (uart : Addr → Word)
  | delayUntil (time : Word)

inductive FlowEvent where
  | tx (event : TxEvent)
  | cts (event : CtsEvent)

namespace FlowControl

/-- The TX notifier has been created. Of `rep` only the length is initialised. -/
def start : FlowControl where
  tx := ⟨.start, none, ⟨.notifTx, fun _ => 0, 0⟩, 0, 0⟩
  cts := ⟨.absent, none, 0⟩
  rendezvous := .idle

def txAt (system : FlowControl) (phase : TxPhase) : FlowControl :=
  { system with tx := { system.tx with phase := phase } }

def ctsAt (system : FlowControl) (phase : CtsPhase) : FlowControl :=
  { system with cts := { system.cts with phase := phase } }

/-- `Reply(tid, NULL, 0)`; its result is ignored. -/
def replyTo (rendezvous : Rendezvous Notifier) : Option Notifier → Rendezvous Notifier
  | none => rendezvous
  | some target => rendezvous.reply target

def testsClear (uart : Addr → Word) : Bool :=
  uart (wordAt uart1Base uartFlagOffset) &&& ctsMask = 0

def txStep (system : FlowControl) : TxEvent → Option FlowControl
  | .comNum res =>
      if system.tx.phase = .start ∧ ¬res < 0 then
        some { system with tx := { system.tx with phase := .create, res := res } }
      else none
  | .create created =>
      if system.tx.phase = .create then
        some { system with
          tx := { system.tx with
            phase := .greet
            ctsNotifierTid := if created then some .cts else none }
          cts := if created then { system.cts with phase := .whoIs } else system.cts }
      else none
  | .greet =>
      if system.tx.phase = .greet then
        match system.tx.ctsNotifierTid with
        -- the `Send` fails, which is ignored
        | none => some (system.txAt .whoIs)
        | some receiver =>
            some { system.txAt .greeting with
              rendezvous := system.rendezvous.send .tx receiver }
      else none
  | .greeted => if system.tx.phase = .greeting then some (system.txAt .whoIs) else none
  | .whoIs =>
      if system.tx.phase = .whoIs then
        some { system with tx := { system.tx with i := 0 }.next }
      else none
  | .awaitEvent res =>
      if system.tx.phase = .awaitEvent then
        some { system with tx := { system.tx with phase := .receive, res := res } }
      else none
  | .receive =>
      if system.tx.phase = .receive then
        some { system.txAt .receiving with rendezvous := system.rendezvous.receive .tx }
      else none
  | .received =>
      if system.tx.phase = .receiving then
        some { system with
          tx := { system.tx with
            phase := .reply
            ctsNotifierTid := system.rendezvous.source .tx } }
      else none
  | .reply =>
      if system.tx.phase = .reply then
        some { system.txAt .write with
          rendezvous := replyTo system.rendezvous system.tx.ctsNotifierTid }
      else none
  | .write =>
      if system.tx.phase = .write ∧ ¬system.tx.res < 0 ∧
          system.tx.i < ioServerMsgMaxDataLen then
        some { system with tx := { system.tx with i := system.tx.i + 1 }.next }
      else none
  | .request res rep =>
      if system.tx.phase = .request ∧ ¬res < 0 then
        if rep.type = .exit then
          some (system.txAt .exited)
        else
          some { system with tx := { system.tx with rep := rep, i := 0 }.next }
      else none

def ctsStep (system : FlowControl) : CtsEvent → Option FlowControl
  | .whoIs => if system.cts.phase = .whoIs then some (system.ctsAt .receive) else none
  | .receive =>
      if system.cts.phase = .receive then
        some { system.ctsAt .receiving with rendezvous := system.rendezvous.receive .cts }
      else none
  | .received =>
      if system.cts.phase = .receiving then
        some { system with
          cts := { system.cts with
            phase := .reply
            txNotifierTid := system.rendezvous.source .cts } }
      else none
  | .reply =>
      if system.cts.phase = .reply then
        some { system.ctsAt .send with
          rendezvous := replyTo system.rendezvous system.cts.txNotifierTid }
      else none
  | .send =>
      if system.cts.phase = .send then
        match system.cts.txNotifierTid with
        | none => none
        | some receiver =>
            some { system.ctsAt .sending with
              rendezvous := system.rendezvous.send .cts receiver }
      else none
  | .sent => if system.cts.phase = .sending then some (system.ctsAt .time) else none
  | .time curTime =>
      if system.cts.phase = .time then
        some { system with cts := { system.cts with phase := .awaitEvent, curTime := curTime } }
      else none
  | .awaitEvent res uart =>
      if system.cts.phase = .awaitEvent ∧ ¬res < 0 then
        some (system.ctsAt (if testsClear uart then .delayUntil else .time))
      else none
  | .delayUntil time =>
      if system.cts.phase = .delayUntil ∧ time = system.cts.curTime + 1 then
        some (system.ctsAt .send)
      else none

def step (system : FlowControl) : FlowEvent → Option FlowControl
  | .tx event => if system.rendezvous.status .tx = .ready then system.txStep event else none
  | .cts event => if system.rendezvous.status .cts = .ready then system.ctsStep event else none

/-- What a step of the TX notifier stores in memory. -/
def stores (system : FlowControl) : FlowEvent → List (Addr × Word)
  | .tx .write =>
      [(wordAt uart1Base uartDataOffset,
        0xff &&& (system.tx.rep.data system.tx.i).setWidth 32)]
  | _ => []

end FlowControl
end ArmKernel
