import ArmKernel.Lib.Run
import ArmKernel.QueueFamily
import ArmKernel.TaskDescriptor

/-!
# The clock server

clock_server.c: a server that counts the ticks of its notifier and leaves tasks waiting until
a given number of ticks has passed. It keeps the waiting tasks in the queue `blocked`, in
the order of their deadlines, with nodes that it takes from a second queue, `free_list`, and
gives back to it. New nodes are linked into `blocked` by hand.

The times of the messages are of type `int` and the count of ticks is unsigned, so that a
comparison of a time with the count is one of unsigned numbers and a comparison of two times
one of signed ones. The main loop ends with EXIT; the loop after it clears out the tasks that
are not the notifier. The output on COM2, and the server's calls of `RegisterAs` and `Create`
before its loop, are left out.
-/

namespace ArmKernel

open PartialMachine

/-- An index into `entries`. The node of an entry is the one with its index. -/
abbrev EntryIndex := Fin taskDescriptorMaxTasks

inductive ClockQueue where
  | blocked
  | freeList
  deriving DecidableEq

structure ClockEntry where
  ticks : Word
  tid : Tid

structure ClockLists where
  heap : QueueHeap ClockQueue EntryIndex EntryIndex
  entries : EntryIndex → ClockEntry

/-- `clock_server_msg_type_t`. Other values of `msg.type` are handled as `error` is. -/
inductive ClockServerMsgType where
  | tick
  | time
  | delay
  | delayUntil
  | exit
  | error
  deriving DecidableEq

structure ClockServerMsg where
  type : ClockServerMsgType
  time : Word
  deriving DecidableEq

structure ClockReply where
  tid : Tid
  msg : ClockServerMsg
  deriving DecidableEq

/-- The two loops of `clock_server_main`, and its end. -/
inductive ClockPhase where
  | serving
  | exiting (exiterTid : Tid)
  | exited
  deriving DecidableEq

structure ClockServer where
  senderTid : Tid
  msg : ClockServerMsg
  ticks : Word
  lists : ClockLists
  phase : ClockPhase

namespace ClockLists

def initEntry (lists : ClockLists) (i : EntryIndex) : Option ClockLists := do
  let (_, heap) ← queuePut (queueNodeInit lists.heap i (some i)) .freeList (some i)
  some { lists with heap := heap }

def init (lists : ClockLists) : Option ClockLists :=
  (List.finRange taskDescriptorMaxTasks).foldlM initEntry
    { lists with heap := queueInit (queueInit lists.heap .blocked) .freeList }

/-- The check whether a blocked task should be made ready. The result is the task, if there is
one, and the new lists. -/
def release (lists : ClockLists) (ticks : Word) : Option (Option Tid × ClockLists) :=
  if !queueEmpty lists.heap .blocked then do
    let front ← queuePeek lists.heap .blocked
    let front ← front
    if ticks > (lists.entries front).ticks then do
      let (_, heap) ← queueGet lists.heap .blocked
      let (_, heap) ← queuePut heap .freeList (some front)
      some (some (lists.entries front).tid, { lists with heap := heap })
    else
      some (none, lists)
  else
    some (none, lists)

/-- The loop over the blocked entries. It ends at the node behind which the new one belongs. -/
def placeLoop (lists : ClockLists) (newTicks : Word) : ℕ → EntryIndex → Option EntryIndex
  | 0, _ => none
  | remaining + 1, currNode =>
      match (lists.heap.node currNode).next with
      | none => some currNode
      | some next => do
          let nextNodeData ← (lists.heap.node next).data
          if (lists.entries nextNodeData).ticks.toInt > newTicks.toInt then
            some currNode
          else
            lists.placeLoop newTicks remaining next

def insert (lists : ClockLists) (newNode : EntryIndex) : Option ClockLists :=
  let heap := lists.heap
  if queueEmpty heap .blocked then
    some { lists with heap := (queuePutFront heap .blocked (some newNode)).2 }
  else do
    let front ← queuePeek heap .blocked
    let front ← front
    if (lists.entries front).ticks.toInt > (lists.entries newNode).ticks.toInt then
      some { lists with heap := (queuePutFront heap .blocked (some newNode)).2 }
    else do
      let first ← (heap.queue .blocked).front
      let currNode ← lists.placeLoop (lists.entries newNode).ticks taskDescriptorMaxTasks first
      let heap := heap.setNext newNode (heap.node currNode).next
      let heap := heap.setNext currNode (some newNode)
      let queue := heap.queue .blocked
      some { lists with
        heap := heap.setQueue .blocked { queue with elements := queue.elements + 1 } }

/-- A task is left waiting. With no entry free, a null pointer is followed. -/
def block (lists : ClockLists) (ticks : Word) (tid : Tid) : Option ClockLists := do
  let (newNode, heap) ← queueGet lists.heap .freeList
  let newNode ← newNode
  ClockLists.insert
    { heap := heap
      entries := Function.update lists.entries newNode { ticks := ticks, tid := tid } } newNode

end ClockLists

namespace ClockServer

def answer (server : ClockServer) (msg : ClockServerMsg) : ClockServer × List ClockReply :=
  ({ server with msg := msg }, [⟨server.senderTid, msg⟩])

def tick (server : ClockServer) : Option (ClockServer × List ClockReply) := do
  -- unblock notifier ASAP
  let notified : ClockReply := ⟨server.senderTid, server.msg⟩
  let ticks := server.ticks + 1
  let (woken, lists) ← server.lists.release ticks
  let server := { server with ticks := ticks, lists := lists }
  match woken with
  | none => some (server, [notified])
  | some tid =>
      let msg := { server.msg with time := ticks }
      some ({ server with msg := msg }, [notified, ⟨tid, msg⟩])

/-- The case DELAYUNTIL, with the time that the case DELAY leaves when it falls through. -/
def delayUntil (server : ClockServer) (time : Word) : Option (ClockServer × List ClockReply) :=
  if time.toInt ≤ 0 then
    some (server.answer { type := .error, time := 0 })
  else if time < server.ticks then
    some (server.answer { type := .tick, time := server.ticks })
  else do
    let lists ← server.lists.block time server.senderTid
    some ({ server with msg := { server.msg with time := time }, lists := lists }, [])

def delay (server : ClockServer) : Option (ClockServer × List ClockReply) :=
  if server.msg.time.toInt ≤ 0 then
    some (server.answer { type := .error, time := 0 })
  else
    server.delayUntil (server.msg.time + server.ticks)

def handle (server : ClockServer) : Option (ClockServer × List ClockReply) :=
  match server.msg.type with
  | .tick => server.tick
  | .time => some (server.answer { server.msg with time := server.ticks })
  | .delay => server.delay
  | .delayUntil => server.delayUntil server.msg.time
  | .exit => some ({ server with phase := .exiting server.senderTid }, [])
  | .error => some (server, [])

def drain (server : ClockServer) (exiterTid : Tid) : ClockServer × List ClockReply :=
  if server.msg.type ≠ .tick then
    (server, [])
  else
    let rep : ClockServerMsg := { type := .exit, time := BitVec.ofInt 32 (-1) }
    ({ server with phase := .exited }, [⟨server.senderTid, rep⟩, ⟨exiterTid, rep⟩])

def received (server : ClockServer) : Option (ClockServer × List ClockReply) :=
  match server.phase with
  | .serving => server.handle
  | .exiting exiterTid => some (server.drain exiterTid)
  | .exited => none

end ClockServer

inductive ClockEvent where
  | receive (sender : Tid) (msg : ClockServerMsg)
  /-- `Receive` returns a negative value, and its arguments are as they were. -/
  | receiveFails
  deriving DecidableEq

namespace ClockServer

def load (server : ClockServer) : ClockEvent → ClockServer
  | .receive sender msg => { server with senderTid := sender, msg := msg }
  | .receiveFails => server

def stepReplies (server : ClockServer) (event : ClockEvent) :
    Option (ClockServer × List ClockReply) := (server.load event).received

def step (server : ClockServer) (event : ClockEvent) : Option ClockServer :=
  (server.stepReplies event).map Prod.fst

def start (msg : ClockServerMsg) (lists : ClockLists) : Option ClockServer := do
  let lists ← lists.init
  some { senderTid := 0, msg := msg, ticks := 0, lists := lists, phase := .serving }

end ClockServer

abbrev ClockTransition := Transition ClockServer ClockEvent

end ArmKernel
