import ArmKernel.Lib.Run
import ArmKernel.QueueFamily
import ArmKernel.Strings
import ArmKernel.TaskDescriptor

/-!
# The name server

name_server.c: a server that keeps which task registered which name. The names are in a
queue of nodes from a fixed array, each with an entry of a second array. A registration
takes the next node of the array and puts it in front of the queue, so that it hides the
earlier registrations of its name; no node is ever given back. Only the first 12 characters
of a name are in an entry or a message.

The clients build their messages on their stacks, where the server's variables are as well;
what these hold at first is a parameter of the model. A message that is not of the size of
`name_server_msg_t` makes `Receive` fail. The output on COM2 is left out.
-/

namespace ArmKernel

open PartialMachine

def nameServerMaxNameLen : ℕ := 12
def nameServerMaxNames : ℕ := 256

abbrev NameIndex := Fin nameServerMaxNames

structure NameMapEntry where
  name : ℕ → Byte
  tid : Tid

/-- `name_map_t`: the queue with its nodes, and the entries. -/
structure NameMap where
  heap : QueueHeap Unit NameIndex NameIndex
  nodeData : NameIndex → NameMapEntry

inductive NameServerMsgType where
  | reg
  | who
  | exit
  deriving DecidableEq

structure NameServerMsg where
  type : NameServerMsgType
  name : ℕ → Byte

def nameServerMsgInit (ctx : NameServerMsg) (type : NameServerMsgType) (name : CString) :
    NameServerMsg where
  type := type
  name := strncpy ctx.name name.chars nameServerMaxNameLen

/-- What `RegisterAs` returns when `Send` has returned `res` and has stored `rep`. -/
def registerAsResult (res _rep : ℤ) : ℤ :=
  if res ≠ 0 then
    if res = -1 then -1 else -2
  else
    0

/-- What `WhoIs` returns then, or `none` if it sends its message again. -/
def whoIsResult (res rep : ℤ) : Option ℤ :=
  if res ≠ 0 then
    if res = -1 then some (-1) else some (-2)
  else if rep = 1 then
    none
  else
    some rep

def nameMapEntryInit (ctx : NameMapEntry) : NameMapEntry where
  name := Function.update ctx.name 0 0
  tid := 0

def NameMap.initNode (ctx : NameMap) (i : NameIndex) : NameMap where
  heap := queueNodeInit ctx.heap i (some i)
  nodeData := Function.update ctx.nodeData i (nameMapEntryInit (ctx.nodeData i))

def nameMapInit (ctx : NameMap) : NameMap :=
  (List.finRange nameServerMaxNames).foldl NameMap.initNode
    { ctx with heap := queueInit ctx.heap () }

/-- The result code and the new map. When the queue has 256 nodes, the address of the new node
is behind `nodes`, and what is written through its data pointer is not defined. -/
def nameMapInsert (ctx : NameMap) (name : ℕ → Byte) (tid : Tid) : Option (Byte × NameMap) :=
  let elements := queueSize ctx.heap ()
  if inside : elements.toNat < nameServerMaxNames then do
    let newNode : NameIndex := ⟨elements.toNat, inside⟩
    let newEntry ← (ctx.heap.node newNode).data
    let nodeData := Function.update ctx.nodeData newEntry
      { name := strncpy (ctx.nodeData newEntry).name name nameServerMaxNameLen
        tid := tid }
    let (ret, heap) := queuePutFront ctx.heap () (some newNode)
    some (ret, { heap := heap, nodeData := nodeData })
  else
    none

/-- The loop of `name_map_find`. It does not end on a queue of more nodes than there are,
whose links form a cycle. -/
def nameMapFindLoop (ctx : NameMap) (name : ℕ → Byte) :
    ℕ → Option NameIndex → Option (Option NameIndex)
  | _, none => some none
  | 0, some _ => none
  | remaining + 1, some node => do
      let entry ← (ctx.heap.node node).data
      if strncmp (ctx.nodeData entry).name name nameServerMaxNameLen = 0 then
        some (some entry)
      else
        nameMapFindLoop ctx name remaining (ctx.heap.node node).next

def nameMapFind (ctx : NameMap) (name : ℕ → Byte) : Option (Option NameIndex) :=
  nameMapFindLoop ctx name nameServerMaxNames (ctx.heap.queue ()).front

/-- What the server replies: the variable `rep`, or the message itself at the end. -/
inductive NameServerRep where
  | rep (value : ℤ)
  | msg (msg : NameServerMsg)

structure NameReply where
  tid : Tid
  rep : NameServerRep

structure NameServer where
  nm : NameMap
  msg : NameServerMsg
  senderTid : Tid
  running : Bool

/-- What a task does: the variable `msg` in which it builds its message is a parameter. -/
inductive NameEvent where
  | registerAs (sender : Tid) (msg : NameServerMsg) (name : CString)
  | whoIs (sender : Tid) (msg : NameServerMsg) (name : CString)
  | nameServerExit (sender : Tid) (msg : NameServerMsg)
  | receiveFails

namespace NameServer

def loopEnd (server : NameServer) : NameServer × List NameReply :=
  if server.msg.type ≠ .exit then
    (server, [])
  else
    ({ server with running := false }, [⟨server.senderTid, .msg server.msg⟩])

def receive (server : NameServer) (senderTid : Tid) (msg : NameServerMsg) :
    Option (NameServer × List NameReply) :=
  let server := { server with senderTid := senderTid, msg := msg }
  match msg.type with
  | .reg => do
      let (rep, nm) ← nameMapInsert server.nm msg.name senderTid
      some ({ server with nm := nm }, [⟨senderTid, .rep rep.toNat⟩])
  | .who => do
      let entry ← nameMapFind server.nm msg.name
      let rep : ℤ := match entry with
        | none => 1
        | some entry => (server.nm.nodeData entry).tid.toNat
      some (server, [⟨senderTid, .rep rep⟩])
  | .exit => some server.loopEnd

def stepReplies (server : NameServer) (event : NameEvent) :
    Option (NameServer × List NameReply) :=
  if server.running then
    match event with
    | .registerAs sender msg name => server.receive sender (nameServerMsgInit msg .reg name)
    | .whoIs sender msg name => server.receive sender (nameServerMsgInit msg .who name)
    | .nameServerExit sender msg => server.receive sender { msg with type := .exit }
    | .receiveFails => some server.loopEnd
  else
    none

def step (server : NameServer) (event : NameEvent) : Option NameServer :=
  (server.stepReplies event).map Prod.fst

def start (nm : NameMap) (msg : NameServerMsg) : NameServer where
  nm := nameMapInit nm
  msg := msg
  senderTid := 0
  running := true

end NameServer

abbrev NameTransition := Transition NameServer NameEvent

def NameTransition.replies (transition : NameTransition) : List NameReply :=
  ((transition.before.stepReplies transition.input).map Prod.snd).getD []

end ArmKernel
