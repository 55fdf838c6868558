import ArmKernel.Scheduler

/-!
# The event handler

event_handler.c: one queue of waiting tasks for each of the 16 event numbers. `event_t`
is unsigned, so the test `event < 0` of the source never succeeds.
-/

namespace ArmKernel

def eventHandlerInit (kernel : Kernel) : Kernel :=
  { kernel with
    heap := (List.range eventHandlerMaxEvents).foldl
      (fun heap index => queueInit heap (.awaitQ (BitVec.ofNat 32 index))) kernel.heap }

def eventHandlerAddTask (kernel : Kernel) (event : Word) (td : Tid) : Option (ℤ × Kernel) :=
  if event.toNat ≥ eventHandlerMaxEvents then
    some (-1, kernel)
  else do
    let kernel := kernel.modify (·.setState td .eventBlocked)
    let (err, heap) ← queuePut kernel.heap (.awaitQ event) (some ⟨.awaitNode, td⟩)
    let kernel := { kernel with heap := heap }
    if err = 0 then
      some (0, kernel)
    else
      some (-2, kernel)

/-- The loop of `event_handler_handle_event`, for at most `fuel` iterations. -/
def eventHandlerLoop (event : Word) (ret : ℤ) : ℕ → Kernel → Option Kernel
  | 0, kernel => if queueEmpty kernel.heap (.awaitQ event) then some kernel else none
  | fuel + 1, kernel =>
      if queueEmpty kernel.heap (.awaitQ event) then
        some kernel
      else do
        let (td, heap) ← queueGet kernel.heap (.awaitQ event)
        let td ← td
        let kernel := { kernel with heap := heap }
        let kernel := kernel.modify (taskDescriptorSetReturnValue · td ret)
        let (_, kernel) ← schedulerPut kernel td
        eventHandlerLoop event ret fuel kernel

/-- Each iteration takes one task from the queue, so its size bounds their number. -/
def eventHandlerHandleEvent (kernel : Kernel) (event : Word) (ret : ℤ) : Option (ℤ × Kernel) :=
  if event.toNat ≥ eventHandlerMaxEvents then
    some (-1, kernel)
  else do
    let fuel := (queueSize kernel.heap (.awaitQ event)).toNat
    let kernel ← eventHandlerLoop event ret fuel kernel
    some (0, kernel)

def eventHandlerEmpty (heap : QueueHeap QueueRef NodeRef Tid) : Bool :=
  (List.range eventHandlerMaxEvents).all fun index =>
    queueEmpty heap (.awaitQ (BitVec.ofNat 32 index))

end ArmKernel
