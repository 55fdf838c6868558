import ArmKernel.Bwio
import ArmKernel.Bwio.Format
import ArmKernel.Bwio.Numerals
import ArmKernel.ClockServer
import ArmKernel.ClockServer.BackPointer
import ArmKernel.ClockServer.Bookkeeping
import ArmKernel.ClockServer.Clients
import ArmKernel.ClockServer.Delays
import ArmKernel.ClockServer.FailedReceive
import ArmKernel.ClockServer.Handling
import ArmKernel.ClockServer.Lists
import ArmKernel.ClockServer.Shutdown
import ArmKernel.ClockServer.Timeliness
import ArmKernel.ContextSwitch.Entering
import ArmKernel.ContextSwitch.Leaving
import ArmKernel.EventHandler
import ArmKernel.IoServer
import ArmKernel.IoServer.Credits
import ArmKernel.IoServer.FlowControl
import ArmKernel.IoServer.Handshake
import ArmKernel.IoServer.Input
import ArmKernel.IoServer.Output
import ArmKernel.IoServer.Putstr
import ArmKernel.IoServer.Serving
import ArmKernel.IoServer.Shutdown
import ArmKernel.Kernel.ContextSwitch
import ArmKernel.Kernel.Main
import ArmKernel.Kernel.Metrics
import ArmKernel.Kernel.SysCalls
import ArmKernel.Lib.Arm
import ArmKernel.Lib.BoundedFifo
import ArmKernel.Lib.Chain
import ArmKernel.Lib.Digits
import ArmKernel.Lib.LowestBit
import ArmKernel.Lib.Placement
import ArmKernel.Lib.PriorityLists
import ArmKernel.Lib.Rendezvous
import ArmKernel.Lib.Run
import ArmKernel.Lib.Spans
import ArmKernel.Lib.Window
import ArmKernel.ListKernel
import ArmKernel.ListKernel.Agreement
import ArmKernel.ListKernel.Copies
import ArmKernel.ListKernel.Frame
import ArmKernel.ListKernel.Kept
import ArmKernel.ListKernel.Location
import ArmKernel.ListKernel.Messages
import ArmKernel.ListKernel.Rendezvous
import ArmKernel.ListKernel.SafeSteps
import ArmKernel.ListKernel.SendQueues
import ArmKernel.ListKernel.Soundness
import ArmKernel.MainLoop
import ArmKernel.Memory
import ArmKernel.NameServer
import ArmKernel.NameServer.NameMap
import ArmKernel.NameServer.Service
import ArmKernel.Properties.BadTid
import ArmKernel.Properties.ContextSwitch
import ArmKernel.Properties.Create
import ArmKernel.Properties.Delivery
import ArmKernel.Properties.EventWakeUp
import ArmKernel.Properties.Genealogy
import ArmKernel.Properties.IdleExit
import ArmKernel.Properties.InterruptIsolation
import ArmKernel.Properties.MeteredKernel
import ArmKernel.Properties.NonIdleTime
import ArmKernel.Properties.Orphans
import ArmKernel.Properties.Panic
import ArmKernel.Properties.Receive
import ArmKernel.Properties.Rendezvous
import ArmKernel.Properties.Reply
import ArmKernel.Properties.SavedContext
import ArmKernel.Properties.Scheduling
import ArmKernel.Properties.TaskLocation
import ArmKernel.Properties.TransmitInterrupts
import ArmKernel.Properties.Turns
import ArmKernel.Properties.UartReceive
import ArmKernel.Properties.UserBuffers
import ArmKernel.Queue
import ArmKernel.Queue.Lists
import ArmKernel.Queue.MoveToFront
import ArmKernel.Queue.Shape
import ArmKernel.QueueFamily
import ArmKernel.Refinement
import ArmKernel.RingBuffer
import ArmKernel.RingBuffer.Machine
import ArmKernel.Scheduler
import ArmKernel.Strings
import ArmKernel.TaskDescriptor
import ArmKernel.TaskQueues
