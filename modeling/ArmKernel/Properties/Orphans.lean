import ArmKernel.ClockServer.Delays
import ArmKernel.ListKernel.SendQueues
import ArmKernel.NameServer
import ArmKernel.Properties.EventWakeUp

/-!
# Tasks that wait for a task that has exited

`kernel_exit` sets the state of the task and nothing else, and `kernel_send` judges its target
by the tid, which stays in the descriptor. So a task that sends to one that has exited, or
that is still in its send queue when it exits, waits for ever, although a `Send` that cannot
be answered should fail and the wrappers of the servers should return -1. In a safe run
somebody waits for an exited task exactly if one of these two things has happened.
-/

namespace ArmKernel

open PartialMachine Placement

/-- The call neither sends to a task that has exited nor exits while tasks wait to send. -/
def SparesSenders (data : KernelData) (queues : QueueRef → List Tid) (active : Tid) :
    SysCall → Prop
  | .send tid _ _ _ _ => Created data.nextFreeTd tid → (data.tds tid).state ≠ .exited
  | .exit => queues (.sendQ active) = []
  | _ => True

instance (data : KernelData) (queues : QueueRef → List Tid) (active : Tid) (call : SysCall) :
    Decidable (SparesSenders data queues active call) :=
  match call with
  | .send tid _ _ _ _ =>
      inferInstanceAs (Decidable (Created data.nextFreeTd tid → (data.tds tid).state ≠ .exited))
  | .exit => inferInstanceAs (Decidable (queues (.sendQ active) = []))
  | .pass | .create .. | .mytid | .parenttid | .receive .. | .reply .. | .awaitEvent ..
  | .panic | .quit | .unknown => inferInstanceAs (Decidable True)

def Spares (kernel : Kernel) (activation : Activation) : Prop :=
  ∀ active entered call, callOf kernel activation = some (active, entered, call) →
    SparesSenders entered.toKernelData (queueTasks entered.heap) active call

instance (kernel : Kernel) (activation : Activation) : Decidable (Spares kernel activation) :=
  decidable_of_iff (∀ entry ∈ callOf kernel activation, SparesSenders entry.2.1.toKernelData
      (queueTasks entry.2.1.heap) entry.1 entry.2.2)
    ⟨fun spares active entered call calls => spares (active, entered, call) calls,
      fun spares entry calls => spares entry.1 entry.2.1 entry.2.2 calls⟩

/-- No task waits in the send queue of a task that has exited. -/
def NobodyOrphaned (kernel : Kernel) : Prop :=
  ∀ receiver, Created kernel.nextFreeTd receiver → (kernel.tds receiver).state = .exited →
    ∀ sender ∈ queueTasks kernel.heap (.sendQ receiver),
      (kernel.tds sender).state ≠ .receiveBlocked

/-- What the wrappers of the servers return when their `Send` returns the value. -/
structure WrappersReport (ret : ℤ) : Prop where
  delay : ∀ (send : ClockSend) tid ticks, (∀ msg, (send (tid.setWidth 8) msg).1 = ret) →
    ClockClient.delay send tid ticks = -1
  delayUntil : ∀ (send : ClockSend) tid ticks, (∀ msg, (send (tid.setWidth 8) msg).1 = ret) →
    ClockClient.delayUntil send tid ticks = -1
  time : ∀ (send : ClockSend) tid msg, (∀ msg, (send (tid.setWidth 8) msg).1 = ret) →
    ClockClient.time send tid msg = -1
  whoIs : ∀ rep, whoIsResult ret rep = some (-1)

def Runnable (before after : Kernel) (task : Tid) : Prop :=
  (after.tds task).state = .ready ∧
    task ∈ queueTasks after.heap (.priorityQ (before.tds task).priority)

/-- A `Send` to a task that has exited fails, and an `Exit` fails those that wait to send. -/
def HonoursExitCall (entered : Kernel) (active : Tid) : SysCall → Prop
  | .send tid msg msgLen rep repLen =>
      Created entered.nextFreeTd tid → (entered.tds tid).state = .exited →
      ∃ ret after, kernelSend entered active tid msg msgLen rep repLen = some (ret, after) ∧
        ret < 0 ∧ Runnable entered after active ∧ WrappersReport ret
  | .exit => ∀ sender ∈ queueTasks entered.heap (.sendQ active),
      Runnable entered (kernelExit entered active).2 sender ∧
        ((kernelExit entered active).2.frames sender 0).toInt < 0
  | _ => True

def HonoursExit (kernel : Kernel) (activation : Activation) : Prop :=
  ∀ active entered call, callOf kernel activation = some (active, entered, call) →
    HonoursExitCall entered active call

namespace ListKernel

variable {kernel : ListKernel} {active receiver sender task : Tid} {call : SysCall}

theorem exited_of_sysCall (exited : ((kernel.sysCall active call).2.tds task).state = .exited) :
    (kernel.tds task).state = .exited ∨ task = active ∧ call = .exit := by
  cases call with
  | create priority code =>
      simp only [sysCall, create] at exited
      split_ifs at exited
      · exact .inl exited
      · exact .inl exited
      · simp only [setReturnValue_data, KernelData.setReturnValue_tds, put_state] at exited
        split_ifs at exited with isActive isNew
        rw [modify_data, taskDescriptorInitData_of_ne isNew] at exited
        exact .inl exited
  | parenttid =>
      simp only [sysCall, parenttid] at exited
      split at exited <;>
        simp only [setReturnValue_data, KernelData.setReturnValue_tds, put_state] at exited <;>
        split_ifs at exited <;> exact .inl exited
  | send tid msg msgLen rep repLen =>
      simp only [sysCall, send] at exited
      split_ifs at exited <;>
        simp only [setReturnValue_data, KernelData.setReturnValue_tds, put_state, modify_data,
          KernelData.recordReply, KernelData.recordMessage, setMessageParams_state,
          setState_state, KernelData.deliver_tds, enqueue_data] at exited <;>
        split_ifs at exited <;> exact .inl exited
  | receive tid msg msgLen =>
      simp only [sysCall, receive] at exited
      split at exited
      · simp only [setReturnValue_data, KernelData.setReturnValue_tds, modify_data,
          KernelData.recordReceive, setMessageParams_state, setState_state] at exited
        split_ifs at exited
        exact .inl exited
      · split_ifs at exited <;>
          simp only [setReturnValue_data, KernelData.setReturnValue_tds, put_state, modify_data,
            setState_state, KernelData.fetch_tds, setList_data] at exited <;>
          split_ifs at exited <;> exact .inl exited
  | reply tid rep repLen =>
      simp only [sysCall, reply] at exited
      split_ifs at exited <;>
        simp only [setReturnValue_data, KernelData.setReturnValue_tds, put_state, modify_data,
          KernelData.answer_tds] at exited <;>
        split_ifs at exited <;> exact .inl exited
  | awaitEvent event =>
      simp only [sysCall, awaitEvent] at exited
      split_ifs at exited <;>
        simp only [setReturnValue_data, KernelData.setReturnValue_tds, put_state, modify_data,
          setState_state, enqueue_data, enableInterrupt_tds] at exited <;>
        split_ifs at exited <;> exact .inl exited
  | exit =>
      simp only [sysCall, modify_data, setState_state] at exited
      split_ifs at exited with isActive
      · exact .inr ⟨isActive, rfl⟩
      · exact .inl exited
  | pass | mytid =>
      simp only [sysCall, setReturnValue_data, KernelData.setReturnValue_tds, put_state] at exited
      split_ifs at exited
      exact .inl exited
  | panic | quit | unknown => exact .inl exited

theorem exited_of_interrupt {cause : Interrupt}
    (exited : ((kernel.interrupt active cause).tds task).state = .exited) :
    (kernel.tds task).state = .exited := by
  cases cause with
  | event event ret keep1 keep2 =>
      simp only [interrupt, handleEvent, put_state, wake_tds] at exited
      split_ifs at exited
      exact exited
  | spurious =>
      simp only [interrupt, handleEvent, put_state, wake_tds] at exited
      split_ifs at exited
      exact exited
  | unexpected =>
      simp only [interrupt, put_state] at exited
      split_ifs at exited
      exact exited

/-- The send queues of tasks that have exited are empty. -/
def NoOrphans (kernel : ListKernel) : Prop :=
  ∀ receiver, (kernel.tds receiver).state = .exited → kernel.lists (.sendQ receiver) = []

theorem NoOrphans.sysCall (noOrphans : NoOrphans kernel)
    (running : Running kernel.nextFreeTd active kernel) (safe : SafeCall kernel.toKernelData call)
    (spares : SparesSenders kernel.toKernelData kernel.lists active call) :
    NoOrphans (kernel.sysCall active call).2 := by
  intro receiver exited
  rcases exited_of_sysCall exited with exitedBefore | ⟨rfl, rfl⟩
  · have emptyBefore := noOrphans receiver exitedBefore
    by_cases concerns : Concerns receiver active call
    · cases call with
      | send tid msg msgLen rep repLen =>
          obtain rfl : tid = receiver := concerns
          have badTid : (kernel.tds tid).tid ≠ tid := fun sameTid =>
            spares (safe sameTid) exitedBefore
          have refused : (kernel.send active tid msg msgLen rep repLen).1 ≠ 0 := by
            intro accepted
            exact badTid (send_accepted_iff.mp accepted).1
          rw [sysCall_refuses refused, emptyBefore]
      | receive tid msg msgLen =>
          obtain rfl : active = receiver := concerns
          rw [running.ready] at exitedBefore
          cases exitedBefore
      | _ => exact concerns.elim
    · rw [sysCall_sendQ concerns, emptyBefore]
  · exact spares

theorem NoOrphans.interrupt (noOrphans : NoOrphans kernel) (cause : Interrupt) :
    NoOrphans (kernel.interrupt active cause) := by
  intro receiver exited
  rw [interrupt_sendQ]
  exact noOrphans receiver (exited_of_interrupt exited)

theorem NoOrphans.entry (noOrphans : NoOrphans kernel) {activation : Activation}
    {entered : ListKernel} (runs : kernel.entry activation = some (active, entered)) :
    NoOrphans entered := by
  intro receiver exited
  rw [entry_state runs] at exited
  rw [entry_lists runs (by simp)]
  exact noOrphans receiver exited

/-- The sender is in the send queue of a task that has exited. -/
structure Orphaned (sender receiver : Tid) (kernel : ListKernel) : Prop where
  isCreated : Created kernel.nextFreeTd receiver
  exited : (kernel.tds receiver).state = .exited
  queued : sender ∈ kernel.lists (.sendQ receiver)

/-- A `Send` to a task that has exited orphans the sender. -/
theorem orphaned_send (running : Running kernel.nextFreeTd active kernel)
    (isCreated : Created kernel.nextFreeTd receiver)
    (exited : (kernel.tds receiver).state = .exited) (msg : Addr) (msgLen : Word) (rep : Addr)
    (repLen : Word) :
    Queued kernel (kernel.sysCall active (.send receiver msg msgLen rep repLen)).2 active receiver
      msg msgLen rep repLen := by
  apply sysCall_queues (running.sound.tid isCreated)
  rw [exited]
  simp

/-- The target of the `Send` stays as it was. -/
theorem send_exited (running : Running kernel.nextFreeTd active kernel)
    (isCreated : Created kernel.nextFreeTd receiver)
    (exited : (kernel.tds receiver).state = .exited) {msg : Addr} {msgLen : Word} {rep : Addr}
    {repLen : Word} : ((kernel.sysCall active (.send receiver msg msgLen rep repLen)).2.tds
      receiver).state = .exited := by
  have receiverNe : receiver ≠ active := by
    rintro rfl
    rw [running.ready] at exited
    cases exited
  have busy : (kernel.tds receiver).state ≠ .sendBlocked := by
    rw [exited]
    simp
  simp only [sysCall, send_queues (running.sound.tid isCreated) busy, queued, setReturnValue_data,
    KernelData.setReturnValue_tds, modify_data, KernelData.recordReply, KernelData.recordMessage,
    setMessageParams_state, setState_state, enqueue_data, if_neg receiverNe, exited]

theorem Orphaned.queue_sysCall (orphaned : Orphaned sender receiver kernel)
    (running : Running kernel.nextFreeTd active kernel) (call : SysCall) :
    sender ∈ (kernel.sysCall active call).2.lists (.sendQ receiver) := by
  by_cases concerns : Concerns receiver active call
  · cases call with
    | send tid msg msgLen rep repLen =>
        obtain rfl : tid = receiver := concerns
        have queued := orphaned_send running orphaned.isCreated orphaned.exited msg msgLen rep
          repLen
        rw [queued.queue]
        exact List.mem_append_left _ orphaned.queued
    | receive tid msg msgLen =>
        obtain rfl : active = receiver := concerns
        have exited := orphaned.exited
        rw [running.ready] at exited
        cases exited
    | _ => exact concerns.elim
  · rw [sysCall_sendQ concerns]
    exact orphaned.queued

theorem Orphaned.step {activation : Activation} (orphaned : Orphaned sender receiver kernel)
    (sound : Sound kernel.nextFreeTd kernel) (safe : kernel.Safe activation) :
    Orphaned sender receiver (kernel.step activation).2 := by
  have untouched := step_untouched sound safe orphaned.isCreated
    (sound.absent_of_exited orphaned.exited) (by simp [orphaned.exited])
    (by simp [orphaned.exited])
  refine ⟨lt_of_lt_of_le orphaned.isCreated (kernel.nextFreeTd_le_step _),
    by rw [untouched.td, orphaned.exited], ?_⟩
  cases runs : kernel.entry activation with
  | none =>
      rw [ListKernel.step, runs]
      exact orphaned.queued
  | some result =>
      rcases result with ⟨active, entered⟩
      have orphanedEntered : Orphaned sender receiver entered := by
        refine ⟨?_, ?_, ?_⟩
        · rw [entry_nextFreeTd runs]
          exact orphaned.isCreated
        · rw [entry_state runs, orphaned.exited]
        · rw [entry_lists runs (by simp)]
          exact orphaned.queued
      rw [step_of_entry runs]
      cases trap : activation.trap with
      | swi req => exact orphanedEntered.queue_sysCall (.of_entry sound runs) _
      | irq regs =>
          change sender ∈ (entered.interrupt active (decodeInterrupt regs)).lists (.sendQ receiver)
          rw [interrupt_sendQ]
          exact orphanedEntered.queued

end ListKernel

section Steps

variable {kernel kernel' : Kernel} {model : ListKernel} {activation : Activation}

/-- A call forsakes somebody on the lists as it does on the kernel. -/
theorem Refines.sparesSenders {active : Tid} {call : SysCall}
    (refines : Refines model.nextFreeTd kernel model)
    (running : Running model.nextFreeTd active model) :
    SparesSenders kernel.toKernelData (queueTasks kernel.heap) active call ↔
      SparesSenders model.toKernelData model.lists active call := by
  have isLive : Live model.nextFreeTd (.sendQ active) := running.isCreated
  cases call with
  | send tid msg msgLen rep repLen =>
      change (Created kernel.nextFreeTd tid → (kernel.tds tid).state ≠ .exited) ↔
        (Created model.nextFreeTd tid → (model.tds tid).state ≠ .exited)
      rw [refines.sameTds, congrArg KernelData.nextFreeTd refines.data]
  | exit =>
      change queueTasks kernel.heap (.sendQ active) = [] ↔ model.lists (.sendQ active) = []
      rw [refines.queueTasks_eq _ isLive]
  | _ => exact Iff.rfl

theorem Matched.noOrphans_step (isMatched : Matched kernel model)
    (safe : ArmKernel.Safe kernel activation) (spares : Spares kernel activation)
    (noOrphans : model.NoOrphans) : (model.step activation).2.NoOrphans := by
  cases runs : model.entry activation with
  | none =>
      rw [ListKernel.step, runs]
      exact noOrphans
  | some result =>
      rcases result with ⟨active, entered⟩
      have noOrphansEntered := noOrphans.entry runs
      rcases isMatched.kernelEntry runs with ⟨kernel', enters, -, refines, running⟩
      rw [ListKernel.step_of_entry runs]
      cases trap : activation.trap with
      | swi req =>
          have isCall : activation.trap.call kernel'.toKernelData active =
              some (decodeSysCall kernel'.toKernelData active req) := by
            rw [trap]
            rfl
          have spared := spares active kernel' _ (callOf_eq_some.mpr ⟨enters, isCall⟩)
          have safeCall := safe active kernel' _ enters isCall
          rw [refines.sparesSenders running, refines.data] at spared
          rw [refines.data] at safeCall
          exact noOrphansEntered.sysCall running safeCall spared
      | irq regs => exact noOrphansEntered.interrupt _

theorem Matched.nobodyOrphaned (isMatched : Matched kernel model)
    (noOrphans : model.NoOrphans) : NobodyOrphaned kernel := by
  rcases isMatched with ⟨refines, sound⟩
  intro receiver isCreated exited sender senderMem
  rw [congrArg KernelData.nextFreeTd refines.data] at isCreated
  rw [refines.sameTds] at exited
  rw [refines.queueTasks_eq (.sendQ receiver) isCreated, noOrphans receiver exited] at senderMem
  cases senderMem

theorem Matched.not_nobodyOrphaned {sender receiver : Tid} (isMatched : Matched kernel model)
    (orphaned : model.Orphaned sender receiver) : ¬NobodyOrphaned kernel := by
  rcases isMatched with ⟨refines, sound⟩
  intro nobody
  have isCreated := orphaned.isCreated
  rw [← congrArg KernelData.nextFreeTd refines.data] at isCreated
  have blocked : (kernel.tds sender).state = .receiveBlocked := by
    rw [refines.sameTds]
    exact sound.state orphaned.queued
  apply nobody receiver isCreated _ sender _ blocked
  · rw [refines.sameTds, orphaned.exited]
  · rw [refines.queueTasks_eq (.sendQ receiver) orphaned.isCreated]
    exact orphaned.queued

theorem Matched.orphaned_of_not_spares (isMatched : Matched kernel model)
    (safe : ArmKernel.Safe kernel activation) (forsakes : ¬Spares kernel activation) :
    ∃ sender receiver, (model.step activation).2.Orphaned sender receiver := by
  rw [Spares] at forsakes
  push Not at forsakes
  rcases forsakes with ⟨active, entered, call, calls, forsakes⟩
  rcases isMatched.called safe calls with ⟨model', runs, refines, running, -, isCall, same⟩
  rw [refines.sparesSenders running] at forsakes
  rw [same]
  cases call with
  | send tid msg msgLen rep repLen =>
      have exitedTarget : Created model'.nextFreeTd tid ∧ (model'.tds tid).state = .exited := by
        by_contra neither
        exact forsakes fun isCreated exited => neither ⟨isCreated, exited⟩
      rcases exitedTarget with ⟨isCreated, exited⟩
      have queued := ListKernel.orphaned_send running isCreated exited msg msgLen rep repLen
      refine ⟨active, tid, ?_, ?_, ?_⟩
      · exact lt_of_lt_of_le isCreated (model'.nextFreeTd_le_sysCall active _)
      · exact ListKernel.send_exited running isCreated exited
      · rw [queued.queue]
        exact List.mem_append_right _ (List.mem_singleton_self active)
  | exit =>
      rcases List.exists_mem_of_ne_nil _ forsakes with ⟨sender, senderMem⟩
      refine ⟨sender, active, running.isCreated, ?_, senderMem⟩
      exact KernelData.setState_self _
  | _ => exact absurd trivial forsakes

theorem Matched.honoursExit_iff (isMatched : Matched kernel model) :
    HonoursExit kernel activation ↔ Spares kernel activation := by
  constructor
  · intro honours active entered call calls
    have honoured := honours active entered call calls
    rcases callOf_eq_some.mp calls with ⟨enters, isCall⟩
    rcases isMatched.entered enters with ⟨model', runs, -, refines, running⟩
    cases call with
    | send tid msg msgLen rep repLen =>
        intro isCreated exited
        rcases honoured isCreated exited with ⟨ret, after, sent, negative, -, -⟩
        rw [congrArg KernelData.nextFreeTd refines.data] at isCreated
        rw [refines.sameTds] at exited
        rcases refines.kernelSend running (fun _ => isCreated) msg msgLen rep repLen
          with ⟨after', sent', -⟩
        rw [ListKernel.send_queues (running.sound.tid isCreated) (by simp [exited])] at sent'
        rcases (Prod.mk.inj (Option.some.inj (sent.symm.trans sent'))).1 with rfl
        exact absurd negative (lt_irrefl 0)
    | exit =>
        change queueTasks entered.heap (.sendQ active) = []
        apply List.eq_nil_iff_forall_not_mem.mpr
        intro sender senderMem
        rcases honoured sender senderMem with ⟨⟨ready, -⟩, -⟩
        rw [refines.queueTasks_eq (.sendQ active) running.isCreated] at senderMem
        have senderNe : sender ≠ active := fun same => running.absent _ (same ▸ senderMem)
        have blocked : (entered.tds sender).state = .receiveBlocked := by
          rw [refines.sameTds]
          exact running.sound.state senderMem
        have untouched : (kernelExit entered active).2.tds sender = entered.tds sender :=
          KernelData.setState_of_ne senderNe _
        rw [untouched, blocked] at ready
        cases ready
    | _ => trivial
  · intro spares active entered call calls
    have spared := spares active entered call calls
    cases call with
    | send tid msg msgLen rep repLen =>
        intro isCreated exited
        exact absurd exited (spared isCreated)
    | exit =>
        intro sender senderMem
        rw [show queueTasks entered.heap (.sendQ active) = [] from spared] at senderMem
        cases senderMem
    | _ => trivial

end Steps

/--
In every safe run: no task waits in the send queue of an exited task exactly if no step sent to
a task that had exited and no task exited while others waited to send to it; and only steps
that do so fail their senders.
-/
theorem run_nobodyOrphaned_iff {boot start final : Kernel} {userMain idleMain : Addr}
    {trace : List (Transition Kernel Activation)}
    (booted : init boot userMain idleMain = some start) (run : Run mainStep start trace final)
    (safe : ∀ transition ∈ trace, Safe transition.before transition.input) :
    (NobodyOrphaned final ↔ ∀ transition ∈ trace, Spares transition.before transition.input) ∧
    ∀ activation, HonoursExit final activation ↔ Spares final activation := by
  rcases run_matched booted run safe with ⟨model, isMatched⟩
  refine ⟨⟨?_, ?_⟩, fun activation => isMatched.honoursExit_iff⟩
  · intro nobody transition transitionMem
    by_contra forsakes
    rcases run.split_at transitionMem with ⟨front, back, rfl, before, after⟩
    rcases run_matched booted before fun earlier earlierMem =>
      safe earlier (List.mem_append_left _ earlierMem) with ⟨earlier, isMatched'⟩
    have isSafe := safe transition transitionMem
    rcases isMatched'.orphaned_of_not_spares isSafe forsakes with ⟨sender, receiver, orphaned⟩
    rcases isMatched'.mainStep (run.step_of_mem transitionMem) isSafe with ⟨-, stepped⟩
    -- nothing frees the sender until the end of the run
    rcases stepped.run_abstracts (ListKernel.Orphaned sender receiver) after
      (fun later laterMem => safe later (List.mem_append_right _ (List.mem_cons_of_mem _ laterMem)))
      (fun _ => id) orphaned (fun _ _ isMatched _ isSafe orphaned =>
        orphaned.step isMatched.sound (isMatched.safe isSafe)) with ⟨model', matched', orphaned'⟩
    exact matched'.not_nobodyOrphaned orphaned' nobody
  · intro spares
    have initially : (ListKernel.init boot.toKernelData userMain idleMain).NoOrphans := by
      intro receiver _
      simp [ListKernel.init, ListKernel.start, ListKernel.modify]
    rcases run_abstracts ListKernel.NoOrphans booted run (fun transition transitionMem =>
        And.intro (safe transition transitionMem) (spares transition transitionMem))
      (fun _ permitted => permitted.1) initially (fun _ _ isMatched _ permitted noOrphans =>
        isMatched.noOrphans_step permitted.1 permitted.2 noOrphans) with
      ⟨model', matched', noOrphans⟩
    exact matched'.nobodyOrphaned noOrphans

/-- A task that the first task has created exits. -/
def exitedActivations : List Activation := [callActivation 2 0 0 0, callActivation 0 0 0 0]

/-- The kernel after these activations. -/
def taskExited : Kernel := finalOf mainStep zeroedStart exitedActivations

/-- The first task sends to it. -/
def sendToExited : Activation :=
  { callActivation 5 0x100 0 0 with effect := fun mem => storeByte mem 0x100 2 }

theorem not_spares_sendToExited : ¬Spares taskExited sendToExited := by decide +kernel

theorem run_nobodyOrphaned_iff_exited :
    NobodyOrphaned taskExited ∧ ¬HonoursExit taskExited sendToExited := by
  have booted : init zeroedBoot 0 0 = some zeroedStart := rfl
  have runs : (record mainStep zeroedStart exitedActivations).isSome := by decide +kernel
  rcases run_nobodyOrphaned_iff booted (.of_isSome runs) (by decide +kernel) with ⟨nobody, honours⟩
  exact ⟨nobody.mpr (by decide +kernel), (honours sendToExited).not.mpr not_spares_sendToExited⟩

/-- The `Send` to a task that has exited leaves its sender waiting in a queue of nobody. -/
theorem exit_orphans : ¬∀ (boot start final : Kernel) (userMain idleMain : Addr)
    (trace : List (Transition Kernel Activation)),
    init boot userMain idleMain = some start → Run mainStep start trace final →
    NobodyOrphaned final ∧ ∀ activation, HonoursExit final activation := by
  intro claimed
  have booted : init zeroedBoot 0 0 = some zeroedStart := rfl
  have runs : (record mainStep zeroedStart exitedActivations).isSome := by decide +kernel
  rcases run_matched booted (.of_isSome runs) (by decide +kernel) with ⟨model, isMatched⟩
  rcases claimed _ _ _ _ _ _ booted (.of_isSome runs) with ⟨-, honours⟩
  exact not_spares_sendToExited (isMatched.honoursExit_iff.mp (honours sendToExited))

end ArmKernel
