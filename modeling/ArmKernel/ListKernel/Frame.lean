import ArmKernel.ListKernel.SafeSteps

/-!
# What a step leaves alone

A step of the kernel concerns the active task and the tasks that it communicates with:
`partner` names them for a system call, and an interrupt concerns those that await its
event. Every other task keeps its descriptor, its saved registers and its place.
-/

namespace ArmKernel

open Placement

/-- The task has the same descriptor, registers and queues in both states. -/
structure Untouched (task : Tid) (kernel kernel' : ListKernel) : Prop where
  td : kernel'.tds task = kernel.tds task
  frame : kernel'.frames task = kernel.frames task
  mem : ∀ ctx, task ∈ kernel'.lists ctx ↔ task ∈ kernel.lists ctx

/-- Only the tasks in `touched` differ between the two states. -/
def Touches (touched : Tid → Prop) (kernel kernel' : ListKernel) : Prop :=
  ∀ task, ¬touched task → Untouched task kernel kernel'

/-- The tasks that a system call of `active` may change besides `active` itself. -/
def partner (kernel : ListKernel) (active : Tid) : SysCall → Tid → Prop
  | .create _ _ => (· = BitVec.ofNat 8 kernel.nextFreeTd)
  | .send tid _ msgLen _ _ => fun task => task = tid ∧ (kernel.tds tid).tid = tid ∧
      (kernel.tds tid).state = .sendBlocked ∧ (kernel.tds tid).messageParams.msgLen = msgLen
  | .receive _ _ _ => fun task => (kernel.lists (.sendQ active)).head? = some task
  | .reply tid _ repLen => fun task =>
      task = tid ∧ (kernel.tds tid).tid = tid ∧ (kernel.tds tid).messageParams.repLen = repLen
  | _ => fun _ => False

namespace Untouched

variable {task : Tid} {kernel kernel' kernel'' : ListKernel}

theorem trans (first : Untouched task kernel kernel') (second : Untouched task kernel' kernel'') :
    Untouched task kernel kernel'' where
  td := second.td.trans first.td
  frame := second.frame.trans first.frame
  mem ctx := (second.mem ctx).trans (first.mem ctx)

theorem absent (untouched : Untouched task kernel kernel') (absent : Absent kernel.lists task) :
    Absent kernel'.lists task :=
  fun ctx taskMem => absent ctx ((untouched.mem ctx).mp taskMem)

end Untouched

theorem Running.untouched {count : ℕ} {active : Tid} {kernel kernel' : ListKernel}
    (running : Running count active kernel) (untouched : Untouched active kernel kernel')
    (sound : Sound count kernel') : Running count active kernel' :=
  ⟨sound, running.isCreated, untouched.absent running.absent, by rw [untouched.td, running.ready]⟩

namespace Touches

variable {touched touched' : Tid → Prop} {kernel kernel' kernel'' : ListKernel}
  {active task : Tid} {ctx : QueueRef}

theorem ne_of_untouched {other : Tid} (isTouched : touched task) (outside : ¬touched other) :
    other ≠ task := by
  rintro rfl
  exact outside isTouched

theorem refl (kernel : ListKernel) : Touches touched kernel kernel :=
  fun _ _ => ⟨rfl, rfl, fun _ => Iff.rfl⟩

theorem trans (first : Touches touched kernel kernel') (second : Touches touched kernel' kernel'') :
    Touches touched kernel kernel'' :=
  fun task outside => (first task outside).trans (second task outside)

theorem mono (touches : Touches touched kernel kernel')
    (more : ∀ task, touched task → touched' task) :
    Touches touched' kernel kernel' :=
  fun task outside => touches task (mt (more task) outside)

theorem panic (kernel : ListKernel) : Touches touched kernel kernel.panic :=
  fun _ _ => ⟨rfl, rfl, fun _ => Iff.rfl⟩

theorem modify {change : KernelData → KernelData}
    (tds : ∀ task, ¬touched task → (change kernel.toKernelData).tds task = kernel.tds task)
    (frames : ∀ task, ¬touched task →
      (change kernel.toKernelData).frames task = kernel.frames task) :
    Touches touched kernel (kernel.modify change) :=
  fun task outside => ⟨tds task outside, frames task outside, fun _ => Iff.rfl⟩

theorem enqueue (isTouched : touched task) (ctx : QueueRef) :
    Touches touched kernel (kernel.enqueue ctx task) := by
  intro other outside
  have otherNe := ne_of_untouched isTouched outside
  refine ⟨rfl, rfl, fun key => ?_⟩
  rw [ListKernel.enqueue, ListKernel.setList]
  rcases eq_or_ne key ctx with rfl | keyNe
  · simp [otherNe]
  · simp [keyNe]

theorem setState (isTouched : touched task) (state : TaskState) :
    Touches touched kernel (kernel.modify (·.setState task state)) := by
  apply modify
  · intro other outside
    exact KernelData.setState_of_ne (ne_of_untouched isTouched outside) state
  · exact fun _ _ => rfl

theorem put (isTouched : touched task) : Touches touched kernel (kernel.put task) := by
  apply (enqueue isTouched _).trans
  apply modify
  · intro other outside
    exact KernelData.setState_of_ne (ne_of_untouched isTouched outside) .ready
  · exact fun _ _ => rfl

theorem setReturnValue (isTouched : touched task) (ret : ℤ) :
    Touches touched kernel (kernel.setReturnValue task ret) := by
  apply modify
  · exact fun _ _ => rfl
  · intro other outside
    exact Function.update_of_ne (ne_of_untouched isTouched outside) _ _

theorem setMessageParams (isTouched : touched task) (change : MessageParams → MessageParams) :
    Touches touched kernel (kernel.modify (·.setMessageParams task change)) := by
  apply modify
  · intro other outside
    exact KernelData.modifyTd_of_ne (ne_of_untouched isTouched outside) _
  · exact fun _ _ => rfl

theorem leave {rest : List Tid} (shape : kernel.lists ctx = task :: rest)
    (isTouched : touched task) :
    Touches touched kernel (kernel.setList ctx rest) := by
  intro other outside
  have otherNe := ne_of_untouched isTouched outside
  refine ⟨rfl, rfl, fun key => ?_⟩
  rw [ListKernel.setList]
  rcases eq_or_ne key ctx with rfl | keyNe
  · simp [shape, otherNe]
  · simp [keyNe]

theorem take {rest : List Tid} {idx : Byte} (shape : kernel.lists (.priorityQ idx) = task :: rest)
    (isTouched : touched task) : Touches touched kernel (kernel.take idx rest) := by
  intro other outside
  have left := leave shape isTouched other outside
  exact ⟨left.td, left.frame, left.mem⟩

theorem wake {event : Word} {ret : ℤ} {tasks : List Tid}
    (shape : kernel.lists (.awaitQ event) = tasks) :
    Touches (· ∈ tasks) kernel (kernel.wake event ret tasks) := by
  induction tasks generalizing kernel with
  | nil => exact refl kernel
  | cons first rest ih =>
      have isTouched : first ∈ first :: rest := List.mem_cons_self
      have woken : Touches (· ∈ first :: rest) kernel
          (((kernel.setList (.awaitQ event) rest).setReturnValue first ret).put first) :=
        ((leave shape isTouched).trans (setReturnValue isTouched ret)).trans (put isTouched)
      have others := ih (ListKernel.wake_rest kernel event ret first rest)
      exact woken.trans (others.mono fun task taskMem => List.mem_cons_of_mem first taskMem)

theorem handleEvent (event : Word) (ret : ℤ) :
    Touches (· ∈ kernel.lists (.awaitQ event)) kernel (kernel.handleEvent event ret) :=
  wake rfl

theorem init (kernel : ListKernel) (isTouched : touched task) (tid priority : Byte)
    (parent : Option Tid) (code : Addr) :
    Touches touched kernel
      (kernel.modify (taskDescriptorInitData · task tid priority parent code)) := by
  apply modify
  · intro other outside
    exact taskDescriptorInitData_of_ne (ne_of_untouched isTouched outside)
  · intro other outside
    have otherNe := ne_of_untouched isTouched outside
    exact (Function.update_of_ne otherNe _ _).trans (Function.update_of_ne otherNe _ _)

end Touches

section Steps

variable {kernel : ListKernel} {active : Tid} {touched : Tid → Prop}

theorem create_touches {priority : ℤ} {code : Addr} (isActive : touched active)
    (partners : ∀ task, partner kernel active (.create priority code) task → touched task) :
    Touches touched kernel (kernel.create active priority code).2 := by
  rw [ListKernel.create]
  split_ifs with rejected full
  · exact .refl kernel
  · exact .refl kernel
  · have isNew : touched (BitVec.ofNat 8 kernel.nextFreeTd) := partners _ rfl
    have both := ((Touches.init kernel isNew (BitVec.ofNat 8 kernel.nextFreeTd)
      (BitVec.ofInt 8 priority) (some active) code).trans (.put isNew)).trans (.put isActive)
    exact fun task outside => ⟨(both task outside).td, (both task outside).frame,
      (both task outside).mem⟩

theorem send_touches {tid : Byte} {msg : Addr} {msgLen : Word} {rep : Addr} {repLen : Word}
    (isActive : touched active)
    (partners : ∀ task, partner kernel active (.send tid msg msgLen rep repLen) task →
      touched task) :
    Touches touched kernel (kernel.send active tid msg msgLen rep repLen).2 := by
  rw [ListKernel.send]
  split_ifs with badTid blocked mismatch
  · exact .put isActive
  · exact .put isActive
  · have isReceiver : touched tid :=
      partners tid ⟨rfl, not_not.mp badTid, blocked, not_not.mp mismatch⟩
    have delivered : Touches touched kernel (kernel.modify (·.deliver active tid msg msgLen)) :=
      .modify (fun _ _ => rfl) fun other outside =>
        Function.update_of_ne (Touches.ne_of_untouched isReceiver outside) _ _
    exact ((delivered.trans (.put isReceiver)).trans (.setState isActive .replyBlocked)).trans
      (.setMessageParams isActive _)
  · have joined : Touches touched kernel (kernel.enqueue (.sendQ tid) active) :=
      .enqueue isActive (.sendQ tid)
    have queued := joined.trans (.setState isActive .receiveBlocked)
    have recorded : Touches touched kernel _ :=
      queued.trans (.setMessageParams isActive fun params =>
        { params with msg := msg, msgLen := msgLen })
    exact recorded.trans (.setMessageParams isActive fun params =>
      { params with rep := rep, repLen := repLen })

theorem receive_touches {tid msg : Addr} {msgLen : Word} (isActive : touched active)
    (partners : ∀ task, partner kernel active (.receive tid msg msgLen) task → touched task) :
    Touches touched kernel (kernel.receive active tid msg msgLen).2 := by
  rw [ListKernel.receive]
  cases shape : kernel.lists (.sendQ active) with
  | nil =>
      exact (Touches.setState isActive .sendBlocked).trans (.setMessageParams isActive _)
  | cons sender rest =>
      have isSender : touched sender := by
        apply partners
        simp only [partner, shape, List.head?_cons]
      have left := Touches.leave shape isSender
      dsimp only
      split_ifs with mismatch
      · exact left.trans (.put isActive)
      · have fetched : Touches touched kernel
            ((kernel.setList (.sendQ active) rest).modify (·.fetch sender tid msg msgLen)) :=
          left.trans (.modify (fun _ _ => rfl) fun _ _ => rfl)
        exact (fetched.trans (.put isActive)).trans (.setState isSender .replyBlocked)

theorem reply_touches {tid : Byte} {rep : Addr} {repLen : Word} (isActive : touched active)
    (partners : ∀ task, partner kernel active (.reply tid rep repLen) task → touched task) :
    Touches touched kernel (kernel.reply active tid rep repLen).2 := by
  rw [ListKernel.reply]
  split_ifs with badTid mismatch
  · exact .put isActive
  · exact .put isActive
  · have isTarget : touched tid := partners tid ⟨rfl, not_not.mp badTid, not_not.mp mismatch⟩
    have answered : Touches touched kernel (kernel.modify (·.answer tid rep repLen)) :=
      .modify (fun _ _ => rfl) fun other outside =>
        Function.update_of_ne (Touches.ne_of_untouched isTarget outside) _ _
    exact (answered.trans (.put isTarget)).trans (.put isActive)

theorem awaitEvent_touches {event : Word} (isActive : touched active) :
    Touches touched kernel (kernel.awaitEvent active event).2 := by
  rw [ListKernel.awaitEvent]
  split_ifs with outside
  · exact .put isActive
  · have enabled : Touches touched kernel (kernel.modify (enableInterrupt · event)) :=
      .modify (fun _ _ => by rw [enableInterrupt_tds]) fun _ _ => by rw [enableInterrupt_frames]
    exact (enabled.trans (.enqueue isActive (.awaitQ event))).trans
      (.setState isActive .eventBlocked)

/-- A system call concerns the active task and its partners only. -/
theorem sysCall_touches {call : SysCall} (isActive : touched active)
    (partners : ∀ task, partner kernel active call task → touched task) :
    Touches touched kernel (kernel.sysCall active call).2 := by
  have finish : ∀ {result : ℤ × ListKernel}, Touches touched kernel result.2 →
      Touches touched kernel (result.2.setReturnValue active result.1) :=
    fun touches => touches.trans (.setReturnValue isActive _)
  cases call with
  | exit => exact .setState isActive .exited
  | pass => exact finish (.put isActive)
  | create priority code => exact finish (create_touches isActive partners)
  | mytid => exact finish (.put isActive)
  | parenttid =>
      refine finish ?_
      rw [ListKernel.parenttid]
      split <;> exact .put isActive
  | send tid msg msgLen rep repLen => exact finish (send_touches isActive partners)
  | receive tid msg msgLen => exact finish (receive_touches isActive partners)
  | reply tid rep repLen => exact finish (reply_touches isActive partners)
  | awaitEvent event => exact finish (awaitEvent_touches isActive)
  | panic => exact finish (.panic kernel)
  | quit => exact .refl kernel
  | unknown => exact finish (.panic kernel)

/-- An interrupt concerns the active task and the tasks that await the event it serves. -/
theorem interrupt_touches {cause : ListKernel.Interrupt} (isActive : touched active)
    (woken : ∀ event, cause.served = some event →
      ∀ task ∈ kernel.lists (.awaitQ event), touched task) :
    Touches touched kernel (kernel.interrupt active cause) := by
  cases cause with
  | event event ret keep1 keep2 =>
      have masked : Touches touched kernel (kernel.modify (·.maskInterrupts keep1 keep2)) :=
        .modify (fun _ _ => rfl) fun _ _ => rfl
      exact (masked.trans ((Touches.handleEvent event ret).mono (woken event rfl))).trans
        (.put isActive)
  | spurious =>
      exact ((Touches.panic kernel).trans ((Touches.handleEvent sysCallEventTimer 0).mono
        (woken sysCallEventTimer rfl))).trans (.put isActive)
  | unexpected =>
      exact (Touches.panic kernel).trans (.put isActive)

theorem entry_touches {activation : Activation} {entered : ListKernel} (isActive : touched active)
    (runs : kernel.entry activation = some (active, entered)) :
    Touches touched kernel entered := by
  rcases ListKernel.entry_eq runs with ⟨taken, got, rfl, -⟩
  rcases ListKernel.get_eq got with ⟨rest, -, shape, rfl⟩
  apply (Touches.take shape isActive).trans
  intro other outside
  have otherNe := Touches.ne_of_untouched isActive outside
  exact ⟨KernelData.enter_tds_of_ne otherNe _ _, KernelData.enter_frames_of_ne otherNe _ _,
    fun _ => Iff.rfl⟩

theorem entry_untouched {activation : Activation} {task : Tid} {entered : ListKernel}
    (runs : kernel.entry activation = some (active, entered)) (activeNe : active ≠ task) :
    Untouched task kernel entered := by
  obtain ⟨others, isOther⟩ : ∃ others : Tid → Prop, ∀ other, others other ↔ other ≠ task :=
    ⟨(· ≠ task), fun _ => Iff.rfl⟩
  exact entry_touches ((isOther active).mpr activeNe) runs task
    fun touched => (isOther task).mp touched rfl

theorem entry_mem {activation : Activation} {entered : ListKernel}
    (runs : kernel.entry activation = some (active, entered)) :
    ∃ priority, active ∈ kernel.lists (.priorityQ priority) := by
  rcases ListKernel.entry_eq runs with ⟨taken, got, -⟩
  rcases ListKernel.get_eq got with ⟨rest, -, shape, -⟩
  exact ⟨_, by rw [shape]; exact List.mem_cons_self⟩

theorem entry_ne_of_absent {activation : Activation} {task : Tid} {entered : ListKernel}
    (runs : kernel.entry activation = some (active, entered))
    (absent : Absent kernel.lists task) : active ≠ task := by
  rintro rfl
  rcases entry_mem runs with ⟨priority, activeMem⟩
  exact absent _ activeMem

theorem entry_ne_of_state {count : ℕ} {activation : Activation} {task : Tid}
    {entered : ListKernel} (runs : kernel.entry activation = some (active, entered))
    (sound : Sound count kernel) (blocked : (kernel.tds task).state ≠ .ready) :
    active ≠ task := by
  rintro rfl
  rcases entry_mem runs with ⟨priority, activeMem⟩
  exact blocked (sound.state activeMem)

end Steps

/-- Handling a trap leaves a task that is neither active nor concerned. -/
theorem handle_untouched {kernel : ListKernel} {active task : Tid} {trap : Trap}
    (taskNe : task ≠ active) (notAwaiting : ∀ event, task ∉ kernel.lists (.awaitQ event))
    (noPartner : ∀ call, trap.call kernel.toKernelData active = some call →
      ¬partner kernel active call task) :
    Untouched task kernel (kernel.handle active trap).2 := by
  obtain ⟨others, isOther⟩ : ∃ others : Tid → Prop, ∀ other, others other ↔ other ≠ task :=
    ⟨(· ≠ task), fun _ => Iff.rfl⟩
  have outside : ¬others task := fun touched => (isOther task).mp touched rfl
  have activeOther := (isOther active).mpr taskNe.symm
  cases trap with
  | irq regs =>
      apply interrupt_touches activeOther _ task outside
      intro event _ other otherMem
      rw [isOther]
      rintro rfl
      exact notAwaiting event otherMem
  | swi req =>
      apply sysCall_touches activeOther _ task outside
      intro other isPartner
      rw [isOther]
      rintro rfl
      exact noPartner _ rfl isPartner

/-- A call concerns a created task only if it hands a message or a reply to this task, or
fetches its message. -/
theorem not_partner {kernel : ListKernel} {active task : Tid} {call : SysCall}
    (sound : Sound kernel.nextFreeTd kernel) (isCreated : Created kernel.nextFreeTd task)
    (notSend : ∀ msg msgLen rep repLen, call = .send task msg msgLen rep repLen →
      (kernel.tds task).state = .sendBlocked → (kernel.tds task).messageParams.msgLen ≠ msgLen)
    (notReply : ∀ rep repLen, call = .reply task rep repLen →
      (kernel.tds task).messageParams.repLen ≠ repLen)
    (notHead : ∀ cell msg msgLen, call = .receive cell msg msgLen →
      (kernel.lists (.sendQ active)).head? ≠ some task) :
    ¬partner kernel active call task := by
  cases call with
  | create priority code =>
      intro isNew
      exact not_created_next sound.bounded (isNew ▸ isCreated)
  | send tid msg msgLen rep repLen =>
      rintro ⟨rfl, -, blocked, sameLen⟩
      exact notSend msg msgLen rep repLen rfl blocked sameLen
  | receive tid msg msgLen => exact notHead tid msg msgLen rfl
  | reply tid rep repLen =>
      rintro ⟨rfl, -, sameLen⟩
      exact notReply rep repLen rfl sameLen
  | _ => exact id

/-- A step leaves a task that neither runs nor awaits an event nor takes part in the call. -/
theorem step_untouched_of {kernel : ListKernel} {activation : Activation} {task : Tid}
    (notAwaiting : ∀ event, task ∉ kernel.lists (.awaitQ event))
    (bystander : ∀ active entered, kernel.entry activation = some (active, entered) →
      active ≠ task ∧ ∀ call, activation.trap.call entered.toKernelData active = some call →
        ¬partner entered active call task) :
    Untouched task kernel (kernel.step activation).2 := by
  cases runs : kernel.entry activation with
  | none =>
      rw [ListKernel.step, runs]
      exact ⟨rfl, rfl, fun _ => Iff.rfl⟩
  | some result =>
      rcases bystander result.1 result.2 runs with ⟨activeNe, noPartner⟩
      have first := entry_untouched runs activeNe
      rw [ListKernel.step_of_entry runs]
      apply first.trans (handle_untouched activeNe.symm _ noPartner)
      exact fun event => mt (first.mem (.awaitQ event)).mp (notAwaiting event)

/-- If the iteration handles a system call, it is a safe one. -/
def ListKernel.Safe (kernel : ListKernel) (activation : Activation) : Prop :=
  ∀ active entered call, kernel.entry activation = some (active, entered) →
    activation.trap.call entered.toKernelData active = some call →
    SafeCall entered.toKernelData call

/--
A task that is in no queue and waits neither for a message nor for a reply is out of reach:
no safe step changes it. This is so of a task that has exited.
-/
theorem step_untouched {kernel : ListKernel} {activation : Activation} {task : Tid}
    (sound : Sound kernel.nextFreeTd kernel) (safe : kernel.Safe activation)
    (isCreated : Created kernel.nextFreeTd task) (absent : Absent kernel.lists task)
    (notSend : (kernel.tds task).state ≠ .sendBlocked)
    (notReply : (kernel.tds task).state ≠ .replyBlocked) :
    Untouched task kernel (kernel.step activation).2 := by
  apply step_untouched_of fun event => absent _
  intro active entered runs
  have activeNe := entry_ne_of_absent runs absent
  have first := entry_untouched runs activeNe
  have sound' := (Running.of_entry sound runs).sound
  rw [← first.td] at notSend notReply
  rw [← ListKernel.entry_nextFreeTd runs] at isCreated
  refine ⟨activeNe, fun call isCall => ?_⟩
  have safeCall := safe active entered call runs isCall
  apply not_partner sound' isCreated
  · exact fun _ _ _ _ _ blocked => absurd blocked notSend
  · rintro rep repLen rfl sameLen
    exact notReply ((safeCall (sound'.tid isCreated)).2 sameLen)
  · exact fun _ _ _ _ isHead => first.absent absent _ (List.mem_of_head? isHead)

end ArmKernel
