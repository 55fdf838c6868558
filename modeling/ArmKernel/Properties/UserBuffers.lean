import ArmKernel.ListKernel.Copies
import ArmKernel.Properties.SavedContext

/-!
# Where the kernel writes

The kernel copies messages and replies into the memory of tasks through the pointers that they
passed. Whatever the run, every byte that it writes for a call lies in a buffer that some task named
in its last call, and in which it is waiting for a message or a reply. Besides, it writes return
values to the frames that are saved on the stacks of tasks, and the first frame of a new task.
-/

namespace ArmKernel

open PartialMachine Placement

/-- The bytes that a task lends to the kernel while it waits in the call. -/
def SysCall.Lends : SysCall → Addr → Prop
  | .receive tid msg msgLen, addr => addr = tid ∨ ¬Outside addr msg msgLen
  | .send _ _ _ rep repLen, addr => ¬Outside addr rep repLen
  | _, _ => False

/--
The words of saved frames that the kernel writes while it handles a trap: the return value of the
task that trapped or of one that waits, and two words of the frame of a new task.
-/
inductive WritesFrame (data : KernelData) (active : Tid) (call : Option SysCall) :
    Tid → Fin 14 → Prop where
  | own : WritesFrame data active call active 0
  | waiting {task : Tid} (isCreated : Created data.nextFreeTd task)
      (waits : (data.tds task).state ≠ .ready) : WritesFrame data active call task 0
  | fresh {priority : ℤ} {code : Addr} {slot : Fin 14}
      (isCreate : call = some (.create priority code)) (isSet : slot = 0 ∨ slot = 13) :
      WritesFrame data active call (BitVec.ofNat 8 data.nextFreeTd) slot

/-- What is recorded of a task that waits is what it passed in its call. -/
structure CallRecorded (called : Tid → SysCall → Prop) (data : KernelData) (task : Tid) : Prop where
  receiver : (data.tds task).state = .sendBlocked →
    called task (.receive (data.tds task).messageParams.tid (data.tds task).messageParams.msg
      (data.tds task).messageParams.msgLen)
  sender : (data.tds task).state = .receiveBlocked ∨ (data.tds task).state = .replyBlocked →
    ∃ tid msg msgLen, called task (.send tid msg msgLen (data.tds task).messageParams.rep
      (data.tds task).messageParams.repLen)

/-- The states of the tasks that wait for a message or a reply. -/
def TaskState.InMessage : TaskState → Prop
  | .sendBlocked | .receiveBlocked | .replyBlocked => True
  | _ => False

namespace CallRecorded

variable {called : Tid → SysCall → Prop} {data data' : KernelData} {task : Tid}

theorem of_free (free : ¬(data.tds task).state.InMessage) : CallRecorded called data task := by
  constructor
  · intro waits
    rw [waits] at free
    exact (free trivial).elim
  · rintro (waits | waits) <;> rw [waits] at free <;> exact (free trivial).elim

theorem of_td (recorded : CallRecorded called data task) (same : data'.tds task = data.tds task) :
    CallRecorded called data' task := by
  constructor
  · rw [same]
    exact recorded.receiver
  · rw [same]
    exact recorded.sender

/-- The task leaves its call. -/
theorem setState (recorded : CallRecorded called data task) (other : Tid) {state : TaskState}
    (free : ¬state.InMessage) : CallRecorded called (data.setState other state) task := by
  rcases eq_or_ne task other with rfl | otherNe
  · apply of_free
    rwa [KernelData.setState_self]
  · exact recorded.of_td (KernelData.setState_of_ne otherNe state)

theorem mono {called' : Tid → SysCall → Prop} (recorded : CallRecorded called data task)
    (still : ∀ call, called task call → called' task call) : CallRecorded called' data task := by
  constructor
  · exact fun waits => still _ (recorded.receiver waits)
  · intro waits
    rcases recorded.sender waits with ⟨tid, msg, msgLen, isSend⟩
    exact ⟨tid, msg, msgLen, still _ isSend⟩

end CallRecorded

/-- All created tasks have their parameters recorded. -/
def ListKernel.Records (kernel : ListKernel) (called : Tid → SysCall → Prop) : Prop :=
  ∀ task, Created kernel.nextFreeTd task → CallRecorded called kernel.toKernelData task

namespace ListKernel.Records

variable {called : Tid → SysCall → Prop} {kernel kernel' : ListKernel} {active : Tid}

theorem of_tds (records : kernel.Records called) (next : kernel'.nextFreeTd = kernel.nextFreeTd)
    (tds : kernel'.tds = kernel.tds) : kernel'.Records called := by
  intro task isCreated
  rw [next] at isCreated
  exact (records task isCreated).of_td (congrFun tds task)

/-- Only the active task is changed. -/
theorem of_active (active : Tid) (records : kernel.Records called)
    (others : ∀ task, task ≠ active → kernel'.tds task = kernel.tds task)
    (own : CallRecorded called kernel'.toKernelData active)
    (next : kernel'.nextFreeTd = kernel.nextFreeTd) : kernel'.Records called := by
  intro task isCreated
  rw [next] at isCreated
  rcases eq_or_ne task active with rfl | taskNe
  · exact own
  · exact (records task isCreated).of_td (others task taskNe)

theorem put (records : kernel.Records called) (td : Tid) : (kernel.put td).Records called :=
  fun task isCreated => ((records task isCreated).setState td id).of_td rfl

theorem wake (records : kernel.Records called) (event : Word) (ret : ℤ) (tasks : List Tid) :
    (kernel.wake event ret tasks).Records called := by
  induction tasks generalizing kernel with
  | nil => exact records
  | cons first rest ih =>
      have woken : ((kernel.setList (.awaitQ event) rest).setReturnValue first ret).Records
          called := records.of_tds rfl rfl
      exact ih (woken.put first)

theorem create (records : kernel.Records called) (priority : ℤ) (code : Addr) :
    (kernel.create active priority code).2.Records called := by
  rw [ListKernel.create]
  split_ifs with rejected full
  · exact records
  · exact records
  · intro task isCreated
    have filled : CallRecorded called (taskDescriptorInitData kernel.toKernelData
        (BitVec.ofNat 8 kernel.nextFreeTd) (BitVec.ofNat 8 kernel.nextFreeTd)
        (BitVec.ofInt 8 priority) (some active) code) task := by
      rcases (created_succ (not_le.mp full)).mp isCreated with old | rfl
      · rcases eq_or_ne task (BitVec.ofNat 8 kernel.nextFreeTd) with rfl | taskNe
        · apply CallRecorded.of_free
          rw [taskDescriptorInitData_state]
          exact id
        · exact (records task old).of_td (taskDescriptorInitData_of_ne taskNe)
      · apply CallRecorded.of_free
        rw [taskDescriptorInitData_state]
        exact id
    exact ((filled.setState (BitVec.ofNat 8 kernel.nextFreeTd) id).setState active id).of_td rfl

theorem parenttid (records : kernel.Records called) :
    (kernel.parenttid active).2.Records called := by
  rw [ListKernel.parenttid]
  split <;> exact records.put active

theorem send (records : kernel.Records called) {tid : Byte} {msg : Addr} {msgLen : Word}
    {rep : Addr} {repLen : Word} (isCall : called active (.send tid msg msgLen rep repLen)) :
    (kernel.send active tid msg msgLen rep repLen).2.Records called := by
  rw [ListKernel.send]
  split_ifs
  · exact records.put active
  · exact records.put active
  · have delivered : (kernel.modify (·.deliver active tid msg msgLen)).Records called :=
      records.of_tds rfl rfl
    apply of_active active (delivered.put tid)
    · intro task taskNe
      simp [KernelData.recordReply, KernelData.setMessageParams, KernelData.modifyTd_of_ne taskNe,
        KernelData.setState_of_ne taskNe]
    · constructor <;>
        simp [KernelData.recordReply, KernelData.setMessageParams, KernelData.setState_self]
      exact ⟨tid, msg, msgLen, isCall⟩
    · rfl
  · apply of_active active records
    · intro task taskNe
      simp [KernelData.recordReply, KernelData.recordMessage, KernelData.setMessageParams,
        KernelData.modifyTd_of_ne taskNe, KernelData.setState_of_ne taskNe]
    · constructor <;>
        simp [KernelData.recordReply, KernelData.recordMessage, KernelData.setMessageParams,
          KernelData.setState_self]
      exact ⟨tid, msg, msgLen, isCall⟩
    · rfl

theorem receive (records : kernel.Records called)
    (running : Running kernel.nextFreeTd active kernel)
    {tid msg : Addr} {msgLen : Word} (isCall : called active (.receive tid msg msgLen)) :
    (kernel.receive active tid msg msgLen).2.Records called := by
  rw [ListKernel.receive]
  cases queue : kernel.lists (.sendQ active) with
  | nil =>
      apply of_active active records
      · intro task taskNe
        simp [KernelData.recordReceive, KernelData.setMessageParams,
          KernelData.modifyTd_of_ne taskNe, KernelData.setState_of_ne taskNe]
      · constructor <;>
          simp [KernelData.recordReceive, KernelData.setMessageParams, KernelData.setState_self]
        exact isCall
      · rfl
  | cons sender rest =>
      have senderMem : sender ∈ kernel.lists (.sendQ active) := queue ▸ List.mem_cons_self
      have senderNe : sender ≠ active := by
        rintro rfl
        exact running.absent _ senderMem
      have left : (kernel.setList (.sendQ active) rest).Records called := records.of_tds rfl rfl
      dsimp only
      split_ifs
      · exact left.put active
      · have fetched : ((kernel.setList (.sendQ active) rest).modify
            (·.fetch sender tid msg msgLen)).Records called := left.of_tds rfl rfl
        apply of_active sender (fetched.put active)
        · exact fun task taskNe => KernelData.setState_of_ne taskNe _
        · -- the sender now waits for the reply, for which it passed the same buffer
          have recorded := records sender (running.sound.created senderMem)
          have same : (((kernel.setList (.sendQ active) rest).modify
              (·.fetch sender tid msg msgLen)).put active).tds sender = kernel.tds sender :=
            KernelData.setState_of_ne senderNe _
          constructor
          · intro waits
            rw [ListKernel.modify_data, KernelData.setState_self] at waits
            cases waits
          · intro _
            simp only [ListKernel.modify_data, KernelData.setState, KernelData.modifyTd_self, same]
            exact recorded.sender (.inl (running.sound.state senderMem))
        · rfl

theorem reply (records : kernel.Records called) (tid : Byte) (rep : Addr) (repLen : Word) :
    (kernel.reply active tid rep repLen).2.Records called := by
  rw [ListKernel.reply]
  split_ifs
  · exact records.put active
  · exact records.put active
  · have answered : (kernel.modify (·.answer tid rep repLen)).Records called :=
      records.of_tds rfl rfl
    exact (answered.put tid).put active

theorem awaitEvent (records : kernel.Records called) (event : Word) :
    (kernel.awaitEvent active event).2.Records called := by
  rw [ListKernel.awaitEvent]
  split_ifs
  · exact records.put active
  · have enabled : (kernel.modify (enableInterrupt · event)).Records called :=
      records.of_tds (enableInterrupt_nextFreeTd _ _) (enableInterrupt_tds _ _)
    apply of_active active enabled
    · exact fun task taskNe => KernelData.setState_of_ne taskNe _
    · apply CallRecorded.of_free
      rw [ListKernel.modify_data, KernelData.setState_self]
      exact id
    · rfl

/-- A task that waits in a call has just made it, or waited in it before. -/
theorem sysCall (records : kernel.Records called)
    (running : Running kernel.nextFreeTd active kernel)
    {call : SysCall} (isCall : called active call) :
    (kernel.sysCall active call).2.Records called := by
  have finish : ∀ {result : ℤ × ListKernel}, result.2.Records called →
      (result.2.setReturnValue active result.1).Records called :=
    fun records => records.of_tds rfl rfl
  cases call with
  | exit =>
      apply of_active active records
      · exact fun task taskNe => KernelData.setState_of_ne taskNe _
      · apply CallRecorded.of_free
        rw [ListKernel.sysCall, ListKernel.modify_data, KernelData.setState_self]
        exact id
      · rfl
  | pass => exact finish (records.put active)
  | create priority code => exact finish (records.create priority code)
  | mytid => exact finish (records.put active)
  | parenttid => exact finish records.parenttid
  | send tid msg msgLen rep repLen => exact finish (records.send isCall)
  | receive tid msg msgLen => exact finish (records.receive running isCall)
  | reply tid rep repLen => exact finish (records.reply tid rep repLen)
  | awaitEvent event => exact finish (records.awaitEvent event)
  | panic => exact records.of_tds rfl rfl
  | quit => exact records
  | unknown => exact records.of_tds rfl rfl

theorem interrupt (records : kernel.Records called) (cause : ListKernel.Interrupt) :
    (kernel.interrupt active cause).Records called := by
  cases cause with
  | event event ret keep1 keep2 =>
      have masked : (kernel.modify (·.maskInterrupts keep1 keep2)).Records called :=
        records.of_tds rfl rfl
      exact (masked.wake event ret _).put active
  | spurious =>
      have panicked : kernel.panic.Records called := records.of_tds rfl rfl
      exact (panicked.wake sysCallEventTimer 0 _).put active
  | unexpected =>
      have panicked : kernel.panic.Records called := records.of_tds rfl rfl
      exact panicked.put active

end ListKernel.Records

theorem Copy.Fills.lends_receive {tid msg src addr : Addr} {msgLen : Word}
    (fills : Copy.Fills ⟨msg, src, msgLen, some tid⟩ addr) :
    (SysCall.receive tid msg msgLen).Lends addr :=
  fills.imp_left fun isCell => (Option.some.inj isCell).symm

section Steps

variable {called : Tid → SysCall → Prop} {kernel : ListKernel} {active : Tid} {call : SysCall}
  {copy : Copy} {addr : Addr}

/-- What a call copies goes to what some task has lent to the kernel. -/
theorem ListKernel.Records.lends (records : kernel.Records called) (isCall : called active call)
    (safe : SafeCall kernel.toKernelData call)
    (copies : copy ∈ copyOf kernel.toKernelData kernel.lists active call)
    (fills : copy.Fills addr) : ∃ task lender, called task lender ∧ lender.Lends addr := by
  cases call with
  | send tid msg msgLen rep repLen =>
      rw [copyOf] at copies
      split_ifs at copies with hands
      · rcases Option.some.inj copies with rfl
        rcases hands with ⟨sameTid, waits, sameLen⟩
        refine ⟨tid, _, (records tid (safe sameTid)).receiver waits, ?_⟩
        rw [sameLen]
        exact fills.lends_receive
      · cases copies
  | receive tid msg msgLen =>
      refine ⟨active, _, isCall, ?_⟩
      cases head : (kernel.lists (.sendQ active)).head? with
      | none => simp [copyOf, head] at copies
      | some sender =>
          simp only [copyOf, head, Option.bind_eq_bind, Option.bind_some] at copies
          split_ifs at copies
          · rcases Option.some.inj copies with rfl
            exact fills.lends_receive
          · cases copies
  | reply tid rep repLen =>
      rw [copyOf] at copies
      split_ifs at copies with answers
      · rcases Option.some.inj copies with rfl
        rcases answers with ⟨sameTid, sameLen⟩
        rcases safe sameTid with ⟨isCreated, waits⟩
        rcases (records tid isCreated).sender (.inr (waits sameLen)) with
          ⟨other, msg, msgLen, lender⟩
        refine ⟨tid, _, lender, ?_⟩
        rw [SysCall.Lends, sameLen]
        exact fills.resolve_left (Option.not_mem_none addr)
      · cases copies
  | _ => cases copies

/-- A call creates a task in this step; of the words in its frame only two are set. -/
theorem create_frame {slot : Fin 14} {task : Tid} {priority : ℤ} {code : Addr}
    (isNew : task = BitVec.ofNat 8 kernel.nextFreeTd) (taskNe : task ≠ active)
    (written : (kernel.sysCall active (.create priority code)).2.frames task slot ≠
      kernel.frames task slot) : slot = 0 ∨ slot = 13 := by
  by_contra unset
  rw [not_or] at unset
  apply written
  by_cases accepted : ¬(priority < 0 ∨ priority > 63) ∧ ¬kernel.nextFreeTd ≥ taskDescriptorMaxTasks
  · have keeps : KeepsTask task (taskDescriptorInitData kernel.toKernelData task task
        (BitVec.ofInt 8 priority) (some active) code)
        (kernel.sysCall active (.create priority code)).2.toKernelData :=
      create_keeps_new accepted.1 accepted.2 isNew
    rw [keeps.frame slot unset.1]
    simp [taskDescriptorInitData, KernelData.setState, KernelData.setFrameSlot, unset.1, unset.2]
  · have refused : (kernel.create active priority code).2 = kernel := by
      rw [ListKernel.create]
      split_ifs with rejected full
      · rfl
      · rfl
      · exact absurd ⟨rejected, full⟩ accepted
    rw [ListKernel.sysCall, ListKernel.setReturnValue_data, KernelData.setReturnValue_frames,
      Function.update_of_ne taskNe, refused]

theorem Running.frame_of_written {task : Tid} {slot : Fin 14} {trap : Trap}
    (running : Running kernel.nextFreeTd active kernel)
    (safe : ∀ call, trap.call kernel.toKernelData active = some call →
      SafeCall kernel.toKernelData call)
    (written : (kernel.handle active trap).2.frames task slot ≠ kernel.frames task slot) :
    WritesFrame kernel.toKernelData active (trap.call kernel.toKernelData active) task slot := by
  by_cases isCreated : Created kernel.nextFreeTd task
  · have isReturn : slot = 0 := by
      by_contra notReturn
      exact written ((handle_keeps isCreated running.sound.bounded trap).frame slot notReturn)
    subst isReturn
    rcases eq_or_ne task active with rfl | taskNe
    · exact .own
    · refine .waiting isCreated fun ready => written ?_
      rw [(handle_ready_untouched running safe taskNe isCreated ready).frame]
  · have taskNe : task ≠ active := by
      rintro rfl
      exact isCreated running.isCreated
    -- nothing but its creation concerns a task that has not been created
    by_cases partners : ∃ call, trap.call kernel.toKernelData active = some call ∧
        partner kernel active call task
    · rcases partners with ⟨call, isCall, isPartner⟩
      have safeCall := safe call isCall
      rw [ListKernel.handle_of_call isCall] at written
      rw [isCall]
      cases call with
      | create priority code =>
          rcases isPartner with rfl
          exact .fresh rfl (create_frame rfl taskNe written)
      | send tid msg msgLen rep repLen =>
          rcases isPartner with ⟨rfl, sameTid, -⟩
          exact absurd (safeCall sameTid) isCreated
      | receive tid msg msgLen =>
          exact absurd (running.sound.created (List.mem_of_head? isPartner)) isCreated
      | reply tid rep repLen =>
          rcases isPartner with ⟨rfl, sameTid, -⟩
          exact absurd (safeCall sameTid).1 isCreated
      | _ => cases isPartner
    · have untouched : Untouched task kernel (kernel.handle active trap).2 := by
        apply handle_untouched taskNe
        · exact fun event taskMem => isCreated (running.sound.created taskMem)
        · exact fun call isCall isPartner => partners ⟨call, isCall, isPartner⟩
      exact absurd (congrFun untouched.frame slot) written

end Steps

section Runs

variable {boot start kernel entered after : Kernel} {userMain idleMain : Addr}
  {trace past : List (Transition Kernel Activation)} {activation : Activation} {active : Tid}

def MakesCall (task : Tid) (call : SysCall) (transition : Transition Kernel Activation) : Prop :=
  ∃ entered, callOf transition.before transition.input = some (task, entered, call)

/-- The task has made the call, and has not run since. -/
def LastCall (trace : List (Transition Kernel Activation)) (task : Tid) (call : SysCall) : Prop :=
  SinceLast (MakesCall task call) (fun transition => ¬Passive task transition) trace

/-- The parameters of the last calls are recorded. -/
def RecordsCalls (past : List (Transition Kernel Activation)) (kernel : Kernel) : Prop :=
  Abstracts (fun model => model.Records (LastCall past)) kernel

/-- They still are when the next task has trapped, and if it calls its call is the last one. -/
theorem Matched.records_entered {model model' : ListKernel}
    {transition : Transition Kernel Activation} (isMatched : Matched transition.before model)
    (runs : model.entry transition.input = some (active, model'))
    (records : model.Records (LastCall past)) :
    model'.Records (LastCall (past ++ [transition])) ∧
      ∀ call, transition.input.trap.call model'.toKernelData active = some call →
        LastCall (past ++ [transition]) active call := by
  rcases isMatched.kernelEntry runs with ⟨kernel', enters, -, refines, running⟩
  constructor
  · intro task isCreated
    rcases eq_or_ne active task with rfl | activeNe
    · apply CallRecorded.of_free
      rw [running.ready]
      exact id
    · rw [ListKernel.entry_nextFreeTd runs] at isCreated
      have passive : Passive task transition := by
        intro entered enters'
        exact activeNe (Prod.mk.inj (Option.some.inj (enters.symm.trans enters'))).1
      have still : ∀ call, LastCall past task call → LastCall (past ++ [transition]) task call :=
        fun call isLast => SinceLast.append (.inr ⟨isLast, not_not.mpr passive⟩)
      exact ((records task isCreated).mono still).of_td (entry_untouched runs activeNe).td
  · intro call isCall
    rw [← refines.data] at isCall
    exact SinceLast.append (.inl ⟨kernel', callOf_eq_some.mpr ⟨enters, isCall⟩⟩)

theorem recordsCalls_step {transition : Transition Kernel Activation}
    (stepped : mainStep transition.before transition.input = some transition.after)
    (safe : Safe transition.before transition.input)
    (before : RecordsCalls past transition.before) :
    RecordsCalls (past ++ [transition]) transition.after := by
  rcases before with ⟨model, isMatched, records⟩
  rcases isMatched.mainStep stepped safe with ⟨goesOn, afterMatched⟩
  rcases ListKernel.entry_of_step goesOn with ⟨active, model', runs⟩
  rcases isMatched.kernelEntry runs with ⟨-, -, -, -, running⟩
  rcases isMatched.records_entered runs records with ⟨entered, isLast⟩
  refine ⟨_, afterMatched, ?_⟩
  rw [ListKernel.step_of_entry runs]
  cases trap : transition.input.trap with
  | swi req => exact entered.sysCall running (isLast _ (by rw [trap]; rfl))
  | irq regs => exact entered.interrupt _

theorem init_records (boot : KernelData) (userMain idleMain : Addr)
    (called : Tid → SysCall → Prop) : (ListKernel.init boot userMain idleMain).Records called := by
  intro task isCreated
  have started :
      CallRecorded called (ListKernel.start boot userMain idleMain).toKernelData task := by
    apply CallRecorded.of_free
    rcases created_two.mp isCreated with rfl | rfl
    · rw [ListKernel.start, taskDescriptorInitData_of_ne (by decide), taskDescriptorInitData_state]
      exact id
    · rw [ListKernel.start, taskDescriptorInitData_state]
      exact id
  exact ((started.setState 0 id).setState idleTaskTid id).of_td rfl

/--
In every safe run, a byte that the kernel changes while it handles a trap lies in a buffer of a task
that waits in its last call, or of the call that is handled; and of the saved frames it changes
return values and the frame of a new task only.
-/
theorem run_written (booted : init boot userMain idleMain = some start)
    (run : Run mainStep start trace kernel)
    (wasSafe : ∀ transition ∈ trace, Safe transition.before transition.input)
    (enters : kernelEntry kernel activation = some (active, entered))
    (safe : Safe kernel activation) (handled : mainStep kernel activation = some after) :
    (∀ addr, after.mem addr ≠ entered.mem addr →
      ∃ task call, LastCall (trace ++ [⟨kernel, activation, after⟩]) task call ∧
        call.Lends addr) ∧
    ∀ task slot, after.frames task slot ≠ entered.frames task slot →
      WritesFrame entered.toKernelData active
        (activation.trap.call entered.toKernelData active) task slot := by
  have initially : RecordsCalls [] start := by
    rcases init_matched boot userMain idleMain with ⟨kernel, done, isMatched⟩
    rcases Option.some.inj (done.symm.trans booted) with rfl
    exact ⟨_, isMatched, init_records boot.toKernelData userMain idleMain _⟩
  rcases run.history (fun _ _ => recordsCalls_step) wasSafe initially with
    ⟨model, isMatched, records⟩
  rcases isMatched.mainStep handled safe with ⟨-, afterMatched⟩
  constructor
  · intro addr written
    let transition : Transition Kernel Activation := ⟨kernel, activation, after⟩
    rcases isMatched.copied_of_written afterMatched enters written with ⟨copy, isCopied, fills⟩
    rcases Option.bind_eq_some_iff.mp isCopied with ⟨⟨active, entered, call⟩, calls, copies⟩
    rcases isMatched.called safe calls with ⟨model', runs, refines, running, safeCall, isCall, -⟩
    have entering : model'.Records (LastCall (trace ++ [transition])) ∧ _ :=
      isMatched.records_entered runs records
    dsimp only at copies
    rw [refines.copyOf_eq running.isCreated] at copies
    exact entering.1.lends (entering.2 _ isCall) safeCall copies fills
  · intro task slot written
    rcases isMatched.entered enters with ⟨model', runs, -, refines, running⟩
    have safeCall := isMatched.safe safe active model'
    rw [afterMatched.refines.data, ListKernel.step_of_entry runs, refines.data] at written
    rw [refines.data]
    exact running.frame_of_written (fun call isCall => safeCall call runs isCall) written

/-- The first task creates one, which waits for a message. -/
def createReceiver : List Activation := [callActivation 2 0 0 0, callActivation 6 0x200 0x204 0]

/-- The first task sends the message; the cell for its tid held something else. -/
def sendToReceiver : Activation :=
  { callActivation 5 0x100 0 0 with
    effect := fun mem => storeByte (storeByte mem 0x100 2) 0x200 7 }

theorem run_written_receiver :
    (∃ task call, LastCall (traceOf mainStep zeroedStart createReceiver ++
        [⟨finalOf mainStep zeroedStart createReceiver, sendToReceiver,
          stepped (finalOf mainStep zeroedStart createReceiver) sendToReceiver⟩]) task call ∧
      call.Lends 0x200) ∧
    WritesFrame (enteredKernel (finalOf mainStep zeroedStart createReceiver)
        sendToReceiver).toKernelData 0
      (sendToReceiver.trap.call (enteredKernel (finalOf mainStep zeroedStart createReceiver)
        sendToReceiver).toKernelData 0) 0 0 := by
  have booted : init zeroedBoot 0 0 = some zeroedStart := rfl
  have runs : (record mainStep zeroedStart createReceiver).isSome := by decide +kernel
  have enters : kernelEntry (finalOf mainStep zeroedStart createReceiver) sendToReceiver =
      some (0, enteredKernel (finalOf mainStep zeroedStart createReceiver) sendToReceiver) :=
    kernelEntry_of_active (by decide +kernel)
  have handled : mainStep (finalOf mainStep zeroedStart createReceiver) sendToReceiver =
      some (stepped (finalOf mainStep zeroedStart createReceiver) sendToReceiver) :=
    mainStep_stepped (by decide +kernel)
  have writes := run_written booted (.of_isSome runs) (by decide +kernel) enters
    (by decide +kernel) handled
  exact ⟨writes.1 0x200 (by decide +kernel), writes.2 0 0 (by decide +kernel)⟩

end Runs

end ArmKernel
