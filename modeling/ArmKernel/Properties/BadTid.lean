import ArmKernel.MainLoop

/-!
# Sends and replies to tasks that do not exist

`kernel_send` and `kernel_reply` judge a tid by the tid field of the descriptor that it
indexes. The table has 64 descriptors, on the stack, and only those of created tasks were
initialised; a tid has 8 bits. So a tid of 64 or more is looked up behind the table, and a
tid of a task that was never created is accepted if the memory of its descriptor happens to
hold it, for instance since the kernel ran there before.
-/

namespace ArmKernel

open PartialMachine Placement

def Kernel.withTds (kernel : Kernel) (tds : Tid → TaskDescriptor) : Kernel :=
  kernel.modify fun data => { data with tds := tds }

/-- The call of the active task fails, has no effect but that the caller is ready again, and
does not depend on what lies behind the table of descriptors. -/
structure BadTidRefused (kernel : Kernel) (active : Tid) (call : Kernel → Option (ℤ × Kernel)) :
    Prop where
  refused : ∃ after, schedulerPut kernel active = some (0, after) ∧ call kernel = some (-1, after)
  inTable : ∀ tds : Tid → TaskDescriptor,
    (∀ task : Tid, task.toNat < taskDescriptorMaxTasks → tds task = kernel.tds task) →
    (call (kernel.withTds tds)).map Prod.fst = some (-1)

/-- The call fails with -1 exactly if the descriptor does not hold the tid. -/
structure ChecksTid (active : Tid) (tid : Byte) (call : Kernel → Option (ℤ × Kernel)) : Prop where
  bad : ∀ kernel, (kernel.tds tid).tid ≠ tid →
    call kernel = (schedulerPut kernel active).map fun put => (-1, put.2)
  good : ∀ kernel, (kernel.tds tid).tid = tid → (call kernel).map Prod.fst ≠ some (-1)

section Calls

variable (active : Tid) (tid : Byte) (msg : Addr) (msgLen : Word) (rep : Addr) (repLen : Word)

theorem kernelSend_checksTid :
    ChecksTid active tid (kernelSend · active tid msg msgLen rep repLen) where
  bad kernel badTid := by
    simp only [kernelSend, if_pos badTid]
    cases schedulerPut kernel active <;> rfl
  good kernel sameTid := by
    simp only [kernelSend, if_neg (not_not.mpr sameTid)]
    split_ifs
    · cases schedulerPut kernel active <;> simp
    · intro failed
      rcases Option.map_eq_some_iff.mp failed with ⟨result, done, isFailure⟩
      rcases Option.bind_eq_some_iff.mp done with ⟨_, -, done⟩
      rw [← Option.some.inj done] at isFailure
      simp at isFailure
    · intro failed
      rcases Option.map_eq_some_iff.mp failed with ⟨result, done, isFailure⟩
      rcases Option.bind_eq_some_iff.mp done with ⟨_, -, done⟩
      rw [← Option.some.inj done] at isFailure
      simp at isFailure

theorem kernelReply_checksTid : ChecksTid active tid (kernelReply · active tid rep repLen) where
  bad kernel badTid := by
    simp only [kernelReply, if_pos badTid]
    cases schedulerPut kernel active <;> rfl
  good kernel sameTid := by
    simp only [kernelReply, if_neg (not_not.mpr sameTid)]
    split_ifs
    · cases schedulerPut kernel active <;> simp
    · intro failed
      rcases Option.map_eq_some_iff.mp failed with ⟨result, done, isFailure⟩
      rcases Option.bind_eq_some_iff.mp done with ⟨_, -, done⟩
      rcases Option.bind_eq_some_iff.mp done with ⟨_, -, done⟩
      rw [← Option.some.inj done] at isFailure
      simp at isFailure

end Calls

theorem schedulerPut_withTds {kernel after : Kernel} {active : Tid} {tds : Tid → TaskDescriptor}
    (puts : schedulerPut kernel active = some (0, after))
    (same : tds active = kernel.tds active) :
    ∃ after', schedulerPut (kernel.withTds tds) active = some (0, after') := by
  have sameTd : (kernel.withTds tds).tds active = kernel.tds active := same
  simp only [schedulerPut] at puts ⊢
  rw [sameTd]
  split_ifs at puts ⊢ with inRange
  rcases Option.bind_eq_some_iff.mp puts with ⟨⟨err, heap⟩, done, puts⟩
  rw [show (kernel.withTds tds).heap = kernel.heap from rfl, done]
  simp only [Option.bind_eq_bind, Option.bind_some]
  split_ifs at puts ⊢ with noError
  · rw [noError]
    exact ⟨_, rfl⟩
  · exact absurd (Prod.mk.inj (Option.some.inj puts)).1 noError

/-- A call that judges a tid by its descriptor refuses it, without looking behind the table,
exactly if the descriptor is in the table and does not hold the tid. -/
theorem ChecksTid.refused_iff {kernel after : Kernel} {active : Tid} {tid : Byte}
    {call : Kernel → Option (ℤ × Kernel)} (checks : ChecksTid active tid call)
    (isTask : active.toNat < taskDescriptorMaxTasks)
    (puts : schedulerPut kernel active = some (0, after)) :
    BadTidRefused kernel active call ↔
      tid.toNat < taskDescriptorMaxTasks ∧ (kernel.tds tid).tid ≠ tid := by
  constructor
  · intro refused
    constructor
    · by_contra outside
      -- the memory behind the table may hold the tid
      obtain ⟨tds, isTds⟩ : ∃ tds : Tid → TaskDescriptor, tds =
          Function.update kernel.tds tid { kernel.tds tid with tid := tid } := ⟨_, rfl⟩
      apply checks.good (kernel.withTds tds)
      · have sameTd : (kernel.withTds tds).tds tid = tds tid := rfl
        rw [sameTd, isTds, Function.update_self]
      · apply refused.inTable
        intro task inside
        have taskNe : task ≠ tid := by
          rintro rfl
          exact outside inside
        rw [isTds, Function.update_of_ne taskNe]
    · intro sameTid
      rcases refused.refused with ⟨after', -, done⟩
      apply checks.good kernel sameTid
      rw [done]
      rfl
  · rintro ⟨inside, badTid⟩
    refine ⟨⟨after, puts, ?_⟩, fun tds same => ?_⟩
    · rw [checks.bad kernel badTid, puts]
      rfl
    · rcases schedulerPut_withTds puts (same active isTask) with ⟨after', puts'⟩
      have sameTd : (kernel.withTds tds).tds tid = kernel.tds tid := same tid inside
      rw [checks.bad _ (by rwa [sameTd]), puts']
      rfl

/--
In every state in which the caller is in the table and can be put back into its ready queue,
`Send` and `Reply` to any tid refuse it as they should exactly if it is the index of a
descriptor in the table and the memory of this descriptor does not hold it.
-/
theorem badTid_refused_iff {kernel after : Kernel} {active : Tid} (tid : Byte) (msg : Addr)
    (msgLen : Word) (rep : Addr) (repLen : Word)
    (isTask : active.toNat < taskDescriptorMaxTasks)
    (puts : schedulerPut kernel active = some (0, after)) :
    (BadTidRefused kernel active (kernelSend · active tid msg msgLen rep repLen) ↔
      tid.toNat < taskDescriptorMaxTasks ∧ (kernel.tds tid).tid ≠ tid) ∧
    (BadTidRefused kernel active (kernelReply · active tid rep repLen) ↔
      tid.toNat < taskDescriptorMaxTasks ∧ (kernel.tds tid).tid ≠ tid) :=
  ⟨(kernelSend_checksTid active tid msg msgLen rep repLen).refused_iff isTask puts,
    (kernelReply_checksTid active tid rep repLen).refused_iff isTask puts⟩

/-- In every safe run the caller is in the table and can be put back. -/
theorem run_puts {boot start final entered : Kernel} {userMain idleMain : Addr}
    {trace : List (Transition Kernel Activation)} {activation : Activation} {active : Tid}
    (booted : init boot userMain idleMain = some start) (run : Run mainStep start trace final)
    (safe : ∀ transition ∈ trace, Safe transition.before transition.input)
    (enters : kernelEntry final activation = some (active, entered)) :
    active.toNat < taskDescriptorMaxTasks ∧
      ∃ after, schedulerPut entered active = some (0, after) := by
  rcases run_matched booted run safe with ⟨model, isMatched⟩
  rcases isMatched.entered enters with ⟨model', -, -, refines, running⟩
  rcases refines.schedulerPut running.sound running.isCreated running.absent with
    ⟨after, puts, -⟩
  exact ⟨lt_of_lt_of_le running.isCreated running.sound.bounded, after, puts⟩

/-- The first task sends to a task that was never created. -/
def sendToFive : Activation :=
  { callActivation 5 0x100 0 0 with effect := fun mem => storeByte mem 0x100 5 }

theorem badTid_refused_iff_five : BadTidRefused (enteredKernel zeroedStart sendToFive) 0
    (kernelSend · 0 5 0 0 0 0) := by
  have booted : init zeroedBoot 0 0 = some zeroedStart := rfl
  have enters : kernelEntry zeroedStart sendToFive =
      some (0, enteredKernel zeroedStart sendToFive) :=
    kernelEntry_of_active (by decide +kernel)
  rcases run_puts booted (.nil zeroedStart) (by simp) enters with ⟨isTask, after, puts⟩
  exact (badTid_refused_iff 5 0 0 0 0 isTask puts).1.mpr (by decide +kernel)

/-- A machine whose memory still holds the descriptor of a task 5. -/
def leftoverBoot : Kernel :=
  zeroedBoot.modify (·.modifyTd 5 fun td => { td with tid := 5 })

def leftoverStart : Kernel := (init leftoverBoot 0 0).getD leftoverBoot

/-- A `Send` to task 5 is then accepted, although only two tasks exist. -/
theorem badTid_not_refused : ¬∀ (boot start final entered : Kernel) (userMain idleMain : Addr)
    (trace : List (Transition Kernel Activation)) (activation : Activation) (active : Tid)
    (tid : Byte) (msg : Addr) (msgLen : Word) (rep : Addr) (repLen : Word),
    init boot userMain idleMain = some start → Run mainStep start trace final →
    kernelEntry final activation = some (active, entered) →
    activation.trap.call entered.toKernelData active = some (.send tid msg msgLen rep repLen) →
    ¬Created entered.nextFreeTd tid →
    BadTidRefused entered active (kernelSend · active tid msg msgLen rep repLen) := by
  intro claimed
  have booted : init leftoverBoot 0 0 = some leftoverStart := rfl
  have enters : kernelEntry leftoverStart sendToFive =
      some (0, enteredKernel leftoverStart sendToFive) :=
    kernelEntry_of_active (by decide +kernel)
  have refused := claimed _ _ _ _ _ _ _ sendToFive 0 5 0 0 0 0 booted (.nil leftoverStart) enters
    (by decide +kernel) (by decide +kernel)
  apply (kernelSend_checksTid 0 5 0 0 0 0).good (enteredKernel leftoverStart sendToFive)
  · decide +kernel
  · rcases refused.refused with ⟨after, -, done⟩
    rw [done]
    rfl

end ArmKernel
