import ArmKernel.MainLoop

/-!
# Failed and successful `Create` calls

Every handler puts its caller back into a ready queue, except the two early returns of
`kernel_create`: a caller whose priority is out of range, or for whom the table has no
descriptor left, is in no queue afterwards and never runs again.
-/

namespace ArmKernel

open PartialMachine Placement

/-- What `Create` promises its caller, given the kernel before and after the call and the
value returned. -/
structure CreatePromise (before after : Kernel) (active : Tid) (priority : ℤ) (ret : ℤ) : Prop where
  /-- On failure nothing changes but that the caller is ready again, with its return value. -/
  failure : ret < 0 →
    after.nextFreeTd = before.nextFreeTd ∧
    after.tds = (before.setState active .ready).tds ∧
    (∀ ctx, Live before.nextFreeTd ctx → ctx ≠ .priorityQ (before.tds active).priority →
      queueTasks after.heap ctx = queueTasks before.heap ctx) ∧
    queueTasks after.heap (.priorityQ (before.tds active).priority) =
      queueTasks before.heap (.priorityQ (before.tds active).priority) ++ [active] ∧
    after.frames active 0 = BitVec.ofInt 32 ret
  /-- On success the caller and a task with a fresh tid are ready. -/
  success : 0 ≤ ret →
    active ∈ queueTasks after.heap (.priorityQ (before.tds active).priority) ∧
    ∃ newTask, (newTask.toNat : ℤ) = ret ∧
      newTask ∈ queueTasks after.heap (.priorityQ (BitVec.ofInt 8 priority)) ∧
      (after.tds newTask).tid = newTask ∧
      ∀ task, Created before.nextFreeTd task → (before.tds task).tid ≠ newTask

/-- The call is accepted. -/
def Acceptable (data : KernelData) (priority : ℤ) : Prop :=
  0 ≤ priority ∧ priority ≤ 63 ∧ data.nextFreeTd < taskDescriptorMaxTasks

section Create

variable {kernel : Kernel} {model : ListKernel} {active : Tid} {priority : ℤ}

/-- A rejected call returns a negative value and leaves the kernel as it is. -/
theorem kernelCreate_rejected (rejected : ¬Acceptable kernel.toKernelData priority)
    (active : Tid) (code : Addr) :
    ∃ ret, ret < 0 ∧ kernelCreate kernel active priority code = some (ret, kernel) := by
  rw [kernelCreate]
  split_ifs with outOfRange full
  · exact ⟨-1, by decide, rfl⟩
  · exact ⟨-2, by decide, rfl⟩
  · exact absurd ⟨by omega, by omega, by omega⟩ rejected

theorem create_accepted (running : Running model.nextFreeTd active model)
    (accepted : Acceptable model.toKernelData priority) (code : Addr) :
    (model.create active priority code).1 = model.nextFreeTd ∧
    active ∈ (model.create active priority code).2.lists
      (.priorityQ (model.tds active).priority) ∧
    BitVec.ofNat 8 model.nextFreeTd ∈ (model.create active priority code).2.lists
      (.priorityQ (BitVec.ofInt 8 priority)) := by
  rcases accepted with ⟨nonneg, le63, room⟩
  have newNe : active ≠ BitVec.ofNat 8 model.nextFreeTd := by
    rintro same
    exact not_created_next room.le (same ▸ running.isCreated)
  have newValue : (BitVec.ofNat 8 model.nextFreeTd).toNat = model.nextFreeTd := by
    rw [BitVec.toNat_ofNat]
    exact Nat.mod_eq_of_lt (lt_trans room (by decide))
  rw [ListKernel.create, if_neg (by omega), if_neg (by omega)]
  refine ⟨congrArg Nat.cast newValue, ?_, ?_⟩
  · have activePut := ListKernel.mem_put ((model.modify (taskDescriptorInitData ·
      (BitVec.ofNat 8 model.nextFreeTd) (BitVec.ofNat 8 model.nextFreeTd)
      (BitVec.ofInt 8 priority) (some active) code)).put (BitVec.ofNat 8 model.nextFreeTd)) active
    have samePriority : (((model.modify (taskDescriptorInitData ·
        (BitVec.ofNat 8 model.nextFreeTd) (BitVec.ofNat 8 model.nextFreeTd)
        (BitVec.ofInt 8 priority) (some active) code)).put
          (BitVec.ofNat 8 model.nextFreeTd)).tds active).priority =
        (model.tds active).priority := by
      refine (KernelData.setState_priority _).trans ?_
      exact congrArg TaskDescriptor.priority (taskDescriptorInitData_of_ne newNe)
    rw [samePriority] at activePut
    exact activePut
  · have newPut := ListKernel.mem_put (model.modify (taskDescriptorInitData ·
      (BitVec.ofNat 8 model.nextFreeTd) (BitVec.ofNat 8 model.nextFreeTd)
      (BitVec.ofInt 8 priority) (some active) code)) (BitVec.ofNat 8 model.nextFreeTd)
    simp only [ListKernel.modify, taskDescriptorInitData_priority] at newPut
    exact ListKernel.mem_put_of_mem newPut

theorem kernelCreate_accepted (refines : Refines model.nextFreeTd kernel model)
    (running : Running model.nextFreeTd active model)
    (accepted : Acceptable kernel.toKernelData priority) (code : Addr) :
    ∃ ret created, kernelCreate kernel active priority code = some (ret, created) ∧
      CreatePromise kernel (created.modify (taskDescriptorSetReturnValue · active ret)) active
        priority ret := by
  rw [refines.data] at accepted
  rcases refines.kernelCreate running priority code with ⟨created, done, refines'⟩
  rcases create_accepted running accepted code with ⟨value, activeMem, newMem⟩
  have sound := running.create priority code
  have newCreated := sound.created newMem
  refine ⟨_, created, done, fun negative => ?_, fun _ => ⟨?_, BitVec.ofNat 8 model.nextFreeTd,
    ?_, ?_, ?_, ?_⟩⟩
  · rw [value] at negative
    omega
  · simp only [Kernel.modify_heap, refines.sameTds]
    rwa [refines'.queueTasks_eq _ (sound.live activeMem)]
  · rw [value, BitVec.toNat_ofNat, Nat.mod_eq_of_lt (lt_trans accepted.2.2 (by decide))]
  · rw [Kernel.modify_heap, refines'.queueTasks_eq _ (sound.live newMem)]
    exact newMem
  · rw [Kernel.modify_data, KernelData.setReturnValue_tds, refines'.sameTds]
    exact sound.tid newCreated
  · intro task isCreated same
    rw [congrArg KernelData.nextFreeTd refines.data] at isCreated
    rw [refines.sameTds, running.sound.tid isCreated] at same
    exact not_created_next accepted.2.2.le (same ▸ isCreated)

end Create

/--
In every safe run, a `Create` keeps its promise exactly if it is accepted: the priority is
in range and a descriptor is free.
-/
theorem create_promise_iff {boot start before entered : Kernel} {userMain idleMain : Addr}
    {trace : List (Transition Kernel Activation)} {activation : Activation} {active : Tid}
    {priority : ℤ} {code : Addr} (booted : init boot userMain idleMain = some start)
    (run : Run mainStep start trace before)
    (safe : ∀ transition ∈ trace, Safe transition.before transition.input)
    (enters : kernelEntry before activation = some (active, entered))
    (isCreate : activation.trap.call entered.toKernelData active =
      some (.create priority code)) :
    ∃ ret after, loopBody before activation = some (false, after) ∧
      (∃ created, kernelCreate entered active priority code = some (ret, created) ∧
        after = created.modify (taskDescriptorSetReturnValue · active ret)) ∧
      (CreatePromise entered after active priority ret ↔
        Acceptable entered.toKernelData priority) := by
  rcases run_matched booted run safe with ⟨model, isMatched⟩
  rcases isMatched.entered enters with ⟨model', -, body, refines, running⟩
  rw [handle_of_call isCreate] at body
  by_cases accepted : Acceptable entered.toKernelData priority
  · obtain ⟨ret, created, done, promise⟩ := kernelCreate_accepted refines running accepted
      code
    have finished : handleSysCall entered active (.create priority code) =
        some (false, created.modify (taskDescriptorSetReturnValue · active ret)) := by
      simp [handleSysCall, done]
    exact ⟨ret, _, body.trans finished, ⟨created, done, rfl⟩, fun _ => accepted, fun _ => promise⟩
  · rcases kernelCreate_rejected accepted active code with ⟨ret, negative, done⟩
    have finished : handleSysCall entered active (.create priority code) =
        some (false, entered.modify (taskDescriptorSetReturnValue · active ret)) := by
      simp [handleSysCall, done]
    refine ⟨ret, _, body.trans finished, ⟨entered, done, rfl⟩, fun promise => ?_,
      fun isAccepted => absurd isAccepted accepted⟩
    rcases promise.failure negative with ⟨-, -, -, requeued, -⟩
    simp at requeued

/-- The first task asks for a task of priority 3. -/
def createInRange : Activation := callActivation 2 3 0 0

theorem create_promise_iff_inRange : ∃ ret after,
    loopBody zeroedStart createInRange = some (false, after) ∧
    CreatePromise (enteredKernel zeroedStart createInRange) after 0 3 ret := by
  have booted : init zeroedBoot 0 0 = some zeroedStart := rfl
  have enters : kernelEntry zeroedStart createInRange =
      some (0, enteredKernel zeroedStart createInRange) := kernelEntry_of_active rfl
  obtain ⟨ret, after, body, -, promise⟩ := create_promise_iff booted (.nil zeroedStart)
    (by simp) enters rfl
  have positive : (0 : ℤ) ≤ 3 := by decide
  have small : (3 : ℤ) ≤ 63 := by decide
  have room : 2 < taskDescriptorMaxTasks := by decide
  exact ⟨ret, after, body, promise.mpr ⟨positive, small, room⟩⟩

/-- The first task asks for a task of priority 64. -/
def createOutOfRange : Activation := callActivation 2 64 0 0

/-- After a `Create` with priority 64 the caller is in no ready queue. -/
theorem create_promise_broken : ¬∀ (boot start before entered after : Kernel)
    (userMain idleMain : Addr) (trace : List (Transition Kernel Activation))
    (activation : Activation) (active : Tid) (priority ret : ℤ) (code : Addr),
    init boot userMain idleMain = some start → Run mainStep start trace before →
    kernelEntry before activation = some (active, entered) →
    activation.trap.call entered.toKernelData active = some (.create priority code) →
    kernelCreate entered active priority code = some (ret, after) →
    CreatePromise entered (after.modify (taskDescriptorSetReturnValue · active ret)) active
      priority ret := by
  intro promised
  have booted : init zeroedBoot 0 0 = some zeroedStart := rfl
  have enters : kernelEntry zeroedStart createOutOfRange =
      some (0, enteredKernel zeroedStart createOutOfRange) := kernelEntry_of_active rfl
  have promise := promised _ _ _ _ _ _ _ _ _ _ 64 (-1) 0 booted (.nil zeroedStart) enters rfl rfl
  rcases promise.failure (by decide) with ⟨-, -, -, requeued, -⟩
  simp at requeued

end ArmKernel
