import ArmKernel.ListKernel.Kept
import ArmKernel.MainLoop

/-!
# What a task is

A task is created with a tid, a priority and a parent, and keeps them for good, also when it runs
and after it has exited. Parents are older than their children, so every created task descends from
the first one, and `MyParentTid` always returns the tid of the task that called `Create`.
-/

namespace ArmKernel

open PartialMachine Placement

/-- What a task is does not change. -/
structure SameIdentity (task : Tid) (data data' : KernelData) : Prop where
  tid : (data'.tds task).tid = (data.tds task).tid
  priority : (data'.tds task).priority = (data.tds task).priority
  parent : (data'.tds task).parent = (data.tds task).parent

/-- The parent of the task, if it has one, was created before it. -/
def HasOlderParent (data : KernelData) (task : Tid) : Prop :=
  match (data.tds task).parent with
  | none => task = 0
  | some parent => parent.toNat < task.toNat

namespace SameIdentity

variable {task : Tid} {data data' data'' : KernelData}

theorem refl (data : KernelData) : SameIdentity task data data := ⟨rfl, rfl, rfl⟩

theorem trans (first : SameIdentity task data data') (second : SameIdentity task data' data'') :
    SameIdentity task data data'' where
  tid := second.tid.trans first.tid
  priority := second.priority.trans first.priority
  parent := second.parent.trans first.parent

theorem of_keeps (keeps : KeepsTask task data data') : SameIdentity task data data' :=
  ⟨keeps.tid, keeps.priority, keeps.parent⟩

theorem hasOlderParent (same : SameIdentity task data data') (older : HasOlderParent data task) :
    HasOlderParent data' task := by
  rw [HasOlderParent, same.parent]
  exact older

theorem enter (data : KernelData) (isExit : Byte) (active : Tid) (activation : Activation) :
    SameIdentity task data (data.enter isExit active activation) := by
  rcases eq_or_ne task active with rfl | taskNe
  · refine ⟨?_, ?_, ?_⟩ <;> simp only [KernelData.enter] <;> split_ifs <;>
      simp [activate, endIdleTask, KernelData.modifyTd, KernelData.setMem]
  · have same : (data.enter isExit active activation).tds task = data.tds task :=
      KernelData.enter_tds_of_ne taskNe isExit activation
    exact ⟨by rw [same], by rw [same], by rw [same]⟩

end SameIdentity

section Steps

variable {kernel entered : ListKernel} {activation : Activation} {active task : Tid}

theorem entry_sameIdentity (runs : kernel.entry activation = some (active, entered)) :
    SameIdentity task kernel.toKernelData entered.toKernelData := by
  rcases ListKernel.entry_eq runs with ⟨taken, got, rfl, -⟩
  rcases ListKernel.get_eq got with ⟨rest, -, -, rfl⟩
  have taking : SameIdentity task kernel.toKernelData
      (kernel.take (bitmapLeadingzeroes kernel.bitmap) rest).toKernelData := ⟨rfl, rfl, rfl⟩
  exact taking.trans (.enter _ _ active activation)

theorem step_sameIdentity (sound : Sound kernel.nextFreeTd kernel)
    (isCreated : Created kernel.nextFreeTd task) :
    SameIdentity task kernel.toKernelData (kernel.step activation).2.toKernelData := by
  cases runs : kernel.entry activation with
  | none =>
      rw [ListKernel.step, runs]
      exact .refl _
  | some result =>
      rcases result with ⟨active, entered⟩
      have bounded := (Running.of_entry sound runs).sound.bounded
      rw [← ListKernel.entry_nextFreeTd runs] at isCreated
      rw [ListKernel.step_of_entry runs]
      exact (entry_sameIdentity runs).trans (.of_keeps (handle_keeps isCreated bounded _))

theorem taskDescriptorInitData_parent (data : KernelData) (ctx : Tid) (tid priority : Byte)
    (parent : Option Tid) (code : Addr) :
    ((taskDescriptorInitData data ctx tid priority parent code).tds ctx).parent = parent := by
  simp [taskDescriptorInitData, KernelData.setState]

theorem init_hasOlderParent (boot : KernelData) (userMain idleMain : Addr)
    (isCreated : Created 2 task) :
    HasOlderParent (ListKernel.init boot userMain idleMain).toKernelData task := by
  have started : HasOlderParent (ListKernel.start boot userMain idleMain).toKernelData task := by
    rcases created_two.mp isCreated with rfl | rfl
    · have first := taskDescriptorInitData_parent boot 0 0 1 none userMain
      rw [HasOlderParent, ListKernel.start, taskDescriptorInitData_of_ne (by decide), first]
    · rw [HasOlderParent, ListKernel.start, taskDescriptorInitData_parent]
      decide
  exact (SameIdentity.of_keeps (start_keeps_init boot userMain idleMain task)).hasOlderParent
    started

/-- The task that creates another one is older. -/
theorem step_hasOlderParent (sound : Sound kernel.nextFreeTd kernel)
    (before : ∀ other, Created kernel.nextFreeTd other → HasOlderParent kernel.toKernelData other)
    (isCreated : Created (kernel.step activation).2.nextFreeTd task) :
    HasOlderParent (kernel.step activation).2.toKernelData task := by
  cases runs : kernel.entry activation with
  | none =>
      rw [ListKernel.step, runs] at isCreated ⊢
      exact before task isCreated
  | some result =>
      rcases result with ⟨active, entered⟩
      have running := Running.of_entry sound runs
      rw [ListKernel.step_of_entry runs] at isCreated ⊢
      apply handle_forall_created
        (fun keeps older => (SameIdentity.of_keeps keeps).hasOlderParent older) _
        running.sound.bounded _ activation.trap isCreated
      · intro priority code _
        rw [HasOlderParent, taskDescriptorInitData_parent, BitVec.toNat_ofNat,
          Nat.mod_eq_of_lt (lt_of_le_of_lt running.sound.bounded (by decide))]
        exact running.isCreated
      · intro other otherCreated
        rw [ListKernel.entry_nextFreeTd runs] at otherCreated
        exact (entry_sameIdentity runs).hasOlderParent (before other otherCreated)

/-- `MyParentTid` puts the tid of the parent into r0. -/
theorem parenttid_frame {count : ℕ} (running : Running count active kernel) {parent : Tid}
    (isParent : (kernel.tds active).parent = some parent) (isCreated : Created count parent) :
    (kernel.sysCall active .parenttid).2.frames active 0 = parent.setWidth 32 := by
  have tid : ((kernel.put active).tds parent).tid = parent :=
    (KernelData.setState_tid .ready).trans (running.sound.tid isCreated)
  simp only [ListKernel.sysCall, ListKernel.parenttid, isParent, tid,
    ListKernel.setReturnValue_data, KernelData.setReturnValue_frames, Function.update_self]
  rw [BitVec.ofInt_natCast, BitVec.ofNat_toNat]

end Steps

section Runs

/-- The task descends from the first one. -/
inductive Descends (data : KernelData) : Tid → Prop where
  | first : Descends data 0
  | child {task parent : Tid} (isParent : (data.tds task).parent = some parent)
      (older : Descends data parent) : Descends data task

variable {boot start kernel entered after middle final : Kernel} {userMain idleMain : Addr}
  {front trace : List (Transition Kernel Activation)} {activation : Activation}
  {task parent : Tid}

theorem descends_of_older {data : KernelData} {count : ℕ}
    (older : ∀ other, Created count other → HasOlderParent data other)
    (isCreated : Created count task) : Descends data task := by
  induction size : task.toNat using Nat.strong_induction_on generalizing task with
  | _ number ih =>
      have olderParent := older task isCreated
      rw [HasOlderParent] at olderParent
      cases isParent : (data.tds task).parent with
      | none =>
          simp only [isParent] at olderParent
          exact olderParent ▸ .first
      | some parent =>
          simp only [isParent] at olderParent
          have parentCreated : Created count parent := lt_trans olderParent isCreated
          exact .child isParent (ih parent.toNat (size ▸ olderParent) parentCreated rfl)

theorem safe_of_callOf {call : SysCall}
    (calls : callOf kernel activation = some (task, entered, call))
    (safeCall : SafeCall entered.toKernelData call) : Safe kernel activation := by
  intro active entered' call' enters isCall
  rcases callOf_eq_some.mp calls with ⟨enters', isCall'⟩
  rcases Prod.mk.inj (Option.some.inj (enters.symm.trans enters')) with ⟨rfl, rfl⟩
  rcases Option.some.inj (isCall.symm.trans isCall') with rfl
  exact safeCall

/-- A run does not change what a task is, also if the task runs or exits. -/
theorem Matched.run_sameIdentity {model : ListKernel} (isMatched : Matched kernel model)
    (run : Run ArmKernel.mainStep kernel trace final)
    (allowed : ∀ transition ∈ trace, Safe transition.before transition.input)
    (isCreated : Created kernel.nextFreeTd task) :
    Created final.nextFreeTd task ∧
      SameIdentity task kernel.toKernelData final.toKernelData := by
  let property : ListKernel → Prop := fun other =>
    Created other.nextFreeTd task ∧ SameIdentity task model.toKernelData other.toKernelData
  rw [isMatched.refines.data] at isCreated
  rcases isMatched.run_abstracts property run allowed (fun _ => id) ⟨isCreated, .refl _⟩
      (fun transition other otherMatched _ _ holds =>
        ⟨holds.1.trans_le (ListKernel.nextFreeTd_le_step other transition.input),
          holds.2.trans (step_sameIdentity otherMatched.sound holds.1)⟩) with
    ⟨last, lastMatched, lastCreated, same⟩
  rw [isMatched.refines.data, lastMatched.refines.data]
  exact ⟨lastCreated, same⟩

/--
In every safe run a task that has been created keeps its tid, its priority and its parent for good,
its parent is an older task, and it descends from the first task.
-/
theorem run_genealogy (booted : init boot userMain idleMain = some start)
    (before : Run mainStep start front middle)
    (wasSafe : ∀ transition ∈ front, Safe transition.before transition.input)
    (run : Run mainStep middle trace final)
    (isSafe : ∀ transition ∈ trace, Safe transition.before transition.input)
    (isCreated : Created middle.nextFreeTd task) :
    SameIdentity task middle.toKernelData final.toKernelData ∧
      (final.tds task).tid = task ∧ HasOlderParent final.toKernelData task ∧
      Descends final.toKernelData task := by
  rcases run_matched booted before wasSafe with ⟨model, isMatched⟩
  rcases isMatched.run_sameIdentity run isSafe isCreated with ⟨-, same⟩
  let property : ListKernel → Prop := fun other =>
    ∀ task, Created other.nextFreeTd task → HasOlderParent other.toKernelData task
  rcases run_abstracts property booted before wasSafe (fun _ => id)
      (fun _ => init_hasOlderParent boot.toKernelData userMain idleMain)
      (fun transition other otherMatched _ _ older _ =>
        step_hasOlderParent otherMatched.sound older) with ⟨last, lastMatched, older⟩
  have sameData := lastMatched.refines.data
  have olderLater : ∀ other, Created middle.nextFreeTd other →
      HasOlderParent final.toKernelData other := fun other otherCreated =>
    (isMatched.run_sameIdentity run isSafe otherCreated).2.hasOlderParent
      (sameData ▸ older other (sameData ▸ otherCreated))
  refine ⟨same, ?_, olderLater task isCreated, descends_of_older olderLater isCreated⟩
  rw [same.tid, isMatched.refines.data]
  exact isMatched.sound.tid (isMatched.refines.data ▸ isCreated)

/-- A task creates one of priority 0, which runs next. -/
def createUrgent : Activation := callActivation 2 0 0 0

/-- The first task and its child both create one, and the youngest exits. -/
theorem run_genealogy_urgent :
    Descends (finalOf mainStep (stepped zeroedStart createUrgent)
      [createUrgent, callActivation 0 0 0 0]).toKernelData 2 := by
  have booted : init zeroedBoot 0 0 = some zeroedStart := rfl
  have created : mainStep zeroedStart createUrgent = some (stepped zeroedStart createUrgent) :=
    mainStep_stepped (by decide +kernel)
  have runs : (record mainStep (stepped zeroedStart createUrgent)
      [createUrgent, callActivation 0 0 0 0]).isSome := by decide +kernel
  exact (run_genealogy booted (.cons created (.nil _)) (by decide +kernel) (.of_isSome runs)
    (by decide +kernel) (by decide +kernel)).2.2.2

/--
A task that calls `MyParentTid` at any point of a safe run gets the tid of the task whose `Create`
made it, whatever both of them and the others have done since.
-/
theorem run_parenttid {later entered' : Kernel} {priority : ℤ} {code : Addr}
    {asking : Activation}
    (booted : init boot userMain idleMain = some start) (before : Run mainStep start front kernel)
    (wasSafe : ∀ transition ∈ front, Safe transition.before transition.input)
    (creates : callOf kernel activation = some (parent, entered, .create priority code))
    (inRange : 0 ≤ priority ∧ priority ≤ 63)
    (room : entered.nextFreeTd < taskDescriptorMaxTasks)
    (created : mainStep kernel activation = some after)
    (meanwhile : Run mainStep after trace later)
    (isSafe : ∀ transition ∈ trace, Safe transition.before transition.input)
    (asks : callOf later asking = some (task, entered', .parenttid))
    (isNew : task = BitVec.ofNat 8 entered.nextFreeTd)
    (answered : mainStep later asking = some final) :
    final.frames task 0 = parent.setWidth 32 := by
  rcases run_matched booted before wasSafe with ⟨model, isMatched⟩
  have createSafe : Safe kernel activation := safe_of_callOf creates trivial
  rcases isMatched.called createSafe creates with ⟨model', -, refines, running, -, -, stepped⟩
  rcases isMatched.mainStep created createSafe with ⟨-, afterMatched⟩
  rw [stepped] at afterMatched
  have sameNext : entered.nextFreeTd = model'.nextFreeTd :=
    congrArg KernelData.nextFreeTd refines.data
  rw [sameNext] at isNew room
  have accepted : ¬(priority < 0 ∨ priority > 63) := by omega
  have notFull : ¬model'.nextFreeTd ≥ taskDescriptorMaxTasks := not_le.mpr room
  -- the parent is recorded
  have sameAfter : after.toKernelData = _ := afterMatched.refines.data
  have isCreated : Created after.nextFreeTd task := by
    rw [sameAfter]
    exact created_new accepted notFull isNew
  have recorded : (after.tds task).parent = some parent := by
    rw [sameAfter, (create_keeps_new accepted notFull isNew).parent,
      taskDescriptorInitData_parent]
  have parentCreated : Created after.nextFreeTd parent := by
    have older := lt_of_lt_of_le running.isCreated
      (ListKernel.nextFreeTd_le_sysCall model' parent (.create priority code))
    rw [sameAfter]
    exact older
  -- and it is the same when the child asks
  have whole : Run mainStep start (front ++ ⟨kernel, activation, after⟩ :: trace) later :=
    before.append (.cons created meanwhile)
  have wholeSafe : ∀ transition ∈ front ++ ⟨kernel, activation, after⟩ :: trace,
      Safe transition.before transition.input := by
    simp only [List.mem_append, List.mem_cons]
    rintro transition (earlier | rfl | since)
    · exact wasSafe transition earlier
    · exact createSafe
    · exact isSafe transition since
  rcases run_matched booted whole wholeSafe with ⟨laterModel, laterMatched⟩
  have askSafe : Safe later asking := safe_of_callOf asks trivial
  rcases laterMatched.called askSafe asks with ⟨asker, runs, -, askRunning, -, -, asked⟩
  rcases laterMatched.mainStep answered askSafe with ⟨-, finalMatched⟩
  have isParent : (asker.tds task).parent = some parent := by
    have same := (afterMatched.run_sameIdentity meanwhile isSafe isCreated).2
    rw [(entry_sameIdentity runs).parent, ← laterMatched.refines.data, same.parent, recorded]
  have isOld : Created asker.nextFreeTd parent := by
    have isOld := (afterMatched.run_sameIdentity meanwhile isSafe parentCreated).1
    rw [laterMatched.refines.data] at isOld
    rw [ListKernel.entry_nextFreeTd runs]
    exact isOld
  rw [finalMatched.refines.data, asked]
  exact parenttid_frame askRunning isParent isOld

/-- The child of the first task has created one. -/
def grandchildCreated : Kernel := stepped (stepped zeroedStart createUrgent) createUrgent

theorem run_parenttid_grandchild :
    (stepped grandchildCreated (callActivation 4 0 0 0)).frames 3 0 = 2 := by
  let kernel := stepped zeroedStart createUrgent
  have booted : init zeroedBoot 0 0 = some zeroedStart := rfl
  have first : mainStep zeroedStart createUrgent = some kernel :=
    mainStep_stepped (by decide +kernel)
  have created : mainStep kernel createUrgent = some grandchildCreated :=
    mainStep_stepped (by decide +kernel)
  have creates : callOf kernel createUrgent =
      some (2, enteredKernel kernel createUrgent, .create 0 0) :=
    callOf_eq_some.mpr ⟨kernelEntry_of_active (by decide +kernel), by decide +kernel⟩
  have asks : callOf grandchildCreated (callActivation 4 0 0 0) =
      some (3, enteredKernel grandchildCreated (callActivation 4 0 0 0), .parenttid) :=
    callOf_eq_some.mpr ⟨kernelEntry_of_active (by decide +kernel), by decide +kernel⟩
  exact run_parenttid booted (.cons first (.nil _)) (by decide +kernel) creates (by decide)
    (by decide +kernel) created (.nil _) (by simp) asks (by decide +kernel)
    (mainStep_stepped (by decide +kernel))

end Runs

end ArmKernel
