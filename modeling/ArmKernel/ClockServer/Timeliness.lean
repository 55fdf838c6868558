import ArmKernel.ClockServer.Handling

/-!
# Whether the clock server wakes its clients in time

When a tick comes, the server releases the first of the waiting tasks if its deadline has
passed. It does not look at the next one. So after a tick no deadline that has passed is
left exactly if there was at most one to begin with.
-/

namespace ArmKernel

open PartialMachine LinkedChain

/-- The entries on the chain from `blocked.front`. -/
def ClockServer.blockedEntries (server : ClockServer) : List ClockEntry :=
  let blocked := server.lists.heap.queue .blocked
  (walk server.lists.heap.next blocked.elements.toNat blocked.front).map server.lists.entries

/-- No task whose deadline has passed is left waiting. -/
def ClockServer.Timely (server : ClockServer) : Prop :=
  ∀ entry ∈ server.blockedEntries, ¬entry.ticks < server.ticks

/-- The waiting tasks whose deadline will have passed at the next tick. -/
def ClockServer.due (server : ClockServer) : List ClockEntry :=
  server.blockedEntries.filter fun entry => entry.ticks < server.ticks + 1

/-- The server handles a TICK message in its main loop. -/
def ClockTransition.IsTick (transition : ClockTransition) : Prop :=
  transition.before.phase = .serving ∧
    (transition.before.load transition.input).msg.type = .tick

/-- The order of the waiting tasks. -/
structure InOrder (blocked : List ClockEntry) : Prop where
  sorted : blocked.Pairwise fun left right => left.ticks.toInt ≤ right.ticks.toInt
  positive : ∀ entry ∈ blocked, 0 < entry.ticks.toInt

theorem ClockLists.Presents.blockedEntries_eq {server : ClockServer} {backed : ClockQueue → Prop}
    {blocked : List ClockEntry} (presents : server.lists.Presents backed blocked) :
    server.blockedEntries = blocked := by
  rcases presents with ⟨nodes, holds, entries⟩
  have visited := @QueueHeap.Models.walk_eq _ _ _ _ _ _ ClockQueue.blocked holds.models trivial
  rw [ClockServer.blockedEntries]
  simp only [visited, entries]

section Order

variable {blocked rest : List ClockEntry} {front : ClockEntry} {ticks : Word}

theorem InOrder.insert (inOrder : InOrder blocked) {entry : ClockEntry}
    (positive : 0 < entry.ticks.toInt) : InOrder (blocked.orderedInsert Earlier entry) := by
  constructor
  · apply pairwise_orderedInsert inOrder.sorted
    · exact fun other _ notEarlier => not_lt.mp notEarlier
    · exact fun other _ earlier => le_of_lt earlier
    · exact fun left right ordered earlier => lt_of_lt_of_le earlier ordered
  · intro other otherMem
    rcases (List.mem_orderedInsert _).mp otherMem with rfl | oldMem
    · exact positive
    · exact inOrder.positive other oldMem

theorem InOrder.tail (inOrder : InOrder (front :: rest)) : InOrder rest :=
  ⟨(List.pairwise_cons.mp inOrder.sorted).2,
    fun entry entryMem => inOrder.positive entry (List.mem_cons_of_mem front entryMem)⟩

theorem InOrder.early (inOrder : InOrder blocked)
    (early : ∀ front ∈ blocked.head?, ¬front.ticks < ticks) :
    ∀ entry ∈ blocked, ¬entry.ticks < ticks := by
  intro entry entryMem
  cases blocked with
  | nil => cases entryMem
  | cons front rest =>
      have notYet := early front rfl
      rcases List.mem_cons.mp entryMem with rfl | restMem
      · exact notYet
      · have ordered := (List.pairwise_cons.mp inOrder.sorted).1 entry restMem
        have ofFront := ClockServer.toInt_eq_toNat (inOrder.positive front List.mem_cons_self)
        have ofEntry := ClockServer.toInt_eq_toNat (inOrder.positive entry entryMem)
        rw [BitVec.lt_def] at notYet ⊢
        omega

end Order

section Steps

variable {server after : ClockServer} {blocked blocked' : List ClockEntry}
  {replies : List ClockReply} {event : ClockEvent}

theorem Handles.inOrder (handles : Handles server blocked after replies blocked')
    (inOrder : InOrder blocked) : InOrder blocked' := by
  cases handles with
  | idle | answers | ignores => exact inOrder
  | wakes _ shape =>
      rw [shape] at inOrder
      exact inOrder.tail
  | waits _ positive => exact inOrder.insert positive

theorem ClockServer.load_lists : (server.load event).lists = server.lists := by
  cases event <;> rfl

theorem ClockServer.load_phase : (server.load event).phase = server.phase := by
  cases event <;> rfl

theorem ClockServer.stepReplies_serving (serving : server.phase = .serving) :
    server.stepReplies event = (server.load event).handle := by
  rw [stepReplies, received, load_phase, serving]

theorem ClockServer.stepReplies_exiting {exiterTid : Tid}
    (exiting : server.phase = .exiting exiterTid) :
    server.stepReplies event = some ((server.load event).drain exiterTid) := by
  rw [stepReplies, received, load_phase, exiting]

theorem ClockServer.stepReplies_exited (exited : server.phase = .exited) :
    server.stepReplies event = none := by
  rw [stepReplies, received, load_phase, exited]

/-- In the main loop a message is handled; after it the lists stay as they are. -/
theorem ClockServer.stepReplies_cases (done : server.stepReplies event = some (after, replies))
    (shown : server.lists.Shows blocked) :
    (∃ blocked', after.lists.Shows blocked' ∧
      Handles (server.load event) blocked after replies blocked') ∨
      server.phase ≠ .serving ∧ after.lists = server.lists := by
  have shown' : (server.load event).lists.Shows blocked := by rwa [load_lists]
  cases phase : server.phase with
  | serving =>
      rw [stepReplies_serving phase] at done
      exact .inl (handle_handles shown' done)
  | exiting exiterTid =>
      refine .inr ⟨nofun, ?_⟩
      rw [stepReplies_exiting phase, drain] at done
      split_ifs at done
      · rcases Prod.mk.inj (Option.some.inj done) with ⟨rfl, -⟩
        exact load_lists
      · rcases Prod.mk.inj (Option.some.inj done) with ⟨rfl, -⟩
        exact load_lists
  | exited =>
      rw [stepReplies_exited phase] at done
      cases done

/-- The lists are in order in every state. -/
def ClockServer.Orderly (server : ClockServer) : Prop :=
  ∃ blocked, server.lists.Shows blocked ∧ InOrder blocked

theorem ClockServer.Orderly.step (orderly : server.Orderly)
    (taken : server.step event = some after) : after.Orderly := by
  rcases orderly with ⟨blocked, shown, inOrder⟩
  rcases Option.map_eq_some_iff.mp taken with ⟨⟨_, replies⟩, done, rfl⟩
  rcases stepReplies_cases done shown with ⟨blocked', shown', handles⟩ | ⟨-, sameLists⟩
  · exact ⟨blocked', shown', handles.inOrder inOrder⟩
  · refine ⟨blocked, ?_, inOrder⟩
    rw [sameLists]
    exact shown

theorem ClockServer.start_presents {backed : ClockQueue → Prop} {msg : ClockServerMsg}
    {lists : ClockLists} {first : ClockServer} (freeBacked : backed .freeList)
    (started : ClockServer.start msg lists = some first) :
    first.lists.Presents backed [] ∧ first.ticks = 0 ∧ first.phase = .serving := by
  rcases ClockLists.init_presents lists freeBacked with ⟨lists', ready, presents⟩
  simp only [start, ready, Option.bind_eq_bind, Option.bind_some] at started
  rcases Option.some.inj started with rfl
  exact ⟨presents, rfl, rfl⟩

theorem ClockServer.start_shows {msg : ClockServerMsg} {lists : ClockLists} {first : ClockServer}
    (started : ClockServer.start msg lists = some first) :
    first.lists.Shows [] ∧ first.ticks = 0 ∧ first.phase = .serving := start_presents rfl started

theorem ClockServer.Orderly.timely_iff {transition : ClockTransition}
    (orderly : transition.before.Orderly) (isTick : transition.IsTick)
    (taken : transition.before.step transition.input = some transition.after) :
    transition.after.Timely ↔ transition.before.due.length ≤ 1 := by
  rcases transition with ⟨server, event, after⟩
  rcases isTick with ⟨serving, isTick⟩
  rcases orderly with ⟨blocked, shown, inOrder⟩
  rcases Option.map_eq_some_iff.mp taken with ⟨⟨next, replies⟩, done, isAfter⟩
  obtain rfl : next = after := isAfter
  have sameTicks : (server.load event).ticks = server.ticks := by cases event <;> rfl
  rcases stepReplies_cases done shown with ⟨blocked', shown', handles⟩ | ⟨notServing, -⟩
  · simp only [Timely, due, shown.blockedEntries_eq, shown'.blockedEntries_eq]
    cases handles with
    | idle _ early ticks =>
        rw [sameTicks] at early ticks
        have noneDue := inOrder.early early
        have nothing : (blocked.filter fun entry => entry.ticks < server.ticks + 1) = [] := by
          apply List.filter_eq_nil_iff.mpr
          simpa only [decide_eq_true_eq] using noneDue
        rw [ticks, nothing]
        exact iff_of_true noneDue (Nat.zero_le 1)
    | wakes _ shape isDue ticks =>
        rw [sameTicks] at isDue ticks
        rw [shape, ticks]
        simp only [List.filter_cons, decide_eq_true isDue, if_true, List.length_cons]
        rw [Nat.succ_le_succ_iff, Nat.le_zero, List.length_eq_zero_iff, List.filter_eq_nil_iff]
        simp only [decide_eq_true_eq]
    | answers notTick | waits notTick => exact absurd isTick notTick
    | ignores noRequest => simp [isTick] at noRequest
  · exact absurd serving notServing

end Steps

/-- In every run a tick leaves no task waiting whose deadline has passed if and only if there was
at most one such task. -/
theorem run_timely_iff {msg : ClockServerMsg} {lists : ClockLists} {first final : ClockServer}
    {trace : List ClockTransition} (started : ClockServer.start msg lists = some first)
    (run : Run ClockServer.step first trace final) :
    ∀ transition ∈ trace, transition.IsTick →
      (transition.after.Timely ↔ transition.before.due.length ≤ 1) := by
  intro transition transitionMem isTick
  have initially : first.Orderly := ⟨[], (ClockServer.start_shows started).1, .nil, nofun⟩
  have preserved : ∀ transition : ClockTransition,
      transition.before.step transition.input = some transition.after →
      True → transition.before.Orderly → transition.after.Orderly :=
    fun _ taken _ orderly => orderly.step taken
  have orderly := run.invariant_before ClockServer.Orderly preserved (fun _ _ => trivial)
    initially transitionMem
  exact orderly.timely_iff isTick (run.step_of_mem transitionMem)

/-- Memory of zeros for the lists. -/
def blankLists : ClockLists where
  heap :=
    { queue := fun _ => ⟨none, none, 0⟩
      node := fun _ => ⟨none, none⟩ }
  entries := fun _ => ⟨0, 0⟩

/-- The server that starts with this memory. -/
def blankServer : ClockServer :=
  (ClockServer.start ⟨.error, 0⟩ blankLists).getD ⟨0, ⟨.error, 0⟩, 0, blankLists, .serving⟩

theorem blankServer_started : ClockServer.start ⟨.error, 0⟩ blankLists = some blankServer := by
  have starts : (ClockServer.start ⟨.error, 0⟩ blankLists).isSome := by decide +kernel
  rw [blankServer, Option.getD_of_ne_none (Option.isSome_iff_ne_none.mp starts)]

section Cases

variable {server : ClockServer} {blocked : List ClockEntry} {sender : Tid} {time : Word}

theorem ClockServer.step_delayUntil (shown : server.lists.Shows blocked)
    (serving : server.phase = .serving) (isLeft : blocked.length < taskDescriptorMaxTasks)
    (positive : 0 < time.toInt) (notLate : ¬time < server.ticks) :
    ∃ after, server.step (.receive sender ⟨.delayUntil, time⟩) = some after ∧
      after.lists.Shows (blocked.orderedInsert Earlier ⟨time, sender⟩) ∧
      after.ticks = server.ticks ∧ after.phase = .serving := by
  rcases shown.block isLeft time sender (fun same => nomatch same) with ⟨lists, isBlocked, shown'⟩
  let after : ClockServer :=
    { server with
      senderTid := sender
      msg := ⟨.delayUntil, time⟩
      lists := lists
      phase := .serving }
  refine ⟨after, ?_, shown', rfl, rfl⟩
  simp only [step, stepReplies, load, received, serving, handle, delayUntil, not_le.mpr positive,
    notLate, if_false, isBlocked, Option.bind_eq_bind, Option.bind_some, Option.map_some]
  rfl

theorem ClockServer.step_tick_early {front : ClockEntry} {rest : List ClockEntry}
    (shown : server.lists.Shows (front :: rest)) (serving : server.phase = .serving)
    (early : ¬front.ticks < server.ticks + 1) :
    ∃ after, server.step (.receive sender ⟨.tick, time⟩) = some after ∧
      after.lists.Shows (front :: rest) ∧ after.ticks = server.ticks + 1 ∧
      after.phase = .serving := by
  let after : ClockServer :=
    { server with
      senderTid := sender
      msg := ⟨.tick, time⟩
      ticks := server.ticks + 1
      phase := .serving }
  refine ⟨after, ?_, shown, rfl, rfl⟩
  simp only [step, stepReplies, load, received, serving, handle, tick, shown.release_early early,
    Option.bind_eq_bind, Option.bind_some, Option.map_some]
  rfl

theorem ClockServer.step_tick_due {front : ClockEntry} {rest : List ClockEntry}
    (shown : server.lists.Shows (front :: rest)) (serving : server.phase = .serving)
    (due : front.ticks < server.ticks + 1) :
    ∃ after, server.step (.receive sender ⟨.tick, time⟩) = some after ∧
      after.lists.Shows rest ∧ after.ticks = server.ticks + 1 ∧ after.phase = .serving := by
  rcases shown.release_due rfl due with ⟨lists, released, shown'⟩
  let after : ClockServer :=
    { server with
      senderTid := sender
      msg := ⟨.tick, server.ticks + 1⟩
      ticks := server.ticks + 1
      lists := lists
      phase := .serving }
  refine ⟨after, ?_, shown', rfl, rfl⟩
  simp only [step, stepReplies, load, received, serving, handle, tick, released,
    Option.bind_eq_bind, Option.bind_some, Option.map_some]
  rfl

end Cases

/-- Tasks 3 and 4 ask to be delayed until tick 1, and two ticks come. -/
def equalDeadlines : List ClockEvent :=
  [.receive 3 ⟨.delayUntil, 1⟩, .receive 4 ⟨.delayUntil, 1⟩, .receive 5 ⟨.tick, 0⟩,
    .receive 5 ⟨.tick, 0⟩]

/-- The second tick wakes only one of the two. -/
theorem run_equalDeadlines : ∃ first final, ∃ trace : List ClockTransition,
    ClockServer.start ⟨.error, 0⟩ blankLists = some first ∧ Run ClockServer.step first trace final ∧
      trace.map (·.input) = equalDeadlines ∧
      ∃ transition ∈ trace, transition.IsTick ∧ ¬transition.after.Timely := by
  have started := blankServer_started
  generalize blankServer = first at started
  rcases ClockServer.start_shows started with ⟨shown, ticks, serving⟩
  have notLate : ¬(1 : Word) < first.ticks := by
    rw [ticks]
    decide
  rcases @ClockServer.step_delayUntil _ _ 3 1 shown serving (by decide) (by decide) notLate with
    ⟨second, step₁, shown₁, ticks₁, serving₁⟩
  rcases @ClockServer.step_delayUntil _ _ 4 1 shown₁ serving₁ (by decide) (by decide)
    (by rwa [ticks₁]) with ⟨third, step₂, shown₂, ticks₂, serving₂⟩
  have both : (([].orderedInsert Earlier ⟨1, 3⟩).orderedInsert Earlier ⟨1, 4⟩ :
      List ClockEntry) = [⟨1, 3⟩, ⟨1, 4⟩] := rfl
  rw [both] at shown₂
  have count₂ : third.ticks = 0 := ticks₂.trans (ticks₁.trans ticks)
  have early : ¬(1 : Word) < third.ticks + 1 := by
    rw [count₂]
    decide
  rcases @ClockServer.step_tick_early _ 5 0 _ _ shown₂ serving₂ early with
    ⟨fourth, step₃, shown₃, ticks₃, serving₃⟩
  have due : (1 : Word) < fourth.ticks + 1 := by
    rw [ticks₃, count₂]
    decide
  rcases @ClockServer.step_tick_due _ 5 0 _ _ shown₃ serving₃ due with
    ⟨fifth, step₄, shown₄, ticks₄, -⟩
  refine ⟨first, fifth, _, started, .cons step₁ (.cons step₂ (.cons step₃ (.cons step₄ (.nil _)))),
    rfl, ⟨fourth, .receive 5 ⟨.tick, 0⟩, fifth⟩, by simp, ⟨serving₃, rfl⟩, ?_⟩
  intro timely
  apply timely ⟨1, 4⟩
  · rw [shown₄.blockedEntries_eq]
    exact List.mem_cons_self
  · rw [ticks₄]
    exact due

theorem run_timely_iff_equalDeadlines : ∃ first final, ∃ trace : List ClockTransition,
    ClockServer.start ⟨.error, 0⟩ blankLists = some first ∧ Run ClockServer.step first trace final ∧
      trace.map (·.input) = equalDeadlines ∧
      ∀ transition ∈ trace, transition.IsTick →
        (transition.after.Timely ↔ transition.before.due.length ≤ 1) := by
  rcases run_equalDeadlines with ⟨first, final, trace, started, run, inputs, -⟩
  exact ⟨first, final, trace, started, run, inputs, run_timely_iff started run⟩

/-- A tick may leave a task waiting whose deadline has passed. -/
theorem tick_not_timely : ¬∀ (msg : ClockServerMsg) (lists : ClockLists)
    (first final : ClockServer) (trace : List ClockTransition),
    ClockServer.start msg lists = some first → Run ClockServer.step first trace final →
      ∀ transition ∈ trace, transition.IsTick → transition.after.Timely := by
  intro claimed
  rcases run_equalDeadlines with
    ⟨first, final, trace, started, run, -, transition, transitionMem, isTick, notTimely⟩
  exact notTimely (claimed _ _ _ _ _ started run transition transitionMem isTick)

end ArmKernel
