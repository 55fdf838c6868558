import ArmKernel.ClockServer.Clients

/-!
# The shutdown of the clock server

After EXIT the server receives messages until its notifier reports the next tick, and then it
answers the notifier and the task that sent EXIT. It does not answer the tasks on the blocked
list, nor those whose messages it has received meanwhile. So nobody is left behind exactly if
there are none.
-/

namespace ArmKernel

open PartialMachine

/-- The requests of each task, except for messages of unknown types, have been answered, once each
and in order, and there were no other replies. -/
def LeavesNoneBehind (trace : List ClockSystemTransition) : Prop :=
  (∀ tid, (trace.flatMap (askedBy tid)).filter (fun request => request.msg.type ≠ .error) =
    trace.flatMap (answeredTo tid)) ∧
  ∀ transition ∈ trace, ∀ reply ∈ ClockSystemTransition.replies transition,
    (transition.before.requests transition.input reply.tid).isSome

/-- No task is on the blocked list when EXIT is received, and after it only the notifier sends
messages, or tasks that send messages of unknown types. -/
def ClockSystemTransition.LosesNone (transition : ClockSystemTransition) : Prop :=
  match transition.input, transition.before.server.phase with
  | .receive _ msg, .serving => msg.type = .exit → transition.before.server.blockedEntries = []
  | .receive _ msg, .exiting _ => msg.type = .tick ∨ msg.type = .error
  | _, _ => True

/-- Apart from tasks that sent messages of unknown types, nobody waits. -/
def ClockSystem.Settled (system : ClockSystem) : Prop :=
  ∀ tid, ∀ request ∈ system.pending tid, request.msg.type = .error

section Steps

variable {system after : ClockSystem} {blocked : List ClockEntry} {event : ClockEvent}
  {replies : List ClockReply} {exiterTid : Tid}

theorem Attends.serving_cases (attends : Attends system blocked)
    (serving : system.server.phase = .serving)
    (fresh : ¬(event = .receiveFails ∧ system.server.phase = .serving ∧
      system.server.msg.type ≠ .error))
    (done : system.stepReplies event = some (after, replies)) :
    after.server.phase = .serving ∧ (∀ sender msg, event = .receive sender msg → msg.type ≠ .exit) ∨
      ∃ sender msg, event = .receive sender msg ∧ msg.type = .exit ∧
        system.pending sender = none ∧ after.server.phase = .exiting sender ∧
        after.pending = system.requests event := by
  rcases ClockSystem.stepReplies_eq_some.mp done with ⟨canHappen, server, handled, rfl⟩
  have shown : (system.server.load event).lists.Shows blocked := by
    rw [ClockServer.load_lists]
    exact attends.shown
  have samePhase : (system.server.load event).phase = .serving :=
    ClockServer.load_phase.trans serving
  rw [ClockServer.stepReplies_serving serving] at handled
  rcases ClockServer.handle_settles shown handled with ⟨blocked', -, settles⟩
  cases event with
  | receiveFails =>
      left
      refine ⟨?_, nofun⟩
      have isError : system.server.msg.type = .error := by
        by_contra notError
        exact fresh ⟨rfl, serving, notError⟩
      simp only [ClockServer.load, ClockServer.handle, isError, Option.some.injEq,
        Prod.mk.injEq] at handled
      rw [← handled.1]
      exact serving
  | receive sender msg =>
      by_cases isExit : msg.type = .exit
      · right
        simp only [ClockServer.load, ClockServer.handle, isExit, Option.some.injEq,
          Prod.mk.injEq] at handled
        rcases handled with ⟨rfl, rfl⟩
        exact ⟨sender, msg, rfl, isExit, canHappen, rfl, rfl⟩
      · left
        refine ⟨?_, ?_⟩
        · cases settles with
          | exits isExit' => exact absurd isExit' isExit
          | ignores _ same =>
              rw [same]
              exact samePhase
          | idle _ _ _ phase | wakes _ _ _ _ phase | tells _ _ phase | refuses _ _ _ phase
          | late _ _ _ _ phase | waits _ _ _ _ phase => exact phase.trans samePhase
        · rintro _ _ ⟨rfl, rfl⟩
          exact isExit

theorem Attends.exiting_cases (attends : Attends system blocked)
    (exiting : system.server.phase = .exiting exiterTid)
    (done : system.stepReplies event = some (after, replies)) :
    event = .receiveFails ∧ after.server.phase = .exiting exiterTid ∧
        after.pending = system.pending ∨
      ∃ sender msg, event = .receive sender msg ∧ system.pending sender = none ∧
        sender ≠ exiterTid ∧
        (msg.type ≠ .tick ∧ after.server.phase = .exiting exiterTid ∧
            after.pending = system.requests event ∨
          msg.type = .tick ∧ after.server.phase = .exited ∧
            after.pending = Function.update system.pending exiterTid none) := by
  have holding := attends.holding
  rw [ClockSystem.Holding, exiting] at holding
  rcases holding with ⟨notTick, waited, waitedMem, -⟩
  rcases ClockSystem.stepReplies_eq_some.mp done with ⟨canHappen, server, handled, rfl⟩
  rw [ClockServer.stepReplies_exiting exiting, ClockServer.drain] at handled
  cases event with
  | receiveFails =>
      left
      rw [ClockServer.load, if_pos notTick] at handled
      rcases Prod.mk.inj (Option.some.inj handled) with ⟨rfl, rfl⟩
      exact ⟨rfl, exiting, rfl⟩
  | receive sender msg =>
      right
      have idle : system.pending sender = none := canHappen
      have senderNe : sender ≠ exiterTid := by
        rintro rfl
        rw [Option.mem_def, idle] at waitedMem
        cases waitedMem
      refine ⟨sender, msg, rfl, idle, senderNe, ?_⟩
      split_ifs at handled with other
      · rcases Prod.mk.inj (Option.some.inj handled) with ⟨rfl, rfl⟩
        exact .inl ⟨other, exiting, rfl⟩
      · rcases Prod.mk.inj (Option.some.inj handled) with ⟨rfl, rfl⟩
        refine .inr ⟨not_not.mp other, rfl, ?_⟩
        exact congrArg (fun pending => Function.update pending exiterTid none)
          (ClockSystem.settled idle)

end Steps

/-- The task waits, and the server has received EXIT from another task. -/
def ClockSystem.Strands (system : ClockSystem) (tid : Tid) (request : ClockRequest) : Prop :=
  system.pending tid = some request ∧
    match system.server.phase with
    | .serving => False
    | .exiting exiterTid => tid ≠ exiterTid
    | .exited => True

section Stranded

variable {transition : ClockSystemTransition} {blocked : List ClockEntry} {tid : Tid}
  {request : ClockRequest}

/-- A task that is not answered when EXIT comes is never answered. -/
theorem Attends.strands_step (attends : Attends transition.before blocked)
    (strands : transition.before.Strands tid request)
    (taken : transition.before.step transition.input = some transition.after) :
    transition.after.Strands tid request := by
  rcases strands with ⟨waits, isOver⟩
  have done := ClockSystemTransition.stepReplies_eq taken
  cases phase : transition.before.server.phase with
  | serving =>
      rw [phase] at isOver
      exact isOver.elim
  | exiting exiterTid =>
      rw [phase] at isOver
      have notExiter : tid ≠ exiterTid := isOver
      rcases attends.exiting_cases phase done with
        ⟨-, exiting, pending⟩ | ⟨sender, msg, isInput, idle, -, received⟩
      · refine ⟨by rw [pending, waits], ?_⟩
        simp only [exiting]
        exact notExiter
      · rcases received with ⟨-, exiting, pending⟩ | ⟨-, exited, pending⟩
        · have notSender : tid ≠ sender := by
            rintro rfl
            rw [waits] at idle
            cases idle
          refine ⟨?_, ?_⟩
          · rw [pending, isInput, ClockSystem.requests, Function.update_of_ne notSender, waits]
          · simp only [exiting]
            exact notExiter
        · refine ⟨?_, ?_⟩
          · rw [pending, Function.update_of_ne notExiter, waits]
          · simp only [exited]
  | exited =>
      rcases ClockSystem.stepReplies_eq_some.mp done with ⟨-, server, handled, -⟩
      rw [ClockServer.stepReplies_exited phase] at handled
      cases handled

theorem Attends.strands_of_not_losesNone (attends : Attends transition.before blocked)
    (fresh : ¬transition.HandlesAgain)
    (taken : transition.before.step transition.input = some transition.after)
    (loses : ¬transition.LosesNone) :
    ∃ tid request, transition.after.Strands tid request ∧ request.msg.type ≠ .error := by
  have done := ClockSystemTransition.stepReplies_eq taken
  cases isInput : transition.input with
  | receiveFails => simp [ClockSystemTransition.LosesNone, isInput] at loses
  | receive sender msg =>
      cases phase : transition.before.server.phase with
      | serving =>
          simp only [ClockSystemTransition.LosesNone, isInput, phase, Classical.not_imp,
            attends.shown.blockedEntries_eq] at loses
          rcases loses with ⟨isExit, someWait⟩
          rcases attends.serving_cases phase fresh done with
            ⟨-, notExit⟩ | ⟨other, otherMsg, isInput', -, idle, exiting, pending⟩
          · exact absurd isExit (notExit sender msg isInput)
          · rcases List.exists_mem_of_ne_nil _ someWait with ⟨entry, entryMem⟩
            have notSender := attends.listing.tid_ne idle entryMem
            rcases attends.listing.accepted entry entryMem with ⟨request, requestMem, asks, -⟩
            refine ⟨entry.tid, request, ⟨?_, ?_⟩, ?_⟩
            · rw [pending, isInput', ClockSystem.requests, Function.update_of_ne notSender]
              exact requestMem
            · simp only [exiting]
              exact notSender
            · rcases isDelay_of_wakeTime asks with type | type <;> simp [type]
      | exiting exiterTid =>
          simp only [ClockSystemTransition.LosesNone, isInput, phase, not_or] at loses
          rcases attends.exiting_cases phase done with
            ⟨isFailure, -⟩ | ⟨other, otherMsg, isInput', -, notExiter, received⟩
          · rw [isInput] at isFailure
            cases isFailure
          · rcases ClockEvent.receive.inj (isInput'.symm.trans isInput) with ⟨rfl, rfl⟩
            rcases received with ⟨-, exiting, pending⟩ | ⟨isTick, -⟩
            · refine ⟨other, ⟨otherMsg, transition.before.server.ticks, transition.before.received⟩,
                ⟨?_, ?_⟩, loses.2⟩
              · rw [pending, isInput', ClockSystem.requests, Function.update_self]
              · simp only [exiting]
                exact notExiter
            · exact absurd isTick loses.1
      | exited => simp [ClockSystemTransition.LosesNone, isInput, phase] at loses

/-- What holds when nobody is left behind. -/
def ClockSystem.Waitless (system : ClockSystem) : Prop :=
  match system.server.phase with
  | .serving => True
  | .exiting exiterTid => ∀ tid, ∀ request ∈ system.pending tid,
      request.msg.type = .error ∨ tid = exiterTid
  | .exited => system.Settled

theorem Attends.waitless_step (attends : Attends transition.before blocked)
    (fresh : ¬transition.HandlesAgain)
    (taken : transition.before.step transition.input = some transition.after)
    (losesNone : transition.LosesNone) (waitless : transition.before.Waitless) :
    transition.after.Waitless := by
  have done := ClockSystemTransition.stepReplies_eq taken
  cases phase : transition.before.server.phase with
  | serving =>
      rcases attends.serving_cases phase fresh done with
        ⟨serving, -⟩ | ⟨sender, msg, isInput, isExit, -, exiting, pending⟩
      · simp only [ClockSystem.Waitless, serving]
      · simp only [ClockSystemTransition.LosesNone, isInput, phase,
          attends.shown.blockedEntries_eq] at losesNone
        have holding := attends.holding
        rw [ClockSystem.Holding, phase, losesNone isExit] at holding
        simp only [ClockSystem.Waitless, exiting]
        intro tid request requestMem
        rw [pending, isInput, ClockSystem.requests] at requestMem
        rcases eq_or_ne tid sender with rfl | tidNe
        · exact .inr rfl
        · rw [Function.update_of_ne tidNe] at requestMem
          rcases holding tid request requestMem with isError | isListed
          · exact .inl isError
          · simp at isListed
  | exiting exiterTid =>
      rw [ClockSystem.Waitless, phase] at waitless
      rcases attends.exiting_cases phase done with
        ⟨-, exiting, pending⟩ | ⟨sender, msg, isInput, -, -, received⟩
      · simp only [ClockSystem.Waitless, exiting]
        rw [pending]
        exact waitless
      · rcases received with ⟨notTick, exiting, pending⟩ | ⟨-, exited, pending⟩
        · simp only [ClockSystemTransition.LosesNone, isInput, phase] at losesNone
          simp only [ClockSystem.Waitless, exiting]
          intro tid request requestMem
          rw [pending, isInput, ClockSystem.requests] at requestMem
          rcases eq_or_ne tid sender with rfl | tidNe
          · rw [Function.update_self] at requestMem
            rcases Option.some.inj requestMem with rfl
            exact .inl (losesNone.resolve_left notTick)
          · rw [Function.update_of_ne tidNe] at requestMem
            exact waitless tid request requestMem
        · simp only [ClockSystem.Waitless, exited]
          intro tid request requestMem
          rw [pending] at requestMem
          rcases eq_or_ne tid exiterTid with rfl | tidNe
          · rw [Function.update_self] at requestMem
            cases requestMem
          · rw [Function.update_of_ne tidNe] at requestMem
            exact (waitless tid request requestMem).resolve_right tidNe
  | exited =>
      rcases ClockSystem.stepReplies_eq_some.mp done with ⟨-, server, handled, -⟩
      rw [ClockServer.stepReplies_exited phase] at handled
      cases handled

end Stranded

theorem AnsweredWith.ne_error {request : ClockRequest} {received : ℕ} {ticks : Word}
    {rep : ClockServerMsg} (answered : AnsweredWith request received ticks rep) :
    request.msg.type ≠ .error := by
  cases answered with
  | notified _ isTick => simp [isTick]
  | told isTime => simp [isTime]
  | refused isDelay => rcases isDelay with type | type <;> simp [type]
  | late asks | woken asks => rcases isDelay_of_wakeTime asks with type | type <;> simp [type]
  | dismissed _ isExit => simp [isExit]

section Runs

variable {start : ClockServerMsg} {lists : ClockLists} {first : ClockServer} {final : ClockSystem}
  {trace : List ClockSystemTransition}

/-- Nobody is left behind if and only if nobody waits at the end. -/
theorem leavesNoneBehind_iff (started : ClockServer.start start lists = some first)
    (run : Run ClockSystem.step (.start first) trace final)
    (fresh : ∀ transition ∈ trace, ¬ClockSystemTransition.HandlesAgain transition) :
    LeavesNoneBehind trace ↔ final.Settled := by
  have initially := attends_start started
  have steps : ∀ transition ∈ trace, AttendedStep transition.before transition.input
      transition.after (ClockSystemTransition.replies transition) :=
    fun _ transitionMem => initially.step_of_mem run fresh transitionMem
  have noOthers : ∀ transition ∈ trace, ∀ reply ∈ ClockSystemTransition.replies transition,
      (transition.before.requests transition.input reply.tid).isSome := by
    intro transition transitionMem reply replyMem
    rcases (steps transition transitionMem).answers reply replyMem with ⟨request, requestMem, -⟩
    exact Option.isSome_of_mem requestMem
  have conserved : ∀ tid, trace.flatMap (askedBy tid) =
      trace.flatMap (answeredTo tid) ++ (final.pending tid).toList := by
    intro tid
    have balanced := run.conserved (fun _ => True) (fun system => (system.pending tid).toList)
      (askedBy tid) (answeredTo tid) (fun _ _ _ _ => trivial)
      (fun transition taken distinct _ =>
        @ClockSystemTransition.balance transition taken distinct tid)
      (fun transition transitionMem => (steps transition transitionMem).distinct) trivial
    simpa only [ClockSystem.start, Option.toList_none, List.nil_append] using balanced
  have answered : ∀ tid, ∀ request ∈ trace.flatMap (answeredTo tid),
      request.msg.type ≠ .error := by
    intro tid request requestMem
    rcases List.mem_flatMap.mp requestMem with ⟨transition, transitionMem, inStep⟩
    rcases List.mem_flatMap.mp inStep with ⟨reply, replyMem, isRequest⟩
    rcases List.mem_filter.mp replyMem with ⟨sent, isTid⟩
    rcases (steps transition transitionMem).answers reply sent with ⟨other, otherMem, answer⟩
    rw [beq_iff_eq.mp isTid] at otherMem
    rcases Option.mem_unique otherMem (Option.mem_toList.mp isRequest) with rfl
    exact answer.ne_error
  have filtered : ∀ tid, (trace.flatMap (askedBy tid)).filter
        (fun request => request.msg.type ≠ .error) = trace.flatMap (answeredTo tid) ↔
      ∀ request ∈ final.pending tid, request.msg.type = .error := by
    intro tid
    have kept : (trace.flatMap (answeredTo tid)).filter
        (fun request => request.msg.type ≠ .error) = trace.flatMap (answeredTo tid) := by
      apply List.filter_eq_self.mpr
      intro request requestMem
      exact decide_eq_true (answered tid request requestMem)
    rw [conserved tid, List.filter_append, kept, List.append_right_eq_self, List.filter_eq_nil_iff]
    simp only [Option.mem_toList, decide_eq_true_eq, not_not, ne_eq]
    exact Iff.rfl
  constructor
  · exact fun none tid => (filtered tid).mp (none.1 tid)
  · exact fun settled => ⟨fun tid => (filtered tid).mpr (settled tid), noOthers⟩

/-- When the server exits, everybody has been answered once if and only if at EXIT no task was on
the blocked list and after it no other message was received before the tick. -/
theorem run_leavesNoneBehind_iff (started : ClockServer.start start lists = some first)
    (run : Run ClockSystem.step (.start first) trace final)
    (fresh : ∀ transition ∈ trace, ¬ClockSystemTransition.HandlesAgain transition)
    (exited : final.server.phase = .exited) :
    LeavesNoneBehind trace ↔ ∀ transition ∈ trace,
      ClockSystemTransition.LosesNone transition := by
  rw [leavesNoneBehind_iff started run fresh]
  have initially := attends_start started
  constructor
  · intro settled transition transitionMem
    by_contra loses
    rcases run.split_at transitionMem with ⟨front, back, rfl, before, after⟩
    have freshFront : ∀ earlier ∈ front, ¬ClockSystemTransition.HandlesAgain earlier :=
      fun earlier earlierMem => fresh earlier (List.mem_append_left _ earlierMem)
    have freshBack : ∀ later ∈ back, ¬ClockSystemTransition.HandlesAgain later :=
      fun later laterMem =>
        fresh later (List.mem_append_right _ (List.mem_cons_of_mem _ laterMem))
    have taken := run.step_of_mem transitionMem
    have notAgain := fresh transition transitionMem
    rcases initially.run before freshFront with ⟨blocked, attends⟩
    rcases attends.strands_of_not_losesNone notAgain taken loses with
      ⟨tid, request, strands, notError⟩
    let invariant : ClockSystem → Prop :=
      fun system => (∃ blocked, Attends system blocked) ∧ system.Strands tid request
    have preserved : ∀ transition : ClockSystemTransition,
        transition.before.step transition.input = some transition.after →
        ¬transition.HandlesAgain → invariant transition.before → invariant transition.after := by
      rintro transition taken fresh ⟨⟨blocked, attends⟩, strands⟩
      exact ⟨(attends.step fresh taken).attends, attends.strands_step strands taken⟩
    have initially' : invariant transition.after := ⟨(attends.step notAgain taken).attends, strands⟩
    have atEnd : invariant final := after.invariant preserved freshBack initially'
    exact notError (settled tid request atEnd.2.1)
  · intro losesNone
    let invariant : ClockSystem → Prop :=
      fun system => (∃ blocked, Attends system blocked) ∧ system.Waitless
    have preserved : ∀ transition : ClockSystemTransition,
        transition.before.step transition.input = some transition.after →
        ¬transition.HandlesAgain ∧ transition.LosesNone →
        invariant transition.before → invariant transition.after := by
      rintro transition taken ⟨fresh, losesNone⟩ ⟨⟨blocked, attends⟩, waitless⟩
      exact ⟨(attends.step fresh taken).attends,
        attends.waitless_step fresh taken losesNone waitless⟩
    have waitless : ClockSystem.Waitless (.start first) := by
      simp only [ClockSystem.Waitless, ClockSystem.start, (ClockServer.start_shows started).2.2]
    have initially' : invariant (.start first) := ⟨⟨[], initially⟩, waitless⟩
    have atEnd : invariant final := run.invariant preserved
      (fun transition transitionMem =>
        ⟨fresh transition transitionMem, losesNone transition transitionMem⟩) initially'
    have settled := atEnd.2
    rwa [ClockSystem.Waitless, exited] at settled

/-- After EXIT from task 4, task 3 asks for the time before the tick comes. -/
def exitThenTime : List ClockEvent :=
  [.receive 4 ⟨.exit, 0⟩, .receive 3 ⟨.time, 0⟩, .receive 5 ⟨.tick, 0⟩]

theorem run_exitThenTime : ∃ first final, ∃ trace : List ClockSystemTransition,
    ClockServer.start ⟨.error, 0⟩ blankLists = some first ∧
      Run ClockSystem.step (.start first) trace final ∧
      trace.map (·.input) = exitThenTime ∧
      (∀ transition ∈ trace, ¬ClockSystemTransition.HandlesAgain transition) ∧
      final.server.phase = .exited ∧ ¬final.Settled := by
  have runs : (record ClockSystem.step (.start blankServer) exitThenTime).isSome := by
    decide +kernel
  refine ⟨blankServer, _, traceOf ClockSystem.step (.start blankServer) exitThenTime,
    blankServer_started, Run.of_isSome runs, by decide +kernel, by decide +kernel,
    by decide +kernel, ?_⟩
  intro settled
  have isError := settled 3 ⟨⟨.time, 0⟩, 0, 1⟩ (by decide +kernel)
  cases isError

/-- Somebody may be left behind. -/
theorem exit_leavesBehind : ¬∀ (start : ClockServerMsg) (lists : ClockLists)
    (first : ClockServer) (final : ClockSystem) (trace : List ClockSystemTransition),
    ClockServer.start start lists = some first →
      Run ClockSystem.step (.start first) trace final →
      (∀ transition ∈ trace, ¬ClockSystemTransition.HandlesAgain transition) →
      final.server.phase = .exited → LeavesNoneBehind trace := by
  intro claimed
  rcases run_exitThenTime with ⟨first, final, trace, started, run, -, fresh, exited, notSettled⟩
  have leavesNone := claimed _ _ _ _ _ started run fresh exited
  exact notSettled ((leavesNoneBehind_iff started run fresh).mp leavesNone)

theorem run_leavesNoneBehind_iff_exitThenTime : ∃ first final,
    ∃ trace : List ClockSystemTransition,
      ClockServer.start ⟨.error, 0⟩ blankLists = some first ∧
        Run ClockSystem.step (.start first) trace final ∧
        (LeavesNoneBehind trace ↔ ∀ transition ∈ trace,
          ClockSystemTransition.LosesNone transition) := by
  rcases run_exitThenTime with ⟨first, final, trace, started, run, -, fresh, exited, -⟩
  exact ⟨first, final, trace, started, run, run_leavesNoneBehind_iff started run fresh exited⟩

end Runs

end ArmKernel
