import ArmKernel.ClockServer.Clients

/-!
# When the clock server fails to receive

After an error of `Receive` the server goes on with the message and the sender of the iteration
before. This has no effect only if that message is of a type that is not handled. As long as it
has none, the server counts each tick once, and no client is put on the blocked list twice or
answered twice.
-/

namespace ArmKernel

open PartialMachine

/-- The step leaves the tick count, the lists and the loop in which the server is as they are, and
sends no reply. -/
def ClockSystemTransition.Inert (transition : ClockSystemTransition) : Prop :=
  transition.after.server.ticks = transition.before.server.ticks ∧
    transition.after.server.lists = transition.before.server.lists ∧
    transition.after.server.phase = transition.before.server.phase ∧
    transition.replies = []

/-- Holds in every run, whatever happens. -/
structure ClockServer.Regular (server : ClockServer) : Prop where
  shown : ∃ blocked, server.lists.Shows blocked
  drained : ∀ exiterTid, server.phase = .exiting exiterTid → server.msg.type ≠ .tick

section Steps

variable {server after : ClockServer} {blocked blocked' : List ClockEntry}
  {replies : List ClockReply} {event : ClockEvent}

theorem Settles.regular (settles : Settles server blocked after replies blocked')
    (serving : server.phase = .serving) (shown : after.lists.Shows blocked') :
    after.Regular := by
  refine ⟨⟨blocked', shown⟩, ?_⟩
  intro exiterTid exiting
  cases settles with
  | exits isExit same =>
      subst same
      simp [isExit]
  | ignores _ same => simp [same, serving] at exiting
  | idle _ _ _ phase | wakes _ _ _ _ phase | tells _ _ phase | refuses _ _ _ phase
  | late _ _ _ _ phase | waits _ _ _ _ phase => simp [phase, serving] at exiting

theorem ClockServer.Regular.stepReplies (regular : server.Regular)
    (done : server.stepReplies event = some (after, replies)) : after.Regular := by
  rcases regular with ⟨⟨blocked, shown⟩, drained⟩
  have shown' : (server.load event).lists.Shows blocked := by rwa [load_lists]
  have samePhase : (server.load event).phase = server.phase := load_phase
  cases phase : server.phase with
  | serving =>
      rw [stepReplies_serving phase] at done
      rcases handle_settles shown' done with ⟨blocked', shown'', settles⟩
      exact settles.regular (samePhase.trans phase) shown''
  | exiting exiterTid =>
      rw [stepReplies_exiting phase, drain] at done
      split_ifs at done with notTick
      · rcases Prod.mk.inj (Option.some.inj done) with ⟨rfl, -⟩
        exact ⟨⟨blocked, shown'⟩, fun _ _ => notTick⟩
      · rcases Prod.mk.inj (Option.some.inj done) with ⟨rfl, -⟩
        refine ⟨⟨blocked, shown'⟩, ?_⟩
        intro _ stillExiting
        cases stillExiting
  | exited =>
      rw [stepReplies_exited phase] at done
      cases done

/-- The message that is handled again has no effect exactly if its type is not handled. -/
theorem Settles.inert_iff (settles : Settles server blocked after replies blocked')
    (serving : server.phase = .serving) (shown : server.lists.Shows blocked)
    (shown' : after.lists.Shows blocked') :
    after.ticks = server.ticks ∧ after.lists = server.lists ∧ after.phase = server.phase ∧
      replies = [] ↔ server.msg.type = .error := by
  cases settles with
  | idle isTick => simp [isTick]
  | wakes isTick => simp [isTick]
  | tells isTime => simp [isTime]
  | refuses isDelay => rcases isDelay with type | type <;> simp [type]
  | late asks => rcases isDelay_of_wakeTime asks with type | type <;> simp [type]
  | waits asks =>
      have grows : after.lists ≠ server.lists := by
        intro sameLists
        have entries := shown.blockedEntries_eq
        have entries' := shown'.blockedEntries_eq
        rw [ClockServer.blockedEntries, sameLists] at entries'
        rw [ClockServer.blockedEntries, entries'] at entries
        have lengths := congrArg List.length entries
        rw [List.orderedInsert_length] at lengths
        omega
      rcases isDelay_of_wakeTime asks with type | type <;> simp [type, grows]
  | exits isExit same => simp [isExit, same, serving]
  | ignores isError same => simp [isError, same]

/-- A step in which `Receive` fails. -/
theorem ClockServer.Regular.inert_iff (regular : server.Regular)
    (done : server.stepReplies .receiveFails = some (after, replies)) :
    after.ticks = server.ticks ∧ after.lists = server.lists ∧ after.phase = server.phase ∧
      replies = [] ↔ (server.phase = .serving → server.msg.type = .error) := by
  rcases regular with ⟨⟨blocked, shown⟩, drained⟩
  cases phase : server.phase with
  | serving =>
      rw [stepReplies_serving phase] at done
      rcases handle_settles shown done with ⟨blocked', shown', settles⟩
      have inert := settles.inert_iff phase shown shown'
      rw [phase] at inert
      exact inert.trans ⟨fun unhandled _ => unhandled, fun unhandled => unhandled rfl⟩
  | exiting exiterTid =>
      have notTick : (server.load .receiveFails).msg.type ≠ .tick := drained exiterTid phase
      rw [stepReplies_exiting phase, drain, if_pos notTick] at done
      rcases Prod.mk.inj (Option.some.inj done) with ⟨rfl, rfl⟩
      refine ⟨?_, fun _ => ⟨rfl, rfl, phase, rfl⟩⟩
      intro _ serving
      cases serving
  | exited =>
      rw [stepReplies_exited phase] at done
      cases done

end Steps

section Runs

variable {start : ClockServerMsg} {lists : ClockLists} {first : ClockServer} {final : ClockSystem}
  {trace : List ClockSystemTransition}

theorem ClockSystemTransition.server_stepReplies {transition : ClockSystemTransition}
    (taken : transition.before.step transition.input = some transition.after) :
    transition.before.server.stepReplies transition.input =
      some (transition.after.server, ClockSystemTransition.replies transition) := by
  rcases ClockSystem.stepReplies_eq_some.mp (stepReplies_eq taken) with ⟨-, server, handled, same⟩
  rw [handled, same]

theorem run_inert_iff (started : ClockServer.start start lists = some first)
    (run : Run ClockSystem.step (.start first) trace final) :
    ∀ transition ∈ trace, transition.input = .receiveFails →
      (ClockSystemTransition.Inert transition ↔
        ¬ClockSystemTransition.HandlesAgain transition) := by
  let invariant : ClockSystem → Prop := fun system => system.server.Regular
  have initially : invariant (.start first) := by
    rcases ClockServer.start_shows started with ⟨shown, -, serving⟩
    refine ⟨⟨[], shown⟩, ?_⟩
    simp [ClockSystem.start, serving]
  have preserved : ∀ transition : ClockSystemTransition,
      transition.before.step transition.input = some transition.after →
      True → invariant transition.before → invariant transition.after :=
    fun _ taken _ regular => regular.stepReplies (ClockSystemTransition.server_stepReplies taken)
  intro transition transitionMem fails
  have regular := run.invariant_before invariant preserved (fun _ _ => trivial) initially
    transitionMem
  have done := ClockSystemTransition.server_stepReplies (run.step_of_mem transitionMem)
  rw [fails] at done
  rw [ClockSystemTransition.HandlesAgain, not_and, not_and]
  apply (regular.inert_iff done).trans
  exact ⟨fun unhandled _ serving => not_not.mpr (unhandled serving),
    fun unhandled serving => not_not.mp (unhandled fails serving)⟩

/--
A failed `Receive` has no effect, each tick is counted once, no task is on the blocked list twice
and every reply answers a request that was not answered yet, if and only if no failed `Receive`
finds a message in `msg` that is handled again.
-/
theorem run_failedReceive_iff (started : ClockServer.start start lists = some first)
    (run : Run ClockSystem.step (.start first) trace final) :
    (∀ transition ∈ trace, transition.input = .receiveFails →
        ClockSystemTransition.Inert transition) ∧
      final.server.ticks = BitVec.ofNat 32 (ticksCounted trace) ∧
      (final.server.blockedEntries.map (·.tid)).Nodup ∧
      (∀ transition ∈ trace,
        (∀ reply ∈ ClockSystemTransition.replies transition,
          (transition.before.requests transition.input reply.tid).isSome) ∧
        ((ClockSystemTransition.replies transition).map (·.tid)).Nodup) ↔
    ∀ transition ∈ trace, ¬ClockSystemTransition.HandlesAgain transition := by
  have inert := run_inert_iff started run
  constructor
  · rintro ⟨allInert, -⟩ transition transitionMem again
    exact (inert transition transitionMem again.1).mp
      (allInert transition transitionMem again.1) again
  · intro fresh
    have initially := attends_start started
    rcases initially.run run fresh with ⟨blocked, attends⟩
    refine ⟨?_, run_ticks started run fresh, ?_, ?_⟩
    · intro transition transitionMem fails
      exact (inert transition transitionMem fails).mpr (fresh transition transitionMem)
    · rw [attends.shown.blockedEntries_eq]
      exact attends.listing.once
    · intro transition transitionMem
      have step := initially.step_of_mem run fresh transitionMem
      refine ⟨?_, step.distinct⟩
      intro reply replyMem
      rcases step.answers reply replyMem with ⟨request, requestMem, -⟩
      exact Option.isSome_of_mem requestMem

/-- After a delay that was refused a `Receive` fails, and after a tick. -/
def failsAfterRefusal : List ClockEvent :=
  [.receive 5 ⟨.tick, 0⟩, .receive 3 ⟨.delay, 0⟩, .receiveFails, .receive 5 ⟨.tick, 0⟩]

theorem run_failedReceive_iff_refusal :
    (∀ transition ∈ traceOf ClockSystem.step (.start blankServer) failsAfterRefusal,
      transition.input = .receiveFails → ClockSystemTransition.Inert transition) ∧
    (finalOf ClockSystem.step (.start blankServer) failsAfterRefusal).server.ticks = 2 := by
  have runs : (record ClockSystem.step (.start blankServer) failsAfterRefusal).isSome := by
    decide +kernel
  rcases (run_failedReceive_iff blankServer_started (.of_isSome runs)).mpr (by decide +kernel) with
    ⟨inert, ticks, -⟩
  exact ⟨inert, ticks.trans (by decide +kernel)⟩

/-- After a tick, a `Receive` that fails counts it again. -/
theorem failedReceive_not_inert : ¬∀ (start : ClockServerMsg) (lists : ClockLists)
    (first : ClockServer) (final : ClockSystem) (trace : List ClockSystemTransition),
    ClockServer.start start lists = some first →
      Run ClockSystem.step (.start first) trace final →
      ∀ transition ∈ trace, transition.input = .receiveFails →
        ClockSystemTransition.Inert transition := by
  intro claimed
  have runs : (record ClockSystem.step (.start blankServer)
    [.receive 5 ⟨.tick, 0⟩, .receiveFails]).isSome := by decide +kernel
  have inert := claimed _ _ _ _ _ blankServer_started (.of_isSome runs) _
    (List.getLast_mem (by decide +kernel)) (by decide +kernel)
  exact absurd inert.1 (by decide +kernel)

end Runs

end ArmKernel
