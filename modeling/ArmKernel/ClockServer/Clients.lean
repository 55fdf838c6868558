import ArmKernel.ClockServer.Bookkeeping

/-!
# The clock server with arbitrary clients

The clients may send any messages, also EXIT and messages of types that the server does not
know. Only one thing is excluded: that `Receive` fails and the server handles the message that
is left in `msg` again. Then the tasks on the blocked list wait for the answers to delays that
the server has accepted, and every reply answers a request of its task.
-/

namespace ArmKernel

open PartialMachine

/-- `Receive` fails, and the server handles the message that is left in `msg` again. Messages of
a type that it does not know have no effect. -/
def ClockSystemTransition.HandlesAgain (transition : ClockSystemTransition) : Prop :=
  transition.input = .receiveFails ∧ transition.before.server.phase = .serving ∧
    transition.before.server.msg.type ≠ .error

instance (transition : ClockSystemTransition) : Decidable transition.HandlesAgain :=
  inferInstanceAs (Decidable (_ ∧ _ ∧ _))

/-- A TICK message is received in the main loop. -/
def ClockSystem.counts (system : ClockSystem) : ClockEvent → Bool
  | .receive _ msg => system.server.phase = .serving ∧ msg.type = .tick
  | .receiveFails => false

/-- The number of TICK messages that the server has received in its main loop. -/
def ticksCounted (trace : List ClockSystemTransition) : ℕ :=
  trace.countP fun transition => transition.before.counts transition.input

theorem ticksCounted_cons {transition : ClockSystemTransition}
    {trace : List ClockSystemTransition} :
    ticksCounted (transition :: trace) =
      ticksCounted trace + if transition.before.counts transition.input then 1 else 0 :=
  List.countP_cons

/-- `AnsweredWith request received ticks msg`: the server, after `received` messages and with the
given tick count after the step, answers the request with `msg`. -/
inductive AnsweredWith (request : ClockRequest) (received : ℕ) (ticks : Word) :
    ClockServerMsg → Prop where
  | notified (msg : ClockServerMsg) (isTick : request.msg.type = .tick) :
      AnsweredWith request received ticks msg
  | told (isTime : request.msg.type = .time) : AnsweredWith request received ticks ⟨.time, ticks⟩
  | refused (isDelay : request.msg.type = .delay ∨ request.msg.type = .delayUntil)
      (isRefused : ∀ time ∈ wakeTime request.msg request.since, time.toInt ≤ 0)
      (atOnce : request.arrival = received) : AnsweredWith request received ticks ⟨.error, 0⟩
  | late {time : Word} (asks : wakeTime request.msg request.since = some time)
      (positive : 0 < time.toInt) (isLate : time < request.since)
      (atOnce : request.arrival = received) : AnsweredWith request received ticks ⟨.tick, ticks⟩
  | woken {time : Word} (asks : wakeTime request.msg request.since = some time)
      (positive : 0 < time.toInt) (notLate : ¬time < request.since) (due : time < ticks) :
      AnsweredWith request received ticks ⟨.tick, ticks⟩
  | dismissed (msg : ClockServerMsg) (isExit : request.msg.type = .exit) :
      AnsweredWith request received ticks msg

/-- The tasks on the list wait, once each, for the answers to delays that were accepted. -/
structure Listing (pending : Tid → Option ClockRequest) (received : ℕ)
    (blocked : List ClockEntry) : Prop where
  accepted : ∀ entry ∈ blocked, ∃ request ∈ pending entry.tid,
    wakeTime request.msg request.since = some entry.ticks ∧ 0 < entry.ticks.toInt ∧
      ¬entry.ticks < request.since
  once : (blocked.map (·.tid)).Nodup
  arrived : ∀ tid, ∀ request ∈ pending tid, request.arrival < received

section Listing

variable {pending : Tid → Option ClockRequest} {received count : ℕ} {blocked rest : List ClockEntry}
  {front : ClockEntry} {sender : Tid}

theorem Listing.tid_ne (listing : Listing pending received blocked)
    (idle : pending sender = none) {entry : ClockEntry} (entryMem : entry ∈ blocked) :
    entry.tid ≠ sender := by
  rintro rfl
  rcases listing.accepted entry entryMem with ⟨request, requestMem, -⟩
  rw [Option.mem_def, idle] at requestMem
  cases requestMem

theorem Listing.isDelay (listing : Listing pending received blocked) {entry : ClockEntry}
    (entryMem : entry ∈ blocked) {request : ClockRequest}
    (requestMem : request ∈ pending entry.tid) :
    request.msg.type = .delay ∨ request.msg.type = .delayUntil := by
  rcases listing.accepted entry entryMem with ⟨other, otherMem, asks, -⟩
  rcases Option.mem_unique requestMem otherMem with rfl
  exact isDelay_of_wakeTime asks

theorem Listing.later (listing : Listing pending received blocked) (later : received ≤ count) :
    Listing pending count blocked :=
  { listing with
    arrived := fun tid request requestMem =>
      (listing.arrived tid request requestMem).trans_le later }

/-- What becomes of the request of a task that is not on the list does not matter. -/
theorem Listing.update (listing : Listing pending received blocked)
    (notListed : ∀ entry ∈ blocked, entry.tid ≠ sender) (later : received ≤ count)
    {request? : Option ClockRequest} (arrived : ∀ request ∈ request?, request.arrival < count) :
    Listing (Function.update pending sender request?) count blocked := by
  refine ⟨?_, listing.once, ?_⟩
  · intro entry entryMem
    rw [Function.update_of_ne (notListed entry entryMem)]
    exact listing.accepted entry entryMem
  · intro tid request requestMem
    rcases eq_or_ne tid sender with rfl | tidNe
    · rw [Function.update_self] at requestMem
      exact arrived request requestMem
    · rw [Function.update_of_ne tidNe] at requestMem
      exact (listing.arrived tid request requestMem).trans_le later

theorem Listing.tail (listing : Listing pending received (front :: rest))
    (later : received ≤ count) :
    Listing (Function.update pending front.tid none) count rest := by
  rcases List.nodup_cons.mp listing.once with ⟨frontOnce, restOnce⟩
  have others : Listing pending received rest :=
    ⟨fun entry entryMem => listing.accepted entry (List.mem_cons_of_mem front entryMem), restOnce,
      listing.arrived⟩
  apply others.update _ later (fun _ noRequest => absurd noRequest (Option.not_mem_none _))
  intro entry entryMem sameTid
  exact frontOnce (List.mem_map.mpr ⟨entry, entryMem, sameTid⟩)

theorem Listing.insert (listing : Listing pending received blocked) (idle : pending sender = none)
    {request : ClockRequest} {time : Word} (arrival : request.arrival = received)
    (asks : wakeTime request.msg request.since = some time) (positive : 0 < time.toInt)
    (notLate : ¬time < request.since) :
    Listing (Function.update pending sender (some request)) (received + 1)
      (blocked.orderedInsert Earlier ⟨time, sender⟩) := by
  have notListed : ∀ entry ∈ blocked, entry.tid ≠ sender :=
    fun entry entryMem => listing.tid_ne idle entryMem
  have others : Listing (Function.update pending sender (some request)) (received + 1) blocked := by
    apply listing.update notListed (Nat.le_succ _)
    intro other otherMem
    rcases Option.some.inj otherMem with rfl
    omega
  have perm := List.perm_orderedInsert Earlier (⟨time, sender⟩ : ClockEntry) blocked
  refine ⟨?_, ?_, others.arrived⟩
  · intro entry entryMem
    rcases (List.mem_orderedInsert _).mp entryMem with rfl | oldMem
    · exact ⟨request, Function.update_self _ _ _, asks, positive, notLate⟩
    · exact others.accepted entry oldMem
  · have tids : ((blocked.orderedInsert Earlier ⟨time, sender⟩).map (·.tid)).Perm
        (sender :: blocked.map (·.tid)) := perm.map _
    apply tids.nodup_iff.mpr
    apply List.nodup_cons.mpr
    refine ⟨?_, listing.once⟩
    intro senderMem
    rcases List.mem_map.mp senderMem with ⟨entry, entryMem, sameTid⟩
    exact notListed entry entryMem sameTid

end Listing

/-- All tasks that wait are on the list, except for those that sent a message of an unknown type. -/
def AllListed (pending : Tid → Option ClockRequest) (blocked : List ClockEntry) : Prop :=
  ∀ tid, ∀ request ∈ pending tid, request.msg.type = .error ∨ tid ∈ blocked.map (·.tid)

section AllListed

variable {pending : Tid → Option ClockRequest} {blocked rest : List ClockEntry}
  {front entry : ClockEntry} {request : ClockRequest} {sender : Tid}

theorem AllListed.tail (allListed : AllListed pending (front :: rest)) :
    AllListed (Function.update pending front.tid none) rest := by
  intro tid request requestMem
  rcases eq_or_ne tid front.tid with rfl | tidNe
  · simp only [Function.update_self, Option.not_mem_none] at requestMem
  · rw [Function.update_of_ne tidNe] at requestMem
    rcases allListed tid request requestMem with isError | isListed
    · exact .inl isError
    · exact .inr ((List.mem_cons.mp isListed).resolve_left tidNe)

theorem AllListed.insert (allListed : AllListed pending blocked) (isSender : entry.tid = sender) :
    AllListed (Function.update pending sender (some request))
      (blocked.orderedInsert Earlier entry) := by
  intro tid other otherMem
  rcases eq_or_ne tid sender with rfl | tidNe
  · right
    apply List.mem_map.mpr
    exact ⟨entry, (List.mem_orderedInsert _).mpr (.inl rfl), isSender⟩
  · rw [Function.update_of_ne tidNe] at otherMem
    rcases allListed tid other otherMem with isError | isListed
    · exact .inl isError
    · right
      rcases List.mem_map.mp isListed with ⟨old, oldMem, isTid⟩
      exact List.mem_map.mpr ⟨old, (List.mem_orderedInsert _).mpr (.inr oldMem), isTid⟩

theorem AllListed.unknown (allListed : AllListed pending blocked)
    (isError : request.msg.type = .error) :
    AllListed (Function.update pending sender (some request)) blocked := by
  intro tid other otherMem
  rcases eq_or_ne tid sender with rfl | tidNe
  · rw [Function.update_self] at otherMem
    rcases Option.some.inj otherMem with rfl
    exact .inl isError
  · rw [Function.update_of_ne tidNe] at otherMem
    exact allListed tid other otherMem

end AllListed

/-- In the main loop all tasks that wait are on the list. After it the task that sent EXIT waits. -/
def ClockSystem.Holding (system : ClockSystem) (blocked : List ClockEntry) : Prop :=
  match system.server.phase with
  | .serving => AllListed system.pending blocked
  | .exiting exiterTid => system.server.msg.type ≠ .tick ∧
      ∃ request ∈ system.pending exiterTid, request.msg.type = .exit
  | .exited => True

/-- What holds in every state. -/
structure Attends (system : ClockSystem) (blocked : List ClockEntry) : Prop where
  shown : system.server.lists.Shows blocked
  listing : Listing system.pending system.received blocked
  holding : system.Holding blocked

/-- Only ticks are counted. -/
theorem Settles.ticks_eq {server after : ClockServer} {replies : List ClockReply}
    {blocked blocked' : List ClockEntry} (settles : Settles server blocked after replies blocked') :
    after.ticks = server.ticks + if server.msg.type = .tick then 1 else 0 := by
  cases settles with
  | idle isTick _ ticks | wakes isTick _ _ ticks => rw [ticks, if_pos isTick]
  | tells isTime ticks => simp [ticks, isTime]
  | refuses isDelay _ ticks => simp [ticks, ne_tick_of_isDelay isDelay]
  | late asks _ _ ticks | waits asks _ _ ticks =>
      simp [ticks, ne_tick_of_isDelay (isDelay_of_wakeTime asks)]
  | exits isExit same => simp [same, isExit]
  | ignores isError same => simp [same, isError]

section Steps

variable {system after : ClockSystem} {server : ClockServer} {blocked blocked' : List ClockEntry}
  {event : ClockEvent} {replies : List ClockReply} {sender exiterTid : Tid} {msg : ClockServerMsg}

/-- What a step is to show: it keeps the invariant, and its replies answer different requests. -/
structure AttendedStep (system : ClockSystem) (event : ClockEvent) (after : ClockSystem)
    (replies : List ClockReply) : Prop where
  attends : ∃ blocked, Attends after blocked
  answers : ∀ reply ∈ replies, ∃ request ∈ system.requests event reply.tid,
    AnsweredWith request system.received after.server.ticks reply.msg
  distinct : (replies.map (·.tid)).Nodup
  ticks : after.server.ticks = system.server.ticks + if system.counts event then 1 else 0

/-- With the answer to the message that it has sent, a task is where it was. -/
theorem ClockSystem.settled (idle : system.pending sender = none) :
    Function.update (system.requests (.receive sender msg)) sender none = system.pending := by
  rw [ClockSystem.requests, Function.update_idem]
  exact Function.update_eq_self_iff.mpr idle.symm

theorem Attends.arrives (attends : Attends system blocked) (idle : system.pending sender = none) :
    Listing (system.requests (.receive sender msg)) (system.received + 1) blocked := by
  apply attends.listing.update (fun _ => attends.listing.tid_ne idle) (Nat.le_succ _)
  intro request requestMem
  rcases Option.some.inj requestMem with rfl
  exact Nat.lt_succ_self _

theorem ClockSystem.holding_of_serving {pending : Tid → Option ClockRequest} {received : ℕ}
    (phase : server.phase = .serving) (allListed : AllListed pending blocked) :
    ClockSystem.Holding ⟨server, pending, received⟩ blocked := by
  rwa [ClockSystem.Holding, phase]

theorem Attends.atOnce (attends : Attends system blocked)
    (serving : system.server.phase = .serving) (idle : system.pending sender = none)
    (shown : server.lists.Shows blocked) (phase : server.phase = .serving)
    (counted : server.ticks = system.server.ticks +
      if system.counts (.receive sender msg) then 1 else 0) {rep : ClockServerMsg}
    (answered : AnsweredWith ⟨msg, system.server.ticks, system.received⟩ system.received
      server.ticks rep) :
    AttendedStep system (.receive sender msg)
      ⟨server, Function.update (system.requests (.receive sender msg)) sender none,
        system.received + 1⟩ [⟨sender, rep⟩] := by
  have allListed : AllListed system.pending blocked := by
    have holding := attends.holding
    rwa [ClockSystem.Holding, serving] at holding
  refine ⟨⟨blocked, shown, ?_, ?_⟩, ?_, List.nodup_singleton _, counted⟩
  · rw [ClockSystem.settled idle]
    exact attends.listing.later (Nat.le_succ _)
  · apply ClockSystem.holding_of_serving phase
    rwa [ClockSystem.settled idle]
  · intro other otherMem
    rcases List.mem_singleton.mp otherMem with rfl
    exact ⟨_, Function.update_self _ _ _, answered⟩

theorem Attends.settles (attends : Attends system blocked)
    (serving : system.server.phase = .serving) (idle : system.pending sender = none)
    (shown : server.lists.Shows blocked')
    (settles : Settles (system.server.load (.receive sender msg)) blocked server replies blocked') :
    AttendedStep system (.receive sender msg)
      ⟨server, replies.foldl ClockSystem.deliver (system.requests (.receive sender msg)),
        system.received + 1⟩ replies := by
  let request : ClockRequest := ⟨msg, system.server.ticks, system.received⟩
  have ofSender : system.requests (.receive sender msg) sender = some request :=
    Function.update_self _ _ _
  have allListed : AllListed system.pending blocked := by
    have holding := attends.holding
    rwa [ClockSystem.Holding, serving] at holding
  have samePhase : ∀ {phase}, phase = (system.server.load (.receive sender msg)).phase →
      phase = .serving := fun same => same.trans serving
  have arrives : Listing (system.requests (.receive sender msg)) (system.received + 1) blocked :=
    attends.arrives idle
  have same : Function.update (system.requests (.receive sender msg)) sender none =
      system.pending := ClockSystem.settled idle
  have counted : server.ticks = system.server.ticks +
      if system.counts (.receive sender msg) then 1 else 0 := by
    simp only [ClockSystem.counts, serving, true_and, decide_eq_true_eq]
    exact settles.ticks_eq
  cases settles with
  | idle isTick early ticks phase =>
      exact attends.atOnce serving idle shown (samePhase phase) counted (.notified _ isTick)
  | tells isTime ticks phase =>
      apply attends.atOnce serving idle shown (samePhase phase) counted
      rw [ticks]
      exact .told isTime
  | refuses isDelay refused ticks phase =>
      apply attends.atOnce serving idle shown (samePhase phase) counted
      exact .refused isDelay refused rfl
  | late asks positive isLate ticks phase =>
      apply attends.atOnce serving idle shown (samePhase phase) counted
      rw [ticks]
      exact .late asks positive isLate rfl
  | @wakes front _ isTick shape due ticks phase =>
      subst shape
      have frontNe : front.tid ≠ sender := attends.listing.tid_ne idle List.mem_cons_self
      refine ⟨⟨blocked', shown, ?_, ?_⟩, ?_, ?_, counted⟩
      · change Listing (Function.update (Function.update _ sender none) front.tid none) _ _
        rw [same]
        exact attends.listing.tail (Nat.le_succ _)
      · apply ClockSystem.holding_of_serving (samePhase phase)
        change AllListed (Function.update (Function.update _ sender none) front.tid none) _
        rw [same]
        exact allListed.tail
      · intro reply replyMem
        rcases List.mem_cons.mp replyMem with rfl | isSecond
        · exact ⟨request, ofSender, .notified _ isTick⟩
        · rcases List.mem_singleton.mp isSecond with rfl
          rcases attends.listing.accepted front List.mem_cons_self with
            ⟨waited, waitedMem, asks, positive, notLate⟩
          refine ⟨waited, (Function.update_of_ne frontNe _ _).trans waitedMem, ?_⟩
          simp only [ticks]
          exact .woken asks positive notLate due
      · apply List.nodup_cons.mpr
        refine ⟨?_, List.nodup_singleton _⟩
        exact fun senderMem => frontNe (List.mem_singleton.mp senderMem).symm
  | @waits time asks positive notLate ticks phase =>
      refine ⟨⟨_, shown, ?_, ?_⟩, List.forall_mem_nil _, List.nodup_nil, counted⟩
      · exact attends.listing.insert idle rfl asks positive notLate
      · exact ClockSystem.holding_of_serving (samePhase phase) (allListed.insert rfl)
  | exits isExit same =>
      subst same
      refine ⟨⟨blocked, shown, arrives, ?_⟩, List.forall_mem_nil _, List.nodup_nil, counted⟩
      have notTick : msg.type ≠ .tick := by
        rw [show msg.type = .exit from isExit]
        decide
      exact ⟨notTick, request, ofSender, isExit⟩
  | ignores isError same =>
      subst same
      refine ⟨⟨blocked, shown, arrives, ?_⟩, List.forall_mem_nil _, List.nodup_nil, counted⟩
      exact ClockSystem.holding_of_serving serving (allListed.unknown isError)

/-- A message that is received while the server waits for its notifier. -/
theorem Attends.drains (attends : Attends system blocked)
    (exiting : system.server.phase = .exiting exiterTid) (idle : system.pending sender = none)
    (drained : (system.server.load (.receive sender msg)).drain exiterTid = (server, replies)) :
    AttendedStep system (.receive sender msg)
      ⟨server, replies.foldl ClockSystem.deliver (system.requests (.receive sender msg)),
        system.received + 1⟩ replies := by
  have holding := attends.holding
  rw [ClockSystem.Holding, exiting] at holding
  rcases holding with ⟨-, waited, waitedMem, isExit⟩
  have exiterNe : exiterTid ≠ sender := by
    rintro rfl
    rw [Option.mem_def, idle] at waitedMem
    cases waitedMem
  have pendingExiter : system.requests (.receive sender msg) exiterTid = some waited :=
    (Function.update_of_ne exiterNe _ _).trans waitedMem
  have same : Function.update (system.requests (.receive sender msg)) sender none =
      system.pending := ClockSystem.settled idle
  have notCounted : system.server.ticks =
      system.server.ticks + if system.counts (.receive sender msg) then 1 else 0 := by
    simp [ClockSystem.counts, exiting]
  simp only [ClockServer.drain] at drained
  split_ifs at drained with notTick
  · rcases Prod.mk.inj drained with ⟨rfl, rfl⟩
    refine ⟨⟨blocked, attends.shown, attends.arrives idle, ?_⟩, List.forall_mem_nil _,
      List.nodup_nil, notCounted⟩
    simp only [ClockSystem.Holding, ClockServer.load, exiting]
    exact ⟨notTick, waited, pendingExiter, isExit⟩
  · rcases Prod.mk.inj drained with ⟨rfl, rfl⟩
    have isTick : msg.type = .tick := not_not.mp notTick
    refine ⟨⟨blocked, attends.shown, ?_, trivial⟩, ?_, ?_, notCounted⟩
    · change Listing (Function.update (Function.update _ sender none) exiterTid none) _ _
      rw [same]
      apply attends.listing.update _ (Nat.le_succ _)
      · exact fun _ noRequest => absurd noRequest (Option.not_mem_none _)
      · rintro entry entryMem rfl
        rcases attends.listing.isDelay entryMem waitedMem with type | type <;>
          simp [isExit] at type
    · intro reply replyMem
      rcases List.mem_cons.mp replyMem with rfl | isSecond
      · exact ⟨_, Function.update_self _ _ _, .notified _ isTick⟩
      · rcases List.mem_singleton.mp isSecond with rfl
        exact ⟨waited, pendingExiter, .dismissed _ isExit⟩
    · apply List.nodup_cons.mpr
      refine ⟨?_, List.nodup_singleton _⟩
      exact fun senderMem => exiterNe (List.mem_singleton.mp senderMem).symm

theorem Attends.stepReplies (attends : Attends system blocked)
    (fresh : ¬(event = .receiveFails ∧ system.server.phase = .serving ∧
      system.server.msg.type ≠ .error))
    (done : system.stepReplies event = some (after, replies)) :
    AttendedStep system event after replies ∧
      after.pending = replies.foldl ClockSystem.deliver (system.requests event) ∧
      after.received = system.received + 1 := by
  rcases ClockSystem.stepReplies_eq_some.mp done with ⟨canHappen, server, handled, rfl⟩
  refine ⟨?_, rfl, rfl⟩
  cases event with
  | receive sender msg =>
      have idle : system.pending sender = none := canHappen
      have shown : (system.server.load (.receive sender msg)).lists.Shows blocked := attends.shown
      cases phase : system.server.phase with
      | serving =>
          rw [ClockServer.stepReplies_serving phase] at handled
          rcases ClockServer.handle_settles shown handled with ⟨blocked', shown', settles⟩
          exact attends.settles phase idle shown' settles
      | exiting exiterTid =>
          rw [ClockServer.stepReplies_exiting phase] at handled
          exact attends.drains phase idle (Option.some.inj handled)
      | exited =>
          rw [ClockServer.stepReplies_exited phase] at handled
          cases handled
  | receiveFails =>
      have unchanged : server = system.server ∧ replies = [] := by
        cases phase : system.server.phase with
        | serving =>
            have isError : system.server.msg.type = .error := by
              by_contra notError
              exact fresh ⟨rfl, phase, notError⟩
            rw [ClockServer.stepReplies_serving phase] at handled
            simp only [ClockServer.load, ClockServer.handle, isError, Option.some.injEq,
              Prod.mk.injEq] at handled
            exact ⟨handled.1.symm, handled.2.symm⟩
        | exiting exiterTid =>
            have holding := attends.holding
            rw [ClockSystem.Holding, phase] at holding
            rw [ClockServer.stepReplies_exiting phase, ClockServer.drain, ClockServer.load,
              if_pos holding.1] at handled
            rcases Prod.mk.inj (Option.some.inj handled) with ⟨rfl, rfl⟩
            exact ⟨rfl, rfl⟩
        | exited =>
            rw [ClockServer.stepReplies_exited phase] at handled
            cases handled
      rcases unchanged with ⟨rfl, rfl⟩
      refine ⟨⟨blocked, attends.shown, attends.listing.later (Nat.le_succ _), ?_⟩,
        List.forall_mem_nil _, List.nodup_nil, (BitVec.add_zero _).symm⟩
      exact attends.holding

end Steps

/-- The system after a tick when no task waits. -/
def ClockSystem.ticked (system : ClockSystem) (notifier : Tid) (time : Word) : ClockSystem where
  server :=
    { system.server with
      senderTid := notifier
      msg := ⟨.tick, time⟩
      ticks := system.server.ticks + 1 }
  pending := system.pending
  received := system.received + 1

theorem ClockSystem.step_tick {system : ClockSystem} {notifier : Tid} {time : Word}
    (shown : system.server.lists.Shows []) (serving : system.server.phase = .serving)
    (idle : system.pending notifier = none) :
    system.step (.receive notifier ⟨.tick, time⟩) = some (system.ticked notifier time) := by
  have done : (system.server.load (.receive notifier ⟨.tick, time⟩)).handle =
      some ((system.ticked notifier time).server, [⟨notifier, ⟨.tick, time⟩⟩]) := by
    simp only [ClockServer.load, ClockServer.handle, ClockServer.tick, shown.release_nil,
      Option.bind_eq_bind, Option.bind_some, ticked]
  have canHappen : system.CanHappen (.receive notifier ⟨.tick, time⟩) := idle
  have same : Function.update (system.requests (.receive notifier ⟨.tick, time⟩)) notifier none =
      system.pending := settled idle
  rw [step, stepReplies_of_handle serving canHappen done, Option.map_some, ticked, ← same]
  rfl

section Runs

variable {system final : ClockSystem} {blocked : List ClockEntry}
  {transition : ClockSystemTransition} {trace : List ClockSystemTransition}

theorem attends_start {msg : ClockServerMsg} {lists : ClockLists} {first : ClockServer}
    (started : ClockServer.start msg lists = some first) : Attends (.start first) [] := by
  rcases ClockServer.start_shows started with ⟨shown, -, serving⟩
  have nobodyWaits : ∀ tid, ∀ request ∈ (ClockSystem.start first).pending tid, False := by
    intro tid request requestMem
    cases requestMem
  refine ⟨shown, ⟨by simp, .nil, ?_⟩, ?_⟩
  · intro tid request requestMem
    exact (nobodyWaits tid request requestMem).elim
  · rw [ClockSystem.Holding, show (ClockSystem.start first).server.phase = _ from serving]
    intro tid request requestMem
    exact (nobodyWaits tid request requestMem).elim

theorem Attends.step (attends : Attends transition.before blocked)
    (fresh : ¬transition.HandlesAgain)
    (taken : transition.before.step transition.input = some transition.after) :
    AttendedStep transition.before transition.input transition.after
      (ClockSystemTransition.replies transition) :=
  (attends.stepReplies fresh (ClockSystemTransition.stepReplies_eq taken)).1

theorem Attends.run (attends : Attends system blocked)
    (run : Run ClockSystem.step system trace final)
    (fresh : ∀ transition ∈ trace, ¬ClockSystemTransition.HandlesAgain transition) :
    ∃ blocked, Attends final blocked := by
  let invariant : ClockSystem → Prop := fun system => ∃ blocked, Attends system blocked
  have preserved : ∀ transition : ClockSystemTransition,
      transition.before.step transition.input = some transition.after →
      ¬transition.HandlesAgain → invariant transition.before → invariant transition.after := by
    rintro transition taken fresh ⟨blocked, attends⟩
    exact (attends.step fresh taken).attends
  have initially : invariant system := ⟨blocked, attends⟩
  have atEnd : invariant final := run.invariant preserved fresh initially
  exact atEnd

theorem Attends.step_of_mem (attends : Attends system blocked)
    (run : Run ClockSystem.step system trace final)
    (fresh : ∀ transition ∈ trace, ¬ClockSystemTransition.HandlesAgain transition)
    (transitionMem : transition ∈ trace) :
    AttendedStep transition.before transition.input transition.after
      (ClockSystemTransition.replies transition) := by
  rcases run.split_at transitionMem with ⟨front, back, rfl, before, -⟩
  have freshFront : ∀ earlier ∈ front, ¬ClockSystemTransition.HandlesAgain earlier := by
    intro earlier earlierMem
    exact fresh earlier (List.mem_append_left _ earlierMem)
  rcases attends.run before freshFront with ⟨blocked', attends'⟩
  exact attends'.step (fresh transition transitionMem) (run.step_of_mem transitionMem)

theorem Attends.ticks_run (attends : Attends system blocked)
    (run : Run ClockSystem.step system trace final)
    (fresh : ∀ transition ∈ trace, ¬ClockSystemTransition.HandlesAgain transition) :
    final.server.ticks = system.server.ticks + BitVec.ofNat 32 (ticksCounted trace) := by
  induction run generalizing blocked with
  | nil => exact (BitVec.add_zero _).symm
  | @cons system middle final event trace first _ ih =>
      have step := @Attends.step blocked ⟨system, event, middle⟩ attends
        (fresh _ List.mem_cons_self) first
      rcases step.attends with ⟨blocked', attends'⟩
      have rest := ih attends' fun later laterMem => fresh later (List.mem_cons_of_mem _ laterMem)
      have ticks : middle.server.ticks =
          system.server.ticks + if system.counts event then 1 else 0 := step.ticks
      rw [rest, ticks, ticksCounted_cons, BitVec.ofNat_add, BitVec.add_assoc,
        BitVec.add_comm (BitVec.ofNat 32 _)]
      congr 2
      split_ifs <;> rfl

/-- The tick count of a run from the start. -/
theorem run_ticks {msg : ClockServerMsg} {lists : ClockLists} {first : ClockServer}
    (started : ClockServer.start msg lists = some first)
    (run : Run ClockSystem.step (.start first) trace final)
    (fresh : ∀ transition ∈ trace, ¬ClockSystemTransition.HandlesAgain transition) :
    final.server.ticks = BitVec.ofNat 32 (ticksCounted trace) := by
  have ticks := (attends_start started).ticks_run run fresh
  rw [ClockSystem.start, (ClockServer.start_shows started).2.1] at ticks
  exact ticks.trans (BitVec.zero_add _)

end Runs

end ArmKernel
