import ArmKernel.ClockServer.Lists

/-!
# What the clock server does with a message

`Settles` lists the cases once, with all that the server then does: a tick wakes the first of
the waiting tasks or none, a request is answered at once or its sender is left waiting, and
other messages are ignored. `Handles` is a coarser view of the same cases, in terms of the
deadlines that the clients ask for. What the runs of the server preserve is derived from
these cases.
-/

namespace ArmKernel

open PartialMachine

/-- The tick count that must be exceeded before the answer to a message that is received at the
given count, if it asks for a delay. -/
def deadlineOf (msg : ClockServerMsg) (ticks : Word) : Option ℤ :=
  match msg.type with
  | .delay => if 0 < msg.time.toInt then some (msg.time.toInt + ticks.toNat) else none
  | .delayUntil => if 0 < msg.time.toInt then some msg.time.toInt else none
  | _ => none

/-- The tick count that the server compares with its own for a DELAY or DELAYUNTIL message that it
receives at the given count; none if it refuses the message before that. -/
def wakeTime (msg : ClockServerMsg) (ticks : Word) : Option Word :=
  match msg.type with
  | .delay => if msg.time.toInt ≤ 0 then none else some (msg.time + ticks)
  | .delayUntil => some msg.time
  | _ => none

/-- The message in `msg` leaves its sender waiting, with the given deadline. -/
def ClockServer.LeavesWaiting (server : ClockServer) (time : Word) : Prop :=
  wakeTime server.msg server.ticks = some time ∧ 0 < time.toInt ∧ ¬time < server.ticks

/-- It leaves its sender waiting behind all those that are. -/
def ClockServer.AppendsTo (server : ClockServer) (blocked : List ClockEntry) : Prop :=
  blocked ≠ [] ∧ ∃ time, server.LeavesWaiting time ∧
    ∀ entry ∈ blocked, ¬time.toInt < entry.ticks.toInt

/-- `Settles server blocked after replies blocked'`: the server, whose lists show the tasks
`blocked`, handles the message in `msg`. -/
inductive Settles (server : ClockServer) (blocked : List ClockEntry) (after : ClockServer) :
    List ClockReply → List ClockEntry → Prop where
  | idle (isTick : server.msg.type = .tick)
      (early : ∀ front ∈ blocked.head?, ¬front.ticks < server.ticks + 1)
      (ticks : after.ticks = server.ticks + 1) (phase : after.phase = server.phase) :
      Settles server blocked after [⟨server.senderTid, server.msg⟩] blocked
  | wakes {front : ClockEntry} {rest : List ClockEntry}
      (isTick : server.msg.type = .tick) (shape : blocked = front :: rest)
      (due : front.ticks < server.ticks + 1) (ticks : after.ticks = server.ticks + 1)
      (phase : after.phase = server.phase) :
      Settles server blocked after
        [⟨server.senderTid, server.msg⟩, ⟨front.tid, ⟨.tick, server.ticks + 1⟩⟩] rest
  | tells (isTime : server.msg.type = .time)
      (ticks : after.ticks = server.ticks) (phase : after.phase = server.phase) :
      Settles server blocked after [⟨server.senderTid, ⟨.time, server.ticks⟩⟩] blocked
  | refuses (isDelay : server.msg.type = .delay ∨ server.msg.type = .delayUntil)
      (refused : ∀ time ∈ wakeTime server.msg server.ticks, time.toInt ≤ 0)
      (ticks : after.ticks = server.ticks) (phase : after.phase = server.phase) :
      Settles server blocked after [⟨server.senderTid, ⟨.error, 0⟩⟩] blocked
  | late {time : Word} (asks : wakeTime server.msg server.ticks = some time)
      (positive : 0 < time.toInt) (isLate : time < server.ticks)
      (ticks : after.ticks = server.ticks) (phase : after.phase = server.phase) :
      Settles server blocked after [⟨server.senderTid, ⟨.tick, server.ticks⟩⟩] blocked
  | waits {time : Word} (asks : wakeTime server.msg server.ticks = some time)
      (positive : 0 < time.toInt) (notLate : ¬time < server.ticks)
      (ticks : after.ticks = server.ticks) (phase : after.phase = server.phase) :
      Settles server blocked after []
        (blocked.orderedInsert Earlier ⟨time, server.senderTid⟩)
  | exits (isExit : server.msg.type = .exit)
      (same : after = { server with phase := .exiting server.senderTid }) :
      Settles server blocked after [] blocked
  | ignores (isError : server.msg.type = .error) (same : after = server) :
      Settles server blocked after [] blocked

/-- `Handles server blocked after replies blocked'`: the server, whose lists show the tasks
`blocked`, handles the message in `msg`. -/
inductive Handles (server : ClockServer) (blocked : List ClockEntry) (after : ClockServer) :
    List ClockReply → List ClockEntry → Prop where
  | idle (isTick : server.msg.type = .tick)
      (early : ∀ front ∈ blocked.head?, ¬front.ticks < server.ticks + 1)
      (ticks : after.ticks = server.ticks + 1) (phase : after.phase = server.phase) :
      Handles server blocked after [⟨server.senderTid, server.msg⟩] blocked
  | wakes {msg : ClockServerMsg} {front : ClockEntry} {rest : List ClockEntry}
      (isTick : server.msg.type = .tick) (shape : blocked = front :: rest)
      (due : front.ticks < server.ticks + 1) (ticks : after.ticks = server.ticks + 1)
      (phase : after.phase = server.phase) :
      Handles server blocked after [⟨server.senderTid, server.msg⟩, ⟨front.tid, msg⟩] rest
  | answers {msg : ClockServerMsg} (notTick : server.msg.type ≠ .tick)
      (late : ∀ deadline ∈ deadlineOf server.msg server.ticks, deadline < 2 ^ 31 →
        deadline < server.ticks.toNat)
      (ticks : after.ticks = server.ticks) (phase : after.phase = server.phase) :
      Handles server blocked after [⟨server.senderTid, msg⟩] blocked
  | waits {time : Word} (notTick : server.msg.type ≠ .tick) (positive : 0 < time.toInt)
      (deadline : ∃ deadline ∈ deadlineOf server.msg server.ticks,
        deadline < 2 ^ 31 → time.toInt = deadline)
      (ticks : after.ticks = server.ticks) (phase : after.phase = server.phase) :
      Handles server blocked after []
        (blocked.orderedInsert Earlier ⟨time, server.senderTid⟩)
  | ignores (noRequest : server.msg.type = .exit ∨ server.msg.type = .error)
      (ticks : after.ticks = server.ticks) : Handles server blocked after [] blocked

namespace ClockServer

/-- A word that is positive as an `int` is the same number unsigned. -/
theorem toInt_eq_toNat {word : Word} (positive : 0 < word.toInt) : word.toInt = word.toNat := by
  have cond := BitVec.toInt_eq_toNat_cond word
  have isLt := word.isLt
  split_ifs at cond with small
  · exact cond
  · omega

/-- The time that the case DELAY leaves is the deadline if that is an `int`. -/
theorem toInt_add_ticks {time ticks : Word} (positive : 0 < time.toInt)
    (small : time.toInt + ticks.toNat < 2 ^ 31) :
    (time + ticks).toInt = time.toInt + ticks.toNat := by
  have unsigned := toInt_eq_toNat positive
  have sum : (time + ticks).toNat = time.toNat + ticks.toNat := by
    rw [BitVec.toNat_add]
    apply Nat.mod_eq_of_lt
    omega
  rw [BitVec.toInt_eq_toNat_cond, if_pos (by omega), sum, unsigned]
  exact Nat.cast_add _ _

end ClockServer

section Times

variable {msg : ClockServerMsg} {ticks time : Word} {deadline : ℤ}

theorem deadlineOf_pos (isDeadline : deadline ∈ deadlineOf msg ticks) : 0 < deadline := by
  rw [deadlineOf] at isDeadline
  split at isDeadline
  · split_ifs at isDeadline with positive
    · rcases Option.some.inj isDeadline with rfl
      omega
    · cases isDeadline
  · split_ifs at isDeadline with positive
    · rcases Option.some.inj isDeadline with rfl
      exact positive
    · cases isDeadline
  · cases isDeadline

theorem isDelay_of_wakeTime (asks : wakeTime msg ticks = some time) :
    msg.type = .delay ∨ msg.type = .delayUntil := by
  simp only [wakeTime] at asks
  split at asks
  · exact .inl ‹_›
  · exact .inr ‹_›
  · cases asks

/-- The server compares with the deadline if that is an `int`. -/
theorem wakeTime_of_deadlineOf (isDeadline : deadline ∈ deadlineOf msg ticks)
    (small : deadline < 2 ^ 31) :
    ∃ time, wakeTime msg ticks = some time ∧ time.toInt = deadline := by
  simp only [deadlineOf] at isDeadline
  simp only [wakeTime]
  split at isDeadline
  · split_ifs at isDeadline with positive
    · rcases Option.some.inj isDeadline with rfl
      exact ⟨_, if_neg (not_le.mpr positive), ClockServer.toInt_add_ticks positive small⟩
    · cases isDeadline
  · split_ifs at isDeadline
    · exact ⟨_, rfl, Option.some.inj isDeadline⟩
    · cases isDeadline
  · cases isDeadline

theorem deadlineOf_isSome (asks : wakeTime msg ticks = some time) (positive : 0 < time.toInt) :
    (deadlineOf msg ticks).isSome := by
  simp only [wakeTime] at asks
  simp only [deadlineOf]
  split at asks
  · split_ifs at asks with notPositive
    rw [if_pos (not_le.mp notPositive), Option.isSome_some]
  · rcases Option.some.inj asks with rfl
    rw [if_pos positive, Option.isSome_some]
  · cases asks

end Times

namespace ClockServer

variable {server after : ClockServer} {replies : List ClockReply} {blocked : List ClockEntry}
  {time : Word} {backed : ClockQueue → Prop}

theorem tick_settles (presents : server.lists.Presents backed blocked)
    (freeBacked : backed .freeList) (isTick : server.msg.type = .tick) :
    ∃ after replies blocked', server.tick = some (after, replies) ∧
      after.lists.Presents backed blocked' ∧ Settles server blocked after replies blocked' := by
  cases blocked with
  | nil =>
      refine ⟨{ server with ticks := server.ticks + 1 }, _, [], ?_, presents,
        .idle isTick ?_ rfl rfl⟩
      · simp only [tick, presents.release_nil, Option.bind_eq_bind, Option.bind_some]
      · intro _ frontMem
        cases frontMem
  | cons front rest =>
      by_cases due : front.ticks < server.ticks + 1
      · rcases presents.release_due freeBacked due with ⟨lists, released, presents'⟩
        let msg : ClockServerMsg := ⟨.tick, server.ticks + 1⟩
        let after := { server with ticks := server.ticks + 1, lists := lists, msg := msg }
        refine ⟨after, [⟨server.senderTid, server.msg⟩, ⟨front.tid, msg⟩], rest, ?_, presents',
          .wakes isTick rfl due rfl rfl⟩
        simp only [tick, released, Option.bind_eq_bind, Option.bind_some, isTick]
        rfl
      · refine ⟨{ server with ticks := server.ticks + 1 }, _, front :: rest, ?_, presents,
          .idle isTick ?_ rfl rfl⟩
        · simp only [tick, presents.release_early due, Option.bind_eq_bind, Option.bind_some]
        · intro first isFirst
          rcases Option.some.inj isFirst with rfl
          exact due

/-- A delay is refused or answered at once, or its sender is left waiting. -/
theorem delayUntil_settles (presents : server.lists.Presents backed blocked)
    (notLast : backed .blocked → ¬server.AppendsTo blocked)
    (asks : wakeTime server.msg server.ticks = some time)
    (done : server.delayUntil time = some (after, replies)) :
    ∃ blocked', after.lists.Presents backed blocked' ∧
      Settles server blocked after replies blocked' := by
  rw [delayUntil] at done
  split_ifs at done with notPositive isLate
  · rcases Prod.mk.inj (Option.some.inj done) with ⟨rfl, rfl⟩
    refine ⟨blocked, presents, .refuses (isDelay_of_wakeTime asks) ?_ rfl rfl⟩
    intro other otherMem
    rcases Option.some.inj (asks.symm.trans otherMem) with rfl
    exact notPositive
  · rcases Prod.mk.inj (Option.some.inj done) with ⟨rfl, rfl⟩
    exact ⟨blocked, presents, .late asks (not_le.mp notPositive) isLate rfl rfl⟩
  · rcases Nat.lt_or_eq_of_le presents.length_le with isLeft | isFull
    · have goesBefore : backed .blocked → blocked ≠ [] →
          ∃ entry ∈ blocked, time.toInt < entry.ticks.toInt := by
        intro isBacked nonempty
        by_contra noneLater
        apply notLast isBacked
        refine ⟨nonempty, time, ⟨asks, not_le.mp notPositive, isLate⟩, ?_⟩
        exact fun entry entryMem later => noneLater ⟨entry, entryMem, later⟩
      rcases presents.block isLeft time server.senderTid goesBefore with
        ⟨lists, isBlocked, presents'⟩
      simp only [isBlocked, Option.bind_eq_bind, Option.bind_some] at done
      rcases Prod.mk.inj (Option.some.inj done) with ⟨rfl, rfl⟩
      exact ⟨_, presents', .waits asks (not_le.mp notPositive) isLate rfl rfl⟩
    · simp only [presents.block_full isFull, Option.bind_eq_bind, Option.bind_none] at done
      cases done

theorem handle_presents (presents : server.lists.Presents backed blocked)
    (freeBacked : backed .freeList) (notLast : backed .blocked → ¬server.AppendsTo blocked)
    (done : server.handle = some (after, replies)) :
    ∃ blocked', after.lists.Presents backed blocked' ∧
      Settles server blocked after replies blocked' := by
  cases type : server.msg.type with
  | tick =>
      rcases tick_settles presents freeBacked type with
        ⟨after', replies', blocked', spec, presents', settles⟩
      simp only [handle, type, spec] at done
      rcases Prod.mk.inj (Option.some.inj done) with ⟨rfl, rfl⟩
      exact ⟨blocked', presents', settles⟩
  | time =>
      simp only [handle, type] at done
      rcases Prod.mk.inj (Option.some.inj done) with ⟨rfl, rfl⟩
      exact ⟨blocked, presents, .tells type rfl rfl⟩
  | delay =>
      simp only [handle, type, delay] at done
      split_ifs at done with notPositive
      · rcases Prod.mk.inj (Option.some.inj done) with ⟨rfl, rfl⟩
        refine ⟨blocked, presents, .refuses (.inl type) ?_ rfl rfl⟩
        intro time asks
        simp only [wakeTime, type, if_pos notPositive] at asks
        cases asks
      · apply delayUntil_settles presents notLast _ done
        simp only [wakeTime, type, if_neg notPositive]
  | delayUntil =>
      simp only [handle, type] at done
      apply delayUntil_settles presents notLast _ done
      simp only [wakeTime, type]
  | exit =>
      simp only [handle, type] at done
      rcases Prod.mk.inj (Option.some.inj done) with ⟨rfl, rfl⟩
      exact ⟨blocked, presents, .exits type rfl⟩
  | error =>
      simp only [handle, type] at done
      rcases Prod.mk.inj (Option.some.inj done) with ⟨rfl, rfl⟩
      exact ⟨blocked, presents, .ignores type rfl⟩

theorem handle_settles (shown : server.lists.Shows blocked)
    (done : server.handle = some (after, replies)) :
    ∃ blocked', after.lists.Shows blocked' ∧ Settles server blocked after replies blocked' := by
  have notBacked : ClockQueue.blocked = .freeList → ¬server.AppendsTo blocked := by
    intro same
    cases same
  exact handle_presents shown rfl notBacked done

end ClockServer

theorem ne_tick_of_isDelay {msg : ClockServerMsg}
    (isDelay : msg.type = .delay ∨ msg.type = .delayUntil) : msg.type ≠ .tick := by
  rcases isDelay with type | type
  · rw [type]
    decide
  · rw [type]
    decide

theorem Settles.handles {server after : ClockServer} {replies : List ClockReply}
    {blocked blocked' : List ClockEntry} (settles : Settles server blocked after replies blocked') :
    Handles server blocked after replies blocked' := by
  cases settles with
  | idle isTick early ticks phase => exact .idle isTick early ticks phase
  | wakes isTick shape due ticks phase => exact .wakes isTick shape due ticks phase
  | tells isTime ticks phase =>
      refine .answers (by rw [isTime]; decide) ?_ ticks phase
      intro deadline deadlineMem
      simp only [deadlineOf, isTime] at deadlineMem
      cases deadlineMem
  | refuses isDelay refused ticks phase =>
      refine .answers (ne_tick_of_isDelay isDelay) ?_ ticks phase
      intro deadline deadlineMem small
      rcases wakeTime_of_deadlineOf deadlineMem small with ⟨time, asks, same⟩
      have notPositive := refused time asks
      have positive := deadlineOf_pos deadlineMem
      omega
  | late asks positive isLate ticks phase =>
      refine .answers (ne_tick_of_isDelay (isDelay_of_wakeTime asks)) ?_ ticks phase
      intro deadline deadlineMem small
      rcases wakeTime_of_deadlineOf deadlineMem small with ⟨time, asks', same⟩
      rcases Option.some.inj (asks.symm.trans asks') with rfl
      have unsigned := ClockServer.toInt_eq_toNat positive
      have less := BitVec.lt_def.mp isLate
      omega
  | waits asks positive notLate ticks phase =>
      refine .waits (ne_tick_of_isDelay (isDelay_of_wakeTime asks)) positive ?_ ticks phase
      rcases Option.isSome_iff_exists.mp (deadlineOf_isSome asks positive) with
        ⟨deadline, deadlineMem⟩
      refine ⟨deadline, deadlineMem, ?_⟩
      intro small
      rcases wakeTime_of_deadlineOf deadlineMem small with ⟨time, asks', same⟩
      rcases Option.some.inj (asks.symm.trans asks') with rfl
      exact same
  | exits isExit same =>
      subst same
      exact .ignores (.inl isExit) rfl
  | ignores isError same =>
      subst same
      exact .ignores (.inr isError) rfl

namespace ClockServer

variable {server after : ClockServer} {replies : List ClockReply} {blocked : List ClockEntry}

theorem handle_handles (shown : server.lists.Shows blocked)
    (done : server.handle = some (after, replies)) :
    ∃ blocked', after.lists.Shows blocked' ∧ Handles server blocked after replies blocked' := by
  rcases handle_settles shown done with ⟨blocked', shown', settles⟩
  exact ⟨blocked', shown', settles.handles⟩

theorem handle_isSome (shown : server.lists.Shows blocked)
    (isLeft : blocked.length < taskDescriptorMaxTasks) : server.handle.isSome := by
  have waits : ∀ time, (server.delayUntil time).isSome := by
    intro time
    rcases shown.block isLeft time server.senderTid (fun same => nomatch same) with
      ⟨lists, isBlocked, -⟩
    rw [delayUntil]
    split_ifs
    · rfl
    · rfl
    · simp only [isBlocked, Option.bind_eq_bind, Option.bind_some, Option.isSome_some]
  cases type : server.msg.type with
  | tick =>
      rcases tick_settles shown rfl type with
        ⟨after, replies, blocked', spec, -, -⟩
      simp only [handle, type, spec, Option.isSome_some]
  | delay =>
      simp only [handle, type, delay]
      split_ifs
      · rfl
      · exact waits _
  | delayUntil =>
      simp only [handle, type]
      exact waits _
  | _ => simp only [handle, type, Option.isSome_some]

end ClockServer

end ArmKernel
