import ArmKernel.ClockServer.Clients

/-!
# Delays

`Delay` and `DelayUntil` of clock_server.c, and what they promise: the caller is blocked until
the ticks have passed, and it is told when the server has refused the delay. The sum of the
delay and the tick count wraps, so the first holds exactly if the deadline is an `int`. The
wrappers look for the refusal in the message that they have sent and not in the reply, so they
never report it.
-/

namespace ArmKernel

open PartialMachine

def clockServerInvalidTid : ℤ := -1

def clockServerInvalidDelay : ℤ := -2

/-- `Send` to a task with a message of the clock server: the result and the reply. -/
abbrev ClockSend := Byte → ClockServerMsg → ℤ × ClockServerMsg

namespace ClockClient

/-- `Delay`. The parameter `tid` of `Send` is a byte. -/
def delay (send : ClockSend) (tid ticks : Word) : ℤ :=
  let msg : ClockServerMsg := { type := .delay, time := ticks }
  let (res, _rep) := send (tid.setWidth 8) msg
  if res ≠ 0 then
    clockServerInvalidTid
  else if msg.type = .error then
    clockServerInvalidDelay
  else
    0

/-- `Time`, with what is in the variable `msg` at first. -/
def time (send : ClockSend) (tid : Word) (msg : ClockServerMsg) : ℤ :=
  let msg := { msg with type := .time }
  let (res, rep) := send (tid.setWidth 8) msg
  if res ≠ 0 then
    clockServerInvalidTid
  else
    rep.time.toInt

/-- `DelayUntil` -/
def delayUntil (send : ClockSend) (tid ticks : Word) : ℤ :=
  let msg : ClockServerMsg := { type := .delayUntil, time := ticks }
  let (res, _rep) := send (tid.setWidth 8) msg
  if res ≠ 0 then
    clockServerInvalidTid
  else if msg.type = .error then
    clockServerInvalidDelay
  else
    0

end ClockClient

/-- A call of one of the two. -/
inductive DelayCall where
  | delay (ticks : Word)
  | delayUntil (ticks : Word)

namespace DelayCall

def ticks : DelayCall → Word
  | .delay ticks | .delayUntil ticks => ticks

def msg : DelayCall → ClockServerMsg
  | .delay ticks => ⟨.delay, ticks⟩
  | .delayUntil ticks => ⟨.delayUntil, ticks⟩

def result (send : ClockSend) (tid : Word) : DelayCall → ℤ
  | .delay ticks => ClockClient.delay send tid ticks
  | .delayUntil ticks => ClockClient.delayUntil send tid ticks

/-- What the caller waits for: that the given number of ticks has passed, or that the ticks since
the start of the server are more than the given number. -/
def Reached (since total : ℕ) : DelayCall → Prop
  | .delay ticks => ticks.toInt ≤ since
  | .delayUntil ticks => ticks.toInt < total

/-- The delay is positive and its deadline is an `int`. -/
def Granted (call : DelayCall) (now : Word) : Prop :=
  ∃ deadline ∈ deadlineOf call.msg now, deadline < 2 ^ 31

variable {call : DelayCall} {send : ClockSend} {tid ticks now : Word}

theorem granted_delay : (delay ticks).Granted now ↔
    0 < ticks.toInt ∧ ticks.toInt + now.toNat < 2 ^ 31 := by
  simp only [Granted, msg, deadlineOf]
  split_ifs with positive
  · simp [positive]
  · simp [positive]

theorem granted_delayUntil : (delayUntil ticks).Granted now ↔ 0 < ticks.toInt := by
  simp only [Granted, msg, deadlineOf]
  split_ifs with positive
  · have small := BitVec.toInt_lt (x := ticks)
    simp [positive]
    omega
  · simp [positive]

theorem wakeTime_not_positive (notPositive : call.ticks.toInt ≤ 0) :
    ∀ time ∈ wakeTime call.msg now, time.toInt ≤ 0 := by
  intro time asks
  cases call with
  | delay ticks =>
      have isRefused : wakeTime ⟨.delay, ticks⟩ now = none := if_pos notPositive
      rw [msg, isRefused] at asks
      cases asks
  | delayUntil ticks =>
      rcases Option.some.inj asks with rfl
      exact notPositive

theorem result_eq_zero (sent : (send (tid.setWidth 8) call.msg).1 = 0) :
    call.result send tid = 0 := by
  cases call with
  | delay ticks =>
      have notError : ClockServerMsgType.delay ≠ .error := by decide
      have res : (send (tid.setWidth 8) ⟨.delay, ticks⟩).1 = 0 := sent
      simp only [result, ClockClient.delay, res, ne_eq, not_true_eq_false, if_false, notError]
  | delayUntil ticks =>
      have notError : ClockServerMsgType.delayUntil ≠ .error := by decide
      have res : (send (tid.setWidth 8) ⟨.delayUntil, ticks⟩).1 = 0 := sent
      simp only [result, ClockClient.delayUntil, res, ne_eq, not_true_eq_false, if_false,
        notError]

end DelayCall

/-- In a run from `system` the message comes first, and the last step answers it with `rep`. -/
structure AnsweredIn (system : ClockSystem) (sender : Tid) (msg : ClockServerMsg)
    (trace : List ClockSystemTransition) (rep : ClockServerMsg) : Prop where
  run : ∃ final, Run ClockSystem.step system trace final
  fresh : ∀ transition ∈ trace, ¬ClockSystemTransition.HandlesAgain transition
  asks : trace.head?.map (·.input) = some (.receive sender msg)
  answers : ∃ last ∈ trace.getLast?, ⟨sender, rep⟩ ∈ ClockSystemTransition.replies last ∧
    last.before.requests last.input sender = some ⟨msg, system.server.ticks, system.received⟩

/-- A delay for `n` ticks is not refused, and not answered before they have been counted. -/
def DelaySafe (system : ClockSystem) (sender : Tid) (n : Word) : Prop :=
  ∀ trace rep, AnsweredIn system sender ⟨.delay, n⟩ trace rep →
    rep.type ≠ .error ∧ n.toNat ≤ ticksCounted trace

/-- The caller is told about a refusal, and about nothing else; it is told of a success only after
the ticks that it waits for. -/
def ReportsRefusal (total : ℕ) (system : ClockSystem) (sender : Tid) (call : DelayCall) : Prop :=
  ∀ trace rep send tid, AnsweredIn system sender call.msg trace rep →
    send (tid.setWidth 8) call.msg = (0, rep) →
    (call.result send tid = clockServerInvalidDelay ↔ rep.type = .error) ∧
      (call.result send tid = 0 → rep.type ≠ .error ∧
        call.Reached (ticksCounted trace) (total + ticksCounted trace))

section Answers

variable {system : ClockSystem} {server : ClockServer} {blocked : List ClockEntry} {sender : Tid}
  {msg rep : ClockServerMsg} {trace : List ClockSystemTransition} {time n ticks : Word}

theorem AnsweredIn.answeredWith (answered : AnsweredIn system sender msg trace rep)
    (attends : Attends system blocked) :
    ∃ received, AnsweredWith ⟨msg, system.server.ticks, system.received⟩ received
      (system.server.ticks + BitVec.ofNat 32 (ticksCounted trace)) rep := by
  rcases answered.run with ⟨final, run⟩
  rcases answered.answers with ⟨last, isLast, replyMem, isRequest⟩
  have ticks := attends.ticks_run run answered.fresh
  have lastMem := List.mem_of_getLast? isLast
  have step := attends.step_of_mem run answered.fresh lastMem
  rcases step.answers _ replyMem with ⟨request, requestMem, answer⟩
  rcases Option.some.inj (isRequest.symm.trans requestMem) with rfl
  refine ⟨last.before.received, ?_⟩
  -- the last step ends the run
  have atEnd : last.after = final := by
    rcases List.getLast?_eq_some_iff.mp isLast with ⟨front, rfl⟩
    rcases run.split with ⟨middle, -, back⟩
    cases back with
    | cons _ rest =>
        cases rest
        rfl
  rw [← ticks, ← atEnd]
  exact answer

theorem answeredIn_atOnce (serving : system.server.phase = .serving)
    (idle : system.pending sender = none)
    (done : (system.server.load (.receive sender msg)).handle = some (server, [⟨sender, rep⟩])) :
    ∃ transition : ClockSystemTransition, AnsweredIn system sender msg [transition] rep ∧
      transition.before = system ∧ transition.input = .receive sender msg := by
  have canHappen : system.CanHappen (.receive sender msg) := idle
  let after : ClockSystem :=
    { server := server
      pending := ClockSystem.deliver (system.requests (.receive sender msg)) ⟨sender, rep⟩
      received := system.received + 1 }
  have sent : system.stepReplies (.receive sender msg) = some (after, [⟨sender, rep⟩]) :=
    ClockSystem.stepReplies_of_handle serving canHappen done
  have taken : system.step (.receive sender msg) = some after :=
    congrArg (Option.map Prod.fst) sent
  let transition : ClockSystemTransition := ⟨system, .receive sender msg, after⟩
  have replies : transition.replies = [⟨sender, rep⟩] := by
    simp only [ClockSystemTransition.replies, transition, sent, Option.map_some, Option.getD_some]
  refine ⟨transition, ⟨⟨_, .cons taken (.nil _)⟩, ?_, rfl, transition, rfl, ?_,
    Function.update_self _ _ _⟩, rfl, rfl⟩
  · intro other otherMem handlesAgain
    rcases List.mem_singleton.mp otherMem with rfl
    cases handlesAgain.1
  · rw [replies]
    exact List.mem_singleton_self _

theorem ClockServer.handle_refused {server : ClockServer}
    (isDelay : server.msg.type = .delay ∨ server.msg.type = .delayUntil)
    (refused : ∀ time ∈ wakeTime server.msg server.ticks, time.toInt ≤ 0) :
    server.handle = some (server.answer ⟨.error, 0⟩) := by
  rcases isDelay with type | type
  · simp only [handle, type, delay]
    split_ifs with notPositive
    · rfl
    · have asks : server.msg.time + server.ticks ∈ wakeTime server.msg server.ticks := by
        simp only [wakeTime, type, if_neg notPositive, Option.mem_def]
      rw [delayUntil, if_pos (refused _ asks)]
  · have asks : server.msg.time ∈ wakeTime server.msg server.ticks := by
      simp only [wakeTime, type, Option.mem_def]
    simp only [handle, type, delayUntil, if_pos (refused _ asks)]

theorem ClockServer.handle_late {server : ClockServer}
    (asks : wakeTime server.msg server.ticks = some time) (positive : 0 < time.toInt)
    (late : time < server.ticks) :
    server.handle = some (server.answer ⟨.tick, server.ticks⟩) := by
  have answers : server.delayUntil time = some (server.answer ⟨.tick, server.ticks⟩) := by
    rw [delayUntil, if_neg (not_le.mpr positive), if_pos late]
  rcases isDelay_of_wakeTime asks with type | type
  · simp only [wakeTime, type] at asks
    split_ifs at asks with notPositive
    rcases Option.some.inj asks with rfl
    simp only [handle, type, delay, if_neg notPositive, answers]
  · simp only [wakeTime, type] at asks
    rcases Option.some.inj asks with rfl
    simp only [handle, type, answers]

theorem toNat_add_ofNat_le (ticks : Word) (count : ℕ) :
    (ticks + BitVec.ofNat 32 count).toNat ≤ ticks.toNat + count := by
  rw [BitVec.toNat_add, BitVec.toNat_ofNat, Nat.add_mod_mod]
  exact Nat.mod_le _ _

/-- The sum of the delay and the tick count is negative, or it is less than the tick count. -/
theorem add_ticks_cases (positive : 0 < n.toInt) (large : 2 ^ 31 ≤ n.toInt + ticks.toNat) :
    (n + ticks).toInt ≤ 0 ∨ n + ticks < ticks := by
  have unsigned := ClockServer.toInt_eq_toNat positive
  have small := BitVec.toInt_lt (x := n)
  have isLt := ticks.isLt
  have sum := BitVec.toNat_add n ticks
  have signed := BitVec.toInt_eq_toNat_cond (n + ticks)
  rcases Nat.lt_or_ge (n.toNat + ticks.toNat) (2 ^ 32) with fits | wraps
  · left
    rw [Nat.mod_eq_of_lt fits] at sum
    split_ifs at signed with less
    · omega
    · omega
  · right
    have rest : (n.toNat + ticks.toNat) % 2 ^ 32 = n.toNat + ticks.toNat - 2 ^ 32 := by
      rw [Nat.mod_eq_sub_mod wraps]
      apply Nat.mod_eq_of_lt
      omega
    rw [BitVec.lt_def]
    omega

end Answers

section Runs

variable {start : ClockServerMsg} {lists : ClockLists} {first : ClockServer} {system : ClockSystem}
  {front : List ClockSystemTransition} {sender : Tid} {blocked : List ClockEntry} {n : Word}
  {call : DelayCall}

/-- A delay with a deadline that is an `int` is answered after it. -/
theorem Attends.delaySafe (attends : Attends system blocked) (positive : 0 < n.toInt)
    (small : n.toInt + system.server.ticks.toNat < 2 ^ 31) : DelaySafe system sender n := by
  intro trace rep answered
  have sum := ClockServer.toInt_add_ticks positive small
  have isTime : wakeTime ⟨.delay, n⟩ system.server.ticks = some (n + system.server.ticks) := by
    simp only [wakeTime, if_neg (not_le.mpr positive)]
  have unsigned := ClockServer.toInt_eq_toNat positive
  have sumPositive : 0 < (n + system.server.ticks).toInt := by omega
  have sumUnsigned := ClockServer.toInt_eq_toNat sumPositive
  rcases answered.answeredWith attends with ⟨received, answer⟩
  cases answer with
  | notified _ isTick => cases isTick
  | told isTime => cases isTime
  | dismissed _ isExit => cases isExit
  | refused _ isRefused =>
      have notPositive := isRefused _ isTime
      omega
  | late asks _ isLate =>
      rcases Option.some.inj (isTime.symm.trans asks) with rfl
      have less := BitVec.lt_def.mp isLate
      simp only at less
      omega
  | woken asks _ _ due =>
      rcases Option.some.inj (isTime.symm.trans asks) with rfl
      refine ⟨by simp, ?_⟩
      have less := BitVec.lt_def.mp due
      have counted := toNat_add_ofNat_le system.server.ticks (ticksCounted trace)
      omega

/-- A delay whose deadline is not an `int` is answered at once, and maybe with a refusal. -/
theorem not_delaySafe (serving : system.server.phase = .serving)
    (idle : system.pending sender = none) (positive : 0 < n.toInt)
    (large : 2 ^ 31 ≤ n.toInt + system.server.ticks.toNat) :
    ∃ transition rep, AnsweredIn system sender ⟨.delay, n⟩ [transition] rep ∧
      (rep.type = .error ∨ ticksCounted [transition] < n.toNat) := by
  have isTime : wakeTime ⟨.delay, n⟩ system.server.ticks = some (n + system.server.ticks) := by
    simp only [wakeTime, if_neg (not_le.mpr positive)]
  rcases le_or_gt (n + system.server.ticks).toInt 0 with notPositive | sumPositive
  · have refused : ∀ time ∈ wakeTime ⟨.delay, n⟩ system.server.ticks, time.toInt ≤ 0 := by
      intro time asks
      rcases Option.some.inj (isTime.symm.trans asks) with rfl
      exact notPositive
    have done := @ClockServer.handle_refused (system.server.load (.receive sender ⟨.delay, n⟩))
      (.inl rfl) refused
    rcases answeredIn_atOnce serving idle done with ⟨transition, answered, -, -⟩
    exact ⟨transition, _, answered, .inl rfl⟩
  · have late := (add_ticks_cases positive large).resolve_left (not_le.mpr sumPositive)
    have done := @ClockServer.handle_late _ (system.server.load (.receive sender ⟨.delay, n⟩))
      isTime sumPositive late
    rcases answeredIn_atOnce serving idle done with ⟨transition, answered, before, input⟩
    refine ⟨transition, _, answered, .inr ?_⟩
    have notCounted : transition.before.counts transition.input = false := by
      rw [input]
      simp [ClockSystem.counts]
    have unsigned := ClockServer.toInt_eq_toNat positive
    rw [ticksCounted_cons, notCounted]
    simp only [ticksCounted, List.countP_nil, Bool.false_eq_true, if_false]
    omega

/-- A delay for a positive number of ticks is not refused and not answered too early if and only
if its deadline is an `int`. -/
theorem run_delaySafe_iff (started : ClockServer.start start lists = some first)
    (run : Run ClockSystem.step (.start first) front system)
    (fresh : ∀ transition ∈ front, ¬ClockSystemTransition.HandlesAgain transition)
    (serving : system.server.phase = .serving) (idle : system.pending sender = none)
    (positive : 0 < n.toInt) :
    DelaySafe system sender n ↔ n.toInt + system.server.ticks.toNat < 2 ^ 31 := by
  rcases (attends_start started).run run fresh with ⟨blocked, attends⟩
  constructor
  · intro safe
    by_contra large
    rcases not_delaySafe serving idle positive (not_lt.mp large) with
      ⟨transition, rep, answered, isError | tooEarly⟩
    · exact (safe _ _ answered).1 isError
    · exact absurd (safe _ _ answered).2 (not_le.mpr tooEarly)
  · exact attends.delaySafe positive

theorem answeredIn_refused (serving : system.server.phase = .serving)
    (idle : system.pending sender = none) (notPositive : call.ticks.toInt ≤ 0) :
    ∃ transition, AnsweredIn system sender call.msg [transition] ⟨.error, 0⟩ := by
  have isDelay : call.msg.type = .delay ∨ call.msg.type = .delayUntil := by
    cases call with
    | delay ticks => exact .inl rfl
    | delayUntil ticks => exact .inr rfl
  have done := @ClockServer.handle_refused (system.server.load (.receive sender call.msg)) isDelay
    (DelayCall.wakeTime_not_positive notPositive)
  rcases answeredIn_atOnce serving idle done with ⟨transition, answered, -, -⟩
  exact ⟨transition, answered⟩

theorem Attends.refuses (attends : Attends system blocked) (notPositive : call.ticks.toInt ≤ 0)
    {trace : List ClockSystemTransition} {rep : ClockServerMsg}
    (answered : AnsweredIn system sender call.msg trace rep) : rep.type = .error := by
  have neverAsks : ∀ time ∈ wakeTime call.msg system.server.ticks, ¬0 < time.toInt :=
    fun time asks => not_lt.mpr (DelayCall.wakeTime_not_positive notPositive time asks)
  rcases answered.answeredWith attends with ⟨received, answer⟩
  cases answer with
  | notified _ isTick => cases call <;> cases isTick
  | told isTime => cases call <;> cases isTime
  | dismissed _ isExit => cases call <;> cases isExit
  | refused => rfl
  | late asks positive => exact absurd positive (neverAsks _ asks)
  | woken asks positive => exact absurd positive (neverAsks _ asks)

/-- A caller of `DelayUntil` that is not refused is answered when the tick count has passed. -/
theorem Attends.delayUntil_reached (attends : Attends system blocked) {total : ℕ}
    (counted : system.server.ticks.toNat ≤ total) (positive : 0 < n.toInt)
    {trace : List ClockSystemTransition} {rep : ClockServerMsg}
    (answered : AnsweredIn system sender ⟨.delayUntil, n⟩ trace rep) :
    rep.type ≠ .error ∧ n.toInt < total + ticksCounted trace := by
  have unsigned := ClockServer.toInt_eq_toNat positive
  have later := toNat_add_ofNat_le system.server.ticks (ticksCounted trace)
  rcases answered.answeredWith attends with ⟨received, answer⟩
  cases answer with
  | notified _ isTick => cases isTick
  | told isTime => cases isTime
  | dismissed _ isExit => cases isExit
  | refused _ isRefused =>
      have notPositive : n.toInt ≤ 0 := isRefused n rfl
      omega
  | late asks _ isLate =>
      rcases Option.some.inj asks with rfl
      refine ⟨nofun, ?_⟩
      have less : n.toNat < system.server.ticks.toNat := BitVec.lt_def.mp isLate
      omega
  | woken asks _ _ due =>
      rcases Option.some.inj asks with rfl
      refine ⟨nofun, ?_⟩
      have less : n.toNat < _ := BitVec.lt_def.mp due
      omega

/-- An answer that is an error, or that comes too early, is reported as a success. -/
theorem not_reportsRefusal {transition : ClockSystemTransition} {rep : ClockServerMsg} {total : ℕ}
    (answered : AnsweredIn system sender call.msg [transition] rep)
    (wrong : rep.type = .error ∨
      ¬call.Reached (ticksCounted [transition]) (total + ticksCounted [transition])) :
    ¬ReportsRefusal total system sender call := by
  intro reports
  let send : ClockSend := fun _ _ => (0, rep)
  have isZero : call.result send 0 = 0 := DelayCall.result_eq_zero rfl
  have success := (reports _ rep send 0 answered rfl).2 isZero
  rcases wrong with isError | tooEarly
  · exact success.1 isError
  · exact tooEarly success.2

/-- A delay that is not positive is refused. A call reports what it should if and only if the delay
is positive and its deadline an `int`. -/
theorem run_reportsRefusal_iff (started : ClockServer.start start lists = some first)
    (run : Run ClockSystem.step (.start first) front system)
    (fresh : ∀ transition ∈ front, ¬ClockSystemTransition.HandlesAgain transition)
    (serving : system.server.phase = .serving) (idle : system.pending sender = none) :
    (call.ticks.toInt ≤ 0 →
      (∃ transition, AnsweredIn system sender call.msg [transition] ⟨.error, 0⟩) ∧
        ∀ trace rep, AnsweredIn system sender call.msg trace rep → rep.type = .error) ∧
      (ReportsRefusal (ticksCounted front) system sender call ↔
        call.Granted system.server.ticks) := by
  rcases (attends_start started).run run fresh with ⟨blocked, attends⟩
  refine ⟨?_, ?_, ?_⟩
  · intro notPositive
    exact ⟨answeredIn_refused serving idle notPositive,
      fun trace rep answered => attends.refuses notPositive answered⟩
  · intro reports
    by_contra notGranted
    rcases le_or_gt call.ticks.toInt 0 with notPositive | positive
    · rcases answeredIn_refused serving idle notPositive with ⟨transition, answered⟩
      exact not_reportsRefusal answered (.inl rfl) reports
    · cases call with
      | delay n =>
          have large : 2 ^ 31 ≤ n.toInt + system.server.ticks.toNat := by
            by_contra small
            exact notGranted (DelayCall.granted_delay.mpr ⟨positive, not_le.mp small⟩)
          have unsigned : n.toInt = n.toNat := ClockServer.toInt_eq_toNat positive
          rcases @not_delaySafe system sender n serving idle positive large with
            ⟨transition, rep, answered, wrong⟩
          apply not_reportsRefusal answered _ reports
          apply wrong.imp_right
          intro tooEarly reached
          have enough : n.toInt ≤ ticksCounted [transition] := reached
          omega
      | delayUntil n => exact notGranted (DelayCall.granted_delayUntil.mpr positive)
  · intro granted trace rep send tid answered sent
    have res : (send (tid.setWidth 8) call.msg).1 = 0 := congrArg Prod.fst sent
    have isZero := DelayCall.result_eq_zero res
    have right : rep.type ≠ .error ∧
        call.Reached (ticksCounted trace) (ticksCounted front + ticksCounted trace) := by
      cases call with
      | delay n =>
          rcases DelayCall.granted_delay.mp granted with ⟨positive, small⟩
          rcases attends.delaySafe positive small trace rep answered with ⟨notError, enough⟩
          have unsigned := ClockServer.toInt_eq_toNat positive
          refine ⟨notError, ?_⟩
          change n.toInt ≤ ticksCounted trace
          omega
      | delayUntil n =>
          have positive := DelayCall.granted_delayUntil.mp granted
          have atMost : system.server.ticks.toNat ≤ ticksCounted front := by
            rw [run_ticks started run fresh, BitVec.toNat_ofNat]
            exact Nat.mod_le _ _
          rcases attends.delayUntil_reached atMost positive answered with ⟨notError, reached⟩
          refine ⟨notError, ?_⟩
          change n.toInt < (ticksCounted front + ticksCounted trace : ℕ)
          exact_mod_cast reached
    rw [isZero]
    refine ⟨⟨nofun, fun isError => absurd isError right.1⟩, fun _ => right⟩

end Runs

/-- A delay for 2^31 - 1 ticks is refused when one tick has been counted. -/
theorem delay_not_safe : ¬∀ (start : ClockServerMsg) (lists : ClockLists) (first : ClockServer)
    (front : List ClockSystemTransition) (system : ClockSystem) (sender : Tid) (n : Word),
    ClockServer.start start lists = some first →
      Run ClockSystem.step (.start first) front system →
      system.server.phase = .serving → system.pending sender = none → 0 < n.toInt →
      DelaySafe system sender n := by
  intro claimed
  rcases run_equalDeadlines with ⟨first, -, -, started, -⟩
  rcases ClockServer.start_shows started with ⟨shown, ticks, serving⟩
  have taken := @ClockSystem.step_tick (.start first) 5 0 shown serving rfl
  have safe := claimed _ _ _ _ _ 3 2147483647 started (.cons taken (.nil _)) serving rfl
    (by decide)
  have large : 2 ^ 31 ≤ (2147483647 : Word).toInt + (first.ticks + 1).toNat := by
    rw [ticks]
    decide
  rcases @not_delaySafe (ClockSystem.ticked (.start first) 5 0) 3 _ serving rfl (by decide) large
    with ⟨transition, rep, answered, isError | tooEarly⟩
  · exact (safe _ _ answered).1 isError
  · exact absurd (safe _ _ answered).2 (not_le.mpr tooEarly)

/-- The server after two ticks, and then a delay of task 3 for one tick up to its answer. -/
def twoTicks : List ClockEvent := [.receive 5 ⟨.tick, 0⟩, .receive 5 ⟨.tick, 0⟩]

def delayOne : List ClockEvent :=
  [.receive 3 ⟨.delay, 1⟩, .receive 6 ⟨.time, 0⟩, .receive 5 ⟨.tick, 0⟩, .receive 5 ⟨.tick, 0⟩]

def afterTwoTicks : ClockSystem := finalOf ClockSystem.step (.start blankServer) twoTicks

theorem run_twoTicks : Run ClockSystem.step (.start blankServer)
    (traceOf ClockSystem.step (.start blankServer) twoTicks) afterTwoTicks := by
  have runs : (record ClockSystem.step (.start blankServer) twoTicks).isSome := by decide +kernel
  exact .of_isSome runs

theorem answeredIn_delayOne : AnsweredIn afterTwoTicks 3 ⟨.delay, 1⟩
    (traceOf ClockSystem.step afterTwoTicks delayOne) ⟨.tick, 4⟩ := by
  have runs : (record ClockSystem.step afterTwoTicks delayOne).isSome := by decide +kernel
  refine ⟨⟨_, .of_isSome runs⟩, by decide +kernel, by decide +kernel,
    (traceOf ClockSystem.step afterTwoTicks delayOne).getLast (by decide +kernel),
    List.getLast?_eq_some_getLast _, by decide +kernel, by decide +kernel⟩

theorem run_delaySafe_iff_twoTicks : afterTwoTicks.server.ticks = 2 ∧
    DelaySafe afterTwoTicks 3 1 ∧
    AnsweredIn afterTwoTicks 3 ⟨.delay, 1⟩ (traceOf ClockSystem.step afterTwoTicks delayOne)
      ⟨.tick, 4⟩ ∧
    ¬DelaySafe afterTwoTicks 3 2147483646 := by
  have fresh : ∀ transition ∈ traceOf ClockSystem.step (.start blankServer) twoTicks,
      ¬ClockSystemTransition.HandlesAgain transition := by decide +kernel
  have serving : afterTwoTicks.server.phase = .serving := by decide +kernel
  have idle : afterTwoTicks.pending 3 = none := by decide +kernel
  refine ⟨by decide +kernel, ?_, answeredIn_delayOne, ?_⟩
  · exact (run_delaySafe_iff blankServer_started run_twoTicks fresh serving idle
      (by decide)).mpr (by decide +kernel)
  · exact (run_delaySafe_iff blankServer_started run_twoTicks fresh serving idle
      (by decide)).not.mpr (by decide +kernel)

/-- `Delay(tid, 0)` returns 0. -/
theorem delay_not_reported : ¬∀ (start : ClockServerMsg) (lists : ClockLists) (first : ClockServer)
    (front : List ClockSystemTransition) (system : ClockSystem) (sender : Tid) (call : DelayCall),
    ClockServer.start start lists = some first →
      Run ClockSystem.step (.start first) front system →
      system.server.phase = .serving → system.pending sender = none →
      ReportsRefusal (ticksCounted front) system sender call := by
  intro claimed
  rcases run_equalDeadlines with ⟨first, -, -, started, -⟩
  have serving := (ClockServer.start_shows started).2.2
  have reports := claimed _ _ _ _ (.start first) 3 (.delay 0) started (.nil _) serving rfl
  have notPositive : (DelayCall.delay 0).ticks.toInt ≤ 0 := by decide
  rcases @answeredIn_refused (.start first) 3 _ serving rfl notPositive with
    ⟨transition, answered⟩
  exact not_reportsRefusal answered (.inl rfl) reports

theorem run_reportsRefusal_iff_twoTicks : ReportsRefusal 2 afterTwoTicks 3 (.delay 1) ∧
    AnsweredIn afterTwoTicks 3 ⟨.delay, 1⟩ (traceOf ClockSystem.step afterTwoTicks delayOne)
      ⟨.tick, 4⟩ ∧
    ¬ReportsRefusal 2 afterTwoTicks 3 (.delay 0) := by
  have fresh : ∀ transition ∈ traceOf ClockSystem.step (.start blankServer) twoTicks,
      ¬ClockSystemTransition.HandlesAgain transition := by decide +kernel
  have serving : afterTwoTicks.server.phase = .serving := by decide +kernel
  have idle : afterTwoTicks.pending 3 = none := by decide +kernel
  have counted : ticksCounted (traceOf ClockSystem.step (.start blankServer) twoTicks) = 2 := by
    decide +kernel
  have reports : ∀ call : DelayCall, ReportsRefusal 2 afterTwoTicks 3 call ↔
      call.Granted afterTwoTicks.server.ticks := by
    intro call
    rw [← counted]
    exact (run_reportsRefusal_iff blankServer_started run_twoTicks fresh serving idle).2
  refine ⟨(reports _).mpr ?_, answeredIn_delayOne, (reports _).not.mpr ?_⟩
  · rw [DelayCall.granted_delay]
    decide +kernel
  · rw [DelayCall.granted_delay]
    decide +kernel

end ArmKernel
