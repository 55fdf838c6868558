import ArmKernel.IoServer.Handshake

/-!
# The credits of COM1

The messages of the CTS notifier are credits for one byte each. A step is settled if it keeps
three accounts: of the credits that are outstanding, of the one that the TX notifier holds until
it writes a byte, and of the one that the CTS notifier may send. A run adds the accounts up.

What the CTS notifier tests is not the flag register but the word at 0x18 words behind the base
of UART1, so the credits are no better than what is read there.
-/

namespace ArmKernel

open PartialMachine

abbrev FlowTransition := Transition FlowControl FlowEvent

namespace FlowTransition

/-- A byte is written to the data register of UART1. -/
def writesByte (transition : FlowTransition) : Bool :=
  (transition.before.stores transition.input).any
    fun store => store.1 = reg uart1Base uartDataOffset

/-- The TX notifier has received a message of the CTS notifier. -/
def receivesCredit (transition : FlowTransition) : Bool :=
  match transition.input with
  | .tx .received => transition.before.rendezvous.source .tx = some .cts
  | _ => false

/-- The CTS notifier sends to the TX notifier. -/
def sendsCredit (transition : FlowTransition) : Bool :=
  match transition.input with
  | .cts .send => transition.before.cts.txNotifierTid = some .tx
  | _ => false

/-- `AwaitEvent(SYS_CALL_EVENT_UART1_MS)` returns, and the CTS notifier finds clear what it
tests. -/
def findsClear (transition : FlowTransition) : Bool :=
  match transition.input with
  | .cts (.awaitEvent _ uart) => FlowControl.testsClear uart
  | _ => false

/-- `AwaitEvent(SYS_CALL_EVENT_UART1_MS)` returns when the CTS bit of the flag register is
clear. -/
def returnsClear (transition : FlowTransition) : Bool :=
  match transition.input with
  | .cts (.awaitEvent _ uart) => uart (reg uart1Base uartFlagOffset) &&& ctsMask = 0
  | _ => false

/-- What is found clear is clear. -/
def Genuine (transition : FlowTransition) : Prop :=
  transition.findsClear = true → transition.returnsClear = true

instance (transition : FlowTransition) : Decidable (Genuine transition) :=
  inferInstanceAs (Decidable (_ → _))

end FlowTransition

open FlowTransition in
/-- The accounts of the credits at the end of a run. -/
structure Accounted (trace : List FlowTransition) : Prop where
  spent : trace.countP writesByte ≤ trace.countP receivesCredit
  delivered : trace.countP receivesCredit ≤ trace.countP sendsCredit
  outstanding : trace.countP sendsCredit ≤ trace.countP receivesCredit + 1
  earned : trace.countP sendsCredit ≤ 1 + trace.countP returnsClear
  bounded : trace.countP writesByte ≤ 1 + trace.countP returnsClear

/-- The accounts are right at every moment of a run. -/
def FlowControlled (trace : List FlowTransition) : Prop :=
  ∀ front, front <+: trace → Accounted front

namespace FlowControl

/-- The TX notifier has received a credit that it has not used. -/
def holding (system : FlowControl) : ℕ :=
  match system.tx.phase with
  | .reply | .write => 1
  | _ => 0

/-- The CTS notifier may send a credit before it finds the bit clear again. -/
def allowance (system : FlowControl) : ℕ :=
  match system.cts.phase with
  | .sending | .time | .awaitEvent => 0
  | _ => 1

end FlowControl

theorem TxMain.next_free (tx : TxMain) : tx.next.phase.free := by
  rw [TxMain.next]
  split_ifs <;> rfl

theorem TxMain.next_ne_write (tx : TxMain) : tx.next.phase ≠ .write := by
  rw [TxMain.next]
  split_ifs <;> simp

/-- What a step adds to a count. -/
def tally (counted : Bool) : ℕ := if counted then 1 else 0

open FlowTransition in
/-- The accounts of one step, with the credits outstanding before and after it. -/
structure Settled (transition : FlowTransition) (credits credits' : ℕ) : Prop where
  handshake : Handshake transition.after credits'
  outstanding : credits + tally transition.sendsCredit =
    tally transition.receivesCredit + credits'
  holding : transition.before.holding + tally transition.receivesCredit =
    tally transition.writesByte + transition.after.holding
  allowance : transition.before.allowance + tally transition.findsClear =
    tally transition.sendsCredit + transition.after.allowance

section Steps

variable {system after : FlowControl} {credits : ℕ}

/-- Outside of the rendezvous a credit is held only before a byte is written. -/
theorem holding_of_free (isFree : system.tx.phase.free) (notWrite : system.tx.phase ≠ .write) :
    system.holding = 0 := by
  cases atPhase : system.tx.phase <;> simp_all [FlowControl.holding, TxPhase.free]

/-- A step of the TX notifier that neither receives a credit nor uses one. -/
theorem Settled.ofTx {event : TxEvent} (handshake : Handshake after credits)
    (noCredit : FlowTransition.receivesCredit ⟨system, .tx event, after⟩ = false)
    (noByte : FlowTransition.writesByte ⟨system, .tx event, after⟩ = false)
    (holding : system.holding = after.holding) (allowance : system.allowance = after.allowance) :
    Settled ⟨system, .tx event, after⟩ credits credits := by
  have noSend : FlowTransition.sendsCredit ⟨system, .tx event, after⟩ = false := rfl
  have noFind : FlowTransition.findsClear ⟨system, .tx event, after⟩ = false := rfl
  constructor
  · exact handshake
  · simp [noSend, noCredit, tally]
  · simp [noCredit, noByte, tally, holding]
  · simp [noSend, noFind, tally, allowance]

theorem Handshake.txIdles {event : TxEvent} {tx : TxMain} (handshake : Handshake system credits)
    (ready : system.rendezvous.status .tx = .ready) {phase : TxPhase}
    (atPhase : system.tx.phase = phase) (wasFree : phase.free ∧ phase ≠ .write)
    (isFree : tx.phase.free) (notWrite : tx.phase ≠ .write)
    (noCredit : ∀ after, FlowTransition.receivesCredit ⟨system, .tx event, after⟩ = false)
    (noByte : ∀ after, FlowTransition.writesByte ⟨system, .tx event, after⟩ = false) :
    Settled ⟨system, .tx event, { system with tx := tx }⟩ credits credits := by
  rcases atPhase with rfl
  refine .ofTx (handshake.txMoves ready wasFree.1 isFree) (noCredit _) (noByte _) ?_ rfl
  have after : { system with tx := tx }.holding = 0 := holding_of_free isFree notWrite
  rw [holding_of_free wasFree.1 wasFree.2, after]

/-- A step of the CTS notifier that neither sends a credit nor earns one. -/
theorem Settled.ofCts {event : CtsEvent} (handshake : Handshake after credits)
    (noSend : FlowTransition.sendsCredit ⟨system, .cts event, after⟩ = false)
    (noFind : FlowTransition.findsClear ⟨system, .cts event, after⟩ = false)
    (holding : system.holding = after.holding) (allowance : system.allowance = after.allowance) :
    Settled ⟨system, .cts event, after⟩ credits credits := by
  have noCredit : FlowTransition.receivesCredit ⟨system, .cts event, after⟩ = false := rfl
  have noByte : FlowTransition.writesByte ⟨system, .cts event, after⟩ = false := rfl
  constructor
  · exact handshake
  · simp [noSend, noCredit, tally]
  · simp [noCredit, noByte, tally, holding]
  · simp [noSend, noFind, tally, allowance]

theorem Handshake.created (handshake : Handshake system credits)
    (atCreate : system.tx.phase = .create) (created : Bool) :
    Settled ⟨system, .tx (.create created), { system with
      tx := { system.tx with
        phase := .greet
        ctsNotifierTid := if created then some .cts else none }
      cts := if created then { system.cts with phase := .whoIs } else system.cts }⟩
      credits credits := by
  rcases handshake.at_create atCreate with ⟨rfl, cts, pair⟩
  refine Settled.ofTx ?_ rfl rfl ?_ ?_
  · cases created with
    | false => exact .alone (.inr ⟨rfl, rfl⟩) cts pair
    | true => exact .born ⟨rfl, rfl⟩ (.inl rfl) pair
  · simp only [FlowControl.holding, atCreate]
  · cases created with
    | false => rfl
    | true => simp only [FlowControl.allowance, cts, if_true]

theorem Handshake.received (handshake : Handshake system credits)
    (ready : system.rendezvous.status .tx = .ready) (atReceiving : system.tx.phase = .receiving) :
    Settled ⟨system, .tx .received, { system with
      tx := { system.tx with
        phase := .reply
        ctsNotifierTid := system.rendezvous.source .tx } }⟩ credits 0 := by
  rcases handshake.at_received ready atReceiving with ⟨rfl, source, cts, isTx, pair⟩
  refine ⟨.arrived ⟨rfl, source⟩ ⟨cts, isTx⟩ pair, ?_, ?_, ?_⟩
  · simp [tally, FlowTransition.sendsCredit, FlowTransition.receivesCredit, source]
  · simp [tally, FlowTransition.receivesCredit, FlowTransition.writesByte, FlowControl.stores,
      FlowControl.holding, source, atReceiving]
  · simp [tally, FlowTransition.sendsCredit, FlowTransition.findsClear, FlowControl.allowance]

theorem Handshake.written (handshake : Handshake system credits)
    (ready : system.rendezvous.status .tx = .ready) (atWrite : system.tx.phase = .write) :
    Settled ⟨system, .tx .write, { system with
      tx := { system.tx with i := system.tx.i + 1 }.next }⟩ credits credits := by
  have wasFree : system.tx.phase.free := by rw [atWrite]; rfl
  refine ⟨handshake.txMoves ready wasFree (TxMain.next_free _), ?_, ?_, ?_⟩
  · simp [tally, FlowTransition.sendsCredit, FlowTransition.receivesCredit]
  · have used : FlowControl.holding { system with
        tx := { system.tx with i := system.tx.i + 1 }.next } = 0 :=
      holding_of_free (TxMain.next_free _) (TxMain.next_ne_write _)
    rw [used]
    have dataRegister : wordAt uart1Base uartDataOffset = reg uart1Base uartDataOffset := by decide
    simp [tally, FlowTransition.receivesCredit, FlowTransition.writesByte, FlowControl.stores,
      FlowControl.holding, atWrite, dataRegister]
  · simp [tally, FlowTransition.sendsCredit, FlowTransition.findsClear, FlowControl.allowance]

theorem Handshake.txStep {event : TxEvent} (handshake : Handshake system credits)
    (ready : system.rendezvous.status .tx = .ready) (taken : system.txStep event = some after) :
    ∃ credits', Settled ⟨system, .tx event, after⟩ credits credits' := by
  cases event with
  | comNum res =>
      simp only [FlowControl.txStep, Option.ite_none_right_eq_some, Option.some.injEq] at taken
      rcases taken with ⟨⟨atStart, -⟩, rfl⟩
      refine ⟨credits, .ofTx (handshake.comNum atStart res) rfl rfl ?_ rfl⟩
      simp only [FlowControl.holding, atStart]
  | create created =>
      simp only [FlowControl.txStep, Option.ite_none_right_eq_some, Option.some.injEq] at taken
      rcases taken with ⟨atCreate, rfl⟩
      exact ⟨credits, handshake.created atCreate created⟩
  | greet =>
      simp only [FlowControl.txStep, Option.ite_none_right_eq_some] at taken
      rcases taken with ⟨atGreet, taken⟩
      cases peer : system.tx.ctsNotifierTid with
      | none =>
          simp only [peer, Option.some.injEq] at taken
          rcases taken with rfl
          refine ⟨credits, .ofTx (handshake.greetsNobody atGreet peer) rfl rfl ?_ rfl⟩
          simp only [FlowControl.holding, FlowControl.txAt, atGreet]
      | some receiver =>
          simp only [peer, Option.some.injEq] at taken
          rcases taken with rfl
          refine ⟨credits, .ofTx (handshake.greets atGreet peer) rfl rfl ?_ rfl⟩
          simp only [FlowControl.holding, FlowControl.txAt, atGreet]
  | greeted =>
      simp only [FlowControl.txStep, Option.ite_none_right_eq_some, Option.some.injEq] at taken
      rcases taken with ⟨atGreeting, rfl⟩
      exact ⟨credits, handshake.txIdles ready atGreeting (by decide) rfl (by simp)
        (fun _ => rfl) fun _ => rfl⟩
  | whoIs =>
      simp only [FlowControl.txStep, Option.ite_none_right_eq_some, Option.some.injEq] at taken
      rcases taken with ⟨atWhoIs, rfl⟩
      exact ⟨credits, handshake.txIdles ready atWhoIs (by decide) (TxMain.next_free _)
        (TxMain.next_ne_write _) (fun _ => rfl) fun _ => rfl⟩
  | awaitEvent res =>
      simp only [FlowControl.txStep, Option.ite_none_right_eq_some, Option.some.injEq] at taken
      rcases taken with ⟨atAwait, rfl⟩
      exact ⟨credits, handshake.txIdles ready atAwait (by decide) rfl (by simp)
        (fun _ => rfl) fun _ => rfl⟩
  | receive =>
      simp only [FlowControl.txStep, Option.ite_none_right_eq_some, Option.some.injEq] at taken
      rcases taken with ⟨atReceive, rfl⟩
      refine ⟨credits, .ofTx (handshake.txReceives atReceive) rfl rfl ?_ rfl⟩
      simp only [FlowControl.holding, FlowControl.txAt, atReceive]
  | received =>
      simp only [FlowControl.txStep, Option.ite_none_right_eq_some, Option.some.injEq] at taken
      rcases taken with ⟨atReceiving, rfl⟩
      exact ⟨0, handshake.received ready atReceiving⟩
  | reply =>
      simp only [FlowControl.txStep, Option.ite_none_right_eq_some, Option.some.injEq] at taken
      rcases taken with ⟨atReply, rfl⟩
      refine ⟨credits, .ofTx (handshake.txReplies atReply) rfl rfl ?_ rfl⟩
      simp only [FlowControl.holding, FlowControl.txAt, atReply]
  | write =>
      simp only [FlowControl.txStep, Option.ite_none_right_eq_some, Option.some.injEq] at taken
      rcases taken with ⟨⟨atWrite, -, -⟩, rfl⟩
      exact ⟨credits, handshake.written ready atWrite⟩
  | request res rep =>
      simp only [FlowControl.txStep, Option.ite_none_right_eq_some] at taken
      rcases taken with ⟨⟨atRequest, -⟩, taken⟩
      split_ifs at taken with isExit
      · rcases Option.some.inj taken with rfl
        exact ⟨credits, handshake.txIdles ready atRequest (by decide) rfl (by simp)
          (fun _ => rfl) fun _ => rfl⟩
      · rcases Option.some.inj taken with rfl
        exact ⟨credits, handshake.txIdles ready atRequest (by decide) (TxMain.next_free _)
          (TxMain.next_ne_write _) (fun _ => rfl) fun _ => rfl⟩

theorem Handshake.sends (handshake : Handshake system credits)
    (ready : system.rendezvous.status .cts = .ready) (atSend : system.cts.phase = .send) :
    Settled ⟨system, .cts .send, { system.ctsAt .sending with
      rendezvous := system.rendezvous.send .cts .tx }⟩ credits 1 := by
  rcases handshake.ctsSends ready atSend with ⟨rfl, isTx, sent⟩
  refine ⟨sent, ?_, ?_, ?_⟩
  · simp [tally, FlowTransition.sendsCredit, FlowTransition.receivesCredit, isTx]
  · simp [tally, FlowTransition.receivesCredit, FlowTransition.writesByte, FlowControl.stores,
      FlowControl.holding, FlowControl.ctsAt]
  · simp [tally, FlowTransition.sendsCredit, FlowTransition.findsClear, FlowControl.allowance,
      FlowControl.ctsAt, isTx, atSend]

/-- `AwaitEvent` returns to the CTS notifier, which has earned a credit or waits again. -/
theorem Handshake.earns (handshake : Handshake system credits)
    (ready : system.rendezvous.status .cts = .ready) (atAwait : system.cts.phase = .awaitEvent)
    (res : ℤ) (uart : Addr → Word) :
    Settled ⟨system, .cts (.awaitEvent res uart),
      system.ctsAt (if FlowControl.testsClear uart then .delayUntil else .time)⟩
      credits credits := by
  have wasLooping : system.cts.phase.looping := by rw [atAwait]; rfl
  refine ⟨handshake.ctsMoves ready wasLooping ?_ rfl, ?_, ?_, ?_⟩
  · split_ifs <;> rfl
  · simp [tally, FlowTransition.sendsCredit, FlowTransition.receivesCredit]
  · simp [tally, FlowTransition.receivesCredit, FlowTransition.writesByte, FlowControl.stores,
      FlowControl.holding, FlowControl.ctsAt]
  · cases clear : FlowControl.testsClear uart <;>
      simp [tally, FlowTransition.sendsCredit, FlowTransition.findsClear, FlowControl.allowance,
        FlowControl.ctsAt, clear, atAwait]

theorem Handshake.ctsStep {event : CtsEvent} (handshake : Handshake system credits)
    (ready : system.rendezvous.status .cts = .ready) (taken : system.ctsStep event = some after) :
    ∃ credits', Settled ⟨system, .cts event, after⟩ credits credits' := by
  cases event with
  | whoIs =>
      simp only [FlowControl.ctsStep, Option.ite_none_right_eq_some, Option.some.injEq] at taken
      rcases taken with ⟨atWhoIs, rfl⟩
      refine ⟨credits, .ofCts (handshake.ctsWhoIs atWhoIs) rfl rfl rfl ?_⟩
      simp only [FlowControl.allowance, FlowControl.ctsAt, atWhoIs]
  | receive =>
      simp only [FlowControl.ctsStep, Option.ite_none_right_eq_some, Option.some.injEq] at taken
      rcases taken with ⟨atReceive, rfl⟩
      refine ⟨credits, .ofCts (handshake.ctsReceives atReceive) rfl rfl rfl ?_⟩
      simp only [FlowControl.allowance, FlowControl.ctsAt, atReceive]
  | received =>
      simp only [FlowControl.ctsStep, Option.ite_none_right_eq_some, Option.some.injEq] at taken
      rcases taken with ⟨atReceiving, rfl⟩
      refine ⟨credits, .ofCts (handshake.ctsReceived ready atReceiving) rfl rfl rfl ?_⟩
      simp only [FlowControl.allowance, atReceiving]
  | reply =>
      simp only [FlowControl.ctsStep, Option.ite_none_right_eq_some, Option.some.injEq] at taken
      rcases taken with ⟨atReply, rfl⟩
      refine ⟨credits, .ofCts (handshake.ctsReplies atReply) rfl rfl rfl ?_⟩
      simp only [FlowControl.allowance, FlowControl.ctsAt, atReply]
  | send =>
      simp only [FlowControl.ctsStep, Option.ite_none_right_eq_some] at taken
      rcases taken with ⟨atSend, taken⟩
      have isTx := (handshake.ctsSends ready atSend).2.1
      simp only [isTx, Option.some.injEq] at taken
      rcases taken with rfl
      exact ⟨1, handshake.sends ready atSend⟩
  | sent =>
      simp only [FlowControl.ctsStep, Option.ite_none_right_eq_some, Option.some.injEq] at taken
      rcases taken with ⟨atSending, rfl⟩
      have wasLooping : system.cts.phase.looping := by rw [atSending]; rfl
      refine ⟨credits, .ofCts (handshake.ctsMoves ready wasLooping rfl rfl) rfl rfl rfl ?_⟩
      simp only [FlowControl.allowance, FlowControl.ctsAt, atSending]
  | time curTime =>
      simp only [FlowControl.ctsStep, Option.ite_none_right_eq_some, Option.some.injEq] at taken
      rcases taken with ⟨atTime, rfl⟩
      have wasLooping : system.cts.phase.looping := by rw [atTime]; rfl
      refine ⟨credits, .ofCts (handshake.ctsMoves ready wasLooping rfl rfl) rfl rfl rfl ?_⟩
      simp only [FlowControl.allowance, atTime]
  | awaitEvent res uart =>
      simp only [FlowControl.ctsStep, Option.ite_none_right_eq_some, Option.some.injEq] at taken
      rcases taken with ⟨⟨atAwait, -⟩, rfl⟩
      exact ⟨credits, handshake.earns ready atAwait res uart⟩
  | delayUntil time =>
      simp only [FlowControl.ctsStep, Option.ite_none_right_eq_some, Option.some.injEq] at taken
      rcases taken with ⟨⟨atDelay, -⟩, rfl⟩
      have wasLooping : system.cts.phase.looping := by rw [atDelay]; rfl
      refine ⟨credits, .ofCts (handshake.ctsMoves ready wasLooping rfl rfl) rfl rfl rfl ?_⟩
      simp only [FlowControl.allowance, FlowControl.ctsAt, atDelay]

theorem Handshake.step {event : FlowEvent} (handshake : Handshake system credits)
    (taken : system.step event = some after) :
    ∃ credits', Settled ⟨system, event, after⟩ credits credits' := by
  cases event with
  | tx event =>
      simp only [FlowControl.step, Option.ite_none_right_eq_some] at taken
      exact handshake.txStep taken.1 taken.2
  | cts event =>
      simp only [FlowControl.step, Option.ite_none_right_eq_some] at taken
      exact handshake.ctsStep taken.1 taken.2

end Steps

open FlowTransition in
/-- The accounts of a run. -/
theorem Handshake.run {system final : FlowControl} {credits : ℕ} {trace : List FlowTransition}
    (handshake : Handshake system credits) (run : Run FlowControl.step system trace final) :
    ∃ credits', Handshake final credits' ∧
      credits + trace.countP sendsCredit = trace.countP receivesCredit + credits' ∧
      system.holding + trace.countP receivesCredit =
        trace.countP writesByte + final.holding ∧
      system.allowance + trace.countP findsClear =
        trace.countP sendsCredit + final.allowance := by
  induction run generalizing credits with
  | nil system => exact ⟨credits, handshake, by simp, by simp, by simp⟩
  | cons first rest ih =>
      rcases handshake.step first with ⟨middleCredits, settled⟩
      rcases ih settled.handshake with ⟨credits', atEnd, outstanding, holding, allowance⟩
      have firstOutstanding := settled.outstanding
      have firstHolding := settled.holding
      have firstAllowance := settled.allowance
      simp only [tally] at firstOutstanding firstHolding firstAllowance
      simp only [List.countP_cons]
      refine ⟨credits', atEnd, ?_, ?_, ?_⟩
      · omega
      · omega
      · omega

section Runs

variable {trace : List FlowTransition} {final : FlowControl}

/-- One credit is outstanding at most. -/
theorem Handshake.atMostOne {system : FlowControl} {credits : ℕ}
    (handshake : Handshake system credits) : credits ≤ 1 := by
  cases handshake <;> omega

open FlowTransition in
/-- The accounts of a run from the start. Its credits are earned by what the CTS notifier finds
clear. -/
theorem run_credits (run : Run FlowControl.step .start trace final) :
    trace.countP writesByte ≤ trace.countP receivesCredit ∧
      trace.countP receivesCredit ≤ trace.countP sendsCredit ∧
      trace.countP sendsCredit ≤ trace.countP receivesCredit + 1 ∧
      trace.countP sendsCredit ≤ 1 + trace.countP findsClear := by
  rcases handshake_start.run run with ⟨credits, handshake, outstanding, holding, allowance⟩
  have atMostOne := handshake.atMostOne
  have nothingHeld : FlowControl.start.holding = 0 := rfl
  have firstFree : FlowControl.start.allowance = 1 := rfl
  rw [nothingHeld] at holding
  rw [firstFree] at allowance
  refine ⟨?_, ?_, ?_, ?_⟩ <;> omega

open FlowTransition in
theorem countP_findsClear_le (genuine : ∀ transition ∈ trace, Genuine transition) :
    trace.countP findsClear ≤ trace.countP returnsClear :=
  List.countP_mono_left genuine

/-- If what the CTS notifier finds clear is the CTS bit, then every byte has a credit of its own,
and every credit but the first a return of `AwaitEvent` at which the bit was clear. -/
theorem run_flowControlled (run : Run FlowControl.step .start trace final)
    (genuine : ∀ transition ∈ trace, FlowTransition.Genuine transition) :
    FlowControlled trace := by
  rintro front ⟨back, rfl⟩
  rcases run.split with ⟨middle, before, -⟩
  rcases run_credits before with ⟨spent, delivered, outstanding, found⟩
  have clear : front.countP FlowTransition.findsClear ≤
      front.countP FlowTransition.returnsClear := by
    apply countP_findsClear_le
    intro transition transitionMem
    exact genuine transition (List.mem_append_left back transitionMem)
  have earned : front.countP FlowTransition.sendsCredit ≤
      1 + front.countP FlowTransition.returnsClear := by omega
  exact ⟨spent, delivered, outstanding, earned, by omega⟩

end Runs

namespace FlowControl

/-- Two bytes from the IO server; `uart` is read between them. -/
def twoBytes (uart : Addr → Word) : List FlowEvent :=
  [.tx (.comNum 0), .tx (.create true), .tx .greet, .cts .whoIs, .cts .receive, .cts .received,
    .cts .reply, .tx .greeted, .tx .whoIs, .tx (.request 0 ⟨.notifTx, fun _ => 0x61, 2⟩),
    .cts .send,
    .tx (.awaitEvent 0), .tx .receive, .tx .received, .tx .reply, .tx .write,
    .cts .sent, .cts (.time 5), .cts (.awaitEvent 1 uart), .cts (.delayUntil 6), .cts .send,
    .tx (.awaitEvent 0), .tx .receive, .tx .received, .tx .reply, .tx .write]

end FlowControl

theorem run_flowControlled_twoBytes :
    FlowControlled (traceOf FlowControl.step .start (FlowControl.twoBytes fun _ => 0)) ∧
      (traceOf FlowControl.step .start (FlowControl.twoBytes fun _ => 0)).countP
        FlowTransition.writesByte = 2 :=
  ⟨run_flowControlled (Run.of_isSome (by decide +kernel)) (by decide +kernel), by decide +kernel⟩

/-- The CTS bit of the flag register is set, and the word at an offset of 0x18 words is 0. -/
def FlowControl.notClear : Addr → Word :=
  fun addr => if addr = reg uart1Base uartFlagOffset then ctsMask else 0

/-- The second byte is written although the CTS bit was never clear. -/
theorem flow_not_controlled : ¬∀ (trace : List FlowTransition) (final : FlowControl),
    Run FlowControl.step .start trace final → FlowControlled trace := by
  intro controlled
  let trace := traceOf FlowControl.step .start (FlowControl.twoBytes FlowControl.notClear)
  let final := finalOf FlowControl.step .start (FlowControl.twoBytes FlowControl.notClear)
  have run : Run FlowControl.step .start trace final := Run.of_isSome (by decide +kernel)
  have bounded := (controlled trace final run trace List.prefix_rfl).bounded
  have written : trace.countP FlowTransition.writesByte = 2 := by decide +kernel
  have neverClear : trace.countP FlowTransition.returnsClear = 0 := by decide +kernel
  omega

end ArmKernel
