import ArmKernel.IoServer.Input

/-!
# The end of the IO server

After EXIT the server waits for a message of each of its notifiers, and answers it with
EXIT. A TX notifier that was ready when EXIT came has sent its message already, and is
never answered; then the server waits for ever. If both notifiers are told to exit, the
server exits too, but the task that called `io_server_exit` is not answered either.
-/

namespace ArmKernel

open PartialMachine

/-- The server waits for its notifiers, and one of them waits for the server. -/
def Stuck (system : IoSystem) : Prop :=
  (∃ notifierExitCount < 2, system.server.phase = .exiting notifierExitCount) ∧
    (system.tx = .blocked ∨ system.rx = .blocked)

/-- The server is not stuck, and when it has exited the task that told it to is answered. -/
def ShutsDown (exiter : Tid) (system : IoSystem) : Prop :=
  ¬Stuck system ∧ (system.server.phase = .exited → system.pending exiter = none)

/-- The server receives a message of a notifier. -/
def isNotification (transition : IoTransition) : Bool :=
  match transition.input with
  | .rx _ | .tx _ => true
  | _ => false

/-- The phase after a number of messages of notifiers. -/
def exitPhase (notifierExitCount : ℕ) : IoServerPhase :=
  if notifierExitCount < 2 then .exiting notifierExitCount else .exited

/-- After EXIT: a number of notifiers was told to exit, the others do not wait for the server
unless the TX notifier did so from the start, and the exiter is not answered. -/
structure Exiting (exiter : Tid) (parked : Bool) (count : ℕ) (system : IoSystem) : Prop where
  phase : system.server.phase = exitPhase count
  tids_ne : system.server.txNotifierTid ≠ system.server.rxNotifierTid
  tx : system.tx = .blocked ↔ parked = true
  rx : system.rx ≠ .blocked
  isClient : ¬system.IsNotifier exiter
  waits : (system.pending exiter).isSome

section Steps

variable {before after : IoSystem} {exiter : Tid} {parked : Bool} {count : ℕ} {event : IoEvent}

theorem receive_exiting {server : IoServer} (phase : server.phase = exitPhase count)
    (sender : Tid) (msg : IoServerMsg) : server.receive sender msg =
      if count < 2 then some (server.exitNotifier count sender msg) else none := by
  rw [IoServer.receive, phase, exitPhase]
  split_ifs <;> rfl

theorem exitNotifier_notification {server : IoServer} {sender : Tid} {msg : IoServerMsg}
    (notifies : msg.type = .notifRx ∨ msg.type = .notifTx) :
    server.exitNotifier count sender msg =
      ({ server with phase := exitPhase (count + 1) }, [⟨sender, { msg with type := .exit }⟩]) := by
  rcases notifies with isRx | isTx
  · simp [IoServer.exitNotifier, isRx, exitPhase]
  · simp [IoServer.exitNotifier, isTx, exitPhase]

theorem Exiting.client (exiting : Exiting exiter parked count before) {sender : Tid}
    {msg : IoServerMsg} (stepped : before.step (.client sender msg) = some after) :
    Exiting exiter parked count after := by
  rcases Option.map_eq_some_iff.mp stepped with ⟨⟨after, replies⟩, done, rfl⟩
  rw [IoSystem.stepReplies] at done
  split_ifs at done with guards
  simp only [not_or, Option.not_isSome_iff_eq_none] at guards
  rcases guards with ⟨isClient, notRx, notTx, free⟩
  have exiterNe : exiter ≠ sender := by
    rintro rfl
    simpa [free] using exiting.waits
  have dropped : before.server.exitNotifier count sender msg = (before.server, []) := by
    rw [IoServer.exitNotifier]
    split
    · contradiction
    · contradiction
    · rfl
  rw [IoSystem.receive, receive_exiting exiting.phase, dropped] at done
  split_ifs at done with inLoop
  · simp only [Option.bind_eq_bind, Option.bind_some, List.foldl_nil, Option.some.injEq,
      Prod.mk.injEq] at done
    rcases done with ⟨rfl, rfl⟩
    exact ⟨exiting.phase, exiting.tids_ne, exiting.tx, exiting.rx, exiting.isClient,
      by simpa [exiterNe] using exiting.waits⟩
  · cases done

theorem Exiting.notifRx (exiting : Exiting exiter parked count before) {data : ℕ → Byte}
    (stepped : before.step (.rx data) = some after) : Exiting exiter parked (count + 1) after := by
  rcases Option.map_eq_some_iff.mp stepped with ⟨⟨after, replies⟩, done, rfl⟩
  rw [IoSystem.stepReplies] at done
  split at done
  · rw [IoSystem.receive, receive_exiting exiting.phase,
      exitNotifier_notification (.inl rfl)] at done
    split_ifs at done with inLoop
    · simp only [Option.bind_eq_bind, Option.bind_some, List.foldl_cons, List.foldl_nil,
        IoSystem.deliver, if_neg exiting.tids_ne.symm, if_true, Option.some.injEq,
        Prod.mk.injEq] at done
      rcases done with ⟨rfl, rfl⟩
      have notBlocked : RxNotifier.exited ≠ .blocked := by decide
      exact ⟨rfl, exiting.tids_ne, exiting.tx, notBlocked, exiting.isClient, exiting.waits⟩
    · cases done
  · cases done

theorem Exiting.notifTx (exiting : Exiting exiter parked count before) {data : ℕ → Byte}
    (stepped : before.step (.tx data) = some after) : Exiting exiter parked (count + 1) after := by
  rcases Option.map_eq_some_iff.mp stepped with ⟨⟨after, replies⟩, done, rfl⟩
  rw [IoSystem.stepReplies] at done
  split at done
  · rename_i rep i transmits
    split_ifs at done with busy
    rw [IoSystem.receive, receive_exiting exiting.phase,
      exitNotifier_notification (.inr rfl)] at done
    split_ifs at done with inLoop
    · simp only [Option.bind_eq_bind, Option.bind_some, List.foldl_cons, List.foldl_nil,
        IoSystem.deliver, if_true, Option.some.injEq, Prod.mk.injEq] at done
      rcases done with ⟨rfl, rfl⟩
      have notParked : ¬parked = true := by
        rw [← exiting.tx, transmits]
        intro same
        cases same
      exact ⟨rfl, exiting.tids_ne, by simp [notParked], exiting.rx, exiting.isClient,
        exiting.waits⟩
    · cases done
  · cases done

theorem Exiting.store (exiting : Exiting exiter parked count before)
    (stepped : before.step .store = some after) : Exiting exiter parked count after := by
  rcases Option.map_eq_some_iff.mp stepped with ⟨⟨after, replies⟩, done, rfl⟩
  rw [IoSystem.stepReplies] at done
  split at done
  · rename_i rep i transmits
    split_ifs at done with more
    rcases Prod.mk.inj (Option.some.inj done) with ⟨rfl, rfl⟩
    have notParked : ¬parked = true := by
      rw [← exiting.tx, transmits]
      intro same
      cases same
    exact ⟨exiting.phase, exiting.tids_ne, by simp [notParked], exiting.rx, exiting.isClient,
      exiting.waits⟩
  · cases done

theorem Exiting.step (exiting : Exiting exiter parked count before)
    (stepped : before.step event = some after) :
    Exiting exiter parked (count + (isNotification ⟨before, event, after⟩).toNat) after := by
  cases event with
  | client sender msg => exact exiting.client stepped
  | rx data => exact exiting.notifRx stepped
  | tx data => exact exiting.notifTx stepped
  | store => exact exiting.store stepped

/-- The server shuts down as it should while it has not exited, if the TX notifier did not
wait when EXIT came. -/
theorem Exiting.shutsDown_iff (exiting : Exiting exiter parked count before) :
    ShutsDown exiter before ↔ parked = false ∧ count < 2 := by
  have waits : before.pending exiter ≠ none := Option.isSome_iff_ne_none.mp exiting.waits
  rw [ShutsDown, Stuck, exiting.phase, exitPhase, exiting.tx]
  split_ifs with inLoop
  · constructor
    · rintro ⟨notStuck, -⟩
      refine ⟨?_, inLoop⟩
      by_contra isParked
      exact notStuck ⟨⟨count, inLoop, rfl⟩, .inl (eq_true_of_ne_false isParked)⟩
    · rintro ⟨notParked, -⟩
      refine ⟨?_, False.elim⟩
      rintro ⟨-, isParked | rxBlocked⟩
      · rw [notParked] at isParked
        cases isParked
      · exact exiting.rx rxBlocked
  · refine iff_of_false ?_ fun both => inLoop both.2
    rintro ⟨-, answered⟩
    exact waits (answered rfl)

end Steps

section Runs

variable {start before after final : IoSystem} {exiter : Tid} {parked : Bool} {count : ℕ}
  {trace later : List IoTransition}

/-- In every run after EXIT the server shuts down as it should exactly if the TX notifier did
not wait and fewer than two notifiers are told to exit. -/
theorem Exiting.run_ends_iff (exiting : Exiting exiter parked count after)
    (run : Run IoSystem.step after later final) :
    (ShutsDown exiter after ∧ ∀ transition ∈ later, ShutsDown exiter transition.after) ↔
      parked = false ∧ count + later.countP isNotification < 2 := by
  induction run generalizing count with
  | nil => simp [exiting.shutsDown_iff]
  | cons first rest ih =>
      rw [List.forall_mem_cons, ih (exiting.step first), exiting.shutsDown_iff, List.countP_cons]
      simp only [Bool.toNat, Bool.cond_eq_ite]
      constructor
      · rintro ⟨-, notParked, few⟩
        exact ⟨notParked, by omega⟩
      · rintro ⟨notParked, few⟩
        exact ⟨⟨notParked, by omega⟩, notParked, by omega⟩

theorem Serving.exit (serving : Serving before) {msg : IoServerMsg} (isExit : msg.type = .exit)
    (stepped : before.step (.client exiter msg) = some after) :
    Exiting exiter before.server.txReady 0 after := by
  rcases Option.map_eq_some_iff.mp stepped with ⟨⟨after, replies⟩, done, rfl⟩
  rw [IoSystem.stepReplies] at done
  split_ifs at done with guards
  have isClient : ¬before.IsNotifier exiter := (not_or.mp guards).1
  simp only [IoSystem.receive, IoServer.receive, serving.phase, isExit, Option.bind_eq_bind,
    Option.bind_some, List.foldl_nil, Option.some.injEq, Prod.mk.injEq] at done
  rcases done with ⟨rfl, rfl⟩
  refine ⟨rfl, serving.tids_ne, serving.ready_iff.symm, ?_, isClient, by simp⟩
  rw [serving.rx]
  intro same
  cases same

/--
In every state of the main loop in which EXIT is received, and every run from there: the
server is never stuck, and the task that told it to exit is answered when it has exited,
exactly if the TX notifier was not ready when EXIT came and the run does not go so far that
two notifiers are told to exit.
-/
theorem run_shutsDown_iff {tx rx : Tid} {inBuf outBuf : ℕ → Byte} {rep msg : IoServerMsg}
    (tidsNe : tx ≠ rx)
    (run : Run IoSystem.step (IoSystem.start tx rx inBuf outBuf rep) trace before)
    (noExit : ∀ transition ∈ trace, transition.input.isExit = false) (isExit : msg.type = .exit)
    (exits : before.step (.client exiter msg) = some after)
    (shutdown : Run IoSystem.step after later final) :
    (ShutsDown exiter after ∧ ∀ transition ∈ later, ShutsDown exiter transition.after) ↔
      before.server.txReady = false ∧ later.countP isNotification < 2 := by
  have initially := serving_start tidsNe inBuf outBuf rep
  have serving := run.invariant serving_preserved noExit initially
  rw [(serving.exit isExit exits).run_ends_iff shutdown, Nat.zero_add]

end Runs

/-- The request that the server shut down. -/
def exitRequest : IoServerMsg := { type := .exit, data := fun _ => 0, len := 0 }

/-- The system after an event. -/
def IoSystem.next (system : IoSystem) (event : IoEvent) : IoSystem :=
  (system.step event).getD system

theorem IoSystem.step_next {system : IoSystem} {event : IoEvent}
    (goesOn : (system.step event).isSome) : system.step event = some (system.next event) := by
  rw [next, Option.getD_of_ne_none (Option.isSome_iff_ne_none.mp goesOn)]

/-- EXIT comes first, and then the message of the RX notifier. -/
theorem run_shutsDown_iff_rx :
    ShutsDown 5 ((zeroedIo.next (.client 5 exitRequest)).next (.rx fun _ => 0x61)) := by
  have tidsNe : (2 : Tid) ≠ 3 := by decide
  have shutdown : Run IoSystem.step (zeroedIo.next (.client 5 exitRequest)) [_]
      ((zeroedIo.next (.client 5 exitRequest)).next (.rx fun _ => 0x61)) :=
    .cons (IoSystem.step_next (by decide +kernel)) (.nil _)
  have shutsDown := (run_shutsDown_iff tidsNe (.nil zeroedIo) (by simp) rfl
    (IoSystem.step_next (by decide +kernel)) shutdown).mpr ⟨rfl, by decide⟩
  exact shutsDown.2 _ (List.mem_singleton_self _)

/-- The TX notifier waits when EXIT comes: it is never told to exit. -/
theorem shutdown_stuck : ¬∀ (tx rx exiter : Tid) (inBuf outBuf : ℕ → Byte)
    (rep msg : IoServerMsg) (before after final : IoSystem) (trace later : List IoTransition),
    tx ≠ rx → Run IoSystem.step (IoSystem.start tx rx inBuf outBuf rep) trace before →
    (∀ transition ∈ trace, transition.input.isExit = false) → msg.type = .exit →
    before.step (.client exiter msg) = some after →
    Run IoSystem.step after later final →
    ShutsDown exiter after ∧ ∀ transition ∈ later, ShutsDown exiter transition.after := by
  intro claimed
  have tidsNe : (2 : Tid) ≠ 3 := by decide
  have run : Run IoSystem.step zeroedIo [_] (zeroedIo.next (.tx fun _ => 0)) :=
    .cons (IoSystem.step_next (by decide +kernel)) (.nil _)
  have exits : (zeroedIo.next (.tx fun _ => 0)).step (.client 5 exitRequest) = some _ :=
    IoSystem.step_next (by decide +kernel)
  have shutsDown := claimed 2 3 5 _ _ _ exitRequest _ _ _ _ _ tidsNe run (by decide) rfl exits
    (.nil _)
  exact shutsDown.1.1 ⟨⟨0, by decide, by decide +kernel⟩, .inl rfl⟩

end ArmKernel
