import ArmKernel.NameServer.NameMap

/-!
# The name service

What the name server answers follows from the registrations that it has received. A search
finds the task that registered the name last, where two names are the same if their first
12 characters are; this holds in every run, since a registration changes what a search for
its own name finds and nothing else.

The map has room for 256 registrations. One more has no result: the address of its node
lies behind the array.
-/

namespace ArmKernel

open PartialMachine

/-- Equal after truncation to 12 characters. -/
def SameName (left right : CString) : Prop :=
  left.value.take nameServerMaxNameLen = right.value.take nameServerMaxNameLen

theorem nameKey_eq_iff {left right : CString} :
    nameKey left.chars = nameKey right.chars ↔ SameName left right := by
  rw [nameKey, nameKey, CString.text_eq, CString.text_eq, SameName]

theorem nameKey_msg (ctx : NameServerMsg) (type : NameServerMsgType) (name : CString) :
    nameKey (nameServerMsgInit ctx type name).name = nameKey name.chars := nameKey_strncpy _ _

namespace NameEvent

/-- A call of `RegisterAs` or `WhoIs`. -/
def IsRequest : NameEvent → Prop
  | .registerAs _ _ _ | .whoIs _ _ _ => True
  | _ => False

/-- The task that waits for a reply to the event. -/
def sender? : NameEvent → Option Tid
  | .registerAs sender _ _ | .whoIs sender _ _ | .nameServerExit sender _ => some sender
  | .receiveFails => none

/-- The registration that the event asks for. -/
def registrations : NameEvent → List (List Byte × Tid)
  | .registerAs sender _ name => [(nameKey name.chars, sender)]
  | _ => []

end NameEvent

namespace NameTransition

/-- The task registers the name, or one that is equal to it. -/
def Registers (name : CString) (tid : Tid) (transition : NameTransition) : Prop :=
  ∃ msg other, transition.input = .registerAs tid msg other ∧ SameName other name

/-- Some task does. -/
def RegistersAny (name : CString) (transition : NameTransition) : Prop :=
  ∃ tid, transition.Registers name tid

end NameTransition

/-- The registrations that the server has received. -/
def registrationsOf (trace : List NameTransition) : List (List Byte × Tid) :=
  trace.flatMap fun transition => transition.input.registrations

section Steps

variable {server after : NameServer} {event : NameEvent} {sender : Tid} {msg : NameServerMsg}
  {name : CString} {registered : List (List Byte × Tid)}

theorem stepReplies_registerAs (running : server.running = true)
    (holds : server.nm.Holds registered) (isLeft : registered.length < nameServerMaxNames) :
    ∃ after, server.stepReplies (.registerAs sender msg name) = some (after, [⟨sender, .rep 0⟩]) ∧
      after.running = true ∧ after.nm.Holds ((nameKey name.chars, sender) :: registered) := by
  rcases holds.insert isLeft (nameServerMsgInit msg .reg name).name sender with
    ⟨nm, inserted, holds'⟩
  rw [nameKey_msg] at holds'
  let after : NameServer :=
    { nm := nm, msg := nameServerMsgInit msg .reg name, senderTid := sender, running := true }
  refine ⟨after, ?_, rfl, holds'⟩
  simp only [nameServerMsgInit] at inserted
  simp only [NameServer.stepReplies, running, if_true, NameServer.receive, nameServerMsgInit,
    inserted, Option.bind_eq_bind, Option.bind_some]
  rfl

theorem stepReplies_registerAs_full (holds : server.nm.Holds registered)
    (isFull : registered.length = nameServerMaxNames) :
    server.stepReplies (.registerAs sender msg name) = none := by
  have noNode := holds.insert_full isFull (nameServerMsgInit msg .reg name).name sender
  simp only [nameServerMsgInit] at noNode
  simp only [NameServer.stepReplies, NameServer.receive, nameServerMsgInit, noNode,
    Option.bind_eq_bind, Option.bind_none, ite_self]

/-- The answer to a search. -/
def answer (found : Option Tid) : ℤ :=
  match found with
  | none => 1
  | some tid => tid.toNat

theorem stepReplies_whoIs (running : server.running = true)
    (holds : server.nm.Holds registered) :
    ∃ after, server.stepReplies (.whoIs sender msg name) =
        some (after, [⟨sender, .rep (answer (server.nm.tidOf name.chars))⟩]) ∧
      after.running = true ∧ after.nm = server.nm := by
  rcases holds.find (nameServerMsgInit msg .who name).name with ⟨entry, found, tid⟩
  rw [nameKey_msg, ← holds.tidOf] at tid
  refine ⟨{ server with senderTid := sender, msg := nameServerMsgInit msg .who name }, ?_,
    running, rfl⟩
  simp only [nameServerMsgInit] at found
  simp only [NameServer.stepReplies, running, if_true, NameServer.receive, nameServerMsgInit,
    found, Option.bind_eq_bind, Option.bind_some, ← tid]
  cases entry <;> rfl

/-- The map after a step holds the registration of the event on top of the earlier ones. -/
theorem step_holds (taken : server.step event = some after)
    (holds : server.nm.Holds registered) :
    after.nm.Holds (event.registrations ++ registered) := by
  rcases Option.map_eq_some_iff.mp taken with ⟨⟨_, replies⟩, result, rfl⟩
  have running : server.running = true := by
    by_contra stopped
    rw [NameServer.stepReplies.eq_def, if_neg stopped] at result
    cases result
  cases event with
  | registerAs sender msg name =>
      rcases Nat.lt_or_eq_of_le holds.few with isLeft | isFull
      · rcases @stepReplies_registerAs _ sender msg name _ running holds isLeft with
          ⟨after, spec, -, holds'⟩
        rw [spec, Option.some.injEq, Prod.mk.injEq] at result
        rcases result with ⟨rfl, -⟩
        exact holds'
      · rw [stepReplies_registerAs_full holds isFull] at result
        cases result
  | whoIs sender msg name =>
      rcases @stepReplies_whoIs _ sender msg name _ running holds with ⟨after, spec, -, sameMap⟩
      rw [spec, Option.some.injEq, Prod.mk.injEq] at result
      rcases result with ⟨rfl, -⟩
      rw [sameMap]
      exact holds
  | nameServerExit sender msg =>
      simp only [NameServer.stepReplies, running, if_true, NameServer.receive, NameServer.loopEnd,
        ne_eq, not_true_eq_false, if_false, Option.some.injEq, Prod.mk.injEq] at result
      rcases result with ⟨rfl, -⟩
      exact holds
  | receiveFails =>
      simp only [NameServer.stepReplies, running, if_true, NameServer.loopEnd,
        Option.some.injEq] at result
      split_ifs at result with goesOn
      · rcases Prod.mk.inj result with ⟨rfl, -⟩
        exact holds
      · rcases Prod.mk.inj result with ⟨rfl, -⟩
        exact holds

/-- The map holds the registrations of the run, the last one first. -/
theorem run_holds {start final : NameServer} {trace : List NameTransition}
    (run : Run NameServer.step start trace final) (holds : start.nm.Holds registered) :
    final.nm.Holds ((registrationsOf trace).reverse ++ registered) := by
  induction run generalizing registered with
  | nil => exact holds
  | @cons _ _ _ event rest first _ ih =>
      have shape : (registrationsOf rest).reverse ++ (event.registrations ++ registered) =
          (event.registrations ++ registrationsOf rest).reverse ++ registered := by
        cases event <;> simp [NameEvent.registrations]
      rw [registrationsOf, List.flatMap_cons, ← registrationsOf, ← shape]
      exact ih (step_holds first holds)

/-- After a step a search finds the task that registers the name in it, or what it found. -/
theorem step_tidOf {transition : NameTransition} {tid : Tid}
    (taken : transition.before.step transition.input = some transition.after)
    (holds : transition.before.nm.Holds registered) :
    transition.after.nm.tidOf name.chars = some tid ↔
      transition.Registers name tid ∨
        transition.before.nm.tidOf name.chars = some tid ∧ ¬transition.RegistersAny name := by
  rw [(step_holds taken holds).tidOf, holds.tidOf]
  rcases transition with ⟨server, event, after⟩
  cases event with
  | registerAs sender msg other =>
      simp only [NameEvent.registrations, List.singleton_append, List.lookup_cons,
        NameTransition.RegistersAny, NameTransition.Registers, NameEvent.registerAs.injEq]
      by_cases sameName : SameName other name
      · have sameKey : (nameKey name.chars == nameKey other.chars) = true :=
          beq_iff_eq.mpr (nameKey_eq_iff.mpr sameName).symm
        rw [sameKey]
        constructor
        · intro sameTid
          rcases Option.some.inj sameTid with rfl
          exact .inl ⟨msg, other, ⟨rfl, rfl, rfl⟩, sameName⟩
        · rintro (⟨_, _, ⟨rfl, -, -⟩, -⟩ | ⟨-, notAny⟩)
          · rfl
          · exact absurd ⟨sender, msg, other, ⟨rfl, rfl, rfl⟩, sameName⟩ notAny
      · have otherKey : (nameKey name.chars == nameKey other.chars) = false :=
          beq_eq_false_iff_ne.mpr fun sameKey => sameName (nameKey_eq_iff.mp sameKey.symm)
        rw [otherKey]
        constructor
        · intro found
          refine .inr ⟨found, ?_⟩
          rintro ⟨_, _, _, ⟨-, -, rfl⟩, registers⟩
          exact sameName registers
        · rintro (⟨_, _, ⟨-, -, rfl⟩, registers⟩ | ⟨found, -⟩)
          · exact absurd registers sameName
          · exact found
  | _ => simp [NameEvent.registrations, NameTransition.RegistersAny, NameTransition.Registers]

/-- After a step a search finds some task if the step registers the name or it did before. -/
theorem step_tidOf_ne_none {transition : NameTransition}
    (taken : transition.before.step transition.input = some transition.after)
    (holds : transition.before.nm.Holds registered) :
    transition.after.nm.tidOf name.chars ≠ none ↔
      transition.RegistersAny name ∨ transition.before.nm.tidOf name.chars ≠ none := by
  simp only [Option.ne_none_iff_exists', step_tidOf taken holds]
  constructor
  · rintro ⟨tid, registers | ⟨found, -⟩⟩
    · exact .inl ⟨tid, registers⟩
    · exact .inr ⟨tid, found⟩
  · rintro (⟨tid, registers⟩ | ⟨tid, found⟩)
    · exact ⟨tid, .inl registers⟩
    · by_cases registersAny : transition.RegistersAny name
      · rcases registersAny with ⟨other, registers⟩
        exact ⟨other, .inl registers⟩
      · exact ⟨tid, .inr ⟨found, registersAny⟩⟩

end Steps

section Runs

variable {nm : NameMap} {msg : NameServerMsg} {final : NameServer} {trace : List NameTransition}

theorem start_holds (nm : NameMap) (msg : NameServerMsg) :
    (NameServer.start nm msg).nm.Holds [] := by
  simp only [NameServer.start]
  exact nameMapInit_holds nm

theorem run_start_holds (run : Run NameServer.step (.start nm msg) trace final) :
    final.nm.Holds (registrationsOf trace).reverse := by
  simpa only [List.append_nil] using run_holds run (start_holds nm msg)

/-- A search finds a task if it was the last to register the name. -/
theorem run_tidOf (run : Run NameServer.step (.start nm msg) trace final) (name : CString)
    (tid : Tid) : final.nm.tidOf name.chars = some tid ↔
      SinceLast (NameTransition.Registers name tid) (NameTransition.RegistersAny name) trace := by
  let invariant : NameServer → Prop := fun server => ∃ registered, server.nm.Holds registered
  let flag : NameServer → Prop := fun server => server.nm.tidOf name.chars = some tid
  have flagIff : flag final ↔ SinceLast (NameTransition.Registers name tid)
      (NameTransition.RegistersAny name) trace ∨
      flag (.start nm msg) ∧ ∀ transition ∈ trace, ¬transition.RegistersAny name := by
    apply @Run.flag_iff _ _ _ _ _ _ (fun _ => True) invariant flag _ _ ?_ ?_ run
      (fun _ _ => trivial) ⟨[], start_holds nm msg⟩
    · rintro transition taken - ⟨registered, holds⟩
      exact ⟨_, step_holds taken holds⟩
    · rintro transition taken - ⟨registered, holds⟩
      exact step_tidOf taken holds
  have notAtFirst : ¬flag (.start nm msg) := by
    intro found
    simp only [flag, (start_holds nm msg).tidOf, List.lookup_nil] at found
    cases found
  exact flagIff.trans (or_iff_left fun both => notAtFirst both.1)

/-- It finds no task if none has registered the name. -/
theorem run_tidOf_none (run : Run NameServer.step (.start nm msg) trace final) (name : CString) :
    final.nm.tidOf name.chars = none ↔ ∀ transition ∈ trace, ¬transition.RegistersAny name := by
  let invariant : NameServer → Prop := fun server => ∃ registered, server.nm.Holds registered
  let flag : NameServer → Prop := fun server => server.nm.tidOf name.chars ≠ none
  have flagIff : flag final ↔ SinceLast (NameTransition.RegistersAny name) (fun _ => False) trace ∨
      flag (.start nm msg) ∧ ∀ transition ∈ trace, ¬False := by
    apply @Run.flag_iff _ _ _ _ _ _ (fun _ => True) invariant flag _ _ ?_ ?_ run
      (fun _ _ => trivial) ⟨[], start_holds nm msg⟩
    · rintro transition taken - ⟨registered, holds⟩
      exact ⟨_, step_holds taken holds⟩
    · rintro transition taken - ⟨registered, holds⟩
      simpa only [not_false_eq_true, and_true] using step_tidOf_ne_none taken holds
  have notAtFirst : ¬flag (.start nm msg) := by
    simp only [flag, (start_holds nm msg).tidOf, List.lookup_nil, ne_eq, not_true_eq_false,
      not_false_eq_true]
  have registered : flag final ↔ ∃ transition ∈ trace, transition.RegistersAny name :=
    (flagIff.trans (or_iff_left fun both => notAtFirst both.1)).trans sinceLast_never
  rw [← not_iff_not]
  apply registered.trans
  simp only [not_forall, not_not, exists_prop]

/-- Requests are served while there is a node for each registration. -/
theorem run_of_requests {server : NameServer} {registered : List (List Byte × Tid)}
    (events : List NameEvent) (running : server.running = true)
    (holds : server.nm.Holds registered) (requests : ∀ event ∈ events, event.IsRequest)
    (few : (events.flatMap NameEvent.registrations).length + registered.length ≤
      nameServerMaxNames) :
    ∃ trace final, Run NameServer.step server trace final ∧ trace.map (·.input) = events := by
  induction events generalizing server registered with
  | nil => exact ⟨[], server, .nil server, rfl⟩
  | cons event events ih =>
      have restRequests : ∀ later ∈ events, later.IsRequest :=
        fun later laterMem => requests later (List.mem_cons_of_mem event laterMem)
      rw [List.flatMap_cons, List.length_append] at few
      have served : ∃ after, server.step event = some after ∧ after.running = true ∧
          after.nm.Holds (event.registrations ++ registered) := by
        cases event with
        | registerAs sender msg name =>
            have isLeft : registered.length < nameServerMaxNames := by
              simp only [NameEvent.registrations, List.length_singleton] at few
              omega
            rcases stepReplies_registerAs running holds isLeft with ⟨after, spec, goesOn, holds'⟩
            exact ⟨after, Option.map_eq_some_iff.mpr ⟨_, spec, rfl⟩, goesOn, holds'⟩
        | whoIs sender msg name =>
            rcases stepReplies_whoIs running holds with ⟨after, spec, goesOn, sameMap⟩
            refine ⟨after, Option.map_eq_some_iff.mpr ⟨_, spec, rfl⟩, goesOn, ?_⟩
            rw [sameMap]
            exact holds
        | nameServerExit sender msg => exact (requests _ List.mem_cons_self).elim
        | receiveFails => exact (requests _ List.mem_cons_self).elim
      rcases served with ⟨after, taken, goesOn, holds'⟩
      have stillFew : (events.flatMap NameEvent.registrations).length +
          (event.registrations ++ registered).length ≤ nameServerMaxNames := by
        rw [List.length_append]
        omega
      rcases ih goesOn holds' restRequests stillFew with ⟨trace, final, run, inputs⟩
      exact ⟨_, final, .cons taken run, by rw [List.map_cons, inputs]⟩

/-- The server replies once to a request, to its sender. A registration is acknowledged. The answer
to a search is the task that registered the name last, which is what `WhoIs` returns, or 1 if
there is none, whereupon `WhoIs` asks again. -/
def Answered (front : List NameTransition) (transition : NameTransition) : Prop :=
  match transition.input with
  | .registerAs sender _ _ => transition.replies = [⟨sender, .rep 0⟩]
  | .whoIs sender _ name => ∃ rep : ℤ, transition.replies = [⟨sender, .rep rep⟩] ∧
      (∀ tid : Tid,
        SinceLast (NameTransition.Registers name tid) (NameTransition.RegistersAny name) front →
          rep = tid.toNat ∧ whoIsResult 0 rep = some rep) ∧
      (rep = 1 ↔ ∀ earlier ∈ front, ¬earlier.RegistersAny name) ∧
      (rep = 1 ↔ whoIsResult 0 rep = none)
  | _ => True

theorem whoIsResult_eq_none_iff {rep : ℤ} : whoIsResult 0 rep = none ↔ rep = 1 := by
  by_cases notFound : rep = 1 <;> simp [whoIsResult, notFound]

/-- The number of a task other than task 1 is not taken for the answer that there is none. -/
theorem answer_eq_one_iff {found : Option Tid} (notOne : ∀ tid ∈ found, tid ≠ 1) :
    answer found = 1 ↔ found = none := by
  cases found with
  | none => exact iff_of_true rfl rfl
  | some tid =>
      refine iff_of_false ?_ (Option.some_ne_none tid)
      intro isOne
      apply notOne tid rfl
      apply BitVec.eq_of_toNat_eq
      simp only [answer] at isOne
      exact_mod_cast isOne

theorem answered_of_run {front : List NameTransition} {transition : NameTransition}
    (run : Run NameServer.step (.start nm msg) front transition.before)
    (taken : transition.before.step transition.input = some transition.after)
    (notOne : ∀ earlier ∈ front, earlier.input.sender? ≠ some 1) : Answered front transition := by
  have holds := run_start_holds run
  have running : transition.before.running = true := by
    by_contra stopped
    rw [NameServer.step, NameServer.stepReplies.eq_def, if_neg stopped] at taken
    cases taken
  rcases transition with ⟨server, event, after⟩
  cases event with
  | registerAs sender msg name =>
      rcases Nat.lt_or_eq_of_le holds.few with isLeft | isFull
      · rcases @stepReplies_registerAs _ sender msg name _ running holds isLeft with
          ⟨after, spec, -, -⟩
        simp only [Answered, NameTransition.replies, spec, Option.map_some, Option.getD_some]
      · rw [NameServer.step, stepReplies_registerAs_full holds isFull] at taken
        cases taken
  | whoIs sender msg name =>
      rcases @stepReplies_whoIs _ sender msg name _ running holds with ⟨after, spec, -, -⟩
      have others : ∀ tid ∈ server.nm.tidOf name.chars, tid ≠ 1 := by
        rintro tid found rfl
        rcases (run_tidOf run name 1).mp found with ⟨earliest, setter, later, rfl, registers, -⟩
        rcases registers with ⟨_, _, input, -⟩
        apply notOne setter (by simp)
        rw [input, NameEvent.sender?]
      have isOne : answer (server.nm.tidOf name.chars) = 1 ↔
          ∀ earlier ∈ front, ¬earlier.RegistersAny name :=
        (answer_eq_one_iff others).trans (run_tidOf_none run name)
      refine ⟨answer (server.nm.tidOf name.chars), ?_, ?_, isOne, whoIsResult_eq_none_iff.symm⟩
      · simp only [NameTransition.replies, spec, Option.map_some, Option.getD_some]
      · intro tid isLast
        have found : server.nm.tidOf name.chars = some tid := (run_tidOf run name tid).mpr isLast
        have notNone : answer (server.nm.tidOf name.chars) ≠ 1 := by
          rw [ne_eq, answer_eq_one_iff others, found]
          exact Option.some_ne_none tid
        refine ⟨by rw [found, answer], ?_⟩
        rw [whoIsResult, if_neg (not_not.mpr rfl), if_neg notNone]
  | nameServerExit sender msg => trivial
  | receiveFails => trivial

/-- Every sequence of requests is served, and each of them is answered. -/
theorem run_answered (nm : NameMap) (msg : NameServerMsg) (events : List NameEvent)
    (requests : ∀ event ∈ events, event.IsRequest)
    (notOne : ∀ event ∈ events, event.sender? ≠ some 1)
    (few : (events.flatMap NameEvent.registrations).length ≤ nameServerMaxNames) :
    ∃ trace final, Run NameServer.step (.start nm msg) trace final ∧
      trace.map (·.input) = events ∧
      ∀ front transition back, trace = front ++ transition :: back →
        Answered front transition := by
  rcases run_of_requests events rfl (start_holds nm msg) requests (by simpa using few) with
    ⟨trace, final, run, inputs⟩
  refine ⟨trace, final, run, inputs, ?_⟩
  rintro front transition back rfl
  rcases run.split with ⟨middle, before, rest⟩
  cases rest with
  | cons taken _ =>
      apply answered_of_run before taken
      intro earlier earlierMem
      apply notOne
      rw [← inputs]
      exact List.mem_map_of_mem (List.mem_append_left _ earlierMem)

/-- The name of one character. -/
def shortName (char : Byte) : CString where
  chars := fun index => if index = 0 then char else 0
  terminated := ⟨1, rfl⟩

/-- A map and a message whose memory holds zeros. -/
def blankMap : NameMap where
  heap :=
    { queue := fun _ => ⟨none, none, 0⟩
      node := fun _ => ⟨none, none⟩ }
  nodeData := fun _ => ⟨fun _ => 0, 0⟩

def blankMsg : NameServerMsg := ⟨.reg, fun _ => 0⟩

/-- Task 3 and then task 4 register a name, which task 5 asks for. -/
def nameTakenOver : List NameEvent :=
  [.registerAs 3 blankMsg (shortName 65), .registerAs 4 blankMsg (shortName 65),
    .whoIs 5 blankMsg (shortName 65)]

theorem run_answered_takenOver : ∃ trace final,
    Run NameServer.step (.start blankMap blankMsg) trace final ∧
      trace.map (·.input) = nameTakenOver ∧
      ∀ front transition back, trace = front ++ transition :: back →
        Answered front transition := by
  apply run_answered
  · simp [nameTakenOver, NameEvent.IsRequest]
  · simp [nameTakenOver, NameEvent.sender?]
  · simp [nameTakenOver, NameEvent.registrations, nameServerMaxNames]

/-- An insertion stays inside the arrays; it fails without a change when no node is left; and if
`RegisterAs` returns 0 on its result, a search finds the task. -/
def InsertsSafely (nm : NameMap) (name : ℕ → Byte) (tid : Tid) : Prop :=
  ∃ ret nm', nameMapInsert nm name tid = some (ret, nm') ∧
    ((queueSize nm.heap ()).toNat = nameServerMaxNames → ret ≠ 0 ∧ nm' = nm) ∧
    (registerAsResult 0 ret.toNat = 0 → nm'.tidOf name = some tid)

/-- An insertion is safe if and only if fewer than 256 registrations came before it. -/
theorem run_insertsSafely_iff (run : Run NameServer.step (.start nm msg) trace final)
    (name : ℕ → Byte) (tid : Tid) :
    InsertsSafely final.nm name tid ↔ (registrationsOf trace).length < nameServerMaxNames := by
  have holds := run_start_holds run
  rw [← List.length_reverse]
  constructor
  · rintro ⟨ret, nm', inserted, -, -⟩
    exact (holds.of_insert inserted).1
  · intro isLeft
    rcases holds.insert isLeft name tid with ⟨nm', inserted, holds'⟩
    refine ⟨0, nm', inserted, ?_, ?_⟩
    · intro isFull
      rw [holds.elements] at isFull
      omega
    · intro _
      rw [holds'.tidOf, List.lookup_cons_self]

/-- A task that registers the same name again and again. -/
def sameNameAgain (count : ℕ) : List NameEvent :=
  List.replicate count (.registerAs 3 blankMsg (shortName 65))

theorem run_sameNameAgain {count : ℕ} (few : count ≤ nameServerMaxNames) :
    ∃ trace final, Run NameServer.step (.start blankMap blankMsg) trace final ∧
      (registrationsOf trace).length = count := by
  have oneEach : ((sameNameAgain count).flatMap NameEvent.registrations).length = count := by
    simp [sameNameAgain, NameEvent.registrations]
  have requests : ∀ event ∈ sameNameAgain count, event.IsRequest := by
    intro event eventMem
    rcases List.eq_of_mem_replicate eventMem with rfl
    trivial
  rcases run_of_requests (sameNameAgain count) rfl (start_holds blankMap blankMsg) requests
    (by rw [oneEach]; exact few) with ⟨trace, final, run, inputs⟩
  rw [← inputs, List.flatMap_map] at oneEach
  exact ⟨trace, final, run, oneEach⟩

theorem run_insertsSafely_iff_last : ∃ trace final,
    Run NameServer.step (.start blankMap blankMsg) trace final ∧
      (registrationsOf trace).length = 255 ∧ InsertsSafely final.nm (shortName 65).chars 3 := by
  rcases @run_sameNameAgain 255 (by decide) with ⟨trace, final, run, count⟩
  refine ⟨trace, final, run, count, ?_⟩
  rw [run_insertsSafely_iff run, count]
  decide

/-- After 256 registrations of one name another insertion is not safe. -/
theorem insertion_not_safe : ¬∀ (nm : NameMap) (msg : NameServerMsg)
    (trace : List NameTransition) (final : NameServer),
    Run NameServer.step (.start nm msg) trace final →
      ∀ (name : ℕ → Byte) (tid : Tid), InsertsSafely final.nm name tid := by
  intro claimed
  rcases @run_sameNameAgain 256 le_rfl with ⟨trace, final, run, count⟩
  rcases claimed blankMap blankMsg trace final run (shortName 65).chars 3 with
    ⟨ret, nm', inserted, -, -⟩
  have isLeft := ((run_start_holds run).of_insert inserted).1
  rw [List.length_reverse, count] at isLeft
  exact lt_irrefl _ isLeft

end Runs

end ArmKernel
