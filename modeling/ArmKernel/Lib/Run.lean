import Mathlib.Data.List.Basic

/-!
# Runs of a partial machine

A machine is a partial step function `step : State → Input → Option State`; a step
that is undefined has no successor. A run is recorded as the list of its transitions,
each with the state before it, its input and the state after it, so that a condition
on a run is a condition on the members of this list and an observation of a run is a
`List.flatMap` over it.

Five induction rules are stated once here: an invariant that every permitted
transition keeps holds along every permitted run, also if it speaks of the transitions
so far, a quantity that every transition conserves is conserved by the run, a flag that
transitions set and clear is set at the end if the last of them set it, and the states
of a run are all good if none of its transitions is the first to spoil them.
-/

namespace PartialMachine

universe u v w

/-- One step of a run: the state before it, its input and the state after it. -/
structure Transition (State : Type u) (Input : Type v) where
  before : State
  input : Input
  after : State

variable {State : Type u} {Input : Type v}

/-- `Run step start trace final`: the machine goes from `start` to `final` by the
transitions of `trace`. -/
inductive Run (step : State → Input → Option State) :
    State → List (Transition State Input) → State → Prop where
  | nil (start : State) : Run step start [] start
  | cons {start middle final : State} {input : Input} {trace : List (Transition State Input)}
      (first : step start input = some middle) (rest : Run step middle trace final) :
      Run step start (⟨start, input, middle⟩ :: trace) final

/-- Run the machine on a list of inputs, and record the transitions and the final state;
`none` if a step is undefined. -/
def record (step : State → Input → Option State) :
    State → List Input → Option (List (Transition State Input) × State)
  | start, [] => some ([], start)
  | start, input :: inputs =>
      (step start input).bind fun middle =>
        (record step middle inputs).map fun later =>
          (⟨start, input, middle⟩ :: later.1, later.2)

/-- The transitions of the run on a list of inputs. -/
def traceOf (step : State → Input → Option State) (start : State) (inputs : List Input) :
    List (Transition State Input) := ((record step start inputs).getD ([], start)).1

/-- The final state of the run on a list of inputs. -/
def finalOf (step : State → Input → Option State) (start : State) (inputs : List Input) : State :=
  ((record step start inputs).getD ([], start)).2

section Runs

variable {step : State → Input → Option State} {start final : State}
  {trace : List (Transition State Input)}

theorem Run.append {middle : State} {trace' : List (Transition State Input)}
    (front : Run step start trace middle) (back : Run step middle trace' final) :
    Run step start (trace ++ trace') final := by
  induction front with
  | nil => exact back
  | cons first _ ih => exact .cons first (ih back)

theorem Run.split {trace' : List (Transition State Input)}
    (run : Run step start (trace ++ trace') final) :
    ∃ middle, Run step start trace middle ∧ Run step middle trace' final := by
  induction trace generalizing start with
  | nil => exact ⟨start, .nil start, run⟩
  | cons transition trace ih =>
      cases run with
      | cons first rest =>
          rcases ih rest with ⟨middle, front, back⟩
          exact ⟨middle, .cons first front, back⟩

/-- Every transition of a run is a step of the machine. -/
theorem Run.step_of_mem {transition : Transition State Input} (run : Run step start trace final)
    (transitionMem : transition ∈ trace) :
    step transition.before transition.input = some transition.after := by
  induction run with
  | nil => simp at transitionMem
  | cons first _ ih =>
      rcases List.mem_cons.mp transitionMem with rfl | restMem
      · exact first
      · exact ih restMem

/-- Every transition of a run splits it into the run before and the run after. -/
theorem Run.split_at {transition : Transition State Input} (run : Run step start trace final)
    (transitionMem : transition ∈ trace) :
    ∃ front back, trace = front ++ transition :: back ∧
      Run step start front transition.before ∧ Run step transition.after back final := by
  rcases List.append_of_mem transitionMem with ⟨front, back, rfl⟩
  rcases run.split with ⟨middle, before, after⟩
  cases after with
  | cons _ rest => exact ⟨front, back, rfl, before, rest⟩

/-- What the machine records is a run. -/
theorem Run.of_record {inputs : List Input}
    (recorded : record step start inputs = some (trace, final)) : Run step start trace final := by
  induction inputs generalizing start trace with
  | nil =>
      simp only [record, Option.some.injEq, Prod.mk.injEq] at recorded
      rcases recorded with ⟨rfl, rfl⟩
      exact .nil start
  | cons input inputs ih =>
      simp only [record, Option.bind_eq_some_iff, Option.map_eq_some_iff, Prod.mk.injEq] at recorded
      rcases recorded with ⟨middle, first, later, rest, rfl, rfl⟩
      exact .cons first (ih rest)

theorem Run.of_isSome {inputs : List Input} (runs : (record step start inputs).isSome) :
    Run step start (traceOf step start inputs) (finalOf step start inputs) := by
  rcases Option.isSome_iff_exists.mp runs with ⟨⟨trace, final⟩, recorded⟩
  rw [traceOf, finalOf, recorded]
  exact .of_record recorded

end Runs

section Rules

variable {step : State → Input → Option State} {start final : State}
  {trace : List (Transition State Input)}
  {permitted : Transition State Input → Prop}

/-- The invariant rule: what every permitted transition keeps holds at the end of
every permitted run. -/
theorem Run.invariant {invariant : State → Prop}
    (preserved : ∀ transition : Transition State Input,
      step transition.before transition.input = some transition.after →
      permitted transition → invariant transition.before → invariant transition.after)
    (run : Run step start trace final) (allowed : ∀ transition ∈ trace, permitted transition)
    (initially : invariant start) : invariant final := by
  induction run with
  | nil => exact initially
  | cons first _ ih =>
      apply ih (fun transition transitionMem => allowed transition (by simp [transitionMem]))
      exact preserved _ first (allowed _ List.mem_cons_self) initially

/-- The history rule: an invariant that also speaks of the transitions so far. -/
theorem Run.history {holds : List (Transition State Input) → State → Prop}
    (preserved : ∀ past (transition : Transition State Input),
      step transition.before transition.input = some transition.after →
      permitted transition → holds past transition.before →
      holds (past ++ [transition]) transition.after)
    (run : Run step start trace final) (allowed : ∀ transition ∈ trace, permitted transition)
    (initially : holds [] start) : holds trace final := by
  have later : ∀ past, holds past start → holds (past ++ trace) final := by
    clear initially
    induction run with
    | nil => simp
    | cons first _ ih =>
        intro past before
        have after := preserved past _ first (allowed _ List.mem_cons_self) before
        have rest := ih
          (fun transition transitionMem => allowed transition (by simp [transitionMem])) _ after
        simpa using rest
  simpa using later [] initially

/-- The invariant holds before every transition of a permitted run. -/
theorem Run.invariant_before (invariant : State → Prop)
    (preserved : ∀ transition : Transition State Input,
      step transition.before transition.input = some transition.after →
      permitted transition → invariant transition.before → invariant transition.after)
    (run : Run step start trace final) (allowed : ∀ transition ∈ trace, permitted transition)
    (initially : invariant start) {transition : Transition State Input}
    (transitionMem : transition ∈ trace) : invariant transition.before := by
  rcases run.split_at transitionMem with ⟨front, back, rfl, before, -⟩
  exact before.invariant preserved
    (fun earlier earlierMem => allowed earlier (by simp [earlierMem])) initially

/--
The conservation rule. Each permitted transition takes in the items `taken`, gives out
the items `given` and keeps the rest pending in order; then a whole run gives out what
was pending at first and what it took in, up to what is still pending at the end.
-/
theorem Run.conserved {Item : Type w} (invariant : State → Prop) (pending : State → List Item)
    (taken given : Transition State Input → List Item)
    (preserved : ∀ transition : Transition State Input,
      step transition.before transition.input = some transition.after →
      permitted transition → invariant transition.before → invariant transition.after)
    (balance : ∀ transition : Transition State Input,
      step transition.before transition.input = some transition.after →
      permitted transition → invariant transition.before →
      pending transition.before ++ taken transition =
        given transition ++ pending transition.after)
    (run : Run step start trace final) (allowed : ∀ transition ∈ trace, permitted transition)
    (initially : invariant start) :
    pending start ++ trace.flatMap taken = trace.flatMap given ++ pending final := by
  induction run with
  | nil => simp
  | cons first _ ih =>
      have firstBalance := balance _ first (allowed _ List.mem_cons_self) initially
      have restBalance := ih
        (fun transition transitionMem => allowed transition (by simp [transitionMem]))
        (preserved _ first (allowed _ List.mem_cons_self) initially)
      simp only [List.flatMap_cons, ← List.append_assoc] at firstBalance ⊢
      rw [firstBalance, List.append_assoc, restBalance, List.append_assoc]

/-- Some transition of the trace sets a flag, and none after it clears the flag. -/
def SinceLast (sets clears : Transition State Input → Prop)
    (trace : List (Transition State Input)) : Prop :=
  ∃ front setter back, trace = front ++ setter :: back ∧ sets setter ∧
    ∀ later ∈ back, ¬clears later

theorem sinceLast_cons {sets clears : Transition State Input → Prop}
    {transition : Transition State Input} :
    SinceLast sets clears (transition :: trace) ↔
      SinceLast sets clears trace ∨ sets transition ∧ ∀ later ∈ trace, ¬clears later := by
  constructor
  · rintro ⟨front, setter, back, shape, isSetter, quiet⟩
    cases front with
    | nil =>
        rcases List.cons.inj shape with ⟨rfl, rfl⟩
        exact Or.inr ⟨isSetter, quiet⟩
    | cons first front =>
        rcases List.cons.inj shape with ⟨rfl, rfl⟩
        exact Or.inl ⟨front, setter, back, rfl, isSetter, quiet⟩
  · rintro (⟨front, setter, back, rfl, isSetter, quiet⟩ | ⟨isSetter, quiet⟩)
    · exact ⟨transition :: front, setter, back, rfl, isSetter, quiet⟩
    · exact ⟨[], transition, trace, rfl, isSetter, quiet⟩

/-- The last transition sets the flag, or leaves it set. -/
theorem SinceLast.append {sets clears : Transition State Input → Prop}
    {transition : Transition State Input}
    (set : sets transition ∨ SinceLast sets clears trace ∧ ¬clears transition) :
    SinceLast sets clears (trace ++ [transition]) := by
  rcases set with isSetter | ⟨⟨front, setter, back, rfl, isSetter, quiet⟩, notCleared⟩
  · exact ⟨trace, transition, [], rfl, isSetter, by simp⟩
  · refine ⟨front, setter, back ++ [transition], by simp, isSetter, fun later laterMem => ?_⟩
    rcases List.mem_append.mp laterMem with backMem | isLast
    · exact quiet later backMem
    · rwa [List.mem_singleton.mp isLast]

/-- A flag that nothing clears. -/
theorem sinceLast_never {sets : Transition State Input → Prop} :
    SinceLast sets (fun _ => False) trace ↔ ∃ transition ∈ trace, sets transition := by
  constructor
  · rintro ⟨front, setter, back, rfl, isSetter, -⟩
    exact ⟨setter, by simp, isSetter⟩
  · rintro ⟨setter, setterMem, isSetter⟩
    rcases List.append_of_mem setterMem with ⟨front, back, rfl⟩
    exact ⟨front, setter, back, rfl, isSetter, fun _ _ => not_false⟩

/-- The flag rule: at the end of a permitted run the flag is set if a transition set it and
none cleared it afterwards, or if it was set at first and none cleared it. -/
theorem Run.flag_iff (invariant flag : State → Prop)
    {sets clears : Transition State Input → Prop}
    (preserved : ∀ transition : Transition State Input,
      step transition.before transition.input = some transition.after →
      permitted transition → invariant transition.before → invariant transition.after)
    (switched : ∀ transition : Transition State Input,
      step transition.before transition.input = some transition.after →
      permitted transition → invariant transition.before →
      (flag transition.after ↔ sets transition ∨ flag transition.before ∧ ¬clears transition))
    (run : Run step start trace final) (allowed : ∀ transition ∈ trace, permitted transition)
    (initially : invariant start) :
    flag final ↔ SinceLast sets clears trace ∨
      flag start ∧ ∀ transition ∈ trace, ¬clears transition := by
  induction run with
  | nil =>
      simp only [List.not_mem_nil, false_imp_iff, implies_true, and_true, iff_or_self]
      rintro ⟨front, setter, back, shape, -⟩
      simp at shape
  | cons first _ ih =>
      have isPermitted := allowed _ List.mem_cons_self
      rw [ih (fun transition transitionMem => allowed transition (by simp [transitionMem]))
        (preserved _ first isPermitted initially), switched _ first isPermitted initially,
        sinceLast_cons, List.forall_mem_cons]
      tauto

/-- The rule of the first defect. From states that have the invariant, sound steps keep it and the
others lead to a state that is not good; so all states of a run are good if and only if all its
steps are sound. -/
theorem Run.good_iff {invariant good : State → Prop} {sound : Transition State Input → Prop}
    (keeps : ∀ transition : Transition State Input,
      step transition.before transition.input = some transition.after →
      invariant transition.before → sound transition → invariant transition.after)
    (spoils : ∀ transition : Transition State Input,
      step transition.before transition.input = some transition.after →
      invariant transition.before → ¬sound transition → ¬good transition.after)
    (isGood : ∀ state, invariant state → good state)
    (run : Run step start trace final) (initially : invariant start) :
    (∀ transition ∈ trace, good transition.after) ↔ ∀ transition ∈ trace, sound transition := by
  induction run with
  | nil => simp
  | @cons start middle _ input _ first _ ih =>
      simp only [List.forall_mem_cons]
      constructor
      · rintro ⟨firstGood, restGood⟩
        have firstSound : sound ⟨start, input, middle⟩ := by
          by_contra notSound
          exact spoils _ first initially notSound firstGood
        exact ⟨firstSound, (ih (keeps _ first initially firstSound)).mp restGood⟩
      · rintro ⟨firstSound, restSound⟩
        have kept : invariant middle := keeps _ first initially firstSound
        exact ⟨isGood _ kept, (ih kept).mpr restSound⟩

end Rules

end PartialMachine
