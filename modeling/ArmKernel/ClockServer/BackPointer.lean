import ArmKernel.ClockServer.Timeliness

/-!
# The back pointer of the blocked list

A new entry is inserted into `blocked` by `queue_put_front` where it becomes the first, and is
linked by hand elsewhere. What is written by hand are two links and the count of the nodes. So
`blocked` is a well-formed queue until an entry goes behind all others: then its back pointer
still points to the node before that entry, and a `queue_put` would write into the middle of the
chain. The server does not call it on `blocked`.
-/

namespace ArmKernel

open PartialMachine LinkedChain Placement QueueHeap

/-- Both queues are well-formed, and no node is in both. -/
def ClockLists.WellFormed (lists : ClockLists) : Prop := ∃ nodes, lists.heap.IsFamily nodes

/-- The message leaves its sender waiting behind all those that are. -/
def ClockTransition.Appends (transition : ClockTransition) : Prop :=
  transition.before.phase = .serving ∧
    (transition.before.load transition.input).AppendsTo transition.before.blockedEntries

theorem orderedInsert_eq_append {α : Type} {before : α → α → Prop} [DecidableRel before]
    {list : List α} {new : α} (noneLater : ∀ other ∈ list, ¬before new other) :
    list.orderedInsert before new = list ++ [new] := by
  induction list with
  | nil => rfl
  | cons first rest ih =>
      rcases List.forall_mem_cons.mp noneLater with ⟨notFirst, notRest⟩
      rw [List.orderedInsert_cons, if_neg notFirst, ih notRest, List.cons_append]

namespace ClockLists

variable {lists lists' : ClockLists} {nodes : ClockQueue → List EntryIndex}
  {blocked : List ClockEntry} {newNode : EntryIndex} {backed : ClockQueue → Prop}

/-- Nothing is said of the queues that need not maintain their back pointers. -/
theorem models_of_backed {inited : EntryIndex → Prop} {fewer : ClockQueue → Prop}
    {heap : QueueHeap ClockQueue EntryIndex EntryIndex}
    (models : heap.Models (clockFamily backed inited) nodes)
    (weaker : ∀ ctx, fewer ctx → backed ctx) : heap.Models (clockFamily fewer inited) nodes :=
  { models with back := fun ctx isLive isBacked => models.back ctx isLive (weaker ctx isBacked) }

theorem Presents.shown (presents : lists.Presents (fun _ => True) blocked) :
    lists.Shows blocked := by
  rcases presents with ⟨nodes, holds, entries⟩
  exact ⟨nodes, ⟨models_of_backed holds.models fun _ _ => trivial, holds.all⟩, entries⟩

theorem Presents.wellFormed (presents : lists.Presents (fun _ => True) blocked) :
    lists.WellFormed := by
  rcases presents with ⟨nodes, holds, -⟩
  exact ⟨nodes, isFamily_iff.mpr holds.models.linked⟩

/-- A node that is linked behind another by hand is not written to the back pointer. -/
theorem insert_back (models : lists.heap.Models (clockFamily backed fun _ => True) nodes)
    {first : EntryIndex} {rest : List EntryIndex} (shape : nodes .blocked = first :: rest)
    (notFirst : ¬lists.EarlierNode newNode first) (inserted : lists.insert newNode = some lists') :
    (lists'.heap.queue .blocked).back = (lists.heap.queue .blocked).back := by
  have nonempty : queueEmpty lists.heap .blocked = false := by
    rw [Bool.eq_false_iff, ne_eq, models.queueEmpty_iff trivial, shape]
    exact List.cons_ne_nil _ _
  have peek := models.queuePeek trivial shape
  have stays : ¬(lists.entries first).ticks.toInt > (lists.entries newNode).ticks.toInt := notFirst
  simp only [ClockLists.insert, nonempty, Bool.false_eq_true, if_false, peek, clockFamily, id,
    Option.bind_eq_bind, Option.bind_some, stays, Option.bind_eq_some_iff] at inserted
  rcases inserted with ⟨_, -, place, -, done⟩
  rcases Option.some.inj done with rfl
  simp

/-- When the new node goes to the end of a queue that is not empty, the queue is spoiled. -/
theorem insert_not_wellFormed
    (models : lists.heap.Models (clockFamily (fun _ => True) fun _ => True) nodes)
    (absent : Absent nodes newNode) (nonempty : nodes .blocked ≠ [])
    (noneLater : ∀ other ∈ nodes .blocked, ¬lists.EarlierNode newNode other)
    (inserted : lists.insert newNode = some lists') : ¬lists'.WellFormed := by
  rintro ⟨nodes', family⟩
  have fewer : lists.heap.Models (clockFamily (fun ctx => ctx = .freeList) fun _ => True) nodes :=
    models_of_backed models fun _ _ => trivial
  have notBacked : ClockQueue.blocked = .freeList → nodes .blocked ≠ [] →
      ∃ other ∈ nodes .blocked, lists.EarlierNode newNode other := by
    intro same
    cases same
  rcases insert_models fewer absent notBacked with ⟨heap, inserted', models'⟩
  rcases Option.some.inj (inserted.symm.trans inserted') with rfl
  -- the chain ends in the new node, which is where `back` would have to point
  have chain := models'.chain .blocked trivial
  rw [Function.update_self, orderedInsert_eq_append noneLater] at chain
  have sameNodes := (family.queues .blocked).chain.unique chain
  have newBack : (heap.queue .blocked).back = some newNode := by
    apply (family.queues .blocked).back trivial
    simp [sameNodes]
  rcases List.exists_cons_of_ne_nil nonempty with ⟨first, rest, shape⟩
  have notFirst : ¬lists.EarlierNode newNode first := by
    apply noneLater
    simp [shape]
  have sameBack := insert_back models shape notFirst inserted
  have lastMem := List.getLast?_eq_some_getLast nonempty
  have oldBack := models.back .blocked trivial trivial _ lastMem
  have isLast : newNode = (nodes .blocked).getLast nonempty := by
    apply Option.some.inj
    rw [← newBack, ← oldBack]
    exact sameBack
  apply absent .blocked
  rw [isLast]
  exact List.getLast_mem nonempty

theorem Presents.block_not_wellFormed (presents : lists.Presents (fun _ => True) blocked)
    (nonempty : blocked ≠ []) {ticks : Word} {tid : Tid}
    (noneLater : ∀ entry ∈ blocked, ¬ticks.toInt < entry.ticks.toInt)
    (isBlocked : lists.block ticks tid = some lists') : ¬lists'.WellFormed := by
  rcases presents with ⟨nodes, holds, rfl⟩
  cases shape : nodes .freeList with
  | nil =>
      rw [ClockLists.block, holds.models.queueGet_nil trivial shape] at isBlocked
      cases isBlocked
  | cons newNode free =>
      have absent := holds.models.placed.absent_tail shape
      rcases holds.block_eq shape ticks tid with ⟨taken, block, models, isNew, others⟩
      have sameBlocked : Function.update nodes ClockQueue.freeList free .blocked =
          nodes .blocked := Function.update_of_ne (by decide) _ _
      apply insert_not_wellFormed models absent
      · rw [sameBlocked]
        simpa using nonempty
      · rw [sameBlocked]
        intro other otherMem
        rw [EarlierNode, isNew, others other otherMem]
        exact noneLater _ (List.mem_map_of_mem otherMem)
      · rw [← block, isBlocked]

end ClockLists

section Steps

variable {server after : ClockServer} {blocked : List ClockEntry} {event : ClockEvent}
  {replies : List ClockReply}

/-- A message that leaves its sender waiting is handled by `block`. -/
theorem ClockServer.handle_leavesWaiting {time : Word} (waiting : server.LeavesWaiting time)
    (done : server.handle = some (after, replies)) :
    server.lists.block time server.senderTid = some after.lists := by
  rcases waiting with ⟨asks, positive, notLate⟩
  have waits : server.handle = server.delayUntil time := by
    rw [wakeTime] at asks
    split at asks
    · rename_i type
      split_ifs at asks with notPositive
      rcases Option.some.inj asks with rfl
      simp only [handle, type, delay, if_neg notPositive]
    · rename_i type
      rcases Option.some.inj asks with rfl
      simp only [handle, type]
    · cases asks
  rw [waits, delayUntil, if_neg (not_le.mpr positive), if_neg notLate] at done
  rcases Option.bind_eq_some_iff.mp done with ⟨lists, isBlocked, same⟩
  rcases Prod.mk.inj (Option.some.inj same) with ⟨rfl, -⟩
  exact isBlocked

/-- What is handled keeps the lists well-formed, unless it is appended by hand. -/
theorem ClockServer.stepReplies_presents
    (presents : server.lists.Presents (fun _ => True) blocked)
    (notLast : server.phase = .serving → ¬(server.load event).AppendsTo blocked)
    (done : server.stepReplies event = some (after, replies)) :
    ∃ blocked', after.lists.Presents (fun _ => True) blocked' := by
  have presents' : (server.load event).lists.Presents (fun _ => True) blocked := by
    rwa [load_lists]
  cases phase : server.phase with
  | serving =>
      rw [stepReplies_serving phase] at done
      rcases handle_presents presents' trivial (fun _ => notLast phase) done with
        ⟨blocked', kept, -⟩
      exact ⟨blocked', kept⟩
  | exiting exiterTid =>
      refine ⟨blocked, ?_⟩
      rw [stepReplies_exiting phase, drain] at done
      split_ifs at done
      · rcases Prod.mk.inj (Option.some.inj done) with ⟨rfl, -⟩
        exact presents'
      · rcases Prod.mk.inj (Option.some.inj done) with ⟨rfl, -⟩
        exact presents'
  | exited =>
      rw [stepReplies_exited phase] at done
      cases done

theorem ClockServer.stepReplies_not_wellFormed
    (presents : server.lists.Presents (fun _ => True) blocked) (serving : server.phase = .serving)
    (appends : (server.load event).AppendsTo blocked)
    (done : server.stepReplies event = some (after, replies)) : ¬after.lists.WellFormed := by
  rcases appends with ⟨nonempty, time, waiting, noneLater⟩
  rw [stepReplies_serving serving] at done
  have isBlocked := handle_leavesWaiting waiting done
  rw [load_lists] at isBlocked
  exact presents.block_not_wellFormed nonempty noneLater isBlocked

theorem ClockTransition.stepReplies_of_taken {transition : ClockTransition}
    (taken : transition.before.step transition.input = some transition.after) :
    ∃ replies, transition.before.stepReplies transition.input =
      some (transition.after, replies) := by
  rcases Option.map_eq_some_iff.mp taken with ⟨⟨after, replies⟩, done, same⟩
  exact ⟨replies, by rw [done, ← same]⟩

end Steps

section Runs

variable {msg : ClockServerMsg} {lists : ClockLists} {first final : ClockServer}
  {trace : List ClockTransition}

theorem ClockLists.Presents.run_iff {blocked : List ClockEntry}
    (initially : first.lists.Presents (fun _ => True) blocked)
    (run : Run ClockServer.step first trace final) :
    (∀ transition ∈ trace, transition.after.lists.WellFormed) ↔
      ∀ transition ∈ trace, ¬transition.Appends := by
  let invariant : ClockServer → Prop := fun server =>
    ∃ blocked, server.lists.Presents (fun _ => True) blocked
  have isGood : ∀ server, invariant server → server.lists.WellFormed := by
    rintro server ⟨blocked, presents⟩
    exact presents.wellFormed
  have keeps : ∀ transition : ClockTransition,
      transition.before.step transition.input = some transition.after →
      invariant transition.before → ¬transition.Appends → invariant transition.after := by
    rintro transition taken ⟨blocked, presents⟩ notAppends
    rcases transition.stepReplies_of_taken taken with ⟨replies, done⟩
    apply ClockServer.stepReplies_presents presents _ done
    intro serving appends
    apply notAppends
    rw [ClockTransition.Appends, presents.shown.blockedEntries_eq]
    exact ⟨serving, appends⟩
  have spoils : ∀ transition : ClockTransition,
      transition.before.step transition.input = some transition.after →
      invariant transition.before → ¬¬transition.Appends →
      ¬transition.after.lists.WellFormed := by
    rintro transition taken ⟨blocked, presents⟩ appends
    rcases transition.stepReplies_of_taken taken with ⟨replies, done⟩
    rcases not_not.mp appends with ⟨serving, isLast⟩
    rw [presents.shown.blockedEntries_eq] at isLast
    exact ClockServer.stepReplies_not_wellFormed presents serving isLast done
  exact run.good_iff keeps spoils isGood ⟨blocked, initially⟩

/-- Both lists are well-formed at first, and after every message of a run if and only if no message
leaves its sender waiting behind all those that are. -/
theorem run_wellFormed_iff (started : ClockServer.start msg lists = some first)
    (run : Run ClockServer.step first trace final) :
    first.lists.WellFormed ∧
      ((∀ transition ∈ trace, transition.after.lists.WellFormed) ↔
        ∀ transition ∈ trace, ¬transition.Appends) := by
  have presents := (@ClockServer.start_presents (fun _ => True) _ _ _ trivial started).1
  exact ⟨presents.wellFormed, presents.run_iff run⟩

end Runs

/-- Task 3 asks to be delayed until tick 1, and task 4 until tick 2. -/
def laterDeadline : List ClockEvent :=
  [.receive 3 ⟨.delayUntil, 1⟩, .receive 4 ⟨.delayUntil, 2⟩]

/-- The second task goes behind the first. -/
theorem run_laterDeadline : ∃ first final, ∃ trace : List ClockTransition,
    ClockServer.start ⟨.error, 0⟩ blankLists = some first ∧ Run ClockServer.step first trace final ∧
      trace.map (·.input) = laterDeadline ∧ ∃ transition ∈ trace, transition.Appends := by
  have started := blankServer_started
  generalize blankServer = first at started
  rcases ClockServer.start_shows started with ⟨shown, ticks, serving⟩
  have notLate : ∀ time : Word, ¬time < first.ticks := by
    intro time
    rw [ticks]
    exact BitVec.not_lt_zero
  rcases @ClockServer.step_delayUntil _ _ 3 1 shown serving (by decide) (by decide) (notLate 1) with
    ⟨second, step₁, shown₁, ticks₁, serving₁⟩
  have notLate₁ : ¬(2 : Word) < second.ticks := by
    rw [ticks₁]
    exact notLate 2
  rcases @ClockServer.step_delayUntil _ _ 4 2 shown₁ serving₁ (by decide) (by decide) notLate₁ with
    ⟨third, step₂, -⟩
  refine ⟨first, third, _, started, .cons step₁ (.cons step₂ (.nil _)), rfl,
    ⟨second, .receive 4 ⟨.delayUntil, 2⟩, third⟩, by simp, serving₁, ?_⟩
  rw [shown₁.blockedEntries_eq]
  refine ⟨List.cons_ne_nil _ _, 2, ⟨rfl, by decide, notLate₁⟩, ?_⟩
  decide

theorem run_wellFormed_iff_laterDeadline : ∃ first final, ∃ trace : List ClockTransition,
    ClockServer.start ⟨.error, 0⟩ blankLists = some first ∧ Run ClockServer.step first trace final ∧
      trace.map (·.input) = laterDeadline ∧ first.lists.WellFormed ∧
      ((∀ transition ∈ trace, transition.after.lists.WellFormed) ↔
        ∀ transition ∈ trace, ¬transition.Appends) := by
  rcases run_laterDeadline with ⟨first, final, trace, started, run, inputs, -⟩
  exact ⟨first, final, trace, started, run, inputs, run_wellFormed_iff started run⟩

/-- The lists do not stay well-formed in every run. -/
theorem lists_not_wellFormed : ¬∀ (msg : ClockServerMsg) (lists : ClockLists)
    (first final : ClockServer) (trace : List ClockTransition),
    ClockServer.start msg lists = some first → Run ClockServer.step first trace final →
      ∀ transition ∈ trace, transition.after.lists.WellFormed := by
  intro claimed
  rcases run_laterDeadline with ⟨first, final, trace, started, run, -, transition, transitionMem,
    appends⟩
  have presents := (@ClockServer.start_presents (fun _ => True) _ _ _ trivial started).1
  exact (presents.run_iff run).mp (claimed _ _ _ _ _ started run) transition transitionMem appends

end ArmKernel
