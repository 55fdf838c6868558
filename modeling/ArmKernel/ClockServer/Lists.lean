import ArmKernel.ClockServer
import Mathlib.Data.List.Sort

/-!
# The lists of the clock server

Every entry is in `blocked` or in `free_list` and in one of them only. So `blocked` shows a
list of entries, and there are as many free ones as this list is short of 64. The checks
and the insertion of the server act on the list that is shown: the front leaves it, and a
new entry goes behind all those that are not later, before the first that is.

Only `free_list` needs its back pointer; `blocked` is written by hand, and its back pointer is
not maintained. What is said here of the queues whose back pointers are, is said of any set of
them with `free_list` in it: a new entry that is linked by hand must then not become the last of
a queue in the set.
-/

namespace ArmKernel

open LinkedChain Placement QueueHeap

/-- An insertion in order holds every relation that the new element has to those it goes behind and
to those it goes before. -/
theorem pairwise_orderedInsert {α : Type} {related before : α → α → Prop} [DecidableRel before]
    {list : List α} {new : α} (pairwise : list.Pairwise related)
    (behind : ∀ other ∈ list, ¬before new other → related other new)
    (inFront : ∀ other ∈ list, before new other → related new other)
    (later : ∀ left right, related left right → before new left → before new right) :
    (list.orderedInsert before new).Pairwise related := by
  induction list with
  | nil => exact List.pairwise_singleton _ _
  | cons first rest ih =>
      rcases List.pairwise_cons.mp pairwise with ⟨fromFirst, restPairwise⟩
      rw [List.orderedInsert_cons]
      split_ifs with isBefore
      · refine List.pairwise_cons.mpr ⟨?_, pairwise⟩
        intro other otherMem
        apply inFront other otherMem
        rcases List.mem_cons.mp otherMem with rfl | restMem
        · exact isBefore
        · exact later first other (fromFirst other restMem) isBefore
      · refine List.pairwise_cons.mpr ⟨?_, ?_⟩
        · intro other otherMem
          rcases (List.mem_orderedInsert _).mp otherMem with rfl | restMem
          · exact behind first List.mem_cons_self isBefore
          · exact fromFirst other restMem
        · exact ih restPairwise
            (fun other otherMem => behind other (List.mem_cons_of_mem first otherMem))
            (fun other otherMem => inFront other (List.mem_cons_of_mem first otherMem))

/-- The queues of the server once they are set up: those that maintain their back pointers, and the
nodes that were initialised. -/
def clockFamily (backed : ClockQueue → Prop) (inited : EntryIndex → Prop) :
    QueueFamily ClockQueue EntryIndex EntryIndex where
  live := fun _ => True
  backed := backed
  inited := inited
  payload := id

/-- The queues hold the nodes, and every node is in one of them. -/
structure ClockLists.Holds (lists : ClockLists) (backed : ClockQueue → Prop)
    (nodes : ClockQueue → List EntryIndex) : Prop where
  models : lists.heap.Models (clockFamily backed fun _ => True) nodes
  all : ∀ node, node ∈ nodes .blocked ∨ node ∈ nodes .freeList

/-- The entries of the blocked tasks. -/
def ClockLists.Presents (lists : ClockLists) (backed : ClockQueue → Prop)
    (blocked : List ClockEntry) : Prop :=
  ∃ nodes, lists.Holds backed nodes ∧ (nodes .blocked).map lists.entries = blocked

/-- They are so whether or not the back pointer of `blocked` is maintained. -/
abbrev ClockLists.Shows (lists : ClockLists) (blocked : List ClockEntry) : Prop :=
  lists.Presents (fun ctx => ctx = .freeList) blocked

/-- The one entry has an earlier deadline. -/
def Earlier (left right : ClockEntry) : Prop := left.ticks.toInt < right.ticks.toInt

instance : DecidableRel Earlier := fun left right =>
  inferInstanceAs (Decidable (left.ticks.toInt < right.ticks.toInt))

theorem card_entryIndex_lt : Fintype.card EntryIndex < 2 ^ 32 := by
  rw [Fintype.card_fin, taskDescriptorMaxTasks]
  omega

namespace ClockLists

variable {lists : ClockLists} {nodes : ClockQueue → List EntryIndex} {blocked : List ClockEntry}
  {backed : ClockQueue → Prop}

section Counts

theorem Holds.perm (holds : lists.Holds backed nodes) :
    (nodes .blocked ++ nodes .freeList).Perm (List.finRange taskDescriptorMaxTasks) := by
  have disjoint : ∀ node ∈ nodes .blocked, ∀ other ∈ nodes .freeList, node ≠ other := by
    rintro node nodeMem _ otherMem rfl
    have same := holds.models.placed.unique nodeMem otherMem
    cases same
  have nodup : (nodes .blocked ++ nodes .freeList).Nodup :=
    List.nodup_append.mpr
      ⟨holds.models.placed.nodup _, holds.models.placed.nodup _, disjoint⟩
  apply (List.perm_ext_iff_of_nodup nodup (List.nodup_finRange _)).mpr
  intro node
  simpa only [List.mem_append, List.mem_finRange, iff_true] using holds.all node

theorem Holds.lengths (holds : lists.Holds backed nodes) :
    (nodes .blocked).length + (nodes .freeList).length = taskDescriptorMaxTasks := by
  rw [← List.length_append, holds.perm.length_eq, List.length_finRange]

theorem Presents.length_le (presents : lists.Presents backed blocked) :
    blocked.length ≤ taskDescriptorMaxTasks := by
  rcases presents with ⟨nodes, holds, rfl⟩
  rw [List.length_map, ← holds.lengths]
  exact Nat.le_add_right _ _

end Counts

section Init

/-- The loop that sets up the free list puts the nodes it visits there. -/
theorem foldlM_initEntry {inited : EntryIndex → Prop} {free visited : List EntryIndex}
    (freeBacked : backed .freeList)
    (models : lists.heap.Models (clockFamily backed inited)
      (Function.update (fun _ => []) ClockQueue.freeList free))
    (fresh : ∀ node ∈ visited, ¬inited node) (distinct : visited.Nodup) :
    ∃ lists', visited.foldlM initEntry lists = some lists' ∧
      lists'.heap.Models (clockFamily backed fun node => inited node ∨ node ∈ visited)
        (Function.update (fun _ => []) ClockQueue.freeList (free ++ visited)) := by
  induction visited generalizing lists inited free with
  | nil =>
      refine ⟨lists, rfl, ?_⟩
      simpa only [List.not_mem_nil, or_false, List.append_nil] using models
  | cons first rest ih =>
      rcases List.nodup_cons.mp distinct with ⟨firstNotMem, restDistinct⟩
      have notInited := fresh first List.mem_cons_self
      have absent : Absent (Function.update (fun _ => []) ClockQueue.freeList free) first :=
        fun ctx firstMem => notInited (models.member ctx first firstMem)
      have ready : (queueNodeInit lists.heap first (some first)).Models
          (clockFamily backed fun node => inited node ∨ node = first)
          (Function.update (fun _ => []) ClockQueue.freeList free) :=
        models.queueNodeInit first notInited
      rcases ready.queuePut trivial freeBacked (.inr rfl) absent card_entryIndex_lt with
        ⟨heap, put, models'⟩
      rw [Function.update_self, Function.update_idem] at models'
      have restFresh : ∀ node ∈ rest, ¬(inited node ∨ node = first) := by
        rintro node nodeMem (already | rfl)
        · exact fresh node (List.mem_cons_of_mem first nodeMem) already
        · exact firstNotMem nodeMem
      rcases @ih { lists with heap := heap } _ _ models' restFresh restDistinct with
        ⟨lists', loop, models''⟩
      refine ⟨lists', ?_, ?_⟩
      · simp only [List.foldlM_cons, initEntry, put, Option.bind_eq_bind, Option.bind_some]
        exact loop
      · simpa only [List.mem_cons, or_assoc, List.append_assoc, List.singleton_append]
          using models''

/-- No task waits at first, whatever the memory of the lists held. -/
theorem init_presents (lists : ClockLists) (freeBacked : backed .freeList) :
    ∃ lists', lists.init = some lists' ∧ lists'.Presents backed [] := by
  let unused : QueueFamily ClockQueue EntryIndex EntryIndex :=
    { clockFamily backed (fun _ => False) with live := fun _ => False }
  have nothing : lists.heap.Models unused fun _ => [] := by
    refine ⟨placed_empty, ?_, ?_, ?_, ?_, ?_, ?_, ?_⟩
    · exact fun _ isLive => isLive.elim
    · exact fun _ isLive => isLive.elim
    · exact fun _ isLive => isLive.elim
    · exact fun _ _ => rfl
    · exact fun _ _ nodeMem => absurd nodeMem List.not_mem_nil
    · exact fun _ isInited => isInited.elim
    · exact fun _ isInited => isInited.elim
  have bothLive : ((unused.addQueue .blocked).addQueue .freeList) =
      clockFamily backed fun _ => False := by
    simp only [QueueFamily.addQueue, unused, clockFamily, false_or,
      QueueFamily.mk.injEq, and_true]
    funext ctx
    cases ctx <;> simp
  have notYet : ¬(unused.addQueue .blocked).live .freeList := by
    simp [QueueFamily.addQueue, unused]
  have empty := (nothing.queueInit .blocked not_false).queueInit .freeList notYet
  have noNodes : (fun _ : ClockQueue => ([] : List EntryIndex)) =
      Function.update (fun _ => []) ClockQueue.freeList [] := (Function.update_eq_self _ _).symm
  rw [bothLive, noNodes] at empty
  rcases @foldlM_initEntry
      { lists with heap := queueInit (queueInit lists.heap .blocked) .freeList } backed _ _
      (List.finRange taskDescriptorMaxTasks) freeBacked empty (fun _ _ => not_false)
      (List.nodup_finRange _) with ⟨lists', loop, models⟩
  simp only [List.mem_finRange, or_true, List.nil_append] at models
  refine ⟨lists', loop, _, ⟨models, ?_⟩, ?_⟩
  · exact fun node => .inr (by rw [Function.update_self]; exact List.mem_finRange node)
  · rfl

end Init

section Release

variable {front : ClockEntry} {rest : List ClockEntry} {ticks : Word}

theorem Presents.release_nil (presents : lists.Presents backed []) (ticks : Word) :
    lists.release ticks = some (none, lists) := by
  rcases presents with ⟨nodes, holds, entries⟩
  have isEmpty : queueEmpty lists.heap .blocked = true :=
    (holds.models.queueEmpty_iff trivial).mpr (List.map_eq_nil_iff.mp entries)
  rw [release, isEmpty]
  rfl

/-- The first task is not released while its deadline has not passed. -/
theorem Presents.release_early (presents : lists.Presents backed (front :: rest))
    (early : ¬front.ticks < ticks) : lists.release ticks = some (none, lists) := by
  rcases presents with ⟨nodes, holds, entries⟩
  rcases List.map_eq_cons_iff.mp entries with ⟨node, others, shape, rfl, rfl⟩
  have nonempty : queueEmpty lists.heap .blocked = false := by
    rw [Bool.eq_false_iff, ne_eq, holds.models.queueEmpty_iff trivial, shape]
    exact List.cons_ne_nil _ _
  have peek := holds.models.queuePeek trivial shape
  rw [release, nonempty, peek]
  exact if_neg early

theorem Presents.release_due (presents : lists.Presents backed (front :: rest))
    (freeBacked : backed .freeList) (due : front.ticks < ticks) :
    ∃ lists', lists.release ticks = some (some front.tid, lists') ∧
      lists'.Presents backed rest := by
  rcases presents with ⟨nodes, holds, entries⟩
  rcases List.map_eq_cons_iff.mp entries with ⟨node, others, shape, rfl, rfl⟩
  have nonempty : queueEmpty lists.heap .blocked = false := by
    rw [Bool.eq_false_iff, ne_eq, holds.models.queueEmpty_iff trivial, shape]
    exact List.cons_ne_nil _ _
  have peek := holds.models.queuePeek trivial shape
  rcases holds.models.queueGet_cons trivial shape with ⟨heap, got, models⟩
  have absent := holds.models.placed.absent_tail shape
  rcases models.queuePut trivial freeBacked trivial absent card_entryIndex_lt with
    ⟨heap', put, models'⟩
  refine ⟨{ lists with heap := heap' }, ?_, _, ⟨models', ?_⟩, ?_⟩
  · have isDue : ticks > (lists.entries node).ticks := due
    rw [release, nonempty, peek]
    simp only [Bool.not_false, if_true, Option.bind_eq_bind, Option.bind_some, clockFamily,
      clockFamily, id, isDue, got, put]
  · intro other
    rw [Function.update_of_ne (by decide), Function.update_self, Function.update_self,
      Function.update_of_ne (by decide)]
    rcases holds.all other with isBlocked | isFree
    · rw [shape] at isBlocked
      rcases List.mem_cons.mp isBlocked with rfl | later
      · exact .inr (List.mem_append_right _ List.mem_cons_self)
      · exact .inl later
    · exact .inr (List.mem_append_left _ isFree)
  · rw [Function.update_of_ne (by decide), Function.update_self]

end Release

section Insertion

variable {newNode : EntryIndex}

/-- The order of the nodes by the deadlines of their entries. -/
def EarlierNode (lists : ClockLists) (left right : EntryIndex) : Prop :=
  Earlier (lists.entries left) (lists.entries right)

instance (lists : ClockLists) : DecidableRel lists.EarlierNode := fun left right =>
  inferInstanceAs (Decidable (Earlier (lists.entries left) (lists.entries right)))

/-- The loop finds the node behind which an insertion in order puts the new one. That is the last
node if no node is later. -/
theorem placeLoop_eq {currNode : EntryIndex} {rest : List EntryIndex} {remaining : ℕ}
    (data : ∀ node, (lists.heap.node node).data = some node)
    (chain : IsChain lists.heap.next (lists.heap.next currNode) rest)
    (enough : rest.length < remaining) :
    ∃ front place back,
      lists.placeLoop (lists.entries newNode).ticks remaining currNode = some place ∧
        currNode :: rest = front ++ place :: back ∧
        currNode :: rest.orderedInsert lists.EarlierNode newNode =
          front ++ place :: newNode :: back ∧
        ((∃ other ∈ rest, lists.EarlierNode newNode other) → back ≠ []) := by
  induction rest generalizing currNode remaining with
  | nil =>
      have atEnd : (lists.heap.node currNode).next = none := isChain_nil.mp chain
      cases remaining with
      | zero => simp at enough
      | succ remaining =>
          refine ⟨[], currNode, [], ?_, rfl, rfl, by simp⟩
          rw [placeLoop, atEnd]
  | cons next rest ih =>
      rcases isChain_cons.mp chain with ⟨link, restChain⟩
      have hasNext : (lists.heap.node currNode).next = some next := link
      cases remaining with
      | zero => simp at enough
      | succ remaining =>
          by_cases later : lists.EarlierNode newNode next
          · refine ⟨[], currNode, next :: rest, ?_, rfl, ?_, fun _ => List.cons_ne_nil _ _⟩
            · have stops : (lists.entries next).ticks.toInt > (lists.entries newNode).ticks.toInt :=
                later
              rw [placeLoop, hasNext]
              simp only [data, Option.bind_eq_bind, Option.bind_some, stops, if_true]
            · rw [List.orderedInsert_cons, if_pos later, List.nil_append]
          · rcases ih restChain (by simpa using enough) with
              ⟨front, place, back, loop, shape, inserted, notLast⟩
            refine ⟨currNode :: front, place, back, ?_, ?_, ?_, ?_⟩
            · have goesOn : ¬(lists.entries next).ticks.toInt >
                  (lists.entries newNode).ticks.toInt := later
              rw [placeLoop, hasNext]
              simp only [data, Option.bind_eq_bind, Option.bind_some, goesOn, if_false, loop]
            · rw [shape, List.cons_append]
            · rw [List.orderedInsert_cons, if_neg later, inserted, List.cons_append]
            · rintro ⟨other, otherMem, otherLater⟩
              apply notLast
              rcases List.mem_cons.mp otherMem with rfl | restMem
              · exact absurd otherLater later
              · exact ⟨other, restMem, otherLater⟩

/-- The new node is inserted in order, behind those with the same deadline. -/
theorem insert_models (models : lists.heap.Models (clockFamily backed fun _ => True) nodes)
    (absent : Absent nodes newNode)
    (notLast : backed .blocked → nodes .blocked ≠ [] →
      ∃ other ∈ nodes .blocked, lists.EarlierNode newNode other) :
    ∃ heap, lists.insert newNode = some { lists with heap := heap } ∧
      heap.Models (clockFamily backed fun _ => True) (Function.update nodes .blocked
        ((nodes .blocked).orderedInsert lists.EarlierNode newNode)) := by
  have prepended : ∃ heap, queuePutFront lists.heap .blocked (some newNode) = (0, heap) ∧
      heap.Models (clockFamily backed fun _ => True)
        (Function.update nodes .blocked (newNode :: nodes .blocked)) :=
    models.queuePutFront trivial trivial absent card_entryIndex_lt
  rcases prepended with ⟨heap, put, inFront⟩
  cases shape : nodes .blocked with
  | nil =>
      have isEmpty : queueEmpty lists.heap .blocked = true :=
        (models.queueEmpty_iff trivial).mpr shape
      refine ⟨heap, ?_, ?_⟩
      · simp only [ClockLists.insert, isEmpty, if_true, put]
      · rw [List.orderedInsert_nil, ← shape]
        exact inFront
  | cons first rest =>
      have nonempty : queueEmpty lists.heap .blocked = false := by
        rw [Bool.eq_false_iff, ne_eq, models.queueEmpty_iff trivial, shape]
        exact List.cons_ne_nil _ _
      have peek := models.queuePeek trivial shape
      have chain := models.chain .blocked trivial
      rw [shape] at chain
      rcases isChain_cons.mp chain with ⟨front, restChain⟩
      by_cases later : lists.EarlierNode newNode first
      · refine ⟨heap, ?_, ?_⟩
        · have goesFirst : (lists.entries first).ticks.toInt >
              (lists.entries newNode).ticks.toInt := later
          simp only [ClockLists.insert, nonempty, Bool.false_eq_true, if_false, peek,
            clockFamily, id, Option.bind_eq_bind, Option.bind_some, goesFirst,
            if_true, put]
        · rw [List.orderedInsert_cons, if_pos later, ← shape]
          exact inFront
      · have notFirst : ¬(lists.entries first).ticks.toInt >
            (lists.entries newNode).ticks.toInt := later
        have data : ∀ node, (lists.heap.node node).data = some node :=
          fun node => models.data node trivial
        have enough : rest.length < taskDescriptorMaxTasks := by
          have fits := (models.placed.nodup .blocked).length_le_card
          rw [shape, List.length_cons, Fintype.card_fin] at fits
          exact fits
        rcases @placeLoop_eq lists newNode first rest _ data restChain enough with
          ⟨before, place, behind, loop, split, inserted, laterBehind⟩
        have behindNonempty : backed .blocked → behind ≠ [] := by
          intro isBacked
          apply laterBehind
          rw [shape] at notLast
          rcases notLast isBacked (List.cons_ne_nil _ _) with ⟨other, otherMem, otherLater⟩
          rcases List.mem_cons.mp otherMem with rfl | restMem
          · exact absurd otherLater later
          · exact ⟨other, restMem, otherLater⟩
        let queue := lists.heap.queue .blocked
        refine ⟨((lists.heap.setNext newNode (lists.heap.node place).next).setNext place
          (some newNode)).setQueue .blocked { queue with elements := queue.elements + 1 }, ?_, ?_⟩
        · simp only [ClockLists.insert, nonempty, Bool.false_eq_true, if_false, peek,
            clockFamily, id, Option.bind_eq_bind, Option.bind_some, notFirst, front,
            loop]
          rfl
        · rw [List.orderedInsert_cons, if_neg later, inserted]
          exact models.insert_after trivial behindNonempty trivial absent
            card_entryIndex_lt (shape.trans split)

theorem Holds.block_eq (holds : lists.Holds backed nodes) {free : List EntryIndex}
    (shape : nodes .freeList = newNode :: free) (ticks : Word) (tid : Tid) :
    ∃ taken : ClockLists, lists.block ticks tid = taken.insert newNode ∧
      taken.heap.Models (clockFamily backed fun _ => True)
        (Function.update nodes .freeList free) ∧
      taken.entries newNode = ⟨ticks, tid⟩ ∧
      ∀ node ∈ nodes .blocked, taken.entries node = lists.entries node := by
  rcases holds.models.queueGet_cons trivial shape with ⟨heap, got, models⟩
  let entries := Function.update lists.entries newNode { ticks := ticks, tid := tid }
  refine ⟨⟨heap, entries⟩, ?_, models, Function.update_self _ _ _, ?_⟩
  · rw [ClockLists.block, got]
    rfl
  · intro node nodeMem
    apply Function.update_of_ne
    rintro rfl
    have isFree : node ∈ nodes .freeList := by
      rw [shape]
      exact List.mem_cons_self
    have same := holds.models.placed.unique nodeMem isFree
    cases same

theorem Presents.block (presents : lists.Presents backed blocked)
    (isLeft : blocked.length < taskDescriptorMaxTasks) (ticks : Word) (tid : Tid)
    (notLast : backed .blocked → blocked ≠ [] →
      ∃ entry ∈ blocked, ticks.toInt < entry.ticks.toInt) :
    ∃ lists', lists.block ticks tid = some lists' ∧
      lists'.Presents backed (blocked.orderedInsert Earlier ⟨ticks, tid⟩) := by
  rcases presents with ⟨nodes, holds, rfl⟩
  have notEmpty : 0 < (nodes .freeList).length := by
    have lengths := holds.lengths
    rw [List.length_map] at isLeft
    omega
  rcases List.exists_cons_of_length_pos notEmpty with ⟨newNode, free, shape⟩
  have absent := holds.models.placed.absent_tail shape
  rcases holds.block_eq shape ticks tid with ⟨taken, block, models, isNew, others⟩
  have sameMap : (nodes .blocked).map taken.entries = (nodes .blocked).map lists.entries :=
    List.map_congr_left others
  have sameBlocked : Function.update nodes ClockQueue.freeList free .blocked = nodes .blocked :=
    Function.update_of_ne (by decide) _ _
  have nodeNotLast : backed .blocked →
      Function.update nodes ClockQueue.freeList free .blocked ≠ [] →
      ∃ other ∈ Function.update nodes ClockQueue.freeList free .blocked,
        taken.EarlierNode newNode other := by
    rw [sameBlocked]
    intro isBacked nonempty
    rcases notLast isBacked (by simpa using nonempty) with ⟨entry, entryMem, later⟩
    rcases List.mem_map.mp entryMem with ⟨other, otherMem, rfl⟩
    refine ⟨other, otherMem, ?_⟩
    rw [EarlierNode, isNew, others other otherMem]
    exact later
  rcases insert_models models absent nodeNotLast with ⟨heap', inserted, models'⟩
  rw [sameBlocked] at models'
  refine ⟨{ taken with heap := heap' }, block.trans inserted, _, ⟨models', ?_⟩, ?_⟩
  · intro other
    rw [Function.update_self, Function.update_of_ne (by decide), Function.update_self,
      List.mem_orderedInsert]
    rcases holds.all other with isBlocked | isFree
    · exact .inl (.inr isBlocked)
    · rw [shape] at isFree
      rcases List.mem_cons.mp isFree with rfl | stays
      · exact .inl (.inl rfl)
      · exact .inr stays
  · rw [Function.update_self, ← sameMap, ← isNew]
    exact List.map_orderedInsert _ _ _ _ _ (fun _ _ => Iff.rfl) (fun _ _ => Iff.rfl)

/-- With every entry in use, there is no result. -/
theorem Presents.block_full (presents : lists.Presents backed blocked)
    (isFull : blocked.length = taskDescriptorMaxTasks) (ticks : Word) (tid : Tid) :
    lists.block ticks tid = none := by
  rcases presents with ⟨nodes, holds, rfl⟩
  have noneFree : nodes .freeList = [] := by
    have lengths := holds.lengths
    rw [List.length_map] at isFull
    exact List.length_eq_zero_iff.mp (by omega)
  rw [ClockLists.block, holds.models.queueGet_nil trivial noneFree]
  rfl

end Insertion

end ClockLists

end ArmKernel
