import Mathlib.Data.List.Nodup
import Mathlib.Logic.Function.Basic

/-!
# Singly linked chains

A link map `next : Node → Option Node` over an arbitrary type of nodes describes
every singly linked structure drawn on these nodes. `IsSegment next start stop nodes`
says that following the links from `start` visits exactly `nodes` and then arrives
at `stop`; a chain is a segment that arrives at the null reference.

The rules below are the ones a proof about pointer code needs: segments compose,
a write to a node outside a segment does not disturb it, a chain is determined by
its start, and a chain never visits a node twice.
-/

namespace LinkedChain

universe u

variable {Node : Type u}

/-- Following `next` from `start` visits `nodes` in order and arrives at `stop`. -/
def IsSegment (next : Node → Option Node) (start stop : Option Node) : List Node → Prop
  | [] => start = stop
  | node :: rest => start = some node ∧ IsSegment next (next node) stop rest

/-- A segment that arrives at the null reference. -/
def IsChain (next : Node → Option Node) (start : Option Node) (nodes : List Node) : Prop :=
  IsSegment next start none nodes

/-- The nodes visited by following at most `steps` links from `start`. -/
def walk (next : Node → Option Node) : ℕ → Option Node → List Node
  | 0, _ => []
  | _ + 1, none => []
  | steps + 1, some node => node :: walk next steps (next node)

section Segments

variable {next : Node → Option Node} {start stop : Option Node} {nodes : List Node}

@[simp]
theorem isSegment_nil : IsSegment next start stop [] ↔ start = stop := Iff.rfl

@[simp]
theorem isSegment_cons {node : Node} :
    IsSegment next start stop (node :: nodes) ↔
      start = some node ∧ IsSegment next (next node) stop nodes := Iff.rfl

theorem isSegment_append {front rest : List Node} :
    IsSegment next start stop (front ++ rest) ↔
      ∃ middle, IsSegment next start middle front ∧ IsSegment next middle stop rest := by
  induction front generalizing start with
  | nil => simp
  | cons node front ih => simp [ih, and_assoc]

theorem isSegment_concat {node : Node} :
    IsSegment next start stop (nodes ++ [node]) ↔
      IsSegment next start (some node) nodes ∧ next node = stop := by
  rw [isSegment_append]
  constructor
  · rintro ⟨middle, front, rfl, last⟩
    exact ⟨front, last⟩
  · rintro ⟨front, last⟩
    exact ⟨some node, front, rfl, last⟩

theorem IsSegment.congr {next' : Node → Option Node}
    (agree : ∀ node ∈ nodes, next' node = next node)
    (segment : IsSegment next start stop nodes) : IsSegment next' start stop nodes := by
  induction nodes generalizing start with
  | nil => exact segment
  | cons node rest ih =>
      refine ⟨segment.1, ?_⟩
      rw [agree node (by simp)]
      exact ih (fun other otherMem => agree other (by simp [otherMem])) segment.2

theorem IsSegment.update [DecidableEq Node] {node : Node} {target : Option Node}
    (outside : node ∉ nodes) (segment : IsSegment next start stop nodes) :
    IsSegment (Function.update next node target) start stop nodes := by
  apply segment.congr
  intro other otherMem
  apply Function.update_of_ne
  rintro rfl
  exact outside otherMem

end Segments

section Chains

variable {next : Node → Option Node} {start : Option Node} {nodes : List Node}

@[simp]
theorem isChain_nil : IsChain next start [] ↔ start = none := Iff.rfl

@[simp]
theorem isChain_cons {node : Node} :
    IsChain next start (node :: nodes) ↔ start = some node ∧ IsChain next (next node) nodes :=
  Iff.rfl

/-- The nodes of a chain determine where it starts and all links between them. -/
theorem IsChain.links {next' : Node → Option Node} {start' : Option Node}
    (left : IsChain next start nodes) (right : IsChain next' start' nodes) :
    start' = start ∧ ∀ node ∈ nodes, next' node = next node := by
  induction nodes generalizing start start' with
  | nil => exact ⟨right.trans left.symm, fun node nodeMem => by simp at nodeMem⟩
  | cons first rest ih =>
      rcases ih left.2 right.2 with ⟨sameNext, sameRest⟩
      refine ⟨right.1.trans left.1.symm, fun node nodeMem => ?_⟩
      rcases List.mem_cons.mp nodeMem with rfl | restMem
      · exact sameNext
      · exact sameRest node restMem

theorem IsChain.unique {nodes' : List Node} (left : IsChain next start nodes)
    (right : IsChain next start nodes') : nodes = nodes' := by
  induction nodes generalizing start nodes' with
  | nil =>
      rw [isChain_nil] at left
      subst left
      cases nodes' with
      | nil => rfl
      | cons node rest => simp at right
  | cons node rest ih =>
      rcases left with ⟨rfl, leftRest⟩
      cases nodes' with
      | nil => simp at right
      | cons node' rest' =>
          rcases right with ⟨sameNode, rightRest⟩
          rcases Option.some.inj sameNode with rfl
          rw [ih leftRest rightRest]

/-- The part of a chain after one of its nodes is the chain from that node's link. -/
theorem IsChain.of_append {front : List Node} {node : Node}
    (chain : IsChain next start (front ++ node :: nodes)) : IsChain next (next node) nodes := by
  rcases isSegment_append.mp chain with ⟨middle, -, -, rest⟩
  exact rest

/--
A chain never visits a node twice: both visits would be followed by the same chain,
but the second one lies strictly inside the first.
-/
theorem IsChain.nodup (chain : IsChain next start nodes) : nodes.Nodup := by
  induction nodes generalizing start with
  | nil => exact List.nodup_nil
  | cons node rest ih =>
      refine List.nodup_cons.mpr ⟨?_, ih chain.2⟩
      intro revisited
      rcases List.append_of_mem revisited with ⟨front, back, rfl⟩
      have fromFirst : IsChain next (next node) (front ++ node :: back) := chain.2
      have sameLength := congrArg List.length (fromFirst.unique fromFirst.of_append)
      simp only [List.length_append, List.length_cons] at sameLength
      omega

/-- Walking as many links as a chain has nodes visits exactly the chain. -/
theorem IsChain.walk_eq (chain : IsChain next start nodes) :
    walk next nodes.length start = nodes := by
  induction nodes generalizing start with
  | nil => rfl
  | cons node rest ih =>
      rcases chain with ⟨rfl, restChain⟩
      simp [walk, ih restChain]

end Chains

section Updates

variable [DecidableEq Node] {next : Node → Option Node} {start : Option Node}
  {nodes : List Node}

theorem IsChain.update {node : Node} {target : Option Node} (outside : node ∉ nodes)
    (chain : IsChain next start nodes) : IsChain (Function.update next node target) start nodes :=
  IsSegment.update outside chain

/-- Linking a fresh node behind the last node of a chain appends it. -/
theorem IsChain.append_fresh {last fresh : Node}
    (chain : IsChain next start (nodes ++ [last])) (isFresh : fresh ∉ nodes ++ [last]) :
    IsChain (Function.update (Function.update next last (some fresh)) fresh none) start
      (nodes ++ [last] ++ [fresh]) := by
  have lastFresh : last ∉ nodes := by
    have nodup := chain.nodup
    simp only [List.nodup_append, List.mem_singleton] at nodup
    exact fun lastMem => nodup.2.2 last lastMem last rfl rfl
  have freshNe : last ≠ fresh := by
    rintro rfl
    simp at isFresh
  have freshOutside : fresh ∉ nodes := fun freshMem => isFresh (by simp [freshMem])
  rcases isSegment_concat.mp chain with ⟨front, -⟩
  refine isSegment_concat.mpr ⟨isSegment_concat.mpr ⟨?_, ?_⟩, by simp⟩
  · exact (front.update lastFresh).update freshOutside
  · rw [Function.update_of_ne freshNe, Function.update_self]

theorem IsChain.tail_update {node : Node} (chain : IsChain next start (node :: nodes)) :
    IsChain (Function.update next node none) (next node) nodes := by
  have nodup := chain.nodup
  exact IsChain.update (List.nodup_cons.mp nodup).1 chain.2

/-- Linking a fresh node between two neighbours of a chain inserts it there. -/
theorem IsChain.insert_after {front rest : List Node} {node fresh : Node}
    (chain : IsChain next start (front ++ node :: rest))
    (isFresh : fresh ∉ front ++ node :: rest) :
    IsChain (Function.update (Function.update next fresh (next node)) node (some fresh)) start
      (front ++ node :: fresh :: rest) := by
  have nodup := chain.nodup
  simp only [List.nodup_append, List.nodup_cons, List.mem_cons] at nodup
  rcases nodup with ⟨-, ⟨nodeRest, -⟩, apart⟩
  have nodeFront : node ∉ front := fun nodeMem => apart node nodeMem node (Or.inl rfl) rfl
  simp only [List.mem_append, List.mem_cons, not_or] at isFresh
  rcases isFresh with ⟨freshFront, freshNode, freshRest⟩
  rcases isSegment_append.mp chain with ⟨middle, before, atNode, after⟩
  refine isSegment_append.mpr ⟨middle, (before.update freshFront).update nodeFront, atNode, ?_⟩
  refine ⟨by simp, ?_⟩
  rw [Function.update_of_ne freshNode, Function.update_self]
  exact (IsChain.update freshRest after).update nodeRest

/-- Linking a node before its predecessor, which is linked to what follows, draws the chain of the
two and of the rest; what came before them is not on it. -/
theorem IsChain.swap {front rest : List Node} {node successor : Node}
    (chain : IsChain next start (front ++ node :: successor :: rest)) :
    IsChain (Function.update (Function.update next node (next successor)) successor (some node))
      (some successor) (successor :: node :: rest) := by
  have nodup := chain.nodup
  simp only [List.nodup_append, List.nodup_cons, List.mem_cons, not_or] at nodup
  rcases nodup with ⟨-, ⟨⟨nodeNe, nodeRest⟩, successorRest, -⟩, -⟩
  rcases isChain_cons.mp chain.of_append with ⟨-, restChain⟩
  refine ⟨rfl, ?_, ?_⟩
  · rw [Function.update_self]
  · rw [Function.update_of_ne nodeNe, Function.update_self]
    exact IsChain.update successorRest (IsChain.update nodeRest restChain)

end Updates

end LinkedChain
