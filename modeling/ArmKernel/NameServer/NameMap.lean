import ArmKernel.NameServer

/-!
# The name map as a list of registrations

The nodes of the array are used in order and each goes to the front of the queue. So after
`k` registrations the queue holds the first `k` nodes, the last of them first, and their
entries are the registrations, the most recent one first. A search of the queue looks the
name up in this list, and an insertion adds to it.
-/

namespace ArmKernel

open LinkedChain Placement QueueHeap

instance : NeZero nameServerMaxNames := ⟨by decide⟩

/-- The nodes that are in the queue after `count` registrations. -/
def usedNodes : ℕ → List NameIndex
  | 0 => []
  | count + 1 => Fin.ofNat nameServerMaxNames count :: usedNodes count

theorem usedNodes_length (count : ℕ) : (usedNodes count).length = count := by
  induction count with
  | zero => rfl
  | succ count ih => rw [usedNodes, List.length_cons, ih]

theorem lt_of_mem_usedNodes {count : ℕ} (few : count ≤ nameServerMaxNames) {node : NameIndex}
    (nodeMem : node ∈ usedNodes count) : node.val < count := by
  induction count with
  | zero => cases nodeMem
  | succ count ih =>
      rcases List.mem_cons.mp nodeMem with rfl | isOlder
      · rw [Fin.val_ofNat, Nat.mod_eq_of_lt (by omega)]
        exact Nat.lt_succ_self count
      · exact (ih (by omega) isOlder).trans (Nat.lt_succ_self count)

/-- The queue of the map once it is set up, with the nodes that were initialised. -/
def nameFamily (inited : NameIndex → Prop) : QueueFamily Unit NameIndex NameIndex where
  live := fun _ => True
  backed := fun _ => True
  inited := inited
  payload := id

/-- What a search compares of a name. -/
def nameKey (name : ℕ → Byte) : List Byte := text name nameServerMaxNameLen 0

theorem nameKey_strncpy (dest src : ℕ → Byte) :
    nameKey (strncpy dest src nameServerMaxNameLen) = nameKey src := text_strncpy

/-- The registration in an entry. -/
def NameMapEntry.registration (entry : NameMapEntry) : List Byte × Tid :=
  (nameKey entry.name, entry.tid)

/-- The map holds the registrations, the most recent one first. -/
structure NameMap.Holds (nm : NameMap) (registered : List (List Byte × Tid)) : Prop where
  few : registered.length ≤ nameServerMaxNames
  models : nm.heap.Models (nameFamily fun _ => True) fun _ => usedNodes registered.length
  entries : (usedNodes registered.length).map (fun node => (nm.nodeData node).registration) =
    registered

/-- The task that a search for the name finds. -/
def NameMap.tidOf (nm : NameMap) (name : ℕ → Byte) : Option Tid :=
  (nameMapFind nm name).join.map fun entry => (nm.nodeData entry).tid

section Init

/-- The loop of `name_map_init` initialises the nodes it visits. -/
theorem initNode_models {nm : NameMap} {inited : NameIndex → Prop} {nodes : List NameIndex}
    (models : nm.heap.Models (nameFamily inited) fun _ => [])
    (fresh : ∀ node ∈ nodes, ¬inited node) (distinct : nodes.Nodup) :
    (nodes.foldl NameMap.initNode nm).heap.Models
      (nameFamily fun node => inited node ∨ node ∈ nodes) fun _ => [] := by
  induction nodes generalizing nm inited with
  | nil => simpa only [List.foldl_nil, List.not_mem_nil, or_false] using models
  | cons first rest ih =>
      rcases List.nodup_cons.mp distinct with ⟨firstNotMem, restDistinct⟩
      have oneMore : (nm.initNode first).heap.Models
          (nameFamily fun node => inited node ∨ node = first) fun _ => [] :=
        models.queueNodeInit first (fresh first List.mem_cons_self)
      have restFresh : ∀ node ∈ rest, ¬(inited node ∨ node = first) := by
        rintro node nodeMem (already | rfl)
        · exact fresh node (List.mem_cons_of_mem first nodeMem) already
        · exact firstNotMem nodeMem
      simpa only [List.foldl_cons, List.mem_cons, or_assoc] using ih oneMore restFresh restDistinct

/-- The map is empty at first, whatever its memory held. -/
theorem nameMapInit_holds (nm : NameMap) : (nameMapInit nm).Holds [] := by
  let unused : QueueFamily Unit NameIndex NameIndex :=
    { nameFamily (fun _ => False) with live := fun _ => False }
  have nothing : nm.heap.Models unused fun _ => [] := by
    refine ⟨placed_empty, ?_, ?_, ?_, ?_, ?_, ?_, ?_⟩
    · exact fun _ isLive => isLive.elim
    · exact fun _ isLive => isLive.elim
    · exact fun _ isLive => isLive.elim
    · exact fun _ _ => rfl
    · exact fun _ _ nodeMem => absurd nodeMem List.not_mem_nil
    · exact fun _ isInited => isInited.elim
    · exact fun _ isInited => isInited.elim
  have empty : (queueInit nm.heap ()).Models (nameFamily fun _ => False) fun _ => [] := by
    simpa only [QueueFamily.addQueue, unused, nameFamily, false_or] using
      nothing.queueInit () not_false
  have ready := @initNode_models { nm with heap := queueInit nm.heap () } _
    (List.finRange nameServerMaxNames) empty (fun _ _ => not_false) (List.nodup_finRange _)
  simp only [List.mem_finRange, or_true] at ready
  exact ⟨Nat.zero_le _, ready, rfl⟩

end Init

variable {nm nm' : NameMap} {registered : List (List Byte × Tid)} {name : ℕ → Byte} {tid : Tid}

section Find

/-- The loop of `name_map_find` stops at the first entry with the name. -/
theorem nameMapFindLoop_eq {start : Option NameIndex} {nodes : List NameIndex} {remaining : ℕ}
    (data : ∀ node, (nm.heap.node node).data = some node)
    (chain : IsChain nm.heap.next start nodes) (enough : nodes.length ≤ remaining) :
    nameMapFindLoop nm name remaining start =
      some (nodes.find? fun node => nameKey (nm.nodeData node).name == nameKey name) := by
  induction nodes generalizing start remaining with
  | nil =>
      rw [isChain_nil.mp chain]
      cases remaining <;> rfl
  | cons node rest ih =>
      rcases isChain_cons.mp chain with ⟨rfl, restChain⟩
      cases remaining with
      | zero => simp at enough
      | succ remaining =>
          have compared : strncmp (nm.nodeData node).name name nameServerMaxNameLen = 0 ↔
              nameKey (nm.nodeData node).name = nameKey name := strncmp_eq_zero_iff
          simp only [nameMapFindLoop, data, Option.bind_eq_bind, Option.bind_some]
          by_cases isFound : nameKey (nm.nodeData node).name = nameKey name
          · rw [if_pos (compared.mpr isFound)]
            simp only [List.find?_cons, beq_iff_eq.mpr isFound]
          · rw [if_neg (isFound ∘ compared.mp)]
            simp only [List.find?_cons, beq_eq_false_iff_ne.mpr isFound]
            exact ih restChain (by simpa using enough)

theorem NameMap.Holds.find (holds : nm.Holds registered) (name : ℕ → Byte) :
    ∃ entry, nameMapFind nm name = some entry ∧
      (entry.map fun entry => (nm.nodeData entry).tid) = registered.lookup (nameKey name) := by
  have data : ∀ node, (nm.heap.node node).data = some node :=
    fun node => holds.models.data node trivial
  have enough : (usedNodes registered.length).length ≤ nameServerMaxNames := by
    rw [usedNodes_length]
    exact holds.few
  refine ⟨_, nameMapFindLoop_eq data (holds.models.chain () trivial) enough, ?_⟩
  have lookup : ∀ nodes : List NameIndex,
      ((nodes.find? fun node => nameKey (nm.nodeData node).name == nameKey name).map
        fun entry => (nm.nodeData entry).tid) =
      (nodes.map fun node => (nm.nodeData node).registration).lookup (nameKey name) := by
    intro nodes
    induction nodes with
    | nil => rfl
    | cons node rest ih =>
        by_cases isFound : nameKey (nm.nodeData node).name = nameKey name
        · simp [NameMapEntry.registration, isFound]
        · have otherName : (nameKey name == nameKey (nm.nodeData node).name) = false :=
            beq_eq_false_iff_ne.mpr (Ne.symm isFound)
          simp only [List.find?_cons, beq_eq_false_iff_ne.mpr isFound, List.map_cons,
            NameMapEntry.registration, List.lookup_cons, otherName]
          exact ih
  rw [lookup, holds.entries]

theorem NameMap.Holds.tidOf (holds : nm.Holds registered) (name : ℕ → Byte) :
    nm.tidOf name = registered.lookup (nameKey name) := by
  rcases holds.find name with ⟨entry, found, tid⟩
  rw [NameMap.tidOf, found, Option.join_some, tid]

end Find

section Insert

theorem NameMap.Holds.elements (holds : nm.Holds registered) :
    (queueSize nm.heap ()).toNat = registered.length := by
  rw [queueSize, holds.models.elements () trivial, usedNodes_length]

/-- While there is a node left, the insertion succeeds and adds the registration. -/
theorem NameMap.Holds.insert (holds : nm.Holds registered)
    (isLeft : registered.length < nameServerMaxNames) (name : ℕ → Byte) (tid : Tid) :
    ∃ nm', nameMapInsert nm name tid = some (0, nm') ∧
      nm'.Holds ((nameKey name, tid) :: registered) := by
  let newNode : NameIndex := Fin.ofNat nameServerMaxNames registered.length
  have index : newNode.val = registered.length := by
    rw [Fin.val_ofNat, Nat.mod_eq_of_lt isLeft]
  have unused : newNode ∉ usedNodes registered.length := by
    intro newMem
    have older := lt_of_mem_usedNodes holds.few newMem
    omega
  have data : (nm.heap.node newNode).data = some newNode := holds.models.data newNode trivial
  have small : Fintype.card NameIndex < 2 ^ 32 := by
    rw [Fintype.card_fin, nameServerMaxNames]
    omega
  have prepended : ∃ heap, queuePutFront nm.heap () (some newNode) = (0, heap) ∧
      heap.Models (nameFamily fun _ => True) (Function.update (fun _ => usedNodes registered.length)
        () (newNode :: usedNodes registered.length)) :=
    holds.models.queuePutFront trivial trivial (fun _ => unused) small
  rcases prepended with ⟨heap, put, models⟩
  let entry : NameMapEntry :=
    { name := strncpy (nm.nodeData newNode).name name nameServerMaxNameLen, tid := tid }
  refine ⟨{ heap := heap, nodeData := Function.update nm.nodeData newNode entry }, ?_, ?_⟩
  · have inside : (queueSize nm.heap ()).toNat < nameServerMaxNames := holds.elements ▸ isLeft
    have sameNode : (⟨(queueSize nm.heap ()).toNat, inside⟩ : NameIndex) = newNode :=
      Fin.ext (holds.elements.trans index.symm)
    rw [nameMapInsert, dif_pos inside]
    simp only [sameNode, data, put, Option.bind_eq_bind, Option.bind_some]
    rfl
  · refine ⟨isLeft, ?_, ?_⟩
    · have sameLists : Function.update (fun _ : Unit => usedNodes registered.length) ()
          (newNode :: usedNodes registered.length) =
          fun _ => usedNodes (registered.length + 1) := by
        funext ctx
        rw [Function.update_self]
        rfl
      rw [List.length_cons, ← sameLists]
      exact models
    · have newKey : nameKey entry.name = nameKey name := nameKey_strncpy _ _
      have others : ∀ node ∈ usedNodes registered.length,
          (Function.update nm.nodeData newNode entry node).registration =
            (nm.nodeData node).registration := by
        intro node nodeMem
        rw [Function.update_of_ne]
        rintro rfl
        exact unused nodeMem
      rw [List.length_cons, usedNodes, List.map_cons, List.map_congr_left others, holds.entries]
      simp only [newNode] at newKey ⊢
      rw [Function.update_self, NameMapEntry.registration, newKey]

/-- When every node is in use, the insertion takes a node from behind the array. -/
theorem NameMap.Holds.insert_full (holds : nm.Holds registered)
    (isFull : registered.length = nameServerMaxNames) (name : ℕ → Byte) (tid : Tid) :
    nameMapInsert nm name tid = none := by
  rw [nameMapInsert, dif_neg]
  rw [holds.elements, isFull]
  exact lt_irrefl _

theorem NameMap.Holds.of_insert {ret : Byte} (holds : nm.Holds registered)
    (inserted : nameMapInsert nm name tid = some (ret, nm')) :
    registered.length < nameServerMaxNames ∧ ret = 0 ∧
      nm'.Holds ((nameKey name, tid) :: registered) := by
  rcases Nat.lt_or_eq_of_le holds.few with isLeft | isFull
  · rcases holds.insert isLeft name tid with ⟨nm'', result, holds'⟩
    rw [result, Option.some.injEq, Prod.mk.injEq] at inserted
    rcases inserted with ⟨rfl, rfl⟩
    exact ⟨isLeft, rfl, holds'⟩
  · rw [holds.insert_full isFull] at inserted
    exact absurd inserted (Option.some_ne_none _).symm

end Insert

end ArmKernel
