import ArmKernel.RingBuffer
import ArmKernel.Lib.BoundedFifo

/-!
# Ring buffers on words

The functions of ringbuffer.c with the arithmetic of the machine: indices, sizes and lengths
are words, their sums wrap, and nothing says that an index is below the size. In a run from
`ringbuffer_init` every index is, for every size but 0, and so the words stand for the
numbers that the ring buffers of the model are made of. From there the run is followed by a
bounded queue, whose capacity is the size less the cell that stays free.
-/

namespace ArmKernel

/-- `ringbuffer_t`, with the cells that `buf` points to. -/
structure RingbufferT where
  readIndex : Word
  writeIndex : Word
  size : Word
  buf : Word → Byte

namespace Machine

def ringbufferInit (buf : Word → Byte) (bufSize : Word) : RingbufferT := ⟨0, 0, bufSize, buf⟩

def ringbufferEmpty (ctx : RingbufferT) : Bool := ctx.readIndex == ctx.writeIndex

def ringbufferFull (ctx : RingbufferT) : Bool :=
  (ctx.writeIndex + 1) % ctx.size == ctx.readIndex

def ringbufferSize (ctx : RingbufferT) : Word :=
  if ctx.writeIndex < ctx.readIndex then
    (ctx.writeIndex + ctx.size) - ctx.readIndex
  else
    ctx.writeIndex - ctx.readIndex

/-- The pointer `&ctx->buf[index]` is the index, and NULL is `none`. -/
def ringbufferGet (ctx : RingbufferT) : Option Word × RingbufferT :=
  if ringbufferEmpty ctx then
    (none, ctx)
  else
    (some ctx.readIndex, { ctx with readIndex := (ctx.readIndex + 1) % ctx.size })

/-- The two assignments that write a byte, in `ringbuffer_put` and in `ringbuffer_putn`. -/
def store (ctx : RingbufferT) (data : Byte) : RingbufferT :=
  { ctx with
    buf := Function.update ctx.buf ctx.writeIndex data
    writeIndex := (ctx.writeIndex + 1) % ctx.size }

def ringbufferPut (ctx : RingbufferT) (data : Byte) : Bool × RingbufferT :=
  if ringbufferFull ctx then
    (false, ctx)
  else
    (true, store ctx data)

theorem toNat_succ {index bound : Word} (less : index < bound) :
    (index + 1).toNat = index.toNat + 1 := by
  have boundLt : bound.toNat < 2 ^ 32 := bound.isLt
  have indexLt : index.toNat < bound.toNat := less
  rw [BitVec.toNat_add]
  apply Nat.mod_eq_of_lt
  change index.toNat + 1 < 2 ^ 32
  omega

theorem ringbufferPut_of_true {ctx : RingbufferT} {data : Byte}
    (accepted : (ringbufferPut ctx data).1 = true) :
    ringbufferPut ctx data = (true, store ctx data) := by
  simp only [ringbufferPut] at accepted ⊢
  split_ifs at accepted ⊢
  rfl

/-- The loop of `ringbuffer_putn` from index `i` on. -/
def ringbufferPutnLoop (data : Word → Byte) (dataLen i : Word) (ctx : RingbufferT) :
    RingbufferT :=
  if i < dataLen then
    ringbufferPutnLoop data dataLen (i + 1) (store ctx (data i))
  else
    ctx
termination_by dataLen.toNat - i.toNat
decreasing_by
  have more : i < dataLen := by assumption
  have less : i.toNat < dataLen.toNat := more
  have succ := toNat_succ more
  omega

def ringbufferPutn (ctx : RingbufferT) (data : Word → Byte) (dataLen : Word) :
    Bool × RingbufferT :=
  if (ctx.size - 1) - ringbufferSize ctx < dataLen then
    (false, ctx)
  else
    (true, ringbufferPutnLoop data dataLen 0 ctx)

theorem ringbufferPutn_of_true {ctx : RingbufferT} {data : Word → Byte} {dataLen : Word}
    (accepted : (ringbufferPutn ctx data dataLen).1 = true) :
    ringbufferPutn ctx data dataLen = (true, ringbufferPutnLoop data dataLen 0 ctx) := by
  simp only [ringbufferPutn] at accepted ⊢
  split_ifs at accepted ⊢
  rfl

theorem ringbufferPutnLoop_done {data : Word → Byte} {dataLen i : Word} {ctx : RingbufferT}
    (done : i.toNat = dataLen.toNat) : ringbufferPutnLoop data dataLen i ctx = ctx := by
  have notLess : ¬i < dataLen := by
    rw [BitVec.lt_def]
    omega
  rw [ringbufferPutnLoop, if_neg notLess]

theorem ringbufferPutnLoop_more {data : Word → Byte} {dataLen i : Word} {ctx : RingbufferT}
    (more : i < dataLen) : ringbufferPutnLoop data dataLen i ctx =
      ringbufferPutnLoop data dataLen (i + 1) (store ctx (data i)) := by
  rw [ringbufferPutnLoop, if_pos more]

/-- One `ringbuffer_put` after the other: what they return, and the buffer afterwards. -/
def putEach : List Byte → RingbufferT → List Bool × RingbufferT
  | [], ctx => ([], ctx)
  | byte :: bytes, ctx =>
      let rest := putEach bytes (ringbufferPut ctx byte).2
      ((ringbufferPut ctx byte).1 :: rest.1, rest.2)

end Machine

/-- The words of a buffer stand for the numbers of another, which are below its size. -/
structure RingbufferT.Simulates (ctx : RingbufferT) (ring : RingBuffer) : Prop where
  read : ctx.readIndex.toNat = ring.readIndex
  write : ctx.writeIndex.toNat = ring.writeIndex
  size : ctx.size.toNat = ring.size
  buf : ∀ index : Word, index.toNat < ring.size → ctx.buf index = ring.buf index.toNat

namespace RingbufferT.Simulates

variable {ctx : RingbufferT} {ring : RingBuffer}

theorem init {buf : Word → Byte} {bufSize : Word} (positive : 0 < bufSize.toNat) :
    (Machine.ringbufferInit buf bufSize).Simulates
      (ringbufferInit (fun index => buf (BitVec.ofNat 32 index)) bufSize.toNat positive) where
  read := rfl
  write := rfl
  size := rfl
  buf index _ := by
    simp only [Machine.ringbufferInit, ringbufferInit, BitVec.ofNat_toNat, BitVec.setWidth_eq]

/-- The index after one below the size: the sum with 1 does not wrap. -/
theorem next (simulates : ctx.Simulates ring) {index : Word} (indexLt : index.toNat < ring.size) :
    ((index + 1) % ctx.size).toNat = (index.toNat + 1) % ring.size := by
  rw [← simulates.size] at indexLt ⊢
  rw [BitVec.toNat_umod, Machine.toNat_succ indexLt]

theorem empty (simulates : ctx.Simulates ring) :
    Machine.ringbufferEmpty ctx = ringbufferEmpty ring := by
  simp only [Machine.ringbufferEmpty, ringbufferEmpty, ← simulates.read, ← simulates.write,
    Bool.beq_eq_decide_eq, BitVec.toNat_inj]

theorem full (simulates : ctx.Simulates ring) :
    Machine.ringbufferFull ctx = ringbufferFull ring := by
  have writeLt : ctx.writeIndex.toNat < ring.size := simulates.write ▸ ring.write_lt
  simp only [Machine.ringbufferFull, ringbufferFull, ← simulates.read, ← simulates.write,
    ← simulates.next writeLt, Bool.beq_eq_decide_eq, BitVec.toNat_inj]

/-- In the first case the sum may wrap, and the difference wraps back. -/
theorem count (simulates : ctx.Simulates ring) :
    (Machine.ringbufferSize ctx).toNat = ringbufferSize ring := by
  have read := simulates.read
  have write := simulates.write
  have size := simulates.size
  have readLt := ring.read_lt
  have writeLt := ring.write_lt
  have bound : ctx.size.toNat < 2 ^ 32 := ctx.size.isLt
  simp only [Machine.ringbufferSize, ringbufferSize, BitVec.lt_def, read, write]
  split_ifs with wrapped
  · rw [BitVec.toNat_sub, BitVec.toNat_add]
    omega
  · rw [BitVec.toNat_sub]
    omega

theorem store (simulates : ctx.Simulates ring) (data : Byte) :
    (Machine.store ctx data).Simulates (ring.store data) where
  read := simulates.read
  write := by
    have writeLt : ctx.writeIndex.toNat < ring.size := simulates.write ▸ ring.write_lt
    simp only [Machine.store, RingBuffer.store, simulates.next writeLt, simulates.write]
  size := simulates.size
  buf index indexLt := by
    simp only [Machine.store, RingBuffer.store, Function.update_apply, ← simulates.write,
      BitVec.toNat_inj, simulates.buf index indexLt]

theorem get (simulates : ctx.Simulates ring) :
    (Machine.ringbufferGet ctx).2.Simulates (ringbufferGet ring).2 ∧
      (Machine.ringbufferGet ctx).1.map ctx.buf = (ringbufferGet ring).1 := by
  have readLt : ctx.readIndex.toNat < ring.size := simulates.read ▸ ring.read_lt
  simp only [Machine.ringbufferGet, ringbufferGet, simulates.empty]
  split_ifs
  · exact ⟨simulates, rfl⟩
  · constructor
    · exact {
        read := by simp only [simulates.next readLt, simulates.read]
        write := simulates.write
        size := simulates.size
        buf := simulates.buf }
    · simp only [Option.map_some, simulates.buf _ readLt, simulates.read]

theorem put (simulates : ctx.Simulates ring) (data : Byte) :
    (Machine.ringbufferPut ctx data).1 = (ringbufferPut ring data).1 ∧
      (Machine.ringbufferPut ctx data).2.Simulates (ringbufferPut ring data).2 := by
  simp only [Machine.ringbufferPut, ringbufferPut, simulates.full]
  split_ifs
  · exact ⟨rfl, simulates⟩
  · exact ⟨rfl, simulates.store data⟩

/-- The loops take the same steps: index `i` has not reached the length, so it does not wrap. -/
theorem putnLoop {data : Word → Byte} {dataLen i : Word} {remaining : ℕ}
    (simulates : ctx.Simulates ring) (left : i.toNat + remaining = dataLen.toNat) :
    (Machine.ringbufferPutnLoop data dataLen i ctx).Simulates
      (ringbufferPutnLoop (fun index => data (BitVec.ofNat 32 index)) i.toNat remaining ring) := by
  induction remaining generalizing ctx ring i with
  | zero =>
      rw [Machine.ringbufferPutnLoop_done left]
      exact simulates
  | succ remaining ih =>
      have more : i < dataLen := by
        rw [BitVec.lt_def]
        omega
      have succ := Machine.toNat_succ more
      have rest := ih (simulates.store (data i)) (i := i + 1) (by omega)
      rw [Machine.ringbufferPutnLoop_more more, ringbufferPutnLoop]
      simpa only [succ, BitVec.ofNat_toNat, BitVec.setWidth_eq] using rest

/-- The free cells are counted without a wrap, so the lengths that fit are the same. -/
theorem putn (simulates : ctx.Simulates ring) (data : Word → Byte) (dataLen : Word) :
    let afterwards :=
      ringbufferPutn ring (fun index => data (BitVec.ofNat 32 index)) dataLen.toNat
    (Machine.ringbufferPutn ctx data dataLen).1 = afterwards.1 ∧
      (Machine.ringbufferPutn ctx data dataLen).2.Simulates afterwards.2 := by
  have size := simulates.size
  have count := simulates.count
  have countLt := ring.size_lt
  have bound : ctx.size.toNat < 2 ^ 32 := ctx.size.isLt
  have last : (ctx.size - 1).toNat = ring.size - 1 := by
    rw [BitVec.toNat_sub]
    change (2 ^ 32 - 1 + ctx.size.toNat) % 2 ^ 32 = ring.size - 1
    omega
  have free : ((ctx.size - 1) - Machine.ringbufferSize ctx).toNat =
      (ring.size - 1) - ringbufferSize ring := by
    rw [BitVec.toNat_sub, last, count]
    omega
  simp only [Machine.ringbufferPutn, ringbufferPutn, BitVec.lt_def, free]
  split_ifs
  · exact ⟨rfl, simulates⟩
  · exact ⟨rfl, simulates.putnLoop (Nat.zero_add _)⟩

end RingbufferT.Simulates

/-- The bytes in the buffer, the one that is read next first. -/
def RingbufferT.contents (ctx : RingbufferT) : List Byte :=
  CircularBuffer.window ctx.size.toNat (fun index => ctx.buf (BitVec.ofNat 32 index))
    ctx.readIndex.toNat (Machine.ringbufferSize ctx).toNat

/-- The bytes `data[0]`, …, `data[dataLen - 1]`. -/
def bytesOf (data : Word → Byte) (dataLen : Word) : List Byte :=
  (List.range dataLen.toNat).map fun index => data (BitVec.ofNat 32 index)

/-- A call of one of the functions that change the buffer. -/
inductive RingOp where
  | put (data : Byte)
  | putn (data : Word → Byte) (dataLen : Word)
  | get

/-- What the caller of one of these functions sees: what it returns, and for a pointer the
byte that it points to. -/
inductive RingAnswer where
  | accepted (stored : Bool)
  | oldest (byte : Option Byte)

namespace RingOp

/-- The call in the code. -/
def call (ctx : RingbufferT) : RingOp → RingAnswer × RingbufferT
  | put data => ((Machine.ringbufferPut ctx data).map .accepted id)
  | putn data dataLen => (Machine.ringbufferPutn ctx data dataLen).map .accepted id
  | get => (Machine.ringbufferGet ctx).map (fun pointer => .oldest (pointer.map ctx.buf)) id

/-- What the call is meant to do. -/
def queue {capacity : ℕ} (fifo : BoundedFifo Byte capacity) :
    RingOp → RingAnswer × BoundedFifo Byte capacity
  | put data => (fifo.put data).map .accepted id
  | putn data dataLen => (fifo.putn (bytesOf data dataLen)).map .accepted id
  | get => fifo.get.map .oldest id

/-- One call after the other: what the caller sees, and the final state. -/
def run {State : Type} (step : State → RingOp → RingAnswer × State) :
    State → List RingOp → List RingAnswer × State
  | state, [] => ([], state)
  | state, op :: ops =>
      let rest := run step (step state op).2 ops
      ((step state op).1 :: rest.1, rest.2)

end RingOp

namespace RingbufferT

variable {capacity : ℕ} {ctx : RingbufferT} {fifo : BoundedFifo Byte capacity}

/-- The buffer holds the items of the queue, and has one cell more than they may need. -/
def Refines (ctx : RingbufferT) (fifo : BoundedFifo Byte capacity) : Prop :=
  ∃ ring : RingBuffer, ctx.Simulates ring ∧ ring.contents = fifo.items ∧
    ring.size = capacity + 1

theorem Simulates.contents {ring : RingBuffer} (simulates : ctx.Simulates ring) :
    ctx.contents = ring.contents := by
  have positive : 0 < ring.size := Nat.zero_lt_of_lt ring.read_lt
  have bound : ctx.size.toNat < 2 ^ 32 := ctx.size.isLt
  rw [RingbufferT.contents, RingBuffer.contents, simulates.size, simulates.read, simulates.count]
  apply List.map_congr_left
  intro offset _
  have cellLt := Nat.mod_lt (ring.readIndex + offset) positive
  have cell : (BitVec.ofNat 32 ((ring.readIndex + offset) % ring.size)).toNat =
      (ring.readIndex + offset) % ring.size := by
    rw [BitVec.toNat_ofNat]
    apply Nat.mod_eq_of_lt
    have sizes := simulates.size
    omega
  have cells := simulates.buf _ (cell.trans_lt cellLt)
  rwa [cell] at cells

theorem refines_init {buf : Word → Byte} {bufSize : Word} (positive : 0 < bufSize.toNat) :
    (Machine.ringbufferInit buf bufSize).Refines (BoundedFifo.empty Byte (bufSize.toNat - 1)) :=
  ⟨_, .init positive, rfl, by rw [Nat.sub_add_cancel positive]; rfl⟩

theorem Refines.put (refines : ctx.Refines fifo) (data : Byte) :
    (Machine.ringbufferPut ctx data).1 = (fifo.put data).1 ∧
      (Machine.ringbufferPut ctx data).2.Refines (fifo.put data).2 := by
  rcases refines with ⟨ring, simulates, contents, size⟩
  rcases simulates.put data with ⟨sameAnswer, simulatesPut⟩
  have agree : (ringbufferPut ring data).1 = (fifo.put data).1 := by
    rw [Bool.eq_iff_iff, RingBuffer.put_eq_true_iff, BoundedFifo.put_eq_true_iff, contents, size,
      Nat.add_sub_cancel]
  refine ⟨sameAnswer.trans agree, _, simulatesPut, ?_, RingBuffer.size_put.trans size⟩
  cases accepted : (fifo.put data).1 with
  | true =>
      have room := BoundedFifo.put_eq_true_iff.mp accepted
      rw [BoundedFifo.put_items room, RingBuffer.contents_put, contents]
      rwa [contents, size, Nat.add_sub_cancel]
  | false =>
      have refused : (ringbufferPut ring data).2 = ring := by
        apply RingBuffer.put_unchanged
        rw [agree, accepted]
      rw [refused, BoundedFifo.put_unchanged accepted, contents]

theorem Refines.putn (refines : ctx.Refines fifo) (data : Word → Byte) (dataLen : Word) :
    (Machine.ringbufferPutn ctx data dataLen).1 = (fifo.putn (bytesOf data dataLen)).1 ∧
      (Machine.ringbufferPutn ctx data dataLen).2.Refines
        (fifo.putn (bytesOf data dataLen)).2 := by
  rcases refines with ⟨ring, simulates, contents, size⟩
  rcases simulates.putn data dataLen with ⟨sameAnswer, simulatesPutn⟩
  have bytesLength : (bytesOf data dataLen).length = dataLen.toNat := by
    rw [bytesOf, List.length_map, List.length_range]
  have agree : (ringbufferPutn ring (fun index => data (BitVec.ofNat 32 index)) dataLen.toNat).1 =
      (fifo.putn (bytesOf data dataLen)).1 := by
    rw [Bool.eq_iff_iff, RingBuffer.putn_eq_true_iff, BoundedFifo.putn_eq_true_iff, contents, size,
      bytesLength, Nat.add_sub_cancel]
  refine ⟨sameAnswer.trans agree, _, simulatesPutn, ?_⟩
  cases accepted : (fifo.putn (bytesOf data dataLen)).1 with
  | true =>
      have room := BoundedFifo.putn_eq_true_iff.mp accepted
      have roomInRing : ring.contents.length + dataLen.toNat ≤ ring.size - 1 := by
        rwa [contents, size, Nat.add_sub_cancel, ← bytesLength]
      have stored : (ringbufferPutn ring (fun index => data (BitVec.ofNat 32 index))
          dataLen.toNat).2.contents = ring.contents ++ bytesOf data dataLen ∧ _ :=
        RingBuffer.contents_putn roomInRing
      rcases stored with ⟨appended, sameSize⟩
      rw [BoundedFifo.putn_items room, appended, contents, sameSize]
      exact ⟨rfl, size⟩
  | false =>
      rw [RingBuffer.putn_unchanged (agree.trans accepted), BoundedFifo.putn_unchanged accepted]
      exact ⟨contents, size⟩

theorem Refines.get (refines : ctx.Refines fifo) :
    (Machine.ringbufferGet ctx).1.map ctx.buf = fifo.get.1 ∧
      (Machine.ringbufferGet ctx).2.Refines fifo.get.2 := by
  rcases refines with ⟨ring, simulates, contents, size⟩
  rcases simulates.get with ⟨simulatesGet, sameAnswer⟩
  cases isEmpty : ringbufferEmpty ring with
  | true =>
      have noItems : fifo.items = [] := contents ▸ ring.empty_iff.mp isEmpty
      have nothing : ringbufferGet ring = (none, ring) := by
        rw [ringbufferGet, isEmpty, if_pos rfl]
      rcases BoundedFifo.get_empty noItems with ⟨noOldest, noOthers⟩
      rw [nothing] at simulatesGet sameAnswer
      exact ⟨sameAnswer.trans noOldest.symm, ring, simulatesGet,
        by rw [noOthers, contents, noItems], size⟩
  | false =>
      rcases RingBuffer.contents_get isEmpty with ⟨byte, oldest, others, sameSize⟩
      rcases BoundedFifo.get_items (contents ▸ others) with ⟨sameOldest, sameOthers⟩
      exact ⟨(sameAnswer.trans oldest).trans sameOldest.symm, _, simulatesGet, sameOthers.symm,
        sameSize.trans size⟩

/-- As many bytes as are free are put one by one as `ringbuffer_putn` puts them together. -/
theorem Refines.putEach {data : Word → Byte} {dataLen i : Word} {remaining : ℕ}
    (refines : ctx.Refines fifo) (left : i.toNat + remaining = dataLen.toNat)
    (room : fifo.items.length + remaining ≤ capacity) :
    Machine.putEach ((List.range' i.toNat remaining).map fun index =>
        data (BitVec.ofNat 32 index)) ctx =
      (List.replicate remaining true, Machine.ringbufferPutnLoop data dataLen i ctx) := by
  induction remaining generalizing ctx fifo i with
  | zero =>
      rw [Machine.ringbufferPutnLoop_done left]
      rfl
  | succ remaining ih =>
      have more : i < dataLen := by
        rw [BitVec.lt_def]
        omega
      have succ := Machine.toNat_succ more
      have roomForOne : fifo.items.length < capacity := by omega
      have accepted : (fifo.put (data i)).1 = true := BoundedFifo.put_eq_true_iff.mpr roomForOne
      rcases refines.put (data i) with ⟨sameAnswer, refinesPut⟩
      have stored : Machine.ringbufferPut ctx (data i) = (true, Machine.store ctx (data i)) :=
        Machine.ringbufferPut_of_true (sameAnswer.trans accepted)
      have roomForRest : (fifo.put (data i)).2.items.length + remaining ≤ capacity := by
        rw [BoundedFifo.put_items roomForOne, List.length_append, List.length_singleton]
        omega
      have rest := ih refinesPut (i := i + 1) (by omega) roomForRest
      rw [stored, succ] at rest
      simp only [List.range'_succ, List.map_cons, BitVec.ofNat_toNat, BitVec.setWidth_eq,
        Machine.putEach, stored, rest, List.replicate_succ, Machine.ringbufferPutnLoop_more more]

/-- What the functions do in a state of the buffer, in terms of the queue. -/
structure Behaves (ctx : RingbufferT) (fifo : BoundedFifo Byte capacity) : Prop where
  size : ctx.size.toNat = capacity + 1
  read_lt : ctx.readIndex < ctx.size
  write_lt : ctx.writeIndex < ctx.size
  contents : ctx.contents = fifo.items
  empty : Machine.ringbufferEmpty ctx = true ↔ fifo.items = []
  full : Machine.ringbufferFull ctx = true ↔ fifo.items.length = capacity
  count : (Machine.ringbufferSize ctx).toNat = fifo.items.length
  put : ∀ data, (Machine.ringbufferPut ctx data).1 = false ↔ fifo.items.length = capacity
  put_unchanged : ∀ data, (Machine.ringbufferPut ctx data).1 = false →
    (Machine.ringbufferPut ctx data).2 = ctx
  putn : ∀ data dataLen, (Machine.ringbufferPutn ctx data dataLen).1 = false ↔
    capacity - fifo.items.length < dataLen.toNat
  putn_unchanged : ∀ data dataLen, (Machine.ringbufferPutn ctx data dataLen).1 = false →
    (Machine.ringbufferPutn ctx data dataLen).2 = ctx
  putn_each : ∀ data dataLen, (Machine.ringbufferPutn ctx data dataLen).1 = true →
    Machine.putEach (bytesOf data dataLen) ctx =
      (List.replicate dataLen.toNat true, (Machine.ringbufferPutn ctx data dataLen).2)
  get : (Machine.ringbufferGet ctx).1 = none ↔ fifo.items = []
  get_oldest : ∀ pointer, (Machine.ringbufferGet ctx).1 = some pointer →
    ctx.contents = ctx.buf pointer :: (Machine.ringbufferGet ctx).2.contents

theorem Refines.behaves (refines : ctx.Refines fifo) : ctx.Behaves fifo := by
  have bounded := fifo.bounded
  have put := fun data => (refines.put data).1
  have putn := fun data dataLen => (refines.putn data dataLen).1
  have bytesLength (data : Word → Byte) (dataLen : Word) :
      (bytesOf data dataLen).length = dataLen.toNat := by
    rw [bytesOf, List.length_map, List.length_range]
  rcases refines.get with ⟨sameOldest, refinesGet⟩
  rcases refinesGet with ⟨ringGet, simulatesGet, contentsGet, -⟩
  have whole := refines
  rcases refines with ⟨ring, simulates, contents, size⟩
  have holds : ctx.contents = fifo.items := simulates.contents.trans contents
  exact {
    size := simulates.size.trans size
    read_lt := by
      rw [BitVec.lt_def, simulates.read, simulates.size]
      exact ring.read_lt
    write_lt := by
      rw [BitVec.lt_def, simulates.write, simulates.size]
      exact ring.write_lt
    contents := holds
    empty := by rw [simulates.empty, ring.empty_iff, contents]
    full := by rw [simulates.full, ring.full_iff, contents, size, Nat.add_sub_cancel]
    count := by rw [simulates.count, ← ring.contents_length, contents]
    put := by
      intro data
      rw [put, ← Bool.not_eq_true, BoundedFifo.put_eq_true_iff]
      omega
    put_unchanged := by
      intro data refused
      simp only [Machine.ringbufferPut] at refused ⊢
      split_ifs at refused ⊢
      rfl
    putn := by
      intro data dataLen
      rw [putn, ← Bool.not_eq_true, BoundedFifo.putn_eq_true_iff, bytesLength]
      omega
    putn_unchanged := by
      intro data dataLen refused
      simp only [Machine.ringbufferPutn] at refused ⊢
      split_ifs at refused ⊢
      rfl
    putn_each := by
      intro data dataLen accepted
      have room := BoundedFifo.putn_eq_true_iff.mp ((putn data dataLen).symm.trans accepted)
      rw [bytesLength] at room
      rw [bytesOf, List.range_eq_range', Machine.ringbufferPutn_of_true accepted]
      exact whole.putEach (i := 0) (Nat.zero_add dataLen.toNat) room
    get := by
      rw [← Option.map_eq_none_iff (f := ctx.buf), sameOldest]
      exact List.head?_eq_none_iff
    get_oldest := by
      intro pointer isPointer
      have isOldest : some (ctx.buf pointer) = fifo.items.head? := by
        rw [isPointer] at sameOldest
        exact sameOldest
      rw [holds, simulatesGet.contents, contentsGet]
      exact (List.cons_head?_tail isOldest.symm).symm }

end RingbufferT

theorem RingOp.call_queue {capacity : ℕ} {ctx : RingbufferT} {fifo : BoundedFifo Byte capacity}
    (refines : ctx.Refines fifo) (op : RingOp) :
    (op.call ctx).1 = (op.queue fifo).1 ∧ (op.call ctx).2.Refines (op.queue fifo).2 := by
  cases op with
  | put data =>
      rcases refines.put data with ⟨sameAnswer, refinesPut⟩
      exact ⟨congrArg RingAnswer.accepted sameAnswer, refinesPut⟩
  | putn data dataLen =>
      rcases refines.putn data dataLen with ⟨sameAnswer, refinesPutn⟩
      exact ⟨congrArg RingAnswer.accepted sameAnswer, refinesPutn⟩
  | get =>
      rcases refines.get with ⟨sameAnswer, refinesGet⟩
      exact ⟨congrArg RingAnswer.oldest sameAnswer, refinesGet⟩

theorem RingOp.run_queue {capacity : ℕ} {ctx : RingbufferT} {fifo : BoundedFifo Byte capacity}
    (refines : ctx.Refines fifo) (ops : List RingOp) :
    (run call ctx ops).1 = (run queue fifo ops).1 ∧
      (run call ctx ops).2.Refines (run queue fifo ops).2 := by
  induction ops generalizing ctx fifo with
  | nil => exact ⟨rfl, refines⟩
  | cons op ops ih =>
      rcases call_queue refines op with ⟨sameAnswer, refinesNext⟩
      rcases ih refinesNext with ⟨sameAnswers, refinesFinal⟩
      simp only [run, sameAnswer, sameAnswers, true_and]
      exact refinesFinal

/-- In every run from `ringbuffer_init` the callers see what a bounded queue would return, and
afterwards the buffer behaves as the queue. -/
theorem ringbuffer_run_fifo (buf : Word → Byte) (bufSize : Word) (positive : 0 < bufSize)
    (ops : List RingOp) :
    let final := RingOp.run RingOp.call (Machine.ringbufferInit buf bufSize) ops
    let queue := RingOp.run RingOp.queue (BoundedFifo.empty Byte (bufSize.toNat - 1)) ops
    final.1 = queue.1 ∧ final.2.Behaves queue.2 := by
  intro final queue
  rcases RingOp.run_queue (RingbufferT.refines_init positive) ops with ⟨sameAnswers, refines⟩
  exact ⟨sameAnswers, refines.behaves⟩

/-- A buffer of three cells takes two bytes, refuses the third, and takes it when the first
has been read; the write index has gone around. -/
theorem ringbuffer_run_fifo_around :
    let ops : List RingOp := [.put 7, .putn (fun _ => 8) 1, .put 9, .get, .put 9]
    let final := RingOp.run RingOp.call (Machine.ringbufferInit (fun _ => 0) 3) ops
    final.1 = [.accepted true, .accepted true, .accepted false, .oldest (some 7),
        .accepted true] ∧
      final.2.writeIndex < final.2.readIndex ∧ final.2.contents = [8, 9] := by
  intro ops final
  have run := ringbuffer_run_fifo (fun _ => 0) 3 (by decide) ops
  exact ⟨run.1.trans rfl, by decide +kernel, run.2.contents.trans rfl⟩

end ArmKernel
