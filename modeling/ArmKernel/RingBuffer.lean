import ArmKernel.Lib.Window
import ArmKernel.TaskDescriptor

/-!
# Ring buffers

ringbuffer.c: a queue of bytes in a circular buffer. One cell stays free, so that a full
buffer can be told from an empty one. The bytes in the buffer, in the order in which they
will be read, are its contents; every operation is what it should be on them.

The indices are below the size, which is a field here; `size_t` does not overflow, since
the buffers are small.
-/

namespace ArmKernel

open CircularBuffer

/-- `ringbuffer_t`, with the buffer that `buf` points to. -/
structure RingBuffer where
  readIndex : ℕ
  writeIndex : ℕ
  size : ℕ
  buf : ℕ → Byte
  read_lt : readIndex < size
  write_lt : writeIndex < size

def ringbufferInit (buf : ℕ → Byte) (bufSize : ℕ) (positive : 0 < bufSize) : RingBuffer :=
  ⟨0, 0, bufSize, buf, positive, positive⟩

def ringbufferEmpty (ctx : RingBuffer) : Bool := ctx.readIndex == ctx.writeIndex

def ringbufferFull (ctx : RingBuffer) : Bool := (ctx.writeIndex + 1) % ctx.size == ctx.readIndex

def ringbufferSize (ctx : RingBuffer) : ℕ :=
  if ctx.writeIndex < ctx.readIndex then
    (ctx.writeIndex + ctx.size) - ctx.readIndex
  else
    ctx.writeIndex - ctx.readIndex

/-- The byte that the returned pointer points to, or NULL if there is none. -/
def ringbufferGet (ctx : RingBuffer) : Option Byte × RingBuffer :=
  if ringbufferEmpty ctx then
    (none, ctx)
  else
    (some (ctx.buf ctx.readIndex),
      { ctx with
        readIndex := (ctx.readIndex + 1) % ctx.size
        read_lt := Nat.mod_lt _ (Nat.zero_lt_of_lt ctx.read_lt) })

/-- The byte is written, and the write index moves on. -/
def RingBuffer.store (ctx : RingBuffer) (data : Byte) : RingBuffer :=
  { ctx with
    buf := Function.update ctx.buf ctx.writeIndex data
    writeIndex := (ctx.writeIndex + 1) % ctx.size
    write_lt := Nat.mod_lt _ (Nat.zero_lt_of_lt ctx.write_lt) }

def ringbufferPut (ctx : RingBuffer) (data : Byte) : Bool × RingBuffer :=
  if ringbufferFull ctx then
    (false, ctx)
  else
    (true, ctx.store data)

/-- The loop of `ringbuffer_putn` from index `i` on. -/
def ringbufferPutnLoop (data : ℕ → Byte) : ℕ → ℕ → RingBuffer → RingBuffer
  | _, 0, ctx => ctx
  | i, remaining + 1, ctx => ringbufferPutnLoop data (i + 1) remaining (ctx.store (data i))

def ringbufferPutn (ctx : RingBuffer) (data : ℕ → Byte) (dataLen : ℕ) : Bool × RingBuffer :=
  if (ctx.size - 1) - ringbufferSize ctx < dataLen then
    (false, ctx)
  else
    (true, ringbufferPutnLoop data 0 dataLen ctx)

namespace RingBuffer

/-- The bytes in the buffer, the one that is read next first. -/
def contents (ctx : RingBuffer) : List Byte :=
  window ctx.size ctx.buf ctx.readIndex (ringbufferSize ctx)

variable (ctx : RingBuffer)

theorem contents_length : ctx.contents.length = ringbufferSize ctx := window_length

theorem size_lt : ringbufferSize ctx < ctx.size := by
  have read_lt := ctx.read_lt
  have write_lt := ctx.write_lt
  rw [ringbufferSize]
  split_ifs <;> omega

theorem writeIndex_eq : ctx.writeIndex = (ctx.readIndex + ringbufferSize ctx) % ctx.size := by
  have read_lt := ctx.read_lt
  have write_lt := ctx.write_lt
  rw [ringbufferSize]
  split_ifs with wrapped
  · have around : ctx.readIndex + (ctx.writeIndex + ctx.size - ctx.readIndex) =
        ctx.writeIndex + ctx.size := by omega
    rw [around, Nat.add_mod_right, Nat.mod_eq_of_lt write_lt]
  · have ahead : ctx.readIndex + (ctx.writeIndex - ctx.readIndex) = ctx.writeIndex := by omega
    rw [ahead, Nat.mod_eq_of_lt write_lt]

@[simp]
theorem contents_init (buf : ℕ → Byte) (bufSize : ℕ) (positive : 0 < bufSize) :
    (ringbufferInit buf bufSize positive).contents = [] := rfl

theorem empty_iff : ringbufferEmpty ctx = true ↔ ctx.contents = [] := by
  have read_lt := ctx.read_lt
  have write_lt := ctx.write_lt
  rw [← List.length_eq_zero_iff, contents_length, ringbufferEmpty, beq_iff_eq, ringbufferSize]
  split_ifs <;> omega

theorem full_iff : ringbufferFull ctx = true ↔ ctx.contents.length = ctx.size - 1 := by
  have read_lt := ctx.read_lt
  have write_lt := ctx.write_lt
  rw [contents_length, ringbufferFull, beq_iff_eq, ringbufferSize, succ_mod write_lt]
  split_ifs <;> omega

section Store

variable {ctx} {byte : Byte}

theorem size_store (room : ringbufferSize ctx < ctx.size - 1) :
    ringbufferSize (ctx.store byte) = ringbufferSize ctx + 1 := by
  have read_lt := ctx.read_lt
  have write_lt := ctx.write_lt
  simp only [ringbufferSize, store, succ_mod write_lt] at room ⊢
  split_ifs at room ⊢ <;> omega

theorem contents_store (room : ringbufferSize ctx < ctx.size - 1) :
    (ctx.store byte).contents = ctx.contents ++ [byte] := by
  rw [contents, size_store room]
  simp only [store]
  rw [writeIndex_eq]
  exact window_append (by omega) byte

end Store

section Operations

variable {ctx}

theorem contents_get (nonempty : ringbufferEmpty ctx = false) :
    ∃ byte, (ringbufferGet ctx).1 = some byte ∧
      ctx.contents = byte :: (ringbufferGet ctx).2.contents ∧
      (ringbufferGet ctx).2.size = ctx.size := by
  have read_lt := ctx.read_lt
  have write_lt := ctx.write_lt
  refine ⟨ctx.buf ctx.readIndex, ?_, ?_, ?_⟩
  · simp [ringbufferGet, nonempty]
  · have size_get : ringbufferSize ctx = ringbufferSize (ringbufferGet ctx).2 + 1 := by
      rw [ringbufferEmpty, beq_eq_false_iff_ne] at nonempty
      simp only [ringbufferGet, ringbufferEmpty, beq_eq_false_iff_ne.mpr nonempty,
        Bool.false_eq_true, if_false, ringbufferSize, succ_mod read_lt]
      split_ifs <;> omega
    rw [contents, contents, size_get, window_cons, Nat.mod_eq_of_lt read_lt]
    simp only [ringbufferGet, nonempty, Bool.false_eq_true, if_false, window_mod]
  · simp [ringbufferGet, nonempty]

/-- A byte that is put joins the end of the contents, unless the buffer is full. -/
theorem put_eq_true_iff {byte : Byte} :
    (ringbufferPut ctx byte).1 = true ↔ ctx.contents.length < ctx.size - 1 := by
  have size_lt := ctx.size_lt
  have full := ctx.full_iff
  rw [contents_length] at full ⊢
  rw [ringbufferPut]
  split_ifs with isFull
  · have atEnd := full.mp isFull
    simp only [false_iff]
    omega
  · have notAtEnd := mt full.mpr isFull
    simp only [true_iff]
    omega

theorem contents_put {byte : Byte} (room : ctx.contents.length < ctx.size - 1) :
    (ringbufferPut ctx byte).2.contents = ctx.contents ++ [byte] := by
  have notFull : ringbufferFull ctx = false := by
    rw [Bool.eq_false_iff, ne_eq, full_iff]
    omega
  rw [ringbufferPut, notFull]
  rw [contents_length] at room
  exact contents_store room

theorem contents_putnLoop {data : ℕ → Byte} {i remaining : ℕ}
    (room : ctx.contents.length + remaining ≤ ctx.size - 1) :
    (ringbufferPutnLoop data i remaining ctx).contents =
      ctx.contents ++ (List.range' i remaining).map data ∧
    (ringbufferPutnLoop data i remaining ctx).size = ctx.size := by
  induction remaining generalizing ctx i with
  | zero => simp [ringbufferPutnLoop]
  | succ remaining ih =>
      have roomForOne : ringbufferSize ctx < ctx.size - 1 := by
        rw [contents_length] at room
        omega
      have stored : (ctx.store (data i)).contents = ctx.contents ++ [data i] :=
        contents_store roomForOne
      have roomForRest : (ctx.store (data i)).contents.length + remaining ≤
          (ctx.store (data i)).size - 1 := by
        rw [stored, List.length_append, List.length_singleton]
        simp only [store]
        omega
      rcases ih roomForRest with ⟨rest, sameSize⟩
      refine ⟨?_, sameSize⟩
      rw [ringbufferPutnLoop, rest, stored, List.range'_succ, List.map_cons, List.append_assoc]
      rfl

/-- All bytes join the end of the contents, or none if there is not enough room. -/
theorem putn_eq_true_iff {data : ℕ → Byte} {dataLen : ℕ} :
    (ringbufferPutn ctx data dataLen).1 = true ↔ ctx.contents.length + dataLen ≤ ctx.size - 1 := by
  have size_lt := ctx.size_lt
  rw [contents_length, ringbufferPutn]
  split_ifs with tooLong
  · simp only [false_iff]
    omega
  · simp only [true_iff]
    omega

theorem contents_putn {data : ℕ → Byte} {dataLen : ℕ}
    (room : ctx.contents.length + dataLen ≤ ctx.size - 1) :
    (ringbufferPutn ctx data dataLen).2.contents =
      ctx.contents ++ (List.range dataLen).map data ∧
    (ringbufferPutn ctx data dataLen).2.size = ctx.size := by
  have enough : ¬(ctx.size - 1) - ringbufferSize ctx < dataLen := by
    rw [contents_length] at room
    omega
  rw [ringbufferPutn, if_neg enough, List.range_eq_range']
  exact contents_putnLoop room

theorem put_unchanged {byte : Byte} (refused : (ringbufferPut ctx byte).1 = false) :
    (ringbufferPut ctx byte).2 = ctx := by
  simp only [ringbufferPut] at refused ⊢
  split_ifs at refused ⊢
  rfl

theorem putn_unchanged {data : ℕ → Byte} {dataLen : ℕ}
    (refused : (ringbufferPutn ctx data dataLen).1 = false) :
    (ringbufferPutn ctx data dataLen).2 = ctx := by
  simp only [ringbufferPutn] at refused ⊢
  split_ifs at refused ⊢
  rfl

theorem size_put {byte : Byte} : (ringbufferPut ctx byte).2.size = ctx.size := by
  rw [ringbufferPut]
  split_ifs <;> rfl

end Operations

end RingBuffer

end ArmKernel
