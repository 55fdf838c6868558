import ArmKernel.Lib.LowestBit
import ArmKernel.TaskQueues
import Mathlib.Tactic.IntervalCases

/-!
# The scheduler

scheduler.c: 64 ready queues, one for each priority, and a bitmap of the queues that
have a task. An access to `priority_qs` past its end has no defined result.
-/

namespace ArmKernel

open LowestBit Placement

/-- One stage of the search: if the low `width` bits are clear, shift them out and
count them. -/
def skipZeroes (mask : BitVec 64) (width : ℕ) (search : BitVec 64 × Byte) : BitVec 64 × Byte :=
  if search.1 &&& mask = 0 then
    (search.1 >>> width, search.2 + BitVec.ofNat 8 width)
  else
    search

/-- `bitmap_leadingzeroes` -/
def bitmapLeadingzeroes (bitmap : BitVec 64) : Byte :=
  if bitmap &&& 0x1 ≠ 0 then
    0
  else
    let search := skipZeroes 0xFFFFFFFF 32 (bitmap, 1)
    let search := skipZeroes 0xFFFF 16 search
    let search := skipZeroes 0xFF 8 search
    let search := skipZeroes 0xF 4 search
    let search := skipZeroes 0x3 2 search
    search.2 - (search.1 &&& 0x1).setWidth 8

def schedulerInit (kernel : Kernel) : Kernel :=
  { kernel with
    bitmap := 0
    heap := (List.range schedulerPriorityCount).foldl
      (fun heap index => queueInit heap (.priorityQ (BitVec.ofNat 8 index))) kernel.heap }

def schedulerEmpty (data : KernelData) : Bool := data.bitmap == 0

/-- The next task to run (`none` for NULL), which is removed from its ready queue. -/
def schedulerGet (kernel : Kernel) : Option (Option Tid × Kernel) :=
  if schedulerEmpty kernel.toKernelData then
    some (none, kernel)
  else
    let idx := bitmapLeadingzeroes kernel.bitmap
    if idx.toNat < schedulerPriorityCount then do
      let (ret, heap) ← queueGet kernel.heap (.priorityQ idx)
      let kernel := { kernel with heap := heap }
      if queueEmpty heap (.priorityQ idx) then
        some (ret, { kernel with bitmap := kernel.bitmap &&& ~~~(1#64 <<< idx.toNat) })
      else
        some (ret, kernel)
    else
      none

/-- The bitmap and the state after a task was put into its ready queue. -/
def KernelData.markReady (data : KernelData) (td : Tid) : KernelData :=
  { data with bitmap := data.bitmap ||| (1#64 <<< (data.tds td).priority.toNat) }.setState td .ready

def schedulerPut (kernel : Kernel) (td : Tid) : Option (Byte × Kernel) :=
  let priority := (kernel.tds td).priority
  if priority.toNat < schedulerPriorityCount then do
    let (err, heap) ← queuePut kernel.heap (.priorityQ priority) (some ⟨.readyNode, td⟩)
    let kernel := { kernel with heap := heap }
    if err = 0 then
      some (err, kernel.modify (·.markReady td))
    else
      some (err, kernel)
  else
    none

section Bitmap

/-- The search has shifted out `search.2 - 1` zero bits of `bitmap`, and a bit is set among
the next `width`. -/
structure Narrowed (bitmap : BitVec 64) (search : BitVec 64 × Byte) (width : ℕ) : Prop where
  some : SomeBelow search.1 width
  countPos : 0 < search.2.toNat
  countLe : search.2.toNat + width ≤ 65
  lowest : ∀ index, IsLowestBit search.1 index →
    IsLowestBit bitmap (search.2.toNat - 1 + index)

theorem Narrowed.stage {bitmap : BitVec 64} {search : BitVec 64 × Byte} (width : ℕ)
    (narrowed : Narrowed bitmap search (2 * width)) :
    Narrowed bitmap (skipZeroes (BitVec.ofNat 64 (2 ^ width - 1)) width search) width := by
  have countLe := narrowed.countLe
  have countPos := narrowed.countPos
  by_cases some : SomeBelow search.1 width
  · have unchanged : skipZeroes (BitVec.ofNat 64 (2 ^ width - 1)) width search = search :=
      if_neg ((and_mask_eq_zero_iff (by omega)).not_left.mpr some)
    rw [unchanged]
    exact ⟨some, countPos, by omega, narrowed.lowest⟩
  · have shifted : skipZeroes (BitVec.ofNat 64 (2 ^ width - 1)) width search =
        (search.1 >>> width, search.2 + BitVec.ofNat 8 width) :=
      if_pos ((and_mask_eq_zero_iff (by omega)).mpr some)
    have count : (search.2 + BitVec.ofNat 8 width).toNat = search.2.toNat + width := by
      simp only [BitVec.toNat_add, BitVec.toNat_ofNat]
      omega
    rw [shifted]
    refine ⟨?_, ?_, ?_, ?_⟩
    · simpa [two_mul] using narrowed.some.shift some
    · rw [count]
      omega
    · rw [count]
      omega
    · intro index lowest
      have := narrowed.lowest _ (lowest.of_shift some)
      rwa [count, show search.2.toNat + width - 1 + index =
        search.2.toNat - 1 + (width + index) by omega]

/-- The search ends with the lowest bit among the last two; the count is one too high
for the first of them, which is corrected. -/
theorem Narrowed.result {bitmap : BitVec 64} {search : BitVec 64 × Byte}
    (narrowed : Narrowed bitmap search 2) :
    IsLowestBit bitmap (search.2 - (search.1 &&& 0x1).setWidth 8).toNat := by
  rcases narrowed.some.exists_lowest with ⟨index, indexLt, lowest⟩
  have countLe := narrowed.countLe
  have countPos := narrowed.countPos
  have final := narrowed.lowest index lowest
  have bit : (search.1 &&& 0x1).toNat = search.1.toNat % 2 := by
    rw [BitVec.toNat_and]
    exact Nat.and_one_is_mod search.1.toNat
  have parity : search.1.getLsbD 0 = decide (search.1.toNat % 2 = 1) := by
    simp [BitVec.getLsbD, Nat.testBit_zero]
  have value : (search.2 - (search.1 &&& 0x1).setWidth 8).toNat =
      search.2.toNat - 1 + index := by
    rw [BitVec.toNat_sub, BitVec.toNat_setWidth, bit]
    have countLt := search.2.isLt
    interval_cases index
    · have set := lowest.1
      rw [parity, decide_eq_true_eq] at set
      omega
    · have clear := lowest.2 0 (by omega)
      rw [parity, decide_eq_false_iff_not] at clear
      omega
  rwa [value]

/-- `bitmap_leadingzeroes` finds the lowest set bit of every non-zero bitmap. -/
theorem bitmapLeadingzeroes_isLowestBit {bitmap : BitVec 64} (nonzero : bitmap ≠ 0) :
    IsLowestBit bitmap (bitmapLeadingzeroes bitmap).toNat := by
  rw [bitmapLeadingzeroes]
  split
  · rename_i bit
    have some : SomeBelow bitmap 1 := by
      by_contra noBit
      have clear := (and_mask_eq_zero_iff (show 1 ≤ 64 by omega)).mpr noBit
      exact bit clear
    rcases some.exists_lowest with ⟨index, indexLt, lowest⟩
    have first : index = 0 := by omega
    simpa [first] using lowest
  · have start : Narrowed bitmap (bitmap, 1) 64 :=
      ⟨someBelow_of_ne_zero nonzero, by simp, by simp, fun index lowest => by
        simpa using lowest⟩
    have stage32 := start.stage 32
    have stage16 := stage32.stage 16
    have stage8 := stage16.stage 8
    have stage4 := stage8.stage 4
    have stage2 := stage4.stage 2
    exact stage2.result

theorem getLsbD_setBit (bitmap : BitVec 64) (bit : ℕ) {index : ℕ} (indexLt : index < 64) :
    (bitmap ||| (1#64 <<< bit)).getLsbD index = (bitmap.getLsbD index || decide (index = bit)) := by
  have shifted : (1#64 <<< bit).getLsbD index = decide (index = bit) := by
    simp only [BitVec.getLsbD_shiftLeft, BitVec.getLsbD_one, indexLt]
    rcases Nat.lt_trichotomy index bit with lt | rfl | gt
    · simp [lt, lt.ne]
    · simp
    · simp [gt.ne', show index - bit ≠ 0 by omega]
  rw [BitVec.getLsbD_or, shifted]

theorem getLsbD_clearBit (bitmap : BitVec 64) (bit : ℕ) {index : ℕ} (indexLt : index < 64) :
    (bitmap &&& ~~~(1#64 <<< bit)).getLsbD index =
      (bitmap.getLsbD index && decide (index ≠ bit)) := by
  have single := getLsbD_setBit 0#64 bit indexLt
  simp only [BitVec.zero_or, BitVec.getLsbD_zero, Bool.false_or] at single
  rw [BitVec.getLsbD_and, BitVec.getLsbD_not, single]
  simp [indexLt]

end Bitmap

section Queues

variable {kernel : Kernel} {live : QueueRef → Prop} {created : Tid → Prop}
  {lists : QueueRef → List Tid} {task : Tid}

/-- `scheduler_put` appends a task that is in no queue to the ready queue of its priority. -/
theorem schedulerPut_holds (holds : kernel.heap.Holds live created lists)
    (isLive : live (.priorityQ (kernel.tds task).priority))
    (inRange : (kernel.tds task).priority.toNat < schedulerPriorityCount)
    (isCreated : created task) (absent : Absent lists task) :
    ∃ heap', schedulerPut kernel task =
        some (0, { toKernelData := kernel.toKernelData.markReady task, heap := heap' }) ∧
      heap'.Holds live created (Function.update lists (.priorityQ (kernel.tds task).priority)
        (lists (.priorityQ (kernel.tds task).priority) ++ [task])) := by
  rcases holds.queuePut isLive isCreated absent with ⟨heap', done, holds'⟩
  refine ⟨heap', ?_, holds'⟩
  rw [QueueRef.node] at done
  simp [schedulerPut, inRange, done, Kernel.modify]

/-- `scheduler_get` returns NULL when the bitmap is clear. -/
theorem schedulerGet_none (clear : schedulerEmpty kernel.toKernelData = true) :
    schedulerGet kernel = some (none, kernel) := by
  simp [schedulerGet, clear]

/-- `scheduler_get` takes the first task of the queue that the bitmap selects, and clears
the bit of the queue when it was the only one. -/
theorem schedulerGet_holds (holds : kernel.heap.Holds live created lists)
    (set : schedulerEmpty kernel.toKernelData = false)
    (isLive : live (.priorityQ (bitmapLeadingzeroes kernel.bitmap))) {rest : List Tid}
    (shape : lists (.priorityQ (bitmapLeadingzeroes kernel.bitmap)) = task :: rest) :
    ∃ heap', schedulerGet kernel = some (some task,
        { kernel with
          bitmap :=
            if rest = [] then
              kernel.bitmap &&& ~~~(1#64 <<< (bitmapLeadingzeroes kernel.bitmap).toNat)
            else
              kernel.bitmap
          heap := heap' }) ∧
      heap'.Holds live created
        (Function.update lists (.priorityQ (bitmapLeadingzeroes kernel.bitmap)) rest) := by
  have nonzero : kernel.bitmap ≠ 0 := by simpa [schedulerEmpty] using set
  have inRange : (bitmapLeadingzeroes kernel.bitmap).toNat < schedulerPriorityCount :=
    (bitmapLeadingzeroes_isLowestBit nonzero).lt_width
  rcases holds.queueGet_cons isLive shape with ⟨heap', done, holds'⟩
  refine ⟨heap', ?_, holds'⟩
  have empty := holds'.queueEmpty_iff isLive
  rw [Function.update_self] at empty
  simp only [schedulerGet, set, inRange, done]
  by_cases last : rest = []
  · simp [empty.mpr last, last]
  · have nonempty : queueEmpty heap' (.priorityQ (bitmapLeadingzeroes kernel.bitmap)) = false :=
      Bool.eq_false_iff.mpr fun isEmpty => last (empty.mp isEmpty)
    simp [nonempty, last]

end Queues

end ArmKernel
