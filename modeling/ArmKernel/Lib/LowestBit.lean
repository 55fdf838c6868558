import Mathlib.Data.BitVec

/-!
# The lowest set bit of a bit vector

`IsLowestBit bits index` says that `index` is the position of the lowest set bit. The
rules below are those of a search that narrows the position down from the low end: a
test against a mask of the low bits decides whether the position lies above them, and
shifting out zero bits lowers it by their number.
-/

namespace LowestBit

variable {width : ℕ} {bits : BitVec width}

/-- Bit `index` is set and no lower one is. -/
def IsLowestBit (bits : BitVec width) (index : ℕ) : Prop :=
  bits.getLsbD index = true ∧ ∀ lower < index, bits.getLsbD lower = false

/-- Some bit below `bound` is set. -/
def SomeBelow (bits : BitVec width) (bound : ℕ) : Prop :=
  ∃ index < bound, bits.getLsbD index = true

theorem IsLowestBit.unique {left right : ℕ} (leftLowest : IsLowestBit bits left)
    (rightLowest : IsLowestBit bits right) : left = right := by
  rcases Nat.lt_trichotomy left right with lt | same | gt
  · have := rightLowest.2 left lt
    simp [leftLowest.1] at this
  · exact same
  · have := leftLowest.2 right gt
    simp [rightLowest.1] at this

theorem IsLowestBit.lt_width {index : ℕ} (lowest : IsLowestBit bits index) : index < width := by
  by_contra outside
  have := lowest.1
  simp [BitVec.getLsbD_of_ge bits index (by omega)] at this

theorem someBelow_of_ne_zero (nonzero : bits ≠ 0) : SomeBelow bits width := by
  by_contra noBit
  apply nonzero
  apply BitVec.eq_of_getLsbD_eq
  intro index indexLt
  have := fun set => noBit ⟨index, indexLt, set⟩
  simpa using this

/-- A set bit below a bound bounds the lowest one, which therefore exists. -/
theorem SomeBelow.exists_lowest {bound : ℕ} (some : SomeBelow bits bound) :
    ∃ index < bound, IsLowestBit bits index := by
  classical
  have exists_set : ∃ index, bits.getLsbD index = true := some.imp fun _ both => both.2
  rcases some with ⟨index, indexLt, set⟩
  refine ⟨Nat.find exists_set, ?_, Nat.find_spec exists_set, ?_⟩
  · exact lt_of_le_of_lt (Nat.find_min' exists_set set) indexLt
  · intro lower lowerLt
    simpa using Nat.find_min exists_set lowerLt

/-- The mask test: none of the low `bound` bits is set. -/
theorem and_mask_eq_zero_iff {bound : ℕ} (boundLe : bound ≤ width) :
    bits &&& BitVec.ofNat width (2 ^ bound - 1) = 0 ↔ ¬SomeBelow bits bound := by
  have mask_bit : ∀ index, index < width →
      (BitVec.ofNat width (2 ^ bound - 1)).getLsbD index = decide (index < bound) := by
    intro index indexLt
    rw [BitVec.getLsbD_ofNat, Nat.testBit_two_pow_sub_one]
    simp [indexLt]
  constructor
  · rintro zero ⟨index, indexLt, set⟩
    have bit := congrArg (fun masked => masked.getLsbD index) zero
    simp [BitVec.getLsbD_and, mask_bit index (by omega), set, indexLt] at bit
  · intro noBit
    apply BitVec.eq_of_getLsbD_eq
    intro index indexLt
    rw [BitVec.getLsbD_and, mask_bit index indexLt]
    by_cases below : index < bound
    · have clear : bits.getLsbD index = false := by
        simpa using fun set => noBit ⟨index, below, set⟩
      simp [clear]
    · simp [below]

theorem IsLowestBit.of_shift {bound index : ℕ} (noBit : ¬SomeBelow bits bound)
    (lowest : IsLowestBit (bits >>> bound) index) : IsLowestBit bits (bound + index) := by
  constructor
  · simpa using lowest.1
  · intro lower lowerLt
    by_cases below : lower < bound
    · simpa using fun set => noBit ⟨lower, below, set⟩
    · have := lowest.2 (lower - bound) (by omega)
      simpa [show bound + (lower - bound) = lower by omega] using this

theorem SomeBelow.shift {bound total : ℕ} (some : SomeBelow bits total)
    (noBit : ¬SomeBelow bits bound) : SomeBelow (bits >>> bound) (total - bound) := by
  rcases some with ⟨index, indexLt, set⟩
  have above : bound ≤ index := by
    by_contra below
    exact noBit ⟨index, by omega, set⟩
  refine ⟨index - bound, by omega, ?_⟩
  simpa [show bound + (index - bound) = index by omega] using set

end LowestBit
