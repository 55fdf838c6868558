import Mathlib.Data.Nat.Digits.Lemmas
import Mathlib.Data.Nat.Log

/-!
# Numerals from the most significant digit

`numeral base number` lists the digits of a number as they are written, from the most significant
one, with one zero for zero. A program that divides by descending powers of the base finds these
digits if it starts with the largest power that is not above the number, and one that multiplies and
adds reads them back.
-/

namespace Digits

variable {base number digit : ℕ} {digits : List ℕ}

/-- The digits as they are written. -/
def numeral (base number : ℕ) : List ℕ :=
  if number = 0 then [0] else (Nat.digits base number).reverse

/-- Divide by the powers of the base from `base ^ top` down. -/
def topDown (base : ℕ) : ℕ → ℕ → List ℕ
  | 0, number => [number]
  | top + 1, number =>
      number / base ^ (top + 1) :: topDown base top (number % base ^ (top + 1))

/-- Read digits after those of `number`. -/
def readOn (base number : ℕ) (digits : List ℕ) : ℕ :=
  digits.foldl (fun value digit => value * base + digit) number

theorem length_topDown (base top number : ℕ) : (topDown base top number).length = top + 1 := by
  induction top generalizing number with
  | zero => rfl
  | succ top ih => rw [topDown, List.length_cons, ih]

theorem lt_of_mem_topDown {top : ℕ} (small : number < base ^ (top + 1))
    (digitMem : digit ∈ topDown base top number) : digit < base := by
  induction top generalizing number with
  | zero =>
      rw [List.mem_singleton.mp digitMem]
      simpa using small
  | succ top ih =>
      have positive : 0 < base ^ (top + 1) := by
        apply Nat.pos_of_ne_zero
        intro isZero
        rw [pow_succ, isZero, Nat.zero_mul] at small
        exact absurd small (Nat.not_lt_zero number)
      rcases List.mem_cons.mp digitMem with rfl | restMem
      · rw [Nat.div_lt_iff_lt_mul positive, ← pow_succ']
        exact small
      · exact ih (Nat.mod_lt _ positive) restMem

theorem ofDigits_topDown (base top number : ℕ) :
    Nat.ofDigits base (topDown base top number).reverse = number := by
  induction top generalizing number with
  | zero => exact Nat.ofDigits_singleton
  | succ top ih =>
      rw [topDown, Nat.ofDigits_reverse_cons, ih, length_topDown]
      exact Nat.mod_add_div number _

/-- If the first power fits, the digits are those of the number. -/
theorem topDown_eq_numeral {top : ℕ} (baseGt : 1 < base) (small : number < base ^ (top + 1))
    (fits : top = 0 ∨ base ^ top ≤ number) : topDown base top number = numeral base number := by
  rw [numeral]
  split_ifs with isZero
  · rcases fits with rfl | fits
    · rw [topDown, isZero]
    · exact absurd (lt_of_lt_of_le (pow_pos (by omega) top) fits) (by omega)
  · have own : Nat.digits base (Nat.ofDigits base (topDown base top number).reverse) =
        (topDown base top number).reverse := by
      apply Nat.digits_ofDigits base baseGt
      · exact fun digit digitMem => lt_of_mem_topDown small (List.mem_reverse.mp digitMem)
      · intro nonempty
        cases top with
        | zero => simpa [topDown] using isZero
        | succ top =>
            have first := fits.resolve_left (Nat.succ_ne_zero top)
            simpa [topDown] using
              ⟨by omega, first⟩
    rw [ofDigits_topDown] at own
    rw [own, List.reverse_reverse]

theorem lt_of_mem_numeral (baseGt : 1 < base) (digitMem : digit ∈ numeral base number) :
    digit < base := by
  rw [numeral] at digitMem
  split_ifs at digitMem
  · rw [List.mem_singleton.mp digitMem]
    omega
  · exact Nat.digits_lt_base baseGt (List.mem_reverse.mp digitMem)

theorem readOn_eq (base number : ℕ) (digits : List ℕ) :
    readOn base number digits =
      number * base ^ digits.length + Nat.ofDigits base digits.reverse := by
  induction digits generalizing number with
  | nil => simp [readOn]
  | cons digit digits ih =>
      have rest := ih (number * base + digit)
      rw [readOn] at rest
      rw [readOn, List.foldl_cons, rest, List.length_cons, List.reverse_cons,
        Nat.ofDigits_append, List.length_reverse, Nat.ofDigits_singleton]
      ring

/-- What was written is read back. -/
theorem readOn_numeral (base number : ℕ) : readOn base 0 (numeral base number) = number := by
  rw [readOn_eq, Nat.zero_mul, Nat.zero_add, numeral]
  split_ifs with isZero
  · simp [isZero]
  · rw [List.reverse_reverse, Nat.ofDigits_digits]

theorem readOn_topDown (base top number : ℕ) :
    readOn base 0 (topDown base top number) = number := by
  rw [readOn_eq, Nat.zero_mul, Nat.zero_add, ofDigits_topDown]

theorem numeral_ne_nil (base number : ℕ) : numeral base number ≠ [] := by
  rw [numeral]
  split_ifs with isZero
  · simp
  · simpa using Nat.digits_ne_nil_iff_ne_zero.mpr isZero

/-- No number but zero is written with a leading zero. -/
theorem numeral_leading (base : ℕ) (notZero : number ≠ 0) :
    ∃ first rest, numeral base number = first :: rest ∧ first ≠ 0 := by
  rcases List.exists_cons_of_ne_nil (numeral_ne_nil base number) with ⟨first, rest, shape⟩
  refine ⟨first, rest, shape, ?_⟩
  have nonempty : Nat.digits base number ≠ [] := Nat.digits_ne_nil_iff_ne_zero.mpr notZero
  have last := Nat.getLast_digit_ne_zero base notZero
  have isLast : (Nat.digits base number).getLast nonempty = first := by
    rw [← List.head_reverse]
    · simp only [numeral, if_neg notZero] at shape
      simp only [shape, List.head_cons]
    · simpa using nonempty
  rwa [isLast] at last

theorem length_numeral_le {top : ℕ} (baseGt : 1 < base) (small : number < base ^ (top + 1)) :
    (numeral base number).length ≤ top + 1 := by
  rw [numeral]
  split_ifs
  · simp
  · rw [List.length_reverse]
    exact (Nat.digits_length_le_iff baseGt number).mpr small

end Digits
