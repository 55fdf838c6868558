import ArmKernel.Bwio
import ArmKernel.Lib.Digits

/-!
# Numbers as text

`bwui2a` writes the numeral of a number, from the largest power of the base that is not above it,
and `bwa2i` reads it back. `bwi2a` writes every `int`, the most negative one too, and fills at most the
twelve bytes of the buffer of `bwformat`. `bwputr` writes the eight hexadecimal digits of a word.
-/

namespace ArmKernel.Bwio

open Digits

/-- The character of a digit. -/
def digitOf (digit : ℕ) : Byte := digitChar (BitVec.ofNat 32 digit)

/-- The numeral of a number as text. -/
def numeralText (base number : ℕ) : List Byte := (numeral base number).map digitOf

section Writing

variable {num base d : Word}

/-- The first loop ends with the largest power of the base that is not above the number. -/
theorem scaleUp_eq (fuel : ℕ) {top : ℕ} (baseGt : 1 < base.toNat)
    (isPower : d.toNat = base.toNat ^ top)
    (fits : top = 0 ∨ base.toNat ^ top ≤ num.toNat)
    (enough : num.toNat < base.toNat ^ (top + fuel + 1)) :
    ∃ top' d', scaleUp num base (fuel + 1) d = some d' ∧ d'.toNat = base.toNat ^ top' ∧
      (top' = 0 ∨ base.toNat ^ top' ≤ num.toNat) ∧ num.toNat < base.toNat ^ (top' + 1) := by
  have positive : 0 < base.toNat ^ top := pow_pos (by omega) top
  have notZero : d ≠ 0 := by
    rintro rfl
    rw [← isPower] at positive
    exact absurd positive (by decide)
  have goesOn : num / d ≥ base ↔ base.toNat ^ (top + 1) ≤ num.toNat := by
    rw [ge_iff_le, BitVec.le_def, BitVec.toNat_udiv, isPower, Nat.le_div_iff_mul_le positive,
      pow_succ']
  induction fuel generalizing top d with
  | zero =>
      have done : ¬num / d ≥ base := by
        rw [goesOn]
        exact not_le.mpr enough
      refine ⟨top, d, ?_, isPower, fits, enough⟩
      rw [scaleUp, if_neg notZero, if_neg done]
  | succ fuel ih =>
      rw [scaleUp, if_neg notZero]
      split_ifs with more
      · have larger := goesOn.mp more
        have noOverflow : (d * base).toNat = base.toNat ^ (top + 1) := by
          have small := num.isLt
          rw [BitVec.toNat_mul, isPower, ← pow_succ, Nat.mod_eq_of_lt (by omega)]
        have positive' : 0 < base.toNat ^ (top + 1) := pow_pos (by omega) _
        rw [show top + (fuel + 1) + 1 = top + 1 + fuel + 1 by omega] at enough
        apply ih noOverflow (.inr larger) enough positive'
        · intro isZero
          rw [isZero] at noOverflow
          rw [← noOverflow] at positive'
          exact absurd positive' (by decide)
        · rw [ge_iff_le, BitVec.le_def, BitVec.toNat_udiv, noOverflow,
            Nat.le_div_iff_mul_le positive', ← pow_succ']
      · exact ⟨top, d, rfl, isPower, fits, not_le.mp fun larger => more (goesOn.mpr larger)⟩

theorem toInt_of_small {word : Word} (small : word.toNat < 2 ^ 31) :
    word.toInt = word.toNat := by
  rw [BitVec.toInt_eq_toNat_cond, if_pos (by omega)]

/-- The second loop writes the digits from there on. -/
theorem emit_eq {top fuel count : ℕ} (baseGt : 1 < base.toNat) (baseLt : base.toNat < 2 ^ 31)
    (isPower : d.toNat = base.toNat ^ top) (small : num.toNat < base.toNat ^ (top + 1))
    (fits : count ≠ 0 ∨ top = 0 ∨ base.toNat ^ top ≤ num.toNat) :
    emit base (fuel + top + 2) num d count =
      some ((topDown base.toNat top num.toNat).map digitOf) := by
  have baseNe : base ≠ 0 := by
    rintro rfl
    exact absurd baseGt (by decide)
  induction top generalizing num d count with
  | zero =>
      have isOne : d = 1 := BitVec.eq_of_toNat_eq isPower
      have quotient : num / (1 : Word) = num := by
        apply BitVec.eq_of_toNat_eq
        rw [BitVec.toNat_udiv]
        exact Nat.div_one _
      have last : (1 : Word) / base = 0 := by
        apply BitVec.eq_of_toNat_eq
        rw [BitVec.toNat_udiv]
        exact Nat.div_eq_of_lt baseGt
      have own : digitChar num = digitOf num.toNat := by
        rw [digitOf, BitVec.ofNat_toNat, BitVec.setWidth_eq]
      have oneNe : (1 : Word) ≠ 0 := by decide
      simp only [emit, isOne, if_neg oneNe, if_neg baseNe, quotient, last, or_true, if_true, own,
        topDown, Option.map_some, List.map_cons, List.map_nil]
  | succ top ih =>
      have positive : 0 < base.toNat ^ (top + 1) := pow_pos (by omega) _
      have notZero : d ≠ 0 := by
        rintro rfl
        rw [← isPower] at positive
        exact absurd positive (by decide)
      have quotient : (num / d).toNat = num.toNat / base.toNat ^ (top + 1) := by
        rw [BitVec.toNat_udiv, isPower]
      have remainder : (num % d).toNat = num.toNat % base.toNat ^ (top + 1) := by
        rw [BitVec.toNat_umod, isPower]
      have nextPower : (d / base).toNat = base.toNat ^ top := by
        rw [BitVec.toNat_udiv, isPower, pow_succ, Nat.mul_div_cancel _ (by omega)]
      have quotientLt : num.toNat / base.toNat ^ (top + 1) < base.toNat := by
        rw [Nat.div_lt_iff_lt_mul positive, ← pow_succ']
        exact small
      have writes : count ≠ 0 ∨ (num / d).toInt > 0 ∨ d / base = 0 := by
        rcases fits with started | isZero | fits
        · exact .inl started
        · omega
        · refine .inr (.inl ?_)
          have nonzero := Nat.div_pos fits positive
          rw [toInt_of_small (by omega), quotient]
          omega
      have own : digitChar (num / d) = digitOf (num.toNat / base.toNat ^ (top + 1)) := by
        rw [digitOf, ← quotient, BitVec.ofNat_toNat, BitVec.setWidth_eq]
      have rest := ih nextPower (by rw [remainder]; exact Nat.mod_lt _ positive)
        (.inl (Nat.succ_ne_zero count))
      rw [show fuel + (top + 1) + 2 = fuel + top + 2 + 1 by omega, emit]
      simp only [if_neg notZero, if_neg baseNe, if_pos writes, rest, own, remainder, topDown,
        Option.map_some, List.map_cons]

/-- For every base from two on `bwui2a` writes the numeral of the number. -/
theorem bwui2a_eq (num : Word) (baseGt : 1 < base.toNat) (baseLt : base.toNat < 2 ^ 31) :
    bwui2a num base = some (numeralText base.toNat num.toNat) := by
  have small : num.toNat < base.toNat ^ (0 + 32 + 1) := by
    calc num.toNat < 2 ^ 32 := num.isLt
      _ ≤ base.toNat ^ 32 := Nat.pow_le_pow_left baseGt 32
      _ ≤ base.toNat ^ (0 + 32 + 1) := Nat.pow_le_pow_right (by omega) (by omega)
  have isOne : (1 : Word).toNat = base.toNat ^ 0 := (pow_zero base.toNat).symm
  rcases scaleUp_eq 32 baseGt isOne (.inl rfl) small with
    ⟨top, d, scaled, isPower, fits, bounded⟩
  have topLt : top < 32 := by
    rcases fits with rfl | fits
    · omega
    · have power : 2 ^ top < 2 ^ 32 :=
        lt_of_le_of_lt ((Nat.pow_le_pow_left baseGt top).trans fits) num.isLt
      exact (Nat.pow_lt_pow_iff_right (by omega)).mp power
  have written : emit base (31 - top + top + 2) num d 0 = _ :=
    emit_eq baseGt baseLt isPower bounded (.inr fits)
  have sameFuel : 31 - top + top + 2 = wordFuel := by
    rw [wordFuel]
    omega
  rw [sameFuel, topDown_eq_numeral baseGt bounded fits] at written
  have found : scaleUp num base wordFuel 1 = some d := scaled
  rw [bwui2a, found]
  exact written

end Writing

section Reading

variable {base : Word} {digits : List ℕ} {stop : Byte} {rest : List Byte}

theorem bwa2d_digitOf : ∀ digit < 16, bwa2d (digitOf digit) = digit := by decide

/-- `bwa2i` reads on over digits, up to a character that is none. -/
theorem bwa2iLoop_digits (baseLe : base.toNat ≤ 16)
    (areDigits : ∀ digit ∈ digits, digit < base.toNat) (ends : EndsNumber base stop)
    (value : ℕ) {first : Byte} {src : List Byte}
    (starts : next (digits.map digitOf ++ stop :: rest) = (first, src)) :
    bwa2iLoop base (BitVec.ofNat 32 value) first src =
      (stop, rest, BitVec.ofNat 32 (readOn base.toNat value digits)) := by
  induction digits generalizing value first src with
  | nil =>
      rcases Prod.mk.inj starts with ⟨rfl, rfl⟩
      cases rest with
      | nil => rw [bwa2iLoop, if_pos ends, readOn, List.foldl_nil]
      | cons c rest => rw [bwa2iLoop, if_pos ends, readOn, List.foldl_nil]
  | cons digit digits ih =>
      rcases Prod.mk.inj starts with ⟨rfl, rfl⟩
      have digitLt := areDigits digit List.mem_cons_self
      have isDigit := bwa2d_digitOf digit (by omega)
      have goesOn : ¬EndsNumber base (digitOf digit) := by
        rw [EndsNumber, isDigit, toInt_of_small (by omega)]
        omega
      have readNext : BitVec.ofNat 32 value * base + BitVec.ofInt 32 (bwa2d (digitOf digit)) =
          BitVec.ofNat 32 (value * base.toNat + digit) := by
        rw [isDigit, BitVec.ofInt_natCast, BitVec.ofNat_add, BitVec.ofNat_mul,
          BitVec.ofNat_toNat, BitVec.setWidth_eq]
      have areRest : ∀ other ∈ digits, other < base.toNat := fun other otherMem =>
        areDigits other (List.mem_cons_of_mem _ otherMem)
      change bwa2iLoop base _ _ (digits.map digitOf ++ stop :: rest) = _
      cases shape : digits.map digitOf ++ stop :: rest with
      | nil => simp at shape
      | cons c src =>
          have startsNext : next (digits.map digitOf ++ stop :: rest) = (c, src) := by
            rw [shape]
            rfl
          rw [bwa2iLoop, if_neg goesOn, readNext, ih areRest _ startsNext]
          rfl

/--
What `bwui2a` writes in a base up to sixteen, followed by a character that `bwa2i` does not take for
a digit, `bwa2i` reads back: it finds the number and stops at that character.
-/
theorem bwa2i_bwui2a (num : Word) (baseGt : 1 < base.toNat) (baseLe : base.toNat ≤ 16)
    (ends : EndsNumber base stop) (rest : List Byte) :
    ∃ first text, bwui2a num base = some (first :: text) ∧
      first :: text = numeralText base.toNat num.toNat ∧
      bwa2i first (text ++ stop :: rest) base = (stop, rest, num) := by
  have written := bwui2a_eq num baseGt (by omega)
  have nonempty : numeralText base.toNat num.toNat ≠ [] := by
    simpa [numeralText] using numeral_ne_nil base.toNat num.toNat
  rcases List.exists_cons_of_ne_nil nonempty with ⟨first, text, shape⟩
  refine ⟨first, text, written.trans (congrArg some shape), shape.symm, ?_⟩
  have starts : next ((numeral base.toNat num.toNat).map digitOf ++ stop :: rest) =
      (first, text ++ stop :: rest) := by
    rw [← numeralText, shape]
    rfl
  have digitsLt : ∀ digit ∈ numeral base.toNat num.toNat, digit < base.toNat :=
    fun digit digitMem => lt_of_mem_numeral baseGt digitMem
  have readBack := bwa2iLoop_digits baseLe digitsLt ends 0 starts
  rw [readOn_numeral, BitVec.ofNat_toNat, BitVec.setWidth_eq] at readBack
  exact readBack

/-- The word 2026 in decimal, before the conversion character of `%d`. -/
example : bwui2a 2026 10 = some [0x32, 0x30, 0x32, 0x36] ∧
    bwa2i 0x32 [0x30, 0x32, 0x36, 0x64] 10 = (0x64, [], 2026) := by decide

end Reading

section Signed

/-- The text of a signed number in decimal. -/
def decimalText (number : ℤ) : List Byte :=
  (if number < 0 then [0x2D] else []) ++ numeralText 10 number.natAbs

/-- `bwi2a` writes every `int` in decimal, and the text and its NUL fit into the buffer of
`bwformat`. -/
theorem bwi2a_eq (num : Word) :
    bwi2a num = some (decimalText num.toInt) ∧ (decimalText num.toInt).length + 1 ≤ 12 := by
  have baseGt : 1 < (10 : Word).toNat := by decide
  have baseLt : (10 : Word).toNat < 2 ^ 31 := by decide
  have ten : (10 : Word).toNat = 10 := rfl
  have bound := num.isLt
  have fits : ∀ number < 10 ^ (9 + 1), (numeralText 10 number).length ≤ 10 := by
    intro number small
    rw [numeralText, List.length_map]
    exact length_numeral_le (by omega) small
  rw [bwi2a, decimalText]
  split_ifs with negative
  · have magnitude : (-num).toNat = num.toInt.natAbs := by
      rw [BitVec.toInt_eq_toNat_cond] at negative ⊢
      rw [BitVec.toNat_neg]
      split_ifs at negative ⊢ <;> omega
    have small := fits num.toInt.natAbs (by rw [← magnitude]; have := (-num).isLt; omega)
    rw [bwui2a_eq (-num) baseGt baseLt, ten, magnitude]
    refine ⟨rfl, ?_⟩
    rw [List.length_append, List.length_singleton]
    omega
  · have magnitude : num.toNat = num.toInt.natAbs := by
      rw [BitVec.toInt_eq_toNat_cond] at negative ⊢
      split_ifs at negative ⊢ <;> omega
    have small := fits num.toInt.natAbs (by rw [← magnitude]; omega)
    rw [bwui2a_eq num baseGt baseLt, ten, magnitude]
    refine ⟨rfl, ?_⟩
    rw [List.nil_append]
    omega

end Signed

section Hexadecimal

theorem c2x_eq {digit : Byte} (digitLt : digit.toNat < 16) : c2x digit = digitOf digit.toNat := by
  have all : ∀ digit < 16, c2x (BitVec.ofNat 8 digit) = digitOf digit := by decide
  have own := all digit.toNat digitLt
  rwa [BitVec.ofNat_toNat, BitVec.setWidth_eq] at own

theorem bwputx_stores (channel : ℤ) (c : Byte) :
    (bwputx channel c).2 = puts channel [digitOf (c.toNat / 16), digitOf (c.toNat % 16)] := by
  have bound := c.isLt
  have sixteen : (16 : Byte).toNat = 16 := rfl
  have high : (c / 16).toNat = c.toNat / 16 := by rw [BitVec.toNat_udiv, sixteen]
  have low : (c % 16).toNat = c.toNat % 16 := by rw [BitVec.toNat_umod, sixteen]
  rw [bwputx, c2x_eq (by omega), c2x_eq (by omega), high, low, puts]
  simp

/-- `bwputr` writes the eight hexadecimal digits of the register, and a space. -/
theorem bwputr_stores (channel : ℤ) (reg : Word) :
    (bwputr channel reg).2 =
      puts channel ((topDown 16 7 reg.toNat).map digitOf ++ [0x20]) := by
  have bound := reg.isLt
  have bytes : ∀ start, (reg.extractLsb' start 8).toNat = reg.toNat / 2 ^ start % 256 := by
    intro start
    rw [BitVec.extractLsb'_toNat, Nat.shiftRight_eq_div_pow]
  have digits : topDown 16 7 reg.toNat =
      [reg.toNat / 2 ^ 24 % 256 / 16, reg.toNat / 2 ^ 24 % 256 % 16,
        reg.toNat / 2 ^ 16 % 256 / 16, reg.toNat / 2 ^ 16 % 256 % 16,
        reg.toNat / 2 ^ 8 % 256 / 16, reg.toNat / 2 ^ 8 % 256 % 16,
        reg.toNat / 2 ^ 0 % 256 / 16, reg.toNat / 2 ^ 0 % 256 % 16] := by
    simp only [topDown, List.cons.injEq, and_true]
    refine ⟨?_, ?_, ?_, ?_, ?_, ?_, ?_, ?_⟩ <;> omega
  simp only [bwputr, List.flatMap_cons, List.flatMap_nil, bwputx_stores, bytes, digits, puts,
    List.map_cons, List.map_nil, List.cons_append, List.nil_append, List.append_nil,
    List.append_assoc]

/-- What `bwputr` writes, `bwa2i` reads back as a hexadecimal number: it finds the register and
stops at the space. -/
theorem bwputr_reads_back (channel : ℤ) (reg : Word) (rest : List Byte) :
    ∃ first text, (bwputr channel reg).2 = puts channel (first :: text ++ [0x20]) ∧
      (first :: text).length = 8 ∧
      bwa2i first (text ++ 0x20 :: rest) 16 = (0x20, rest, reg) := by
  have sixteen : (16 : Word).toNat = 16 := rfl
  have length : ((topDown 16 7 reg.toNat).map digitOf).length = 8 := by
    rw [List.length_map, length_topDown]
  have nonempty : 0 < ((topDown 16 7 reg.toNat).map digitOf).length := by omega
  rcases List.exists_cons_of_length_pos nonempty with ⟨first, text, shape⟩
  have ends : EndsNumber 16 0x20 := by decide
  refine ⟨first, text, shape ▸ bwputr_stores channel reg, shape ▸ length, ?_⟩
  have digitsLt : ∀ digit ∈ topDown 16 7 reg.toNat, digit < (16 : Word).toNat :=
    fun digit digitMem => lt_of_mem_topDown reg.isLt digitMem
  have starts : next ((topDown 16 7 reg.toNat).map digitOf ++ 0x20 :: rest) =
      (first, text ++ 0x20 :: rest) := by
    rw [shape]
    rfl
  have readBack := bwa2iLoop_digits (by decide) digitsLt ends 0 starts
  rw [sixteen, readOn_topDown, BitVec.ofNat_toNat, BitVec.setWidth_eq] at readBack
  exact readBack

end Hexadecimal

end ArmKernel.Bwio
