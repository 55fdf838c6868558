import ArmKernel.Bwio.Numerals

/-!
# Formats

A format is made of characters that stand for themselves, of `%%`, and of conversions with a width
in decimal, or none. `bwformat` writes what each of them stands for, one after the other. It fills a
text up to its width with NUL characters, as it passes its flag for zeros, and not a character, to
`bwputw`.
-/

namespace ArmKernel.Bwio

open Digits

inductive Kind where
  | char
  | string
  | unsigned
  | signed
  | hex

def Kind.letter : Kind → Byte
  | .char => 0x63
  | .string => 0x73
  | .unsigned => 0x75
  | .signed => 0x64
  | .hex => 0x78

/-- A width is an `int`; zero stands for none. -/
structure Width where
  value : ℕ
  fits : value < 2 ^ 31

inductive Segment where
  | literal (c : Byte) (plain : c ≠ 0 ∧ c ≠ 0x25)
  | percent
  | convert (width : Width) (kind : Kind)

def Width.encode (width : Width) : List Byte :=
  if width.value = 0 then [] else numeralText 10 width.value

def Segment.encode : Segment → List Byte
  | .literal c _ => [c]
  | .percent => [0x25, 0x25]
  | .convert width kind => 0x25 :: (width.encode ++ [kind.letter])

/-- The text at the right of a field of the width. -/
def padded (width : Width) (text : List Byte) : List Byte :=
  List.replicate (width.value - text.length) 0 ++ text

/-- What a conversion stands for. -/
def Kind.render (mem : Mem) (width : Width) (arg : Word) : Kind → List Byte
  | .char => [arg.setWidth 8]
  | .string => padded width (stringAt mem arg)
  | .unsigned => padded width (numeralText 10 arg.toNat)
  | .signed => padded width (decimalText arg.toInt)
  | .hex => padded width (numeralText 16 arg.toNat)

/-- What a format stands for; `none` if there are too few arguments. -/
def render (mem : Mem) : List Segment → List Word → Option (List Byte)
  | [], _ => some []
  | .literal c _ :: segments, va => (render mem segments va).map (c :: ·)
  | .percent :: segments, va => (render mem segments va).map (0x25 :: ·)
  | .convert _ _ :: _, [] => none
  | .convert width kind :: segments, arg :: va =>
      (render mem segments va).map (kind.render mem width arg ++ ·)

section Padding

variable {channel : ℤ}

theorem puts_append (left right : List Byte) :
    puts channel (left ++ right) = puts channel left ++ puts channel right :=
  List.flatMap_append

theorem countOff_eq (n : ℕ) (text : List Byte) : (countOff n text).toNat = n - text.length := by
  induction text generalizing n with
  | nil => simp [countOff]
  | cons c text ih =>
      cases n with
      | zero => simp [countOff]
      | succ n =>
          have positive : ((n + 1 : ℕ) : ℤ) > 0 := by omega
          have less : ((n + 1 : ℕ) : ℤ) - 1 = n := by omega
          rw [countOff, if_pos positive, less, ih, List.length_cons]
          omega

theorem bwputw_eq (width : Width) (text : List Byte) :
    bwputw channel (BitVec.ofNat 32 width.value).toInt 0 text =
      puts channel (padded width text) := by
  have fits := width.fits
  have value : (BitVec.ofNat 32 width.value).toNat = width.value := by
    rw [BitVec.toNat_ofNat]
    omega
  rw [toInt_of_small (by omega), value, bwputw, countOff_eq, ← puts_append]
  rfl

end Padding

section Parsing

variable {rest : List Byte}

theorem Kind.letter_ends (kind : Kind) : EndsNumber 10 kind.letter := by
  cases kind <;> decide

/-- A leading digit is one of the characters at which `bwformat` reads a width. -/
theorem digitOf_leading : ∀ digit < 10, digit ≠ 0 →
    digitOf digit ≠ 0x30 ∧ 0x31 ≤ (digitOf digit).toNat ∧ (digitOf digit).toNat ≤ 0x39 := by
  decide

/-- The width and the letter of a conversion are read as they were meant. -/
theorem conversion_encode (width : Width) (kind : Kind) :
    conversion (width.encode ++ kind.letter :: rest) =
      (0, BitVec.ofNat 32 width.value, kind.letter, rest) := by
  rw [Width.encode]
  split_ifs with isZero
  · rw [isZero, List.nil_append]
    cases kind <;> rfl
  · have fits := width.fits
    have ten : (10 : Word).toNat = 10 := rfl
    have value : (BitVec.ofNat 32 width.value).toNat = width.value := by
      rw [BitVec.toNat_ofNat]
      omega
    rcases bwa2i_bwui2a (BitVec.ofNat 32 width.value) (by decide) (by decide) kind.letter_ends
      rest with ⟨first, text, -, shape, readBack⟩
    rw [ten, value] at shape
    rcases numeral_leading 10 isZero with ⟨digit, digits, leading, notZero⟩
    have isDigit : digit < 10 := lt_of_mem_numeral (by omega) (leading ▸ List.mem_cons_self)
    rw [numeralText, leading, List.map_cons, List.cons.injEq] at shape
    rcases shape with ⟨rfl, rfl⟩
    rcases digitOf_leading digit isDigit notZero with ⟨noFlag, isWidth⟩
    rw [numeralText, leading, List.map_cons, List.cons_append, conversion]
    simp only [next, if_neg noFlag, if_pos isWidth, readBack]

end Parsing

section Formats

variable {channel : ℤ} {mem : Mem}

theorem Kind.convert_eq (kind : Kind) (width : Width) (arg : Word) (va : List Word) :
    Bwio.convert channel mem 0 (BitVec.ofNat 32 width.value) kind.letter (arg :: va) =
      some (puts channel (kind.render mem width arg), va) := by
  cases kind with
  | char => exact congrArg (fun stores => some (stores, va)) (List.append_nil _).symm
  | string =>
      change some (bwputw channel _ 0 (stringAt mem arg), va) = _
      rw [bwputw_eq]
      rfl
  | unsigned =>
      change (bwui2a arg 10).bind (fun bf => some (bwputw channel _ 0 bf, va)) = _
      rw [bwui2a_eq arg (by decide) (by decide), Option.bind_some, bwputw_eq]
      rfl
  | signed =>
      change (bwi2a arg).bind (fun bf => some (bwputw channel _ 0 bf, va)) = _
      rw [(bwi2a_eq arg).1, Option.bind_some, bwputw_eq]
      rfl
  | hex =>
      change (bwui2a arg 16).bind (fun bf => some (bwputw channel _ 0 bf, va)) = _
      rw [bwui2a_eq arg (by decide) (by decide), Option.bind_some, bwputw_eq]
      rfl

theorem Kind.convert_nil (kind : Kind) (w : Word) :
    Bwio.convert channel mem 0 w kind.letter [] = none := by
  cases kind <;> rfl

theorem bwformatLoop_eq (segments : List Segment) (va : List Word) (fuel : ℕ)
    (enough : (segments.flatMap Segment.encode).length < fuel) :
    bwformatLoop channel mem fuel (segments.flatMap Segment.encode) va =
      (render mem segments va).map (puts channel) := by
  induction segments generalizing fuel va with
  | nil =>
      cases fuel with
      | zero => simp at enough
      | succ fuel => rfl
  | cons segment segments ih =>
      rw [List.flatMap_cons, List.length_append] at enough
      rw [List.flatMap_cons]
      cases fuel with
      | zero => omega
      | succ fuel =>
          cases segment with
          | literal c plain =>
              have rest := ih va fuel (by
                rw [Segment.encode, List.length_singleton] at enough
                omega)
              simp only [Segment.encode, List.cons_append, List.nil_append, bwformatLoop, next,
                if_neg plain.1, if_pos plain.2, rest, render, Option.map_map]
              rfl
          | percent =>
              have rest := ih va fuel (by rw [Segment.encode, List.length_cons] at enough; omega)
              change (bwformatLoop channel mem fuel (segments.flatMap Segment.encode) va).map
                ((bwputc channel 0x25).2 ++ ·) = _
              rw [rest, render, Option.map_map, Option.map_map]
              rfl
          | convert width kind =>
              have notNul : kind.letter ≠ 0 := by cases kind <;> decide
              have isPercent : (0x25 : Byte) ≠ 0 := by decide
              simp only [Segment.encode, List.cons_append, List.append_assoc, List.nil_append,
                bwformatLoop, next, if_neg isPercent, ne_eq, not_true_eq_false, if_false,
                conversion_encode, if_neg notNul]
              cases va with
              | nil =>
                  rw [kind.convert_nil]
                  rfl
              | cons arg va =>
                  have rest := ih va fuel (by
                    rw [Segment.encode, List.length_cons] at enough
                    omega)
                  rw [kind.convert_eq]
                  simp only [Option.bind_eq_bind, Option.bind_some, rest, render, Option.map_map]
                  congr 1
                  funext text
                  exact (puts_append _ text).symm

/--
`bwformat` writes what the format stands for: every character of it once and in order, every
argument in place of its conversion.
-/
theorem bwformat_eq (channel : ℤ) (mem : Mem) (segments : List Segment) (va : List Word) :
    bwformat channel mem (segments.flatMap Segment.encode) va =
      (render mem segments va).map (puts channel) :=
  bwformatLoop_eq segments va _ (Nat.lt_succ_self _)

/-- The format `%3u/%d` of the numbers 42 and -7. -/
example : bwformat com2 (fun _ => 0) [0x25, 0x33, 0x75, 0x2F, 0x25, 0x64] [42, -7] =
    some (puts com2 [0x00, 0x34, 0x32, 0x2F, 0x2D, 0x37]) := by decide

end Formats

end ArmKernel.Bwio
