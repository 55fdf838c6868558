import ArmKernel.Memory
import Mathlib.Data.Nat.Find

/-!
# Strings

The bounded string functions of string.c. A `char *` is a map from indices to characters; it
need not point to a string that ends, since `strncpy` leaves no NUL behind when it fills its
destination. What a function with the bound `count` sees of it is its text, the characters
up to the first NUL or up to the bound. `strncpy` copies the text and `strncmp` compares
the texts, so that a copy can be compared in place of the string itself.
-/

namespace ArmKernel

/-- The first loop of `strncpy` from index `i` on. -/
def strncpyLoop (src : ℕ → Byte) : ℕ → ℕ → (ℕ → Byte) → ℕ × (ℕ → Byte)
  | 0, i, dest => (i, dest)
  | remaining + 1, i, dest =>
      if src i ≠ 0 then
        strncpyLoop src remaining (i + 1) (Function.update dest i (src i))
      else
        (i, dest)

/-- The second loop, which fills the rest of the destination. -/
def strncpyPad : ℕ → ℕ → (ℕ → Byte) → (ℕ → Byte)
  | 0, _, dest => dest
  | remaining + 1, i, dest => strncpyPad remaining (i + 1) (Function.update dest i 0)

def strncpy (dest src : ℕ → Byte) (count : ℕ) : ℕ → Byte :=
  let (i, dest) := strncpyLoop src count 0 dest
  strncpyPad (count - i) i dest

/-- The loop of `strncmp` from index `i` on; `ret` is the last difference. -/
def strncmpLoop (lhs rhs : ℕ → Byte) : ℕ → ℕ → ℤ → ℤ
  | 0, _, ret => ret
  | remaining + 1, i, _ =>
      let ret : ℤ := (lhs i).toNat - (rhs i).toNat
      if ret ≠ 0 ∨ lhs i = 0 then
        ret
      else
        strncmpLoop lhs rhs remaining (i + 1) ret

def strncmp (lhs rhs : ℕ → Byte) (count : ℕ) : ℤ := strncmpLoop lhs rhs count 0 0

/-- The characters from index `i` on, up to the first NUL and not more than `remaining`. -/
def text (chars : ℕ → Byte) : ℕ → ℕ → List Byte
  | 0, _ => []
  | remaining + 1, i => if chars i = 0 then [] else chars i :: text chars remaining (i + 1)

section Text

variable {chars chars' src dest lhs rhs : ℕ → Byte} {remaining i index count : ℕ}

theorem text_nul (isNul : chars i = 0) : text chars remaining i = [] := by
  cases remaining with
  | zero => rfl
  | succ remaining => exact if_pos isNul

theorem text_cons (notNul : chars i ≠ 0) :
    text chars (remaining + 1) i = chars i :: text chars remaining (i + 1) := if_neg notNul

theorem text_length_le : (text chars remaining i).length ≤ remaining := by
  induction remaining generalizing i with
  | zero => exact le_rfl
  | succ remaining ih =>
      by_cases isNul : chars i = 0
      · simp only [text_nul isNul, List.length_nil, Nat.zero_le]
      · simp only [text_cons isNul, List.length_cons, Nat.add_le_add_iff_right]
        exact ih

/-- A string has the text of another if it has its characters, and a NUL behind them. -/
theorem text_congr
    (same : ∀ index, i ≤ index → index < i + (text chars remaining i).length →
      chars' index = chars index)
    (ends : (text chars remaining i).length < remaining →
      chars' (i + (text chars remaining i).length) = 0) :
    text chars' remaining i = text chars remaining i := by
  induction remaining generalizing i with
  | zero => rfl
  | succ remaining ih =>
      by_cases isNul : chars i = 0
      · simp only [text_nul isNul, List.length_nil, Nat.add_zero] at ends ⊢
        exact text_nul (ends (Nat.succ_pos remaining))
      · simp only [text_cons isNul, List.length_cons] at same ends ⊢
        have first : chars' i = chars i := same i le_rfl (by omega)
        have notNul : chars' i ≠ 0 := by rwa [first]
        rw [text_cons notNul, first, ih]
        · intro index indexLe indexLt
          exact same index (by omega) (by omega)
        · intro short
          have atEnd := ends (by omega)
          rwa [← Nat.add_assoc, Nat.add_right_comm] at atEnd

theorem strncpyLoop_eq : (strncpyLoop src remaining i dest).1 = i + (text src remaining i).length ∧
    ∀ index, (strncpyLoop src remaining i dest).2 index =
      if i ≤ index ∧ index < i + (text src remaining i).length then src index else dest index := by
  induction remaining generalizing i dest with
  | zero =>
      refine ⟨rfl, ?_⟩
      intro index
      exact (if_neg (by simp only [text, List.length_nil]; omega)).symm
  | succ remaining ih =>
      by_cases isNul : src i = 0
      · simp only [strncpyLoop, isNul, text_nul isNul, ne_eq, not_true_eq_false, if_false,
          List.length_nil, Nat.add_zero, true_and]
        intro index
        exact (if_neg (by omega)).symm
      · simp only [strncpyLoop, ne_eq, isNul, not_false_eq_true, if_true, text_cons isNul,
          List.length_cons]
        rcases @ih (Function.update dest i (src i)) (i + 1) with ⟨stop, copied⟩
        refine ⟨by omega, ?_⟩
        intro index
        rw [copied]
        rcases eq_or_ne index i with rfl | indexNe
        · rw [if_neg (by omega), if_pos (by omega), Function.update_self]
        · rw [Function.update_of_ne indexNe]
          split_ifs <;> first | rfl | omega

theorem strncpyPad_eq : strncpyPad remaining i dest index =
    if i ≤ index ∧ index < i + remaining then 0 else dest index := by
  induction remaining generalizing i dest with
  | zero => exact (if_neg (by omega)).symm
  | succ remaining ih =>
      rw [strncpyPad, ih]
      rcases eq_or_ne index i with rfl | indexNe
      · rw [if_neg (by omega), if_pos (by omega), Function.update_self]
      · rw [Function.update_of_ne indexNe]
        split_ifs <;> first | rfl | omega

theorem strncpy_eq : strncpy dest src count index =
    if index < (text src count 0).length then src index
    else if index < count then 0 else dest index := by
  have short : (text src count 0).length ≤ count := text_length_le
  rcases @strncpyLoop_eq src dest count 0 with ⟨stop, copied⟩
  simp only [strncpy, strncpyPad_eq, stop, copied]
  split_ifs <;> first | rfl | omega

theorem strncpy_frame (outside : count ≤ index) : strncpy dest src count index = dest index := by
  have short : (text src count 0).length ≤ count := text_length_le
  rw [strncpy_eq, if_neg (by omega), if_neg (by omega)]

@[simp]
theorem text_strncpy : text (strncpy dest src count) count 0 = text src count 0 := by
  apply text_congr
  · intro index _ indexLt
    rw [strncpy_eq, if_pos (by omega)]
  · intro short
    rw [Nat.zero_add, strncpy_eq, if_neg (by omega), if_pos short]

theorem strncmpLoop_eq_zero_iff : strncmpLoop lhs rhs remaining i 0 = 0 ↔
    text lhs remaining i = text rhs remaining i := by
  induction remaining generalizing i with
  | zero => exact iff_of_true rfl rfl
  | succ remaining ih =>
      by_cases sameChar : lhs i = rhs i
      · have noDifference : ((lhs i).toNat : ℤ) - (rhs i).toNat = 0 := by rw [sameChar, sub_self]
        by_cases isNul : rhs i = 0
        · simp [strncmpLoop, sameChar, isNul, text_nul]
        · have notNul : lhs i ≠ 0 := by rwa [sameChar]
          rw [strncmpLoop, noDifference, if_neg (by tauto), ih, text_cons notNul,
            text_cons isNul, sameChar]
          simp only [List.cons.injEq, true_and]
      · have difference : ((lhs i).toNat : ℤ) - (rhs i).toNat ≠ 0 := by
          intro noDifference
          apply sameChar
          apply BitVec.eq_of_toNat_eq
          omega
        simp only [strncmpLoop, difference, ne_eq, not_false_eq_true, true_or, if_true, false_iff]
        intro sameText
        by_cases leftNul : lhs i = 0
        · have rightNul : rhs i ≠ 0 := fun isNul => sameChar (leftNul.trans isNul.symm)
          simp [text_nul leftNul, text_cons rightNul] at sameText
        · by_cases rightNul : rhs i = 0
          · simp [text_cons leftNul, text_nul rightNul] at sameText
          · simp only [text_cons leftNul, text_cons rightNul, List.cons.injEq] at sameText
            exact sameChar sameText.1

/-- `strncmp` compares the texts. -/
theorem strncmp_eq_zero_iff : strncmp lhs rhs count = 0 ↔ text lhs count 0 = text rhs count 0 :=
  strncmpLoop_eq_zero_iff

end Text

/-- A string of any length that ends with a NUL. -/
structure CString where
  chars : ℕ → Byte
  terminated : ∃ index, chars index = 0

namespace CString

variable (string : CString)

/-- `strlen` -/
def length : ℕ := Nat.find string.terminated

/-- The characters before the first NUL. -/
def value : List Byte := (List.range string.length).map string.chars

theorem text_of_le {remaining i : ℕ} (inside : i ≤ string.length) :
    text string.chars remaining i = (string.value.drop i).take remaining := by
  induction remaining generalizing i with
  | zero => rfl
  | succ remaining ih =>
      rcases Nat.lt_or_ge i string.length with isChar | atEnd
      · have notNul : string.chars i ≠ 0 := Nat.find_min string.terminated isChar
        have inRange : i < string.value.length := by
          simpa only [value, List.length_map, List.length_range] using isChar
        rw [text_cons notNul, ih isChar, List.drop_eq_getElem_cons inRange, List.take_succ_cons]
        simp only [value, List.getElem_map, List.getElem_range]
      · have sameIndex : i = string.length := le_antisymm inside atEnd
        have isNul : string.chars i = 0 := by
          rw [sameIndex]
          exact Nat.find_spec string.terminated
        rw [text_nul isNul, List.drop_of_length_le, List.take_nil]
        simpa only [value, List.length_map, List.length_range] using atEnd

theorem text_eq (count : ℕ) : text string.chars count 0 = string.value.take count := by
  rw [string.text_of_le (Nat.zero_le _), List.drop_zero]

end CString

end ArmKernel
