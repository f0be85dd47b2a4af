import CargoDeps.Proofs.Text.Cut
import CargoDeps.Version.Reader
import Mathlib.Data.List.Basic
import Mathlib.Data.List.TakeWhile

namespace CargoDeps.Text

/-!
# Numbers in decimal notation

The notation of a number is a run of ASCII digits without a leading zero, and the number that such
a run is read as is the number that it was made from.
-/

/-- ASCII digits, at least one, of which the first is no zero unless it stands alone. -/
structure IsNumeral (digits : List Char) : Prop where
  notEmpty : digits ≠ []
  allDigits : ∀ c ∈ digits, c.isDigit = true
  noLeadingZero : Version.hasLeadingZero digits = false

variable {digits rest : List Char}

theorem IsNumeral.takeWhile_append
    (isNumeral : IsNumeral digits)
    (ends : ∀ c ∈ rest.head?, c.isDigit = false) :
    (digits ++ rest).takeWhile Char.isDigit = digits := by
  rw [List.takeWhile_append_of_pos isNumeral.allDigits]
  cases rest with
  | nil =>
      exact List.append_nil digits
  | cons c others =>
      rw [List.takeWhile_cons_of_neg (by simp [ends c rfl]), List.append_nil]

theorem IsNumeral.dropWhile_append
    (isNumeral : IsNumeral digits)
    (ends : ∀ c ∈ rest.head?, c.isDigit = false) :
    (digits ++ rest).dropWhile Char.isDigit = rest := by
  rw [List.dropWhile_append_of_pos isNumeral.allDigits]
  cases rest with
  | nil =>
      rfl
  | cons c others =>
      exact List.dropWhile_cons_of_neg (by simp [ends c rfl])

/-! ### The notation of a number -/

/-- The digits of a number in decimal notation. -/
def numeral (n : Nat) : List Char :=
  (toString n).toList

theorem numeral_eq_toDigits
    (n : Nat) :
    numeral n = Nat.toDigits 10 n :=
  Nat.toList_repr

theorem head_toDigits_ne_zero
    {n : Nat}
    (positive : 0 < n) :
    (Nat.toDigits 10 n).head? ≠ some '0' := by
  induction n using Nat.strongRecOn with
  | ind n inductionHypothesis =>
      by_cases oneDigit : n < 10
      · rw [Nat.toDigits_of_lt_base oneDigit]
        have oneOfTen : ∀ digit < 10, 0 < digit → [digit.digitChar].head? ≠ some '0' := by
          decide
        exact oneOfTen n oneDigit positive
      · have several : 10 ≤ n := Nat.le_of_not_lt oneDigit
        have others : 0 < n / 10 := Nat.div_pos several (by decide)
        have notZero : (Nat.toDigits 10 (n / 10)).head? ≠ some '0' :=
          inductionHypothesis (n / 10) (Nat.div_lt_self positive (by decide)) others
        rw [Nat.toDigits_of_base_le (by decide) several]
        cases shape : Nat.toDigits 10 (n / 10) with
        | nil =>
            exact absurd shape Nat.toDigits_ne_nil
        | cons first more =>
            rw [shape] at notZero
            exact notZero

theorem isNumeral_numeral
    (n : Nat) :
    IsNumeral (numeral n) := by
  rw [numeral_eq_toDigits]
  have allDigits : ∀ c ∈ Nat.toDigits 10 n, c.isDigit = true :=
    fun c member => Nat.isDigit_of_mem_toDigits (by decide) (by decide) member
  refine ⟨Nat.toDigits_ne_nil, allDigits, ?_⟩
  rcases Nat.eq_zero_or_pos n with rfl | positive
  · decide
  · simp [Version.hasLeadingZero, head_toDigits_ne_zero positive]

theorem decimalValue_of_isDigit
    {c : Char}
    (isDigit : c.isDigit = true) :
    decimalValue? c = some (c.toNat - '0'.toNat) := by
  simp only [Char.isDigit, Bool.and_eq_true, decide_eq_true_eq] at isDigit
  have lower : 0x30 ≤ c.toNat := isDigit.1
  have upper : c.toNat ≤ 0x39 := isDigit.2
  have ascii : c.toNat < 0x80 := by omega
  simp [decimalValue?, lower, upper, ascii]

theorem decimalNumber_eq_ofDigitChars
    (allDigits : ∀ c ∈ digits, c.isDigit = true) :
    decimalNumber digits = Nat.ofDigitChars 10 digits 0 := by
  rw [decimalNumber, Nat.ofDigitChars_eq_foldl]
  apply List.foldl_ext
  intro total c member
  rw [decimalValue_of_isDigit (allDigits c member), Option.getD_some]

theorem decimalNumber_numeral
    (n : Nat) :
    decimalNumber (numeral n) = n := by
  rw [decimalNumber_eq_ofDigitChars (isNumeral_numeral n).allDigits, numeral_eq_toDigits,
    Nat.ofDigitChars_ten_toDigits]

theorem readNumber_numeral_eq_ok_iff
    {n m : Nat} :
    readNumber (numeral n) = .ok m ↔ (toString n).length ≤ digitLimit ∧ n = m := by
  rw [readNumber_eq_ok_iff, decimalNumber_numeral, numeral, String.length_toList]

/-! ### Digits are no blanks -/

/-- The code points of the blank characters. -/
def blankPoints : List Nat := [
  0x09, 0x0A, 0x0B, 0x0C, 0x0D, 0x1C, 0x1D, 0x1E, 0x1F, 0x20, 0x85, 0xA0, 0x1680, 0x2000, 0x2001,
  0x2002, 0x2003, 0x2004, 0x2005, 0x2006, 0x2007, 0x2008, 0x2009, 0x200A, 0x2028, 0x2029, 0x202F,
  0x205F, 0x3000]

theorem mem_blankPoints
    {c : Char}
    (blank : isBlank c = true) :
    c.toNat ∈ blankPoints := by
  simp only [isBlank, Bool.or_eq_true, Bool.and_eq_true, decide_eq_true_eq, beq_iff_eq] at blank
  simp only [blankPoints, List.mem_cons, List.not_mem_nil, or_false]
  omega

theorem isBlank_of_isDecimal
    {c : Char}
    (isDecimal : isDecimal c = true) :
    isBlank c = false := by
  have notDecimal : ∀ n ∈ blankPoints,
      (if n < 0x80 then
        if 0x30 ≤ n && n ≤ 0x39 then some (n - 0x30) else none
      else
        (zeroPoints.find? fun first => first ≤ n && n ≤ first + 9).map (n - ·)) = none := by
    decide
  apply Bool.eq_false_iff.mpr
  intro blank
  have noValue : decimalValue? c = none := notDecimal c.toNat (mem_blankPoints blank)
  rw [Text.isDecimal, noValue] at isDecimal
  cases isDecimal

end CargoDeps.Text
