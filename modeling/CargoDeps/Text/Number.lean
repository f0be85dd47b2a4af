namespace CargoDeps.Text

/-!
# Digits, numbers and numerals

Decimal digits of all scripts stand in runs of ten, zero first, so a table of the zeros decides which
characters are decimal digits and what they are worth.  A number is read from a run of them, unless
the run is too long; leading zeros count towards its length (`readNumber_eq_ok_iff`).  A numeral
writes a number with or without a sign, a fraction and an exponent, or it is a word for infinity or
for what is no number.
-/

/-! ### Digits -/

/-- The code points of the zeros of Unicode's decimal digits (general category Nd). -/
def zeroPoints : List Nat := [
    0x30, 0x660, 0x6F0, 0x7C0, 0x966, 0x9E6, 0xA66, 0xAE6, 0xB66, 0xBE6, 0xC66, 0xCE6, 0xD66,
    0xDE6, 0xE50, 0xED0, 0xF20, 0x1040, 0x1090, 0x17E0, 0x1810, 0x1946, 0x19D0, 0x1A80, 0x1A90,
    0x1B50, 0x1BB0, 0x1C40, 0x1C50, 0xA620, 0xA8D0, 0xA900, 0xA9D0, 0xA9F0, 0xAA50, 0xABF0,
    0xFF10, 0x104A0, 0x10D30, 0x11066, 0x110F0, 0x11136, 0x111D0, 0x112F0, 0x11450, 0x114D0,
    0x11650, 0x116C0, 0x11730, 0x118E0, 0x11950, 0x11C50, 0x11D50, 0x11DA0, 0x16A60, 0x16AC0,
    0x16B50, 0x1D7CE, 0x1D7D8, 0x1D7E2, 0x1D7EC, 0x1D7F6, 0x1E140, 0x1E2F0, 0x1E950, 0x1FBF0]

/-- Ranges of characters that are digits without being decimal: superscripts, subscripts, circled
digits and their like (numeric type Digit). -/
def digitFormRanges : List (Nat × Nat) := [
    (0xB2, 0xB3), (0xB9, 0xB9), (0x1369, 0x1371), (0x19DA, 0x19DA), (0x2070, 0x2070),
    (0x2074, 0x2079), (0x2080, 0x2089), (0x2460, 0x2468), (0x2474, 0x247C), (0x2488, 0x2490),
    (0x24EA, 0x24EA), (0x24F5, 0x24FD), (0x24FF, 0x24FF), (0x2776, 0x277E), (0x2780, 0x2788),
    (0x278A, 0x2792), (0x10A40, 0x10A43), (0x10E60, 0x10E68), (0x11052, 0x1105A),
    (0x1F100, 0x1F10A)]

/-- What a decimal digit of any script is worth. -/
def decimalValue? (c : Char) : Option Nat :=
  let n := c.toNat
  if n < 0x80 then
    if 0x30 ≤ n && n ≤ 0x39 then some (n - 0x30) else none
  else
    (zeroPoints.find? fun first => first ≤ n && n ≤ first + 9).map (n - ·)

/-- Whether a character is a decimal digit of some script. -/
def isDecimal (c : Char) : Bool :=
  (decimalValue? c).isSome

/-- Whether a character shows a digit: decimal, or a digit in another form such as `²`. -/
def isDigit (c : Char) : Bool :=
  isDecimal c || digitFormRanges.any fun (first, last) => first ≤ c.toNat && c.toNat ≤ last

/-- The number that a run of decimal digits of any scripts writes; other characters count zero. -/
def decimalNumber (digits : List Char) : Nat :=
  digits.foldl (fun total c => 10 * total + (decimalValue? c).getD 0) 0

/-- Core's digits are decimal digits. -/
theorem isDecimal_of_isDigit {c : Char} (h : c.isDigit = true) : isDecimal c = true := by
  simp only [Char.isDigit, Bool.and_eq_true, decide_eq_true_eq] at h
  have lower : 0x30 ≤ c.toNat := h.1
  have upper : c.toNat ≤ 0x39 := h.2
  have ascii : c.toNat < 0x80 := by omega
  simp [isDecimal, decimalValue?, lower, upper, ascii]

/-! ### Numbers -/

/-- The greatest length of a run of digits that is read as a number. -/
def digitLimit : Nat := 4300

/-- A run of digits is too long to be read. -/
structure TooManyDigits where
  count : Nat
deriving DecidableEq, Repr

/-- The error in words. -/
def TooManyDigits.message (error : TooManyDigits) : String :=
  "Exceeds the limit (" ++ toString digitLimit ++
    " digits) for integer string conversion: value has " ++ toString error.count ++
    " digits; use sys.set_int_max_str_digits() to increase the limit"

/-- The number that a run of decimal digits writes, unless the run is too long. -/
def readNumber (digits : List Char) : Except TooManyDigits Nat :=
  if digits.length ≤ digitLimit then
    .ok (decimalNumber digits)
  else
    .error ⟨digits.length⟩

/-- What is read is what the digits write, and only long runs are refused. -/
theorem readNumber_eq_ok_iff {digits : List Char} {n : Nat} :
    readNumber digits = .ok n ↔ digits.length ≤ digitLimit ∧ decimalNumber digits = n := by
  unfold readNumber
  split
  · next short => simp [short]
  · next long => simp [long]

/-! ### Numerals -/

/-- Whether every underscore stands between two decimal digits.  The flag tells whether a digit
stands before the text. -/
def dividesDigits : Bool → List Char → Bool
  | _, [] => true
  | afterDigit, c :: rest =>
      if c = '_' then
        afterDigit && rest.head?.any isDecimal && dividesDigits false rest
      else
        dividesDigits (isDecimal c) rest

/-- The text behind its sign, if it begins with one. -/
def withoutSign : List Char → List Char
  | '+' :: rest => rest
  | '-' :: rest => rest
  | text => text

/-- Whether a text consists of decimal digits, of which there is at least one. -/
def isDigits (text : List Char) : Bool :=
  !text.isEmpty && text.all isDecimal

/-- Whether a text is an exponent or nothing. -/
def isExponent : List Char → Bool
  | [] => true
  | c :: rest => (c = 'e' || c = 'E') && isDigits (withoutSign rest)

/-- Whether a text without a sign writes a number in digits.  The digits before the point or those
behind it may be missing. -/
def isUnsignedNumeral (text : List Char) : Bool :=
  let hasWhole := text.head?.any isDecimal
  match text.dropWhile isDecimal with
  | '.' :: rest =>
      (hasWhole || rest.head?.any isDecimal) && isExponent (rest.dropWhile isDecimal)
  | rest => hasWhole && isExponent rest

/-- The words for infinity and for what is no number. -/
def numeralWords : List (List Char) :=
  ["inf".toList, "infinity".toList, "nan".toList]

/-- Whether a text writes a number. -/
def isNumeral (text : List Char) : Bool :=
  let unsigned := withoutSign (text.filter (· ≠ '_'))
  dividesDigits false text &&
    (unsigned.map Char.toLower ∈ numeralWords || isUnsignedNumeral unsigned)

end CargoDeps.Text
