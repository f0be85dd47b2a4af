import CargoDeps.Text.Number

namespace CargoDeps.Settings

/-!
# JSON texts

A reader of JSON texts that keeps the shape of a value and its strings.  Numbers are checked and
not kept; one without fraction and exponent has to be short enough to be read.  The names `NaN`,
`Infinity` and `-Infinity` are read as numbers.
-/

/-- A JSON value.  A string that pairs its surrogates wrongly has no text. -/
inductive Json
  | null
  | bool (value : Bool)
  | number
  | string (text : Option String)
  | array (items : List Json)
  | object (entries : List (Option String × Json))

namespace Json

/-- Whether a character may stand between tokens. -/
def isSpace (c : Char) : Bool :=
  c = ' ' || c = '\t' || c = '\n' || c = '\r'

/-- The text from its first character that is not a space. -/
def skipSpace (text : List Char) : List Char :=
  text.dropWhile isSpace

/-- The value of a hexadecimal digit. -/
def hexDigit? (c : Char) : Option Nat :=
  if '0' ≤ c && c ≤ '9' then
    some (c.toNat - '0'.toNat)
  else if 'a' ≤ c && c ≤ 'f' then
    some (c.toNat - 'a'.toNat + 10)
  else if 'A' ≤ c && c ≤ 'F' then
    some (c.toNat - 'A'.toNat + 10)
  else
    none

/-- The value of four hexadecimal digits, and the rest of the text. -/
def hexUnit? : List Char → Option (Nat × List Char)
  | a :: b :: c :: d :: rest => do
      let a ← hexDigit? a
      let b ← hexDigit? b
      let c ← hexDigit? c
      let d ← hexDigit? d
      return (((a * 16 + b) * 16 + c) * 16 + d, rest)
  | _ => none

/-- The character that a letter after a backslash stands for. -/
def escape? : Char → Option Char
  | '"' => some '"'
  | '\\' => some '\\'
  | '/' => some '/'
  | 'b' => some '\x08'
  | 'f' => some '\x0c'
  | 'n' => some '\n'
  | 'r' => some '\r'
  | 't' => some '\t'
  | _ => none

/-- Whether a UTF-16 unit is the first of a surrogate pair. -/
def isHighSurrogate (unit : Nat) : Bool :=
  0xD800 ≤ unit && unit < 0xDC00

/-- Whether a UTF-16 unit is the second of a surrogate pair. -/
def isLowSurrogate (unit : Nat) : Bool :=
  0xDC00 ≤ unit && unit < 0xE000

/-- The character of a surrogate pair. -/
def joinSurrogates (high low : Nat) : Char :=
  Char.ofNat (0x10000 + (high - 0xD800) * 0x400 + (low - 0xDC00))

/-- The character of a UTF-16 unit that stands alone. -/
def unitChar? (unit : Nat) : Option Char :=
  if isHighSurrogate unit || isLowSurrogate unit then none else some (Char.ofNat unit)

/-- The character of a UTF-16 unit, with a second surrogate from the rest of the text where the unit
is a first one and another escape follows. -/
def completeUnit (unit : Nat) (rest : List Char) : Option (Option Char × List Char) :=
  match isHighSurrogate unit, rest with
  | true, '\\' :: 'u' :: others =>
      (hexUnit? others).map fun (low, after) =>
        if isLowSurrogate low then
          (some (joinSurrogates unit low), after)
        else
          (none, rest)
  | _, _ => some (unitChar? unit, rest)

/-- The inside of a string up to its closing quote, as characters with `none` for each surrogate
that has no partner, and the rest of the text.  The fuel bounds the number of characters. -/
def readInside : Nat → List Char → Option (List (Option Char) × List Char)
  | _, '"' :: rest => some ([], rest)
  | fuel + 1, '\\' :: 'u' :: rest => do
      let (unit, rest) ← hexUnit? rest
      let (c, rest) ← completeUnit unit rest
      let (inside, rest) ← readInside fuel rest
      return (c :: inside, rest)
  | fuel + 1, '\\' :: letter :: rest => do
      let c ← escape? letter
      let (inside, rest) ← readInside fuel rest
      return (some c :: inside, rest)
  | fuel + 1, c :: rest =>
      if c = '\\' || c.toNat < 0x20 then
        none
      else do
        let (inside, rest) ← readInside fuel rest
        return (some c :: inside, rest)
  | _, _ => none

/-- The text of a string, unless a surrogate in it has no partner. -/
def textOf (inside : List (Option Char)) : Option String :=
  (inside.mapM id).map String.ofList

/-- A string behind its opening quote, and the rest of the text. -/
def readString (text : List Char) : Option (Option String × List Char) :=
  (readInside text.length text).map fun (inside, rest) => (textOf inside, rest)

/-- At least one decimal digit, and the rest of the text. -/
def digits? (text : List Char) : Option (List Char × List Char) :=
  match text.takeWhile Char.isDigit with
  | [] => none
  | digits => some (digits, text.dropWhile Char.isDigit)

/-- The whole part of a number, and the rest of the text. -/
def whole? : List Char → Option (List Char × List Char)
  | '0' :: rest => some (['0'], rest)
  | text => digits? text

/-- The rest of the text behind a fraction, if it begins with one. -/
def skipFraction? : List Char → Option (List Char)
  | '.' :: rest => (digits? rest).map Prod.snd
  | _ => none

/-- The rest of the text behind an exponent, if it begins with one. -/
def skipExponent? (text : List Char) : Option (List Char) :=
  let unsigned : List Char → List Char
    | '+' :: rest => rest
    | '-' :: rest => rest
    | rest => rest
  match text with
  | 'e' :: rest => (digits? (unsigned rest)).map Prod.snd
  | 'E' :: rest => (digits? (unsigned rest)).map Prod.snd
  | _ => none

/-- The rest of the text behind a fraction, an exponent or both, if it begins with those. -/
def skipScale? (text : List Char) : Option (List Char) :=
  match skipFraction? text with
  | some rest => some ((skipExponent? rest).getD rest)
  | none => skipExponent? text

/-- The rest of the text behind a number. -/
def skipNumber? (text : List Char) : Option (List Char) := do
  let unsigned :=
    match text with
    | '-' :: rest => rest
    | rest => rest
  let (digits, rest) ← whole? unsigned
  match skipScale? rest with
  | some rest => return rest
  | none => if digits.length ≤ Text.digitLimit then some rest else none

/-- The rest of a text behind a word that it begins with. -/
def skipWord? (word : String) (text : List Char) : Option (List Char) :=
  if word.toList.isPrefixOf text then some (text.drop word.length) else none

/-- A value written as a word or a number, and the rest of the text. -/
def readScalar (text : List Char) : Option (Json × List Char) :=
  let word (name : String) (value : Json) :=
    (skipWord? name text).map fun rest => (value, rest)
  word "null" .null <|> word "true" (.bool true) <|> word "false" (.bool false) <|>
    word "NaN" .number <|> word "Infinity" .number <|> word "-Infinity" .number <|>
    (skipNumber? text).map fun rest => (.number, rest)

mutual

/-- A value, and the rest of the text.  The fuel bounds the number of nested calls. -/
def readValue : Nat → List Char → Option (Json × List Char)
  | 0, _ => none
  | _ + 1, '"' :: rest => (readString rest).map fun (text, rest) => (.string text, rest)
  | fuel + 1, '[' :: rest =>
      match skipSpace rest with
      | ']' :: rest => some (.array [], rest)
      | rest => (readItems fuel rest).map fun (items, rest) => (.array items, rest)
  | fuel + 1, '\x7b' :: rest =>
      match skipSpace rest with
      | '\x7d' :: rest => some (.object [], rest)
      | rest => (readEntries fuel rest).map fun (entries, rest) => (.object entries, rest)
  | _ + 1, text => readScalar text

/-- The items of an array up to its closing bracket, and the rest of the text. -/
def readItems : Nat → List Char → Option (List Json × List Char)
  | 0, _ => none
  | fuel + 1, text => do
      let (item, rest) ← readValue fuel text
      match skipSpace rest with
      | ']' :: rest => return ([item], rest)
      | ',' :: rest =>
          let (items, rest) ← readItems fuel (skipSpace rest)
          return (item :: items, rest)
      | _ => none

/-- The entries of an object up to its closing brace, and the rest of the text. -/
def readEntries : Nat → List Char → Option (List (Option String × Json) × List Char)
  | 0, _ => none
  | fuel + 1, '"' :: text => do
      let (key, rest) ← readString text
      match skipSpace rest with
      | ':' :: rest =>
          let (value, rest) ← readValue fuel (skipSpace rest)
          match skipSpace rest with
          | '\x7d' :: rest => return ([(key, value)], rest)
          | ',' :: rest =>
              let (entries, rest) ← readEntries fuel (skipSpace rest)
              return ((key, value) :: entries, rest)
          | _ => none
      | _ => none
  | _ + 1, _ => none

end

/-- The value that a text writes, if it writes one.  Each nested call but one in two takes a
character. -/
def parse? (source : String) : Option Json := do
  let text := source.toList
  let (value, rest) ← readValue (2 * text.length + 2) (skipSpace text)
  if skipSpace rest = [] then some value else none

end Json

end CargoDeps.Settings
