import CargoDeps.Text.Cut

namespace CargoDeps.Cfg

/-!
# Tokens of platform conditions

A condition is written with four marks, strings between double quotes, and words of ASCII letters,
digits and underscores.  Blanks between tokens are skipped.  A string holds no double quote and
has no escapes.
-/

/-- A character that is a token of its own. -/
inductive Mark
  | opening
  | closing
  | comma
  | equals
deriving DecidableEq, Repr

namespace Mark

/-- The character of a mark. -/
def char : Mark → Char
  | opening => '('
  | closing => ')'
  | comma => ','
  | equals => '='

/-- The mark that a character is. -/
def ofChar? : Char → Option Mark
  | '(' => some opening
  | ')' => some closing
  | ',' => some comma
  | '=' => some equals
  | _ => none

end Mark

/-- A token. -/
inductive Token
  | mark (mark : Mark)
  | string (value : String)
  | word (name : String)
deriving DecidableEq, Repr

/-- What a token holds: the character of a mark, the inside of a string, the word. -/
def Token.content : Token → String
  | mark m => String.singleton m.char
  | string value => value
  | word name => name

/-- Whether a word can begin with the character: an ASCII letter or an underscore. -/
def isWordStart (c : Char) : Bool :=
  c.isAlpha || c = '_'

/-- Whether a word can go on with the character. -/
def isWordPart (c : Char) : Bool :=
  isWordStart c || c.isDigit

namespace Token

/-- Where the reading of tokens stands: between two tokens, inside a word, or inside a string that
began at an offset.  The characters of the open token are kept last first. -/
inductive Reading
  | between
  | inWord (letters : List Char)
  | inString (start : Nat) (inside : List Char)

/-- A character at which no token begins, with its offset. -/
structure Unexpected where
  char : Char
  offset : Nat
deriving DecidableEq, Repr

/-- Read a character that belongs to no open token: the tokens that it completes, and how reading
goes on. -/
def begin (offset : Nat) (c : Char) : Except Unexpected (List Token × Reading) :=
  if Text.isBlank c then
    .ok ([], .between)
  else if c = '"' then
    .ok ([], .inString offset [])
  else if isWordStart c then
    .ok ([], .inWord [c])
  else
    match Mark.ofChar? c with
    | some m => .ok ([mark m], .between)
    | none => .error ⟨c, offset⟩

/-- The tokens of a text that starts at `offset`, when reading stands at `reading`. -/
def readFrom : Reading → Nat → List Char → Except Unexpected (List Token)
  | .between, _, [] => .ok []
  | .inWord letters, _, [] => .ok [word (String.ofList letters.reverse)]
  | .inString start _, _, [] => .error ⟨'"', start⟩
  | .inString start inside, offset, c :: rest =>
      if c = '"' then do
        let later ← readFrom .between (offset + 1) rest
        return string (String.ofList inside.reverse) :: later
      else
        readFrom (.inString start (c :: inside)) (offset + 1) rest
  | .inWord letters, offset, c :: rest =>
      if isWordPart c then
        readFrom (.inWord (c :: letters)) (offset + 1) rest
      else do
        let (completed, reading) ← begin offset c
        let later ← readFrom reading (offset + 1) rest
        return word (String.ofList letters.reverse) :: (completed ++ later)
  | .between, offset, c :: rest => do
      let (completed, reading) ← begin offset c
      let later ← readFrom reading (offset + 1) rest
      return completed ++ later

/-- The tokens of a text, or the first character at which none begins. -/
def read (text : List Char) : Except Unexpected (List Token) :=
  readFrom .between 0 text

end Token

end CargoDeps.Cfg
