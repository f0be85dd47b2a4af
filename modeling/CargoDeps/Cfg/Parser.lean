import CargoDeps.Cfg.Expression
import CargoDeps.Cfg.Token
import CargoDeps.Text.Quoted

namespace CargoDeps.Cfg

/-!
# Reading conditions

Recursive descent over the tokens of a text `cfg(…)`.  The words `all`, `any` and `not` combine
only where an opening parenthesis follows; elsewhere they are flags like any other word.  A list
of parts may end with a comma.
-/

/-- What the reader was looking for when it met something else. -/
inductive Wanted
  | word
  | string
  | exactly (content : String)
  | separator
  | endOfInput
deriving DecidableEq, Repr

/-- What was looked for, as messages put it. -/
def Wanted.shown : Wanted → String
  | word => "ident"
  | string => "string"
  | exactly content => Text.quoted content
  | separator => "',' or ')'"
  | endOfInput => "end of input"

/-- Why a text is no condition. -/
inductive Fault
  | unexpected (char : Char) (offset : Nat)
  | expected (wanted : Wanted) (found : Option Token)
  | negationArity
deriving DecidableEq, Repr

/-- The fault of a text, as messages put it. -/
def Fault.shown (text : String) : Fault → String
  | unexpected char offset =>
      "unexpected character " ++ Text.quoted (String.singleton char) ++ " at offset " ++
        toString offset ++ " in " ++ Text.quoted text
  | expected wanted found =>
      let met :=
        match found with
        | some token => Text.quoted token.content
        | none => "end of input"
      "expected " ++ wanted.shown ++ ", found " ++ met ++ " in " ++ Text.quoted text
  | negationArity => "not() takes exactly one predicate in " ++ Text.quoted text

/-- The tokens after the wanted one, which has to come first. -/
def expect (token : Token) : List Token → Except Fault (List Token)
  | [] => .error (.expected (.exactly token.content) none)
  | first :: rest =>
      if first = token then
        .ok rest
      else
        .error (.expected (.exactly token.content) (some first))

mutual

/-- Read one condition.  The fuel bounds the number of nested calls. -/
def readPart : Nat → List Token → Except Fault (Expression String × List Token)
  | 0, tokens => .error (.expected .word tokens.head?)
  | fuel + 1, .word name :: .mark .opening :: rest =>
      match Combinator.ofName? name with
      | none => .ok (.test (.flag name), .mark .opening :: rest)
      | some combinator => do
          let (parts, rest) ← readParts fuel rest
          match combinator.combine? parts with
          | some expression => .ok (expression, rest)
          | none => .error .negationArity
  | _ + 1, .word name :: .mark .equals :: .string value :: rest =>
      .ok (.test (.equal name value), rest)
  | _ + 1, .word _ :: .mark .equals :: rest => .error (.expected .string rest.head?)
  | _ + 1, .word name :: rest => .ok (.test (.flag name), rest)
  | _ + 1, tokens => .error (.expected .word tokens.head?)

/-- Read the parts of a combination up to and with its closing parenthesis. -/
def readParts : Nat → List Token → Except Fault (List (Expression String) × List Token)
  | 0, tokens => .error (.expected .word tokens.head?)
  | _ + 1, .mark .closing :: rest => .ok ([], rest)
  | fuel + 1, tokens => do
      let (part, rest) ← readPart fuel tokens
      match rest with
      | .mark .comma :: rest =>
          let (parts, rest) ← readParts fuel rest
          .ok (part :: parts, rest)
      | .mark .closing :: rest => .ok ([part], rest)
      | rest => .error (.expected .separator rest.head?)

end

/-- Read the tokens of a text `cfg(…)`.  Every call that reads a part follows one that took a
token, so twice the number of tokens bounds the nesting. -/
def readCfg (tokens : List Token) : Except Fault (Expression String) := do
  let rest ← expect (.word "cfg") tokens
  let rest ← expect (.mark .opening) rest
  let (expression, rest) ← readPart (2 * tokens.length) rest
  let rest ← expect (.mark .closing) rest
  match rest with
  | [] => .ok expression
  | token :: _ => .error (.expected .endOfInput (some token))

/-- Read a text `cfg(…)`. -/
def parse (text : List Char) : Except Fault (Expression String) :=
  match Token.read text with
  | .ok tokens => readCfg tokens
  | .error unexpected => .error (.unexpected unexpected.char unexpected.offset)

end CargoDeps.Cfg
