import CargoDeps.Text.Cut
import CargoDeps.Text.Number

namespace CargoDeps.Settings

/-!
# Lists in arguments

An argument gives one or more items of a list, with commas between them and with or without brackets
around them.  Items in brackets or quotes, truth values and null stand for themselves, and other
texts, numbers too, become JSON strings, so that several arguments make one JSON list.
-/

/-- Why the items of a list cannot be told apart. -/
inductive ListFault
  | openQuote
  | openBracket (closing : Char)
deriving DecidableEq, Repr

/-- The fault in words. -/
def ListFault.message : ListFault → String
  | openQuote => "Mismatched quotes"
  | openBracket closing => "Missing end delimiter \"" ++ closing.toString ++ "\""

/-- The items of a list so far, in JSON, and whether an item stands last rather than a comma. -/
structure Listing where
  items : List (List Char)
  endsInItem : Bool

namespace Listing

/-- A list without items. -/
def empty : Listing := ⟨[], false⟩

/-- The list with one item more. -/
def push (listing : Listing) (item : List Char) : Listing :=
  ⟨listing.items ++ [item], true⟩

/-- The list before a comma or at an end.  An empty text stands where an item is missing. -/
def close (listing : Listing) : Listing :=
  if listing.endsInItem then
    ⟨listing.items, false⟩
  else
    ⟨listing.items ++ ["\"\"".toList], false⟩

/-! ### Items -/

/-- The rest of a bracketed item up to the bracket that closes it, and what follows.  Brackets
inside quotes do not count, nor does a quote behind a backslash. -/
def cutBracketed? (closing : Char) (depth : Int) (inQuotes : Bool) (previous : Char) :
    List Char → Option (List Char × List Char)
  | [] => none
  | c :: rest =>
      let isQuote := c = '"' && previous ≠ '\\'
      let counts := !isQuote && !inQuotes
      let opens := counts && (c = '\x7b' || c = '[')
      let closes := counts && (c = '\x7d' || c = ']')
      let depth := if opens then depth + 1 else if closes then depth - 1 else depth
      if closes && c = closing && depth = 0 then
        some ([c], rest)
      else
        (cutBracketed? closing depth (inQuotes != isQuote) c rest).map
          fun (item, after) => (c :: item, after)

/-- An item without brackets up to a comma outside quotes, and what follows. -/
def cutPlain? (inQuotes : Bool) (previous : Char) : List Char → Option (List Char × List Char)
  | [] => if inQuotes then none else some ([], [])
  | c :: rest =>
      let inQuotes := inQuotes != (c = '"' && previous ≠ '\\')
      if c = ',' && !inQuotes then
        some ([], c :: rest)
      else
        (cutPlain? inQuotes c rest).map fun (item, after) => (c :: item, after)

/-- The words that are JSON. -/
def jsonWords : List String :=
  ["true", "false", "null"]

/-- A text in which a backslash stands for itself. -/
def withPlainBackslashes (text : List Char) : List Char :=
  text.flatMap fun c => if c = '\\' then ['\\', '\\'] else [c]

/-- An item in JSON.  The text for no value becomes null unless it is a number.  Truth values, null
and quoted texts stand for themselves, and a backslash escapes nothing in any item. -/
def itemJson (nullText : String) (item : List Char) : List Char :=
  let word := String.ofList item
  if Text.isNumeral item then
    '"' :: item ++ ['"']
  else if word = nullText then
    "null".toList
  else if word ∈ jsonWords || item.head? = some '"' then
    withPlainBackslashes item
  else
    '"' :: withPlainBackslashes item ++ ['"']

/-! ### Whole arguments -/

/-- The list with the items of a text.  Each item and each comma takes a character, and the fuel
bounds their number. -/
def pushItems (nullText : String) : Nat → Listing → List Char → Except ListFault Listing
  | 0, listing, _ => .ok listing
  | _ + 1, listing, [] => .ok listing
  | fuel + 1, listing, c :: rest =>
      match Text.trim (c :: rest) with
      | ',' :: rest => pushItems nullText fuel listing.close rest
      | '\x7b' :: rest =>
          match cutBracketed? '\x7d' 1 false '\x7b' rest with
          | some (item, rest) => pushItems nullText fuel (listing.push ('\x7b' :: item)) rest
          | none => .error (.openBracket '\x7d')
      | '[' :: rest =>
          match cutBracketed? ']' 1 false '[' rest with
          | some (item, rest) => pushItems nullText fuel (listing.push ('[' :: item)) rest
          | none => .error (.openBracket ']')
      | text =>
          match cutPlain? false ' ' text with
          | some (item, rest) =>
              pushItems nullText fuel (listing.push (itemJson nullText (Text.trim item))) rest
          | none => .error .openQuote

/-- The list with the items of a text, the last of which may be empty. -/
def pushText (nullText : String) (listing : Listing) (text : List Char) :
    Except ListFault Listing := do
  let listing ← pushItems nullText (text.length + 1) listing text
  return if listing.endsInItem then listing else listing.close

/-- The list with the items of an argument.  There are none between brackets that hold nothing. -/
def pushArgument (nullText : String) (listing : Listing) (argument : String) :
    Except ListFault Listing :=
  let text := Text.trim argument.toList
  if text.head? = some '[' && text.getLast? = some ']' then
    match Text.trim text.tail.dropLast with
    | [] => .ok listing
    | inner => pushText nullText listing inner
  else
    pushText nullText listing text

/-- The JSON list of the items of some arguments. -/
def json (nullText : String) (arguments : List String) : Except ListFault String := do
  let listing ← arguments.foldlM (pushArgument nullText) empty
  return String.ofList ('[' :: [','].intercalate listing.items ++ [']'])

end Listing

end CargoDeps.Settings
