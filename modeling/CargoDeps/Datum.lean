import CargoDeps.Text.Quoted

namespace CargoDeps

/-!
# Untyped values

Input records may hold any value where a text is expected.  Messages show such a value as it was
given, so it is kept untouched until a reader of the field accepts or refuses it.
-/

/-- A value of unknown type. -/
inductive Datum
  | null
  | bool (value : Bool)
  | int (value : Int)
  | text (value : String)
  | list (items : List Datum)
  | table (entries : List (String × Datum))
deriving Inhabited

namespace Datum

/-- The text of a value, if it is one. -/
def text? : Datum → Option String
  | text value => some value
  | _ => none

/-- Whether a value amounts to nothing: null, false, zero, and a text, list or table that is
empty. -/
def isNothing : Datum → Bool
  | null => true
  | bool value => !value
  | int value => value = 0
  | text value => value = ""
  | list items => items.isEmpty
  | table entries => entries.isEmpty

/-- The name of a value's type in messages. -/
def typeName : Datum → String
  | null => "NoneType"
  | bool _ => "bool"
  | int _ => "int"
  | text _ => "str"
  | list _ => "list"
  | table _ => "dict"

/-- Whether a whole number fits in 64 bits, one of them for its sign. -/
def fitsWord (n : Int) : Bool :=
  -0x8000000000000000 ≤ n && n < 0x8000000000000000

mutual

/-- The value as messages show it. -/
def shown : Datum → String
  | null => "None"
  | bool true => "True"
  | bool false => "False"
  | int value => toString value
  | text value => Text.quoted value
  | list items => "[" ++ ", ".intercalate (shownItems items) ++ "]"
  | table entries => "\x7b" ++ ", ".intercalate (shownEntries entries) ++ "\x7d"

/-- The items of a list, each as messages show it. -/
def shownItems : List Datum → List String
  | [] => []
  | item :: rest => item.shown :: shownItems rest

/-- The entries of a table, each key before its value. -/
def shownEntries : List (String × Datum) → List String
  | [] => []
  | (key, value) :: rest =>
      (Text.quoted key ++ ": " ++ value.shown) :: shownEntries rest

end

end Datum

end CargoDeps
