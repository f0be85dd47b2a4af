import CargoDeps.Datum

namespace CargoDeps

/-!
# Package identities

A package is known by a text that is not empty.  Ids compare as their texts do, and any value may be
asked for as an id.
-/

/-- The id of a package. -/
structure PackageId where
  text : String
  text_ne_empty : text ≠ ""
deriving DecidableEq

namespace PackageId

instance : ToString PackageId := ⟨text⟩

instance : LT PackageId := ⟨fun a b => a.text < b.text⟩

instance (a b : PackageId) : Decidable (a < b) :=
  inferInstanceAs (Decidable (a.text < b.text))

/-- The id that a value writes, if it is a text that is not empty. -/
def ofDatum? : Datum → Option PackageId
  | .text text => if h : text ≠ "" then some ⟨text, h⟩ else none
  | _ => none

/-- The id as messages show it. -/
def shown (id : PackageId) : String :=
  "PackageId(" ++ Text.quoted id.text ++ ")"

/-- Why two values cannot be put in order: only an id compares with an id. -/
def orderMessage : String := "Need a PackageId"

/-- Ids are equal when their texts are. -/
@[ext] theorem ext {a b : PackageId} (same : a.text = b.text) : a = b := by
  cases a
  cases b
  simp_all

end PackageId

/-! ### Looking packages up by value

Questions about packages take any value for an id.  A value that cannot be an id and an id that is
not known are different errors.  Lists and tables cannot even be sought among ids or names, because
their sets and tables find what they hold by hash and these values have none. -/

/-- Why a question about a package has no answer. -/
inductive LookupError
  | malformedId
  | unknownPackage (id : PackageId)
  | unhashable (typeName : String)
deriving DecidableEq

/-- The error in words. -/
def LookupError.message : LookupError → String
  | malformedId => "a package id must be a non-empty string"
  | unknownPackage id => "unknown package id: " ++ id.text
  | unhashable typeName => "unhashable type: " ++ Text.quoted typeName

/-- The text that a value is sought by among ids or names, if it is a text. -/
def Datum.sought (value : Datum) : Except LookupError (Option String) :=
  match value with
  | .text written => .ok (some written)
  | .list _ => .error (.unhashable value.typeName)
  | .table _ => .error (.unhashable value.typeName)
  | _ => .ok none

namespace PackageId

/-- The id that a value writes. -/
def read (value : Datum) : Except LookupError PackageId :=
  match ofDatum? value with
  | some id => .ok id
  | none => .error .malformedId

/-- Whether a value is one of some ids.  The empty text, which cannot be an id, is an error, and so
is what cannot be sought; other values that are no text are simply none of them. -/
def isAmong (ids : List PackageId) (value : Datum) : Except LookupError Bool := do
  match ← value.sought with
  | some _ => (read value).map fun id => decide (id ∈ ids)
  | none => .ok false

end PackageId

end CargoDeps
