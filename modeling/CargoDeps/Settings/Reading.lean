import CargoDeps.Datum
import CargoDeps.Settings.Json
import CargoDeps.Text.LetterCase

namespace CargoDeps.Settings

/-!
# Settings and their values

Each setting has a name in small letters, which tell whether two names differ in their capitals only.
A value may be given directly, or as the text of an environment variable.  Reading it gives a truth
value, a text or a list of texts, or else all that is wrong with it.
-/

/-! ### Names -/

/-- A setting. -/
inductive Field
  | logLevel
  | targetPlatform
  | targetFeatures
  | includeUnknownPlatform
  | includeDevDependencies
  | includeBuildDependencies
  | includeOptionalDependencies
deriving DecidableEq, Repr

/-- A name in small letters, those of all scripts. -/
def smallName (name : String) : String :=
  String.ofList (Text.small name.toList)

namespace Field

/-- All settings. -/
def all : List Field :=
  [logLevel, targetPlatform, targetFeatures, includeUnknownPlatform, includeDevDependencies,
    includeBuildDependencies, includeOptionalDependencies]

/-- The name of a setting. -/
def name : Field → String
  | logLevel => "log_level"
  | targetPlatform => "target_platform"
  | targetFeatures => "target_features"
  | includeUnknownPlatform => "include_unknown_platform"
  | includeDevDependencies => "include_dev_dependencies"
  | includeBuildDependencies => "include_build_dependencies"
  | includeOptionalDependencies => "include_optional_dependencies"

/-- The usual value of a setting that is a truth value. -/
def usualTruth? : Field → Option Bool
  | includeUnknownPlatform => some true
  | includeDevDependencies => some false
  | includeBuildDependencies => some true
  | includeOptionalDependencies => some true
  | _ => none

/-- Every setting is listed. -/
theorem mem_all (field : Field) : field ∈ all := by
  cases field <;> decide

/-- The names of settings are in small letters. -/
theorem smallName_name (field : Field) : smallName field.name = field.name := by
  cases field <;> decide

/-- The setting with a name, which may be written in capitals. -/
def ofName? (name : String) : Option Field :=
  all.find? fun field => field.name = smallName name

/-- A setting is found under its own name. -/
theorem ofName?_name (field : Field) : ofName? field.name = some field := by
  cases field <;> decide

end Field

/-! ### Values as given -/

/-- An item of a list of texts.  A text that pairs its surrogates wrongly is a text, though one that
nothing can name. -/
inductive Item
  | text (text : String)
  | illFormedText
  | other

/-- A value for a setting, as far as any setting can tell values apart. -/
inductive Given
  | null
  | bool (value : Bool)
  | int (value : Int)
  | text (text : String)
  | list (items : List Item)
  | other

/-- A value that is given directly. -/
def Given.ofDatum : Datum → Given
  | .null => null
  | .bool value => bool value
  | .int value => int value
  | .text value => text value
  | .list items =>
      list <| items.map fun
        | .text value => .text value
        | _ => .other
  | .table _ => other

/-- A JSON value for a list of texts. -/
def Given.ofJson : Json → Given
  | .null => null
  | .array items =>
      list <| items.map fun
        | .string (some value) => .text value
        | .string none => .illFormedText
        | _ => .other
  | _ => other

/-- The text of an environment variable.  A list is written in JSON; a text that is no JSON stands
for itself, as for the other settings. -/
def Given.ofVariable (field : Field) (value : String) : Given :=
  if field = .targetFeatures then
    match Json.parse? value with
    | some json => ofJson json
    | none => text value
  else
    text value

/-! ### Faults -/

/-- What is wrong with a value. -/
inductive FaultKind
  | notText
  | notBool
  | unreadableBool
  | notList
  | unknownField
deriving DecidableEq, Repr

/-- The name of a kind of fault. -/
def FaultKind.name : FaultKind → String
  | notText => "string_type"
  | notBool => "bool_type"
  | unreadableBool => "bool_parsing"
  | notList => "list_type"
  | unknownField => "extra_forbidden"

/-- A fault and the place of the faulty value. -/
structure Fault where
  place : String
  kind : FaultKind
deriving DecidableEq, Repr

/-- The order of faults: by place, then by name of kind. -/
def Fault.before (a b : Fault) : Bool :=
  if a.place = b.place then a.kind.name < b.kind.name else a.place < b.place

/-- A reading: a value, or all that is wrong. -/
abbrev Reading (α : Type) := Except (List Fault) α

/-- The faults of a reading. -/
def faultsOf {α : Type} : Reading α → List Fault
  | .ok _ => []
  | .error faults => faults

/-! ### Readers -/

/-- The texts that are read as true. -/
def trueTexts : List String := ["1", "true", "t", "y", "yes", "on"]

/-- The texts that are read as false. -/
def falseTexts : List String := ["0", "false", "f", "n", "no", "off"]

/-- A text in small letters, as far as ASCII goes. -/
def smallAscii (text : String) : String :=
  String.ofList (text.toList.map Char.toLower)

/-- A truth value: given as such, as 1 or 0, or as one of some texts in capitals or not.  A number
that does not fit in 64 bits is not even an attempt at one. -/
def readBool (field : Field) : Given → Reading Bool
  | .bool value => .ok value
  | .int n =>
      if n = 1 then
        .ok true
      else if n = 0 then
        .ok false
      else if Datum.fitsWord n then
        .error [⟨field.name, .unreadableBool⟩]
      else
        .error [⟨field.name, .notBool⟩]
  | .text text =>
      if smallAscii text ∈ trueTexts then
        .ok true
      else if smallAscii text ∈ falseTexts then
        .ok false
      else
        .error [⟨field.name, .unreadableBool⟩]
  | _ => .error [⟨field.name, .notBool⟩]

/-- A text. -/
def readText (field : Field) : Given → Reading String
  | .text text => .ok text
  | _ => .error [⟨field.name, .notText⟩]

/-- A text or nothing. -/
def readOptionalText (field : Field) : Given → Reading (Option String)
  | .null => .ok none
  | given => (readText field given).map some

/-- The faults of the items of a list, the first of which is at a position. -/
def itemFaults (field : Field) : Nat → List Item → List Fault
  | _, [] => []
  | position, item :: rest =>
      let later := itemFaults field (position + 1) rest
      match item with
      | .other => ⟨field.name ++ "." ++ toString position, .notText⟩ :: later
      | _ => later

/-- A list of texts or nothing.  An ill-formed text is read and left out. -/
def readOptionalTexts (field : Field) : Given → Reading (Option (List String))
  | .null => .ok none
  | .list items =>
      match itemFaults field 0 items with
      | [] =>
          .ok <| some <| items.filterMap fun
            | .text text => some text
            | _ => none
      | faults => .error faults
  | _ => .error [⟨field.name, .notList⟩]

end CargoDeps.Settings
