import CargoDeps.Text.Cut
import CargoDeps.Text.Number
import CargoDeps.Text.Quoted
import CargoDeps.Version.Basic

namespace CargoDeps.Version

/-!
# Reading versions

`parse` reads the full form `X.Y.Z[-prerelease][+build]`.  `coerce` reads more: missing numbers are
zero, leading zeros are dropped, and what follows the numbers is made into pre-release and build
parts.  Numbers may be written in the decimal digits of any script.  The form of all parts is
checked before the numeric identifiers are read, which have to be short enough.
-/

/-- One of the three numbers. -/
inductive Place
  | major
  | minor
  | patch
deriving DecidableEq, Repr

/-- The name of a number's place. -/
def Place.name : Place → String
  | major => "major"
  | minor => "minor"
  | patch => "patch"

/-- Why a list of identifiers is refused. -/
inductive IdentifierError
  | empty (joined : String)
  | leadingZero (identifier : String)
  | tooLong (error : Text.TooManyDigits)
deriving DecidableEq, Repr

/-- The error in words. -/
def IdentifierError.message : IdentifierError → String
  | empty joined => "Invalid empty identifier '' in " ++ Text.quoted joined
  | leadingZero identifier => "Invalid leading zero in identifier " ++ Text.quoted identifier
  | tooLong error => error.message

/-- Why a text is no version. -/
inductive Error
  | emptyText
  | malformed (text : String)
  | leadingZero (place : Place) (text : String)
  | tooLong (error : Text.TooManyDigits)
  | identifier (error : IdentifierError)
  | noNumber (text : String)
deriving DecidableEq, Repr

/-- The error in words. -/
def Error.message : Error → String
  | emptyText => "Invalid empty version string: ''"
  | malformed text => "Invalid version string: " ++ Text.quoted text
  | leadingZero place text =>
      "Invalid leading zero in " ++ place.name ++ ": " ++ Text.quoted text
  | tooLong error => error.message
  | identifier error => error.message
  | noNumber text => "Version string lacks a numerical component: " ++ Text.quoted text

/-! ### Identifiers -/

/-- Whether a character may stand in an identifier or between two of them. -/
def isIdentifierPart (c : Char) : Bool :=
  c.isAlphanum || c = '.' || c = '-'

/-- Whether digits begin with a zero that another digit follows. -/
def hasLeadingZero (digits : List Char) : Bool :=
  digits.head? = some '0' && digits ≠ ['0']

/-- Whether an identifier consists of digits alone. -/
def isNumeric (identifier : List Char) : Bool :=
  identifier.all Char.isDigit

/-- The identifiers of a part; there are none in an empty one. -/
def identifiers (part : List Char) : List (List Char) :=
  if part = [] then [] else part.splitOn '.'

/-- Check that an identifier of a part is not empty. -/
def checkNotEmpty (part identifier : List Char) : Except IdentifierError Unit :=
  if identifier = [] then .error (.empty (String.ofList part)) else .ok ()

/-- Check the form of an identifier of a pre-release part: a numeric one has no leading zero. -/
def checkIdentifier (part identifier : List Char) : Except IdentifierError Unit := do
  checkNotEmpty part identifier
  if isNumeric identifier && hasLeadingZero identifier then
    .error (.leadingZero (String.ofList identifier))

/-- A pre-release identifier: all digits make a number. -/
def readIdentifier (identifier : List Char) : Except IdentifierError Identifier :=
  if isNumeric identifier then
    ((Text.readNumber identifier).map .numeric).mapError .tooLong
  else
    .ok (.alphanumeric (String.ofList identifier))

/-- A build identifier, which stays as it is written; if numeric, it may have leading zeros. -/
def readBuildIdentifier (identifier : List Char) : Except IdentifierError String :=
  if isNumeric identifier then
    ((Text.readNumber identifier).map fun _ => String.ofList identifier).mapError .tooLong
  else
    .ok (String.ofList identifier)

/-- A version from its numbers and the texts of its other two parts. -/
def ofParts (major minor patch : Nat) (prerelease build : List Char) :
    Except IdentifierError Version := do
  (identifiers prerelease).forM (checkIdentifier prerelease)
  (identifiers build).forM (checkNotEmpty build)
  let prerelease ← (identifiers prerelease).mapM readIdentifier
  let build ← (identifiers build).mapM readBuildIdentifier
  return ⟨major, minor, patch, prerelease, build⟩

/-- A version from the digits of its numbers and the texts of its other two parts. -/
def ofDigits (major minor patch prerelease build : List Char) : Except Error Version := do
  let major ← (Text.readNumber major).mapError .tooLong
  let minor ← (Text.readNumber minor).mapError .tooLong
  let patch ← (Text.readNumber patch).mapError .tooLong
  (ofParts major minor patch prerelease build).mapError .identifier

/-! ### The full form -/

/-- The decimal digits at the start of a text, if there are any, and the rest. -/
def number? (text : List Char) : Option (List Char × List Char) :=
  match text.takeWhile Text.isDecimal with
  | [] => none
  | digits => some (digits, text.dropWhile Text.isDecimal)

/-- A number after a full stop, and the rest. -/
def dottedNumber? : List Char → Option (List Char × List Char)
  | '.' :: rest => number? rest
  | _ => none

/-- An optional part that begins with `mark` and holds at least one of the characters of `allowed`;
an absent part is empty. -/
def optionalPart? (mark : Char) (allowed : Char → Bool) (text : List Char) :
    Option (List Char × List Char) :=
  match text with
  | [] => some ([], [])
  | c :: rest =>
      if c = mark then
        match rest.takeWhile allowed with
        | [] => none
        | part => some (part, rest.dropWhile allowed)
      else
        some ([], text)

/-- A text cut by the full form into three runs of digits, pre-release and build.  One line feed
may end the text. -/
def split? (text : List Char) :
    Option (List Char × List Char × List Char × List Char × List Char) := do
  let text := if text.getLast? = some '\n' then text.dropLast else text
  let (major, rest) ← number? text
  let (minor, rest) ← dottedNumber? rest
  let (patch, rest) ← dottedNumber? rest
  let (prerelease, rest) ← optionalPart? '-' isIdentifierPart rest
  let (build, rest) ← optionalPart? '+' isIdentifierPart rest
  if rest = [] then some (major, minor, patch, prerelease, build) else none

/-- Read the full form. -/
def parse (source : String) : Except Error Version :=
  if source.toList = [] then
    .error .emptyText
  else
    match split? source.toList with
    | none => .error (.malformed source)
    | some (major, minor, patch, prerelease, build) =>
        if hasLeadingZero major then
          .error (.leadingZero .major source)
        else if hasLeadingZero minor then
          .error (.leadingZero .minor source)
        else if hasLeadingZero patch then
          .error (.leadingZero .patch source)
        else
          ofDigits major minor patch prerelease build

/-! ### The lenient form -/

/-- Digits without leading zeros; of zeros alone the last one stays. -/
def withoutLeadingZeros (digits : List Char) : List Char :=
  match digits.dropWhile (· = '0') with
  | [] => ['0']
  | others => others

/-- The digits of the numbers at the start of a text, one to three of them, with a zero for those
that are missing, and the rest of the text. -/
def leadingNumbers? (text : List Char) :
    Option (List Char × List Char × List Char × List Char) :=
  (number? text).map fun (major, rest) =>
    match dottedNumber? rest with
    | none => (major, ['0'], ['0'], rest)
    | some (minor, rest) =>
        match dottedNumber? rest with
        | none => (major, minor, ['0'], rest)
        | some (patch, rest) => (major, minor, patch, rest)

/-- Pre-release and build parts cut at the first plus sign. -/
def cutAtPlus (text : List Char) : List Char × List Char :=
  (Text.cutFirst? '+' text).getD (text, [])

/-- What follows the numbers, as pre-release and build parts: after a plus sign or a full stop all
of it is build, after a hyphen or anything else a plus sign separates the two.  Foreign characters
become hyphens, and further plus signs full stops. -/
def trailingParts (rest : List Char) : List Char × List Char :=
  let cleaned := rest.map fun c => if isIdentifierPart c || c = '+' then c else '-'
  let (prerelease, build) :=
    match cleaned with
    | '+' :: build => ([], build)
    | '.' :: build => ([], build)
    | '-' :: others => cutAtPlus others
    | others => cutAtPlus others
  (prerelease, build.map fun c => if c = '+' then '.' else c)

/-- Read the lenient form. -/
def coerce (source : String) : Except Error Version :=
  match leadingNumbers? source.toList with
  | none => .error (.noNumber source)
  | some (major, minor, patch, rest) =>
      let (prerelease, build) := trailingParts rest
      ofDigits (withoutLeadingZeros major) (withoutLeadingZeros minor) (withoutLeadingZeros patch)
        prerelease build

end CargoDeps.Version
