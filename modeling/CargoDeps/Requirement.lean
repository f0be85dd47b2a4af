import CargoDeps.Text.Cut
import CargoDeps.Version.Reader

namespace CargoDeps

/-!
# Version requirements

A requirement is a list of blocks between commas, all of which a version has to meet.  A block, such
as `^1.2` or `!=1.4.*`, is an operator and up to three numbers, of which the last may be missing or
wild, with pre-release and build parts; it means some bounds on versions.
-/

namespace Requirement

/-! ### Bounds -/

/-- How a version is compared with a target. -/
inductive Relation
  | below
  | atMost
  | equal
  | unequal
  | atLeast
  | above
deriving DecidableEq, Repr

/-- A comparison with a target.  With `buildCounts`, equality looks at build identifiers too.  With
`admitsPrereleases`, pre-releases of the target's own numbers are below it like any other version. -/
structure Bound where
  relation : Relation
  target : Version
  admitsPrereleases : Bool
  buildCounts : Bool
deriving DecidableEq, Repr

namespace Bound

/-- The plain comparison with a target: build identifiers count if the target has some. -/
def plain (relation : Relation) (target : Version) : Bound :=
  ⟨relation, target, false, !target.build.isEmpty⟩

/-- Whether two bounds say the same up to build identifiers. -/
def alike (a b : Bound) : Bool :=
  a.relation = b.relation && a.target = b.target && a.admitsPrereleases = b.admitsPrereleases

/-- Whether the version is a pre-release of the target's numbers that the bound keeps out: the
target is a release, and a bound that a release sets from above does not mean its pre-releases. -/
def keepsOut (bound : Bound) (version : Version) : Bool :=
  !bound.admitsPrereleases && version.isPrerelease && version.core = bound.target.core &&
    !bound.target.isPrerelease

/-- Whether version and target are equal, with their build identifiers if those count. -/
def equals (bound : Bound) (version : Version) : Bool :=
  if bound.buildCounts then
    version.withoutBuild = bound.target.withoutBuild && version.build = bound.target.build
  else
    version = bound.target

/-- Whether a version meets the bound. -/
def admits (bound : Bound) (version : Version) : Bool :=
  let version := if bound.buildCounts then version else version.withoutBuild
  match bound.relation with
  | .below => !bound.keepsOut version && version.precedes bound.target
  | .atMost => version.atMost bound.target
  | .equal => bound.equals version
  | .unequal =>
      if bound.buildCounts then
        !bound.equals version
      else
        !bound.keepsOut version && !bound.equals version
  | .atLeast => bound.target.atMost version
  | .above => bound.target.precedes version

end Bound

/-- A bound, or a choice of two. -/
inductive Clause
  | bound (bound : Bound)
  | either (first second : Bound)
deriving DecidableEq, Repr

namespace Clause

/-- Whether a version meets the clause. -/
def admits (clause : Clause) (version : Version) : Bool :=
  match clause with
  | bound b => b.admits version
  | either first second => first.admits version || second.admits version

/-- Whether two clauses say the same up to build identifiers. -/
def alike : Clause → Clause → Bool
  | bound a, bound b => a.alike b
  | either a b, either c d => a.alike c && b.alike d
  | _, _ => false

end Clause

/-! ### Blocks -/

/-- The operator of a block. -/
inductive Operator
  | below
  | atMost
  | equal
  | unequal
  | atLeast
  | above
  | caret
  | tilde
  | compatible
deriving DecidableEq, Repr

/-- A block as written.  A number that is missing or wild is `none`; so is a part that is absent. -/
structure Block where
  operator : Operator
  major : Option Nat
  minor : Option Nat
  patch : Option Nat
  prerelease : Option (List Char)
  build : Option (List Char)
deriving DecidableEq, Repr

/-- Why a text is no requirement. -/
inductive Error
  | unreadable (block : String)
  | tooLong (error : Text.TooManyDigits)
  | meaningless (block : String)
  | identifier (error : Version.IdentifierError)
deriving DecidableEq, Repr

/-- The error in words. -/
def Error.message : Error → String
  | unreadable block => "Invalid simple block " ++ Text.quoted block
  | tooLong error => error.message
  | meaningless block => "Invalid simple spec: " ++ Text.quoted block
  | identifier error => error.message

namespace Block

/-! ### Reading -/

/-- The operator at the start of a block, and the rest; no operator at all means equality. -/
def readOperator : List Char → Operator × List Char
  | '<' :: '=' :: rest => (.atMost, rest)
  | '<' :: rest => (.below, rest)
  | '=' :: '=' :: rest => (.equal, rest)
  | '=' :: rest => (.equal, rest)
  | '>' :: '=' :: rest => (.atLeast, rest)
  | '>' :: rest => (.above, rest)
  | '!' :: '=' :: rest => (.unequal, rest)
  | '^' :: rest => (.caret, rest)
  | '~' :: '=' :: rest => (.compatible, rest)
  | '~' :: rest => (.tilde, rest)
  | rest => (.equal, rest)

/-- A number, or none for a star, unless it has too many digits. -/
abbrev Number := Except Text.TooManyDigits (Option Nat)

/-- A number without leading zeros, or a star for any number, and the rest. -/
def number? : List Char → Option (Number × List Char)
  | '*' :: rest => some (.ok none, rest)
  | '0' :: rest => some (.ok (some 0), rest)
  | text =>
      match text.takeWhile Char.isDigit with
      | [] => none
      | digits => some ((Text.readNumber digits).map some, text.dropWhile Char.isDigit)

/-- A further number after a full stop, and the rest; it may be missing. -/
def furtherNumber? : List Char → Option (Number × List Char)
  | '.' :: rest => number? rest
  | rest => some (.ok none, rest)

/-- A part that begins with `mark`, without the mark, and the rest; it may be missing or empty. -/
def part (mark : Char) (text : List Char) : Option (List Char) × List Char :=
  match text with
  | [] => (none, [])
  | c :: rest =>
      if c = mark then
        (some (rest.takeWhile Version.isIdentifierPart), rest.dropWhile Version.isIdentifierPart)
      else
        (none, text)

/-- Read a block.  A text of another form is none; the first number that is too long is an
error. -/
def read? (text : List Char) : Option (Except Text.TooManyDigits Block) := do
  let (operator, rest) := readOperator text
  let (major, rest) ← number? rest
  let (minor, rest) ← furtherNumber? rest
  let (patch, rest) ← furtherNumber? rest
  let (prerelease, rest) := part '-' rest
  let (build, rest) := part '+' rest
  if rest = [] then
    some (do return ⟨operator, ← major, ← minor, ← patch, prerelease, build⟩)
  else
    none

/-! ### Meaning -/

/-- Whether all three numbers are given. -/
def isFull (block : Block) : Bool :=
  block.major.isSome && block.minor.isSome && block.patch.isSome

/-- Whether some text stands in the pre-release or the build part. -/
def hasParts (block : Block) : Bool :=
  block.prerelease.getD [] ≠ [] || block.build.getD [] ≠ []

/-- The version that the block names, with zero for each number after the first one not given. -/
def target (block : Block) : Except Version.IdentifierError Version :=
  match block.major, block.minor, block.patch with
  | none, _, _ => .ok (.release 0 0 0)
  | some major, none, _ => .ok (.release major 0 0)
  | some major, some minor, none => .ok (.release major minor 0)
  | some major, some minor, some patch =>
      Version.ofParts major minor patch (block.prerelease.getD []) (block.build.getD [])

/-- The first release that is no longer compatible in the sense of the caret: the left-most number
of the target that is not zero goes up, or else the last one. -/
def caretLimit (target : Version) : Version :=
  if target.major ≠ 0 then
    target.nextMajor
  else if target.minor ≠ 0 then
    target.nextMinor
  else
    target.nextPatch

/-- The release after all versions that share the numbers given in a block whose patch number is
missing. -/
def partialLimit (block : Block) (target : Version) : Version :=
  if block.minor.isNone then target.nextMajor else target.nextMinor

/-- From the target on, below a limit. -/
def range (target limit : Version) : List Clause :=
  [.bound (.plain .atLeast target), .bound (.plain .below limit)]

/-- The clauses that the block stands for, given the version that it names. -/
def clausesFor (block : Block) (target : Version) : List Clause :=
  let full := block.minor.isSome && block.patch.isSome
  let emptyPrerelease : Bool := block.prerelease = some []
  let emptyBuild : Bool := block.build = some []
  match block.operator with
  | .caret => range target (caretLimit target)
  | .tilde => range target (block.partialLimit target)
  | .compatible => range target (if full then target.nextMinor else target.nextMajor)
  | .equal =>
      if block.major.isNone then
        [.bound (.plain .atLeast target)]
      else if full then
        let bound := Bound.plain .equal target
        [.bound { bound with buildCounts := bound.buildCounts || emptyBuild }]
      else
        range target (block.partialLimit target)
  | .unequal =>
      if full then
        let bound := Bound.plain .unequal target
        if emptyPrerelease then
          [.bound { bound with admitsPrereleases := true }]
        else
          [.bound { bound with buildCounts := bound.buildCounts || emptyBuild }]
      else
        [.either (.plain .below target) (.plain .atLeast (block.partialLimit target))]
  | .above =>
      if full then
        [.bound (.plain .above target)]
      else
        [.bound (.plain .atLeast (block.partialLimit target))]
  | .atLeast => [.bound (.plain .atLeast target)]
  | .below =>
      [.bound { Bound.plain .below target with admitsPrereleases := emptyPrerelease }]
  | .atMost =>
      if full then
        [.bound (.plain .atMost target)]
      else
        [.bound (.plain .below (block.partialLimit target))]

/-- Whether the operator can be used with no number at all. -/
def Operator.allowsAny (operator : Operator) : Bool :=
  operator = .equal || operator = .atLeast

/-- Whether the operator can be used with a build part. -/
def Operator.allowsBuild (operator : Operator) : Bool :=
  operator = .equal || operator = .unequal

/-- The clauses of a block that was read from `source`. -/
def clauses (source : String) (block : Block) : Except Error (List Clause) :=
  if block.major.isNone && !Operator.allowsAny block.operator then
    .error (.meaningless source)
  else
    match block.target with
    | .error error => .error (.identifier error)
    | .ok target =>
        if !block.isFull && block.hasParts then
          .error (.meaningless source)
        else if block.build.isSome && !Operator.allowsBuild block.operator then
          .error (.meaningless source)
        else
          .ok (block.clausesFor target)

end Block

end Requirement

/-! ### Requirements

Blanks around a block are skipped, and a block that begins with a digit is a caret requirement. -/

/-- A requirement: its text as given, and the clauses that a version has to meet. -/
structure Requirement where
  source : String
  clauses : List Requirement.Clause
deriving DecidableEq, Repr

namespace Requirement

/-- A block without the blanks around it, and with a caret in front of a leading digit. -/
def normalBlock (block : List Char) : List Char :=
  match Text.trim block with
  | [] => []
  | c :: rest => if Text.isDigit c then '^' :: c :: rest else c :: rest

/-- The clauses of one block. -/
def readBlock (block : List Char) : Except Error (List Clause) :=
  let text := normalBlock block
  match Block.read? text with
  | none => .error (.unreadable (String.ofList text))
  | some (.error error) => .error (.tooLong error)
  | some (.ok block) => block.clauses (String.ofList text)

/-- Clauses in order, where one that is alike to an earlier one is left out. -/
def withoutAlike (clauses : List Clause) : List Clause :=
  clauses.foldl
    (fun kept clause => if kept.any clause.alike then kept else kept ++ [clause]) []

/-- Read a requirement. -/
def parse (source : String) : Except Error Requirement := do
  let blocks ← (source.toList.splitOn ',').mapM readBlock
  return ⟨source, withoutAlike blocks.flatten⟩

/-- Whether a version meets the requirement. -/
def admits (requirement : Requirement) (version : Version) : Bool :=
  requirement.clauses.all fun clause => clause.admits version

/-- The requirement with its blocks free of blanks. -/
def text (requirement : Requirement) : String :=
  String.ofList ([','].intercalate ((requirement.source.toList.splitOn ',').map Text.trim))

/-- The requirement as messages show it. -/
def shown (requirement : Requirement) : String :=
  "<CargoSpec: " ++ Text.quoted requirement.source ++ ">"

/-- The first of the highest versions that meet the requirement. -/
def select? (requirement : Requirement) (versions : List Version) : Option Version :=
  Version.latest? (versions.filter requirement.admits)

/-- The requirement that any version meets. -/
def any : Requirement :=
  ⟨"*", [.bound (.plain .atLeast (.release 0 0 0))]⟩

end Requirement

end CargoDeps
