namespace CargoDeps

/-!
# Versions

Semantic versions: three numbers, pre-release identifiers and build identifiers; and the order of
their precedence.
-/

/-- An identifier of a pre-release.  A numeric one has no leading zeros, so its number stands for
its text. -/
inductive Version.Identifier
  | numeric (n : Nat)
  | alphanumeric (text : String)
deriving DecidableEq, Repr

/-- The text of a pre-release identifier. -/
def Version.Identifier.text : Version.Identifier → String
  | numeric n => toString n
  | alphanumeric text => text

/-- A version. -/
structure Version where
  major : Nat
  minor : Nat
  patch : Nat
  prerelease : List Version.Identifier
  build : List String
deriving DecidableEq, Repr

namespace Version

/-- The version with three numbers and nothing else. -/
def release (major minor patch : Nat) : Version :=
  ⟨major, minor, patch, [], []⟩

/-- The version without its build identifiers. -/
def withoutBuild (version : Version) : Version :=
  { version with build := [] }

/-- The three numbers alone. -/
def core (version : Version) : Version :=
  release version.major version.minor version.patch

/-- Whether the version comes before the release of its three numbers. -/
def isPrerelease (version : Version) : Bool :=
  !version.prerelease.isEmpty

/-- The version as written. -/
def text (version : Version) : String :=
  let numbers := toString version.major ++ "." ++ toString version.minor ++ "." ++
    toString version.patch
  let prerelease :=
    if version.prerelease.isEmpty then
      ""
    else
      "-" ++ ".".intercalate (version.prerelease.map Identifier.text)
  let build := if version.build.isEmpty then "" else "+" ++ ".".intercalate version.build
  numbers ++ prerelease ++ build

/-- The next release with a new major number; a pre-release of such a release leads up to that
release itself. -/
def nextMajor (version : Version) : Version :=
  if version.isPrerelease ∧ version.minor = 0 ∧ version.patch = 0 then
    release version.major 0 0
  else
    release (version.major + 1) 0 0

/-- The next release with a new minor number; a pre-release of such a release leads up to that
release itself. -/
def nextMinor (version : Version) : Version :=
  if version.isPrerelease ∧ version.patch = 0 then
    release version.major version.minor 0
  else
    release version.major (version.minor + 1) 0

/-- The next release; a pre-release leads up to its own release. -/
def nextPatch (version : Version) : Version :=
  if version.isPrerelease then
    version.core
  else
    release version.major version.minor (version.patch + 1)

/-! ### Precedence

Versions compare by their three numbers, then by their pre-release identifiers: a release comes
after its pre-releases, numeric identifiers compare as numbers and come before alphanumeric ones,
those compare by character, and a list comes after the lists that it extends.  Build identifiers
take no part. -/

/-- How two pre-release identifiers compare. -/
def Identifier.order : Identifier → Identifier → Ordering
  | numeric a, numeric b => compare a b
  | numeric _, alphanumeric _ => .lt
  | alphanumeric _, numeric _ => .gt
  | alphanumeric a, alphanumeric b => compare a b

/-- How two lists of pre-release identifiers compare, where a longer list comes later. -/
def orderIdentifiers : List Identifier → List Identifier → Ordering
  | [], [] => .eq
  | [], _ :: _ => .lt
  | _ :: _, [] => .gt
  | a :: as, b :: bs => (a.order b).then (orderIdentifiers as bs)

/-- How two pre-release parts compare, where the absence of one comes last. -/
def orderPrerelease : List Identifier → List Identifier → Ordering
  | [], [] => .eq
  | [], _ :: _ => .gt
  | _ :: _, [] => .lt
  | as, bs => orderIdentifiers as bs

/-- How two versions compare. -/
def order (a b : Version) : Ordering :=
  (compare a.major b.major).then <|
    (compare a.minor b.minor).then <|
      (compare a.patch b.patch).then <|
        orderPrerelease a.prerelease b.prerelease

/-- Whether `a` has lower precedence than `b`. -/
def precedes (a b : Version) : Bool :=
  a.order b = .lt

/-- Whether `a` has at most the precedence of `b`. -/
def atMost (a b : Version) : Bool :=
  a.order b ≠ .gt

/-- The first of the versions with the highest precedence. -/
def latest? : List Version → Option Version
  | [] => none
  | version :: rest =>
      match latest? rest with
      | none => some version
      | some later => some (if version.precedes later then later else version)

end Version

end CargoDeps
