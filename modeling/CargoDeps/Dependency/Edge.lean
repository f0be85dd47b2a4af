import CargoDeps.Datum
import CargoDeps.Package.Basic
import CargoDeps.Requirement
import CargoDeps.TargetSpec

namespace CargoDeps

/-!
# Dependencies

An edge says that one package depends on another, and in which section of a manifest it is declared.
Several edges may join the same two packages; each keeps its own identity, its position in the input.
-/

/-! ### Kinds -/

/-- The kind of a dependency. -/
inductive DependencyKind
  | build
  | development
  | normal
deriving DecidableEq, Repr

namespace DependencyKind

/-- All kinds, by ascending short name. -/
def all : List DependencyKind :=
  [build, development, normal]

theorem mem_all (kind : DependencyKind) : kind ∈ all := by
  cases kind <;> decide

/-- The short name of a kind. -/
def name : DependencyKind → String
  | build => "build"
  | development => "dev"
  | normal => "normal"

/-- The kind that a value writes; no value at all means a normal dependency. -/
def ofDatum? : Datum → Option DependencyKind
  | .null => some normal
  | .text "normal" => some normal
  | .text "build" => some build
  | .text "dev" => some development
  | .text "development" => some development
  | _ => none

end DependencyKind

/-- A value that writes no kind of dependency. -/
structure UnknownKind where
  value : Datum

/-- The error in words. -/
def UnknownKind.message (error : UnknownKind) : String :=
  "unknown dependency kind " ++ error.value.shown

/-- The kind that a value writes, or the error that it writes none. -/
def DependencyKind.read (value : Datum) : Except UnknownKind DependencyKind :=
  match ofDatum? value with
  | some kind => .ok kind
  | none => .error ⟨value⟩

/-! ### Edges -/

/-- One dependency as the input gives it.  Ends and kind may be any values. -/
structure RawEdge where
  source : Datum
  target : Datum
  kind : Datum
  isOptional : Bool
  rename : Option String
  platform : Option String
  requirement : String
  features : List String
  defaultFeatures : Bool

/-- One dependency of a graph.  `name` is what the source calls the target. -/
structure Edge where
  index : Nat
  source : PackageId
  target : PackageId
  kind : DependencyKind
  name : String
  isOptional : Bool
  rename : Option String
  platform : Option TargetSpec
  requirement : Requirement
  features : List String
  defaultFeatures : Bool

namespace Edge

/-- Whether the dependency is for development only. -/
def isDevelopment (edge : Edge) : Bool :=
  edge.kind = .development

/-- Whether the version of a package meets the requirement of the edge. -/
def isSatisfiedBy (edge : Edge) (package : Package) : Bool :=
  edge.requirement.admits package.version

/-- The edge in words. -/
def text (edge : Edge) : String :=
  edge.source.text ++ " -> " ++ edge.target.text ++ " (" ++ edge.kind.name ++
    (if edge.isOptional then ", optional" else "") ++ ")"

end Edge

end CargoDeps
