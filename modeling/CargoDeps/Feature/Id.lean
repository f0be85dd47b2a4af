import CargoDeps.Package.Id
import CargoDeps.Sequence.Basic
import CargoDeps.Text.Cut

namespace CargoDeps

/-!
# Feature ids

The nodes of a feature graph: a package as such, or one of its features.  What an entry of a feature
table turns on is told by its text.
-/

/-- A package with one of its features; without a feature, the package as such, its base.  An
optional dependency stands as the feature `dep:` with the name of the dependency. -/
structure FeatureId where
  package : PackageId
  feature : Option String
deriving DecidableEq

namespace FeatureId

/-- What the feature of an optional dependency begins with. -/
def dependencyMark : String := "dep:"

/-- The base of a package. -/
def base (package : PackageId) : FeatureId :=
  ⟨package, none⟩

/-- A feature of a package. -/
def named (package : PackageId) (feature : String) : FeatureId :=
  ⟨package, some feature⟩

/-- The feature that stands for an optional dependency of a package. -/
def dependency (package : PackageId) (name : String) : FeatureId :=
  ⟨package, some (dependencyMark ++ name)⟩

/-- Whether a feature name has the form that stands for an optional dependency. -/
def isDependencyName (name : String) : Bool :=
  dependencyMark.toList.isPrefixOf name.toList

/-- Whether the node is the base of its package. -/
def isBase (id : FeatureId) : Bool :=
  id.feature.isNone

/-- Whether the node stands for an optional dependency. -/
def isDependency (id : FeatureId) : Bool :=
  id.feature.any isDependencyName

/-- Package and feature in words. -/
def text (id : FeatureId) : String :=
  id.package.text ++ "/" ++ id.feature.getD "base"

/-- The order of nodes: by package, the base first, then by feature. -/
def before (a b : FeatureId) : Bool :=
  if a.package = b.package then
    match a.feature, b.feature with
    | none, some _ => true
    | some f, some g => f < g
    | _, none => false
  else
    a.package < b.package

/-- Why two values cannot be put in order: only a node compares with a node. -/
def orderMessage : String := "Need a FeatureId"

/-- The nodes in ascending order. -/
def ascending (ids : List FeatureId) : List FeatureId :=
  Sequence.sorted before ids

/-- The order of lists of nodes: by the first place where they differ, a list before those that it
begins. -/
def listBefore : List FeatureId → List FeatureId → Bool
  | [], [] => false
  | [], _ :: _ => true
  | _ :: _, [] => false
  | a :: as, b :: bs => if a = b then listBefore as bs else before a b

end FeatureId

/-! ### Targets in feature tables

`dep:name` turns on an optional dependency, `name/feature` a feature of a dependency,
`name?/feature` the same unless the dependency is off, and any other text a feature of the package
itself. -/

/-- A target, taken apart. -/
inductive FeatureTarget
  | dependency (name : String)
  | foreign (name feature : String)
  | weak
  | own (name : String)
deriving DecidableEq, Repr

/-- The target that a text writes.  The first slash ends the name of a dependency. -/
def FeatureTarget.ofText (text : String) : FeatureTarget :=
  if FeatureId.isDependencyName text then
    dependency (String.ofList (text.toList.drop FeatureId.dependencyMark.length))
  else
    match Text.cutFirst? '/' text.toList with
    | none => own text
    | some (name, feature) =>
        if name.getLast? = some '?' then
          weak
        else
          foreign (String.ofList name) (String.ofList feature)

end CargoDeps
