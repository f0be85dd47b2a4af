import CargoDeps.Graph.Basic

namespace CargoDeps

/-!
# Packages and edges for samples

Packages of the workspace and dependencies of which nothing matters but their ends, their features
and their order.
-/

/-- A package with a feature table. -/
def Package.sample
    (id : PackageId)
    (features : FeatureTable) : Package where
  id := id
  name := id.text
  version := .release 1 0 0
  source := ⟨.path, ""⟩
  workspaceMember := true
  features := features
  about := ⟨none, none, [], none, none⟩

/-- A dependency on which no condition is put. -/
def Edge.sample
    (index : Nat)
    (source target : PackageId)
    (name : String)
    (isOptional : Bool) : Edge where
  index := index
  source := source
  target := target
  kind := .normal
  name := name
  isOptional := isOptional
  rename := none
  platform := none
  requirement := .any
  features := []
  defaultFeatures := true

/-- A record of a package, of which nothing matters but its id and its version. -/
def PackageRecord.sample
    (id : Datum)
    (version : String) : PackageRecord where
  id := id
  name := "sample"
  version := .written version
  source := ⟨.path, ""⟩
  workspaceMember := true
  features := []
  about := ⟨none, none, [], none, none⟩

/-- An edge of the input, of which nothing matters but its ends and its kind. -/
def RawEdge.sample
    (source target kind : Datum) : RawEdge where
  source := source
  target := target
  kind := kind
  isOptional := false
  rename := none
  platform := none
  requirement := "*"
  features := []
  defaultFeatures := true

/-! ### Two packages that depend on each other -/

namespace Paired

/-- The id of a package that depends on the two. -/
def app : PackageId :=
  ⟨"app 2.0.0", by decide⟩

/-- The id of one of the two, which also depends on itself. -/
def lib : PackageId :=
  ⟨"lib 1.0.0", by decide⟩

/-- The id of the other. -/
def core : PackageId :=
  ⟨"core 1.0.0", by decide⟩

/-- The id of a package that the two depend on. -/
def tool : PackageId :=
  ⟨"tool 1.0.0", by decide⟩

/-- The choice of the edges that are not optional. -/
def firm : EdgePredicate :=
  fun edge => !edge.isOptional

/-- The graph of the four.  Optional edges lead from `app` to `lib`, beside one that is not, and from
`tool` back to `app`. -/
def sample : PackageGraph :=
  .ofParts [.sample tool [], .sample core [], .sample app [], .sample lib []]
    [.sample 0 app lib "lib" true, .sample 1 app lib "lib" false,
      .sample 2 lib core "core" false, .sample 3 core lib "lib" false,
      .sample 4 lib lib "lib" false, .sample 5 core tool "tool" false,
      .sample 6 tool app "app" true]
    ⟨none, [app]⟩ (by decide) (by decide) (by decide) (by decide)

end Paired

/-! ### Input with two edges between the same packages -/

namespace Parallel

/-- The records of three of the packages. -/
def records : List PackageRecord :=
  [.sample (.text "app 2.0.0") "2.0.0", .sample (.text "lib 1.0.0") "1.0.0",
    .sample (.text "core 1.0.0") "1.0.0"]

/-- Edges from `app` to `lib`, before and behind those from `lib` to itself and to `core`. -/
def edges : List RawEdge :=
  [.sample (.text "app 2.0.0") (.text "lib 1.0.0") .null,
    .sample (.text "lib 1.0.0") (.text "lib 1.0.0") (.text "dev"),
    .sample (.text "lib 1.0.0") (.text "core 1.0.0") .null,
    .sample (.text "app 2.0.0") (.text "lib 1.0.0") (.text "build")]

end Parallel

end CargoDeps
