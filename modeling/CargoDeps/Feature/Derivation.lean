import CargoDeps.Feature.Graph
import CargoDeps.Feature.Id
import CargoDeps.Graph.Basic

namespace CargoDeps

/-!
# Derivation of the feature graph

The feature graph of a package graph follows from the feature tables of the packages and from the
features that dependency edges ask for.  Entries that name nothing are left out with a notice.
-/

/-- Something in the input that the feature graph leaves out. -/
inductive FeatureNotice
  | noOptionalDependency (feature : FeatureId) (target : String)
  | weakFeature (feature : FeatureId) (target : String)
  | noDependency (feature : FeatureId) (target : String)
  | noFeatureOfDependency (feature : FeatureId) (dependency : PackageId) (name : String)
  | noFeature (feature : FeatureId) (target : String)
  | noRequestedFeature (source target : PackageId) (name : String)
deriving DecidableEq

/-- The notice in words. -/
def FeatureNotice.message : FeatureNotice → String
  | noOptionalDependency feature target =>
      feature.text ++ ": " ++ Text.quoted target ++
        " does not name an optional dependency; skipping"
  | weakFeature feature target =>
      feature.text ++ ": weak dependency feature " ++ Text.quoted target ++
        " is not modelled; skipping"
  | noDependency feature target =>
      feature.text ++ ": " ++ Text.quoted target ++ " does not name a dependency; skipping"
  | noFeatureOfDependency feature dependency name =>
      feature.text ++ ": " ++ dependency.text ++ " does not define feature " ++
        Text.quoted name ++ "; skipping"
  | noFeature feature target =>
      feature.text ++ ": " ++ Text.quoted target ++
        " is neither a feature nor an optional dependency; skipping"
  | noRequestedFeature source target name =>
      source.text ++ " requests undefined feature " ++ Text.quoted name ++ " of " ++
        target.text ++ "; skipping"

/-- What is found on the way through the input: a node, an arc, or something left out. -/
inductive FeatureFinding
  | node (id : FeatureId)
  | arc (arc : FeatureArc)
  | notice (notice : FeatureNotice)

namespace FeatureFinding

/-- An arc that no dependency edge causes. -/
def inner (source target : FeatureId) : FeatureFinding :=
  arc ⟨source, target, none⟩

/-- An arc that a dependency edge causes. -/
def linked (source target : FeatureId) (edge : Edge) : FeatureFinding :=
  arc ⟨source, target, some edge⟩

/-- The arc found, if it is one. -/
def arc? : FeatureFinding → Option FeatureArc
  | arc a => some a
  | _ => none

/-- The node found, if it is one. -/
def node? : FeatureFinding → Option FeatureId
  | node id => some id
  | _ => none

/-- The notice found, if it is one. -/
def notice? : FeatureFinding → Option FeatureNotice
  | notice n => some n
  | _ => none

end FeatureFinding

namespace PackageGraph

open FeatureFinding

/-- The names of the optional dependencies of a package, ascending. -/
def optionalNames (graph : PackageGraph) (id : PackageId) : List String :=
  Sequence.sorted (fun a b => a < b)
    (Sequence.distinct
      (((graph.edgesFrom id).filter Edge.isOptional).map Edge.name))

/-- The table of a package: empty if the package is not in the graph. -/
def featureTable (graph : PackageGraph) (id : PackageId) : FeatureTable :=
  ((graph.find? id).map Package.features).getD []

/-- Whether a package has a feature: one of its table, or an optional dependency, which is a
feature of the same name. -/
def providesFeature (graph : PackageGraph) (id : PackageId) (feature : String) : Bool :=
  (graph.featureTable id).defines feature || feature ∈ graph.optionalNames id

/-- The nodes of a package, each needing its base: the base, its features, its optional
dependencies, and the features that these imply where the table has no feature of that name. -/
def nodeFindings (graph : PackageGraph) (package : Package) : List FeatureFinding :=
  let base := FeatureId.base package.id
  let features := package.features.names.map fun feature =>
    inner (.named package.id feature) base
  let dependencies := (graph.optionalNames package.id).flatMap fun name =>
    let dependency := FeatureId.dependency package.id name
    if package.features.defines name then
      [inner dependency base]
    else
      [inner dependency base, inner (.named package.id name) dependency]
  node base :: features ++ dependencies

/-- The arcs for a target that is a feature of a dependency.  It turns the dependency on if that
is optional, and the feature in every package that the name stands for. -/
def foreignFindings (graph : PackageGraph) (package : Package) (source : FeatureId)
    (target name feature : String) : List FeatureFinding :=
  match (graph.edgesFrom package.id).filter fun edge => edge.name = name with
  | [] => [notice (.noDependency source target)]
  | edges =>
      let enabled :=
        if name ∈ graph.optionalNames package.id then
          [inner source (.dependency package.id name)]
        else
          []
      enabled ++ edges.map fun edge =>
        if graph.providesFeature edge.target feature then
          linked source (.named edge.target feature) edge
        else
          notice (.noFeatureOfDependency source edge.target feature)

/-- The arcs for one target of a feature. -/
def targetFindings (graph : PackageGraph) (package : Package) (feature target : String) :
    List FeatureFinding :=
  let source := FeatureId.named package.id feature
  match FeatureTarget.ofText target with
  | .dependency name =>
      if name ∈ graph.optionalNames package.id then
        [inner source (.named package.id target)]
      else
        [notice (.noOptionalDependency source target)]
  | .weak => [notice (.weakFeature source target)]
  | .foreign name feature => graph.foreignFindings package source target name feature
  | .own name =>
      if package.features.defines name || name ∈ graph.optionalNames package.id then
        [inner source (.named package.id name)]
      else
        [notice (.noFeature source target)]

/-- The arcs for the feature table of a package. -/
def tableFindings (graph : PackageGraph) (package : Package) : List FeatureFinding :=
  package.features.flatMap fun (feature, targets) =>
    targets.flatMap (graph.targetFindings package feature)

/-- The arcs for a dependency edge: from the base of its source, or from the node of the optional
dependency, to the base of its target, to its default feature if that is asked for, and to each
feature asked for. -/
def edgeFindings (graph : PackageGraph) (edge : Edge) : List FeatureFinding :=
  let origin :=
    if edge.isOptional then
      FeatureId.dependency edge.source edge.name
    else
      .base edge.source
  let default :=
    if edge.defaultFeatures && (graph.featureTable edge.target).defines "default" then
      [linked origin (.named edge.target "default") edge]
    else
      []
  let requested := edge.features.map fun feature =>
    if graph.providesFeature edge.target feature then
      linked origin (.named edge.target feature) edge
    else
      notice (.noRequestedFeature edge.source edge.target feature)
  linked origin (.base edge.target) edge :: default ++ requested

/-- All findings: the nodes of all packages, then their tables, then the dependency edges. -/
def featureFindings (graph : PackageGraph) : List FeatureFinding :=
  graph.packages.flatMap graph.nodeFindings ++ graph.packages.flatMap graph.tableFindings ++
    graph.edges.flatMap graph.edgeFindings

/-- The feature graph. -/
def featureGraph (graph : PackageGraph) : FeatureGraph :=
  let findings := graph.featureFindings
  .ofParts (findings.filterMap node?) (findings.filterMap arc?)

/-- What the feature graph leaves out, in the order of the input. -/
def featureNotices (graph : PackageGraph) : List FeatureNotice :=
  graph.featureFindings.filterMap notice?

end PackageGraph

end CargoDeps
