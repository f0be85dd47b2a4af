import CargoDeps.Feature.Derivation

namespace CargoDeps

/-!
# Activation of features

What a selection of features turns on: everything that it needs, directly or not, along chosen
edges.  A feature that needs itself cannot be turned on.
-/

namespace FeatureGraph

/-- Why a walk through the feature graph ends early. -/
inductive WalkError
  | notInGraph (id : FeatureId)
  | cycle (path : List FeatureId)
deriving DecidableEq

/-- The error in words; a cycle is told from its start back to its start. -/
def WalkError.message : WalkError → String
  | notInGraph id => "Node " ++ id.text ++ " is not in the graph."
  | cycle path =>
      "feature cycle detected: " ++
        " -> ".intercalate ((path ++ path.take 1).map FeatureId.text)

/-- What a node of the graph needs directly. -/
def requirements (graph : FeatureGraph) (chosen : EdgePredicate) (id : FeatureId) :
    Except WalkError (List FeatureId) :=
  if id ∈ graph.nodes then
    .ok (graph.successors chosen id)
  else
    .error (.notInGraph id)

/-- Add what a start needs to what other starts need, each node after all that it needs. -/
def closeFrom (graph : FeatureGraph) (chosen : EdgePredicate) (done : List FeatureId)
    (start : FeatureId) : Except WalkError (List FeatureId) :=
  if start ∈ done then
    .ok done
  else if start ∉ graph.nodes then
    .error (.notInGraph start)
  else
    (Digraph.finishFrom (graph.successors chosen) graph.nodes.length [] done start).mapError
      .cycle

/-- All that the starts need, directly or not, each node after all that it needs itself. -/
def closure (graph : FeatureGraph) (starts : List FeatureId) (chosen : EdgePredicate) :
    Except WalkError (List FeatureId) :=
  starts.foldlM (graph.closeFrom chosen) []

end FeatureGraph

/-- Why features cannot be turned on. -/
inductive ActivationError
  | undefinedFeature (package : PackageId) (feature : String)
  | walk (error : FeatureGraph.WalkError)
deriving DecidableEq

/-- The error in words. -/
def ActivationError.message : ActivationError → String
  | undefinedFeature package feature =>
      "package " ++ package.text ++ " does not define feature " ++ Text.quoted feature
  | walk error => error.message

namespace FeatureGraph

/-- Whether a feature of a package can be asked for by name.  Nodes that stand for optional
dependencies cannot. -/
def isRequestable (graph : FeatureGraph) (package : PackageId) (feature : String) : Bool :=
  !FeatureId.isDependencyName feature && FeatureId.named package feature ∈ graph.nodes

/-- The nodes that are turned on by the base of a package and the requested features, ascending. -/
def activate (graph : FeatureGraph) (package : PackageId) (requested : List String)
    (chosen : EdgePredicate) : Except ActivationError (List FeatureId) :=
  match requested.find? fun feature => !graph.isRequestable package feature with
  | some feature => .error (.undefinedFeature package feature)
  | none =>
      let starts := FeatureId.base package :: requested.map (FeatureId.named package)
      ((graph.closure starts chosen).map FeatureId.ascending).mapError .walk

/-- The packages of the nodes that are turned on, ascending. -/
def activatePackages (graph : FeatureGraph) (package : PackageId) (requested : List String)
    (chosen : EdgePredicate) : Except ActivationError (List PackageId) :=
  (graph.activate package requested chosen).map fun ids =>
    Sequence.sorted (fun a b => a < b) (Sequence.distinct (ids.map FeatureId.package))

end FeatureGraph

/-- The edges that activation follows unless told otherwise: all but development edges. -/
def EdgePredicate.activating : EdgePredicate :=
  (EdgeFilter.withoutDevelopment none).accepts

end CargoDeps
