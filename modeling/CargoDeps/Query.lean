import CargoDeps.Digraph.Component
import CargoDeps.Digraph.Walk
import CargoDeps.Graph.Basic

namespace CargoDeps

/-!
# Queries

Which packages some root packages depend on, or which depend on them, along chosen edges; in order of
discovery, and in dependency order.  And the cycles that the chosen edges make.
-/

/-- Which way a traversal follows dependency edges. -/
inductive Direction
  | forward
  | reverse
deriving DecidableEq, Repr

namespace Direction

/-- The name of a direction. -/
def name : Direction → String
  | forward => "forward"
  | reverse => "reverse"

/-- The direction with a name. -/
def ofName? : String → Option Direction
  | "forward" => some forward
  | "reverse" => some reverse
  | _ => none

/-- The direction that a value writes, or the message that it writes none. -/
def ofDatum (value : Datum) : Except String Direction :=
  match value.text?.bind ofName? with
  | some direction => .ok direction
  | none => .error (value.shown ++ " is not a valid Direction")

end Direction

namespace PackageGraph

/-- The id that a value writes, which has to be that of a package of the graph. -/
def readId (graph : PackageGraph) (value : Datum) : Except LookupError PackageId := do
  let id ← PackageId.read value
  if id ∈ graph.ids then .ok id else .error (.unknownPackage id)

/-- The packages along chosen edges, with arrows in the direction of a traversal. -/
def towards (graph : PackageGraph) (direction : Direction) (chosen : EdgePredicate) :
    Digraph PackageId :=
  match direction with
  | .forward => graph.along chosen
  | .reverse => (graph.along chosen).reversed

end PackageGraph

/-- What a query reached: the packages in order of discovery, roots first. -/
structure QueryResult where
  graph : PackageGraph
  ids : List PackageId
  roots : List PackageId
  direction : Direction
  chosen : EdgePredicate

namespace PackageGraph

/-- The packages that roots of the graph reach along chosen edges. -/
def reachFrom (graph : PackageGraph) (roots : List PackageId) (direction : Direction)
    (chosen : EdgePredicate) : QueryResult where
  graph := graph
  ids := (graph.towards direction chosen).reach roots
  roots := Sequence.distinct roots
  direction := direction
  chosen := chosen

/-- The first of some ids that is not in the graph. -/
def firstUnknown? (graph : PackageGraph) (ids : List PackageId) : Option PackageId :=
  ids.find? (· ∉ graph.ids)

/-- The packages that roots reach along chosen edges, all of which have to be in the graph. -/
def query (graph : PackageGraph) (roots : List PackageId) (direction : Direction)
    (chosen : EdgePredicate) : Except LookupError QueryResult :=
  match graph.firstUnknown? roots with
  | some id => .error (.unknownPackage id)
  | none => .ok (graph.reachFrom roots direction chosen)

/-- Whether a path of at least one chosen edge leads from one package to another. -/
def dependsOn (graph : PackageGraph) (source target : PackageId) (chosen : EdgePredicate) : Bool :=
  let arrows := graph.along chosen
  target ∈ arrows.reach (arrows.next source)

/-- Whether two packages depend on each other along chosen edges. -/
def isCyclic (graph : PackageGraph) (first second : PackageId) (chosen : EdgePredicate) : Bool :=
  graph.dependsOn first second chosen && graph.dependsOn second first chosen

end PackageGraph

namespace QueryResult

/-- The packages reached and the chosen edges among them. -/
def subgraph (result : QueryResult) : PackageGraph :=
  result.graph.restrict result.ids result.chosen

/-- The chosen edges among the packages reached, in input order. -/
def links (result : QueryResult) : List Edge :=
  result.subgraph.edges

/-- Whether a value is the id of a package reached; the empty text is an error. -/
def holds (result : QueryResult) (value : Datum) : Except LookupError Bool :=
  PackageId.isAmong result.ids value

/-- Both results together.  Direction and chosen edges are those of the first. -/
def union (first second : QueryResult) : QueryResult where
  graph := first.graph
  ids := Sequence.distinct (first.ids ++ second.ids)
  roots := Sequence.distinct (first.roots ++ second.roots)
  direction := first.direction
  chosen := first.chosen

/-- What both results have reached.  Direction, chosen edges and order are those of the first. -/
def intersection (first second : QueryResult) : QueryResult where
  graph := first.graph
  ids := first.ids.filter (· ∈ second.ids)
  roots := Sequence.distinct (first.roots ++ second.roots)
  direction := first.direction
  chosen := first.chosen

/-- The result as messages show it. -/
def shown (result : QueryResult) : String :=
  "<QueryResult " ++ result.direction.name ++ " roots=" ++ toString result.roots.length ++
    " packages=" ++ toString result.ids.length ++ ">"

/-! ### Orders on a result -/

/-- The packages that no edge of the result enters (forward) or leaves (reverse), in order of
discovery. -/
def rootIds (result : QueryResult) (direction : Direction) : List PackageId :=
  let subgraph := result.subgraph
  match direction with
  | .forward => result.ids.filter fun id => (subgraph.edgesTo id).isEmpty
  | .reverse => result.ids.filter fun id => (subgraph.edgesFrom id).isEmpty

/-- The packages of a graph, dependents before dependencies; the members of a component stay
together in input order. -/
def dependencyOrder (graph : PackageGraph) : List PackageId :=
  let view := graph.view .everything
  let components := view.components
  (view.condensation components).topologicalOrder.flatMap fun position =>
    (components[position]?).getD []

/-- The packages of the result in dependency order (forward), or in the opposite order
(reverse). -/
def orderedIds (result : QueryResult) (direction : Direction) : List PackageId :=
  let ordered := dependencyOrder result.subgraph
  match direction with
  | .forward => ordered
  | .reverse => ordered.reverse

end QueryResult

/-! ### Dependency cycles

The strongly connected components of a package graph along chosen edges that hold a cycle, each
with a closed walk through all of its members. -/

/-- A cyclic component: a closed walk through its members, which starts at the least id and whose
last step back to the start is implied, and the chosen edges among the members, in input order. -/
structure Cycle where
  walk : List PackageId
  links : List Edge

namespace Cycle

/-- The ids of the members, ascending. -/
def members (cycle : Cycle) : List PackageId :=
  Sequence.sorted (fun a b => a < b) (Sequence.distinct cycle.walk)

/-- The kinds of the edges, in the order of `DependencyKind.all`. -/
def kinds (cycle : Cycle) : List DependencyKind :=
  DependencyKind.all.filter fun kind => cycle.links.any fun link => link.kind = kind

/-- Whether all edges are for development only. -/
def isDevelopmentOnly (cycle : Cycle) : Bool :=
  cycle.kinds = [.development]

/-- The steps of the walk, the one back to its start included. -/
def steps (cycle : Cycle) : List (PackageId × PackageId) :=
  cycle.walk.zip (cycle.walk.drop 1 ++ cycle.walk.take 1)

/-- Whether a value is the id of a member; the empty text is an error. -/
def holds (cycle : Cycle) (value : Datum) : Except LookupError Bool :=
  PackageId.isAmong cycle.walk value

/-- The cycle as messages show it. -/
def shown (cycle : Cycle) : String :=
  "<Cycle [" ++ " -> ".intercalate (cycle.walk.map PackageId.text) ++ "] kinds=" ++
    ",".intercalate (cycle.kinds.map DependencyKind.name) ++ ">"

/-- The cycle on the members of a component.  In a strongly connected component a closed walk
always exists. -/
def ofComponent? (graph : PackageGraph) (chosen : EdgePredicate) (members : List PackageId) :
    Option Cycle := do
  let start ← (Sequence.sorted (fun a b => a < b) members).head?
  let walk ← ((graph.view chosen).within members).closedWalk? start
  let links := graph.edges.filter fun edge =>
    edge.source ∈ members && edge.target ∈ members && chosen edge
  return ⟨walk, links⟩

/-- Whether the walk of one cycle starts before that of another. -/
def before (first second : Cycle) : Bool :=
  match first.walk, second.walk with
  | a :: _, b :: _ => a < b
  | _, _ => false

end Cycle

/-- The cycles of a graph along chosen edges, by ascending least id. -/
def PackageGraph.findCycles (graph : PackageGraph) (chosen : EdgePredicate) : List Cycle :=
  let view := graph.view chosen
  Sequence.sorted Cycle.before
    ((view.components.filter view.isCyclic).filterMap (Cycle.ofComponent? graph chosen))

end CargoDeps
