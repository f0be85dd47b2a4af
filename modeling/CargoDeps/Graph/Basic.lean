import CargoDeps.Dependency.Filter
import CargoDeps.Digraph.Basic
import CargoDeps.Graph.Multigraph
import CargoDeps.Package.Id
import CargoDeps.Sequence.Basic
import CargoDeps.Sequence.Index

namespace CargoDeps

/-!
# Package graphs

The packages of a resolved workspace and the dependency edges between them.  Ids are distinct,
edges stand in input order, and both ends of an edge are packages of the graph; the type keeps
this.  The edges that leave and enter each package and those that join two packages are looked up in
indexes that are filled once.
-/

/-- The members of the workspace, in input order, and the directory of its root. -/
structure Workspace where
  root : Option String
  members : List PackageId
deriving DecidableEq

/-- A package graph. -/
structure PackageGraph where
  packages : List Package
  edges : List Edge
  workspace : Workspace
  leaving : Sequence.Index PackageId Edge
  entering : Sequence.Index PackageId Edge
  joining : Multigraph
  distinct_ids : (packages.map Package.id).Nodup
  ascending_edges : edges.Pairwise fun first second => first.index < second.index
  source_mem : ∀ edge ∈ edges, edge.source ∈ packages.map Package.id
  target_mem : ∀ edge ∈ edges, edge.target ∈ packages.map Package.id
  leaving_eq : leaving = .ofList Edge.source edges
  entering_eq : entering = .ofList Edge.target edges
  joining_eq : joining = .ofEdges edges

namespace PackageGraph

/-- The graph of some packages and edges. -/
def ofParts (packages : List Package) (edges : List Edge) (workspace : Workspace)
    (distinct_ids : (packages.map Package.id).Nodup)
    (ascending_edges : edges.Pairwise fun first second => first.index < second.index)
    (source_mem : ∀ edge ∈ edges, edge.source ∈ packages.map Package.id)
    (target_mem : ∀ edge ∈ edges, edge.target ∈ packages.map Package.id) : PackageGraph where
  packages := packages
  edges := edges
  workspace := workspace
  leaving := .ofList Edge.source edges
  entering := .ofList Edge.target edges
  joining := .ofEdges edges
  distinct_ids := distinct_ids
  ascending_edges := ascending_edges
  source_mem := source_mem
  target_mem := target_mem
  leaving_eq := rfl
  entering_eq := rfl
  joining_eq := rfl

/-! ### Packages -/

/-- The ids of the packages, in input order. -/
def ids (graph : PackageGraph) : List PackageId :=
  graph.packages.map Package.id

/-- The package with an id. -/
def find? (graph : PackageGraph) (id : PackageId) : Option Package :=
  graph.packages.find? fun package => package.id = id

/-- The ids of the packages with a name: one for each version or source in use. -/
def idsNamed (graph : PackageGraph) (name : String) : List PackageId :=
  (graph.packages.filter fun package => package.name = name).map Package.id

/-- The package with an id, or the error that there is none. -/
def package (graph : PackageGraph) (id : PackageId) : Except LookupError Package :=
  match graph.find? id with
  | some package => .ok package
  | none => .error (.unknownPackage id)

/-- Whether a value is the id of a package; the empty text is an error. -/
def holds (graph : PackageGraph) (value : Datum) : Except LookupError Bool :=
  PackageId.isAmong graph.ids value

/-! ### Edges -/

/-- The edges from a package to its dependencies, in input order. -/
def edgesFrom (graph : PackageGraph) (id : PackageId) : List Edge :=
  graph.leaving.get id

/-- The edges to a package from its dependents, in input order. -/
def edgesTo (graph : PackageGraph) (id : PackageId) : List Edge :=
  graph.entering.get id

/-- The edges from one package to another, in input order. -/
def edgesBetween (graph : PackageGraph) (source target : PackageId) : List Edge :=
  graph.joining.between source target

/-- Whether some edge leads from one package to another. -/
def directlyDependsOn (graph : PackageGraph) (source target : PackageId) : Bool :=
  graph.joining.joins source target

/-- The edge at a position in the list of edges. -/
def edgeAt (graph : PackageGraph) (position : Datum) : Except PositionError Edge :=
  Sequence.itemAt graph.edges position

/-- The edges by source, then target, then position in the input. -/
def edgesByEnds (graph : PackageGraph) : List Edge :=
  Sequence.sorted
    (fun a b =>
      if a.source = b.source then
        if a.target = b.target then a.index < b.index else a.target < b.target
      else
        a.source < b.source)
    graph.edges

theorem edgesFrom_eq (graph : PackageGraph) (id : PackageId) :
    graph.edgesFrom id = graph.edges.filter fun edge => edge.source = id := by
  rw [edgesFrom, graph.leaving_eq, Sequence.Index.get_ofList]

theorem edgesTo_eq (graph : PackageGraph) (id : PackageId) :
    graph.edgesTo id = graph.edges.filter fun edge => edge.target = id := by
  rw [edgesTo, graph.entering_eq, Sequence.Index.get_ofList]

theorem mem_edgesFrom {graph : PackageGraph} {id : PackageId} {edge : Edge} :
    edge ∈ graph.edgesFrom id ↔ edge ∈ graph.edges ∧ edge.source = id := by
  simp [edgesFrom_eq]

theorem mem_edgesTo {graph : PackageGraph} {id : PackageId} {edge : Edge} :
    edge ∈ graph.edgesTo id ↔ edge ∈ graph.edges ∧ edge.target = id := by
  simp [edgesTo_eq]

/-! ### The workspace -/

/-- The member of the workspace with a name: the last one, should several share it. -/
def memberNamed? (graph : PackageGraph) (name : String) : Option PackageId :=
  graph.workspace.members.reverse.find? fun id =>
    (graph.find? id).any fun package => package.name = name

/-- Whether a package is a member of the workspace. -/
def isMember (graph : PackageGraph) (id : PackageId) : Bool :=
  id ∈ graph.workspace.members

/-- The graph as messages show it. -/
def shown (graph : PackageGraph) : String :=
  "<PackageGraph packages=" ++ toString graph.packages.length ++ " links=" ++
    toString graph.edges.length ++ ">"

/-! ### Directed graphs of the packages

Two directed graphs of the packages along chosen edges.  They have the same arrows and differ in
the order of neighbours: `along` goes by the chosen edges, `view` by the edges of any sort. -/

/-- The packages, with neighbours in the order of the chosen edges; several edges to one neighbour
repeat it. -/
def along (graph : PackageGraph) (chosen : EdgePredicate) : Digraph PackageId where
  nodes := graph.ids
  next id := ((graph.edgesFrom id).filter chosen).map Edge.target
  prev id := ((graph.edgesTo id).filter chosen).map Edge.source

/-- The packages, with neighbours that a chosen edge leads to, each once, in the order of the first
edge that leads to them. -/
def view (graph : PackageGraph) (chosen : EdgePredicate) : Digraph PackageId where
  nodes := graph.ids
  next id :=
    let edges := graph.edgesFrom id
    (Sequence.distinct (edges.map Edge.target)).filter fun target =>
      edges.any fun edge => edge.target = target && chosen edge
  prev id :=
    let edges := graph.edgesTo id
    (Sequence.distinct (edges.map Edge.source)).filter fun source =>
      edges.any fun edge => edge.source = source && chosen edge

/-! ### Parts of a graph -/

/-- The graph of the packages among `ids` and the edges between them that `chosen` accepts; ids of
other packages count for nothing.  Packages and edges keep their order, and edges their positions. -/
def restrict (graph : PackageGraph) (ids : List PackageId) (chosen : EdgePredicate) :
    PackageGraph :=
  let packages := graph.packages.filter fun package => package.id ∈ ids
  let edges := graph.edges.filter fun edge =>
    edge.source ∈ ids && edge.target ∈ ids && chosen edge
  have mem_ids {id : PackageId} (member : id ∈ graph.packages.map Package.id) (kept : id ∈ ids) :
      id ∈ packages.map Package.id := by
    obtain ⟨package, packageMember, rfl⟩ := List.mem_map.mp member
    exact List.mem_map.mpr ⟨package, List.mem_filter.mpr ⟨packageMember, by simpa using kept⟩, rfl⟩
  ofParts packages edges
    { graph.workspace with members := graph.workspace.members.filter fun id => id ∈ ids }
    (graph.distinct_ids.sublist ((List.filter_sublist).map Package.id))
    (graph.ascending_edges.sublist List.filter_sublist)
    (fun edge member => by
      have ⟨edgeMember, kept⟩ := List.mem_filter.mp member
      simp only [Bool.and_eq_true, decide_eq_true_eq] at kept
      exact mem_ids (graph.source_mem edge edgeMember) kept.1.1)
    (fun edge member => by
      have ⟨edgeMember, kept⟩ := List.mem_filter.mp member
      simp only [Bool.and_eq_true, decide_eq_true_eq] at kept
      exact mem_ids (graph.target_mem edge edgeMember) kept.1.2)

end PackageGraph

end CargoDeps
