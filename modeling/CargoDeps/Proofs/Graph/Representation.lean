import CargoDeps.Graph.Basic
import CargoDeps.Proofs.Graph.Construction
import CargoDeps.Proofs.Graph.Restriction
import CargoDeps.Query
import Mathlib.Data.List.Induction

namespace CargoDeps

/-!
# What graphs keep of their input

A graph that construction made may be cut down any number of times.  What is left of it are packages
of input records and edges of the input, in their order, and the members among those packages.  The
indexes by source, by target and by both ends tell of the same edges all along: as no two edges share
a position, none takes the place of another one in the bundle of its two packages.
-/

/-! ### Bundles of a multigraph -/

namespace Multigraph

variable {edges : List Edge}

/-- The bundle of two packages holds the edges between them, in order. -/
theorem bundle?_ofEdges
    (distinct : edges.Pairwise fun first second => first.index ≠ second.index)
    (source target : PackageId) :
    let bundle := edges.filter fun edge => edge.source = source && edge.target = target
    (ofEdges edges).bundle? source target = if bundle = [] then none else some bundle := by
  induction edges using List.reverseRecOn with
  | nil =>
      rfl
  | append_singleton earlier edge inductionHypothesis =>
      obtain ⟨earlierDistinct, _, isNew⟩ := List.pairwise_append.mp distinct
      have found := inductionHypothesis earlierDistinct
      have held :
          (ofEdges earlier).between source target =
            earlier.filter fun edge => edge.source = source && edge.target = target := by
        rw [between, found]
        split <;> simp [*]
      have added : ofEdges (earlier ++ [edge]) = (ofEdges earlier).add edge :=
        List.foldl_append
      rw [added, bundle?_add, held, List.filter_append]
      by_cases joins : edge.source = source ∧ edge.target = target
      · have fresh :
            ∀ other ∈ earlier.filter fun edge => edge.source = source && edge.target = target,
              other.index ≠ edge.index := by
          intro other member
          exact isNew other (List.mem_filter.mp member).1 edge List.mem_cons_self
        simp [joins, put_of_forall_ne fresh]
      · simpa [joins] using found

theorem between_ofEdges
    (distinct : edges.Pairwise fun first second => first.index ≠ second.index)
    (source target : PackageId) :
    (ofEdges edges).between source target =
      edges.filter fun edge => edge.source = source && edge.target = target := by
  rw [between, bundle?_ofEdges distinct]
  split <;> simp [*]

/-- Two packages are joined exactly if there are edges between them. -/
theorem joins_ofEdges_iff
    (distinct : edges.Pairwise fun first second => first.index ≠ second.index)
    (source target : PackageId) :
    (ofEdges edges).joins source target = true ↔ (ofEdges edges).between source target ≠ [] := by
  rw [between_ofEdges distinct, joins, bundle?_ofEdges distinct]
  split <;> simp [*]

end Multigraph

namespace PackageGraph

/-! ### Graphs that are cut down -/

/-- One graph comes of another by cutting it down any number of times, be it to some packages and
chosen edges or to the result of a query. -/
inductive Descends (origin : PackageGraph) : PackageGraph → Prop
  | origin : Descends origin origin
  | restrict
      {graph : PackageGraph}
      (ids : List PackageId)
      (chosen : EdgePredicate) :
      Descends origin graph →
      Descends origin (graph.restrict ids chosen)
  | subgraph
      (result : QueryResult) :
      Descends origin result.graph →
      Descends origin result.subgraph

variable {records : List PackageRecord} {input : List RawEdge} {root : Option String}
  {built graph : PackageGraph}

/-! ### Edges by both ends -/

theorem distinct_positions :
    graph.edges.Pairwise fun first second => first.index ≠ second.index :=
  graph.ascending_edges.imp Nat.ne_of_lt

theorem edgesBetween_eq
    (source target : PackageId) :
    graph.edgesBetween source target =
      graph.edges.filter fun edge => edge.source = source && edge.target = target := by
  rw [edgesBetween, graph.joining_eq, Multigraph.between_ofEdges distinct_positions]

theorem directlyDependsOn_iff
    (source target : PackageId) :
    graph.directlyDependsOn source target = true ↔ graph.edgesBetween source target ≠ [] := by
  rw [directlyDependsOn, edgesBetween, graph.joining_eq,
    Multigraph.joins_ofEdges_iff distinct_positions]

/-! ### What is kept of the input -/

/-- A graph keeps a part of what another one was built of. -/
structure Keeps
    (records : List PackageRecord)
    (input : List RawEdge)
    (built graph : PackageGraph) : Prop where
  /-- The packages are those of some records, in their order. -/
  packages : ∃ kept : List PackageRecord,
    kept.Sublist records ∧ List.Forall₂ PackageRecord.Gives kept graph.packages
  /-- Each edge is the one that was built of the edge at its position in the input. -/
  edges : ∀ edge ∈ graph.edges,
    built.edges[edge.index]? = some edge ∧
      ∃ raw, input[edge.index]? = some raw ∧ raw.Gives records edge.index edge
  members_eq :
    graph.workspace.members = (graph.packages.filter Package.workspaceMember).map Package.id

/-- Construction puts each edge at the position that it has in the input. -/
theorem keeps_build
    (builds : build records input root = .ok built) :
    Keeps records input built built := by
  obtain ⟨packages, edges, isWorkspace⟩ := gives_build builds
  refine ⟨⟨records, .refl records, packages⟩, fun edge member => ?_, by rw [isWorkspace]⟩
  obtain ⟨position, found⟩ := List.mem_iff_getElem?.mp member
  obtain ⟨item, itemFound, gives⟩ := Sequence.exists_getElem?_left edges found
  obtain ⟨raw, rawFound, rfl⟩ := Option.map_eq_some_iff.mp (List.getElem?_zipIdx ▸ itemFound)
  obtain rfl : edge.index = position := by
    simpa using gives.index_eq
  exact ⟨found, raw, rawFound, by simpa using gives⟩

/-- One step: what a restriction takes away leaves the rest as it is. -/
theorem Keeps.restrict
    (keeps : Keeps records input built graph)
    (ids : List PackageId)
    (chosen : EdgePredicate) :
    Keeps records input built (graph.restrict ids chosen) where
  packages := by
    obtain ⟨kept, isPart, gives⟩ := keeps.packages
    obtain ⟨still, isPartStill, givesStill⟩ :=
      Sequence.exists_sublist_left gives (packages_restrict_sublist ids chosen)
    exact ⟨still, isPartStill.trans isPart, givesStill⟩
  edges edge member :=
    keeps.edges edge (mem_edges_restrict.mp member).1
  members_eq := by
    simp only [PackageGraph.restrict, ofParts, keeps.members_eq, List.filter_map, List.filter_filter,
      Function.comp_def, Bool.and_comm]

/-- However often a graph is cut down, it keeps a part of what it was built of. -/
theorem keeps_of_descends
    (builds : build records input root = .ok built)
    (descends : built.Descends graph) :
    Keeps records input built graph := by
  induction descends with
  | origin =>
      exact keeps_build builds
  | restrict ids chosen _ inductionHypothesis =>
      exact inductionHypothesis.restrict ids chosen
  | subgraph result _ inductionHypothesis =>
      exact inductionHypothesis.restrict result.ids result.chosen

/-! ### What the indexes tell -/

/-- Edges join packages of the graph and stand in input order, and all indexes tell of them. -/
structure Coherent (graph : PackageGraph) : Prop where
  distinct : graph.ids.Nodup
  ascending : graph.edges.Pairwise fun first second => first.index < second.index
  source_mem : ∀ edge ∈ graph.edges, edge.source ∈ graph.ids
  target_mem : ∀ edge ∈ graph.edges, edge.target ∈ graph.ids
  leaving : ∀ source,
    graph.edgesFrom source = graph.edges.filter fun edge => edge.source = source
  entering : ∀ target,
    graph.edgesTo target = graph.edges.filter fun edge => edge.target = target
  joining : ∀ source target,
    graph.edgesBetween source target =
      graph.edges.filter fun edge => edge.source = source && edge.target = target
  direct : ∀ source target,
    graph.directlyDependsOn source target = true ↔ graph.edgesBetween source target ≠ []

theorem coherent (graph : PackageGraph) : graph.Coherent where
  distinct := graph.distinct_ids
  ascending := graph.ascending_edges
  source_mem := graph.source_mem
  target_mem := graph.target_mem
  leaving := graph.edgesFrom_eq
  entering := graph.edgesTo_eq
  joining := edgesBetween_eq
  direct := directlyDependsOn_iff

/--
However often a graph is cut down after its construction, its packages are those of some input
records and its edges those built of the edges at their positions in the input, both in input order,
all its indexes tell of these edges, and the members of its workspace are its packages that are
marked as members.
-/
theorem descends_representation
    (records : List PackageRecord)
    (input : List RawEdge)
    (root : Option String)
    (built graph : PackageGraph)
    (builds : build records input root = .ok built)
    (descends : built.Descends graph) :
    Keeps records input built graph ∧ graph.Coherent :=
  ⟨keeps_of_descends builds descends, graph.coherent⟩

/-- Without `core`, a query of `app` that follows no development dependencies still tells of both
edges to `lib`, and no longer of the edge from `lib` to itself. -/
theorem descends_representation_parallel :
    ∃ built, build Parallel.records Parallel.edges none = .ok built ∧
      let part := built.restrict [Paired.app, Paired.lib] fun _ => true
      let result := part.reachFrom [Paired.app] .forward fun edge => edge.kind ≠ .development
      (result.subgraph.edgesBetween Paired.app Paired.lib).map Edge.index = [0, 3] ∧
      result.subgraph.edges.map Edge.index = [0, 3] ∧
      built.Descends result.subgraph ∧
      Keeps Parallel.records Parallel.edges built result.subgraph ∧
      result.subgraph.Coherent := by
  have told :
      ((build Parallel.records Parallel.edges none).toOption.map fun built =>
        let part := built.restrict [Paired.app, Paired.lib] fun _ => true
        let result := part.reachFrom [Paired.app] .forward fun edge => edge.kind ≠ .development
        ((result.subgraph.edgesBetween Paired.app Paired.lib).map Edge.index,
          result.subgraph.edges.map Edge.index)) =
        some ([0, 3], [0, 3]) := by
    decide +kernel
  cases builds : build Parallel.records Parallel.edges none with
  | error error =>
      simp [builds, Except.toOption] at told
  | ok built =>
      simp only [builds, Except.toOption, Option.map_some, Option.some.injEq, Prod.mk.injEq] at told
      have isPart : built.Descends (built.restrict [Paired.app, Paired.lib] fun _ => true) :=
        .restrict _ _ .origin
      have descends := Descends.subgraph
        (reachFrom _ [Paired.app] .forward fun edge => edge.kind ≠ .development) isPart
      exact ⟨built, rfl, told.1, told.2, descends,
        descends_representation _ _ none built _ builds descends⟩

end PackageGraph

end CargoDeps
