import CargoDeps.Proofs.Graph.Restriction
import CargoDeps.Proofs.Query.Reach

namespace CargoDeps

/-!
# Queries of the part that a query reached

What a query reached is closed under the edges that it followed, so that the part of the graph on it
has all of these edges, in the order of the graph.  A search of that part therefore comes from each
package to the same ones as a search of the graph, in the same order.
-/

namespace Direction

/-- The end of an edge from which a traversal follows it: the source, or in reverse the target. -/
def nearEnd : Direction → Edge → PackageId
  | forward => Edge.source
  | reverse => Edge.target

/-- The end of an edge to which a traversal follows it. -/
def farEnd : Direction → Edge → PackageId
  | forward => Edge.target
  | reverse => Edge.source

/-- Both ends of an edge are among some ids exactly if the near and the far one are. -/
theorem ends_mem_iff
    (direction : Direction)
    {edge : Edge}
    {ids : List PackageId} :
    edge.source ∈ ids ∧ edge.target ∈ ids ↔
      direction.nearEnd edge ∈ ids ∧ direction.farEnd edge ∈ ids := by
  cases direction with
  | forward =>
      exact Iff.rfl
  | reverse =>
      exact and_comm

end Direction

namespace PackageGraph

variable {graph : PackageGraph} {direction : Direction} {chosen also : EdgePredicate}
  {roots : List PackageId}

/-- The edges that a traversal can follow from a package, in input order. -/
def edgesTowards
    (graph : PackageGraph)
    (direction : Direction)
    (id : PackageId) : List Edge :=
  match direction with
  | .forward => graph.edgesFrom id
  | .reverse => graph.edgesTo id

theorem edgesTowards_eq
    (id : PackageId) :
    graph.edgesTowards direction id =
      graph.edges.filter fun edge => direction.nearEnd edge = id := by
  cases direction with
  | forward =>
      exact graph.edgesFrom_eq id
  | reverse =>
      exact graph.edgesTo_eq id

theorem mem_edgesTowards
    {id : PackageId}
    {edge : Edge} :
    edge ∈ graph.edgesTowards direction id ↔ edge ∈ graph.edges ∧ direction.nearEnd edge = id := by
  simp [edgesTowards_eq]

/-- A traversal comes from a package to the far ends of the chosen edges that it can follow. -/
theorem next_towards
    (id : PackageId) :
    (graph.towards direction chosen).next id =
      ((graph.edgesTowards direction id).filter chosen).map direction.farEnd := by
  cases direction <;> rfl

theorem mem_next_towards
    {id other : PackageId} :
    other ∈ (graph.towards direction chosen).next id ↔
      ∃ edge ∈ graph.edges,
        direction.nearEnd edge = id ∧ chosen edge = true ∧ direction.farEnd edge = other := by
  simp only [next_towards, List.mem_map, List.mem_filter, mem_edgesTowards, and_assoc]

/-- What is reached is closed under chosen edges. -/
theorem farEnd_mem_ids_reachFrom
    (known : roots ⊆ graph.ids)
    {edge : Edge}
    (member : edge ∈ graph.edges)
    (accepted : chosen edge = true)
    (reached : direction.nearEnd edge ∈ (graph.reachFrom roots direction chosen).ids) :
    direction.farEnd edge ∈ (graph.reachFrom roots direction chosen).ids := by
  have arrow :
      direction.farEnd edge ∈ (graph.towards direction chosen).next (direction.nearEnd edge) :=
    mem_next_towards.mpr ⟨edge, member, rfl, accepted, rfl⟩
  have knownNodes : roots ⊆ (graph.towards direction chosen).nodes :=
    nodes_towards ▸ known
  rw [reachFrom, Digraph.mem_reach_iff sound_towards knownNodes] at reached ⊢
  obtain ⟨root, isRoot, path⟩ := reached
  exact ⟨root, isRoot, path.tail arrow⟩

/-- The links of a result are the chosen edges from whose near ends the query followed them. -/
theorem links_reachFrom
    (known : roots ⊆ graph.ids) :
    (graph.reachFrom roots direction chosen).links =
      graph.edges.filter fun edge =>
        chosen edge && direction.nearEnd edge ∈ (graph.reachFrom roots direction chosen).ids := by
  rw [QueryResult.links, QueryResult.subgraph, restrict]
  refine List.filter_congr fun edge member => ?_
  rw [Bool.eq_iff_iff]
  simp only [Bool.and_eq_true, decide_eq_true_eq, Direction.ends_mem_iff direction]
  constructor
  · intro kept
    exact ⟨kept.2, kept.1.1⟩
  · intro followed
    exact ⟨⟨followed.2, farEnd_mem_ids_reachFrom known member followed.1 followed.2⟩, followed.1⟩

/-- An edge is in the result exactly if it is chosen and the query followed it from its near end. -/
theorem mem_edges_subgraph
    (known : roots ⊆ graph.ids)
    {edge : Edge} :
    edge ∈ (graph.reachFrom roots direction chosen).subgraph.edges ↔
      edge ∈ graph.edges ∧
        chosen edge = true ∧
          direction.nearEnd edge ∈ (graph.reachFrom roots direction chosen).ids := by
  rw [← QueryResult.links, links_reachFrom known, List.mem_filter, Bool.and_eq_true,
    decide_eq_true_eq]

/-- From a package that was reached, a traversal of the part comes to the same packages as one of the
graph along the edges that both choose. -/
theorem next_towards_subgraph
    (known : roots ⊆ graph.ids)
    {id : PackageId}
    (reached : id ∈ (graph.reachFrom roots direction chosen).ids) :
    ((graph.reachFrom roots direction chosen).subgraph.towards direction also).next id =
      (graph.towards direction fun edge => chosen edge && also edge).next id := by
  have followed :
      (graph.reachFrom roots direction chosen).subgraph.edges =
        graph.edges.filter fun edge =>
          chosen edge && direction.nearEnd edge ∈ (graph.reachFrom roots direction chosen).ids :=
    links_reachFrom known
  rw [next_towards, next_towards, edgesTowards_eq, edgesTowards_eq, followed, List.filter_filter,
    List.filter_filter, List.filter_filter]
  refine congrArg _ (List.filter_congr fun edge _ => ?_)
  rw [Bool.eq_iff_iff]
  simp only [Bool.and_eq_true, decide_eq_true_eq]
  constructor
  · intro both
    exact ⟨⟨both.2.1, both.1.1⟩, both.1.2⟩
  · intro both
    exact ⟨⟨both.1.2, both.2⟩, both.1.1, both.2 ▸ reached⟩

/-- The packages of the part are those that were reached. -/
theorem mem_ids_subgraph
    (known : roots ⊆ graph.ids)
    {id : PackageId} :
    id ∈ (graph.reachFrom roots direction chosen).subgraph.ids ↔
      id ∈ (graph.reachFrom roots direction chosen).ids := by
  rw [QueryResult.subgraph, mem_ids_restrict]
  exact and_iff_right_of_imp fun reached => ids_reachFrom_subset known reached

section

variable {starts : List PackageId}

theorem starts_subset
    (known : roots ⊆ graph.ids)
    (reached : starts ⊆ (graph.reachFrom roots direction chosen).ids) :
    starts ⊆ graph.ids :=
  List.Subset.trans reached (ids_reachFrom_subset known)

theorem starts_subset_subgraph
    (known : roots ⊆ graph.ids)
    (reached : starts ⊆ (graph.reachFrom roots direction chosen).ids) :
    starts ⊆ (graph.reachFrom roots direction chosen).subgraph.ids := by
  intro id isStart
  exact (mem_ids_subgraph known).mpr (reached isStart)

/-- A query of the part finds what one of the graph along the edges that both choose finds. -/
theorem ids_reachFrom_subgraph
    (known : roots ⊆ graph.ids)
    (reached : starts ⊆ (graph.reachFrom roots direction chosen).ids) :
    ((graph.reachFrom roots direction chosen).subgraph.reachFrom starts direction also).ids =
      (graph.reachFrom starts direction fun edge => chosen edge && also edge).ids := by
  have knownInPart := starts_subset_subgraph known reached
  refine Digraph.reach_congr sound_towards sound_towards (nodes_towards ▸ knownInPart)
    (nodes_towards ▸ starts_subset known reached) ?_
  intro id found
  have inPart : id ∈ (graph.reachFrom roots direction chosen).subgraph.ids :=
    ids_reachFrom_subset knownInPart found
  exact next_towards_subgraph known ((mem_ids_subgraph known).mp inPart)

end

/--
What a query reached, as a graph of its own, stands in for the graph: from packages that were
reached, a query in the same direction lists the same packages in the same order as one of the graph
along the edges that both queries choose.  The links of the result are exactly the chosen edges that
leave packages that were reached, or enter them in the reverse direction, in input order.
-/
theorem query_subgraph
    (graph : PackageGraph)
    (roots : List PackageId)
    (direction : Direction)
    (chosen : EdgePredicate)
    (known : roots ⊆ graph.ids) :
    ∃ result, graph.query roots direction chosen = .ok result ∧
      (∀ starts also,
        starts ⊆ result.ids →
        ∃ inside outside,
          result.subgraph.query starts direction also = .ok inside ∧
          graph.query starts direction (fun edge => chosen edge && also edge) = .ok outside ∧
          inside.ids = outside.ids) ∧
      (result.links =
        graph.edges.filter fun edge => chosen edge && direction.nearEnd edge ∈ result.ids) ∧
      result.links.Pairwise fun first second => first.index < second.index := by
  refine ⟨graph.reachFrom roots direction chosen, query_eq_ok_iff.mpr ⟨known, rfl⟩, ?_,
    links_reachFrom known, PackageGraph.ascending_edges _⟩
  intro starts also reached
  exact ⟨_, _, query_eq_ok_iff.mpr ⟨starts_subset_subgraph known reached, rfl⟩,
    query_eq_ok_iff.mpr ⟨starts_subset known reached, rfl⟩, ids_reachFrom_subgraph known reached⟩

/-- What depends on `core` along edges that are not optional is a graph of three packages and the four
such edges among them.  Of these, `lib` and `app` depend on `lib` if edges from `core` do not
count. -/
theorem query_subgraph_paired :
    [Paired.core] ⊆ Paired.sample.ids ∧
      ∃ result, Paired.sample.query [Paired.core] .reverse Paired.firm = .ok result ∧
        [Paired.lib] ⊆ result.ids ∧
        (∃ inside outside,
          result.subgraph.query [Paired.lib] .reverse (fun edge => edge.source ≠ Paired.core) =
            .ok inside ∧
          Paired.sample.query [Paired.lib] .reverse
              (fun edge => Paired.firm edge && edge.source ≠ Paired.core) =
            .ok outside ∧
          inside.ids = outside.ids ∧
          outside.ids = [Paired.lib, Paired.app]) ∧
        result.links.map Edge.index = [1, 2, 3, 4] := by
  have known : [Paired.core] ⊆ Paired.sample.ids := by
    decide
  obtain ⟨result, found, standsIn, -⟩ :=
    query_subgraph Paired.sample [Paired.core] .reverse Paired.firm known
  obtain ⟨-, rfl⟩ := query_eq_ok_iff.mp found
  have reached :
      [Paired.lib] ⊆ (Paired.sample.reachFrom [Paired.core] .reverse Paired.firm).ids := by
    decide +kernel
  obtain ⟨inside, outside, ofPart, ofGraph, same⟩ :=
    standsIn [Paired.lib] (fun edge => edge.source ≠ Paired.core) reached
  obtain ⟨-, rfl⟩ := query_eq_ok_iff.mp ofGraph
  exact ⟨known, _, found, reached, ⟨inside, _, ofPart, ofGraph, same, by decide +kernel⟩,
    by decide +kernel⟩

end PackageGraph

end CargoDeps
