import CargoDeps.Proofs.Query.Subgraph
import CargoDeps.Query

namespace CargoDeps.PackageGraph

/-!
# Results put together

What two queries in one direction along the same edges reach together is what a query of all their
roots reaches.  What both of them reach is closed under the edges that they follow, so that a query
of it reaches nothing else.
-/

variable {graph : PackageGraph} {direction : Direction} {chosen : EdgePredicate}
  {roots first second : List PackageId}

/-! ### Closed lists of packages -/

/-- What a chosen edge leads to, in a direction, from one of some packages is one of them. -/
def IsClosed
    (graph : PackageGraph)
    (direction : Direction)
    (chosen : EdgePredicate)
    (ids : List PackageId) : Prop :=
  ∀ edge ∈ graph.edges,
    chosen edge = true →
    direction.nearEnd edge ∈ ids →
    direction.farEnd edge ∈ ids

theorem isClosed_ids_reachFrom
    (known : roots ⊆ graph.ids) :
    graph.IsClosed direction chosen (graph.reachFrom roots direction chosen).ids :=
  fun _ member accepted reached => farEnd_mem_ids_reachFrom known member accepted reached

/-- What is among both of two closed lists is closed. -/
theorem IsClosed.filter_mem
    {ids others : List PackageId}
    (closed : graph.IsClosed direction chosen ids)
    (othersClosed : graph.IsClosed direction chosen others) :
    graph.IsClosed direction chosen (ids.filter (· ∈ others)) := by
  intro edge member accepted near
  obtain ⟨inIds, inOthers⟩ := List.mem_filter.mp near
  refine List.mem_filter.mpr ⟨closed edge member accepted inIds, ?_⟩
  exact decide_eq_true (othersClosed edge member accepted (of_decide_eq_true inOthers))

/-- A query of packages that are closed already lists them and no others. -/
theorem ids_reachFrom_of_isClosed
    {ids : List PackageId}
    (closed : graph.IsClosed direction chosen ids)
    (nodup : ids.Nodup) :
    (graph.reachFrom ids direction chosen).ids = ids := by
  apply Digraph.reach_of_closed nodup
  intro id isRoot other leads
  obtain ⟨edge, member, rfl, accepted, rfl⟩ := mem_next_towards.mp leads
  exact closed edge member accepted isRoot

/-! ### Unions -/

/-- A query does not tell whether its roots repeat some packages. -/
theorem reachFrom_distinct_append :
    graph.reachFrom (Sequence.distinct first ++ Sequence.distinct second) direction chosen =
      graph.reachFrom (first ++ second) direction chosen := by
  simp only [reachFrom, Digraph.reach, Sequence.distinct_append_distinct]

/-- What two queries reach together is what a query of all their roots reaches. -/
theorem mem_ids_union_iff
    (firstKnown : first ⊆ graph.ids)
    (secondKnown : second ⊆ graph.ids)
    {id : PackageId} :
    id ∈ ((graph.reachFrom first direction chosen).union
        (graph.reachFrom second direction chosen)).ids ↔
      id ∈ (graph.reachFrom (first ++ second) direction chosen).ids := by
  have known : first ++ second ⊆ graph.ids :=
    List.append_subset.mpr ⟨firstKnown, secondKnown⟩
  rw [QueryResult.union, Sequence.mem_distinct, List.mem_append, mem_ids_reachFrom firstKnown,
    mem_ids_reachFrom secondKnown, mem_ids_reachFrom known]
  simp only [List.mem_append, or_and_right, exists_or]

/-- So both have the same graph. -/
theorem subgraph_union_eq
    (firstKnown : first ⊆ graph.ids)
    (secondKnown : second ⊆ graph.ids) :
    ((graph.reachFrom first direction chosen).union
        (graph.reachFrom second direction chosen)).subgraph =
      (graph.reachFrom (first ++ second) direction chosen).subgraph :=
  restrict_congr fun _ => mem_ids_union_iff firstKnown secondKnown

end CargoDeps.PackageGraph

namespace CargoDeps.QueryResult

/-- The order of a result hangs on its graph only. -/
theorem orderedIds_congr
    {result other : QueryResult}
    (same : result.subgraph = other.subgraph)
    (direction : Direction) :
    result.orderedIds direction = other.orderedIds direction := by
  simp only [orderedIds, same]

/--
Of two queries of one graph, in one direction and along the same edges, the union agrees with the
query of the roots of the first followed by those of the second, in all but the order of discovery:
it has the same roots, packages, graph, links and orders, and lists no package twice.  The
intersection is closed: a query of its packages lists them again, and no others.
-/
theorem union_intersection_of_queries
    (graph : PackageGraph)
    (first second : List PackageId)
    (direction : Direction)
    (chosen : EdgePredicate)
    (one other : QueryResult)
    (oneFound : graph.query first direction chosen = .ok one)
    (otherFound : graph.query second direction chosen = .ok other) :
    (∃ whole,
      graph.query (one.roots ++ other.roots) direction chosen = .ok whole ∧
      graph.query (first ++ second) direction chosen = .ok whole ∧
      (one.union other).roots = whole.roots ∧
      (∀ id, id ∈ (one.union other).ids ↔ id ∈ whole.ids) ∧
      (one.union other).ids.Nodup ∧
      (one.union other).subgraph = whole.subgraph ∧
      (one.union other).links = whole.links ∧
      ∀ order, (one.union other).orderedIds order = whole.orderedIds order) ∧
    ∃ again,
      graph.query (one.intersection other).ids direction chosen = .ok again ∧
      again.ids = (one.intersection other).ids := by
  obtain ⟨firstKnown, rfl⟩ := PackageGraph.query_eq_ok_iff.mp oneFound
  obtain ⟨secondKnown, rfl⟩ := PackageGraph.query_eq_ok_iff.mp otherFound
  refine ⟨?_, ?_⟩
  · have known : first ++ second ⊆ graph.ids :=
      List.append_subset.mpr ⟨firstKnown, secondKnown⟩
    have rootsKnown : Sequence.distinct first ++ Sequence.distinct second ⊆ graph.ids := by
      intro id isRoot
      exact known (by simpa using isRoot)
    have sameGraph :
        ((graph.reachFrom first direction chosen).union
            (graph.reachFrom second direction chosen)).subgraph =
          (graph.reachFrom (first ++ second) direction chosen).subgraph :=
      PackageGraph.subgraph_union_eq firstKnown secondKnown
    exact ⟨graph.reachFrom (first ++ second) direction chosen,
      PackageGraph.query_eq_ok_iff.mpr ⟨rootsKnown, PackageGraph.reachFrom_distinct_append⟩,
      PackageGraph.query_eq_ok_iff.mpr ⟨known, rfl⟩,
      Sequence.distinct_append_distinct first second,
      fun _ => PackageGraph.mem_ids_union_iff firstKnown secondKnown,
      Sequence.nodup_distinct _, sameGraph, congrArg PackageGraph.edges sameGraph,
      orderedIds_congr sameGraph⟩
  · have known :
        (graph.reachFrom first direction chosen).ids.filter
            (· ∈ (graph.reachFrom second direction chosen).ids) ⊆ graph.ids :=
      List.Subset.trans (List.filter_subset_self _) (PackageGraph.ids_reachFrom_subset firstKnown)
    refine ⟨_, PackageGraph.query_eq_ok_iff.mpr ⟨known, rfl⟩, ?_⟩
    apply PackageGraph.ids_reachFrom_of_isClosed
    · exact (PackageGraph.isClosed_ids_reachFrom firstKnown).filter_mem
        (PackageGraph.isClosed_ids_reachFrom secondKnown)
    · exact (PackageGraph.nodup_ids_reachFrom firstKnown).filter _

/-- In reverse, `tool` is reached from all packages and `lib` from all but `tool`.  Together they give
the packages in another order than one query does, and the same graph, whose packages stand in one
order. -/
theorem union_intersection_paired :
    ∃ one other,
      Paired.sample.query [Paired.tool] .reverse Paired.firm = .ok one ∧
      Paired.sample.query [Paired.lib] .reverse Paired.firm = .ok other ∧
      (one.union other).ids = [Paired.tool, Paired.core, Paired.lib, Paired.app] ∧
      (one.intersection other).ids = [Paired.core, Paired.lib, Paired.app] ∧
      (∃ whole,
        Paired.sample.query (one.roots ++ other.roots) .reverse Paired.firm = .ok whole ∧
        whole.ids = [Paired.tool, Paired.lib, Paired.core, Paired.app] ∧
        (one.union other).roots = whole.roots ∧
        (∀ id, id ∈ (one.union other).ids ↔ id ∈ whole.ids) ∧
        (one.union other).ids.Nodup ∧
        (one.union other).subgraph = whole.subgraph ∧
        (one.union other).links = whole.links ∧
        ∀ order, (one.union other).orderedIds order = whole.orderedIds order) ∧
      ∃ again,
        Paired.sample.query (one.intersection other).ids .reverse Paired.firm = .ok again ∧
        again.ids = (one.intersection other).ids := by
  have toolFound :
      Paired.sample.query [Paired.tool] .reverse Paired.firm =
        .ok (Paired.sample.reachFrom [Paired.tool] .reverse Paired.firm) :=
    PackageGraph.query_eq_ok_iff.mpr ⟨by decide, rfl⟩
  have libFound :
      Paired.sample.query [Paired.lib] .reverse Paired.firm =
        .ok (Paired.sample.reachFrom [Paired.lib] .reverse Paired.firm) :=
    PackageGraph.query_eq_ok_iff.mpr ⟨by decide, rfl⟩
  obtain ⟨⟨whole, wholeFound, found, agree⟩, again⟩ :=
    union_intersection_of_queries Paired.sample [Paired.tool] [Paired.lib] .reverse Paired.firm _ _
      toolFound libFound
  obtain ⟨-, rfl⟩ := PackageGraph.query_eq_ok_iff.mp found
  exact ⟨_, _, toolFound, libFound, by decide +kernel, by decide +kernel,
    ⟨_, wholeFound, by decide +kernel, agree⟩, again⟩

end CargoDeps.QueryResult
