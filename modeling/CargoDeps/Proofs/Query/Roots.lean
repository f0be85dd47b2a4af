import CargoDeps.Proofs.Digraph.Layers
import CargoDeps.Proofs.Query.Cycle
import CargoDeps.Proofs.Query.Subgraph
import CargoDeps.Query

namespace CargoDeps

/-!
# Packages that nothing in a result points at

A query comes to each package by an edge, the roots apart, so that a package that no edge of the
result points at is a root.  Without cycles in the result, edges cannot be followed back forever:
each package that was reached is led to from such a root.
-/

namespace QueryResult

variable {result : QueryResult} {direction : Direction} {id : PackageId}

/-- The root ids are the packages reached that no edge of the result leads to, in a direction. -/
theorem mem_rootIds_iff :
    id ∈ result.rootIds direction ↔
      id ∈ result.ids ∧ ∀ edge ∈ result.subgraph.edges, direction.farEnd edge ≠ id := by
  cases direction with
  | forward =>
      simp only [rootIds, List.mem_filter, List.isEmpty_iff, List.eq_nil_iff_forall_not_mem,
        PackageGraph.mem_edgesTo, not_and, Direction.farEnd, ne_eq]
  | reverse =>
      simp only [rootIds, List.mem_filter, List.isEmpty_iff, List.eq_nil_iff_forall_not_mem,
        PackageGraph.mem_edgesFrom, not_and, Direction.farEnd, ne_eq]

theorem rootIds_subset :
    result.rootIds direction ⊆ result.ids :=
  fun _ isRoot => (mem_rootIds_iff.mp isRoot).1

end QueryResult

namespace PackageGraph

open Relation (TransGen)

variable {graph : PackageGraph} {direction : Direction} {chosen : EdgePredicate}
  {roots : List PackageId}

/-- In either direction, a package comes back to itself exactly if it does along the edges. -/
theorem transGen_towards_self_iff
    {id : PackageId} :
    TransGen (Digraph.Arrow (graph.towards direction chosen).next) id id ↔
      TransGen (graph.Links chosen) id id := by
  cases direction with
  | forward =>
      rw [towards, arrow_along]
  | reverse =>
      rw [arrow_towards_reverse, Relation.transGen_swap]

/-- A graph without cycles is acyclic in both directions. -/
theorem acyclic_towards
    (noCycles : graph.findCycles chosen = []) :
    (graph.towards direction chosen).Acyclic := by
  intro id _ closed
  obtain ⟨cycle, found, -⟩ := exists_mem_members_iff.mpr (transGen_towards_self_iff.mp closed)
  exact List.not_mem_nil (noCycles ▸ found)

/-- A package that no edge of the result leads to is one of the roots. -/
theorem rootIds_subset_roots
    (known : roots ⊆ graph.ids) :
    (graph.reachFrom roots direction chosen).rootIds direction ⊆ roots := by
  intro id isRootId
  obtain ⟨reached, nothingLeads⟩ := QueryResult.mem_rootIds_iff.mp isRootId
  obtain ⟨root, isRoot, path⟩ :=
    (Digraph.mem_reach_iff sound_towards (nodes_towards ▸ known)).mp reached
  rcases path.cases_tail with same | ⟨middle, earlier, arrow⟩
  · exact same ▸ isRoot
  · obtain ⟨edge, member, rfl, accepted, toId⟩ := mem_next_towards.mp arrow
    have nearReached :
        direction.nearEnd edge ∈ (graph.reachFrom roots direction chosen).ids :=
      (Digraph.mem_reach_iff sound_towards (nodes_towards ▸ known)).mpr ⟨root, isRoot, earlier⟩
    exact absurd toId (nothingLeads edge ((mem_edges_subgraph known).mpr
      ⟨member, accepted, nearReached⟩))

theorem rootIds_subset_ids
    (known : roots ⊆ graph.ids) :
    (graph.reachFrom roots direction chosen).rootIds direction ⊆ graph.ids :=
  starts_subset known QueryResult.rootIds_subset

/-- Without cycles in the result, all that was reached is reached from its root ids. -/
theorem ids_subset_ids_reachFrom_rootIds
    (known : roots ⊆ graph.ids)
    (noCycles : (graph.reachFrom roots direction chosen).subgraph.findCycles .everything = []) :
    (graph.reachFrom roots direction chosen).ids ⊆
      (graph.reachFrom ((graph.reachFrom roots direction chosen).rootIds direction) direction
        chosen).ids := by
  have rootIdsKnown :
      (graph.reachFrom roots direction chosen).rootIds direction ⊆ graph.ids :=
    rootIds_subset_ids known
  set result := graph.reachFrom roots direction chosen
  set again := graph.reachFrom (result.rootIds direction) direction chosen
  by_contra incomplete
  obtain ⟨lost, reached, lostMissing⟩ : ∃ id ∈ result.ids, id ∉ again.ids := by
    simpa [List.subset_def] using incomplete
  -- Followed back, the edges to a package that is missing end at one that no missing one leads to.
  obtain ⟨id, ⟨idReached, idMissing⟩, noneMissing⟩ :=
    (acyclic_towards noCycles).exists_first {id | id ∈ result.ids ∧ id ∉ again.ids}
      ⟨lost, reached, lostMissing⟩
      (fun id both => nodes_towards ▸ (mem_ids_subgraph known).mpr both.1)
  have notRootId : id ∉ result.rootIds direction :=
    fun isRootId => idMissing (roots_subset_ids_reachFrom rootIdsKnown isRootId)
  obtain ⟨edge, member, leads⟩ :
      ∃ edge ∈ result.subgraph.edges, direction.farEnd edge = id := by
    simpa [QueryResult.mem_rootIds_iff, idReached] using notRootId
  obtain ⟨inGraph, accepted, nearReached⟩ := (mem_edges_subgraph known).mp member
  have nearFound : direction.nearEnd edge ∈ again.ids := by
    by_contra nearMissing
    exact noneMissing (direction.nearEnd edge) ⟨nearReached, nearMissing⟩
      (mem_next_towards.mpr ⟨edge, member, rfl, rfl, leads⟩)
  exact idMissing (leads ▸ farEnd_mem_ids_reachFrom rootIdsKnown inGraph accepted nearFound)

/-- What is reached from packages that were reached has been reached before. -/
theorem ids_reachFrom_again_subset
    {starts : List PackageId}
    (known : roots ⊆ graph.ids)
    (reached : starts ⊆ (graph.reachFrom roots direction chosen).ids) :
    (graph.reachFrom starts direction chosen).ids ⊆
      (graph.reachFrom roots direction chosen).ids := by
  intro id found
  obtain ⟨start, isStart, onwards⟩ := (mem_ids_reachFrom (starts_subset known reached)).mp found
  obtain ⟨root, isRoot, path⟩ := (mem_ids_reachFrom known).mp (reached isStart)
  exact (mem_ids_reachFrom known).mpr ⟨root, isRoot, path.trans onwards⟩

/--
The packages of a result that no edge of it leads to, in the direction of the query, are roots of the
query.  If the result has no cycles, they are enough: a query of them alone, in the same direction
and along the same edges, finds the same packages.
-/
theorem rootIds_reach_all
    (graph : PackageGraph)
    (roots : List PackageId)
    (direction : Direction)
    (chosen : EdgePredicate)
    (result : QueryResult)
    (found : graph.query roots direction chosen = .ok result) :
    result.rootIds direction ⊆ roots ∧
      (result.subgraph.findCycles .everything = [] →
        ∃ again,
          graph.query (result.rootIds direction) direction chosen = .ok again ∧
            again.ids.Perm result.ids) := by
  obtain ⟨known, rfl⟩ := query_eq_ok_iff.mp found
  refine ⟨rootIds_subset_roots known, ?_⟩
  intro noCycles
  have rootIdsKnown :
      (graph.reachFrom roots direction chosen).rootIds direction ⊆ graph.ids :=
    rootIds_subset_ids known
  refine ⟨_, query_eq_ok_iff.mpr ⟨rootIdsKnown, rfl⟩, ?_⟩
  apply (List.perm_ext_iff_of_nodup (nodup_ids_reachFrom rootIdsKnown)
    (nodup_ids_reachFrom known)).mpr
  intro id
  constructor
  · intro reached
    exact ids_reachFrom_again_subset known QueryResult.rootIds_subset reached
  · intro reached
    exact ids_subset_ids_reachFrom_rootIds known noCycles reached

/-- Along three edges that close no cycle, `app` leads to `lib`, so that of these two roots `app` is
enough.  A query of `app` finds it first. -/
theorem rootIds_reach_all_paired :
    let chosen : EdgePredicate := fun edge => edge.index ∈ [1, 2, 5]
    ∃ result,
      Paired.sample.query [Paired.lib, Paired.app] .forward chosen = .ok result ∧
        result.ids = [Paired.lib, Paired.app, Paired.core, Paired.tool] ∧
          result.rootIds .forward = [Paired.app] ∧
            result.rootIds .forward ⊆ [Paired.lib, Paired.app] ∧
              result.subgraph.findCycles .everything = [] ∧
                ∃ again,
                  Paired.sample.query (result.rootIds .forward) .forward chosen = .ok again ∧
                    again.ids = [Paired.app, Paired.lib, Paired.core, Paired.tool] ∧
                      again.ids.Perm result.ids := by
  intro chosen
  have found :
      Paired.sample.query [Paired.lib, Paired.app] .forward chosen =
        .ok (Paired.sample.reachFrom [Paired.lib, Paired.app] .forward chosen) :=
    query_eq_ok_iff.mpr ⟨by decide, rfl⟩
  obtain ⟨areRoots, enough⟩ :=
    rootIds_reach_all Paired.sample [Paired.lib, Paired.app] .forward chosen _ found
  have noCycles :
      (Paired.sample.reachFrom [Paired.lib, Paired.app] .forward chosen).subgraph.findCycles
          .everything = [] := by
    decide +kernel
  obtain ⟨again, foundAgain, same⟩ := enough noCycles
  obtain ⟨-, rfl⟩ := query_eq_ok_iff.mp foundAgain
  exact ⟨_, found, by decide +kernel, by decide +kernel, areRoots, noCycles, _, foundAgain,
    by decide +kernel, same⟩

end PackageGraph

end CargoDeps
